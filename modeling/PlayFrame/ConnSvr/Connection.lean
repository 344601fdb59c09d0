/-
# `PlayFrame.ConnSvr.Connection` — the buffers of a client connection

`connsvr/conn_mgr_module/connection.{h,cpp}`, with the `Utils` functions that take a
package of a client apart and the `while` loop of `EventModule::DoTcpRead`, which
forwards the packages received to gamesvr.

A package of a client is its own total length, two bytes in network order, and the
payload.  `recv_buf_` and `send_buf_` are arrays of `PKG_BUF_SIZE` bytes of which the
first `recv_buf_size_` and `send_buf_size_` count: the lists here are those bytes.
-/
import PlayFrame.Frame.CommDef
import PlayFrame.Lib.Framing

namespace PlayFrame

/-! ## `utils.h` -/

namespace Utils

/-- `ntohs(*(uint16_t*)buf)`; both bytes are there wherever it is used. -/
def ntohs : Bytes → Nat
  | b₀ :: b₁ :: _ => b₀.toNat * 256 + b₁.toNat
  | _ => 0

/-- `Utils::GetMsgFromClient`: the payload starts behind the length. -/
def getMsgFromClient : Nat := 2

/-- `Utils::GetMsgLenFromClient`: a difference of `size_t`, converted back. -/
def getMsgLenFromClient (pkgBuf : Bytes) : Int :=
  toInt32 (((ntohs pkgBuf : Int) - 2) % 18446744073709551616)

theorem ntohs_lt (b : Bytes) : ntohs b < 65536 := by
  match b with
  | [] => decide
  | [_] => exact Nat.zero_lt_succ _
  | b₀ :: b₁ :: _ =>
      have h₀ := b₀.toNat_lt
      have h₁ := b₁.toNat_lt
      show b₀.toNat * 256 + b₁.toNat < 65536
      omega

theorem getMsgLenFromClient_eq (b : Bytes) : getMsgLenFromClient b = (ntohs b : Int) - 2 := by
  have h := ntohs_lt b
  unfold getMsgLenFromClient toInt32
  rw [Int.bmod_def]
  omega

theorem ntohs_append {s : Bytes} (t : Bytes) (h : 4 < s.length) : ntohs (s ++ t) = ntohs s := by
  match s with
  | [] => exact absurd h (by decide)
  | [_] => exact absurd h (by simp)
  | _ :: _ :: _ => rfl

end Utils

/-- `memcpy(dst, buf + off, len)` from the bytes of `buf` that count, where `len` is
converted to a `size_t`. -/
def copyOut (buf : Bytes) (off : Nat) (len : Int) : Result Bytes :=
  if 0 ≤ len ∧ off + len ≤ buf.length then .ok ((buf.drop off).take len.toNat)
  else .error .outOfBounds

/-! ## `class Connection` -/

/-- `class Connection`. -/
structure Connection where
  playerIdx : Int
  connFd : Int
  recvBuf : Bytes
  sendBuf : Bytes
  deriving DecidableEq, Repr

namespace Connection

/-- `Connection::Init`. -/
def init : Connection where
  playerIdx := 0
  connFd := 0
  recvBuf := []
  sendBuf := []

/-- `Connection::AddRecvData`; `none` is its answer -1. -/
def addRecvData (conn : Connection) (buf : Bytes) : Option Connection :=
  if conn.recvBuf.length + buf.length > pkgBufSize then none
  else some { conn with recvBuf := conn.recvBuf ++ buf }

/-- `Connection::GetRecvProtoLen`. -/
def getRecvProtoLen (conn : Connection) : Nat := Utils.ntohs conn.recvBuf

/-- `Connection::IsRecvProtoReady`. -/
def IsRecvProtoReady (conn : Connection) : Prop :=
  conn.recvBuf.length > 4 ∧ conn.getRecvProtoLen ≤ conn.recvBuf.length

instance (conn : Connection) : Decidable conn.IsRecvProtoReady := by
  unfold IsRecvProtoReady
  infer_instance

/-- `Connection::RemoveRecvProto`: the `memmove` of what is left. -/
def removeRecvProto (conn : Connection) : Result Connection :=
  if conn.getRecvProtoLen ≤ conn.recvBuf.length then
    .ok { conn with recvBuf := conn.recvBuf.drop conn.getRecvProtoLen }
  else .error .outOfBounds

/-- `Connection::AddSendData`; `none` is its answer -1. -/
def addSendData (conn : Connection) (buf : Bytes) : Option Connection :=
  if conn.sendBuf.length + buf.length > pkgBufSize then none
  else some { conn with sendBuf := conn.sendBuf ++ buf }

/-- `Connection::RemoveSendData`. -/
def removeSendData (conn : Connection) (len : Nat) : Connection :=
  { conn with sendBuf := conn.sendBuf.drop len }

/-- `Connection::ClearSendData`. -/
def clearSendData (conn : Connection) : Connection := { conn with sendBuf := [] }

/-! ## The loop of `DoTcpRead` -/

/-- One pass of the loop of `EventModule::DoTcpRead` up to `RemoveRecvProto`: the
message that is given to `zmq_send`, or `none` at the `return` for a long message.
The package is parsed for the log only. -/
def forwardProto (conn : Connection) (connFd : Int) : Result (Option (ConnMsg × Connection)) := do
  let msgLen := Utils.getMsgLenFromClient conn.recvBuf
  if msgLen > pkgBufSize then .ok none
  else do
    let connCmd := if conn.playerIdx = 0 then ConnCmd.connStart else ConnCmd.connProc
    let payload ← copyOut conn.recvBuf Utils.getMsgFromClient msgLen
    let msg : ConnMsg := ⟨⟨connFd, conn.playerIdx, connCmd⟩, payload⟩
    let conn ← conn.removeRecvProto
    .ok (some (msg, conn))

/-- How the loop ends: no complete package is left, a package is too long, or
`zmq_send` failed. -/
inductive ReadEnd where
  | done
  | tooLong
  | sendFailed
  deriving DecidableEq, Repr

/-- The loop of `EventModule::DoTcpRead`, with the messages sent; `zmq k` says whether
the `k`-th `zmq_send` succeeds. -/
def readLoop (connFd : Int) : Nat → (Nat → Bool) → Connection →
    Result (Option (ReadEnd × Connection × List ConnMsg))
  | 0, _, _ => .ok none
  | fuel + 1, zmq, conn =>
      if conn.IsRecvProtoReady then do
        match ← conn.forwardProto connFd with
        | none => .ok (some (.tooLong, conn, []))
        | some (msg, conn) =>
            if zmq 0 then do
              match ← readLoop connFd fuel (fun k => zmq (k + 1)) conn with
              | none => .ok none
              | some (readEnd, conn, sent) => .ok (some (readEnd, conn, msg :: sent))
            else .ok (some (.sendFailed, conn, []))
      else .ok (some (.done, conn, []))

/-! ## One pass -/

/-- The packages of clients, as the connection cuts them. -/
def clientFraming : Lib.Framing UInt8 where
  hdr := 4
  low := 2
  len := Utils.ntohs
  len_append := fun _ t h => Utils.ntohs_append t h
  low_pos := by decide

section
variable {conn conn' : Connection} {connFd : Int} {msg : ConnMsg} {chunk : Bytes}

theorem addRecvData_some (h : conn.addRecvData chunk = some conn') :
    conn.recvBuf.length + chunk.length ≤ pkgBufSize ∧
      conn' = { conn with recvBuf := conn.recvBuf ++ chunk } := by
  unfold addRecvData at h
  split at h
  · cases h
  · next hcap =>
    cases h
    exact ⟨Nat.le_of_not_gt hcap, rfl⟩

theorem isRecvProtoReady_iff : conn.IsRecvProtoReady ↔ clientFraming.Ready conn.recvBuf := Iff.rfl

theorem forwardProto_eq (h : conn.IsRecvProtoReady) (hlen : 2 ≤ conn.getRecvProtoLen)
    (hcap : conn.recvBuf.length ≤ pkgBufSize) :
    conn.forwardProto connFd = .ok (some
      (⟨⟨connFd, conn.playerIdx, if conn.playerIdx = 0 then .connStart else .connProc⟩,
        (conn.recvBuf.drop 2).take (conn.getRecvProtoLen - 2)⟩,
       { conn with recvBuf := conn.recvBuf.drop conn.getRecvProtoLen })) := by
  have hle := h.2
  unfold getRecvProtoLen at hle hlen
  have hcopy : copyOut conn.recvBuf Utils.getMsgFromClient
      (Utils.getMsgLenFromClient conn.recvBuf) =
        .ok ((conn.recvBuf.drop 2).take (conn.getRecvProtoLen - 2)) := by
    unfold copyOut
    rw [Utils.getMsgLenFromClient_eq, if_pos (by unfold Utils.getMsgFromClient; omega)]
    have : ((Utils.ntohs conn.recvBuf : Int) - 2).toNat = conn.getRecvProtoLen - 2 := by
      unfold getRecvProtoLen
      omega
    rw [this]
    rfl
  have hnot : ¬ Utils.getMsgLenFromClient conn.recvBuf > pkgBufSize := by
    rw [Utils.getMsgLenFromClient_eq]
    omega
  unfold forwardProto
  simp only [if_neg hnot, hcopy, ok_bind, removeRecvProto, if_pos h.2]

theorem forwardProto_short (hlen : conn.getRecvProtoLen < 2) :
    conn.forwardProto connFd = .error .outOfBounds := by
  have hneg : Utils.getMsgLenFromClient conn.recvBuf < 0 := by
    rw [Utils.getMsgLenFromClient_eq]
    unfold getRecvProtoLen at hlen
    omega
  have hnot : ¬ Utils.getMsgLenFromClient conn.recvBuf > pkgBufSize := by omega
  have hcopy : copyOut conn.recvBuf Utils.getMsgFromClient
      (Utils.getMsgLenFromClient conn.recvBuf) = .error .outOfBounds := by
    unfold copyOut
    rw [if_neg (by omega)]
  unfold forwardProto
  simp only [if_neg hnot, hcopy, error_bind]

theorem forwardProto_some (h : conn.IsRecvProtoReady) (hcap : conn.recvBuf.length ≤ pkgBufSize)
    (hf : conn.forwardProto connFd = .ok (some (msg, conn'))) :
    2 ≤ conn.getRecvProtoLen ∧
      conn' = { conn with recvBuf := conn.recvBuf.drop conn.getRecvProtoLen } := by
  rcases Nat.lt_or_ge conn.getRecvProtoLen 2 with hlt | hge
  · rw [forwardProto_short hlt] at hf
    cases hf
  · rw [forwardProto_eq h hge hcap] at hf
    cases hf
    exact ⟨hge, rfl⟩

/-! ## The loop -/

theorem pass_length (h : conn.IsRecvProtoReady) (hlen : 2 ≤ conn.getRecvProtoLen) :
    (conn.recvBuf.drop conn.getRecvProtoLen).length < conn.recvBuf.length := by
  have h' : clientFraming.Ready conn.recvBuf := h
  exact Lib.Framing.length_drop_lt h' hlen

/-- What the loop has done when it ends: only the receive buffer is written, and every
message sent is a complete package and carries the connection's own fd and player. -/
structure LoopEnd (connFd : Int) (zmq : Nat → Bool) (conn : Connection) (readEnd : ReadEnd)
    (conn' : Connection) (sent : List ConnMsg) : Prop where
  frame : conn' = { conn with recvBuf := conn'.recvBuf }
  unread : clientFraming.Unread conn.recvBuf conn'.recvBuf
  header : ∀ msg ∈ sent, msg.connData =
    ⟨connFd, conn.playerIdx, if conn.playerIdx = 0 then .connStart else .connProc⟩
  first : sent ≠ [] → conn.IsRecvProtoReady
  second : 1 < sent.length → clientFraming.Ready (conn.recvBuf.drop conn.getRecvProtoLen)
  accepted : ∀ k < sent.length, zmq k = true
  readEnd : readEnd = .done ∧ ¬ conn'.IsRecvProtoReady ∨
    readEnd = .sendFailed ∧ zmq sent.length = false

/-- **The loop ends** after at most one pass for each byte, by itself or with a copy out
of the buffer. -/
theorem readLoop_cases (connFd : Int) : ∀ (fuel : Nat) (zmq : Nat → Bool) (conn : Connection),
    conn.recvBuf.length < fuel → conn.recvBuf.length ≤ pkgBufSize →
    (readLoop connFd fuel zmq conn = .error .outOfBounds ∧
      ¬ clientFraming.WellHeaded conn.recvBuf) ∨
    ∃ readEnd conn' sent, readLoop connFd fuel zmq conn = .ok (some (readEnd, conn', sent)) ∧
      LoopEnd connFd zmq conn readEnd conn' sent
  | 0, _, _ => fun h => absurd h (Nat.not_lt_zero _)
  | fuel + 1, zmq, conn => by
      intro hfuel hcap
      unfold readLoop
      by_cases hready : conn.IsRecvProtoReady
      · rw [if_pos hready]
        have hready' : clientFraming.Ready conn.recvBuf := hready
        rcases Nat.lt_or_ge conn.getRecvProtoLen 2 with hlt | hge
        · rw [forwardProto_short hlt]
          exact Or.inl ⟨rfl, fun hw => absurd (hw _ (.refl _) hready'.1) (not_le.mpr hlt)⟩
        · rw [forwardProto_eq hready hge hcap]
          have hstep := Lib.Framing.Unread.frame (.refl conn.recvBuf) hready' hge
          have hlen := pass_length hready hge
          cases hz : zmq 0 with
          | false =>
              refine Or.inr ⟨_, _, _, rfl, rfl, hstep, ?_, ?_, ?_, ?_, Or.inr ⟨rfl, hz⟩⟩
              · exact fun _ h => absurd h List.not_mem_nil
              · exact fun h => absurd rfl h
              · exact fun h => absurd h (Nat.not_lt_zero _)
              · exact fun _ h => absurd h (Nat.not_lt_zero _)
          | true =>
              rcases readLoop_cases connFd fuel (fun k => zmq (k + 1))
                  { conn with recvBuf := conn.recvBuf.drop conn.getRecvProtoLen }
                  (Nat.lt_of_lt_of_le hlen (Nat.lt_succ_iff.mp hfuel))
                  (Nat.le_trans (Nat.le_of_lt hlen) hcap) with ⟨he, hw⟩ | ⟨e, conn', sent, he, hend⟩
              · simp only [ok_bind, if_true, he, error_bind]
                exact Or.inl ⟨trivial, fun h => hw (h.unread hstep)⟩
              · simp only [ok_bind, if_true, he]
                refine Or.inr ⟨_, _, _, rfl, ?_, hstep.trans hend.unread, ?_, fun _ => hready, ?_, ?_,
                  hend.readEnd⟩
                · rw [hend.frame]
                · rintro msg (_ | ⟨_, hm⟩)
                  · rfl
                  · exact hend.header msg hm
                · intro hmore
                  exact hend.first (List.ne_nil_of_length_pos (Nat.lt_of_succ_lt_succ hmore))
                · rintro (_ | k) hk
                  · exact hz
                  · exact hend.accepted k (Nat.lt_of_succ_lt_succ hk)
      · rw [if_neg hready]
        refine Or.inr ⟨_, _, _, rfl, rfl, .refl _, ?_, ?_, ?_, ?_, Or.inl ⟨rfl, hready⟩⟩
        · exact fun _ h => absurd h List.not_mem_nil
        · exact fun h => absurd rfl h
        · exact fun h => absurd h (Nat.not_lt_zero _)
        · exact fun _ h => absurd h (Nat.not_lt_zero _)

end

end Connection

end PlayFrame
