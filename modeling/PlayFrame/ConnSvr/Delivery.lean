/-
# `PlayFrame.ConnSvr.Delivery` — what becomes of a well-formed stream

A client sends packages, and `recv` hands their bytes to `EventModule::DoTcpRead` cut at
any places.  Two things can keep a package from gamesvr.  `IsRecvProtoReady` waits for
more than 4 bytes, which a package with a payload of one or two bytes does not have when
it is the last one; and a chunk is refused when it does not fit in `recv_buf_` next to
the part of a package that is there already.  The main result says that there is nothing
else.
-/
import PlayFrame.ConnSvr.RecvStream
import PlayFrame.ConnSvr.Event

namespace PlayFrame

open Lib

namespace Connection

/-- `EventModule::DoTcpRead` on the bytes of one `recv`, where every `zmq_send` succeeds:
the connection and the messages sent, or `none` if the bytes are refused. -/
def recvChunk (connFd : Int) (conn : Connection) (buf : Bytes) :
    Result (Option (Connection × List ConnMsg)) :=
  match conn.addRecvData buf with
  | none => .ok none
  | some c => do
      match ← readLoop connFd (c.recvBuf.length + 1) (fun _ => true) c with
      | none => .ok none
      | some (_, c, sent) => .ok (some (c, sent))

/-- The same on one chunk after the other. -/
def recvAll (connFd : Int) : List Bytes → Connection →
    Result (Option (Connection × List ConnMsg))
  | [], conn => .ok (some (conn, []))
  | chunk :: chunks, conn => do
      match ← recvChunk connFd conn chunk with
      | none => .ok none
      | some (conn, sent) => do
          match ← recvAll connFd chunks conn with
          | none => .ok none
          | some (conn, rest) => .ok (some (conn, sent ++ rest))

/-- The bytes that a client sends for some payloads. -/
def wire (payloads : List Bytes) : Bytes := (payloads.map ConnSvr.clientFrame).flatten

/-- The chunks are taken, exactly the payloads are forwarded, and nothing is left over. -/
def Delivered (connFd : Int) (payloads chunks : List Bytes) : Prop :=
  ∃ conn sent, recvAll connFd chunks { init with connFd := connFd } = .ok (some (conn, sent)) ∧
    sent.map ConnMsg.payload = payloads ∧ conn.recvBuf = []

/-- A payload that is not empty, in a package of at most `PKG_BUF_SIZE` bytes. -/
def WellFormed (payload : Bytes) : Prop := payload ≠ [] ∧ payload.length + 2 ≤ pkgBufSize

/-- The last package has more than 4 bytes. -/
def LastLong (payloads : List Bytes) : Prop :=
  ∀ payload ∈ payloads.getLast?, 4 < payload.length + 2

section
variable {connFd : Int} {conn : Connection} {payload : Bytes} {payloads : List Bytes}
  {t rest : Bytes}

theorem doTcpRead_recvChunk {s : ConnSvr} {ptr : Nat} {epoller : Bool} {buf : Bytes}
    (hconn : s.connMgr.getConn connFd = some ptr) :
    s.doTcpRead epoller connFd (.data buf) (fun _ => true) = (do
      match ← recvChunk connFd (s.connMgr.connPool.mem ptr) buf with
      | none => do
          let s ← s.releaseAndClear epoller connFd
          .ok (some (s, []))
      | some (c, sent) =>
          .ok (some ({ s with connMgr := s.connMgr.modifyConn ptr (fun _ => c) }, sent))) := by
  unfold ConnSvr.doTcpRead recvChunk
  simp only [hconn]
  cases hadd : (s.connMgr.connPool.mem ptr).addRecvData buf with
  | none => rfl
  | some c =>
      obtain ⟨hcap, rfl⟩ := addRecvData_some hadd
      rw [← List.length_append] at hcap
      rcases readLoop_cases connFd _ (fun _ => true)
        { s.connMgr.connPool.mem ptr with
          recvBuf := (s.connMgr.connPool.mem ptr).recvBuf ++ buf }
        (Nat.lt_succ_self _) hcap with ⟨he, -⟩ | ⟨readEnd, c', sent, he, hend⟩
      · simp only [he, error_bind]
      · rcases hend.readEnd with ⟨rfl, -⟩ | ⟨-, hfail⟩
        · simp only [he, ok_bind]
        · cases hfail

theorem ntohs_clientFrame (h : WellFormed payload) :
    Utils.ntohs (ConnSvr.clientFrame payload ++ t) = payload.length + 2 := by
  obtain ⟨-, hlen⟩ := h
  have hcap : pkgBufSize = 10240 := rfl
  show (UInt8.ofNat ((payload.length + 2) / 256)).toNat * 256 +
    (UInt8.ofNat (payload.length + 2)).toNat = payload.length + 2
  rw [UInt8.toNat_ofNat', UInt8.toNat_ofNat']
  omega

theorem wire_snoc : wire (payloads ++ [payload]) = wire payloads ++ ConnSvr.clientFrame payload := by
  unfold wire
  rw [List.map_append, List.flatten_append, List.map_singleton, List.flatten_singleton]

theorem length_clientFrame : (ConnSvr.clientFrame payload).length = payload.length + 2 := rfl

theorem lastLong_cons : LastLong (payload :: payloads) ↔
    (payloads = [] → 4 < payload.length + 2) ∧ LastLong payloads := by
  unfold LastLong
  cases payloads with
  | nil => simp
  | cons p payloads => simp

theorem wire_front (hwf : ∀ p ∈ payloads, WellFormed p) (hwire : wire payloads = conn.recvBuf ++ rest)
    (hhdr : 4 < conn.recvBuf.length) :
    ∃ p payloads', payloads = p :: payloads' ∧ conn.getRecvProtoLen = p.length + 2 ∧
      ConnSvr.clientFrame p ++ wire payloads' = conn.recvBuf ++ rest := by
  cases payloads with
  | nil =>
      have hnil := congrArg List.length hwire
      rw [List.length_append] at hnil
      have : (wire []).length = 0 := rfl
      omega
  | cons p payloads' =>
      have hfront : ConnSvr.clientFrame p ++ wire payloads' = conn.recvBuf ++ rest := hwire
      refine ⟨p, payloads', rfl, ?_, hfront⟩
      unfold getRecvProtoLen
      rw [← Utils.ntohs_append rest hhdr, ← hfront]
      exact ntohs_clientFrame (hwf p List.mem_cons_self)

/-- **The loop** forwards the packages that are complete, up to one of at most 4 bytes at
the end of the buffer. -/
theorem readLoop_wire (connFd : Int) (rest : Bytes) : ∀ (fuel : Nat) (conn : Connection)
    (payloads : List Bytes), (∀ p ∈ payloads, WellFormed p) →
    wire payloads = conn.recvBuf ++ rest → conn.recvBuf.length < fuel →
    conn.recvBuf.length ≤ pkgBufSize →
    ∃ sent r payloads', readLoop connFd fuel (fun _ => true) conn =
        .ok (some (.done, { conn with recvBuf := r }, sent)) ∧
      payloads = sent.map ConnMsg.payload ++ payloads' ∧ wire payloads' = r ++ rest ∧
      clientFraming.Unread conn.recvBuf r ∧ ¬ clientFraming.Ready r ∧
      (LastLong payloads ↔ LastLong payloads')
  | 0, _, _ => fun _ _ hfuel => absurd hfuel (Nat.not_lt_zero _)
  | fuel + 1, conn, payloads => by
      intro hwf hwire hfuel hcap
      unfold readLoop
      by_cases hready : conn.IsRecvProtoReady
      · obtain ⟨p, payloads', rfl, hlen, hfront⟩ := wire_front hwf hwire hready.1
        have hp := hwf p List.mem_cons_self
        have hge : 2 ≤ conn.getRecvProtoLen := by omega
        have hle := hready.2
        have hprefix : ConnSvr.clientFrame p = conn.recvBuf.take (p.length + 2) := by
          have := congrArg (List.take (p.length + 2)) hfront
          rw [List.take_left' length_clientFrame,
            List.take_append_of_le_length (by omega)] at this
          exact this
        have hrest : wire payloads' = conn.recvBuf.drop (p.length + 2) ++ rest := by
          have := congrArg (List.drop (p.length + 2)) hfront
          rw [List.drop_left' length_clientFrame,
            List.drop_append_of_le_length (by omega)] at this
          exact this
        have hpayload : (conn.recvBuf.drop 2).take (conn.getRecvProtoLen - 2) = p := by
          rw [hlen, Nat.add_sub_cancel, List.take_drop, Nat.add_comm, ← hprefix]
          rfl
        have hstep := Lib.Framing.Unread.frame (.refl conn.recvBuf)
          (isRecvProtoReady_iff.mp hready) hge
        have hshorter := pass_length hready hge
        obtain ⟨sent, r, payloads'', hloop, hsent, hwire', hunread, hstuck, hlast⟩ :=
          readLoop_wire connFd rest fuel
            { conn with recvBuf := conn.recvBuf.drop conn.getRecvProtoLen } payloads'
            (fun q hq => hwf q (List.mem_cons_of_mem _ hq)) (by rw [hlen]; exact hrest)
            (Nat.lt_of_lt_of_le hshorter (Nat.lt_succ_iff.mp hfuel))
            (Nat.le_trans (Nat.le_of_lt hshorter) hcap)
        rw [if_pos hready, forwardProto_eq hready hge hcap, hpayload]
        simp only [ok_bind, if_true, hloop]
        refine ⟨_, r, payloads'', rfl, ?_, hwire', hstep.trans hunread, hstuck, ?_⟩
        · rw [List.map_cons, List.cons_append, ← hsent]
        · rw [lastLong_cons, hlast]
          refine and_iff_right_of_imp (fun _ hnil => ?_)
          -- all of the stream is in the buffer, and that is more than 4 bytes
          have hfull := congrArg List.length hfront
          rw [hnil, List.length_append, List.length_append, length_clientFrame] at hfull
          have : (wire []).length = 0 := rfl
          have := hready.1
          omega
      · rw [if_neg hready]
        exact ⟨[], conn.recvBuf, payloads, rfl, rfl, hwire, .refl _, hready, Iff.rfl⟩

theorem wire_stuck (hwf : ∀ p ∈ payloads, WellFormed p) (hwire : wire payloads = conn.recvBuf)
    (hstuck : ¬ conn.IsRecvProtoReady) : payloads = [] ∧ conn.recvBuf = [] ↔ LastLong payloads := by
  cases payloads with
  | nil =>
      refine iff_of_true ⟨rfl, hwire.symm⟩ (fun p hp => ?_)
      cases hp
  | cons p payloads =>
      refine iff_of_false (fun h => nomatch h.1) (fun hlast => hstuck ?_)
      have hsize := congrArg List.length hwire
      have hcons : (wire (p :: payloads)).length = p.length + 2 + (wire payloads).length :=
        List.length_append
      have hlong : 4 < conn.recvBuf.length := by
        cases payloads with
        | nil =>
            have := hlast p rfl
            omega
        | cons q payloads =>
            have hq := List.length_pos_iff.mpr (hwf q (by simp)).1
            have hp := List.length_pos_iff.mpr (hwf p (by simp)).1
            have : (wire (q :: payloads)).length = q.length + 2 + (wire payloads).length :=
              List.length_append
            omega
      obtain ⟨p', payloads', hcut, hlen, -⟩ := wire_front hwf
        (hwire.trans (List.append_nil _).symm) hlong
      cases hcut
      refine ⟨hlong, ?_⟩
      rw [hlen]
      omega

theorem recvChunk_wire (connFd : Int) {chunk : Bytes} (hwf : ∀ p ∈ payloads, WellFormed p)
    (hwire : wire payloads = conn.recvBuf ++ (chunk ++ rest))
    (hfit : conn.recvBuf.length + chunk.length ≤ pkgBufSize) :
    ∃ sent r payloads', recvChunk connFd conn chunk =
        .ok (some ({ conn with recvBuf := r }, sent)) ∧
      payloads = sent.map ConnMsg.payload ++ payloads' ∧ wire payloads' = r ++ rest ∧
      clientFraming.Unread (conn.recvBuf ++ chunk) r ∧ ¬ clientFraming.Ready r ∧
      (LastLong payloads ↔ LastLong payloads') := by
  have hadd : conn.addRecvData chunk = some { conn with recvBuf := conn.recvBuf ++ chunk } :=
    if_neg (by omega)
  rw [← List.append_assoc] at hwire
  obtain ⟨sent, r, payloads', hloop, h⟩ := readLoop_wire connFd rest _
    { conn with recvBuf := conn.recvBuf ++ chunk } payloads hwf hwire (Nat.lt_succ_self _)
    (by rw [List.length_append]; exact hfit)
  refine ⟨sent, r, payloads', ?_, h⟩
  unfold recvChunk
  simp only [hadd, hloop, ok_bind]

theorem recvAll_iff (connFd : Int) : ∀ (chunks seen : List Bytes) (conn : Connection)
    (payloads : List Bytes), (∀ p ∈ payloads, WellFormed p) →
    wire payloads = conn.recvBuf ++ chunks.flatten →
    ChunksFit seen → clientFraming.Unread seen.flatten conn.recvBuf →
    ¬ clientFraming.Ready conn.recvBuf →
    ((∃ conn' sent, recvAll connFd chunks conn = .ok (some (conn', sent)) ∧
        sent.map ConnMsg.payload = payloads ∧ conn'.recvBuf = []) ↔
      ChunksFit (seen ++ chunks) ∧ LastLong payloads)
  | [], seen, conn, payloads => by
      intro hwf hwire hseen _ hstuck
      rw [List.flatten_nil, List.append_nil] at hwire
      rw [List.append_nil, and_iff_right hseen, ← wire_stuck hwf hwire hstuck]
      constructor
      · rintro ⟨conn', sent, hrecv, rfl, hbuf⟩
        cases hrecv
        exact ⟨rfl, hbuf⟩
      · rintro ⟨rfl, hbuf⟩
        exact ⟨conn, [], rfl, rfl, hbuf⟩
  | chunk :: chunks, seen, conn, payloads => by
      intro hwf hwire hseen hunread hstuck
      by_cases hfit : conn.recvBuf.length + chunk.length ≤ pkgBufSize
      · obtain ⟨sent, r, payloads', hchunk, rfl, hwire', hrest, hstuck', hlast⟩ :=
          recvChunk_wire connFd hwf hwire hfit
        have hseen' := (Framing.fits_snoc_iff hunread hstuck).mpr ⟨hseen, hfit⟩
        have hunread' : clientFraming.Unread (seen ++ [chunk]).flatten r := by
          rw [List.flatten_append, List.flatten_singleton]
          exact hunread.append.trans hrest
        have ih := recvAll_iff connFd chunks (seen ++ [chunk]) { conn with recvBuf := r }
          payloads' (fun p hp => hwf p (List.mem_append_right _ hp)) hwire' hseen' hunread' hstuck'
        rw [List.append_assoc, List.singleton_append] at ih
        rw [hlast, ← ih]
        simp only [recvAll, hchunk, ok_bind]
        constructor
        · rintro ⟨conn', all, hrecv, hall, hbuf⟩
          obtain ⟨o, ho, hrecv⟩ := bind_eq_ok.mp hrecv
          cases o with
          | none => cases hrecv
          | some p =>
              cases hrecv
              rw [List.map_append] at hall
              exact ⟨_, _, ho, List.append_cancel_left hall, hbuf⟩
        · rintro ⟨conn', all, hrecv, hall, hbuf⟩
          rw [hrecv]
          exact ⟨conn', sent ++ all, rfl, by rw [List.map_append, hall], hbuf⟩
      · refine iff_of_false ?_ (fun h => hfit ?_)
        · rintro ⟨conn', sent, hrecv, -⟩
          have hrefused : conn.addRecvData chunk = none := if_pos (by omega)
          simp only [recvAll, recvChunk, hrefused, ok_bind] at hrecv
          cases hrecv
        · have hfits := h.1
          rw [← List.singleton_append, ← List.append_assoc] at hfits
          exact ((Framing.fits_snoc_iff hunread hstuck).mp hfits.of_append).2

/-- **A well-formed stream is delivered exactly when** every chunk fits in the buffer next
to the incomplete package before it, and the last package has more than 4 bytes. -/
theorem delivered_iff (connFd : Int) {payloads chunks : List Bytes}
    (hwf : ∀ p ∈ payloads, WellFormed p) (hsplit : chunks.flatten = wire payloads) :
    Delivered connFd payloads chunks ↔ ChunksFit chunks ∧ LastLong payloads :=
  recvAll_iff connFd chunks [] _ payloads hwf hsplit.symm .nil (.refl _)
    (fun h => absurd h.1 (Nat.not_lt_zero 4))

/-- A package of five bytes, in two chunks. -/
theorem delivered_iff_five : Delivered 5 [[7, 8, 9]] [[0, 5], [7, 8, 9]] := by
  have hwf : ∀ p ∈ [[7, 8, 9]], WellFormed p := by
    intro p hp
    rw [List.mem_singleton.mp hp]
    exact ⟨by decide, by decide⟩
  have hfirst : ChunksFit ([] ++ [[0, 5]]) := .snoc .nil (.refl _) (by decide) (by decide)
  have hfit : ChunksFit ([[0, 5]] ++ [[7, 8, 9]]) :=
    .snoc hfirst (.refl _) (by decide) (by decide)
  have hsplit : [[0, 5], [7, 8, 9]].flatten = wire [[7, 8, 9]] := rfl
  refine (delivered_iff 5 hwf hsplit).mpr ⟨hfit, fun p hp => ?_⟩
  cases hp
  decide

/-- A package with a payload of one byte stays in the buffer. -/
theorem not_delivered_three : (∀ p ∈ [[7]], WellFormed p) ∧ [[0, 3, 7]].flatten = wire [[7]] ∧
    ¬ Delivered 5 [[7]] [[0, 3, 7]] := by
  refine ⟨?_, rfl, ?_⟩
  · intro p hp
    rw [List.mem_singleton.mp hp]
    exact ⟨by decide, by decide⟩
  · rintro ⟨conn, sent, hrecv, -, hbuf⟩
    cases hrecv
    cases hbuf

end

end Connection

end PlayFrame
