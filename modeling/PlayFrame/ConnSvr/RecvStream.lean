/-
# `PlayFrame.ConnSvr.RecvStream` — what a client can do to the read loop

The byte stream of a client reaches `EventModule::DoTcpRead` in the chunks that `recv`
returns.  `Reading` describes the states of its connection while `AddRecvData` accepts
the chunks and `zmq_send` succeeds; a chunk that is refused and a send that fails close
the connection and end the reading.

A package whose length field is 0 or 1 has a negative payload length.  The main result
says that such a length field is the only way to harm the loop.
-/
import PlayFrame.ConnSvr.Connection

namespace PlayFrame

open Lib

namespace Connection

/-- Where `DoTcpRead` stands: between two calls, or at the test of its loop. -/
inductive ReadPhase where
  | idle
  | looping
  deriving DecidableEq, Repr

/-- The states of the connection `connFd`, by the chunks received so far. -/
inductive Reading (connFd : Int) : List Bytes → ReadPhase → Connection → Prop
  | accept : Reading connFd [] .idle { init with connFd := connFd }
  | recv {chunks : List Bytes} {chunk : Bytes} {conn conn' : Connection} :
      Reading connFd chunks .idle conn → conn.addRecvData chunk = some conn' →
      Reading connFd (chunks ++ [chunk]) .looping conn'
  | forward {chunks : List Bytes} {conn conn' : Connection} {msg : ConnMsg} :
      Reading connFd chunks .looping conn → conn.IsRecvProtoReady →
      conn.forwardProto connFd = .ok (some (msg, conn')) →
      Reading connFd chunks .looping conn'
  | wait {chunks : List Bytes} {conn : Connection} :
      Reading connFd chunks .looping conn → ¬ conn.IsRecvProtoReady →
      Reading connFd chunks .idle conn
  | reply {chunks : List Bytes} {conn : Connection} (playerIdx : Int) (sendBuf : Bytes) :
      Reading connFd chunks .idle conn →
      Reading connFd chunks .idle { conn with playerIdx := playerIdx, sendBuf := sendBuf }

/-- What the loop needs of a state at its test: the payload of a package that is ready
is among the bytes received, removing it shortens the buffer, and the loop ends. -/
structure LoopSafe (connFd : Int) (conn : Connection) : Prop where
  payload : conn.IsRecvProtoReady → 0 ≤ Utils.getMsgLenFromClient conn.recvBuf ∧
    Utils.getMsgLenFromClient conn.recvBuf ≤ (conn.recvBuf.length : Int) - 2
  remove : conn.IsRecvProtoReady → ∃ conn', conn.removeRecvProto = .ok conn' ∧
    conn'.recvBuf.length < conn.recvBuf.length ∧ conn'.recvBuf.length ≤ pkgBufSize
  ends : ∀ zmq, ∃ fuel r, readLoop connFd fuel zmq conn = .ok (some r)

/-- The chunks all fit in `recv_buf_` when they arrive. -/
abbrev ChunksFit (chunks : List Bytes) : Prop := clientFraming.Fits pkgBufSize chunks

/-- Every length field of the stream that is looked at is at least 2. -/
abbrev WellHeaded (stream : Bytes) : Prop := clientFraming.WellHeaded stream

section
variable {connFd : Int} {chunks : List Bytes} {chunk : Bytes} {phase : ReadPhase}
  {conn conn' : Connection}

/-! ## What is in the buffer -/

/-- The buffer holds what is unread of the chunks, all of which fitted. -/
structure Buffered (chunks : List Bytes) (phase : ReadPhase) (conn : Connection) : Prop where
  fits : ChunksFit chunks
  unread : clientFraming.Unread chunks.flatten conn.recvBuf
  cap : conn.recvBuf.length ≤ pkgBufSize
  stuck : phase = .idle → ¬ conn.IsRecvProtoReady

theorem Reading.buffered (h : Reading connFd chunks phase conn) : Buffered chunks phase conn := by
  induction h with
  | accept => exact ⟨.nil, .refl _, Nat.zero_le _, fun _ h => absurd h.1 (Nat.not_lt_zero _)⟩
  | @recv chunks chunk conn conn' _ hadd ih =>
      obtain ⟨hcap, rfl⟩ := addRecvData_some hadd
      refine ⟨.snoc ih.fits ih.unread (ih.stuck rfl) hcap, ?_, ?_, fun h => nomatch h⟩
      · rw [List.flatten_append, List.flatten_singleton]
        exact ih.unread.append
      · rw [List.length_append]
        exact hcap
  | forward _ hready hf ih =>
      obtain ⟨hlen, rfl⟩ := forwardProto_some hready ih.cap hf
      refine ⟨ih.fits, .frame ih.unread hready hlen, ?_, fun h => nomatch h⟩
      exact Nat.le_trans (Nat.le_of_lt (pass_length hready hlen)) ih.cap
  | wait _ hready ih => exact ⟨ih.fits, ih.unread, ih.cap, fun _ => hready⟩
  | reply _ _ _ ih => exact ⟨ih.fits, ih.unread, ih.cap, ih.stuck⟩

theorem Buffered.safe (h : Buffered chunks phase conn) (hw : WellHeaded conn.recvBuf) :
    LoopSafe connFd conn where
  payload := by
    intro hready
    have hlow : 2 ≤ Utils.ntohs conn.recvBuf := hw _ (.refl _) hready.1
    have hle : Utils.ntohs conn.recvBuf ≤ conn.recvBuf.length := hready.2
    rw [Utils.getMsgLenFromClient_eq]
    omega
  remove := by
    intro hready
    have hlt := pass_length hready (hw _ (.refl _) hready.1)
    refine ⟨_, if_pos hready.2, hlt, ?_⟩
    exact Nat.le_trans (Nat.le_of_lt hlt) h.cap
  ends := by
    intro zmq
    rcases readLoop_cases connFd (conn.recvBuf.length + 1) zmq conn (Nat.lt_succ_self _) h.cap with
      ⟨-, hnot⟩ | ⟨e, conn', sent, hr, -⟩
    · exact absurd hw hnot
    · exact ⟨_, _, hr⟩

theorem not_safe (hhdr : 4 < conn.recvBuf.length) (hlow : Utils.ntohs conn.recvBuf < 2) :
    ¬ LoopSafe connFd conn := by
  intro h
  have hready : conn.IsRecvProtoReady := ⟨hhdr, by
    show Utils.ntohs conn.recvBuf ≤ _
    omega⟩
  have := (h.payload hready).1
  rw [Utils.getMsgLenFromClient_eq] at this
  omega

/-! ## What the loop reaches -/

theorem Reading.unread (h : Reading connFd chunks .looping conn) {r : Bytes}
    (hr : clientFraming.Unread conn.recvBuf r) :
    Reading connFd chunks .looping { conn with recvBuf := r } := by
  generalize hs : conn.recvBuf = s at hr
  induction hr with
  | refl =>
      subst hs
      exact h
  | frame _ hready hlow ih =>
      exact .forward ih hready (forwardProto_eq hready hlow ih.buffered.cap)

theorem Reading.exists_idle (connFd : Int) (h : ChunksFit chunks) :
    WellHeaded chunks.flatten → ∃ conn, Reading connFd chunks .idle conn := by
  induction h with
  | nil => exact fun _ => ⟨_, .accept⟩
  | @snoc pieces r piece _ hr hstuck hcap ih =>
      intro hw
      rw [List.flatten_append, List.flatten_singleton] at hw
      obtain ⟨conn, hidle⟩ := ih hw.of_append
      have hrest : conn.recvBuf = r := by
        rcases hidle.buffered.unread.total hr with h | h
        · exact (h.stuck (hidle.buffered.stuck rfl)).symm
        · exact h.stuck hstuck
      have hadd : conn.addRecvData piece =
          some { conn with recvBuf := conn.recvBuf ++ piece } :=
        if_neg (by rw [hrest]; omega)
      have hlooping := Reading.recv hidle hadd
      obtain ⟨rest, hrest, hstuck⟩ :=
        (hw.unread hidle.buffered.unread.append).exists_stuck
      exact ⟨_, .wait (hlooping.unread hrest) hstuck⟩

/-- Where the chunks are not well headed, the loop comes to the length field at fault,
which may lie in an earlier chunk. -/
theorem Reading.exists_short (connFd : Int) (h : ChunksFit chunks) :
    ¬ WellHeaded chunks.flatten → ∃ chunks' conn, chunks' <+: chunks ∧
      Reading connFd chunks' .looping conn ∧ 4 < conn.recvBuf.length ∧
      Utils.ntohs conn.recvBuf < 2 := by
  induction h with
  | nil =>
      intro hw
      refine absurd (fun r hr hhdr => ?_) hw
      have : r = [] := hr.stuck (by decide)
      rw [this] at hhdr
      exact absurd hhdr (by decide)
  | @snoc pieces r piece hfit hr hstuck hcap ih =>
      intro hw
      by_cases hpieces : WellHeaded pieces.flatten
      · obtain ⟨conn, hidle⟩ := Reading.exists_idle connFd hfit hpieces
        have hrest : conn.recvBuf = r := by
          rcases hidle.buffered.unread.total hr with h | h
          · exact (h.stuck (hidle.buffered.stuck rfl)).symm
          · exact h.stuck hstuck
        have hadd : conn.addRecvData piece =
            some { conn with recvBuf := conn.recvBuf ++ piece } :=
          if_neg (by rw [hrest]; omega)
        have hlooping := Reading.recv hidle hadd
        have hbuf := hlooping.buffered.unread
        -- the length field at fault is ahead of the buffer, for nothing is dropped behind it
        unfold WellHeaded Framing.WellHeaded at hw
        push Not at hw
        obtain ⟨bad, hbad, hhdr, hshort⟩ := hw
        have hahead : clientFraming.Unread (conn.recvBuf ++ piece) bad := by
          rcases hbuf.total hbad with h | h
          · exact h
          · rcases h.head with h | ⟨-, hlow, -⟩
            · rw [h]
              exact .refl _
            · exact absurd hlow (not_le.mpr hshort)
        exact ⟨_, _, List.prefix_rfl, hlooping.unread hahead, hhdr, hshort⟩
      · obtain ⟨chunks', conn, hpre, h⟩ := ih hpieces
        exact ⟨chunks', conn, hpre.trans (List.prefix_append _ _), h⟩

/-! ## The loop against every client -/

/-- **The loop is safe on a stream exactly when** every length field it looks at is at
least 2: as long as the chunks fit in the buffer, more than 4 bytes at a package
boundary begin with such a length. -/
theorem readLoop_safe_iff (connFd : Int) (chunks : List Bytes) :
    (∀ chunks' conn, chunks' <+: chunks → Reading connFd chunks' .looping conn →
      LoopSafe connFd conn) ↔
    ∀ chunks', chunks' <+: chunks → ChunksFit chunks' → WellHeaded chunks'.flatten := by
  constructor
  · intro h chunks' hpre hfit
    by_contra hw
    obtain ⟨cs, conn, hcs, hread, hhdr, hshort⟩ := Reading.exists_short connFd hfit hw
    exact not_safe hhdr hshort (h cs conn (hcs.trans hpre) hread)
  · intro h chunks' conn hpre hread
    have hbuf := hread.buffered
    exact hbuf.safe ((h chunks' hpre hbuf.fits).unread hbuf.unread)

/-- Five bytes that announce a package of length 1. -/
def shortPackage : Bytes := [0, 1, 0, 0, 0]

/-- They make the payload length -1 and the copy leave the buffer. -/
theorem readLoop_shortPackage :
    Reading 5 [shortPackage] .looping ⟨0, 5, shortPackage, []⟩ ∧
    Connection.IsRecvProtoReady ⟨0, 5, shortPackage, []⟩ ∧
    Utils.getMsgLenFromClient shortPackage = -1 ∧
    readLoop 5 1 (fun _ => true) ⟨0, 5, shortPackage, []⟩ = .error .outOfBounds ∧
    ¬ LoopSafe 5 ⟨0, 5, shortPackage, []⟩ := by
  have hready : Connection.IsRecvProtoReady ⟨0, 5, shortPackage, []⟩ := ⟨by decide, by decide⟩
  refine ⟨.recv .accept (if_neg (by decide)), hready, ?_, ?_, not_safe (by decide) (by decide)⟩
  · have hlen : Utils.ntohs shortPackage = 1 := by decide
    rw [Utils.getMsgLenFromClient_eq, hlen]
    decide
  · unfold readLoop
    rw [if_pos hready, forwardProto_short (by decide)]
    rfl

end

end Connection

end PlayFrame
