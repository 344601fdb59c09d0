/-
# `PlayFrame.ConnSvr.Reassembly` — segmentation does not matter

The bytes of a client reach `DoTcpRead` cut into chunks at places nobody controls.
`Received` describes what connsvr has made of the chunks so far: the payloads it has
forwarded and the connection, or `none` when a `zmq_send` has failed and the connection
has been released.  Between two chunks gamesvr may give the connection a player and
leave bytes in its send buffer.

The greedy loop runs after every chunk, so two segmentations drop the frames of a
stream at different times.  They meet again: what a reader has dropped when it is stuck
depends on the stream alone (`Framing.Cut.unique`).
-/
import PlayFrame.ConnSvr.RecvStream
import PlayFrame.ConnSvr.EventSpec

namespace PlayFrame

open Lib

namespace Connection

/-- What follows the length field of a package. -/
def payloadOf (package : Bytes) : Bytes := package.drop Utils.getMsgFromClient

/-- The payloads forwarded and the connection after some chunks of the fd `connFd`, all
of which `AddRecvData` has accepted; `zmq k` says whether the `k`-th `zmq_send` of the
connection succeeds. -/
inductive Received (connFd : Int) (zmq : Nat → Bool) :
    List Bytes → List Bytes → Option Connection → Prop
  | accept : Received connFd zmq [] [] (some { init with connFd := connFd })
  | recv {chunks payloads : List Bytes} {chunk : Bytes} {conn c conn' : Connection}
      {sent : List ConnMsg} :
      Received connFd zmq chunks payloads (some conn) → conn.addRecvData chunk = some c →
      readLoop connFd (c.recvBuf.length + 1) (fun k => zmq (payloads.length + k)) c =
        .ok (some (.done, conn', sent)) →
      Received connFd zmq (chunks ++ [chunk]) (payloads ++ sent.map ConnMsg.payload) (some conn')
  | release {chunks payloads : List Bytes} {chunk : Bytes} {conn c conn' : Connection}
      {sent : List ConnMsg} :
      Received connFd zmq chunks payloads (some conn) → conn.addRecvData chunk = some c →
      readLoop connFd (c.recvBuf.length + 1) (fun k => zmq (payloads.length + k)) c =
        .ok (some (.sendFailed, conn', sent)) →
      Received connFd zmq (chunks ++ [chunk]) (payloads ++ sent.map ConnMsg.payload) none
  /-- nobody reads what arrives after the release -/
  | unread {chunks payloads : List Bytes} (chunk : Bytes) :
      Received connFd zmq chunks payloads none →
      Received connFd zmq (chunks ++ [chunk]) payloads none
  | reply {chunks payloads : List Bytes} {conn : Connection} (playerIdx : Int) (sendBuf : Bytes) :
      Received connFd zmq chunks payloads (some conn) →
      Received connFd zmq chunks payloads
        (some { conn with playerIdx := playerIdx, sendBuf := sendBuf })

section
variable {connFd : Int} {zmq : Nat → Bool} {conn conn' : Connection} {chunks : List Bytes}
  {chunk : Bytes} {payloads : List Bytes} {readEnd : ReadEnd} {sent : List ConnMsg}

/-! ## The loop cuts frames off -/

theorem take_payloadOf (buf : Bytes) (len : Nat) :
    (buf.drop 2).take (len - 2) = payloadOf (buf.take len) := by
  rw [payloadOf, List.drop_take]
  rfl

/-- A loop that stops at `r` after the packages `fs`: nothing complete is left, or the
`zmq_send` of the next package has failed. -/
structure LoopCut (zmq : Nat → Bool) (s : Bytes) (fs : List Bytes) (r : Bytes)
    (readEnd : ReadEnd) : Prop where
  cut : clientFraming.Cut s fs r
  accepted : ∀ k < fs.length, zmq k = true
  stop : readEnd = .done ∧ ¬ clientFraming.Ready r ∨
    readEnd = .sendFailed ∧ clientFraming.Ready r ∧ zmq fs.length = false

theorem readLoop_cut (connFd : Int) : ∀ (fuel : Nat) (zmq : Nat → Bool) (conn : Connection)
    {readEnd : ReadEnd} {conn' : Connection} {sent : List ConnMsg},
    conn.recvBuf.length ≤ pkgBufSize →
    readLoop connFd fuel zmq conn = .ok (some (readEnd, conn', sent)) →
    ∃ fs r, LoopCut zmq conn.recvBuf fs r readEnd ∧
      sent.map ConnMsg.payload = fs.map payloadOf ∧ (readEnd = .done → conn'.recvBuf = r)
  | 0, _, _, _, _, _ => fun _ h => by cases h
  | fuel + 1, zmq, conn, readEnd, conn', sent => by
      intro hcap h
      unfold readLoop at h
      by_cases hready : conn.IsRecvProtoReady
      · rw [if_pos hready] at h
        rcases Nat.lt_or_ge conn.getRecvProtoLen 2 with hlt | hge
        · rw [forwardProto_short hlt] at h
          cases h
        rw [forwardProto_eq hready hge hcap, ok_bind] at h
        have hready' := isRecvProtoReady_iff.mp hready
        cases hz : zmq 0 with
        | false =>
            simp only [hz] at h
            cases h
            exact ⟨[], conn.recvBuf, ⟨.refl _, fun k hk => absurd hk (Nat.not_lt_zero k),
              Or.inr ⟨rfl, hready', hz⟩⟩, rfl, nofun⟩
        | true =>
            simp only [hz, if_true] at h
            obtain ⟨o, hrest, h⟩ := bind_eq_ok.mp h
            cases o with
            | none => cases h
            | some a =>
                cases h
                have hstep := Framing.Cut.frame (.refl conn.recvBuf) hready' hge
                obtain ⟨fs, r, hcut, hsent, hbuf⟩ := readLoop_cut connFd fuel _ _
                  (Nat.le_trans (Nat.le_of_lt (pass_length hready hge)) hcap) hrest
                refine ⟨_ :: fs, r, ⟨hstep.trans hcut.cut, ?_, hcut.stop⟩, ?_, hbuf⟩
                · rintro (_ | k) hk
                  · exact hz
                  · exact hcut.accepted k (Nat.lt_of_succ_lt_succ hk)
                · rw [List.map_cons, hsent, take_payloadOf]
                  rfl
      · rw [if_neg hready] at h
        cases h
        exact ⟨[], conn.recvBuf, ⟨.refl _, fun k hk => absurd hk (Nat.not_lt_zero k),
          Or.inl ⟨rfl, hready⟩⟩, rfl, fun _ => rfl⟩

/-! ## What the chunks so far have come to -/

theorem Received.cut {last : Option Connection} (h : Received connFd zmq chunks payloads last) :
    ∃ fs r readEnd, LoopCut zmq chunks.flatten fs r readEnd ∧ payloads = fs.map payloadOf ∧
      (readEnd = .done → ∃ conn, last = some conn ∧ conn.recvBuf = r) ∧
      (readEnd = .sendFailed → last = none) := by
  have hnext : ∀ {chunks payloads : List Bytes} {chunk : Bytes} {conn c conn' : Connection}
      {readEnd : ReadEnd} {sent : List ConnMsg},
      (∃ fs r readEnd, LoopCut zmq chunks.flatten fs r readEnd ∧ payloads = fs.map payloadOf ∧
        (readEnd = .done → ∃ conn', some conn = some conn' ∧ conn'.recvBuf = r) ∧
        (readEnd = .sendFailed → some conn = none)) → conn.addRecvData chunk = some c →
      readLoop connFd (c.recvBuf.length + 1) (fun k => zmq (payloads.length + k)) c =
        .ok (some (readEnd, conn', sent)) →
      ∃ fs r, LoopCut zmq (chunks ++ [chunk]).flatten fs r readEnd ∧
        payloads ++ sent.map ConnMsg.payload = fs.map payloadOf ∧
        (readEnd = .done → conn'.recvBuf = r) := by
    rintro chunks payloads chunk conn c conn' readEnd sent ⟨fs, r, e, hcut, rfl, hdone, hfail⟩ hadd
      hloop
    have he : e = .done := by
      rcases hcut.stop with h | h
      · exact h.1
      · cases hfail h.1
    obtain ⟨conn₀, hconn, rfl⟩ := hdone he
    cases hconn
    obtain ⟨hcap, rfl⟩ := addRecvData_some hadd
    obtain ⟨gs, r', hcut', hsent, hbuf⟩ := readLoop_cut connFd _ _ _
      (by rw [List.length_append]; exact hcap) hloop
    refine ⟨fs ++ gs, r', ⟨?_, ?_, ?_⟩, by rw [hsent, List.map_append], hbuf⟩
    · rw [List.flatten_append, List.flatten_singleton]
      exact hcut.cut.append.trans hcut'.cut
    · intro k hk
      rcases Nat.lt_or_ge k fs.length with hlt | hge
      · exact hcut.accepted k hlt
      · have := hcut'.accepted (k - fs.length) (by rw [List.length_append] at hk; omega)
        simpa [Nat.add_sub_cancel' hge] using this
    · simpa using hcut'.stop
  induction h with
  | accept =>
      refine ⟨[], [], .done, ⟨.refl _, fun k hk => absurd hk (Nat.not_lt_zero k), Or.inl ⟨rfl, ?_⟩⟩,
        rfl, fun _ => ⟨_, rfl, rfl⟩, nofun⟩
      exact fun h => absurd h.1 (Nat.not_lt_zero _)
  | recv _ hadd hloop ih =>
      obtain ⟨fs, r, hcut, hsent, hbuf⟩ := hnext ih hadd hloop
      exact ⟨fs, r, .done, hcut, hsent, fun _ => ⟨_, rfl, hbuf rfl⟩, nofun⟩
  | release _ hadd hloop ih =>
      obtain ⟨fs, r, hcut, hsent, -⟩ := hnext ih hadd hloop
      exact ⟨fs, r, .sendFailed, hcut, hsent, nofun, fun _ => rfl⟩
  | unread chunk _ ih =>
      obtain ⟨fs, r, e, hcut, hsent, hdone, hfail⟩ := ih
      have he : e = .sendFailed := by
        rcases hcut.stop with h | h
        · obtain ⟨_, hnone, -⟩ := hdone h.1
          cases hnone
        · exact h.1
      rcases hcut.stop with h | ⟨-, hready, hz⟩
      · rw [he] at h
        cases h.1
      refine ⟨fs, r ++ chunk, .sendFailed, ⟨?_, hcut.accepted, Or.inr ⟨rfl, hready.append, hz⟩⟩,
        hsent, nofun, fun _ => rfl⟩
      rw [List.flatten_append, List.flatten_singleton]
      exact hcut.cut.append
  | reply playerIdx sendBuf _ ih =>
      obtain ⟨fs, r, e, hcut, hsent, hdone, hfail⟩ := ih
      refine ⟨fs, r, e, hcut, hsent, fun he => ?_, fun he => ?_⟩
      · obtain ⟨conn, hconn, hr⟩ := hdone he
        cases hconn
        exact ⟨_, rfl, hr⟩
      · cases hfail he

theorem LoopCut.unique {s r₁ r₂ : Bytes} {fs₁ fs₂ : List Bytes} {e₁ e₂ : ReadEnd}
    (h₁ : LoopCut zmq s fs₁ r₁ e₁) (h₂ : LoopCut zmq s fs₂ r₂ e₂) :
    fs₁ = fs₂ ∧ r₁ = r₂ ∧ e₁ = e₂ := by
  -- neither reader is past the stop of the other
  have hpast : ∀ {r r' : Bytes} {fs gs : List Bytes} {e e' : ReadEnd}, LoopCut zmq s fs r e →
      LoopCut zmq s (fs ++ gs) r' e' → clientFraming.Cut r gs r' → gs = [] := by
    intro r r' fs gs e e' h h' hgs
    rcases h.stop with ⟨-, hstuck⟩ | ⟨-, -, hz⟩
    · exact (hgs.stuck hstuck).1
    · by_contra hne
      have hlt : fs.length < (fs ++ gs).length := by
        have := List.length_pos_iff.mpr hne
        rw [List.length_append]
        omega
      have := h'.accepted _ hlt
      rw [hz] at this
      cases this
  have hsame : fs₁ = fs₂ := by
    rcases h₁.cut.total h₂.cut with ⟨gs, rfl, hgs⟩ | ⟨gs, rfl, hgs⟩
    · rw [hpast h₁ h₂ hgs, List.append_nil]
    · rw [hpast h₂ h₁ hgs, List.append_nil]
  subst hsame
  obtain ⟨-, rfl⟩ := h₁.cut.unique_of_length h₂.cut rfl
  refine ⟨rfl, rfl, ?_⟩
  rcases h₁.stop with ⟨rfl, hs₁⟩ | ⟨rfl, hs₁, -⟩
  · rcases h₂.stop with ⟨rfl, -⟩ | ⟨-, hs₂, -⟩
    · rfl
    · exact absurd hs₂ hs₁
  · rcases h₂.stop with ⟨-, hs₂⟩ | ⟨rfl, -, -⟩
    · exact absurd hs₁ hs₂
    · rfl

theorem Received.unique {chunks₁ chunks₂ payloads₁ payloads₂ : List Bytes}
    {last₁ last₂ : Option Connection} (h₁ : Received connFd zmq chunks₁ payloads₁ last₁)
    (h₂ : Received connFd zmq chunks₂ payloads₂ last₂) (hsame : chunks₁.flatten = chunks₂.flatten) :
    payloads₁ = payloads₂ ∧ last₁.map recvBuf = last₂.map recvBuf := by
  obtain ⟨fs₁, r₁, e₁, hcut₁, rfl, hdone₁, hfail₁⟩ := h₁.cut
  obtain ⟨fs₂, r₂, e₂, hcut₂, rfl, hdone₂, hfail₂⟩ := h₂.cut
  rw [hsame] at hcut₁
  obtain ⟨rfl, rfl, rfl⟩ := hcut₁.unique hcut₂
  refine ⟨rfl, ?_⟩
  rcases hcut₁.stop with ⟨he, -⟩ | ⟨he, -⟩
  · obtain ⟨c₁, rfl, hr₁⟩ := hdone₁ he
    obtain ⟨c₂, rfl, hr₂⟩ := hdone₂ he
    rw [Option.map_some, Option.map_some, hr₁, hr₂]
  · rw [hfail₁ he, hfail₂ he]

theorem Received.next (h : Received connFd zmq chunks payloads (some conn))
    (hadd : conn.addRecvData chunk = some conn') (hw : WellHeaded (chunks ++ [chunk]).flatten) :
    ∃ more last, Received connFd zmq (chunks ++ [chunk]) (payloads ++ more) last := by
  obtain ⟨fs, r, e, hcut, -, hdone, hfail⟩ := h.cut
  have he : e = .done := by
    rcases hcut.stop with h | h
    · exact h.1
    · cases hfail h.1
  obtain ⟨_, hconn, rfl⟩ := hdone he
  cases hconn
  have hbuf := hadd
  obtain ⟨hcap, rfl⟩ := addRecvData_some hadd
  rw [List.flatten_append, List.flatten_singleton] at hw
  have hw' : WellHeaded (conn.recvBuf ++ chunk) := hw.unread hcut.cut.unread.append
  rcases readLoop_cases connFd _ (fun k => zmq (payloads.length + k))
      { conn with recvBuf := conn.recvBuf ++ chunk } (Nat.lt_succ_self _)
      (by rw [List.length_append]; exact hcap) with ⟨-, hnot⟩ | ⟨e', c, sent, hloop, hend⟩
  · exact absurd hw' hnot
  · rcases hend.readEnd with ⟨rfl, -⟩ | ⟨rfl, -⟩
    · exact ⟨_, _, .recv h hbuf hloop⟩
    · exact ⟨_, _, .release h hbuf hloop⟩

theorem doTcpRead_received {s s' : ConnSvr} {epoller : Bool} (hs : s.connMgr.Ok)
    (hconn : s.conns connFd = some conn) (h : Received connFd zmq chunks payloads (some conn))
    (hfits : (conn.addRecvData chunk).isSome)
    (hread : s.doTcpRead epoller connFd (.data chunk) (fun k => zmq (payloads.length + k)) =
      .ok (some (s', sent))) :
    Received connFd zmq (chunks ++ [chunk]) (payloads ++ sent.map ConnMsg.payload)
      (s'.conns connFd) := by
  obtain ⟨ptr, hget, rfl⟩ := ConnMgrModule.conns_eq_some hconn
  obtain ⟨c, hadd⟩ := Option.isSome_iff_exists.mp hfits
  obtain ⟨hcap, hc⟩ := addRecvData_some hadd
  have hcap' : c.recvBuf.length ≤ pkgBufSize := by
    rw [hc, List.length_append]
    exact hcap
  unfold ConnSvr.doTcpRead at hread
  simp only [hget, hadd] at hread
  rcases readLoop_cases connFd _ (fun k => zmq (payloads.length + k)) c (Nat.lt_succ_self _)
      hcap' with ⟨he, -⟩ | ⟨readEnd, c₂, out, hloop, hend⟩
  · rw [he] at hread
    cases hread
  rw [hloop, ok_bind] at hread
  have hfd : c₂.connFd = connFd := by
    have hfd₀ := hs.connFd hconn
    rw [hend.frame, hc]
    exact hfd₀
  obtain ⟨hok, hconns⟩ := ConnSvr.modify_spec hs hget hfd
  rcases hend.readEnd with ⟨rfl, -⟩ | ⟨rfl, -⟩
  · cases hread
    have hlast : ConnMgrModule.conns (s.connMgr.modifyConn ptr fun _ => c₂) connFd = some c₂ := by
      rw [hconns, Function.update_self]
    show Received _ _ _ _ (ConnMgrModule.conns _ connFd)
    rw [hlast]
    exact .recv h hadd hloop
  · obtain ⟨s₁, hrel, hread⟩ := bind_eq_ok.mp hread
    cases hread
    obtain ⟨-, hconns'⟩ := ConnSvr.releaseAndClear_spec hrel hok
    rw [hconns', Function.update_self]
    exact .release h hadd hloop

end

/-- **Reassembly does not depend on the segmentation**: the payloads forwarded and what is
in the buffer at the end are the same for every way to cut the stream into chunks that
fit, and nothing but a chunk that does not fit stops the reader. -/
theorem received_segmentation (connFd : Int) (zmq : Nat → Bool) {stream : Bytes}
    (hw : WellHeaded stream) :
    (∀ chunks₁ chunks₂ payloads₁ payloads₂ last₁ last₂, chunks₁.flatten = stream →
      chunks₂.flatten = stream → Received connFd zmq chunks₁ payloads₁ last₁ →
      Received connFd zmq chunks₂ payloads₂ last₂ →
      payloads₁ = payloads₂ ∧ last₁.map recvBuf = last₂.map recvBuf) ∧
    ∀ chunks chunk payloads conn conn', (chunks ++ [chunk]).flatten <+: stream →
      Received connFd zmq chunks payloads (some conn) → conn.addRecvData chunk = some conn' →
      ∃ more last, Received connFd zmq (chunks ++ [chunk]) (payloads ++ more) last := by
  constructor
  · intro chunks₁ chunks₂ payloads₁ payloads₂ last₁ last₂ hs₁ hs₂ h₁ h₂
    exact h₁.unique h₂ (hs₁.trans hs₂.symm)
  · rintro chunks chunk payloads conn conn' ⟨rest, rfl⟩ h hadd
    exact h.next hadd hw.of_append

/-- A package of five bytes, whole and in two chunks. -/
theorem received_segmentation_five :
    ∃ payloads last payloads' last', Received 5 (fun _ => true) [[0, 5, 7, 8, 9]] payloads last ∧
      Received 5 (fun _ => true) [[0, 5], [7, 8, 9]] payloads' last' ∧
      payloads = payloads' ∧ last.map recvBuf = last'.map recvBuf := by
  have hw : WellHeaded [0, 5, 7, 8, 9] := by
    intro r hr hhdr
    rcases hr.head with rfl | ⟨-, -, hrest⟩
    · decide
    · obtain rfl := hrest.stuck (by decide)
      exact absurd hhdr (by decide)
  have hwhole : Received 5 (fun _ => true) ([] ++ [[0, 5, 7, 8, 9]]) _ _ :=
    .recv .accept (if_neg (by decide)) rfl
  have hfirst : Received 5 (fun _ => true) ([] ++ [[0, 5]]) _ _ :=
    .recv .accept (if_neg (by decide)) rfl
  have hcut : Received 5 (fun _ => true) ([[0, 5]] ++ [[7, 8, 9]]) _ _ :=
    .recv hfirst (if_neg (by decide)) rfl
  exact ⟨_, _, _, _, hwhole, hcut,
    (received_segmentation 5 _ hw).1 _ _ _ _ _ _ rfl rfl hwhole hcut⟩

end Connection

end PlayFrame
