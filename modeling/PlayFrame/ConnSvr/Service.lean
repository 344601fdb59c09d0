/-
# `PlayFrame.ConnSvr.Service` — the connections that are served

`DoTcpAccept` puts a connection into the table and then registers it; that `AddEvent` may
fail is logged, and the connection stays.  Where `epoll_ctl` succeeds, `AddEvent` still
fails for an fd that is not below `max_events_size_`, and that is `conn_pool_size`: a
number of connections, compared with the number of an fd.

Every connection is registered for reading as long as `accept` returns fds below
`conn_pool_size` (`run_serviceable`), and one that has a larger fd is not
(`Step.serviceable_iff`): nobody will ever read from it or release it.
-/
import PlayFrame.ConnSvr.Agree

namespace PlayFrame

namespace ConnSvr

/-- `fd` is registered with `EVENT_READ` and `DoTcpRead`. -/
def ReadRegistered (s : ConnSvr) (fd : Int) : Prop :=
  ∃ fe, s.epoller.fileEvent fd = .ok fe ∧ fe.mask.read = true ∧ fe.readProc = some .doTcpRead

/-- **Every connection is served.** -/
def Serviceable (s : ConnSvr) : Prop := ∀ fd, (s.conns fd).isSome → s.ReadRegistered fd

/-- Where `epoll_ctl` is called, it succeeds. -/
def CtlSucceeds : Event → Prop
  | .handler _ _ _ ret => ret.ctl = true
  | .message _ _ ctl => ctl = true

/-- The condition on a step: an fd that is accepted when there is room is below the size of
the pool. -/
def BelowPoolSize (s : ConnSvr) : Event → Prop
  | .handler .doTcpAccept _ _ ret =>
      s.connMgr.getCurConnMapSize < s.connPoolSize → ret.acceptRet < s.connPoolSize
  | _ => True

/-- `accept` answers an fd that is closed, and `epoll_ctl` does not fail. -/
def Regular (held : Int → Prop) (s : ConnSvr) (e : Event) : Prop :=
  AcceptsClosed held s e ∧ CtlSucceeds e

/-- The invariant. -/
structure Served (s : ConnSvr) : Prop where
  inv : s.Inv
  size : s.epoller.maxEventsSize = s.connPoolSize
  serviceable : s.Serviceable

section
variable {s s' : ConnSvr} {fd g r : Int} {epoller clientData ctl : Bool} {mask : EventMask}
  {e : Event} {ep : Epoller FileProc Bool} {connPoolSize : Nat} {raw : Nat → Connection}
  {listenFd : Int} {held : Int → Prop}

/-! ## The table of events -/

theorem ReadRegistered.congr (h : s.ReadRegistered fd)
    (hep : s'.epoller.fileEvent fd = s.epoller.fileEvent fd) : s'.ReadRegistered fd := by
  obtain ⟨fe, hfe, hread⟩ := h
  exact ⟨fe, hep.trans hfe, hread⟩

theorem ReadRegistered.addWrite (h : s.ReadRegistered fd)
    (hadd : s.epoller.addEvent g .eventWrite .doTcpWrite clientData ctl = .ok (r, ep)) :
    ({ s with epoller := ep } : ConnSvr).ReadRegistered fd := by
  rcases Epoller.addEvent_cases hadd with ⟨-, rfl⟩ | ⟨-, fe, hfe, hentered⟩
  · exact h
  by_cases hfd : fd = g
  · subst hfd
    obtain ⟨fe', hfe', hmask, hproc⟩ := h
    rw [hfe] at hfe'
    cases hfe'
    refine ⟨_, hentered.own, ?_, hproc⟩
    show (fe.mask.read || false) = true
    rw [hmask, Bool.or_false]
  · exact h.congr (hentered.others fd hfd)

theorem ReadRegistered.delWrite (h : s.ReadRegistered fd)
    (hdel : s.epoller.delEvent g .eventWrite = .ok ep) :
    ({ s with epoller := ep } : ConnSvr).ReadRegistered fd := by
  rcases Epoller.delEvent_cases hdel with ⟨-, rfl⟩ | ⟨fe, hfe, hentered⟩
  · exact h
  by_cases hfd : fd = g
  · subst hfd
    obtain ⟨fe', hfe', hmask, hproc⟩ := h
    rw [hfe] at hfe'
    cases hfe'
    refine ⟨_, hentered.own, ?_, hproc⟩
    show (fe.mask.read && true) = true
    rw [hmask, Bool.and_true]
  · exact h.congr (hentered.others fd hfd)

/-! ## What keeps it -/

theorem releaseAndClear_epoller (h : s.releaseAndClear epoller fd = .ok s') :
    s.epoller.clearEvent fd = .ok s'.epoller ∧ s'.connPoolSize = s.connPoolSize := by
  obtain ⟨m, -, h⟩ := bind_eq_ok.mp h
  cases epoller with
  | false => cases h
  | true =>
      obtain ⟨ep, hclear, h⟩ := bind_eq_ok.mp h
      cases h
      exact ⟨hclear, rfl⟩

theorem Served.change (h : s.Served) (hchange : Change s s') : s'.Served := by
  have hinv := h.inv.change hchange
  cases hchange with
  | zmqBuf buf => exact ⟨hinv, h.size, h.serviceable⟩
  | @write fd conn f hget hfd =>
      refine ⟨hinv, h.size, fun g hg => h.serviceable g ?_⟩
      have hconns := (h.inv.ok.modifyConn hget (hfd.trans (h.inv.ok.held fd conn hget).2)).2
      have hg' : ((s.connMgr.modifyConn conn f).conns g).isSome := hg
      rw [hconns] at hg'
      by_cases hgfd : g = fd
      · rw [hgfd, show s.conns fd = some _ from ConnMgrModule.conns_of_lookup hget]
        rfl
      · rwa [Function.update_of_ne hgfd] at hg'
  | @release fd epoller s' hrel =>
      obtain ⟨hclear, hsize⟩ := releaseAndClear_epoller hrel
      refine ⟨hinv, ?_, fun g hg => ?_⟩
      · rw [hsize, Epoller.delEvent_size hclear, h.size]
      · rw [(releaseAndClear_spec hrel h.inv.ok).2] at hg
        have hgfd : g ≠ fd := by
          rintro rfl
          rw [Function.update_self] at hg
          cases hg
        rw [Function.update_of_ne hgfd] at hg
        exact (h.serviceable g hg).congr (Epoller.delEvent_others hclear hgfd)
  | addWrite hadd =>
      exact ⟨hinv, (Epoller.addEvent_size hadd).trans h.size,
        fun g hg => (h.serviceable g hg).addWrite hadd⟩
  | delWrite hdel =>
      exact ⟨hinv, (Epoller.delEvent_size hdel).trans h.size,
        fun g hg => (h.serviceable g hg).delWrite hdel⟩

theorem Served.changes (h : s.Served) (hchanges : Changes s s') : s'.Served := by
  induction hchanges with
  | refl => exact h
  | tail _ hchange ih => exact ih.change hchange

/-- **A connection that is accepted** is registered exactly when its fd is below the size of
the pool. -/
theorem Served.accepted_iff (h : s.Served) (hfd : s.conns fd = none)
    (haccept : Accepted s fd true s') :
    s'.Inv ∧ s'.epoller.maxEventsSize = s'.connPoolSize ∧
      (s'.Serviceable ↔ fd < s.connPoolSize) := by
  obtain ⟨hinv, hconns⟩ := h.inv.accepted hfd haccept
  have hpos := haccept.fd_nonneg
  obtain ⟨conn, m, r, ep, -, hadd, rfl⟩ := haccept.made
  have hsize : ep.maxEventsSize = s.connPoolSize := (Epoller.addEvent_size hadd).trans h.size
  refine ⟨hinv, hsize, ?_⟩
  constructor
  · intro hserved
    obtain ⟨fe, hfe, -⟩ := hserved fd (by rw [hconns, Function.update_self]; rfl)
    unfold Epoller.fileEvent readAt at hfe
    split at hfe
    · next hin =>
      exact hsize ▸ hin.2
    · cases hfe
  · intro hlt g hg
    by_cases hgfd : g = fd
    · subst hgfd
      have hin : 0 ≤ g ∧ g < s.epoller.maxEventsSize := ⟨hpos, by rw [h.size]; exact hlt⟩
      have hfe : s.epoller.fileEvent g = .ok (s.epoller.fileEvents g.toNat) := if_pos hin
      refine ⟨_, Epoller.addEvent_fileEvent hadd hfe, ?_, rfl⟩
      exact Bool.or_true _
    · rw [hconns, Function.update_of_ne hgfd] at hg
      exact (h.serviceable g hg).congr (Epoller.addEvent_others hadd hgfd)

/-- **A step keeps the connections served** exactly when it meets the condition. -/
theorem Step.serviceable_iff (h : s.Served) (hregular : Regular held s e) (hstep : Step s e s') :
    (s'.Inv ∧ s'.epoller.maxEventsSize = s'.connPoolSize) ∧
      (s'.Serviceable ↔ BelowPoolSize s e) := by
  rcases hstep.made with ⟨hchanges, hnot⟩ | ⟨fd, clientData, ret, rfl, haccepted⟩
  · obtain ⟨hinv, hsize, hserved⟩ := h.changes hchanges
    refine ⟨⟨hinv, hsize⟩, iff_of_true hserved ?_⟩
    unfold BelowPoolSize
    split
    · intro hroom
      have := hnot hroom
      omega
    · trivial
  · obtain ⟨hclosed, hctl⟩ := hregular
    have hctl : ret.ctl = true := hctl
    rw [hctl] at haccepted
    obtain ⟨hinv, hsize, hiff⟩ := h.accepted_iff (hclosed haccepted.fd_nonneg).2 haccepted
    refine ⟨⟨hinv, hsize⟩, hiff.trans ?_⟩
    exact ⟨fun hlt _ => hlt, fun hbelow => hbelow haccepted.room⟩

theorem init_served (h : init connPoolSize raw listenFd = .ok s) : s.Served := by
  have hinv := init_inv h
  have hnone := (init_spec h).2
  obtain ⟨⟨r, ep⟩, hadd, h⟩ := bind_eq_ok.mp h
  dsimp only at h
  split at h
  · cases h
  · cases h
    refine ⟨hinv, ?_, fun fd hfd => ?_⟩
    · exact Epoller.addEvent_size hadd
    · rw [hnone fd] at hfd
      cases hfd

theorem Run.served (h : Run connPoolSize raw listenFd
    (fun s e => Regular held s e ∧ BelowPoolSize s e) s) : s.Served := by
  induction h with
  | init hinit => exact init_served hinit
  | step _ hmeets hstep ih =>
      obtain ⟨⟨hinv, hsize⟩, hiff⟩ := hstep.serviceable_iff ih hmeets.1
      exact ⟨hinv, hsize, hiff.mpr hmeets.2⟩

/-- **Every connection is served** between the events of every run that meets the
condition. -/
theorem run_serviceable (h : Run connPoolSize raw listenFd
    (fun s e => Regular held s e ∧ BelowPoolSize s e) s) : s.Serviceable :=
  h.served.serviceable

end

/-! ## Two runs -/

/-- A connsvr for eight connections, in a process that has the fds below 7, accepts a
connection on 7. -/
theorem run_serviceable_seven :
    ∃ s, Run 8 (fun _ => Connection.init) 3
        (fun s e => Regular (fun fd => fd < 7) s e ∧ BelowPoolSize s e) s ∧
      (s.conns 7).isSome ∧ s.Serviceable := by
  have hinit : init 8 (fun _ => Connection.init) 3 = .ok _ := rfl
  have hstart : Run 8 (fun _ => Connection.init) 3
      (fun s e => Regular (fun fd => fd < 7) s e ∧ BelowPoolSize s e) _ := .init hinit
  have hstep := Run.step hstart (e := .handler .doTcpAccept 3 true (acceptRet 7))
    ⟨⟨fun _ => ⟨by decide, rfl⟩, rfl⟩, fun _ => by decide⟩ (@Step.handler _ _ _ _ _ _ [] [] rfl)
  exact ⟨_, hstep, rfl, run_serviceable hstep⟩

/-- A connsvr for four connections accepts the same one, and it is not registered. -/
theorem run_unserviceable :
    ∃ s, Run 4 (fun _ => Connection.init) 3 (Regular fun fd => fd < 7) s ∧ ¬ s.Serviceable := by
  have hinit : init 4 (fun _ => Connection.init) 3 = .ok _ := rfl
  have hstart : Run 4 (fun _ => Connection.init) 3 (Regular fun fd => fd < 7) _ := .init hinit
  have hstep := Run.step hstart (e := .handler .doTcpAccept 3 true (acceptRet 7))
    ⟨fun _ => ⟨by decide, rfl⟩, rfl⟩ (@Step.handler _ _ _ _ _ _ [] [] rfl)
  refine ⟨_, hstep, fun hserved => ?_⟩
  obtain ⟨fe, hfe, -⟩ := hserved 7 rfl
  cases hfe

end ConnSvr

end PlayFrame
