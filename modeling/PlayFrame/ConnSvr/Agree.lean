/-
# `PlayFrame.ConnSvr.Agree` — `conn_map_` and `conn_pool_`

`CreateConn` inserts an entry whose connection has no fd yet, `DoTcpAccept` writes it at its
end, and `ReleaseConn` releases only what has the fd it is called for.  Between two events
`conn_map_` is a bijection from its fds to the units in use, and each connection has the fd
of its entry (`run_agrees`).

So the size of the map is the number of units in use.  `DoTcpAccept` compares it with the
size of the pool, and `Alloc`, which `CreateConn` does not check, finds a free unit.
-/
import PlayFrame.ConnSvr.Change
import PlayFrame.Frame.ShmPoolRun

namespace PlayFrame

/-! ## The size of the map -/

namespace ConnMgrModule

/-- **The entries of the map and the free units** are as many as the units. -/
theorem Ok.card {m : ConnMgrModule} (h : m.Ok) :
    m.getCurConnMapSize + m.connPool.validUnitCount = m.connPool.totalUnitCount := by
  have hmem : ∀ {fd}, fd ∈ m.connMap.keys ↔ ∃ k, m.connMap.lookup fd = some k := by
    intro fd
    rw [Finmap.mem_keys, Finmap.mem_iff]
  have hcard : m.connMap.keys.card =
      ((Finset.Icc 1 m.connPool.totalUnitCount).filter m.connPool.Allocated).card := by
    refine Finset.card_bij (fun fd _ => (m.connMap.lookup fd).getD 0) ?_ ?_ ?_
    · intro fd hfd
      obtain ⟨k, hk⟩ := hmem.mp hfd
      have hused := (h.held fd k hk).1
      rw [hk, Option.getD_some, Finset.mem_filter, Finset.mem_Icc]
      exact ⟨⟨hused.1, hused.2.1⟩, hused⟩
    · intro fd hfd fd' hfd' heq
      obtain ⟨k, hk⟩ := hmem.mp hfd
      obtain ⟨k', hk'⟩ := hmem.mp hfd'
      rw [hk, hk', Option.getD_some, Option.getD_some] at heq
      exact h.inj hk (heq ▸ hk')
    · intro k hk
      obtain ⟨fd, hfd⟩ := h.owned k (Finset.mem_filter.mp hk).2
      exact ⟨fd, hmem.mpr ⟨k, hfd⟩, by rw [hfd]; rfl⟩
  unfold getCurConnMapSize
  rw [hcard]
  exact h.pool.card_allocated

end ConnMgrModule

namespace ConnSvr

/-- **Table and pool agree.** -/
structure Agrees (s : ConnSvr) : Prop where
  mapped : ∀ fd k, s.connMgr.getConn fd = some k → s.connMgr.connPool.Allocated k
  injective : ∀ fd fd' k, s.connMgr.getConn fd = some k → s.connMgr.getConn fd' = some k →
    fd = fd'
  surjective : ∀ k, s.connMgr.connPool.Allocated k → ∃ fd, s.connMgr.getConn fd = some k
  connFd : ∀ fd k, s.connMgr.getConn fd = some k → (s.connMgr.connPool.mem k).connFd = fd
  /-- what the guard of `DoTcpAccept` is for -/
  alloc : s.connMgr.getCurConnMapSize < s.connPoolSize →
    ∃ k pool, s.connMgr.connPool.alloc = .ok (some k, pool)
  /-- `ReleaseConn` releases the unit that it has looked up -/
  release : ∀ fd k, s.connMgr.getConn fd = some k →
    ∃ pool, s.connMgr.connPool.release k = .ok pool ∧
      s.connMgr.releaseConn fd = .ok ⟨pool, s.connMgr.connMap.erase fd⟩

/-- What every event keeps. -/
structure Inv (s : ConnSvr) : Prop where
  ok : s.connMgr.Ok
  total : s.connMgr.connPool.totalUnitCount = s.connPoolSize

section
variable {s s' : ConnSvr} {fd : Int} {epoller ctl : Bool} {e : Event} {connPoolSize : Nat}
  {raw : Nat → Connection} {listenFd : Int} {held : Int → Prop}

theorem Inv.agrees (h : s.Inv) : s.Agrees where
  mapped := fun fd k hk => (h.ok.held fd k hk).1
  injective := fun _ _ _ hk hk' => h.ok.inj hk hk'
  surjective := h.ok.owned
  connFd := fun fd k hk => (h.ok.held fd k hk).2
  alloc := by
    intro hroom
    have hcard := h.ok.card
    have hv : 0 < s.connMgr.connPool.validUnitCount := by
      rw [h.total] at hcard
      omega
    obtain ⟨k, pool, halloc, -⟩ := ShmPool.alloc_some h.ok.pool hv
    exact ⟨k, pool, halloc⟩
  release := by
    intro fd k hk
    obtain ⟨hused, hfd⟩ := h.ok.held fd k hk
    obtain ⟨pool, hrel, -⟩ := ShmPool.release_spec h.ok.pool hused
    refine ⟨pool, hrel, ?_⟩
    have hlookup : s.connMgr.connMap.lookup fd = some k := hk
    simp only [ConnMgrModule.releaseConn, hlookup, hfd, if_true, hrel, ok_bind]

/-! ## What keeps it -/

theorem Inv.release (h : s.Inv) (hrel : s.releaseAndClear epoller fd = .ok s') : s'.Inv := by
  obtain ⟨hok, -⟩ := releaseAndClear_spec hrel h.ok
  obtain ⟨m, hm, -, -, htotal⟩ := ConnMgrModule.releaseConn_spec h.ok fd
  unfold releaseAndClear at hrel
  rw [hm, ok_bind] at hrel
  cases epoller with
  | false => cases hrel
  | true =>
      obtain ⟨ep, -, hrel⟩ := bind_eq_ok.mp hrel
      cases hrel
      exact ⟨hok, htotal.trans h.total⟩

theorem Inv.change (h : s.Inv) (hchange : Change s s') : s'.Inv := by
  cases hchange with
  | zmqBuf buf => exact ⟨h.ok, h.total⟩
  | @write fd conn f hget hfd =>
      have hconn := (h.ok.held fd conn hget).2
      exact ⟨(h.ok.modifyConn hget (hfd.trans hconn)).1, h.total⟩
  | release hrel => exact h.release hrel
  | addWrite _ => exact ⟨h.ok, h.total⟩
  | delWrite _ => exact ⟨h.ok, h.total⟩

theorem Inv.changes (h : s.Inv) (hchanges : Changes s s') : s'.Inv := by
  induction hchanges with
  | refl => exact h
  | tail _ hchange ih => exact ih.change hchange

theorem Inv.accepted (h : s.Inv) (hfd : s.conns fd = none) (haccept : Accepted s fd ctl s') :
    s'.Inv ∧ s'.conns = Function.update s.conns fd (some (accepted fd)) := by
  obtain ⟨k, pool, halloc⟩ := h.agrees.alloc haccept.room
  have hv : 0 < s.connMgr.connPool.validUnitCount := by
    by_contra hzero
    rw [ShmPool.alloc_none (Nat.eq_zero_of_not_pos hzero)] at halloc
    cases halloc
  obtain ⟨conn, m, r, ep, hcreate, -, rfl⟩ := haccept.made
  obtain ⟨conn', m', hcreate', -, -, htotal, hconn⟩ :=
    ConnMgrModule.createConn_spec h.ok hfd hv
  rw [hcreate] at hcreate'
  cases hcreate'
  obtain ⟨hok, hconns⟩ := hconn (fun _ => ConnSvr.accepted fd) rfl
  exact ⟨⟨hok, htotal.trans h.total⟩, hconns⟩

theorem Inv.step (h : s.Inv) (haccept : AcceptsClosed held s e) (hstep : Step s e s') :
    s'.Inv := by
  rcases hstep.made with ⟨hchanges, -⟩ | ⟨fd, clientData, ret, rfl, haccepted⟩
  · exact h.changes hchanges
  · exact (h.accepted (haccept haccepted.fd_nonneg).2 haccepted).1

theorem init_inv (h : init connPoolSize raw listenFd = .ok s) : s.Inv := by
  obtain ⟨⟨r, ep⟩, -, h⟩ := bind_eq_ok.mp h
  dsimp only at h
  split at h
  · cases h
  · cases h
    exact ⟨ConnMgrModule.init_ok connPoolSize raw, rfl⟩

theorem Run.inv {meets : ConnSvr → Event → Prop} (h : Run connPoolSize raw listenFd meets s)
    (hmeets : ∀ s e, meets s e → AcceptsClosed held s e) : s.Inv := by
  induction h with
  | init hinit => exact init_inv hinit
  | step _ hmeet hstep ih => exact ih.step (hmeets _ _ hmeet) hstep

/-- **Table and pool agree** between the events of every run. -/
theorem run_agrees (h : Run connPoolSize raw listenFd (AcceptsClosed held) s) : s.Agrees :=
  (h.inv fun _ _ => id).agrees

end

/-! ## A run -/

/-- What the system calls answer when a connection on `fd` is accepted. -/
def acceptRet (fd : Int) : SysRet := ⟨fd, .failed, .failed, true, fun _ => true⟩

/-- A connsvr for four connections listens on 3, and accepts a connection on 5. -/
theorem run_agrees_accepted :
    ∃ s, Run 4 (fun _ => Connection.init) 3 (AcceptsClosed (fun fd => fd < 5)) s ∧
      s.connMgr.getConn 5 = some 1 ∧ s.Agrees := by
  have hinit : init 4 (fun _ => Connection.init) 3 = .ok _ := rfl
  have hstart : Run 4 (fun _ => Connection.init) 3 (AcceptsClosed fun fd => fd < 5) _ := .init hinit
  have hstep := Run.step hstart (e := .handler .doTcpAccept 3 true (acceptRet 5))
    (fun _ => ⟨by decide, rfl⟩) (@Step.handler _ _ _ _ _ _ [] [] rfl)
  exact ⟨_, hstep, rfl, run_agrees hstep⟩

end ConnSvr

end PlayFrame
