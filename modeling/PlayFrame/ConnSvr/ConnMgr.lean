/-
# `PlayFrame.ConnSvr.ConnMgr` — the table of client connections

`connsvr/conn_mgr_module/conn_mgr_module.{h,cpp}`.  `conn_map_` leads from an fd to a
`Connection*` into `conn_pool_`.

`conns` is what the table means: the connection of each fd.  `ConnMgrModule.Ok` is the
agreement of table and pool that makes every operation a plain update of it.
-/
import PlayFrame.ConnSvr.Connection
import PlayFrame.Frame.ShmPool
import Mathlib.Data.Finmap

namespace PlayFrame

/-- `class ConnMgrModule`. -/
structure ConnMgrModule where
  connPool : ShmPool Connection
  connMap : Finmap (fun _ : Int => Nat)

namespace ConnMgrModule

/-- The state after `ModuleInit`, in a new segment. -/
def init (connPoolSize : Nat) (raw : Nat → Connection) : ConnMgrModule where
  connPool := ShmPool.init connPoolSize raw
  connMap := ∅

/-- `ConnMgrModule::GetCurConnMapSize`. -/
def getCurConnMapSize (m : ConnMgrModule) : Nat := m.connMap.keys.card

/-- `ConnMgrModule::CreateConn`; `Alloc` may have returned a null pointer. -/
def createConn (m : ConnMgrModule) (connFd : Int) : Result (Nat × ConnMgrModule) := do
  match ← m.connPool.alloc with
  | (none, _) => .error .badPointer
  | (some conn, connPool) =>
      .ok (conn, { connPool := connPool.modify conn (fun _ => Connection.init)
                   connMap := m.connMap.insert connFd conn })

/-- `ConnMgrModule::GetConn`. -/
def getConn (m : ConnMgrModule) (connFd : Int) : Option Nat := m.connMap.lookup connFd

/-- `ConnMgrModule::ReleaseConn`, without the `close` of the fd. -/
def releaseConn (m : ConnMgrModule) (connFd : Int) : Result ConnMgrModule :=
  match m.connMap.lookup connFd with
  | none => .ok m
  | some conn =>
      if (m.connPool.mem conn).connFd = connFd then do
        let connPool ← m.connPool.release conn
        .ok { connPool := connPool, connMap := m.connMap.erase connFd }
      else .ok m

/-- A write to a connection, through the pointer. -/
def modifyConn (m : ConnMgrModule) (conn : Nat) (f : Connection → Connection) : ConnMgrModule :=
  { m with connPool := m.connPool.modify conn f }

/-! ## The connections -/

/-- The connection of an fd. -/
def conns (m : ConnMgrModule) (connFd : Int) : Option Connection :=
  (m.connMap.lookup connFd).map m.connPool.mem

/-- Table and pool agree. -/
structure Ok (m : ConnMgrModule) : Prop where
  pool : m.connPool.Ok
  held : ∀ fd k, m.connMap.lookup fd = some k →
    m.connPool.Allocated k ∧ (m.connPool.mem k).connFd = fd
  owned : ∀ k, m.connPool.Allocated k → ∃ fd, m.connMap.lookup fd = some k

section
variable {m m' : ConnMgrModule} {fd fd' : Int} {k : Nat} {c : Connection}

theorem init_ok (connPoolSize : Nat) (raw : Nat → Connection) : (init connPoolSize raw).Ok where
  pool := ⟨_, ShmPool.init_inv connPoolSize raw⟩
  held := fun _ _ h => nomatch h
  owned := by
    rintro k ⟨-, -, h⟩
    have : -((k : Int) + 1) = k := h
    omega

theorem init_conns (connPoolSize : Nat) (raw : Nat → Connection) (fd : Int) :
    (init connPoolSize raw).conns fd = none := rfl

theorem conns_of_lookup (h : m.connMap.lookup fd = some k) :
    m.conns fd = some (m.connPool.mem k) := by
  unfold conns
  rw [h]
  rfl

theorem conns_eq_none : m.conns fd = none ↔ m.getConn fd = none := Option.map_eq_none_iff

theorem conns_eq_some (h : m.conns fd = some c) :
    ∃ k, m.getConn fd = some k ∧ m.connPool.mem k = c := Option.map_eq_some_iff.mp h

theorem Ok.inj (h : m.Ok) (h₁ : m.connMap.lookup fd = some k)
    (h₂ : m.connMap.lookup fd' = some k) : fd = fd' := by
  rw [← (h.held fd k h₁).2, (h.held fd' k h₂).2]

theorem Ok.connFd (h : m.Ok) (hc : m.conns fd = some c) : c.connFd = fd := by
  obtain ⟨k, hk, rfl⟩ := conns_eq_some hc
  exact (h.held fd k hk).2

/-! ### Writes to a connection -/

theorem Ok.modifyConn (h : m.Ok) (hk : m.getConn fd = some k) {f : Connection → Connection}
    (hf : (f (m.connPool.mem k)).connFd = fd) :
    (m.modifyConn k f).Ok ∧
      (m.modifyConn k f).conns = Function.update m.conns fd (some (f (m.connPool.mem k))) := by
  have hk' : m.connMap.lookup fd = some k := hk
  constructor
  · refine ⟨h.pool.modify, fun fd' j hj => ⟨(h.held fd' j hj).1, ?_⟩, h.owned⟩
    show ((m.connPool.modify k f).mem j).connFd = fd'
    by_cases hjk : j = k
    · subst hjk
      rw [ShmPool.modify_mem_self, hf, h.inj hk hj]
    · rw [ShmPool.modify_mem_of_ne hjk]
      exact (h.held fd' j hj).2
  · funext fd'
    by_cases hfd : fd' = fd
    · subst hfd
      have hlookup : (m.modifyConn k f).connMap.lookup fd' = some k := hk
      rw [Function.update_self, conns_of_lookup hlookup]
      exact congrArg some ShmPool.modify_mem_self
    · rw [Function.update_of_ne hfd]
      show (m.connMap.lookup fd').map _ = (m.connMap.lookup fd').map _
      cases hj : m.connMap.lookup fd' with
      | none => rfl
      | some j =>
          have hjk : j ≠ k := by
            rintro rfl
            exact hfd (h.inj hj hk)
          exact congrArg some (ShmPool.modify_mem_of_ne hjk)

/-! ### CreateConn -/

/-- **CreateConn** for an fd without a connection; the new connection gets its fd later. -/
theorem createConn_spec (h : m.Ok) (hfd : m.conns fd = none)
    (hv : 0 < m.connPool.validUnitCount) :
    ∃ k m', m.createConn fd = .ok (k, m') ∧ m'.getConn fd = some k ∧
      m'.connPool.mem k = Connection.init ∧
      m'.connPool.totalUnitCount = m.connPool.totalUnitCount ∧
      ∀ f : Connection → Connection, (f Connection.init).connFd = fd →
        (m'.modifyConn k f).Ok ∧
        (m'.modifyConn k f).conns = Function.update m.conns fd (some (f Connection.init)) := by
  obtain ⟨k, s', halloc, hg⟩ := ShmPool.alloc_some h.pool hv
  have hnone : m.connMap.lookup fd = none := conns_eq_none.mp hfd
  refine ⟨k, { connPool := s'.modify k (fun _ => Connection.init)
               connMap := m.connMap.insert fd k }, ?_, Finmap.lookup_insert _,
    Function.update_self .., hg.total, fun f hf => ?_⟩
  · unfold createConn
    rw [halloc]
    rfl
  have hlookup : ∀ fd', (m.connMap.insert fd k).lookup fd' =
      if fd' = fd then some k else m.connMap.lookup fd' := by
    intro fd'
    split
    · next e => rw [e, Finmap.lookup_insert]
    · next e => rw [Finmap.lookup_insert_of_ne _ e]
  have hmem : ∀ j, j ≠ k → ((s'.modify k fun _ => Connection.init).modify k f).mem j =
      m.connPool.mem j := by
    intro j hj
    rw [ShmPool.modify_mem_of_ne hj, ShmPool.modify_mem_of_ne hj, hg.mem]
  have hself : ((s'.modify k fun _ => Connection.init).modify k f).mem k = f Connection.init := by
    rw [ShmPool.modify_mem_self, ShmPool.modify_mem_self]
  have hold : ∀ fd' j, m.connMap.lookup fd' = some j → j ≠ k := by
    rintro fd' j hj rfl
    exact hg.fresh (h.held fd' j hj).1
  constructor
  · refine ⟨hg.ok.modify.modify, fun fd' j hj => ?_, fun j hj => ?_⟩
    · have hj' : (if fd' = fd then some k else m.connMap.lookup fd') = some j := by
        rw [← hlookup]
        exact hj
      split at hj'
      · next e =>
        cases hj'
        exact ⟨(hg.allocated k).mpr (Or.inr rfl), by
          rw [e, ← hf]
          exact congrArg Connection.connFd hself⟩
      · obtain ⟨ha, hc⟩ := h.held fd' j hj'
        refine ⟨(hg.allocated j).mpr (Or.inl ha), ?_⟩
        rw [← hc]
        exact congrArg Connection.connFd (hmem j (hold fd' j hj'))
    · rcases (hg.allocated j).mp hj with ha | rfl
      · obtain ⟨fd', hfd'⟩ := h.owned j ha
        refine ⟨fd', ?_⟩
        show (m.connMap.insert fd k).lookup fd' = some j
        rw [hlookup, if_neg, hfd']
        rintro rfl
        rw [hnone] at hfd'
        cases hfd'
      · exact ⟨fd, Finmap.lookup_insert _⟩
  · funext fd'
    show ((m.connMap.insert fd k).lookup fd').map
      ((s'.modify k fun _ => Connection.init).modify k f).mem = _
    rw [hlookup]
    split
    · next e => rw [e, Function.update_self, Option.map_some, hself]
    · next e =>
      rw [Function.update_of_ne e]
      unfold conns
      cases hj : m.connMap.lookup fd' with
      | none => rfl
      | some j => exact congrArg some (hmem j (hold fd' j hj))

/-! ### ReleaseConn -/

theorem releaseConn_none (hfd : m.conns fd = none) : m.releaseConn fd = .ok m := by
  have hnone : m.connMap.lookup fd = none := conns_eq_none.mp hfd
  unfold releaseConn
  rw [hnone]

/-- **ReleaseConn** removes the connection of the fd, if there is one. -/
theorem releaseConn_spec (h : m.Ok) (fd : Int) :
    ∃ m', m.releaseConn fd = .ok m' ∧ m'.Ok ∧ m'.conns = Function.update m.conns fd none ∧
      m'.connPool.totalUnitCount = m.connPool.totalUnitCount := by
  cases hk : m.connMap.lookup fd with
  | none =>
      have hnone : m.conns fd = none := conns_eq_none.mpr hk
      refine ⟨m, releaseConn_none hnone, h, ?_, rfl⟩
      rw [← hnone, Function.update_eq_self]
  | some k =>
      obtain ⟨ha, hc⟩ := h.held fd k hk
      obtain ⟨s', hrel, hs⟩ := ShmPool.release_spec h.pool ha
      refine ⟨{ connPool := s', connMap := m.connMap.erase fd }, ?_, ?_, ?_, hs.total⟩
      · unfold releaseConn
        rw [hk]
        show (if (m.connPool.mem k).connFd = fd then _ else _) = _
        rw [if_pos hc, hrel]
        rfl
      · refine ⟨hs.ok, fun fd' j hj => ?_, fun j hj => ?_⟩
        · have hj' : (m.connMap.erase fd).lookup fd' = some j := hj
          by_cases e : fd' = fd
          · rw [e, Finmap.lookup_erase] at hj'
            cases hj'
          · rw [Finmap.lookup_erase_ne e] at hj'
            obtain ⟨ha', hc'⟩ := h.held fd' j hj'
            refine ⟨(hs.allocated j).mpr ⟨ha', ?_⟩, ?_⟩
            · rintro rfl
              exact e (h.inj hj' hk)
            · show (s'.mem j).connFd = fd'
              rw [hs.mem]
              exact hc'
        · obtain ⟨ha', hne⟩ := (hs.allocated j).mp hj
          obtain ⟨fd', hfd'⟩ := h.owned j ha'
          refine ⟨fd', ?_⟩
          show (m.connMap.erase fd).lookup fd' = some j
          rw [Finmap.lookup_erase_ne, hfd']
          rintro rfl
          rw [hk] at hfd'
          cases hfd'
          exact hne rfl
      · funext fd'
        show ((m.connMap.erase fd).lookup fd').map s'.mem = _
        by_cases e : fd' = fd
        · rw [e, Finmap.lookup_erase, Function.update_self]
          rfl
        · rw [Finmap.lookup_erase_ne e, Function.update_of_ne e, hs.mem]
          rfl

end

end ConnMgrModule

end PlayFrame
