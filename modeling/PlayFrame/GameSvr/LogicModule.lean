/-
# `PlayFrame.GameSvr.LogicModule` — the asynchronous logics and their timers

`gamesvr/logic_module/logic_module.{h,cpp}` and `logic/logic_base.h`.  A logic is an
instance of one of the logic types, known by the id of the timer that bounds its life;
each message that carries the id runs the step the instance is at.

The steps are a parameter: a `LogicFunc` is given the instance, a message and a world
`ω` (all the rest of the server), and answers with a return code.  `malloc` does not
clear the memory of an instance, so its first content is an argument of `createLogic`.

`LogicStore` carries two logs that the source does not have: the ids of the instances
created and of the instances freed, the last one first.
-/
import PlayFrame.Frame.HeapTimerMap

namespace PlayFrame

/-! ## `logic_base.h` -/

/-- `LOGIC_FAILED`. -/
def logicFailed : Int := -1
/-- `LOGIC_YIELD`. -/
def logicYield : Int := 0
/-- `LOGIC_FINISH`. -/
def logicFinish : Int := 99

/-- `LogicDataHead`. -/
structure LogicDataHead where
  logicId : Int
  logicType : Int
  step : Int
  deriving DecidableEq, Repr

/-- The data of an instance: the head, and what its logic type keeps in it. -/
structure LogicData (β : Type) where
  head : LogicDataHead
  body : β

/-- `LogicFunc`, on messages `μ` and a world `ω`. -/
abbrev LogicFunc (β μ ω : Type) : Type :=
  LogicData β → μ → ω → Result (Int × LogicData β × ω)

/-- `class LogicBase`: its `logic_func_vec_`. -/
abbrev LogicBase (β μ ω : Type) : Type := List (LogicFunc β μ ω)

variable {β μ ω : Type}

/-- `LogicBase::ChangeStep`. -/
def changeStep (logicData : LogicData β) (step : Int) : LogicData β :=
  { logicData with head := { logicData.head with step := step } }

/-- `LogicBase::Proc`. -/
def LogicBase.proc (logic : LogicBase β μ ω) (logicData : LogicData β) (msg : μ) (w : ω) :
    Result (Int × LogicData β × ω) :=
  if logicData.head.step < 0 ∨ logicData.head.step ≥ logic.length then
    .ok (logicFailed, logicData, w)
  else
    match logic[logicData.head.step.toNat]? with
    | some f => f logicData msg w
    | none => .error .outOfBounds

theorem LogicBase.proc_cases (logic : LogicBase β μ ω) (d : LogicData β) (msg : μ) (w : ω) :
    logic.proc d msg w = .ok (logicFailed, d, w) ∨
      ∃ f ∈ logic, logic.proc d msg w = f d msg w := by
  unfold LogicBase.proc
  split
  · exact Or.inl rfl
  · next h =>
    have hlt : d.head.step.toNat < logic.length := by omega
    rw [List.getElem?_eq_getElem hlt]
    exact Or.inr ⟨_, List.getElem_mem hlt, rfl⟩

/-! ## The state of the module -/

/-- `logic_data_map_`, and the logs. -/
structure LogicStore (β : Type) where
  logicDataMap : Finmap (fun _ : Int => LogicData β)
  created : List Int
  freed : List Int

/-- `class LogicModule`.  Its timers have the module itself as callback object and no data. -/
structure LogicModule (β : Type) where
  heapTimer : HeapTimer Unit Unit
  store : LogicStore β

/-- `logic_type_map_` and `logic_data_size_map_`. -/
structure LogicTypes (β μ ω : Type) where
  logicTypeMap : Int → Option (LogicBase β μ ω)
  logicDataSizeMap : Int → Option Nat

/-- `LogicModule::DeleteLogicData`. -/
def LogicStore.deleteLogicData (logicId : Int) (st : LogicStore β) : LogicStore β :=
  match st.logicDataMap.lookup logicId with
  | some _ => { st with
      logicDataMap := st.logicDataMap.erase logicId
      freed := logicId :: st.freed }
  | none => st

/-- `std::map::insert`, which does not replace an entry. -/
def LogicStore.insert (logicId : Int) (d : LogicData β) (st : LogicStore β) : LogicStore β :=
  match st.logicDataMap.lookup logicId with
  | some _ => st
  | none => { st with
      logicDataMap := st.logicDataMap.insert logicId d
      created := logicId :: st.created }

namespace LogicModule

/-- The state after `ModuleInit` in the second `now`. -/
def init (logicTimerInitSize : Nat) (now : Int) : LogicModule β where
  heapTimer := HeapTimer.init logicTimerInitSize now
  store := { logicDataMap := ∅, created := [], freed := [] }

/-- `LogicModule::CreateLogic` in the second `now`; `raw` is what `malloc` returns. -/
def createLogic (types : LogicTypes β μ ω) (m : LogicModule β) (now : Int) (raw : β)
    (logicType taskDelaySecs : Int) : Result (Int × LogicModule β) :=
  match types.logicDataSizeMap logicType with
  | none => .ok (-1, m)
  | some _ => do
      let (logicId, heapTimer) ←
        if taskDelaySecs > 0 then do
          let interval ← TimeValue.set taskDelaySecs 0
          m.heapTimer.registerTimer now interval interval (some ()) ()
        else .ok (0, m.heapTimer)
      let logicData :=
        { head := { logicId := logicId, logicType := logicType, step := 0 }, body := raw }
      .ok (logicId, { heapTimer := heapTimer, store := m.store.insert logicId logicData })

/-- `LogicModule::Proc`; the step works on the instance in the map. -/
def proc (types : LogicTypes β μ ω) (m : LogicModule β) (logicId : Int) (msg : μ) (w : ω) :
    Result (LogicModule β × ω) :=
  match m.store.logicDataMap.lookup logicId with
  | none => .ok (m, w)
  | some logicData =>
      match types.logicTypeMap logicData.head.logicType with
      | none => .ok (m, w)
      | some logic => do
          let (ret, logicData, w) ← logic.proc logicData msg w
          let m := { m with store := { m.store with
            logicDataMap := m.store.logicDataMap.insert logicId logicData } }
          if ret ≠ logicYield then do
            let m := { m with store := m.store.deleteLogicData logicId }
            if logicId ≠ 0 then do
              let heapTimer ← m.heapTimer.unregisterTimer logicId
              .ok ({ m with heapTimer := heapTimer }, w)
            else .ok (m, w)
          else .ok (m, w)

/-- `LogicModule::OnTimer`. -/
def onTimer (logicId : Int) (st : LogicStore β) : Int × LogicStore β :=
  (-1, st.deleteLogicData logicId)

/-- `LogicModule::Update` at the time `now`.  One pass for each timer is enough. -/
def update (m : LogicModule β) (now : TimeValue) : Result (Option (LogicModule β)) := do
  match ← m.heapTimer.timerPoll (m.heapTimer.curSize + 1) now
      (HeapTimer.quiet fun _ logicId _ st => onTimer logicId st) m.store with
  | some (_, heapTimer, store) => .ok (some { heapTimer := heapTimer, store := store })
  | none => .ok none

end LogicModule

/-! ## The store -/

section
variable {st : LogicStore β} {id : Int} {d : LogicData β}

theorem LogicStore.insert_of_notMem (h : id ∉ st.logicDataMap) :
    st.insert id d = { st with
      logicDataMap := st.logicDataMap.insert id d
      created := id :: st.created } := by
  unfold LogicStore.insert
  rw [Finmap.lookup_eq_none.mpr h]

theorem LogicStore.delete_of_mem (h : id ∈ st.logicDataMap) :
    st.deleteLogicData id = { st with
      logicDataMap := st.logicDataMap.erase id
      freed := id :: st.freed } := by
  obtain ⟨d, hd⟩ := Finmap.mem_iff.mp h
  unfold LogicStore.deleteLogicData
  rw [hd]

theorem LogicStore.delete_foldl : ∀ (ids : List Int) {st : LogicStore β}, ids.Nodup →
    (∀ id ∈ ids, id ∈ st.logicDataMap) →
    ∃ st', ids.foldl (fun st id => st.deleteLogicData id) st = st' ∧ st'.created = st.created ∧
      st'.freed = ids.reverse ++ st.freed ∧
      ∀ id, st'.logicDataMap.lookup id = if id ∈ ids then none else st.logicDataMap.lookup id
  | [], st, _, _ => ⟨st, rfl, rfl, rfl, fun _ => rfl⟩
  | k :: ids, st, hnd, hmem => by
      obtain ⟨hk, hnd⟩ := List.nodup_cons.mp hnd
      have hdel := LogicStore.delete_of_mem (hmem k List.mem_cons_self)
      have hrest : ∀ id ∈ ids, id ∈ (st.deleteLogicData k).logicDataMap := by
        intro id hid
        rw [hdel]
        refine Finmap.mem_erase.mpr ⟨?_, hmem id (List.mem_cons_of_mem _ hid)⟩
        rintro rfl
        exact hk hid
      obtain ⟨st', hst', hc, hf, hm⟩ := LogicStore.delete_foldl ids hnd hrest
      refine ⟨st', hst', ?_, ?_, fun id => ?_⟩
      · rw [hc, hdel]
      · rw [hf, hdel, List.reverse_cons, List.append_assoc]
        rfl
      · rw [hm id, hdel]
        by_cases hid : id = k
        · subst hid
          rw [if_neg hk, if_pos List.mem_cons_self]
          exact Finmap.lookup_erase ..
        · rw [Finmap.lookup_erase_ne hid]
          by_cases hin : id ∈ ids
          · rw [if_pos hin, if_pos (List.mem_cons_of_mem _ hin)]
          · rw [if_neg hin, if_neg (fun h => (List.mem_cons.mp h).elim hid hin)]

end

/-! ## Runs -/

namespace LogicModule

open HeapTimer

/-- One call of the module: an instance with a life time is created, a message arrives
for any id, or the timers are polled. -/
inductive LogicStep (types : LogicTypes β μ ω) : LogicModule β → LogicModule β → Prop
  | create {m m' : LogicModule β} {logicId : Int} (now : Int) (raw : β)
      (logicType taskDelaySecs : Int) : 0 < taskDelaySecs →
      m.store.created.length + 1 < 2147483646 →
      m.createLogic types now raw logicType taskDelaySecs = .ok (logicId, m') →
      m'.heapTimer.heapSize < capLimit → LogicStep types m m'
  | proc {m m' : LogicModule β} {w w' : ω} (logicId : Int) (msg : μ) :
      m.proc types logicId msg w = .ok (m', w') → LogicStep types m m'
  | update {m m' : LogicModule β} (now : TimeValue) :
      m.update now = .ok (some m') → LogicStep types m m'

/-- The states a run reaches from the module made in the second `start`. -/
inductive LogicRun (types : LogicTypes β μ ω) (size : Nat) (start : Int) :
    LogicModule β → Prop
  | init : size + 1 < capLimit → LogicRun types size start (init size start)
  | step {m m' : LogicModule β} : LogicRun types size start m → LogicStep types m m' →
      LogicRun types size start m'

/-- The instances and their timers. -/
structure LogicInv (size : Nat) (start : Int) (m : LogicModule β) : Prop where
  reach : Reach size start m.store.created m.heapTimer
  keys : ∀ id, id ∈ m.store.logicDataMap ↔ id ∈ timers m.heapTimer
  owner : ∀ p n, m.heapTimer.nodes p = some n → n.cbObj.isSome
  created_nodup : m.store.created.Nodup
  freed_nodup : m.store.freed.Nodup
  created_iff : ∀ id, id ∈ m.store.created ↔ id ∈ m.store.logicDataMap ∨ id ∈ m.store.freed
  apart : ∀ id ∈ m.store.freed, id ∉ m.store.logicDataMap

section
variable {types : LogicTypes β μ ω} {size : Nat} {start : Int} {m m' : LogicModule β}
  {logicId : Int} {w w' : ω} {msg : μ}

theorem init_logicInv (hcap : size + 1 < capLimit) :
    LogicInv size start (init size start : LogicModule β) where
  reach := .init hcap
  keys := by
    intro id
    exact iff_of_false Finmap.notMem_empty Finmap.notMem_empty
  owner := fun _ _ h => nomatch h
  created_nodup := List.nodup_nil
  freed_nodup := List.nodup_nil
  created_iff := by
    intro id
    exact iff_of_false List.not_mem_nil
      (fun h => h.elim Finmap.notMem_empty List.not_mem_nil)
  apart := fun _ h => absurd h List.not_mem_nil

/-! ### CreateLogic -/

theorem delay_eq (taskDelaySecs : Int) :
    TimeValue.set taskDelaySecs 0 = .ok ⟨taskDelaySecs, 0⟩ := start_eq taskDelaySecs

theorem createLogic_eq {now : Int} {raw : β} {logicType taskDelaySecs : Int} {sz : Nat}
    (hd : 0 < taskDelaySecs) (hsz : types.logicDataSizeMap logicType = some sz) :
    m.createLogic types now raw logicType taskDelaySecs = (do
      let (logicId, heapTimer) ← m.heapTimer.registerTimer now ⟨taskDelaySecs, 0⟩
        ⟨taskDelaySecs, 0⟩ (some ()) ()
      .ok (logicId, { heapTimer := heapTimer
                      store := m.store.insert logicId
                        ⟨⟨logicId, logicType, 0⟩, raw⟩ })) := by
  simp only [createLogic, hsz, gt_iff_lt, hd, if_true, delay_eq, ok_bind]

/-- What `CreateLogic` changes: there is one more instance, under an id that was never
used, and its timer. -/
structure Created (m m' : LogicModule β) (logicId logicType : Int) (raw : β) : Prop where
  pos : 0 < logicId
  lt : logicId < 9223372036854775808
  fresh : logicId ∉ m.store.created
  created : m'.store.created = logicId :: m.store.created
  freed : m'.store.freed = m.store.freed
  logicDataMap : m'.store.logicDataMap =
    m.store.logicDataMap.insert logicId ⟨⟨logicId, logicType, 0⟩, raw⟩

theorem createLogic_spec (hsize : 1 ≤ size) (hseed : (Random.init 0 start).Seeded)
    (hm : LogicInv size start m) {now : Int} {raw : β} {logicType taskDelaySecs : Int} {sz : Nat}
    (hsz : types.logicDataSizeMap logicType = some sz)
    (hd : 0 < taskDelaySecs) (hN : m.store.created.length + 1 < 2147483646)
    (h : m.createLogic types now raw logicType taskDelaySecs = .ok (logicId, m'))
    (hcap : m'.heapTimer.heapSize < capLimit) :
    Created m m' logicId logicType raw ∧ LogicInv size start m' := by
  obtain ⟨hs, hc, -⟩ := hm.reach.inv hsize
  rw [createLogic_eq hd hsz] at h
  obtain ⟨⟨id, heapTimer⟩, hreg, h⟩ := bind_eq_ok.mp h
  cases h
  have hne : (⟨taskDelaySecs, 0⟩ : TimeValue) ≠ ⟨0, 0⟩ :=
    fun e => hd.ne' (congrArg TimeValue.sec e)
  rcases registerTimer_step hs hc hreg with ⟨e, -⟩ | ⟨k, hk0, hk, hfree, -, -, rfl, hadd⟩
  · exact absurd e hne
  have hfresh := hm.reach.fresh_id hsize hseed
    (Nat.lt_of_le_of_lt (Nat.succ_le_succ (List.length_filter_le _ _)) hN) k
  have hnot : makeTimerId k m.heapTimer.randMaker.getRand.1 ∉ m.store.logicDataMap :=
    fun hin => hfresh ((hm.created_iff _).mpr (Or.inl hin))
  have hrange := Random.getRand_range hs.seed.1 hs.seed.2
  have hM : Random.M < 4294967296 := by decide
  have hcapLimit : capLimit = 1073741824 := rfl
  have hid := makeTimerId_eq (Int.natCast_nonneg k) hrange.1 (hrange.2.trans hM)
  rw [LogicStore.insert_of_notMem hnot] at *
  have hmap := timers_added hs hadd
  refine ⟨⟨?_, ?_, hfresh, rfl, rfl, rfl⟩,
    { reach := .register now _ _ _ _ hm.reach hreg hcap
      keys := fun id => ?_
      owner := fun p n hn => ?_
      created_nodup := List.nodup_cons.mpr ⟨hfresh, hm.created_nodup⟩
      freed_nodup := hm.freed_nodup
      created_iff := fun id => ?_
      apart := fun id hid hin => ?_ }⟩
  · omega
  · omega
  · show id ∈ m.store.logicDataMap.insert _ _ ↔ id ∈ timers heapTimer
    rw [hmap, Finmap.mem_insert, Finmap.mem_insert, hm.keys id]
    rfl
  · rw [hadd.nodes] at hn
    by_cases hp : p = m.heapTimer.fresh
    · subst hp
      rw [Function.update_self] at hn
      cases hn
      rfl
    · rw [Function.update_of_ne hp] at hn
      exact hm.owner p n hn
  · show id ∈ _ :: m.store.created ↔ id ∈ m.store.logicDataMap.insert _ _ ∨ id ∈ m.store.freed
    rw [List.mem_cons, Finmap.mem_insert, hm.created_iff id, or_assoc]
  · rcases Finmap.mem_insert.mp hin with rfl | hin
    · exact hfresh ((hm.created_iff _).mpr (Or.inr hid))
    · exact hm.apart id hid hin

theorem createLogic_logicInv (hsize : 1 ≤ size) (hseed : (Random.init 0 start).Seeded)
    (hm : LogicInv size start m) {now : Int} {raw : β} {logicType taskDelaySecs : Int}
    (hd : 0 < taskDelaySecs) (hN : m.store.created.length + 1 < 2147483646)
    (h : m.createLogic types now raw logicType taskDelaySecs = .ok (logicId, m'))
    (hcap : m'.heapTimer.heapSize < capLimit) : LogicInv size start m' := by
  cases hsz : types.logicDataSizeMap logicType with
  | none =>
      simp only [createLogic, hsz] at h
      cases h
      exact hm
  | some sz => exact (createLogic_spec hsize hseed hm hsz hd hN h hcap).2

/-! ### Proc -/

/-- **Proc of an id without an instance** runs no step and changes nothing. -/
theorem proc_of_notMem (h : logicId ∉ m.store.logicDataMap) :
    m.proc types logicId msg w = .ok (m, w) := by
  unfold proc
  rw [Finmap.lookup_eq_none.mpr h]

theorem LogicInv.delete (hsize : 1 ≤ size) (hm : LogicInv size start m)
    (hmem : logicId ∈ m.store.logicDataMap) :
    ∃ heapTimer, m.heapTimer.unregisterTimer logicId = .ok heapTimer ∧ logicId ≠ 0 ∧
      timers heapTimer = (timers m.heapTimer).erase logicId ∧
      LogicInv size start ⟨heapTimer, m.store.deleteLogicData logicId⟩ := by
  obtain ⟨hs, hc, hids⟩ := hm.reach.inv hsize
  have hcreated := (hm.created_iff logicId).mpr (Or.inl hmem)
  obtain ⟨p, n, hn, hid⟩ := (mem_timers hs).mp ((hm.keys logicId).mp hmem)
  obtain ⟨s', hs', hd⟩ := unregisterTimer_hit hs hn
    (show Names logicId n from ⟨by rw [hid], by rw [hid]⟩)
  have hmap := timers_dropped hs hn hd
  rw [hid] at hmap
  have hdel := LogicStore.delete_of_mem hmem
  refine ⟨s', hs', ?_, hmap, ?_⟩
  · rintro rfl
    have ho := hs.owns p n hn
    have := ho.pos
    have hz : slot n = 0 := by unfold slot; rw [hid]; rfl
    omega
  rw [hdel]
  refine
    { reach := .unregister hm.reach hcreated hs'
      keys := fun id => ?_
      owner := fun q k hk => ?_
      created_nodup := hm.created_nodup
      freed_nodup := List.nodup_cons.mpr ⟨fun h => hm.apart _ h hmem, hm.freed_nodup⟩
      created_iff := fun id => ?_
      apart := fun id hid hin => ?_ }
  · show id ∈ m.store.logicDataMap.erase logicId ↔ id ∈ timers s'
    rw [hmap, Finmap.mem_erase, Finmap.mem_erase, hm.keys id]
  · rw [hd.nodes, update_none_eq_some] at hk
    exact hm.owner q k hk.2
  · show id ∈ m.store.created ↔ id ∈ m.store.logicDataMap.erase logicId ∨
      id ∈ logicId :: m.store.freed
    rw [Finmap.mem_erase, List.mem_cons, hm.created_iff id]
    by_cases e : id = logicId
    · subst e; simp [hmem]
    · simp [e]
  · obtain ⟨hne, hin⟩ := Finmap.mem_erase.mp hin
    exact hm.apart id ((List.mem_cons.mp hid).resolve_left hne) hin

theorem LogicInv.write (hm : LogicInv size start m) (hmem : logicId ∈ m.store.logicDataMap)
    (d : LogicData β) : LogicInv size start ⟨m.heapTimer, { m.store with
      logicDataMap := m.store.logicDataMap.insert logicId d }⟩ := by
  have hiff : ∀ id, id ∈ m.store.logicDataMap.insert logicId d ↔ id ∈ m.store.logicDataMap := by
    intro id
    rw [Finmap.mem_insert]
    exact or_iff_right_of_imp (fun e => e ▸ hmem)
  exact
    { hm with
      keys := fun id => (hiff id).trans (hm.keys id)
      created_iff := fun id => (hm.created_iff id).trans (or_congr_left (hiff id).symm)
      apart := fun id hid hin => hm.apart id hid ((hiff id).mp hin) }

/-- **Proc of a live instance** with a step that returned `ret`: a yielding instance
stays, any other is deleted together with its timer. -/
theorem proc_of_mem (hsize : 1 ≤ size) (hm : LogicInv size start m) {d d' : LogicData β}
    {logic : LogicBase β μ ω} {ret : Int} (hd : m.store.logicDataMap.lookup logicId = some d)
    (htype : types.logicTypeMap d.head.logicType = some logic)
    (hstep : logic.proc d msg w = .ok (ret, d', w')) :
    ∃ m', m.proc types logicId msg w = .ok (m', w') ∧ LogicInv size start m' ∧
      m'.store.created = m.store.created ∧
      m'.store.freed = (if ret = logicYield then [] else [logicId]) ++ m.store.freed := by
  have hmem := Finmap.mem_of_lookup_eq_some hd
  have hw := hm.write hmem d'
  have hmem' : logicId ∈ m.store.logicDataMap.insert logicId d' :=
    Finmap.mem_insert.mpr (Or.inl rfl)
  by_cases hret : ret = logicYield
  · refine ⟨_, ?_, hw, rfl, by rw [if_pos hret]; rfl⟩
    simp only [proc, hd, htype, hstep, ok_bind, hret, ne_eq, not_true_eq_false, if_false]
  · obtain ⟨heapTimer, hun, hne, -, hinv⟩ := hw.delete hsize hmem'
    refine ⟨_, ?_, hinv, ?_, ?_⟩
    · simp only [proc, hd, htype, hstep, ok_bind, hret, hne, hun, ne_eq, not_false_eq_true, if_true]
    · rw [LogicStore.delete_of_mem hmem']
    · rw [LogicStore.delete_of_mem hmem', if_neg hret]
      rfl

/-- **Proc**, by what it finds: no step runs and nothing changes, or the step of the
instance runs, and the instance is kept exactly if the step yields. -/
theorem proc_cases (h : m.proc types logicId msg w = .ok (m', w')) :
    (m' = m ∧ w' = w ∧ ∀ d, m.store.logicDataMap.lookup logicId = some d →
      types.logicTypeMap d.head.logicType = none) ∨
    ∃ d logic ret d', m.store.logicDataMap.lookup logicId = some d ∧
      types.logicTypeMap d.head.logicType = some logic ∧
      logic.proc d msg w = .ok (ret, d', w') ∧ m'.store.created = m.store.created ∧
      ∀ id, m'.store.logicDataMap.lookup id =
        if id = logicId then if ret = logicYield then some d' else none
        else m.store.logicDataMap.lookup id := by
  unfold proc at h
  cases hd : m.store.logicDataMap.lookup logicId with
  | none =>
      simp only [hd] at h
      cases h
      exact Or.inl ⟨rfl, rfl, fun d h => nomatch h⟩
  | some d =>
      cases htype : types.logicTypeMap d.head.logicType with
      | none =>
          simp only [hd, htype] at h
          cases h
          refine Or.inl ⟨rfl, rfl, fun d₁ h => ?_⟩
          cases h
          exact htype
      | some logic =>
          simp only [hd, htype] at h
          obtain ⟨⟨ret, d', w₁⟩, hstep, h⟩ := bind_eq_ok.mp h
          refine Or.inr ⟨d, logic, ret, d', rfl, htype, ?_⟩
          have hwritten : ∀ id, (m.store.logicDataMap.insert logicId d').lookup id =
              if id = logicId then some d' else m.store.logicDataMap.lookup id := by
            intro id
            split
            · next e => rw [e]; exact Finmap.lookup_insert _
            · next e => exact Finmap.lookup_insert_of_ne _ e
          dsimp only at h
          split at h
          · next hret =>
            have hmem : logicId ∈ m.store.logicDataMap.insert logicId d' :=
              Finmap.mem_insert.mpr (Or.inl rfl)
            have hdel : LogicStore.deleteLogicData logicId { m.store with
                logicDataMap := m.store.logicDataMap.insert logicId d' } = _ :=
              LogicStore.delete_of_mem hmem
            have herased : ∀ id, ((m.store.logicDataMap.insert logicId d').erase logicId).lookup id =
                if id = logicId then none else m.store.logicDataMap.lookup id := by
              intro id
              split
              · next e => rw [e]; exact Finmap.lookup_erase ..
              · next e => rw [Finmap.lookup_erase_ne e, hwritten, if_neg e]
            rw [if_neg hret]
            rw [hdel] at h
            split at h
            · obtain ⟨heapTimer, -, h⟩ := bind_eq_ok.mp h
              cases h
              exact ⟨hstep, rfl, herased⟩
            · cases h
              exact ⟨hstep, rfl, herased⟩
          · next hret =>
            cases h
            refine ⟨hstep, rfl, fun id => ?_⟩
            rw [if_pos (not_not.mp hret)]
            exact hwritten id

theorem proc_logicInv (hsize : 1 ≤ size) (hm : LogicInv size start m)
    (h : m.proc types logicId msg w = .ok (m', w')) : LogicInv size start m' := by
  cases hd : m.store.logicDataMap.lookup logicId with
  | none =>
      rw [proc_of_notMem (Finmap.lookup_eq_none.mp hd)] at h
      cases h
      exact hm
  | some d =>
      cases htype : types.logicTypeMap d.head.logicType with
      | none =>
          simp only [proc, hd, htype] at h
          cases h
          exact hm
      | some logic =>
          have hstep : ∃ r, logic.proc d msg w = .ok r := by
            simp only [proc, hd, htype] at h
            obtain ⟨r, hr, -⟩ := bind_eq_ok.mp h
            exact ⟨r, hr⟩
          obtain ⟨⟨ret, d', w₁⟩, hstep⟩ := hstep
          obtain ⟨m₁, h₁, hinv, -⟩ := proc_of_mem hsize hm hd htype hstep
          rw [h] at h₁
          cases h₁
          exact hinv

/-! ### Update -/

/-- **Update** deletes the instances whose timers are due, with their timers, and ends. -/
theorem update_spec (hsize : 1 ≤ size) (hm : LogicInv size start m) (now : TimeValue) :
    ∃ (m' : LogicModule β) (fired : List Int), m.update now = .ok (some m') ∧
      LogicInv size start m' ∧ fired.Nodup ∧
      (∀ id, id ∈ fired ↔
        ∃ t, (timers m.heapTimer).lookup id = some t ∧ t.expireTime ≤ now) ∧
      m'.store.created = m.store.created ∧ m'.store.freed = fired.reverse ++ m.store.freed ∧
      ∀ id, m'.store.logicDataMap.lookup id =
        if id ∈ fired then none else m.store.logicDataMap.lookup id := by
  obtain ⟨hs, hc, -⟩ := hm.reach.inv hsize
  obtain ⟨fired, s', st', hpoll, he⟩ := timerPoll_once now
    LogicStore.deleteLogicData m.store (show (-1 : Int) ≠ 0 by decide) hs hm.owner
  have hfired : ∀ id ∈ fired, id ∈ m.store.logicDataMap := by
    intro id hid
    obtain ⟨t, ht, -⟩ := (he.due id).mp hid
    exact (hm.keys id).mpr (Finmap.mem_of_lookup_eq_some ht)
  obtain ⟨st₁, hst, hcr, hfr, hlookup⟩ := LogicStore.delete_foldl fired he.nodup hfired
  rw [← he.world] at hst
  subst hst
  have hmem : ∀ id, id ∈ st'.logicDataMap ↔ id ∈ m.store.logicDataMap ∧ id ∉ fired := by
    intro id
    rw [Finmap.mem_iff, Finmap.mem_iff, hlookup id]
    split
    · next h => simp [h]
    · next h => simp [h]
  refine ⟨⟨s', st'⟩, fired, ?_, ?_, he.nodup, he.due, hcr, hfr, hlookup⟩
  · unfold update
    exact (congrArg (· >>= _) hpoll)
  refine
    { reach := ?_
      keys := fun id => ?_
      owner := fun p n hn => ?_
      created_nodup := by rw [hcr]; exact hm.created_nodup
      freed_nodup := ?_
      created_iff := fun id => ?_
      apart := fun id hid hin => ?_ }
  · show Reach size start st'.created s'
    rw [hcr]
    exact .poll _ now _ hm.reach hpoll
  · show id ∈ st'.logicDataMap ↔ id ∈ timers s'
    rw [hmem id, hm.keys id, Finmap.mem_iff, Finmap.mem_iff, he.entries id]
    split
    · next h => simp [h]
    · next h => simp [h]
  · have : (timers s').lookup n.timerId = some (toTimer n) :=
      (lookup_timers he.kept.inv).mpr ⟨p, n, hn, rfl, rfl⟩
    rw [he.entries] at this
    split at this
    · cases this
    · obtain ⟨q, k, hk, -, hkt⟩ := (lookup_timers hs).mp this
      have hcb : k.cbObj = n.cbObj := congrArg Timer.cbObj hkt
      rw [← hcb]
      exact hm.owner q k hk
  · show st'.freed.Nodup
    rw [hfr]
    refine List.nodup_append.mpr ⟨List.nodup_reverse.mpr he.nodup, hm.freed_nodup, ?_⟩
    rintro a ha b hb rfl
    exact hm.apart a hb (hfired a (List.mem_reverse.mp ha))
  · show id ∈ st'.created ↔ id ∈ st'.logicDataMap ∨ id ∈ st'.freed
    rw [hcr, hfr, hmem id, hm.created_iff id, List.mem_append, List.mem_reverse]
    by_cases h : id ∈ fired
    · simp [h, hfired id h]
    · simp [h]
  · obtain ⟨hin, hnf⟩ := (hmem id).mp hin
    have hid' : id ∈ st'.freed := hid
    rw [hfr, List.mem_append, List.mem_reverse] at hid'
    exact hm.apart id (hid'.resolve_left hnf) hin

/-! ### Runs -/

theorem LogicStep.logicInv (hsize : 1 ≤ size) (hseed : (Random.init 0 start).Seeded)
    (hm : LogicInv size start m) (h : LogicStep types m m') : LogicInv size start m' := by
  cases h with
  | create now raw logicType taskDelaySecs hd hN h hcap =>
      exact createLogic_logicInv hsize hseed hm hd hN h hcap
  | proc logicId msg h => exact proc_logicInv hsize hm h
  | update now h =>
      obtain ⟨m₁, fired, h₁, hinv, -⟩ := update_spec hsize hm now
      rw [h] at h₁
      cases h₁
      exact hinv

theorem LogicRun.logicInv (hsize : 1 ≤ size) (hseed : (Random.init 0 start).Seeded)
    (h : LogicRun types size start m) : LogicInv size start m := by
  induction h with
  | init hcap => exact init_logicInv hcap
  | step _ hstep ih => exact hstep.logicInv hsize hseed ih

/-- **Instances and timers correspond over whole runs.**  The keys of the map are the
ids of the live timers; an instance created is live or has been freed once, and is freed
by the `Proc` that ends it or by its timeout; an id that was freed stays dead. -/
theorem logicRun_correspond (hsize : 1 ≤ size) (hseed : (Random.init 0 start).Seeded)
    (h : LogicRun types size start m) :
    m.store.logicDataMap.keys = (timers m.heapTimer).keys ∧
    (m.store.created.Nodup ∧ m.store.freed.Nodup ∧
      (∀ id, id ∈ m.store.created ↔ id ∈ m.store.logicDataMap ∨ id ∈ m.store.freed) ∧
      ∀ id ∈ m.store.freed, id ∉ m.store.logicDataMap) ∧
    (∀ id ∈ m.store.freed, ∀ msg w, m.proc types id msg w = .ok (m, w)) ∧
    (∀ id d logic msg w ret d' w', m.store.logicDataMap.lookup id = some d →
      types.logicTypeMap d.head.logicType = some logic →
      logic.proc d msg w = .ok (ret, d', w') →
      ∃ m', m.proc types id msg w = .ok (m', w') ∧ m'.store.created = m.store.created ∧
        m'.store.freed = (if ret = logicYield then [] else [id]) ++ m.store.freed) ∧
    (∀ now, ∃ (m' : LogicModule β) (fired : List Int), m.update now = .ok (some m') ∧ fired.Nodup ∧
      (∀ id, id ∈ fired ↔ ∃ t, (timers m.heapTimer).lookup id = some t ∧ t.expireTime ≤ now) ∧
      m'.store.created = m.store.created ∧
      m'.store.freed = fired.reverse ++ m.store.freed) := by
  have hm := h.logicInv hsize hseed
  refine ⟨?_, ⟨hm.created_nodup, hm.freed_nodup, hm.created_iff, hm.apart⟩, ?_, ?_, ?_⟩
  · ext id
    rw [Finmap.mem_keys, Finmap.mem_keys]
    exact hm.keys id
  · exact fun id hid msg w => proc_of_notMem (hm.apart id hid)
  · intro id d logic msg w ret d' w' hd htype hstep
    obtain ⟨m', h, -, hc, hf⟩ := proc_of_mem hsize hm hd htype hstep
    exact ⟨m', h, hc, hf⟩
  · intro now
    obtain ⟨m', fired, h, -, hnd, hdue, hc, hf, -⟩ := update_spec hsize hm now
    exact ⟨m', fired, h, hnd, hdue, hc, hf⟩

/-- A single logic type, whose only step finishes. -/
def finishAtOnce : LogicTypes Unit Unit Unit where
  logicTypeMap := fun t => if t = 1 then some [fun d _ w => .ok (logicFinish, d, w)] else none
  logicDataSizeMap := fun t => if t = 1 then some 16 else none

/-- A module in which an instance of that type has been created. -/
def oneLogic : LogicModule Unit :=
  match (init 1 7 : LogicModule Unit).createLogic finishAtOnce 7 () 1 10 with
  | .ok (_, m) => m
  | .error _ => init 1 7

/-- Its instance is deleted by the first message for it. -/
theorem logicRun_correspond_finish : ∃ id m', oneLogic.store.created = [id] ∧
    oneLogic.proc finishAtOnce id () () = .ok (m', ()) ∧ m'.store.freed = [id] := by
  have hrun : LogicRun finishAtOnce 1 7 oneLogic :=
    .step (.init (by decide)) (.create 7 () 1 10 (by decide) (by decide) rfl (by decide))
  have hc := logicRun_correspond (by decide) ⟨by decide, by decide⟩ hrun
  obtain ⟨id, hid⟩ : ∃ id, oneLogic.store.created = [id] := ⟨_, rfl⟩
  obtain ⟨d, hd, ht, hs⟩ : ∃ d, oneLogic.store.logicDataMap.lookup id = some d ∧
      d.head.logicType = 1 ∧ d.head.step = 0 := by
    have he : (oneLogic.store.created).head? = some id := by rw [hid]; rfl
    cases he
    exact ⟨_, rfl, rfl, rfl⟩
  have htype : finishAtOnce.logicTypeMap d.head.logicType =
      some [fun d _ w => .ok (logicFinish, d, w)] := by rw [ht]; rfl
  have hstep : LogicBase.proc [fun d _ w => .ok (logicFinish, d, w)] d () () =
      .ok (logicFinish, d, ()) := by
    unfold LogicBase.proc
    rw [hs]
    rfl
  obtain ⟨m', h, -, hf⟩ := hc.2.2.2.1 id d _ () () _ d () hd htype hstep
  refine ⟨id, m', hid, h, ?_⟩
  rw [hf]
  rfl

end

end LogicModule

end PlayFrame
