/-
# `PlayFrame.GameSvr.OneStep` — logics without a timer

`MsgModule::OnLogicOneStepStart` is meant for logics that are done with their first step: it asks
`CreateLogic` for no life time, and `CreateLogic` registers no timer then, so the instance has
the id 0.  The handler takes an id that is not positive for an error: the step never runs, and
the instance stays in `logic_data_map_` under the id 0 (`oneStep_fails`).  The next one is not even
inserted, since the map does not replace an entry, and its memory is lost.
-/
import PlayFrame.GameSvr.MsgTable

namespace PlayFrame

variable {β ω : Type}

namespace MsgModule

/-- `MsgModule::OnLogicOneStepStart`. -/
def onLogicOneStepStart (types : LogicTypes β StepArgs ω) (msg : ProtoCs.Msg)
    (args : Option ConnData) (env : MsgEnv β ω) : Result (Int × MsgEnv β ω) := do
  let logicType := cmdLogicTypeMap msg.head.cmd
  let (logicId, logicModule) ← env.logicModule.createLogic types env.now env.raw logicType 0
  if logicId ≤ 0 then .ok (-1, { env with logicModule := logicModule })
  else
    match args with
    | none => .error .badPointer
    | some connData => do
        let (logicModule, world) ← logicModule.proc types logicId (.cs msg connData) env.world
        .ok (0, { env with logicModule := logicModule, world := world })

/-! ## Runs of the handlers -/

/-- A request for a logic of one step that has been handled: what the module was before, what
the handler returned, and what the module was then. -/
structure Served (β ω : Type) where
  msg : ProtoCs.Msg
  args : Option ConnData
  before : MsgEnv β ω
  ret : Int
  after : MsgEnv β ω

/-- The runs, with the requests for logics of one step that have been handled: such requests, and
those for logics of several steps with their answers and timeouts.  Meanwhile the clock goes on
and the memory changes. -/
inductive LogicRuns (types : LogicTypes β StepArgs ω) (start : MsgEnv β ω) :
    List (Served β ω) → MsgEnv β ω → Prop
  | start : LogicRuns types start [] start
  | oneStep {log : List (Served β ω)} {env env' : MsgEnv β ω} {ret : Int} (msg : ProtoCs.Msg)
      (args : Option ConnData) : LogicRuns types start log env →
      onLogicOneStepStart types msg args env = .ok (ret, env') →
      LogicRuns types start (log ++ [⟨msg, args, env, ret, env'⟩]) env'
  | multiStep {log : List (Served β ω)} {env env' : MsgEnv β ω} {ret : Int} (msg : ProtoCs.Msg)
      (args : Option ConnData) : LogicRuns types start log env →
      onLogicMultiStepStart types msg args env = .ok (ret, env') → LogicRuns types start log env'
  | resume {log : List (Served β ω)} {env env' : MsgEnv β ω} {ret : Int} (msg : ProtoSs.Msg)
      (args : Option ConnData) : LogicRuns types start log env →
      onLogicMultiStepResume types msg args env = .ok (ret, env') → LogicRuns types start log env'
  | update {log : List (Served β ω)} {env : MsgEnv β ω} {logicModule : LogicModule β}
      (now : TimeValue) : LogicRuns types start log env →
      env.logicModule.update now = .ok (some logicModule) →
      LogicRuns types start log { env with logicModule := logicModule }
  | tick {log : List (Served β ω)} {env : MsgEnv β ω} (now : Int) (raw : β) :
      LogicRuns types start log env → LogicRuns types start log { env with now := now, raw := raw }

/-- The logic type of the request is registered. -/
def Served.Registered (types : LogicTypes β StepArgs ω) (r : Served β ω) : Prop :=
  types.logicDataSizeMap (cmdLogicTypeMap r.msg.head.cmd) ≠ none

/-- **The request ran at once**: the first step of a new instance has run, the handler has returned
0, and the instance is gone if the step has not yielded. -/
def Served.RanAtOnce (types : LogicTypes β StepArgs ω) (r : Served β ω) : Prop :=
  r.ret = 0 ∧ ∃ logicId logic connData ret d,
    types.logicTypeMap (cmdLogicTypeMap r.msg.head.cmd) = some logic ∧
    r.args = some connData ∧ logicId ∉ r.before.logicModule.store.logicDataMap ∧
    logic.proc ⟨⟨logicId, cmdLogicTypeMap r.msg.head.cmd, 0⟩, r.before.raw⟩ (.cs r.msg connData)
      r.before.world = .ok (ret, d, r.after.world) ∧
    (ret ≠ logicYield → logicId ∉ r.after.logicModule.store.logicDataMap)

section
variable {types : LogicTypes β StepArgs ω} {msg : ProtoCs.Msg} {args : Option ConnData}
  {env env' start : MsgEnv β ω} {ret : Int} {log : List (Served β ω)}

theorem mem_insert_zero (st : LogicStore β) (d : LogicData β) :
    (0 : Int) ∈ (st.insert 0 d).logicDataMap := by
  by_cases h : (0 : Int) ∈ st.logicDataMap
  · obtain ⟨d', hd'⟩ := Finmap.mem_iff.mp h
    unfold LogicStore.insert
    rw [hd']
    exact h
  · rw [LogicStore.insert_of_notMem h]
    exact Finmap.mem_insert.mpr (Or.inl rfl)

/-- **OnLogicOneStepStart** on a registered type: an instance is put under the id 0, unless there
is one already, and nothing else is done. -/
theorem onLogicOneStepStart_eq
    (htype : types.logicDataSizeMap (cmdLogicTypeMap msg.head.cmd) ≠ none) :
    onLogicOneStepStart types msg args env = .ok (-1, { env with
      logicModule := ⟨env.logicModule.heapTimer, env.logicModule.store.insert 0
        ⟨⟨0, cmdLogicTypeMap msg.head.cmd, 0⟩, env.raw⟩⟩ }) := by
  obtain ⟨size, hsize⟩ := Option.ne_none_iff_exists'.mp htype
  simp only [onLogicOneStepStart, LogicModule.createLogic, hsize]
  rfl

theorem LogicRuns.handled (h : LogicRuns types start log env) :
    ∀ r ∈ log, onLogicOneStepStart types r.msg r.args r.before = .ok (r.ret, r.after) := by
  induction h with
  | start => exact fun r hr => absurd hr List.not_mem_nil
  | oneStep msg args _ hstep ih =>
    intro r hr
    rcases List.mem_append.mp hr with hr | hr
    · exact ih r hr
    · obtain rfl := List.mem_singleton.mp hr
      exact hstep
  | multiStep _ _ _ _ ih => exact ih
  | resume _ _ _ _ ih => exact ih
  | update _ _ _ ih => exact ih
  | tick _ _ _ ih => exact ih

/-- **No request for a logic of one step ever runs it.**  In every run, whatever it is interleaved
with, the handler returns -1, the rest of the server is as it was, and an instance is left in the
map under the id 0. -/
theorem oneStep_fails (h : LogicRuns types start log env) :
    ∀ r ∈ log, r.Registered types → ¬ r.RanAtOnce types ∧ r.ret = -1 ∧
      r.after.world = r.before.world ∧ (0 : Int) ∈ r.after.logicModule.store.logicDataMap ∧
      ((0 : Int) ∈ r.before.logicModule.store.logicDataMap →
        r.after.logicModule = r.before.logicModule) := by
  intro r hr htype
  have hstep := h.handled r hr
  rw [onLogicOneStepStart_eq htype] at hstep
  obtain ⟨hret, hafter⟩ := Prod.mk.inj (Except.ok.inj hstep)
  refine ⟨fun hran => ?_, hret.symm, ?_, ?_, fun hzero => ?_⟩
  · have := hret.trans hran.1
    exact absurd this (by decide)
  · rw [← hafter]
  · rw [← hafter]
    exact mem_insert_zero _ _
  · obtain ⟨d, hd⟩ := Finmap.mem_iff.mp hzero
    rw [← hafter]
    unfold LogicStore.insert
    rw [hd]

end

/-! ### Two requests -/

/-- The logic of logins, with one step that finishes. -/
def oneStepTypes : LogicTypes Unit StepArgs Unit where
  logicTypeMap := fun t =>
    if t = logicLogin then some [fun d _ w => .ok (logicFinish, d, w)] else none
  logicDataSizeMap := fun t => if t = logicLogin then some 16 else none

def oneStepReq : ProtoCs.Msg where
  head := { cmd := ProtoCs.loginReqFieldNumber }

/-- The module after a request. -/
def afterOneStep (env : MsgEnv Unit Unit) : MsgEnv Unit Unit :=
  { env with logicModule := ⟨env.logicModule.heapTimer,
      env.logicModule.store.insert 0 ⟨⟨0, logicLogin, 0⟩, ()⟩⟩ }

/-- The first request in a new server. -/
def firstServed : Served Unit Unit :=
  ⟨oneStepReq, some ⟨5, 1, .connProc⟩, idleEnv, -1, afterOneStep idleEnv⟩

/-- Two requests: the second finds the instance of the first. -/
theorem oneStep_fails_twice :
    (afterOneStep (afterOneStep idleEnv)).logicModule = (afterOneStep idleEnv).logicModule := by
  have hrun : LogicRuns oneStepTypes idleEnv
      [firstServed, ⟨oneStepReq, none, afterOneStep idleEnv, -1,
        afterOneStep (afterOneStep idleEnv)⟩] (afterOneStep (afterOneStep idleEnv)) :=
    .oneStep oneStepReq none (.oneStep oneStepReq (some ⟨5, 1, .connProc⟩) .start rfl) rfl
  have hmem := (oneStep_fails hrun firstServed List.mem_cons_self
    (fun h => nomatch h)).2.2.2.1
  exact (oneStep_fails hrun _ (List.mem_cons_of_mem _ (List.mem_singleton.mpr rfl))
    (fun h => nomatch h)).2.2.2.2 hmem

/-- **The request fails**: the handler returns -1, and the instance stays. -/
theorem oneStep_left :
    onLogicOneStepStart oneStepTypes oneStepReq (some ⟨5, 1, .connProc⟩) idleEnv =
      .ok (-1, afterOneStep idleEnv) ∧
    (afterOneStep idleEnv).logicModule.store.created = [0] ∧
    (afterOneStep idleEnv).logicModule.store.freed = [] ∧
    ¬ firstServed.RanAtOnce oneStepTypes :=
  ⟨rfl, rfl, rfl, fun h => absurd h.1 (by decide)⟩

end MsgModule

end PlayFrame
