/-
# `PlayFrame.Frame.LuaEngine` — tasks that are coroutines

`common/frame/lua_engine.{h,cpp}`.  A task is a coroutine of the Lua interpreter, known by
the id of the timer that bounds its life; `Resume` runs it to its next `coroutine.yield`
and closes it when it does not come to one.

The scripts are a parameter: `φ` are the names of global functions, `κ` are coroutines that
wait, `α` is what they are resumed with, and `ω` is the world that the functions they call
work on.  `co_map_` has pointers, so an entry of it may be null: `co_map_[task_id]` makes
one where there was none.
-/
import PlayFrame.Frame.HeapTimerMap

namespace PlayFrame

/-- What `lua_resume` comes back with. -/
inductive LuaRet (κ : Type) where
  /-- `LUA_YIELD`, and the coroutine as it waits now -/
  | yielded (co : κ)
  /-- 0: the function has returned -/
  | returned
  /-- an error of the script -/
  | failed

/-- The coroutine that is left. -/
def LuaRet.next {κ : Type} : LuaRet κ → Option κ
  | .yielded co => some co
  | .returned | .failed => none

/-- The interpreter: the functions that `lua_getglobal` finds, and `lua_resume`. -/
structure Lua (φ κ α ω : Type) where
  getGlobal : φ → Option κ
  resume : κ → α → ω → Result (LuaRet κ × ω)

/-- `CoroutineMap`. -/
abbrev CoroutineMap (κ : Type) : Type := Finmap (fun _ : Int => Option κ)

/-- `co_map_[task_id]`, and the map after it. -/
def CoroutineMap.entry {κ : Type} (coMap : CoroutineMap κ) (taskId : Int) :
    Option κ × CoroutineMap κ :=
  match coMap.lookup taskId with
  | some co => (co, coMap)
  | none => (none, coMap.insert taskId none)

/-- `class LuaEngine`.  Its timers have the engine itself as callback object and no data. -/
structure LuaEngine (κ : Type) where
  heapTimer : HeapTimer Unit Unit
  coMap : CoroutineMap κ

namespace LuaEngine

variable {φ κ α ω : Type}

/-- The state after `Init` in the second `now`. -/
def init (now : Int) : LuaEngine κ where
  heapTimer := HeapTimer.init 1024 now
  coMap := ∅

/-- `LuaEngine::CloseTask`. -/
def closeTask (taskId : Int) (e : LuaEngine κ) : Result (LuaEngine κ) :=
  if taskId > 0 then
    match e.coMap.entry taskId with
    | (none, coMap) => .ok { e with coMap := coMap }
    | (some _, coMap) => do
        let heapTimer ← e.heapTimer.unregisterTimer taskId
        .ok { heapTimer := heapTimer, coMap := coMap.erase taskId }
  else .ok e

/-- `LuaEngine::OnTimer`. -/
def onTimer (taskId : Int) (e : LuaEngine κ) : Result (Int × LuaEngine κ) := do
  let e ← e.closeTask taskId
  .ok (-1, e)

/-- `LuaEngine::CreateTask` in the second `now`.  `lua_newthread` gives a coroutine; it is in
the map when its function is looked for.  `lua_pop` takes away the only reference to it that Lua
knows of, so that Lua may collect it at any time, also while it waits; here it never does. -/
def createTask (lua : Lua φ κ α ω) (luaFunc : φ) (now taskDelaySecs : Int) (e : LuaEngine κ) :
    Result (Int × LuaEngine κ) := do
  let delay ← TimeValue.set taskDelaySecs 0
  let (taskId, heapTimer) ← e.heapTimer.registerTimer now delay delay (some ()) ()
  if taskId ≤ 0 then .ok (-1, { e with heapTimer := heapTimer })
  else
    match lua.getGlobal luaFunc with
    | some co =>
        .ok (taskId, { heapTimer := heapTimer, coMap := e.coMap.insert taskId (some co) })
    | none => do
        let heapTimer ← heapTimer.unregisterTimer taskId
        .ok (0, { heapTimer := heapTimer, coMap := e.coMap.erase taskId })

/-- `LuaEngine::Resume`, with any arguments. -/
def resume (lua : Lua φ κ α ω) (taskId : Int) (args : α) (e : LuaEngine κ) (w : ω) :
    Result (LuaEngine κ × ω) :=
  if taskId > 0 then
    match e.coMap.entry taskId with
    | (none, coMap) => .ok ({ e with coMap := coMap }, w)
    | (some co, coMap) => do
        let (ret, w) ← lua.resume co args w
        match ret with
        | .yielded co => .ok ({ e with coMap := coMap.insert taskId (some co) }, w)
        | .returned | .failed => do
            let e ← closeTask taskId { e with coMap := coMap }
            .ok (e, w)
  else .ok (e, w)

/-- The callback of a timer of the engine: `OnTimer`, which is given the heap that polls. -/
def execute : HeapTimer.Execute Unit Unit (CoroutineMap κ) :=
  fun _ taskId _ heapTimer coMap => do
    let (ret, e) ← onTimer taskId ⟨heapTimer, coMap⟩
    .ok (ret, e.heapTimer, e.coMap)

/-- `LuaEngine::Run` at the time `now`, with the fuel of `timerPoll`. -/
def run (fuel : Nat) (now : TimeValue) (e : LuaEngine κ) : Result (Option (LuaEngine κ)) := do
  match ← e.heapTimer.timerPoll fuel now execute e.coMap with
  | some (_, heapTimer, coMap) => .ok (some ⟨heapTimer, coMap⟩)
  | none => .ok none

/-- `LuaEngine::GetTaskSize`. -/
def getTaskSize (e : LuaEngine κ) : Int := toInt32 e.coMap.keys.card

/-! ## The tasks -/

/-- The coroutine of a task, if there is such a task.  A null entry is none. -/
def task (e : LuaEngine κ) (taskId : Int) : Option κ := (e.coMap.lookup taskId).join

section
variable {lua : Lua φ κ α ω} {luaFunc : φ} {co : κ} {args : α} {e e' : LuaEngine κ} {w w' : ω}
  {taskId : Int} {heapTimer : HeapTimer Unit Unit}

theorem task_insert (co : Option κ) (id : Int) :
    task ⟨heapTimer, e.coMap.insert taskId co⟩ id = if id = taskId then co else e.task id := by
  show ((e.coMap.insert taskId co).lookup id).join = _
  split
  · next h => rw [h, Finmap.lookup_insert, Option.join_some]
  · next h =>
    rw [Finmap.lookup_insert_of_ne _ h]
    rfl

theorem task_erase (id : Int) :
    task ⟨heapTimer, e.coMap.erase taskId⟩ id = if id = taskId then none else e.task id := by
  show ((e.coMap.erase taskId).lookup id).join = _
  split
  · next h => rw [h, Finmap.lookup_erase, Option.join_none]
  · next h =>
    rw [Finmap.lookup_erase_ne h]
    rfl

theorem entry_spec (e : LuaEngine κ) (taskId : Int) :
    (e.coMap.entry taskId).1 = e.task taskId ∧
      ∀ heapTimer id, task ⟨heapTimer, (e.coMap.entry taskId).2⟩ id = e.task id := by
  unfold CoroutineMap.entry task
  cases hl : e.coMap.lookup taskId with
  | some co => exact ⟨rfl, fun _ _ => rfl⟩
  | none =>
      refine ⟨rfl, fun heapTimer id => ?_⟩
      show ((e.coMap.insert taskId none).lookup id).join = _
      by_cases h : id = taskId
      · rw [h, Finmap.lookup_insert, hl]
        rfl
      · rw [Finmap.lookup_insert_of_ne _ h]

theorem closeTask_task (h : e.closeTask taskId = .ok e') (id : Int) :
    e'.task id = if id = taskId ∧ 0 < taskId then none else e.task id := by
  obtain ⟨hfst, hsnd⟩ := e.entry_spec taskId
  unfold closeTask at h
  split at h
  · next hpos =>
    split at h
    · next coMap hentry =>
      rw [hentry] at hfst hsnd
      cases h
      rw [hsnd]
      split
      · next hid => rw [hid.1, ← hfst]
      · rfl
    · next co coMap hentry =>
      rw [hentry] at hsnd
      obtain ⟨heapTimer, -, h⟩ := bind_eq_ok.mp h
      cases h
      rw [show task ⟨heapTimer, coMap.erase taskId⟩ id = _ from
        task_erase (e := ⟨heapTimer, coMap⟩) id, hsnd]
      simp only [hpos, and_true]
  · next hpos =>
    cases h
    rw [if_neg (fun hid => hpos hid.2)]

theorem onTimer_task {ret : Int} (h : e.onTimer taskId = .ok (ret, e')) (id : Int) :
    e'.task id = if id = taskId ∧ 0 < taskId then none else e.task id := by
  obtain ⟨e₁, hclose, h⟩ := bind_eq_ok.mp h
  cases h
  exact closeTask_task hclose id

/-- **CreateTask** of a function that there is: no task, or one under the id it returns. -/
theorem createTask_cases {now taskDelaySecs : Int} (hfunc : lua.getGlobal luaFunc = some co)
    (h : e.createTask lua luaFunc now taskDelaySecs = .ok (taskId, e')) :
    (taskId = -1 ∧ ∀ id, e'.task id = e.task id) ∨
      (0 < taskId ∧ ∀ id, e'.task id = if id = taskId then some co else e.task id) := by
  obtain ⟨delay, -, h⟩ := bind_eq_ok.mp h
  obtain ⟨⟨id, heapTimer⟩, -, h⟩ := bind_eq_ok.mp h
  dsimp only at h
  split at h
  · cases h
    exact Or.inl ⟨rfl, fun _ => rfl⟩
  · next hpos =>
    rw [hfunc] at h
    cases h
    exact Or.inr ⟨Int.not_le.mp hpos, task_insert _⟩

/-- **Resume**, by what it finds: nothing happens, or the coroutine of the task runs, and the
task is what is left of it. -/
theorem resume_cases (h : e.resume lua taskId args w = .ok (e', w')) :
    (w' = w ∧ (∀ id, e'.task id = e.task id) ∧ (0 < taskId → e.task taskId = none)) ∨
      ∃ co ret, 0 < taskId ∧ e.task taskId = some co ∧ lua.resume co args w = .ok (ret, w') ∧
        ∀ id, e'.task id = if id = taskId then ret.next else e.task id := by
  obtain ⟨hfst, hsnd⟩ := e.entry_spec taskId
  unfold resume at h
  split at h
  · next hpos =>
    split at h
    · next coMap hentry =>
      rw [hentry] at hfst hsnd
      cases h
      exact Or.inl ⟨rfl, hsnd _, fun _ => hfst.symm⟩
    · next co coMap hentry =>
      rw [hentry] at hfst hsnd
      obtain ⟨⟨ret, w₁⟩, hresume, h⟩ := bind_eq_ok.mp h
      have hclosed : ∀ {e₁ : LuaEngine κ}, closeTask taskId { e with coMap := coMap } = .ok e₁ →
          ∀ id, e₁.task id = if id = taskId then none else e.task id := by
        intro e₁ hclose id
        rw [closeTask_task hclose id, hsnd]
        simp only [hpos, and_true]
      cases ret with
      | yielded co' =>
          cases h
          refine Or.inr ⟨co, .yielded co', hpos, hfst.symm, hresume, fun id => ?_⟩
          rw [show task ⟨e.heapTimer, coMap.insert taskId (some co')⟩ id = _ from
            task_insert (e := ⟨e.heapTimer, coMap⟩) _ id, hsnd]
          rfl
      | returned =>
          obtain ⟨e₁, hclose, h⟩ := bind_eq_ok.mp h
          cases h
          exact Or.inr ⟨co, .returned, hpos, hfst.symm, hresume, hclosed hclose⟩
      | failed =>
          obtain ⟨e₁, hclose, h⟩ := bind_eq_ok.mp h
          cases h
          exact Or.inr ⟨co, .failed, hpos, hfst.symm, hresume, hclosed hclose⟩
  · next hpos =>
    cases h
    exact Or.inl ⟨rfl, fun _ => rfl, fun h => absurd h hpos⟩

end

end LuaEngine

end PlayFrame
