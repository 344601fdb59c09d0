/-
# `PlayFrame.Frame.LuaTasks` — the task table of the Lua engine

What a user of `LuaEngine` means by its tasks is `Pending`: the tasks that were created and
have not finished, failed or timed out.  A state is `Exact` when `co_map_` and the timer
heap say the same: an entry and one timer for every pending task, and nothing else.

Two calls break that, and `Meets` is the condition that leaves them out:

    Resume   of a positive id that is not pending: `co_map_[task_id]`, which is only to
             look for the task, makes an entry with a null pointer, for good
    Run      when the time of a task is over: `OnTimer` closes the task, `CloseTask`
             unregisters the timer that is firing, and `TimerPoll` deletes it again

In a run whose calls all meet it every state is exact; and a call in such a state does what
it should if and only if it meets it (`run_exact`).  So a task never times out, and
the destructor of `LuaEngineModule` comes to an end when no task is left, and only then.
-/
import PlayFrame.Frame.LuaEngine
import PlayFrame.Frame.TimerPoll
import Mathlib.Data.Set.Card

namespace PlayFrame

namespace LuaEngine

variable {φ κ α ω : Type}

/-! ## What the calls are meant to do -/

/-- A pending task: its coroutine as it waits, and when its time is over. -/
structure PendingTask (κ : Type) where
  co : κ
  deadline : TimeValue

/-- The pending tasks by their ids. -/
abbrev Pending (κ : Type) : Type := Int → Option (PendingTask κ)

/-- The calls of a user, with the time at which they are made. -/
inductive Call (φ α : Type) where
  | createTask (luaFunc : φ) (now taskDelaySecs : Int)
  | resume (taskId : Int) (args : α)
  | run (now : TimeValue)

/-- A call: what it returns, the engine and the world.  The fuel is that of `Run`. -/
def Call.exec (lua : Lua φ κ α ω) (fuel : Nat) (e : LuaEngine κ) (w : ω) :
    Call φ α → Result (Option (Int × LuaEngine κ × ω))
  | .createTask luaFunc now taskDelaySecs => do
      let (taskId, e) ← e.createTask lua luaFunc now taskDelaySecs
      .ok (some (taskId, e, w))
  | .resume taskId args => do
      let (e, w) ← e.resume lua taskId args w
      .ok (some (0, e, w))
  | .run now => do
      match ← e.run fuel now with
      | some e => .ok (some (0, e, w))
      | none => .ok none

/-- The task of a coroutine that has been resumed. -/
def PendingTask.resumed (lua : Lua φ κ α ω) (args : α) (w : ω) (t : PendingTask κ) :
    Option (PendingTask κ) :=
  match lua.resume t.co args w with
  | .ok (ret, _) => ret.next.map fun co => { t with co := co }
  | .error _ => some t

/-- The tasks that are pending after a call that returned `ret`. -/
def Pending.after (lua : Lua φ κ α ω) (tasks : Pending κ) (w : ω) (ret : Int) :
    Call φ α → Pending κ
  | .createTask luaFunc now taskDelaySecs =>
      if 0 < ret then
        Function.update tasks ret
          ((lua.getGlobal luaFunc).map fun co => ⟨co, ⟨now + taskDelaySecs, 0⟩⟩)
      else tasks
  | .resume taskId args =>
      Function.update tasks taskId ((tasks taskId).bind (PendingTask.resumed lua args w))
  | .run now => fun taskId => (tasks taskId).filter fun t => decide (now < t.deadline)

/-- The delay of a new task is positive. -/
def Call.Positive : Call φ α → Prop
  | .createTask _ _ taskDelaySecs => 0 < taskDelaySecs
  | .resume .. | .run _ => True

/-- The engine holds the pending tasks, and nothing else. -/
structure Exact (tasks : Pending κ) (e : LuaEngine κ) : Prop where
  coMap : ∀ taskId, e.coMap.lookup taskId = (tasks taskId).map fun t => some t.co
  taskSize : e.getTaskSize = ({taskId | (tasks taskId).isSome} : Set Int).ncard
  timer : ∀ taskId, (tasks taskId).isSome →
    ∃! p, ∃ n, e.heapTimer.nodes p = some n ∧ n.timerId = taskId
  only : ∀ p n, e.heapTimer.nodes p = some n → (tasks n.timerId).isSome

/-- The call does what it should: it ends, unless the script that it resumes faults, and
leaves an exact state; resuming what is not pending changes nothing. -/
structure Right (lua : Lua φ κ α ω) (tasks : Pending κ) (e : LuaEngine κ) (w : ω)
    (call : Call φ α) : Prop where
  ends : (∃ fuel ret e' w', call.exec lua fuel e w = .ok (some (ret, e', w'))) ∨
    ∃ taskId args t fault, call = .resume taskId args ∧ tasks taskId = some t ∧
      lua.resume t.co args w = .error fault
  exact : ∀ fuel ret e' w', call.exec lua fuel e w = .ok (some (ret, e', w')) →
    Exact (tasks.after lua w ret call) e'
  idle : ∀ fuel ret e' w' taskId args, call = .resume taskId args → tasks taskId = none →
    call.exec lua fuel e w = .ok (some (ret, e', w')) → e' = e ∧ w' = w

/-- A task is resumed while it is pending, and none is when its time is over. -/
def Meets (tasks : Pending κ) : Call φ α → Prop
  | .createTask .. => True
  | .resume taskId _ => 0 < taskId → (tasks taskId).isSome
  | .run now => ∀ taskId t, tasks taskId = some t → now < t.deadline

/-- The runs of an engine that was made in the second `start`, with the tasks that are
pending.  As everywhere, the timer heap stays below the capacity that `uint32_t` allows. -/
inductive Run (lua : Lua φ κ α ω) (meets : Pending κ → Call φ α → Prop) (start : Int) (w₀ : ω) :
    Pending κ → LuaEngine κ → ω → Prop
  | init : Run lua meets start w₀ (fun _ => none) (init start) w₀
  | call {tasks : Pending κ} {e e' : LuaEngine κ} {w w' : ω} {ret : Int} (fuel : Nat)
      (c : Call φ α) : Run lua meets start w₀ tasks e w → c.Positive → meets tasks c →
      c.exec lua fuel e w = .ok (some (ret, e', w')) → e'.heapTimer.heapSize < HeapTimer.capLimit →
      Run lua meets start w₀ (tasks.after lua w ret c) e' w'

/-- The loop of `LuaEngineModule::~LuaEngineModule`, which sleeps for a second in each pass;
`clock` are the times that `Run` reads. -/
def waitForTasks (clock : Nat → TimeValue) : Nat → Nat → LuaEngine κ → Result (Option (LuaEngine κ))
  | 0, _, _ => .ok none
  | fuel + 1, pass, e =>
      if e.getTaskSize ≠ 0 then do
        match ← e.run fuel (clock pass) with
        | some e => waitForTasks clock fuel (pass + 1) e
        | none => .ok none
      else .ok (some e)

/-! ## The invariant -/

section
variable {β γ δ : Type} {m : Finmap (fun _ : Int => β)} {P : Int → Option γ} {f : Option β → δ}
  {g : Option γ → δ} {k : Int} {o : Option γ}

theorem lookup_insert_update {b : β} (h : ∀ id, f (m.lookup id) = g (P id)) (ho : f (some b) = g o)
    (id : Int) : f ((m.insert k b).lookup id) = g (Function.update P k o id) := by
  by_cases hid : id = k
  · rw [hid, Finmap.lookup_insert, Function.update_self, ho]
  · rw [Finmap.lookup_insert_of_ne _ hid, Function.update_of_ne hid, h]

theorem lookup_erase_update (h : ∀ id, f (m.lookup id) = g (P id)) (ho : f none = g o) (id : Int) :
    f ((m.erase k).lookup id) = g (Function.update P k o id) := by
  by_cases hid : id = k
  · rw [hid, Finmap.lookup_erase, Function.update_self, ho]
  · rw [Finmap.lookup_erase_ne hid, Function.update_of_ne hid, h]

end

/-- What the timer heap knows of a task. -/
def due (t : Timer Unit Unit) : TimeValue × Option Unit := (t.expireTime, t.cbObj)

/-- `co_map_` and the timer heap are in step with the pending tasks. -/
structure Inv (tasks : Pending κ) (e : LuaEngine κ) : Prop where
  heap : HeapTimer.Inv e.heapTimer
  coMap : ∀ taskId, e.coMap.lookup taskId = (tasks taskId).map fun t => some t.co
  timers : ∀ taskId, ((HeapTimer.timers e.heapTimer).lookup taskId).map due =
    (tasks taskId).map fun t => (t.deadline, some ())

section
variable {lua : Lua φ κ α ω} {tasks : Pending κ} {e e' : LuaEngine κ} {w w' : ω} {taskId : Int}
  {t : PendingTask κ} {p : Ptr} {n : TimerNode Unit Unit} {args : α} {now : TimeValue}

theorem init_inv (start : Int) : Inv (fun _ => none) (init start : LuaEngine κ) where
  heap := HeapTimer.init_inv (by decide) start
  coMap := fun _ => rfl
  timers := fun _ => rfl

theorem Inv.node (h : Inv tasks e) (ht : tasks taskId = some t) :
    ∃ p n, e.heapTimer.nodes p = some n ∧ n.timerId = taskId ∧ n.expireTime = t.deadline ∧
      n.cbObj = some () := by
  have htimer := h.timers taskId
  simp only [ht, Option.map_some, Option.map_eq_some_iff] at htimer
  obtain ⟨timer, hlook, hdue⟩ := htimer
  obtain ⟨p, n, hn, hid, rfl⟩ := (HeapTimer.lookup_timers h.heap).mp hlook
  obtain ⟨hexpire, hcb⟩ := Prod.mk.inj hdue
  exact ⟨p, n, hn, hid, hexpire, hcb⟩

theorem Inv.task (h : Inv tasks e) (hn : e.heapTimer.nodes p = some n) :
    ∃ t, tasks n.timerId = some t ∧ t.deadline = n.expireTime ∧ n.cbObj = some () := by
  have hlook := (HeapTimer.lookup_timers h.heap).mpr ⟨p, n, hn, rfl, rfl⟩
  have htimer := (h.timers n.timerId).symm
  simp only [hlook, Option.map_some, Option.map_eq_some_iff] at htimer
  obtain ⟨t, ht, hdue⟩ := htimer
  obtain ⟨hexpire, hcb⟩ := Prod.mk.inj hdue
  exact ⟨t, ht, hexpire, hcb.symm⟩

theorem Inv.pos (h : Inv tasks e) (ht : tasks taskId = some t) : 0 < taskId := by
  obtain ⟨p, n, hn, rfl, -⟩ := h.node ht
  have ho := h.heap.owns p n hn
  obtain ⟨hr, hr'⟩ := ho.rand
  have hslot := ho.pos
  rw [ho.id_eq, makeTimerId_eq (Int.natCast_nonneg _) hr (hr'.trans (by decide))]
  omega

theorem Inv.mem_coMap (h : Inv tasks e) : taskId ∈ e.coMap ↔ (tasks taskId).isSome := by
  rw [← Finmap.lookup_isSome, h.coMap, Option.isSome_map]

theorem Inv.mem_timers (h : Inv tasks e) :
    taskId ∈ HeapTimer.timers e.heapTimer ↔ (tasks taskId).isSome := by
  rw [← Finmap.lookup_isSome, ← Option.isSome_map (f := due), h.timers, Option.isSome_map]

theorem Inv.keys_eq (h : Inv tasks e) :
    ({taskId | (tasks taskId).isSome} : Set Int) = e.coMap.keys := by
  ext taskId
  rw [Set.mem_ofPred_eq, Finset.mem_coe, Finmap.mem_keys, h.mem_coMap]

theorem Inv.taskSize (h : Inv tasks e) (hcap : e.heapTimer.heapSize ≤ 2 * HeapTimer.capLimit) :
    e.getTaskSize = ({taskId | (tasks taskId).isSome} : Set Int).ncard := by
  have hkeys : e.coMap.keys = (HeapTimer.timers e.heapTimer).keys := by
    ext taskId
    rw [Finmap.mem_keys, Finmap.mem_keys, h.mem_coMap, h.mem_timers]
  have hcard : e.coMap.keys.card = e.heapTimer.curSize := by
    rw [hkeys, HeapTimer.card_timers h.heap]
  have hroom := h.heap.room
  have hlimit : HeapTimer.capLimit = 1073741824 := rfl
  rw [h.keys_eq, Set.ncard_coe_finset, getTaskSize, toInt32_of_range (by omega) (by omega)]

theorem Inv.taskSize_eq_zero (h : Inv tasks e)
    (hcap : e.heapTimer.heapSize ≤ 2 * HeapTimer.capLimit) :
    e.getTaskSize = 0 ↔ ∀ taskId, tasks taskId = none := by
  have hfinite : ({taskId | (tasks taskId).isSome} : Set Int).Finite := by
    rw [h.keys_eq]
    exact Finset.finite_toSet _
  rw [h.taskSize hcap, Int.natCast_eq_zero, Set.ncard_eq_zero hfinite, Set.eq_empty_iff_forall_notMem]
  simp only [Set.mem_ofPred_eq, Option.not_isSome_iff_eq_none]

theorem Inv.exact (h : Inv tasks e) (hcap : e.heapTimer.heapSize ≤ 2 * HeapTimer.capLimit) :
    Exact tasks e where
  coMap := h.coMap
  taskSize := h.taskSize hcap
  timer := by
    intro taskId hsome
    obtain ⟨t, ht⟩ := Option.isSome_iff_exists.mp hsome
    obtain ⟨p, n, hn, hid, -⟩ := h.node ht
    refine ⟨p, ⟨n, hn, hid⟩, ?_⟩
    rintro q ⟨m, hm, hid'⟩
    exact h.heap.id_inj hm hn (hid'.trans hid.symm)
  only := by
    intro p n hn
    obtain ⟨t, ht, -⟩ := h.task hn
    rw [ht]
    rfl

/-! ## Closing a task -/

theorem Inv.closed (h : Inv tasks e) (hn : e.heapTimer.nodes p = some n) :
    ∃ e', e.closeTask n.timerId = .ok e' ∧ HeapTimer.Dropped e.heapTimer e'.heapTimer p ∧
      Inv (Function.update tasks n.timerId none) e' := by
  obtain ⟨t, ht, -⟩ := h.task hn
  have hlook := h.coMap n.timerId
  obtain ⟨heapTimer, hunreg, hd⟩ := HeapTimer.unregisterTimer_hit h.heap hn ⟨rfl, rfl⟩
  refine ⟨⟨heapTimer, e.coMap.erase n.timerId⟩, ?_, hd, hd.inv, ?_, ?_⟩
  · simp only [closeTask, if_pos (h.pos ht), CoroutineMap.entry, hlook, ht, Option.map_some,
      hunreg, ok_bind]
  · exact lookup_erase_update (f := fun o => o) h.coMap rfl
  · rw [HeapTimer.timers_dropped h.heap hn hd]
    exact lookup_erase_update (f := Option.map due) h.timers rfl

/-! ## The calls -/

theorem set_delay (delay : Int) : TimeValue.set delay 0 = .ok ⟨delay, 0⟩ := HeapTimer.start_eq delay

theorem Inv.created (lua : Lua φ κ α ω) (w : ω) (luaFunc : φ) (start : Int) {delay : Int}
    (h : Inv tasks e) (hcap : e.heapTimer.heapSize < HeapTimer.capLimit) (hdelay : 0 < delay) :
    ∃ ret e', e.createTask lua luaFunc start delay = .ok (ret, e') ∧
      e'.heapTimer.heapSize ≤ 2 * HeapTimer.capLimit ∧
      Inv (tasks.after lua w ret (.createTask luaFunc start delay)) e' := by
  obtain ⟨n, heapTimer, hreg, hadd, hn, hsize⟩ := HeapTimer.registerTimer_secs h.heap
    (hcap.le.trans (by decide)) start hdelay (some ()) ()
  have hnode : heapTimer.nodes e.heapTimer.fresh = some n := by
    rw [hadd.nodes, Function.update_self]
  have hroom : heapTimer.heapSize ≤ 2 * HeapTimer.capLimit :=
    hsize.trans (Nat.mul_le_mul_left 2 hcap.le)
  have hpos : 0 < n.timerId := hadd.inv.id_pos hnode
  have hfresh : tasks n.timerId = none := by
    rw [← Option.not_isSome_iff_eq_none, ← h.mem_timers]
    exact hadd.fresh_id h.heap
  have htimers := HeapTimer.timers_added h.heap hadd
  rw [hn] at htimers
  unfold createTask
  simp only [set_delay, ok_bind, hreg, if_neg (Int.not_le.mpr hpos)]
  cases hfunc : lua.getGlobal luaFunc with
  | some co =>
      refine ⟨n.timerId, _, rfl, hroom, ?_⟩
      simp only [Pending.after, hpos, if_true, hfunc, Option.map_some]
      refine ⟨hadd.inv, ?_, ?_⟩
      · exact lookup_insert_update (f := fun o => o) h.coMap rfl
      · rw [htimers]
        exact lookup_insert_update (f := Option.map due) h.timers rfl
  | none =>
      -- the timer goes again
      obtain ⟨heapTimer', hunreg, hd⟩ :=
        HeapTimer.unregisterTimer_hit hadd.inv hnode ⟨rfl, rfl⟩
      simp only [hunreg, ok_bind]
      refine ⟨0, _, rfl, hd.heapSize.le.trans hroom, ?_⟩
      simp only [Pending.after, Int.lt_irrefl, if_false]
      refine ⟨hd.inv, fun taskId => ?_, fun taskId => ?_⟩
      · by_cases hid : taskId = n.timerId
        · rw [hid, Finmap.lookup_erase, hfresh]
          rfl
        · rw [Finmap.lookup_erase_ne hid]
          exact h.coMap taskId
      · rw [HeapTimer.timers_dropped hadd.inv hnode hd, htimers]
        by_cases hid : taskId = n.timerId
        · rw [hid, Finmap.lookup_erase, hfresh]
          rfl
        · rw [Finmap.lookup_erase_ne hid, Finmap.lookup_insert_of_ne _ hid]
          exact h.timers taskId

theorem resume_of_nonpos (hid : ¬ 0 < taskId) : e.resume lua taskId args w = .ok (e, w) := by
  unfold resume
  rw [if_neg hid]

/-- **Resume** of a positive id that is not pending leaves a null entry. -/
theorem Inv.resume_absent (h : Inv tasks e) (hid : 0 < taskId) (ht : tasks taskId = none) :
    e.resume lua taskId args w = .ok ({ e with coMap := e.coMap.insert taskId none }, w) := by
  have hlook := h.coMap taskId
  simp only [ht, Option.map_none] at hlook
  simp only [resume, if_pos hid, CoroutineMap.entry, hlook]

theorem Inv.resume_fault {fault : Fault} (h : Inv tasks e) (ht : tasks taskId = some t)
    (hresume : lua.resume t.co args w = .error fault) :
    e.resume lua taskId args w = .error fault := by
  have hlook := h.coMap taskId
  simp only [ht, Option.map_some] at hlook
  simp only [resume, if_pos (h.pos ht), CoroutineMap.entry, hlook, hresume, error_bind]

/-- **Resume** of a pending task: what its script comes back with is what is left of it. -/
theorem Inv.resumed {ret : LuaRet κ} (h : Inv tasks e) (ht : tasks taskId = some t)
    (hresume : lua.resume t.co args w = .ok (ret, w')) :
    ∃ e', e.resume lua taskId args w = .ok (e', w') ∧
      e'.heapTimer.heapSize = e.heapTimer.heapSize ∧
      Inv (tasks.after lua w 0 (.resume taskId args : Call φ α)) e' := by
  obtain ⟨p, n, hn, rfl, -⟩ := h.node ht
  have hlook := h.coMap n.timerId
  simp only [ht, Option.map_some] at hlook
  have hafter : tasks.after lua w 0 (.resume n.timerId args : Call φ α) =
      Function.update tasks n.timerId (ret.next.map fun co => { t with co := co }) := by
    simp only [Pending.after, ht, Option.bind_some, PendingTask.resumed, hresume]
  rw [hafter]
  obtain ⟨e', hclose, hd, hinv⟩ := h.closed hn
  simp only [resume, if_pos (h.pos ht), CoroutineMap.entry, hlook, hresume, ok_bind]
  cases ret with
  | yielded co =>
      refine ⟨_, rfl, rfl, h.heap, ?_, fun taskId => ?_⟩
      · exact lookup_insert_update (f := fun o => o) h.coMap rfl
      · rw [h.timers taskId]
        by_cases hid : taskId = n.timerId
        · rw [hid, Function.update_self, ht]
          rfl
        · rw [Function.update_of_ne hid]
  | returned => exact ⟨e', by rw [hclose, ok_bind], hd.heapSize, hinv⟩
  | failed => exact ⟨e', by rw [hclose, ok_bind], hd.heapSize, hinv⟩

theorem Inv.run_idle (h : Inv tasks e) (hidle : Meets tasks (.run now : Call φ α)) (fuel : Nat) :
    e.run fuel now = .ok (some e) ∨ fuel = 0 ∧ e.run fuel now = .ok none := by
  have hstep : HeapTimer.pollStep now execute e.heapTimer e.coMap = .ok none := by
    refine HeapTimer.pollStep_idle h.heap (fun n _ hn => ?_)
    obtain ⟨t, ht, hdue, -⟩ := h.task hn
    rw [← hdue]
    exact hidle _ t ht
  unfold run HeapTimer.timerPoll
  split
  · exact Or.inl rfl
  · cases fuel with
    | zero => exact Or.inr ⟨rfl, rfl⟩
    | succ fuel =>
        left
        unfold HeapTimer.pollLoop
        rw [hstep]
        rfl

theorem Inv.run_due (h : Inv tasks e) (ht : tasks taskId = some t) (hdue : t.deadline ≤ now)
    (fuel : Nat) :
    e.run fuel now = .ok none ∨ e.run fuel now = .error .badPointer ∨
      e.run fuel now = .error .doubleFree := by
  obtain ⟨p, n, hn, hid, hexpire, -⟩ := h.node ht
  have hlook := (HeapTimer.lookup_timers h.heap).mpr ⟨p, n, hn, rfl, rfl⟩
  have h0 := h.heap.curSize_pos hlook
  obtain ⟨m, hm, -⟩ := h.heap.cell h0
  have hleast : m.expireTime ≤ n.expireTime := h.heap.root_least hm hlook
  obtain ⟨-, -, -, hcb⟩ := h.task hm
  obtain ⟨e', hclose, hd, -⟩ := h.closed hm
  have hcall : execute () m.timerId m.data e.heapTimer e.coMap =
      .ok (-1, e'.heapTimer, e'.coMap) := by
    simp only [execute, onTimer, hclose, ok_bind]
  have hstep := HeapTimer.pollStep_dropped h.heap h0 hm
    (hleast.trans (hexpire.le.trans hdue)) hcb hcall hd
  unfold run HeapTimer.timerPoll
  rw [if_neg h0.ne']
  cases fuel with
  | zero => exact Or.inl rfl
  | succ fuel =>
      right
      unfold HeapTimer.pollLoop
      rcases hstep with hstep | hstep <;> rw [hstep]
      · exact Or.inl rfl
      · exact Or.inr rfl

/-! ## Runs -/

theorem Pending.after_run (hidle : Meets tasks (.run now : Call φ α)) (ret : Int) :
    tasks.after lua w ret (.run now) = tasks := by
  funext taskId
  show (tasks taskId).filter _ = tasks taskId
  cases ht : tasks taskId with
  | none => rfl
  | some t => rw [Option.filter_some, decide_eq_true (hidle taskId t ht), if_pos rfl]

theorem Pending.after_resume (ht : tasks taskId = none) (ret : Int) :
    tasks.after lua w ret (.resume taskId args : Call φ α) = tasks := by
  show Function.update tasks taskId ((tasks taskId).bind _) = tasks
  rw [ht, Option.bind_none, ← ht, Function.update_eq_self]

theorem Meets.not_pos (hmeets : Meets tasks (.resume taskId args : Call φ α))
    (ht : tasks taskId = none) : ¬ 0 < taskId := by
  intro hid
  have hsome := hmeets hid
  rw [ht] at hsome
  cases hsome

theorem Inv.call (h : Inv tasks e) (hcap : e.heapTimer.heapSize < HeapTimer.capLimit)
    {c : Call φ α} (hpos : c.Positive) (hmeets : Meets tasks c) {fuel : Nat} {ret : Int}
    (hexec : c.exec lua fuel e w = .ok (some (ret, e', w'))) :
    Inv (tasks.after lua w ret c) e' ∧ e'.heapTimer.heapSize ≤ 2 * HeapTimer.capLimit := by
  have hcap' : e.heapTimer.heapSize ≤ 2 * HeapTimer.capLimit := hcap.le.trans (by omega)
  cases c with
  | createTask luaFunc start delay =>
      obtain ⟨ret', e₁, hcreate, hroom, hinv⟩ := h.created lua w luaFunc start hcap hpos
      simp only [Call.exec, hcreate, ok_bind] at hexec
      cases hexec
      exact ⟨hinv, hroom⟩
  | resume taskId args =>
      obtain ⟨⟨e₁, w₁⟩, hresume, hexec⟩ := bind_eq_ok.mp hexec
      cases hexec
      cases ht : tasks taskId with
      | none =>
          have hid := Meets.not_pos hmeets ht
          rw [resume_of_nonpos hid] at hresume
          cases hresume
          rw [Pending.after_resume ht]
          exact ⟨h, hcap'⟩
      | some t =>
          cases hrun : lua.resume t.co args w with
          | error fault =>
              rw [h.resume_fault ht hrun] at hresume
              cases hresume
          | ok r =>
              obtain ⟨e₂, h₂, hsize, hinv⟩ := h.resumed (φ := φ) ht hrun
              rw [h₂] at hresume
              cases hresume
              exact ⟨hinv, hsize.trans_le hcap'⟩
  | run now =>
      obtain ⟨o, hrun, hexec⟩ := bind_eq_ok.mp hexec
      rw [Pending.after_run hmeets]
      rcases h.run_idle hmeets fuel with hidle | ⟨-, hidle⟩
      · rw [hidle] at hrun
        cases hrun
        cases hexec
        exact ⟨h, hcap'⟩
      · rw [hidle] at hrun
        cases hrun
        cases hexec

theorem Run.inv {start : Int} {w₀ : ω}
    (h : Run lua Meets start w₀ tasks e w) :
    Inv tasks e ∧ e.heapTimer.heapSize < HeapTimer.capLimit := by
  induction h with
  | init => exact ⟨init_inv start, (by decide : 1024 + 1 < HeapTimer.capLimit)⟩
  | call fuel c _ hpos hmeets hexec hcap ih => exact ⟨(ih.1.call ih.2 hpos hmeets hexec).1, hcap⟩

theorem Inv.right (h : Inv tasks e) (hcap : e.heapTimer.heapSize < HeapTimer.capLimit)
    {c : Call φ α} (hpos : c.Positive) (hmeets : Meets tasks c) : Right lua tasks e w c where
  ends := by
    cases c with
    | createTask luaFunc start delay =>
        obtain ⟨ret, e₁, hcreate, -⟩ := h.created lua w luaFunc start hcap hpos
        refine Or.inl ⟨0, ret, e₁, w, ?_⟩
        simp only [Call.exec, hcreate, ok_bind]
    | resume taskId args =>
        cases ht : tasks taskId with
        | none =>
            have hid := Meets.not_pos hmeets ht
            refine Or.inl ⟨0, 0, e, w, ?_⟩
            simp only [Call.exec, resume_of_nonpos hid, ok_bind]
        | some t =>
            cases hrun : lua.resume t.co args w with
            | error fault => exact Or.inr ⟨taskId, args, t, fault, rfl, ht, hrun⟩
            | ok r =>
                obtain ⟨e', hresume, -⟩ := h.resumed (φ := φ) ht hrun
                refine Or.inl ⟨0, 0, e', r.2, ?_⟩
                simp only [Call.exec, hresume, ok_bind]
    | run now =>
        rcases h.run_idle hmeets 1 with hidle | ⟨h1, -⟩
        · refine Or.inl ⟨1, 0, e, w, ?_⟩
          simp only [Call.exec, hidle, ok_bind]
        · cases h1
  exact := by
    intro fuel ret e' w' hexec
    obtain ⟨hinv, hsize⟩ := h.call hcap hpos hmeets hexec
    exact hinv.exact hsize
  idle := by
    rintro fuel ret e' w' taskId args rfl ht hexec
    have hid := Meets.not_pos hmeets ht
    simp only [Call.exec, resume_of_nonpos hid, ok_bind] at hexec
    cases hexec
    exact ⟨rfl, rfl⟩

theorem Inv.meets (h : Inv tasks e) {c : Call φ α} (hright : Right lua tasks e w c) :
    Meets tasks c := by
  cases c with
  | createTask _ _ _ => trivial
  | resume taskId args =>
      intro hid
      cases ht : tasks taskId with
      | some t => rfl
      | none =>
          -- the entry that is left is null
          have hexec : (Call.resume taskId args : Call φ α).exec lua 0 e w =
              .ok (some (0, { e with coMap := e.coMap.insert taskId none }, w)) := by
            simp only [Call.exec, h.resume_absent hid ht, ok_bind]
          have hnull := (hright.exact _ _ _ _ hexec).coMap taskId
          rw [Pending.after_resume ht, ht, Finmap.lookup_insert] at hnull
          cases hnull
  | run now =>
      intro taskId t ht
      by_contra hdue
      have hrun := fun fuel => h.run_due ht (not_lt.mp hdue) fuel
      rcases hright.ends with ⟨fuel, ret, e', w', hexec⟩ | ⟨_, _, _, _, hresume, -⟩
      · rcases hrun fuel with hend | hend | hend <;> simp [Call.exec, hend] at hexec
      · cases hresume

/-! ## The end of the process -/

theorem Inv.wait_ne (h : Inv tasks e) (hsize : e.getTaskSize ≠ 0) (clock : Nat → TimeValue) :
    ∀ fuel pass e', waitForTasks clock fuel pass e ≠ .ok (some e') := by
  intro fuel
  induction fuel with
  | zero => exact fun _ _ hend => by cases hend
  | succ fuel ih =>
      intro pass e' hend
      unfold waitForTasks at hend
      rw [if_pos hsize] at hend
      by_cases hidle : Meets tasks (.run (clock pass) : Call Unit Unit)
      · rcases h.run_idle hidle fuel with hrun | ⟨-, hrun⟩
        · rw [hrun] at hend
          exact ih (pass + 1) e' hend
        · rw [hrun] at hend
          cases hend
      · simp only [Meets, not_forall, not_lt] at hidle
        obtain ⟨taskId, t, ht, hdue⟩ := hidle
        rcases h.run_due ht hdue fuel with hrun | hrun | hrun <;> rw [hrun] at hend <;> cases hend

theorem Inv.wait_iff (h : Inv tasks e) (hcap : e.heapTimer.heapSize < HeapTimer.capLimit)
    (clock : Nat → TimeValue) :
    (∃ fuel e', waitForTasks clock fuel 0 e = .ok (some e')) ↔ ∀ taskId, tasks taskId = none := by
  rw [← h.taskSize_eq_zero (hcap.le.trans (by omega))]
  constructor
  · rintro ⟨fuel, e', hend⟩
    by_contra hsize
    exact h.wait_ne hsize clock fuel 0 e' hend
  · intro hsize
    refine ⟨1, e, ?_⟩
    unfold waitForTasks
    rw [if_neg (not_not.mpr hsize)]

end

/-- **The task table is exact** in every state of a run whose calls meet the condition; a call
in such a state does what it should exactly when it meets it, and the destructor of
`LuaEngineModule` comes to an end exactly when no task is left. -/
theorem run_exact {lua : Lua φ κ α ω} {start : Int} {w₀ w : ω} {tasks : Pending κ}
    {e : LuaEngine κ} (h : Run lua Meets start w₀ tasks e w) :
    Exact tasks e ∧
      (∀ c : Call φ α, c.Positive → (Right lua tasks e w c ↔ Meets tasks c)) ∧
      ∀ clock, (∃ fuel e', waitForTasks clock fuel 0 e = .ok (some e')) ↔
        ∀ taskId, tasks taskId = none := by
  obtain ⟨hinv, hcap⟩ := h.inv
  refine ⟨hinv.exact (hcap.le.trans (by omega)), fun c hpos => ⟨hinv.meets, fun hmeets => ?_⟩, ?_⟩
  · exact hinv.right hcap hpos hmeets
  · exact hinv.wait_iff hcap

/-- A script that yields once. -/
def yieldOnce : Lua Unit Bool Unit Unit where
  getGlobal := fun _ => some true
  resume := fun co _ _ => .ok (if co then .yielded false else .returned, ())

/-- A task of 10 seconds that is created in second 7. -/
def created : Int × LuaEngine Bool :=
  match (init 7 : LuaEngine Bool).createTask yieldOnce () 7 10 with
  | .ok r => r
  | .error _ => (0, init 7)

/-- The pending tasks after that. -/
def oneTask : Pending Bool :=
  Pending.after yieldOnce (fun _ => none) () created.1 (.createTask () 7 10)

theorem created_run {meets : Pending Bool → Call Unit Unit → Prop}
    (hmeets : meets (fun _ => none) (.createTask () 7 10)) :
    Run yieldOnce meets 7 () oneTask created.2 () :=
  .call 0 (.createTask () 7 10) .init (show (0 : Int) < 10 by decide) hmeets rfl (by decide)

/-- The engine with its first task is exact. -/
theorem run_exact_first : (oneTask created.1).isSome ∧ Exact oneTask created.2 ∧
    (∀ c : Call Unit Unit, c.Positive →
      (Right yieldOnce oneTask created.2 () c ↔ Meets oneTask c)) ∧
    ∀ clock, (∃ fuel e', waitForTasks clock fuel 0 created.2 = .ok (some e')) ↔
      ∀ taskId, oneTask taskId = none :=
  ⟨by decide +kernel, run_exact (created_run trivial)⟩

/-- **A late response and a timeout.**  Resuming a task that there never was leaves an entry
for it, which `GetTaskSize` counts and the destructor waits for; and when the time of a task is
over, `Run` deletes its timer twice. -/
theorem run_inexact :
    (∃ e, Run yieldOnce (fun _ _ => True) 7 () (fun _ => none) e () ∧ ¬ Exact (fun _ => none) e ∧
      e.getTaskSize = 1) ∧
    ∃ tasks e, Run yieldOnce (fun _ _ => True) 7 () tasks e () ∧
      e.run 5 ⟨17, 0⟩ = .error .doubleFree := by
  refine ⟨⟨{ (init 7 : LuaEngine Bool) with coMap := CoroutineMap.entry ∅ 5 |>.2 }, ?_, ?_, ?_⟩, ?_⟩
  · have hrun : Run yieldOnce (fun _ _ => True) 7 () _ _ () :=
      .call 0 (.resume 5 () : Call Unit Unit) .init trivial trivial rfl (by decide)
    rwa [Pending.after_resume rfl] at hrun
  · intro h
    cases h.coMap 5
  · decide +kernel
  · exact ⟨oneTask, created.2, created_run trivial, rfl⟩

end LuaEngine

end PlayFrame
