/-
# `PlayFrame.GameSvr.Coroutine` — control transfer between coroutines

`gamesvr/coroutine_module`, on `swapcontext`.  What a body does is not known; it is the calls
that it makes, in any order, and so is what the main context does.

* A `Context` is where a stack has stopped: in the `swapcontext` of a `Resume`, in that of a
  `Yield`, or before the first instruction of `Schedule`.  `swapcontext` saves one and goes on
  at another; going on where the stack does not stand any more is undefined.
* There is one `main_context_`.  `Resume` saves there whoever calls it, and `Yield` and the end
  of a body go on there and set `running_` to -1, whoever called `Resume`.

So a body may resume another, but when that one stops, the first goes on as if it were the main
context: `running()` is -1, and its `Yield` returns at once.  `Meets` is the condition that leaves
this out: a coroutine only stops when the main context has resumed it.  In a run whose steps meet
it, `running()` tells whose code is executed, and a step does what it should if and only if it
meets it (`run_transfers`).
-/
import PlayFrame.Frame.HeapTimerBounds

namespace PlayFrame

/-- `enum CoroutineStatus`. -/
inductive CoroutineStatus where
  | ready
  | suspended
  | running
  | finished
  deriving DecidableEq, Repr

/-- Whose code is executed: the main context's or a coroutine's. -/
inductive Actor where
  | main
  | body (co : Ptr)
  deriving DecidableEq, Repr

/-- Where a stack has stopped. -/
inductive Context where
  /-- `makecontext` has been called, with `Schedule` -/
  | schedule (co : Ptr)
  /-- `swapcontext` in a `Resume` that `caller` has called -/
  | resume (caller : Actor) (coroutineId : Int) (co : Ptr)
  /-- `swapcontext` in a `Yield` -/
  | yield (caller : Actor) (co : Ptr)
  deriving DecidableEq, Repr

namespace CoroutineModule

/-- `Coroutine`.  `malloc` leaves `ctx` unset. -/
structure Coroutine where
  status : CoroutineStatus
  ctx : Option Context
  yield : UInt64

end CoroutineModule

/-- `class CoroutineModule`, the coroutines it has allocated, whose code is executed, and
where the other stacks stand. -/
structure CoroutineModule where
  heapTimer : HeapTimer Unit Unit
  running : Int
  mainContext : Option Context
  coroutineMap : Finmap (fun _ : Int => Ptr)
  coroutines : Ptr → Option CoroutineModule.Coroutine
  /-- the next allocation -/
  fresh : Ptr
  current : Actor
  stopped : Actor → Option Context

namespace CoroutineModule

/-- The state after `ModuleInit`, with a timer heap of `logic_timer_init_size`. -/
def init (logicTimerInitSize : Nat) (now : Int) : CoroutineModule where
  heapTimer := HeapTimer.init logicTimerInitSize now
  running := -1
  mainContext := none
  coroutineMap := ∅
  coroutines := fun _ => none
  fresh := 1
  current := .main
  stopped := fun _ => none

/-! ## Memory -/

/-- `*co`. -/
def deref (m : CoroutineModule) (p : Ptr) : Result Coroutine :=
  match m.coroutines p with
  | some co => .ok co
  | none => .error .badPointer

/-- `*co = c`, for a `co` that can be dereferenced. -/
def assign (m : CoroutineModule) (p : Ptr) (co : Coroutine) : CoroutineModule :=
  { m with coroutines := Function.update m.coroutines p (some co) }

/-- `free(co)`. -/
def free (m : CoroutineModule) (p : Ptr) : Result CoroutineModule :=
  match m.coroutines p with
  | some _ => .ok { m with coroutines := Function.update m.coroutines p none }
  | none => .error .doubleFree

/-! ## The functions of the class -/

/-- `CoroutineModule::GetCoroutine`. -/
def getCoroutine (m : CoroutineModule) (coroutineId : Int) : Option Ptr :=
  m.coroutineMap.lookup coroutineId

/-- `CoroutineModule::DestroyCoroutine`. -/
def destroyCoroutine (coroutineId : Int) (m : CoroutineModule) : Result CoroutineModule :=
  match m.getCoroutine coroutineId with
  | none => .ok m
  | some p => do
      let m ← m.free p
      let m := { m with coroutineMap := m.coroutineMap.erase coroutineId }
      if coroutineId ≠ 0 then do
        let heapTimer ← m.heapTimer.unregisterTimer coroutineId
        .ok { m with heapTimer := heapTimer }
      else .ok m

/-- The end of `CreateCoroutine`: a new coroutine goes into the map, where `insert` does not
replace an entry. -/
def insertCoroutine (coroutineId : Int) (m : CoroutineModule) : CoroutineModule :=
  { m.assign m.fresh { status := .ready, ctx := none, yield := 0 } with
    fresh := m.fresh + 1
    coroutineMap :=
      if coroutineId ∈ m.coroutineMap then m.coroutineMap
      else m.coroutineMap.insert coroutineId m.fresh }

/-- The timer of a new coroutine: there is none, and the id is 0, when it is to run at once. -/
def registerDelay (now taskDelaySecs : Int) (heapTimer : HeapTimer Unit Unit) :
    Result (Int × HeapTimer Unit Unit) :=
  if taskDelaySecs > 0 then do
    let delay ← TimeValue.set taskDelaySecs 0
    heapTimer.registerTimer now delay delay (some ()) ()
  else .ok (0, heapTimer)

/-- `CoroutineModule::CreateCoroutine` in the second `now`; `malloc` says whether there is
memory. -/
def createCoroutine (now taskDelaySecs : Int) (malloc : Bool) (m : CoroutineModule) :
    Result (Int × CoroutineModule) := do
  let (coroutineId, heapTimer) ← registerDelay now taskDelaySecs m.heapTimer
  let m := { m with heapTimer := heapTimer }
  if malloc then .ok (coroutineId, m.insertCoroutine coroutineId) else .ok (-1, m)

/-- The rest of `Resume`, when its `swapcontext` has come back: what it returns. -/
def resumeReturns (coroutineId : Int) (p : Ptr) (m : CoroutineModule) :
    Result (UInt64 × CoroutineModule) := do
  let co ← m.deref p
  let ret := co.yield
  let m := m.assign p { co with yield := 0 }
  if m.running = -1 ∧ co.status = .finished then do
    let m ← m.destroyCoroutine coroutineId
    .ok (ret, m)
  else .ok (ret, m)

/-- The rest of `Yield`, when its `swapcontext` has come back. -/
def yieldReturns (p : Ptr) (m : CoroutineModule) : Result (UInt64 × CoroutineModule) := do
  let co ← m.deref p
  .ok (co.yield, m.assign p { co with yield := 0 })

/-- A stack goes on at a context: what the call returns in which it had stopped, if it had. -/
def goOn (ctx : Option Context) (m : CoroutineModule) :
    Result (Option UInt64 × CoroutineModule) :=
  match ctx with
  | none => .error .badPointer
  | some (.schedule p) => .ok (none, { m with current := .body p })
  | some (.resume caller coroutineId p) =>
      if m.stopped caller = some (.resume caller coroutineId p) then do
        let (ret, m) ← resumeReturns coroutineId p
          { m with current := caller, stopped := Function.update m.stopped caller none }
        .ok (some ret, m)
      else .error .badPointer
  | some (.yield caller p) =>
      if m.stopped caller = some (.yield caller p) then do
        let (ret, m) ← yieldReturns p
          { m with current := caller, stopped := Function.update m.stopped caller none }
        .ok (some ret, m)
      else .error .badPointer

/-- `swapcontext(&main_context_, &co->ctx)`, in the `Resume` of `co`. -/
def swapToCoroutine (coroutineId : Int) (p : Ptr) (ctx : Option Context) (m : CoroutineModule) :
    Result (Option UInt64 × CoroutineModule) :=
  let here := Context.resume m.current coroutineId p
  goOn ctx { m with
    mainContext := some here
    stopped := Function.update m.stopped m.current (some here) }

/-- `CoroutineModule::Resume`, up to where the next code is executed: what the call returns
that goes on. -/
def resume (coroutineId : Int) (y : UInt64) (m : CoroutineModule) :
    Result (Option UInt64 × CoroutineModule) :=
  match m.getCoroutine coroutineId with
  | none => .ok (some 0, m)
  | some p => do
      let co ← m.deref p
      if co.status = .running then .ok (some 0, m)
      else
        let co := { co with yield := y }
        match co.status with
        | .ready =>
            let ctx := some (Context.schedule p)
            let m := m.assign p { co with status := .running, ctx := ctx }
            swapToCoroutine coroutineId p ctx { m with running := coroutineId }
        | .suspended =>
            let m := m.assign p { co with status := .running }
            swapToCoroutine coroutineId p co.ctx { m with running := coroutineId }
        | .running | .finished => .error .checkFailed

/-- `CoroutineModule::Yield`. -/
def yield (y : UInt64) (m : CoroutineModule) : Result (Option UInt64 × CoroutineModule) :=
  if m.running < 0 then .ok (some 0, m)
  else
    let cur := m.running
    let m := { m with running := -1 }
    match m.getCoroutine cur with
    | none => .error .badPointer
    | some p => do
        let co ← m.deref p
        let here := Context.yield m.current p
        let m := m.assign p { co with yield := y, status := .suspended, ctx := some here }
        goOn m.mainContext { m with stopped := Function.update m.stopped m.current (some here) }

/-- The end of `CoroutineModule::Schedule`, when the function of the coroutine at `p` has
returned `y`: its stack is left for `uc_link`, which is `main_context_`.  `Schedule` has found
the coroutine by the `running_` that `Resume` set just before. -/
def scheduleEnd (p : Ptr) (y : UInt64) (m : CoroutineModule) :
    Result (Option UInt64 × CoroutineModule) := do
  let co ← m.deref p
  let m := m.assign p { co with yield := y, status := .finished }
  goOn m.mainContext { m with running := -1 }

/-! ## Runs -/

/-- What the code that is executed calls, or that it is a body and ends. -/
inductive Op where
  | create (now taskDelaySecs : Int) (malloc : Bool)
  | resume (coroutineId : Int) (y : UInt64)
  | yield (y : UInt64)
  | finish (y : UInt64)

/-- The step of a call. -/
def Op.exec (m : CoroutineModule) : Op → Result CoroutineModule
  | .create now taskDelaySecs malloc => do
      let (_, m) ← m.createCoroutine now taskDelaySecs malloc
      .ok m
  | .resume coroutineId y => do
      let (_, m) ← m.resume coroutineId y
      .ok m
  | .yield y => do
      let (_, m) ← m.yield y
      .ok m
  | .finish y =>
      match m.current with
      | .main => .ok m
      | .body p => do
          let (_, m) ← m.scheduleEnd p y
          .ok m

/-- The main context does not end. -/
def Possible (m : CoroutineModule) : Op → Prop
  | .finish _ => m.current ≠ .main
  | .create .. | .resume .. | .yield _ => True

/-- The call of `Resume` that has the coroutine executed, and has not returned. -/
def Resumes (m : CoroutineModule) (caller : Actor) (p : Ptr) : Prop :=
  ∃ coroutineId, m.stopped caller = some (.resume caller coroutineId p)

/-- `running()` tells whose code is executed. -/
structure Consistent (m : CoroutineModule) : Prop where
  main : m.running = -1 ↔ m.current = .main
  body : ∀ p, m.current = .body p → m.getCoroutine m.running = some p

/-- What a step should do with the control: a coroutine that yields is suspended, one that
ends is destroyed, and whoever has resumed it goes on; no other coroutine is destroyed. -/
structure Transfers (m : CoroutineModule) (op : Op) (m' : CoroutineModule) : Prop where
  consistent : Consistent m'
  yields : ∀ y p, op = .yield y → m.current = .body p →
    (∃ caller, m.Resumes caller p ∧ m'.current = caller) ∧
      ∃ co, m'.coroutines p = some co ∧ co.status = .suspended
  finishes : ∀ y p, op = .finish y → m.current = .body p →
    (∃ caller, m.Resumes caller p ∧ m'.current = caller) ∧
      (m.coroutines p).isSome ∧ m'.coroutines p = none ∧
      ∀ coroutineId, m'.getCoroutine coroutineId ≠ some p
  frees : ∀ p, (m.coroutines p).isSome → m'.coroutines p = none →
    ∃ y, op = .finish y ∧ m.current = .body p

/-- The step returns, and does what it should. -/
def Right (m : CoroutineModule) (op : Op) : Prop := ∃ m', op.exec m = .ok m' ∧ Transfers m op m'

/-- A coroutine stops when the main context has resumed it, and one with a timer is made
when there is room for timers. -/
def Meets (m : CoroutineModule) : Op → Prop
  | .yield _ | .finish _ => ∀ p, m.current = .body p → m.Resumes .main p
  | .create _ taskDelaySecs _ => 0 < taskDelaySecs → 1 < m.heapTimer.heapSize
  | .resume .. => True

/-- The runs of a module that was made in the second `start`.  As everywhere, the timer heap
stays below the capacity that `uint32_t` allows.

Timeouts are left out.  `App::Run` calls `Update` in the main context, which has `OnTimer` destroy
each coroutine whose delay has passed, and with it its timer, which `TimerPoll` then deletes once
more (`HeapTimer.timerPoll`). -/
inductive Run (meets : CoroutineModule → Op → Prop) (logicTimerInitSize : Nat) (start : Int) :
    CoroutineModule → Prop
  | init : logicTimerInitSize + 1 < HeapTimer.capLimit →
      Run meets logicTimerInitSize start (init logicTimerInitSize start)
  | step {m m' : CoroutineModule} (op : Op) : Run meets logicTimerInitSize start m →
      m.Possible op → meets m op → op.exec m = .ok m' →
      m'.heapTimer.heapSize < HeapTimer.capLimit → Run meets logicTimerInitSize start m'

end CoroutineModule

end PlayFrame
