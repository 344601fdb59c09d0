/-
# `PlayFrame.GameSvr.CoroutineRun` — what holds while coroutines run

The invariant of `CoroutineModule` between two steps.  It does not follow the nesting of
`Resume`: it is enough to know of whom the main context waits.  If that is the coroutine that
is executed, it is the only one that runs and `main_context_` is its way back (`flat`); if not,
it cannot stop without breaking the condition.

One lemma for each function says what it does in such a state, one for each that the invariant
is kept, and `Inv.step` puts them together.
-/
import PlayFrame.GameSvr.Coroutine

namespace PlayFrame

namespace CoroutineModule

/-! ## The invariant -/

/-- The map leads to coroutines, each by one id, and the timers of the ids are sound. -/
structure Table (start : Int) (m : CoroutineModule) : Prop where
  /-- the timer heap is sound, or was made without room and has never been used -/
  timer : (HeapTimer.Inv m.heapTimer ∧ ∀ id p, m.getCoroutine id = some p →
      id = 0 ∨ 0 < id ∧ HeapTimer.Known m.heapTimer id) ∨
    m.heapTimer = HeapTimer.init 0 start ∧ ∀ id p, m.getCoroutine id = some p → id = 0
  alloc : ∀ id p, m.getCoroutine id = some p → (m.coroutines p).isSome
  inj : ∀ id id' p, m.getCoroutine id = some p → m.getCoroutine id' = some p → id = id'
  fresh : ∀ p, m.fresh ≤ p → m.coroutines p = none

/-- Where the stacks stand. -/
structure Control (m : CoroutineModule) : Prop where
  live : ∀ p co, m.coroutines p = some co → co.status ≠ .finished
  waiting : ∀ p co, m.coroutines p = some co → co.status = .suspended →
    co.ctx = some (.yield (.body p) p) ∧ m.stopped (.body p) = some (.yield (.body p) p)
  main : m.current = .main →
    m.running = -1 ∧ ∀ p co, m.coroutines p = some co → co.status ≠ .running
  body : ∀ p, m.current = .body p → m.getCoroutine m.running = some p ∧
    ∃ co, m.coroutines p = some co ∧ co.status = .running
  /-- the coroutine that the main context has resumed has not stopped since -/
  outer : m.current ≠ .main → ∀ id p, m.stopped .main = some (.resume .main id p) →
    ∃ co, m.coroutines p = some co ∧ co.status = .running
  /-- if it is executed, it is the only one that runs -/
  flat : ∀ p id, m.current = .body p → m.stopped .main = some (.resume .main id p) →
    id = m.running ∧ m.mainContext = some (.resume .main id p) ∧
      ∀ q co, m.coroutines q = some co → co.status = .running → q = p

/-- Between two steps. -/
structure Inv (start : Int) (m : CoroutineModule) : Prop extends Table start m, Control m

section
variable {start : Int} {m m' : CoroutineModule} {id : Int} {p : Ptr} {co : Coroutine} {y : UInt64}

theorem update_cases {f : Ptr → Option Coroutine} {o : Option Coroutine} {q : Ptr}
    (h : Function.update f p o q = some co) : q = p ∧ o = some co ∨ q ≠ p ∧ f q = some co := by
  by_cases hq : q = p
  · rw [hq, Function.update_self] at h
    exact Or.inl ⟨hq, h⟩
  · rw [Function.update_of_ne hq] at h
    exact Or.inr ⟨hq, h⟩

theorem isSome_update {f : Ptr → Option Coroutine} {q : Ptr} (h : (f q).isSome) :
    (Function.update f p (some co) q).isSome := by
  by_cases hq : q = p
  · rw [hq, Function.update_self]
    rfl
  · rwa [Function.update_of_ne hq]

theorem Table.ne_fresh (h : Table start m) {q : Ptr} (hco : m.coroutines p = some co)
    (hq : m.fresh ≤ q) : q ≠ p := by
  rintro rfl
  rw [h.fresh q hq] at hco
  cases hco

theorem init_inv {logicTimerInitSize : Nat} : Inv start (init logicTimerInitSize start) where
  timer := by
    rcases Nat.eq_zero_or_pos logicTimerInitSize with rfl | hsize
    · exact Or.inr ⟨rfl, fun _ _ h => by cases h⟩
    · exact Or.inl ⟨HeapTimer.init_inv hsize start, fun _ _ h => by cases h⟩
  alloc := fun _ _ h => by cases h
  inj := fun _ _ _ h => by cases h
  fresh := fun _ _ => rfl
  live := fun _ _ h => by cases h
  waiting := fun _ _ h => by cases h
  main := fun _ => ⟨rfl, fun _ _ h => by cases h⟩
  body := fun _ h => by cases h
  outer := fun h => absurd rfl h
  flat := fun _ _ h => by cases h

theorem Table.nonneg (h : Table start m) (hget : m.getCoroutine id = some p) : 0 ≤ id := by
  rcases h.timer with ⟨-, hids⟩ | ⟨-, hids⟩
  · rcases hids id p hget with hid | ⟨hid, -⟩ <;> omega
  · exact (hids id p hget).ge

theorem Inv.consistent (h : Inv start m) : Consistent m where
  main := by
    constructor
    · intro hrunning
      cases hcurrent : m.current with
      | main => rfl
      | body p =>
          have hnonneg := h.nonneg (h.body p hcurrent).1
          omega
    · exact fun hcurrent => (h.main hcurrent).1
  body := fun p hcurrent => (h.body p hcurrent).1

/-! ## Resume -/

/-- What a `Resume` that hands over the control leaves. -/
structure HandedOver (m : CoroutineModule) (id : Int) (p : Ptr) (m' : CoroutineModule) : Prop where
  heapTimer : m'.heapTimer = m.heapTimer
  coroutineMap : m'.coroutineMap = m.coroutineMap
  fresh : m'.fresh = m.fresh
  coroutines : ∃ co, co.status = .running ∧
    m'.coroutines = Function.update m.coroutines p (some co)
  running : m'.running = id
  mainContext : m'.mainContext = some (.resume m.current id p)
  current : m'.current = .body p
  caller : m'.stopped m.current = some (.resume m.current id p)
  others : ∀ a, a ≠ m.current → a ≠ .body p → m'.stopped a = m.stopped a

theorem Control.current_ne (h : Control m) (hco : m.coroutines p = some co)
    (hstatus : co.status ≠ .running) : m.current ≠ .body p := by
  intro hcurrent
  obtain ⟨-, c, hc, hrunning⟩ := h.body p hcurrent
  rw [hco] at hc
  cases hc
  exact hstatus hrunning

/-- **Resume**: nothing, or the control goes to a coroutine that was not running. -/
theorem Inv.resume_spec (h : Inv start m) (id : Int) (y : UInt64) :
    m.resume id y = .ok (some 0, m) ∨
      ∃ p co ret m', m.getCoroutine id = some p ∧ m.coroutines p = some co ∧
        co.status ≠ .running ∧ m.resume id y = .ok (ret, m') ∧ HandedOver m id p m' := by
  unfold resume
  cases hget : m.getCoroutine id with
  | none => exact Or.inl rfl
  | some p =>
      obtain ⟨co, hco⟩ := Option.isSome_iff_exists.mp (h.alloc id p hget)
      have hderef : m.deref p = .ok co := by unfold deref; rw [hco]
      simp only [hderef, ok_bind]
      by_cases hrunning : co.status = .running
      · left
        rw [if_pos hrunning]
      right
      rw [if_neg hrunning]
      have hcurrent := h.current_ne hco hrunning
      cases hstatus : co.status with
      | running => exact absurd hstatus hrunning
      | finished => exact absurd hstatus (h.live p co hco)
      | ready =>
          refine ⟨p, co, none, _, rfl, hco, hrunning, rfl, rfl, rfl, rfl, ⟨_, ?_, rfl⟩, rfl, rfl, rfl,
            ?_, ?_⟩
          · rfl
          · exact Function.update_self ..
          · exact fun a ha _ => Function.update_of_ne ha ..
      | suspended =>
          obtain ⟨hctx, hstopped⟩ := h.waiting p co hco hstatus
          have hhere : Function.update m.stopped m.current (some (.resume m.current id p)) (.body p) =
              some (.yield (.body p) p) := by
            rw [Function.update_of_ne (Ne.symm hcurrent), hstopped]
          simp only [swapToCoroutine, goOn, assign, hctx, hhere, if_true, yieldReturns, deref,
            Function.update_self, Function.update_idem, ok_bind]
          refine ⟨p, co, some y, _, rfl, hco, hrunning, rfl, rfl, rfl, rfl, ⟨_, ?_, rfl⟩, rfl, rfl, rfl,
            ?_, ?_⟩
          · rfl
          · show Function.update (Function.update m.stopped m.current _) (.body p) none m.current = _
            rw [Function.update_of_ne hcurrent, Function.update_self]
          · intro a ha ha'
            show Function.update (Function.update m.stopped m.current _) (.body p) none a = _
            rw [Function.update_of_ne ha', Function.update_of_ne ha]

theorem HandedOver.getCoroutine (h : HandedOver m id p m') (id' : Int) :
    m'.getCoroutine id' = m.getCoroutine id' := by
  unfold CoroutineModule.getCoroutine
  rw [h.coroutineMap]

theorem HandedOver.cases (h : HandedOver m id p m') {q : Ptr} {c : Coroutine}
    (hc : m'.coroutines q = some c) :
    q = p ∧ c.status = .running ∨ q ≠ p ∧ m.coroutines q = some c := by
  obtain ⟨co, hstatus, hco⟩ := h.coroutines
  rw [hco] at hc
  rcases update_cases hc with ⟨hq, hc⟩ | hother
  · cases hc
    exact Or.inl ⟨hq, hstatus⟩
  · exact Or.inr hother

theorem HandedOver.other (h : HandedOver m id p m') {q : Ptr} {c : Coroutine}
    (hc : m.coroutines q = some c) (hq : q ≠ p) : m'.coroutines q = some c := by
  obtain ⟨co, -, hco⟩ := h.coroutines
  rw [hco, Function.update_of_ne hq, hc]

theorem HandedOver.kept (h : HandedOver m id p m') (q : Ptr) (hq : (m.coroutines q).isSome) :
    (m'.coroutines q).isSome := by
  obtain ⟨co, -, hco⟩ := h.coroutines
  rw [hco]
  exact isSome_update hq

theorem HandedOver.table (h : Table start m) (hco : m.coroutines p = some co)
    (ho : HandedOver m id p m') : Table start m' where
  timer := by simpa only [ho.getCoroutine, ho.heapTimer] using h.timer
  alloc := by
    intro id' q hget'
    rw [ho.getCoroutine] at hget'
    exact ho.kept q (h.alloc id' q hget')
  inj := by simpa only [ho.getCoroutine] using h.inj
  fresh := by
    intro q hq
    rw [ho.fresh] at hq
    obtain ⟨co', -, hco'⟩ := ho.coroutines
    rw [hco', Function.update_of_ne (h.ne_fresh hco hq), h.fresh q hq]

theorem HandedOver.control (h : Control m) (hget : m.getCoroutine id = some p)
    (hco : m.coroutines p = some co) (hstatus : co.status ≠ .running)
    (ho : HandedOver m id p m') : Control m' where
  live := by
    intro q c hc
    rcases ho.cases hc with ⟨-, hrunning⟩ | ⟨-, hc⟩
    · rw [hrunning]
      decide
    · exact h.live q c hc
  waiting := by
    intro q c hc hsuspended
    rcases ho.cases hc with ⟨-, hrunning⟩ | ⟨hq, hc⟩
    · rw [hrunning] at hsuspended
      cases hsuspended
    · obtain ⟨hctx, hstopped⟩ := h.waiting q c hc hsuspended
      refine ⟨hctx, ?_⟩
      rw [ho.others, hstopped]
      · refine Ne.symm (h.current_ne hc ?_)
        rw [hsuspended]
        decide
      · exact fun heq => hq (Actor.body.inj heq)
  main := by
    intro hmain
    rw [ho.current] at hmain
    cases hmain
  body := by
    intro q hq
    rw [ho.current] at hq
    cases hq
    obtain ⟨co', hrunning, hco'⟩ := ho.coroutines
    refine ⟨?_, co', ?_, hrunning⟩
    · rw [ho.getCoroutine, ho.running, hget]
    · rw [hco', Function.update_self]
  outer := by
    intro _ id' q hstopped
    obtain ⟨co', hrunning, hco'⟩ := ho.coroutines
    by_cases hmain : m.current = .main
    · have hcaller := ho.caller
      rw [hmain, hstopped] at hcaller
      cases hcaller
      exact ⟨co', by rw [hco', Function.update_self], hrunning⟩
    · rw [ho.others _ (Ne.symm hmain) Actor.noConfusion] at hstopped
      obtain ⟨c, hc, hc'⟩ := h.outer hmain id' q hstopped
      refine ⟨c, ho.other hc ?_, hc'⟩
      rintro rfl
      rw [hco] at hc
      cases hc
      exact hstatus hc'
  flat := by
    intro q id' hcurrent hstopped
    rw [ho.current] at hcurrent
    cases hcurrent
    by_cases hmain : m.current = .main
    · have hcaller := ho.caller
      rw [hmain, hstopped] at hcaller
      cases hcaller
      refine ⟨ho.running.symm, by rw [ho.mainContext, hmain], fun q c hc hrunning => ?_⟩
      rcases ho.cases hc with ⟨hq, -⟩ | ⟨-, hc⟩
      · exact hq
      · exact absurd hrunning ((h.main hmain).2 q c hc)
    · -- the main context waits for a coroutine that runs, and `p` did not
      rw [ho.others _ (Ne.symm hmain) Actor.noConfusion] at hstopped
      obtain ⟨c, hc, hrunning⟩ := h.outer hmain id' p hstopped
      rw [hco] at hc
      cases hc
      exact absurd hrunning hstatus

/-! ## Yield, and the end of a body -/

theorem Inv.resumed (h : Inv start m) (hcurrent : m.current = .body p) (hmain : m.Resumes .main p) :
    m.getCoroutine m.running = some p ∧ 0 ≤ m.running ∧
      m.mainContext = some (.resume .main m.running p) ∧
      m.stopped .main = some (.resume .main m.running p) ∧
      ∀ q co, m.coroutines q = some co → co.status = .running → q = p := by
  obtain ⟨id, hstopped⟩ := hmain
  obtain ⟨rfl, hctx, honly⟩ := h.flat p id hcurrent hstopped
  obtain ⟨hget, -⟩ := h.body p hcurrent
  exact ⟨hget, h.nonneg hget, hctx, hstopped, honly⟩

theorem Inv.yield_main (h : Inv start m) (hcurrent : m.current = .main) :
    m.yield y = .ok (some 0, m) := by
  unfold yield
  rw [(h.main hcurrent).1]
  rfl

/-- **Yield** of a coroutine that the main context has resumed: there its `Resume` returns
what was passed to `Yield`. -/
theorem Inv.yield_body (h : Inv start m) (hcurrent : m.current = .body p)
    (hmain : m.Resumes .main p) :
    m.yield y = .ok (some y, { m with
      running := -1
      current := .main
      coroutines := Function.update m.coroutines p
        (some { status := .suspended, ctx := some (.yield (.body p) p), yield := 0 })
      stopped := Function.update (Function.update m.stopped (.body p) (some (.yield (.body p) p)))
        .main none }) := by
  obtain ⟨hget, hnonneg, hctx, hstopped, -⟩ := h.resumed hcurrent hmain
  obtain ⟨-, co, hco, -⟩ := h.body p hcurrent
  unfold getCoroutine at hget
  have hwaits : Function.update m.stopped (.body p) (some (.yield (.body p) p)) .main =
      some (.resume .main m.running p) := by
    rw [Function.update_of_ne Actor.noConfusion, hstopped]
  unfold yield
  rw [if_neg (Int.not_lt.mpr hnonneg)]
  simp only [getCoroutine, hget, deref, hco, ok_bind, goOn, assign, hctx, hcurrent, hwaits, if_true,
    resumeReturns, Function.update_self, Function.update_idem, reduceCtorEq, and_false, if_false]

theorem Table.unregister (h : Table start m) (hget : m.getCoroutine id = some p) (hid : id ≠ 0) :
    ∃ heapTimer, m.heapTimer.unregisterTimer id = .ok heapTimer ∧
      HeapTimer.Kept m.heapTimer heapTimer := by
  rcases h.timer with ⟨hinv, hids⟩ | ⟨-, hids⟩
  · obtain ⟨-, hknown⟩ := (hids id p hget).resolve_left hid
    rcases HeapTimer.unregisterTimer_step hinv hknown with
      ⟨heapTimer, q, n, hunreg, -, -, hd⟩ | ⟨hunreg, -⟩
    · exact ⟨heapTimer, hunreg, hd.inv, hd.heapSize, hd.randMaker⟩
    · exact ⟨m.heapTimer, hunreg, hinv, rfl, rfl⟩
  · exact absurd (hids id p hget) hid

/-- **The end** of a coroutine that the main context has resumed: there its `Resume` returns
what the body has returned, and destroys the coroutine. -/
theorem Inv.finish_body (h : Inv start m) (hcurrent : m.current = .body p)
    (hmain : m.Resumes .main p) :
    ∃ heapTimer, (heapTimer = m.heapTimer ∨ HeapTimer.Kept m.heapTimer heapTimer) ∧
      m.scheduleEnd p y = .ok (some y, { m with
        heapTimer := heapTimer
        running := -1
        current := .main
        coroutines := Function.update m.coroutines p none
        coroutineMap := m.coroutineMap.erase m.running
        stopped := Function.update m.stopped .main none }) := by
  obtain ⟨hget, -, hctx, hstopped, -⟩ := h.resumed hcurrent hmain
  obtain ⟨-, co, hco, -⟩ := h.body p hcurrent
  have hlook : m.coroutineMap.lookup m.running = some p := hget
  unfold scheduleEnd
  simp only [deref, hco, ok_bind, goOn, assign, hctx, hstopped, if_true, resumeReturns, free,
    Function.update_self, Function.update_idem, and_self, destroyCoroutine, getCoroutine, hlook]
  by_cases hid : m.running = 0
  · refine ⟨m.heapTimer, Or.inl rfl, ?_⟩
    simp only [hid, ne_eq, not_true_eq_false, if_false, ok_bind]
  · obtain ⟨heapTimer, hunreg, hkept⟩ := h.unregister hget hid
    refine ⟨heapTimer, Or.inr hkept, ?_⟩
    simp only [hid, ne_eq, not_false_eq_true, if_true, hunreg, ok_bind]

/-! ## One step -/

theorem Inv.stopped_other (h : Inv start m) (hcurrent : m.current = .body p)
    (hmain : m.Resumes .main p) {q : Ptr} {c : Coroutine} (hq : q ≠ p)
    (hc : m.coroutines q = some c) : c.status ≠ .running := by
  obtain ⟨-, -, -, -, honly⟩ := h.resumed hcurrent hmain
  exact fun hrunning => hq (honly q c hc hrunning)

theorem Inv.yielded (h : Inv start m) (hcurrent : m.current = .body p)
    (hmain : m.Resumes .main p) :
    Inv start { m with
      running := -1
      current := .main
      coroutines := Function.update m.coroutines p
        (some { status := .suspended, ctx := some (.yield (.body p) p), yield := 0 })
      stopped := Function.update (Function.update m.stopped (.body p) (some (.yield (.body p) p)))
        .main none } where
  timer := h.timer
  alloc := fun id q hq => isSome_update (h.alloc id q hq)
  inj := h.inj
  fresh := by
    intro q hq
    obtain ⟨-, co, hco, -⟩ := h.body p hcurrent
    show Function.update m.coroutines p _ q = none
    rw [Function.update_of_ne (h.ne_fresh hco hq), h.fresh q hq]
  live := by
    intro q c hc
    rcases update_cases hc with ⟨-, hc⟩ | ⟨-, hc⟩
    · cases hc
      exact CoroutineStatus.noConfusion
    · exact h.live q c hc
  waiting := by
    intro q c hc hsuspended
    show c.ctx = _ ∧ Function.update (Function.update m.stopped (.body p) _) .main none (.body q) = _
    rw [Function.update_of_ne Actor.noConfusion]
    rcases update_cases hc with ⟨rfl, hc⟩ | ⟨hq, hc⟩
    · cases hc
      exact ⟨rfl, Function.update_self ..⟩
    · rw [Function.update_of_ne (fun heq => hq (Actor.body.inj heq))]
      exact h.waiting q c hc hsuspended
  main := by
    refine fun _ => ⟨rfl, fun q c hc => ?_⟩
    rcases update_cases hc with ⟨-, hc⟩ | ⟨hq, hc⟩
    · cases hc
      exact CoroutineStatus.noConfusion
    · exact h.stopped_other hcurrent hmain hq hc
  body := fun _ hq => by cases hq
  outer := fun hne => absurd rfl hne
  flat := fun _ _ hq => by cases hq

theorem erase_cases {id' : Int} {q : Ptr} (h : (m.coroutineMap.erase id).lookup id' = some q) :
    id' ≠ id ∧ m.getCoroutine id' = some q := by
  by_cases hid : id' = id
  · rw [hid, Finmap.lookup_erase] at h
    cases h
  · rw [Finmap.lookup_erase_ne hid] at h
    exact ⟨hid, h⟩

theorem Table.kept_timer {heapTimer : HeapTimer Unit Unit} (h : Table start m)
    (hkept : heapTimer = m.heapTimer ∨ HeapTimer.Kept m.heapTimer heapTimer) :
    (HeapTimer.Inv heapTimer ∧ ∀ id p, m.getCoroutine id = some p →
      id = 0 ∨ 0 < id ∧ HeapTimer.Known heapTimer id) ∨
    heapTimer = HeapTimer.init 0 start ∧ ∀ id p, m.getCoroutine id = some p → id = 0 := by
  rcases hkept with rfl | hkept
  · exact h.timer
  · refine Or.inl ⟨hkept.inv, fun id q hq => ?_⟩
    rcases h.timer with ⟨-, hids⟩ | ⟨-, hids⟩
    · exact (hids id q hq).imp_right fun hid => ⟨hid.1, hid.2.mono hkept.heapSize.ge⟩
    · exact Or.inl (hids id q hq)

theorem Inv.finished {heapTimer : HeapTimer Unit Unit} (h : Inv start m)
    (hcurrent : m.current = .body p) (hmain : m.Resumes .main p)
    (hkept : heapTimer = m.heapTimer ∨ HeapTimer.Kept m.heapTimer heapTimer) :
    Inv start { m with
      heapTimer := heapTimer
      running := -1
      current := .main
      coroutines := Function.update m.coroutines p none
      coroutineMap := m.coroutineMap.erase m.running
      stopped := Function.update m.stopped .main none } where
  timer := (h.kept_timer hkept).imp
    (fun hs => ⟨hs.1, fun id q hq => hs.2 id q (erase_cases hq).2⟩)
    (fun hs => ⟨hs.1, fun id q hq => hs.2 id q (erase_cases hq).2⟩)
  alloc := by
    intro id q hq
    obtain ⟨hid, hq'⟩ := erase_cases hq
    have hne : q ≠ p := by
      rintro rfl
      exact hid (h.inj _ _ q hq' (h.body q hcurrent).1)
    show (Function.update m.coroutines p none q).isSome
    rw [Function.update_of_ne hne]
    exact h.alloc id q hq'
  inj := fun id id' q hq hq' => h.inj id id' q (erase_cases hq).2 (erase_cases hq').2
  fresh := by
    intro q hq
    show Function.update m.coroutines p none q = none
    by_cases hqp : q = p
    · rw [hqp, Function.update_self]
    · rw [Function.update_of_ne hqp]
      exact h.fresh q hq
  live := by
    intro q c hc
    rcases update_cases hc with ⟨-, hc⟩ | ⟨-, hc⟩
    · cases hc
    · exact h.live q c hc
  waiting := by
    intro q c hc hsuspended
    rcases update_cases hc with ⟨-, hc⟩ | ⟨-, hc⟩
    · cases hc
    · show c.ctx = _ ∧ Function.update m.stopped .main none (.body q) = _
      rw [Function.update_of_ne Actor.noConfusion]
      exact h.waiting q c hc hsuspended
  main := by
    refine fun _ => ⟨rfl, fun q c hc => ?_⟩
    rcases update_cases hc with ⟨-, hc⟩ | ⟨hq, hc⟩
    · cases hc
    · exact h.stopped_other hcurrent hmain hq hc
  body := fun _ hq => by cases hq
  outer := fun hne => absurd rfl hne
  flat := fun _ _ hq => by cases hq

/-! ## CreateCoroutine -/

theorem Table.register (h : Table start m) (hcap : m.heapTimer.heapSize < HeapTimer.capLimit)
    (now : Int) {delay : Int} (hroom : 0 < delay → 1 < m.heapTimer.heapSize) :
    ∃ id heapTimer, registerDelay now delay m.heapTimer = .ok (id, heapTimer) ∧
      (id = 0 ∧ heapTimer = m.heapTimer ∨
        0 < id ∧ HeapTimer.Known heapTimer id ∧ HeapTimer.Inv heapTimer ∧
          m.heapTimer.heapSize ≤ heapTimer.heapSize) := by
  unfold registerDelay
  by_cases hdelay : delay > 0
  · rw [if_pos hdelay]
    rcases h.timer with ⟨hinv, -⟩ | ⟨hinit, -⟩
    · obtain ⟨n, heapTimer, hreg, hadd, -, -⟩ := HeapTimer.registerTimer_secs hinv
        (hcap.le.trans (by decide)) now hdelay (some ()) ()
      obtain ⟨-, hle, hknown⟩ := HeapTimer.registerTimer_known hinv hcap hreg
      have hnode : heapTimer.nodes m.heapTimer.fresh = some n := by
        rw [hadd.nodes, Function.update_self]
      have hset : TimeValue.set delay 0 = .ok ⟨delay, 0⟩ := HeapTimer.start_eq delay
      refine ⟨n.timerId, heapTimer, ?_, Or.inr ⟨hadd.inv.id_pos hnode, hknown, hadd.inv, hle⟩⟩
      rw [hset, ok_bind, hreg]
    · have hsize := hroom hdelay
      rw [hinit] at hsize
      exact absurd hsize (Nat.lt_irrefl 1)
  · rw [if_neg hdelay]
    exact ⟨0, m.heapTimer, rfl, Or.inl ⟨rfl, rfl⟩⟩

theorem insertCoroutine_get (m : CoroutineModule) (id id' : Int) :
    (m.insertCoroutine id).getCoroutine id' =
      (m.getCoroutine id').or (if id' = id then some m.fresh else none) := by
  show (if id ∈ m.coroutineMap then m.coroutineMap
    else m.coroutineMap.insert id m.fresh).lookup id' = (m.coroutineMap.lookup id').or _
  split
  · next hold =>
    by_cases hid : id' = id
    · obtain ⟨q, hq⟩ := Finmap.mem_iff.mp hold
      rw [hid, hq]
      rfl
    · rw [if_neg hid, Option.or_none]
  · next hnew =>
    by_cases hid : id' = id
    · rw [hid, Finmap.lookup_insert, Finmap.lookup_eq_none.mpr hnew, if_pos rfl]
      rfl
    · rw [Finmap.lookup_insert_of_ne _ hid, if_neg hid, Option.or_none]

theorem insertCoroutine_cases {id' : Int} {q : Ptr}
    (h : (m.insertCoroutine id).getCoroutine id' = some q) :
    m.getCoroutine id' = some q ∨ id' = id ∧ q = m.fresh := by
  rw [insertCoroutine_get, Option.or_eq_some_iff] at h
  rcases h with h | ⟨-, h⟩
  · exact Or.inl h
  · split at h
    · next hid =>
      cases h
      exact Or.inr ⟨hid, rfl⟩
    · cases h

theorem Table.insertCoroutine_kept (h : Table start m) (id : Int)
    (hco : m.coroutines p = some co) : (m.insertCoroutine id).coroutines p = some co := by
  show Function.update m.coroutines m.fresh _ p = some co
  rw [Function.update_of_ne (h.ne_fresh hco (Nat.le_refl _)).symm, hco]

theorem Table.not_fresh (h : Table start m) (id : Int) : m.getCoroutine id ≠ some m.fresh := by
  intro hget
  obtain ⟨c, hc⟩ := Option.isSome_iff_exists.mp (h.alloc id _ hget)
  exact h.ne_fresh hc (Nat.le_refl _) rfl

theorem Table.inserted (h : Table start m)
    (hid : id = 0 ∨ HeapTimer.Inv m.heapTimer ∧ 0 < id ∧ HeapTimer.Known m.heapTimer id) :
    Table start (m.insertCoroutine id) where
  timer := by
    rcases h.timer with ⟨hinv, hids⟩ | ⟨hinit, hids⟩
    · refine Or.inl ⟨hinv, fun id' q hq => ?_⟩
      rcases insertCoroutine_cases hq with hq | ⟨rfl, -⟩
      · exact hids id' q hq
      · exact hid.imp_right And.right
    · rcases hid with rfl | ⟨hinv, hknown⟩
      · refine Or.inr ⟨hinit, fun id' q hq => ?_⟩
        rcases insertCoroutine_cases hq with hq | ⟨hid', -⟩
        · exact hids id' q hq
        · exact hid'
      · refine Or.inl ⟨hinv, fun id' q hq => ?_⟩
        rcases insertCoroutine_cases hq with hq | ⟨rfl, -⟩
        · exact Or.inl (hids id' q hq)
        · exact Or.inr hknown
  alloc := by
    intro id' q hq
    rcases insertCoroutine_cases hq with hq | ⟨-, rfl⟩
    · exact isSome_update (h.alloc id' q hq)
    · show (Function.update m.coroutines m.fresh _ m.fresh).isSome
      rw [Function.update_self]
      rfl
  inj := by
    intro id₁ id₂ q hq₁ hq₂
    rcases insertCoroutine_cases hq₁ with hq₁ | ⟨rfl, rfl⟩
    · rcases insertCoroutine_cases hq₂ with hq₂ | ⟨-, rfl⟩
      · exact h.inj id₁ id₂ q hq₁ hq₂
      · exact absurd hq₁ (h.not_fresh id₁)
    · rcases insertCoroutine_cases hq₂ with hq₂ | ⟨hid₂, -⟩
      · exact absurd hq₂ (h.not_fresh id₂)
      · exact hid₂.symm
  fresh := by
    intro q hq
    have hlt : m.fresh < q := hq
    show Function.update m.coroutines m.fresh _ q = none
    rw [Function.update_of_ne hlt.ne']
    exact h.fresh q hlt.le

theorem Inv.inserted_control (h : Inv start m) (id : Int) : Control (m.insertCoroutine id) where
  live := by
    intro q c hc
    rcases update_cases hc with ⟨-, hc⟩ | ⟨-, hc⟩
    · cases hc
      exact CoroutineStatus.noConfusion
    · exact h.live q c hc
  waiting := by
    intro q c hc hsuspended
    rcases update_cases hc with ⟨-, hc⟩ | ⟨-, hc⟩
    · cases hc
      cases hsuspended
    · exact h.waiting q c hc hsuspended
  main := by
    intro hmain
    obtain ⟨hrunning, hnone⟩ := h.main hmain
    refine ⟨hrunning, fun q c hc => ?_⟩
    rcases update_cases hc with ⟨-, hc⟩ | ⟨-, hc⟩
    · cases hc
      exact CoroutineStatus.noConfusion
    · exact hnone q c hc
  body := by
    intro q hcurrent
    obtain ⟨hq, c, hc, hrunning⟩ := h.body q hcurrent
    refine ⟨?_, c, h.insertCoroutine_kept id hc, hrunning⟩
    rw [insertCoroutine_get]
    show (m.getCoroutine m.running).or _ = some q
    rw [hq]
    rfl
  outer := by
    intro hne id' q hstopped
    obtain ⟨c, hc, hrunning⟩ := h.outer hne id' q hstopped
    exact ⟨c, h.insertCoroutine_kept id hc, hrunning⟩
  flat := by
    intro q id' hcurrent hstopped
    obtain ⟨hid', hctx, honly⟩ := h.flat q id' hcurrent hstopped
    refine ⟨hid', hctx, fun r c hc hrunning => ?_⟩
    rcases update_cases hc with ⟨-, hc⟩ | ⟨-, hc⟩
    · cases hc
      cases hrunning
    · exact honly r c hc hrunning

theorem Inv.created (h : Inv start m) (hcap : m.heapTimer.heapSize < HeapTimer.capLimit)
    (now : Int) {delay : Int} (malloc : Bool) (hroom : 0 < delay → 1 < m.heapTimer.heapSize) :
    ∃ ret m', m.createCoroutine now delay malloc = .ok (ret, m') ∧ Inv start m' ∧
      ∀ q, (m.coroutines q).isSome → (m'.coroutines q).isSome := by
  obtain ⟨id, heapTimer, hreg, htimer⟩ := h.register hcap now hroom
  have hinv : Inv start { m with heapTimer := heapTimer } := by
    refine { h with timer := ?_ }
    rcases htimer with ⟨-, rfl⟩ | ⟨-, -, hinv, hle⟩
    · exact h.timer
    · refine Or.inl ⟨hinv, fun id q hq => ?_⟩
      rcases h.timer with ⟨-, hids⟩ | ⟨-, hids⟩
      · rcases hids id q hq with hid | ⟨hid, hknown⟩
        · exact Or.inl hid
        · exact Or.inr ⟨hid, hknown.mono hle⟩
      · exact Or.inl (hids id q hq)
  unfold createCoroutine
  rw [hreg, ok_bind]
  cases malloc with
  | false => exact ⟨-1, _, rfl, hinv, fun _ hq => hq⟩
  | true =>
      refine ⟨id, _, rfl, ⟨hinv.toTable.inserted ?_, hinv.inserted_control id⟩,
        fun q hq => isSome_update hq⟩
      rcases htimer with ⟨hid, -⟩ | ⟨hid, hknown, hsound, -⟩
      · exact Or.inl hid
      · exact Or.inr ⟨hsound, hid, hknown⟩

/-! ## One step -/

theorem frees_of_kept (hkept : ∀ q, (m.coroutines q).isSome → (m'.coroutines q).isSome) (op : Op)
    (q : Ptr) (hq : (m.coroutines q).isSome) (hnone : m'.coroutines q = none) :
    ∃ y, op = .finish y ∧ m.current = .body q := by
  have hsome := hkept q hq
  rw [hnone] at hsome
  cases hsome

theorem Inv.step (h : Inv start m) (hcap : m.heapTimer.heapSize < HeapTimer.capLimit) {op : Op}
    (hpossible : m.Possible op) (hmeets : m.Meets op) :
    ∃ m', op.exec m = .ok m' ∧ Inv start m' ∧ Transfers m op m' := by
  cases op with
  | create now delay malloc =>
      obtain ⟨ret, m', hcreate, hinv, hkeep⟩ := h.created hcap now malloc hmeets
      refine ⟨m', ?_, hinv, hinv.consistent, nofun, nofun, frees_of_kept hkeep _⟩
      simp only [Op.exec, hcreate, ok_bind]
  | resume id y =>
      rcases h.resume_spec id y with hidle | ⟨p, co, ret, m', hget, hco, hstatus, hresume, ho⟩
      · refine ⟨m, ?_, h, h.consistent, nofun, nofun, frees_of_kept (fun _ hq => hq) _⟩
        simp only [Op.exec, hidle, ok_bind]
      · have hinv : Inv start m' :=
          ⟨HandedOver.table h.toTable hco ho, HandedOver.control h.toControl hget hco hstatus ho⟩
        refine ⟨m', ?_, hinv, hinv.consistent, nofun, nofun, frees_of_kept ho.kept _⟩
        simp only [Op.exec, hresume, ok_bind]
  | yield y =>
      cases hcurrent : m.current with
      | main =>
          refine ⟨m, ?_, h, h.consistent, fun y p _ hp => ?_, nofun,
            frees_of_kept (fun _ hq => hq) _⟩
          · simp only [Op.exec, h.yield_main hcurrent, ok_bind]
          · rw [hcurrent] at hp
            cases hp
      | body p =>
          have hmain := hmeets p hcurrent
          have hinv := h.yielded hcurrent hmain
          refine ⟨_, ?_, hinv, hinv.consistent, fun y q _ hq => ?_, nofun,
            frees_of_kept (fun _ hq => isSome_update hq) _⟩
          · simp only [Op.exec, h.yield_body hcurrent hmain, ok_bind]
          · rw [hcurrent] at hq
            cases hq
            exact ⟨⟨.main, hmain, rfl⟩, _, Function.update_self .., rfl⟩
  | finish y =>
      cases hcurrent : m.current with
      | main => exact absurd hcurrent hpossible
      | body p =>
          have hmain := hmeets p hcurrent
          obtain ⟨heapTimer, hkept, hfinish⟩ := h.finish_body (y := y) hcurrent hmain
          have hinv := h.finished hcurrent hmain hkept
          obtain ⟨hget, co, hco, -⟩ := h.body p hcurrent
          refine ⟨_, ?_, hinv, hinv.consistent, nofun, fun y q _ hq => ?_, fun q hq hnone => ?_⟩
          · simp only [Op.exec, hcurrent, hfinish, ok_bind]
          · rw [hcurrent] at hq
            cases hq
            refine ⟨⟨.main, hmain, rfl⟩, ?_, Function.update_self .., fun id hid => ?_⟩
            · rw [hco]
              rfl
            · obtain ⟨c, hc⟩ := Option.isSome_iff_exists.mp (hinv.alloc id p hid)
              change Function.update m.coroutines p none p = some c at hc
              rw [Function.update_self] at hc
              cases hc
          · change Function.update m.coroutines p none q = none at hnone
            by_cases hqp : q = p
            · exact ⟨y, rfl, by rw [hqp, hcurrent]⟩
            · rw [Function.update_of_ne hqp] at hnone
              rw [hnone] at hq
              cases hq

/-! `running_` is what the code that goes on finds there. -/

theorem destroyCoroutine_running (h : m.destroyCoroutine id = .ok m') : m'.running = m.running := by
  unfold destroyCoroutine at h
  split at h
  · cases h
    rfl
  · obtain ⟨m₁, hfree, h⟩ := bind_eq_ok.mp h
    have hrunning : m₁.running = m.running := by
      unfold free at hfree
      split at hfree
      · cases hfree
        rfl
      · cases hfree
    split at h
    · obtain ⟨heapTimer, -, h⟩ := bind_eq_ok.mp h
      cases h
      exact hrunning
    · cases h
      exact hrunning

theorem resumeReturns_running {ret : UInt64} (h : m.resumeReturns id p = .ok (ret, m')) :
    m'.running = m.running := by
  obtain ⟨co, -, h⟩ := bind_eq_ok.mp h
  dsimp only at h
  split at h
  · obtain ⟨m₁, hdestroy, h⟩ := bind_eq_ok.mp h
    cases h
    exact (destroyCoroutine_running hdestroy :)
  · cases h
    rfl

theorem goOn_running {ctx : Option Context} {ret : Option UInt64} (h : m.goOn ctx = .ok (ret, m')) :
    m'.running = m.running := by
  cases ctx with
  | none => cases h
  | some ctx =>
      cases ctx with
      | schedule p =>
          cases h
          rfl
      | resume caller id p =>
          simp only [goOn] at h
          split at h
          · obtain ⟨⟨r, m₁⟩, hreturns, h⟩ := bind_eq_ok.mp h
            cases h
            exact (resumeReturns_running hreturns :)
          · cases h
      | yield caller p =>
          simp only [goOn] at h
          split at h
          · obtain ⟨⟨r, m₁⟩, hreturns, h⟩ := bind_eq_ok.mp h
            obtain ⟨co, -, hreturns⟩ := bind_eq_ok.mp hreturns
            cases h
            cases hreturns
            rfl
          · cases h

theorem yield_running {ret : Option UInt64} (hrunning : 0 ≤ m.running)
    (h : m.yield y = .ok (ret, m')) : m'.running = -1 := by
  unfold yield at h
  rw [if_neg (Int.not_lt.mpr hrunning)] at h
  simp only at h
  split at h
  · cases h
  · obtain ⟨co, -, h⟩ := bind_eq_ok.mp h
    exact goOn_running h

theorem scheduleEnd_running {ret : Option UInt64} (h : m.scheduleEnd p y = .ok (ret, m')) :
    m'.running = -1 := by
  obtain ⟨co, -, h⟩ := bind_eq_ok.mp h
  exact goOn_running h

/-- A step that does what it should meets the condition: what goes on is the main context, and
it has resumed the coroutine that stopped. -/
theorem Inv.meets (h : Inv start m) {op : Op} (hright : m.Right op) : m.Meets op := by
  obtain ⟨m', hexec, ht⟩ := hright
  cases op with
  | resume id y => trivial
  | create now delay malloc =>
      intro hdelay
      rcases h.timer with ⟨hinv, -⟩ | ⟨hinit, -⟩
      · have hroom := hinv.room
        omega
      · have hne : (⟨delay, 0⟩ : TimeValue) ≠ ⟨0, 0⟩ := by
          rintro ⟨⟩
          exact Int.lt_irrefl 0 hdelay
        have hset : TimeValue.set delay 0 = .ok ⟨delay, 0⟩ := HeapTimer.start_eq delay
        have hfault : registerDelay now delay m.heapTimer = .error .outOfBounds := by
          unfold registerDelay
          rw [if_pos hdelay, hset, ok_bind, hinit, HeapTimer.registerTimer_init_zero now hne]
        simp only [Op.exec, createCoroutine, hfault, error_bind, reduceCtorEq] at hexec
  | yield y =>
      intro p hcurrent
      obtain ⟨⟨caller, hcaller, hback⟩, -⟩ := ht.yields y p rfl hcurrent
      obtain ⟨⟨ret, m₁⟩, hyield, hexec⟩ := bind_eq_ok.mp hexec
      cases hexec
      have hrunning := yield_running (h.nonneg (h.body p hcurrent).1) hyield
      rw [ht.consistent.main.mp hrunning] at hback
      rwa [hback]
  | finish y =>
      intro p hcurrent
      obtain ⟨⟨caller, hcaller, hback⟩, -⟩ := ht.finishes y p rfl hcurrent
      simp only [Op.exec, hcurrent] at hexec
      obtain ⟨⟨ret, m₁⟩, hfinish, hexec⟩ := bind_eq_ok.mp hexec
      cases hexec
      have hrunning := scheduleEnd_running hfinish
      rw [ht.consistent.main.mp hrunning] at hback
      rwa [hback]

theorem Run.inv {logicTimerInitSize : Nat} (h : Run Meets logicTimerInitSize start m) :
    Inv start m ∧ m.heapTimer.heapSize < HeapTimer.capLimit := by
  induction h with
  | init hcap => exact ⟨init_inv, hcap⟩
  | step op _ hpossible hmeets hexec hcap ih =>
      obtain ⟨m', hexec', hinv, -⟩ := ih.1.step ih.2 hpossible hmeets
      rw [hexec] at hexec'
      cases hexec'
      exact ⟨hinv, hcap⟩

end

/-- **Control transfer is consistent** in every state of a run whose steps meet the condition;
and a step that is possible in such a state does what it should exactly when it meets it. -/
theorem run_transfers {logicTimerInitSize : Nat} {start : Int} {m : CoroutineModule}
    (h : Run Meets logicTimerInitSize start m) :
    Consistent m ∧ ∀ op, m.Possible op → (m.Right op ↔ m.Meets op) := by
  obtain ⟨hinv, hcap⟩ := h.inv
  refine ⟨hinv.consistent, fun op hpossible => ⟨hinv.meets, fun hmeets => ?_⟩⟩
  obtain ⟨m', hexec, -, htransfers⟩ := hinv.step hcap hpossible hmeets
  exact ⟨m', hexec, htransfers⟩

/-- The state after a step that returns. -/
def after (m : CoroutineModule) (op : Op) : CoroutineModule :=
  match op.exec m with
  | .ok m' => m'
  | .error _ => m

theorem Run.after {meets : CoroutineModule → Op → Prop} {logicTimerInitSize : Nat} {start : Int}
    {m : CoroutineModule} (h : Run meets logicTimerInitSize start m) (op : Op)
    (hpossible : m.Possible op) (hmeets : meets m op) (hexec : (op.exec m).toBool = true)
    (hcap : (m.after op).heapTimer.heapSize < HeapTimer.capLimit) :
    Run meets logicTimerInitSize start (m.after op) := by
  refine h.step op hpossible hmeets ?_ hcap
  unfold CoroutineModule.after
  cases hm : op.exec m with
  | error f =>
      rw [hm] at hexec
      cases hexec
  | ok m' => rfl

/-- The main context has resumed a coroutine without a timer. -/
def inBody : CoroutineModule := ((init 2 7).after (.create 7 0 true)).after (.resume 0 0)

theorem inBody_run {meets : CoroutineModule → Op → Prop}
    (hmeets : ∀ m, meets m (.create 7 0 true) ∧ meets m (.resume 0 0)) : Run meets 2 7 inBody := by
  have hcreate : Run meets 2 7 ((init 2 7).after (.create 7 0 true)) :=
    (Run.init (by decide)).after _ trivial (hmeets _).1 (by decide +kernel) (by decide +kernel)
  exact hcreate.after _ trivial (hmeets _).2 (by decide +kernel) (by decide +kernel)

/-- In that coroutine all is well. -/
theorem run_transfers_first : inBody.current = .body 1 ∧ inBody.running = 0 ∧ Consistent inBody ∧
    ∀ op, inBody.Possible op → (inBody.Right op ↔ inBody.Meets op) :=
  ⟨by decide +kernel, by decide +kernel, run_transfers (inBody_run fun _ =>
    ⟨fun hdelay => absurd hdelay (Int.lt_irrefl 0), trivial⟩)⟩

/-- It makes another, resumes it, and that one yields. -/
def nested : CoroutineModule :=
  ((inBody.after (.create 7 5 true)).after (.resume (makeTimerId 1 337897) 0)).after (.yield 0)

/-- **A coroutine that is resumed by a coroutine.**  When it yields, the first goes on with
`running()` -1: its own `Yield` returns at once, and when it ends, it goes on at a context
where its stack does not stand. -/
theorem run_nested : Run (fun _ _ => True) 2 7 nested ∧ nested.current = .body 1 ∧
    nested.running = -1 ∧ ¬ Consistent nested ∧ nested.yield 0 = .ok (some 0, nested) ∧
    (Op.finish 0).exec nested = .error .badPointer := by
  have hcurrent : nested.current = .body 1 := by decide +kernel
  have hrunning : nested.running = -1 := by decide +kernel
  have hrun : Run (fun _ _ => True) 2 7 inBody := inBody_run fun _ => ⟨trivial, trivial⟩
  refine ⟨?_, hcurrent, hrunning, fun h => ?_, rfl, rfl⟩
  · have hcreate := hrun.after (.create 7 5 true) trivial trivial (by decide +kernel)
      (by decide +kernel)
    have hresume := hcreate.after (.resume (makeTimerId 1 337897) 0) trivial trivial
      (by decide +kernel) (by decide +kernel)
    exact hresume.after (.yield 0) trivial trivial (by decide +kernel) (by decide +kernel)
  · rw [h.main.mp hrunning] at hcurrent
    cases hcurrent

end CoroutineModule

end PlayFrame
