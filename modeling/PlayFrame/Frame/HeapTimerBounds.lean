/-
# `PlayFrame.Frame.HeapTimerBounds` — where the timer heap indexes

Which calls stay inside the three arrays, in the states that runs from any
`heap_size`, 0 included, and with any number given to `UnregisterTimer`, reach.

Two calls do not.  The constructor chains the free slots from 1 on, and for
`heap_size` 0 the arrays have one cell: the first `RegisterTimer` takes slot 1 from
an array that ends before it.  And the range check of `UnregisterTimer` compares
with `>`, so it lets the slot `heap_size_` through.  Every other call is in bounds,
and an `UnregisterTimer` that is in bounds and whose argument is not the id of a
live timer does nothing (`calls_inBounds`).
-/
import PlayFrame.Frame.TimerPoll

namespace PlayFrame

/-- No array is read or written outside of it. -/
def InBounds {α : Type} (r : Result α) : Prop := r ≠ .error .outOfBounds

theorem Result.Clean.inBounds {α : Type} {r : Result α} (h : r.Clean) : InBounds r := by
  intro he
  cases h _ he

@[simp] theorem inBounds_ok {α : Type} (a : α) : InBounds (.ok a : Result α) := by simp [InBounds]

@[simp] theorem inBounds_outOfBounds {α : Type} :
    ¬ InBounds (.error .outOfBounds : Result α) := by simp [InBounds]

namespace HeapTimer

open Lib

variable {κ δ σ : Type} {heapSize : Nat} {start : Int} {ids : List Int} {s s' : HeapTimer κ δ}
  {timerId : Int}

/-! ## A heap of one cell -/

theorem registerTimer_init_zero (now : Int) {interval : TimeValue} (hne : interval ≠ ⟨0, 0⟩)
    (delay : TimeValue) (cbObj : Option κ) (data : δ) :
    (init 0 start : HeapTimer κ δ).registerTimer now interval delay cbObj data =
      .error .outOfBounds := by
  have hzero : ¬ (interval.sec = 0 ∧ interval.usec = 0) :=
    fun h => hne (TimeValue.ext h.1 h.2)
  have hroom : ¬ (init 0 start : HeapTimer κ δ).curSize ≥ (init 0 start : HeapTimer κ δ).heapSize :=
    Nat.not_succ_le_zero 0
  have hpop : (init 0 start : HeapTimer κ δ).popFreeTimerId = .error .outOfBounds := rfl
  simp [registerTimer, hzero, hroom, hpop]

theorem unregisterTimer_init_zero (hslot : slotOf timerId ≠ 1) :
    (init 0 start : HeapTimer κ δ).unregisterTimer timerId = .ok (init 0 start) := by
  have hsize : ((init 0 start : HeapTimer κ δ).heapSize : Int) = 1 := rfl
  simp only [unregisterTimer, hsize]
  by_cases hrange : slotOf timerId < 0 ∨ slotOf timerId > 1
  · rw [if_pos hrange]
  · have h0 : slotOf timerId = 0 := by omega
    rw [if_neg hrange, h0]
    rfl

theorem Calls.eq_init_zero (hr : Calls 0 start ids s) : s = HeapTimer.init 0 start := by
  induction hr with
  | init => rfl
  | register now interval delay cbObj data _ h _ ih =>
      subst ih
      by_cases hzero : interval = ⟨0, 0⟩
      · rw [hzero, registerTimer_zero] at h
        cases h
        rfl
      · rw [registerTimer_init_zero now hzero] at h
        cases h
  | unregister timerId _ h ih =>
      subst ih
      by_cases hslot : slotOf timerId = 1
      · rw [unregisterTimer_end hslot] at h
        cases h
      · rw [unregisterTimer_init_zero hslot] at h
        cases h
        rfl
  | poll fuel now f _ h ih =>
      subst ih
      cases h
      rfl

/-! ## All calls -/

/-- An `UnregisterTimer` in bounds, of no live timer's id, leaves everything as it is. -/
def UnregisterExact (s : HeapTimer κ δ) (timerId : Int) : Prop :=
  InBounds (s.unregisterTimer timerId) ∧
    (timerId ∉ timers s → s.unregisterTimer timerId = .ok s)

theorem unregisterExact_of_slot_ne (hs : Inv s) (hid : IsInt64 timerId)
    (hslot : slotOf timerId ≠ s.heapSize) : UnregisterExact s timerId := by
  by_cases hno : ∃ p n, s.nodes p = some n ∧ Names timerId n
  · obtain ⟨p, n, hn, hnames⟩ := hno
    obtain ⟨s', h, -⟩ := unregisterTimer_hit hs hn hnames
    refine ⟨by rw [h]; exact inBounds_ok _, fun hgone => ?_⟩
    exact absurd ((mem_timers hs).mpr ⟨p, n, hn, eq_of_names hs hid hn hnames⟩) hgone
  · have h := unregisterTimer_miss hs hslot (fun p n hn hnames => hno ⟨p, n, hn, hnames⟩)
    exact ⟨by rw [h]; exact inBounds_ok _, fun _ => h⟩

theorem Calls.unregisterExact_iff (hr : Calls heapSize start ids s) (hid : IsInt64 timerId) :
    UnregisterExact s timerId ↔ slotOf timerId ≠ s.heapSize := by
  constructor
  · intro h hslot
    rw [UnregisterExact, unregisterTimer_end hslot] at h
    exact inBounds_outOfBounds h.1
  · intro hslot
    rcases Nat.eq_zero_or_pos heapSize with rfl | hpos
    · obtain rfl := hr.eq_init_zero
      have h : (HeapTimer.init 0 start : HeapTimer κ δ).unregisterTimer timerId = .ok _ :=
        unregisterTimer_init_zero (by simpa [HeapTimer.init] using hslot)
      exact ⟨by rw [h]; exact inBounds_ok _, fun _ => h⟩
    · exact unregisterExact_of_slot_ne (hr.inv hpos).1 hid hslot

theorem Calls.register_inBounds_iff (hr : Calls heapSize start ids s) (now : Int)
    (interval delay : TimeValue) (cbObj : Option κ) (data : δ) :
    InBounds (s.registerTimer now interval delay cbObj data) ↔
      interval = ⟨0, 0⟩ ∨ heapSize ≠ 0 := by
  rcases Nat.eq_zero_or_pos heapSize with rfl | hpos
  · obtain rfl := hr.eq_init_zero
    by_cases hzero : interval = ⟨0, 0⟩
    · simp [hzero, registerTimer_zero]
    · simp [hzero, registerTimer_init_zero now hzero]
  · obtain ⟨hs, hcap, -⟩ := hr.inv hpos
    have hclean := registerTimer_clean hs hcap now interval delay cbObj data
    exact ⟨fun _ => Or.inr (by omega), fun _ => hclean.inBounds⟩

theorem Calls.poll_inBounds (hr : Calls heapSize start ids s) (fuel : Nat) (now : TimeValue)
    (f : κ → Int → δ → σ → Int × σ) (w : σ) :
    InBounds (s.timerPoll fuel now (quiet f) w) := by
  rcases Nat.eq_zero_or_pos heapSize with rfl | hpos
  · obtain rfl := hr.eq_init_zero
    exact inBounds_ok _
  · exact (timerPoll_quiet f (hr.inv hpos).1 fuel).1.inBounds

/-- **Which calls stay inside the arrays**, in every state that a run reaches. -/
theorem calls_inBounds (hr : Calls heapSize start ids s) :
    (∀ now interval delay cbObj data,
      InBounds (s.registerTimer now interval delay cbObj data) ↔
        interval = ⟨0, 0⟩ ∨ heapSize ≠ 0) ∧
    (∀ timerId, IsInt64 timerId → (UnregisterExact s timerId ↔ slotOf timerId ≠ s.heapSize)) ∧
    ∀ (σ : Type) (fuel : Nat) (now : TimeValue) (f : κ → Int → δ → σ → Int × σ) (w : σ),
      InBounds (s.timerPoll fuel now (quiet f) w) :=
  ⟨fun now interval delay cbObj data => hr.register_inBounds_iff now interval delay cbObj data,
    fun _ hid => hr.unregisterExact_iff hid,
    fun _ fuel now f w => hr.poll_inBounds fuel now f w⟩

/-- A heap made for one timer, with that timer: another fits in, and the id of the slot
behind the last one does not. -/
theorem calls_inBounds_one :
    InBounds (oneTimer.registerTimer 8 ⟨1, 0⟩ ⟨1, 0⟩ (some ()) ()) ∧
      ¬ UnregisterExact oneTimer 17179869184 := by
  have hr : Calls 1 7 [_] oneTimer :=
    .register 7 ⟨1, 0⟩ ⟨1, 0⟩ (some ()) () (.init (by decide)) rfl (by decide)
  obtain ⟨hreg, hunreg, -⟩ := calls_inBounds hr
  refine ⟨(hreg _ _ _ _ _).mpr (Or.inr (by decide)), fun h => ?_⟩
  exact (hunreg 17179869184 ⟨by decide, by decide⟩).mp h (by decide)

/-- The default `heap_size`, 0: the first timer is out of bounds, and so is the id of
slot 1. -/
theorem calls_outOfBounds : Calls 0 7 [] (init 0 7 : HeapTimer Unit Unit) ∧
    (init 0 7 : HeapTimer Unit Unit).registerTimer 7 ⟨1, 0⟩ ⟨1, 0⟩ (some ()) () =
      .error .outOfBounds ∧
    (init 0 7 : HeapTimer Unit Unit).unregisterTimer 4294967296 = .error .outOfBounds :=
  ⟨.init (by decide), rfl, rfl⟩

end HeapTimer

end PlayFrame
