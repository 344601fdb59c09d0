/-
# `PlayFrame.Frame.TimeValue` — seconds and microseconds

`common/frame/time_value.{h,cpp}`: the constructors and operators the servers
use, all of which end in `Normalize`.

`Normalize` aborts on the sign of the *microseconds*: its `CHECK` computes
`usec * 1000000 + usec`.  The model keeps the expression as it stands.

The order `operator >` and `operator ==` define is the lexicographic one, which
makes `TimeValue` a linear order; `timervalGte` is its `≥`.

## What the wrong sign costs

The message of the `CHECK` is "TimeValue < 0", and the two borrow branches below
it are there for negative microseconds; they are never reached.  So a value is
normalised exactly when the sign of its microseconds is the sign of its total
(`arithmetic_iff`): a difference that has to borrow aborts the process, and a
negative number of seconds goes through.
-/
import PlayFrame.Frame.CommDef
import Mathlib.Data.Prod.Lex
import Mathlib.Order.Basic

namespace PlayFrame

/-- `class TimeValue`: a `struct timeval`. -/
@[ext] structure TimeValue where
  sec : Int
  usec : Int
  deriving DecidableEq, Repr

/-- `ONE_SECOND_IN_USECS`. -/
def oneSecondInUsecs : Int := 1000000

namespace TimeValue

/-- `TimeValue::Normalize`. -/
def normalize (tv : TimeValue) : Result TimeValue :=
  if ¬ tv.usec * oneSecondInUsecs + tv.usec ≥ 0 then .error .checkFailed
  else
    let tv :=
      if tv.usec ≥ oneSecondInUsecs then
        { sec := tv.sec + tv.usec.tdiv oneSecondInUsecs, usec := tv.usec.tmod oneSecondInUsecs }
      else if tv.usec ≤ -oneSecondInUsecs then
        { sec := tv.sec - (-tv.usec).tdiv oneSecondInUsecs
          usec := -((-tv.usec).tmod oneSecondInUsecs) }
      else tv
    .ok (if tv.usec < 0 then { sec := tv.sec - 1, usec := tv.usec + oneSecondInUsecs } else tv)

/-- `TimeValue::TimeValue(sec, usec)`, which is `Set(sec, usec)`. -/
def set (sec usec : Int) : Result TimeValue := normalize ⟨sec, usec⟩

/-- The microseconds a time value stands for. -/
def total (tv : TimeValue) : Int := tv.sec * oneSecondInUsecs + tv.usec

/-- The representation `Normalize` returns: less than a second of microseconds. -/
structure Canonical (tv : TimeValue) : Prop where
  nonneg : 0 ≤ tv.usec
  lt : tv.usec < oneSecondInUsecs

instance decCanonical (tv : TimeValue) : Decidable (Canonical tv) :=
  decidable_of_iff (0 ≤ tv.usec ∧ tv.usec < oneSecondInUsecs)
    ⟨fun h => ⟨h.1, h.2⟩, fun h => ⟨h.1, h.2⟩⟩

/-- `Normalize` aborts exactly when the microseconds are negative; otherwise it
returns the canonical time value with the same total. -/
theorem normalize_eq (tv : TimeValue) :
    normalize tv = if tv.usec < 0 then .error .checkFailed
      else .ok ⟨tv.sec + tv.usec / oneSecondInUsecs, tv.usec % oneSecondInUsecs⟩ := by
  obtain ⟨s, u⟩ := tv
  unfold normalize oneSecondInUsecs
  by_cases hu : u < 0
  · have hc : ¬ u * 1000000 + u ≥ 0 := by omega
    simp [hu, hc]
  · have hc : u * 1000000 + u ≥ 0 := by omega
    have hnn : 0 ≤ u := by omega
    have h1 : ¬ u ≤ -1000000 := by omega
    simp only [hc, not_true_eq_false, if_false, hu, h1]
    by_cases hge : u ≥ 1000000
    · have hm : ¬ u % 1000000 < 0 := by omega
      simp [hge, Int.tdiv_eq_ediv_of_nonneg hnn, Int.tmod_eq_emod_of_nonneg hnn, hm]
    · have hd : u / 1000000 = 0 := by omega
      have hm : u % 1000000 = u := by omega
      simp [hge, hu, hd, hm]

theorem set_eq (sec usec : Int) :
    set sec usec = if usec < 0 then .error .checkFailed
      else .ok ⟨sec + usec / oneSecondInUsecs, usec % oneSecondInUsecs⟩ :=
  normalize_eq ⟨sec, usec⟩

theorem set_ok {sec usec : Int} {tv : TimeValue} (h : set sec usec = .ok tv) :
    Canonical tv ∧ tv.total = sec * oneSecondInUsecs + usec := by
  rw [set_eq] at h
  split at h
  · cases h
  · cases h
    unfold total oneSecondInUsecs
    exact ⟨⟨by simp only; omega, by simp only [oneSecondInUsecs]; omega⟩, by simp only; omega⟩

theorem Canonical.set {tv : TimeValue} (h : Canonical tv) : set tv.sec tv.usec = .ok tv := by
  obtain ⟨h0, h1⟩ := h
  unfold oneSecondInUsecs at h1
  have hd : tv.usec / 1000000 = 0 := by omega
  have hm : tv.usec % 1000000 = tv.usec := by omega
  rw [set_eq, if_neg (by omega : ¬ tv.usec < 0)]
  unfold oneSecondInUsecs
  rw [hd, hm, add_zero]

/-! ## Sums and differences -/

/-- `operator +=` and `operator +`. -/
def add (left right : TimeValue) : Result TimeValue :=
  normalize ⟨left.sec + right.sec, left.usec + right.usec⟩

/-- `operator -=` and `operator -`. -/
def sub (left right : TimeValue) : Result TimeValue :=
  normalize ⟨left.sec - right.sec, left.usec - right.usec⟩

theorem Canonical.normalize {tv : TimeValue} (h : Canonical tv) : tv.normalize = .ok tv := h.set

theorem Canonical.unique {a b : TimeValue} (ha : Canonical a) (hb : Canonical b)
    (h : a.total = b.total) : a = b := by
  obtain ⟨ha0, ha1⟩ := ha
  obtain ⟨hb0, hb1⟩ := hb
  simp only [total, oneSecondInUsecs] at h ha1 hb1
  have hsec : a.sec = b.sec := by omega
  exact TimeValue.ext hsec (by omega)

/-- `TimeValue(sec, usec)` is exact: the canonical value of that total, and a
failed `CHECK` when there is none. -/
structure Exact (sec usec : Int) : Prop where
  value : 0 ≤ sec * oneSecondInUsecs + usec →
    ∃ tv, set sec usec = .ok tv ∧ Canonical tv ∧ tv.total = sec * oneSecondInUsecs + usec ∧
      ∀ tv', Canonical tv' → tv'.total = sec * oneSecondInUsecs + usec → tv' = tv
  rejected : sec * oneSecondInUsecs + usec < 0 → set sec usec = .error .checkFailed

theorem exact_iff (sec usec : Int) :
    Exact sec usec ↔ (0 ≤ sec * oneSecondInUsecs + usec ↔ 0 ≤ usec) := by
  constructor
  · intro h
    constructor
    · intro htot
      obtain ⟨tv, hset, -⟩ := h.value htot
      by_contra hu
      simp [set_eq, not_le.mp hu] at hset
    · intro hu
      by_contra htot
      have := h.rejected (not_le.mp htot)
      simp [set_eq, not_lt.mpr hu] at this
  · intro h
    constructor
    · intro htot
      have hu : ¬ usec < 0 := not_lt.mpr (h.mp htot)
      obtain ⟨hcan, hsum⟩ := set_ok (by rw [set_eq, if_neg hu] : set sec usec = .ok _)
      refine ⟨_, by rw [set_eq, if_neg hu], hcan, hsum, ?_⟩
      intro tv' hcan' hsum'
      exact hcan'.unique hcan (hsum'.trans hsum.symm)
    · intro htot
      have hu : usec < 0 := by
        by_contra hu
        exact absurd (h.mpr (not_lt.mp hu)) (not_le.mpr htot)
      simp [set_eq, hu]

/-- A difference is exact: it does not abort, and the subtrahend gives the
minuend back. -/
def SubExact (a b : TimeValue) : Prop :=
  ∃ d, sub a b = .ok d ∧ Canonical d ∧ add d b = .ok a

theorem subExact_iff {a b : TimeValue} (ha : Canonical a) (hb : Canonical b) :
    SubExact a b ↔ b.usec ≤ a.usec := by
  constructor
  · rintro ⟨d, hsub, -⟩
    by_contra hlt
    have hneg : a.usec - b.usec < 0 := by omega
    simp [sub, normalize_eq, hneg] at hsub
  · intro hle
    have hcan : Canonical ⟨a.sec - b.sec, a.usec - b.usec⟩ :=
      ⟨Int.sub_nonneg.mpr hle, by have := ha.lt; have := hb.nonneg; simp only; omega⟩
    refine ⟨_, hcan.normalize, hcan, ?_⟩
    simp only [add, Int.sub_add_cancel]
    exact ha.normalize

/-! ## The order -/

/-- `operator >`. -/
def gt (left right : TimeValue) : Bool :=
  if left.sec = right.sec then decide (left.usec > right.usec) else decide (left.sec > right.sec)

/-- `operator ==`. -/
def eq (left right : TimeValue) : Bool :=
  decide (left.sec = right.sec) && decide (left.usec = right.usec)

/-- Seconds first, microseconds second. -/
def key (tv : TimeValue) : Int ×ₗ Int := toLex (tv.sec, tv.usec)

theorem key_injective : Function.Injective key := by
  intro a b h
  have h' : (a.sec, a.usec) = (b.sec, b.usec) := h
  ext
  · exact congrArg Prod.fst h'
  · exact congrArg Prod.snd h'

instance : LinearOrder TimeValue := LinearOrder.lift' key key_injective

theorem le_iff {a b : TimeValue} : a ≤ b ↔ a.sec < b.sec ∨ a.sec = b.sec ∧ a.usec ≤ b.usec :=
  Prod.Lex.toLex_le_toLex

theorem lt_iff {a b : TimeValue} : a < b ↔ a.sec < b.sec ∨ a.sec = b.sec ∧ a.usec < b.usec :=
  Prod.Lex.toLex_lt_toLex

theorem gt_eq (a b : TimeValue) : a.gt b = decide (b < a) := by
  rw [Bool.eq_iff_iff, decide_eq_true_iff, lt_iff]
  unfold gt
  split <;> simp only [decide_eq_true_eq] <;> omega

theorem eq_eq (a b : TimeValue) : a.eq b = decide (a = b) := by
  rw [Bool.eq_iff_iff, decide_eq_true_iff, TimeValue.ext_iff]
  simp [eq]

theorem Canonical.lt_iff {a b : TimeValue} (ha : Canonical a) (hb : Canonical b) :
    a < b ↔ a.total < b.total := by
  obtain ⟨ha0, ha1⟩ := ha
  obtain ⟨hb0, hb1⟩ := hb
  simp only [oneSecondInUsecs] at ha1 hb1
  simp only [TimeValue.lt_iff, total, oneSecondInUsecs]
  omega

/-- The arithmetic is exact where no sign is lost, and the operators order the
canonical values by their totals. -/
theorem arithmetic_iff (sec usec : Int) {a b : TimeValue} (ha : Canonical a) (hb : Canonical b) :
    (Exact sec usec ↔ (0 ≤ sec * oneSecondInUsecs + usec ↔ 0 ≤ usec)) ∧
    (b.total ≤ a.total → (SubExact a b ↔ b.usec ≤ a.usec)) ∧
    (a.gt b = true ↔ b.total < a.total) ∧ (a.eq b = true ↔ a.total = b.total) := by
  refine ⟨exact_iff sec usec, fun _ => subExact_iff ha hb, ?_, ?_⟩
  · rw [gt_eq, decide_eq_true_iff, hb.lt_iff ha]
  · rw [eq_eq, decide_eq_true_iff]
    exact ⟨congrArg total, ha.unique hb⟩

/-- 2 s minus 1 s and 1 µs: the order is right, and the difference is not exact. -/
theorem arithmetic_two_seconds : Exact 2 0 ∧
    (SubExact ⟨2, 0⟩ ⟨1, 1⟩ ↔ (1 : Int) ≤ 0) ∧ TimeValue.gt ⟨2, 0⟩ ⟨1, 1⟩ = true := by
  have ha : Canonical ⟨2, 0⟩ := by decide
  have hb : Canonical ⟨1, 1⟩ := by decide
  obtain ⟨hset, hsub, hgt, -⟩ := arithmetic_iff 2 0 ha hb
  exact ⟨hset.mpr (by decide), hsub (by decide), hgt.mpr (by decide)⟩

/-- 5 s and −1 µs is 4999999 µs, −1 s is negative, and 2 s is more than 1 s and
1 µs: the constructor aborts at the first, accepts the second, and the difference
of the last two aborts. -/
theorem arithmetic_signs :
    set 5 (-1) = .error .checkFailed ∧ ¬ Exact 5 (-1) ∧
    set (-1) 0 = .ok ⟨-1, 0⟩ ∧ ¬ Exact (-1) 0 ∧
    sub ⟨2, 0⟩ ⟨1, 1⟩ = .error .checkFailed ∧ ¬ SubExact ⟨2, 0⟩ ⟨1, 1⟩ := by
  refine ⟨by decide, ?_, by decide, ?_, by decide, ?_⟩
  · rw [exact_iff]; decide
  · rw [exact_iff]; decide
  · rw [subExact_iff (by decide) (by decide)]; decide

end TimeValue

/-- `HeapTimer::TimervalGte`. -/
def timervalGte (left right : TimeValue) : Bool := left.gt right || left.eq right

theorem timervalGte_eq (a b : TimeValue) : timervalGte a b = decide (b ≤ a) := by
  unfold timervalGte
  rw [TimeValue.gt_eq, TimeValue.eq_eq, Bool.eq_iff_iff]
  simp only [Bool.or_eq_true, decide_eq_true_eq]
  rw [le_iff_lt_or_eq]
  exact or_congr_right eq_comm

end PlayFrame
