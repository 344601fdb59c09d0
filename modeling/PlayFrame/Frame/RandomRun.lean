/-
# `PlayFrame.Frame.RandomRun` — the generator on `int32_t`, call after call

`GetRand` computes with `int32_t`, whose overflow is undefined.  `getRandChecked` is the same
function with every operation checked, so that it has no result where the source's has none;
`NoOverflow` lists the intermediate results it checks.  No `int32_t` in the state makes any of
them overflow (`noOverflow`), and what a call leaves is an `int32_t` again, so a run of any
length is defined and is the one that `getRand` describes (`callsChecked_eq`).

From a seed in `[1, 2³¹ - 2]` the numbers of that run are the terms of Lehmer's sequence.
-/
import PlayFrame.Frame.Random
import PlayFrame.Lib.Checked

namespace PlayFrame

open Lib

namespace Random

/-! ## One call -/

/-- `Random::GetRand` on `int32_t`, with `none` where one of its operations overflows. -/
def getRandChecked (r : Random) : Option (Int × Random) := do
  let rem ← Checked.rem 32 r.seed Q
  let left ← Checked.mul 32 A rem
  let quot ← Checked.div 32 r.seed Q
  let right ← Checked.mul 32 R quot
  let tempSeed ← Checked.sub 32 left right
  if tempSeed ≥ 0 then
    return (tempSeed, ⟨tempSeed⟩)
  else
    let seed ← Checked.add 32 tempSeed M
    return (seed, ⟨seed⟩)

/-- Every intermediate result of a call is an `int32_t`. -/
structure NoOverflow (r : Random) : Prop where
  rem : FitsWord 32 (r.seed.tmod Q)
  left : FitsWord 32 (A * r.seed.tmod Q)
  quot : FitsWord 32 (r.seed.tdiv Q)
  right : FitsWord 32 (R * r.seed.tdiv Q)
  diff : FitsWord 32 (A * r.seed.tmod Q - R * r.seed.tdiv Q)
  sum : A * r.seed.tmod Q - R * r.seed.tdiv Q < 0 →
    FitsWord 32 (A * r.seed.tmod Q - R * r.seed.tdiv Q + M)

variable {r : Random}

theorem getRandChecked_eq_some_iff {x : Int × Random} :
    r.getRandChecked = some x ↔ r.NoOverflow ∧ r.getRand = x := by
  have hQ : Q ≠ 0 := by decide
  simp only [getRandChecked, Option.bind_eq_bind, Option.bind_eq_some_iff,
    Checked.rem_eq_some_iff hQ, Checked.div_eq_some_iff hQ, Checked.mul_eq_some_iff,
    Checked.sub_eq_some_iff, Option.pure_def]
  constructor
  · rintro ⟨_, ⟨hquot, hrem, rfl⟩, _, ⟨hleft, rfl⟩, _, ⟨-, rfl⟩, _, ⟨hright, rfl⟩, _,
      ⟨hdiff, rfl⟩, hx⟩
    split at hx
    · next hnonneg =>
      cases hx
      exact ⟨⟨hrem, hleft, hquot, hright, hdiff, fun hneg => absurd hnonneg (not_le_of_gt hneg)⟩,
        by simp only [getRand, if_pos hnonneg]⟩
    · next hneg =>
      obtain ⟨_, hadd, hx⟩ := Option.bind_eq_some_iff.mp hx
      obtain ⟨hsum, rfl⟩ := Checked.add_eq_some_iff.mp hadd
      cases hx
      exact ⟨⟨hrem, hleft, hquot, hright, hdiff, fun _ => hsum⟩,
        by simp only [getRand, if_neg hneg]⟩
  · rintro ⟨h, rfl⟩
    refine ⟨_, ⟨h.quot, h.rem, rfl⟩, _, ⟨h.left, rfl⟩, _, ⟨h.quot, rfl⟩, _, ⟨h.right, rfl⟩, _,
      ⟨h.diff, rfl⟩, ?_⟩
    split
    · next hnonneg => simp only [getRand, if_pos hnonneg]
    · next hneg =>
      have hadd := Checked.add_eq_some_iff.mpr ⟨h.sum (lt_of_not_ge hneg), rfl⟩
      simp only [getRand, if_neg hneg, hadd, Option.bind_some]

theorem noOverflow (h : FitsWord 32 r.seed) : r.NoOverflow := by
  obtain ⟨h1, h2⟩ := fitsWord_32.mp h
  obtain ⟨hd, hm, hs⟩ := r.seed_parts
  constructor <;> simp only [fitsWord_32, Q_eq, R_eq, A, M] <;> omega

theorem getRand_fits (h : FitsWord 32 r.seed) : FitsWord 32 r.getRand.1 := by
  obtain ⟨h1, h2⟩ := fitsWord_32.mp h
  obtain ⟨h3, h4⟩ := getRand_range h1 h2
  unfold M at h4
  exact fitsWord_32.mpr ⟨by omega, by omega⟩

/-! ## Call after call -/

/-- The state after `n` calls of `GetRand`. -/
def calls (r : Random) : Nat → Random
  | 0 => r
  | n + 1 => (r.calls n).getRand.2

/-- The number that the `n`-th call returns; the seed itself for `n = 0`. -/
def nth (r : Random) : Nat → Int
  | 0 => r.seed
  | n + 1 => (r.calls n).getRand.1

/-- The state after `n` calls on `int32_t`, with `none` where one of them overflows. -/
def callsChecked (r : Random) : Nat → Option Random
  | 0 => some r
  | n + 1 => do
    let s ← r.callsChecked n
    let (_, s') ← s.getRandChecked
    return s'

theorem nth_eq_seed (n : Nat) : r.nth n = (r.calls n).seed := by
  cases n <;> rfl

theorem calls_fits (h : FitsWord 32 r.seed) (n : Nat) : FitsWord 32 (r.calls n).seed := by
  induction n with
  | zero => exact h
  | succ n ih => exact getRand_fits ih

/-- **No overflow.**  A run on `int32_t` is defined, however long, and is the exact one. -/
theorem callsChecked_eq (h : FitsWord 32 r.seed) (n : Nat) :
    r.callsChecked n = some (r.calls n) := by
  induction n with
  | zero => rfl
  | succ n ih =>
    have hstep : (r.calls n).getRandChecked = some (r.calls n).getRand :=
      getRandChecked_eq_some_iff.mpr ⟨noOverflow (calls_fits h n), rfl⟩
    simp only [callsChecked, calls, ih, hstep, Option.bind_eq_bind, Option.bind_some,
      Option.pure_def]

variable {s : Int}

theorem calls_eq_term (h : Seeded ⟨s⟩) (n : Nat) : (Random.mk s).calls n = ⟨term s n⟩ := by
  induction n with
  | zero => rw [term_zero h, calls]
  | succ n ih => rw [calls, ih, getRand_snd, getRand_term h]

theorem init_of_seeded (h : Seeded ⟨s⟩) (now : Int) : init s now = ⟨s⟩ := by
  have h1 : 1 ≤ s := h.1
  rw [init, if_neg (by omega)]

theorem Seeded.fits (h : r.Seeded) : FitsWord 32 r.seed := by
  obtain ⟨h1, h2⟩ := h
  exact fitsWord_32.mpr ⟨by omega, by omega⟩

theorem term_eq (h : Seeded ⟨s⟩) (n : Nat) : term s n = 48271 ^ n * s % 2147483647 := by
  have hs : (s.toNat : Int) = s := Int.toNat_of_nonneg (le_trans (by decide) h.1)
  simp only [term, lehmer, Int.natCast_emod, Int.natCast_mul, Int.natCast_pow, hs]
  rfl

/-- **The generator is Lehmer's.**  The numbers drawn from a seed in `[1, 2³¹ - 2]` are the
powers of 48271 times the seed modulo `2³¹ - 1`; they stay in that range, and no product,
difference or sum on the way to any of them leaves an `int32_t`. -/
theorem getRand_exact (h1 : 1 ≤ s) (h2 : s ≤ 2147483646) (now : Int) (n : Nat) :
    (init s now).nth n = 48271 ^ n * s % 2147483647 ∧
      (1 ≤ (init s now).nth n ∧ (init s now).nth n ≤ 2147483646) ∧
      (∀ k, ((init s now).calls k).NoOverflow) ∧
      (init s now).callsChecked n = some ((init s now).calls n) := by
  have hseed : Seeded ⟨s⟩ := ⟨h1, h2⟩
  have hterm : (Random.mk s).nth n = term s n := by rw [nth_eq_seed, calls_eq_term hseed]
  rw [init_of_seeded hseed, hterm]
  exact ⟨term_eq hseed n, term_seeded hseed n, fun k => noOverflow (calls_fits hseed.fits k),
    callsChecked_eq hseed.fits n⟩

/-- Ten draws from the seed 20140430. -/
theorem getRand_exact_ten :
    (init 20140430 0).nth 10 = 48271 ^ 10 * 20140430 % 2147483647 ∧
      (1 ≤ (init 20140430 0).nth 10 ∧ (init 20140430 0).nth 10 ≤ 2147483646) ∧
      ((init 20140430 0).calls 10).NoOverflow ∧
      (init 20140430 0).callsChecked 10 = some ((init 20140430 0).calls 10) := by
  obtain ⟨hvalue, hrange, hsteps, hrun⟩ :=
    getRand_exact (s := 20140430) (by decide) (by decide) 0 10
  exact ⟨hvalue, hrange, hsteps 10, hrun⟩

end Random

end PlayFrame
