/-
# `PlayFrame.Frame.Random` — the generator behind the timer ids

`common/frame/random.{h,cpp}`: Lehmer's generator `x ↦ 48271·x mod (2³¹ - 1)`,
computed by Schrage's method so that no product leaves 32 bits.

Two ranges matter.  From any seed an `int32_t` can hold, a draw is in
`[0, 2³¹ - 1)`.  From a seed in `[1, 2³¹ - 2]`, which is where every draw but the
first one starts, the draws are the terms of the generator and the first
`2³¹ - 2` of them are pairwise different, because 48271 generates the
multiplicative group modulo the prime `2³¹ - 1`.
-/
import PlayFrame.Frame.CommDef
import PlayFrame.Lib.Lehmer
import Mathlib.Tactic.ReduceModChar
import Mathlib.Tactic.NormNum.Prime

namespace PlayFrame

open Lib

/-- `class Random`. -/
structure Random where
  seed : Int
  deriving DecidableEq, Repr

namespace Random

/-- `Random::A`. -/
def A : Int := 48271
/-- `Random::M`. -/
def M : Int := 2147483647
/-- `Random::Q`. -/
def Q : Int := M.tdiv A
/-- `Random::R`. -/
def R : Int := M.tmod A

/-- `Random::Random(seed)`, where `now` is `time(NULL)`. -/
def init (seed now : Int) : Random := ⟨if seed = 0 then toInt32 now else seed⟩

/-- `Random::GetRand`: the number drawn and the next state. -/
def getRand (r : Random) : Int × Random :=
  let tempSeed := A * r.seed.tmod Q - R * r.seed.tdiv Q
  let seed := if tempSeed ≥ 0 then tempSeed else tempSeed + M
  (seed, ⟨seed⟩)

theorem Q_eq : Q = 44488 := by decide
theorem R_eq : R = 3399 := by decide

@[simp] theorem getRand_snd (r : Random) : r.getRand.2 = ⟨r.getRand.1⟩ := rfl

theorem seed_parts (r : Random) :
    44488 * r.seed.tdiv 44488 + r.seed.tmod 44488 = r.seed ∧
      (-44488 < r.seed.tmod 44488 ∧ r.seed.tmod 44488 < 44488) ∧
      (0 ≤ r.seed → 0 ≤ r.seed.tmod 44488) ∧ (r.seed ≤ 0 → r.seed.tmod 44488 ≤ 0) := by
  refine ⟨Int.mul_tdiv_add_tmod _ _, ⟨Int.lt_tmod_of_pos _ (by decide),
    Int.tmod_lt_of_pos _ (by decide)⟩, fun h => Int.tmod_nonneg _ h, fun h => ?_⟩
  have hneg := Int.tmod_nonneg (b := 44488) (a := -r.seed) (by omega)
  rw [Int.neg_tmod] at hneg
  omega

theorem getRand_range {r : Random} (h1 : -2147483648 ≤ r.seed) (h2 : r.seed < 2147483648) :
    0 ≤ r.getRand.1 ∧ r.getRand.1 < M := by
  obtain ⟨hd, hm, hs⟩ := r.seed_parts
  simp only [getRand, Q_eq, R_eq, A, M]
  generalize r.seed.tmod 44488 = u at *
  generalize r.seed.tdiv 44488 = v at *
  split <;> omega

/-! ## The terms of the generator -/

/-- The seeds from which the generator has its full period. -/
def Seeded (r : Random) : Prop := 1 ≤ r.seed ∧ r.seed ≤ 2147483646

theorem getRand_eq {r : Random} (h : r.Seeded) : r.getRand.1 = A * r.seed % M := by
  have h0 : 0 ≤ r.seed := le_trans (by decide) h.1
  simp only [getRand, Int.tdiv_eq_ediv_of_nonneg h0, Int.tmod_eq_emod_of_nonneg h0, Q_eq, R_eq]
  exact schrage_emod (by decide) (by decide) (by decide) (by decide) (by decide) h0
    (lt_of_le_of_lt h.2 (by decide))

theorem pow_period : (48271 : ZMod 2147483647) ^ (2147483647 - 1) = 1 := by
  norm_num only; reduce_mod_char

theorem pow_cofactor : ∀ q, q.Prime → q ∣ 2147483647 - 1 →
    (48271 : ZMod 2147483647) ^ ((2147483647 - 1) / q) ≠ 1 := by
  intro q hq hd
  have hfac : 2147483647 - 1 = 2 * (3 * (3 * (7 * (11 * (31 * (151 * 331)))))) := by norm_num
  rw [hfac] at hd
  have hmem : q = 2 ∨ q = 3 ∨ q = 7 ∨ q = 11 ∨ q = 31 ∨ q = 151 ∨ q = 331 := by
    simp only [Nat.Prime.dvd_mul hq] at hd
    simp only [Nat.prime_dvd_prime_iff_eq hq (by norm_num : Nat.Prime 2),
      Nat.prime_dvd_prime_iff_eq hq (by norm_num : Nat.Prime 3),
      Nat.prime_dvd_prime_iff_eq hq (by norm_num : Nat.Prime 7),
      Nat.prime_dvd_prime_iff_eq hq (by norm_num : Nat.Prime 11),
      Nat.prime_dvd_prime_iff_eq hq (by norm_num : Nat.Prime 31),
      Nat.prime_dvd_prime_iff_eq hq (by norm_num : Nat.Prime 151),
      Nat.prime_dvd_prime_iff_eq hq (by norm_num : Nat.Prime 331)] at hd
    tauto
  rcases hmem with rfl | rfl | rfl | rfl | rfl | rfl | rfl <;>
    (norm_num only; reduce_mod_char; decide)

/-- `2³¹ - 1` is prime: 48271 has order `2³¹ - 2` modulo it. -/
instance primeM : Fact (Nat.Prime 2147483647) :=
  ⟨lucas_primality _ 48271 pow_period pow_cofactor⟩

theorem orderOf_A : orderOf ((48271 : Nat) : ZMod 2147483647) = 2147483647 - 1 :=
  orderOf_eq_of_pow_and_pow_div_prime (Nat.sub_pos_of_lt (by norm_num)) pow_period pow_cofactor

/-- The `n`-th number a generator with seed `s` draws, from `n = 1`; `s` itself for `n = 0`. -/
def term (s : Int) (n : Nat) : Int := lehmer 2147483647 48271 s.toNat n

variable {s : Int}

theorem not_dvd_seed (h : Seeded ⟨s⟩) : ¬ 2147483647 ∣ s.toNat := by
  obtain ⟨h1, h2⟩ := h
  intro hd
  have := Nat.le_of_dvd (by simp only at *; omega) hd
  simp only at *
  omega

theorem term_zero (h : Seeded ⟨s⟩) : term s 0 = s := by
  obtain ⟨h1, h2⟩ := h
  simp only at h1 h2
  unfold term lehmer
  rw [pow_zero, one_mul, Nat.mod_eq_of_lt (by omega)]
  omega

theorem term_seeded (h : Seeded ⟨s⟩) (n : Nat) : Seeded ⟨term s n⟩ := by
  have hpos := lehmer_pos (not_dvd_of_orderOf (by norm_num) orderOf_A) (not_dvd_seed h) n
  have hlt := lehmer_lt (p := 2147483647) (a := 48271) (s := s.toNat) (by norm_num) n
  unfold Seeded term
  simp only
  omega

theorem getRand_term (h : Seeded ⟨s⟩) (n : Nat) :
    (Random.mk (term s n)).getRand.1 = term s (n + 1) := by
  rw [getRand_eq (term_seeded h n)]
  unfold term
  rw [lehmer_succ]
  rfl

theorem term_injOn (h : Seeded ⟨s⟩) {i j : Nat} (hi : i < 2147483646) (hj : j < 2147483646)
    (hij : term s i = term s j) : i = j :=
  lehmer_injOn orderOf_A (not_dvd_seed h) hi hj (Int.natCast_inj.mp hij)

theorem term_succ_injOn (h : Seeded ⟨s⟩) {i j : Nat} (hi : i < 2147483646)
    (hj : j < 2147483646) (hij : term s (i + 1) = term s (j + 1)) : i = j := by
  have hseed := not_dvd_seed (term_seeded h 1)
  refine lehmer_injOn orderOf_A hseed hi hj ?_
  have hshift : ∀ n, lehmer 2147483647 48271 (term s 1).toNat n =
      lehmer 2147483647 48271 s.toNat (n + 1) := fun n => (lehmer_succ' n).symm
  rw [hshift, hshift]
  exact Int.natCast_inj.mp hij

end Random

end PlayFrame
