/-
# `PlayFrame.Lib.Lehmer` — multiplicative congruential generators

The sequence `s, a·s, a²·s, …` modulo a prime `p`.  Two facts are used of it:

* **period** — if `a` has order `p - 1` modulo `p` then the first `p - 1` terms
  are pairwise different, whatever the seed (`lehmer_injOn`);
* **Schrage's method** — with `m = a·q + r` and `r ≤ q`, the difference
  `a·(s mod q) - r·(s div q)` is `a·s mod m` up to one addition of `m`, and none
  of its terms leaves the range `(-m, m)` (`schrage_emod`, `schrage_bounds`).
-/
import Mathlib.NumberTheory.LucasPrimality
import Mathlib.Data.ZMod.Basic
import Mathlib.Tactic.Ring
import Mathlib.Tactic.LinearCombination

namespace PlayFrame.Lib

/-! ## The sequence -/

/-- The `n`-th term of the generator with modulus `p`, multiplier `a` and seed `s`. -/
def lehmer (p a s n : Nat) : Nat := a ^ n * s % p

section
variable {p a s : Nat}

theorem lehmer_succ (n : Nat) : lehmer p a s (n + 1) = a * lehmer p a s n % p := by
  unfold lehmer
  rw [Nat.mul_mod_mod, pow_succ]
  ring_nf

theorem lehmer_succ' (n : Nat) : lehmer p a s (n + 1) = lehmer p a (lehmer p a s 1) n := by
  unfold lehmer
  rw [Nat.mul_mod_mod, pow_one, pow_succ, mul_assoc]

theorem lehmer_lt (hp : 0 < p) (n : Nat) : lehmer p a s n < p := Nat.mod_lt _ hp

variable [hp : Fact p.Prime]

theorem not_dvd_of_orderOf (h1 : 1 < p - 1) (ha : orderOf (a : ZMod p) = p - 1) : ¬ p ∣ a := by
  intro hd
  have h0 : (a : ZMod p) = 0 := (ZMod.natCast_eq_zero_iff a p).mpr hd
  rw [h0, orderOf_zero (ZMod p)] at ha
  omega

theorem lehmer_pos (ha : ¬ p ∣ a) (hs : ¬ p ∣ s) (n : Nat) : 0 < lehmer p a s n := by
  refine Nat.pos_of_ne_zero (fun h0 => ?_)
  rcases (Nat.Prime.dvd_mul hp.out).mp (Nat.dvd_of_mod_eq_zero h0) with h | h
  · exact ha (hp.out.dvd_of_dvd_pow h)
  · exact hs h

/-- **Full period.**  Within the first `p - 1` terms no value comes twice. -/
theorem lehmer_injOn (ha : orderOf (a : ZMod p) = p - 1) (hs : ¬ p ∣ s) {i j : Nat}
    (hi : i < p - 1) (hj : j < p - 1) (h : lehmer p a s i = lehmer p a s j) : i = j := by
  have hcast : ((a ^ i * s : Nat) : ZMod p) = ((a ^ j * s : Nat) : ZMod p) :=
    (ZMod.natCast_eq_natCast_iff _ _ _).mpr h
  push_cast at hcast
  have hs0 : (s : ZMod p) ≠ 0 := fun h0 => hs ((ZMod.natCast_eq_zero_iff s p).mp h0)
  have hpow : (a : ZMod p) ^ i = (a : ZMod p) ^ j := mul_right_cancel₀ hs0 hcast
  exact pow_injOn_Iio_orderOf (by simpa [ha] using hi) (by simpa [ha] using hj) hpow

end

/-! ## Schrage's method -/

section
variable {m a q r s : Int}

theorem schrage_bounds (hm : m = a * q + r) (ha : 0 < a) (hq : 0 < q) (hr : 0 ≤ r) (hrq : r ≤ q)
    (hs : 0 ≤ s) (hsm : s < m) :
    0 ≤ a * (s % q) ∧ a * (s % q) < m ∧ 0 ≤ r * (s / q) ∧ r * (s / q) < m := by
  have h0 : 0 ≤ s % q := Int.emod_nonneg s hq.ne'
  have h1 : s % q ≤ q - 1 := by have := Int.emod_lt_of_pos s hq; omega
  have hd : 0 ≤ s / q := Int.ediv_nonneg hs hq.le
  have hqd : q * (s / q) ≤ s := by have := Int.mul_ediv_add_emod s q; omega
  refine ⟨Int.mul_nonneg ha.le h0, ?_, Int.mul_nonneg hr hd, ?_⟩
  · have h2 : a * (s % q) ≤ a * (q - 1) := Int.mul_le_mul_of_nonneg_left h1 ha.le
    have h3 : a * (q - 1) = a * q - a := by ring
    omega
  · have h2 : r * (s / q) ≤ q * (s / q) := Int.mul_le_mul_of_nonneg_right hrq hd
    omega

/-- **Schrage's method** computes `a·s mod m` with one conditional addition. -/
theorem schrage_emod (hm : m = a * q + r) (ha : 0 < a) (hq : 0 < q) (hr : 0 ≤ r) (hrq : r ≤ q)
    (hs : 0 ≤ s) (hsm : s < m) :
    (if a * (s % q) - r * (s / q) ≥ 0 then a * (s % q) - r * (s / q)
      else a * (s % q) - r * (s / q) + m) = a * s % m := by
  obtain ⟨h1, h2, h3, h4⟩ := schrage_bounds hm ha hq hr hrq hs hsm
  have hsq := Int.mul_ediv_add_emod s q
  generalize ht : a * (s % q) - r * (s / q) = t at *
  have has : a * s = t + m * (s / q) := by
    rw [← ht, hm]
    linear_combination (-a) * hsq
  rw [has, Int.add_mul_emod_self_left]
  split
  · rw [Int.emod_eq_of_lt (by omega) (by omega)]
  · rw [← Int.add_emod_right, Int.emod_eq_of_lt (by omega) (by omega)]

end

end PlayFrame.Lib
