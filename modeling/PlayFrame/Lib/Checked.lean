/-
# `PlayFrame.Lib.Checked` — signed words whose overflow is a fault

A signed operation whose exact result is no value of the word is undefined.  Here it has no
result: every operation is the exact one on integers, followed by the check that the word
holds what came out.  A computation written with these operations gives a value only when none
of its intermediate results left the word, and the value is then the exact one
(`mul_eq_some_iff` and its companions).

`/` truncates towards zero and `%` goes with it; both are undefined for a divisor of zero and
where the quotient does not fit, which happens to the smallest word divided by `-1` only.
-/
import Mathlib.Algebra.Ring.Int.Defs

namespace PlayFrame.Lib

/-- `x` is a value of a signed word of `w` bits. -/
def FitsWord (w : Nat) (x : Int) : Prop := -2 ^ (w - 1) ≤ x ∧ x < 2 ^ (w - 1)

instance decFitsWord (w : Nat) (x : Int) : Decidable (FitsWord w x) :=
  inferInstanceAs (Decidable (_ ∧ _))

theorem fitsWord_32 {x : Int} : FitsWord 32 x ↔ -2147483648 ≤ x ∧ x < 2147483648 := Iff.rfl

namespace Checked

/-- The result of an operation whose exact value is `x`. -/
def check (w : Nat) (x : Int) : Option Int := if FitsWord w x then some x else none

/-- `a + b`. -/
def add (w : Nat) (a b : Int) : Option Int := check w (a + b)
/-- `a - b`. -/
def sub (w : Nat) (a b : Int) : Option Int := check w (a - b)
/-- `a * b`. -/
def mul (w : Nat) (a b : Int) : Option Int := check w (a * b)
/-- `a / b`. -/
def div (w : Nat) (a b : Int) : Option Int := if b = 0 then none else check w (a.tdiv b)
/-- `a % b`, which is defined where `a / b` is. -/
def rem (w : Nat) (a b : Int) : Option Int := (div w a b).bind fun _ => check w (a.tmod b)

section
variable {w : Nat} {a b x y : Int}

theorem check_eq_some_iff : check w x = some y ↔ FitsWord w x ∧ x = y := by
  unfold check
  split <;> simp [*]

theorem add_eq_some_iff : add w a b = some y ↔ FitsWord w (a + b) ∧ a + b = y := check_eq_some_iff

theorem sub_eq_some_iff : sub w a b = some y ↔ FitsWord w (a - b) ∧ a - b = y := check_eq_some_iff

theorem mul_eq_some_iff : mul w a b = some y ↔ FitsWord w (a * b) ∧ a * b = y := check_eq_some_iff

theorem div_eq_some_iff (hb : b ≠ 0) :
    div w a b = some y ↔ FitsWord w (a.tdiv b) ∧ a.tdiv b = y := by
  unfold div
  rw [if_neg hb, check_eq_some_iff]

theorem rem_eq_some_iff (hb : b ≠ 0) :
    rem w a b = some y ↔ FitsWord w (a.tdiv b) ∧ FitsWord w (a.tmod b) ∧ a.tmod b = y := by
  simp only [rem, Option.bind_eq_some_iff, div_eq_some_iff hb, check_eq_some_iff]
  constructor
  · rintro ⟨_, ⟨hquot, -⟩, hrem⟩
    exact ⟨hquot, hrem⟩
  · rintro ⟨hquot, hrem⟩
    exact ⟨_, ⟨hquot, rfl⟩, hrem⟩

end

end Checked

end PlayFrame.Lib
