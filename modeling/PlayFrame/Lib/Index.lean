/-
# `PlayFrame.Lib.Index` — an index over records that have a key

Records `B`, some of which have a key in `A`, and an index that finds the record of a
key.  Index and keys are `Inverse` when the index finds exactly the records that have the
key; a key then has one record at most.

An index that is filled with `bind`, which keeps an entry that is there already, stays
right exactly if no record changes its key and no two get the same one (`bind_iff`).
-/
import Mathlib.Logic.Function.Basic

namespace PlayFrame.Lib

variable {A B : Type} {index : A → Option B} {key : B → Option A} {a : A} {b b' : B}

/-- The index finds exactly the records that have the key. -/
def Inverse (index : A → Option B) (key : B → Option A) : Prop :=
  ∀ a b, index a = some b ↔ key b = some a

/-- The index after an insertion that does not replace an entry. -/
def bind [DecidableEq A] (index : A → Option B) (a : A) (b : B) : A → Option B :=
  Function.update index a (some ((index a).getD b))

namespace Inverse

theorem unique (h : Inverse index key) (hb : key b = some a) (hb' : key b' = some a) : b = b' := by
  have hi := (h a b).mpr hb
  rw [(h a b').mpr hb'] at hi
  exact (Option.some.inj hi).symm

variable [DecidableEq A] [DecidableEq B]

theorem bind_iff (h : Inverse index key) :
    Inverse (bind index a b) (Function.update key b (some a)) ↔
      (key b = none ∨ key b = some a) ∧ ∀ b', b' ≠ b → key b' ≠ some a := by
  unfold bind
  constructor
  · intro h'
    refine ⟨?_, fun b' hne hb' => hne ?_⟩
    · cases hb : key b with
      | none => exact Or.inl rfl
      | some a₀ =>
          by_cases ha : a₀ = a
          · exact Or.inr (congrArg some ha)
          -- the entry of the old key is left behind
          have hold := (h' a₀ b).mp (by rw [Function.update_of_ne ha]; exact (h a₀ b).mpr hb)
          rw [Function.update_self] at hold
          exact absurd (Option.some.inj hold).symm ha
    · have h₁ := (h' a b').mpr (by rw [Function.update_of_ne hne]; exact hb')
      have h₂ := (h' a b).mpr (Function.update_self ..)
      rw [h₁] at h₂
      exact Option.some.inj h₂
  · rintro ⟨hb, hno⟩ x y
    by_cases hx : x = a
    · subst hx
      have hentry : (index x).getD b = b := by
        cases hi : index x with
        | none => rfl
        | some c =>
            by_contra hc
            exact hno c hc ((h x c).mp hi)
      rw [Function.update_self, hentry]
      by_cases hy : y = b
      · subst hy
        simp
      · rw [Function.update_of_ne hy]
        exact iff_of_false (fun e => hy (Option.some.inj e).symm) (hno y hy)
    · rw [Function.update_of_ne hx, h x y]
      by_cases hy : y = b
      · subst hy
        rw [Function.update_self]
        refine iff_of_false (fun e => ?_) (fun e => hx (Option.some.inj e).symm)
        rcases hb with hb | hb
        · rw [hb] at e
          cases e
        · rw [hb] at e
          exact hx (Option.some.inj e).symm
      · rw [Function.update_of_ne hy]

theorem erase (h : Inverse index key) (hb : key b = some a) :
    Inverse (Function.update index a none) (Function.update key b none) := by
  intro x y
  by_cases hx : x = a
  · subst hx
    rw [Function.update_self]
    refine iff_of_false (fun e => nomatch e) (fun e => ?_)
    by_cases hy : y = b
    · subst hy
      rw [Function.update_self] at e
      cases e
    · rw [Function.update_of_ne hy] at e
      exact hy (h.unique e hb)
  · rw [Function.update_of_ne hx, h x y]
    by_cases hy : y = b
    · subst hy
      rw [Function.update_self, hb]
      exact iff_of_false (fun e => hx (Option.some.inj e).symm) (fun e => nomatch e)
    · rw [Function.update_of_ne hy]

end Inverse

end PlayFrame.Lib
