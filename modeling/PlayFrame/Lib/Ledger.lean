/-
# `PlayFrame.Lib.Ledger` — what has been asked for, given, and is still owed

Things are asked for by those who then owe them, and are given by those who owe them.
`Settles` says that everything that has been given, and everything that is owed, has been
asked for, one by one: nothing is given twice, and nothing that somebody owes has been given.

What is asked for need not be given: a debt may be forgotten at any time.
-/
import Mathlib.Data.List.Perm.Subperm

namespace PlayFrame.Lib

variable {ι κ : Type*}

/-- **The ledger settles**: a list of debts, one for each debtor, has all that is owed in it,
and together with what has been given it is a part of what has been asked for. -/
def Settles (asked given : List κ) (owes : ι → κ → Prop) : Prop :=
  ∃ debts : List (ι × κ), (debts.map Prod.fst).Nodup ∧ (∀ i k, owes i k → (i, k) ∈ debts) ∧
    (given ++ debts.map Prod.snd).Subperm asked

namespace Settles

variable {asked given : List κ} {owes owes' : ι → κ → Prop} {i : ι} {k : κ}

theorem start (h : ∀ i k, ¬ owes i k) : Settles ([] : List κ) [] owes :=
  ⟨[], List.nodup_nil, fun i k howes => absurd howes (h i k), List.Subperm.refl _⟩

theorem mono (h : Settles asked given owes) (hle : ∀ i k, owes' i k → owes i k) :
    Settles asked given owes' := by
  obtain ⟨debts, hnodup, hdebts, hsub⟩ := h
  exact ⟨debts, hnodup, fun i k howes => hdebts i k (hle i k howes), hsub⟩

theorem more (h : Settles asked given owes) (asked' : List κ) :
    Settles (asked ++ asked') given owes := by
  obtain ⟨debts, hnodup, hdebts, hsub⟩ := h
  exact ⟨debts, hnodup, hdebts, hsub.trans (List.sublist_append_left _ _).subperm⟩

theorem ask (h : Settles asked given owes)
    (howes : ∀ j k', owes' j k' → j ≠ i ∧ owes j k' ∨ j = i ∧ k' = k) :
    Settles (asked ++ [k]) given owes' := by
  classical
  obtain ⟨debts, hnodup, hdebts, hsub⟩ := h
  -- what `i` has owed is forgotten
  have hothers : (debts.filter (·.1 ≠ i)).Sublist debts := List.filter_sublist
  refine ⟨(i, k) :: debts.filter (·.1 ≠ i), ?_, fun j k' hj => ?_, ?_⟩
  · refine List.nodup_cons.mpr ⟨?_, (hothers.map Prod.fst).nodup hnodup⟩
    simp
  · rcases howes j k' hj with ⟨hne, hold⟩ | ⟨rfl, rfl⟩
    · exact List.mem_cons_of_mem _ (List.mem_filter.mpr ⟨hdebts j k' hold, by simpa using hne⟩)
    · exact List.mem_cons_self
  · have hpart : (given ++ (debts.filter (·.1 ≠ i)).map Prod.snd).Subperm asked :=
      (((hothers.map Prod.snd).append_left given).subperm).trans hsub
    refine List.perm_middle.subperm.trans (List.Subperm.trans ?_
      (List.perm_append_singleton k asked).symm.subperm)
    exact List.subperm_cons _ |>.mpr hpart

theorem pay (h : Settles asked given owes) (hi : owes i k)
    (howes : ∀ j k', owes' j k' → j ≠ i ∧ owes j k') :
    Settles asked (given ++ [k]) owes' := by
  classical
  obtain ⟨debts, hnodup, hdebts, hsub⟩ := h
  have hperm := List.perm_cons_erase (hdebts i k hi)
  refine ⟨debts.erase (i, k), (List.erase_sublist.map Prod.fst).nodup hnodup, fun j k' hj => ?_, ?_⟩
  · obtain ⟨hne, hold⟩ := howes j k' hj
    refine (List.mem_erase_of_ne ?_).mpr (hdebts j k' hold)
    exact fun heq => hne (congrArg Prod.fst heq)
  · refine List.Subperm.trans (List.Perm.subperm ?_) hsub
    rw [List.append_assoc]
    exact ((hperm.map Prod.snd).append_left given).symm

theorem serve (h : Settles asked given owes) (hfree : ∀ j k', owes' j k' → j ≠ i ∧ owes j k') :
    Settles (asked ++ [k]) (given ++ [k]) owes' := by
  have hasked : Settles (asked ++ [k]) given
      (fun j k' => j ≠ i ∧ owes j k' ∨ j = i ∧ k' = k) := h.ask fun _ _ hj => hj
  exact hasked.pay (Or.inr ⟨rfl, rfl⟩) fun j k' hj =>
    ⟨(hfree j k' hj).1, Or.inl (hfree j k' hj)⟩

end Settles

end PlayFrame.Lib
