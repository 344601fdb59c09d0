/-
# `PlayFrame.Lib.Lane` — jobs of several workers that keep an order

Jobs are handed out one after the other and done by workers, each at a time of its own.
The jobs with a property `p` form a lane when at most one of them is with a worker: then
they are done in the order in which they were handed out (`Lane.done_ordered`), and whoever has
one of them has the next (`Lane.next`).

The lane is kept as long as no job of it is handed out while another one is with a worker.
-/
import Mathlib.Data.List.Basic

namespace PlayFrame.Lib

variable {ι α : Type}

/-- What has been handed out, what has been done, and which job each worker has. -/
structure Lane (p : α → Bool) (handed done : List α) (busy : ι → Option α) : Prop where
  single : ∀ i j a b, busy i = some a → busy j = some b → p a = true → p b = true → i = j
  rest : ∃ o : Option α, handed.filter p = done.filter p ++ o.toList ∧
    ∀ a, o = some a ↔ p a = true ∧ ∃ i, busy i = some a

namespace Lane

variable {p : α → Bool} {handed done : List α} {busy : ι → Option α} {i : ι} {a : α}

theorem start : Lane p [] [] (fun _ : ι => none) :=
  ⟨fun _ _ _ _ h => (nomatch h), none, rfl, fun _ => iff_of_false (fun h => nomatch h)
    (fun ⟨_, _, h⟩ => nomatch h)⟩

theorem done_ordered (h : Lane p handed done busy) : done.filter p <+: handed.filter p := by
  obtain ⟨o, ho, -⟩ := h.rest
  exact ⟨o.toList, ho.symm⟩

theorem next (h : Lane p handed done busy) (hi : busy i = some a) (ha : p a = true) :
    handed.filter p = done.filter p ++ [a] := by
  obtain ⟨o, ho, hbusy⟩ := h.rest
  rw [ho, (hbusy a).mpr ⟨ha, i, hi⟩]
  rfl

variable [DecidableEq ι]

theorem hand (h : Lane p handed done busy) (hi : busy i = none)
    (halone : p a = true → ∀ j b, busy j = some b → p b = false) :
    Lane p (handed ++ [a]) done (Function.update busy i (some a)) := by
  obtain ⟨o, ho, hbusy⟩ := h.rest
  have hnone : p a = true → o = none := by
    intro ha
    cases o with
    | none => rfl
    | some b =>
        obtain ⟨hb, j, hj⟩ := (hbusy b).mp rfl
        rw [halone ha j b hj] at hb
        cases hb
  constructor
  · intro j k b c hj hk hb hc
    rw [Function.update_apply] at hj hk
    split_ifs at hj hk with hji hki hki
    · exact hji.trans hki.symm
    · cases hj
      rw [halone hb k c hk] at hc
      cases hc
    · cases hk
      rw [halone hc j b hj] at hb
      cases hb
    · exact h.single j k b c hj hk hb hc
  · have hother : ∀ b, (∃ j, Function.update busy i (some a) j = some b) ↔
        b = a ∨ ∃ j, busy j = some b := by
      intro b
      constructor
      · rintro ⟨j, hj⟩
        rw [Function.update_apply] at hj
        split_ifs at hj with hji
        · cases hj
          exact Or.inl rfl
        · exact Or.inr ⟨j, hj⟩
      · rintro (rfl | ⟨j, hj⟩)
        · exact ⟨i, Function.update_self ..⟩
        · refine ⟨j, ?_⟩
          rw [Function.update_of_ne, hj]
          rintro rfl
          rw [hi] at hj
          cases hj
    cases ha : p a with
    | false =>
        refine ⟨o, ?_, fun b => ?_⟩
        · rw [List.filter_append, ho, List.filter_singleton, ha]
          exact List.append_nil _
        · rw [hbusy, hother]
          refine and_congr_right (fun hb => ?_)
          have hne : b ≠ a := by
            rintro rfl
            rw [ha] at hb
            cases hb
          exact (or_iff_right hne).symm
    | true =>
        obtain rfl := hnone ha
        refine ⟨some a, ?_, fun b => ?_⟩
        · rw [List.filter_append, ho, List.filter_singleton, ha, Option.toList_none,
            List.append_nil]
          rfl
        · rw [hother]
          constructor
          · rintro ⟨⟩
            exact ⟨ha, Or.inl rfl⟩
          · rintro ⟨hb, rfl | hj⟩
            · rfl
            · exact absurd ((hbusy b).mpr ⟨hb, hj⟩) (fun h => nomatch h)

theorem perform (h : Lane p handed done busy) (hi : busy i = some a) :
    Lane p handed (done ++ [a]) (Function.update busy i none) := by
  obtain ⟨o, ho, hbusy⟩ := h.rest
  have hother : ∀ j b, Function.update busy i none j = some b ↔ j ≠ i ∧ busy j = some b := by
    intro j b
    rw [Function.update_apply]
    split
    · next hji => exact iff_of_false (fun h => nomatch h) (fun h => h.1 hji)
    · next hji => exact (and_iff_right hji).symm
  constructor
  · intro j k b c hj hk hb hc
    exact h.single j k b c ((hother j b).mp hj).2 ((hother k c).mp hk).2 hb hc
  · cases ha : p a with
    | false =>
        refine ⟨o, ?_, fun b => ?_⟩
        · rw [List.filter_append, List.filter_singleton, ha, ho]
          exact congrArg (· ++ _) (List.append_nil _).symm
        · rw [hbusy]
          refine and_congr_right (fun hb => ?_)
          constructor
          · rintro ⟨j, hj⟩
            refine ⟨j, (hother j b).mpr ⟨?_, hj⟩⟩
            rintro rfl
            rw [hi] at hj
            cases hj
            rw [ha] at hb
            cases hb
          · rintro ⟨j, hj⟩
            exact ⟨j, ((hother j b).mp hj).2⟩
    | true =>
        obtain rfl := (hbusy a).mpr ⟨ha, i, hi⟩
        refine ⟨none, ?_, fun b => iff_of_false (fun h => nomatch h) ?_⟩
        · rw [List.filter_append, List.filter_singleton, ha, ho]
          exact (List.append_nil _).symm
        · rintro ⟨hb, j, hj⟩
          obtain ⟨hji, hj⟩ := (hother j b).mp hj
          exact hji (h.single j i b a hj hi hb ha)

end Lane

end PlayFrame.Lib
