/-
# `PlayFrame.Lib.Framing` — length-prefixed frames in a stream that arrives in pieces

A `Framing` computes the length of the frame at the front of a stream from a header; it
only does so when more than `hdr` elements are there, and no frame is meant to be
shorter than `low`, which is positive.  A frame is ready when all of it has arrived.

`Unread s r` says that dropping frames that are ready from `s`, one after the other,
leads to `r`.  Where the reader stands does not depend on when the pieces arrived
(`Unread.append`), and two readers of one stream are never apart (`Unread.total`).
`Cut s fs r` also says which frames have been dropped: of two readers of one stream,
one has read what the other has, and more (`Cut.total`).  A stream is `WellHeaded` when no frame of it is announced shorter than `low`.
-/
import Mathlib.Data.List.Basic
import Mathlib.Data.List.Infix

namespace PlayFrame.Lib

/-- How a stream is cut into frames. -/
structure Framing (α : Type) where
  hdr : Nat
  low : Nat
  len : List α → Nat
  len_append : ∀ s t, hdr < s.length → len (s ++ t) = len s
  low_pos : 0 < low

namespace Framing

variable {α : Type}

/-- The frame at the front of `s` is complete. -/
def Ready (F : Framing α) (s : List α) : Prop :=
  F.hdr < s.length ∧ F.len s ≤ s.length

instance (F : Framing α) (s : List α) : Decidable (F.Ready s) := by
  unfold Ready
  infer_instance

/-- Dropping complete frames from `s` leads to `r`. -/
inductive Unread (F : Framing α) : List α → List α → Prop
  | refl (s : List α) : Unread F s s
  | frame {s r : List α} : Unread F s r → F.Ready r → F.low ≤ F.len r →
      Unread F s (r.drop (F.len r))

/-- No frame of `s` is announced shorter than `low`. -/
def WellHeaded (F : Framing α) (s : List α) : Prop :=
  ∀ r, F.Unread s r → F.hdr < r.length → F.low ≤ F.len r

variable {F : Framing α} {s t r r₁ r₂ : List α}

/-! ## Where a reader stands -/

theorem Ready.append (h : F.Ready s) : F.Ready (s ++ t) := by
  obtain ⟨h1, h2⟩ := h
  refine ⟨?_, ?_⟩
  · rw [List.length_append]
    omega
  · rw [F.len_append s t h1, List.length_append]
    omega

theorem Unread.append (h : F.Unread s r) : F.Unread (s ++ t) (r ++ t) := by
  induction h with
  | refl => exact .refl _
  | frame _ hr hlow ih =>
      have hlen := F.len_append _ t hr.1
      have h := Unread.frame ih hr.append (by rw [hlen]; exact hlow)
      rw [hlen, List.drop_append_of_le_length hr.2] at h
      exact h

theorem Unread.trans (h₁ : F.Unread s t) (h₂ : F.Unread t r) : F.Unread s r := by
  induction h₂ with
  | refl => exact h₁
  | frame _ hr hlow ih => exact .frame ih hr hlow

theorem Unread.head (h : F.Unread s r) :
    s = r ∨ F.Ready s ∧ F.low ≤ F.len s ∧ F.Unread (s.drop (F.len s)) r := by
  induction h with
  | refl => exact Or.inl rfl
  | frame _ hr hlow ih =>
      rcases ih with rfl | ⟨hs, hslow, hrest⟩
      · exact Or.inr ⟨hr, hlow, .refl _⟩
      · exact Or.inr ⟨hs, hslow, .frame hrest hr hlow⟩

theorem Unread.total (h₁ : F.Unread s r₁) (h₂ : F.Unread s r₂) :
    F.Unread r₁ r₂ ∨ F.Unread r₂ r₁ := by
  induction h₁ with
  | refl => exact Or.inl h₂
  | frame _ hr hlow ih =>
      rcases ih with h | h
      · rcases h.head with rfl | ⟨-, -, hrest⟩
        · exact Or.inr (.frame (.refl _) hr hlow)
        · exact Or.inl hrest
      · exact Or.inr (.frame h hr hlow)

/-! ## What a reader has read -/

/-- Dropping the complete frames `fs` from `s`, in this order, leads to `r`. -/
inductive Cut (F : Framing α) : List α → List (List α) → List α → Prop
  | refl (s : List α) : Cut F s [] s
  | frame {s r : List α} {fs : List (List α)} : Cut F s fs r → F.Ready r → F.low ≤ F.len r →
      Cut F s (fs ++ [r.take (F.len r)]) (r.drop (F.len r))

variable {fs fs₁ fs₂ gs : List (List α)}

theorem Cut.unread (h : F.Cut s fs r) : F.Unread s r := by
  induction h with
  | refl => exact .refl _
  | frame _ hr hlow ih => exact .frame ih hr hlow

theorem Cut.flatten (h : F.Cut s fs r) : fs.flatten ++ r = s := by
  induction h with
  | refl => rfl
  | frame _ _ _ ih => simpa using ih

theorem Cut.append (h : F.Cut s fs r) : F.Cut (s ++ t) fs (r ++ t) := by
  induction h with
  | refl => exact .refl _
  | frame _ hr hlow ih =>
      have hlen := F.len_append _ t hr.1
      have h := Cut.frame ih hr.append (by rw [hlen]; exact hlow)
      rw [hlen, List.drop_append_of_le_length hr.2, List.take_append_of_le_length hr.2] at h
      exact h

theorem Cut.trans (h₁ : F.Cut s fs t) (h₂ : F.Cut t gs r) : F.Cut s (fs ++ gs) r := by
  induction h₂ with
  | refl => simpa using h₁
  | frame _ hr hlow ih =>
      rw [← List.append_assoc]
      exact .frame ih hr hlow

theorem Cut.head (h : F.Cut s fs r) :
    (fs = [] ∧ s = r) ∨ F.Ready s ∧ F.low ≤ F.len s ∧
      ∃ gs, fs = s.take (F.len s) :: gs ∧ F.Cut (s.drop (F.len s)) gs r := by
  induction h with
  | refl => exact Or.inl ⟨rfl, rfl⟩
  | frame _ hr hlow ih =>
      rcases ih with ⟨rfl, rfl⟩ | ⟨hs, hslow, gs, rfl, hrest⟩
      · exact Or.inr ⟨hr, hlow, [], rfl, .refl _⟩
      · exact Or.inr ⟨hs, hslow, _, rfl, .frame hrest hr hlow⟩

theorem Cut.total (h₁ : F.Cut s fs₁ r₁) (h₂ : F.Cut s fs₂ r₂) :
    (∃ gs, fs₂ = fs₁ ++ gs ∧ F.Cut r₁ gs r₂) ∨ ∃ gs, fs₁ = fs₂ ++ gs ∧ F.Cut r₂ gs r₁ := by
  induction h₁ with
  | refl => exact Or.inl ⟨fs₂, rfl, h₂⟩
  | frame _ hr hlow ih =>
      rcases ih with ⟨gs, rfl, h⟩ | ⟨gs, rfl, h⟩
      · rcases h.head with ⟨rfl, rfl⟩ | ⟨-, -, gs', rfl, hrest⟩
        · exact Or.inr ⟨[_], by simp, .frame (.refl _) hr hlow⟩
        · exact Or.inl ⟨gs', by simp, hrest⟩
      · exact Or.inr ⟨gs ++ [_], by simp, .frame h hr hlow⟩

theorem Cut.stuck (h : F.Cut s fs r) (hs : ¬ F.Ready s) : fs = [] ∧ r = s := by
  rcases h.head with ⟨rfl, rfl⟩ | ⟨hr, -⟩
  · exact ⟨rfl, rfl⟩
  · exact absurd hr hs

theorem Cut.unique (h₁ : F.Cut s fs₁ r₁) (h₂ : F.Cut s fs₂ r₂) (hs₁ : ¬ F.Ready r₁)
    (hs₂ : ¬ F.Ready r₂) : fs₁ = fs₂ ∧ r₁ = r₂ := by
  rcases h₁.total h₂ with ⟨gs, rfl, h⟩ | ⟨gs, rfl, h⟩
  · obtain ⟨rfl, rfl⟩ := h.stuck hs₁
    simp
  · obtain ⟨rfl, rfl⟩ := h.stuck hs₂
    simp

theorem Cut.unique_of_length (h₁ : F.Cut s fs₁ r₁) (h₂ : F.Cut s fs₂ r₂)
    (hlen : fs₁.length = fs₂.length) : fs₁ = fs₂ ∧ r₁ = r₂ := by
  have hcut : ∀ {fs gs : List (List α)} {r r' : List α}, F.Cut r gs r' →
      fs.length = (fs ++ gs).length → gs = [] ∧ r' = r := by
    intro fs gs r r' h hlen
    have hnil : gs = [] := List.eq_nil_of_length_eq_zero (by rw [List.length_append] at hlen; omega)
    subst hnil
    have := h.flatten
    exact ⟨rfl, this⟩
  rcases h₁.total h₂ with ⟨gs, rfl, h⟩ | ⟨gs, rfl, h⟩
  · obtain ⟨rfl, rfl⟩ := hcut h hlen
    simp
  · obtain ⟨rfl, rfl⟩ := hcut h hlen.symm
    simp

theorem Unread.stuck (h : F.Unread s r) (hs : ¬ F.Ready s) : r = s := by
  rcases h.head with rfl | ⟨hr, -⟩
  · rfl
  · exact absurd hr hs

theorem length_drop_lt (hr : F.Ready s) (hlow : F.low ≤ F.len s) :
    (s.drop (F.len s)).length < s.length := by
  have := F.low_pos
  have := hr.2
  rw [List.length_drop]
  omega

/-! ## Well-headed streams -/

theorem WellHeaded.unread (h : F.WellHeaded s) (hr : F.Unread s r) : F.WellHeaded r :=
  fun _ h₁ => h _ (hr.trans h₁)

theorem WellHeaded.of_append (h : F.WellHeaded (s ++ t)) : F.WellHeaded s := by
  intro r hr hhdr
  rw [← F.len_append r t hhdr]
  exact h _ hr.append (by rw [List.length_append]; omega)

/-- **A well-headed stream** is read up to a frame that is not complete. -/
theorem WellHeaded.exists_stuck (h : F.WellHeaded s) : ∃ r, F.Unread s r ∧ ¬ F.Ready r := by
  generalize hn : s.length = n
  induction n using Nat.strong_induction_on generalizing s with
  | _ n ih =>
      by_cases hs : F.Ready s
      · have hlow := h s (.refl s) hs.1
        have hstep := Unread.frame (.refl s) hs hlow
        obtain ⟨r, hr, hstuck⟩ := ih _ (hn ▸ length_drop_lt hs hlow) (h.unread hstep) rfl
        exact ⟨r, hstep.trans hr, hstuck⟩
      · exact ⟨s, .refl s, hs⟩

/-! ## Pieces read through a buffer -/

/-- Every piece fits in a buffer of `cap` elements, next to what is left of the pieces
before it when all complete frames have been dropped. -/
inductive Fits (F : Framing α) (cap : Nat) : List (List α) → Prop
  | nil : Fits F cap []
  | snoc {pieces : List (List α)} {r piece : List α} : Fits F cap pieces →
      F.Unread pieces.flatten r → ¬ F.Ready r → r.length + piece.length ≤ cap →
      Fits F cap (pieces ++ [piece])

variable {cap : Nat} {pieces : List (List α)} {piece : List α}

theorem Unread.unique (h₁ : F.Unread s r₁) (h₂ : F.Unread s r₂) (hs₁ : ¬ F.Ready r₁)
    (hs₂ : ¬ F.Ready r₂) : r₁ = r₂ := by
  rcases h₁.total h₂ with h | h
  · exact (h.stuck hs₁).symm
  · exact h.stuck hs₂

theorem fits_snoc_iff (hr : F.Unread pieces.flatten r) (hs : ¬ F.Ready r) :
    F.Fits cap (pieces ++ [piece]) ↔ F.Fits cap pieces ∧ r.length + piece.length ≤ cap := by
  constructor
  · intro h
    generalize hall : pieces ++ [piece] = all at h
    cases h with
    | nil => exact absurd hall (by simp)
    | snoc hfit hr' hs' hcap =>
        obtain ⟨rfl, hpiece⟩ := List.append_inj' hall rfl
        cases hpiece
        rw [hr.unique hr' hs hs']
        exact ⟨hfit, hcap⟩
  · rintro ⟨hfit, hcap⟩
    exact .snoc hfit hr hs hcap

theorem Fits.of_append {pieces' : List (List α)} (h : F.Fits cap (pieces ++ pieces')) :
    F.Fits cap pieces := by
  generalize hall : pieces ++ pieces' = all at h
  induction h generalizing pieces pieces' with
  | nil =>
      rw [(List.append_eq_nil_iff.mp hall).1]
      exact .nil
  | snoc hfit hr hs hcap ih =>
      rcases List.eq_nil_or_concat pieces' with rfl | ⟨init, last, rfl⟩
      · rw [List.append_nil] at hall
        rw [hall]
        exact .snoc hfit hr hs hcap
      · rw [List.concat_eq_append, ← List.append_assoc] at hall
        exact ih (List.append_inj' hall rfl).1

end Framing

end PlayFrame.Lib
