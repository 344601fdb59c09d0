/-
# `PlayFrame.Lib.BitPairs` — a pair of bits turned over together

A word is the function of its bits.  To exchange two bits, it is enough to turn both over
when they differ.  A program that turns them over when one of them is set (`turn`) exchanges them
as long as they are not both set (`turn_eq_swap_iff`), and clears them when they are.

A list of pairs that have no place in common is turned over pair by pair (`turnAll`).  Two words
become the same one exactly when they differ in nothing but pairs whose bits are equal in both
of them (`turnAll_eq_iff`).
-/
import Mathlib.Logic.Equiv.Basic
import Mathlib.Data.List.Nodup

namespace PlayFrame.Lib

variable {ι : Type} [DecidableEq ι]

/-! ## One pair -/

/-- Two bits are turned over if one of them is set, unless they are the same bit. -/
def turn (m n : ι) (f : ι → Bool) : ι → Bool :=
  if m = n ∨ (f m = false ∧ f n = false) then f
  else fun i => if i = m ∨ i = n then !f i else f i

section
variable {m n i : ι} {f : ι → Bool}

theorem turn_self (m : ι) (f : ι → Bool) : turn m m f = f := by simp [turn]

theorem turn_other (hm : i ≠ m) (hn : i ≠ n) : turn m n f i = f i := by
  simp [turn, hm, hn, apply_ite (fun g : ι → Bool => g i)]

theorem turn_left (h : m ≠ n) : turn m n f m = (f n && !f m) := by
  cases hm : f m <;> cases hn : f n <;> simp [turn, h, hm, hn]

theorem turn_right (h : m ≠ n) : turn m n f n = (f m && !f n) := by
  cases hm : f m <;> cases hn : f n <;> simp [turn, h, hm, hn]

theorem turn_eq_swap_iff :
    turn m n f = f ∘ Equiv.swap m n ↔ m = n ∨ ¬ (f m = true ∧ f n = true) := by
  rcases eq_or_ne m n with rfl | hmn
  · simp [turn_self]
  constructor
  · intro h
    have hm := congrFun h m
    rw [turn_left hmn, Function.comp_apply, Equiv.swap_apply_left] at hm
    refine Or.inr fun ⟨h₁, h₂⟩ => ?_
    rw [h₁, h₂] at hm
    exact absurd hm (by decide)
  · intro h
    have hset : ¬ (f m = true ∧ f n = true) := h.resolve_left hmn
    funext i
    rw [Function.comp_apply]
    rcases eq_or_ne i m with rfl | him
    · rw [turn_left hmn, Equiv.swap_apply_left]
      cases hi : f i <;> simp_all
    rcases eq_or_ne i n with rfl | hin
    · rw [turn_right hmn, Equiv.swap_apply_right]
      cases hi : f i <;> simp_all
    rw [turn_other him hin, Equiv.swap_apply_of_ne_of_ne him hin]

end

/-! ## A list of pairs -/

/-- The places of some pairs. -/
def places (ps : List (ι × ι)) : List ι := ps.flatMap (fun p => [p.1, p.2])

/-- The pairs are turned over, one after the other. -/
def turnAll (ps : List (ι × ι)) (f : ι → Bool) : ι → Bool :=
  ps.foldl (fun f p => turn p.1 p.2 f) f

section
variable {ps : List (ι × ι)} {p : ι × ι} {i : ι} {f g : ι → Bool}

omit [DecidableEq ι] in
theorem mem_places : i ∈ places ps ↔ ∃ p ∈ ps, i = p.1 ∨ i = p.2 := by
  simp [places]

theorem turnAll_other (hi : i ∉ places ps) : turnAll ps f i = f i := by
  induction ps generalizing f with
  | nil => rfl
  | cons q ps ih =>
    simp only [places, List.flatMap_cons, List.mem_append, List.mem_cons, List.not_mem_nil,
      or_false, not_or] at hi
    obtain ⟨⟨h₁, h₂⟩, hrest⟩ := hi
    exact (ih hrest).trans (turn_other h₁ h₂)

theorem turnAll_pair (hps : (places ps).Nodup) (hp : p ∈ ps) :
    turnAll ps f p.1 = (f p.2 && !f p.1) ∧ turnAll ps f p.2 = (f p.1 && !f p.2) := by
  induction ps generalizing f with
  | nil => cases hp
  | cons q ps ih =>
    simp only [places, List.flatMap_cons, List.nodup_append, List.nodup_cons, List.mem_cons,
      List.not_mem_nil, or_false] at hps
    obtain ⟨⟨hq, -⟩, hrest, hapart⟩ := hps
    rcases List.mem_cons.mp hp with rfl | hp
    · -- the pairs that follow have other places
      have h₁ : p.1 ∉ places ps := fun h => hapart p.1 (Or.inl rfl) p.1 h rfl
      have h₂ : p.2 ∉ places ps := fun h => hapart p.2 (Or.inr rfl) p.2 h rfl
      exact ⟨(turnAll_other h₁).trans (turn_left hq), (turnAll_other h₂).trans (turn_right hq)⟩
    · have h₁ : p.1 ∈ places ps := mem_places.mpr ⟨p, hp, Or.inl rfl⟩
      have h₂ : p.2 ∈ places ps := mem_places.mpr ⟨p, hp, Or.inr rfl⟩
      have hf₁ : turn q.1 q.2 f p.1 = f p.1 :=
        turn_other (fun h => hapart q.1 (Or.inl rfl) p.1 h₁ h.symm)
          (fun h => hapart q.2 (Or.inr rfl) p.1 h₁ h.symm)
      have hf₂ : turn q.1 q.2 f p.2 = f p.2 :=
        turn_other (fun h => hapart q.1 (Or.inl rfl) p.2 h₂ h.symm)
          (fun h => hapart q.2 (Or.inr rfl) p.2 h₂ h.symm)
      have := ih (f := turn q.1 q.2 f) hrest hp
      rwa [hf₁, hf₂] at this

/-- Two words are the same outside the pairs, and a pair in which they differ has equal bits
in both of them. -/
def Merged (ps : List (ι × ι)) (f g : ι → Bool) : Prop :=
  (∀ i, i ∉ places ps → f i = g i) ∧
  ∀ p ∈ ps, (f p.1 = g p.1 ∧ f p.2 = g p.2) ∨ (f p.1 = f p.2 ∧ g p.1 = g p.2)

theorem turnAll_eq_iff (hps : (places ps).Nodup) :
    turnAll ps f = turnAll ps g ↔ Merged ps f g := by
  constructor
  · intro h
    refine ⟨fun i hi => ?_, fun p hp => ?_⟩
    · have := congrFun h i
      rwa [turnAll_other hi, turnAll_other hi] at this
    · have h₁ := congrFun h p.1
      have h₂ := congrFun h p.2
      rw [(turnAll_pair hps hp).1, (turnAll_pair hps hp).1] at h₁
      rw [(turnAll_pair hps hp).2, (turnAll_pair hps hp).2] at h₂
      -- a pair that was exchanged is known from what became of it
      revert h₁ h₂
      cases f p.1 <;> cases f p.2 <;> cases g p.1 <;> cases g p.2 <;> decide
  · rintro ⟨hother, hpair⟩
    funext i
    by_cases hi : i ∈ places ps
    · obtain ⟨p, hp, hip⟩ := mem_places.mp hi
      obtain ⟨hf₁, hf₂⟩ := turnAll_pair (f := f) hps hp
      obtain ⟨hg₁, hg₂⟩ := turnAll_pair (f := g) hps hp
      rcases hpair p hp with ⟨h₁, h₂⟩ | ⟨h₁, h₂⟩
      · rcases hip with rfl | rfl
        · rw [hf₁, hg₁, h₁, h₂]
        · rw [hf₂, hg₂, h₁, h₂]
      · -- equal bits are cleared, whichever they are
        rcases hip with rfl | rfl
        · rw [hf₁, hg₁, h₁, h₂, Bool.and_not_self, Bool.and_not_self]
        · rw [hf₂, hg₂, h₁, h₂, Bool.and_not_self, Bool.and_not_self]
    · rw [turnAll_other hi, turnAll_other hi, hother i hi]

end

end PlayFrame.Lib
