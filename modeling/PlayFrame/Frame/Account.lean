/-
# `PlayFrame.Frame.Account` — what `CheckAccount` and `CheckPassword` take

The two functions compare `char`s with the ends of three ranges.  As bytes these are the digits
and the letters: an account is a letter and letters and digits (`checkAccount_eq_zero_iff`), a
password letters and digits (`checkPassword_eq_zero_iff`).
-/
import PlayFrame.Frame.Utils

namespace PlayFrame

namespace Utils

/-- The byte is a digit. -/
def IsDigit (b : UInt8) : Prop := 48 ≤ b.toNat ∧ b.toNat ≤ 57

/-- The byte is a letter. -/
def IsLetter (b : UInt8) : Prop := (65 ≤ b.toNat ∧ b.toNat ≤ 90) ∨ (97 ≤ b.toNat ∧ b.toNat ≤ 122)

section
variable {b c : UInt8} {account password : Bytes}

theorem charVal_cases (b : UInt8) :
    (b.toNat < 128 ∧ charVal b = b.toNat) ∨ (128 ≤ b.toNat ∧ charVal b < 0) := by
  have hb := b.toNat_lt
  have hlt : b < 128 ↔ b.toNat < 128 := UInt8.lt_iff_toNat_lt
  unfold charVal
  split
  · next h => exact Or.inl ⟨hlt.mp h, rfl⟩
  · next h => exact Or.inr ⟨Nat.le_of_not_lt fun h' => h (hlt.mpr h'), by omega⟩

theorem not_notAlpha_iff : ¬ notAlpha (charVal b) ↔ IsLetter b := by
  have hval := charVal_cases b
  unfold notAlpha charA charZ chara charz IsLetter
  omega

theorem not_notAlnum_iff : ¬ notAlnum (charVal b) ↔ IsLetter b ∨ IsDigit b := by
  have hval := charVal_cases b
  unfold notAlnum char0 char9 charA charZ chara charz IsLetter IsDigit
  omega

theorem IsDigit.ne (h : IsDigit b) (hc : c.toNat < 48) : b ≠ c := by
  rintro rfl
  exact absurd h.1 (Nat.not_le.mpr hc)

theorem IsDigit.not_isLetter (h : IsDigit b) : ¬ IsLetter b := by
  unfold IsDigit at h
  unfold IsLetter
  omega

theorem ne_zero_of_alnum (h : IsLetter b ∨ IsDigit b) : b ≠ 0 := by
  rintro rfl
  unfold IsLetter IsDigit at h
  exact absurd h (by decide)

theorem any_notAlnum_iff (s : Bytes) :
    s.any (fun b => notAlnum (charVal b)) = true ↔ ¬ ∀ b ∈ s, IsLetter b ∨ IsDigit b := by
  rw [List.any_eq_true]
  simp only [decide_eq_true_eq, ← not_notAlnum_iff, not_forall, not_not, exists_prop]

/-- **The accounts**: a letter, and letters and digits, 6 to 32 in all. -/
theorem checkAccount_eq_zero_iff : checkAccount account = 0 ↔
    (6 ≤ account.length ∧ account.length ≤ 32) ∧
      IsLetter (account.headD 0) ∧ ∀ b ∈ account.tail, IsLetter b ∨ IsDigit b := by
  unfold checkAccount
  split
  · exact iff_of_false (by decide) (fun h => by omega)
  next hlen =>
  split
  · next hfirst =>
    exact iff_of_false (by decide) (fun h => not_notAlpha_iff.mpr h.2.1 hfirst)
  next hfirst =>
  split
  · next hrest => exact iff_of_false (by decide) (fun h => (any_notAlnum_iff _).mp hrest h.2.2)
  next hrest =>
  refine iff_of_true rfl ⟨by omega, not_notAlpha_iff.mp hfirst, ?_⟩
  exact not_not.mp fun h => hrest ((any_notAlnum_iff _).mpr h)

theorem checkPassword_eq_zero_iff : checkPassword password = 0 ↔
    (4 ≤ password.length ∧ password.length ≤ 16) ∧ ∀ b ∈ password, IsLetter b ∨ IsDigit b := by
  unfold checkPassword
  split
  · exact iff_of_false (by decide) (fun h => by omega)
  next hlen =>
  split
  · next hrest => exact iff_of_false (by decide) (fun h => (any_notAlnum_iff _).mp hrest h.2)
  next hrest =>
  refine iff_of_true rfl ⟨by omega, ?_⟩
  exact not_not.mp fun h => hrest ((any_notAlnum_iff _).mpr h)

end

end Utils

end PlayFrame
