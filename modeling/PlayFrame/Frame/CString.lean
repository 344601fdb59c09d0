/-
# `PlayFrame.Frame.CString` — texts kept in fixed arrays

A logic copies a text into an array of its data with `strncpy`, and reads it as a C string in
a later step.  `strncpy` leaves no room for the end of a text that fills the array, so the
string is the text exactly when the text is shorter than the array or the byte behind the
array is 0 (`cString_strncpy_iff`).
-/
import PlayFrame.Frame.Account
import Mathlib.Data.List.TakeWhile

namespace PlayFrame

namespace Utils

/-- The text has no byte 0 in it. -/
def NoEnd (s : Bytes) : Prop := ∀ b ∈ s, b ≠ 0

section
variable {s rest memory r : Bytes} {n : Nat}

theorem NoEnd.takeWhile_append (h : NoEnd s) (rest : Bytes) :
    (s ++ rest).takeWhile (· ≠ 0) = s ++ rest.takeWhile (· ≠ 0) :=
  List.takeWhile_append_of_pos fun b hb => decide_eq_true (h b hb)

theorem strncpy_eq (h : NoEnd s) (hlen : s.length ≤ n) :
    strncpy s n = s ++ List.replicate (n - s.length) 0 := by
  have htake : s.takeWhile (· ≠ 0) = s :=
    List.takeWhile_eq_self_iff.mpr fun b hb => decide_eq_true (h b hb)
  unfold strncpy
  dsimp only
  rw [htake, List.take_of_length_le hlen]

theorem cString_append_iff (h : NoEnd s) :
    cString (s ++ rest) = .ok r ↔ ∃ r', cString rest = .ok r' ∧ r = s ++ r' := by
  have hany : (s ++ rest).any (· == 0) = rest.any (· == 0) := by
    rw [List.any_append, List.any_eq_false.mpr fun b hb => by simpa using h b hb,
      Bool.false_or]
  unfold cString
  rw [hany, h.takeWhile_append]
  split
  · constructor
    · intro hr
      exact ⟨_, rfl, (Except.ok.inj hr).symm⟩
    · rintro ⟨r', hr', rfl⟩
      rw [Except.ok.inj hr']
  · constructor
    · intro hr
      cases hr
    · rintro ⟨r', hr', -⟩
      cases hr'

theorem cString_nil_iff : cString memory = .ok [] ↔ memory.head? = some 0 := by
  cases memory with
  | nil => exact iff_of_false (fun h => nomatch h) (fun h => nomatch h)
  | cons b memory =>
    by_cases hb : b = 0
    · subst hb
      simp [cString]
    · refine iff_of_false (fun h => ?_) (by simpa using hb)
      unfold cString at h
      split at h
      · simp [hb] at h
      · cases h

/-- **Reading back a text that was copied into an array of `n` bytes.** -/
theorem cString_strncpy_iff (h : NoEnd s) (hlen : s.length ≤ n) :
    cString (strncpy s n ++ rest) = .ok s ↔ s.length < n ∨ rest.head? = some 0 := by
  have hself : cString (strncpy s n ++ rest) = .ok s ↔
      (List.replicate (n - s.length) 0 ++ rest).head? = some 0 := by
    rw [strncpy_eq h hlen, List.append_assoc, cString_append_iff h, ← cString_nil_iff]
    constructor
    · rintro ⟨r', hr', hs⟩
      rw [hr', List.self_eq_append_right.mp hs]
    · exact fun hnil => ⟨[], hnil, (List.append_nil s).symm⟩
  rw [hself]
  rcases Nat.lt_or_eq_of_le hlen with hlt | heq
  · obtain ⟨k, hk⟩ : ∃ k, n - s.length = k + 1 := ⟨n - s.length - 1, by omega⟩
    rw [hk, List.replicate_succ, List.cons_append]
    exact iff_of_true rfl (Or.inl hlt)
  · rw [heq, Nat.sub_self, List.replicate_zero, List.nil_append]
    exact ⟨Or.inr, fun h => h.resolve_left (Nat.lt_irrefl n)⟩

theorem prefix_of_cString_strncpy (h : NoEnd s) (hlen : s.length ≤ n)
    (hr : cString (strncpy s n ++ rest) = .ok r) : s <+: r := by
  rw [strncpy_eq h hlen, List.append_assoc] at hr
  obtain ⟨r', -, rfl⟩ := (cString_append_iff h).mp hr
  exact ⟨r', rfl⟩

/-! ## Accounts and passwords -/

theorem checkAccount_ok {account : Bytes} (h : checkAccount account = 0) :
    NoEnd account ∧ 6 ≤ account.length ∧ account.length ≤ 32 := by
  obtain ⟨⟨hmin, hmax⟩, hfirst, hrest⟩ := checkAccount_eq_zero_iff.mp h
  refine ⟨?_, hmin, hmax⟩
  cases account with
  | nil => exact absurd hmin (by decide)
  | cons c account =>
    intro b hb
    rcases List.mem_cons.mp hb with rfl | hb
    · exact ne_zero_of_alnum (Or.inl hfirst)
    · exact ne_zero_of_alnum (hrest b hb)

theorem checkPassword_ok {password : Bytes} (h : checkPassword password = 0) :
    NoEnd password ∧ 4 ≤ password.length ∧ password.length ≤ 16 := by
  obtain ⟨hlen, hall⟩ := checkPassword_eq_zero_iff.mp h
  exact ⟨fun b hb => ne_zero_of_alnum (hall b hb), hlen⟩

end

end Utils

end PlayFrame
