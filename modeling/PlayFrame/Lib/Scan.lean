/-
# `PlayFrame.Lib.Scan` — texts of words, numbers and quoted strings

A writer puts a text together from fixed words, decimal numbers, and strings in which
some characters are escaped.  A scanner takes one of these from the front of a text and
leaves the rest.  Words are taken by `List.isPrefixOf?`; `scanNat` takes back a number that
is not followed by a digit (`scanNat_decimal`), and `Escaping.scan` a string that is
followed by the closing quote (`Escaping.scan_escape`).
-/
import Mathlib.Data.List.Basic

namespace PlayFrame.Lib

/-! ## Words and numbers -/

/-- The bytes of an ASCII text. -/
def ascii (s : String) : List UInt8 := s.toList.map (fun c => UInt8.ofNat c.toNat)

theorem afterWord (word rest : List UInt8) : word.isPrefixOf? (word ++ rest) = some rest :=
  List.isPrefixOf?_eq_some_iff_append_eq.mpr rfl

/-- The byte of a decimal digit. -/
def isDigit (b : UInt8) : Bool := 48 ≤ b.toNat && b.toNat ≤ 57

/-- The decimal digits of a number. -/
def decimal (n : Nat) : List UInt8 := (Nat.toDigits 10 n).map (fun c => UInt8.ofNat c.toNat)

/-- The number at the front of a text, and the rest. -/
def scanNat (text : List UInt8) : Nat × List UInt8 :=
  (Nat.ofDigitChars 10 ((text.takeWhile isDigit).map (fun b => Char.ofNat b.toNat)) 0,
    text.dropWhile isDigit)

section
variable {c : Char} {b : UInt8} {n : Nat} {rest : List UInt8}

theorem toNat_digit (h : c.isDigit) : 48 ≤ c.toNat ∧ c.toNat ≤ 57 := by
  unfold Char.isDigit at h
  rw [Bool.and_eq_true, decide_eq_true_iff, decide_eq_true_iff] at h
  exact h

theorem toNat_ofNat_digit (h : c.isDigit) : (UInt8.ofNat c.toNat).toNat = c.toNat := by
  have := toNat_digit h
  rw [UInt8.toNat_ofNat', Nat.mod_eq_of_lt]
  omega

theorem isDigit_of_mem_decimal (h : b ∈ decimal n) : isDigit b = true := by
  obtain ⟨c, hc, rfl⟩ := List.mem_map.mp h
  have hdigit : c.isDigit := Nat.isDigit_of_mem_toDigits (by decide) (by decide) hc
  have := toNat_digit hdigit
  simp only [isDigit, toNat_ofNat_digit hdigit, Bool.and_eq_true, decide_eq_true_eq]
  exact this

theorem map_decimal (n : Nat) :
    (decimal n).map (fun b => Char.ofNat b.toNat) = Nat.toDigits 10 n := by
  unfold decimal
  rw [List.map_map]
  refine (List.map_congr_left fun c hc => ?_).trans (List.map_id _)
  have hdigit : c.isDigit := Nat.isDigit_of_mem_toDigits (by decide) (by decide) hc
  exact (congrArg Char.ofNat (toNat_ofNat_digit hdigit)).trans (Char.ofNat_toNat c)

theorem scanNat_decimal (h : ∀ b ∈ rest.head?, isDigit b = false) :
    scanNat (decimal n ++ rest) = (n, rest) := by
  have hall : ∀ b ∈ decimal n, isDigit b = true := fun b hb => isDigit_of_mem_decimal hb
  have hnone : rest.takeWhile isDigit = [] ∧ rest.dropWhile isDigit = rest := by
    cases rest with
    | nil => exact ⟨rfl, rfl⟩
    | cons b rest =>
        have hb := h b rfl
        exact ⟨List.takeWhile_cons_of_neg (by rw [hb]; decide),
          List.dropWhile_cons_of_neg (by rw [hb]; decide)⟩
  unfold scanNat
  rw [List.takeWhile_append_of_pos hall, List.dropWhile_append_of_pos hall, hnone.1, hnone.2,
    List.append_nil, map_decimal, Nat.ofDigitChars_toDigits (by decide) (by decide)]

end

/-! ## Quoted strings -/

/-- How the characters of a string are written between quotes: some of them as a letter
behind a mark. -/
structure Escaping (α : Type) where
  mark : α
  quote : α
  /-- the letter that stands for an escaped character -/
  letter : α → Option α
  /-- the character that a letter stands for -/
  value : α → α
  mark_ne_quote : mark ≠ quote
  letter_mark : letter mark ≠ none
  letter_quote : letter quote ≠ none
  value_letter : ∀ a c, letter a = some c → value c = a

namespace Escaping

variable {α : Type} (E : Escaping α)

/-- One character as it is written. -/
def escapeOne (a : α) : List α :=
  match E.letter a with
  | none => [a]
  | some c => [E.mark, c]

/-- A string as it is written. -/
def escape (s : List α) : List α := s.flatMap E.escapeOne

theorem length_escape_le (s : List α) : (E.escape s).length ≤ 2 * s.length := by
  unfold escape
  induction s with
  | nil => exact Nat.le_refl 0
  | cons a s ih =>
      have hone : (E.escapeOne a).length ≤ 2 := by
        unfold escapeOne
        split
        · exact Nat.le_succ 1
        · exact Nat.le_refl 2
      rw [List.flatMap_cons, List.length_append, List.length_cons]
      omega

variable [DecidableEq α]

/-- The string up to the closing quote, and what follows the quote; `marked` says whether
a mark has just been read. -/
def scan (marked : Bool) : List α → Option (List α × List α)
  | [] => none
  | a :: rest =>
      if marked then (scan false rest).map (fun p => (E.value a :: p.1, p.2))
      else if a = E.quote then some ([], rest)
      else if a = E.mark then scan true rest
      else (scan false rest).map (fun p => (a :: p.1, p.2))

variable {E} {rest : List α}

theorem scan_escapeOne (a : α) :
    E.scan false (E.escapeOne a ++ rest) =
      (E.scan false rest).map (fun p => (a :: p.1, p.2)) := by
  unfold escapeOne
  cases h : E.letter a with
  | none =>
      have hquote : a ≠ E.quote := fun heq => E.letter_quote (heq ▸ h)
      have hmark : a ≠ E.mark := fun heq => E.letter_mark (heq ▸ h)
      show E.scan false (a :: rest) = _
      rw [scan, if_neg Bool.false_ne_true, if_neg hquote, if_neg hmark]
  | some c =>
      show E.scan false (E.mark :: c :: rest) = _
      rw [scan, if_neg Bool.false_ne_true, if_neg E.mark_ne_quote, if_pos rfl, scan, if_pos rfl,
        E.value_letter a c h]

theorem scan_escape (s rest : List α) :
    E.scan false (E.escape s ++ E.quote :: rest) = some (s, rest) := by
  induction s with
  | nil =>
      show E.scan false (E.quote :: rest) = _
      rw [scan, if_neg Bool.false_ne_true, if_pos rfl]
  | cons a s ih =>
      unfold escape at ih ⊢
      rw [List.flatMap_cons, List.append_assoc, scan_escapeOne, ih]
      rfl

end Escaping

end PlayFrame.Lib
