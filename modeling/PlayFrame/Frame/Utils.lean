/-
# `PlayFrame.Frame.Utils` — hashes, checks and generators

`common/frame/utils.{h,cpp}`: what gamesvr uses of it.  `char` is signed, so a byte from
128 on compares as a negative number.  What `rdtsc` and `rand` answer is an argument.
-/
import PlayFrame.Frame.CommDef
import PlayFrame.Lib.Scan

namespace PlayFrame

namespace Utils

/-! ## Strings -/

/-- The value of a `char`. -/
def charVal (b : UInt8) : Int := if b < 128 then b.toNat else (b.toNat : Int) - 256

/-- The `char`s `'0'`, `'9'`, `'A'`, `'Z'`, `'a'` and `'z'`. -/
def char0 : Int := 48
def char9 : Int := 57
def charA : Int := 65
def charZ : Int := 90
def chara : Int := 97
def charz : Int := 122

/-- The test of a character that `CheckAccount` and `CheckPassword` share: it is neither
a digit nor a letter. -/
def notAlnum (c : Int) : Prop :=
  c < char0 ∨ (c > char9 ∧ c < charA) ∨ (c > charZ ∧ c < chara) ∨ c > charz

/-- The test of the first character of an account: it is no letter. -/
def notAlpha (c : Int) : Prop := c < charA ∨ (c > charZ ∧ c < chara) ∨ c > charz

instance (c : Int) : Decidable (notAlnum c) := by
  unfold notAlnum
  infer_instance

instance (c : Int) : Decidable (notAlpha c) := by
  unfold notAlpha
  infer_instance

/-- `Utils::CheckAccount`. -/
def checkAccount (account : Bytes) : Int :=
  if account.length < 6 ∨ account.length > 32 then -1
  else if notAlpha (charVal (account.headD 0)) then -2
  else if account.tail.any (fun b => notAlnum (charVal b)) then -3
  else 0

/-- `Utils::CheckPassword`. -/
def checkPassword (password : Bytes) : Int :=
  if password.length < 4 ∨ password.length > 16 then -1
  else if password.any (fun b => notAlnum (charVal b)) then -2
  else 0

/-- `strncpy(dst, src.c_str(), n)`: the `n` bytes of `dst`. -/
def strncpy (src : Bytes) (n : Nat) : Bytes :=
  let s := (src.takeWhile (· ≠ 0)).take n
  s ++ List.replicate (n - s.length) 0

/-- The C string at the front of a piece of memory; a string without an end runs out
of it. -/
def cString (memory : Bytes) : Result Bytes :=
  if memory.any (· == 0) then .ok (memory.takeWhile (· ≠ 0)) else .error .outOfBounds

/-- `Utils::ToString` of an unsigned number: its decimal digits. -/
def toString (n : UInt64) : Bytes := (Nat.toDigits 10 n.toNat).map (fun c => UInt8.ofNat c.toNat)

/-- `isspace`. -/
def isSpace (b : UInt8) : Bool := b = 32 || (9 ≤ b && b ≤ 13)

/-- The number that `>>` reads from a text that has a character: a sign, and digits.  One that
does not fit is the largest there is, and one without digits is 0. -/
def readUnsigned (text : Bytes) : UInt64 :=
  let negative := text.head? = some 45
  let digits := if text.head? = some 43 ∨ negative then text.tail else text
  let n := (Lib.scanNat digits).1
  if n ≥ 18446744073709551616 then 18446744073709551615
  else if negative then -UInt64.ofNat n
  else UInt64.ofNat n

/-- `Utils::ToNumber<uint64_t>`.  `raw` is what its local variable holds, which `>>` does not
write to when only white space is left. -/
def toNumber (raw : UInt64) (input : Bytes) : UInt64 :=
  match input.dropWhile isSpace with
  | [] => raw
  | text => readUnsigned text

/-! ## Fnv64aHash -/

/-- One round of the loop of `Fnv64aHash`. -/
def fnvRound (hval : UInt64) (b : UInt8) : UInt64 :=
  let hval := hval ^^^ b.toUInt64
  hval + ((hval <<< 1) + (hval <<< 4) + (hval <<< 5) + (hval <<< 7) + (hval <<< 8) + (hval <<< 40))

/-- `Utils::Fnv64aHash`. -/
def fnv64aHash (buf : Bytes) : UInt64 := buf.foldl fnvRound 0xcbf29ce484222325

/-! ## Generators -/

/-- `Utils::BitSwap64`. -/
def bitSwap64 (num : UInt64) (m n : Int) : UInt64 :=
  if m < 0 ∨ m > 63 ∨ n < 0 ∨ n > 63 then num
  else
    let bitM : UInt64 := 1 <<< UInt64.ofInt m
    let bitN : UInt64 := 1 <<< UInt64.ofInt n
    if num &&& bitM = num &&& bitN then num
    else num ^^^ (bitM ||| bitN)

/-- `Utils::GenUidNum`, where `rdtsc` is what `Rdtsc` answers. -/
def genUidNum (rdtsc : UInt64) : UInt64 :=
  [(2, 3), (5, 7), (11, 13), (17, 19), (23, 29), (31, 37), (41, 43), (47, 53), (59, 61)].foldl
    (fun num mn => bitSwap64 num mn.1 mn.2) rdtsc

/-- `Utils::GenPassword8`, where `rand k` is what the `k`-th `rand()` answers. -/
def genPassword8 (rand : Nat → Nat) : Bytes :=
  (List.range 8).map (fun i => UInt8.ofNat (rand i % 10 + 48))

end Utils

end PlayFrame
