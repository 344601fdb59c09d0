/-
# `PlayFrame.Frame.Uid` — which inputs get one uid

An account that is made for a device has a uid of `GenUidNum`, an account with a name the hash
`Fnv64aHash` of the name.

`BitSwap64` compares the two bits where they are, so it takes two bits that are both set for
different ones and clears them (`bits_bitSwap64`); two readings of the time stamp counter
get the same uid exactly when they are merged by this (`genUidNum_eq_iff`).  `Fnv64aHash` is FNV-1a
(`fnv64aHash_toNat`): each round is injective in the value it goes on from, so one byte that is
different keeps the hashes apart (`fnv64aHash_ne`).
-/
import PlayFrame.Frame.Utils
import PlayFrame.Lib.BitPairs

namespace PlayFrame

namespace Utils

open Lib

/-! ## The bits of a word -/

/-- The bits of a number. -/
def bits (num : UInt64) (i : Fin 64) : Bool := num.toBitVec.getLsbD i

theorem bits_injective : Function.Injective bits := by
  intro x y h
  refine UInt64.toBitVec_inj.mp (BitVec.eq_of_getLsbD_eq fun i hi => ?_)
  exact congrFun h ⟨i, hi⟩

section
variable {x y num : UInt64} {m n i : Fin 64}

theorem bits_and : bits (x &&& y) i = (bits x i && bits y i) := by simp [bits]

theorem bits_xor : bits (x ^^^ y) i = (bits x i ^^ bits y i) := by simp [bits]

theorem bits_or : bits (x ||| y) i = (bits x i || bits y i) := by simp [bits]

theorem bits_shift (m i : Fin 64) : bits (1 <<< UInt64.ofInt m) i = decide (i = m) := by
  have hm : (UInt64.ofInt (m : Int)).toNat = m := by
    simp [UInt64.ofInt]
    omega
  have hpow : ((1 : UInt64) <<< UInt64.ofInt (m : Int)).toBitVec = BitVec.twoPow 64 m := by
    simp [UInt64.toBitVec_shiftLeft, BitVec.twoPow, hm, Nat.mod_eq_of_lt m.isLt]
  rw [bits, hpow, BitVec.getLsbD_twoPow]
  simp [Fin.ext_iff, eq_comm]

theorem masked_eq_iff :
    num &&& 1 <<< UInt64.ofInt m = num &&& 1 <<< UInt64.ofInt n ↔
      m = n ∨ (bits num m = false ∧ bits num n = false) := by
  constructor
  · intro h
    refine or_iff_not_imp_left.mpr fun hmn => ?_
    have hm := congrArg (bits · m) h
    have hn := congrArg (bits · n) h
    simp only [bits_and, bits_shift] at hm hn
    simpa [hmn, Ne.symm hmn] using And.intro hm hn
  · rintro (rfl | ⟨hm, hn⟩)
    · rfl
    · refine bits_injective (funext fun i => ?_)
      rw [bits_and, bits_and, bits_shift, bits_shift]
      have hi : ∀ j, bits num j = false → (bits num i && decide (i = j)) = false := by
        rintro j hj
        by_cases hij : i = j
        · rw [hij, hj, Bool.false_and]
        · rw [decide_eq_false hij, Bool.and_false]
      rw [hi m hm, hi n hn]

/-- **`BitSwap64` turns the two bits over when one of them is set.** -/
theorem bits_bitSwap64 (num : UInt64) (m n : Fin 64) :
    bits (bitSwap64 num m n) = turn m n (bits num) := by
  have hrange : ¬ ((m : Int) < 0 ∨ (m : Int) > 63 ∨ (n : Int) < 0 ∨ (n : Int) > 63) := by omega
  funext i
  simp only [bitSwap64, if_neg hrange, turn, masked_eq_iff]
  split
  · rfl
  · rw [bits_xor, bits_or, bits_shift, bits_shift]
    by_cases h : i = m ∨ i = n <;> simp [h, ← Bool.decide_or]

end

/-! ## `GenUidNum` -/

/-- The bits that `GenUidNum` swaps. -/
def uidPairs : List (Fin 64 × Fin 64) :=
  [(2, 3), (5, 7), (11, 13), (17, 19), (23, 29), (31, 37), (41, 43), (47, 53), (59, 61)]

theorem places_uidPairs : (places uidPairs).Nodup := by decide

theorem bits_foldl_bitSwap64 (ps : List (Fin 64 × Fin 64)) (num : UInt64) :
    bits (ps.foldl (fun num p => bitSwap64 num (p.1 : Nat) (p.2 : Nat)) num) =
      turnAll ps (bits num) := by
  induction ps generalizing num with
  | nil => rfl
  | cons p ps ih => exact (ih _).trans (congrArg (turnAll ps) (bits_bitSwap64 num p.1 p.2))

theorem bits_genUidNum (rdtsc : UInt64) :
    bits (genUidNum rdtsc) = turnAll uidPairs (bits rdtsc) :=
  bits_foldl_bitSwap64 uidPairs rdtsc

theorem genUidNum_eq_iff (x y : UInt64) :
    genUidNum x = genUidNum y ↔ Merged uidPairs (bits x) (bits y) := by
  rw [← bits_injective.eq_iff, bits_genUidNum, bits_genUidNum]
  exact turnAll_eq_iff places_uidPairs

/-- **`BitSwap64` exchanges two bits unless both are set, and `GenUidNum` gives two readings
different uids unless they are merged.** -/
theorem genUidNum_ne_iff (num : UInt64) (m n : Fin 64) (x y : UInt64) :
    (bits (bitSwap64 num m n) = bits num ∘ Equiv.swap m n ↔
      m = n ∨ ¬ (bits num m = true ∧ bits num n = true)) ∧
    ((x ≠ y → genUidNum x ≠ genUidNum y) ↔ x = y ∨ ¬ Merged uidPairs (bits x) (bits y)) ∧
    ¬ Function.Bijective genUidNum := by
  refine ⟨?_, ?_, fun h => ?_⟩
  · rw [bits_bitSwap64]
    exact turn_eq_swap_iff
  · rw [← genUidNum_eq_iff]
    exact or_iff_not_imp_left.symm
  · have hmerged : genUidNum 12 = genUidNum 0 := by decide
    exact absurd (h.injective hmerged) (by decide)

/-- Bits 2 and 3 of 12 are set: they are cleared, and 12 gets the uid of 0. -/
theorem genUidNum_twelve :
    bits 12 2 = true ∧ bits 12 3 = true ∧ bitSwap64 12 2 3 = 0 ∧
    bits (bitSwap64 12 2 3) 2 = false ∧ genUidNum 12 = genUidNum 0 ∧ (12 : UInt64) ≠ 0 := by
  decide

/-! ## `Fnv64aHash` -/

/-- The prime of FNV-1a for 64 bits. -/
def fnvPrime : UInt64 := 0x100000001b3

theorem fnvRound_eq (hval : UInt64) (b : UInt8) :
    fnvRound hval b = (hval ^^^ b.toUInt64) * fnvPrime := by
  unfold fnvRound fnvPrime
  generalize hval ^^^ b.toUInt64 = h
  refine UInt64.toNat_inj.mp ?_
  simp only [UInt64.toNat_add, UInt64.toNat_shiftLeft, UInt64.toNat_mul, Nat.shiftLeft_eq,
    UInt64.reduceToNat, Nat.reduceMod, Nat.reducePow]
  omega

/-- The prime is odd, so a product with it can be taken back. -/
theorem mul_fnvPrime_injective : Function.Injective (· * fnvPrime) := by
  intro x y h
  have hinv : fnvPrime * 0xce965057aff6957b = 1 := by decide
  have hback := congrArg (· * (0xce965057aff6957b : UInt64)) h
  simpa only [UInt64.mul_assoc, hinv, UInt64.mul_one] using hback

theorem fnvRound_injective (b : UInt8) : Function.Injective (fnvRound · b) := by
  intro x y h
  simp only [fnvRound_eq] at h
  exact (UInt64.xor_left_inj _).mp (mul_fnvPrime_injective h)

theorem fnvRound_ne {a b : UInt8} (hval : UInt64) (h : a ≠ b) :
    fnvRound hval a ≠ fnvRound hval b := by
  intro heq
  rw [fnvRound_eq, fnvRound_eq] at heq
  have hbyte := (UInt64.xor_right_inj _).mp (mul_fnvPrime_injective heq)
  exact h (UInt8.toUInt64_inj.mp hbyte)

theorem foldl_fnvRound_injective (buf : Bytes) : Function.Injective (buf.foldl fnvRound ·) := by
  induction buf with
  | nil => exact fun _ _ h => h
  | cons b buf ih => exact ih.comp (fnvRound_injective b)

theorem toNat_foldl_fnvRound (buf : Bytes) (hval : UInt64) :
    (buf.foldl fnvRound hval).toNat =
      buf.foldl (fun h b => (h ^^^ b.toNat) * 0x100000001b3 % 2 ^ 64) hval.toNat := by
  induction buf generalizing hval with
  | nil => rfl
  | cons b buf ih =>
    have hround : (fnvRound hval b).toNat =
        (hval.toNat ^^^ b.toNat) * 0x100000001b3 % 2 ^ 64 := by
      rw [fnvRound_eq, UInt64.toNat_mul, UInt64.toNat_xor, UInt8.toNat_toUInt64]
      rfl
    rw [List.foldl_cons, List.foldl_cons, ih, hround]

theorem fnv64aHash_toNat (buf : Bytes) :
    (fnv64aHash buf).toNat =
      buf.foldl (fun h b => (h ^^^ b.toNat) * 0x100000001b3 % 2 ^ 64) 0xcbf29ce484222325 :=
  toNat_foldl_fnvRound buf 0xcbf29ce484222325

/-- The buffers have one length and differ in exactly one place. -/
def DifferInOne (xs ys : Bytes) : Prop := xs.length = ys.length ∧ ∃! i : Nat, xs[i]? ≠ ys[i]?

theorem DifferInOne.split {xs ys : Bytes} (h : DifferInOne xs ys) :
    ∃ front a b back, a ≠ b ∧ xs = front ++ a :: back ∧ ys = front ++ b :: back := by
  obtain ⟨hlen, i, hi, hunique⟩ := h
  have hsame : ∀ j, j ≠ i → xs[j]? = ys[j]? := fun j hj => by
    by_contra hne
    exact hj (hunique j hne)
  have hx : i < xs.length := by
    by_contra hge
    exact hi (by rw [List.getElem?_eq_none (by omega), List.getElem?_eq_none (by omega)])
  have hy : i < ys.length := hlen ▸ hx
  refine ⟨xs.take i, xs[i], ys[i], xs.drop (i + 1), ?_, ?_, ?_⟩
  · rwa [List.getElem?_eq_getElem hx, List.getElem?_eq_getElem hy, Ne, Option.some_inj] at hi
  · rw [← List.drop_eq_getElem_cons hx, List.take_append_drop]
  · have htake : xs.take i = ys.take i := by
      refine List.ext_getElem? fun j => ?_
      rw [List.getElem?_take, List.getElem?_take]
      split
      · exact hsame j (by omega)
      · rfl
    have hdrop : xs.drop (i + 1) = ys.drop (i + 1) := by
      refine List.ext_getElem? fun j => ?_
      rw [List.getElem?_drop, List.getElem?_drop]
      exact hsame _ (by omega)
    rw [htake, hdrop, ← List.drop_eq_getElem_cons hy, List.take_append_drop]

theorem fnv64aHash_ne {xs ys : Bytes} (h : DifferInOne xs ys) : fnv64aHash xs ≠ fnv64aHash ys := by
  obtain ⟨front, a, b, back, hab, rfl, rfl⟩ := h.split
  intro heq
  unfold fnv64aHash at heq
  rw [List.foldl_append, List.foldl_append, List.foldl_cons, List.foldl_cons] at heq
  exact fnvRound_ne _ hab (foldl_fnvRound_injective back heq)

end Utils

end PlayFrame
