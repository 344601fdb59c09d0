/-
# `PlayFrame.Lib.FreeList` — free lists threaded through the table they manage

A table `link : Nat → Int` keeps a non-negative value for a slot in use and, for
a free slot, the negated number of the next free slot.  The free slots form a
chain that starts at a head stored elsewhere and ends at a stop mark, one past
the last slot.

`FreeList link a l b` says that following the negated links from `a` visits the
slots of `l`, each once, and arrives at `b`.  The lemmas are the operations such
an allocator performs: take the head, put a slot in front, write to a slot that
is not free, and append fresh slots behind the stop mark.
-/
import Mathlib.Logic.Function.Basic
import Mathlib.Data.List.Range
import Mathlib.Data.List.Nodup

namespace PlayFrame.Lib

/-- Following the negated links from `a` visits the slots of `l` and arrives at `b`. -/
inductive Chain (link : Nat → Int) : Int → List Nat → Int → Prop
  | nil (a : Int) : Chain link a [] a
  | cons {k : Nat} {l : List Nat} {b : Int} :
      Chain link (-link k) l b → Chain link k (k :: l) b

/-- A chain that visits no slot twice. -/
structure FreeList (link : Nat → Int) (a : Int) (l : List Nat) (b : Int) : Prop where
  chain : Chain link a l b
  nodup : l.Nodup

variable {link link' : Nat → Int} {a b c : Int} {l l' : List Nat}

/-! ## Chains -/

theorem Chain.congr (h : Chain link a l b) :
    (∀ k ∈ l, link' k = link k) → Chain link' a l b := by
  induction h with
  | nil a => exact fun _ => .nil a
  | @cons k l b _ ih =>
      intro hl
      refine .cons ?_
      rw [hl k List.mem_cons_self]
      exact ih (fun j hj => hl j (List.mem_cons_of_mem _ hj))

theorem Chain.write (h : Chain link a l b) {k : Nat} (hk : k ∉ l) (v : Int) :
    Chain (Function.update link k v) a l b := by
  refine h.congr (fun j hj => Function.update_of_ne ?_ _ _)
  rintro rfl
  exact hk hj

theorem Chain.append (h : Chain link a l b) : Chain link b l' c → Chain link a (l ++ l') c := by
  induction h with
  | nil a => exact fun h' => h'
  | cons _ ih => exact fun h' => .cons (ih h')

theorem Chain.front {back : List Nat} :
    ∀ {front : List Nat} {a : Int}, Chain link a (front ++ back) b → ∃ c, Chain link a front c := by
  intro front
  induction front with
  | nil => exact fun _ => ⟨_, .nil _⟩
  | cons k front ih =>
      intro a h
      cases h with
      | cons hrest =>
          obtain ⟨c, hc⟩ := ih hrest
          exact ⟨c, .cons hc⟩

theorem Chain.range (m : Nat) : ∀ (n : Nat), (∀ k, n ≤ k → k < n + m → link k = -((k : Int) + 1)) →
    Chain link (n : Int) (List.range' n m) ((n + m : Nat) : Int) := by
  induction m with
  | zero => intro n _; exact Chain.nil _
  | succ m ih =>
      intro n hl
      rw [List.range'_succ]
      refine .cons ?_
      have hn : -link n = ((n + 1 : Nat) : Int) := by
        rw [hl n (le_refl n) (by omega)]; push_cast; omega
      have hend : ((n + (m + 1) : Nat) : Int) = ((n + 1 + m : Nat) : Int) := by
        push_cast; omega
      rw [hn, hend]
      exact ih (n + 1) (fun k hk hk' => hl k (by omega) (by omega))

/-! ## Free lists -/

theorem FreeList.head_eq (h : FreeList link a l b) (hl : l ≠ []) :
    ∃ k rest, l = k :: rest ∧ a = k := by
  cases h.chain with
  | nil => exact absurd rfl hl
  | @cons k rest => exact ⟨k, rest, rfl, rfl⟩

theorem FreeList.pop {k : Nat} (h : FreeList link k (k :: l) b) :
    FreeList link (-link k) l b ∧ k ∉ l := by
  obtain ⟨hnot, hnd⟩ := List.nodup_cons.mp h.nodup
  cases h.chain with
  | cons hc => exact ⟨⟨hc, hnd⟩, hnot⟩

theorem FreeList.congr (h : FreeList link a l b) (hl : ∀ k ∈ l, link' k = link k) :
    FreeList link' a l b :=
  ⟨h.chain.congr hl, h.nodup⟩

theorem FreeList.write (h : FreeList link a l b) {k : Nat} (hk : k ∉ l) (v : Int) :
    FreeList (Function.update link k v) a l b :=
  ⟨h.chain.write hk v, h.nodup⟩

theorem FreeList.push (h : FreeList link a l b) {k : Nat} (hk : k ∉ l) :
    FreeList (Function.update link k (-a)) k (k :: l) b where
  chain := by
    refine .cons ?_
    rw [Function.update_self, Int.neg_neg]
    exact h.chain.write hk _
  nodup := List.nodup_cons.mpr ⟨hk, h.nodup⟩

theorem FreeList.grow {n m : Nat} (h : FreeList link a l (n : Int))
    (hl : ∀ k ∈ l, k < n) (hold : ∀ k < n, link' k = link k)
    (hnew : ∀ k, n ≤ k → k < n + m → link' k = -((k : Int) + 1)) :
    FreeList link' a (l ++ List.range' n m) ((n + m : Nat) : Int) where
  chain := (h.chain.congr (fun k hk => hold k (hl k hk))).append (Chain.range m n hnew)
  nodup := by
    refine List.nodup_append.mpr ⟨h.nodup, List.nodup_range', ?_⟩
    intro i hi j hj
    have := hl i hi
    have := (List.mem_range'_1.mp hj).1
    omega

theorem FreeList.init {n m : Nat} (hnew : ∀ k, n ≤ k → k < n + m → link k = -((k : Int) + 1)) :
    FreeList link (n : Int) (List.range' n m) ((n + m : Nat) : Int) :=
  ⟨Chain.range m n hnew, List.nodup_range'⟩

/-! ## Signs: free entries are negative, so a table can tell them from the others -/

theorem Chain.head_pos (h : Chain link a l b) (hb : 0 < b) : (∀ k ∈ l, 0 < k) → 0 < a := by
  cases h with
  | nil => exact fun _ => hb
  | cons _ => exact fun hl => Int.natCast_pos.mpr (hl _ List.mem_cons_self)

theorem Chain.link_neg (h : Chain link a l b) (hb : 0 < b) :
    (∀ k ∈ l, 0 < k) → ∀ k ∈ l, link k < 0 := by
  induction h with
  | nil _ => exact fun _ k hk => absurd hk List.not_mem_nil
  | @cons k l b hc ih =>
      intro hl j hj
      have hrest : ∀ i ∈ l, 0 < i := fun i hi => hl i (List.mem_cons_of_mem _ hi)
      rcases List.mem_cons.mp hj with rfl | hj
      · have := hc.head_pos hb hrest
        omega
      · exact ih hb hrest j hj

end PlayFrame.Lib
