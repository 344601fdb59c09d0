/-
# `PlayFrame.Lib.Heap` — sifting in a binary heap whose elements know their position

A binary min-heap kept in an array, together with a table `back` that records,
for the slot of every element, the position the element stands at.  Moving an
element writes both tables (`BackHeap.put`), so the two have to stay consistent
through every sift.

Both sifts work on a *hole*: the cell at position `hole` is being overwritten
and the element `x` has not been placed yet.  What a sift may assume of the
cells around the hole is `UpHole` or `DownHole` (the order) and `HoleBack` (the
table); what it leaves is `Sifted`, which is also all a user has to know:

    order     the array is a min-heap below `n`
    back      every element below `n` is recorded at its position
    content   the elements below `n` are the old ones outside the hole, and `x`
    frame     cells at or above `n`, and table entries of foreign slots, stay

Nothing here is about timers: the elements, their keys and their slots are
parameters.
-/
import Mathlib.Order.Lattice
import Mathlib.Logic.Function.Basic
import Mathlib.Tactic.Common

namespace PlayFrame.Lib

/-! ## Positions -/

/-- The parent of a position; the root is its own parent. -/
def parentPos (i : Nat) : Nat := (i - 1) / 2

/-- The left child of a position; the right child is the next one. -/
def leftPos (i : Nat) : Nat := 2 * i + 1

theorem parentPos_lt {i : Nat} (h : 0 < i) : parentPos i < i := by
  unfold parentPos; omega

theorem parentPos_le (i : Nat) : parentPos i ≤ i := by
  unfold parentPos; omega

theorem parentPos_eq_iff {c p : Nat} (h : 0 < c) :
    parentPos c = p ↔ c = leftPos p ∨ c = leftPos p + 1 := by
  unfold parentPos leftPos; omega

theorem lt_leftPos (p : Nat) : p < leftPos p := by
  unfold leftPos; omega

/-! ## The heap and its sifts -/

/-- An array of elements and the table of the positions they stand at. -/
structure BackHeap (α : Type*) where
  elems : Nat → α
  back : Nat → Int

variable {α β : Type*}

/-- Move `x` to `pos`: the array cell and the table entry of its slot. -/
def BackHeap.put (slot : α → Nat) (h : BackHeap α) (pos : Nat) (x : α) : BackHeap α where
  elems := Function.update h.elems pos x
  back := Function.update h.back (slot x) pos

section
variable (slot : α → Nat) (h : BackHeap α) (pos : Nat) (x : α)

@[simp] theorem put_elems_same : (h.put slot pos x).elems pos = x := by
  simp [BackHeap.put]

theorem put_elems_of_ne {i : Nat} (hi : i ≠ pos) : (h.put slot pos x).elems i = h.elems i := by
  simp [BackHeap.put, hi]

@[simp] theorem put_back_same : (h.put slot pos x).back (slot x) = pos := by
  simp [BackHeap.put]

theorem put_back_of_ne {k : Nat} (hk : k ≠ slot x) : (h.put slot pos x).back k = h.back k := by
  simp [BackHeap.put, hk]

end

variable [LinearOrder β] (key : α → β) (slot : α → Nat)

/-- Move the hole at `pos` up past every larger parent, then place `x`.
The fuel `pos` is enough, and with fuel `0` the hole is at the root. -/
def siftUp : Nat → BackHeap α → α → Nat → BackHeap α
  | 0, h, x, pos => h.put slot pos x
  | fuel + 1, h, x, pos =>
      if 0 < pos ∧ key x < key (h.elems (parentPos pos)) then
        siftUp fuel (h.put slot pos (h.elems (parentPos pos))) x (parentPos pos)
      else h.put slot pos x

/-- The smaller child of a position; the right one when the two are level. -/
def minChild (h : BackHeap α) (n c : Nat) : Nat :=
  if c + 1 < n ∧ key (h.elems (c + 1)) ≤ key (h.elems c) then c + 1 else c

/-- Move the hole at `pos` down past every child that is not larger, then place
`x`.  The fuel `n - pos` is enough. -/
def siftDown (n : Nat) : Nat → BackHeap α → α → Nat → BackHeap α
  | 0, h, x, pos => h.put slot pos x
  | fuel + 1, h, x, pos =>
      if leftPos pos < n ∧ key (h.elems (minChild key h n (leftPos pos))) ≤ key x then
        siftDown n fuel (h.put slot pos (h.elems (minChild key h n (leftPos pos)))) x
          (minChild key h n (leftPos pos))
      else h.put slot pos x

/-! ## Invariants -/

/-- The min-heap order of the first `n` cells. -/
def Ordered (n : Nat) (h : BackHeap α) : Prop :=
  ∀ i, 0 < i → i < n → key (h.elems (parentPos i)) ≤ key (h.elems i)

/-- Every element of the first `n` cells is recorded at its position. -/
def Backed (n : Nat) (h : BackHeap α) : Prop :=
  ∀ i, i < n → h.back (slot (h.elems i)) = i

/-- What both sifts assume of the order: pairs that do not touch the hole are in
order, and the hole may be bridged from its parent to its children. -/
structure HoleOrder (n hole : Nat) (h : BackHeap α) : Prop where
  off : ∀ i, 0 < i → i < n → i ≠ hole → parentPos i ≠ hole →
    key (h.elems (parentPos i)) ≤ key (h.elems i)
  bridge : 0 < hole → ∀ c, 0 < c → c < n → parentPos c = hole →
    key (h.elems (parentPos hole)) ≤ key (h.elems c)

/-- The hole may go up: `x` is not above any child of the hole. -/
structure UpHole (n hole : Nat) (h : BackHeap α) (x : α) : Prop extends
    HoleOrder key n hole h where
  below : ∀ c, 0 < c → c < n → parentPos c = hole → key x ≤ key (h.elems c)

/-- The hole may go down: `x` is not below the parent of the hole. -/
structure DownHole (n hole : Nat) (h : BackHeap α) (x : α) : Prop extends
    HoleOrder key n hole h where
  above : 0 < hole → key (h.elems (parentPos hole)) ≤ key x

/-- The table with a hole: right outside the hole, and `x` owns a slot of its own. -/
structure HoleBack (n hole : Nat) (h : BackHeap α) (x : α) : Prop where
  lt : hole < n
  back : ∀ i, i < n → i ≠ hole → h.back (slot (h.elems i)) = i
  own : ∀ i, i < n → i ≠ hole → slot (h.elems i) ≠ slot x

/-- What a sift of `x` from the hole of `h` leaves. -/
structure Sifted (n hole : Nat) (h : BackHeap α) (x : α) (h' : BackHeap α) : Prop where
  order : Ordered key n h'
  back : Backed slot n h'
  content : ∀ y, (∃ i < n, h'.elems i = y) ↔ y = x ∨ ∃ i < n, i ≠ hole ∧ h.elems i = y
  beyond : ∀ i, n ≤ i → h'.elems i = h.elems i
  frame : ∀ k, k ≠ slot x → (∀ i < n, i ≠ hole → slot (h.elems i) ≠ k) → h'.back k = h.back k

section
variable {key slot}
variable {n hole : Nat} {h h' : BackHeap α} {x : α}

theorem Backed.pos_inj (hb : Backed slot n h) {i j : Nat} (hi : i < n) (hj : j < n)
    (hs : slot (h.elems i) = slot (h.elems j)) : i = j := by
  have h₁ := hb i hi
  rw [hs, hb j hj] at h₁
  exact_mod_cast h₁.symm

theorem Ordered.root_le (ho : Ordered key n h) :
    ∀ i, i < n → key (h.elems 0) ≤ key (h.elems i) := by
  intro i
  induction i using Nat.strongRecOn with
  | ind i ih =>
    intro hi
    rcases Nat.eq_zero_or_pos i with rfl | hpos
    · exact le_refl _
    · have hp := parentPos_lt hpos
      exact (ih _ hp (Nat.lt_trans hp hi)).trans (ho i hpos hi)

/-! ## One move of the hole -/

theorem HoleBack.move (hb : HoleBack slot n hole h x) {p : Nat} (hp : p < n) (hne : p ≠ hole) :
    HoleBack slot n p (h.put slot hole (h.elems p)) x where
  lt := hp
  back := by
    intro i hi hip
    by_cases hih : i = hole
    · subst hih; simp
    · have hs : slot (h.elems i) ≠ slot (h.elems p) := by
        intro hs
        have h₁ := hb.back i hi hih
        rw [hs, hb.back p hp hne] at h₁
        exact hip (by exact_mod_cast h₁.symm)
      rw [put_elems_of_ne _ _ _ _ hih, put_back_of_ne _ _ _ _ hs]
      exact hb.back i hi hih
  own := by
    intro i hi hip
    by_cases hih : i = hole
    · subst hih; simpa using hb.own p hp hne
    · rw [put_elems_of_ne _ _ _ _ hih]; exact hb.own i hi hih

theorem content_move {p : Nat} (hhole : hole < n) (hp : p < n) (hne : p ≠ hole) (y : α) :
    (∃ i < n, i ≠ p ∧ (h.put slot hole (h.elems p)).elems i = y) ↔
      ∃ i < n, i ≠ hole ∧ h.elems i = y := by
  constructor
  · rintro ⟨i, hi, hip, rfl⟩
    by_cases hih : i = hole
    · subst hih; exact ⟨p, hp, hne, by simp⟩
    · exact ⟨i, hi, hih, by rw [put_elems_of_ne _ _ _ _ hih]⟩
  · rintro ⟨i, hi, hih, rfl⟩
    by_cases hip : i = p
    · subst hip; exact ⟨hole, hhole, hne.symm, by simp⟩
    · exact ⟨i, hi, hip, by rw [put_elems_of_ne _ _ _ _ hih]⟩

theorem Sifted.of_move (hb : HoleBack slot n hole h x) {p : Nat} (hp : p < n) (hne : p ≠ hole)
    (hs : Sifted key slot n p (h.put slot hole (h.elems p)) x h') :
    Sifted key slot n hole h x h' where
  order := hs.order
  back := hs.back
  content := by
    intro y
    rw [hs.content y, content_move hb.lt hp hne]
  beyond := by
    intro i hi
    have hih : i ≠ hole := by have := hb.lt; omega
    rw [hs.beyond i hi, put_elems_of_ne _ _ _ _ hih]
  frame := by
    intro k hk hforeign
    have hkp : k ≠ slot (h.elems p) := fun e => hforeign p hp hne e.symm
    rw [hs.frame k hk, put_back_of_ne _ _ _ _ hkp]
    intro i hi hip
    by_cases hih : i = hole
    · subst hih; simpa using hkp.symm
    · rw [put_elems_of_ne _ _ _ _ hih]; exact hforeign i hi hih

theorem Sifted.of_put (hb : HoleBack slot n hole h x)
    (hord : Ordered key n (h.put slot hole x)) :
    Sifted key slot n hole h x (h.put slot hole x) where
  order := hord
  back := by
    intro i hi
    by_cases hih : i = hole
    · subst hih; simp
    · rw [put_elems_of_ne _ _ _ _ hih, put_back_of_ne _ _ _ _ (hb.own i hi hih)]
      exact hb.back i hi hih
  content := by
    intro y
    constructor
    · rintro ⟨i, hi, rfl⟩
      by_cases hih : i = hole
      · subst hih; exact Or.inl (by simp)
      · exact Or.inr ⟨i, hi, hih, by rw [put_elems_of_ne _ _ _ _ hih]⟩
    · rintro (rfl | ⟨i, hi, hih, rfl⟩)
      · exact ⟨hole, hb.lt, by simp⟩
      · exact ⟨i, hi, by rw [put_elems_of_ne _ _ _ _ hih]⟩
  beyond := by
    intro i hi
    have hih : i ≠ hole := by have := hb.lt; omega
    rw [put_elems_of_ne _ _ _ _ hih]
  frame := fun k hk _ => put_back_of_ne _ _ _ _ hk

/-! ## Sifting up -/

theorem UpHole.move (hu : UpHole key n hole h x) (hlt : hole < n) (hpos : 0 < hole)
    (hx : key x < key (h.elems (parentPos hole))) :
    UpHole key n (parentPos hole) (h.put slot hole (h.elems (parentPos hole))) x := by
  have hp := parentPos_lt hpos
  -- a child of the parent is the hole itself or was in order with the parent
  have hchild : ∀ c, 0 < c → c < n → parentPos c = parentPos hole →
      key (h.elems (parentPos hole)) ≤
        key ((h.put slot hole (h.elems (parentPos hole))).elems c) := by
    intro c hc hcn hcp
    by_cases hch : c = hole
    · subst hch; simp
    · rw [put_elems_of_ne _ _ _ _ hch, ← hcp]
      exact hu.off c hc hcn hch (by omega)
  refine { off := ?_, bridge := ?_, below := ?_ }
  · intro i hi hin hip hpi
    by_cases hih : i = hole
    · exact absurd (by rw [hih]) hpi
    · rw [put_elems_of_ne _ _ _ _ hih]
      by_cases hph : parentPos i = hole
      · rw [hph, put_elems_same]; exact hu.bridge hpos i hi hin hph
      · rw [put_elems_of_ne _ _ _ _ hph]; exact hu.off i hi hin hih hph
  · intro hpos' c hc hcn hcp
    have hpp := parentPos_lt hpos'
    rw [put_elems_of_ne _ _ _ _ (by omega : parentPos (parentPos hole) ≠ hole)]
    exact (hu.off _ hpos' (by omega) (by omega) (by omega)).trans (hchild c hc hcn hcp)
  · exact fun c hc hcn hcp => hx.le.trans (hchild c hc hcn hcp)

theorem UpHole.finish (hu : UpHole key n hole h x)
    (hstop : 0 < hole → key (h.elems (parentPos hole)) ≤ key x) :
    Ordered key n (h.put slot hole x) := by
  intro i hi hin
  by_cases hih : i = hole
  · subst hih
    have hp := parentPos_lt hi
    rw [put_elems_same, put_elems_of_ne _ _ _ _ (by omega : parentPos i ≠ i)]
    exact hstop hi
  · rw [put_elems_of_ne _ _ _ _ hih]
    by_cases hph : parentPos i = hole
    · rw [hph, put_elems_same]; exact hu.below i hi hin hph
    · rw [put_elems_of_ne _ _ _ _ hph]; exact hu.off i hi hin hih hph

/-- **Sifting up.**  With fuel for its position the hole ends where `x` fits. -/
theorem siftUp_sifted : ∀ (fuel : Nat) {hole : Nat} {h : BackHeap α}, hole ≤ fuel →
    UpHole key n hole h x → HoleBack slot n hole h x →
    Sifted key slot n hole h x (siftUp key slot fuel h x hole)
  | 0, hole, h, hf, hu, hb => Sifted.of_put hb (hu.finish (fun h0 => absurd h0 (by omega)))
  | fuel + 1, hole, h, hf, hu, hb => by
      unfold siftUp
      split
      · next hc =>
        have hp := parentPos_lt hc.1
        have hpn : parentPos hole < n := Nat.lt_trans hp hb.lt
        exact Sifted.of_move hb hpn (by omega)
          (siftUp_sifted fuel (by omega) (hu.move hb.lt hc.1 hc.2) (hb.move hpn (by omega)))
      · next hc =>
        exact Sifted.of_put hb (hu.finish (fun h0 => not_lt.mp (fun hx => hc ⟨h0, hx⟩)))

/-! ## Sifting down -/

theorem minChild_cases (key : α → β) (h : BackHeap α) (n c : Nat) :
    minChild key h n c = c ∨ minChild key h n c = c + 1 ∧ c + 1 < n := by
  unfold minChild
  split
  · next hc => exact Or.inr ⟨rfl, hc.1⟩
  · exact Or.inl rfl

theorem minChild_lt (key : α → β) (h : BackHeap α) {c : Nat} (hc : c < n) :
    minChild key h n c < n := by
  rcases minChild_cases key h n c with e | ⟨e, hlt⟩ <;> omega

theorem parentPos_minChild (p : Nat) : parentPos (minChild key h n (leftPos p)) = p := by
  unfold parentPos
  rcases minChild_cases key h n (leftPos p) with e | ⟨e, -⟩ <;>
    rw [e] <;> unfold leftPos <;> omega

theorem minChild_le {c p : Nat} (hc : 0 < c) (hcn : c < n) (hcp : parentPos c = p) :
    key (h.elems (minChild key h n (leftPos p))) ≤ key (h.elems c) := by
  unfold minChild
  rcases (parentPos_eq_iff hc).mp hcp with rfl | rfl
  · split
    · next hm => exact hm.2
    · exact le_refl _
  · split
    · exact le_refl _
    · next hm => exact le_of_not_ge (fun hle => hm ⟨hcn, hle⟩)

theorem DownHole.move (hd : DownHole key n hole h x) (hlt : hole < n)
    (hleft : leftPos hole < n)
    (hx : key (h.elems (minChild key h n (leftPos hole))) ≤ key x) :
    DownHole key n (minChild key h n (leftPos hole))
      (h.put slot hole (h.elems (minChild key h n (leftPos hole)))) x := by
  have hcp : parentPos (minChild key h n (leftPos hole)) = hole := parentPos_minChild hole
  have hcn : minChild key h n (leftPos hole) < n := minChild_lt key h hleft
  have hmin : ∀ s, 0 < s → s < n → parentPos s = hole →
      key (h.elems (minChild key h n (leftPos hole))) ≤ key (h.elems s) :=
    fun s hs hsn hsp => minChild_le hs hsn hsp
  generalize minChild key h n (leftPos hole) = c at hcp hcn hmin hx ⊢
  have hc0 : 0 < c ∨ c = 0 := by omega
  refine { off := ?_, bridge := ?_, above := ?_ }
  · intro i hi hin hic hpi
    by_cases hih : i = hole
    · subst hih
      have hp := parentPos_lt hi
      rw [put_elems_same, put_elems_of_ne _ _ _ _ (by omega : parentPos i ≠ i)]
      rcases hc0 with hc0 | rfl
      · exact hd.bridge hi c hc0 hcn hcp
      · exact absurd hcp (by unfold parentPos; omega)
    · rw [put_elems_of_ne _ _ _ _ hih]
      by_cases hph : parentPos i = hole
      · rw [hph, put_elems_same]; exact hmin i hi hin hph
      · rw [put_elems_of_ne _ _ _ _ hph]; exact hd.off i hi hin hih hph
  · intro hcpos d hd0 hdn hdp
    have hne : d ≠ hole := by
      rintro rfl
      have h₁ := parentPos_le c
      have h₂ := parentPos_le d
      have h₃ := parentPos_lt hcpos
      omega
    have hch : parentPos d ≠ hole := by
      have h₃ := parentPos_lt hcpos
      omega
    rw [hcp, put_elems_same, put_elems_of_ne _ _ _ _ hne, ← hdp]
    exact hd.off d hd0 hdn hne hch
  · intro hcpos
    rw [hcp, put_elems_same]; exact hx

theorem DownHole.finish (hd : DownHole key n hole h x)
    (hstop : ∀ c, 0 < c → c < n → parentPos c = hole → key x ≤ key (h.elems c)) :
    Ordered key n (h.put slot hole x) :=
  UpHole.finish { toHoleOrder := hd.toHoleOrder, below := hstop } hd.above

/-- **Sifting down.**  With fuel for the cells below it the hole ends where `x` fits. -/
theorem siftDown_sifted : ∀ (fuel : Nat) {hole : Nat} {h : BackHeap α}, n ≤ hole + fuel →
    DownHole key n hole h x → HoleBack slot n hole h x →
    Sifted key slot n hole h x (siftDown key slot n fuel h x hole)
  | 0, hole, h, hf, _, hb => absurd hb.lt (by omega)
  | fuel + 1, hole, h, hf, hd, hb => by
      unfold siftDown
      split
      · next hc =>
        have hcn : minChild key h n (leftPos hole) < n := minChild_lt key h hc.1
        have hgt : hole < minChild key h n (leftPos hole) := by
          have := lt_leftPos hole
          rcases minChild_cases key h n (leftPos hole) with e | ⟨e, -⟩ <;> omega
        exact Sifted.of_move hb hcn (by omega)
          (siftDown_sifted fuel (by omega) (hd.move hb.lt hc.1 hc.2) (hb.move hcn (by omega)))
      · next hc =>
        refine Sifted.of_put hb (hd.finish (fun c hc0 hcn hcp => ?_))
        -- the loop stopped: no left child, or the smaller child is above `x`
        rcases Nat.lt_or_ge (leftPos hole) n with hleft | hleft
        · have hx : key x ≤ key (h.elems (minChild key h n (leftPos hole))) :=
            le_of_not_ge (fun hle => hc ⟨hleft, hle⟩)
          exact hx.trans (minChild_le hc0 hcn hcp)
        · rcases (parentPos_eq_iff hc0).mp hcp with rfl | rfl <;> omega

/-! ## Insertion, removal and a changed key

What a user calls: an element is put behind the last one and sifted up; the last
element is moved into the cell of a removed one and sifted whichever way it has to
go; the root gets a larger key and is sifted down. -/

/-- What inserting `x` behind the first `n` cells leaves. -/
structure Inserted (key : α → β) (slot : α → Nat) (n : Nat) (x : α) (h h' : BackHeap α) :
    Prop where
  order : Ordered key (n + 1) h'
  back : Backed slot (n + 1) h'
  content : ∀ y, (∃ i < n + 1, h'.elems i = y) ↔ y = x ∨ ∃ i < n, h.elems i = y
  frame : ∀ k, k ≠ slot x → (∀ i < n, slot (h.elems i) ≠ k) → h'.back k = h.back k
  root : 0 < n → key (h.elems 0) ≤ key x → h'.elems 0 = h.elems 0

/-- What removing the cell `pos` of the first `n + 1` leaves. -/
structure Removed (key : α → β) (slot : α → Nat) (n pos : Nat) (h h' : BackHeap α) :
    Prop where
  order : Ordered key n h'
  back : Backed slot n h'
  content : ∀ y, (∃ i < n, h'.elems i = y) ↔ ∃ i < n + 1, i ≠ pos ∧ h.elems i = y
  frame : ∀ k, (∀ i < n + 1, i ≠ pos → slot (h.elems i) ≠ k) → h'.back k = h.back k
  root : 0 < pos → h'.elems 0 = h.elems 0

/-- Remove the cell `pos` of the first `n + 1`: the last element takes its place. -/
def removeAt (key : α → β) (slot : α → Nat) (n : Nat) (h : BackHeap α) (pos : Nat) :
    BackHeap α :=
  if pos < n then
    if key ((h.put slot pos (h.elems n)).elems (parentPos pos)) ≤ key (h.elems n) then
      siftDown key slot n n (h.put slot pos (h.elems n)) (h.elems n) pos
    else siftUp key slot pos (h.put slot pos (h.elems n)) (h.elems n) pos
  else h

theorem Ordered.mono {m : Nat} (ho : Ordered key n h) (hm : m ≤ n) : Ordered key m h :=
  fun i h0 hi => ho i h0 (Nat.lt_of_lt_of_le hi hm)

theorem Ordered.holeOrder (ho : Ordered key n h) (hlt : hole < n) (y : α) :
    HoleOrder key n hole (h.put slot hole y) where
  off := by
    intro i h0 hi hih hph
    rw [put_elems_of_ne _ _ _ _ hih, put_elems_of_ne _ _ _ _ hph]
    exact ho i h0 hi
  bridge := by
    intro hpos c h0 hc hcp
    have hp := parentPos_lt hpos
    have hcc := parentPos_lt h0
    rw [put_elems_of_ne _ _ _ _ (by omega : parentPos hole ≠ hole),
      put_elems_of_ne _ _ _ _ (by omega : c ≠ hole)]
    have h₁ := ho hole hpos hlt
    have h₂ := ho c h0 hc
    rw [hcp] at h₂
    exact h₁.trans h₂

theorem siftUp_root : ∀ (fuel : Nat) {pos : Nat} {h : BackHeap α}, pos ≤ fuel → 0 < pos →
    key (h.elems 0) ≤ key x → (siftUp key slot fuel h x pos).elems 0 = h.elems 0
  | 0, pos, _, hf, h0, _ => absurd h0 (by omega)
  | fuel + 1, pos, h, hf, h0, hx => by
      have hne : (0 : Nat) ≠ pos := by omega
      unfold siftUp
      split
      · next hc =>
        have hp := parentPos_lt h0
        have hpar : 0 < parentPos pos := by
          rcases Nat.eq_zero_or_pos (parentPos pos) with e | hpar
          · rw [e] at hc; exact absurd hx (not_le.mpr hc.2)
          · exact hpar
        rw [siftUp_root fuel (by omega) hpar (by rw [put_elems_of_ne _ _ _ _ hne]; exact hx),
          put_elems_of_ne _ _ _ _ hne]
      · exact put_elems_of_ne _ _ _ _ hne

theorem siftDown_root : ∀ (fuel : Nat) {pos : Nat} {h : BackHeap α}, 0 < pos →
    (siftDown key slot n fuel h x pos).elems 0 = h.elems 0
  | 0, pos, h, h0 => put_elems_of_ne _ _ _ _ (by omega : (0 : Nat) ≠ pos)
  | fuel + 1, pos, h, h0 => by
      have hne : (0 : Nat) ≠ pos := by omega
      have hchild : 0 < minChild key h n (leftPos pos) := by
        have := lt_leftPos pos
        rcases minChild_cases key h n (leftPos pos) with e | ⟨e, -⟩ <;> omega
      unfold siftDown
      split
      · rw [siftDown_root fuel hchild, put_elems_of_ne _ _ _ _ hne]
      · exact put_elems_of_ne _ _ _ _ hne

theorem siftUp_inserted (ho : Ordered key n h) (hb : Backed slot n h)
    (hown : ∀ i, i < n → slot (h.elems i) ≠ slot x) :
    Inserted key slot n x h (siftUp key slot n h x n) := by
  have hup : UpHole key (n + 1) n h x :=
    { off := fun i h0 hi hin _ => ho i h0 (by omega)
      bridge := fun _ c h0 hc hcp => by have := parentPos_lt h0; omega
      below := fun c h0 hc hcp => by have := parentPos_lt h0; omega }
  have hback : HoleBack slot (n + 1) n h x :=
    { lt := n.lt_succ_self
      back := fun i hi hin => hb i (by omega)
      own := fun i hi hin => hown i (by omega) }
  have hs := siftUp_sifted n (Nat.le_refl n) hup hback
  refine ⟨hs.order, hs.back, fun y => ?_, fun k hk hf => hs.frame k hk (fun i hi hin => ?_),
    fun h0 hx => siftUp_root n (Nat.le_refl n) h0 hx⟩
  · rw [hs.content y]
    refine or_congr_right ⟨?_, ?_⟩
    · rintro ⟨i, hi, hin, rfl⟩; exact ⟨i, by omega, rfl⟩
    · rintro ⟨i, hi, rfl⟩; exact ⟨i, by omega, by omega, rfl⟩
  · exact hf i (by omega)

theorem removeAt_sifted {pos : Nat} (ho : Ordered key (n + 1) h)
    (hb : ∀ i, i < n + 1 → i ≠ pos → h.back (slot (h.elems i)) = i) (hpos : pos < n) :
    Sifted key slot n pos (h.put slot pos (h.elems n)) (h.elems n)
      (removeAt key slot n h pos) := by
  have hown : ∀ i, i < n → i ≠ pos → slot (h.elems i) ≠ slot (h.elems n) := by
    intro i hi hip hs
    have h₁ := hb i (by omega) hip
    rw [hs, hb n (by omega) (by omega)] at h₁
    have : n = i := by exact_mod_cast h₁
    omega
  have hback : HoleBack slot n pos (h.put slot pos (h.elems n)) (h.elems n) :=
    { lt := hpos
      back := fun i hi hip => by
        rw [put_elems_of_ne _ _ _ _ hip, put_back_of_ne _ _ _ _ (hown i hi hip)]
        exact hb i (by omega) hip
      own := fun i hi hip => by
        rw [put_elems_of_ne _ _ _ _ hip]; exact hown i hi hip }
  have hhole : HoleOrder key n pos (h.put slot pos (h.elems n)) :=
    (ho.mono n.le_succ).holeOrder hpos _
  unfold removeAt
  rw [if_pos hpos]
  split
  · next hc =>
    exact siftDown_sifted n (Nat.le_add_left _ _) { hhole with above := fun _ => hc } hback
  · next hc =>
    -- the parent is above `x`, so `x` is below every child of the hole
    refine siftUp_sifted pos (Nat.le_refl pos) { hhole with below := fun c h0 hc' hcp => ?_ } hback
    rcases Nat.eq_zero_or_pos pos with rfl | hpos0
    · exact absurd (by simp [parentPos]) hc
    · exact (not_le.mp hc).le.trans (hhole.bridge hpos0 c h0 hc' hcp)

/-- **Removal.**  The table entry of the removed element need not be right any more. -/
theorem removeAt_removed {pos : Nat} (ho : Ordered key (n + 1) h)
    (hb : ∀ i, i < n + 1 → i ≠ pos → h.back (slot (h.elems i)) = i) (hpos : pos ≤ n) :
    Removed key slot n pos h (removeAt key slot n h pos) := by
  rcases Nat.lt_or_eq_of_le hpos with hlt | rfl
  · have hs := removeAt_sifted ho hb hlt
    refine ⟨hs.order, hs.back, fun y => ?_, fun k hf => ?_, fun h0 => ?_⟩
    · rw [hs.content y]
      constructor
      · rintro (rfl | ⟨i, hi, hip, rfl⟩)
        · exact ⟨n, by omega, by omega, rfl⟩
        · exact ⟨i, by omega, hip, by rw [put_elems_of_ne _ _ _ _ hip]⟩
      · rintro ⟨i, hi, hip, rfl⟩
        rcases Nat.lt_or_eq_of_le (Nat.lt_succ_iff.mp hi) with hin | rfl
        · exact Or.inr ⟨i, hin, hip, by rw [put_elems_of_ne _ _ _ _ hip]⟩
        · exact Or.inl rfl
    · have hk : k ≠ slot (h.elems n) := (hf n (by omega) (by omega)).symm
      rw [hs.frame k hk, put_back_of_ne _ _ _ _ hk]
      intro i hi hip
      rw [put_elems_of_ne _ _ _ _ hip]
      exact hf i (by omega) hip
    · have hne : (0 : Nat) ≠ pos := by omega
      have hroot : (h.put slot pos (h.elems n)).elems 0 = h.elems 0 :=
        put_elems_of_ne _ _ _ _ hne
      unfold removeAt
      rw [if_pos hlt]
      split
      · rw [siftDown_root n h0, hroot]
      · rw [siftUp_root pos (Nat.le_refl pos) h0 (by rw [hroot]; exact ho.root_le n (by omega)), hroot]
  · have he : removeAt key slot pos h pos = h := if_neg (Nat.lt_irrefl pos)
    rw [he]
    refine ⟨ho.mono pos.le_succ, fun i hi => hb i (by omega) (by omega), fun y => ?_,
      fun k _ => rfl, fun _ => rfl⟩
    constructor
    · rintro ⟨i, hi, rfl⟩; exact ⟨i, by omega, by omega, rfl⟩
    · rintro ⟨i, hi, hip, rfl⟩; exact ⟨i, by omega, rfl⟩

/-- **A larger key at the root.**  `key` is the new key; the order is asked only of the
pairs the root is not part of. -/
theorem siftDown_rekeyed (hn : 0 < n) (hb : Backed slot n h)
    (ho : ∀ i, 0 < i → i < n → parentPos i ≠ 0 →
      key (h.elems (parentPos i)) ≤ key (h.elems i)) :
    Sifted key slot n 0 h (h.elems 0) (siftDown key slot n n h (h.elems 0) 0) := by
  refine siftDown_sifted n (Nat.le_add_left _ _)
    { off := fun i h0 hi _ hp => ho i h0 hi hp
      bridge := fun h0 => absurd h0 (Nat.lt_irrefl 0)
      above := fun h0 => absurd h0 (Nat.lt_irrefl 0) }
    { lt := hn
      back := fun i hi _ => hb i hi
      own := fun i hi hi0 hs => hi0 (hb.pos_inj hi hn hs) }

/-! ## Other keys and slots for the same elements -/

theorem Ordered.congr {key' : α → β} (ho : Ordered key n h)
    (hk : ∀ i, i < n → key' (h.elems i) = key (h.elems i)) : Ordered key' n h := by
  intro i h0 hi
  rw [hk _ (Nat.lt_of_le_of_lt (parentPos_le i) hi), hk i hi]
  exact ho i h0 hi

theorem Backed.congr {slot' : α → Nat} (hb : Backed slot n h)
    (hs : ∀ i, i < n → slot' (h.elems i) = slot (h.elems i)) : Backed slot' n h := by
  intro i hi
  rw [hs i hi]
  exact hb i hi

end

end PlayFrame.Lib
