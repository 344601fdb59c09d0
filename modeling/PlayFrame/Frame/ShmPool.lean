/-
# `PlayFrame.Frame.ShmPool` — pools of objects in shared memory

`common/frame/shm_pool.h`.  A pool has `total_unit_count` units, numbered from 1; the
`pos` of a unit in use is its own number, and the `pos` of a free one leads to the next
free unit.  A `T*` or `void*` into the pool is the number of the unit it points to.

The memory of a unit keeps its content when the unit is released, and `Alloc` does not
clear it.
-/
import PlayFrame.Frame.CommDef
import PlayFrame.Lib.FreeList
import Mathlib.Data.List.Perm.Subperm

namespace PlayFrame

open Lib

/-- `class ShmPool<T>`: its `PoolCtrl`. -/
structure ShmPool (α : Type) where
  freeMemPos : Int
  validUnitCount : Nat
  totalUnitCount : Nat
  pos : Nat → Int
  mem : Nat → α

namespace ShmPool

variable {α : Type}

/-- `ShmPool::Init`, of a new segment, whose memory holds `raw`. -/
def init (unitCount : Nat) (raw : Nat → α) : ShmPool α where
  freeMemPos := 1
  validUnitCount := unitCount
  totalUnitCount := unitCount
  pos := fun i => -((i : Int) + 1)
  mem := raw

/-- `ShmPool::PopFreePos`. -/
def popFreePos (s : ShmPool α) : Result (Int × ShmPool α) := do
  let freePos := s.freeMemPos
  let next ← readAt (s.totalUnitCount + 1) s.pos freePos
  let pos ← writeAt (s.totalUnitCount + 1) s.pos freePos freePos
  .ok (freePos, { s with freeMemPos := -next, pos := pos })

/-- `ShmPool::PushFreePos`. -/
def pushFreePos (s : ShmPool α) (freePos : Int) : Result (ShmPool α) := do
  let pos ← writeAt (s.totalUnitCount + 1) s.pos freePos (-s.freeMemPos)
  .ok { s with freeMemPos := freePos, pos := pos }

/-- `ShmPool::Alloc`; `none` is the null pointer. -/
def alloc (s : ShmPool α) : Result (Option Nat × ShmPool α) :=
  if s.validUnitCount > 0 then do
    let (freePos, s) ← s.popFreePos
    .ok (some freePos.toNat, { s with validUnitCount := s.validUnitCount - 1 })
  else .ok (none, s)

/-- `ShmPool::Find`. -/
def find (s : ShmPool α) (index : Int) : Option Nat :=
  if index ≤ 0 ∨ index > s.totalUnitCount then none
  else if s.pos index.toNat ≠ index then none
  else some index.toNat

/-- `ShmPool::Release`. -/
def release (s : ShmPool α) (unit : Nat) : Result (ShmPool α) :=
  if ¬ s.totalUnitCount > s.validUnitCount then .error .checkFailed
  else do
    let pos ← readAt (s.totalUnitCount + 1) s.pos unit
    if ¬ pos > 0 then .error .checkFailed
    else do
      let s ← s.pushFreePos pos
      .ok { s with validUnitCount := s.validUnitCount + 1 }

/-- `ShmPool::GetPos`. -/
def getPos (s : ShmPool α) (unit : Nat) : Result Int := do
  let pos ← readAt (s.totalUnitCount + 1) s.pos unit
  if pos > 0 then .ok pos else .error .checkFailed

/-- A write through a pointer to a unit. -/
def modify (s : ShmPool α) (unit : Nat) (f : α → α) : ShmPool α :=
  { s with mem := Function.update s.mem unit (f (s.mem unit)) }

/-! ## The invariant -/

/-- The unit is in use. -/
def Allocated (s : ShmPool α) (unit : Nat) : Prop :=
  1 ≤ unit ∧ unit ≤ s.totalUnitCount ∧ s.pos unit = unit

instance (s : ShmPool α) (unit : Nat) : Decidable (s.Allocated unit) := by
  unfold Allocated
  infer_instance

/-- The free units are a list that `free_mem_pos` leads through, in the order in which
they will be allocated; the others are in use. -/
structure Inv (s : ShmPool α) (free : List Nat) : Prop where
  free_list : FreeList s.pos s.freeMemPos free ((s.totalUnitCount + 1 : Nat) : Int)
  free_unit : ∀ k ∈ free, 1 ≤ k ∧ k ≤ s.totalUnitCount
  length_free : free.length = s.validUnitCount
  used : ∀ k, 1 ≤ k → k ≤ s.totalUnitCount → k ∉ free → s.pos k = k

/-- A pool in order. -/
def Ok (s : ShmPool α) : Prop := ∃ free, s.Inv free

section
variable {s s' : ShmPool α} {free : List Nat} {k j : Nat}

theorem Inv.free_neg (h : s.Inv free) (hk : k ∈ free) : s.pos k < 0 :=
  h.free_list.chain.link_neg (by omega) (fun j hj => (h.free_unit j hj).1) k hk

theorem Inv.allocated_iff (h : s.Inv free) :
    s.Allocated k ↔ (1 ≤ k ∧ k ≤ s.totalUnitCount) ∧ k ∉ free := by
  constructor
  · rintro ⟨h1, h2, hpos⟩
    refine ⟨⟨h1, h2⟩, fun hk => ?_⟩
    have := h.free_neg hk
    omega
  · rintro ⟨⟨h1, h2⟩, hk⟩
    exact ⟨h1, h2, h.used k h1 h2 hk⟩

theorem init_inv (unitCount : Nat) (raw : Nat → α) :
    (init unitCount raw).Inv (List.range' 1 unitCount) where
  free_list := by
    have h : FreeList (init unitCount raw).pos ((1 : Nat) : Int) (List.range' 1 unitCount)
        ((1 + unitCount : Nat) : Int) := FreeList.init (fun _ _ _ => rfl)
    rw [Nat.add_comm 1 unitCount] at h
    exact h
  free_unit := by
    intro k hk
    have := List.mem_range'_1.mp hk
    exact ⟨this.1, by show k ≤ unitCount; omega⟩
  length_free := List.length_range'
  used := by
    intro k h1 h2 hk
    exact absurd (List.mem_range'_1.mpr ⟨h1, by have : k ≤ unitCount := h2; omega⟩) hk

theorem init_not_allocated {unitCount : Nat} {raw : Nat → α} :
    ¬ (init unitCount raw).Allocated k := by
  rintro ⟨-, -, hpos⟩
  have hneg : (init unitCount raw).pos k = -((k : Int) + 1) := rfl
  omega

/-! ## Alloc -/

theorem alloc_none (h : s.validUnitCount = 0) : s.alloc = .ok (none, s) := by
  unfold alloc
  rw [if_neg (by omega)]

/-- What `Alloc` changes: the head of the free units is in use. -/
structure Grown (s s' : ShmPool α) (k : Nat) : Prop where
  ok : s'.Ok
  total : s'.totalUnitCount = s.totalUnitCount
  mem : s'.mem = s.mem
  valid : s'.validUnitCount + 1 = s.validUnitCount
  fresh : ¬ s.Allocated k
  head : s.freeMemPos = k
  unit : 1 ≤ k ∧ k ≤ s.totalUnitCount
  allocated : ∀ j, s'.Allocated j ↔ s.Allocated j ∨ j = k

theorem alloc_some (h : s.Ok) (hv : 0 < s.validUnitCount) :
    ∃ k s', s.alloc = .ok (some k, s') ∧ Grown s s' k := by
  obtain ⟨free, h⟩ := h
  have hne : free ≠ [] := by
    rintro rfl
    have := h.length_free
    simp only [List.length_nil] at this
    omega
  obtain ⟨k, rest, rfl, hhead⟩ := h.free_list.head_eq hne
  have hfl := h.free_list
  rw [hhead] at hfl
  obtain ⟨hrest, hknot⟩ := hfl.pop
  obtain ⟨hk1, hk2⟩ := h.free_unit k List.mem_cons_self
  have hlt : k < s.totalUnitCount + 1 := by omega
  let s' : ShmPool α :=
    { s with
      freeMemPos := -s.pos k
      pos := Function.update s.pos k k
      validUnitCount := s.validUnitCount - 1 }
  have hinv : s'.Inv rest :=
    { free_list := hrest.write hknot _
      free_unit := fun j hj => h.free_unit j (List.mem_cons_of_mem _ hj)
      length_free := by
        have := h.length_free
        simp only [List.length_cons] at this
        show rest.length = s.validUnitCount - 1
        omega
      used := by
        intro j h1 h2 hj
        show Function.update s.pos k (k : Int) j = j
        by_cases hjk : j = k
        · rw [hjk, Function.update_self]
        · rw [Function.update_of_ne hjk]
          exact h.used j h1 h2 (fun hm => (List.mem_cons.mp hm).elim hjk hj) }
  refine ⟨k, s', ?_, ⟨rest, hinv⟩, rfl, rfl, Nat.sub_add_cancel hv, ?_, hhead, ⟨hk1, hk2⟩, ?_⟩
  · simp only [alloc, popFreePos, if_pos hv, hhead, readAt_nat hlt, writeAt_nat hlt, ok_bind,
      Int.toNat_natCast]
    rfl
  · intro hall
    exact ((h.allocated_iff).mp hall).2 List.mem_cons_self
  · intro j
    rw [hinv.allocated_iff, h.allocated_iff, List.mem_cons]
    show (1 ≤ j ∧ j ≤ s.totalUnitCount) ∧ j ∉ rest ↔ _
    by_cases hjk : j = k
    · subst hjk
      exact iff_of_true ⟨⟨hk1, hk2⟩, hknot⟩ (Or.inr rfl)
    · simp only [hjk, false_or, or_false]

/-! ## Find and GetPos -/

theorem find_eq_some {index : Int} : s.find index = some k ↔ index = k ∧ s.Allocated k := by
  unfold find Allocated
  constructor
  · intro h
    split at h
    · cases h
    · split at h
      · cases h
      · cases h
        omega
  · rintro ⟨rfl, h1, h2, h3⟩
    rw [if_neg (by omega), Int.toNat_natCast, if_neg (not_not.mpr h3)]

theorem find_of_allocated (h : s.Allocated k) : s.find k = some k :=
  find_eq_some.mpr ⟨rfl, h⟩

theorem getPos_of_allocated (h : s.Allocated k) : s.getPos k = .ok (k : Int) := by
  obtain ⟨h1, h2, h3⟩ := h
  unfold getPos
  rw [readAt_nat (by omega), ok_bind, h3, if_pos (by omega)]

/-! ## Release -/

/-- What `Release` changes: the unit becomes the head of the free units. -/
structure Shrunk (s s' : ShmPool α) (k : Nat) : Prop where
  ok : s'.Ok
  total : s'.totalUnitCount = s.totalUnitCount
  mem : s'.mem = s.mem
  valid : s'.validUnitCount = s.validUnitCount + 1
  head : s'.freeMemPos = k
  allocated : ∀ j, s'.Allocated j ↔ s.Allocated j ∧ j ≠ k

theorem Inv.valid_lt (h : s.Inv free) (hk : s.Allocated k) :
    s.validUnitCount < s.totalUnitCount := by
  obtain ⟨⟨h1, h2⟩, hknot⟩ := h.allocated_iff.mp hk
  have hsub : (k :: free) ⊆ List.range' 1 s.totalUnitCount := by
    intro j hj
    rcases List.mem_cons.mp hj with rfl | hj
    · exact List.mem_range'_1.mpr ⟨h1, by omega⟩
    · have := h.free_unit j hj
      exact List.mem_range'_1.mpr ⟨this.1, by omega⟩
  have hlen := (List.subperm_of_subset
    (List.nodup_cons.mpr ⟨hknot, h.free_list.nodup⟩) hsub).length_le
  rw [List.length_cons, List.length_range', h.length_free] at hlen
  exact hlen

theorem release_spec (h : s.Ok) (hk : s.Allocated k) :
    ∃ s', s.release k = .ok s' ∧ Shrunk s s' k := by
  obtain ⟨free, h⟩ := h
  have hvalid := h.valid_lt hk
  obtain ⟨⟨h1, h2⟩, hknot⟩ := h.allocated_iff.mp hk
  have hpos := hk.2.2
  have hlt : k < s.totalUnitCount + 1 := by omega
  let s' : ShmPool α :=
    { s with
      freeMemPos := k
      pos := Function.update s.pos k (-s.freeMemPos)
      validUnitCount := s.validUnitCount + 1 }
  have hinv : s'.Inv (k :: free) :=
    { free_list := h.free_list.push hknot
      free_unit := by
        intro j hj
        rcases List.mem_cons.mp hj with rfl | hj
        · exact ⟨h1, h2⟩
        · exact h.free_unit j hj
      length_free := congrArg (· + 1) h.length_free
      used := by
        intro j hj1 hj2 hj
        obtain ⟨hjk, hj⟩ := not_or.mp (fun hm => hj (List.mem_cons.mpr hm))
        show Function.update s.pos k (-s.freeMemPos) j = j
        rw [Function.update_of_ne hjk]
        exact h.used j hj1 hj2 hj }
  refine ⟨s', ?_, ⟨_, hinv⟩, rfl, rfl, rfl, rfl, fun j => ?_⟩
  · have hp : (0 : Int) < k := by omega
    simp only [release, pushFreePos, if_neg (not_not.mpr hvalid), readAt_nat hlt, ok_bind, hpos,
      gt_iff_lt, hp, not_true_eq_false, if_false, writeAt_nat hlt]
    rfl
  · rw [hinv.allocated_iff, h.allocated_iff, List.mem_cons, not_or]
    show (1 ≤ j ∧ j ≤ s.totalUnitCount) ∧ _ ↔ _
    tauto

/-! ## Writes -/

@[simp] theorem modify_allocated {f : α → α} : (s.modify j f).Allocated k ↔ s.Allocated k :=
  Iff.rfl

@[simp] theorem modify_mem_self {f : α → α} : (s.modify k f).mem k = f (s.mem k) :=
  Function.update_self ..

theorem modify_mem_of_ne {f : α → α} (h : k ≠ j) : (s.modify j f).mem k = s.mem k :=
  Function.update_of_ne h ..

theorem Ok.modify {f : α → α} (h : s.Ok) : (s.modify j f).Ok := by
  obtain ⟨free, h⟩ := h
  exact ⟨free, ⟨h.free_list, h.free_unit, h.length_free, h.used⟩⟩

end

end ShmPool

end PlayFrame
