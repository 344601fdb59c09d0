/-
# `PlayFrame.Frame.ShmPoolRun` — a pool over a whole run

What a pool is for: it hands out units, none of them twice before it is released.  The
state of that is the set of the units that have been handed out and not been released since
(`held`), and `Spec` says which answers it allows.

A run performs `Alloc`, `Find`, `GetPos` and `Release` in any order and with any unit, on a
pool that `Init` has made, and the units are written to in between.  In every state of a run
the marks, the chain of free units and the counter say the same as the set does
(`Represents`), and so each operation answers as `Spec` allows, and fails a `CHECK` exactly
when it is `GetPos` or `Release` of a unit that is not held (`run_represents`).
-/
import PlayFrame.Frame.ShmPool
import Mathlib.Order.Interval.Finset.Nat

namespace PlayFrame

open Lib

namespace ShmPool

variable {α : Type}

/-- A call of a method. -/
inductive Op where
  | alloc
  | find (index : Int)
  | getPos (unit : Nat)
  | release (unit : Nat)

/-- What it returns. -/
inductive Ret where
  | ptr (unit : Option Nat)
  | index (pos : Int)
  | nothing

/-- The call. -/
def perform (s : ShmPool α) : Op → Result (Ret × ShmPool α)
  | .alloc => do
      let (unit, s) ← s.alloc
      .ok (.ptr unit, s)
  | .find index => .ok (.ptr (s.find index), s)
  | .getPos unit => do
      let pos ← s.getPos unit
      .ok (.index pos, s)
  | .release unit => do
      let s ← s.release unit
      .ok (.nothing, s)

/-! ## What a pool is for -/

/-- The units that have been handed out and not been released, after a call. -/
def held (units : Finset Nat) : Op → Ret → Finset Nat
  | .alloc, .ptr (some k) => insert k units
  | .release k, _ => units.erase k
  | _, _ => units

/-- The answers of a pool with `total` units, when `units` are held. -/
inductive Spec (total : Nat) (units : Finset Nat) : Op → Ret → Prop
  | usedUp : (∀ k, 1 ≤ k → k ≤ total → k ∈ units) → Spec total units .alloc (.ptr none)
  | alloc {k : Nat} : 1 ≤ k → k ≤ total → k ∉ units → Spec total units .alloc (.ptr (some k))
  | absent {index : Int} : (∀ k ∈ units, index ≠ k) →
      Spec total units (.find index) (.ptr none)
  | find {k : Nat} : k ∈ units → Spec total units (.find k) (.ptr (some k))
  | getPos {k : Nat} : k ∈ units → Spec total units (.getPos k) (.index k)
  | release {k : Nat} : k ∈ units → Spec total units (.release k) .nothing

/-- The calls that a pool does not answer. -/
def Op.Refused (units : Finset Nat) : Op → Prop
  | .getPos k => k ∉ units
  | .release k => k ∉ units
  | _ => False

/-- The unit that a call is given, if any, is one of the pool. -/
def Op.Within (total : Nat) : Op → Prop
  | .getPos k => 1 ≤ k ∧ k ≤ total
  | .release k => 1 ≤ k ∧ k ≤ total
  | _ => True

/-! ## Runs -/

/-- The states of a pool that `Init` has made, with the units that are held. -/
inductive Run (unitCount : Nat) (raw : Nat → α) : ShmPool α → Finset Nat → Prop
  | init : Run unitCount raw (init unitCount raw) ∅
  | perform {s s' : ShmPool α} {units : Finset Nat} {op : Op} {ret : Ret} :
      Run unitCount raw s units → op.Within unitCount → s.perform op = .ok (ret, s') →
      Run unitCount raw s' (held units op ret)
  | write {s : ShmPool α} {units : Finset Nat} (unit : Nat) (f : α → α) :
      Run unitCount raw s units → Run unitCount raw (s.modify unit f) units

/-- **The marks, the chain and the counter** of a pool say which units are held, and the
methods answer accordingly. -/
structure Represents (unitCount : Nat) (s : ShmPool α) (units : Finset Nat) : Prop where
  total : s.totalUnitCount = unitCount
  inside : ∀ k ∈ units, 1 ≤ k ∧ k ≤ unitCount
  marked : ∀ k, 1 ≤ k → k ≤ unitCount → (s.pos k = k ↔ k ∈ units)
  chain : ∃ free, FreeList s.pos s.freeMemPos free ((unitCount + 1 : Nat) : Int) ∧
    (∀ k, k ∈ free ↔ (1 ≤ k ∧ k ≤ unitCount) ∧ k ∉ units) ∧ s.validUnitCount = free.length
  answers : ∀ op, op.Within unitCount → ¬ op.Refused units →
    ∃ ret s', s.perform op = .ok (ret, s') ∧ Spec unitCount units op ret
  refuses : ∀ op, op.Within unitCount → op.Refused units → s.perform op = .error .checkFailed

/-- The invariant: a pool in order, in which the units that are held are in use. -/
structure Holds (unitCount : Nat) (s : ShmPool α) (units : Finset Nat) : Prop where
  ok : s.Ok
  total : s.totalUnitCount = unitCount
  allocated : ∀ k, s.Allocated k ↔ k ∈ units

section
variable {unitCount : Nat} {raw : Nat → α} {s s' : ShmPool α} {units : Finset Nat} {k : Nat}
  {op : Op} {ret : Ret}

theorem Holds.unit_le (h : Holds unitCount s units) (hk : k ∈ units) : 1 ≤ k ∧ k ≤ unitCount := by
  obtain ⟨h₁, h₂, -⟩ := (h.allocated k).mpr hk
  exact ⟨h₁, h.total ▸ h₂⟩

theorem Inv.usedUp {free : List Nat} (h : s.Inv free) :
    s.validUnitCount = 0 ↔ ∀ k, 1 ≤ k → k ≤ s.totalUnitCount → s.Allocated k := by
  rw [← h.length_free, List.length_eq_zero_iff]
  constructor
  · intro hfree k h₁ h₂
    rw [h.allocated_iff, hfree]
    exact ⟨⟨h₁, h₂⟩, List.not_mem_nil⟩
  · intro hall
    refine List.eq_nil_iff_forall_not_mem.mpr (fun k hk => ?_)
    obtain ⟨h₁, h₂⟩ := h.free_unit k hk
    exact (h.allocated_iff.mp (hall k h₁ h₂)).2 hk

theorem Ok.card_allocated (h : s.Ok) :
    ((Finset.Icc 1 s.totalUnitCount).filter s.Allocated).card + s.validUnitCount =
      s.totalUnitCount := by
  obtain ⟨free, h⟩ := h
  have hfree : (Finset.Icc 1 s.totalUnitCount).filter (fun k => ¬ s.Allocated k) =
      free.toFinset := by
    ext k
    rw [Finset.mem_filter, Finset.mem_Icc, h.allocated_iff, List.mem_toFinset]
    constructor
    · rintro ⟨hin, hnot⟩
      by_contra hk
      exact hnot ⟨hin, hk⟩
    · intro hk
      exact ⟨h.free_unit k hk, fun hnot => hnot.2 hk⟩
  have hcard : s.validUnitCount = free.toFinset.card := by
    rw [List.toFinset_card_of_nodup h.free_list.nodup, h.length_free]
  rw [hcard, ← hfree, Finset.card_filter_add_card_filter_not, Nat.card_Icc, Nat.add_sub_cancel]

theorem Ok.pos_neg (h : s.Ok) (h₁ : 1 ≤ k) (h₂ : k ≤ s.totalUnitCount) (hk : ¬ s.Allocated k) :
    s.pos k < 0 := by
  obtain ⟨free, h⟩ := h
  refine h.free_neg ?_
  by_contra hnot
  exact hk (h.allocated_iff.mpr ⟨⟨h₁, h₂⟩, hnot⟩)

theorem release_free (h : s.Ok) (h₁ : 1 ≤ k) (h₂ : k ≤ s.totalUnitCount)
    (hk : ¬ s.Allocated k) : s.release k = .error .checkFailed := by
  have hneg := h.pos_neg h₁ h₂ hk
  unfold release
  split
  · rfl
  · rw [readAt_nat (Nat.lt_succ_of_le h₂), ok_bind, if_pos (not_lt.mpr hneg.le)]

theorem getPos_free (h : s.Ok) (h₁ : 1 ≤ k) (h₂ : k ≤ s.totalUnitCount)
    (hk : ¬ s.Allocated k) : s.getPos k = .error .checkFailed := by
  have hneg := h.pos_neg h₁ h₂ hk
  unfold getPos
  rw [readAt_nat (Nat.lt_succ_of_le h₂), ok_bind, if_neg (not_lt.mpr hneg.le)]

/-! ### One call -/

theorem Holds.alloc (h : Holds unitCount s units) :
    ∃ unit s', s.alloc = .ok (unit, s') ∧ Spec unitCount units .alloc (.ptr unit) ∧
      Holds unitCount s' (held units .alloc (.ptr unit)) := by
  obtain ⟨free, hinv⟩ := h.ok
  rcases Nat.eq_zero_or_pos s.validUnitCount with hzero | hpos
  · refine ⟨none, s, alloc_none hzero, .usedUp (fun k h₁ h₂ => ?_), h⟩
    exact (h.allocated k).mp (hinv.usedUp.mp hzero k h₁ (h.total ▸ h₂))
  · obtain ⟨k, s', halloc, hgrown⟩ := alloc_some h.ok hpos
    obtain ⟨h₁, h₂⟩ := hgrown.unit
    refine ⟨some k, s', halloc, .alloc h₁ (h.total ▸ h₂) ?_, hgrown.ok,
      hgrown.total.trans h.total, fun j => ?_⟩
    · rw [← h.allocated]
      exact hgrown.fresh
    · show s'.Allocated j ↔ j ∈ insert k units
      rw [hgrown.allocated, h.allocated, Finset.mem_insert, or_comm]

theorem Holds.find (h : Holds unitCount s units) (index : Int) :
    Spec unitCount units (.find index) (.ptr (s.find index)) := by
  cases hfind : s.find index with
  | some k =>
      obtain ⟨rfl, hk⟩ := find_eq_some.mp hfind
      exact .find ((h.allocated k).mp hk)
  | none =>
      refine .absent ?_
      rintro k hk rfl
      rw [find_of_allocated ((h.allocated k).mpr hk)] at hfind
      cases hfind

theorem Holds.release (h : Holds unitCount s units) (hk : k ∈ units) :
    ∃ s', s.release k = .ok s' ∧ Holds unitCount s' (units.erase k) := by
  obtain ⟨s', hrelease, hshrunk⟩ := release_spec h.ok ((h.allocated k).mpr hk)
  refine ⟨s', hrelease, hshrunk.ok, hshrunk.total.trans h.total, fun j => ?_⟩
  rw [hshrunk.allocated, h.allocated, Finset.mem_erase, and_comm]

/-- **A call that is not refused** is answered as `Spec` allows. -/
theorem Holds.answers (h : Holds unitCount s units) (hop : ¬ op.Refused units) :
    ∃ ret s', s.perform op = .ok (ret, s') ∧ Spec unitCount units op ret ∧
      Holds unitCount s' (held units op ret) := by
  cases op with
  | alloc =>
      obtain ⟨unit, s', halloc, hspec, hholds⟩ := h.alloc
      refine ⟨.ptr unit, s', ?_, hspec, hholds⟩
      simp only [perform, halloc, ok_bind]
  | find index => exact ⟨_, s, rfl, h.find index, h⟩
  | getPos k =>
      have hk : k ∈ units := not_not.mp hop
      refine ⟨.index k, s, ?_, .getPos hk, h⟩
      simp only [perform, getPos_of_allocated ((h.allocated k).mpr hk), ok_bind]
  | release k =>
      have hk : k ∈ units := not_not.mp hop
      obtain ⟨s', hrelease, hholds⟩ := h.release hk
      refine ⟨.nothing, s', ?_, .release hk, hholds⟩
      simp only [perform, hrelease, ok_bind]

theorem Holds.refuses (h : Holds unitCount s units) (hwithin : op.Within unitCount)
    (hop : op.Refused units) : s.perform op = .error .checkFailed := by
  cases op with
  | alloc => exact hop.elim
  | find index => exact hop.elim
  | getPos k =>
      obtain ⟨h₁, h₂⟩ := hwithin
      have hnot : ¬ s.Allocated k := fun hk => hop ((h.allocated k).mp hk)
      simp only [perform, getPos_free h.ok h₁ (h.total ▸ h₂) hnot, error_bind]
  | release k =>
      obtain ⟨h₁, h₂⟩ := hwithin
      have hnot : ¬ s.Allocated k := fun hk => hop ((h.allocated k).mp hk)
      simp only [perform, release_free h.ok h₁ (h.total ▸ h₂) hnot, error_bind]

theorem Holds.perform (h : Holds unitCount s units) (hwithin : op.Within unitCount)
    (hperform : s.perform op = .ok (ret, s')) : Holds unitCount s' (held units op ret) := by
  by_cases hop : op.Refused units
  · rw [h.refuses hwithin hop] at hperform
    cases hperform
  · obtain ⟨ret', s'', heq, -, hholds⟩ := h.answers hop
    rw [hperform] at heq
    cases heq
    exact hholds

/-! ### Every run -/

theorem Run.holds (h : Run unitCount raw s units) : Holds unitCount s units := by
  induction h with
  | init =>
      refine ⟨⟨_, init_inv unitCount raw⟩, rfl, fun k => ?_⟩
      exact iff_of_false init_not_allocated (Finset.notMem_empty k)
  | perform _ hwithin hperform ih => exact ih.perform hwithin hperform
  | write unit f _ ih => exact ⟨ih.ok.modify, ih.total, ih.allocated⟩

theorem Holds.represents (h : Holds unitCount s units) : Represents unitCount s units := by
  obtain ⟨free, hinv⟩ := h.ok
  refine ⟨h.total, fun k => h.unit_le, fun k h₁ h₂ => ?_, ⟨free, ?_, fun k => ?_,
    hinv.length_free.symm⟩, fun op _ hop => ?_, fun op => h.refuses⟩
  · rw [← h.allocated]
    exact ⟨fun hpos => ⟨h₁, h.total ▸ h₂, hpos⟩, fun hk => hk.2.2⟩
  · rw [← h.total]
    exact hinv.free_list
  · rw [← h.allocated, hinv.allocated_iff, h.total]
    constructor
    · intro hk
      exact ⟨h.total ▸ hinv.free_unit k hk, fun hnot => hnot.2 hk⟩
    · rintro ⟨hin, hnot⟩
      by_contra hk
      exact hnot ⟨hin, hk⟩
  · obtain ⟨ret, s', hperform, hspec, -⟩ := h.answers hop
    exact ⟨ret, s', hperform, hspec⟩

/-- **Every pool represents the units that are held**, in every state of a run. -/
theorem run_represents (h : Run unitCount raw s units) : Represents unitCount s units :=
  h.holds.represents

end

/-- Two units are taken from a pool of two, and the first is given back. -/
theorem run_represents_two :
    ∃ s : ShmPool Nat, Run 2 (fun _ => 0) s {2} ∧ Represents 2 s {2} := by
  have h₁ := Run.perform (.init : Run 2 (fun _ => 0) _ _) (show Op.alloc.Within 2 from trivial) rfl
  have h₂ := Run.perform h₁ (show Op.alloc.Within 2 from trivial) rfl
  have h₃ := Run.perform h₂ (show (Op.release 1).Within 2 from ⟨by decide, by decide⟩) rfl
  exact ⟨_, h₃, run_represents h₃⟩

end ShmPool

end PlayFrame
