/-
# `PlayFrame.GameSvr.Crash` — a pool after a crash

The pools live in shared memory so that a gamesvr that has died can be started again on
them: `stop.sh` removes the segments, so `ShmPool::Init` finds one only after a crash.

`Alloc` and `Release` make three stores each, to `free_mem_pos`, to the `pos` of one unit
and to `valid_unit_count`, and the process may die between any two of them.  `stores`
lists them in program order and `crash` is the pool after some of them; `Survives` says
what one wants of a pool that is found: whatever is allocated and released on it from
then on, `Alloc` stays within the units, does not hand out a unit in use, and answers
null only when all units are in use.

No point between the first store and the last is safe (`crash_survives_iff`):

    Alloc, after 1 or 2     the counter is one more than the chain has units, and
                            the last `Alloc` reads behind the array
    Release, after 1        the unit is neither in use nor in the chain
    Release, after 2        the counter is one less than the chain has units, and
                            the last unit of the chain is never handed out
-/
import PlayFrame.Frame.ShmPoolRun
import PlayFrame.GameSvr.Restart

namespace PlayFrame

open Lib

namespace ShmPool

variable {α : Type}

/-! ## Stores -/

/-- The calls that change the control data of a pool. -/
inductive Update where
  | alloc
  | release (unit : Nat)

/-- The call. -/
def update (s : ShmPool α) : Update → Result (ShmPool α)
  | .alloc => do
      let (_, s) ← s.alloc
      .ok s
  | .release unit => s.release unit

/-- A store to the control data. -/
inductive Store where
  | freeMemPos (val : Int)
  | pos (i val : Int)
  | validUnitCount (val : Nat)

/-- The store. -/
def Store.apply (s : ShmPool α) : Store → Result (ShmPool α)
  | .freeMemPos val => .ok { s with freeMemPos := val }
  | .pos i val => do
      let pos ← writeAt (s.totalUnitCount + 1) s.pos i val
      .ok { s with pos := pos }
  | .validUnitCount val => .ok { s with validUnitCount := val }

/-- The stores of a call, in program order; one that fails a `CHECK` has made none. -/
def stores (s : ShmPool α) : Update → Result (List Store)
  | .alloc =>
      if s.validUnitCount > 0 then do
        let freePos := s.freeMemPos
        let next ← readAt (s.totalUnitCount + 1) s.pos freePos
        .ok [.freeMemPos (-next), .pos freePos freePos, .validUnitCount (s.validUnitCount - 1)]
      else .ok []
  | .release unit =>
      if ¬ s.totalUnitCount > s.validUnitCount then .ok []
      else do
        let pos ← readAt (s.totalUnitCount + 1) s.pos unit
        if ¬ pos > 0 then .ok []
        else .ok [.pos pos (-s.freeMemPos), .freeMemPos pos, .validUnitCount (s.validUnitCount + 1)]

/-- One store after the other. -/
def applyAll (s : ShmPool α) : List Store → Result (ShmPool α)
  | [] => .ok s
  | store :: rest => do
      let s ← store.apply s
      applyAll s rest

/-- What is in the segment when the process dies after `k` stores of a call. -/
def crash (s : ShmPool α) (op : Update) (k : Nat) : Result (ShmPool α) := do
  let stores ← s.stores op
  s.applyAll (stores.take k)

/-! ## What is wanted of the pool that is found -/

/-- What comes of a pool by further calls, `Release` of any unit of it. -/
inductive Further (s₀ : ShmPool α) : ShmPool α → Prop
  | start : Further s₀ s₀
  | alloc {s s' : ShmPool α} {unit : Option Nat} :
      Further s₀ s → s.alloc = .ok (unit, s') → Further s₀ s'
  | release {s s' : ShmPool α} {unit : Nat} : Further s₀ s → 1 ≤ unit →
      unit ≤ s.totalUnitCount → s.release unit = .ok s' → Further s₀ s'

/-- The next calls stay within the units, hand out none that is in use, and find every
unit that is not. -/
structure Sound (s : ShmPool α) : Prop where
  alloc : ∃ unit s', s.alloc = .ok (unit, s') ∧
    match unit with
    | some k => 1 ≤ k ∧ k ≤ s.totalUnitCount ∧ ¬ s.Allocated k
    | none => ∀ k, 1 ≤ k → k ≤ s.totalUnitCount → s.Allocated k
  release : ∀ k, 1 ≤ k → k ≤ s.totalUnitCount →
    (s.Allocated k → ∃ s', s.release k = .ok s') ∧
    (¬ s.Allocated k → s.release k = .error .checkFailed)

/-- The pool serves for good. -/
def Survives (s₀ : ShmPool α) : Prop := ∀ s, Further s₀ s → Sound s

section
variable {s s' s₁ : ShmPool α} {free front : List Nat} {k : Nat} {a b : Int}

/-! ## A pool in order survives -/

theorem Ok.sound (h : s.Ok) : Sound s where
  alloc := by
    rcases Nat.eq_zero_or_pos s.validUnitCount with hzero | hpos
    · obtain ⟨free, hinv⟩ := h
      exact ⟨none, s, alloc_none hzero, hinv.usedUp.mp hzero⟩
    · obtain ⟨k, s', halloc, hgrown⟩ := alloc_some h hpos
      exact ⟨some k, s', halloc, hgrown.unit.1, hgrown.unit.2, hgrown.fresh⟩
  release := by
    intro k h₁ h₂
    refine ⟨fun hk => ?_, release_free h h₁ h₂⟩
    obtain ⟨s', hrelease, -⟩ := release_spec h hk
    exact ⟨s', hrelease⟩

theorem Further.ok (h : Further s s') (hs : s.Ok) : s'.Ok := by
  induction h with
  | start => exact hs
  | @alloc s s' unit _ halloc ih =>
      rcases Nat.eq_zero_or_pos s.validUnitCount with hzero | hpos
      · rw [alloc_none hzero] at halloc
        cases halloc
        exact ih
      · obtain ⟨k, s₁, h₁, hgrown⟩ := alloc_some ih hpos
        rw [halloc] at h₁
        cases h₁
        exact hgrown.ok
  | @release s s' unit _ h₁ h₂ hrelease ih =>
      by_cases hunit : s.Allocated unit
      · obtain ⟨s₁, hs₁, hshrunk⟩ := release_spec ih hunit
        rw [hrelease] at hs₁
        cases hs₁
        exact hshrunk.ok
      · rw [release_free ih h₁ h₂ hunit] at hrelease
        cases hrelease

theorem Ok.survives (h : s.Ok) : Survives s := fun _ hs => (hs.ok h).sound

theorem Further.trans {s₂ : ShmPool α} (h : Further s s₁) (h' : Further s₁ s₂) :
    Further s s₂ := by
  induction h' with
  | start => exact h
  | alloc _ halloc ih => exact .alloc ih halloc
  | release _ h₁ h₂ hrelease ih => exact .release ih h₁ h₂ hrelease

theorem Survives.alloc {unit : Option Nat} (h : Survives s) (halloc : s.alloc = .ok (unit, s')) :
    Survives s' :=
  fun _ hs => h _ ((Further.alloc .start halloc).trans hs)

/-! ## Pools that are not in order -/

theorem alloc_chain (hchain : Chain s.pos s.freeMemPos (k :: front) b)
    (hnodup : (k :: front).Nodup) (hk : k ≤ s.totalUnitCount) (hvalid : 0 < s.validUnitCount) :
    ∃ s', s.alloc = .ok (some k, s') ∧ Chain s'.pos s'.freeMemPos front b ∧
      s'.totalUnitCount = s.totalUnitCount ∧ s'.validUnitCount + 1 = s.validUnitCount ∧
      ∀ j, j ≠ k → s'.pos j = s.pos j := by
  obtain ⟨hnot, -⟩ := List.nodup_cons.mp hnodup
  have hlt : k < s.totalUnitCount + 1 := by omega
  generalize ha : s.freeMemPos = a at hchain
  cases hchain with
  | cons hrest =>
      refine ⟨{ s with
        freeMemPos := -s.pos k
        pos := Function.update s.pos k k
        validUnitCount := s.validUnitCount - 1 }, ?_, ?_, rfl, Nat.sub_add_cancel hvalid, ?_⟩
      · simp only [ShmPool.alloc, popFreePos, if_pos hvalid, ha, readAt_nat hlt, writeAt_nat hlt,
          ok_bind, Int.toNat_natCast]
      · exact hrest.write hnot _
      · exact fun j hj => Function.update_of_ne hj _ _

/-- **A counter that is more than the chain has units**: the last `Alloc` reads behind
the array. -/
theorem not_survives_of_short : ∀ (free : List Nat) {s : ShmPool α},
    Chain s.pos s.freeMemPos free ((s.totalUnitCount + 1 : Nat) : Int) → free.Nodup →
    (∀ k ∈ free, k ≤ s.totalUnitCount) → free.length < s.validUnitCount → ¬ Survives s := by
  intro free
  induction free with
  | nil =>
      intro s hchain _ _ hvalid hs
      obtain ⟨unit, s', halloc, -⟩ := (hs s .start).alloc
      have hend : s.freeMemPos = ((s.totalUnitCount + 1 : Nat) : Int) := by
        generalize s.freeMemPos = a at hchain
        cases hchain
        rfl
      have hread : readAt (s.totalUnitCount + 1) s.pos s.freeMemPos = .error .outOfBounds :=
        if_neg (by omega)
      rw [ShmPool.alloc, if_pos (by simpa using hvalid), popFreePos, hread] at halloc
      cases halloc
  | cons k rest ih =>
      intro s hchain hnodup hle hvalid hs
      obtain ⟨s', halloc, hrest, htotal, hcount, -⟩ := alloc_chain hchain hnodup
        (hle k List.mem_cons_self) (by omega)
      refine ih (s := s') (by rw [htotal]; exact hrest) (List.nodup_cons.mp hnodup).2 ?_ ?_
        (hs.alloc halloc)
      · intro j hj
        rw [htotal]
        exact hle j (List.mem_cons_of_mem _ hj)
      · rw [List.length_cons] at hvalid
        omega

/-- **A unit that the counter does not reach**: it is not in use and never will be. -/
theorem not_survives_of_lost {p : Nat} : ∀ (front : List Nat) {s : ShmPool α} {b : Int},
    Chain s.pos s.freeMemPos front b → front.Nodup → (∀ k ∈ front, k ≤ s.totalUnitCount) →
    front.length = s.validUnitCount → 1 ≤ p → p ≤ s.totalUnitCount → p ∉ front →
    ¬ s.Allocated p → ¬ Survives s := by
  intro front
  induction front with
  | nil =>
      intro s b _ _ _ hvalid h₁ h₂ _ hp hs
      obtain ⟨unit, s', halloc, hmatch⟩ := (hs s .start).alloc
      rw [alloc_none hvalid.symm] at halloc
      cases halloc
      exact hp (hmatch p h₁ h₂)
  | cons k rest ih =>
      intro s b hchain hnodup hle hvalid h₁ h₂ hnot hp hs
      rw [List.length_cons] at hvalid
      obtain ⟨s', halloc, hrest, htotal, hcount, hpos⟩ := alloc_chain hchain hnodup
        (hle k List.mem_cons_self) (by omega)
      obtain ⟨hpk, hnot⟩ := not_or.mp (fun h => hnot (List.mem_cons.mpr h))
      refine ih (s := s') hrest (List.nodup_cons.mp hnodup).2 ?_ (by omega) h₁
        (by rw [htotal]; exact h₂) hnot ?_ (hs.alloc halloc)
      · intro j hj
        rw [htotal]
        exact hle j (List.mem_cons_of_mem _ hj)
      · rintro ⟨-, -, hmark⟩
        rw [hpos p hpk] at hmark
        exact hp ⟨h₁, h₂, hmark⟩

theorem not_allocated_of_neg {p : Nat} (h : s.pos p < 0) : ¬ s.Allocated p := by
  rintro ⟨-, -, hmark⟩
  rw [hmark] at h
  omega

/-! ## Each point of each call -/

theorem update_stores (op : Update) (h : s.update op = .ok s') :
    ∃ l, s.stores op = .ok l ∧ s.applyAll l = .ok s' := by
  cases op with
  | alloc =>
      simp only [update, ShmPool.alloc, popFreePos] at h
      by_cases hvalid : s.validUnitCount > 0
      · simp only [hvalid, if_true] at h
        obtain ⟨⟨unit, s₁⟩, h₁, h⟩ := bind_eq_ok.mp h
        obtain ⟨⟨pos, s₂⟩, h₂, h₁⟩ := bind_eq_ok.mp h₁
        obtain ⟨next, hnext, h₂⟩ := bind_eq_ok.mp h₂
        obtain ⟨arr, harr, h₂⟩ := bind_eq_ok.mp h₂
        cases h₂
        cases h₁
        cases h
        refine ⟨[.freeMemPos (-next), .pos s.freeMemPos s.freeMemPos,
          .validUnitCount (s.validUnitCount - 1)], ?_, ?_⟩
        · simp only [stores, if_pos hvalid, hnext, ok_bind]
        · simp only [applyAll, Store.apply, ok_bind, harr]
      · simp only [hvalid, if_false, ok_bind] at h
        cases h
        exact ⟨[], if_neg hvalid, rfl⟩
  | release unit =>
      simp only [update, ShmPool.release] at h
      split at h
      · cases h
      · next htotal =>
        obtain ⟨pos, hpos, h⟩ := bind_eq_ok.mp h
        split at h
        · cases h
        · next hmark =>
          obtain ⟨s₁, h₁, h⟩ := bind_eq_ok.mp h
          obtain ⟨arr, harr, h₁⟩ := bind_eq_ok.mp h₁
          cases h₁
          cases h
          refine ⟨[.pos pos (-s.freeMemPos), .freeMemPos pos,
            .validUnitCount (s.validUnitCount + 1)], ?_, ?_⟩
          · simp only [stores, if_neg htotal, hpos, ok_bind, if_neg hmark]
          · simp only [applyAll, Store.apply, ok_bind, harr]

/-- What a crash leaves after `k` of the stores `l`. -/
def Crashes (s : ShmPool α) (l : List Store) : Prop :=
  ∀ k, ∃ s₁, s.applyAll (l.take k) = .ok s₁ ∧ s₁.totalUnitCount = s.totalUnitCount ∧
    (Survives s₁ ↔ k = 0 ∨ l.length ≤ k)

theorem Ok.crashes_nil (h : s.Ok) : Crashes s [] := by
  intro k
  refine ⟨s, by rw [List.take_nil]; rfl, rfl, iff_of_true h.survives (Or.inr (Nat.zero_le k))⟩

theorem Ok.crashes_alloc (h : s.Ok) (hvalid : 0 < s.validUnitCount) :
    ∃ l, s.stores .alloc = .ok l ∧ Crashes s l := by
  obtain ⟨f, s', halloc, hgrown⟩ := alloc_some h hvalid
  have hall : s.update .alloc = .ok s' := by
    simp only [update, halloc, ok_bind]
  obtain ⟨l, hl, hdone⟩ := update_stores .alloc hall
  refine ⟨l, hl, fun k => ?_⟩
  obtain ⟨free, hinv⟩ := id h
  have hne : free ≠ [] := by
    rintro rfl
    have := hinv.length_free
    rw [List.length_nil] at this
    omega
  obtain ⟨f', rest, rfl, hhead⟩ := hinv.free_list.head_eq hne
  have hfl := hinv.free_list
  rw [hhead] at hfl
  obtain ⟨hrest, hnot⟩ := hfl.pop
  obtain ⟨h₁, h₂⟩ := hinv.free_unit f' List.mem_cons_self
  have hlt : f' < s.totalUnitCount + 1 := by omega
  have hlen := hinv.length_free
  rw [List.length_cons] at hlen
  have hle : ∀ j ∈ rest, j ≤ s.totalUnitCount :=
    fun j hj => (hinv.free_unit j (List.mem_cons_of_mem _ hj)).2
  simp only [stores, gt_iff_lt, hvalid, if_true, hhead, readAt_nat hlt, ok_bind] at hl
  cases hl
  match k with
  | 0 => exact ⟨s, rfl, rfl, iff_of_true h.survives (Or.inl rfl)⟩
  | 1 =>
      refine ⟨{ s with freeMemPos := -s.pos f' }, rfl, rfl, iff_of_false ?_ (by simp)⟩
      exact not_survives_of_short rest hrest.chain hrest.nodup hle (by show _ < s.validUnitCount; omega)
  | 2 =>
      refine ⟨{ s with freeMemPos := -s.pos f', pos := Function.update s.pos f' f' }, ?_, rfl,
        iff_of_false ?_ (by simp)⟩
      · simp [applyAll, Store.apply, writeAt_nat hlt]
      · exact not_survives_of_short rest (hrest.chain.write hnot _) hrest.nodup hle
          (by show _ < s.validUnitCount; omega)
  | k + 3 =>
      refine ⟨s', ?_, hgrown.total, iff_of_true hgrown.ok.survives (Or.inr ?_)⟩
      · rw [List.take_of_length_le (by simp)]
        exact hdone
      · simp

theorem Ok.crashes_release {p : Nat} (h : s.Ok) (hp : s.Allocated p) :
    ∃ l, s.stores (.release p) = .ok l ∧ Crashes s l := by
  obtain ⟨s', hrelease, hshrunk⟩ := release_spec h hp
  obtain ⟨l, hl, hdone⟩ := update_stores (.release p) hrelease
  refine ⟨l, hl, fun k => ?_⟩
  obtain ⟨free, hinv⟩ := id h
  have hvalid := hinv.valid_lt hp
  obtain ⟨⟨h₁, h₂⟩, hnot⟩ := hinv.allocated_iff.mp hp
  have hlt : p < s.totalUnitCount + 1 := by omega
  have hmark : ¬ ¬ (p : Int) > 0 := by omega
  have hlen := hinv.length_free
  have hunit : ∀ j ∈ p :: free, 1 ≤ j ∧ j ≤ s.totalUnitCount := by
    intro j hj
    rcases List.mem_cons.mp hj with rfl | hj
    · exact ⟨h₁, h₂⟩
    · exact hinv.free_unit j hj
  have hpush := hinv.free_list.push hnot
  simp only [stores, gt_iff_lt, hvalid, not_true_eq_false, if_false, readAt_nat hlt, ok_bind,
    hp.2.2, if_neg hmark] at hl
  cases hl
  -- the unit that is released has a negative mark from the first store on
  have hneg : ∀ j ∈ p :: free, Function.update s.pos p (-s.freeMemPos) j < 0 :=
    hpush.chain.link_neg (by omega) (fun j hj => (hunit j hj).1)
  match k with
  | 0 => exact ⟨s, rfl, rfl, iff_of_true h.survives (Or.inl rfl)⟩
  | 1 =>
      refine ⟨{ s with pos := Function.update s.pos p (-s.freeMemPos) }, ?_, rfl,
        iff_of_false ?_ (by simp)⟩
      · simp [applyAll, Store.apply, writeAt_nat hlt]
      · exact not_survives_of_lost free (hinv.free_list.chain.write hnot _) hinv.free_list.nodup
          (fun j hj => (hunit j (List.mem_cons_of_mem _ hj)).2) hlen h₁ h₂ hnot
          (not_allocated_of_neg (hneg p List.mem_cons_self))
  | 2 =>
      refine ⟨{ s with freeMemPos := p, pos := Function.update s.pos p (-s.freeMemPos) }, ?_, rfl,
        iff_of_false ?_ (by simp)⟩
      · simp [applyAll, Store.apply, writeAt_nat hlt]
      · -- the last unit of the chain is behind what the counter reaches
        obtain ⟨front, q, hsplit⟩ : ∃ front q, p :: free = front ++ [q] :=
          ⟨_, _, (List.dropLast_append_getLast (List.cons_ne_nil p free)).symm⟩
        have hchain := hpush.chain
        have hnodup := hpush.nodup
        have hcount := congrArg List.length hsplit
        rw [List.length_cons, List.length_append, List.length_singleton] at hcount
        rw [hsplit] at hchain hnodup hunit hneg
        obtain ⟨b, hfront⟩ := hchain.front
        obtain ⟨hnd, -, hdisj⟩ := List.nodup_append.mp hnodup
        have hq := hunit q (by simp)
        exact not_survives_of_lost front hfront hnd
          (fun j hj => (hunit j (List.mem_append_left _ hj)).2) (by show _ = s.validUnitCount; omega)
          hq.1 hq.2 (fun hmem => hdisj q hmem q (by simp) rfl) (not_allocated_of_neg (hneg q (by simp)))
  | k + 3 =>
      refine ⟨s', ?_, hshrunk.total, iff_of_true hshrunk.ok.survives (Or.inr ?_)⟩
      · rw [List.take_of_length_le (by simp)]
        exact hdone
      · simp

theorem Ok.crashes (h : s.Ok) (op : Update)
    (hop : ∀ unit, op = .release unit → 1 ≤ unit ∧ unit ≤ s.totalUnitCount) :
    ∃ l, s.stores op = .ok l ∧ Crashes s l := by
  cases op with
  | alloc =>
      rcases Nat.eq_zero_or_pos s.validUnitCount with hzero | hvalid
      · exact ⟨[], if_neg (by omega), h.crashes_nil⟩
      · exact h.crashes_alloc hvalid
  | release unit =>
      by_cases hunit : s.Allocated unit
      · exact h.crashes_release hunit
      · obtain ⟨h₁, h₂⟩ := hop unit rfl
        have hneg := h.pos_neg h₁ h₂ hunit
        refine ⟨[], ?_, h.crashes_nil⟩
        simp only [stores, readAt_nat (Nat.lt_succ_of_le h₂), ok_bind, gt_iff_lt, not_lt.mpr hneg.le,
          not_false_eq_true, if_true, ite_self]

end

/-! ## After every run -/

/-- **Which crashes a pool survives**, in every state of a run: those before the first
store of a call, or after the last. -/
theorem crash_survives_iff {unitCount : Nat} {raw : Nat → α} {s : ShmPool α}
    {units : Finset Nat} (h : Run unitCount raw s units) (op : Update)
    (hop : ∀ unit, op = .release unit → 1 ≤ unit ∧ unit ≤ unitCount) (k : Nat) :
    ∃ l s₁ s₂, s.stores op = .ok l ∧ s.crash op k = .ok s₁ ∧
      attach unitCount raw (some s₁) = (0, s₂) ∧
      (Survives s₂ ↔ k = 0 ∨ l.length ≤ k) := by
  have hholds := h.holds
  obtain ⟨l, hl, hcrash⟩ := hholds.ok.crashes op (by rw [hholds.total]; exact hop)
  obtain ⟨s₁, h₁, htotal, hiff⟩ := hcrash k
  refine ⟨l, s₁, s₁, hl, ?_, ?_, hiff⟩
  · simp only [crash, hl, ok_bind, h₁]
  · rw [attach, if_neg (not_not.mpr (htotal.trans hholds.total))]

/-- The process dies after the last store of `Release`, in a pool of one unit that was in use:
the pool is found with this unit free. -/
theorem crash_survives_iff_release : ∃ s s₁ : ShmPool Nat,
    (init 1 (fun _ => 0)).alloc = .ok (some 1, s) ∧ s.crash (.release 1) 3 = .ok s₁ ∧
    attach 1 (fun _ => 0) (some s₁) = (0, s₁) ∧ s₁.validUnitCount = 1 ∧ Survives s₁ := by
  obtain ⟨s, halloc, l, s₁, hl, hthree, h₁, hattach, hvalid⟩ : ∃ s : ShmPool Nat,
      (init 1 (fun _ => 0)).alloc = .ok (some 1, s) ∧ ∃ l s₁, s.stores (.release 1) = .ok l ∧
        l.length = 3 ∧ s.crash (.release 1) 3 = .ok s₁ ∧
        attach 1 (fun _ => 0) (some s₁) = (0, s₁) ∧ s₁.validUnitCount = 1 :=
    ⟨_, rfl, _, _, rfl, rfl, rfl, rfl, rfl⟩
  have hperform : (init 1 (fun _ => 0)).perform .alloc = .ok (.ptr (some 1), s) := by
    unfold perform
    rw [halloc]
    rfl
  have hrun := Run.perform .init (show Op.alloc.Within 1 from trivial) hperform
  obtain ⟨l', s₁', s₂, hl', h₁', hattach', hiff⟩ := crash_survives_iff hrun (.release 1)
    (by rintro unit ⟨⟩; exact ⟨by decide, by decide⟩) 3
  obtain rfl := Except.ok.inj (hl.symm.trans hl')
  obtain rfl := Except.ok.inj (h₁.symm.trans h₁')
  obtain rfl : s₁ = s₂ := congrArg Prod.snd (hattach.symm.trans hattach')
  exact ⟨s, s₁, halloc, h₁, hattach, hvalid, hiff.mpr (Or.inr hthree.le)⟩

/-- The process dies after the first store of `Alloc` in a new pool of one unit: the
counter says that a unit is free, and `Alloc` reads behind the array. -/
theorem crash_alloc_lost : ∃ s₁ : ShmPool Nat,
    (init 1 (fun _ => 0)).crash .alloc 1 = .ok s₁ ∧
    attach 1 (fun _ => 0) (some s₁) = (0, s₁) ∧
    s₁.alloc = .error .outOfBounds ∧ ¬ Survives s₁ := by
  have hend : ∀ s₁ : ShmPool Nat, s₁.alloc = .error .outOfBounds → ¬ Survives s₁ := by
    intro s₁ hfault hs
    obtain ⟨unit, s', halloc, -⟩ := (hs s₁ .start).alloc
    rw [hfault] at halloc
    cases halloc
  exact ⟨_, rfl, rfl, rfl, hend _ rfl⟩

end ShmPool

end PlayFrame
