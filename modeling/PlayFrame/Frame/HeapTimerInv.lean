/-
# `PlayFrame.Frame.HeapTimerInv` — the representation invariant of the timer heap

The arrays of `HeapTimer` are an instance of `Lib.Heap` (the heap and the table of
positions) and of `Lib.FreeList` (the free slots chained through the same table).
`Inv` says so, and adds what ties the two to the nodes: which slot a node owns,
that no node is outside the heap, and that an allocation number is not reused.

Two pieces of code touch more than one of these: taking a node out of the heap
(`RemoveNode` and the `delete` that follows it, `dropped_spec`) and putting one in
(the end of `RegisterTimer`, `inserted_added`).  They are treated here; the public
functions follow in `HeapTimerOps`.  Since the heap holds all nodes and nothing
else, what an operation does is said by what it does to `nodes`.
-/
import PlayFrame.Frame.HeapTimer
import PlayFrame.Lib.Heap
import PlayFrame.Lib.FreeList

namespace PlayFrame

open Lib

/-! ## Timer ids -/

section
variable {k r : Int}

theorem makeTimerId_eq (hk : 0 ≤ k) (hr : 0 ≤ r) (hr' : r < 4294967296) :
    makeTimerId k r = k * 4294967296 + r := by
  obtain ⟨k, rfl⟩ := Int.eq_ofNat_of_zero_le hk
  obtain ⟨r, rfl⟩ := Int.eq_ofNat_of_zero_le hr
  have h : k <<< 32 ||| r = k * 2 ^ 32 + r := by
    rw [← Nat.shiftLeft_add_eq_or_of_lt (by omega), Nat.shiftLeft_eq]
  show ((k <<< 32 ||| r : Nat) : Int) = _
  rw [h]
  push_cast
  rfl

theorem slotOf_makeTimerId (hk : 0 ≤ k) (hk' : k < 2147483648) (hr : 0 ≤ r)
    (hr' : r < 2147483648) : slotOf (makeTimerId k r) = k := by
  rw [makeTimerId_eq hk hr (by omega), slotOf, Int.shiftRight_eq_div_pow,
    toInt32_of_range (by omega) (by omega)]
  omega

theorem randOf_makeTimerId (hk : 0 ≤ k) (hr : 0 ≤ r) (hr' : r < 2147483648) :
    randOf (makeTimerId k r) = r := by
  have hland : ∀ n : Nat, Int.land n 0xffffffff = ((n % 4294967296 : Nat) : Int) := by
    intro n
    show ((n &&& 0xffffffff : Nat) : Int) = _
    rw [Nat.and_two_pow_sub_one_eq_mod n 32]
  rw [makeTimerId_eq hk hr (by omega), randOf]
  obtain ⟨n, hn⟩ := Int.eq_ofNat_of_zero_le (by omega : 0 ≤ k * 4294967296 + r)
  rw [hn, hland, toInt32_of_range (by omega) (by omega)]
  omega

end

namespace HeapTimer

variable {κ δ σ : Type}

/-! ## The instance of the heap library -/

/-- The expire time of the node at `p`. -/
def nodeKey (nodes : Ptr → Option (TimerNode κ δ)) (p : Ptr) : TimeValue :=
  match nodes p with
  | some n => n.expireTime
  | none => ⟨0, 0⟩

/-- The slot in the id of a node. -/
def slot (n : TimerNode κ δ) : Nat := (slotOf n.timerId).toNat

/-- The slot of the node at `p`. -/
def nodeSlot (nodes : Ptr → Option (TimerNode κ δ)) (p : Ptr) : Nat :=
  match nodes p with
  | some n => slot n
  | none => 0

/-- The heap and the table of positions. -/
def table (s : HeapTimer κ δ) : BackHeap Ptr := ⟨s.heap, s.timerNodeIndexArray⟩

/-- The state with another heap and table of positions. -/
def withTable (s : HeapTimer κ δ) (t : BackHeap Ptr) : HeapTimer κ δ :=
  { s with heap := t.elems, timerNodeIndexArray := t.back }

section
variable (s : HeapTimer κ δ) (t : BackHeap Ptr)

@[simp] theorem table_elems : s.table.elems = s.heap := rfl
@[simp] theorem table_back : s.table.back = s.timerNodeIndexArray := rfl
@[simp] theorem withTable_table : (s.withTable t).table = t := rfl
@[simp] theorem withTable_heapSize : (s.withTable t).heapSize = s.heapSize := rfl
@[simp] theorem withTable_curSize : (s.withTable t).curSize = s.curSize := rfl
@[simp] theorem withTable_nodes : (s.withTable t).nodes = s.nodes := rfl

end

/-- The node at `p` has a slot inside the arrays. -/
def Slotted (s : HeapTimer κ δ) (p : Ptr) : Prop :=
  ∃ n, s.nodes p = some n ∧ slotOf n.timerId = (slot n : Int) ∧ slot n < s.heapSize

section
variable {s : HeapTimer κ δ} {p q x : Ptr} {n m : TimerNode κ δ} {pos : Nat}

theorem deref_eq (h : s.nodes p = some n) : s.deref p = .ok n := by
  unfold deref; rw [h]

theorem nodeKey_eq {nodes : Ptr → Option (TimerNode κ δ)} (h : nodes p = some n) :
    nodeKey nodes p = n.expireTime := by
  unfold nodeKey; rw [h]

theorem nodeSlot_eq {nodes : Ptr → Option (TimerNode κ δ)} (h : nodes p = some n) :
    nodeSlot nodes p = slot n := by
  unfold nodeSlot; rw [h]

theorem Slotted.slot_eq (h : Slotted s p) (hn : s.nodes p = some n) :
    slotOf n.timerId = (nodeSlot s.nodes p : Nat) ∧ nodeSlot s.nodes p < s.heapSize := by
  obtain ⟨n', hn', hk, hlt⟩ := h
  rw [hn] at hn'; cases hn'
  rw [nodeSlot_eq hn]
  exact ⟨hk, hlt⟩

theorem getParentPos_eq (i : Nat) : getParentPos i = parentPos i := by
  unfold getParentPos parentPos; split <;> omega

theorem getLeftChildPos_eq (i : Nat) : getLeftChildPos i = leftPos i := rfl

theorem setHeap_setIndex (hp : Slotted s p) (hn : s.nodes p = some n) (hpos : pos < s.heapSize) :
    (do let s ← s.setHeap pos p
        s.setIndex (slotOf n.timerId) pos) =
      .ok (s.withTable (s.table.put (nodeSlot s.nodes) pos p)) := by
  obtain ⟨hk, hlt⟩ := hp.slot_eq hn
  simp only [setHeap, setIndex, writeAt_nat hpos, ok_bind, hk, writeAt_nat hlt]
  rfl

theorem place_eq (hx : Slotted s x) (hpos : pos < s.heapSize) :
    s.place x pos = .ok (s.withTable (s.table.put (nodeSlot s.nodes) pos x)) := by
  obtain ⟨n, hn, _⟩ := id hx
  have hmove := setHeap_setIndex hx hn hpos
  simp only [setHeap, writeAt_nat hpos, ok_bind] at hmove
  simp only [place, setHeap, writeAt_nat hpos, ok_bind,
    deref_eq (s := { s with heap := Function.update s.heap pos x }) hn]
  exact hmove

theorem rotateUp_eq : ∀ (fuel : Nat) (s : HeapTimer κ δ) (x : Ptr) (pos : Nat), Slotted s x →
    (∀ i < pos, Slotted s (s.heap i)) → pos < s.heapSize →
    rotateUp fuel s x pos (getParentPos pos) =
      .ok (s.withTable (siftUp (nodeKey s.nodes) (nodeSlot s.nodes) fuel s.table x pos))
  | 0, s, x, pos, hx, _, hpos => place_eq hx hpos
  | fuel + 1, s, x, pos, hx, hcells, hpos => by
      unfold rotateUp siftUp
      rcases Nat.eq_zero_or_pos pos with rfl | h0
      · simp only [gt_iff_lt, Nat.lt_irrefl, if_false, false_and]
        exact place_eq hx hpos
      have hlt : parentPos pos < pos := parentPos_lt h0
      have hp := hcells _ hlt
      obtain ⟨n, hn, _⟩ := id hx
      obtain ⟨m, hm, _⟩ := id hp
      have hread : s.heapAt (parentPos pos) = .ok (s.heap (parentPos pos)) :=
        readAt_nat (hlt.trans hpos)
      have hkey : (!timervalGte n.expireTime m.expireTime) = true ↔
          nodeKey s.nodes x < nodeKey s.nodes (s.table.elems (parentPos pos)) := by
        rw [table_elems, nodeKey_eq hn, nodeKey_eq hm, timervalGte_eq, ← not_le]
        simp
      simp only [gt_iff_lt, h0, if_true, true_and, getParentPos_eq, deref_eq hn, hread, ok_bind,
        deref_eq hm, hkey]
      split
      · have hmove := setHeap_setIndex hp hm hpos
        simp only [setHeap, writeAt_nat hpos, ok_bind] at hmove ⊢
        rw [hmove, ok_bind, ← getParentPos_eq (parentPos pos)]
        refine rotateUp_eq fuel _ x _ hx (fun i hi => ?_) (hlt.trans hpos)
        have hne : i ≠ pos := by omega
        show Slotted s ((s.table.put (nodeSlot s.nodes) pos _).elems i)
        rw [put_elems_of_ne _ _ _ _ hne]
        exact hcells i (by omega)
      · exact place_eq hx hpos

theorem chooseChild_eq {c : Nat} (hcells : ∀ i < s.curSize, Slotted s (s.heap i))
    (hroom : s.curSize ≤ s.heapSize) :
    s.chooseChild c = .ok (minChild (nodeKey s.nodes) s.table s.curSize c) := by
  unfold chooseChild minChild
  by_cases hc : c + 1 < s.curSize
  · obtain ⟨l, hl, _⟩ := hcells c (by omega)
    obtain ⟨r, hr, _⟩ := hcells (c + 1) hc
    have hreadl : s.heapAt (c : Int) = .ok (s.heap c) := readAt_nat (by omega)
    have hreadr : s.heapAt ((c + 1 : Nat) : Int) = .ok (s.heap (c + 1)) := readAt_nat (by omega)
    have hkey : nodeKey s.nodes (s.table.elems (c + 1)) ≤ nodeKey s.nodes (s.table.elems c) ↔
        timervalGte l.expireTime r.expireTime = true := by
      rw [table_elems, nodeKey_eq hr, nodeKey_eq hl, timervalGte_eq, decide_eq_true_iff]
    simp only [hc, if_true, true_and, hreadl, hreadr, ok_bind, deref_eq hl, deref_eq hr, hkey]
  · simp only [hc, if_false, false_and]

theorem rotateDown_eq : ∀ (fuel : Nat) (s : HeapTimer κ δ) (x : Ptr) (pos : Nat), Slotted s x →
    (∀ i < s.curSize, Slotted s (s.heap i)) → s.curSize ≤ s.heapSize → pos < s.heapSize →
    rotateDown fuel s x pos (getLeftChildPos pos) =
      .ok (s.withTable
        (siftDown (nodeKey s.nodes) (nodeSlot s.nodes) s.curSize fuel s.table x pos))
  | 0, s, x, pos, hx, _, _, hpos => place_eq hx hpos
  | fuel + 1, s, x, pos, hx, hcells, hroom, hpos => by
      unfold rotateDown siftDown
      by_cases hc : leftPos pos < s.curSize
      swap
      · simp only [getLeftChildPos_eq, hc, if_false, false_and]
        exact place_eq hx hpos
      have hlt := minChild_lt (nodeKey s.nodes) s.table hc
      simp only [getLeftChildPos_eq, hc, if_true, true_and, chooseChild_eq hcells hroom, ok_bind]
      generalize minChild (nodeKey s.nodes) s.table s.curSize (leftPos pos) = c at hlt ⊢
      have hp := hcells _ hlt
      obtain ⟨n, hn, _⟩ := id hx
      obtain ⟨m, hm, _⟩ := id hp
      have hread : s.heapAt (c : Int) = .ok (s.heap c) := readAt_nat (by omega)
      have hkey : nodeKey s.nodes (s.table.elems c) ≤ nodeKey s.nodes x ↔
          timervalGte n.expireTime m.expireTime = true := by
        rw [table_elems, nodeKey_eq hn, nodeKey_eq hm, timervalGte_eq, decide_eq_true_iff]
      simp only [deref_eq hn, hread, ok_bind, deref_eq hm, hkey]
      split
      · have hmove := setHeap_setIndex hp hm hpos
        simp only [setHeap, writeAt_nat hpos, ok_bind] at hmove ⊢
        rw [hmove, ok_bind, ← getLeftChildPos_eq]
        refine rotateDown_eq fuel _ x _ hx (fun i hi => ?_) hroom (hlt.trans_le hroom)
        show Slotted s ((s.table.put (nodeSlot s.nodes) pos _).elems i)
        by_cases hne : i = pos
        · subst hne; rw [put_elems_same]; exact hp
        · rw [put_elems_of_ne _ _ _ _ hne]; exact hcells i hi
      · exact place_eq hx hpos

theorem fillHole_eq {i : Nat} (hcells : ∀ j < s.curSize + 1, j ≠ i → Slotted s (s.heap j))
    (hroom : s.curSize + 1 ≤ s.heapSize) (hi : i ≤ s.curSize) :
    s.fillHole i = .ok (s.withTable
      (removeAt (nodeKey s.nodes) (nodeSlot s.nodes) s.curSize s.table i)) := by
  unfold fillHole removeAt
  by_cases hlt : i < s.curSize
  swap
  · simp only [hlt, if_false]
    rfl
  have hx := hcells s.curSize (by omega) (by omega)
  obtain ⟨m, hm, _⟩ := id hx
  have hlast : s.heapAt (s.curSize : Int) = .ok (s.heap s.curSize) := readAt_nat (by omega)
  have hi' : i < s.heapSize := by omega
  have hmove := setHeap_setIndex hx hm hi'
  obtain ⟨h, hh⟩ : ∃ h, h = s.table.put (nodeSlot s.nodes) i (s.table.elems s.curSize) :=
    ⟨_, rfl⟩
  rw [← table_elems, ← hh] at hmove
  simp only [setHeap, writeAt_nat (by omega : i < s.heapSize), ok_bind, table_elems] at hmove
  simp only [hlt, if_true, hlast, ok_bind, setHeap, writeAt_nat (by omega : i < s.heapSize),
    deref_eq (s := { s with heap := Function.update s.heap i (s.heap s.curSize) }) hm, hmove,
    ← hh]
  -- after the move every cell below `cur_size_` holds a node, the hole included
  have hcells' : ∀ j < s.curSize, Slotted s (h.elems j) := by
    intro j hj
    by_cases hji : j = i
    · subst hji; rw [hh, put_elems_same]; exact hx
    · rw [hh, put_elems_of_ne _ _ _ _ hji]; exact hcells j (by omega) hji
  have hp := hcells' (parentPos i) ((parentPos_le i).trans_lt hlt)
  obtain ⟨q, hq, _⟩ := id hp
  have hpar := parentPos_le i
  have hread : (s.withTable h).heapAt (parentPos i : Int) = .ok (h.elems (parentPos i)) :=
    readAt_nat (by simp only [withTable_heapSize]; omega)
  have hkey : nodeKey s.nodes (h.elems (parentPos i)) ≤ nodeKey s.nodes (s.heap s.curSize) ↔
      timervalGte m.expireTime q.expireTime = true := by
    rw [nodeKey_eq hm, nodeKey_eq hq, timervalGte_eq, decide_eq_true_iff]
  simp only [getParentPos_eq, hread, ok_bind, deref_eq (s := s.withTable h) hq, table_elems,
    hkey]
  split
  · exact rotateDown_eq _ (s.withTable h) _ i hx hcells' (Nat.le_of_succ_le hroom)
      (by simp only [withTable_heapSize]; omega)
  · rw [← getParentPos_eq]
    exact rotateUp_eq _ (s.withTable h) _ i hx (fun j hj => hcells' j (hj.trans hlt))
      (by simp only [withTable_heapSize]; omega)

end

/-! ## The invariant -/

/-- The node `n` owns its slot: its id is the slot and the random number there. -/
structure Owns (s : HeapTimer κ δ) (n : TimerNode κ δ) : Prop where
  pos : 0 < slot n
  lt : slot n < s.heapSize
  slot_eq : slotOf n.timerId = slot n
  id_eq : n.timerId = makeTimerId (slot n) (s.randArray (slot n))
  rand : 0 ≤ s.randArray (slot n) ∧ s.randArray (slot n) < Random.M

/-- The slots in `l` are those of `1 ..< heap_size_` that no node owns. -/
def Unowned (s : HeapTimer κ δ) (l : List Nat) : Prop :=
  ∀ k, k ∈ l ↔ 0 < k ∧ k < s.heapSize ∧ ∀ p n, s.nodes p = some n → slot n ≠ k

/-- The representation invariant. -/
structure Inv (s : HeapTimer κ δ) : Prop where
  room : s.curSize + 2 ≤ s.heapSize
  order : Ordered (nodeKey s.nodes) s.curSize s.table
  back : Backed (nodeSlot s.nodes) s.curSize s.table
  held : ∀ p, (∃ i < s.curSize, s.heap i = p) ↔ ∃ n, s.nodes p = some n
  owns : ∀ p n, s.nodes p = some n → Owns s n
  free : ∃ l, FreeList s.timerNodeIndexArray s.freeTimerNodeIndex l s.heapSize ∧ Unowned s l
  /-- slot 0 is never handed out -/
  zero : s.timerNodeIndexArray 0 < 0
  null : s.nodes null = none
  fresh : ∀ p, s.fresh ≤ p → s.nodes p = none
  fresh_pos : 0 < s.fresh
  seed : -2147483648 ≤ s.randMaker.seed ∧ s.randMaker.seed < 2147483648

section
variable {s : HeapTimer κ δ} {i j k : Nat} {p q : Ptr} {n m : TimerNode κ δ}

theorem Owns.slotted (ho : Owns s n) (hn : s.nodes p = some n) : Slotted s p :=
  ⟨n, hn, ho.slot_eq, ho.lt⟩

theorem Owns.rand_eq (ho : Owns s n) : randOf n.timerId = s.randArray (slot n) := by
  rw [ho.id_eq]
  exact randOf_makeTimerId (Int.natCast_nonneg _) ho.rand.1 (ho.rand.2.trans (by decide))

theorem Inv.cell (hs : Inv s) (hi : i < s.curSize) :
    ∃ n, s.nodes (s.heap i) = some n ∧ Owns s n := by
  obtain ⟨n, hn⟩ := (hs.held (s.heap i)).mp ⟨i, hi, rfl⟩
  exact ⟨n, hn, hs.owns _ n hn⟩

theorem Inv.slotted (hs : Inv s) (hi : i < s.curSize) : Slotted s (s.heap i) := by
  obtain ⟨n, hn, ho⟩ := hs.cell hi
  exact ho.slotted hn

theorem Inv.index_eq (hs : Inv s) (hn : s.nodes p = some n) :
    ∃ i < s.curSize, s.heap i = p ∧ s.timerNodeIndexArray (slot n) = i := by
  obtain ⟨i, hi, rfl⟩ := (hs.held p).mpr ⟨n, hn⟩
  refine ⟨i, hi, rfl, ?_⟩
  rw [← nodeSlot_eq hn]
  exact hs.back i hi

theorem Inv.slot_inj (hs : Inv s) (hn : s.nodes p = some n) (hm : s.nodes q = some m)
    (h : slot n = slot m) : p = q := by
  obtain ⟨i, hi, hp, hx⟩ := hs.index_eq hn
  obtain ⟨j, hj, hq, hy⟩ := hs.index_eq hm
  rw [h, hy] at hx
  have hij : j = i := by exact_mod_cast hx
  rw [← hp, ← hq, hij]

theorem Inv.heap_inj (hs : Inv s) (hi : i < s.curSize) (hj : j < s.curSize)
    (h : s.heap i = s.heap j) : i = j :=
  hs.back.pos_inj hi hj (by rw [table_elems, h])

/-- Free slots have negative entries, so the sign of an entry tells whether it is free. -/
theorem Inv.index_neg (hs : Inv s) (hk : k < s.heapSize)
    (hfree : ∀ p n, s.nodes p = some n → slot n ≠ k) : s.timerNodeIndexArray k < 0 := by
  rcases Nat.eq_zero_or_pos k with rfl | h0
  · exact hs.zero
  · obtain ⟨l, hl, hmem⟩ := hs.free
    have hroom := hs.room
    exact hl.chain.link_neg (by omega) (fun j hj => ((hmem j).mp hj).1) k
      ((hmem k).mpr ⟨h0, hk, hfree⟩)

end

/-! ## Nodes under an update -/

section
variable {nodes : Ptr → Option (TimerNode κ δ)} {p q : Ptr} {n : TimerNode κ δ}

theorem nodeKey_update_of_ne (o : Option (TimerNode κ δ)) (h : q ≠ p) :
    nodeKey (Function.update nodes p o) q = nodeKey nodes q := by
  unfold nodeKey; rw [Function.update_of_ne h]

theorem nodeSlot_update_of_ne (o : Option (TimerNode κ δ)) (h : q ≠ p) :
    nodeSlot (Function.update nodes p o) q = nodeSlot nodes q := by
  unfold nodeSlot; rw [Function.update_of_ne h]

theorem nodeKey_update_self :
    nodeKey (Function.update nodes p (some n)) p = n.expireTime :=
  nodeKey_eq (Function.update_self ..)

theorem nodeSlot_update_self : nodeSlot (Function.update nodes p (some n)) p = slot n :=
  nodeSlot_eq (Function.update_self ..)

theorem update_none_eq_some {m : TimerNode κ δ} :
    Function.update nodes p none q = some m ↔ q ≠ p ∧ nodes q = some m := by
  by_cases h : q = p
  · subst h; simp
  · simp [h]

end

/-! ## Removal -/

/-- What the removal of the node at `p` leaves. -/
structure Dropped (s s' : HeapTimer κ δ) (p : Ptr) : Prop where
  inv : Inv s'
  nodes : s'.nodes = Function.update s.nodes p none
  curSize : s'.curSize + 1 = s.curSize
  heapSize : s'.heapSize = s.heapSize
  randMaker : s'.randMaker = s.randMaker
  root : s.heap 0 ≠ p → s'.heap 0 = s.heap 0

/-- The state in which `RemoveNode` fills the hole: the slot of the node `n` at `p` is
free and the node has no id. -/
def released (s : HeapTimer κ δ) (p : Ptr) (n : TimerNode κ δ) : HeapTimer κ δ :=
  { s with
    curSize := s.curSize - 1
    timerNodeIndexArray := Function.update s.timerNodeIndexArray (slot n) (-s.freeTimerNodeIndex)
    randArray := Function.update s.randArray (slot n) 0
    freeTimerNodeIndex := slot n
    nodes := Function.update s.nodes p (some { n with timerId := -1 }) }

section
variable {s : HeapTimer κ δ} {i : Nat} {n : TimerNode κ δ}

theorem removeNode_eq (hs : Inv s) (hi : i < s.curSize) (hn : s.nodes (s.heap i) = some n) :
    s.removeNode i = (released s (s.heap i) n).fillHole i := by
  have ho := hs.owns _ n hn
  have hroom := hs.room
  have hread : s.heapAt (i : Int) = .ok (s.heap i) := readAt_nat (by omega)
  have hpush : s.pushFreeTimerId n.timerId =
      .ok { s with
        timerNodeIndexArray :=
          Function.update s.timerNodeIndexArray (slot n) (-s.freeTimerNodeIndex)
        randArray := Function.update s.randArray (slot n) 0
        freeTimerNodeIndex := slot n } := by
    simp only [pushFreeTimerId, ho.slot_eq, ho.rand_eq, randAt, readAt_nat ho.lt,
      setIndex, setRand, writeAt_nat ho.lt, ok_bind, ne_eq, not_true_eq_false, if_false]
  unfold removeNode
  rw [if_neg (by omega), hread, ok_bind, deref_eq hn, ok_bind, hpush, ok_bind]
  simp only [assign, hn, ok_bind]
  rfl

theorem released_key (p : Ptr) (hn : s.nodes p = some n) :
    nodeKey (released s p n).nodes = nodeKey s.nodes := by
  funext q
  by_cases hq : q = p
  · subst hq
    exact nodeKey_update_self.trans (nodeKey_eq hn).symm
  · exact nodeKey_update_of_ne _ hq

/-- The heap a removal at `i` leaves. -/
def removedTable (s : HeapTimer κ δ) (i : Nat) (n : TimerNode κ δ) : BackHeap Ptr :=
  let r := released s (s.heap i) n
  removeAt (nodeKey r.nodes) (nodeSlot r.nodes) r.curSize r.table i

theorem removedTable_removed (hs : Inv s) (hi : i < s.curSize)
    (hn : s.nodes (s.heap i) = some n) :
    Removed (nodeKey s.nodes) (nodeSlot (released s (s.heap i) n).nodes) (s.curSize - 1) i
      (released s (s.heap i) n).table (removedTable s i n) := by
  have hsize : s.curSize - 1 + 1 = s.curSize := Nat.sub_add_cancel (by omega)
  have hkey := released_key _ hn
  unfold removedTable
  rw [← hkey]
  refine removeAt_removed (n := s.curSize - 1) ?_ (fun j hj hji => ?_) (by omega)
  · rw [hkey, hsize]
    exact hs.order
  · have hj' : j < s.curSize := by omega
    obtain ⟨m, hm, -⟩ := hs.cell hj'
    have hp : s.heap j ≠ s.heap i := fun e => hji (hs.heap_inj hj' hi e)
    have hk : slot m ≠ slot n := fun e => hp (hs.slot_inj hm hn e)
    show Function.update s.timerNodeIndexArray _ _
      (nodeSlot (Function.update s.nodes _ _) (s.heap j)) = j
    rw [nodeSlot_update_of_ne _ hp, nodeSlot_eq hm, Function.update_of_ne hk, ← nodeSlot_eq hm]
    exact hs.back j hj'

/-- The state after `RemoveNode` and `delete`. -/
def dropped (s : HeapTimer κ δ) (i : Nat) (n : TimerNode κ δ) : HeapTimer κ δ :=
  { (released s (s.heap i) n).withTable (removedTable s i n) with
    nodes := Function.update s.nodes (s.heap i) none }

theorem removeNode_delete (hs : Inv s) (hi : i < s.curSize) (hn : s.nodes (s.heap i) = some n) :
    (do let s₁ ← s.removeNode i
        s₁.delete (s.heap i)) = .ok (dropped s i n) := by
  have hroom := hs.room
  have hfill : (released s (s.heap i) n).fillHole i =
      .ok ((released s (s.heap i) n).withTable (removedTable s i n)) := by
    refine fillHole_eq (fun j hj hji => ?_) (by show s.curSize - 1 + 1 ≤ s.heapSize; omega)
      (by show i ≤ s.curSize - 1; omega)
    have hj' : j < s.curSize := by
      have : j < s.curSize - 1 + 1 := hj
      omega
    have hp : s.heap j ≠ s.heap i := fun e => hji (hs.heap_inj hj' hi e)
    obtain ⟨m, hm, hk, hlt⟩ := hs.slotted hj'
    exact ⟨m, (Function.update_of_ne hp _ _).trans hm, hk, hlt⟩
  have hnone : (released s (s.heap i) n).nodes (s.heap i) = some { n with timerId := -1 } :=
    Function.update_self ..
  rw [removeNode_eq hs hi hn, hfill, ok_bind]
  simp only [delete, withTable_nodes, hnone]
  unfold dropped released
  rw [Function.update_idem]

theorem dropped_free (hs : Inv s) (hi : i < s.curSize) (hn : s.nodes (s.heap i) = some n) :
    ∃ l, FreeList (dropped s i n).timerNodeIndexArray (slot n) l s.heapSize ∧
      Unowned (dropped s i n) l := by
  obtain ⟨l, hl, hmem⟩ := hs.free
  have ho := hs.owns _ n hn
  have hnl : slot n ∉ l := fun h => ((hmem _).mp h).2.2 _ n hn rfl
  refine ⟨slot n :: l, (hl.push hnl).congr (fun k hk => ?_), fun k => ?_⟩
  · refine (removedTable_removed hs hi hn).frame k (fun j hj hji => ?_)
    have hj' : j < s.curSize := by omega
    obtain ⟨m, hm, -⟩ := hs.cell hj'
    have hp : s.heap j ≠ s.heap i := fun e => hji (hs.heap_inj hj' hi e)
    show nodeSlot (Function.update s.nodes _ _) (s.heap j) ≠ k
    rw [nodeSlot_update_of_ne _ hp, nodeSlot_eq hm]
    rcases List.mem_cons.mp hk with rfl | hk
    · exact fun e => hp (hs.slot_inj hm hn e)
    · exact ((hmem k).mp hk).2.2 _ m hm
  · have hstay : ∀ q m, (dropped s i n).nodes q = some m ↔ q ≠ s.heap i ∧ s.nodes q = some m :=
      fun q m => update_none_eq_some
    rw [List.mem_cons, hmem k]
    constructor
    · rintro (rfl | ⟨h0, hlt, hfree⟩)
      · refine ⟨ho.pos, ho.lt, fun q m hq e => ?_⟩
        obtain ⟨hqp, hq⟩ := (hstay q m).mp hq
        exact hqp (hs.slot_inj hq hn e)
      · exact ⟨h0, hlt, fun q m hq => hfree q m ((hstay q m).mp hq).2⟩
    · rintro ⟨h0, hlt, hfree⟩
      by_cases hk : k = slot n
      · exact Or.inl hk
      refine Or.inr ⟨h0, hlt, fun q m hq e => ?_⟩
      by_cases hqp : q = s.heap i
      · subst hqp
        rw [hn] at hq; cases hq
        exact hk e.symm
      · exact hfree q m ((hstay q m).mpr ⟨hqp, hq⟩) e

/-- **RemoveNode and delete.**  The node at position `i` goes, and nothing else. -/
theorem dropped_spec (hs : Inv s) (hi : i < s.curSize) (hn : s.nodes (s.heap i) = some n) :
    Dropped s (dropped s i n) (s.heap i) := by
  have hroom := hs.room
  have hrem := removedTable_removed hs hi hn
  have hcurSize : (dropped s i n).curSize = s.curSize - 1 := rfl
  have hheap : (dropped s i n).heap = (removedTable s i n).elems := rfl
  have hstay : ∀ q m, (dropped s i n).nodes q = some m ↔ q ≠ s.heap i ∧ s.nodes q = some m :=
    fun q m => update_none_eq_some
  -- the cells of the new heap are the old ones but `i`
  have hcell : ∀ q, (∃ j < s.curSize - 1, (removedTable s i n).elems j = q) ↔
      q ≠ s.heap i ∧ ∃ j < s.curSize, s.heap j = q := by
    intro q
    rw [hrem.content q]
    constructor
    · rintro ⟨j, hj, hji, rfl⟩
      have hj' : j < s.curSize := by omega
      exact ⟨fun e => hji (hs.heap_inj hj' hi e), j, hj', rfl⟩
    · rintro ⟨hq, j, hj, rfl⟩
      exact ⟨j, by omega, by rintro rfl; exact hq rfl, rfl⟩
  have hne : ∀ j < s.curSize - 1, (removedTable s i n).elems j ≠ s.heap i :=
    fun j hj => ((hcell _).mp ⟨j, hj, rfl⟩).1
  refine
    { inv :=
        { room := by rw [hcurSize]; show s.curSize - 1 + 2 ≤ s.heapSize; omega
          order := hrem.order.congr (fun j hj => nodeKey_update_of_ne _ (hne j hj))
          back := hrem.back.congr (fun j hj => ?_)
          held := fun q => ?_
          owns := fun q m hq => ?_
          free := dropped_free hs hi hn
          zero := ?_
          null := ?_
          fresh := fun q hq => ?_
          fresh_pos := hs.fresh_pos
          seed := hs.seed }
      nodes := rfl
      curSize := by rw [hcurSize]; omega
      heapSize := rfl
      randMaker := rfl
      root := fun h0 => hrem.root (by
        rcases Nat.eq_zero_or_pos i with rfl | hi0
        · exact absurd rfl h0
        · exact hi0) }
  · exact (nodeSlot_update_of_ne _ (hne j hj)).trans (nodeSlot_update_of_ne _ (hne j hj)).symm
  · rw [hheap, hcurSize, hcell q, hs.held q]
    simp only [hstay, exists_and_left]
  · obtain ⟨hqp, hq⟩ := (hstay q m).mp hq
    have hom := hs.owns q m hq
    have hrand : (dropped s i n).randArray (slot m) = s.randArray (slot m) :=
      Function.update_of_ne (fun e => hqp (hs.slot_inj hq hn e)) _ _
    exact { hom with id_eq := by rw [hrand]; exact hom.id_eq, rand := by rw [hrand]; exact hom.rand }
  · have hframe : (removedTable s i n).back 0 = Function.update s.timerNodeIndexArray (slot n) _ 0 :=
      hrem.frame 0 (fun j hj hji e => ?_)
    · show (removedTable s i n).back 0 < 0
      rw [hframe, Function.update_of_ne (hs.owns _ n hn).pos.ne]
      exact hs.zero
    · have hj' : j < s.curSize := by omega
      obtain ⟨m, hm, hom⟩ := hs.cell hj'
      have hp : s.heap j ≠ s.heap i := fun e => hji (hs.heap_inj hj' hi e)
      have e' : nodeSlot (Function.update s.nodes _ _) (s.heap j) = 0 := e
      rw [nodeSlot_update_of_ne _ hp, nodeSlot_eq hm] at e'
      exact hom.pos.ne' e'
  · have hp : null ≠ s.heap i := by
      intro e
      have := hs.null
      rw [e, hn] at this
      cases this
    exact (Function.update_of_ne hp _ _).trans hs.null
  · show Function.update s.nodes (s.heap i) none q = none
    by_cases hqp : q = s.heap i
    · subst hqp; exact Function.update_self ..
    · rw [Function.update_of_ne hqp]; exact hs.fresh q hq

end

/-! ## Insertion -/

/-- The arrays of `g` are those of `s`, continued by free slots. -/
structure Grown (s g : HeapTimer κ δ) : Prop where
  le : s.heapSize ≤ g.heapSize
  same : g = { s with
    heapSize := g.heapSize
    timerNodeIndexArray := g.timerNodeIndexArray
    randArray := g.randArray }
  index : ∀ k < s.heapSize, g.timerNodeIndexArray k = s.timerNodeIndexArray k
  rand : ∀ k < s.heapSize, g.randArray k = s.randArray k
  free : ∀ a l, FreeList s.timerNodeIndexArray a l s.heapSize → (∀ k ∈ l, k < s.heapSize) →
    ∃ l', FreeList g.timerNodeIndexArray a l' g.heapSize ∧
      ∀ k, k ∈ l' ↔ k ∈ l ∨ s.heapSize ≤ k ∧ k < g.heapSize

theorem Grown.refl (s : HeapTimer κ δ) : Grown s s where
  le := Nat.le_refl _
  same := rfl
  index := fun _ _ => rfl
  rand := fun _ _ => rfl
  free := fun a l hl _ => ⟨l, hl, fun k => ⟨Or.inl, fun h => h.elim id (by omega)⟩⟩

theorem growHeap_grown (s : HeapTimer κ δ) : Grown s s.growHeap where
  le := by show s.heapSize ≤ 2 * s.heapSize; omega
  same := rfl
  index := fun k hk => if_pos hk
  rand := fun k hk => if_pos hk
  free := by
    intro a l hl hlt
    have hsize : s.growHeap.heapSize = s.heapSize + s.heapSize := Nat.two_mul _
    refine ⟨l ++ List.range' s.heapSize s.heapSize, ?_, fun k => ?_⟩
    · rw [hsize]
      exact hl.grow hlt (fun k hk => if_pos hk) (fun k hk _ => if_neg (by omega))
    · rw [hsize, List.mem_append, List.mem_range'_1]

/-- What the registration of the node `n` leaves. -/
structure Added (s s' : HeapTimer κ δ) (n : TimerNode κ δ) : Prop where
  inv : Inv s'
  nodes : s'.nodes = Function.update s.nodes s.fresh (some n)
  curSize : s'.curSize = s.curSize + 1
  heapSize : s.heapSize ≤ s'.heapSize
  randMaker : s'.randMaker = s.randMaker.getRand.2
  root : 0 < s.curSize → nodeKey s.nodes (s.heap 0) ≤ n.expireTime → s'.heap 0 = s.heap 0

/-- The state in which `RegisterTimer` may grow the heap: the slot `k` is taken and the
node `n` is allocated. -/
def armed (s : HeapTimer κ δ) (k : Nat) (n : TimerNode κ δ) : HeapTimer κ δ :=
  { s with
    freeTimerNodeIndex := -s.timerNodeIndexArray k
    randMaker := s.randMaker.getRand.2
    randArray := Function.update s.randArray k s.randMaker.getRand.1
    nodes := Function.update s.nodes s.fresh (some n)
    fresh := s.fresh + 1 }

/-- The state after the node has been rotated into the heap. -/
def inserted (g : HeapTimer κ δ) (p : Ptr) : HeapTimer κ δ :=
  { g.withTable (siftUp (nodeKey g.nodes) (nodeSlot g.nodes) g.curSize g.table p g.curSize) with
    curSize := g.curSize + 1 }

section
variable {s g : HeapTimer κ δ} {k : Nat} {n : TimerNode κ δ}

theorem Inv.free_slot (hs : Inv s) :
    ∃ (k : Nat) (l : List Nat), FreeList s.timerNodeIndexArray k (k :: l) s.heapSize ∧
      s.freeTimerNodeIndex = k ∧ Unowned s (k :: l) := by
  obtain ⟨l, hl, hmem⟩ := hs.free
  have hroom := hs.room
  have hl0 : l ≠ [] := by
    -- fewer nodes than slots
    have hcard : ((Finset.range s.curSize).image (fun i => nodeSlot s.nodes (s.heap i))).card <
        (Finset.Ico 1 s.heapSize).card := by
      refine lt_of_le_of_lt Finset.card_image_le ?_
      rw [Finset.card_range, Nat.card_Ico]
      omega
    obtain ⟨k, hk, hno⟩ := Finset.exists_mem_notMem_of_card_lt_card hcard
    obtain ⟨h0, hlt⟩ := Finset.mem_Ico.mp hk
    refine List.ne_nil_of_mem ((hmem k).mpr ⟨h0, hlt, fun p n hn e => hno ?_⟩)
    obtain ⟨i, hi, rfl, -⟩ := hs.index_eq hn
    refine Finset.mem_image.mpr ⟨i, Finset.mem_range.mpr hi, ?_⟩
    rw [nodeSlot_eq hn, e]
  obtain ⟨k, rest, rfl, hk⟩ := hl.head_eq hl0
  exact ⟨k, rest, hk ▸ hl, hk, hmem⟩

/-- The node `RegisterTimer` makes in the slot `k`. -/
structure NewNode (s : HeapTimer κ δ) (k : Nat) (n : TimerNode κ δ) : Prop where
  slot_eq : slotOf n.timerId = k
  id_eq : n.timerId = makeTimerId k s.randMaker.getRand.1

theorem NewNode.slot (hn : NewNode s k n) : slot n = k := by
  unfold HeapTimer.slot; rw [hn.slot_eq]; exact Int.toNat_natCast k

theorem newNode_of_id (hs : Inv s) (hk : k < s.heapSize) (hcap : s.heapSize ≤ 2147483648)
    (h : n.timerId = makeTimerId k s.randMaker.getRand.1) : NewNode s k n where
  slot_eq := by
    have hr := Random.getRand_range hs.seed.1 hs.seed.2
    rw [h]
    exact slotOf_makeTimerId (Int.natCast_nonneg k) (by omega) hr.1
      (hr.2.trans (by decide))
  id_eq := h

theorem Inv.cell_ne_fresh (hs : Inv s) {i : Nat} (hi : i < s.curSize) : s.heap i ≠ s.fresh := by
  intro e
  obtain ⟨m, hm, -⟩ := hs.cell hi
  rw [e, hs.fresh s.fresh (Nat.le_refl _)] at hm
  cases hm

theorem inserted_table (hs : Inv s) (hfree : ∀ p n, s.nodes p = some n → slot n ≠ k)
    (hn : NewNode s k n) (hg : Grown (armed s k n) g) :
    Inserted (nodeKey g.nodes) (nodeSlot g.nodes) s.curSize s.fresh g.table
      (inserted g s.fresh).table := by
  have hcur : g.curSize = s.curSize := by rw [hg.same]; rfl
  have hheap : g.table.elems = s.heap := by rw [hg.same]; rfl
  have hnodes : g.nodes = Function.update s.nodes s.fresh (some n) := by rw [hg.same]; rfl
  show Inserted _ _ _ _ _
    (siftUp (nodeKey g.nodes) (nodeSlot g.nodes) g.curSize g.table s.fresh g.curSize)
  rw [hcur]
  refine siftUp_inserted (fun i h0 hi => ?_) (fun i hi => ?_) (fun i hi => ?_)
  · have hp : parentPos i < s.curSize := (parentPos_le i).trans_lt hi
    rw [hheap, hnodes, nodeKey_update_of_ne _ (hs.cell_ne_fresh hp),
      nodeKey_update_of_ne _ (hs.cell_ne_fresh hi)]
    exact hs.order i h0 hi
  · obtain ⟨m, hm, hom⟩ := hs.cell hi
    rw [hheap, hnodes, nodeSlot_update_of_ne _ (hs.cell_ne_fresh hi), nodeSlot_eq hm]
    rw [table_back, hg.index _ hom.lt, ← nodeSlot_eq hm]
    exact hs.back i hi
  · obtain ⟨m, hm, -⟩ := hs.cell hi
    rw [hheap, hnodes, nodeSlot_update_of_ne _ (hs.cell_ne_fresh hi), nodeSlot_update_self,
      nodeSlot_eq hm, hn.slot]
    exact hfree _ m hm

theorem grown_nodes_iff (hs : Inv s) (hg : Grown (armed s k n) g) (p : Ptr)
    (m : TimerNode κ δ) :
    g.nodes p = some m ↔ p = s.fresh ∧ m = n ∨ s.nodes p = some m := by
  have hnodes : g.nodes = Function.update s.nodes s.fresh (some n) := by rw [hg.same]; rfl
  rw [hnodes]
  by_cases hp : p = s.fresh
  · subst hp
    rw [Function.update_self, hs.fresh s.fresh (Nat.le_refl _)]
    simp [eq_comm]
  · rw [Function.update_of_ne hp]
    simp [hp]

theorem inserted_frame (hs : Inv s) (hfree : ∀ p n, s.nodes p = some n → slot n ≠ k)
    (hn : NewNode s k n) (hg : Grown (armed s k n) g) {j : Nat}
    (hj : ∀ p m, g.nodes p = some m → slot m ≠ j) :
    (inserted g s.fresh).timerNodeIndexArray j = g.timerNodeIndexArray j := by
  have hheap : g.table.elems = s.heap := by rw [hg.same]; rfl
  have hnew := (grown_nodes_iff hs hg s.fresh n).mpr (Or.inl ⟨rfl, rfl⟩)
  refine (inserted_table hs hfree hn hg).frame j ?_ (fun i hi => ?_)
  · rw [nodeSlot_eq hnew]
    exact (hj _ n hnew).symm
  · obtain ⟨m, hm, -⟩ := hs.cell hi
    have hm' := (grown_nodes_iff hs hg _ m).mpr (Or.inr hm)
    rw [hheap, nodeSlot_eq hm']
    exact hj _ m hm'

theorem inserted_owns (hs : Inv s) (hk0 : 0 < k) (hklt : k < s.heapSize)
    (hfree : ∀ p n, s.nodes p = some n → slot n ≠ k) (hn : NewNode s k n)
    (hg : Grown (armed s k n) g) {p : Ptr} {m : TimerNode κ δ} (hm : g.nodes p = some m) :
    Owns (inserted g s.fresh) m := by
  have hrand : ∀ j < s.heapSize, (inserted g s.fresh).randArray j =
      Function.update s.randArray k s.randMaker.getRand.1 j := fun j hj => hg.rand j hj
  rcases (grown_nodes_iff hs hg p m).mp hm with ⟨-, rfl⟩ | hm
  · have hr := Random.getRand_range hs.seed.1 hs.seed.2
    have hk : (inserted g s.fresh).randArray k = s.randMaker.getRand.1 := by
      rw [hrand k hklt, Function.update_self]
    exact
      { pos := by rw [hn.slot]; exact hk0
        lt := by rw [hn.slot]; exact hklt.trans_le hg.le
        slot_eq := by rw [hn.slot]; exact hn.slot_eq
        id_eq := by rw [hn.slot, hk]; exact hn.id_eq
        rand := by rw [hn.slot, hk]; exact hr }
  · have hom := hs.owns p m hm
    have hk : (inserted g s.fresh).randArray (slot m) = s.randArray (slot m) := by
      rw [hrand _ hom.lt, Function.update_of_ne (hfree p m hm)]
    exact
      { pos := hom.pos
        lt := hom.lt.trans_le hg.le
        slot_eq := hom.slot_eq
        id_eq := by rw [hk]; exact hom.id_eq
        rand := by rw [hk]; exact hom.rand }

/-- The free list after a registration: the head is gone, and where the arrays have
grown the new slots follow the last one. -/
theorem inserted_free {l : List Nat} (hs : Inv s)
    (hl : FreeList s.timerNodeIndexArray k (k :: l) s.heapSize) (hmem : Unowned s (k :: l))
    (hn : NewNode s k n) (hg : Grown (armed s k n) g) :
    ∃ l', FreeList (inserted g s.fresh).timerNodeIndexArray
        (inserted g s.fresh).freeTimerNodeIndex l' g.heapSize ∧
      Unowned (inserted g s.fresh) l' := by
  obtain ⟨hk0, hklt, hfree⟩ := (hmem k).mp List.mem_cons_self
  obtain ⟨hpop, hkl⟩ := hl.pop
  obtain ⟨l', hl', hmem'⟩ := hg.free _ l hpop
    (fun j hj => ((hmem j).mp (List.mem_cons_of_mem _ hj)).2.1)
  have hnew := (grown_nodes_iff hs hg s.fresh n).mpr (Or.inl ⟨rfl, rfl⟩)
  have hunowned : Unowned (inserted g s.fresh) l' := by
    intro j
    rw [hmem' j]
    constructor
    · rintro (hj | ⟨hge, hlt⟩)
      · obtain ⟨h0, hlt, hno⟩ := (hmem j).mp (List.mem_cons_of_mem _ hj)
        refine ⟨h0, hlt.trans_le hg.le, fun p m hm => ?_⟩
        rcases (grown_nodes_iff hs hg p m).mp hm with ⟨-, rfl⟩ | hm
        · rw [hn.slot]; rintro rfl; exact hkl hj
        · exact hno p m hm
      · have hge' : s.heapSize ≤ j := hge
        refine ⟨by omega, hlt, fun p m hm => ?_⟩
        rcases (grown_nodes_iff hs hg p m).mp hm with ⟨-, rfl⟩ | hm
        · rw [hn.slot]; omega
        · have := (hs.owns p m hm).lt; omega
    · rintro ⟨h0, hlt, hno⟩
      rcases Nat.lt_or_ge j s.heapSize with hj | hj
      · have hjk : j ≠ k := by rw [← hn.slot]; exact (hno _ n hnew).symm
        have hin := (hmem j).mpr
          ⟨h0, hj, fun p m hm => hno p m ((grown_nodes_iff hs hg p m).mpr (Or.inr hm))⟩
        exact Or.inl ((List.mem_cons.mp hin).resolve_left hjk)
      · exact Or.inr ⟨hj, hlt⟩
  refine ⟨l', ?_, hunowned⟩
  have hhead : (inserted g s.fresh).freeTimerNodeIndex = -s.timerNodeIndexArray k := by
    show g.freeTimerNodeIndex = _; rw [hg.same]; rfl
  rw [hhead]
  exact hl'.congr (fun j hj => inserted_frame hs hfree hn hg ((hunowned j).mp hj).2.2)

/-- **A new node.**  Whatever the growth, the node is in the heap and in the table. -/
theorem inserted_added {l : List Nat} (hs : Inv s)
    (hl : FreeList s.timerNodeIndexArray k (k :: l) s.heapSize) (hmem : Unowned s (k :: l))
    (hn : NewNode s k n) (hg : Grown (armed s k n) g) (hroom : s.curSize + 3 ≤ g.heapSize) :
    Added s (inserted g s.fresh) n := by
  obtain ⟨hk0, hklt, hfree⟩ := (hmem k).mp List.mem_cons_self
  have hins := inserted_table hs hfree hn hg
  have hr := Random.getRand_range hs.seed.1 hs.seed.2
  have hcur : (inserted g s.fresh).curSize = s.curSize + 1 := by
    show g.curSize + 1 = _; rw [hg.same]; rfl
  have hheap : g.table.elems = s.heap := by rw [hg.same]; rfl
  have hnodes : g.nodes = Function.update s.nodes s.fresh (some n) := by rw [hg.same]; rfl
  have hrandMaker : g.randMaker = s.randMaker.getRand.2 := by rw [hg.same]; rfl
  have hfresh : g.fresh = s.fresh + 1 := by rw [hg.same]; rfl
  have hnew := (grown_nodes_iff hs hg s.fresh n).mpr (Or.inl ⟨rfl, rfl⟩)
  refine
    { inv :=
        { room := by rw [hcur]; exact hroom
          order := by rw [hcur]; exact hins.order
          back := by rw [hcur]; exact hins.back
          held := fun p => ?_
          owns := fun p m hm => inserted_owns hs hk0 hklt hfree hn hg hm
          free := inserted_free hs hl hmem hn hg
          zero := ?_
          null := ?_
          fresh := fun p hp => ?_
          fresh_pos := by show 0 < g.fresh; rw [hfresh]; exact Nat.succ_pos _
          seed := ?_ }
      nodes := hnodes
      curSize := hcur
      heapSize := hg.le
      randMaker := hrandMaker
      root := fun h0 hroot => ?_ }
  · rw [hcur]
    show (∃ i < s.curSize + 1, (inserted g s.fresh).table.elems i = p) ↔ ∃ m, g.nodes p = some m
    rw [hins.content p, hheap, hs.held p]
    simp only [grown_nodes_iff hs hg, exists_or, exists_and_left, exists_eq, and_true]
  · have hslot : ∀ p m, g.nodes p = some m → slot m ≠ 0 :=
      fun p m hm => (inserted_owns hs hk0 hklt hfree hn hg hm).pos.ne'
    rw [inserted_frame hs hfree hn hg hslot, hg.index 0 (hk0.trans hklt)]
    exact hs.zero
  · show g.nodes null = none
    rw [hnodes, Function.update_of_ne (show null ≠ s.fresh from hs.fresh_pos.ne)]
    exact hs.null
  · show g.nodes p = none
    have hp' : s.fresh < p := by
      have : g.fresh ≤ p := hp
      rw [hfresh] at this
      exact this
    rw [hnodes, Function.update_of_ne hp'.ne']
    exact hs.fresh p hp'.le
  · show -2147483648 ≤ g.randMaker.seed ∧ g.randMaker.seed < 2147483648
    rw [hrandMaker, Random.getRand_snd]
    exact ⟨by have := hr.1; simp only; omega, hr.2.trans (by decide)⟩
  · refine (hins.root h0 ?_).trans (congrFun hheap 0)
    rw [hheap, nodeKey_eq hnew, hnodes, nodeKey_update_of_ne _ (hs.cell_ne_fresh h0)]
    exact hroot

theorem insertNode_eq (hs : Inv s) (hk0 : 0 < k) (hklt : k < s.heapSize)
    (hfree : ∀ p n, s.nodes p = some n → slot n ≠ k) (hn : NewNode s k n) :
    ∃ g, Grown (armed s k n) g ∧ s.curSize + 3 ≤ g.heapSize ∧ g.heapSize ≤ 2 * s.heapSize ∧
      (armed s k n).insertNode s.fresh = .ok (inserted g s.fresh) := by
  have hroom := hs.room
  obtain ⟨g, hgrow, hg, hgroom, hgle⟩ : ∃ g,
      (if (armed s k n).curSize + 2 ≥ (armed s k n).heapSize then (armed s k n).growHeap
        else armed s k n) = g ∧ Grown (armed s k n) g ∧ s.curSize + 3 ≤ g.heapSize ∧
      g.heapSize ≤ 2 * s.heapSize := by
    refine ⟨_, rfl, ?_⟩
    split
    · exact ⟨growHeap_grown _, by show s.curSize + 3 ≤ 2 * s.heapSize; omega, Nat.le_refl _⟩
    · next h =>
      have h' : ¬ s.curSize + 2 ≥ s.heapSize := h
      exact ⟨Grown.refl _, by show s.curSize + 3 ≤ s.heapSize; omega,
        by show s.heapSize ≤ 2 * s.heapSize; omega⟩
  have hcur : g.curSize = s.curSize := by rw [hg.same]; rfl
  have hheap : g.heap = s.heap := by rw [hg.same]; rfl
  have hslotted : ∀ p m, g.nodes p = some m → Slotted g p := by
    intro p m hm
    have := inserted_owns hs hk0 hklt hfree hn hg hm
    exact ⟨m, hm, this.slot_eq, this.lt⟩
  refine ⟨g, hg, hgroom, hgle, ?_⟩
  have hrot := rotateUp_eq g.curSize g s.fresh g.curSize
    (hslotted _ n ((grown_nodes_iff hs hg _ _).mpr (Or.inl ⟨rfl, rfl⟩)))
    (fun i hi => by
      obtain ⟨m, hm, -⟩ := hs.cell (hcur ▸ hi)
      rw [hheap]
      exact hslotted _ m ((grown_nodes_iff hs hg _ _).mpr (Or.inr hm)))
    (by omega)
  simp only [insertNode, hgrow, hrot, ok_bind]
  rfl

end

end HeapTimer

end PlayFrame
