/-
# `PlayFrame.Frame.HeapTimerOps` — what the operations of the timer heap do

One theorem for each public function of `HeapTimer`: in a state with `Inv` it does
not fault, the state it leaves has `Inv` again, and the nodes change as stated:

    RegisterTimer      a node under the next allocation number        (`registerTimer_spec`)
    UnregisterTimer    the node this id names, if there is one, goes  (`unregisterTimer_hit`, `_miss`)
    after a callback   the root is armed again, or goes               (`afterExecute_spec`)

Two faults remain possible.  A `CHECK` on negative microseconds ends the process
(`registerTimer_check`), and an id whose slot is `heap_size_` passes the range check
of `UnregisterTimer` (`unregisterTimer_end`).
-/
import PlayFrame.Frame.HeapTimerInv

namespace PlayFrame

open Lib

namespace HeapTimer

variable {κ δ σ : Type}

/-! ## UnregisterTimer -/

/-- The id names the node: they agree on the slot and on the random number. -/
def Names (timerId : Int) (n : TimerNode κ δ) : Prop :=
  slotOf n.timerId = slotOf timerId ∧ randOf n.timerId = randOf timerId

section
variable {s : HeapTimer κ δ} {timerId : Int} {p : Ptr} {n : TimerNode κ δ}

theorem unregisterTimer_hit (hs : Inv s) (hn : s.nodes p = some n) (hid : Names timerId n) :
    ∃ s', s.unregisterTimer timerId = .ok s' ∧ Dropped s s' p := by
  have ho := hs.owns p n hn
  have hroom := hs.room
  have hlt := ho.lt
  obtain ⟨i, hi, rfl, hix⟩ := hs.index_eq hn
  have hslot : slotOf timerId = slot n := by rw [← hid.1]; exact ho.slot_eq
  have hrand : s.randArray (slot n) = randOf timerId := by rw [← hid.2]; exact ho.rand_eq.symm
  have hheap : s.heapAt (i : Int) = .ok (s.heap i) := readAt_nat (by omega)
  have hp : s.heap i ≠ null := by
    intro e
    rw [e, hs.null] at hn
    cases hn
  refine ⟨_, ?_, dropped_spec hs hi hn⟩
  simp only [unregisterTimer, hslot, indexAt, randAt, readAt_nat hlt, ok_bind, hix, hrand, hheap,
    hp, Int.toNat_natCast, removeNode_delete hs hi hn, ne_eq, not_true_eq_false, if_false]
  rw [if_neg (by omega), if_neg (by omega)]

/-- **UnregisterTimer of any other id.**  The slot one past the arrays is the one the
range check of the source lets through by mistake. -/
theorem unregisterTimer_miss (hs : Inv s) (hslot : slotOf timerId ≠ s.heapSize)
    (hno : ∀ p n, s.nodes p = some n → ¬ Names timerId n) :
    s.unregisterTimer timerId = .ok s := by
  simp only [unregisterTimer]
  by_cases hrange : slotOf timerId < 0 ∨ slotOf timerId > s.heapSize
  · rw [if_pos hrange]
  obtain ⟨k, hk⟩ := Int.eq_ofNat_of_zero_le (by omega : 0 ≤ slotOf timerId)
  have hlt : k < s.heapSize := by omega
  rw [if_neg hrange, hk, indexAt, readAt_nat hlt, ok_bind]
  by_cases hfree : ∀ p n, s.nodes p = some n → slot n ≠ k
  · rw [if_pos (hs.index_neg hlt hfree)]
  push Not at hfree
  obtain ⟨p, n, hn, rfl⟩ := hfree
  have ho := hs.owns p n hn
  obtain ⟨i, -, -, hix⟩ := hs.index_eq hn
  have hrand : s.randArray (slot n) ≠ randOf timerId := by
    intro e
    exact hno p n hn ⟨by rw [ho.slot_eq, hk], by rw [ho.rand_eq, e]⟩
  rw [hix, if_neg (by omega), randAt, readAt_nat hlt, ok_bind, if_pos hrand]

theorem unregisterTimer_end (hslot : slotOf timerId = s.heapSize) :
    s.unregisterTimer timerId = .error .outOfBounds := by
  simp only [unregisterTimer, hslot, indexAt, readAt]
  rw [if_neg (by omega), if_neg (by omega)]
  rfl

end

/-! ## RegisterTimer -/

section
variable {s : HeapTimer κ δ} {k : Nat} {n : TimerNode κ δ}

/-- The node a registration in the second `now` makes in the slot `k`. -/
def newTimer (s : HeapTimer κ δ) (k : Nat) (now : Int) (interval delay : TimeValue)
    (cbObj : Option κ) (data : δ) : TimerNode κ δ where
  timerId := makeTimerId k s.randMaker.getRand.1
  expireTime :=
    ⟨now + delay.sec + delay.usec / oneSecondInUsecs, delay.usec % oneSecondInUsecs⟩
  intervalTime := interval
  data := data
  cbObj := cbObj

variable {interval delay : TimeValue}

theorem registerTimer_zero (s : HeapTimer κ δ) (now : Int) (delay : TimeValue)
    (cbObj : Option κ) (data : δ) :
    s.registerTimer now ⟨0, 0⟩ delay cbObj data = .ok (-1, s) := by
  unfold registerTimer
  rw [if_pos ⟨rfl, rfl⟩]

theorem popFreeTimerId_eq (hk : k < s.heapSize) (hfree : s.freeTimerNodeIndex = k) :
    s.popFreeTimerId = .ok (makeTimerId k s.randMaker.getRand.1,
      { s with
        freeTimerNodeIndex := -s.timerNodeIndexArray k
        randMaker := s.randMaker.getRand.2
        randArray := Function.update s.randArray k s.randMaker.getRand.1 }) := by
  simp only [popFreeTimerId, hfree, indexAt, readAt_nat hk, ok_bind, setRand, writeAt_nat hk]

theorem start_eq (now : Int) : TimeValue.set now 0 = .ok ⟨now, 0⟩ :=
  have h : TimeValue.Canonical ⟨now, 0⟩ := ⟨le_refl _, show (0 : Int) < 1000000 by decide⟩
  h.set

theorem expireTime_eq (now : Int) (delay : TimeValue) :
    (do let start ← TimeValue.set now 0
        expireTime start delay) =
      if delay.usec < 0 then .error .checkFailed
      else .ok ⟨now + delay.sec + delay.usec / oneSecondInUsecs,
        delay.usec % oneSecondInUsecs⟩ := by
  rw [start_eq, ok_bind, expireTime, TimeValue.set_eq, zero_add]

theorem registerTimer_check (hs : Inv s) (now : Int) (hne : interval ≠ ⟨0, 0⟩)
    (hd : delay.usec < 0) (cbObj : Option κ) (data : δ) :
    s.registerTimer now interval delay cbObj data = .error .checkFailed := by
  obtain ⟨k, l, -, hfree, hmem⟩ := hs.free_slot
  obtain ⟨-, hklt, -⟩ := (hmem k).mp List.mem_cons_self
  have hroom := hs.room
  have hzero : ¬ (interval.sec = 0 ∧ interval.usec = 0) :=
    fun h => hne (TimeValue.ext h.1 h.2)
  have hexp := expireTime_eq now delay
  rw [if_pos hd] at hexp
  unfold registerTimer
  rw [start_eq, ok_bind] at hexp
  rw [if_neg hzero, if_neg (by omega), popFreeTimerId_eq hklt hfree, ok_bind]
  simp only [start_eq, ok_bind, hexp, error_bind]

theorem registerTimer_spec (hs : Inv s) (hcap : s.heapSize ≤ 2147483648) (now : Int)
    (hne : interval ≠ ⟨0, 0⟩) (hd : 0 ≤ delay.usec) (cbObj : Option κ) (data : δ) :
    ∃ (k : Nat) (s' : HeapTimer κ δ),
      s.registerTimer now interval delay cbObj data =
        .ok (makeTimerId k s.randMaker.getRand.1, s') ∧
      0 < k ∧ k < s.heapSize ∧ (∀ p n, s.nodes p = some n → slot n ≠ k) ∧
      Added s s' (newTimer s k now interval delay cbObj data) := by
  obtain ⟨k, l, hl, hfi, hmem⟩ := hs.free_slot
  obtain ⟨hk0, hklt, hfree⟩ := (hmem k).mp List.mem_cons_self
  have hroom := hs.room
  have hzero : ¬ (interval.sec = 0 ∧ interval.usec = 0) :=
    fun h => hne (TimeValue.ext h.1 h.2)
  set n := newTimer s k now interval delay cbObj data with hn
  have hnew : NewNode s k n := newNode_of_id hs hklt hcap rfl
  have hexp := expireTime_eq now delay
  rw [if_neg (by omega), start_eq, ok_bind] at hexp
  obtain ⟨g, hg, hgroom, -, hins⟩ := insertNode_eq hs hk0 hklt hfree hnew
  refine ⟨k, inserted g s.fresh, ?_, hk0, hklt, hfree,
    inserted_added hs hl hmem hnew hg hgroom⟩
  unfold registerTimer
  rw [if_neg hzero, if_neg (by omega), popFreeTimerId_eq hklt hfi, ok_bind]
  simp only [start_eq, ok_bind, hexp]
  exact (congrArg (· >>= fun s' => (.ok (makeTimerId k s.randMaker.getRand.1, s') :
    Result (Int × HeapTimer κ δ))) hins)

theorem registerTimer_heapSize (hs : Inv s) (hcap : s.heapSize ≤ 2147483648) {now timerId : Int}
    {cbObj : Option κ} {data : δ} {s' : HeapTimer κ δ}
    (h : s.registerTimer now interval delay cbObj data = .ok (timerId, s')) :
    s'.heapSize ≤ 2 * s.heapSize := by
  unfold registerTimer at h
  split at h
  · cases h
    omega
  split at h
  · cases h
    omega
  obtain ⟨k, l, hl, hfi, hmem⟩ := hs.free_slot
  obtain ⟨hk0, hklt, hfree⟩ := (hmem k).mp List.mem_cons_self
  rw [popFreeTimerId_eq hklt hfi, ok_bind] at h
  obtain ⟨t, -, h⟩ := bind_eq_ok.mp h
  obtain ⟨expire, -, h⟩ := bind_eq_ok.mp h
  obtain ⟨s₁, hins, h⟩ := bind_eq_ok.mp h
  cases h
  obtain ⟨g, -, -, hle, hins'⟩ := insertNode_eq hs hk0 hklt hfree
    (newNode_of_id hs hklt hcap (n := ⟨_, expire, interval, data, cbObj⟩) rfl)
  have hsame := hins.symm.trans hins'
  cases hsame
  exact hle

end

/-! ## The end of a pass of TimerPoll -/

/-- What arming the node at `p` again leaves; `n` is the node afterwards. -/
structure Rearmed (s s' : HeapTimer κ δ) (p : Ptr) (n : TimerNode κ δ) : Prop where
  inv : Inv s'
  nodes : s'.nodes = Function.update s.nodes p (some n)
  curSize : s'.curSize = s.curSize
  heapSize : s'.heapSize = s.heapSize
  randMaker : s'.randMaker = s.randMaker

section
variable {s : HeapTimer κ δ} {n : TimerNode κ δ}

/-- The state in which the root `n` has the expire time `e` but has not been rotated. -/
def retimed (s : HeapTimer κ δ) (n : TimerNode κ δ) (e : TimeValue) : HeapTimer κ δ :=
  { s with nodes := Function.update s.nodes (s.heap 0) (some { n with expireTime := e }) }

theorem retimed_sifted (hs : Inv s) (h0 : 0 < s.curSize) (e : TimeValue) :
    Sifted (nodeKey (retimed s n e).nodes) (nodeSlot s.nodes) s.curSize 0 s.table (s.heap 0)
      (siftDown (nodeKey (retimed s n e).nodes) (nodeSlot s.nodes) s.curSize s.curSize s.table
        (s.heap 0) 0) := by
  refine siftDown_rekeyed h0 hs.back (fun i hi0 hi hp => ?_)
  have hpi : parentPos i < s.curSize := (parentPos_le i).trans_lt hi
  have hne : ∀ j < s.curSize, j ≠ 0 → s.heap j ≠ s.heap 0 :=
    fun j hj hj0 e => hj0 (hs.heap_inj hj h0 e)
  show nodeKey (Function.update s.nodes _ _) (s.heap _) ≤
    nodeKey (Function.update s.nodes _ _) (s.heap i)
  rw [nodeKey_update_of_ne _ (hne _ hpi hp), nodeKey_update_of_ne _ (hne i hi hi0.ne')]
  exact hs.order i hi0 hi

theorem retimed_nodes_iff (hn : s.nodes (s.heap 0) = some n) (e : TimeValue) (q : Ptr)
    (m : TimerNode κ δ) : (retimed s n e).nodes q = some m ↔
      ∃ m₀, s.nodes q = some m₀ ∧ m = if q = s.heap 0 then { m₀ with expireTime := e } else m₀ := by
  show Function.update s.nodes (s.heap 0) (some { n with expireTime := e }) q = some m ↔ _
  by_cases hq : q = s.heap 0
  · subst hq
    simp only [Function.update_self, hn, Option.some.injEq, if_true, exists_eq_left']
    exact eq_comm
  · simp only [Function.update_of_ne hq, hq, if_false]
    exact ⟨fun h => ⟨m, h, rfl⟩, fun ⟨_, h, he⟩ => he ▸ h⟩

theorem retimed_slot (hn : s.nodes (s.heap 0) = some n) (e : TimeValue) :
    nodeSlot (retimed s n e).nodes = nodeSlot s.nodes := by
  funext q
  by_cases hq : q = s.heap 0
  · subst hq
    exact nodeSlot_update_self.trans (nodeSlot_eq hn).symm
  · exact nodeSlot_update_of_ne _ hq

/-- They keep their slots, so what is owned and what is free stays as it is. -/
theorem retimed_owns (hs : Inv s) (hn : s.nodes (s.heap 0) = some n) (e : TimeValue) {q : Ptr}
    {m : TimerNode κ δ} (hm : (retimed s n e).nodes q = some m) :
    Owns s m ∧ ∃ m₀, s.nodes q = some m₀ ∧ slot m₀ = slot m := by
  obtain ⟨m₀, hm₀, rfl⟩ := (retimed_nodes_iff hn e q m).mp hm
  have ho := hs.owns q m₀ hm₀
  split
  · exact ⟨{ ho with }, m₀, hm₀, rfl⟩
  · exact ⟨ho, m₀, hm₀, rfl⟩

theorem retimed_unowned (hn : s.nodes (s.heap 0) = some n) (e : TimeValue) {l : List Nat}
    (hl : Unowned s l) : Unowned (retimed s n e) l := by
  intro k
  rw [hl k]
  refine and_congr_right (fun _ => and_congr_right (fun _ => ⟨fun h q m hm => ?_,
    fun h q m hm => ?_⟩))
  · obtain ⟨m₀, hm₀, rfl⟩ := (retimed_nodes_iff hn e q m).mp hm
    have := h q m₀ hm₀
    split <;> exact this
  · have := h q _ ((retimed_nodes_iff hn e q _).mpr ⟨m, hm, rfl⟩)
    split at this <;> exact this

theorem rearm_spec (hs : Inv s) (h0 : 0 < s.curSize) (hn : s.nodes (s.heap 0) = some n)
    (e : TimeValue) :
    ∃ s', (retimed s n e).rotateDown s.curSize (s.heap 0) 0 (getLeftChildPos 0) = .ok s' ∧
      Rearmed s s' (s.heap 0) { n with expireTime := e } := by
  have hroom := hs.room
  have hsift := retimed_sifted (n := n) hs h0 e
  have hslotted : ∀ i < s.curSize, Slotted (retimed s n e) (s.heap i) := by
    intro i hi
    obtain ⟨m, hm, -⟩ := hs.cell hi
    have hm' := (retimed_nodes_iff hn e _ _).mpr ⟨m, hm, rfl⟩
    have ho := (retimed_owns hs hn e hm').1
    exact ⟨_, hm', ho.slot_eq, ho.lt⟩
  have hrot := rotateDown_eq s.curSize (retimed s n e) (s.heap 0) 0 (hslotted 0 h0) hslotted
    (Nat.le_of_add_right_le hroom) (show 0 < s.heapSize by omega)
  rw [retimed_slot hn e] at hrot
  refine ⟨_, hrot, ?_⟩
  -- entries of the table that no node owns stay
  have hframe : ∀ k, (∀ q m, s.nodes q = some m → slot m ≠ k) →
      (siftDown (nodeKey (retimed s n e).nodes) (nodeSlot s.nodes) s.curSize s.curSize s.table
        (s.heap 0) 0).back k = s.timerNodeIndexArray k := by
    intro k hk
    refine hsift.frame k ?_ (fun i hi _ => ?_)
    · rw [nodeSlot_eq hn]; exact (hk _ n hn).symm
    · obtain ⟨m, hm, -⟩ := hs.cell hi
      rw [table_elems, nodeSlot_eq hm]
      exact hk _ m hm
  refine
    { inv :=
        { room := hroom
          order := hsift.order
          back := ?_
          held := fun q => ?_
          owns := fun q m hq => ?_
          free := ?_
          zero := ?_
          null := ?_
          fresh := fun q hq => ?_
          fresh_pos := hs.fresh_pos
          seed := hs.seed }
      nodes := rfl
      curSize := rfl
      heapSize := rfl
      randMaker := rfl }
  · show Backed (nodeSlot (retimed s n e).nodes) s.curSize _
    rw [retimed_slot hn e]
    exact hsift.back
  · refine (hsift.content q).trans (Iff.trans ?_ ((hs.held q).trans ?_))
    · constructor
      · rintro (rfl | ⟨i, hi, -, rfl⟩)
        · exact ⟨0, h0, rfl⟩
        · exact ⟨i, hi, rfl⟩
      · rintro ⟨i, hi, rfl⟩
        rcases Nat.eq_zero_or_pos i with rfl | hi0
        · exact Or.inl rfl
        · exact Or.inr ⟨i, hi, hi0.ne', rfl⟩
    · exact ⟨fun ⟨m, hm⟩ => ⟨_, (retimed_nodes_iff hn e q _).mpr ⟨m, hm, rfl⟩⟩,
        fun ⟨m, hm⟩ => ((retimed_nodes_iff hn e q m).mp hm).imp fun _ h => h.1⟩
  · exact { (retimed_owns hs hn e hq).1 with }
  · obtain ⟨l, hl, hmem⟩ := hs.free
    exact ⟨l, hl.congr (fun k hk => hframe k ((hmem k).mp hk).2.2), retimed_unowned hn e hmem⟩
  · exact lt_of_eq_of_lt (hframe 0 (fun q m hm => (hs.owns q m hm).pos.ne')) hs.zero
  · have hne : null ≠ s.heap 0 := by
      intro e
      rw [← e, hs.null] at hn
      cases hn
    exact (Function.update_of_ne hne _ _).trans hs.null
  · have hne : q ≠ s.heap 0 := by
      rintro rfl
      rw [hs.fresh _ hq] at hn
      cases hn
    exact (Function.update_of_ne hne _ _).trans (hs.fresh q hq)

/-- **The end of a pass.**  The callback has returned and the root `n` is the timer that
fired: a periodic timer is armed again when the callback returned 0, any other goes.
The microseconds of the next expire time must not be negative. -/
theorem afterExecute_spec (hs : Inv s) (now : TimeValue) (ret : Int) (h0 : 0 < s.curSize)
    (hn : s.nodes (s.heap 0) = some n) :
    if ret = 0 ∧ n.intervalTime ≠ ⟨0, 0⟩ then
      if now.usec + n.intervalTime.usec < 0 then
        s.afterExecute now (s.heap 0) ret = .error .checkFailed
      else ∃ s' e, s.afterExecute now (s.heap 0) ret = .ok s' ∧
        TimeValue.set (now.sec + n.intervalTime.sec) (now.usec + n.intervalTime.usec) = .ok e ∧
        Rearmed s s' (s.heap 0) { n with expireTime := e }
    else ∃ s', s.afterExecute now (s.heap 0) ret = .ok s' ∧ Dropped s s' (s.heap 0) := by
  have hremove : (do let s₁ ← s.removeNode 0
                     s₁.delete (s.heap 0)) = .ok (dropped s 0 n) := removeNode_delete hs h0 hn
  have hint : n.intervalTime ≠ ⟨0, 0⟩ ↔
      0 ≠ n.intervalTime.sec ∨ 0 ≠ n.intervalTime.usec := by
    rw [ne_eq, TimeValue.ext_iff, not_and_or]
    simp only [ne_eq, eq_comm]
  unfold afterExecute
  by_cases hret : ret = 0
  swap
  · simp only [hret, if_false, false_and]
    exact ⟨_, hremove, dropped_spec hs h0 hn⟩
  by_cases hi : n.intervalTime ≠ ⟨0, 0⟩
  swap
  · simp only [hret, deref_eq hn, ok_bind, if_true, true_and, hi, if_false, ← hint]
    exact ⟨_, hremove, dropped_spec hs h0 hn⟩
  simp only [hret, deref_eq hn, ok_bind, if_true, true_and, hi, ← hint, expireTime,
    TimeValue.set_eq, not_false_eq_true, ne_eq]
  split
  · rfl
  · obtain ⟨s', hrot, hre⟩ := rearm_spec hs h0 hn
      ⟨now.sec + n.intervalTime.sec + (now.usec + n.intervalTime.usec) / oneSecondInUsecs,
        (now.usec + n.intervalTime.usec) % oneSecondInUsecs⟩
    refine ⟨s', _, ?_, rfl, hre⟩
    simp only [ok_bind, assign, hn]
    exact hrot

end

/-! ## The constructor, and what can be asked of the heap -/

section
variable {s : HeapTimer κ δ}

theorem init_inv {heapSize : Nat} (hsize : 1 ≤ heapSize) (now : Int) :
    Inv (init heapSize now : HeapTimer κ δ) where
  room := show 0 + 2 ≤ heapSize + 1 by omega
  order := fun _ _ h => absurd h (Nat.not_lt_zero _)
  back := fun _ h => absurd h (Nat.not_lt_zero _)
  held := fun _ => ⟨fun ⟨_, h, _⟩ => absurd h (Nat.not_lt_zero _), fun ⟨_, h⟩ => nomatch h⟩
  owns := fun _ _ h => nomatch h
  free := by
    refine ⟨List.range' 1 heapSize, ?_, fun k => ?_⟩
    · have h : FreeList (fun i => -((i : Int) + 1)) ((1 : Nat) : Int) (List.range' 1 heapSize)
          ((1 + heapSize : Nat) : Int) := FreeList.init (fun _ _ _ => rfl)
      rw [Nat.add_comm] at h
      exact h
    · rw [List.mem_range'_1]
      show 1 ≤ k ∧ k < 1 + heapSize ↔ 0 < k ∧ k < heapSize + 1 ∧ _
      constructor
      · exact fun h => ⟨h.1, by omega, fun _ _ hp => nomatch hp⟩
      · exact fun h => ⟨h.1, by omega⟩
  zero := by show -((0 : Nat) + 1 : Int) < 0; decide
  null := rfl
  fresh := fun _ _ => rfl
  fresh_pos := Nat.one_pos
  seed := toInt32_range now

/-- **FirstTimeout.**  The expire time of the root, which no other timer precedes. -/
theorem firstTimeout_spec (hs : Inv s) :
    (s.curSize = 0 ∧ s.firstTimeout = .ok none) ∨
      ∃ n, 0 < s.curSize ∧ s.nodes (s.heap 0) = some n ∧
        s.firstTimeout = .ok (some n.expireTime) ∧
        ∀ p m, s.nodes p = some m → n.expireTime ≤ m.expireTime := by
  have hroom := hs.room
  unfold firstTimeout
  rcases Nat.eq_zero_or_pos s.curSize with h0 | h0
  · exact Or.inl ⟨h0, by rw [if_neg (by omega)]⟩
  · obtain ⟨n, hn, -⟩ := hs.cell h0
    have hread : s.heapAt 0 = .ok (s.heap 0) := readAt_nat (k := 0) (by omega)
    refine Or.inr ⟨n, h0, hn, ?_, fun p m hm => ?_⟩
    · rw [if_pos h0, hread, ok_bind, deref_eq hn, ok_bind]
    · obtain ⟨i, hi, rfl⟩ := (hs.held p).mpr ⟨m, hm⟩
      rw [← nodeKey_eq hn, ← nodeKey_eq hm]
      exact hs.order.root_le i hi

theorem getTimerSize_eq (h : s.curSize < 2147483648) : s.getTimerSize = s.curSize :=
  toInt32_of_range (by omega) (by omega)

end

/-! ## One pass of TimerPoll -/

section
variable {s : HeapTimer κ δ} {n : TimerNode κ δ} {now : TimeValue} {execute : Execute κ δ σ}
  {w : σ}

theorem pollStep_idle (hs : Inv s)
    (h : ∀ n, 0 < s.curSize → s.nodes (s.heap 0) = some n → now < n.expireTime) :
    pollStep now execute s w = .ok none := by
  have hroom := hs.room
  unfold pollStep
  rcases Nat.eq_zero_or_pos s.curSize with h0 | h0
  · rw [if_neg (by omega)]
  · obtain ⟨n, hn, -⟩ := hs.cell h0
    have hread : s.heapAt 0 = .ok (s.heap 0) := readAt_nat (k := 0) (by omega)
    rw [if_pos h0, hread, ok_bind, deref_eq hn, ok_bind, timervalGte_eq,
      decide_eq_false (not_le.mpr (h n h0 hn))]
    rfl

theorem pollStep_due (hs : Inv s) (h0 : 0 < s.curSize) (hn : s.nodes (s.heap 0) = some n)
    (hdue : n.expireTime ≤ now) :
    pollStep now execute s w = (do
      let (ret, s', w') ← callBack execute n s w
      let s'' ← s'.afterExecute now (s.heap 0) ret
      .ok (some (n.timerId, s'', w'))) := by
  have hroom := hs.room
  have hread : s.heapAt 0 = .ok (s.heap 0) := readAt_nat (k := 0) (by omega)
  unfold pollStep
  rw [if_pos h0, hread, ok_bind, deref_eq hn, ok_bind, timervalGte_eq, decide_eq_true hdue]
  rfl

theorem poll_cases (hs : Inv s) (now : TimeValue) :
    (∀ n, 0 < s.curSize → s.nodes (s.heap 0) = some n → now < n.expireTime) ∨
      ∃ n, 0 < s.curSize ∧ s.nodes (s.heap 0) = some n ∧ n.expireTime ≤ now := by
  rcases Nat.eq_zero_or_pos s.curSize with h0 | h0
  · exact Or.inl (fun n h => absurd h (by omega))
  · obtain ⟨n, hn, -⟩ := hs.cell h0
    rcases lt_or_ge now n.expireTime with h | h
    · refine Or.inl (fun m _ hm => ?_)
      rw [hn] at hm; cases hm
      exact h
    · exact Or.inr ⟨n, h0, hn, h⟩

end

/-! ## The loop of TimerPoll

What a pass preserves, the loop preserves; `P` may speak of the ids fired so far. -/

section
variable {now : TimeValue} {execute : Execute κ δ σ} {P : List Int → HeapTimer κ δ → σ → Prop}

theorem pollLoop_induct
    (hstep : ∀ fired s w id s' w', P fired s w →
      pollStep now execute s w = .ok (some (id, s', w')) → P (fired ++ [id]) s' w') :
    ∀ (fuel : Nat) (fired₀ : List Int) {fired : List Int} {s s' : HeapTimer κ δ} {w w' : σ},
      P fired₀ s w →
      pollLoop now execute fuel s w = .ok (some (fired, s', w')) → P (fired₀ ++ fired) s' w'
  | 0, _, _, _, _, _, _, _, h => by simp [pollLoop] at h
  | fuel + 1, fired₀, fired, s, s', w, w', hP, h => by
      unfold pollLoop at h
      obtain ⟨o, ho, h⟩ := bind_eq_ok.mp h
      match o, ho, h with
      | none, ho, h =>
          cases h
          rw [List.append_nil]
          exact hP
      | some (id, s₁, w₁), ho, h =>
          obtain ⟨o', ho', h⟩ := bind_eq_ok.mp h
          match o', ho', h with
          | some (fired', s₂, w₂), ho', h =>
              cases h
              have := pollLoop_induct hstep fuel _ (hstep _ _ _ _ _ _ hP ho) ho'
              rwa [List.append_assoc] at this

/-- **Loop rule, faults.**  If no pass faults, the loop does not, however long it runs. -/
theorem pollLoop_clean
    (hstep : ∀ fired s w id s' w', P fired s w →
      pollStep now execute s w = .ok (some (id, s', w')) → P (fired ++ [id]) s' w')
    (hclean : ∀ fired s w, P fired s w → Result.Clean (pollStep now execute s w)) :
    ∀ (fuel : Nat) (fired₀ : List Int) {s : HeapTimer κ δ} {w : σ}, P fired₀ s w →
      Result.Clean (pollLoop now execute fuel s w)
  | 0, _, _, _, _ => clean_ok _
  | fuel + 1, fired₀, s, w, hP => by
      unfold pollLoop
      refine bind_clean (hclean _ _ _ hP) (fun o ho => ?_)
      match o, ho with
      | none, _ => exact clean_ok _
      | some (id, s₁, w₁), ho =>
          refine bind_clean (pollLoop_clean hstep hclean fuel _ (hstep _ _ _ _ _ _ hP ho))
            (fun o' _ => ?_)
          match o' with
          | none => exact clean_ok _
          | some (_, _, _) => exact clean_ok _

end

end HeapTimer

end PlayFrame
