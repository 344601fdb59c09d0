/-
# `PlayFrame.Frame.TimerNodes` — the times of the nodes

The operations of the heap move pointers.  The expire time of a node is written by
`RegisterTimer`, and by `TimerPoll` when it arms the node again; and by nothing else.  None of it
rests on the order of the heap, so it holds whatever the callbacks have done to it.

* `SameNodes` — the nodes are as they were
* `SameTimes` — no node has come, and those that are left have their times
-/
import PlayFrame.Frame.HeapTimer

namespace PlayFrame

namespace HeapTimer

variable {κ δ σ : Type} {s s' s'' : HeapTimer κ δ} {p x : Ptr} {n : TimerNode κ δ} {i v : Int}

/-- The nodes are as they were. -/
structure SameNodes (s s' : HeapTimer κ δ) : Prop where
  nodes : s'.nodes = s.nodes
  fresh : s'.fresh = s.fresh

/-- **No node has come**, and those that are left have the times and the callback they had. -/
structure SameTimes (s s' : HeapTimer κ δ) : Prop where
  node : ∀ p n', s'.nodes p = some n' → ∃ n, s.nodes p = some n ∧
    n'.expireTime = n.expireTime ∧ n'.intervalTime = n.intervalTime ∧ n'.cbObj = n.cbObj
  fresh : s'.fresh = s.fresh

theorem SameNodes.refl : SameNodes s s := ⟨rfl, rfl⟩

theorem SameNodes.trans (h : SameNodes s s') (h' : SameNodes s' s'') : SameNodes s s'' :=
  ⟨h'.nodes.trans h.nodes, h'.fresh.trans h.fresh⟩

theorem SameNodes.times (h : SameNodes s s') : SameTimes s s' where
  node := fun _ n' hn' => ⟨n', h.nodes ▸ hn', rfl, rfl, rfl⟩
  fresh := h.fresh

theorem SameTimes.refl : SameTimes s s := SameNodes.refl.times

theorem SameTimes.trans (h : SameTimes s s') (h' : SameTimes s' s'') : SameTimes s s'' where
  node := by
    intro p n'' hn''
    obtain ⟨n', hn', hexp', hint', hcb'⟩ := h'.node p n'' hn''
    obtain ⟨n, hn, hexp, hint, hcb⟩ := h.node p n' hn'
    exact ⟨n, hn, hexp'.trans hexp, hint'.trans hint, hcb'.trans hcb⟩
  fresh := h'.fresh.trans h.fresh

/-! ## Memory accesses -/

theorem deref_ok (h : s.deref p = .ok n) : s.nodes p = some n := by
  unfold deref at h
  cases hn : s.nodes p with
  | none =>
      rw [hn] at h
      cases h
  | some m =>
      rw [hn] at h
      cases h
      rfl

theorem heapAt_zero (h : s.heapAt 0 = .ok p) : s.heap 0 = p := by
  unfold heapAt readAt at h
  split at h
  · exact Except.ok.inj h
  · cases h

theorem setHeap_same (h : s.setHeap i p = .ok s') : SameNodes s s' := by
  obtain ⟨heap, -, h⟩ := bind_eq_ok.mp h
  cases h
  exact ⟨rfl, rfl⟩

theorem setIndex_same (h : s.setIndex i v = .ok s') : SameNodes s s' := by
  obtain ⟨arr, -, h⟩ := bind_eq_ok.mp h
  cases h
  exact ⟨rfl, rfl⟩

theorem setRand_same (h : s.setRand i v = .ok s') : SameNodes s s' := by
  obtain ⟨arr, -, h⟩ := bind_eq_ok.mp h
  cases h
  exact ⟨rfl, rfl⟩

theorem assign_spec (h : s.assign p n = .ok s') :
    s'.nodes = Function.update s.nodes p (some n) ∧ s'.fresh = s.fresh := by
  unfold assign at h
  cases hn : s.nodes p with
  | none =>
      rw [hn] at h
      cases h
  | some m =>
      rw [hn] at h
      cases h
      exact ⟨rfl, rfl⟩

theorem delete_times (h : s.delete p = .ok s') :
    SameTimes s s' ∧ s'.nodes p = none := by
  unfold delete at h
  cases hn : s.nodes p with
  | none =>
      rw [hn] at h
      cases h
  | some m =>
      rw [hn] at h
      cases h
      refine ⟨⟨fun q n' hn' => ?_, rfl⟩, Function.update_self ..⟩
      dsimp only at hn'
      have hq : q ≠ p := by
        rintro rfl
        rw [Function.update_self] at hn'
        cases hn'
      rw [Function.update_of_ne hq] at hn'
      exact ⟨n', hn', rfl, rfl, rfl⟩

/-! ## Moving nodes -/

theorem place_same {pos : Nat} (h : s.place x pos = .ok s') : SameNodes s s' := by
  obtain ⟨s₁, h₁, h⟩ := bind_eq_ok.mp h
  obtain ⟨n, -, h⟩ := bind_eq_ok.mp h
  exact (setHeap_same h₁).trans (setIndex_same h)

theorem rotateUp_same : ∀ (fuel : Nat) {s s' : HeapTimer κ δ} {pos parentPos : Nat},
    rotateUp fuel s x pos parentPos = .ok s' → SameNodes s s' := by
  intro fuel
  induction fuel with
  | zero =>
      intro s s' pos parentPos h
      exact place_same h
  | succ fuel ih =>
      intro s s' pos parentPos h
      unfold rotateUp at h
      split at h
      · obtain ⟨n, -, h⟩ := bind_eq_ok.mp h
        obtain ⟨parent, -, h⟩ := bind_eq_ok.mp h
        obtain ⟨m, -, h⟩ := bind_eq_ok.mp h
        split at h
        · obtain ⟨s₁, h₁, h⟩ := bind_eq_ok.mp h
          obtain ⟨s₂, h₂, h⟩ := bind_eq_ok.mp h
          exact ((setHeap_same h₁).trans (setIndex_same h₂)).trans (ih h)
        · exact place_same h
      · exact place_same h

theorem rotateDown_same : ∀ (fuel : Nat) {s s' : HeapTimer κ δ} {pos childPos : Nat},
    rotateDown fuel s x pos childPos = .ok s' → SameNodes s s' := by
  intro fuel
  induction fuel with
  | zero =>
      intro s s' pos childPos h
      exact place_same h
  | succ fuel ih =>
      intro s s' pos childPos h
      unfold rotateDown at h
      split at h
      · obtain ⟨childPos', -, h⟩ := bind_eq_ok.mp h
        obtain ⟨n, -, h⟩ := bind_eq_ok.mp h
        obtain ⟨child, -, h⟩ := bind_eq_ok.mp h
        obtain ⟨m, -, h⟩ := bind_eq_ok.mp h
        split at h
        · obtain ⟨s₁, h₁, h⟩ := bind_eq_ok.mp h
          obtain ⟨s₂, h₂, h⟩ := bind_eq_ok.mp h
          exact ((setHeap_same h₁).trans (setIndex_same h₂)).trans (ih h)
        · exact place_same h
      · exact place_same h

theorem fillHole_same {pos : Nat} (h : s.fillHole pos = .ok s') : SameNodes s s' := by
  unfold fillHole at h
  split at h
  · obtain ⟨moveNode, -, h⟩ := bind_eq_ok.mp h
    obtain ⟨s₁, h₁, h⟩ := bind_eq_ok.mp h
    obtain ⟨m, -, h⟩ := bind_eq_ok.mp h
    obtain ⟨s₂, h₂, h⟩ := bind_eq_ok.mp h
    obtain ⟨parent, -, h⟩ := bind_eq_ok.mp h
    obtain ⟨m', -, h⟩ := bind_eq_ok.mp h
    refine ((setHeap_same h₁).trans (setIndex_same h₂)).trans ?_
    split at h
    · exact rotateDown_same _ h
    · exact rotateUp_same _ h
  · cases h
    exact .refl

/-! ## Timers -/

theorem popFreeTimerId_same {timerId : Int} (h : s.popFreeTimerId = .ok (timerId, s')) :
    SameNodes s s' := by
  obtain ⟨next, -, h⟩ := bind_eq_ok.mp h
  obtain ⟨s₁, h₁, h⟩ := bind_eq_ok.mp h
  cases h
  have hpop : SameNodes s { s with freeTimerNodeIndex := -next
                                   randMaker := s.randMaker.getRand.2 } := ⟨rfl, rfl⟩
  exact hpop.trans (setRand_same h₁)

theorem pushFreeTimerId_same {timerId : Int} (h : s.pushFreeTimerId timerId = .ok s') :
    SameNodes s s' := by
  obtain ⟨timerRand, -, h⟩ := bind_eq_ok.mp h
  split at h
  · cases h
    exact .refl
  · obtain ⟨s₁, h₁, h⟩ := bind_eq_ok.mp h
    have hpush : SameNodes s₁ { s₁ with freeTimerNodeIndex := slotOf timerId } := ⟨rfl, rfl⟩
    exact (setIndex_same h₁).trans (hpush.trans (setRand_same h))

theorem removeNode_times {pos : Nat} (h : s.removeNode pos = .ok s') : SameTimes s s' := by
  unfold removeNode at h
  split at h
  · cases h
    exact .refl
  · obtain ⟨delNode, -, h⟩ := bind_eq_ok.mp h
    obtain ⟨d, hd, h⟩ := bind_eq_ok.mp h
    obtain ⟨s₁, h₁, h⟩ := bind_eq_ok.mp h
    obtain ⟨s₂, h₂, h⟩ := bind_eq_ok.mp h
    obtain ⟨hnodes, hfresh⟩ := assign_spec h₂
    have hpush := pushFreeTimerId_same h₁
    have hassign : SameTimes s₁ { s₂ with curSize := s₂.curSize - 1 } := by
      refine ⟨fun q n' hn' => ?_, hfresh⟩
      dsimp only at hn'
      rw [hnodes] at hn'
      by_cases hq : q = delNode
      · subst hq
        rw [Function.update_self] at hn'
        cases hn'
        exact ⟨d, by rw [hpush.nodes]; exact deref_ok hd, rfl, rfl, rfl⟩
      · rw [Function.update_of_ne hq] at hn'
        exact ⟨n', hn', rfl, rfl, rfl⟩
    exact hpush.times.trans (hassign.trans (fillHole_same h).times)

theorem unregisterTimer_times {timerId : Int} (h : s.unregisterTimer timerId = .ok s') :
    SameTimes s s' := by
  unfold unregisterTimer at h
  dsimp only at h
  split at h
  · cases h
    exact .refl
  obtain ⟨nodePos, -, h⟩ := bind_eq_ok.mp h
  split at h
  · cases h
    exact .refl
  obtain ⟨timerRand, -, h⟩ := bind_eq_ok.mp h
  split at h
  · cases h
    exact .refl
  obtain ⟨delNode, -, h⟩ := bind_eq_ok.mp h
  split at h
  · cases h
    exact .refl
  obtain ⟨s₁, h₁, h⟩ := bind_eq_ok.mp h
  exact (removeNode_times h₁).trans (delete_times h).1

theorem insertNode_same (h : s.insertNode x = .ok s') : SameNodes s s' := by
  obtain ⟨s₁, h₁, h⟩ := bind_eq_ok.mp h
  cases h
  have hup := rotateUp_same _ h₁
  split at hup
  · exact ⟨hup.nodes, hup.fresh⟩
  · exact ⟨hup.nodes, hup.fresh⟩

/-- What a registration in the second `now` adds: the node of the timer. -/
structure NodeAdded (now : Int) (interval delay : TimeValue) (cbObj : Option κ)
    (s s' : HeapTimer κ δ) : Prop where
  node : ∃ n, s'.nodes = Function.update s.nodes s.fresh (some n) ∧
    expireTime ⟨now, 0⟩ delay = .ok n.expireTime ∧ n.intervalTime = interval ∧ n.cbObj = cbObj
  fresh : s'.fresh = s.fresh + 1

theorem NodeAdded.lt_fresh {now : Int} {interval delay : TimeValue} {cbObj : Option κ}
    (h : NodeAdded now interval delay cbObj s s') : s.fresh < s'.fresh :=
  h.fresh ▸ Nat.lt_succ_self _

theorem registerTimer_nodes {now timerId : Int} {interval delay : TimeValue} {cbObj : Option κ}
    {data : δ} (h : s.registerTimer now interval delay cbObj data = .ok (timerId, s')) :
    (timerId = -1 ∧ s' = s) ∨ NodeAdded now interval delay cbObj s s' := by
  unfold registerTimer at h
  split at h
  · cases h
    exact Or.inl ⟨rfl, rfl⟩
  split at h
  · cases h
    exact Or.inl ⟨rfl, rfl⟩
  obtain ⟨⟨id, s₁⟩, h₁, h⟩ := bind_eq_ok.mp h
  obtain ⟨start, hstart, h⟩ := bind_eq_ok.mp h
  obtain ⟨expire, hexpire, h⟩ := bind_eq_ok.mp h
  obtain ⟨s₂, h₂, h⟩ := bind_eq_ok.mp h
  cases h
  have hpop := popFreeTimerId_same h₁
  have hins := insertNode_same h₂
  have hzero : TimeValue.Canonical ⟨now, 0⟩ := ⟨le_refl _, show (0 : Int) < 1000000 by decide⟩
  rw [show TimeValue.set now 0 = .ok ⟨now, 0⟩ from hzero.set] at hstart
  cases hstart
  refine Or.inr ⟨⟨{ timerId := timerId, expireTime := expire, intervalTime := interval
                    data := data, cbObj := cbObj }, ?_, hexpire, rfl, rfl⟩, ?_⟩
  · rw [hins.nodes, ← hpop.nodes, ← hpop.fresh]
  · rw [hins.fresh, ← hpop.fresh]

/-! ## The end of a pass -/

/-- What the end of a pass of `TimerPoll` leaves of the node: nothing, or the node with its next
expire time. -/
def EndsPass (now : TimeValue) (p : Ptr) (s s' : HeapTimer κ δ) : Prop :=
  (SameTimes s s' ∧ s'.nodes p = none) ∨
    ∃ n expire, s.nodes p = some n ∧ expireTime now n.intervalTime = .ok expire ∧
      s'.nodes = Function.update s.nodes p (some { n with expireTime := expire }) ∧
      s'.fresh = s.fresh

theorem EndsPass.fresh {now : TimeValue} (h : EndsPass now p s s') : s'.fresh = s.fresh := by
  rcases h with ⟨hsame, -⟩ | ⟨n, expire, -, -, -, hfresh⟩
  · exact hsame.fresh
  · exact hfresh

theorem afterExecute_nodes {now : TimeValue} {ret : Int} (h : s.afterExecute now p ret = .ok s') :
    EndsPass now p s s' := by
  have hremove : ∀ {s'}, (do let s ← s.removeNode 0
                             s.delete p) = Except.ok s' → EndsPass now p s s' := by
    intro s' h
    obtain ⟨s₁, h₁, h⟩ := bind_eq_ok.mp h
    obtain ⟨hdel, hnone⟩ := delete_times h
    exact Or.inl ⟨(removeNode_times h₁).trans hdel, hnone⟩
  unfold afterExecute at h
  dsimp only at h
  split at h
  · obtain ⟨n, hn, h⟩ := bind_eq_ok.mp h
    split at h
    · obtain ⟨expire, hexpire, h⟩ := bind_eq_ok.mp h
      obtain ⟨s₁, h₁, h⟩ := bind_eq_ok.mp h
      obtain ⟨hnodes, hfresh⟩ := assign_spec h₁
      have hdown := rotateDown_same _ h
      exact Or.inr ⟨n, expire, deref_ok hn, hexpire, hdown.nodes.trans hnodes,
        hdown.fresh.trans hfresh⟩
    · exact hremove h
  · exact hremove h

/-- **A pass**: the root is due, its callback is called, and the pass ends. -/
theorem pollStep_nodes {now : TimeValue} {execute : Execute κ δ σ} {w w' : σ} {timerId : Int}
    (h : pollStep now execute s w = .ok (some (timerId, s', w'))) :
    ∃ n ret s₁, 0 < s.curSize ∧ s.nodes (s.heap 0) = some n ∧ n.expireTime ≤ now ∧
      callBack execute n s w = .ok (ret, s₁, w') ∧ EndsPass now (s.heap 0) s₁ s' := by
  unfold pollStep at h
  split at h
  swap
  · cases h
  next hpos =>
  obtain ⟨root, hroot, h⟩ := bind_eq_ok.mp h
  obtain ⟨n, hn, h⟩ := bind_eq_ok.mp h
  split at h
  swap
  · cases h
  next hdue =>
  obtain ⟨⟨ret, s₁, w₁⟩, hcall, h⟩ := bind_eq_ok.mp h
  obtain ⟨s₂, hend, h⟩ := bind_eq_ok.mp h
  cases h
  have hheap := heapAt_zero hroot
  rw [timervalGte_eq] at hdue
  subst hheap
  exact ⟨n, ret, s₁, hpos, deref_ok hn, of_decide_eq_true hdue, hcall, afterExecute_nodes hend⟩

theorem pollStep_none {now : TimeValue} {execute : Execute κ δ σ} {w : σ}
    (h : pollStep now execute s w = .ok none) (hpos : 0 < s.curSize)
    (hn : s.nodes (s.heap 0) = some n) : ¬ n.expireTime ≤ now := by
  unfold pollStep at h
  rw [if_pos hpos] at h
  obtain ⟨root, hroot, h⟩ := bind_eq_ok.mp h
  obtain ⟨m, hm, h⟩ := bind_eq_ok.mp h
  have hheap := heapAt_zero hroot
  subst hheap
  have hnm := deref_ok hm
  rw [hn] at hnm
  cases hnm
  split at h
  · obtain ⟨a, -, h⟩ := bind_eq_ok.mp h
    obtain ⟨s₁, -, h⟩ := bind_eq_ok.mp h
    cases h
  · next hdue =>
    rw [timervalGte_eq] at hdue
    exact fun hle => hdue (decide_eq_true hle)

end HeapTimer

end PlayFrame
