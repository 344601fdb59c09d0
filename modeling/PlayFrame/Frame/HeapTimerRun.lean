/-
# `PlayFrame.Frame.HeapTimerRun` — the timer heap over whole runs

A run starts from the constructor and registers timers, unregisters any id that was
returned earlier, and polls with callbacks that leave the heap alone.  The capacity
stays below `2³⁰` in all of its states.  `Reach` lists the ids returned so far, the
`-1` of refused registrations among them, the last one first.

Every state of a run has `Inv`, and no operation of a run faults; `Represented` is
`Inv` put in terms of the arrays alone.
-/
import PlayFrame.Frame.HeapTimerOps

namespace PlayFrame

open Lib

namespace HeapTimer

variable {κ δ σ : Type}

/-- The capacity no run of this development reaches. -/
def capLimit : Nat := 2 ^ 30

/-- Callbacks that do not call the timer. -/
def quiet (f : κ → Int → δ → σ → Int × σ) : Execute κ δ σ :=
  fun cb timerId data s w => .ok ((f cb timerId data w).1, s, (f cb timerId data w).2)

/-- The states a run reaches from a heap of `heapSize` timers made in the second `start`,
with the ids returned so far. -/
inductive Reach (heapSize : Nat) (start : Int) : List Int → HeapTimer κ δ → Prop
  | init : heapSize + 1 < capLimit → Reach heapSize start [] (init heapSize start)
  | register {ids : List Int} {s s' : HeapTimer κ δ} {timerId : Int} (now : Int)
      (interval delay : TimeValue) (cbObj : Option κ) (data : δ) :
      Reach heapSize start ids s →
      s.registerTimer now interval delay cbObj data = .ok (timerId, s') →
      s'.heapSize < capLimit → Reach heapSize start (timerId :: ids) s'
  | unregister {ids : List Int} {s s' : HeapTimer κ δ} {timerId : Int} :
      Reach heapSize start ids s → timerId ∈ ids → s.unregisterTimer timerId = .ok s' →
      Reach heapSize start ids s'
  | poll {ids fired : List Int} {s s' : HeapTimer κ δ} {σ : Type} {w w' : σ} (fuel : Nat)
      (now : TimeValue) (f : κ → Int → δ → σ → Int × σ) : Reach heapSize start ids s →
      s.timerPoll fuel now (quiet f) w = .ok (some (fired, s', w')) →
      Reach heapSize start ids s'

/-- The same runs, with `UnregisterTimer` called for any number it returns for. -/
inductive Calls (heapSize : Nat) (start : Int) : List Int → HeapTimer κ δ → Prop
  | init : heapSize + 1 < capLimit → Calls heapSize start [] (init heapSize start)
  | register {ids : List Int} {s s' : HeapTimer κ δ} {timerId : Int} (now : Int)
      (interval delay : TimeValue) (cbObj : Option κ) (data : δ) :
      Calls heapSize start ids s →
      s.registerTimer now interval delay cbObj data = .ok (timerId, s') →
      s'.heapSize < capLimit → Calls heapSize start (timerId :: ids) s'
  | unregister {ids : List Int} {s s' : HeapTimer κ δ} (timerId : Int) :
      Calls heapSize start ids s → s.unregisterTimer timerId = .ok s' →
      Calls heapSize start ids s'
  | poll {ids fired : List Int} {s s' : HeapTimer κ δ} {σ : Type} {w w' : σ} (fuel : Nat)
      (now : TimeValue) (f : κ → Int → δ → σ → Int × σ) : Calls heapSize start ids s →
      s.timerPoll fuel now (quiet f) w = .ok (some (fired, s', w')) →
      Calls heapSize start ids s'

/-! ## Steps -/

/-- An id a registration has returned: a slot of the arrays with a random number, or `-1`. -/
def Known (s : HeapTimer κ δ) (timerId : Int) : Prop :=
  timerId = -1 ∨ ∃ (k : Nat) (r : Int), k < s.heapSize ∧ k < capLimit ∧ 0 ≤ r ∧ r < Random.M ∧
    timerId = makeTimerId k r

section
variable {s s' : HeapTimer κ δ} {timerId : Int}

theorem slotOf_refused : slotOf (-1) = -1 := by decide

theorem Known.mono (h : Known s timerId) (hle : s.heapSize ≤ s'.heapSize) : Known s' timerId :=
  h.imp_right fun ⟨k, r, hk, h⟩ => ⟨k, r, hk.trans_le hle, h⟩

theorem slotOf_known {k : Nat} {r : Int} (hk : k < capLimit) (h0 : 0 ≤ r) (hr : r < Random.M) :
    slotOf (makeTimerId k r) = k :=
  slotOf_makeTimerId (Int.natCast_nonneg k)
    (by have : capLimit = 1073741824 := rfl; omega) h0 (hr.trans (by decide))

theorem Known.slot_ne (h : Known s timerId) : slotOf timerId ≠ s.heapSize := by
  rcases h with rfl | ⟨k, r, hk, hcap, h0, hr, rfl⟩
  · rw [slotOf_refused]; omega
  · rw [slotOf_known hcap h0 hr]; omega

theorem Known.eq_of_names {p : Ptr} {n : TimerNode κ δ} (hs : Inv s) (h : Known s timerId)
    (hn : s.nodes p = some n) (hnames : Names timerId n) : n.timerId = timerId := by
  have ho := hs.owns p n hn
  obtain ⟨hslot, hrand⟩ := hnames
  rw [ho.slot_eq] at hslot
  rw [ho.rand_eq] at hrand
  rcases h with rfl | ⟨k, r, -, hcap, h0, hr, rfl⟩
  · rw [slotOf_refused] at hslot; omega
  · rw [slotOf_known hcap h0 hr] at hslot
    rw [randOf_makeTimerId (Int.natCast_nonneg k) h0 (hr.trans (by decide))] at hrand
    rw [ho.id_eq, hslot, hrand]

theorem registerTimer_step {now : Int} {interval delay : TimeValue} {cbObj : Option κ} {data : δ}
    (hs : Inv s) (hcap : s.heapSize < capLimit)
    (h : s.registerTimer now interval delay cbObj data = .ok (timerId, s')) :
    (interval = ⟨0, 0⟩ ∧ timerId = -1 ∧ s' = s) ∨
      ∃ k, 0 < k ∧ k < s.heapSize ∧ (∀ p n, s.nodes p = some n → slot n ≠ k) ∧
        interval ≠ ⟨0, 0⟩ ∧ 0 ≤ delay.usec ∧
        timerId = makeTimerId k s.randMaker.getRand.1 ∧
        Added s s' (newTimer s k now interval delay cbObj data) := by
  by_cases hzero : interval = ⟨0, 0⟩
  · subst hzero
    rw [registerTimer_zero] at h
    cases h
    exact Or.inl ⟨rfl, rfl, rfl⟩
  by_cases hd : delay.usec < 0
  · rw [registerTimer_check hs now hzero hd] at h
    cases h
  obtain ⟨k, s₁, h₁, hk0, hk, hfree, hadd⟩ :=
    registerTimer_spec hs (hcap.le.trans (by decide)) now hzero (not_lt.mp hd) cbObj data
  rw [h] at h₁
  cases h₁
  exact Or.inr ⟨k, hk0, hk, hfree, hzero, not_lt.mp hd, rfl, hadd⟩

theorem registerTimer_known {now : Int} {interval delay : TimeValue} {cbObj : Option κ} {data : δ}
    (hs : Inv s) (hcap : s.heapSize < capLimit)
    (h : s.registerTimer now interval delay cbObj data = .ok (timerId, s')) :
    Inv s' ∧ s.heapSize ≤ s'.heapSize ∧ Known s' timerId := by
  rcases registerTimer_step hs hcap h with ⟨-, rfl, rfl⟩ | ⟨k, -, hk, -, -, -, rfl, hadd⟩
  · exact ⟨hs, Nat.le_refl _, Or.inl rfl⟩
  · have hr := Random.getRand_range hs.seed.1 hs.seed.2
    exact ⟨hadd.inv, hadd.heapSize,
      Or.inr ⟨k, _, hk.trans_le hadd.heapSize, hk.trans hcap, hr.1, hr.2, rfl⟩⟩

theorem registerTimer_clean (hs : Inv s) (hcap : s.heapSize < capLimit) (now : Int)
    (interval delay : TimeValue) (cbObj : Option κ) (data : δ) :
    Result.Clean (s.registerTimer now interval delay cbObj data) := by
  by_cases hzero : interval = ⟨0, 0⟩
  · rw [hzero, registerTimer_zero]
    exact clean_ok _
  by_cases hd : delay.usec < 0
  · rw [registerTimer_check hs now hzero hd]
    exact clean_check
  obtain ⟨k, s₁, h₁, -⟩ := registerTimer_spec hs (hcap.le.trans (by decide)) now hzero
    (not_lt.mp hd) cbObj data
  rw [h₁]
  exact clean_ok _

theorem unregisterTimer_step (hs : Inv s) (hid : Known s timerId) :
    (∃ s' p n, s.unregisterTimer timerId = .ok s' ∧ s.nodes p = some n ∧ Names timerId n ∧
      Dropped s s' p) ∨
    (s.unregisterTimer timerId = .ok s ∧ ∀ p n, s.nodes p = some n → ¬ Names timerId n) := by
  by_cases h : ∃ p n, s.nodes p = some n ∧ Names timerId n
  · obtain ⟨p, n, hn, hnames⟩ := h
    obtain ⟨s', hs', hd⟩ := unregisterTimer_hit hs hn hnames
    exact Or.inl ⟨s', p, n, hs', hn, hnames, hd⟩
  · have hno : ∀ p n, s.nodes p = some n → ¬ Names timerId n :=
      fun p n hn hnames => h ⟨p, n, hn, hnames⟩
    exact Or.inr ⟨unregisterTimer_miss hs hid.slot_ne hno, hno⟩

theorem unregisterTimer_cases (hs : Inv s) (h : s.unregisterTimer timerId = .ok s') :
    (∃ p n, s.nodes p = some n ∧ Names timerId n ∧ Dropped s s' p) ∨ s' = s := by
  by_cases hnamed : ∃ p n, s.nodes p = some n ∧ Names timerId n
  · obtain ⟨p, n, hn, hnames⟩ := hnamed
    obtain ⟨s₁, h₁, hd⟩ := unregisterTimer_hit hs hn hnames
    rw [h] at h₁
    cases h₁
    exact Or.inl ⟨p, n, hn, hnames, hd⟩
  · have hno : ∀ p n, s.nodes p = some n → ¬ Names timerId n :=
      fun p n hn hnames => hnamed ⟨p, n, hn, hnames⟩
    have hslot : slotOf timerId ≠ s.heapSize := by
      intro hend
      rw [unregisterTimer_end hend] at h
      cases h
    rw [unregisterTimer_miss hs hslot hno] at h
    cases h
    exact Or.inr rfl

/-- What polling keeps. -/
structure Kept (s s' : HeapTimer κ δ) : Prop where
  inv : Inv s'
  heapSize : s'.heapSize = s.heapSize
  randMaker : s'.randMaker = s.randMaker

theorem Kept.trans {s₁ s₂ s₃ : HeapTimer κ δ} (h : Kept s₁ s₂) (h' : Kept s₂ s₃) :
    Kept s₁ s₃ :=
  ⟨h'.inv, h'.heapSize.trans h.heapSize, h'.randMaker.trans h.randMaker⟩

theorem afterExecute_keeps {n : TimerNode κ δ} (hs : Inv s) (now : TimeValue) (ret : Int)
    (h0 : 0 < s.curSize) (hn : s.nodes (s.heap 0) = some n) :
    Result.Clean (s.afterExecute now (s.heap 0) ret) ∧
      ∀ s', s.afterExecute now (s.heap 0) ret = .ok s' → Kept s s' := by
  have hspec := afterExecute_spec hs now ret h0 hn
  split at hspec
  · split at hspec
    · rw [hspec]
      exact ⟨clean_check, fun _ h => nomatch h⟩
    · obtain ⟨s₁, e, h₁, -, hre⟩ := hspec
      rw [h₁]
      exact ⟨clean_ok _, fun s' h => by cases h; exact ⟨hre.inv, hre.heapSize, hre.randMaker⟩⟩
  · obtain ⟨s₁, h₁, hd⟩ := hspec
    rw [h₁]
    exact ⟨clean_ok _, fun s' h => by cases h; exact ⟨hd.inv, hd.heapSize, hd.randMaker⟩⟩

theorem callBack_quiet (f : κ → Int → δ → σ → Int × σ) (n : TimerNode κ δ) (s : HeapTimer κ δ)
    (w : σ) : ∃ ret w', callBack (quiet f) n s w = .ok (ret, s, w') := by
  unfold callBack quiet
  split
  · exact ⟨_, _, rfl⟩
  · exact ⟨0, w, rfl⟩

theorem pollStep_quiet {now : TimeValue} (f : κ → Int → δ → σ → Int × σ) {w : σ} (hs : Inv s) :
    Result.Clean (pollStep now (quiet f) s w) ∧ ∀ id s' w',
      pollStep now (quiet f) s w = .ok (some (id, s', w')) → Kept s s' := by
  rcases poll_cases hs now with hidle | ⟨n, h0, hn, hdue⟩
  · rw [pollStep_idle hs hidle]
    exact ⟨clean_ok _, fun _ _ _ h => by cases h⟩
  · obtain ⟨ret, w₁, hcall⟩ := callBack_quiet f n s w
    obtain ⟨hclean, hkeep⟩ := afterExecute_keeps hs now ret h0 hn
    rw [pollStep_due hs h0 hn hdue, hcall]
    simp only [ok_bind]
    refine ⟨bind_clean hclean (fun _ _ => clean_ok _), fun id s' w' h => ?_⟩
    obtain ⟨s₁, h₁, h₂⟩ := bind_eq_ok.mp h
    cases h₂
    exact hkeep s' h₁

theorem timerPoll_quiet {now : TimeValue} (f : κ → Int → δ → σ → Int × σ) {w : σ} (hs : Inv s)
    (fuel : Nat) : Result.Clean (s.timerPoll fuel now (quiet f) w) ∧ ∀ fired s' w',
      s.timerPoll fuel now (quiet f) w = .ok (some (fired, s', w')) → Kept s s' := by
  have hstep : ∀ (fired : List Int) (s₁ : HeapTimer κ δ) (w : σ) (id : Int) (s₂ : HeapTimer κ δ)
      (w' : σ), Kept s s₁ → pollStep now (quiet f) s₁ w = .ok (some (id, s₂, w')) →
      Kept s s₂ := by
    intro _ s₁ w id s₂ w' hk h
    exact hk.trans ((pollStep_quiet f hk.inv).2 id s₂ w' h)
  unfold timerPoll
  split
  · exact ⟨clean_ok _, fun _ _ _ h => by cases h; exact ⟨hs, rfl, rfl⟩⟩
  · refine ⟨?_, fun fired s' w' h => ?_⟩
    · exact pollLoop_clean (P := fun _ s₁ _ => Kept s s₁) hstep
        (fun _ _ _ h => (pollStep_quiet f h.inv).1) fuel [] ⟨hs, rfl, rfl⟩
    · exact pollLoop_induct (P := fun _ s₁ _ => Kept s s₁) hstep fuel [] ⟨hs, rfl, rfl⟩ h

end

/-! ## Runs -/

section
variable {heapSize : Nat} {start : Int} {ids : List Int} {s : HeapTimer κ δ}

theorem Reach.calls (hr : Reach heapSize start ids s) : Calls heapSize start ids s := by
  induction hr with
  | init hcap => exact .init hcap
  | register now interval delay cbObj data _ h hcap ih =>
      exact .register now interval delay cbObj data ih h hcap
  | unregister _ _ h ih => exact .unregister _ ih h
  | poll fuel now f _ h ih => exact .poll fuel now f ih h

/-- **Runs keep the invariant**, and every id of the run is known. -/
theorem Calls.inv (hsize : 1 ≤ heapSize) (hr : Calls heapSize start ids s) :
    Inv s ∧ s.heapSize < capLimit ∧ ∀ id ∈ ids, Known s id := by
  induction hr with
  | init hcap => exact ⟨init_inv hsize start, hcap, fun _ h => absurd h List.not_mem_nil⟩
  | register now interval delay cbObj data _ h hcap ih =>
      obtain ⟨hs, hc, hids⟩ := ih
      obtain ⟨hs', hle, hid⟩ := registerTimer_known hs hc h
      refine ⟨hs', hcap, fun id hmem => ?_⟩
      rcases List.mem_cons.mp hmem with rfl | hmem
      · exact hid
      · exact (hids id hmem).mono hle
  | unregister timerId _ h ih =>
      obtain ⟨hs, hc, hids⟩ := ih
      rcases unregisterTimer_cases hs h with ⟨p, n, -, -, hd⟩ | rfl
      · have hsz := hd.heapSize
        exact ⟨hd.inv, by omega, fun id hid => (hids id hid).mono hsz.ge⟩
      · exact ⟨hs, hc, hids⟩
  | poll fuel now f _ h ih =>
      obtain ⟨hs, hc, hids⟩ := ih
      obtain ⟨hs', hsz, -⟩ := (timerPoll_quiet f hs fuel).2 _ _ _ h
      exact ⟨hs', by omega, fun id hid => (hids id hid).mono hsz.ge⟩

theorem Reach.inv (hsize : 1 ≤ heapSize) (hr : Reach heapSize start ids s) :
    Inv s ∧ s.heapSize < capLimit ∧ ∀ id ∈ ids, Known s id :=
  hr.calls.inv hsize

/-- The representation invariant in terms of the arrays. -/
structure Represented (s : HeapTimer κ δ) : Prop where
  /-- the cells of the heap hold nodes, and there are no other nodes -/
  live : ∀ p, (∃ i < s.curSize, s.heap i = p) ↔ ∃ n, s.nodes p = some n
  minHeap : ∀ i n m, 0 < i → i < s.curSize → s.nodes (s.heap (getParentPos i)) = some n →
    s.nodes (s.heap i) = some m → n.expireTime ≤ m.expireTime
  index : ∀ i n, i < s.curSize → s.nodes (s.heap i) = some n →
    s.indexAt (slotOf n.timerId) = .ok (i : Int) ∧
      s.randAt (slotOf n.timerId) = .ok (randOf n.timerId)
  distinct : ∀ i j n m, i < s.curSize → j < s.curSize → s.nodes (s.heap i) = some n →
    s.nodes (s.heap j) = some m → slotOf n.timerId = slotOf m.timerId → i = j
  free : ∃ l, FreeList s.timerNodeIndexArray s.freeTimerNodeIndex l s.heapSize ∧
    ∀ k, k ∈ l ↔ 1 ≤ k ∧ k ≤ s.heapSize - 1 ∧
      ∀ i n, i < s.curSize → s.nodes (s.heap i) = some n → slotOf n.timerId ≠ (k : Int)
  room : s.curSize + 2 ≤ s.heapSize

theorem Inv.represented (hs : Inv s) : Represented s where
  live := hs.held
  minHeap := by
    intro i n m h0 hi hn hm
    rw [getParentPos_eq] at hn
    rw [← nodeKey_eq hn, ← nodeKey_eq hm]
    exact hs.order i h0 hi
  index := by
    intro i n hi hn
    have ho := hs.owns _ n hn
    rw [ho.slot_eq, ho.rand_eq, indexAt, randAt, readAt_nat ho.lt, readAt_nat ho.lt,
      ← nodeSlot_eq hn]
    exact ⟨congrArg _ (hs.back i hi), rfl⟩
  distinct := by
    intro i j n m hi hj hn hm h
    rw [(hs.owns _ n hn).slot_eq, (hs.owns _ m hm).slot_eq] at h
    exact hs.heap_inj hi hj (hs.slot_inj hn hm (by exact_mod_cast h))
  free := by
    obtain ⟨l, hl, hmem⟩ := hs.free
    have hroom := hs.room
    refine ⟨l, hl, fun k => ?_⟩
    rw [hmem k]
    constructor
    · rintro ⟨h0, hk, hno⟩
      refine ⟨h0, by omega, fun i n _ hn => ?_⟩
      rw [(hs.owns _ n hn).slot_eq]
      exact_mod_cast hno _ n hn
    · rintro ⟨h0, hk, hno⟩
      refine ⟨h0, by omega, fun p n hn => ?_⟩
      obtain ⟨i, hi, rfl⟩ := (hs.held p).mpr ⟨n, hn⟩
      have := hno i n hi hn
      rw [(hs.owns _ n hn).slot_eq] at this
      exact_mod_cast this
  room := hs.room

/-- **The representation invariant holds over whole runs**, and no further operation of
the run faults: at most a `CHECK` on a negative time aborts it. -/
theorem reach_represented (hsize : 1 ≤ heapSize) (hr : Reach heapSize start ids s) :
    Represented s ∧
      (∀ now interval delay cbObj data,
        Result.Clean (s.registerTimer now interval delay cbObj data)) ∧
      (∀ id ∈ ids, ∃ s', s.unregisterTimer id = .ok s') ∧
      (∀ (σ : Type) fuel now (f : κ → Int → δ → σ → Int × σ) w,
        Result.Clean (s.timerPoll fuel now (quiet f) w)) := by
  obtain ⟨hs, hcap, hids⟩ := hr.inv hsize
  refine ⟨hs.represented, registerTimer_clean hs hcap, fun id hid => ?_, fun σ fuel now f w =>
    (timerPoll_quiet f hs fuel).1⟩
  rcases unregisterTimer_step hs (hids id hid) with ⟨s', _, _, h, -⟩ | ⟨h, -⟩
  · exact ⟨s', h⟩
  · exact ⟨s, h⟩

/-- A timer is registered in a heap of one, which grows. -/
theorem reach_represented_grown :
    ∃ (id : Int) (s : HeapTimer Unit Unit), s.heapSize = 4 ∧ Reach 1 7 [id] s ∧ Represented s :=
  have hr : Reach 1 7 [_] _ :=
    .register 7 ⟨1, 0⟩ ⟨2, 0⟩ (none : Option Unit) () (.init (by decide)) rfl (by decide)
  ⟨_, _, rfl, hr, (reach_represented (by decide) hr).1⟩

end

end HeapTimer

end PlayFrame
