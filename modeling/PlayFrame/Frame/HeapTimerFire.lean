/-
# `PlayFrame.Frame.HeapTimerFire` — a poll fires the due timers, in order

What `TimerPoll` comes to for timers whose intervals are positive and callbacks that
leave the timer alone, in terms of the map `timers`:

    fired       the ids of the due timers, each once, by expire time
    callbacks   executed in that order, `executeAll`
    returned 0  the timer has the expire time `now + interval`
    otherwise   the timer is gone
    the rest    unchanged, and nothing that is left is due

The loop iterates over the heap it changes.  What carries the induction is that one
pass takes one timer out of the due ones and adds none: a timer that is armed again
expires after `now`, because its interval is positive.
-/
import PlayFrame.Frame.HeapTimerBounds

namespace PlayFrame

namespace TimeValue

/-- An interval that has been normalised and is more than nothing. -/
structure Positive (interval : TimeValue) : Prop where
  usec : 0 ≤ interval.usec
  total : 0 < interval.total

theorem Positive.lt_add {now interval : TimeValue} (h : Positive interval) (hnow : 0 ≤ now.usec) :
    ∃ e, add now interval = .ok e ∧ now < e := by
  obtain ⟨hu, ht⟩ := h
  have hneg : ¬ now.usec + interval.usec < 0 := by omega
  refine ⟨_, by rw [add, normalize_eq, if_neg hneg], ?_⟩
  simp only [TimeValue.total, oneSecondInUsecs] at ht
  simp only [lt_iff, oneSecondInUsecs]
  omega

end TimeValue

namespace HeapTimer

open Lib

variable {κ δ σ : Type}

/-! ## Callbacks -/

/-- The callback of the timer `id`, if it has one. -/
def executeOne (f : κ → Int → δ → σ → Int × σ) (m : TimerMap κ δ) (id : Int) (w : σ) : Int × σ :=
  match m.lookup id with
  | some t => match t.cbObj with
    | some cb => f cb id t.data w
    | none => (0, w)
  | none => (0, w)

/-- The callbacks of `ids`, one after the other: what each of them returned, and the
state they leave. -/
def executeAll (f : κ → Int → δ → σ → Int × σ) (m : TimerMap κ δ) :
    List Int → σ → List (Int × Int) × σ
  | [], w => ([], w)
  | id :: ids, w =>
      let (ret, w) := executeOne f m id w
      let (rets, w) := executeAll f m ids w
      ((id, ret) :: rets, w)

section
variable {f : κ → Int → δ → σ → Int × σ} {m m' : TimerMap κ δ} {ids : List Int} {w : σ}

theorem executeOne_congr {id : Int} (h : m.lookup id = m'.lookup id) :
    executeOne f m id w = executeOne f m' id w := by
  unfold executeOne
  rw [h]

theorem executeAll_congr (h : ∀ id ∈ ids, m.lookup id = m'.lookup id) :
    executeAll f m ids w = executeAll f m' ids w := by
  induction ids generalizing w with
  | nil => rfl
  | cons id ids ih =>
      simp only [executeAll]
      rw [executeOne_congr (h id List.mem_cons_self),
        ih (fun id' hid' => h id' (List.mem_cons_of_mem _ hid'))]

theorem executeAll_ids : (executeAll f m ids w).1.map Prod.fst = ids := by
  induction ids generalizing w with
  | nil => rfl
  | cons id ids ih => simp [executeAll, ih]

theorem executeAll_mem {id ret : Int} (h : (id, ret) ∈ (executeAll f m ids w).1) : id ∈ ids := by
  have hmap : id ∈ (executeAll f m ids w).1.map Prod.fst := List.mem_map.mpr ⟨_, h, rfl⟩
  rwa [executeAll_ids] at hmap

end

/-! ## One pass -/

/-- What a pass leaves of the timer that has fired. -/
structure Outcome (now : TimeValue) (t : Timer κ δ) (ret : Int) (left : Option (Timer κ δ)) :
    Prop where
  again : ret = 0 → ∃ e, TimeValue.add now t.intervalTime = .ok e ∧
    left = some { t with expireTime := e }
  gone : ret ≠ 0 → left = none

/-- No interval of the timers is zero. -/
def AllPositive (m : TimerMap κ δ) : Prop :=
  ∀ id t, m.lookup id = some t → t.intervalTime.Positive

section
variable {f : κ → Int → δ → σ → Int × σ} {now : TimeValue} {s s₁ s' : HeapTimer κ δ} {w w' : σ}
  {n : TimerNode κ δ} {id : Int}

theorem lookup_root (hs : Inv s) (hn : s.nodes (s.heap 0) = some n) :
    (timers s).lookup n.timerId = some (toTimer n) :=
  (lookup_timers hs).mpr ⟨_, n, hn, rfl, rfl⟩

theorem callBack_eq (hs : Inv s) (hn : s.nodes (s.heap 0) = some n) :
    callBack (quiet f) n s w = .ok ((executeOne f (timers s) n.timerId w).1, s,
      (executeOne f (timers s) n.timerId w).2) := by
  have hcb : (toTimer n).cbObj = n.cbObj := rfl
  have hdata : (toTimer n).data = n.data := rfl
  simp only [callBack, executeOne, lookup_root hs hn, hcb, hdata]
  cases n.cbObj with
  | none => rfl
  | some cb => rfl

/-- **One pass** executes the callback of the root, arms it again or removes it, and
leaves the other timers alone. -/
theorem pollStep_fires (hs : Inv s) (hpos : AllPositive (timers s)) (hnow : 0 ≤ now.usec)
    (h0 : 0 < s.curSize) (hn : s.nodes (s.heap 0) = some n) (hdue : n.expireTime ≤ now) (w : σ) :
    ∃ s₁, pollStep now (quiet f) s w =
        .ok (some (n.timerId, s₁, (executeOne f (timers s) n.timerId w).2)) ∧ Inv s₁ ∧
      Outcome now (toTimer n) (executeOne f (timers s) n.timerId w).1
        ((timers s₁).lookup n.timerId) ∧
      ∀ id, id ≠ n.timerId → (timers s₁).lookup id = (timers s).lookup id := by
  rw [pollStep_due hs h0 hn hdue, callBack_eq hs hn]
  simp only [ok_bind]
  have hint : n.intervalTime.Positive := hpos _ _ (lookup_root hs hn)
  have hzero : n.intervalTime ≠ ⟨0, 0⟩ := by
    intro h
    have := hint.total
    rw [h] at this
    exact absurd this (by decide)
  have hspec := afterExecute_spec hs now (executeOne f (timers s) n.timerId w).1 h0 hn
  split at hspec
  · next hret =>
    rw [if_neg (by have := hint.usec; omega)] at hspec
    obtain ⟨s₁, e, h₁, he, hre⟩ := hspec
    have hmap := timers_rearmed hs hn hre
    refine ⟨s₁, by rw [h₁]; rfl, hre.inv, ⟨fun _ => ⟨e, he, ?_⟩, fun h => absurd hret.1 h⟩, ?_⟩
    · rw [hmap, Finmap.lookup_insert]
    · intro id hid
      rw [hmap, Finmap.lookup_insert_of_ne _ hid]
  · next hret =>
    obtain ⟨s₁, h₁, hd⟩ := hspec
    have hmap := timers_dropped hs hn hd
    refine ⟨s₁, by rw [h₁]; rfl, hd.inv, ⟨fun h => absurd ⟨h, hzero⟩ hret, fun _ => ?_⟩, ?_⟩
    · rw [hmap, Finmap.lookup_erase]
    · intro id hid
      rw [hmap, Finmap.lookup_erase_ne hid]

/-! ## The loop -/

/-- The timers that are due. -/
def dueTimers (now : TimeValue) (s : HeapTimer κ δ) : Finset Int :=
  (timers s).keys.filter (fun id => ∀ t ∈ (timers s).lookup id, t.expireTime ≤ now)

theorem mem_dueTimers : id ∈ dueTimers now s ↔
    ∃ t, (timers s).lookup id = some t ∧ t.expireTime ≤ now := by
  rw [dueTimers, Finset.mem_filter, Finmap.mem_keys, Finmap.mem_iff]
  constructor
  · rintro ⟨⟨t, ht⟩, hdue⟩
    exact ⟨t, ht, hdue t ht⟩
  · rintro ⟨t, ht, hdue⟩
    refine ⟨⟨t, ht⟩, fun u hu => ?_⟩
    rw [Option.mem_def, ht] at hu
    cases hu
    exact hdue

theorem card_dueTimers_le (hs : Inv s) : (dueTimers now s).card ≤ s.curSize := by
  rw [← card_timers hs]
  exact Finset.card_filter_le _ _

/-- **What a poll does to the timers**, `fired` the ids it fired. -/
structure Fired (now : TimeValue) (f : κ → Int → δ → σ → Int × σ) (s s' : HeapTimer κ δ) (w w' : σ)
    (fired : List Int) : Prop where
  due : ∀ id, id ∈ fired ↔ ∃ t, (timers s).lookup id = some t ∧ t.expireTime ≤ now
  once : fired.Nodup
  ordered : fired.Pairwise (fun id id' => ∀ t t', (timers s).lookup id = some t →
    (timers s).lookup id' = some t' → t.expireTime ≤ t'.expireTime)
  world : w' = (executeAll f (timers s) fired w).2
  outcome : ∀ id ret t, (id, ret) ∈ (executeAll f (timers s) fired w).1 →
    (timers s).lookup id = some t → Outcome now t ret ((timers s').lookup id)
  others : ∀ id, id ∉ fired → (timers s').lookup id = (timers s).lookup id
  rest : ∀ id t, (timers s').lookup id = some t → now < t.expireTime

theorem Fired.idle (h : ∀ id t, (timers s).lookup id = some t → now < t.expireTime) :
    Fired now f s s w w [] where
  due := by
    intro id
    refine ⟨fun h => absurd h List.not_mem_nil, ?_⟩
    rintro ⟨t, ht, hdue⟩
    exact absurd hdue (not_le.mpr (h id t ht))
  once := List.nodup_nil
  ordered := List.Pairwise.nil
  world := rfl
  outcome := fun _ _ _ h => absurd h List.not_mem_nil
  others := fun _ _ => rfl
  rest := h

theorem Fired.cons {fired : List Int} {t : Timer κ δ} (ht : (timers s).lookup id = some t)
    (hdue : t.expireTime ≤ now)
    (hleast : ∀ id' t', (timers s).lookup id' = some t' → t.expireTime ≤ t'.expireTime)
    (hout : Outcome now t (executeOne f (timers s) id w).1 ((timers s₁).lookup id))
    (hpast : ∀ t', (timers s₁).lookup id = some t' → now < t'.expireTime)
    (hothers : ∀ id', id' ≠ id → (timers s₁).lookup id' = (timers s).lookup id')
    (h : Fired now f s₁ s' (executeOne f (timers s) id w).2 w' fired) :
    Fired now f s s' w w' (id :: fired) := by
  have hnot : id ∉ fired := by
    intro hmem
    obtain ⟨t', ht', hdue'⟩ := (h.due id).mp hmem
    exact absurd hdue' (not_le.mpr (hpast t' ht'))
  have hne : ∀ id' ∈ fired, id' ≠ id := by
    rintro id' hid' rfl
    exact hnot hid'
  have hexec : executeAll f (timers s₁) fired (executeOne f (timers s) id w).2 =
      executeAll f (timers s) fired (executeOne f (timers s) id w).2 :=
    executeAll_congr (fun id' hid' => hothers id' (hne id' hid'))
  refine
    { due := fun id' => ?_
      once := List.nodup_cons.mpr ⟨hnot, h.once⟩
      ordered := List.pairwise_cons.mpr ⟨?_, h.ordered.imp_of_mem ?_⟩
      world := ?_
      outcome := fun id' ret t' hmem ht' => ?_
      others := fun id' hid' => ?_
      rest := h.rest }
  · rw [List.mem_cons]
    by_cases hid : id' = id
    · subst hid
      exact ⟨fun _ => ⟨t, ht, hdue⟩, fun _ => Or.inl rfl⟩
    · simp only [hid, false_or, h.due id', hothers id' hid]
  · intro id' _ u u' hu hu'
    rw [ht] at hu
    cases hu
    exact hleast id' u' hu'
  · intro a b ha hb hab u u' hu hu'
    rw [← hothers a (hne a ha)] at hu
    rw [← hothers b (hne b hb)] at hu'
    exact hab u u' hu hu'
  · rw [h.world, hexec]
    rfl
  · simp only [executeAll, List.mem_cons, Prod.mk.injEq] at hmem
    rcases hmem with ⟨rfl, rfl⟩ | hmem
    · rw [ht] at ht'
      cases ht'
      rw [h.others id' hnot]
      exact hout
    · rw [← hexec] at hmem
      have hid' := hne id' (executeAll_mem hmem)
      exact h.outcome id' ret t' hmem (by rw [hothers id' hid', ht'])
  · rw [List.mem_cons, not_or] at hid'
    rw [h.others id' hid'.2, hothers id' hid'.1]

theorem pollLoop_fires (hnow : 0 ≤ now.usec) : ∀ (k : Nat) {s : HeapTimer κ δ} (w : σ), Inv s →
    AllPositive (timers s) → (dueTimers now s).card = k →
    ∃ fired s' w', (∀ fuel, k < fuel →
      pollLoop now (quiet f) fuel s w = .ok (some (fired, s', w'))) ∧
      Fired now f s s' w w' fired := by
  intro k
  induction k with
  | zero =>
      intro s w hs _ hk
      have hnone : ∀ id t, (timers s).lookup id = some t → now < t.expireTime := by
        intro id t ht
        by_contra hdue
        have hmem := mem_dueTimers.mpr ⟨t, ht, not_lt.mp hdue⟩
        rw [Finset.card_eq_zero.mp hk] at hmem
        exact Finset.notMem_empty _ hmem
      refine ⟨[], s, w, fun fuel hfuel => ?_, .idle hnone⟩
      obtain ⟨fuel, rfl⟩ := Nat.exists_eq_succ_of_ne_zero hfuel.ne'
      rw [pollLoop, pollStep_idle hs (fun n _ hn => hnone _ _ (lookup_root hs hn))]
      rfl
  | succ k ih =>
      intro s w hs hpos hk
      rcases poll_cases hs now with hidle | ⟨n, h0, hn, hdue⟩
      · -- a timer is due, and the root is due no later
        obtain ⟨id, hid⟩ := Finset.card_pos.mp (by omega : 0 < (dueTimers now s).card)
        obtain ⟨t, ht, hdue⟩ := mem_dueTimers.mp hid
        have h0 := hs.curSize_pos ht
        obtain ⟨n, hn, -⟩ := hs.cell h0
        exact absurd ((hs.root_least hn ht).trans hdue) (not_le.mpr (hidle n h0 hn))
      obtain ⟨s₁, hstep, hs₁, hout, hothers⟩ := pollStep_fires hs hpos hnow h0 hn hdue w (f := f)
      have hroot := lookup_root hs hn
      have hpast : ∀ t', (timers s₁).lookup n.timerId = some t' →
          now < t'.expireTime ∧ t'.intervalTime = n.intervalTime := by
        intro t' ht'
        by_cases hret : (executeOne f (timers s) n.timerId w).1 = 0
        · obtain ⟨e, he, hleft⟩ := hout.again hret
          obtain ⟨e', he', hlt⟩ := (hpos _ _ hroot).lt_add hnow
          rw [he] at he'
          cases he'
          rw [hleft] at ht'
          cases ht'
          exact ⟨hlt, rfl⟩
        · rw [hout.gone hret] at ht'
          cases ht'
      have hpos₁ : AllPositive (timers s₁) := by
        intro id t ht
        by_cases hid : id = n.timerId
        · subst hid
          rw [(hpast t ht).2]
          exact hpos _ _ hroot
        · exact hpos id t (by rw [← hothers id hid, ht])
      have hdue₁ : dueTimers now s₁ = (dueTimers now s).erase n.timerId := by
        ext id
        rw [Finset.mem_erase, mem_dueTimers, mem_dueTimers]
        by_cases hid : id = n.timerId
        · subst hid
          simp only [ne_eq, not_true_eq_false, false_and, iff_false]
          rintro ⟨t, ht, hle⟩
          exact absurd hle (not_le.mpr (hpast t ht).1)
        · rw [hothers id hid]
          exact ⟨fun h => ⟨hid, h⟩, fun h => h.2⟩
      have hk₁ : (dueTimers now s₁).card = k := by
        rw [hdue₁, Finset.card_erase_of_mem (mem_dueTimers.mpr ⟨_, hroot, hdue⟩), hk]
        rfl
      obtain ⟨fired, s', w', hloop, hfired⟩ :=
        ih (executeOne f (timers s) n.timerId w).2 hs₁ hpos₁ hk₁
      refine ⟨n.timerId :: fired, s', w', fun fuel hfuel => ?_,
        .cons hroot hdue (fun _ _ ht => hs.root_least hn ht) hout (fun t' ht' => (hpast t' ht').1)
          hothers hfired⟩
      obtain ⟨fuel, rfl⟩ := Nat.exists_eq_succ_of_ne_zero (Nat.ne_zero_of_lt hfuel)
      rw [pollLoop, hstep, ok_bind]
      simp only [hloop fuel (by omega), ok_bind]

theorem timerPoll_fires (hs : Inv s) (hpos : AllPositive (timers s)) (hnow : 0 ≤ now.usec)
    (f : κ → Int → δ → σ → Int × σ) (w : σ) :
    ∃ fired s' w', (∀ fuel, s.curSize < fuel →
      s.timerPoll fuel now (quiet f) w = .ok (some (fired, s', w'))) ∧
      Fired now f s s' w w' fired := by
  by_cases h0 : s.curSize = 0
  · refine ⟨[], s, w, fun fuel _ => by rw [timerPoll, if_pos h0], .idle (fun id t ht => ?_)⟩
    have := hs.curSize_pos ht
    omega
  · obtain ⟨fired, s', w', hloop, hfired⟩ := pollLoop_fires hnow _ w hs hpos rfl (f := f)
    refine ⟨fired, s', w', fun fuel hfuel => ?_, hfired⟩
    rw [timerPoll, if_neg h0, hloop fuel ((card_dueTimers_le hs).trans_lt hfuel)]

end

/-- **A poll fires exactly the due timers**, in every state that a run reaches. -/
theorem calls_fire {heapSize : Nat} {start : Int} {ids : List Int} {s : HeapTimer κ δ}
    (hr : Calls heapSize start ids s) (hpos : AllPositive (timers s)) (now : TimeValue)
    (hnow : now.Canonical) (f : κ → Int → δ → σ → Int × σ) (w : σ) :
    ∃ fired s' w', (∀ fuel, s.curSize < fuel →
      s.timerPoll fuel now (quiet f) w = .ok (some (fired, s', w'))) ∧
      Fired now f s s' w w' fired := by
  rcases Nat.eq_zero_or_pos heapSize with rfl | hsize
  · obtain rfl := hr.eq_init_zero
    exact ⟨[], _, w, fun _ _ => rfl, .idle (fun id t ht => by cases ht)⟩
  · exact timerPoll_fires (hr.inv hsize).1 hpos hnow.nonneg f w

/-- Second 9: the one timer, due in second 8, is fired and armed for second 10. -/
theorem calls_fire_one : ∃ fired s' w',
    Fired ⟨9, 0⟩ (fun _ id _ log => (0, id :: log)) oneTimer s' [] w' fired := by
  have hr : Calls 1 7 [_] oneTimer :=
    .register 7 ⟨1, 0⟩ ⟨1, 0⟩ (some ()) () (.init (by decide)) rfl (by decide)
  have hpos : AllPositive (timers oneTimer) := by
    intro id t ht
    obtain ⟨p, n, hn, -, rfl⟩ := (lookup_timers (hr.inv (by decide)).1).mp ht
    have hp : p = 1 := by
      by_contra hne
      have : oneTimer.nodes p = none := Function.update_of_ne hne _ _
      rw [this] at hn
      cases hn
    subst hp
    cases hn
    exact ⟨by decide, by decide⟩
  obtain ⟨fired, s', w', -, h⟩ :=
    calls_fire hr hpos ⟨9, 0⟩ (by decide) (fun _ id _ log => (0, id :: log)) []
  exact ⟨fired, s', w', h⟩

end HeapTimer

end PlayFrame
