/-
# `PlayFrame.Frame.HeapTimerMap` — the timer heap is a finite map

What a user of `HeapTimer` sees: a finite map from timer ids to timers.  `timers` reads
that map off the heap, and the operations of the heap are those of the map:

    RegisterTimer       insert, under an id that was never returned before
    UnregisterTimer     erase
    GetTimerSize        the number of keys
    FirstTimeout        the least expire time

That an id is new rests on the random numbers.  A slot is used again and again, so a
stale id can only be told from the live id in its slot by its random number, and the
numbers of a run differ for as long as the generator has not gone through its period.
-/
import PlayFrame.Frame.HeapTimerRun
import Mathlib.Data.Finmap
import Mathlib.Order.Bounds.Basic

namespace PlayFrame

open Lib

/-- A timer, without its id. -/
structure Timer (κ δ : Type) where
  expireTime : TimeValue
  intervalTime : TimeValue
  cbObj : Option κ
  data : δ

/-- The timers by their ids. -/
abbrev TimerMap (κ δ : Type) := Finmap (fun _ : Int => Timer κ δ)

namespace HeapTimer

variable {κ δ σ : Type}

/-- The timer a node holds. -/
def toTimer (n : TimerNode κ δ) : Timer κ δ where
  expireTime := n.expireTime
  intervalTime := n.intervalTime
  cbObj := n.cbObj
  data := n.data

/-- The entry of the map at a position of the heap. -/
def entryAt (s : HeapTimer κ δ) (i : Nat) : Option (Sigma fun _ : Int => Timer κ δ) :=
  (s.nodes (s.heap i)).map (fun n => ⟨n.timerId, toTimer n⟩)

/-- **The map a heap stands for.** -/
def timers (s : HeapTimer κ δ) : TimerMap κ δ :=
  ((List.range s.curSize).filterMap (entryAt s)).toFinmap

section
variable {s s' : HeapTimer κ δ} {p : Ptr} {n : TimerNode κ δ} {timerId : Int}

theorem Inv.id_inj (hs : Inv s) {q : Ptr} {m : TimerNode κ δ} (hn : s.nodes p = some n)
    (hm : s.nodes q = some m) (h : n.timerId = m.timerId) : p = q := by
  refine hs.slot_inj hn hm ?_
  unfold slot
  rw [h]

theorem entryAt_nodupKeys (hs : Inv s) :
    ((List.range s.curSize).filterMap (entryAt s)).NodupKeys := by
  refine List.nodupKeys_iff_pairwise.mpr (List.pairwise_filterMap.mpr ?_)
  refine List.Pairwise.imp_of_mem ?_ List.pairwise_lt_range
  intro i j hi hj hij e he e' he' hkey
  obtain ⟨n, hn, rfl⟩ := Option.map_eq_some_iff.mp he
  obtain ⟨m, hm, rfl⟩ := Option.map_eq_some_iff.mp he'
  have := hs.heap_inj (List.mem_range.mp hi) (List.mem_range.mp hj) (hs.id_inj hn hm hkey)
  omega

theorem lookup_timers (hs : Inv s) {t : Timer κ δ} :
    (timers s).lookup timerId = some t ↔
      ∃ p n, s.nodes p = some n ∧ n.timerId = timerId ∧ toTimer n = t := by
  rw [timers, Finmap.dlookup_list_toFinmap, ← Option.mem_def,
    List.mem_dlookup_iff (entryAt_nodupKeys hs), List.mem_filterMap]
  constructor
  · rintro ⟨i, hi, he⟩
    obtain ⟨n, hn, he⟩ := Option.map_eq_some_iff.mp he
    cases he
    exact ⟨s.heap i, n, hn, rfl, rfl⟩
  · rintro ⟨p, n, hn, rfl, rfl⟩
    obtain ⟨i, hi, rfl⟩ := (hs.held p).mpr ⟨n, hn⟩
    exact ⟨i, List.mem_range.mpr hi, by rw [entryAt, hn]; rfl⟩

theorem mem_timers (hs : Inv s) :
    timerId ∈ timers s ↔ ∃ p n, s.nodes p = some n ∧ n.timerId = timerId := by
  rw [Finmap.mem_iff]
  constructor
  · rintro ⟨t, ht⟩
    obtain ⟨p, n, hn, hid, -⟩ := (lookup_timers hs).mp ht
    exact ⟨p, n, hn, hid⟩
  · rintro ⟨p, n, hn, hid⟩
    exact ⟨_, (lookup_timers hs).mpr ⟨p, n, hn, hid, rfl⟩⟩

theorem card_timers (hs : Inv s) : (timers s).keys.card = s.curSize := by
  have hkeys : (timers s).keys = (Finset.range s.curSize).image
      (fun i => (s.nodes (s.heap i)).elim 0 (fun n => n.timerId)) := by
    ext id
    rw [Finmap.mem_keys, mem_timers hs, Finset.mem_image]
    constructor
    · rintro ⟨p, n, hn, rfl⟩
      obtain ⟨i, hi, rfl⟩ := (hs.held p).mpr ⟨n, hn⟩
      exact ⟨i, Finset.mem_range.mpr hi, by rw [hn, Option.elim_some]⟩
    · rintro ⟨i, hi, rfl⟩
      obtain ⟨n, hn, -⟩ := hs.cell (Finset.mem_range.mp hi)
      exact ⟨_, n, hn, by rw [hn, Option.elim_some]⟩
  rw [hkeys, Finset.card_image_of_injOn, Finset.card_range]
  intro i hi j hj h
  have hi' := Finset.mem_range.mp hi
  have hj' := Finset.mem_range.mp hj
  obtain ⟨n, hn, -⟩ := hs.cell hi'
  obtain ⟨m, hm, -⟩ := hs.cell hj'
  simp only [hn, hm, Option.elim_some] at h
  exact hs.heap_inj hi' hj' (hs.id_inj hn hm h)

/-! ## The operations on the map -/

theorem timers_added (hs : Inv s) (ha : Added s s' n) :
    timers s' = (timers s).insert n.timerId (toTimer n) := by
  have hnew : s'.nodes s.fresh = some n := by rw [ha.nodes, Function.update_self]
  refine Finmap.ext_lookup (fun id => Option.ext fun t => ?_)
  rw [lookup_timers ha.inv]
  by_cases hid : id = n.timerId
  · subst hid
    rw [Finmap.lookup_insert]
    constructor
    · rintro ⟨p, m, hm, h, rfl⟩
      have hp := ha.inv.id_inj hm hnew h
      subst hp
      rw [hnew] at hm; cases hm
      rfl
    · rintro ⟨⟩
      exact ⟨s.fresh, n, hnew, rfl, rfl⟩
  · rw [Finmap.lookup_insert_of_ne _ hid, lookup_timers hs]
    constructor
    · rintro ⟨p, m, hm, rfl, rfl⟩
      have hp : p ≠ s.fresh := by
        rintro rfl
        rw [hnew] at hm; cases hm
        exact hid rfl
      rw [ha.nodes, Function.update_of_ne hp] at hm
      exact ⟨p, m, hm, rfl, rfl⟩
    · rintro ⟨p, m, hm, rfl, rfl⟩
      have hp : p ≠ s.fresh := by
        rintro rfl
        rw [hs.fresh _ (Nat.le_refl _)] at hm
        cases hm
      exact ⟨p, m, by rw [ha.nodes, Function.update_of_ne hp, hm], rfl, rfl⟩

theorem Added.fresh_id (hs : Inv s) (ha : Added s s' n) : n.timerId ∉ timers s := by
  rw [mem_timers hs]
  rintro ⟨p, m, hm, hid⟩
  have hne : p ≠ s.fresh := by
    rintro rfl
    rw [hs.fresh _ (Nat.le_refl _)] at hm
    cases hm
  have hm' : s'.nodes p = some m := by rw [ha.nodes, Function.update_of_ne hne, hm]
  have hn' : s'.nodes s.fresh = some n := by rw [ha.nodes, Function.update_self]
  exact hne (ha.inv.id_inj hm' hn' hid)

theorem Inv.id_pos (hs : Inv s) (hn : s.nodes p = some n) : 0 < n.timerId := by
  have ho := hs.owns p n hn
  obtain ⟨hr, hr'⟩ := ho.rand
  have hslot := ho.pos
  rw [ho.id_eq, makeTimerId_eq (Int.natCast_nonneg _) hr (hr'.trans (by decide))]
  omega

/-- **RegisterTimer** of a timer with a positive number of seconds. -/
theorem registerTimer_secs (hs : Inv s) (hcap : s.heapSize ≤ 2147483648) (now : Int) {secs : Int}
    (hsecs : 0 < secs) (cbObj : Option κ) (data : δ) :
    ∃ n s', s.registerTimer now ⟨secs, 0⟩ ⟨secs, 0⟩ cbObj data = .ok (n.timerId, s') ∧
      Added s s' n ∧ toTimer n = ⟨⟨now + secs, 0⟩, ⟨secs, 0⟩, cbObj, data⟩ ∧
      s'.heapSize ≤ 2 * s.heapSize := by
  have hne : (⟨secs, 0⟩ : TimeValue) ≠ ⟨0, 0⟩ := by
    rintro ⟨⟩
    exact Int.lt_irrefl 0 hsecs
  obtain ⟨k, s', hreg, -, -, -, hadd⟩ := registerTimer_spec hs hcap now hne
    (show 0 ≤ (⟨secs, 0⟩ : TimeValue).usec from Int.le_refl 0) cbObj data
  refine ⟨_, s', hreg, hadd, ?_, registerTimer_heapSize hs hcap hreg⟩
  simp [toTimer, newTimer]

theorem timers_dropped (hs : Inv s) (hn : s.nodes p = some n) (hd : Dropped s s' p) :
    timers s' = (timers s).erase n.timerId := by
  refine Finmap.ext_lookup (fun id => Option.ext fun t => ?_)
  rw [lookup_timers hd.inv, hd.nodes]
  simp only [update_none_eq_some]
  by_cases hid : id = n.timerId
  · subst hid
    rw [Finmap.lookup_erase]
    refine ⟨?_, nofun⟩
    rintro ⟨q, m, ⟨hq, hm⟩, h, -⟩
    exact absurd (hs.id_inj hm hn h) hq
  · rw [Finmap.lookup_erase_ne hid, lookup_timers hs]
    constructor
    · rintro ⟨q, m, ⟨-, hm⟩, h, ht⟩
      exact ⟨q, m, hm, h, ht⟩
    · rintro ⟨q, m, hm, h, ht⟩
      refine ⟨q, m, ⟨?_, hm⟩, h, ht⟩
      rintro rfl
      rw [hn] at hm; cases hm
      exact hid h.symm

theorem timers_rearmed {e : TimeValue} (hs : Inv s) (hn : s.nodes p = some n)
    (hre : Rearmed s s' p { n with expireTime := e }) :
    timers s' = (timers s).insert n.timerId { toTimer n with expireTime := e } := by
  refine Finmap.ext_lookup (fun id => Option.ext fun t => ?_)
  rw [lookup_timers hre.inv, hre.nodes]
  by_cases hid : id = n.timerId
  · subst hid
    rw [Finmap.lookup_insert]
    constructor
    · rintro ⟨q, m, hm, h, rfl⟩
      by_cases hq : q = p
      · subst hq
        rw [Function.update_self] at hm; cases hm
        rfl
      · rw [Function.update_of_ne hq] at hm
        exact absurd (hs.id_inj hm hn h) hq
    · rintro ⟨⟩
      exact ⟨p, _, Function.update_self .., rfl, rfl⟩
  · rw [Finmap.lookup_insert_of_ne _ hid, lookup_timers hs]
    have hne : ∀ q m, Function.update s.nodes p (some { n with expireTime := e }) q = some m →
        m.timerId = id → q ≠ p := by
      rintro q m hm rfl rfl
      rw [Function.update_self] at hm; cases hm
      exact hid rfl
    constructor
    · rintro ⟨q, m, hm, h, ht⟩
      rw [Function.update_of_ne (hne q m hm h)] at hm
      exact ⟨q, m, hm, h, ht⟩
    · rintro ⟨q, m, hm, h, ht⟩
      have hq : q ≠ p := by
        rintro rfl
        rw [hn] at hm; cases hm
        exact hid h.symm
      exact ⟨q, m, by rw [Function.update_of_ne hq, hm], h, ht⟩

theorem Inv.curSize_pos (hs : Inv s) {t : Timer κ δ} (ht : (timers s).lookup timerId = some t) :
    0 < s.curSize := by
  obtain ⟨p, m, hm, -, -⟩ := (lookup_timers hs).mp ht
  obtain ⟨i, hi, -⟩ := (hs.held p).mpr ⟨m, hm⟩
  exact Nat.zero_lt_of_lt hi

theorem Inv.root_least (hs : Inv s) (hn : s.nodes (s.heap 0) = some n) {t : Timer κ δ}
    (ht : (timers s).lookup timerId = some t) : n.expireTime ≤ t.expireTime := by
  obtain ⟨p, m, hm, -, rfl⟩ := (lookup_timers hs).mp ht
  obtain ⟨i, hi, rfl⟩ := (hs.held p).mpr ⟨m, hm⟩
  have hroot := hs.order.root_le i hi
  rwa [table_elems, nodeKey_eq hn, nodeKey_eq hm] at hroot

theorem firstTimeout_timers (hs : Inv s) :
    ∃ t, s.firstTimeout = .ok t ∧ (t = none ↔ timers s = ∅) ∧
      ∀ e, t = some e →
        IsLeast {e | ∃ id v, (timers s).lookup id = some v ∧ v.expireTime = e} e := by
  rcases firstTimeout_spec hs with ⟨h0, ht⟩ | ⟨n, h0, hn, ht, hleast⟩
  · refine ⟨none, ht, ⟨fun _ => ?_, fun _ => rfl⟩, nofun⟩
    rw [timers, h0]
    rfl
  · have hmem : (timers s).lookup n.timerId = some (toTimer n) :=
      (lookup_timers hs).mpr ⟨_, n, hn, rfl, rfl⟩
    refine ⟨_, ht, ⟨nofun, fun h => ?_⟩, ?_⟩
    · rw [h, Finmap.lookup_empty] at hmem
      cases hmem
    · rintro e ⟨⟩
      refine ⟨⟨n.timerId, toTimer n, hmem, rfl⟩, ?_⟩
      rintro e ⟨id, v, hv, rfl⟩
      obtain ⟨q, m, hm, -, rfl⟩ := (lookup_timers hs).mp hv
      exact hleast q m hm

end

/-! ## Polling with callbacks that let their timer go -/

/-- What such a poll leaves: the due timers are gone, each was fired once, and `g` has
been applied to their ids in the order in which they were fired. -/
structure Expired (now : TimeValue) (g : Int → σ → σ) (s s' : HeapTimer κ δ) (w w' : σ)
    (fired : List Int) : Prop where
  kept : Kept s s'
  due : ∀ id, id ∈ fired ↔ ∃ t, (timers s).lookup id = some t ∧ t.expireTime ≤ now
  nodup : fired.Nodup
  entries : ∀ id, (timers s').lookup id = if id ∈ fired then none else (timers s).lookup id
  world : w' = fired.foldl (fun w id => g id w) w

section
variable {now : TimeValue} {g : Int → σ → σ} {s s₁ s' : HeapTimer κ δ} {w w' : σ} {ret : Int}

theorem Expired.idle (hs : Inv s)
    (hidle : ∀ n, 0 < s.curSize → s.nodes (s.heap 0) = some n → now < n.expireTime) :
    Expired now g s s w w [] where
  kept := ⟨hs, rfl, rfl⟩
  due := by
    intro id
    refine ⟨fun h => absurd h List.not_mem_nil, ?_⟩
    rintro ⟨t, ht, hdue⟩
    have h0 := hs.curSize_pos ht
    obtain ⟨n, hn, -⟩ := hs.cell h0
    exact absurd ((hs.root_least hn ht).trans hdue) (not_le.mpr (hidle n h0 hn))
  nodup := List.nodup_nil
  entries := fun _ => rfl
  world := rfl

theorem Expired.cons {n : TimerNode κ δ} {fired : List Int} (hs : Inv s)
    (hn : s.nodes (s.heap 0) = some n) (hdue : n.expireTime ≤ now)
    (hd : Dropped s s₁ (s.heap 0)) (h : Expired now g s₁ s' (g n.timerId w) w' fired) :
    Expired now g s s' w w' (n.timerId :: fired) := by
  have hroot : (timers s).lookup n.timerId = some (toTimer n) :=
    (lookup_timers hs).mpr ⟨_, n, hn, rfl, rfl⟩
  have hmap := timers_dropped hs hn hd
  have hlook : ∀ id, (timers s₁).lookup id =
      if id = n.timerId then none else (timers s).lookup id := by
    intro id
    rw [hmap]
    split
    · next e => rw [e, Finmap.lookup_erase]
    · next e => exact Finmap.lookup_erase_ne e
  refine
    { kept := Kept.trans ⟨hd.inv, hd.heapSize, hd.randMaker⟩ h.kept
      due := fun id => ?_
      nodup := List.nodup_cons.mpr ⟨fun hmem => ?_, h.nodup⟩
      entries := fun id => ?_
      world := h.world }
  · rw [List.mem_cons, h.due id, hlook id]
    split
    · next e =>
      subst e
      exact ⟨fun _ => ⟨_, hroot, hdue⟩, fun _ => Or.inl rfl⟩
    · next e => exact ⟨fun h => h.resolve_left e, Or.inr⟩
  · obtain ⟨t, ht, -⟩ := (h.due _).mp hmem
    rw [hlook, if_pos rfl] at ht
    cases ht
  · rw [h.entries id, hlook id]
    by_cases e : id = n.timerId
    · simp [e]
    · simp [e]

/-- **A poll with callbacks that let their timer go** ends by itself. -/
theorem pollLoop_once (hret : ret ≠ 0) : ∀ (fuel : Nat) {s : HeapTimer κ δ} {w : σ}, Inv s →
    (∀ p n, s.nodes p = some n → n.cbObj.isSome) → s.curSize < fuel →
    ∃ fired s' w', pollLoop now (quiet fun _ id _ w => (ret, g id w)) fuel s w =
      .ok (some (fired, s', w')) ∧ Expired now g s s' w w' fired
  | 0, _, _, _, _, h => absurd h (Nat.not_lt_zero _)
  | fuel + 1, s, w, hs, hcb, hlt => by
      unfold pollLoop
      rcases poll_cases hs now with hidle | ⟨n, h0, hn, hdue⟩
      · rw [pollStep_idle hs hidle]
        exact ⟨[], s, w, rfl, Expired.idle hs hidle⟩
      have hspec := afterExecute_spec hs now ret h0 hn
      rw [if_neg (fun h => hret h.1)] at hspec
      obtain ⟨s₁, h₁, hd⟩ := hspec
      obtain ⟨cb, hcall⟩ := Option.isSome_iff_exists.mp (hcb _ n hn)
      have hcb₁ : ∀ p m, s₁.nodes p = some m → m.cbObj.isSome := by
        intro p m hm
        rw [hd.nodes, update_none_eq_some] at hm
        exact hcb p m hm.2
      have hsize := hd.curSize
      obtain ⟨fired, s', w', h, he⟩ :=
        pollLoop_once hret fuel (w := g n.timerId w) hd.inv hcb₁ (by omega)
      refine ⟨n.timerId :: fired, s', w', ?_, Expired.cons hs hn hdue hd he⟩
      rw [pollStep_due hs h0 hn hdue]
      simp only [callBack, hcall, quiet, ok_bind, h₁]
      rw [h]
      rfl

theorem timerPoll_once (now : TimeValue) (g : Int → σ → σ) (w : σ) (hret : ret ≠ 0)
    (hs : Inv s)
    (hcb : ∀ p n, s.nodes p = some n → n.cbObj.isSome) :
    ∃ fired s' w', s.timerPoll (s.curSize + 1) now (quiet fun _ id _ w => (ret, g id w)) w =
      .ok (some (fired, s', w')) ∧ Expired now g s s' w w' fired := by
  unfold timerPoll
  split
  · next h0 =>
    exact ⟨[], s, w, rfl, Expired.idle hs (fun n h => absurd h (by omega))⟩
  · exact pollLoop_once hret _ hs hcb (Nat.lt_succ_self _)

end

/-! ## The ids of a run -/

/-- The ids of the registrations that succeeded. -/
def issued (ids : List Int) : List Int := ids.filter (fun id => decide (id ≠ -1))

section
variable {heapSize : Nat} {start : Int} {ids : List Int} {s s' : HeapTimer κ δ} {timerId : Int}

theorem makeTimerId_ne_refused {k : Nat} {r : Int} (h0 : 0 ≤ r) (hr : r < Random.M) :
    makeTimerId k r ≠ -1 := by
  rw [makeTimerId_eq (Int.natCast_nonneg k) h0 (hr.trans (by decide))]
  have := Int.natCast_nonneg k
  omega

/-- The random numbers of the ids issued are the first terms of the generator, the last
one first. -/
theorem Calls.drawn (hsize : 1 ≤ heapSize) (hseed : (Random.init 0 start).Seeded)
    (hr : Calls heapSize start ids s) :
    s.randMaker = ⟨Random.term (Random.init 0 start).seed (issued ids).length⟩ ∧
      (issued ids).map randOf = ((List.range (issued ids).length).map
        (fun j => Random.term (Random.init 0 start).seed (j + 1))).reverse := by
  induction hr with
  | init =>
      refine ⟨?_, rfl⟩
      exact congrArg Random.mk (Random.term_zero hseed).symm
  | @register ids s s' timerId now interval delay cbObj data hr h _ ih =>
      obtain ⟨hs, hcap, -⟩ := hr.inv hsize
      rcases registerTimer_step hs hcap h with ⟨-, rfl, rfl⟩ | ⟨k, -, hk, -, -, -, rfl, hadd⟩
      · exact ih
      · have hdraw : s.randMaker.getRand.1 =
            Random.term (Random.init 0 start).seed ((issued ids).length + 1) := by
          rw [ih.1]; exact Random.getRand_term hseed _
        have hrange := Random.getRand_range hs.seed.1 hs.seed.2
        have hne := makeTimerId_ne_refused (k := k) hrange.1 hrange.2
        have hiss : issued (makeTimerId k s.randMaker.getRand.1 :: ids) =
            makeTimerId k s.randMaker.getRand.1 :: issued ids :=
          List.filter_cons_of_pos (by simpa using hne)
        rw [hiss, List.length_cons]
        refine ⟨?_, ?_⟩
        · rw [hadd.randMaker, Random.getRand_snd, hdraw]
        · rw [List.map_cons, ih.2, List.range_succ, List.map_append, List.reverse_append,
            randOf_makeTimerId (Int.natCast_nonneg k) hrange.1 (hrange.2.trans (by decide)), hdraw]
          rfl
  | unregister timerId hr h ih =>
      obtain ⟨hs, -, -⟩ := hr.inv hsize
      rcases unregisterTimer_cases hs h with ⟨p, n, -, -, hd⟩ | rfl
      · exact ⟨hd.randMaker.trans ih.1, ih.2⟩
      · exact ih
  | poll fuel now f hr h ih =>
      obtain ⟨hs, -, -⟩ := hr.inv hsize
      exact ⟨((timerPoll_quiet f hs fuel).2 _ _ _ h).randMaker.trans ih.1, ih.2⟩

theorem Reach.fresh_id (hsize : 1 ≤ heapSize) (hseed : (Random.init 0 start).Seeded)
    (hr : Reach heapSize start ids s) (hN : (issued ids).length + 1 < 2147483646) (k : Nat) :
    makeTimerId k s.randMaker.getRand.1 ∉ ids := by
  obtain ⟨hs, -, -⟩ := hr.inv hsize
  obtain ⟨hmaker, hmap⟩ := hr.calls.drawn hsize hseed
  have hrange := Random.getRand_range hs.seed.1 hs.seed.2
  have hdraw : s.randMaker.getRand.1 =
      Random.term (Random.init 0 start).seed ((issued ids).length + 1) := by
    rw [hmaker]; exact Random.getRand_term hseed _
  intro hmem
  have hiss : makeTimerId k s.randMaker.getRand.1 ∈ issued ids :=
    List.mem_filter.mpr ⟨hmem, by simpa using makeTimerId_ne_refused hrange.1 hrange.2⟩
  have hrand := List.mem_map_of_mem (f := randOf) hiss
  rw [randOf_makeTimerId (Int.natCast_nonneg k) hrange.1 (hrange.2.trans (by decide)), hmap,
    List.mem_reverse, List.mem_map] at hrand
  obtain ⟨j, hj, h⟩ := hrand
  rw [hdraw] at h
  have hlt := List.mem_range.mp hj
  have := Random.term_injOn hseed (by omega) hN h
  omega

/-- **The heap refines the map over whole runs.** -/
theorem reach_refines (hsize : 1 ≤ heapSize) (hseed : (Random.init 0 start).Seeded)
    (hr : Reach heapSize start ids s) :
    (∀ now delay cbObj data, s.registerTimer now ⟨0, 0⟩ delay cbObj data = .ok (-1, s)) ∧
    (∀ now interval delay cbObj data, interval ≠ ⟨0, 0⟩ → 0 ≤ delay.usec →
      (issued ids).length + 1 < 2147483646 →
      ∃ timerId s' expire, s.registerTimer now interval delay cbObj data = .ok (timerId, s') ∧
        timerId ∉ timers s ∧ timerId ∉ ids ∧
        expire.Canonical ∧ expire.total = now * oneSecondInUsecs + delay.total ∧
        timers s' = (timers s).insert timerId ⟨expire, interval, cbObj, data⟩) ∧
    (∀ timerId ∈ ids, ∃ s', s.unregisterTimer timerId = .ok s' ∧
      timers s' = (timers s).erase timerId ∧ (timerId ∉ timers s → s' = s)) ∧
    s.getTimerSize = (timers s).keys.card ∧
    (∃ t, s.firstTimeout = .ok t ∧ (t = none ↔ timers s = ∅) ∧
      ∀ e, t = some e →
        IsLeast {e | ∃ id v, (timers s).lookup id = some v ∧ v.expireTime = e} e) := by
  obtain ⟨hs, hcap, hids⟩ := hr.inv hsize
  refine ⟨fun now delay cbObj data => registerTimer_zero s now delay cbObj data, ?_, ?_, ?_,
    firstTimeout_timers hs⟩
  · intro now interval delay cbObj data hne hd hN
    obtain ⟨k, s', h, hk0, hk, hfree, hadd⟩ :=
      registerTimer_spec hs (hcap.le.trans (by decide)) now hne hd cbObj data
    have hexp : TimeValue.set (now + delay.sec) delay.usec =
        .ok (newTimer s k now interval delay cbObj data).expireTime := by
      rw [TimeValue.set_eq, if_neg (by omega)]
      rfl
    obtain ⟨hcan, htot⟩ := TimeValue.set_ok hexp
    refine ⟨_, s', _, h, ?_, hr.fresh_id hsize hseed hN k, hcan, ?_, timers_added hs hadd⟩
    · rintro hmem
      obtain ⟨p, n, hn, hid⟩ := (mem_timers hs).mp hmem
      have hrange := Random.getRand_range hs.seed.1 hs.seed.2
      refine hfree p n hn ?_
      unfold slot
      rw [hid, slotOf_known (hk.trans hcap) hrange.1 hrange.2]
      exact Int.toNat_natCast k
    · rw [htot]
      unfold TimeValue.total oneSecondInUsecs
      omega
  · intro timerId hmem
    rcases unregisterTimer_step hs (hids _ hmem) with ⟨s', p, n, h, hn, hnames, hd⟩ | ⟨h, hno⟩
    · have hid := (hids _ hmem).eq_of_names hs hn hnames
      refine ⟨s', h, by rw [timers_dropped hs hn hd, hid], fun hnot => ?_⟩
      exact absurd ((mem_timers hs).mpr ⟨p, n, hn, hid⟩) hnot
    · have hnot : timerId ∉ timers s := by
        intro hin
        obtain ⟨p, n, hn, rfl⟩ := (mem_timers hs).mp hin
        exact hno p n hn ⟨rfl, rfl⟩
      refine ⟨s, h, ?_, fun _ => rfl⟩
      refine Finmap.ext_lookup (fun id => ?_)
      by_cases hid : id = timerId
      · subst hid
        rw [Finmap.lookup_erase, Finmap.lookup_eq_none.mpr hnot]
      · rw [Finmap.lookup_erase_ne hid]
  · have hroom := hs.room
    have hlim : capLimit = 1073741824 := rfl
    rw [card_timers hs, getTimerSize_eq (by omega)]

/-- A second timer gets an id of its own. -/
theorem reach_refines_second : ∃ (id id' : Int) (s s' : HeapTimer Unit Unit),
    Reach 1 7 [id] s ∧ s.registerTimer 8 ⟨1, 0⟩ ⟨0, 0⟩ none () = .ok (id', s') ∧
      id' ∉ timers s ∧ id' ≠ id := by
  have hr : Reach 1 7 [_] _ :=
    .register 7 ⟨1, 0⟩ ⟨2, 0⟩ (none : Option Unit) () (.init (by decide)) rfl (by decide)
  obtain ⟨id', s', e, h, hnot, hnew, -⟩ :=
    (reach_refines (by decide) ⟨by decide, by decide⟩ hr).2.1 8 ⟨1, 0⟩ ⟨0, 0⟩ none ()
      (by decide) (by decide)
      (Nat.lt_of_le_of_lt (Nat.succ_le_succ (List.length_filter_le _ _)) (by decide))
  exact ⟨_, id', _, s', hr, h, hnot, by simpa using hnew⟩

theorem Calls.randOf_issued (hsize : 1 ≤ heapSize) (hseed : (Random.init 0 start).Seeded)
    (hr : Calls heapSize start ids s) (hid : timerId ∈ issued ids) :
    ∃ j, randOf timerId = Random.term (Random.init 0 start).seed (j + 1) := by
  have hmem := List.mem_map_of_mem (f := randOf) hid
  rw [(hr.drawn hsize hseed).2, List.mem_reverse, List.mem_map] at hmem
  obtain ⟨j, -, h⟩ := hmem
  exact ⟨j, h.symm⟩

theorem Calls.issued_pos (hsize : 1 ≤ heapSize) (hseed : (Random.init 0 start).Seeded)
    (hr : Calls heapSize start ids s) (hid : timerId ∈ issued ids) : 0 < timerId := by
  obtain ⟨hids, hne⟩ := List.mem_filter.mp hid
  obtain ⟨j, hj⟩ := hr.randOf_issued hsize hseed hid
  have hpos : 1 ≤ Random.term (Random.init 0 start).seed (j + 1) :=
    (Random.term_seeded hseed (j + 1)).1
  rcases (hr.inv hsize).2.2 timerId hids with rfl | ⟨k, r, -, -, h0, hM, rfl⟩
  · exact absurd rfl (of_decide_eq_true hne)
  · have hlt := hM.trans (by decide : Random.M < 4294967296)
    rw [randOf_makeTimerId (Int.natCast_nonneg k) h0 (hM.trans (by decide))] at hj
    rw [makeTimerId_eq (Int.natCast_nonneg k) h0 hlt]
    omega

theorem Calls.issued_nodup (hsize : 1 ≤ heapSize) (hseed : (Random.init 0 start).Seeded)
    (hr : Calls heapSize start ids s) (hN : (issued ids).length ≤ 2147483646) :
    (issued ids).Nodup := by
  refine List.Nodup.of_map randOf ?_
  rw [(hr.drawn hsize hseed).2]
  refine List.nodup_reverse.mpr (List.Nodup.map_on ?_ List.nodup_range)
  intro i hi j hj hij
  exact Random.term_succ_injOn hseed ((List.mem_range.mp hi).trans_le hN)
    ((List.mem_range.mp hj).trans_le hN) hij

/-- **Ids are not reused within the period.**  The ids a run is given are positive and
pairwise different, so one whose timer is gone names no timer of its slot any more. -/
theorem calls_unique (hsize : 1 ≤ heapSize) (hseed : (Random.init 0 start).Seeded)
    (hr : Calls heapSize start ids s) (hN : (issued ids).length ≤ 2147483646) :
    (∀ timerId ∈ issued ids, 0 < timerId) ∧ (issued ids).Nodup ∧
      ∀ timerId ∈ issued ids, timerId ∉ timers s → s.unregisterTimer timerId = .ok s := by
  refine ⟨fun timerId hid => hr.issued_pos hsize hseed hid, hr.issued_nodup hsize hseed hN, ?_⟩
  intro timerId hid hgone
  obtain ⟨hs, -, hids⟩ := hr.inv hsize
  have hknown := hids timerId (List.mem_of_mem_filter hid)
  rcases unregisterTimer_step hs hknown with ⟨s', p, n, -, hn, hnames, -⟩ | ⟨h, -⟩
  · exact absurd ((mem_timers hs).mpr ⟨p, n, hn, hknown.eq_of_names hs hn hnames⟩) hgone
  · exact h

/-- A timer is registered in the slot of one that is gone, and the old id leaves it alone. -/
theorem calls_unique_reused : ∃ (id id' : Int) (s : HeapTimer Unit Unit),
    Calls 1 7 [id', id] s ∧ slotOf id' = slotOf id ∧ id' ≠ id ∧
      s.unregisterTimer id = .ok s := by
  have hr : Calls 1 7 [_, _] _ :=
    .register 8 ⟨1, 0⟩ ⟨2, 0⟩ (none : Option Unit) () (.unregister (makeTimerId 1 337897)
      (.register 7 ⟨1, 0⟩ ⟨2, 0⟩ (none : Option Unit) () (.init (by decide)) rfl (by decide)) rfl)
      rfl (by decide)
  obtain ⟨-, hnodup, hgone⟩ := calls_unique (by decide) ⟨by decide, by decide⟩ hr (by decide)
  refine ⟨_, _, _, hr, by decide, ?_, hgone _ (by decide) (by decide)⟩
  exact fun e => (List.nodup_cons.mp hnodup).1 (List.mem_singleton.mpr e)

end

end HeapTimer

end PlayFrame
