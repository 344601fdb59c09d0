/-
# `PlayFrame.Frame.TimerPoll` — polling with callbacks that use the timer

`TimerPoll` reads the root before the callback and acts on the root afterwards: it
takes for granted that they are the same node.  A callback is here a `Script`, the
calls it makes to the timer, each of which may depend on what the earlier ones
returned.  A script is `Safe` for the timer `n` that is firing when every one of its
calls leaves `n` at the root:

    RegisterTimer      the new timer does not expire before `n`
    UnregisterTimer    the id is not that of `n`, and its slot is not `heap_size_`

With safe scripts polling is correct (`timerPoll_session`): the invariant holds
afterwards, nothing is deleted twice, and every timer that was not fired and not
unregistered is still there.  A script that unregisters its own timer is never safe,
and always ends in a fault (`pollStep_self_unregister`): the source means to notice
that the node was deleted, but tests its own local pointer, which nothing has cleared.
-/
import PlayFrame.Frame.HeapTimerMap

namespace PlayFrame

open Lib

/-- The calls a callback makes to the timer, and what it returns. -/
inductive Script (κ δ ρ : Type) where
  | done (r : ρ)
  | register (now : Int) (interval delay : TimeValue) (cbObj : Option κ) (data : δ)
      (next : Int → Script κ δ ρ)
  | unregister (timerId : Int) (next : Script κ δ ρ)

/-- What a callback did to the timer. -/
inductive Event (κ δ : Type) where
  | registered (timerId : Int) (t : Timer κ δ)
  | unregistered (timerId : Int)

/-- What the callback of every object does, on its timer id, its data and a state `σ` of
its own. -/
abbrev Behaviour (κ δ σ : Type) : Type := κ → Int → δ → σ → Script κ δ (Int × σ)

/-- The timer a registration in the second `now` asks for. -/
def timerOf {κ δ : Type} (now : Int) (interval delay : TimeValue) (cbObj : Option κ) (data : δ) :
    Timer κ δ where
  expireTime :=
    ⟨now + delay.sec + delay.usec / oneSecondInUsecs, delay.usec % oneSecondInUsecs⟩
  intervalTime := interval
  cbObj := cbObj
  data := data

/-- What a call does to the map. -/
def Event.apply {κ δ : Type} (m : TimerMap κ δ) : Event κ δ → TimerMap κ δ
  | .registered timerId t => m.insert timerId t
  | .unregistered timerId => m.erase timerId

/-- The map after the calls of the callbacks. -/
def expected {κ δ : Type} (m : TimerMap κ δ) (log : List (Event κ δ)) : TimerMap κ δ :=
  log.foldl Event.apply m

namespace HeapTimer

variable {κ δ ρ σ : Type}

/-- The calls of a script, made to the heap; the log gets an entry for each. -/
def runScript : Script κ δ ρ → HeapTimer κ δ → List (Event κ δ) →
    Result (ρ × HeapTimer κ δ × List (Event κ δ))
  | .done r, s, log => .ok (r, s, log)
  | .register now interval delay cbObj data next, s, log => do
      let (timerId, s) ← s.registerTimer now interval delay cbObj data
      let log := if timerId = -1 then log
        else log ++ [.registered timerId (timerOf now interval delay cbObj data)]
      runScript (next timerId) s log
  | .unregister timerId next, s, log => do
      let s ← s.unregisterTimer timerId
      runScript next s (log ++ [.unregistered timerId])

/-- The callbacks of a behaviour. -/
def scripted (b : Behaviour κ δ σ) : Execute κ δ (σ × List (Event κ δ)) :=
  fun cb timerId data s w => do
    let ((ret, w'), s, log) ← runScript (b cb timerId data w.1) s w.2
    .ok (ret, s, (w', log))

/-! ## When a call leaves the root alone -/

/-- The values of an `int64_t`. -/
def IsInt64 (x : Int) : Prop := -9223372036854775808 ≤ x ∧ x < 9223372036854775808

/-- Every call of the script leaves the timer `n` at the root. -/
def Safe (n : TimerNode κ δ) : Script κ δ ρ → HeapTimer κ δ → Prop
  | .done _, _ => True
  | .register now interval delay cbObj data next, s =>
      (interval ≠ ⟨0, 0⟩ → s.heapSize < capLimit ∧
        n.expireTime ≤ (timerOf now interval delay cbObj data).expireTime) ∧
      ∀ timerId s', s.registerTimer now interval delay cbObj data = .ok (timerId, s') →
        Safe n (next timerId) s'
  | .unregister timerId next, s =>
      (IsInt64 timerId ∧ slotOf timerId ≠ s.heapSize ∧ ¬ Names timerId n) ∧
      ∀ s', s.unregisterTimer timerId = .ok s' → Safe n next s'

/-- The script of the timer that fires next, if one does, is safe. -/
def StepSafe (now : TimeValue) (b : Behaviour κ δ σ) (s : HeapTimer κ δ) (w : σ) : Prop :=
  ∀ n cb, 0 < s.curSize → s.nodes (s.heap 0) = some n → n.expireTime ≤ now →
    n.cbObj = some cb → Safe n (b cb n.timerId n.data w) s

/-- The states between the passes of a poll, with the ids fired so far. -/
inductive PollReach (now : TimeValue) (execute : Execute κ δ σ) (s₀ : HeapTimer κ δ) (w₀ : σ) :
    List Int → HeapTimer κ δ → σ → Prop
  | start : PollReach now execute s₀ w₀ [] s₀ w₀
  | pass {fired : List Int} {s s' : HeapTimer κ δ} {w w' : σ} {timerId : Int} :
      PollReach now execute s₀ w₀ fired s w →
      pollStep now execute s w = .ok (some (timerId, s', w')) →
      PollReach now execute s₀ w₀ (fired ++ [timerId]) s' w'

/-- Every script of a poll is safe in the state in which its timer fires. -/
def PollSafe (now : TimeValue) (b : Behaviour κ δ σ) (s : HeapTimer κ δ) (w : σ) : Prop :=
  ∀ fired s' w' log, PollReach now (scripted b) s (w, []) fired s' (w', log) →
    StepSafe now b s' w'

/-- What a poll should do: no fault but the abort of a `CHECK`; afterwards the invariant,
and all timers that were neither fired nor unregistered. -/
def PollCorrect (now : TimeValue) (b : Behaviour κ δ σ) (w : σ) (s : HeapTimer κ δ) : Prop :=
  ∀ fuel, Result.Clean (s.timerPoll fuel now (scripted b) (w, [])) ∧
    ∀ fired s' w' log,
      s.timerPoll fuel now (scripted b) (w, []) = .ok (some (fired, s', (w', log))) →
      Represented s' ∧ ∀ id t, id ∉ fired → (expected (timers s) log).lookup id = some t →
        (timers s').lookup id = some t

/-! ## Scripts -/

section
variable {s s' : HeapTimer κ δ} {n : TimerNode κ δ} {p : Ptr} {timerId : Int}

theorem eq_of_names (hs : Inv s) (hid : IsInt64 timerId) (hn : s.nodes p = some n)
    (hnames : Names timerId n) : n.timerId = timerId := by
  have ho := hs.owns p n hn
  obtain ⟨hslot, hrand⟩ := hnames
  rw [ho.slot_eq] at hslot
  rw [ho.rand_eq] at hrand
  obtain ⟨hr0, hr1⟩ := ho.rand
  have hM : Random.M = 2147483647 := rfl
  have hdiv : slotOf timerId = timerId / 4294967296 := by
    rw [slotOf, Int.shiftRight_eq_div_pow]
    unfold IsInt64 at hid
    exact toInt32_of_range (by omega) (by omega)
  obtain ⟨m, rfl⟩ := Int.eq_ofNat_of_zero_le (by omega : 0 ≤ timerId)
  have hland : Int.land m 0xffffffff = ((m % 4294967296 : Nat) : Int) := by
    show ((m &&& 0xffffffff : Nat) : Int) = _
    rw [Nat.and_two_pow_sub_one_eq_mod m 32]
  have hmod : ((m % 4294967296 : Nat) : Int) = s.randArray (slot n) := by
    rw [hrand, randOf, hland, toInt32, Int.bmod_def]
    rw [randOf, hland, toInt32, Int.bmod_def] at hrand
    split at hrand <;> omega
  rw [ho.id_eq, makeTimerId_eq (Int.natCast_nonneg _) hr0 (by omega)]
  omega

/-- The heap while a callback runs: the timer that is firing stays at the root. -/
structure Firing (s : HeapTimer κ δ) (p : Ptr) (n : TimerNode κ δ) : Prop where
  inv : Inv s
  root : s.heap 0 = p
  node : s.nodes p = some n

theorem Firing.curSize_pos (h : Firing s p n) : 0 < s.curSize := by
  obtain ⟨i, hi, -⟩ := (h.inv.held p).mpr ⟨n, h.node⟩
  omega

theorem expected_append (m : TimerMap κ δ) (log : List (Event κ δ)) (e : Event κ δ) :
    expected m (log ++ [e]) = e.apply (expected m log) := by
  rw [expected, List.foldl_append]
  rfl

/-- The map of the heap is the expected one, but for the timers fired. -/
def Tracks (m : TimerMap κ δ) (fired : List Int) (log : List (Event κ δ)) (s : HeapTimer κ δ) :
    Prop :=
  ∀ id, id ∉ fired → (timers s).lookup id = (expected m log).lookup id

theorem Tracks.registered {m : TimerMap κ δ} {fired : List Int} {log : List (Event κ δ)}
    {t : Timer κ δ} (h : Tracks m fired log s) (hs' : timers s' = (timers s).insert timerId t) :
    Tracks m fired (log ++ [.registered timerId t]) s' := by
  intro id hid
  rw [hs', expected_append, Event.apply]
  by_cases he : id = timerId
  · subst he
    rw [Finmap.lookup_insert, Finmap.lookup_insert]
  · rw [Finmap.lookup_insert_of_ne _ he, Finmap.lookup_insert_of_ne _ he]
    exact h id hid

theorem Tracks.unregistered {m : TimerMap κ δ} {fired : List Int} {log : List (Event κ δ)}
    (h : Tracks m fired log s) (hs' : timers s' = (timers s).erase timerId) :
    Tracks m fired (log ++ [.unregistered timerId]) s' := by
  intro id hid
  rw [hs', expected_append, Event.apply]
  by_cases he : id = timerId
  · subst he
    rw [Finmap.lookup_erase, Finmap.lookup_erase]
  · rw [Finmap.lookup_erase_ne he, Finmap.lookup_erase_ne he]
    exact h id hid

theorem Firing.register {now : Int} {interval delay : TimeValue} {cbObj : Option κ} {data : δ}
    (h : Firing s p n) (hsafe : interval ≠ ⟨0, 0⟩ → s.heapSize < capLimit ∧
      n.expireTime ≤ (timerOf now interval delay cbObj data).expireTime) :
    Result.Clean (s.registerTimer now interval delay cbObj data) ∧
      ∀ timerId s', s.registerTimer now interval delay cbObj data = .ok (timerId, s') →
        Firing s' p n ∧ (timerId = -1 ∧ s' = s ∨ timerId ≠ -1 ∧
          timers s' = (timers s).insert timerId (timerOf now interval delay cbObj data)) := by
  by_cases hzero : interval = ⟨0, 0⟩
  · subst hzero
    rw [registerTimer_zero]
    exact ⟨clean_ok _, fun _ _ he => by cases he; exact ⟨h, Or.inl ⟨rfl, rfl⟩⟩⟩
  obtain ⟨hcap, hle⟩ := hsafe hzero
  refine ⟨registerTimer_clean h.inv hcap now interval delay cbObj data, fun timerId s' he => ?_⟩
  rcases registerTimer_step h.inv hcap he with ⟨rfl, -⟩ | ⟨k, -, -, -, -, -, rfl, hadd⟩
  · exact absurd rfl hzero
  have hp : p ≠ s.fresh := by
    rintro rfl
    have := h.inv.fresh s.fresh (Nat.le_refl _)
    rw [h.node] at this
    cases this
  have hr := Random.getRand_range h.inv.seed.1 h.inv.seed.2
  have hroot : s'.heap 0 = s.heap 0 := hadd.root h.curSize_pos (by
    rw [h.root, nodeKey_eq h.node]; exact hle)
  refine ⟨⟨hadd.inv, hroot.trans h.root, ?_⟩,
    Or.inr ⟨makeTimerId_ne_refused hr.1 hr.2, timers_added h.inv hadd⟩⟩
  rw [hadd.nodes, Function.update_of_ne hp]
  exact h.node

theorem Firing.unregister (h : Firing s p n) (hid : IsInt64 timerId)
    (hslot : slotOf timerId ≠ s.heapSize) (hne : ¬ Names timerId n) :
    ∃ s', s.unregisterTimer timerId = .ok s' ∧ Firing s' p n ∧
      timers s' = (timers s).erase timerId := by
  by_cases hno : ∃ q m, s.nodes q = some m ∧ Names timerId m
  · obtain ⟨q, m, hm, hnames⟩ := hno
    obtain ⟨s', hs', hd⟩ := unregisterTimer_hit h.inv hm hnames
    have hqp : p ≠ q := by
      rintro rfl
      rw [h.node] at hm; cases hm
      exact hne hnames
    refine ⟨s', hs', ⟨hd.inv, (hd.root (by rw [h.root]; exact hqp)).trans h.root, ?_⟩, ?_⟩
    · rw [hd.nodes, Function.update_of_ne hqp]
      exact h.node
    · rw [timers_dropped h.inv hm hd, eq_of_names h.inv hid hm hnames]
  · have hno' : ∀ q m, s.nodes q = some m → ¬ Names timerId m :=
      fun q m hm hnames => hno ⟨q, m, hm, hnames⟩
    refine ⟨s, unregisterTimer_miss h.inv hslot hno', h, ?_⟩
    have hnot : timerId ∉ timers s := by
      intro hin
      obtain ⟨q, m, hm, rfl⟩ := (mem_timers h.inv).mp hin
      exact hno' q m hm ⟨rfl, rfl⟩
    refine Finmap.ext_lookup (fun id => ?_)
    by_cases he : id = timerId
    · subst he
      rw [Finmap.lookup_erase, Finmap.lookup_eq_none.mpr hnot]
    · rw [Finmap.lookup_erase_ne he]

/-- **A safe script** leaves the timer that is firing at the root. -/
theorem runScript_safe {m : TimerMap κ δ} {fired : List Int} :
    ∀ (c : Script κ δ ρ) {s : HeapTimer κ δ} {log : List (Event κ δ)}, Firing s p n →
      Safe n c s → Tracks m fired log s →
      Result.Clean (runScript c s log) ∧ ∀ r s' log', runScript c s log = .ok (r, s', log') →
        Firing s' p n ∧ Tracks m fired log' s'
  | .done r, s, log, h, _, ht => by
      refine ⟨clean_ok _, fun r' s' log' he => ?_⟩
      cases he
      exact ⟨h, ht⟩
  | .register now interval delay cbObj data next, s, log, h, hsafe, ht => by
      obtain ⟨hclean, hstep⟩ := h.register hsafe.1
      have hnext : ∀ timerId s', s.registerTimer now interval delay cbObj data =
          .ok (timerId, s') → ∀ log', (if timerId = -1 then log
            else log ++ [.registered timerId (timerOf now interval delay cbObj data)]) = log' →
          Firing s' p n ∧ Safe n (next timerId) s' ∧ Tracks m fired log' s' := by
        rintro timerId s' he log' rfl
        obtain ⟨hf, hmap⟩ := hstep timerId s' he
        refine ⟨hf, hsafe.2 timerId s' he, ?_⟩
        rcases hmap with ⟨rfl, rfl⟩ | ⟨hne, hmap⟩
        · rw [if_pos rfl]; exact ht
        · rw [if_neg hne]; exact ht.registered hmap
      unfold runScript
      refine ⟨bind_clean hclean (fun a ha => ?_), fun r s' log' he => ?_⟩
      · obtain ⟨hf, hsafe', ht'⟩ := hnext a.1 a.2 ha _ rfl
        exact (runScript_safe (next a.1) hf hsafe' ht').1
      · obtain ⟨a, ha, he⟩ := bind_eq_ok.mp he
        obtain ⟨hf, hsafe', ht'⟩ := hnext a.1 a.2 ha _ rfl
        exact (runScript_safe (next a.1) hf hsafe' ht').2 r s' log' he
  | .unregister timerId next, s, log, h, hsafe, ht => by
      obtain ⟨⟨hid, hslot, hne⟩, hsafe⟩ := hsafe
      obtain ⟨s₁, hs₁, hf, hmap⟩ := h.unregister hid hslot hne
      unfold runScript
      rw [hs₁, ok_bind]
      exact runScript_safe next hf (hsafe s₁ hs₁) (ht.unregistered hmap)

end

/-! ## Passes and polls -/

section
variable {s : HeapTimer κ δ} {n : TimerNode κ δ} {now : TimeValue} {b : Behaviour κ δ σ}
  {m : TimerMap κ δ} {fired : List Int} {log : List (Event κ δ)} {w : σ}

theorem afterExecute_tracks {p : Ptr} {ret : Int} (h : Firing s p n) (ht : Tracks m fired log s) :
    Result.Clean (s.afterExecute now p ret) ∧ ∀ s', s.afterExecute now p ret = .ok s' →
      Inv s' ∧ Tracks m (fired ++ [n.timerId]) log s' := by
  obtain ⟨hs, rfl, hn⟩ := h
  have h0 := Firing.curSize_pos ⟨hs, rfl, hn⟩
  have hother : ∀ id, id ∉ fired ++ [n.timerId] → id ≠ n.timerId ∧ id ∉ fired := by
    intro id hid
    simp only [List.mem_append, List.mem_singleton, not_or] at hid
    exact ⟨hid.2, hid.1⟩
  have hspec := afterExecute_spec hs now ret h0 hn
  split at hspec
  · split at hspec
    · rw [hspec]
      exact ⟨clean_check, nofun⟩
    · obtain ⟨s₁, e, h₁, -, hre⟩ := hspec
      rw [h₁]
      refine ⟨clean_ok _, fun s' he => ?_⟩
      cases he
      refine ⟨hre.inv, fun id hid => ?_⟩
      obtain ⟨hne, hid⟩ := hother id hid
      rw [timers_rearmed hs hn hre, Finmap.lookup_insert_of_ne _ hne]
      exact ht id hid
  · obtain ⟨s₁, h₁, hd⟩ := hspec
    rw [h₁]
    refine ⟨clean_ok _, fun s' he => ?_⟩
    cases he
    refine ⟨hd.inv, fun id hid => ?_⟩
    obtain ⟨hne, hid⟩ := hother id hid
    rw [timers_dropped hs hn hd, Finmap.lookup_erase_ne hne]
    exact ht id hid

theorem pollStep_tracks (hs : Inv s) (hsafe : StepSafe now b s w) (ht : Tracks m fired log s) :
    Result.Clean (pollStep now (scripted b) s (w, log)) ∧ ∀ id s' w',
      pollStep now (scripted b) s (w, log) = .ok (some (id, s', w')) →
        Inv s' ∧ Tracks m (fired ++ [id]) w'.2 s' := by
  rcases poll_cases hs now with hidle | ⟨n, h0, hn, hdue⟩
  · rw [pollStep_idle hs hidle]
    exact ⟨clean_ok _, nofun⟩
  have hf : Firing s (s.heap 0) n := ⟨hs, rfl, hn⟩
  obtain ⟨hclean, hcall⟩ : Result.Clean (callBack (scripted b) n s (w, log)) ∧ ∀ a,
      callBack (scripted b) n s (w, log) = .ok a →
        Firing a.2.1 (s.heap 0) n ∧ Tracks m fired a.2.2.2 a.2.1 := by
    unfold callBack scripted
    cases hcb : n.cbObj with
    | none => exact ⟨clean_ok _, fun a ha => by cases ha; exact ⟨hf, ht⟩⟩
    | some cb =>
        obtain ⟨hc, hr⟩ := runScript_safe (b cb n.timerId n.data w) hf
          (hsafe n cb h0 hn hdue hcb) ht
        refine ⟨bind_clean hc (fun _ _ => clean_ok _), fun a ha => ?_⟩
        obtain ⟨⟨r, s₁, log₁⟩, h₁, ha⟩ := bind_eq_ok.mp ha
        cases ha
        exact hr r s₁ log₁ h₁
  rw [pollStep_due hs h0 hn hdue]
  refine ⟨bind_clean hclean (fun a ha => ?_), fun id s' w' h => ?_⟩
  · obtain ⟨hfa, hta⟩ := hcall a ha
    exact bind_clean (afterExecute_tracks hfa hta).1 (fun _ _ => clean_ok _)
  · obtain ⟨a, ha, h⟩ := bind_eq_ok.mp h
    obtain ⟨s₁, h₁, h⟩ := bind_eq_ok.mp h
    obtain ⟨hfa, hta⟩ := hcall a ha
    cases h
    exact (afterExecute_tracks hfa hta).2 s' h₁

theorem timerPoll_tracks (hs : Inv s) (hsafe : PollSafe now b s w) (fuel : Nat) :
    Result.Clean (s.timerPoll fuel now (scripted b) (w, [])) ∧ ∀ fired s' w',
      s.timerPoll fuel now (scripted b) (w, []) = .ok (some (fired, s', w')) →
        Inv s' ∧ Tracks (timers s) fired w'.2 s' := by
  let P : List Int → HeapTimer κ δ → σ × List (Event κ δ) → Prop := fun fired s' w' =>
    PollReach now (scripted b) s (w, []) fired s' w' ∧ Inv s' ∧ Tracks (timers s) fired w'.2 s'
  have hstep : ∀ fired s₁ w₁ id s₂ w₂, P fired s₁ w₁ →
      pollStep now (scripted b) s₁ w₁ = .ok (some (id, s₂, w₂)) → P (fired ++ [id]) s₂ w₂ := by
    rintro fired s₁ ⟨w₁, log₁⟩ id s₂ w₂ ⟨hreach, hs₁, ht⟩ h
    exact ⟨hreach.pass h, (pollStep_tracks hs₁ (hsafe _ _ _ _ hreach) ht).2 id s₂ w₂ h⟩
  have hclean : ∀ fired s₁ w₁, P fired s₁ w₁ → Result.Clean (pollStep now (scripted b) s₁ w₁) := by
    rintro fired s₁ ⟨w₁, log₁⟩ ⟨hreach, hs₁, ht⟩
    exact (pollStep_tracks hs₁ (hsafe _ _ _ _ hreach) ht).1
  have hstart : P [] s (w, []) := ⟨.start, hs, fun _ _ => rfl⟩
  unfold timerPoll
  split
  · exact ⟨clean_ok _, fun fired s' w' h => by cases h; exact hstart.2⟩
  · exact ⟨pollLoop_clean hstep hclean fuel [] hstart,
      fun fired s' w' h => (pollLoop_induct hstep fuel [] hstart h).2⟩

theorem timerPoll_correct (hs : Inv s) (hsafe : PollSafe now b s w) : PollCorrect now b w s := by
  intro fuel
  obtain ⟨hclean, hend⟩ := timerPoll_tracks hs hsafe fuel
  refine ⟨hclean, fun fired s' w' log h => ?_⟩
  obtain ⟨hs', ht⟩ := hend fired s' (w', log) h
  exact ⟨hs'.represented, fun id t hid hlook => (ht id hid).trans hlook⟩

theorem afterExecute_dropped {s' : HeapTimer κ δ} (hd : Dropped s s' (s.heap 0)) (ret : Int) :
    s'.afterExecute now (s.heap 0) ret = .error .badPointer ∨
      s'.afterExecute now (s.heap 0) ret = .error .doubleFree := by
  have hgone : s'.nodes (s.heap 0) = none := by rw [hd.nodes, Function.update_self]
  unfold afterExecute
  by_cases hret : ret = 0
  · left
    simp only [hret, if_true, deref, hgone, error_bind]
  right
  simp only [hret, if_false]
  rcases Nat.eq_zero_or_pos s'.curSize with hempty | hpos
  · simp only [removeNode, hempty, if_true, ok_bind, delete, hgone]
  · -- another node is at the root now: it is removed, and the deleted one deleted again
    obtain ⟨q, hq, -⟩ := hd.inv.cell hpos
    have hne : s.heap 0 ≠ s'.heap 0 := by
      intro e
      rw [← e, hgone] at hq
      cases hq
    have hrem := removeNode_delete hd.inv hpos hq
    obtain ⟨s₁, h₁, h₂⟩ := bind_eq_ok.mp hrem
    have hgone₁ : s₁.nodes (s.heap 0) = none := by
      have hnodes : (Function.update s₁.nodes (s'.heap 0) none) =
          Function.update s'.nodes (s'.heap 0) none := by
        unfold delete at h₂
        split at h₂
        · exact congrArg HeapTimer.nodes (Except.ok.inj h₂)
        · cases h₂
      have := congrFun hnodes (s.heap 0)
      rwa [Function.update_of_ne hne, Function.update_of_ne hne, hgone] at this
    simp only [h₁, ok_bind, delete, hgone₁]

/-- **A callback that unregisters its own timer.**  The node is deleted before the pass
ends. -/
theorem pollStep_dropped {execute : Execute κ δ σ} {cb : κ} {ret : Int} {s' : HeapTimer κ δ}
    {w w' : σ} (hs : Inv s) (h0 : 0 < s.curSize) (hn : s.nodes (s.heap 0) = some n)
    (hdue : n.expireTime ≤ now) (hcb : n.cbObj = some cb)
    (hcall : execute cb n.timerId n.data s w = .ok (ret, s', w'))
    (hd : Dropped s s' (s.heap 0)) :
    pollStep now execute s w = .error .badPointer ∨ pollStep now execute s w = .error .doubleFree := by
  have hcall' : callBack execute n s w = .ok (ret, s', w') := by
    simp only [callBack, hcb, hcall]
  rw [pollStep_due hs h0 hn hdue, hcall']
  simp only [ok_bind]
  have hend : s'.afterExecute now (s.heap 0) ret = .error .badPointer ∨
      s'.afterExecute now (s.heap 0) ret = .error .doubleFree := afterExecute_dropped hd ret
  rcases hend with h | h <;> rw [h]
  · exact Or.inl rfl
  · exact Or.inr rfl

theorem pollStep_self_unregister {cb : κ} {ret : Int} {w' : σ} (hs : Inv s) (h0 : 0 < s.curSize)
    (hn : s.nodes (s.heap 0) = some n) (hdue : n.expireTime ≤ now) (hcb : n.cbObj = some cb)
    (hb : b cb n.timerId n.data w = .unregister n.timerId (.done (ret, w'))) :
    pollStep now (scripted b) s (w, log) = .error .badPointer ∨
      pollStep now (scripted b) s (w, log) = .error .doubleFree := by
  obtain ⟨s', hs', hd⟩ := unregisterTimer_hit hs hn ⟨rfl, rfl⟩
  have hcall : scripted b cb n.timerId n.data s (w, log) =
      .ok (ret, s', (w', log ++ [.unregistered n.timerId])) := by
    simp only [scripted, hb, runScript, hs', ok_bind]
  exact pollStep_dropped hs h0 hn hdue hcb hcall hd

end

/-! ## Runs -/

/-- The states a run reaches when all of its calls meet the condition: the callbacks of
its polls are safe, and no id has the slot `heap_size_`. -/
inductive Session (heapSize : Nat) (start : Int) : HeapTimer κ δ → Prop
  | init : heapSize + 1 < capLimit → Session heapSize start (init heapSize start)
  | register {s s' : HeapTimer κ δ} {timerId : Int} (now : Int) (interval delay : TimeValue)
      (cbObj : Option κ) (data : δ) : Session heapSize start s →
      s.registerTimer now interval delay cbObj data = .ok (timerId, s') →
      s'.heapSize < capLimit → Session heapSize start s'
  | unregister {s s' : HeapTimer κ δ} {timerId : Int} : Session heapSize start s →
      slotOf timerId ≠ s.heapSize → s.unregisterTimer timerId = .ok s' →
      Session heapSize start s'
  | poll {s s' : HeapTimer κ δ} {σ : Type} {b : Behaviour κ δ σ} {w : σ} {fired : List Int}
      {w' : σ × List (Event κ δ)} (fuel : Nat) (now : TimeValue) : Session heapSize start s →
      PollSafe now b s w →
      s.timerPoll fuel now (scripted b) (w, []) = .ok (some (fired, s', w')) →
      s'.heapSize < capLimit → Session heapSize start s'

theorem Session.inv {heapSize : Nat} {start : Int} {s : HeapTimer κ δ} (hsize : 1 ≤ heapSize)
    (hs : Session heapSize start s) : Inv s ∧ s.heapSize < capLimit := by
  induction hs with
  | init hcap => exact ⟨init_inv hsize start, hcap⟩
  | register now interval delay cbObj data _ h hcap ih =>
      exact ⟨(registerTimer_known ih.1 ih.2 h).1, hcap⟩
  | @unregister s s' timerId _ hslot h ih =>
      by_cases hno : ∃ p n, s.nodes p = some n ∧ Names timerId n
      · obtain ⟨p, n, hn, hnames⟩ := hno
        obtain ⟨s₁, h₁, hd⟩ := unregisterTimer_hit ih.1 hn hnames
        rw [h] at h₁; cases h₁
        exact ⟨hd.inv, hd.heapSize ▸ ih.2⟩
      · rw [unregisterTimer_miss ih.1 hslot (fun p n hn hnames => hno ⟨p, n, hn, hnames⟩)] at h
        cases h
        exact ih
  | poll fuel now _ hsafe h hcap ih => exact ⟨((timerPoll_tracks ih.1 hsafe fuel).2 _ _ _ h).1, hcap⟩

/-- **Polling with callbacks that use the timer.**  In every run whose calls all meet the
condition, the invariant holds in every state reached, and every poll is correct. -/
theorem timerPoll_session {heapSize : Nat} {start : Int} {s : HeapTimer κ δ}
    (hsize : 1 ≤ heapSize) (hs : Session heapSize start s) :
    Represented s ∧ ∀ (σ : Type) (now : TimeValue) (b : Behaviour κ δ σ) (w : σ),
      PollSafe now b s w → PollCorrect now b w s :=
  ⟨(hs.inv hsize).1.represented, fun _ _ _ _ hsafe => timerPoll_correct (hs.inv hsize).1 hsafe⟩

/-- `LuaEngine::OnTimer`: `CloseTask` unregisters the timer that is firing. -/
def closeTask : Behaviour Unit Unit Unit :=
  fun _ timerId _ _ => .unregister timerId (.done (-1, ()))

/-- A heap with one timer, registered in second 7 and due in second 8. -/
def oneTimer : HeapTimer Unit Unit :=
  match (init 1 7).registerTimer 7 ⟨1, 0⟩ ⟨1, 0⟩ (some ()) () with
  | .ok (_, s) => s
  | .error _ => init 1 7

theorem oneTimer_session : Session 1 7 oneTimer :=
  .register 7 ⟨1, 0⟩ ⟨1, 0⟩ (some ()) () (.init (by decide)) rfl (by decide)

/-- `CloseTask` from `OnTimer` deletes the node twice. -/
theorem timerPoll_closeTask : Session 1 7 oneTimer ∧
    oneTimer.timerPoll 5 ⟨9, 0⟩ (scripted closeTask) ((), []) = .error .doubleFree ∧
    ¬ PollCorrect ⟨9, 0⟩ closeTask () oneTimer := by
  have hfault : oneTimer.timerPoll 5 ⟨9, 0⟩ (scripted closeTask) ((), []) =
      .error .doubleFree := rfl
  refine ⟨oneTimer_session, hfault, fun hc => ?_⟩
  cases (hc 5).1 _ hfault

/-- A callback that registers another timer and stops its own. -/
def rearmLater : Behaviour Unit Unit Unit :=
  fun _ _ _ _ => .register 9 ⟨1, 0⟩ ⟨3, 0⟩ none () (fun _ => .done (-1, ()))

/-- Polling the same heap with that callback is correct. -/
theorem timerPoll_rearmLater : PollCorrect ⟨9, 0⟩ rearmLater () oneTimer := by
  refine (timerPoll_session (by decide) oneTimer_session).2 Unit ⟨9, 0⟩ rearmLater () ?_
  -- the poll fires the one timer and finds the other not due
  have hsize : ∀ fired s' w',
      PollReach ⟨9, 0⟩ (scripted rearmLater) oneTimer ((), []) fired s' w' →
      s'.heapSize = 4 ∧ (s' = oneTimer ∧ w' = ((), []) ∨
        pollStep ⟨9, 0⟩ (scripted rearmLater) s' w' = .ok none) := by
    intro fired s' w' hreach
    induction hreach with
    | start => exact ⟨rfl, Or.inl ⟨rfl, rfl⟩⟩
    | pass _ h ih =>
        rcases ih.2 with ⟨rfl, rfl⟩ | hidle
        · cases h
          exact ⟨rfl, Or.inr rfl⟩
        · rw [hidle] at h
          cases h
  intro fired s' w' log hreach n cb _ _ hdue _
  refine ⟨fun _ => ⟨?_, hdue.trans (TimeValue.le_iff.mpr (Or.inl (by decide)))⟩,
    fun _ _ _ => trivial⟩
  rw [(hsize _ _ _ hreach).1]
  decide

end HeapTimer

end PlayFrame
