/-
# `PlayFrame.Frame.TimerClock` — the timers and the clock

`RegisterTimer` reads the clock in whole seconds, with `time(NULL)`; the polls of the modules read
it in microseconds, with `TimeValue::Time()`, and arm a timer again from what they have read.  So
the interval of a timer is kept, and the delay is not: a timer that is registered at the instant
`t` with the delay `d` is due at `⌊t⌋ + d`, which may be almost a second too early.

A `History` keeps the instants, for the statements; the code reads nothing of it but the clock.
A timer goes by its node, which no other timer ever has.
-/
import PlayFrame.Frame.TimerNodes
import PlayFrame.Frame.TimerPoll
import Mathlib.Data.List.Chain

namespace PlayFrame

/-! ## The clock -/

/-- `time(NULL)`, at an instant in microseconds. -/
def time (clock : Int) : Int := clock / oneSecondInUsecs

namespace TimeValue

/-- `TimeValue::Time()`, at an instant in microseconds. -/
def time (clock : Int) : TimeValue := ⟨clock / oneSecondInUsecs, clock % oneSecondInUsecs⟩

theorem time_canonical (clock : Int) : Canonical (time clock) := by
  unfold time
  constructor
  · simp only [oneSecondInUsecs]
    omega
  · simp only [oneSecondInUsecs]
    omega

theorem time_total (clock : Int) : (time clock).total = clock := by
  simp only [time, total, oneSecondInUsecs]
  omega

theorem Canonical.le_iff_total {a b : TimeValue} (ha : Canonical a) (hb : Canonical b) :
    a ≤ b ↔ a.total ≤ b.total := by
  rw [← not_lt, hb.lt_iff ha, not_lt]

end TimeValue

/-- A registration: its instant, and the delay and the interval, in microseconds. -/
structure Registration where
  instant : Int
  delay : Int
  interval : Int

namespace Registration

/-- The instant from which on the timer may be executed. -/
def due (r : Registration) : Int := r.instant + r.delay

/-- The instant from which on the code takes it to be due. -/
def truncatedDue (r : Registration) : Int := time r.instant * oneSecondInUsecs + r.delay

end Registration

/-- **What has happened**: the clock, the registration of every node, and the instants of the polls
that have executed its callback, in order. -/
structure History where
  clock : Int
  registered : Ptr → Option Registration
  executions : Ptr → List Int

namespace History

def init (clock : Int) : History := ⟨clock, fun _ => none, fun _ => []⟩

/-- The clock goes on. -/
def wait (g : History) (usecs : Nat) : History := { g with clock := g.clock + usecs }

def register (g : History) (p : Ptr) (interval delay : TimeValue) : History :=
  { g with
    registered := Function.update g.registered p
      (some { instant := g.clock, delay := delay.total, interval := interval.total }) }

def execute (g : History) (p : Ptr) (now : Int) : History :=
  { g with executions := Function.update g.executions p (g.executions p ++ [now]) }

/-- No callback has been executed before the bound of its registration. -/
def After (bound : Registration → Int) (g : History) : Prop :=
  ∀ p r, g.registered p = some r → ∀ now ∈ g.executions p, bound r ≤ now

/-- **No callback has been executed early.** -/
def NotEarly (g : History) : Prop := g.After Registration.due

/-- **Two executions of a timer, one after the other, are an interval apart.** -/
def Apart (g : History) : Prop :=
  ∀ p r, g.registered p = some r →
    (g.executions p).IsChain (fun now now' => now + r.interval ≤ now')

/-- The instant at which the code executes the timer next. -/
def next (g : History) (p : Ptr) (r : Registration) : Int :=
  match (g.executions p).getLast? with
  | none => r.truncatedDue
  | some now => now + r.interval

/-- A callback is executed, not before the others of its timer; the first time not before the
bound. -/
theorem After.execute {g : History} {bound : Registration → Int} {p : Ptr} {now : Int}
    (h : g.After bound) (hpast : ∀ u ∈ g.executions p, u ≤ now)
    (hfirst : ∀ r, g.registered p = some r → g.executions p = [] → bound r ≤ now) :
    (g.execute p now).After bound := by
  intro q r hr u hu
  by_cases hqp : q = p
  · subst hqp
    rw [show (g.execute q now).executions q = _ from Function.update_self .., List.mem_append,
      List.mem_singleton] at hu
    rcases hu with hu | rfl
    · exact h q r hr u hu
    · cases hold : g.executions q with
      | nil => exact hfirst r hr hold
      | cons v l =>
          have hv : v ∈ g.executions q := by
            rw [hold]
            exact List.mem_cons_self
          exact (h q r hr v hv).trans (hpast v hv)
  · rw [show (g.execute p now).executions q = _ from Function.update_of_ne hqp ..] at hu
    exact h q r hr u hu

end History

/-! ## Calls -/

/-- The calls to the timer, by a callback or between the polls, at instants of the clock; and what
is returned. -/
inductive TimedScript (κ δ ρ : Type) where
  | done (r : ρ)
  | wait (usecs : Nat) (next : TimedScript κ δ ρ)
  | register (interval delay : TimeValue) (cbObj : Option κ) (data : δ)
      (next : Int → TimedScript κ δ ρ)
  | unregister (timerId : Int) (next : TimedScript κ δ ρ)

/-- What the callbacks do. -/
abbrev TimedBehaviour (κ δ σ : Type) : Type := κ → Int → δ → σ → TimedScript κ δ (Int × σ)

namespace HeapTimer

variable {κ δ ρ σ : Type}

/-- The calls of a script. -/
def runTimed : TimedScript κ δ ρ → HeapTimer κ δ → History →
    Result (ρ × HeapTimer κ δ × History)
  | .done r, s, g => .ok (r, s, g)
  | .wait usecs next, s, g => runTimed next s (g.wait usecs)
  | .register interval delay cbObj data next, s, g => do
      let (timerId, s') ← s.registerTimer (time g.clock) interval delay cbObj data
      -- a registration that is refused makes no node
      let g := if s'.fresh = s.fresh then g else g.register s.fresh interval delay
      runTimed (next timerId) s' g
  | .unregister timerId next, s, g => do
      let s ← s.unregisterTimer timerId
      runTimed next s g

/-- The callbacks of a poll at the instant `now`; the one that is called is that of the root. -/
def timed (now : Int) (b : TimedBehaviour κ δ σ) : Execute κ δ (σ × History) :=
  fun cb timerId data s w => do
    let ((ret, w'), s', g) ← runTimed (b cb timerId data w.1) s (w.2.execute (s.heap 0) now)
    .ok (ret, s', (w', g))

/-- The poll is not between the two instants from which on the timer at the root is due, if this
timer has a callback, which has not been executed yet. -/
def StepTimely (now : Int) (s : HeapTimer κ δ) (g : History) : Prop :=
  ∀ n r, 0 < s.curSize → s.nodes (s.heap 0) = some n → n.cbObj ≠ none →
    g.registered (s.heap 0) = some r → g.executions (s.heap 0) = [] →
    r.truncatedDue ≤ now → r.due ≤ now

/-- **Every pass of the poll is timely.** -/
def PollTimely (now : Int) (b : TimedBehaviour κ δ σ) (s : HeapTimer κ δ) (w : σ)
    (g : History) : Prop :=
  ∀ fired s' w' g', PollReach (TimeValue.time now) (timed now b) s (w, g) fired s' (w', g') →
    StepTimely now s' g'

/-- **The states of a run**: any calls, and polls with any callbacks, on one clock that does not
go back.  If `timely`, then every poll is. -/
inductive ClockRun (timely : Prop) (heapSize : Nat) (start : Int) :
    HeapTimer κ δ → History → Prop
  | init : ClockRun timely heapSize start (init heapSize (time start)) (.init start)
  | call {ρ : Type} {s s' : HeapTimer κ δ} {g g' : History} {r : ρ}
      (script : TimedScript κ δ ρ) : ClockRun timely heapSize start s g →
      runTimed script s g = .ok (r, s', g') → ClockRun timely heapSize start s' g'
  | poll {σ : Type} {s s' : HeapTimer κ δ} {g g' : History} {w w' : σ} {fired : List Int}
      (b : TimedBehaviour κ δ σ) (fuel : Nat) : ClockRun timely heapSize start s g →
      (timely → PollTimely g.clock b s w g) →
      s.timerPoll fuel (TimeValue.time g.clock) (timed g.clock b) (w, g) =
        .ok (some (fired, s', (w', g'))) →
      ClockRun timely heapSize start s' g'

/-! ## What the expire times say -/

/-- **The expire time of a node is the instant at which it is executed next**, but for the node
`firing`, whose callback is running.  The last poll was at the instant `now`. -/
structure Timed (now : Int) (firing : Option Ptr) (s : HeapTimer κ δ) (g : History) : Prop where
  clock : now ≤ g.clock
  executed : ∀ p, ∀ u ∈ g.executions p, u ≤ now
  fresh : ∀ p, s.fresh ≤ p → s.nodes p = none ∧ g.executions p = []
  node : ∀ p n, s.nodes p = some n → ∃ r, g.registered p = some r ∧
    n.intervalTime.total = r.interval ∧ n.expireTime.Canonical ∧
    (firing ≠ some p → n.cbObj ≠ none → n.expireTime.total = g.next p r)
  apart : g.Apart

section
variable {now : Int} {firing : Option Ptr} {s s' : HeapTimer κ δ} {g g' : History} {p : Ptr}
  {n : TimerNode κ δ} {bound : Registration → Int}

theorem Timed.lt_fresh (h : Timed now firing s g) (hn : s.nodes p = some n) : p < s.fresh := by
  by_contra hp
  have := (h.fresh p (Nat.not_lt.mp hp)).1
  rw [hn] at this
  cases this

theorem Timed.wait (h : Timed now firing s g) (usecs : Nat) :
    Timed now firing s (g.wait usecs) where
  clock := h.clock.trans (Int.le_add_of_nonneg_right (Int.natCast_nonneg usecs))
  executed := h.executed
  fresh := h.fresh
  node := h.node
  apart := h.apart

theorem Timed.same (h : Timed now firing s g) (hs : SameTimes s s') : Timed now firing s' g where
  clock := h.clock
  executed := h.executed
  fresh := by
    intro p hp
    obtain ⟨hnone, hexec⟩ := h.fresh p (hs.fresh ▸ hp)
    refine ⟨?_, hexec⟩
    by_contra hsome
    obtain ⟨n', hn'⟩ := Option.ne_none_iff_exists'.mp hsome
    obtain ⟨n, hn, -⟩ := hs.node p n' hn'
    rw [hnone] at hn
    cases hn
  node := by
    intro p n' hn'
    obtain ⟨n, hn, hexp, hint, hcb⟩ := hs.node p n' hn'
    rw [hexp, hint, hcb]
    exact h.node p n hn
  apart := h.apart

theorem Timed.register (h : Timed now firing s g) {interval delay : TimeValue} {cbObj : Option κ}
    (hadd : NodeAdded (time g.clock) interval delay cbObj s s') :
    Timed now firing s' (g.register s.fresh interval delay) := by
  obtain ⟨n, hnodes, hexp, hint, -⟩ := hadd.node
  obtain ⟨hnone, hexec⟩ := h.fresh s.fresh le_rfl
  obtain ⟨hcan, htotal⟩ := TimeValue.set_ok hexp
  refine ⟨h.clock, h.executed, fun p hp => ?_, fun p m hm => ?_, fun p r hr => ?_⟩
  · have hlt : s.fresh < p := hadd.lt_fresh.trans_le hp
    rw [hnodes, Function.update_of_ne hlt.ne']
    exact h.fresh p hlt.le
  · rw [hnodes] at hm
    by_cases hp : p = s.fresh
    · subst hp
      rw [Function.update_self] at hm
      cases hm
      refine ⟨_, Function.update_self .., by rw [hint], hcan, fun _ _ => ?_⟩
      have hlast : (g.executions s.fresh).getLast? = none := by rw [hexec]; rfl
      rw [htotal]
      simp only [History.next, History.register, hlast, Registration.truncatedDue,
        TimeValue.total, oneSecondInUsecs]
      omega
    · rw [Function.update_of_ne hp] at hm
      obtain ⟨r, hr, hrest⟩ := h.node p m hm
      exact ⟨r, (Function.update_of_ne hp ..).trans hr, hrest⟩
  · by_cases hp : p = s.fresh
    · subst hp
      show (g.executions s.fresh).IsChain _
      rw [hexec]
      exact .nil
    · exact h.apart p r ((Function.update_of_ne hp ..).symm.trans hr)

theorem Timed.after_register (h : Timed now firing s g) (hg : g.After bound)
    (interval delay : TimeValue) : (g.register s.fresh interval delay).After bound := by
  intro p r hr u hu
  by_cases hp : p = s.fresh
  · subst hp
    have hnone : g.executions s.fresh = [] := (h.fresh s.fresh le_rfl).2
    rw [show (g.register s.fresh interval delay).executions s.fresh = [] from hnone] at hu
    cases hu
  · exact hg p r ((Function.update_of_ne hp ..).symm.trans hr) u hu

/-- What the calls of a script leave of the history: it knows the same of the nodes that there
were. -/
structure Called (s : HeapTimer κ δ) (g : History) (s' : HeapTimer κ δ) (g' : History) :
    Prop where
  executions : g'.executions = g.executions
  registered : ∀ p < s.fresh, g'.registered p = g.registered p
  fresh : s.fresh ≤ s'.fresh

theorem runTimed_spec : ∀ (script : TimedScript κ δ ρ) {s s' : HeapTimer κ δ} {g g' : History}
    {r : ρ}, Timed now firing s g → runTimed script s g = .ok (r, s', g') →
    Timed now firing s' g' ∧ Called s g s' g' ∧
      ∀ bound : Registration → Int, g.After bound → g'.After bound := by
  intro script
  induction script with
  | done r =>
      intro s s' g g' r h hrun
      cases hrun
      exact ⟨h, ⟨rfl, fun _ _ => rfl, le_rfl⟩, fun _ hg => hg⟩
  | wait usecs next ih =>
      intro s s' g g' r h hrun
      obtain ⟨ht, hc, hafter⟩ := ih (h.wait usecs) hrun
      exact ⟨ht, ⟨hc.executions, hc.registered, hc.fresh⟩, hafter⟩
  | register interval delay cbObj data next ih =>
      intro s s' g g' r h hrun
      obtain ⟨⟨timerId, s₁⟩, hreg, hrun⟩ := bind_eq_ok.mp hrun
      dsimp only at hrun
      rcases registerTimer_nodes hreg with ⟨-, rfl⟩ | hadd
      · rw [if_pos rfl] at hrun
        exact ih timerId h hrun
      · have hlt := hadd.lt_fresh
        rw [if_neg hlt.ne'] at hrun
        obtain ⟨ht, hc, hafter⟩ := ih timerId (h.register hadd) hrun
        refine ⟨ht, ⟨hc.executions, fun p hp => ?_, hlt.le.trans hc.fresh⟩,
          fun bound hg => hafter bound (h.after_register hg interval delay)⟩
        rw [hc.registered p (hp.trans hlt)]
        exact Function.update_of_ne hp.ne ..
  | unregister timerId next ih =>
      intro s s' g g' r h hrun
      obtain ⟨s₁, hun, hrun⟩ := bind_eq_ok.mp hrun
      have hsame := unregisterTimer_times hun
      obtain ⟨ht, hc, hafter⟩ := ih (h.same hsame) hrun
      exact ⟨ht, ⟨hc.executions, fun p hp => hc.registered p (hsame.fresh ▸ hp),
        hsame.fresh ▸ hc.fresh⟩, hafter⟩

/-! ## A pass -/

theorem Timed.execute (h : Timed now none s g) (hn : s.nodes p = some n) (hcb : n.cbObj ≠ none)
    (hdue : n.expireTime ≤ TimeValue.time now) : Timed now (some p) s (g.execute p now) := by
  have hp : p < s.fresh := h.lt_fresh hn
  have hother : ∀ q, q ≠ p → (g.execute p now).executions q = g.executions q :=
    fun q hq => Function.update_of_ne hq ..
  have hself : (g.execute p now).executions p = g.executions p ++ [now] :=
    Function.update_self ..
  refine ⟨h.clock, fun q u hu => ?_, fun q hq => ?_, fun q m hm => ?_, fun q r hr => ?_⟩
  · by_cases hqp : q = p
    · subst hqp
      rw [hself, List.mem_append, List.mem_singleton] at hu
      rcases hu with hu | rfl
      · exact h.executed q u hu
      · exact le_rfl
    · rw [hother q hqp] at hu
      exact h.executed q u hu
  · rw [hother q (hp.trans_le hq).ne']
    exact h.fresh q hq
  · obtain ⟨r, hr, hint, hcan, hnext⟩ := h.node q m hm
    refine ⟨r, hr, hint, hcan, fun hne hm => ?_⟩
    rw [History.next, hother q fun hqp => hne (congrArg some hqp.symm)]
    exact hnext nofun hm
  · by_cases hqp : q = p
    · subst hqp
      obtain ⟨r', hr', -, hcan, hnext⟩ := h.node q n hn
      obtain rfl : r' = r := Option.some_inj.mp (hr'.symm.trans hr)
      rw [hself]
      refine (h.apart q r' hr).append (.singleton now) (fun u hu v hv => ?_)
      obtain rfl : now = v := Option.some_inj.mp hv
      -- the node has been due since an interval after its last execution
      have hlast : g.next q r' = u + r'.interval := by
        rw [History.next, Option.mem_def.mp hu]
      rw [hcan.le_iff_total (TimeValue.time_canonical now), TimeValue.time_total,
        hnext nofun hcb, hlast] at hdue
      exact hdue
    · rw [hother q hqp]
      exact h.apart q r hr

/-- **The end of a pass**: the node that has been executed is gone, or it is executed next an
interval later. -/
theorem Timed.endsPass (h : Timed now (some p) s g)
    (hlast : ∀ n, s.nodes p = some n → n.cbObj ≠ none → (g.executions p).getLast? = some now)
    (hend : EndsPass (TimeValue.time now) p s s') : Timed now none s' g := by
  rcases hend with ⟨hsame, hgone⟩ | ⟨n, expire, hn, hexp, hnodes, hfresh⟩
  · have h' := h.same hsame
    refine ⟨h'.clock, h'.executed, h'.fresh, fun q m hm => ?_, h'.apart⟩
    obtain ⟨r, hr, hint, hcan, hnext⟩ := h'.node q m hm
    refine ⟨r, hr, hint, hcan, fun _ => hnext fun hqp => ?_⟩
    rw [← Option.some_inj.mp hqp, hgone] at hm
    cases hm
  · refine ⟨h.clock, h.executed, fun q hq => ?_, fun q m hm => ?_, h.apart⟩
    · rw [hfresh] at hq
      rw [hnodes, Function.update_of_ne ((h.lt_fresh hn).trans_le hq).ne']
      exact h.fresh q hq
    · rw [hnodes] at hm
      by_cases hqp : q = p
      · subst hqp
        rw [Function.update_self] at hm
        cases hm
        obtain ⟨r, hr, hint, -, -⟩ := h.node q n hn
        obtain ⟨hcan, htotal⟩ := TimeValue.set_ok hexp
        refine ⟨r, hr, hint, hcan, fun _ hcb => ?_⟩
        have hnow : (TimeValue.time now).total = now := TimeValue.time_total now
        rw [History.next, hlast n hn hcb]
        dsimp only
        rw [htotal, ← hint]
        simp only [TimeValue.total, oneSecondInUsecs] at hnow ⊢
        omega
      · rw [Function.update_of_ne hqp] at hm
        obtain ⟨r, hr, hint, hcan, hnext⟩ := h.node q m hm
        exact ⟨r, hr, hint, hcan, fun _ => hnext fun hpq => hqp (Option.some_inj.mp hpq).symm⟩

theorem Timed.fired (h : Timed now none s g) (p : Ptr) : Timed now (some p) s g where
  clock := h.clock
  executed := h.executed
  fresh := h.fresh
  node := by
    intro q n hn
    obtain ⟨r, hr, hint, hcan, hnext⟩ := h.node q n hn
    exact ⟨r, hr, hint, hcan, fun _ => hnext nofun⟩
  apart := h.apart

/-- The history goes on. -/
structure GoesOn (s : HeapTimer κ δ) (g : History) (s' : HeapTimer κ δ) (g' : History) : Prop where
  executions : ∀ p, ∀ u ∈ g.executions p, u ∈ g'.executions p
  registered : ∀ p < s.fresh, g'.registered p = g.registered p
  fresh : s.fresh ≤ s'.fresh

theorem GoesOn.refl : GoesOn s g s g := ⟨fun _ _ hu => hu, fun _ _ => rfl, le_rfl⟩

theorem GoesOn.trans {s'' : HeapTimer κ δ} {g'' : History} (h : GoesOn s g s' g')
    (h' : GoesOn s' g' s'' g'') : GoesOn s g s'' g'' where
  executions := fun p u hu => h'.executions p u (h.executions p u hu)
  registered := fun p hp =>
    (h'.registered p (hp.trans_le h.fresh)).trans (h.registered p hp)
  fresh := h.fresh.trans h'.fresh

/-- What a pass does: the timer at the root is executed, unless it has no callback, and nothing
else is. -/
structure Passed (now : Int) (s : HeapTimer κ δ) (g : History) (s' : HeapTimer κ δ)
    (g' : History) : Prop where
  timed : Timed now none s' g'
  goesOn : GoesOn s g s' g'
  executed : ∀ n, s.nodes (s.heap 0) = some n → n.cbObj ≠ none → now ∈ g'.executions (s.heap 0)
  after : ∀ bound : Registration → Int, g.After bound →
    (∀ n r, 0 < s.curSize → s.nodes (s.heap 0) = some n → n.cbObj ≠ none →
      g.registered (s.heap 0) = some r → g.executions (s.heap 0) = [] →
      r.truncatedDue ≤ now → bound r ≤ now) → g'.After bound

theorem Timed.root (h : Timed now none s g) (hn : s.nodes p = some n) (hcb : n.cbObj ≠ none) :
    ∃ r, g.registered p = some r ∧ (g.executions p = [] →
      (n.expireTime ≤ TimeValue.time now ↔ r.truncatedDue ≤ now)) := by
  obtain ⟨r, hr, -, hcan, hnext⟩ := h.node p n hn
  refine ⟨r, hr, fun hnone => ?_⟩
  rw [hcan.le_iff_total (TimeValue.time_canonical now), TimeValue.time_total, hnext nofun hcb,
    History.next, hnone]
  exact Iff.rfl

theorem pollStep_timed {b : TimedBehaviour κ δ σ} {w w' : σ} {timerId : Int}
    (h : Timed now none s g)
    (hstep : pollStep (TimeValue.time now) (timed now b) s (w, g) =
      .ok (some (timerId, s', (w', g')))) : Passed now s g s' g' := by
  obtain ⟨n, ret, s₁, hpos, hn, hdue, hcall, hend⟩ := pollStep_nodes hstep
  unfold callBack at hcall
  cases hcb : n.cbObj with
  | none =>
      rw [hcb] at hcall
      cases hcall
      have hnone : ∀ m, s.nodes (s.heap 0) = some m → ¬ m.cbObj ≠ none := by
        intro m hm hne
        rw [hn] at hm
        cases hm
        exact hne hcb
      exact ⟨(h.fired _).endsPass (fun m hm hne => absurd hne (hnone m hm)) hend,
        ⟨fun _ _ hu => hu, fun _ _ => rfl, hend.fresh.ge⟩,
        fun m hm hne => absurd hne (hnone m hm), fun _ hg _ => hg⟩
  | some cb =>
      rw [hcb] at hcall
      obtain ⟨⟨⟨ret', w₁⟩, s₂, g₁⟩, hrun, hcall⟩ := bind_eq_ok.mp hcall
      cases hcall
      have hne : n.cbObj ≠ none := by
        rw [hcb]
        exact nofun
      have hp := h.lt_fresh hn
      obtain ⟨ht, hcalled, hafter⟩ := runTimed_spec _ (h.execute hn hne hdue) hrun
      have hself : g'.executions (s.heap 0) = g.executions (s.heap 0) ++ [now] := by
        rw [hcalled.executions]
        exact Function.update_self ..
      refine ⟨ht.endsPass (fun _ _ _ => ?_) hend, ⟨fun q u hu => ?_, fun q hq => ?_, ?_⟩,
        fun _ _ _ => ?_, fun bound hg hfirst => hafter bound (hg.execute (h.executed _) ?_)⟩
      · rw [hself, List.getLast?_concat]
      · by_cases hqp : q = s.heap 0
        · subst hqp
          rw [hself]
          exact List.mem_append_left _ hu
        · rw [hcalled.executions]
          rw [show (g.execute _ now).executions q = _ from Function.update_of_ne hqp ..]
          exact hu
      · exact hcalled.registered q hq
      · rw [hend.fresh]
        exact hcalled.fresh
      · rw [hself]
        exact List.mem_append_right _ (List.mem_singleton_self now)
      · intro r hr hnone
        obtain ⟨r', hr', htrunc⟩ := h.root hn hne
        obtain rfl : r' = r := Option.some_inj.mp (hr'.symm.trans hr)
        exact hfirst n r' hpos hn hne hr hnone ((htrunc hnone).mp hdue)

end

/-! ## Polls -/

section
variable {now : Int} {s s' : HeapTimer κ δ} {g g' : History} {b : TimedBehaviour κ δ σ}
  {w w' : σ} {fired : List Int} {fuel : Nat}

/-- **The passes of a poll.**  No callback is executed before the code takes it to be due. -/
theorem PollReach.keeps {w' : σ × History}
    (hreach : PollReach (TimeValue.time now) (timed now b) s (w, g) fired s' w')
    (h : Timed now none s g) : Timed now none s' w'.2 ∧ GoesOn s g s' w'.2 ∧
      (g.After Registration.truncatedDue → w'.2.After Registration.truncatedDue) := by
  induction hreach with
  | start => exact ⟨h, .refl, id⟩
  | @pass fired s₁ s₂ w₁ w₂ id _ hstep ih =>
      obtain ⟨ht, hgrown, htrunc⟩ := ih
      have hp : Passed now s₁ w₁.2 s₂ w₂.2 := pollStep_timed ht hstep
      exact ⟨hp.timed, hgrown.trans hp.goesOn,
        fun hg => hp.after _ (htrunc hg) (fun _ _ _ _ _ _ _ hle => hle)⟩

theorem PollReach.notEarly {w' : σ × History}
    (hreach : PollReach (TimeValue.time now) (timed now b) s (w, g) fired s' w')
    (h : Timed now none s g) (htimely : PollTimely now b s w g) (hg : g.NotEarly) :
    w'.2.NotEarly := by
  induction hreach with
  | start => exact hg
  | @pass fired s₁ s₂ w₁ w₂ id hreach hstep ih =>
      have hp : Passed now s₁ w₁.2 s₂ w₂.2 := pollStep_timed (hreach.keeps h).1 hstep
      exact hp.after _ ih (htimely _ _ _ _ hreach)

section
variable {execute : Execute κ δ σ} {tv : TimeValue}

theorem pollLoop_reach (h : pollLoop tv execute fuel s w = .ok (some (fired, s', w'))) :
    PollReach tv execute s w fired s' w' :=
  pollLoop_induct (P := PollReach tv execute s w)
    (fun _ _ _ _ _ _ hreach hstep => hreach.pass hstep) fuel [] .start h

theorem pollLoop_of_reach {s₁ : HeapTimer κ δ} {w₁ : σ} {fired₁ : List Int}
    (hreach : PollReach tv execute s w fired₁ s₁ w₁)
    (h : pollLoop tv execute fuel s w = .ok (some (fired, s', w'))) :
    ∃ fuel₁ rest, pollLoop tv execute fuel₁ s₁ w₁ = .ok (some (rest, s', w')) := by
  induction hreach with
  | start => exact ⟨fuel, fired, h⟩
  | pass _ hstep ih =>
      obtain ⟨fuel₁, rest, hloop⟩ := ih
      cases fuel₁ with
      | zero => cases hloop
      | succ fuel₁ =>
          unfold pollLoop at hloop
          rw [hstep, ok_bind] at hloop
          obtain ⟨out, hout, hloop⟩ := bind_eq_ok.mp hloop
          cases out with
          | none => cases hloop
          | some a =>
              obtain ⟨rest₁, s₂, w₂⟩ := a
              cases hloop
              exact ⟨fuel₁, rest₁, hout⟩

theorem timerPoll_loop (h : s.timerPoll fuel tv execute w = .ok (some (fired, s', w'))) :
    ∃ fuel', pollLoop tv execute fuel' s w = .ok (some (fired, s', w')) := by
  unfold timerPoll at h
  split at h
  · next hzero =>
    have hidle : pollStep tv execute s w = .ok none := by
      unfold pollStep
      rw [if_neg (by omega)]
    refine ⟨1, ?_⟩
    unfold pollLoop
    rw [hidle, ok_bind]
    exact h
  · exact ⟨fuel, h⟩

end

theorem pollLoop_timely (h : Timed now none s g)
    (hloop : pollLoop (TimeValue.time now) (timed now b) fuel s (w, g) =
      .ok (some (fired, s', (w', g')))) (hg' : g'.NotEarly) : PollTimely now b s w g := by
  intro fired₁ s₁ w₁ g₁ hreach n r hpos hn hcb hr hnone htrunc
  obtain ⟨ht, -, -⟩ := hreach.keeps h
  obtain ⟨fuel₁, rest, hrest⟩ := pollLoop_of_reach hreach hloop
  cases fuel₁ with
  | zero => cases hrest
  | succ fuel₁ =>
      unfold pollLoop at hrest
      obtain ⟨out, hout, hrest⟩ := bind_eq_ok.mp hrest
      cases out with
      | none =>
          -- the timer is due, and the pass executes it
          obtain ⟨r', hr', hdue⟩ := ht.root hn hcb
          obtain rfl : r' = r := Option.some_inj.mp (hr'.symm.trans hr)
          exact absurd ((hdue hnone).mpr htrunc) (pollStep_none hout hpos hn)
      | some a =>
          obtain ⟨id, s₂, w₂, g₂⟩ := a
          have hp : Passed now s₁ g₁ s₂ g₂ := pollStep_timed ht hout
          obtain ⟨out', hout', hrest⟩ := bind_eq_ok.mp hrest
          cases out' with
          | none => cases hrest
          | some a' =>
              obtain ⟨rest₁, s₃, w₃⟩ := a'
              cases hrest
              obtain ⟨-, hgoes, -⟩ := (pollLoop_reach hout').keeps hp.timed
              have hroot := ht.lt_fresh hn
              refine hg' (s₁.heap 0) r ?_ now (hgoes.executions _ _ (hp.executed n hn hcb))
              rw [hgoes.registered _ (hroot.trans_le hp.goesOn.fresh),
                hp.goesOn.registered _ hroot]
              exact hr

/-- **A poll is early exactly if one of its passes is not timely.** -/
theorem timerPoll_notEarly_iff (h : Timed now none s g) (hg : g.NotEarly)
    (hpoll : s.timerPoll fuel (TimeValue.time now) (timed now b) (w, g) =
      .ok (some (fired, s', (w', g')))) : g'.NotEarly ↔ PollTimely now b s w g := by
  obtain ⟨fuel', hloop⟩ := timerPoll_loop hpoll
  have hreach := pollLoop_reach hloop
  exact ⟨pollLoop_timely h hloop, fun htimely => hreach.notEarly h htimely hg⟩

end

/-! ## Runs -/

section
variable {timely : Prop} {heapSize : Nat} {start : Int} {s : HeapTimer κ δ} {g : History}

theorem Timed.poll {now : Int} (h : Timed now none s g) : Timed g.clock none s g :=
  ⟨le_rfl, fun p u hu => (h.executed p u hu).trans h.clock, h.fresh, h.node, h.apart⟩

/-- **Every run** keeps what the expire times say, and executes no callback before the code takes
it to be due. -/
theorem ClockRun.keeps (h : ClockRun timely heapSize start s g) :
    (∃ now, Timed now none s g) ∧ g.After Registration.truncatedDue ∧ (timely → g.NotEarly) := by
  induction h with
  | init =>
      refine ⟨⟨start, le_rfl, fun _ _ hu => ?_, fun _ _ => ⟨rfl, rfl⟩, fun _ _ hn => ?_,
        fun _ _ _ => .nil⟩, fun _ _ _ _ hu => ?_, fun _ _ _ _ _ hu => ?_⟩
      · cases hu
      · cases hn
      · cases hu
      · cases hu
  | call script _ hrun ih =>
      obtain ⟨⟨now, ht⟩, htrunc, hearly⟩ := ih
      obtain ⟨ht', -, hafter⟩ := runTimed_spec script ht hrun
      exact ⟨⟨now, ht'⟩, hafter _ htrunc, fun h => hafter _ (hearly h)⟩
  | poll b fuel _ htimely hpoll ih =>
      obtain ⟨⟨now, ht⟩, htrunc, hearly⟩ := ih
      obtain ⟨fuel', hloop⟩ := timerPoll_loop hpoll
      obtain ⟨ht', -, htrunc'⟩ := (pollLoop_reach hloop).keeps ht.poll
      exact ⟨⟨_, ht'⟩, htrunc' htrunc,
        fun h => (timerPoll_notEarly_iff ht.poll (hearly h) hpoll).mpr (htimely h)⟩

/-- **When timers are on time.**  In every run the executions of a timer are an interval apart.
None is early if every poll is timely; and a poll of any run, which has been on time so
far, is early if it is not. -/
theorem clockRun_notEarly (h : ClockRun timely heapSize start s g) :
    g.Apart ∧ (timely → g.NotEarly) ∧
    ∀ (σ : Type) (b : TimedBehaviour κ δ σ) (w w' : σ) fuel fired s' g', g.NotEarly →
      s.timerPoll fuel (TimeValue.time g.clock) (timed g.clock b) (w, g) =
        .ok (some (fired, s', (w', g'))) →
      (g'.NotEarly ↔ PollTimely g.clock b s w g) := by
  obtain ⟨⟨now, ht⟩, -, hearly⟩ := h.keeps
  exact ⟨ht.apart, hearly, fun σ b w w' fuel fired s' g' hg hpoll =>
    timerPoll_notEarly_iff ht.poll hg hpoll⟩

end

/-! ### A timer of a second -/

/-- Registered 0.9 s after a whole second, and polled after some time. -/
def almostASecond (usecs : Nat) : TimedScript Unit Unit Unit :=
  .wait 900000 (.register ⟨1, 0⟩ ⟨1, 0⟩ (some ()) () fun _ => .wait usecs (.done ()))

/-- The callback that does nothing. -/
def keepsTimer : TimedBehaviour Unit Unit Unit := fun _ _ _ w => .done (0, w)

/-- It is on time if it is polled when the second is over. -/
theorem clockRun_notEarly_second : ∃ (s : HeapTimer Unit Unit) (g : History),
    ClockRun True 1 7000000 s g ∧ g.executions 1 = [8900000] ∧ g.Apart ∧ g.NotEarly := by
  obtain ⟨s₀, g₀, hcall, fired, s, g, hpoll, hexec, hreg⟩ :
      ∃ (s₀ : HeapTimer Unit Unit) (g₀ : History), ClockRun True 1 7000000 s₀ g₀ ∧
      ∃ fired s g, s₀.timerPoll 5 (TimeValue.time g₀.clock) (timed g₀.clock keepsTimer) ((), g₀) =
        .ok (some (fired, s, ((), g))) ∧
      g.executions = Function.update (fun _ => []) 1 [8900000] ∧
      g.registered 1 = some ⟨7900000, 1000000, 1000000⟩ :=
    ⟨_, _, .call (almostASecond 1000000) .init rfl, _, _, _, rfl, rfl, rfl⟩
  obtain ⟨⟨now, ht⟩, -, hearly⟩ := hcall.keeps
  have hg : g.NotEarly := by
    intro p r hr u hu
    rw [hexec] at hu
    by_cases hp : p = 1
    · subst hp
      rw [hreg] at hr
      cases hr
      obtain rfl : u = 8900000 := List.mem_singleton.mp hu
      decide
    · rw [Function.update_of_ne hp] at hu
      cases hu
  have hrun := hcall.poll keepsTimer 5
    (fun _ => (timerPoll_notEarly_iff ht.poll (hearly trivial) hpoll).mp hg) hpoll
  exact ⟨s, g, hrun, by rw [hexec]; rfl, (clockRun_notEarly hrun).1,
    (clockRun_notEarly hrun).2.1 trivial⟩

/-- **A timer fires early**: it is executed after a tenth of the second. -/
theorem clockRun_early : ∃ (s : HeapTimer Unit Unit) (g : History), ClockRun False 1 7000000 s g ∧
    g.registered 1 = some ⟨7900000, 1000000, 1000000⟩ ∧ g.executions 1 = [8000000] ∧
    ¬ g.NotEarly := by
  have hcall : ClockRun False 1 7000000 _ _ := .call (almostASecond 100000) .init rfl
  refine ⟨_, _, hcall.poll keepsTimer 5 (w := ()) nofun rfl, rfl, rfl, fun hg => ?_⟩
  exact absurd (hg 1 _ rfl 8000000 (List.mem_singleton_self _)) (by decide)

end HeapTimer

end PlayFrame
