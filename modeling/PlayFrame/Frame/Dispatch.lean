/-
# `PlayFrame.Frame.Dispatch` — `Epoller::Loop` and the handlers it calls

What `AddEvent` and `DelEvent` are for is a registry: the handler of each side of each fd,
with the client data that it was registered with.  `file_events_` has one `client_data_`
for both sides, and keeps the handlers of sides that are not in the mask.

`Loop` goes through what `epoll_wait` has reported and calls `read_proc_` for `EPOLLIN` and
`write_proc_` for each of the other flags; a handler may change the table for the calls
after it.  Each call is one of the registry (`run_respectful`), provided that

  * a flag is reported only for a side that is registered: `EPOLLERR` and `EPOLLHUP`, which
    may come for every fd, only for those with a write event;
  * a side is deleted only when no call of it is left;
  * an event that is added to a side brings the client data of the other side.

Nothing in `Epoller` sees to any of these (`run_disrespectful`).
-/
import PlayFrame.Frame.Epoller
import Mathlib.Logic.Relation

namespace PlayFrame

/-- A handler of an fd is for one of these. -/
inductive Side where
  | read
  | write
  deriving DecidableEq, Repr

/-- Whether the side is in the mask. -/
def EventMask.has (m : EventMask) : Side → Bool
  | .read => m.read
  | .write => m.write

/-- `read_proc_` or `write_proc_`. -/
def FileEvent.proc {φ δ : Type} (fe : FileEvent φ δ) : Side → Option φ
  | .read => fe.readProc
  | .write => fe.writeProc

/-- The flags of an `epoll_event`. -/
structure EpollFlags where
  epollin : Bool := false
  epollout : Bool := false
  epollerr : Bool := false
  epollhup : Bool := false

/-- A call that `Loop` makes. -/
abbrev ProcCall : Type := Int × Side

/-- The calls for one event, in order. -/
def EpollFlags.calls (e : EpollFlags) (fd : Int) : List ProcCall :=
  (if e.epollin then [(fd, .read)] else []) ++
  (if e.epollout then [(fd, .write)] else []) ++
  (if e.epollerr then [(fd, .write)] else []) ++
  (if e.epollhup then [(fd, .write)] else [])

/-- The calls for all of them. -/
def callsOf (events : List (Int × EpollFlags)) : List ProcCall :=
  events.flatMap fun e => e.2.calls e.1

namespace Epoller

variable {φ δ σ : Type}

/-- The calls of `Loop`, where `handle` is the code of the handlers.  The entry of the fd is
read for each call. -/
def dispatch (handle : φ → Int → δ → σ × Epoller φ δ → Result (σ × Epoller φ δ)) :
    List ProcCall → σ × Epoller φ δ → Result (σ × Epoller φ δ)
  | [], s => .ok s
  | (fd, side) :: calls, s => do
      let fe ← s.2.fileEvent fd
      match fe.proc side with
      | none => .error .badPointer
      | some proc => do
          let s ← handle proc fd fe.clientData s
          dispatch handle calls s

/-- `Epoller::Loop`, where `epoll_wait` has reported `events`. -/
def loop (handle : φ → Int → δ → σ × Epoller φ δ → Result (σ × Epoller φ δ))
    (events : List (Int × EpollFlags)) (s : σ × Epoller φ δ) : Result (σ × Epoller φ δ) :=
  dispatch handle (callsOf events) s

end Epoller

/-! ## What the calls are for -/

/-- The handler of a side of an fd, with its client data. -/
abbrev Registry (φ δ : Type) : Type := Int → Side → Option (φ × δ)

namespace Registry

variable {φ δ : Type}

/-- The handler is registered for the sides of the mask. -/
def add (reg : Registry φ δ) (fd : Int) (mask : EventMask) (proc : φ) (clientData : δ) :
    Registry φ δ :=
  fun g side => if g = fd ∧ mask.has side = true then some (proc, clientData) else reg g side

/-- The sides of the mask have no handler. -/
def del (reg : Registry φ δ) (fd : Int) (mask : EventMask) : Registry φ δ :=
  fun g side => if g = fd ∧ mask.has side = true then none else reg g side

end Registry

/-- An epoller, what it has been asked to register, and the calls that the current `Loop`
has still to make. -/
structure EventLoop (φ δ : Type) where
  epoller : Epoller φ δ
  registry : Registry φ δ
  pending : List ProcCall

namespace EventLoop

variable {φ δ : Type}

/-- What happens next. -/
inductive Event (φ δ : Type) where
  | add (fd : Int) (mask : EventMask) (proc : φ) (clientData : δ) (ctl : Bool)
  | del (fd : Int) (mask : EventMask)
  | clear (fd : Int)
  | wait (events : List (Int × EpollFlags))
  | call

/-- The steps.  What a handler does follows the step that calls it. -/
inductive Step (t : EventLoop φ δ) : Event φ δ → EventLoop φ δ → Prop
  | add {fd r : Int} {mask : EventMask} {proc : φ} {clientData : δ} {ctl : Bool}
      {ep : Epoller φ δ} : t.epoller.addEvent fd mask proc clientData ctl = .ok (r, ep) →
      Step t (.add fd mask proc clientData ctl)
        { t with
          epoller := ep
          registry := if r = 0 then t.registry.add fd mask proc clientData else t.registry }
  | del {fd : Int} {mask : EventMask} {ep : Epoller φ δ} :
      t.epoller.delEvent fd mask = .ok ep →
      Step t (.del fd mask) { t with epoller := ep, registry := t.registry.del fd mask }
  | clear {fd : Int} {ep : Epoller φ δ} : t.epoller.clearEvent fd = .ok ep →
      Step t (.clear fd) { t with epoller := ep, registry := t.registry.del fd .both }
  | wait {events : List (Int × EpollFlags)} : t.pending = [] →
      (∀ e ∈ events, ∃ fe, t.epoller.fileEvent e.1 = .ok fe ∧ fe.mask ≠ .none) →
      Step t (.wait events) { t with pending := callsOf events }
  | call {fd : Int} {side : Side} {rest : List ProcCall} {fe : FileEvent φ δ} {proc : φ} :
      t.pending = (fd, side) :: rest → t.epoller.fileEvent fd = .ok fe →
      fe.proc side = some proc → Step t .call { t with pending := rest }

/-- **A call is one of the registry**: its side is in the mask, the handler is not null, and
handler and client data are those that were registered together. -/
def Respects (t : EventLoop φ δ) (fd : Int) (side : Side) : Prop :=
  ∃ fe proc, t.epoller.fileEvent fd = .ok fe ∧ fe.mask.has side = true ∧
    fe.proc side = some proc ∧ t.registry fd side = some (proc, fe.clientData)

/-- The next call of `Loop`, if there is one, is one of the registry. -/
def Respectful (t : EventLoop φ δ) : Prop := ∀ c ∈ t.pending.head?, t.Respects c.1 c.2

/-- The condition on a step. -/
def Meets (t : EventLoop φ δ) : Event φ δ → Prop
  | .add fd mask _ clientData _ => ∀ side proc' clientData',
      t.registry fd side = some (proc', clientData') → mask.has side = false →
      clientData = clientData'
  | .del fd mask => ∀ side, mask.has side = true → (fd, side) ∉ t.pending
  | .clear fd => ∀ side, (fd, side) ∉ t.pending
  | .wait events => ∀ c ∈ callsOf events, (t.registry c.1 c.2).isSome
  | .call => True

/-- After `Init`. -/
def start [Inhabited δ] (maxEventsSize : Nat) : EventLoop φ δ :=
  ⟨.init maxEventsSize, fun _ _ => none, []⟩

/-- The states from `Init` on, when every step meets a condition. -/
inductive Run [Inhabited δ] (maxEventsSize : Nat)
    (meets : EventLoop φ δ → Event φ δ → Prop) : EventLoop φ δ → Prop
  | start : Run maxEventsSize meets (start maxEventsSize)
  | step {t t' : EventLoop φ δ} {e : Event φ δ} : Run maxEventsSize meets t → meets t e →
      Step t e t' → Run maxEventsSize meets t'

end EventLoop

/-! ## The table and the registry -/

/-- What the table says about a side of an fd. -/
def FileEvent.registered {φ δ : Type} (fe : FileEvent φ δ) (side : Side) : Option (φ × δ) :=
  if fe.mask.has side then (fe.proc side).map (·, fe.clientData) else none

namespace EventLoop

variable {φ δ : Type} {t t' : EventLoop φ δ} {fd : Int} {mask : EventMask} {side : Side}
  {proc : φ} {clientData : δ} {fe : FileEvent φ δ} {e : Event φ δ}

/-- What every step keeps that meets the condition. -/
structure Inv (t : EventLoop φ δ) : Prop where
  entry : ∀ fd fe side, t.epoller.fileEvent fd = .ok fe → t.registry fd side = fe.registered side
  outside : ∀ fd f side, t.epoller.fileEvent fd = .error f → t.registry fd side = none
  pending : ∀ c ∈ t.pending, (t.registry c.1 c.2).isSome

@[simp] theorem union_has {m n : EventMask} : (m.union n).has side = (m.has side || n.has side) := by
  cases side with
  | read => rfl
  | write => rfl

@[simp] theorem minus_has {m n : EventMask} :
    (m.minus n).has side = (m.has side && !n.has side) := by
  cases side with
  | read => rfl
  | write => rfl

@[simp] theorem none_has : EventMask.none.has side = false := by
  cases side with
  | read => rfl
  | write => rfl

theorem added_proc :
    (Epoller.added fe mask proc clientData).proc side =
      if mask.has side then some proc else fe.proc side := by
  cases side with
  | read => rfl
  | write => rfl

/-- **AddEvent** and the registry, when the client data is that of the other side. -/
theorem added_registered (hdata : mask.has side = false → ∀ x, fe.registered side = some x →
      clientData = x.2) :
    (Epoller.added fe mask proc clientData).registered side =
      if mask.has side then some (proc, clientData) else fe.registered side := by
  have hmask : (Epoller.added fe mask proc clientData).mask.has side =
      (fe.mask.has side || mask.has side) := union_has
  unfold FileEvent.registered
  rw [hmask, added_proc]
  cases hm : mask.has side with
  | true =>
      rw [Bool.or_true]
      rfl
  | false =>
      rw [Bool.or_false]
      simp only [Bool.false_eq_true, if_false]
      split
      · next hside =>
        cases hproc : fe.proc side with
        | none => rfl
        | some p =>
            have hx : fe.registered side = some (p, fe.clientData) := by
              unfold FileEvent.registered
              rw [if_pos hside, hproc]
              rfl
            have := hdata hm _ hx
            show some (p, clientData) = some (p, fe.clientData)
            rw [this]
      · rfl

theorem deleted_registered :
    ({ fe with mask := fe.mask.minus mask } : FileEvent φ δ).registered side =
      if mask.has side then none else fe.registered side := by
  unfold FileEvent.registered
  rw [minus_has]
  cases hm : mask.has side with
  | true => simp
  | false =>
      rw [Bool.not_false, Bool.and_true]
      rfl

theorem Inv.entered (h : t.Inv) {ep : Epoller φ δ} {reg : Registry φ δ}
    (hentered : Epoller.Entered t.epoller fd fe ep)
    (hown : ∀ side, reg fd side = fe.registered side)
    (hothers : ∀ g side, g ≠ fd → reg g side = t.registry g side)
    (hpending : ∀ c ∈ t.pending, (reg c.1 c.2).isSome) :
    ({ t with epoller := ep, registry := reg } : EventLoop φ δ).Inv := by
  refine ⟨fun g fe' side hfe' => ?_, fun g f side hf => ?_, hpending⟩
  · by_cases hg : g = fd
    · subst hg
      rw [show ep.fileEvent g = .ok fe from hentered.own] at hfe'
      cases hfe'
      exact hown side
    · rw [show ep.fileEvent g = _ from hentered.others g hg] at hfe'
      rw [← h.entry g fe' side hfe']
      exact hothers g side hg
  · by_cases hg : g = fd
    · subst hg
      rw [show ep.fileEvent g = .ok fe from hentered.own] at hf
      cases hf
    · rw [show ep.fileEvent g = _ from hentered.others g hg] at hf
      rw [← h.outside g f side hf]
      exact hothers g side hg

theorem Inv.add (h : t.Inv) {r : Int} {ctl : Bool} {ep : Epoller φ δ}
    (hadd : t.epoller.addEvent fd mask proc clientData ctl = .ok (r, ep))
    (hdata : ∀ side proc' clientData', t.registry fd side = some (proc', clientData') →
      mask.has side = false → clientData = clientData') :
    ({ t with
        epoller := ep
        registry := if r = 0 then t.registry.add fd mask proc clientData else t.registry } :
      EventLoop φ δ).Inv := by
  rcases Epoller.addEvent_cases hadd with ⟨rfl, rfl⟩ | ⟨rfl, fe, hfe, hentered⟩
  · rw [if_neg (by decide)]
    exact h
  rw [if_pos rfl]
  have hold : ∀ side, t.registry fd side = fe.registered side := fun side => h.entry fd fe side hfe
  refine h.entered hentered (fun side => ?_) (fun g side hg => ?_) (fun c hc => ?_)
  · rw [added_registered]
    · simp only [Registry.add, true_and, hold]
    · intro hm x hx
      exact hdata side x.1 x.2 ((hold side).trans hx) hm
  · exact if_neg (fun hcond => hg hcond.1)
  · unfold Registry.add
    split
    · rfl
    · exact h.pending c hc

theorem Inv.del (h : t.Inv) {ep : Epoller φ δ} (hdel : t.epoller.delEvent fd mask = .ok ep)
    (hpending : ∀ side, mask.has side = true → (fd, side) ∉ t.pending) :
    ({ t with epoller := ep, registry := t.registry.del fd mask } : EventLoop φ δ).Inv := by
  have hleft : ∀ c ∈ t.pending, (t.registry.del fd mask c.1 c.2).isSome := by
    rintro ⟨g, side⟩ hc
    unfold Registry.del
    rw [if_neg]
    · exact h.pending _ hc
    · rintro ⟨rfl, hm⟩
      exact hpending side hm hc
  rcases Epoller.delEvent_cases hdel with ⟨hfd, rfl⟩ | ⟨fe, hfe, hentered⟩
  · have hout : t.epoller.fileEvent fd = .error .outOfBounds := if_neg (by omega)
    have hsame : t.registry.del fd mask = t.registry := by
      funext g side
      unfold Registry.del
      split
      · next hcond =>
        rw [hcond.1, h.outside fd _ side hout]
      · rfl
    rw [hsame]
    exact h
  · refine h.entered hentered (fun side => ?_) (fun g side hg => ?_) hleft
    · rw [deleted_registered, ← h.entry fd fe side hfe]
      simp only [Registry.del, true_and]
    · exact if_neg (fun hcond => hg hcond.1)

theorem Inv.step (h : t.Inv) (hmeets : Meets t e) (hstep : Step t e t') : t'.Inv := by
  cases hstep with
  | add hadd => exact h.add hadd hmeets
  | del hdel => exact h.del hdel hmeets
  | clear hclear => exact h.del hclear (fun side _ => hmeets side)
  | wait hempty hreported => exact ⟨h.entry, h.outside, hmeets⟩
  | @call fd side rest fe proc hpending hfe hproc =>
      refine ⟨h.entry, h.outside, fun c hc => h.pending c ?_⟩
      rw [hpending]
      exact List.mem_cons_of_mem _ hc

theorem Inv.respects (h : t.Inv) (hc : (fd, side) ∈ t.pending) : t.Respects fd side := by
  have hsome : (t.registry fd side).isSome := h.pending _ hc
  cases hfe : t.epoller.fileEvent fd with
  | error f =>
      rw [h.outside fd f side hfe] at hsome
      cases hsome
  | ok fe =>
      have hreg := h.entry fd fe side hfe
      rw [hreg] at hsome
      unfold FileEvent.registered at hreg hsome
      split at hsome
      · next hmask =>
        obtain ⟨p, hp⟩ := Option.isSome_iff_exists.mp (Option.isSome_map ▸ hsome)
        rw [if_pos hmask, hp] at hreg
        exact ⟨fe, p, hfe, hmask, hp, hreg⟩
      · cases hsome

section
variable [Inhabited δ] {maxEventsSize : Nat}

theorem start_inv : (start maxEventsSize : EventLoop φ δ).Inv where
  entry := by
    intro fd fe side hfe
    unfold Epoller.fileEvent readAt at hfe
    split at hfe
    · cases hfe
      unfold FileEvent.registered
      simp only [start, Epoller.init, none_has, Bool.false_eq_true, if_false]
    · cases hfe
  outside := fun _ _ _ _ => rfl
  pending := fun _ hc => nomatch hc

theorem Run.inv (h : Run maxEventsSize Meets t) : t.Inv := by
  induction h with
  | start => exact start_inv
  | step _ hmeets hstep ih => exact ih.step hmeets hstep

/-- **Every call is one of the registry** in every run that meets the condition. -/
theorem run_respectful (h : Run maxEventsSize Meets t) : t.Respectful := by
  intro c hc
  exact h.inv.respects (List.mem_of_mem_head? hc)

end

/-! ## `Loop` is these steps -/

/-- Some steps. -/
abbrev Steps : EventLoop φ δ → EventLoop φ δ → Prop :=
  Relation.ReflTransGen fun t t' => ∃ e, Step t e t'

/-- Code that changes the epoller by its methods only. -/
def Touches (ep ep' : Epoller φ δ) : Prop :=
  ∀ t : EventLoop φ δ, t.epoller = ep → ∃ reg, Steps t { t with epoller := ep', registry := reg }

/-- **`Loop`** makes the calls that `epoll_wait` has reported, whatever the handlers do. -/
theorem loop_steps {σ : Type} {events : List (Int × EpollFlags)} {s s' : σ × Epoller φ δ}
    {handle : φ → Int → δ → σ × Epoller φ δ → Result (σ × Epoller φ δ)}
    (htouches : ∀ proc fd clientData s s', handle proc fd clientData s = .ok s' →
      Touches s.2 s'.2)
    (hreported : ∀ e ∈ events, ∃ fe, s.2.fileEvent e.1 = .ok fe ∧ fe.mask ≠ .none)
    (h : Epoller.loop handle events s = .ok s') (reg : Registry φ δ) :
    ∃ reg', Steps ⟨s.2, reg, []⟩ ⟨s'.2, reg', []⟩ := by
  have hcalls : ∀ (calls : List ProcCall) (s : σ × Epoller φ δ) (reg : Registry φ δ),
      Epoller.dispatch handle calls s = .ok s' →
      ∃ reg', Steps ⟨s.2, reg, calls⟩ ⟨s'.2, reg', []⟩ := by
    intro calls
    induction calls with
    | nil =>
        intro s reg h
        cases h
        exact ⟨reg, .refl⟩
    | cons c calls ih =>
        intro s reg h
        obtain ⟨fd, side⟩ := c
        obtain ⟨fe, hfe, h⟩ := bind_eq_ok.mp h
        cases hproc : fe.proc side with
        | none =>
            simp only [hproc] at h
            cases h
        | some proc =>
            simp only [hproc] at h
            obtain ⟨s₁, hhandle, h⟩ := bind_eq_ok.mp h
            have hcall : Step ⟨s.2, reg, (fd, side) :: calls⟩ .call ⟨s.2, reg, calls⟩ :=
              .call rfl hfe hproc
            obtain ⟨reg₁, hhandler⟩ := htouches proc fd _ s s₁ hhandle ⟨s.2, reg, calls⟩ rfl
            obtain ⟨reg', hrest⟩ := ih s₁ reg₁ h
            exact ⟨reg', .head ⟨_, hcall⟩ (hhandler.trans hrest)⟩
  obtain ⟨reg', hsteps⟩ := hcalls (callsOf events) s reg h
  exact ⟨reg', .head ⟨_, .wait rfl hreported⟩ hsteps⟩

/-! ## Four runs -/

/-- Two sides with one piece of client data are called in turn. -/
theorem run_respectful_both :
    ∃ t : EventLoop Nat Nat, Run 8 Meets t ∧ t.pending = [(5, .read), (5, .write)] ∧
      t.Respectful := by
  have hread : Run 8 (@Meets Nat Nat) _ :=
    .step (e := .add 5 .eventRead 1 7 true) .start (fun _ _ _ h => nomatch h) (.add (r := 0) rfl)
  have hwrite := Run.step hread (e := .add 5 .eventWrite 2 7 true) (by
    intro side p d h hm
    cases side with
    | read =>
        cases h
        rfl
    | write => cases hm) (.add (r := 0) rfl)
  have hwait := Run.step hwrite (e := .wait [(5, { epollin := true, epollhup := true })]) (by
    intro c hc
    rcases List.mem_cons.mp hc with rfl | hc
    · rfl
    · obtain rfl := List.mem_singleton.mp hc
      rfl) (.wait rfl (by
      intro e he
      obtain rfl := List.mem_singleton.mp he
      exact ⟨_, rfl, by decide⟩))
  exact ⟨_, hwait, rfl, run_respectful hwait⟩

/-- The fd 5 is registered for reading with the client data 7, and for writing with
`clientData`; then `epoll_wait` reports `flags` for it. -/
theorem run_five (clientData : Nat) (flags : EpollFlags) :
    ∃ t : EventLoop Nat Nat, Run 8 (fun _ _ => True) t ∧ t.pending = flags.calls 5 ∧
      t.epoller.fileEvent 5 = .ok ⟨.both, some 1, some 2, clientData⟩ ∧
      t.registry 5 = fun side => if side = .write then some (2, clientData) else some (1, 7) := by
  have hread : Run 8 (fun (_ : EventLoop Nat Nat) _ => True) _ :=
    .step (e := .add 5 .eventRead 1 7 true) .start trivial (.add (r := 0) rfl)
  have hwrite := Run.step hread (e := .add 5 .eventWrite 2 clientData true) trivial
    (.add (r := 0) rfl)
  have hwait := Run.step hwrite (e := .wait [(5, flags)]) trivial (.wait rfl (by
    intro e he
    obtain rfl := List.mem_singleton.mp he
    exact ⟨_, rfl, fun h => Bool.noConfusion (congrArg EventMask.read h)⟩))
  refine ⟨_, hwait, List.append_nil _, rfl, ?_⟩
  funext side
  cases side with
  | read => rfl
  | write => rfl

/-- `EPOLLHUP` for an fd that is only read from calls a null pointer; a write event with
other client data passes it to the handler for reading; and a handler that clears its fd
does not keep the other one from being called. -/
theorem run_disrespectful :
    (∃ t : EventLoop Nat Nat, Run 8 (fun _ _ => True) t ∧ t.pending = [(5, .write)] ∧
      t.registry 5 .write = none ∧ ¬ t.Respectful) ∧
    (∃ t : EventLoop Nat Nat, Run 8 (fun _ _ => True) t ∧ t.pending = [(5, .read)] ∧
      t.registry 5 .read = some (1, 7) ∧ ¬ t.Respectful) ∧
    (∃ t : EventLoop Nat Nat, Run 8 (fun _ _ => True) t ∧ t.pending = [(5, .write)] ∧
      t.epoller.fileEvent 5 = .ok ⟨.none, some 1, some 2, 7⟩ ∧ ¬ t.Respectful) := by
  refine ⟨?_, ?_, ?_⟩
  · have hread : Run 8 (fun (_ : EventLoop Nat Nat) _ => True) _ :=
      .step (e := .add 5 .eventRead 1 7 true) .start trivial (.add (r := 0) rfl)
    have hwait := Run.step hread (e := .wait [(5, { epollhup := true })]) trivial (.wait rfl (by
      intro e he
      obtain rfl := List.mem_singleton.mp he
      exact ⟨_, rfl, by decide⟩))
    refine ⟨_, hwait, rfl, rfl, fun h => ?_⟩
    obtain ⟨fe, proc, -, -, -, hreg⟩ := h (5, .write) rfl
    cases hreg
  · obtain ⟨t, hrun, hpending, hfe, hreg⟩ := run_five 0 { epollin := true }
    refine ⟨t, hrun, hpending, by rw [hreg]; rfl, fun h => ?_⟩
    obtain ⟨fe, proc, hfe', -, -, hreg'⟩ := h (5, .read) (by rw [hpending]; rfl)
    rw [hfe] at hfe'
    cases hfe'
    rw [hreg] at hreg'
    cases hreg'
  · obtain ⟨t, hrun, hpending, hfe, hreg⟩ := run_five 7 { epollin := true, epollout := true }
    have hcall := Run.step hrun (e := .call) trivial (.call hpending hfe rfl)
    obtain ⟨ep, hclear, hentered⟩ := Epoller.delEvent_ok hfe .both
    have hcleared := Run.step hcall (e := .clear 5) trivial (.clear hclear)
    refine ⟨_, hcleared, rfl, hentered.own, fun h => ?_⟩
    obtain ⟨fe, proc, -, -, -, hreg'⟩ := h (5, .write) rfl
    cases hreg'

end EventLoop

end PlayFrame
