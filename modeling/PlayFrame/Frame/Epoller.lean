/-
# `PlayFrame.Frame.Epoller` — the table of event handlers

`common/frame/epoller.{h,cpp}`.  `file_events_` has one entry for each fd below
`max_events_size_`: the events it is registered for, the handler of each, and one piece
of client data for both.  Whether `epoll_ctl` succeeds is decided outside.

The handlers and what `client_data` points to are parameters.
-/
import PlayFrame.Frame.CommDef

namespace PlayFrame

/-- A set of `EVENT_READ` and `EVENT_WRITE`. -/
structure EventMask where
  read : Bool
  write : Bool
  deriving DecidableEq, Repr

namespace EventMask

/-- `EVENT_NONE`. -/
def none : EventMask := ⟨false, false⟩
/-- `EVENT_READ`. -/
def eventRead : EventMask := ⟨true, false⟩
/-- `EVENT_WRITE`. -/
def eventWrite : EventMask := ⟨false, true⟩
/-- `EVENT_READ | EVENT_WRITE`. -/
def both : EventMask := ⟨true, true⟩

/-- `m | n`. -/
def union (m n : EventMask) : EventMask := ⟨m.read || n.read, m.write || n.write⟩
/-- `m & ~n`. -/
def minus (m n : EventMask) : EventMask := ⟨m.read && !n.read, m.write && !n.write⟩

end EventMask

/-- `FileEvent`. -/
structure FileEvent (φ δ : Type) where
  mask : EventMask
  readProc : Option φ
  writeProc : Option φ
  clientData : δ

/-- `class Epoller`: its `EpollEventLoop`. -/
structure Epoller (φ δ : Type) where
  maxEventsSize : Nat
  fileEvents : Nat → FileEvent φ δ

namespace Epoller

variable {φ δ : Type}

/-- `Epoller::Init`: the memory is cleared, and `default` is the null pointer. -/
def init [Inhabited δ] (maxEventsSize : Nat) : Epoller φ δ where
  maxEventsSize := maxEventsSize
  fileEvents := fun _ => ⟨.none, none, none, default⟩

/-- `Epoller::AddEvent`, where `ctl` says whether `epoll_ctl` succeeds. -/
def addEvent (ep : Epoller φ δ) (fd : Int) (mask : EventMask) (proc : φ) (clientData : δ)
    (ctl : Bool) : Result (Int × Epoller φ δ) :=
  if fd ≥ ep.maxEventsSize then .ok (-1, ep)
  else do
    let fe ← readAt ep.maxEventsSize ep.fileEvents fd
    if ctl = false then .ok (-1, ep)
    else do
      let fileEvents ← writeAt ep.maxEventsSize ep.fileEvents fd
        { mask := fe.mask.union mask
          readProc := if mask.read then some proc else fe.readProc
          writeProc := if mask.write then some proc else fe.writeProc
          clientData := clientData }
      .ok (0, { ep with fileEvents := fileEvents })

/-- `Epoller::DelEvent`; the answer of `epoll_ctl` is not looked at. -/
def delEvent (ep : Epoller φ δ) (fd : Int) (mask : EventMask) : Result (Epoller φ δ) :=
  if fd ≥ ep.maxEventsSize then .ok ep
  else do
    let fe ← readAt ep.maxEventsSize ep.fileEvents fd
    if fe.mask = .none then .ok ep
    else do
      let fileEvents ← writeAt ep.maxEventsSize ep.fileEvents fd
        { fe with mask := fe.mask.minus mask }
      .ok { ep with fileEvents := fileEvents }

/-- `Epoller::ClearEvent`. -/
def clearEvent (ep : Epoller φ δ) (fd : Int) : Result (Epoller φ δ) := ep.delEvent fd .both

/-- `file_events_[fd]`. -/
def fileEvent (ep : Epoller φ δ) (fd : Int) : Result (FileEvent φ δ) :=
  readAt ep.maxEventsSize ep.fileEvents fd

/-! ## What the calls do to the table -/

section
variable {ep ep' : Epoller φ δ} {fd g : Int} {mask : EventMask} {proc : φ} {clientData : δ}
  {ctl : Bool} {r : Int} {fe : FileEvent φ δ}

theorem fileEvent_write {fileEvents : Nat → FileEvent φ δ}
    (h : writeAt ep.maxEventsSize ep.fileEvents fd fe = .ok fileEvents) :
    ({ ep with fileEvents := fileEvents } : Epoller φ δ).fileEvent fd = .ok fe ∧
      ∀ g, g ≠ fd → ({ ep with fileEvents := fileEvents } : Epoller φ δ).fileEvent g =
        ep.fileEvent g := by
  unfold writeAt at h
  split at h
  · next hfd =>
    cases h
    refine ⟨?_, fun g hg => ?_⟩
    · exact (if_pos hfd).trans (congrArg Except.ok (Function.update_self ..))
    · show readAt ep.maxEventsSize _ g = readAt ep.maxEventsSize ep.fileEvents g
      unfold readAt
      split
      · exact congrArg Except.ok (Function.update_of_ne (by omega) _ _)
      · rfl
  · cases h

/-- What a call that has written the entry of `fd` leaves. -/
structure Entered (ep : Epoller φ δ) (fd : Int) (fe : FileEvent φ δ) (ep' : Epoller φ δ) :
    Prop where
  own : ep'.fileEvent fd = .ok fe
  others : ∀ g, g ≠ fd → ep'.fileEvent g = ep.fileEvent g
  size : ep'.maxEventsSize = ep.maxEventsSize

/-- The entry that `AddEvent` writes. -/
def added (fe : FileEvent φ δ) (mask : EventMask) (proc : φ) (clientData : δ) :
    FileEvent φ δ where
  mask := fe.mask.union mask
  readProc := if mask.read then some proc else fe.readProc
  writeProc := if mask.write then some proc else fe.writeProc
  clientData := clientData

/-- **AddEvent** writes the entry, or fails and leaves the table. -/
theorem addEvent_cases (h : ep.addEvent fd mask proc clientData ctl = .ok (r, ep')) :
    (r = -1 ∧ ep' = ep) ∨
      (r = 0 ∧ ∃ fe, ep.fileEvent fd = .ok fe ∧
        Entered ep fd (added fe mask proc clientData) ep') := by
  unfold addEvent at h
  split at h
  · cases h
    exact Or.inl ⟨rfl, rfl⟩
  obtain ⟨fe, hfe, h⟩ := bind_eq_ok.mp h
  split at h
  · cases h
    exact Or.inl ⟨rfl, rfl⟩
  · obtain ⟨fileEvents, hwrite, h⟩ := bind_eq_ok.mp h
    cases h
    obtain ⟨hown, hothers⟩ := fileEvent_write hwrite
    exact Or.inr ⟨rfl, fe, hfe, hown, hothers, rfl⟩

/-- **DelEvent** takes the events from the mask of the entry, if there is one. -/
theorem delEvent_cases (h : ep.delEvent fd mask = .ok ep') :
    (ep.maxEventsSize ≤ fd ∧ ep' = ep) ∨
      ∃ fe, ep.fileEvent fd = .ok fe ∧
        Entered ep fd { fe with mask := fe.mask.minus mask } ep' := by
  unfold delEvent at h
  split at h
  · next hfd =>
    cases h
    exact Or.inl ⟨hfd, rfl⟩
  obtain ⟨fe, hfe, h⟩ := bind_eq_ok.mp h
  split at h
  · next hnone =>
    cases h
    refine Or.inr ⟨fe, hfe, ?_, fun _ _ => rfl, rfl⟩
    have hminus : fe.mask.minus mask = fe.mask := by
      rw [hnone]
      rfl
    rw [hminus]
    exact hfe
  · obtain ⟨fileEvents, hwrite, h⟩ := bind_eq_ok.mp h
    cases h
    obtain ⟨hown, hothers⟩ := fileEvent_write hwrite
    exact Or.inr ⟨fe, hfe, hown, hothers, rfl⟩

theorem delEvent_ok (hfe : ep.fileEvent fd = .ok fe) (mask : EventMask) :
    ∃ ep', ep.delEvent fd mask = .ok ep' ∧
      Entered ep fd { fe with mask := fe.mask.minus mask } ep' := by
  have hfd : 0 ≤ fd ∧ fd < ep.maxEventsSize := by
    unfold fileEvent readAt at hfe
    split at hfe
    · assumption
    · cases hfe
  have hret : ∃ ep', ep.delEvent fd mask = .ok ep' := by
    unfold delEvent
    rw [if_neg (Int.not_le.mpr hfd.2), show readAt _ _ fd = _ from hfe, ok_bind]
    split
    · exact ⟨_, rfl⟩
    · unfold writeAt
      rw [if_pos hfd, ok_bind]
      exact ⟨_, rfl⟩
  obtain ⟨ep', hdel⟩ := hret
  refine ⟨ep', hdel, ?_⟩
  rcases delEvent_cases hdel with ⟨hout, -⟩ | ⟨fe', hfe', hentered⟩
  · omega
  · rw [hfe] at hfe'
    cases hfe'
    exact hentered

theorem addEvent_others (h : ep.addEvent fd mask proc clientData ctl = .ok (r, ep'))
    (hg : g ≠ fd) : ep'.fileEvent g = ep.fileEvent g := by
  rcases addEvent_cases h with ⟨-, rfl⟩ | ⟨-, fe, -, hentered⟩
  · rfl
  · exact hentered.others g hg

theorem addEvent_size (h : ep.addEvent fd mask proc clientData ctl = .ok (r, ep')) :
    ep'.maxEventsSize = ep.maxEventsSize := by
  rcases addEvent_cases h with ⟨-, rfl⟩ | ⟨-, fe, -, hentered⟩
  · rfl
  · exact hentered.size

/-- **AddEvent** of an fd in the table, where `epoll_ctl` succeeds. -/
theorem addEvent_fileEvent (h : ep.addEvent fd mask proc clientData true = .ok (r, ep'))
    (hfe : ep.fileEvent fd = .ok fe) :
    ep'.fileEvent fd = .ok (added fe mask proc clientData) := by
  have hfd : 0 ≤ fd ∧ fd < ep.maxEventsSize := by
    unfold fileEvent readAt at hfe
    split at hfe
    · assumption
    · cases hfe
  unfold fileEvent at hfe
  unfold addEvent at h
  simp only [ge_iff_le, if_neg (Int.not_le.mpr hfd.2), hfe, ok_bind, Bool.true_eq_false,
    if_false] at h
  obtain ⟨fileEvents, hwrite, h⟩ := bind_eq_ok.mp h
  cases h
  exact (fileEvent_write hwrite).1

theorem delEvent_others (h : ep.delEvent fd mask = .ok ep') (hg : g ≠ fd) :
    ep'.fileEvent g = ep.fileEvent g := by
  rcases delEvent_cases h with ⟨-, rfl⟩ | ⟨fe, -, hentered⟩
  · rfl
  · exact hentered.others g hg

theorem delEvent_size (h : ep.delEvent fd mask = .ok ep') :
    ep'.maxEventsSize = ep.maxEventsSize := by
  rcases delEvent_cases h with ⟨-, rfl⟩ | ⟨fe, -, hentered⟩
  · rfl
  · exact hentered.size

theorem delEvent_clientData (h : ep.delEvent fd mask = .ok ep') (hfe : ep.fileEvent fd = .ok fe) :
    ∃ fe', ep'.fileEvent fd = .ok fe' ∧ fe'.clientData = fe.clientData := by
  rcases delEvent_cases h with ⟨-, rfl⟩ | ⟨fe', hfe', hentered⟩
  · exact ⟨fe, hfe, rfl⟩
  · rw [hfe] at hfe'
    cases hfe'
    exact ⟨_, hentered.own, rfl⟩

end

end Epoller

end PlayFrame
