/-
# `PlayFrame.Frame.MsgModuleBase` — the table of message handlers

`common/frame/msg_module_base.h`.  A server keeps one table from command numbers to
handlers, whatever package class a handler was written for; `HandleRequest<T>` parses a
package as a `T`, looks its command up, and hands the message over as a `void*` that
the handler casts back to the class it was registered with.

The package classes are a parameter, with the code that is generated for them: the
command in the head of a message, and the parser.
-/
import PlayFrame.Frame.CommDef
import Mathlib.Data.Finmap

namespace PlayFrame

variable {κ : Type} [DecidableEq κ] {M : κ → Type} {α ω : Type}

/-- `MsgWrapperImpl<T, MSG>`: the class `MSG` and the method, bound to its object. -/
structure MsgWrapper (M : κ → Type) (α ω : Type) where
  pkgClass : κ
  func : M pkgClass → α → ω → Result (Int × ω)

/-- `MsgWrapperImpl::Process`, on a pointer to a message of some class, or null.  The
`static_cast` of a message of another class is where the behaviour becomes undefined. -/
def MsgWrapper.process (wrapper : MsgWrapper M α ω) (msg : Option (Sigma M)) (args : α)
    (w : ω) : Result (Int × ω) :=
  match msg with
  | none => .ok (-1, w)
  | some ⟨c, msg⟩ =>
      if h : c = wrapper.pkgClass then wrapper.func (h ▸ msg) args w
      else .error .typeConfusion

/-- `MsgWrapperMap`. -/
abbrev MsgWrapperMap (M : κ → Type) (α ω : Type) : Type :=
  Finmap (fun _ : Int => MsgWrapper M α ω)

namespace MsgModuleBase

/-- `MsgModuleBase::Register`. -/
def register (msgWrapperMap : MsgWrapperMap M α ω) (msgId : Int) (wrapper : MsgWrapper M α ω) :
    MsgWrapperMap M α ω :=
  msgWrapperMap.insert msgId wrapper

/-- `MsgModuleBase::HandleRequest<T>`.  The answer of the handler is only logged. -/
def handleRequest (headCmd : (c : κ) → M c → Int)
    (parseFromArray : (c : κ) → List UInt8 → Option (M c))
    (msgWrapperMap : MsgWrapperMap M α ω) (T : κ) (pkg : List UInt8) (data : α) (w : ω) :
    Result (Int × ω) :=
  match parseFromArray T pkg with
  | none => .ok (-1, w)
  | some msg =>
      match msgWrapperMap.lookup (headCmd T msg) with
      | some wrapper => do
          let (_, w) ← wrapper.process (some ⟨T, msg⟩) data w
          .ok (0, w)
      | none => .ok (-2, w)

omit [DecidableEq κ] in
theorem register_lookup (msgWrapperMap : MsgWrapperMap M α ω) (msgId cmd : Int)
    (wrapper : MsgWrapper M α ω) :
    (register msgWrapperMap msgId wrapper).lookup cmd =
      if cmd = msgId then some wrapper else msgWrapperMap.lookup cmd := by
  unfold register
  split
  · next h => rw [h, Finmap.lookup_insert]
  · next h => rw [Finmap.lookup_insert_of_ne _ h]

omit [DecidableEq κ] in
theorem lookup_registered {registrations : List (Int × MsgWrapper M α ω)} {cmd : Int}
    {wrapper : MsgWrapper M α ω} : ∀ {table : MsgWrapperMap M α ω},
    (registrations.foldl (fun table r => register table r.1 r.2) table).lookup cmd =
      some wrapper → (cmd, wrapper) ∈ registrations ∨ table.lookup cmd = some wrapper := by
  induction registrations with
  | nil => exact fun h => Or.inr h
  | cons r registrations ih =>
      intro table h
      rcases ih h with h | h
      · exact Or.inl (List.mem_cons_of_mem r h)
      · rw [register_lookup] at h
        split at h
        · next hcmd =>
          cases h
          rw [hcmd]
          exact Or.inl List.mem_cons_self
        · exact Or.inr h

/-! ## What type-correct dispatch is -/

/-- The answer `r` to the message `msg` of class `T`: the command is reported as
unregistered, or a handler registered for `T` has been run. -/
inductive Dispatched (headCmd : (c : κ) → M c → Int) (msgWrapperMap : MsgWrapperMap M α ω)
    (T : κ) (msg : M T) (data : α) (w : ω) (r : Result (Int × ω)) : Prop
  | unregistered : msgWrapperMap.lookup (headCmd T msg) = none → r = .ok (-2, w) →
      Dispatched headCmd msgWrapperMap T msg data w r
  | handled (func : M T → α → ω → Result (Int × ω)) :
      msgWrapperMap.lookup (headCmd T msg) = some ⟨T, func⟩ →
      r = (do let (_, w) ← func msg data w; .ok (0, w)) →
      Dispatched headCmd msgWrapperMap T msg data w r

section
variable {headCmd : (c : κ) → M c → Int} {parseFromArray : (c : κ) → List UInt8 → Option (M c)}
  {msgWrapperMap : MsgWrapperMap M α ω} {T : κ} {pkg : List UInt8} {msg : M T} {data : α} {w : ω}
  {wrapper : MsgWrapper M α ω}

theorem process_other (h : T ≠ wrapper.pkgClass) :
    wrapper.process (some ⟨T, msg⟩) data w = .error .typeConfusion :=
  dif_neg h

theorem process_same (func : M T → α → ω → Result (Int × ω)) :
    MsgWrapper.process ⟨T, func⟩ (some ⟨T, msg⟩) data w = func msg data w :=
  dif_pos rfl

theorem handleRequest_unregistered (hparse : parseFromArray T pkg = some msg)
    (h : msgWrapperMap.lookup (headCmd T msg) = none) :
    handleRequest headCmd parseFromArray msgWrapperMap T pkg data w = .ok (-2, w) := by
  simp only [handleRequest, hparse, h]

theorem handleRequest_registered (hparse : parseFromArray T pkg = some msg)
    (h : msgWrapperMap.lookup (headCmd T msg) = some wrapper) :
    handleRequest headCmd parseFromArray msgWrapperMap T pkg data w = (do
      let (_, w) ← wrapper.process (some ⟨T, msg⟩) data w
      .ok (0, w)) := by
  simp only [handleRequest, hparse, h]

/-- **A request that comes back** was not handled, or by a handler for its class. -/
theorem handleRequest_cases {ret : Int} {w' : ω}
    (h : handleRequest headCmd parseFromArray msgWrapperMap T pkg data w = .ok (ret, w')) :
    (w' = w ∧ ∀ msg, parseFromArray T pkg = some msg →
      msgWrapperMap.lookup (headCmd T msg) = none) ∨
    ∃ msg func ret', parseFromArray T pkg = some msg ∧
      msgWrapperMap.lookup (headCmd T msg) = some ⟨T, func⟩ ∧ func msg data w = .ok (ret', w') := by
  cases hparse : parseFromArray T pkg with
  | none =>
      simp only [handleRequest, hparse] at h
      cases h
      exact Or.inl ⟨rfl, fun msg hmsg => by cases hmsg⟩
  | some msg =>
      cases hl : msgWrapperMap.lookup (headCmd T msg) with
      | none =>
          rw [handleRequest_unregistered hparse hl] at h
          cases h
          refine Or.inl ⟨rfl, ?_⟩
          rintro _ ⟨⟩
          exact hl
      | some wrapper =>
          rw [handleRequest_registered hparse hl] at h
          obtain ⟨⟨ret', w₁⟩, hprocess, h⟩ := bind_eq_ok.mp h
          cases h
          obtain ⟨c, func⟩ := wrapper
          by_cases hT : T = c
          · subst hT
            rw [process_same] at hprocess
            exact Or.inr ⟨msg, func, ret', rfl, hl, hprocess⟩
          · rw [process_other hT] at hprocess
            cases hprocess

/-- **A message that parses** is dispatched type-correctly exactly when the entry of its
command, if there is one, was made for its class. -/
theorem dispatched_iff (hparse : parseFromArray T pkg = some msg) :
    Dispatched headCmd msgWrapperMap T msg data w
        (handleRequest headCmd parseFromArray msgWrapperMap T pkg data w) ↔
      ∀ wrapper, msgWrapperMap.lookup (headCmd T msg) = some wrapper → wrapper.pkgClass = T := by
  constructor
  · intro h wrapper hw
    cases h with
    | unregistered hnone _ =>
        rw [hnone] at hw
        cases hw
    | handled func hfunc _ =>
        rw [hfunc] at hw
        cases hw
        rfl
  · intro h
    cases hl : msgWrapperMap.lookup (headCmd T msg) with
    | none => exact .unregistered hl (handleRequest_unregistered hparse hl)
    | some wrapper =>
        obtain ⟨c, func⟩ := wrapper
        obtain rfl : c = T := h _ hl
        refine .handled func hl ?_
        rw [handleRequest_registered hparse hl, process_same]

/-- The entry of a command for another class is not only the wrong one: running it is
undefined. -/
theorem handleRequest_other (hparse : parseFromArray T pkg = some msg)
    (h : msgWrapperMap.lookup (headCmd T msg) = some wrapper) (hT : T ≠ wrapper.pkgClass) :
    handleRequest headCmd parseFromArray msgWrapperMap T pkg data w = .error .typeConfusion := by
  rw [handleRequest_registered hparse h, process_other hT]
  rfl

end

end MsgModuleBase

end PlayFrame
