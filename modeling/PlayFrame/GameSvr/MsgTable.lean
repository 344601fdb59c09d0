/-
# `PlayFrame.GameSvr.MsgTable` — which messages gamesvr handles, and how

`gamesvr/msg_module/msg_module.{h,cpp}`: the table that `MsgModule::ModuleInit` builds
and the handlers in it.  Both protocols share the table although they number their
commands independently, and a client chooses the command of its messages freely.
-/
import PlayFrame.Frame.MsgModuleBase
import PlayFrame.GameSvr.LogicModule
import PlayFrame.GameSvr.Proto

namespace PlayFrame

variable {β ω : Type}

/-- The arguments `msg` and `args` of a step of a logic: a client's message and its
`ConnData`, a message of datasvr, or the player of `LOGIC_UPDATE_PLAYER`. -/
inductive StepArgs where
  | cs (msg : ProtoCs.Msg) (connData : ConnData)
  | ss (msg : ProtoSs.Msg)
  | playerIdx (playerIdx : Int)
  deriving DecidableEq, Repr

/-- What the handlers work on: the logic module and all the rest of gamesvr.  `now` is
the second `time(NULL)` answers, `raw` what the next `malloc` leaves in its memory. -/
structure MsgEnv (β ω : Type) where
  logicModule : LogicModule β
  world : ω
  now : Int
  raw : β

namespace MsgModule

/-! ## `logic_type_def.h` and `cmd_logic_type_map_` -/

/-- `LOGIC_NORMAL_REG`. -/
def logicNormalReg : Int := 1
/-- `LOGIC_QUICK_REG`. -/
def logicQuickReg : Int := 2
/-- `LOGIC_LOGIN`. -/
def logicLogin : Int := 3
/-- `LOGIC_UPDATE_PLAYER`. -/
def logicUpdatePlayer : Int := 4

/-- `cmd_logic_type_map_[cmd]`, which is 0 for a command that is not in the map. -/
def cmdLogicTypeMap (cmd : Int) : Int :=
  if cmd = ProtoCs.quickRegReqFieldNumber then logicQuickReg
  else if cmd = ProtoCs.normalRegReqFieldNumber then logicNormalReg
  else if cmd = ProtoCs.loginReqFieldNumber then logicLogin
  else 0

/-! ## The handlers -/

/-- `MsgModule::OnLogicMultiStepStart`; `args` is the `ConnData` of the message. -/
def onLogicMultiStepStart (types : LogicTypes β StepArgs ω) (msg : ProtoCs.Msg)
    (args : Option ConnData) (env : MsgEnv β ω) : Result (Int × MsgEnv β ω) := do
  let logicType := cmdLogicTypeMap msg.head.cmd
  let (logicId, logicModule) ←
    env.logicModule.createLogic types env.now env.raw logicType 10
  if logicId ≤ 0 then .ok (-1, { env with logicModule := logicModule })
  else
    match args with
    | none => .error .badPointer
    | some connData => do
        let (logicModule, world) ← logicModule.proc types logicId (.cs msg connData) env.world
        .ok (0, { env with logicModule := logicModule, world := world })

/-- `MsgModule::OnLogicMultiStepResume`. -/
def onLogicMultiStepResume (types : LogicTypes β StepArgs ω) (msg : ProtoSs.Msg)
    (_args : Option ConnData) (env : MsgEnv β ω) : Result (Int × MsgEnv β ω) := do
  let logicId := logicIdOfSeq msg.head.seq
  let (logicModule, world) ← env.logicModule.proc types logicId (.ss msg) env.world
  .ok (0, { env with logicModule := logicModule, world := world })

/-! ## The table -/

/-- The table of gamesvr. -/
abbrev Table (β ω : Type) : Type := MsgWrapperMap Pkg (Option ConnData) (MsgEnv β ω)

/-- The entry for a request of a client. -/
def startWrapper (types : LogicTypes β StepArgs ω) :
    MsgWrapper Pkg (Option ConnData) (MsgEnv β ω) :=
  ⟨.cs, onLogicMultiStepStart types⟩

/-- The entry for an answer of datasvr. -/
def resumeWrapper (types : LogicTypes β StepArgs ω) :
    MsgWrapper Pkg (Option ConnData) (MsgEnv β ω) :=
  ⟨.ss, onLogicMultiStepResume types⟩

/-- The `REGISTER_MSG` lines of `MsgModule::ModuleInit`, in order. -/
def registrations (types : LogicTypes β StepArgs ω) :
    List (Int × MsgWrapper Pkg (Option ConnData) (MsgEnv β ω)) :=
  [(ProtoCs.quickRegReqFieldNumber, startWrapper types),
   (ProtoCs.normalRegReqFieldNumber, startWrapper types),
   (ProtoCs.loginReqFieldNumber, startWrapper types),
   (ProtoSs.accountRegResFieldNumber, resumeWrapper types),
   (ProtoSs.getPlayerDataResFieldNumber, resumeWrapper types),
   (ProtoSs.setPlayerDataResFieldNumber, resumeWrapper types)]

/-- `MsgModule::ModuleInit`: the table it leaves. -/
def moduleInit (types : LogicTypes β StepArgs ω) : Table β ω :=
  (registrations types).foldl (fun table r => MsgModuleBase.register table r.1 r.2) ∅

/-- `HandleRequest<T>` of gamesvr's `MsgModule`. -/
def handleRequest (codec : Codec) (types : LogicTypes β StepArgs ω) (T : PkgClass)
    (pkg : Bytes) (data : Option ConnData) (env : MsgEnv β ω) : Result (Int × MsgEnv β ω) :=
  MsgModuleBase.handleRequest headCmd codec.parseFromArray (moduleInit types) T pkg data env

/-! ## The entries -/

/-- The commands registered for a package class. -/
def commands : PkgClass → List Int
  | .cs => [ProtoCs.loginReqFieldNumber, ProtoCs.quickRegReqFieldNumber,
      ProtoCs.normalRegReqFieldNumber]
  | .ss => [ProtoSs.accountRegResFieldNumber, ProtoSs.getPlayerDataResFieldNumber,
      ProtoSs.setPlayerDataResFieldNumber]

section
variable {codec : Codec} {types : LogicTypes β StepArgs ω} {T : PkgClass} {pkg : Bytes}
  {msg : Pkg T} {data : Option ConnData} {env : MsgEnv β ω}

theorem mem_commands_cs {cmd : Int} : cmd ∈ commands .cs ↔ cmd = ProtoCs.loginReqFieldNumber ∨
    cmd = ProtoCs.quickRegReqFieldNumber ∨ cmd = ProtoCs.normalRegReqFieldNumber := by
  simp [commands]

theorem mem_commands_ss {cmd : Int} : cmd ∈ commands .ss ↔
    cmd = ProtoSs.accountRegResFieldNumber ∨ cmd = ProtoSs.getPlayerDataResFieldNumber ∨
      cmd = ProtoSs.setPlayerDataResFieldNumber := by
  simp [commands]

theorem moduleInit_lookup (types : LogicTypes β StepArgs ω) (cmd : Int) :
    (moduleInit types).lookup cmd =
      if cmd ∈ commands .cs then some (startWrapper types)
      else if cmd ∈ commands .ss then some (resumeWrapper types)
      else none := by
  simp only [moduleInit, registrations, List.foldl, MsgModuleBase.register_lookup,
    Finmap.lookup_empty, mem_commands_cs, mem_commands_ss]
  unfold ProtoCs.loginReqFieldNumber ProtoCs.quickRegReqFieldNumber
    ProtoCs.normalRegReqFieldNumber ProtoSs.accountRegResFieldNumber
    ProtoSs.getPlayerDataResFieldNumber ProtoSs.setPlayerDataResFieldNumber
  split_ifs <;> first | rfl | omega

theorem commands_disjoint : ∀ cmd ∈ commands .cs, cmd ∉ commands .ss := by
  decide

theorem entry_class_iff (types : LogicTypes β StepArgs ω) (T : PkgClass) (cmd : Int) :
    (∀ wrapper, (moduleInit types).lookup cmd = some wrapper → wrapper.pkgClass = T) ↔
      cmd ∉ commands T.other := by
  rw [moduleInit_lookup]
  by_cases hcs : cmd ∈ commands .cs
  · have hss := commands_disjoint cmd hcs
    rw [if_pos hcs]
    cases T with
    | cs => exact iff_of_true (fun _ h => by cases h; rfl) hss
    | ss => exact iff_of_false (fun h => nomatch h _ rfl) (fun h => h hcs)
  · rw [if_neg hcs]
    by_cases hss : cmd ∈ commands .ss
    · rw [if_pos hss]
      cases T with
      | cs => exact iff_of_false (fun h => nomatch h _ rfl) (fun h => h hss)
      | ss => exact iff_of_true (fun _ h => by cases h; rfl) hcs
    · rw [if_neg hss]
      cases T with
      | cs => exact iff_of_true (fun _ h => nomatch h) hss
      | ss => exact iff_of_true (fun _ h => nomatch h) hcs

/-- **Dispatch is type-correct exactly when** the command of the message is not one that
is registered for the other package class. -/
theorem handleRequest_dispatched (hparse : codec.parseFromArray T pkg = some msg) :
    MsgModuleBase.Dispatched headCmd (moduleInit types) T msg data env
        (handleRequest codec types T pkg data env) ↔
      headCmd T msg ∉ commands T.other :=
  (MsgModuleBase.dispatched_iff hparse).trans (entry_class_iff types T _)

theorem handleRequest_confused (hparse : codec.parseFromArray T pkg = some msg)
    (hcmd : headCmd T msg ∈ commands T.other) :
    handleRequest codec types T pkg data env = .error .typeConfusion := by
  have hother : ∃ wrapper, (moduleInit types).lookup (headCmd T msg) = some wrapper ∧
      wrapper.pkgClass ≠ T := by
    have h := mt (entry_class_iff types T (headCmd T msg)).mp (not_not.mpr hcmd)
    push Not at h
    exact h
  obtain ⟨wrapper, hw, hne⟩ := hother
  exact MsgModuleBase.handleRequest_other hparse hw hne.symm

theorem handleRequest_cs {env' : MsgEnv β ω} {ret : Int}
    (h : handleRequest codec types .cs pkg data env = .ok (ret, env')) :
    env' = env ∨ ∃ msg ret', codec.parseFromArray .cs pkg = some msg ∧
      msg.head.cmd ∈ commands .cs ∧ onLogicMultiStepStart types msg data env = .ok (ret', env') := by
  rcases MsgModuleBase.handleRequest_cases h with ⟨rfl, -⟩ | ⟨msg, func, ret', hparse, hl, hfunc⟩
  · exact Or.inl rfl
  · rw [moduleInit_lookup] at hl
    split at hl
    · next hcs =>
        cases hl
        exact Or.inr ⟨msg, ret', hparse, hcs, hfunc⟩
    · split at hl
      · cases hl
      · cases hl

theorem handleRequest_ss {env' : MsgEnv β ω} {ret : Int}
    (h : handleRequest codec types .ss pkg data env = .ok (ret, env')) :
    env' = env ∨ ∃ msg ret', codec.parseFromArray .ss pkg = some msg ∧
      onLogicMultiStepResume types msg data env = .ok (ret', env') := by
  rcases MsgModuleBase.handleRequest_cases h with ⟨rfl, -⟩ | ⟨msg, func, ret', hparse, hl, hfunc⟩
  · exact Or.inl rfl
  · rw [moduleInit_lookup] at hl
    split at hl
    · cases hl
    · split at hl
      · cases hl
        exact Or.inr ⟨msg, ret', hparse, hfunc⟩
      · cases hl

/-- A gamesvr without logics, in which messages of the two protocols arrive. -/
def idleEnv : MsgEnv Unit Unit := ⟨LogicModule.init 1 7, (), 7, ()⟩

/-- The logic types of that gamesvr. -/
def noTypes : LogicTypes Unit StepArgs Unit := ⟨fun _ => none, fun _ => none⟩

/-- An answer of datasvr with the command of `GetPlayerDataRes` is handled. -/
theorem handleRequest_dispatched_res :
    MsgModuleBase.Dispatched headCmd (moduleInit noTypes) .ss { head := { cmd := 20 } } none
      idleEnv (handleRequest headCodec noTypes .ss [10, 2, 8, 20] none idleEnv) :=
  have hparse : headCodec.parseFromArray .ss [10, 2, 8, 20] =
    some { head := { cmd := 20 } } := rfl
  (handleRequest_dispatched hparse).mpr (by decide)

/-- A client that sends the same four bytes has its message cast to a `ProtoSs::Msg`. -/
theorem handleRequest_clientRes :
    headCodec.parseFromArray .cs [10, 2, 8, 20] = some { head := { cmd := 20 } } ∧
    handleRequest headCodec noTypes .cs [10, 2, 8, 20] (some ⟨5, 1, .connProc⟩) idleEnv =
      .error .typeConfusion ∧
    ¬ MsgModuleBase.Dispatched headCmd (moduleInit noTypes) .cs { head := { cmd := 20 } }
      (some ⟨5, 1, .connProc⟩) idleEnv
      (handleRequest headCodec noTypes .cs [10, 2, 8, 20] (some ⟨5, 1, .connProc⟩) idleEnv) := by
  have hparse : headCodec.parseFromArray .cs [10, 2, 8, 20] =
      some { head := { cmd := 20 } } := rfl
  refine ⟨hparse, handleRequest_confused hparse (by decide), fun h => ?_⟩
  exact (entry_class_iff noTypes .cs _).mp ((MsgModuleBase.dispatched_iff hparse).mp h) (by decide)

end

end MsgModule

end PlayFrame
