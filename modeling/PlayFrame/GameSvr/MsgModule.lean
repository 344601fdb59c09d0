/-
# `PlayFrame.GameSvr.MsgModule` — gamesvr, message by message

`MsgModule::Run` of `gamesvr/msg_module/msg_module.cpp`.  One pass of its loop takes a
message of connsvr, if there is one, and then one of datasvr; `App::AppRun` calls
`LogicModule::Update` after it.  The two halves of a pass and the update are the steps of
gamesvr.

What the system gives to a step is an argument of it, and so is what the step may draw.
The theorems say what a step can do to the players in use and whom it can send to.
-/
import PlayFrame.GameSvr.Logics
import PlayFrame.Frame.Zmq

namespace PlayFrame

/-- gamesvr: its objects, its logics, and the buffer of `MsgModule::Run`. -/
structure GameSvr where
  objMgr : ObjMgrModule
  logicModule : LogicModule LogicBody
  buf : Nat → UInt8

/-- What a step is given: the time, the memory of the next `malloc`, whether its
`zmq_send` calls succeed, and what the generators draw. -/
structure GameRet where
  now : Int
  raw : LogicBody
  zmq : Nat → Bool
  rdtsc : UInt64
  rand : Nat → Nat

/-- What a step has done besides: the messages and requests sent, and the log of the
calls of `set_uid`. -/
structure GameOut where
  toConnsvr : List ConnMsg
  toDatasvr : List ProtoSs.Msg
  uids : List (Nat × UInt64)

/-- What the handlers of gamesvr work on. -/
abbrev GameEnv : Type := MsgEnv LogicBody GameWorld

namespace GameSvr

/-- The state after the modules are initialised in the second `now`. -/
def init (playerPoolSize cityPoolSize logicTimerInitSize : Nat) (rawPlayer : Nat → Player)
    (rawCity : Nat → City) (now : Int) : GameSvr where
  objMgr := ObjMgrModule.init playerPoolSize cityPoolSize rawPlayer rawCity
  logicModule := LogicModule.init logicTimerInitSize now
  buf := fun _ => 0

/-- A step begins. -/
def enter (s : GameSvr) (ret : GameRet) : GameEnv where
  logicModule := s.logicModule
  world :=
    { objMgr := s.objMgr
      toConnsvr := []
      toDatasvr := []
      uids := []
      zmq := ret.zmq
      rdtsc := ret.rdtsc
      rand := ret.rand }
  now := ret.now
  raw := ret.raw

/-- A step ends. -/
def leave (buf : Nat → UInt8) (env : GameEnv) : GameSvr × GameOut :=
  ({ objMgr := env.world.objMgr, logicModule := env.logicModule, buf := buf },
   { toConnsvr := env.world.toConnsvr, toDatasvr := env.world.toDatasvr,
     uids := env.world.uids })

/-- The objects are changed. -/
def withObjMgr (env : GameEnv) (objMgr : ObjMgrModule) : GameEnv :=
  { env with world := { env.world with objMgr := objMgr } }

variable (codec : Codec)

/-- `HandleRequest<T>` of the bytes received, unless `len > 0` fails. -/
def handle (T : PkgClass) (received : Result (Option Bytes)) (data : Option ConnData)
    (env : GameEnv) : Result GameEnv := do
  match ← received with
  | none => .ok env
  | some pkg => do
      let (_, env) ← MsgModule.handleRequest codec (logicTypes codec) T pkg data env
      .ok env

/-! ## CONN_START -/

/-- `RET_LOGIN_GAMESVR_FULL`, `RET_QUICK_REG_GAMESVR_FULL` and
`RET_NORMAL_REG_GAMESVR_FULL`. -/
def retGamesvrFull : Int := -2

/-- The request that is turned into its own reply when there is no room for a player. -/
def fullRes (msg : ProtoCs.Msg) : ProtoCs.Msg :=
  let cmd := msg.head.cmd
  if cmd = ProtoCs.loginReqFieldNumber then
    { msg with head := { msg.head with cmd := ProtoCs.loginResFieldNumber, ret := retGamesvrFull } }
  else if cmd = ProtoCs.quickRegReqFieldNumber then
    { msg with
      head := { msg.head with cmd := ProtoCs.quickRegResFieldNumber, ret := retGamesvrFull } }
  else if cmd = ProtoCs.normalRegReqFieldNumber then
    { msg with
      head := { msg.head with cmd := ProtoCs.normalRegResFieldNumber, ret := retGamesvrFull } }
  else msg

/-- What `Run` does when `GetPlayer` does not find the new player. -/
def refuse (received : Result (Option Bytes)) (connData : ConnData) (env : GameEnv) :
    Result GameEnv := do
  match ← received with
  | none => .ok env
  | some pkg =>
      match codec.parseFromArray .cs pkg with
      | none => .ok env
      | some msg => .ok { env with
          world := (env.world.sendToConnsvr codec (fullRes msg) .connStop connData.connFd 0).2 }

/-- `Run`, at a `CONN_START`: a player is added for the connection. -/
def connStart (received : Result (Option Bytes)) (connData : ConnData) (env : GameEnv) :
    Result GameEnv := do
  let (playerIdx, objMgr) ← env.world.objMgr.addPlayer
  match objMgr.getPlayer playerIdx with
  | none => refuse codec received connData (withObjMgr env objMgr)
  | some player =>
      let objMgr := objMgr.modifyPlayer player (fun p => { p with connFd := connData.connFd })
      handle codec .cs received (some { connData with playerIdx := playerIdx })
        (withObjMgr env objMgr)

/-! ## CONN_STOP -/

/-- `CreateLogic(LOGIC_UPDATE_PLAYER, 5)` and `Proc`; a bad id is only logged. -/
def updatePlayer (playerIdx : Int) (env : GameEnv) : Result GameEnv :=
  match env.world.objMgr.getPlayer playerIdx with
  | none => .ok env
  | some _ => do
      let types := logicTypes codec
      let (logicId, logicModule) ←
        env.logicModule.createLogic types env.now env.raw MsgModule.logicUpdatePlayer 5
      let (logicModule, world) ←
        logicModule.proc types logicId (.playerIdx playerIdx) env.world
      .ok { env with logicModule := logicModule, world := world }

/-- `Run`, at a `CONN_STOP`: the player is saved and deleted. -/
def connStop (connData : ConnData) (env : GameEnv) : Result GameEnv := do
  let env ← updatePlayer codec connData.playerIdx env
  let objMgr ← env.world.objMgr.delPlayer connData.playerIdx
  .ok (withObjMgr env objMgr)

/-! ## The steps -/

/-- `Run`, on a message of connsvr, by its command. -/
def dispatch (received : Result (Option Bytes)) (connData : ConnData) (env : GameEnv) :
    Result GameEnv :=
  match connData.connCmd with
  | .connStart => connStart codec received connData env
  | .connProc => handle codec .cs received (some connData) env
  | .connStop => connStop codec connData env

/-- The first half of a pass of `MsgModule::Run`, on the message `msg` of connsvr. -/
def onConnsvr (s : GameSvr) (msg : ConnMsg) (ret : GameRet) : Result (GameSvr × GameOut) := do
  let received := Link.connsvrToGamesvr.receive s.buf
    (Link.connsvrToGamesvr.wire msg.connData msg.payload)
  let env ← dispatch codec received.2 msg.connData (s.enter ret)
  .ok (leave received.1 env)

/-- The second half of a pass of `MsgModule::Run`, on the message `msg` of datasvr. -/
def onDatasvr (s : GameSvr) (msg : Bytes) (ret : GameRet) : Result (GameSvr × GameOut) := do
  let received := Link.datasvrToGamesvr.receive s.buf msg
  let env ← handle codec .ss received.2 none (s.enter ret)
  .ok (leave received.1 env)

/-- `LogicModule::Update`. -/
def onUpdate (s : GameSvr) (now : TimeValue) : Result (Option GameSvr) := do
  match ← s.logicModule.update now with
  | none => .ok none
  | some logicModule => .ok (some { s with logicModule := logicModule })

/-! ## What a step does -/

open ObjMgrModule (SamePlayers PlayerAdded)

/-- What a message of connsvr does to the players in use, and whom gamesvr sends to. -/
inductive ConnsvrStep (m : ObjMgrModule) (msg : ConnMsg) (m' : ObjMgrModule)
    (out : List ConnMsg) : Prop
  /-- a player is added, in the first free unit -/
  | started (k : Nat) : msg.connData.connCmd = .connStart → m.playerPool.freeMemPos = k →
      ¬ m.Live k → (∀ j, m'.Live j ↔ m.Live j ∨ j = k) →
      (m'.player k).connFd = msg.connData.connFd →
      (∀ j, j ≠ k → (m'.player j).connFd = (m.player j).connFd) →
      (∀ o ∈ out, Addressed m' o) → ConnsvrStep m msg m' out
  /-- the players stay -/
  | processed : msg.connData.connCmd = .connProc → SamePlayers m m' →
      (∀ o ∈ out, Addressed m o) → ConnsvrStep m msg m' out
  /-- the player of the message is deleted -/
  | stopped : msg.connData.connCmd = .connStop →
      (∀ j, m'.Live j ↔ m.Live j ∧ msg.connData.playerIdx ≠ j) →
      (∀ j, (m'.player j).connFd = (m.player j).connFd) →
      (∀ o ∈ out, Addressed m o) → ConnsvrStep m msg m' out

section
variable {codec : Codec} {s s' : GameSvr} {ret : GameRet} {out : GameOut} {env env' : GameEnv}
  {received : Result (Option Bytes)} {data : Option ConnData} {T : PkgClass}

theorem proc_acts {m m' : LogicModule LogicBody} {logicId : Int} {args : StepArgs}
    {w w' : GameWorld} (h : m.proc (logicTypes codec) logicId args w = .ok (m', w')) :
    ∃ reqs uids, Acts w w' reqs uids := by
  rcases LogicModule.proc_cases h with ⟨-, rfl, -⟩ | ⟨d, logic, ret, d', -, htype, hstep, -⟩
  · exact ⟨[], [], .refl w'⟩
  · obtain ⟨reqs, uids, hs⟩ := logicTypes_acts htype hstep
    exact ⟨reqs, uids, hs.acts⟩

/-- **Any message handed to `HandleRequest`** ends in a call of `Proc`, or does nothing. -/
theorem handle_proc (h : handle codec T received data env = .ok env') :
    env'.world = env.world ∨ ∃ (m m' : LogicModule LogicBody) (logicId : Int) (args : StepArgs),
      m.proc (logicTypes codec) logicId args env.world = .ok (m', env'.world) := by
  obtain ⟨pkg, -, h⟩ := bind_eq_ok.mp h
  cases pkg with
  | none =>
      cases h
      exact Or.inl rfl
  | some pkg =>
      obtain ⟨⟨r, env₁⟩, hreq, h⟩ := bind_eq_ok.mp h
      cases h
      cases T with
      | cs =>
          rcases MsgModule.handleRequest_cs hreq with rfl | ⟨msg, r', -, -, hstart⟩
          · exact Or.inl rfl
          · obtain ⟨⟨logicId, m⟩, -, hstart⟩ := bind_eq_ok.mp hstart
            dsimp only at hstart
            split at hstart
            · cases hstart
              exact Or.inl rfl
            · cases data with
              | none => cases hstart
              | some connData =>
                  obtain ⟨⟨m₁, w₁⟩, hproc, hstart⟩ := bind_eq_ok.mp hstart
                  cases hstart
                  exact Or.inr ⟨_, _, _, _, hproc⟩
      | ss =>
          rcases MsgModule.handleRequest_ss hreq with rfl | ⟨msg, r', -, hresume⟩
          · exact Or.inl rfl
          · obtain ⟨⟨m₁, w₁⟩, hproc, hresume⟩ := bind_eq_ok.mp hresume
            cases hresume
            exact Or.inr ⟨_, _, _, _, hproc⟩

theorem updatePlayer_proc {playerIdx : Int} (h : updatePlayer codec playerIdx env = .ok env') :
    env'.world = env.world ∨ ∃ (m m' : LogicModule LogicBody) (logicId : Int) (args : StepArgs),
      m.proc (logicTypes codec) logicId args env.world = .ok (m', env'.world) := by
  unfold updatePlayer at h
  split at h
  · cases h
    exact Or.inl rfl
  · obtain ⟨⟨logicId, m⟩, -, h⟩ := bind_eq_ok.mp h
    obtain ⟨⟨m₁, w₁⟩, hproc, h⟩ := bind_eq_ok.mp h
    cases h
    exact Or.inr ⟨_, _, _, _, hproc⟩

theorem handle_acts (h : handle codec T received data env = .ok env') :
    ∃ reqs uids, Acts env.world env'.world reqs uids := by
  rcases handle_proc h with heq | ⟨m, m', logicId, args, hproc⟩
  · exact ⟨[], [], heq ▸ .refl _⟩
  · exact proc_acts hproc

theorem updatePlayer_acts {playerIdx : Int} (h : updatePlayer codec playerIdx env = .ok env') :
    ∃ reqs uids, Acts env.world env'.world reqs uids := by
  rcases updatePlayer_proc h with heq | ⟨m, m', logicId, args, hproc⟩
  · exact ⟨[], [], heq ▸ .refl _⟩
  · exact proc_acts hproc

theorem connStart_cases {connData : ConnData} (hs : env.world.objMgr.playerPool.Ok)
    (h : connStart codec received connData env = .ok env') :
    ∃ (k : Nat) (m : ObjMgrModule), PlayerAdded env.world.objMgr k connData.connFd m ∧
      handle codec .cs received (some { connData with playerIdx := k }) (withObjMgr env m) =
        .ok env' := by
  obtain ⟨⟨playerIdx, m⟩, hadd, h⟩ := bind_eq_ok.mp h
  obtain ⟨k, rfl, hfree, hnew, hok, hlive, hinit, hold, hmap, hcity⟩ :=
    ObjMgrModule.addPlayer_spec hs hadd
  have hget : m.getPlayer k = some k :=
    ObjMgrModule.getPlayer_eq_some.mpr ⟨rfl, (hlive k).mpr (Or.inr rfl)⟩
  simp only [hget] at h
  refine ⟨k, m.modifyPlayer k fun p => { p with connFd := connData.connFd },
    ⟨hfree, hnew, ?_, hlive, ?_, fun j hj => ?_, hmap, hcity⟩, h⟩
  · rw [ObjMgrModule.modifyPlayer_playerPool]
    exact hok.modify
  · rw [ObjMgrModule.modifyPlayer_self, hinit]
  · rw [ObjMgrModule.modifyPlayer_of_ne hj]
    exact hold j hj

/-- **A message of connsvr** does one of the things that `ConnsvrStep` lists. -/
theorem onConnsvr_spec {msg : ConnMsg} (hs : s.objMgr.playerPool.Ok)
    (h : s.onConnsvr codec msg ret = .ok (s', out)) :
    s'.objMgr.playerPool.Ok ∧ ConnsvrStep s.objMgr msg s'.objMgr out.toConnsvr := by
  obtain ⟨env', henv, h⟩ := bind_eq_ok.mp h
  cases h
  unfold dispatch at henv
  cases hcmd : msg.connData.connCmd with
  | connStart =>
      rw [hcmd] at henv
      obtain ⟨k, m, hadd, hhandle⟩ := connStart_cases hs henv
      obtain ⟨reqs, uids, ha⟩ := handle_acts hhandle
      refine ⟨ha.same.pool hadd.ok, .started k hcmd hadd.head hadd.fresh
        (fun j => (ha.same.live j).trans (hadd.live j))
        ((ha.same.connFd k).trans (congrArg Player.connFd hadd.new))
        (fun j hj => (ha.same.connFd j).trans (congrArg Player.connFd (hadd.others j hj)))
        (fun o ho => ?_)⟩
      exact ha.same.addressed_right (ha.sent rfl o ho)
  | connProc =>
      rw [hcmd] at henv
      obtain ⟨reqs, uids, ha⟩ := handle_acts henv
      exact ⟨ha.same.pool hs, .processed hcmd ha.same (ha.sent rfl)⟩
  | connStop =>
      rw [hcmd] at henv
      obtain ⟨env₁, hupdate, henv⟩ := bind_eq_ok.mp henv
      obtain ⟨m, hdel, henv⟩ := bind_eq_ok.mp henv
      cases henv
      obtain ⟨reqs, uids, ha⟩ := updatePlayer_acts hupdate
      obtain ⟨hok, hlive, hmem⟩ := ObjMgrModule.delPlayer_spec (ha.same.pool hs) hdel
      refine ⟨hok, .stopped hcmd (fun j => ?_) (fun j => ?_) (ha.sent rfl)⟩
      · exact (hlive j).trans (and_congr_left' (ha.same.live j))
      · show (m.playerPool.mem j).connFd = _
        rw [hmem]
        exact ha.same.connFd j

/-- **A message of datasvr** leaves the players in use as they are. -/
theorem onDatasvr_spec {msg : Bytes} (h : s.onDatasvr codec msg ret = .ok (s', out)) :
    SamePlayers s.objMgr s'.objMgr ∧ ∀ o ∈ out.toConnsvr, Addressed s.objMgr o := by
  obtain ⟨env', henv, h⟩ := bind_eq_ok.mp h
  cases h
  obtain ⟨reqs, uids, ha⟩ := handle_acts henv
  exact ⟨ha.same, ha.sent rfl⟩

theorem onUpdate_spec {now : TimeValue} (h : s.onUpdate now = .ok (some s')) :
    s'.objMgr = s.objMgr := by
  obtain ⟨r, -, h⟩ := bind_eq_ok.mp h
  cases r with
  | none => cases h
  | some m =>
      cases h
      rfl

end

end GameSvr

end PlayFrame
