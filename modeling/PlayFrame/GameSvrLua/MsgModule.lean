/-
# `PlayFrame.GameSvrLua.MsgModule` — the Lua gamesvr, message by message

`gamesvr_lua_coroutine/msg_module/msg_module.{h,cpp}`.  A request of a client creates a task
and resumes it with the arguments of its function; an answer of datasvr resumes the task whose
id is its sequence number, whatever the task waits for.

The bytes of a message are given as `zmq_recv` has left them in the buffer, and so are the
answers of the system to the calls of a step.
-/
import PlayFrame.Frame.MsgModuleBase
import PlayFrame.GameSvr.MsgModule
import PlayFrame.GameSvrLua.Scripts

namespace PlayFrame

/-- The command of the request that a function is for. -/
def LuaFunc.reqCmd : LuaFunc → Int
  | .quickReg => ProtoCs.quickRegReqFieldNumber
  | .normalReg => ProtoCs.normalRegReqFieldNumber
  | .login => ProtoCs.loginReqFieldNumber

/-- The command of the reply. -/
def LuaFunc.resCmd : LuaFunc → Int
  | .quickReg => ProtoCs.quickRegResFieldNumber
  | .normalReg => ProtoCs.normalRegResFieldNumber
  | .login => ProtoCs.loginResFieldNumber

/-- The Lua gamesvr: its tasks, and what the scripts work on.  `now` is the second that
`time(NULL)` answers, and `raw` is what is in the memory of a local variable. -/
structure LuaGameSvr where
  engine : LuaEngine Coroutine
  world : GameWorld
  now : Int
  raw : UInt64

namespace LuaGameSvr

/-- The state after the modules are initialised in the second `now`. -/
def init (playerPoolSize cityPoolSize : Nat) (rawPlayer : Nat → Player) (rawCity : Nat → City)
    (now : Int) : LuaGameSvr where
  engine := LuaEngine.init now
  world :=
    { objMgr := ObjMgrModule.init playerPoolSize cityPoolSize rawPlayer rawCity
      toConnsvr := []
      toDatasvr := []
      uids := []
      zmq := fun _ => true
      rdtsc := 0
      rand := fun _ => 0 }
  now := now
  raw := 0

/-- What a step is given: the time, whether its `zmq_send` calls succeed, what the generators
draw, and what is in memory. -/
structure SysRet where
  now : Int
  zmq : Nat → Bool
  rdtsc : UInt64
  rand : Nat → Nat
  raw : UInt64

/-- A step begins. -/
def enter (s : LuaGameSvr) (ret : SysRet) : LuaGameSvr :=
  { s with
    world := { s.world with zmq := ret.zmq, rdtsc := ret.rdtsc, rand := ret.rand }
    now := ret.now
    raw := ret.raw }

/-- The objects are changed. -/
def withObjMgr (s : LuaGameSvr) (objMgr : ObjMgrModule) : LuaGameSvr :=
  { s with world := { s.world with objMgr := objMgr } }

variable (codec : Codec)

/-- `lua_engine_module->Resume(task_id, ...)`, where `task_id` is a `uint64_t`. -/
def resume (taskId : UInt64) (args : LuaArgs) (s : LuaGameSvr) : Result LuaGameSvr := do
  let (engine, world) ← s.engine.resume (scripts codec) (logicIdOfSeq taskId) args s.world
  .ok { s with engine := engine, world := world }

/-- `CreateTask(lua_func, 10)` and `Resume`, as the three handlers of clients' requests do. -/
def startTask (func : LuaFunc) (args : UInt64 → LuaArgs) (s : LuaGameSvr) :
    Result (Int × LuaGameSvr) := do
  let (id, engine) ← s.engine.createTask (scripts codec) func s.now 10
  let s := { s with engine := engine }
  let taskId := seqOfLogicId id
  if taskId = 0 then .ok (-1, s)
  else do
    let s ← s.resume codec taskId (args taskId)
    .ok (0, s)

/-- `std::string::c_str`. -/
def cStr (s : Bytes) : Bytes := s.takeWhile (· ≠ 0)

/-! ## Requests of clients -/

/-- The arguments of `quick_reg` for a request. -/
def quickRegArgs (msg : ProtoCs.Msg) (connData : ConnData) (taskId : UInt64) : QuickRegArgs where
  taskId := taskId
  seq := msg.head.seq
  playerIdx := connData.playerIdx
  resCmd := ProtoCs.quickRegResFieldNumber

/-- `MsgModule::OnClientQuickRegReq`. -/
def onClientQuickRegReq (msg : ProtoCs.Msg) (arg : Option ConnData) (s : LuaGameSvr) :
    Result (Int × LuaGameSvr) :=
  match arg with
  | none => .error .badPointer
  | some connData =>
      s.startTask codec .quickReg (fun taskId => .quickReg (quickRegArgs msg connData taskId))

/-- The arguments of `normal_reg` for a request. -/
def normalRegArgs (msg : ProtoCs.Msg) (connData : ConnData) (taskId : UInt64) :
    NormalRegArgs where
  taskId := taskId
  account := cStr (msg.normalRegReq.getD {}).account
  password := cStr (msg.normalRegReq.getD {}).password
  seq := msg.head.seq
  playerIdx := connData.playerIdx
  resCmd := ProtoCs.normalRegResFieldNumber

/-- `MsgModule::OnClientNormalRegReq`. -/
def onClientNormalRegReq (msg : ProtoCs.Msg) (arg : Option ConnData) (s : LuaGameSvr) :
    Result (Int × LuaGameSvr) :=
  match arg with
  | none => .error .badPointer
  | some connData =>
      s.startTask codec .normalReg (fun taskId => .normalReg (normalRegArgs msg connData taskId))

/-- The uid that `OnClientLoginReq` makes of an account. -/
def accountUid (raw : UInt64) (account : Bytes) : UInt64 :=
  if Utils.checkAccount account = 0 then Utils.fnv64aHash account
  else Utils.toNumber raw account

/-- The arguments of `login` for a request. -/
def loginArgs (raw : UInt64) (msg : ProtoCs.Msg) (connData : ConnData) (taskId : UInt64) :
    LoginArgs where
  taskId := taskId
  uid := accountUid raw (msg.loginReq.getD {}).account
  passwordHash := Utils.fnv64aHash (msg.loginReq.getD {}).password
  seq := msg.head.seq
  playerIdx := connData.playerIdx
  resCmd := ProtoCs.loginResFieldNumber

/-- `MsgModule::OnClientLoginReq`. -/
def onClientLoginReq (msg : ProtoCs.Msg) (arg : Option ConnData) (s : LuaGameSvr) :
    Result (Int × LuaGameSvr) :=
  match arg with
  | none => .error .badPointer
  | some connData =>
      s.startTask codec .login (fun taskId => .login (loginArgs s.raw msg connData taskId))

/-! ## Answers of datasvr -/

/-- `MsgModule::OnDatasvrAccountRegRes`. -/
def onDatasvrAccountRegRes (msg : ProtoSs.Msg) (_arg : Option ConnData) (s : LuaGameSvr) :
    Result (Int × LuaGameSvr) := do
  let s ← s.resume codec msg.head.seq (.flag msg.head.ret)
  .ok (0, s)

/-- `CHECK_SIG_OK`. -/
def checkSigOk : Int := 0

/-- `MsgModule::OnDatasvrAccountVerifyRes`.  The global that it sets is not read. -/
def onDatasvrAccountVerifyRes (msg : ProtoSs.Msg) (_arg : Option ConnData) (s : LuaGameSvr) :
    Result (Int × LuaGameSvr) := do
  let s ← s.resume codec msg.head.seq (.flag checkSigOk)
  .ok (0, s)

/-- What `OnDatasvrGetPlayerDataRes` does with the data: the pointer to the player is not
tested, and the loop over the cities is that of `LogicLogin::OnStep2`. -/
def loadPlayer (msg : ProtoSs.Msg) (w : GameWorld) : Result GameWorld := do
  let playerData := codec.parsePlayerData (msg.getPlayerDataRes.getD {}).playerData
  let player ← GameWorld.deref (w.objMgr.getPlayer msg.head.playerIdx)
  let w := Player.setPlayerByDb playerData.roleInfo player w
  LogicLogin.loadCities msg.head.playerIdx playerData.cityList w

/-- `MsgModule::OnDatasvrGetPlayerDataRes`. -/
def onDatasvrGetPlayerDataRes (msg : ProtoSs.Msg) (_arg : Option ConnData) (s : LuaGameSvr) :
    Result (Int × LuaGameSvr) :=
  if msg.head.ret = 0 then do
    let world ← loadPlayer codec msg s.world
    let s ← { s with world := world }.resume codec msg.head.seq (.flag 0)
    .ok (0, s)
  else do
    let s ← s.resume codec msg.head.seq (.flag 1)
    .ok (0, s)

/-- `MsgModule::OnDatasvrSetPlayerDataRes`. -/
def onDatasvrSetPlayerDataRes (msg : ProtoSs.Msg) (_arg : Option ConnData) (s : LuaGameSvr) :
    Result (Int × LuaGameSvr) := do
  let s ← s.resume codec msg.head.seq (.flag msg.head.ret)
  .ok (0, s)

/-! ## The table -/

/-- The `REGISTER_MSG` lines of `MsgModule::ModuleInit`, in order. -/
def registrations : List (Int × MsgWrapper Pkg (Option ConnData) LuaGameSvr) :=
  [(ProtoCs.quickRegReqFieldNumber, ⟨.cs, onClientQuickRegReq codec⟩),
   (ProtoCs.normalRegReqFieldNumber, ⟨.cs, onClientNormalRegReq codec⟩),
   (ProtoCs.loginReqFieldNumber, ⟨.cs, onClientLoginReq codec⟩),
   (ProtoSs.accountRegResFieldNumber, ⟨.ss, onDatasvrAccountRegRes codec⟩),
   (ProtoSs.accountVerifyResFieldNumber, ⟨.ss, onDatasvrAccountVerifyRes codec⟩),
   (ProtoSs.getPlayerDataResFieldNumber, ⟨.ss, onDatasvrGetPlayerDataRes codec⟩),
   (ProtoSs.setPlayerDataResFieldNumber, ⟨.ss, onDatasvrSetPlayerDataRes codec⟩)]

/-- `MsgModule::ModuleInit`: the table it leaves. -/
def moduleInit : MsgWrapperMap Pkg (Option ConnData) LuaGameSvr :=
  (registrations codec).foldl (fun table r => MsgModuleBase.register table r.1 r.2) ∅

/-- `HandleRequest<T>`, on the bytes of a message. -/
def handle (T : PkgClass) (pkg : Bytes) (data : Option ConnData) (s : LuaGameSvr) :
    Result LuaGameSvr := do
  let (_, s) ← MsgModuleBase.handleRequest headCmd codec.parseFromArray (moduleInit codec) T pkg
    data s
  .ok s

/-! ## `MsgModule::Run` -/

/-- What `Run` does when `GetPlayer` does not find the new player. -/
def refuse (pkg : Bytes) (connData : ConnData) (s : LuaGameSvr) : LuaGameSvr :=
  match codec.parseFromArray .cs pkg with
  | none => s
  | some msg => { s with
      world := (s.world.sendToConnsvr codec (GameSvr.fullRes msg) .connStop connData.connFd 0).2 }

/-- `Run`, at a `CONN_START`: a player is added for the connection. -/
def connStart (pkg : Bytes) (connData : ConnData) (s : LuaGameSvr) : Result LuaGameSvr := do
  let (playerIdx, objMgr) ← s.world.objMgr.addPlayer
  match objMgr.getPlayer playerIdx with
  | none => .ok ((s.withObjMgr objMgr).refuse codec pkg connData)
  | some player =>
      let objMgr := objMgr.modifyPlayer player (fun p => { p with connFd := connData.connFd })
      (s.withObjMgr objMgr).handle codec .cs pkg (some { connData with playerIdx := playerIdx })

/-- `player->DoUpdatePlayerData()`, with the sequence number 0, if there is the player. -/
def savePlayer (playerIdx : Int) (w : GameWorld) : Result GameWorld :=
  match w.objMgr.getPlayer playerIdx with
  | none => .ok w
  | some player => Player.doUpdatePlayerData codec 0 player w

/-- `Run`, at a `CONN_STOP`: the player is saved and deleted. -/
def connStop (connData : ConnData) (s : LuaGameSvr) : Result LuaGameSvr := do
  let world ← savePlayer codec connData.playerIdx s.world
  let objMgr ← world.objMgr.delPlayer connData.playerIdx
  .ok ({ s with world := world }.withObjMgr objMgr)

/-- `Run`, on a message of connsvr, by its command. -/
def dispatch (pkg : Bytes) (connData : ConnData) (s : LuaGameSvr) : Result LuaGameSvr :=
  match connData.connCmd with
  | .connStart => s.connStart codec pkg connData
  | .connProc => s.handle codec .cs pkg (some connData)
  | .connStop => s.connStop codec connData

/-- `LuaEngine::OnTimer`, as `LuaEngineModule::Run` has it executed for a timer. -/
def onTimer (taskId : Int) (s : LuaGameSvr) : Result LuaGameSvr := do
  let (_, engine) ← s.engine.onTimer taskId
  .ok { s with engine := engine }

/-! ## What the handlers do -/

/-- The arguments that a task is resumed with at first. -/
def requestArgs (raw : UInt64) (msg : ProtoCs.Msg) (connData : ConnData) (taskId : UInt64) :
    LuaFunc → LuaArgs
  | .quickReg => .quickReg (quickRegArgs msg connData taskId)
  | .normalReg => .normalReg (normalRegArgs msg connData taskId)
  | .login => .login (loginArgs raw msg connData taskId)

/-- The flag that the answer of datasvr resumes a task with. -/
def answerFlag (msg : ProtoSs.Msg) : Int :=
  if msg.head.cmd = ProtoSs.accountVerifyResFieldNumber then checkSigOk
  else if msg.head.cmd = ProtoSs.getPlayerDataResFieldNumber then
    if msg.head.ret = 0 then 0 else 1
  else msg.head.ret

/-- What the handler of an answer does before that. -/
def loadAnswer (codec : Codec) (msg : ProtoSs.Msg) (w : GameWorld) : Result GameWorld :=
  if msg.head.cmd = ProtoSs.getPlayerDataResFieldNumber ∧ msg.head.ret = 0 then
    loadPlayer codec msg w
  else .ok w

section
variable {codec : Codec} {s s' : LuaGameSvr} {pkg : Bytes} {data : Option ConnData}
  {func : LuaFunc} {taskId raw : UInt64} {ret : Int} {msg : ProtoCs.Msg} {connData : ConnData}

/-- **A request of a client** starts a task of the function that its command is for. -/
theorem handle_request (h : s.handle codec .cs pkg data = .ok s') :
    s' = s ∨ ∃ msg connData func ret, codec.parseFromArray .cs pkg = some msg ∧
      msg.head.cmd = func.reqCmd ∧
      s.startTask codec func (fun taskId => requestArgs s.raw msg connData taskId func) =
        .ok (ret, s') := by
  obtain ⟨⟨r, s₁⟩, hrequest, h⟩ := bind_eq_ok.mp h
  cases h
  rcases MsgModuleBase.handleRequest_cases hrequest with
    ⟨rfl, -⟩ | ⟨msg, handler, ret, hparse, hl, hfunc⟩
  · exact Or.inl rfl
  refine Or.inr ⟨msg, ?_⟩
  rcases MsgModuleBase.lookup_registered hl with hmem | hl
  · simp only [registrations, List.mem_cons, List.not_mem_nil, or_false, Prod.mk.injEq] at hmem
    rcases hmem with ⟨hcmd, hfun⟩ | ⟨hcmd, hfun⟩ | ⟨hcmd, hfun⟩ | ⟨-, hfun⟩ | ⟨-, hfun⟩ |
      ⟨-, hfun⟩ | ⟨-, hfun⟩
    · cases hfun
      cases data with
      | none => cases hfunc
      | some connData => exact ⟨connData, .quickReg, ret, hparse, hcmd, hfunc⟩
    · cases hfun
      cases data with
      | none => cases hfunc
      | some connData => exact ⟨connData, .normalReg, ret, hparse, hcmd, hfunc⟩
    · cases hfun
      cases data with
      | none => cases hfunc
      | some connData => exact ⟨connData, .login, ret, hparse, hcmd, hfunc⟩
    all_goals cases hfun
  · rw [Finmap.lookup_empty] at hl
    cases hl

theorem resume_of_handler {seq : UInt64} {flag r : Int}
    (h : (do let s ← s.resume codec seq (.flag flag); .ok (0, s)) = (.ok (r, s') : Result _)) :
    s.resume codec seq (.flag flag) = .ok s' := by
  obtain ⟨s₁, hresume, h⟩ := bind_eq_ok.mp h
  cases h
  exact hresume

theorem handle_answer (h : s.handle codec .ss pkg data = .ok s') :
    s' = s ∨ ∃ msg world, codec.parseFromArray .ss pkg = some msg ∧
      loadAnswer codec msg s.world = .ok world ∧
      { s with world := world }.resume codec msg.head.seq (.flag (answerFlag msg)) = .ok s' := by
  obtain ⟨⟨r, s₁⟩, hrequest, h⟩ := bind_eq_ok.mp h
  cases h
  rcases MsgModuleBase.handleRequest_cases hrequest with
    ⟨rfl, -⟩ | ⟨msg, handler, ret, hparse, hl, hfunc⟩
  · exact Or.inl rfl
  refine Or.inr ⟨msg, ?_⟩
  -- a handler that does nothing but resume the task
  have hresumes : ∀ {flag : Int}, answerFlag msg = flag →
      ¬ (msg.head.cmd = ProtoSs.getPlayerDataResFieldNumber ∧ msg.head.ret = 0) →
      (do let s ← s.resume codec msg.head.seq (.flag flag); .ok (0, s)) =
        (.ok (ret, s') : Result _) →
      ∃ world, codec.parseFromArray .ss pkg = some msg ∧
        loadAnswer codec msg s.world = .ok world ∧
        { s with world := world }.resume codec msg.head.seq (.flag (answerFlag msg)) = .ok s' := by
    rintro flag rfl hload hfunc
    exact ⟨s.world, hparse, if_neg hload, resume_of_handler hfunc⟩
  rcases MsgModuleBase.lookup_registered hl with hmem | hl
  · simp only [registrations, List.mem_cons, List.not_mem_nil, or_false, Prod.mk.injEq] at hmem
    rcases hmem with ⟨-, hfun⟩ | ⟨-, hfun⟩ | ⟨-, hfun⟩ | ⟨hcmd, hfun⟩ | ⟨hcmd, hfun⟩ |
      ⟨hcmd, hfun⟩ | ⟨hcmd, hfun⟩
    iterate 3 cases hfun
    all_goals
      cases hfun
      replace hcmd : msg.head.cmd = _ := hcmd
    · refine hresumes ?_ (fun hget => ?_) hfunc
      · rw [answerFlag, hcmd]
        rfl
      · exact absurd (hcmd.symm.trans hget.1) (by decide)
    · refine hresumes (if_pos hcmd) (fun hget => ?_) hfunc
      exact absurd (hcmd.symm.trans hget.1) (by decide)
    · have hflag : answerFlag msg = if msg.head.ret = 0 then 0 else 1 := by
        rw [answerFlag, hcmd]
        rfl
      rw [onDatasvrGetPlayerDataRes] at hfunc
      split at hfunc
      · next hret =>
        obtain ⟨world, hload, hfunc⟩ := bind_eq_ok.mp hfunc
        refine ⟨world, hparse, (if_pos ⟨hcmd, hret⟩).trans hload, ?_⟩
        rw [hflag, if_pos hret]
        exact resume_of_handler hfunc
      · next hret => exact hresumes (hflag.trans (if_neg hret)) (fun hget => hret hget.2) hfunc
    · refine hresumes ?_ (fun hget => ?_) hfunc
      · rw [answerFlag, hcmd]
        rfl
      · exact absurd (hcmd.symm.trans hget.1) (by decide)
  · rw [Finmap.lookup_empty] at hl
    cases hl

/-! ## What becomes of the tasks -/

/-- The coroutine of a task. -/
def task (s : LuaGameSvr) (taskId : Int) : Option Coroutine := s.engine.task taskId

theorem resume_cases {args : LuaArgs} (h : s.resume codec taskId args = .ok s') :
    (s'.world = s.world ∧ (∀ id, s'.task id = s.task id) ∧
      (0 < logicIdOfSeq taskId → s.task (logicIdOfSeq taskId) = none)) ∨
      ∃ co ret, s.task (logicIdOfSeq taskId) = some co ∧
        (scripts codec).resume co args s.world = .ok (ret, s'.world) ∧
        ∀ id, s'.task id = if id = logicIdOfSeq taskId then ret.next else s.task id := by
  obtain ⟨⟨engine, world⟩, hresume, h⟩ := bind_eq_ok.mp h
  cases h
  rcases LuaEngine.resume_cases hresume with ⟨hw, htask, hnone⟩ | ⟨co, ret, -, hco, hrun, htask⟩
  · exact Or.inl ⟨hw, htask, hnone⟩
  · exact Or.inr ⟨co, ret, hco, hrun, htask⟩

/-- A coroutine that has not been started has an id that is not the number of any answer. -/
def Unstarted (s : LuaGameSvr) : Prop :=
  ∀ id func, s.task id = some (.start func) → ∀ seq, logicIdOfSeq seq ≠ id

/-- What becomes of the task `id` that is created for a request.  It runs at once, unless its
id does not survive the conversion to a `uint64_t`. -/
inductive Started (codec : Codec) (s : LuaGameSvr) (func : LuaFunc) (args : UInt64 → LuaArgs)
    (id : Int) (s' : LuaGameSvr) : Prop
  | refused : s'.world = s.world → s'.task id = s.task id → Started codec s func args id s'
  | unstarted : 0 < id → s'.world = s.world → s'.task id = some (.start func) →
      (∀ seq, logicIdOfSeq seq ≠ id) → Started codec s func args id s'
  | run (ret : LuaRet Coroutine) : 0 < id → logicIdOfSeq (seqOfLogicId id) = id →
      (∃ engine, s.engine.createTask (scripts codec) func s.now 10 = .ok (id, engine)) →
      (scripts codec).resume (.start func) (args (seqOfLogicId id)) s.world =
        .ok (ret, s'.world) →
      s'.task id = ret.next → Started codec s func args id s'

theorem resume_start {co : Coroutine} {w w' : GameWorld} {lret : LuaRet Coroutine}
    (h : (scripts codec).resume co (requestArgs raw msg connData taskId func) w = .ok (lret, w')) :
    ∃ func, co = .start func := by
  cases co with
  | start func => exact ⟨func, rfl⟩
  | quickReg args player i uid password =>
      cases func with
      | quickReg | normalReg | login => cases h
  | normalReg args player =>
      cases func with
      | quickReg | normalReg | login => cases h
  | login args point request =>
      cases func with
      | quickReg | normalReg | login => cases h

theorem resume_started
    (h : s.resume codec taskId (requestArgs raw msg connData taskId func) = .ok s')
    (hnot : ∀ func, s.task (logicIdOfSeq taskId) ≠ some (.start func)) :
    s'.world = s.world ∧ ∀ j, s'.task j = s.task j := by
  rcases resume_cases h with ⟨hworld, htask, -⟩ | ⟨co, lret, hco, hrun, -⟩
  · exact ⟨hworld, htask⟩
  · obtain ⟨func', rfl⟩ := resume_start hrun
    exact absurd hco (hnot func')

theorem startTask_cases (hs : s.Unstarted)
    (h : s.startTask codec func (fun taskId => requestArgs raw msg connData taskId func) =
      .ok (ret, s')) :
    ∃ id, (∀ j, j ≠ id → s'.task j = s.task j) ∧
      Started codec s func (fun taskId => requestArgs raw msg connData taskId func) id s' := by
  obtain ⟨⟨id, engine⟩, hcreate, h⟩ := bind_eq_ok.mp h
  dsimp only at h
  rcases LuaEngine.createTask_cases rfl hcreate with ⟨rfl, htask⟩ | ⟨hpos, htask⟩
  · -- there is no timer, and -1 is passed to `Resume`
    obtain ⟨s₁, hresume, h⟩ := bind_eq_ok.mp h
    cases h
    obtain ⟨hworld, htask₁⟩ := resume_started hresume (fun func' hstart => by
      rw [show task { s with engine := engine } _ = _ from htask _] at hstart
      exact hs _ func' hstart _ rfl)
    have hsame : ∀ j, s'.task j = s.task j := fun j => (htask₁ j).trans (htask j)
    exact ⟨-1, fun j _ => hsame j, .refused hworld (hsame (-1))⟩
  · by_cases hround : logicIdOfSeq (seqOfLogicId id) = id
    · have hne : seqOfLogicId id ≠ 0 := by
        intro hzero
        rw [hzero] at hround
        rw [← hround] at hpos
        exact absurd hpos (by decide)
      rw [if_neg hne] at h
      obtain ⟨s₁, hresume, h⟩ := bind_eq_ok.mp h
      cases h
      have hself : task { s with engine := engine } (logicIdOfSeq (seqOfLogicId id)) =
          some (.start func) := by
        rw [hround]
        exact (htask id).trans (if_pos rfl)
      rcases resume_cases hresume with ⟨-, -, hnone⟩ | ⟨co, lret, hco, hrun, htask₁⟩
      · rw [hround] at hnone hself
        rw [hnone hpos] at hself
        cases hself
      · rw [hself] at hco
        cases hco
        rw [hround] at htask₁
        refine ⟨id, fun j hj => ?_, .run lret hpos hround ⟨engine, hcreate⟩ hrun ?_⟩
        · rw [htask₁, if_neg hj]
          exact (htask j).trans (if_neg hj)
        · rw [htask₁, if_pos rfl]
    · -- no number is converted to the id
      have hnumber : ∀ seq, logicIdOfSeq seq ≠ id := by
        rintro seq rfl
        rw [seqOfLogicId_logicIdOfSeq] at hround
        exact hround rfl
      have hleft : ∀ s₁ : LuaGameSvr, s₁.world = s.world → (∀ j, s₁.task j = engine.task j) →
          ∃ id, (∀ j, j ≠ id → s₁.task j = s.task j) ∧ Started codec s func
            (fun taskId => requestArgs raw msg connData taskId func) id s₁ := by
        intro s₁ hworld htask₁
        exact ⟨id, fun j hj => (htask₁ j).trans ((htask j).trans (if_neg hj)),
          .unstarted hpos hworld ((htask₁ id).trans ((htask id).trans (if_pos rfl))) hnumber⟩
      split at h
      · cases h
        exact hleft _ rfl (fun _ => rfl)
      · obtain ⟨s₁, hresume, h⟩ := bind_eq_ok.mp h
        cases h
        obtain ⟨hworld, htask₁⟩ := resume_started hresume (fun func' hstart => by
          rw [show task { s with engine := engine } _ = _ from htask _,
            if_neg (hnumber _)] at hstart
          exact hs _ func' hstart _ rfl)
        exact hleft _ hworld htask₁

end

end LuaGameSvr

end PlayFrame
