/-
# `PlayFrame.GameSvrLua.Steps` — the steps of the Lua gamesvr, by task

The Lua gamesvr with its two peers: messages of connsvr come at any time, timers run out at
any time, and datasvr answers a request once or never, in any order, with the number and the
player of the request and any result.  A request is known by its number in the log
`toDatasvr`; `answered` are the numbers of those that have been answered.

Whatever comes in, a step starts one task, resumes one, closes one or concerns none.  `Moves`
says so, with what the step sends; the results about runs of the Lua gamesvr go by its cases.
-/
import PlayFrame.GameSvrLua.Tasks

namespace PlayFrame

/-- The Lua gamesvr, and the requests that datasvr has answered. -/
structure LuaBackend where
  game : LuaGameSvr
  answered : List Nat

namespace LuaBackend

open LuaGameSvr (SysRet)

/-- What happens next. -/
inductive Event where
  /-- `MsgModule::Run` takes a message of connsvr -/
  | connsvr (connData : ConnData) (pkg : Bytes) (ret : SysRet)
  /-- `MsgModule::Run` takes the answer of datasvr to a request -/
  | datasvr (request : Nat) (pkg : Bytes) (ret : SysRet)
  /-- `LuaEngineModule::Run` executes the callback of a timer -/
  | timeout (taskId : Int)

/-- The requests, in the order in which they have been sent. -/
def requests (s : LuaBackend) : List ProtoSs.Msg := s.game.world.toDatasvr

/-- The calls of `set_uid`. -/
def uids (s : LuaBackend) : List (Nat × UInt64) := s.game.world.uids

/-- A request that has not been answered. -/
def Out (s : LuaBackend) (n : Nat) (req : ProtoSs.Msg) : Prop :=
  s.requests[n]? = some req ∧ n ∉ s.answered

/-- One step.  In `timeout` the callback deletes the task and its timer; that `TimerPoll` deletes
the node of the timer once more when the callback returns is not in it. -/
def step (codec : Codec) (s : LuaBackend) : Event → Result LuaBackend
  | .connsvr connData pkg ret => do
      let game ← (s.game.enter ret).dispatch codec pkg connData
      .ok { s with game := game }
  | .datasvr request pkg ret => do
      let game ← (s.game.enter ret).handle codec .ss pkg none
      .ok { game := game, answered := request :: s.answered }
  | .timeout taskId => do
      let game ← s.game.onTimer taskId
      .ok { s with game := game }

/-- datasvr answers what it has been asked. -/
def Possible (codec : Codec) (s : LuaBackend) : Event → Prop
  | .datasvr request pkg _ => ∃ req, s.Out request req ∧
      ∀ msg, codec.parseFromArray .ss pkg = some msg → Backend.Answers req msg
  | _ => True

/-- The states that a run reaches from `start` if every step of it meets a condition on the
state before it. -/
inductive Run (codec : Codec) (meets : LuaBackend → Event → Prop) (start : LuaBackend) :
    LuaBackend → Prop
  | start : Run codec meets start start
  | step {s s' : LuaBackend} (e : Event) : Run codec meets start s → s.Possible codec e →
      meets s e → s.step codec e = .ok s' → Run codec meets start s'

/-- The Lua gamesvr when it has been started. -/
def fresh (playerPoolSize cityPoolSize : Nat) (rawPlayer : Nat → Player) (rawCity : Nat → City)
    (now : Int) : LuaBackend where
  game := LuaGameSvr.init playerPoolSize cityPoolSize rawPlayer rawCity now
  answered := []

/-! ## What a step does -/

section
variable {codec : Codec}

theorem loadAnswer_does {msg : ProtoSs.Msg} {w w' : GameWorld}
    (h : LuaGameSvr.loadAnswer codec msg w = .ok w') : Does codec w w' [] [] := by
  unfold LuaGameSvr.loadAnswer at h
  split at h
  · obtain ⟨player, -, h⟩ := bind_eq_ok.mp h
    have hload := LogicLogin.loadCities_acts _ _ h
    have hset := Player.setPlayerByDb_acts (codec.parsePlayerData
      (msg.getPlayerDataRes.getD {}).playerData).roleInfo player w
    refine .quiet (fun hpool => hload.same.pool (hset.same.pool hpool)) ?_ hload.toDatasvr_eq
      (hload.uids.trans (List.append_nil _))
    dsimp only at h
    exact (LogicLogin.loadCities_toConnsvr _ h :)
  · cases h
    exact .quiet id rfl rfl rfl

end

/-- The request that an event answers. -/
def Event.answers : Event → List Nat
  | .datasvr n _ _ => [n]
  | _ => []

/-- **What a step does**, to the tasks and to what is sent. -/
inductive Moves (codec : Codec) (s : LuaBackend) : Event → LuaBackend → Prop
  /-- it concerns no task -/
  | quiet (e : Event) (s' : LuaBackend) (reqs : List ProtoSs.Msg) :
      Does codec s.game.world s'.game.world [] reqs → (∀ req ∈ reqs, req.head.seq = 0) →
      (∀ j, s'.game.task j = s.game.task j) → s'.answered = e.answers ++ s.answered →
      Moves codec s e s'
  /-- a task is closed -/
  | closed (taskId : Int) (s' : LuaBackend) : s'.game.world = s.game.world →
      (∀ j, s'.game.task j = if j = taskId ∧ 0 < taskId then none else s.game.task j) →
      s'.answered = s.answered → Moves codec s (.timeout taskId) s'
  /-- a task is created that no number leads to -/
  | created (connData : ConnData) (pkg : Bytes) (ret : SysRet) (func : LuaFunc) (id : Int)
      (s' : LuaBackend) : (∀ seq, logicIdOfSeq seq ≠ id) →
      Does codec s.game.world s'.game.world [] [] →
      (∀ j, s'.game.task j = if j = id then some (.start func) else s.game.task j) →
      s'.answered = s.answered → Moves codec s (.connsvr connData pkg ret) s'
  /-- a task starts, for the request of a client -/
  | started (connData connData' : ConnData) (pkg : Bytes) (ret : SysRet) (msg : ProtoCs.Msg)
      (func : LuaFunc) (id : Int) (w : GameWorld) (lret : LuaRet Coroutine)
      (s' : LuaBackend) : connData.connCmd ≠ .connStop →
      codec.parseFromArray .cs pkg = some msg → msg.head.cmd = func.reqCmd →
      0 < id → logicIdOfSeq (seqOfLogicId id) = id →
      (∃ engine, s.game.engine.createTask (scripts codec) func ret.now 10 = .ok (id, engine)) →
      Does codec s.game.world w [] [] →
      (∀ uid, w.objMgr.findPlayerIdxByUid uid = s.game.world.objMgr.findPlayerIdxByUid uid) →
      (scripts codec).resume (.start func)
        (LuaGameSvr.requestArgs ret.raw msg connData' (seqOfLogicId id) func) w =
          .ok (lret, s'.game.world) →
      (∀ j, s'.game.task j = if j = id then lret.next else s.game.task j) →
      s'.answered = s.answered → Moves codec s (.connsvr connData pkg ret) s'
  /-- a task is resumed by an answer -/
  | resumed (n : Nat) (pkg : Bytes) (ret : SysRet) (msg : ProtoSs.Msg) (co : Coroutine)
      (w : GameWorld) (lret : LuaRet Coroutine) (s' : LuaBackend) :
      codec.parseFromArray .ss pkg = some msg →
      s.game.task (logicIdOfSeq msg.head.seq) = some co → Does codec s.game.world w [] [] →
      (scripts codec).resume co (.flag (LuaGameSvr.answerFlag msg)) w =
        .ok (lret, s'.game.world) →
      (∀ j, s'.game.task j =
        if j = logicIdOfSeq msg.head.seq then lret.next else s.game.task j) →
      s'.answered = n :: s.answered → Moves codec s (.datasvr n pkg ret) s'

/-- **The tasks are in order**: each owes a reply and has the id of its number, but for those
that no number leads to; and so is the player pool. -/
structure Sane (s : LuaBackend) : Prop where
  pool : s.game.world.objMgr.playerPool.Ok
  tasks : ∀ id co, s.game.task id = some co →
    ((∃ func, co = .start func) ∧ ∀ seq, logicIdOfSeq seq ≠ id) ∨
      0 < id ∧ (∃ key, co.Owes key) ∧ ∃ taskId, co.Numbered taskId ∧ logicIdOfSeq taskId = id

section
variable {codec : Codec} {s s' : LuaBackend} {e : Event}

theorem Sane.unstarted (h : s.Sane) : s.game.Unstarted := by
  intro id func hstart
  rcases h.tasks id _ hstart with ⟨-, hnumber⟩ | ⟨-, ⟨key, howes⟩, -⟩
  · exact hnumber
  · cases howes

theorem Sane.resumed (h : s.Sane) {seq : UInt64} {co : Coroutine}
    (hco : s.game.task (logicIdOfSeq seq) = some co) :
    0 < logicIdOfSeq seq ∧ (∃ key, co.Owes key) ∧
      ∃ taskId, co.Numbered taskId ∧ logicIdOfSeq taskId = logicIdOfSeq seq := by
  rcases h.tasks _ co hco with ⟨-, hnumber⟩ | htask
  · exact absurd rfl (hnumber seq)
  · exact htask

theorem Sane.ne_zero (h : s.Sane) {id : Int} {co : Coroutine} (hco : s.game.task id = some co) :
    logicIdOfSeq 0 ≠ id := by
  rintro rfl
  obtain ⟨hpos, -⟩ := h.resumed hco
  exact absurd hpos (by decide)

/-- The state in which the message of a client is handled. -/
structure Entered (codec : Codec) (s : LuaBackend) (ret : SysRet) (game : LuaGameSvr) : Prop where
  engine : game.engine = s.game.engine
  now : game.now = ret.now
  raw : game.raw = ret.raw
  does : Does codec s.game.world game.world [] []
  bound : ∀ uid, game.world.objMgr.findPlayerIdxByUid uid =
    s.game.world.objMgr.findPlayerIdxByUid uid

/-- **A step of connsvr**: a message of a client is handled, or no task is concerned. -/
theorem dispatch_runs (hs : s.Sane) {ret : SysRet} {pkg : Bytes} {connData : ConnData}
    {game' : LuaGameSvr} (h : (s.game.enter ret).dispatch codec pkg connData = .ok game') :
    (∃ (game : LuaGameSvr) (data : Option ConnData), Entered codec s ret game ∧
      connData.connCmd ≠ .connStop ∧ game.handle codec .cs pkg data = .ok game') ∨
    (game'.engine = s.game.engine ∧ ∃ reqs, Does codec s.game.world game'.world [] reqs ∧
      ∀ req ∈ reqs, req.head.seq = 0) := by
  have henter : Does codec s.game.world (s.game.enter ret).world [] [] := .quiet id rfl rfl rfl
  unfold LuaGameSvr.dispatch at h
  split at h
  · next hcmd =>
    obtain ⟨⟨playerIdx, objMgr⟩, hadd, h⟩ := bind_eq_ok.mp h
    obtain ⟨k, rfl, -, -, hok, hlive, -⟩ := ObjMgrModule.addPlayer_spec hs.pool hadd
    have hplayer : objMgr.getPlayer k = some k :=
      ObjMgrModule.getPlayer_eq_some.mpr ⟨rfl, (hlive k).mpr (Or.inr rfl)⟩
    have hmap : objMgr.uidToPlayerIdxMap = s.game.world.objMgr.uidToPlayerIdxMap := by
      obtain ⟨⟨player, pool⟩, -, hadd⟩ := bind_eq_ok.mp hadd
      cases player with
      | none => cases hadd
      | some player =>
          obtain ⟨idx, -, hadd⟩ := bind_eq_ok.mp hadd
          cases hadd
          rfl
    simp only [hplayer] at h
    refine Or.inl ⟨(s.game.enter ret).withObjMgr (objMgr.modifyPlayer k
        (fun p => { p with connFd := connData.connFd })), _,
      ⟨rfl, rfl, rfl, .quiet (fun _ => ?_) rfl rfl rfl, fun uid => ?_⟩, by rw [hcmd]; decide, h⟩
    · show (objMgr.modifyPlayer k _).playerPool.Ok
      rw [ObjMgrModule.modifyPlayer_playerPool]
      exact hok.modify
    · unfold ObjMgrModule.findPlayerIdxByUid
      rw [← hmap]
      rfl
  · next hcmd =>
    exact Or.inl ⟨s.game.enter ret, _, ⟨rfl, rfl, rfl, henter, fun _ => rfl⟩,
      by rw [hcmd]; decide, h⟩
  · obtain ⟨world, hsave, h⟩ := bind_eq_ok.mp h
    obtain ⟨objMgr, hdel, h⟩ := bind_eq_ok.mp h
    cases h
    have hdeleted : Does codec world { world with objMgr := objMgr } [] [] :=
      .quiet (fun hpool => (ObjMgrModule.delPlayer_spec hpool hdel).1) rfl rfl rfl
    refine Or.inr ⟨rfl, ?_⟩
    unfold LuaGameSvr.savePlayer at hsave
    split at hsave
    · cases hsave
      exact ⟨[], henter.trans hdeleted, fun _ hreq => absurd hreq List.not_mem_nil⟩
    · obtain ⟨reqs, hdoes, hreqs⟩ := Player.doUpdatePlayerData_does hsave
      have hall := (henter.after hdoes).trans hdeleted
      rw [List.append_nil, List.append_nil] at hall
      exact ⟨reqs, hall, hreqs⟩

theorem Moves.still {w : GameWorld} (hdoes : Does codec s.game.world w [] [])
    (hworld : s'.game.world = w) (htask : ∀ j, s'.game.task j = s.game.task j)
    (hanswered : s'.answered = e.answers ++ s.answered) : Moves codec s e s' := by
  subst hworld
  exact .quiet e s' [] hdoes (fun _ hreq => absurd hreq List.not_mem_nil) htask hanswered

/-- **A message of a client** starts a task, or creates one that no number leads to, or no task
is concerned. -/
theorem Entered.moves (hs : s.Sane) {ret : SysRet} {pkg : Bytes} {connData : ConnData}
    {data : Option ConnData} {game game' : LuaGameSvr} (hentered : Entered codec s ret game)
    (hcmd : connData.connCmd ≠ .connStop) (h : game.handle codec .cs pkg data = .ok game') :
    Moves codec s (.connsvr connData pkg ret) { s with game := game' } := by
  have hdoes := hentered.does
  have htask : ∀ j, game.task j = s.game.task j :=
    fun j => congrArg (LuaEngine.task · j) hentered.engine
  rcases LuaGameSvr.handle_request h with rfl | ⟨msg, connData', func, r, hparse, hreq, hstart⟩
  · exact .still hdoes rfl htask rfl
  have hunstarted : game.Unstarted := by
    intro id func hid
    rw [htask] at hid
    exact hs.unstarted id func hid
  obtain ⟨id, hothers, hstarted⟩ := LuaGameSvr.startTask_cases hunstarted hstart
  have htasks : ∀ co : Option Coroutine, game'.task id = co →
      ∀ j, game'.task j = if j = id then co else s.game.task j := by
    intro co hself j
    split
    · next hj => rw [hj, hself]
    · next hj => rw [hothers j hj, htask]
  cases hstarted with
  | refused hworld hself =>
      refine .still hdoes hworld (fun j => Eq.trans ?_ (htask j)) rfl
      by_cases hj : j = id
      · rw [hj, hself]
      · exact hothers j hj
  | unstarted hpos hworld hself hnumber =>
      refine .created _ _ _ func id _ hnumber ?_ (htasks _ hself) rfl
      show Does codec s.game.world game'.world [] []
      rw [hworld]
      exact hdoes
  | run lret hpos hid hcreate hrun hself =>
      rw [hentered.engine, hentered.now] at hcreate
      rw [hentered.raw] at hrun
      exact .started _ connData' _ _ msg func id game.world lret _ hcmd hparse hreq hpos hid
        hcreate hdoes hentered.bound hrun (htasks _ hself) rfl

theorem answered_moves {n : Nat} {pkg : Bytes} {ret : SysRet} {game' : LuaGameSvr}
    (h : (s.game.enter ret).handle codec .ss pkg none = .ok game') :
    Moves codec s (.datasvr n pkg ret) ⟨game', n :: s.answered⟩ := by
  have henter : Does codec s.game.world (s.game.enter ret).world [] [] := .quiet id rfl rfl rfl
  rcases LuaGameSvr.handle_answer h with rfl | ⟨msg, world, hparse, hload, hresume⟩
  · exact .still henter rfl (fun _ => rfl) rfl
  have hdoes : Does codec s.game.world world [] [] := henter.after (loadAnswer_does hload)
  rcases LuaGameSvr.resume_cases hresume with ⟨hworld, htask, -⟩ | ⟨co, lret, hco, hrun, htask⟩
  · exact .still hdoes hworld htask rfl
  · exact .resumed n pkg ret msg co world lret _ hparse hco hdoes hrun htask rfl

theorem step_moves (hs : s.Sane) (h : s.step codec e = .ok s') : Moves codec s e s' := by
  cases e with
  | connsvr connData pkg ret =>
      obtain ⟨game, hdispatch, h⟩ := bind_eq_ok.mp h
      cases h
      rcases dispatch_runs hs hdispatch with
        ⟨game₁, data, hentered, hcmd, hhandle⟩ | ⟨hengine, reqs, hdoes, hreqs⟩
      · exact hentered.moves hs hcmd hhandle
      · exact .quiet _ _ reqs hdoes hreqs (fun j => congrArg (LuaEngine.task · j) hengine) rfl
  | datasvr n pkg ret =>
      obtain ⟨game, hhandle, h⟩ := bind_eq_ok.mp h
      cases h
      exact answered_moves hhandle
  | timeout taskId =>
      obtain ⟨game, htimer, h⟩ := bind_eq_ok.mp h
      cases h
      obtain ⟨⟨r, engine⟩, hclose, htimer⟩ := bind_eq_ok.mp htimer
      cases htimer
      exact .closed taskId _ rfl (LuaEngine.onTimer_task hclose) rfl

theorem Sane.goes (hs : s.Sane) {id : Int} {taskId : UInt64} {key : Int × UInt64} {w : GameWorld}
    {grants : ProtoCs.Msg → Prop} {lret : LuaRet Coroutine} {binds : List (Nat × UInt64)}
    (hpos : 0 < id) (hid : logicIdOfSeq taskId = id) (hdoes : Does codec s.game.world w [] [])
    (hruns : Runs codec key taskId grants w s'.game.world lret binds)
    (htask : ∀ j, s'.game.task j = if j = id then lret.next else s.game.task j) : s'.Sane := by
  obtain ⟨msgs, reqs, hruns', -⟩ := hruns.does
  refine ⟨hruns'.pool (hdoes.pool hs.pool), fun j co hco => ?_⟩
  rw [htask] at hco
  split at hco
  · next hj =>
    obtain ⟨howes, hnumbered⟩ := hruns.next co hco
    exact Or.inr ⟨hj ▸ hpos, ⟨key, howes⟩, taskId, hnumbered, hj ▸ hid⟩
  · exact hs.tasks j co hco

theorem Sane.moves (hs : s.Sane) (h : Moves codec s e s') : s'.Sane := by
  cases h with
  | quiet e s' reqs hdoes hreqs htask hanswered =>
      refine ⟨hdoes.pool hs.pool, fun j co hco => ?_⟩
      rw [htask] at hco
      exact hs.tasks j co hco
  | closed taskId s' hworld htask hanswered =>
      refine ⟨by rw [hworld]; exact hs.pool, fun j co hco => ?_⟩
      rw [htask] at hco
      split at hco
      · cases hco
      · exact hs.tasks j co hco
  | created connData pkg ret func id s' hnumber hdoes htask hanswered =>
      refine ⟨hdoes.pool hs.pool, fun j co hco => ?_⟩
      rw [htask] at hco
      split at hco
      · next hj =>
        cases hco
        exact Or.inl ⟨⟨func, rfl⟩, hj ▸ hnumber⟩
      · exact hs.tasks j co hco
  | started connData connData' pkg ret msg func id w lret s' hstop hparse hcmd hpos hid hcreate
      hdoes hbound hrun htask hanswered =>
      have hruns := scripts_start (fun _ => True) hrun
      exact hs.goes hpos hid hdoes hruns htask
  | resumed n pkg ret msg co w lret s' hparse hco hdoes hrun htask hanswered =>
      obtain ⟨hpos, ⟨key, howes⟩, taskId, hnumbered, hid⟩ := hs.resumed hco
      exact hs.goes hpos hid hdoes (scripts_resume howes hnumbered hrun) htask

theorem fresh_sane {playerPoolSize cityPoolSize : Nat} {rawPlayer : Nat → Player}
    {rawCity : Nat → City} {now : Int} :
    (fresh playerPoolSize cityPoolSize rawPlayer rawCity now).Sane :=
  ⟨⟨_, ShmPool.init_inv playerPoolSize rawPlayer⟩, fun _ _ hco => by cases hco⟩

end

/-! ## What is out for a task -/

/-- **What is out for a task** is left: no request more carries its number, and none that has
been answered is out again. -/
structure Leaves (s s' : LuaBackend) (id : Int) : Prop where
  requests : ∃ reqs, s'.requests = s.requests ++ reqs ∧
    ∀ req ∈ reqs, logicIdOfSeq req.head.seq ≠ id
  answered : ∀ n ∈ s.answered, n ∈ s'.answered

section
variable {s s' : LuaBackend} {id : Int} {n : Nat} {req : ProtoSs.Msg} {reqs : List ProtoSs.Msg}

theorem out_cases (hreqs : s'.requests = s.requests ++ reqs)
    (hanswered : ∀ n ∈ s.answered, n ∈ s'.answered) (h : s'.Out n req) :
    s.Out n req ∨ req ∈ reqs ∧ s.requests.length ≤ n ∧ n < s.requests.length + reqs.length := by
  obtain ⟨hget, hnot⟩ := h
  rw [hreqs] at hget
  by_cases hn : n < s.requests.length
  · rw [List.getElem?_append_left hn] at hget
    exact Or.inl ⟨hget, fun hans => hnot (hanswered n hans)⟩
  · rw [List.getElem?_append_right (Nat.not_lt.mp hn)] at hget
    have hlt := (List.getElem?_eq_some_iff.mp hget).1
    exact Or.inr ⟨List.mem_of_getElem? hget, Nat.not_lt.mp hn, by omega⟩

theorem Leaves.get (h : s.Leaves s' id) (hget : s.requests[n]? = some req) :
    s'.requests[n]? = some req := by
  obtain ⟨reqs, hreqs, -⟩ := h.requests
  rw [hreqs, List.getElem?_append_left (List.getElem?_eq_some_iff.mp hget).1]
  exact hget

theorem Leaves.out (h : s.Leaves s' id) (hout : s'.Out n req)
    (hid : logicIdOfSeq req.head.seq = id) : s.Out n req := by
  obtain ⟨reqs, hreqs, hothers⟩ := h.requests
  rcases out_cases hreqs h.answered hout with hold | ⟨hmem, -⟩
  · exact hold
  · exact absurd hid (hothers req hmem)

theorem Leaves.silent (hreqs : s'.requests = s.requests) (hanswered : s'.answered = s.answered) :
    s.Leaves s' id :=
  ⟨⟨[], by rw [hreqs, List.append_nil], fun _ hreq => absurd hreq List.not_mem_nil⟩,
    fun n hn => by rwa [hanswered]⟩

/-- No task has the number 0. -/
theorem Leaves.quiet (hs : s.Sane) {co : Coroutine} (hco : s.game.task id = some co)
    {ns : List Nat} (hreqs : s'.requests = s.requests ++ reqs)
    (hseq : ∀ req ∈ reqs, req.head.seq = 0) (hanswered : s'.answered = ns ++ s.answered) :
    s.Leaves s' id := by
  refine ⟨⟨reqs, hreqs, fun req hreq => ?_⟩, fun n hn => ?_⟩
  · rw [hseq req hreq]
    exact hs.ne_zero hco
  · rw [hanswered]
    exact List.mem_append_right ns hn

/-- A task that goes on leaves what is out for the others. -/
theorem Leaves.others {taskId : UInt64} {j : Int}
    (hid : logicIdOfSeq taskId = id) (hj : j ≠ id) (hreqs : s'.requests = s.requests ++ reqs)
    (hseq : ∀ req ∈ reqs, req.head.seq = taskId) (hanswered : ∀ n ∈ s.answered, n ∈ s'.answered) :
    s.Leaves s' j := by
  refine ⟨⟨reqs, hreqs, fun req hreq => ?_⟩, hanswered⟩
  rw [hseq req hreq, hid]
  exact Ne.symm hj

end

end LuaBackend

end PlayFrame
