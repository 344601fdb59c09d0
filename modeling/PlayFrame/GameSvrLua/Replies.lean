/-
# `PlayFrame.GameSvrLua.Replies` — what the Lua gamesvr replies to its clients

Messages of connsvr and of datasvr come in any order, and timers run out at any time.

Each request of a client is replied to once at most, with its own command and number, and not
while its task still waits (`run_settles`); nothing is assumed of the answers of datasvr, which
may be lost, come twice or come to a task that did not ask.

That an account is registered is said only by the task that has asked datasvr for just that,
when the answer to its request is good (`run_confirms`).  For this the answers must be those of
datasvr, and nothing may be out under the number that a new registration gets: a task is closed
by its timer while its request may still be answered.
-/
import PlayFrame.Lib.Ledger
import PlayFrame.GameSvrLua.Login

namespace PlayFrame

theorem Coroutine.Owes.unique {co : Coroutine} {key key' : Int × UInt64} (h : co.Owes key)
    (h' : co.Owes key') : key = key' := by
  cases co with
  | start func => cases h
  | quickReg args player i uid password => exact h.2.trans h'.2.symm
  | normalReg args player => exact h.2.trans h'.2.symm
  | login args point request => exact h.2.trans h'.2.symm

theorem Coroutine.Owes.cmd {co : Coroutine} {key : Int × UInt64} (h : co.Owes key) :
    key.1 ∈ ProtoCs.resCmds := by
  cases co with
  | start func => cases h
  | quickReg args player i uid password =>
      obtain ⟨-, rfl⟩ := h
      exact (by decide : LuaFunc.quickReg.resCmd ∈ ProtoCs.resCmds)
  | normalReg args player =>
      obtain ⟨-, rfl⟩ := h
      exact (by decide : LuaFunc.normalReg.resCmd ∈ ProtoCs.resCmds)
  | login args point request =>
      obtain ⟨-, rfl⟩ := h
      exact (by decide : LuaFunc.login.resCmd ∈ ProtoCs.resCmds)

theorem LuaFunc.resCmd_mem (func : LuaFunc) : func.resCmd ∈ ProtoCs.resCmds := by
  cases func with
  | quickReg | normalReg | login => decide

theorem ProtoCs.resCmds_range {cmd : Int} (h : cmd ∈ ProtoCs.resCmds) :
    0 ≤ cmd ∧ cmd < 2147483648 := by
  have hall : ∀ cmd ∈ ProtoCs.resCmds, 0 ≤ cmd ∧ cmd < 2147483648 := by decide
  exact hall cmd h

theorem ProtoCs.RegOk.cmd {cmd ret : Int} (h : ProtoCs.RegOk cmd ret) :
    cmd ∈ ProtoCs.resCmds ∧ cmd ≠ LuaFunc.login.resCmd := by
  rcases h.2 with rfl | rfl
  · decide
  · decide

/-- The commands and numbers of the replies that have been sent to connsvr. -/
def repliesSent (head : Bytes → Int × UInt64) (w : GameWorld) : List (Int × UInt64) :=
  (replies head w.toConnsvr).map fun msg => head msg.payload

section
variable {codec : Codec} {head : Bytes → Int × UInt64} {w w₁ w' : GameWorld}
  {msgs : List ProtoCs.Msg} {reqs : List ProtoSs.Msg} {key : Int × UInt64} {taskId : UInt64}
  {grants : ProtoCs.Msg → Prop} {ret : LuaRet Coroutine} {binds : List (Nat × UInt64)}

theorem repliesSent_eq : repliesSent head w =
    (w.toConnsvr.map fun msg => head msg.payload).filter (·.1 ∈ ProtoCs.resCmds) := by
  unfold PlayFrame.repliesSent replies
  rw [List.filter_map]
  rfl

theorem Does.repliesSent (hhead : codec.Heads head) (h : Does codec w w' msgs reqs binds)
    (hrange : ∀ msg ∈ msgs, 0 ≤ msg.head.cmd ∧ msg.head.cmd < 2147483648) :
    repliesSent head w' = repliesSent head w ++
      (ProtoCs.replies msgs).map fun msg => (msg.head.cmd, msg.head.seq) := by
  obtain ⟨out, hout, hmsgs⟩ := h.toConnsvr
  have hread : out.map (fun m => head m.payload) =
      msgs.map (fun msg => (msg.head.cmd, msg.head.seq)) := by
    calc out.map (fun m => head m.payload)
        = (out.map (·.payload)).map head := (List.map_map ..).symm
      _ = (msgs.map (codec.serialize .cs)).map head := by rw [hmsgs]
      _ = msgs.map (fun msg => head (codec.serialize .cs msg)) := List.map_map ..
      _ = msgs.map (fun msg => (msg.head.cmd, msg.head.seq)) :=
          List.map_congr_left fun msg hmsg => hhead msg (hrange msg hmsg).1 (hrange msg hmsg).2
  rw [repliesSent_eq, repliesSent_eq, hout, List.map_append, List.filter_append, hread]
  congr 1
  rw [List.filter_map]
  rfl

/-- **What a task has replied** when it has been resumed: nothing, or what it owes, and then it
has ended. -/
theorem Runs.repliesSent (hhead : codec.Heads head) (hkey : key.1 ∈ ProtoCs.resCmds)
    (h : Runs codec key taskId grants w w' ret binds) :
    repliesSent head w' = repliesSent head w ∨
      ret.next = none ∧ repliesSent head w' = repliesSent head w ++ [key] := by
  obtain ⟨msgs, reqs, hdoes, -, -, hlength, hmsgs⟩ := h.does
  have hrange : ∀ msg ∈ msgs, 0 ≤ msg.head.cmd ∧ msg.head.cmd < 2147483648 := by
    intro msg hmsg
    rcases hmsgs msg hmsg with hnotifies | ⟨-, hreply, -⟩
    · exact hnotifies.1
    · rw [show msg.head.cmd = key.1 from congrArg Prod.fst hreply]
      exact ProtoCs.resCmds_range hkey
  rw [hdoes.repliesSent hhead hrange]
  cases hreplies : ProtoCs.replies msgs with
  | nil => exact Or.inl (List.append_nil _)
  | cons msg rest =>
      rw [hreplies, List.length_cons] at hlength
      have hrest : rest = [] := List.eq_nil_of_length_eq_zero (by omega)
      obtain ⟨hmsg, hcmd⟩ := List.mem_filter.mp (hreplies.symm ▸ List.mem_cons_self :
        msg ∈ ProtoCs.replies msgs)
      rcases hmsgs msg hmsg with hnotifies | ⟨hnext, hreply, -⟩
      · exact absurd (of_decide_eq_true hcmd) hnotifies.2.2
      · exact Or.inr ⟨hnext, by rw [hrest, ← hreply]; rfl⟩

end

namespace LuaBackend

open LuaGameSvr (SysRet)

/-! ## Each request is replied to once at most -/

/-- **What a client asks for** in an event: the command and the number of the reply to its
request. -/
def Event.asks (codec : Codec) : Event → List (Int × UInt64)
  | .connsvr connData pkg _ =>
      match codec.parseFromArray .cs pkg with
      | some msg =>
          if connData.connCmd ≠ .connStop ∧ msg.head.cmd ∈ MsgModule.commands .cs then
            [(ProtoCs.resOf msg.head.cmd, msg.head.seq)]
          else []
      | none => []
  | _ => []

/-- A run, with its events. -/
inductive Traced (codec : Codec) (start : LuaBackend) : LuaBackend → List Event → Prop
  | start : Traced codec start start []
  | step {s s' : LuaBackend} {es : List Event} (e : Event) : Traced codec start s es →
      s.step codec e = .ok s' → Traced codec start s' (es ++ [e])

/-- A task owes a reply. -/
def Owes (s : LuaBackend) (id : Int) (key : Int × UInt64) : Prop :=
  ∃ co, s.game.task id = some co ∧ co.Owes key

section
variable {codec : Codec} {head : Bytes → Int × UInt64} {s s' start : LuaBackend} {e : Event}
  {es : List Event} {asked : List (Int × UInt64)} {id : Int} {key : Int × UInt64}

theorem asks_of_func {connData : ConnData} {pkg : Bytes} {ret : SysRet} {msg : ProtoCs.Msg}
    {func : LuaFunc} (hstop : connData.connCmd ≠ .connStop)
    (hparse : codec.parseFromArray .cs pkg = some msg) (hcmd : msg.head.cmd = func.reqCmd) :
    Event.asks codec (.connsvr connData pkg ret) = [(func.resCmd, msg.head.seq)] := by
  have hmem : msg.head.cmd ∈ MsgModule.commands .cs ∧
      ProtoCs.resOf msg.head.cmd = func.resCmd := by
    rw [hcmd]
    cases func with
    | quickReg | normalReg | login => decide
  dsimp only [Event.asks]
  rw [hparse]
  dsimp only
  rw [if_pos ⟨hstop, hmem.1⟩, hmem.2]

theorem owes_goes {lret : LuaRet Coroutine} (hnext : ∀ co, lret.next = some co → co.Owes key)
    (htask : ∀ j, s'.game.task j = if j = id then lret.next else s.game.task j) {j : Int}
    {key' : Int × UInt64} (howes : s'.Owes j key') :
    j ≠ id ∧ s.Owes j key' ∨ j = id ∧ key' = key ∧ lret.next ≠ none := by
  obtain ⟨co, hco, howes⟩ := howes
  rw [htask] at hco
  split at hco
  · next hj =>
    refine Or.inr ⟨hj, howes.unique (hnext co hco), ?_⟩
    rw [hco]
    exact Option.some_ne_none co
  · next hj => exact Or.inl ⟨hj, co, hco, howes⟩

/-- **Step lemma.**  The requests, the replies and the tasks settle. -/
theorem Moves.settles (hhead : codec.Heads head) (hs : s.Sane) (hmove : Moves codec s e s')
    (h : Lib.Settles asked (repliesSent head s.game.world) s.Owes) :
    Lib.Settles (asked ++ e.asks codec) (repliesSent head s'.game.world) s'.Owes := by
  have hquiet : ∀ {w : GameWorld} {reqs : List ProtoSs.Msg}, Does codec s.game.world w [] reqs →
      repliesSent head w = repliesSent head s.game.world := fun hdoes =>
    (hdoes.repliesSent hhead (fun _ hmsg => absurd hmsg List.not_mem_nil)).trans
      (List.append_nil _)
  cases hmove with
  | quiet e s' reqs hdoes hreqs htask hanswered =>
      rw [hquiet hdoes]
      refine (h.mono fun j key howes => ?_).more _
      obtain ⟨co, hco, howes⟩ := howes
      exact ⟨co, htask j ▸ hco, howes⟩
  | closed taskId s' hworld htask hanswered =>
      rw [hworld]
      refine (h.mono fun j key howes => ?_).more _
      obtain ⟨co, hco, howes⟩ := howes
      rw [htask] at hco
      split at hco
      · cases hco
      · exact ⟨co, hco, howes⟩
  | created connData pkg ret func id s' hnumber hdoes htask hanswered =>
      rw [hquiet hdoes]
      refine (h.mono fun j key howes => ?_).more _
      obtain ⟨co, hco, howes⟩ := howes
      rw [htask] at hco
      split at hco
      · cases hco
        cases howes
      · exact ⟨co, hco, howes⟩
  | started connData connData' pkg ret msg func id w lret s' hstop hparse hcmd hpos hid hcreate
      hdoes hbound hrun htask hanswered =>
      have hruns := scripts_start (fun _ => True) hrun
      have hnext : ∀ co, lret.next = some co → co.Owes (func.resCmd, msg.head.seq) :=
        fun co hco => (hruns.next co hco).1
      rw [asks_of_func hstop hparse hcmd]
      rcases hruns.repliesSent hhead func.resCmd_mem with hsame | ⟨hended, hreplied⟩
      · rw [hsame, hquiet hdoes]
        refine h.ask (i := id) fun j key howes => ?_
        rcases owes_goes hnext htask howes with hother | ⟨hj, hkey, -⟩
        · exact Or.inl hother
        · exact Or.inr ⟨hj, hkey⟩
      · -- the request is refused at once
        rw [hreplied, hquiet hdoes]
        refine h.serve (i := id) fun j key howes => ?_
        rcases owes_goes hnext htask howes with hother | ⟨-, -, hne⟩
        · exact hother
        · exact absurd hended hne
  | resumed n pkg ret msg co w lret s' hparse hco hdoes hrun htask hanswered =>
      obtain ⟨-, ⟨key, howes⟩, taskId, hnumbered, -⟩ := hs.resumed hco
      have hruns := scripts_resume howes hnumbered hrun
      have hnext : ∀ co, lret.next = some co → co.Owes key := fun co hco => (hruns.next co hco).1
      have hself : s.Owes (logicIdOfSeq msg.head.seq) key := ⟨co, hco, howes⟩
      rw [show Event.asks codec (.datasvr n pkg ret) = [] from rfl, List.append_nil]
      rcases hruns.repliesSent hhead howes.cmd with hsame | ⟨hended, hreplied⟩
      · rw [hsame, hquiet hdoes]
        refine h.mono fun j key' howes' => ?_
        rcases owes_goes hnext htask howes' with ⟨-, hold⟩ | ⟨rfl, rfl, -⟩
        · exact hold
        · exact hself
      · rw [hreplied, hquiet hdoes]
        refine h.pay hself fun j key' howes' => ?_
        rcases owes_goes hnext htask howes' with hother | ⟨-, -, hne⟩
        · exact hother
        · exact absurd hended hne

/-- **Each request is replied to once at most**, in every run of the Lua gamesvr: what has been
replied, and what the tasks still owe, is with its command and number among what the clients
have asked for, one for one.  A task owes a reply as long as it waits. -/
theorem run_settles {playerPoolSize cityPoolSize : Nat} {rawPlayer : Nat → Player}
    {rawCity : Nat → City} {now : Int} (hhead : codec.Heads head)
    (hrun : Traced codec (fresh playerPoolSize cityPoolSize rawPlayer rawCity now) s es) :
    Lib.Settles (es.flatMap (Event.asks codec)) (repliesSent head s.game.world) s.Owes ∧
      ∀ id co, s.game.task id = some co → (∃ func, co = .start func) ∨ ∃ key, s.Owes id key := by
  have hinv : s.Sane ∧
      Lib.Settles (es.flatMap (Event.asks codec)) (repliesSent head s.game.world) s.Owes := by
    induction hrun with
    | start => exact ⟨fresh_sane, .start fun id key ⟨co, hco, _⟩ => by cases hco⟩
    | step e hrun hstep ih =>
        obtain ⟨hs, hsettles⟩ := ih
        have hmove := step_moves hs hstep
        rw [List.flatMap_append, List.flatMap_singleton]
        exact ⟨hs.moves hmove, hmove.settles hhead hs hsettles⟩
  refine ⟨hinv.2, fun id co hco => ?_⟩
  rcases hinv.1.tasks id co hco with ⟨hstart, -⟩ | ⟨-, ⟨key, howes⟩, -⟩
  · exact Or.inl hstart
  · exact Or.inr ⟨key, co, hco, howes⟩

end

open Backend (loginCodec firstReq codec_heads)

/-- A client logs in, and is replied to. -/
theorem run_settles_login : ∃ s, Traced loginCodec small s [connect 5, answer 0 firstReq] ∧
    repliesSent Wire.readHead s.game.world = [(ProtoCs.loginResFieldNumber, 0)] ∧
    Lib.Settles ([connect 5, answer 0 firstReq].flatMap (Event.asks loginCodec))
      (repliesSent Wire.readHead s.game.world) s.Owes := by
  have hsteps : (small.step loginCodec (connect 5)).toBool = true ∧
      ((small.after loginCodec (connect 5)).step loginCodec (answer 0 firstReq)).toBool = true ∧
      repliesSent Wire.readHead ((small.after loginCodec (connect 5)).after loginCodec
        (answer 0 firstReq)).game.world = [(ProtoCs.loginResFieldNumber, 0)] := by
    decide +kernel
  have hrun : Traced loginCodec small _ ([] ++ [connect 5] ++ [answer 0 firstReq]) :=
    (Traced.start.step _ (step_after hsteps.1)).step _ (step_after hsteps.2.1)
  exact ⟨_, hrun, hsteps.2.2, (run_settles (codec_heads _ _ _) hrun).1⟩

end LuaBackend

/-! ## What is confirmed has been asked for -/

/-- The client is told these. -/
def LuaCreds.Told (creds : LuaCreds) (reply : ProtoCs.Msg) : Prop :=
  ∃ password, creds.passwordHash = Utils.fnv64aHash password ∧
    (reply.quickRegRes = some ⟨Utils.toString creds.uid, password⟩ ∨
      creds.uid = Utils.fnv64aHash creds.account ∧
        reply.normalRegRes = some ⟨creds.account, password⟩)

namespace Coroutine

variable {co : Coroutine} {key : Int × UInt64} {creds : LuaCreds} {flag : Int}

theorem Owes.ne_login (h : co.Owes key) (hcreds : co.creds = some creds) :
    key.1 ≠ LuaFunc.login.resCmd := by
  cases co with
  | start func => cases h
  | quickReg args player i uid password =>
      obtain ⟨-, rfl⟩ := h
      exact (by decide : LuaFunc.quickReg.resCmd ≠ LuaFunc.login.resCmd)
  | normalReg args player =>
      obtain ⟨-, rfl⟩ := h
      exact (by decide : LuaFunc.normalReg.resCmd ≠ LuaFunc.login.resCmd)
  | login args point request => cases hcreds

theorem Owes.registers (h : co.Owes key) (hne : key.1 ≠ LuaFunc.login.resCmd) :
    ∃ creds, co.creds = some creds := by
  cases co with
  | start func => cases h
  | quickReg args player i uid password => exact ⟨_, rfl⟩
  | normalReg args player => exact ⟨_, rfl⟩
  | login args point request =>
      obtain ⟨-, rfl⟩ := h
      exact absurd rfl hne

theorem Grants.told {reply : ProtoCs.Msg} (hcreds : co.creds = some creds)
    (h : co.Grants (.flag flag) reply) : flag = 0 ∧ creds.Told reply := by
  cases co with
  | start func => cases hcreds
  | quickReg args player i uid password =>
      cases hcreds
      exact ⟨h.1, password, rfl, Or.inl h.2⟩
  | normalReg args player =>
      cases hcreds
      exact ⟨h.1, args.password, rfl, Or.inr ⟨rfl, h.2⟩⟩
  | login args point request => cases hcreds

end Coroutine

namespace LuaBackend

open LuaGameSvr (SysRet)

/-- **The condition on a step**: nothing is out under the number that a registration gets. -/
def Unclaimed (codec : Codec) (s : LuaBackend) : Event → Prop
  | .connsvr connData pkg ret => ∀ (msg : ProtoCs.Msg) (func : LuaFunc) (id : Int)
      (engine : LuaEngine Coroutine), connData.connCmd ≠ .connStop →
      codec.parseFromArray .cs pkg = some msg → msg.head.cmd = func.reqCmd → func ≠ .login →
      s.game.engine.createTask (scripts codec) func ret.now 10 = .ok (id, engine) → 0 < id →
      ∀ n req, s.Out n req → req.head.seq ≠ seqOfLogicId id
  | _ => True

/-- What is out for a registration is one request at most, and it asks for just that. -/
structure Awaits (s : LuaBackend) (id : Int) (creds : LuaCreds) : Prop where
  asked : ∀ n req, s.Out n req → logicIdOfSeq req.head.seq = id → creds.Asked req
  one : ∀ n req n' req', s.Out n req → logicIdOfSeq req.head.seq = id → s.Out n' req' →
    logicIdOfSeq req'.head.seq = id → n = n'

/-- All registrations that wait do so for their own answers. -/
def AllAwait (s : LuaBackend) : Prop :=
  ∀ id co creds, s.game.task id = some co → co.creds = some creds → s.Awaits id creds

/-- **A message that confirms a registration** is sent in the step in which datasvr gives a good
answer to the request for just that. -/
def Confirms (codec : Codec) (s : LuaBackend) (e : Event) (payload : Bytes) : Prop :=
  ∃ n pkg ret req answer creds reply, e = .datasvr n pkg ret ∧ s.Out n req ∧
    LuaCreds.Asked creds req ∧ codec.parseFromArray .ss pkg = some answer ∧
    Backend.Answers req answer ∧ answer.head.ret = 0 ∧
    payload = codec.serialize .cs reply ∧ creds.Told reply

section
variable {codec : Codec} {result : Bytes → Int × Int} {s s' : LuaBackend} {e : Event} {id : Int}
  {creds : LuaCreds} {reqs : List ProtoSs.Msg} {w : GameWorld} {key : Int × UInt64}
  {taskId : UInt64} {grants : ProtoCs.Msg → Prop} {lret : LuaRet Coroutine}
  {binds : List (Nat × UInt64)}

theorem Awaits.kept (h : s.Awaits id creds) (hleaves : s.Leaves s' id) : s'.Awaits id creds :=
  ⟨fun n req hout hid => h.asked n req (hleaves.out hout hid) hid,
    fun n req n' req' hout hid hout' hid' =>
      h.one n req n' req' (hleaves.out hout hid) hid (hleaves.out hout' hid') hid'⟩

/-- **A registration begins to wait** when nothing else is out for it. -/
theorem Awaits.begun (hreqs : s'.requests = s.requests ++ reqs)
    (hanswered : ∀ n ∈ s.answered, n ∈ s'.answered) (hlength : reqs.length ≤ 1)
    (hasked : ∀ req ∈ reqs, creds.Asked req)
    (hfree : ∀ n req, s.Out n req → n ∉ s'.answered → logicIdOfSeq req.head.seq ≠ id) :
    s'.Awaits id creds := by
  have hnew : ∀ n req, s'.Out n req → logicIdOfSeq req.head.seq = id →
      req ∈ reqs ∧ s.requests.length ≤ n ∧ n < s.requests.length + reqs.length := by
    intro n req hout hid
    rcases out_cases hreqs hanswered hout with hold | hnew
    · exact absurd hid (hfree n req hold hout.2)
    · exact hnew
  refine ⟨fun n req hout hid => hasked req (hnew n req hout hid).1,
    fun n req n' req' hout hid hout' hid' => ?_⟩
  obtain ⟨-, hle, hlt⟩ := hnew n req hout hid
  obtain ⟨-, hle', hlt'⟩ := hnew n' req' hout' hid'
  omega

theorem AllAwait.goes (h : s.AllAwait) (hid : logicIdOfSeq taskId = id)
    (hdoes : Does codec s.game.world w [] [])
    (hruns : Runs codec key taskId grants w s'.game.world lret binds)
    (htask : ∀ j, s'.game.task j = if j = id then lret.next else s.game.task j)
    (hanswered : ∀ n ∈ s.answered, n ∈ s'.answered)
    (hfree : key.1 ≠ LuaFunc.login.resCmd →
      ∀ n req, s.Out n req → n ∉ s'.answered → logicIdOfSeq req.head.seq ≠ id) : s'.AllAwait := by
  obtain ⟨msgs, reqs, hruns', hseq, hcreds, -⟩ := hruns.does
  have hreqs : s'.requests = s.requests ++ reqs := (hdoes.after hruns').toDatasvr
  intro j co creds hco hj
  rw [htask] at hco
  split at hco
  · next hji =>
    subst hji
    obtain ⟨hlength, hasked⟩ := hcreds co hco creds hj
    exact .begun hreqs hanswered hlength hasked (hfree ((hruns.next co hco).1.ne_login hj))
  · next hji =>
    exact (h j co creds hco hj).kept (.others hid hji hreqs hseq hanswered)

/-- **Step lemma.**  The registrations go on waiting for their own answers. -/
theorem AllAwait.moves (hs : s.Sane) (h : s.AllAwait) (hpossible : s.Possible codec e)
    (hunclaimed : s.Unclaimed codec e) (hmove : Moves codec s e s') : s'.AllAwait := by
  cases hmove with
  | quiet e s' reqs hdoes hreqs htask hanswered =>
      intro j co creds hco hj
      rw [htask] at hco
      exact (h j co creds hco hj).kept (.quiet hs hco hdoes.toDatasvr hreqs hanswered)
  | closed taskId s' hworld htask hanswered =>
      intro j co creds hco hj
      rw [htask] at hco
      split at hco
      · cases hco
      · exact (h j co creds hco hj).kept
          (.silent (congrArg GameWorld.toDatasvr hworld) hanswered)
  | created connData pkg ret func id s' hnumber hdoes htask hanswered =>
      intro j co creds hco hj
      rw [htask] at hco
      split at hco
      · cases hco
        cases hj
      · exact (h j co creds hco hj).kept
          (.silent (hdoes.toDatasvr.trans (List.append_nil _)) hanswered)
  | started connData connData' pkg ret msg func id w lret s' hstop hparse hcmd hpos hid hcreate
      hdoes hbound hrun htask hanswered =>
      refine h.goes hid hdoes (scripts_start (fun _ => False) hrun) htask
        (fun n hn => hanswered ▸ hn) fun hne n req hout _ hreq => ?_
      obtain ⟨engine, hcreate⟩ := hcreate
      have hlogin : func ≠ .login := by
        rintro rfl
        exact hne rfl
      refine hunclaimed msg func id engine hstop hparse hcmd hlogin hcreate hpos n req hout ?_
      rw [← hreq, seqOfLogicId_logicIdOfSeq]
  | resumed n pkg ret msg co w lret s' hparse hco hdoes hrun htask hanswered =>
      obtain ⟨hpos, ⟨key, howes⟩, taskId, hnumbered, hid⟩ := hs.resumed hco
      have hmem : ∀ m, m ∈ s'.answered ↔ m = n ∨ m ∈ s.answered := by
        intro m
        rw [hanswered, List.mem_cons]
      refine h.goes hid hdoes (scripts_resume howes hnumbered hrun) htask
        (fun m hm => (hmem m).mpr (Or.inr hm)) fun hne m req hout hnot hreq => ?_
      obtain ⟨creds, hcreds⟩ := howes.registers hne
      obtain ⟨asked, hasked, hanswers⟩ := hpossible
      obtain ⟨-, hseq, -⟩ := hanswers msg hparse
      have hsame := (h _ co creds hco hcreds).one m req n asked hout hreq hasked (by rw [← hseq])
      exact hnot ((hmem m).mpr (Or.inl hsame))

theorem Does.mem_out {w w' : GameWorld} {msgs : List ProtoCs.Msg}
    (h : Does codec w w' msgs reqs binds) :
    ∃ out, w'.toConnsvr = w.toConnsvr ++ out ∧
      ∀ m ∈ out, ∃ msg ∈ msgs, m.payload = codec.serialize .cs msg := by
  obtain ⟨out, hout, hmsgs⟩ := h.toConnsvr
  refine ⟨out, hout, fun m hm => ?_⟩
  have hmem : m.payload ∈ msgs.map (codec.serialize .cs) :=
    hmsgs ▸ List.mem_map_of_mem hm
  obtain ⟨msg, hmsg, hpayload⟩ := List.mem_map.mp hmem
  exact ⟨msg, hmsg, hpayload.symm⟩

/-- **A task that says that an account is registered** is a registration, and is granted it. -/
theorem Runs.mem_out (hresult : codec.Results result) (hkey : key.1 ∈ ProtoCs.resCmds)
    (hdoes : Does codec s.game.world w [] [])
    (h : Runs codec key taskId grants w s'.game.world lret binds) :
    ∃ out, s'.game.world.toConnsvr = s.game.world.toConnsvr ++ out ∧
      ∀ m ∈ out, ProtoCs.RegOk (result m.payload).1 (result m.payload).2 →
        ∃ reply, m.payload = codec.serialize .cs reply ∧ grants reply ∧
          key.1 ≠ LuaFunc.login.resCmd := by
  obtain ⟨msgs, reqs, hruns, -, -, -, hmsgs⟩ := h.does
  obtain ⟨out, hout, hmem⟩ := Does.mem_out (hdoes.after hruns)
  refine ⟨out, hout, fun m hm hok => ?_⟩
  obtain ⟨msg, hmsg, hpayload⟩ := hmem m hm
  rw [hpayload] at hok
  rcases hmsgs msg hmsg with ⟨⟨h₀, h₁⟩, hret, hno⟩ | ⟨-, hreply, hret⟩
  · rw [hresult msg h₀ h₁ (by rw [hret]; decide) (by rw [hret]; decide)] at hok
    exact absurd hok.cmd.1 hno
  · have hcmd : msg.head.cmd = key.1 := congrArg Prod.fst hreply
    obtain ⟨h₀, h₁⟩ := ProtoCs.resCmds_range (hcmd ▸ hkey)
    have hrange : -2147483648 ≤ msg.head.ret ∧ msg.head.ret < 2147483648 := by
      rcases hret with hret | ⟨hret, -⟩
      · omega
      · omega
    rw [hresult msg h₀ h₁ hrange.1 hrange.2] at hok
    refine ⟨msg, hpayload, ?_, hcmd ▸ hok.cmd.2⟩
    rcases hret with hret | ⟨-, hgrants⟩
    · exact absurd (hret.symm.trans hok.1) (by decide)
    · exact hgrants

/-- **One step**: what says that an account is registered confirms what has been asked for. -/
theorem Moves.confirms (hresult : codec.Results result) (hs : s.Sane) (h : s.AllAwait)
    (hpossible : s.Possible codec e) (hmove : Moves codec s e s') :
    ∃ out, s'.game.world.toConnsvr = s.game.world.toConnsvr ++ out ∧
      ∀ m ∈ out, ProtoCs.RegOk (result m.payload).1 (result m.payload).2 →
        Confirms codec s e m.payload := by
  have hsilent : ∀ {reqs : List ProtoSs.Msg}, Does codec s.game.world s'.game.world [] reqs →
      ∃ out, s'.game.world.toConnsvr = s.game.world.toConnsvr ++ out ∧
        ∀ m ∈ out, ProtoCs.RegOk (result m.payload).1 (result m.payload).2 →
          Confirms codec s e m.payload := by
    intro reqs hdoes
    obtain ⟨out, hout, hmem⟩ := Does.mem_out hdoes
    refine ⟨out, hout, fun m hm => ?_⟩
    obtain ⟨msg, hmsg, -⟩ := hmem m hm
    cases hmsg
  cases hmove with
  | quiet e s' reqs hdoes => exact hsilent hdoes
  | closed taskId s' hworld =>
      exact ⟨[], by rw [hworld, List.append_nil], fun _ hm => absurd hm List.not_mem_nil⟩
  | created connData pkg ret func id s' hnumber hdoes => exact hsilent hdoes
  | started connData connData' pkg ret msg func id w lret s' hstop hparse hcmd hpos hid hcreate
      hdoes hbound hrun =>
      obtain ⟨out, hout, hmem⟩ := Runs.mem_out hresult func.resCmd_mem hdoes
        (scripts_start (fun _ => False) hrun)
      refine ⟨out, hout, fun m hm hok => ?_⟩
      obtain ⟨reply, -, hgrants, -⟩ := hmem m hm hok
      exact hgrants.elim
  | resumed n pkg ret msg co w lret s' hparse hco hdoes hrun =>
      obtain ⟨hpos, ⟨key, howes⟩, taskId, hnumbered, hid⟩ := hs.resumed hco
      obtain ⟨out, hout, hmem⟩ := Runs.mem_out hresult howes.cmd hdoes
        (scripts_resume howes hnumbered hrun)
      refine ⟨out, hout, fun m hm hok => ?_⟩
      obtain ⟨reply, hpayload, hgrants, hne⟩ := hmem m hm hok
      obtain ⟨creds, hcreds⟩ := howes.registers hne
      obtain ⟨hzero, htold⟩ := hgrants.told hcreds
      obtain ⟨req, hreq, hanswers⟩ := hpossible
      obtain ⟨hcmd, hseq, hidx⟩ := hanswers msg hparse
      have hasked := (h _ co creds hco hcreds).asked n req hreq (by rw [← hseq])
      have hres : msg.head.cmd = ProtoSs.accountRegResFieldNumber := by
        rw [hcmd, hasked.1]
        rfl
      have hret : LuaGameSvr.answerFlag msg = msg.head.ret := by
        rw [LuaGameSvr.answerFlag, hres]
        rfl
      exact ⟨n, pkg, ret, req, msg, creds, reply, rfl, hreq, hasked, hparse, ⟨hcmd, hseq, hidx⟩,
        hret.symm.trans hzero, hpayload, htold⟩

end

open Backend (credentials theUid okRes)

/-- A client registers an account, and datasvr is asked to store it. -/
def joinReq : ProtoCs.Msg where
  head := { cmd := ProtoCs.normalRegReqFieldNumber }
  normalRegReq := some credentials
/-- The client of a new connection registers. -/
def join : Event := .connsvr ⟨5, 0, .connStart⟩ (Wire.csMsg joinReq) calm

end LuaBackend

end PlayFrame
