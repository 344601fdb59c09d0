/-
# `PlayFrame.GameSvrLua.Login` — when the login task authenticates

An answer resumes the task of its sequence number, so a login authenticates only as long as
the one request that is out for it is the one that it waits for.  That is so when a login finds
nobody logged in under its uid: a login that does saves the old player twice for each
`CO_YIELD`, and the second answer is taken for that to the request for the data
(`run_unauthenticated`).
-/
import PlayFrame.GameSvrLua.Steps

namespace PlayFrame

namespace Login

/-- The request that `login` waits for at the request for the data: the one that it has sent, if
it has been sent. -/
structure Asks (args : LoginArgs) (w w' : GameWorld) (request : Option Nat) : Prop where
  new : ∀ n, w.toDatasvr.length ≤ n → n < w'.toDatasvr.length → request = some n
  asked : ∀ n, request = some n → ∃ playerIdx, w'.toDatasvr[n]? =
    some (Player.getPlayerDataReq args.taskId playerIdx args.uid args.passwordHash)

section
variable {codec : Codec} {args : LoginArgs} {player : Nat} {w w' : GameWorld}
  {ret : LuaRet Coroutine}

theorem askData_spec (h : askData codec args player w = .ok (ret, w')) :
    ∃ request, ret = .yielded (.login args (.get player) request) ∧ Asks args w w' request := by
  obtain ⟨w₁, hget, h⟩ := bind_eq_ok.mp h
  cases h
  obtain ⟨playerIdx, -, hget⟩ := bind_eq_ok.mp hget
  cases hget
  obtain ⟨reqs, hdoes, hsub⟩ := Player.sendToDatasvr_does codec
    (Player.getPlayerDataReq args.taskId playerIdx args.uid args.passwordHash) w
  have hsent := hdoes.toDatasvr
  refine ⟨_, rfl, ?_⟩
  rcases List.sublist_singleton.mp hsub with rfl | rfl
  · -- it is lost
    rw [List.append_nil] at hsent
    refine ⟨fun n hle hlt => ?_, fun n hn => ?_⟩
    · rw [hsent] at hlt
      omega
    · rw [requestSince, hsent, if_neg (Nat.lt_irrefl _)] at hn
      cases hn
  · have hnumber : requestSince w (w.sendToDatasvr codec
        (Player.getPlayerDataReq args.taskId playerIdx args.uid args.passwordHash)).2 =
        some w.toDatasvr.length := by
      rw [requestSince, hsent, List.length_append, if_pos (by simp)]
    rw [hnumber]
    refine ⟨fun n hle hlt => ?_, fun n hn => ?_⟩
    · rw [hsent, List.length_append, List.length_singleton] at hlt
      congr 1
      omega
    · cases hn
      rw [hsent, List.getElem?_concat_length]
      exact ⟨playerIdx, rfl⟩

/-- **login of a uid that no player is bound to** asks for the data, or fails. -/
theorem run_spec (huid : w.objMgr.findPlayerIdxByUid args.uid ≤ 0)
    (h : run codec args w = .ok (ret, w')) :
    ret = .failed ∨ ∃ player request, ret = .yielded (.login args (.get player) request) ∧
      Asks args w w' request := by
  unfold run at h
  split at h
  · cases h
    exact Or.inl rfl
  · next player hplayer =>
    unfold runFor at h
    simp only [if_neg (Int.not_lt.mpr huid), gt_iff_lt] at h
    obtain ⟨request, hret, hasks⟩ := askData_spec h
    exact Or.inr ⟨player, request, hret, hasks⟩

theorem gotData_ends {flag : Int} (h : gotData codec args player flag w = .ok (ret, w')) :
    ret.next = none := by
  unfold gotData at h
  split at h
  · obtain ⟨w₁, -, h⟩ := bind_eq_ok.mp h
    cases h
    rfl
  · obtain ⟨w₁, -, h⟩ := bind_eq_ok.mp h
    obtain ⟨w₂, -, h⟩ := bind_eq_ok.mp h
    obtain ⟨w₃, -, h⟩ := bind_eq_ok.mp h
    cases h
    rfl

end

end Login

namespace LuaBackend

open LuaGameSvr (SysRet accountUid)

/-- The condition on a step: a login that begins is of a uid that no player is bound to, and
no request under the id of its task is out. -/
def Meets (codec : Codec) (s : LuaBackend) : Event → Prop
  | .connsvr connData pkg ret => ∀ (msg : ProtoCs.Msg) (id : Int) (engine : LuaEngine Coroutine),
      connData.connCmd ≠ .connStop → codec.parseFromArray .cs pkg = some msg →
      msg.head.cmd = ProtoCs.loginReqFieldNumber →
      s.game.engine.createTask (scripts codec) .login ret.now 10 = .ok (id, engine) → 0 < id →
      s.game.world.objMgr.findPlayerIdxByUid
        (accountUid ret.raw (msg.loginReq.getD {}).account) ≤ 0 ∧
      ∀ n req, s.Out n req → req.head.seq ≠ seqOfLogicId id
  | _ => True

/-- The login that an answer resumes, at its `CO_YIELD`, if it resumes one. -/
def Resumes (s : LuaBackend) (msg : ProtoSs.Msg) (args : LoginArgs) (point : LoginYield)
    (request : Option Nat) : Prop :=
  s.game.task (logicIdOfSeq msg.head.seq) = some (.login args point request)

/-- **A step in which the logins authenticate.**  A login is resumed by the answer to the
request that it has sent at its `CO_YIELD`, and `set_uid` is called by a login that the answer
to its own request for the data of its uid and password resumes, when all is well. -/
structure Authenticates (codec : Codec) (s : LuaBackend) (e : Event) (s' : LuaBackend) :
    Prop where
  own : ∀ n pkg ret msg args point request, e = .datasvr n pkg ret →
    codec.parseFromArray .ss pkg = some msg → s.Resumes msg args point request →
    request = some n
  uids : s'.uids ≠ s.uids → ∃ n pkg ret msg args player playerIdx, e = .datasvr n pkg ret ∧
    codec.parseFromArray .ss pkg = some msg ∧ msg.head.ret = 0 ∧
    s.Resumes msg args (.get player) (some n) ∧
    s.requests[n]? =
      some (Player.getPlayerDataReq args.taskId playerIdx args.uid args.passwordHash) ∧
    s'.uids = s.uids ++ [(player, args.uid)]

/-! ## What a waiting login can be resumed by -/

/-- The request that is out for a login is the one that it waits for. -/
structure Waiting (s : LuaBackend) (id : Int) (args : LoginArgs) (request : Option Nat) :
    Prop where
  own : ∀ n req, s.Out n req → logicIdOfSeq req.head.seq = id → request = some n
  asked : ∀ n, request = some n → ∃ playerIdx, s.requests[n]? =
    some (Player.getPlayerDataReq args.taskId playerIdx args.uid args.passwordHash)

/-- All logins that wait do so for their own data. -/
def AllWait (s : LuaBackend) : Prop :=
  ∀ id args point request, s.game.task id = some (.login args point request) →
    ∃ player, point = .get player ∧ s.Waiting id args request

section
variable {codec : Codec} {s s' : LuaBackend} {e : Event} {id : Int} {args : LoginArgs}
  {request : Option Nat} {reqs : List ProtoSs.Msg} {w : GameWorld} {taskId : UInt64}

theorem Waiting.kept (h : s.Waiting id args request) (hleaves : s.Leaves s' id) :
    s'.Waiting id args request := by
  refine ⟨fun n req hout hid => h.own n req (hleaves.out hout hid) hid, fun n hn => ?_⟩
  obtain ⟨playerIdx, hget⟩ := h.asked n hn
  exact ⟨playerIdx, hleaves.get hget⟩

/-- **A login that begins** while nothing is out under its id waits for the data. -/
theorem Waiting.begun (hasks : Login.Asks args w s'.game.world request)
    (hw : w.toDatasvr = s.requests) (hreqs : s'.requests = s.requests ++ reqs)
    (hid : logicIdOfSeq args.taskId = id) (hanswered : s'.answered = s.answered)
    (hfree : ∀ n req, s.Out n req → req.head.seq ≠ args.taskId) : s'.Waiting id args request := by
  refine ⟨fun n req hout hseq => ?_, hasks.asked⟩
  rcases out_cases hreqs (fun n hn => hanswered ▸ hn) hout with hold | ⟨-, hle, -⟩
  · -- nothing was out for it
    refine absurd ?_ (hfree n req hold)
    rw [← seqOfLogicId_logicIdOfSeq req.head.seq, hseq, ← hid, seqOfLogicId_logicIdOfSeq]
  · exact hasks.new n (hw ▸ hle) (List.getElem?_eq_some_iff.mp hout.1).1

theorem AllWait.goes (h : s.AllWait) {key : Int × UInt64} {grants : ProtoCs.Msg → Prop}
    {lret : LuaRet Coroutine} {binds : List (Nat × UInt64)} (hid : logicIdOfSeq taskId = id)
    (hdoes : Does codec s.game.world w [] [])
    (hruns : Runs codec key taskId grants w s'.game.world lret binds)
    (htask : ∀ j, s'.game.task j = if j = id then lret.next else s.game.task j)
    (hanswered : ∀ n ∈ s.answered, n ∈ s'.answered)
    (hself : ∀ args point request, lret.next = some (.login args point request) →
      ∀ reqs, s'.requests = s.requests ++ reqs →
        ∃ player, point = .get player ∧ s'.Waiting id args request) : s'.AllWait := by
  obtain ⟨msgs, reqs, hruns', hseq, -⟩ := hruns.does
  have hreqs : s'.requests = s.requests ++ reqs := (hdoes.after hruns').toDatasvr
  intro j args point request hco
  rw [htask] at hco
  split at hco
  · next hj =>
    subst hj
    exact hself args point request hco reqs hreqs
  · next hj =>
    obtain ⟨player, hpoint, hwaiting⟩ := h j args point request hco
    exact ⟨player, hpoint, hwaiting.kept (.others hid hj hreqs hseq hanswered)⟩

theorem resumed_login {co : Coroutine} {key : Int × UInt64} {point : LoginYield}
    (howes : co.Owes key) (hnext : (Coroutine.login args point request).Owes key) :
    ∃ args point request, co = .login args point request := by
  cases co with
  | start func => cases howes
  | quickReg args player i uid password =>
      exact absurd (congrArg Prod.fst (howes.2.symm.trans hnext.2))
        (show LuaFunc.quickReg.resCmd ≠ LuaFunc.login.resCmd by decide)
  | normalReg args player =>
      exact absurd (congrArg Prod.fst (howes.2.symm.trans hnext.2))
        (show LuaFunc.normalReg.resCmd ≠ LuaFunc.login.resCmd by decide)
  | login args point request => exact ⟨args, point, request, rfl⟩

/-- **Step lemma.**  The logins go on waiting for their own data. -/
theorem AllWait.moves (hs : s.Sane) (h : s.AllWait) (hmeets : s.Meets codec e)
    (hmove : Moves codec s e s') : s'.AllWait := by
  cases hmove with
  | quiet e s' reqs hdoes hreqs htask hanswered =>
      intro j args point request hco
      rw [htask] at hco
      obtain ⟨player, hpoint, hwaiting⟩ := h j args point request hco
      exact ⟨player, hpoint, hwaiting.kept (.quiet hs hco hdoes.toDatasvr hreqs hanswered)⟩
  | closed taskId s' hworld htask hanswered =>
      intro j args point request hco
      rw [htask] at hco
      split at hco
      · cases hco
      · obtain ⟨player, hpoint, hwaiting⟩ := h j args point request hco
        exact ⟨player, hpoint,
          hwaiting.kept (.silent (congrArg GameWorld.toDatasvr hworld) hanswered)⟩
  | created connData pkg ret func id s' hnumber hdoes htask hanswered =>
      intro j args point request hco
      rw [htask] at hco
      split at hco
      · cases hco
      · obtain ⟨player, hpoint, hwaiting⟩ := h j args point request hco
        exact ⟨player, hpoint, hwaiting.kept
          (.silent (hdoes.toDatasvr.trans (List.append_nil _)) hanswered)⟩
  | started connData connData' pkg ret msg func id w lret s' hstop hparse hcmd hpos hid hcreate
      hdoes hbound hrun htask hanswered =>
      have hruns := scripts_start (fun _ => True) hrun
      refine h.goes hid hdoes hruns htask (fun n hn => hanswered ▸ hn)
        fun args point request hnext reqs hreqs => ?_
      obtain ⟨engine, hcreate⟩ := hcreate
      have howes := (hruns.next _ hnext).1
      cases func with
      | quickReg =>
          exact absurd (congrArg Prod.fst howes.2)
            (show LuaFunc.quickReg.resCmd ≠ LuaFunc.login.resCmd by decide)
      | normalReg =>
          exact absurd (congrArg Prod.fst howes.2)
            (show LuaFunc.normalReg.resCmd ≠ LuaFunc.login.resCmd by decide)
      | login =>
          obtain ⟨hunbound, hfree⟩ := hmeets msg id engine hstop hparse hcmd hcreate hpos
          rcases Login.run_spec ((hbound _).trans_le hunbound) hrun with
            rfl | ⟨player, _, rfl, hasks⟩
          · cases hnext
          · cases hnext
            have hw : w.toDatasvr = s.requests := hdoes.toDatasvr.trans (List.append_nil _)
            exact ⟨player, rfl, .begun hasks hw hreqs hid hanswered hfree⟩
  | resumed n pkg ret msg co w lret s' hparse hco hdoes hrun htask hanswered =>
      obtain ⟨-, ⟨key, howes⟩, taskId, hnumbered, hid⟩ := hs.resumed hco
      have hruns := scripts_resume howes hnumbered hrun
      refine h.goes hid hdoes hruns htask (fun m hm => ?_)
        fun args point request hnext reqs hreqs => ?_
      · rw [hanswered]
        exact List.mem_cons_of_mem n hm
      · -- a login that gets its data ends
        obtain ⟨args₀, point₀, request₀, rfl⟩ := resumed_login howes (hruns.next _ hnext).1
        obtain ⟨player, rfl, -⟩ := h _ args₀ point₀ request₀ hco
        rw [Login.gotData_ends hrun] at hnext
        cases hnext

/-- **An answer of datasvr** resumes a login that waits for it, if it resumes a login. -/
theorem AllWait.own (h : s.AllWait) {n : Nat} {pkg : Bytes} {ret : SysRet} {msg : ProtoSs.Msg}
    {point : LoginYield} (hpossible : s.Possible codec (.datasvr n pkg ret))
    (hparse : codec.parseFromArray .ss pkg = some msg)
    (hresumes : s.Resumes msg args point request) :
    request = some n ∧ (∃ player, point = .get player) ∧
      msg.head.cmd = ProtoSs.getPlayerDataResFieldNumber ∧
      ∃ playerIdx, s.requests[n]? =
        some (Player.getPlayerDataReq args.taskId playerIdx args.uid args.passwordHash) := by
  obtain ⟨player, hpoint, hwaiting⟩ := h _ _ _ _ hresumes
  obtain ⟨req, hout, hanswers⟩ := hpossible
  obtain ⟨hcmd, hseq, -⟩ := hanswers msg hparse
  have hrequest : request = some n := hwaiting.own n req hout (by rw [hseq])
  obtain ⟨playerIdx, hget⟩ := hwaiting.asked n hrequest
  refine ⟨hrequest, ⟨player, hpoint⟩, ?_, playerIdx, hget⟩
  have hreq := hout.1
  rw [hget] at hreq
  cases hreq
  exact hcmd

theorem binds_cases (co : Coroutine) (flag : Int) :
    co.binds flag = [] ∨ ∃ args player request, co = .login args (.get player) request ∧
      flag = 0 ∧ co.binds flag = [(player, args.uid)] := by
  cases co with
  | start func | quickReg args player i uid password | normalReg args player => exact Or.inl rfl
  | login args point request =>
      cases point with
      | update player oldPlayer oldPlayerIdx updateCount => exact Or.inl rfl
      | get player =>
          by_cases hflag : flag = 0
          · exact Or.inr ⟨args, player, request, rfl, hflag, if_pos hflag⟩
          · exact Or.inl (if_neg hflag)

theorem ret_of_answerFlag {msg : ProtoSs.Msg}
    (hcmd : msg.head.cmd = ProtoSs.getPlayerDataResFieldNumber)
    (hflag : LuaGameSvr.answerFlag msg = 0) : msg.head.ret = 0 := by
  by_contra hne
  have hverify : ProtoSs.getPlayerDataResFieldNumber ≠ ProtoSs.accountVerifyResFieldNumber := by
    decide
  rw [LuaGameSvr.answerFlag, hcmd, if_neg hverify, if_pos rfl, if_neg hne] at hflag
  exact absurd hflag (by decide)

/-- **The logins authenticate** in a step from a state in which they wait for their own data. -/
theorem Moves.authenticates (hs : s.Sane) (h : s.AllWait) (hpossible : s.Possible codec e)
    (hmove : Moves codec s e s') : Authenticates codec s e s' := by
  refine ⟨?_, fun hne => ?_⟩
  · rintro n pkg ret msg args point request rfl hparse hresumes
    exact (h.own hpossible hparse hresumes).1
  have hsame : ∀ {w : GameWorld} {msgs : List ProtoCs.Msg} {reqs : List ProtoSs.Msg},
      Does codec s.game.world w msgs reqs → w.uids = s.uids := fun hdoes =>
    hdoes.uids.trans (List.append_nil _)
  cases hmove with
  | quiet e s' reqs hdoes => exact absurd (hsame hdoes) hne
  | closed taskId s' hworld => exact absurd (congrArg GameWorld.uids hworld) hne
  | created connData pkg ret func id s' hnumber hdoes => exact absurd (hsame hdoes) hne
  | started connData connData' pkg ret msg func id w lret s' hstop hparse hcmd hpos hid hcreate
      hdoes hbound hrun =>
      obtain ⟨msgs, reqs, hruns, -⟩ := (scripts_start (fun _ => True) hrun).does
      exact absurd (hsame (hdoes.after hruns)) hne
  | resumed n pkg ret msg co w lret s' hparse hco hdoes hrun =>
      obtain ⟨-, ⟨key, howes⟩, taskId, hnumbered, -⟩ := hs.resumed hco
      obtain ⟨msgs, reqs, hruns, -⟩ := (scripts_resume howes hnumbered hrun).does
      have huids : s'.uids = s.uids ++ co.binds (LuaGameSvr.answerFlag msg) :=
        (hdoes.after hruns).uids
      rcases binds_cases co (LuaGameSvr.answerFlag msg) with
        hnone | ⟨args, player, request, rfl, hflag, hbinds⟩
      · rw [hnone, List.append_nil] at huids
        exact absurd huids hne
      · obtain ⟨rfl, -, hcmd, playerIdx, hget⟩ := h.own hpossible hparse hco
        exact ⟨n, pkg, ret, msg, args, player, playerIdx, rfl, hparse,
          ret_of_answerFlag hcmd hflag, hco, hget, hbinds ▸ huids⟩

/-! ## Runs -/

theorem Run.allWait {playerPoolSize cityPoolSize : Nat} {rawPlayer : Nat → Player}
    {rawCity : Nat → City} {now : Int}
    (h : Run codec (Meets codec) (fresh playerPoolSize cityPoolSize rawPlayer rawCity now) s) :
    s.Sane ∧ s.AllWait := by
  induction h with
  | start => exact ⟨fresh_sane, fun _ _ _ _ hco => by cases hco⟩
  | step e _ hpossible hmeets hstep ih =>
      obtain ⟨hs, h⟩ := ih
      have hmove := step_moves hs hstep
      exact ⟨hs.moves hmove, h.moves hs hmeets hmove⟩

/-- **The logins authenticate** in every step that goes on from a run in which they find nobody
logged in under their uid, and no request out under the ids of their tasks. -/
theorem run_authenticates {playerPoolSize cityPoolSize : Nat} {rawPlayer : Nat → Player}
    {rawCity : Nat → City} {now : Int}
    (h : Run codec (Meets codec) (fresh playerPoolSize cityPoolSize rawPlayer rawCity now) s)
    (hpossible : s.Possible codec e) (hstep : s.step codec e = .ok s') :
    Authenticates codec s e s' := by
  obtain ⟨hs, hwait⟩ := h.allWait
  exact (step_moves hs hstep).authenticates hs hwait hpossible

end

/-! ## Two runs -/

open Backend (loginCodec loginReq okRes firstReq kickReq nextReq theUid)

/-- The Lua gamesvr with room for two players, in the second 7. -/
def small : LuaBackend := fresh 2 1 (fun _ => Player.init) (fun _ => City.init) 7

/-- The system calls succeed, in the second 7. -/
def calm : SysRet := ⟨7, fun _ => true, 0, fun _ => 0, 0⟩

/-- The client of a new connection logs in. -/
def connect (fd : Int) : Event := .connsvr ⟨fd, 0, .connStart⟩ (Wire.csMsg loginReq) calm

/-- datasvr answers that all is well. -/
def answer (n : Nat) (req : ProtoSs.Msg) : Event := .datasvr n (Wire.ssMsg (okRes req)) calm

/-- The state after a step, if it is one. -/
def after (codec : Codec) (s : LuaBackend) (e : Event) : LuaBackend :=
  match s.step codec e with
  | .ok s' => s'
  | .error _ => s

theorem step_after {codec : Codec} {s : LuaBackend} {e : Event}
    (h : (s.step codec e).toBool = true) : s.step codec e = .ok (s.after codec e) := by
  unfold after
  cases hs : s.step codec e with
  | error f =>
      rw [hs] at h
      cases h
  | ok s' => rfl

theorem possible_answer {s : LuaBackend} {n : Nat} {req : ProtoSs.Msg}
    (hout : s.requests[n]? = some req ∧ n ∉ s.answered)
    (hparse : loginCodec.parseFromArray .ss (Wire.ssMsg (okRes req)) = some (okRes req)) :
    s.Possible loginCodec (answer n req) := by
  refine ⟨req, hout, fun msg hmsg => ?_⟩
  rw [hparse] at hmsg
  cases hmsg
  exact ⟨rfl, rfl, rfl⟩

theorem Run.after {meets : LuaBackend → Event → Prop} {start s : LuaBackend} {e : Event}
    (h : Run loginCodec meets start s) (hpossible : s.Possible loginCodec e) (hmeets : meets s e)
    (hstep : (s.step loginCodec e).toBool = true) :
    Run loginCodec meets start (s.after loginCodec e) :=
  h.step e hpossible hmeets (step_after hstep)

/-- A login that finds nobody under its uid authenticates. -/
theorem run_authenticates_first : ∃ s s', Run loginCodec (Meets loginCodec) small s ∧
    s.step loginCodec (answer 0 firstReq) = .ok s' ∧ s'.uids = [(1, theUid)] ∧
    Authenticates loginCodec s (answer 0 firstReq) s' := by
  have hmeets : small.Meets loginCodec (connect 5) := by
    intro msg id engine _ hparse _ _ _
    rw [show loginCodec.parseFromArray .cs (Wire.csMsg loginReq) = some loginReq by
      decide +kernel] at hparse
    cases hparse
    exact ⟨by decide +kernel, fun n req hout => by cases hout.1⟩
  have hrun : Run loginCodec (Meets loginCodec) small (small.after loginCodec (connect 5)) :=
    Run.start.after trivial hmeets (by decide +kernel)
  have hpossible : (small.after loginCodec (connect 5)).Possible loginCodec (answer 0 firstReq) :=
    possible_answer (by decide +kernel) (by decide +kernel)
  have hstep : (small.after loginCodec (connect 5)).step loginCodec (answer 0 firstReq) =
      .ok ((small.after loginCodec (connect 5)).after loginCodec (answer 0 firstReq)) :=
    step_after (by decide +kernel)
  exact ⟨_, _, hrun, hstep, by decide +kernel, run_authenticates hrun hpossible hstep⟩

/-- A second client logs in to the account of the first, who is saved twice; datasvr answers
the first of the two requests. -/
def kicking : LuaBackend :=
  [connect 5, answer 0 firstReq, connect 6, answer 1 kickReq].foldl (after loginCodec) small

theorem kicking_run : Run loginCodec (fun _ _ => True) small kicking := by
  have hrun : Run loginCodec (fun _ _ => True) small small := .start
  have h₁ := hrun.after (e := connect 5) trivial trivial (by decide +kernel)
  have h₂ := h₁.after (e := answer 0 firstReq)
    (possible_answer (by decide +kernel) (by decide +kernel)) trivial (by decide +kernel)
  have h₃ := h₂.after (e := connect 6) trivial trivial (by decide +kernel)
  exact h₃.after (e := answer 1 kickReq)
    (possible_answer (by decide +kernel) (by decide +kernel)) trivial (by decide +kernel)

/-- **A login that kicks off a player** is logged in without being authenticated.  The old
player is saved twice for one `CO_YIELD`: the first answer lets the login ask for the data, and
the second lets it call `set_uid` while that request is out. -/
theorem run_unauthenticated : ∃ s s', Run loginCodec (fun _ _ => True) small s ∧
    s.Possible loginCodec (answer 2 kickReq) ∧ s.step loginCodec (answer 2 kickReq) = .ok s' ∧
    s'.uids = s.uids ++ [(2, theUid)] ∧ s'.Out 3 nextReq ∧
    ¬ Authenticates loginCodec s (answer 2 kickReq) s' := by
  have hpossible : kicking.Possible loginCodec (answer 2 kickReq) :=
    possible_answer (by decide +kernel) (by decide +kernel)
  have hstep : kicking.step loginCodec (answer 2 kickReq) =
      .ok (kicking.after loginCodec (answer 2 kickReq)) :=
    step_after (by decide +kernel)
  have huids : (kicking.after loginCodec (answer 2 kickReq)).uids =
      kicking.uids ++ [(2, theUid)] := by
    decide +kernel
  refine ⟨_, _, kicking_run, hpossible, hstep, huids, ⟨by decide +kernel, by decide +kernel⟩,
    fun h => ?_⟩
  -- the answer is to a request that saves, and not to one for data
  have hsaves : kicking.requests[2]? = some kickReq := by decide +kernel
  obtain ⟨n, _, _, _, args, _, playerIdx, hevent, -, -, -, hasked, -⟩ := h.uids (by decide +kernel)
  cases hevent
  rw [hsaves] at hasked
  cases congrArg (fun req => req.map (·.head.cmd)) hasked

end LuaBackend

end PlayFrame
