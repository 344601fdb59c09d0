/-
# `PlayFrame.GameSvrLua.Tasks` — what a task does until it yields or ends

A task is one of the three functions, for one request of a client.  It has a number, which
all its requests to datasvr carry, and it owes its client a reply with the command and the
number of the client's request.  `Runs` is what a coroutine does each time it is resumed: its
requests carry its number, it replies only at its end, and then once at most.
-/
import PlayFrame.GameSvr.Confirmations
import PlayFrame.GameSvrLua.MsgModule

namespace PlayFrame

/-- The uid, the hash of the password and the account that a registration is about. -/
structure LuaCreds where
  uid : UInt64
  passwordHash : UInt64
  account : Bytes

/-- It is a request to register these. -/
def LuaCreds.Asked (creds : LuaCreds) (req : ProtoSs.Msg) : Prop :=
  req.head.cmd = ProtoSs.accountRegReqFieldNumber ∧ ∃ playerData,
    req.accountRegReq = some ⟨creds.uid, creds.passwordHash, creds.account, playerData⟩

namespace Coroutine

/-- **The reply that a task owes**, by its command and number.  A coroutine that has not been
started does not know of any. -/
def Owes : Coroutine → Int × UInt64 → Prop
  | .start _, _ => False
  | .quickReg args _ _ _ _, key =>
      args.resCmd = LuaFunc.quickReg.resCmd ∧ key = (LuaFunc.quickReg.resCmd, args.seq)
  | .normalReg args _, key =>
      args.resCmd = LuaFunc.normalReg.resCmd ∧ key = (LuaFunc.normalReg.resCmd, args.seq)
  | .login args _ _, key =>
      args.resCmd = LuaFunc.login.resCmd ∧ key = (LuaFunc.login.resCmd, args.seq)

/-- The number of a task. -/
def Numbered (taskId : UInt64) : Coroutine → Prop
  | .start _ => False
  | .quickReg args _ _ _ _ => args.taskId = taskId
  | .normalReg args _ => args.taskId = taskId
  | .login args _ _ => args.taskId = taskId

/-- What a registration that waits has asked to register. -/
def creds : Coroutine → Option LuaCreds
  | .quickReg _ _ _ uid password => some ⟨uid, Utils.fnv64aHash password, []⟩
  | .normalReg args _ =>
      some ⟨Utils.fnv64aHash args.account, Utils.fnv64aHash args.password, args.account⟩
  | _ => none

/-- **What a task may say** when it is resumed and all is well. -/
def Grants : Coroutine → LuaArgs → ProtoCs.Msg → Prop
  | .quickReg _ _ _ uid password, .flag flag, msg =>
      flag = 0 ∧ msg.quickRegRes = some ⟨Utils.toString uid, password⟩
  | .normalReg args _, .flag flag, msg =>
      flag = 0 ∧ msg.normalRegRes = some ⟨args.account, args.password⟩
  | .login _ _ _, .flag flag, _ => flag = 0
  | _, _, _ => False

/-- The calls of `set_uid` of a task that is resumed with a flag. -/
def binds : Coroutine → Int → List (Nat × UInt64)
  | .login args (.get player) _, flag => if flag = 0 then [(player, args.uid)] else []
  | _, _ => []

end Coroutine

/-- A message is a notification: it is no reply. -/
def ProtoCs.Notifies (msg : ProtoCs.Msg) : Prop :=
  (0 ≤ msg.head.cmd ∧ msg.head.cmd < 2147483648) ∧ msg.head.ret = 0 ∧
    msg.head.cmd ∉ ProtoCs.resCmds

/-- A message is a reply with this command and number; `ok` holds of one that says that all is
well. -/
def ProtoCs.RepliesTo (key : Int × UInt64) (ok : ProtoCs.Msg → Prop) (msg : ProtoCs.Msg) : Prop :=
  (msg.head.cmd, msg.head.seq) = key ∧ (msg.head.ret = -1 ∨ msg.head.ret = 0 ∧ ok msg)

/-- The replies among the messages. -/
def ProtoCs.replies (msgs : List ProtoCs.Msg) : List ProtoCs.Msg :=
  msgs.filter fun msg => msg.head.cmd ∈ ProtoCs.resCmds

theorem ProtoCs.notifies_of_cmd {cmd : Int} {msg : ProtoCs.Msg} (hcmd : msg.head.cmd = cmd)
    (hret : msg.head.ret = 0)
    (h : (0 ≤ cmd ∧ cmd < 2147483648) ∧ cmd ∉ ProtoCs.resCmds) : ProtoCs.Notifies msg := by
  subst hcmd
  exact ⟨h.1, hret, h.2⟩

theorem ProtoCs.replies_eq_nil {msgs : List ProtoCs.Msg} (h : ∀ msg ∈ msgs, ProtoCs.Notifies msg) :
    ProtoCs.replies msgs = [] := by
  refine List.filter_eq_nil_iff.mpr fun msg hmsg => ?_
  rw [decide_eq_true_eq]
  exact (h msg hmsg).2.2

/-! ## What is done between two worlds -/

/-- **What is done**: messages go to clients, and requests to datasvr; some may get lost, and
these are not in the lists.  `set_uid` is called for the players in `binds`, and the player pool
stays in order. -/
structure Does (codec : Codec) (w w' : GameWorld) (msgs : List ProtoCs.Msg)
    (reqs : List ProtoSs.Msg) (binds : List (Nat × UInt64) := []) : Prop where
  pool : w.objMgr.playerPool.Ok → w'.objMgr.playerPool.Ok
  toConnsvr : ∃ out, w'.toConnsvr = w.toConnsvr ++ out ∧
    out.map (·.payload) = msgs.map (codec.serialize .cs)
  toDatasvr : w'.toDatasvr = w.toDatasvr ++ reqs
  uids : w'.uids = w.uids ++ binds

section
variable {codec : Codec} {w w₁ w' : GameWorld} {msgs msgs' : List ProtoCs.Msg}
  {reqs reqs' : List ProtoSs.Msg} {binds binds' : List (Nat × UInt64)} {player : Nat}
  {seq uid passwordHash taskId : UInt64} {account : Bytes} {ret : LuaRet Coroutine} {flag : Int}

namespace Does

theorem quiet (hpool : w.objMgr.playerPool.Ok → w'.objMgr.playerPool.Ok)
    (hconn : w'.toConnsvr = w.toConnsvr) (hdata : w'.toDatasvr = w.toDatasvr)
    (huids : w'.uids = w.uids) : Does codec w w' [] [] :=
  ⟨hpool, ⟨[], by rw [hconn, List.append_nil], rfl⟩, by rw [hdata, List.append_nil],
    by rw [huids, List.append_nil]⟩

theorem trans (h : Does codec w w₁ msgs reqs binds) (h' : Does codec w₁ w' msgs' reqs' binds') :
    Does codec w w' (msgs ++ msgs') (reqs ++ reqs') (binds ++ binds') := by
  obtain ⟨out, hout, hmsgs⟩ := h.toConnsvr
  obtain ⟨out', hout', hmsgs'⟩ := h'.toConnsvr
  refine ⟨fun hpool => h'.pool (h.pool hpool), ⟨out ++ out', ?_, ?_⟩, ?_, ?_⟩
  · rw [hout', hout, List.append_assoc]
  · rw [List.map_append, List.map_append, hmsgs, hmsgs']
  · rw [h'.toDatasvr, h.toDatasvr, List.append_assoc]
  · rw [h'.uids, h.uids, List.append_assoc]

theorem after (h : Does codec w w₁ [] []) (h' : Does codec w₁ w' msgs reqs binds) :
    Does codec w w' msgs reqs binds := h.trans h'

end Does

namespace Player

theorem sendCs_does {connCmd : ConnCmd} {msg : ProtoCs.Msg}
    (h : sendCs codec connCmd msg player w = .ok w') :
    ∃ msgs, Does codec w w' msgs [] ∧ msgs.Sublist [msg] := by
  obtain ⟨playerIdx, -, h⟩ := bind_eq_ok.mp h
  cases h
  unfold GameWorld.sendToConnsvr serializeToArray
  split
  · exact ⟨[], .quiet id rfl rfl rfl, List.nil_sublist _⟩
  · next bytes hbytes =>
    rw [Option.ite_none_right_eq_some] at hbytes
    obtain ⟨-, hbytes⟩ := hbytes
    cases hbytes
    split
    · exact ⟨[msg], ⟨id, ⟨[_], rfl, rfl⟩, (List.append_nil _).symm, (List.append_nil _).symm⟩,
        List.Sublist.refl _⟩
    · exact ⟨[], .quiet id rfl rfl rfl, List.nil_sublist _⟩

theorem sendToDatasvr_does (codec : Codec) (msg : ProtoSs.Msg) (w : GameWorld) :
    ∃ reqs, Does codec w (w.sendToDatasvr codec msg).2 [] reqs ∧ reqs.Sublist [msg] := by
  unfold GameWorld.sendToDatasvr
  split
  · exact ⟨[], .quiet id rfl rfl rfl, List.nil_sublist _⟩
  · split
    · exact ⟨[msg], ⟨id, ⟨[], (List.append_nil _).symm, rfl⟩, rfl, (List.append_nil _).symm⟩,
        List.Sublist.refl _⟩
    · exact ⟨[], .quiet id rfl rfl rfl, List.nil_sublist _⟩

/-- **DoAccountReg** asks to register, with the number of its task. -/
theorem doAccountReg_does
    (h : doAccountReg codec seq uid passwordHash account player w = .ok w') :
    ∃ reqs, Does codec w w' [] reqs ∧ reqs.length ≤ 1 ∧ ∀ req ∈ reqs,
      req.head.seq = seq ∧ LuaCreds.Asked ⟨uid, passwordHash, account⟩ req := by
  obtain ⟨playerIdx, -, h⟩ := bind_eq_ok.mp h
  split at h
  · cases h
    exact ⟨[], .quiet id rfl rfl rfl, Nat.zero_le _, fun _ hreq => absurd hreq List.not_mem_nil⟩
  · cases h
    obtain ⟨reqs, hdoes, hsub⟩ := sendToDatasvr_does codec _ w
    refine ⟨reqs, hdoes, hsub.length_le, fun req hreq => ?_⟩
    rw [List.mem_singleton.mp (hsub.subset hreq)]
    exact ⟨rfl, rfl, _, rfl⟩

theorem doUpdatePlayerData_does (h : doUpdatePlayerData codec seq player w = .ok w') :
    ∃ reqs, Does codec w w' [] reqs ∧ ∀ req ∈ reqs, req.head.seq = seq := by
  obtain ⟨playerIdx, -, h⟩ := bind_eq_ok.mp h
  obtain ⟨cities, -, h⟩ := bind_eq_ok.mp h
  dsimp only at h
  split at h
  · cases h
    exact ⟨[], .quiet id rfl rfl rfl, fun _ hreq => absurd hreq List.not_mem_nil⟩
  · cases h
    obtain ⟨reqs, hdoes, hsub⟩ := sendToDatasvr_does codec _ w
    refine ⟨reqs, hdoes, fun req hreq => ?_⟩
    rw [List.mem_singleton.mp (hsub.subset hreq)]
    rfl

theorem doGetPlayerData_does (h : doGetPlayerData codec seq uid passwordHash player w = .ok w') :
    ∃ reqs, Does codec w w' [] reqs ∧ ∀ req ∈ reqs, req.head.seq = seq := by
  obtain ⟨playerIdx, -, h⟩ := bind_eq_ok.mp h
  cases h
  obtain ⟨reqs, hdoes, hsub⟩ := sendToDatasvr_does codec _ w
  refine ⟨reqs, hdoes, fun req hreq => ?_⟩
  rw [List.mem_singleton.mp (hsub.subset hreq)]
  rfl

theorem setUid_does (h : setUid uid player w = .ok w') :
    Does codec w w' [] [] [(player, uid)] := by
  obtain ⟨playerIdx, -, h⟩ := bind_eq_ok.mp h
  cases h
  refine ⟨fun hpool => ?_, ⟨[], (List.append_nil _).symm, rfl⟩, (List.append_nil _).symm, rfl⟩
  dsimp only
  rw [ObjMgrModule.modifyPlayer_playerPool, ObjMgrModule.bindUidToPlayerIdx_pool]
  exact hpool.modify

theorem setPasswordHash_does : Does codec w (setPasswordHash passwordHash player w) [] [] := by
  refine .quiet (fun hpool => ?_) rfl rfl rfl
  unfold setPasswordHash
  dsimp only
  rw [ObjMgrModule.modifyPlayer_playerPool]
  exact hpool.modify

end Player

/-! ## The scripts -/

/-- **What a coroutine does** when it is resumed: its requests carry the number of its task,
and if it waits then for a registration, it has sent one at most, which asks for that; it may
send notifications, and it replies once at most, and then it ends. -/
structure Runs (codec : Codec) (key : Int × UInt64) (taskId : UInt64) (grants : ProtoCs.Msg → Prop)
    (w w' : GameWorld) (ret : LuaRet Coroutine) (binds : List (Nat × UInt64) := []) : Prop where
  next : ∀ co, ret.next = some co → co.Owes key ∧ co.Numbered taskId
  does : ∃ msgs reqs, Does codec w w' msgs reqs binds ∧
    (∀ req ∈ reqs, req.head.seq = taskId) ∧
    (∀ co, ret.next = some co → ∀ creds, co.creds = some creds →
      reqs.length ≤ 1 ∧ ∀ req ∈ reqs, creds.Asked req) ∧
    (ProtoCs.replies msgs).length ≤ 1 ∧
    ∀ msg ∈ msgs, ProtoCs.Notifies msg ∨ ret.next = none ∧ ProtoCs.RepliesTo key grants msg

section
variable {key : Int × UInt64} {grants : ProtoCs.Msg → Prop} {co : Coroutine}

theorem Runs.failed : Runs codec key taskId grants w w .failed where
  next := fun _ hco => by cases hco
  does := ⟨[], [], .quiet id rfl rfl rfl, fun _ hreq => absurd hreq List.not_mem_nil,
    fun _ hco => (by cases hco), Nat.zero_le _, fun _ hmsg => absurd hmsg List.not_mem_nil⟩

theorem Runs.yields (hdoes : Does codec w w' [] reqs) (hseq : ∀ req ∈ reqs, req.head.seq = taskId)
    (howes : co.Owes key) (hnumbered : co.Numbered taskId)
    (hcreds : ∀ creds, co.creds = some creds → reqs.length ≤ 1 ∧ ∀ req ∈ reqs, creds.Asked req) :
    Runs codec key taskId grants w w' (.yielded co) where
  next := fun co' hco => by
    cases hco
    exact ⟨howes, hnumbered⟩
  does := by
    refine ⟨[], reqs, hdoes, hseq, fun co' hco => ?_, Nat.zero_le _,
      fun _ hmsg => absurd hmsg List.not_mem_nil⟩
    cases hco
    exact hcreds

theorem Runs.replies {connCmd : ConnCmd} {msg : ProtoCs.Msg}
    (hsend : Player.sendCs codec connCmd msg player w = .ok w')
    (hreply : ProtoCs.RepliesTo key grants msg) :
    Runs codec key taskId grants w w' .returned where
  next := fun _ hco => by cases hco
  does := by
    obtain ⟨msgs, hdoes, hsub⟩ := Player.sendCs_does hsend
    refine ⟨msgs, [], hdoes, fun _ hreq => absurd hreq List.not_mem_nil,
      fun _ hco => (by cases hco), (List.length_filter_le ..).trans hsub.length_le,
      fun m hm => Or.inr ⟨rfl, ?_⟩⟩
    rw [List.mem_singleton.mp (hsub.subset hm)]
    exact hreply

theorem Runs.after (hdoes : Does codec w w₁ msgs []) (hmsgs : ∀ msg ∈ msgs, ProtoCs.Notifies msg)
    (h : Runs codec key taskId grants w₁ w' ret) : Runs codec key taskId grants w w' ret where
  next := h.next
  does := by
    obtain ⟨msgs', reqs, hdoes', hseq, hcreds, hlength, hmsgs'⟩ := h.does
    refine ⟨msgs ++ msgs', reqs, hdoes.trans hdoes', hseq, hcreds, ?_, fun msg hmsg => ?_⟩
    · have hnone := ProtoCs.replies_eq_nil hmsgs
      unfold ProtoCs.replies at hnone ⊢
      rw [List.filter_append, hnone]
      exact hlength
    · rcases List.mem_append.mp hmsg with hmsg | hmsg
      · exact Or.inl (hmsgs msg hmsg)
      · exact hmsgs' msg hmsg

end

namespace QuickReg

variable {args : QuickRegArgs} {i : Nat} {password : Bytes} {grants : ProtoCs.Msg → Prop}

theorem loop_runs (hres : args.resCmd = LuaFunc.quickReg.resCmd)
    (h : loop codec args player i w = .ok (ret, w')) :
    Runs codec (LuaFunc.quickReg.resCmd, args.seq) args.taskId grants w w' ret := by
  unfold loop at h
  split at h
  · obtain ⟨w₁, hreg, h⟩ := bind_eq_ok.mp h
    cases h
    obtain ⟨reqs, hdoes, hlength, hreqs⟩ := Player.doAccountReg_does hreg
    refine .yields hdoes (fun req hreq => (hreqs req hreq).1) ⟨hres, rfl⟩ rfl fun creds hcreds => ?_
    cases hcreds
    exact ⟨hlength, fun req hreq => (hreqs req hreq).2⟩
  · obtain ⟨w₁, hsend, h⟩ := bind_eq_ok.mp h
    cases h
    exact .replies hsend ⟨by rw [hres], Or.inl rfl⟩

theorem run_runs (hres : args.resCmd = LuaFunc.quickReg.resCmd)
    (h : run codec args w = .ok (ret, w')) :
    Runs codec (LuaFunc.quickReg.resCmd, args.seq) args.taskId grants w w' ret := by
  unfold run at h
  split at h
  · cases h
    exact .failed
  · exact loop_runs hres h

/-- A quick registration tells the uid and the password that it has asked for, when the flag
is 0. -/
theorem goOn_runs (hres : args.resCmd = LuaFunc.quickReg.resCmd)
    (h : goOn codec args player i uid password flag w = .ok (ret, w')) :
    Runs codec (LuaFunc.quickReg.resCmd, args.seq) args.taskId
      (Coroutine.Grants (.quickReg args player i uid password) (.flag flag)) w w' ret := by
  unfold goOn at h
  split at h
  · next hflag =>
    obtain ⟨w₁, hsend, h⟩ := bind_eq_ok.mp h
    cases h
    exact .replies hsend ⟨rfl, Or.inr ⟨rfl, hflag, rfl⟩⟩
  · exact loop_runs hres h

end QuickReg

namespace NormalReg

variable {args : NormalRegArgs} {grants : ProtoCs.Msg → Prop}

theorem fail_runs (hres : args.resCmd = LuaFunc.normalReg.resCmd)
    (h : fail codec args player w = .ok (ret, w')) :
    Runs codec (LuaFunc.normalReg.resCmd, args.seq) args.taskId grants w w' ret := by
  obtain ⟨w₁, hsend, h⟩ := bind_eq_ok.mp h
  cases h
  exact .replies hsend ⟨by rw [hres], Or.inl rfl⟩

theorem run_runs (hres : args.resCmd = LuaFunc.normalReg.resCmd)
    (h : run codec args w = .ok (ret, w')) :
    Runs codec (LuaFunc.normalReg.resCmd, args.seq) args.taskId grants w w' ret := by
  unfold run at h
  split at h
  · cases h
    exact .failed
  · split at h
    · exact fail_runs hres h
    · split at h
      · exact fail_runs hres h
      · obtain ⟨w₁, hreg, h⟩ := bind_eq_ok.mp h
        cases h
        obtain ⟨reqs, hdoes, hlength, hreqs⟩ := Player.doAccountReg_does hreg
        refine .yields hdoes (fun req hreq => (hreqs req hreq).1) ⟨hres, rfl⟩ rfl
          fun creds hcreds => ?_
        cases hcreds
        exact ⟨hlength, fun req hreq => (hreqs req hreq).2⟩

theorem goOn_runs (hres : args.resCmd = LuaFunc.normalReg.resCmd)
    (h : goOn codec args player flag w = .ok (ret, w')) :
    Runs codec (LuaFunc.normalReg.resCmd, args.seq) args.taskId
      (Coroutine.Grants (.normalReg args player) (.flag flag)) w w' ret := by
  unfold goOn at h
  split at h
  · next hflag =>
    obtain ⟨w₁, hsend, h⟩ := bind_eq_ok.mp h
    cases h
    exact .replies hsend ⟨rfl, Or.inr ⟨rfl, hflag, rfl⟩⟩
  · exact fail_runs hres h

end NormalReg

namespace Login

variable {args : LoginArgs} {grants : ProtoCs.Msg → Prop} {oldPlayer updateCount : Nat}
  {oldPlayerIdx : Int}

theorem fail_runs (hres : args.resCmd = LuaFunc.login.resCmd)
    (h : fail codec args player w = .ok (ret, w')) :
    Runs codec (LuaFunc.login.resCmd, args.seq) args.taskId grants w w' ret := by
  obtain ⟨w₁, hsend, h⟩ := bind_eq_ok.mp h
  cases h
  exact .replies hsend ⟨by rw [hres], Or.inl rfl⟩

theorem askData_runs (hres : args.resCmd = LuaFunc.login.resCmd)
    (h : askData codec args player w = .ok (ret, w')) :
    Runs codec (LuaFunc.login.resCmd, args.seq) args.taskId grants w w' ret := by
  obtain ⟨w₁, hget, h⟩ := bind_eq_ok.mp h
  cases h
  obtain ⟨reqs, hdoes, hreqs⟩ := Player.doGetPlayerData_does hget
  exact .yields hdoes hreqs ⟨hres, rfl⟩ rfl fun creds hcreds => by cases hcreds

theorem saveOld_runs (hres : args.resCmd = LuaFunc.login.resCmd)
    (h : saveOld codec args player oldPlayer oldPlayerIdx updateCount w = .ok (ret, w')) :
    Runs codec (LuaFunc.login.resCmd, args.seq) args.taskId grants w w' ret := by
  obtain ⟨w₁, hfirst, h⟩ := bind_eq_ok.mp h
  obtain ⟨w₂, hsecond, h⟩ := bind_eq_ok.mp h
  cases h
  obtain ⟨reqs, hdoes, hreqs⟩ := Player.doUpdatePlayerData_does hfirst
  obtain ⟨reqs', hdoes', hreqs'⟩ := Player.doUpdatePlayerData_does hsecond
  refine .yields (hdoes.trans hdoes') (fun req hreq => ?_) ⟨hres, rfl⟩ rfl
    fun creds hcreds => by cases hcreds
  exact (List.mem_append.mp hreq).elim (hreqs req) (hreqs' req)

theorem loop_runs {updatePlayerDataFlag : Int} (hres : args.resCmd = LuaFunc.login.resCmd)
    (h : loop codec args player oldPlayer oldPlayerIdx updateCount updatePlayerDataFlag w =
      .ok (ret, w')) :
    Runs codec (LuaFunc.login.resCmd, args.seq) args.taskId grants w w' ret := by
  unfold loop at h
  split at h
  · exact saveOld_runs hres h
  · obtain ⟨objMgr, hdel, h⟩ := bind_eq_ok.mp h
    have hdoes : Does codec w { w with objMgr := objMgr } [] [] :=
      .quiet (fun hpool => (ObjMgrModule.delPlayer_spec hpool hdel).1) rfl rfl rfl
    refine .after hdoes (fun _ hmsg => absurd hmsg List.not_mem_nil) ?_
    dsimp only at h
    split at h
    · exact fail_runs hres h
    · exact askData_runs hres h

theorem run_runs (hres : args.resCmd = LuaFunc.login.resCmd)
    (h : run codec args w = .ok (ret, w')) :
    Runs codec (LuaFunc.login.resCmd, args.seq) args.taskId grants w w' ret := by
  unfold run at h
  split at h
  · cases h
    exact .failed
  unfold runFor at h
  dsimp only at h
  split at h
  · split at h
    · cases h
      exact .failed
    · obtain ⟨w₁, hkick, h⟩ := bind_eq_ok.mp h
      obtain ⟨msgs, hdoes, hsub⟩ := Player.sendCs_does hkick
      refine .after hdoes (fun msg hmsg => ?_) (loop_runs hres h)
      rw [List.mem_singleton.mp (hsub.subset hmsg)]
      exact ProtoCs.notifies_of_cmd rfl rfl (by decide)
  · exact askData_runs hres h

theorem gotData_runs (hres : args.resCmd = LuaFunc.login.resCmd)
    (h : gotData codec args player flag w = .ok (ret, w')) :
    Runs codec (LuaFunc.login.resCmd, args.seq) args.taskId (fun _ => flag = 0) w w' ret
      (if flag = 0 then [(player, args.uid)] else []) := by
  unfold gotData at h
  split at h
  · next hflag =>
    rw [if_neg hflag]
    exact fail_runs hres h
  · next hflag =>
    rw [if_pos (not_not.mp hflag)]
    obtain ⟨w₁, huid, h⟩ := bind_eq_ok.mp h
    obtain ⟨w₂, hok, h⟩ := bind_eq_ok.mp h
    obtain ⟨w₃, hinfo, h⟩ := bind_eq_ok.mp h
    cases h
    obtain ⟨msgs, hdoes, hsub⟩ := Player.sendCs_does hok
    obtain ⟨ntfs, hntfs, hsub'⟩ := Player.sendCs_does hinfo
    have hinfos : ∀ msg ∈ ntfs, ProtoCs.Notifies msg := by
      intro msg hmsg
      rw [List.mem_singleton.mp (hsub'.subset hmsg)]
      have hcmd : (0 ≤ ProtoCs.roleInfoNtfFieldNumber ∧
          ProtoCs.roleInfoNtfFieldNumber < 2147483648) ∧
          ProtoCs.roleInfoNtfFieldNumber ∉ ProtoCs.resCmds := by decide
      exact ProtoCs.notifies_of_cmd rfl rfl hcmd
    have hbefore := (Player.setUid_does huid).trans (Player.setPasswordHash_does.after hdoes)
    refine ⟨fun _ hco => (by cases hco), msgs ++ ntfs, [], hbefore.trans hntfs,
      fun _ hreq => absurd hreq List.not_mem_nil, fun _ hco => (by cases hco), ?_,
      fun msg hmsg => ?_⟩
    · have hnone := ProtoCs.replies_eq_nil hinfos
      unfold ProtoCs.replies at hnone ⊢
      rw [List.filter_append, hnone, List.append_nil]
      exact (List.length_filter_le ..).trans hsub.length_le
    · rcases List.mem_append.mp hmsg with hmsg | hmsg
      · rw [List.mem_singleton.mp (hsub.subset hmsg)]
        exact Or.inr ⟨rfl, rfl, Or.inr ⟨rfl, not_not.mp hflag⟩⟩
      · exact Or.inl (hinfos msg hmsg)

end Login

/-! ## The interpreter -/

theorem scripts_start {func : LuaFunc} {raw : UInt64} {msg : ProtoCs.Msg} {connData : ConnData}
    (grants : ProtoCs.Msg → Prop)
    (h : (scripts codec).resume (.start func)
      (LuaGameSvr.requestArgs raw msg connData taskId func) w = .ok (ret, w')) :
    Runs codec (func.resCmd, msg.head.seq) taskId grants w w' ret := by
  cases func with
  | quickReg => exact QuickReg.run_runs rfl h
  | normalReg => exact NormalReg.run_runs rfl h
  | login => exact Login.run_runs rfl h

theorem scripts_resume {co : Coroutine} {key : Int × UInt64} (howes : co.Owes key)
    (hnumbered : co.Numbered taskId)
    (h : (scripts codec).resume co (.flag flag) w = .ok (ret, w')) :
    Runs codec key taskId (co.Grants (.flag flag)) w w' ret (co.binds flag) := by
  cases co with
  | start func => cases howes
  | quickReg args player i uid password =>
      obtain ⟨hres, rfl⟩ := howes
      cases hnumbered
      exact QuickReg.goOn_runs hres h
  | normalReg args player =>
      obtain ⟨hres, rfl⟩ := howes
      cases hnumbered
      exact NormalReg.goOn_runs hres h
  | login args point request =>
      obtain ⟨hres, rfl⟩ := howes
      cases hnumbered
      cases point with
      | update player oldPlayer oldPlayerIdx updateCount => exact Login.loop_runs hres h
      | get player => exact Login.gotData_runs hres h

end

end PlayFrame
