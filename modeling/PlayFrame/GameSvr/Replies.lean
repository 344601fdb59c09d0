/-
# `PlayFrame.GameSvr.Replies` — requests and their replies

A client sends `LoginReq`, `QuickRegReq` or `NormalRegReq`; it launches an instance, which
remembers the number of the request and the index of the client's player.  The step that
sends the reply is the last one of the instance, so there is at most one.

The reply goes to the connection that the player at the index has *by then*, which may be
that of another client, and the failure of a quick registration is sent as that of a normal
one.  Apart from these the reply is the one of the request (`run_replies`).
-/
import PlayFrame.GameSvr.Backend

namespace PlayFrame

/-- The command of the reply to a request. -/
def ProtoCs.resOf (cmd : Int) : Int :=
  if cmd = ProtoCs.loginReqFieldNumber then ProtoCs.loginResFieldNumber
  else if cmd = ProtoCs.quickRegReqFieldNumber then ProtoCs.quickRegResFieldNumber
  else ProtoCs.normalRegResFieldNumber

/-- The commands of the replies; what else is sent to a client is a notification. -/
def ProtoCs.resCmds : List Int :=
  [ProtoCs.loginResFieldNumber, ProtoCs.quickRegResFieldNumber, ProtoCs.normalRegResFieldNumber]

/-- `head` reads the command and the number of a message from its bytes. -/
def Codec.Heads (codec : Codec) (head : Bytes → Int × UInt64) : Prop :=
  ∀ msg : ProtoCs.Msg, 0 ≤ msg.head.cmd → msg.head.cmd < 2147483648 →
    head (codec.serialize .cs msg) = (msg.head.cmd, msg.head.seq)

/-- The replies among what is sent. -/
def replies (head : Bytes → Int × UInt64) (out : List ConnMsg) : List ConnMsg :=
  out.filter fun msg => (head msg.payload).1 ∈ ProtoCs.resCmds

/-! ## One step of an instance -/

/-- A step replies, if it finds the player: the credentials of the request do not pass, or
the answer of datasvr is the one that the instance ends with. -/
def Replying (logicType step : Int) : StepArgs → Prop
  | .cs msg _ =>
      logicType = MsgModule.logicLogin ∧ ¬ LogicLogin.Passes msg ∨
        logicType = MsgModule.logicNormalReg ∧
          (msg.normalRegReq.getD {}).account.length ≤ 32 ∧
          (msg.normalRegReq.getD {}).password.length ≤ 16 ∧
          ¬ (Utils.checkAccount (msg.normalRegReq.getD {}).account = 0 ∧
            Utils.checkPassword (msg.normalRegReq.getD {}).password = 0)
  | .ss msg => logicType ≠ MsgModule.logicUpdatePlayer ∧
      ¬ (logicType = MsgModule.logicLogin ∧ step = 1 ∧ msg.head.ret = ProtoSs.retOk)
  | .playerIdx _ => False

/-- The command that a step replies with. -/
def replyCmd (logicType : Int) : StepArgs → Int
  | .ss msg =>
      if logicType = MsgModule.logicLogin then ProtoCs.loginResFieldNumber
      else if logicType = MsgModule.logicQuickReg ∧ msg.head.ret = ProtoSs.retOk then
        ProtoCs.quickRegResFieldNumber
      else ProtoCs.normalRegResFieldNumber
  | _ =>
      if logicType = MsgModule.logicLogin then ProtoCs.loginResFieldNumber
      else ProtoCs.normalRegResFieldNumber

/-- What an instance knows of its client: the first step takes it from the request, and the
others leave it. -/
def Carries (d d' : LogicData LogicBody) : StepArgs → Prop
  | .cs msg connData =>
      d'.body.clientSeq = msg.head.seq ∧ d'.body.playerIdx = connData.playerIdx
  | .ss _ => d'.body.clientSeq = d.body.clientSeq ∧ d'.body.playerIdx = d.body.playerIdx
  | .playerIdx _ => True

/-- A reply of an instance: with the number of the request, to the connection that the
player at the index has. -/
structure ReplyOf (head : Bytes → Int × UInt64) (m : ObjMgrModule) (d : LogicData LogicBody)
    (cmd : Int) (msg : ConnMsg) : Prop where
  head : head msg.payload = (cmd, d.body.clientSeq)
  player : ∃ k : Nat, d.body.playerIdx = k ∧ m.Live k ∧
    msg.connData.connFd = (m.player k).connFd

/-- What a step sends: no reply, or one, and then the instance ends. -/
inductive Speaks (head : Bytes → Int × UInt64) (logicType step : Int) (args : StepArgs)
    (m : ObjMgrModule) (d d' : LogicData LogicBody) (ret : Int) (out : List ConnMsg) : Prop
  | silent : replies head out = [] → (ret = logicYield → Carries d d' args) →
      Speaks head logicType step args m d d' ret out
  | replied (msg : ConnMsg) : replies head out = [msg] → ret ≠ logicYield →
      Carries d d' args → Replying logicType step args →
      ReplyOf head m d' (replyCmd logicType args) msg →
      Speaks head logicType step args m d d' ret out

/-- What a step adds to what is sent to connsvr. -/
def StepSpeaks (head : Bytes → Int × UInt64) (logicType step : Int) (args : StepArgs)
    (d d' : LogicData LogicBody) (w w' : GameWorld) (ret : Int) : Prop :=
  ∃ out, w'.toConnsvr = w.toConnsvr ++ out ∧
    Speaks head logicType step args w.objMgr d d' ret out

section
variable {codec : Codec} {head : Bytes → Int × UInt64} {logicType step : Int} {args : StepArgs}
  {d d₁ d' : LogicData LogicBody} {w w₁ w' : GameWorld} {ret : Int} {k : Nat}

@[simp] theorem replies_append (out out' : List ConnMsg) :
    replies head (out ++ out') = replies head out ++ replies head out' := List.filter_append ..

theorem StepSpeaks.silent (h : w'.toConnsvr = w.toConnsvr)
    (hcarries : ret = logicYield → Carries d d' args) :
    StepSpeaks head logicType step args d d' w w' ret :=
  ⟨[], by rw [h, List.append_nil], .silent rfl hcarries⟩

theorem Player.sendCs_notify {connCmd : ConnCmd} {msg : ProtoCs.Msg} (hhead : codec.Heads head)
    (hk : w.objMgr.Live k) (h : Player.sendCs codec connCmd msg k w = .ok w')
    (h₀ : 0 ≤ msg.head.cmd) (h₁ : msg.head.cmd < 2147483648)
    (hcmd : msg.head.cmd ∉ ProtoCs.resCmds) :
    ∃ out, w'.toConnsvr = w.toConnsvr ++ out ∧ replies head out = [] := by
  rcases Player.sendCs_out hk h with hout | hout
  · exact ⟨[], by rw [hout, List.append_nil], rfl⟩
  · exact ⟨_, hout, by simp [replies, hhead msg h₀ h₁, hcmd]⟩

theorem Player.sendCs_reply {connCmd : ConnCmd} {msg : ProtoCs.Msg} (hhead : codec.Heads head)
    (hk : w.objMgr.Live k) (h : Player.sendCs codec connCmd msg k w = .ok w')
    (hcmd : msg.head.cmd = replyCmd logicType args) (hseq : msg.head.seq = d'.body.clientSeq)
    (hidx : d'.body.playerIdx = k) (hret : ret ≠ logicYield) (hcarries : Carries d d' args)
    (hreplying : Replying logicType step args) :
    StepSpeaks head logicType step args d d' w w' ret := by
  have hres : replyCmd logicType args ∈ ProtoCs.resCmds ∧ 0 ≤ replyCmd logicType args ∧
      replyCmd logicType args < 2147483648 := by
    unfold replyCmd
    split <;> split_ifs <;> decide
  obtain ⟨hmem, h₀, h₁⟩ := hres
  rw [← hcmd] at h₀ h₁ hmem
  have hread := hhead msg h₀ h₁
  rcases Player.sendCs_out hk h with hout | hout
  · exact .silent hout (fun hyield => absurd hyield hret)
  · have hone : replies head [⟨⟨(w.objMgr.player k).connFd, k, connCmd⟩,
        codec.serialize .cs msg⟩] = [⟨⟨(w.objMgr.player k).connFd, k, connCmd⟩, _⟩] :=
      List.filter_cons_of_pos (by simp [hread, hmem])
    refine ⟨_, hout, .replied _ hone hret hcarries hreplying ⟨?_, k, hidx, hk, rfl⟩⟩
    rw [hread, hcmd, hseq]

theorem StepSpeaks.of_quiet (hout : w₁.toConnsvr = w.toConnsvr)
    (hsame : ObjMgrModule.SamePlayers w.objMgr w₁.objMgr)
    (h : StepSpeaks head logicType step args d d' w₁ w' ret) :
    StepSpeaks head logicType step args d d' w w' ret := by
  obtain ⟨out, hsent, hspeaks⟩ := h
  rw [hout] at hsent
  refine ⟨out, hsent, ?_⟩
  cases hspeaks with
  | silent hnone hcarries => exact .silent hnone hcarries
  | replied msg hone hret hcarries hreplying hreply =>
      obtain ⟨k, hidx, hk, hfd⟩ := hreply.player
      exact .replied msg hone hret hcarries hreplying
        ⟨hreply.head, k, hidx, (hsame.live k).mp hk, hfd.trans (hsame.connFd k)⟩

theorem StepSpeaks.notify (h : StepSpeaks head logicType step args d d' w w₁ ret)
    (hntf : ∃ out, w'.toConnsvr = w₁.toConnsvr ++ out ∧ replies head out = []) :
    StepSpeaks head logicType step args d d' w w' ret := by
  obtain ⟨out, hsent, hspeaks⟩ := h
  obtain ⟨out', hsent', hnone'⟩ := hntf
  refine ⟨out ++ out', by rw [hsent', hsent, List.append_assoc], ?_⟩
  cases hspeaks with
  | silent hnone hcarries => exact .silent (by simp [hnone, hnone']) hcarries
  | replied msg hone hret hcarries hreplying hreply =>
      exact .replied msg (by simp [hone, hnone']) hret hcarries hreplying hreply

theorem Player.doGetPlayerData_toConnsvr {seq uid passwordHash : UInt64}
    (h : Player.doGetPlayerData codec seq uid passwordHash k w = .ok w') :
    w'.toConnsvr = w.toConnsvr := by
  obtain ⟨playerIdx, -, h⟩ := bind_eq_ok.mp h
  cases h
  exact (Player.sendToDatasvr_frame _ w).2

theorem Player.doAccountReg_toConnsvr {seq uid passwordHash : UInt64} {account : Bytes}
    (h : Player.doAccountReg codec seq uid passwordHash account k w = .ok w') :
    w'.toConnsvr = w.toConnsvr := by
  obtain ⟨playerIdx, -, h⟩ := bind_eq_ok.mp h
  split at h
  · cases h
    rfl
  · cases h
    exact (Player.sendToDatasvr_frame _ w).2

/-! ### Login -/

namespace LogicLogin

theorem fail_speaks (hhead : codec.Heads head) (hk : w.objMgr.Live k)
    (hidx : d₁.body.playerIdx = k) (hcarries : Carries d d₁ args)
    (hreplying : Replying MsgModule.logicLogin step args)
    (h : fail codec d₁ k w = .ok (ret, d', w')) :
    StepSpeaks head MsgModule.logicLogin step args d d' w w' ret := by
  obtain ⟨w₁, hsend, h⟩ := bind_eq_ok.mp h
  cases h
  refine Player.sendCs_reply hhead hk hsend ?_ rfl hidx (by decide) hcarries hreplying
  unfold replyCmd
  split <;> rfl

theorem askData_speaks (hcarries : Carries d d₁ args)
    (h : askData codec d₁ k w = .ok (ret, d', w')) :
    StepSpeaks head MsgModule.logicLogin step args d d' w w' ret := by
  obtain ⟨w₁, hask, h⟩ := bind_eq_ok.mp h
  cases h
  exact .silent (Player.doGetPlayerData_toConnsvr hask) (fun _ => hcarries)

theorem kickOff_speaks (hhead : codec.Heads head) (hcarries : Carries d d₁ args)
    (h : kickOff codec d₁ (oldPlayer d₁ w) w = .ok (ret, d', w')) :
    StepSpeaks head MsgModule.logicLogin step args d d' w w' ret := by
  cases hp : oldPlayer d₁ w with
  | none =>
      rw [hp] at h
      cases h
      exact .silent rfl (fun hyield => absurd hyield (by decide))
  | some old =>
      rw [hp] at h
      have hold := (oldPlayer_eq_some hp).2
      obtain ⟨w₁, hkick, h⟩ := bind_eq_ok.mp h
      obtain ⟨w₂, hupdate, h⟩ := bind_eq_ok.mp h
      cases h
      obtain ⟨out, hout, hnone⟩ :=
        Player.sendCs_notify hhead hold hkick (by decide) (by decide) (by decide)
      rw [← (Player.doUpdatePlayerData_frame hupdate).2] at hout
      exact ⟨out, hout, .silent hnone (fun _ => hcarries)⟩

theorem onStep0_speaks (hhead : codec.Heads head)
    (h : onStep0 codec d args w = .ok (ret, d', w')) :
    StepSpeaks head MsgModule.logicLogin step args d d' w w' ret := by
  cases args with
  | ss msg => cases h
  | playerIdx i => cases h
  | cs msg connData =>
      unfold onStep0 at h
      dsimp only at h
      have hcarries : Carries d (rememberClient d msg connData) (.cs msg connData) := ⟨rfl, rfl⟩
      cases hp : w.objMgr.getPlayer (rememberClient d msg connData).body.playerIdx with
      | none =>
          rw [hp] at h
          cases h
          exact .silent rfl (fun _ => hcarries)
      | some player =>
          obtain ⟨hidx, hk⟩ := ObjMgrModule.getPlayer_eq_some.mp hp
          simp only [hp] at h
          split at h
          · next haccount =>
            exact fail_speaks hhead hk hidx hcarries (Or.inl ⟨rfl, fun h => haccount h.1⟩) h
          split at h
          · next hpassword =>
            exact fail_speaks hhead hk hidx hcarries (Or.inl ⟨rfl, fun h => hpassword h.2⟩) h
          have hcarries₁ : Carries d (withLogin (rememberClient d msg connData)
              (msg.loginReq.getD {})) (.cs msg connData) := ⟨rfl, rfl⟩
          split at h
          · exact kickOff_speaks hhead hcarries₁ h
          · exact askData_speaks hcarries₁ h

theorem onStep1_speaks (hhead : codec.Heads head)
    (h : onStep1 codec d args w = .ok (ret, d', w')) :
    StepSpeaks head MsgModule.logicLogin step args d d' w w' ret := by
  cases args with
  | cs msg connData => cases h
  | playerIdx i => cases h
  | ss msg =>
      unfold onStep1 at h
      cases hp : w.objMgr.getPlayer d.body.playerIdx with
      | none =>
          simp only [hp] at h
          cases h
          exact .silent rfl (fun _ => ⟨rfl, rfl⟩)
      | some player =>
          obtain ⟨hidx, hk⟩ := ObjMgrModule.getPlayer_eq_some.mp hp
          simp only [hp] at h
          split at h
          · next hret =>
            exact fail_speaks hhead hk hidx ⟨rfl, rfl⟩ ⟨by decide, fun h => hret h.2.2⟩ h
          · exact askData_speaks ⟨rfl, rfl⟩ h

theorem onStep2_speaks (hhead : codec.Heads head) (hstep : step ≠ 1)
    (h : onStep2 codec d args w = .ok (ret, d', w')) :
    StepSpeaks head MsgModule.logicLogin step args d d' w w' ret := by
  obtain ⟨msg, -, rfl, -⟩ := onStep2_spec h
  have hreplying : Replying MsgModule.logicLogin step (.ss msg) :=
    ⟨by decide, fun h => hstep h.2.1⟩
  by_cases hret : msg.head.ret = ProtoSs.retOk
  · obtain ⟨rfl, rfl, k, w₁, w₂, w₃, hidx, hk, hload, huid, hres, hntf⟩ := onStep2_good h hret
    have h₁ := (Player.setPlayerByDb_acts (answerData codec msg).roleInfo k w).trans
      (loadCities_acts _ _ hload)
    have hk₁ := (h₁.same.live k).mpr hk
    have h₂ := (h₁.trans (Player.setUid_acts hk₁ huid)).trans
      (Player.setPasswordHash_acts d'.body.passwordHash k w₂)
    have hquiet : (Player.setPasswordHash d'.body.passwordHash k w₂).toConnsvr = w.toConnsvr :=
      (Player.setUid_toConnsvr huid).trans (loadCities_toConnsvr _ hload :)
    have hk₂ := (h₂.same.live k).mpr hk
    have hk₃ : w₃.objMgr.Live k := by
      rw [Player.sendCs_objMgr hres]
      exact hk₂
    have hreplied : StepSpeaks head MsgModule.logicLogin step (.ss msg) d' d' _ w₃ logicFinish :=
      Player.sendCs_reply hhead hk₂ hres rfl rfl hidx (by decide) ⟨rfl, rfl⟩ hreplying
    have hcmd : 0 ≤ ProtoCs.roleInfoNtfFieldNumber ∧ ProtoCs.roleInfoNtfFieldNumber < 2147483648 ∧
        ProtoCs.roleInfoNtfFieldNumber ∉ ProtoCs.resCmds := by decide
    exact (hreplied.of_quiet hquiet h₂.same).notify
      (Player.sendCs_notify hhead hk₃ hntf hcmd.1 hcmd.2.1 hcmd.2.2)
  · obtain ⟨rfl, rfl, k, hidx, hk, hsend⟩ := onStep2_bad h hret
    exact Player.sendCs_reply hhead hk hsend rfl rfl hidx (by decide) ⟨rfl, rfl⟩ hreplying

end LogicLogin

/-! ### Registration and saving -/

namespace LogicNormalReg

theorem fail_speaks (hhead : codec.Heads head) (hk : w.objMgr.Live k)
    (hidx : d₁.body.playerIdx = k) (hcarries : Carries d d₁ args)
    (hcmd : replyCmd MsgModule.logicNormalReg args = ProtoCs.normalRegResFieldNumber)
    (hreplying : Replying MsgModule.logicNormalReg step args)
    (h : fail codec d₁ k w = .ok (ret, d', w')) :
    StepSpeaks head MsgModule.logicNormalReg step args d d' w w' ret := by
  obtain ⟨w₁, hsend, h⟩ := bind_eq_ok.mp h
  cases h
  exact Player.sendCs_reply hhead hk hsend hcmd.symm rfl hidx (by decide) hcarries hreplying

theorem onStep0_speaks (hhead : codec.Heads head)
    (h : onStep0 codec d args w = .ok (ret, d', w')) :
    StepSpeaks head MsgModule.logicNormalReg step args d d' w w' ret := by
  cases args with
  | ss msg => cases h
  | playerIdx i => cases h
  | cs msg connData =>
      unfold onStep0 at h
      dsimp only at h
      split at h
      · cases h
        exact .silent rfl (fun hyield => absurd hyield (by decide))
      next haccount =>
      split at h
      · cases h
        exact .silent rfl (fun hyield => absurd hyield (by decide))
      next hpassword =>
      generalize hd₁ : rememberClient _ msg connData = d₁ at h
      have hcarries : Carries d d₁ (.cs msg connData) := by
        rw [← hd₁]
        exact ⟨rfl, rfl⟩
      cases hp : w.objMgr.getPlayer d₁.body.playerIdx with
      | none =>
          rw [hp] at h
          cases h
          exact .silent rfl (fun _ => hcarries)
      | some player =>
          obtain ⟨hidx, hk⟩ := ObjMgrModule.getPlayer_eq_some.mp hp
          simp only [hp] at h
          split at h
          · next hcheck =>
            exact fail_speaks hhead hk hidx hcarries rfl
              (Or.inr ⟨rfl, not_lt.mp haccount, not_lt.mp hpassword, fun h => hcheck h.1⟩) h
          split at h
          · next hcheck =>
            exact fail_speaks hhead hk hidx hcarries rfl
              (Or.inr ⟨rfl, not_lt.mp haccount, not_lt.mp hpassword, fun h => hcheck h.2⟩) h
          obtain ⟨account, -, h⟩ := bind_eq_ok.mp h
          obtain ⟨w₁, hreg, h⟩ := bind_eq_ok.mp h
          cases h
          exact .silent (Player.doAccountReg_toConnsvr hreg) (fun _ => hcarries)

theorem onStep1_speaks (hhead : codec.Heads head)
    (h : onStep1 codec d args w = .ok (ret, d', w')) :
    StepSpeaks head MsgModule.logicNormalReg step args d d' w w' ret := by
  cases args with
  | cs msg connData => cases h
  | playerIdx i => cases h
  | ss msg =>
      have hreplying : Replying MsgModule.logicNormalReg step (.ss msg) :=
        ⟨by decide, fun h => absurd h.1 (by decide)⟩
      have hcmd : ProtoCs.normalRegResFieldNumber =
          replyCmd MsgModule.logicNormalReg (.ss msg) := by
        rw [replyCmd, if_neg (by decide), if_neg (fun h => absurd h.1 (by decide))]
      unfold onStep1 at h
      cases hp : w.objMgr.getPlayer d.body.playerIdx with
      | none =>
          simp only [hp] at h
          cases h
          exact .silent rfl (fun _ => ⟨rfl, rfl⟩)
      | some player =>
          obtain ⟨hidx, hk⟩ := ObjMgrModule.getPlayer_eq_some.mp hp
          simp only [hp] at h
          split at h
          · obtain ⟨account, -, h⟩ := bind_eq_ok.mp h
            obtain ⟨password, -, h⟩ := bind_eq_ok.mp h
            obtain ⟨w₁, hsend, h⟩ := bind_eq_ok.mp h
            cases h
            exact Player.sendCs_reply hhead hk hsend hcmd rfl hidx (by decide) ⟨rfl, rfl⟩ hreplying
          · obtain ⟨w₁, hsend, h⟩ := bind_eq_ok.mp h
            cases h
            exact Player.sendCs_reply hhead hk hsend hcmd rfl hidx (by decide) ⟨rfl, rfl⟩ hreplying

end LogicNormalReg

namespace LogicQuickReg

theorem onStep0_speaks (h : onStep0 codec d args w = .ok (ret, d', w')) :
    StepSpeaks head MsgModule.logicQuickReg step args d d' w w' ret := by
  cases args with
  | ss msg => cases h
  | playerIdx i => cases h
  | cs msg connData =>
      unfold onStep0 at h
      dsimp only at h
      generalize hd₁ : rememberClient _ msg connData = d₁ at h
      have hcarries : Carries d d₁ (.cs msg connData) := by
        rw [← hd₁]
        exact ⟨rfl, rfl⟩
      cases hp : w.objMgr.getPlayer d₁.body.playerIdx with
      | none =>
          rw [hp] at h
          cases h
          exact .silent rfl (fun _ => hcarries)
      | some player =>
          simp only [hp] at h
          obtain ⟨password, -, h⟩ := bind_eq_ok.mp h
          obtain ⟨w₁, hreg, h⟩ := bind_eq_ok.mp h
          cases h
          exact .silent (Player.doAccountReg_toConnsvr hreg) (fun _ => hcarries)

theorem onStep1_speaks (hhead : codec.Heads head)
    (h : onStep1 codec d args w = .ok (ret, d', w')) :
    StepSpeaks head MsgModule.logicQuickReg step args d d' w w' ret := by
  cases args with
  | cs msg connData => cases h
  | playerIdx i => cases h
  | ss msg =>
      have hreplying : Replying MsgModule.logicQuickReg step (.ss msg) :=
        ⟨by decide, fun h => absurd h.1 (by decide)⟩
      unfold onStep1 at h
      cases hp : w.objMgr.getPlayer d.body.playerIdx with
      | none =>
          simp only [hp] at h
          cases h
          exact .silent rfl (fun _ => ⟨rfl, rfl⟩)
      | some player =>
          obtain ⟨hidx, hk⟩ := ObjMgrModule.getPlayer_eq_some.mp hp
          simp only [hp] at h
          split at h
          · next hret =>
            obtain ⟨password, -, h⟩ := bind_eq_ok.mp h
            obtain ⟨w₁, hsend, h⟩ := bind_eq_ok.mp h
            cases h
            refine Player.sendCs_reply hhead hk hsend ?_ rfl hidx (by decide) ⟨rfl, rfl⟩ hreplying
            rw [replyCmd, if_neg (by decide), if_pos ⟨rfl, hret⟩]
          · next hret =>
            obtain ⟨w₁, hsend, h⟩ := bind_eq_ok.mp h
            cases h
            refine Player.sendCs_reply hhead hk hsend ?_ rfl hidx (by decide) ⟨rfl, rfl⟩ hreplying
            rw [replyCmd, if_neg (by decide), if_neg (fun h => hret h.2)]

end LogicQuickReg

namespace LogicUpdatePlayer

theorem onStep0_speaks (h : onStep0 codec d args w = .ok (ret, d', w')) :
    StepSpeaks head logicType step args d d' w w' ret := by
  cases args with
  | cs msg connData => cases h
  | ss msg => cases h
  | playerIdx i =>
      unfold onStep0 at h
      dsimp only at h
      cases hp : w.objMgr.getPlayer i with
      | none =>
          simp only [hp] at h
          cases h
          exact .silent rfl (fun _ => trivial)
      | some player =>
          simp only [hp] at h
          obtain ⟨w₁, hupdate, h⟩ := bind_eq_ok.mp h
          cases h
          exact .silent (Player.doUpdatePlayerData_frame hupdate).2 (fun _ => trivial)

theorem onStep1_speaks (h : onStep1 d args w = .ok (ret, d', w')) :
    StepSpeaks head logicType step args d d' w w' ret := by
  cases args with
  | cs msg connData => cases h
  | playerIdx i => cases h
  | ss msg =>
      cases h
      exact .silent rfl (fun _ => ⟨rfl, rfl⟩)

end LogicUpdatePlayer

/-! ### All logics -/

/-- **The steps of any logic** send no reply, or one, and then the instance ends. -/
theorem logicTypes_speaks {logic : LogicBase LogicBody StepArgs GameWorld}
    (hhead : codec.Heads head) (htype : (logicTypes codec).logicTypeMap logicType = some logic)
    (h : logic.proc d args w = .ok (ret, d', w')) :
    StepSpeaks head logicType d.head.step args d d' w w' ret := by
  by_cases hlogin : logicType = MsgModule.logicLogin
  · subst hlogin
    rcases logicTypes_login htype h with ⟨rfl, -, rfl⟩ | ⟨-, h⟩ | ⟨-, h⟩ | ⟨htwo, h⟩
    · exact .silent rfl (fun hyield => absurd hyield (by decide))
    · exact LogicLogin.onStep0_speaks hhead h
    · exact LogicLogin.onStep1_speaks hhead h
    · exact LogicLogin.onStep2_speaks hhead (by rw [htwo]; decide) h
  · rcases logic.proc_cases d args w with he | ⟨f, hf, he⟩
    · rw [he] at h
      cases h
      exact .silent rfl (fun hyield => absurd hyield (by decide))
    · rw [he] at h
      unfold logicTypes at htype
      dsimp only at htype
      rw [if_neg hlogin] at htype
      split at htype
      · next hlogic =>
        cases htype
        rw [hlogic]
        rcases List.mem_pair.mp hf with rfl | rfl
        · exact LogicNormalReg.onStep0_speaks hhead h
        · exact LogicNormalReg.onStep1_speaks hhead h
      split at htype
      · next hlogic =>
        cases htype
        rw [hlogic]
        rcases List.mem_pair.mp hf with rfl | rfl
        · exact LogicQuickReg.onStep0_speaks h
        · exact LogicQuickReg.onStep1_speaks hhead h
      split at htype
      · cases htype
        rcases List.mem_pair.mp hf with rfl | rfl
        · exact LogicUpdatePlayer.onStep0_speaks h
        · exact LogicUpdatePlayer.onStep1_speaks h
      · cases htype

theorem LogicModule.Launched.speaks {raw : LogicBody} {logicId : Int}
    {m m' : LogicModule LogicBody} (hhead : codec.Heads head)
    (h : LogicModule.Launched (logicTypes codec) raw logicId logicType args m m' w w') :
    ∃ ret d', StepSpeaks head logicType 0 args ⟨⟨logicId, logicType, 0⟩, raw⟩ d' w w' ret ∧
      d'.head.logicType = logicType ∧
      m'.store.logicDataMap.lookup logicId = if ret = logicYield then some d' else none := by
  obtain ⟨logic, ret, d', htype, hstep, hlookup⟩ := h.step
  obtain ⟨reqs, uids, hacts⟩ := logicTypes_acts htype hstep
  exact ⟨ret, d', logicTypes_speaks hhead htype hstep, hacts.head.2, hlookup⟩

theorem LogicModule.Resumed.speaks {logicId : Int} {m m' : LogicModule LogicBody}
    (hhead : codec.Heads head)
    (h : LogicModule.Resumed (logicTypes codec) logicId args d m m' w w') :
    ∃ ret d', StepSpeaks head d.head.logicType d.head.step args d d' w w' ret ∧
      d'.head.logicType = d.head.logicType ∧
      m'.store.logicDataMap.lookup logicId = if ret = logicYield then some d' else none := by
  obtain ⟨logic, ret, d', htype, hstep, hlookup⟩ := h.step
  obtain ⟨reqs, uids, hacts⟩ := logicTypes_acts htype hstep
  exact ⟨ret, d', logicTypes_speaks hhead htype hstep, hacts.head.2, hlookup⟩

theorem replyCmd_cs {cmd : Int} {msg : ProtoCs.Msg} {connData : ConnData}
    (hcmd : cmd ∈ MsgModule.commands .cs)
    (h : Replying (MsgModule.cmdLogicTypeMap cmd) step (.cs msg connData)) :
    replyCmd (MsgModule.cmdLogicTypeMap cmd) (.cs msg connData) = ProtoCs.resOf cmd := by
  rcases MsgModule.mem_commands_cs.mp hcmd with rfl | rfl | rfl
  · rfl
  · rcases h with ⟨hlogin, -⟩ | ⟨hnormal, -⟩
    · exact absurd hlogin (by decide)
    · exact absurd hnormal (by decide)
  · rfl

/-- An instance ends with the reply to its request, but for a quick registration that
fails. -/
theorem replyCmd_ss {cmd : Int} {msg : ProtoSs.Msg} (hcmd : cmd ∈ MsgModule.commands .cs)
    (hquick : MsgModule.cmdLogicTypeMap cmd = MsgModule.logicQuickReg →
      msg.head.ret = ProtoSs.retOk) :
    replyCmd (MsgModule.cmdLogicTypeMap cmd) (.ss msg) = ProtoCs.resOf cmd := by
  rcases MsgModule.mem_commands_cs.mp hcmd with rfl | rfl | rfl
  · rfl
  · have hret := hquick rfl
    rw [replyCmd, if_neg (by decide), if_pos ⟨rfl, hret⟩]
    rfl
  · rw [replyCmd, if_neg (by decide), if_neg (fun h => absurd h.1 (by decide))]
    rfl

end

/-! ## Runs -/

namespace Backend

open GameSvr (ConnsvrRun Enters)

/-- A reply is that to the request that an instance was launched with. -/
structure Matches (head : Bytes → Int × UInt64) (o : Launch) (msg : ConnMsg) : Prop where
  head : head msg.payload = (ProtoCs.resOf o.msg.head.cmd, o.msg.head.seq)
  connFd : msg.connData.connFd = o.connData.connFd

/-- The instance that a step is one of: the one launched by the message of a client, or the
one that the answer of datasvr is for. -/
def subject (codec : Codec) (b b' : Backend) : BackendInput → Option Int
  | .connsvr _ _ => b'.game.logicModule.store.created.find? fun id =>
      id ∉ b.game.logicModule.store.created
  | .datasvr _ answer _ => (b.game.answerMsg codec answer).map fun msg =>
      logicIdOfSeq msg.head.seq
  | .update _ => none

/-- A run, and the replies sent in it, each with the instance whose step sent it. -/
inductive Replied (codec : Codec) (head : Bytes → Int × UInt64)
    (ok : Backend → BackendInput → Prop) (start : Backend) :
    Backend → List (Option Int × ConnMsg) → Prop
  | start : Replied codec head ok start start []
  | step {b b' : Backend} {out : GameOut} {log : List (Option Int × ConnMsg)}
      (i : BackendInput) : Replied codec head ok start b log → b.Possible codec i → ok b i →
      b.step codec i = .ok (some (b', out)) →
      Replied codec head ok start b'
        (log ++ (replies head out.toConnsvr).map fun msg => (subject codec b b' i, msg))

/-- Where a step replies, the player that it finds is on the connection of the request, and
no quick registration fails. -/
def RepliesRight (codec : Codec) (b : Backend) (i : BackendInput) : Prop :=
  b.Roomy i ∧ match i with
    | .connsvr msg _ => msg.connData.connCmd = .connProc →
        ∀ csMsg, b.game.clientMsg codec msg = some csMsg →
        Replying (MsgModule.cmdLogicTypeMap csMsg.head.cmd) 0 (.cs csMsg msg.connData) →
        ∀ k : Nat, msg.connData.playerIdx = k → b.game.objMgr.Live k →
        (b.game.objMgr.player k).connFd = msg.connData.connFd
    | .datasvr _ answer _ => ∀ msg d o, b.game.answerMsg codec answer = some msg →
        b.game.logicModule.store.logicDataMap.lookup (logicIdOfSeq msg.head.seq) = some d →
        b.launches (logicIdOfSeq msg.head.seq) = some o →
        Replying d.head.logicType d.head.step (.ss msg) →
        ∀ k : Nat, d.body.playerIdx = k → b.game.objMgr.Live k →
        (b.game.objMgr.player k).connFd = o.connData.connFd ∧
          (d.head.logicType = MsgModule.logicQuickReg → msg.head.ret = ProtoSs.retOk)
    | .update _ => True

/-- An instance knows its request. -/
structure Knows (o : Launch) (d : LogicData LogicBody) : Prop where
  cmd : o.msg.head.cmd ∈ MsgModule.commands .cs
  logicType : d.head.logicType = MsgModule.cmdLogicTypeMap o.msg.head.cmd
  clientSeq : d.body.clientSeq = o.msg.head.seq
  playerIdx : d.body.playerIdx = o.connData.playerIdx

/-- The instances of clients know their requests. -/
def AllKnow (b : Backend) : Prop :=
  ∀ id d, b.game.logicModule.store.logicDataMap.lookup id = some d →
    d.head.logicType ≠ MsgModule.logicUpdatePlayer →
    ∃ o, b.launches id = some o ∧ Knows o d

/-- A step sends no reply, or that of an instance which ends with it. -/
inductive OneReply (codec : Codec) (head : Bytes → Int × UInt64) (b : Backend)
    (i : BackendInput) (b' : Backend) (out : GameOut) : Prop
  | silent : replies head out.toConnsvr = [] → OneReply codec head b i b' out
  | replied (id : Int) (o : Launch) (msg : ConnMsg) : replies head out.toConnsvr = [msg] →
      subject codec b b' i = some id → b'.launches id = some o → Matches head o msg →
      id ∈ b'.game.logicModule.store.created →
      b'.game.logicModule.store.logicDataMap.lookup id = none →
      (id ∈ b.game.logicModule.store.created →
        b.game.logicModule.store.logicDataMap.lookup id ≠ none) →
      OneReply codec head b i b' out

section
variable {codec : Codec} {head : Bytes → Int × UInt64} {size : Nat} {start : Int}
  {b b' b₀ : Backend} {i : BackendInput} {out : GameOut}

theorem subject_connsvr {msg : ConnMsg} {ret : GameRet} {id : Int}
    (hfresh : id ∉ b.game.logicModule.store.created)
    (hcreated : b'.game.logicModule.store.created =
      id :: b.game.logicModule.store.created) :
    subject codec b b' (.connsvr msg ret) = some id := by
  rw [subject, hcreated]
  exact List.find?_cons_of_pos (by simpa using hfresh)

theorem launched_speaks (hhead : codec.Heads head) (h : AllKnow b) (hinv : b.Inv size start)
    (hok : RepliesRight codec b i) {msg : ConnMsg} {ret : GameRet} (hi : i = .connsvr msg ret)
    {connData : ConnData} {m : ObjMgrModule} {game : GameSvr} {w' : GameWorld}
    (henters : Enters b.game.objMgr msg connData m) {csMsg : ProtoCs.Msg} {logicId : Int}
    (hmsg : b.game.clientMsg codec msg = some csMsg)
    (hcmd : csMsg.head.cmd ∈ MsgModule.commands .cs)
    (hlaunch : LogicModule.Launched (logicTypes codec) ret.raw logicId
      (MsgModule.cmdLogicTypeMap csMsg.head.cmd) (.cs csMsg connData) b.game.logicModule
      game.logicModule { b.game.world ret with objMgr := m } w')
    (hout : out = GameSvr.sent w') :
    AllKnow (b.afterConnsvr codec msg game out) ∧
      OneReply codec head b i (b.afterConnsvr codec msg game out) out := by
  obtain ⟨step, d', ⟨sent, hsent, hspeaks⟩, htype, hlookup⟩ := hlaunch.speaks hhead
  have hnew : IsNew b.game game logicId :=
    ⟨by rw [hlaunch.created]; exact List.mem_cons_self, hlaunch.fresh⟩
  obtain ⟨o, ho, hconn, hreq⟩ : ∃ o, (b.afterConnsvr codec msg game out).launches logicId = some o ∧
      o.connData = connData ∧ o.msg = csMsg :=
    ⟨_, (if_pos hnew).trans (congrArg _ hmsg), assigned_eq henters, rfl⟩
  have hknows : ∀ {d}, Carries d d' (.cs csMsg connData) → Knows o d' := by
    intro d
    rintro ⟨hseq, hidx⟩
    exact ⟨hreq ▸ hcmd, by rw [htype, hreq], by rw [hseq, hreq], by rw [hidx, hconn]⟩
  refine ⟨fun id d hd hne => ?_, ?_⟩
  · by_cases hid : id = logicId
    · subst hid
      have hd' : game.logicModule.store.logicDataMap.lookup id = some d := hd
      obtain ⟨rfl, hyield⟩ := kept_of_lookup hlookup hd'
      cases hspeaks with
      | silent hnone hcarries => exact ⟨o, ho, hknows (hcarries hyield)⟩
      | replied reply hone hret => exact absurd hyield hret
    · have hd' : b.game.logicModule.store.logicDataMap.lookup id = some d := by
        rw [← hlaunch.others id hid]
        exact hd
      obtain ⟨o', ho', hk⟩ := h id d hd' hne
      exact ⟨o', (if_neg (fun hnew => hnew.2 (hinv.head id d hd').1)).trans ho', hk⟩
  · have hall : out.toConnsvr = sent := by
      rw [hout]
      exact hsent
    cases hspeaks with
    | silent hnone hcarries => exact .silent (by rw [hall, hnone])
    | replied reply hone hret hcarries hreplying hreply =>
        have hk := hknows hcarries
        have hread := hreply.head
        rw [replyCmd_cs hcmd hreplying, ← hreq, hk.clientSeq] at hread
        refine .replied logicId o reply (by rw [hall, hone]) ?_ ho ⟨hread, ?_⟩ hnew.1 ?_
          (fun hold => absurd hold hlaunch.fresh)
        · rw [hi]
          exact subject_connsvr hlaunch.fresh hlaunch.created
        · obtain ⟨k, hidx, hlive, hfd⟩ := hreply.player
          rw [hk.playerIdx, hconn] at hidx
          rw [hfd, hconn]
          cases henters with
          | start k' m hstart hadd =>
              obtain rfl : k' = k := Int.natCast_inj.mp hidx
              exact congrArg Player.connFd hadd.new
          | proc hproc =>
              subst hi
              exact hok.2 hproc csMsg hmsg hreplying k hidx hlive
        · exact hlookup.trans (if_neg hret)

theorem AllKnow.quiet (h : AllKnow b) (hinv : b.Inv size start) {msg : ConnMsg} {game : GameSvr}
    (hlookup : ∀ id d, game.logicModule.store.logicDataMap.lookup id = some d →
      b.game.logicModule.store.logicDataMap.lookup id = some d ∨
        d.head.logicType = MsgModule.logicUpdatePlayer) :
    AllKnow (b.afterConnsvr codec msg game out) := by
  intro id d hd hne
  rcases hlookup id d hd with hd' | htype
  · obtain ⟨o, ho, hk⟩ := h id d hd' hne
    exact ⟨o, (if_neg (fun hnew => hnew.2 (hinv.head id d hd').1)).trans ho, hk⟩
  · exact absurd htype hne

theorem stopped_speaks (hhead : codec.Heads head) (h : AllKnow b) (hinv : b.Inv size start)
    {msg : ConnMsg} {raw : LogicBody} {game : GameSvr} {logicId playerIdx : Int}
    {w w' : GameWorld}
    (hlaunch : LogicModule.Launched (logicTypes codec) raw logicId MsgModule.logicUpdatePlayer
      (.playerIdx playerIdx) b.game.logicModule game.logicModule w w') (hw : w.toConnsvr = [])
    (hout : out = GameSvr.sent w') :
    AllKnow (b.afterConnsvr codec msg game out) ∧
      OneReply codec head b i (b.afterConnsvr codec msg game out) out := by
  obtain ⟨step, d', ⟨sent, hsent, hspeaks⟩, htype, hlookup⟩ := hlaunch.speaks hhead
  refine ⟨h.quiet hinv (fun id d hd => ?_), ?_⟩
  · by_cases hid : id = logicId
    · subst hid
      obtain ⟨rfl, -⟩ := kept_of_lookup hlookup hd
      exact Or.inr htype
    · rw [hlaunch.others id hid] at hd
      exact Or.inl hd
  · cases hspeaks with
    | silent hnone hcarries =>
        have hall : out.toConnsvr = sent := by
          rw [hout]
          show w'.toConnsvr = sent
          rw [hsent, hw, List.nil_append]
        exact .silent (by rw [hall, hnone])
    | replied reply hone hret hcarries hreplying => exact absurd hreplying id

theorem resumed_speaks (hhead : codec.Heads head) (h : AllKnow b) (hinv : b.Inv size start)
    {req : ProtoSs.Msg} {answer : Bytes} {ret : GameRet}
    (hok : RepliesRight codec b (.datasvr req answer ret)) {msg : ProtoSs.Msg}
    {d : LogicData LogicBody} {game : GameSvr} {w' : GameWorld}
    (hmsg : b.game.answerMsg codec answer = some msg)
    (hresume : LogicModule.Resumed (logicTypes codec) (logicIdOfSeq msg.head.seq) (.ss msg) d
      b.game.logicModule game.logicModule (b.game.world ret) w') :
    AllKnow (b.afterDatasvr codec req answer game (GameSvr.sent w')) ∧
      OneReply codec head b (.datasvr req answer ret)
        (b.afterDatasvr codec req answer game (GameSvr.sent w')) (GameSvr.sent w') := by
  obtain ⟨step, d', ⟨sent, hsent, hspeaks⟩, htype, hlookup⟩ := hresume.speaks hhead
  have hown : d.head.logicType ≠ MsgModule.logicUpdatePlayer →
      ∃ o, b.launches (logicIdOfSeq msg.head.seq) = some o ∧ Knows o d :=
    fun hne => h _ d hresume.found hne
  have hcarried : ∀ {o}, Knows o d → Carries d d' (.ss msg) → Knows o d' := by
    rintro o hk ⟨hseq, hidx⟩
    exact ⟨hk.cmd, htype.trans hk.logicType, hseq.trans hk.clientSeq, hidx.trans hk.playerIdx⟩
  refine ⟨fun id d₁ hd₁ hne => ?_, ?_⟩
  · by_cases hid : id = logicIdOfSeq msg.head.seq
    · subst hid
      obtain ⟨rfl, hyield⟩ := kept_of_lookup hlookup hd₁
      obtain ⟨o, ho, hk⟩ := hown (fun htype' => hne (htype.trans htype'))
      cases hspeaks with
      | silent hnone hcarries => exact ⟨o, ho, hcarried hk (hcarries hyield)⟩
      | replied reply hone hret => exact absurd hyield hret
    · refine h id d₁ ?_ hne
      rw [← hresume.others id hid]
      exact hd₁
  · have hall : (GameSvr.sent w').toConnsvr = sent := hsent
    cases hspeaks with
    | silent hnone hcarries => exact .silent (by rw [hall, hnone])
    | replied reply hone hret hcarries hreplying hreply =>
        obtain ⟨o, ho, hk⟩ := hown hreplying.1
        obtain ⟨k, hidx, hlive, hfd⟩ := hreply.player
        obtain ⟨hsameFd, hquick⟩ := hok.2 msg d o hmsg hresume.found ho hreplying k
          (hcarries.2.symm.trans hidx) hlive
        have hread := hreply.head
        rw [hk.logicType] at hquick
        rw [hk.logicType, replyCmd_ss hk.cmd hquick, hcarries.1, hk.clientSeq] at hread
        refine .replied (logicIdOfSeq msg.head.seq) o reply (by rw [hall, hone]) ?_ ho
          ⟨hread, hfd.trans hsameFd⟩ ?_ (hlookup.trans (if_neg hret)) (fun _ => ?_)
        · rw [subject, hmsg]
          rfl
        · show _ ∈ game.logicModule.store.created
          rw [hresume.created]
          exact (hinv.head _ d hresume.found).1
        · rw [hresume.found]
          exact Option.some_ne_none d

/-- **Every step** sends one reply at most, which is that of the request. -/
theorem Moves.speaks (hhead : codec.Heads head) (hinv : b.Inv size start) (h : AllKnow b)
    (hok : RepliesRight codec b i) (hmove : Moves codec b i b' out) :
    AllKnow b' ∧ OneReply codec head b i b' out := by
  cases hmove with
  | connsvr msg ret game out hrun hconn =>
      cases hrun with
      | handled connData m w' henters hhandled hobj hout =>
          rcases hhandled with ⟨hm, rfl⟩ | ⟨csMsg, logicId, hmsg, hcmd, hlaunch⟩
          · refine ⟨h.quiet hinv (fun id d hd => Or.inl ?_), .silent (by rw [hout]; rfl)⟩
            rwa [← hm]
          · exact launched_speaks hhead h hinv hok rfl henters hmsg hcmd hlaunch hout
      | stopped w' hcmd hsaving hdel hout =>
          rcases hsaving with ⟨hm, rfl, -⟩ | ⟨logicId, hlaunch⟩
          · refine ⟨h.quiet hinv (fun id d hd => Or.inl ?_), .silent (by rw [hout]; rfl)⟩
            rwa [← hm]
          · exact stopped_speaks hhead h hinv hlaunch rfl hout
  | datasvr req answer ret game w' hreq hanswers hanswered hobj hsame =>
      rcases hanswered with ⟨hm, rfl⟩ | ⟨msg, d, hmsg, hresume⟩
      · refine ⟨fun id d hd hne => h id d ?_ hne, .silent rfl⟩
        rw [← hm]
        exact hd
      · exact resumed_speaks hhead h hinv hok hmsg hresume
  | update now game hobj hcreated hlookup =>
      exact ⟨fun id d hd hne => h id d (hlookup id d hd) hne, .silent rfl⟩

theorem Moves.ended (hmove : Moves codec b i b' out) {id : Int}
    (hid : id ∈ b.game.logicModule.store.created)
    (hnone : b.game.logicModule.store.logicDataMap.lookup id = none) :
    id ∈ b'.game.logicModule.store.created ∧
      b'.game.logicModule.store.logicDataMap.lookup id = none ∧
      b'.launches id = b.launches id := by
  have hlaunched : ∀ {raw logicId logicType args} {m : LogicModule LogicBody} {w w' : GameWorld},
      LogicModule.Launched (logicTypes codec) raw logicId logicType args b.game.logicModule m w w' →
      id ∈ m.store.created ∧ m.store.logicDataMap.lookup id = none := by
    intro raw logicId logicType args m w w' hlaunch
    have hne : id ≠ logicId := by
      rintro rfl
      exact hlaunch.fresh hid
    rw [hlaunch.created, hlaunch.others id hne]
    exact ⟨List.mem_cons_of_mem _ hid, hnone⟩
  cases hmove with
  | connsvr msg ret game out hrun hconn =>
      have hkept : (b.afterConnsvr codec msg game out).launches id = b.launches id :=
        if_neg (fun hnew => hnew.2 hid)
      cases hrun with
      | handled connData m w' henters hhandled hobj hout =>
          rcases hhandled with ⟨hm, -⟩ | ⟨csMsg, logicId, -, -, hlaunch⟩
          · have hm' : game.logicModule = b.game.logicModule := hm
            exact ⟨hm'.symm ▸ hid, hm'.symm ▸ hnone, hkept⟩
          · exact ⟨(hlaunched hlaunch).1, (hlaunched hlaunch).2, hkept⟩
      | stopped w' hcmd hsaving hdel hout =>
          rcases hsaving with ⟨hm, -⟩ | ⟨logicId, hlaunch⟩
          · have hm' : game.logicModule = b.game.logicModule := hm
            exact ⟨hm'.symm ▸ hid, hm'.symm ▸ hnone, hkept⟩
          · exact ⟨(hlaunched hlaunch).1, (hlaunched hlaunch).2, hkept⟩
  | datasvr req answer ret game w' hreq hanswers hanswered hobj hsame =>
      rcases hanswered with ⟨hm, -⟩ | ⟨msg, d, -, hresume⟩
      · have hm' : game.logicModule = b.game.logicModule := hm
        exact ⟨hm'.symm ▸ hid, hm'.symm ▸ hnone, rfl⟩
      · have hne : id ≠ logicIdOfSeq msg.head.seq := by
          rintro rfl
          exact absurd (hnone.symm.trans hresume.found) (by simp)
        exact ⟨hresume.created.symm ▸ hid, (hresume.others id hne).trans hnone, rfl⟩
  | update now game hobj hcreated hlookup =>
      refine ⟨hcreated.symm ▸ hid, ?_, rfl⟩
      cases hd : game.logicModule.store.logicDataMap.lookup id with
      | none => rfl
      | some d => exact absurd (hnone.symm.trans (hlookup id d hd)) (by simp)

/-- The replies so far are from instances that have ended, one from each, and match their
requests. -/
structure Settled (head : Bytes → Int × UInt64) (b : Backend)
    (log : List (Option Int × ConnMsg)) : Prop where
  nodup : (log.map Prod.fst).Nodup
  entry : ∀ e ∈ log, ∃ id o, e.1 = some id ∧ b.launches id = some o ∧ Matches head o e.2 ∧
    id ∈ b.game.logicModule.store.created ∧
    b.game.logicModule.store.logicDataMap.lookup id = none

theorem Settled.step {log : List (Option Int × ConnMsg)} (h : Settled head b log)
    (hmove : Moves codec b i b' out) (hone : OneReply codec head b i b' out) :
    Settled head b' (log ++ (replies head out.toConnsvr).map fun msg =>
      (subject codec b b' i, msg)) := by
  have hold : ∀ e ∈ log, ∃ id o, e.1 = some id ∧ b'.launches id = some o ∧ Matches head o e.2 ∧
      id ∈ b'.game.logicModule.store.created ∧
      b'.game.logicModule.store.logicDataMap.lookup id = none := by
    intro e he
    obtain ⟨id, o, hfst, ho, hmatches, hid, hnone⟩ := h.entry e he
    obtain ⟨hid', hnone', hkept⟩ := hmove.ended hid hnone
    exact ⟨id, o, hfst, hkept.trans ho, hmatches, hid', hnone'⟩
  cases hone with
  | silent hnone =>
      rw [hnone, List.map_nil, List.append_nil]
      exact ⟨h.nodup, hold⟩
  | replied id o msg hmsg hsubject ho hmatches hid hended hfound =>
      rw [hmsg, hsubject, List.map_singleton]
      refine ⟨?_, fun e he => ?_⟩
      · rw [List.map_append, List.map_singleton]
        refine List.nodup_append.mpr ⟨h.nodup, List.nodup_singleton _, ?_⟩
        intro a ha c hc heq
        rw [List.mem_singleton.mp hc] at heq
        obtain ⟨e, he, rfl⟩ := List.mem_map.mp ha
        obtain ⟨id', -, hfst, -, -, hid', hnone'⟩ := h.entry e he
        obtain rfl : id' = id := Option.some.inj (hfst.symm.trans heq)
        exact hfound hid' hnone'
      · rcases List.mem_append.mp he with hin | hlast
        · exact hold e hin
        · rw [List.mem_singleton.mp hlast]
          exact ⟨id, o, rfl, ho, hmatches, hid, hended⟩

theorem Started.allKnow (hstart : b₀.Started size start) : b₀.AllKnow := by
  obtain ⟨_, _, _, _, hgame⟩ := hstart.game
  intro id d hd
  rw [hgame] at hd
  cases hd

theorem Replied.settled {log : List (Option Int × ConnMsg)} (hhead : codec.Heads head)
    (hstart : b₀.Started size start)
    (hrun : Replied codec head (RepliesRight codec) b₀ b log) :
    b.Inv size start ∧ b.AllKnow ∧ Settled head b log := by
  induction hrun with
  | start => exact ⟨hstart.inv, hstart.allKnow, List.nodup_nil, fun _ h => absurd h List.not_mem_nil⟩
  | step i _ hp hok hstep ih =>
      obtain ⟨hinv, hknow, hsettled⟩ := ih
      obtain ⟨hmove, hinv'⟩ := step_moves hinv hstart.room.1 hstart.seeded hp hok.1 hstep
      obtain ⟨hknow', hone⟩ := hmove.speaks hhead hinv hknow hok
      exact ⟨hinv', hknow', hsettled.step hmove hone⟩

/-- **Replies match requests**, in every run whose steps meet the condition: a request gets
one reply at most, which has the command that belongs to it and its number, and goes to the
connection that it came from. -/
theorem run_replies {log : List (Option Int × ConnMsg)} (hhead : codec.Heads head)
    (hstart : b₀.Started size start)
    (hrun : Replied codec head (RepliesRight codec) b₀ b log) :
    (log.map Prod.fst).Nodup ∧
      ∀ e ∈ log, ∃ id o, e.1 = some id ∧ b.launches id = some o ∧ Matches head o e.2 := by
  obtain ⟨-, -, hnodup, hentry⟩ := hrun.settled hhead hstart
  refine ⟨hnodup, fun e he => ?_⟩
  obtain ⟨id, o, hfst, ho, hmatches, -, -⟩ := hentry e he
  exact ⟨id, o, hfst, ho, hmatches⟩

end

/-! ### Two runs -/

theorem codec_heads (cs : List (Bytes × ProtoCs.Msg)) (ss : List (Bytes × ProtoSs.Msg))
    (records : List Database.PlayerData) :
    (Wire.codec cs ss records).Heads Wire.readHead := Wire.readHead_csMsg

theorem Replied.silent {codec : Codec} {head : Bytes → Int × UInt64}
    {ok : Backend → BackendInput → Prop} {b₀ b b' : Backend} {i : BackendInput} {out : GameOut}
    {log : List (Option Int × ConnMsg)} (hrun : Replied codec head ok b₀ b log)
    (hp : b.Possible codec i) (hok : ok b i) (h : b.step codec i = .ok (some (b', out)))
    (hnone : replies head out.toConnsvr = []) : Replied codec head ok b₀ b' log := by
  have hstep := hrun.step i hp hok h
  rwa [hnone, List.map_nil, List.append_nil] at hstep

/-- A client logs in, and gets its reply. -/
theorem run_replies_first : ∃ (b : Backend) (log : List (Option Int × ConnMsg)),
    log.length = 1 ∧ (log.map Prod.fst).Nodup ∧
    ∀ e ∈ log, ∃ id o, e.1 = some id ∧ b.launches id = some o ∧
      Matches Wire.readHead o e.2 := by
  have hrun : Replied loginCodec Wire.readHead (RepliesRight loginCodec) (fresh 1) _ [] :=
    Replied.start.silent (i := connect 5) trivial ⟨⟨by decide, by decide⟩, fun h => nomatch h⟩
      rfl rfl
  obtain ⟨b, b', out, d, o, hrun, hreq, hmsg, hd, ho, hidx, hplayer, hconn, hstep, hlen⟩ :
      ∃ b b' out d o,
        Replied loginCodec Wire.readHead (RepliesRight loginCodec) (fresh 1) b [] ∧
        firstReq ∈ b.requests ∧
        b.game.answerMsg loginCodec (Wire.ssMsg (okRes firstReq)) = some (okRes firstReq) ∧
        b.game.logicModule.store.logicDataMap.lookup
          (logicIdOfSeq (okRes firstReq).head.seq) = some d ∧
        b.launches (logicIdOfSeq (okRes firstReq).head.seq) = some o ∧
        d.body.playerIdx = 1 ∧ (b.game.objMgr.player 1).connFd = 5 ∧ o.connData.connFd = 5 ∧
        b.step loginCodec (answer firstReq) = .ok (some (b', out)) ∧
        (replies Wire.readHead out.toConnsvr).length = 1 :=
    ⟨_, _, _, _, _, hrun, List.mem_cons_self, rfl, rfl, rfl, rfl, rfl, rfl, rfl, rfl⟩
  have hok : RepliesRight loginCodec b (answer firstReq) := by
    refine ⟨trivial, fun msg d' o' hmsg' hd' ho' _ k hk _ => ?_⟩
    obtain rfl := Option.some.inj (hmsg.symm.trans hmsg')
    obtain rfl := Option.some.inj (hd.symm.trans hd')
    obtain rfl := Option.some.inj (ho.symm.trans ho')
    obtain rfl : 1 = k := Int.natCast_inj.mp (hidx.symm.trans hk)
    exact ⟨hplayer.trans hconn.symm, fun _ => rfl⟩
  have hrun' := hrun.step _ (possible_answer hreq hmsg) hok hstep
  refine ⟨_, _, ?_, run_replies (codec_heads _ _ _) (fresh_started 1) hrun'⟩
  simpa using hlen

/-- A client asks for a quick registration, and datasvr has its uid already. -/
def quickReq : ProtoCs.Msg where
  head := { cmd := ProtoCs.quickRegReqFieldNumber, seq := 9 }

def dupRes : ProtoSs.Msg where
  head := ⟨ProtoSs.accountRegResFieldNumber, ProtoSs.retDup, 4295305193, 1⟩

def dupCodec : Codec :=
  Wire.codec [(Wire.csMsg quickReq, quickReq)] [(Wire.ssRes dupRes, dupRes)] []

/-- **Wrong replies.**  A quick registration that fails is answered with `NormalRegRes`; a
client that goes before its login is answered leaves its reply to the next one. -/
theorem run_replies_wrong :
    (∃ b id o msg, Replied dupCodec Wire.readHead (fun _ _ => True) (fresh 1) b [(some id, msg)] ∧
      b.launches id = some o ∧ o.msg.head.cmd = ProtoCs.quickRegReqFieldNumber ∧
      Wire.readHead msg.payload = (ProtoCs.normalRegResFieldNumber, 9) ∧
      ¬ Matches Wire.readHead o msg) ∧
    ∃ b id o msg, Replied loginCodec Wire.readHead (fun _ _ => True) (fresh 1) b [(some id, msg)] ∧
      b.launches id = some o ∧ o.connData.connFd = 5 ∧ msg.connData.connFd = 6 ∧
      ¬ Matches Wire.readHead o msg := by
  have hwrong : ∀ {o : Launch} {msg : ConnMsg} {p : Int × UInt64},
      Wire.readHead msg.payload = p → p.1 ≠ ProtoCs.resOf o.msg.head.cmd →
      ¬ Matches Wire.readHead o msg := by
    rintro o msg p rfl hne h
    exact hne (congrArg Prod.fst h.head)
  constructor
  · have h₁ : Replied dupCodec Wire.readHead (fun _ _ => True) (fresh 1) _ [] :=
      Replied.start.silent (i := .connsvr ⟨⟨5, 0, .connStart⟩, Wire.csMsg quickReq⟩ calm)
        trivial trivial rfl rfl
    obtain ⟨b, b', req, out, msg, o, hrun, hreq, hmsg, hanswers, hstep, hsent, ho, hcmd, hread⟩ :
        ∃ b b' req out msg o, Replied dupCodec Wire.readHead (fun _ _ => True) (fresh 1) b [] ∧
          req ∈ b.requests ∧ b.game.answerMsg dupCodec (Wire.ssRes dupRes) = some dupRes ∧
          Answers req dupRes ∧
          b.step dupCodec (.datasvr req (Wire.ssRes dupRes) calm) = .ok (some (b', out)) ∧
          (replies Wire.readHead out.toConnsvr) = [msg] ∧
          b'.launches 4295305193 = some o ∧ o.msg.head.cmd = ProtoCs.quickRegReqFieldNumber ∧
          Wire.readHead msg.payload = (ProtoCs.normalRegResFieldNumber, 9) :=
      ⟨_, _, _, _, _, _, h₁, List.mem_cons_self, rfl, ⟨rfl, rfl, rfl⟩, rfl, rfl, rfl, rfl, rfl⟩
    have hrun' := hrun.step _ (possible_datasvr hreq hmsg hanswers) trivial hstep
    have hsubject : subject dupCodec b b' (.datasvr req (Wire.ssRes dupRes) calm) =
        some 4295305193 := by
      rw [subject, hmsg]
      rfl
    rw [hsent, List.map_singleton, hsubject] at hrun'
    refine ⟨b', _, o, msg, hrun', ho, hcmd, hread, hwrong hread ?_⟩
    rw [hcmd]
    decide
  · have h₁ : Replied loginCodec Wire.readHead (fun _ _ => True) (fresh 1) _ [] :=
      Replied.start.silent (i := connect 5) trivial trivial rfl rfl
    have h₂ := h₁.silent (i := disconnect 5 1) trivial trivial rfl rfl
    have h₃ := h₂.silent (i := .connsvr ⟨⟨6, 0, .connStart⟩, []⟩ calm) trivial trivial rfl rfl
    obtain ⟨b, b', out, msg, o, hrun, hreq, hmsg, hstep, hsent, ho, hconn, hfd⟩ :
        ∃ b b' out msg o, Replied loginCodec Wire.readHead (fun _ _ => True) (fresh 1) b [] ∧
          firstReq ∈ b.requests ∧
          b.game.answerMsg loginCodec (Wire.ssMsg (okRes firstReq)) = some (okRes firstReq) ∧
          b.step loginCodec (answer firstReq) = .ok (some (b', out)) ∧
          (replies Wire.readHead out.toConnsvr) = [msg] ∧
          b'.launches 4295305193 = some o ∧ o.connData.connFd = 5 ∧ msg.connData.connFd = 6 :=
      ⟨_, _, _, _, _, h₃, List.mem_cons_self, rfl, rfl, rfl, rfl, rfl, rfl⟩
    have hrun' := hrun.step _ (possible_answer hreq hmsg) trivial hstep
    have hsubject : subject loginCodec b b' (answer firstReq) = some 4295305193 := by
      rw [answer, subject, hmsg]
      rfl
    rw [hsent, List.map_singleton, hsubject] at hrun'
    refine ⟨b', _, o, msg, hrun', ho, hconn, hfd, fun h => ?_⟩
    have hsame := h.connFd
    rw [hfd, hconn] at hsame
    exact absurd hsame (by decide)

end Backend

end PlayFrame
