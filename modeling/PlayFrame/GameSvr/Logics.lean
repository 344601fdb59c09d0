/-
# `PlayFrame.GameSvr.Logics` — login, registration and saving

`gamesvr/logic_module/logic/logic_{login,normal_reg,quick_reg,update_player}.h`.  Between
its steps a logic remembers its player by the index only, and looks it up again when it
goes on.

A step is given `void*` arguments; one of another kind than it casts to is a
`typeConfusion`.
-/
import PlayFrame.GameSvr.Player
import PlayFrame.GameSvr.MsgTable

namespace PlayFrame

open GameWorld (deref)

/-- The fields of `LogicDataLogin`, `LogicDataNormalReg`, `LogicDataQuickReg` and
`LogicDataUpdatePlayer` behind the head; each has some of them.  `account` is
`char[32]`, `password` is `char[16]`, and `pad` is what follows `password` up to the end
of the `malloc`. -/
structure LogicBody where
  clientSeq : UInt64
  playerIdx : Int
  uid : UInt64
  passwordHash : UInt64
  account : Bytes
  password : Bytes
  pad : Bytes
  deriving DecidableEq, Repr

/-- A step of one of the logics. -/
abbrev GameLogicFunc : Type := LogicFunc LogicBody StepArgs GameWorld

/-- `logic_data->client_seq` and `logic_data->player_idx`, written by every first step. -/
def rememberClient (d : LogicData LogicBody) (msg : ProtoCs.Msg) (connData : ConnData) :
    LogicData LogicBody :=
  { d with body := { d.body with clientSeq := msg.head.seq, playerIdx := connData.playerIdx } }

/-- `logic_data->head.logic_id`, as the sequence number of a request. -/
def requestSeq (d : LogicData LogicBody) : UInt64 := seqOfLogicId d.head.logicId

/-! ## `logic_login.h` -/

namespace LogicLogin

variable (codec : Codec)

/-- The instance once it knows what the client wants. -/
def withLogin (d : LogicData LogicBody) (loginReq : ProtoCs.Credentials) :
    LogicData LogicBody :=
  { d with body := { d.body with
      uid := Utils.fnv64aHash loginReq.account
      passwordHash := Utils.fnv64aHash loginReq.password } }

/-- The reply to a login that fails, and `LOGIC_FAILED`. -/
def fail (d : LogicData LogicBody) (player : Nat) (w : GameWorld) :
    Result (Int × LogicData LogicBody × GameWorld) := do
  let w ← Player.sendFailedCsRes codec d.body.clientSeq ProtoCs.loginResFieldNumber (-1) player w
  .ok (logicFailed, d, w)

/-- `player->DoGetPlayerData`, the step to 2 and `LOGIC_YIELD`. -/
def askData (d : LogicData LogicBody) (player : Nat) (w : GameWorld) :
    Result (Int × LogicData LogicBody × GameWorld) := do
  let w ← Player.doGetPlayerData codec (requestSeq d) d.body.uid d.body.passwordHash player w
  .ok (logicYield, changeStep d 2, w)

/-- `old_player` of `OnStep0`: the uid is passed for an index. -/
def oldPlayer (d : LogicData LogicBody) (w : GameWorld) : Option Nat :=
  w.objMgr.getPlayer (toInt32 d.body.uid.toNat)

/-- What `OnStep0` does when the player of the uid is logged in already. -/
def kickOff (d : LogicData LogicBody) (oldPlayer : Option Nat) (w : GameWorld) :
    Result (Int × LogicData LogicBody × GameWorld) :=
  match oldPlayer with
  | none => .ok (logicFailed, d, w)
  | some oldPlayer => do
      let w ← Player.sendServerKickOffNotify codec oldPlayer w
      let w ← Player.doUpdatePlayerData codec (requestSeq d) oldPlayer w
      .ok (logicYield, changeStep d 1, w)

/-- `LogicLogin::OnStep0`. -/
def onStep0 : GameLogicFunc
  | d, .cs msg connData, w =>
      let d := rememberClient d msg connData
      let loginReq := msg.loginReq.getD {}
      match w.objMgr.getPlayer d.body.playerIdx with
      | none => .ok (logicFailed, d, w)
      | some player =>
          if Utils.checkAccount loginReq.account ≠ 0 then fail codec d player w
          else if Utils.checkPassword loginReq.password ≠ 0 then fail codec d player w
          else
            let d := withLogin d loginReq
            if w.objMgr.findPlayerIdxByUid d.body.uid > 0 then
              kickOff codec d (oldPlayer d w) w
            else askData codec d player w
  | _, _, _ => .error .typeConfusion

/-- `LogicLogin::OnStep1`. -/
def onStep1 : GameLogicFunc
  | d, .ss msg, w =>
      match w.objMgr.getPlayer d.body.playerIdx with
      | none => .ok (logicFailed, d, w)
      | some player =>
          if msg.head.ret ≠ ProtoSs.retOk then fail codec d player w
          else askData codec d player w
  | _, _, _ => .error .typeConfusion

/-- One pass of the loop of `OnStep2` over the cities; the pointer is used before it is
tested. -/
def loadCity (playerIdx : Int) (cityInfo : Database.CityInfo) (w : GameWorld) :
    Result GameWorld := do
  let (cityIdx, objMgr) ← w.objMgr.addCity playerIdx
  match objMgr.getCity cityIdx with
  | none => .error .badPointer
  | some city =>
      let f := fun c : City => { c with population := cityInfo.population, playerIdx := playerIdx }
      .ok { w with objMgr := objMgr.modifyCity city f }

/-- The loop of `OnStep2` over the cities. -/
def loadCities (playerIdx : Int) : List Database.CityInfo → GameWorld → Result GameWorld
  | [], w => .ok w
  | cityInfo :: infos, w => do
      let w ← loadCity playerIdx cityInfo w
      loadCities playerIdx infos w

/-- `LogicLogin::OnStep2`, which does not test the pointer to the player. -/
def onStep2 : GameLogicFunc
  | d, .ss msg, w =>
      let player := w.objMgr.getPlayer d.body.playerIdx
      if msg.head.ret = ProtoSs.retOk then do
        let playerData := codec.parsePlayerData (msg.getPlayerDataRes.getD {}).playerData
        let player ← deref player
        let w := Player.setPlayerByDb playerData.roleInfo player w
        let w ← loadCities d.body.playerIdx playerData.cityList w
        let w ← Player.setUid d.body.uid player w
        let w := Player.setPasswordHash d.body.passwordHash player w
        let w ← Player.sendOkCsLoginRes codec d.body.clientSeq player w
        let w ← Player.sendRoleInfoNotify codec player w
        .ok (logicFinish, d, w)
      else do
        let player ← deref player
        let w ← Player.sendFailedCsRes codec d.body.clientSeq ProtoCs.loginResFieldNumber (-1)
          player w
        .ok (logicFinish, d, w)
  | _, _, _ => .error .typeConfusion

end LogicLogin

/-! ## `logic_normal_reg.h` -/

namespace LogicNormalReg

variable (codec : Codec)

/-- The reply to a registration that fails, and `LOGIC_FAILED`. -/
def fail (d : LogicData LogicBody) (player : Nat) (w : GameWorld) :
    Result (Int × LogicData LogicBody × GameWorld) := do
  let w ← Player.sendFailedCsRes codec d.body.clientSeq ProtoCs.normalRegResFieldNumber (-1)
    player w
  .ok (logicFailed, d, w)

/-- `logic_data->account` as a C string: 32 characters fill the array, and the string
goes on behind it. -/
def accountString (d : LogicData LogicBody) : Result Bytes :=
  Utils.cString (d.body.account ++ d.body.password ++ d.body.pad)

/-- `logic_data->password` as a C string. -/
def passwordString (d : LogicData LogicBody) : Result Bytes :=
  Utils.cString (d.body.password ++ d.body.pad)

/-- `LogicNormalReg::OnStep0`. -/
def onStep0 : GameLogicFunc
  | d, .cs msg connData, w =>
      let normalRegReq := msg.normalRegReq.getD {}
      if normalRegReq.account.length > 32 then .ok (logicFailed, d, w)
      else
        let account := Utils.strncpy normalRegReq.account 32
        let d := { d with body := { d.body with account := account } }
        if normalRegReq.password.length > 16 then .ok (logicFailed, d, w)
        else
          let password := Utils.strncpy normalRegReq.password 16
          let d := { d with body := { d.body with password := password } }
          let d := rememberClient d msg connData
          match w.objMgr.getPlayer d.body.playerIdx with
          | none => .ok (logicFailed, d, w)
          | some player =>
              if Utils.checkAccount normalRegReq.account ≠ 0 then fail codec d player w
              else if Utils.checkPassword normalRegReq.password ≠ 0 then fail codec d player w
              else do
                let uid := Utils.fnv64aHash normalRegReq.account
                let passwordHash := Utils.fnv64aHash normalRegReq.password
                let account ← accountString d
                let w ← Player.doAccountReg codec (requestSeq d) uid passwordHash account player w
                .ok (logicYield, changeStep d 1, w)
  | _, _, _ => .error .typeConfusion

/-- `LogicNormalReg::OnStep1`. -/
def onStep1 : GameLogicFunc
  | d, .ss msg, w =>
      match w.objMgr.getPlayer d.body.playerIdx with
      | none => .ok (logicFailed, d, w)
      | some player =>
          if msg.head.ret = ProtoSs.retOk then do
            let account ← accountString d
            let password ← passwordString d
            let w ← Player.sendOkCsNormalRegRes codec d.body.clientSeq account password player w
            .ok (logicFinish, d, w)
          else do
            let w ← Player.sendFailedCsRes codec d.body.clientSeq
              ProtoCs.normalRegResFieldNumber (-1) player w
            .ok (logicFinish, d, w)
  | _, _, _ => .error .typeConfusion

end LogicNormalReg

/-! ## `logic_quick_reg.h` -/

namespace LogicQuickReg

variable (codec : Codec)

/-- `LogicQuickReg::OnStep0`. -/
def onStep0 : GameLogicFunc
  | d, .cs msg connData, w =>
      let password := Utils.strncpy (Utils.genPassword8 w.rand) 16
      let body := { d.body with uid := Utils.genUidNum w.rdtsc, password := password }
      let d := rememberClient { d with body := body } msg connData
      match w.objMgr.getPlayer d.body.playerIdx with
      | none => .ok (logicFailed, d, w)
      | some player => do
          let password ← Utils.cString d.body.password
          let passwordHash := Utils.fnv64aHash password
          let w ← Player.doAccountReg codec (requestSeq d) d.body.uid passwordHash [] player w
          .ok (logicYield, changeStep d 1, w)
  | _, _, _ => .error .typeConfusion

/-- `LogicQuickReg::OnStep1`, whose failure is reported as one of a normal registration. -/
def onStep1 : GameLogicFunc
  | d, .ss msg, w =>
      match w.objMgr.getPlayer d.body.playerIdx with
      | none => .ok (logicFailed, d, w)
      | some player =>
          if msg.head.ret = ProtoSs.retOk then do
            let password ← Utils.cString d.body.password
            let w ← Player.sendOkCsQuickRegRes codec d.body.clientSeq d.body.uid password player w
            .ok (logicFinish, d, w)
          else do
            let w ← Player.sendFailedCsRes codec d.body.clientSeq
              ProtoCs.normalRegResFieldNumber (-1) player w
            .ok (logicFinish, d, w)
  | _, _, _ => .error .typeConfusion

end LogicQuickReg

/-! ## `logic_update_player.h` -/

namespace LogicUpdatePlayer

variable (codec : Codec)

/-- `LogicUpdatePlayer::OnStep0`. -/
def onStep0 : GameLogicFunc
  | d, .playerIdx playerIdx, w =>
      let d := { d with body := { d.body with playerIdx := playerIdx } }
      match w.objMgr.getPlayer d.body.playerIdx with
      | none => .ok (logicFailed, d, w)
      | some player => do
          let w ← Player.doUpdatePlayerData codec (requestSeq d) player w
          .ok (logicYield, changeStep d 1, w)
  | _, _, _ => .error .typeConfusion

/-- `LogicUpdatePlayer::OnStep1`. -/
def onStep1 : GameLogicFunc
  | d, .ss _, w => .ok (logicFinish, d, w)
  | _, _, _ => .error .typeConfusion

end LogicUpdatePlayer

/-! ## `LogicModule::ModuleInit` -/

/-- `logic_type_map_` and `logic_data_size_map_`. -/
def logicTypes (codec : Codec) : LogicTypes LogicBody StepArgs GameWorld where
  logicTypeMap := fun logicType =>
    if logicType = MsgModule.logicNormalReg then
      some [LogicNormalReg.onStep0 codec, LogicNormalReg.onStep1 codec]
    else if logicType = MsgModule.logicQuickReg then
      some [LogicQuickReg.onStep0 codec, LogicQuickReg.onStep1 codec]
    else if logicType = MsgModule.logicLogin then
      some [LogicLogin.onStep0 codec, LogicLogin.onStep1 codec, LogicLogin.onStep2 codec]
    else if logicType = MsgModule.logicUpdatePlayer then
      some [LogicUpdatePlayer.onStep0 codec, LogicUpdatePlayer.onStep1]
    else none
  logicDataSizeMap := fun logicType =>
    if logicType = MsgModule.logicNormalReg then some 80
    else if logicType = MsgModule.logicQuickReg then some 56
    else if logicType = MsgModule.logicLogin then some 48
    else if logicType = MsgModule.logicUpdatePlayer then some 24
    else none

/-! ## What the steps do -/

section
variable {codec : Codec} {d d' : LogicData LogicBody} {args : StepArgs} {w w' : GameWorld}
  {ret : Int} {k : Nat}

/-- The credentials of a login pass the checks. -/
def LogicLogin.Passes (msg : ProtoCs.Msg) : Prop :=
  Utils.checkAccount (msg.loginReq.getD {}).account = 0 ∧
    Utils.checkPassword (msg.loginReq.getD {}).password = 0

/-- The uid of the account of a login. -/
def LogicLogin.loginUid (msg : ProtoCs.Msg) : UInt64 :=
  Utils.fnv64aHash (msg.loginReq.getD {}).account

/-- A login takes the player `old` for the one of its uid. -/
structure LogicLogin.Kicks (m : ObjMgrModule) (msg : ProtoCs.Msg) (old : Nat) : Prop where
  passes : LogicLogin.Passes msg
  bound : 0 < m.findPlayerIdxByUid (LogicLogin.loginUid msg)
  index : toInt32 (LogicLogin.loginUid msg).toNat = old
  live : m.Live old

/-- The player that a step saves: the one that `LOGIC_UPDATE_PLAYER` is given, or the one
that a login takes for the player of its uid. -/
inductive Saver (args : StepArgs) (m : ObjMgrModule) (k : Nat) : Prop
  | updated : args = .playerIdx k → m.Live k → Saver args m k
  | kicked (msg : ProtoCs.Msg) (connData : ConnData) : args = .cs msg connData →
      LogicLogin.Kicks m msg k → Saver args m k

/-- What every step does: it acts for players in use, its requests carry the id of its
instance, and the instance keeps its id and its type.  The objects are only touched by a
step that calls `set_uid`, and a request to save is for the player that the step saves. -/
structure StepActs (codec : Codec) (d : LogicData LogicBody) (args : StepArgs) (w : GameWorld)
    (d' : LogicData LogicBody) (w' : GameWorld) (reqs : List ProtoSs.Msg)
    (uids : List (Nat × UInt64)) : Prop where
  acts : Acts w w' reqs uids
  own : ∀ req ∈ reqs, req.head.seq = requestSeq d
  head : d'.head.logicId = d.head.logicId ∧ d'.head.logicType = d.head.logicType
  quiet : uids = [] → w'.objMgr = w.objMgr
  saves : ∀ req ∈ reqs, req.setPlayerDataReq ≠ none → ∃ k, Saver args w.objMgr k ∧
    Player.Saves codec w.objMgr k req

theorem StepActs.idle (hhead : d'.head = d.head) (h : Acts w w' [] [])
    (hobj : w'.objMgr = w.objMgr) : StepActs codec d args w d' w' [] [] where
  acts := h
  own := fun _ h => absurd h List.not_mem_nil
  head := by rw [hhead]; exact ⟨rfl, rfl⟩
  quiet := fun _ => hobj
  saves := fun _ h => absurd h List.not_mem_nil

theorem StepActs.one {req : ProtoSs.Msg} (hhead : d'.head.logicId = d.head.logicId ∧
      d'.head.logicType = d.head.logicType) (hseq : req.head.seq = requestSeq d)
    (h : Acts w w' [req] []) (hobj : w'.objMgr = w.objMgr)
    (hsaves : req.setPlayerDataReq ≠ none → ∃ k, Saver args w.objMgr k ∧
      Player.Saves codec w.objMgr k req) : StepActs codec d args w d' w' [req] [] where
  acts := h
  own := by
    intro r hr
    rw [List.mem_singleton.mp hr]
    exact hseq
  head := hhead
  quiet := fun _ => hobj
  saves := by
    intro r hr
    rw [List.mem_singleton.mp hr]
    exact hsaves

theorem StepActs.of_head {d₁ : LogicData LogicBody} {reqs : List ProtoSs.Msg}
    {uids : List (Nat × UInt64)} (hhead : d₁.head = d.head)
    (h : StepActs codec d₁ args w d' w' reqs uids) :
    StepActs codec d args w d' w' reqs uids where
  acts := h.acts
  own := by
    intro req hreq
    rw [h.own req hreq, requestSeq, hhead]
    rfl
  head := by
    rw [← hhead]
    exact h.head
  quiet := h.quiet
  saves := h.saves

namespace LogicLogin

/-- The request that an instance waits for the answer of: to save the player that was
logged in, or to get the data for its uid and password. -/
def Asked (d : LogicData LogicBody) (req : ProtoSs.Msg) : Prop :=
  req.head.seq = requestSeq d ∧
    (d.head.step = 1 ∧ req.head.cmd = ProtoSs.setPlayerDataReqFieldNumber ∨
      d.head.step = 2 ∧ req = Player.getPlayerDataReq (requestSeq d) d.body.playerIdx
        d.body.uid d.body.passwordHash)

/-- What `OnStep0` found out about the uid: the player that it takes for the one of the uid
is notified and saved, or the uid has no player. -/
def Checked (codec : Codec) (w : GameWorld) (msg : ProtoCs.Msg) (d' : LogicData LogicBody)
    (req : ProtoSs.Msg) (w' : GameWorld) : Prop :=
  (d'.head.step = 1 ∧ ∃ old, Kicks w.objMgr msg old ∧ Player.Saves codec w.objMgr old req ∧
      (w.zmq 0 = true → (Player.kickOffNtf codec w.objMgr old).payload.length ≤ pkgBufSize →
        Player.kickOffNtf codec w.objMgr old ∈ w'.toConnsvr)) ∨
    d'.head.step = 2 ∧ w.objMgr.findPlayerIdxByUid (loginUid msg) ≤ 0

/-- A login knows its client: the index, the uid and the hash that `OnStep0` found. -/
structure Remembers (d : LogicData LogicBody) (msg : ProtoCs.Msg) (connData : ConnData) :
    Prop where
  playerIdx : d.body.playerIdx = connData.playerIdx
  uid : d.body.uid = loginUid msg
  passwordHash : d.body.passwordHash = Utils.fnv64aHash (msg.loginReq.getD {}).password

/-- A login that goes on after `OnStep0` has found its player, and has one request out. -/
structure Begun (codec : Codec) (w : GameWorld) (msg : ProtoCs.Msg) (connData : ConnData)
    (d' : LogicData LogicBody) (req : ProtoSs.Msg) (w' : GameWorld) : Prop where
  player : ∃ k : Nat, connData.playerIdx = k ∧ w.objMgr.Live k
  passes : Passes msg
  remembers : Remembers d' msg connData
  asked : Asked d' req
  checked : Checked codec w msg d' req w'

theorem fail_spec (hk : w.objMgr.Live k) (h : fail codec d k w = .ok (ret, d', w')) :
    ret = logicFailed ∧ StepActs codec d args w d' w' [] [] := by
  obtain ⟨w₁, hsend, h⟩ := bind_eq_ok.mp h
  cases h
  exact ⟨rfl, .idle rfl (Player.sendCs_acts hk hsend) (Player.sendCs_objMgr hsend)⟩

theorem askData_spec (hidx : d.body.playerIdx = k) (hk : w.objMgr.Live k)
    (h : askData codec d k w = .ok (ret, d', w')) :
    ret = logicYield ∧ d' = changeStep d 2 ∧
      ∃ req, StepActs codec d args w d' w' [req] [] ∧ Asked d' req := by
  obtain ⟨w₁, hask, h⟩ := bind_eq_ok.mp h
  cases h
  refine ⟨rfl, rfl, _, .one ⟨rfl, rfl⟩ rfl (Player.doGetPlayerData_acts hk hask)
    (Player.doGetPlayerData_objMgr hask) (fun h => absurd rfl h), rfl, Or.inr ⟨rfl, ?_⟩⟩
  show _ = Player.getPlayerDataReq _ d.body.playerIdx _ _
  rw [hidx]
  rfl

theorem oldPlayer_eq_some (h : oldPlayer d w = some k) :
    toInt32 d.body.uid.toNat = k ∧ w.objMgr.Live k :=
  ObjMgrModule.getPlayer_eq_some.mp h

theorem kickOff_spec {msg : ProtoCs.Msg} {connData : ConnData}
    (hkicks : ∀ old, oldPlayer d w = some old → Kicks w.objMgr msg old)
    (h : kickOff codec d (oldPlayer d w) w = .ok (ret, d', w')) :
    (ret = logicFailed ∧ StepActs codec d (.cs msg connData) w d' w' [] []) ∨
      ret = logicYield ∧ d' = changeStep d 1 ∧
        ∃ req, StepActs codec d (.cs msg connData) w d' w' [req] [] ∧ Asked d' req ∧
          Checked codec w msg d' req w' := by
  cases hp : oldPlayer d w with
  | none =>
      rw [hp] at h
      cases h
      exact Or.inl ⟨rfl, .idle rfl (.refl w) rfl⟩
  | some old =>
      rw [hp] at h
      have hold := hkicks old hp
      obtain ⟨w₁, hkick, h⟩ := bind_eq_ok.mp h
      obtain ⟨w₂, hupdate, h⟩ := bind_eq_ok.mp h
      cases h
      have h₁ := Player.sendCs_acts hold.live hkick
      have hobj₁ := Player.sendCs_objMgr hkick
      obtain ⟨hobj₂, hconn⟩ := Player.doUpdatePlayerData_frame hupdate
      obtain ⟨req, hreq, hsaves, h₂⟩ :=
        Player.doUpdatePlayerData_acts ((h₁.same.live old).mpr hold.live) hupdate
      rw [hobj₁] at hsaves hobj₂
      have hseq : req.head.seq = requestSeq d := by rw [hreq]; rfl
      refine Or.inr ⟨rfl, rfl, req, .one ⟨rfl, rfl⟩ hseq (h₁.trans h₂) hobj₂
        (fun _ => ⟨old, .kicked msg connData rfl hold, hsaves⟩),
        ⟨hseq, Or.inl ⟨rfl, by rw [hreq]; rfl⟩⟩,
        Or.inl ⟨rfl, old, hold, hsaves, fun hzmq hfits => ?_⟩⟩
      rw [hconn]
      exact Player.sendCs_sent hold.live hkick hzmq hfits

/-- **OnStep0** fails, or it remembers the client's player, uid and password and waits for
one answer. -/
theorem onStep0_spec (h : onStep0 codec d args w = .ok (ret, d', w')) :
    ∃ msg connData, args = .cs msg connData ∧
      ((ret = logicFailed ∧ StepActs codec d args w d' w' [] []) ∨
        ret = logicYield ∧ ∃ req, StepActs codec d args w d' w' [req] [] ∧
          Begun codec w msg connData d' req w') := by
  cases args with
  | ss msg => cases h
  | playerIdx i => cases h
  | cs msg connData =>
      refine ⟨msg, connData, rfl, ?_⟩
      unfold onStep0 at h
      dsimp only at h
      generalize hd₀ : rememberClient d msg connData = d₀ at h
      have hhead : d₀.head = d.head := by rw [← hd₀]; rfl
      have hidx₀ : d₀.body.playerIdx = connData.playerIdx := by rw [← hd₀]; rfl
      rw [hidx₀] at h
      cases hp : w.objMgr.getPlayer connData.playerIdx with
      | none =>
          rw [hp] at h
          cases h
          exact Or.inl ⟨rfl, .idle hhead (.refl w) rfl⟩
      | some player =>
          obtain ⟨hidx, hk⟩ := ObjMgrModule.getPlayer_eq_some.mp hp
          simp only [hp] at h
          split at h
          · exact Or.inl ((fail_spec hk h).imp_right (.of_head hhead))
          next haccount =>
          split at h
          · exact Or.inl ((fail_spec hk h).imp_right (.of_head hhead))
          next hpassword =>
          have hpasses : Passes msg := ⟨not_not.mp haccount, not_not.mp hpassword⟩
          generalize hd₁ : withLogin d₀ (msg.loginReq.getD {}) = d₁ at h
          have hhead₁ : d₁.head = d.head := by rw [← hd₁]; exact hhead
          have hidx₁ : d₁.body.playerIdx = player := by rw [← hd₁]; exact hidx₀.trans hidx
          have hremembers : Remembers d₁ msg connData := by
            rw [← hd₁]
            exact ⟨hidx₀, rfl, rfl⟩
          split at h
          · next hfind =>
            have hkicks : ∀ old, oldPlayer d₁ w = some old → Kicks w.objMgr msg old := by
              intro old hold
              obtain ⟨hindex, hlive⟩ := oldPlayer_eq_some hold
              rw [hremembers.uid] at hindex hfind
              exact ⟨hpasses, hfind, hindex, hlive⟩
            rcases kickOff_spec hkicks h with ⟨hret, hs⟩ | ⟨hret, rfl, req, hs, hasked, hchecked⟩
            · exact Or.inl ⟨hret, hs.of_head hhead₁⟩
            · exact Or.inr ⟨hret, req, hs.of_head hhead₁, ⟨player, hidx, hk⟩, hpasses,
                ⟨hremembers.1, hremembers.2, hremembers.3⟩, hasked, hchecked⟩
          · next hfind =>
            rw [hremembers.uid] at hfind
            obtain ⟨hret, rfl, req, hs, hasked⟩ := askData_spec hidx₁ hk h
            exact Or.inr ⟨hret, req, hs.of_head hhead₁, ⟨player, hidx, hk⟩, hpasses,
              ⟨hremembers.1, hremembers.2, hremembers.3⟩, hasked, Or.inr ⟨rfl, Int.not_lt.mp hfind⟩⟩

theorem onStep1_spec (h : onStep1 codec d args w = .ok (ret, d', w')) :
    (ret = logicFailed ∧ StepActs codec d args w d' w' [] []) ∨
      ret = logicYield ∧ d' = changeStep d 2 ∧
        ∃ req, StepActs codec d args w d' w' [req] [] ∧ Asked d' req := by
  cases args with
  | cs msg connData => cases h
  | playerIdx i => cases h
  | ss msg =>
      unfold onStep1 at h
      cases hp : w.objMgr.getPlayer d.body.playerIdx with
      | none =>
          simp only [hp] at h
          cases h
          exact Or.inl ⟨rfl, .idle rfl (.refl w) rfl⟩
      | some player =>
          obtain ⟨hidx, hk⟩ := ObjMgrModule.getPlayer_eq_some.mp hp
          simp only [hp] at h
          split at h
          · exact Or.inl (fail_spec hk h)
          · exact Or.inr (askData_spec hidx hk h)

theorem loadCity_acts {playerIdx : Int} {cityInfo : Database.CityInfo}
    (h : loadCity playerIdx cityInfo w = .ok w') : Acts w w' [] [] := by
  obtain ⟨⟨cityIdx, m⟩, hadd, h⟩ := bind_eq_ok.mp h
  dsimp only at h
  split at h
  · cases h
  · next city _ =>
    cases h
    have h₁ := ObjMgrModule.addCity_samePlayers hadd
    have h₂ : ObjMgrModule.SamePlayers m (m.modifyCity city fun c =>
      { c with population := cityInfo.population, playerIdx := playerIdx }) := .of_pool rfl
    exact .of_objMgr (h₁.trans h₂)

theorem loadCities_acts (playerIdx : Int) : ∀ (infos : List Database.CityInfo)
    {w w' : GameWorld}, loadCities playerIdx infos w = .ok w' → Acts w w' [] []
  | [], w, _, h => by cases h; exact .refl w
  | cityInfo :: infos, w, w', h => by
      obtain ⟨w₁, hload, h⟩ := bind_eq_ok.mp h
      exact (loadCity_acts hload).trans (loadCities_acts playerIdx infos h)

theorem loadCities_toConnsvr (infos : List Database.CityInfo) {playerIdx : Int}
    (hload : loadCities playerIdx infos w = .ok w') : w'.toConnsvr = w.toConnsvr := by
  induction infos generalizing w with
  | nil =>
      cases hload
      rfl
  | cons cityInfo infos ih =>
      obtain ⟨w₁, hfirst, hrest⟩ := bind_eq_ok.mp hload
      obtain ⟨⟨cityIdx, m⟩, -, hfirst⟩ := bind_eq_ok.mp hfirst
      dsimp only at hfirst
      split at hfirst
      · cases hfirst
      · cases hfirst
        exact (ih hrest :)

/-- The record that an answer carries. -/
def answerData (codec : Codec) (msg : ProtoSs.Msg) : Database.PlayerData :=
  codec.parsePlayerData (msg.getPlayerDataRes.getD {}).playerData

theorem onStep2_good {msg : ProtoSs.Msg}
    (h : onStep2 codec d (.ss msg) w = .ok (ret, d', w')) (hret : msg.head.ret = ProtoSs.retOk) :
    ret = logicFinish ∧ d' = d ∧ ∃ (k : Nat) (w₁ w₂ w₃ : GameWorld),
      d.body.playerIdx = k ∧ w.objMgr.Live k ∧
      loadCities k (answerData codec msg).cityList
        (Player.setPlayerByDb (answerData codec msg).roleInfo k w) = .ok w₁ ∧
      Player.setUid d.body.uid k w₁ = .ok w₂ ∧
      Player.sendOkCsLoginRes codec d.body.clientSeq k
        (Player.setPasswordHash d.body.passwordHash k w₂) = .ok w₃ ∧
      Player.sendRoleInfoNotify codec k w₃ = .ok w' := by
  simp only [onStep2, hret, if_true] at h
  obtain ⟨k, hp, h⟩ := bind_eq_ok.mp h
  cases hget : w.objMgr.getPlayer d.body.playerIdx with
  | none =>
      rw [hget] at hp
      cases hp
  | some player =>
      rw [hget] at hp
      cases hp
      obtain ⟨hidx, hk⟩ := ObjMgrModule.getPlayer_eq_some.mp hget
      obtain ⟨w₁, hload, h⟩ := bind_eq_ok.mp h
      obtain ⟨w₂, huid, h⟩ := bind_eq_ok.mp h
      obtain ⟨w₃, hres, h⟩ := bind_eq_ok.mp h
      obtain ⟨w₄, hntf, h⟩ := bind_eq_ok.mp h
      cases h
      rw [hidx] at hload
      exact ⟨rfl, rfl, k, w₁, w₂, w₃, hidx, hk, hload, huid, hres, hntf⟩

theorem onStep2_bad {msg : ProtoSs.Msg}
    (h : onStep2 codec d (.ss msg) w = .ok (ret, d', w')) (hret : msg.head.ret ≠ ProtoSs.retOk) :
    ret = logicFinish ∧ d' = d ∧ ∃ k : Nat, d.body.playerIdx = k ∧ w.objMgr.Live k ∧
      Player.sendFailedCsRes codec d.body.clientSeq ProtoCs.loginResFieldNumber (-1) k w =
        .ok w' := by
  simp only [onStep2, hret, if_false] at h
  obtain ⟨k, hp, h⟩ := bind_eq_ok.mp h
  cases hget : w.objMgr.getPlayer d.body.playerIdx with
  | none =>
      rw [hget] at hp
      cases hp
  | some player =>
      rw [hget] at hp
      cases hp
      obtain ⟨hidx, hk⟩ := ObjMgrModule.getPlayer_eq_some.mp hget
      obtain ⟨w₁, hsend, h⟩ := bind_eq_ok.mp h
      cases h
      exact ⟨rfl, rfl, k, hidx, hk, hsend⟩

/-- **OnStep2** ends the login; it calls `set_uid` only if the answer is good, once, on the
player it finds at its index, with its uid. -/
theorem onStep2_spec (h : onStep2 codec d args w = .ok (ret, d', w')) :
    ∃ msg uids, args = .ss msg ∧ ret = logicFinish ∧ d' = d ∧
      StepActs codec d args w d' w' [] uids ∧
      (uids = [] ∨ ∃ k : Nat, uids = [(k, d.body.uid)] ∧ d.body.playerIdx = k ∧
        w.objMgr.Live k ∧ msg.head.ret = ProtoSs.retOk) := by
  cases args with
  | cs msg connData => cases h
  | playerIdx i => cases h
  | ss msg =>
      by_cases hret : msg.head.ret = ProtoSs.retOk
      · obtain ⟨rfl, rfl, k, w₁, w₂, w₃, hidx, hk, hload, huid, hres, hntf⟩ :=
          onStep2_good h hret
        have h₁ : Acts w w₁ [] [] :=
          (Player.setPlayerByDb_acts _ _ w).trans (loadCities_acts _ _ hload)
        have hk₁ := (h₁.same.live k).mpr hk
        have h₂ := Player.setUid_acts hk₁ huid
        have h₂₃ := h₂.trans (Player.setPasswordHash_acts d'.body.passwordHash k w₂)
        have hk₃ := (h₂₃.same.live k).mpr hk₁
        have h₄ := Player.sendCs_acts hk₃ hres
        have h₅ := Player.sendRoleInfoNotify_acts ((h₄.same.live k).mpr hk₃) hntf
        refine ⟨msg, _, rfl, rfl, rfl,
          ⟨((h₁.trans h₂₃).trans h₄).trans h₅, ?_, ⟨rfl, rfl⟩, ?_, ?_⟩,
          Or.inr ⟨k, rfl, hidx, hk, hret⟩⟩
        · exact fun _ h => absurd h List.not_mem_nil
        · exact fun h => nomatch h
        · exact fun _ h => absurd h List.not_mem_nil
      · obtain ⟨rfl, rfl, k, -, hk, hsend⟩ := onStep2_bad h hret
        exact ⟨msg, [], rfl, rfl, rfl,
          .idle rfl (Player.sendCs_acts hk hsend) (Player.sendCs_objMgr hsend), Or.inl rfl⟩

end LogicLogin

/-! ### Registration and saving -/

/-- What the steps of the other logics do: `set_uid` is not called, and nobody is saved but
by `LOGIC_UPDATE_PLAYER`. -/
def ActsOnly (codec : Codec) (d : LogicData LogicBody) (args : StepArgs) (w : GameWorld)
    (d' : LogicData LogicBody) (w' : GameWorld) : Prop :=
  ∃ reqs, StepActs codec d args w d' w' reqs [] ∧
    ∀ req ∈ reqs, req.setPlayerDataReq ≠ none → ∃ k : Nat, args = .playerIdx k

theorem ActsOnly.idle (hhead : d'.head = d.head) (h : Acts w w' [] [])
    (hobj : w'.objMgr = w.objMgr) : ActsOnly codec d args w d' w' :=
  ⟨[], .idle hhead h hobj, fun _ h => absurd h List.not_mem_nil⟩

theorem ActsOnly.one {req : ProtoSs.Msg} (hhead : d'.head.logicId = d.head.logicId ∧
      d'.head.logicType = d.head.logicType) (hseq : req.head.seq = requestSeq d)
    (h : Acts w w' [req] []) (hobj : w'.objMgr = w.objMgr) (hnone : req.setPlayerDataReq = none) :
    ActsOnly codec d args w d' w' := by
  refine ⟨[req], .one hhead hseq h hobj (fun h => absurd hnone h), fun r hr h => ?_⟩
  rw [List.mem_singleton.mp hr] at h
  exact absurd hnone h

namespace LogicNormalReg

theorem fail_spec {d₁ : LogicData LogicBody} (hhead : d₁.head = d.head) (hk : w.objMgr.Live k)
    (h : fail codec d₁ k w = .ok (ret, d', w')) : ActsOnly codec d args w d' w' := by
  obtain ⟨w₁, hsend, h⟩ := bind_eq_ok.mp h
  cases h
  exact .idle hhead (Player.sendCs_acts hk hsend) (Player.sendCs_objMgr hsend)

theorem onStep0_spec (h : onStep0 codec d args w = .ok (ret, d', w')) :
    ActsOnly codec d args w d' w' := by
  cases args with
  | ss msg => cases h
  | playerIdx i => cases h
  | cs msg connData =>
      unfold onStep0 at h
      dsimp only at h
      split at h
      · cases h
        exact .idle rfl (.refl w) rfl
      split at h
      · cases h
        exact .idle rfl (.refl w) rfl
      generalize hd₁ : rememberClient _ msg connData = d₁ at h
      have hhead : d₁.head = d.head := by rw [← hd₁]; rfl
      cases hp : w.objMgr.getPlayer d₁.body.playerIdx with
      | none =>
          rw [hp] at h
          cases h
          exact .idle hhead (.refl w) rfl
      | some player =>
          obtain ⟨-, hk⟩ := ObjMgrModule.getPlayer_eq_some.mp hp
          simp only [hp] at h
          split at h
          · exact fail_spec hhead hk h
          split at h
          · exact fail_spec hhead hk h
          obtain ⟨account, -, h⟩ := bind_eq_ok.mp h
          obtain ⟨w₁, hreg, h⟩ := bind_eq_ok.mp h
          cases h
          obtain ⟨req, hreq, hnone, hacts⟩ := Player.doAccountReg_acts hk hreg
          refine .one ?_ ?_ hacts (Player.doAccountReg_objMgr hreg) hnone
          · rw [← hhead]
            exact ⟨rfl, rfl⟩
          · rw [hreq, requestSeq, hhead]
            rfl

theorem onStep1_spec (h : onStep1 codec d args w = .ok (ret, d', w')) :
    ActsOnly codec d args w d' w' := by
  cases args with
  | cs msg connData => cases h
  | playerIdx i => cases h
  | ss msg =>
      unfold onStep1 at h
      cases hp : w.objMgr.getPlayer d.body.playerIdx with
      | none =>
          simp only [hp] at h
          cases h
          exact .idle rfl (.refl w) rfl
      | some player =>
          obtain ⟨-, hk⟩ := ObjMgrModule.getPlayer_eq_some.mp hp
          simp only [hp] at h
          split at h
          · obtain ⟨account, -, h⟩ := bind_eq_ok.mp h
            obtain ⟨password, -, h⟩ := bind_eq_ok.mp h
            obtain ⟨w₁, hsend, h⟩ := bind_eq_ok.mp h
            cases h
            exact .idle rfl (Player.sendCs_acts hk hsend) (Player.sendCs_objMgr hsend)
          · obtain ⟨w₁, hsend, h⟩ := bind_eq_ok.mp h
            cases h
            exact .idle rfl (Player.sendCs_acts hk hsend) (Player.sendCs_objMgr hsend)

end LogicNormalReg

namespace LogicQuickReg

theorem onStep0_spec (h : onStep0 codec d args w = .ok (ret, d', w')) :
    ActsOnly codec d args w d' w' := by
  cases args with
  | ss msg => cases h
  | playerIdx i => cases h
  | cs msg connData =>
      unfold onStep0 at h
      dsimp only at h
      generalize hd₁ : rememberClient _ msg connData = d₁ at h
      have hhead : d₁.head = d.head := by rw [← hd₁]; rfl
      cases hp : w.objMgr.getPlayer d₁.body.playerIdx with
      | none =>
          rw [hp] at h
          cases h
          exact .idle hhead (.refl w) rfl
      | some player =>
          obtain ⟨-, hk⟩ := ObjMgrModule.getPlayer_eq_some.mp hp
          simp only [hp] at h
          obtain ⟨password, -, h⟩ := bind_eq_ok.mp h
          obtain ⟨w₁, hreg, h⟩ := bind_eq_ok.mp h
          cases h
          obtain ⟨req, hreq, hnone, hacts⟩ := Player.doAccountReg_acts hk hreg
          refine .one ?_ ?_ hacts (Player.doAccountReg_objMgr hreg) hnone
          · rw [← hhead]
            exact ⟨rfl, rfl⟩
          · rw [hreq, requestSeq, hhead]
            rfl

theorem onStep1_spec (h : onStep1 codec d args w = .ok (ret, d', w')) :
    ActsOnly codec d args w d' w' := by
  cases args with
  | cs msg connData => cases h
  | playerIdx i => cases h
  | ss msg =>
      unfold onStep1 at h
      cases hp : w.objMgr.getPlayer d.body.playerIdx with
      | none =>
          simp only [hp] at h
          cases h
          exact .idle rfl (.refl w) rfl
      | some player =>
          obtain ⟨-, hk⟩ := ObjMgrModule.getPlayer_eq_some.mp hp
          simp only [hp] at h
          split at h
          · obtain ⟨password, -, h⟩ := bind_eq_ok.mp h
            obtain ⟨w₁, hsend, h⟩ := bind_eq_ok.mp h
            cases h
            exact .idle rfl (Player.sendCs_acts hk hsend) (Player.sendCs_objMgr hsend)
          · obtain ⟨w₁, hsend, h⟩ := bind_eq_ok.mp h
            cases h
            exact .idle rfl (Player.sendCs_acts hk hsend) (Player.sendCs_objMgr hsend)

end LogicQuickReg

namespace LogicUpdatePlayer

theorem onStep0_spec (h : onStep0 codec d args w = .ok (ret, d', w')) :
    ActsOnly codec d args w d' w' := by
  cases args with
  | cs msg connData => cases h
  | ss msg => cases h
  | playerIdx i =>
      unfold onStep0 at h
      dsimp only at h
      cases hp : w.objMgr.getPlayer i with
      | none =>
          simp only [hp] at h
          cases h
          exact .idle rfl (.refl w) rfl
      | some player =>
          obtain ⟨-, hk⟩ := ObjMgrModule.getPlayer_eq_some.mp hp
          simp only [hp] at h
          obtain ⟨w₁, hupdate, h⟩ := bind_eq_ok.mp h
          cases h
          obtain ⟨hidx, hk⟩ := ObjMgrModule.getPlayer_eq_some.mp hp
          obtain ⟨req, hreq, hsaves, hacts⟩ := Player.doUpdatePlayerData_acts hk hupdate
          have hsaver : Saver (.playerIdx i) w.objMgr player := .updated (congrArg _ hidx) hk
          exact ⟨[req], .one ⟨rfl, rfl⟩ (by rw [hreq]; rfl) hacts
            (Player.doUpdatePlayerData_frame hupdate).1 (fun _ => ⟨player, hsaver, hsaves⟩),
            fun _ _ _ => ⟨player, congrArg _ hidx⟩⟩

theorem onStep1_spec (h : onStep1 d args w = .ok (ret, d', w')) :
    ActsOnly codec d args w d' w' := by
  cases args with
  | cs msg connData => cases h
  | playerIdx i => cases h
  | ss msg =>
      cases h
      exact .idle rfl (.refl w) rfl

end LogicUpdatePlayer

/-! ### All logics -/

theorem logicTypes_actsOnly {logicType : Int} {logic : LogicBase LogicBody StepArgs GameWorld}
    (htype : (logicTypes codec).logicTypeMap logicType = some logic)
    (hlogin : logicType ≠ MsgModule.logicLogin)
    (h : logic.proc d args w = .ok (ret, d', w')) : ActsOnly codec d args w d' w' := by
  rcases logic.proc_cases d args w with he | ⟨f, hf, he⟩
  · rw [he] at h
    cases h
    exact .idle rfl (.refl w) rfl
  · rw [he] at h
    unfold logicTypes at htype
    dsimp only at htype
    rw [if_neg hlogin] at htype
    split at htype
    · cases htype
      rcases List.mem_pair.mp hf with rfl | rfl
      · exact LogicNormalReg.onStep0_spec h
      · exact LogicNormalReg.onStep1_spec h
    split at htype
    · cases htype
      rcases List.mem_pair.mp hf with rfl | rfl
      · exact LogicQuickReg.onStep0_spec h
      · exact LogicQuickReg.onStep1_spec h
    split at htype
    · cases htype
      rcases List.mem_pair.mp hf with rfl | rfl
      · exact LogicUpdatePlayer.onStep0_spec h
      · exact LogicUpdatePlayer.onStep1_spec h
    · cases htype

theorem logicTypes_login {logic : LogicBase LogicBody StepArgs GameWorld}
    (htype : (logicTypes codec).logicTypeMap MsgModule.logicLogin = some logic)
    (h : logic.proc d args w = .ok (ret, d', w')) :
    (ret = logicFailed ∧ d' = d ∧ w' = w) ∨
      (d.head.step = 0 ∧ LogicLogin.onStep0 codec d args w = .ok (ret, d', w')) ∨
      (d.head.step = 1 ∧ LogicLogin.onStep1 codec d args w = .ok (ret, d', w')) ∨
      (d.head.step = 2 ∧ LogicLogin.onStep2 codec d args w = .ok (ret, d', w')) := by
  cases htype
  unfold LogicBase.proc at h
  split at h
  · cases h
    exact Or.inl ⟨rfl, rfl, rfl⟩
  · next hstep =>
    have hlen : d.head.step < 3 := by
      have : ¬ (3 : Int) ≤ d.head.step := fun h3 => hstep (Or.inr h3)
      omega
    obtain h0 | h1 | h2 : d.head.step = 0 ∨ d.head.step = 1 ∨ d.head.step = 2 := by omega
    · rw [h0] at h
      exact Or.inr (Or.inl ⟨h0, h⟩)
    · rw [h1] at h
      exact Or.inr (Or.inr (Or.inl ⟨h1, h⟩))
    · rw [h2] at h
      exact Or.inr (Or.inr (Or.inr ⟨h2, h⟩))

theorem logicTypes_acts {logicType : Int} {logic : LogicBase LogicBody StepArgs GameWorld}
    (htype : (logicTypes codec).logicTypeMap logicType = some logic)
    (h : logic.proc d args w = .ok (ret, d', w')) :
    ∃ reqs uids, StepActs codec d args w d' w' reqs uids := by
  by_cases hlogin : logicType = MsgModule.logicLogin
  · subst hlogin
    rcases logicTypes_login htype h with ⟨-, rfl, rfl⟩ | ⟨-, h⟩ | ⟨-, h⟩ | ⟨-, h⟩
    · exact ⟨_, _, .idle rfl (.refl _) rfl⟩
    · obtain ⟨msg, connData, -, ⟨-, hs⟩ | ⟨-, req, hs, -⟩⟩ := LogicLogin.onStep0_spec h
      · exact ⟨_, _, hs⟩
      · exact ⟨_, _, hs⟩
    · rcases LogicLogin.onStep1_spec h with ⟨-, hs⟩ | ⟨-, -, req, hs, -⟩
      · exact ⟨_, _, hs⟩
      · exact ⟨_, _, hs⟩
    · obtain ⟨msg, uids, -, -, -, hs, -⟩ := LogicLogin.onStep2_spec h
      exact ⟨_, _, hs⟩
  · obtain ⟨reqs, hs, -⟩ := logicTypes_actsOnly htype hlogin h
    exact ⟨reqs, [], hs⟩

end

end PlayFrame
