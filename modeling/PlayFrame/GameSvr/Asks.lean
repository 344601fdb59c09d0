/-
# `PlayFrame.GameSvr.Asks` — what gamesvr asks of datasvr

Every request of gamesvr is one of `DoGetPlayerData`, `DoUpdatePlayerData` and `DoAccountReg`
(`logicTypes_asks`).  A registration asks for the credentials that it will tell its client:
what it registers can be read back from the arrays of its instance.
-/
import PlayFrame.GameSvr.Backend
import PlayFrame.GameSvr.NormalReg
import PlayFrame.GameSvr.QuickReg

namespace PlayFrame

/-- The requests that gamesvr makes. -/
inductive GameRequest (codec : Codec) : ProtoSs.Msg → Prop
  | getPlayerData (seq : UInt64) (playerIdx : Int) (uid passwordHash : UInt64) :
      GameRequest codec (Player.getPlayerDataReq seq playerIdx uid passwordHash)
  | setPlayerData (seq : UInt64) (playerIdx : Int) (uid : UInt64) (playerData : Bytes) :
      GameRequest codec (Player.setPlayerDataReq seq playerIdx uid playerData)
  | accountReg (seq : UInt64) (playerIdx : Int) (uid passwordHash : UInt64) (account : Bytes) :
      GameRequest codec (Player.accountRegReq seq playerIdx uid passwordHash account
        (codec.serializePlayerData Player.newPlayerData))

/-- What is sent to datasvr between two worlds has a property. -/
def Asks (P : ProtoSs.Msg → Prop) (w w' : GameWorld) : Prop :=
  ∃ sent, w'.toDatasvr = w.toDatasvr ++ sent ∧ ∀ req ∈ sent, P req

/-- What is sent to connsvr between two worlds has a property. -/
def Tells (P : ConnMsg → Prop) (w w' : GameWorld) : Prop :=
  ∃ out, w'.toConnsvr = w.toConnsvr ++ out ∧ ∀ msg ∈ out, P msg

section
variable {codec : Codec} {P Q : ProtoSs.Msg → Prop} {w w₁ w' : GameWorld} {k : Nat}
  {args : StepArgs} {d d' : LogicData LogicBody} {ret : Int}

theorem Asks.nothing (h : w'.toDatasvr = w.toDatasvr) : Asks P w w' :=
  ⟨[], by rw [h, List.append_nil], fun _ h => absurd h List.not_mem_nil⟩

theorem Asks.mono (h : Asks P w w') (himp : ∀ req, P req → Q req) : Asks Q w w' := by
  obtain ⟨sent, hsent, hall⟩ := h
  exact ⟨sent, hsent, fun req hreq => himp req (hall req hreq)⟩

theorem Asks.after (hsame : w₁.toDatasvr = w.toDatasvr) (h : Asks P w₁ w') : Asks P w w' := by
  obtain ⟨sent, hsent, hall⟩ := h
  exact ⟨sent, by rw [hsent, hsame], hall⟩

theorem Asks.sent (h : Asks P w w') (hw : w.toDatasvr = []) : ∀ req ∈ w'.toDatasvr, P req := by
  obtain ⟨sent, hsent, hall⟩ := h
  rw [hsent, hw]
  exact hall

theorem Tells.nothing {P : ConnMsg → Prop} (h : w'.toConnsvr = w.toConnsvr) : Tells P w w' :=
  ⟨[], by rw [h, List.append_nil], fun _ h => absurd h List.not_mem_nil⟩

theorem Tells.mono {P Q : ConnMsg → Prop} (h : Tells P w w') (himp : ∀ msg, P msg → Q msg) :
    Tells Q w w' := by
  obtain ⟨out, hout, hall⟩ := h
  exact ⟨out, hout, fun msg hmsg => himp msg (hall msg hmsg)⟩

/-! ## The methods of a player -/

namespace Player

theorem sendCs_tells {connCmd : ConnCmd} {msg : ProtoCs.Msg}
    (h : sendCs codec connCmd msg k w = .ok w') :
    Tells (fun m => m.payload = codec.serialize .cs msg) w w' := by
  obtain ⟨playerIdx, -, h⟩ := bind_eq_ok.mp h
  cases h
  unfold GameWorld.sendToConnsvr serializeToArray
  split
  · exact .nothing rfl
  · next bytes hbytes =>
    rw [Option.ite_none_right_eq_some] at hbytes
    obtain ⟨-, hbytes⟩ := hbytes
    cases hbytes
    split
    · exact ⟨[_], rfl, fun m hm => (List.mem_singleton.mp hm) ▸ rfl⟩
    · exact .nothing rfl

theorem sendCs_toDatasvr {connCmd : ConnCmd} {msg : ProtoCs.Msg}
    (h : sendCs codec connCmd msg k w = .ok w') : w'.toDatasvr = w.toDatasvr := by
  obtain ⟨playerIdx, -, h⟩ := bind_eq_ok.mp h
  cases h
  unfold GameWorld.sendToConnsvr
  split
  · rfl
  · split
    · rfl
    · rfl

theorem sendToDatasvr_asks {msg : ProtoSs.Msg} (hmsg : P msg) :
    Asks P w (w.sendToDatasvr codec msg).2 := by
  unfold GameWorld.sendToDatasvr
  split
  · exact .nothing rfl
  · split
    · exact ⟨[msg], rfl, fun req hreq => (List.mem_singleton.mp hreq) ▸ hmsg⟩
    · exact .nothing rfl

theorem doGetPlayerData_asks {seq uid passwordHash : UInt64}
    (h : doGetPlayerData codec seq uid passwordHash k w = .ok w') :
    Asks (GameRequest codec) w w' := by
  obtain ⟨playerIdx, -, h⟩ := bind_eq_ok.mp h
  cases h
  exact sendToDatasvr_asks (.getPlayerData ..)

theorem doUpdatePlayerData_asks {seq : UInt64} (h : doUpdatePlayerData codec seq k w = .ok w') :
    Asks (GameRequest codec) w w' := by
  obtain ⟨playerIdx, -, h⟩ := bind_eq_ok.mp h
  obtain ⟨cities, -, h⟩ := bind_eq_ok.mp h
  dsimp only at h
  split at h
  · cases h
    exact .nothing rfl
  · next bytes _ =>
    cases h
    exact sendToDatasvr_asks (.setPlayerData seq playerIdx _ bytes)

theorem doAccountReg_asks {seq uid passwordHash : UInt64} {account : Bytes}
    (hk : w.objMgr.Live k) (h : doAccountReg codec seq uid passwordHash account k w = .ok w')
    (hP : P (accountRegReq seq k uid passwordHash account
      (codec.serializePlayerData newPlayerData))) : Asks P w w' := by
  rcases doAccountReg_out hk h with hout | hout
  · exact .nothing hout
  · exact ⟨_, hout, fun req hreq => (List.mem_singleton.mp hreq) ▸ hP⟩

end Player

/-! ## The steps of the logics -/

namespace LogicLogin

theorem fail_asks (h : fail codec d k w = .ok (ret, d', w')) : Asks (GameRequest codec) w w' := by
  obtain ⟨w₁, hsend, h⟩ := bind_eq_ok.mp h
  cases h
  exact .nothing (Player.sendCs_toDatasvr hsend)

theorem askData_asks (h : askData codec d k w = .ok (ret, d', w')) :
    Asks (GameRequest codec) w w' := by
  obtain ⟨w₁, hask, h⟩ := bind_eq_ok.mp h
  cases h
  exact Player.doGetPlayerData_asks hask

theorem kickOff_asks {old : Option Nat} (h : kickOff codec d old w = .ok (ret, d', w')) :
    Asks (GameRequest codec) w w' := by
  cases old with
  | none =>
      cases h
      exact .nothing rfl
  | some old =>
      obtain ⟨w₁, hkick, h⟩ := bind_eq_ok.mp h
      obtain ⟨w₂, hupdate, h⟩ := bind_eq_ok.mp h
      cases h
      exact .after (Player.sendCs_toDatasvr hkick) (Player.doUpdatePlayerData_asks hupdate)

theorem onStep0_asks (h : onStep0 codec d args w = .ok (ret, d', w')) :
    Asks (GameRequest codec) w w' := by
  cases args with
  | ss msg => cases h
  | playerIdx i => cases h
  | cs msg connData =>
      unfold onStep0 at h
      dsimp only at h
      split at h
      · cases h
        exact .nothing rfl
      split at h
      · exact fail_asks h
      split at h
      · exact fail_asks h
      split at h
      · exact kickOff_asks h
      · exact askData_asks h

theorem onStep1_asks (h : onStep1 codec d args w = .ok (ret, d', w')) :
    Asks (GameRequest codec) w w' := by
  cases args with
  | cs msg connData => cases h
  | playerIdx i => cases h
  | ss msg =>
      unfold onStep1 at h
      dsimp only at h
      split at h
      · cases h
        exact .nothing rfl
      split at h
      · exact fail_asks h
      · exact askData_asks h

theorem onStep2_asks (h : onStep2 codec d args w = .ok (ret, d', w')) :
    Asks (GameRequest codec) w w' := by
  obtain ⟨msg, uids, -, -, -, hs, -⟩ := onStep2_spec h
  exact .nothing hs.acts.toDatasvr_eq

end LogicLogin

namespace LogicNormalReg

/-- The request of a registration: the account is the one that its client will be told, and
the uid and the hash are those of what the client has submitted. -/
def Asked (codec : Codec) (msg : ProtoCs.Msg) (d : LogicData LogicBody) (req : ProtoSs.Msg) :
    Prop :=
  Keeps msg d ∧ ∃ account, accountString d = .ok account ∧
    req = Player.accountRegReq (requestSeq d) d.body.playerIdx
      (Utils.fnv64aHash (submitted msg).account) (Utils.fnv64aHash (submitted msg).password)
      account (codec.serializePlayerData Player.newPlayerData)

theorem onStep0_asks (h : onStep0 codec d args w = .ok (ret, d', w')) :
    Asks (fun req => GameRequest codec req ∧ ∃ msg connData, args = .cs msg connData ∧
      Asked codec msg d' req) w w' := by
  cases args with
  | ss msg => cases h
  | playerIdx i => cases h
  | cs msg connData =>
      unfold onStep0 at h
      dsimp only at h
      split at h
      · cases h
        exact .nothing rfl
      split at h
      · cases h
        exact .nothing rfl
      generalize hd₁ : rememberClient _ msg connData = d₁ at h
      cases hp : w.objMgr.getPlayer d₁.body.playerIdx with
      | none =>
          rw [hp] at h
          cases h
          exact .nothing rfl
      | some player =>
          obtain ⟨hidx, hk⟩ := ObjMgrModule.getPlayer_eq_some.mp hp
          have hfail : fail codec d₁ player w = .ok (ret, d', w') →
              w'.toDatasvr = w.toDatasvr := by
            intro h
            obtain ⟨w₁, hsend, h⟩ := bind_eq_ok.mp h
            cases h
            exact Player.sendCs_toDatasvr hsend
          simp only [hp] at h
          split at h
          · exact .nothing (hfail h)
          next hacc =>
          split at h
          · exact .nothing (hfail h)
          next hpass =>
          obtain ⟨account, haccount, h⟩ := bind_eq_ok.mp h
          obtain ⟨w₁, hreg, h⟩ := bind_eq_ok.mp h
          cases h
          have hseq : requestSeq d = requestSeq d₁ := by
            rw [← hd₁]
            rfl
          have hkeeps : Keeps msg (changeStep d₁ 1) := by
            rw [← hd₁]
            exact registering_keeps ⟨not_not.mp hacc, not_not.mp hpass⟩
          refine Player.doAccountReg_asks hk hreg ⟨.accountReg .., msg, connData, rfl, hkeeps,
            account, haccount, ?_⟩
          show _ = Player.accountRegReq (requestSeq d₁) d₁.body.playerIdx _ _ _ _
          rw [hidx]
          rfl

/-- **OnStep1** ends the registration.  It asks for nothing, and after a good answer it tells
the client the account and the password that the instance has. -/
theorem onStep1_tells {answer : ProtoSs.Msg}
    (h : onStep1 codec d (.ss answer) w = .ok (ret, d', w')) :
    ret ≠ logicYield ∧ w'.toDatasvr = w.toDatasvr ∧ (answer.head.ret = ProtoSs.retOk →
      Tells (fun msg => ∃ account password, accountString d = .ok account ∧
        passwordString d = .ok password ∧
        msg.payload = codec.serialize .cs
          (Player.normalRegRes d.body.clientSeq account password)) w w') := by
  unfold onStep1 at h
  dsimp only at h
  split at h
  · cases h
    exact ⟨by decide, rfl, fun _ => .nothing rfl⟩
  split at h
  · obtain ⟨account, haccount, h⟩ := bind_eq_ok.mp h
    obtain ⟨password, hpassword, h⟩ := bind_eq_ok.mp h
    obtain ⟨w₁, hsend, h⟩ := bind_eq_ok.mp h
    cases h
    refine ⟨by decide, Player.sendCs_toDatasvr hsend, fun _ => ?_⟩
    exact (Player.sendCs_tells hsend).mono
      (fun msg hmsg => ⟨account, password, haccount, hpassword, hmsg⟩)
  · next hbad =>
    obtain ⟨w₁, hsend, h⟩ := bind_eq_ok.mp h
    cases h
    exact ⟨by decide, Player.sendCs_toDatasvr hsend, fun hok => absurd hok hbad⟩

end LogicNormalReg

namespace LogicQuickReg

/-- The request of a quick registration: the uid and the password are those that its client
will be told. -/
def Asked (codec : Codec) (d : LogicData LogicBody) (req : ProtoSs.Msg) : Prop :=
  ∃ password, Utils.cString d.body.password = .ok password ∧
    req = Player.accountRegReq (requestSeq d) d.body.playerIdx d.body.uid
      (Utils.fnv64aHash password) [] (codec.serializePlayerData Player.newPlayerData)

theorem onStep0_asks (h : onStep0 codec d args w = .ok (ret, d', w')) :
    Asks (fun req => GameRequest codec req ∧ Asked codec d' req) w w' := by
  cases args with
  | ss msg => cases h
  | playerIdx i => cases h
  | cs msg connData =>
      unfold onStep0 at h
      dsimp only at h
      generalize hd₁ : rememberClient _ msg connData = d₁ at h
      cases hp : w.objMgr.getPlayer d₁.body.playerIdx with
      | none =>
          rw [hp] at h
          cases h
          exact .nothing rfl
      | some player =>
          obtain ⟨hidx, hk⟩ := ObjMgrModule.getPlayer_eq_some.mp hp
          simp only [hp] at h
          obtain ⟨password, hpassword, h⟩ := bind_eq_ok.mp h
          obtain ⟨w₁, hreg, h⟩ := bind_eq_ok.mp h
          cases h
          have hseq : requestSeq d = requestSeq d₁ := by
            rw [← hd₁]
            rfl
          refine Player.doAccountReg_asks hk hreg ⟨.accountReg .., password, hpassword, ?_⟩
          show _ = Player.accountRegReq (requestSeq d₁) d₁.body.playerIdx _ _ _ _
          rw [hidx, ← hseq]
          rfl

/-- The message of `SendOkCsQuickRegRes`. -/
def quickRegRes (seq uid : UInt64) (password : Bytes) : ProtoCs.Msg where
  head := { cmd := ProtoCs.quickRegResFieldNumber, ret := 0, seq := seq }
  quickRegRes := some { account := Utils.toString uid, password := password }

/-- **OnStep1** ends the registration.  It asks for nothing, and after a good answer it tells
the client the uid and the password that the instance has. -/
theorem onStep1_tells {answer : ProtoSs.Msg}
    (h : onStep1 codec d (.ss answer) w = .ok (ret, d', w')) :
    ret ≠ logicYield ∧ w'.toDatasvr = w.toDatasvr ∧ (answer.head.ret = ProtoSs.retOk →
      Tells (fun msg => ∃ password, Utils.cString d.body.password = .ok password ∧
        msg.payload = codec.serialize .cs (quickRegRes d.body.clientSeq d.body.uid password))
        w w') := by
  unfold onStep1 at h
  dsimp only at h
  split at h
  · cases h
    exact ⟨by decide, rfl, fun _ => .nothing rfl⟩
  split at h
  · obtain ⟨password, hpassword, h⟩ := bind_eq_ok.mp h
    obtain ⟨w₁, hsend, h⟩ := bind_eq_ok.mp h
    cases h
    refine ⟨by decide, Player.sendCs_toDatasvr hsend, fun _ => ?_⟩
    exact (Player.sendCs_tells hsend).mono (fun msg hmsg => ⟨password, hpassword, hmsg⟩)
  · next hbad =>
    obtain ⟨w₁, hsend, h⟩ := bind_eq_ok.mp h
    cases h
    exact ⟨by decide, Player.sendCs_toDatasvr hsend, fun hok => absurd hok hbad⟩

end LogicQuickReg

namespace LogicUpdatePlayer

theorem onStep0_asks (h : onStep0 codec d args w = .ok (ret, d', w')) :
    Asks (GameRequest codec) w w' := by
  cases args with
  | cs msg connData => cases h
  | ss msg => cases h
  | playerIdx i =>
      unfold onStep0 at h
      dsimp only at h
      split at h
      · cases h
        exact .nothing rfl
      · obtain ⟨w₁, hupdate, h⟩ := bind_eq_ok.mp h
        cases h
        exact Player.doUpdatePlayerData_asks hupdate

theorem onStep1_asks (h : onStep1 d args w = .ok (ret, d', w')) : Asks P w w' := by
  cases args with
  | cs msg connData => cases h
  | playerIdx i => cases h
  | ss msg =>
      cases h
      exact .nothing rfl

end LogicUpdatePlayer

/-! ## Every step -/

/-- A registration asks for what it will tell. -/
def RegAsked (codec : Codec) (args : StepArgs) (d : LogicData LogicBody) (req : ProtoSs.Msg) :
    Prop :=
  (d.head.logicType = MsgModule.logicNormalReg →
    ∃ msg connData, args = .cs msg connData ∧ LogicNormalReg.Asked codec msg d req) ∧
  (d.head.logicType = MsgModule.logicQuickReg → LogicQuickReg.Asked codec d req)

theorem logicTypes_asks {logic : LogicBase LogicBody StepArgs GameWorld}
    (htype : (logicTypes codec).logicTypeMap d.head.logicType = some logic)
    (h : logic.proc d args w = .ok (ret, d', w')) :
    Asks (fun req => GameRequest codec req ∧ RegAsked codec args d' req) w w' := by
  have hhead : d'.head.logicType = d.head.logicType := by
    obtain ⟨reqs, uids, hs⟩ := logicTypes_acts htype h
    exact hs.head.2
  have hother : d.head.logicType ≠ MsgModule.logicNormalReg →
      d.head.logicType ≠ MsgModule.logicQuickReg → Asks (GameRequest codec) w w' →
      Asks (fun req => GameRequest codec req ∧ RegAsked codec args d' req) w w' := by
    intro hnormal hquick hasks
    refine hasks.mono (fun req hreq => ⟨hreq, fun hd => ?_, fun hd => ?_⟩)
    · exact absurd (hhead.symm.trans hd) hnormal
    · exact absurd (hhead.symm.trans hd) hquick
  rcases logic.proc_cases d args w with he | ⟨f, hf, he⟩
  · rw [he] at h
    cases h
    exact .nothing rfl
  rw [he] at h
  unfold logicTypes at htype
  dsimp only at htype
  split at htype
  · next hnormal =>
    cases htype
    have hquick : d'.head.logicType ≠ MsgModule.logicQuickReg := by
      rw [hhead, hnormal]
      decide
    rcases List.mem_pair.mp hf with rfl | rfl
    · exact (LogicNormalReg.onStep0_asks h).mono
        (fun req hreq => ⟨hreq.1, fun _ => hreq.2, fun hd => absurd hd hquick⟩)
    · cases args with
      | cs msg connData => cases h
      | playerIdx i => cases h
      | ss msg => exact .nothing (LogicNormalReg.onStep1_tells h).2.1
  next hnormal =>
  split at htype
  · cases htype
    have hnot : d'.head.logicType ≠ MsgModule.logicNormalReg := hhead.trans_ne hnormal
    rcases List.mem_pair.mp hf with rfl | rfl
    · exact (LogicQuickReg.onStep0_asks h).mono
        (fun req hreq => ⟨hreq.1, fun hd => absurd hd hnot, fun _ => hreq.2⟩)
    · cases args with
      | cs msg connData => cases h
      | playerIdx i => cases h
      | ss msg => exact .nothing (LogicQuickReg.onStep1_tells h).2.1
  next hquick =>
  split at htype
  · cases htype
    refine hother hnormal hquick ?_
    simp only [List.mem_cons, List.not_mem_nil, or_false] at hf
    rcases hf with rfl | rfl | rfl
    · exact LogicLogin.onStep0_asks h
    · exact LogicLogin.onStep1_asks h
    · exact LogicLogin.onStep2_asks h
  split at htype
  · cases htype
    refine hother hnormal hquick ?_
    rcases List.mem_pair.mp hf with rfl | rfl
    · exact LogicUpdatePlayer.onStep0_asks h
    · exact LogicUpdatePlayer.onStep1_asks h
  · cases htype

namespace LogicModule

variable {raw : LogicBody} {logicId logicType : Int} {m m' : LogicModule LogicBody}

theorem Launched.asks (h : Launched (logicTypes codec) raw logicId logicType args m m' w w') :
    ∃ d₁, Asks (fun req => GameRequest codec req ∧ RegAsked codec args d₁ req) w w' ∧
      ∀ d', m'.store.logicDataMap.lookup logicId = some d' → d' = d₁ := by
  obtain ⟨logic, ret, d₁, htype, hstep, hlookup⟩ := h.step
  exact ⟨d₁, logicTypes_asks htype hstep, fun d' hd' => (kept_of_lookup hlookup hd').1⟩

/-- **A later step** of an instance.  A registration has no more to ask for. -/
theorem Resumed.asks {msg : ProtoSs.Msg}
    (h : Resumed (logicTypes codec) logicId (.ss msg) d m m' w w') :
    ∃ d₁, Asks (fun req => GameRequest codec req ∧ RegAsked codec (.ss msg) d₁ req) w w' ∧
      ∀ d', m'.store.logicDataMap.lookup logicId = some d' → d' = d₁ := by
  obtain ⟨logic, ret, d₁, htype, hstep, hlookup⟩ := h.step
  exact ⟨d₁, logicTypes_asks htype hstep, fun d' hd' => (kept_of_lookup hlookup hd').1⟩

end LogicModule

namespace Backend

variable {b b' : Backend} {i : BackendInput} {out : GameOut}

theorem Moves.asks (h : Moves codec b i b' out) : ∀ req ∈ out.toDatasvr, GameRequest codec req := by
  have hsent : ∀ {w w' : GameWorld}, Asks (GameRequest codec) w w' → w.toDatasvr = [] →
      ∀ req ∈ (GameSvr.sent w').toDatasvr, GameRequest codec req :=
    fun hasks hw => hasks.sent hw
  cases h with
  | connsvr msg ret game out hrun hconn =>
      cases hrun with
      | handled connData m w' henters hhandled hobj hout =>
          rw [hout]
          rcases hhandled with ⟨-, rfl⟩ | ⟨csMsg, logicId, -, -, hlaunch⟩
          · exact fun _ h => absurd h List.not_mem_nil
          · obtain ⟨d₁, hasks, -⟩ := hlaunch.asks
            exact hsent (hasks.mono (fun _ h => h.1)) rfl
      | stopped w' hcmd hsaving hdel hout =>
          rw [hout]
          rcases hsaving with ⟨-, rfl, -⟩ | ⟨logicId, hlaunch⟩
          · exact fun _ h => absurd h List.not_mem_nil
          · obtain ⟨d₁, hasks, -⟩ := hlaunch.asks
            exact hsent (hasks.mono (fun _ h => h.1)) rfl
  | datasvr req answer ret game w' hreq hanswers hanswered hobj hsame =>
      rcases hanswered with ⟨-, rfl⟩ | ⟨msg, d, -, hresume⟩
      · exact fun _ h => absurd h List.not_mem_nil
      · obtain ⟨d₁, hasks, -⟩ := hresume.asks
        exact hsent (hasks.mono (fun _ h => h.1)) rfl
  | update now game hobj hcreated hlookup => exact fun _ h => absurd h List.not_mem_nil

end Backend

end

end PlayFrame
