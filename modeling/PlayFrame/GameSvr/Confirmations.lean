/-
# `PlayFrame.GameSvr.Confirmations` — who is told that an account is registered

A client is told so by the responses to a registration whose `ret` is 0.  gamesvr has many
other messages for its clients, which its instances make in all their steps; none of them says
so.  It is said only by an instance of a registration that a good answer of datasvr resumes
(`Backend.Moves.tells`), and then it is what the instance has kept.
-/
import PlayFrame.GameSvr.Registration
import PlayFrame.GameSvr.Replies

namespace PlayFrame

open LogicModule (Launched Resumed)

/-- A message with this command and this result says that an account is registered. -/
def ProtoCs.RegOk (cmd ret : Int) : Prop :=
  ret = 0 ∧ (cmd = ProtoCs.quickRegResFieldNumber ∨ cmd = ProtoCs.normalRegResFieldNumber)

instance (cmd ret : Int) : Decidable (ProtoCs.RegOk cmd ret) := by
  unfold ProtoCs.RegOk
  infer_instance

/-- `result` reads the command and the result of a message from its bytes. -/
def Codec.Results (codec : Codec) (result : Bytes → Int × Int) : Prop :=
  ∀ msg : ProtoCs.Msg, 0 ≤ msg.head.cmd → msg.head.cmd < 2147483648 →
    -2147483648 ≤ msg.head.ret → msg.head.ret < 2147483648 →
    result (codec.serialize .cs msg) = (msg.head.cmd, msg.head.ret)

/-- A message with this command and this result does not say so, and both are in range. -/
def ProtoCs.PlainHead (cmd ret : Int) : Prop :=
  (0 ≤ cmd ∧ cmd < 2147483648) ∧ (-2147483648 ≤ ret ∧ ret < 2147483648) ∧
    ¬ ProtoCs.RegOk cmd ret

instance (cmd ret : Int) : Decidable (ProtoCs.PlainHead cmd ret) := by
  unfold ProtoCs.PlainHead
  infer_instance

/-- A payload is that of a message that does not say so. -/
def Plain (codec : Codec) (payload : Bytes) : Prop :=
  ∃ msg : ProtoCs.Msg, payload = codec.serialize .cs msg ∧
    ProtoCs.PlainHead msg.head.cmd msg.head.ret

/-- What a step says that was given `args`. -/
def Says (codec : Codec) (args : StepArgs) (d : LogicData LogicBody) (msg : ConnMsg) : Prop :=
  Plain codec msg.payload ∨ ∃ answer, args = .ss answer ∧ answer.head.ret = ProtoSs.retOk ∧
    Registers d ∧ Confirms codec d msg

section
variable {codec : Codec} {args : StepArgs} {d d₁ d' : LogicData LogicBody}
  {w w₁ w' : GameWorld} {ret : Int} {k : Nat} {P : ConnMsg → Prop}

theorem Plain.not_regOk {payload : Bytes} {result : Bytes → Int × Int}
    (h : Plain codec payload) (hresult : codec.Results result) :
    ¬ ProtoCs.RegOk (result payload).1 (result payload).2 := by
  obtain ⟨msg, rfl, ⟨h₀, h₁⟩, ⟨h₂, h₃⟩, hno⟩ := h
  rw [hresult msg h₀ h₁ h₂ h₃]
  exact hno

theorem Tells.after (hsame : w₁.toConnsvr = w.toConnsvr) (h : Tells P w₁ w') : Tells P w w' := by
  obtain ⟨out, hout, hall⟩ := h
  exact ⟨out, by rw [hout, hsame], hall⟩

theorem Tells.trans (h : Tells P w w₁) (h' : Tells P w₁ w') : Tells P w w' := by
  obtain ⟨out, hout, hall⟩ := h
  obtain ⟨out', hout', hall'⟩ := h'
  refine ⟨out ++ out', by rw [hout', hout, List.append_assoc], fun msg hmsg => ?_⟩
  rcases List.mem_append.mp hmsg with hmsg | hmsg
  · exact hall msg hmsg
  · exact hall' msg hmsg

theorem Tells.told (h : Tells P w w') (hw : w.toConnsvr = []) : ∀ m ∈ w'.toConnsvr, P m := by
  obtain ⟨out, hout, hall⟩ := h
  rw [hw, List.nil_append] at hout
  rw [hout]
  exact hall

theorem Player.sendCs_plain {connCmd : ConnCmd} {msg : ProtoCs.Msg}
    (h : Player.sendCs codec connCmd msg k w = .ok w') {cmd errRet : Int}
    (hplain : ProtoCs.PlainHead cmd errRet) (hcmd : msg.head.cmd = cmd)
    (hret : msg.head.ret = errRet) : Tells (Says codec args d) w w' := by
  subst hcmd hret
  exact (Player.sendCs_tells h).mono (fun _ hm => Or.inl ⟨msg, hm, hplain⟩)

theorem Player.sendFailedCsRes_plain {seq : UInt64} {cmd : Int}
    (h : Player.sendFailedCsRes codec seq cmd (-1) k w = .ok w')
    (hplain : ProtoCs.PlainHead cmd (-1)) : Tells (Says codec args d) w w' :=
  Player.sendCs_plain h hplain rfl rfl

/-! ## The steps of the logics -/

namespace LogicLogin

theorem fail_tells (h : fail codec d₁ k w = .ok (ret, d', w')) :
    Tells (Says codec args d) w w' := by
  obtain ⟨w₁, hsend, h⟩ := bind_eq_ok.mp h
  cases h
  exact Player.sendFailedCsRes_plain hsend (by decide)

theorem askData_tells (h : askData codec d₁ k w = .ok (ret, d', w')) : Tells P w w' := by
  obtain ⟨w₁, hask, h⟩ := bind_eq_ok.mp h
  cases h
  exact .nothing (Player.doGetPlayerData_toConnsvr hask)

theorem kickOff_tells {old : Option Nat} (h : kickOff codec d₁ old w = .ok (ret, d', w')) :
    Tells (Says codec args d) w w' := by
  cases old with
  | none =>
      cases h
      exact .nothing rfl
  | some old =>
      obtain ⟨w₁, hkick, h⟩ := bind_eq_ok.mp h
      obtain ⟨w₂, hupdate, h⟩ := bind_eq_ok.mp h
      cases h
      have hplain : ProtoCs.PlainHead ProtoCs.serverKickOffNtfFieldNumber 0 := by decide
      have htells : Tells (Says codec args d) w w₁ := Player.sendCs_plain hkick hplain rfl rfl
      exact htells.trans (.nothing (Player.doUpdatePlayerData_frame hupdate).2)

theorem onStep0_tells (h : onStep0 codec d₁ args w = .ok (ret, d', w')) :
    Tells (Says codec args d) w w' := by
  cases args with
  | ss msg => cases h
  | playerIdx i => cases h
  | cs msg connData =>
      unfold onStep0 at h
      dsimp only at h
      split at h
      · cases h
        exact .nothing rfl
      split at h
      · exact fail_tells h
      split at h
      · exact fail_tells h
      split at h
      · exact kickOff_tells h
      · exact askData_tells h

theorem onStep1_tells (h : onStep1 codec d₁ args w = .ok (ret, d', w')) :
    Tells (Says codec args d) w w' := by
  cases args with
  | cs msg connData => cases h
  | playerIdx i => cases h
  | ss msg =>
      unfold onStep1 at h
      dsimp only at h
      split at h
      · cases h
        exact .nothing rfl
      split at h
      · exact fail_tells h
      · exact askData_tells h

theorem onStep2_tells (h : onStep2 codec d₁ args w = .ok (ret, d', w')) :
    Tells (Says codec args d) w w' := by
  obtain ⟨msg, -, rfl, -⟩ := onStep2_spec h
  by_cases hret : msg.head.ret = ProtoSs.retOk
  · obtain ⟨rfl, rfl, k, w₁, w₂, w₃, -, -, hload, huid, hres, hntf⟩ := onStep2_good h hret
    have hquiet : (Player.setPasswordHash d'.body.passwordHash k w₂).toConnsvr = w.toConnsvr :=
      (Player.setUid_toConnsvr huid).trans (loadCities_toConnsvr _ hload :)
    have hplain : ProtoCs.PlainHead ProtoCs.loginResFieldNumber 0 := by decide
    have hplain' : ProtoCs.PlainHead ProtoCs.roleInfoNtfFieldNumber 0 := by decide
    exact ((Player.sendCs_plain hres hplain rfl rfl).trans
      (Player.sendCs_plain hntf hplain' rfl rfl)).after hquiet
  · obtain ⟨-, -, k, -, -, hsend⟩ := onStep2_bad h hret
    exact Player.sendFailedCsRes_plain hsend (by decide)

end LogicLogin

namespace LogicNormalReg

theorem onStep0_tells (h : onStep0 codec d₁ args w = .ok (ret, d', w')) :
    Tells (Says codec args d) w w' := by
  cases args with
  | ss msg => cases h
  | playerIdx i => cases h
  | cs msg connData =>
      have hfail : ∀ d₂ player, fail codec d₂ player w = .ok (ret, d', w') →
          Tells (Says codec (.cs msg connData) d) w w' := by
        intro d₂ player h
        obtain ⟨w₁, hsend, h⟩ := bind_eq_ok.mp h
        cases h
        exact Player.sendFailedCsRes_plain hsend (by decide)
      unfold onStep0 at h
      dsimp only at h
      split at h
      · cases h
        exact .nothing rfl
      split at h
      · cases h
        exact .nothing rfl
      split at h
      · cases h
        exact .nothing rfl
      split at h
      · exact hfail _ _ h
      split at h
      · exact hfail _ _ h
      obtain ⟨account, -, h⟩ := bind_eq_ok.mp h
      obtain ⟨w₁, hreg, h⟩ := bind_eq_ok.mp h
      cases h
      exact .nothing (Player.doAccountReg_toConnsvr hreg)

theorem onStep1_refuses (hbad : ∀ answer, args = .ss answer → answer.head.ret ≠ ProtoSs.retOk)
    (h : onStep1 codec d₁ args w = .ok (ret, d', w')) : Tells (Says codec args d) w w' := by
  cases args with
  | cs msg connData => cases h
  | playerIdx i => cases h
  | ss answer =>
      unfold onStep1 at h
      dsimp only at h
      split at h
      · cases h
        exact .nothing rfl
      · rw [if_neg (hbad answer rfl)] at h
        obtain ⟨w₁, hsend, h⟩ := bind_eq_ok.mp h
        cases h
        exact Player.sendFailedCsRes_plain hsend (by decide)

end LogicNormalReg

namespace LogicQuickReg

theorem onStep0_tells (h : onStep0 codec d₁ args w = .ok (ret, d', w')) : Tells P w w' := by
  cases args with
  | ss msg => cases h
  | playerIdx i => cases h
  | cs msg connData =>
      unfold onStep0 at h
      dsimp only at h
      split at h
      · cases h
        exact .nothing rfl
      obtain ⟨password, -, h⟩ := bind_eq_ok.mp h
      obtain ⟨w₁, hreg, h⟩ := bind_eq_ok.mp h
      cases h
      exact .nothing (Player.doAccountReg_toConnsvr hreg)

theorem onStep1_refuses (hbad : ∀ answer, args = .ss answer → answer.head.ret ≠ ProtoSs.retOk)
    (h : onStep1 codec d₁ args w = .ok (ret, d', w')) : Tells (Says codec args d) w w' := by
  cases args with
  | cs msg connData => cases h
  | playerIdx i => cases h
  | ss answer =>
      unfold onStep1 at h
      dsimp only at h
      split at h
      · cases h
        exact .nothing rfl
      · rw [if_neg (hbad answer rfl)] at h
        obtain ⟨w₁, hsend, h⟩ := bind_eq_ok.mp h
        cases h
        exact Player.sendFailedCsRes_plain hsend (by decide)

end LogicQuickReg

namespace LogicUpdatePlayer

theorem onStep0_tells (h : onStep0 codec d₁ args w = .ok (ret, d', w')) : Tells P w w' := by
  cases args with
  | cs msg connData => cases h
  | ss msg => cases h
  | playerIdx i =>
      unfold onStep0 at h
      dsimp only at h
      split at h
      · cases h
        exact .nothing rfl
      obtain ⟨w₁, hupdate, h⟩ := bind_eq_ok.mp h
      cases h
      exact .nothing (Player.doUpdatePlayerData_frame hupdate).2

theorem onStep1_tells (h : onStep1 d₁ args w = .ok (ret, d', w')) : Tells P w w' := by
  cases args with
  | cs msg connData => cases h
  | playerIdx i => cases h
  | ss msg =>
      cases h
      exact .nothing rfl

end LogicUpdatePlayer

/-! ## All logics -/

/-- **The steps of any logic** say that an account is registered only after a good answer. -/
theorem logicTypes_tells {logic : LogicBase LogicBody StepArgs GameWorld}
    (htype : (logicTypes codec).logicTypeMap d.head.logicType = some logic)
    (h : logic.proc d args w = .ok (ret, d', w')) : Tells (Says codec args d) w w' := by
  by_cases hgood : Registers d ∧ ∃ answer, args = .ss answer ∧ answer.head.ret = ProtoSs.retOk
  · obtain ⟨hreg, answer, rfl, hok⟩ := hgood
    exact ((logicTypes_confirms hreg htype h).2.2 hok).mono
      (fun _ hm => Or.inr ⟨answer, rfl, hok, hreg, hm⟩)
  have hbad : Registers d → ∀ answer, args = .ss answer → answer.head.ret ≠ ProtoSs.retOk :=
    fun hreg answer hargs hok => hgood ⟨hreg, answer, hargs, hok⟩
  by_cases hlogin : d.head.logicType = MsgModule.logicLogin
  · rw [hlogin] at htype
    rcases logicTypes_login htype h with ⟨-, -, rfl⟩ | ⟨-, h⟩ | ⟨-, h⟩ | ⟨-, h⟩
    · exact .nothing rfl
    · exact LogicLogin.onStep0_tells h
    · exact LogicLogin.onStep1_tells h
    · exact LogicLogin.onStep2_tells h
  · rcases logic.proc_cases d args w with he | ⟨f, hf, he⟩
    · rw [he] at h
      cases h
      exact .nothing rfl
    · rw [he] at h
      unfold logicTypes at htype
      dsimp only at htype
      rw [if_neg hlogin] at htype
      split at htype
      · next hlogic =>
        cases htype
        rcases List.mem_pair.mp hf with rfl | rfl
        · exact LogicNormalReg.onStep0_tells h
        · exact LogicNormalReg.onStep1_refuses (hbad (Or.inl hlogic)) h
      split at htype
      · next hlogic =>
        cases htype
        rcases List.mem_pair.mp hf with rfl | rfl
        · exact LogicQuickReg.onStep0_tells h
        · exact LogicQuickReg.onStep1_refuses (hbad (Or.inr hlogic)) h
      split at htype
      · cases htype
        rcases List.mem_pair.mp hf with rfl | rfl
        · exact LogicUpdatePlayer.onStep0_tells h
        · exact LogicUpdatePlayer.onStep1_tells h
      · cases htype

end

namespace Backend

variable {codec : Codec} {b b' : Backend} {i : BackendInput} {out : GameOut}

/-- A step has been given the good answer to a registration, and what it tells is what the
instance has kept. -/
def Confirmed (codec : Codec) (b : Backend) (i : BackendInput) (m : ConnMsg) : Prop :=
  ∃ req answer ret msg d, i = .datasvr req answer ret ∧
    b.game.answerMsg codec answer = some msg ∧ msg.head.ret = ProtoSs.retOk ∧
    b.game.logicModule.store.logicDataMap.lookup (logicIdOfSeq msg.head.seq) = some d ∧
    Registers d ∧ Confirms codec d m

/-- **Every message to a client** is plain, or confirms a registration that datasvr has
answered well. -/
theorem Moves.tells (h : Moves codec b i b' out) :
    ∀ m ∈ out.toConnsvr, Plain codec m.payload ∨ Confirmed codec b i m := by
  cases h with
  | connsvr msg ret game out hrun hconn =>
      have hlaunched : ∀ {raw logicId logicType args} {m' : LogicModule LogicBody} {w w'},
          Launched (logicTypes codec) raw logicId logicType args b.game.logicModule m' w w' →
          (∀ answer, args ≠ .ss answer) → w.toConnsvr = [] →
          ∀ m ∈ w'.toConnsvr, Plain codec m.payload := by
        intro raw logicId logicType args m' w w' hlaunch hargs hw m hm
        obtain ⟨logic, ret, d', htype, hstep, -⟩ := hlaunch.step
        rcases (logicTypes_tells htype hstep).told hw m hm with hplain | ⟨answer, hss, -⟩
        · exact hplain
        · exact absurd hss (hargs answer)
      cases hrun with
      | handled connData m' w' henters hhandled hobj hout =>
          subst hout
          rcases hhandled with ⟨-, rfl⟩ | ⟨csMsg, logicId, -, -, hlaunch⟩
          · exact fun m hm => absurd hm List.not_mem_nil
          · intro m hm
            have hm : m ∈ w'.toConnsvr := hm
            exact Or.inl (hlaunched hlaunch (fun _ h => nomatch h) rfl m hm)
      | stopped w' hcmd hsaving hdel hout =>
          subst hout
          rcases hsaving with ⟨-, rfl, -⟩ | ⟨logicId, hlaunch⟩
          · exact fun m hm => absurd hm List.not_mem_nil
          · intro m hm
            have hm : m ∈ w'.toConnsvr := hm
            exact Or.inl (hlaunched hlaunch (fun _ h => nomatch h) rfl m hm)
  | datasvr req answer ret game w' hreq hanswers hanswered hobj hsame =>
      rcases hanswered with ⟨-, rfl⟩ | ⟨msg, d, hmsg, hresume⟩
      · exact fun m hm => absurd hm List.not_mem_nil
      · obtain ⟨logic, ret', d', htype, hstep, -⟩ := hresume.step
        intro m hm
        have hm : m ∈ w'.toConnsvr := hm
        rcases (logicTypes_tells htype hstep).told rfl m hm with
          hplain | ⟨answer', hss, hok, hreg, hconfirms⟩
        · exact Or.inl hplain
        · cases hss
          exact Or.inr ⟨req, answer, ret, msg, d, rfl, hmsg, hok, hresume.found, hreg, hconfirms⟩
  | update now game hobj hcreated hlookup => exact fun m hm => absurd hm List.not_mem_nil

/-! ## Where the instances come from -/

theorem enters_connCmd {m m' : ObjMgrModule} {msg : ConnMsg} {connData : ConnData}
    (h : GameSvr.Enters m msg connData m') : msg.connData.connCmd ≠ .connStop := by
  cases h with
  | start k m' hcmd _ =>
      rw [hcmd]
      decide
  | proc hcmd =>
      rw [hcmd]
      decide

/-- **Every instance** after a step was there before, or saves a player, or was launched by the
message of a client that the step has taken. -/
theorem Moves.instances {size : Nat} {start : Int} (hinv : b.Inv size start)
    (h : Moves codec b i b' out) {id : Int} {d : LogicData LogicBody}
    (hd : b'.game.logicModule.store.logicDataMap.lookup id = some d)
    (htype : d.head.logicType ≠ MsgModule.logicUpdatePlayer) :
    (∃ d₀, b.game.logicModule.store.logicDataMap.lookup id = some d₀ ∧
        d₀.head.logicType = d.head.logicType ∧ b'.launches id = b.launches id) ∨
      ∃ msg ret csMsg o, i = .connsvr msg ret ∧ msg.connData.connCmd ≠ .connStop ∧
        b.game.clientMsg codec msg = some csMsg ∧ b'.launches id = some o ∧ o.msg = csMsg := by
  cases h with
  | connsvr msg ret game out hrun hconn =>
      have hold : b.game.logicModule.store.logicDataMap.lookup id = some d →
          (b.afterConnsvr codec msg game out).launches id = b.launches id :=
        fun hd => if_neg (fun hnew => hnew.2 (hinv.head id d hd).1)
      cases hrun with
      | handled connData m w' henters hhandled hobj hout =>
          rcases hhandled with ⟨hm, -⟩ | ⟨csMsg, logicId, hmsg, -, hlaunch⟩
          · rw [show (b.afterConnsvr codec msg game out).game.logicModule = _ from hm] at hd
            exact Or.inl ⟨d, hd, rfl, hold hd⟩
          by_cases hid : id = logicId
          · subst hid
            have hnew : IsNew b.game game id :=
              ⟨by rw [hlaunch.created]; exact List.mem_cons_self, hlaunch.fresh⟩
            exact Or.inr ⟨msg, ret, csMsg, _, rfl, enters_connCmd henters, hmsg,
              (if_pos hnew).trans (congrArg _ hmsg), rfl⟩
          · have hd₀ := (hlaunch.others id hid).symm.trans hd
            exact Or.inl ⟨d, hd₀, rfl, hold hd₀⟩
      | stopped w' hcmd hsaving hdel hout =>
          rcases hsaving with ⟨hm, -⟩ | ⟨logicId, hlaunch⟩
          · rw [show (b.afterConnsvr codec msg game out).game.logicModule = _ from hm] at hd
            exact Or.inl ⟨d, hd, rfl, hold hd⟩
          by_cases hid : id = logicId
          · subst hid
            obtain ⟨logic, ret', d', hlogic, hstep, hlookup⟩ := hlaunch.step
            obtain ⟨reqs, uids, hacts⟩ := logicTypes_acts hlogic hstep
            obtain ⟨rfl, -⟩ := kept_of_lookup hlookup hd
            exact absurd hacts.head.2 htype
          · have hd₀ := (hlaunch.others id hid).symm.trans hd
            exact Or.inl ⟨d, hd₀, rfl, hold hd₀⟩
  | datasvr req answer ret game w' hreq hanswers hanswered hobj hsame =>
      rcases hanswered with ⟨hm, -⟩ | ⟨msg, d₀, hmsg, hresume⟩
      · rw [show (b.afterDatasvr codec req answer game _).game.logicModule = _ from hm] at hd
        exact Or.inl ⟨d, hd, rfl, rfl⟩
      by_cases hid : id = logicIdOfSeq msg.head.seq
      · subst hid
        obtain ⟨logic, ret', d', hlogic, hstep, hlookup⟩ := hresume.step
        obtain ⟨reqs, uids, hacts⟩ := logicTypes_acts hlogic hstep
        obtain ⟨rfl, -⟩ := kept_of_lookup hlookup hd
        exact Or.inl ⟨d₀, hresume.found, hacts.head.2.symm, rfl⟩
      · exact Or.inl ⟨d, (hresume.others id hid).symm.trans hd, rfl, rfl⟩
  | update now game hobj hcreated hlookup => exact Or.inl ⟨d, hlookup id d hd, rfl, rfl⟩

end Backend

/-! ## Reading a head -/

namespace Wire

end Wire

end PlayFrame
