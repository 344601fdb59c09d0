/-
# `PlayFrame.GameSvr.QuickReg` — the credentials of a quick registration

`LogicQuickReg` makes up a uid and a password, registers the uid with the hash of the
password, and tells the client the decimal digits of the uid as its account.  A login
takes an account for a name: `CheckAccount` wants a letter first, and `OnStep0` returns
when it does not find one, before it comes to the branch that reads a number.
-/
import PlayFrame.GameSvr.Logics
import PlayFrame.GameSvr.Wire
import PlayFrame.Frame.CString

namespace PlayFrame

namespace Utils

section
variable {b : UInt8} {account : Bytes}

theorem isDigit_of_mem_toString {n : UInt64} (h : b ∈ toString n) : IsDigit b := by
  obtain ⟨c, hc, rfl⟩ := List.mem_map.mp h
  have hdigit : c.isDigit = true := Nat.isDigit_of_mem_toDigits (by decide) (by decide) hc
  simp only [Char.isDigit, Bool.and_eq_true, decide_eq_true_eq, ge_iff_le,
    UInt32.le_iff_toNat_le] at hdigit
  obtain ⟨h₁, h₂⟩ := hdigit
  have hval : (UInt8.ofNat c.toNat).toNat = c.toNat := by
    rw [UInt8.toNat_ofNat']
    exact Nat.mod_eq_of_lt (Nat.lt_of_le_of_lt h₂ (by decide))
  rw [IsDigit, hval]
  exact ⟨h₁, h₂⟩

theorem isDigit_of_mem_genPassword8 {rand : Nat → Nat} (h : b ∈ genPassword8 rand) :
    IsDigit b := by
  obtain ⟨i, -, rfl⟩ := List.mem_map.mp h
  have hlt : rand i % 10 < 10 := Nat.mod_lt _ (by decide)
  have hval : (UInt8.ofNat (rand i % 10 + 48)).toNat = rand i % 10 + 48 := by
    rw [UInt8.toNat_ofNat']
    exact Nat.mod_eq_of_lt (by omega)
  rw [IsDigit, hval]
  omega

/-- **CheckAccount** refuses every number: it does not begin with a letter. -/
theorem checkAccount_number (h : ∀ b ∈ account, IsDigit b) : checkAccount account ≠ 0 := by
  intro hzero
  obtain ⟨⟨hmin, -⟩, hfirst, -⟩ := checkAccount_eq_zero_iff.mp hzero
  cases account with
  | nil => exact absurd hmin (by decide)
  | cons b rest => exact (h b List.mem_cons_self).not_isLetter hfirst

theorem genPassword8_length (rand : Nat → Nat) : (genPassword8 rand).length = 8 := by
  rw [genPassword8, List.length_map, List.length_range]

/-- **CheckPassword** takes every password that `GenPassword8` makes. -/
theorem checkPassword_genPassword8 (rand : Nat → Nat) :
    checkPassword (genPassword8 rand) = 0 := by
  have hlen := genPassword8_length rand
  exact checkPassword_eq_zero_iff.mpr
    ⟨by omega, fun b hb => Or.inr (isDigit_of_mem_genPassword8 hb)⟩

theorem cString_genPassword8 (rand : Nat → Nat) :
    cString (strncpy (genPassword8 rand) 16) = .ok (genPassword8 rand) := by
  have hend : NoEnd (genPassword8 rand) := by
    rintro b hb rfl
    exact absurd (isDigit_of_mem_genPassword8 hb).1 (by decide)
  have hlen := genPassword8_length rand
  have hread : cString (strncpy (genPassword8 rand) 16 ++ []) = .ok (genPassword8 rand) ↔ _ :=
    cString_strncpy_iff hend (by omega)
  rw [List.append_nil] at hread
  exact hread.mpr (Or.inl (by omega))

end

end Utils

section
variable {codec : Codec} {d d₁ d₂ login login' : LogicData LogicBody}
  {w w₁ w₂ w₃ : GameWorld} {ret : Int} {msg : ProtoCs.Msg} {answer : ProtoSs.Msg}
  {connData : ConnData}

theorem LogicLogin.onStep0_refused
    (hcheck : Utils.checkAccount (msg.loginReq.getD {}).account ≠ 0)
    (h : LogicLogin.onStep0 codec login (.cs msg connData) w = .ok (ret, login', w₁)) :
    ret = logicFailed ∧ w₁.toDatasvr = w.toDatasvr := by
  obtain ⟨msg', connData', hargs, ⟨hret, hs⟩ | ⟨-, req, -, hbegun⟩⟩ := onStep0_spec h
  · exact ⟨hret, hs.acts.toDatasvr_eq⟩
  · cases hargs
    exact absurd hbegun.passes.1 hcheck

namespace LogicQuickReg

/-- **OnStep0** registers a new uid with the hash of a new password. -/
theorem onStep0_registers
    (h : onStep0 codec d (.cs msg connData) w = .ok (logicYield, d₁, w₁)) :
    d₁.body.uid = Utils.genUidNum w.rdtsc ∧
      d₁.body.password = Utils.strncpy (Utils.genPassword8 w.rand) 16 ∧
      ∃ k, Player.doAccountReg codec (requestSeq d) (Utils.genUidNum w.rdtsc)
        (Utils.fnv64aHash (Utils.genPassword8 w.rand)) [] k w = .ok w₁ := by
  unfold onStep0 at h
  dsimp only at h
  cases hp : w.objMgr.getPlayer connData.playerIdx with
  | none =>
      simp only [rememberClient, hp] at h
      cases h
  | some player =>
      simp only [rememberClient, hp, Utils.cString_genPassword8, ok_bind] at h
      obtain ⟨w', hreg, h⟩ := bind_eq_ok.mp h
      cases h
      exact ⟨rfl, rfl, player, hreg⟩

/-- **OnStep1**, on a good answer, tells the client the uid and the password. -/
theorem onStep1_returns {password : Bytes} (hok : answer.head.ret = ProtoSs.retOk)
    (hpassword : Utils.cString d₁.body.password = .ok password)
    (h : onStep1 codec d₁ (.ss answer) w₂ = .ok (logicFinish, d₂, w₃)) :
    ∃ k, Player.sendOkCsQuickRegRes codec d₁.body.clientSeq d₁.body.uid password k w₂ =
      .ok w₃ := by
  unfold onStep1 at h
  cases hp : w₂.objMgr.getPlayer d₁.body.playerIdx with
  | none =>
      simp only [hp] at h
      cases h
  | some player =>
      simp only [hp, if_pos hok, hpassword, ok_bind] at h
      obtain ⟨w', hsend, h⟩ := bind_eq_ok.mp h
      cases h
      exact ⟨player, hsend⟩

/-- **The credentials of a quick registration** that datasvr has accepted are of no use:
the password is good, and its hash is the registered one, but every login with them fails
and asks datasvr for nothing. -/
theorem credentials_refused
    (hreg : onStep0 codec d (.cs msg connData) w = .ok (logicYield, d₁, w₁))
    (hok : answer.head.ret = ProtoSs.retOk)
    (hres : onStep1 codec d₁ (.ss answer) w₂ = .ok (logicFinish, d₂, w₃)) :
    ∃ (k k₂ : Nat) (res : ProtoCs.Credentials),
      Player.doAccountReg codec (requestSeq d) (Utils.genUidNum w.rdtsc)
        (Utils.fnv64aHash res.password) [] k w = .ok w₁ ∧
      res.account = Utils.toString (Utils.genUidNum w.rdtsc) ∧
      Player.sendOkCsQuickRegRes codec d₁.body.clientSeq (Utils.genUidNum w.rdtsc) res.password
        k₂ w₂ = .ok w₃ ∧
      Utils.checkPassword res.password = 0 ∧
      ∀ (login login' : LogicData LogicBody) (loginMsg : ProtoCs.Msg) (loginConn : ConnData)
        (w₄ w₅ : GameWorld) (ret : Int), loginMsg.loginReq = some res →
        LogicLogin.onStep0 codec login (.cs loginMsg loginConn) w₄ = .ok (ret, login', w₅) →
        ret = logicFailed ∧ w₅.toDatasvr = w₄.toDatasvr := by
  obtain ⟨huid, hpassword, k, hregister⟩ := onStep0_registers hreg
  have hstring : Utils.cString d₁.body.password = .ok (Utils.genPassword8 w.rand) := by
    rw [hpassword, Utils.cString_genPassword8]
  obtain ⟨k₂, hsend⟩ := onStep1_returns hok hstring hres
  rw [huid] at hsend
  refine ⟨k, k₂, ⟨Utils.toString (Utils.genUidNum w.rdtsc), Utils.genPassword8 w.rand⟩, hregister,
    rfl, hsend, Utils.checkPassword_genPassword8 _, ?_⟩
  intro login login' loginMsg loginConn w₄ w₅ ret hreq hlogin
  refine LogicLogin.onStep0_refused ?_ hlogin
  rw [hreq, Option.getD_some]
  exact Utils.checkAccount_number (fun b hb => Utils.isDigit_of_mem_toString hb)

end LogicQuickReg

end

/-! ### One registration -/

namespace LogicQuickReg

/-- An instance before its first step. -/
def firstStep (logicType : Int) : LogicData LogicBody :=
  ⟨⟨1, logicType, 0⟩, ⟨0, 0, 0, 0, [], [], []⟩⟩

/-- The player asks for a registration. -/
def quickRegReq : ProtoCs.Msg where
  head := { cmd := ProtoCs.quickRegReqFieldNumber, seq := 1 }

/-- datasvr accepts it. -/
def quickRegOk : ProtoSs.Msg where
  head := { cmd := ProtoSs.accountRegResFieldNumber, ret := ProtoSs.retOk, seq := 1, playerIdx := 1 }

/-- The server when the time stamp counter stands at 1234567890123. -/
def counting : GameWorld := { onePlayer with rdtsc := 1234567890123 }

/-- The messages of this registration are not parsed. -/
def quickCodec : Codec := Wire.codec [] [] []

theorem credentials_refused_one :
    ∃ (d₁ d₂ : LogicData LogicBody) (w₁ w₃ : GameWorld),
      onStep0 quickCodec (firstStep MsgModule.logicQuickReg) (.cs quickRegReq ⟨5, 1, .connStart⟩)
        counting = .ok (logicYield, d₁, w₁) ∧
      onStep1 quickCodec d₁ (.ss quickRegOk) w₁ = .ok (logicFinish, d₂, w₃) ∧
      ∃ (k k₂ : Nat) (res : ProtoCs.Credentials),
        Player.doAccountReg quickCodec (requestSeq (firstStep MsgModule.logicQuickReg))
          (Utils.genUidNum counting.rdtsc) (Utils.fnv64aHash res.password) [] k counting = .ok w₁ ∧
        res.account = Utils.toString (Utils.genUidNum counting.rdtsc) ∧
        Player.sendOkCsQuickRegRes quickCodec d₁.body.clientSeq (Utils.genUidNum counting.rdtsc)
          res.password k₂ w₁ = .ok w₃ ∧
        Utils.checkPassword res.password = 0 ∧
        ∀ (login login' : LogicData LogicBody) (loginMsg : ProtoCs.Msg) (loginConn : ConnData)
          (w₄ w₅ : GameWorld) (ret : Int), loginMsg.loginReq = some res →
          LogicLogin.onStep0 quickCodec login (.cs loginMsg loginConn) w₄ =
            .ok (ret, login', w₅) →
          ret = logicFailed ∧ w₅.toDatasvr = w₄.toDatasvr := by
  obtain ⟨d₁, d₂, w₁, w₃, h₁, h₂⟩ : ∃ (d₁ d₂ : LogicData LogicBody) (w₁ w₃ : GameWorld),
      onStep0 quickCodec (firstStep MsgModule.logicQuickReg) (.cs quickRegReq ⟨5, 1, .connStart⟩)
        counting = .ok (logicYield, d₁, w₁) ∧
      onStep1 quickCodec d₁ (.ss quickRegOk) w₁ = .ok (logicFinish, d₂, w₃) :=
    ⟨_, _, _, _, rfl, rfl⟩
  exact ⟨d₁, d₂, w₁, w₃, h₁, h₂, credentials_refused h₁ rfl h₂⟩

/-- **The login fails**: after a registration that datasvr accepted, the client logs in
with the account and the password it was told. -/
theorem login_refused :
    ∃ (d₁ d₂ login' : LogicData LogicBody) (w₁ w₃ w₅ : GameWorld),
      onStep0 quickCodec (firstStep MsgModule.logicQuickReg) (.cs quickRegReq ⟨5, 1, .connStart⟩)
        counting = .ok (logicYield, d₁, w₁) ∧
      onStep1 quickCodec d₁ (.ss quickRegOk) w₁ = .ok (logicFinish, d₂, w₃) ∧
      w₃.toConnsvr = [⟨⟨5, 1, .connStart⟩, Wire.csMsg
        { head := { cmd := ProtoCs.quickRegResFieldNumber, ret := 0, seq := 1 }
          quickRegRes := some ⟨Utils.toString d₁.body.uid, List.replicate 8 48⟩ }⟩] ∧
      LogicLogin.onStep0 quickCodec (firstStep MsgModule.logicLogin)
        (.cs { head := { cmd := ProtoCs.loginReqFieldNumber, seq := 2 }
               loginReq := some ⟨Utils.toString d₁.body.uid, List.replicate 8 48⟩ }
          ⟨5, 1, .connProc⟩) w₃ = .ok (logicFailed, login', w₅) ∧
      w₅.toDatasvr = w₃.toDatasvr :=
  ⟨_, _, _, _, _, _, rfl, rfl, rfl, rfl, rfl⟩

end LogicQuickReg

end PlayFrame
