/-
# `PlayFrame.GameSvr.NormalReg` — the credentials of a normal registration

`LogicNormalReg` copies the account and the password of the client into the arrays of its
data, registers the account with the hashes of both, and tells them to the client when datasvr
has accepted them.  Both are read as C strings.  An account may have 32 characters and a
password 16, as many as the arrays have, and then there is no room for the end: the account
goes on with the password, and the password with what is behind it (`registers_iff`).

The uid is the hash of the account, which tells accounts apart that differ in one character
(`fnv64aHash_separates`).
-/
import PlayFrame.GameSvr.Logics
import PlayFrame.GameSvr.Wire
import PlayFrame.Frame.CString
import PlayFrame.Frame.Uid

namespace PlayFrame

namespace Player

/-- The message of `SendOkCsNormalRegRes`. -/
def normalRegRes (seq : UInt64) (account password : Bytes) : ProtoCs.Msg where
  head := { cmd := ProtoCs.normalRegResFieldNumber, ret := 0, seq := seq }
  normalRegRes := some { account := account, password := password }

/-- The message of `DoAccountReg`. -/
def accountRegReq (seq : UInt64) (playerIdx : Int) (uid passwordHash : UInt64)
    (account playerData : Bytes) : ProtoSs.Msg where
  head := ssHead ProtoSs.accountRegReqFieldNumber seq playerIdx
  accountRegReq := some ⟨uid, passwordHash, account, playerData⟩

section
variable {codec : Codec} {w w' : GameWorld} {k : Nat}

theorem doAccountReg_out {seq uid passwordHash : UInt64} {account : Bytes}
    (hk : w.objMgr.Live k) (h : doAccountReg codec seq uid passwordHash account k w = .ok w') :
    w'.toDatasvr = w.toDatasvr ∨
      w'.toDatasvr = w.toDatasvr ++ [accountRegReq seq k uid passwordHash account
        (codec.serializePlayerData newPlayerData)] := by
  unfold doAccountReg GameWorld.sendToDatasvr at h
  rw [ObjMgrModule.getPlayerIdx_eq hk, ok_bind] at h
  unfold serializeToArray at h
  split at h
  · cases h
    exact Or.inl rfl
  · next bytes hbytes =>
    rw [Option.ite_none_right_eq_some] at hbytes
    obtain ⟨-, hbytes⟩ := hbytes
    cases hbytes
    cases h
    split
    · exact Or.inl rfl
    · split
      · exact Or.inr rfl
      · exact Or.inl rfl

theorem doAccountReg_ok {seq uid passwordHash : UInt64} {account : Bytes}
    (hk : w.objMgr.Live k) :
    ∃ w', doAccountReg codec seq uid passwordHash account k w = .ok w' := by
  unfold doAccountReg
  rw [ObjMgrModule.getPlayerIdx_eq hk, ok_bind]
  split
  · exact ⟨_, rfl⟩
  · exact ⟨_, rfl⟩

end

end Player

/-- The generated code tells a reply with these credentials from one in which they go on, and
the reply fits into the buffer. -/
structure Codec.TellsReg (codec : Codec) (account password : Bytes) : Prop where
  fits : ∀ seq,
    (codec.serialize .cs (Player.normalRegRes seq account password)).length ≤ pkgBufSize
  other : ∀ seq account' password', account <+: account' → password <+: password' →
    codec.serialize .cs (Player.normalRegRes seq account' password') =
      codec.serialize .cs (Player.normalRegRes seq account password) →
    account' = account ∧ password' = password

theorem Wire.csMsg_normalRegRes (seq : UInt64) : ∃ head, head ≤ 80 ∧
    ∀ account password, (Wire.csMsg (Player.normalRegRes seq account password)).length =
      head + (Wire.bytesField 16 (Wire.bytesField 1 account ++ Wire.bytesField 2 password)).length := by
  refine ⟨(Wire.bytesField 1 (Wire.int32Field 1 ProtoCs.normalRegResFieldNumber ++
    Wire.int32Field 2 0 ++ Wire.varintField 3 seq.toNat)).length, ?_, fun account password => ?_⟩
  · have hcmd := Wire.varintField_length 1
      (ProtoCs.normalRegResFieldNumber % 18446744073709551616).toNat
    have hret := Wire.varintField_length 2 ((0 : Int) % 18446744073709551616).toNat
    have hseq := Wire.varintField_length 3 seq.toNat
    refine (Wire.bytesField_length 1 _).trans ?_
    simp only [List.length_append, Wire.int32Field]
    omega
  · simp only [Wire.csMsg, Player.normalRegRes, Wire.credentials, Wire.optionField,
      List.append_nil, List.length_append]

theorem Wire.codec_tellsReg {cs : List (Bytes × ProtoCs.Msg)} {ss : List (Bytes × ProtoSs.Msg)}
    {records : List Database.PlayerData} {account password : Bytes}
    (haccount : account.length ≤ 32) (hpassword : password.length ≤ 16) :
    (Wire.codec cs ss records).TellsReg account password := by
  constructor
  · intro seq
    obtain ⟨head, hhead, hlen⟩ := Wire.csMsg_normalRegRes seq
    have h₁ := Wire.bytesField_length 1 account
    have h₂ := Wire.bytesField_length 2 password
    have h₃ := Wire.bytesField_length 16
      (Wire.bytesField 1 account ++ Wire.bytesField 2 password)
    have hbuf : pkgBufSize = 10240 := rfl
    refine (hlen account password).trans_le ?_
    rw [List.length_append] at h₃
    omega
  · -- a reply that goes on is longer
    intro seq account' password' hpre₁ hpre₂ heq
    obtain ⟨head, -, hlen⟩ := Wire.csMsg_normalRegRes seq
    have h₁ := Wire.bytesField_mono 1 hpre₁.length_le
    have h₂ := Wire.bytesField_mono 2 hpre₂.length_le
    have hle₁ := hpre₁.length_le
    have hle₂ := hpre₂.length_le
    have hfields : (Wire.bytesField 1 account ++ Wire.bytesField 2 password).length ≤
        (Wire.bytesField 1 account' ++ Wire.bytesField 2 password').length := by
      simp only [List.length_append]
      omega
    have h₃ := Wire.bytesField_mono 16 hfields
    have hsame := ((hlen account' password').symm.trans (congrArg List.length heq)).trans
      (hlen account password)
    simp only [List.length_append] at h₃
    exact ⟨(hpre₁.eq_of_length (by omega)).symm, (hpre₂.eq_of_length (by omega)).symm⟩

namespace LogicNormalReg

variable {codec : Codec} {d d₁ : LogicData LogicBody} {msg : ProtoCs.Msg} {connData : ConnData}
  {w w₁ : GameWorld} {k : Nat}

/-- What the client has submitted. -/
def submitted (msg : ProtoCs.Msg) : ProtoCs.Credentials := msg.normalRegReq.getD {}

/-- The submitted credentials pass the checks. -/
def Accepted (msg : ProtoCs.Msg) : Prop :=
  Utils.checkAccount (submitted msg).account = 0 ∧
    Utils.checkPassword (submitted msg).password = 0

/-- The data after the first step. -/
def registering (d : LogicData LogicBody) (msg : ProtoCs.Msg) (connData : ConnData) :
    LogicData LogicBody :=
  let body :=
    { d.body with
      account := Utils.strncpy (submitted msg).account 32
      password := Utils.strncpy (submitted msg).password 16 }
  changeStep (rememberClient { d with body := body } msg connData) 1

theorem onStep0_eq (hacc : Accepted msg)
    (hp : w.objMgr.getPlayer connData.playerIdx = some k) :
    onStep0 codec d (.cs msg connData) w = (do
      let account ← accountString (registering d msg connData)
      let w ← Player.doAccountReg codec (requestSeq d) (Utils.fnv64aHash (submitted msg).account)
        (Utils.fnv64aHash (submitted msg).password) account k w
      .ok (logicYield, registering d msg connData, w)) := by
  obtain ⟨-, -, haccount⟩ := Utils.checkAccount_ok hacc.1
  obtain ⟨-, -, hpassword⟩ := Utils.checkPassword_ok hacc.2
  have h₁ : ¬ (msg.normalRegReq.getD {}).account.length > 32 := by
    simpa [submitted] using haccount
  have h₂ : ¬ (msg.normalRegReq.getD {}).password.length > 16 := by
    simpa [submitted] using hpassword
  have h₃ : ¬ Utils.checkAccount (msg.normalRegReq.getD {}).account ≠ 0 :=
    not_not_intro hacc.1
  have h₄ : ¬ Utils.checkPassword (msg.normalRegReq.getD {}).password ≠ 0 :=
    not_not_intro hacc.2
  simp only [onStep0, if_neg h₁, if_neg h₂, if_neg h₃, if_neg h₄, rememberClient, hp]
  rfl

theorem onStep1_eq {answer : ProtoSs.Msg} (hok : answer.head.ret = ProtoSs.retOk)
    (hp : w.objMgr.getPlayer d.body.playerIdx = some k) :
    onStep1 codec d (.ss answer) w = (do
      let account ← accountString d
      let password ← passwordString d
      let w ← Player.sendOkCsNormalRegRes codec d.body.clientSeq account password k w
      .ok (logicFinish, d, w)) := by
  simp only [onStep1, hp, if_pos hok]

/-! ## The strings that are read -/

theorem accountString_iff (hacc : Accepted msg) :
    accountString (registering d msg connData) = .ok (submitted msg).account ↔
      (submitted msg).account.length < 32 := by
  obtain ⟨hend, -, hlen⟩ := Utils.checkAccount_ok hacc.1
  obtain ⟨hpassend, hpasspos, hpasslen⟩ := Utils.checkPassword_ok hacc.2
  have hread : Utils.cString (Utils.strncpy (submitted msg).account 32 ++
      (Utils.strncpy (submitted msg).password 16 ++ d.body.pad)) = .ok (submitted msg).account ↔ _ :=
    Utils.cString_strncpy_iff hend hlen
  rw [← List.append_assoc] at hread
  refine hread.trans ⟨fun h => h.resolve_right fun hzero => ?_, Or.inl⟩
  -- behind the account is the password, which has a character
  rw [Utils.strncpy_eq hpassend hpasslen] at hzero
  generalize (submitted msg).password = password at hpassend hpasspos hzero
  cases password with
  | nil => exact absurd hpasspos (by decide)
  | cons c password =>
    have hc : some c = some 0 := hzero
    exact hpassend c List.mem_cons_self (Option.some_inj.mp hc)

theorem passwordString_iff (hacc : Accepted msg) :
    passwordString (registering d msg connData) = .ok (submitted msg).password ↔
      (submitted msg).password.length < 16 ∨ d.body.pad.head? = some 0 := by
  obtain ⟨hend, -, hlen⟩ := Utils.checkPassword_ok hacc.2
  exact Utils.cString_strncpy_iff hend hlen

/-- What an instance keeps of the credentials that it has accepted. -/
structure Keeps (msg : ProtoCs.Msg) (d : LogicData LogicBody) : Prop where
  accepted : Accepted msg
  account : d.body.account = Utils.strncpy (submitted msg).account 32
  password : d.body.password = Utils.strncpy (submitted msg).password 16

theorem registering_keeps (hacc : Accepted msg) : Keeps msg (registering d msg connData) :=
  ⟨hacc, rfl, rfl⟩

/-- What a client is told: it begins with what the client has submitted, and goes on only
behind an account that fills its array, or a password that does. -/
structure Told (msg : ProtoCs.Msg) (account password : Bytes) : Prop where
  account_starts : (submitted msg).account <+: account
  password_starts : (submitted msg).password <+: password
  account_eq : (submitted msg).account.length < 32 → account = (submitted msg).account
  password_eq : (submitted msg).password.length < 16 → password = (submitted msg).password

/-- **The strings of an instance** are those that its client may be told. -/
theorem Keeps.told {account password : Bytes} (h : Keeps msg d)
    (h₁ : accountString d = .ok account) (h₂ : passwordString d = .ok password) :
    Told msg account password := by
  obtain ⟨hend, -, hlen⟩ := Utils.checkAccount_ok h.accepted.1
  obtain ⟨hpassend, -, hpasslen⟩ := Utils.checkPassword_ok h.accepted.2
  unfold accountString at h₁
  rw [h.account, List.append_assoc] at h₁
  unfold passwordString at h₂
  rw [h.password] at h₂
  refine ⟨Utils.prefix_of_cString_strncpy hend hlen h₁,
    Utils.prefix_of_cString_strncpy hpassend hpasslen h₂, fun hlt => ?_, fun hlt => ?_⟩
  · exact Except.ok.inj (h₁.symm.trans ((Utils.cString_strncpy_iff hend hlen).mpr (Or.inl hlt)))
  · exact Except.ok.inj
      (h₂.symm.trans ((Utils.cString_strncpy_iff hpassend hpasslen).mpr (Or.inl hlt)))

/-! ## What is registered and told -/

/-- **The registration is the submitted one**: `OnStep0` registers the account with the hashes of
the account and of the password, and when datasvr accepts it, whatever has happened to the
objects until then, `OnStep1` tells the client the account and the password. -/
def Registers (codec : Codec) (d : LogicData LogicBody) (msg : ProtoCs.Msg) (connData : ConnData)
    (w : GameWorld) (k : Nat) : Prop :=
  ∃ d₁ w₁, onStep0 codec d (.cs msg connData) w = .ok (logicYield, d₁, w₁) ∧
    Player.doAccountReg codec (requestSeq d) (Utils.fnv64aHash (submitted msg).account)
      (Utils.fnv64aHash (submitted msg).password) (submitted msg).account k w = .ok w₁ ∧
    ∀ (answer : ProtoSs.Msg) (w₂ : GameWorld) (k₂ : Nat), answer.head.ret = ProtoSs.retOk →
      w₂.objMgr.getPlayer connData.playerIdx = some k₂ →
      ∃ w₃, onStep1 codec d₁ (.ss answer) w₂ = .ok (logicFinish, d₁, w₃) ∧
        Player.sendOkCsNormalRegRes codec msg.head.seq (submitted msg).account
          (submitted msg).password k₂ w₂ = .ok w₃

theorem registers_of_fits (hacc : Accepted msg)
    (hp : w.objMgr.getPlayer connData.playerIdx = some k)
    (haccount : (submitted msg).account.length < 32)
    (hpassword : (submitted msg).password.length < 16 ∨ d.body.pad.head? = some 0) :
    Registers codec d msg connData w k := by
  have hk : w.objMgr.Live k := (ObjMgrModule.getPlayer_eq_some.mp hp).2
  have h₁ : accountString (registering d msg connData) = .ok (submitted msg).account :=
    (accountString_iff hacc).mpr haccount
  have h₂ : passwordString (registering d msg connData) = .ok (submitted msg).password :=
    (passwordString_iff hacc).mpr hpassword
  obtain ⟨w₁, hreg⟩ : ∃ w₁, Player.doAccountReg codec (requestSeq d)
      (Utils.fnv64aHash (submitted msg).account) (Utils.fnv64aHash (submitted msg).password)
      (submitted msg).account k w = .ok w₁ := Player.doAccountReg_ok hk
  refine ⟨registering d msg connData, w₁, ?_, hreg, fun answer w₂ k₂ hok hp₂ => ?_⟩
  · rw [onStep0_eq hacc hp, h₁, ok_bind, hreg, ok_bind]
  · obtain ⟨w₃, hsend⟩ : ∃ w₃, Player.sendOkCsNormalRegRes codec msg.head.seq
        (submitted msg).account (submitted msg).password k₂ w₂ = .ok w₃ :=
      Player.sendCs_ok (ObjMgrModule.getPlayer_eq_some.mp hp₂).2
    refine ⟨w₃, ?_, hsend⟩
    rw [onStep1_eq hok hp₂, h₁, ok_bind, h₂, ok_bind]
    exact bind_eq_ok.mpr ⟨w₃, hsend, rfl⟩

theorem fits_of_registers (hacc : Accepted msg)
    (hp : w.objMgr.getPlayer connData.playerIdx = some k)
    (hcodec : codec.TellsReg (submitted msg).account (submitted msg).password)
    (h : Registers codec d msg connData w k) :
    (submitted msg).account.length < 32 ∧
      ((submitted msg).password.length < 16 ∨ d.body.pad.head? = some 0) := by
  obtain ⟨d₁, w₁, h₀, -, hstep⟩ := h
  have hk : w.objMgr.Live k := (ObjMgrModule.getPlayer_eq_some.mp hp).2
  -- datasvr accepts at once, and the reply gets through
  let w₂ : GameWorld := { w with toConnsvr := [], zmq := fun _ => true }
  obtain ⟨w₃, h₁, hright⟩ := hstep { head := { ret := ProtoSs.retOk } } w₂ k rfl hp
  rw [onStep0_eq hacc hp] at h₀
  obtain ⟨account₀, -, h₀⟩ := bind_eq_ok.mp h₀
  obtain ⟨w', -, h₀⟩ := bind_eq_ok.mp h₀
  cases h₀
  rw [onStep1_eq rfl hp] at h₁
  obtain ⟨account, haccount, h₁⟩ := bind_eq_ok.mp h₁
  obtain ⟨password, hpassword, h₁⟩ := bind_eq_ok.mp h₁
  obtain ⟨w₃', hsent, h₁⟩ := bind_eq_ok.mp h₁
  cases h₁
  have hmem := Player.sendCs_sent (w := w₂) hk hright rfl (hcodec.fits _)
  have hbytes : codec.serialize .cs (Player.normalRegRes msg.head.seq account password) =
      codec.serialize .cs (Player.normalRegRes msg.head.seq (submitted msg).account
        (submitted msg).password) := by
    rcases Player.sendCs_out (w := w₂) hk hsent with hout | hout
    · rw [hout] at hmem
      cases hmem
    · rw [hout] at hmem
      exact (congrArg ConnMsg.payload (List.mem_singleton.mp hmem)).symm
  obtain ⟨hpre₁, hpre₂, -, -⟩ := (registering_keeps hacc).told haccount hpassword
  obtain ⟨rfl, rfl⟩ := hcodec.other _ _ _ hpre₁ hpre₂ hbytes
  exact ⟨(accountString_iff hacc).mp haccount, (passwordString_iff hacc).mp hpassword⟩

/-- **Which credentials are registered and told as they were submitted**: the account has
to have less than 32 characters, and the password less than 16 unless the byte behind it
happens to be 0. -/
theorem registers_iff (hacc : Accepted msg)
    (hp : w.objMgr.getPlayer connData.playerIdx = some k)
    (hcodec : codec.TellsReg (submitted msg).account (submitted msg).password) :
    Registers codec d msg connData w k ↔
      (submitted msg).account.length < 32 ∧
        ((submitted msg).password.length < 16 ∨ d.body.pad.head? = some 0) := by
  exact ⟨fits_of_registers hacc hp hcodec,
    fun ⟨haccount, hpassword⟩ => registers_of_fits hacc hp haccount hpassword⟩

/-! ## The uid of an account -/

theorem onStep0_yields (h : onStep0 codec d (.cs msg connData) w = .ok (logicYield, d₁, w₁)) :
    Accepted msg ∧ ∃ k, w.objMgr.getPlayer connData.playerIdx = some k := by
  have hne : logicFailed ≠ logicYield := by decide
  have hfail : ∀ d₂ player, fail codec d₂ player w ≠ .ok (logicYield, d₁, w₁) := by
    intro d₂ player h
    obtain ⟨w', -, h⟩ := bind_eq_ok.mp h
    cases h
  unfold onStep0 at h
  dsimp only at h
  split at h
  · cases h
  split at h
  · cases h
  cases hp : w.objMgr.getPlayer connData.playerIdx with
  | none =>
      simp only [rememberClient, hp] at h
      cases h
  | some player =>
      simp only [rememberClient, hp] at h
      split at h
      · exact absurd h (hfail _ _)
      next haccount =>
      split at h
      · exact absurd h (hfail _ _)
      next hpassword =>
      exact ⟨⟨not_not.mp haccount, not_not.mp hpassword⟩, player, rfl⟩

theorem onStep0_uid {req : ProtoSs.Msg}
    (h : onStep0 codec d (.cs msg connData) w = .ok (logicYield, d₁, w₁))
    (hreq : w₁.toDatasvr = w.toDatasvr ++ [req]) :
    (req.accountRegReq.getD {}).uid = Utils.fnv64aHash (submitted msg).account := by
  obtain ⟨hacc, k, hp⟩ := onStep0_yields h
  rw [onStep0_eq hacc hp] at h
  obtain ⟨account, -, h⟩ := bind_eq_ok.mp h
  obtain ⟨w', hreg, h⟩ := bind_eq_ok.mp h
  cases h
  rcases Player.doAccountReg_out (ObjMgrModule.getPlayer_eq_some.mp hp).2 hreg with hout | hout
  · rw [hout] at hreq
    exact absurd (List.self_eq_append_right.mp hreq) (List.cons_ne_nil _ _)
  · rw [hout] at hreq
    obtain rfl := List.singleton_inj.mp (List.append_cancel_left hreq)
    rfl

/-- **Fnv64aHash** is FNV-1a: buffers of one length that differ in exactly one byte have
different hashes, and accounts that do are registered with different uids. -/
theorem fnv64aHash_separates :
    (∀ buf : Bytes, (Utils.fnv64aHash buf).toNat =
      buf.foldl (fun h b => (h ^^^ b.toNat) * 0x100000001b3 % 2 ^ 64) 0xcbf29ce484222325) ∧
    (∀ xs ys : Bytes, Utils.DifferInOne xs ys → Utils.fnv64aHash xs ≠ Utils.fnv64aHash ys) ∧
    ∀ (codec : Codec) (d₁ d₂ d₁' d₂' : LogicData LogicBody) (msg₁ msg₂ : ProtoCs.Msg)
      (connData₁ connData₂ : ConnData) (w₁ w₂ w₁' w₂' : GameWorld) (req₁ req₂ : ProtoSs.Msg),
      Utils.DifferInOne (submitted msg₁).account (submitted msg₂).account →
      onStep0 codec d₁ (.cs msg₁ connData₁) w₁ = .ok (logicYield, d₁', w₁') →
      onStep0 codec d₂ (.cs msg₂ connData₂) w₂ = .ok (logicYield, d₂', w₂') →
      w₁'.toDatasvr = w₁.toDatasvr ++ [req₁] → w₂'.toDatasvr = w₂.toDatasvr ++ [req₂] →
      (req₁.accountRegReq.getD {}).uid ≠ (req₂.accountRegReq.getD {}).uid := by
  refine ⟨Utils.fnv64aHash_toNat, fun xs ys h => Utils.fnv64aHash_ne h, ?_⟩
  intro codec d₁ d₂ d₁' d₂' msg₁ msg₂ connData₁ connData₂ w₁ w₂ w₁' w₂' req₁ req₂ hdiffer h₁ h₂
    hreq₁ hreq₂
  rw [onStep0_uid h₁ hreq₁, onStep0_uid h₂ hreq₂]
  exact Utils.fnv64aHash_ne hdiffer

/-- `player1` and `player2` get different uids. -/
theorem fnv64aHash_players :
    Utils.fnv64aHash [112, 108, 97, 121, 101, 114, 49] ≠
      Utils.fnv64aHash [112, 108, 97, 121, 101, 114, 50] := by
  refine fnv64aHash_separates.2.1 _ _ ⟨rfl, 6, by decide, fun i hi => ?_⟩
  match i with
  | 0 | 1 | 2 | 3 | 4 | 5 => exact absurd rfl hi
  | 6 => rfl
  | i + 7 => exact absurd rfl hi

/-! ### One registration -/

/-- An instance before its first step, with something in the memory behind its arrays. -/
def freshReg : LogicData LogicBody :=
  ⟨⟨1, MsgModule.logicNormalReg, 0⟩, ⟨0, 0, 0, 0, [], [], [1, 2, 0, 0]⟩⟩

/-- A registration with an account of 31 characters and a password of 15. -/
def fittingReg : ProtoCs.Msg where
  head := { cmd := ProtoCs.normalRegReqFieldNumber, seq := 1 }
  normalRegReq := some ⟨List.replicate 31 97, List.replicate 15 49⟩

theorem registers_fitting :
    Registers (Wire.codec [] [] []) freshReg fittingReg ⟨5, 1, .connStart⟩ onePlayer 1 :=
  (registers_iff ⟨by decide, by decide⟩ (by decide)
    (Wire.codec_tellsReg (by decide) (by decide))).mpr ⟨by decide, Or.inl (by decide)⟩

/-- A registration with an account of 32 characters, and one with a password of 16. -/
def longAccountReg : ProtoCs.Msg where
  head := { cmd := ProtoCs.normalRegReqFieldNumber, seq := 1 }
  normalRegReq := some ⟨List.replicate 32 97, List.replicate 4 49⟩

def longPasswordReg : ProtoCs.Msg where
  head := { cmd := ProtoCs.normalRegReqFieldNumber, seq := 1 }
  normalRegReq := some ⟨List.replicate 6 97, List.replicate 16 49⟩

/-- **The credentials run on**: the long account is registered with the password behind it,
and the long password is told with what is in the memory behind it. -/
theorem registers_long :
    (∃ w₁, onStep0 (Wire.codec [] [] []) freshReg (.cs longAccountReg ⟨5, 1, .connStart⟩)
        onePlayer = .ok (logicYield, registering freshReg longAccountReg ⟨5, 1, .connStart⟩, w₁) ∧
      Player.doAccountReg (Wire.codec [] [] []) (requestSeq freshReg)
        (Utils.fnv64aHash (List.replicate 32 97)) (Utils.fnv64aHash (List.replicate 4 49))
        (List.replicate 32 97 ++ List.replicate 4 49) 1 onePlayer = .ok w₁) ∧
    ¬ Registers (Wire.codec [] [] []) freshReg longAccountReg ⟨5, 1, .connStart⟩ onePlayer 1 ∧
    passwordString (registering freshReg longPasswordReg ⟨5, 1, .connStart⟩) =
      .ok (List.replicate 16 49 ++ [1, 2]) ∧
    ¬ Registers (Wire.codec [] [] []) freshReg longPasswordReg ⟨5, 1, .connStart⟩ onePlayer 1 := by
  refine ⟨?_, fun h => ?_, rfl, fun h => ?_⟩
  · obtain ⟨w₁, hreg⟩ : ∃ w₁, Player.doAccountReg (Wire.codec [] [] []) (requestSeq freshReg)
        (Utils.fnv64aHash (List.replicate 32 97)) (Utils.fnv64aHash (List.replicate 4 49))
        (List.replicate 32 97 ++ List.replicate 4 49) 1 onePlayer = .ok w₁ :=
      Player.doAccountReg_ok (by decide)
    refine ⟨w₁, ?_, hreg⟩
    rw [onStep0_eq ⟨by decide, by decide⟩ (show onePlayer.objMgr.getPlayer 1 = some 1 by decide)]
    exact bind_eq_ok.mpr ⟨_, rfl, bind_eq_ok.mpr ⟨w₁, hreg, rfl⟩⟩
  · have := fits_of_registers ⟨by decide, by decide⟩ (by decide)
      (Wire.codec_tellsReg (by decide) (by decide)) h
    exact absurd this.1 (by decide)
  · have := fits_of_registers ⟨by decide, by decide⟩ (by decide)
      (Wire.codec_tellsReg (by decide) (by decide)) h
    exact absurd this.2 (by decide)

end LogicNormalReg

end PlayFrame
