/-
# `PlayFrame.GameSvr.Wire` — the bytes of the messages that gamesvr builds

The protobuf encoding of the messages of `Proto`: a varint has seven bits in a byte, a
negative number is one of 64 bits, and a message or a string has its length in front.
gamesvr sets three fields of the head of a message to the client, and three of the head
of a request to datasvr.

A `Codec` whose serialisers are these, and whose parsers know some messages only, is what
the fixed inputs of the theorems are run with.
-/
import PlayFrame.GameSvr.Player

namespace PlayFrame

namespace Wire

/-- The varint of a number that has at most `fuel` groups of seven bits. -/
def varint : Nat → Nat → Bytes
  | 0, _ => []
  | fuel + 1, n =>
      if n < 128 then [UInt8.ofNat n] else UInt8.ofNat (n % 128 + 128) :: varint fuel (n / 128)

/-- A field with a varint. -/
def varintField (field n : Nat) : Bytes := varint 10 (8 * field) ++ varint 10 n

/-- A field with an `int32`. -/
def int32Field (field : Nat) (x : Int) : Bytes :=
  varintField field (x % 18446744073709551616).toNat

/-- A field with a string or a message. -/
def bytesField (field : Nat) (bytes : Bytes) : Bytes :=
  varint 10 (8 * field + 2) ++ varint 10 bytes.length ++ bytes

/-- A field that may be absent. -/
def optionField {α : Type} (f : α → Bytes) : Option α → Bytes
  | none => []
  | some a => f a

def credentials (field : Nat) (c : ProtoCs.Credentials) : Bytes :=
  bytesField field (bytesField 1 c.account ++ bytesField 2 c.password)

def csMsg (msg : ProtoCs.Msg) : Bytes :=
  bytesField 1 (int32Field 1 msg.head.cmd ++ int32Field 2 msg.head.ret ++
    varintField 3 msg.head.seq.toNat) ++
  optionField (credentials 11) msg.loginReq ++
  optionField (fun res => bytesField 12 (varintField 1 (if res.numb then 1 else 0)))
    msg.loginRes ++
  optionField (credentials 14) msg.quickRegRes ++
  optionField (credentials 15) msg.normalRegReq ++
  optionField (credentials 16) msg.normalRegRes ++
  optionField (fun ntf => bytesField 6001 (int32Field 1 ntf.money ++ int32Field 2 ntf.level))
    msg.roleInfoNtf

def ssMsg (msg : ProtoSs.Msg) : Bytes :=
  bytesField 1 (int32Field 1 msg.head.cmd ++ varintField 3 msg.head.seq.toNat ++
    int32Field 4 msg.head.playerIdx) ++
  optionField (fun req => bytesField 11 (varintField 1 req.uid.toNat ++
      varintField 2 req.passwordHash.toNat ++ bytesField 3 req.account ++
      bytesField 4 req.playerData))
    msg.accountRegReq ++
  optionField (fun req => bytesField 19 (varintField 1 req.uid.toNat ++
      varintField 2 req.passwordHash.toNat))
    msg.getPlayerDataReq ++
  optionField (fun req => bytesField 21 (varintField 1 req.uid.toNat ++
      bytesField 2 req.playerData))
    msg.setPlayerDataReq

/-- A city without an id is one whose id is not set. -/
def cityInfo (c : Database.CityInfo) : Bytes :=
  bytesField 2 ((if c.id = 0 then [] else int32Field 1 c.id) ++ int32Field 2 c.population)

def playerData (D : Database.PlayerData) : Bytes :=
  bytesField 1 (int32Field 1 D.roleInfo.money ++ int32Field 2 D.roleInfo.level) ++
    D.cityList.flatMap cityInfo

/-- The generated code, as far as some received messages and stored records go. -/
def codec (cs : List (Bytes × ProtoCs.Msg)) (ss : List (Bytes × ProtoSs.Msg))
    (records : List Database.PlayerData) : Codec where
  parseFromArray
    | .cs, bytes => cs.lookup bytes
    | .ss, bytes => ss.lookup bytes
  serialize
    | .cs, msg => csMsg msg
    | .ss, msg => ssMsg msg
  parsePlayerData := fun bytes => (records.find? fun D => playerData D = bytes).getD {}
  serializePlayerData := playerData

/-- A response of datasvr, whose head has `ret` too. -/
def ssRes (msg : ProtoSs.Msg) : Bytes :=
  bytesField 1 (int32Field 1 msg.head.cmd ++ int32Field 2 msg.head.ret ++
    varintField 3 msg.head.seq.toNat ++ int32Field 4 msg.head.playerIdx) ++
  optionField (fun res => bytesField 12 (varintField 1 (if res.numb then 1 else 0)))
    msg.accountRegRes ++
  optionField (fun res => bytesField 20 (bytesField 1 res.playerData)) msg.getPlayerDataRes

/-- The generated code, for a server that receives some requests and sends responses. -/
def resCodec (ss : List (Bytes × ProtoSs.Msg)) : Codec where
  parseFromArray
    | .cs, _ => none
    | .ss, bytes => ss.lookup bytes
  serialize
    | .cs, msg => csMsg msg
    | .ss, msg => ssRes msg
  parsePlayerData := fun _ => {}
  serializePlayerData := playerData

theorem varint_length (fuel n : Nat) : (varint fuel n).length ≤ fuel := by
  induction fuel generalizing n with
  | zero => exact Nat.le_refl 0
  | succ fuel ih =>
      unfold varint
      split
      · exact Nat.succ_le_succ (Nat.zero_le _)
      · exact Nat.succ_le_succ (ih _)

theorem varintField_length (field n : Nat) : (varintField field n).length ≤ 20 := by
  have h₁ := varint_length 10 (8 * field)
  have h₂ := varint_length 10 n
  rw [varintField, List.length_append]
  omega

theorem bytesField_length (field : Nat) (bytes : Bytes) :
    (bytesField field bytes).length ≤ 20 + bytes.length := by
  have h₁ := varint_length 10 (8 * field + 2)
  have h₂ := varint_length 10 bytes.length
  rw [bytesField, List.length_append, List.length_append]
  omega

theorem le_bytesField_length (field : Nat) (bytes : Bytes) :
    bytes.length ≤ (bytesField field bytes).length := by
  rw [bytesField, List.length_append]
  exact Nat.le_add_left ..

theorem varint_mono (fuel : Nat) {n m : Nat} (h : n ≤ m) :
    (varint fuel n).length ≤ (varint fuel m).length := by
  induction fuel generalizing n m with
  | zero => exact Nat.le_refl 0
  | succ fuel ih =>
      have hrest := ih (Nat.div_le_div_right (c := 128) h)
      unfold varint
      split
      · split <;> simp
      · next hn =>
        rw [if_neg (by omega)]
        simpa using hrest

theorem bytesField_mono (field : Nat) {bytes bytes' : Bytes} (h : bytes.length ≤ bytes'.length) :
    (bytesField field bytes).length + bytes'.length ≤
      (bytesField field bytes').length + bytes.length := by
  have hlen := varint_mono 10 h
  simp only [bytesField, List.length_append]
  omega

/-! ### Reading -/

/-- The number that a varint begins with, and what follows it. -/
def readVarint : Nat → Bytes → Nat × Bytes
  | 0, bytes => (0, bytes)
  | _ + 1, [] => (0, [])
  | fuel + 1, b :: bytes =>
      if b.toNat < 128 then (b.toNat, bytes)
      else
        let (n, rest) := readVarint fuel bytes
        (b.toNat - 128 + 128 * n, rest)

/-- The number in a field with a varint, and what follows it. -/
def readField (bytes : Bytes) : Nat × Bytes := readVarint 10 (readVarint 10 bytes).2

/-- The command and the number of a message to a client, whose head comes first. -/
def readHead (bytes : Bytes) : Int × UInt64 :=
  let (cmd, bytes) := readField (readField bytes).2
  let (_, bytes) := readField bytes
  ((cmd : Int), UInt64.ofNat (readField bytes).1)

theorem readVarint_varint (fuel n : Nat) (rest : Bytes) (h : n < 128 ^ fuel) :
    readVarint fuel (varint fuel n ++ rest) = (n, rest) := by
  have hsize : UInt8.size = 256 := rfl
  induction fuel generalizing n with
  | zero =>
      have hn : n = 0 := by simpa using h
      rw [hn]
      rfl
  | succ fuel ih =>
      unfold varint
      split
      · next hlt =>
        have hb : (UInt8.ofNat n).toNat = n := UInt8.toNat_ofNat_of_lt' (by omega)
        simp [readVarint, hb, hlt]
      · next hge =>
        have hb : (UInt8.ofNat (n % 128 + 128)).toNat = n % 128 + 128 :=
          UInt8.toNat_ofNat_of_lt' (by omega)
        have hdiv : n / 128 < 128 ^ fuel := by
          rw [Nat.div_lt_iff_lt_mul (by decide)]
          rwa [Nat.pow_succ] at h
        simp only [List.cons_append, readVarint, hb, ih _ hdiv]
        rw [if_neg (by omega)]
        exact congrArg (·, rest) (by omega)

theorem readField_varintField {field n : Nat} (hfield : field < 16) (hn : n < 2 ^ 64)
    (rest : Bytes) : readField (varintField field n ++ rest) = (n, rest) := by
  have h₁ : 8 * field < 128 ^ 10 := by omega
  have h₂ : n < 128 ^ 10 := by omega
  rw [readField, varintField, List.append_assoc, readVarint_varint _ _ _ h₁,
    readVarint_varint _ _ _ h₂]

theorem readHead_csMsg (msg : ProtoCs.Msg) (h₀ : 0 ≤ msg.head.cmd)
    (h₁ : msg.head.cmd < 2147483648) :
    readHead (csMsg msg) = (msg.head.cmd, msg.head.seq) := by
  have hint : ∀ x : Int, (x % 18446744073709551616).toNat < 2 ^ 64 := by
    intro x
    omega
  have hcmd : (((msg.head.cmd % 18446744073709551616).toNat : Nat) : Int) = msg.head.cmd := by
    omega
  have hlen : (int32Field 1 msg.head.cmd ++ int32Field 2 msg.head.ret ++
      varintField 3 msg.head.seq.toNat).length < 128 ^ 10 := by
    have hc := varintField_length 1 (msg.head.cmd % 18446744073709551616).toNat
    have hr := varintField_length 2 (msg.head.ret % 18446744073709551616).toNat
    have hs := varintField_length 3 msg.head.seq.toNat
    simp only [List.length_append, int32Field]
    omega
  have hskip : ∀ rest, (readField (bytesField 1 (int32Field 1 msg.head.cmd ++
      int32Field 2 msg.head.ret ++ varintField 3 msg.head.seq.toNat) ++ rest)).2 =
      int32Field 1 msg.head.cmd ++ int32Field 2 msg.head.ret ++
        varintField 3 msg.head.seq.toNat ++ rest := by
    intro rest
    rw [readField, bytesField, List.append_assoc, List.append_assoc,
      readVarint_varint _ _ _ (by decide), readVarint_varint _ _ _ hlen]
  unfold readHead csMsg
  simp only [List.append_assoc] at hskip ⊢
  rw [hskip]
  simp only [int32Field, readField_varintField (show 1 < 16 by decide) (hint _),
    readField_varintField (show 2 < 16 by decide) (hint _),
    readField_varintField (show 3 < 16 by decide) msg.head.seq.toNat_lt, hcmd,
    UInt64.ofNat_toNat]

theorem ssMsg_length (seq : UInt64) (playerIdx : Int) (uid : UInt64) (playerData : Bytes) :
    (ssMsg (Player.setPlayerDataReq seq playerIdx uid playerData)).length ≤
      256 + playerData.length := by
  have hcmd := varintField_length 1
  have hseq := varintField_length 3 seq.toNat
  have hidx := varintField_length 4 (playerIdx % 18446744073709551616).toNat
  have huid := varintField_length 1 uid.toNat
  have hdata := bytesField_length 2 playerData
  have hreq := bytesField_length 21 (varintField 1 uid.toNat ++ bytesField 2 playerData)
  have hhead := bytesField_length 1
    (int32Field 1 ProtoSs.setPlayerDataReqFieldNumber ++ varintField 3 seq.toNat ++
      int32Field 4 playerIdx)
  have h21 := hcmd (ProtoSs.setPlayerDataReqFieldNumber % 18446744073709551616).toNat
  simp only [List.length_append, int32Field] at hreq hhead
  simp only [ssMsg, Player.setPlayerDataReq, Player.ssHead, optionField, List.append_nil,
    List.length_append, int32Field]
  omega

end Wire

/-- A server with one player, who has just connected. -/
def onePlayer : GameWorld where
  objMgr :=
    { ObjMgrModule.init 1 1 (fun _ => Player.init) (fun _ => City.init) with
      playerPool :=
        { freeMemPos := 2
          validUnitCount := 0
          totalUnitCount := 1
          pos := fun i => if i = 1 then 1 else -((i : Int) + 1)
          mem := fun _ => { Player.init with connFd := 5 } } }
  toConnsvr := []
  toDatasvr := []
  uids := []
  zmq := fun _ => true
  rdtsc := 0
  rand := fun _ => 0

end PlayFrame
