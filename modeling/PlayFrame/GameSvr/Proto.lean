/-
# `PlayFrame.GameSvr.Proto` — the messages of the two protocols

`common/protocol/proto/{cs_proto,ss_proto,database}`.  The client and connsvr speak
`ProtoCs`, gamesvr and datasvr `ProtoSs`; a player is stored as a `Database::PlayerData`.

Every field is optional with default 0, and `mutable_x` makes a sub-message present.
Only what the servers read or write is kept.  The parsers and serialisers are generated
code: `Codec` stands for them.
-/
import PlayFrame.Frame.CommDef

namespace PlayFrame

/-! ## `database.proto` -/

namespace Database

structure RoleInfo where
  money : Int := 0
  level : Int := 0
  deriving DecidableEq, Repr

structure CityInfo where
  id : Int := 0
  population : Int := 0
  deriving DecidableEq, Repr

structure PlayerData where
  roleInfo : RoleInfo := {}
  cityList : List CityInfo := []
  deriving DecidableEq, Repr

end Database

/-! ## `cs_msg.proto` -/

namespace ProtoCs

structure Head where
  cmd : Int := 0
  ret : Int := 0
  seq : UInt64 := 0
  deriving DecidableEq, Repr

/-- An account and a password: `LoginReq`, `NormalRegReq`, `NormalRegRes`, `QuickRegRes`. -/
structure Credentials where
  account : Bytes := []
  password : Bytes := []
  deriving DecidableEq, Repr

structure LoginRes where
  numb : Bool := false
  deriving DecidableEq, Repr

structure RoleInfoNtf where
  money : Int := 0
  level : Int := 0
  deriving DecidableEq, Repr

/-- `ProtoCs::Msg`. -/
structure Msg where
  head : Head := {}
  loginReq : Option Credentials := none
  loginRes : Option LoginRes := none
  quickRegRes : Option Credentials := none
  normalRegReq : Option Credentials := none
  normalRegRes : Option Credentials := none
  roleInfoNtf : Option RoleInfoNtf := none
  deriving DecidableEq, Repr

def loginReqFieldNumber : Int := 11
def loginResFieldNumber : Int := 12
def quickRegReqFieldNumber : Int := 13
def quickRegResFieldNumber : Int := 14
def normalRegReqFieldNumber : Int := 15
def normalRegResFieldNumber : Int := 16
def roleInfoNtfFieldNumber : Int := 6001
def serverKickOffNtfFieldNumber : Int := 6003

end ProtoCs

/-! ## `ss_msg.proto` -/

namespace ProtoSs

structure Head where
  cmd : Int := 0
  ret : Int := 0
  seq : UInt64 := 0
  playerIdx : Int := 0
  deriving DecidableEq, Repr

structure AccountRegReq where
  uid : UInt64 := 0
  passwordHash : UInt64 := 0
  account : Bytes := []
  playerData : Bytes := []
  deriving DecidableEq, Repr

structure AccountRegRes where
  numb : Bool := false
  deriving DecidableEq, Repr

structure AccountVerifyReq where
  uid : UInt64 := 0
  passwordHash : UInt64 := 0
  deriving DecidableEq, Repr

structure AccountVerifyRes where
  numb : Bool := false
  deriving DecidableEq, Repr

structure GetPlayerDataReq where
  uid : UInt64 := 0
  passwordHash : UInt64 := 0
  deriving DecidableEq, Repr

structure GetPlayerDataRes where
  playerData : Bytes := []
  deriving DecidableEq, Repr

structure SetPlayerDataReq where
  uid : UInt64 := 0
  playerData : Bytes := []
  deriving DecidableEq, Repr

/-- `ProtoSs::Msg`. -/
structure Msg where
  head : Head := {}
  accountRegReq : Option AccountRegReq := none
  accountRegRes : Option AccountRegRes := none
  accountVerifyReq : Option AccountVerifyReq := none
  accountVerifyRes : Option AccountVerifyRes := none
  getPlayerDataReq : Option GetPlayerDataReq := none
  getPlayerDataRes : Option GetPlayerDataRes := none
  setPlayerDataReq : Option SetPlayerDataReq := none
  deriving DecidableEq, Repr

def accountRegReqFieldNumber : Int := 11
def accountRegResFieldNumber : Int := 12
def accountVerifyReqFieldNumber : Int := 17
def accountVerifyResFieldNumber : Int := 18
def getPlayerDataReqFieldNumber : Int := 19
def getPlayerDataResFieldNumber : Int := 20
def setPlayerDataReqFieldNumber : Int := 21
def setPlayerDataResFieldNumber : Int := 22

/-- `RET_ACCOUNT_REG_OK`, `RET_ACCOUNT_VERIFY_OK`, `RET_GET_PLAYER_DATA_OK` and
`RET_SET_PLAYER_DATA_OK`. -/
def retOk : Int := 0
/-- `RET_ACCOUNT_REG_FAILED`, `RET_ACCOUNT_VERIFY_FAILED`, `RET_GET_PLAYER_DATA_FAILED` and
`RET_SET_PLAYER_DATA_FAILED`. -/
def retFailed : Int := -1
/-- `RET_ACCOUNT_REG_DUP`. -/
def retDup : Int := -2

end ProtoSs

/-! ## The two package classes -/

/-- The package classes gamesvr registers handlers for. -/
inductive PkgClass where
  | cs
  | ss
  deriving DecidableEq, Repr

/-- The other package class. -/
def PkgClass.other : PkgClass → PkgClass
  | .cs => .ss
  | .ss => .cs

/-- The messages of a package class. -/
abbrev Pkg : PkgClass → Type
  | .cs => ProtoCs.Msg
  | .ss => ProtoSs.Msg

/-- `msg.head().cmd()`. -/
def headCmd : (c : PkgClass) → Pkg c → Int
  | .cs, msg => msg.head.cmd
  | .ss, msg => msg.head.cmd

/-- The code generated from the protocol files. -/
structure Codec where
  parseFromArray : (c : PkgClass) → Bytes → Option (Pkg c)
  serialize : (c : PkgClass) → Pkg c → Bytes
  /-- what a `PlayerData` holds after `ParseFromArray`, whose answer is not looked at -/
  parsePlayerData : Bytes → Database.PlayerData
  serializePlayerData : Database.PlayerData → Bytes

/-- `SerializeToArray`, which fails when the array is too small. -/
def serializeToArray (bytes : Bytes) (size : Nat) : Option Bytes :=
  if bytes.length ≤ size then some bytes else none

/-- The generated code on messages whose head holds a command below 128 and that hold
nothing else: field 1, of length 2, whose field 1 is a varint. -/
def headCodec : Codec where
  parseFromArray
    | .cs, [10, 2, 8, cmd] => some { head := { cmd := cmd.toNat } }
    | .ss, [10, 2, 8, cmd] => some { head := { cmd := cmd.toNat } }
    | _, _ => none
  serialize
    | .cs, msg => [10, 2, 8, UInt8.ofInt msg.head.cmd]
    | .ss, msg => [10, 2, 8, UInt8.ofInt msg.head.cmd]
  parsePlayerData := fun _ => {}
  serializePlayerData := fun _ => []

/-! ## Ids of logics as sequence numbers -/

/-- `head->set_seq(seq)`, of an `int64_t`. -/
def seqOfLogicId (logicId : Int) : UInt64 := UInt64.ofInt logicId

/-- `int64_t logic_id = msg->head().seq()`. -/
def logicIdOfSeq (seq : UInt64) : Int := seq.toBitVec.toInt

theorem logicIdOfSeq_seqOfLogicId {logicId : Int} (h₁ : 0 ≤ logicId)
    (h₂ : logicId < 9223372036854775808) : logicIdOfSeq (seqOfLogicId logicId) = logicId := by
  obtain ⟨n, rfl⟩ := Int.eq_ofNat_of_zero_le h₁
  have hn : n < 9223372036854775808 := by exact_mod_cast h₂
  unfold logicIdOfSeq seqOfLogicId
  rw [UInt64.ofInt]
  simp only [BitVec.toInt_eq_toNat_bmod, UInt64.toNat_toBitVec, UInt64.toNat_ofNat']
  rw [Int.bmod_def]
  omega

theorem seqOfLogicId_logicIdOfSeq (seq : UInt64) : seqOfLogicId (logicIdOfSeq seq) = seq := by
  have h := seq.toNat_lt
  apply UInt64.toNat_inj.mp
  unfold seqOfLogicId logicIdOfSeq UInt64.ofInt
  rw [BitVec.toInt_eq_toNat_bmod, UInt64.toNat_toBitVec, UInt64.toNat_ofNat', Int.bmod_def]
  omega

theorem seqOfLogicId_inj {id id' : Int} (h : 0 < id ∧ id < 9223372036854775808)
    (h' : 0 < id' ∧ id' < 9223372036854775808) (hseq : seqOfLogicId id = seqOfLogicId id') :
    id = id' := by
  rw [← logicIdOfSeq_seqOfLogicId (Int.le_of_lt h.1) h.2, hseq,
    logicIdOfSeq_seqOfLogicId (Int.le_of_lt h'.1) h'.2]

end PlayFrame
