/-
# `PlayFrame.DataSvr.MsgModule` — the requests of gamesvr and their responses

`datasvr/msg_module/msg_module.{h,cpp}`.  A handler writes the SQL of its request and gives
it to the client of the database that it was handed, together with a callback and the two
fields of the head that the callback needs; the callback builds the response from how the
query came out.  A text has no byte 0 in it and `snprintf` has room for two numbers, so the
C strings on the way cut nothing off.

What a round of the client's thread answers to a request is settled by `answersOnce_iff`.
-/
import PlayFrame.DataSvr.SgData
import PlayFrame.Frame.MsgModuleBase
import PlayFrame.GameSvr.Proto

namespace PlayFrame

namespace DataSvr

/-! ## Sending -/

/-- `gamesvr_zmq_sock_`: what has been sent; `zmq k` says whether the `k`-th of the
`zmq_send` calls to come succeeds. -/
structure GamesvrSock where
  toGamesvr : List ProtoSs.Msg
  zmq : Nat → Bool

/-- `MsgModule::SendMsg`, of `SendToGamesvr`. -/
def GamesvrSock.sendMsg (codec : Codec) (msg : ProtoSs.Msg) (sock : GamesvrSock) :
    Int × GamesvrSock :=
  match serializeToArray (codec.serialize .ss msg) pkgBufSize with
  | none => (-1, sock)
  | some _ =>
      let next := { sock with zmq := fun k => sock.zmq (k + 1) }
      if sock.zmq 0 then (0, { next with toGamesvr := sock.toGamesvr ++ [msg] }) else (-2, next)

/-! ## The responses -/

/-- The response of `AccountRegMysqlRes`. -/
def accountRegRes (flags : MysqlResFlags) (seqId : UInt64) (playerIdx : Int) : ProtoSs.Msg where
  head :=
    { cmd := ProtoSs.accountRegResFieldNumber
      seq := seqId
      playerIdx := playerIdx
      ret :=
        match flags with
        | .ok => ProtoSs.retOk
        | .dup => ProtoSs.retDup
        | .failed => ProtoSs.retFailed }
  accountRegRes := some { numb := true }

/-- The response of `AccountVerifyMysqlRes`, which sets `seq` twice, the second time to the
player's number. -/
def accountVerifyRes (flags : MysqlResFlags) (_seqId : UInt64) (playerIdx : Int) :
    ProtoSs.Msg where
  head :=
    { cmd := ProtoSs.accountVerifyResFieldNumber
      seq := UInt64.ofInt playerIdx
      ret := if flags = .ok then ProtoSs.retOk else ProtoSs.retFailed }
  accountVerifyRes := some { numb := true }

/-- The response of `GetPlayerDataMysqlRes`.  `mysql_fetch_row` goes through its pointer
without a test. -/
def getPlayerDataRes (res : Option MysqlRes) (flags : MysqlResFlags) (seqId : UInt64)
    (playerIdx : Int) : Result ProtoSs.Msg :=
  let head : ProtoSs.Head :=
    { cmd := ProtoSs.getPlayerDataResFieldNumber, seq := seqId, playerIdx := playerIdx }
  if flags = .ok then
    match res with
    | none => .error .badPointer
    | some res =>
        match res.row with
        | none => .ok
            { head := { head with ret := ProtoSs.retFailed }, getPlayerDataRes := some {} }
        | some cell =>
            if res.lengths = false then .ok
              { head := { head with ret := ProtoSs.retFailed }, getPlayerDataRes := some {} }
            else .ok
              { head := { head with ret := ProtoSs.retOk }
                getPlayerDataRes := some { playerData := cell.getD [] } }
  else .ok { head := { head with ret := ProtoSs.retFailed } }

/-- The response of `SetPlayerDataMysqlRes`. -/
def setPlayerDataRes (flags : MysqlResFlags) (seqId : UInt64) (playerIdx : Int) :
    ProtoSs.Msg where
  head :=
    { cmd := ProtoSs.setPlayerDataResFieldNumber
      seq := seqId
      playerIdx := playerIdx
      ret := if flags = .ok then ProtoSs.retOk else ProtoSs.retFailed }

section
variable (codec : Codec)

/-- `MsgModule::AccountRegMysqlRes`. -/
def accountRegMysqlRes : MysqlResCallback GamesvrSock :=
  fun _ flags seqId playerIdx sock =>
    .ok (sock.sendMsg codec (accountRegRes flags seqId playerIdx)).2

/-- `MsgModule::AccountVerifyMysqlRes`. -/
def accountVerifyMysqlRes : MysqlResCallback GamesvrSock :=
  fun _ flags seqId playerIdx sock =>
    .ok (sock.sendMsg codec (accountVerifyRes flags seqId playerIdx)).2

/-- `MsgModule::GetPlayerDataMysqlRes`. -/
def getPlayerDataMysqlRes : MysqlResCallback GamesvrSock :=
  fun res flags seqId playerIdx sock => do
    let msg ← getPlayerDataRes res flags seqId playerIdx
    .ok (sock.sendMsg codec msg).2

/-- `MsgModule::SetPlayerDataMysqlRes`. -/
def setPlayerDataMysqlRes : MysqlResCallback GamesvrSock :=
  fun _ flags seqId playerIdx sock =>
    .ok (sock.sendMsg codec (setPlayerDataRes flags seqId playerIdx)).2

/-! ## The handlers -/

/-- The clients, by their ids. -/
abbrev Clients : Type := Nat → MysqlClient GamesvrSock

/-- `mysql_client->Process(..)`. -/
def process (clients : Clients) (mysqlClient : Nat) (sql : Bytes)
    (callback : MysqlResCallback GamesvrSock) (seq : UInt64) (playerIdx : Int) : Clients :=
  Function.update clients mysqlClient
    ((clients mysqlClient).process sql callback seq playerIdx)

/-- The text of `OnAccountRegReq`. -/
def accountRegText (req : ProtoSs.AccountRegReq) : Result Bytes :=
  if req.account.length ≠ 0 then do
    let account ← convertBinToString req.account
    let playerData ← convertBinToString req.playerData
    .ok (insertAccountText req.uid req.passwordHash account playerData)
  else do
    let playerData ← convertBinToString req.playerData
    .ok (insertText req.uid req.passwordHash playerData)

/-- `MsgModule::OnAccountRegReq`. -/
def onAccountRegReq (msg : ProtoSs.Msg) (mysqlClient : Nat) (clients : Clients) :
    Result (Int × Clients) := do
  let sql ← accountRegText (msg.accountRegReq.getD {})
  .ok (0, process clients mysqlClient sql (accountRegMysqlRes codec) msg.head.seq
    msg.head.playerIdx)

/-- `MsgModule::OnAccountVerifyReq`. -/
def onAccountVerifyReq (msg : ProtoSs.Msg) (mysqlClient : Nat) (clients : Clients) :
    Result (Int × Clients) :=
  let req := msg.accountVerifyReq.getD {}
  .ok (0, process clients mysqlClient (selectUidText req.uid req.passwordHash)
    (accountVerifyMysqlRes codec) msg.head.seq msg.head.playerIdx)

/-- `MsgModule::OnGetPlayerDataReq`. -/
def onGetPlayerDataReq (msg : ProtoSs.Msg) (mysqlClient : Nat) (clients : Clients) :
    Result (Int × Clients) :=
  let req := msg.getPlayerDataReq.getD {}
  .ok (0, process clients mysqlClient (selectPlayerDataText req.uid req.passwordHash)
    (getPlayerDataMysqlRes codec) msg.head.seq msg.head.playerIdx)

/-- `MsgModule::OnSetPlayerDataReq`. -/
def onSetPlayerDataReq (msg : ProtoSs.Msg) (mysqlClient : Nat) (clients : Clients) :
    Result (Int × Clients) := do
  let req := msg.setPlayerDataReq.getD {}
  let playerData ← convertBinToString req.playerData
  .ok (0, process clients mysqlClient (updateText req.uid playerData)
    (setPlayerDataMysqlRes codec) msg.head.seq msg.head.playerIdx)

/-- The `REGISTER_MSG` lines of `MsgModule::ModuleInit`, in order. -/
def registrations : List (Int × MsgWrapper Pkg Nat Clients) :=
  [(ProtoSs.accountRegReqFieldNumber, ⟨.ss, onAccountRegReq codec⟩),
   (ProtoSs.accountVerifyReqFieldNumber, ⟨.ss, onAccountVerifyReq codec⟩),
   (ProtoSs.getPlayerDataReqFieldNumber, ⟨.ss, onGetPlayerDataReq codec⟩),
   (ProtoSs.setPlayerDataReqFieldNumber, ⟨.ss, onSetPlayerDataReq codec⟩)]

/-- `MsgModule::ModuleInit`: the table it leaves. -/
def moduleInit : MsgWrapperMap Pkg Nat Clients :=
  (registrations codec).foldl (fun table r => MsgModuleBase.register table r.1 r.2) ∅

/-- `HandleRequest<ProtoSs::Msg>`. -/
def handleRequest (pkg : Bytes) (mysqlClient : Nat) (clients : Clients) :
    Result (Int × Clients) :=
  MsgModuleBase.handleRequest headCmd codec.parseFromArray (moduleInit codec) .ss pkg mysqlClient
    clients

end

/-! ## The kinds of requests -/

/-- The requests that datasvr has a handler for. -/
inductive Request where
  | accountReg
  | accountVerify
  | getPlayerData
  | setPlayerData
  deriving DecidableEq, Repr

namespace Request

/-- The command of a request. -/
def cmd : Request → Int
  | accountReg => ProtoSs.accountRegReqFieldNumber
  | accountVerify => ProtoSs.accountVerifyReqFieldNumber
  | getPlayerData => ProtoSs.getPlayerDataReqFieldNumber
  | setPlayerData => ProtoSs.setPlayerDataReqFieldNumber

/-- The command of its response. -/
def resCmd : Request → Int
  | accountReg => ProtoSs.accountRegResFieldNumber
  | accountVerify => ProtoSs.accountVerifyResFieldNumber
  | getPlayerData => ProtoSs.getPlayerDataResFieldNumber
  | setPlayerData => ProtoSs.setPlayerDataResFieldNumber

/-- Its handler. -/
def onReq (codec : Codec) :
    Request → ProtoSs.Msg → Nat → Clients → Result (Int × Clients)
  | accountReg => onAccountRegReq codec
  | accountVerify => onAccountVerifyReq codec
  | getPlayerData => onGetPlayerDataReq codec
  | setPlayerData => onSetPlayerDataReq codec

/-- The response to it. -/
def response (k : Request) (res : Option MysqlRes) (flags : MysqlResFlags) (seqId : UInt64)
    (playerIdx : Int) : Result ProtoSs.Msg :=
  match k with
  | accountReg => .ok (accountRegRes flags seqId playerIdx)
  | accountVerify => .ok (accountVerifyRes flags seqId playerIdx)
  | getPlayerData => getPlayerDataRes res flags seqId playerIdx
  | setPlayerData => .ok (setPlayerDataRes flags seqId playerIdx)

/-- Its callback: the response is sent. -/
def mysqlRes (codec : Codec) (k : Request) : MysqlResCallback GamesvrSock :=
  fun res flags seqId playerIdx sock => do
    let msg ← k.response res flags seqId playerIdx
    .ok (sock.sendMsg codec msg).2

/-- The account of the row of a new account: none when the request has no name. -/
def rowAccount (account : Bytes) : Option Bytes :=
  if account.length ≠ 0 then some account else none

/-- What its statement says. -/
def sql (msg : ProtoSs.Msg) : Request → Sql
  | accountReg =>
      let req := msg.accountRegReq.getD {}
      .insert req.uid req.passwordHash (rowAccount req.account) req.playerData
  | accountVerify =>
      let req := msg.accountVerifyReq.getD {}
      .selectUid req.uid req.passwordHash
  | getPlayerData =>
      let req := msg.getPlayerDataReq.getD {}
      .selectPlayerData req.uid req.passwordHash
  | setPlayerData =>
      let req := msg.setPlayerDataReq.getD {}
      .update req.uid req.playerData

end Request

section
variable {codec : Codec} {k : Request} {msg : ProtoSs.Msg} {mysqlClient : Nat}
  {clients clients' : Clients} {ret : Int}

theorem readSql_accountRegText {req : ProtoSs.AccountRegReq} {text : Bytes}
    (h : accountRegText req = .ok text) :
    readSql text =
      some (.insert req.uid req.passwordHash (Request.rowAccount req.account) req.playerData) := by
  unfold accountRegText at h
  unfold Request.rowAccount
  split at h
  · next haccount =>
    obtain ⟨account, ha, h⟩ := bind_eq_ok.mp h
    obtain ⟨playerData, hp, h⟩ := bind_eq_ok.mp h
    cases h
    rw [(convertBinToString_ok.mp ha).2, (convertBinToString_ok.mp hp).2, if_pos haccount]
    exact readSql_insertAccountText
  · next haccount =>
    obtain ⟨playerData, hp, h⟩ := bind_eq_ok.mp h
    cases h
    rw [(convertBinToString_ok.mp hp).2, if_neg haccount]
    exact readSql_insertText

theorem Request.onReq_spec (h : k.onReq codec msg mysqlClient clients = .ok (ret, clients')) :
    ∃ text, readSql text = some (k.sql msg) ∧
      clients' = process clients mysqlClient text (k.mysqlRes codec) msg.head.seq
        msg.head.playerIdx := by
  cases k with
  | accountReg =>
      obtain ⟨text, htext, h⟩ := bind_eq_ok.mp h
      cases h
      exact ⟨text, readSql_accountRegText htext, rfl⟩
  | accountVerify =>
      cases h
      exact ⟨_, readSql_selectUidText, rfl⟩
  | getPlayerData =>
      cases h
      exact ⟨_, readSql_selectPlayerDataText, rfl⟩
  | setPlayerData =>
      obtain ⟨playerData, hp, h⟩ := bind_eq_ok.mp h
      cases h
      refine ⟨_, ?_, rfl⟩
      rw [(convertBinToString_ok.mp hp).2]
      exact readSql_updateText

theorem moduleInit_lookup (codec : Codec) (cmd : Int) :
    (moduleInit codec).lookup cmd =
      if cmd = ProtoSs.setPlayerDataReqFieldNumber then some ⟨.ss, onSetPlayerDataReq codec⟩
      else if cmd = ProtoSs.getPlayerDataReqFieldNumber then some ⟨.ss, onGetPlayerDataReq codec⟩
      else if cmd = ProtoSs.accountVerifyReqFieldNumber then some ⟨.ss, onAccountVerifyReq codec⟩
      else if cmd = ProtoSs.accountRegReqFieldNumber then some ⟨.ss, onAccountRegReq codec⟩
      else none := by
  unfold moduleInit registrations
  simp only [List.foldl_cons, List.foldl_nil, MsgModuleBase.register_lookup, Finmap.lookup_empty]

theorem lookup_cmd (k : Request) :
    (moduleInit codec).lookup k.cmd = some ⟨.ss, k.onReq codec⟩ := by
  cases k with
  | accountReg => exact moduleInit_lookup codec _
  | accountVerify => exact moduleInit_lookup codec _
  | getPlayerData => exact moduleInit_lookup codec _
  | setPlayerData => exact moduleInit_lookup codec _

theorem lookup_other {cmd : Int} (h : ¬ ∃ k : Request, cmd = k.cmd) :
    (moduleInit codec).lookup cmd = none := by
  rw [moduleInit_lookup]
  split_ifs with hset hget hverify hreg
  · exact absurd ⟨.setPlayerData, hset⟩ h
  · exact absurd ⟨.getPlayerData, hget⟩ h
  · exact absurd ⟨.accountVerify, hverify⟩ h
  · exact absurd ⟨.accountReg, hreg⟩ h
  · rfl

end

end DataSvr

end PlayFrame
