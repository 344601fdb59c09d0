/-
# `PlayFrame.Frame.MysqlMgr` — the clients of the database

`common/frame/mysql_mgr.{h,cpp}`.  A `MysqlClient` is one connection to the database with
a thread of its own: `Process` leaves a statement in the client and writes a byte to its
pipe, and the thread, which waits for the byte, executes the statement, gives the result to
the callback and itself back to the `MysqlMgr`.

A client is named by its `client_id_`.  What the MySQL library answers during one round of
`ThreadLoop` is an argument, `MysqlCalls`.
-/
import PlayFrame.Frame.CommDef

namespace PlayFrame

variable {ω : Type}

/-! ## The library -/

/-- A `MYSQL_RES` as far as the callbacks look at it: the first column of the row that
`mysql_fetch_row` gives, if it gives one, and whether `mysql_fetch_lengths` gives lengths. -/
structure MysqlRes where
  row : Option (Option Bytes)
  lengths : Bool
  deriving DecidableEq, Repr

/-- How `mysql_real_query` and, after a success, `mysql_store_result` and
`mysql_field_count` come out. -/
inductive QueryResult where
  /-- the query fails -/
  | error (errno : Int)
  /-- there is a result -/
  | stored (res : MysqlRes)
  /-- there is none; the statement has so many columns -/
  | noResult (fieldCount : Nat)
  deriving DecidableEq, Repr

/-- `ER_DUP_KEYNAME`. -/
def erDupKeyname : Int := 1061
/-- `ER_DUP_ENTRY`. -/
def erDupEntry : Int := 1062

/-- Which of the calls of `Connect` succeed. -/
structure ConnectCalls where
  init : Bool
  optReconnect : Bool
  optConnectTimeout : Bool
  setCharsetName : Bool
  realConnect : Bool
  deriving DecidableEq, Repr

/-- What the library answers during one round of `ThreadLoop`: `ping` and `retry` say
whether `mysql_ping` and the second `mysql_real_query` succeed. -/
structure MysqlCalls where
  ping : Bool
  pingConnect : ConnectCalls
  query : QueryResult
  connect : ConnectCalls
  retry : Bool
  deriving DecidableEq, Repr

namespace MysqlClient

/-- `MysqlClient::Connect`. -/
def connect (calls : ConnectCalls) : Int :=
  if calls.init = false then -1
  else if calls.optReconnect = false then -2
  else if calls.optConnectTimeout = false then -3
  else if calls.setCharsetName = false then -4
  else if calls.realConnect = false then -5
  else 0

/-- `MysqlClient::Ping`. -/
def ping (ping : Bool) (calls : ConnectCalls) : Int :=
  if ping = false then connect calls else 0

end MysqlClient

/-! ## The clients -/

/-- `enum MYSQL_RES_FLAGS`. -/
inductive MysqlResFlags where
  | ok
  | failed
  | dup
  deriving DecidableEq, Repr

/-- `MysqlResCallback`. -/
abbrev MysqlResCallback (ω : Type) : Type :=
  Option MysqlRes → MysqlResFlags → UInt64 → Int → ω → Result ω

/-- `class MysqlClient`; `pipe` counts the bytes in its pipe. -/
structure MysqlClient (ω : Type) where
  clientId : Nat
  sql : Bytes
  callback : Option (MysqlResCallback ω)
  seqId : UInt64
  playerIdx : Int
  pipe : Nat

/-- `class MysqlMgr`: its two lists. -/
structure MysqlMgr where
  freeClientList : List Nat
  totalClientList : List Nat
  deriving DecidableEq, Repr

namespace MysqlMgr

/-- `E_MAX_MYSQL_CLIENT_COUNT`. -/
def maxMysqlClientCount : Int := 8

/-- `MysqlMgr::PushFreeClient`. -/
def pushFreeClient (mgr : MysqlMgr) (client : Nat) : MysqlMgr :=
  { mgr with freeClientList := mgr.freeClientList ++ [client] }

/-- `MysqlMgr::PopFreeClient`. -/
def popFreeClient (mgr : MysqlMgr) : Option Nat × MysqlMgr :=
  match mgr.freeClientList with
  | [] => (none, mgr)
  | client :: rest => (some client, { mgr with freeClientList := rest })

/-- One round of the loop of `MysqlMgr::Init`: `MysqlClient::Init` and the two lists. -/
def addClient (mgr : MysqlMgr) (client : Nat) (calls : ConnectCalls) (pipe : Bool) :
    Result MysqlMgr :=
  if MysqlClient.connect calls ≠ 0 then .error .checkFailed
  else if pipe = false then .error .checkFailed
  else .ok ({ mgr with totalClientList := mgr.totalClientList ++ [client] }.pushFreeClient client)

/-- The number of clients that `MysqlMgr::Init` makes. -/
def clientCount (maxClientCount : Int) : Int :=
  let count := if maxClientCount > maxMysqlClientCount then maxMysqlClientCount else maxClientCount
  if count ≤ 0 then 1 else count

/-- `MysqlMgr::Init`, where `calls` and `pipe` say how the clients' connections and pipes
come out. -/
def init (maxClientCount : Int) (calls : Nat → ConnectCalls) (pipe : Nat → Bool) :
    Result MysqlMgr :=
  (List.range (clientCount maxClientCount).toNat).foldlM
    (fun mgr i => mgr.addClient i (calls i) (pipe i)) ⟨[], []⟩

end MysqlMgr

namespace MysqlClient

/-- `MysqlClient::MysqlClient`, with the id that `Init` gives. -/
def new (clientId : Nat) : MysqlClient ω := ⟨clientId, [], none, 0, 0, 0⟩

/-- `MysqlClient::Process`. -/
def process (c : MysqlClient ω) (sql : Bytes) (callback : MysqlResCallback ω) (seqId : UInt64)
    (playerIdx : Int) : MysqlClient ω :=
  { c with
    sql := sql
    callback := some callback
    seqId := seqId
    playerIdx := playerIdx
    pipe := c.pipe + 1 }

/-- `(*callback_)(res, flags, seq_id_, player_idx_)`. -/
def call (c : MysqlClient ω) (res : Option MysqlRes) (flags : MysqlResFlags) (w : ω) : Result ω :=
  match c.callback with
  | none => .error .badPointer
  | some callback => callback res flags c.seqId c.playerIdx w

/-- `MysqlClient::ThreadLoop`: the query.  After an error the connection is made anew and
the query sent again, but whether it succeeds then is only logged. -/
def onQuery (c : MysqlClient ω) (query : QueryResult) (w : ω) : Result ω :=
  match query with
  | .error errno =>
      if errno = erDupEntry ∨ errno = erDupKeyname then c.call none .dup w else .ok w
  | .stored res => if c.callback.isSome then c.call (some res) .ok w else .ok w
  | .noResult fieldCount => if fieldCount = 0 then c.call none .ok w else c.call none .failed w

/-- `MysqlClient::ThreadLoop`, from the byte that it has read on; `res_` is null when it
begins. -/
def threadLoop (c : MysqlClient ω) (calls : MysqlCalls) (mgr : MysqlMgr) (w : ω) :
    Result (MysqlMgr × ω) :=
  if ping calls.ping calls.pingConnect ≠ 0 then .ok (mgr, w)
  else do
    let w ← c.onQuery calls.query w
    .ok (mgr.pushFreeClient c.clientId, w)

end MysqlClient

/-! ## How a round comes out -/

namespace MysqlCalls

/-- The connection is there when the statement is sent. -/
def Connected (calls : MysqlCalls) : Prop :=
  MysqlClient.ping calls.ping calls.pingConnect = 0

/-- The statement has been executed with success, at the first or the second try. -/
def Executed (calls : MysqlCalls) : Prop :=
  calls.Connected ∧
    match calls.query with
    | .error errno => ¬ (errno = erDupEntry ∨ errno = erDupKeyname) ∧ calls.retry = true
    | .stored _ => True
    | .noResult _ => True

/-- What the callback is given; `none` when it is not called. -/
def answer (calls : MysqlCalls) : Option (Option MysqlRes × MysqlResFlags) :=
  match calls.query with
  | .error errno => if errno = erDupEntry ∨ errno = erDupKeyname then some (none, .dup) else none
  | .stored res => some (some res, .ok)
  | .noResult fieldCount => some (none, if fieldCount = 0 then .ok else .failed)

instance (calls : MysqlCalls) : Decidable calls.Connected := by
  unfold Connected
  infer_instance

section
variable {calls : MysqlCalls} {res : Option MysqlRes} {flags : MysqlResFlags}

theorem answer_eq_none :
    calls.answer = none ↔
      ∃ errno, calls.query = .error errno ∧ ¬ (errno = erDupEntry ∨ errno = erDupKeyname) := by
  unfold answer
  cases calls.query with
  | error errno => simp
  | stored res => simp
  | noResult fieldCount => simp

theorem executed_of_answer (hconn : calls.Connected) (h : calls.answer = some (res, .ok)) :
    calls.Executed := by
  refine ⟨hconn, ?_⟩
  unfold answer at h
  cases hq : calls.query with
  | error errno =>
      simp only [hq] at h
      split_ifs at h
      cases h
  | stored r => trivial
  | noResult n => trivial

theorem answer_ok_none : calls.answer = some (none, .ok) ↔ calls.query = .noResult 0 := by
  unfold answer
  cases calls.query with
  | error errno => simp
  | stored res => simp
  | noResult fieldCount => cases fieldCount <;> simp

end

/-- All goes well, and the first query comes out as `query`. -/
def fine (query : QueryResult) : MysqlCalls :=
  ⟨true, ⟨true, true, true, true, true⟩, query, ⟨true, true, true, true, true⟩, true⟩

theorem fine_connected (query : QueryResult) : (fine query).Connected := rfl

end MysqlCalls

namespace MysqlClient

variable {c : MysqlClient ω} {calls : MysqlCalls} {mgr mgr' : MysqlMgr} {w w' : ω}
  {callback : MysqlResCallback ω}

theorem threadLoop_lost (h : ¬ calls.Connected) :
    c.threadLoop calls mgr w = .ok (mgr, w) :=
  if_pos h

/-- **A round** with a connection calls the callback at most once, and gives the client
back. -/
theorem threadLoop_connected (h : calls.Connected) (hcallback : c.callback = some callback) :
    c.threadLoop calls mgr w = (do
      let w ← match calls.answer with
        | none => .ok w
        | some (res, flags) => callback res flags c.seqId c.playerIdx w
      .ok (mgr.pushFreeClient c.clientId, w)) := by
  have hping : ¬ ping calls.ping calls.pingConnect ≠ 0 := not_not.mpr h
  have hquery : c.onQuery calls.query w = match calls.answer with
      | none => .ok w
      | some (res, flags) => callback res flags c.seqId c.playerIdx w := by
    unfold onQuery MysqlCalls.answer
    cases calls.query with
    | error errno =>
        by_cases hdup : errno = erDupEntry ∨ errno = erDupKeyname
        · simp only [if_pos hdup, call, hcallback]
        · simp only [if_neg hdup]
    | stored res => simp only [hcallback, Option.isSome_some, if_true, call]
    | noResult fieldCount =>
        by_cases hzero : fieldCount = 0
        · simp only [if_pos hzero, call, hcallback]
        · simp only [if_neg hzero, call, hcallback]
  unfold threadLoop
  rw [if_neg hping, hquery]
  cases calls.answer with
  | none => rfl
  | some p => rfl

theorem threadLoop_mgr (h : c.threadLoop calls mgr w = .ok (mgr', w')) :
    mgr' = if calls.Connected then mgr.pushFreeClient c.clientId else mgr := by
  by_cases hconn : calls.Connected
  · have hping : ¬ ping calls.ping calls.pingConnect ≠ 0 := not_not.mpr hconn
    unfold threadLoop at h
    rw [if_neg hping] at h
    obtain ⟨w₁, -, h⟩ := bind_eq_ok.mp h
    cases h
    rw [if_pos hconn]
  · rw [threadLoop_lost hconn] at h
    cases h
    rw [if_neg hconn]

end MysqlClient

namespace MysqlMgr

variable {mgr mgr' : MysqlMgr} {client : Nat}

theorem popFreeClient_eq_some (h : mgr.popFreeClient = (some client, mgr')) :
    mgr.freeClientList = client :: mgr'.freeClientList ∧
      mgr'.totalClientList = mgr.totalClientList := by
  unfold popFreeClient at h
  split at h
  · cases h
  · next rest hfree =>
    cases h
    exact ⟨hfree, rfl⟩

theorem addClients {calls : Nat → ConnectCalls} {pipe : Nat → Bool} {ids : List Nat}
    (h : ids.foldlM (fun mgr i => mgr.addClient i (calls i) (pipe i)) mgr = .ok mgr') :
    mgr' = ⟨mgr.freeClientList ++ ids, mgr.totalClientList ++ ids⟩ := by
  induction ids generalizing mgr with
  | nil =>
      cases h
      rw [List.append_nil, List.append_nil]
  | cons i ids ih =>
      rw [List.foldlM_cons] at h
      obtain ⟨mgr₁, hadd, h⟩ := bind_eq_ok.mp h
      unfold addClient at hadd
      split_ifs at hadd
      cases hadd
      rw [ih h]
      simp [pushFreeClient]

/-- **After `Init`** every client is free, and each is there once. -/
theorem init_spec {maxClientCount : Int} {calls : Nat → ConnectCalls} {pipe : Nat → Bool}
    (h : init maxClientCount calls pipe = .ok mgr) :
    mgr.freeClientList = mgr.totalClientList ∧ mgr.totalClientList.Nodup := by
  rw [addClients h]
  exact ⟨rfl, List.nodup_range⟩

end MysqlMgr

end PlayFrame
