/-
# `PlayFrame.DataSvr.Truth` — whether the responses tell the truth about the database

Requests are processed one after the other, none of the calls of the library fails, and
what a query answers is the meaning of its statement in the table.  `Claims` is what a
response says about the table before and after; `allTruthful_iff` says when it is so for
all of a list of requests.

`OK` stands for a query that succeeded.  A `SELECT` without a match and an `UPDATE` without
a row succeed as well: the first is told apart only by `GetPlayerDataMysqlRes`, which looks
for a row, and the second by nobody.
-/
import PlayFrame.DataSvr.Answers

namespace PlayFrame

namespace DataSvr

/-! ## One request after the other -/

/-- datasvr between two requests, and the database. -/
structure Serving where
  db : SgData
  clients : Clients
  mgr : MysqlMgr
  toGamesvr : List ProtoSs.Msg

/-- A request, the client it is handed to, and whether its response can be sent. -/
structure Served where
  kind : Request
  msg : ProtoSs.Msg
  mysqlClient : Nat
  zmq : Bool

/-- A request is processed alone: the handler, the query, the round of the thread. -/
def serve (codec : Codec) (r : Served) (s : Serving) : Result Serving := do
  let (_, clients) ← r.kind.onReq codec r.msg r.mysqlClient s.clients
  let (query, db) := mysqlQuery (clients r.mysqlClient).sql s.db
  let (mgr, sock) ← (clients r.mysqlClient).threadLoop (.fine query) s.mgr
    ⟨s.toGamesvr, fun _ => r.zmq⟩
  .ok ⟨db, clients, mgr, sock.toGamesvr⟩

/-! ## What a response claims -/

/-- `RET_.._OK` and `RET_ACCOUNT_REG_DUP` of the response `res` against the table before and
after. -/
def Claims (k : Request) (msg res : ProtoSs.Msg) (db db' : SgData) : Prop :=
  match k with
  | .accountReg =>
      let req := msg.accountRegReq.getD {}
      let row : Row := ⟨req.passwordHash, Request.rowAccount req.account, req.playerData⟩
      (res.head.ret = ProtoSs.retOk ↔
        db.lookup req.uid = none ∧ db'.lookup req.uid = some row) ∧
      (res.head.ret = ProtoSs.retDup ↔ ∃ old, db.lookup req.uid = some old) ∧
      ((∃ old, db.lookup req.uid = some old) → db' = db)
  | .accountVerify =>
      let req := msg.accountVerifyReq.getD {}
      res.head.ret = ProtoSs.retOk ↔ ∃ row, db.verified req.uid req.passwordHash = some row
  | .getPlayerData =>
      let req := msg.getPlayerDataReq.getD {}
      (res.head.ret = ProtoSs.retOk ↔
        ∃ row, db.verified req.uid req.passwordHash = some row) ∧
      ∀ row, db.verified req.uid req.passwordHash = some row →
        res.getPlayerDataRes = some { playerData := row.playerData }
  | .setPlayerData =>
      let req := msg.setPlayerDataReq.getD {}
      res.head.ret = ProtoSs.retOk ↔
        ∃ row, db.lookup req.uid = some row ∧
          db'.lookup req.uid = some { row with playerData := req.playerData }

/-- The request is answered with the truth. -/
def Truthful (codec : Codec) (r : Served) (s : Serving) : Prop :=
  ∃ s' res, serve codec r s = .ok s' ∧ s'.toGamesvr = s.toGamesvr ++ [res] ∧
    Claims r.kind r.msg res s.db s'.db

/-- All requests are answered with the truth. -/
def AllTruthful (codec : Codec) : List Served → Serving → Prop
  | [], _ => True
  | r :: rs, s => Truthful codec r s ∧ ∀ s', serve codec r s = .ok s' → AllTruthful codec rs s'

/-! ## The condition -/

/-- The strings of a request fit in the buffer they are escaped into. -/
def StringsFit (k : Request) (msg : ProtoSs.Msg) : Prop :=
  match k with
  | .accountReg =>
      let req := msg.accountRegReq.getD {}
      (sqlEscaping.escape req.account).length < binDataSize ∧
        (sqlEscaping.escape req.playerData).length < binDataSize
  | .setPlayerData =>
      (sqlEscaping.escape (msg.setPlayerDataReq.getD {}).playerData).length < binDataSize
  | _ => True

/-- The response to a request that finds the table as `db`. -/
def Request.answerTo (k : Request) (msg : ProtoSs.Msg) (db : SgData) : ProtoSs.Msg :=
  match k with
  | .accountReg =>
      accountRegRes (if (db.lookup (msg.accountRegReq.getD {}).uid).isSome then .dup else .ok)
        msg.head.seq msg.head.playerIdx
  | .accountVerify => accountVerifyRes .ok msg.head.seq msg.head.playerIdx
  | .getPlayerData =>
      let req := msg.getPlayerDataReq.getD {}
      let head : ProtoSs.Head :=
        { cmd := ProtoSs.getPlayerDataResFieldNumber, seq := msg.head.seq,
          playerIdx := msg.head.playerIdx }
      match db.verified req.uid req.passwordHash with
      | some row =>
          { head := { head with ret := ProtoSs.retOk }
            getPlayerDataRes := some { playerData := row.playerData } }
      | none => { head := { head with ret := ProtoSs.retFailed }, getPlayerDataRes := some {} }
  | .setPlayerData => setPlayerDataRes .ok msg.head.seq msg.head.playerIdx

/-- When the response to a request is true. -/
structure Answers (codec : Codec) (r : Served) (db : SgData) : Prop where
  strings : StringsFit r.kind r.msg
  fits : (codec.serialize .ss (r.kind.answerTo r.msg db)).length ≤ pkgBufSize
  zmq : r.zmq = true
  verify : r.kind = .accountVerify →
    ∃ row, db.verified (r.msg.accountVerifyReq.getD {}).uid
      (r.msg.accountVerifyReq.getD {}).passwordHash = some row
  set : r.kind = .setPlayerData →
    ∃ row, db.lookup (r.msg.setPlayerDataReq.getD {}).uid = some row

/-- The condition for a list of requests: each finds the table that its predecessors have
left. -/
def AllAnswers (codec : Codec) : List Served → SgData → Prop
  | [], _ => True
  | r :: rs, db => Answers codec r db ∧ AllAnswers codec rs ((r.kind.sql r.msg).run db).2

section
variable {codec : Codec} {k : Request} {msg : ProtoSs.Msg} {mysqlClient : Nat}
  {clients clients' : Clients} {ret : Int} {db : SgData} {r : Served} {rs : List Served}
  {s s' : Serving}

/-! ## The parts of a request -/

theorem convertBinToString_of_lt {bin : Bytes}
    (h : (sqlEscaping.escape bin).length < binDataSize) :
    convertBinToString bin = .ok (sqlEscaping.escape bin) :=
  convertBinToString_ok.mpr ⟨h, rfl⟩

theorem Request.onReq_returns :
    (∃ ret clients', k.onReq codec msg mysqlClient clients = .ok (ret, clients')) ↔
      StringsFit k msg := by
  cases k with
  | accountReg =>
      constructor
      · rintro ⟨ret, clients', h⟩
        obtain ⟨text, htext, -⟩ := bind_eq_ok.mp h
        unfold accountRegText at htext
        split at htext
        · obtain ⟨account, ha, htext⟩ := bind_eq_ok.mp htext
          obtain ⟨playerData, hp, -⟩ := bind_eq_ok.mp htext
          exact ⟨(convertBinToString_ok.mp ha).1, (convertBinToString_ok.mp hp).1⟩
        · next hnil =>
          obtain ⟨playerData, hp, -⟩ := bind_eq_ok.mp htext
          refine ⟨?_, (convertBinToString_ok.mp hp).1⟩
          rw [List.length_eq_zero_iff.mp (not_not.mp hnil)]
          decide
      · rintro ⟨ha, hp⟩
        have htext : ∃ text, accountRegText (msg.accountRegReq.getD {}) = .ok text := by
          unfold accountRegText
          rw [convertBinToString_of_lt ha, convertBinToString_of_lt hp]
          split
          · exact ⟨_, rfl⟩
          · exact ⟨_, rfl⟩
        obtain ⟨text, htext⟩ := htext
        exact ⟨_, _, bind_eq_ok.mpr ⟨text, htext, rfl⟩⟩
  | accountVerify => exact iff_of_true ⟨_, _, rfl⟩ trivial
  | getPlayerData => exact iff_of_true ⟨_, _, rfl⟩ trivial
  | setPlayerData =>
      constructor
      · rintro ⟨ret, clients', h⟩
        obtain ⟨playerData, hp, -⟩ := bind_eq_ok.mp h
        exact (convertBinToString_ok.mp hp).1
      · intro hp
        exact ⟨_, _, bind_eq_ok.mpr ⟨_, convertBinToString_of_lt hp, rfl⟩⟩

/-- **The meaning of the statement and the callback together** make the response
`answerTo`. -/
theorem Request.answer_run (k : Request) (msg : ProtoSs.Msg) (db : SgData) :
    ∃ res flags, (MysqlCalls.fine ((k.sql msg).run db).1).answer = some (res, flags) ∧
      k.response res flags msg.head.seq msg.head.playerIdx = .ok (k.answerTo msg db) := by
  cases k with
  | accountReg =>
      unfold Request.answerTo Request.sql
      cases hrow : db.lookup (msg.accountRegReq.getD {}).uid with
      | none =>
          refine ⟨none, .ok, ?_, rfl⟩
          simp only [run_insert_none hrow]
          rfl
      | some row =>
          refine ⟨none, .dup, ?_, rfl⟩
          simp only [run_insert_some hrow]
          rfl
  | accountVerify => exact ⟨_, .ok, rfl, rfl⟩
  | getPlayerData =>
      refine ⟨_, .ok, rfl, ?_⟩
      cases hrow : db.verified (msg.getPlayerDataReq.getD {}).uid
          (msg.getPlayerDataReq.getD {}).passwordHash with
      | none =>
          simp only [Request.answerTo, hrow]
          rfl
      | some row =>
          simp only [Request.answerTo, hrow]
          rfl
  | setPlayerData =>
      unfold Request.answerTo Request.sql
      cases hrow : db.lookup (msg.setPlayerDataReq.getD {}).uid with
      | none =>
          refine ⟨none, .ok, ?_, rfl⟩
          simp only [run_update_none hrow]
          rfl
      | some row =>
          refine ⟨none, .ok, ?_, rfl⟩
          simp only [run_update_some hrow]
          rfl

/-- **What the response claims is true** unless a row that is not there has been
verified or written. -/
theorem claims_answerTo (k : Request) (msg : ProtoSs.Msg) (db : SgData) :
    Claims k msg (k.answerTo msg db) db ((k.sql msg).run db).2 ↔
      (k = .accountVerify →
        ∃ row, db.verified (msg.accountVerifyReq.getD {}).uid
          (msg.accountVerifyReq.getD {}).passwordHash = some row) ∧
      (k = .setPlayerData → ∃ row, db.lookup (msg.setPlayerDataReq.getD {}).uid = some row) := by
  cases k with
  | accountReg =>
      refine iff_of_true ?_ ⟨(nomatch ·), (nomatch ·)⟩
      unfold Claims Request.answerTo Request.sql
      cases hrow : db.lookup (msg.accountRegReq.getD {}).uid with
      | none =>
          simp only [run_insert_none hrow, Finmap.lookup_insert]
          simp [accountRegRes, hrow, ProtoSs.retOk, ProtoSs.retDup]
      | some row =>
          simp only [run_insert_some hrow]
          simp [accountRegRes, hrow, ProtoSs.retOk, ProtoSs.retDup]
  | accountVerify =>
      unfold Claims Request.answerTo
      simp [accountVerifyRes]
  | getPlayerData =>
      refine iff_of_true ?_ ⟨(nomatch ·), (nomatch ·)⟩
      unfold Claims Request.answerTo
      cases hrow : db.verified (msg.getPlayerDataReq.getD {}).uid
          (msg.getPlayerDataReq.getD {}).passwordHash with
      | none => simp [hrow, ProtoSs.retOk, ProtoSs.retFailed]
      | some row => simp [hrow]
  | setPlayerData =>
      unfold Claims Request.answerTo Request.sql
      cases hrow : db.lookup (msg.setPlayerDataReq.getD {}).uid with
      | none => simp [setPlayerDataRes, hrow]
      | some row =>
          simp only [run_update_some hrow, Finmap.lookup_insert]
          simp [setPlayerDataRes, hrow]

/-! ## A request, and a list of requests -/

theorem serve_eq (h : r.kind.onReq codec r.msg r.mysqlClient s.clients = .ok (ret, clients')) :
    serve codec r s = .ok
      { db := ((r.kind.sql r.msg).run s.db).2
        clients := clients'
        mgr := s.mgr.pushFreeClient (s.clients r.mysqlClient).clientId
        toGamesvr := ((⟨s.toGamesvr, fun _ => r.zmq⟩ : GamesvrSock).sendMsg codec
          (r.kind.answerTo r.msg s.db)).2.toGamesvr } := by
  obtain ⟨text, htext, hclients⟩ := Request.onReq_spec h
  obtain ⟨res, flags, hanswer, hres⟩ := Request.answer_run r.kind r.msg s.db
  have hsql : (clients' r.mysqlClient).sql = text := by
    rw [hclients, process, Function.update_self]
    rfl
  have hquery : mysqlQuery (clients' r.mysqlClient).sql s.db = (r.kind.sql r.msg).run s.db := by
    rw [hsql]
    exact mysqlQuery_of_read htext
  unfold serve
  rw [h, ok_bind]
  simp only [hquery]
  rw [threadLoop_request h (MysqlCalls.fine_connected _), hanswer]
  simp only [Request.mysqlRes, hres, ok_bind]

theorem serve_inv (h : serve codec r s = .ok s') :
    StringsFit r.kind r.msg ∧ s'.db = ((r.kind.sql r.msg).run s.db).2 := by
  obtain ⟨⟨ret, clients'⟩, hreq, -⟩ := bind_eq_ok.mp h
  refine ⟨Request.onReq_returns.mp ⟨ret, clients', hreq⟩, ?_⟩
  rw [serve_eq hreq] at h
  cases h
  rfl

/-- **One response is true** exactly under the condition `Answers`. -/
theorem truthful_iff : Truthful codec r s ↔ Answers codec r s.db := by
  constructor
  · rintro ⟨s', res, h, hsent, hclaims⟩
    obtain ⟨hstrings, hdb⟩ := serve_inv h
    obtain ⟨ret, clients', hreq⟩ := Request.onReq_returns.mpr hstrings
    rw [serve_eq hreq] at h
    cases h
    rw [sendMsg_toGamesvr] at hsent
    split at hsent
    swap
    · exact absurd (congrArg List.length hsent) (by simp)
    next hsend =>
    obtain rfl : r.kind.answerTo r.msg s.db = res := by
      have := List.append_cancel_left hsent
      exact List.head_eq_of_cons_eq this
    obtain ⟨hverify, hset⟩ := (claims_answerTo r.kind r.msg s.db).mp hclaims
    exact ⟨hstrings, hsend.1, hsend.2, hverify, hset⟩
  · intro h
    obtain ⟨ret, clients', hreq⟩ := Request.onReq_returns.mpr h.strings
    refine ⟨_, _, serve_eq hreq, ?_, (claims_answerTo _ _ _).mpr ⟨h.verify, h.set⟩⟩
    rw [sendMsg_toGamesvr, if_pos ⟨h.fits, h.zmq⟩]

/-- **All responses are true** exactly when each request meets the condition in the table
that its predecessors have left. -/
theorem allTruthful_iff : AllTruthful codec rs s ↔ AllAnswers codec rs s.db := by
  induction rs generalizing s with
  | nil => exact Iff.rfl
  | cons r rs ih =>
      show Truthful codec r s ∧ _ ↔ Answers codec r s.db ∧ _
      rw [truthful_iff]
      refine and_congr_right (fun hr => ?_)
      obtain ⟨ret, clients', hreq⟩ := Request.onReq_returns.mpr hr.strings
      constructor
      · intro h
        have := ih.mp (h _ (serve_eq hreq))
        exact this
      · intro h s' hs'
        rw [ih, (serve_inv hs').2]
        exact h

end

/-! ## An account that does not exist -/

/-- A message of gamesvr for the uid 1. -/
def ssMsg (cmd : Int) : ProtoSs.Msg where
  head := { cmd := cmd, seq := 7, playerIdx := 1 }
  accountRegReq := some { uid := 1, passwordHash := 5, playerData := [1] }
  accountVerifyReq := some { uid := 1, passwordHash := 5 }
  getPlayerDataReq := some { uid := 1, passwordHash := 5 }
  setPlayerDataReq := some { uid := 1, playerData := [2] }

/-- A request of a kind. -/
def served (k : Request) : Served := ⟨k, ssMsg k.cmd, 0, true⟩

/-- An empty table and one free client. -/
def emptyTable : Serving := ⟨∅, newClients, ⟨[], [0]⟩, []⟩

/-- An account that does not exist is verified and saved, and both are `OK`. -/
theorem untruthful_absent :
    ¬ AllTruthful (Wire.resCodec []) [served .accountVerify] emptyTable ∧
    ¬ AllTruthful (Wire.resCodec []) [served .setPlayerData] emptyTable := by
  constructor
  · intro h
    obtain ⟨row, hrow⟩ := (truthful_iff.mp h.1).verify rfl
    cases hrow
  · intro h
    obtain ⟨row, hrow⟩ := (truthful_iff.mp h.1).set rfl
    cases hrow

end DataSvr

end PlayFrame
