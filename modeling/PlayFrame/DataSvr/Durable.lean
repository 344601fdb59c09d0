/-
# `PlayFrame.DataSvr.Durable` — what the table keeps, whatever fails

`Flaky` is what a round of `ThreadLoop` may do to the table when any call of the library may
fail: the connection is lost, the result cannot be stored, or the query fails, before or
after the statement was executed, and is sent again.

A row does not go away, and the password and the name in it do not change (`Extends`); and
all that is in the table was there at the start or is in a statement for its uid (`From`).
What a good response says about the table (`Vouches`) is true from then on.
-/
import PlayFrame.DataSvr.Truth

namespace PlayFrame

namespace DataSvr

/-! ## Rounds in which something fails -/

/-- What a round for a text may leave of the table `db`, by how its calls come out. -/
inductive Flaky (text : Bytes) (db : SgData) (calls : MysqlCalls) : SgData → Prop
  /-- there is no connection, and the statement is not sent -/
  | lost : ¬ calls.Connected → Flaky text db calls db
  /-- the statement is executed and answered -/
  | answered : calls.Connected → calls.query = (mysqlQuery text db).1 →
      Flaky text db calls (mysqlQuery text db).2
  /-- it is executed, and `mysql_store_result` fails -/
  | notStored (n : Nat) : calls.Connected → calls.query = .noResult (n + 1) →
      Flaky text db calls (mysqlQuery text db).2
  /-- the query fails, and is sent again; in the end it has been executed so often -/
  | failed (errno : Int) (times : Nat) : calls.Connected → calls.query = .error errno →
      ¬ (errno = erDupEntry ∨ errno = erDupKeyname) → times ≤ 2 →
      (calls.retry = true → 1 ≤ times) →
      Flaky text db calls ((fun db => (mysqlQuery text db).2)^[times] db)

theorem Flaky.fine (text : Bytes) (db : SgData) :
    Flaky text db (.fine (mysqlQuery text db).1) (mysqlQuery text db).2 :=
  .answered (MysqlCalls.fine_connected _) rfl

section
variable {text : Bytes} {db db' : SgData} {calls : MysqlCalls}

theorem Flaky.keeps {P : SgData → Prop} (h : Flaky text db calls db') (hdb : P db)
    (hstep : ∀ db, P db → P (mysqlQuery text db).2) : P db' := by
  cases h with
  | lost => exact hdb
  | answered => exact hstep db hdb
  | notStored n => exact hstep db hdb
  | failed errno times =>
      clear * - hdb hstep
      induction times generalizing db with
      | zero => exact hdb
      | succ times ih =>
          rw [Function.iterate_succ_apply]
          exact ih (hstep db hdb)

end

/-! ## The accounts stay -/

/-- The rows of a table are in the other one, with the same password and name. -/
def SgData.Extends (db db' : SgData) : Prop :=
  ∀ uid row, db.lookup uid = some row → ∃ row', db'.lookup uid = some row' ∧
    row'.passwordHash = row.passwordHash ∧ row'.account = row.account

namespace SgData.Extends

variable {db db' db'' : SgData}

theorem refl (db : SgData) : db.Extends db :=
  fun _ row h => ⟨row, h, rfl, rfl⟩

theorem trans (h : db.Extends db') (h' : db'.Extends db'') : db.Extends db'' := by
  intro uid row hrow
  obtain ⟨row₁, hrow₁, hhash₁, haccount₁⟩ := h uid row hrow
  obtain ⟨row₂, hrow₂, hhash₂, haccount₂⟩ := h' uid row₁ hrow₁
  exact ⟨row₂, hrow₂, hhash₂.trans hhash₁, haccount₂.trans haccount₁⟩

end SgData.Extends

theorem Sql.run_extends (sql : Sql) (db : SgData) : db.Extends (sql.run db).2 := by
  intro uid row hrow
  by_cases huid : uid = sql.uid
  swap
  · exact ⟨row, (Sql.run_others huid).trans hrow, rfl, rfl⟩
  cases sql with
  | insert uid' passwordHash account playerData =>
      obtain rfl : uid = uid' := huid
      rw [run_insert_some hrow]
      exact ⟨row, hrow, rfl, rfl⟩
  | selectUid uid' passwordHash => exact ⟨row, hrow, rfl, rfl⟩
  | selectPlayerData uid' passwordHash => exact ⟨row, hrow, rfl, rfl⟩
  | update uid' playerData =>
      obtain rfl : uid = uid' := huid
      rw [run_update_some hrow]
      exact ⟨_, Finmap.lookup_insert _, rfl, rfl⟩

theorem mysqlQuery_extends (text : Bytes) (db : SgData) : db.Extends (mysqlQuery text db).2 := by
  unfold mysqlQuery
  cases readSql text with
  | none => exact .refl db
  | some sql => exact sql.run_extends db

theorem Flaky.extends {text : Bytes} {db db' : SgData} {calls : MysqlCalls}
    (h : Flaky text db calls db') : db.Extends db' :=
  h.keeps (.refl db) (fun db₁ h₁ => h₁.trans (mysqlQuery_extends text db₁))

/-! ## Where the rows come from -/

/-- `asked` are the statements that there have been.  The data was in the row of the uid at
the start; or in a statement that registers the uid, if it had no row; or in one that saves
it. -/
def Stored (asked : Sql → Prop) (db₀ : SgData) (uid : UInt64) (playerData : Bytes) : Prop :=
  (∃ old, db₀.lookup uid = some old ∧ old.playerData = playerData) ∨
    (db₀.lookup uid = none ∧
      ∃ passwordHash account, asked (.insert uid passwordHash account playerData)) ∨
    asked (.update uid playerData)

/-- A row with this password and this name was there at the start, or is in a statement that
registers a uid that had no row. -/
def Registered (asked : Sql → Prop) (db₀ : SgData) (uid passwordHash : UInt64)
    (account : Option Bytes) : Prop :=
  (∃ old, db₀.lookup uid = some old ∧ old.passwordHash = passwordHash ∧ old.account = account) ∨
    db₀.lookup uid = none ∧ ∃ playerData, asked (.insert uid passwordHash account playerData)

/-- All that is in the table comes from the start or from a statement for its uid, and the
accounts of the start are in it. -/
structure SgData.From (asked : Sql → Prop) (db₀ db : SgData) : Prop where
  kept : db₀.Extends db
  rows : ∀ uid row, db.lookup uid = some row →
    Registered asked db₀ uid row.passwordHash row.account ∧ Stored asked db₀ uid row.playerData

section
variable {asked asked' : Sql → Prop} {db₀ db db' : SgData} {uid passwordHash : UInt64}
  {account : Option Bytes} {playerData : Bytes} {sql : Sql} {text : Bytes} {calls : MysqlCalls}

theorem Stored.mono (h : Stored asked db₀ uid playerData) (hasked : ∀ sql, asked sql → asked' sql) :
    Stored asked' db₀ uid playerData := by
  rcases h with h | ⟨hnone, passwordHash, account, h⟩ | h
  · exact Or.inl h
  · exact Or.inr (Or.inl ⟨hnone, passwordHash, account, hasked _ h⟩)
  · exact Or.inr (Or.inr (hasked _ h))

theorem Registered.mono (h : Registered asked db₀ uid passwordHash account)
    (hasked : ∀ sql, asked sql → asked' sql) : Registered asked' db₀ uid passwordHash account :=
  h.imp_right (fun ⟨hnone, playerData, h⟩ => ⟨hnone, playerData, hasked _ h⟩)

namespace SgData.From

theorem start (asked : Sql → Prop) (db₀ : SgData) : SgData.From asked db₀ db₀ :=
  ⟨.refl _, fun _ row hrow => ⟨Or.inl ⟨row, hrow, rfl, rfl⟩, Or.inl ⟨row, hrow, rfl⟩⟩⟩

theorem mono (h : SgData.From asked db₀ db) (hasked : ∀ sql, asked sql → asked' sql) :
    SgData.From asked' db₀ db :=
  ⟨h.kept, fun uid row hrow =>
    ⟨(h.rows uid row hrow).1.mono hasked, (h.rows uid row hrow).2.mono hasked⟩⟩

theorem none_of_none (h : SgData.From asked db₀ db) (hnone : db.lookup uid = none) :
    db₀.lookup uid = none := by
  cases hold : db₀.lookup uid with
  | none => rfl
  | some row =>
      obtain ⟨row', hrow', -⟩ := h.kept uid row hold
      rw [hnone] at hrow'
      cases hrow'

theorem run (h : SgData.From asked db₀ db) (hsql : asked sql) :
    SgData.From asked db₀ (sql.run db).2 := by
  refine ⟨h.kept.trans (Sql.run_extends sql db), fun uid row hrow => ?_⟩
  by_cases huid : uid = sql.uid
  swap
  · rw [Sql.run_others huid] at hrow
    exact h.rows uid row hrow
  cases sql with
  | insert uid' passwordHash account playerData =>
      obtain rfl : uid = uid' := huid
      cases hold : db.lookup uid with
      | some old =>
          rw [run_insert_some hold] at hrow
          exact h.rows uid row hrow
      | none =>
          rw [run_insert_none hold, Finmap.lookup_insert, Option.some.injEq] at hrow
          subst hrow
          exact ⟨Or.inr ⟨h.none_of_none hold, _, hsql⟩,
            Or.inr (Or.inl ⟨h.none_of_none hold, _, _, hsql⟩)⟩
  | selectUid uid' passwordHash => exact h.rows uid row hrow
  | selectPlayerData uid' passwordHash => exact h.rows uid row hrow
  | update uid' playerData =>
      obtain rfl : uid = uid' := huid
      cases hold : db.lookup uid with
      | none =>
          rw [run_update_none hold] at hrow
          exact h.rows uid row hrow
      | some old =>
          rw [run_update_some hold, Finmap.lookup_insert, Option.some.injEq] at hrow
          subst hrow
          exact ⟨(h.rows uid old hold).1, Or.inr (Or.inr hsql)⟩

theorem flaky (h : SgData.From asked db₀ db) (hsql : readSql text = some sql) (hasked : asked sql)
    (hflaky : Flaky text db calls db') : SgData.From asked db₀ db' := by
  refine hflaky.keeps h (fun db h => ?_)
  rw [mysqlQuery_of_read hsql]
  exact h.run hasked

end SgData.From

/-! ## Good responses -/

/-- What a good response to a request says about the table: the account is in it, with the
password of the request, and the data comes from a request for the account. -/
def Request.Vouches (asked : Sql → Prop) (db₀ : SgData) (k : Request) (msg res : ProtoSs.Msg)
    (db : SgData) : Prop :=
  res.head.ret = ProtoSs.retOk →
    match k with
    | .accountReg =>
        let req := msg.accountRegReq.getD {}
        ∃ row, db.lookup req.uid = some row ∧ row.passwordHash = req.passwordHash ∧
          row.account = Request.rowAccount req.account
    | .getPlayerData =>
        let req := msg.getPlayerDataReq.getD {}
        (∃ row, db.lookup req.uid = some row ∧ row.passwordHash = req.passwordHash) ∧
          Stored asked db₀ req.uid (res.getPlayerDataRes.getD {}).playerData
    | _ => True

variable {k : Request} {msg res : ProtoSs.Msg}

theorem Request.Vouches.mono (h : k.Vouches asked db₀ msg res db) (hext : db.Extends db')
    (hasked : ∀ sql, asked sql → asked' sql) : k.Vouches asked' db₀ msg res db' := by
  intro hok
  have h := h hok
  cases k with
  | accountReg =>
      obtain ⟨row, hrow, hhash, haccount⟩ := h
      obtain ⟨row', hrow', hhash', haccount'⟩ := hext _ row hrow
      exact ⟨row', hrow', hhash'.trans hhash, haccount'.trans haccount⟩
  | accountVerify => trivial
  | getPlayerData =>
      obtain ⟨⟨row, hrow, hhash⟩, hstored⟩ := h
      obtain ⟨row', hrow', hhash', -⟩ := hext _ row hrow
      exact ⟨⟨row', hrow', hhash'.trans hhash⟩, hstored.mono hasked⟩
  | setPlayerData => trivial

theorem SgData.verified_eq_some {row : Row} :
    db.verified uid passwordHash = some row ↔
      db.lookup uid = some row ∧ row.passwordHash = passwordHash := by
  unfold SgData.verified
  rw [Option.filter_eq_some_iff, beq_iff_eq]

/-- **The true response** vouches for what the statement leaves. -/
theorem Request.vouches_answerTo (hfrom : SgData.From asked db₀ db) :
    k.Vouches asked db₀ msg (k.answerTo msg db) ((k.sql msg).run db).2 := by
  intro hok
  cases k with
  | accountReg =>
      obtain ⟨hret, -, -⟩ : Claims .accountReg msg (Request.accountReg.answerTo msg db) db
          ((Request.accountReg.sql msg).run db).2 :=
        (claims_answerTo .accountReg msg db).mpr ⟨(nomatch ·), (nomatch ·)⟩
      exact ⟨_, (hret.mp hok).2, rfl, rfl⟩
  | accountVerify => trivial
  | getPlayerData =>
      obtain ⟨hret, hdata⟩ : Claims .getPlayerData msg (Request.getPlayerData.answerTo msg db) db
          ((Request.getPlayerData.sql msg).run db).2 :=
        (claims_answerTo .getPlayerData msg db).mpr ⟨(nomatch ·), (nomatch ·)⟩
      obtain ⟨row, hverified⟩ := hret.mp hok
      obtain ⟨hrow, hhash⟩ := SgData.verified_eq_some.mp hverified
      refine ⟨⟨row, hrow, hhash⟩, ?_⟩
      rw [hdata row hverified]
      exact (hfrom.rows _ row hrow).2
  | setPlayerData => trivial

/-- **A round that answers vouches** for the table that it leaves, whatever fails in it. -/
theorem Flaky.vouches (hflaky : Flaky text db calls db') (hfrom : SgData.From asked db₀ db)
    (hsql : readSql text = some (k.sql msg)) (hconn : calls.Connected)
    {result : Option MysqlRes} {flags : MysqlResFlags}
    (hanswer : calls.answer = some (result, flags))
    (hres : k.response result flags msg.head.seq msg.head.playerIdx = .ok res) :
    k.Vouches asked db₀ msg res db' := by
  cases hflaky with
  | lost hlost => exact absurd hconn hlost
  | answered _ hquery =>
      rw [mysqlQuery_of_read hsql] at hquery ⊢
      obtain ⟨result', flags', hanswer', hres'⟩ := Request.answer_run k msg db
      have hsame : calls.answer = (MysqlCalls.fine ((k.sql msg).run db).1).answer := by
        unfold MysqlCalls.answer
        rw [hquery]
        rfl
      rw [← hsame, hanswer, Option.some.injEq, Prod.mk.injEq] at hanswer'
      rw [← hanswer'.1, ← hanswer'.2, hres, Except.ok.injEq] at hres'
      rw [hres']
      exact Request.vouches_answerTo hfrom
  | notStored n _ hquery =>
      -- the callback is told that the query failed
      intro hok
      have hflags := (Request.response_head hres).2.1 hok
      unfold MysqlCalls.answer at hanswer
      rw [hquery] at hanswer
      cases hanswer
      cases hflags
  | failed errno times _ hquery hdup =>
      rw [MysqlCalls.answer_eq_none.mpr ⟨errno, hquery, hdup⟩] at hanswer
      cases hanswer

end

end DataSvr

end PlayFrame
