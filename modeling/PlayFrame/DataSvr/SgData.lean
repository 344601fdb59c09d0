/-
# `PlayFrame.DataSvr.SgData` — the SQL that datasvr writes, and what it means

`datasvr/mysql_module/mysql_module.cpp`, the texts of `datasvr/msg_module/msg_module.cpp`,
and `common/protocol/sql/create_sg_data_table.sql`.  datasvr puts its statements together
as texts.  `Sql` is what such a text says: `readSql` reads it, and reads every text that
datasvr writes (`readSql_insertAccount` and the four after it), whatever bytes are in the
strings.

The table `sg_data` is a finite map from the uid, its primary key; its time columns and
`delete_flag` are never read.  `Sql.run` is the meaning of a statement, `mysqlQuery` that of
a text.
-/
import PlayFrame.Frame.MysqlMgr
import PlayFrame.Frame.Utils
import PlayFrame.Lib.Scan
import Mathlib.Data.Finmap

namespace PlayFrame

open Lib (ascii)

namespace DataSvr

/-! ## Strings in a statement -/

/-- How `mysql_real_escape_string` writes a string, and how MySQL reads it. -/
def sqlEscaping : Lib.Escaping UInt8 where
  mark := 92
  quote := 34
  letter b :=
    if b = 0 then some 48
    else if b = 10 then some 110
    else if b = 13 then some 114
    else if b = 26 then some 90
    else if b = 34 ∨ b = 39 ∨ b = 92 then some b
    else none
  value c :=
    if c = 48 then 0
    else if c = 110 then 10
    else if c = 114 then 13
    else if c = 90 then 26
    else c
  mark_ne_quote := by decide
  letter_mark := by decide
  letter_quote := by decide
  value_letter a c h := by
    split_ifs at h with h0 h10 h13 h26 hself
    · cases h
      exact h0.symm
    · cases h
      exact h10.symm
    · cases h
      exact h13.symm
    · cases h
      exact h26.symm
    · cases h
      rcases hself with rfl | rfl | rfl
      · rfl
      · rfl
      · rfl

/-- The size of the static buffer of `ConvertBinToString`. -/
def binDataSize : Nat := 10240

/-- `MysqlModule::ConvertBinToString`.  The escaped string is written with a 0 behind it,
whatever its size, and read back as a C string. -/
def convertBinToString (bin : Bytes) : Result Bytes :=
  let escaped := sqlEscaping.escape bin
  if escaped.length < binDataSize then Utils.cString (escaped ++ [0])
  else .error .outOfBounds

/-! ## The texts -/

/-- The text of `OnAccountRegReq` for an account with a name. -/
def insertAccountText (uid passwordHash : UInt64) (account playerData : Bytes) : Bytes :=
  ascii "INSERT INTO sg_data (uid, password_hash, account, reg_time, player_data) VALUES(" ++
    Utils.toString uid ++ ascii "," ++ Utils.toString passwordHash ++ ascii ", \"" ++ account ++
    ascii "\"" ++ ascii ",NOW(), \"" ++ playerData ++ ascii "\"" ++ ascii ")"

/-- The text of `OnAccountRegReq` for an account without a name. -/
def insertText (uid passwordHash : UInt64) (playerData : Bytes) : Bytes :=
  ascii "INSERT INTO sg_data (uid, password_hash, reg_time, player_data) VALUES(" ++
    Utils.toString uid ++ ascii "," ++ Utils.toString passwordHash ++ ascii ", NOW(), \"" ++
    playerData ++ ascii "\"" ++ ascii ")"

/-- The text of `OnAccountVerifyReq`. -/
def selectUidText (uid passwordHash : UInt64) : Bytes :=
  ascii "SELECT uid FROM sg_data WHERE uid = " ++ Utils.toString uid ++
    ascii " and password_hash = " ++ Utils.toString passwordHash

/-- The text of `OnGetPlayerDataReq`. -/
def selectPlayerDataText (uid passwordHash : UInt64) : Bytes :=
  ascii "SELECT player_data FROM sg_data WHERE uid = " ++ Utils.toString uid ++
    ascii " AND password_hash = " ++ Utils.toString passwordHash

/-- The text of `OnSetPlayerDataReq`. -/
def updateText (uid : UInt64) (playerData : Bytes) : Bytes :=
  ascii "UPDATE sg_data SET player_data=\"" ++ playerData ++ ascii "\"" ++
    ascii "WHERE uid = " ++ Utils.toString uid

/-! ## Reading them -/

/-- What a statement says. -/
inductive Sql where
  | insert (uid passwordHash : UInt64) (account : Option Bytes) (playerData : Bytes)
  | selectUid (uid passwordHash : UInt64)
  | selectPlayerData (uid passwordHash : UInt64)
  | update (uid : UInt64) (playerData : Bytes)
  deriving DecidableEq, Repr

/-- An unsigned number at the front of a text. -/
def readNumber (text : Bytes) : UInt64 × Bytes :=
  ((UInt64.ofNat (Lib.scanNat text).1), (Lib.scanNat text).2)

/-- `VALUES`, with a name. -/
def readInsertAccount (text : Bytes) : Option Sql := do
  let text ← (ascii
    "INSERT INTO sg_data (uid, password_hash, account, reg_time, player_data) VALUES(").isPrefixOf?
      text
  let (uid, text) := readNumber text
  let text ← (ascii ",").isPrefixOf? text
  let (passwordHash, text) := readNumber text
  let text ← (ascii ", \"").isPrefixOf? text
  let (account, text) ← sqlEscaping.scan false text
  let text ← (ascii ",NOW(), \"").isPrefixOf? text
  let (playerData, text) ← sqlEscaping.scan false text
  if text = ascii ")" then some (.insert uid passwordHash (some account) playerData) else none

/-- `VALUES`, without a name. -/
def readInsert (text : Bytes) : Option Sql := do
  let text ← (ascii
    "INSERT INTO sg_data (uid, password_hash, reg_time, player_data) VALUES(").isPrefixOf? text
  let (uid, text) := readNumber text
  let text ← (ascii ",").isPrefixOf? text
  let (passwordHash, text) := readNumber text
  let text ← (ascii ", NOW(), \"").isPrefixOf? text
  let (playerData, text) ← sqlEscaping.scan false text
  if text = ascii ")" then some (.insert uid passwordHash none playerData) else none

/-- `SELECT uid`. -/
def readSelectUid (text : Bytes) : Option Sql := do
  let text ← (ascii "SELECT uid FROM sg_data WHERE uid = ").isPrefixOf? text
  let (uid, text) := readNumber text
  let text ← (ascii " and password_hash = ").isPrefixOf? text
  let (passwordHash, text) := readNumber text
  if text = [] then some (.selectUid uid passwordHash) else none

/-- `SELECT player_data`. -/
def readSelectPlayerData (text : Bytes) : Option Sql := do
  let text ← (ascii "SELECT player_data FROM sg_data WHERE uid = ").isPrefixOf? text
  let (uid, text) := readNumber text
  let text ← (ascii " AND password_hash = ").isPrefixOf? text
  let (passwordHash, text) := readNumber text
  if text = [] then some (.selectPlayerData uid passwordHash) else none

/-- `UPDATE`. -/
def readUpdate (text : Bytes) : Option Sql := do
  let text ← (ascii "UPDATE sg_data SET player_data=\"").isPrefixOf? text
  let (playerData, text) ← sqlEscaping.scan false text
  let text ← (ascii "WHERE uid = ").isPrefixOf? text
  let (uid, text) := readNumber text
  if text = [] then some (.update uid playerData) else none

/-- What a text says, if it is one of the statements. -/
def readSql (text : Bytes) : Option Sql :=
  readInsertAccount text <|> readInsert text <|> readSelectUid text <|>
    readSelectPlayerData text <|> readUpdate text

section
variable {bin sql rest : Bytes} {uid passwordHash : UInt64} {account playerData : Bytes}

theorem readNumber_toString (h : ∀ b ∈ rest.head?, Lib.isDigit b = false) :
    readNumber (Utils.toString uid ++ rest) = (uid, rest) := by
  have hscan : Lib.scanNat (Utils.toString uid ++ rest) = (uid.toNat, rest) :=
    Lib.scanNat_decimal h
  unfold readNumber
  rw [hscan]
  simp

theorem readNumber_last : readNumber (Utils.toString uid) = (uid, []) := by
  have h : readNumber (Utils.toString uid ++ []) = (uid, []) :=
    readNumber_toString (fun b hb => nomatch hb)
  rw [List.append_nil] at h
  exact h

theorem escape_ne_zero (bin : Bytes) : ∀ b ∈ sqlEscaping.escape bin, b ≠ 0 := by
  intro b hb
  obtain ⟨a, -, ha⟩ := List.mem_flatMap.mp hb
  unfold Lib.Escaping.escapeOne at ha
  cases hletter : sqlEscaping.letter a with
  | none =>
      rw [hletter] at ha
      rintro rfl
      obtain rfl := List.mem_singleton.mp ha
      cases hletter
  | some c =>
      rw [hletter] at ha
      have hc : c ≠ 0 := by
        rintro rfl
        have := sqlEscaping.value_letter a 0 hletter
        subst this
        cases hletter
      rcases List.mem_cons.mp ha with rfl | ha
      · decide
      · obtain rfl := List.mem_singleton.mp ha
        exact hc

/-- **What `ConvertBinToString` returns** is the whole of the escaped string. -/
theorem convertBinToString_ok :
    convertBinToString bin = .ok sql ↔
      (sqlEscaping.escape bin).length < binDataSize ∧ sql = sqlEscaping.escape bin := by
  have hall : ∀ b ∈ sqlEscaping.escape bin, decide (b ≠ 0) = true :=
    fun b hb => decide_eq_true (escape_ne_zero bin b hb)
  have hcut : (sqlEscaping.escape bin ++ [0]).takeWhile (· ≠ 0) = sqlEscaping.escape bin := by
    rw [List.takeWhile_append_of_pos hall]
    exact List.append_nil _
  have hcstring : Utils.cString (sqlEscaping.escape bin ++ [0]) =
      .ok (sqlEscaping.escape bin) := by
    unfold Utils.cString
    rw [if_pos (by simp), hcut]
  show (if (sqlEscaping.escape bin).length < binDataSize then _ else _) = _ ↔ _
  split
  · next h => rw [hcstring, Except.ok.injEq, and_iff_right h, eq_comm]
  · next h => exact iff_of_false (fun h' => nomatch h') (fun h' => h h'.1)

theorem scan_string (bin rest : Bytes) :
    sqlEscaping.scan false (sqlEscaping.escape bin ++ (ascii "\"" ++ rest)) = some (bin, rest) :=
  Lib.Escaping.scan_escape bin rest

theorem readNumber_word (word : Bytes) (h : word.head?.elim true Lib.isDigit = false) :
    readNumber (Utils.toString uid ++ (word ++ rest)) = (uid, word ++ rest) := by
  refine readNumber_toString (fun b hb => ?_)
  cases word with
  | nil => cases h
  | cons a word =>
      cases hb
      exact h

/-! ### What datasvr writes is read -/

theorem readSql_insertAccountText :
    readSql (insertAccountText uid passwordHash (sqlEscaping.escape account)
      (sqlEscaping.escape playerData)) =
        some (.insert uid passwordHash (some account) playerData) := by
  have hread : readInsertAccount (insertAccountText uid passwordHash (sqlEscaping.escape account)
      (sqlEscaping.escape playerData)) =
        some (.insert uid passwordHash (some account) playerData) := by
    unfold insertAccountText readInsertAccount
    simp only [List.append_assoc, Lib.afterWord, Option.bind_eq_bind, Option.bind_some,
      readNumber_word (ascii ",") rfl, readNumber_word (ascii ", \"") rfl, scan_string, if_true]
  unfold readSql
  rw [hread]
  rfl

theorem readSql_insertText :
    readSql (insertText uid passwordHash (sqlEscaping.escape playerData)) =
      some (.insert uid passwordHash none playerData) := by
  have hread : readInsert (insertText uid passwordHash (sqlEscaping.escape playerData)) =
      some (.insert uid passwordHash none playerData) := by
    unfold insertText readInsert
    simp only [List.append_assoc, Lib.afterWord, Option.bind_eq_bind, Option.bind_some,
      readNumber_word (ascii ",") rfl, readNumber_word (ascii ", NOW(), \"") rfl, scan_string,
      if_true]
  have hnot : readInsertAccount (insertText uid passwordHash (sqlEscaping.escape playerData)) =
      none := rfl
  unfold readSql
  rw [hnot, hread]
  rfl

theorem readSql_selectUidText :
    readSql (selectUidText uid passwordHash) = some (.selectUid uid passwordHash) := by
  have hread : readSelectUid (selectUidText uid passwordHash) =
      some (.selectUid uid passwordHash) := by
    unfold selectUidText readSelectUid
    simp only [List.append_assoc, Lib.afterWord, Option.bind_eq_bind, Option.bind_some,
      readNumber_word (ascii " and password_hash = ") rfl, readNumber_last, if_true]
  have hnot₁ : readInsertAccount (selectUidText uid passwordHash) = none := rfl
  have hnot₂ : readInsert (selectUidText uid passwordHash) = none := rfl
  unfold readSql
  rw [hnot₁, hnot₂, hread]
  rfl

theorem readSql_selectPlayerDataText :
    readSql (selectPlayerDataText uid passwordHash) =
      some (.selectPlayerData uid passwordHash) := by
  have hread : readSelectPlayerData (selectPlayerDataText uid passwordHash) =
      some (.selectPlayerData uid passwordHash) := by
    unfold selectPlayerDataText readSelectPlayerData
    simp only [List.append_assoc, Lib.afterWord, Option.bind_eq_bind, Option.bind_some,
      readNumber_word (ascii " AND password_hash = ") rfl, readNumber_last, if_true]
  have hnot₁ : readInsertAccount (selectPlayerDataText uid passwordHash) = none := rfl
  have hnot₂ : readInsert (selectPlayerDataText uid passwordHash) = none := rfl
  have hnot₃ : readSelectUid (selectPlayerDataText uid passwordHash) = none := rfl
  unfold readSql
  rw [hnot₁, hnot₂, hnot₃, hread]
  rfl

theorem readSql_updateText :
    readSql (updateText uid (sqlEscaping.escape playerData)) = some (.update uid playerData) := by
  have hread : readUpdate (updateText uid (sqlEscaping.escape playerData)) =
      some (.update uid playerData) := by
    unfold updateText readUpdate
    simp only [List.append_assoc, Lib.afterWord, Option.bind_eq_bind, Option.bind_some,
      scan_string, readNumber_last, if_true]
  have hnot₁ : readInsertAccount (updateText uid (sqlEscaping.escape playerData)) = none := rfl
  have hnot₂ : readInsert (updateText uid (sqlEscaping.escape playerData)) = none := rfl
  have hnot₃ : readSelectUid (updateText uid (sqlEscaping.escape playerData)) = none := rfl
  have hnot₄ : readSelectPlayerData (updateText uid (sqlEscaping.escape playerData)) = none := rfl
  unfold readSql
  rw [hnot₁, hnot₂, hnot₃, hnot₄, hread]
  rfl

end

/-! ## The table -/

/-- A row of `sg_data` under its uid. -/
structure Row where
  passwordHash : UInt64
  account : Option Bytes
  playerData : Bytes
  deriving DecidableEq, Repr

/-- The table `sg_data`. -/
abbrev SgData : Type := Finmap (fun _ : UInt64 => Row)

/-- The row of a uid, if it has that password. -/
def SgData.verified (db : SgData) (uid passwordHash : UInt64) : Option Row :=
  (db.lookup uid).filter (fun row => row.passwordHash == passwordHash)

/-- A result with one column and at most one row. -/
def oneColumn (cell : Option Bytes) : QueryResult := .stored ⟨cell.map some, cell.isSome⟩

/-- What a statement answers, and what it leaves. -/
def Sql.run (db : SgData) : Sql → QueryResult × SgData
  | .insert uid passwordHash account playerData =>
      match db.lookup uid with
      | some _ => (.error erDupEntry, db)
      | none => (.noResult 0, db.insert uid ⟨passwordHash, account, playerData⟩)
  | .selectUid uid passwordHash =>
      (oneColumn ((db.verified uid passwordHash).map fun _ => Utils.toString uid), db)
  | .selectPlayerData uid passwordHash =>
      (oneColumn ((db.verified uid passwordHash).map (·.playerData)), db)
  | .update uid playerData =>
      match db.lookup uid with
      | some row => (.noResult 0, db.insert uid { row with playerData := playerData })
      | none => (.noResult 0, db)

/-- `ER_PARSE_ERROR`. -/
def erParseError : Int := 1064

/-- What MySQL does with a text. -/
def mysqlQuery (text : Bytes) (db : SgData) : QueryResult × SgData :=
  match readSql text with
  | some sql => sql.run db
  | none => (.error erParseError, db)

/-- The uid a statement is about. -/
def Sql.uid : Sql → UInt64
  | .insert uid _ _ _ => uid
  | .selectUid uid _ => uid
  | .selectPlayerData uid _ => uid
  | .update uid _ => uid

section
variable {db : SgData} {sql : Sql} {uid uid' passwordHash : UInt64} {row : Row}

theorem mysqlQuery_of_read {text : Bytes} (h : readSql text = some sql) :
    mysqlQuery text db = sql.run db := by
  unfold mysqlQuery
  rw [h]

section
variable {account : Option Bytes} {playerData : Bytes}

theorem run_insert_some (h : db.lookup uid = some row) :
    (Sql.insert uid passwordHash account playerData).run db = (.error erDupEntry, db) := by
  simp only [Sql.run, h]

theorem run_insert_none (h : db.lookup uid = none) :
    (Sql.insert uid passwordHash account playerData).run db =
      (.noResult 0, db.insert uid ⟨passwordHash, account, playerData⟩) := by
  simp only [Sql.run, h]

theorem run_update_some (h : db.lookup uid = some row) :
    (Sql.update uid playerData).run db =
      (.noResult 0, db.insert uid { row with playerData := playerData }) := by
  simp only [Sql.run, h]

theorem run_update_none (h : db.lookup uid = none) :
    (Sql.update uid playerData).run db = (.noResult 0, db) := by
  simp only [Sql.run, h]

end

theorem Sql.run_others (h : uid' ≠ sql.uid) :
    (sql.run db).2.lookup uid' = db.lookup uid' := by
  cases sql with
  | insert uid passwordHash account playerData =>
      cases hrow : db.lookup uid with
      | some row => rw [run_insert_some hrow]
      | none =>
          rw [run_insert_none hrow]
          exact Finmap.lookup_insert_of_ne _ h
  | selectUid uid passwordHash => rfl
  | selectPlayerData uid passwordHash => rfl
  | update uid playerData =>
      cases hrow : db.lookup uid with
      | some row =>
          rw [run_update_some hrow]
          exact Finmap.lookup_insert_of_ne _ h
      | none => rw [run_update_none hrow]

end

end DataSvr

end PlayFrame
