/-
# `PlayFrame.DataSvr.Order` — in which order the requests of an account take effect

The threads execute their statements one at a time, each whenever it likes, and none of the
calls of the library fails (`atomic`).  A request is numbered by its place among the
messages of gamesvr; `handed` and `effects` are logs that the source does not have, of the
requests that were given to a client and of the statements that have been executed.

The `SetPlayerDataReq`s and `GetPlayerDataReq`s of an account take effect in the order in
which gamesvr sent them, and one that reads finds what the last one has saved, provided that
none of them is given to a client while another client still has one that it has not
executed (`run_inOrder`).  Nothing in datasvr sees to that: `run_overtaken`.
-/
import PlayFrame.DataSvr.Server
import PlayFrame.DataSvr.Truth
import PlayFrame.Lib.Lane

namespace PlayFrame

namespace DataSvr

/-- A statement for the player data of an account. -/
def Sql.isData (uid : UInt64) : Sql → Bool
  | .insert _ _ _ _ => false
  | .selectUid _ _ => false
  | .selectPlayerData uid' _ => uid' == uid
  | .update uid' _ => uid' == uid

/-- A round executes its statement, and nothing fails. -/
def atomic (text : Bytes) (db : SgData) (calls : MysqlCalls) (db' : SgData) : Prop :=
  calls = .fine (mysqlQuery text db).1 ∧ db' = (mysqlQuery text db).2

/-- The statement that a client has been given and not yet executed. -/
def Server.pending {δ : Type} (s : Server δ) (client : Nat) : Option Sql :=
  if (s.clients client).pipe = 0 then none else readSql (s.clients client).sql

/-- A request: its place among the messages of gamesvr, and its statement. -/
abbrev Numbered : Type := Nat × Sql

/-- A server with its logs.  `sent` are the messages of gamesvr, `job` the number of the
request that a client was given last. -/
structure Traced where
  server : Server SgData
  sent : List Bytes
  job : Nat → Nat
  handed : List Numbered
  effects : List Numbered

namespace Traced

open Server

/-- Nothing has happened. -/
def start (mgr : MysqlMgr) (zmq : Nat → Bool) (db : SgData) : Traced :=
  ⟨Server.start mgr zmq db, [], fun _ => 0, [], []⟩

/-- The request that a client has not yet executed. -/
def busy (t : Traced) (client : Nat) : Option Numbered :=
  (t.server.pending client).map fun sql => (t.job client, sql)

/-- The number of the message that is received next. -/
def nextNumber (t : Traced) : Nat := t.sent.length - t.server.inbox.length

/-- The logs after a step that leads to `s'`. -/
def record (t : Traced) (e : Server.Event) (s' : Server SgData) : Traced :=
  match e with
  | .send msg => { t with server := s', sent := t.sent ++ [msg] }
  | .popFree => { t with server := s' }
  | .recv =>
      match t.server.held with
      | none => { t with server := s' }
      | some client =>
          { t with
            server := s'
            job := Function.update t.job client t.nextNumber
            handed := t.handed ++
              ((s'.pending client).map fun sql => (t.nextNumber, sql)).toList }
  | .query client _ => { t with server := s', effects := t.effects ++ (t.busy client).toList }
  | .finish _ => { t with server := s' }

end Traced

/-- The condition on a step: a request for the player data of an account is received only
when no client still has one for that account. -/
def Apart (codec : Codec) (s : Server SgData) : Server.Event → Prop
  | .recv => ∀ msg ∈ s.inbox.head?, ∀ pkg, s.received msg = .ok (some pkg) →
      ∀ (k : Request) (m : ProtoSs.Msg), codec.parseFromArray .ss pkg = some m →
      m.head.cmd = k.cmd → ∀ uid, (k.sql m).isData uid = true →
      ∀ client sql, s.pending client = some sql → sql.isData uid = false
  | _ => True

/-- The runs all of whose steps meet a condition. -/
inductive ScheduledRun (codec : Codec) (meets : Server SgData → Server.Event → Prop) :
    Traced → Traced → Prop
  | refl (t : Traced) : ScheduledRun codec meets t t
  | step {t t' : Traced} {e : Server.Event} {s' : Server SgData} :
      ScheduledRun codec meets t t' → meets t'.server e →
      Server.Step codec atomic t'.server e s' → ScheduledRun codec meets t (t'.record e s')

/-- What statements do to a table, one after the other. -/
def replay (db : SgData) (effects : List Numbered) : SgData :=
  effects.foldl (fun db e => (e.2.run db).2) db

/-! ## What a step does to the requests -/

section
variable {codec : Codec} {s s' : Server SgData} {client : Nat} {calls : MysqlCalls}

namespace Server

/-- A client is in one place at most. -/
def Once (s : Server SgData) : Prop := ∀ client, s.places client ≤ 1

theorem Step.once {e : Event} (hs : s.Inv) (honce : s.Once) (h : Step codec atomic s e s') :
    s'.Once := by
  obtain ⟨lost, hloses, -⟩ := h.loses hs
  intro client
  have := hloses.places client
  have := honce client
  omega

theorem pending_held (honce : s.Once) (h : s.held = some client) :
    s.pending client = none := by
  have := honce client
  unfold places at this
  rw [if_pos h] at this
  unfold pending
  rw [if_pos (by omega)]

/-- **An iteration that receives**: the client it holds may get a request, and nothing else
is given to anybody. -/
theorem recv_pending (hheld : s.held = some client) (h : Step codec atomic s .recv s') :
    s'.db = s.db ∧ s'.inbox = s.inbox.tail ∧
    (s'.clients = s.clients ∨
      ∃ msg pkg, ∃ k : Request, ∃ m : ProtoSs.Msg, s.inbox.head? = some msg ∧
        s.received msg = .ok (some pkg) ∧ codec.parseFromArray .ss pkg = some m ∧
        m.head.cmd = k.cmd ∧ s'.pending client = some (k.sql m) ∧
        ∀ i, i ≠ client → s'.pending i = s.pending i) := by
  cases h with
  | nothing c hc hempty =>
      rw [hempty]
      exact ⟨rfl, rfl, Or.inl rfl⟩
  | recv s' c msg rest hc hinbox hrun =>
      rw [hheld] at hc
      cases hc
      rw [hinbox]
      rcases onMsg_cases hrun with ⟨hr, hs'⟩ | ⟨pkg, hr, -, k, m, hm, hcmd, ⟨r, hon⟩, hs'⟩ |
          ⟨pkg, hr, -, hs'⟩
      · rw [hs']
        exact ⟨rfl, rfl, Or.inl rfl⟩
      · obtain ⟨text, htext, hclients⟩ := Request.onReq_spec hon
        rw [hs']
        refine ⟨rfl, rfl, Or.inr ⟨msg, pkg, k, m, rfl, hr, hm, hcmd, ?_, fun i hi => ?_⟩⟩
        · simp only [pending, hclients, process, Function.update_self, MysqlClient.process]
          rw [if_neg (Nat.succ_ne_zero _), htext]
        · simp only [pending, hclients, process, Function.update_of_ne hi]
      · rw [hs']
        exact ⟨rfl, rfl, Or.inl rfl⟩

/-- **A round that runs its statement** has nothing to do any more. -/
theorem query_pending (honce : s.Once) (h : Step codec atomic s (.query client calls) s') :
    s'.inbox = s.inbox ∧ s'.held = s.held ∧
    (∀ i, s'.pending i = if i = client then none else s.pending i) ∧
    match s.pending client with
    | none => s'.db = s.db
    | some sql => s'.db = (sql.run s.db).2 ∧ calls = .fine (sql.run s.db).1 := by
  cases h with
  | query c calls db hidle hpipe hexec =>
      have hone : (s.clients client).pipe = 1 := by
        have := honce client
        unfold places at this
        omega
      have hpending : s.pending client = readSql (s.clients client).sql := by
        unfold pending
        rw [if_neg (by omega)]
      refine ⟨rfl, rfl, fun i => ?_, ?_⟩
      · simp only [pending, Function.update_apply]
        by_cases hi : i = client
        · rw [if_pos hi, if_pos hi, hone]
          rfl
        · rw [if_neg hi, if_neg hi]
      · rw [hpending]
        obtain ⟨hcalls, hdb⟩ := hexec
        unfold mysqlQuery at hcalls hdb
        cases hread : readSql (s.clients client).sql with
        | none =>
            rw [hread] at hdb
            exact hdb
        | some sql =>
            rw [hread] at hdb hcalls
            exact ⟨hdb, hcalls⟩

end Server

end

/-! ## The order -/

namespace Traced

open Server

/-- What every state of such a run satisfies. -/
structure Ok (db₀ : SgData) (t : Traced) : Prop where
  inv : t.server.Inv
  once : t.server.Once
  lanes : ∀ uid, Lib.Lane (fun e => e.2.isData uid) t.handed t.effects t.busy
  sorted : t.handed.Pairwise (fun a b => a.1 < b.1)
  numbers : ∀ e ∈ t.handed, e.1 < t.nextNumber
  queue : t.server.inbox.length ≤ t.sent.length
  db : t.server.db = replay db₀ t.effects

variable {codec : Codec} {db₀ : SgData} {t t' : Traced} {e : Server.Event} {s' : Server SgData}
  {client : Nat}

theorem busy_eq_some {a : Numbered} :
    t.busy client = some a ↔ t.server.pending client = some a.2 ∧ t.job client = a.1 := by
  unfold busy
  cases t.server.pending client with
  | none => simp
  | some sql =>
      constructor
      · rintro ⟨⟩
        exact ⟨rfl, rfl⟩
      · rintro ⟨⟨⟩, hjob⟩
        rw [Option.map_some, hjob]

theorem busy_eq_none : t.busy client = none ↔ t.server.pending client = none := by
  unfold busy
  rw [Option.map_eq_none_iff]

theorem Ok.same (h : t.Ok db₀) (hinv : s'.Inv) (honce : s'.Once)
    (hclients : s'.clients = t.server.clients) (hdb : s'.db = t.server.db)
    (hinbox : s'.inbox = t.server.inbox) : ({ t with server := s' } : Traced).Ok db₀ := by
  have hbusy : ({ t with server := s' } : Traced).busy = t.busy := by
    funext i
    simp only [busy, pending, hclients]
  refine ⟨hinv, honce, fun uid => ?_, h.sorted, ?_, ?_, hdb.trans h.db⟩
  · rw [hbusy]
    exact h.lanes uid
  · unfold nextNumber
    rw [hinbox]
    exact h.numbers
  · rw [hinbox]
    exact h.queue

theorem Ok.sent (h : t.Ok db₀) {msg : Bytes} (hinv : s'.Inv) (honce : s'.Once)
    (hs' : s' = { t.server with inbox := t.server.inbox ++ [msg] }) :
    (t.record (.send msg) s').Ok db₀ := by
  have hnext : (t.record (.send msg) s').nextNumber = t.nextNumber := by
    simp only [record, nextNumber, hs', List.length_append, List.length_singleton]
    omega
  refine ⟨hinv, honce, fun uid => ?_, h.sorted, ?_, ?_, ?_⟩
  · have hbusy : (t.record (.send msg) s').busy = t.busy := by
      funext i
      simp only [busy, pending, record, hs']
    rw [hbusy]
    exact h.lanes uid
  · rw [hnext]
    exact h.numbers
  · have := h.queue
    simp only [record, hs', List.length_append, List.length_singleton]
    omega
  · simp only [record, hs']
    exact h.db

theorem record_recv (hheld : t.server.held = some client) :
    t.record .recv s' =
      { t with
        server := s'
        job := Function.update t.job client t.nextNumber
        handed := t.handed ++
          ((s'.pending client).map fun sql => (t.nextNumber, sql)).toList } := by
  simp only [record, hheld]

theorem Ok.recvNothing (h : t.Ok db₀) (hinv : s'.Inv) (honce : s'.Once)
    (hheld : t.server.held = some client) (hdb : s'.db = t.server.db)
    (hinbox : s'.inbox = t.server.inbox.tail) (hclients : s'.clients = t.server.clients) :
    (t.record .recv s').Ok db₀ := by
  have hidle : t.server.pending client = none := pending_held h.once hheld
  have hpending : ∀ i, s'.pending i = t.server.pending i := by
    intro i
    simp only [pending, hclients]
  have hbusy : (t.record .recv s').busy = t.busy := by
    funext i
    simp only [record_recv hheld, busy, hpending]
    by_cases hi : i = client
    · rw [hi, hidle]
      rfl
    · rw [Function.update_of_ne hi]
  have hlen : s'.inbox.length ≤ t.server.inbox.length := by
    rw [hinbox, List.length_tail]
    exact Nat.sub_le ..
  have hqueue := h.queue
  have hlanes := h.lanes
  rw [← hbusy] at hlanes
  rw [record_recv hheld, hpending, hidle, Option.map_none, Option.toList_none,
    List.append_nil] at hlanes ⊢
  refine ⟨hinv, honce, hlanes, h.sorted, fun e he => ?_, hlen.trans hqueue, hdb.trans h.db⟩
  have hnumber : e.1 < t.sent.length - t.server.inbox.length := h.numbers e he
  show e.1 < t.sent.length - s'.inbox.length
  omega

theorem Ok.recvRequest (h : t.Ok db₀) (hinv : s'.Inv) (honce : s'.Once) {msg : Bytes} {sql : Sql}
    (hheld : t.server.held = some client) (hdb : s'.db = t.server.db)
    (hhead : t.server.inbox.head? = some msg) (hinbox : s'.inbox = t.server.inbox.tail)
    (hnew : s'.pending client = some sql)
    (hothers : ∀ i, i ≠ client → s'.pending i = t.server.pending i)
    (hapart : ∀ uid, sql.isData uid = true → ∀ i sql', t.server.pending i = some sql' →
      sql'.isData uid = false) :
    (t.record .recv s').Ok db₀ := by
  have hidle : t.server.pending client = none := pending_held h.once hheld
  have hbusy : (t.record .recv s').busy =
      Function.update t.busy client (some (t.nextNumber, sql)) := by
    funext i
    simp only [record_recv hheld, busy]
    by_cases hi : i = client
    · rw [hi, Function.update_self, Function.update_self, hnew]
      rfl
    · rw [Function.update_of_ne hi, Function.update_of_ne hi, hothers i hi]
      rfl
  have hpos : 0 < t.server.inbox.length := by
    cases hin : t.server.inbox with
    | nil =>
        rw [hin] at hhead
        cases hhead
    | cons _ _ => exact Nat.succ_pos _
  have hqueue := h.queue
  have hlen : s'.inbox.length = t.server.inbox.length - 1 := by rw [hinbox, List.length_tail]
  have hlanes : ∀ uid, Lib.Lane (fun e => e.2.isData uid) (t.handed ++ [(t.nextNumber, sql)])
      t.effects (t.record .recv s').busy := by
    intro uid
    rw [hbusy]
    refine (h.lanes uid).hand (busy_eq_none.mpr hidle) (fun hdata i b hi => ?_)
    exact hapart uid hdata i b.2 (busy_eq_some.mp hi).1
  rw [record_recv hheld, hnew, Option.map_some, Option.toList_some] at hlanes ⊢
  refine ⟨hinv, honce, hlanes, ?_, fun e he => ?_, ?_, hdb.trans h.db⟩
  · rw [List.pairwise_append]
    refine ⟨h.sorted, List.pairwise_singleton .., fun a ha b hb => ?_⟩
    obtain rfl := List.mem_singleton.mp hb
    exact h.numbers a ha
  · show e.1 < t.sent.length - s'.inbox.length
    rcases List.mem_append.mp he with he | he
    · have hnumber : e.1 < t.sent.length - t.server.inbox.length := h.numbers e he
      omega
    · obtain rfl := List.mem_singleton.mp he
      show t.sent.length - t.server.inbox.length < _
      omega
  · show s'.inbox.length ≤ t.sent.length
    omega

theorem Ok.recv (h : t.Ok db₀) (hinv : s'.Inv) (honce : s'.Once)
    (hheld : t.server.held = some client) (hapart : Apart codec t.server .recv)
    (hstep : Step codec atomic t.server .recv s') : (t.record .recv s').Ok db₀ := by
  obtain ⟨hdb, hinbox, hclients | ⟨msg, pkg, k, m, hhead, hr, hm, hcmd, hnew, hothers⟩⟩ :=
    recv_pending hheld hstep
  · exact h.recvNothing hinv honce hheld hdb hinbox hclients
  · exact h.recvRequest hinv honce hheld hdb hhead hinbox hnew hothers
      (hapart msg hhead pkg hr k m hm hcmd)

theorem replay_append (db : SgData) (effects : List Numbered) (e : Numbered) :
    replay db (effects ++ [e]) = (e.2.run (replay db effects)).2 :=
  List.foldl_concat ..

theorem Ok.query (h : t.Ok db₀) {calls : MysqlCalls} (hinv : s'.Inv) (honce : s'.Once)
    (hstep : Step codec atomic t.server (.query client calls) s') :
    (t.record (.query client calls) s').Ok db₀ := by
  obtain ⟨hinbox, -, hpending, hdb⟩ := query_pending h.once hstep
  have hbusy : (t.record (.query client calls) s').busy = Function.update t.busy client none := by
    funext i
    simp only [busy, record, hpending]
    by_cases hi : i = client
    · rw [hi, Function.update_self, if_pos rfl]
      rfl
    · rw [Function.update_of_ne hi, if_neg hi]
      rfl
  refine ⟨hinv, honce, fun uid => ?_, h.sorted, ?_, ?_, ?_⟩
  · rw [hbusy]
    show Lib.Lane _ t.handed (t.effects ++ (t.busy client).toList) _
    cases hb : t.busy client with
    | none =>
        rw [← hb, Function.update_eq_self, hb]
        exact (List.append_nil t.effects).symm ▸ h.lanes uid
    | some a => exact (h.lanes uid).perform hb
  · show ∀ e ∈ t.handed, e.1 < t.sent.length - s'.inbox.length
    rw [hinbox]
    exact h.numbers
  · show s'.inbox.length ≤ t.sent.length
    rw [hinbox]
    exact h.queue
  · show s'.db = replay db₀ (t.effects ++ (t.busy client).toList)
    cases hp : t.server.pending client with
    | none =>
        rw [hp] at hdb
        rw [busy_eq_none.mpr hp, Option.toList_none, List.append_nil, ← h.db]
        exact hdb
    | some sql =>
        rw [hp] at hdb
        have hb : t.busy client = some (t.job client, sql) := busy_eq_some.mpr ⟨hp, rfl⟩
        rw [hb, Option.toList_some, replay_append, ← h.db]
        exact hdb.1

theorem Ok.step (h : t.Ok db₀) (hapart : Apart codec t.server e)
    (hstep : Step codec atomic t.server e s') : (t.record e s').Ok db₀ := by
  have hinv := h.inv.step hstep
  have honce := hstep.once h.inv h.once
  cases hstep with
  | send msg => exact h.sent hinv honce rfl
  | usedUp hheld hpop => exact h.same hinv honce rfl rfl rfl
  | popFree client mgr hheld hpop => exact h.same hinv honce rfl rfl rfl
  | nothing client hheld hempty =>
      exact h.recv hinv honce hheld hapart (.nothing _ client hheld hempty)
  | recv s' client msg rest hheld hinbox hrun =>
      exact h.recv hinv honce hheld hapart (.recv _ _ client msg rest hheld hinbox hrun)
  | query client calls db hidle hpipe hexec =>
      have hquery : Step codec atomic t.server (.query client calls) _ :=
        .query _ client calls db hidle hpipe hexec
      exact h.query hinv honce hquery
  | finish client calls mgr sock hround hloop => exact h.same hinv honce rfl rfl rfl

/-! ### What is read -/

theorem run_keeps {db : SgData} {sql : Sql} {uid : UInt64} {row : Row}
    (h : db.lookup uid = some row) (hsql : ∀ playerData, sql ≠ .update uid playerData) :
    (sql.run db).2.lookup uid = some row := by
  by_cases huid : uid = sql.uid
  · cases sql with
    | insert uid' passwordHash account playerData =>
        obtain rfl : uid = uid' := huid
        rw [run_insert_some h]
        exact h
    | selectUid uid' passwordHash => exact h
    | selectPlayerData uid' passwordHash => exact h
    | update uid' playerData =>
        obtain rfl : uid = uid' := huid
        exact absurd rfl (hsql playerData)
  · rw [Sql.run_others huid]
    exact h

theorem replay_keeps {db : SgData} {effects : List Numbered} {uid : UInt64} {row : Row}
    (h : db.lookup uid = some row)
    (heffects : ∀ e ∈ effects, ∀ playerData, e.2 ≠ .update uid playerData) :
    (replay db effects).lookup uid = some row := by
  induction effects generalizing db with
  | nil => exact h
  | cons e effects ih =>
      exact ih (run_keeps h (heffects e (List.mem_cons_self ..)))
        (fun e' he' => heffects e' (List.mem_cons_of_mem _ he'))

/-- **The requests for the data of an account take effect in the order in which they were
sent**, and a `SELECT` that is about to be executed finds what the last `UPDATE` before it
has written, if there was a row to write to. -/
structure InOrder (db₀ : SgData) (t : Traced) : Prop where
  sorted : t.handed.Pairwise (fun a b => a.1 < b.1)
  ordered : ∀ uid, t.effects.filter (fun e => e.2.isData uid) <+:
    t.handed.filter (fun e => e.2.isData uid)
  read : ∀ client n uid passwordHash,
    t.busy client = some (n, .selectPlayerData uid passwordHash) →
    ∀ m playerData, (m, .update uid playerData) ∈ t.handed → m < n →
    (∀ e ∈ t.handed, m < e.1 → e.1 < n → ∀ d, e.2 ≠ .update uid d) →
    ∃ pre post, t.effects = pre ++ (m, .update uid playerData) :: post ∧
      ∀ old, (replay db₀ pre).lookup uid = some old →
        t.server.db.lookup uid = some { old with playerData := playerData }

theorem Ok.inOrder (h : t.Ok db₀) : t.InOrder db₀ := by
  refine ⟨h.sorted, fun uid => (h.lanes uid).done_ordered, ?_⟩
  intro client n uid passwordHash hbusy m playerData hmem hlt hlast
  have hnext := (h.lanes uid).next hbusy (beq_self_eq_true uid)
  have hsorted := (h.sorted.sublist List.filter_sublist : List.Pairwise _
    (t.handed.filter (fun e => e.2.isData uid)))
  rw [hnext] at hsorted
  have hdone : ((m, .update uid playerData) : Numbered) ∈ t.effects := by
    have hin : ((m, .update uid playerData) : Numbered) ∈
        t.handed.filter (fun e => e.2.isData uid) :=
      List.mem_filter.mpr ⟨hmem, beq_self_eq_true uid⟩
    rw [hnext] at hin
    rcases List.mem_append.mp hin with hin | hin
    · exact (List.mem_filter.mp hin).1
    · cases List.mem_singleton.mp hin
  obtain ⟨pre, post, heffects⟩ := List.append_of_mem hdone
  refine ⟨pre, post, heffects, fun old hold => ?_⟩
  have hpost : ∀ e ∈ post, ∀ d, e.2 ≠ .update uid d := by
    intro e he d hd
    have hdata : e.2.isData uid = true := by
      rw [hd]
      exact beq_self_eq_true uid
    have hein : e ∈ t.effects.filter (fun e => e.2.isData uid) := by
      refine List.mem_filter.mpr ⟨?_, hdata⟩
      rw [heffects]
      exact List.mem_append_right _ (List.mem_cons_of_mem _ he)
    have hehanded : e ∈ t.handed := by
      have : e ∈ t.handed.filter (fun e => e.2.isData uid) := by
        rw [hnext]
        exact List.mem_append_left _ hein
      exact (List.mem_filter.mp this).1
    have hbefore : e.1 < n :=
      (List.pairwise_append.mp hsorted).2.2 e hein _ (List.mem_singleton_self _)
    have hafter : m < e.1 := by
      have hfilter := (List.pairwise_append.mp hsorted).1
      have hcons : ((m, Sql.update uid playerData) :: post).filter
          (fun e : Numbered => e.2.isData uid) =
          (m, .update uid playerData) :: post.filter (fun e : Numbered => e.2.isData uid) := by
        simp [Sql.isData]
      rw [heffects, List.filter_append, hcons] at hfilter
      have := (List.pairwise_append.mp hfilter).2.1
      exact (List.pairwise_cons.mp this).1 e (List.mem_filter.mpr ⟨he, hdata⟩)
    exact hlast e hehanded hafter hbefore d hd
  have hwritten : ((Sql.update uid playerData).run (replay db₀ pre)).2.lookup uid =
      some { old with playerData := playerData } := by
    rw [run_update_some hold]
    exact Finmap.lookup_insert _
  rw [h.db, heffects]
  unfold replay
  rw [List.foldl_append, List.foldl_cons]
  exact replay_keeps hwritten hpost

theorem start_ok {mgr : MysqlMgr} {zmq : Nat → Bool} {db : SgData}
    (hfree : mgr.freeClientList = mgr.totalClientList) (hnodup : mgr.totalClientList.Nodup) :
    (start mgr zmq db).Ok db := by
  obtain ⟨hinv, hcons⟩ : (Server.start mgr zmq db).Inv ∧ (Server.start mgr zmq db).Conserved :=
    start_inv hfree hnodup
  refine ⟨hinv, fun client => ?_, fun uid => Lib.Lane.start, List.Pairwise.nil,
    fun e he => (nomatch he), Nat.le_refl 0, rfl⟩
  by_cases hmem : client ∈ mgr.totalClientList
  · exact Nat.le_of_eq (hcons client hmem)
  · exact (hinv.made client hmem).trans_le (Nat.zero_le 1)

theorem ok_run (h : ScheduledRun codec (Apart codec) t t') (hs : t.Ok db₀) : t'.Ok db₀ := by
  induction h with
  | refl => exact hs
  | step hrun hapart hstep ih => exact ih.step hapart hstep

/-- **In order**, in every state of a run that meets the condition. -/
theorem run_inOrder {maxClientCount : Int} {calls : Nat → ConnectCalls} {pipe : Nat → Bool}
    {mgr : MysqlMgr} {zmq : Nat → Bool} {db : SgData}
    (hinit : MysqlMgr.init maxClientCount calls pipe = .ok mgr)
    (h : ScheduledRun codec (Apart codec) (start mgr zmq db) t) : t.InOrder db := by
  obtain ⟨hfree, hnodup⟩ := MysqlMgr.init_spec hinit
  exact (ok_run h (start_ok hfree hnodup)).inOrder

/-! ### Two runs -/

/-- A table with the uid 1. -/
def oneRow : SgData := Finmap.singleton 1 ⟨5, none, [1]⟩

/-- The generated code, where the byte 1 is the request to save the player of the uid 1, and
the byte 2 the request to read it. -/
def saveReadCodec : Codec :=
  Wire.resCodec [([1], ssMsg Request.setPlayerData.cmd), ([2], ssMsg Request.getPlayerData.cmd)]

/-- datasvr with two clients and that table. -/
def twoThreads : Traced := start twoClients (fun _ => true) oneRow

/-- The request to read is handed to the client 1 when the client 0 has saved, and it is
about to find what has been saved. -/
theorem run_inOrder_saved :
    ∃ t, ScheduledRun saveReadCodec (Apart saveReadCodec) twoThreads t ∧
      t.busy 1 = some (1, .selectPlayerData 1 5) ∧ t.effects = [(0, .update 1 [2])] ∧
      t.InOrder oneRow := by
  have hsend : ScheduledRun saveReadCodec (Apart saveReadCodec) twoThreads _ :=
    .step (e := .send [1]) (.refl _) trivial (.send _ [1])
  have hpop := ScheduledRun.step hsend (e := .popFree) trivial
    (.popFree _ 0 ⟨[1], [0, 1]⟩ rfl rfl)
  have hrecv := ScheduledRun.step hpop (e := .recv) (by
    intro msg _ pkg _ k m _ _ uid _ client sql hp
    cases hp) (.recv _ _ 0 [1] [] rfl rfl rfl)
  have hquery := ScheduledRun.step hrecv (e := .query 0 (.fine (.noResult 0))) trivial
    (.query _ 0 _ _ rfl (by decide) ⟨rfl, rfl⟩)
  have hsend' := ScheduledRun.step hquery (e := .send [2]) trivial (.send _ [2])
  have hpop' := ScheduledRun.step hsend' (e := .popFree) trivial
    (.popFree _ 1 ⟨[], [0, 1]⟩ rfl rfl)
  have hrecv' := ScheduledRun.step hpop' (e := .recv) (by
    intro msg _ pkg _ k m _ _ uid _ client sql hp
    cases client with
    | zero => cases hp
    | succ client => cases hp) (.recv _ _ 1 [2] [] rfl rfl rfl)
  exact ⟨_, hrecv', rfl, rfl, run_inOrder init_twoClients hrecv'⟩

/-- The request to read is handed to the client 1 while the client 0 has not yet saved; it
is executed first, and finds the old data. -/
theorem run_overtaken :
    ∃ t, ScheduledRun saveReadCodec (fun _ _ => True) twoThreads t ∧
      t.server.threads 1 = some (.fine (oneColumn (some [1]))) ∧ ¬ t.InOrder oneRow := by
  have hsend : ScheduledRun saveReadCodec (fun _ _ => True) twoThreads _ :=
    .step (e := .send [1]) (.refl _) trivial (.send _ [1])
  have hpop := ScheduledRun.step hsend (e := .popFree) trivial
    (.popFree _ 0 ⟨[1], [0, 1]⟩ rfl rfl)
  have hrecv := ScheduledRun.step hpop (e := .recv) trivial
    (.recv _ _ 0 [1] [] rfl rfl rfl)
  have hsend' := ScheduledRun.step hrecv (e := .send [2]) trivial (.send _ [2])
  have hpop' := ScheduledRun.step hsend' (e := .popFree) trivial
    (.popFree _ 1 ⟨[], [0, 1]⟩ rfl rfl)
  have hrecv' := ScheduledRun.step hpop' (e := .recv) trivial
    (.recv _ _ 1 [2] [] rfl rfl rfl)
  have hquery := ScheduledRun.step hrecv' (e := .query 1 (.fine (oneColumn (some [1])))) trivial
    (.query _ 1 _ _ rfl (by decide) ⟨rfl, rfl⟩)
  refine ⟨_, hquery, rfl, fun h => ?_⟩
  obtain ⟨rest, hrest⟩ := h.ordered 1
  have hhead : some ((1, .selectPlayerData 1 5) : Numbered) = some (0, .update 1 [2]) :=
    congrArg List.head? hrest
  cases hhead

end Traced

end DataSvr

end PlayFrame
