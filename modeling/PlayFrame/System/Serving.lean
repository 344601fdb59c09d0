/-
# `PlayFrame.System.Serving` — requests that are answered

Runs of gamesvr and datasvr in which no call fails.  A request at the head of the queue is
handed to a free client, whose thread runs the statement and sends the response; then the
client is free again, so one free client is enough to empty the queue.

A small deployment, in which one client logs in, shows that the conditions of the results
about these runs can be met.
-/
import PlayFrame.System.GameData

namespace PlayFrame

open DataSvr (Server Request SgData Sql GamesvrSock Flaky readSql sqlEscaping StringsFit)

/-- The generated code writes the strings of a request into its encoding. -/
structure Codec.WritesStrings (codec : Codec) : Prop where
  account : ∀ seq playerIdx uid passwordHash account playerData, account.length ≤
    (codec.serialize .ss (Player.accountRegReq seq playerIdx uid passwordHash account
      playerData)).length
  newData : ∀ seq playerIdx uid passwordHash account playerData, playerData.length ≤
    (codec.serialize .ss (Player.accountRegReq seq playerIdx uid passwordHash account
      playerData)).length
  savedData : ∀ seq playerIdx uid playerData, playerData.length ≤
    (codec.serialize .ss (Player.setPlayerDataReq seq playerIdx uid playerData)).length

namespace GameData

section
variable {codec : Codec} {g g' : GameData} {s' : Server SgData} {e : Server.Event}
  {front : Backend} {out : GameOut} {req res : ProtoSs.Msg} {client : Nat}
  {size : Nat} {start : Int} {db : SgData} {allowed : Backend → BackendInput → Prop}

/-! ## A request that nothing happens to -/

theorem step_recv {s : Server SgData} {k : Request} {rest : List Bytes} {clients : DataSvr.Clients}
    {ret : Int} (hheld : s.held = some client) (hinbox : s.inbox = codec.serialize .ss req :: rest)
    (htravels : Travels codec req) (hcmd : req.head.cmd = k.cmd)
    (hon : k.onReq codec req client s.clients = .ok (ret, clients)) :
    Server.Step codec Flaky s .recv
      { s with
        buf := (Link.gamesvrToDatasvr.receive s.buf (codec.serialize .ss req)).1
        inbox := rest
        held := none
        clients := clients } := by
  have hreceived : ({ s with inbox := rest } : Server SgData).received (codec.serialize .ss req) =
      .ok (some (codec.serialize .ss req)) := htravels.received
  have hlookup : (DataSvr.moduleInit codec).lookup (headCmd .ss req) =
      some ⟨.ss, k.onReq codec⟩ := by
    rw [show headCmd .ss req = k.cmd from hcmd]
    exact DataSvr.lookup_cmd k
  have hhandle : DataSvr.handleRequest codec (codec.serialize .ss req) client s.clients =
      .ok (0, clients) := by
    unfold DataSvr.handleRequest
    rw [MsgModuleBase.handleRequest_registered htravels.parses hlookup,
      MsgModuleBase.process_same, hon]
    rfl
  refine .recv s _ client _ rest hheld hinbox ?_
  unfold Server.onMsg
  rw [hreceived, ok_bind]
  dsimp only
  rw [hhandle]
  rfl

theorem Run.datasvr {g₀ : GameData} (hrun : Run codec allowed g₀ g) (hsend : ∀ msg, e ≠ .send msg)
    (hstep : Server.Step codec Flaky g.data e s')
    (hresponses : ∀ p ∈ (g.afterDatasvr codec e s').answers, Travels codec p.2) :
    Run codec allowed g₀ (g.afterDatasvr codec e s') :=
  hrun.step (.datasvr e) (.datasvr e s' hsend hstep)
    ⟨fun _ h => (nomatch h), fun _ h => absurd h List.not_mem_nil, hresponses⟩

theorem loop_serves {c : MysqlClient GamesvrSock} {k : Request} {calls : MysqlCalls}
    {mgr : MysqlMgr} {sock : GamesvrSock} {result : Option MysqlRes} {flags : MysqlResFlags}
    (hserves : Serves codec c k req) (hconn : calls.Connected)
    (hanswer : calls.answer = some (result, flags))
    (hmade : k.response result flags req.head.seq req.head.playerIdx = .ok res) :
    c.threadLoop calls mgr sock =
      .ok (mgr.pushFreeClient c.clientId, (sock.sendMsg codec res).2) := by
  rw [MysqlClient.threadLoop_connected hconn hserves.callback, hanswer]
  simp only [Request.mysqlRes, hserves.seqId, hserves.playerIdx, hmade, ok_bind]

/-- A client has been handed a request, and its thread has not looked yet. -/
structure Waits (codec : Codec) (g : GameData) (client : Nat) (k : Request)
    (req : ProtoSs.Msg) : Prop where
  work : g.work client = some req
  thread : g.data.threads client = none
  pipe : 0 < (g.data.clients client).pipe
  serves : Serves codec (g.data.clients client) k req

/-- **The strings of a request** of gamesvr that travels fit in the buffer that datasvr escapes
them into. -/
theorem stringsFit_of_gameRequest {k : Request} (hcodec : codec.WritesStrings)
    (hgame : GameRequest codec req) (htravels : Travels codec req) (hcmd : req.head.cmd = k.cmd) :
    StringsFit k req := by
  have hfits := htravels.fits
  have hescaped : ∀ s : Bytes, s.length ≤ (codec.serialize .ss req).length →
      (sqlEscaping.escape s).length < DataSvr.binDataSize := by
    intro s hs
    have := sqlEscaping.length_escape_le s
    simp only [DataSvr.binDataSize]
    omega
  cases hgame with
  | getPlayerData seq playerIdx uid passwordHash =>
      obtain rfl : k = .getPlayerData := cmd_inj (hcmd.symm : k.cmd = Request.getPlayerData.cmd)
      exact trivial
  | setPlayerData seq playerIdx uid playerData =>
      obtain rfl : k = .setPlayerData := cmd_inj (hcmd.symm : k.cmd = Request.setPlayerData.cmd)
      exact hescaped playerData (hcodec.savedData ..)
  | accountReg seq playerIdx uid passwordHash account =>
      obtain rfl : k = .accountReg := cmd_inj (hcmd.symm : k.cmd = Request.accountReg.cmd)
      exact ⟨hescaped account (hcodec.account ..), hescaped _ (hcodec.newData ..)⟩

/-- A client of the database is free: datasvr holds it, or it is in the list of free clients. -/
def FreeClient (s : Server SgData) : Prop := s.held ≠ none ∨ s.mgr.freeClientList ≠ []

theorem not_busy_of_free {s : Server SgData} (honce : s.Once)
    (h : client ∈ s.mgr.freeClientList) : ¬ Busy s client := by
  have hplaces := honce client
  have hcount := List.count_pos_iff.mpr h
  unfold Server.places at hplaces
  rintro (hpipe | hthread)
  · omega
  · rw [if_pos (Option.isSome_iff_ne_none.mpr hthread)] at hplaces
    omega

theorem held_run {g₀ : GameData} {k : Request} {queue : List Bytes}
    (hrun : Run codec allowed g₀ g) (hheld : g.data.held = some client)
    (hidle : ¬ Busy g.data client) (hinbox : g.data.inbox = codec.serialize .ss req :: queue)
    (htravels : Travels codec req) (hkind : k ≠ .accountVerify) (hcmd : req.head.cmd = k.cmd)
    (hstrings : StringsFit k req) (hold : ∀ p ∈ g.answers, Travels codec p.2) :
    ∃ s' work, Run codec allowed g₀ { g with data := s', work := work } ∧ s'.db = g.data.db ∧
      s'.inbox = queue ∧ s'.held = none ∧ s'.sock = g.data.sock ∧
      Waits codec { g with data := s', work := work } client k req := by
  have hthread : g.data.threads client = none := by
    by_contra hne
    exact hidle (Or.inr hne)
  obtain ⟨ret, clients, hon⟩ : ∃ ret clients, k.onReq codec req client g.data.clients =
      .ok (ret, clients) := Request.onReq_returns.mpr hstrings
  obtain ⟨text, htext, hclients⟩ := Request.onReq_spec hon
  have hrecv := hrun.datasvr (e := .recv) (fun _ h => by cases h)
    (step_recv hheld hinbox htravels hcmd hon) (by
      unfold afterDatasvr
      rw [hheld]
      exact hold)
  unfold afterDatasvr at hrecv
  rw [hheld] at hrecv
  refine ⟨_, _, hrecv, rfl, rfl, rfl, rfl, ?_, hthread, ?_, ?_⟩
  · show Function.update g.work client (g.data.inbox.head?.bind _) client = some req
    rw [Function.update_self, hinbox]
    exact htravels.parses
  · show 0 < (clients client).pipe
    rw [hclients, DataSvr.process, Function.update_self]
    exact Nat.succ_pos _
  · show Serves codec (clients client) k req
    rw [hclients, DataSvr.process, Function.update_self]
    exact serves_processed hkind hcmd htext

theorem handed_run {g₀ : GameData} {k : Request} {queue : List Bytes}
    (hrun : Run codec allowed g₀ g) (honce : g.data.Once) (hfree : FreeClient g.data)
    (hinbox : g.data.inbox = codec.serialize .ss req :: queue) (htravels : Travels codec req)
    (hkind : k ≠ .accountVerify) (hcmd : req.head.cmd = k.cmd) (hstrings : StringsFit k req)
    (hold : ∀ p ∈ g.answers, Travels codec p.2) :
    ∃ client s' work, Run codec allowed g₀ { g with data := s', work := work } ∧
      s'.db = g.data.db ∧ s'.inbox = queue ∧ s'.sock = g.data.sock ∧
      Waits codec { g with data := s', work := work } client k req := by
  cases hheld : g.data.held with
  | some client =>
      obtain ⟨s', work, hrun', hdb, hqueue, -, hsock, hwaits⟩ := held_run hrun hheld
        (not_busy_of_held honce hheld) hinbox htravels hkind hcmd hstrings hold
      exact ⟨client, s', work, hrun', hdb, hqueue, hsock, hwaits⟩
  | none =>
      obtain ⟨client, free, hlist⟩ :=
        List.exists_cons_of_ne_nil (hfree.resolve_left (not_not_intro hheld))
      have hidle : ¬ Busy g.data client :=
        not_busy_of_free honce (hlist ▸ List.mem_cons_self)
      have hpop : Run codec allowed g₀ { g with data := { g.data with
          held := some client
          mgr := { g.data.mgr with freeClientList := free } } } :=
        hrun.datasvr (e := .popFree) (fun _ h => by cases h)
          (.popFree g.data client { g.data.mgr with freeClientList := free } hheld
            (by unfold MysqlMgr.popFreeClient; rw [hlist])) hold
      obtain ⟨s', work, hrun', hdb, hqueue, -, hsock, hwaits⟩ :=
        held_run hpop rfl hidle hinbox htravels hkind hcmd hstrings hold
      exact ⟨client, s', work, hrun', hdb, hqueue, hsock, hwaits⟩

theorem Waits.answered_run {g₀ : GameData} {k : Request} (h : Waits codec g client k req)
    (hrun : Run codec allowed g₀ g) (hzmq : g.data.sock.zmq 0 = true)
    (hold : ∀ p ∈ g.answers, Travels codec p.2)
    (hres : Travels codec (k.answerTo req g.data.db)) :
    ∃ s' work, Run codec allowed g₀ { g with
        data := s'
        work := work
        answers := g.answers ++ [(req, k.answerTo req g.data.db)] } ∧
      s'.db = ((k.sql req).run g.data.db).2 ∧ s'.inbox = g.data.inbox ∧
      s'.mgr.freeClientList ≠ [] ∧ s'.sock.zmq = fun k => g.data.sock.zmq (k + 1) := by
  obtain ⟨result, flags, hanswer, hmade⟩ := Request.answer_run k req g.data.db
  have hsql : DataSvr.mysqlQuery (g.data.clients client).sql g.data.db =
      (k.sql req).run g.data.db := DataSvr.mysqlQuery_of_read h.serves.sql
  generalize hcalls : MysqlCalls.fine ((k.sql req).run g.data.db).1 = calls at hanswer
  have hconn : calls.Connected := by
    rw [← hcalls]
    exact MysqlCalls.fine_connected _
  have hflaky : Flaky (g.data.clients client).sql g.data.db calls
      ((k.sql req).run g.data.db).2 := by
    rw [← hcalls, ← hsql]
    exact .fine _ _
  have hquery := hrun.datasvr (e := .query client calls) (fun _ h => by cases h)
    (.query _ client calls _ h.thread h.pipe hflaky) hold
  have hfits := hres.fits
  have hsend : (g.data.sock.sendMsg codec (k.answerTo req g.data.db)).2.toGamesvr =
      g.data.sock.toGamesvr ++ [k.answerTo req g.data.db] := by
    rw [DataSvr.sendMsg_toGamesvr, if_pos ⟨by simp only [pkgBufSize]; omega, hzmq⟩]
  generalize hc : ({ g.data.clients client with pipe := (g.data.clients client).pipe - 1 } :
    MysqlClient GamesvrSock) = c at hquery
  have hserves : Serves codec c k req := by
    rw [← hc]
    exact ⟨h.serves.kind, h.serves.cmd, h.serves.sql, h.serves.callback, h.serves.seqId,
      h.serves.playerIdx⟩
  have hloop : (Function.update g.data.clients client c client).threadLoop calls g.data.mgr
      g.data.sock = .ok (g.data.mgr.pushFreeClient c.clientId,
        (g.data.sock.sendMsg codec (k.answerTo req g.data.db)).2) := by
    rw [Function.update_self]
    exact loop_serves hserves hconn hanswer hmade
  have hfinish := hquery.datasvr (e := .finish client) (fun _ h => by cases h)
    (.finish _ client calls _ _ (Function.update_self ..) hloop)
  have hdrop : (g.data.sock.toGamesvr ++ [k.answerTo req g.data.db]).drop
      g.data.sock.toGamesvr.length = [k.answerTo req g.data.db] := List.drop_left
  simp only [afterDatasvr, newResponses, hsend, hdrop, h.work, Option.getD_some, List.map_cons,
    List.map_nil] at hfinish
  have hnext : (g.data.sock.sendMsg codec (k.answerTo req g.data.db)).2.zmq =
      fun k => g.data.sock.zmq (k + 1) := by
    unfold DataSvr.GamesvrSock.sendMsg serializeToArray
    rw [if_pos (by simp only [pkgBufSize]; omega)]
    dsimp only
    rw [if_pos hzmq]
  refine ⟨_, _, hfinish (fun p hp => ?_), rfl, rfl, List.append_ne_nil_of_right_ne_nil _
    (List.cons_ne_nil _ _), hnext⟩
  rcases List.mem_append.mp hp with hp | hp
  · exact hold p hp
  · rw [List.mem_singleton.mp hp]
    exact hres

/-- **A request can be answered**: when a client is free and no call fails, there is a run
in which the request at the head of the queue is answered with what the table says. -/
theorem serve_run {g₀ : GameData} {k : Request} {queue : List Bytes}
    (hrun : Run codec allowed g₀ g) (honce : g.data.Once) (hfree : FreeClient g.data)
    (hinbox : g.data.inbox = codec.serialize .ss req :: queue) (htravels : Travels codec req)
    (hkind : k ≠ .accountVerify) (hcmd : req.head.cmd = k.cmd) (hstrings : StringsFit k req)
    (hzmq : g.data.sock.zmq 0 = true) (hold : ∀ p ∈ g.answers, Travels codec p.2)
    (hres : Travels codec (k.answerTo req g.data.db)) :
    ∃ s' work, Run codec allowed g₀ { g with
        data := s'
        work := work
        answers := g.answers ++ [(req, k.answerTo req g.data.db)] } ∧
      s'.db = ((k.sql req).run g.data.db).2 ∧ s'.inbox = queue ∧ FreeClient s' ∧
      s'.sock.zmq = fun k => g.data.sock.zmq (k + 1) := by
  obtain ⟨client, s', work, hrun', hdb, hqueue, hsock, hwaits⟩ :=
    handed_run hrun honce hfree hinbox htravels hkind hcmd hstrings hold
  rw [← hdb] at hres ⊢
  rw [← hsock] at hzmq ⊢
  obtain ⟨s'', work', hrun'', hdb', hinbox', hfree', hzmq'⟩ :=
    hwaits.answered_run hrun' hzmq hold hres
  exact ⟨s'', work', hrun'', hdb', hinbox'.trans hqueue, Or.inr hfree', hzmq'⟩

/-! ## A queue that nothing happens to -/

/-- The kind of a request, by its command. -/
def kindOf (req : ProtoSs.Msg) : Request :=
  if req.head.cmd = Request.accountReg.cmd then .accountReg
  else if req.head.cmd = Request.getPlayerData.cmd then .getPlayerData
  else if req.head.cmd = Request.setPlayerData.cmd then .setPlayerData
  else .accountVerify

theorem kindOf_eq {k : Request} (h : req.head.cmd = k.cmd) : kindOf req = k := by
  unfold kindOf
  rw [h]
  cases k with
  | accountReg | accountVerify | getPlayerData | setPlayerData => rfl

/-- The requests answered one after the other, each with what the table says then; and the
table afterwards. -/
def serveAll : SgData → List ProtoSs.Msg → List (ProtoSs.Msg × ProtoSs.Msg) × SgData
  | db, [] => ([], db)
  | db, req :: reqs =>
      let k := kindOf req
      let (answers, db') := serveAll ((k.sql req).run db).2 reqs
      ((req, k.answerTo req db) :: answers, db')

/-- **The request at the head of the queue** of a run can be answered. -/
theorem head_run {g₀ : GameData} (hcodec : codec.WritesStrings)
    (hstart : g₀.Started size start db) (hroomy : ∀ b i, allowed b i → b.Roomy i)
    (hrun : Run codec allowed g₀ g) (hfree : FreeClient g.data)
    (hzmq : ∀ n, g.data.sock.zmq n = true) {bytes : Bytes} {queue : List Bytes}
    (hinbox : g.data.inbox = bytes :: queue) (hparse : codec.parseFromArray .ss bytes = some req)
    (hres : Travels codec ((kindOf req).answerTo req g.data.db)) :
    ∃ s' work, Run codec allowed g₀ { g with
        data := s'
        work := work
        answers := g.answers ++ [(req, (kindOf req).answerTo req g.data.db)] } ∧
      s'.db = (((kindOf req).sql req).run g.data.db).2 ∧ s'.inbox = queue ∧ FreeClient s' ∧
      ∀ n, s'.sock.zmq n = true := by
  obtain ⟨-, -, hok⟩ := run_backend hstart hroomy hrun
  obtain ⟨req', hgame, htravels, hbytes⟩ := hok.queue bytes (hinbox ▸ List.mem_cons_self)
  rw [hbytes, htravels.parses, Option.some.injEq] at hparse
  subst hparse
  obtain ⟨k, hkind, hcmd⟩ := kind_of_gameRequest hgame
  rw [kindOf_eq hcmd] at hres ⊢
  obtain ⟨s', work, hrun', hdb, hqueue, hfree', hzmq'⟩ :=
    serve_run hrun hok.once hfree (hbytes ▸ hinbox) htravels hkind hcmd
      (stringsFit_of_gameRequest hcodec hgame htravels hcmd) (hzmq 0)
      (fun p hp => (hok.answers p hp).2) hres
  refine ⟨s', work, hrun', hdb, hqueue, hfree', fun n => ?_⟩
  rw [hzmq']
  exact hzmq (n + 1)

/-- **The queue can be emptied**: from every state of a run in which a client is free, when no
call fails from then on and the responses travel, there is a run in which all requests in the
queue are answered, one after the other, each with what the table says after those before it. -/
theorem queue_drained {g₀ : GameData} (hcodec : codec.WritesStrings)
    (hstart : g₀.Started size start db) (hrun : Run codec Backend.Roomy g₀ g)
    (hfree : FreeClient g.data) (hzmq : ∀ n, g.data.sock.zmq n = true)
    (hres : ∀ p ∈ (serveAll g.data.db (g.queued codec)).1, Travels codec p.2) :
    ∃ s' work, Run codec Backend.Roomy g₀ { g with
        data := s'
        work := work
        answers := g.answers ++ (serveAll g.data.db (g.queued codec)).1 } ∧
      s'.db = (serveAll g.data.db (g.queued codec)).2 ∧ s'.inbox = [] := by
  -- induction on the queue; the table and the answers grow with every request
  generalize hqueue : g.data.inbox = inbox
  induction inbox generalizing g with
  | nil =>
      have hnone : g.queued codec = [] := by
        unfold queued
        rw [hqueue]
        rfl
      refine ⟨g.data, g.work, ?_, ?_, hqueue⟩
      · rw [hnone, serveAll, List.append_nil]
        exact hrun
      · rw [hnone]
        rfl
  | cons bytes queue ih =>
      obtain ⟨-, -, hok⟩ := run_backend hstart (fun _ _ h => h) hrun
      obtain ⟨req, -, htravels, hbytes⟩ := hok.queue bytes (hqueue ▸ List.mem_cons_self)
      have hparse : codec.parseFromArray .ss bytes = some req := hbytes ▸ htravels.parses
      have hsplit : g.queued codec = req :: queue.filterMap (codec.parseFromArray .ss) := by
        unfold queued
        rw [hqueue, List.filterMap_cons_some hparse]
      rw [hsplit] at hres ⊢
      obtain ⟨s', work, hrun', hdb, hinbox, hfree', hzmq'⟩ :=
        head_run hcodec hstart (fun _ _ h => h) hrun hfree hzmq hqueue hparse
          (hres _ List.mem_cons_self)
      have hrest : ∀ answers, GameData.queued codec
          { g with data := s', work := work, answers := answers } =
          queue.filterMap (codec.parseFromArray .ss) := by
        intro answers
        unfold queued
        rw [hinbox]
      obtain ⟨s'', work', hrun'', hdb', hinbox'⟩ := ih hrun' hfree' hzmq'
        (by rw [hrest, hdb]; exact fun p hp => hres p (List.mem_cons_of_mem _ hp)) hinbox
      rw [hrest, hdb] at hrun'' hdb'
      refine ⟨s'', work', ?_, hdb', hinbox'⟩
      rw [List.append_assoc] at hrun''
      exact hrun''

end

/-! ## A small deployment -/

/-- The generated code for some messages of clients, and for some requests and responses;
the responses have the even commands. -/
def bothCodec (cs : List (Bytes × ProtoCs.Msg)) (ss : List (Bytes × ProtoSs.Msg))
    (records : List Database.PlayerData) : Codec :=
  { Wire.codec cs ss records with
    serialize
      | .cs, msg => Wire.csMsg msg
      | .ss, msg => if msg.head.cmd % 2 = 0 then Wire.ssRes msg else Wire.ssMsg msg }

theorem bothCodec_writesStrings {cs : List (Bytes × ProtoCs.Msg)}
    {ss : List (Bytes × ProtoSs.Msg)} {records : List Database.PlayerData} :
    (bothCodec cs ss records).WritesStrings := by
  have hreg : ∀ seq playerIdx uid passwordHash account playerData,
      account.length + playerData.length ≤ (Wire.ssMsg
        (Player.accountRegReq seq playerIdx uid passwordHash account playerData)).length := by
    intro seq playerIdx uid passwordHash account playerData
    have haccount := Wire.le_bytesField_length 3 account
    have hdata := Wire.le_bytesField_length 4 playerData
    have hreq := Wire.le_bytesField_length 11 (Wire.varintField 1 uid.toNat ++
      Wire.varintField 2 passwordHash.toNat ++ Wire.bytesField 3 account ++
      Wire.bytesField 4 playerData)
    simp only [List.length_append] at hreq
    simp only [Wire.ssMsg, Player.accountRegReq, Wire.optionField, List.length_append]
    omega
  refine ⟨fun seq playerIdx uid passwordHash account playerData =>
      (Nat.le_add_right ..).trans (hreg seq playerIdx uid passwordHash account playerData),
    fun seq playerIdx uid passwordHash account playerData =>
      (Nat.le_add_left ..).trans (hreg seq playerIdx uid passwordHash account playerData),
    fun seq playerIdx uid playerData => ?_⟩
  show _ ≤ (Wire.ssMsg (Player.setPlayerDataReq seq playerIdx uid playerData)).length
  have hdata := Wire.le_bytesField_length 2 playerData
  have hreq := Wire.le_bytesField_length 21 (Wire.varintField 1 uid.toNat ++
    Wire.bytesField 2 playerData)
  rw [List.length_append] at hreq
  simp only [Wire.ssMsg, Player.setPlayerDataReq, Wire.optionField, List.length_append]
  omega

/-- gamesvr with room for two players, datasvr with one client of the database, and a table. -/
def fresh (db : SgData) : GameData where
  front := Backend.fresh 2
  data := Server.start ⟨[0], [0]⟩ (fun _ => true) db
  work := fun _ => none
  answers := []
  sent := []

theorem fresh_started (db : SgData) : (fresh db).Started 4 7 db where
  front := Backend.fresh_started 2
  data := ⟨1, fun _ => ⟨true, true, true, true, true⟩, fun _ => true, ⟨[0], [0]⟩, fun _ => true,
    rfl, rfl⟩
  work := rfl
  answers := rfl
  sent := rfl

section
open Backend (loginReq credentials theUid calm firstReq)

/-- The first client connects and sends a message. -/
def hello (msg : ProtoCs.Msg) : BackendInput :=
  .connsvr ⟨⟨5, 0, .connStart⟩, Wire.csMsg msg⟩ calm

/-- gamesvr, once it has made its request. -/
def asking (codec : Codec) (msg : ProtoCs.Msg) : Backend :=
  ((Backend.fresh 2).after codec (hello msg)).1

/-- The request is in the queue of datasvr. -/
def asked (codec : Codec) (front : Backend) (db : SgData) (req : ProtoSs.Msg) : GameData :=
  { fresh db with
    front := front
    data := { (fresh db).data with inbox := [codec.serialize .ss req] }
    sent := [req] }

/-- datasvr has answered it. -/
def answered (front : Backend) (req res : ProtoSs.Msg) (s' : Server SgData)
    (work : Nat → Option ProtoSs.Msg) : GameData where
  front := front
  data := s'
  work := work
  answers := [(req, res)]
  sent := [req]

/-- The message of the first client makes gamesvr send a request, which datasvr can answer. -/
structure FirstClient (codec : Codec) (db : SgData) (msg : ProtoCs.Msg) (k : Request)
    (req : ProtoSs.Msg) : Prop where
  steps : (Backend.fresh 2).steps codec (hello msg) = true
  asks : ((Backend.fresh 2).after codec (hello msg)).2.toDatasvr = [req]
  request : Travels codec req
  response : Travels codec (k.answerTo req db)
  kind : k ≠ .accountVerify
  cmd : req.head.cmd = k.cmd
  strings : DataSvr.StringsFit k req

namespace FirstClient

variable {codec : Codec} {db : SgData} {msg : ProtoCs.Msg} {k : Request} {req : ProtoSs.Msg}
  {allowed : Backend → BackendInput → Prop} {g₀ : GameData} {front : Backend}

theorem step_asked (h : FirstClient codec db msg k req) :
    Step codec (fresh db) (.connsvr ⟨⟨5, 0, .connStart⟩, Wire.csMsg msg⟩ calm)
      (asked codec (asking codec msg) db req) ((Backend.fresh 2).after codec (hello msg)).2 := by
  have hout := h.asks
  have hstep : Step codec (fresh db) (.connsvr ⟨⟨5, 0, .connStart⟩, Wire.csMsg msg⟩ calm)
      ((fresh db).afterGame codec (asking codec msg) ((Backend.fresh 2).after codec (hello msg)).2)
      ((Backend.fresh 2).after codec (hello msg)).2 :=
    .connsvr _ _ _ _ (Backend.step_after h.steps)
  generalize ((Backend.fresh 2).after codec (hello msg)).2 = out at hstep hout ⊢
  simp only [afterGame, hout] at hstep
  exact hstep

theorem meets_asked (h : FirstClient codec db msg k req)
    (hallowed : allowed (Backend.fresh 2) (hello msg)) :
    Meets codec allowed (fresh db) (.connsvr ⟨⟨5, 0, .connStart⟩, Wire.csMsg msg⟩ calm)
      (asked codec (asking codec msg) db req)
      ((Backend.fresh 2).after codec (hello msg)).2 := by
  refine ⟨fun i' hi => ?_, ?_, fun _ h => absurd h List.not_mem_nil⟩
  · cases hi
    exact hallowed
  · rw [h.asks]
    exact fun req' hreq' => (List.mem_singleton.mp hreq') ▸ h.request

theorem run_asked (h : FirstClient codec db msg k req)
    (hallowed : allowed (Backend.fresh 2) (hello msg)) :
    Run codec allowed (fresh db) (asked codec (asking codec msg) db req) :=
  .step _ .start h.step_asked (h.meets_asked hallowed)

theorem run_served (h : FirstClient codec db msg k req)
    (hrun : Run codec allowed g₀ (asked codec front db req)) :
    ∃ s' work, Run codec allowed g₀ (answered front req (k.answerTo req db) s' work) ∧
      s'.db = ((k.sql req).run db).2 := by
  have honce : (asked codec front db req).data.Once :=
    ((fresh_started db).ok : (fresh db).Ok codec).once
  obtain ⟨s', work, hrun', hdb, -⟩ := serve_run hrun honce (Or.inr (List.cons_ne_nil _ _)) rfl
    h.request h.kind h.cmd h.strings rfl (fun _ h => absurd h List.not_mem_nil) h.response
  exact ⟨s', work, hrun', hdb⟩

theorem run_answered (h : FirstClient codec db msg k req)
    (hallowed : allowed (Backend.fresh 2) (hello msg)) :
    ∃ s' work, Run codec allowed (fresh db)
      (answered (asking codec msg) req (k.answerTo req db) s' work) ∧
      s'.db = ((k.sql req).run db).2 :=
  h.run_served (h.run_asked hallowed)

end FirstClient

/-- gamesvr takes the answer. -/
def reply (codec : Codec) (req res : ProtoSs.Msg) : BackendInput :=
  .datasvr req (codec.serialize .ss res) calm

/-- gamesvr, once it has taken it, and what it has sent. -/
def replied (codec : Codec) (msg : ProtoCs.Msg) (req res : ProtoSs.Msg) : Backend × GameOut :=
  (asking codec msg).after codec (reply codec req res)

/-- The state then. -/
def settled (codec : Codec) (s' : Server SgData) (work : Nat → Option ProtoSs.Msg)
    (req : ProtoSs.Msg) (r : Backend × GameOut) : GameData where
  front := r.1
  data := { s' with inbox := s'.inbox ++ r.2.toDatasvr.map (codec.serialize .ss) }
  work := work
  answers := []
  sent := [req] ++ r.2.toDatasvr

section
variable {codec : Codec} {front : Backend} {r : Backend × GameOut} {req res : ProtoSs.Msg}
  {s' : Server SgData} {work : Nat → Option ProtoSs.Msg}
  {allowed : Backend → BackendInput → Prop}

theorem step_answered (hstep : front.step codec (reply codec req res) = .ok (some (r.1, r.2))) :
    Step codec (answered front req res s' work) (.answer calm) (settled codec s' work req r) r.2 :=
  .answer calm req res [] r.1 r.2 rfl hstep

theorem meets_answered (hallowed : allowed front (reply codec req res))
    (hout : r.2.toDatasvr = []) :
    Meets codec allowed (answered front req res s' work) (.answer calm)
      (settled codec s' work req r) r.2 where
  front i' hi := by
    cases hi
    exact hallowed
  requests := by
    rw [hout]
    exact fun _ h => absurd h List.not_mem_nil
  responses _ h := absurd h List.not_mem_nil

end

/-- The table with the account of the client that logs in. -/
def oneAccount : SgData :=
  Finmap.singleton theUid ⟨Utils.fnv64aHash credentials.password, some credentials.account,
    Wire.playerData {}⟩

/-- The response with its data. -/
def firstRes : ProtoSs.Msg := Request.getPlayerData.answerTo firstReq oneAccount

/-- The generated code for this login. -/
def accountCodec : Codec :=
  bothCodec [(Wire.csMsg loginReq, loginReq)]
    [(Wire.ssMsg firstReq, firstReq), (Wire.ssRes firstRes, firstRes)]
    [{}, Player.newPlayerData, { Player.newPlayerData with cityList := [{}] }]

theorem firstLogin : FirstClient accountCodec oneAccount loginReq .getPlayerData firstReq where
  steps := by decide +kernel
  asks := by decide +kernel
  request := ⟨by decide +kernel, by decide +kernel, by decide +kernel⟩
  response := ⟨by decide +kernel, by decide +kernel, by decide +kernel⟩
  kind := by decide
  cmd := rfl
  strings := trivial

/-- The client has connected and logged in, and datasvr has found its account. -/
abbrev found : Server SgData → (Nat → Option ProtoSs.Msg) → GameData :=
  answered (asking accountCodec loginReq) firstReq firstRes

/-- The login is in the queue, and it is answered with the data of the account. -/
theorem queue_drained_login : ∃ s' work,
    Run accountCodec Backend.Roomy (fresh oneAccount) (found s' work) ∧ s'.db = oneAccount ∧
      s'.inbox = [] := by
  have hrun : Run accountCodec Backend.Roomy (fresh oneAccount)
      (asked accountCodec (asking accountCodec loginReq) oneAccount firstReq) :=
    firstLogin.run_asked ⟨by decide, by decide⟩
  generalize hfound : asking accountCodec loginReq = front at hrun
  have hqueued : (asked accountCodec front oneAccount firstReq).queued accountCodec = [firstReq] :=
    List.filterMap_cons_some firstLogin.request.parses
  have hcodec : accountCodec.WritesStrings := bothCodec_writesStrings
  obtain ⟨s', work, hrun', hdb, hinbox⟩ := queue_drained hcodec
    (fresh_started oneAccount) hrun (Or.inr (List.cons_ne_nil _ _)) (fun _ => rfl) (by
      rw [hqueued]
      intro p hp
      rw [List.mem_singleton.mp hp]
      exact firstLogin.response)
  rw [hqueued] at hrun' hdb
  refine ⟨s', work, ?_, hdb, hinbox⟩
  rw [found, hfound]
  exact hrun'

end

end GameData

end PlayFrame
