/-
# `PlayFrame.System.GameData` — gamesvr and datasvr together

gamesvr with its instances, datasvr with the threads of its clients, the table, and the pair
of ZeroMQ sockets between the two servers, which delivers in order.  The messages of connsvr
are any.  Every step of either server may come between two steps of the other, and any call
of MySQL may fail (`Flaky`).

`work`, `answers` and `sent` are not in the source: the request that a client of the database
has and has not answered, the responses on their way with the requests they answer, and all
requests that gamesvr has sent.

`GameData.run_backend`: whatever the threads and MySQL do, datasvr answers each request once
or never, with the number and the player of the request.  It is what `Backend` assumes of
its peer, so all that holds in the runs of a `Backend` holds here.
-/
import PlayFrame.GameSvr.Asks
import PlayFrame.DataSvr.Order
import PlayFrame.DataSvr.Durable
import PlayFrame.Lib.Workers

namespace PlayFrame

open DataSvr (Server Request SgData Sql GamesvrSock Flaky readSql)

/-- gamesvr, datasvr, the table and the messages between the servers, the oldest first. -/
structure GameData where
  front : Backend
  data : Server SgData
  work : Nat → Option ProtoSs.Msg
  answers : List (ProtoSs.Msg × ProtoSs.Msg)
  sent : List ProtoSs.Msg

/-- What happens next. -/
inductive GameDataInput where
  /-- gamesvr takes a message of connsvr -/
  | connsvr (msg : ConnMsg) (ret : GameRet)
  /-- gamesvr takes the next response of datasvr -/
  | answer (ret : GameRet)
  /-- `LogicModule::Update` -/
  | update (now : TimeValue)
  /-- datasvr or one of its threads goes on -/
  | datasvr (e : Server.Event)

namespace GameData

/-! ## One step -/

section
variable (codec : Codec)

/-- The requests that datasvr has not taken yet. -/
def queued (g : GameData) : List ProtoSs.Msg :=
  g.data.inbox.filterMap (codec.parseFromArray .ss)

/-- The requests on their way: in the queue, with a client of the database, or answered. -/
def inFlight (g : GameData) : Multiset ProtoSs.Msg :=
  (g.queued codec : Multiset ProtoSs.Msg) + Lib.jobs g.work g.data.mgr.totalClientList +
    (g.answers.map Prod.fst : List ProtoSs.Msg)

/-- After a step of gamesvr. -/
def afterGame (g : GameData) (front : Backend) (out : GameOut) : GameData :=
  { g with
    front := front
    data := { g.data with inbox := g.data.inbox ++ out.toDatasvr.map (codec.serialize .ss) }
    sent := g.sent ++ out.toDatasvr }

/-- The responses that datasvr sends in a step. -/
def newResponses (s s' : Server SgData) : List ProtoSs.Msg :=
  s'.sock.toGamesvr.drop s.sock.toGamesvr.length

/-- After a step of datasvr. -/
def afterDatasvr (g : GameData) (e : Server.Event) (s' : Server SgData) : GameData :=
  match e with
  | .recv =>
      match g.data.held with
      | none => { g with data := s' }
      | some client =>
          let next := g.data.inbox.head?.bind (codec.parseFromArray .ss)
          { g with data := s', work := Function.update g.work client next }
  | .finish client =>
      { g with
        data := s'
        work := Function.update g.work client none
        answers := g.answers ++
          (newResponses g.data s').map (fun res => ((g.work client).getD {}, res)) }
  | _ => { g with data := s' }

/-- The steps. -/
inductive Step (g : GameData) : GameDataInput → GameData → GameOut → Prop
  | connsvr (msg : ConnMsg) (ret : GameRet) (front : Backend) (out : GameOut) :
      g.front.step codec (.connsvr msg ret) = .ok (some (front, out)) →
      Step g (.connsvr msg ret) (g.afterGame codec front out) out
  | answer (ret : GameRet) (req res : ProtoSs.Msg) (rest : List (ProtoSs.Msg × ProtoSs.Msg))
      (front : Backend) (out : GameOut) : g.answers = (req, res) :: rest →
      g.front.step codec (.datasvr req (codec.serialize .ss res) ret) = .ok (some (front, out)) →
      Step g (.answer ret) ({ g with answers := rest }.afterGame codec front out) out
  | update (now : TimeValue) (front : Backend) (out : GameOut) :
      g.front.step codec (.update now) = .ok (some (front, out)) →
      Step g (.update now) (g.afterGame codec front out) out
  | datasvr (e : Server.Event) (s' : Server SgData) : (∀ msg, e ≠ .send msg) →
      Server.Step codec Flaky g.data e s' →
      Step g (.datasvr e) (g.afterDatasvr codec e s') ⟨[], [], []⟩

/-! ## Runs -/

/-- A message that its receiver sees as it was sent: it is not ignored, it is copied whole,
and it is parsed back. -/
structure Travels (msg : ProtoSs.Msg) : Prop where
  pos : 0 < (codec.serialize .ss msg).length
  fits : (codec.serialize .ss msg).length ≤ 1024
  parses : codec.parseFromArray .ss (codec.serialize .ss msg) = some msg

/-- What gamesvr takes, if it is its turn. -/
def frontInput (g : GameData) : GameDataInput → Option BackendInput
  | .connsvr msg ret => some (.connsvr msg ret)
  | .answer ret => g.answers.head?.map (fun p => .datasvr p.1 (codec.serialize .ss p.2) ret)
  | .update now => some (.update now)
  | .datasvr _ => none

/-- The condition on a step: gamesvr does what is `allowed`, and what is sent is seen as it was
sent. -/
structure Meets (allowed : Backend → BackendInput → Prop) (g : GameData) (i : GameDataInput)
    (g' : GameData) (out : GameOut) : Prop where
  front : ∀ i', g.frontInput codec i = some i' → allowed g.front i'
  requests : ∀ req ∈ out.toDatasvr, Travels codec req
  responses : ∀ p ∈ g'.answers, Travels codec p.2

/-- The states that a run reaches from `start`. -/
inductive Run (allowed : Backend → BackendInput → Prop) (start : GameData) : GameData → Prop
  | start : Run allowed start start
  | step {g g' : GameData} {out : GameOut} (i : GameDataInput) : Run allowed start g →
      Step codec g i g' out → Meets codec allowed g i g' out → Run allowed start g'

end

/-- Both servers have just been started. -/
structure Started (size : Nat) (start : Int) (db : SgData) (g : GameData) : Prop where
  front : g.front.Started size start
  data : ∃ (maxClientCount : Int) (calls : Nat → ConnectCalls) (pipe : Nat → Bool)
    (mgr : MysqlMgr) (zmq : Nat → Bool), MysqlMgr.init maxClientCount calls pipe = .ok mgr ∧
    g.data = Server.start mgr zmq db
  work : g.work = fun _ => none
  answers : g.answers = []
  sent : g.sent = []

/-! ## What a step of datasvr does -/

/-- A client of the database has a statement to execute, or is in a round. -/
def Busy (s : Server SgData) (client : Nat) : Prop :=
  0 < (s.clients client).pipe ∨ s.threads client ≠ none

/-- A client has been given the statement and the callback of a request. -/
structure Serves (codec : Codec) (c : MysqlClient GamesvrSock) (k : Request)
    (req : ProtoSs.Msg) : Prop where
  kind : k ≠ .accountVerify
  cmd : req.head.cmd = k.cmd
  sql : readSql c.sql = some (k.sql req)
  callback : c.callback = some (k.mysqlRes codec)
  seqId : c.seqId = req.head.seq
  playerIdx : c.playerIdx = req.head.playerIdx

theorem kind_of_gameRequest {codec : Codec} {req : ProtoSs.Msg} (h : GameRequest codec req) :
    ∃ k : Request, k ≠ .accountVerify ∧ req.head.cmd = k.cmd := by
  cases h with
  | getPlayerData seq playerIdx uid passwordHash => exact ⟨.getPlayerData, by decide, rfl⟩
  | setPlayerData seq playerIdx uid playerData => exact ⟨.setPlayerData, by decide, rfl⟩
  | accountReg seq playerIdx uid passwordHash account =>
      exact ⟨.accountReg, by decide, rfl⟩

theorem cmd_inj {k k' : Request} (h : k.cmd = k'.cmd) : k = k' := by
  revert h
  cases k <;> cases k' <;> decide

/-- The requests that datasvr has not taken are as gamesvr has sent them. -/
def Queue (codec : Codec) (s : Server SgData) : Prop :=
  ∀ bytes ∈ s.inbox, ∃ req, GameRequest codec req ∧ Travels codec req ∧
    bytes = codec.serialize .ss req

/-- Who is busy has a request. -/
def Working (codec : Codec) (s : Server SgData) (work : Nat → Option ProtoSs.Msg) : Prop :=
  ∀ client, Busy s client → ∃ req k, work client = some req ∧ Serves codec (s.clients client) k req

/-- The response that the round of a client ends with. -/
def Responds (s : Server SgData) (client : Nat) (req : ProtoSs.Msg) (k : Request)
    (res : ProtoSs.Msg) : Prop :=
  ∃ calls result flags, s.threads client = some calls ∧ calls.Connected ∧
    calls.answer = some (result, flags) ∧
    k.response result flags req.head.seq req.head.playerIdx = .ok res

/-- What one step of datasvr does to the requests that are `work`. -/
inductive DataMoves (codec : Codec) (s : Server SgData) (work : Nat → Option ProtoSs.Msg) :
    Server.Event → Server SgData → Prop
  /-- a client is taken from the list or given back -/
  | idle (e : Server.Event) (s' : Server SgData) :
      (e = .popFree ∨ e = .recv ∧ s.inbox = []) → s'.inbox = s.inbox → s'.clients = s.clients →
      s'.threads = s.threads → s'.sock = s.sock → s'.db = s.db → DataMoves codec s work e s'
  /-- a request is handed to a client -/
  | handed (client : Nat) (req : ProtoSs.Msg) (k : Request) (rest : List Bytes)
      (c : MysqlClient GamesvrSock) (s' : Server SgData) : s.held = some client →
      ¬ Busy s client → s.inbox = codec.serialize .ss req :: rest → Travels codec req →
      Serves codec c k req → s'.inbox = rest → s'.clients = Function.update s.clients client c →
      s'.threads = s.threads → s'.sock = s.sock → s'.db = s.db → DataMoves codec s work .recv s'
  /-- a thread runs the statement of its request -/
  | ran (client : Nat) (calls : MysqlCalls) (req : ProtoSs.Msg) (k : Request)
      (c : MysqlClient GamesvrSock) (s' : Server SgData) : Busy s client →
      work client = some req → Serves codec (s.clients client) k req →
      Serves codec c k req → Flaky (s.clients client).sql s.db calls s'.db →
      s'.inbox = s.inbox → s'.clients = Function.update s.clients client c →
      s'.threads = Function.update s.threads client (some calls) → s'.sock = s.sock →
      DataMoves codec s work (.query client calls) s'
  /-- a round comes to its end -/
  | finished (client : Nat) (req : ProtoSs.Msg) (k : Request) (res : Option ProtoSs.Msg)
      (s' : Server SgData) : 0 < s.places client → work client = some req →
      Serves codec (s.clients client) k req → (∀ m ∈ res, Responds s client req k m) →
      s'.inbox = s.inbox → s'.clients = s.clients →
      s'.threads = Function.update s.threads client none →
      s'.sock.toGamesvr = s.sock.toGamesvr ++ res.toList → s'.db = s.db →
      (s'.clients client).pipe = 0 → DataMoves codec s work (.finish client) s'

section
variable {codec : Codec} {s s' : Server SgData} {e : Server.Event} {client : Nat}
  {work : Nat → Option ProtoSs.Msg} {req : ProtoSs.Msg} {k : Request}

theorem Travels.whole (h : Travels codec req) {l : Link} (buf : Nat → UInt8)
    (hl : l = .gamesvrToDatasvr ∨ l = .datasvrToGamesvr) :
    (l.receive buf (codec.serialize .ss req)).2 = .ok (some (codec.serialize .ss req)) := by
  have hpos := h.pos
  have hfits := h.fits
  have hwhole : l.leastSize ≤ l.headerSize + (codec.serialize .ss req).length →
      l.headerSize + (codec.serialize .ss req).length ≤ l.recvLimit →
      l.headerSize + (codec.serialize .ss req).length ≤ pkgBufSize →
      (l.receive buf (l.wire ⟨0, 0, .connProc⟩ (codec.serialize .ss req))).2 =
        .ok (some (codec.serialize .ss req)) := Link.receive_whole
  rcases hl with rfl | rfl
  · simp only [Link.leastSize, Link.headerSize, Link.recvLimit, pkgBufSize, Nat.zero_add] at hwhole
    exact hwhole hpos hfits (by omega)
  · simp only [Link.leastSize, Link.headerSize, Link.recvLimit, pkgBufSize, Nat.zero_add] at hwhole
    exact hwhole hpos hfits (by omega)

theorem Travels.received (h : Travels codec req) :
    s.received (codec.serialize .ss req) = .ok (some (codec.serialize .ss req)) :=
  h.whole s.buf (Or.inl rfl)

theorem Travels.answerMsg (h : Travels codec req) (game : GameSvr) :
    game.answerMsg codec (codec.serialize .ss req) = some req := by
  unfold GameSvr.answerMsg
  rw [h.whole game.buf (Or.inr rfl)]
  exact h.parses

theorem not_busy_of_held (honce : s.Once) (h : s.held = some client) : ¬ Busy s client := by
  have hplaces := honce client
  unfold Server.places at hplaces
  rw [if_pos h] at hplaces
  rintro (hpipe | hthread)
  · omega
  · rw [if_pos (Option.isSome_iff_ne_none.mpr hthread)] at hplaces
    omega

theorem serves_processed {text : Bytes} {c : MysqlClient GamesvrSock} (hkind : k ≠ .accountVerify)
    (hcmd : req.head.cmd = k.cmd) (htext : readSql text = some (k.sql req)) :
    Serves codec (c.process text (k.mysqlRes codec) req.head.seq req.head.playerIdx) k req :=
  ⟨hkind, hcmd, htext, rfl, rfl, rfl⟩

/-- **A message is taken** by the client that `Run` holds: it is a request, and the client
has nothing else to do. -/
theorem handed_of_recv {rest : List Bytes} (honce : s.Once) (hheld : s.held = some client)
    (hinbox : s.inbox = codec.serialize .ss req :: rest) (hreq : GameRequest codec req)
    (htravels : Travels codec req)
    (hrun : Server.onMsg codec client (codec.serialize .ss req) { s with inbox := rest } = .ok s') :
    DataMoves codec s work .recv s' := by
  have hreceived : ({ s with inbox := rest } : Server SgData).received (codec.serialize .ss req) =
      .ok (some (codec.serialize .ss req)) := htravels.received
  obtain ⟨k, hkind, hcmd⟩ := kind_of_gameRequest hreq
  rcases Server.onMsg_cases hrun with ⟨hr, -⟩ | ⟨pkg, hr, -, k', m, hm, hcmd', ⟨r, hon⟩, hs'⟩ |
      ⟨pkg, hr, hnot, -⟩
  · rw [hreceived] at hr
    cases hr
  · rw [hreceived, Except.ok.injEq, Option.some.injEq] at hr
    subst hr
    rw [htravels.parses, Option.some.injEq] at hm
    subst hm
    obtain rfl : k' = k := cmd_inj (hcmd'.symm.trans hcmd)
    obtain ⟨text, htext, hclients⟩ := Request.onReq_spec hon
    rw [hs']
    exact .handed client _ k' rest _ _ hheld (not_busy_of_held honce hheld) hinbox htravels
      (serves_processed hkind hcmd htext) rfl hclients rfl rfl rfl
  · rw [hreceived, Except.ok.injEq, Option.some.injEq] at hr
    subst hr
    exact absurd ⟨k, req, htravels.parses, hcmd⟩ hnot

/-- **A round comes to its end**: it sends one response or none. -/
theorem finished_of_loop (honce : s.Once) (hwork : Working codec s work) {calls : MysqlCalls}
    {mgr : MysqlMgr} {sock : GamesvrSock} (hround : s.threads client = some calls)
    (hloop : (s.clients client).threadLoop calls s.mgr s.sock = .ok (mgr, sock)) :
    DataMoves codec s work (.finish client)
      { s with
        threads := Function.update s.threads client none
        mgr := mgr
        sock := sock } := by
  have hthread : s.threads client ≠ none := by
    rw [hround]
    exact Option.some_ne_none _
  obtain ⟨req, k, hreq, hserves⟩ := hwork client (Or.inr hthread)
  have hplaces := honce client
  unfold Server.places at hplaces
  rw [hround, if_pos Option.isSome_some] at hplaces
  have hpos : 0 < s.places client := by
    unfold Server.places
    rw [hround, if_pos Option.isSome_some]
    omega
  have hpipe : (s.clients client).pipe = 0 := by omega
  have hmoves : ∀ res : Option ProtoSs.Msg, (∀ m ∈ res, Responds s client req k m) →
      sock.toGamesvr = s.sock.toGamesvr ++ res.toList →
      DataMoves codec s work (.finish client)
        { s with
          threads := Function.update s.threads client none
          mgr := mgr
          sock := sock } := fun res hres hsock =>
    .finished client req k res _ hpos hreq hserves hres rfl rfl rfl hsock rfl hpipe
  by_cases hconn : calls.Connected
  swap
  · rw [MysqlClient.threadLoop_lost hconn, Except.ok.injEq, Prod.mk.injEq] at hloop
    refine hmoves none (fun _ h => nomatch h) ?_
    rw [← hloop.2]
    exact (List.append_nil _).symm
  rw [MysqlClient.threadLoop_connected hconn hserves.callback] at hloop
  cases hanswer : calls.answer with
  | none =>
      rw [hanswer] at hloop
      cases hloop
      exact hmoves none (fun _ h => nomatch h) (List.append_nil _).symm
  | some p =>
      obtain ⟨result, flags⟩ := p
      rw [hanswer] at hloop
      obtain ⟨sock', hcall, hloop⟩ := bind_eq_ok.mp hloop
      cases hloop
      obtain ⟨m, hm, hcall⟩ := bind_eq_ok.mp hcall
      cases hcall
      rw [hserves.seqId, hserves.playerIdx] at hm
      have hsent : (s.sock.sendMsg codec m).2.toGamesvr = _ := DataSvr.sendMsg_toGamesvr
      split at hsent
      · refine hmoves (some m) (fun m' hm' => ?_) hsent
        cases hm'
        exact ⟨calls, result, flags, hround, hconn, hanswer, hm⟩
      · exact hmoves none (fun _ h => nomatch h) (hsent.trans (List.append_nil _).symm)

theorem dataMoves (honce : s.Once) (hqueue : Queue codec s) (hwork : Working codec s work)
    (hsend : ∀ msg, e ≠ .send msg) (h : Server.Step codec Flaky s e s') :
    DataMoves codec s work e s' := by
  cases h with
  | send msg => exact absurd rfl (hsend msg)
  | usedUp hheld hpop => exact .idle _ _ (Or.inl rfl) rfl rfl rfl rfl rfl
  | popFree client mgr hheld hpop => exact .idle _ _ (Or.inl rfl) rfl rfl rfl rfl rfl
  | nothing client hheld hempty =>
      exact .idle _ _ (Or.inr ⟨rfl, hempty⟩) rfl rfl rfl rfl rfl
  | recv s' client msg rest hheld hinbox hrun =>
      obtain ⟨req, hreq, htravels, rfl⟩ := hqueue msg (hinbox ▸ List.mem_cons_self)
      exact handed_of_recv honce hheld hinbox hreq htravels hrun
  | query client calls db hidle hpipe hexec =>
      obtain ⟨req, k, hreq, hserves⟩ := hwork client (Or.inl hpipe)
      exact .ran client calls req k
        { s.clients client with pipe := (s.clients client).pipe - 1 } _ (Or.inl hpipe) hreq hserves
        ⟨hserves.kind, hserves.cmd, hserves.sql, hserves.callback, hserves.seqId,
          hserves.playerIdx⟩ hexec rfl rfl rfl rfl
  | finish client calls mgr sock hround hloop => exact finished_of_loop honce hwork hround hloop

theorem busy_congr {i : Nat} (hclients : s'.clients i = s.clients i)
    (hthreads : s'.threads i = s.threads i) : Busy s' i ↔ Busy s i := by
  unfold Busy
  rw [hclients, hthreads]

end

/-! ## What holds in every run -/

/-- The clients of the database serve the requests they have, the responses on their way
answer their requests, and all requests on their way are out for gamesvr. -/
structure Ok (codec : Codec) (g : GameData) : Prop where
  inv : g.data.Inv
  once : g.data.Once
  nodup : g.data.mgr.totalClientList.Nodup
  queue : Queue codec g.data
  working : Working codec g.data g.work
  answers : ∀ p ∈ g.answers, Backend.Answers p.1 p.2 ∧ Travels codec p.2
  inFlight : g.inFlight codec ≤ (g.front.requests : Multiset ProtoSs.Msg)

section
variable {codec : Codec} {g g' : GameData} {s' : Server SgData} {e : Server.Event}
  {front : Backend} {out : GameOut} {req res : ProtoSs.Msg} {client : Nat}
  {size : Nat} {start : Int} {db : SgData} {allowed : Backend → BackendInput → Prop}

theorem Started.ok (h : g.Started size start db) : g.Ok codec := by
  obtain ⟨maxClientCount, calls, pipe, mgr, zmq, hinit, hdata⟩ := h.data
  obtain ⟨hfree, hnodup⟩ := MysqlMgr.init_spec hinit
  obtain ⟨hinv, hcons⟩ : (Server.start mgr zmq db).Inv ∧ (Server.start mgr zmq db).Conserved :=
    Server.start_inv hfree hnodup
  refine ⟨hdata ▸ hinv, fun client => ?_, ?_, ?_, fun client hbusy => ?_, ?_, ?_⟩
  · rw [hdata]
    by_cases hmem : client ∈ mgr.totalClientList
    · exact (hcons client hmem).le
    · exact (hinv.made client hmem).trans_le (Nat.zero_le 1)
  · rw [hdata]
    exact hnodup
  · intro bytes hbytes
    rw [hdata] at hbytes
    exact absurd hbytes List.not_mem_nil
  · rw [hdata] at hbusy
    rcases hbusy with hpipe | hthread
    · exact absurd hpipe (Nat.lt_irrefl 0)
    · exact absurd rfl hthread
  · rw [h.answers]
    exact fun _ h => absurd h List.not_mem_nil
  · unfold inFlight queued
    rw [h.work, h.answers, hdata, Lib.jobs_none]
    exact Multiset.zero_le _

/-! ### Steps of gamesvr -/

theorem queued_afterGame (hout : ∀ req ∈ out.toDatasvr, Travels codec req) :
    (g.afterGame codec front out).queued codec = g.queued codec ++ out.toDatasvr := by
  have hread : (out.toDatasvr.map (codec.serialize .ss)).filterMap (codec.parseFromArray .ss) =
      out.toDatasvr := by
    rw [List.filterMap_map]
    refine (List.filterMap_congr (fun req hreq => ?_)).trans List.filterMap_some
    exact (hout req hreq).parses
  unfold queued afterGame
  rw [List.filterMap_append, hread]

/-- **A step of gamesvr**: it has taken the answer to a request, or nothing, and its new
requests are in the queue. -/
theorem Ok.game (h : g.Ok codec) {rest : List (ProtoSs.Msg × ProtoSs.Msg)}
    {kept : List ProtoSs.Msg} (hrest : ∀ p ∈ rest, p ∈ g.answers)
    (hout : ∀ req ∈ out.toDatasvr, GameRequest codec req ∧ Travels codec req)
    (hfront : front.requests = kept ++ out.toDatasvr)
    (hkept : ({ g with answers := rest } : GameData).inFlight codec ≤ (kept : Multiset _)) :
    (({ g with answers := rest } : GameData).afterGame codec front out).Ok codec := by
  refine ⟨⟨h.inv.ids, h.inv.made⟩, h.once, h.nodup, fun bytes hbytes => ?_, h.working,
    fun p hp => h.answers p (hrest p hp), ?_⟩
  · rcases List.mem_append.mp hbytes with hbytes | hbytes
    · exact h.queue bytes hbytes
    · obtain ⟨req, hreq, rfl⟩ := List.mem_map.mp hbytes
      exact ⟨req, (hout req hreq).1, (hout req hreq).2, rfl⟩
  · unfold GameData.inFlight at hkept ⊢
    rw [queued_afterGame (fun req hreq => (hout req hreq).2)]
    show _ ≤ (front.requests : Multiset ProtoSs.Msg)
    rw [hfront, ← Multiset.coe_add, ← Multiset.coe_add]
    refine le_trans (le_of_eq ?_) (add_le_add_left hkept _)
    simp only [afterGame]
    abel

/-! ### Steps of datasvr -/

theorem step_once {exec : Bytes → SgData → MysqlCalls → SgData → Prop} {s : Server SgData}
    (hinv : s.Inv) (honce : s.Once) (h : Server.Step codec exec s e s') : s'.Once := by
  obtain ⟨lost, hloses, -⟩ := h.loses hinv
  intro client
  have := hloses.places client
  have := honce client
  omega

theorem Ok.idle (h : g.Ok codec) (hinv : s'.Inv) (honce : s'.Once)
    (htotal : s'.mgr.totalClientList = g.data.mgr.totalClientList)
    (hinbox : s'.inbox = g.data.inbox) (hclients : s'.clients = g.data.clients)
    (hthreads : s'.threads = g.data.threads) {work : Nat → Option ProtoSs.Msg}
    (hwork : work = g.work ∨ ∃ client, g.data.held = some client ∧
      work = Function.update g.work client none) :
    ({ g with data := s', work := work } : GameData).Ok codec := by
  have hbusy : ∀ i, Busy s' i → Busy g.data i := fun i =>
    (busy_congr (congrFun hclients i) (congrFun hthreads i)).mp
  refine ⟨hinv, honce, htotal ▸ h.nodup, ?_, fun i hi => ?_, h.answers, ?_⟩
  · intro bytes hbytes
    rw [hinbox] at hbytes
    exact h.queue bytes hbytes
  · obtain ⟨req, k, hreq, hserves⟩ := h.working i (hbusy i hi)
    rw [hclients]
    rcases hwork with rfl | ⟨client, hheld, rfl⟩
    · exact ⟨req, k, hreq, hserves⟩
    · have hne : i ≠ client := by
        rintro rfl
        exact not_busy_of_held h.once hheld (hbusy i hi)
      exact ⟨req, k, (Function.update_of_ne hne ..).trans hreq, hserves⟩
  · refine le_trans ?_ h.inFlight
    unfold GameData.inFlight queued
    rw [htotal, hinbox]
    refine add_le_add_left (add_le_add_right ?_ _) _
    rcases hwork with rfl | ⟨client, hheld, rfl⟩
    · exact le_refl _
    · refine (Lib.jobs_update_le h.nodup).trans (le_of_eq ?_)
      exact add_zero _

theorem Ok.handed (h : g.Ok codec) (hinv : s'.Inv) (honce : s'.Once)
    (htotal : s'.mgr.totalClientList = g.data.mgr.totalClientList) {k : Request}
    {rest : List Bytes} {c : MysqlClient GamesvrSock}
    (hinbox : g.data.inbox = codec.serialize .ss req :: rest) (htravels : Travels codec req)
    (hserves : Serves codec c k req) (hinbox' : s'.inbox = rest)
    (hclients : s'.clients = Function.update g.data.clients client c)
    (hthreads : s'.threads = g.data.threads) :
    ({ g with data := s', work := Function.update g.work client (some req) } : GameData).Ok
      codec := by
  refine ⟨hinv, honce, htotal ▸ h.nodup, ?_, fun i hi => ?_, h.answers, ?_⟩
  · intro bytes hbytes
    rw [hinbox'] at hbytes
    exact h.queue bytes (hinbox ▸ List.mem_cons_of_mem _ hbytes)
  · show ∃ req' k', Function.update g.work client (some req) i = some req' ∧
      Serves codec (s'.clients i) k' req'
    rw [hclients]
    by_cases hne : i = client
    · subst hne
      rw [Function.update_self, Function.update_self]
      exact ⟨req, k, rfl, hserves⟩
    · rw [Function.update_of_ne hne, Function.update_of_ne hne]
      refine h.working i ((busy_congr ?_ (congrFun hthreads i)).mp hi)
      rw [hclients, Function.update_of_ne hne]
  · refine le_trans ?_ h.inFlight
    unfold GameData.inFlight queued
    rw [htotal, hinbox, hinbox', List.filterMap_cons_some htravels.parses, ← Multiset.cons_coe,
      ← Multiset.singleton_add]
    refine add_le_add_left ?_ _
    have hjobs : Lib.jobs (Function.update g.work client (some req)) g.data.mgr.totalClientList ≤
        _ := Lib.jobs_update_le h.nodup
    refine (add_le_add_right hjobs _).trans (le_of_eq ?_)
    show _ + (_ + ({req} : Multiset ProtoSs.Msg)) = _
    abel

theorem Ok.ran (h : g.Ok codec) (hinv : s'.Inv) (honce : s'.Once)
    (htotal : s'.mgr.totalClientList = g.data.mgr.totalClientList) {k : Request}
    {calls : MysqlCalls} {c : MysqlClient GamesvrSock} (hwork : g.work client = some req)
    (hserves : Serves codec c k req) (hinbox : s'.inbox = g.data.inbox)
    (hclients : s'.clients = Function.update g.data.clients client c)
    (hthreads : s'.threads = Function.update g.data.threads client (some calls)) :
    ({ g with data := s' } : GameData).Ok codec := by
  refine ⟨hinv, honce, htotal ▸ h.nodup, ?_, fun i hi => ?_, h.answers, ?_⟩
  · intro bytes hbytes
    rw [hinbox] at hbytes
    exact h.queue bytes hbytes
  · by_cases hne : i = client
    · subst hne
      refine ⟨req, k, hwork, ?_⟩
      rw [hclients, Function.update_self]
      exact hserves
    · have hsame : s'.clients i = g.data.clients i := by
        rw [hclients, Function.update_of_ne hne]
      rw [hsame]
      refine h.working i ((busy_congr hsame ?_).mp hi)
      rw [hthreads, Function.update_of_ne hne]
  · refine le_trans (le_of_eq ?_) h.inFlight
    unfold GameData.inFlight queued
    rw [htotal, hinbox]

theorem answers_of_responds {s : Server SgData} {k : Request} (hkind : k ≠ .accountVerify)
    (hcmd : req.head.cmd = k.cmd) (h : Responds s client req k res) :
    Backend.Answers req res := by
  obtain ⟨calls, result, flags, -, -, -, hres⟩ := h
  obtain ⟨hrescmd, -, hverify | hhead⟩ := Request.response_head hres
  · exact absurd hverify.1 hkind
  · refine ⟨?_, hhead.2⟩
    rw [hrescmd, hcmd]
    cases k with
    | accountReg => rfl
    | accountVerify => rfl
    | getPlayerData => rfl
    | setPlayerData => rfl

theorem Ok.finished (h : g.Ok codec) (hinv : s'.Inv) (honce : s'.Once)
    (htotal : s'.mgr.totalClientList = g.data.mgr.totalClientList) {k : Request}
    {res : Option ProtoSs.Msg} (hplaces : 0 < g.data.places client)
    (hwork : g.work client = some req) (hserves : Serves codec (g.data.clients client) k req)
    (hres : ∀ m ∈ res, Responds g.data client req k m) (hinbox : s'.inbox = g.data.inbox)
    (hclients : s'.clients = g.data.clients)
    (hthreads : s'.threads = Function.update g.data.threads client none)
    (hpipe : (s'.clients client).pipe = 0) (htravels : ∀ m ∈ res, Travels codec m) :
    ({ g with
        data := s'
        work := Function.update g.work client none
        answers := g.answers ++ res.toList.map (fun m => (req, m)) } : GameData).Ok codec := by
  refine ⟨hinv, honce, htotal ▸ h.nodup, ?_, fun i hi => ?_, fun p hp => ?_, ?_⟩
  · intro bytes hbytes
    rw [hinbox] at hbytes
    exact h.queue bytes hbytes
  · by_cases hne : i = client
    · -- it has done what it had to do
      subst hne
      rcases hi with hi | hi
      · exact absurd hi (by rw [hpipe]; exact Nat.lt_irrefl 0)
      · rw [hthreads, Function.update_self] at hi
        exact absurd rfl hi
    · show ∃ req' k', Function.update g.work client none i = some req' ∧
        Serves codec (s'.clients i) k' req'
      rw [Function.update_of_ne hne, hclients]
      refine h.working i ((busy_congr (congrFun hclients i) ?_).mp hi)
      rw [hthreads, Function.update_of_ne hne]
  · rcases List.mem_append.mp hp with hp | hp
    · exact h.answers p hp
    · obtain ⟨m, hm, rfl⟩ := List.mem_map.mp hp
      have hm : m ∈ res := Option.mem_toList.mp hm
      exact ⟨answers_of_responds hserves.kind hserves.cmd (hres m hm), htravels m hm⟩
  · refine le_trans ?_ h.inFlight
    have hmem : client ∈ g.data.mgr.totalClientList := by
      by_contra hnot
      rw [h.inv.made client hnot] at hplaces
      exact Nat.lt_irrefl 0 hplaces
    unfold GameData.inFlight queued
    rw [htotal, hinbox, Lib.jobs_take h.nodup hmem hwork, List.map_append, List.map_map,
      ← Multiset.coe_add]
    have hone : ((res.toList.map (Prod.fst ∘ fun m => (req, m)) : List ProtoSs.Msg) :
        Multiset ProtoSs.Msg) ≤ {req} := by
      cases res with
      | none => exact Multiset.zero_le _
      | some m => exact le_refl _
    refine (add_le_add_right (add_le_add_right hone _) _).trans (le_of_eq ?_)
    abel

theorem Ok.datasvr (h : g.Ok codec) (hsend : ∀ msg, e ≠ .send msg)
    (hstep : Server.Step codec Flaky g.data e s')
    (hresponses : ∀ p ∈ (g.afterDatasvr codec e s').answers, Travels codec p.2) :
    (g.afterDatasvr codec e s').Ok codec := by
  have hinv := h.inv.step hstep
  have honce := step_once h.inv h.once hstep
  obtain ⟨lost, hloses, -⟩ := hstep.loses h.inv
  have htotal := hloses.total
  cases dataMoves h.once h.queue h.working hsend hstep with
  | idle e s' hevent hinbox hclients hthreads hsock hdb =>
      rcases hevent with rfl | ⟨rfl, hempty⟩
      · exact h.idle hinv honce htotal hinbox hclients hthreads (Or.inl rfl)
      · unfold afterDatasvr
        cases hheld : g.data.held with
        | none => exact h.idle hinv honce htotal hinbox hclients hthreads (Or.inl rfl)
        | some client =>
            rw [hempty]
            exact h.idle hinv honce htotal hinbox hclients hthreads
              (Or.inr ⟨client, hheld, rfl⟩)
  | handed client req k rest c s' hheld hidle hinbox htravels hserves hinbox' hclients hthreads =>
      have hnext : g.data.inbox.head?.bind (codec.parseFromArray .ss) = some req := by
        rw [hinbox]
        exact htravels.parses
      simp only [afterDatasvr, hheld, hnext]
      exact h.handed hinv honce htotal hinbox htravels hserves hinbox' hclients hthreads
  | ran client calls req k c s' hbusy hwork hserves hserves' hflaky hinbox hclients hthreads =>
      exact h.ran hinv honce htotal hwork hserves' hinbox hclients hthreads
  | finished client req k res s' hplaces hwork hserves hres hinbox hclients hthreads hsock hdb
      hpipe =>
      have hnew : newResponses g.data s' = res.toList := by
        unfold newResponses
        rw [hsock, List.drop_left]
      simp only [afterDatasvr, hnew, hwork, Option.getD_some] at hresponses ⊢
      refine h.finished hinv honce htotal hplaces hwork hserves hres hinbox hclients hthreads hpipe
        (fun m hm => hresponses (req, m) (List.mem_append_right _ ?_))
      exact List.mem_map.mpr ⟨m, Option.mem_toList.mpr hm, rfl⟩

/-- What a step is for gamesvr: it has nothing to do with it, or is one of its own, possible
for a `Backend`. -/
def FrontStep (codec : Codec) (allowed : Backend → BackendInput → Prop) (g : GameData)
    (i : GameDataInput) (g' : GameData) (out : GameOut) : Prop :=
  (g'.front = g.front ∧ out = ⟨[], [], []⟩) ∨
    ∃ i', g.frontInput codec i = some i' ∧ g.front.Possible codec i' ∧ allowed g.front i' ∧
      g.front.step codec i' = .ok (some (g'.front, out)) ∧
      Backend.Moves codec g.front i' g'.front out

theorem Ok.request (h : g.Ok codec) (hmem : (req, res) ∈ g.answers) : req ∈ g.front.requests := by
  have hflight : req ∈ g.inFlight codec :=
    Multiset.mem_add.mpr (Or.inr (Multiset.mem_coe.mpr (List.mem_map.mpr ⟨_, hmem, rfl⟩)))
  exact Multiset.mem_of_le h.inFlight hflight

/-- **A response is possible** for gamesvr: the request that it answers is out. -/
theorem Ok.possible (h : g.Ok codec) {rest : List (ProtoSs.Msg × ProtoSs.Msg)} {ret : GameRet}
    (hanswers : g.answers = (req, res) :: rest) :
    g.front.Possible codec (.datasvr req (codec.serialize .ss res) ret) := by
  have hmem : (req, res) ∈ g.answers := hanswers ▸ List.mem_cons_self
  obtain ⟨hans, htravels⟩ := h.answers (req, res) hmem
  refine ⟨h.request hmem, fun msg hmsg => ?_⟩
  rw [htravels.answerMsg, Option.some.injEq] at hmsg
  rw [← hmsg]
  exact hans

theorem afterDatasvr_front : (g.afterDatasvr codec e s').front = g.front := by
  unfold afterDatasvr
  cases e with
  | send msg => rfl
  | popFree => rfl
  | recv =>
      cases g.data.held with
      | none => rfl
      | some client => rfl
  | query client calls => rfl
  | finish client => rfl

/-- **A step keeps what holds**, and is one of a `Backend` for gamesvr. -/
theorem Ok.step (h : g.Ok codec) {i : GameDataInput} (hfront : g.front.Inv size start)
    (hsize : 1 ≤ size) (hseed : (Random.init 0 start).Seeded)
    (hroomy : ∀ b i, allowed b i → b.Roomy i) (hstep : Step codec g i g' out)
    (hmeets : Meets codec allowed g i g' out) :
    g'.Ok codec ∧ FrontStep codec allowed g i g' out := by
  cases hstep with
  | connsvr msg ret front out hrun =>
      have hpossible : g.front.Possible codec (.connsvr msg ret) := trivial
      have hmet := hmeets.front _ rfl
      obtain ⟨hmove, -⟩ := Backend.step_moves hfront hsize hseed hpossible (hroomy _ _ hmet) hrun
      refine ⟨h.game (fun _ h => h)
        (fun req hreq => ⟨hmove.asks req hreq, hmeets.requests req hreq⟩) ?_ h.inFlight,
        Or.inr ⟨_, rfl, hpossible, hmet, hrun, hmove⟩⟩
      obtain ⟨⟨game, out'⟩, -, hrun⟩ := bind_eq_ok.mp hrun
      cases hrun
      rfl
  | answer ret req res rest front out hanswers hrun =>
      have hpossible : g.front.Possible codec (.datasvr req (codec.serialize .ss res) ret) :=
        h.possible hanswers
      have hinput : g.frontInput codec (.answer ret) =
          some (.datasvr req (codec.serialize .ss res) ret) := by
        rw [frontInput, hanswers]
        rfl
      have hmet := hmeets.front _ hinput
      obtain ⟨hmove, -⟩ := Backend.step_moves hfront hsize hseed hpossible (hroomy _ _ hmet) hrun
      have hkept : ({ g with answers := rest } : GameData).inFlight codec ≤
          ((g.front.requests.erase req : List ProtoSs.Msg) : Multiset ProtoSs.Msg) := by
        rw [← Multiset.coe_erase]
        refine le_trans (le_of_eq ?_) (Multiset.erase_le_erase req h.inFlight)
        unfold GameData.inFlight queued
        rw [hanswers, List.map_cons, ← Multiset.cons_coe, Multiset.add_cons,
          Multiset.erase_cons_head]
      refine ⟨h.game (fun p hp => ?_)
        (fun req hreq => ⟨hmove.asks req hreq, hmeets.requests req hreq⟩) ?_ hkept,
        Or.inr ⟨_, hinput, hpossible, hmet, hrun, hmove⟩⟩
      · rw [hanswers]
        exact List.mem_cons_of_mem _ hp
      · obtain ⟨⟨game, out'⟩, -, hrun⟩ := bind_eq_ok.mp hrun
        cases hrun
        rfl
  | update now front out hrun =>
      have hpossible : g.front.Possible codec (.update now) := trivial
      have hmet := hmeets.front _ rfl
      obtain ⟨hmove, -⟩ := Backend.step_moves hfront hsize hseed hpossible (hroomy _ _ hmet) hrun
      refine ⟨h.game (fun _ h => h)
        (fun req hreq => ⟨hmove.asks req hreq, hmeets.requests req hreq⟩) ?_ h.inFlight,
        Or.inr ⟨_, rfl, hpossible, hmet, hrun, hmove⟩⟩
      obtain ⟨game, -, hrun⟩ := bind_eq_ok.mp hrun
      cases game with
      | none => cases hrun
      | some game =>
          cases hrun
          exact (List.append_nil _).symm
  | datasvr e s' hsend hrun =>
      exact ⟨h.datasvr hsend hrun hmeets.responses, Or.inl ⟨afterDatasvr_front, rfl⟩⟩

/-- **gamesvr sees a backend**: whatever the threads of datasvr and MySQL do, the states of
gamesvr are those of a run in which each request is answered once or never, in any order,
with its own number and player. -/
theorem run_backend {g₀ : GameData} (hstart : g₀.Started size start db)
    (hroomy : ∀ b i, allowed b i → b.Roomy i) (hrun : Run codec allowed g₀ g) :
    Backend.Run codec allowed g₀.front g.front ∧ g.front.Inv size start ∧ g.Ok codec := by
  induction hrun with
  | start => exact ⟨.start, hstart.front.inv, hstart.ok⟩
  | step i hrun hstep hmeets ih =>
      obtain ⟨hback, hinv, hok⟩ := ih
      obtain ⟨hok', ⟨hsame, -⟩ | ⟨i', -, hpossible, hmet, hfront, -⟩⟩ :=
        hok.step hinv hstart.front.room.1 hstart.front.seeded hroomy hstep hmeets
      · rw [hsame]
        exact ⟨hback, hinv, hok'⟩
      · exact ⟨hback.step i' hpossible hmet hfront, (Backend.step_moves hinv hstart.front.room.1
          hstart.front.seeded hpossible (hroomy _ _ hmet) hfront).2, hok'⟩

end

end GameData

end PlayFrame
