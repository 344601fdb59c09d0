/-
# `PlayFrame.DataSvr.Server` — the main thread and the threads of the clients

`MsgModule::Run` of datasvr beside the `ThreadLoop`s, as a step relation.  An iteration of
`Run` takes a client from the list of free clients, then receives a message and hands both
to `HandleRequest`, or gives the client back.  A thread reads a byte of its pipe and runs
the statement (`query`), and later calls the callback and gives its client back (`finish`);
any step of the others may come between the two.

The database is a parameter: `exec text db calls db'` says that the calls of a round for
`text` may come out as `calls`, and leave `db'`.

A client is in exactly one place in every state, provided that every message is one that
datasvr handles and no connection is lost for good (`run_conserved`); a step without that
loses the client it has (`Step.conserved_iff`).
-/
import PlayFrame.DataSvr.Answers
import PlayFrame.Frame.Zmq

namespace PlayFrame

namespace DataSvr

/-- datasvr, the queue of messages for it, and the database.  `held` is the client of the
current iteration of `Run`, `threads` the rounds that have sent their query. -/
structure Server (δ : Type) where
  buf : Nat → UInt8
  inbox : List Bytes
  held : Option Nat
  clients : Clients
  threads : Nat → Option MysqlCalls
  mgr : MysqlMgr
  sock : GamesvrSock
  db : δ

namespace Server

variable {δ : Type}

/-- The server after `MysqlMgr::Init`. -/
def start (mgr : MysqlMgr) (zmq : Nat → Bool) (db : δ) : Server δ where
  buf := fun _ => 0
  inbox := []
  held := none
  clients := newClients
  threads := fun _ => none
  mgr := mgr
  sock := ⟨[], zmq⟩
  db := db

/-- What `zmq_recv` has put into the buffer, as far as `HandleRequest` looks at it. -/
def received (s : Server δ) (msg : Bytes) : Result (Option Bytes) :=
  (Link.gamesvrToDatasvr.receive s.buf msg).2

/-- An iteration of `Run` that has taken a client and receives `msg`. -/
def onMsg (codec : Codec) (client : Nat) (msg : Bytes) (s : Server δ) : Result (Server δ) := do
  let s' := { s with buf := (Link.gamesvrToDatasvr.receive s.buf msg).1, held := none }
  match ← s.received msg with
  | none => .ok { s' with mgr := s.mgr.pushFreeClient client }
  | some pkg => do
      let (_, clients) ← handleRequest codec pkg client s.clients
      .ok { s' with clients := clients }

/-- What happens next. -/
inductive Event where
  /-- gamesvr sends a message -/
  | send (msg : Bytes)
  /-- an iteration of `Run` begins -/
  | popFree
  /-- it receives -/
  | recv
  /-- a thread reads its byte and runs the statement -/
  | query (client : Nat) (calls : MysqlCalls)
  /-- it does the rest of its round -/
  | finish (client : Nat)

/-- The steps. -/
inductive Step (codec : Codec) (exec : Bytes → δ → MysqlCalls → δ → Prop) :
    Server δ → Event → Server δ → Prop
  | send (s : Server δ) (msg : Bytes) :
      Step codec exec s (.send msg) { s with inbox := s.inbox ++ [msg] }
  | usedUp (s : Server δ) : s.held = none → s.mgr.popFreeClient = (none, s.mgr) →
      Step codec exec s .popFree s
  | popFree (s : Server δ) (client : Nat) (mgr : MysqlMgr) : s.held = none →
      s.mgr.popFreeClient = (some client, mgr) →
      Step codec exec s .popFree { s with held := some client, mgr := mgr }
  | nothing (s : Server δ) (client : Nat) : s.held = some client → s.inbox = [] →
      Step codec exec s .recv { s with held := none, mgr := s.mgr.pushFreeClient client }
  | recv (s s' : Server δ) (client : Nat) (msg : Bytes) (rest : List Bytes) :
      s.held = some client → s.inbox = msg :: rest →
      onMsg codec client msg { s with inbox := rest } = .ok s' →
      Step codec exec s .recv s'
  | query (s : Server δ) (client : Nat) (calls : MysqlCalls) (db : δ) :
      s.threads client = none → 0 < (s.clients client).pipe →
      exec (s.clients client).sql s.db calls db →
      Step codec exec s (.query client calls)
        { s with
          clients := Function.update s.clients client
            { s.clients client with pipe := (s.clients client).pipe - 1 }
          threads := Function.update s.threads client (some calls)
          db := db }
  | finish (s : Server δ) (client : Nat) (calls : MysqlCalls) (mgr : MysqlMgr)
      (sock : GamesvrSock) : s.threads client = some calls →
      (s.clients client).threadLoop calls s.mgr s.sock = .ok (mgr, sock) →
      Step codec exec s (.finish client)
        { s with threads := Function.update s.threads client none, mgr := mgr, sock := sock }

/-! ## Where a client is -/

/-- How often a client is in the list of free clients, in a round, or held by `Run`; a byte
in its pipe is a round to come. -/
def places (s : Server δ) (client : Nat) : Nat :=
  s.mgr.freeClientList.count client + (s.clients client).pipe +
    (if (s.threads client).isSome then 1 else 0) + (if s.held = some client then 1 else 0)

/-- **Every client that `Init` has made is in exactly one place**: free, executing one
request, or held by `Run`. -/
def Conserved (s : Server δ) : Prop := ∀ client ∈ s.mgr.totalClientList, s.places client = 1

/-- A message that datasvr has a handler for. -/
def Handled (codec : Codec) (pkg : Bytes) : Prop :=
  ∃ k : Request, ∃ msg : ProtoSs.Msg,
    codec.parseFromArray .ss pkg = some msg ∧ msg.head.cmd = k.cmd

/-- The condition on a step: a message that `Run` receives for the client it holds is one
that datasvr handles, and a round that comes to its end had a connection. -/
def Meets (codec : Codec) (s : Server δ) : Event → Prop
  | .recv => ∀ msg ∈ s.inbox.head?, ∀ pkg, s.received msg = .ok (some pkg) → Handled codec pkg
  | .finish client => ∀ calls, s.threads client = some calls → calls.Connected
  | _ => True

section
variable {codec : Codec} {exec : Bytes → δ → MysqlCalls → δ → Prop} {s s' : Server δ}
  {e : Event} {client : Nat} {msg pkg : Bytes} {clients clients' : Clients} {ret : Int}

/-- **`HandleRequest`** either runs the handler of a request, or leaves the clients as they
are. -/
theorem handleRequest_cases
    (h : handleRequest codec pkg client clients = .ok (ret, clients')) :
    (∃ k : Request, ∃ m : ProtoSs.Msg, codec.parseFromArray .ss pkg = some m ∧
      m.head.cmd = k.cmd ∧ ∃ r, k.onReq codec m client clients = .ok (r, clients')) ∨
    (¬ Handled codec pkg ∧ clients' = clients) := by
  rcases MsgModuleBase.handleRequest_cases h with ⟨rfl, hnone⟩ | ⟨m, func, r, hparse, hl, hfunc⟩
  · refine Or.inr ⟨?_, rfl⟩
    rintro ⟨k, m, hparse, hcmd⟩
    have hl := hnone m hparse
    rw [show headCmd .ss m = k.cmd from hcmd, lookup_cmd] at hl
    cases hl
  · by_cases hk : ∃ k : Request, m.head.cmd = k.cmd
    · obtain ⟨k, hcmd⟩ := hk
      rw [show headCmd .ss m = k.cmd from hcmd, lookup_cmd] at hl
      cases hl
      exact Or.inl ⟨k, m, hparse, hcmd, r, hfunc⟩
    · rw [show (moduleInit codec).lookup (headCmd .ss m) = none from lookup_other hk] at hl
      cases hl

/-- **An iteration that receives** gives the client back, hands it a request, or forgets
it. -/
theorem onMsg_cases (h : s.onMsg codec client msg = .ok s') :
    (s.received msg = .ok none ∧
      s' = { s with
        buf := s'.buf
        held := none
        mgr := s.mgr.pushFreeClient client }) ∨
    (∃ pkg, s.received msg = .ok (some pkg) ∧ Handled codec pkg ∧
      ∃ k : Request, ∃ m : ProtoSs.Msg, codec.parseFromArray .ss pkg = some m ∧
        m.head.cmd = k.cmd ∧ (∃ r, k.onReq codec m client s.clients = .ok (r, s'.clients)) ∧
        s' = { s with buf := s'.buf, held := none, clients := s'.clients }) ∨
    (∃ pkg, s.received msg = .ok (some pkg) ∧ ¬ Handled codec pkg ∧
      s' = { s with buf := s'.buf, held := none }) := by
  unfold onMsg at h
  obtain ⟨r, hr, h⟩ := bind_eq_ok.mp h
  cases r with
  | none =>
      cases h
      exact Or.inl ⟨hr, rfl⟩
  | some pkg =>
      obtain ⟨⟨ret, clients⟩, hreq, h⟩ := bind_eq_ok.mp h
      cases h
      rcases handleRequest_cases hreq with ⟨k, m, hm, hcmd, hon⟩ | ⟨hnot, rfl⟩
      · exact Or.inr (Or.inl ⟨pkg, hr, ⟨k, m, hm, hcmd⟩, k, m, hm, hcmd, hon, rfl⟩)
      · exact Or.inr (Or.inr ⟨pkg, hr, hnot, rfl⟩)

/-! ### What a step does -/

theorem places_givenBack {buf : Nat → UInt8} {inbox : List Bytes} (hheld : s.held = some client)
    (i : Nat) :
    places { s with
      buf := buf
      inbox := inbox
      held := none
      mgr := s.mgr.pushFreeClient client } i = s.places i := by
  simp only [places, MysqlMgr.pushFreeClient, hheld, List.count_append, List.count_cons]
  by_cases hi : client = i
  · simp [hi]
    omega
  · simp [hi]

/-- What every state of a server satisfies: the clients have their ids, and a client that
`Init` has not made is nowhere. -/
structure Inv (s : Server δ) : Prop where
  ids : ∀ client, (s.clients client).clientId = client
  made : ∀ client, client ∉ s.mgr.totalClientList → s.places client = 0

/-- `lost` is the client that is in one place less after a step. -/
structure Loses (s s' : Server δ) (lost : Option Nat) : Prop where
  places : ∀ client, s'.places client + (if lost = some client then 1 else 0) = s.places client
  total : s'.mgr.totalClientList = s.mgr.totalClientList
  ids : ∀ client, (s'.clients client).clientId = (s.clients client).clientId

/-- **A message that is not handled** loses the client that `Run` holds. -/
theorem recv_loses {rest : List Bytes} (hheld : s.held = some client)
    (hinbox : s.inbox = msg :: rest)
    (hrun : onMsg codec client msg { s with inbox := rest } = .ok s') :
    ∃ lost, Loses s s' lost ∧ (lost = none ↔ Meets codec s .recv) := by
  have hmeets : Meets codec s .recv ↔
      ∀ pkg, s.received msg = .ok (some pkg) → Handled codec pkg := by
    show (∀ msg ∈ s.inbox.head?, _) ↔ _
    rw [hinbox]
    simp
  rcases onMsg_cases hrun with ⟨hr, hs'⟩ | ⟨pkg, hr, hpkg, k, m, hm, hcmd, ⟨r, hon⟩, hs'⟩ |
      ⟨pkg, hr, hpkg, hs'⟩
  · refine ⟨none, ⟨fun i => ?_, by rw [hs']; rfl, by rw [hs']; exact fun _ => rfl⟩,
      iff_of_true rfl (hmeets.mpr fun pkg hpkg => ?_)⟩
    · rw [hs']
      exact places_givenBack hheld i
    · rw [show s.received msg = .ok none from hr] at hpkg
      cases hpkg
  · obtain ⟨text, -, hclients⟩ := Request.onReq_spec hon
    refine ⟨none, ⟨fun i => ?_, by rw [hs'], fun i => ?_⟩,
      iff_of_true rfl (hmeets.mpr fun pkg' hpkg' => ?_)⟩
    · rw [hs']
      simp only [places, hheld, hclients, process, Function.update_apply]
      by_cases hi : i = client
      · simp [hi, MysqlClient.process]
        omega
      · simp [hi, Ne.symm hi]
    · rw [hclients, process, Function.update_apply]
      split
      · next hi => rw [hi]; rfl
      · rfl
    · rw [show s.received msg = .ok (some pkg) from hr] at hpkg'
      cases hpkg'
      exact hpkg
  · refine ⟨some client, ⟨fun i => ?_, by rw [hs'], by rw [hs']; exact fun _ => rfl⟩,
      iff_of_false (Option.some_ne_none _) (fun h => hpkg (hmeets.mp h pkg hr))⟩
    rw [hs']
    simp only [places, hheld]
    by_cases hi : client = i
    · simp [hi]
    · simp [hi]

theorem finish_loses (hs : s.Inv) {calls : MysqlCalls} {mgr : MysqlMgr} {sock : GamesvrSock}
    (hround : s.threads client = some calls)
    (hloop : (s.clients client).threadLoop calls s.mgr s.sock = .ok (mgr, sock)) :
    ∃ lost, Loses s { s with
        threads := Function.update s.threads client none
        mgr := mgr
        sock := sock } lost ∧ (lost = none ↔ Meets codec s (.finish client)) := by
  have hmgr := MysqlClient.threadLoop_mgr hloop
  rw [hs.ids client] at hmgr
  have hmeets : Meets codec s (.finish client) ↔ calls.Connected := by
    show (∀ calls, _) ↔ _
    rw [hround]
    simp
  by_cases hconn : calls.Connected
  · rw [if_pos hconn] at hmgr
    refine ⟨none, ⟨fun i => ?_, by rw [hmgr]; rfl, fun _ => rfl⟩,
      iff_of_true rfl (hmeets.mpr hconn)⟩
    simp only [places, hmgr, MysqlMgr.pushFreeClient, Function.update_apply,
      List.count_append, List.count_cons]
    by_cases hi : i = client
    · simp [hi, hround]
      omega
    · simp [hi, Ne.symm hi]
  · rw [if_neg hconn] at hmgr
    refine ⟨some client, ⟨fun i => ?_, by rw [hmgr], fun _ => rfl⟩,
      iff_of_false (Option.some_ne_none _) (fun h => hconn (hmeets.mp h))⟩
    simp only [places, hmgr, Function.update_apply]
    by_cases hi : i = client
    · simp [hi, hround]
      omega
    · simp [hi, Ne.symm hi]

/-- **A step** that does not meet the condition loses one client, and one that does loses
none. -/
theorem Step.loses (hs : s.Inv) (h : Step codec exec s e s') :
    ∃ lost, Loses s s' lost ∧ (lost = none ↔ Meets codec s e) := by
  cases h with
  | send msg => exact ⟨none, ⟨fun _ => rfl, rfl, fun _ => rfl⟩, iff_of_true rfl trivial⟩
  | usedUp => exact ⟨none, ⟨fun _ => rfl, rfl, fun _ => rfl⟩, iff_of_true rfl trivial⟩
  | popFree client mgr hheld hpop =>
      obtain ⟨hfree, htotal⟩ := MysqlMgr.popFreeClient_eq_some hpop
      refine ⟨none, ⟨fun i => ?_, htotal, fun _ => rfl⟩, iff_of_true rfl trivial⟩
      simp only [places, hfree, hheld, List.count_cons]
      by_cases hi : client = i
      · simp [hi]
        omega
      · simp [hi]
  | nothing client hheld hempty =>
      refine ⟨none, ⟨fun i => places_givenBack hheld i, rfl, fun _ => rfl⟩, iff_of_true rfl ?_⟩
      intro msg hmsg
      rw [hempty] at hmsg
      cases hmsg
  | recv s' client msg rest hheld hinbox hrun => exact recv_loses hheld hinbox hrun
  | query client calls db hidle hpipe hexec =>
      refine ⟨none, ⟨fun i => ?_, rfl, fun i => ?_⟩, iff_of_true rfl trivial⟩
      · simp only [places, Function.update_apply]
        by_cases hi : i = client
        · simp [hi, hidle]
          omega
        · simp [hi]
      · show (Function.update s.clients client _ i).clientId = _
        rw [Function.update_apply]
        split
        · next hi => rw [hi]
        · rfl
  | finish client calls mgr sock hround hloop => exact finish_loses hs hround hloop

/-! ### Runs -/

theorem Inv.step (hs : s.Inv) (h : Step codec exec s e s') : s'.Inv := by
  obtain ⟨lost, hloses, -⟩ := h.loses hs
  constructor
  · intro client
    rw [hloses.ids, hs.ids]
  · intro client hclient
    rw [hloses.total] at hclient
    have := hloses.places client
    rw [hs.made client hclient] at this
    omega

/-- **A step conserves the clients** exactly when it meets the condition. -/
theorem Step.conserved_iff (hs : s.Inv) (hcons : s.Conserved) (h : Step codec exec s e s') :
    s'.Conserved ↔ Meets codec s e := by
  obtain ⟨lost, hloses, hmeets⟩ := h.loses hs
  rw [← hmeets]
  constructor
  · intro hcons'
    cases lost with
    | none => rfl
    | some client =>
        have hpl := hloses.places client
        rw [if_pos rfl] at hpl
        have hmem : client ∈ s.mgr.totalClientList := by
          by_contra hnot
          rw [hs.made client hnot] at hpl
          omega
        rw [hcons client hmem, hcons' client (hloses.total ▸ hmem)] at hpl
        omega
  · rintro rfl client hclient
    have hpl := hloses.places client
    rw [if_neg (fun h => nomatch h), hcons client (hloses.total ▸ hclient)] at hpl
    exact hpl

/-- A run all of whose steps meet the condition. -/
inductive Run (codec : Codec) (exec : Bytes → δ → MysqlCalls → δ → Prop) :
    Server δ → Server δ → Prop
  | refl (s : Server δ) : Run codec exec s s
  | step {s s' s'' : Server δ} {e : Event} : Run codec exec s s' → Meets codec s' e →
      Step codec exec s' e s'' → Run codec exec s s''

/-- Nothing is being executed, and `Run` is between two iterations. -/
structure Idle (s : Server δ) : Prop where
  pipes : ∀ client, (s.clients client).pipe = 0
  threads : ∀ client, s.threads client = none
  held : s.held = none

theorem start_inv {mgr : MysqlMgr} {zmq : Nat → Bool} {db : δ}
    (hfree : mgr.freeClientList = mgr.totalClientList) (hnodup : mgr.totalClientList.Nodup) :
    (start mgr zmq db).Inv ∧ (start mgr zmq db).Conserved := by
  have hplaces : ∀ client, (start mgr zmq db).places client =
      mgr.totalClientList.count client := by
    intro client
    simp [places, start, hfree, newClients, MysqlClient.new]
  refine ⟨⟨fun _ => rfl, fun client h => ?_⟩, fun client h => ?_⟩
  · rw [hplaces]
    exact List.count_eq_zero_of_not_mem h
  · rw [hplaces]
    exact List.count_eq_one_of_mem hnodup h

theorem Run.inv (h : Run codec exec s s') (hs : s.Inv ∧ s.Conserved) :
    (s'.Inv ∧ s'.Conserved) ∧ s'.mgr.totalClientList = s.mgr.totalClientList := by
  induction h with
  | refl => exact ⟨hs, rfl⟩
  | step hrun hmeets hstep ih =>
      obtain ⟨⟨hinv, hcons⟩, htotal⟩ := ih
      obtain ⟨lost, hloses, -⟩ := hstep.loses hinv
      exact ⟨⟨hinv.step hstep, (hstep.conserved_iff hinv hcons).mpr hmeets⟩,
        hloses.total.trans htotal⟩

/-- **The clients are conserved**: in every state of a run from `Init` each client is in
exactly one place, and in a state where nothing is left to do all of them are free. -/
theorem run_conserved {maxClientCount : Int} {calls : Nat → ConnectCalls} {pipe : Nat → Bool}
    {mgr : MysqlMgr} {zmq : Nat → Bool} {db : δ}
    (hinit : MysqlMgr.init maxClientCount calls pipe = .ok mgr)
    (h : Run codec exec (start mgr zmq db) s) :
    s.Conserved ∧ (s.Idle → s.mgr.freeClientList.Perm mgr.totalClientList) := by
  obtain ⟨hfree, hnodup⟩ := MysqlMgr.init_spec hinit
  obtain ⟨⟨hinv, hcons⟩, htotal⟩ := h.inv (start_inv hfree hnodup)
  have htotal : s.mgr.totalClientList = mgr.totalClientList := htotal
  refine ⟨hcons, fun hidle => List.perm_iff_count.mpr fun client => ?_⟩
  have hplaces : s.places client = s.mgr.freeClientList.count client := by
    simp [places, hidle.pipes, hidle.threads, hidle.held]
  rw [← hplaces]
  by_cases hmem : client ∈ mgr.totalClientList
  · rw [hcons client (htotal ▸ hmem), List.count_eq_one_of_mem hnodup hmem]
  · rw [hinv.made client (htotal ▸ hmem), List.count_eq_zero_of_not_mem hmem]

end

/-! ### Two runs -/

/-- A database that only knows how to save. -/
def saves (_ : Bytes) (_ : Unit) (calls : MysqlCalls) (_ : Unit) : Prop :=
  calls = .fine (.noResult 0)

/-- The generated code, where the byte 1 is the request to save a player. -/
def saveCodec : Codec := Wire.resCodec [([1], saveMsg)]

/-- A server with two clients. -/
def twoClients : MysqlMgr := ⟨[0, 1], [0, 1]⟩

theorem init_twoClients :
    MysqlMgr.init 2 (fun _ => ⟨true, true, true, true, true⟩) (fun _ => true) =
      .ok twoClients := rfl

/-- A request is received and handed to a client, which executes it and is free again. -/
theorem run_conserved_saved :
    ∃ s : Server Unit, Run saveCodec saves (start twoClients (fun _ => true) ()) s ∧
      s.sock.toGamesvr.length = 1 ∧
      s.Conserved ∧ (s.Idle → s.mgr.freeClientList.Perm twoClients.totalClientList) := by
  have hsend : Run saveCodec saves (start twoClients (fun _ => true) ()) _ :=
    .step (e := .send [1]) (.refl _) trivial (.send _ [1])
  have hpop := Run.step hsend (e := .popFree) trivial (.popFree _ 0 ⟨[1], [0, 1]⟩ rfl rfl)
  have hrecv := Run.step hpop (e := .recv) (by
    rintro msg ⟨⟩ pkg hpkg
    cases hpkg
    exact ⟨.setPlayerData, saveMsg, rfl, rfl⟩) (.recv _ _ 0 [1] [] rfl rfl rfl)
  have hquery := Run.step hrecv (e := .query 0 (.fine (.noResult 0))) trivial
    (.query _ 0 _ () rfl (by decide) rfl)
  have hfinish := Run.step hquery (e := .finish 0) (by
    intro calls hcalls
    cases hcalls
    rfl) (.finish _ 0 _ _ _ rfl rfl)
  exact ⟨_, hfinish, rfl, run_conserved init_twoClients hfinish⟩

/-- A message that is not handled takes the client with it. -/
theorem run_unhandled :
    ∃ s₁ s₂ s₃ : Server Unit,
      Step saveCodec saves (start twoClients (fun _ => true) ()) (.send [255]) s₁ ∧
      Step saveCodec saves s₁ .popFree s₂ ∧ Step saveCodec saves s₂ .recv s₃ ∧
      ¬ s₃.Conserved := by
  refine ⟨_, _, _, .send _ [255], .popFree _ 0 ⟨[1], [0, 1]⟩ rfl rfl,
    .recv _ _ 0 [255] [] rfl rfl rfl, fun h => ?_⟩
  exact absurd (h 0 (List.mem_cons_self ..)) (by decide)

end Server

end DataSvr

end PlayFrame
