/-
# `PlayFrame.System.Accounts` — the accounts, from the table to the client

What gamesvr does with the answers of datasvr is right for the table, in every run of the two
servers in which any call of MySQL may fail (`GameData`).

`Sound` is what every state of a run satisfies: all that is in the table was there at the
start or is in a request of gamesvr for its uid, and what a response says is true from the
round that makes it to the moment at which gamesvr takes it.
-/
import PlayFrame.System.Serving
import PlayFrame.GameSvr.Registration

namespace PlayFrame

open DataSvr (Server Request SgData Sql GamesvrSock Flaky readSql Stored Registered Row)

namespace GameData

/-! ## What is true of the table -/

/-- The statements of the requests that gamesvr has sent. -/
def Asked (g : GameData) (sql : Sql) : Prop :=
  ∃ req ∈ g.sent, ∃ k : Request, req.head.cmd = k.cmd ∧ k.sql req = sql

/-- The table comes from the requests, and the responses that are made or on their way are
true. -/
structure Sound (db₀ : SgData) (g : GameData) : Prop where
  known : ∀ req ∈ g.front.requests, req ∈ g.sent
  table : SgData.From g.Asked db₀ g.data.db
  rounds : ∀ client req k res, g.work client = some req → req.head.cmd = k.cmd →
    Responds g.data client req k res → k.Vouches g.Asked db₀ req res g.data.db
  answers : ∀ p ∈ g.answers, ∀ k : Request, p.1.head.cmd = k.cmd →
    k.Vouches g.Asked db₀ p.1 p.2 g.data.db

section
variable {codec : Codec} {g g' : GameData} {s' : Server SgData} {e : Server.Event}
  {out : GameOut} {db₀ : SgData} {size : Nat} {start : Int} {client : Nat} {req : ProtoSs.Msg}
  {allowed : Backend → BackendInput → Prop}

theorem Started.sound (h : g.Started size start db₀) : g.Sound db₀ := by
  obtain ⟨maxClientCount, calls, pipe, mgr, zmq, -, hdata⟩ := h.data
  refine ⟨?_, ?_, fun client req k res hwork => ?_, ?_⟩
  · rw [h.front.requests]
    exact fun _ h => absurd h List.not_mem_nil
  · rw [hdata]
    exact .start _ db₀
  · rw [h.work] at hwork
    cases hwork
  · rw [h.answers]
    exact fun _ h => absurd h List.not_mem_nil

theorem Sound.asked (h : g.Sound db₀) (hok : g.Ok codec) (hbusy : 0 < g.data.places client)
    (hwork : g.work client = some req) : req ∈ g.sent := by
  have hmem : client ∈ g.data.mgr.totalClientList := by
    by_contra hnot
    rw [hok.inv.made client hnot] at hbusy
    exact Nat.lt_irrefl 0 hbusy
  have hjob : req ∈ Lib.jobs g.work g.data.mgr.totalClientList := Lib.mem_jobs hmem hwork
  refine h.known req (Multiset.mem_of_le hok.inFlight ?_)
  exact Multiset.mem_add.mpr (Or.inl (Multiset.mem_add.mpr (Or.inr hjob)))

theorem places_pos {s : Server SgData} (h : Busy s client) : 0 < s.places client := by
  unfold Server.places
  rcases h with hpipe | hthread
  · omega
  · rw [if_pos (Option.isSome_iff_ne_none.mpr hthread)]
    omega

theorem not_responds {s : Server SgData} {k : Request} {res : ProtoSs.Msg} (h : ¬ Busy s client) :
    ¬ Responds s client req k res := by
  rintro ⟨calls, result, flags, hround, -⟩
  refine h (Or.inr ?_)
  rw [hround]
  exact Option.some_ne_none _

theorem responds_congr {s : Server SgData} {k : Request} {res : ProtoSs.Msg}
    (hthreads : s'.threads client = s.threads client) :
    Responds s' client req k res ↔ Responds s client req k res := by
  unfold Responds
  rw [hthreads]

/-! ### Steps of gamesvr -/

theorem Sound.game (h : g.Sound db₀) {rest : List (ProtoSs.Msg × ProtoSs.Msg)}
    {kept : List ProtoSs.Msg} {front : Backend} (hrest : ∀ p ∈ rest, p ∈ g.answers)
    (hkept : ∀ req ∈ kept, req ∈ g.front.requests)
    (hfront : front.requests = kept ++ out.toDatasvr) :
    (({ g with answers := rest } : GameData).afterGame codec front out).Sound db₀ := by
  have hasked : ∀ sql, g.Asked sql →
      (({ g with answers := rest } : GameData).afterGame codec front out).Asked sql := by
    rintro sql ⟨req, hreq, hsql⟩
    exact ⟨req, List.mem_append_left _ hreq, hsql⟩
  refine ⟨fun req hreq => ?_, h.table.mono hasked, fun client req k res hwork hcmd hres => ?_,
    fun p hp k hcmd => ?_⟩
  · have hreq : req ∈ front.requests := hreq
    rw [hfront] at hreq
    rcases List.mem_append.mp hreq with hreq | hreq
    · exact List.mem_append_left _ (h.known req (hkept req hreq))
    · exact List.mem_append_right _ hreq
  · exact (h.rounds client req k res hwork hcmd hres).mono (.refl _) hasked
  · exact (h.answers p (hrest p hp) k hcmd).mono (.refl _) hasked

/-! ### Steps of datasvr -/

/-- The table is as it was, every round that responds was there before, and every new answer is
true. -/
theorem Sound.kept (h : g.Sound db₀) (hfront : g'.front = g.front) (hsent : g'.sent = g.sent)
    (hdb : g'.data.db = g.data.db)
    (hrounds : ∀ i req k res, g'.work i = some req → Responds g'.data i req k res →
      g.work i = some req ∧ Responds g.data i req k res)
    (hanswers : ∀ p ∈ g'.answers, ∀ k : Request, p.1.head.cmd = k.cmd →
      k.Vouches g.Asked db₀ p.1 p.2 g.data.db) : g'.Sound db₀ := by
  have hasked : g'.Asked = g.Asked := by
    funext sql
    unfold Asked
    rw [hsent]
  refine ⟨?_, ?_, fun i req k res hwork hcmd hres => ?_, ?_⟩
  · rw [hfront, hsent]
    exact h.known
  · rw [hasked, hdb]
    exact h.table
  · obtain ⟨hwork, hres⟩ := hrounds i req k res hwork hres
    rw [hasked, hdb]
    exact h.rounds i req k res hwork hcmd hres
  · rw [hasked, hdb]
    exact hanswers

/-- **Every step of datasvr** keeps the table and the responses true. -/
theorem Sound.datasvr (h : g.Sound db₀) (hok : g.Ok codec) (hsend : ∀ msg, e ≠ .send msg)
    (hstep : Server.Step codec Flaky g.data e s') : (g.afterDatasvr codec e s').Sound db₀ := by
  cases dataMoves hok.once hok.queue hok.working hsend hstep with
  | idle e s' hevent hinbox hclients hthreads hsock hdb =>
      have hsound : ∀ work : Nat → Option ProtoSs.Msg,
          (∀ i, Busy g.data i → work i = g.work i) →
          ({ g with data := s', work := work } : GameData).Sound db₀ := by
        intro work hwork
        refine h.kept rfl rfl hdb (fun i req k res hreq hres => ?_) h.answers
        have hres := (responds_congr (congrFun hthreads i)).mp hres
        have hbusy : Busy g.data i := by_contra fun hidle => not_responds hidle hres
        exact ⟨(hwork i hbusy).symm.trans hreq, hres⟩
      rcases hevent with rfl | ⟨rfl, hempty⟩
      · exact hsound g.work (fun _ _ => rfl)
      · unfold afterDatasvr
        cases hheld : g.data.held with
        | none => exact hsound g.work (fun _ _ => rfl)
        | some client =>
            refine hsound _ (fun i hi => Function.update_of_ne ?_ ..)
            rintro rfl
            exact not_busy_of_held hok.once hheld hi
  | handed client req k rest c s' hheld hidle hinbox htravels hserves hinbox' hclients hthreads
      hsock hdb =>
      simp only [afterDatasvr, hheld]
      refine h.kept rfl rfl hdb (fun i req k res hreq hres => ?_) h.answers
      have hres' := (responds_congr (congrFun hthreads i)).mp hres
      have hne : i ≠ client := by
        rintro rfl
        exact not_responds hidle hres'
      exact ⟨(Function.update_of_ne hne ..).symm.trans hreq, hres'⟩
  | ran client calls req k c s' hbusy hwork hserves hserves' hflaky hinbox hclients hthreads =>
      have hasked : g.Asked (k.sql req) :=
        ⟨req, h.asked hok (places_pos hbusy) hwork, k, hserves.cmd, rfl⟩
      refine ⟨h.known, h.table.flaky hserves.sql hasked hflaky,
        fun i req' k' res hreq hcmd hres => ?_, fun p hp k hcmd => ?_⟩
      · by_cases hne : i = client
        · subst hne
          obtain ⟨calls', result, flags, hround, hconn, hanswer, hresponse⟩ := hres
          have hround : s'.threads i = some calls' := hround
          rw [hthreads, Function.update_self, Option.some.injEq] at hround
          subst hround
          have hreq : g.work i = some req' := hreq
          rw [hwork, Option.some.injEq] at hreq
          subst hreq
          obtain rfl : k' = k := cmd_inj (hcmd.symm.trans hserves.cmd)
          exact hflaky.vouches h.table hserves.sql hconn hanswer hresponse
        · have hthread : s'.threads i = g.data.threads i := by
            rw [hthreads, Function.update_of_ne hne]
          have hres := (responds_congr hthread).mp hres
          exact (h.rounds i req' k' res hreq hcmd hres).mono hflaky.extends (fun _ h => h)
      · exact (h.answers p hp k hcmd).mono hflaky.extends (fun _ h => h)
  | finished client req k res s' hplaces hwork hserves hres hinbox hclients hthreads hsock hdb
      hpipe =>
      have hnew : newResponses g.data s' = res.toList := by
        unfold newResponses
        rw [hsock, List.drop_left]
      simp only [afterDatasvr, hnew, hwork, Option.getD_some]
      refine h.kept rfl rfl hdb (fun i req' k' res' hreq hres' => ?_) fun p hp k' hcmd => ?_
      · have hreq : Function.update g.work client none i = some req' := hreq
        have hne : i ≠ client := by
          rintro rfl
          rw [Function.update_self] at hreq
          cases hreq
        have hthread : s'.threads i = g.data.threads i := by
          rw [hthreads, Function.update_of_ne hne]
        rw [Function.update_of_ne hne] at hreq
        exact ⟨hreq, (responds_congr hthread).mp hres'⟩
      · rcases List.mem_append.mp hp with hp | hp
        · exact h.answers p hp k' hcmd
        · obtain ⟨m, hm, rfl⟩ := List.mem_map.mp hp
          obtain rfl : k' = k := cmd_inj (hcmd.symm.trans hserves.cmd)
          exact h.rounds client req k' m hwork hserves.cmd (hres m (Option.mem_toList.mp hm))

/-! ### Runs -/

theorem Sound.step (h : g.Sound db₀) (hok : g.Ok codec) {i : GameDataInput}
    (hstep : Step codec g i g' out) : g'.Sound db₀ := by
  cases hstep with
  | connsvr msg ret front out hrun =>
      refine h.game (fun _ h => h) (fun _ h => h) ?_
      obtain ⟨⟨game, out'⟩, -, hrun⟩ := bind_eq_ok.mp hrun
      cases hrun
      rfl
  | answer ret req res rest front out hanswers hrun =>
      have hkept : ∀ req' ∈ g.front.requests.erase req, req' ∈ g.front.requests :=
        fun _ h => List.mem_of_mem_erase h
      refine h.game (fun p hp => hanswers ▸ List.mem_cons_of_mem _ hp) hkept ?_
      obtain ⟨⟨game, out'⟩, -, hrun⟩ := bind_eq_ok.mp hrun
      cases hrun
      rfl
  | update now front out hrun =>
      refine h.game (fun _ h => h) (fun _ h => h) ?_
      obtain ⟨game, -, hrun⟩ := bind_eq_ok.mp hrun
      cases game with
      | none => cases hrun
      | some game =>
          cases hrun
          exact (List.append_nil _).symm
  | datasvr e s' hsend hrun => exact h.datasvr hok hsend hrun

theorem afterDatasvr_data : (g.afterDatasvr codec e s').data = s' := by
  unfold afterDatasvr
  cases e with
  | send msg => rfl
  | popFree => rfl
  | recv =>
      cases g.data.held with
      | none => rfl
      | some client => rfl
  | query client calls => rfl
  | finish client => rfl

/-- **The accounts stay** in a step of a server, whatever fails in it. -/
theorem server_extends {s : Server SgData} (h : Server.Step codec Flaky s e s') :
    s.db.Extends s'.db := by
  cases h with
  | recv s' client msg rest hheld hinbox hrun =>
      rcases Server.onMsg_cases hrun with
        ⟨-, hs'⟩ | ⟨pkg, -, -, k, m, -, -, -, hs'⟩ | ⟨pkg, -, -, hs'⟩
      · rw [hs']
        exact .refl _
      · rw [hs']
        exact .refl _
      · rw [hs']
        exact .refl _
  | query client calls db hidle hpipe hexec => exact hexec.extends
  | send | usedUp | popFree | nothing | finish => exact .refl _

theorem Step.extends {i : GameDataInput} (h : Step codec g i g' out) :
    g.data.db.Extends g'.data.db := by
  cases h with
  | connsvr | answer | update => exact .refl _
  | datasvr e s' hsend hrun =>
      rw [afterDatasvr_data]
      exact server_extends hrun

theorem Run.extends (h : Run codec allowed g g') : g.data.db.Extends g'.data.db := by
  induction h with
  | start => exact .refl _
  | step i hrun hstep hmeets ih => exact ih.trans hstep.extends

theorem run_sound {g₀ : GameData} (hstart : g₀.Started size start db₀)
    (hroomy : ∀ b i, allowed b i → b.Roomy i) (hrun : Run codec allowed g₀ g) : g.Sound db₀ := by
  induction hrun with
  | start => exact hstart.sound
  | step i hrun hstep hmeets ih => exact ih.step (run_backend hstart hroomy hrun).2.2 hstep

/-! ## What gamesvr does with the answers -/

/-- What gamesvr takes of datasvr is a response on its way. -/
def Takes (codec : Codec) (g : GameData) (i : BackendInput) : Prop :=
  ∀ req answer ret, i = .datasvr req answer ret → ∃ res, (req, res) ∈ g.answers ∧
    g.front.game.answerMsg codec answer = some res

/-- **Every step is a move of gamesvr** or leaves it alone, and all that gamesvr takes is a
response on its way. -/
theorem front_moves {g₀ : GameData} (hstart : g₀.Started size start db₀)
    (hroomy : ∀ b i, allowed b i → b.Roomy i) (hrun : Run codec allowed g₀ g) {i : GameDataInput}
    (hstep : Step codec g i g' out) (hmeets : Meets codec allowed g i g' out) :
    g.front.Inv size start ∧ ((g'.front = g.front ∧ out = ⟨[], [], []⟩) ∨
      ∃ i', g.frontInput codec i = some i' ∧ allowed g.front i' ∧
        Backend.Moves codec g.front i' g'.front out ∧ Takes codec g i') := by
  obtain ⟨-, hinv, hok⟩ := run_backend hstart hroomy hrun
  refine ⟨hinv, ?_⟩
  obtain ⟨-, hsame | ⟨i', hi, -, hmet, -, hmove⟩⟩ :=
    hok.step hinv hstart.front.room.1 hstart.front.seeded hroomy hstep hmeets
  · exact Or.inl hsame
  refine Or.inr ⟨i', hi, hmet, hmove, fun req answer ret hi' => ?_⟩
  subst hi'
  cases i with
  | connsvr msg ret => cases hi
  | answer ret =>
      obtain ⟨p, hp, hp'⟩ := Option.map_eq_some_iff.mp hi
      cases hp'
      have hmem := List.mem_of_head? hp
      exact ⟨p.2, hmem, (hok.answers p hmem).2.answerMsg _⟩
  | update now => cases hi
  | datasvr e => cases hi

/-- **A login that ends well** has been answered with the truth: its account is in the table
with the hash that its client presented, and its data comes from the account. -/
theorem loggedIn_sound {g₀ : GameData} (hstart : g₀.Started size start db₀)
    (hroomy : ∀ b i, allowed b i → b.Roomy i) (hrun : Run codec allowed g₀ g)
    {i' : BackendInput} {front : Backend} {id : Int} {d : LogicData LogicBody} {msg : ProtoSs.Msg}
    {k : Nat} (hinv : g.front.Inv size start)
    (hlog : Backend.LoggedIn codec g.front i' front out id d msg k)
    (htakes : Takes codec g i') :
    (∃ o, g.front.launches id = some o ∧ o.msg.head.cmd = ProtoCs.loginReqFieldNumber ∧
      o.connData.playerIdx = k ∧ d.body.uid = LogicLogin.loginUid o.msg ∧
      ∃ row, g.data.db.lookup d.body.uid = some row ∧
        row.passwordHash = Utils.fnv64aHash (o.msg.loginReq.getD {}).password) ∧
    Stored g.Asked db₀ d.body.uid (msg.getPlayerDataRes.getD {}).playerData := by
  obtain ⟨answer, ret, hi, hmsg⟩ := hlog.input
  obtain ⟨res, hres, hans⟩ := htakes _ _ _ hi
  rw [hmsg, Option.some.injEq] at hans
  subst hans
  obtain ⟨⟨row, hrow, hhash⟩, hstored⟩ :=
    (run_sound hstart hroomy hrun).answers _ hres .getPlayerData rfl hlog.good
  have hwait := hinv.logins id d hlog.found hlog.login
  obtain ⟨o, ho, hcmd, hremembers⟩ := hwait.launch
  refine ⟨⟨o, ho, hcmd, hremembers.playerIdx.symm.trans hlog.playerIdx, hremembers.uid, row, hrow,
    ?_⟩, hstored⟩
  rw [hhash]
  exact hremembers.passwordHash

end

section
open Backend (loginReq firstReq theUid calm)

/-- The player has the account now. -/
abbrev welcomed : Backend × GameOut := replied accountCodec loginReq firstReq firstRes

theorem roomy_hello {msg : ProtoCs.Msg} : (Backend.fresh 2).Roomy (hello msg) :=
  ⟨by decide, by decide⟩

end

section
variable {codec : Codec} {g g' : GameData} {out : GameOut} {db₀ : SgData} {size : Nat}
  {start : Int} {req : ProtoSs.Msg} {allowed : Backend → BackendInput → Prop}

/-! ## Registrations -/

/-- The account that a registration has asked for is in the table: a normal one under the
hash of the account that its client has submitted and the instance keeps, with the hash of the
submitted password and the account that the instance reads back; a quick one under the uid that it has made, with
the hash of the password that it has made, and without a name. -/
def InTable (b : Backend) (id : Int) (d : LogicData LogicBody) (db : SgData) : Prop :=
  (d.head.logicType = MsgModule.logicNormalReg → ∃ o account row, b.launches id = some o ∧
    LogicNormalReg.Keeps o.msg d ∧ LogicNormalReg.accountString d = .ok account ∧
    db.lookup (Utils.fnv64aHash (LogicNormalReg.submitted o.msg).account) = some row ∧
    row.passwordHash = Utils.fnv64aHash (LogicNormalReg.submitted o.msg).password ∧
    row.account = Request.rowAccount account) ∧
  (d.head.logicType = MsgModule.logicQuickReg → ∃ password row,
    Utils.cString d.body.password = .ok password ∧ db.lookup d.body.uid = some row ∧
    row.passwordHash = Utils.fnv64aHash password ∧ row.account = none)

theorem inTable_of_vouches {b : Backend} {id : Int} {d : LogicData LogicBody} {res : ProtoSs.Msg}
    {asked : Sql → Prop} {db db' : SgData} (hasks : b.RegAsks codec id d req)
    (hvouches : ∀ k : Request, req.head.cmd = k.cmd → k.Vouches asked db₀ req res db)
    (hok : res.head.ret = ProtoSs.retOk) (hext : db.Extends db') : InTable b id d db' := by
  refine ⟨fun htype => ?_, fun htype => ?_⟩
  · obtain ⟨o, ho, hkeeps, account, haccount, rfl⟩ := hasks.1 htype
    obtain ⟨row, hrow, hhash, hname⟩ := hvouches .accountReg rfl hok
    obtain ⟨row', hrow', hhash', hname'⟩ := hext _ row hrow
    exact ⟨o, account, row', ho, hkeeps, haccount, hrow', hhash'.trans hhash,
      hname'.trans hname⟩
  · obtain ⟨password, hpassword, rfl⟩ := hasks.2 htype
    obtain ⟨row, hrow, hhash, hname⟩ := hvouches .accountReg rfl hok
    obtain ⟨row', hrow', hhash', hname'⟩ := hext _ row hrow
    exact ⟨password, row', hpassword, hrow', hhash'.trans hhash, hname'.trans hname⟩

/-- **The account of a good response** to a registration is in the table until gamesvr takes
it, and after that. -/
theorem inTable_of_answer {g₀ : GameData} {d : LogicData LogicBody} {res : ProtoSs.Msg}
    {db : SgData} (hstart : g₀.Started size start db₀) (hrun : Run codec Backend.Roomy g₀ g)
    (hmem : (req, res) ∈ g.answers) (hok : res.head.ret = ProtoSs.retOk)
    (hd : g.front.game.logicModule.store.logicDataMap.lookup (logicIdOfSeq res.head.seq) = some d)
    (hext : g.data.db.Extends db) : InTable g.front (logicIdOfSeq res.head.seq) d db := by
  obtain ⟨hback, hinv, hgood⟩ := run_backend hstart (fun _ _ h => h) hrun
  have hregs : g.front.RegsAsk codec := (hback.induct (P := fun b => b.RegsAsk codec)
    hstart.front (fun _ _ h => h) hstart.front.regsAsk
    (fun _ _ _ _ hinv _ h _ hmove => h.step hinv hmove)).2
  have hreq := hgood.request hmem
  exact inTable_of_vouches
    (hregs _ d hd req hreq (hinv.answered hreq (hgood.answers _ hmem).1).2)
    (fun k => (run_sound hstart (fun _ _ h => h) hrun).answers _ hmem k) hok hext

/-- **A registration that is confirmed stays**: when gamesvr takes a good response for a
registration, all that it tells in that step is what the instance has kept, and from then on
the account is in the table, in every run, whatever fails in MySQL. -/
theorem registration_durable {g₀ g'' : GameData} {ret : GameRet} {d : LogicData LogicBody}
    {res : ProtoSs.Msg} {rest : List (ProtoSs.Msg × ProtoSs.Msg)}
    (hstart : g₀.Started size start db₀) (hrun : Run codec Backend.Roomy g₀ g)
    (hstep : Step codec g (.answer ret) g' out)
    (hmeets : Meets codec Backend.Roomy g (.answer ret) g' out)
    (hanswers : g.answers = (req, res) :: rest) (hok : res.head.ret = ProtoSs.retOk)
    (hd : g.front.game.logicModule.store.logicDataMap.lookup (logicIdOfSeq res.head.seq) = some d)
    (hreg : Registers d) (hlater : Run codec allowed g' g'') :
    (∀ m ∈ out.toConnsvr, Confirms codec d m) ∧
      InTable g.front (logicIdOfSeq res.head.seq) d g''.data.db := by
  obtain ⟨-, hinv, hgood⟩ := run_backend hstart (fun _ _ h => h) hrun
  have hmem : (req, res) ∈ g.answers := hanswers ▸ List.mem_cons_self
  have hmsg := (hgood.answers _ hmem).2.answerMsg g.front.game
  refine ⟨?_, inTable_of_answer hstart hrun hmem hok hd (hstep.extends.trans hlater.extends)⟩
  obtain ⟨-, ⟨-, rfl⟩ | ⟨i', hi, -, -, -, hmove⟩⟩ :=
    hgood.step hinv hstart.front.room.1 hstart.front.seeded (fun _ _ h => h) hstep hmeets
  · exact fun m hm => absurd hm List.not_mem_nil
  · rw [frontInput, hanswers] at hi
    cases hi
    exact hmove.confirms hmsg hok hd hreg

end

section
open Backend (credentials theUid calm)

/-- A client registers an account. -/
def regReq : ProtoCs.Msg where
  head := { cmd := ProtoCs.normalRegReqFieldNumber }
  normalRegReq := some credentials

/-- datasvr is asked to store it, and does. -/
def accountReq : ProtoSs.Msg :=
  Player.accountRegReq 4295305193 1 theUid (Utils.fnv64aHash credentials.password)
    credentials.account (Wire.playerData Player.newPlayerData)
def accountRes : ProtoSs.Msg := Request.accountReg.answerTo accountReq ∅

/-- The generated code for this registration. -/
def regCodec : Codec :=
  bothCodec [(Wire.csMsg regReq, regReq)]
    [(Wire.ssMsg accountReq, accountReq), (Wire.ssRes accountRes, accountRes)] []

theorem firstRegistration : FirstClient regCodec ∅ regReq .accountReg accountReq where
  steps := by decide +kernel
  asks := by decide +kernel
  request := ⟨by decide +kernel, by decide +kernel, by decide +kernel⟩
  response := ⟨by decide +kernel, by decide +kernel, by decide +kernel⟩
  kind := by decide
  cmd := rfl
  strings := ⟨by decide +kernel, by decide +kernel⟩

/-- The client has been told. -/
abbrev registered : Backend × GameOut := replied regCodec regReq accountReq accountRes

theorem registered_steps : (asking regCodec regReq).steps regCodec
      (reply regCodec accountReq accountRes) = true ∧
    registered.2.toDatasvr = [] ∧ registered.2.toConnsvr.length = 1 ∧
    accountRes.head.ret = ProtoSs.retOk ∧
    ((asking regCodec regReq).game.logicModule.store.logicDataMap.lookup
      (logicIdOfSeq accountRes.head.seq)).map (fun d => d.head.logicType) =
        some MsgModule.logicNormalReg := by
  decide +kernel

theorem step_registered : (asking regCodec regReq).step regCodec
    (reply regCodec accountReq accountRes) = .ok (some (registered.1, registered.2)) :=
  Backend.step_after registered_steps.1

/-- A client registers, and is told so. -/
theorem registration_durable_answered : ∃ g g' out d,
    Run regCodec Backend.Roomy (fresh ∅) g ∧ Step regCodec g (.answer calm) g' out ∧
    d.head.logicType = MsgModule.logicNormalReg ∧ out.toConnsvr.length = 1 ∧
    (∀ m ∈ out.toConnsvr, Confirms regCodec d m) ∧
    InTable g.front (logicIdOfSeq accountRes.head.seq) d g'.data.db := by
  obtain ⟨s', work, hrun, -⟩ := firstRegistration.run_answered roomy_hello
  obtain ⟨hquiet, hone, hok, htype⟩ := registered_steps.2
  obtain ⟨d, hd, htype⟩ := Option.map_eq_some_iff.mp htype
  exact ⟨_, _, _, d, hrun, step_answered step_registered, htype, hone,
    registration_durable (fresh_started ∅) hrun (step_answered step_registered)
      (meets_answered trivial hquiet) rfl hok hd (Or.inl htype)
      (Run.start : Run _ Backend.Roomy _ _)⟩

end

end GameData

end PlayFrame
