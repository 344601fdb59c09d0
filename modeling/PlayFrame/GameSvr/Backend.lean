/-
# `PlayFrame.GameSvr.Backend` — gamesvr with its two peers

gamesvr takes messages of connsvr, which are any, and messages of datasvr, which answer
its requests: each is answered once or never, in any order, and an answer has the number
and the player of its request.  `LogicModule::Update` is called at any time.

What the source does not have is there to speak about it: `gen` counts how often the unit
of a player has been allocated, `launches` has the messages that started the instances,
and `loaded` what a player was last given by datasvr.
-/
import PlayFrame.GameSvr.GameLogic
import PlayFrame.GameSvr.Wire

namespace PlayFrame

open LogicModule (LogicInv)

/-- The start of an instance by a message of a client: the `ConnData` and the message that
the first step is given, the allocations and the objects at that time, and what has been
sent. -/
structure Launch where
  connData : ConnData
  msg : ProtoCs.Msg
  gen : Nat → Nat
  before : ObjMgrModule
  sent : GameOut

/-- gamesvr, and the requests that datasvr has not answered. -/
structure Backend where
  game : GameSvr
  requests : List ProtoSs.Msg
  gen : Nat → Nat
  launches : Int → Option Launch
  loaded : Nat → Option (UInt64 × Database.PlayerData)

/-- What happens next. -/
inductive BackendInput where
  /-- `MsgModule::Run` takes a message of connsvr -/
  | connsvr (msg : ConnMsg) (ret : GameRet)
  /-- `MsgModule::Run` takes the answer of datasvr to a request -/
  | datasvr (req : ProtoSs.Msg) (answer : Bytes) (ret : GameRet)
  /-- `LogicModule::Update` -/
  | update (now : TimeValue)

namespace Backend

/-! ## One step -/

/-- A unit of the player pool is allocated in a step. -/
def Allocates (game game' : GameSvr) (k : Nat) : Prop :=
  ¬ game.objMgr.Live k ∧ game'.objMgr.Live k

instance (game game' : GameSvr) (k : Nat) : Decidable (Allocates game game' k) := by
  unfold Allocates
  infer_instance

/-- The `ConnData` that a message of connsvr is handled with. -/
def assigned (game : GameSvr) (msg : ConnMsg) : ConnData :=
  match msg.connData.connCmd with
  | .connStart => { msg.connData with playerIdx := game.objMgr.playerPool.freeMemPos }
  | _ => msg.connData

/-- The ids that a step has handed out. -/
def IsNew (game game' : GameSvr) (id : Int) : Prop :=
  id ∈ game'.logicModule.store.created ∧ id ∉ game.logicModule.store.created

instance (game game' : GameSvr) (id : Int) : Decidable (IsNew game game' id) := by
  unfold IsNew
  infer_instance

/-- After a message of connsvr. -/
def afterConnsvr (codec : Codec) (b : Backend) (msg : ConnMsg) (game : GameSvr)
    (out : GameOut) : Backend :=
  let gen := fun k => if Allocates b.game game k then b.gen k + 1 else b.gen k
  { game := game
    requests := b.requests ++ out.toDatasvr
    gen := gen
    launches := fun id =>
      if IsNew b.game game id then
        (b.game.clientMsg codec msg).map (fun csMsg =>
          { connData := assigned b.game msg, msg := csMsg, gen := gen, before := b.game.objMgr,
            sent := out })
      else b.launches id
    loaded := fun k => if Allocates b.game game k then none else b.loaded k }

/-- What a request for data and its answer give to a player. -/
def answered (codec : Codec) (req : ProtoSs.Msg) (msg : Option ProtoSs.Msg) :
    Option (UInt64 × Database.PlayerData) :=
  msg.map (fun ssMsg => ((req.getPlayerDataReq.getD {}).uid, LogicLogin.answerData codec ssMsg))

/-- After the answer to a request. -/
def afterDatasvr (codec : Codec) (b : Backend) (req : ProtoSs.Msg) (answer : Bytes)
    (game : GameSvr) (out : GameOut) : Backend :=
  { b with
    game := game
    requests := b.requests.erase req ++ out.toDatasvr
    loaded := fun k =>
      if k ∈ out.uids.map Prod.fst then answered codec req (b.game.answerMsg codec answer)
      else b.loaded k }

/-- One step, and what gamesvr sends in it. -/
def step (codec : Codec) (b : Backend) : BackendInput → Result (Option (Backend × GameOut))
  | .connsvr msg ret => do
      let (game, out) ← b.game.onConnsvr codec msg ret
      .ok (some (b.afterConnsvr codec msg game out, out))
  | .datasvr req answer ret => do
      let (game, out) ← b.game.onDatasvr codec answer ret
      .ok (some (b.afterDatasvr codec req answer game out, out))
  | .update now => do
      match ← b.game.onUpdate now with
      | none => .ok none
      | some game => .ok (some ({ b with game := game }, ⟨[], [], []⟩))

/-! ## Runs -/

/-- The head of an answer is made from that of its request. -/
def Answers (req msg : ProtoSs.Msg) : Prop :=
  msg.head.cmd = req.head.cmd + 1 ∧ msg.head.seq = req.head.seq ∧
    msg.head.playerIdx = req.head.playerIdx

/-- datasvr answers what it has been asked. -/
def Possible (codec : Codec) (b : Backend) : BackendInput → Prop
  | .datasvr req answer _ =>
      req ∈ b.requests ∧ ∀ msg, b.game.answerMsg codec answer = some msg → Answers req msg
  | _ => True

/-- gamesvr has been started in the second `start`, with room for `size` timers. -/
structure Started (size : Nat) (start : Int) (b : Backend) : Prop where
  room : 1 ≤ size ∧ size + 1 < HeapTimer.capLimit
  seeded : (Random.init 0 start).Seeded
  game : ∃ (playerPoolSize cityPoolSize : Nat) (rawPlayer : Nat → Player) (rawCity : Nat → City),
    b.game = GameSvr.init playerPoolSize cityPoolSize size rawPlayer rawCity start
  requests : b.requests = []

/-- The states that a run reaches from `start` if every step of it meets a condition on
the state before it. -/
inductive Run (codec : Codec) (ok : Backend → BackendInput → Prop) (start : Backend) :
    Backend → Prop
  | start : Run codec ok start start
  | step {b b' : Backend} {out : GameOut} (i : BackendInput) : Run codec ok start b →
      b.Possible codec i → ok b i → b.step codec i = .ok (some (b', out)) →
      Run codec ok start b'

/-- The number generator and the heap of the timers have room for one more instance. -/
def Roomy (b : Backend) : BackendInput → Prop
  | .connsvr _ _ => b.game.logicModule.Roomy
  | _ => True

/-! ## The instances and their requests -/

/-- A login that waits: it was launched by a request to log in, it knows its client, and
at most one request is out for it, which is the one that its step is to be resumed by.
Until it asks for the data this is one that it was launched with. -/
structure Waiting (b : Backend) (id : Int) (d : LogicData LogicBody) : Prop where
  launch : ∃ o, b.launches id = some o ∧ o.msg.head.cmd = ProtoCs.loginReqFieldNumber ∧
    LogicLogin.Remembers d o.msg o.connData
  player : ∃ k : Nat, d.body.playerIdx = k
  asked : ∀ req ∈ b.requests, req.head.seq = seqOfLogicId id → LogicLogin.Asked d req
  one : b.requests.countP (fun req => req.head.seq = seqOfLogicId id) ≤ 1
  first : ∀ o, b.launches id = some o → d.head.step = 1 →
    ∀ req ∈ b.requests, req.head.seq = seqOfLogicId id → req ∈ o.sent.toDatasvr

/-- The pool, the instances and the requests are in order. -/
structure Inv (size : Nat) (start : Int) (b : Backend) : Prop where
  pool : b.game.objMgr.playerPool.Ok
  logic : LogicInv size start b.game.logicModule
  range : ∀ id ∈ b.game.logicModule.store.created, 0 < id ∧ id < 9223372036854775808
  head : ∀ id d, b.game.logicModule.store.logicDataMap.lookup id = some d →
    id ∈ b.game.logicModule.store.created ∧ d.head.logicId = id
  seqs : ∀ req ∈ b.requests, ∃ id ∈ b.game.logicModule.store.created,
    req.head.seq = seqOfLogicId id
  logins : ∀ id d, b.game.logicModule.store.logicDataMap.lookup id = some d →
    d.head.logicType = MsgModule.logicLogin → b.Waiting id d

section
variable {codec : Codec} {ok : Backend → BackendInput → Prop} {size : Nat} {start : Int}
  {b b' b₀ : Backend} {i : BackendInput} {out : GameOut}

theorem Started.inv (h : b.Started size start) : b.Inv size start := by
  obtain ⟨n₁, n₂, rawPlayer, rawCity, hgame⟩ := h.game
  refine ⟨?_, ?_, ?_, ?_, ?_, ?_⟩
  · rw [hgame]
    exact ⟨_, ShmPool.init_inv n₁ rawPlayer⟩
  · rw [hgame]
    exact LogicModule.init_logicInv h.room.2
  · rw [hgame]
    exact fun _ h => absurd h List.not_mem_nil
  · rw [hgame]
    exact fun _ _ h => nomatch h
  · rw [h.requests]
    exact fun _ h => absurd h List.not_mem_nil
  · rw [hgame]
    exact fun _ _ h => nomatch h

/-! ### Launches and answers -/

theorem Waiting.others {id : Int} {d : LogicData LogicBody} (h : b.Waiting id d)
    (hlaunch : b'.launches id = b.launches id) {kept new : List ProtoSs.Msg}
    (hkept : kept.Sublist b.requests) (hrequests : b'.requests = kept ++ new)
    (hnew : ∀ req ∈ new, req.head.seq ≠ seqOfLogicId id) : b'.Waiting id d := by
  refine ⟨?_, h.player, fun req hreq hseq => ?_, ?_, fun o ho hone req hreq hseq => ?_⟩
  · rw [hlaunch]
    exact h.launch
  · rw [hrequests] at hreq
    rcases List.mem_append.mp hreq with hreq | hreq
    · exact h.asked req (hkept.subset hreq) hseq
    · exact absurd hseq (hnew req hreq)
  · have hzero : new.countP (fun req => req.head.seq = seqOfLogicId id) = 0 :=
      List.countP_eq_zero.mpr (fun req hreq => by
        rw [decide_eq_true_eq]
        exact hnew req hreq)
    rw [hrequests, List.countP_append, hzero, Nat.add_zero]
    exact hkept.countP_le.trans h.one
  · rw [hlaunch] at ho
    rw [hrequests] at hreq
    rcases List.mem_append.mp hreq with hreq | hreq
    · exact h.first o ho hone req (hkept.subset hreq) hseq
    · exact absurd hseq (hnew req hreq)

theorem Waiting.asking {id : Int} {d : LogicData LogicBody}
    (hlaunch : ∃ o, b'.launches id = some o ∧ o.msg.head.cmd = ProtoCs.loginReqFieldNumber ∧
      LogicLogin.Remembers d o.msg o.connData)
    (hplayer : ∃ k : Nat, d.body.playerIdx = k) {req : ProtoSs.Msg} {old new : List ProtoSs.Msg}
    (hold : ∀ req ∈ old, req.head.seq ≠ seqOfLogicId id) (hnew : new.Sublist [req])
    (hrequests : b'.requests = old ++ new) (hasked : LogicLogin.Asked d req)
    (hfirst : ∀ o, b'.launches id = some o → d.head.step = 1 → ∀ req ∈ new,
      req ∈ o.sent.toDatasvr) : b'.Waiting id d := by
  refine ⟨hlaunch, hplayer, fun req' hreq hseq => ?_, ?_, fun o ho hone req' hreq hseq => ?_⟩
  · rw [hrequests] at hreq
    rcases List.mem_append.mp hreq with hreq | hreq
    · exact absurd hseq (hold req' hreq)
    · rw [List.mem_singleton.mp (hnew.subset hreq)]
      exact hasked
  · have hzero : old.countP (fun req => req.head.seq = seqOfLogicId id) = 0 :=
      List.countP_eq_zero.mpr (fun req hreq => by
        rw [decide_eq_true_eq]
        exact hold req hreq)
    rw [hrequests, List.countP_append, hzero, Nat.zero_add]
    exact hnew.countP_le.trans List.countP_le_length
  · rw [hrequests] at hreq
    rcases List.mem_append.mp hreq with hreq | hreq
    · exact absurd hseq (hold req' hreq)
    · exact hfirst o ho hone req' hreq

theorem Inv.launched (h : b.Inv size start) {raw : LogicBody} {logicId logicType : Int}
    {args : StepArgs} {w w' : GameWorld}
    (hlaunch : LogicModule.Launched (logicTypes codec) raw logicId logicType args
      b.game.logicModule b'.game.logicModule w w')
    (hw : w.toDatasvr = []) (hpool : b'.game.objMgr.playerPool.Ok)
    (hlogic : LogicInv size start b'.game.logicModule)
    (hrequests : b'.requests = b.requests ++ w'.toDatasvr)
    (hlaunches : ∀ id, id ∈ b.game.logicModule.store.created → b'.launches id = b.launches id)
    (hlogin : logicType = MsgModule.logicLogin → ∀ csMsg connData, args = .cs csMsg connData →
      ∃ o, b'.launches logicId = some o ∧ o.msg = csMsg ∧ o.connData = connData ∧
        o.sent.toDatasvr = w'.toDatasvr ∧ csMsg.head.cmd = ProtoCs.loginReqFieldNumber) :
    b'.Inv size start := by
  obtain ⟨d₁, reqs, hs, hdata, -⟩ := hlaunch.spec
  obtain ⟨sent, hsent, hsub⟩ := hs.acts.toDatasvr
  rw [hw, List.nil_append] at hsent
  rw [hsent] at hrequests
  have hown : ∀ req ∈ reqs, req.head.seq = seqOfLogicId logicId := hs.own
  have hold : ∀ req ∈ b.requests, req.head.seq ≠ seqOfLogicId logicId := by
    intro req hreq hseq
    obtain ⟨id, hid, hreqseq⟩ := h.seqs req hreq
    have heq := seqOfLogicId_inj (h.range id hid) ⟨hlaunch.pos, hlaunch.lt⟩
      (hreqseq.symm.trans hseq)
    exact hlaunch.fresh (heq ▸ hid)
  have hcreated : ∀ id, id ∈ b'.game.logicModule.store.created ↔
      id = logicId ∨ id ∈ b.game.logicModule.store.created := by
    intro id
    rw [hlaunch.created]
    exact List.mem_cons
  refine ⟨hpool, hlogic, fun id hid => ?_, fun id d hd => ?_, fun req hreq => ?_,
    fun id d hd htype => ?_⟩
  · rcases (hcreated id).mp hid with rfl | hid
    · exact ⟨hlaunch.pos, hlaunch.lt⟩
    · exact h.range id hid
  · by_cases hid : id = logicId
    · subst hid
      obtain ⟨rfl, -⟩ := hdata d hd
      exact ⟨(hcreated id).mpr (Or.inl rfl), hs.head.1⟩
    · rw [hlaunch.others id hid] at hd
      obtain ⟨hmem, hlogicId⟩ := h.head id d hd
      exact ⟨(hcreated id).mpr (Or.inr hmem), hlogicId⟩
  · rw [hrequests] at hreq
    rcases List.mem_append.mp hreq with hreq | hreq
    · obtain ⟨id, hid, hseq⟩ := h.seqs req hreq
      exact ⟨id, (hcreated id).mpr (Or.inr hid), hseq⟩
    · exact ⟨logicId, (hcreated logicId).mpr (Or.inl rfl), hown req (hsub.subset hreq)⟩
  · by_cases hid : id = logicId
    · subst hid
      obtain ⟨rfl, hspec⟩ := hdata d hd
      have htype' : logicType = MsgModule.logicLogin := hs.head.2.symm.trans htype
      obtain ⟨csMsg, connData, req, hargs, rfl, hbegun⟩ := hspec htype'
      obtain ⟨o, ho, rfl, rfl, hout, hcmd⟩ := hlogin htype' csMsg connData hargs
      obtain ⟨k, hidx, -⟩ := hbegun.player
      refine .asking ⟨o, ho, hcmd, hbegun.remembers⟩ ⟨k, hbegun.remembers.playerIdx.trans hidx⟩ hold
        hsub hrequests hbegun.asked (fun o' ho' _ req' hreq' => ?_)
      cases ho.symm.trans ho'
      rw [hout, hsent]
      exact hreq'
    · rw [hlaunch.others id hid] at hd
      have hmem := (h.head id d hd).1
      refine (h.logins id d hd htype).others (hlaunches id hmem) (.refl _) hrequests ?_
      intro req hreq hseq
      exact hid (seqOfLogicId_inj (h.range id hmem) ⟨hlaunch.pos, hlaunch.lt⟩
        (hseq.symm.trans (hown req (hsub.subset hreq))))

/-- **Nothing is launched or resumed**: instances may be deleted, and requests dropped. -/
theorem Inv.quiet (h : b.Inv size start) (hpool : b'.game.objMgr.playerPool.Ok)
    (hlogic : LogicInv size start b'.game.logicModule)
    (hcreated : b'.game.logicModule.store.created = b.game.logicModule.store.created)
    (hlookup : ∀ id d, b'.game.logicModule.store.logicDataMap.lookup id = some d →
      b.game.logicModule.store.logicDataMap.lookup id = some d)
    (hrequests : b'.requests.Sublist b.requests)
    (hlaunches : ∀ id, id ∈ b.game.logicModule.store.created → b'.launches id = b.launches id) :
    b'.Inv size start := by
  refine ⟨hpool, hlogic, ?_, fun id d hd => ?_, fun req hreq => ?_, fun id d hd htype => ?_⟩
  · rw [hcreated]
    exact h.range
  · rw [hcreated]
    exact h.head id d (hlookup id d hd)
  · rw [hcreated]
    exact h.seqs req (hrequests.subset hreq)
  · have hd' := hlookup id d hd
    exact (h.logins id d hd' htype).others (hlaunches id (h.head id d hd').1) hrequests
      (List.append_nil _).symm (fun _ h => absurd h List.not_mem_nil)

theorem Inv.answered (h : b.Inv size start) {req msg : ProtoSs.Msg} (hreq : req ∈ b.requests)
    (hanswers : Answers req msg) :
    logicIdOfSeq msg.head.seq ∈ b.game.logicModule.store.created ∧
      req.head.seq = seqOfLogicId (logicIdOfSeq msg.head.seq) := by
  obtain ⟨id, hid, hseq⟩ := h.seqs req hreq
  obtain ⟨h₁, h₂⟩ := h.range id hid
  rw [hanswers.2.1, hseq, logicIdOfSeq_seqOfLogicId h₁.le h₂]
  exact ⟨hid, rfl⟩

theorem Inv.resumed (h : b.Inv size start) {req msg : ProtoSs.Msg} {d : LogicData LogicBody}
    {w w' : GameWorld} (hreq : req ∈ b.requests) (hanswers : Answers req msg)
    (hresume : LogicModule.Resumed (logicTypes codec) (logicIdOfSeq msg.head.seq) (.ss msg) d
      b.game.logicModule b'.game.logicModule w w')
    (hw : w.toDatasvr = []) (hpool : b'.game.objMgr.playerPool.Ok)
    (hlogic : LogicInv size start b'.game.logicModule)
    (hrequests : b'.requests = b.requests.erase req ++ w'.toDatasvr)
    (hlaunches : b'.launches = b.launches) : b'.Inv size start := by
  obtain ⟨hid, hseq⟩ := h.answered hreq hanswers
  generalize logicIdOfSeq msg.head.seq = logicId at hresume hid hseq
  obtain ⟨d₁, reqs, uids, hs, hdata, -⟩ := hresume.spec
  obtain ⟨sent, hsent, hsub⟩ := hs.acts.toDatasvr
  rw [hw, List.nil_append] at hsent
  rw [hsent] at hrequests
  have hlogicId := (h.head logicId d hresume.found).2
  have hown' : ∀ r ∈ sent, r.head.seq = seqOfLogicId logicId := by
    intro r hr
    rw [hs.own r (hsub.subset hr), requestSeq, hlogicId]
  refine ⟨hpool, hlogic, ?_, fun id d' hd' => ?_, fun r hr => ?_, fun id d' hd' htype => ?_⟩
  · rw [hresume.created]
    exact h.range
  · rw [hresume.created]
    by_cases hne : id = logicId
    · subst hne
      obtain ⟨rfl, -⟩ := hdata d' hd'
      exact ⟨hid, hs.head.1.trans hlogicId⟩
    · rw [hresume.others id hne] at hd'
      exact h.head id d' hd'
  · rw [hresume.created]
    rw [hrequests] at hr
    rcases List.mem_append.mp hr with hr | hr
    · exact h.seqs r (List.mem_of_mem_erase hr)
    · exact ⟨logicId, hid, hown' r hr⟩
  · by_cases hne : id = logicId
    · subst hne
      obtain ⟨rfl, hspec⟩ := hdata d' hd'
      have hlogin := hs.head.2.symm.trans htype
      obtain ⟨hbody, -, req', rfl, hasked, htwo⟩ := hspec hlogin
      have hwait := h.logins id d hresume.found hlogin
      have hfirst : ∀ o, b'.launches id = some o → d'.head.step = 1 → ∀ req ∈ sent,
          req ∈ o.sent.toDatasvr := fun _ _ hone => by
        rw [htwo] at hone
        exact absurd hone (by decide)
      refine .asking ?_ (by rw [hbody]; exact hwait.player) ?_ hsub hrequests hasked hfirst
      · rw [hlaunches]
        obtain ⟨o, ho, hcmd, hremembers⟩ := hwait.launch
        exact ⟨o, ho, hcmd, by rw [hbody]; exact hremembers.playerIdx,
          by rw [hbody]; exact hremembers.uid, by rw [hbody]; exact hremembers.passwordHash⟩
      · -- the request that is answered was the only one of this instance
        have hcount := hwait.one
        have herase := List.countP_erase (fun r => r.head.seq = seqOfLogicId id) b.requests req
        rw [if_pos ⟨hreq, decide_eq_true hseq⟩] at herase
        have hzero : (b.requests.erase req).countP (fun r => r.head.seq = seqOfLogicId id) = 0 := by
          omega
        intro r hr hrseq
        exact List.countP_eq_zero.mp hzero r hr (decide_eq_true hrseq)
    · rw [hresume.others id hne] at hd'
      have hmem := (h.head id d' hd').1
      refine (h.logins id d' hd' htype).others (by rw [hlaunches]) List.erase_sublist hrequests ?_
      intro r hr hrseq
      exact hne (seqOfLogicId_inj (h.range id hmem) (h.range logicId hid)
        (hrseq.symm.trans (hown' r hr)))

end

/-! ### Every step -/

open GameSvr (ConnsvrRun Enters)

/-- What one step does. -/
inductive Moves (codec : Codec) (b : Backend) : BackendInput → Backend → GameOut → Prop
  | connsvr (msg : ConnMsg) (ret : GameRet) (game : GameSvr) (out : GameOut) :
      ConnsvrRun codec b.game msg ret game out →
      GameSvr.ConnsvrStep b.game.objMgr msg game.objMgr out.toConnsvr →
      Moves codec b (.connsvr msg ret) (b.afterConnsvr codec msg game out) out
  | datasvr (req : ProtoSs.Msg) (answer : Bytes) (ret : GameRet) (game : GameSvr)
      (w' : GameWorld) : req ∈ b.requests →
      (∀ msg, b.game.answerMsg codec answer = some msg → Answers req msg) →
      Answered codec (b.game.answerMsg codec answer) b.game.logicModule game.logicModule
        (b.game.world ret) w' →
      game.objMgr = w'.objMgr → ObjMgrModule.SamePlayers b.game.objMgr game.objMgr →
      Moves codec b (.datasvr req answer ret)
        (b.afterDatasvr codec req answer game (GameSvr.sent w')) (GameSvr.sent w')
  | update (now : TimeValue) (game : GameSvr) : game.objMgr = b.game.objMgr →
      game.logicModule.store.created = b.game.logicModule.store.created →
      (∀ id d, game.logicModule.store.logicDataMap.lookup id = some d →
        b.game.logicModule.store.logicDataMap.lookup id = some d) →
      Moves codec b (.update now) { b with game := game } ⟨[], [], []⟩

section
variable {codec : Codec} {ok : Backend → BackendInput → Prop} {size : Nat} {start : Int}
  {b b' b₀ : Backend} {i : BackendInput} {out : GameOut}

theorem assigned_eq {msg : ConnMsg} {connData : ConnData} {m : ObjMgrModule}
    (h : Enters b.game.objMgr msg connData m) : assigned b.game msg = connData := by
  cases h with
  | start k m hcmd hadd => simp only [assigned, hcmd, hadd.head]
  | proc hcmd => simp only [assigned, hcmd]

theorem enters_frame {m m' : ObjMgrModule} {msg : ConnMsg} {connData : ConnData}
    (h : Enters m msg connData m') : m'.uidToPlayerIdxMap = m.uidToPlayerIdxMap ∧
      m'.cityPool = m.cityPool ∧ ∀ k, m.Live k → m'.Live k ∧ m'.player k = m.player k := by
  cases h with
  | start k m hcmd hadd =>
      refine ⟨hadd.uidToPlayerIdxMap, hadd.cityPool, fun j hj => ⟨(hadd.live j).mpr (Or.inl hj), ?_⟩⟩
      refine hadd.others j ?_
      rintro rfl
      exact hadd.fresh hj
  | proc hcmd => exact ⟨rfl, rfl, fun k hk => ⟨hk, rfl⟩⟩

/-- **A message of a client** keeps the instances and requests in order. -/
theorem Inv.handled (h : b.Inv size start) {msg : ConnMsg} {connData : ConnData}
    {raw : LogicBody} {game : GameSvr} {out : GameOut} {w w' : GameWorld}
    (hhandled : Handled codec (b.game.clientMsg codec msg) connData raw b.game.logicModule
      game.logicModule w w')
    (hassigned : assigned b.game msg = connData) (hw : w.toDatasvr = [])
    (hpool : game.objMgr.playerPool.Ok) (hlogic : LogicInv size start game.logicModule)
    (hout : out = GameSvr.sent w') : (b.afterConnsvr codec msg game out).Inv size start := by
  rcases hhandled with ⟨hm, rfl⟩ | ⟨csMsg, logicId, hmsg, -, hlaunch⟩
  · have hnew : ∀ id, ¬ IsNew b.game game id := by
      rintro id ⟨hid, hid'⟩
      rw [hm] at hid
      exact hid' hid
    refine h.quiet hpool hlogic (congrArg (fun m => m.store.created) hm) (fun id d hd => ?_) ?_
      (fun id _ => if_neg (hnew id))
    · rw [← hm]
      exact hd
    · show (b.requests ++ out.toDatasvr).Sublist b.requests
      rw [hout]
      show (b.requests ++ w'.toDatasvr).Sublist b.requests
      rw [hw, List.append_nil]
  · refine h.launched hlaunch hw hpool hlogic ?_ (fun id hid => ?_) ?_
    · show b.requests ++ out.toDatasvr = _
      rw [hout]
      rfl
    · exact if_neg (fun hnew => hnew.2 hid)
    · intro hlogin csMsg' connData' hargs
      cases hargs
      have hnew : IsNew b.game game logicId :=
        ⟨by rw [hlaunch.created]; exact List.mem_cons_self, hlaunch.fresh⟩
      refine ⟨_, (if_pos hnew).trans (congrArg _ hmsg), rfl, hassigned, ?_, ?_⟩
      · rw [hout]
        rfl
      · exact cmdLogicTypeMap_login hlogin

theorem Inv.saving (h : b.Inv size start) {msg : ConnMsg} {playerIdx : Int} {raw : LogicBody}
    {game : GameSvr} {out : GameOut} {w w' : GameWorld}
    (hsaving : Saving codec playerIdx raw b.game.logicModule game.logicModule w w')
    (hw : w.toDatasvr = []) (hpool : game.objMgr.playerPool.Ok)
    (hlogic : LogicInv size start game.logicModule) (hout : out = GameSvr.sent w') :
    (b.afterConnsvr codec msg game out).Inv size start := by
  rcases hsaving with ⟨hm, rfl, -⟩ | ⟨logicId, hlaunch⟩
  · have hhandled : Handled codec (b.game.clientMsg codec msg) (assigned b.game msg) raw
        b.game.logicModule game.logicModule w' w' := Or.inl ⟨hm, rfl⟩
    exact h.handled hhandled rfl hw hpool hlogic hout
  · refine h.launched hlaunch hw hpool hlogic ?_ (fun id hid => ?_) ?_
    · show b.requests ++ out.toDatasvr = _
      rw [hout]
      rfl
    · exact if_neg (fun hnew => hnew.2 hid)
    · exact fun hlogin => absurd hlogin (by decide)

/-- **Every step** is one of the moves, and keeps the instances and requests in order. -/
theorem step_moves (h : b.Inv size start) (hsize : 1 ≤ size)
    (hseed : (Random.init 0 start).Seeded) (hp : b.Possible codec i) (hroomy : b.Roomy i)
    (hstep : b.step codec i = .ok (some (b', out))) :
    Moves codec b i b' out ∧ b'.Inv size start := by
  cases i with
  | connsvr msg ret =>
      obtain ⟨⟨game, out'⟩, hgame, hstep⟩ := bind_eq_ok.mp hstep
      cases hstep
      obtain ⟨hrun, hlogic⟩ := GameSvr.onConnsvr_run hsize hseed h.pool h.logic hroomy hgame
      obtain ⟨hpool, hconn⟩ := GameSvr.onConnsvr_spec h.pool hgame
      refine ⟨.connsvr msg ret game out hrun hconn, ?_⟩
      cases hrun with
      | handled connData m w' henters hhandled hobj hout =>
          exact h.handled hhandled (assigned_eq henters) rfl hpool hlogic hout
      | stopped w' hcmd hsaving hdel hout => exact h.saving hsaving rfl hpool hlogic hout
  | datasvr req answer ret =>
      obtain ⟨⟨game, out'⟩, hgame, hstep⟩ := bind_eq_ok.mp hstep
      cases hstep
      obtain ⟨⟨w', hanswered, hobj, rfl⟩, hlogic⟩ := GameSvr.onDatasvr_run hsize h.logic hgame
      obtain ⟨hsame, -⟩ := GameSvr.onDatasvr_spec hgame
      have hpool : game.objMgr.playerPool.Ok := hsame.pool h.pool
      refine ⟨.datasvr req answer ret game w' hp.1 hp.2 hanswered hobj hsame, ?_⟩
      rcases hanswered with ⟨hm, rfl⟩ | ⟨msg, d, hmsg, hresume⟩
      · refine h.quiet hpool hlogic (congrArg (fun m => m.store.created) hm) (fun id d hd => ?_) ?_
          (fun _ _ => rfl)
        · rw [← hm]
          exact hd
        · show (b.requests.erase req ++ []).Sublist b.requests
          rw [List.append_nil]
          exact List.erase_sublist
      · exact h.resumed hp.1 (hp.2 msg hmsg) hresume rfl hpool hlogic rfl rfl
  | update now =>
      obtain ⟨game, hgame, hstep⟩ := bind_eq_ok.mp hstep
      cases game with
      | none => cases hstep
      | some game =>
          cases hstep
          obtain ⟨hobj, hcreated, hlookup, hlogic⟩ := GameSvr.onUpdate_run hsize h.logic hgame
          refine ⟨.update now game hobj hcreated hlookup, ?_⟩
          refine h.quiet ?_ hlogic hcreated hlookup (.refl _) (fun _ _ => rfl)
          show game.objMgr.playerPool.Ok
          rw [hobj]
          exact h.pool

/-- **Every state of a run** is in order, and satisfies what every move preserves. -/
theorem Run.induct {P : Backend → Prop} (hstart : b₀.Started size start)
    (hroomy : ∀ b i, ok b i → b.Roomy i) (h₀ : P b₀)
    (hmoves : ∀ b i b' out, b.Inv size start → b'.Inv size start → P b → ok b i →
      Moves codec b i b' out → P b')
    (hrun : Run codec ok b₀ b) : b.Inv size start ∧ P b := by
  induction hrun with
  | start => exact ⟨hstart.inv, h₀⟩
  | step i hrun hp hok hstep ih =>
      obtain ⟨hinv, hP⟩ := ih
      obtain ⟨hmove, hinv'⟩ :=
        step_moves hinv hstart.room.1 hstart.seeded hp (hroomy _ _ hok) hstep
      exact ⟨hinv', hmoves _ _ _ _ hinv hinv' hP hok hmove⟩

/-- **The unit of a player** in a step: it is as it was, or free now, or a `CONN_START` has
allocated it. -/
theorem Moves.players (h : Moves codec b i b' out) (k : Nat) :
    (b'.gen k = b.gen k ∧ (b'.game.objMgr.Live k → b.game.objMgr.Live k ∧
        (b'.game.objMgr.player k).connFd = (b.game.objMgr.player k).connFd)) ∨
      ∃ msg ret, i = .connsvr msg ret ∧ msg.connData.connCmd = .connStart ∧
        b.game.objMgr.playerPool.freeMemPos = k ∧ ¬ b.game.objMgr.Live k ∧
        b'.game.objMgr.Live k ∧ (b'.game.objMgr.player k).connFd = msg.connData.connFd := by
  cases h with
  | connsvr msg ret game out hrun hconn =>
      have hgen : ¬ Allocates b.game game k →
          (b.afterConnsvr codec msg game out).gen k = b.gen k := fun hno => if_neg hno
      cases hconn with
      | started j hcmd hfree hnew hlive hfd hold _ =>
          by_cases hk : k = j
          · subst hk
            exact Or.inr ⟨msg, ret, rfl, hcmd, hfree, hnew, (hlive k).mpr (Or.inr rfl), hfd⟩
          · have hback : game.objMgr.Live k → b.game.objMgr.Live k := fun h =>
              ((hlive k).mp h).resolve_right hk
            exact Or.inl ⟨hgen (fun h => h.1 (hback h.2)), fun h => ⟨hback h, hold k hk⟩⟩
      | processed hcmd hsame _ =>
          exact Or.inl ⟨hgen (fun h => h.1 ((hsame.live k).mp h.2)),
            fun h => ⟨(hsame.live k).mp h, hsame.connFd k⟩⟩
      | stopped hcmd hlive hfd _ =>
          exact Or.inl ⟨hgen (fun h => h.1 ((hlive k).mp h.2).1),
            fun h => ⟨((hlive k).mp h).1, hfd k⟩⟩
  | datasvr req answer ret game w' hreq hanswers hanswered hobj hsame =>
      exact Or.inl ⟨rfl, fun h => ⟨(hsame.live k).mp h, hsame.connFd k⟩⟩
  | update now game hobj hcreated hlookup =>
      refine Or.inl ⟨rfl, fun h => ?_⟩
      have hobj' : game.objMgr = b.game.objMgr := hobj
      dsimp only at h ⊢
      rw [hobj'] at h ⊢
      exact ⟨h, rfl⟩

/-- A login that a message of connsvr has just launched. -/
structure Launches (codec : Codec) (b : Backend) (msg : ConnMsg) (ret : GameRet) (b' : Backend)
    (out : GameOut) (id : Int) (d : LogicData LogicBody) (csMsg : ProtoCs.Msg) : Prop where
  parsed : b.game.clientMsg codec msg = some csMsg
  login : csMsg.head.cmd = ProtoCs.loginReqFieldNumber
  launch : b'.launches id =
    some ⟨assigned b.game msg, csMsg, b'.gen, b.game.objMgr, out⟩
  enters : Enters b.game.objMgr msg (assigned b.game msg) b'.game.objMgr
  begun : ∃ req w', out = GameSvr.sent w' ∧ out.toDatasvr.Sublist [req] ∧
    LogicLogin.Begun codec { b.game.world ret with objMgr := b'.game.objMgr } csMsg
      (assigned b.game msg) d req w'

/-- **A login that waits after a step** was there before, with what it knows, or has just
been launched.  If the step was the answer to its request to save, it now waits for the
data. -/
theorem Moves.logins (hinv : b.Inv size start) (h : Moves codec b i b' out) {id : Int}
    {d : LogicData LogicBody}
    (hd : b'.game.logicModule.store.logicDataMap.lookup id = some d)
    (htype : d.head.logicType = MsgModule.logicLogin) :
    (∃ d₀, b.game.logicModule.store.logicDataMap.lookup id = some d₀ ∧
        d₀.head.logicType = MsgModule.logicLogin ∧ d.body = d₀.body ∧
        b'.launches id = b.launches id ∧ (d = d₀ ∨ d₀.head.step = 1 ∧ d.head.step = 2 ∧
          ∃ req ∈ b.requests, req.head.seq = seqOfLogicId id)) ∨
      ∃ msg ret csMsg, i = .connsvr msg ret ∧ Launches codec b msg ret b' out id d csMsg := by
  cases h with
  | connsvr msg ret game out hrun hconn =>
      have hkept : b.game.logicModule.store.logicDataMap.lookup id = some d →
          (b.afterConnsvr codec msg game out).launches id = b.launches id :=
        fun hd => if_neg (fun hnew => hnew.2 (hinv.head id d hd).1)
      cases hrun with
      | handled connData m w' henters hhandled hobj hout =>
          rcases hhandled.logins hd htype with hd | ⟨csMsg, req, hmsg, hcmd, hold, hcreated, hacts,
            hbegun⟩
          · exact Or.inl ⟨d, hd, htype, rfl, hkept hd, Or.inl rfl⟩
          · have hisNew : IsNew b.game game id := ⟨hcreated, hold⟩
            obtain ⟨sent, hsent, hsub⟩ := hacts.toDatasvr
            have hdata : out.toDatasvr = sent := by
              rw [hout]
              exact hsent
            refine Or.inr ⟨msg, ret, csMsg, rfl, hmsg, hcmd,
              (if_pos hisNew).trans (congrArg _ hmsg), ?_, req, w', hout, hdata ▸ hsub, ?_⟩
            · rw [assigned_eq henters]
              show Enters b.game.objMgr msg connData game.objMgr
              rw [hobj]
              exact henters
            · rw [assigned_eq henters]
              show LogicLogin.Begun codec { b.game.world ret with objMgr := game.objMgr } csMsg
                connData d req w'
              rw [hobj]
              exact hbegun
      | stopped w' hcmd hsaving hdel hout =>
          have hd := hsaving.logins hd htype
          exact Or.inl ⟨d, hd, htype, rfl, hkept hd, Or.inl rfl⟩
  | datasvr req answer ret game w' hreq hanswers hanswered hobj hsame =>
      obtain ⟨d₀, hd₀, htype₀, hbody, hnext⟩ := hanswered.logins hd htype
      refine Or.inl ⟨d₀, hd₀, htype₀, hbody, rfl, hnext.imp_right ?_⟩
      rintro ⟨msg, hmsg, rfl, hone, htwo⟩
      exact ⟨hone, htwo, req, hreq, (hinv.answered hreq (hanswers msg hmsg)).2⟩
  | update now game hobj hcreated hlookup =>
      exact Or.inl ⟨d, hlookup id d hd, htype, rfl, rfl, Or.inl rfl⟩

/-- A login ends well: datasvr has given the data for its uid and the hash that its client
presented, the data is loaded into the player it remembers, the player has the uid, and the
instance is gone. -/
structure LoggedIn (codec : Codec) (b : Backend) (i : BackendInput) (b' : Backend)
    (out : GameOut) (id : Int) (d : LogicData LogicBody) (msg : ProtoSs.Msg) (k : Nat) :
    Prop where
  input : ∃ answer ret, i = .datasvr (Player.getPlayerDataReq (seqOfLogicId id) k d.body.uid
    d.body.passwordHash) answer ret ∧ b.game.answerMsg codec answer = some msg
  answers : Answers (Player.getPlayerDataReq (seqOfLogicId id) k d.body.uid
    d.body.passwordHash) msg
  good : msg.head.ret = ProtoSs.retOk
  logicId : logicIdOfSeq msg.head.seq = id
  found : b.game.logicModule.store.logicDataMap.lookup id = some d
  ended : b'.game.logicModule.store.logicDataMap.lookup id = none
  login : d.head.logicType = MsgModule.logicLogin
  step : d.head.step = 2
  playerIdx : d.body.playerIdx = k
  live : b.game.objMgr.Live k
  run : ∃ w w' : GameWorld, w.objMgr = b.game.objMgr ∧ w'.objMgr = b'.game.objMgr ∧
    LogicLogin.onStep2 codec d (.ss msg) w = .ok (logicFinish, d, w')
  uids : out.uids = [(k, d.body.uid)]
  loaded : b'.loaded = Function.update b.loaded k
    (some (d.body.uid, LogicLogin.answerData codec msg))

/-- What a step does to the objects. -/
inductive Effect (codec : Codec) (b : Backend) (i : BackendInput) (b' : Backend)
    (out : GameOut) : Prop
  | added (msg : ConnMsg) (ret : GameRet) (k : Nat) : i = .connsvr msg ret →
      msg.connData.connCmd = .connStart →
      ObjMgrModule.PlayerAdded b.game.objMgr k msg.connData.connFd b'.game.objMgr →
      b'.loaded = Function.update b.loaded k none → out.uids = [] → Effect codec b i b' out
  | kept : b'.game.objMgr = b.game.objMgr → b'.loaded = b.loaded → out.uids = [] →
      Effect codec b i b' out
  | deleted (msg : ConnMsg) (ret : GameRet) : i = .connsvr msg ret →
      msg.connData.connCmd = .connStop →
      b.game.objMgr.delPlayer msg.connData.playerIdx = .ok b'.game.objMgr →
      b'.loaded = b.loaded → out.uids = [] → Effect codec b i b' out
  | loggedIn (id : Int) (d : LogicData LogicBody) (msg : ProtoSs.Msg) (k : Nat) :
      LoggedIn codec b i b' out id d msg k → Effect codec b i b' out

theorem Moves.effect (hinv : b.Inv size start) (h : Moves codec b i b' out) :
    Effect codec b i b' out := by
  cases h with
  | connsvr msg ret game out hrun hconn =>
      cases hrun with
      | handled connData m w' henters hhandled hobj hout =>
          obtain ⟨reqs, hacts, -, -⟩ := hhandled.acts
          have huids : out.uids = [] := by
            rw [hout]
            exact hacts.uids
          cases henters with
          | start k m hcmd hadd =>
              refine .added msg ret k rfl hcmd (hobj ▸ hadd) (funext fun j => ?_) huids
              have hiff : Allocates b.game game j ↔ j = k := by
                unfold Allocates
                rw [hobj, hadd.live j]
                constructor
                · rintro ⟨hno, hj⟩
                  exact hj.resolve_left hno
                · rintro rfl
                  exact ⟨hadd.fresh, Or.inr rfl⟩
              show (if Allocates b.game game j then none else b.loaded j) = _
              simp only [hiff, Function.update_apply]
          | proc hcmd =>
              refine .kept hobj (funext fun j => if_neg (fun h => h.1 ?_)) huids
              have hj := h.2
              rw [hobj] at hj
              exact hj
      | stopped w' hcmd hsaving hdel hout =>
          obtain ⟨reqs, hacts, -, -⟩ := hsaving.acts
          have huids : out.uids = [] := by
            rw [hout]
            exact hacts.uids
          refine .deleted msg ret rfl hcmd hdel (funext fun j => if_neg (fun h => h.1 ?_)) huids
          exact ((ObjMgrModule.delPlayer_spec hinv.pool hdel).2.1 j |>.mp h.2).1
  | datasvr req answer ret game w' hreq hanswers hanswered hobj hsame =>
      by_cases huids : w'.uids = []
      · obtain ⟨reqs, uids, hacts, hquiet, -⟩ := hanswered.acts
        have hnone : uids = [] := by
          rw [← huids, hacts.uids]
          rfl
        have hsent : (GameSvr.sent w').uids = [] := huids
        refine .kept (hobj.trans (hquiet hnone)) (funext fun j => if_neg ?_) hsent
        rw [hsent]
        exact List.not_mem_nil
      · obtain ⟨msg, d, k, hmsg, hd, htype, htwo, hret, hstep, hended, hset, hidx, hk⟩ :=
          hanswered.uids rfl huids
        have hans := hanswers msg hmsg
        obtain ⟨-, hseq⟩ := hinv.answered hreq hans
        have hlogicId := (hinv.head _ d hd).2
        have hwait := hinv.logins _ d hd htype
        have hreq' : req = Player.getPlayerDataReq (seqOfLogicId (logicIdOfSeq msg.head.seq)) k
            d.body.uid d.body.passwordHash := by
          obtain ⟨-, ⟨hone, -⟩ | ⟨-, hasked⟩⟩ := hwait.asked req hreq hseq
          · rw [htwo] at hone
            exact absurd hone (by decide)
          · rw [hasked, requestSeq, hlogicId, hidx]
        subst hreq'
        have hsent : (GameSvr.sent w').uids = [(k, d.body.uid)] := hset
        refine .loggedIn _ d msg k ⟨⟨answer, ret, rfl, hmsg⟩, hans, hret, rfl, hd, hended, htype, htwo,
          hidx, hk, ⟨_, w', rfl, hobj.symm, hstep⟩, hsent, funext fun j => ?_⟩
        show (if j ∈ (GameSvr.sent w').uids.map Prod.fst then
          answered codec _ (b.game.answerMsg codec answer) else b.loaded j) = _
        rw [hsent, hmsg, List.map_singleton]
        simp only [List.mem_singleton, Function.update_apply]
        rfl
  | update now game hobj hcreated hlookup => exact .kept hobj rfl rfl

theorem Effect.of_uids (h : Effect codec b i b' out) {k : Nat} {u : UInt64}
    (hu : (k, u) ∈ out.uids) : ∃ id d msg, LoggedIn codec b i b' out id d msg k := by
  have hnone : out.uids ≠ [] := List.ne_nil_of_mem hu
  cases h with
  | added msg ret k hi hcmd hadd hloaded huids => exact absurd huids hnone
  | kept hobj hloaded huids => exact absurd huids hnone
  | deleted msg ret hi hcmd hdel hloaded huids => exact absurd huids hnone
  | loggedIn id d msg j hlog =>
      rw [hlog.uids] at hu
      obtain ⟨rfl, -⟩ := Prod.mk.inj (List.mem_singleton.mp hu)
      exact ⟨id, d, msg, hlog⟩

/-- **A player is saved** when a `CONN_STOP` names it, or when a login takes it for the
player of its uid. -/
theorem Moves.saves (h : Moves codec b i b' out) {req : ProtoSs.Msg}
    (hreq : req ∈ out.toDatasvr) (hsave : req.setPlayerDataReq ≠ none) :
    ∃ msg ret, ∃ k : Nat, i = .connsvr msg ret ∧
      ((msg.connData.connCmd = .connStop ∧ msg.connData.playerIdx = k ∧ b.game.objMgr.Live k ∧
          Player.Saves codec b.game.objMgr k req) ∨
        ∃ csMsg connData, b.game.clientMsg codec msg = some csMsg ∧
          csMsg.head.cmd = ProtoCs.loginReqFieldNumber ∧
          Enters b.game.objMgr msg connData b'.game.objMgr ∧
          LogicLogin.Kicks b'.game.objMgr csMsg k ∧
          Player.Saves codec b'.game.objMgr k req) := by
  have hsent : ∀ {w w' : GameWorld} {reqs uids}, Acts w w' reqs uids → w.toDatasvr = [] →
      out = GameSvr.sent w' → req ∈ reqs := by
    rintro w w' reqs uids hacts hw rfl
    obtain ⟨sent, hsent, hsub⟩ := hacts.toDatasvr
    rw [hw, List.nil_append] at hsent
    have hmem : req ∈ w'.toDatasvr := hreq
    rw [hsent] at hmem
    exact hsub.subset hmem
  cases h with
  | connsvr msg ret game out hrun hconn =>
      cases hrun with
      | handled connData m w' henters hhandled hobj hout =>
          obtain ⟨reqs, hacts, -, hsaves⟩ := hhandled.acts
          obtain ⟨csMsg, k, hmsg, hcmd, hkicks, hk⟩ := hsaves req (hsent hacts rfl hout) hsave
          subst hobj
          exact ⟨msg, ret, k, rfl, Or.inr ⟨csMsg, connData, hmsg, hcmd, henters, hkicks, hk⟩⟩
      | stopped w' hcmd hsaving hdel hout =>
          obtain ⟨reqs, hacts, -, hsaves⟩ := hsaving.acts
          obtain ⟨k, hidx, hlive, hk⟩ := hsaves req (hsent hacts rfl hout) hsave
          exact ⟨msg, ret, k, rfl, Or.inl ⟨hcmd, hidx, hlive, hk⟩⟩
  | datasvr req' answer ret game w' hreq' hanswers hanswered hobj hsame =>
      obtain ⟨reqs, uids, hacts, -, hnone⟩ := hanswered.acts
      exact absurd (hnone req (hsent hacts rfl rfl)) hsave
  | update now game hobj hcreated hlookup => exact absurd hreq List.not_mem_nil

end

/-! ## A small server -/

/-- gamesvr with room for `players` players and for one city. -/
def fresh (players : Nat) : Backend where
  game := GameSvr.init players 1 4 (fun _ => Player.init) (fun _ => City.init) 7
  requests := []
  gen := fun _ => 0
  launches := fun _ => none
  loaded := fun _ => none

/-- The system calls succeed, in the second 7. -/
def calm : GameRet := ⟨7, ⟨0, 0, 0, 0, [], [], []⟩, fun _ => true, 0, fun _ => 0⟩

/-- The account "kmpkmdn", whose uid ends in the 32 bits of 1, and the password "1234". -/
def credentials : ProtoCs.Credentials where
  account := [107, 109, 112, 107, 109, 100, 110]
  password := [49, 50, 51, 52]

/-- The uid of the account. -/
def theUid : UInt64 := Utils.fnv64aHash credentials.account

/-- A client logs in. -/
def loginReq : ProtoCs.Msg where
  head := { cmd := ProtoCs.loginReqFieldNumber }
  loginReq := some credentials

/-- datasvr is asked for the data of the account, for the player `k`. -/
def dataReq (seq : UInt64) (k : Int) : ProtoSs.Msg :=
  Player.getPlayerDataReq seq k theUid (Utils.fnv64aHash credentials.password)

/-- The requests of two logins at a time, for the first two players. -/
def firstReq : ProtoSs.Msg := dataReq 4295305193 1
def secondReq : ProtoSs.Msg := dataReq 9868175150 2

/-- The requests of a login that follows a login: it kicks off the first player. -/
def kickReq : ProtoSs.Msg := Player.setPlayerDataReq 5573207854 1 theUid (Wire.playerData {})
def nextReq : ProtoSs.Msg := dataReq 5573207854 2

/-- The answer that all is well; a record in it is empty. -/
def okRes (req : ProtoSs.Msg) : ProtoSs.Msg where
  head := ⟨req.head.cmd + 1, ProtoSs.retOk, req.head.seq, req.head.playerIdx⟩

/-- The generated code, for this client and the answers to these requests. -/
def loginCodec : Codec :=
  Wire.codec [(Wire.csMsg loginReq, loginReq)]
    [(Wire.ssMsg (okRes firstReq), okRes firstReq), (Wire.ssMsg (okRes secondReq), okRes secondReq),
     (Wire.ssMsg (okRes kickReq), okRes kickReq), (Wire.ssMsg (okRes nextReq), okRes nextReq)] []

/-- The client of a new connection logs in. -/
def connect (fd : Int) : BackendInput :=
  .connsvr ⟨⟨fd, 0, .connStart⟩, Wire.csMsg loginReq⟩ calm

/-- The client of the player `k` goes. -/
def disconnect (fd k : Int) : BackendInput := .connsvr ⟨⟨fd, k, .connStop⟩, []⟩ calm

/-- datasvr answers. -/
def answer (req : ProtoSs.Msg) : BackendInput := .datasvr req (Wire.ssMsg (okRes req)) calm

theorem possible_datasvr {b : Backend} {codec : Codec} {req res : ProtoSs.Msg} {bytes : Bytes}
    {ret : GameRet} (hreq : req ∈ b.requests) (hmsg : b.game.answerMsg codec bytes = some res)
    (hanswers : Answers req res) : b.Possible codec (.datasvr req bytes ret) := by
  refine ⟨hreq, fun msg h => ?_⟩
  rw [hmsg] at h
  cases h
  exact hanswers

theorem possible_answer {b : Backend} {codec : Codec} {req : ProtoSs.Msg}
    (hreq : req ∈ b.requests)
    (hmsg : b.game.answerMsg codec (Wire.ssMsg (okRes req)) = some (okRes req)) :
    b.Possible codec (answer req) :=
  possible_datasvr hreq hmsg ⟨rfl, rfl, rfl⟩

/-- The state after a step and what was sent, if it is one. -/
def after (codec : Codec) (b : Backend) (i : BackendInput) : Backend × GameOut :=
  match b.step codec i with
  | .ok (some r) => r
  | _ => (b, ⟨[], [], []⟩)

/-- There is a step. -/
def steps (codec : Codec) (b : Backend) (i : BackendInput) : Bool :=
  match b.step codec i with
  | .ok (some _) => true
  | _ => false

theorem step_after {codec : Codec} {b : Backend} {i : BackendInput} (h : b.steps codec i = true) :
    b.step codec i = .ok (some ((b.after codec i).1, (b.after codec i).2)) := by
  unfold steps at h
  unfold after
  cases hs : b.step codec i with
  | error e =>
      rw [hs] at h
      cases h
  | ok r =>
      cases r with
      | none =>
          rw [hs] at h
          cases h
      | some r => rfl

theorem Run.after {codec : Codec} {ok : Backend → BackendInput → Prop} {b₀ b : Backend}
    {i : BackendInput} (hrun : Run codec ok b₀ b) (hp : b.Possible codec i) (hok : ok b i)
    (h : b.steps codec i = true) : Run codec ok b₀ (b.after codec i).1 :=
  hrun.step i hp hok (step_after h)

theorem fresh_started (players : Nat) : (fresh players).Started 4 7 where
  room := by decide
  seeded := ⟨by decide, by decide⟩
  game := ⟨players, 1, _, _, rfl⟩
  requests := rfl

end Backend

end PlayFrame
