/-
# `PlayFrame.GameSvr.GameLogic` — which logic a step of gamesvr runs

A message of connsvr creates at most one instance and runs its first step; a message of
datasvr runs the next step of the instance whose id it carries; the timers only delete
instances.  `ConnsvrRun` and `Resumed` say so, with the worlds before and after the step
of the logic.

The ids of the instances are ids of timers: they are not used twice as long as the
generator has not gone through its period and the heap of the timers has room to grow.
-/
import PlayFrame.GameSvr.MsgModule

namespace PlayFrame

open HeapTimer (capLimit)

namespace LogicModule

variable {β μ ω : Type}

/-- There is room for one more instance. -/
structure Roomy (m : LogicModule β) : Prop where
  period : m.store.created.length + 1 < 2147483646
  heap : 2 * m.heapTimer.heapSize < capLimit

/-- An instance is created and its first step is run. -/
structure Launched (types : LogicTypes β μ ω) (raw : β) (logicId logicType : Int) (args : μ)
    (m m' : LogicModule β) (w w' : ω) : Prop where
  pos : 0 < logicId
  lt : logicId < 9223372036854775808
  fresh : logicId ∉ m.store.created
  created : m'.store.created = logicId :: m.store.created
  others : ∀ id, id ≠ logicId →
    m'.store.logicDataMap.lookup id = m.store.logicDataMap.lookup id
  step : ∃ logic ret d', types.logicTypeMap logicType = some logic ∧
    logic.proc ⟨⟨logicId, logicType, 0⟩, raw⟩ args w = .ok (ret, d', w') ∧
    m'.store.logicDataMap.lookup logicId = if ret = logicYield then some d' else none

/-- The next step of an instance is run. -/
structure Resumed (types : LogicTypes β μ ω) (logicId : Int) (args : μ) (d : LogicData β)
    (m m' : LogicModule β) (w w' : ω) : Prop where
  found : m.store.logicDataMap.lookup logicId = some d
  created : m'.store.created = m.store.created
  others : ∀ id, id ≠ logicId →
    m'.store.logicDataMap.lookup id = m.store.logicDataMap.lookup id
  step : ∃ logic ret d', types.logicTypeMap d.head.logicType = some logic ∧
    logic.proc d args w = .ok (ret, d', w') ∧
    m'.store.logicDataMap.lookup logicId = if ret = logicYield then some d' else none

section
variable {types : LogicTypes β μ ω} {size : Nat} {start : Int} {m m₁ m' : LogicModule β}
  {logicId logicType taskDelaySecs now : Int} {args : μ} {w w' : ω} {raw : β}

theorem createLogic_heapSize (hsize : 1 ≤ size) (hm : LogicInv size start m)
    (h : m.createLogic types now raw logicType taskDelaySecs = .ok (logicId, m')) :
    m'.heapTimer.heapSize ≤ 2 * m.heapTimer.heapSize := by
  obtain ⟨hs, hcap, -⟩ := hm.reach.inv hsize
  have hlimit : capLimit ≤ 2147483648 := by decide
  simp only [createLogic] at h
  split at h
  · cases h
    omega
  split at h
  · obtain ⟨interval, -, h⟩ := bind_eq_ok.mp h
    obtain ⟨⟨id, heapTimer⟩, hreg, h⟩ := bind_eq_ok.mp h
    cases h
    exact HeapTimer.registerTimer_heapSize hs (by omega) hreg
  · cases h
    show m.heapTimer.heapSize ≤ _
    omega

theorem launch_spec (hsize : 1 ≤ size) (hseed : (Random.init 0 start).Seeded)
    (hm : LogicInv size start m) (hroomy : m.Roomy) {sz : Nat} {logic : LogicBase β μ ω}
    (hsz : types.logicDataSizeMap logicType = some sz)
    (htype : types.logicTypeMap logicType = some logic) (hd : 0 < taskDelaySecs)
    (hcreate : m.createLogic types now raw logicType taskDelaySecs = .ok (logicId, m₁))
    (hproc : m₁.proc types logicId args w = .ok (m', w')) :
    Launched types raw logicId logicType args m m' w w' ∧ LogicInv size start m' := by
  have hcap := (createLogic_heapSize hsize hm hcreate).trans_lt hroomy.heap
  obtain ⟨hc, hinv⟩ := createLogic_spec hsize hseed hm hsz hd hroomy.period hcreate hcap
  have hlookup : m₁.store.logicDataMap.lookup logicId = some ⟨⟨logicId, logicType, 0⟩, raw⟩ := by
    rw [hc.logicDataMap]
    exact Finmap.lookup_insert _
  refine ⟨?_, proc_logicInv hsize hinv hproc⟩
  rcases proc_cases hproc with ⟨-, -, hno⟩ | ⟨d, logic', ret, d', hd', htype', hstep, hcr, hmap⟩
  · have := hno _ hlookup
    rw [htype] at this
    cases this
  · rw [hlookup] at hd'
    cases hd'
    refine ⟨hc.pos, hc.lt, hc.fresh, hcr.trans hc.created, fun id hid => ?_,
      logic', ret, d', htype', hstep, ?_⟩
    · rw [hmap id, if_neg hid, hc.logicDataMap]
      exact Finmap.lookup_insert_of_ne _ hid
    · rw [hmap logicId, if_pos rfl]

theorem resume_spec (h : m.proc types logicId args w = .ok (m', w')) :
    (m' = m ∧ w' = w) ∨ ∃ d, Resumed types logicId args d m m' w w' := by
  rcases proc_cases h with ⟨rfl, rfl, -⟩ | ⟨d, logic, ret, d', hd, htype, hstep, hcr, hmap⟩
  · exact Or.inl ⟨rfl, rfl⟩
  · refine Or.inr ⟨d, hd, hcr, fun id hid => ?_, logic, ret, d', htype, hstep, ?_⟩
    · rw [hmap id, if_neg hid]
    · rw [hmap logicId, if_pos rfl]

end

end LogicModule

/-! ## The instances of gamesvr -/

section
variable {codec : Codec} {raw : LogicBody} {logicId logicType : Int} {args : StepArgs}
  {m m' : LogicModule LogicBody} {w w' : GameWorld} {d : LogicData LogicBody}
  {msg : ProtoSs.Msg}

theorem kept_of_lookup {ret : Int} {d₁ d' : LogicData LogicBody}
    {kept : Option (LogicData LogicBody)}
    (h : kept = if ret = logicYield then some d₁ else none) (hd' : kept = some d') :
    d' = d₁ ∧ ret = logicYield := by
  rw [h] at hd'
  split at hd'
  · next hret =>
    cases hd'
    exact ⟨rfl, hret⟩
  · cases hd'

/-- **The first step** of an instance does not call `set_uid`; a login goes on only as one
that has begun. -/
theorem LogicModule.Launched.spec
    (h : Launched (logicTypes codec) raw logicId logicType args m m' w w') :
    ∃ d₁ reqs, StepActs codec ⟨⟨logicId, logicType, 0⟩, raw⟩ args w d₁ w' reqs [] ∧
      (∀ d', m'.store.logicDataMap.lookup logicId = some d' → d' = d₁ ∧
        (logicType = MsgModule.logicLogin → ∃ csMsg connData req,
          args = .cs csMsg connData ∧ reqs = [req] ∧
          LogicLogin.Begun codec w csMsg connData d₁ req w')) ∧
      (logicType ≠ MsgModule.logicLogin → ∀ req ∈ reqs, req.setPlayerDataReq ≠ none →
        ∃ k : Nat, args = .playerIdx k) := by
  obtain ⟨logic, ret, d₁, htype, hstep, hlookup⟩ := h.step
  have hkept : ∀ d', m'.store.logicDataMap.lookup logicId = some d' → d' = d₁ ∧ ret = logicYield :=
    fun _ => kept_of_lookup hlookup
  by_cases hlogin : logicType = MsgModule.logicLogin
  · subst hlogin
    have hfailed : ∀ d', ret = logicFailed → m'.store.logicDataMap.lookup logicId ≠ some d' := by
      rintro d' rfl hd'
      exact absurd (hkept d' hd').2 (by decide)
    rcases logicTypes_login htype hstep with ⟨hret, rfl, rfl⟩ | ⟨-, h₀⟩ | ⟨h₁, -⟩ | ⟨h₂, -⟩
    · exact ⟨_, [], .idle rfl (.refl _) rfl, fun d' hd' => absurd hd' (hfailed d' hret),
        fun h => absurd rfl h⟩
    · obtain ⟨csMsg, connData, hargs, ⟨hret, hs⟩ | ⟨-, req, hs, hbegun⟩⟩ :=
        LogicLogin.onStep0_spec h₀
      · exact ⟨d₁, [], hs, fun d' hd' => absurd hd' (hfailed d' hret), fun h => absurd rfl h⟩
      · exact ⟨d₁, [req], hs, fun d' hd' => ⟨(hkept d' hd').1, fun _ =>
          ⟨csMsg, connData, req, hargs, rfl, hbegun⟩⟩, fun h => absurd rfl h⟩
    · exact absurd h₁ (show ¬ (0 : Int) = 1 by decide)
    · exact absurd h₂ (show ¬ (0 : Int) = 2 by decide)
  · obtain ⟨reqs, hs, hsaves⟩ := logicTypes_actsOnly htype hlogin hstep
    exact ⟨d₁, reqs, hs, fun d' hd' => ⟨(hkept d' hd').1, fun h => absurd h hlogin⟩,
      fun _ => hsaves⟩

/-- **A later step** calls `set_uid` only in a login whose answer with the data is good and
that is over then; a login that goes on has one request out. -/
theorem LogicModule.Resumed.spec
    (h : Resumed (logicTypes codec) logicId (.ss msg) d m m' w w') :
    ∃ d₁ reqs uids, StepActs codec d (.ss msg) w d₁ w' reqs uids ∧
      (∀ d', m'.store.logicDataMap.lookup logicId = some d' → d' = d₁ ∧
        (d.head.logicType = MsgModule.logicLogin → d₁.body = d.body ∧ d.head.step = 1 ∧
          ∃ req, reqs = [req] ∧ LogicLogin.Asked d₁ req ∧ d₁.head.step = 2)) ∧
      (uids = [] ∨ d.head.logicType = MsgModule.logicLogin ∧ d.head.step = 2 ∧
        msg.head.ret = ProtoSs.retOk ∧
        LogicLogin.onStep2 codec d (.ss msg) w = .ok (logicFinish, d, w') ∧
        m'.store.logicDataMap.lookup logicId = none ∧
        ∃ k : Nat, uids = [(k, d.body.uid)] ∧ d.body.playerIdx = k ∧ w.objMgr.Live k) := by
  obtain ⟨logic, ret, d₁, htype, hstep, hlookup⟩ := h.step
  have hkept : ∀ d', m'.store.logicDataMap.lookup logicId = some d' → d' = d₁ ∧ ret = logicYield :=
    fun _ => kept_of_lookup hlookup
  by_cases hlogin : d.head.logicType = MsgModule.logicLogin
  · rw [hlogin] at htype
    have hended : ∀ d', ret ≠ logicYield → m'.store.logicDataMap.lookup logicId ≠ some d' :=
      fun d' hret hd' => hret (hkept d' hd').2
    rcases logicTypes_login htype hstep with ⟨rfl, rfl, rfl⟩ | ⟨-, h₀⟩ | ⟨hone, h₁⟩ | ⟨htwo, h₂⟩
    · exact ⟨_, [], [], .idle rfl (.refl _) rfl,
        fun d' hd' => absurd hd' (hended d' (by decide)), Or.inl rfl⟩
    · cases h₀
    · rcases LogicLogin.onStep1_spec h₁ with ⟨rfl, hs⟩ | ⟨-, hd₁, req, hs, hasked⟩
      · exact ⟨d₁, [], [], hs, fun d' hd' => absurd hd' (hended d' (by decide)), Or.inl rfl⟩
      · refine ⟨d₁, [req], [], hs, fun d' hd' => ⟨(hkept d' hd').1, fun _ => ⟨?_, hone, req, rfl,
          hasked, ?_⟩⟩, Or.inl rfl⟩
        · rw [hd₁]
          rfl
        · rw [hd₁]
          rfl
    · obtain ⟨ssMsg, uids, hargs, rfl, rfl, hs, huids⟩ := LogicLogin.onStep2_spec h₂
      cases hargs
      refine ⟨d₁, [], uids, hs, fun d' hd' => absurd hd' (hended d' (by decide)), ?_⟩
      exact huids.imp_right (fun ⟨k, hu, hidx, hk, hret⟩ =>
        ⟨hlogin, htwo, hret, h₂, hlookup, k, hu, hidx, hk⟩)
  · obtain ⟨reqs, hs, -⟩ := logicTypes_actsOnly htype hlogin hstep
    exact ⟨d₁, reqs, [], hs, fun d' hd' => ⟨(hkept d' hd').1, fun h => absurd h hlogin⟩, Or.inl rfl⟩

end

/-! ## Received messages -/

/-- The message that a received package is parsed to. -/
def parsed (codec : Codec) (T : PkgClass) : Result (Option Bytes) → Option (Pkg T)
  | .ok (some pkg) => codec.parseFromArray T pkg
  | _ => none

/-- What becomes of a message of a client: nothing, or an instance is launched. -/
def Handled (codec : Codec) (msg : Option ProtoCs.Msg) (connData : ConnData) (raw : LogicBody)
    (m m' : LogicModule LogicBody) (w w' : GameWorld) : Prop :=
  (m' = m ∧ w' = w) ∨ ∃ csMsg logicId, msg = some csMsg ∧ csMsg.head.cmd ∈ MsgModule.commands .cs ∧
    LogicModule.Launched (logicTypes codec) raw logicId
      (MsgModule.cmdLogicTypeMap csMsg.head.cmd) (.cs csMsg connData) m m' w w'

/-- What becomes of a message of datasvr: nothing, or the instance whose id it carries is
resumed. -/
def Answered (codec : Codec) (msg : Option ProtoSs.Msg) (m m' : LogicModule LogicBody)
    (w w' : GameWorld) : Prop :=
  (m' = m ∧ w' = w) ∨ ∃ ssMsg d, msg = some ssMsg ∧
    LogicModule.Resumed (logicTypes codec) (logicIdOfSeq ssMsg.head.seq) (.ss ssMsg) d m m' w w'

/-- What becomes of the player that is to be saved: nothing, or an instance is launched. -/
def Saving (codec : Codec) (playerIdx : Int) (raw : LogicBody)
    (m m' : LogicModule LogicBody) (w w' : GameWorld) : Prop :=
  (m' = m ∧ w' = w ∧ w.objMgr.getPlayer playerIdx = none) ∨ ∃ logicId,
    LogicModule.Launched (logicTypes codec) raw logicId MsgModule.logicUpdatePlayer
      (.playerIdx playerIdx) m m' w w'

section
variable {codec : Codec} {raw : LogicBody} {connData : ConnData} {playerIdx id : Int}
  {csMsg : Option ProtoCs.Msg} {ssMsg : Option ProtoSs.Msg} {m m' : LogicModule LogicBody}
  {w w' : GameWorld} {d : LogicData LogicBody}

theorem cmdLogicTypeMap_login {cmd : Int}
    (h : MsgModule.cmdLogicTypeMap cmd = MsgModule.logicLogin) :
    cmd = ProtoCs.loginReqFieldNumber := by
  unfold MsgModule.cmdLogicTypeMap at h
  split at h
  · cases h
  split at h
  · cases h
  split at h
  · next hcmd => exact hcmd
  · cases h

/-- **A message of a client** touches no object, and only a login saves a player. -/
theorem Handled.acts (h : Handled codec csMsg connData raw m m' w w') :
    ∃ reqs, Acts w w' reqs [] ∧ w'.objMgr = w.objMgr ∧
      ∀ req ∈ reqs, req.setPlayerDataReq ≠ none → ∃ msg k, csMsg = some msg ∧
        msg.head.cmd = ProtoCs.loginReqFieldNumber ∧ LogicLogin.Kicks w.objMgr msg k ∧
        Player.Saves codec w.objMgr k req := by
  rcases h with ⟨-, rfl⟩ | ⟨msg, logicId, hmsg, -, hlaunch⟩
  · exact ⟨[], .refl _, rfl, fun _ h => absurd h List.not_mem_nil⟩
  · obtain ⟨d₁, reqs, hs, -, hother⟩ := hlaunch.spec
    refine ⟨reqs, hs.acts, hs.quiet rfl, fun req hreq hsave => ?_⟩
    by_cases hlogin : MsgModule.cmdLogicTypeMap msg.head.cmd = MsgModule.logicLogin
    · obtain ⟨k, hsaver, hsaves⟩ := hs.saves req hreq hsave
      cases hsaver with
      | updated hargs hk => cases hargs
      | kicked msg' connData' hargs hkicks =>
          cases hargs
          exact ⟨msg, k, hmsg, cmdLogicTypeMap_login hlogin, hkicks, hsaves⟩
    · obtain ⟨k, hargs⟩ := hother hlogin req hreq hsave
      cases hargs

/-- **The player of a CONN_STOP** is the only one that is saved. -/
theorem Saving.acts (h : Saving codec playerIdx raw m m' w w') :
    ∃ reqs, Acts w w' reqs [] ∧ w'.objMgr = w.objMgr ∧
      ∀ req ∈ reqs, req.setPlayerDataReq ≠ none → ∃ k : Nat, playerIdx = k ∧ w.objMgr.Live k ∧
        Player.Saves codec w.objMgr k req := by
  rcases h with ⟨-, rfl, -⟩ | ⟨logicId, hlaunch⟩
  · exact ⟨[], .refl _, rfl, fun _ h => absurd h List.not_mem_nil⟩
  · obtain ⟨d₁, reqs, hs, -⟩ := hlaunch.spec
    refine ⟨reqs, hs.acts, hs.quiet rfl, fun req hreq hsave => ?_⟩
    obtain ⟨k, hsaver, hsaves⟩ := hs.saves req hreq hsave
    cases hsaver with
    | updated hargs hk =>
        cases hargs
        exact ⟨k, rfl, hk, hsaves⟩
    | kicked msg connData hargs hkicks => cases hargs

theorem Answered.acts (h : Answered codec ssMsg m m' w w') :
    ∃ reqs uids, Acts w w' reqs uids ∧ (uids = [] → w'.objMgr = w.objMgr) ∧
      ∀ req ∈ reqs, req.setPlayerDataReq = none := by
  rcases h with ⟨-, rfl⟩ | ⟨msg, d, -, hresume⟩
  · exact ⟨[], [], .refl _, fun _ => rfl, fun _ h => absurd h List.not_mem_nil⟩
  · obtain ⟨d₁, reqs, uids, hs, -⟩ := hresume.spec
    refine ⟨reqs, uids, hs.acts, hs.quiet, fun req hreq => ?_⟩
    by_contra hsave
    obtain ⟨k, hsaver, -⟩ := hs.saves req hreq hsave
    cases hsaver with
    | updated hargs hk => cases hargs
    | kicked msg connData hargs hkicks => cases hargs

/-- **A login after a message of a client** was there before, or has just begun. -/
theorem Handled.logins (h : Handled codec csMsg connData raw m m' w w')
    (hd : m'.store.logicDataMap.lookup id = some d)
    (htype : d.head.logicType = MsgModule.logicLogin) :
    m.store.logicDataMap.lookup id = some d ∨ ∃ msg req, csMsg = some msg ∧
      msg.head.cmd = ProtoCs.loginReqFieldNumber ∧ id ∉ m.store.created ∧
      id ∈ m'.store.created ∧ Acts w w' [req] [] ∧
      LogicLogin.Begun codec w msg connData d req w' := by
  rcases h with ⟨rfl, -⟩ | ⟨msg, logicId, hmsg, -, hlaunch⟩
  · exact Or.inl hd
  · by_cases hid : id = logicId
    · subst hid
      obtain ⟨d₁, reqs, hs, hdata, -⟩ := hlaunch.spec
      obtain ⟨rfl, hspec⟩ := hdata d hd
      have hlogin := hs.head.2.symm.trans htype
      obtain ⟨msg', connData', req, hargs, rfl, hbegun⟩ := hspec hlogin
      cases hargs
      refine Or.inr ⟨msg, req, hmsg, cmdLogicTypeMap_login hlogin, hlaunch.fresh, ?_, hs.acts,
        hbegun⟩
      rw [hlaunch.created]
      exact List.mem_cons_self
    · rw [hlaunch.others id hid] at hd
      exact Or.inl hd

theorem Saving.logins (h : Saving codec playerIdx raw m m' w w')
    (hd : m'.store.logicDataMap.lookup id = some d)
    (htype : d.head.logicType = MsgModule.logicLogin) :
    m.store.logicDataMap.lookup id = some d := by
  rcases h with ⟨rfl, -, -⟩ | ⟨logicId, hlaunch⟩
  · exact hd
  · by_cases hid : id = logicId
    · subst hid
      obtain ⟨d₁, reqs, hs, hdata, -⟩ := hlaunch.spec
      obtain ⟨rfl, -⟩ := hdata d hd
      have hno : MsgModule.logicUpdatePlayer = MsgModule.logicLogin := hs.head.2.symm.trans htype
      exact absurd hno (by decide)
    · rw [hlaunch.others id hid] at hd
      exact hd

/-- **A login after a message of datasvr** was there before, with what it knows, at its
step or, if the message answers its request, at the next. -/
theorem Answered.logins (h : Answered codec ssMsg m m' w w')
    (hd : m'.store.logicDataMap.lookup id = some d)
    (htype : d.head.logicType = MsgModule.logicLogin) :
    ∃ d₀, m.store.logicDataMap.lookup id = some d₀ ∧
      d₀.head.logicType = MsgModule.logicLogin ∧ d.body = d₀.body ∧ (d = d₀ ∨
        ∃ msg, ssMsg = some msg ∧ logicIdOfSeq msg.head.seq = id ∧ d₀.head.step = 1 ∧
          d.head.step = 2) := by
  rcases h with ⟨rfl, -⟩ | ⟨msg, d₀, hmsg, hresume⟩
  · exact ⟨d, hd, htype, rfl, Or.inl rfl⟩
  · by_cases hid : id = logicIdOfSeq msg.head.seq
    · subst hid
      obtain ⟨d₁, reqs, uids, hs, hdata, -⟩ := hresume.spec
      obtain ⟨rfl, hspec⟩ := hdata d hd
      have hlogin := hs.head.2.symm.trans htype
      obtain ⟨hbody, hone, req, -, -, htwo⟩ := hspec hlogin
      exact ⟨d₀, hresume.found, hlogin, hbody, Or.inr ⟨msg, hmsg, rfl, hone, htwo⟩⟩
    · rw [hresume.others id hid] at hd
      exact ⟨d, hd, htype, rfl, Or.inl rfl⟩

/-- **A call of set_uid** is made by a login whose answer with the data is good, and that the
call ends. -/
theorem Answered.uids (h : Answered codec ssMsg m m' w w') (hw : w.uids = [])
    (huids : w'.uids ≠ []) : ∃ msg d, ∃ k : Nat, ssMsg = some msg ∧
      m.store.logicDataMap.lookup (logicIdOfSeq msg.head.seq) = some d ∧
      d.head.logicType = MsgModule.logicLogin ∧ d.head.step = 2 ∧
      msg.head.ret = ProtoSs.retOk ∧
      LogicLogin.onStep2 codec d (.ss msg) w = .ok (logicFinish, d, w') ∧
      m'.store.logicDataMap.lookup (logicIdOfSeq msg.head.seq) = none ∧
      w'.uids = [(k, d.body.uid)] ∧ d.body.playerIdx = k ∧ w.objMgr.Live k := by
  rcases h with ⟨-, rfl⟩ | ⟨msg, d, hmsg, hresume⟩
  · exact absurd hw huids
  · obtain ⟨d₁, reqs, uids, hs, -, hset⟩ := hresume.spec
    have heq : w'.uids = uids := by
      rw [hs.acts.uids, hw, List.nil_append]
    rcases hset with rfl | ⟨hlogin, htwo, hret, hstep, hended, k, rfl, hidx, hk⟩
    · exact absurd heq huids
    · exact ⟨msg, d, k, hmsg, hresume.found, hlogin, htwo, hret, hstep, hended, heq, hidx, hk⟩

end

namespace GameSvr

open LogicModule (LogicInv Roomy)

section
variable {codec : Codec} {size : Nat} {start : Int} {env env' : GameEnv}
  {received : Result (Option Bytes)} {connData : ConnData} {playerIdx : Int}

theorem cmdLogicTypeMap_known {cmd : Int} (h : cmd ∈ MsgModule.commands .cs) :
    ∃ sz logic, (logicTypes codec).logicDataSizeMap (MsgModule.cmdLogicTypeMap cmd) = some sz ∧
      (logicTypes codec).logicTypeMap (MsgModule.cmdLogicTypeMap cmd) = some logic := by
  rcases MsgModule.mem_commands_cs.mp h with rfl | rfl | rfl
  · exact ⟨_, _, rfl, rfl⟩
  · exact ⟨_, _, rfl, rfl⟩
  · exact ⟨_, _, rfl, rfl⟩

/-- **A message of a client** launches an instance, or nothing happens. -/
theorem handle_cs_spec (hsize : 1 ≤ size) (hseed : (Random.init 0 start).Seeded)
    (hm : LogicInv size start env.logicModule) (hroomy : env.logicModule.Roomy)
    (h : handle codec .cs received (some connData) env = .ok env') :
    Handled codec (parsed codec .cs received) connData env.raw env.logicModule env'.logicModule
      env.world env'.world ∧ LogicInv size start env'.logicModule := by
  obtain ⟨pkg, hreceived, h⟩ := bind_eq_ok.mp h
  rw [hreceived]
  cases pkg with
  | none =>
      cases h
      exact ⟨Or.inl ⟨rfl, rfl⟩, hm⟩
  | some pkg =>
      obtain ⟨⟨r, env₁⟩, hreq, h⟩ := bind_eq_ok.mp h
      cases h
      rcases MsgModule.handleRequest_cs hreq with rfl | ⟨msg, r', hparse, hcmd, hstart⟩
      · exact ⟨Or.inl ⟨rfl, rfl⟩, hm⟩
      obtain ⟨sz, logic, hsz, htype⟩ : ∃ sz logic,
          (logicTypes codec).logicDataSizeMap (MsgModule.cmdLogicTypeMap msg.head.cmd) = some sz ∧
          (logicTypes codec).logicTypeMap (MsgModule.cmdLogicTypeMap msg.head.cmd) = some logic :=
        cmdLogicTypeMap_known hcmd
      obtain ⟨⟨logicId, m₁⟩, hcreate, hstart⟩ := bind_eq_ok.mp hstart
      dsimp only at hstart
      have hcap := (LogicModule.createLogic_heapSize hsize hm hcreate).trans_lt hroomy.heap
      have hpos := (LogicModule.createLogic_spec hsize hseed hm hsz (by decide) hroomy.period
        hcreate hcap).1.pos
      rw [if_neg (Int.not_le.mpr hpos)] at hstart
      obtain ⟨⟨m₂, w₂⟩, hproc, hstart⟩ := bind_eq_ok.mp hstart
      cases hstart
      obtain ⟨hlaunch, hinv⟩ := LogicModule.launch_spec hsize hseed hm hroomy hsz htype (by decide)
        hcreate hproc
      exact ⟨Or.inr ⟨msg, logicId, hparse, hcmd, hlaunch⟩, hinv⟩

/-- **A message of datasvr** resumes an instance, or nothing happens. -/
theorem handle_ss_spec (hsize : 1 ≤ size) (hm : LogicInv size start env.logicModule)
    {data : Option ConnData} (h : handle codec .ss received data env = .ok env') :
    Answered codec (parsed codec .ss received) env.logicModule env'.logicModule env.world
      env'.world ∧ LogicInv size start env'.logicModule := by
  obtain ⟨pkg, hreceived, h⟩ := bind_eq_ok.mp h
  rw [hreceived]
  cases pkg with
  | none =>
      cases h
      exact ⟨Or.inl ⟨rfl, rfl⟩, hm⟩
  | some pkg =>
      obtain ⟨⟨r, env₁⟩, hreq, h⟩ := bind_eq_ok.mp h
      cases h
      rcases MsgModule.handleRequest_ss hreq with rfl | ⟨msg, r', hparse, hresume⟩
      · exact ⟨Or.inl ⟨rfl, rfl⟩, hm⟩
      obtain ⟨⟨m₁, w₁⟩, hproc, hresume⟩ := bind_eq_ok.mp hresume
      cases hresume
      refine ⟨?_, LogicModule.proc_logicInv hsize hm hproc⟩
      rcases LogicModule.resume_spec hproc with ⟨hm', hw'⟩ | ⟨d, hres⟩
      · exact Or.inl ⟨hm', hw'⟩
      · exact Or.inr ⟨msg, d, hparse, hres⟩

/-- **The player of a CONN_STOP** is saved by an instance that is launched, if it is in
use. -/
theorem updatePlayer_spec (hsize : 1 ≤ size) (hseed : (Random.init 0 start).Seeded)
    (hm : LogicInv size start env.logicModule) (hroomy : env.logicModule.Roomy)
    (h : updatePlayer codec playerIdx env = .ok env') :
    Saving codec playerIdx env.raw env.logicModule env'.logicModule env.world env'.world ∧
      LogicInv size start env'.logicModule := by
  unfold updatePlayer at h
  cases hp : env.world.objMgr.getPlayer playerIdx with
  | none =>
      rw [hp] at h
      cases h
      exact ⟨Or.inl ⟨rfl, rfl, hp⟩, hm⟩
  | some player =>
      simp only [hp] at h
      obtain ⟨⟨logicId, m₁⟩, hcreate, h⟩ := bind_eq_ok.mp h
      obtain ⟨⟨m₂, w₂⟩, hproc, h⟩ := bind_eq_ok.mp h
      cases h
      obtain ⟨hlaunch, hinv⟩ := LogicModule.launch_spec hsize hseed hm hroomy
        (show (logicTypes codec).logicDataSizeMap _ = some 24 from rfl) rfl (by decide)
        hcreate hproc
      exact ⟨Or.inr ⟨logicId, hlaunch⟩, hinv⟩

end

/-! ## The steps of gamesvr -/

/-- The world that a step begins with. -/
def world (s : GameSvr) (ret : GameRet) : GameWorld := (s.enter ret).world

/-- The request of a client that a message of connsvr is parsed to. -/
def clientMsg (codec : Codec) (s : GameSvr) (msg : ConnMsg) : Option ProtoCs.Msg :=
  parsed codec .cs (Link.connsvrToGamesvr.receive s.buf
    (Link.connsvrToGamesvr.wire msg.connData msg.payload)).2

/-- The answer that a message of datasvr is parsed to. -/
def answerMsg (codec : Codec) (s : GameSvr) (msg : Bytes) : Option ProtoSs.Msg :=
  parsed codec .ss (Link.datasvrToGamesvr.receive s.buf msg).2

/-- What a step has sent, and the calls of `set_uid`. -/
def sent (w : GameWorld) : GameOut := ⟨w.toConnsvr, w.toDatasvr, w.uids⟩

open ObjMgrModule (PlayerAdded)

/-- The `ConnData` and the objects that a message of a client is handled with. -/
inductive Enters (m : ObjMgrModule) (msg : ConnMsg) : ConnData → ObjMgrModule → Prop
  | start (k : Nat) (m' : ObjMgrModule) : msg.connData.connCmd = .connStart →
      PlayerAdded m k msg.connData.connFd m' →
      Enters m msg { msg.connData with playerIdx := k } m'
  | proc : msg.connData.connCmd = .connProc → Enters m msg msg.connData m

/-- A message of connsvr, with the world after the step of the logic that it launches. -/
inductive ConnsvrRun (codec : Codec) (s : GameSvr) (msg : ConnMsg) (ret : GameRet)
    (s' : GameSvr) (out : GameOut) : Prop
  | handled (connData : ConnData) (m : ObjMgrModule) (w' : GameWorld) :
      Enters s.objMgr msg connData m →
      Handled codec (s.clientMsg codec msg) connData ret.raw s.logicModule s'.logicModule
        { s.world ret with objMgr := m } w' →
      s'.objMgr = m → out = sent w' → ConnsvrRun codec s msg ret s' out
  | stopped (w' : GameWorld) : msg.connData.connCmd = .connStop →
      Saving codec msg.connData.playerIdx ret.raw s.logicModule s'.logicModule (s.world ret) w' →
      s.objMgr.delPlayer msg.connData.playerIdx = .ok s'.objMgr → out = sent w' →
      ConnsvrRun codec s msg ret s' out

section
variable {codec : Codec} {size : Nat} {start : Int} {s s' : GameSvr} {ret : GameRet}
  {out : GameOut}

theorem onConnsvr_run {msg : ConnMsg} (hsize : 1 ≤ size) (hseed : (Random.init 0 start).Seeded)
    (hpool : s.objMgr.playerPool.Ok) (hm : LogicInv size start s.logicModule)
    (hroomy : s.logicModule.Roomy) (h : s.onConnsvr codec msg ret = .ok (s', out)) :
    ConnsvrRun codec s msg ret s' out ∧ LogicInv size start s'.logicModule := by
  obtain ⟨env', henv, h⟩ := bind_eq_ok.mp h
  cases h
  unfold dispatch at henv
  cases hcmd : msg.connData.connCmd with
  | connStart =>
      rw [hcmd] at henv
      obtain ⟨k, m, hadd, hhandle⟩ := connStart_cases hpool henv
      obtain ⟨hhandled, hinv⟩ := handle_cs_spec hsize hseed hm hroomy hhandle
      obtain ⟨reqs, -, hobj, -⟩ := hhandled.acts
      exact ⟨.handled _ m _ (.start k m hcmd hadd) hhandled hobj rfl, hinv⟩
  | connProc =>
      rw [hcmd] at henv
      obtain ⟨hhandled, hinv⟩ := handle_cs_spec hsize hseed hm hroomy henv
      obtain ⟨reqs, -, hobj, -⟩ := hhandled.acts
      exact ⟨.handled _ s.objMgr _ (.proc hcmd) hhandled hobj rfl, hinv⟩
  | connStop =>
      rw [hcmd] at henv
      obtain ⟨env₁, hupdate, henv⟩ := bind_eq_ok.mp henv
      obtain ⟨m, hdel, henv⟩ := bind_eq_ok.mp henv
      cases henv
      obtain ⟨hsaving, hinv⟩ := updatePlayer_spec hsize hseed hm hroomy hupdate
      obtain ⟨reqs, -, hobj, -⟩ := hsaving.acts
      rw [hobj] at hdel
      exact ⟨.stopped env₁.world hcmd hsaving hdel rfl, hinv⟩

/-- **Every message of datasvr** resumes an instance, or nothing happens. -/
theorem onDatasvr_run {msg : Bytes} (hsize : 1 ≤ size) (hm : LogicInv size start s.logicModule)
    (h : s.onDatasvr codec msg ret = .ok (s', out)) :
    (∃ w', Answered codec (s.answerMsg codec msg) s.logicModule s'.logicModule (s.world ret) w' ∧
      s'.objMgr = w'.objMgr ∧ out = sent w') ∧ LogicInv size start s'.logicModule := by
  obtain ⟨env', henv, h⟩ := bind_eq_ok.mp h
  cases h
  obtain ⟨hanswered, hinv⟩ := handle_ss_spec hsize hm henv
  exact ⟨⟨env'.world, hanswered, rfl, rfl⟩, hinv⟩

theorem onUpdate_run {now : TimeValue} (hsize : 1 ≤ size)
    (hm : LogicInv size start s.logicModule) (h : s.onUpdate now = .ok (some s')) :
    s'.objMgr = s.objMgr ∧ s'.logicModule.store.created = s.logicModule.store.created ∧
      (∀ id d, s'.logicModule.store.logicDataMap.lookup id = some d →
        s.logicModule.store.logicDataMap.lookup id = some d) ∧
      LogicInv size start s'.logicModule := by
  obtain ⟨m, fired, hupdate, hinv, -, -, hcreated, -, hlookup⟩ :=
    LogicModule.update_spec hsize hm now
  simp only [onUpdate, hupdate, ok_bind] at h
  cases h
  refine ⟨rfl, hcreated, fun id d hd => ?_, hinv⟩
  have hid := hlookup id
  rw [hd] at hid
  split at hid
  · cases hid
  · exact hid.symm

end

end GameSvr

end PlayFrame
