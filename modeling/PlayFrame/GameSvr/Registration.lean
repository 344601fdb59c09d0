/-
# `PlayFrame.GameSvr.Registration` — what a registration asks for is what it tells

A registration sends the account that it is asked to make, and its second step, which the
answer resumes, tells the client what the instance has kept.  In every run of gamesvr the
request that is out for a registration is made of the same data, so what the client is told
after a good answer is what datasvr has been asked to store.
-/
import PlayFrame.GameSvr.Asks

namespace PlayFrame

open LogicModule (Launched Resumed)

section
variable {codec : Codec} {d d' : LogicData LogicBody} {w w' : GameWorld} {ret : Int}
  {answer : ProtoSs.Msg} {logic : LogicBase LogicBody StepArgs GameWorld}

/-- What a registration tells its client after a good answer. -/
def Confirms (codec : Codec) (d : LogicData LogicBody) (msg : ConnMsg) : Prop :=
  (d.head.logicType = MsgModule.logicNormalReg → ∃ account password,
    LogicNormalReg.accountString d = .ok account ∧
    LogicNormalReg.passwordString d = .ok password ∧
    msg.payload = codec.serialize .cs
      (Player.normalRegRes d.body.clientSeq account password)) ∧
  (d.head.logicType = MsgModule.logicQuickReg → ∃ password,
    Utils.cString d.body.password = .ok password ∧
    msg.payload = codec.serialize .cs
      (LogicQuickReg.quickRegRes d.body.clientSeq d.body.uid password))

/-- The two logics that register an account. -/
def Registers (d : LogicData LogicBody) : Prop :=
  d.head.logicType = MsgModule.logicNormalReg ∨ d.head.logicType = MsgModule.logicQuickReg

/-- **An answer ends a registration**, which asks for nothing, and tells the client what it
has kept if the answer is good. -/
theorem logicTypes_confirms (hd : Registers d)
    (htype : (logicTypes codec).logicTypeMap d.head.logicType = some logic)
    (h : logic.proc d (.ss answer) w = .ok (ret, d', w')) :
    ret ≠ logicYield ∧ w'.toDatasvr = w.toDatasvr ∧
      (answer.head.ret = ProtoSs.retOk → Tells (Confirms codec d) w w') := by
  rcases logic.proc_cases d (.ss answer) w with he | ⟨f, hf, he⟩
  · rw [he] at h
    cases h
    exact ⟨by decide, rfl, fun _ => .nothing rfl⟩
  rw [he] at h
  rcases hd with hd | hd
  · rw [hd] at htype
    cases htype
    have hquick : d.head.logicType ≠ MsgModule.logicQuickReg := by
      rw [hd]
      decide
    rcases List.mem_pair.mp hf with rfl | rfl
    · cases h
    · obtain ⟨hret, hsame, htells⟩ := LogicNormalReg.onStep1_tells h
      exact ⟨hret, hsame, fun hok =>
        (htells hok).mono (fun msg hmsg => ⟨fun _ => hmsg, fun hq => absurd hq hquick⟩)⟩
  · rw [hd] at htype
    cases htype
    have hnormal : d.head.logicType ≠ MsgModule.logicNormalReg := by
      rw [hd]
      decide
    rcases List.mem_pair.mp hf with rfl | rfl
    · cases h
    · obtain ⟨hret, hsame, htells⟩ := LogicQuickReg.onStep1_tells h
      exact ⟨hret, hsame, fun hok =>
        (htells hok).mono (fun msg hmsg => ⟨fun hn => absurd hn hnormal, fun _ => hmsg⟩)⟩

end

namespace Backend

/-! ## The requests that are out -/

/-- A request that is out for a registration is made of what the instance has kept; in a
normal one, also of what its client has submitted. -/
def RegAsks (codec : Codec) (b : Backend) (id : Int) (d : LogicData LogicBody)
    (req : ProtoSs.Msg) : Prop :=
  (d.head.logicType = MsgModule.logicNormalReg → ∃ o, b.launches id = some o ∧
    LogicNormalReg.Asked codec o.msg d req) ∧
  (d.head.logicType = MsgModule.logicQuickReg → LogicQuickReg.Asked codec d req)

/-- So it is for every request and the instance that waits for its answer. -/
def RegsAsk (codec : Codec) (b : Backend) : Prop :=
  ∀ id d, b.game.logicModule.store.logicDataMap.lookup id = some d →
    ∀ req ∈ b.requests, req.head.seq = seqOfLogicId id → b.RegAsks codec id d req

section
variable {codec : Codec} {b b' : Backend} {i : BackendInput} {out : GameOut} {size : Nat}
  {start : Int} {raw : LogicBody} {logicId logicType : Int} {args : StepArgs}
  {w w' : GameWorld}

theorem RegsAsk.quiet (h : b.RegsAsk codec) (hinv : b.Inv size start)
    (hlookup : ∀ id d, b'.game.logicModule.store.logicDataMap.lookup id = some d →
      b.game.logicModule.store.logicDataMap.lookup id = some d)
    (hrequests : ∀ req ∈ b'.requests, req ∈ b.requests)
    (hlaunches : ∀ id, id ∈ b.game.logicModule.store.created → b'.launches id = b.launches id) :
    b'.RegsAsk codec := by
  intro id d hd req hreq hseq
  have hd := hlookup id d hd
  obtain ⟨hnormal, hquick⟩ := h id d hd req (hrequests req hreq) hseq
  refine ⟨fun htype => ?_, hquick⟩
  rw [hlaunches id (hinv.head id d hd).1]
  exact hnormal htype

/-- **An instance is launched**: its requests are made of what it keeps. -/
theorem RegsAsk.launched (h : b.RegsAsk codec) (hinv : b.Inv size start)
    (hlaunch : Launched (logicTypes codec) raw logicId logicType args
      b.game.logicModule b'.game.logicModule w w')
    (hw : w.toDatasvr = []) (hrequests : b'.requests = b.requests ++ w'.toDatasvr)
    (hlaunches : ∀ id, id ∈ b.game.logicModule.store.created → b'.launches id = b.launches id)
    (hnew : ∀ csMsg connData, args = .cs csMsg connData →
      ∃ o, b'.launches logicId = some o ∧ o.msg = csMsg) : b'.RegsAsk codec := by
  obtain ⟨d₁, reqs, hs, -, -⟩ := hlaunch.spec
  obtain ⟨sent, hsent, hsub⟩ := hs.acts.toDatasvr
  obtain ⟨d₂, hasks, hdata⟩ := hlaunch.asks
  rw [hw, List.nil_append] at hsent
  have hown : ∀ req ∈ w'.toDatasvr, req.head.seq = seqOfLogicId logicId := by
    rw [hsent]
    exact fun req hreq => hs.own req (hsub.subset hreq)
  intro id d hd req hreq hseq
  rw [hrequests] at hreq
  by_cases hid : id = logicId
  · subst hid
    obtain rfl := hdata d hd
    rcases List.mem_append.mp hreq with hreq | hreq
    · -- its id is new, so no older request has its number
      obtain ⟨id', hid', hseq'⟩ := hinv.seqs req hreq
      have heq := seqOfLogicId_inj (hinv.range id' hid') ⟨hlaunch.pos, hlaunch.lt⟩
        (hseq'.symm.trans hseq)
      exact absurd (heq ▸ hid') hlaunch.fresh
    · obtain ⟨-, hnormal, hquick⟩ := hasks.sent hw req hreq
      refine ⟨fun htype => ?_, hquick⟩
      obtain ⟨csMsg, connData, hargs, hasked⟩ := hnormal htype
      obtain ⟨o, ho, rfl⟩ := hnew csMsg connData hargs
      exact ⟨o, ho, hasked⟩
  · rw [hlaunch.others id hid] at hd
    have hmem := (hinv.head id d hd).1
    rcases List.mem_append.mp hreq with hreq | hreq
    · obtain ⟨hnormal, hquick⟩ := h id d hd req hreq hseq
      refine ⟨fun htype => ?_, hquick⟩
      rw [hlaunches id hmem]
      exact hnormal htype
    · exact absurd (seqOfLogicId_inj (hinv.range id hmem) ⟨hlaunch.pos, hlaunch.lt⟩
        (hseq.symm.trans (hown req hreq))) hid

theorem RegsAsk.resumed (h : b.RegsAsk codec) (hinv : b.Inv size start) {msg : ProtoSs.Msg}
    {d : LogicData LogicBody} {kept : List ProtoSs.Msg}
    (hresume : Resumed (logicTypes codec) logicId (.ss msg) d b.game.logicModule
      b'.game.logicModule w w')
    (hlogicId : logicId ∈ b.game.logicModule.store.created)
    (hw : w.toDatasvr = []) (hkept : ∀ req ∈ kept, req ∈ b.requests)
    (hrequests : b'.requests = kept ++ w'.toDatasvr) (hlaunches : b'.launches = b.launches) :
    b'.RegsAsk codec := by
  obtain ⟨d₁, reqs, uids, hs, -, -⟩ := hresume.spec
  obtain ⟨sent, hsent, hsub⟩ := hs.acts.toDatasvr
  rw [hw, List.nil_append] at hsent
  have hown : ∀ req ∈ w'.toDatasvr, req.head.seq = seqOfLogicId logicId := by
    rw [hsent]
    intro req hreq
    rw [hs.own req (hsub.subset hreq), requestSeq, (hinv.head logicId d hresume.found).2]
  intro id d' hd' req hreq hseq
  by_cases hid : id = logicId
  · subst hid
    obtain ⟨logic, ret, d₂, htype, hstep, hlookup⟩ := hresume.step
    obtain ⟨rfl, hyield⟩ := kept_of_lookup hlookup hd'
    have hends : ¬ Registers d := fun hd => (logicTypes_confirms hd htype hstep).1 hyield
    have hhead : d'.head.logicType = d.head.logicType := by
      obtain ⟨reqs, uids, hs⟩ := logicTypes_acts htype hstep
      exact hs.head.2
    exact ⟨fun hn => absurd (Or.inl (hhead.symm.trans hn)) hends,
      fun hq => absurd (Or.inr (hhead.symm.trans hq)) hends⟩
  · rw [hresume.others id hid] at hd'
    rw [hrequests] at hreq
    unfold RegAsks
    rw [hlaunches]
    rcases List.mem_append.mp hreq with hreq | hreq
    · exact h id d' hd' req (hkept req hreq) hseq
    · exact absurd (seqOfLogicId_inj (hinv.range id (hinv.head id d' hd').1)
        (hinv.range logicId hlogicId) (hseq.symm.trans (hown req hreq))) hid

theorem RegsAsk.step (h : b.RegsAsk codec) (hinv : b.Inv size start)
    (hmove : Moves codec b i b' out) : b'.RegsAsk codec := by
  cases hmove with
  | connsvr msg ret game out hrun hconn =>
      have hlaunches : ∀ id, id ∈ b.game.logicModule.store.created →
          (b.afterConnsvr codec msg game out).launches id = b.launches id :=
        fun id hid => if_neg (fun hnew => hnew.2 hid)
      have hquiet : game.logicModule = b.game.logicModule → out.toDatasvr = [] →
          (b.afterConnsvr codec msg game out).RegsAsk codec := by
        intro hm hout
        refine h.quiet hinv (fun id d hd => ?_) (fun req hreq => ?_) hlaunches
        · rw [← hm]
          exact hd
        · have hreq : req ∈ b.requests ++ out.toDatasvr := hreq
          rwa [hout, List.append_nil] at hreq
      cases hrun with
      | handled connData m w' henters hhandled hobj hout =>
          subst hout
          rcases hhandled with ⟨hm, rfl⟩ | ⟨csMsg, logicId, hmsg, -, hlaunch⟩
          · exact hquiet hm rfl
          · refine h.launched hinv hlaunch rfl rfl hlaunches (fun csMsg' connData' hargs => ?_)
            cases hargs
            have hnew : IsNew b.game game logicId :=
              ⟨by rw [hlaunch.created]; exact List.mem_cons_self, hlaunch.fresh⟩
            exact ⟨_, (if_pos hnew).trans (congrArg _ hmsg), rfl⟩
      | stopped w' hcmd hsaving hdel hout =>
          subst hout
          rcases hsaving with ⟨hm, rfl, -⟩ | ⟨logicId, hlaunch⟩
          · exact hquiet hm rfl
          · exact h.launched hinv hlaunch rfl rfl hlaunches (fun _ _ hargs => nomatch hargs)
  | datasvr req answer ret game w' hreq hanswers hanswered hobj hsame =>
      rcases hanswered with ⟨hm, rfl⟩ | ⟨msg, d, hmsg, hresume⟩
      · refine h.quiet hinv (fun id d hd => ?_) (fun req' hreq' => ?_) (fun _ _ => rfl)
        · rw [← hm]
          exact hd
        · have hreq' : req' ∈ b.requests.erase req ++ [] := hreq'
          rw [List.append_nil] at hreq'
          exact List.mem_of_mem_erase hreq'
      · exact h.resumed hinv hresume (hinv.answered hreq (hanswers msg hmsg)).1 rfl
          (fun _ => List.mem_of_mem_erase) rfl rfl
  | update now game hobj hcreated hlookup =>
      exact h.quiet hinv hlookup (fun _ hreq => hreq) (fun _ _ => rfl)

theorem Started.regsAsk (h : b.Started size start) : b.RegsAsk codec := by
  intro id d hd req hreq
  rw [h.requests] at hreq
  exact absurd hreq List.not_mem_nil

/-! ## What is told -/

/-- **After a good answer to a registration** its client is told what it has kept. -/
theorem Moves.confirms {req msg : ProtoSs.Msg} {answer : Bytes} {ret : GameRet}
    {d : LogicData LogicBody} (hmove : Moves codec b (.datasvr req answer ret) b' out)
    (hmsg : b.game.answerMsg codec answer = some msg) (hok : msg.head.ret = ProtoSs.retOk)
    (hd : b.game.logicModule.store.logicDataMap.lookup (logicIdOfSeq msg.head.seq) = some d)
    (hreg : Registers d) : ∀ m ∈ out.toConnsvr, Confirms codec d m := by
  cases hmove with
  | datasvr req answer ret game w' hreq hanswers hanswered hobj hsame =>
      rcases hanswered with ⟨-, rfl⟩ | ⟨msg', d', hmsg', hresume⟩
      · exact fun m hm => absurd hm List.not_mem_nil
      · rw [hmsg, Option.some.injEq] at hmsg'
        subst hmsg'
        have hfound := hresume.found
        rw [hd, Option.some.injEq] at hfound
        subst hfound
        obtain ⟨logic, ret, d₁, htype, hstep, -⟩ := hresume.step
        obtain ⟨told, htold, htells⟩ := (logicTypes_confirms hreg htype hstep).2.2 hok
        intro m hm
        refine htells m ?_
        have hm : m ∈ w'.toConnsvr := hm
        rw [htold] at hm
        exact hm

end

end Backend

end PlayFrame
