/-
# `PlayFrame.GameSvr.Session` — a uid is bound to the session that proved it

Between its steps a login keeps the index of its player, and nothing else.  A unit that
is freed in between is the first to be allocated again, so the answer of datasvr may find
a player of another connection.  It does not if no unit is allocated while a login waits
for the player of it, and if a client that has a player logs in for that one.
-/
import PlayFrame.GameSvr.Backend

namespace PlayFrame

namespace Backend

/-- No `CONN_START` takes a unit that a waiting login remembers, and a login on an open
connection is for the player of that connection. -/
def KeepsSessions (codec : Codec) (b : Backend) (i : BackendInput) : Prop :=
  b.Roomy i ∧ match i with
    | .connsvr msg _ =>
        match msg.connData.connCmd with
        | .connStart => ∀ id d, b.game.logicModule.store.logicDataMap.lookup id = some d →
            d.head.logicType = MsgModule.logicLogin →
            d.body.playerIdx ≠ b.game.objMgr.playerPool.freeMemPos
        | .connProc => ∀ csMsg, b.game.clientMsg codec msg = some csMsg →
            csMsg.head.cmd = ProtoCs.loginReqFieldNumber → ∀ k : Nat,
            msg.connData.playerIdx = k → b.game.objMgr.Live k →
            (b.game.objMgr.player k).connFd = msg.connData.connFd
        | .connStop => True
    | _ => True

/-- The player that a waiting login remembers, if it is in use, is the one that it was
launched for, and has the connection of the client. -/
def SameSessions (b : Backend) : Prop :=
  ∀ id d o, b.game.logicModule.store.logicDataMap.lookup id = some d →
    d.head.logicType = MsgModule.logicLogin → b.launches id = some o →
    ∀ k : Nat, d.body.playerIdx = k → b.gen k = o.gen k ∧
      (b.game.objMgr.Live k → (b.game.objMgr.player k).connFd = o.connData.connFd)

section
variable {codec : Codec} {size : Nat} {start : Int} {b b' b₀ : Backend} {i : BackendInput}
  {out : GameOut}

theorem SameSessions.moves (hinv : b.Inv size start) (h : b.SameSessions)
    (hok : KeepsSessions codec b i) (hmove : Moves codec b i b' out) :
    b'.SameSessions := by
  intro id d o hd htype ho k hidx
  rcases hmove.logins hinv hd htype with
    ⟨d₀, hd₀, htype₀, hbody, hlaunch, -⟩ | ⟨msg, ret, csMsg, rfl, hl⟩
  · rw [hlaunch] at ho
    rw [hbody] at hidx
    obtain ⟨hgen, hfd⟩ := h id d₀ o hd₀ htype₀ ho k hidx
    rcases hmove.players k with ⟨hgen', hlive⟩ | ⟨msg, ret, rfl, hcmd, hfree, -⟩
    · refine ⟨hgen'.trans hgen, fun hk => ?_⟩
      obtain ⟨hk₀, hfd'⟩ := hlive hk
      exact hfd'.trans (hfd hk₀)
    · -- the unit is allocated while a login waits for it
      have hguard := hok.2
      simp only [hcmd] at hguard
      exact absurd (hidx.trans hfree.symm) (hguard id d₀ hd₀ htype₀)
  · obtain ⟨req, w', -, -, hbegun⟩ := hl.begun
    have hidx' := hbegun.remembers.playerIdx.symm.trans hidx
    have ho' := ho.symm.trans hl.launch
    cases ho'
    refine ⟨rfl, fun hk => ?_⟩
    have henters := hl.enters
    dsimp only
    generalize assigned b.game msg = connData at henters hidx'
    generalize b'.game.objMgr = m' at henters hk ⊢
    cases henters with
    | start j m hcmd hadd =>
        obtain rfl : j = k := Int.natCast_inj.mp hidx'
        exact congrArg Player.connFd hadd.new
    | proc hcmd =>
        have hguard := hok.2
        simp only [hcmd] at hguard
        exact hguard csMsg hl.parsed hl.login k hidx' hk

/-- **A uid is bound only to the session that proved it**, in every run that keeps the
sessions: the player is the allocation that the login was launched for, its connection is
that of the client, and datasvr has given the data for the uid and the hash of the
password that this client has presented. -/
theorem run_session (hstart : b₀.Started size start)
    (hrun : Run codec (KeepsSessions codec) b₀ b) (hp : b.Possible codec i)
    (hok : KeepsSessions codec b i) (hstep : b.step codec i = .ok (some (b', out))) :
    ∀ k u, (k, u) ∈ out.uids → ∃ req answer ret msg id o, i = .datasvr req answer ret ∧
      b.game.answerMsg codec answer = some msg ∧ msg.head.ret = ProtoSs.retOk ∧
      Answers req msg ∧ b.launches id = some o ∧
      o.msg.head.cmd = ProtoCs.loginReqFieldNumber ∧ o.connData.playerIdx = k ∧
      b.game.objMgr.Live k ∧ b.gen k = o.gen k ∧
      (b.game.objMgr.player k).connFd = o.connData.connFd ∧
      u = Utils.fnv64aHash (o.msg.loginReq.getD {}).account ∧
      req = Player.getPlayerDataReq (seqOfLogicId id) k u
        (Utils.fnv64aHash (o.msg.loginReq.getD {}).password) := by
  intro k u hu
  have hempty : b₀.SameSessions := by
    obtain ⟨_, _, _, _, hgame⟩ := hstart.game
    intro id d o hd
    rw [hgame] at hd
    exact nomatch hd
  obtain ⟨hinv, hsame⟩ := hrun.induct hstart (fun _ _ h => h.1) hempty
    (fun b i b' out hinv _ h hok hmove => h.moves hinv hok hmove)
  obtain ⟨hmove, -⟩ := step_moves hinv hstart.room.1 hstart.seeded hp hok.1 hstep
  obtain ⟨id, d, msg, hlog⟩ := (hmove.effect hinv).of_uids hu
  obtain ⟨answer, ret, hi, hmsg⟩ := hlog.input
  obtain ⟨o, ho, hcmd, hremembers⟩ := (hinv.logins id d hlog.found hlog.login).launch
  obtain ⟨hgen, hfd⟩ := hsame id d o hlog.found hlog.login ho k hlog.playerIdx
  obtain ⟨-, rfl⟩ := Prod.mk.inj (List.mem_singleton.mp (hlog.uids ▸ hu))
  refine ⟨_, answer, ret, msg, id, o, hi, hmsg, hlog.good, hlog.answers, ho, hcmd,
    hremembers.playerIdx.symm.trans hlog.playerIdx, hlog.live, hgen, hfd hlog.live,
    hremembers.uid, ?_⟩
  rw [hremembers.passwordHash]

/-- A client connects and logs in, and datasvr has its data. -/
theorem run_session_first : ∃ b b' : Backend, ∃ out : GameOut,
    b.step loginCodec (answer firstReq) = .ok (some (b', out)) ∧
    out.uids = [(1, theUid)] ∧
    ∃ id o, b.launches id = some o ∧ b.gen 1 = o.gen 1 ∧
      (b.game.objMgr.player 1).connFd = o.connData.connFd := by
  have hrun : Run loginCodec (KeepsSessions loginCodec) (fresh 1) _ :=
    .step (connect 5) .start trivial ⟨⟨by decide, by decide⟩, fun _ _ h => nomatch h⟩ rfl
  obtain ⟨b, b', out, hrun, hreq, hmsg, hstep, huids⟩ : ∃ b b' out,
      Run loginCodec (KeepsSessions loginCodec) (fresh 1) b ∧ firstReq ∈ b.requests ∧
      b.game.answerMsg loginCodec (Wire.ssMsg (okRes firstReq)) = some (okRes firstReq) ∧
      b.step loginCodec (answer firstReq) = .ok (some (b', out)) ∧
      out.uids = [(1, theUid)] :=
    ⟨_, _, _, hrun, List.mem_cons_self, rfl, rfl, rfl⟩
  refine ⟨b, b', out, hstep, huids, ?_⟩
  obtain ⟨_, _, _, _, id, o, -, -, -, -, ho, -, -, -, hgen, hfd, -⟩ :=
    run_session (fresh_started 1) hrun (possible_answer hreq hmsg) ⟨trivial, trivial⟩ hstep 1 _
      (huids ▸ List.mem_cons_self)
  exact ⟨id, o, ho, hgen, hfd⟩

/-- **A session is taken over.**  A client logs in and goes before datasvr has answered,
and the client of the next connection, which has the same player, has the uid. -/
theorem run_takeover : ∃ b b' : Backend, ∃ out : GameOut, (fresh 1).Started 4 7 ∧
    Run loginCodec (fun _ _ => True) (fresh 1) b ∧ b.Possible loginCodec (answer firstReq) ∧
    b.step loginCodec (answer firstReq) = .ok (some (b', out)) ∧
    out.uids = [(1, theUid)] ∧
    ∃ id o, firstReq.head.seq = seqOfLogicId id ∧ b.launches id = some o ∧
      o.connData = ⟨5, 1, .connStart⟩ ∧ b.gen 1 ≠ o.gen 1 ∧
      (b.game.objMgr.player 1).connFd = 6 := by
  have h₁ : Run loginCodec (fun _ _ => True) (fresh 1) _ := .step (connect 5) .start trivial trivial rfl
  have h₂ := h₁.step (disconnect 5 1) trivial trivial rfl
  have h₃ := h₂.step (.connsvr ⟨⟨6, 0, .connStart⟩, []⟩ calm) trivial trivial rfl
  obtain ⟨b, b', out, o, hrun, hreq, hmsg, hstep, huids, ho, hconn, hgen, hfd⟩ : ∃ b b' out o,
      Run loginCodec (fun _ _ => True) (fresh 1) b ∧ firstReq ∈ b.requests ∧
      b.game.answerMsg loginCodec (Wire.ssMsg (okRes firstReq)) = some (okRes firstReq) ∧
      b.step loginCodec (answer firstReq) = .ok (some (b', out)) ∧
      out.uids = [(1, theUid)] ∧
      b.launches 4295305193 = some o ∧ o.connData = ⟨5, 1, .connStart⟩ ∧
      (b.gen 1, o.gen 1) = (2, 1) ∧ (b.game.objMgr.player 1).connFd = 6 :=
    ⟨_, _, _, _, h₃, List.mem_cons_self, rfl, rfl, rfl, rfl, rfl, rfl, rfl⟩
  obtain ⟨hgen₁, hgen₂⟩ := Prod.mk.inj hgen
  refine ⟨b, b', out, fresh_started 1, hrun, possible_answer hreq hmsg, hstep, huids, _, o, rfl, ho,
    hconn, ?_, hfd⟩
  rw [hgen₁, hgen₂]
  decide

end

end Backend

end PlayFrame
