/-
# `PlayFrame.GameSvr.OneSession` — one session for an account

`LogicLogin::OnStep0` looks the uid of a login up, and kicks off the player that it finds.
`OnStep2`, which binds the uid, does not look again: it does no harm if the uid then has no
entry, or one with the player of the login.  And `OnStep0` passes the uid itself for the
index of the player, so it kicks off the right one only if the uid happens to be cut down
to its index.
-/
import PlayFrame.GameSvr.Backend
import PlayFrame.GameSvr.PlayerData

namespace PlayFrame

open ObjMgrModule (PlayerAdded)

namespace ObjMgrModule

/-- Every player in use is found by the uid it has, so no two have the same. -/
structure Indexed (m : ObjMgrModule) : Prop where
  cityPool : m.cityPool.Ok
  entry_pos : ∀ uid i, m.uidToPlayerIdxMap.lookup uid = some i → 0 < i
  entry : ∀ k, m.Live k → (m.player k).uid ≠ 0 →
    m.uidToPlayerIdxMap.lookup (m.player k).uid = some (k : Int)

section
variable {m m' : ObjMgrModule} {k : Nat} {connFd playerIdx : Int} {uid : UInt64}
  {w w' : GameWorld} {D : Database.PlayerData}

theorem Indexed.find (h : m.Indexed) (hk : m.Live k) (h0 : uid ≠ 0)
    (huid : (m.player k).uid = uid) : m.findPlayerIdxByUid uid = k := by
  subst huid
  rw [findPlayerIdxByUid, h.entry k hk h0]
  rfl

theorem Indexed.lookup_of_find (h : m.Indexed)
    (hfind : m.findPlayerIdxByUid uid = 0 ∨ m.findPlayerIdxByUid uid = k) :
    (m.uidToPlayerIdxMap.lookup uid).getD (k : Int) = k := by
  unfold findPlayerIdxByUid at hfind
  cases hl : m.uidToPlayerIdxMap.lookup uid with
  | none => rfl
  | some i =>
      have hpos := h.entry_pos uid i hl
      rw [hl] at hfind
      rcases hfind with hi | hi
      · exact absurd hi hpos.ne'
      · exact hi

theorem Indexed.added (h : m.Indexed) (hadd : PlayerAdded m k connFd m') : m'.Indexed where
  cityPool := by
    rw [hadd.cityPool]
    exact h.cityPool
  entry_pos := by
    rw [hadd.uidToPlayerIdxMap]
    exact h.entry_pos
  entry := by
    intro j hj h0
    rw [hadd.uidToPlayerIdxMap]
    by_cases hjk : j = k
    · subst hjk
      rw [hadd.new] at h0
      exact absurd rfl h0
    · rw [hadd.others j hjk] at h0 ⊢
      exact h.entry j (((hadd.live j).mp hj).resolve_right hjk) h0

theorem Indexed.deleted (h : m.Indexed) (hpool : m.playerPool.Ok)
    (hdel : m.delPlayer playerIdx = .ok m') : m'.Indexed := by
  obtain ⟨-, hlive, hmem⟩ := delPlayer_spec hpool hdel
  obtain ⟨hcity, -, -⟩ := delPlayer_cities h.cityPool hdel
  have hplayer : ∀ j, m'.player j = m.player j := fun j => congrFun hmem j
  cases hp : m.getPlayer playerIdx with
  | none =>
      simp only [delPlayer, hp] at hdel
      cases hdel
      exact h
  | some k =>
      obtain ⟨rfl, hk⟩ := getPlayer_eq_some.mp hp
      have hmap := delPlayer_map hdel hp
      have hsub : ∀ u i, m'.uidToPlayerIdxMap.lookup u = some i →
          m.uidToPlayerIdxMap.lookup u = some i := by
        intro u i hu
        rw [hmap] at hu
        exact eraseUidToPlayerIdx_lookup hu
      refine ⟨hcity, fun u i hu => h.entry_pos u i (hsub u i hu), fun j hj h0 => ?_⟩
      rw [hplayer j] at h0 ⊢
      obtain ⟨hj, hne⟩ := (hlive j).mp hj
      rw [hmap]
      exact eraseUidToPlayerIdx_lookup_of_ne (h.entry j hj h0) (fun e => hne e.symm)

/-- **A login ends well**: if the uid had no entry, or that of this player, it is found
now, and nobody else has it. -/
theorem Indexed.loggedIn (h : w.objMgr.Indexed) (hk : w.objMgr.Live k)
    (hloaded : Loaded k uid D w w')
    (hfind : w.objMgr.findPlayerIdxByUid uid = 0 ∨ w.objMgr.findPlayerIdxByUid uid = k) :
    w'.objMgr.Indexed ∧ w'.objMgr.findPlayerIdxByUid uid = k ∧
      (uid ≠ 0 → ∀ j, w'.objMgr.Live j → j ≠ k → (w'.objMgr.player j).uid ≠ uid) := by
  have hentry := h.lookup_of_find hfind
  have hmap : ∀ v, w'.objMgr.uidToPlayerIdxMap.lookup v =
      if v = uid then some (k : Int) else w.objMgr.uidToPlayerIdxMap.lookup v := by
    intro v
    rw [hloaded.uidToPlayerIdxMap, bindUidToPlayerIdx_lookup, hentry]
  have hother : uid ≠ 0 → ∀ j, w.objMgr.Live j → j ≠ k → (w.objMgr.player j).uid ≠ uid := by
    rintro h0 j hj hne rfl
    rw [h.entry j hj h0] at hentry
    exact hne (Int.natCast_inj.mp hentry)
  refine ⟨⟨hloaded.cityPool, fun v i hv => ?_, fun j hj h0 => ?_⟩, ?_, fun h0 j hj hne => ?_⟩
  · rw [hmap v] at hv
    split at hv
    · cases hv
      have := hk.1
      omega
    · exact h.entry_pos v i hv
  · rw [hmap]
    by_cases hjk : j = k
    · subst hjk
      rw [if_pos hloaded.uid]
    · rw [hloaded.others j hjk] at h0 ⊢
      have hj' := (hloaded.live j).mp hj
      by_cases hv : (w.objMgr.player j).uid = uid
      · exact absurd hv (hother (hv ▸ h0) j hj' hjk)
      · rw [if_neg hv]
        exact h.entry j hj' h0
  · rw [findPlayerIdxByUid, hmap, if_pos rfl]
    rfl
  · rw [hloaded.others j hne]
    exact hother h0 j ((hloaded.live j).mp hj) hne

end

end ObjMgrModule

namespace Backend

open GameSvr (Enters)

/-- Whom a login kicks off is the player that has its uid, and he is notified; when the
data of a login arrives, its uid has no entry, or the one of its player. -/
def OneSession (codec : Codec) (b : Backend) (i : BackendInput) : Prop :=
  b.Roomy i ∧ match i with
    | .connsvr msg ret => ∀ csMsg, b.game.clientMsg codec msg = some csMsg →
        csMsg.head.cmd = ProtoCs.loginReqFieldNumber →
        ∀ connData m, Enters b.game.objMgr msg connData m →
        ∀ old, LogicLogin.Kicks m csMsg old → ∀ k : Nat, b.game.objMgr.Live k →
        (b.game.objMgr.player k).uid = LogicLogin.loginUid csMsg → connData.playerIdx ≠ k →
        old = k ∧ ret.zmq 0 = true ∧
          (Player.kickOffNtf codec b.game.objMgr k).payload.length ≤ pkgBufSize
    | .datasvr _ answer _ => ∀ msg, b.game.answerMsg codec answer = some msg →
        msg.head.ret = ProtoSs.retOk → ∀ d,
        b.game.logicModule.store.logicDataMap.lookup (logicIdOfSeq msg.head.seq) = some d →
        d.head.logicType = MsgModule.logicLogin → d.head.step = 2 → d.body.uid ≠ 0 ∧
          ∀ k : Nat, d.body.playerIdx = k → b.game.objMgr.findPlayerIdxByUid d.body.uid = 0 ∨
            b.game.objMgr.findPlayerIdxByUid d.body.uid = k
    | .update _ => True

/-- The player was notified when the instance was launched, and what the launch has sent to
datasvr saves him. -/
structure KickedOff (codec : Codec) (id : Int) (o : Launch) (k : Nat) : Prop where
  notified : Player.kickOffNtf codec o.before k ∈ o.sent.toConnsvr
  saved : ∀ req ∈ o.sent.toDatasvr, Player.Saves codec o.before k req ∧
    req.head.seq = seqOfLogicId id

/-- Whoever else had the uid of a login that waits when it was launched has been kicked
off. -/
def KickedOffAll (codec : Codec) (b : Backend) : Prop :=
  ∀ id d o, b.game.logicModule.store.logicDataMap.lookup id = some d →
    d.head.logicType = MsgModule.logicLogin → b.launches id = some o → d.body.uid ≠ 0 →
    ∀ k : Nat, o.before.Live k → (o.before.player k).uid = d.body.uid →
      o.connData.playerIdx ≠ k →
      KickedOff codec id o k ∧ (d.head.step = 2 → o.sent.toDatasvr ≠ [])

section
variable {codec : Codec} {size : Nat} {start : Int} {b b' b₀ : Backend} {i : BackendInput}
  {out : GameOut} {k : Nat} {id : Int} {d : LogicData LogicBody} {req : ProtoSs.Msg}

theorem LoggedIn.find {msg : ProtoSs.Msg} (h : LoggedIn codec b i b' out id d msg k)
    (hok : OneSession codec b i) : d.body.uid ≠ 0 ∧
      (b.game.objMgr.findPlayerIdxByUid d.body.uid = 0 ∨
        b.game.objMgr.findPlayerIdxByUid d.body.uid = k) := by
  obtain ⟨answer, ret, rfl, hmsg⟩ := h.input
  have hfound := h.found
  rw [← h.logicId] at hfound
  obtain ⟨h0, hfind⟩ := hok.2 msg hmsg h.good d hfound h.login h.step
  exact ⟨h0, hfind k h.playerIdx⟩

theorem indexed_moves (hinv : b.Inv size start) (h : b.game.objMgr.Indexed)
    (hok : OneSession codec b i) (hmove : Moves codec b i b' out) : b'.game.objMgr.Indexed := by
  cases hmove.effect hinv with
  | added msg ret k hi hcmd hadd hloaded huids => exact h.added hadd
  | kept hobj hloaded huids =>
      rw [hobj]
      exact h
  | deleted msg ret hi hcmd hdel hloaded huids => exact h.deleted hinv.pool hdel
  | loggedIn id d msg k hlog =>
      obtain ⟨w, w', hw, hw', hstep⟩ := hlog.run
      rw [← hw] at h
      obtain ⟨k', hidx, hk, hloaded⟩ := LogicLogin.onStep2_loaded h.cityPool hstep hlog.good
      obtain rfl : k = k' := Int.natCast_inj.mp (hlog.playerIdx.symm.trans hidx)
      rw [← hw']
      refine (h.loggedIn hk hloaded ?_).1
      rw [hw]
      exact (hlog.find hok).2

theorem Launches.kickedOff {msg : ConnMsg} {ret : GameRet} {csMsg : ProtoCs.Msg}
    (hinv' : b'.Inv size start) (h : b.game.objMgr.Indexed)
    (hok : OneSession codec b (.connsvr msg ret))
    (hl : Launches codec b msg ret b' out id d csMsg)
    (hd : b'.game.logicModule.store.logicDataMap.lookup id = some d) (h0 : d.body.uid ≠ 0)
    (hk : b.game.objMgr.Live k) (huid : (b.game.objMgr.player k).uid = d.body.uid)
    (hne : (assigned b.game msg).playerIdx ≠ k) :
    KickedOff codec id ⟨assigned b.game msg, csMsg, b'.gen, b.game.objMgr, out⟩ k ∧
      (d.head.step = 2 → out.toDatasvr ≠ []) := by
  obtain ⟨req, w', hout, hsub, hbegun⟩ := hl.begun
  obtain ⟨hmap, hcity, hframe⟩ := enters_frame hl.enters
  obtain ⟨-, hplayer⟩ := hframe k hk
  have hlogicId := (hinv'.head id d hd).2
  have hfind : 0 < b'.game.objMgr.findPlayerIdxByUid (LogicLogin.loginUid csMsg) := by
    have hidx := h.find hk h0 huid
    have hpos := hk.1
    rw [← hbegun.remembers.uid]
    unfold ObjMgrModule.findPlayerIdxByUid at hidx ⊢
    rw [hmap, hidx]
    omega
  rcases hbegun.checked with ⟨hone, old, hkicks, hsaves, hntf⟩ | ⟨-, hnone⟩
  · obtain ⟨rfl, hzmq, hfits⟩ := hok.2 csMsg hl.parsed hl.login _ _ hl.enters old hkicks k hk
      (huid.trans hbegun.remembers.uid) hne
    have hsame : Player.kickOffNtf codec b.game.objMgr old =
        Player.kickOffNtf codec b'.game.objMgr old := by
      unfold Player.kickOffNtf
      rw [hplayer]
    refine ⟨⟨?_, fun r hr => ?_⟩, fun htwo => ?_⟩
    · dsimp only
      rw [hsame, hout]
      exact hntf hzmq hfits
    · rw [List.mem_singleton.mp (hsub.subset hr)]
      refine ⟨hsaves.congr hplayer.symm hcity.symm, ?_⟩
      rw [hbegun.asked.1, requestSeq, hlogicId]
    · rw [hone] at htwo
      exact absurd htwo (by decide)
  · exact absurd hfind (Int.not_lt.mpr hnone)

theorem KickedOffAll.moves (hinv : b.Inv size start) (hinv' : b'.Inv size start)
    (hindexed : b.game.objMgr.Indexed) (h : KickedOffAll codec b) (hok : OneSession codec b i)
    (hmove : Moves codec b i b' out) : KickedOffAll codec b' := by
  intro id d o hd htype ho h0 k hk huid hne
  rcases hmove.logins hinv hd htype with
    ⟨d₀, hd₀, htype₀, hbody, hlaunch, hnext⟩ | ⟨msg, ret, csMsg, rfl, hl⟩
  · rw [hlaunch] at ho
    rw [hbody] at h0 huid
    obtain ⟨hkicked, hsent⟩ := h id d₀ o hd₀ htype₀ ho h0 k hk huid hne
    refine ⟨hkicked, fun htwo => ?_⟩
    rcases hnext with rfl | ⟨hone, -, req, hreq, hseq⟩
    · exact hsent htwo
    · exact List.ne_nil_of_mem ((hinv.logins id d₀ hd₀ htype₀).first o ho hone req hreq hseq)
  · cases ho.symm.trans hl.launch
    exact hl.kickedOff hinv' hindexed hok hd h0 hk huid hne

/-- **There is one session for an account** in every run whose steps meet the condition:
when a login ends well, its uid is found with its player and nobody else has it, and
whoever else had it when the login was launched has been notified and saved. -/
theorem run_oneSession (hstart : b₀.Started size start)
    (hrun : Run codec (OneSession codec) b₀ b) (hp : b.Possible codec i)
    (hok : OneSession codec b i) (hstep : b.step codec i = .ok (some (b', out))) :
    ∀ k u, (k, u) ∈ out.uids →
      (∀ j, b'.game.objMgr.Live j → j ≠ k → (b'.game.objMgr.player j).uid ≠ u) ∧
      b'.game.objMgr.findPlayerIdxByUid u = k ∧
      ∃ req answer ret o, i = .datasvr req answer ret ∧
        b.launches (logicIdOfSeq req.head.seq) = some o ∧
        o.msg.head.cmd = ProtoCs.loginReqFieldNumber ∧ o.connData.playerIdx = k ∧
        u = LogicLogin.loginUid o.msg ∧
        ∀ j, o.before.Live j → j ≠ k → (o.before.player j).uid = u →
          Player.kickOffNtf codec o.before j ∈ o.sent.toConnsvr ∧
          ∃ req ∈ o.sent.toDatasvr, Player.Saves codec o.before j req ∧ req ∉ b.requests := by
  intro k u hu
  have hbase : b₀.game.objMgr.Indexed ∧ KickedOffAll codec b₀ := by
    obtain ⟨_, n, _, rawCity, hgame⟩ := hstart.game
    rw [hgame]
    refine ⟨⟨⟨_, ShmPool.init_inv n rawCity⟩, fun _ _ h => (nomatch h), fun k hk => ?_⟩,
      fun id d o hd => ?_⟩
    · exact absurd hk ShmPool.init_not_allocated
    · rw [hgame] at hd
      exact nomatch hd
  obtain ⟨hinv, hindexed, hkicked⟩ := hrun.induct
    (P := fun b => b.game.objMgr.Indexed ∧ KickedOffAll codec b) hstart (fun _ _ h => h.1) hbase
    (fun b i b' out hinv hinv' h hok hmove =>
      ⟨indexed_moves hinv h.1 hok hmove, h.2.moves hinv hinv' h.1 hok hmove⟩)
  obtain ⟨hmove, -⟩ := step_moves hinv hstart.room.1 hstart.seeded hp hok.1 hstep
  obtain ⟨id, d, msg, hlog⟩ := (hmove.effect hinv).of_uids hu
  obtain ⟨-, rfl⟩ := Prod.mk.inj (List.mem_singleton.mp (hlog.uids ▸ hu))
  obtain ⟨h0, hfind⟩ := hlog.find hok
  obtain ⟨w, w', hw, hw', hrunStep⟩ := hlog.run
  rw [← hw] at hindexed hfind
  obtain ⟨k', hidx, hk, hloaded⟩ := LogicLogin.onStep2_loaded hindexed.cityPool hrunStep hlog.good
  obtain rfl : k = k' := Int.natCast_inj.mp (hlog.playerIdx.symm.trans hidx)
  obtain ⟨-, hfound, hothers⟩ := hindexed.loggedIn hk hloaded hfind
  rw [hw'] at hfound hothers
  have hwait := hinv.logins id d hlog.found hlog.login
  obtain ⟨o, ho, hcmd, hremembers⟩ := hwait.launch
  obtain ⟨answer, ret, hi, -⟩ := hlog.input
  have hseqId : msg.head.seq = seqOfLogicId id := hlog.answers.2.1
  have hid : logicIdOfSeq (seqOfLogicId id) = id := by
    rw [← hseqId]
    exact hlog.logicId
  refine ⟨hothers h0, hfound, _, answer, ret, o, hi, ?_, hcmd,
    hremembers.playerIdx.symm.trans hlog.playerIdx, hremembers.uid, fun j hj hne huid => ?_⟩
  · show b.launches (logicIdOfSeq (seqOfLogicId id)) = some o
    rw [hid]
    exact ho
  have hplayer : o.connData.playerIdx ≠ j := by
    rw [hremembers.playerIdx.symm.trans hlog.playerIdx]
    exact fun e => hne (Int.natCast_inj.mp e).symm
  obtain ⟨hkick, hsent⟩ := hkicked id d o hlog.found hlog.login ho h0 j hj huid hplayer
  obtain ⟨req, hreq⟩ := List.exists_mem_of_ne_nil _ (hsent hlog.step)
  obtain ⟨hsaves, hseq⟩ := hkick.saved req hreq
  refine ⟨hkick.notified, req, hreq, hsaves, fun hmem => ?_⟩
  -- at its last step the login waits for data, and for nothing else
  obtain ⟨-, ⟨hone, -⟩ | ⟨-, hasked⟩⟩ := hwait.asked req hmem hseq
  · rw [hlog.step] at hone
    exact absurd hone (by decide)
  · obtain ⟨_, _, -, hreqSaves⟩ := hsaves
    rw [hreqSaves] at hasked
    cases congrArg ProtoSs.Msg.setPlayerDataReq hasked

/-! ### Two players -/

/-- The condition for an answer to a login, as far as it can be computed. -/
def safeAnswer (b : Backend) (id : Int) : Bool :=
  (b.game.logicModule.store.logicDataMap.lookup id).all (fun d => d.head.step ≠ 2 ||
    d.body.uid ≠ 0 && b.game.objMgr.findPlayerIdxByUid d.body.uid = 0)

theorem oneSession_answer
    (hmsg : b.game.answerMsg codec (Wire.ssMsg (okRes req)) = some (okRes req))
    (h : b.safeAnswer (logicIdOfSeq req.head.seq) = true) : OneSession codec b (answer req) := by
  refine ⟨trivial, fun msg hmsg' _ d hd _ htwo => ?_⟩
  rw [hmsg] at hmsg'
  cases hmsg'
  have hd' : b.game.logicModule.store.logicDataMap.lookup (logicIdOfSeq req.head.seq) = some d := hd
  simp only [safeAnswer, hd', Option.all_some, htwo, ne_eq, not_true_eq_false, decide_false,
    Bool.false_or, Bool.and_eq_true, decide_eq_true_eq] at h
  exact ⟨h.1, fun _ _ => Or.inl h.2⟩

theorem oneSession_connect {fd : Int} (hroomy : b.game.logicModule.Roomy)
    (hmsg : b.game.clientMsg codec ⟨⟨fd, 0, .connStart⟩, Wire.csMsg loginReq⟩ = some loginReq)
    (hfits : (Player.kickOffNtf codec b.game.objMgr 1).payload.length ≤ pkgBufSize)
    (h : ∀ k, b.game.objMgr.Live k → k = 1) : OneSession codec b (connect fd) := by
  refine ⟨hroomy, fun csMsg hmsg' _ connData m _ old hkicks k hk _ _ => ?_⟩
  rw [hmsg] at hmsg'
  cases hmsg'
  obtain rfl := h k hk
  have hindex : toInt32 (LogicLogin.loginUid loginReq).toNat = (1 : Nat) := by decide +kernel
  exact ⟨Int.natCast_inj.mp (hkicks.index.symm.trans hindex), rfl, hfits⟩

/-- A second client logs in to the account of the first, who is kicked off and goes; his
player is deleted before the data for the second arrives. -/
theorem run_oneSession_kicked : ∃ b b' : Backend, ∃ out : GameOut,
    b.step loginCodec (answer nextReq) = .ok (some (b', out)) ∧
    b'.game.objMgr.findPlayerIdxByUid theUid = 2 ∧
    ∃ o : Launch, o.before.Live 1 ∧ (o.before.player 1).uid = theUid ∧
      Player.kickOffNtf loginCodec o.before 1 ∈ o.sent.toConnsvr := by
  have hnone : ∀ k, (fresh 2).game.objMgr.Live k → k = 1 :=
    fun _ hk => absurd hk ShmPool.init_not_allocated
  have hone : ∀ (b : Backend), b.game.objMgr.playerPool.totalUnitCount = 2 →
      b.game.objMgr.playerPool.pos 2 = -3 → ∀ k, b.game.objMgr.Live k → k = 1 := by
    rintro b htotal hpos k ⟨h₁, h₂, h₃⟩
    rw [htotal] at h₂
    obtain rfl | rfl : k = 1 ∨ k = 2 := by omega
    · rfl
    · rw [hpos] at h₃
      exact absurd h₃ (by decide)
  have hrun : Run loginCodec (OneSession loginCodec) (fresh 2) (fresh 2) := .start
  have h₁ := hrun.after (i := connect 5) trivial
    (oneSession_connect ⟨by decide, by decide⟩ (by decide +kernel) (by decide) hnone)
    (by decide +kernel)
  have h₂ := h₁.after (i := answer firstReq)
    (possible_answer (by decide +kernel) (by decide +kernel))
    (oneSession_answer (by decide +kernel) (by decide +kernel)) (by decide +kernel)
  have h₃ := h₂.after (i := connect 6) trivial
    (oneSession_connect ⟨by decide +kernel, by decide +kernel⟩ (by decide +kernel)
      (by decide +kernel) (hone _ (by decide +kernel) (by decide +kernel))) (by decide +kernel)
  have h₄ := h₃.after (i := disconnect 5 1) trivial
    ⟨⟨by decide +kernel, by decide +kernel⟩, fun _ _ _ _ _ henters => (nomatch henters)⟩
    (by decide +kernel)
  have h₅ := h₄.after (i := answer kickReq)
    (possible_answer (by decide +kernel) (by decide +kernel))
    (oneSession_answer (by decide +kernel) (by decide +kernel)) (by decide +kernel)
  obtain ⟨-, hfind, req, _, _, o, hi, ho, -, -, -, hkick⟩ := run_oneSession (fresh_started 2) h₅
    (possible_answer (by decide +kernel) (by decide +kernel))
    (oneSession_answer (by decide +kernel) (by decide +kernel))
    (step_after (i := answer nextReq) (by decide +kernel)) 2 theUid (by decide +kernel)
  cases hi
  have hbound : ∀ x : Option Launch, x = some o →
      x.all (fun o => o.before.Live 1 ∧ (o.before.player 1).uid = theUid) = true →
      o.before.Live 1 ∧ (o.before.player 1).uid = theUid := by
    rintro _ rfl h
    exact of_decide_eq_true h
  obtain ⟨hlive, huid⟩ := hbound _ ho (by decide +kernel)
  exact ⟨_, _, _, step_after (i := answer nextReq) (by decide +kernel), hfind, o, hlive, huid,
    (hkick 1 hlive (by decide) huid).1⟩

/-- **Two sessions for one account.**  Two clients log in while nobody has the uid, and
datasvr has the data for both. -/
theorem run_twoSessions : ∃ b b' : Backend, ∃ out : GameOut, (fresh 2).Started 4 7 ∧
    Run loginCodec (fun _ _ => True) (fresh 2) b ∧ b.Possible loginCodec (answer secondReq) ∧
    b.step loginCodec (answer secondReq) = .ok (some (b', out)) ∧ out.uids = [(2, theUid)] ∧
    b'.game.objMgr.Live 1 ∧ (b'.game.objMgr.player 1).uid = theUid ∧
    b'.game.objMgr.findPlayerIdxByUid theUid = 1 := by
  have hrun : Run loginCodec (fun _ _ => True) (fresh 2) (fresh 2) := .start
  have h₁ := hrun.after (i := connect 5) trivial trivial (by decide +kernel)
  have h₂ := h₁.after (i := connect 6) trivial trivial (by decide +kernel)
  have h₃ := h₂.after (i := answer firstReq)
    (possible_answer (by decide +kernel) (by decide +kernel)) trivial (by decide +kernel)
  exact ⟨_, _, _, fresh_started 2, h₃, possible_answer (by decide +kernel) (by decide +kernel),
    step_after (i := answer secondReq) (by decide +kernel), by decide +kernel, by decide +kernel,
    by decide +kernel, by decide +kernel⟩

end

end Backend

end PlayFrame
