/-
# `PlayFrame.GameSvr.SavedData` — what is saved was loaded

`DoUpdatePlayerData` saves whatever a player holds.  A login overwrites the role data, but
it puts the cities of the record behind those that the player has, and it drops their ids.
And a player is saved when its connection ends, or when a login takes it for the player of
its uid, whether it has been logged in or not.
-/
import PlayFrame.GameSvr.Backend
import PlayFrame.GameSvr.PlayerData

namespace PlayFrame

open ObjMgrModule (PlayerAdded citySlots)

/-! ## The cities of the players -/

section
variable {codec : Codec} {m m' : ObjMgrModule} {k : Nat} {uid : UInt64}
  {D : Database.PlayerData} {populations : List Int} {req : ProtoSs.Msg}

theorem HasCities.slot (h : HasCities m.cityPool (m.player k).cityList populations) :
    ∀ i ∈ citySlots, (m.player k).cityList i = 0 ∨
      ∃ c : Nat, (m.player k).cityList i = c ∧ m.cityPool.Allocated c := by
  intro i hi
  obtain ⟨hpos, hlt⟩ := mem_citySlots.mp hi
  obtain ⟨j, rfl⟩ := Nat.exists_eq_add_of_le' hpos
  by_cases hj : j < populations.length
  · obtain ⟨c, hslot, hc, -⟩ := h.city j hj
    exact Or.inr ⟨c, hslot, hc⟩
  · exact Or.inl (h.empty (j + 1) (Nat.lt_succ_of_le (Nat.not_lt.mp hj)) hlt)

/-- **A request to save** has the record that the player holds, without the ids. -/
theorem HoldsData.saves (h : HoldsData m k uid D) (hs : Player.Saves codec m k req) :
    ∃ seq, req = Player.setPlayerDataReq seq k uid (codec.serializePlayerData D.withoutIds) := by
  obtain ⟨seq, cities, hcities, rfl⟩ := hs
  rw [h.cities.cityInfos] at hcities
  cases hcities
  have hlist : D.populations.map (fun population => { population := population }) =
      D.withoutIds.cityList := List.map_map
  refine ⟨seq, ?_⟩
  rw [hlist, h.uid, h.roleInfo.1, h.roleInfo.2]
  rfl

/-- What a player was last given is what it holds: nothing but no city, or a record, the
cities of which have no ids. -/
def Holds (m : ObjMgrModule) (k : Nat) : Option (UInt64 × Database.PlayerData) → Prop
  | none => ∀ i, (m.player k).cityList i = 0
  | some (uid, D) => HoldsData m k uid D ∧ D.withoutIds = D

theorem Holds.hasCities {given : Option (UInt64 × Database.PlayerData)} (h : Holds m k given) :
    ∃ populations, HasCities m.cityPool (m.player k).cityList populations := by
  cases given with
  | none => exact ⟨[], .nil h⟩
  | some r => exact ⟨_, h.1.cities⟩

theorem Holds.congr {given : Option (UInt64 × Database.PlayerData)} (h : Holds m k given)
    (hplayer : m'.player k = m.player k)
    (hcity : ∀ i ∈ citySlots, ∀ c : Nat, (m.player k).cityList i = c → m.cityPool.Allocated c →
      m'.cityPool.Allocated c ∧ m'.cityPool.mem c = m.cityPool.mem c) : Holds m' k given := by
  cases given with
  | none =>
      intro i
      rw [hplayer]
      exact h i
  | some r =>
      obtain ⟨hdata, hids⟩ := h
      refine ⟨⟨?_, ?_, ?_⟩, hids⟩
      · rw [hplayer]
        exact hdata.uid
      · rw [hplayer]
        exact hdata.roleInfo
      · rw [hplayer]
        exact hdata.cities.congr hcity

/-- Every player in use holds what it was last given, and no two have a city in common. -/
structure OwnData (m : ObjMgrModule) (loaded : Nat → Option (UInt64 × Database.PlayerData)) :
    Prop where
  cityPool : m.cityPool.Ok
  holds : ∀ k, m.Live k → Holds m k (loaded k)
  apart : ∀ j k, m.Live j → m.Live k → j ≠ k → ∀ i ∈ citySlots, ∀ i' ∈ citySlots,
    (m.player j).cityList i ≠ 0 → (m.player j).cityList i ≠ (m.player k).cityList i'

end

namespace OwnData

section
variable {m m' : ObjMgrModule} {loaded : Nat → Option (UInt64 × Database.PlayerData)} {k : Nat}
  {connFd playerIdx : Int} {uid : UInt64} {w w' : GameWorld} {D : Database.PlayerData}

theorem slot (h : OwnData m loaded) (hk : m.Live k) : ∀ i ∈ citySlots,
    (m.player k).cityList i = 0 ∨
      ∃ c : Nat, (m.player k).cityList i = c ∧ m.cityPool.Allocated c := by
  obtain ⟨populations, hcities⟩ := (h.holds k hk).hasCities
  exact hcities.slot

theorem added (h : OwnData m loaded) (hadd : PlayerAdded m k connFd m') :
    OwnData m' (Function.update loaded k none) := by
  have hold : ∀ j, m'.Live j → j ≠ k → m.Live j := fun j hj hne =>
    ((hadd.live j).mp hj).resolve_right hne
  have hnew : ∀ i, (m'.player k).cityList i = 0 := by
    intro i
    rw [hadd.new]
    rfl
  refine ⟨?_, fun j hj => ?_, fun j l hj hl hne i hi i' hi' h0 => ?_⟩
  · rw [hadd.cityPool]
    exact h.cityPool
  · by_cases hjk : j = k
    · subst hjk
      rw [Function.update_self]
      exact hnew
    · rw [Function.update_of_ne hjk]
      refine (h.holds j (hold j hj hjk)).congr (hadd.others j hjk) (fun i _ c _ hc => ?_)
      rw [hadd.cityPool]
      exact ⟨hc, rfl⟩
  · have hjk : j ≠ k := by
      rintro rfl
      exact h0 (hnew i)
    by_cases hlk : l = k
    · subst hlk
      rw [hnew i']
      exact h0
    · rw [hadd.others j hjk] at h0 ⊢
      rw [hadd.others l hlk]
      exact h.apart j l (hold j hj hjk) (hold l hl hlk) hne i hi i' hi' h0

theorem deleted (h : OwnData m loaded) (hpool : m.playerPool.Ok)
    (hdel : m.delPlayer playerIdx = .ok m') : OwnData m' loaded := by
  obtain ⟨-, hlive, hmem⟩ := ObjMgrModule.delPlayer_spec hpool hdel
  obtain ⟨hcity, hcityMem, hused⟩ := ObjMgrModule.delPlayer_cities h.cityPool hdel
  have hplayer : ∀ j, m'.player j = m.player j := fun j => congrFun hmem j
  refine ⟨hcity, fun j hj => ?_, fun j l hj hl hne i hi i' hi' => ?_⟩
  · obtain ⟨hj, hne⟩ := (hlive j).mp hj
    refine (h.holds j hj).congr (hplayer j) (fun i hi c hslot hc => ⟨hused c hc ?_, ?_⟩)
    · rintro k rfl hk i' hi' hck
      have h0 : (m.player j).cityList i ≠ 0 := by
        rw [hslot]
        exact Int.natCast_ne_zero.mpr (Nat.ne_of_gt hc.1)
      have hjk : j ≠ k := fun e => hne (congrArg Nat.cast e.symm)
      exact h.apart j k hj hk hjk i hi i' hi' h0 (hslot.trans hck.symm)
    · rw [hcityMem]
  · rw [hplayer j, hplayer l]
    exact h.apart j l ((hlive j).mp hj).1 ((hlive l).mp hl).1 hne i hi i' hi'

theorem loggedIn (h : OwnData w.objMgr loaded) (hk : w.objMgr.Live k)
    (hloaded : Loaded k uid D w w') (hnone : (w.objMgr.player k).cityList 0 = 0)
    (hids : D.withoutIds = D) :
    OwnData w'.objMgr (Function.update loaded k (some (uid, D))) := by
  -- a slot of a player has the city that it had, or a new one of `k`
  have hslots : ∀ j, w.objMgr.Live j → ∀ i ∈ citySlots,
      (w'.objMgr.player j).cityList i = (w.objMgr.player j).cityList i ∨
        j = k ∧ ∃ c : Nat, (w'.objMgr.player j).cityList i = c ∧
          ¬ w.objMgr.cityPool.Allocated c := by
    intro j hj i hi
    by_cases hjk : j = k
    · subst hjk
      rcases hloaded.slots i hi with heq | ⟨c, hslot, hnew, -⟩
      · exact Or.inl heq
      · exact Or.inr ⟨rfl, c, hslot, hnew⟩
    · rw [hloaded.others j hjk]
      exact Or.inl rfl
  -- what is new is in no slot that was there
  have hnew : ∀ l, w.objMgr.Live l → ∀ i ∈ citySlots, ∀ c : Nat,
      ¬ w.objMgr.cityPool.Allocated c → (c : Int) ≠ 0 →
      (w.objMgr.player l).cityList i ≠ c := by
    intro l hl i hi c hc h0 heq
    rcases h.slot hl i hi with hzero | ⟨c', hslot, hc'⟩
    · exact h0 (heq.symm.trans hzero)
    · obtain rfl := Int.natCast_inj.mp (hslot.symm.trans heq)
      exact hc hc'
  refine ⟨hloaded.cityPool, fun j hj => ?_, fun j l hj hl hne i hi i' hi' h0 heq => ?_⟩
  · have hj := (hloaded.live j).mp hj
    by_cases hjk : j = k
    · subst hjk
      obtain ⟨populations, hcities⟩ := (h.holds j hj).hasCities
      have hlen : populations.length = 0 := by
        have := hcities.count
        rw [hnone] at this
        exact Int.natCast_eq_zero.mp this.symm
      obtain rfl := List.length_eq_zero_iff.mp hlen
      rw [Function.update_self]
      exact ⟨⟨hloaded.uid, hloaded.roleInfo, hloaded.cities [] hcities⟩, hids⟩
    · rw [Function.update_of_ne hjk]
      exact (h.holds j hj).congr (hloaded.others j hjk)
        (fun i _ c _ hc => ⟨hloaded.allocated c hc, hloaded.mem c hc⟩)
  · have hj := (hloaded.live j).mp hj
    have hl := (hloaded.live l).mp hl
    rcases hslots j hj i hi with hji | ⟨rfl, c, hji, hc⟩
    · rcases hslots l hl i' hi' with hli | ⟨rfl, c, hli, hc⟩
      · rw [hji] at h0 heq
        rw [hli] at heq
        exact h.apart j l hj hl hne i hi i' hi' h0 heq
      · rw [heq, hli] at h0
        exact hnew j hj i hi c hc h0 (hji.symm.trans (heq.trans hli))
    · rcases hslots l hl i' hi' with hli | ⟨rfl, -⟩
      · rw [hji] at h0
        exact hnew l hl i' hi' c hc h0 (hli.symm.trans (heq.symm.trans hji))
      · exact hne rfl

end

end OwnData

/-! ## Runs -/

namespace Backend

open GameSvr (Enters)

/-- A connection ends, and a login takes a player for the one of its uid, only once the
player has been logged in; the data of a login arrives at a player without cities, and
the cities in it have no ids. -/
def SavesLoaded (codec : Codec) (b : Backend) (i : BackendInput) : Prop :=
  b.Roomy i ∧ match i with
    | .connsvr msg _ =>
        (msg.connData.connCmd = .connStop → ∀ k : Nat, msg.connData.playerIdx = k →
          b.game.objMgr.Live k → b.loaded k ≠ none) ∧
        ∀ csMsg, b.game.clientMsg codec msg = some csMsg →
          csMsg.head.cmd = ProtoCs.loginReqFieldNumber →
          ∀ connData m, Enters b.game.objMgr msg connData m →
          ∀ old, LogicLogin.Kicks m csMsg old → b.game.objMgr.Live old ∧ b.loaded old ≠ none
    | .datasvr _ answer _ => ∀ msg, b.game.answerMsg codec answer = some msg →
        msg.head.ret = ProtoSs.retOk → ∀ d,
        b.game.logicModule.store.logicDataMap.lookup (logicIdOfSeq msg.head.seq) = some d →
        d.head.logicType = MsgModule.logicLogin → d.head.step = 2 →
        (LogicLogin.answerData codec msg).withoutIds = LogicLogin.answerData codec msg ∧
          ∀ k : Nat, d.body.playerIdx = k → (b.game.objMgr.player k).cityList 0 = 0
    | .update _ => True

section
variable {codec : Codec} {size : Nat} {start : Int} {b b' b₀ : Backend} {i : BackendInput}
  {out : GameOut} {req : ProtoSs.Msg}

/-- **Every step** leaves the players with what they were last given. -/
theorem ownData_moves (hinv : b.Inv size start) (h : OwnData b.game.objMgr b.loaded)
    (hok : SavesLoaded codec b i) (hmove : Moves codec b i b' out) :
    OwnData b'.game.objMgr b'.loaded := by
  cases hmove.effect hinv with
  | added msg ret k hi hcmd hadd hloaded huids =>
      rw [hloaded]
      exact h.added hadd
  | kept hobj hloaded huids =>
      rw [hobj, hloaded]
      exact h
  | deleted msg ret hi hcmd hdel hloaded huids =>
      rw [hloaded]
      exact h.deleted hinv.pool hdel
  | loggedIn id d msg k hlog =>
      obtain ⟨answer, ret, rfl, hmsg⟩ := hlog.input
      have hfound := hlog.found
      rw [← hlog.logicId] at hfound
      obtain ⟨hids, hnone⟩ := hok.2 msg hmsg hlog.good d hfound hlog.login hlog.step
      obtain ⟨w, w', hw, hw', hstep⟩ := hlog.run
      have hnone := hnone k hlog.playerIdx
      rw [← hw] at h hnone
      obtain ⟨k', hidx, hk, hloaded⟩ := LogicLogin.onStep2_loaded h.cityPool hstep hlog.good
      obtain rfl : k = k' := Int.natCast_inj.mp (hlog.playerIdx.symm.trans hidx)
      rw [← hw', hlog.loaded]
      exact h.loggedIn hk hloaded hnone hids

theorem SavesLoaded.saves (hok : SavesLoaded codec b i) (hmove : Moves codec b i b' out)
    (hreq : req ∈ out.toDatasvr) (hsave : req.setPlayerDataReq ≠ none) :
    ∃ k : Nat, b.game.objMgr.Live k ∧ b.loaded k ≠ none ∧
      Player.Saves codec b.game.objMgr k req := by
  obtain ⟨msg, ret, k, rfl, ⟨hcmd, hidx, hk, hs⟩ | ⟨csMsg, connData, hmsg, hlogin, henters, hkicks,
    hs⟩⟩ := hmove.saves hreq hsave
  · exact ⟨k, hk, hok.2.1 hcmd k hidx hk, hs⟩
  · obtain ⟨hk, hloaded⟩ := hok.2.2 csMsg hmsg hlogin connData _ henters k hkicks
    obtain ⟨-, hcity, hframe⟩ := enters_frame henters
    exact ⟨k, hk, hloaded, hs.congr (hframe k hk).2.symm hcity.symm⟩

/-- **What is saved was loaded**, in every run whose steps meet the condition: a request to
save a player has the uid of the login that ended well on it last, and the record that was
loaded then. -/
theorem run_savesLoaded (hstart : b₀.Started size start)
    (hrun : Run codec (SavesLoaded codec) b₀ b) (hp : b.Possible codec i)
    (hok : SavesLoaded codec b i) (hstep : b.step codec i = .ok (some (b', out))) :
    ∀ req ∈ out.toDatasvr, req.setPlayerDataReq ≠ none →
      ∃ (k : Nat) (uid : UInt64) (D : Database.PlayerData), b.game.objMgr.Live k ∧
        b.loaded k = some (uid, D) ∧ req.head.playerIdx = k ∧
        req.setPlayerDataReq =
          some { uid := uid, playerData := codec.serializePlayerData D } := by
  intro req hreq hsave
  have hbase : OwnData b₀.game.objMgr b₀.loaded := by
    obtain ⟨_, n, _, rawCity, hgame⟩ := hstart.game
    have hnone : ∀ k, ¬ b₀.game.objMgr.Live k := by
      intro k hk
      rw [hgame] at hk
      exact ShmPool.init_not_allocated hk
    refine ⟨?_, fun k hk => absurd hk (hnone k), fun j _ hj => absurd hj (hnone j)⟩
    rw [hgame]
    exact ⟨_, ShmPool.init_inv n rawCity⟩
  obtain ⟨hinv, hown⟩ := hrun.induct (P := fun b => OwnData b.game.objMgr b.loaded) hstart
    (fun _ _ h => h.1) hbase
    (fun b i b' out hinv _ h hok hmove => ownData_moves hinv h hok hmove)
  obtain ⟨hmove, -⟩ := step_moves hinv hstart.room.1 hstart.seeded hp hok.1 hstep
  obtain ⟨k, hk, hloaded, hs⟩ := hok.saves hmove hreq hsave
  obtain ⟨⟨uid, D⟩, hsome⟩ := Option.ne_none_iff_exists'.mp hloaded
  have hholds := hown.holds k hk
  rw [hsome] at hholds
  obtain ⟨hdata, hids⟩ := hholds
  obtain ⟨seq, rfl⟩ := hdata.saves hs
  rw [hids]
  exact ⟨k, uid, D, hk, hsome, rfl, rfl⟩

/-! ### Two accounts on a connection -/

/-- The condition for an answer to a login of the first player, as far as it can be
computed, when the record in the answer is empty. -/
def noCities (b : Backend) (id : Int) : Bool :=
  (b.game.logicModule.store.logicDataMap.lookup id).all (fun d => d.body.playerIdx = 1) &&
    (b.game.objMgr.player 1).cityList 0 = 0

theorem savesLoaded_answer
    (hmsg : b.game.answerMsg codec (Wire.ssMsg (okRes req)) = some (okRes req))
    (hids : (LogicLogin.answerData codec (okRes req)).withoutIds =
      LogicLogin.answerData codec (okRes req))
    (h : b.noCities (logicIdOfSeq req.head.seq) = true) : SavesLoaded codec b (answer req) := by
  refine ⟨trivial, fun msg hmsg' _ d hd _ _ => ?_⟩
  rw [hmsg] at hmsg'
  cases hmsg'
  have hd' : b.game.logicModule.store.logicDataMap.lookup (logicIdOfSeq req.head.seq) = some d := hd
  simp only [noCities, hd', Option.all_some, Bool.and_eq_true, decide_eq_true_eq] at h
  refine ⟨hids, fun k hk => ?_⟩
  obtain rfl : k = 1 := Int.natCast_inj.mp (hk.symm.trans h.1)
  exact h.2

theorem savesLoaded_connect {fd : Int} : SavesLoaded codec (fresh 1) (connect fd) := by
  refine ⟨⟨by decide, by decide⟩, fun hcmd => (nomatch hcmd),
    fun csMsg _ _ connData m henters old hkicks => ?_⟩
  have hbound := hkicks.bound
  unfold ObjMgrModule.findPlayerIdxByUid at hbound
  rw [(enters_frame henters).1] at hbound
  exact absurd hbound (lt_irrefl 0)

/-- The first client of a fresh server, once it has logged in. -/
def welcomed : Backend :=
  (after loginCodec (after loginCodec (fresh 1) (connect 5)).1 (answer firstReq)).1

/-- A client logs in and goes: what is saved is the record of its account. -/
theorem run_savesLoaded_disconnect : ∃ b' : Backend, ∃ out : GameOut,
    welcomed.step loginCodec (disconnect 5 1) = .ok (some (b', out)) ∧
    welcomed.loaded 1 = some (theUid, {}) ∧ ∃ req ∈ out.toDatasvr, req.setPlayerDataReq =
      some { uid := theUid, playerData := loginCodec.serializePlayerData {} } := by
  have hstart : Run loginCodec (SavesLoaded loginCodec) (fresh 1) (fresh 1) := .start
  have hasked := hstart.after (i := connect 5) trivial savesLoaded_connect (by decide +kernel)
  have hrun : Run loginCodec (SavesLoaded loginCodec) (fresh 1) welcomed :=
    hasked.after (i := answer firstReq) (possible_answer (by decide +kernel) (by decide +kernel))
      (savesLoaded_answer (by decide +kernel) (by decide +kernel) (by decide +kernel))
      (by decide +kernel)
  have hgiven : welcomed.loaded 1 = some (theUid, {}) := by decide +kernel
  have hok : SavesLoaded loginCodec welcomed (disconnect 5 1) := by
    refine ⟨⟨by decide +kernel, by decide +kernel⟩, fun _ k hk _ => ?_,
      fun _ _ _ _ _ henters => (nomatch henters)⟩
    obtain rfl : k = 1 := Int.natCast_inj.mp hk.symm
    rw [hgiven]
    exact Option.some_ne_none _
  have hsteps : welcomed.steps loginCodec (disconnect 5 1) = true := by decide +kernel
  obtain ⟨req, hmem, hsave, hone⟩ : ∃ req ∈ (welcomed.after loginCodec (disconnect 5 1)).2.toDatasvr,
      req.setPlayerDataReq ≠ none ∧ req.head.playerIdx = 1 := by decide +kernel
  obtain ⟨k, uid, D, -, hloaded, hidx, hreq⟩ := run_savesLoaded (fresh_started 1) hrun
    (i := disconnect 5 1) trivial hok (step_after hsteps) req hmem hsave
  obtain rfl : k = 1 := Int.natCast_inj.mp (hidx.symm.trans hone)
  cases hloaded.symm.trans hgiven
  exact ⟨_, _, step_after hsteps, hgiven, req, hmem, hreq⟩

/-- A second account. -/
def guest : ProtoCs.Credentials where
  account := [103, 117, 101, 115, 116, 48, 49]
  password := [49, 50, 51, 52]

def guestUid : UInt64 := Utils.fnv64aHash guest.account

def guestReq : ProtoCs.Msg where
  head := { cmd := ProtoCs.loginReqFieldNumber }
  loginReq := some guest

/-- Its data is asked for, for the first player. -/
def guestDataReq : ProtoSs.Msg :=
  Player.getPlayerDataReq 5573207854 1 guestUid (Utils.fnv64aHash guest.password)

/-- A record with a city. -/
def oneCity : Database.PlayerData where
  roleInfo := { money := 1000, level := 1 }
  cityList := [{ population := 7 }]

def oneCityRes : ProtoSs.Msg where
  head := (okRes firstReq).head
  getPlayerDataRes := some { playerData := Wire.playerData oneCity }

/-- The generated code, when the record of the first account has a city and that of the
second is empty. -/
def guestCodec : Codec :=
  Wire.codec [(Wire.csMsg loginReq, loginReq), (Wire.csMsg guestReq, guestReq)]
    [(Wire.ssMsg oneCityRes, oneCityRes), (Wire.ssMsg (okRes guestDataReq), okRes guestDataReq)] [oneCity]

/-- The client of a new connection sends what gamesvr does not understand. -/
def hello (fd : Int) : BackendInput := .connsvr ⟨⟨fd, 0, .connStart⟩, []⟩ calm

/-- The client of the first player logs in to the second account. -/
def guestLogin (fd : Int) : BackendInput :=
  .connsvr ⟨⟨fd, 1, .connProc⟩, Wire.csMsg guestReq⟩ calm

/-- **What was never loaded is saved**, when a client goes that has not logged in.  And
when the client of one account logs in to another, **the city of the first** is saved for
the second. -/
theorem run_savesOthers :
    (∃ b b' : Backend, ∃ out : GameOut, (fresh 1).Started 4 7 ∧
      Run guestCodec (fun _ _ => True) (fresh 1) b ∧ b.loaded 1 = none ∧
      b.step guestCodec (disconnect 5 1) = .ok (some (b', out)) ∧
      ∃ req ∈ out.toDatasvr, req.head.playerIdx = 1 ∧ req.setPlayerDataReq =
        some { uid := 0, playerData := guestCodec.serializePlayerData {} }) ∧
    ∃ b b' : Backend, ∃ out : GameOut, (fresh 1).Started 4 7 ∧
      Run guestCodec (fun _ _ => True) (fresh 1) b ∧ b.loaded 1 = some (guestUid, {}) ∧
      b.step guestCodec (disconnect 5 1) = .ok (some (b', out)) ∧
      ∃ req ∈ out.toDatasvr, req.head.playerIdx = 1 ∧ req.setPlayerDataReq =
        some { uid := guestUid
               playerData := guestCodec.serializePlayerData
                { cityList := [{ population := 7 }] } } := by
  have hrun : Run guestCodec (fun _ _ => True) (fresh 1) (fresh 1) := .start
  constructor
  · have h₁ := hrun.after (i := hello 5) trivial trivial (by decide +kernel)
    exact ⟨_, _, _, fresh_started 1, h₁, by decide +kernel,
      step_after (i := disconnect 5 1) (by decide +kernel), by decide +kernel⟩
  · have h₁ := hrun.after (i := connect 5) trivial trivial (by decide +kernel)
    have h₂ := h₁.after (i := .datasvr firstReq (Wire.ssMsg oneCityRes) calm)
      (possible_datasvr (by decide +kernel)
        (show _ = some oneCityRes by decide +kernel) ⟨rfl, rfl, rfl⟩) trivial (by decide +kernel)
    have h₃ := h₂.after (i := guestLogin 5) trivial trivial (by decide +kernel)
    have h₄ := h₃.after (i := answer guestDataReq)
      (possible_answer (by decide +kernel) (by decide +kernel)) trivial (by decide +kernel)
    exact ⟨_, _, _, fresh_started 1, h₄, by decide +kernel,
      step_after (i := disconnect 5 1) (by decide +kernel), by decide +kernel⟩

end

end Backend

end PlayFrame
