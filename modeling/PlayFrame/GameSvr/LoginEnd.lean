/-
# `PlayFrame.GameSvr.LoginEnd` — the last step of a login

`LogicLogin::OnStep2` runs when datasvr has answered, at any time after the login began:
the client may be gone, and its unit free or another client's.  The record in the answer
has any number of cities, and each of them needs a slot of the player and a unit of the
city pool.

The step uses the pointer to its player, and each pointer to a city, before it tests them,
and `AddCity` does so with the unit it gets from the pool.  So the step ends the login in
just those states that have what it takes: a player at the index of the login and, for a
good answer, a slot and a unit for every city (`onStep2_ends_iff`).
-/
import PlayFrame.GameSvr.Cities
import PlayFrame.GameSvr.Backend

namespace PlayFrame

/-- The states of gamesvr: any messages arrive from connsvr and from datasvr, and the
timers are polled at any time. -/
inductive GameSvr.Reached (codec : Codec) : GameSvr → Prop
  | init (playerPoolSize cityPoolSize logicTimerInitSize : Nat) (rawPlayer : Nat → Player)
      (rawCity : Nat → City) (now : Int) : Reached codec
        (GameSvr.init playerPoolSize cityPoolSize logicTimerInitSize rawPlayer rawCity now)
  | connsvr {s s' : GameSvr} {out : GameOut} (msg : ConnMsg) (ret : GameRet) :
      Reached codec s → s.onConnsvr codec msg ret = .ok (s', out) → Reached codec s'
  | datasvr {s s' : GameSvr} {out : GameOut} (msg : Bytes) (ret : GameRet) :
      Reached codec s → s.onDatasvr codec msg ret = .ok (s', out) → Reached codec s'
  | update {s s' : GameSvr} (now : TimeValue) :
      Reached codec s → s.onUpdate now = .ok (some s') → Reached codec s'

namespace LogicLogin

open ObjMgrModule (citySlots filledSlots mem_filledSlots)

/-- The cities of a record are in slots of the player that were empty, in order. -/
def CitiesLoaded (k : Nat) (infos : List Database.CityInfo) (m m' : ObjMgrModule) : Prop :=
  ∃ slots : List Nat, slots.Nodup ∧
    (∀ i ∈ slots, i ∈ citySlots ∧ (m.player k).cityList i = 0) ∧
    List.Forall₂ (fun i cityInfo =>
      CityAt m'.cityPool ((m'.player k).cityList i) cityInfo.population) slots infos

/-- The ends of a login: a reply of success once all cities are loaded, a reply of
failure, or a result of failure. -/
inductive Ends (codec : Codec) (d : LogicData LogicBody) (msg : ProtoSs.Msg) (w : GameWorld) :
    Result (Int × LogicData LogicBody × GameWorld) → Prop
  | succeeded (k : Nat) (w₁ w₂ w' : GameWorld) : d.body.playerIdx = k →
      CitiesLoaded k (answerData codec msg).cityList w.objMgr w₁.objMgr →
      w₁.toConnsvr = w.toConnsvr →
      Player.sendOkCsLoginRes codec d.body.clientSeq k w₁ = .ok w₂ →
      Player.sendRoleInfoNotify codec k w₂ = .ok w' →
      Ends codec d msg w (.ok (logicFinish, d, w'))
  | failed (k : Nat) (w' : GameWorld) : d.body.playerIdx = k →
      Player.sendFailedCsRes codec d.body.clientSeq ProtoCs.loginResFieldNumber (-1) k w =
        .ok w' →
      Ends codec d msg w (.ok (logicFinish, d, w'))
  | refused (d' : LogicData LogicBody) (w' : GameWorld) :
      Ends codec d msg w (.ok (logicFailed, d', w'))

/-- What `OnStep2` takes for granted: the player, and for a good answer a slot and a unit
for each of the cities. -/
def CanEnd (codec : Codec) (d : LogicData LogicBody) (msg : ProtoSs.Msg) (m : ObjMgrModule) :
    Prop :=
  ∃ k : Nat, d.body.playerIdx = k ∧ m.Live k ∧
    (msg.head.ret = ProtoSs.retOk →
      (filledSlots (m.player k).cityList).card + (answerData codec msg).cityList.length <
          maxCityNumPerPlayer ∧
        (answerData codec msg).cityList.length ≤ m.cityPool.validUnitCount)

/-! ## The cities of a record -/

section
variable {codec : Codec} {w w' : GameWorld} {k : Nat} {cityInfo : Database.CityInfo}
  {cityList : Nat → Int} {d d' : LogicData LogicBody} {msg : ProtoSs.Msg} {ret : Int}

theorem card_filledSlots_lt (cityList : Nat → Int) : (filledSlots cityList).card < maxCityNumPerPlayer := by
  have hle : (filledSlots cityList).card ≤ (Finset.Ico 1 maxCityNumPerPlayer).card :=
    Finset.card_le_card (Finset.filter_subset _ _)
  have hsize : (Finset.Ico 1 maxCityNumPerPlayer).card = 99 := rfl
  have hmax : maxCityNumPerPlayer = 100 := rfl
  omega

theorem find_slot_iff : (∃ slot, citySlots.find? (fun i => cityList i = 0) =
      some slot) ↔ (filledSlots cityList).card + 1 < maxCityNumPerPlayer := by
  have hsize : (Finset.Ico 1 maxCityNumPerPlayer).card + 1 = maxCityNumPerPlayer := rfl
  constructor
  · rintro ⟨slot, hslot⟩
    have hmem : slot ∈ citySlots := List.mem_of_find?_eq_some hslot
    have hzero : cityList slot = 0 := of_decide_eq_true (List.find?_some hslot :)
    have hlt : (filledSlots cityList).card < (Finset.Ico 1 maxCityNumPerPlayer).card := by
      refine Finset.card_lt_card ((Finset.ssubset_iff_of_subset (Finset.filter_subset _ _)).mpr
        ⟨slot, Finset.mem_Ico.mpr (mem_citySlots.mp hmem), fun h => ?_⟩)
      exact (mem_filledSlots.mp h).2 hzero
    omega
  · intro hroom
    by_contra hnone
    have hall : Finset.Ico 1 maxCityNumPerPlayer ⊆ filledSlots cityList := by
      intro i hi
      have hmem : i ∈ citySlots :=
        mem_citySlots.mpr (Finset.mem_Ico.mp hi)
      refine mem_filledSlots.mpr ⟨hmem, fun hzero => hnone ?_⟩
      exact Option.isSome_iff_exists.mp
        (List.find?_isSome.mpr ⟨i, hmem, decide_eq_true hzero⟩)
    have := Finset.card_le_card hall
    omega

theorem loadCity_owned (h : w.objMgr.CitiesOwned) {playerIdx : Int}
    (hload : loadCity playerIdx cityInfo w = .ok w') : w'.objMgr.CitiesOwned := by
  obtain ⟨⟨cityIdx, m⟩, hadd, hload⟩ := bind_eq_ok.mp hload
  dsimp only at hload
  have hm := h.addCity hadd
  rcases ObjMgrModule.addCity_cases h.cities hadd with
    ⟨hneg, -⟩ | ⟨player, slot, city, rfl, rfl, hc, hidx⟩
  · simp only [ObjMgrModule.getCity, if_pos hneg.le] at hload
    cases hload
  · rw [ObjMgrModule.getCity_of_allocated hc.new_allocated] at hload
    cases hload
    exact hm.writeCity city hidx.symm

theorem loadCity_counts (h : w.objMgr.CitiesOwned) (hk : w.objMgr.Live k)
    (hload : loadCity k cityInfo w = .ok w') :
    w'.objMgr.Live k ∧
      (filledSlots (w'.objMgr.player k).cityList).card =
        (filledSlots (w.objMgr.player k).cityList).card + 1 ∧
      w'.objMgr.cityPool.validUnitCount + 1 = w.objMgr.cityPool.validUnitCount := by
  obtain ⟨slot, city, hslot, -, -, -, hvalid, hlist, -⟩ := loadCity_spec h.cities hload
  have hk' : w'.objMgr.Live k := ((loadCity_acts hload).same.live k).mpr hk
  have hslot0 : slot ≠ 0 := by
    have := mem_citySlots.mp (List.mem_of_find?_eq_some hslot)
    omega
  have hfirst : (w'.objMgr.player k).cityList 0 = (w.objMgr.player k).cityList 0 + 1 := by
    rw [hlist, Function.update_of_ne hslot0.symm, Function.update_self]
  have hcount := h.count k hk
  have hcount' := (loadCity_owned h hload).count k hk'
  exact ⟨hk', by omega, hvalid⟩

theorem loadCity_ok_iff (cityInfo : Database.CityInfo) (h : w.objMgr.CitiesOwned)
    (hk : w.objMgr.Live k) :
    (∃ w', loadCity k cityInfo w = .ok w') ↔
      (filledSlots (w.objMgr.player k).cityList).card + 1 < maxCityNumPerPlayer ∧
        0 < w.objMgr.cityPool.validUnitCount := by
  constructor
  · rintro ⟨w', hload⟩
    obtain ⟨slot, city, hslot, -, -, -, hvalid, -⟩ := loadCity_spec h.cities hload
    exact ⟨find_slot_iff.mp ⟨slot, hslot⟩, by omega⟩
  · rintro ⟨hroom, hv⟩
    obtain ⟨slot, hslot⟩ := find_slot_iff.mpr hroom
    refine loadCity_ok h.cities hk ?_ hslot hv cityInfo
    have hcount := h.count k hk
    have hlt := card_filledSlots_lt (w.objMgr.player k).cityList
    omega

/-- **The cities can be loaded** when there is a slot and a unit for each. -/
theorem loadCities_ok_iff (infos : List Database.CityInfo) (h : w.objMgr.CitiesOwned)
    (hk : w.objMgr.Live k) : (∃ w', loadCities k infos w = .ok w') ↔
      (filledSlots (w.objMgr.player k).cityList).card + infos.length < maxCityNumPerPlayer ∧
        infos.length ≤ w.objMgr.cityPool.validUnitCount := by
  induction infos generalizing w with
  | nil => exact iff_of_true ⟨w, rfl⟩ ⟨card_filledSlots_lt _, Nat.zero_le _⟩
  | cons cityInfo infos ih =>
      rw [List.length_cons]
      constructor
      · rintro ⟨w', hall⟩
        obtain ⟨w₁, hload, hrest⟩ := bind_eq_ok.mp hall
        obtain ⟨hk₁, hcard, hvalid⟩ := loadCity_counts h hk hload
        obtain ⟨hroom, hunits⟩ := (ih (loadCity_owned h hload) hk₁).mp ⟨w', hrest⟩
        omega
      · rintro ⟨hroom, hunits⟩
        obtain ⟨w₁, hload⟩ :=
          (loadCity_ok_iff cityInfo h hk).mpr ⟨by omega, by omega⟩
        obtain ⟨hk₁, hcard, hvalid⟩ := loadCity_counts h hk hload
        obtain ⟨w', hrest⟩ := (ih (loadCity_owned h hload) hk₁).mpr ⟨by omega, by omega⟩
        exact ⟨w', by simp only [loadCities, hload, ok_bind, hrest]⟩

theorem loadCity_slot (h : w.objMgr.cityPool.Ok) (hload : loadCity k cityInfo w = .ok w') :
    ∃ slot ∈ citySlots, (w.objMgr.player k).cityList slot = 0 ∧
      CityAt w'.objMgr.cityPool ((w'.objMgr.player k).cityList slot) cityInfo.population ∧
      (∀ i ∈ citySlots, i ≠ slot →
        (w'.objMgr.player k).cityList i = (w.objMgr.player k).cityList i) ∧
      LoadFrame k w w' := by
  obtain ⟨slot, city, hslot, -, hused, hpop, -, hlist, hframe⟩ := loadCity_spec h hload
  refine ⟨slot, List.mem_of_find?_eq_some hslot, of_decide_eq_true (List.find?_some hslot :),
    ⟨city, by rw [hlist, Function.update_self], hused, hpop⟩, fun i hi hne => ?_, hframe⟩
  have hi0 : i ≠ 0 := by
    have := mem_citySlots.mp hi
    omega
  rw [hlist, Function.update_of_ne hne, Function.update_of_ne hi0]

theorem loadCities_kept (infos : List Database.CityInfo) (h : w.objMgr.cityPool.Ok)
    (hload : loadCities k infos w = .ok w') {i : Nat} (hi : i ∈ citySlots) {population : Int}
    (hc : CityAt w.objMgr.cityPool ((w.objMgr.player k).cityList i) population) :
    CityAt w'.objMgr.cityPool ((w'.objMgr.player k).cityList i) population := by
  induction infos generalizing w with
  | nil =>
      cases hload
      exact hc
  | cons cityInfo infos ih =>
      obtain ⟨w₁, hfirst, hrest⟩ := bind_eq_ok.mp hload
      obtain ⟨slot, -, hempty, -, hothers, hframe⟩ := loadCity_slot h hfirst
      refine ih hframe.cityPool hrest ?_
      have hne : i ≠ slot := by
        rintro rfl
        exact hc.ne_zero hempty
      obtain ⟨c, hidx, hused, hpop⟩ := hc
      rw [hothers i hi hne]
      exact ⟨c, hidx, hframe.allocated c hused, by rw [hframe.mem c hused]; exact hpop⟩

theorem loadCities_loaded (infos : List Database.CityInfo) (h : w.objMgr.cityPool.Ok)
    (hload : loadCities k infos w = .ok w') : CitiesLoaded k infos w.objMgr w'.objMgr := by
  induction infos generalizing w with
  | nil => exact ⟨[], List.nodup_nil, fun _ hi => absurd hi List.not_mem_nil, .nil⟩
  | cons cityInfo infos ih =>
      obtain ⟨w₁, hfirst, hrest⟩ := bind_eq_ok.mp hload
      obtain ⟨slot, hslot, hzero, hcity, hothers, hframe⟩ := loadCity_slot h hfirst
      obtain ⟨slots, hnodup, hempty, hall⟩ := ih hframe.cityPool hrest
      have hnot : slot ∉ slots := fun hin => hcity.ne_zero (hempty slot hin).2
      refine ⟨slot :: slots, List.nodup_cons.mpr ⟨hnot, hnodup⟩, ?_,
        .cons (loadCities_kept infos hframe.cityPool hrest hslot hcity) hall⟩
      intro i hi
      rcases List.mem_cons.mp hi with rfl | hin
      · exact ⟨hslot, hzero⟩
      · obtain ⟨hi, hzero'⟩ := hempty i hin
        have hne : i ≠ slot := fun heq => hnot (heq ▸ hin)
        exact ⟨hi, (hothers i hi hne).symm.trans hzero'⟩

theorem loadCities_owned (infos : List Database.CityInfo) {playerIdx : Int}
    (h : w.objMgr.CitiesOwned) (hload : loadCities playerIdx infos w = .ok w') :
    w'.objMgr.CitiesOwned := by
  induction infos generalizing w with
  | nil =>
      cases hload
      exact h
  | cons cityInfo infos ih =>
      obtain ⟨w₁, hfirst, hrest⟩ := bind_eq_ok.mp hload
      exact ih (loadCity_owned h hfirst) hrest

/-! ## OnStep2 -/

theorem setPlayerByDb_owned (h : w.objMgr.CitiesOwned) (roleInfo : Database.RoleInfo) :
    (Player.setPlayerByDb roleInfo k w).objMgr.CitiesOwned ∧
      ((Player.setPlayerByDb roleInfo k w).objMgr.player k).cityList =
        (w.objMgr.player k).cityList := by
  refine ⟨h.writePlayer k (fun _ => rfl), ?_⟩
  rw [Player.setPlayerByDb, ObjMgrModule.modifyPlayer_self]

theorem setUid_owned {uid passwordHash : UInt64} (h : w.objMgr.CitiesOwned)
    (hk : w.objMgr.Live k) (huid : Player.setUid uid k w = .ok w') :
    (Player.setPasswordHash passwordHash k w').objMgr.CitiesOwned := by
  have hobj := Player.setUid_objMgr hk huid
  have hbound : (w.objMgr.bindUidToPlayerIdx uid k).CitiesOwned :=
    h.writeIndex ObjMgrModule.bindUidToPlayerIdx_pool ObjMgrModule.bindUidToPlayerIdx_cityPool
  have hnamed : w'.objMgr.CitiesOwned := by
    rw [hobj]
    exact hbound.writePlayer k (fun _ => rfl)
  exact hnamed.writePlayer k (fun _ => rfl)

theorem onStep2_owned {args : StepArgs} (h : w.objMgr.CitiesOwned)
    (hstep : onStep2 codec d args w = .ok (ret, d', w')) : w'.objMgr.CitiesOwned := by
  obtain ⟨msg, -, rfl, -⟩ := onStep2_spec hstep
  by_cases hret : msg.head.ret = ProtoSs.retOk
  · obtain ⟨-, -, k, w₁, w₂, w₃, -, hk, hload, huid, hres, hntf⟩ := onStep2_good hstep hret
    have h₁ := loadCities_owned _ (setPlayerByDb_owned h _).1 hload
    have hk₁ : w₁.objMgr.Live k :=
      (((Player.setPlayerByDb_acts _ k w).trans (loadCities_acts _ _ hload)).same.live k).mpr hk
    rw [Player.sendCs_objMgr hntf, Player.sendCs_objMgr hres]
    exact setUid_owned h₁ hk₁ huid
  · obtain ⟨-, -, k, -, -, hsend⟩ := onStep2_bad hstep hret
    rw [Player.sendCs_objMgr hsend]
    exact h

theorem onStep2_succeeded (h : w.objMgr.CitiesOwned) (hret : msg.head.ret = ProtoSs.retOk)
    (hstep : onStep2 codec d (.ss msg) w = .ok (ret, d', w')) :
    Ends codec d msg w (.ok (ret, d', w')) ∧ CanEnd codec d msg w.objMgr := by
  obtain ⟨rfl, rfl, k, w₁, w₂, w₃, hidx, hk, hload, huid, hres, hntf⟩ := onStep2_good hstep hret
  obtain ⟨h₀, hlist⟩ := setPlayerByDb_owned (k := k) h (answerData codec msg).roleInfo
  obtain ⟨slots, hnodup, hempty, hall⟩ := loadCities_loaded _ h₀.cities hload
  have hk₁ : w₁.objMgr.Live k :=
    (((Player.setPlayerByDb_acts _ k w).trans (loadCities_acts _ _ hload)).same.live k).mpr hk
  obtain ⟨hpool, hplayer, -⟩ := Player.setUid_data hk₁ huid
  have hloaded : CitiesLoaded k (answerData codec msg).cityList w.objMgr
      (Player.setPasswordHash d'.body.passwordHash k w₂).objMgr := by
    refine ⟨slots, hnodup, fun i hi => ?_, hall.imp fun i cityInfo hc => ?_⟩
    · rw [← hlist]
      exact hempty i hi
    · rw [Player.setPasswordHash, ObjMgrModule.modifyPlayer_self, hplayer,
        ObjMgrModule.modifyPlayer_cityPool, hpool]
      exact hc
  have hquiet : w₂.toConnsvr = w.toConnsvr :=
    (Player.setUid_toConnsvr huid).trans (loadCities_toConnsvr _ hload :)
  refine ⟨.succeeded k _ w₃ w' hidx hloaded hquiet hres hntf, k, hidx, hk, fun _ => ?_⟩
  have hroom := (loadCities_ok_iff _ h₀ hk).mp ⟨w₁, hload⟩
  rw [hlist] at hroom
  exact hroom

/-- **The last step of a login** ends it where there is what it takes for granted. -/
theorem onStep2_ends_of_owned (h : w.objMgr.CitiesOwned) :
    Ends codec d msg w (onStep2 codec d (.ss msg) w) ↔ CanEnd codec d msg w.objMgr := by
  constructor
  · intro hends
    generalize hstep : onStep2 codec d (.ss msg) w = r at hends
    have hok : ∃ ret d' w', r = .ok (ret, d', w') := by
      cases hends with
      | succeeded k w₁ w₂ w' => exact ⟨_, _, w', rfl⟩
      | failed k w' => exact ⟨_, _, w', rfl⟩
      | refused d' w' => exact ⟨_, d', w', rfl⟩
    obtain ⟨ret, d', w', rfl⟩ := hok
    by_cases hret : msg.head.ret = ProtoSs.retOk
    · exact (onStep2_succeeded h hret hstep).2
    · obtain ⟨-, -, k, hidx, hk, -⟩ := onStep2_bad hstep hret
      exact ⟨k, hidx, hk, fun hgood => absurd hgood hret⟩
  · rintro ⟨k, hidx, hk, hroom⟩
    by_cases hret : msg.head.ret = ProtoSs.retOk
    · obtain ⟨h₀, hlist⟩ := setPlayerByDb_owned (k := k) h (answerData codec msg).roleInfo
      obtain ⟨w₁, hload⟩ := (loadCities_ok_iff (answerData codec msg).cityList h₀ hk).mpr (by
        rw [hlist]
        exact hroom hret)
      obtain ⟨w', hstep⟩ := onStep2_of_loadCities hk hidx hret hload
      rw [hstep]
      exact (onStep2_succeeded h hret hstep).1
    · obtain ⟨w', hsend⟩ : ∃ w', Player.sendFailedCsRes codec d.body.clientSeq
          ProtoCs.loginResFieldNumber (-1) k w = .ok w' := Player.sendCs_ok hk
      have hget : w.objMgr.getPlayer d.body.playerIdx = some k :=
        ObjMgrModule.getPlayer_eq_some.mpr ⟨hidx, hk⟩
      have hstep : onStep2 codec d (.ss msg) w = .ok (logicFinish, d, w') := by
        simp only [onStep2, hret, if_false, hget, GameWorld.deref, ok_bind, hsend]
      rw [hstep]
      exact .failed k w' hidx hsend

/-! ## Every state of gamesvr -/

theorem logicTypes_owned {logicType : Int} {logic : LogicBase LogicBody StepArgs GameWorld}
    {args : StepArgs} (h : w.objMgr.CitiesOwned)
    (htype : (logicTypes codec).logicTypeMap logicType = some logic)
    (hstep : logic.proc d args w = .ok (ret, d', w')) : w'.objMgr.CitiesOwned := by
  have hquiet : ∀ {reqs}, StepActs codec d args w d' w' reqs [] → w'.objMgr.CitiesOwned := by
    intro reqs hs
    rw [hs.quiet rfl]
    exact h
  by_cases hlogin : logicType = MsgModule.logicLogin
  · subst hlogin
    rcases logicTypes_login htype hstep with ⟨-, -, rfl⟩ | ⟨-, h₀⟩ | ⟨-, h₁⟩ | ⟨-, h₂⟩
    · exact h
    · obtain ⟨msg, connData, -, ⟨-, hs⟩ | ⟨-, req, hs, -⟩⟩ := onStep0_spec h₀
      · exact hquiet hs
      · exact hquiet hs
    · rcases onStep1_spec h₁ with ⟨-, hs⟩ | ⟨-, -, req, hs, -⟩
      · exact hquiet hs
      · exact hquiet hs
    · exact onStep2_owned h h₂
  · obtain ⟨reqs, hs, -⟩ := logicTypes_actsOnly htype hlogin hstep
    exact hquiet hs

end

end LogicLogin

namespace GameSvr

section
variable {codec : Codec} {s s' : GameSvr} {ret : GameRet} {out : GameOut} {w w' : GameWorld}

theorem proc_owned {m m' : LogicModule LogicBody} {logicId : Int} {args : StepArgs}
    (h : w.objMgr.CitiesOwned)
    (hproc : m.proc (logicTypes codec) logicId args w = .ok (m', w')) :
    w'.objMgr.CitiesOwned := by
  rcases LogicModule.proc_cases hproc with ⟨-, rfl, -⟩ | ⟨d, logic, ret, d', -, htype, hstep, -⟩
  · exact h
  · exact LogicLogin.logicTypes_owned h htype hstep

theorem handle_owned {T : PkgClass} {received : Result (Option Bytes)} {data : Option ConnData}
    {env env' : GameEnv} (h : env.world.objMgr.CitiesOwned)
    (hhandle : handle codec T received data env = .ok env') :
    env'.world.objMgr.CitiesOwned := by
  rcases handle_proc hhandle with heq | ⟨m, m', logicId, args, hproc⟩
  · rw [heq]
    exact h
  · exact proc_owned h hproc

theorem onConnsvr_owned {msg : ConnMsg} (h : s.objMgr.CitiesOwned)
    (hstep : s.onConnsvr codec msg ret = .ok (s', out)) : s'.objMgr.CitiesOwned := by
  obtain ⟨env', henv, hstep⟩ := bind_eq_ok.mp hstep
  cases hstep
  unfold dispatch at henv
  cases hcmd : msg.connData.connCmd with
  | connStart =>
      rw [hcmd] at henv
      obtain ⟨k, m, hadd, hhandle⟩ := connStart_cases h.players henv
      have hm : m.CitiesOwned := ObjMgrModule.CitiesOwned.added h hadd
      exact handle_owned hm hhandle
  | connProc =>
      rw [hcmd] at henv
      exact handle_owned h henv
  | connStop =>
      rw [hcmd] at henv
      obtain ⟨env₁, hupdate, henv⟩ := bind_eq_ok.mp henv
      obtain ⟨m, hdel, henv⟩ := bind_eq_ok.mp henv
      cases henv
      have h₁ : env₁.world.objMgr.CitiesOwned := by
        rcases updatePlayer_proc hupdate with heq | ⟨m, m', logicId, args, hproc⟩
        · rw [heq]
          exact h
        · exact proc_owned h hproc
      obtain ⟨m', hm', hdeleted, hplayers, hcities⟩ := h₁.delPlayer_spec msg.connData.playerIdx
      rw [hdel] at hm'
      cases hm'
      exact h₁.deleted hdeleted hplayers hcities

theorem Reached.citiesOwned (h : s.Reached codec) : s.objMgr.CitiesOwned := by
  induction h with
  | init => exact ObjMgrModule.init_citiesOwned
  | connsvr msg ret _ hstep ih => exact onConnsvr_owned ih hstep
  | datasvr msg ret _ hstep ih =>
      obtain ⟨env', henv, hstep⟩ := bind_eq_ok.mp hstep
      cases hstep
      exact handle_owned ih henv
  | update now _ hstep ih =>
      rw [onUpdate_spec hstep]
      exact ih

/-- **The last step of a login**, in every state of gamesvr, for every instance and every
answer: it ends the login where there is a player, and room for the cities. -/
theorem onStep2_ends_iff (h : s.Reached codec) (ret : GameRet) (d : LogicData LogicBody)
    (msg : ProtoSs.Msg) :
    LogicLogin.Ends codec d msg (s.world ret)
        (LogicLogin.onStep2 codec d (.ss msg) (s.world ret)) ↔
      LogicLogin.CanEnd codec d msg s.objMgr :=
  LogicLogin.onStep2_ends_of_owned (w := s.world ret) h.citiesOwned

end

open Backend (fresh calm loginReq firstReq okRes loginCodec)

/-- A client connects and logs in, and datasvr has its data. -/
theorem onStep2_ends_iff_first : ∃ (s : GameSvr) (d : LogicData LogicBody),
    s.logicModule.store.logicDataMap.lookup (logicIdOfSeq firstReq.head.seq) = some d ∧
    LogicLogin.Ends loginCodec d (okRes firstReq) (s.world calm)
      (LogicLogin.onStep2 loginCodec d (.ss (okRes firstReq)) (s.world calm)) := by
  have hs : Reached loginCodec _ :=
    .connsvr ⟨⟨5, 0, .connStart⟩, Wire.csMsg loginReq⟩ calm
      (.init 1 1 4 (fun _ => Player.init) (fun _ => City.init) 7) rfl
  obtain ⟨s, d, hs, hd, hidx, hlive⟩ : ∃ s d, Reached loginCodec s ∧
      s.logicModule.store.logicDataMap.lookup (logicIdOfSeq firstReq.head.seq) = some d ∧
      d.body.playerIdx = 1 ∧ s.objMgr.Live 1 := ⟨_, _, hs, rfl, rfl, by decide, by decide, rfl⟩
  refine ⟨s, d, hd, (onStep2_ends_iff hs calm d _).mpr ⟨1, hidx, hlive, fun _ => ?_⟩⟩
  exact ⟨LogicLogin.card_filledSlots_lt _, Nat.zero_le _⟩

/-- **The client is gone** when datasvr answers: the pointer to its player is null. -/
theorem onStep2_gone : ∃ (s : GameSvr) (d : LogicData LogicBody), s.Reached loginCodec ∧
    s.logicModule.store.logicDataMap.lookup (logicIdOfSeq firstReq.head.seq) = some d ∧
    d.head.logicType = MsgModule.logicLogin ∧ d.head.step = 2 ∧
    s.onDatasvr loginCodec (Wire.ssMsg (okRes firstReq)) calm = .error .badPointer ∧
    ¬ LogicLogin.Ends loginCodec d (okRes firstReq) (s.world calm)
      (LogicLogin.onStep2 loginCodec d (.ss (okRes firstReq)) (s.world calm)) := by
  have h₁ : Reached loginCodec _ :=
    .connsvr ⟨⟨5, 0, .connStart⟩, Wire.csMsg loginReq⟩ calm
      (.init 1 1 4 (fun _ => Player.init) (fun _ => City.init) 7) rfl
  have h₂ : Reached loginCodec _ := .connsvr ⟨⟨5, 1, .connStop⟩, []⟩ calm h₁ rfl
  have hends : ∀ d w, ¬ LogicLogin.Ends loginCodec d (okRes firstReq) w (.error .badPointer) :=
    nofun
  exact ⟨_, _, h₂, rfl, rfl, rfl, rfl, hends _ _⟩


end GameSvr

end PlayFrame
