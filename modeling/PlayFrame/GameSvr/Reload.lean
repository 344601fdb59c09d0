/-
# `PlayFrame.GameSvr.Reload` — a saved player is loaded again

`DoUpdatePlayerData` scans the slots of a player and `LogicLogin::OnStep2` fills those of another
one.  `AddCity` takes the first empty slot and no operation empties one, so the filled slots of
a player come first in every state of a run (`CityRun.packed`).  The scan then meets its cities
one after the other, and the scan of the loaded player meets the same ones (`save_reload`).
-/
import PlayFrame.GameSvr.Cities

namespace PlayFrame

open ObjMgrModule (CityRun CityAdded citySlots)

/-! ## The filled slots come first -/

/-- Slots are filled up to some number. -/
def Packed (cityList : Nat → Int) : Prop :=
  ∃ n, ∀ i ∈ citySlots, cityList i ≠ 0 ↔ i ≤ n

section
variable {m m' : ObjMgrModule} {k slot new : Nat}

theorem Packed.added (h : Packed (m.player k).cityList) (hc : CityAdded m k slot new m') :
    Packed (m'.player k).cityList := by
  obtain ⟨n, hn⟩ := h
  obtain ⟨-, -, hbefore⟩ := List.find?_range'_eq_some.mp hc.first
  have hempty : ¬ slot ≤ n := fun hle => (hn slot hc.slot_mem).mpr hle hc.slot_empty
  refine ⟨slot, fun i hi => ?_⟩
  rw [hc.cityList hi]
  obtain hlt | rfl | hgt := Nat.lt_trichotomy i slot
  · rw [Function.update_of_ne hlt.ne]
    have hfilled := hbefore i (mem_citySlots.mp hi).1 hlt
    exact iff_of_true (by simpa using hfilled) hlt.le
  · rw [Function.update_self]
    exact iff_of_true (Int.natCast_ne_zero.mpr hc.new_ne_zero) le_rfl
  · rw [Function.update_of_ne hgt.ne', hn i hi]
    exact iff_of_false (by omega) (by omega)

variable {playerPoolSize cityPoolSize : Nat} {rawPlayer : Nat → Player} {rawCity : Nat → City}

/-- **The filled slots come first**, for every player in every state of a run. -/
theorem ObjMgrModule.CityRun.packed (h : CityRun playerPoolSize cityPoolSize rawPlayer rawCity m) :
    ∀ k, m.Live k → Packed (m.player k).cityList := by
  induction h with
  | init => exact fun k hk => absurd hk ShmPool.init_not_allocated
  | @addPlayer m m' playerIdx h hadd ih =>
      obtain ⟨j, -, -, -, -, hlive, hnew, hothers, -, -⟩ :=
        ObjMgrModule.addPlayer_spec h.citiesOwned.players hadd
      intro k hk
      by_cases hkj : k = j
      · subst hkj
        rw [hnew]
        refine ⟨0, fun i hi => iff_of_false (fun hne => hne rfl) ?_⟩
        have := mem_citySlots.mp hi
        omega
      · rw [hothers k hkj]
        exact ih k (((hlive k).mp hk).resolve_right hkj)
  | @addCity m m' playerIdx cityIdx h hadd ih =>
      rcases ObjMgrModule.addCity_cases h.citiesOwned.cities hadd with
        ⟨-, rfl⟩ | ⟨j, slot, new, -, -, hc, -⟩
      · exact ih
      intro k hk
      have hold := ih k (((ObjMgrModule.addCity_samePlayers hadd).live k).mp hk)
      by_cases hkj : k = j
      · subst hkj
        exact hold.added hc
      · rw [hc.others k hkj]
        exact hold
  | @delPlayer m m' playerIdx h hdel ih =>
      obtain ⟨m₁, hm₁, hdeleted, -, -⟩ := h.citiesOwned.delPlayer_spec playerIdx
      rw [hdel] at hm₁
      cases hm₁
      intro k hk
      rw [ObjMgrModule.player, hdeleted.player]
      exact ih k ((hdeleted.live k).mp hk).1
  | writePlayer j f _ hf ih =>
      intro k hk
      rw [ObjMgrModule.modifyPlayer_cityList hf]
      exact ih k hk
  | writeCity _ _ _ _ ih => exact ih
  | writeIndex _ _ ih => exact ih

/-! ## The cities of a player -/

theorem Packed.hasCities (h : Packed (m.player k).cityList) (hm : m.CitiesOwned) (hk : m.Live k) :
    ∃ populations, HasCities m.cityPool (m.player k).cityList populations := by
  have hmax : maxCityNumPerPlayer = 100 := rfl
  obtain ⟨n, hn⟩ := h
  have hslots : ObjMgrModule.filledSlots (m.player k).cityList = Finset.Icc 1 (min n 99) := by
    ext i
    rw [ObjMgrModule.mem_filledSlots, Finset.mem_Icc]
    constructor
    · rintro ⟨hi, hne⟩
      have := (hn i hi).mp hne
      have := mem_citySlots.mp hi
      omega
    · intro hi
      have hmem : i ∈ citySlots := mem_citySlots.mpr (by omega)
      exact ⟨hmem, (hn i hmem).mpr (by omega)⟩
  have hcity : ∀ i < min n 99, ∃ c : Nat, (m.player k).cityList (i + 1) = c ∧
      m.cityPool.Allocated c := by
    intro i hi
    have hmem : i + 1 ∈ citySlots := mem_citySlots.mpr (by omega)
    exact hm.filled k (i + 1) hk hmem ((hn _ hmem).mpr (by omega))
  refine ⟨(List.range (min n 99)).map fun i =>
    (m.city ((m.player k).cityList (i + 1)).toNat).population, ?_, ?_, fun i hi => ?_,
    fun i hlt hi => ?_⟩
  · rw [List.length_map, List.length_range, hm.count k hk, hslots, Nat.card_Icc,
      Nat.add_sub_cancel]
  · rw [List.length_map, List.length_range]
    omega
  · rw [List.length_map, List.length_range] at hi
    obtain ⟨c, hslot, hused⟩ := hcity i hi
    refine ⟨c, hslot, hused, ?_⟩
    rw [List.getElem_map, List.getElem_range, hslot, Int.toNat_natCast]
  · rw [List.length_map, List.length_range] at hlt
    by_contra hne
    have := (hn i (mem_citySlots.mpr (by omega))).mp hne
    omega

end

/-! ## Saving and loading -/

namespace Player

/-- The record that `DoUpdatePlayerData` puts together. -/
def playerData (m : ObjMgrModule) (k : Nat) : Result Database.PlayerData := do
  let cities ← cityInfos m (m.player k).cityList citySlots
  .ok { roleInfo := { money := (m.player k).money, level := (m.player k).level }
        cityList := cities }

/-- **`DoUpdatePlayerData` writes this record**: a request with it is sent, when `zmq_send` takes
it. -/
def Writes (codec : Codec) (m : ObjMgrModule) (k : Nat) (D : Database.PlayerData) : Prop :=
  ∀ seq w, w.objMgr = m → w.zmq 0 = true →
    ∃ w', doUpdatePlayerData codec seq k w = .ok w' ∧
      w'.toDatasvr = w.toDatasvr ++
        [setPlayerDataReq seq k (m.player k).uid (codec.serializePlayerData D)]

/-- The population of the city in a slot, if there is one. -/
def population (m : ObjMgrModule) (k i : Nat) : Option Int :=
  (m.getCity ((m.player k).cityList i)).map fun c => (m.city c).population

end Player

/-- **Two players have the same data**, with the same populations in the same slots. -/
structure SameData (m : ObjMgrModule) (k : Nat) (m' : ObjMgrModule) (k' : Nat) : Prop where
  money : (m'.player k').money = (m.player k).money
  level : (m'.player k').level = (m.player k).level
  count : (m'.player k').cityList 0 = (m.player k).cityList 0
  populations : ∀ i ∈ citySlots, Player.population m' k' i = Player.population m k i

/-- A state of some run. -/
def ObjMgrModule.Reachable (m : ObjMgrModule) : Prop :=
  ∃ playerPoolSize cityPoolSize rawPlayer rawCity,
    CityRun playerPoolSize cityPoolSize rawPlayer rawCity m

/-- **A record is loaded into a new player**, with enough free cities. -/
structure Reloads (codec : Codec) (D : Database.PlayerData) (w : GameWorld) (k : Nat)
    (d : LogicData LogicBody) (msg : ProtoSs.Msg) : Prop where
  reachable : w.objMgr.Reachable
  live : w.objMgr.Live k
  fresh : ∃ connFd, w.objMgr.player k = { Player.init with connFd := connFd }
  valid : D.cityList.length ≤ w.objMgr.cityPool.validUnitCount
  playerIdx : d.body.playerIdx = k
  ret : msg.head.ret = ProtoSs.retOk
  getPlayerDataRes : msg.getPlayerDataRes = some { playerData := codec.serializePlayerData D }

section
variable {codec : Codec} {m m' : ObjMgrModule} {k k' : Nat} {populations : List Int}
  {uid uid' : UInt64} {D : Database.PlayerData}

theorem HasCities.population (h : HasCities m.cityPool (m.player k).cityList populations)
    {i : Nat} (hi : i ∈ citySlots) : Player.population m k i = populations[i - 1]? := by
  obtain ⟨hpos, hlt⟩ := mem_citySlots.mp hi
  obtain ⟨j, rfl⟩ := Nat.exists_eq_add_of_le' hpos
  unfold Player.population
  rw [Nat.add_sub_cancel]
  by_cases hj : j < populations.length
  · obtain ⟨c, hget, hpop⟩ := (h.city j hj).getCity
    rw [hget, List.getElem?_eq_getElem hj, Option.map_some, hpop]
  · rw [h.empty (j + 1) (by omega) hlt, List.getElem?_eq_none (by omega)]
    rfl

theorem HoldsData.same (h : HoldsData m k uid D) (h' : HoldsData m' k' uid' D) :
    SameData m k m' k' where
  money := h'.roleInfo.1.trans h.roleInfo.1.symm
  level := h'.roleInfo.2.trans h.roleInfo.2.symm
  count := h'.cities.count.trans h.cities.count.symm
  populations := fun _ hi => (h'.cities.population hi).trans (h.cities.population hi).symm

theorem HasCities.holdsData (h : HasCities m.cityPool (m.player k).cityList populations) :
    ∃ D, Player.playerData m k = .ok D ∧ HoldsData m k (m.player k).uid D ∧ D.withoutIds = D ∧
      D.cityList.length = populations.length := by
  let D : Database.PlayerData :=
    { roleInfo := { money := (m.player k).money, level := (m.player k).level }
      cityList := populations.map fun population => { population := population } }
  refine ⟨D, ?_, ⟨rfl, ⟨rfl, rfl⟩, ?_⟩, ?_, ?_⟩
  · simp only [Player.playerData, h.cityInfos, ok_bind, D]
  · have hpop : (populations.map fun population : Int =>
        ({ population := population } : Database.CityInfo)).map (fun c => c.population) =
        populations := by
      rw [List.map_map]
      exact List.map_id _
    rw [show D.populations = populations from hpop]
    exact h
  · rw [Database.PlayerData.withoutIds_eq_iff]
    intro c hc
    obtain ⟨population, -, rfl⟩ := List.mem_map.mp hc
    rfl
  · exact List.length_map _

theorem HoldsData.writes (h : HoldsData m k uid D) (hids : D.withoutIds = D) (hk : m.Live k)
    (hkeeps : codec.Keeps D) (hhead : codec.SmallHead)
    (hroom : D.cityList.length < maxCityNumPerPlayer) : Player.Writes codec m k D := by
  rintro seq w rfl hzmq
  obtain ⟨w', hsave, hsent⟩ := h.sent hk (hids.symm ▸ hkeeps) hhead hroom hzmq seq
  rw [hids] at hsent
  exact ⟨w', hsave, by rw [hsent, h.uid]⟩

/-- **Saving is stable under reload.**  The record that a player saves, in any state of a run, is
loaded into a new player: it has the same data then, and saves the same record. -/
theorem save_reload (hhead : codec.SmallHead) (hm : m.Reachable) (hk : m.Live k) :
    ∃ D, Player.playerData m k = .ok D ∧ (codec.Keeps D →
      Player.Writes codec m k D ∧ ∀ w k' d msg, Reloads codec D w k' d msg →
        ∃ w', LogicLogin.onStep2 codec d (.ss msg) w = .ok (logicFinish, d, w') ∧
          SameData m k w'.objMgr k' ∧ Player.Writes codec w'.objMgr k' D) := by
  obtain ⟨_, _, _, _, hrun⟩ := hm
  obtain ⟨populations, hcities⟩ := (hrun.packed k hk).hasCities hrun.citiesOwned hk
  obtain ⟨D, hdata, hholds, hids, hlen⟩ := hcities.holdsData
  have hroom : D.cityList.length < maxCityNumPerPlayer := hlen ▸ hcities.room
  refine ⟨D, hdata, fun hkeeps => ⟨hholds.writes hids hk hkeeps hhead hroom, ?_⟩⟩
  intro w k' d msg h
  obtain ⟨_, _, _, _, hrun'⟩ := h.reachable
  have hanswer : LogicLogin.answerData codec msg = D := by
    simp only [LogicLogin.answerData, h.getPlayerDataRes, Option.getD_some, hkeeps.parse]
  obtain ⟨w', hstep, hk', hholds'⟩ := LogicLogin.onStep2_holds hanswer hroom
    hrun'.citiesOwned.cities h.live h.fresh h.valid h.playerIdx h.ret
  exact ⟨w', hstep, hholds.same hholds', hholds'.writes hids hk' hkeeps hhead hroom⟩

end

/-! ### One city -/

/-- A player with one city is saved, and loaded into the first player of another server. -/
theorem save_reload_one : ∃ m w, m.Reachable ∧ m.Live 1 ∧
    Reloads oneCityCodec (oneCity 0) w 1 oneLogin (oneAnswer 0) ∧
    Player.Writes oneCityCodec m 1 (oneCity 0) ∧
    ∃ w', LogicLogin.onStep2 oneCityCodec oneLogin (.ss (oneAnswer 0)) w =
        .ok (logicFinish, oneLogin, w') ∧
      SameData m 1 w'.objMgr 1 ∧ Player.Writes oneCityCodec w'.objMgr 1 (oneCity 0) := by
  have hnew := CityRun.addPlayer
    (.init : CityRun 1 1 (fun _ => Player.init) (fun _ => City.init) _) rfl
  have hrole := CityRun.writePlayer 1 (fun p => { p with money := 1000, level := 1 }) hnew
    (fun _ => rfl)
  have hcity := @CityRun.addCity _ _ _ _ _ _ 1 _ hrole rfl
  have hpop := CityRun.writeCity 1 (fun city => { city with population := 7 }) hcity (fun _ => rfl)
  have hreloads : Reloads oneCityCodec (oneCity 0) { onePlayer with objMgr := _ } 1 oneLogin
      (oneAnswer 0) :=
    ⟨⟨_, _, _, _, hnew⟩, ⟨by decide, by decide, rfl⟩, ⟨0, rfl⟩, by decide, rfl, rfl, rfl⟩
  have hhead : oneCityCodec.SmallHead := Wire.ssMsg_length
  obtain ⟨D, hdata, hsaves⟩ := save_reload (k := 1) hhead ⟨_, _, _, _, hpop⟩
    ⟨by decide, by decide, rfl⟩
  obtain rfl : oneCity 0 = D := Except.ok.inj (Eq.trans rfl hdata)
  obtain ⟨hwrites, hreload⟩ := hsaves oneCityCodec_keeps.2
  exact ⟨_, _, ⟨_, _, _, _, hpop⟩, ⟨by decide, by decide, rfl⟩, hreloads, hwrites,
    hreload _ _ _ _ hreloads⟩

end PlayFrame
