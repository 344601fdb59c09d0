/-
# `PlayFrame.GameSvr.PlayerData` — a record is loaded and saved

`LogicLogin::OnStep2` copies a `Database::PlayerData` into a player and its cities, and
`Player::DoUpdatePlayerData` puts one together from them again.  A player has its cities
in the slots of `city_list_`, which are filled from the first on, and `HasCities` says
with which populations.

`CityInfo` has an `id`, which `City` does not keep.
-/
import PlayFrame.GameSvr.Logics
import PlayFrame.GameSvr.Wire

namespace PlayFrame

open ObjMgrModule (citySlots)

/-! ## The slots of a player -/

/-- The city of an index is in use, and it has this population. -/
def CityAt (pool : ShmPool City) (cityIdx population : Int) : Prop :=
  ∃ c : Nat, cityIdx = c ∧ pool.Allocated c ∧ (pool.mem c).population = population

/-- The slots of a player hold cities with these populations, and no others. -/
structure HasCities (pool : ShmPool City) (cityList : Nat → Int) (populations : List Int) :
    Prop where
  count : cityList 0 = populations.length
  room : populations.length < maxCityNumPerPlayer
  city : ∀ i (h : i < populations.length), CityAt pool (cityList (i + 1)) populations[i]
  empty : ∀ i, populations.length < i → i < maxCityNumPerPlayer → cityList i = 0

theorem mem_citySlots {i : Nat} : i ∈ citySlots ↔ 1 ≤ i ∧ i < maxCityNumPerPlayer := by
  exact List.mem_range'_1

section
variable {pool pool' : ShmPool City} {cityList : Nat → Int} {populations : List Int}
  {m : ObjMgrModule} {cityIdx population : Int}

theorem CityAt.ne_zero (h : CityAt pool cityIdx population) : cityIdx ≠ 0 := by
  obtain ⟨c, rfl, ⟨hc, -⟩, -⟩ := h
  omega

theorem CityAt.getCity (h : CityAt m.cityPool cityIdx population) :
    ∃ c, m.getCity cityIdx = some c ∧ (m.cityPool.mem c).population = population := by
  obtain ⟨c, rfl, hc, hpop⟩ := h
  exact ⟨c, ObjMgrModule.getCity_of_allocated hc, hpop⟩

theorem HasCities.nil (h : ∀ i, cityList i = 0) : HasCities pool cityList [] where
  count := h 0
  room := by decide
  city := fun i hi => absurd hi (Nat.not_lt_zero i)
  empty := fun i _ _ => h i

theorem HasCities.congr (h : HasCities pool cityList populations)
    (hpool : ∀ i ∈ citySlots, ∀ c : Nat, cityList i = c → pool.Allocated c →
      pool'.Allocated c ∧ pool'.mem c = pool.mem c) :
    HasCities pool' cityList populations where
  count := h.count
  room := h.room
  city := by
    intro i hi
    obtain ⟨c, hslot, hc, hpop⟩ := h.city i hi
    have hroom := h.room
    obtain ⟨hc', hmem⟩ := hpool (i + 1) (mem_citySlots.mpr (by omega)) c hslot hc
    exact ⟨c, hslot, hc', by rw [hmem, hpop]⟩
  empty := h.empty

/-- **The loop of AddCity** finds the slot behind the last city. -/
theorem HasCities.find (h : HasCities pool cityList populations)
    (hroom : populations.length + 1 < maxCityNumPerPlayer) :
    citySlots.find? (fun i => cityList i = 0) = some (populations.length + 1) := by
  refine List.find?_range'_eq_some.mpr ⟨?_, ?_, fun j hj hlt => ?_⟩
  · exact decide_eq_true (h.empty _ (Nat.lt_succ_self _) hroom)
  · exact mem_citySlots.mpr ⟨Nat.succ_pos _, hroom⟩
  · obtain ⟨i, rfl⟩ := Nat.exists_eq_add_of_le hj
    have hne := (h.city i (by omega)).ne_zero
    rw [Nat.add_comm 1 i]
    simp only [hne, decide_false, Bool.not_false]

theorem cityInfos_range : ∀ (n start : Nat) (populations : List Int), populations.length ≤ n →
    (∀ i (h : i < populations.length),
      CityAt m.cityPool (cityList (start + i)) populations[i]) →
    (∀ i, populations.length ≤ i → i < n → cityList (start + i) = 0) →
    Player.cityInfos m cityList (List.range' start n) =
      .ok (populations.map fun population => { population := population }) := by
  intro n
  induction n with
  | zero =>
      intro start populations hlen _ _
      rw [List.length_eq_zero_iff.mp (Nat.le_zero.mp hlen)]
      rfl
  | succ n ih =>
      intro start populations hlen hcity hempty
      rw [List.range'_succ]
      cases populations with
      | nil =>
          have h0 : cityList start = 0 := hempty 0 (Nat.zero_le _) (Nat.succ_pos _)
          simp only [Player.cityInfos, h0, ne_eq, not_true_eq_false, if_false]
          refine ih (start + 1) [] (Nat.zero_le _) (fun i hi => absurd hi (Nat.not_lt_zero i)) ?_
          intro i _ hi
          rw [Nat.add_assoc, Nat.add_comm 1 i]
          exact hempty (i + 1) (Nat.zero_le _) (Nat.succ_lt_succ hi)
      | cons population rest =>
          have hfirst : CityAt m.cityPool (cityList start) population :=
            hcity 0 (Nat.succ_pos _)
          obtain ⟨c, hget, hpop⟩ := hfirst.getCity
          have hrest := ih (start + 1) rest (Nat.le_of_succ_le_succ hlen) ?_ ?_
          · simp only [Player.cityInfos, ne_eq, hfirst.ne_zero, not_false_eq_true, if_true, hget,
              hrest, ok_bind, hpop, List.map_cons]
          · intro i hi
            rw [Nat.add_assoc, Nat.add_comm 1 i]
            exact hcity (i + 1) (Nat.succ_lt_succ hi)
          · intro i hle hi
            rw [Nat.add_assoc, Nat.add_comm 1 i]
            exact hempty (i + 1) (Nat.succ_le_succ hle) (Nat.succ_lt_succ hi)

/-- **The loop of DoUpdatePlayerData** collects the populations. -/
theorem HasCities.cityInfos (h : HasCities m.cityPool cityList populations) :
    Player.cityInfos m cityList citySlots =
      .ok (populations.map fun population => { population := population }) := by
  have hroom := h.room
  refine cityInfos_range _ 1 populations (by omega) (fun i hi => ?_) (fun i hle hi => ?_)
  · rw [Nat.add_comm 1 i]
    exact h.city i hi
  · exact h.empty _ (by omega) (by omega)

end

/-! ## AddCity -/

namespace ObjMgrModule

/-- What `AddCity` changes: a free unit of the city pool is taken, and the player has it
in one of its slots. -/
structure CityAdded (m : ObjMgrModule) (k slot city : Nat) (m' : ObjMgrModule) : Prop where
  live : m.Live k
  first : citySlots.find? (fun i => (m.player k).cityList i = 0) = some slot
  fresh : ¬ m.cityPool.Allocated city
  cityPool : m'.cityPool.Ok
  valid : m'.cityPool.validUnitCount + 1 = m.cityPool.validUnitCount
  allocated : ∀ c, m'.cityPool.Allocated c ↔ m.cityPool.Allocated c ∨ c = city
  mem : ∀ c, c ≠ city → m'.cityPool.mem c = m.cityPool.mem c
  player : m'.player k =
    { m.player k with
      cityList := Function.update (Function.update (m.player k).cityList 0
        ((m.player k).cityList 0 + 1)) slot city }
  others : ∀ j, j ≠ k → m'.player j = m.player j
  uidToPlayerIdxMap : m'.uidToPlayerIdxMap = m.uidToPlayerIdxMap

section
variable {m m' : ObjMgrModule} {k : Nat} {playerIdx cityIdx : Int}

/-- **AddCity** adds a city, which has the index of the player, or its answer is no index and
nothing has changed. -/
theorem addCity_cases (hm : m.cityPool.Ok) (h : m.addCity playerIdx = .ok (cityIdx, m')) :
    (cityIdx < 0 ∧ m' = m) ∨
      ∃ player slot city : Nat, playerIdx = player ∧ cityIdx = city ∧
        CityAdded m player slot city m' ∧ (m'.cityPool.mem city).playerIdx = player := by
  unfold addCity at h
  cases hp : m.getPlayer playerIdx with
  | none =>
      rw [hp] at h
      cases h
      exact Or.inl ⟨by decide, rfl⟩
  | some player =>
      obtain ⟨hidx, hlive⟩ := getPlayer_eq_some.mp hp
      simp only [hp] at h
      split at h
      · cases h
        exact Or.inl ⟨by decide, rfl⟩
      split at h
      · cases h
        exact Or.inl ⟨by decide, rfl⟩
      · next slot hslot =>
        obtain ⟨⟨c, pool⟩, halloc, h⟩ := bind_eq_ok.mp h
        cases c with
        | none => cases h
        | some city =>
            by_cases hv : 0 < m.cityPool.validUnitCount
            · obtain ⟨city', pool', hsome, hg⟩ := ShmPool.alloc_some hm hv
              rw [hsome] at halloc
              cases halloc
              have hused : (pool.modify city (fun _ => City.init)).Allocated city :=
                (hg.allocated city).mpr (Or.inr rfl)
              dsimp only at h
              obtain ⟨idx, hpos, h⟩ := bind_eq_ok.mp h
              rw [ShmPool.getPos_of_allocated hused] at hpos
              cases hpos
              cases h
              refine Or.inr ⟨player, slot, city, hidx, rfl, ⟨hlive, hslot, hg.fresh, ?_, hg.valid,
                hg.allocated, fun c hc => ?_, ?_, fun j hj => ?_, rfl⟩, ?_⟩
              · rw [modifyCity_cityPool]
                exact .modify (s := pool.modify city fun _ => City.init) hg.ok.modify
              · rw [modifyCity_cityPool, ShmPool.modify_mem_of_ne hc]
                show (pool.modify city (fun _ => City.init)).mem c = _
                rw [ShmPool.modify_mem_of_ne hc, hg.mem]
              · unfold ObjMgrModule.player
                rw [modifyCity_playerPool, modifyPlayer_playerPool, ShmPool.modify_mem_self]
              · unfold ObjMgrModule.player
                rw [modifyCity_playerPool, modifyPlayer_playerPool, ShmPool.modify_mem_of_ne hj]
              · rw [modifyCity_cityPool, ShmPool.modify_mem_self]
                exact hidx
            · rw [ShmPool.alloc_none (Nat.eq_zero_of_not_pos hv)] at halloc
              cases halloc

/-- **AddCity** for a player with a free slot, with a free unit in the city pool. -/
theorem addCity_ok (hm : m.cityPool.Ok) (hv : 0 < m.cityPool.validUnitCount) (hk : m.Live k)
    (hcount : (m.player k).cityList 0 < maxCityNumPerPlayer) {slot : Nat}
    (hslot : citySlots.find? (fun i => (m.player k).cityList i = 0) = some slot) :
    ∃ city m', m.addCity k = .ok (city, m') ∧ 0 ≤ city := by
  obtain ⟨city, pool, hsome, hg⟩ := ShmPool.alloc_some hm hv
  have hused : (pool.modify city (fun _ => City.init)).Allocated city :=
    (hg.allocated city).mpr (Or.inr rfl)
  simp only [addCity, getPlayer_eq_some.mpr ⟨rfl, hk⟩, ge_iff_le, Int.not_le.mpr hcount, if_false,
    hslot, hsome, ok_bind, ShmPool.getPos_of_allocated hused]
  exact ⟨_, _, rfl, Int.natCast_nonneg city⟩

end

end ObjMgrModule

/-! ## DelPlayer -/

namespace ObjMgrModule

section
variable {m m' : ObjMgrModule} {k : Nat} {playerIdx cityIdx : Int}

/-- What freeing cities changes. -/
structure CitiesFreed (m : ObjMgrModule) (freed : Nat → Prop) (m' : ObjMgrModule) : Prop where
  playerPool : m'.playerPool = m.playerPool
  uidToPlayerIdxMap : m'.uidToPlayerIdxMap = m.uidToPlayerIdxMap
  ok : m'.cityPool.Ok
  mem : m'.cityPool.mem = m.cityPool.mem
  allocated : ∀ c, m'.cityPool.Allocated c ↔ m.cityPool.Allocated c ∧ ¬ freed c

theorem delCity_spec (hm : m.cityPool.Ok) :
    ∃ m', m.delCity cityIdx = .ok m' ∧ CitiesFreed m (fun c => cityIdx = c) m' := by
  unfold delCity
  cases hget : m.getCity cityIdx with
  | none =>
      refine ⟨m, rfl, rfl, rfl, hm, rfl, fun c => ⟨fun hc => ⟨hc, ?_⟩, fun hc => hc.1⟩⟩
      rintro rfl
      rw [getCity_of_allocated hc] at hget
      cases hget
  | some city =>
      unfold getCity at hget
      split at hget
      · cases hget
      · obtain ⟨rfl, hcity⟩ := ShmPool.find_eq_some.mp hget
        obtain ⟨pool, hrel, hs⟩ := ShmPool.release_spec hm hcity
        refine ⟨{ m with cityPool := pool }, ?_, rfl, rfl, hs.ok, hs.mem, fun c => ?_⟩
        · dsimp only
          rw [hrel, ok_bind]
        · rw [hs.allocated c, ne_eq, Int.natCast_inj, eq_comm]

/-- **The loop of DelPlayer** frees the cities in the slots that it visits. -/
theorem delCities_spec : ∀ (slots : List Nat) {m : ObjMgrModule}, m.cityPool.Ok →
    ∃ m', delCities k slots m = .ok m' ∧
      CitiesFreed m (fun c => ∃ i ∈ slots, (m.player k).cityList i = c) m' := by
  intro slots
  induction slots with
  | nil =>
      intro m hm
      refine ⟨m, rfl, rfl, rfl, hm, rfl, fun c => ⟨fun hc => ⟨hc, ?_⟩, fun hc => hc.1⟩⟩
      rintro ⟨i, hi, -⟩
      cases hi
  | cons i slots ih =>
      intro m hm
      have hfirst : ∃ m₁, delSlot k i m = .ok m₁ ∧
          CitiesFreed m (fun c => (m.player k).cityList i = c) m₁ := by
        simp only [delSlot]
        split
        · exact delCity_spec hm
        · next hzero =>
          refine ⟨m, rfl, rfl, rfl, hm, rfl, fun c => ⟨fun hc => ⟨hc, fun hi => ?_⟩, fun hc => hc.1⟩⟩
          have := hc.1
          exact hzero (by rw [hi]; omega)
      obtain ⟨m₁, hslot, hone⟩ := hfirst
      obtain ⟨m₂, hrest, hfreed⟩ := ih hone.ok
      refine ⟨m₂, ?_, hfreed.playerPool.trans hone.playerPool,
        hfreed.uidToPlayerIdxMap.trans hone.uidToPlayerIdxMap, hfreed.ok,
        hfreed.mem.trans hone.mem, fun c => ?_⟩
      · rw [delCities, hslot, ok_bind, hrest]
      · have hplayer : m₁.player k = m.player k := congrArg (fun pool => pool.mem k) hone.playerPool
        rw [hfreed.allocated, hone.allocated, and_assoc, hplayer, List.exists_mem_cons_iff, not_or]

/-- **DelPlayer** frees the cities in the slots of the player, and leaves the others. -/
theorem delPlayer_cities (hm : m.cityPool.Ok) (h : m.delPlayer playerIdx = .ok m') :
    m'.cityPool.Ok ∧ m'.cityPool.mem = m.cityPool.mem ∧
      ∀ c : Nat, m.cityPool.Allocated c →
        (∀ k : Nat, playerIdx = k → m.Live k → ∀ i ∈ citySlots, (m.player k).cityList i ≠ c) →
        m'.cityPool.Allocated c := by
  unfold delPlayer at h
  cases hp : m.getPlayer playerIdx with
  | none =>
      rw [hp] at h
      cases h
      exact ⟨hm, rfl, fun c hc _ => hc⟩
  | some k =>
      obtain ⟨rfl, hk⟩ := getPlayer_eq_some.mp hp
      simp only [hp] at h
      obtain ⟨idx, -, h⟩ := bind_eq_ok.mp h
      obtain ⟨m₁, hcities, h⟩ := bind_eq_ok.mp h
      obtain ⟨pool, -, h⟩ := bind_eq_ok.mp h
      cases h
      dsimp only
      have hcityPool : (m.eraseUidToPlayerIdx (m.player k).uid idx).cityPool = m.cityPool :=
        eraseUidToPlayerIdx_cityPool
      have hplayer : (m.eraseUidToPlayerIdx (m.player k).uid idx).player k = m.player k := by
        rw [player, eraseUidToPlayerIdx_pool]
      unfold delAllCities at hcities
      split at hcities
      · obtain ⟨m₂, hm₂, hfreed⟩ := delCities_spec (k := k) citySlots
          (m := m.eraseUidToPlayerIdx (m.player k).uid idx) (by rw [hcityPool]; exact hm)
        rw [hm₂] at hcities
        cases hcities
        refine ⟨hfreed.ok, hfreed.mem.trans (congrArg _ hcityPool), fun c hc hne => ?_⟩
        rw [hfreed.allocated, hcityPool, hplayer]
        refine ⟨hc, ?_⟩
        rintro ⟨i, hi, hslot⟩
        exact hne k rfl hk i hi hslot
      · cases hcities
        rw [hcityPool]
        exact ⟨hm, rfl, fun c hc _ => hc⟩

end

end ObjMgrModule

/-! ## Loading -/

section
variable {codec : Codec} {w w' : GameWorld} {k : Nat} {populations : List Int}
  {cityInfo : Database.CityInfo} {playerIdx : Int}

/-- What loading cities for a player leaves alone: the other players and cities, and the
other fields of the player.  A slot of the player that it fills has a new city. -/
structure LoadFrame (k : Nat) (w w' : GameWorld) : Prop where
  cityPool : w'.objMgr.cityPool.Ok
  allocated : ∀ c, w.objMgr.cityPool.Allocated c → w'.objMgr.cityPool.Allocated c
  mem : ∀ c, w.objMgr.cityPool.Allocated c → w'.objMgr.cityPool.mem c = w.objMgr.cityPool.mem c
  player : ∃ cityList, w'.objMgr.player k = { w.objMgr.player k with cityList := cityList }
  slots : ∀ i ∈ citySlots, (w'.objMgr.player k).cityList i = (w.objMgr.player k).cityList i ∨
    ∃ c : Nat, (w'.objMgr.player k).cityList i = c ∧ ¬ w.objMgr.cityPool.Allocated c ∧
      w'.objMgr.cityPool.Allocated c
  others : ∀ j, j ≠ k → w'.objMgr.player j = w.objMgr.player j
  uidToPlayerIdxMap : w'.objMgr.uidToPlayerIdxMap = w.objMgr.uidToPlayerIdxMap

theorem LoadFrame.refl (h : w.objMgr.cityPool.Ok) : LoadFrame k w w :=
  ⟨h, fun _ hc => hc, fun _ _ => rfl, ⟨_, rfl⟩, fun _ _ => Or.inl rfl, fun _ _ => rfl, rfl⟩

theorem LoadFrame.trans {w₁ w₂ w₃ : GameWorld} (h : LoadFrame k w₁ w₂) (h' : LoadFrame k w₂ w₃) :
    LoadFrame k w₁ w₃ := by
  obtain ⟨cityList, hp⟩ := h.player
  obtain ⟨cityList', hp'⟩ := h'.player
  refine ⟨h'.cityPool, fun c hc => h'.allocated c (h.allocated c hc), fun c hc => ?_,
    ⟨cityList', by rw [hp', hp]⟩, fun i hi => ?_,
    fun j hj => (h'.others j hj).trans (h.others j hj),
    h'.uidToPlayerIdxMap.trans h.uidToPlayerIdxMap⟩
  · rw [h'.mem c (h.allocated c hc), h.mem c hc]
  · rcases h'.slots i hi with heq | ⟨c, hslot, hnew, hused⟩
    · rw [heq]
      rcases h.slots i hi with heq | ⟨c, hslot, hnew, hused⟩
      · exact Or.inl heq
      · exact Or.inr ⟨c, hslot, hnew, h'.allocated c hused⟩
    · exact Or.inr ⟨c, hslot, fun hc => hnew (h.allocated c hc), hused⟩

/-- **A pass of the loop of OnStep2** puts a city with the population of the record into
the first free slot. -/
theorem loadCity_spec (hm : w.objMgr.cityPool.Ok)
    (h : LogicLogin.loadCity k cityInfo w = .ok w') :
    ∃ slot city : Nat,
      citySlots.find? (fun i => (w.objMgr.player k).cityList i = 0) = some slot ∧
      ¬ w.objMgr.cityPool.Allocated city ∧ w'.objMgr.cityPool.Allocated city ∧
      (w'.objMgr.cityPool.mem city).population = cityInfo.population ∧
      w'.objMgr.cityPool.validUnitCount + 1 = w.objMgr.cityPool.validUnitCount ∧
      (w'.objMgr.player k).cityList =
        Function.update (Function.update (w.objMgr.player k).cityList 0
          ((w.objMgr.player k).cityList 0 + 1)) slot city ∧
      LoadFrame k w w' := by
  obtain ⟨⟨cityIdx, m⟩, hadd, h⟩ := bind_eq_ok.mp h
  dsimp only at h
  rcases ObjMgrModule.addCity_cases hm hadd with
    ⟨hneg, rfl⟩ | ⟨player, slot, city, hidx, rfl, hc, -⟩
  · simp only [ObjMgrModule.getCity, if_pos hneg.le] at h
    cases h
  · obtain rfl := Int.natCast_inj.mp hidx
    have hused : m.cityPool.Allocated city := (hc.allocated city).mpr (Or.inr rfl)
    simp only [ObjMgrModule.getCity_of_allocated hused] at h
    cases h
    have hlist : (m.player k).cityList = Function.update (Function.update
        (w.objMgr.player k).cityList 0 ((w.objMgr.player k).cityList 0 + 1)) slot city :=
      congrArg Player.cityList hc.player
    refine ⟨slot, city, hc.first, hc.fresh, hused, ?_, hc.valid, hlist, ?_,
      fun c hold => (hc.allocated c).mpr (Or.inl hold), fun c hold => ?_, ⟨_, hc.player⟩,
      fun i hi => ?_, hc.others, hc.uidToPlayerIdxMap⟩
    · rw [ObjMgrModule.modifyCity_cityPool, ShmPool.modify_mem_self]
    · rw [ObjMgrModule.modifyCity_cityPool]
      exact hc.cityPool.modify
    · have hne : c ≠ city := by
        rintro rfl
        exact hc.fresh hold
      rw [ObjMgrModule.modifyCity_cityPool, ShmPool.modify_mem_of_ne hne, hc.mem c hne]
    · show (m.player k).cityList i = _ ∨ ∃ c : Nat, (m.player k).cityList i = c ∧ _
      rw [hlist]
      by_cases hslot : i = slot
      · subst hslot
        exact Or.inr ⟨city, Function.update_self .., hc.fresh, hused⟩
      · have hi0 : i ≠ 0 := by
          have := mem_citySlots.mp hi
          omega
        rw [Function.update_of_ne hslot, Function.update_of_ne hi0]
        exact Or.inl rfl

theorem HasCities.snoc (hm : w.objMgr.cityPool.Ok)
    (hc : HasCities w.objMgr.cityPool (w.objMgr.player k).cityList populations)
    (h : LogicLogin.loadCity k cityInfo w = .ok w') :
    HasCities w'.objMgr.cityPool (w'.objMgr.player k).cityList
      (populations ++ [cityInfo.population]) := by
  obtain ⟨slot, city, hslot, -, hused, hpop, -, hlist, hframe⟩ := loadCity_spec hm h
  have hroom : populations.length + 1 < maxCityNumPerPlayer := by
    by_contra hfull
    have hall : ∀ i ∈ citySlots, ¬ (w.objMgr.player k).cityList i = 0 := by
      intro i hi
      obtain ⟨h1, h2⟩ := mem_citySlots.mp hi
      obtain ⟨j, rfl⟩ := Nat.exists_eq_add_of_le h1
      rw [Nat.add_comm 1 j]
      exact (hc.city j (by omega)).ne_zero
    have := List.find?_some hslot
    exact hall slot (List.mem_of_find?_eq_some hslot) (of_decide_eq_true this)
  rw [hc.find hroom] at hslot
  cases hslot
  have hcity : HasCities w'.objMgr.cityPool (w.objMgr.player k).cityList populations :=
    hc.congr (fun i _ c _ hc => ⟨hframe.allocated c hc, hframe.mem c hc⟩)
  rw [hlist]
  refine ⟨?_, ?_, fun i hi => ?_, fun i hlt hi => ?_⟩
  · rw [Function.update_of_ne (Nat.succ_ne_zero _).symm, Function.update_self, hcity.count,
      List.length_append]
    rfl
  · rw [List.length_append]
    exact hroom
  · rw [List.length_append, List.length_singleton] at hi
    by_cases hlast : i = populations.length
    · subst hlast
      rw [Function.update_self, List.getElem_concat_length rfl]
      exact ⟨city, rfl, hused, hpop⟩
    · have hlt : i < populations.length := by omega
      rw [Function.update_of_ne (by omega), Function.update_of_ne (by omega),
        List.getElem_append_left hlt]
      exact hcity.city i hlt
  · rw [List.length_append, List.length_singleton] at hlt
    rw [Function.update_of_ne (by omega), Function.update_of_ne (by omega)]
    exact hcity.empty i (by omega) hi

theorem loadCities_spec : ∀ (infos : List Database.CityInfo) {w w' : GameWorld},
    w.objMgr.cityPool.Ok → LogicLogin.loadCities k infos w = .ok w' →
    LoadFrame k w w' ∧ ∀ populations,
      HasCities w.objMgr.cityPool (w.objMgr.player k).cityList populations →
      HasCities w'.objMgr.cityPool (w'.objMgr.player k).cityList
        (populations ++ infos.map fun cityInfo => cityInfo.population) := by
  intro infos
  induction infos with
  | nil =>
      intro w w' hm h
      cases h
      refine ⟨.refl hm, fun populations hc => ?_⟩
      rw [List.map_nil, List.append_nil]
      exact hc
  | cons cityInfo infos ih =>
      intro w w' hm h
      obtain ⟨w₁, hload, h⟩ := bind_eq_ok.mp h
      obtain ⟨slot, city, -, -, -, -, -, -, hframe⟩ := loadCity_spec hm hload
      obtain ⟨hrest, hcities⟩ := ih hframe.cityPool h
      refine ⟨hframe.trans hrest, fun populations hc => ?_⟩
      have hall := hcities _ (hc.snoc hm hload)
      rw [List.append_assoc] at hall
      exact hall

theorem loadCity_ok (hm : w.objMgr.cityPool.Ok) (hk : w.objMgr.Live k)
    (hcount : (w.objMgr.player k).cityList 0 < maxCityNumPerPlayer) {slot : Nat}
    (hslot : citySlots.find? (fun i => (w.objMgr.player k).cityList i = 0) = some slot)
    (hv : 0 < w.objMgr.cityPool.validUnitCount) (cityInfo : Database.CityInfo) :
    ∃ w', LogicLogin.loadCity k cityInfo w = .ok w' := by
  obtain ⟨cityIdx, m, hadd, hpos⟩ := ObjMgrModule.addCity_ok hm hv hk hcount hslot
  rcases ObjMgrModule.addCity_cases hm hadd with ⟨hneg, -⟩ | ⟨_, _, city, -, rfl, hadded, -⟩
  · exact absurd hneg (Int.not_lt.mpr hpos)
  · have hused : m.cityPool.Allocated city := (hadded.allocated city).mpr (Or.inr rfl)
    refine ⟨{ w with objMgr := m.modifyCity city fun c =>
      { c with population := cityInfo.population, playerIdx := k } }, ?_⟩
    simp only [LogicLogin.loadCity, hadd, ok_bind, ObjMgrModule.getCity_of_allocated hused]

/-- **A record with at most 99 cities** can be loaded if the city pool has the space. -/
theorem loadCities_ok : ∀ (infos : List Database.CityInfo) {populations : List Int}
    {w : GameWorld}, w.objMgr.cityPool.Ok → w.objMgr.Live k →
    HasCities w.objMgr.cityPool (w.objMgr.player k).cityList populations →
    populations.length + infos.length < maxCityNumPerPlayer →
    infos.length ≤ w.objMgr.cityPool.validUnitCount →
    ∃ w', LogicLogin.loadCities k infos w = .ok w' := by
  intro infos
  induction infos with
  | nil => exact fun _ _ _ _ _ => ⟨_, rfl⟩
  | cons cityInfo infos ih =>
      intro populations w hm hk hc hroom hv
      rw [List.length_cons] at hroom hv
      have hcount : (w.objMgr.player k).cityList 0 < maxCityNumPerPlayer := by
        rw [hc.count]
        have := hc.room
        omega
      obtain ⟨w₁, hload⟩ :=
        loadCity_ok hm hk hcount (hc.find (by omega)) (by omega) cityInfo
      obtain ⟨_, _, -, -, -, -, hvalid, -, hframe⟩ := loadCity_spec hm hload
      have hk₁ := ((LogicLogin.loadCity_acts hload).same.live k).mpr hk
      have hlen : (populations ++ [cityInfo.population]).length = populations.length + 1 :=
        List.length_append
      obtain ⟨w', hrest⟩ := ih hframe.cityPool hk₁ (hc.snoc hm hload) (by omega) (by omega)
      refine ⟨w', ?_⟩
      simp only [LogicLogin.loadCities, hload, ok_bind, hrest]

end

/-! ## OnStep2 -/

namespace Database.PlayerData

/-- The populations of the cities of a record. -/
def populations (D : Database.PlayerData) : List Int := D.cityList.map fun c => c.population

/-- The record without the ids of its cities. -/
def withoutIds (D : Database.PlayerData) : Database.PlayerData :=
  { D with cityList := D.cityList.map fun c => { population := c.population } }

theorem withoutIds_eq_iff {D : Database.PlayerData} :
    D.withoutIds = D ↔ ∀ c ∈ D.cityList, c.id = 0 := by
  obtain ⟨roleInfo, cityList⟩ := D
  simp only [withoutIds, PlayerData.mk.injEq, true_and]
  have hmap := List.map_eq_map_iff (l := cityList)
    (f := fun c : CityInfo => { population := c.population }) (g := id)
  rw [List.map_id] at hmap
  refine hmap.trans (forall₂_congr (fun c _ => ?_))
  obtain ⟨id, population⟩ := c
  show ({ population := population } : CityInfo) = { id := id, population := population } ↔ _
  simp only [CityInfo.mk.injEq, and_true, eq_comm]

end Database.PlayerData

/-- The player has the uid, and the data of the record. -/
structure HoldsData (m : ObjMgrModule) (k : Nat) (uid : UInt64) (D : Database.PlayerData) :
    Prop where
  uid : (m.player k).uid = uid
  roleInfo : (m.player k).money = D.roleInfo.money ∧ (m.player k).level = D.roleInfo.level
  cities : HasCities m.cityPool (m.player k).cityList D.populations

section
variable {codec : Codec} {w w' : GameWorld} {k : Nat} {d d' : LogicData LogicBody} {ret : Int}
  {uid : UInt64} {D : Database.PlayerData} {msg : ProtoSs.Msg}

/-- What a good answer does to the objects: the record is loaded into the player, behind
the cities that it has, and the player gets the uid. -/
structure Loaded (k : Nat) (uid : UInt64) (D : Database.PlayerData) (w w' : GameWorld) :
    Prop where
  uidToPlayerIdxMap : w'.objMgr.uidToPlayerIdxMap =
    (w.objMgr.bindUidToPlayerIdx uid k).uidToPlayerIdxMap
  uid : (w'.objMgr.player k).uid = uid
  roleInfo : (w'.objMgr.player k).money = D.roleInfo.money ∧
    (w'.objMgr.player k).level = D.roleInfo.level
  cities : ∀ populations,
    HasCities w.objMgr.cityPool (w.objMgr.player k).cityList populations →
    HasCities w'.objMgr.cityPool (w'.objMgr.player k).cityList (populations ++ D.populations)
  cityPool : w'.objMgr.cityPool.Ok
  allocated : ∀ c, w.objMgr.cityPool.Allocated c → w'.objMgr.cityPool.Allocated c
  mem : ∀ c, w.objMgr.cityPool.Allocated c → w'.objMgr.cityPool.mem c = w.objMgr.cityPool.mem c
  slots : ∀ i ∈ citySlots, (w'.objMgr.player k).cityList i = (w.objMgr.player k).cityList i ∨
    ∃ c : Nat, (w'.objMgr.player k).cityList i = c ∧ ¬ w.objMgr.cityPool.Allocated c ∧
      w'.objMgr.cityPool.Allocated c
  live : ∀ j, w'.objMgr.Live j ↔ w.objMgr.Live j
  others : ∀ j, j ≠ k → w'.objMgr.player j = w.objMgr.player j

/-- **OnStep2**, on a good answer, loads the record that the answer carries. -/
theorem LogicLogin.onStep2_loaded (hm : w.objMgr.cityPool.Ok)
    (h : LogicLogin.onStep2 codec d (.ss msg) w = .ok (ret, d', w'))
    (hret : msg.head.ret = ProtoSs.retOk) :
    ∃ k : Nat, d.body.playerIdx = k ∧ w.objMgr.Live k ∧
      Loaded k d.body.uid (answerData codec msg) w w' := by
  obtain ⟨_, _, -, -, -, hs, -⟩ := onStep2_spec h
  obtain ⟨-, -, k, w₁, w₂, w₃, hidx, hk, hload, huid, hres, hntf⟩ := onStep2_good h hret
  generalize answerData codec msg = D at hload ⊢
  obtain ⟨hframe, hcities⟩ := loadCities_spec _ (w := Player.setPlayerByDb _ k w) hm hload
  have hk₁ : w₁.objMgr.Live k :=
    (((Player.setPlayerByDb_acts _ k w).trans (loadCities_acts _ _ hload)).same.live k).mpr hk
  obtain ⟨hpool, huidk, hothers⟩ := Player.setUid_data hk₁ huid
  have hobj : w'.objMgr = w₂.objMgr.modifyPlayer k
      (fun p => { p with passwordHash := d.body.passwordHash }) := by
    rw [Player.sendCs_objMgr hntf, Player.sendCs_objMgr hres]
    rfl
  have hself : (Player.setPlayerByDb D.roleInfo k w).objMgr.player k =
      { w.objMgr.player k with money := D.roleInfo.money, level := D.roleInfo.level } :=
    ObjMgrModule.modifyPlayer_self
  obtain ⟨cityList, hplayer⟩ := hframe.player
  rw [hself] at hplayer hcities
  have hfinal : w'.objMgr.player k =
      { w.objMgr.player k with
        money := D.roleInfo.money
        level := D.roleInfo.level
        cityList := cityList
        uid := d.body.uid
        passwordHash := d.body.passwordHash } := by
    rw [hobj, ObjMgrModule.modifyPlayer_self, huidk, hplayer]
  have hcityPool : w'.objMgr.cityPool = w₁.objMgr.cityPool := by
    rw [hobj, ObjMgrModule.modifyPlayer_cityPool, hpool]
  refine ⟨k, hidx, hk, ?_, ?_, ?_, fun populations hc => ?_, ?_, fun c hc => ?_, fun c hc => ?_,
    fun i hi => ?_, hs.acts.same.live, fun j hj => ?_⟩
  · have hmap : w₁.objMgr.uidToPlayerIdxMap = w.objMgr.uidToPlayerIdxMap :=
      hframe.uidToPlayerIdxMap
    rw [hobj, Player.setUid_objMgr hk₁ huid]
    exact ObjMgrModule.bindUidToPlayerIdx_congr hmap
  · rw [hfinal]
  · rw [hfinal]
    exact ⟨rfl, rfl⟩
  · have hloaded := hcities populations hc
    rw [hplayer] at hloaded
    rw [hfinal, hcityPool]
    exact hloaded
  · rw [hcityPool]
    exact hframe.cityPool
  · rw [hcityPool]
    exact hframe.allocated c hc
  · rw [hcityPool]
    exact hframe.mem c hc
  · have hslot := hframe.slots i hi
    rw [hplayer, hself] at hslot
    rw [hfinal, hcityPool]
    exact hslot
  · rw [hobj, ObjMgrModule.modifyPlayer_of_ne hj, hothers j hj, hframe.others j hj]
    exact ObjMgrModule.modifyPlayer_of_ne hj

theorem LogicLogin.onStep2_of_loadCities {w₁ : GameWorld} (hk : w.objMgr.Live k)
    (hidx : d.body.playerIdx = k) (hret : msg.head.ret = ProtoSs.retOk)
    (hload : LogicLogin.loadCities k (answerData codec msg).cityList
      (Player.setPlayerByDb (answerData codec msg).roleInfo k w) = .ok w₁) :
    ∃ w', LogicLogin.onStep2 codec d (.ss msg) w = .ok (logicFinish, d, w') := by
  have hget : w.objMgr.getPlayer d.body.playerIdx = some k :=
    ObjMgrModule.getPlayer_eq_some.mpr ⟨hidx, hk⟩
  have hk₁ : w₁.objMgr.Live k := ((loadCities_acts _ _ hload).same.live k).mpr hk
  obtain ⟨w₂, huid⟩ : ∃ w₂, Player.setUid d.body.uid k w₁ = .ok w₂ := by
    simp only [Player.setUid, ObjMgrModule.getPlayerIdx_eq hk₁, ok_bind]
    exact ⟨_, rfl⟩
  have hk₂ := ((Player.setUid_acts hk₁ huid).same.live k).mpr hk₁
  obtain ⟨w₃, hres⟩ : ∃ w₃, Player.sendOkCsLoginRes codec d.body.clientSeq k
      (Player.setPasswordHash d.body.passwordHash k w₂) = .ok w₃ := Player.sendCs_ok hk₂
  have hk₃ : w₃.objMgr.Live k := by
    rw [Player.sendCs_objMgr hres]
    exact hk₂
  obtain ⟨w', hntf⟩ : ∃ w', Player.sendRoleInfoNotify codec k w₃ = .ok w' := Player.sendCs_ok hk₃
  refine ⟨w', ?_⟩
  rw [← hidx] at hload
  unfold onStep2
  dsimp only
  rw [if_pos hret, hget]
  show (do
    let w ← LogicLogin.loadCities d.body.playerIdx (answerData codec msg).cityList
      (Player.setPlayerByDb (answerData codec msg).roleInfo k w)
    _) = _
  rw [hload, ok_bind, huid, ok_bind, hres, ok_bind, hntf]
  rfl

theorem LogicLogin.onStep2_ok (hm : w.objMgr.cityPool.Ok) (hk : w.objMgr.Live k)
    (hidx : d.body.playerIdx = k) (hnone : ∀ i, (w.objMgr.player k).cityList i = 0)
    (hret : msg.head.ret = ProtoSs.retOk)
    (hroom : (answerData codec msg).cityList.length < maxCityNumPerPlayer)
    (hv : (answerData codec msg).cityList.length ≤ w.objMgr.cityPool.validUnitCount) :
    ∃ w', LogicLogin.onStep2 codec d (.ss msg) w = .ok (logicFinish, d, w') := by
  let w₀ := Player.setPlayerByDb (answerData codec msg).roleInfo k w
  have hnone₀ : ∀ i, (w₀.objMgr.player k).cityList i = 0 := by
    have hself : w₀.objMgr.player k = _ := ObjMgrModule.modifyPlayer_self
    rw [hself]
    exact hnone
  obtain ⟨w₁, hload⟩ := loadCities_ok (answerData codec msg).cityList (w := w₀) hm hk
    (.nil hnone₀) (by rw [List.length_nil, Nat.zero_add]; exact hroom) hv
  exact onStep2_of_loadCities hk hidx hret hload

/-! ## Saving -/

/-- **DoUpdatePlayerData** saves the record that the player holds, without the ids. -/
theorem HoldsData.doUpdatePlayerData (h : HoldsData w.objMgr k uid D) (hk : w.objMgr.Live k)
    (seq : UInt64) :
    Player.doUpdatePlayerData codec seq k w =
      match serializeToArray (codec.serializePlayerData D.withoutIds) playerDataMax with
      | none => .ok w
      | some bytes =>
          .ok (w.sendToDatasvr codec (Player.setPlayerDataReq seq k uid bytes)).2 := by
  have hcities : D.populations.map (fun population => { population := population }) =
      D.withoutIds.cityList := List.map_map
  have hroleInfo : ({ money := (w.objMgr.player k).money, level := (w.objMgr.player k).level } :
      Database.RoleInfo) = D.roleInfo := by
    rw [h.roleInfo.1, h.roleInfo.2]
  simp only [Player.doUpdatePlayerData, ObjMgrModule.getPlayerIdx_eq hk, ok_bind,
    h.cities.cityInfos, hcities, hroleInfo, h.uid]
  rfl

/-- What the generated code does for a record: it is parsed back from what it was
serialised to, and a city takes at most 24 bytes, as do the role data. -/
structure Codec.Keeps (codec : Codec) (D : Database.PlayerData) : Prop where
  parse : codec.parsePlayerData (codec.serializePlayerData D) = D
  size : (codec.serializePlayerData D).length ≤ 24 * (D.cityList.length + 1)

/-- The fields of a request to save, but for the data, take at most 256 bytes. -/
def Codec.SmallHead (codec : Codec) : Prop := ∀ seq playerIdx uid playerData,
  (codec.serialize .ss (Player.setPlayerDataReq seq playerIdx uid playerData)).length ≤
    256 + playerData.length

theorem HoldsData.sent (h : HoldsData w.objMgr k uid D) (hk : w.objMgr.Live k)
    (hkeeps : codec.Keeps D.withoutIds) (hhead : codec.SmallHead)
    (hroom : D.cityList.length < maxCityNumPerPlayer) (hzmq : w.zmq 0 = true) (seq : UInt64) :
    ∃ w', Player.doUpdatePlayerData codec seq k w = .ok w' ∧
      w'.toDatasvr = w.toDatasvr ++
        [Player.setPlayerDataReq seq k uid (codec.serializePlayerData D.withoutIds)] := by
  have hcities : D.withoutIds.cityList.length = D.cityList.length := List.length_map _
  have hsize := hkeeps.size
  have hlt : D.cityList.length < 100 := hroom
  have hfits : (codec.serializePlayerData D.withoutIds).length ≤ playerDataMax := by
    simp only [playerDataMax]
    omega
  have hpkg := hhead seq k uid (codec.serializePlayerData D.withoutIds)
  have hreq : (codec.serialize .ss (Player.setPlayerDataReq seq k uid
      (codec.serializePlayerData D.withoutIds))).length ≤ pkgBufSize := by
    simp only [pkgBufSize]
    omega
  rw [h.doUpdatePlayerData hk seq]
  simp only [serializeToArray, if_pos hfits, GameWorld.sendToDatasvr, if_pos hreq, hzmq, if_true]
  exact ⟨_, rfl, rfl⟩

theorem LogicLogin.onStep2_holds (hanswer : answerData codec msg = D)
    (hroom : D.cityList.length < maxCityNumPerPlayer) (hm : w.objMgr.cityPool.Ok)
    (hk : w.objMgr.Live k)
    (hfresh : ∃ connFd, w.objMgr.player k = { Player.init with connFd := connFd })
    (hv : D.cityList.length ≤ w.objMgr.cityPool.validUnitCount)
    (hidx : d.body.playerIdx = k) (hret : msg.head.ret = ProtoSs.retOk) :
    ∃ w', LogicLogin.onStep2 codec d (.ss msg) w = .ok (logicFinish, d, w') ∧
      w'.objMgr.Live k ∧ HoldsData w'.objMgr k d.body.uid D := by
  have hnone : ∀ i, (w.objMgr.player k).cityList i = 0 := by
    obtain ⟨connFd, hp⟩ := hfresh
    rw [hp]
    exact fun _ => rfl
  obtain ⟨w', hstep⟩ : ∃ w', onStep2 codec d (.ss msg) w = .ok (logicFinish, d, w') :=
    onStep2_ok hm hk hidx hnone hret (by rw [hanswer]; exact hroom) (by rw [hanswer]; exact hv)
  obtain ⟨k', hidx', -, hloaded⟩ := onStep2_loaded hm hstep hret
  obtain rfl : k = k' := Int.natCast_inj.mp (hidx.symm.trans hidx')
  rw [hanswer] at hloaded
  exact ⟨w', hstep, (hloaded.live k).mpr hk,
    hloaded.uid, hloaded.roleInfo, hloaded.cities [] (.nil hnone)⟩

/-- **A record is loaded and saved**: the record that is written back is the one that was
loaded if and only if its cities have no ids. -/
theorem LogicLogin.loadSave_eq_iff (hD : codec.Keeps D) (hsaved : codec.Keeps D.withoutIds)
    (hhead : codec.SmallHead) (hroom : D.cityList.length ≤ 99)
    (hm : w.objMgr.cityPool.Ok) (hk : w.objMgr.Live k)
    (hfresh : ∃ connFd, w.objMgr.player k = { Player.init with connFd := connFd })
    (hv : D.cityList.length ≤ w.objMgr.cityPool.validUnitCount)
    (hidx : d.body.playerIdx = k) (hret : msg.head.ret = ProtoSs.retOk)
    (hmsg : msg.getPlayerDataRes = some { playerData := codec.serializePlayerData D }) :
    ∃ w', LogicLogin.onStep2 codec d (.ss msg) w = .ok (logicFinish, d, w') ∧
      ∀ seq w₁, w₁.objMgr = w'.objMgr → w₁.zmq 0 = true →
        ∃ w₂ bytes, Player.doUpdatePlayerData codec seq k w₁ = .ok w₂ ∧
          w₂.toDatasvr = w₁.toDatasvr ++ [Player.setPlayerDataReq seq k d.body.uid bytes] ∧
          (codec.parsePlayerData bytes = D ↔ ∀ c ∈ D.cityList, c.id = 0) := by
  have hanswer : answerData codec msg = D := by
    simp only [answerData, hmsg, Option.getD_some, hD.parse]
  have hlt : D.cityList.length < maxCityNumPerPlayer := Nat.lt_succ_of_le hroom
  obtain ⟨w', hstep, hk', hholds⟩ := onStep2_holds hanswer hlt hm hk hfresh hv hidx hret
  refine ⟨w', hstep, fun seq w₁ hobj hzmq => ?_⟩
  rw [← hobj] at hholds hk'
  obtain ⟨w₂, hsave, hsent⟩ := hholds.sent hk' hsaved hhead hlt hzmq seq
  refine ⟨w₂, _, hsave, hsent, ?_⟩
  rw [hsaved.parse]
  exact Database.PlayerData.withoutIds_eq_iff

end

/-! ### One city with an id -/

/-- The record of an account with one city. -/
def oneCity (id : Int) : Database.PlayerData where
  roleInfo := { money := 1000, level := 1 }
  cityList := [{ id := id, population := 7 }]

/-- The generated code, for these records. -/
def oneCityCodec : Codec := Wire.codec [] [] [oneCity 1121, oneCity 0]

/-- The login of the one player, which waits for the record. -/
def oneLogin : LogicData LogicBody :=
  ⟨⟨1, MsgModule.logicLogin, 2⟩, ⟨1, 1, 9, 10, [], [], []⟩⟩

/-- The answer with the record. -/
def oneAnswer (id : Int) : ProtoSs.Msg where
  head := { cmd := ProtoSs.getPlayerDataResFieldNumber, ret := ProtoSs.retOk, seq := 1,
            playerIdx := 1 }
  getPlayerDataRes := some { playerData := Wire.playerData (oneCity id) }

theorem oneCityCodec_keeps : oneCityCodec.Keeps (oneCity 1121) ∧ oneCityCodec.Keeps (oneCity 0) :=
  ⟨⟨by decide, by decide⟩, ⟨by decide, by decide⟩⟩

theorem LogicLogin.loadSave_eq_iff_one :
    ∃ w', LogicLogin.onStep2 oneCityCodec oneLogin (.ss (oneAnswer 1121)) onePlayer =
        .ok (logicFinish, oneLogin, w') ∧
      ∀ seq w₁, w₁.objMgr = w'.objMgr → w₁.zmq 0 = true →
        ∃ w₂ bytes, Player.doUpdatePlayerData oneCityCodec seq 1 w₁ = .ok w₂ ∧
          w₂.toDatasvr = w₁.toDatasvr ++ [Player.setPlayerDataReq seq 1 9 bytes] ∧
          (oneCityCodec.parsePlayerData bytes = oneCity 1121 ↔
            ∀ c ∈ (oneCity 1121).cityList, c.id = 0) :=
  LogicLogin.loadSave_eq_iff (k := 1) oneCityCodec_keeps.1 oneCityCodec_keeps.2
    Wire.ssMsg_length (by decide) ⟨[1], (ShmPool.init_inv 1 fun _ => City.init)⟩ (by decide)
    ⟨5, rfl⟩ (by decide) rfl rfl rfl

/-- **The id of a city is lost**: what is written back is not what was loaded. -/
theorem LogicLogin.loadSave_loses_id :
    ∃ w' w₂ bytes, LogicLogin.onStep2 oneCityCodec oneLogin (.ss (oneAnswer 1121)) onePlayer =
        .ok (logicFinish, oneLogin, w') ∧
      Player.doUpdatePlayerData oneCityCodec 3 1 w' = .ok w₂ ∧
      w₂.toDatasvr = w'.toDatasvr ++ [Player.setPlayerDataReq 3 1 9 bytes] ∧
      oneCityCodec.parsePlayerData bytes ≠ oneCity 1121 := by
  refine ⟨_, _, Wire.playerData (oneCity 0), rfl, rfl, rfl, by decide⟩

end PlayFrame
