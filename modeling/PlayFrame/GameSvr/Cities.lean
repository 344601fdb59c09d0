/-
# `PlayFrame.GameSvr.Cities` — which player has which cities

`city_list_` of a player leads to its cities, `player_idx_` of a city to its player, and
`city_list_[0]` counts; both objects live in pools whose units are used again.  After every
sequence of `AddPlayer`, `AddCity` and `DelPlayer` the three agree (`CitiesOwned`), and
`DelPlayer` frees the player and exactly its cities (`run_citiesOwned`).

A pool without a free unit is not part of it: `AddPlayer` and `AddCity` then go through a
null pointer, and the sequence has no next state.
-/
import PlayFrame.GameSvr.PlayerData
import Mathlib.Order.Interval.Finset.Nat

namespace PlayFrame

namespace ObjMgrModule

/-- The city in a unit. -/
abbrev city (m : ObjMgrModule) (c : Nat) : City := m.cityPool.mem c

/-- A player has a city in a slot. -/
def Slot (m : ObjMgrModule) (k i c : Nat) : Prop :=
  m.Live k ∧ i ∈ citySlots ∧ (m.player k).cityList i = c

/-- The slots of a list that are not empty. -/
def filledSlots (cityList : Nat → Int) : Finset Nat :=
  (Finset.Ico 1 maxCityNumPerPlayer).filter (fun i => cityList i ≠ 0)

/-- The slots of every player are counted. -/
def Counted (m : ObjMgrModule) : Prop :=
  ∀ k, m.Live k → (m.player k).cityList 0 = (filledSlots (m.player k).cityList).card

/-- **Every city is owned by exactly one player.** -/
structure CitiesOwned (m : ObjMgrModule) : Prop where
  players : m.playerPool.Ok
  cities : m.cityPool.Ok
  owner : ∀ c, m.cityPool.Allocated c → ∃! s : Nat × Nat, m.Slot s.1 s.2 c
  index : ∀ k i c, m.cityPool.Allocated c → m.Slot k i c → (m.city c).playerIdx = k
  filled : ∀ k i, m.Live k → i ∈ citySlots → (m.player k).cityList i ≠ 0 →
    ∃ c : Nat, (m.player k).cityList i = c ∧ m.cityPool.Allocated c
  count : ∀ k, m.Live k → (m.player k).cityList 0 = (filledSlots (m.player k).cityList).card

/-- **What `DelPlayer` changes**: the player is freed, and so are exactly the cities that
have its index. -/
structure PlayerDeleted (m : ObjMgrModule) (playerIdx : Int) (m' : ObjMgrModule) : Prop where
  live : ∀ j, m'.Live j ↔ m.Live j ∧ playerIdx ≠ j
  cities : ∀ c, m'.cityPool.Allocated c ↔
    m.cityPool.Allocated c ∧ (m.city c).playerIdx ≠ playerIdx
  player : m'.playerPool.mem = m.playerPool.mem
  city : m'.cityPool.mem = m.cityPool.mem

/-- The states of gamesvr, as far as the objects go.  The other members of players and
cities, and the uid index, may be written to at any time. -/
inductive CityRun (playerPoolSize cityPoolSize : Nat) (rawPlayer : Nat → Player)
    (rawCity : Nat → City) : ObjMgrModule → Prop
  | init : CityRun playerPoolSize cityPoolSize rawPlayer rawCity
      (init playerPoolSize cityPoolSize rawPlayer rawCity)
  | addPlayer {m m' : ObjMgrModule} {playerIdx : Int} :
      CityRun playerPoolSize cityPoolSize rawPlayer rawCity m →
      m.addPlayer = .ok (playerIdx, m') →
      CityRun playerPoolSize cityPoolSize rawPlayer rawCity m'
  | addCity {m m' : ObjMgrModule} {playerIdx cityIdx : Int} :
      CityRun playerPoolSize cityPoolSize rawPlayer rawCity m →
      m.addCity playerIdx = .ok (cityIdx, m') →
      CityRun playerPoolSize cityPoolSize rawPlayer rawCity m'
  | delPlayer {m m' : ObjMgrModule} {playerIdx : Int} :
      CityRun playerPoolSize cityPoolSize rawPlayer rawCity m →
      m.delPlayer playerIdx = .ok m' →
      CityRun playerPoolSize cityPoolSize rawPlayer rawCity m'
  | writePlayer {m : ObjMgrModule} (k : Nat) (f : Player → Player) :
      CityRun playerPoolSize cityPoolSize rawPlayer rawCity m →
      (∀ p, (f p).cityList = p.cityList) →
      CityRun playerPoolSize cityPoolSize rawPlayer rawCity (m.modifyPlayer k f)
  | writeCity {m : ObjMgrModule} (c : Nat) (f : City → City) :
      CityRun playerPoolSize cityPoolSize rawPlayer rawCity m →
      (∀ city, (f city).playerIdx = city.playerIdx) →
      CityRun playerPoolSize cityPoolSize rawPlayer rawCity (m.modifyCity c f)
  | writeIndex {m : ObjMgrModule} (map : Finmap (fun _ : UInt64 => Int)) :
      CityRun playerPoolSize cityPoolSize rawPlayer rawCity m →
      CityRun playerPoolSize cityPoolSize rawPlayer rawCity { m with uidToPlayerIdxMap := map }

/-! ## Counting slots -/

section
variable {cityList : Nat → Int} {i : Nat}

theorem mem_filledSlots : i ∈ filledSlots cityList ↔ i ∈ citySlots ∧ cityList i ≠ 0 := by
  simp [filledSlots, mem_citySlots]

theorem filledSlots_congr {cityList' : Nat → Int}
    (h : ∀ i ∈ citySlots, cityList' i = cityList i) :
    filledSlots cityList' = filledSlots cityList := by
  ext i
  rw [mem_filledSlots, mem_filledSlots]
  refine and_congr_right (fun hi => ?_)
  rw [h i hi]

theorem card_filledSlots_update (hi : i ∈ citySlots) (hempty : cityList i = 0) {cityIdx : Int}
    (hne : cityIdx ≠ 0) :
    (filledSlots (Function.update cityList i cityIdx)).card = (filledSlots cityList).card + 1 := by
  have hinsert : filledSlots (Function.update cityList i cityIdx) =
      insert i (filledSlots cityList) := by
    ext j
    rw [Finset.mem_insert, mem_filledSlots, mem_filledSlots]
    by_cases hj : j = i
    · subst hj
      rw [Function.update_self]
      exact iff_of_true ⟨hi, hne⟩ (Or.inl rfl)
    · rw [Function.update_of_ne hj]
      exact ⟨Or.inr, fun h => h.resolve_left hj⟩
  have hnot : i ∉ filledSlots cityList := fun h => (mem_filledSlots.mp h).2 hempty
  rw [hinsert, Finset.card_insert_of_notMem hnot]

end

/-! ## One call -/

section
variable {m m' : ObjMgrModule} {k i c : Nat} {playerIdx cityIdx : Int}

theorem CitiesOwned.allocated (h : m.CitiesOwned) (hs : m.Slot k i c) (hc : c ≠ 0) :
    m.cityPool.Allocated c := by
  obtain ⟨hk, hi, hslot⟩ := hs
  obtain ⟨c', hc', hused⟩ := h.filled k i hk hi (by rw [hslot]; exact Int.natCast_ne_zero.mpr hc)
  rw [hslot] at hc'
  rwa [Int.natCast_inj.mp hc']

theorem CitiesOwned.congr (h : m.CitiesOwned) (hplayers : m'.playerPool.Ok)
    (hcities : m'.cityPool.Ok) (hlive : ∀ j, m'.Live j ↔ m.Live j)
    (hlist : ∀ j, (m'.player j).cityList = (m.player j).cityList)
    (hused : ∀ c, m'.cityPool.Allocated c ↔ m.cityPool.Allocated c)
    (hidx : ∀ c, (m'.city c).playerIdx = (m.city c).playerIdx) : m'.CitiesOwned := by
  have hslot : ∀ k i c, m'.Slot k i c ↔ m.Slot k i c := by
    intro k i c
    unfold Slot
    rw [hlive, hlist]
  refine ⟨hplayers, hcities, fun c hc => ?_, fun k i c hc hs => ?_, fun k i hk hi hne => ?_,
    fun k hk => ?_⟩
  · simp only [hslot]
    exact h.owner c ((hused c).mp hc)
  · rw [hidx]
    exact h.index k i c ((hused c).mp hc) ((hslot k i c).mp hs)
  · rw [hlist] at hne ⊢
    obtain ⟨c, hc, hcused⟩ := h.filled k i ((hlive k).mp hk) hi hne
    exact ⟨c, hc, (hused c).mpr hcused⟩
  · rw [hlist]
    exact h.count k ((hlive k).mp hk)

theorem Counted.grown (h : m.Counted) (hlive : ∀ j, m'.Live j ↔ m.Live j ∨ j = k)
    (hnew : ∀ i, (m'.player k).cityList i = 0)
    (hothers : ∀ j, j ≠ k → m'.player j = m.player j) : m'.Counted := by
  intro j hj
  by_cases hjk : j = k
  · subst hjk
    have hnone : filledSlots (m'.player j).cityList = ∅ := by
      simp [filledSlots, hnew]
    rw [hnew, hnone]
    rfl
  · rw [hothers j hjk]
    exact h j (((hlive j).mp hj).resolve_right hjk)

theorem CitiesOwned.grown (h : m.CitiesOwned) (hok : m'.playerPool.Ok) (hfresh : ¬ m.Live k)
    (hlive : ∀ j, m'.Live j ↔ m.Live j ∨ j = k) (hnew : ∀ i, (m'.player k).cityList i = 0)
    (hothers : ∀ j, j ≠ k → m'.player j = m.player j) (hpool : m'.cityPool = m.cityPool) :
    m'.CitiesOwned := by
  have hslot : ∀ j i c, c ≠ 0 → (m'.Slot j i c ↔ m.Slot j i c) := by
    intro j i c hc
    unfold Slot
    by_cases hj : j = k
    · subst hj
      refine iff_of_false ?_ (fun hs => hfresh hs.1)
      rintro ⟨-, -, hs⟩
      rw [hnew] at hs
      exact hc (Int.natCast_eq_zero.mp hs.symm)
    · rw [hlive, hothers j hj, or_iff_left hj]
  have hpos : ∀ c, m.cityPool.Allocated c → c ≠ 0 := fun c hc => Nat.one_le_iff_ne_zero.mp hc.1
  refine ⟨hok, hpool ▸ h.cities, fun c hc => ?_, fun j i c hc hs => ?_, fun j i hj hi hne => ?_,
    Counted.grown h.count hlive hnew hothers⟩
  · rw [hpool] at hc
    simp only [hslot _ _ c (hpos c hc)]
    exact h.owner c hc
  · rw [hpool] at hc
    show (m'.cityPool.mem c).playerIdx = j
    rw [hpool]
    exact h.index j i c hc ((hslot j i c (hpos c hc)).mp hs)
  · rw [hpool]
    by_cases hjk : j = k
    · subst hjk
      exact absurd (hnew i) hne
    · rw [hothers j hjk] at hne ⊢
      exact h.filled j i (((hlive j).mp hj).resolve_right hjk) hi hne

theorem CitiesOwned.addPlayer (h : m.CitiesOwned) (hadd : m.addPlayer = .ok (playerIdx, m')) :
    m'.CitiesOwned := by
  obtain ⟨k, -, -, hfresh, hok, hlive, hnew, hothers, -, hpool⟩ := addPlayer_spec h.players hadd
  refine h.grown hok hfresh hlive (fun i => ?_) hothers hpool
  rw [hnew]
  rfl

theorem CitiesOwned.added {connFd : Int} (h : m.CitiesOwned) (hadd : PlayerAdded m k connFd m') :
    m'.CitiesOwned := by
  refine h.grown hadd.ok hadd.fresh hadd.live (fun i => ?_) hadd.others hadd.cityPool
  rw [hadd.new]
  rfl

namespace CityAdded

variable {slot new : Nat}

theorem slot_mem (hc : CityAdded m k slot new m') : slot ∈ citySlots :=
  List.mem_of_find?_eq_some hc.first

theorem slot_empty (hc : CityAdded m k slot new m') : (m.player k).cityList slot = 0 :=
  of_decide_eq_true (List.find?_some hc.first :)

theorem new_allocated (hc : CityAdded m k slot new m') : m'.cityPool.Allocated new :=
  (hc.allocated new).mpr (Or.inr rfl)

theorem new_ne_zero (hc : CityAdded m k slot new m') : new ≠ 0 :=
  Nat.one_le_iff_ne_zero.mp hc.new_allocated.1

theorem cityList (hc : CityAdded m k slot new m') (hi : i ∈ citySlots) :
    (m'.player k).cityList i = Function.update (m.player k).cityList slot new i := by
  have hi0 : i ≠ 0 := by
    have := mem_citySlots.mp hi
    omega
  have hcityList : (m'.player k).cityList = Function.update (Function.update
      (m.player k).cityList 0 ((m.player k).cityList 0 + 1)) slot new :=
    congrArg Player.cityList hc.player
  rw [hcityList]
  by_cases hslot : i = slot
  · rw [hslot, Function.update_self, Function.update_self]
  · rw [Function.update_of_ne hslot, Function.update_of_ne hslot, Function.update_of_ne hi0]

theorem cityList_other (hc : CityAdded m k slot new m') {j : Nat} (hi : i ∈ citySlots)
    (hne : ¬ (j = k ∧ i = slot)) : (m'.player j).cityList i = (m.player j).cityList i := by
  by_cases hj : j = k
  · subst hj
    rw [hc.cityList hi, Function.update_of_ne fun hi => hne ⟨rfl, hi⟩]
  · rw [hc.others j hj]

theorem slot_iff (hc : CityAdded m k slot new m') (hlive : ∀ j, m'.Live j ↔ m.Live j) {j : Nat}
    (hc0 : c ≠ 0) : m'.Slot j i c ↔ m.Slot j i c ∨ (j = k ∧ i = slot ∧ c = new) := by
  by_cases hne : j = k ∧ i = slot
  · obtain ⟨rfl, rfl⟩ := hne
    have hold : ¬ m.Slot j i c := fun hs =>
      hc0 (Int.natCast_eq_zero.mp (hs.2.2.symm.trans hc.slot_empty))
    unfold Slot at hold ⊢
    rw [or_iff_right hold, hc.cityList hc.slot_mem, Function.update_self]
    constructor
    · rintro ⟨-, -, hs⟩
      exact ⟨rfl, rfl, Int.natCast_inj.mp hs.symm⟩
    · rintro ⟨-, -, rfl⟩
      exact ⟨(hlive j).mpr hc.live, hc.slot_mem, rfl⟩
  · rw [or_iff_left fun h => hne ⟨h.1, h.2.1⟩]
    unfold Slot
    rw [hlive]
    refine and_congr_right (fun _ => and_congr_right (fun hi => ?_))
    rw [hc.cityList_other hi hne]

theorem cityList_zero (hc : CityAdded m k slot new m') :
    (m'.player k).cityList 0 = (m.player k).cityList 0 + 1 := by
  have hslot0 : (0 : Nat) ≠ slot := by
    have := mem_citySlots.mp hc.slot_mem
    omega
  rw [hc.player]
  show Function.update _ slot _ 0 = _
  rw [Function.update_of_ne hslot0, Function.update_self]

theorem counted (hc : CityAdded m k slot new m') (hlive : ∀ j, m'.Live j ↔ m.Live j)
    (h : m.Counted) : m'.Counted := by
  intro j hj
  have hcount := h j ((hlive j).mp hj)
  by_cases hjk : j = k
  · subst hjk
    rw [hc.cityList_zero, filledSlots_congr fun i hi => hc.cityList hi,
      card_filledSlots_update hc.slot_mem hc.slot_empty (Int.natCast_ne_zero.mpr hc.new_ne_zero),
      hcount]
    rfl
  · rw [hc.others j hjk]
    exact hcount

end CityAdded

theorem CitiesOwned.addCity (h : m.CitiesOwned)
    (hadd : m.addCity playerIdx = .ok (cityIdx, m')) : m'.CitiesOwned := by
  rcases addCity_cases h.cities hadd with ⟨-, rfl⟩ | ⟨k, slot, new, -, -, hc, hidx⟩
  · exact h
  have hsame := addCity_samePlayers hadd
  have hslot : ∀ {j i c}, c ≠ 0 → (m'.Slot j i c ↔ m.Slot j i c ∨ (j = k ∧ i = slot ∧ c = new)) :=
    fun hc0 => hc.slot_iff hsame.live hc0
  -- the new city was in no slot, and the others are not the new one
  have hnone : ∀ j i, ¬ m.Slot j i new := fun j i hs => hc.fresh (h.allocated hs hc.new_ne_zero)
  have hold : ∀ {c}, m.cityPool.Allocated c → c ≠ 0 ∧ c ≠ new := by
    intro c hused
    refine ⟨Nat.one_le_iff_ne_zero.mp hused.1, ?_⟩
    rintro rfl
    exact hc.fresh hused
  refine ⟨hsame.pool h.players, hc.cityPool, fun c hused => ?_, fun j i c hused hs => ?_,
    fun j i hj hi hne => ?_, hc.counted hsame.live h.count⟩
  · rcases (hc.allocated c).mp hused with hused | rfl
    · obtain ⟨hc0, hcnew⟩ := hold hused
      simp only [hslot hc0, hcnew, and_false, or_false]
      exact h.owner c hused
    · refine ⟨(k, slot), (hslot hc.new_ne_zero).mpr (Or.inr ⟨rfl, rfl, rfl⟩), ?_⟩
      rintro ⟨j, i⟩ hs
      obtain ⟨rfl, rfl, -⟩ := ((hslot hc.new_ne_zero).mp hs).resolve_left (hnone j i)
      rfl
  · rcases (hc.allocated c).mp hused with hused | rfl
    · obtain ⟨hc0, hcnew⟩ := hold hused
      rw [city, hc.mem c hcnew]
      exact h.index j i c hused (((hslot hc0).mp hs).resolve_right fun hs => hcnew hs.2.2)
    · obtain ⟨rfl, rfl, -⟩ := ((hslot hc.new_ne_zero).mp hs).resolve_left (hnone j i)
      exact hidx
  · by_cases hown : j = k ∧ i = slot
    · obtain ⟨rfl, rfl⟩ := hown
      exact ⟨new, ((hslot hc.new_ne_zero).mpr (Or.inr ⟨rfl, rfl, rfl⟩)).2.2, hc.new_allocated⟩
    · rw [hc.cityList_other hi hown] at hne ⊢
      obtain ⟨c, hslot, hused⟩ := h.filled j i ((hsame.live j).mp hj) hi hne
      exact ⟨c, hslot, (hc.allocated c).mpr (Or.inl hused)⟩

/-! ### The other members -/

theorem modifyPlayer_cityList {f : Player → Player} (hf : ∀ p, (f p).cityList = p.cityList)
    (j : Nat) : ((m.modifyPlayer k f).player j).cityList = (m.player j).cityList := by
  by_cases hj : j = k
  · subst hj
    rw [modifyPlayer_self, hf]
  · rw [modifyPlayer_of_ne hj]

theorem modifyCity_playerIdx {f : City → City}
    (hf : (f (m.city c)).playerIdx = (m.city c).playerIdx) (j : Nat) :
    ((m.modifyCity c f).city j).playerIdx = (m.city j).playerIdx := by
  by_cases hj : j = c
  · subst hj
    rw [city, modifyCity_cityPool, ShmPool.modify_mem_self, hf]
  · rw [city, modifyCity_cityPool, ShmPool.modify_mem_of_ne hj]

theorem CitiesOwned.writePlayer (h : m.CitiesOwned) (k : Nat) {f : Player → Player}
    (hf : ∀ p, (f p).cityList = p.cityList) : (m.modifyPlayer k f).CitiesOwned :=
  h.congr h.players.modify h.cities (fun _ => Iff.rfl) (modifyPlayer_cityList hf)
    (fun _ => Iff.rfl) (fun _ => rfl)

theorem CitiesOwned.writeCity (h : m.CitiesOwned) (c : Nat) {f : City → City}
    (hf : (f (m.city c)).playerIdx = (m.city c).playerIdx) : (m.modifyCity c f).CitiesOwned :=
  h.congr h.players h.cities.modify (fun _ => Iff.rfl) (fun _ => rfl) (fun _ => Iff.rfl)
    (modifyCity_playerIdx hf)

theorem CitiesOwned.writeIndex (h : m.CitiesOwned) (hplayers : m'.playerPool = m.playerPool)
    (hcities : m'.cityPool = m.cityPool) : m'.CitiesOwned := by
  refine h.congr (hplayers ▸ h.players) (hcities ▸ h.cities) (fun j => ?_) (fun j => ?_)
    (fun c => ?_) (fun c => ?_)
  · rw [Live, hplayers]
  · rw [player, hplayers]
  · rw [hcities]
  · rw [city, hcities]

/-! ### DelPlayer -/

/-- What `DelPlayer` frees: the player, and the cities that its slots lead to. -/
structure PlayerFreed (m : ObjMgrModule) (playerIdx : Int) (m' : ObjMgrModule) : Prop where
  players : m'.playerPool.Ok
  cities : m'.cityPool.Ok
  live : ∀ j, m'.Live j ↔ m.Live j ∧ playerIdx ≠ j
  allocated : ∀ c, m'.cityPool.Allocated c ↔
    m.cityPool.Allocated c ∧ ∀ k i : Nat, playerIdx = k → ¬ m.Slot k i c
  player : m'.playerPool.mem = m.playerPool.mem
  city : m'.cityPool.mem = m.cityPool.mem

theorem delAllCities_spec (hcities : m.cityPool.Ok)
    (hcount : (m.player k).cityList 0 = (filledSlots (m.player k).cityList).card) :
    ∃ m', delAllCities k m = .ok m' ∧
      CitiesFreed m (fun c => ∃ i ∈ citySlots, (m.player k).cityList i = c) m' := by
  unfold delAllCities
  split
  · exact delCities_spec citySlots hcities
  · next hzero =>
    refine ⟨m, rfl, rfl, rfl, hcities, rfl, fun c => ⟨fun hc => ⟨hc, ?_⟩, fun hc => hc.1⟩⟩
    rintro ⟨i, hi, hslot⟩
    have hne : (m.player k).cityList i ≠ 0 := by
      rw [hslot]
      exact Int.natCast_ne_zero.mpr (Nat.one_le_iff_ne_zero.mp hc.1)
    have hpos : 0 < (filledSlots (m.player k).cityList).card :=
      Finset.card_pos.mpr ⟨i, mem_filledSlots.mpr ⟨hi, hne⟩⟩
    rw [hcount] at hzero
    omega

/-- **`DelPlayer`** frees the player and what its slots lead to, or there is no such player. -/
theorem delPlayer_freed (hplayers : m.playerPool.Ok) (hcities : m.cityPool.Ok)
    (hcount : m.Counted) (playerIdx : Int) :
    ∃ m', m.delPlayer playerIdx = .ok m' ∧ PlayerFreed m playerIdx m' := by
  unfold delPlayer
  cases hp : m.getPlayer playerIdx with
  | none =>
      have hnone := getPlayer_eq_none.mp hp
      exact ⟨m, rfl, hplayers, hcities, fun j => ⟨fun hj => ⟨hj, hnone j hj⟩, fun hj => hj.1⟩,
        fun c => ⟨fun hc => ⟨hc, fun k i hk hs => hnone k hs.1 hk⟩, fun hc => hc.1⟩, rfl, rfl⟩
  | some k =>
      obtain ⟨rfl, hk⟩ := getPlayer_eq_some.mp hp
      have hpool : (m.eraseUidToPlayerIdx (m.player k).uid k).playerPool = m.playerPool :=
        eraseUidToPlayerIdx_pool
      have hcityPool : (m.eraseUidToPlayerIdx (m.player k).uid k).cityPool = m.cityPool :=
        eraseUidToPlayerIdx_cityPool
      have hplayer : (m.eraseUidToPlayerIdx (m.player k).uid k).player k = m.player k := by
        rw [player, hpool]
      obtain ⟨m₁, hdel, hfreed⟩ := delAllCities_spec (k := k) (hcityPool ▸ hcities)
        (by rw [hplayer]; exact hcount k hk)
      obtain ⟨pool, hrel, hshrunk⟩ := ShmPool.release_spec hplayers hk
      refine ⟨{ m₁ with playerPool := pool }, ?_, hshrunk.ok, hfreed.ok, fun j => ?_, fun c => ?_,
        hshrunk.mem, hfreed.mem.trans (congrArg _ hcityPool)⟩
      · simp only [getPlayerIdx_eq hk, ok_bind]
        rw [hdel, ok_bind, hfreed.playerPool, hpool, hrel, ok_bind]
      · rw [show Live _ j ↔ pool.Allocated j from Iff.rfl, hshrunk.allocated j, ne_eq, ne_eq,
          Int.natCast_inj, eq_comm]
      · show m₁.cityPool.Allocated c ↔ _
        rw [hfreed.allocated, hcityPool, hplayer]
        refine and_congr_right (fun _ => ⟨?_, ?_⟩)
        · rintro hnone k' i hk' ⟨-, hi, hslot⟩
          obtain rfl := Int.natCast_inj.mp hk'
          exact hnone ⟨i, hi, hslot⟩
        · rintro hnone ⟨i, hi, hslot⟩
          exact hnone k i rfl ⟨hk, hi, hslot⟩

/-- **`DelPlayer`** frees the player and its cities, or there is no such player. -/
theorem CitiesOwned.delPlayer_spec (h : m.CitiesOwned) (playerIdx : Int) :
    ∃ m', m.delPlayer playerIdx = .ok m' ∧ PlayerDeleted m playerIdx m' ∧
      m'.playerPool.Ok ∧ m'.cityPool.Ok := by
  obtain ⟨m', hdel, hfreed⟩ := delPlayer_freed h.players h.cities h.count playerIdx
  refine ⟨m', hdel, ⟨hfreed.live, fun c => ?_, hfreed.player, hfreed.city⟩, hfreed.players,
    hfreed.cities⟩
  rw [hfreed.allocated]
  refine and_congr_right (fun hc => ?_)
  constructor
  · intro hnone hidx
    obtain ⟨⟨k, i⟩, hs, -⟩ := h.owner c hc
    exact hnone k i (hidx.symm.trans (h.index k i c hc hs)) hs
  · rintro hne k i rfl hs
    exact hne (h.index k i c hc hs)

theorem CitiesOwned.deleted (h : m.CitiesOwned) (hdel : PlayerDeleted m playerIdx m')
    (hplayers : m'.playerPool.Ok) (hcities : m'.cityPool.Ok) : m'.CitiesOwned := by
  have hslot : ∀ k i c : Nat, playerIdx ≠ k → (m'.Slot k i c ↔ m.Slot k i c) := by
    intro k i c hne
    unfold Slot
    rw [hdel.live, player, hdel.player, and_iff_left hne]
  have hlive : ∀ {k}, m'.Live k → m.Live k ∧ playerIdx ≠ k := (hdel.live _).mp
  refine ⟨hplayers, hcities, fun c hc => ?_, fun k i c hc hs => ?_, fun k i hk hi hne => ?_,
    fun k hk => ?_⟩
  · obtain ⟨hused, hother⟩ := (hdel.cities c).mp hc
    obtain ⟨⟨k, i⟩, hs, honly⟩ := h.owner c hused
    have hidx : (m.city c).playerIdx = k := h.index k i c hused hs
    refine ⟨(k, i), (hslot k i c (fun hk => hother (hidx.trans hk.symm))).mpr hs, ?_⟩
    rintro ⟨k', i'⟩ hs'
    exact honly _ ((hslot k' i' c (hlive hs'.1).2).mp hs')
  · obtain ⟨hused, -⟩ := (hdel.cities c).mp hc
    rw [city, hdel.city]
    exact h.index k i c hused ((hslot k i c (hlive hs.1).2).mp hs)
  · obtain ⟨hk, hother⟩ := hlive hk
    rw [player, hdel.player] at hne ⊢
    obtain ⟨c, hc, hused⟩ := h.filled k i hk hi hne
    refine ⟨c, hc, (hdel.cities c).mpr ⟨hused, ?_⟩⟩
    rw [h.index k i c hused ⟨hk, hi, hc⟩]
    exact hother.symm
  · rw [player, hdel.player]
    exact h.count k (hlive hk).1

/-! ### Every run -/

variable {playerPoolSize cityPoolSize : Nat} {rawPlayer : Nat → Player} {rawCity : Nat → City}

theorem init_citiesOwned : (init playerPoolSize cityPoolSize rawPlayer rawCity).CitiesOwned where
  players := ⟨_, ShmPool.init_inv playerPoolSize rawPlayer⟩
  cities := ⟨_, ShmPool.init_inv cityPoolSize rawCity⟩
  owner := fun _ hc => absurd hc ShmPool.init_not_allocated
  index := fun _ _ _ hc => absurd hc ShmPool.init_not_allocated
  filled := fun _ _ hk => absurd hk ShmPool.init_not_allocated
  count := fun _ hk => absurd hk ShmPool.init_not_allocated

theorem CityRun.citiesOwned (h : CityRun playerPoolSize cityPoolSize rawPlayer rawCity m) :
    m.CitiesOwned := by
  induction h with
  | init => exact init_citiesOwned
  | addPlayer _ hadd ih => exact ih.addPlayer hadd
  | addCity _ hadd ih => exact ih.addCity hadd
  | delPlayer _ hdel ih =>
      obtain ⟨m₁, hm₁, hdeleted, hplayers, hcities⟩ := ih.delPlayer_spec _
      rw [hdel] at hm₁
      cases hm₁
      exact ih.deleted hdeleted hplayers hcities
  | writePlayer k f _ hf ih => exact ih.writePlayer k hf
  | writeCity c f _ hf ih => exact ih.writeCity c (hf _)
  | writeIndex map _ ih => exact ih.writeIndex rfl rfl

/-- **Every city has exactly one owner** in every state of a run, and `DelPlayer` frees a
player with exactly its cities. -/
theorem run_citiesOwned (h : CityRun playerPoolSize cityPoolSize rawPlayer rawCity m) :
    m.CitiesOwned ∧ ∀ playerIdx, ∃ m', m.delPlayer playerIdx = .ok m' ∧
      PlayerDeleted m playerIdx m' := by
  refine ⟨h.citiesOwned, fun playerIdx => ?_⟩
  obtain ⟨m', hm', hdeleted, -, -⟩ := h.citiesOwned.delPlayer_spec playerIdx
  exact ⟨m', hm', hdeleted⟩

end

/-- Two players, with a city each, whose owners the second one's deletion tells apart. -/
theorem run_citiesOwned_two :
    ∃ m, CityRun 2 2 (fun _ => Player.init) (fun _ => City.init) m ∧
      m.cityPool.Allocated 1 ∧ m.cityPool.Allocated 2 ∧ m.CitiesOwned ∧
      ∀ playerIdx, ∃ m', m.delPlayer playerIdx = .ok m' ∧ PlayerDeleted m playerIdx m' := by
  have h₀ : CityRun 2 2 (fun _ => Player.init) (fun _ => City.init) _ := .init
  have h₁ := CityRun.addPlayer h₀ rfl
  have h₂ := CityRun.addPlayer h₁ rfl
  have h₃ := @CityRun.addCity _ _ _ _ _ _ 1 _ h₂ rfl
  have h₄ := @CityRun.addCity _ _ _ _ _ _ 2 _ h₃ rfl
  exact ⟨_, h₄, ⟨by decide, by decide, rfl⟩, ⟨by decide, by decide, rfl⟩, run_citiesOwned h₄⟩

end ObjMgrModule

end PlayFrame
