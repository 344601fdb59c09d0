/-
# `PlayFrame.GameSvr.ObjMgr` — players and cities

`gamesvr/obj_mgr_module/obj_mgr_module.{h,cpp}` and the data of `object/player.h` and
`object/city.h`.  Players and cities live in two pools in shared memory; a player's
index is the number of its pool unit, and so is a pointer to it.
-/
import PlayFrame.Frame.ShmPool
import Mathlib.Data.Finmap

namespace PlayFrame

/-- `MAX_CITY_NUM_PER_PLAYER`. -/
def maxCityNumPerPlayer : Nat := 100

/-- The data of `class Player`.  `cityList 0` counts the cities. -/
structure Player where
  connFd : Int
  uid : UInt64
  passwordHash : UInt64
  cityList : Nat → Int
  money : Int
  level : Int

/-- `Player::init`. -/
def Player.init : Player where
  connFd := 0
  uid := 0
  passwordHash := 0
  cityList := fun _ => 0
  money := 0
  level := 0

/-- The data of `class City`. -/
structure City where
  playerIdx : Int
  population : Int
  deriving DecidableEq, Repr

/-- `City::init`. -/
def City.init : City where
  playerIdx := 0
  population := 0

/-- `class ObjMgrModule`. -/
structure ObjMgrModule where
  playerPool : ShmPool Player
  cityPool : ShmPool City
  uidToPlayerIdxMap : Finmap (fun _ : UInt64 => Int)

namespace ObjMgrModule

/-- The state after `ModuleInit`, in new segments. -/
def init (playerPoolSize cityPoolSize : Nat) (rawPlayer : Nat → Player) (rawCity : Nat → City) :
    ObjMgrModule where
  playerPool := ShmPool.init playerPoolSize rawPlayer
  cityPool := ShmPool.init cityPoolSize rawCity
  uidToPlayerIdxMap := ∅

/-- A write to a player, through the pointer. -/
def modifyPlayer (m : ObjMgrModule) (player : Nat) (f : Player → Player) : ObjMgrModule :=
  { m with playerPool := m.playerPool.modify player f }

/-- A write to a city, through the pointer. -/
def modifyCity (m : ObjMgrModule) (city : Nat) (f : City → City) : ObjMgrModule :=
  { m with cityPool := m.cityPool.modify city f }

@[simp] theorem modifyPlayer_cityPool {m : ObjMgrModule} {player : Nat} {f : Player → Player} :
    (m.modifyPlayer player f).cityPool = m.cityPool := rfl

@[simp] theorem modifyPlayer_playerPool {m : ObjMgrModule} {player : Nat} {f : Player → Player} :
    (m.modifyPlayer player f).playerPool = m.playerPool.modify player f := rfl

@[simp] theorem modifyCity_cityPool {m : ObjMgrModule} {city : Nat} {f : City → City} :
    (m.modifyCity city f).cityPool = m.cityPool.modify city f := rfl

@[simp] theorem modifyCity_playerPool {m : ObjMgrModule} {city : Nat} {f : City → City} :
    (m.modifyCity city f).playerPool = m.playerPool := rfl

/-! ## The uid index -/

/-- `ObjMgrModule::FindPlayerIdxByUid`. -/
def findPlayerIdxByUid (m : ObjMgrModule) (uid : UInt64) : Int :=
  (m.uidToPlayerIdxMap.lookup uid).getD 0

/-- `ObjMgrModule::BindUidToPlayerIdx`: `insert` does not replace an entry. -/
def bindUidToPlayerIdx (m : ObjMgrModule) (uid : UInt64) (playerIdx : Int) : ObjMgrModule :=
  match m.uidToPlayerIdxMap.lookup uid with
  | some _ => m
  | none => { m with uidToPlayerIdxMap := m.uidToPlayerIdxMap.insert uid playerIdx }

/-- `ObjMgrModule::EraseUidToPlayerIdx`. -/
def eraseUidToPlayerIdx (m : ObjMgrModule) (uid : UInt64) (playerIdx : Int) : ObjMgrModule :=
  match m.uidToPlayerIdxMap.lookup uid with
  | some idx =>
      if idx = playerIdx then { m with uidToPlayerIdxMap := m.uidToPlayerIdxMap.erase uid } else m
  | none => m

/-! ## Cities -/

/-- `ObjMgrModule::GetCity`. -/
def getCity (m : ObjMgrModule) (cityIdx : Int) : Option Nat :=
  if cityIdx ≤ 0 then none else m.cityPool.find cityIdx

/-- `ObjMgrModule::DelCity`. -/
def delCity (m : ObjMgrModule) (cityIdx : Int) : Result ObjMgrModule :=
  match m.getCity cityIdx with
  | none => .ok m
  | some city => do
      let cityPool ← m.cityPool.release city
      .ok { m with cityPool := cityPool }

/-! ## Players -/

/-- `ObjMgrModule::AddPlayer`; `init` is called before the pointer is tested. -/
def addPlayer (m : ObjMgrModule) : Result (Int × ObjMgrModule) := do
  match ← m.playerPool.alloc with
  | (none, _) => .error .badPointer
  | (some player, playerPool) => do
      let playerPool := playerPool.modify player (fun _ => Player.init)
      let playerIdx ← playerPool.getPos player
      .ok (playerIdx, { m with playerPool := playerPool })

/-- `ObjMgrModule::GetPlayer`. -/
def getPlayer (m : ObjMgrModule) (playerIdx : Int) : Option Nat :=
  if playerIdx ≤ 0 then none else m.playerPool.find playerIdx

/-- `ObjMgrModule::GetPlayerIdx`. -/
def getPlayerIdx (m : ObjMgrModule) (player : Nat) : Result Int := m.playerPool.getPos player

/-- The slots `1 ≤ i < MAX_CITY_NUM_PER_PLAYER` that the loops over `city_list_` visit. -/
def citySlots : List Nat := List.range' 1 (maxCityNumPerPlayer - 1)

/-- One pass of the loop of `DelPlayer` over the cities of the player. -/
def delSlot (player : Nat) (i : Nat) (m : ObjMgrModule) : Result ObjMgrModule :=
  let cityIdx := (m.playerPool.mem player).cityList i
  if cityIdx ≠ 0 then m.delCity cityIdx else .ok m

/-- The loop of `DelPlayer` over the cities of the player. -/
def delCities (player : Nat) : List Nat → ObjMgrModule → Result ObjMgrModule
  | [], m => .ok m
  | i :: slots, m => do
      let m ← delSlot player i m
      delCities player slots m

/-- The cities of a player that is deleted. -/
def delAllCities (player : Nat) (m : ObjMgrModule) : Result ObjMgrModule :=
  if (m.playerPool.mem player).cityList 0 > 0 then delCities player citySlots m else .ok m

/-- `ObjMgrModule::DelPlayer`. -/
def delPlayer (m : ObjMgrModule) (playerIdx : Int) : Result ObjMgrModule :=
  match m.getPlayer playerIdx with
  | none => .ok m
  | some player => do
      let uid := (m.playerPool.mem player).uid
      let playerIdx ← m.getPlayerIdx player
      let m := m.eraseUidToPlayerIdx uid playerIdx
      let m ← delAllCities player m
      let playerPool ← m.playerPool.release player
      .ok { m with playerPool := playerPool }

/-- `ObjMgrModule::AddCity`; `init` is called before the pointer is tested. -/
def addCity (m : ObjMgrModule) (playerIdx : Int) : Result (Int × ObjMgrModule) :=
  match m.getPlayer playerIdx with
  | none => .ok (-1, m)
  | some player =>
      let cityList := (m.playerPool.mem player).cityList
      if cityList 0 ≥ maxCityNumPerPlayer then .ok (-2, m)
      else
        match citySlots.find? (fun i => cityList i = 0) with
        | none => .ok (-4, m)
        | some i => do
            match ← m.cityPool.alloc with
            | (none, _) => .error .badPointer
            | (some city, cityPool) => do
                let cityPool := cityPool.modify city (fun _ => City.init)
                let cityIdx ← cityPool.getPos city
                let m := { m with cityPool := cityPool }
                let m := m.modifyPlayer player (fun p =>
                  let cityList := Function.update p.cityList 0 (p.cityList 0 + 1)
                  { p with cityList := Function.update cityList i cityIdx })
                .ok (cityIdx, m.modifyCity city (fun c => { c with playerIdx := playerIdx }))

/-! ## The player pool under the operations -/

/-- The players in use. -/
abbrev Live (m : ObjMgrModule) (k : Nat) : Prop := m.playerPool.Allocated k

/-- The player at a unit. -/
abbrev player (m : ObjMgrModule) (k : Nat) : Player := m.playerPool.mem k

/-- What the start of a connection does to the objects: a new player has the first free
unit. -/
structure PlayerAdded (m : ObjMgrModule) (k : Nat) (connFd : Int) (m' : ObjMgrModule) :
    Prop where
  head : m.playerPool.freeMemPos = k
  fresh : ¬ m.Live k
  ok : m'.playerPool.Ok
  live : ∀ j, m'.Live j ↔ m.Live j ∨ j = k
  new : m'.player k = { Player.init with connFd := connFd }
  others : ∀ j, j ≠ k → m'.player j = m.player j
  uidToPlayerIdxMap : m'.uidToPlayerIdxMap = m.uidToPlayerIdxMap
  cityPool : m'.cityPool = m.cityPool

section
variable {m m' : ObjMgrModule} {k j : Nat} {playerIdx cityIdx : Int} {uid : UInt64}

theorem modifyPlayer_self {f : Player → Player} :
    (m.modifyPlayer k f).player k = f (m.player k) := ShmPool.modify_mem_self

theorem modifyPlayer_of_ne {f : Player → Player} (h : j ≠ k) :
    (m.modifyPlayer k f).player j = m.player j := ShmPool.modify_mem_of_ne h

theorem getPlayer_eq_some : m.getPlayer playerIdx = some k ↔ playerIdx = k ∧ m.Live k := by
  unfold getPlayer
  constructor
  · intro h
    split at h
    · cases h
    · exact ShmPool.find_eq_some.mp h
  · rintro ⟨rfl, h⟩
    have := h.1
    rw [if_neg (by omega)]
    exact ShmPool.find_of_allocated h

theorem getPlayer_eq_none : m.getPlayer playerIdx = none ↔ ∀ k, m.Live k → playerIdx ≠ k := by
  constructor
  · rintro h k hk rfl
    rw [getPlayer_eq_some.mpr ⟨rfl, hk⟩] at h
    cases h
  · intro h
    cases hp : m.getPlayer playerIdx with
    | none => rfl
    | some k =>
        obtain ⟨e, hk⟩ := getPlayer_eq_some.mp hp
        exact absurd e (h k hk)

theorem getPlayerIdx_eq (h : m.Live k) : m.getPlayerIdx k = .ok (k : Int) :=
  ShmPool.getPos_of_allocated h

theorem getCity_of_allocated {city : Nat} (h : m.cityPool.Allocated city) :
    m.getCity city = some city := by
  have := h.1
  unfold getCity
  rw [if_neg (by omega)]
  exact ShmPool.find_of_allocated h

/-- Nothing but a player's own fields is written: the pool has the same units in use, and
the fds of their connections are the same. -/
structure SamePlayers (m m' : ObjMgrModule) : Prop where
  pool : m.playerPool.Ok → m'.playerPool.Ok
  live : ∀ k, m'.Live k ↔ m.Live k
  connFd : ∀ k, (m'.player k).connFd = (m.player k).connFd
  head : m'.playerPool.freeMemPos = m.playerPool.freeMemPos

theorem SamePlayers.refl (m : ObjMgrModule) : SamePlayers m m :=
  ⟨fun h => h, fun _ => Iff.rfl, fun _ => rfl, rfl⟩

theorem SamePlayers.of_pool (h : m'.playerPool = m.playerPool) : SamePlayers m m' := by
  refine ⟨fun hp => h ▸ hp, fun k => ?_, fun k => ?_, ?_⟩
  · unfold Live
    rw [h]
  · unfold player
    rw [h]
  · rw [h]

theorem SamePlayers.trans {m₁ m₂ m₃ : ObjMgrModule} (h : SamePlayers m₁ m₂)
    (h' : SamePlayers m₂ m₃) : SamePlayers m₁ m₃ :=
  ⟨fun hp => h'.pool (h.pool hp), fun k => (h'.live k).trans (h.live k),
    fun k => (h'.connFd k).trans (h.connFd k), h'.head.trans h.head⟩

theorem SamePlayers.of_modify {f : Player → Player}
    (h : m'.playerPool = m.playerPool.modify k f) (hf : ∀ p, (f p).connFd = p.connFd) :
    SamePlayers m m' := by
  refine ⟨fun hm => ?_, fun j => ?_, fun j => ?_, by rw [h]; rfl⟩
  · rw [h]
    exact hm.modify
  · show m'.playerPool.Allocated j ↔ _
    rw [h]
    rfl
  · show (m'.playerPool.mem j).connFd = _
    rw [h]
    by_cases hj : j = k
    · subst hj
      rw [ShmPool.modify_mem_self, hf]
    · rw [ShmPool.modify_mem_of_ne hj]

theorem bindUidToPlayerIdx_pool : (m.bindUidToPlayerIdx uid playerIdx).playerPool = m.playerPool := by
  unfold bindUidToPlayerIdx
  split
  · rfl
  · rfl

theorem bindUidToPlayerIdx_congr (h : m'.uidToPlayerIdxMap = m.uidToPlayerIdxMap) :
    (m'.bindUidToPlayerIdx uid playerIdx).uidToPlayerIdxMap =
      (m.bindUidToPlayerIdx uid playerIdx).uidToPlayerIdxMap := by
  unfold bindUidToPlayerIdx
  rw [h]
  split
  · exact h
  · rfl

theorem bindUidToPlayerIdx_lookup (v : UInt64) :
    (m.bindUidToPlayerIdx uid playerIdx).uidToPlayerIdxMap.lookup v =
      if v = uid then some ((m.uidToPlayerIdxMap.lookup uid).getD playerIdx)
      else m.uidToPlayerIdxMap.lookup v := by
  unfold bindUidToPlayerIdx
  by_cases hv : v = uid
  · subst hv
    rw [if_pos rfl]
    cases hl : m.uidToPlayerIdxMap.lookup v with
    | none => exact Finmap.lookup_insert _
    | some i => exact hl
  · rw [if_neg hv]
    split
    · rfl
    · exact Finmap.lookup_insert_of_ne _ hv

theorem bindUidToPlayerIdx_cityPool :
    (m.bindUidToPlayerIdx uid playerIdx).cityPool = m.cityPool := by
  unfold bindUidToPlayerIdx
  split
  · rfl
  · rfl

theorem eraseUidToPlayerIdx_pool :
    (m.eraseUidToPlayerIdx uid playerIdx).playerPool = m.playerPool := by
  unfold eraseUidToPlayerIdx
  split
  · split
    · rfl
    · rfl
  · rfl

theorem eraseUidToPlayerIdx_lookup {v : UInt64} {i : Int}
    (h : (m.eraseUidToPlayerIdx uid playerIdx).uidToPlayerIdxMap.lookup v = some i) :
    m.uidToPlayerIdxMap.lookup v = some i := by
  unfold eraseUidToPlayerIdx at h
  split at h
  · split at h
    · by_cases hv : v = uid
      · subst hv
        rw [Finmap.lookup_erase] at h
        cases h
      · rwa [Finmap.lookup_erase_ne hv] at h
    · exact h
  · exact h

theorem eraseUidToPlayerIdx_lookup_of_ne {v : UInt64} {i : Int}
    (h : m.uidToPlayerIdxMap.lookup v = some i) (hne : i ≠ playerIdx) :
    (m.eraseUidToPlayerIdx uid playerIdx).uidToPlayerIdxMap.lookup v = some i := by
  unfold eraseUidToPlayerIdx
  split
  · next idx hidx =>
    split
    · next heq =>
      have hv : v ≠ uid := by
        rintro rfl
        rw [h] at hidx
        cases hidx
        exact hne heq
      rw [Finmap.lookup_erase_ne hv]
      exact h
    · exact h
  · exact h

theorem eraseUidToPlayerIdx_cityPool :
    (m.eraseUidToPlayerIdx uid playerIdx).cityPool = m.cityPool := by
  unfold eraseUidToPlayerIdx
  split
  · split
    · rfl
    · rfl
  · rfl

theorem delCity_pool (h : m.delCity cityIdx = .ok m') : m'.playerPool = m.playerPool := by
  unfold delCity at h
  split at h
  · cases h
    rfl
  · obtain ⟨_, -, h⟩ := bind_eq_ok.mp h
    cases h
    rfl

theorem delCities_pool : ∀ (slots : List Nat) {m m' : ObjMgrModule},
    delCities k slots m = .ok m' → m'.playerPool = m.playerPool
  | [], _, _, h => by cases h; rfl
  | i :: slots, m, m', h => by
      obtain ⟨m₁, h₁, h⟩ := bind_eq_ok.mp h
      rw [delCities_pool slots h]
      unfold delSlot at h₁
      dsimp only at h₁
      split at h₁
      · exact delCity_pool h₁
      · cases h₁
        rfl

theorem delCities_map : ∀ (slots : List Nat) {m m' : ObjMgrModule},
    delCities k slots m = .ok m' → m'.uidToPlayerIdxMap = m.uidToPlayerIdxMap
  | [], _, _, h => by cases h; rfl
  | i :: slots, m, m', h => by
      obtain ⟨m₁, h₁, h⟩ := bind_eq_ok.mp h
      rw [delCities_map slots h]
      simp only [delSlot] at h₁
      split at h₁
      · simp only [delCity] at h₁
        split at h₁
        · cases h₁
          rfl
        · obtain ⟨_, -, h₁⟩ := bind_eq_ok.mp h₁
          cases h₁
          rfl
      · cases h₁
        rfl

theorem addCity_samePlayers (h : m.addCity playerIdx = .ok (cityIdx, m')) : SamePlayers m m' := by
  unfold addCity at h
  split at h
  · cases h
    exact .refl m
  · dsimp only at h
    split at h
    · cases h
      exact .refl m
    · split at h
      · cases h
        exact .refl m
      · next player _ _ _ i _ =>
        obtain ⟨⟨c, cityPool⟩, -, h⟩ := bind_eq_ok.mp h
        cases c with
        | none => cases h
        | some city =>
            dsimp only at h
            obtain ⟨idx, -, h⟩ := bind_eq_ok.mp h
            cases h
            let f : Player → Player := fun p =>
              let cityList := Function.update p.cityList 0 (p.cityList 0 + 1)
              { p with cityList := Function.update cityList i cityIdx }
            exact SamePlayers.of_modify (k := player) (f := f) rfl (fun _ => rfl)

/-- **AddPlayer** takes the first free unit; a full pool ends the process. -/
theorem addPlayer_spec (hm : m.playerPool.Ok) (h : m.addPlayer = .ok (playerIdx, m')) :
    ∃ k : Nat, playerIdx = k ∧ m.playerPool.freeMemPos = k ∧ ¬ m.Live k ∧ m'.playerPool.Ok ∧
      (∀ j, m'.Live j ↔ m.Live j ∨ j = k) ∧ m'.player k = Player.init ∧
      (∀ j, j ≠ k → m'.player j = m.player j) ∧ m'.uidToPlayerIdxMap = m.uidToPlayerIdxMap ∧
      m'.cityPool = m.cityPool := by
  unfold addPlayer at h
  obtain ⟨⟨p, pool⟩, halloc, h⟩ := bind_eq_ok.mp h
  by_cases hv : 0 < m.playerPool.validUnitCount
  · obtain ⟨k, s', hsome, hg⟩ := ShmPool.alloc_some hm hv
    rw [hsome] at halloc
    cases halloc
    have hk : (pool.modify k (fun _ => Player.init)).Allocated k := (hg.allocated k).mpr (Or.inr rfl)
    dsimp only at h
    obtain ⟨idx, hpos, h⟩ := bind_eq_ok.mp h
    rw [ShmPool.getPos_of_allocated hk] at hpos
    cases hpos
    cases h
    refine ⟨k, rfl, hg.head, hg.fresh, ?_, hg.allocated, ?_, fun j hj => ?_, rfl, rfl⟩
    · show (pool.modify k (fun _ => Player.init)).Ok
      exact hg.ok.modify
    · show (pool.modify k (fun _ => Player.init)).mem k = Player.init
      exact ShmPool.modify_mem_self
    show (pool.modify k (fun _ => Player.init)).mem j = m.playerPool.mem j
    rw [ShmPool.modify_mem_of_ne hj, hg.mem]
  · rw [ShmPool.alloc_none (Nat.eq_zero_of_not_pos hv)] at halloc
    cases halloc
    cases h

/-- **DelPlayer** frees the player of the index, if there is one. -/
theorem delPlayer_spec (hm : m.playerPool.Ok) (h : m.delPlayer playerIdx = .ok m') :
    m'.playerPool.Ok ∧ (∀ j, m'.Live j ↔ m.Live j ∧ playerIdx ≠ j) ∧
      m'.playerPool.mem = m.playerPool.mem := by
  unfold delPlayer at h
  cases hp : m.getPlayer playerIdx with
  | none =>
      rw [hp] at h
      cases h
      have hnone := getPlayer_eq_none.mp hp
      exact ⟨hm, fun j => ⟨fun hj => ⟨hj, hnone j hj⟩, fun hj => hj.1⟩, rfl⟩
  | some k =>
      obtain ⟨rfl, hk⟩ := getPlayer_eq_some.mp hp
      simp only [hp] at h
      obtain ⟨idx, -, h⟩ := bind_eq_ok.mp h
      obtain ⟨m₁, hcities, h⟩ := bind_eq_ok.mp h
      obtain ⟨pool, hrel, h⟩ := bind_eq_ok.mp h
      cases h
      have hpool : m₁.playerPool = m.playerPool := by
        unfold delAllCities at hcities
        split at hcities
        · rw [delCities_pool _ hcities, eraseUidToPlayerIdx_pool]
        · cases hcities
          exact eraseUidToPlayerIdx_pool
      rw [hpool] at hrel
      obtain ⟨s', hs', hs⟩ := ShmPool.release_spec hm hk
      rw [hrel] at hs'
      cases hs'
      refine ⟨hs.ok, fun j => ?_, hs.mem⟩
      rw [show ObjMgrModule.Live _ j ↔ pool.Allocated j from Iff.rfl, hs.allocated j]
      refine and_congr_right (fun _ => ?_)
      rw [ne_eq, ne_eq, Int.natCast_inj, eq_comm]

/-- **DelPlayer** erases the entry of the uid that the player has, if it is its own. -/
theorem delPlayer_map (h : m.delPlayer playerIdx = .ok m') (hk : m.getPlayer playerIdx = some k) :
    m'.uidToPlayerIdxMap = (m.eraseUidToPlayerIdx (m.player k).uid k).uidToPlayerIdxMap := by
  have hlive := (getPlayer_eq_some.mp hk).2
  simp only [delPlayer, hk, getPlayerIdx_eq hlive, ok_bind] at h
  obtain ⟨m₁, hcities, h⟩ := bind_eq_ok.mp h
  obtain ⟨pool, -, h⟩ := bind_eq_ok.mp h
  cases h
  show m₁.uidToPlayerIdxMap = _
  simp only [delAllCities] at hcities
  split at hcities
  · exact delCities_map _ hcities
  · cases hcities
    rfl

end

end ObjMgrModule

end PlayFrame
