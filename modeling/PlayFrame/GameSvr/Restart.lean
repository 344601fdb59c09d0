/-
# `PlayFrame.GameSvr.Restart` — gamesvr starts on old segments

`App::AppInit` of `gamesvr/app.cpp` creates the modules one after the other and adds each
to the registry once it is created.  `ObjMgrModule::ModuleInit` attaches the two pools,
which survive the process, and makes the uid index anew from the players it finds there.

For each of them it calls `Player::GetPlayerIdx`, which looks `ObjMgrModule` up in the
registry: there it is not yet.
-/
import PlayFrame.GameSvr.ObjMgr

namespace PlayFrame

namespace ShmPool

variable {α : Type}

/-- `ShmPool::Init`; a segment that exists is taken as it is, if it has as many units.
The other test, of the size of a unit, compares two values of one constant. -/
def attach (unitCount : Nat) (raw : Nat → α) : Option (ShmPool α) → Int × ShmPool α
  | none => (0, init unitCount raw)
  | some s => if s.totalUnitCount ≠ unitCount then (-2, s) else (0, s)

/-- The loop of `ShmPool::TravelPool` over some units. -/
def travel {σ : Type} (s : ShmPool α) (func : Nat → σ → Result σ) : List Nat → σ → Result σ
  | [], arg => .ok arg
  | i :: units, arg =>
      if s.pos i > 0 then do
        let arg ← func i arg
        travel s func units arg
      else travel s func units arg

/-- `ShmPool::TravelPool`. -/
def travelPool {σ : Type} (s : ShmPool α) (func : Nat → σ → Result σ) (arg : σ) : Result σ :=
  travel s func (List.range' 1 s.totalUnitCount) arg

end ShmPool

/-- The modules that `AppInit` creates. -/
inductive ModuleId where
  | config
  | timerMgr
  | msg
  | playerMgr
  | logic
  | coroutine
  deriving DecidableEq, Repr

/-- What `ObjMgrModule` reads of the configuration. -/
structure GameConfig where
  playerPoolSize : Nat
  cityPoolSize : Nat

/-- What the system gives to a process that starts: the segments of the two pools, if
they exist, the memory of new ones, and whether the other modules get what they ask for:
the configuration file, the sockets, the memory of the timers. -/
structure GameSystem where
  players : Option (ShmPool Player)
  cities : Option (ShmPool City)
  rawPlayer : Nat → Player
  rawCity : Nat → City
  provides : ModuleId → Bool

/-- `class App`: the keys of `module_map_`, and the object of `ObjMgrModule`. -/
structure App where
  modules : List ModuleId
  objMgr : Option ObjMgrModule

namespace App

/-- `AppBase::FindModule`. -/
def findModule (app : App) (id : ModuleId) : Result Unit :=
  if id ∈ app.modules then .ok () else .error .checkFailed

/-- `AppBase::AddModule`. -/
def addModule (app : App) (id : ModuleId) : App := { app with modules := id :: app.modules }

/-- `Player::GetPlayerIdx`, which asks the registry for the module. -/
def getPlayerIdx (app : App) (player : Nat) (m : ObjMgrModule) : Result Int := do
  app.findModule .playerMgr
  m.getPlayerIdx player

/-- `ObjMgrModule::RestoreUidToPlayerIdxMap`. -/
def restoreUidToPlayerIdxMap (app : App) (player : Nat) (m : ObjMgrModule) :
    Result ObjMgrModule := do
  let playerIdx ← app.getPlayerIdx player m
  .ok (m.bindUidToPlayerIdx (m.player player).uid playerIdx)

/-- `ObjMgrModule::ModuleInit`. -/
def objMgrInit (config : GameConfig) (sys : GameSystem) (app : App) : Result ObjMgrModule := do
  app.findModule .config
  let (ret, playerPool) := ShmPool.attach config.playerPoolSize sys.rawPlayer sys.players
  if ret ≠ 0 then .error .checkFailed
  else do
    let (ret, cityPool) := ShmPool.attach config.cityPoolSize sys.rawCity sys.cities
    if ret ≠ 0 then .error .checkFailed
    else playerPool.travelPool app.restoreUidToPlayerIdxMap ⟨playerPool, cityPool, ∅⟩

/-- The configuration, which all modules but the first look up. -/
def findConfig (id : ModuleId) (app : App) : Result Unit :=
  if id = .config then .ok () else app.findModule .config

/-- `ModuleInit` of another module, which checks what it gets from the system. -/
def otherInit (sys : GameSystem) (id : ModuleId) (app : App) : Result Unit := do
  app.findConfig id
  if sys.provides id then .ok () else .error .checkFailed

/-- `CreateModule` of another module, and `AddModule`. -/
def createOther (sys : GameSystem) (id : ModuleId) (app : App) : Result App := do
  app.otherInit sys id
  .ok (app.addModule id)

/-- `ObjMgrModule::CreateModule`, and `AddModule`. -/
def createObjMgr (config : GameConfig) (sys : GameSystem) (app : App) : Result App := do
  let m ← app.objMgrInit config sys
  .ok { app.addModule .playerMgr with objMgr := some m }

/-- `App::AppInit`. -/
def appInit (config : GameConfig) (sys : GameSystem) : Result App := do
  let app : App := ⟨[], none⟩
  let app ← app.createOther sys .config
  let app ← app.createOther sys .timerMgr
  let app ← app.createOther sys .msg
  let app ← app.createObjMgr config sys
  let app ← app.createOther sys .logic
  app.createOther sys .coroutine

/-! ## When a start gets through -/

/-- The index holds exactly the uids of the players in use that have one. -/
def Restored (m : ObjMgrModule) : Prop :=
  ∀ (uid : UInt64) (i : Int), m.uidToPlayerIdxMap.lookup uid = some i ↔
    uid ≠ 0 ∧ ∃ k : Nat, i = k ∧ m.Live k ∧ (m.player k).uid = uid

end App

section
variable {α σ : Type} {s : ShmPool α} {func : Nat → σ → Result σ} {arg : σ}

theorem ShmPool.travel_none : ∀ (units : List Nat), (∀ i ∈ units, ¬ s.pos i > 0) →
    s.travel func units arg = .ok arg
  | [], _ => rfl
  | i :: units, h => by
      unfold travel
      rw [if_neg (h i List.mem_cons_self)]
      exact travel_none units (fun j hj => h j (List.mem_cons_of_mem _ hj))

theorem ShmPool.travel_fails {e : Fault} (hfail : ∀ i arg, func i arg = .error e) :
    ∀ (units : List Nat), (∃ i ∈ units, s.pos i > 0) → s.travel func units arg = .error e
  | [], h => by
      obtain ⟨i, hi, -⟩ := h
      exact absurd hi List.not_mem_nil
  | i :: units, h => by
      unfold travel
      by_cases hpos : s.pos i > 0
      · rw [if_pos hpos, hfail]
        rfl
      · rw [if_neg hpos]
        refine travel_fails hfail units ?_
        obtain ⟨j, hj, hjpos⟩ := h
        rcases List.mem_cons.mp hj with rfl | hj
        · exact absurd hjpos hpos
        · exact ⟨j, hj, hjpos⟩

theorem ShmPool.Ok.pos_iff (h : s.Ok) {k : Nat} (hk : k ∈ List.range' 1 s.totalUnitCount) :
    s.pos k > 0 ↔ s.Allocated k := by
  obtain ⟨free, hfree⟩ := h
  obtain ⟨h₁, h₂⟩ := List.mem_range'_1.mp hk
  constructor
  · intro hpos
    refine (hfree.allocated_iff).mpr ⟨⟨h₁, by omega⟩, fun hmem => ?_⟩
    exact absurd hpos (Int.not_lt.mpr (Int.le_of_lt (hfree.free_neg hmem)))
  · rintro ⟨-, -, hpos⟩
    omega

end

namespace App

variable {config : GameConfig} {sys : GameSystem} {players : ShmPool Player}
  {cities : ShmPool City}

theorem createOther_eq {id : ModuleId} {app : App} (hsys : ∀ id, sys.provides id = true)
    (hconfig : id = .config ∨ .config ∈ app.modules) :
    createOther sys id app = .ok (app.addModule id) := by
  have hfind : app.findConfig id = .ok () := by
    unfold findConfig
    split
    · rfl
    · next hid => exact if_pos (hconfig.resolve_left hid)
  simp only [createOther, otherInit, hfind, hsys, ok_bind, if_true]

theorem appInit_eq (hsys : ∀ id, sys.provides id = true) :
    appInit config sys = (do
      let m ← objMgrInit config sys ⟨[.msg, .timerMgr, .config], none⟩
      .ok ⟨[.coroutine, .logic, .playerMgr, .msg, .timerMgr, .config], some m⟩) := by
  have hlast : ∀ (id : ModuleId) (app : App), .config ∈ app.modules →
      createOther sys id app = .ok (app.addModule id) :=
    fun _ _ hconfig => createOther_eq hsys (Or.inr hconfig)
  unfold appInit
  dsimp only
  rw [createOther_eq hsys (Or.inl rfl), ok_bind, hlast .timerMgr _ (by decide), ok_bind,
    hlast .msg _ (by decide), ok_bind]
  show (createObjMgr config sys ⟨[.msg, .timerMgr, .config], none⟩ >>= _) = _
  unfold createObjMgr
  cases objMgrInit config sys ⟨[.msg, .timerMgr, .config], none⟩ with
  | error e => rfl
  | ok m =>
      rw [ok_bind, ok_bind, ok_bind, hlast .logic _ (List.mem_of_elem_eq_true rfl), ok_bind,
        hlast .coroutine _ (List.mem_of_elem_eq_true rfl)]
      rfl

theorem objMgrInit_old {app : App} (hconfig : .config ∈ app.modules)
    (hplayers : sys.players = some players) (hcities : sys.cities = some cities)
    (hsize : players.totalUnitCount = config.playerPoolSize ∧
      cities.totalUnitCount = config.cityPoolSize) :
    objMgrInit config sys app =
      players.travelPool app.restoreUidToPlayerIdxMap ⟨players, cities, ∅⟩ := by
  simp only [objMgrInit, findModule, if_pos hconfig, hplayers, hcities, ShmPool.attach, hsize.1,
    hsize.2, ne_eq, not_true_eq_false, if_false, ok_bind]

/-- **AppInit on the segments of a process that stopped** gets through, with the index of
the players in it and the pools as they were, if and only if no player is in use. -/
theorem appInit_restores_iff (hsys : ∀ id, sys.provides id = true)
    (hplayers : sys.players = some players) (hcities : sys.cities = some cities)
    (hsize : players.totalUnitCount = config.playerPoolSize ∧
      cities.totalUnitCount = config.cityPoolSize) (hok : players.Ok) :
    (∃ app m, appInit config sys = .ok app ∧ app.objMgr = some m ∧ Restored m ∧
        m.playerPool = players ∧ m.cityPool = cities) ↔
      ∀ k, ¬ players.Allocated k := by
  rw [appInit_eq hsys, objMgrInit_old (by decide) hplayers hcities hsize]
  constructor
  · rintro ⟨app, m, hinit, -⟩ k hk
    have hmem : k ∈ List.range' 1 players.totalUnitCount :=
      List.mem_range'_1.mpr ⟨hk.1, by have := hk.2.1; omega⟩
    have hfail : players.travelPool (restoreUidToPlayerIdxMap ⟨[.msg, .timerMgr, .config], none⟩)
        ⟨players, cities, ∅⟩ = .error .checkFailed :=
      ShmPool.travel_fails (fun _ _ => rfl) _ ⟨k, hmem, (hok.pos_iff hmem).mpr hk⟩
    rw [hfail] at hinit
    cases hinit
  · intro hnone
    rw [ShmPool.travelPool, ShmPool.travel_none _
      (fun i hi hpos => hnone i ((hok.pos_iff hi).mp hpos))]
    refine ⟨_, _, rfl, rfl, fun uid i => ?_, rfl, rfl⟩
    rw [Finmap.lookup_empty]
    refine iff_of_false (fun h => nomatch h) ?_
    rintro ⟨-, k, -, hk, -⟩
    exact hnone k hk

/-! ### Two segments -/

/-- A pool with one unit, which a player with this uid uses. -/
def usedPool (uid : UInt64) : ShmPool Player where
  freeMemPos := 2
  validUnitCount := 0
  totalUnitCount := 1
  pos := fun i => if i = 1 then 1 else -((i : Int) + 1)
  mem := fun _ => { Player.init with uid := uid }

/-- A system that has the segment of the players and provides everything else. -/
def oldSystem (players : ShmPool Player) : GameSystem where
  players := some players
  cities := some (ShmPool.init 1 fun _ => City.init)
  rawPlayer := fun _ => Player.init
  rawCity := fun _ => City.init
  provides := fun _ => true

theorem usedPool_inv (uid : UInt64) : (usedPool uid).Inv [] where
  free_list := ⟨.nil _, List.nodup_nil⟩
  free_unit := fun _ h => absurd h List.not_mem_nil
  length_free := rfl
  used := by
    intro k h₁ h₂ _
    obtain rfl : k = 1 := Nat.le_antisymm h₂ h₁
    rfl

theorem appInit_restores_empty :
    (∃ app m, appInit ⟨1, 1⟩ (oldSystem (ShmPool.init 1 fun _ => Player.init)) = .ok app ∧
        app.objMgr = some m ∧ Restored m ∧ m.playerPool = ShmPool.init 1 (fun _ => Player.init) ∧
        m.cityPool = ShmPool.init 1 fun _ => City.init) ↔
      ∀ k, ¬ (ShmPool.init 1 fun _ => Player.init).Allocated k :=
  appInit_restores_iff (fun _ => rfl) rfl rfl ⟨rfl, rfl⟩ ⟨_, ShmPool.init_inv 1 _⟩

theorem usedPool_fails (uid : UInt64) : (usedPool uid).Ok ∧ (usedPool uid).Allocated 1 ∧
    appInit ⟨1, 1⟩ (oldSystem (usedPool uid)) = .error .checkFailed :=
  ⟨⟨[], usedPool_inv uid⟩, ⟨Nat.le_refl 1, Nat.le_refl 1, rfl⟩, rfl⟩

/-- **One player is enough**, not logged in or logged in: `CHECK` ends the new process. -/
theorem appInit_usedPool :
    ((usedPool 0).Ok ∧ (usedPool 0).Allocated 1 ∧
        appInit ⟨1, 1⟩ (oldSystem (usedPool 0)) = .error .checkFailed) ∧
      (usedPool 7).Ok ∧ (usedPool 7).Allocated 1 ∧
        appInit ⟨1, 1⟩ (oldSystem (usedPool 7)) = .error .checkFailed :=
  ⟨usedPool_fails 0, usedPool_fails 7⟩

end App

end PlayFrame
