/-
# `PlayFrame.GameSvr.Objects` — the objects under all four operations

`AddPlayer`, `AddCity`, `DelPlayer` and `DelCity`, in any order.  `DelCity` frees the unit of a
city and leaves the slot of its player and the count as they are, so less holds than without
it: the slots are counted, and every city is in a slot of the player whose index it has (`ObjInv`).

The pools are checked too late.  `AddPlayer` and `AddCity` call `init` before they test the
pointer, so a full pool ends the process; and the loop of `AddCity` ends before the slot that its
test of the count leaves (`addPlayer_addCity_iff`).  And the slot that `DelCity` leaves is
followed when the player is deleted, whoever has the city then (`delCity_inconsistent`).
-/
import PlayFrame.GameSvr.Cities

namespace PlayFrame

namespace ObjMgrModule

/-- The states of gamesvr, as far as the objects go, when cities are deleted as well. -/
inductive ObjRun (playerPoolSize cityPoolSize : Nat) (rawPlayer : Nat → Player)
    (rawCity : Nat → City) : ObjMgrModule → Prop
  | init : ObjRun playerPoolSize cityPoolSize rawPlayer rawCity
      (init playerPoolSize cityPoolSize rawPlayer rawCity)
  | addPlayer {m m' : ObjMgrModule} {playerIdx : Int} :
      ObjRun playerPoolSize cityPoolSize rawPlayer rawCity m →
      m.addPlayer = .ok (playerIdx, m') →
      ObjRun playerPoolSize cityPoolSize rawPlayer rawCity m'
  | addCity {m m' : ObjMgrModule} {playerIdx cityIdx : Int} :
      ObjRun playerPoolSize cityPoolSize rawPlayer rawCity m →
      m.addCity playerIdx = .ok (cityIdx, m') →
      ObjRun playerPoolSize cityPoolSize rawPlayer rawCity m'
  | delPlayer {m m' : ObjMgrModule} {playerIdx : Int} :
      ObjRun playerPoolSize cityPoolSize rawPlayer rawCity m →
      m.delPlayer playerIdx = .ok m' →
      ObjRun playerPoolSize cityPoolSize rawPlayer rawCity m'
  | delCity {m m' : ObjMgrModule} {cityIdx : Int} :
      ObjRun playerPoolSize cityPoolSize rawPlayer rawCity m →
      m.delCity cityIdx = .ok m' →
      ObjRun playerPoolSize cityPoolSize rawPlayer rawCity m'
  | writePlayer {m : ObjMgrModule} (k : Nat) (f : Player → Player) :
      ObjRun playerPoolSize cityPoolSize rawPlayer rawCity m →
      (∀ p, (f p).cityList = p.cityList) →
      ObjRun playerPoolSize cityPoolSize rawPlayer rawCity (m.modifyPlayer k f)
  | writeCity {m : ObjMgrModule} (c : Nat) (f : City → City) :
      ObjRun playerPoolSize cityPoolSize rawPlayer rawCity m →
      (∀ city, (f city).playerIdx = city.playerIdx) →
      ObjRun playerPoolSize cityPoolSize rawPlayer rawCity (m.modifyCity c f)
  | writeIndex {m : ObjMgrModule} (map : Finmap (fun _ : UInt64 => Int)) :
      ObjRun playerPoolSize cityPoolSize rawPlayer rawCity m →
      ObjRun playerPoolSize cityPoolSize rawPlayer rawCity { m with uidToPlayerIdxMap := map }

/-- **The slots are counted, and every city is in one.** -/
structure ObjInv (m : ObjMgrModule) : Prop where
  players : m.playerPool.Ok
  cities : m.cityPool.Ok
  count : ∀ k, m.Live k → (m.player k).cityList 0 = (filledSlots (m.player k).cityList).card
  owner : ∀ c, m.cityPool.Allocated c → ∃ k i : Nat, (m.city c).playerIdx = k ∧ m.Slot k i c

section
variable {m m' : ObjMgrModule} {k i c : Nat} {playerIdx cityIdx : Int}

/-! ## One call -/

theorem ObjInv.congr (h : m.ObjInv) (hplayers : m'.playerPool.Ok) (hcities : m'.cityPool.Ok)
    (hlive : ∀ j, m'.Live j ↔ m.Live j)
    (hlist : ∀ j, (m'.player j).cityList = (m.player j).cityList)
    (hused : ∀ c, m'.cityPool.Allocated c → m.cityPool.Allocated c)
    (hidx : ∀ c, (m'.city c).playerIdx = (m.city c).playerIdx) : m'.ObjInv := by
  refine ⟨hplayers, hcities, fun k hk => ?_, fun c hc => ?_⟩
  · rw [hlist]
    exact h.count k ((hlive k).mp hk)
  · obtain ⟨k, i, hk, hs⟩ := h.owner c (hused c hc)
    refine ⟨k, i, (hidx c).trans hk, ?_⟩
    unfold Slot at hs ⊢
    rw [hlive, hlist]
    exact hs

theorem ObjInv.addPlayer (h : m.ObjInv) (hadd : m.addPlayer = .ok (playerIdx, m')) :
    m'.ObjInv := by
  obtain ⟨k, -, -, hfresh, hok, hlive, hnew, hothers, -, hpool⟩ := addPlayer_spec h.players hadd
  have hnone : ∀ i, (m'.player k).cityList i = 0 := by
    intro i
    rw [hnew]
    rfl
  refine ⟨hok, hpool ▸ h.cities, Counted.grown h.count hlive hnone hothers, fun c hc => ?_⟩
  rw [hpool] at hc
  obtain ⟨j, i, hidx, hj, hi, hslot⟩ := h.owner c hc
  have hjk : j ≠ k := by
    rintro rfl
    exact hfresh hj
  refine ⟨j, i, ?_, (hlive j).mpr (Or.inl hj), hi, (hothers j hjk).symm ▸ hslot⟩
  rw [city, hpool]
  exact hidx

theorem ObjInv.addCity (h : m.ObjInv) (hadd : m.addCity playerIdx = .ok (cityIdx, m')) :
    m'.ObjInv := by
  rcases addCity_cases h.cities hadd with ⟨-, rfl⟩ | ⟨k, slot, new, -, -, hc, hidx⟩
  · exact h
  have hsame := addCity_samePlayers hadd
  refine ⟨hsame.pool h.players, hc.cityPool, hc.counted hsame.live h.count, fun c hused => ?_⟩
  rcases (hc.allocated c).mp hused with hold | rfl
  · obtain ⟨j, i, hj, hs⟩ := h.owner c hold
    have hne : c ≠ new := by
      rintro rfl
      exact hc.fresh hold
    refine ⟨j, i, ?_, (hc.slot_iff hsame.live ?_).mpr (Or.inl hs)⟩
    · rw [city, hc.mem c hne]
      exact hj
    · exact Nat.one_le_iff_ne_zero.mp hold.1
  · exact ⟨k, slot, hidx, (hc.slot_iff hsame.live hc.new_ne_zero).mpr (Or.inr ⟨rfl, rfl, rfl⟩)⟩

theorem ObjInv.freed (h : m.ObjInv) (hdel : PlayerFreed m playerIdx m') : m'.ObjInv := by
  refine ⟨hdel.players, hdel.cities, fun k hk => ?_, fun c hc => ?_⟩
  · rw [player, hdel.player]
    exact h.count k ((hdel.live k).mp hk).1
  · obtain ⟨hold, hnone⟩ := (hdel.allocated c).mp hc
    obtain ⟨k, i, hidx, hs⟩ := h.owner c hold
    refine ⟨k, i, ?_, (hdel.live k).mpr ⟨hs.1, fun hk => hnone k i hk hs⟩, hs.2.1, ?_⟩
    · rw [city, hdel.city]
      exact hidx
    · rw [player, hdel.player]
      exact hs.2.2

theorem ObjInv.delCity (h : m.ObjInv) (hdel : m.delCity cityIdx = .ok m') : m'.ObjInv := by
  obtain ⟨m₁, hm₁, hfreed⟩ : ∃ m₁, m.delCity cityIdx = .ok m₁ ∧
      CitiesFreed m (fun c => cityIdx = c) m₁ := delCity_spec h.cities
  rw [hdel] at hm₁
  cases hm₁
  refine h.congr (hfreed.playerPool ▸ h.players) hfreed.ok (fun j => ?_) (fun j => ?_)
    (fun c hc => ((hfreed.allocated c).mp hc).1) (fun c => ?_)
  · rw [Live, hfreed.playerPool]
  · rw [player, hfreed.playerPool]
  · rw [city, hfreed.mem]

/-! ## Every run -/

variable {playerPoolSize cityPoolSize : Nat} {rawPlayer : Nat → Player} {rawCity : Nat → City}

theorem ObjRun.objInv (h : ObjRun playerPoolSize cityPoolSize rawPlayer rawCity m) :
    m.ObjInv := by
  induction h with
  | init =>
      exact ⟨⟨_, ShmPool.init_inv playerPoolSize rawPlayer⟩,
        ⟨_, ShmPool.init_inv cityPoolSize rawCity⟩,
        fun _ hk => absurd hk ShmPool.init_not_allocated,
        fun _ hc => absurd hc ShmPool.init_not_allocated⟩
  | addPlayer _ hadd ih => exact ih.addPlayer hadd
  | addCity _ hadd ih => exact ih.addCity hadd
  | delPlayer _ hdel ih =>
      obtain ⟨m₁, hm₁, hfreed⟩ := delPlayer_freed ih.players ih.cities ih.count _
      rw [hdel] at hm₁
      cases hm₁
      exact ih.freed hfreed
  | delCity _ hdel ih => exact ih.delCity hdel
  | writePlayer k f _ hf ih =>
      exact ih.congr ih.players.modify ih.cities (fun _ => Iff.rfl) (modifyPlayer_cityList hf)
        (fun _ hc => hc) (fun _ => rfl)
  | writeCity c f _ hf ih =>
      exact ih.congr ih.players ih.cities.modify (fun _ => Iff.rfl) (fun _ => rfl)
        (fun _ hc => hc) (modifyCity_playerIdx (hf _))
  | writeIndex map _ ih =>
      exact ih.congr ih.players ih.cities (fun _ => Iff.rfl) (fun _ => rfl) (fun _ hc => hc)
        (fun _ => rfl)

/-! ## When objects are added -/

/-- **`AddPlayer` does what it should**: it returns an index exactly if there is a free unit, and
otherwise -1 with nothing changed. -/
def AddPlayerRight (m : ObjMgrModule) : Prop :=
  ∃ ret m', m.addPlayer = .ok (ret, m') ∧ (0 < ret ↔ 0 < m.playerPool.validUnitCount) ∧
    (¬ 0 < ret → ret = -1 ∧ m' = m)

/-- **`AddCity` does what it should**: it returns an index exactly if there is the player, it has
not all the cities that it may have, and there is a free unit; and otherwise a negative
number with nothing changed. -/
def AddCityRight (m : ObjMgrModule) (playerIdx : Int) : Prop :=
  ∃ ret m', m.addCity playerIdx = .ok (ret, m') ∧
    (0 < ret ↔ (∃ k, m.getPlayer playerIdx = some k ∧
      (m.player k).cityList 0 < maxCityNumPerPlayer) ∧ 0 < m.cityPool.validUnitCount) ∧
    (¬ 0 < ret → ret < 0 ∧ m' = m)

theorem addPlayerRight_iff (hm : m.playerPool.Ok) :
    AddPlayerRight m ↔ 0 < m.playerPool.validUnitCount := by
  constructor
  · rintro ⟨ret, m', hadd, -, -⟩
    by_contra hv
    unfold ObjMgrModule.addPlayer at hadd
    rw [ShmPool.alloc_none (Nat.eq_zero_of_not_pos hv), ok_bind] at hadd
    cases hadd
  · intro hv
    obtain ⟨k, pool, hsome, hg⟩ := ShmPool.alloc_some hm hv
    have hk : (pool.modify k (fun _ => Player.init)).Allocated k := (hg.allocated k).mpr (Or.inr rfl)
    have hpos : (0 : Int) < k := Int.natCast_pos.mpr hg.unit.1
    obtain ⟨m', hadd⟩ : ∃ m', m.addPlayer = .ok ((k : Int), m') := by
      unfold ObjMgrModule.addPlayer
      rw [hsome, ok_bind]
      dsimp only
      rw [ShmPool.getPos_of_allocated hk, ok_bind]
      exact ⟨_, rfl⟩
    exact ⟨k, m', hadd, iff_of_true hpos hv, fun h => absurd hpos h⟩

theorem card_filledSlots_le (cityList : Nat → Int) :
    (filledSlots cityList).card ≤ maxCityNumPerPlayer - 1 := by
  refine (Finset.card_filter_le _ _).trans ?_
  rw [Nat.card_Ico]

theorem find_slot_none_iff {cityList : Nat → Int} :
    citySlots.find? (fun i => cityList i = 0) = none ↔
      (filledSlots cityList).card = maxCityNumPerPlayer - 1 := by
  rw [List.find?_eq_none]
  constructor
  · intro h
    have hall : filledSlots cityList = Finset.Ico 1 maxCityNumPerPlayer := by
      refine Finset.filter_true_of_mem fun i hi hzero => ?_
      exact h i (mem_citySlots.mpr (Finset.mem_Ico.mp hi)) (decide_eq_true hzero)
    rw [hall, Nat.card_Ico]
  · intro h i hi hzero
    have hall : filledSlots cityList = Finset.Ico 1 maxCityNumPerPlayer :=
      Finset.eq_of_subset_of_card_le (Finset.filter_subset _ _) (by rw [h, Nat.card_Ico])
    have hmem : i ∈ filledSlots cityList := by
      rw [hall]
      exact Finset.mem_Ico.mpr (mem_citySlots.mp hi)
    exact (mem_filledSlots.mp hmem).2 (of_decide_eq_true hzero)

theorem addCity_full (hp : m.getPlayer playerIdx = some k)
    (hcount : (m.player k).cityList 0 < maxCityNumPerPlayer)
    (hslot : citySlots.find? (fun i => (m.player k).cityList i = 0) = none) :
    m.addCity playerIdx = .ok (-4, m) := by
  simp only [ObjMgrModule.addCity, hp, ge_iff_le, Int.not_le.mpr hcount, if_false, hslot]

theorem addCity_exhausted (hp : m.getPlayer playerIdx = some k)
    (hcount : (m.player k).cityList 0 < maxCityNumPerPlayer) {slot : Nat}
    (hslot : citySlots.find? (fun i => (m.player k).cityList i = 0) = some slot)
    (hv : m.cityPool.validUnitCount = 0) : m.addCity playerIdx = .error .badPointer := by
  simp only [ObjMgrModule.addCity, hp, ge_iff_le, Int.not_le.mpr hcount, if_false, hslot,
    ShmPool.alloc_none hv, ok_bind]

theorem ObjInv.addCityRight_iff (h : m.ObjInv) (playerIdx : Int) :
    AddCityRight m playerIdx ↔ ∀ k, m.getPlayer playerIdx = some k →
      ((m.player k).cityList 0 = maxCityNumPerPlayer - 1 ↔ m.cityPool.validUnitCount = 0) := by
  have hmax : maxCityNumPerPlayer = 100 := rfl
  cases hp : m.getPlayer playerIdx with
  | none =>
    refine iff_of_true ⟨-1, m, ?_, ?_, fun _ => ⟨by decide, rfl⟩⟩ (fun k hk => nomatch hk)
    · simp only [ObjMgrModule.addCity, hp]
    · refine iff_of_false (by decide) ?_
      rintro ⟨⟨k, hk, -⟩, -⟩
      rw [hp] at hk
      cases hk
  | some k =>
    obtain ⟨rfl, hk⟩ := getPlayer_eq_some.mp hp
    have hcard := h.count k hk
    have hle := card_filledSlots_le (m.player k).cityList
    have hlt : (m.player k).cityList 0 < maxCityNumPerPlayer := by omega
    have honly : (∀ j, some k = some j →
        ((m.player j).cityList 0 = maxCityNumPerPlayer - 1 ↔ m.cityPool.validUnitCount = 0)) ↔
        ((m.player k).cityList 0 = maxCityNumPerPlayer - 1 ↔ m.cityPool.validUnitCount = 0) :=
      ⟨fun hall => hall k rfl, fun hk' j hj => Option.some_inj.mp hj ▸ hk'⟩
    rw [honly]
    cases hslot : citySlots.find? (fun i => (m.player k).cityList i = 0) with
    | none =>
      -- all slots are filled, and the answer is -4 whatever the pool has
      have hfull := find_slot_none_iff.mp hslot
      have hret := addCity_full hp hlt hslot
      constructor
      · rintro ⟨ret, m', hadd, hpos, -⟩
        rw [hret] at hadd
        cases hadd
        refine iff_of_true (by omega) ?_
        by_contra hv
        exact absurd (hpos.mpr ⟨⟨k, hp, hlt⟩, Nat.pos_of_ne_zero hv⟩) (by decide)
      · intro hv
        have hzero := hv.mp (by omega)
        refine ⟨-4, m, hret, iff_of_false (by decide) ?_, fun _ => ⟨by decide, rfl⟩⟩
        rintro ⟨-, hpos⟩
        omega
    | some slot =>
      have hnot : ¬ (filledSlots (m.player k).cityList).card = maxCityNumPerPlayer - 1 := by
        intro hfull
        rw [find_slot_none_iff.mpr hfull] at hslot
        cases hslot
      by_cases hv : m.cityPool.validUnitCount = 0
      · -- the null pointer is used
        refine iff_of_false ?_ (fun hiff => hnot (by have := hiff.mpr hv; omega))
        rintro ⟨ret, m', hadd, -, -⟩
        rw [addCity_exhausted hp hlt hslot hv] at hadd
        cases hadd
      · have hpos := Nat.pos_of_ne_zero hv
        obtain ⟨c, m', hadd, hc⟩ := addCity_ok h.cities hpos hk hlt hslot
        have hcpos : 0 < c := by
          rcases addCity_cases h.cities hadd with ⟨hneg, -⟩ | ⟨j, i, new, -, rfl, hnew, -⟩
          · omega
          · exact Int.natCast_pos.mpr hnew.new_allocated.1
        exact iff_of_true ⟨c, m', hadd, iff_of_true hcpos ⟨⟨k, hp, hlt⟩, hpos⟩,
          fun hneg => absurd hcpos hneg⟩ (iff_of_false (by omega) hv)

/-- **When adding an object succeeds and fails as it should.**  `AddPlayer` needs a free unit.
`AddCity` for a player needs one as long as the player has less than 99 cities, and must not
find one when it has 99. -/
theorem addPlayer_addCity_iff (h : ObjRun playerPoolSize cityPoolSize rawPlayer rawCity m) :
    (AddPlayerRight m ↔ 0 < m.playerPool.validUnitCount) ∧
    ∀ playerIdx, AddCityRight m playerIdx ↔ ∀ k, m.getPlayer playerIdx = some k →
      ((m.player k).cityList 0 = maxCityNumPerPlayer - 1 ↔ m.cityPool.validUnitCount = 0) :=
  ⟨addPlayerRight_iff h.objInv.players, h.objInv.addCityRight_iff⟩

/-! ## When a city is deleted -/

/-- The cities that have the index of a player. -/
def citiesOf (m : ObjMgrModule) (k : Nat) : Finset Nat :=
  (Finset.Icc 1 m.cityPool.totalUnitCount).filter
    (fun c => m.cityPool.Allocated c ∧ (m.city c).playerIdx = k)

/-- Some calls of `AddCity`. -/
def addCities : List Int → ObjMgrModule → Result ObjMgrModule
  | [], m => .ok m
  | playerIdx :: rest, m => do
      let (_, m) ← m.addCity playerIdx
      addCities rest m

/-- **The deletion of a city is consistent**: no slot leads to it, its player counts the cities
that are left, and when this player is deleted, after some calls of `AddCity`, the others
keep their cities. -/
structure DelCityRight (m : ObjMgrModule) (c : Nat) (m' : ObjMgrModule) : Prop where
  slots : ∀ k i, ¬ m'.Slot k i c
  count : ∀ k : Nat, (m.city c).playerIdx = k → (m'.player k).cityList 0 = (citiesOf m' k).card
  others : ∀ (k : Nat) (added : List Int) (m₁ m₂ : ObjMgrModule), (m.city c).playerIdx = k →
    addCities added m' = .ok m₁ → m₁.delPlayer k = .ok m₂ →
    ∀ c', m₁.cityPool.Allocated c' → (m₁.city c').playerIdx ≠ k →
      m₂.cityPool.Allocated c' ∧ m₂.city c' = m₁.city c'

theorem mem_citiesOf :
    c ∈ m.citiesOf k ↔ m.cityPool.Allocated c ∧ (m.city c).playerIdx = k := by
  rw [citiesOf, Finset.mem_filter, Finset.mem_Icc]
  exact ⟨fun h => h.2, fun h => ⟨⟨h.1.1, h.1.2.1⟩, h⟩⟩

theorem addCity_head (hm : m.cityPool.Ok) (h : m.addCity playerIdx = .ok (cityIdx, m'))
    (hpos : 0 < cityIdx) : m.cityPool.freeMemPos = cityIdx := by
  unfold ObjMgrModule.addCity at h
  cases hp : m.getPlayer playerIdx with
  | none =>
      rw [hp] at h
      cases h
      exact absurd hpos (by decide)
  | some player =>
      simp only [hp] at h
      split at h
      · cases h
        exact absurd hpos (by decide)
      split at h
      · cases h
        exact absurd hpos (by decide)
      · obtain ⟨⟨new, pool⟩, halloc, h⟩ := bind_eq_ok.mp h
        cases new with
        | none => cases h
        | some new =>
            have hv : 0 < m.cityPool.validUnitCount := by
              by_contra hv
              rw [ShmPool.alloc_none (Nat.eq_zero_of_not_pos hv)] at halloc
              cases halloc
            obtain ⟨new', pool', hsome, hg⟩ := ShmPool.alloc_some hm hv
            rw [hsome] at halloc
            cases halloc
            have hused : (pool.modify new (fun _ => City.init)).Allocated new :=
              (hg.allocated new).mpr (Or.inr rfl)
            dsimp only at h
            obtain ⟨idx, hidx, h⟩ := bind_eq_ok.mp h
            rw [ShmPool.getPos_of_allocated hused] at hidx
            cases hidx
            cases h
            exact hg.head

/-- What `DelCity` does to a city: its unit is the first free one, and nothing else is
different. -/
theorem delCity_head (hm : m.cityPool.Ok) (hc : m.cityPool.Allocated c) :
    ∃ pool, m.delCity c = .ok { m with cityPool := pool } ∧
      ShmPool.Shrunk m.cityPool pool c := by
  obtain ⟨pool, hrel, hs⟩ := ShmPool.release_spec hm hc
  refine ⟨pool, ?_, hs⟩
  simp only [ObjMgrModule.delCity, getCity_of_allocated hc, hrel, ok_bind]

theorem ObjInv.citiesOf_lt (h : m.ObjInv) (hs : m.Slot k i c) (hc0 : c ≠ 0)
    (hfree : ¬ m.cityPool.Allocated c) :
    ((m.citiesOf k).card : Int) < (m.player k).cityList 0 := by
  obtain ⟨hk, hi, hslot⟩ := hs
  -- every city of the player is in a filled slot other than this one
  have hsub : (m.citiesOf k).card ≤ ((filledSlots (m.player k).cityList).erase i).card := by
    refine Finset.card_le_card_of_surjOn (fun j => ((m.player k).cityList j).toNat) ?_
    intro c' hc'
    obtain ⟨hused, hidx⟩ := mem_citiesOf.mp hc'
    obtain ⟨k', j, hk', hlive, hj, hslot'⟩ := h.owner c' hused
    obtain rfl := Int.natCast_inj.mp (hidx.symm.trans hk')
    have hpos : c' ≠ 0 := Nat.one_le_iff_ne_zero.mp hused.1
    refine ⟨j, Finset.mem_coe.mpr (Finset.mem_erase.mpr ⟨?_, mem_filledSlots.mpr ⟨hj, ?_⟩⟩), ?_⟩
    · rintro rfl
      rw [hslot] at hslot'
      exact hfree (Int.natCast_inj.mp hslot' ▸ hused)
    · rw [hslot']
      exact Int.natCast_ne_zero.mpr hpos
    · show ((m.player k).cityList j).toNat = c'
      rw [hslot', Int.toNat_natCast]
  have hmem : i ∈ filledSlots (m.player k).cityList :=
    mem_filledSlots.mpr ⟨hi, by rw [hslot]; exact Int.natCast_ne_zero.mpr hc0⟩
  have hpos : 0 < (filledSlots (m.player k).cityList).card := Finset.card_pos.mpr ⟨i, hmem⟩
  rw [Finset.card_erase_of_mem hmem] at hsub
  rw [h.count k hk]
  omega

/-- **The unit is used again**: another player with an empty slot gets it, and loses it when the
former owner is deleted. -/
theorem ObjInv.reused (h : m.ObjInv) {pool : ShmPool City} {q : Nat}
    (hs : m.Slot k i c) (hc : c ≠ 0) (hshrunk : ShmPool.Shrunk m.cityPool pool c)
    (hinv : { m with cityPool := pool }.ObjInv) (hq : m.Live q) (hqk : q ≠ k)
    (hroom : (m.player q).cityList 0 < maxCityNumPerPlayer - 1) :
    ∃ m₁ m₂ : ObjMgrModule, { m with cityPool := pool }.addCity q = .ok ((c : Int), m₁) ∧
      m₁.delPlayer k = .ok m₂ ∧ m₁.cityPool.Allocated c ∧ (m₁.city c).playerIdx = q ∧
      ¬ m₂.cityPool.Allocated c ∧ ∃ j, m₂.Slot q j c := by
  have hmax : maxCityNumPerPlayer = 100 := rfl
  have hcard := h.count q hq
  obtain ⟨slot, hslot⟩ : ∃ slot,
      citySlots.find? (fun i => (m.player q).cityList i = 0) = some slot := by
    refine Option.ne_none_iff_exists'.mp fun hnone => ?_
    have := find_slot_none_iff.mp hnone
    omega
  obtain ⟨idx, m₁, hadd, hidx⟩ := addCity_ok (m := { m with cityPool := pool }) hshrunk.ok
    (by show 0 < pool.validUnitCount; rw [hshrunk.valid]; omega) hq
    (by show (m.player q).cityList 0 < _; omega) hslot
  rcases addCity_cases hshrunk.ok hadd with ⟨hneg, -⟩ | ⟨q', slot', new, hq', hnew, hadded, hown⟩
  · omega
  obtain rfl := Int.natCast_inj.mp hq'
  -- it is the unit that has just become free
  have hhead := addCity_head hshrunk.ok hadd
    (by rw [hnew]; exact Int.natCast_pos.mpr hadded.new_allocated.1)
  have hcnew : c = new := by
    rw [show (ObjMgrModule.cityPool { m with cityPool := pool }).freeMemPos = (c : Int) from
      hshrunk.head, hnew] at hhead
    exact Int.natCast_inj.mp hhead
  subst hcnew
  have hinv₁ := hinv.addCity hadd
  have hsame := addCity_samePlayers hadd
  obtain ⟨m₂, hdel, hfreed⟩ := delPlayer_freed hinv₁.players hinv₁.cities hinv₁.count k
  have hslots : ∀ {j l : Nat}, m₁.Slot j l c ↔
      Slot { m with cityPool := pool } j l c ∨ (j = q ∧ l = slot' ∧ c = c) :=
    hadded.slot_iff hsame.live hc
  have hold : m₁.Slot k i c := hslots.mpr (Or.inl hs)
  have hnewSlot : m₁.Slot q slot' c := hslots.mpr (Or.inr ⟨rfl, rfl, rfl⟩)
  refine ⟨m₁, m₂, ?_, hdel, hadded.new_allocated, hown, fun hused => ?_, slot', ?_⟩
  · rw [hadd, hnew]
  · exact ((hfreed.allocated c).mp hused).2 k i rfl hold
  · refine ⟨(hfreed.live q).mpr ⟨hnewSlot.1, fun hkq => hqk (Int.natCast_inj.mp hkq).symm⟩,
      hnewSlot.2.1, ?_⟩
    rw [player, hfreed.player]
    exact hnewSlot.2.2

/-- **DelCity is never consistent.**  In every state of a run, and for every city, the slot of its
player still leads to the city that has been deleted, the player counts more cities than it
has, and any other player that has room gets the unit with its next city, and loses it when the
former owner is deleted. -/
theorem delCity_inconsistent (h : ObjRun playerPoolSize cityPoolSize rawPlayer rawCity m)
    (hc : m.cityPool.Allocated c) :
    ∃ (m' : ObjMgrModule) (k : Nat), m.delCity c = .ok m' ∧ ¬ DelCityRight m c m' ∧
      (m.city c).playerIdx = k ∧
      (∃ i, m'.Slot k i c) ∧ ((m'.citiesOf k).card : Int) < (m'.player k).cityList 0 ∧
      ∀ q : Nat, q ≠ k → m.Live q → (m.player q).cityList 0 < maxCityNumPerPlayer - 1 →
        ∃ m₁ m₂ : ObjMgrModule, m'.addCity q = .ok ((c : Int), m₁) ∧ m₁.delPlayer k = .ok m₂ ∧
          m₁.cityPool.Allocated c ∧ (m₁.city c).playerIdx = q ∧
          ¬ m₂.cityPool.Allocated c ∧ ∃ j, m₂.Slot q j c := by
  have hinv := h.objInv
  have hc0 : c ≠ 0 := Nat.one_le_iff_ne_zero.mp hc.1
  obtain ⟨k, i, hidx, hs⟩ := hinv.owner c hc
  obtain ⟨pool, hdel, hshrunk⟩ := delCity_head hinv.cities hc
  have hinv' := hinv.delCity hdel
  have hs' : Slot { m with cityPool := pool } k i c := hs
  have hfree : ¬ pool.Allocated c := fun hused => ((hshrunk.allocated c).mp hused).2 rfl
  exact ⟨{ m with cityPool := pool }, k, hdel, fun hright => hright.slots k i hs', hidx, ⟨i, hs'⟩,
    hinv'.citiesOf_lt hs' hc0 hfree,
    fun q hqk hq hroom => hinv.reused hs hc0 hshrunk hinv' hq hqk hroom⟩

end

/-! ### A player, and 100 units for cities -/

/-- A new player has no city, and there are free units. -/
theorem addPlayer_addCity_one : ∃ m, ObjRun 2 1 (fun _ => Player.init) (fun _ => City.init) m ∧
    AddPlayerRight m ∧ AddCityRight m 1 := by
  have h := ObjRun.addPlayer (.init : ObjRun 2 1 (fun _ => Player.init) (fun _ => City.init) _) rfl
  refine ⟨_, h, (addPlayer_addCity_iff h).1.mpr (by decide), ((addPlayer_addCity_iff h).2 1).mpr ?_⟩
  intro k hk
  obtain rfl : 1 = k := Option.some_inj.mp (rfl.trans hk)
  exact iff_of_false (by decide) (by decide)

theorem exists_cities (n : Nat) (hn : n ≤ 99) :
    ∃ m, ObjRun 1 100 (fun _ => Player.init) (fun _ => City.init) m ∧ m.Live 1 ∧
      (m.player 1).cityList 0 = n ∧ m.cityPool.validUnitCount = 100 - n := by
  induction n with
  | zero =>
    exact ⟨_, ObjRun.addPlayer .init rfl, ⟨by decide, by decide, rfl⟩, rfl, rfl⟩
  | succ n ih =>
    obtain ⟨m, hrun, hlive, hcount, hvalid⟩ := ih (by omega)
    have hmax : maxCityNumPerPlayer = 100 := rfl
    have hinv := hrun.objInv
    have hcard := hinv.count 1 hlive
    obtain ⟨slot, hslot⟩ : ∃ slot,
        citySlots.find? (fun i => (m.player 1).cityList i = 0) = some slot := by
      refine Option.ne_none_iff_exists'.mp fun hnone => ?_
      have := find_slot_none_iff.mp hnone
      omega
    obtain ⟨c, m', hadd, hc⟩ := addCity_ok hinv.cities (by omega) hlive (by omega) hslot
    rcases addCity_cases hinv.cities hadd with ⟨hneg, -⟩ | ⟨k, i, new, hk, -, hnew, -⟩
    · omega
    obtain rfl : 1 = k := Int.natCast_inj.mp hk
    have hsame := addCity_samePlayers hadd
    refine ⟨m', hrun.addCity hadd, (hsame.live 1).mpr hlive, ?_, ?_⟩
    · rw [hnew.cityList_zero, hcount]
      rfl
    · have := hnew.valid
      omega

/-- **Full pools and full players.**  A full player pool and a full city pool end the process;
and a player with 99 cities gets no other one, though there is a unit. -/
theorem addPlayer_addCity_wrong :
    (∃ m, ObjRun 1 1 (fun _ => Player.init) (fun _ => City.init) m ∧
      m.addPlayer = .error .badPointer ∧ m.addCity 1 = .error .badPointer) ∧
    ∃ m, ObjRun 1 100 (fun _ => Player.init) (fun _ => City.init) m ∧
      (m.player 1).cityList 0 = 99 ∧ m.cityPool.validUnitCount = 1 ∧
      m.addCity 1 = .ok (-4, m) ∧ ¬ AddCityRight m 1 := by
  constructor
  · exact ⟨_, @ObjRun.addCity _ _ _ _ _ _ 1 _ (.addPlayer .init rfl) rfl, rfl, rfl⟩
  · obtain ⟨m, hrun, hlive, hcount, hvalid⟩ := exists_cities 99 (by omega)
    have hmax : maxCityNumPerPlayer = 100 := rfl
    have hp : m.getPlayer 1 = some 1 := getPlayer_eq_some.mpr ⟨rfl, hlive⟩
    have hcard := hrun.objInv.count 1 hlive
    refine ⟨m, hrun, hcount, hvalid, addCity_full hp (by omega)
      (find_slot_none_iff.mpr (by omega)), fun hright => ?_⟩
    have := ((hrun.objInv.addCityRight_iff 1).mp hright 1 hp).mp (by omega)
    omega

/-! ### Two players, and a unit for a city -/

/-- The second player has room for the city of the first. -/
theorem delCity_inconsistent_two :
    ∃ m, ObjRun 2 1 (fun _ => Player.init) (fun _ => City.init) m ∧ m.cityPool.Allocated 1 ∧
      ∃ (m' : ObjMgrModule) (k : Nat), m.delCity (1 : Nat) = .ok m' ∧ ¬ DelCityRight m 1 m' ∧
        (m.city 1).playerIdx = k ∧ ∃ i, m'.Slot k i 1 := by
  have h := @ObjRun.addCity _ _ _ _ _ _ 1 _ (.addPlayer (.addPlayer
    (.init : ObjRun 2 1 (fun _ => Player.init) (fun _ => City.init) _) rfl) rfl) rfl
  obtain ⟨m', k, hdel, hwrong, hidx, hslot, -⟩ :=
    delCity_inconsistent h (c := 1) ⟨by decide, by decide, rfl⟩
  exact ⟨_, h, ⟨by decide, by decide, rfl⟩, m', k, hdel, hwrong, hidx, hslot⟩

/-- **A city is taken away**: the city of the first player is deleted, the second one gets the
unit, and when the first one is deleted the second has lost its city. -/
theorem delCity_takes :
    ∃ m m' m₁ m₂, ObjRun 2 1 (fun _ => Player.init) (fun _ => City.init) m ∧
      m.delCity 1 = .ok m' ∧ (m'.player 1).cityList 1 = 1 ∧ (m'.player 1).cityList 0 = 1 ∧
      ¬ DelCityRight m 1 m' ∧
      m'.addCity 2 = .ok (1, m₁) ∧ m₁.delPlayer 1 = .ok m₂ ∧ (m₂.player 2).cityList 1 = 1 ∧
      m₂.getCity 1 = none := by
  have h := @ObjRun.addCity _ _ _ _ _ _ 1 _ (.addPlayer (.addPlayer
    (.init : ObjRun 2 1 (fun _ => Player.init) (fun _ => City.init) _) rfl) rfl) rfl
  refine ⟨_, _, _, _, h, rfl, rfl, rfl, fun hright => ?_, rfl, rfl, rfl, rfl⟩
  exact hright.slots 1 1 ⟨⟨by decide, by decide, rfl⟩, by decide, rfl⟩

end ObjMgrModule

end PlayFrame
