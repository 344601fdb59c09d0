/-
# `PlayFrame.GameSvr.UidIndex` — the uid index and the player pool

`uid_to_player_idx_map_` finds a player by its uid.  `set_uid` inserts into it without
replacing an entry, and `DelPlayer` erases the entry of the uid that the player has at the
end.  So the map is right as long as a player that has a uid does not get another one, and
no two players have the same.

A uid of 0 is no uid: `Player::init` clears the memory, and the player only counts as one
once its uid is set.
-/
import PlayFrame.GameSvr.Player
import PlayFrame.Lib.Index

namespace PlayFrame

namespace ObjMgrModule

/-- `FindPlayerIdxByUid` finds exactly the players in use, by their uids. -/
def Agrees (m : ObjMgrModule) : Prop :=
  ∀ uid : UInt64, uid ≠ 0 →
    (∀ i : Int, 0 < i → (m.findPlayerIdxByUid uid = i ↔
      ∃ k : Nat, i = k ∧ m.Live k ∧ (m.player k).uid = uid)) ∧
    ((∀ k, m.Live k → (m.player k).uid ≠ uid) → m.findPlayerIdxByUid uid = 0)

/-- The player has no uid, or this one, and no other player has it. -/
def OneUid (m : ObjMgrModule) (player : Nat) (uid : UInt64) : Prop :=
  ((m.player player).uid = 0 ∨ (m.player player).uid = uid) ∧
    ∀ k, m.Live k → k ≠ player → (m.player k).uid ≠ uid

/-- The states that the three operations reach from the state after `ModuleInit`; the
calls of `set_uid`, with a uid that is not 0, meet a condition. -/
inductive UidRun (ok : ObjMgrModule → Nat → UInt64 → Prop) : ObjMgrModule → Prop
  | init (playerPoolSize cityPoolSize : Nat) (rawPlayer : Nat → Player) (rawCity : Nat → City) :
      UidRun ok (init playerPoolSize cityPoolSize rawPlayer rawCity)
  | addPlayer {m m' : ObjMgrModule} {playerIdx : Int} : UidRun ok m →
      m.addPlayer = .ok (playerIdx, m') → UidRun ok m'
  | setUid {w w' : GameWorld} (player : Nat) (uid : UInt64) : UidRun ok w.objMgr →
      w.objMgr.Live player → uid ≠ 0 → ok w.objMgr player uid →
      Player.setUid uid player w = .ok w' → UidRun ok w'.objMgr
  | delPlayer {m m' : ObjMgrModule} (playerIdx : Int) : UidRun ok m →
      m.delPlayer playerIdx = .ok m' → UidRun ok m'

/-! ## Index and uids as two functions -/

/-- The uid of the player at an index, if there is a player and it has one. -/
def uidAt (m : ObjMgrModule) (playerIdx : Int) : Option UInt64 :=
  match m.getPlayer playerIdx with
  | none => none
  | some k => if (m.player k).uid = 0 then none else some (m.player k).uid

/-- The entry of a uid. -/
def uidIndex (m : ObjMgrModule) (uid : UInt64) : Option Int :=
  if uid = 0 then none else m.uidToPlayerIdxMap.lookup uid

section
variable {m m' : ObjMgrModule} {w w' : GameWorld} {k player : Nat} {uid : UInt64}
  {playerIdx : Int}

theorem uidAt_eq_some {i : Int} : m.uidAt i = some uid ↔
    uid ≠ 0 ∧ ∃ k : Nat, i = k ∧ m.Live k ∧ (m.player k).uid = uid := by
  unfold uidAt
  cases hp : m.getPlayer i with
  | none =>
      refine iff_of_false (fun h => nomatch h) ?_
      rintro ⟨-, k, rfl, hk, -⟩
      exact getPlayer_eq_none.mp hp k hk rfl
  | some k =>
      obtain ⟨rfl, hk⟩ := getPlayer_eq_some.mp hp
      dsimp only
      constructor
      · intro h
        split at h
        · cases h
        · next h0 =>
          cases h
          exact ⟨h0, k, rfl, hk, rfl⟩
      · rintro ⟨h0, j, hj, -, hu⟩
        rw [Int.natCast_inj.mp hj, hu, if_neg h0]

theorem uidAt_live (hk : m.Live k) :
    m.uidAt k = if (m.player k).uid = 0 then none else some (m.player k).uid := by
  unfold uidAt
  rw [getPlayer_eq_some.mpr ⟨rfl, hk⟩]

theorem uidAt_congr {i : Int} (h : ∀ k : Nat, i = k → ∀ uid, uid ≠ 0 →
    (m'.Live k ∧ (m'.player k).uid = uid ↔ m.Live k ∧ (m.player k).uid = uid)) :
    m'.uidAt i = m.uidAt i := by
  refine Option.ext (fun uid => ?_)
  rw [uidAt_eq_some, uidAt_eq_some]
  exact and_congr_right (fun h0 => exists_congr (fun k => and_congr_right (fun hi => h k hi uid h0)))

theorem findPlayerIdxByUid_eq (h0 : uid ≠ 0) :
    m.findPlayerIdxByUid uid = (m.uidIndex uid).getD 0 := by
  unfold findPlayerIdxByUid uidIndex
  rw [if_neg h0]

/-- **The map agrees with the players** when it is the inverse of their uids, if all its
entries are indices. -/
theorem agrees_iff (hpos : ∀ uid i, m.uidIndex uid = some i → 0 < i) :
    m.Agrees ↔ Lib.Inverse m.uidIndex m.uidAt := by
  constructor
  · intro h uid i
    by_cases h0 : uid = 0
    · subst h0
      refine iff_of_false (fun e => nomatch e) (fun e => ?_)
      exact (uidAt_eq_some.mp e).1 rfl
    obtain ⟨hfind, hnone⟩ := h uid h0
    rw [findPlayerIdxByUid_eq h0] at hfind hnone
    constructor
    · intro hi
      rw [hi] at hfind
      exact uidAt_eq_some.mpr ⟨h0, (hfind i (hpos uid i hi)).mp rfl⟩
    · intro hi
      obtain ⟨-, k, rfl, hk, hu⟩ := uidAt_eq_some.mp hi
      have hkpos : (0 : Int) < k := by
        have := hk.1
        omega
      have hget := (hfind k hkpos).mpr ⟨k, rfl, hk, hu⟩
      cases hidx : m.uidIndex uid with
      | none =>
          rw [hidx] at hget
          exact absurd hget hkpos.ne
      | some j =>
          rw [hidx] at hget
          exact congrArg some hget
  · intro h uid h0
    rw [findPlayerIdxByUid_eq h0]
    refine ⟨fun i hi => ?_, fun hno => ?_⟩
    · have hiff := h uid i
      rw [uidAt_eq_some, and_iff_right h0] at hiff
      rw [← hiff]
      cases hidx : m.uidIndex uid with
      | none => exact iff_of_false hi.ne (fun e => nomatch e)
      | some j => exact ⟨congrArg some, Option.some.inj⟩
    · cases hidx : m.uidIndex uid with
      | none => rfl
      | some j =>
          obtain ⟨-, k, -, hk, hu⟩ := uidAt_eq_some.mp ((h uid j).mp hidx)
          exact absurd hu (hno k hk)

/-! ## The operations -/

theorem addPlayer_uids (hm : m.playerPool.Ok) (h : m.addPlayer = .ok (playerIdx, m')) :
    m'.uidAt = m.uidAt ∧ m'.uidIndex = m.uidIndex := by
  obtain ⟨k, -, -, hnew, -, hlive, hinit, hold, hmap, -⟩ := addPlayer_spec hm h
  refine ⟨funext (fun i => uidAt_congr (fun j _ uid h0 => ?_)), ?_⟩
  · rw [hlive j]
    by_cases hj : j = k
    · subst hj
      rw [hinit]
      exact iff_of_false (fun e => h0 e.2.symm) (fun e => hnew e.1)
    · rw [hold j hj, or_iff_left hj]
  · unfold uidIndex
    rw [hmap]

theorem setUid_uidAt (hk : w.objMgr.Live player) (h0 : uid ≠ 0)
    (h : Player.setUid uid player w = .ok w') :
    w'.objMgr.uidAt = Function.update w.objMgr.uidAt player (some uid) := by
  have hlive := (Player.setUid_acts hk h).same.live
  have hmem : w'.objMgr.playerPool.mem =
      (w.objMgr.playerPool.modify player fun p => { p with uid := uid }).mem := by
    rw [Player.setUid_objMgr hk h]
    show ((w.objMgr.bindUidToPlayerIdx uid player).playerPool.modify _ _).mem = _
    rw [bindUidToPlayerIdx_pool]
  funext i
  by_cases hi : i = player
  · subst hi
    have huid : (w'.objMgr.player player).uid = uid := by
      unfold ObjMgrModule.player
      rw [hmem, ShmPool.modify_mem_self]
    rw [uidAt_live ((hlive player).mpr hk), huid, if_neg h0, Function.update_self]
  · rw [Function.update_of_ne hi]
    refine uidAt_congr (fun k hik uid' _ => ?_)
    have hne : k ≠ player := by
      rintro rfl
      exact hi hik
    unfold ObjMgrModule.player
    rw [hlive k, hmem, ShmPool.modify_mem_of_ne hne]

theorem setUid_uidIndex (hk : w.objMgr.Live player) (h0 : uid ≠ 0)
    (h : Player.setUid uid player w = .ok w') :
    w'.objMgr.uidIndex = Lib.bind w.objMgr.uidIndex uid player := by
  have hmap : w'.objMgr.uidToPlayerIdxMap =
      (w.objMgr.bindUidToPlayerIdx uid player).uidToPlayerIdxMap := by
    rw [Player.setUid_objMgr hk h]
    rfl
  funext u
  simp only [uidIndex, hmap, Lib.bind, bindUidToPlayerIdx]
  by_cases hu : u = uid
  · subst hu
    rw [if_neg h0, Function.update_self, if_neg h0]
    cases hl : w.objMgr.uidToPlayerIdxMap.lookup u with
    | none => exact Finmap.lookup_insert _
    | some j => exact hl
  · rw [Function.update_of_ne hu]
    cases w.objMgr.uidToPlayerIdxMap.lookup uid with
    | none =>
        simp only [Finmap.lookup_insert_of_ne _ hu]
        rfl
    | some j => rfl

/-- **set_uid** keeps index and uids in agreement exactly if the player had no other uid
and no other player has this one. -/
theorem setUid_inverse_iff (hm : Lib.Inverse w.objMgr.uidIndex w.objMgr.uidAt)
    (hk : w.objMgr.Live player) (h0 : uid ≠ 0) (h : Player.setUid uid player w = .ok w') :
    Lib.Inverse w'.objMgr.uidIndex w'.objMgr.uidAt ↔ w.objMgr.OneUid player uid := by
  rw [setUid_uidAt hk h0 h, setUid_uidIndex hk h0 h, hm.bind_iff]
  refine and_congr ?_ ⟨fun hno k hlive hne hu => ?_, fun hno i hne hu => ?_⟩
  · rw [uidAt_live hk]
    split
    · next he => exact iff_of_true (Or.inl rfl) (Or.inl he)
    · next he => rw [or_iff_right (fun e => nomatch e), or_iff_right he, Option.some_inj]
  · refine hno k (fun e => hne (Int.natCast_inj.mp e)) ?_
    exact uidAt_eq_some.mpr ⟨h0, k, rfl, hlive, hu⟩
  · obtain ⟨-, k, rfl, hlive, hu⟩ := uidAt_eq_some.mp hu
    exact hno k hlive (fun e => hne (congrArg _ e)) hu

theorem delPlayer_uidAt (hm : m.playerPool.Ok) (h : m.delPlayer playerIdx = .ok m') :
    m'.uidAt = Function.update m.uidAt playerIdx none := by
  obtain ⟨-, hlive, hmem⟩ := delPlayer_spec hm h
  funext i
  by_cases hi : i = playerIdx
  · subst hi
    rw [Function.update_self]
    refine Option.eq_none_iff_forall_ne_some.mpr (fun uid e => ?_)
    obtain ⟨-, k, hik, hk, -⟩ := uidAt_eq_some.mp e
    exact ((hlive k).mp hk).2 hik
  · rw [Function.update_of_ne hi]
    refine uidAt_congr (fun k hik uid _ => ?_)
    unfold player
    rw [hlive k, hmem, and_iff_left (fun e => hi (hik.trans e.symm))]

theorem delPlayer_inverse (hm : m.playerPool.Ok) (hinv : Lib.Inverse m.uidIndex m.uidAt)
    (h : m.delPlayer playerIdx = .ok m') : Lib.Inverse m'.uidIndex m'.uidAt := by
  rw [delPlayer_uidAt hm h]
  cases hp : m.getPlayer playerIdx with
  | none =>
      simp only [delPlayer, hp] at h
      cases h
      have hnone : m.uidAt playerIdx = none := by simp only [uidAt, hp]
      rw [← hnone, Function.update_eq_self]
      exact hinv
  | some k =>
      obtain ⟨rfl, hk⟩ := getPlayer_eq_some.mp hp
      have hmap := delPlayer_map h hp
      have hkey := uidAt_live hk
      by_cases h0 : (m.player k).uid = 0
      · rw [if_pos h0] at hkey
        have hindex : m'.uidIndex = m.uidIndex := by
          funext u
          simp only [uidIndex, hmap, h0, eraseUidToPlayerIdx]
          split
          · rfl
          · next hu =>
            split
            · split
              · exact Finmap.lookup_erase_ne hu
              · rfl
            · rfl
        rw [hindex, ← hkey, Function.update_eq_self]
        exact hinv
      · rw [if_neg h0] at hkey
        have hentry : m.uidToPlayerIdxMap.lookup (m.player k).uid = some (k : Int) := by
          have := (hinv _ _).mpr hkey
          simp only [uidIndex, if_neg h0] at this
          exact this
        have hindex : m'.uidIndex = Function.update m.uidIndex (m.player k).uid none := by
          funext u
          simp only [uidIndex, hmap, eraseUidToPlayerIdx, hentry, if_true]
          by_cases hu : u = (m.player k).uid
          · subst hu
            rw [if_neg h0, Function.update_self, Finmap.lookup_erase]
          · rw [Function.update_of_ne hu, Finmap.lookup_erase_ne hu]
            rfl
        rw [hindex]
        exact hinv.erase hkey

/-! ## Runs -/

theorem UidRun.inverse (h : UidRun OneUid m) :
    m.playerPool.Ok ∧ Lib.Inverse m.uidIndex m.uidAt := by
  induction h with
  | init playerPoolSize cityPoolSize rawPlayer rawCity =>
      refine ⟨⟨_, ShmPool.init_inv playerPoolSize rawPlayer⟩, fun uid i => ?_⟩
      refine iff_of_false (fun e => ?_) (fun e => ?_)
      · unfold uidIndex at e
        split at e
        · cases e
        · cases e
      · obtain ⟨-, k, -, hk, -⟩ := uidAt_eq_some.mp e
        exact ShmPool.init_not_allocated hk
  | addPlayer _ h ih =>
      obtain ⟨k, -, -, -, hok, -⟩ := addPlayer_spec ih.1 h
      obtain ⟨huids, hindex⟩ := addPlayer_uids ih.1 h
      rw [huids, hindex]
      exact ⟨hok, ih.2⟩
  | setUid player uid _ hk h0 hone h ih =>
      exact ⟨(Player.setUid_acts hk h).same.pool ih.1, (setUid_inverse_iff ih.2 hk h0 h).mpr hone⟩
  | delPlayer playerIdx _ h ih => exact ⟨(delPlayer_spec ih.1 h).1, delPlayer_inverse ih.1 ih.2 h⟩

theorem Inverse.entry_pos (hm : Lib.Inverse m.uidIndex m.uidAt) {i : Int}
    (h : m.uidIndex uid = some i) : 0 < i := by
  obtain ⟨-, k, rfl, hk, -⟩ := uidAt_eq_some.mp ((hm uid i).mp h)
  have := hk.1
  omega

/-- **The uid index agrees with the pool** in every run whose calls of `set_uid` give each
player one uid of its own, and a call that does not breaks the agreement. -/
theorem uidRun_agrees (h : UidRun OneUid m) : m.Agrees ∧
    ∀ (w w' : GameWorld) (player : Nat) (uid : UInt64), w.objMgr = m → m.Live player → uid ≠ 0 →
      Player.setUid uid player w = .ok w' → (w'.objMgr.Agrees ↔ m.OneUid player uid) := by
  obtain ⟨-, hinv⟩ := h.inverse
  refine ⟨(agrees_iff (fun _ _ => Inverse.entry_pos hinv)).mpr hinv, ?_⟩
  rintro w w' player uid rfl hk h0 hset
  rw [agrees_iff, setUid_inverse_iff hinv hk h0 hset]
  intro u i hi
  rw [setUid_uidIndex hk h0 hset] at hi
  by_cases hu : u = uid
  · subst hu
    simp only [Lib.bind, Function.update_self, Option.some.injEq] at hi
    cases hentry : w.objMgr.uidIndex u with
    | none =>
        rw [hentry] at hi
        rw [← hi]
        have := hk.1
        show (0 : Int) < player
        omega
    | some j =>
        rw [hentry] at hi
        rw [← hi]
        exact Inverse.entry_pos hinv hentry
  · simp only [Lib.bind, Function.update_of_ne hu] at hi
    exact Inverse.entry_pos hinv hi

/-- The objects of a server that has just been started, as a world. -/
def firstWorld : GameWorld where
  objMgr := init 4 4 (fun _ => Player.init) (fun _ => City.init)
  toConnsvr := []
  toDatasvr := []
  uids := []
  zmq := fun _ => true
  rdtsc := 0
  rand := fun _ => 0

/-- A player is added and gets a uid. -/
theorem uidRun_agrees_first : ∃ m m' w', firstWorld.objMgr.addPlayer = .ok (1, m) ∧
    Player.setUid 7 1 { firstWorld with objMgr := m } = .ok w' ∧ w'.objMgr = m' ∧ m'.Agrees := by
  obtain ⟨m, w', hadd, hset, hlive, huid⟩ : ∃ m w', firstWorld.objMgr.addPlayer = .ok (1, m) ∧
      Player.setUid 7 1 { firstWorld with objMgr := m } = .ok w' ∧ m.Live 1 ∧
        (m.player 1).uid = 0 :=
    ⟨_, _, rfl, rfl, ⟨by decide, by decide, by decide⟩, rfl⟩
  have hfirst : UidRun OneUid firstWorld.objMgr := .init 4 4 _ _
  have hone : m.OneUid 1 7 := by
    refine ⟨Or.inl huid, fun k hk hne => ?_⟩
    obtain ⟨j, hj, -, -, -, hlives, -⟩ := addPlayer_spec hfirst.inverse.1 hadd
    rcases (hlives k).mp hk with h | rfl
    · exact absurd h ShmPool.init_not_allocated
    · exact absurd (Int.natCast_inj.mp hj).symm hne
  have hrun := UidRun.setUid 1 7 (hfirst.addPlayer hadd) hlive (by decide) hone hset
  exact ⟨m, _, w', hadd, hset, rfl, (uidRun_agrees hrun).1⟩

/-- The player gets another uid, and is still found by the first one. -/
theorem uidRun_rebound : ∃ m, UidRun (fun _ _ _ => True) m ∧ m.findPlayerIdxByUid 7 = 1 ∧
    (m.player 1).uid = 8 ∧ ¬ m.Agrees := by
  obtain ⟨m, w₁, w₂, hadd, hlive, h₁, hlive₁, h₂, hfind, huid⟩ : ∃ m w₁ w₂,
      firstWorld.objMgr.addPlayer = .ok (1, m) ∧ m.Live 1 ∧
      Player.setUid 7 1 { firstWorld with objMgr := m } = .ok w₁ ∧ w₁.objMgr.Live 1 ∧
      Player.setUid 8 1 w₁ = .ok w₂ ∧ w₂.objMgr.findPlayerIdxByUid 7 = 1 ∧
      (w₂.objMgr.player 1).uid = 8 :=
    ⟨_, _, _, rfl, ⟨by decide, by decide, by decide⟩, rfl, ⟨by decide, by decide, by decide⟩, rfl,
      rfl, rfl⟩
  have hfirst : UidRun (fun _ _ _ => True) firstWorld.objMgr := .init 4 4 _ _
  have hrun₁ := UidRun.setUid 1 7 (hfirst.addPlayer hadd) hlive (by decide) trivial h₁
  refine ⟨w₂.objMgr, hrun₁.setUid 1 8 hlive₁ (by decide) trivial h₂, hfind, huid, fun h => ?_⟩
  obtain ⟨k, hk, -, hu⟩ := ((h 7 (by decide)).1 1 (by decide)).mp hfind
  have hk1 : k = 1 := (Int.natCast_inj.mp hk).symm
  rw [hk1, huid] at hu
  exact absurd hu (by decide)

end

end ObjMgrModule

end PlayFrame
