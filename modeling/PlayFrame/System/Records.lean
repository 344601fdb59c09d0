/-
# `PlayFrame.System.Records` — the record of an account survives its sessions

No message of a client changes the money, the level or the cities of a player, so the record
of an account is a constant: it leaves the table with a login, is held by a player, and comes
back when the connection ends or the next login takes the player for the one of its uid.  Only
the ids of its cities are lost on the way, since a player does not keep them.

`Careful` is what it takes: a player is saved only once it has been logged in, and a record
arrives at a player without cities.  In the runs of gamesvr and datasvr that meet it every
account keeps the record that it had at the start, whatever fails in MySQL, and a new account
keeps that of `DoAccountReg`.
-/
import PlayFrame.System.Accounts
import PlayFrame.GameSvr.SavedData

namespace PlayFrame

open DataSvr (Server Request SgData Sql Flaky Stored Row)
open GameSvr (Enters)

/-! ## The records -/

/-- The record that the account had at the start, or that of a new account, without the ids
of its cities. -/
def original (codec : Codec) (db₀ : SgData) (uid : UInt64) : Database.PlayerData :=
  match db₀.lookup uid with
  | some row => (codec.parsePlayerData row.playerData).withoutIds
  | none => Player.newPlayerData.withoutIds

/-- What a player was last given, without the ids of the cities. -/
def bare (loaded : Nat → Option (UInt64 × Database.PlayerData)) (k : Nat) :
    Option (UInt64 × Database.PlayerData) :=
  (loaded k).map fun given => (given.1, given.2.withoutIds)

/-- A request to save has the record of its account. -/
def SavesOriginals (codec : Codec) (db₀ : SgData) (req : ProtoSs.Msg) : Prop :=
  ∀ save, req.setPlayerDataReq = some save →
    save.playerData = codec.serializePlayerData (original codec db₀ save.uid)

section
variable {codec : Codec} {db₀ : SgData} {req : ProtoSs.Msg} {k : Request} {uid : UInt64}
  {playerData : Bytes}

theorem withoutIds_idem (D : Database.PlayerData) : D.withoutIds.withoutIds = D.withoutIds := by
  unfold Database.PlayerData.withoutIds
  rw [List.map_map]
  rfl

theorem original_withoutIds : (original codec db₀ uid).withoutIds = original codec db₀ uid := by
  unfold original
  cases db₀.lookup uid with
  | none => exact withoutIds_idem _
  | some row => exact withoutIds_idem _

theorem bare_update {loaded : Nat → Option (UInt64 × Database.PlayerData)} {k : Nat}
    {given : Option (UInt64 × Database.PlayerData)} :
    bare (Function.update loaded k given) =
      Function.update (bare loaded) k (given.map fun given => (given.1, given.2.withoutIds)) := by
  funext j
  unfold bare
  by_cases hj : j = k
  · subst hj
    rw [Function.update_self, Function.update_self]
  · rw [Function.update_of_ne hj, Function.update_of_ne hj]

theorem Loaded.bare {k : Nat} {D : Database.PlayerData} {w w' : GameWorld}
    (h : Loaded k uid D w w') : Loaded k uid D.withoutIds w w' := by
  have hpopulations : D.withoutIds.populations = D.populations := List.map_map
  refine { h with cities := fun populations hcities => ?_ }
  rw [hpopulations]
  exact h.cities populations hcities

theorem GameRequest.sql_insert {passwordHash : UInt64} {account : Option Bytes}
    (h : GameRequest codec req) (hcmd : req.head.cmd = k.cmd)
    (hsql : k.sql req = .insert uid passwordHash account playerData) :
    playerData = codec.serializePlayerData Player.newPlayerData := by
  cases k with
  | accountReg =>
      cases h with
      | getPlayerData => cases GameData.cmd_inj (k := .getPlayerData) hcmd
      | setPlayerData => cases GameData.cmd_inj (k := .setPlayerData) hcmd
      | accountReg =>
          cases hsql
          rfl
  | accountVerify | getPlayerData | setPlayerData => cases hsql

theorem GameRequest.sql_update (h : GameRequest codec req) (hcmd : req.head.cmd = k.cmd)
    (hsql : k.sql req = .update uid playerData) :
    req.setPlayerDataReq = some { uid := uid, playerData := playerData } := by
  cases k with
  | setPlayerData =>
      cases h with
      | getPlayerData => cases GameData.cmd_inj (k := .getPlayerData) hcmd
      | accountReg => cases GameData.cmd_inj (k := .accountReg) hcmd
      | setPlayerData =>
          cases hsql
          rfl
  | accountVerify | getPlayerData | accountReg => cases hsql

end

namespace GameData

/-- There is room for one more instance; a connection ends, and a login takes a player for the
one of its uid, only once the player has been logged in; and a record arrives at a player
without cities. -/
def Careful (codec : Codec) (b : Backend) (i : BackendInput) : Prop :=
  b.Roomy i ∧ match i with
    | .connsvr msg _ =>
        (msg.connData.connCmd = .connStop → ∀ k : Nat, msg.connData.playerIdx = k →
          b.game.objMgr.Live k → b.loaded k ≠ none) ∧
        ∀ csMsg, b.game.clientMsg codec msg = some csMsg →
          csMsg.head.cmd = ProtoCs.loginReqFieldNumber →
          ∀ connData m, Enters b.game.objMgr msg connData m →
          ∀ old, LogicLogin.Kicks m csMsg old → b.game.objMgr.Live old ∧ b.loaded old ≠ none
    | .datasvr _ answer _ => ∀ msg, b.game.answerMsg codec answer = some msg →
        msg.head.ret = ProtoSs.retOk → ∀ d,
        b.game.logicModule.store.logicDataMap.lookup (logicIdOfSeq msg.head.seq) = some d →
        d.head.logicType = MsgModule.logicLogin → d.head.step = 2 →
        ∀ k : Nat, d.body.playerIdx = k → (b.game.objMgr.player k).cityList 0 = 0
    | .update _ => True

/-- What a state of such a run satisfies: the players hold what they were given, which are
the records of their accounts, and so are the records that have been sent to be saved. -/
structure KeepsRecords (codec : Codec) (db₀ : SgData) (g : GameData) : Prop where
  owns : OwnData g.front.game.objMgr (bare g.front.loaded)
  loaded : ∀ k uid D, g.front.game.objMgr.Live k → g.front.loaded k = some (uid, D) →
    D.withoutIds = original codec db₀ uid
  requests : ∀ req ∈ g.sent, GameRequest codec req ∧ SavesOriginals codec db₀ req

/-- The records of the start without ids, and that of a new account, are read as they were
written. -/
structure PlainRecords (codec : Codec) (db₀ : SgData) : Prop where
  parses : ∀ uid, codec.parsePlayerData (codec.serializePlayerData (original codec db₀ uid)) =
    original codec db₀ uid
  new : codec.parsePlayerData (codec.serializePlayerData Player.newPlayerData) =
    Player.newPlayerData

section
variable {codec : Codec} {g g' g₀ : GameData} {db₀ : SgData} {size : Nat} {start : Int}
  {i : GameDataInput} {out : GameOut} {uid : UInt64} {playerData : Bytes}

theorem KeepsRecords.original_of_stored (h : g.KeepsRecords codec db₀)
    (hplain : PlainRecords codec db₀) (hstored : Stored g.Asked db₀ uid playerData) :
    (codec.parsePlayerData playerData).withoutIds = original codec db₀ uid := by
  rcases hstored with ⟨old, hold, rfl⟩ | ⟨hnone, passwordHash, account, req, hreq, k, hcmd, hsql⟩ |
      ⟨req, hreq, k, hcmd, hsql⟩
  · unfold original
    rw [hold]
  · rw [(h.requests req hreq).1.sql_insert hcmd hsql, hplain.new]
    unfold original
    rw [hnone]
  · obtain ⟨hgame, hsaves⟩ := h.requests req hreq
    have hdata : playerData = codec.serializePlayerData (original codec db₀ uid) :=
      hsaves _ (hgame.sql_update hcmd hsql)
    rw [hdata, hplain.parses]
    exact original_withoutIds

theorem Step.sent (h : Step codec g i g' out) : g'.sent = g.sent ++ out.toDatasvr := by
  cases h with
  | connsvr | answer | update => rfl
  | datasvr e s' hsend hrun =>
      unfold afterDatasvr
      rw [List.append_nil]
      cases e with
      | send | popFree | query | finish => rfl
      | recv =>
          cases g.data.held with
          | none => rfl
          | some client => rfl

theorem Careful.saves {b b' : Backend} {i' : BackendInput} {req : ProtoSs.Msg}
    (h : Careful codec b i') (hmove : Backend.Moves codec b i' b' out) (hreq : req ∈ out.toDatasvr)
    (hsave : req.setPlayerDataReq ≠ none) : ∃ k : Nat, b.game.objMgr.Live k ∧ b.loaded k ≠ none ∧
      Player.Saves codec b.game.objMgr k req := by
  obtain ⟨msg, ret, k, rfl, ⟨hcmd, hidx, hk, hs⟩ | ⟨csMsg, connData, hmsg, hlogin, henters, hkicks,
    hs⟩⟩ := hmove.saves hreq hsave
  · exact ⟨k, hk, h.2.1 hcmd k hidx hk, hs⟩
  · obtain ⟨hk, hloaded⟩ := h.2.2 csMsg hmsg hlogin connData _ henters k hkicks
    obtain ⟨-, hcity, hframe⟩ := Backend.enters_frame henters
    exact ⟨k, hk, hloaded, hs.congr (hframe k hk).2.symm hcity.symm⟩

theorem live_before {b b' : Backend} {i' : BackendInput} {k : Nat}
    (hmove : Backend.Moves codec b i' b' out)
    (hstart : ∀ msg ret, i' = .connsvr msg ret → msg.connData.connCmd ≠ .connStart)
    (hlive : b'.game.objMgr.Live k) : b.game.objMgr.Live k := by
  rcases hmove.players k with ⟨-, hold⟩ | ⟨msg, ret, hi, hcmd, -⟩
  · exact (hold hlive).1
  · exact absurd hcmd (hstart msg ret hi)

theorem Careful.owns {b b' : Backend} {i' : BackendInput} (h : Careful codec b i')
    (hinv : b.Inv size start) (hmove : Backend.Moves codec b i' b' out)
    (howns : OwnData b.game.objMgr (bare b.loaded)) :
    OwnData b'.game.objMgr (bare b'.loaded) := by
  cases hmove.effect hinv with
  | added msg ret k hi hcmd hadd hloaded huids =>
      rw [hloaded, bare_update]
      exact howns.added hadd
  | kept hobj hloaded huids =>
      rw [hobj, hloaded]
      exact howns
  | deleted msg ret hi hcmd hdel hloaded huids =>
      rw [hloaded]
      exact howns.deleted hinv.pool hdel
  | loggedIn id d msg k hlog =>
      obtain ⟨answer, ret, rfl, hmsg⟩ := hlog.input
      have hfound := hlog.found
      rw [← hlog.logicId] at hfound
      have hnone := h.2 msg hmsg hlog.good d hfound hlog.login hlog.step k hlog.playerIdx
      obtain ⟨w, w', hw, hw', hstep⟩ := hlog.run
      rw [← hw] at howns hnone
      obtain ⟨k', hidx, hk, hloaded⟩ := LogicLogin.onStep2_loaded howns.cityPool hstep hlog.good
      obtain rfl : k = k' := Int.natCast_inj.mp (hlog.playerIdx.symm.trans hidx)
      rw [← hw', hlog.loaded, bare_update]
      exact howns.loggedIn hk hloaded.bare hnone (withoutIds_idem _)

theorem loaded_moves {b b' : Backend} {i' : BackendInput} (hinv : b.Inv size start)
    (hmove : Backend.Moves codec b i' b' out)
    (h : ∀ k uid D, b.game.objMgr.Live k → b.loaded k = some (uid, D) →
      D.withoutIds = original codec db₀ uid)
    (hlogin : ∀ id d msg k, Backend.LoggedIn codec b i' b' out id d msg k →
      (LogicLogin.answerData codec msg).withoutIds = original codec db₀ d.body.uid) :
    ∀ k uid D, b'.game.objMgr.Live k → b'.loaded k = some (uid, D) →
      D.withoutIds = original codec db₀ uid := by
  intro k uid D hlive hk
  cases hmove.effect hinv with
  | added msg ret k' hi hcmd hadd hloaded huids =>
      rw [hloaded, Function.update_apply] at hk
      split_ifs at hk with hkk
      exact h k uid D (((hadd.live k).mp hlive).resolve_right hkk) hk
  | kept hobj hloaded huids =>
      rw [hobj] at hlive
      rw [hloaded] at hk
      exact h k uid D hlive hk
  | deleted msg ret hi hcmd hdel hloaded huids =>
      subst hi
      rw [hloaded] at hk
      refine h k uid D (live_before hmove (fun msg' ret' hi => ?_) hlive) hk
      cases hi
      rw [hcmd]
      decide
  | loggedIn id d msg k' hlog =>
      rw [hlog.loaded, Function.update_apply] at hk
      split_ifs at hk with hkk
      · rw [Option.some.injEq, Prod.mk.injEq] at hk
        obtain ⟨rfl, rfl⟩ := hk
        exact hlogin id d msg k' hlog
      · obtain ⟨answer, ret, rfl, -⟩ := hlog.input
        exact h k uid D (live_before hmove (fun _ _ hi => by cases hi) hlive) hk

theorem KeepsRecords.step (h : g.KeepsRecords codec db₀) (hplain : PlainRecords codec db₀)
    (hstart : g₀.Started size start db₀) (hrun : Run codec (Careful codec) g₀ g)
    (hstep : Step codec g i g' out) (hmeets : Meets codec (Careful codec) g i g' out) :
    g'.KeepsRecords codec db₀ := by
  have hroomy : ∀ b i, Careful codec b i → b.Roomy i := fun _ _ h => h.1
  obtain ⟨hinv, ⟨hsame, rfl⟩ | ⟨i', -, hcareful, hmove, htakes⟩⟩ :=
    front_moves hstart hroomy hrun hstep hmeets
  · refine ⟨?_, ?_, ?_⟩
    · rw [hsame]
      exact h.owns
    · rw [hsame]
      exact h.loaded
    · rw [hstep.sent, List.append_nil]
      exact h.requests
  have hlogin : ∀ id d msg k, Backend.LoggedIn codec g.front i' g'.front out id d msg k →
      (LogicLogin.answerData codec msg).withoutIds = original codec db₀ d.body.uid :=
    fun _ _ _ _ hlog =>
      h.original_of_stored hplain (loggedIn_sound hstart hroomy hrun hinv hlog htakes).2
  refine ⟨hcareful.owns hinv hmove h.owns, loaded_moves hinv hmove h.loaded hlogin,
    fun req hreq => ?_⟩
  rw [hstep.sent] at hreq
  rcases List.mem_append.mp hreq with hreq | hreq
  · exact h.requests req hreq
  · refine ⟨hmove.asks req hreq, fun save hsave => ?_⟩
    obtain ⟨k, hk, hgiven, hsaves⟩ :=
      hcareful.saves hmove hreq (hsave ▸ Option.some_ne_none save)
    obtain ⟨⟨uid, D⟩, hsome⟩ := Option.ne_none_iff_exists'.mp hgiven
    have hholds := h.owns.holds k hk
    unfold bare at hholds
    rw [hsome] at hholds
    obtain ⟨seq, rfl⟩ := hholds.1.saves hsaves
    cases hsave
    show codec.serializePlayerData D.withoutIds.withoutIds = _
    rw [withoutIds_idem, h.loaded k uid D hk hsome]

end

section
open Backend (loginReq firstReq theUid)

end

end GameData

end PlayFrame
