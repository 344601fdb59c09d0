/-
# `PlayFrame.GameSvr.Player` — what a player sends

`gamesvr/obj_mgr_module/object/player.cpp`, with `SendToConnsvr` and `SendToDatasvr` of
`msg_module/msg_module.{h,cpp}`.  A `Player*` is the number of its pool unit; every method
is given one.

A `GameWorld` is what the logics of gamesvr work on: the objects, and what one step has
sent so far.  `uids` is a log that the source does not have: the calls of `set_uid`, with
the player each was made on.
-/
import PlayFrame.GameSvr.ObjMgr
import PlayFrame.GameSvr.Proto
import PlayFrame.Frame.Utils

namespace PlayFrame

/-- What the logics work on.  `zmq k` says whether the `k`-th of the `zmq_send` calls to
come succeeds; `rdtsc` and `rand` are what the generators draw. -/
structure GameWorld where
  objMgr : ObjMgrModule
  toConnsvr : List ConnMsg
  toDatasvr : List ProtoSs.Msg
  uids : List (Nat × UInt64)
  zmq : Nat → Bool
  rdtsc : UInt64
  rand : Nat → Nat

/-- `PLAYER_DATA_MAX`. -/
def playerDataMax : Nat := 20480

namespace GameWorld

variable (codec : Codec)

/-- The world after a call of `zmq_send`. -/
def nextZmq (w : GameWorld) : GameWorld := { w with zmq := fun k => w.zmq (k + 1) }

/-- `MsgModule::SendToConnsvr`. -/
def sendToConnsvr (msg : ProtoCs.Msg) (connCmd : ConnCmd) (connFd playerIdx : Int)
    (w : GameWorld) : Int × GameWorld :=
  match serializeToArray (codec.serialize .cs msg) pkgBufSize with
  | none => (-1, w)
  | some bytes =>
      if w.zmq 0 then
        (0, { w.nextZmq with
          toConnsvr := w.toConnsvr ++ [⟨⟨connFd, playerIdx, connCmd⟩, bytes⟩] })
      else (-1, w.nextZmq)

/-- `MsgModule::SendToDatasvr`. -/
def sendToDatasvr (msg : ProtoSs.Msg) (w : GameWorld) : Int × GameWorld :=
  match serializeToArray (codec.serialize .ss msg) pkgBufSize with
  | none => (-1, w)
  | some _ =>
      if w.zmq 0 then (0, { w.nextZmq with toDatasvr := w.toDatasvr ++ [msg] })
      else (-2, w.nextZmq)

/-- The player that a pointer leads to. -/
def deref : Option Nat → Result Nat
  | some player => .ok player
  | none => .error .badPointer

end GameWorld

namespace Player

variable (codec : Codec)

/-! ## Data -/

/-- `Player::set_uid`. -/
def setUid (uid : UInt64) (player : Nat) (w : GameWorld) : Result GameWorld := do
  let playerIdx ← w.objMgr.getPlayerIdx player
  let objMgr := w.objMgr.bindUidToPlayerIdx uid playerIdx
  .ok { w with
    objMgr := objMgr.modifyPlayer player (fun p => { p with uid := uid })
    uids := w.uids ++ [(player, uid)] }

/-- `Player::set_password_hash`. -/
def setPasswordHash (passwordHash : UInt64) (player : Nat) (w : GameWorld) : GameWorld :=
  let objMgr := w.objMgr.modifyPlayer player (fun p => { p with passwordHash := passwordHash })
  { w with objMgr := objMgr }

/-- `Player::SetPlayerByDb`. -/
def setPlayerByDb (roleInfo : Database.RoleInfo) (player : Nat) (w : GameWorld) : GameWorld :=
  let f := fun p : Player => { p with money := roleInfo.money, level := roleInfo.level }
  { w with objMgr := w.objMgr.modifyPlayer player f }

/-! ## Requests to datasvr -/

/-- The head of a request. -/
def ssHead (cmd : Int) (seq : UInt64) (playerIdx : Int) : ProtoSs.Head :=
  { cmd := cmd, seq := seq, playerIdx := playerIdx }

/-- The request of `DoUpdatePlayerData`. -/
def setPlayerDataReq (seq : UInt64) (playerIdx : Int) (uid : UInt64)
    (playerData : Bytes) : ProtoSs.Msg where
  head := ssHead ProtoSs.setPlayerDataReqFieldNumber seq playerIdx
  setPlayerDataReq := some { uid := uid, playerData := playerData }

/-- The loop of `DoUpdatePlayerData` over the cities, whose pointers are not tested. -/
def cityInfos (m : ObjMgrModule) (cityList : Nat → Int) :
    List Nat → Result (List Database.CityInfo)
  | [] => .ok []
  | i :: slots =>
      if cityList i ≠ 0 then
        match m.getCity (cityList i) with
        | none => .error .badPointer
        | some city => do
            let infos ← cityInfos m cityList slots
            .ok ({ population := (m.cityPool.mem city).population } :: infos)
      else cityInfos m cityList slots

/-- `Player::DoUpdatePlayerData`. -/
def doUpdatePlayerData (seq : UInt64) (player : Nat) (w : GameWorld) : Result GameWorld := do
  let playerIdx ← w.objMgr.getPlayerIdx player
  let p := w.objMgr.player player
  let cities ← cityInfos w.objMgr p.cityList ObjMgrModule.citySlots
  let playerData : Database.PlayerData :=
    { roleInfo := { money := p.money, level := p.level }, cityList := cities }
  match serializeToArray (codec.serializePlayerData playerData) playerDataMax with
  | none => .ok w
  | some bytes => .ok (w.sendToDatasvr codec
      { head := ssHead ProtoSs.setPlayerDataReqFieldNumber seq playerIdx
        setPlayerDataReq := some { uid := p.uid, playerData := bytes } }).2

/-- The request of `DoGetPlayerData`. -/
def getPlayerDataReq (seq : UInt64) (playerIdx : Int) (uid passwordHash : UInt64) :
    ProtoSs.Msg where
  head := ssHead ProtoSs.getPlayerDataReqFieldNumber seq playerIdx
  getPlayerDataReq := some { uid := uid, passwordHash := passwordHash }

/-- `Player::DoGetPlayerData`. -/
def doGetPlayerData (seq uid passwordHash : UInt64) (player : Nat) (w : GameWorld) :
    Result GameWorld := do
  let playerIdx ← w.objMgr.getPlayerIdx player
  .ok (w.sendToDatasvr codec (getPlayerDataReq seq playerIdx uid passwordHash)).2

/-- The data of a new account. -/
def newPlayerData : Database.PlayerData where
  roleInfo := { money := 1000, level := 1 }
  cityList := [{ id := 1121 }]

/-- `Player::DoAccountReg`. -/
def doAccountReg (seq uid passwordHash : UInt64) (account : Bytes) (player : Nat)
    (w : GameWorld) : Result GameWorld := do
  let playerIdx ← w.objMgr.getPlayerIdx player
  match serializeToArray (codec.serializePlayerData newPlayerData) playerDataMax with
  | none => .ok w
  | some bytes => .ok (w.sendToDatasvr codec
      { head := ssHead ProtoSs.accountRegReqFieldNumber seq playerIdx
        accountRegReq := some
          { uid := uid, passwordHash := passwordHash, account := account, playerData := bytes } }).2

/-! ## Messages to the client -/

/-- `SendToConnsvr` for the player: to the fd of its connection, with its index. -/
def sendCs (connCmd : ConnCmd) (msg : ProtoCs.Msg) (player : Nat) (w : GameWorld) :
    Result GameWorld := do
  let playerIdx ← w.objMgr.getPlayerIdx player
  .ok (w.sendToConnsvr codec msg connCmd (w.objMgr.player player).connFd playerIdx).2

/-- `Player::SendFailedCsRes`: a failed login ends the connection. -/
def sendFailedCsRes (seq : UInt64) (cmd errRet : Int) : Nat → GameWorld → Result GameWorld :=
  sendCs codec (if cmd = ProtoCs.loginResFieldNumber then .connStop else .connStart)
    { head := { cmd := cmd, ret := errRet, seq := seq } }

/-- `Player::SendOkCsQuickRegRes`. -/
def sendOkCsQuickRegRes (seq uid : UInt64) (password : Bytes) :
    Nat → GameWorld → Result GameWorld :=
  sendCs codec .connStart
    { head := { cmd := ProtoCs.quickRegResFieldNumber, ret := 0, seq := seq }
      quickRegRes := some { account := Utils.toString uid, password := password } }

/-- `Player::SendOkCsNormalRegRes`. -/
def sendOkCsNormalRegRes (seq : UInt64) (account password : Bytes) :
    Nat → GameWorld → Result GameWorld :=
  sendCs codec .connStart
    { head := { cmd := ProtoCs.normalRegResFieldNumber, ret := 0, seq := seq }
      normalRegRes := some { account := account, password := password } }

/-- `Player::SendOkCsLoginRes`; the number 1222 is converted to a `bool`. -/
def sendOkCsLoginRes (seq : UInt64) : Nat → GameWorld → Result GameWorld :=
  sendCs codec .connStart
    { head := { cmd := ProtoCs.loginResFieldNumber, ret := 0, seq := seq }
      loginRes := some { numb := true } }

/-- `Player::SendRoleInfoNotify`. -/
def sendRoleInfoNotify (player : Nat) (w : GameWorld) : Result GameWorld :=
  let p := w.objMgr.player player
  sendCs codec .connProc
    { head := { cmd := ProtoCs.roleInfoNtfFieldNumber, ret := 0, seq := 0 }
      roleInfoNtf := some { money := p.money, level := p.level } } player w

/-- `Player::SendServerKickOffNotify`. -/
def sendServerKickOffNotify : Nat → GameWorld → Result GameWorld :=
  sendCs codec .connStop
    { head := { cmd := ProtoCs.serverKickOffNtfFieldNumber, ret := 0, seq := 0 } }

end Player

/-! ## What the methods do to the world -/

open ObjMgrModule (SamePlayers)

/-- A message that a player in use sends to its own connection. -/
def Addressed (m : ObjMgrModule) (msg : ConnMsg) : Prop :=
  ∃ k : Nat, m.Live k ∧ msg.connData.playerIdx = k ∧ msg.connData.connFd = (m.player k).connFd

/-- What the players do while no player comes or goes: they send to their own
connections, they send requests, of which some may get lost, and `set_uid` is called. -/
structure Acts (w w' : GameWorld) (reqs : List ProtoSs.Msg) (uids : List (Nat × UInt64)) :
    Prop where
  same : SamePlayers w.objMgr w'.objMgr
  toConnsvr : ∃ out, w'.toConnsvr = w.toConnsvr ++ out ∧ ∀ msg ∈ out, Addressed w.objMgr msg
  toDatasvr : ∃ sent, w'.toDatasvr = w.toDatasvr ++ sent ∧ sent.Sublist reqs
  uids : w'.uids = w.uids ++ uids

section
variable {codec : Codec} {w w' w₁ w₂ w₃ : GameWorld} {k : Nat} {m m' : ObjMgrModule}
  {msg : ConnMsg}

theorem ObjMgrModule.SamePlayers.addressed (h : SamePlayers m m') (hmsg : Addressed m' msg) :
    Addressed m msg := by
  obtain ⟨k, hk, hidx, hfd⟩ := hmsg
  exact ⟨k, (h.live k).mp hk, hidx, hfd.trans (h.connFd k)⟩

theorem ObjMgrModule.SamePlayers.addressed_right (h : SamePlayers m m') (hmsg : Addressed m msg) :
    Addressed m' msg := by
  obtain ⟨k, hk, hidx, hfd⟩ := hmsg
  exact ⟨k, (h.live k).mpr hk, hidx, hfd.trans (h.connFd k).symm⟩

namespace Acts

theorem refl (w : GameWorld) : Acts w w [] [] where
  same := .refl _
  toConnsvr := ⟨[], (List.append_nil _).symm, fun _ h => absurd h List.not_mem_nil⟩
  toDatasvr := ⟨[], (List.append_nil _).symm, .slnil⟩
  uids := (List.append_nil _).symm

theorem trans {reqs reqs' : List ProtoSs.Msg} {uids uids' : List (Nat × UInt64)}
    (h : Acts w₁ w₂ reqs uids) (h' : Acts w₂ w₃ reqs' uids') :
    Acts w₁ w₃ (reqs ++ reqs') (uids ++ uids') := by
  obtain ⟨out, hout, haddr⟩ := h.toConnsvr
  obtain ⟨out', hout', haddr'⟩ := h'.toConnsvr
  obtain ⟨sent, hsent, hsub⟩ := h.toDatasvr
  obtain ⟨sent', hsent', hsub'⟩ := h'.toDatasvr
  refine ⟨h.same.trans h'.same, ⟨out ++ out', ?_, fun msg hmsg => ?_⟩,
    ⟨sent ++ sent', ?_, hsub.append hsub'⟩, ?_⟩
  · rw [hout', hout, List.append_assoc]
  · rcases List.mem_append.mp hmsg with hmsg | hmsg
    · exact haddr msg hmsg
    · exact h.same.addressed (haddr' msg hmsg)
  · rw [hsent', hsent, List.append_assoc]
  · rw [h'.uids, h.uids, List.append_assoc]

theorem sent {reqs : List ProtoSs.Msg} {uids : List (Nat × UInt64)} (h : Acts w w' reqs uids)
    (hw : w.toConnsvr = []) : ∀ msg ∈ w'.toConnsvr, Addressed w.objMgr msg := by
  obtain ⟨out, hout, haddr⟩ := h.toConnsvr
  rw [hw, List.nil_append] at hout
  rw [hout]
  exact haddr

theorem toDatasvr_eq {uids : List (Nat × UInt64)} (h : Acts w w' [] uids) :
    w'.toDatasvr = w.toDatasvr := by
  obtain ⟨sent, hsent, hsub⟩ := h.toDatasvr
  rw [hsent, List.sublist_nil.mp hsub, List.append_nil]

theorem of_objMgr (h : SamePlayers w.objMgr m) : Acts w { w with objMgr := m } [] [] :=
  { refl w with same := h }

end Acts

namespace Player

/-- The request saves the player: it has its uid, and the record that the player and its
cities hold. -/
def Saves (codec : Codec) (m : ObjMgrModule) (k : Nat) (req : ProtoSs.Msg) : Prop :=
  ∃ seq cities, cityInfos m (m.player k).cityList ObjMgrModule.citySlots = .ok cities ∧
    req = setPlayerDataReq seq k (m.player k).uid (codec.serializePlayerData
      ⟨⟨(m.player k).money, (m.player k).level⟩, cities⟩)

theorem cityInfos_congr {cityList : Nat → Int} (h : m'.cityPool = m.cityPool) :
    ∀ slots, cityInfos m' cityList slots = cityInfos m cityList slots := by
  have hget : ∀ cityIdx, m'.getCity cityIdx = m.getCity cityIdx := by
    intro cityIdx
    unfold ObjMgrModule.getCity
    rw [h]
  intro slots
  induction slots with
  | nil => rfl
  | cons i slots ih => simp only [cityInfos, hget, h, ih]

theorem Saves.congr {req : ProtoSs.Msg} (h : Saves codec m k req) (hplayer : m'.player k = m.player k)
    (hcity : m'.cityPool = m.cityPool) : Saves codec m' k req := by
  obtain ⟨seq, cities, hcities, hreq⟩ := h
  refine ⟨seq, cities, ?_, ?_⟩
  · rw [hplayer, ← hcities]
    exact cityInfos_congr hcity _
  · rw [hplayer]
    exact hreq

/-- The notification that a player is logged in elsewhere, as connsvr gets it. -/
def kickOffNtf (codec : Codec) (m : ObjMgrModule) (k : Nat) : ConnMsg :=
  ⟨⟨(m.player k).connFd, k, .connStop⟩,
    codec.serialize .cs { head := { cmd := ProtoCs.serverKickOffNtfFieldNumber } }⟩

theorem sendToDatasvr_acts (msg : ProtoSs.Msg) (w : GameWorld) :
    Acts w (w.sendToDatasvr codec msg).2 [msg] [] := by
  have hskip : ∀ f, Acts w { w with zmq := f } [msg] [] := fun f =>
    { Acts.refl w with toDatasvr := ⟨[], (List.append_nil _).symm, List.nil_sublist _⟩ }
  unfold GameWorld.sendToDatasvr
  cases serializeToArray (codec.serialize .ss msg) pkgBufSize with
  | none => exact hskip w.zmq
  | some bytes =>
      dsimp only
      split
      · exact { Acts.refl w with toDatasvr := ⟨[msg], rfl, .refl _⟩ }
      · exact hskip _

theorem sendCs_ok {connCmd : ConnCmd} {msg : ProtoCs.Msg} (hk : w.objMgr.Live k) :
    ∃ w', sendCs codec connCmd msg k w = .ok w' := by
  unfold sendCs
  rw [ObjMgrModule.getPlayerIdx_eq hk, ok_bind]
  exact ⟨_, rfl⟩

/-- **A message to the client** goes to the player's own connection. -/
theorem sendCs_acts {connCmd : ConnCmd} {msg : ProtoCs.Msg} (hk : w.objMgr.Live k)
    (h : sendCs codec connCmd msg k w = .ok w') : Acts w w' [] [] := by
  unfold sendCs at h
  rw [ObjMgrModule.getPlayerIdx_eq hk, ok_bind] at h
  cases h
  unfold GameWorld.sendToConnsvr
  cases serializeToArray (codec.serialize .cs msg) pkgBufSize with
  | none => exact .refl w
  | some bytes =>
      dsimp only
      split
      · refine { Acts.refl w with toConnsvr := ⟨_, rfl, fun msg hmsg => ?_⟩ }
        rw [List.mem_singleton.mp hmsg]
        exact ⟨k, hk, rfl, rfl⟩
      · exact { Acts.refl w with }

theorem sendCs_objMgr {connCmd : ConnCmd} {msg : ProtoCs.Msg}
    (h : sendCs codec connCmd msg k w = .ok w') : w'.objMgr = w.objMgr := by
  obtain ⟨playerIdx, -, h⟩ := bind_eq_ok.mp h
  cases h
  unfold GameWorld.sendToConnsvr
  split
  · rfl
  · split
    · rfl
    · rfl

theorem sendCs_sent {connCmd : ConnCmd} {msg : ProtoCs.Msg} (hk : w.objMgr.Live k)
    (h : sendCs codec connCmd msg k w = .ok w') (hzmq : w.zmq 0 = true)
    (hfits : (codec.serialize .cs msg).length ≤ pkgBufSize) :
    ⟨⟨(w.objMgr.player k).connFd, k, connCmd⟩, codec.serialize .cs msg⟩ ∈ w'.toConnsvr := by
  unfold sendCs at h
  rw [ObjMgrModule.getPlayerIdx_eq hk, ok_bind] at h
  cases h
  simp only [GameWorld.sendToConnsvr, serializeToArray, if_pos hfits, if_pos hzmq]
  exact List.mem_append_right _ List.mem_cons_self

theorem sendCs_out {connCmd : ConnCmd} {msg : ProtoCs.Msg} (hk : w.objMgr.Live k)
    (h : sendCs codec connCmd msg k w = .ok w') :
    w'.toConnsvr = w.toConnsvr ∨
      w'.toConnsvr = w.toConnsvr ++
        [⟨⟨(w.objMgr.player k).connFd, k, connCmd⟩, codec.serialize .cs msg⟩] := by
  unfold sendCs at h
  rw [ObjMgrModule.getPlayerIdx_eq hk, ok_bind] at h
  cases h
  unfold GameWorld.sendToConnsvr serializeToArray
  by_cases hfits : (codec.serialize .cs msg).length ≤ pkgBufSize
  · rw [if_pos hfits]
    dsimp only
    split
    · exact Or.inr rfl
    · exact Or.inl rfl
  · exact Or.inl (by simp [hfits])

theorem sendToDatasvr_frame (msg : ProtoSs.Msg) (w : GameWorld) :
    (w.sendToDatasvr codec msg).2.objMgr = w.objMgr ∧
      (w.sendToDatasvr codec msg).2.toConnsvr = w.toConnsvr := by
  unfold GameWorld.sendToDatasvr
  split
  · exact ⟨rfl, rfl⟩
  · split
    · exact ⟨rfl, rfl⟩
    · exact ⟨rfl, rfl⟩

theorem doGetPlayerData_objMgr {seq uid passwordHash : UInt64}
    (h : doGetPlayerData codec seq uid passwordHash k w = .ok w') : w'.objMgr = w.objMgr := by
  obtain ⟨playerIdx, -, h⟩ := bind_eq_ok.mp h
  cases h
  exact (sendToDatasvr_frame _ w).1

theorem doUpdatePlayerData_frame {seq : UInt64} (h : doUpdatePlayerData codec seq k w = .ok w') :
    w'.objMgr = w.objMgr ∧ w'.toConnsvr = w.toConnsvr := by
  obtain ⟨playerIdx, -, h⟩ := bind_eq_ok.mp h
  obtain ⟨cities, -, h⟩ := bind_eq_ok.mp h
  dsimp only at h
  split at h
  · cases h
    exact ⟨rfl, rfl⟩
  · cases h
    exact sendToDatasvr_frame _ w

theorem doAccountReg_objMgr {seq uid passwordHash : UInt64} {account : Bytes}
    (h : doAccountReg codec seq uid passwordHash account k w = .ok w') :
    w'.objMgr = w.objMgr := by
  obtain ⟨playerIdx, -, h⟩ := bind_eq_ok.mp h
  split at h
  · cases h
    rfl
  · cases h
    exact (sendToDatasvr_frame _ w).1

theorem sendRoleInfoNotify_acts (hk : w.objMgr.Live k)
    (h : sendRoleInfoNotify codec k w = .ok w') : Acts w w' [] [] :=
  sendCs_acts hk h

theorem doGetPlayerData_acts {seq uid passwordHash : UInt64} (hk : w.objMgr.Live k)
    (h : doGetPlayerData codec seq uid passwordHash k w = .ok w') :
    Acts w w' [getPlayerDataReq seq k uid passwordHash] [] := by
  unfold doGetPlayerData at h
  rw [ObjMgrModule.getPlayerIdx_eq hk, ok_bind] at h
  cases h
  exact sendToDatasvr_acts _ w

theorem doUpdatePlayerData_acts {seq : UInt64} (hk : w.objMgr.Live k)
    (h : doUpdatePlayerData codec seq k w = .ok w') :
    ∃ req, req.head = ssHead ProtoSs.setPlayerDataReqFieldNumber seq k ∧
      Saves codec w.objMgr k req ∧ Acts w w' [req] [] := by
  unfold doUpdatePlayerData at h
  rw [ObjMgrModule.getPlayerIdx_eq hk, ok_bind] at h
  obtain ⟨cities, hcities, h⟩ := bind_eq_ok.mp h
  refine ⟨_, rfl, ⟨seq, cities, hcities, rfl⟩, ?_⟩
  simp only [serializeToArray] at h
  split at h
  · next hnone =>
    cases h
    exact { Acts.refl w with toDatasvr := ⟨[], (List.append_nil _).symm, List.nil_sublist _⟩ }
  · next bytes hsome =>
    cases h
    split at hsome
    · cases hsome
      exact sendToDatasvr_acts _ w
    · cases hsome

theorem doAccountReg_acts {seq uid passwordHash : UInt64} {account : Bytes}
    (hk : w.objMgr.Live k) (h : doAccountReg codec seq uid passwordHash account k w = .ok w') :
    ∃ req, req.head = ssHead ProtoSs.accountRegReqFieldNumber seq k ∧
      req.setPlayerDataReq = none ∧ Acts w w' [req] [] := by
  unfold doAccountReg at h
  rw [ObjMgrModule.getPlayerIdx_eq hk, ok_bind] at h
  split at h
  · cases h
    exact ⟨{ head := ssHead ProtoSs.accountRegReqFieldNumber seq k }, rfl, rfl,
      { Acts.refl w with toDatasvr := ⟨[], (List.append_nil _).symm, List.nil_sublist _⟩ }⟩
  · cases h
    exact ⟨_, rfl, rfl, sendToDatasvr_acts _ w⟩

theorem modify_acts {f : Player → Player} (hf : ∀ p, (f p).connFd = p.connFd) :
    Acts w { w with objMgr := w.objMgr.modifyPlayer k f } [] [] :=
  .of_objMgr (.of_modify rfl hf)

theorem setPlayerByDb_acts (roleInfo : Database.RoleInfo) (k : Nat) (w : GameWorld) :
    Acts w (setPlayerByDb roleInfo k w) [] [] :=
  modify_acts (f := fun p => { p with money := roleInfo.money, level := roleInfo.level })
    (fun _ => rfl)

theorem setPasswordHash_acts (passwordHash : UInt64) (k : Nat) (w : GameWorld) :
    Acts w (setPasswordHash passwordHash k w) [] [] :=
  modify_acts (f := fun p => { p with passwordHash := passwordHash }) (fun _ => rfl)

theorem setUid_objMgr {uid : UInt64} (hk : w.objMgr.Live k) (h : setUid uid k w = .ok w') :
    w'.objMgr = (w.objMgr.bindUidToPlayerIdx uid k).modifyPlayer k
      (fun p => { p with uid := uid }) := by
  unfold setUid at h
  rw [ObjMgrModule.getPlayerIdx_eq hk, ok_bind] at h
  cases h
  rfl

theorem setUid_data {uid : UInt64} (hk : w.objMgr.Live k) (h : setUid uid k w = .ok w') :
    w'.objMgr.cityPool = w.objMgr.cityPool ∧
      w'.objMgr.player k = { w.objMgr.player k with uid := uid } ∧
      ∀ j, j ≠ k → w'.objMgr.player j = w.objMgr.player j := by
  have hpool : ∀ j, (w.objMgr.bindUidToPlayerIdx uid k).player j = w.objMgr.player j := fun j =>
    congrArg (fun pool => pool.mem j) ObjMgrModule.bindUidToPlayerIdx_pool
  rw [setUid_objMgr hk h]
  refine ⟨ObjMgrModule.bindUidToPlayerIdx_cityPool, ?_, fun j hj => ?_⟩
  · rw [ObjMgrModule.modifyPlayer_self, hpool]
  · rw [ObjMgrModule.modifyPlayer_of_ne hj, hpool]

theorem setUid_toConnsvr {uid : UInt64} (h : setUid uid k w = .ok w') :
    w'.toConnsvr = w.toConnsvr := by
  obtain ⟨playerIdx, -, h⟩ := bind_eq_ok.mp h
  cases h
  rfl

theorem setUid_acts {uid : UInt64} (hk : w.objMgr.Live k) (h : setUid uid k w = .ok w') :
    Acts w w' [] [(k, uid)] := by
  unfold setUid at h
  rw [ObjMgrModule.getPlayerIdx_eq hk, ok_bind] at h
  cases h
  have hbind : SamePlayers w.objMgr (w.objMgr.bindUidToPlayerIdx uid k) :=
    .of_pool ObjMgrModule.bindUidToPlayerIdx_pool
  have hmod : SamePlayers (w.objMgr.bindUidToPlayerIdx uid k)
      ((w.objMgr.bindUidToPlayerIdx uid k).modifyPlayer k fun p => { p with uid := uid }) :=
    .of_modify (k := k) (f := fun p => { p with uid := uid }) rfl (fun _ => rfl)
  exact { Acts.refl w with same := hbind.trans hmod, uids := rfl }

end Player

end

end PlayFrame
