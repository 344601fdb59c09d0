/-
# `PlayFrame.System.Cluster` — the three servers together

connsvr, gamesvr, and datasvr with its threads and its table, joined by their ZeroMQ links.
`System` has the first two and any responses of datasvr, `GameData` has the last two and any
messages of connsvr; here each server is the peer that the other two see, and a step is one of
both models at once.

So all that holds of the runs of a `System` and of a `GameData` holds here, and what they say
of the bytes of a client and of the rows of the table meets: no player gets an account unless
some client has sent its password.
-/
import PlayFrame.System.Accounts
import PlayFrame.System.Traffic
import PlayFrame.GameSvr.Confirmations

namespace PlayFrame

open DataSvr (Server SgData)
open Connection (clientFraming payloadOf)
open ConnStream (payloadsOf)

/-- connsvr and gamesvr, and gamesvr and datasvr, with one gamesvr. -/
structure Cluster where
  net : System
  back : GameData
  same : net.game = back.front.game

/-- What happens next. -/
inductive ClusterInput where
  /-- an event of connsvr's epoller for an fd: readable or writable -/
  | event (fd : Int) (isRead : Bool) (ret : ConnSvr.SysRet)
  /-- connsvr takes a message of gamesvr -/
  | toConn (sendRet : SendRet) (ctl : Bool)
  /-- gamesvr takes a message of connsvr -/
  | toGame (ret : GameRet)
  /-- gamesvr takes a response of datasvr -/
  | answer (ret : GameRet)
  /-- `LogicModule::Update` -/
  | update (now : TimeValue)
  /-- datasvr or one of its threads goes on -/
  | datasvr (e : Server.Event)

namespace Cluster

/-! ## One step -/

section
variable (codec : Codec)

/-- What happens next to connsvr and gamesvr. -/
def netInput (c : Cluster) : ClusterInput → Option Input
  | .event fd isRead ret => some (.event fd isRead ret)
  | .toConn sendRet ctl => some (.toConn sendRet ctl)
  | .toGame ret => some (.toGame ret)
  | .answer ret => c.back.answers.head?.map fun p => .datasvr (codec.serialize .ss p.2) ret
  | .update now => some (.update now)
  | .datasvr _ => none

/-- What happens next to gamesvr and datasvr. -/
def backInput (c : Cluster) : ClusterInput → Option GameDataInput
  | .event _ _ _ => none
  | .toConn _ _ => none
  | .toGame ret => c.net.toGame.head?.map fun p => .connsvr p.1 ret
  | .answer ret => some (.answer ret)
  | .update now => some (.update now)
  | .datasvr e => some (.datasvr e)

/-- connsvr and gamesvr do what happens next to them. -/
def NetStep (s : System) (i : Option Input) (s' : System) : Prop :=
  match i with
  | none => s' = s
  | some i => s.Possible i ∧ s.step codec i = .ok (some s')

/-- And so do gamesvr and datasvr. -/
def BackStep (g : GameData) (i : Option GameDataInput) (g' : GameData) (out : GameOut) : Prop :=
  match i with
  | none => g' = g ∧ out = ⟨[], [], []⟩
  | some i => g.Step codec i g' out

/-- One step, and what gamesvr sends in it. -/
structure Step (c : Cluster) (i : ClusterInput) (c' : Cluster) (out : GameOut) : Prop where
  net : NetStep codec c.net (c.netInput codec i) c'.net
  back : BackStep codec c.back (c.backInput i) c'.back out

/-- The traffic after a step. -/
def traffic (c : Cluster) (t : Traffic) (i : ClusterInput) (c' : Cluster) : Traffic :=
  match c.netInput codec i with
  | none => t
  | some i => c.net.traffic t i c'.net

/-! ## Runs -/

/-- The condition on a step: there is room for one more instance, and the messages between
the servers are seen as they were sent. -/
structure Meets (c : Cluster) (i : ClusterInput) (c' : Cluster) (out : GameOut) : Prop where
  back : ∀ j, c.backInput i = some j → GameData.Meets codec Backend.Roomy c.back j c'.back out
  whole : ∀ ret, i = .toGame ret → ∀ p ∈ c.net.toGame.head?,
    connDataSize + p.1.payload.length ≤ 1024

/-- The states that a run reaches from `start`, with the traffic until then. -/
inductive Run (start : Cluster) : Cluster → Traffic → Prop
  | start : Run start start {}
  | step {c c' : Cluster} {t : Traffic} {out : GameOut} (i : ClusterInput) : Run start c t →
      Step codec c i c' out → Meets codec c i c' out →
      Run start c' (c.traffic codec t i c')

end

/-- The servers have just been started. -/
structure Started (size : Nat) (now : Int) (db : SgData) (c : Cluster) : Prop where
  net : c.net.Started
  back : c.back.Started size now db

section
variable {codec : Codec} {c c' c'' start : Cluster} {t t' : Traffic} {i : ClusterInput}
  {out : GameOut} {size : Nat} {now : Int} {db₀ : SgData} {g' : GameData}

/-! ### The two models -/

theorem Run.net (h : Run codec start c t) :
    System.Traced codec (fun _ _ _ => True) start.net c.net t := by
  induction h with
  | start => exact .start
  | @step c c' t out i _ hstep _ ih =>
      have hnet := hstep.net
      unfold traffic
      cases hi : c.netInput codec i with
      | none =>
          rw [hi] at hnet
          rw [show c'.net = c.net from hnet]
          exact ih
      | some j =>
          rw [hi] at hnet
          exact ih.step j hnet.1 hnet.2 trivial

theorem Run.back (h : Run codec start c t) :
    GameData.Run codec Backend.Roomy start.back c.back := by
  induction h with
  | start => exact .start
  | @step c c' t out i _ hstep hmeets ih =>
      have hback := hstep.back
      cases hi : c.backInput i with
      | none =>
          rw [hi] at hback
          rw [show c'.back = c.back from hback.1]
          exact ih
      | some j =>
          rw [hi] at hback
          exact ih.step j hback (hmeets.back j hi)

/-- **Neither model holds up the other**: what gamesvr and datasvr can do is a step. -/
theorem step_of_back {j : GameDataInput} (hi : c.backInput i = some j)
    (h : c.back.Step codec j g' out) : ∃ c', c'.back = g' ∧ Step codec c i c' out := by
  cases i with
  | event fd isRead ret => cases hi
  | toConn sendRet ctl => cases hi
  | toGame ret =>
      obtain ⟨⟨msg, o⟩, hhead, rfl⟩ := Option.map_eq_some_iff.mp hi
      obtain ⟨rest, hqueue⟩ := List.head?_eq_some_iff.mp hhead
      have hback : BackStep codec c.back (c.backInput (.toGame ret)) g' out := by
        rw [hi]
        exact h
      cases h with
      | connsvr msg ret front out hrun =>
          obtain ⟨⟨game, out'⟩, hgame, hrun⟩ := bind_eq_ok.mp hrun
          cases hrun
          have hnet : c.net.step codec (.toGame ret) =
              .ok (some (({ c.net with toGame := rest } : System).afterGame o game out)) := by
            simp only [System.step, hqueue]
            rw [c.same, hgame]
            rfl
          exact ⟨⟨_, _, rfl⟩, rfl, ⟨⟨trivial, hnet⟩, hback⟩⟩
  | answer ret =>
      cases hi
      have hback : BackStep codec c.back (c.backInput (.answer ret)) g' out := h
      cases h with
      | answer ret req res rest front out hanswers hrun =>
          obtain ⟨⟨game, out'⟩, hgame, hrun⟩ := bind_eq_ok.mp hrun
          cases hrun
          have hinput : c.netInput codec (.answer ret) =
              some (.datasvr (codec.serialize .ss res) ret) := by
            unfold netInput
            rw [hanswers]
            rfl
          have hnet : NetStep codec c.net (c.netInput codec (.answer ret)) { c.net with
              game := game
              toConn := c.net.toConn ++ System.stamp c.net.owner out.toConnsvr } := by
            rw [hinput]
            refine ⟨trivial, ?_⟩
            simp only [System.step]
            rw [c.same, hgame]
            rfl
          exact ⟨⟨_, _, rfl⟩, rfl, ⟨hnet, hback⟩⟩
  | update now =>
      cases hi
      have hback : BackStep codec c.back (c.backInput (.update now)) g' out := h
      cases h with
      | update now front out hrun =>
          obtain ⟨game, hgame, hrun⟩ := bind_eq_ok.mp hrun
          cases game with
          | none => cases hrun
          | some game =>
              cases hrun
              have hnet : c.net.step codec (.update now) =
                  .ok (some { c.net with game := game }) := by
                simp only [System.step]
                rw [c.same, hgame]
                rfl
              exact ⟨⟨_, _, rfl⟩, rfl, ⟨⟨trivial, hnet⟩, hback⟩⟩
  | datasvr e =>
      cases hi
      have hfront : g'.front = c.back.front := by
        cases h with
        | datasvr e s' hsend hrun => exact GameData.afterDatasvr_front
      exact ⟨⟨c.net, g', c.same.trans (congrArg Backend.game hfront.symm)⟩, rfl, ⟨rfl, h⟩⟩

/-! ### The requests of the clients -/

theorem traffic_taken {n : Nat} {payload : Bytes} (h : payload ∈ t.taken n) :
    payload ∈ (c.traffic codec t i c').taken n := by
  unfold traffic
  split
  · exact h
  · exact System.traffic_taken h

/-- An instance was launched by a package that gamesvr has taken, unless it saves a player. -/
def Asked (codec : Codec) (c : Cluster) (t : Traffic) : Prop :=
  ∀ id d, c.back.front.game.logicModule.store.logicDataMap.lookup id = some d →
    d.head.logicType ≠ MsgModule.logicUpdatePlayer → ∃ o n, ∃ payload ∈ t.taken n,
      c.back.front.launches id = some o ∧ codec.parseFromArray .cs payload = some o.msg

theorem Started.asked (h : start.Started size now db₀) : start.Asked codec {} := by
  obtain ⟨n₁, n₂, rawPlayer, rawCity, hgame⟩ := h.back.front.game
  intro id d hd
  rw [hgame] at hd
  cases hd

theorem Asked.quiet (h : c.Asked codec t) (hfront : c'.back.front = c.back.front) :
    c'.Asked codec (c.traffic codec t i c') := by
  intro id d hd htype
  rw [hfront] at hd ⊢
  obtain ⟨o, n, payload, hmem, hlaunch, hparse⟩ := h id d hd htype
  exact ⟨o, n, payload, traffic_taken hmem, hlaunch, hparse⟩

/-- **The message of a client** is a package that gamesvr takes in the step. -/
theorem Meets.taken {msg : ConnMsg} {ret : GameRet} {csMsg : ProtoCs.Msg}
    (hmeets : c.Meets codec i c' out) (hi : c.backInput i = some (.connsvr msg ret))
    (hcmd : msg.connData.connCmd ≠ .connStop)
    (hmsg : c.back.front.game.clientMsg codec msg = some csMsg) :
    ∃ n, msg.payload ∈ (c.traffic codec t i c').taken n ∧
      codec.parseFromArray .cs msg.payload = some csMsg := by
  cases i with
  | toGame ret =>
      obtain ⟨⟨msg, o⟩, hhead, heq⟩ := Option.map_eq_some_iff.mp hi
      cases heq
      have hwhole := hmeets.whole ret rfl _ hhead
      obtain ⟨rest, hqueue⟩ := List.head?_eq_some_iff.mp hhead
      refine ⟨o, ?_, ?_⟩
      · simp only [traffic, netInput, System.traffic, hqueue]
        show _ ∈ (t.take o msg).taken o
        rw [Traffic.take_self]
        refine List.mem_append_right _ (List.mem_map.mpr ⟨msg, ?_, rfl⟩)
        exact List.mem_filter.mpr ⟨List.mem_singleton_self msg, decide_eq_true hcmd⟩
      · have hreceive : (Link.connsvrToGamesvr.receive c.back.front.game.buf
            (Link.connsvrToGamesvr.wire msg.connData msg.payload)).2 = .ok (some msg.payload) :=
          Link.receive_whole (by simp only [Link.leastSize, Link.headerSize, connDataSize]; omega)
            hwhole (hwhole.trans (by decide))
        unfold GameSvr.clientMsg at hmsg
        rw [hreceive] at hmsg
        exact hmsg
  | answer ret => cases hi
  | update now => cases hi
  | datasvr e => cases hi
  | event fd isRead ret => cases hi
  | toConn sendRet ctl => cases hi

/-- **Every step** launches an instance for a package that it takes, or for none. -/
theorem Asked.step (h : c.Asked codec t) (hstart : start.Started size now db₀)
    (hrun : Run codec start c t) (hstep : c.Step codec i c' out)
    (hmeets : c.Meets codec i c' out) : c'.Asked codec (c.traffic codec t i c') := by
  have hback := hstep.back
  cases hi : c.backInput i with
  | none =>
      rw [hi] at hback
      exact h.quiet (congrArg GameData.front hback.1)
  | some j =>
      rw [hi] at hback
      obtain ⟨-, hinv, hok⟩ :=
        GameData.run_backend hstart.back (fun _ _ h => h) hrun.back
      obtain ⟨-, ⟨hsame, -⟩ | ⟨i', hinput, -, -, -, hmove⟩⟩ :=
        hok.step hinv hstart.back.front.room.1 hstart.back.front.seeded (fun _ _ h => h) hback
          (hmeets.back j hi)
      · exact h.quiet hsame
      intro id d hd htype
      rcases hmove.instances hinv hd htype with
        ⟨d₀, hd₀, htype₀, hlaunch⟩ | ⟨msg, ret, csMsg, o, rfl, hcmd, hmsg, ho, hcsMsg⟩
      · obtain ⟨o, n, payload, hmem, ho, hparse⟩ := h id d₀ hd₀ (htype₀ ▸ htype)
        exact ⟨o, n, payload, traffic_taken hmem, hlaunch.trans ho, hparse⟩
      · have hj : j = .connsvr msg ret := by
          cases j with
          | connsvr msg ret => cases hinput; rfl
          | answer ret =>
              obtain ⟨p, -, hp⟩ := Option.map_eq_some_iff.mp hinput
              cases hp
          | update now => cases hinput
          | datasvr e => cases hinput
        subst hj
        obtain ⟨n, hmem, hparse⟩ := hmeets.taken hi hcmd hmsg
        exact ⟨o, n, msg.payload, hmem, ho, hcsMsg ▸ hparse⟩

theorem Run.asked (hstart : start.Started size now db₀) (hrun : Run codec start c t) :
    c.Asked codec t := by
  induction hrun with
  | start => exact hstart.asked
  | step i hrun hstep hmeets ih => exact ih.step hstart hrun hstep hmeets

theorem Run.received (hstart : start.Started size now db₀) (hrun : Run codec start c t)
    {n : Nat} {payload : Bytes} (h : payload ∈ t.taken n) :
    ∃ fs r, clientFraming.Cut (t.streams n).received fs r ∧ payload ∈ fs.map payloadOf := by
  obtain ⟨-, hk⟩ := hrun.net.carried hstart.net
  obtain ⟨⟨fs, r, hcut, hforwarded, -⟩, -⟩ := hk.any n
  refine ⟨fs, r, hcut, ?_⟩
  rw [← hforwarded, hk.queue n]
  exact List.mem_append_left _ h

/-- After a step of connsvr and gamesvr, if they do one. -/
def netAfter (codec : Codec) (s : System) (i : Input) : System :=
  match s.step codec i with
  | .ok (some s') => s'
  | _ => s

/-- They do one. -/
def netSteps (codec : Codec) (s : System) (i : Input) : Bool :=
  match s.step codec i with
  | .ok (some _) => true
  | _ => false

theorem step_netAfter {s : System} {j : Input} (h : netSteps codec s j = true) :
    s.step codec j = .ok (some (netAfter codec s j)) := by
  unfold netSteps at h
  unfold netAfter
  split at h
  next heq => rw [heq]
  next => cases h

theorem netAfter_eq {s s' : System} {j : Input} (h : s.step codec j = .ok (some s')) :
    netAfter codec s j = s' := by
  unfold netAfter
  rw [h]

theorem event_game {s s' : System} {fd : Int} {isRead : Bool} {ret : ConnSvr.SysRet}
    (h : s.step codec (.event fd isRead ret) = .ok (some s')) : s'.game = s.game := by
  obtain ⟨r, -, h⟩ := bind_eq_ok.mp h
  cases r with
  | none => cases h
  | some r =>
      cases h
      rfl

theorem toConn_game {s s' : System} {sendRet : SendRet} {ctl : Bool}
    (h : s.step codec (.toConn sendRet ctl) = .ok (some s')) : s'.game = s.game := by
  unfold System.step at h
  dsimp only at h
  split at h
  · cases h
    rfl
  · obtain ⟨⟨conn, bytes⟩, -, h⟩ := bind_eq_ok.mp h
    cases h
    rfl

/-- The three servers when they have just been started; connsvr listens on fd 3. -/
def fresh (db : SgData) : Cluster where
  net := { System.fresh with game := (Backend.fresh 2).game }
  back := GameData.fresh db
  same := rfl

theorem fresh_started (db : SgData) : (fresh db).Started 4 7 db where
  net := ⟨16, 2, 1, 4, fun _ => Connection.init, fun _ => Player.init, fun _ => City.init, 3, 7,
    rfl, rfl, rfl, rfl⟩
  back := GameData.fresh_started db

/-- What connsvr and gamesvr come to, and the traffic until then. -/
def seen (codec : Codec) (db : SgData) (inputs : List Input) : System × Traffic :=
  inputs.foldl (fun p j => (netAfter codec p.1 j, p.1.traffic p.2 j (netAfter codec p.1 j)))
    ((fresh db).net, {})

/-- A run of the three servers in which gamesvr and datasvr come to `g`. -/
def Reaches (codec : Codec) (db : SgData) (inputs : List Input) (g : GameData) : Prop :=
  ∃ c, c.back = g ∧ c.net = (seen codec db inputs).1 ∧
    Run codec (fresh db) c (seen codec db inputs).2

section
variable {inputs : List Input} {g : GameData} {db : SgData}

theorem Reaches.nothing : Reaches codec db [] (GameData.fresh db) := ⟨fresh db, rfl, rfl, .start⟩

theorem seen_append (j : Input) : seen codec db (inputs ++ [j]) =
    (netAfter codec (seen codec db inputs).1 j, (seen codec db inputs).1.traffic
      (seen codec db inputs).2 j (netAfter codec (seen codec db inputs).1 j)) := by
  unfold seen
  rw [List.foldl_append]
  rfl

theorem Reaches.next {j : Input} (hnet : c.net = (seen codec db inputs).1)
    (hrun : Run codec (fresh db) c (seen codec db inputs).2)
    (hi : c.netInput codec i = some j) (hstep : Step codec c i c' out)
    (hmeets : Meets codec c i c' out) : Reaches codec db (inputs ++ [j]) c'.back := by
  have hstep' := hstep.net
  rw [hi] at hstep'
  have hafter := netAfter_eq hstep'.2
  have hrun' := hrun.step i hstep hmeets
  unfold traffic at hrun'
  simp only [hi] at hrun'
  refine ⟨c', rfl, ?_, ?_⟩
  · rw [seen_append, ← hnet]
    exact hafter.symm
  · rw [seen_append, ← hnet, hafter]
    exact hrun'

theorem Reaches.event (h : Reaches codec db inputs g) (fd : Int) (isRead : Bool)
    (ret : ConnSvr.SysRet) (hnone : ((seen codec db inputs).1.conn.conns ret.acceptRet).isNone)
    (hs : netSteps codec (seen codec db inputs).1 (.event fd isRead ret) = true) :
    Reaches codec db (inputs ++ [.event fd isRead ret]) g := by
  obtain ⟨c, rfl, hnet, hrun⟩ := h
  rw [← hnet] at hs hnone
  have hnet' := step_netAfter hs
  have hstep : Step codec c (.event fd isRead ret)
      ⟨netAfter codec c.net (.event fd isRead ret), c.back, (event_game hnet').trans c.same⟩
      ⟨[], [], []⟩ :=
    ⟨⟨Option.isNone_iff_eq_none.mp hnone, hnet'⟩, rfl, rfl⟩
  have hmeets : ∀ c', Meets codec c (.event fd isRead ret) c' ⟨[], [], []⟩ :=
    fun _ => ⟨fun _ hj => (nomatch hj), fun _ hi => (nomatch hi)⟩
  have hnext := Reaches.next hnet hrun rfl hstep (hmeets _)
  exact hnext

theorem Reaches.toConn (h : Reaches codec db inputs g) (sendRet : SendRet) (ctl : Bool)
    (hs : netSteps codec (seen codec db inputs).1 (.toConn sendRet ctl) = true) :
    Reaches codec db (inputs ++ [.toConn sendRet ctl]) g := by
  obtain ⟨c, rfl, hnet, hrun⟩ := h
  rw [← hnet] at hs
  have hnet' := step_netAfter hs
  have hstep : Step codec c (.toConn sendRet ctl)
      ⟨netAfter codec c.net (.toConn sendRet ctl), c.back, (toConn_game hnet').trans c.same⟩
      ⟨[], [], []⟩ :=
    ⟨⟨trivial, hnet'⟩, rfl, rfl⟩
  have hmeets : ∀ c', Meets codec c (.toConn sendRet ctl) c' ⟨[], [], []⟩ :=
    fun _ => ⟨fun _ hj => (nomatch hj), fun _ hi => (nomatch hi)⟩
  have hnext := Reaches.next hnet hrun rfl hstep (hmeets _)
  exact hnext

theorem Reaches.toGame (h : Reaches codec db inputs g) {msg : ConnMsg} {ret : GameRet}
    (hhead : (seen codec db inputs).1.toGame.head?.map Prod.fst = some msg)
    (hfits : connDataSize + msg.payload.length ≤ 1024)
    (hstep : g.Step codec (.connsvr msg ret) g' out)
    (hmeets : GameData.Meets codec Backend.Roomy g (.connsvr msg ret) g' out) :
    Reaches codec db (inputs ++ [.toGame ret]) g' := by
  obtain ⟨c, rfl, hnet, hrun⟩ := h
  rw [← hnet] at hhead
  obtain ⟨p, hp, rfl⟩ := Option.map_eq_some_iff.mp hhead
  have hinput : c.backInput (.toGame ret) = some (.connsvr p.1 ret) := by
    unfold backInput
    rw [hp]
    rfl
  obtain ⟨c', rfl, hstep'⟩ := step_of_back hinput hstep
  refine Reaches.next hnet hrun rfl hstep' ⟨fun j hj => ?_, fun _ _ p' hp' => ?_⟩
  · rw [hinput] at hj
    cases hj
    exact hmeets
  · rw [hp] at hp'
    cases hp'
    exact hfits

theorem Reaches.datasvr (h : Reaches codec db inputs g)
    (hdata : GameData.Run codec (fun _ _ => False) g g') : Reaches codec db inputs g' := by
  induction hdata with
  | start => exact h
  | step i _ hstep hmeets ih =>
      obtain ⟨c, rfl, hnet, hrun⟩ := ih
      cases hstep with
      | connsvr msg ret front out _ => exact absurd (hmeets.front _ rfl) not_false
      | answer ret req res rest front out hanswers _ =>
          refine absurd (hmeets.front (.datasvr req (codec.serialize .ss res) ret) ?_) not_false
          unfold GameData.frontInput
          rw [hanswers]
          rfl
      | update now front out _ => exact absurd (hmeets.front _ rfl) not_false
      | datasvr e s' hsend hserver =>
          have hstep : c.back.Step codec (.datasvr e) _ _ := .datasvr e s' hsend hserver
          obtain ⟨c', hback, hstep'⟩ := step_of_back (i := .datasvr e) rfl hstep
          have hmeets' : Meets codec c (.datasvr e) c' ⟨[], [], []⟩ := by
            refine ⟨fun j hj => ?_, fun _ hi => nomatch hi⟩
            cases hj
            rw [hback]
            refine ⟨?_, hmeets.requests, hmeets.responses⟩
            exact fun _ h => nomatch h
          exact ⟨c', hback, hstep'.net.trans hnet, hrun.step _ hstep' hmeets'⟩

theorem Reaches.answer (h : Reaches codec db inputs g) {ret : GameRet} {req res : ProtoSs.Msg}
    {rest : List (ProtoSs.Msg × ProtoSs.Msg)} (hanswers : g.answers = (req, res) :: rest)
    (hstep : g.Step codec (.answer ret) g' out)
    (hmeets : GameData.Meets codec Backend.Roomy g (.answer ret) g' out) :
    Reaches codec db (inputs ++ [.datasvr (codec.serialize .ss res) ret]) g' := by
  obtain ⟨c, rfl, hnet, hrun⟩ := h
  have hinput : c.netInput codec (.answer ret) =
      some (.datasvr (codec.serialize .ss res) ret) := by
    unfold netInput
    rw [hanswers]
    rfl
  obtain ⟨c', rfl, hstep'⟩ := step_of_back (i := .answer ret) rfl hstep
  refine Reaches.next hnet hrun hinput hstep' ⟨fun j hj => ?_, fun _ hi => nomatch hi⟩
  cases hj
  exact hmeets

end

end

section
open GameData (asking asked answered settled welcomed oneAccount accountCodec firstRes hello)
open Backend (loginReq firstReq theUid calm)

/-- A client connects and sends a message. -/
def arrival (msg : ProtoCs.Msg) : List Input :=
  [System.acceptFive, System.sendFive (ConnSvr.clientFrame (Wire.csMsg msg))]

/-- connsvr takes it and forwards it to gamesvr. -/
structure Arrives (codec : Codec) (db : SgData) (msg : ProtoCs.Msg) : Prop where
  accepted : netSteps codec (fresh db).net System.acceptFive = true
  idle : ((seen codec db [System.acceptFive]).1.conn.conns (-1)).isNone
  received : netSteps codec (seen codec db [System.acceptFive]).1
    (System.sendFive (ConnSvr.clientFrame (Wire.csMsg msg))) = true
  forwarded : (seen codec db (arrival msg)).1.toGame.head?.map Prod.fst =
    some ⟨⟨5, 0, .connStart⟩, Wire.csMsg msg⟩
  fits : connDataSize + (Wire.csMsg msg).length ≤ 1024

theorem Arrives.answered {codec : Codec} {db : SgData} {msg : ProtoCs.Msg}
    {k : DataSvr.Request} {req : ProtoSs.Msg} (h : Arrives codec db msg)
    (hfirst : GameData.FirstClient codec db msg k req) :
    ∃ s' work, Reaches codec db (arrival msg ++ [.toGame calm])
      (answered (asking codec msg) req (k.answerTo req db) s' work) := by
  have hsent : Reaches codec db (arrival msg) (GameData.fresh db) :=
    (Reaches.nothing.event _ _ _ rfl h.accepted).event _ _ _ h.idle h.received
  have htaken : Reaches codec db (arrival msg ++ [.toGame calm])
      (asked codec (asking codec msg) db req) :=
    hsent.toGame h.forwarded h.fits hfirst.step_asked (hfirst.meets_asked GameData.roomy_hello)
  obtain ⟨s', work, hdata, -⟩ :=
    hfirst.run_served (.start : GameData.Run codec (fun _ _ => False) _ _)
  exact ⟨s', work, htaken.datasvr hdata⟩

end

end Cluster

end PlayFrame
