/-
# `PlayFrame.System.System` — connsvr and gamesvr, and what is between them

The two servers and the pair of ZeroMQ sockets that joins them, which delivers in order.
One step is an event of connsvr's epoller, a message taken from either side, a message of
datasvr (any bytes), or a call of `LogicModule::Update`; the steps come in any order.

A connection is numbered by the event in which it was accepted.  The numbers are not in
the source: a message carries the number of the connection it comes from or whose player
sent it, `serial` has the last connection of each fd, and `owner` the connection whose
message made gamesvr allocate the unit of a player.
-/
import PlayFrame.ConnSvr.EventSpec
import PlayFrame.GameSvr.MsgModule

namespace PlayFrame

/-- connsvr, gamesvr, and the messages in flight, the oldest first. -/
structure System where
  conn : ConnSvr
  game : GameSvr
  toGame : List (ConnMsg × Nat)
  toConn : List (ConnMsg × Nat)
  serial : Int → Nat
  events : Nat
  owner : Nat → Nat

/-- What happens next, with all that is not up to the two servers. -/
inductive Input where
  /-- an event of the epoller for an fd: readable or writable -/
  | event (fd : Int) (isRead : Bool) (ret : ConnSvr.SysRet)
  /-- `ZmqReadLoop` takes a message of gamesvr -/
  | toConn (sendRet : SendRet) (ctl : Bool)
  /-- `MsgModule::Run` takes a message of connsvr -/
  | toGame (ret : GameRet)
  /-- `MsgModule::Run` takes a message of datasvr -/
  | datasvr (msg : Bytes) (ret : GameRet)
  /-- `LogicModule::Update` -/
  | update (now : TimeValue)

namespace System

/-! ## One step -/

/-- The connection of an fd was opened between two states of connsvr. -/
def Opened (conn conn' : ConnSvr) (fd : Int) : Prop :=
  (conn.conns fd).isNone ∧ (conn'.conns fd).isSome

instance (conn conn' : ConnSvr) (fd : Int) : Decidable (Opened conn conn' fd) := by
  unfold Opened
  infer_instance

/-- After an event of the epoller. -/
def afterEvent (s : System) (fd : Int) (conn : ConnSvr) (sent : List ConnMsg) : System :=
  { s with
    conn := conn
    toGame := s.toGame ++ sent.map (fun msg => (msg, s.serial fd))
    serial := fun f => if Opened s.conn conn f then s.events + 1 else s.serial f
    events := s.events + 1 }

/-- What gamesvr sends, with the owner of the player that sends it. -/
def stamp (owner : Nat → Nat) (out : List ConnMsg) : List (ConnMsg × Nat) :=
  out.map (fun msg => (msg, owner msg.connData.playerIdx.toNat))

/-- After gamesvr has taken a message, one of the connection `origin` if it comes from
connsvr. -/
def afterGame (s : System) (origin : Nat) (game : GameSvr) (out : GameOut) : System :=
  let owner := fun k =>
    if ¬ s.game.objMgr.Live k ∧ game.objMgr.Live k then origin else s.owner k
  { s with game := game, toConn := s.toConn ++ stamp owner out.toConnsvr, owner := owner }

/-- One step; a queue may be empty. -/
def step (codec : Codec) (s : System) : Input → Result (Option System)
  | .event fd isRead ret => do
      match ← s.conn.onEvent fd isRead ret with
      | none => .ok none
      | some (conn, sent, _) => .ok (some (s.afterEvent fd conn sent))
  | .toConn sendRet ctl =>
      match s.toConn with
      | [] => .ok (some s)
      | (msg, _) :: rest => do
          let (conn, _) ← s.conn.zmqReadLoop msg sendRet ctl
          .ok (some { s with conn := conn, toConn := rest })
  | .toGame ret =>
      match s.toGame with
      | [] => .ok (some s)
      | (msg, origin) :: rest => do
          let (game, out) ← s.game.onConnsvr codec msg ret
          .ok (some ({ s with toGame := rest }.afterGame origin game out))
  | .datasvr msg ret => do
      let (game, out) ← s.game.onDatasvr codec msg ret
      .ok (some { s with game := game, toConn := s.toConn ++ stamp s.owner out.toConnsvr })
  | .update now => do
      match ← s.game.onUpdate now with
      | none => .ok none
      | some game => .ok (some { s with game := game })

/-! ## Runs -/

/-- `accept` returns an fd that is not open. -/
def Possible (s : System) : Input → Prop
  | .event _ _ ret => s.conn.conns ret.acceptRet = none
  | _ => True

/-- Both servers have been started, with an fd to listen on. -/
def Started (s : System) : Prop :=
  ∃ (connPoolSize playerPoolSize cityPoolSize logicTimerInitSize : Nat)
    (rawConn : Nat → Connection) (rawPlayer : Nat → Player) (rawCity : Nat → City)
    (listenFd now : Int),
    ConnSvr.init connPoolSize rawConn listenFd = .ok s.conn ∧
    s.game = GameSvr.init playerPoolSize cityPoolSize logicTimerInitSize rawPlayer rawCity now ∧
    s.toGame = [] ∧ s.toConn = []

/-- The connection `o` is open, on `fd`. -/
def IsOpen (s : System) (fd : Int) (o : Nat) : Prop :=
  (s.conn.conns fd).isSome ∧ s.serial fd = o

/-- The states that a run reaches from `start` if every step of it meets a condition. -/
inductive Run (codec : Codec) (ok : System → Input → System → Prop) (start : System) :
    System → Prop
  | start : Run codec ok start start
  | step {s s' : System} (i : Input) : Run codec ok start s → s.Possible i →
      s.step codec i = .ok (some s') → ok s i s' → Run codec ok start s'

/-! ## The tables of both servers -/

/-- The tables of both servers are in order. -/
structure Tables (s : System) : Prop where
  conn : s.conn.connMgr.Ok
  players : s.game.objMgr.playerPool.Ok

section
variable {codec : Codec} {s s' start : System} {i : Input}
  {ok : System → Input → System → Prop}

theorem Started.tables (h : s.Started) : s.Tables := by
  obtain ⟨n, n₁, n₂, n₃, rawConn, rawPlayer, rawCity, listenFd, now, hconn, hgame, -⟩ := h
  refine ⟨(ConnSvr.init_spec hconn).1, ?_⟩
  rw [hgame]
  exact ⟨_, ShmPool.init_inv n₁ rawPlayer⟩

/-- What one step does, seen from outside. -/
inductive Moves (codec : Codec) (s : System) : Input → System → Prop
  | event (fd : Int) (isRead : Bool) (ret : ConnSvr.SysRet) (proc : FileProc) (conn : ConnSvr)
      (sent : List ConnMsg) : conn.connMgr.Ok → s.conn.handler fd isRead = some proc →
      ConnSvr.EventStep fd ret s.conn.conns proc conn.conns sent →
      Moves codec s (.event fd isRead ret) (s.afterEvent fd conn sent)
  | deliver (sendRet : SendRet) (ctl : Bool) (msg : ConnMsg) (o : Nat)
      (rest : List (ConnMsg × Nat)) (conn : ConnSvr) : s.toConn = (msg, o) :: rest →
      conn.connMgr.Ok → ConnSvr.DeliverStep msg sendRet s.conn.conns conn.conns →
      Moves codec s (.toConn sendRet ctl) { s with conn := conn, toConn := rest }
  | game (ret : GameRet) (msg : ConnMsg) (origin : Nat) (rest : List (ConnMsg × Nat))
      (game : GameSvr) (out : GameOut) : s.toGame = (msg, origin) :: rest →
      game.objMgr.playerPool.Ok →
      GameSvr.ConnsvrStep s.game.objMgr msg game.objMgr out.toConnsvr →
      Moves codec s (.toGame ret) ({ s with toGame := rest }.afterGame origin game out)
  | datasvr (msg : Bytes) (ret : GameRet) (game : GameSvr) (out : GameOut) :
      ObjMgrModule.SamePlayers s.game.objMgr game.objMgr →
      (∀ o ∈ out.toConnsvr, Addressed s.game.objMgr o) →
      Moves codec s (.datasvr msg ret)
        { s with game := game, toConn := s.toConn ++ stamp s.owner out.toConnsvr }
  | update (now : TimeValue) (game : GameSvr) : game.objMgr = s.game.objMgr →
      Moves codec s (.update now) { s with game := game }
  | empty (i : Input) : (∀ ret, i = .toGame ret → s.toGame = []) → Moves codec s i s

theorem step_moves (ht : s.Tables) (hp : s.Possible i) (h : s.step codec i = .ok (some s')) :
    Moves codec s i s' := by
  cases i with
  | event fd isRead ret =>
      obtain ⟨r, hevent, h⟩ := bind_eq_ok.mp h
      rcases r with _ | ⟨conn, sent, bytes⟩
      · cases h
      · cases h
        obtain ⟨hok, proc, hproc, hstep⟩ := ConnSvr.onEvent_spec ht.conn hp hevent
        exact .event fd isRead ret proc conn sent hok hproc hstep
  | toConn sendRet ctl =>
      cases hq : s.toConn with
      | nil =>
          simp only [step, hq] at h
          cases h
          exact .empty _ (fun _ h => nomatch h)
      | cons head rest =>
          obtain ⟨msg, o⟩ := head
          simp only [step, hq] at h
          obtain ⟨⟨conn, bytes⟩, hloop, h⟩ := bind_eq_ok.mp h
          cases h
          obtain ⟨hok, hstep⟩ := ConnSvr.zmqReadLoop_spec ht.conn hloop
          exact .deliver sendRet ctl msg o rest conn hq hok hstep
  | toGame ret =>
      cases hq : s.toGame with
      | nil =>
          simp only [step, hq] at h
          cases h
          exact .empty _ (fun _ _ => hq)
      | cons head rest =>
          obtain ⟨msg, origin⟩ := head
          simp only [step, hq] at h
          obtain ⟨⟨game, out⟩, hgame, h⟩ := bind_eq_ok.mp h
          cases h
          obtain ⟨hok, hstep⟩ := GameSvr.onConnsvr_spec ht.players hgame
          exact .game ret msg origin rest game out hq hok hstep
  | datasvr msg ret =>
      obtain ⟨⟨game, out⟩, hgame, h⟩ := bind_eq_ok.mp h
      cases h
      obtain ⟨hsame, haddr⟩ := GameSvr.onDatasvr_spec hgame
      exact .datasvr msg ret game out hsame haddr
  | update now =>
      obtain ⟨r, hupdate, h⟩ := bind_eq_ok.mp h
      cases r with
      | none => cases h
      | some game =>
          cases h
          exact .update now game (GameSvr.onUpdate_spec hupdate)

theorem Moves.tables (ht : s.Tables) (h : Moves codec s i s') : s'.Tables := by
  cases h with
  | event fd isRead ret proc conn sent hok _ _ => exact ⟨hok, ht.players⟩
  | deliver sendRet ctl msg o rest conn _ hok _ => exact ⟨hok, ht.players⟩
  | game ret msg origin rest game out _ hok _ => exact ⟨ht.conn, hok⟩
  | datasvr msg ret game out hsame _ => exact ⟨ht.conn, hsame.pool ht.players⟩
  | update now game he => exact ⟨ht.conn, he ▸ ht.players⟩
  | empty _ _ => exact ht

/-- **An invariant of all runs** is one that holds at the start and that every step keeps. -/
theorem Run.induct {P : System → Prop} (hstart : start.Started) (hbase : P start)
    (hstep : ∀ s i s', s.Tables → P s → Moves codec s i s' → ok s i s' → P s')
    (h : Run codec ok start s) : s.Tables ∧ P s := by
  induction h with
  | start => exact ⟨hstart.tables, hbase⟩
  | step i _ hp hs hok ih =>
      have hm := step_moves ih.1 hp hs
      exact ⟨hm.tables ih.1, hstep _ _ _ ih.1 ih.2 hm hok⟩

theorem afterEvent_serial {fd f : Int} {conn : ConnSvr} {sent : List ConnMsg}
    (h : (s.conn.conns f).isSome) : (s.afterEvent fd conn sent).serial f = s.serial f := by
  refine if_neg (fun hopen => ?_)
  rw [Option.isNone_iff_eq_none.mp hopen.1] at h
  cases h

/-! ## Two servers to look at -/

/-- The epoller of a connsvr that listens on fd 3. -/
def listening : Epoller FileProc Bool :=
  match (Epoller.init 16).addEvent 3 .eventRead .doTcpAccept true true with
  | .ok (_, ep) => ep
  | .error _ => Epoller.init 16

/-- Both servers when they have just been started; connsvr listens on fd 3. -/
def fresh : System where
  conn :=
    { connPoolSize := 16
      connMgr := ConnMgrModule.init 16 (fun _ => Connection.init)
      epoller := listening
      zmqBuf := fun _ => 0 }
  game := GameSvr.init 4 4 4 (fun _ => Player.init) (fun _ => City.init) 7
  toGame := []
  toConn := []
  serial := fun _ => 0
  events := 0
  owner := fun _ => 0

theorem fresh_started : fresh.Started :=
  ⟨16, 4, 4, 4, fun _ => Connection.init, fun _ => Player.init, fun _ => City.init, 3, 7, rfl, rfl,
    rfl, rfl⟩

/-- System calls that have nothing to say, except that `zmq_send` succeeds. -/
def quietRet : ConnSvr.SysRet := ⟨-1, .failed, .again, true, fun _ => true⟩

/-- The same for gamesvr. -/
def quietGame : GameRet := ⟨7, ⟨0, 0, 0, 0, [], [], []⟩, fun _ => true, 0, fun _ => 0⟩

/-- A connection is accepted on fd 5. -/
def acceptFive : Input := .event 3 true { quietRet with acceptRet := 5 }

/-- The client of fd 5 closes its connection. -/
def closeFive : Input := .event 5 true { quietRet with recvRet := .closed }

/-- The client of fd 5 sends some bytes. -/
def sendFive (buf : Bytes) : Input := .event 5 true { quietRet with recvRet := .data buf }

end

end System

end PlayFrame
