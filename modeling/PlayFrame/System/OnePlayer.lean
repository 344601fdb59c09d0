/-
# `PlayFrame.System.OnePlayer` — one player for a connection

connsvr forwards a frame as a `CONN_START` while it does not know the player of the
connection, which it learns from the first reply.  gamesvr allocates a player for every
`CONN_START`.  So a client that does not wait for the first reply gets a player for every
frame, and one that learns the player of a reply to somebody else goes on as this player.
-/
import PlayFrame.System.Leak
import PlayFrame.System.Routing

namespace PlayFrame

open ConnSvr (ConnTable EventStep DeliverStep notePlayer)

/-- A frame that gamesvr has taken: the connection that it came from, and the player that
it was processed against. -/
structure Frame where
  origin : Nat
  player : Int
  deriving DecidableEq, Repr

namespace System

/-- The frame that a step processes; a `CONN_START` is for the first free unit. -/
def frame (s : System) : Input → List Frame
  | .toGame _ =>
      match s.toGame with
      | [] => []
      | (msg, origin) :: _ =>
          match msg.connData.connCmd with
          | .connStart => [⟨origin, s.game.objMgr.playerPool.freeMemPos⟩]
          | .connProc => [⟨origin, msg.connData.playerIdx⟩]
          | .connStop => []
  | _ => []

/-- The states that a run reaches from `start`, with the frames that gamesvr has taken, if
every step of it meets a condition. -/
inductive Recorded (codec : Codec) (ok : System → Input → Prop) (start : System) :
    System → List Frame → Prop
  | start : Recorded codec ok start start []
  | step {s s' : System} {frames : List Frame} (i : Input) : Recorded codec ok start s frames →
      s.Possible i → ok s i → s.step codec i = .ok (some s') →
      Recorded codec ok start s' (frames ++ s.frame i)

/-- The client of a connection that does not know its player sends one frame only, and the
first; and no connection learns its player from a reply to another. -/
def Paced (s : System) : Input → Prop
  | .event fd isRead ret => s.conn.handler fd isRead = some .doTcpRead → ∀ c c₁ buf,
      s.conn.conns fd = some c → c.playerIdx = 0 → ret.recvRet = .data buf →
      c.addRecvData buf = some c₁ → c₁.IsRecvProtoReady →
      ¬ Connection.clientFraming.Ready (c₁.recvBuf.drop c₁.getRecvProtoLen) ∧
        ¬ s.Starting (s.serial fd) ∧
        ∀ k, s.game.objMgr.Live k → s.owner k ≠ s.serial fd
  | .toConn _ _ => ∀ msg o rest c, s.toConn = (msg, o) :: rest →
      s.conn.conns msg.connData.connFd = some c →
      (notePlayer msg.connData c).playerIdx ≠ c.playerIdx → s.serial msg.connData.connFd = o
  | _ => True

/-! ## Two phases of a connection -/

/-- The messages of a connection on their way to gamesvr. -/
def queue (s : System) (o : Nat) : List ConnMsg :=
  (s.toGame.filter (fun p => p.2 = o)).map Prod.fst

/-- What is on its way from a connection with the player `k`: frames for the player, and at
last a `CONN_STOP` for it. -/
inductive Talk (k : Nat) : List ConnMsg → Prop
  | nil : Talk k []
  | proc (msg : ConnMsg) (rest : List ConnMsg) : msg.connData.connCmd = .connProc →
      msg.connData.playerIdx = k → Talk k rest → Talk k (msg :: rest)
  | stop (msg : ConnMsg) : msg.connData.connCmd = .connStop → msg.connData.playerIdx = k →
      Talk k [msg]

/-- gamesvr has not taken a frame of the connection: at most its `CONN_START` is on its
way. -/
structure Unmet (s : System) (frames : List Frame) (o : Nat) : Prop where
  unseen : ∀ f ∈ frames, f.origin ≠ o
  players : ∀ k, s.game.objMgr.Live k → s.owner k ≠ o
  replies : ∀ p ∈ s.toConn, p.2 ≠ o
  learned : ∀ fd c, s.conn.conns fd = some c → s.serial fd = o → c.playerIdx = 0
  queue : s.queue o = [] ∨ ∃ msg, msg.connData.connCmd = .connStart ∧ s.queue o = [msg]

/-- gamesvr has taken frames of the connection, all for its player `k`, which is in use as
long as the connection is open or something of it is on its way. -/
structure Served (s : System) (frames : List Frame) (o k : Nat) : Prop where
  seen : ∃ f ∈ frames, f.origin = o
  same : ∀ f ∈ frames, f.origin = o → f.player = k
  only : ∀ j, s.game.objMgr.Live j → s.owner j = o → j = k
  replies : ∀ p ∈ s.toConn, p.2 = o → p.1.connData.playerIdx = k
  learned : ∀ fd c, s.conn.conns fd = some c → s.serial fd = o →
    c.playerIdx = 0 ∨ c.playerIdx = k
  talk : Talk k (s.queue o)
  gone : ∀ msg ∈ s.queue o, msg.connData.connCmd = .connStop → ¬ s.Lives o
  live : s.Lives o ∨ s.queue o ≠ [] → s.game.objMgr.Live k ∧ s.owner k = o

/-- A connection is in one of the two phases. -/
def InPhase (s : System) (frames : List Frame) (o : Nat) : Prop :=
  Unmet s frames o ∨ ∃ k, Served s frames o k

/-- Every connection is in one of the phases; those to come are in the first. -/
structure Sessions (s : System) (frames : List Frame) : Prop where
  bound : ∀ fd, (s.conn.conns fd).isSome → s.serial fd ≤ s.events
  inj : ∀ fd fd', (s.conn.conns fd).isSome → (s.conn.conns fd').isSome →
    s.serial fd = s.serial fd' → fd = fd'
  fresh : ∀ o, s.events < o → Unmet s frames o ∧ s.queue o = []
  phase : ∀ o, InPhase s frames o

/-- What a step leaves of a connection, but for its queue: a player it has been told of is
still its own, and it may learn the player of a reply to it. -/
structure Untouched (s : System) (frames : List Frame) (s' : System) (frames' : List Frame)
    (o : Nat) : Prop where
  frames : ∀ f : Frame, f.origin = o → (f ∈ frames' ↔ f ∈ frames)
  players : ∀ k, s'.game.objMgr.Live k ∧ s'.owner k = o ↔ s.game.objMgr.Live k ∧ s.owner k = o
  replies : ∀ p ∈ s'.toConn, p.2 = o → p ∈ s.toConn ∨
    ∃ k : Nat, p.1.connData.playerIdx = k ∧ s.game.objMgr.Live k ∧ s.owner k = o
  conns : ∀ fd c', s'.conn.conns fd = some c' → s'.serial fd = o →
    ∃ c, s.conn.conns fd = some c ∧ s.serial fd = o ∧ (c'.playerIdx = c.playerIdx ∨
      ∃ p ∈ s.toConn, p.2 = o ∧ c'.playerIdx = p.1.connData.playerIdx)

section
variable {codec : Codec} {s s' start : System} {i : Input} {o k : Nat}
  {frames frames' : List Frame} {msg : ConnMsg} {new : List ConnMsg}

/-! ### What is on its way -/

theorem mem_queue : msg ∈ s.queue o ↔ (msg, o) ∈ s.toGame := by
  simp [queue]

theorem queue_congr (h : s'.toGame = s.toGame) : s'.queue o = s.queue o := by
  simp [queue, h]

theorem queue_append (h : s'.toGame = s.toGame ++ new.map (fun msg => (msg, o))) :
    s'.queue o = s.queue o ++ new := by
  simp [queue, h, List.filter_map, Function.comp_def]

theorem queue_append_of_ne {o' : Nat} (h : s'.toGame = s.toGame ++ new.map (fun msg => (msg, o)))
    (hne : o' ≠ o) : s'.queue o' = s.queue o' := by
  simp [queue, h, List.filter_map, Function.comp_def, Ne.symm hne]

theorem Talk.append : ∀ {old : List ConnMsg}, Talk k old →
    (∀ msg ∈ old, msg.connData.connCmd ≠ .connStop) → Talk k new → Talk k (old ++ new) := by
  intro old h
  induction h with
  | nil => exact fun _ hnew => hnew
  | proc msg rest hcmd hidx _ ih =>
      intro hold hnew
      exact .proc msg _ hcmd hidx (ih (fun m hm => hold m (List.mem_cons_of_mem _ hm)) hnew)
  | stop msg hcmd _ =>
      intro hold _
      exact absurd hcmd (hold msg List.mem_cons_self)

/-! ### A connection that a step does not touch -/

theorem Untouched.lives (h : Untouched s frames s' frames' o) (hl : s'.Lives o) : s.Lives o := by
  obtain ⟨fd, hopen, hserial⟩ := hl
  obtain ⟨c', hc'⟩ := Option.isSome_iff_exists.mp hopen
  obtain ⟨c, hc, hold, -⟩ := h.conns fd c' hc' hserial
  exact ⟨fd, Option.isSome_iff_exists.mpr ⟨c, hc⟩, hold⟩

theorem Unmet.sends (h : Unmet s frames o) (hu : Untouched s frames s' frames' o)
    (hqueue : s'.queue o = [] ∨ ∃ msg, msg.connData.connCmd = .connStart ∧ s'.queue o = [msg]) :
    Unmet s' frames' o where
  unseen := by
    intro f hf ho
    exact h.unseen f ((hu.frames f ho).mp hf) ho
  players := by
    intro k hk ho
    obtain ⟨hk', ho'⟩ := (hu.players k).mp ⟨hk, ho⟩
    exact h.players k hk' ho'
  replies := by
    intro p hp ho
    rcases hu.replies p hp ho with hold | ⟨k, -, hk, ho'⟩
    · exact h.replies p hold ho
    · exact h.players k hk ho'
  learned := by
    intro fd c' hc' hserial
    obtain ⟨c, hc, hold, heq | ⟨p, hp, ho, -⟩⟩ := hu.conns fd c' hc' hserial
    · exact heq.trans (h.learned fd c hc hold)
    · exact absurd ho (h.replies p hp)
  queue := hqueue

theorem Served.sends (h : Served s frames o k) (hu : Untouched s frames s' frames' o)
    (hqueue : s'.queue o = s.queue o ++ new) (hnew : Talk k new) (hopen : new ≠ [] → s.Lives o)
    (hstop : ∀ msg ∈ new, msg.connData.connCmd = .connStop → ¬ s'.Lives o) :
    Served s' frames' o k where
  seen := by
    obtain ⟨f, hf, ho⟩ := h.seen
    exact ⟨f, (hu.frames f ho).mpr hf, ho⟩
  same := by
    intro f hf ho
    exact h.same f ((hu.frames f ho).mp hf) ho
  only := by
    intro j hj ho
    obtain ⟨hj', ho'⟩ := (hu.players j).mp ⟨hj, ho⟩
    exact h.only j hj' ho'
  replies := by
    intro p hp ho
    rcases hu.replies p hp ho with hold | ⟨j, hidx, hj, ho'⟩
    · exact h.replies p hold ho
    · rw [hidx, h.only j hj ho']
  learned := by
    intro fd c' hc' hserial
    obtain ⟨c, hc, hold, heq | ⟨p, hp, ho, hidx⟩⟩ := hu.conns fd c' hc' hserial
    · rw [heq]
      exact h.learned fd c hc hold
    · rw [hidx]
      exact Or.inr (h.replies p hp ho)
  talk := by
    rw [hqueue]
    by_cases hnil : new = []
    · rw [hnil, List.append_nil]
      exact h.talk
    · exact h.talk.append (fun m hm hcmd => h.gone m hm hcmd (hopen hnil)) hnew
  gone := by
    intro m hm hcmd hl
    rw [hqueue] at hm
    rcases List.mem_append.mp hm with hm | hm
    · exact h.gone m hm hcmd (hu.lives hl)
    · exact hstop m hm hcmd hl
  live := by
    intro hor
    refine (hu.players k).mpr (h.live ?_)
    rcases hor with hl | hne
    · exact Or.inl (hu.lives hl)
    · by_cases hnil : new = []
      · rw [hqueue, hnil, List.append_nil] at hne
        exact Or.inr hne
      · exact Or.inl (hopen hnil)

theorem InPhase.keep (h : InPhase s frames o) (hu : Untouched s frames s' frames' o)
    (hqueue : s'.queue o = s.queue o) : InPhase s' frames' o := by
  rcases h with h | ⟨k, h⟩
  · refine Or.inl (h.sends hu ?_)
    rw [hqueue]
    exact h.queue
  · exact Or.inr ⟨k, h.sends hu (hqueue.trans (List.append_nil _).symm) .nil (fun hne => absurd rfl hne)
      (fun _ hm => absurd hm List.not_mem_nil)⟩

/-- **A step** leaves a connection alone, or takes it to a phase. -/
theorem Sessions.step (h : Sessions s frames) (hevents : s.events ≤ s'.events)
    (hbound : ∀ fd, (s'.conn.conns fd).isSome → s'.serial fd ≤ s'.events)
    (hinj : ∀ fd fd', (s'.conn.conns fd).isSome → (s'.conn.conns fd').isSome →
      s'.serial fd = s'.serial fd' → fd = fd')
    (hall : ∀ o, (Untouched s frames s' frames' o ∧ s'.queue o = s.queue o) ∨
      o ≤ s'.events ∧ InPhase s' frames' o) : Sessions s' frames' := by
  refine ⟨hbound, hinj, fun o ho => ?_, fun o => ?_⟩
  · obtain ⟨hunmet, hnil⟩ := h.fresh o (Nat.lt_of_le_of_lt hevents ho)
    rcases hall o with ⟨hu, hqueue⟩ | ⟨hle, -⟩
    · refine ⟨hunmet.sends hu ?_, hqueue.trans hnil⟩
      rw [hqueue]
      exact Or.inl hnil
    · exact absurd ho (Nat.not_lt.mpr hle)
  · rcases hall o with ⟨hu, hqueue⟩ | ⟨-, hphase⟩
    · exact (h.phase o).keep hu hqueue
    · exact hphase

end

/-! ### An event of connsvr -/

/-- No connection is opened, and those that stay know the players that they knew. -/
def Keeps (conns conns' : ConnTable) : Prop :=
  ∀ f c', conns' f = some c' → ∃ c, conns f = some c ∧ c'.playerIdx = c.playerIdx

/-- What an event does to the players that connections know, and what is sent for them. -/
inductive Heard (fd : Int) (ret : ConnSvr.SysRet) (conns : ConnTable) :
    FileProc → ConnTable → List ConnMsg → Prop
  | quiet (proc : FileProc) (conns' : ConnTable) : Keeps conns conns' →
      Heard fd ret conns proc conns' []
  | accept : Heard fd ret conns .doTcpAccept
      (Function.update conns ret.acceptRet (some (ConnSvr.accepted ret.acceptRet))) []
  | frames (c c₁ : Connection) (buf : Bytes) (conns' : ConnTable) (sent : List ConnMsg) :
      conns fd = some c → ret.recvRet = .data buf → c.addRecvData buf = some c₁ →
      (sent ≠ [] → c₁.IsRecvProtoReady) →
      (1 < sent.length →
        Connection.clientFraming.Ready (c₁.recvBuf.drop c₁.getRecvProtoLen)) →
      (∀ msg ∈ sent, msg.connData =
        ⟨fd, c.playerIdx, if c.playerIdx = 0 then .connStart else .connProc⟩) →
      Keeps conns conns' → Heard fd ret conns .doTcpRead conns' sent
  | closed (c : Connection) : conns fd = some c → c.playerIdx ≠ 0 →
      Heard fd ret conns .doTcpRead (Function.update conns fd none)
        [⟨⟨0, c.playerIdx, .connStop⟩, []⟩]

section
variable {codec : Codec} {s s' start : System} {i : Input} {o k : Nat} {fd : Int}
  {frames : List Frame} {conns conns' : ConnTable} {ret : ConnSvr.SysRet} {proc : FileProc}
  {sent : List ConnMsg} {conn : ConnSvr} {c c' : Connection}

theorem Keeps.refl : Keeps conns conns := fun _ c' hc' => ⟨c', hc', rfl⟩

theorem Keeps.release : Keeps conns (Function.update conns fd none) := by
  intro f c' hc'
  by_cases hf : f = fd
  · subst hf
    rw [Function.update_self] at hc'
    cases hc'
  · rw [Function.update_of_ne hf] at hc'
    exact ⟨c', hc', rfl⟩

theorem Keeps.write (hc : conns fd = some c) (hidx : c'.playerIdx = c.playerIdx) :
    Keeps conns (Function.update conns fd (some c')) := by
  intro f c'' hc''
  by_cases hf : f = fd
  · subst hf
    rw [Function.update_self] at hc''
    cases hc''
    exact ⟨c, hc, hidx⟩
  · rw [Function.update_of_ne hf] at hc''
    exact ⟨c'', hc'', rfl⟩

theorem Heard.of_loop {c₁ c₂ : Connection} {buf : Bytes} {readEnd : Connection.ReadEnd}
    (hc : conns fd = some c) (hrecv : ret.recvRet = .data buf) (hadd : c.addRecvData buf = some c₁)
    (hend : Connection.LoopEnd fd ret.zmq c₁ readEnd c₂ sent)
    (hkeeps : c₂.playerIdx = c.playerIdx → Keeps conns conns') :
    Heard fd ret conns .doTcpRead conns' sent := by
  have hidx : c₁.playerIdx = c.playerIdx := by rw [(Connection.addRecvData_some hadd).2]
  refine .frames c c₁ buf conns' sent hc hrecv hadd hend.first hend.second (fun msg hmsg => ?_)
    (hkeeps ?_)
  · rw [hend.header msg hmsg, hidx]
  · rw [hend.frame, hidx]

theorem EventStep.heard (h : EventStep fd ret conns proc conns' sent) :
    Heard fd ret conns proc conns' sent := by
  cases h with
  | idle _ => exact .quiet _ _ .refl
  | accept _ => exact .accept
  | recvFailed c _ _ => exact .quiet _ _ .release
  | closed c hc _ =>
      by_cases hidx : c.playerIdx = 0
      · simp only [ConnSvr.sendConnStop, hidx, if_true]
        exact .quiet _ _ .release
      · simp only [ConnSvr.sendConnStop, hidx, if_false]
        split
        · exact .closed c hc hidx
        · exact .quiet _ _ .release
  | overflow c buf _ _ _ => exact .quiet _ _ .release
  | forwarded c c₁ c₂ buf _ hc hrecv hadd hend => exact .of_loop hc hrecv hadd hend (.write hc)
  | cut c c₁ c₂ buf _ hc hrecv hadd hend =>
      exact .of_loop hc hrecv hadd hend (fun _ => .release)
  | written c sendBuf hc => exact .quiet _ _ (.write hc rfl)
  | sendFailed c _ _ => exact .quiet _ _ .release

theorem Keeps.serial (h : Keeps s.conn.conns conn.conns) (fd : Int) (sent : List ConnMsg)
    {f : Int} (hf : (conn.conns f).isSome) :
    (s.conn.conns f).isSome ∧ (s.afterEvent fd conn sent).serial f = s.serial f := by
  obtain ⟨c', hc'⟩ := Option.isSome_iff_exists.mp hf
  obtain ⟨c, hc, -⟩ := h f c' hc'
  have hsome := Option.isSome_iff_exists.mpr ⟨c, hc⟩
  exact ⟨hsome, afterEvent_serial hsome⟩

theorem Keeps.untouched (h : Keeps s.conn.conns conn.conns) (o : Nat) :
    Untouched s frames (s.afterEvent fd conn sent) frames o where
  frames := fun _ _ => Iff.rfl
  players := fun _ => Iff.rfl
  replies := fun _ hp _ => Or.inl hp
  conns := by
    intro f c' hc' hserial
    obtain ⟨c, hc, hidx⟩ := h f c' hc'
    rw [(h.serial fd sent (Option.isSome_iff_exists.mpr ⟨c', hc'⟩)).2] at hserial
    exact ⟨c, hc, hserial, Or.inl hidx⟩

/-- **An event that opens no connection**: all that changes is what is on its way from the
connection of the fd. -/
theorem Sessions.heard (h : Sessions s frames) (hkeeps : Keeps s.conn.conns conn.conns)
    (hphase : sent ≠ [] → s.serial fd ≤ s.events ∧
      InPhase (s.afterEvent fd conn sent) frames (s.serial fd)) :
    Sessions (s.afterEvent fd conn sent) frames := by
  refine h.step (Nat.le_succ _) (fun f hf => ?_) (fun f f' hf hf' heq => ?_) (fun o => ?_)
  · obtain ⟨hsome, hserial⟩ := hkeeps.serial fd sent hf
    rw [hserial]
    exact Nat.le_succ_of_le (h.bound f hsome)
  · obtain ⟨hsome, hserial⟩ := hkeeps.serial fd sent hf
    obtain ⟨hsome', hserial'⟩ := hkeeps.serial fd sent hf'
    rw [hserial, hserial'] at heq
    exact h.inj f f' hsome hsome' heq
  · by_cases hnil : sent = []
    · subst hnil
      exact Or.inl ⟨hkeeps.untouched o, queue_congr (List.append_nil _)⟩
    · by_cases ho : o = s.serial fd
      · subst ho
        obtain ⟨hle, hmet⟩ := hphase hnil
        exact Or.inr ⟨Nat.le_succ_of_le hle, hmet⟩
      · exact Or.inl ⟨hkeeps.untouched o, queue_append_of_ne rfl ho⟩

/-- **A connection is accepted**: it has a number that nothing has. -/
theorem Sessions.accept (h : Sessions s frames) {r : Int} (hnone : s.conn.conns r = none)
    (hconns : conn.conns =
      Function.update s.conn.conns r (some (ConnSvr.accepted r))) :
    Sessions (s.afterEvent fd conn []) frames := by
  have hnew : (s.afterEvent fd conn []).serial r = s.events + 1 := by
    refine if_pos ⟨?_, ?_⟩
    · rw [hnone]
      rfl
    · rw [hconns, Function.update_self]
      rfl
  have hold : ∀ f, f ≠ r → ∀ c', conn.conns f = some c' → s.conn.conns f = some c' ∧
      (s.afterEvent fd conn []).serial f = s.serial f := by
    intro f hf c' hc'
    rw [hconns, Function.update_of_ne hf] at hc'
    exact ⟨hc', afterEvent_serial (Option.isSome_iff_exists.mpr ⟨c', hc'⟩)⟩
  have hle : ∀ f, f ≠ r → (conn.conns f).isSome →
      (s.conn.conns f).isSome ∧ (s.afterEvent fd conn []).serial f = s.serial f ∧
        s.serial f ≤ s.events := by
    intro f hf hsome
    obtain ⟨c', hc'⟩ := Option.isSome_iff_exists.mp hsome
    obtain ⟨hc, hserial⟩ := hold f hf c' hc'
    have hsome := Option.isSome_iff_exists.mpr ⟨c', hc⟩
    exact ⟨hsome, hserial, h.bound f hsome⟩
  have hqueue : ∀ o, (s.afterEvent fd conn []).queue o = s.queue o := by
    intro o
    exact queue_congr (List.append_nil _)
  refine h.step (Nat.le_succ _) (fun f hf => ?_) (fun f f' hf hf' heq => ?_) (fun o => ?_)
  · by_cases hfr : f = r
    · rw [hfr, hnew]
      exact Nat.le_refl _
    · obtain ⟨-, hserial, hbound⟩ := hle f hfr hf
      rw [hserial]
      exact Nat.le_succ_of_le hbound
  · by_cases hfr : f = r
    · by_cases hfr' : f' = r
      · exact hfr.trans hfr'.symm
      · obtain ⟨-, hserial, hbound⟩ := hle f' hfr' hf'
        rw [hfr, hnew, hserial] at heq
        exact absurd hbound (heq ▸ Nat.not_succ_le_self _)
    · obtain ⟨hsome, hserial, hbound⟩ := hle f hfr hf
      by_cases hfr' : f' = r
      · rw [hfr', hnew, hserial] at heq
        exact absurd hbound (heq ▸ Nat.not_succ_le_self _)
      · obtain ⟨hsome', hserial', -⟩ := hle f' hfr' hf'
        rw [hserial, hserial'] at heq
        exact h.inj f f' hsome hsome' heq
  · by_cases ho : o = s.events + 1
    · subst ho
      obtain ⟨hunmet, hnil⟩ := h.fresh (s.events + 1) (Nat.lt_succ_self _)
      refine Or.inr ⟨Nat.le_refl _, Or.inl ⟨hunmet.unseen, hunmet.players, hunmet.replies, ?_,
        Or.inl ((hqueue _).trans hnil)⟩⟩
      intro f c' hc' hserial
      by_cases hfr : f = r
      · subst hfr
        have hc'' : conn.conns f = some c' := hc'
        rw [hconns, Function.update_self] at hc''
        cases hc''
        rfl
      · obtain ⟨-, hold, hbound⟩ := hle f hfr (Option.isSome_iff_exists.mpr ⟨c', hc'⟩)
        rw [hold] at hserial
        exact absurd hbound (hserial ▸ Nat.not_succ_le_self _)
    · refine Or.inl ⟨⟨fun _ _ => Iff.rfl, fun _ => Iff.rfl, fun _ hp _ => Or.inl hp, ?_⟩, hqueue o⟩
      intro f c' hc' hserial
      have hfr : f ≠ r := by
        rintro rfl
        exact ho (hserial.symm.trans hnew)
      obtain ⟨hc, hold⟩ := hold f hfr c' hc'
      exact ⟨c', hc, hold.symm.trans hserial, Or.inl rfl⟩

theorem Sessions.event (h : Sessions s frames) {isRead : Bool}
    (hnone : s.conn.conns ret.acceptRet = none) (hproc : s.conn.handler fd isRead = some proc)
    (hstep : EventStep fd ret s.conn.conns proc conn.conns sent)
    (hok : s.Paced (.event fd isRead ret)) : Sessions (s.afterEvent fd conn sent) frames := by
  generalize hconns : conn.conns = conns' at hstep
  cases EventStep.heard hstep with
  | quiet _ _ hkeeps =>
      subst hconns
      exact h.heard hkeeps (fun hne => absurd rfl hne)
  | accept => exact h.accept hnone hconns
  | frames c c₁ buf _ _ hc hrecv hadd hfirst hsecond hheader hkeeps =>
      subst hconns
      have hsome := Option.isSome_iff_exists.mpr ⟨c, hc⟩
      have hu : Untouched s frames (s.afterEvent fd conn sent) frames (s.serial fd) :=
        hkeeps.untouched _
      refine h.heard hkeeps (fun hne => ⟨h.bound fd hsome, ?_⟩)
      by_cases hidx : c.playerIdx = 0
      · -- the client does not know its player: this is its first frame
        obtain ⟨hsingle, hstarting, hplayers⟩ :=
          hok hproc c c₁ buf hc hidx hrecv hadd (hfirst hne)
        obtain ⟨msg, rfl⟩ : ∃ msg, sent = [msg] := by
          refine List.length_eq_one_iff.mp (Nat.le_antisymm (Nat.not_lt.mp ?_)
            (List.length_pos_iff.mpr hne))
          exact fun hlt => hsingle (hsecond hlt)
        have hcmd : msg.connData.connCmd = .connStart := by
          rw [hheader msg List.mem_cons_self, if_pos hidx]
        rcases h.phase (s.serial fd) with hunmet | ⟨k, hserved⟩
        · have hqueue : (s.afterEvent fd conn [msg]).queue (s.serial fd) =
              s.queue (s.serial fd) ++ [msg] := queue_append rfl
          refine Or.inl (hunmet.sends hu (Or.inr ⟨msg, hcmd, ?_⟩))
          rw [hqueue]
          rcases hunmet.queue with hnil | ⟨m, hm, hone⟩
          · rw [hnil, List.nil_append]
          · have hmem : (m, s.serial fd) ∈ s.toGame := by
              rw [← mem_queue, hone]
              exact List.mem_cons_self
            exact absurd ⟨(m, s.serial fd), hmem, hm, rfl⟩ hstarting
        · obtain ⟨hk, ho⟩ := hserved.live (Or.inl ⟨fd, hsome, rfl⟩)
          exact absurd ho (hplayers k hk)
      · rcases h.phase (s.serial fd) with hunmet | ⟨k, hserved⟩
        · exact absurd (hunmet.learned fd c hc rfl) hidx
        · have hk := (hserved.learned fd c hc rfl).resolve_left hidx
          have hframe : ∀ msg ∈ sent, msg.connData.connCmd = .connProc ∧
              msg.connData.playerIdx = k := by
            intro msg hmsg
            rw [hheader msg hmsg, if_neg hidx]
            exact ⟨rfl, hk⟩
          have htalk : ∀ l : List ConnMsg, (∀ msg ∈ l, msg.connData.connCmd = .connProc ∧
              msg.connData.playerIdx = k) → Talk k l := by
            intro l hl
            induction l with
            | nil => exact .nil
            | cons m rest ih =>
                obtain ⟨hcmd, hmk⟩ := hl m List.mem_cons_self
                exact .proc m rest hcmd hmk (ih (fun x hx => hl x (List.mem_cons_of_mem _ hx)))
          refine Or.inr ⟨k, hserved.sends hu (queue_append rfl) (htalk sent hframe)
            (fun _ => ⟨fd, hsome, rfl⟩) (fun msg hmsg hstop => ?_)⟩
          rw [(hframe msg hmsg).1] at hstop
          cases hstop
  | closed c hc hidx =>
      have hkeeps : Keeps s.conn.conns conn.conns := by
        rw [hconns]
        exact .release
      have hsome := Option.isSome_iff_exists.mpr ⟨c, hc⟩
      refine h.heard hkeeps (fun hne => ⟨h.bound fd hsome, ?_⟩)
      rcases h.phase (s.serial fd) with hunmet | ⟨k, hserved⟩
      · exact absurd (hunmet.learned fd c hc rfl) hidx
      · have hk := (hserved.learned fd c hc rfl).resolve_left hidx
        refine Or.inr ⟨k, hserved.sends (hkeeps.untouched _) (queue_append rfl) (.stop _ rfl hk)
          (fun _ => ⟨fd, hsome, rfl⟩) (fun msg _ _ => ?_)⟩
        -- no other fd has the number of the connection that is closed
        rintro ⟨f, hopen, hserial⟩
        obtain ⟨hsome', hold⟩ := hkeeps.serial fd [⟨⟨0, c.playerIdx, .connStop⟩, []⟩] hopen
        rw [hold] at hserial
        obtain rfl := h.inj f fd hsome' hsome hserial
        have hreleased : (conn.conns f).isSome := hopen
        rw [hconns, Function.update_self] at hreleased
        cases hreleased

end

/-! ### A message of gamesvr -/

section
variable {codec : Codec} {s s' start : System} {i : Input} {o k : Nat} {frames : List Frame}
  {msg : ConnMsg} {rest : List (ConnMsg × Nat)} {conn : ConnSvr} {sendRet : SendRet} {ctl : Bool}
  {c : Connection}

theorem notePlayer_sendBuf (connData : ConnData) (c : Connection) (sendBuf : Bytes) :
    (notePlayer connData { c with sendBuf := sendBuf }).playerIdx =
      (notePlayer connData c).playerIdx := by
  unfold notePlayer
  cases connData.connCmd with
  | connStart => rfl
  | connProc =>
      dsimp only
      split <;> rfl
  | connStop => rfl

theorem notePlayer_learns (connData : ConnData) (c : Connection) :
    (notePlayer connData c).playerIdx = c.playerIdx ∨
      (notePlayer connData c).playerIdx = connData.playerIdx := by
  unfold notePlayer
  cases connData.connCmd with
  | connStart => exact Or.inr rfl
  | connProc =>
      dsimp only
      split
      · exact Or.inr rfl
      · exact Or.inl rfl
  | connStop => exact Or.inl rfl

/-- What a connection knows after a message of gamesvr: the player it knew, or the one that
the message tells it. -/
theorem DeliverStep.learns {conns conns' : ConnTable}
    (h : DeliverStep msg sendRet conns conns') : ∀ f c', conns' f = some c' →
      ∃ c, conns f = some c ∧ (c'.playerIdx = c.playerIdx ∨ f = msg.connData.connFd ∧
        (notePlayer msg.connData c).playerIdx ≠ c.playerIdx ∧
        c'.playerIdx = msg.connData.playerIdx) := by
  have hkept : Keeps conns conns' → ∀ f c', conns' f = some c' →
      ∃ c, conns f = some c ∧ (c'.playerIdx = c.playerIdx ∨ f = msg.connData.connFd ∧
        (notePlayer msg.connData c).playerIdx ≠ c.playerIdx ∧
        c'.playerIdx = msg.connData.playerIdx) := by
    intro hkeeps f c' hc'
    obtain ⟨c, hc, hidx⟩ := hkeeps f c' hc'
    exact ⟨c, hc, Or.inl hidx⟩
  cases h with
  | dropped => exact hkept .refl
  | failed c payload _ _ => exact hkept .release
  | stopped c _ _ => exact hkept .release
  | passed c sendBuf hc _ =>
      by_cases hsame : (notePlayer msg.connData c).playerIdx = c.playerIdx
      · exact hkept (.write hc ((notePlayer_sendBuf _ _ _).trans hsame))
      · intro f c' hc'
        by_cases hf : f = msg.connData.connFd
        · subst hf
          rw [Function.update_self] at hc'
          cases hc'
          refine ⟨c, hc, Or.inr ⟨rfl, hsame, ?_⟩⟩
          rw [notePlayer_sendBuf]
          exact (notePlayer_learns _ _).resolve_left hsame
        · rw [Function.update_of_ne hf] at hc'
          exact ⟨c', hc', Or.inl rfl⟩

theorem Sessions.deliver (h : Sessions s frames) (hq : s.toConn = (msg, o) :: rest)
    (hstep : DeliverStep msg sendRet s.conn.conns conn.conns)
    (hok : s.Paced (.toConn sendRet ctl)) :
    Sessions { s with conn := conn, toConn := rest } frames := by
  have hlearns := DeliverStep.learns hstep
  have hopen : ∀ f, (conn.conns f).isSome → (s.conn.conns f).isSome := by
    intro f hf
    exact hstep.not_opened hf
  refine h.step (Nat.le_refl _) (fun f hf => h.bound f (hopen f hf))
    (fun f f' hf hf' heq => h.inj f f' (hopen f hf) (hopen f' hf') heq) (fun o' => Or.inl ⟨?_, rfl⟩)
  refine ⟨fun _ _ => Iff.rfl, fun _ => Iff.rfl, fun p hp _ => Or.inl ?_, ?_⟩
  · rw [hq]
    exact List.mem_cons_of_mem _ hp
  · intro f c' hc' hserial
    obtain ⟨c, hc, hidx | ⟨rfl, hne, hidx⟩⟩ := hlearns f c' hc'
    · exact ⟨c, hc, hserial, Or.inl hidx⟩
    · have hown : s.serial msg.connData.connFd = o := hok msg o rest c hq hc hne
      refine ⟨c, hc, hserial, Or.inr ⟨(msg, o), ?_, hown.symm.trans hserial, hidx⟩⟩
      rw [hq]
      exact List.mem_cons_self

/-! ### A step of gamesvr -/

theorem mem_stamp_addressed {m : ObjMgrModule} {owner : Nat → Nat} {out : List ConnMsg}
    (hout : ∀ msg ∈ out, Addressed m msg) {p : ConnMsg × Nat} (hp : p ∈ stamp owner out) :
    ∃ k : Nat, p.1.connData.playerIdx = k ∧ m.Live k ∧ owner k = p.2 := by
  obtain ⟨hmem, howner⟩ := mem_stamp.mp hp
  obtain ⟨k, hk, hidx, -⟩ := hout p.1 hmem
  rw [hidx, Int.toNat_natCast] at howner
  exact ⟨k, hidx, hk, howner⟩

/-- **gamesvr answers datasvr**, or its instances run out of time. -/
theorem Sessions.answered (h : Sessions s frames) {game : GameSvr} {out : List ConnMsg}
    (hlive : ∀ k, game.objMgr.Live k ↔ s.game.objMgr.Live k)
    (hout : ∀ msg ∈ out, Addressed s.game.objMgr msg) :
    Sessions { s with game := game, toConn := s.toConn ++ stamp s.owner out } frames := by
  refine h.step (Nat.le_refl _) h.bound h.inj (fun o => Or.inl ⟨?_, rfl⟩)
  refine ⟨fun _ _ => Iff.rfl, fun k => and_congr_left' (hlive k), fun p hp ho => ?_,
    fun f c' hc' hserial => ⟨c', hc', hserial, Or.inl rfl⟩⟩
  rcases List.mem_append.mp hp with hp | hp
  · exact Or.inl hp
  · obtain ⟨k, hidx, hk, howner⟩ := mem_stamp_addressed hout hp
    exact Or.inr ⟨k, hidx, hk, howner.trans ho⟩

theorem queue_head (hq : s.toGame = (msg, o) :: rest) (htail : s'.toGame = rest) :
    s.queue o = msg :: s'.queue o ∧ ∀ o', o' ≠ o → s'.queue o' = s.queue o' := by
  constructor
  · simp [queue, hq, htail]
  · intro o' hne
    simp [queue, hq, htail, Ne.symm hne]

theorem InPhase.served (h : InPhase s frames o) (hhead : s.queue o = msg :: s'.queue o)
    (hcmd : msg.connData.connCmd ≠ .connStart) : ∃ k, Served s frames o k := by
  rcases h with h | h
  · rcases h.queue with hnil | ⟨m, hm, hone⟩
    · rw [hnil] at hhead
      cases hhead
    · rw [hone] at hhead
      rw [← (List.cons.inj hhead).1] at hcmd
      exact absurd hm hcmd
  · exact h

theorem Served.head (h : Served s frames o k) (hhead : s.queue o = msg :: s'.queue o) :
    msg.connData.playerIdx = k := by
  have htalk := h.talk
  rw [hhead] at htalk
  generalize s'.queue o = l at htalk
  cases htalk with
  | proc _ _ _ hidx _ => exact hidx
  | stop _ _ hidx => exact hidx

theorem Unmet.started (h : Unmet s frames o) {frames' : List Frame} {out : List ConnMsg}
    (hqueue : s'.queue o = []) (hconn : s'.conn = s.conn) (hserial : s'.serial = s.serial)
    (hframes : frames' = frames ++ [⟨o, k⟩])
    (hlive : ∀ j, s'.game.objMgr.Live j ↔ s.game.objMgr.Live j ∨ j = k)
    (howner : ∀ j, s.game.objMgr.Live j → s'.owner j = s.owner j) (hk : s'.owner k = o)
    (htoConn : s'.toConn = s.toConn ++ stamp s'.owner out)
    (hout : ∀ msg ∈ out, Addressed s'.game.objMgr msg) : Served s' frames' o k := by
  have honly : ∀ j, s'.game.objMgr.Live j → s'.owner j = o → j = k := by
    intro j hj ho
    rcases (hlive j).mp hj with hold | rfl
    · exact absurd ((howner j hold).symm.trans ho) (h.players j hold)
    · rfl
  refine ⟨⟨⟨o, k⟩, ?_, rfl⟩, ?_, honly, ?_, ?_, ?_, ?_, ?_⟩
  · rw [hframes]
    exact List.mem_append_right _ List.mem_cons_self
  · intro f hf ho
    rw [hframes] at hf
    rcases List.mem_append.mp hf with hf | hf
    · exact absurd ho (h.unseen f hf)
    · rw [List.mem_singleton.mp hf]
  · intro p hp ho
    rw [htoConn] at hp
    rcases List.mem_append.mp hp with hp | hp
    · exact absurd ho (h.replies p hp)
    · obtain ⟨j, hidx, hj, hown⟩ := mem_stamp_addressed hout hp
      rw [hidx, honly j hj (hown.trans ho)]
  · intro f c hc ho
    rw [hconn] at hc
    rw [hserial] at ho
    exact Or.inl (h.learned f c hc ho)
  · rw [hqueue]
    exact .nil
  · rw [hqueue]
    exact fun _ hm => absurd hm List.not_mem_nil
  · exact fun _ => ⟨(hlive k).mpr (Or.inr rfl), hk⟩

/-- **The next message** of a connection with a player is taken. -/
theorem Served.taken (h : Served s frames o k) {frames' : List Frame} {out : List ConnMsg}
    (hqueue : s.queue o = msg :: s'.queue o) (hconn : s'.conn = s.conn)
    (hserial : s'.serial = s.serial) (hframes : ∀ f : Frame, f ∈ frames' ↔
      f ∈ frames ∨ msg.connData.connCmd = .connProc ∧ f = ⟨o, k⟩)
    (hlive : ∀ j, s'.game.objMgr.Live j ↔
      s.game.objMgr.Live j ∧ (msg.connData.connCmd = .connStop → msg.connData.playerIdx ≠ j))
    (howner : ∀ j, s.game.objMgr.Live j → s'.owner j = s.owner j)
    (htoConn : s'.toConn = s.toConn ++ stamp s'.owner out)
    (hout : ∀ msg ∈ out, Addressed s.game.objMgr msg) : Served s' frames' o k := by
  have hlives : s'.Lives o → s.Lives o := by
    rintro ⟨f, hopen, ho⟩
    rw [hconn] at hopen
    rw [hserial] at ho
    exact ⟨f, hopen, ho⟩
  have hnext : Talk k (s'.queue o) ∧ (msg.connData.connCmd = .connStop → s'.queue o = []) := by
    have htalk := h.talk
    rw [hqueue] at htalk
    generalize s'.queue o = l at htalk
    cases htalk with
    | proc _ _ hcmd _ hrest =>
        refine ⟨hrest, fun hstop => ?_⟩
        rw [hcmd] at hstop
        cases hstop
    | stop _ hcmd _ => exact ⟨.nil, fun _ => rfl⟩
  have hgone : ∀ m ∈ s'.queue o, m.connData.connCmd = .connStop → ¬ s'.Lives o := by
    intro m hm hcmd hl
    refine h.gone m ?_ hcmd (hlives hl)
    rw [hqueue]
    exact List.mem_cons_of_mem _ hm
  refine ⟨?_, ?_, ?_, ?_, ?_, hnext.1, hgone, ?_⟩
  · obtain ⟨f, hf, ho⟩ := h.seen
    exact ⟨f, (hframes f).mpr (Or.inl hf), ho⟩
  · intro f hf ho
    rcases (hframes f).mp hf with hf | ⟨-, rfl⟩
    · exact h.same f hf ho
    · rfl
  · intro j hj ho
    have hold := ((hlive j).mp hj).1
    exact h.only j hold ((howner j hold).symm.trans ho)
  · intro p hp ho
    rw [htoConn] at hp
    rcases List.mem_append.mp hp with hp | hp
    · exact h.replies p hp ho
    · obtain ⟨j, hidx, hj, hown⟩ := mem_stamp_addressed hout hp
      rw [hidx, h.only j hj ((howner j hj).symm.trans (hown.trans ho))]
  · intro f c hc ho
    rw [hconn] at hc
    rw [hserial] at ho
    exact h.learned f c hc ho
  · intro hor
    obtain ⟨hk, ho⟩ := h.live (Or.inr (hqueue ▸ List.cons_ne_nil _ _))
    have hcmd : msg.connData.connCmd ≠ .connStop := by
      intro hstop
      rcases hor with hl | hne
      · exact h.gone msg (hqueue ▸ List.mem_cons_self) hstop (hlives hl)
      · exact hne (hnext.2 hstop)
    exact ⟨(hlive k).mpr ⟨hk, fun hstop => absurd hstop hcmd⟩, (howner k hk).trans ho⟩

theorem Sessions.taken (h : Sessions s frames) {frames' : List Frame} {origin : Nat}
    {out : List ConnMsg} (hq : s.toGame = (msg, origin) :: rest) (htoGame : s'.toGame = rest)
    (hconn : s'.conn = s.conn) (hserial : s'.serial = s.serial) (hevents : s'.events = s.events)
    (hframes : ∀ f : Frame, f.origin ≠ origin → (f ∈ frames' ↔ f ∈ frames))
    (hplayers : ∀ o k, o ≠ origin →
      (s'.game.objMgr.Live k ∧ s'.owner k = o ↔ s.game.objMgr.Live k ∧ s.owner k = o))
    (htoConn : s'.toConn = s.toConn ++ stamp s'.owner out)
    (hout : ∀ p ∈ stamp s'.owner out, p.2 ≠ origin →
      ∃ k : Nat, p.1.connData.playerIdx = k ∧ s.game.objMgr.Live k ∧ s.owner k = p.2)
    (hphase : InPhase s' frames' origin) : Sessions s' frames' := by
  obtain ⟨hhead, hothers⟩ := queue_head hq htoGame
  have hle : origin ≤ s.events := by
    refine Nat.not_lt.mp (fun hlt => ?_)
    rw [(h.fresh origin hlt).2] at hhead
    cases hhead
  refine h.step (Nat.le_of_eq hevents.symm) ?_ ?_ (fun o => ?_)
  · rw [hconn, hserial, hevents]
    exact h.bound
  · rw [hconn, hserial]
    exact h.inj
  · by_cases ho : o = origin
    · rw [ho, hevents]
      exact Or.inr ⟨hle, hphase⟩
    · refine Or.inl ⟨⟨fun f hf => hframes f (hf.symm ▸ ho), fun k => hplayers o k ho,
        fun p hp hpo => ?_, ?_⟩, hothers o ho⟩
      · rw [htoConn] at hp
        rcases List.mem_append.mp hp with hp | hp
        · exact Or.inl hp
        · obtain ⟨k, hidx, hk, hown⟩ := hout p hp (hpo.symm ▸ ho)
          exact Or.inr ⟨k, hidx, hk, hown.trans hpo⟩
      · rw [hconn, hserial]
        exact fun f c' hc' hf => ⟨c', hc', hf, Or.inl rfl⟩

/-- What gamesvr changes when it takes a message of `origin`. -/
structure Takes (s : System) (origin : Nat) (rest : List (ConnMsg × Nat)) (game : GameSvr)
    (out : List ConnMsg) (s' : System) : Prop where
  next : s'.game = game
  toGame : s'.toGame = rest
  conn : s'.conn = s.conn
  serial : s'.serial = s.serial
  events : s'.events = s.events
  toConn : s'.toConn = s.toConn ++ stamp s'.owner out
  owner : ∀ k, s.game.objMgr.Live k → s'.owner k = s.owner k
  newOwner : ∀ k, ¬ s.game.objMgr.Live k → game.objMgr.Live k → s'.owner k = origin

theorem takes_afterGame {origin : Nat} {game : GameSvr} {out : GameOut} :
    Takes s origin rest game out.toConnsvr
      ({ s with toGame := rest }.afterGame origin game out) where
  next := rfl
  toGame := rfl
  conn := rfl
  serial := rfl
  events := rfl
  toConn := rfl
  owner := fun _ hk => if_neg (fun h => h.1 hk)
  newOwner := fun _ hno hk => if_pos ⟨hno, hk⟩

section
variable {origin : Nat} {game : GameSvr} {out : List ConnMsg}

theorem Takes.stamped (ht : Takes s origin rest game out s')
    (hout : ∀ msg ∈ out, Addressed s.game.objMgr msg) : ∀ p ∈ stamp s'.owner out, p.2 ≠ origin →
      ∃ k : Nat, p.1.connData.playerIdx = k ∧ s.game.objMgr.Live k ∧ s.owner k = p.2 := by
  intro p hp _
  obtain ⟨k, hidx, hk, hown⟩ := mem_stamp_addressed hout hp
  exact ⟨k, hidx, hk, (ht.owner k hk).symm.trans hown⟩

theorem mem_frames_other {f : Frame} (hf : f.origin ≠ origin) :
    f ∈ frames ++ [⟨origin, k⟩] ↔ f ∈ frames := by
  rw [List.mem_append, List.mem_singleton, or_iff_left]
  rintro rfl
  exact hf rfl

theorem Sessions.started (h : Sessions s frames) (hq : s.toGame = (msg, origin) :: rest)
    (ht : Takes s origin rest game out s') (hcmd : msg.connData.connCmd = .connStart)
    (hfresh : ¬ s.game.objMgr.Live k)
    (hlive : ∀ j, game.objMgr.Live j ↔ s.game.objMgr.Live j ∨ j = k)
    (hout : ∀ msg ∈ out, Addressed game.objMgr msg) :
    Sessions s' (frames ++ [⟨origin, k⟩]) := by
  obtain ⟨hhead, -⟩ := queue_head hq ht.toGame
  have hk : s'.owner k = origin := ht.newOwner k hfresh ((hlive k).mpr (Or.inr rfl))
  have hold : ∀ j o, o ≠ origin → game.objMgr.Live j → s'.owner j = o → s.game.objMgr.Live j := by
    intro j o ho hj hjo
    rcases (hlive j).mp hj with hj | rfl
    · exact hj
    · exact absurd (hjo.symm.trans hk) ho
  refine h.taken hq ht.toGame ht.conn ht.serial ht.events (fun f hf => mem_frames_other hf)
    (fun o j ho => ?_) ht.toConn (fun p hp hpo => ?_) ?_
  · rw [ht.next]
    constructor
    · rintro ⟨hj, hjo⟩
      have hj' := hold j o ho hj hjo
      exact ⟨hj', (ht.owner j hj').symm.trans hjo⟩
    · rintro ⟨hj, hjo⟩
      exact ⟨(hlive j).mpr (Or.inl hj), (ht.owner j hj).trans hjo⟩
  · obtain ⟨j, hidx, hj, hown⟩ := mem_stamp_addressed hout hp
    have hj' := hold j p.2 hpo hj hown
    exact ⟨j, hidx, hj', (ht.owner j hj').symm.trans hown⟩
  · rcases h.phase origin with hunmet | ⟨j, hserved⟩
    · refine Or.inr ⟨k, hunmet.started ?_ ht.conn ht.serial rfl (by rw [ht.next]; exact hlive)
        ht.owner hk ht.toConn (by rw [ht.next]; exact hout)⟩
      rcases hunmet.queue with hnil | ⟨m, -, hone⟩
      · rw [hnil] at hhead
        cases hhead
      · rw [hone] at hhead
        exact (List.cons.inj hhead).2.symm
    · -- a connection with a player sends no more of them
      have htalk := hserved.talk
      rw [hhead] at htalk
      generalize s'.queue origin = l at htalk
      cases htalk with
      | proc _ _ hproc _ _ =>
          rw [hcmd] at hproc
          cases hproc
      | stop _ hstop _ =>
          rw [hcmd] at hstop
          cases hstop

theorem Sessions.processed (h : Sessions s frames) (hq : s.toGame = (msg, origin) :: rest)
    (ht : Takes s origin rest game out s') (hcmd : msg.connData.connCmd = .connProc)
    (hserved : Served s frames origin k)
    (hlive : ∀ j, game.objMgr.Live j ↔ s.game.objMgr.Live j)
    (hout : ∀ msg ∈ out, Addressed s.game.objMgr msg) :
    Sessions s' (frames ++ [⟨origin, k⟩]) := by
  obtain ⟨hhead, -⟩ := queue_head hq ht.toGame
  refine h.taken hq ht.toGame ht.conn ht.serial ht.events (fun f hf => mem_frames_other hf)
    (fun o j ho => ?_) ht.toConn (ht.stamped hout)
    (Or.inr ⟨k, hserved.taken hhead ht.conn ht.serial (fun f => ?_) (fun j => ?_) ht.owner ht.toConn
      hout⟩)
  · rw [ht.next, hlive j]
    exact and_congr_right (fun hj => by rw [ht.owner j hj])
  · rw [List.mem_append, List.mem_singleton, hcmd]
    simp
  · rw [ht.next, hlive j, hcmd]
    simp

theorem Sessions.stopped (h : Sessions s frames) (hq : s.toGame = (msg, origin) :: rest)
    (ht : Takes s origin rest game out s') (hcmd : msg.connData.connCmd = .connStop)
    (hserved : Served s frames origin k)
    (hlive : ∀ j, game.objMgr.Live j ↔ s.game.objMgr.Live j ∧ msg.connData.playerIdx ≠ j)
    (hout : ∀ msg ∈ out, Addressed s.game.objMgr msg) : Sessions s' frames := by
  obtain ⟨hhead, -⟩ := queue_head hq ht.toGame
  obtain ⟨hk, hko⟩ := hserved.live (Or.inr (hhead ▸ List.cons_ne_nil _ _))
  refine h.taken hq ht.toGame ht.conn ht.serial ht.events (fun _ _ => Iff.rfl) (fun o j ho => ?_)
    ht.toConn (ht.stamped hout)
    (Or.inr ⟨k, hserved.taken hhead ht.conn ht.serial (fun f => ?_) (fun j => ?_) ht.owner ht.toConn
      hout⟩)
  · rw [ht.next, hlive j, hserved.head hhead]
    constructor
    · rintro ⟨⟨hj, -⟩, hjo⟩
      exact ⟨hj, (ht.owner j hj).symm.trans hjo⟩
    · rintro ⟨hj, hjo⟩
      refine ⟨⟨hj, fun e => ?_⟩, (ht.owner j hj).trans hjo⟩
      -- the player that is deleted is one of this connection
      obtain rfl := Int.natCast_inj.mp e
      exact ho (hjo.symm.trans hko)
  · rw [hcmd]
    simp
  · rw [ht.next, hlive j, hcmd]
    simp

end

theorem Sessions.game (h : Sessions s frames) {origin : Nat} {game : GameSvr} {out : GameOut}
    {ret : GameRet} (hq : s.toGame = (msg, origin) :: rest)
    (hstep : GameSvr.ConnsvrStep s.game.objMgr msg game.objMgr out.toConnsvr) :
    Sessions ({ s with toGame := rest }.afterGame origin game out)
      (frames ++ s.frame (.toGame ret)) := by
  have ht : Takes s origin rest game out.toConnsvr
      ({ s with toGame := rest }.afterGame origin game out) := takes_afterGame
  obtain ⟨hhead, -⟩ := queue_head hq ht.toGame
  cases hstep with
  | started k hcmd hfree hfresh hlive _ _ hout =>
      have hframe : s.frame (.toGame ret) = [⟨origin, k⟩] := by
        simp only [frame, hq, hcmd, hfree]
      rw [hframe]
      exact h.started hq ht hcmd hfresh hlive hout
  | processed hcmd hsame hout =>
      obtain ⟨k, hserved⟩ := (h.phase origin).served hhead (by rw [hcmd]; exact fun h => nomatch h)
      have hframe : s.frame (.toGame ret) = [⟨origin, k⟩] := by
        simp only [frame, hq, hcmd, hserved.head hhead]
      rw [hframe]
      exact h.processed hq ht hcmd hserved hsame.live hout
  | stopped hcmd hlive _ hout =>
      obtain ⟨k, hserved⟩ := (h.phase origin).served hhead (by rw [hcmd]; exact fun h => nomatch h)
      have hframe : s.frame (.toGame ret) = [] := by
        simp only [frame, hq, hcmd]
      rw [hframe, List.append_nil]
      exact h.stopped hq ht hcmd hserved hlive hout

/-! ## Runs -/

theorem Started.sessions (h : start.Started) : Sessions start [] := by
  obtain ⟨n, n₁, n₂, n₃, rawConn, rawPlayer, rawCity, listenFd, now, hconn, hgame, hg, hc⟩ := h
  have hnone : ∀ fd c, start.conn.conns fd ≠ some c := by
    intro fd c hsome
    rw [(ConnSvr.init_spec hconn).2 fd] at hsome
    cases hsome
  have hclosed : ∀ fd, ¬ (start.conn.conns fd).isSome := by
    intro fd hsome
    obtain ⟨c, hc⟩ := Option.isSome_iff_exists.mp hsome
    exact hnone fd c hc
  have hqueue : ∀ o, start.queue o = [] := by
    intro o
    simp [queue, hg]
  have hunmet : ∀ o, Unmet start [] o := by
    intro o
    refine ⟨fun _ h => absurd h List.not_mem_nil, fun k hk => ?_, fun p hp => ?_,
      fun fd c hc => absurd hc (hnone fd c), Or.inl (hqueue o)⟩
    · rw [hgame] at hk
      exact absurd hk ShmPool.init_not_allocated
    · rw [hc] at hp
      exact absurd hp List.not_mem_nil
  exact ⟨fun fd h => absurd h (hclosed fd), fun fd _ h => absurd h (hclosed fd),
    fun o _ => ⟨hunmet o, hqueue o⟩, fun o => Or.inl (hunmet o)⟩

theorem Moves.sessions (h : Sessions s frames) (hp : s.Possible i) (hok : s.Paced i)
    (hmove : Moves codec s i s') : Sessions s' (frames ++ s.frame i) := by
  cases hmove with
  | event fd isRead ret proc conn sent _ hproc hstep =>
      show Sessions _ (frames ++ [])
      rw [List.append_nil]
      exact h.event hp hproc hstep hok
  | deliver sendRet ctl msg o rest conn hq _ hstep =>
      show Sessions _ (frames ++ [])
      rw [List.append_nil]
      exact h.deliver hq hstep hok
  | game ret msg origin rest game out hq _ hstep => exact h.game hq hstep
  | datasvr msg ret game out hsame hout =>
      show Sessions _ (frames ++ [])
      rw [List.append_nil]
      exact h.answered hsame.live hout
  | update now game hobj =>
      show Sessions _ (frames ++ [])
      rw [List.append_nil]
      refine h.step (Nat.le_refl _) h.bound h.inj (fun o => Or.inl ⟨?_, rfl⟩)
      refine ⟨fun _ _ => Iff.rfl, fun k => ?_, fun _ hp _ => Or.inl hp,
        fun f c' hc' hserial => ⟨c', hc', hserial, Or.inl rfl⟩⟩
      show game.objMgr.Live k ∧ _ ↔ _
      rw [hobj]
  | empty _ hempty =>
      have hframe : s.frame i = [] := by
        cases i with
        | toGame ret =>
            unfold frame
            rw [hempty ret rfl]
        | _ => rfl
      rw [hframe, List.append_nil]
      exact h

/-- **Every state** of a run whose clients wait for the first reply. -/
theorem Recorded.sessions (hstart : start.Started) (h : Recorded codec Paced start s frames) :
    s.Tables ∧ Sessions s frames := by
  induction h with
  | start => exact ⟨hstart.tables, hstart.sessions⟩
  | step i _ hp hok hstep ih =>
      obtain ⟨htables, hsessions⟩ := ih
      have hmove := step_moves htables hp hstep
      exact ⟨hmove.tables htables, hmove.sessions hsessions hp hok⟩

/-- **A connection has one player**, in every run in which a client waits for the reply to
its first frame, and no connection learns its player from a reply to another: no two
players in use have been allocated for one connection, the first frame of a connection is a
`CONN_START`, and the next ones are processed against the player that it was taken for,
which is in use and belongs to the connection. -/
theorem run_onePlayer (hstart : start.Started) (h : Recorded codec Paced start s frames) :
    (∀ j k, s.game.objMgr.Live j → s.game.objMgr.Live k → s.owner j = s.owner k → j = k) ∧
    ∀ msg o rest, s.toGame = (msg, o) :: rest → msg.connData.connCmd ≠ .connStop →
      ((∀ f ∈ frames, f.origin ≠ o) → msg.connData.connCmd = .connStart) ∧
      ∀ f ∈ frames, f.origin = o → msg.connData.connCmd = .connProc ∧
        ∃ k : Nat, msg.connData.playerIdx = k ∧ f.player = k ∧ s.game.objMgr.Live k ∧
          s.owner k = o := by
  obtain ⟨-, hs⟩ := h.sessions hstart
  refine ⟨fun j k hj hk heq => ?_, fun msg o rest hq hstop => ?_⟩
  · rcases hs.phase (s.owner k) with hunmet | ⟨l, hserved⟩
    · exact absurd rfl (hunmet.players k hk)
    · exact (hserved.only j hj heq).trans (hserved.only k hk rfl).symm
  · have hmem : msg ∈ s.queue o := by
      rw [mem_queue, hq]
      exact List.mem_cons_self
    have htail : ({ s with toGame := rest } : System).toGame = rest := rfl
    obtain ⟨hhead, -⟩ := queue_head hq htail
    rcases hs.phase o with hunmet | ⟨k, hserved⟩
    · refine ⟨fun _ => ?_, fun f hf ho => absurd ho (hunmet.unseen f hf)⟩
      rcases hunmet.queue with hnil | ⟨m, hm, hone⟩
      · rw [hnil] at hmem
        exact absurd hmem List.not_mem_nil
      · rw [hone] at hmem
        rw [List.mem_singleton.mp hmem]
        exact hm
    · refine ⟨fun hnone => ?_, fun f hf ho => ?_⟩
      · obtain ⟨f, hf, ho⟩ := hserved.seen
        exact absurd ho (hnone f hf)
      · obtain ⟨hk, hko⟩ := hserved.live (Or.inr (hhead ▸ List.cons_ne_nil _ _))
        have htalk := hserved.talk
        rw [hhead] at htalk
        generalize ({ s with toGame := rest } : System).queue o = l at htalk
        cases htalk with
        | proc _ _ hcmd hidx _ => exact ⟨hcmd, k, hidx, hserved.same f hf ho, hk, hko⟩
        | stop _ hcmd _ => exact absurd hcmd hstop

/-! ### Two frames -/

/-- A client sends a frame, gets its answer and sends another, which is processed against
the same player. -/
theorem run_onePlayer_second : ∃ s : System, s.IsOpen 5 1 ∧
    (∃ msg rest, s.toGame = (msg, 1) :: rest ∧ msg.connData = ⟨5, 1, .connProc⟩) ∧
    s.game.objMgr.Live 1 ∧ s.owner 1 = 1 ∧
    ∀ k, s.game.objMgr.Live k → s.owner k = 1 → k = 1 := by
  have haccept : fresh.Paced acceptFive := fun hread => nomatch hread
  have h₁ : Recorded headCodec Paced fresh _ _ := .step acceptFive .start rfl haccept rfl
  have hfirst : ∀ s : System, s.toGame = [] → (∀ k, ¬ s.game.objMgr.Live k) →
      s.conn.conns 5 = some (ConnSvr.accepted 5) → s.Paced (sendFive [0, 6, 10, 2, 8, 15]) := by
    intro s hq hnone hconn _ c c₁ buf hc _ hrecv hadd _
    rw [hconn] at hc
    cases hc
    cases hrecv
    cases hadd
    refine ⟨by decide, ?_, fun k hk => absurd hk (hnone k)⟩
    rintro ⟨p, hp, -⟩
    rw [hq] at hp
    exact List.not_mem_nil hp
  have h₂ := h₁.step (sendFive [0, 6, 10, 2, 8, 15]) rfl
    (hfirst _ rfl (fun _ hk => absurd hk ShmPool.init_not_allocated) rfl) rfl
  have h₃ := h₂.step (.toGame quietGame) trivial trivial rfl
  have hreply : ∀ s : System, s.serial 5 = 1 →
      s.toConn = [(⟨⟨5, 1, .connStart⟩, [10, 2, 8, 16]⟩, 1)] → s.Paced (.toConn (.sent 6) true) := by
    intro s hserial hq msg o rest c hmsg _ _
    rw [hq] at hmsg
    cases hmsg
    exact hserial
  have h₄ := h₃.step (.toConn (.sent 6) true) trivial (hreply _ rfl rfl) rfl
  have hsecond : ∀ s : System, (∃ c, s.conn.conns 5 = some c ∧ c.playerIdx = 1) →
      s.Paced (sendFive [0, 6, 10, 2, 8, 15]) := by
    rintro s ⟨c', hconn, hone⟩ _ c c₁ buf hc h0 _ _ _
    rw [hconn] at hc
    cases hc
    rw [hone] at h0
    cases h0
  have h₅ := h₄.step (sendFive [0, 6, 10, 2, 8, 15]) rfl (hsecond _ ⟨_, rfl, rfl⟩) rfl
  obtain ⟨honly, hnext⟩ := run_onePlayer fresh_started h₅
  obtain ⟨-, hsame⟩ := hnext _ 1 [] rfl (fun hstop => nomatch hstop)
  obtain ⟨-, k, hidx, -, hk, howner⟩ := hsame ⟨1, 1⟩ (by decide) rfl
  obtain rfl : 1 = k := Int.natCast_inj.mp hidx
  exact ⟨_, ⟨rfl, rfl⟩, ⟨_, _, rfl, rfl⟩, hk, howner, fun j hj hjo => honly j 1 hj hk
    (hjo.trans howner.symm)⟩

/-- **Two players for one connection.**  A client sends two frames at once; both are
forwarded as a `CONN_START`, and the second is processed against another player. -/
theorem run_twoPlayers : ∃ s : System, fresh.Started ∧
    Recorded headCodec (fun _ _ => True) fresh s [⟨1, 1⟩, ⟨1, 2⟩] ∧ s.IsOpen 5 1 ∧
    s.game.objMgr.Live 1 ∧ s.owner 1 = 1 ∧ s.game.objMgr.Live 2 ∧ s.owner 2 = 1 := by
  have h₁ : Recorded headCodec (fun _ _ => True) fresh _ _ :=
    .step acceptFive .start rfl trivial rfl
  have h₂ := h₁.step (sendFive [0, 6, 10, 2, 8, 15, 0, 6, 10, 2, 8, 15]) rfl trivial rfl
  have h₃ := h₂.step (.toGame quietGame) trivial trivial rfl
  have h₄ := h₃.step (.toGame quietGame) trivial trivial rfl
  exact ⟨_, fresh_started, h₄, ⟨rfl, rfl⟩, by decide, rfl, by decide, rfl⟩

end

end System

end PlayFrame
