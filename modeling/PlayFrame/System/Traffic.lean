/-
# `PlayFrame.System.Traffic` — what passes between the clients and gamesvr

The bytes of every connection, followed through a run of both servers: what `recv` has
brought and `send` has accepted, which packages were forwarded and which of them gamesvr has
taken, and what gamesvr has answered.  In every order of the steps, gamesvr takes the
packages of a connection in the order in which its client has sent them, none of them twice,
and its client is sent whole frames.  They answer its own packages if no fd is accepted
again while something still refers to its last connection.
-/
import PlayFrame.ConnSvr.Streams
import PlayFrame.System.OnePlayer

namespace PlayFrame

open ConnSvr (EventStep)
open ConnStream (payloadsOf)
open Connection (clientFraming payloadOf wire)

/-- What has passed for every connection: its bytes, the payloads that gamesvr has taken of
it, and those that gamesvr has answered. -/
structure Traffic where
  streams : Nat → ConnStream := fun _ => {}
  taken : Nat → List Bytes := fun _ => []
  replied : Nat → List Bytes := fun _ => []

/-- The payloads of messages to a connection. -/
def repliesOf (msgs : List (ConnMsg × Nat)) (o : Nat) : List Bytes :=
  (msgs.filter (fun p => p.2 = o)).map (fun p => p.1.payload)

namespace Traffic

/-- Another stream for a connection. -/
def put (t : Traffic) (o : Nat) (stream : ConnStream) : Traffic :=
  { t with streams := Function.update t.streams o stream }

/-- gamesvr has taken a message of a connection. -/
def take (t : Traffic) (o : Nat) (msg : ConnMsg) : Traffic :=
  { t with taken := Function.update t.taken o (t.taken o ++ payloadsOf [msg]) }

/-- gamesvr has sent messages. -/
def reply (t : Traffic) (msgs : List (ConnMsg × Nat)) : Traffic :=
  { t with replied := fun o => t.replied o ++ repliesOf msgs o }

section
variable (t : Traffic) {o o' : Nat} (stream : ConnStream) (msg : ConnMsg)

@[simp] theorem put_self : (t.put o stream).streams o = stream := Function.update_self _ _ _

theorem put_of_ne (h : o' ≠ o) : (t.put o stream).streams o' = t.streams o' :=
  Function.update_of_ne h _ _

@[simp] theorem put_eq_self : t.put o (t.streams o) = t := by
  unfold put
  rw [Function.update_eq_self]

@[simp] theorem take_self : (t.take o msg).taken o = t.taken o ++ payloadsOf [msg] :=
  Function.update_self _ _ _

theorem take_of_ne (h : o' ≠ o) : (t.take o msg).taken o' = t.taken o' :=
  Function.update_of_ne h _ _

end

end Traffic

namespace System

/-- The traffic after a step from `s` to `s'`. -/
def traffic (s : System) (t : Traffic) (i : Input) (s' : System) : Traffic :=
  match i with
  | .event fd isRead ret =>
      match s.conn.conns fd, s.conn.onEvent fd isRead ret with
      | some _, .ok (some (_, sent, bytes)) =>
          let o := s.serial fd
          t.put o ((t.streams o).event (s.conn.received fd isRead ret) sent bytes)
      | _, _ => t
  | .toConn sendRet ctl =>
      match s.toConn with
      | [] => t
      | (msg, _) :: _ =>
          let fd := msg.connData.connFd
          match s.conn.conns fd, s.conn.zmqReadLoop msg sendRet ctl with
          | some _, .ok (_, bytes) =>
              let o := s.serial fd
              t.put o ((t.streams o).message msg.payload bytes)
          | _, _ => t
  | .toGame _ =>
      match s.toGame with
      | [] => t
      | (msg, o) :: _ => (t.take o msg).reply (s'.toConn.drop s.toConn.length)
  | .datasvr _ _ => t.reply (s'.toConn.drop s.toConn.length)
  | .update _ => t

/-- The states that a run reaches from `start`, with the traffic until then, if every step of
it meets a condition. -/
inductive Traced (codec : Codec) (ok : System → Input → System → Prop) (start : System) :
    System → Traffic → Prop
  | start : Traced codec ok start start {}
  | step {s s' : System} {t : Traffic} (i : Input) : Traced codec ok start s t → s.Possible i →
      s.step codec i = .ok (some s') → ok s i s' → Traced codec ok start s' (s.traffic t i s')

/-- The open connections have numbers, and no two have the same. -/
structure Numbered (s : System) : Prop where
  bound : ∀ fd, (s.conn.conns fd).isSome → s.serial fd ≤ s.events
  inj : ∀ fd fd', (s.conn.conns fd).isSome → (s.conn.conns fd').isSome →
    s.serial fd = s.serial fd' → fd = fd'

/-- The streams explain every connection, open or not, and the packages forwarded are those
that gamesvr has taken and those on their way. -/
structure Carried (s : System) (t : Traffic) : Prop where
  numbered : s.Numbered
  fresh : ∀ o, s.events < o → t.streams o = {} ∧ t.taken o = [] ∧ s.queue o = []
  any : ∀ o, (t.streams o).Explains none
  live : ∀ fd c, s.conn.conns fd = some c → (t.streams (s.serial fd)).Explains (some c)
  queue : ∀ o, (t.streams o).forwarded = t.taken o ++ payloadsOf (s.queue o)

/-- What was passed on for a connection are replies to it, in order. -/
def Answers (s : System) (t : Traffic) : Prop :=
  ∀ o, ∃ done, t.replied o = done ++ repliesOf s.toConn o ∧ (t.streams o).passed.Sublist done

section
variable {codec : Codec} {s s' start : System} {t : Traffic} {i : Input} {o : Nat}
  {fd f : Int} {ret : ConnSvr.SysRet} {isRead : Bool} {conn : ConnSvr} {sent : List ConnMsg}
  {c : Connection} {ok : System → Input → System → Prop}

theorem traffic_taken {payload : Bytes} (h : payload ∈ t.taken o) :
    payload ∈ (s.traffic t i s').taken o := by
  cases i with
  | event fd isRead ret =>
      simp only [traffic]
      split
      · exact h
      · exact h
  | toConn sendRet ctl =>
      simp only [traffic]
      split
      · exact h
      · split
        · exact h
        · exact h
  | toGame ret =>
      simp only [traffic]
      split
      · exact h
      next msg o' rest _ =>
        show payload ∈ (t.take o' msg).taken o
        by_cases ho : o = o'
        · subst ho
          rw [Traffic.take_self]
          exact List.mem_append_left _ h
        · rw [Traffic.take_of_ne _ _ ho]
          exact h
  | datasvr msg ret => exact h
  | update now => exact h

/-! ### The numbers of the connections -/

/-- A connection after an event was there before, or it is the one accepted, with a new
number. -/
theorem afterEvent_conns {proc : FileProc}
    (h : EventStep fd ret s.conn.conns proc conn.conns sent) (hc : conn.conns f = some c) :
    (s.conn.conns f).isSome ∧ (s.afterEvent fd conn sent).serial f = s.serial f ∨
      s.conn.conns f = none ∧ f = ret.acceptRet ∧ c = ConnSvr.accepted f ∧
        (s.afterEvent fd conn sent).serial f = s.events + 1 := by
  cases hold : s.conn.conns f with
  | some d =>
      have hsome : (s.conn.conns f).isSome := Option.isSome_iff_exists.mpr ⟨d, hold⟩
      exact Or.inl ⟨rfl, afterEvent_serial hsome⟩
  | none =>
      obtain ⟨hf, -, haccepted⟩ := opened_accepted h hold hc
      refine Or.inr ⟨rfl, hf, haccepted, if_pos ⟨?_, ?_⟩⟩
      · rw [hold]
        rfl
      · rw [hc]
        rfl

theorem Numbered.event (hn : s.Numbered) {proc : FileProc}
    (h : EventStep fd ret s.conn.conns proc conn.conns sent) :
    (s.afterEvent fd conn sent).Numbered where
  bound := by
    intro f hf
    obtain ⟨c, hc⟩ := Option.isSome_iff_exists.mp hf
    rcases afterEvent_conns h hc with ⟨hold, hserial⟩ | ⟨-, -, -, hserial⟩
    · rw [hserial]
      exact Nat.le_succ_of_le (hn.bound f hold)
    · rw [hserial]
      exact Nat.le_refl _
  inj := by
    intro f f' hf hf' heq
    obtain ⟨c, hc⟩ := Option.isSome_iff_exists.mp hf
    obtain ⟨c', hc'⟩ := Option.isSome_iff_exists.mp hf'
    rcases afterEvent_conns h hc with ⟨hold, hserial⟩ | ⟨-, hr, -, hserial⟩
    · rcases afterEvent_conns h hc' with ⟨hold', hserial'⟩ | ⟨-, -, -, hserial'⟩
      · rw [hserial, hserial'] at heq
        exact hn.inj f f' hold hold' heq
      · rw [hserial, hserial'] at heq
        exact absurd (hn.bound f hold) (heq ▸ Nat.not_succ_le_self _)
    · rcases afterEvent_conns h hc' with ⟨hold', hserial'⟩ | ⟨-, hr', -, -⟩
      · rw [hserial, hserial'] at heq
        exact absurd (hn.bound f' hold') (heq ▸ Nat.not_succ_le_self _)
      · exact hr.trans hr'.symm

theorem Numbered.deliver (hn : s.Numbered) {msg : ConnMsg} {sendRet : SendRet}
    {rest : List (ConnMsg × Nat)}
    (h : ConnSvr.DeliverStep msg sendRet s.conn.conns conn.conns) :
    Numbered { s with conn := conn, toConn := rest } :=
  ⟨fun f hf => hn.bound f (h.not_opened hf),
    fun f f' hf hf' heq => hn.inj f f' (h.not_opened hf) (h.not_opened hf') heq⟩

/-! ### The streams -/

theorem payloadsOf_append (sent more : List ConnMsg) :
    payloadsOf (sent ++ more) = payloadsOf sent ++ payloadsOf more := by
  unfold payloadsOf
  rw [List.filter_append, List.map_append]

theorem Started.carried (h : start.Started) : start.Carried {} := by
  obtain ⟨n, n₁, n₂, n₃, rawConn, rawPlayer, rawCity, listenFd, now, hconn, -, htoGame, -⟩ := h
  have hnone := (ConnSvr.init_spec hconn).2
  have hqueue : ∀ o, start.queue o = [] := by
    intro o
    unfold System.queue
    rw [htoGame]
    rfl
  have hno : ∀ fd, ¬ (start.conn.conns fd).isSome := by
    intro fd hsome
    rw [hnone] at hsome
    cases hsome
  refine ⟨⟨fun fd hf => absurd hf (hno fd), fun fd _ hf => absurd hf (hno fd)⟩,
    fun o _ => ⟨rfl, rfl, hqueue o⟩, fun o => (ConnStream.explains_accepted 0).released,
    fun fd c hc => ?_, fun o => ?_⟩
  · rw [hnone] at hc
    cases hc
  · rw [hqueue]
    rfl

/-- **An event of connsvr**, for a connection or for an fd without one. -/
theorem Carried.event (hk : s.Carried t) {proc : FileProc} {stream : ConnStream}
    (hnew : s.conn.conns ret.acceptRet = none)
    (hstep : EventStep fd ret s.conn.conns proc conn.conns sent)
    (h : (s.conn.conns fd).isSome ∧ stream.Explains (conn.conns fd) ∨
      s.conn.conns fd = none ∧ stream = t.streams (s.serial fd) ∧ sent = [])
    (hforwarded : stream.forwarded = (t.streams (s.serial fd)).forwarded ++ payloadsOf sent) :
    (s.afterEvent fd conn sent).Carried (t.put (s.serial fd) stream) where
  numbered := hk.numbered.event hstep
  fresh := by
    intro o ho
    obtain ⟨hstream, htaken, hqueue⟩ := hk.fresh o (Nat.lt_of_succ_lt ho)
    have hsame : (t.put (s.serial fd) stream).streams o = t.streams o ∧
        (s.afterEvent fd conn sent).queue o = s.queue o := by
      rcases h with ⟨hsome, -⟩ | ⟨-, rfl, rfl⟩
      · have hne : o ≠ s.serial fd := by
          have hle := hk.numbered.bound fd hsome
          have hlt : s.events + 1 < o := ho
          omega
        exact ⟨t.put_of_ne _ hne, queue_append_of_ne rfl hne⟩
      · rw [Traffic.put_eq_self]
        exact ⟨rfl, queue_congr (List.append_nil _)⟩
    exact ⟨hsame.1.trans hstream, htaken, hsame.2.trans hqueue⟩
  any := by
    intro o
    by_cases ho : o = s.serial fd
    · subst ho
      rw [Traffic.put_self]
      rcases h with ⟨-, hstream⟩ | ⟨-, rfl, -⟩
      · exact hstream.released
      · exact hk.any _
    · rw [Traffic.put_of_ne _ _ ho]
      exact hk.any o
  live := by
    intro f c hc
    rcases afterEvent_conns hstep hc with ⟨hold, hserial⟩ | ⟨-, -, rfl, hserial⟩
    · rw [hserial]
      by_cases hf : f = fd
      · subst hf
        rw [Traffic.put_self]
        rcases h with ⟨-, hstream⟩ | ⟨hnone, -⟩
        · exact hc ▸ hstream
        · rw [hnone] at hold
          cases hold
      · have hfr : f ≠ ret.acceptRet := by
          rintro rfl
          rw [hnew] at hold
          cases hold
        have hstream := hk.live f c ((hstep.frame hf hfr).symm.trans hc)
        rcases h with ⟨hsome, -⟩ | ⟨-, rfl, -⟩
        · rw [Traffic.put_of_ne _ _ (fun e => hf (hk.numbered.inj f fd hold hsome e))]
          exact hstream
        · rw [Traffic.put_eq_self]
          exact hstream
    · -- nothing has passed for the number of a connection that has just been accepted
      obtain ⟨hfresh, -⟩ := hk.fresh (s.events + 1) (Nat.lt_succ_self _)
      rw [hserial]
      rcases h with ⟨hsome, -⟩ | ⟨-, rfl, -⟩
      · have hne : s.events + 1 ≠ s.serial fd := by
          have hle := hk.numbered.bound fd hsome
          omega
        rw [Traffic.put_of_ne _ _ hne, hfresh]
        exact ConnStream.explains_accepted f
      · rw [Traffic.put_eq_self, hfresh]
        exact ConnStream.explains_accepted f
  queue := by
    intro o
    by_cases ho : o = s.serial fd
    · subst ho
      rw [Traffic.put_self, hforwarded, hk.queue, List.append_assoc, ← payloadsOf_append]
      exact congrArg (fun q => t.taken _ ++ payloadsOf q) (queue_append rfl).symm
    · rw [Traffic.put_of_ne _ _ ho, hk.queue]
      exact congrArg (fun q => t.taken _ ++ payloadsOf q) (queue_append_of_ne rfl ho).symm

/-- **A message of gamesvr** that is passed on to the connection of its fd. -/
theorem Carried.deliver (hk : s.Carried t) {msg : ConnMsg} {sendRet : SendRet}
    {rest : List (ConnMsg × Nat)} {bytes : Bytes}
    (hstep : ConnSvr.DeliverStep msg sendRet s.conn.conns conn.conns)
    (hsome : (s.conn.conns msg.connData.connFd).isSome)
    (h : ((t.streams (s.serial msg.connData.connFd)).message msg.payload bytes).Explains
      (conn.conns msg.connData.connFd)) :
    Carried { s with conn := conn, toConn := rest } (t.put (s.serial msg.connData.connFd)
      ((t.streams (s.serial msg.connData.connFd)).message msg.payload bytes)) where
  numbered := hk.numbered.deliver hstep
  fresh := by
    intro o ho
    obtain ⟨hstream, htaken, hqueue⟩ := hk.fresh o ho
    have hne : o ≠ s.serial msg.connData.connFd := by
      have hle := hk.numbered.bound _ hsome
      have hlt : s.events < o := ho
      omega
    exact ⟨(t.put_of_ne _ hne).trans hstream, htaken, hqueue⟩
  any := by
    intro o
    by_cases ho : o = s.serial msg.connData.connFd
    · subst ho
      rw [Traffic.put_self]
      exact h.released
    · rw [Traffic.put_of_ne _ _ ho]
      exact hk.any o
  live := by
    intro f c hc
    by_cases hf : f = msg.connData.connFd
    · subst hf
      rw [Traffic.put_self]
      exact hc ▸ h
    · have hold : s.conn.conns f = some c := (hstep.frame hf).symm.trans hc
      have hopen : (s.conn.conns f).isSome := Option.isSome_iff_exists.mpr ⟨c, hold⟩
      rw [Traffic.put_of_ne _ _ (fun e => hf (hk.numbered.inj f _ hopen hsome e))]
      exact hk.live f c hold
  queue := by
    intro o
    by_cases ho : o = s.serial msg.connData.connFd
    · subst ho
      rw [Traffic.put_self]
      exact hk.queue _
    · rw [Traffic.put_of_ne _ _ ho]
      exact hk.queue o

theorem Carried.reply (hk : s.Carried t) (msgs : List (ConnMsg × Nat)) :
    s.Carried (t.reply msgs) :=
  ⟨hk.numbered, hk.fresh, hk.any, hk.live, hk.queue⟩

theorem Carried.congr (hk : s.Carried t) (hconn : s'.conn = s.conn) (hserial : s'.serial = s.serial)
    (hevents : s'.events = s.events) (htoGame : s'.toGame = s.toGame) : s'.Carried t where
  numbered := by
    constructor
    · rw [hconn, hserial, hevents]
      exact hk.numbered.bound
    · rw [hconn, hserial]
      exact hk.numbered.inj
  fresh := by
    intro o ho
    rw [hevents] at ho
    rw [queue_congr htoGame]
    exact hk.fresh o ho
  any := hk.any
  live := by
    rw [hconn, hserial]
    exact hk.live
  queue := by
    intro o
    rw [queue_congr htoGame]
    exact hk.queue o

theorem Carried.game (hk : s.Carried t) {msg : ConnMsg} {rest : List (ConnMsg × Nat)}
    {game : GameSvr} {out : GameOut} (hq : s.toGame = (msg, o) :: rest) :
    Carried ({ s with toGame := rest }.afterGame o game out) (t.take o msg) where
  numbered := ⟨hk.numbered.bound, hk.numbered.inj⟩
  fresh := by
    intro o' ho
    obtain ⟨hstream, htaken, hqueue⟩ := hk.fresh o' ho
    have hne : o' ≠ o := by
      rintro rfl
      have hmem : msg ∈ s.queue o' := mem_queue.mpr (hq ▸ List.mem_cons_self)
      rw [hqueue] at hmem
      cases hmem
    refine ⟨hstream, (t.take_of_ne _ hne).trans htaken, ?_⟩
    unfold System.queue at hqueue ⊢
    rw [hq, List.filter_cons_of_neg (by simpa using Ne.symm hne)] at hqueue
    exact hqueue
  any := hk.any
  live := hk.live
  queue := by
    intro o'
    have hold := hk.queue o'
    unfold System.queue at hold ⊢
    by_cases ho : o' = o
    · subst ho
      rw [hq, List.filter_cons_of_pos (by simp), List.map_cons, ← List.singleton_append,
        payloadsOf_append, ← List.append_assoc] at hold
      rw [Traffic.take_self]
      exact hold
    · rw [hq, List.filter_cons_of_neg (by simpa using Ne.symm ho)] at hold
      rw [Traffic.take_of_ne _ _ ho]
      exact hold

theorem Carried.step (hk : s.Carried t) (ht : s.Tables) (hp : s.Possible i)
    (h : s.step codec i = .ok (some s')) : s'.Carried (s.traffic t i s') := by
  cases i with
  | event fd isRead ret =>
      obtain ⟨r, hevent, h⟩ := bind_eq_ok.mp h
      rcases r with _ | ⟨conn, sent, bytes⟩
      · cases h
      cases h
      obtain ⟨-, proc, -, hstep⟩ := ConnSvr.onEvent_spec ht.conn hp hevent
      unfold traffic
      cases hc : s.conn.conns fd with
      | some c =>
          simp only [hc, hevent]
          have hstream := ConnSvr.onEvent_stream ht.conn hp hc (hk.live fd c hc) hevent
          exact hk.event hp hstep (Or.inl ⟨by rw [hc]; rfl, hstream⟩) rfl
      | none =>
          obtain ⟨rfl, -⟩ := ConnSvr.onEvent_nothing hc hevent
          have hsame : Carried _ (t.put (s.serial fd) (t.streams (s.serial fd))) :=
            hk.event hp hstep (Or.inr ⟨hc, rfl, rfl⟩) (List.append_nil _).symm
          rw [Traffic.put_eq_self] at hsame
          simp only [hc]
          exact hsame
  | toConn sendRet ctl =>
      unfold traffic
      cases hq : s.toConn with
      | nil =>
          simp only [System.step, hq] at h
          cases h
          exact hk
      | cons head rest =>
          obtain ⟨msg, o⟩ := head
          simp only [System.step, hq] at h
          obtain ⟨⟨conn, bytes⟩, hloop, h⟩ := bind_eq_ok.mp h
          cases h
          cases hc : s.conn.conns msg.connData.connFd with
          | some c =>
              simp only [hc, hloop]
              obtain ⟨-, hstep⟩ := ConnSvr.zmqReadLoop_spec ht.conn hloop
              exact hk.deliver hstep (by rw [hc]; rfl)
                (ConnSvr.zmqReadLoop_stream ht.conn hc (hk.live _ c hc) hloop)
          | none =>
              simp only [hc]
              obtain ⟨-, hconns⟩ := ConnSvr.zmqReadLoop_dropped hc hloop
              refine ⟨⟨?_, ?_⟩, hk.fresh, hk.any, ?_, hk.queue⟩
              · rw [hconns]
                exact hk.numbered.bound
              · rw [hconns]
                exact hk.numbered.inj
              · rw [hconns]
                exact hk.live
  | toGame ret =>
      unfold traffic
      cases hq : s.toGame with
      | nil =>
          simp only [System.step, hq] at h
          cases h
          exact hk
      | cons head rest =>
          obtain ⟨msg, o⟩ := head
          simp only [System.step, hq] at h
          obtain ⟨⟨game, out⟩, -, h⟩ := bind_eq_ok.mp h
          cases h
          exact (hk.game hq).reply _
  | datasvr msg ret =>
      obtain ⟨⟨game, out⟩, -, h⟩ := bind_eq_ok.mp h
      cases h
      have hsame : Carried
          { s with game := game, toConn := s.toConn ++ stamp s.owner out.toConnsvr } t :=
        hk.congr rfl rfl rfl rfl
      exact hsame.reply _
  | update now =>
      obtain ⟨r, -, h⟩ := bind_eq_ok.mp h
      cases r with
      | none => cases h
      | some game =>
          cases h
          exact hk.congr rfl rfl rfl rfl

theorem Traced.carried (hstart : start.Started) (h : Traced codec ok start s t) :
    s.Tables ∧ s.Carried t := by
  induction h with
  | start => exact ⟨hstart.tables, hstart.carried⟩
  | step i _ hp hs _ ih =>
      exact ⟨(step_moves ih.1 hp hs).tables ih.1, ih.2.step ih.1 hp hs⟩

/-! ### The replies -/

theorem repliesOf_append (msgs more : List (ConnMsg × Nat)) (o : Nat) :
    repliesOf (msgs ++ more) o = repliesOf msgs o ++ repliesOf more o := by
  unfold repliesOf
  rw [List.filter_append, List.map_append]

theorem Answers.reply (ha : s.Answers t) {msgs : List (ConnMsg × Nat)}
    (h : s'.toConn = s.toConn ++ msgs) : s'.Answers (t.reply msgs) := by
  intro o
  obtain ⟨done, hreplied, hsub⟩ := ha o
  refine ⟨done, ?_, hsub⟩
  rw [h, repliesOf_append, ← List.append_assoc, ← hreplied]
  rfl

theorem Answers.congr (ha : s.Answers t) {t' : Traffic} (htoConn : s'.toConn = s.toConn)
    (hreplied : t'.replied = t.replied)
    (hpassed : ∀ o, (t'.streams o).passed = (t.streams o).passed) : s'.Answers t' := by
  intro o
  rw [htoConn, hreplied, hpassed]
  exact ha o

theorem Answers.deliver (ha : s.Answers t) {t' : Traffic} {msg : ConnMsg}
    {rest : List (ConnMsg × Nat)} (hq : s.toConn = (msg, o) :: rest) (hrest : s'.toConn = rest)
    (hreplied : t'.replied = t.replied)
    (hpassed : ∀ o', (t'.streams o').passed.Sublist
      ((t.streams o').passed ++ repliesOf [(msg, o)] o')) : s'.Answers t' := by
  intro o'
  obtain ⟨done, hall, hsub⟩ := ha o'
  refine ⟨done ++ repliesOf [(msg, o)] o', ?_, ?_⟩
  · rw [hreplied, hall, hq, hrest, ← List.singleton_append, repliesOf_append, List.append_assoc]
  · exact (hpassed o').trans (hsub.append (List.Sublist.refl _))

/-- **One step** that recycles no fd passes on to a connection what answers it. -/
theorem Answers.step (ha : s.Answers t) (hc : Lib.Current s.serial s.Trace)
    (h : s.step codec i = .ok (some s')) : s'.Answers (s.traffic t i s') := by
  cases i with
  | event fd isRead ret =>
      obtain ⟨r, hevent, h⟩ := bind_eq_ok.mp h
      rcases r with _ | ⟨conn, sent, bytes⟩
      · cases h
      cases h
      unfold traffic
      cases hconn : s.conn.conns fd with
      | none =>
          simp only [hconn]
          exact ha.congr rfl rfl (fun _ => rfl)
      | some c =>
          simp only [hconn, hevent]
          refine ha.congr rfl rfl (fun o => ?_)
          by_cases ho : o = s.serial fd
          · subst ho
            rw [Traffic.put_self]
            rfl
          · rw [Traffic.put_of_ne _ _ ho]
  | toConn sendRet ctl =>
      unfold traffic
      cases hq : s.toConn with
      | nil =>
          simp only [System.step, hq] at h
          cases h
          exact ha
      | cons head rest =>
          obtain ⟨msg, o⟩ := head
          have hserial : s.serial msg.connData.connFd = o :=
            hc _ _ (.reply msg (hq ▸ List.mem_cons_self) rfl)
          simp only [System.step, hq] at h
          obtain ⟨⟨conn, bytes⟩, hloop, h⟩ := bind_eq_ok.mp h
          cases h
          cases hconn : s.conn.conns msg.connData.connFd with
          | none =>
              simp only [hconn]
              exact ha.deliver hq rfl rfl (fun _ => List.sublist_append_left _ _)
          | some c =>
              simp only [hconn, hloop, hserial]
              refine ha.deliver hq rfl rfl (fun o' => ?_)
              by_cases ho : o' = o
              · subst ho
                rw [Traffic.put_self]
                simp [ConnStream.message, repliesOf]
              · rw [Traffic.put_of_ne _ _ ho]
                exact List.sublist_append_left _ _
  | toGame ret =>
      unfold traffic
      cases hq : s.toGame with
      | nil =>
          simp only [System.step, hq] at h
          cases h
          exact ha
      | cons head rest =>
          obtain ⟨msg, o⟩ := head
          simp only [System.step, hq] at h
          obtain ⟨⟨game, out⟩, -, h⟩ := bind_eq_ok.mp h
          cases h
          refine Answers.reply (s := s) (ha.congr rfl rfl (fun _ => rfl)) ?_
          simp only [afterGame, List.drop_left]
  | datasvr msg ret =>
      obtain ⟨⟨game, out⟩, -, h⟩ := bind_eq_ok.mp h
      cases h
      refine ha.reply ?_
      simp only [List.drop_left]
  | update now =>
      obtain ⟨r, -, h⟩ := bind_eq_ok.mp h
      cases r with
      | none => cases h
      | some game =>
          cases h
          exact ha

theorem Started.answers (h : start.Started) : start.Answers {} := by
  obtain ⟨_, _, _, _, _, _, _, _, _, -, -, -, htoConn⟩ := h
  intro o
  refine ⟨[], ?_, List.Sublist.refl _⟩
  rw [htoConn]
  rfl

/-- **Every run** that recycles no fd keeps the references to the last connections, and
passes on what answers. -/
theorem Traced.answers (hstart : start.Started) (h : Traced codec NoRecycling start s t) :
    s.Tables ∧ Lib.Current s.serial s.Trace ∧ s.Answers t := by
  induction h with
  | start =>
      have hbase : Lib.Current start.serial start.Trace :=
        fun f o ht => absurd ht (not_trace_start hstart)
      exact ⟨hstart.tables, hbase, hstart.answers⟩
  | step i _ hp hs hok ih =>
      obtain ⟨ht, hc, ha⟩ := ih
      have hm := step_moves ht hp hs
      exact ⟨hm.tables ht, hm.current hc hok, ha.step hc hs⟩

/-! ### What holds in every run -/

theorem Carried.explains (hk : s.Carried t) (o : Nat) : ∃ last, (t.streams o).Explains last ∧
    ∀ fd c, s.conn.conns fd = some c → s.serial fd = o → c ∈ last := by
  by_cases hopen : ∃ fd c, s.conn.conns fd = some c ∧ s.serial fd = o
  · obtain ⟨fd, c, hc, rfl⟩ := hopen
    refine ⟨some c, hk.live fd c hc, fun fd' c' hc' hserial => ?_⟩
    obtain rfl := hk.numbered.inj fd' fd (Option.isSome_iff_exists.mpr ⟨c', hc'⟩)
      (Option.isSome_iff_exists.mpr ⟨c, hc⟩) hserial
    exact hc'.symm.trans hc ▸ rfl
  · exact ⟨none, hk.any o, fun fd c hc hserial => absurd ⟨fd, c, hc, hserial⟩ hopen⟩

/-- **gamesvr takes the packages of a client in order.**  Whatever the order of the steps,
the payloads that gamesvr has taken of a connection, and those still on their way, are those of
the packages that connsvr cuts from the front of the bytes received on it, in order; while the
connection is open no other package is ready, and the rest of these bytes is in its buffer. -/
theorem packages_in_order (hstart : start.Started)
    (h : Traced codec (fun _ _ _ => True) start s t) (o : Nat) :
    ∃ fs r, clientFraming.Cut (t.streams o).received fs r ∧
      t.taken o ++ payloadsOf (s.queue o) = fs.map payloadOf ∧
      ∀ fd c, s.conn.conns fd = some c → s.serial fd = o →
        c.recvBuf = r ∧ ¬ c.IsRecvProtoReady := by
  obtain ⟨-, hk⟩ := h.carried hstart
  obtain ⟨last, hexplains, hlast⟩ := hk.explains o
  obtain ⟨fs, r, hcut, hforwarded, hbuf⟩ := hexplains.up
  refine ⟨fs, r, hcut, (hk.queue o).symm.trans hforwarded, fun fd c hc hserial => ?_⟩
  exact hbuf c (hlast fd c hc hserial)

/-- **A client is sent whole frames of the replies to it.**  If no fd is accepted again while
something refers to its last connection, the bytes written to a connection begin the frames of
some of the replies to it, in order; as long as it is open, the rest of these frames is in its
buffer. -/
theorem replies_in_order (hstart : start.Started) (h : Traced codec NoRecycling start s t)
    (o : Nat) :
    ∃ payloads done, t.replied o = done ++ repliesOf s.toConn o ∧ payloads.Sublist done ∧
      (t.streams o).written <+: wire payloads ∧
      ∀ fd c, s.conn.conns fd = some c → s.serial fd = o →
        (t.streams o).written ++ c.sendBuf = wire payloads := by
  obtain ⟨-, hk⟩ := h.carried hstart
  obtain ⟨last, hexplains, hlast⟩ := hk.explains o
  obtain ⟨payloads, hsub, hprefix, hwire⟩ := hexplains.down
  obtain ⟨-, -, hanswers⟩ := h.answers hstart
  obtain ⟨done, hreplied, hpassed⟩ := hanswers o
  refine ⟨payloads, done, hreplied, hsub.trans hpassed, hprefix, fun fd c hc hserial => ?_⟩
  exact hwire c (hlast fd c hc hserial)

/-! ### A client to look at -/

theorem Traced.quiet (hstart : start.Started) (h : Traced codec NoRecycling start s t)
    (i : Input) (hp : s.Possible i) (hs : s.step codec i = .ok (some s'))
    (hquiet : ∀ fd isRead ret, i = .event fd isRead ret → ret.acceptRet < 0) :
    Traced codec NoRecycling start s' (s.traffic t i s') :=
  h.step i hp hs ((step_moves (h.answers hstart).1 hp hs).noRecycling hquiet)

/-- A client sends a registration and the first bytes of another package, and gamesvr takes
the registration. -/
theorem packages_in_order_five : ∃ s t, Traced headCodec (fun _ _ _ => True) fresh s t ∧
    (t.streams 1).received = [0, 6, 10, 2, 8, 15, 0, 9] ∧ t.taken 1 = [[10, 2, 8, 15]] ∧
    ∃ fs r, clientFraming.Cut [0, 6, 10, 2, 8, 15, 0, 9] fs r ∧
      [[10, 2, 8, 15]] ++ payloadsOf (s.queue 1) = fs.map payloadOf := by
  have h₁ : Traced headCodec (fun _ _ _ => True) fresh _ _ :=
    .step acceptFive .start rfl rfl trivial
  have h₂ := h₁.step (sendFive [0, 6, 10, 2, 8, 15, 0, 9]) rfl rfl trivial
  have h₃ := h₂.step (.toGame quietGame) trivial rfl trivial
  obtain ⟨s, t, h, hreceived, htaken⟩ : ∃ s t, Traced headCodec (fun _ _ _ => True) fresh s t ∧
      (t.streams 1).received = [0, 6, 10, 2, 8, 15, 0, 9] ∧ t.taken 1 = [[10, 2, 8, 15]] :=
    ⟨_, _, h₃, rfl, rfl⟩
  obtain ⟨fs, r, hcut, hfs, -⟩ := packages_in_order fresh_started h 1
  rw [hreceived] at hcut
  rw [htaken] at hfs
  exact ⟨s, t, h, hreceived, htaken, fs, r, hcut, hfs⟩

/-- The answer is written in part. -/
theorem replies_in_order_five : ∃ s t, Traced headCodec NoRecycling fresh s t ∧
    t.replied 1 = [[10, 2, 8, 16]] ∧ (t.streams 1).written = [0, 6, 10] ∧
    ∃ payloads done, [[10, 2, 8, 16]] = done ++ repliesOf s.toConn 1 ∧ payloads.Sublist done ∧
      [0, 6, 10] <+: wire payloads := by
  have h₁ : Traced headCodec NoRecycling fresh _ _ :=
    .step acceptFive .start rfl rfl (fun _ _ _ => not_trace_start fresh_started)
  have h₂ := h₁.quiet fresh_started (sendFive [0, 6, 10, 2, 8, 15]) rfl rfl
    (by rintro _ _ _ ⟨⟩; decide)
  have h₃ := h₂.quiet fresh_started (.toGame quietGame) trivial rfl nofun
  have h₄ := h₃.quiet fresh_started (.toConn (.sent 3) true) trivial rfl nofun
  obtain ⟨s, t, h, hreplied, hwritten⟩ : ∃ s t, Traced headCodec NoRecycling fresh s t ∧
      t.replied 1 = [[10, 2, 8, 16]] ∧ (t.streams 1).written = [0, 6, 10] :=
    ⟨_, _, h₄, rfl, rfl⟩
  obtain ⟨payloads, done, hdone, hsub, hprefix, -⟩ := replies_in_order fresh_started h 1
  rw [hreplied] at hdone
  rw [hwritten] at hprefix
  exact ⟨s, t, h, hreplied, hwritten, payloads, done, hdone, hsub, hprefix⟩

end

end System

end PlayFrame
