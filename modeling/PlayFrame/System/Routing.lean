/-
# `PlayFrame.System.Routing` — whose connection a message of gamesvr reaches

gamesvr addresses a message by the fd that it was told when it allocated the player, and
connsvr sends it on whatever connection has that fd when it arrives.  This is the right
one as long as an fd is not accepted again while something still refers by it to an
earlier connection.
-/
import PlayFrame.System.System
import PlayFrame.Lib.Handle

namespace PlayFrame

namespace System

open Lib

/-- Something refers by `fd` to the connection `o`: a `CONN_START` on its way, a player
in use, or a message of gamesvr on its way. -/
inductive Trace (s : System) (fd : Int) (o : Nat) : Prop
  | start (msg : ConnMsg) : (msg, o) ∈ s.toGame → msg.connData.connCmd = .connStart →
      msg.connData.connFd = fd → Trace s fd o
  | player (k : Nat) : s.game.objMgr.Live k → (s.game.objMgr.player k).connFd = fd →
      s.owner k = o → Trace s fd o
  | reply (msg : ConnMsg) : (msg, o) ∈ s.toConn → msg.connData.connFd = fd → Trace s fd o

/-- The step accepts no connection on an fd that something still refers by. -/
def NoRecycling (s : System) (_ : Input) (s' : System) : Prop :=
  ∀ fd, Opened s.conn s'.conn fd → ∀ o, ¬ s.Trace fd o

/-- The next message of gamesvr is sent on the connection its player belongs to, if that
is still open, and is dropped otherwise; no other connection is touched. -/
def Routed (s : System) : Prop :=
  ∀ (msg : ConnMsg) (o : Nat) (rest : List (ConnMsg × Nat)) (sendRet : SendRet) (ctl : Bool)
    (conn : ConnSvr) (bytes : Bytes),
    s.toConn = (msg, o) :: rest → s.conn.zmqReadLoop msg sendRet ctl = .ok (conn, bytes) →
    (¬ s.IsOpen msg.connData.connFd o → bytes = [] ∧ conn.conns = s.conn.conns) ∧
      ∀ fd, fd ≠ msg.connData.connFd → conn.conns fd = s.conn.conns fd

section
variable {codec : Codec} {s s' start : System} {i : Input}

/-! ## Traces -/

theorem not_trace_start (h : start.Started) {fd : Int} {o : Nat} : ¬ start.Trace fd o := by
  obtain ⟨n, n₁, n₂, n₃, rawConn, rawPlayer, rawCity, listenFd, now, -, hgame, hg, hc⟩ := h
  rintro (⟨msg, hmem, -, -⟩ | ⟨k, hk, -, -⟩ | ⟨msg, hmem, -⟩)
  · rw [hg] at hmem
    exact List.not_mem_nil hmem
  · rw [hgame] at hk
    exact ShmPool.init_not_allocated hk
  · rw [hc] at hmem
    exact List.not_mem_nil hmem

theorem mem_stamp {owner : Nat → Nat} {out : List ConnMsg} {msg : ConnMsg} {o : Nat} :
    (msg, o) ∈ stamp owner out ↔ msg ∈ out ∧ owner msg.connData.playerIdx.toNat = o := by
  unfold stamp
  simp only [List.mem_map, Prod.mk.injEq]
  constructor
  · rintro ⟨m, hm, rfl, rfl⟩
    exact ⟨hm, rfl⟩
  · rintro ⟨hm, rfl⟩
    exact ⟨msg, hm, rfl, rfl⟩

theorem Trace.of_addressed {msg : ConnMsg} (h : Addressed s.game.objMgr msg) :
    s.Trace msg.connData.connFd (s.owner msg.connData.playerIdx.toNat) := by
  obtain ⟨k, hk, hidx, hfd⟩ := h
  rw [hidx, hfd]
  exact .player k hk rfl rfl

/-- After a message of connsvr everything still refers to a connection that something
referred to before: a new player, and what it sends, to the one the message came from. -/
theorem afterGame_trace {msg : ConnMsg} {origin : Nat} {rest : List (ConnMsg × Nat)}
    {game : GameSvr} {out : GameOut} (hq : s.toGame = (msg, origin) :: rest)
    (hstep : GameSvr.ConnsvrStep s.game.objMgr msg game.objMgr out.toConnsvr) {f : Int} {o : Nat}
    (ht : ({ s with toGame := rest }.afterGame origin game out).Trace f o) : s.Trace f o := by
  generalize hs' : { s with toGame := rest }.afterGame origin game out = s' at ht
  have howner : ∀ k, s.game.objMgr.Live k → s'.owner k = s.owner k := by
    intro k hk
    rw [← hs']
    exact if_neg (fun h => h.1 hk)
  have hgame : s'.game = game := by rw [← hs']; rfl
  have htoGame : s'.toGame = rest := by rw [← hs']; rfl
  have htoConn : s'.toConn = s.toConn ++ stamp s'.owner out.toConnsvr := by rw [← hs']; rfl
  have hplayer : ∀ k, game.objMgr.Live k →
      s.Trace (game.objMgr.player k).connFd (s'.owner k) := by
    intro k hk
    cases hstep with
    | started k₀ hcmd hhead hnew hlive hfd hold hout =>
        by_cases he : k = k₀
        · subst he
          have hown : s'.owner k = origin := by
            rw [← hs']
            exact if_pos ⟨hnew, hk⟩
          rw [hown, hfd]
          exact .start msg (hq ▸ List.mem_cons_self) hcmd rfl
        · have hk' := ((hlive k).mp hk).resolve_right he
          rw [hold k he, howner k hk']
          exact .player k hk' rfl rfl
    | processed hcmd hsame hout =>
        have hk' := (hsame.live k).mp hk
        rw [hsame.connFd k, howner k hk']
        exact .player k hk' rfl rfl
    | stopped hcmd hlive hfd hout =>
        have hk' := ((hlive k).mp hk).1
        rw [hfd k, howner k hk']
        exact .player k hk' rfl rfl
  have hsent : ∀ m ∈ out.toConnsvr,
      s.Trace m.connData.connFd (s'.owner m.connData.playerIdx.toNat) := by
    intro m hm
    have hold : Addressed s.game.objMgr m →
        s.Trace m.connData.connFd (s'.owner m.connData.playerIdx.toNat) := by
      rintro ⟨k, hk, hidx, hfd⟩
      rw [hidx, hfd, Int.toNat_natCast, howner k hk]
      exact .player k hk rfl rfl
    cases hstep with
    | started k₀ hcmd hhead hnew hlive hfd hold hout =>
        obtain ⟨k, hk, hidx, hfd⟩ := hout m hm
        rw [hidx, hfd]
        exact hplayer k hk
    | processed hcmd hsame hout => exact hold (hout m hm)
    | stopped hcmd hlive hfd hout => exact hold (hout m hm)
  cases ht with
  | start m hmem hcmd hfd =>
      rw [htoGame] at hmem
      exact .start m (hq ▸ List.mem_cons_of_mem _ hmem) hcmd hfd
  | player k hk hfd ho =>
      rw [hgame] at hk hfd
      rw [← hfd, ← ho]
      exact hplayer k hk
  | reply m hmem hfd =>
      rw [htoConn] at hmem
      rcases List.mem_append.mp hmem with hmem | hmem
      · exact .reply m hmem hfd
      · obtain ⟨hm, rfl⟩ := mem_stamp.mp hmem
        rw [← hfd]
        exact hsent m hm

/-- **One step** keeps every reference to the last connection of its fd. -/
theorem Moves.current (hc : Current s.serial s.Trace) (h : Moves codec s i s')
    (hr : NoRecycling s i s') : Current s'.serial s'.Trace := by
  cases h with
  | event fd isRead ret proc conn sent _ _ hstep =>
      have hold : ∀ {f o}, (s.afterEvent fd conn sent).Trace f o → s.Trace f o ∨
          f = fd ∧ s.serial fd = o ∧ (s.conn.conns fd).isSome := by
        rintro f o (⟨msg, hmem, hcmd, rfl⟩ | ⟨k, hk, hfd, ho⟩ | ⟨msg, hmem, hfd⟩)
        · rcases List.mem_append.mp hmem with hmem | hmem
          · exact Or.inl (.start msg hmem hcmd rfl)
          · obtain ⟨m, hm, heq⟩ := List.mem_map.mp hmem
            cases heq
            obtain ⟨hfd, hsome⟩ := hstep.start_sent hm hcmd
            exact Or.inr ⟨hfd, rfl, hsome⟩
        · exact Or.inl (.player k hk hfd ho)
        · exact Or.inl (.reply msg hmem hfd)
      have hlast : Current s.serial (s.afterEvent fd conn sent).Trace := by
        refine hc.mono (fun f o htrace => (hold htrace).imp_right ?_)
        rintro ⟨rfl, ho, -⟩
        exact ho
      refine hlast.reissue (fun f o hne htrace => ?_)
      have hopen : Opened s.conn conn f := by
        by_contra hno
        exact hne (if_neg hno)
      rcases hold htrace with ht | ⟨rfl, -, hsome⟩
      · exact hr f hopen o ht
      · rw [Option.isNone_iff_eq_none.mp hopen.1] at hsome
        cases hsome
  | deliver sendRet ctl msg o rest conn hq _ _ =>
      refine hc.mono ?_
      rintro f o' (⟨m, hmem, hcmd, hfd⟩ | ⟨k, hk, hfd, ho⟩ | ⟨m, hmem, hfd⟩)
      · exact Or.inl (.start m hmem hcmd hfd)
      · exact Or.inl (.player k hk hfd ho)
      · exact Or.inl (.reply m (hq ▸ List.mem_cons_of_mem _ hmem) hfd)
  | game ret msg origin rest game out hq _ hstep =>
      exact hc.mono (fun f o ht => Or.inl (afterGame_trace hq hstep ht))
  | datasvr msg ret game out hsame haddr =>
      refine hc.mono ?_
      rintro f o (⟨m, hmem, hcmd, hfd⟩ | ⟨k, hk, hfd, ho⟩ | ⟨m, hmem, hfd⟩)
      · exact Or.inl (.start m hmem hcmd hfd)
      · exact Or.inl (.player k ((hsame.live k).mp hk) ((hsame.connFd k).symm.trans hfd) ho)
      · rcases List.mem_append.mp hmem with hmem | hmem
        · exact Or.inl (.reply m hmem hfd)
        · obtain ⟨hout, rfl⟩ := mem_stamp.mp hmem
          rw [← hfd]
          exact Or.inl (.of_addressed (haddr m hout))
  | update now game he =>
      refine hc.mono ?_
      rintro f o (⟨m, hmem, hcmd, hfd⟩ | ⟨k, hk, hfd, ho⟩ | ⟨m, hmem, hfd⟩)
      · exact Or.inl (.start m hmem hcmd hfd)
      · exact Or.inl (.player k (he ▸ hk) (he ▸ hfd) ho)
      · exact Or.inl (.reply m hmem hfd)
  | empty _ _ => exact hc

/-- **Messages of gamesvr are routed right** in every state of a run that accepts no
connection on an fd that something still refers by. -/
theorem run_routed (hstart : start.Started) (h : Run codec NoRecycling start s) : s.Routed := by
  have hbase : Current start.serial start.Trace := fun f o ht => absurd ht (not_trace_start hstart)
  obtain ⟨ht, hc⟩ := h.induct hstart hbase (fun _ _ _ _ hc hm hr => hm.current hc hr)
  intro msg o rest sendRet ctl conn bytes hq hloop
  obtain ⟨-, hstep⟩ := ConnSvr.zmqReadLoop_spec ht.conn hloop
  refine ⟨fun hopen => ?_, fun fd hfd => hstep.frame hfd⟩
  have hserial := hc _ _ (.reply msg (hq ▸ List.mem_cons_self) rfl)
  have hnone : s.conn.conns msg.connData.connFd = none := by
    cases hcs : s.conn.conns msg.connData.connFd with
    | none => rfl
    | some c => exact absurd ⟨by rw [hcs]; rfl, hserial⟩ hopen
  exact ConnSvr.zmqReadLoop_dropped hnone hloop

theorem opened_accepted {fd f : Int} {ret : ConnSvr.SysRet} {proc : FileProc} {c : Connection}
    {conns' : ConnSvr.ConnTable} {sent : List ConnMsg}
    (h : ConnSvr.EventStep fd ret s.conn.conns proc conns' sent) (hnone : s.conn.conns f = none)
    (hc : conns' f = some c) : f = ret.acceptRet ∧ 0 ≤ f ∧ c = ConnSvr.accepted f := by
  have hother : ∀ {g : Int} {r : Option Connection}, (s.conn.conns g).isSome →
      ¬ Function.update s.conn.conns g r f = some c := by
    intro g r hg hf
    by_cases he : f = g
    · rw [← he, hnone] at hg
      cases hg
    · rw [Function.update_of_ne he, hnone] at hf
      cases hf
  have hsome : ∀ {d : Connection}, s.conn.conns fd = some d → (s.conn.conns fd).isSome :=
    fun hd => Option.isSome_iff_exists.mpr ⟨_, hd⟩
  cases h with
  | idle _ =>
      rw [hnone] at hc
      cases hc
  | accept hnonneg =>
      by_cases he : f = ret.acceptRet
      · subst he
        rw [Function.update_self] at hc
        cases hc
        exact ⟨rfl, hnonneg, rfl⟩
      · rw [Function.update_of_ne he, hnone] at hc
        cases hc
  | recvFailed d hd _ => exact absurd hc (hother (hsome hd))
  | closed d hd _ => exact absurd hc (hother (hsome hd))
  | overflow d buf hd _ _ => exact absurd hc (hother (hsome hd))
  | forwarded d c₁ c₂ buf _ hd _ _ _ => exact absurd hc (hother (hsome hd))
  | cut d c₁ c₂ buf _ hd _ _ _ => exact absurd hc (hother (hsome hd))
  | written d sendBuf hd => exact absurd hc (hother (hsome hd))
  | sendFailed d hd _ => exact absurd hc (hother (hsome hd))

theorem Moves.noRecycling (h : Moves codec s i s')
    (hquiet : ∀ fd isRead ret, i = .event fd isRead ret → ret.acceptRet < 0) :
    NoRecycling s i s' := by
  intro f hopen
  have hnone := Option.isNone_iff_eq_none.mp hopen.1
  have hnot : ¬ (s.conn.conns f).isSome := by
    rw [hnone]
    exact nofun
  cases h with
  | event fd isRead ret proc conn sent _ _ hstep =>
      obtain ⟨c, hc⟩ := Option.isSome_iff_exists.mp hopen.2
      obtain ⟨rfl, hnonneg, -⟩ := opened_accepted hstep hnone hc
      exact absurd hnonneg (not_le.mpr (hquiet fd isRead ret rfl))
  | deliver sendRet ctl msg o rest conn _ _ hstep => exact absurd (hstep.not_opened hopen.2) hnot
  | game ret msg origin rest game out _ _ _ => exact absurd hopen.2 hnot
  | datasvr msg ret game out _ _ => exact absurd hopen.2 hnot
  | update now game _ => exact absurd hopen.2 hnot
  | empty _ _ => exact absurd hopen.2 hnot

theorem Run.tables {ok : System → Input → System → Prop} (hstart : start.Started) (h : Run codec ok start s) : s.Tables :=
  (h.induct (P := fun _ => True) hstart trivial fun _ _ _ _ _ _ _ => trivial).1

theorem Run.quiet (hstart : start.Started) (h : Run codec NoRecycling start s) (i : Input)
    (hp : s.Possible i) (hs : s.step codec i = .ok (some s'))
    (hquiet : ∀ fd isRead ret, i = .event fd isRead ret → ret.acceptRet < 0) :
    Run codec NoRecycling start s' :=
  h.step i hp hs ((step_moves (h.tables hstart) hp hs).noRecycling hquiet)

/-- A client registers, and the answer of gamesvr is on its way to it; it is sent to the client
while its connection is open, and dropped when the client has gone. -/
theorem run_routed_reply : ∃ s s' : System, ∃ reply : ConnMsg,
    (s.toConn = [(reply, 1)] ∧ s.game.objMgr.Live 1 ∧ s.IsOpen 5 1 ∧ s.Routed) ∧
    (s'.toConn = [(reply, 1)] ∧ ¬ s'.IsOpen 5 1 ∧ s'.Routed) := by
  have h₁ : Run headCodec NoRecycling fresh _ :=
    .step acceptFive .start rfl rfl (fun _ _ _ => not_trace_start fresh_started)
  have h₂ := h₁.quiet fresh_started (sendFive [0, 6, 10, 2, 8, 15]) rfl rfl
    (by rintro _ _ _ ⟨⟩; decide)
  have h₃ := h₂.quiet fresh_started (.toGame quietGame) trivial rfl nofun
  have h₄ := h₃.quiet fresh_started closeFive rfl rfl (by rintro _ _ _ ⟨⟩; decide)
  refine ⟨_, _, ⟨⟨5, 1, .connStart⟩, [10, 2, 8, 16]⟩,
    ⟨rfl, ?_, ⟨rfl, rfl⟩, run_routed fresh_started h₃⟩, rfl, ?_, run_routed fresh_started h₄⟩
  · exact ⟨Nat.le_refl 1, by decide, rfl⟩
  · rintro ⟨h, -⟩
    cases h

/-- **A reply reaches a stranger.**  The first client of fd 5 asks for a registration and
goes away before gamesvr has answered; the answer is sent to the next client of fd 5, and
its connection takes the player of the first. -/
theorem run_misrouted : ∃ s : System, Run headCodec (fun _ _ _ => True) fresh s ∧
    s.toConn = [(⟨⟨5, 1, .connStart⟩, [10, 2, 8, 16]⟩, 1)] ∧ ¬ s.IsOpen 5 1 ∧
    (∃ conn bytes c, s.conn.zmqReadLoop ⟨⟨5, 1, .connStart⟩, [10, 2, 8, 16]⟩ (.sent 6) true =
      .ok (conn, bytes) ∧ bytes.length = 6 ∧ conn.conns 5 = some c ∧ c.playerIdx = 1) ∧
    fresh.Started ∧ ¬ s.Routed := by
  have h₁ : Run headCodec (fun _ _ _ => True) fresh _ := .step acceptFive .start rfl rfl trivial
  have h₂ := h₁.step (sendFive [0, 6, 10, 2, 8, 15]) rfl rfl trivial
  have h₃ := h₂.step (.toGame quietGame) trivial rfl trivial
  have h₄ := h₃.step closeFive rfl rfl trivial
  have h₅ := h₄.step acceptFive rfl rfl trivial
  obtain ⟨s, hrun, hserial, hq, conn, bytes, c, hloop, hbytes, hc, hidx⟩ : ∃ s : System,
      Run headCodec (fun _ _ _ => True) fresh s ∧ s.serial 5 = 4 ∧
      s.toConn = [(⟨⟨5, 1, .connStart⟩, [10, 2, 8, 16]⟩, 1)] ∧
      ∃ conn bytes c, s.conn.zmqReadLoop ⟨⟨5, 1, .connStart⟩, [10, 2, 8, 16]⟩ (.sent 6) true =
        .ok (conn, bytes) ∧ bytes.length = 6 ∧ conn.conns 5 = some c ∧ c.playerIdx = 1 :=
    ⟨_, h₅, rfl, rfl, _, _, _, rfl, rfl, rfl, rfl⟩
  have hclosed : ¬ s.IsOpen 5 1 := by
    rintro ⟨-, h⟩
    rw [hserial] at h
    cases h
  refine ⟨s, hrun, hq, hclosed, ⟨conn, bytes, c, hloop, hbytes, hc, hidx⟩, fresh_started, ?_⟩
  intro h
  have := ((h _ _ _ _ _ _ _ hq hloop).1 hclosed).1
  rw [this] at hbytes
  cases hbytes

end

end System

end PlayFrame
