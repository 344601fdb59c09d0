/-
# `PlayFrame.System.Leak` — who gives a player back

gamesvr frees a player only when a `CONN_STOP` with its index arrives, and connsvr sends
one only when the client closes a connection that has learned its player.  A connection
that is released in any other way takes its players along, and so does one that the
client closes before the first reply.
-/
import PlayFrame.System.System

namespace PlayFrame

namespace System

/-- The connection `o` is open. -/
def Lives (s : System) (o : Nat) : Prop := ∃ fd, s.IsOpen fd o

/-- A `CONN_STOP` for the player `k` is on its way. -/
def Stopping (s : System) (k : Nat) : Prop :=
  ∃ p ∈ s.toGame, p.1.connData.connCmd = .connStop ∧ p.1.connData.playerIdx = k

/-- The player `k` is in use for the connection `o`, and nothing on its way frees it. -/
def HeldBy (s : System) (o k : Nat) : Prop :=
  s.game.objMgr.Live k ∧ s.owner k = o ∧ ¬ s.Stopping k

/-- A `CONN_START` of the connection `o` is on its way. -/
def Starting (s : System) (o : Nat) : Prop :=
  ∃ p ∈ s.toGame, p.1.connData.connCmd = .connStart ∧ p.2 = o

/-- The handler called for `fd` may release its connection `c`: it sends no `CONN_START`
before it does, and all players held for the connection are the one that it names in a
`CONN_STOP`, because the client has closed the connection and `zmq_send` succeeds. -/
structure GivesBack (s : System) (fd : Int) (isRead : Bool) (ret : ConnSvr.SysRet)
    (c : Connection) : Prop where
  starting : ¬ s.Starting (s.serial fd)
  held : ∀ k : Nat, s.HeldBy (s.serial fd) k →
    s.conn.handler fd isRead = some .doTcpRead ∧ ret.recvRet = .closed ∧ ret.zmq 0 = true ∧
      c.playerIdx = k
  cut : c.playerIdx = 0 → s.conn.handler fd isRead = some .doTcpRead →
    ∀ buf, ret.recvRet = .data buf → c.addRecvData buf ≠ none → ret.zmq 0 = false

/-- A connection is released only if gamesvr holds nothing for it, or if all that it
holds is given back. -/
def NoLeak (s : System) (i : Input) (s' : System) : Prop :=
  ∀ fd c, s.conn.conns fd = some c → s'.conn.conns fd = none →
    match i with
    | .event _ isRead ret => s.GivesBack fd isRead ret c
    | _ => ¬ s.Starting (s.serial fd) ∧ ∀ k, ¬ s.HeldBy (s.serial fd) k

/-- connsvr has no connections, nothing is on its way and no logic is pending. -/
structure Quiescent (s : System) : Prop where
  conns : ∀ fd, s.conn.conns fd = none
  toGame : s.toGame = []
  toConn : s.toConn = []
  logics : s.game.logicModule.store.logicDataMap = ∅

/-- All that gamesvr holds, or will hold, for a connection can still be given back. -/
structure Accounted (s : System) : Prop where
  starting : ∀ o, s.Starting o → s.Lives o
  player : ∀ k, s.game.objMgr.Live k → s.Stopping k ∨ s.Lives (s.owner k)

section
variable {codec : Codec} {s s' start : System} {i : Input} {o k : Nat}

theorem Started.accounted (h : start.Started) : start.Accounted := by
  obtain ⟨n, n₁, n₂, n₃, rawConn, rawPlayer, rawCity, listenFd, now, -, hgame, hg, -⟩ := h
  constructor
  · rintro o ⟨p, hp, -⟩
    rw [hg] at hp
    exact absurd hp List.not_mem_nil
  · intro k hk
    rw [hgame] at hk
    exact absurd hk ShmPool.init_not_allocated

theorem Lives.afterEvent {fd : Int} {conn : ConnSvr} {sent : List ConnMsg}
    (h : s.Lives o) : (s.afterEvent fd conn sent).Lives o ∨
      ∃ f c, s.conn.conns f = some c ∧ conn.conns f = none ∧ s.serial f = o := by
  obtain ⟨f, hopen, hserial⟩ := h
  obtain ⟨c, hc⟩ := Option.isSome_iff_exists.mp hopen
  cases hf : conn.conns f with
  | none => exact Or.inr ⟨f, c, hc, hf, hserial⟩
  | some c' =>
      refine Or.inl ⟨f, ?_, ?_⟩
      · show (conn.conns f).isSome
        rw [hf]
        rfl
      · rw [afterEvent_serial hopen, hserial]

theorem Stopping.afterEvent {fd : Int} {conn : ConnSvr} {sent : List ConnMsg}
    (h : s.Stopping k) : (s.afterEvent fd conn sent).Stopping k := by
  obtain ⟨p, hp, h⟩ := h
  exact ⟨p, List.mem_append_left _ hp, h⟩

theorem Accounted.event (ha : s.Accounted) {fd : Int} {isRead : Bool} {ret : ConnSvr.SysRet}
    {proc : FileProc} {conn : ConnSvr} {sent : List ConnMsg}
    (hproc : s.conn.handler fd isRead = some proc)
    (hstep : ConnSvr.EventStep fd ret s.conn.conns proc conn.conns sent)
    (hr : NoLeak s (.event fd isRead ret) (s.afterEvent fd conn sent)) :
    (s.afterEvent fd conn sent).Accounted := by
  constructor
  · rintro o ⟨p, hp, hcmd, rfl⟩
    rcases List.mem_append.mp hp with hp | hp
    · rcases (ha.starting p.2 ⟨p, hp, hcmd, rfl⟩).afterEvent with h | ⟨f, c, hc, hf, hserial⟩
      · exact h
      · exact absurd ⟨p, hp, hcmd, hserial.symm⟩ (hr f c hc hf).starting
    · obtain ⟨msg, hmsg, rfl⟩ := List.mem_map.mp hp
      obtain ⟨-, hopen⟩ := hstep.start_sent hmsg hcmd
      have hlives : s.Lives (s.serial fd) := ⟨fd, hopen, rfl⟩
      cases hf : conn.conns fd with
      | none =>
          obtain ⟨c, c₁, buf, hc, hidx, rfl, hrecv, hadd, hzmq⟩ := hstep.start_cut hmsg hcmd hf
          have hfail := (hr fd c hc hf).cut hidx hproc buf hrecv (by rw [hadd]; exact Option.some_ne_none _)
          rw [hzmq] at hfail
          cases hfail
      | some c' =>
          refine ⟨fd, ?_, ?_⟩
          · show (conn.conns fd).isSome
            rw [hf]
            rfl
          · exact afterEvent_serial hopen
  · intro k hk
    rcases ha.player k hk with h | h
    · exact Or.inl h.afterEvent
    · rcases h.afterEvent with h | ⟨f, c, hc, hf, hserial⟩
      · exact Or.inr h
      · refine Or.inl ?_
        by_cases hstop : s.Stopping k
        · exact hstop.afterEvent
        · obtain ⟨hread, hrecv, hzmq, hidx⟩ := (hr f c hc hf).held k ⟨hk, hserial.symm, hstop⟩
          obtain rfl := hstep.released hc hf
          rw [hproc] at hread
          cases hread
          have hsent := hstep.closed_sent hc hf hrecv
          have hpos : c.playerIdx ≠ 0 := by
            have := hk.1
            omega
          have hmem : (⟨⟨0, c.playerIdx, .connStop⟩, []⟩ : ConnMsg) ∈ sent := by
            rw [hsent, hzmq]
            unfold ConnSvr.sendConnStop
            rw [if_neg hpos]
            exact List.mem_singleton_self _
          exact ⟨(_, s.serial f), List.mem_append_right _ (List.mem_map.mpr ⟨_, hmem, rfl⟩), rfl, hidx⟩

theorem Accounted.deliver (ha : s.Accounted) {rest : List (ConnMsg × Nat)}
    {sendRet : SendRet} {ctl : Bool} {conn : ConnSvr}
    (hr : NoLeak s (.toConn sendRet ctl) { s with conn := conn, toConn := rest }) :
    Accounted { s with conn := conn, toConn := rest } := by
  have hlives : ∀ {o}, s.Lives o → Lives { s with conn := conn, toConn := rest } o ∨
      ∃ f c, s.conn.conns f = some c ∧ conn.conns f = none ∧ s.serial f = o := by
    rintro o ⟨f, hopen, hserial⟩
    obtain ⟨c, hc⟩ := Option.isSome_iff_exists.mp hopen
    cases hf : conn.conns f with
    | none => exact Or.inr ⟨f, c, hc, hf, hserial⟩
    | some c' => exact Or.inl ⟨f, by show (conn.conns f).isSome; rw [hf]; rfl, hserial⟩
  constructor
  · intro o hstart
    rcases hlives (ha.starting o hstart) with h | ⟨f, c, hc, hf, hserial⟩
    · exact h
    · exact absurd (hserial ▸ hstart) (hr f c hc hf).1
  · intro k hk
    rcases ha.player k hk with h | h
    · exact Or.inl h
    · rcases hlives h with h | ⟨f, c, hc, hf, hserial⟩
      · exact Or.inr h
      · by_cases hstop : s.Stopping k
        · exact Or.inl hstop
        · exact absurd ⟨hk, hserial.symm, hstop⟩ ((hr f c hc hf).2 k)

/-- **A message of connsvr** that is taken: a new player belongs to a connection that is
open, and the `CONN_STOP` that is used up has freed its player. -/
theorem Accounted.game (ha : s.Accounted) {msg : ConnMsg} {origin : Nat}
    {rest : List (ConnMsg × Nat)} {game : GameSvr} {out : GameOut}
    (hq : s.toGame = (msg, origin) :: rest)
    (hstep : GameSvr.ConnsvrStep s.game.objMgr msg game.objMgr out.toConnsvr) :
    ({ s with toGame := rest }.afterGame origin game out).Accounted := by
  have hrest : ∀ {p}, p ∈ rest → p ∈ s.toGame := fun hp => hq ▸ List.mem_cons_of_mem _ hp
  have howner : ∀ k, s.game.objMgr.Live k →
      ({ s with toGame := rest }.afterGame origin game out).owner k = s.owner k :=
    fun k hk => if_neg (fun h => h.1 hk)
  have hkeep : ∀ k, s.game.objMgr.Live k →
      (msg.connData.connCmd = .connStop → msg.connData.playerIdx ≠ k) →
      ({ s with toGame := rest }.afterGame origin game out).Stopping k ∨
        ({ s with toGame := rest }.afterGame origin game out).Lives
          (({ s with toGame := rest }.afterGame origin game out).owner k) := by
    intro k hk hne
    rw [howner k hk]
    refine (ha.player k hk).imp_left ?_
    rintro ⟨p, hp, hcmd, hidx⟩
    rw [hq] at hp
    rcases List.mem_cons.mp hp with rfl | hp
    · exact absurd hidx (hne hcmd)
    · exact ⟨p, hp, hcmd, hidx⟩
  constructor
  · rintro o ⟨p, hp, h⟩
    exact ha.starting o ⟨p, hrest hp, h⟩
  · intro k hk
    cases hstep with
    | started k₀ hcmd _ hnew hlive _ _ _ =>
        rcases (hlive k).mp hk with hold | rfl
        · exact hkeep k hold (fun h => by rw [hcmd] at h; cases h)
        · have hown : ({ s with toGame := rest }.afterGame origin game out).owner k = origin :=
            if_pos ⟨hnew, hk⟩
          rw [hown]
          exact Or.inr (ha.starting origin ⟨_, hq ▸ List.mem_cons_self, hcmd, rfl⟩)
    | processed hcmd hsame _ =>
        exact hkeep k ((hsame.live k).mp hk) (fun h => by rw [hcmd] at h; cases h)
    | stopped hcmd hlive _ _ =>
        obtain ⟨hold, hne⟩ := (hlive k).mp hk
        exact hkeep k hold (fun _ => hne)

theorem Moves.accounted (ha : s.Accounted) (h : Moves codec s i s') (hr : NoLeak s i s') :
    s'.Accounted := by
  cases h with
  | event fd isRead ret proc conn sent _ hproc hstep => exact ha.event hproc hstep hr
  | deliver sendRet ctl msg o rest conn _ _ _ => exact ha.deliver hr
  | game ret msg origin rest game out hq _ hstep => exact ha.game hq hstep
  | datasvr msg ret game out hsame _ =>
      exact ⟨ha.starting, fun k hk => ha.player k ((hsame.live k).mp hk)⟩
  | update now game he => exact ⟨ha.starting, fun k hk => ha.player k (he ▸ hk)⟩
  | empty _ _ => exact ha

/-- **No player leaks** in a run in which every connection that is released gives back
what gamesvr holds for it. -/
theorem run_noLeak (hstart : start.Started) (h : Run codec NoLeak start s) (hs : s.Quiescent) :
    ∀ k, ¬ s.game.objMgr.Live k := by
  obtain ⟨-, ha⟩ := h.induct hstart hstart.accounted (fun _ _ _ _ ha hm hr => hm.accounted ha hr)
  intro k hk
  rcases ha.player k hk with ⟨p, hp, -⟩ | ⟨fd, hopen, -⟩
  · rw [hs.toGame] at hp
    exact List.not_mem_nil hp
  · rw [hs.conns fd] at hopen
    cases hopen

theorem conns_of_empty (h : s.conn.connMgr.connMap = ∅) (fd : Int) : s.conn.conns fd = none := by
  unfold ConnSvr.conns ConnMgrModule.conns
  rw [h]
  rfl

theorem noLeak_of_connMap (h : s.conn.connMgr.connMap = ∅ ∨
    s'.conn.connMgr.connMap = s.conn.connMgr.connMap) : NoLeak s i s' := by
  intro fd c hc hf
  rcases h with h | h
  · rw [conns_of_empty h fd] at hc
    cases hc
  · have hget := ConnMgrModule.conns_eq_none.mp hf
    unfold ConnMgrModule.getConn at hget
    rw [h] at hget
    have hnone : s.conn.conns fd = none := ConnMgrModule.conns_eq_none.mpr hget
    rw [hnone] at hc
    cases hc

theorem noLeak_of_single {fd f : Int} {conn : Nat} {isRead : Bool} {ret : ConnSvr.SysRet}
    (hmap : s.conn.connMgr.connMap = Finmap.singleton fd conn)
    (h : s.GivesBack fd isRead ret (s.conn.connMgr.connPool.mem conn)) :
    NoLeak s (.event f isRead ret) s' := by
  intro f' c hc _
  obtain ⟨k, hk, rfl⟩ := ConnMgrModule.conns_eq_some hc
  unfold ConnMgrModule.getConn at hk
  rw [hmap] at hk
  by_cases he : f' = fd
  · subst he
    rw [Finmap.lookup_singleton_eq] at hk
    cases hk
    exact h
  · have hin := Finmap.mem_of_lookup_eq_some hk
    exact absurd (Finmap.mem_singleton f' fd conn |>.mp hin) he

/-- A client registers, gets its answer and goes: its player is saved and freed. -/
theorem run_noLeak_registered : ∃ s : System, s.Quiescent ∧ ∀ k, ¬ s.game.objMgr.Live k := by
  have h₁ : Run headCodec NoLeak fresh _ :=
    .step acceptFive .start rfl rfl (noLeak_of_connMap (Or.inl rfl))
  have h₂ := h₁.step (sendFive [0, 6, 10, 2, 8, 15]) rfl rfl (noLeak_of_connMap (Or.inr rfl))
  have h₃ := h₂.step (.toGame quietGame) trivial rfl (noLeak_of_connMap (Or.inr rfl))
  have h₄ := h₃.step (.toConn (.sent 6) true) trivial rfl (noLeak_of_connMap (Or.inr rfl))
  have hgives : ∀ (s : System), s.toGame = [] → s.game.objMgr.playerPool.totalUnitCount = 4 →
      (∀ k ≤ 4, s.game.objMgr.playerPool.pos k = k → k = 1 ∨ k = 0) →
      s.conn.handler 5 true = some .doTcpRead → (s.conn.connMgr.connPool.mem 1).playerIdx = 1 →
      s.GivesBack 5 true { quietRet with recvRet := .closed } (s.conn.connMgr.connPool.mem 1) := by
    intro s hq htotal hpos hread hidx
    refine ⟨?_, fun k hk => ⟨hread, rfl, rfl, ?_⟩, fun h => ?_⟩
    · rintro ⟨p, hp, -⟩
      rw [hq] at hp
      exact List.not_mem_nil hp
    · obtain ⟨h1, h2, h3⟩ := hk.1
      rcases hpos k (htotal ▸ h2) h3 with rfl | rfl
      · exact hidx
      · exact absurd h1 (by decide)
    · rw [hidx] at h
      cases h
  have h₅ := h₄.step closeFive rfl rfl
    (noLeak_of_single rfl (hgives _ rfl rfl (by decide) rfl rfl))
  have h₆ := h₅.step (.toGame quietGame) trivial rfl (noLeak_of_connMap (Or.inr rfl))
  have h₇ := h₆.step (.update ⟨100, 0⟩) trivial rfl (noLeak_of_connMap (Or.inr rfl))
  exact ⟨_, ⟨conns_of_empty rfl, rfl, rfl, rfl⟩,
    run_noLeak fresh_started h₇ ⟨conns_of_empty rfl, rfl, rfl, rfl⟩⟩

/-- **A player leaks.**  The first frame of a client does not parse; gamesvr keeps the
player it has allocated for it, and nobody will ever free it. -/
theorem run_leak : ∃ s : System, fresh.Started ∧ Run headCodec (fun _ _ _ => True) fresh s ∧
    s.Quiescent ∧ s.game.objMgr.Live 1 := by
  have h₁ : Run headCodec (fun _ _ _ => True) fresh _ := .step acceptFive .start rfl rfl trivial
  have h₂ := h₁.step (sendFive [0, 5, 1, 2, 3]) rfl rfl trivial
  have h₃ := h₂.step closeFive rfl rfl trivial
  have h₄ := h₃.step (.toGame quietGame) trivial rfl trivial
  exact ⟨_, fresh_started, h₄, ⟨conns_of_empty rfl, rfl, rfl, rfl⟩, by decide⟩

end

end System

end PlayFrame
