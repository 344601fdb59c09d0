/-
# `PlayFrame.ConnSvr.Streams` — the two streams of a connection

What one event of connsvr does to the bytes of a connection, whatever the system calls
answer.  Upwards, what is forwarded is the complete packages of what has been received, in
order.  Downwards, what `send` has accepted and what waits in `send_buf_` are the frames of
some of the messages that were passed on, in order: a frame may be lost, but none is cut in
the middle, and none gets between the bytes of another.
-/
import PlayFrame.ConnSvr.Reassembly
import PlayFrame.ConnSvr.SendStream

namespace PlayFrame

open Connection (clientFraming payloadOf wire readLoop_cut)

/-- What has come and gone on a connection: the bytes received and the payloads forwarded,
the payloads of the messages for it and the bytes that `send` has accepted. -/
structure ConnStream where
  received : Bytes := []
  forwarded : List Bytes := []
  passed : List Bytes := []
  written : Bytes := []

/-- What `recv` has brought. -/
def RecvRet.bytes : RecvRet → Bytes
  | .data buf => buf
  | _ => []

namespace ConnStream

/-- The packages among the messages that a handler sends; a `CONN_STOP` is none. -/
def payloadsOf (sent : List ConnMsg) : List Bytes :=
  (sent.filter fun msg => msg.connData.connCmd ≠ .connStop).map ConnMsg.payload

/-- A handler has received a chunk, forwarded packages and written bytes. -/
def event (t : ConnStream) (chunk : Bytes) (sent : List ConnMsg) (bytes : Bytes) : ConnStream :=
  { t with
    received := t.received ++ chunk
    forwarded := t.forwarded ++ payloadsOf sent
    written := t.written ++ bytes }

/-- A message has been passed on, of which `bytes` were written. -/
def message (t : ConnStream) (payload bytes : Bytes) : ConnStream :=
  { t with passed := t.passed ++ [payload], written := t.written ++ bytes }

/-- The packages forwarded are the first of the bytes received, and all that are complete if
the connection is still there; the bytes written begin the frames of some of the messages
passed, and the others of these frames are in its buffer. -/
structure Explains (t : ConnStream) (last : Option Connection) : Prop where
  up : ∃ fs r, clientFraming.Cut t.received fs r ∧ t.forwarded = fs.map payloadOf ∧
    ∀ c ∈ last, c.recvBuf = r ∧ ¬ c.IsRecvProtoReady
  down : ∃ payloads, payloads.Sublist t.passed ∧ t.written <+: wire payloads ∧
    ∀ c ∈ last, t.written ++ c.sendBuf = wire payloads

section
variable {t : ConnStream} {c c' : Connection} {last : Option Connection} {sent : List ConnMsg}
  {chunk bytes payload : Bytes}

theorem event_nothing : t.event [] [] [] = t := by
  unfold event payloadsOf
  simp only [List.filter_nil, List.map_nil, List.append_nil]

theorem explains_accepted (fd : Int) : ({} : ConnStream).Explains (some (ConnSvr.accepted fd)) := by
  refine ⟨⟨[], [], .refl _, rfl, fun c hc => ?_⟩, ⟨[], .refl _, List.nil_prefix, fun c hc => ?_⟩⟩
  · cases hc
    exact ⟨rfl, fun h => absurd h.1 (Nat.not_lt_zero _)⟩
  · cases hc
    rfl

theorem Explains.released (h : t.Explains last) : t.Explains none := by
  obtain ⟨⟨fs, r, hcut, hforwarded, -⟩, ⟨payloads, hsub, hprefix, -⟩⟩ := h
  exact ⟨⟨fs, r, hcut, hforwarded, nofun⟩, ⟨payloads, hsub, hprefix, nofun⟩⟩

theorem Explains.drained (h : t.Explains (some c)) (hrecv : c'.recvBuf = c.recvBuf)
    (hsend : bytes ++ c'.sendBuf = c.sendBuf) : (t.event [] [] bytes).Explains (some c') := by
  obtain ⟨⟨fs, r, hcut, hforwarded, hbuf⟩, ⟨payloads, hsub, hprefix, hwire⟩⟩ := h
  obtain ⟨hr, hstuck⟩ := hbuf c rfl
  have hall : (t.written ++ bytes) ++ c'.sendBuf = wire payloads := by
    rw [List.append_assoc, hsend]
    exact hwire c rfl
  refine ⟨⟨fs, r, ?_, ?_, fun d hd => ?_⟩, ⟨payloads, hsub, ⟨_, hall⟩, fun d hd => ?_⟩⟩
  · rw [event, List.append_nil]
    exact hcut
  · simp only [event, payloadsOf, List.filter_nil, List.map_nil, List.append_nil]
    exact hforwarded
  · cases hd
    refine ⟨hrecv.trans hr, ?_⟩
    unfold Connection.IsRecvProtoReady Connection.getRecvProtoLen at hstuck ⊢
    rw [hrecv]
    exact hstuck
  · cases hd
    exact hall

theorem Explains.dropped (h : t.Explains last) (hsent : payloadsOf sent = []) :
    (t.event chunk sent []).Explains none := by
  obtain ⟨⟨fs, r, hcut, hforwarded, -⟩, ⟨payloads, hsub, hprefix, -⟩⟩ := h
  refine ⟨⟨fs, r ++ chunk, hcut.append, ?_, nofun⟩, ⟨payloads, hsub, ?_, nofun⟩⟩
  · rw [event, hsent, List.append_nil]
    exact hforwarded
  · rw [event, List.append_nil]
    exact hprefix

theorem Explains.passed (h : t.Explains (some c)) (hrecv : c'.recvBuf = c.recvBuf)
    (hsend : bytes ++ c'.sendBuf = c.sendBuf ++ ConnSvr.clientFrame payload ∨
      bytes = [] ∧ c'.sendBuf = c.sendBuf) : (t.message payload bytes).Explains (some c') := by
  obtain ⟨⟨fs, r, hcut, hforwarded, hbuf⟩, ⟨payloads, hsub, hprefix, hwire⟩⟩ := h
  obtain ⟨hr, hstuck⟩ := hbuf c rfl
  refine ⟨⟨fs, r, hcut, hforwarded, fun d hd => ?_⟩, ?_⟩
  · cases hd
    refine ⟨hrecv.trans hr, ?_⟩
    unfold Connection.IsRecvProtoReady Connection.getRecvProtoLen at hstuck ⊢
    rw [hrecv]
    exact hstuck
  rcases hsend with hkept | ⟨rfl, hlost⟩
  · have hall : (t.written ++ bytes) ++ c'.sendBuf = wire (payloads ++ [payload]) := by
      rw [List.append_assoc, hkept, ← List.append_assoc, hwire c rfl, Connection.wire_snoc]
    refine ⟨payloads ++ [payload], hsub.append (List.Sublist.refl _), ⟨_, hall⟩, fun d hd => ?_⟩
    cases hd
    exact hall
  · refine ⟨payloads, hsub.trans (List.sublist_append_left _ _), ?_, fun d hd => ?_⟩
    · rw [message, List.append_nil]
      exact hprefix
    · cases hd
      rw [message, List.append_nil, hlost]
      exact hwire c rfl

theorem Explains.refused (h : t.Explains (some c))
    (hbytes : bytes <+: c.sendBuf ++ ConnSvr.clientFrame payload) :
    (t.message payload bytes).Explains none := by
  obtain ⟨⟨fs, r, hcut, hforwarded, -⟩, ⟨payloads, hsub, -, hwire⟩⟩ := h
  refine ⟨⟨fs, r, hcut, hforwarded, nofun⟩,
    ⟨payloads ++ [payload], hsub.append (List.Sublist.refl _), ?_, nofun⟩⟩
  rw [Connection.wire_snoc, ← hwire c rfl, List.append_assoc]
  exact (List.prefix_append_right_inj _).mpr hbytes

end

end ConnStream

namespace ConnSvr

open ConnStream (payloadsOf)

section
variable {s s' : ConnSvr} {fd f : Int} {c c' : Connection} {t : ConnStream} {epoller isRead : Bool}
  {sent out : List ConnMsg} {bytes : Bytes} {msg : ConnMsg} {sendRet : SendRet} {ctl : Bool}
  {ret : SysRet}

theorem payloadsOf_sendConnStop (zmq : Bool) (playerIdx : Int) :
    payloadsOf (sendConnStop zmq playerIdx) = [] := by
  unfold sendConnStop
  split
  · rfl
  split
  · rfl
  · rfl

theorem payloadsOf_loop {zmq : Nat → Bool} {readEnd : Connection.ReadEnd}
    (h : Connection.LoopEnd fd zmq c readEnd c' sent) :
    payloadsOf sent = sent.map ConnMsg.payload := by
  unfold payloadsOf
  rw [List.filter_eq_self.mpr]
  intro msg hmsg
  rw [h.header msg hmsg]
  dsimp only
  split
  · rfl
  · rfl

/-- **DoTcpRead** forwards the packages that the chunk completes. -/
theorem doTcpRead_stream {recvRet : RecvRet} {zmq : Nat → Bool} (hs : s.connMgr.Ok)
    (hc : s.conns fd = some c) (ht : t.Explains (some c))
    (h : s.doTcpRead epoller fd recvRet zmq = .ok (some (s', sent))) :
    (t.event recvRet.bytes sent []).Explains (s'.conns fd) := by
  obtain ⟨ptr, hget, rfl⟩ := ConnMgrModule.conns_eq_some hc
  unfold doTcpRead at h
  simp only [hget] at h
  cases recvRet with
  | failed =>
      obtain ⟨s₁, hrel, h⟩ := bind_eq_ok.mp h
      cases h
      rw [releaseAndClear_own hs hrel]
      exact ht.dropped rfl
  | closed =>
      obtain ⟨s₁, hrel, h⟩ := bind_eq_ok.mp h
      cases h
      rw [releaseAndClear_own hs hrel]
      exact ht.dropped (payloadsOf_sendConnStop _ _)
  | data buf =>
      cases hadd : (s.connMgr.connPool.mem ptr).addRecvData buf with
      | none =>
          simp only [hadd] at h
          obtain ⟨s₁, hrel, h⟩ := bind_eq_ok.mp h
          cases h
          rw [releaseAndClear_own hs hrel]
          exact ht.dropped rfl
      | some c₁ =>
          simp only [hadd] at h
          obtain ⟨hcap, hc₁⟩ := Connection.addRecvData_some hadd
          have hcap' : c₁.recvBuf.length ≤ pkgBufSize := by
            rw [hc₁, List.length_append]
            exact hcap
          rcases Connection.readLoop_cases fd _ zmq c₁ (Nat.lt_succ_self _) hcap' with
            ⟨he, -⟩ | ⟨readEnd, c₂, msgs, hloop, hend⟩
          · rw [he] at h
            cases h
          rw [hloop, ok_bind] at h
          have hfd : c₂.connFd = fd := by
            have hfd₀ := hs.connFd hc
            rw [hend.frame, hc₁]
            exact hfd₀
          obtain ⟨hok, hconns⟩ := modify_spec hs hget hfd
          obtain ⟨⟨fs, r, hcut, hforwarded, hbuf⟩, ⟨payloads, hsub, hprefix, hwire⟩⟩ := ht
          obtain ⟨rfl, -⟩ := hbuf _ rfl
          obtain ⟨gs, r', hcut', hsent, hrest⟩ := readLoop_cut fd _ _ _ hcap' hloop
          -- the packages of the chunk follow those that were forwarded before
          have hup : ∀ last : Option Connection,
              (∀ c ∈ last, c.recvBuf = r' ∧ ¬ c.IsRecvProtoReady) →
              (∀ c ∈ last, t.written ++ c.sendBuf = wire payloads) →
              (t.event buf msgs []).Explains last := by
            intro last hlast hdown
            refine ⟨⟨fs ++ gs, r', ?_, ?_, hlast⟩, ⟨payloads, hsub, ?_, ?_⟩⟩
            · have hjoin := hcut'.cut
              rw [hc₁] at hjoin
              exact hcut.append.trans hjoin
            · rw [ConnStream.event, payloadsOf_loop hend, hsent, hforwarded, List.map_append]
            · rw [ConnStream.event, List.append_nil]
              exact hprefix
            · rw [ConnStream.event, List.append_nil]
              exact hdown
          rcases hend.readEnd with ⟨rfl, hstuck⟩ | ⟨rfl, -⟩
          · cases h
            show (t.event buf sent []).Explains (ConnMgrModule.conns _ fd)
            rw [hconns, Function.update_self]
            refine hup _ (fun d hd => ?_) (fun d hd => ?_)
            · cases hd
              exact ⟨hrest rfl, hstuck⟩
            · cases hd
              have hsame : c₂.sendBuf = (s.connMgr.connPool.mem ptr).sendBuf := by
                rw [hend.frame, hc₁]
              rw [hsame]
              exact hwire _ rfl
          · obtain ⟨s₁, hrel, h⟩ := bind_eq_ok.mp h
            cases h
            rw [releaseAndClear_own hok hrel]
            exact hup none nofun nofun

theorem doTcpWrite_stream (hs : s.connMgr.Ok) (hc : s.conns fd = some c)
    (ht : t.Explains (some c)) (h : s.doTcpWrite epoller fd sendRet = .ok (s', bytes)) :
    (t.event [] [] bytes).Explains (s'.conns fd) := by
  obtain ⟨ptr, hget, rfl⟩ := ConnMgrModule.conns_eq_some hc
  have hfd := hs.connFd hc
  unfold doTcpWrite at h
  simp only [hget] at h
  cases sendRet with
  | again =>
      obtain ⟨s₁, hrel, h⟩ := bind_eq_ok.mp h
      cases h
      rw [releaseAndClear_own hs hrel]
      exact ht.dropped rfl
  | failed =>
      obtain ⟨s₁, hrel, h⟩ := bind_eq_ok.mp h
      cases h
      rw [releaseAndClear_own hs hrel]
      exact ht.dropped rfl
  | sent len =>
      dsimp only at h
      split at h
      · cases h
        have hconns := (hs.modifyConn (f := fun c => c.removeSendData len) hget hfd).2
        show (ConnStream.event _ _ _ _).Explains (ConnMgrModule.conns _ fd)
        rw [hconns, Function.update_self]
        exact ht.drained rfl (List.take_append_drop _ _)
      split at h
      · cases epoller with
        | false => cases h
        | true =>
            obtain ⟨ep, -, h⟩ := bind_eq_ok.mp h
            cases h
            have hconns := (hs.modifyConn (f := fun c => c.clearSendData) hget hfd).2
            show (ConnStream.event _ _ _ _).Explains (ConnMgrModule.conns _ fd)
            rw [hconns, Function.update_self]
            exact ht.drained rfl (List.append_nil _)
      · cases h
        rw [ConnStream.event_nothing, hc]
        exact ht

/-! ## A message of gamesvr -/

/-- What becomes of a frame: it follows the bytes of the buffer, it is lost, or it cannot be
kept. -/
theorem sendFrame_stream {ep ep' : Epoller FileProc Bool} {frame : Bytes} {r : Option Connection}
    (h : sendFrame ep fd c frame sendRet ctl = .ok (ep', bytes, r)) :
    (∃ sendBuf, r = some { c with sendBuf := sendBuf } ∧
      (bytes ++ sendBuf = c.sendBuf ++ frame ∨ bytes = [] ∧ sendBuf = c.sendBuf)) ∨
    r = none ∧ bytes <+: c.sendBuf ++ frame := by
  have hadd : ∀ {buf : Bytes}, bytes ++ (c.sendBuf ++ buf) = c.sendBuf ++ frame →
      bytes <+: c.sendBuf ++ frame → c.addSendData buf = r →
      (∃ sendBuf, r = some { c with sendBuf := sendBuf } ∧
        (bytes ++ sendBuf = c.sendBuf ++ frame ∨ bytes = [] ∧ sendBuf = c.sendBuf)) ∨
      r = none ∧ bytes <+: c.sendBuf ++ frame := by
    rintro buf hkept hprefix rfl
    unfold Connection.addSendData
    split
    · exact Or.inr ⟨rfl, hprefix⟩
    · exact Or.inl ⟨_, rfl, Or.inl hkept⟩
  unfold sendFrame at h
  split at h
  · next hempty =>
    have hnil : c.sendBuf = [] := List.length_eq_zero_iff.mp hempty
    cases sendRet with
    | again =>
        obtain ⟨_, -, h⟩ := bind_eq_ok.mp h
        cases h
        exact Or.inl ⟨_, rfl, Or.inr ⟨rfl, rfl⟩⟩
    | failed =>
        cases h
        exact Or.inr ⟨rfl, List.nil_prefix⟩
    | sent len =>
        dsimp only at h
        split at h
        · obtain ⟨_, -, h⟩ := bind_eq_ok.mp h
          cases h
          refine hadd ?_ ?_ rfl
          · rw [hnil, List.nil_append, List.nil_append, List.take_append_drop]
          · rw [hnil, List.nil_append]
            exact List.take_prefix _ _
        · cases h
          refine Or.inl ⟨c.sendBuf, rfl, Or.inl ?_⟩
          rw [hnil, List.nil_append, List.append_nil]
  · cases h
    exact hadd rfl List.nil_prefix rfl

theorem receive_message {buf : Nat → UInt8} {r : Option Bytes}
    (h : (Link.gamesvrToConnsvr.receive buf
      (Link.gamesvrToConnsvr.wire msg.connData msg.payload)).2 = .ok r) : r = some msg.payload := by
  have hlen : (Link.gamesvrToConnsvr.wire msg.connData msg.payload).length =
      connDataSize + msg.payload.length := by
    show (msg.connData.bytes ++ msg.payload).length = _
    rw [List.length_append, ConnData.length_bytes]
  have hhdr : connDataSize ≤ (Link.gamesvrToConnsvr.wire msg.connData msg.payload).length := by
    rw [hlen]
    exact Nat.le_add_right _ _
  by_cases hfit : connDataSize + msg.payload.length ≤ pkgBufSize
  · have hwhole : (Link.gamesvrToConnsvr.receive buf
        (Link.gamesvrToConnsvr.wire msg.connData msg.payload)).2 = .ok (some msg.payload) :=
      Link.receive_whole (Nat.le_add_right _ _) hfit hfit
    rw [hwhole] at h
    cases h
    rfl
  · have hleave : (Link.gamesvrToConnsvr.receive buf
        (Link.gamesvrToConnsvr.wire msg.connData msg.payload)).2 = .error .outOfBounds := by
      rw [Link.receive_eq (l := .gamesvrToConnsvr) hhdr hhdr, hlen, if_neg hfit]
    rw [hleave] at h
    cases h

theorem notePlayer_recvBuf (connData : ConnData) (c : Connection) :
    (notePlayer connData c).recvBuf = c.recvBuf := by
  unfold notePlayer
  cases connData.connCmd with
  | connProc =>
      simp only
      split
      · rfl
      · rfl
  | connStart => rfl
  | connStop => rfl

theorem zmqReadLoop_stream (hs : s.connMgr.Ok) (hc : s.conns msg.connData.connFd = some c)
    (ht : t.Explains (some c)) (h : s.zmqReadLoop msg sendRet ctl = .ok (s', bytes)) :
    (t.message msg.payload bytes).Explains (s'.conns msg.connData.connFd) := by
  obtain ⟨ptr, hget, rfl⟩ := ConnMgrModule.conns_eq_some hc
  have hfd := hs.connFd hc
  unfold zmqReadLoop at h
  simp only [hget] at h
  split at h
  · cases h
    show (t.message msg.payload []).Explains (s.conns msg.connData.connFd)
    rw [hc]
    exact ht.passed rfl (Or.inr ⟨rfl, rfl⟩)
  obtain ⟨_, hrecv, h⟩ := bind_eq_ok.mp h
  obtain rfl := receive_message hrecv
  obtain ⟨⟨ep, out, r⟩, hframe, h⟩ := bind_eq_ok.mp h
  rcases sendFrame_stream hframe with ⟨sendBuf, rfl, hsend⟩ | ⟨rfl, hprefix⟩
  · have hnoted : (t.message msg.payload out).Explains (some (notePlayer msg.connData
        { s.connMgr.connPool.mem ptr with sendBuf := sendBuf })) := by
      refine ht.passed (notePlayer_recvBuf _ _) ?_
      rw [notePlayer_sendBuf]
      exact hsend
    obtain ⟨hok, hconns⟩ := modify_spec hs hget ((notePlayer_connFd msg.connData
      { s.connMgr.connPool.mem ptr with sendBuf := sendBuf }).trans hfd)
    dsimp only at h
    split at h
    · obtain ⟨s₁, hrel, h⟩ := bind_eq_ok.mp h
      cases h
      rw [releaseAndClear_own hok hrel]
      exact hnoted.released
    · cases h
      show (ConnStream.message _ _ _).Explains (ConnMgrModule.conns _ msg.connData.connFd)
      rw [hconns, Function.update_self]
      exact hnoted
  · obtain ⟨s₁, hrel, h⟩ := bind_eq_ok.mp h
    cases h
    have hgone : s'.conns msg.connData.connFd = none := by
      refine releaseAndClear_own ?_ hrel
      exact hs
    rw [hgone]
    exact ht.refused hprefix

/-! ## An event of the epoller -/

/-- The bytes that the handler called for an event receives. -/
def received (s : ConnSvr) (fd : Int) (isRead : Bool) (ret : SysRet) : Bytes :=
  if s.handler fd isRead = some .doTcpRead then ret.recvRet.bytes else []

theorem onEvent_nothing {ret : SysRet} (hc : s.conns fd = none)
    (h : s.onEvent fd isRead ret = .ok (some (s', sent, bytes))) : sent = [] ∧ bytes = [] := by
  have hget : s.connMgr.getConn fd = none := ConnMgrModule.conns_eq_none.mp hc
  obtain ⟨fe, -, h⟩ := bind_eq_ok.mp h
  split at h
  · cases h
  next proc hproc =>
    unfold callProc at h
    cases proc with
    | doTcpAccept =>
        obtain ⟨s₁, -, h⟩ := bind_eq_ok.mp h
        cases h
        exact ⟨rfl, rfl⟩
    | doTcpRead =>
        unfold doTcpRead at h
        simp only [hget] at h
        cases h
        exact ⟨rfl, rfl⟩
    | doTcpWrite =>
        unfold doTcpWrite at h
        simp only [hget] at h
        cases h
        exact ⟨rfl, rfl⟩

/-- **An event for a connection** receives, forwards and writes what it should. -/
theorem onEvent_stream {ret : SysRet} (hs : s.connMgr.Ok) (hnew : s.conns ret.acceptRet = none)
    (hc : s.conns fd = some c) (ht : t.Explains (some c))
    (h : s.onEvent fd isRead ret = .ok (some (s', sent, bytes))) :
    (t.event (s.received fd isRead ret) sent bytes).Explains (s'.conns fd) := by
  have hfd : fd ≠ ret.acceptRet := by
    rintro rfl
    rw [hc] at hnew
    cases hnew
  obtain ⟨fe, hfe, h⟩ := bind_eq_ok.mp h
  split at h
  · cases h
  next proc hproc =>
    have hhandler : s.handler fd isRead = some proc := by
      unfold handler
      rw [hfe]
      exact hproc
    unfold received
    rw [hhandler]
    unfold callProc at h
    cases proc with
    | doTcpAccept =>
        obtain ⟨s₁, haccept, h⟩ := bind_eq_ok.mp h
        cases h
        have hstep : EventStep fd ret s.conns .doTcpAccept s'.conns [] :=
          (doTcpAccept_spec hs hnew haccept).2
        have hconns : s'.conns fd = some c := by
          generalize s'.conns = conns' at hstep
          cases hstep with
          | idle _ => exact hc
          | accept _ => exact (Function.update_of_ne hfd _ _).trans hc
        rw [if_neg nofun, hconns, ConnStream.event_nothing]
        exact ht
    | doTcpRead =>
        obtain ⟨r, hread, h⟩ := bind_eq_ok.mp h
        cases r with
        | none => cases h
        | some r =>
            cases h
            rw [if_pos rfl]
            exact doTcpRead_stream hs hc ht hread
    | doTcpWrite =>
        obtain ⟨r, hwrite, h⟩ := bind_eq_ok.mp h
        cases h
        rw [if_neg nofun]
        exact doTcpWrite_stream hs hc ht hwrite

end

end ConnSvr

end PlayFrame
