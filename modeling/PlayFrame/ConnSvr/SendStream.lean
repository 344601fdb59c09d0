/-
# `PlayFrame.ConnSvr.SendStream` — what reaches the client

`EventModule::ZmqReadLoop` hands the frames of gamesvr's messages to `send`, or to
`send_buf_` when there is something in it already, and `EventModule::DoTcpWrite` writes
`send_buf_` when the socket is writable.  A `SendRun` follows one connection through any
events of connsvr until it is released; it collects the payloads of the messages for the
connection and the bytes that `send` has accepted.

No byte is lost or moved as long as the first `send` for a frame does not answer
`EAGAIN`: then the frame is dropped, and the write event that is registered is given a
null pointer for the epoller.
-/
import PlayFrame.ConnSvr.Delivery
import PlayFrame.ConnSvr.EventSpec

namespace PlayFrame

namespace ConnSvr

/-- `fd` is registered, and its handlers are given the epoller. -/
def Registered (s : ConnSvr) (fd : Int) : Prop :=
  ∃ fe, s.epoller.fileEvent fd = .ok fe ∧ fe.clientData = true

/-- A write event is registered for `fd`, and its handler is given the epoller. -/
def WriteRegistered (s : ConnSvr) (fd : Int) : Prop :=
  ∃ fe, s.epoller.fileEvent fd = .ok fe ∧ fe.mask.write = true ∧
    fe.writeProc = some .doTcpWrite ∧ fe.clientData = true

/-- As long as the connection is there, what `send` has accepted and what is in
`send_buf_` are the frames of the payloads, and what is in `send_buf_` will be written. -/
structure Exact (s : ConnSvr) (fd : Int) (payloads : List Bytes) (sent : Bytes) : Prop where
  stream : ∀ c, s.conns fd = some c → sent ++ c.sendBuf = Connection.wire payloads
  event : ∀ c, s.conns fd = some c → c.sendBuf ≠ [] → s.WriteRegistered fd

/-- The states of connsvr while `fd` belongs to one connection, with the payloads of the
messages processed for it and the bytes accepted by `send`.  `DoTcpAccept` keeps a connection
also when its `AddEvent` fails; the state that it leaves meets the condition `start`, and the
messages for `fd` meet the condition `ok`. -/
inductive SendRun (fd : Int) (start : ConnSvr → Prop)
    (ok : ConnSvr → ConnMsg → SendRet → Bool → Prop) : ConnSvr → List Bytes → Bytes → Prop
  | accepted {s : ConnSvr} : s.connMgr.Ok → s.conns fd = some (accepted fd) → start s →
      SendRun fd start ok s [] []
  /-- a message for the connection -/
  | message {s s' : ConnSvr} {payloads : List Bytes} {sent bytes : Bytes} (msg : ConnMsg)
      (sendRet : SendRet) (ctl : Bool) : SendRun fd start ok s payloads sent →
      msg.connData.connFd = fd → ok s msg sendRet ctl →
      s.zmqReadLoop msg sendRet ctl = .ok (s', bytes) →
      SendRun fd start ok s' (payloads ++ [msg.payload]) (sent ++ bytes)
  /-- a message for another connection -/
  | other {s s' : ConnSvr} {payloads : List Bytes} {sent bytes : Bytes} (msg : ConnMsg)
      (sendRet : SendRet) (ctl : Bool) : SendRun fd start ok s payloads sent →
      msg.connData.connFd ≠ fd → s.zmqReadLoop msg sendRet ctl = .ok (s', bytes) →
      SendRun fd start ok s' payloads sent
  /-- an event of the epoller, for any fd; `accept` returns another fd, one that is not
  open -/
  | event {s s' : ConnSvr} {payloads : List Bytes} {sent bytes : Bytes} {out : List ConnMsg}
      (f : Int) (isRead : Bool) (ret : SysRet) : SendRun fd start ok s payloads sent →
      s.conns ret.acceptRet = none → ret.acceptRet ≠ fd →
      s.onEvent f isRead ret = .ok (some (s', out, bytes)) →
      SendRun fd start ok s' payloads (if f = fd then sent ++ bytes else sent)

/-- A message whose frame is not lost: it fits in `recv_buf` of `ZmqReadLoop`, and if
nothing waits in `send_buf_` then `send` accepts some of it or fails for good, and
`epoll_ctl` succeeds if it accepts only a part. -/
def NotLost (s : ConnSvr) (msg : ConnMsg) (sendRet : SendRet) (ctl : Bool) : Prop :=
  connDataSize + msg.payload.length ≤ pkgBufSize ∧
    ∀ c, s.conns msg.connData.connFd = some c → c.sendBuf = [] →
      sendRet ≠ .again ∧
        ∀ len, sendRet = .sent len → len < (clientFrame msg.payload).length → ctl = true

section
variable {s s' : ConnSvr} {fd f : Int} {epoller isRead ctl : Bool} {ret : SysRet}
  {out : List ConnMsg} {bytes sent : Bytes} {msg : ConnMsg} {sendRet : SendRet}
  {payloads : List Bytes} {ok : ConnSvr → ConnMsg → SendRet → Bool → Prop}

/-! ## Events that are not about the sending -/

/-- The connection of `fd`, if it is still there, has the same `send_buf_` and the same
entry in the table of events. -/
def SameSend (s s' : ConnSvr) (fd : Int) : Prop :=
  ∀ c', s'.conns fd = some c' → s'.epoller.fileEvent fd = s.epoller.fileEvent fd ∧
    ∃ c, s.conns fd = some c ∧ c'.sendBuf = c.sendBuf

theorem SameSend.of_frame (hconns : s'.conns fd = s.conns fd)
    (hep : s'.epoller.fileEvent fd = s.epoller.fileEvent fd) : SameSend s s' fd :=
  fun c' hc' => ⟨hep, c', hconns ▸ hc', rfl⟩

theorem releaseAndClear_others (h : s.releaseAndClear epoller f = .ok s') (hfd : fd ≠ f) :
    s'.epoller.fileEvent fd = s.epoller.fileEvent fd := by
  obtain ⟨m, -, h⟩ := bind_eq_ok.mp h
  cases epoller with
  | false => cases h
  | true =>
      obtain ⟨ep, hclear, h⟩ := bind_eq_ok.mp h
      cases h
      exact Epoller.delEvent_others hclear hfd

theorem doTcpAccept_others (h : s.doTcpAccept epoller ret.acceptRet ctl = .ok s')
    (hfd : fd ≠ ret.acceptRet) : s'.epoller.fileEvent fd = s.epoller.fileEvent fd := by
  unfold doTcpAccept at h
  split at h
  · cases h
    rfl
  split at h
  · cases h
    rfl
  obtain ⟨⟨conn, m⟩, -, h⟩ := bind_eq_ok.mp h
  cases epoller with
  | false => cases h
  | true =>
      obtain ⟨⟨r, ep⟩, hadd, h⟩ := bind_eq_ok.mp h
      cases h
      exact Epoller.addEvent_others hadd hfd

theorem releaseAndClear_own (hs : s.connMgr.Ok) (h : s.releaseAndClear epoller f = .ok s') :
    s'.conns f = none := by
  rw [(releaseAndClear_spec h hs).2, Function.update_self]

theorem readLoop_connFd {zmq : Nat → Bool} {c c₁ c₂ : Connection} {buf : Bytes}
    {readEnd : Connection.ReadEnd} (hadd : c.addRecvData buf = some c₁)
    (h : Connection.readLoop f (c₁.recvBuf.length + 1) zmq c₁ = .ok (some (readEnd, c₂, out))) :
    c₂.connFd = c.connFd := by
  obtain ⟨hcap, hc₁⟩ := Connection.addRecvData_some hadd
  have hcap₁ : c₁.recvBuf.length ≤ pkgBufSize := by
    rw [hc₁, List.length_append]
    exact hcap
  rcases Connection.readLoop_cases f _ zmq c₁ (Nat.lt_succ_self _) hcap₁ with
    ⟨he, -⟩ | ⟨e, c', sent, he, hend⟩
  · rw [h] at he
    cases he
  · rw [h] at he
    cases he
    rw [hend.frame, hc₁]

/-- The table of events after the handler for reading of `f`. -/
structure ReadTable (s s' : ConnSvr) (f : Int) : Prop where
  own : s'.epoller.fileEvent f = s.epoller.fileEvent f ∨ s'.conns f = none
  others : ∀ fd, fd ≠ f → s'.epoller.fileEvent fd = s.epoller.fileEvent fd

theorem ReadTable.same (h : s'.epoller = s.epoller) : ReadTable s s' f := by
  constructor
  · rw [h]
    exact Or.inl rfl
  · intro fd _
    rw [h]

theorem ReadTable.released {s₁ : ConnSvr} (hs : s₁.connMgr.Ok) (hep : s₁.epoller = s.epoller)
    (h : s₁.releaseAndClear epoller f = .ok s') : ReadTable s s' f where
  own := Or.inr (releaseAndClear_own hs h)
  others := by
    intro fd hfd
    rw [releaseAndClear_others h hfd, hep]

theorem doTcpRead_table {recvRet : RecvRet} {zmq : Nat → Bool} (hs : s.connMgr.Ok)
    (h : s.doTcpRead epoller f recvRet zmq = .ok (some (s', out))) : ReadTable s s' f := by
  unfold doTcpRead at h
  cases hget : s.connMgr.getConn f with
  | none =>
      simp only [hget] at h
      cases h
      exact .same rfl
  | some conn =>
      simp only [hget] at h
      cases recvRet with
      | failed =>
          obtain ⟨s₁, hrel, h⟩ := bind_eq_ok.mp h
          cases h
          exact .released hs rfl hrel
      | closed =>
          obtain ⟨s₁, hrel, h⟩ := bind_eq_ok.mp h
          cases h
          exact .released hs rfl hrel
      | data buf =>
          cases hadd : (s.connMgr.connPool.mem conn).addRecvData buf with
          | none =>
              simp only [hadd] at h
              obtain ⟨s₁, hrel, h⟩ := bind_eq_ok.mp h
              cases h
              exact .released hs rfl hrel
          | some c =>
              simp only [hadd] at h
              obtain ⟨r, hloop, h⟩ := bind_eq_ok.mp h
              cases r with
              | none => cases h
              | some r =>
                  obtain ⟨readEnd, c', sent⟩ := r
                  cases readEnd with
                  | done =>
                      cases h
                      exact .same rfl
                  | tooLong =>
                      cases h
                      exact .same rfl
                  | sendFailed =>
                      obtain ⟨s₁, hrel, h⟩ := bind_eq_ok.mp h
                      cases h
                      have hfd : (s.connMgr.connPool.mem conn).connFd = f :=
                        hs.connFd (ConnMgrModule.conns_of_lookup hget)
                      have hfd' : c'.connFd = f := by
                        rw [readLoop_connFd hadd hloop, hfd]
                      have hok : ({ s with connMgr := s.connMgr.modifyConn conn fun _ => c' } :
                          ConnSvr).connMgr.Ok := (modify_spec hs hget hfd').1
                      exact .released hok rfl hrel

theorem doTcpRead_sameSend (hs : s.connMgr.Ok)
    (h : s.doTcpRead epoller fd ret.recvRet ret.zmq = .ok (some (s', out))) :
    SameSend s s' fd := by
  have hsend : ∀ c', s'.conns fd = some c' → ∃ c, s.conns fd = some c ∧ c'.sendBuf = c.sendBuf := by
    intro c' hc'
    have hstep := (doTcpRead_spec hs h).2
    have hgone : ¬ Function.update s.conns fd none fd = some c' := by
      rw [Function.update_self]
      exact fun e => nomatch e
    generalize s'.conns = conns' at hstep hc'
    cases hstep with
    | idle _ => exact ⟨c', hc', rfl⟩
    | recvFailed c _ _ => exact absurd hc' hgone
    | closed c _ _ => exact absurd hc' hgone
    | overflow c buf _ _ _ => exact absurd hc' hgone
    | forwarded c c₁ c₂ buf _ hc _ hadd hend =>
        rw [Function.update_self] at hc'
        cases hc'
        rw [hend.frame, (Connection.addRecvData_some hadd).2]
        exact ⟨c, hc, rfl⟩
    | cut c c₁ c₂ buf _ _ _ _ _ => exact absurd hc' hgone
  intro c' hc'
  rcases (doTcpRead_table hs h).own with hep | hnone
  · exact ⟨hep, hsend c' hc'⟩
  · rw [hnone] at hc'
    cases hc'

/-! ## The two ways to the socket -/

/-- What a handler has done that wrote `bytes` of `send_buf_`: the rest is still there,
and the write event with it; or nothing is left. -/
structure Drained (s s' : ConnSvr) (fd : Int) (bytes : Bytes) (c c' : Connection) : Prop where
  before : s.conns fd = some c
  bytes : bytes ++ c'.sendBuf = c.sendBuf
  event : s'.epoller.fileEvent fd = s.epoller.fileEvent fd ∨ c'.sendBuf = []
  registered : s.Registered fd → s'.Registered fd

theorem doTcpWrite_drained (hs : s.connMgr.Ok)
    (h : s.doTcpWrite epoller fd sendRet = .ok (s', bytes)) {c' : Connection}
    (hc' : s'.conns fd = some c') : ∃ c, Drained s s' fd bytes c c' := by
  unfold doTcpWrite at h
  cases hget : s.connMgr.getConn fd with
  | none =>
      simp only [hget] at h
      cases h
      exact ⟨c', hc', rfl, Or.inl rfl, id⟩
  | some conn =>
      have hc : s.conns fd = some (s.connMgr.connPool.mem conn) :=
        ConnMgrModule.conns_of_lookup hget
      have hfd := hs.connFd hc
      simp only [hget] at h
      have hreleased : s.releaseAndClear epoller fd = .ok s' →
          ∃ c, Drained s s' fd bytes c c' := by
        intro hrel
        rw [releaseAndClear_own hs hrel] at hc'
        cases hc'
      cases sendRet with
      | again =>
          obtain ⟨s₁, hrel, h⟩ := bind_eq_ok.mp h
          cases h
          exact hreleased hrel
      | failed =>
          obtain ⟨s₁, hrel, h⟩ := bind_eq_ok.mp h
          cases h
          exact hreleased hrel
      | sent len =>
          dsimp only at h
          split at h
          · cases h
            have hconns := (hs.modifyConn (f := fun c => c.removeSendData len) hget hfd).2
            have hown : (s.connMgr.modifyConn conn fun c => c.removeSendData len).conns fd =
                some c' := hc'
            rw [hconns, Function.update_self] at hown
            cases hown
            exact ⟨_, hc, List.take_append_drop _ _, Or.inl rfl, id⟩
          split at h
          · cases epoller with
            | false => cases h
            | true =>
                obtain ⟨ep, hdel, h⟩ := bind_eq_ok.mp h
                cases h
                have hconns := (hs.modifyConn (f := fun c => c.clearSendData) hget hfd).2
                have hown : (s.connMgr.modifyConn conn fun c => c.clearSendData).conns fd =
                    some c' := hc'
                rw [hconns, Function.update_self] at hown
                cases hown
                refine ⟨_, hc, List.append_nil _, Or.inr rfl, ?_⟩
                rintro ⟨fe, hfe, hdata⟩
                obtain ⟨fe', hfe', hdata'⟩ := Epoller.delEvent_clientData hdel hfe
                exact ⟨fe', hfe', hdata'.trans hdata⟩
          · cases h
            exact ⟨c', hc', rfl, Or.inl rfl, id⟩

/-- What `sendFrame` does with a frame that is not lost. -/
structure FrameKept (ep ep' : Epoller FileProc Bool) (fd : Int) (frame bytes : Bytes)
    (c c' : Connection) : Prop where
  bytes : bytes ++ c'.sendBuf = c.sendBuf ++ frame
  event : ep' = ep ∧ (c.sendBuf = [] → c'.sendBuf = []) ∨
    ∃ fe, ep'.fileEvent fd = .ok fe ∧ fe.mask.write = true ∧
      fe.writeProc = some .doTcpWrite ∧ fe.clientData = true

theorem notePlayer_sendBuf (connData : ConnData) (c : Connection) :
    (notePlayer connData c).sendBuf = c.sendBuf := by
  unfold notePlayer
  cases connData.connCmd with
  | connProc =>
      simp only
      split
      · rfl
      · rfl
  | connStart => rfl
  | connStop => rfl

theorem addSendData_some {c c' : Connection} {buf : Bytes} (h : c.addSendData buf = some c') :
    c'.sendBuf = c.sendBuf ++ buf := by
  unfold Connection.addSendData at h
  split at h
  · cases h
  · cases h
    rfl

theorem sendFrame_kept {ep ep' : Epoller FileProc Bool} {c c' : Connection} {frame : Bytes}
    (hlost : c.sendBuf = [] → sendRet ≠ .again ∧
      ∀ len, sendRet = .sent len → len < frame.length → ctl = true)
    (hreg : ∃ fe, ep.fileEvent fd = .ok fe ∧ fe.clientData = true)
    (h : sendFrame ep fd c frame sendRet ctl = .ok (ep', bytes, some c')) :
    FrameKept ep ep' fd frame bytes c c' := by
  unfold sendFrame at h
  split at h
  · next hempty =>
    have hnil := List.eq_nil_of_length_eq_zero hempty
    obtain ⟨fe, hfe, -⟩ := hreg
    cases sendRet with
    | again => exact absurd rfl (hlost hnil).1
    | failed => cases h
    | sent len =>
        dsimp only at h
        split at h
        · next hlen =>
          obtain ⟨⟨r, ep₁⟩, hev, h⟩ := bind_eq_ok.mp h
          simp only [Except.ok.injEq, Prod.mk.injEq] at h
          obtain ⟨rfl, rfl, hc'⟩ := h
          rw [(hlost hnil).2 len rfl hlen] at hev
          refine ⟨?_, Or.inr ⟨_, Epoller.addEvent_fileEvent hev hfe, ?_, rfl, rfl⟩⟩
          · rw [addSendData_some hc', hnil, List.nil_append, List.take_append_drop, List.nil_append]
          · exact Bool.or_true _
        · cases h
          refine ⟨?_, Or.inl ⟨rfl, id⟩⟩
          rw [hnil, List.append_nil, List.nil_append]
  · next hfull =>
    simp only [Except.ok.injEq, Prod.mk.injEq] at h
    obtain ⟨rfl, rfl, hc'⟩ := h
    refine ⟨addSendData_some hc', Or.inl ⟨rfl, fun hnil => absurd ?_ hfull⟩⟩
    rw [hnil]
    rfl

/-- **A message for the connection** that is not lost, if the connection is still there
afterwards. -/
theorem zmqReadLoop_kept (hs : s.connMgr.Ok) (hlost : NotLost s msg sendRet ctl)
    (hreg : s.Registered msg.connData.connFd)
    (h : s.zmqReadLoop msg sendRet ctl = .ok (s', bytes)) {c' : Connection}
    (hc' : s'.conns msg.connData.connFd = some c') :
    ∃ c, s.conns msg.connData.connFd = some c ∧
      FrameKept s.epoller s'.epoller msg.connData.connFd (clientFrame msg.payload) bytes c c' := by
  obtain ⟨hlen, hlost⟩ := hlost
  unfold zmqReadLoop at h
  cases hget : s.connMgr.getConn msg.connData.connFd with
  | none =>
      simp only [hget] at h
      cases h
      have hnone : s.conns msg.connData.connFd = none := ConnMgrModule.conns_eq_none.mpr hget
      have hsome : s.conns msg.connData.connFd = some c' := hc'
      rw [hnone] at hsome
      cases hsome
  | some conn =>
      have hc : s.conns msg.connData.connFd = some (s.connMgr.connPool.mem conn) :=
        ConnMgrModule.conns_of_lookup hget
      have hfd := hs.connFd hc
      have hrecv : (Link.gamesvrToConnsvr.receive s.zmqBuf
          (Link.gamesvrToConnsvr.wire msg.connData msg.payload)).2 = .ok (some msg.payload) :=
        Link.receive_whole (Nat.le_add_right _ _) hlen hlen
      have hcap : ¬ msg.payload.length > pkgBufSize := by omega
      simp only [hget, if_neg hcap, hrecv, ok_bind] at h
      obtain ⟨⟨ep, out, r⟩, hframe, h⟩ := bind_eq_ok.mp h
      have hgone : ∀ {s₁ : ConnSvr}, s₁.releaseAndClear true msg.connData.connFd = .ok s' →
          s₁.connMgr.Ok → False := by
        intro s₁ hrel hs₁
        rw [releaseAndClear_own hs₁ hrel] at hc'
        cases hc'
      cases r with
      | none =>
          obtain ⟨s₁, hrel, h⟩ := bind_eq_ok.mp h
          cases h
          exact (hgone hrel hs).elim
      | some c₁ =>
          have hfd₁ : (notePlayer msg.connData c₁).connFd = msg.connData.connFd := by
            rcases sendFrame_spec hframe with ⟨sendBuf, hr⟩ | ⟨hr, -⟩
            · cases hr
              exact (notePlayer_connFd _ _).trans hfd
            · cases hr
          obtain ⟨hok, hconns⟩ := modify_spec hs hget hfd₁
          dsimp only at h
          split at h
          · obtain ⟨s₁, hrel, h⟩ := bind_eq_ok.mp h
            cases h
            exact (hgone hrel hok).elim
          · cases h
            have hown : (s.connMgr.modifyConn conn fun _ => notePlayer msg.connData c₁).conns
                msg.connData.connFd = some c' := hc'
            rw [hconns, Function.update_self] at hown
            cases hown
            have hkept := sendFrame_kept (hlost _ hc) hreg hframe
            refine ⟨_, hc, ?_, ?_⟩
            · rw [notePlayer_sendBuf]
              exact hkept.bytes
            · rw [notePlayer_sendBuf]
              exact hkept.event

/-! ## The other fds -/

theorem doTcpWrite_others (h : s.doTcpWrite epoller f sendRet = .ok (s', bytes)) (hfd : fd ≠ f) :
    s'.epoller.fileEvent fd = s.epoller.fileEvent fd := by
  unfold doTcpWrite at h
  cases hget : s.connMgr.getConn f with
  | none =>
      simp only [hget] at h
      cases h
      rfl
  | some conn =>
      simp only [hget] at h
      cases sendRet with
      | again =>
          obtain ⟨s₁, hrel, h⟩ := bind_eq_ok.mp h
          cases h
          exact releaseAndClear_others hrel hfd
      | failed =>
          obtain ⟨s₁, hrel, h⟩ := bind_eq_ok.mp h
          cases h
          exact releaseAndClear_others hrel hfd
      | sent len =>
          dsimp only at h
          split at h
          · cases h
            rfl
          split at h
          · cases epoller with
            | false => cases h
            | true =>
                obtain ⟨ep, hdel, h⟩ := bind_eq_ok.mp h
                cases h
                exact Epoller.delEvent_others hdel hfd
          · cases h
            rfl

theorem sendFrame_others {ep ep' : Epoller FileProc Bool} {c : Connection} {frame : Bytes}
    {r : Option Connection} (h : sendFrame ep f c frame sendRet ctl = .ok (ep', bytes, r))
    (hfd : fd ≠ f) : ep'.fileEvent fd = ep.fileEvent fd := by
  unfold sendFrame at h
  split at h
  · cases sendRet with
    | again =>
        obtain ⟨⟨r, ep₁⟩, hadd, h⟩ := bind_eq_ok.mp h
        cases h
        exact Epoller.addEvent_others hadd hfd
    | failed =>
        cases h
        rfl
    | sent len =>
        dsimp only at h
        split at h
        · obtain ⟨⟨r, ep₁⟩, hadd, h⟩ := bind_eq_ok.mp h
          cases h
          exact Epoller.addEvent_others hadd hfd
        · cases h
          rfl
  · cases h
    rfl

theorem zmqReadLoop_others (h : s.zmqReadLoop msg sendRet ctl = .ok (s', bytes))
    (hfd : fd ≠ msg.connData.connFd) : s'.epoller.fileEvent fd = s.epoller.fileEvent fd := by
  unfold zmqReadLoop at h
  cases hget : s.connMgr.getConn msg.connData.connFd with
  | none =>
      simp only [hget] at h
      cases h
      rfl
  | some conn =>
      simp only [hget] at h
      split at h
      · cases h
        rfl
      obtain ⟨payload, -, h⟩ := bind_eq_ok.mp h
      cases payload with
      | none =>
          cases h
          rfl
      | some payload =>
          obtain ⟨⟨ep, out, r⟩, hframe, h⟩ := bind_eq_ok.mp h
          have hep := sendFrame_others hframe hfd
          cases r with
          | none =>
              obtain ⟨s₁, hrel, h⟩ := bind_eq_ok.mp h
              cases h
              exact (releaseAndClear_others hrel hfd).trans hep
          | some c =>
              dsimp only at h
              split at h
              · obtain ⟨s₁, hrel, h⟩ := bind_eq_ok.mp h
                cases h
                exact (releaseAndClear_others hrel hfd).trans hep
              · cases h
                exact hep

/-! ## Runs -/

/-- An event of the epoller does nothing to the sending on `fd`, or it writes some of
`send_buf_`. -/
theorem onEvent_send (hs : s.connMgr.Ok) (hnew : s.conns ret.acceptRet = none)
    (hfd : ret.acceptRet ≠ fd) (h : s.onEvent f isRead ret = .ok (some (s', out, bytes)))
    {c' : Connection} (hc' : s'.conns fd = some c') :
    (SameSend s s' fd ∧ (f = fd → bytes = [])) ∨ f = fd ∧ ∃ c, Drained s s' fd bytes c c' := by
  obtain ⟨-, proc, -, hstep⟩ := onEvent_spec hs hnew h
  obtain ⟨fe, -, h⟩ := bind_eq_ok.mp h
  split at h
  · cases h
  next proc' hproc =>
    have hframe : f ≠ fd → s'.conns fd = s.conns fd := fun hne => hstep.frame hne.symm hfd.symm
    unfold callProc at h
    cases proc' with
    | doTcpAccept =>
        obtain ⟨s₁, haccept, h⟩ := bind_eq_ok.mp h
        cases h
        have hconns : s'.conns fd = s.conns fd := by
          have haccepted : EventStep f ret s.conns .doTcpAccept s'.conns [] :=
            (doTcpAccept_spec hs hnew haccept).2
          generalize s'.conns = conns' at haccepted
          cases haccepted with
          | idle _ => rfl
          | accept _ => exact Function.update_of_ne hfd.symm _ _
        exact Or.inl ⟨.of_frame hconns (doTcpAccept_others haccept hfd.symm), fun _ => rfl⟩
    | doTcpRead =>
        obtain ⟨r, hread, h⟩ := bind_eq_ok.mp h
        cases r with
        | none => cases h
        | some r =>
            cases h
            refine Or.inl ⟨?_, fun _ => rfl⟩
            by_cases hne : f = fd
            · subst hne
              exact doTcpRead_sameSend hs hread
            · exact .of_frame (hframe hne) ((doTcpRead_table hs hread).others fd (Ne.symm hne))
    | doTcpWrite =>
        obtain ⟨r, hwrite, h⟩ := bind_eq_ok.mp h
        cases h
        by_cases hne : f = fd
        · subst hne
          exact Or.inr ⟨rfl, doTcpWrite_drained hs hwrite hc'⟩
        · exact Or.inl ⟨.of_frame (hframe hne) (doTcpWrite_others hwrite (Ne.symm hne)),
            fun e => absurd e hne⟩

/-- What holds in every state of a run without lost frames. -/
structure Kept (s : ConnSvr) (fd : Int) (payloads : List Bytes) (sent : Bytes) : Prop where
  ok : s.connMgr.Ok
  exact : Exact s fd payloads sent
  registered : ∀ c, s.conns fd = some c → s.Registered fd

theorem Kept.of_none (hs : s.connMgr.Ok) (hnone : s.conns fd = none) :
    Kept s fd payloads sent := by
  have hno : ∀ c, ¬ s.conns fd = some c := by
    intro c hc
    rw [hnone] at hc
    cases hc
  exact ⟨hs, ⟨fun c hc => (hno c hc).elim, fun c hc => (hno c hc).elim⟩,
    fun c hc => (hno c hc).elim⟩

theorem Kept.of_some {c : Connection} (hs : s.connMgr.Ok) (hc : s.conns fd = some c)
    (hstream : sent ++ c.sendBuf = Connection.wire payloads)
    (hevent : c.sendBuf ≠ [] → s.WriteRegistered fd) (hreg : s.Registered fd) :
    Kept s fd payloads sent := by
  have hown : ∀ c', s.conns fd = some c' → c' = c := by
    intro c' hc'
    rw [hc] at hc'
    cases hc'
    rfl
  refine ⟨hs, ⟨fun c' hc' => ?_, fun c' hc' => ?_⟩, fun _ _ => hreg⟩
  · rw [hown c' hc']
    exact hstream
  · rw [hown c' hc']
    exact hevent

theorem WriteRegistered.registered (h : s.WriteRegistered fd) : s.Registered fd := by
  obtain ⟨fe, hfe, -, -, hdata⟩ := h
  exact ⟨fe, hfe, hdata⟩

theorem WriteRegistered.of_fileEvent (h : s.WriteRegistered fd)
    (hep : s'.epoller.fileEvent fd = s.epoller.fileEvent fd) : s'.WriteRegistered fd := by
  obtain ⟨fe, hfe, hw⟩ := h
  exact ⟨fe, hep.trans hfe, hw⟩

theorem Registered.of_fileEvent (h : s.Registered fd)
    (hep : s'.epoller.fileEvent fd = s.epoller.fileEvent fd) : s'.Registered fd := by
  obtain ⟨fe, hfe, hdata⟩ := h
  exact ⟨fe, hep.trans hfe, hdata⟩

theorem Kept.sameSend (hk : Kept s fd payloads sent) (hs' : s'.connMgr.Ok)
    (h : SameSend s s' fd) : Kept s' fd payloads sent := by
  cases hc' : s'.conns fd with
  | none => exact .of_none hs' hc'
  | some c' =>
      obtain ⟨hep, c, hc, hbuf⟩ := h c' hc'
      refine .of_some hs' hc' ?_ (fun hne => ?_) ((hk.registered c hc).of_fileEvent hep)
      · rw [hbuf]
        exact hk.exact.stream c hc
      · exact (hk.exact.event c hc (hbuf ▸ hne)).of_fileEvent hep

theorem Kept.event (hk : Kept s fd payloads sent) (hnew : s.conns ret.acceptRet = none)
    (hfd : ret.acceptRet ≠ fd) (h : s.onEvent f isRead ret = .ok (some (s', out, bytes))) :
    Kept s' fd payloads (if f = fd then sent ++ bytes else sent) := by
  have hs' := (onEvent_spec hk.ok hnew h).1
  cases hc' : s'.conns fd with
  | none => exact .of_none hs' hc'
  | some c' =>
      rcases onEvent_send hk.ok hnew hfd h hc' with ⟨hsame, hbytes⟩ | ⟨rfl, c, hd⟩
      · have hsent : (if f = fd then sent ++ bytes else sent) = sent := by
          split
          · next e => rw [hbytes e, List.append_nil]
          · rfl
        rw [hsent]
        exact hk.sameSend hs' hsame
      · rw [if_pos rfl]
        refine .of_some hs' hc' ?_ (fun hne => ?_) (hd.registered (hk.registered c hd.before))
        · rw [List.append_assoc, hd.bytes]
          exact hk.exact.stream c hd.before
        · refine (hk.exact.event c hd.before ?_).of_fileEvent (hd.event.resolve_right hne)
          rintro hnil
          have := hd.bytes
          rw [hnil] at this
          exact hne (List.append_eq_nil_iff.mp this).2

theorem Kept.message (hk : Kept s msg.connData.connFd payloads sent)
    (hlost : NotLost s msg sendRet ctl) (h : s.zmqReadLoop msg sendRet ctl = .ok (s', bytes)) :
    Kept s' msg.connData.connFd (payloads ++ [msg.payload]) (sent ++ bytes) := by
  obtain ⟨hs', hstep⟩ := zmqReadLoop_spec hk.ok h
  cases hc' : s'.conns msg.connData.connFd with
  | none => exact .of_none hs' hc'
  | some c' =>
      have hopen : (s'.conns msg.connData.connFd).isSome := by
        rw [hc']
        rfl
      obtain ⟨c₀, hc₀⟩ := Option.isSome_iff_exists.mp (hstep.not_opened hopen)
      obtain ⟨c, hc, hkept⟩ := zmqReadLoop_kept hk.ok hlost (hk.registered c₀ hc₀) h hc'
      have hstream : sent ++ bytes ++ c'.sendBuf = Connection.wire (payloads ++ [msg.payload]) := by
        rw [List.append_assoc, hkept.bytes, ← List.append_assoc, hk.exact.stream c hc,
          Connection.wire_snoc]
      rcases hkept.event with ⟨hep, hempty⟩ | hw
      · have hfe : s'.epoller.fileEvent msg.connData.connFd =
            s.epoller.fileEvent msg.connData.connFd := by rw [hep]
        exact .of_some hs' hc' hstream
          (fun hne => (hk.exact.event c hc (fun hnil => hne (hempty hnil))).of_fileEvent hfe)
          ((hk.registered c hc).of_fileEvent hfe)
      · have hw' : s'.WriteRegistered msg.connData.connFd := hw
        exact .of_some hs' hc' hstream (fun _ => hw') hw'.registered

theorem SendRun.kept (h : SendRun fd (Registered · fd) NotLost s payloads sent) :
    Kept s fd payloads sent := by
  induction h with
  | accepted hs hc hreg => exact .of_some hs hc rfl (fun hne => absurd rfl hne) hreg
  | message msg sendRet ctl _ hfd hlost hloop ih =>
      subst hfd
      exact ih.message hlost hloop
  | other msg sendRet ctl _ hfd hloop ih =>
      obtain ⟨hs', hstep⟩ := zmqReadLoop_spec ih.ok hloop
      exact ih.sameSend hs' (.of_frame (hstep.frame (Ne.symm hfd))
        (zmqReadLoop_others hloop (Ne.symm hfd)))
  | event f isRead ret _ hnew hfd hevent ih => exact ih.event hnew hfd hevent

/-- **The stream of a connection is exact** in every run that starts with the connection
registered and whose messages are not lost. -/
theorem sendRun_exact (h : SendRun fd (Registered · fd) NotLost s payloads sent) :
    Exact s fd payloads sent :=
  h.kept.exact

/-! ## A connection to look at -/

/-- connsvr without a connection. -/
def idle : ConnSvr where
  connPoolSize := 16
  connMgr := ConnMgrModule.init 16 (fun _ => Connection.init)
  epoller := Epoller.init 16
  zmqBuf := fun _ => 0

/-- connsvr with a connection on fd 5. -/
def withFive : ConnSvr :=
  match idle.doTcpAccept true 5 true with
  | .ok s => s
  | .error _ => idle

theorem withFive_accepted : SendRun 5 (Registered · 5) ok withFive [] [] := by
  let ret : SysRet := ⟨5, .failed, .again, true, fun _ => true⟩
  have haccept : idle.doTcpAccept true ret.acceptRet ret.ctl = .ok withFive := rfl
  have hstep : withFive.connMgr.Ok ∧
      EventStep 3 ret idle.conns .doTcpAccept withFive.conns [] :=
    doTcpAccept_spec (ConnMgrModule.init_ok _ _) (ConnMgrModule.init_conns _ _ _) haccept
  exact .accepted hstep.1 rfl ⟨_, rfl, rfl⟩

/-- A message for its client. -/
def forFive : ConnMsg := ⟨⟨5, 1, .connProc⟩, [7, 8, 9]⟩

/-- Two bytes of its frame are accepted, and the others wait for a write event. -/
theorem sendRun_exact_partial : ∃ s c, withFive.zmqReadLoop forFive (.sent 2) true = .ok (s, [0, 5]) ∧
    s.conns 5 = some c ∧ c.sendBuf = [7, 8, 9] ∧ s.WriteRegistered 5 ∧
    Exact s 5 [[7, 8, 9]] [0, 5] := by
  obtain ⟨s, c, hloop, hc, hbuf⟩ : ∃ s c,
      withFive.zmqReadLoop forFive (.sent 2) true = .ok (s, [0, 5]) ∧ s.conns 5 = some c ∧
        c.sendBuf = [7, 8, 9] := ⟨_, _, rfl, rfl, rfl⟩
  have hlost : NotLost withFive forFive (.sent 2) true :=
    ⟨by decide, fun _ _ _ => ⟨by decide, fun _ _ _ => rfl⟩⟩
  have hexact := sendRun_exact (.message forFive (.sent 2) true withFive_accepted rfl hlost hloop)
  exact ⟨s, c, hloop, hc, hbuf, hexact.event c hc (by rw [hbuf]; decide), hexact⟩

/-- `send` answers `EAGAIN`: the frame is gone. -/
theorem sendRun_again : ∃ s,
    SendRun 5 (Registered · 5) (fun _ _ _ _ => True) s [[7, 8, 9]] [] ∧
    (s.conns 5).isSome ∧ ¬ Exact s 5 [[7, 8, 9]] [] := by
  obtain ⟨s, c, hloop, hc, hbuf⟩ : ∃ s c,
      withFive.zmqReadLoop forFive .again true = .ok (s, []) ∧ s.conns 5 = some c ∧
        c.sendBuf = [] := ⟨_, _, rfl, rfl, rfl⟩
  refine ⟨s, .message forFive .again true withFive_accepted rfl trivial hloop, ?_, fun hexact => ?_⟩
  · rw [hc]
    rfl
  · have hstream := hexact.stream c hc
    rw [hbuf] at hstream
    cases hstream

end

end ConnSvr

end PlayFrame
