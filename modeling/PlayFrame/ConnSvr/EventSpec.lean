/-
# `PlayFrame.ConnSvr.EventSpec` — what an event does to the connections

Seen from outside, connsvr is the connections it has, by fd, and the messages it sends
to gamesvr.  `EventStep` lists what one handler can do to them and `DeliverStep` what a
message of gamesvr can do; the theorems of this module say that the handlers do nothing
else, and that table and pool stay in agreement.
-/
import PlayFrame.ConnSvr.Event

namespace PlayFrame

namespace ConnSvr

/-- The connections, by fd. -/
abbrev ConnTable : Type := Int → Option Connection

/-- A connection just accepted. -/
def accepted (fd : Int) : Connection := { Connection.init with connFd := fd }

/-- The handler that the epoller calls for an event. -/
def handler (s : ConnSvr) (fd : Int) (isRead : Bool) : Option FileProc :=
  match readAt s.epoller.maxEventsSize s.epoller.fileEvents fd with
  | .ok fe => if isRead then fe.readProc else fe.writeProc
  | .error _ => none

/-- What a handler called for `fd` can do to the connections, and what it sends. -/
inductive EventStep (fd : Int) (ret : SysRet) (conns : ConnTable) :
    FileProc → ConnTable → List ConnMsg → Prop
  /-- nothing to do, or a connection that is refused -/
  | idle (proc : FileProc) : EventStep fd ret conns proc conns []
  /-- `accept` -/
  | accept : 0 ≤ ret.acceptRet →
      EventStep fd ret conns .doTcpAccept
        (Function.update conns ret.acceptRet (some (accepted ret.acceptRet))) []
  /-- `recv` failed -/
  | recvFailed (c : Connection) : conns fd = some c → ret.recvRet = .failed →
      EventStep fd ret conns .doTcpRead (Function.update conns fd none) []
  /-- the client closed the connection -/
  | closed (c : Connection) : conns fd = some c → ret.recvRet = .closed →
      EventStep fd ret conns .doTcpRead (Function.update conns fd none)
        (sendConnStop (ret.zmq 0) c.playerIdx)
  /-- the data does not fit in the buffer -/
  | overflow (c : Connection) (buf : Bytes) : conns fd = some c → ret.recvRet = .data buf →
      c.addRecvData buf = none →
      EventStep fd ret conns .doTcpRead (Function.update conns fd none) []
  /-- the data is forwarded -/
  | forwarded (c c₁ c₂ : Connection) (buf : Bytes) (sent : List ConnMsg) : conns fd = some c →
      ret.recvRet = .data buf → c.addRecvData buf = some c₁ →
      Connection.LoopEnd fd ret.zmq c₁ .done c₂ sent →
      EventStep fd ret conns .doTcpRead (Function.update conns fd (some c₂)) sent
  /-- `zmq_send` fails -/
  | cut (c c₁ c₂ : Connection) (buf : Bytes) (sent : List ConnMsg) : conns fd = some c →
      ret.recvRet = .data buf → c.addRecvData buf = some c₁ →
      Connection.LoopEnd fd ret.zmq c₁ .sendFailed c₂ sent →
      EventStep fd ret conns .doTcpRead (Function.update conns fd none) sent
  /-- some of the send buffer is written -/
  | written (c : Connection) (sendBuf : Bytes) : conns fd = some c →
      EventStep fd ret conns .doTcpWrite
        (Function.update conns fd (some { c with sendBuf := sendBuf })) []
  /-- `send` failed -/
  | sendFailed (c : Connection) : conns fd = some c → ret.sendRet = .failed ∨ ret.sendRet = .again →
      EventStep fd ret conns .doTcpWrite (Function.update conns fd none) []

/-- A frame that cannot be kept for the connection. -/
def CannotSend (c : Connection) (frame : Bytes) (sendRet : SendRet) : Prop :=
  if c.sendBuf.length = 0 then
    match sendRet with
    | .again => False
    | .failed => True
    | .sent len => len < frame.length ∧ c.addSendData (frame.drop len) = none
  else c.addSendData frame = none

/-- What a message of gamesvr can do to the connections. -/
inductive DeliverStep (msg : ConnMsg) (sendRet : SendRet) (conns : ConnTable) : ConnTable → Prop
  /-- no connection, or a message that is too long -/
  | dropped : DeliverStep msg sendRet conns conns
  /-- the frame cannot be sent and cannot be kept -/
  | failed (c : Connection) (payload : Bytes) : conns msg.connData.connFd = some c →
      CannotSend c (clientFrame payload) sendRet →
      DeliverStep msg sendRet conns (Function.update conns msg.connData.connFd none)
  /-- the message ends the connection -/
  | stopped (c : Connection) : conns msg.connData.connFd = some c →
      msg.connData.connCmd = .connStop →
      DeliverStep msg sendRet conns (Function.update conns msg.connData.connFd none)
  /-- the message is passed on -/
  | passed (c : Connection) (sendBuf : Bytes) : conns msg.connData.connFd = some c →
      msg.connData.connCmd ≠ .connStop →
      DeliverStep msg sendRet conns (Function.update conns msg.connData.connFd
        (some (notePlayer msg.connData { c with sendBuf := sendBuf })))

/-! ## What follows for the messages and the fds -/

section
variable {fd f : Int} {ret : SysRet} {conns conns' : ConnTable} {sent : List ConnMsg}
  {msg : ConnMsg} {sendRet : SendRet} {proc : FileProc}

theorem sendConnStop_not_start {zmq : Bool} {playerIdx : Int}
    (hmsg : msg ∈ sendConnStop zmq playerIdx) (hcmd : msg.connData.connCmd = .connStart) :
    False := by
  unfold sendConnStop at hmsg
  split at hmsg
  · exact List.not_mem_nil hmsg
  split at hmsg
  · rw [List.mem_singleton.mp hmsg] at hcmd
    cases hcmd
  · exact List.not_mem_nil hmsg

theorem EventStep.start_sent (h : EventStep fd ret conns proc conns' sent) (hmsg : msg ∈ sent)
    (hcmd : msg.connData.connCmd = .connStart) :
    msg.connData.connFd = fd ∧ (conns fd).isSome := by
  cases h with
  | idle _ => exact absurd hmsg List.not_mem_nil
  | accept _ => exact absurd hmsg List.not_mem_nil
  | recvFailed c _ _ => exact absurd hmsg List.not_mem_nil
  | closed c _ _ => exact (sendConnStop_not_start hmsg hcmd).elim
  | overflow c buf _ _ _ => exact absurd hmsg List.not_mem_nil
  | forwarded c c₁ c₂ buf _ hc _ _ hend => rw [hend.header msg hmsg, hc]; exact ⟨rfl, rfl⟩
  | cut c c₁ c₂ buf _ hc _ _ hend => rw [hend.header msg hmsg, hc]; exact ⟨rfl, rfl⟩
  | written c sendBuf _ => exact absurd hmsg List.not_mem_nil
  | sendFailed c _ _ => exact absurd hmsg List.not_mem_nil

theorem EventStep.released (h : EventStep fd ret conns proc conns' sent) {c : Connection}
    (hc : conns f = some c) (hf : conns' f = none) : f = fd := by
  by_contra hne
  have hkeep : ∀ r, Function.update conns fd r f = some c := by
    intro r
    rw [Function.update_of_ne hne]
    exact hc
  cases h with
  | idle _ =>
      rw [hc] at hf
      cases hf
  | accept _ =>
      by_cases he : f = ret.acceptRet
      · subst he
        rw [Function.update_self] at hf
        cases hf
      · rw [Function.update_of_ne he, hc] at hf
        cases hf
  | recvFailed _ _ _ => rw [hkeep] at hf; cases hf
  | closed _ _ _ => rw [hkeep] at hf; cases hf
  | overflow _ _ _ _ _ => rw [hkeep] at hf; cases hf
  | forwarded _ _ _ _ _ _ _ _ _ => rw [hkeep] at hf; cases hf
  | cut _ _ _ _ _ _ _ _ _ => rw [hkeep] at hf; cases hf
  | written _ _ _ => rw [hkeep] at hf; cases hf
  | sendFailed _ _ _ => rw [hkeep] at hf; cases hf

/-- A connection that is released right after it sent a `CONN_START` had data to forward,
and its first `zmq_send` succeeded. -/
theorem EventStep.start_cut (h : EventStep fd ret conns proc conns' sent) (hmsg : msg ∈ sent)
    (hcmd : msg.connData.connCmd = .connStart) (hf : conns' fd = none) :
    ∃ c c₁ buf, conns fd = some c ∧ c.playerIdx = 0 ∧ proc = .doTcpRead ∧
      ret.recvRet = .data buf ∧ c.addRecvData buf = some c₁ ∧ ret.zmq 0 = true := by
  have hsome := (h.start_sent hmsg hcmd).2
  cases h with
  | idle _ => exact absurd hmsg List.not_mem_nil
  | accept _ => exact absurd hmsg List.not_mem_nil
  | recvFailed _ _ _ => exact absurd hmsg List.not_mem_nil
  | closed c _ _ => exact (sendConnStop_not_start hmsg hcmd).elim
  | overflow _ _ _ _ _ => exact absurd hmsg List.not_mem_nil
  | forwarded _ _ _ _ _ _ _ _ _ =>
      rw [Function.update_self] at hf
      cases hf
  | cut c c₁ c₂ buf _ hc hrecv hadd hend =>
      refine ⟨c, c₁, buf, hc, ?_, rfl, hrecv, hadd, hend.accepted 0 (List.length_pos_of_mem hmsg)⟩
      have hidx : c₁.playerIdx = c.playerIdx := by rw [(Connection.addRecvData_some hadd).2]
      rw [hend.header msg hmsg, hidx] at hcmd
      by_contra hne
      rw [if_neg hne] at hcmd
      cases hcmd
  | written _ _ _ => exact absurd hmsg List.not_mem_nil
  | sendFailed _ _ _ => exact absurd hmsg List.not_mem_nil

theorem EventStep.closed_sent (h : EventStep fd ret conns .doTcpRead conns' sent)
    {c : Connection} (hc : conns fd = some c) (hf : conns' fd = none)
    (hrecv : ret.recvRet = .closed) : sent = sendConnStop (ret.zmq 0) c.playerIdx := by
  cases h with
  | idle _ =>
      rw [hc] at hf
      cases hf
  | recvFailed _ _ hrecv' => rw [hrecv] at hrecv'; cases hrecv'
  | closed c' hc' _ =>
      rw [hc] at hc'
      cases hc'
      rfl
  | overflow _ _ _ hrecv' _ => rw [hrecv] at hrecv'; cases hrecv'
  | forwarded _ _ _ _ _ _ hrecv' _ _ => rw [hrecv] at hrecv'; cases hrecv'
  | cut _ _ _ _ _ _ hrecv' _ _ => rw [hrecv] at hrecv'; cases hrecv'

theorem EventStep.frame (h : EventStep fd ret conns proc conns' sent) (hf : f ≠ fd)
    (ha : f ≠ ret.acceptRet) : conns' f = conns f := by
  cases h with
  | idle _ => rfl
  | accept _ => exact Function.update_of_ne ha _ _
  | recvFailed c _ _ => exact Function.update_of_ne hf _ _
  | closed c _ _ => exact Function.update_of_ne hf _ _
  | overflow c buf _ _ _ => exact Function.update_of_ne hf _ _
  | forwarded c c₁ c₂ buf _ _ _ _ _ => exact Function.update_of_ne hf _ _
  | cut c c₁ c₂ buf _ _ _ _ _ => exact Function.update_of_ne hf _ _
  | written c sendBuf _ => exact Function.update_of_ne hf _ _
  | sendFailed c _ _ => exact Function.update_of_ne hf _ _

theorem DeliverStep.frame (h : DeliverStep msg sendRet conns conns')
    (hf : f ≠ msg.connData.connFd) : conns' f = conns f := by
  cases h with
  | dropped => rfl
  | failed c payload _ _ => exact Function.update_of_ne hf _ _
  | stopped c _ _ => exact Function.update_of_ne hf _ _
  | passed c sendBuf _ _ => exact Function.update_of_ne hf _ _

theorem DeliverStep.not_opened (h : DeliverStep msg sendRet conns conns')
    (hf : (conns' f).isSome) : (conns f).isSome := by
  by_cases he : f = msg.connData.connFd
  · subst he
    cases h with
    | dropped => exact hf
    | failed c payload hc _ => rw [hc]; rfl
    | stopped c hc _ => rw [hc]; rfl
    | passed c sendBuf hc _ => rw [hc]; rfl
  · rwa [h.frame he] at hf

end

section
variable {s s' : ConnSvr} {fd : Int} {epoller : Bool} {ret : SysRet} {sent : List ConnMsg}
  {bytes : Bytes} {msg : ConnMsg} {sendRet : SendRet} {ctl : Bool}

/-! ## The parts of the handlers -/

theorem releaseAndClear_spec (h : s.releaseAndClear epoller fd = .ok s')
    (hs : s.connMgr.Ok) :
    s'.connMgr.Ok ∧ s'.conns = Function.update s.conns fd none := by
  obtain ⟨m', hm, hok, hconns, -⟩ := ConnMgrModule.releaseConn_spec hs fd
  unfold releaseAndClear at h
  rw [hm, ok_bind] at h
  cases epoller with
  | false => cases h
  | true =>
      obtain ⟨ep, -, h⟩ := bind_eq_ok.mp h
      cases h
      exact ⟨hok, hconns⟩

theorem modify_spec (hs : s.connMgr.Ok) {conn : Nat} (hconn : s.connMgr.getConn fd = some conn)
    {c' : Connection} (hfd : c'.connFd = fd) :
    (s.connMgr.modifyConn conn (fun _ => c')).Ok ∧
      (s.connMgr.modifyConn conn (fun _ => c')).conns = Function.update s.conns fd (some c') :=
  hs.modifyConn (f := fun _ => c') hconn hfd

/-! ## The handlers -/

theorem doTcpAccept_spec (hs : s.connMgr.Ok) (hfd : s.conns ret.acceptRet = none)
    (h : s.doTcpAccept epoller ret.acceptRet ret.ctl = .ok s') :
    s'.connMgr.Ok ∧ EventStep fd ret s.conns .doTcpAccept s'.conns [] := by
  unfold doTcpAccept at h
  split at h
  · cases h
    exact ⟨hs, .idle _⟩
  split at h
  · cases h
    exact ⟨hs, .idle _⟩
  next hneg =>
    have hv : 0 < s.connMgr.connPool.validUnitCount := by
      by_contra hv
      have hnone := ShmPool.alloc_none (Nat.eq_zero_of_not_pos hv)
      unfold ConnMgrModule.createConn at h
      rw [hnone] at h
      cases h
    obtain ⟨conn, m', hcreate, hget, hmem, -, hconn⟩ := ConnMgrModule.createConn_spec hs hfd hv
    rw [hcreate, ok_bind] at h
    cases epoller with
    | false => cases h
    | true =>
        obtain ⟨⟨r, ep⟩, -, h⟩ := bind_eq_ok.mp h
        cases h
        have heq : (m'.modifyConn conn fun _ => Connection.init).modifyConn conn
            (fun c => { c with connFd := ret.acceptRet }) =
              m'.modifyConn conn (fun _ => accepted ret.acceptRet) := by
          unfold ConnMgrModule.modifyConn ShmPool.modify
          simp only [Function.update_self, Function.update_idem]
          rfl
        obtain ⟨hok, hconns⟩ := hconn (fun _ => accepted ret.acceptRet) rfl
        rw [← heq] at hok hconns
        refine ⟨hok, ?_⟩
        show EventStep fd ret s.conns .doTcpAccept (ConnMgrModule.conns _) []
        rw [hconns]
        exact .accept (not_lt.mp hneg)

theorem doTcpRead_spec (hs : s.connMgr.Ok)
    (h : s.doTcpRead epoller fd ret.recvRet ret.zmq = .ok (some (s', sent))) :
    s'.connMgr.Ok ∧ EventStep fd ret s.conns .doTcpRead s'.conns sent := by
  unfold doTcpRead at h
  cases hget : s.connMgr.getConn fd with
  | none =>
      rw [hget] at h
      cases h
      exact ⟨hs, .idle _⟩
  | some conn =>
      have hc : s.conns fd = some (s.connMgr.connPool.mem conn) :=
        ConnMgrModule.conns_of_lookup hget
      rw [hget] at h
      cases hrecv : ret.recvRet with
      | failed =>
          rw [hrecv] at h
          obtain ⟨s₁, hrel, h⟩ := bind_eq_ok.mp h
          cases h
          obtain ⟨hok, hconns⟩ := releaseAndClear_spec hrel hs
          rw [hconns]
          exact ⟨hok, .recvFailed _ hc hrecv⟩
      | closed =>
          rw [hrecv] at h
          obtain ⟨s₁, hrel, h⟩ := bind_eq_ok.mp h
          cases h
          obtain ⟨hok, hconns⟩ := releaseAndClear_spec hrel hs
          rw [hconns]
          exact ⟨hok, .closed _ hc hrecv⟩
      | data buf =>
          rw [hrecv] at h
          cases hadd : (s.connMgr.connPool.mem conn).addRecvData buf with
          | none =>
              simp only [hadd] at h
              obtain ⟨s₁, hrel, h⟩ := bind_eq_ok.mp h
              cases h
              obtain ⟨hok, hconns⟩ := releaseAndClear_spec hrel hs
              rw [hconns]
              exact ⟨hok, .overflow _ buf hc hrecv hadd⟩
          | some c₁ =>
              have hfd := hs.connFd hc
              obtain ⟨hcap, hc₁⟩ := Connection.addRecvData_some hadd
              simp only [hadd] at h
              have hcap₁ : c₁.recvBuf.length ≤ pkgBufSize := by
                rw [hc₁, List.length_append]
                exact hcap
              have hfd₁ : c₁.connFd = fd := by
                rw [hc₁]
                exact hfd
              rcases Connection.readLoop_cases fd (c₁.recvBuf.length + 1) ret.zmq c₁
                  (Nat.lt_succ_self _) hcap₁ with ⟨he, -⟩ | ⟨readEnd, c₂, out, he, hend⟩
              · rw [he] at h
                cases h
              · rw [he, ok_bind] at h
                have hfd₂ : c₂.connFd = fd := by rw [hend.frame, hfd₁]
                obtain ⟨hok, hconns⟩ := modify_spec hs hget hfd₂
                rcases hend.readEnd with ⟨rfl, -⟩ | ⟨rfl, -⟩
                · cases h
                  refine ⟨hok, ?_⟩
                  show EventStep fd ret s.conns .doTcpRead (ConnMgrModule.conns _) sent
                  rw [hconns]
                  exact .forwarded _ c₁ c₂ buf _ hc hrecv hadd hend
                · obtain ⟨s₁, hrel, h⟩ := bind_eq_ok.mp h
                  cases h
                  obtain ⟨hok', hconns'⟩ := releaseAndClear_spec hrel hok
                  have hconns'' : s'.conns = Function.update s.conns fd none := by
                    rw [hconns']
                    show Function.update (ConnMgrModule.conns _) fd none = _
                    rw [hconns, Function.update_idem]
                  rw [hconns'']
                  exact ⟨hok', .cut _ c₁ c₂ buf _ hc hrecv hadd hend⟩

theorem doTcpWrite_spec (hs : s.connMgr.Ok)
    (h : s.doTcpWrite epoller fd ret.sendRet = .ok (s', bytes)) :
    s'.connMgr.Ok ∧ EventStep fd ret s.conns .doTcpWrite s'.conns [] := by
  unfold doTcpWrite at h
  cases hget : s.connMgr.getConn fd with
  | none =>
      rw [hget] at h
      cases h
      exact ⟨hs, .idle _⟩
  | some conn =>
      have hc : s.conns fd = some (s.connMgr.connPool.mem conn) :=
        ConnMgrModule.conns_of_lookup hget
      have hfd := hs.connFd hc
      have hreleased : (∃ s₁, s.releaseAndClear epoller fd = .ok s₁ ∧ s₁ = s') →
          ret.sendRet = .failed ∨ ret.sendRet = .again →
          s'.connMgr.Ok ∧ EventStep fd ret s.conns .doTcpWrite s'.conns [] := by
        rintro ⟨s₁, hrel, rfl⟩ hret
        obtain ⟨hok, hconns⟩ := releaseAndClear_spec hrel hs
        rw [hconns]
        exact ⟨hok, .sendFailed _ hc hret⟩
      have hwritten : ∀ sendBuf, s'.connMgr.Ok ∧ s'.conns = Function.update s.conns fd
            (some { s.connMgr.connPool.mem conn with sendBuf := sendBuf }) →
          s'.connMgr.Ok ∧ EventStep fd ret s.conns .doTcpWrite s'.conns [] := by
        rintro sendBuf ⟨hok, hconns⟩
        rw [hconns]
        exact ⟨hok, .written _ sendBuf hc⟩
      simp only [hget] at h
      cases hret : ret.sendRet with
      | again =>
          rw [hret] at h
          obtain ⟨s₁, hrel, h⟩ := bind_eq_ok.mp h
          cases h
          exact hreleased ⟨_, hrel, rfl⟩ (Or.inr hret)
      | failed =>
          rw [hret] at h
          obtain ⟨s₁, hrel, h⟩ := bind_eq_ok.mp h
          cases h
          exact hreleased ⟨_, hrel, rfl⟩ (Or.inl hret)
      | sent len =>
          simp only [hret] at h
          split at h
          · cases h
            exact hwritten _ (hs.modifyConn hget hfd)
          split at h
          · cases epoller with
            | false => cases h
            | true =>
                obtain ⟨ep, -, h⟩ := bind_eq_ok.mp h
                cases h
                exact hwritten _ (hs.modifyConn hget hfd)
          · cases h
            exact ⟨hs, .idle _⟩

theorem notePlayer_connFd (connData : ConnData) (c : Connection) :
    (notePlayer connData c).connFd = c.connFd := by
  unfold notePlayer
  cases connData.connCmd with
  | connProc =>
      simp only
      split
      · rfl
      · rfl
  | connStart => rfl
  | connStop => rfl

theorem init_spec {connPoolSize : Nat} {raw : Nat → Connection} {listenFd : Int}
    (h : init connPoolSize raw listenFd = .ok s) : s.connMgr.Ok ∧ ∀ fd, s.conns fd = none := by
  obtain ⟨⟨r, ep⟩, -, h⟩ := bind_eq_ok.mp h
  dsimp only at h
  split at h
  · cases h
  · cases h
    exact ⟨ConnMgrModule.init_ok connPoolSize raw, ConnMgrModule.init_conns connPoolSize raw⟩

/-! ## The two kinds of events -/

/-- **An event of the epoller** does one of the things that `EventStep` lists for the
handler that is called; `accept` returns an fd that is not open. -/
theorem onEvent_spec {isRead : Bool} (hs : s.connMgr.Ok) (hfd : s.conns ret.acceptRet = none)
    (h : s.onEvent fd isRead ret = .ok (some (s', sent, bytes))) :
    s'.connMgr.Ok ∧ ∃ proc, s.handler fd isRead = some proc ∧
      EventStep fd ret s.conns proc s'.conns sent := by
  obtain ⟨fe, hfe, h⟩ := bind_eq_ok.mp h
  split at h
  · cases h
  next proc hproc =>
    have hhandler : s.handler fd isRead = some proc := by
      unfold handler
      rw [hfe]
      exact hproc
    unfold callProc at h
    cases proc with
    | doTcpAccept =>
        obtain ⟨s₁, haccept, h⟩ := bind_eq_ok.mp h
        cases h
        obtain ⟨hok, hstep⟩ := doTcpAccept_spec hs hfd haccept
        exact ⟨hok, _, hhandler, hstep⟩
    | doTcpRead =>
        obtain ⟨r, hread, h⟩ := bind_eq_ok.mp h
        cases r with
        | none => cases h
        | some r =>
            cases h
            obtain ⟨hok, hstep⟩ := doTcpRead_spec hs hread
            exact ⟨hok, _, hhandler, hstep⟩
    | doTcpWrite =>
        obtain ⟨r, hwrite, h⟩ := bind_eq_ok.mp h
        cases h
        obtain ⟨hok, hstep⟩ := doTcpWrite_spec hs hwrite
        exact ⟨hok, _, hhandler, hstep⟩

theorem sendFrame_spec {ep ep' : Epoller FileProc Bool} {c : Connection} {frame out : Bytes}
    {r : Option Connection} (h : sendFrame ep fd c frame sendRet ctl = .ok (ep', out, r)) :
    (∃ sendBuf, r = some { c with sendBuf := sendBuf }) ∨
      r = none ∧ CannotSend c frame sendRet := by
  have hadd : ∀ {buf : Bytes} {r : Option Connection}, c.addSendData buf = r →
      (∃ sendBuf, r = some { c with sendBuf := sendBuf }) ∨ r = none := by
    rintro buf _ rfl
    unfold Connection.addSendData
    split
    · exact Or.inr rfl
    · exact Or.inl ⟨_, rfl⟩
  unfold sendFrame at h
  unfold CannotSend
  split at h
  · next hempty =>
    rw [if_pos hempty]
    cases sendRet with
    | again =>
        obtain ⟨_, -, h⟩ := bind_eq_ok.mp h
        cases h
        exact Or.inl ⟨_, rfl⟩
    | failed =>
        cases h
        exact Or.inr ⟨rfl, trivial⟩
    | sent len =>
        simp only at h
        split at h
        · next hlt =>
          obtain ⟨_, -, h⟩ := bind_eq_ok.mp h
          cases h
          exact (hadd rfl).imp_right (fun hr => ⟨hr, hlt, hr⟩)
        · cases h
          exact Or.inl ⟨_, rfl⟩
  · next hempty =>
    rw [if_neg hempty]
    cases h
    exact (hadd rfl).imp_right (fun hr => ⟨hr, hr⟩)

/-- **A message of gamesvr** does one of the things that `DeliverStep` lists. -/
theorem zmqReadLoop_spec (hs : s.connMgr.Ok)
    (h : s.zmqReadLoop msg sendRet ctl = .ok (s', bytes)) :
    s'.connMgr.Ok ∧ DeliverStep msg sendRet s.conns s'.conns := by
  unfold zmqReadLoop at h
  have hdropped : s'.connMgr = s.connMgr →
      s'.connMgr.Ok ∧ DeliverStep msg sendRet s.conns s'.conns := by
    intro e
    unfold conns
    rw [e]
    exact ⟨hs, .dropped⟩
  cases hget : s.connMgr.getConn msg.connData.connFd with
  | none =>
      simp only [hget] at h
      cases h
      exact hdropped rfl
  | some conn =>
      have hc : s.conns msg.connData.connFd = some (s.connMgr.connPool.mem conn) :=
        ConnMgrModule.conns_of_lookup hget
      have hfd := hs.connFd hc
      simp only [hget] at h
      split at h
      · cases h
        exact hdropped rfl
      obtain ⟨payload, -, h⟩ := bind_eq_ok.mp h
      cases payload with
      | none =>
          cases h
          exact hdropped rfl
      | some payload =>
          obtain ⟨⟨ep, out, r⟩, hframe, h⟩ := bind_eq_ok.mp h
          rcases sendFrame_spec hframe with ⟨sendBuf, rfl⟩ | ⟨rfl, hcannot⟩
          · have hfd' : (notePlayer msg.connData
                { s.connMgr.connPool.mem conn with sendBuf := sendBuf }).connFd =
                  msg.connData.connFd := (notePlayer_connFd _ _).trans hfd
            obtain ⟨hok, hconns⟩ := modify_spec hs hget hfd'
            dsimp only at h
            split at h
            · next hstop =>
              obtain ⟨s₁, hrel, h⟩ := bind_eq_ok.mp h
              cases h
              obtain ⟨hok', hconns'⟩ := releaseAndClear_spec hrel hok
              have hconns'' : s'.conns = Function.update s.conns msg.connData.connFd none := by
                rw [hconns']
                show Function.update (ConnMgrModule.conns _) _ none = _
                rw [hconns, Function.update_idem]
              rw [hconns'']
              exact ⟨hok', .stopped _ hc hstop⟩
            · next hstop =>
              cases h
              refine ⟨hok, ?_⟩
              show DeliverStep msg sendRet s.conns (ConnMgrModule.conns _)
              rw [hconns]
              exact .passed _ sendBuf hc hstop
          · obtain ⟨s₁, hrel, h⟩ := bind_eq_ok.mp h
            cases h
            obtain ⟨hok', hconns'⟩ := releaseAndClear_spec hrel hs
            rw [hconns']
            exact ⟨hok', .failed _ payload hc hcannot⟩

theorem zmqReadLoop_dropped (hfd : s.conns msg.connData.connFd = none)
    (h : s.zmqReadLoop msg sendRet ctl = .ok (s', bytes)) : bytes = [] ∧ s'.conns = s.conns := by
  unfold zmqReadLoop at h
  have hget : s.connMgr.getConn msg.connData.connFd = none := ConnMgrModule.conns_eq_none.mp hfd
  simp only [hget] at h
  cases h
  exact ⟨rfl, rfl⟩

end

end ConnSvr

end PlayFrame
