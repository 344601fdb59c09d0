/-
# `PlayFrame.ConnSvr.Change` — what the events of connsvr are made of

A handler does a few things, each of them one line of the source: it writes to a
connection, releases it and clears its events, or adds or deletes a write event (`Change`).
`DoTcpAccept` does something else once, when it has room and `accept` returns an fd
(`Accepted`).  What every one of these keeps holds in every state of a run, whichever
handlers are called for whichever fds.
-/
import PlayFrame.ConnSvr.SendStream
import Mathlib.Logic.Relation

namespace PlayFrame

namespace ConnSvr

/-- One thing that a handler does. -/
inductive Change (s : ConnSvr) : ConnSvr → Prop
  | zmqBuf (buf : Nat → UInt8) : Change s { s with zmqBuf := buf }
  | write {fd : Int} {conn : Nat} (f : Connection → Connection) :
      s.connMgr.getConn fd = some conn →
      (f (s.connMgr.connPool.mem conn)).connFd = (s.connMgr.connPool.mem conn).connFd →
      Change s { s with connMgr := s.connMgr.modifyConn conn f }
  | release {fd : Int} {epoller : Bool} {s' : ConnSvr} :
      s.releaseAndClear epoller fd = .ok s' → Change s s'
  | addWrite {fd r : Int} {clientData ctl : Bool} {ep : Epoller FileProc Bool} :
      s.epoller.addEvent fd .eventWrite .doTcpWrite clientData ctl = .ok (r, ep) →
      Change s { s with epoller := ep }
  | delWrite {fd : Int} {ep : Epoller FileProc Bool} :
      s.epoller.delEvent fd .eventWrite = .ok ep → Change s { s with epoller := ep }

/-- Some of them, one after the other. -/
abbrev Changes : ConnSvr → ConnSvr → Prop := Relation.ReflTransGen Change

/-- What `DoTcpAccept` does for an fd: there was room, and `ctl` is the answer of
`epoll_ctl`. -/
structure Accepted (s : ConnSvr) (fd : Int) (ctl : Bool) (s' : ConnSvr) : Prop where
  room : s.connMgr.getCurConnMapSize < s.connPoolSize
  fd_nonneg : 0 ≤ fd
  made : ∃ conn m r ep, s.connMgr.createConn fd = .ok (conn, m) ∧
    s.epoller.addEvent fd .eventRead .doTcpRead true ctl = .ok (r, ep) ∧
    s' = { s with connMgr := m.modifyConn conn (fun _ => accepted fd), epoller := ep }

/-! ## Runs -/

/-- An event: a handler is called, or a message of gamesvr is taken. -/
inductive Event where
  | handler (proc : FileProc) (fd : Int) (clientData : Bool) (ret : SysRet)
  | message (msg : ConnMsg) (sendRet : SendRet) (ctl : Bool)

/-- The steps. -/
inductive Step (s : ConnSvr) : Event → ConnSvr → Prop
  | handler {proc : FileProc} {fd : Int} {clientData : Bool} {ret : SysRet} {s' : ConnSvr}
      {sent : List ConnMsg} {bytes : Bytes} :
      s.callProc proc fd clientData ret = .ok (some (s', sent, bytes)) →
      Step s (.handler proc fd clientData ret) s'
  | message {msg : ConnMsg} {sendRet : SendRet} {ctl : Bool} {s' : ConnSvr} {bytes : Bytes} :
      s.zmqReadLoop msg sendRet ctl = .ok (s', bytes) → Step s (.message msg sendRet ctl) s'

/-- No connection is accepted: for want of room, or because `accept` failed. -/
def NotAccepted (s : ConnSvr) : Event → Prop
  | .handler .doTcpAccept _ _ ret =>
      s.connMgr.getCurConnMapSize < s.connPoolSize → ret.acceptRet < 0
  | _ => True

/-- `accept` returns an fd that is not open: not one of those that the process holds for
other purposes, and not one of a connection. -/
def AcceptsClosed (held : Int → Prop) (s : ConnSvr) : Event → Prop
  | .handler .doTcpAccept _ _ ret =>
      0 ≤ ret.acceptRet → ¬ held ret.acceptRet ∧ s.conns ret.acceptRet = none
  | _ => True

/-- The states of connsvr from `ModuleInit` on, when every step meets a condition. -/
inductive Run (connPoolSize : Nat) (raw : Nat → Connection) (listenFd : Int)
    (meets : ConnSvr → Event → Prop) : ConnSvr → Prop
  | init {s : ConnSvr} : init connPoolSize raw listenFd = .ok s →
      Run connPoolSize raw listenFd meets s
  | step {s s' : ConnSvr} {e : Event} : Run connPoolSize raw listenFd meets s →
      meets s e → Step s e s' → Run connPoolSize raw listenFd meets s'

/-! ## The handlers -/

section
variable {s s' : ConnSvr} {fd : Int} {epoller ctl : Bool} {sent : List ConnMsg} {bytes : Bytes}
  {msg : ConnMsg} {sendRet : SendRet} {e : Event}

theorem Changes.release (h : s.releaseAndClear epoller fd = .ok s') : Changes s s' :=
  .single (.release h)

theorem doTcpAccept_made {acceptRet : Int} (h : s.doTcpAccept epoller acceptRet ctl = .ok s') :
    (s' = s ∧ (s.connMgr.getCurConnMapSize < s.connPoolSize → acceptRet < 0)) ∨
      Accepted s acceptRet ctl s' := by
  unfold doTcpAccept at h
  split at h
  · next hfull =>
    cases h
    exact Or.inl ⟨rfl, fun hroom => absurd hroom (not_lt.mpr hfull)⟩
  next hroom =>
  split at h
  · next hneg =>
    cases h
    exact Or.inl ⟨rfl, fun _ => hneg⟩
  next hneg =>
  obtain ⟨⟨conn, m⟩, hcreate, h⟩ := bind_eq_ok.mp h
  cases epoller with
  | false => cases h
  | true =>
      obtain ⟨⟨r, ep⟩, hadd, h⟩ := bind_eq_ok.mp h
      cases h
      refine Or.inr ⟨not_le.mp hroom, not_lt.mp hneg, conn, m, r, ep, hcreate, hadd, ?_⟩
      have hidem : (m.modifyConn conn fun _ => Connection.init).modifyConn conn
          (fun c => { c with connFd := acceptRet }) =
            m.modifyConn conn (fun _ => accepted acceptRet) := by
        unfold ConnMgrModule.modifyConn ShmPool.modify
        simp only [Function.update_self, Function.update_idem]
        rfl
      rw [hidem]

theorem doTcpRead_changes {recvRet : RecvRet} {zmq : Nat → Bool}
    (h : s.doTcpRead epoller fd recvRet zmq = .ok (some (s', sent))) : Changes s s' := by
  unfold doTcpRead at h
  cases hget : s.connMgr.getConn fd with
  | none =>
      simp only [hget] at h
      cases h
      exact .refl
  | some conn =>
      simp only [hget] at h
      cases recvRet with
      | failed =>
          obtain ⟨s₁, hrel, h⟩ := bind_eq_ok.mp h
          cases h
          exact .release hrel
      | closed =>
          obtain ⟨s₁, hrel, h⟩ := bind_eq_ok.mp h
          cases h
          exact .release hrel
      | data buf =>
          cases hadd : (s.connMgr.connPool.mem conn).addRecvData buf with
          | none =>
              simp only [hadd] at h
              obtain ⟨s₁, hrel, h⟩ := bind_eq_ok.mp h
              cases h
              exact .release hrel
          | some c =>
              simp only [hadd] at h
              obtain ⟨r, hloop, h⟩ := bind_eq_ok.mp h
              cases r with
              | none => cases h
              | some r =>
                  obtain ⟨readEnd, c', sent'⟩ := r
                  have hwrite : Changes s
                      { s with connMgr := s.connMgr.modifyConn conn (fun _ => c') } :=
                    .single (.write _ hget (readLoop_connFd hadd hloop))
                  cases readEnd with
                  | done =>
                      cases h
                      exact hwrite
                  | tooLong =>
                      cases h
                      exact hwrite
                  | sendFailed =>
                      obtain ⟨s₁, hrel, h⟩ := bind_eq_ok.mp h
                      cases h
                      exact hwrite.tail (.release hrel)

theorem doTcpWrite_changes (h : s.doTcpWrite epoller fd sendRet = .ok (s', bytes)) :
    Changes s s' := by
  unfold doTcpWrite at h
  cases hget : s.connMgr.getConn fd with
  | none =>
      simp only [hget] at h
      cases h
      exact .refl
  | some conn =>
      simp only [hget] at h
      cases sendRet with
      | again =>
          obtain ⟨s₁, hrel, h⟩ := bind_eq_ok.mp h
          cases h
          exact .release hrel
      | failed =>
          obtain ⟨s₁, hrel, h⟩ := bind_eq_ok.mp h
          cases h
          exact .release hrel
      | sent len =>
          dsimp only at h
          split at h
          · cases h
            exact .single (.write (fun c => c.removeSendData len) hget rfl)
          split at h
          · have hwrite : Changes s
                { s with connMgr := s.connMgr.modifyConn conn (fun c => c.clearSendData) } :=
              .single (.write _ hget rfl)
            cases epoller with
            | false => cases h
            | true =>
                obtain ⟨ep, hdel, h⟩ := bind_eq_ok.mp h
                cases h
                exact hwrite.tail (.delWrite hdel)
          · cases h
            exact .refl

theorem sendFrame_changes {c : Connection} {frame : Bytes} {ep : Epoller FileProc Bool}
    {r : Option Connection} (h : sendFrame s.epoller fd c frame sendRet ctl = .ok (ep, bytes, r)) :
    Changes s { s with epoller := ep } ∧ ∀ c' ∈ r, c'.connFd = c.connFd := by
  constructor
  · unfold sendFrame at h
    split at h
    · cases sendRet with
      | again =>
          obtain ⟨⟨r', ep'⟩, hadd, h⟩ := bind_eq_ok.mp h
          cases h
          exact .single (.addWrite hadd)
      | failed =>
          cases h
          exact .refl
      | sent len =>
          dsimp only at h
          split at h
          · obtain ⟨⟨r', ep'⟩, hadd, h⟩ := bind_eq_ok.mp h
            cases h
            exact .single (.addWrite hadd)
          · cases h
            exact .refl
    · cases h
      exact .refl
  · rintro c' rfl
    rcases sendFrame_spec h with ⟨sendBuf, hsome⟩ | ⟨hnone, -⟩
    · cases hsome
      rfl
    · cases hnone

theorem zmqReadLoop_changes (h : s.zmqReadLoop msg sendRet ctl = .ok (s', bytes)) :
    Changes s s' := by
  unfold zmqReadLoop at h
  generalize Link.gamesvrToConnsvr.receive s.zmqBuf
    (Link.gamesvrToConnsvr.wire msg.connData msg.payload) = received at h
  obtain ⟨zmqBuf, payload⟩ := received
  have hbuf : Changes s { s with zmqBuf := zmqBuf } := .single (.zmqBuf zmqBuf)
  cases hget : s.connMgr.getConn msg.connData.connFd with
  | none =>
      simp only [hget] at h
      cases h
      exact hbuf
  | some conn =>
      simp only [hget] at h
      split at h
      · cases h
        exact hbuf
      obtain ⟨payload, -, h⟩ := bind_eq_ok.mp h
      cases payload with
      | none =>
          cases h
          exact hbuf
      | some payload =>
          obtain ⟨⟨ep, out, r⟩, hframe, h⟩ := bind_eq_ok.mp h
          obtain ⟨hevent, hkeep⟩ := sendFrame_changes (s := { s with zmqBuf := zmqBuf }) hframe
          have hadd := hbuf.trans hevent
          cases r with
          | none =>
              obtain ⟨s₁, hrel, h⟩ := bind_eq_ok.mp h
              cases h
              exact hadd.tail (.release hrel)
          | some c =>
              have hfd : (notePlayer msg.connData c).connFd =
                  (s.connMgr.connPool.mem conn).connFd :=
                (notePlayer_connFd _ _).trans (hkeep c rfl)
              have hwrite := hadd.tail (.write (fun _ => notePlayer msg.connData c) hget hfd)
              dsimp only at h
              split at h
              · obtain ⟨s₁, hrel, h⟩ := bind_eq_ok.mp h
                cases h
                exact hwrite.tail (.release hrel)
              · cases h
                exact hwrite

theorem Step.made (h : Step s e s') :
    (Changes s s' ∧ NotAccepted s e) ∨
      ∃ fd clientData ret, e = .handler .doTcpAccept fd clientData ret ∧
        Accepted s ret.acceptRet ret.ctl s' := by
  cases h with
  | message hloop => exact Or.inl ⟨zmqReadLoop_changes hloop, trivial⟩
  | @handler proc fd clientData ret s' sent bytes hcall =>
      unfold callProc at hcall
      cases proc with
      | doTcpAccept =>
          obtain ⟨s₁, haccept, hcall⟩ := bind_eq_ok.mp hcall
          cases hcall
          rcases doTcpAccept_made haccept with ⟨rfl, hnot⟩ | haccepted
          · exact Or.inl ⟨.refl, hnot⟩
          · exact Or.inr ⟨fd, clientData, ret, rfl, haccepted⟩
      | doTcpRead =>
          obtain ⟨r, hread, hcall⟩ := bind_eq_ok.mp hcall
          cases r with
          | none => cases hcall
          | some r =>
              cases hcall
              exact Or.inl ⟨doTcpRead_changes hread, trivial⟩
      | doTcpWrite =>
          obtain ⟨r, hwrite, hcall⟩ := bind_eq_ok.mp hcall
          cases hcall
          exact Or.inl ⟨doTcpWrite_changes hwrite, trivial⟩

end

end ConnSvr

end PlayFrame
