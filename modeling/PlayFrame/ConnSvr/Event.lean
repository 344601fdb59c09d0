/-
# `PlayFrame.ConnSvr.Event` — connsvr between its clients and gamesvr

`connsvr/event_module/event_module.{h,cpp}`.  One event of connsvr is a handler called
by the epoller, or a message of gamesvr taken by `ZmqReadLoop`.

What the system calls answer is an argument of the handler: `accept`, `recv`, `send`,
`epoll_ctl` and `zmq_send`.  A handler returns the messages it has sent to gamesvr, in
order, and the bytes `send` has accepted for a client.
-/
import PlayFrame.ConnSvr.ConnMgr
import PlayFrame.Frame.Epoller
import PlayFrame.Frame.Zmq

namespace PlayFrame

/-- The handlers that are registered. -/
inductive FileProc where
  | doTcpAccept
  | doTcpRead
  | doTcpWrite
  deriving DecidableEq, Repr

/-- What `recv` answers. -/
inductive RecvRet where
  | failed
  | closed
  | data (buf : Bytes)
  deriving DecidableEq, Repr

/-- What `send` answers: a number of bytes, `EAGAIN`, or another error. -/
inductive SendRet where
  | sent (len : Nat)
  | again
  | failed
  deriving DecidableEq, Repr

/-- connsvr: `ConnMgrModule`, the epoller, and the buffer of `ZmqReadLoop`.  The client data
of an event is the epoller or null, and says which. -/
structure ConnSvr where
  connPoolSize : Nat
  connMgr : ConnMgrModule
  epoller : Epoller FileProc Bool
  zmqBuf : Nat → UInt8

namespace ConnSvr

/-- The connection of an fd. -/
abbrev conns (s : ConnSvr) (fd : Int) : Option Connection := s.connMgr.conns fd

/-- `ReleaseConn` and `ClearEvent`; `epoller` says that the pointer is not null. -/
def releaseAndClear (s : ConnSvr) (epoller : Bool) (connFd : Int) : Result ConnSvr := do
  let connMgr ← s.connMgr.releaseConn connFd
  if epoller then do
    let ep ← s.epoller.clearEvent connFd
    .ok { s with connMgr := connMgr, epoller := ep }
  else .error .badPointer

/-- `EventModule::SendConnStop`, where `zmq` says whether `zmq_send` succeeds. -/
def sendConnStop (zmq : Bool) (playerIdx : Int) : List ConnMsg :=
  if playerIdx = 0 then []
  else if zmq then [⟨⟨0, playerIdx, .connStop⟩, []⟩]
  else []

/-! ## The handlers -/

/-- `EventModule::DoTcpAccept`; `acceptRet` is the fd, or negative. -/
def doTcpAccept (s : ConnSvr) (epoller : Bool) (acceptRet : Int) (ctl : Bool) :
    Result ConnSvr :=
  if s.connMgr.getCurConnMapSize ≥ s.connPoolSize then .ok s
  else if acceptRet < 0 then .ok s
  else do
    let (conn, connMgr) ← s.connMgr.createConn acceptRet
    let connMgr := connMgr.modifyConn conn (fun _ => Connection.init)
    if epoller then do
      let (_, ep) ← s.epoller.addEvent acceptRet .eventRead .doTcpRead true ctl
      let connMgr := connMgr.modifyConn conn (fun c => { c with connFd := acceptRet })
      .ok { s with connMgr := connMgr, epoller := ep }
    else .error .badPointer

/-- `EventModule::DoTcpRead`; `zmq k` says whether the `k`-th `zmq_send` succeeds.  One
pass of its loop for each byte is enough. -/
def doTcpRead (s : ConnSvr) (epoller : Bool) (connFd : Int) (recvRet : RecvRet)
    (zmq : Nat → Bool) : Result (Option (ConnSvr × List ConnMsg)) :=
  match s.connMgr.getConn connFd with
  | none => .ok (some (s, []))
  | some conn =>
      match recvRet with
      | .failed => do
          let s ← s.releaseAndClear epoller connFd
          .ok (some (s, []))
      | .closed => do
          let sent := sendConnStop (zmq 0) (s.connMgr.connPool.mem conn).playerIdx
          let s ← s.releaseAndClear epoller connFd
          .ok (some (s, sent))
      | .data buf =>
          match (s.connMgr.connPool.mem conn).addRecvData buf with
          | none => do
              let s ← s.releaseAndClear epoller connFd
              .ok (some (s, []))
          | some c => do
              match ← Connection.readLoop connFd (c.recvBuf.length + 1) zmq c with
              | none => .ok none
              | some (readEnd, c, sent) =>
                  let s := { s with connMgr := s.connMgr.modifyConn conn (fun _ => c) }
                  match readEnd with
                  | .sendFailed => do
                      let s ← s.releaseAndClear epoller connFd
                      .ok (some (s, sent))
                  | _ => .ok (some (s, sent))

/-- A frame for a client: its length in network order, and the payload. -/
def clientFrame (payload : Bytes) : Bytes :=
  let len := payload.length + 2
  UInt8.ofNat (len / 256) :: UInt8.ofNat len :: payload

/-- How `ZmqReadLoop` writes a frame to the connection: the epoller, the bytes `send`
accepted, and the connection, or `none` when it has to be released. -/
def sendFrame (ep : Epoller FileProc Bool) (connFd : Int) (c : Connection) (frame : Bytes)
    (sendRet : SendRet) (ctl : Bool) : Result (Epoller FileProc Bool × Bytes × Option Connection) :=
  if c.sendBuf.length = 0 then
    match sendRet with
    -- the frame is lost, and the write event has no client data
    | .again => do
        let (_, ep) ← ep.addEvent connFd .eventWrite .doTcpWrite false ctl
        .ok (ep, [], some c)
    | .failed => .ok (ep, [], none)
    | .sent len =>
        if len < frame.length then do
          let (_, ep) ← ep.addEvent connFd .eventWrite .doTcpWrite true ctl
          .ok (ep, frame.take len, c.addSendData (frame.drop len))
        else .ok (ep, frame, some c)
  else .ok (ep, [], c.addSendData frame)

/-- What `ZmqReadLoop` keeps of a message in the connection: the player, from the first
`CONN_PROC` and from every `CONN_START`. -/
def notePlayer (connData : ConnData) (c : Connection) : Connection :=
  match connData.connCmd with
  | .connProc => if c.playerIdx = 0 then { c with playerIdx := connData.playerIdx } else c
  | .connStart => { c with playerIdx := connData.playerIdx }
  | .connStop => c

/-- `EventModule::ZmqReadLoop` with the message `msg`. -/
def zmqReadLoop (s : ConnSvr) (msg : ConnMsg) (sendRet : SendRet) (ctl : Bool) :
    Result (ConnSvr × Bytes) := do
  let (zmqBuf, payload) := Link.gamesvrToConnsvr.receive s.zmqBuf
    (Link.gamesvrToConnsvr.wire msg.connData msg.payload)
  let s := { s with zmqBuf := zmqBuf }
  let connFd := msg.connData.connFd
  match s.connMgr.getConn connFd with
  | none => .ok (s, [])
  | some conn =>
      if msg.payload.length > pkgBufSize then .ok (s, [])
      else do
        match ← payload with
        | none => .ok (s, [])
        | some payload => do
            let (ep, accepted, c) ← sendFrame s.epoller connFd (s.connMgr.connPool.mem conn)
              (clientFrame payload) sendRet ctl
            let s := { s with epoller := ep }
            match c with
            | none => do
                let s ← s.releaseAndClear true connFd
                .ok (s, accepted)
            | some c => do
                let connMgr := s.connMgr.modifyConn conn (fun _ => notePlayer msg.connData c)
                let s := { s with connMgr := connMgr }
                if msg.connData.connCmd = .connStop then do
                  let s ← s.releaseAndClear true connFd
                  .ok (s, accepted)
                else .ok (s, accepted)

/-- `EventModule::DoTcpWrite`. -/
def doTcpWrite (s : ConnSvr) (epoller : Bool) (connFd : Int) (sendRet : SendRet) :
    Result (ConnSvr × Bytes) :=
  match s.connMgr.getConn connFd with
  | none => .ok (s, [])
  | some conn =>
      let sendBuf := (s.connMgr.connPool.mem conn).sendBuf
      match sendRet with
      | .again | .failed => do
          let s ← s.releaseAndClear epoller connFd
          .ok (s, [])
      | .sent len =>
          if 0 < len ∧ len < sendBuf.length then
            let connMgr := s.connMgr.modifyConn conn (fun c => c.removeSendData len)
            .ok ({ s with connMgr := connMgr }, sendBuf.take len)
          else if len = sendBuf.length then
            let s := { s with connMgr := s.connMgr.modifyConn conn (fun c => c.clearSendData) }
            if epoller then do
              let ep ← s.epoller.delEvent connFd .eventWrite
              .ok ({ s with epoller := ep }, sendBuf)
            else .error .badPointer
          else .ok (s, [])

/-! ## The epoller calls a handler -/

/-- What the system calls of one handler answer. -/
structure SysRet where
  acceptRet : Int
  recvRet : RecvRet
  sendRet : SendRet
  ctl : Bool
  zmq : Nat → Bool

/-- `(*proc)(fd, client_data)`: the messages for gamesvr and the bytes for the client. -/
def callProc (s : ConnSvr) (proc : FileProc) (fd : Int) (clientData : Bool) (ret : SysRet) :
    Result (Option (ConnSvr × List ConnMsg × Bytes)) :=
  match proc with
  | .doTcpAccept => do
      let s ← s.doTcpAccept clientData ret.acceptRet ret.ctl
      .ok (some (s, [], []))
  | .doTcpRead => do
      match ← s.doTcpRead clientData fd ret.recvRet ret.zmq with
      | none => .ok none
      | some (s, sent) => .ok (some (s, sent, []))
  | .doTcpWrite => do
      let (s, accepted) ← s.doTcpWrite clientData fd ret.sendRet
      .ok (some (s, [], accepted))

/-- One event of `Epoller::Loop` for `fd`: `EPOLLIN` calls `read_proc_`, the others call
`write_proc_`, also when the fd is not registered any more. -/
def onEvent (s : ConnSvr) (fd : Int) (isRead : Bool) (ret : SysRet) :
    Result (Option (ConnSvr × List ConnMsg × Bytes)) := do
  let fe ← readAt s.epoller.maxEventsSize s.epoller.fileEvents fd
  match if isRead then fe.readProc else fe.writeProc with
  | none => .error .badPointer
  | some proc => s.callProc proc fd fe.clientData ret

/-- The state after `ModuleInit`: the listening socket is registered. -/
def init (connPoolSize : Nat) (raw : Nat → Connection) (listenFd : Int) : Result ConnSvr := do
  let ep : Epoller FileProc Bool := Epoller.init connPoolSize
  let (ret, ep) ← ep.addEvent listenFd .eventRead .doTcpAccept true true
  let s : ConnSvr :=
    { connPoolSize := connPoolSize
      connMgr := ConnMgrModule.init connPoolSize raw
      epoller := ep
      zmqBuf := fun _ => 0 }
  if ret ≠ 0 then .error .checkFailed else .ok s

end ConnSvr

end PlayFrame
