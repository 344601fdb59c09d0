/-
# `PlayFrame.TcpClient.Requests` — the client sends its requests

`MsgMgr::DispatchReqMsg` and `SendData` of `tcpclient/msg_mgr.cpp`, with the handlers that
fill in a request.  A `Run` follows the client on one connection, from the `Init` that makes it
to the `Resume` that gives it up; it collects the requests, the bytes that `send` has accepted,
the bytes received, and the messages dispatched.

What has been sent and what waits in `send_buf_` are the frames of the requests, in order, if
nothing was left to send when the connection was made.
-/
import PlayFrame.TcpClient.MsgMgr
import PlayFrame.GameSvr.Proto
import PlayFrame.Lib.Scan

namespace PlayFrame

open Lib (ascii)
open Connection (clientFraming payloadOf wire WellFormed)
open ConnSvr (clientFrame)

/-- The client: `free_seq_` and `conn_cache_`. -/
structure TcpClient where
  freeSeq : UInt64
  connCache : ConnCache

/-- What has passed: the requests, and both directions of the connection. -/
structure Exchange where
  requests : List ProtoCs.Msg := []
  sent : Bytes := []
  received : Bytes := []
  dispatched : List ProtoCs.Msg := []

namespace TcpClient

/-- `MsgMgr::Init`, where the connection is made. -/
def init (raw : ConnCache.Arrays) (m : TcpClient) : TcpClient where
  freeSeq := 10000
  connCache := m.connCache.init raw

/-- The account and the password of `DoLogin` and `DoNormalReg`. -/
def credentials : ProtoCs.Credentials := ⟨ascii "zhangfengzhen", ascii "qwe123456"⟩

/-- `DoLogin`. -/
def doLogin (msg : ProtoCs.Msg) : ProtoCs.Msg := { msg with loginReq := some credentials }

/-- `DoNormalReg`. -/
def doNormalReg (msg : ProtoCs.Msg) : ProtoCs.Msg := { msg with normalRegReq := some credentials }

/-- `DoQuickReg`; the request has no fields. -/
def doQuickReg (msg : ProtoCs.Msg) : ProtoCs.Msg := msg

/-- The handlers that `Init` registers for requests. -/
def reqMsgWrapperMap (cmd : Int) : Option (ProtoCs.Msg → ProtoCs.Msg) :=
  if cmd = ProtoCs.loginReqFieldNumber then some doLogin
  else if cmd = ProtoCs.normalRegReqFieldNumber then some doNormalReg
  else if cmd = ProtoCs.quickRegReqFieldNumber then some doQuickReg
  else none

/-- `MsgMgr::SendData`. -/
def sendData (m : TcpClient) (buf : Bytes) : Result TcpClient := do
  let connCache ← m.connCache.addSendData buf
  .ok { m with connCache := connCache }

/-- `MsgMgr::DispatchReqMsg`: the request that was sent, or its answer -1 or -2. -/
def dispatchReqMsg (codec : Codec) (cmd : Int) (m : TcpClient) :
    Result (TcpClient × Except Int ProtoCs.Msg) :=
  let msg : ProtoCs.Msg := { head := { cmd := cmd, seq := m.freeSeq } }
  let m := { m with freeSeq := m.freeSeq + 1 }
  match reqMsgWrapperMap cmd with
  | none => .ok (m, .error (-2))
  | some handleReqMsg =>
      let msg := handleReqMsg msg
      match serializeToArray (codec.serialize .cs msg) (pkgBufSize - 2) with
      | none => .ok (m, .error (-1))
      | some payload => do
          let m ← m.sendData (clientFrame payload)
          .ok (m, .ok msg)

/-- The client on one connection, for which `Init` was called on `before`. -/
inductive Run (codec : Codec) (before : TcpClient) : TcpClient → Exchange → Prop
  | init (raw : ConnCache.Arrays) : Run codec before (before.init raw) {}
  /-- a request -/
  | request {m m' : TcpClient} {talk : Exchange} (cmd : Int) {ret : Except Int ProtoCs.Msg} :
      Run codec before m talk → m.dispatchReqMsg codec cmd = .ok (m', ret) →
      Run codec before m' { talk with requests := talk.requests ++ ret.toOption.toList }
  /-- `MsgMgr::Run` -/
  | run {m : TcpClient} {talk : Exchange} {out : MsgMgr.RunOut ProtoCs.Msg}
      (raw : ConnCache.Arrays) (sendRet : SendRet) (recvRet : MsgMgr.RecvRet) :
      Run codec before m talk →
      recvRet.Answers m.connCache.getRemainRecvBufLen →
      MsgMgr.run (codec.parseFromArray .cs) raw sendRet recvRet m.connCache = .ok (some out) →
      out.resumed = false →
      Run codec before { m with connCache := out.connCache }
        { talk with
          sent := talk.sent ++ MsgMgr.sentBy sendRet m.connCache
          received := talk.received ++ MsgMgr.receivedBy out recvRet
          dispatched := talk.dispatched ++ out.dispatched }

/-- The requests as they are sent. -/
def payloads (codec : Codec) (talk : Exchange) : List Bytes :=
  talk.requests.map (codec.serialize .cs)

/-- What has been sent and what is still to send are the frames of the requests, which fit in a
package and are numbered in order from 10000. -/
structure Sends (codec : Codec) (m : TcpClient) (talk : Exchange) : Prop where
  stream : talk.sent ++ m.connCache.sendBuf = wire (payloads codec talk)
  fits : ∀ payload ∈ payloads codec talk, payload.length + 2 ≤ pkgBufSize
  numbered : ∃ n : Nat, m.freeSeq = UInt64.ofNat (10000 + n) ∧
    (talk.requests.map (fun msg => msg.head.seq)).Sublist
      ((List.range n).map (fun k => UInt64.ofNat (10000 + k)))

section
variable {codec : Codec} {before m m' : TcpClient} {talk : Exchange} {cmd : Int} {msg : ProtoCs.Msg}
  {ret : Except Int ProtoCs.Msg}

theorem reqMsgWrapperMap_head (msg : ProtoCs.Msg) {handleReqMsg : ProtoCs.Msg → ProtoCs.Msg}
    (h : reqMsgWrapperMap cmd = some handleReqMsg) : (handleReqMsg msg).head = msg.head := by
  unfold reqMsgWrapperMap at h
  split at h
  · cases h
    rfl
  split at h
  · cases h
    rfl
  split at h
  · cases h
    rfl
  · cases h

/-- **A request** is answered with an error, or it is the next one in `send_buf_`. -/
theorem dispatchReqMsg_cases (h : m.dispatchReqMsg codec cmd = .ok (m', ret)) :
    m'.freeSeq = m.freeSeq + 1 ∧
    ((∃ code, ret = .error code ∧ m'.connCache = m.connCache) ∨
      ∃ msg, ret = .ok msg ∧ msg.head.cmd = cmd ∧ msg.head.seq = m.freeSeq ∧
        (codec.serialize .cs msg).length + 2 ≤ pkgBufSize ∧
        m.connCache.addSendData (clientFrame (codec.serialize .cs msg)) = .ok m'.connCache) := by
  unfold dispatchReqMsg at h
  dsimp only at h
  split at h
  · cases h
    exact ⟨rfl, Or.inl ⟨_, rfl, rfl⟩⟩
  next handleReqMsg hwrapper =>
    have hhead := reqMsgWrapperMap_head { head := { cmd := cmd, seq := m.freeSeq } } hwrapper
    split at h
    · cases h
      exact ⟨rfl, Or.inl ⟨_, rfl, rfl⟩⟩
    next payload hpayload =>
      obtain ⟨m₁, hsend, h⟩ := bind_eq_ok.mp h
      cases h
      obtain ⟨cache, hadd, hm⟩ := bind_eq_ok.mp hsend
      cases hm
      unfold serializeToArray at hpayload
      split at hpayload
      · next hfits =>
        cases hpayload
        have hsize : pkgBufSize = 10240 := rfl
        exact ⟨rfl, Or.inr ⟨_, rfl, by rw [hhead], by rw [hhead], by omega, hadd⟩⟩
      · cases hpayload

/-! ## The run -/

theorem Run.client (h : Run codec before m talk) :
    MsgMgr.Client (codec.parseFromArray .cs) before.connCache talk.received talk.dispatched
      m.connCache := by
  induction h with
  | init raw => exact .connect raw
  | request cmd _ hdispatch ih =>
      obtain ⟨-, ⟨code, -, hsame⟩ | ⟨msg, -, -, -, -, hadd⟩⟩ := dispatchReqMsg_cases hdispatch
      · exact hsame ▸ ih
      · exact .sendData _ ih hadd
  | run raw sendRet recvRet _ hans hrun hresumed ih =>
      exact .run raw sendRet recvRet ih hans hrun hresumed

theorem Sends.request (hs : Sends codec m talk)
    (h : m.dispatchReqMsg codec cmd = .ok (m', ret)) :
    Sends codec m' { talk with requests := talk.requests ++ ret.toOption.toList } := by
  obtain ⟨n, hn, hsub⟩ := hs.numbered
  obtain ⟨hseq, hcases⟩ := dispatchReqMsg_cases h
  have hnext : m'.freeSeq = UInt64.ofNat (10000 + (n + 1)) := by
    rw [hseq, hn, ← Nat.add_assoc]
    exact (UInt64.ofNat_add _ _).symm
  have hrange : (List.range (n + 1)).map (fun k => UInt64.ofNat (10000 + k)) =
      (List.range n).map (fun k => UInt64.ofNat (10000 + k)) ++ [m.freeSeq] := by
    rw [List.range_succ, List.map_append, hn]
    rfl
  rcases hcases with ⟨code, rfl, hsame⟩ | ⟨msg, rfl, -, hhead, hfits, hadd⟩
  · have hnone : talk.requests ++ (Except.error code : Except Int ProtoCs.Msg).toOption.toList =
        talk.requests := List.append_nil _
    rw [hnone]
    refine ⟨?_, hs.fits, n + 1, hnext, ?_⟩
    · rw [hsame]
      exact hs.stream
    · rw [hrange]
      exact hsub.trans (List.sublist_append_left _ _)
  · have hall : payloads codec { talk with requests := talk.requests ++ [msg] } =
        payloads codec talk ++ [codec.serialize .cs msg] := List.map_append
    have hbuf := (ConnCache.addSendData_ok hadd).1
    refine ⟨?_, ?_, n + 1, hnext, ?_⟩
    · show talk.sent ++ m'.connCache.sendBuf = wire (payloads codec
        { talk with requests := talk.requests ++ [msg] })
      rw [hall, Connection.wire_snoc, ← hs.stream, hbuf, List.append_assoc]
    · intro payload hmem
      rcases List.mem_append.mp (hall ▸ hmem) with hold | hnew
      · exact hs.fits payload hold
      · rw [List.mem_singleton.mp hnew]
        exact hfits
    · show ((talk.requests ++ [msg]).map _).Sublist _
      rw [hrange, List.map_append, List.map_singleton, hhead]
      exact hsub.append (List.Sublist.refl _)

/-- **The client sends the frames of its requests**, in every state of a run that begins with
nothing to send. -/
theorem Run.sends (h : Run codec before m talk) (hempty : before.connCache.sendBuf = []) :
    Sends codec m talk := by
  induction h with
  | init raw =>
      have hnil : (before.init raw).connCache.sendBuf = [] := by
        unfold TcpClient.init ConnCache.init
        rw [hempty]
        rfl
      refine ⟨?_, nofun, 0, rfl, List.Sublist.refl _⟩
      rw [hnil]
      rfl
  | request cmd _ hdispatch ih => exact ih.request hdispatch
  | run raw sendRet recvRet _ _ hrun hresumed ih =>
      refine ⟨?_, ih.fits, ih.numbered⟩
      show (_ ++ _) ++ _ = _
      rw [List.append_assoc, (MsgMgr.run_sendBuf hrun hresumed).1]
      exact ih.stream

end

end TcpClient

end PlayFrame
