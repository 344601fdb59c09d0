/-
# `PlayFrame.DataSvr.Answers` — the response to a request

One round of the thread of a client, from the request on: whether the request is answered
once, by a response with the command, the sequence number and the player of the request,
and whether a response that says `OK` tells the truth about the statement.

The exact condition is `Answerable`.  A request is left without a response when the
connection is lost for good or the first query fails, even if the second one succeeds; and
the response to an `AccountVerifyReq` has the player's number for its sequence number.
-/
import PlayFrame.DataSvr.MsgModule
import PlayFrame.GameSvr.Wire

namespace PlayFrame

namespace DataSvr

/-- Between `sock` and `sock'` the request `msg` has been answered, and nothing else. -/
def AnsweredOnce (k : Request) (msg : ProtoSs.Msg) (calls : MysqlCalls)
    (sock sock' : GamesvrSock) : Prop :=
  ∃ res, sock'.toGamesvr = sock.toGamesvr ++ [res] ∧
    res.head.cmd = k.resCmd ∧
    res.head.seq = msg.head.seq ∧
    res.head.playerIdx = msg.head.playerIdx ∧
    (res.head.ret = ProtoSs.retOk → calls.Executed)

/-- The round `r` answers the request once. -/
def AnswersOnce (k : Request) (msg : ProtoSs.Msg) (calls : MysqlCalls) (sock : GamesvrSock)
    (r : Result (MysqlMgr × GamesvrSock)) : Prop :=
  ∃ mgr' sock', r = .ok (mgr', sock') ∧ AnsweredOnce k msg calls sock sock'

/-- When a request is answered: by how the calls of the library come out, by the head of
the request, and by whether the response can be sent. -/
structure Answerable (codec : Codec) (k : Request) (msg : ProtoSs.Msg) (calls : MysqlCalls)
    (sock : GamesvrSock) : Prop where
  connected : calls.Connected
  query : ∀ errno, calls.query = .error errno → errno = erDupEntry ∨ errno = erDupKeyname
  columns : k = .getPlayerData → calls.query ≠ .noResult 0
  head : k = .accountVerify → msg.head.seq = 0 ∧ msg.head.playerIdx = 0
  fits : ∀ res flags m, calls.answer = some (res, flags) →
    k.response res flags msg.head.seq msg.head.playerIdx = .ok m →
    (codec.serialize .ss m).length ≤ pkgBufSize
  zmq : sock.zmq 0 = true

section
variable {codec : Codec} {k : Request} {msg m : ProtoSs.Msg} {mysqlClient : Nat}
  {clients clients' : Clients} {ret : Int} {calls : MysqlCalls} {mgr : MysqlMgr}
  {sock : GamesvrSock} {res : Option MysqlRes} {flags : MysqlResFlags} {seq : UInt64}
  {playerIdx : Int}

/-! ## The parts of a round -/

theorem sendMsg_toGamesvr :
    (sock.sendMsg codec msg).2.toGamesvr =
      if (codec.serialize .ss msg).length ≤ pkgBufSize ∧ sock.zmq 0 = true then
        sock.toGamesvr ++ [msg]
      else sock.toGamesvr := by
  unfold GamesvrSock.sendMsg serializeToArray
  by_cases hfits : (codec.serialize .ss msg).length ≤ pkgBufSize
  · rw [if_pos hfits]
    cases hzmq : sock.zmq 0 with
    | false => simp
    | true => simp [hfits]
  · simp [hfits]

theorem retFailed_ne : ProtoSs.retFailed ≠ ProtoSs.retOk := by decide

theorem retDup_ne : ProtoSs.retDup ≠ ProtoSs.retOk := by decide

theorem flags_of_ret
    (h : (if flags = .ok then ProtoSs.retOk else ProtoSs.retFailed) = ProtoSs.retOk) :
    flags = .ok := by
  by_contra hflags
  rw [if_neg hflags] at h
  exact retFailed_ne h

theorem Request.response_head (h : k.response res flags seq playerIdx = .ok m) :
    m.head.cmd = k.resCmd ∧ (m.head.ret = ProtoSs.retOk → flags = .ok) ∧
    (k = .accountVerify ∧ m.head.seq = UInt64.ofInt playerIdx ∧ m.head.playerIdx = 0 ∨
      k ≠ .accountVerify ∧ m.head.seq = seq ∧ m.head.playerIdx = playerIdx) := by
  cases k with
  | accountReg =>
      cases h
      refine ⟨rfl, ?_, Or.inr ⟨by decide, rfl, rfl⟩⟩
      cases flags with
      | ok => exact fun _ => rfl
      | failed => exact fun h => absurd h retFailed_ne
      | dup => exact fun h => absurd h retDup_ne
  | accountVerify =>
      cases h
      exact ⟨rfl, flags_of_ret, Or.inl ⟨rfl, rfl, rfl⟩⟩
  | getPlayerData =>
      unfold Request.response getPlayerDataRes at h
      split_ifs at h with hflags
      · cases res with
        | none => cases h
        | some res =>
            cases hrow : res.row with
            | none =>
                simp only [hrow] at h
                cases h
                exact ⟨rfl, fun _ => hflags, Or.inr ⟨by decide, rfl, rfl⟩⟩
            | some cell =>
                simp only [hrow] at h
                split_ifs at h with hlengths
                · cases h
                  exact ⟨rfl, fun _ => hflags, Or.inr ⟨by decide, rfl, rfl⟩⟩
                · cases h
                  exact ⟨rfl, fun _ => hflags, Or.inr ⟨by decide, rfl, rfl⟩⟩
      · cases h
        exact ⟨rfl, fun h => absurd h retFailed_ne, Or.inr ⟨by decide, rfl, rfl⟩⟩
  | setPlayerData =>
      cases h
      exact ⟨rfl, flags_of_ret, Or.inr ⟨by decide, rfl, rfl⟩⟩

theorem Request.response_fault :
    (∀ m, k.response res flags seq playerIdx ≠ .ok m) ↔
      k = .getPlayerData ∧ flags = .ok ∧ res = none := by
  cases k with
  | accountReg => simp [Request.response]
  | accountVerify => simp [Request.response]
  | setPlayerData => simp [Request.response]
  | getPlayerData =>
      unfold Request.response getPlayerDataRes
      by_cases hflags : flags = .ok
      · cases res with
        | none => simp [hflags]
        | some res =>
            cases hrow : res.row with
            | none => simp [hflags, hrow]
            | some cell => cases hlengths : res.lengths <;> simp [hflags, hrow, hlengths]
      · simp [hflags]

theorem threadLoop_request (h : k.onReq codec msg mysqlClient clients = .ok (ret, clients'))
    (hconn : calls.Connected) :
    (clients' mysqlClient).threadLoop calls mgr sock = (do
      let sock ← match calls.answer with
        | none => .ok sock
        | some (res, flags) => k.mysqlRes codec res flags msg.head.seq msg.head.playerIdx sock
      .ok (mgr.pushFreeClient (clients mysqlClient).clientId, sock)) := by
  obtain ⟨text, -, rfl⟩ := Request.onReq_spec h
  unfold process
  rw [Function.update_self]
  exact MysqlClient.threadLoop_connected hconn rfl

theorem not_answersOnce_of_answer
    (h : k.onReq codec msg mysqlClient clients = .ok (ret, clients'))
    (hanswer : calls.Connected → calls.answer = none) :
    ¬ AnswersOnce k msg calls sock ((clients' mysqlClient).threadLoop calls mgr sock) := by
  rintro ⟨mgr', sock', hround, res, hsent, -⟩
  have hsock : sock' = sock := by
    by_cases hconn : calls.Connected
    · rw [threadLoop_request h hconn, hanswer hconn] at hround
      cases hround
      rfl
    · rw [MysqlClient.threadLoop_lost hconn] at hround
      cases hround
      rfl
  rw [hsock] at hsent
  exact absurd (congrArg List.length hsent) (by simp)

theorem answersOnce_of_answer
    (h : k.onReq codec msg mysqlClient clients = .ok (ret, clients')) (hconn : calls.Connected)
    (hanswer : calls.answer = some (res, flags)) :
    AnswersOnce k msg calls sock ((clients' mysqlClient).threadLoop calls mgr sock) ↔
      ∃ m, k.response res flags msg.head.seq msg.head.playerIdx = .ok m ∧
        AnsweredOnce k msg calls sock (sock.sendMsg codec m).2 := by
  rw [threadLoop_request h hconn, hanswer]
  unfold AnswersOnce Request.mysqlRes
  constructor
  · rintro ⟨mgr', sock', hround, hans⟩
    obtain ⟨sock₁, hcall, hround⟩ := bind_eq_ok.mp hround
    obtain ⟨m, hm, hcall⟩ := bind_eq_ok.mp hcall
    cases hcall
    cases hround
    exact ⟨m, hm, hans⟩
  · rintro ⟨m, hm, hans⟩
    refine ⟨mgr.pushFreeClient (clients mysqlClient).clientId, _, ?_, hans⟩
    simp only [hm, ok_bind]

theorem answeredOnce_response
    (hconn : calls.Connected) (hanswer : calls.answer = some (res, flags))
    (hm : k.response res flags msg.head.seq msg.head.playerIdx = .ok m) :
    AnsweredOnce k msg calls sock (sock.sendMsg codec m).2 ↔
      ((codec.serialize .ss m).length ≤ pkgBufSize ∧ sock.zmq 0 = true) ∧
        (k = .accountVerify → msg.head.seq = 0 ∧ msg.head.playerIdx = 0) := by
  obtain ⟨hcmd, hret, hhead⟩ := Request.response_head hm
  have hexec : m.head.ret = ProtoSs.retOk → calls.Executed := by
    intro hok
    obtain rfl := hret hok
    exact MysqlCalls.executed_of_answer hconn hanswer
  unfold AnsweredOnce
  rw [sendMsg_toGamesvr]
  split
  swap
  · next hsent =>
    refine iff_of_false ?_ (fun h => hsent h.1)
    rintro ⟨r, hr, -⟩
    exact absurd (congrArg List.length hr) (by simp)
  next hsent =>
  have heq : ∀ r, sock.toGamesvr ++ [m] = sock.toGamesvr ++ [r] ↔ r = m := by
    intro r
    rw [List.append_cancel_left_eq, List.cons.injEq, and_iff_left rfl, eq_comm]
  simp only [heq, exists_eq_left, hsent, true_and, hcmd, and_iff_left hexec]
  rcases hhead with ⟨rfl, hseq, hidx⟩ | ⟨hk, hseq, hidx⟩
  · rw [hseq, hidx]
    constructor
    · rintro ⟨h₁, h₂⟩ -
      rw [← h₂] at h₁
      exact ⟨h₁.symm, h₂.symm⟩
    · intro h
      obtain ⟨h₁, h₂⟩ := h rfl
      rw [h₁, h₂]
      exact ⟨rfl, rfl⟩
  · exact iff_of_true ⟨hseq, hidx⟩ (fun h => absurd h hk)

/-- **datasvr answers a request exactly once** under the condition `Answerable`, and only
then. -/
theorem answersOnce_iff (h : k.onReq codec msg mysqlClient clients = .ok (ret, clients')) :
    AnswersOnce k msg calls sock ((clients' mysqlClient).threadLoop calls mgr sock) ↔
      Answerable codec k msg calls sock := by
  by_cases hconn : calls.Connected
  swap
  · exact iff_of_false (not_answersOnce_of_answer h (fun hc => absurd hc hconn))
      (fun ha => hconn ha.connected)
  cases hanswer : calls.answer with
  | none =>
      refine iff_of_false (not_answersOnce_of_answer h (fun _ => hanswer)) (fun ha => ?_)
      obtain ⟨errno, hquery, hdup⟩ := MysqlCalls.answer_eq_none.mp hanswer
      exact hdup (ha.query errno hquery)
  | some p =>
      obtain ⟨res, flags⟩ := p
      rw [answersOnce_of_answer h hconn hanswer]
      have hquery : ∀ errno, calls.query = .error errno →
          errno = erDupEntry ∨ errno = erDupKeyname := by
        intro errno hq
        by_contra hdup
        rw [MysqlCalls.answer_eq_none.mpr ⟨errno, hq, hdup⟩] at hanswer
        cases hanswer
      constructor
      · rintro ⟨m, hm, hans⟩
        obtain ⟨⟨hfits, hzmq⟩, hhead⟩ := (answeredOnce_response hconn hanswer hm).mp hans
        refine ⟨hconn, hquery, ?_, hhead, ?_, hzmq⟩
        · rintro rfl hcolumns
          rw [MysqlCalls.answer_ok_none.mpr hcolumns] at hanswer
          cases hanswer
          exact Request.response_fault.mpr ⟨rfl, rfl, rfl⟩ m hm
        · intro res' flags' m' ha' hm'
          rw [hanswer] at ha'
          cases ha'
          rw [hm] at hm'
          cases hm'
          exact hfits
      · intro ha
        obtain ⟨m, hm⟩ : ∃ m, k.response res flags msg.head.seq msg.head.playerIdx = .ok m := by
          by_contra hnone
          obtain ⟨hk, rfl, rfl⟩ := Request.response_fault.mp (not_exists.mp hnone)
          exact ha.columns hk (MysqlCalls.answer_ok_none.mp hanswer)
        exact ⟨m, hm, (answeredOnce_response hconn hanswer hm).mpr
          ⟨⟨ha.fits res flags m hanswer hm, ha.zmq⟩, ha.head⟩⟩

end

/-- The clients after `MysqlMgr::Init`. -/
def newClients : Clients := MysqlClient.new

/-- gamesvr saves a player of whom nothing is known. -/
def saveMsg : ProtoSs.Msg where
  head := { cmd := ProtoSs.setPlayerDataReqFieldNumber, seq := 7, playerIdx := 1 }
  setPlayerDataReq := some { uid := 1 }

/-- The socket of a server that has sent nothing. -/
def newSock : GamesvrSock := ⟨[], fun _ => true⟩

/-- The server has closed the connection (`CR_SERVER_LOST`); the second query succeeds. -/
def serverLost : MysqlCalls := { MysqlCalls.fine (.error 2013) with retry := true }

/-- A save that is executed and answered. -/
theorem answersOnce_iff_saved :
    ∃ clients', Request.setPlayerData.onReq (Wire.resCodec []) saveMsg 0 newClients =
        .ok (0, clients') ∧
      (AnswersOnce .setPlayerData saveMsg (.fine (.noResult 0)) newSock
          ((clients' 0).threadLoop (.fine (.noResult 0)) ⟨[], [0]⟩ newSock) ↔
        Answerable (Wire.resCodec []) .setPlayerData saveMsg (.fine (.noResult 0)) newSock) :=
  ⟨_, rfl, answersOnce_iff rfl⟩

/-- A save that is executed and not answered. -/
theorem saved_unanswered :
    serverLost.Executed ∧
    ∃ clients', Request.setPlayerData.onReq (Wire.resCodec []) saveMsg 0 newClients =
        .ok (0, clients') ∧
      ¬ AnswersOnce .setPlayerData saveMsg serverLost newSock
          ((clients' 0).threadLoop serverLost ⟨[], [0]⟩ newSock) := by
  refine ⟨⟨rfl, by decide, rfl⟩, _, rfl, ?_⟩
  refine not_answersOnce_of_answer (h := rfl) (fun _ => ?_)
  rfl

end DataSvr

end PlayFrame
