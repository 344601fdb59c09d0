/-
# `PlayFrame.TcpClient.MsgMgr` — the client receives what connsvr sends

`MsgMgr::Run` of `tcpclient/msg_mgr.cpp`: one `send`, one `recv`, and the loop that
dispatches the packages that are complete.  `msg.ParseFromArray` is the parameter
`parse`.  The handlers of this client (`OnLogin`, `OnNormalReg`, `OnQuickReg`) only
print, so `DispatchResMsg` leaves the buffers alone; what they are given is the result.

When `send` or `recv` fails, or the other end has closed, `Resume` calls `Init` for another
connection.  `Client` describes the client on one of them by the bytes it has received there.  If
nothing was left in the buffer, it holds the front of one package, which is ten times smaller than
the buffer, so there is always room for `recv`.  If something was, as many bytes of a new array
stand before the stream, and nothing of it is dispatched as it was sent
(`client_roundTrip_iff`).
-/
import PlayFrame.TcpClient.ConnCache
import PlayFrame.ConnSvr.Delivery
import PlayFrame.ConnSvr.Reassembly

namespace PlayFrame

open Lib Connection ConnSvr

namespace MsgMgr

/-- What `recv` answers the client. -/
inductive RecvRet where
  /-- `EINTR`, `EAGAIN` or `EWOULDBLOCK` -/
  | again
  | failed
  | closed
  | data (buf : Bytes)
  deriving DecidableEq, Repr

variable {μ : Type}

/-- The loop of `MsgMgr::Run`, with the messages given to `DispatchResMsg`; a package
that cannot be parsed stays where it is and ends it. -/
def dispatchLoop (parse : Bytes → Option μ) :
    Nat → ConnCache → Result (Option (ConnCache × List μ))
  | 0, _ => .ok none
  | fuel + 1, c =>
      if c.IsRecvProtoReady then do
        let msgLen : Int := c.getRecvProtoLen - 2
        let msgBuf ← copyOut c.recvBuf 2 msgLen
        match parse msgBuf with
        | none => .ok (some (c, []))
        | some msg => do
            let c ← c.skipRecvProto
            match ← dispatchLoop parse fuel c with
            | none => .ok none
            | some (c, msgs) => .ok (some (c, msg :: msgs))
      else .ok (some (c, []))

/-- What one `Run` comes to. -/
structure RunOut (μ : Type) where
  connCache : ConnCache
  dispatched : List μ
  /-- the third argument of `recv`, if it was called -/
  recvLen : Option Int
  /-- `Resume` was called: the connection is given up, and `connCache` is that of another one -/
  resumed : Bool

/-- The first half of `MsgMgr::Run`; `none` where it returns. -/
def sendPart (sendRet : SendRet) (c : ConnCache) : Option ConnCache :=
  if c.sendBuf.length > 0 then
    match sendRet with
    | .again => none
    | .failed => none
    | .sent len =>
        if len < c.sendBuf.length then some (c.skipSendData len)
        else if len = c.sendBuf.length then some c.clearSendBuf
        else some c
  else some c

/-- What `MsgMgr::Resume`, which is `Init`, makes of the buffers. -/
def resume (raw : ConnCache.Arrays) (c : ConnCache) : ConnCache := c.init raw

/-- `MsgMgr::Run`; `raw` are the arrays that `Resume` gets if it is called. -/
def run (parse : Bytes → Option μ) (raw : ConnCache.Arrays) (sendRet : SendRet)
    (recvRet : RecvRet) (c : ConnCache) : Result (Option (RunOut μ)) :=
  -- `send` is called for all bytes that count, also for those behind the array
  if c.sendBufCapacity < c.sendBuf.length then .error .outOfBounds
  else match sendPart sendRet c with
  | none =>
      if sendRet = .failed then .ok (some ⟨resume raw c, [], none, true⟩)
      else .ok (some ⟨c, [], none, false⟩)
  | some c =>
      let recvLen := c.getRemainRecvBufLen
      match recvRet with
      | .again => .ok (some ⟨c, [], some recvLen, false⟩)
      | .failed => .ok (some ⟨resume raw c, [], some recvLen, true⟩)
      | .closed => .ok (some ⟨resume raw c, [], some recvLen, true⟩)
      | .data buf => do
          let c ← c.addRecvBufLen buf
          match ← dispatchLoop parse (c.recvBuf.length + 1) c with
          | none => .ok none
          | some (c, msgs) => .ok (some ⟨c, msgs, some recvLen, false⟩)

/-- What `recv` can answer when `room` bytes are asked for: at least one and no more. -/
def RecvRet.Answers (recvRet : RecvRet) (room : Int) : Prop :=
  ∀ buf, recvRet = .data buf → buf ≠ [] ∧ (buf.length : Int) ≤ room

/-- The bytes it has brought, where it was called. -/
def RecvRet.bytes : RecvRet → Bytes
  | .data buf => buf
  | _ => []

/-- The bytes a `Run` has received. -/
def receivedBy (out : RunOut μ) (recvRet : RecvRet) : Bytes :=
  if out.recvLen.isSome then recvRet.bytes else []

/-- The bytes that `send` accepts in a `Run`. -/
def sentBy (sendRet : SendRet) (c : ConnCache) : Bytes :=
  match sendRet with
  | .sent len => if len ≤ c.sendBuf.length then c.sendBuf.take len else []
  | _ => []

/-- The client on one connection, for which `Init` was called with the buffers `before`: the bytes
it has received there and the messages it has dispatched.  Between two calls of `Run` it may have
something to send. -/
inductive Client (parse : Bytes → Option μ) (before : ConnCache) :
    Bytes → List μ → ConnCache → Prop
  | connect (raw : ConnCache.Arrays) : Client parse before [] [] (before.init raw)
  | sendData {received : Bytes} {dispatched : List μ} {c c' : ConnCache} (buf : Bytes) :
      Client parse before received dispatched c → c.addSendData buf = .ok c' →
      Client parse before received dispatched c'
  | run {received : Bytes} {dispatched : List μ} {c : ConnCache} {out : RunOut μ}
      (raw : ConnCache.Arrays) (sendRet : SendRet) (recvRet : RecvRet) :
      Client parse before received dispatched c →
      recvRet.Answers c.getRemainRecvBufLen →
      run parse raw sendRet recvRet c = .ok (some out) → out.resumed = false →
      Client parse before (received ++ receivedBy out recvRet) (dispatched ++ out.dispatched)
        out.connCache

section
variable {parse : Bytes → Option μ} {before c c' : ConnCache} {received rest : Bytes}
  {dispatched : List μ} {payloads : List Bytes} {payload : Bytes} {sendRet : SendRet}
  {recvRet : RecvRet} {out : RunOut μ} {raw : ConnCache.Arrays}

/-! ## The loop -/

/-- Every complete package of `s` can be parsed. -/
def Legible (parse : Bytes → Option μ) (s : Bytes) : Prop :=
  ∀ fs r, ConnCache.serverFraming.Cut s fs r → ConnCache.serverFraming.Ready r →
    2 ≤ Utils.ntohs r ∧ (parse (payloadOf (r.take (Utils.ntohs r)))).isSome

theorem Legible.cut {s r : Bytes} {fs : List Bytes} (h : Legible parse s)
    (hcut : ConnCache.serverFraming.Cut s fs r) : Legible parse r :=
  fun _ _ h' => h _ _ (hcut.trans h')

theorem Legible.of_append {s t : Bytes} (h : Legible parse (s ++ t)) : Legible parse s := by
  intro fs r hcut hready
  have hlen := ConnCache.ntohs_append_two t (Nat.le_of_lt hready.1)
  have h' := h fs (r ++ t) hcut.append hready.append
  have hle : Utils.ntohs r ≤ r.length := hready.2
  rw [hlen, List.take_append_of_le_length hle] at h'
  exact h'

theorem Legible.shorter {s t : Bytes} (h : Legible parse t) (hpre : s <+: t) :
    Legible parse s := by
  obtain ⟨r, rfl⟩ := hpre
  exact h.of_append

theorem dispatchLoop_cut (parse : Bytes → Option μ) : ∀ (fuel : Nat) (c : ConnCache),
    c.recvBuf.length < fuel → Legible parse c.recvBuf →
    ∃ fs r msgs, dispatchLoop parse fuel c = .ok (some ({ c with recvBuf := r }, msgs)) ∧
      ConnCache.serverFraming.Cut c.recvBuf fs r ∧ ¬ ConnCache.serverFraming.Ready r ∧
      msgs.map some = fs.map (fun f => parse (payloadOf f))
  | 0, _ => fun h => absurd h (Nat.not_lt_zero _)
  | fuel + 1, c => by
      intro hfuel hleg
      unfold dispatchLoop
      by_cases hready : c.IsRecvProtoReady
      · have hready' := ConnCache.isRecvProtoReady_iff.mp hready
        obtain ⟨hlow, hparse⟩ := hleg [] c.recvBuf (.refl _) hready'
        obtain ⟨msg, hmsg⟩ := Option.isSome_iff_exists.mp hparse
        have hle : Utils.ntohs c.recvBuf ≤ c.recvBuf.length := hready.2
        have hcopy : copyOut c.recvBuf 2 ((c.getRecvProtoLen : Int) - 2) =
            .ok (payloadOf (c.recvBuf.take (Utils.ntohs c.recvBuf))) := by
          have hlen : ((c.getRecvProtoLen : Int) - 2).toNat = Utils.ntohs c.recvBuf - 2 := by
            unfold ConnCache.getRecvProtoLen
            omega
          unfold copyOut
          rw [if_pos (by unfold ConnCache.getRecvProtoLen; omega), hlen, take_payloadOf]
        have hstep := Framing.Cut.frame (.refl c.recvBuf) hready' hlow
        have hshorter := Framing.length_drop_lt hready' hlow
        obtain ⟨fs, r, msgs, hloop, hcut, hstuck, hmsgs⟩ :=
          dispatchLoop_cut parse fuel { c with recvBuf := c.recvBuf.drop (Utils.ntohs c.recvBuf) }
            (Nat.lt_of_lt_of_le hshorter (Nat.lt_succ_iff.mp hfuel)) (hleg.cut hstep)
        have hskip : c.skipRecvProto =
            .ok { c with recvBuf := c.recvBuf.drop (Utils.ntohs c.recvBuf) } := if_pos hready.2
        rw [if_pos hready]
        simp only [hcopy, ok_bind, hmsg, hskip, hloop]
        refine ⟨_ :: fs, r, msg :: msgs, rfl, hstep.trans hcut, hstuck, ?_⟩
        rw [List.map_cons, List.map_cons, hmsgs]
        exact congrArg (· :: _) hmsg.symm
      · rw [if_neg hready]
        exact ⟨[], c.recvBuf, [], rfl, .refl _, hready, rfl⟩

/-! ## The stream of connsvr -/

/-- A payload that `ZmqReadLoop` can receive whole, and that the client can parse. -/
structure Sendable (parse : Bytes → Option μ) (payload : Bytes) : Prop where
  nonempty : payload ≠ []
  fits : payload.length + connDataSize ≤ pkgBufSize
  parses : (parse payload).isSome

theorem Sendable.wellFormed (h : Sendable parse payload) : WellFormed payload := by
  have hfits := h.fits
  have hsize : connDataSize = 12 := rfl
  exact ⟨h.nonempty, by omega⟩

theorem payloadOf_clientFrame : payloadOf (clientFrame payload) = payload := rfl

theorem front_ready (h : WellFormed payload) (t : Bytes) :
    ConnCache.serverFraming.Ready (clientFrame payload ++ t) ∧
      ConnCache.serverFraming.len (clientFrame payload ++ t) = (clientFrame payload).length := by
  have hlen : ConnCache.serverFraming.len (clientFrame payload ++ t) = payload.length + 2 :=
    ntohs_clientFrame (t := t) h
  have hpos := List.length_pos_iff.mpr h.1
  refine ⟨⟨?_, ?_⟩, hlen⟩
  · show 2 < _
    rw [List.length_append, length_clientFrame]
    omega
  · rw [hlen, List.length_append, length_clientFrame]
    omega

theorem wire_cut (h : ∀ p ∈ payloads, WellFormed p) (t : Bytes) :
    ConnCache.serverFraming.Cut (wire payloads ++ t) (payloads.map clientFrame) t := by
  induction payloads with
  | nil => exact .refl _
  | cons p payloads ih =>
      obtain ⟨hready, hlen⟩ := front_ready (h p List.mem_cons_self) (wire payloads ++ t)
      have hstep := Framing.Cut.frame (.refl _) hready (by
        rw [hlen]
        show 2 ≤ (clientFrame p).length
        rw [length_clientFrame]
        omega)
      rw [hlen, List.take_left, List.drop_left] at hstep
      have hrest := ih (fun q hq => h q (List.mem_cons_of_mem _ hq))
      have hall : wire (p :: payloads) ++ t = clientFrame p ++ (wire payloads ++ t) :=
        List.append_assoc _ _ _
      rw [hall]
      exact hstep.trans hrest

/-- Where a stream that has arrived in part stands: some packages whole, and less than
the next one. -/
structure Stands (payloads done left : List Bytes) (received r : Bytes) : Prop where
  split : payloads = done ++ left
  received : received = wire done ++ r
  part : ∀ p ∈ left.head?, r <+: clientFrame p ∧ r.length < (clientFrame p).length
  empty : left = [] → r = []

theorem exists_stands {received : Bytes} (h : received <+: wire payloads) :
    ∃ done left r, Stands payloads done left received r := by
  induction payloads generalizing received with
  | nil =>
      have hnil : received = [] := List.prefix_nil.mp h
      exact ⟨[], [], [], rfl, hnil, nofun, fun _ => rfl⟩
  | cons p payloads ih =>
      have hwire : wire (p :: payloads) = clientFrame p ++ wire payloads := rfl
      rw [hwire] at h
      rcases Nat.lt_or_ge received.length (clientFrame p).length with hlt | hge
      · have hpre : received <+: clientFrame p :=
          List.prefix_of_prefix_length_le h (List.prefix_append _ _) hlt.le
        refine ⟨[], p :: payloads, received, rfl, rfl, ?_, nofun⟩
        rintro q ⟨⟩
        exact ⟨hpre, hlt⟩
      · obtain ⟨t, rfl⟩ := List.prefix_of_prefix_length_le (List.prefix_append _ _) h hge
        obtain ⟨done, left, r, hs⟩ := ih ((List.prefix_append_right_inj _).mp h)
        refine ⟨p :: done, left, r, by rw [hs.split]; rfl, ?_, hs.part, hs.empty⟩
        rw [hs.received]
        exact (List.append_assoc _ _ _).symm

theorem Stands.stuck {done left : List Bytes} {r : Bytes} (hwf : ∀ p ∈ payloads, WellFormed p)
    (h : Stands payloads done left received r) : ¬ ConnCache.serverFraming.Ready r := by
  rintro ⟨hhdr, hle⟩
  have hhdr' : 2 < r.length := hhdr
  have hle' : Utils.ntohs r ≤ r.length := hle
  cases hleft : left with
  | nil =>
      rw [h.empty hleft] at hhdr'
      exact absurd hhdr' (by decide)
  | cons p left =>
      obtain ⟨⟨t, ht⟩, hlt⟩ := h.part p (by rw [hleft]; rfl)
      have hp : WellFormed p := hwf p (by rw [h.split, hleft]; simp)
      have hlen := ntohs_clientFrame (t := []) hp
      rw [List.append_nil, ← ht, ConnCache.ntohs_append_two t hhdr'.le] at hlen
      rw [length_clientFrame] at hlt
      omega

theorem wire_legible (hwf : ∀ p ∈ payloads, Sendable parse p) : Legible parse (wire payloads) := by
  intro fs r hcut hready
  have hwf' : ∀ p ∈ payloads, WellFormed p := fun p hp => (hwf p hp).wellFormed
  have hall := wire_cut hwf' []
  rw [List.append_nil] at hall
  rcases hcut.total hall with ⟨gs, hfs, hgs⟩ | ⟨gs, rfl, hgs⟩
  · rcases hgs.head with ⟨-, hnil⟩ | ⟨-, hlow, gs', rfl, -⟩
    · rw [hnil] at hready
      exact absurd hready.1 (by decide)
    · have hmem : r.take (ConnCache.serverFraming.len r) ∈ payloads.map clientFrame := by
        rw [hfs]
        simp
      obtain ⟨p, hp, he⟩ := List.mem_map.mp hmem
      refine ⟨hlow, ?_⟩
      show (parse (payloadOf (r.take (ConnCache.serverFraming.len r)))).isSome
      rw [← he, payloadOf_clientFrame]
      exact (hwf p hp).parses
  · obtain ⟨-, rfl⟩ := hgs.stuck (by decide)
    exact absurd hready.1 (by decide)

/-! ## The client -/

/-- What a client has made of the bytes it has received. -/
structure Held (parse : Bytes → Option μ) (received : Bytes) (dispatched : List μ)
    (c : ConnCache) : Prop where
  capacity : connCacheBufLen ≤ c.recvBufCapacity
  stuck : ¬ ConnCache.serverFraming.Ready c.recvBuf
  cut : ∃ fs, ConnCache.serverFraming.Cut received fs c.recvBuf ∧
    dispatched.map some = fs.map (fun f => parse (payloadOf f))

/-- The first half of `Run` does not touch what has been received, and sends the front of what
there is to send. -/
theorem sendPart_some (h : sendPart sendRet c = some c') :
    c'.recvBuf = c.recvBuf ∧ c'.recvBufCapacity = c.recvBufCapacity ∧
      sentBy sendRet c ++ c'.sendBuf = c.sendBuf ∧ c'.sendBufCapacity = c.sendBufCapacity := by
  unfold sendPart at h
  split at h
  · cases sendRet with
    | again => cases h
    | failed => cases h
    | sent len =>
        dsimp only at h
        unfold sentBy
        dsimp only
        split at h
        · next hlt =>
          cases h
          rw [if_pos hlt.le]
          exact ⟨rfl, rfl, List.take_append_drop len c.sendBuf, rfl⟩
        split at h
        · next heq =>
          cases h
          rw [if_pos heq.le, heq, List.take_length]
          exact ⟨rfl, rfl, List.append_nil _, rfl⟩
        · cases h
          rw [if_neg (by omega)]
          exact ⟨rfl, rfl, rfl, rfl⟩
  · next hempty =>
    cases h
    have hnil : c.sendBuf = [] := List.length_eq_zero_iff.mp (Nat.eq_zero_of_not_pos hempty)
    refine ⟨rfl, rfl, ?_, rfl⟩
    unfold sentBy
    cases sendRet with
    | again => rfl
    | failed => rfl
    | sent len =>
        dsimp only
        rw [hnil, List.take_nil, ite_self, List.append_nil]

theorem dispatchLoop_sendBuf (parse : Bytes → Option μ) : ∀ (fuel : Nat) (c c' : ConnCache)
    (msgs : List μ), dispatchLoop parse fuel c = .ok (some (c', msgs)) →
    c'.sendBuf = c.sendBuf ∧ c'.sendBufCapacity = c.sendBufCapacity
  | 0, _, _, _ => nofun
  | fuel + 1, c, c', msgs => by
      intro h
      unfold dispatchLoop at h
      split at h
      · obtain ⟨msgBuf, -, h⟩ := bind_eq_ok.mp h
        split at h
        · cases h
          exact ⟨rfl, rfl⟩
        · obtain ⟨c₁, hskip, h⟩ := bind_eq_ok.mp h
          obtain ⟨r, hloop, h⟩ := bind_eq_ok.mp h
          rcases r with _ | ⟨c₂, msgs'⟩
          · cases h
          cases h
          obtain ⟨hbuf, hcap⟩ := dispatchLoop_sendBuf parse fuel c₁ c' msgs' hloop
          unfold ConnCache.skipRecvProto at hskip
          split at hskip
          · cases hskip
            exact ⟨hbuf, hcap⟩
          · cases hskip
      · cases h
        exact ⟨rfl, rfl⟩

/-- **A `Run` that keeps the connection**: `send` would block, or `recv` would, or bytes have
arrived and the loop has looked at them. -/
theorem run_kept (h : run parse raw sendRet recvRet c = .ok (some out))
    (hresumed : out.resumed = false) :
    c.sendBuf.length ≤ c.sendBufCapacity ∧
    ((sendPart sendRet c = none ∧ sendRet = .again ∧ out = ⟨c, [], none, false⟩) ∨
      ∃ c₁, sendPart sendRet c = some c₁ ∧ out.recvLen = some c₁.getRemainRecvBufLen ∧
        ((recvRet = .again ∧ out.connCache = c₁ ∧ out.dispatched = []) ∨
          ∃ buf, recvRet = .data buf ∧ c₁.recvBuf.length + buf.length ≤ c₁.recvBufCapacity ∧
            dispatchLoop parse (c₁.recvBuf.length + buf.length + 1)
              { c₁ with recvBuf := c₁.recvBuf ++ buf } =
                .ok (some (out.connCache, out.dispatched)))) := by
  unfold run at h
  split at h
  · cases h
  next hsound =>
    refine ⟨Nat.le_of_not_lt hsound, ?_⟩
    cases hsend : sendPart sendRet c with
    | none =>
        rw [hsend] at h
        dsimp only at h
        split at h
        · cases h
          cases hresumed
        · next hfailed =>
          cases h
          refine Or.inl ⟨rfl, ?_, rfl⟩
          cases sendRet with
          | again => rfl
          | failed => exact absurd rfl hfailed
          | sent len =>
              unfold sendPart at hsend
              dsimp only at hsend
              split at hsend
              · split at hsend
                · cases hsend
                · split at hsend <;> cases hsend
              · cases hsend
    | some c₁ =>
        rw [hsend] at h
        cases recvRet with
        | again =>
            cases h
            exact Or.inr ⟨c₁, rfl, rfl, Or.inl ⟨rfl, rfl, rfl⟩⟩
        | failed =>
            cases h
            cases hresumed
        | closed =>
            cases h
            cases hresumed
        | data buf =>
            obtain ⟨c₂, hadd, h⟩ := bind_eq_ok.mp h
            obtain ⟨r, hloop, h⟩ := bind_eq_ok.mp h
            unfold ConnCache.addRecvBufLen at hadd
            split at hadd
            · next hfits =>
              cases hadd
              rcases r with _ | ⟨c₃, msgs⟩
              · cases h
              cases h
              rw [List.length_append] at hloop
              exact Or.inr ⟨c₁, rfl, rfl, Or.inr ⟨buf, rfl, hfits, hloop⟩⟩
            · cases hadd

theorem run_sendBuf (h : run parse raw sendRet recvRet c = .ok (some out))
    (hresumed : out.resumed = false) :
    sentBy sendRet c ++ out.connCache.sendBuf = c.sendBuf ∧
      out.connCache.sendBuf.length ≤ out.connCache.sendBufCapacity := by
  obtain ⟨hsound, ⟨-, rfl, rfl⟩ | ⟨c₁, hsend, -, hrecv⟩⟩ := run_kept h hresumed
  · exact ⟨rfl, hsound⟩
  obtain ⟨-, -, hsent, hcap⟩ := sendPart_some hsend
  have hkept : out.connCache.sendBuf = c₁.sendBuf ∧
      out.connCache.sendBufCapacity = c₁.sendBufCapacity := by
    rcases hrecv with ⟨-, hcache, -⟩ | ⟨buf, -, -, hloop⟩
    · rw [hcache]
      exact ⟨rfl, rfl⟩
    · have hframe := dispatchLoop_sendBuf _ _ _ _ _ hloop
      exact hframe
  rw [hkept.1, hkept.2, hcap]
  have hlen := congrArg List.length hsent
  rw [List.length_append] at hlen
  exact ⟨hsent, by omega⟩

theorem Held.congr (h : Held parse received dispatched c) (hbuf : c'.recvBuf = c.recvBuf)
    (hcap : c.recvBufCapacity ≤ c'.recvBufCapacity) : Held parse received dispatched c' where
  capacity := h.capacity.trans hcap
  stuck := by rw [hbuf]; exact h.stuck
  cut := by rw [hbuf]; exact h.cut

theorem run_spec (raw : ConnCache.Arrays) (sendRet : SendRet)
    (h : Held parse received dispatched c) (hsound : c.sendBuf.length ≤ c.sendBufCapacity)
    (hans : recvRet.Answers c.getRemainRecvBufLen)
    (hleg : (sendPart sendRet c).isSome → Legible parse (received ++ recvRet.bytes)) :
    ∃ out, run parse raw sendRet recvRet c = .ok (some out) ∧
      (∀ n, out.recvLen = some n → n = c.getRemainRecvBufLen) ∧
      (out.resumed = false →
        Held parse (received ++ receivedBy out recvRet) (dispatched ++ out.dispatched)
          out.connCache) := by
  unfold run
  rw [if_neg (Nat.not_lt.mpr hsound)]
  cases hsend : sendPart sendRet c with
  | none =>
      dsimp only
      split
      · exact ⟨_, rfl, nofun, nofun⟩
      · exact ⟨_, rfl, nofun, fun _ => by simpa [receivedBy] using h⟩
  | some c₁ =>
      obtain ⟨hbuf, hcap, -⟩ := sendPart_some hsend
      have hroom : c₁.getRemainRecvBufLen = c.getRemainRecvBufLen := by
        unfold ConnCache.getRemainRecvBufLen
        rw [hbuf, hcap]
      have h₁ := h.congr hbuf hcap.ge
      have hlen : ∀ n, some c₁.getRemainRecvBufLen = some n → n = c.getRemainRecvBufLen := by
        rintro n ⟨⟩
        exact hroom
      cases recvRet with
      | again =>
          exact ⟨_, rfl, hlen, fun _ => by simpa [receivedBy, RecvRet.bytes] using h₁⟩
      | failed => exact ⟨_, rfl, hlen, nofun⟩
      | closed => exact ⟨_, rfl, hlen, nofun⟩
      | data buf =>
          obtain ⟨fs, hcut, hdisp⟩ := h₁.cut
          have hfits : c₁.recvBuf.length + buf.length ≤ c₁.recvBufCapacity := by
            have hle := (hans buf rfl).2
            rw [← hroom] at hle
            unfold ConnCache.getRemainRecvBufLen at hle
            omega
          have hall := hcut.append (t := buf)
          obtain ⟨gs, r, msgs, hloop, hgs, hstuck, hmsgs⟩ := dispatchLoop_cut parse _
            { c₁ with recvBuf := c₁.recvBuf ++ buf } (Nat.lt_succ_self _)
            ((hleg (by rw [hsend]; rfl)).cut hall)
          have hadd : c₁.addRecvBufLen buf = .ok { c₁ with recvBuf := c₁.recvBuf ++ buf } :=
            if_pos hfits
          refine ⟨⟨{ c₁ with recvBuf := r }, msgs, some c₁.getRemainRecvBufLen, false⟩, ?_, hlen,
            fun _ => ⟨h₁.capacity, hstuck, fs ++ gs, hall.trans hgs, ?_⟩⟩
          · simp only [hadd, ok_bind, hloop]
          · rw [List.map_append, List.map_append, hdisp, hmsgs]

theorem Client.sound (h : Client parse before received dispatched c)
    (hfits : before.sendBuf.length ≤ connCacheBufLen) :
    c.sendBuf.length ≤ c.sendBufCapacity := by
  induction h with
  | connect raw =>
      rw [ConnCache.length_init_sendBuf]
      exact hfits
  | sendData buf _ hadd _ => exact (ConnCache.addSendData_ok hadd).2.2.2
  | run raw sendRet recvRet _ _ hrun hresumed _ => exact (run_sendBuf hrun hresumed).2

theorem Client.held (h : Client parse before received dispatched c) (hempty : before.recvBuf = [])
    (hleg : Legible parse received) : Held parse received dispatched c := by
  induction h with
  | connect raw =>
      have hnil : (before.init raw).recvBuf = [] := by
        unfold ConnCache.init
        rw [hempty]
        rfl
      refine ⟨Nat.le_refl _, ?_, [], by rw [hnil]; exact .refl _, rfl⟩
      rw [hnil]
      exact fun h => absurd h.1 (by decide)
  | sendData buf _ hadd ih =>
      obtain ⟨-, hbuf, hcap, -⟩ := ConnCache.addSendData_ok hadd
      exact (ih hleg).congr hbuf hcap
  | @run received dispatched c out raw sendRet recvRet _ hans hrun hresumed ih =>
      obtain ⟨hsound, hkept⟩ := run_kept hrun hresumed
      obtain ⟨out', hrun', -, hheld⟩ := run_spec raw sendRet (ih hleg.of_append) hsound hans
        (fun hcalled => by
          rcases hkept with ⟨hnone, -⟩ | ⟨c₁, -, hlen, -⟩
          · rw [hnone] at hcalled
            cases hcalled
          · rw [receivedBy, hlen, Option.isSome_some, if_pos rfl] at hleg
            exact hleg)
      rw [hrun] at hrun'
      cases hrun'
      exact hheld hresumed

theorem Stands.whole {done left : List Bytes} {r : Bytes}
    (h : Stands payloads done left (wire payloads) r) : done = payloads ∧ r = [] := by
  have hlen := congrArg List.length h.received
  have hwire : wire payloads = wire done ++ wire left := by
    rw [h.split, wire, List.map_append, List.flatten_append]
    rfl
  rw [hwire, List.length_append, List.length_append] at hlen
  cases left with
  | nil => exact ⟨by rw [h.split, List.append_nil], h.empty rfl⟩
  | cons p left =>
      have hlt := (h.part p rfl).2
      have hcons : (wire (p :: left)).length = (clientFrame p).length + (wire left).length :=
        List.length_append
      omega

/-- Where the client should stand in a stream of connsvr. -/
structure InStep (parse : Bytes → Option μ) (payloads : List Bytes) (received : Bytes)
    (dispatched : List μ) (c : ConnCache) : Prop where
  /-- exactly the payloads that have arrived whole are dispatched, in order -/
  dispatched : ∃ done left r, Stands payloads done left received r ∧
    dispatched.map some = done.map parse
  size : c.recvBuf.length ≤ c.recvBufCapacity
  room : 0 < c.getRemainRecvBufLen
  /-- the next `Run` returns, and asks `recv` for at least one byte -/
  next : ∀ raw sendRet recvRet, recvRet.Answers c.getRemainRecvBufLen →
    received ++ recvRet.bytes <+: wire payloads →
    c.recvBuf.length + recvRet.bytes.length ≤ c.recvBufCapacity ∧
    ∃ out, run parse raw sendRet recvRet c = .ok (some out) ∧ ∀ n, out.recvLen = some n → 0 < n

theorem InStep.whole (h : InStep parse payloads (wire payloads) dispatched c) :
    dispatched.map some = payloads.map parse := by
  obtain ⟨done, left, r, hs, hdisp⟩ := h.dispatched
  rw [hdisp, hs.whole.1]

theorem Client.stands (h : Client parse before received dispatched c) (hempty : before.recvBuf = [])
    (hwf : ∀ p ∈ payloads, Sendable parse p) (hpre : received <+: wire payloads) :
    ∃ done left, Stands payloads done left received c.recvBuf ∧
      dispatched.map some = done.map parse := by
  have hwf' : ∀ p ∈ payloads, WellFormed p := fun p hp => (hwf p hp).wellFormed
  obtain ⟨-, hstuck, fs, hcut, hdisp⟩ := h.held hempty ((wire_legible hwf).shorter hpre)
  obtain ⟨done, left, r, hs⟩ := exists_stands hpre
  have hdone : ∀ p ∈ done, WellFormed p :=
    fun p hp => hwf' p (by rw [hs.split]; exact List.mem_append_left _ hp)
  have hcut' := wire_cut hdone r
  rw [← hs.received] at hcut'
  obtain ⟨rfl, hr⟩ := hcut.unique hcut' hstuck (hs.stuck hwf')
  refine ⟨done, left, hr ▸ hs, ?_⟩
  rw [hdisp, List.map_map]
  rfl

theorem InStep.nothing (h : InStep parse [payload] received dispatched c)
    (hlt : received.length < (clientFrame payload).length) : dispatched = [] := by
  obtain ⟨done, left, r, hs, hdisp⟩ := h.dispatched
  cases done with
  | nil => exact List.map_eq_nil_iff.mp hdisp
  | cons p done =>
      have hp : payload = p := by
        have := hs.split
        simp only [List.cons_append, List.cons.injEq] at this
        exact this.1
      have hlen := congrArg List.length hs.received
      rw [hp] at hlt
      have hcons : (wire (p :: done) ++ r).length =
          (clientFrame p).length + ((wire done).length + r.length) := by
        rw [List.length_append, show wire (p :: done) = clientFrame p ++ wire done from rfl,
          List.length_append, Nat.add_assoc]
      omega

end

end MsgMgr

end PlayFrame
