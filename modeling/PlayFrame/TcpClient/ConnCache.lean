/-
# `PlayFrame.TcpClient.ConnCache` — the buffers of the client

`tcpclient/conn_cache.{h,cpp}`.  Two arrays that come from `malloc` and are doubled,
both at once, when the data to send does not fit; the lists are the bytes that count.
`malloc` does not fail and no capacity reaches `2³⁰`.

`Init` is called for every connection.  It makes new arrays and keeps the sizes, so what an
earlier connection has left to send or to complete becomes as many bytes of no meaning.

A package from connsvr is cut off as connsvr cuts a client's, with one difference:
the client looks at the length as soon as more than 2 bytes are there, not 4.
-/
import PlayFrame.ConnSvr.Connection

namespace PlayFrame

/-- `CONN_CACHE_BUF_LEN`. -/
def connCacheBufLen : Nat := 100 * 1024

/-- `class ConnCache`. -/
structure ConnCache where
  sendBuf : Bytes
  sendBufCapacity : Nat
  recvBuf : Bytes
  recvBufCapacity : Nat
  deriving DecidableEq, Repr

namespace ConnCache

/-- The constructor. -/
def new : ConnCache where
  sendBuf := []
  sendBufCapacity := 0
  recvBuf := []
  recvBufCapacity := 0

/-- What two arrays hold that come from `malloc`. -/
structure Arrays where
  sendBuf : Nat → UInt8
  recvBuf : Nat → UInt8

/-- `ConnCache::Init`.  The sizes stay as they are: where there were bytes before, as many of the
new arrays count. -/
def init (raw : Arrays) (c : ConnCache) : ConnCache where
  sendBuf := (List.range c.sendBuf.length).map raw.sendBuf
  sendBufCapacity := connCacheBufLen
  recvBuf := (List.range c.recvBuf.length).map raw.recvBuf
  recvBufCapacity := connCacheBufLen

/-- The capacity of a buffer that is made or doubled; what is in it is copied. -/
def expandCapacity (buf : Bytes) (capacity : Nat) : Result Nat :=
  if capacity = 0 then .ok connCacheBufLen
  else if buf.length ≤ capacity then .ok (capacity * 2)
  else .error .outOfBounds

/-- `ConnCache::expand`: both buffers, with what is in them. -/
def expand (c : ConnCache) : Result ConnCache := do
  let sendBufCapacity ← expandCapacity c.sendBuf c.sendBufCapacity
  let recvBufCapacity ← expandCapacity c.recvBuf c.recvBufCapacity
  return { c with sendBufCapacity := sendBufCapacity, recvBufCapacity := recvBufCapacity }

/-- The loop of `AddSendData`.  The capacity grows in every pass, so as many passes as
there are bytes to make room for are enough. -/
def expandFor (bufLen : Nat) : Nat → ConnCache → Result ConnCache
  | 0, c => .ok c
  | fuel + 1, c =>
      if c.sendBuf.length + bufLen > c.sendBufCapacity then do
        let c ← c.expand
        expandFor bufLen fuel c
      else .ok c

/-- `ConnCache::AddSendData`. -/
def addSendData (c : ConnCache) (buf : Bytes) : Result ConnCache := do
  let c ← expandFor buf.length (c.sendBuf.length + buf.length) c
  if c.sendBuf.length + buf.length ≤ c.sendBufCapacity then
    return { c with sendBuf := c.sendBuf ++ buf }
  else throw .outOfBounds

/-- `ConnCache::SkipSendData`. -/
def skipSendData (c : ConnCache) (len : Nat) : ConnCache :=
  { c with sendBuf := c.sendBuf.drop len }

/-- `ConnCache::clear_send_buf`. -/
def clearSendBuf (c : ConnCache) : ConnCache := { c with sendBuf := [] }

/-- `ConnCache::GetRemainRecvBufLen`. -/
def getRemainRecvBufLen (c : ConnCache) : Int := (c.recvBufCapacity : Int) - c.recvBuf.length

/-- What `recv` writes to `GetRemainRecvBuf`, and `ConnCache::AddRecvBufLen`. -/
def addRecvBufLen (c : ConnCache) (buf : Bytes) : Result ConnCache :=
  if c.recvBuf.length + buf.length ≤ c.recvBufCapacity then
    .ok { c with recvBuf := c.recvBuf ++ buf }
  else .error .outOfBounds

/-- `ConnCache::GetRecvProtoLen`. -/
def getRecvProtoLen (c : ConnCache) : Nat := Utils.ntohs c.recvBuf

/-- `ConnCache::IsRecvProtoReady`.  It reads the length before it tests that it has
arrived, and uses it afterwards only. -/
def IsRecvProtoReady (c : ConnCache) : Prop :=
  c.recvBuf.length > 2 ∧ c.getRecvProtoLen ≤ c.recvBuf.length

instance (c : ConnCache) : Decidable c.IsRecvProtoReady := by
  unfold IsRecvProtoReady
  infer_instance

/-- `ConnCache::SkipRecvProto`. -/
def skipRecvProto (c : ConnCache) : Result ConnCache :=
  if c.getRecvProtoLen ≤ c.recvBuf.length then
    .ok { c with recvBuf := c.recvBuf.drop c.getRecvProtoLen }
  else .error .outOfBounds

/-! ## Room to send -/

variable {c c' : ConnCache} {buf : Bytes} {raw : Arrays}

@[simp] theorem length_init_sendBuf : (c.init raw).sendBuf.length = c.sendBuf.length := by
  simp [init]

theorem lt_expandCapacity {capacity capacity' : Nat}
    (h : expandCapacity buf capacity = .ok capacity') : capacity < capacity' := by
  unfold expandCapacity at h
  split at h
  · next hzero =>
    cases h
    rw [hzero]
    decide
  split at h
  · cases h
    omega
  · cases h

/-- `c'` is `c` with larger arrays. -/
structure Larger (c c' : ConnCache) : Prop where
  sendBuf : c'.sendBuf = c.sendBuf
  recvBuf : c'.recvBuf = c.recvBuf
  sendBufCapacity : c.sendBufCapacity ≤ c'.sendBufCapacity
  recvBufCapacity : c.recvBufCapacity ≤ c'.recvBufCapacity

theorem expand_larger (h : c.expand = .ok c') :
    Larger c c' ∧ c.sendBufCapacity < c'.sendBufCapacity := by
  obtain ⟨sendBufCapacity, hsend, h⟩ := bind_eq_ok.mp h
  obtain ⟨recvBufCapacity, hrecv, h⟩ := bind_eq_ok.mp h
  cases h
  exact ⟨⟨rfl, rfl, (lt_expandCapacity hsend).le, (lt_expandCapacity hrecv).le⟩,
    lt_expandCapacity hsend⟩

theorem expandFor_larger {bufLen : Nat} : ∀ {fuel : Nat} {c : ConnCache},
    expandFor bufLen fuel c = .ok c' → Larger c c' ∧
      (c.sendBuf.length + bufLen ≤ c.sendBufCapacity + fuel →
        c.sendBuf.length + bufLen ≤ c'.sendBufCapacity)
  | 0, c => by
      rintro ⟨⟩
      exact ⟨⟨rfl, rfl, Nat.le_refl _, Nat.le_refl _⟩, id⟩
  | fuel + 1, c => by
      intro h
      unfold expandFor at h
      split at h
      · obtain ⟨c₁, hexpand, h⟩ := bind_eq_ok.mp h
        obtain ⟨hlarger, hgrow⟩ := expand_larger hexpand
        obtain ⟨hrest, hroom⟩ := expandFor_larger h
        rw [hlarger.sendBuf] at hroom
        exact ⟨⟨hrest.sendBuf.trans hlarger.sendBuf, hrest.recvBuf.trans hlarger.recvBuf,
          hlarger.sendBufCapacity.trans hrest.sendBufCapacity,
          hlarger.recvBufCapacity.trans hrest.recvBufCapacity⟩, fun hle => hroom (by omega)⟩
      · cases h
        exact ⟨⟨rfl, rfl, Nat.le_refl _, Nat.le_refl _⟩, fun _ => by omega⟩

theorem addSendData_ok (h : c.addSendData buf = .ok c') :
    c'.sendBuf = c.sendBuf ++ buf ∧ c'.recvBuf = c.recvBuf ∧
      c.recvBufCapacity ≤ c'.recvBufCapacity ∧ c'.sendBuf.length ≤ c'.sendBufCapacity := by
  obtain ⟨c₁, hexpand, h⟩ := bind_eq_ok.mp h
  obtain ⟨hlarger, hroom⟩ := expandFor_larger hexpand
  have hfits := hroom (Nat.le_add_left _ _)
  rw [if_pos (by rw [hlarger.sendBuf]; exact hfits)] at h
  cases h
  refine ⟨by rw [hlarger.sendBuf], hlarger.recvBuf, hlarger.recvBufCapacity, ?_⟩
  rw [List.length_append, hlarger.sendBuf]
  exact hfits

/-! ## Packages -/

theorem ntohs_append_two {s : Bytes} (t : Bytes) (h : 2 ≤ s.length) :
    Utils.ntohs (s ++ t) = Utils.ntohs s := by
  match s with
  | [] => exact absurd h (by decide)
  | [_] => exact absurd h (by simp)
  | _ :: _ :: _ => rfl

/-- The packages of connsvr, as the client cuts them. -/
def serverFraming : Lib.Framing UInt8 where
  hdr := 2
  low := 2
  len := Utils.ntohs
  len_append := fun _ t h => ntohs_append_two t (Nat.le_of_lt h)
  low_pos := Nat.zero_lt_succ 1

theorem isRecvProtoReady_iff : c.IsRecvProtoReady ↔ serverFraming.Ready c.recvBuf := Iff.rfl

end ConnCache

end PlayFrame
