/-
# `PlayFrame.Frame.Zmq` — the links between the servers

The four ZeroMQ links: `connsvr/event_module/event_module.cpp`,
`gamesvr/msg_module/msg_module.{h,cpp}` and `datasvr/msg_module/msg_module.{h,cpp}`.
Every receiver has a static buffer of `PKG_BUF_SIZE` bytes, asks `zmq_recv` for some
number of bytes, and goes on with the size of the message, which `zmq_recv` returns
also when it has copied less.

gamesvr receives from both neighbours into one buffer.
-/
import PlayFrame.Frame.CommDef
import Mathlib.Data.List.Basic

namespace PlayFrame

/-! ## The header on the wire -/

/-- An `int32_t` in memory, the lowest byte first. -/
def int32Bytes (x : Int) : Bytes :=
  let u := (x % 4294967296).toNat
  [UInt8.ofNat u, UInt8.ofNat (u / 256), UInt8.ofNat (u / 65536), UInt8.ofNat (u / 16777216)]

/-- The values of `enum ConnCmd`. -/
def ConnCmd.toInt : ConnCmd → Int
  | .connStart => 1
  | .connProc => 2
  | .connStop => 3

/-- A `ConnData` in memory. -/
def ConnData.bytes (d : ConnData) : Bytes :=
  int32Bytes d.connFd ++ int32Bytes d.playerIdx ++ int32Bytes d.connCmd.toInt

@[simp] theorem ConnData.length_bytes (d : ConnData) : d.bytes.length = connDataSize := rfl

/-! ## Receiving -/

/-- `zmq_recv(socket, buf, n)` of the message `msg`: the buffer, and the size returned. -/
def zmqRecv (buf : Nat → UInt8) (n : Nat) (msg : Bytes) : (Nat → UInt8) × Nat :=
  (fun k => if k < n then (msg[k]?).getD (buf k) else buf k, msg.length)

/-- The `len` bytes at `buf + off`, for a buffer of `PKG_BUF_SIZE` bytes. -/
def bufRange (buf : Nat → UInt8) (off : Nat) (len : Int) : Result Bytes :=
  if 0 ≤ len ∧ off + len ≤ pkgBufSize then
    .ok ((List.range len.toNat).map (fun i => buf (off + i)))
  else .error .outOfBounds

/-- The four links. -/
inductive Link where
  | connsvrToGamesvr
  | gamesvrToConnsvr
  | gamesvrToDatasvr
  | datasvrToGamesvr
  deriving DecidableEq, Repr

namespace Link

/-- The bytes in front of the payload: a `ConnData` between connsvr and gamesvr. -/
def header : Link → ConnData → Bytes
  | connsvrToGamesvr, d => d.bytes
  | gamesvrToConnsvr, d => d.bytes
  | gamesvrToDatasvr, _ => []
  | datasvrToGamesvr, _ => []

/-- How many bytes are in front of the payload. -/
def headerSize : Link → Nat
  | connsvrToGamesvr => connDataSize
  | gamesvrToConnsvr => connDataSize
  | gamesvrToDatasvr => 0
  | datasvrToGamesvr => 0

/-- How many bytes the receiver asks for: `MsgModule::Run` of gamesvr and datasvr, and
`EventModule::ZmqReadLoop`. -/
def recvLimit : Link → Nat
  | connsvrToGamesvr => 1024
  | gamesvrToConnsvr => pkgBufSize
  | gamesvrToDatasvr => 1024
  | datasvrToGamesvr => 1024

/-- The smallest size of a message the receiver looks at. -/
def leastSize : Link → Nat
  | connsvrToGamesvr => 1
  | gamesvrToConnsvr => connDataSize
  | gamesvrToDatasvr => 1
  | datasvrToGamesvr => 1

/-- What the sender gives to `zmq_send`. -/
def wire (l : Link) (connData : ConnData) (payload : Bytes) : Bytes :=
  l.header connData ++ payload

/-- The receiver takes `msg` into its buffer.  Its answer is the range that it hands to
`ParseFromArray`, or copies into the client's frame; `none` when it ignores the message. -/
def receive (l : Link) (buf : Nat → UInt8) (msg : Bytes) :
    (Nat → UInt8) × Result (Option Bytes) :=
  let (buf, len) := zmqRecv buf l.recvLimit msg
  (buf,
    if len < l.leastSize then .ok none
    else do
      let payload ← bufRange buf l.headerSize ((len : Int) - l.headerSize)
      .ok (some payload))

/-- The receiver's buffer, after the messages `history` since it was started. -/
def buffer (l : Link) (history : List Bytes) : Nat → UInt8 :=
  history.foldl (fun buf msg => (zmqRecv buf l.recvLimit msg).1) (fun _ => 0)

section
variable {l : Link} {buf : Nat → UInt8} {msg payload : Bytes} {connData : ConnData}

theorem length_header (l : Link) (connData : ConnData) :
    (l.header connData).length = l.headerSize := by
  cases l with
  | connsvrToGamesvr => rfl
  | gamesvrToConnsvr => rfl
  | gamesvrToDatasvr => rfl
  | datasvrToGamesvr => rfl

theorem headerSize_le (l : Link) : l.headerSize ≤ l.recvLimit := by
  cases l with
  | connsvrToGamesvr => decide
  | gamesvrToConnsvr => decide
  | gamesvrToDatasvr => decide
  | datasvrToGamesvr => decide

/-! ### The buffer -/

@[simp] theorem zmqRecv_size {n : Nat} : (zmqRecv buf n msg).2 = msg.length := rfl

theorem zmqRecv_of_ge {n k : Nat} (h : n ≤ k) : (zmqRecv buf n msg).1 k = buf k :=
  if_neg (not_lt.mpr h)

theorem zmqRecv_of_lt {n k : Nat} (h : k < n) (hk : k < msg.length) :
    (zmqRecv buf n msg).1 k = msg[k] := by
  show (if k < n then (msg[k]?).getD (buf k) else buf k) = msg[k]
  rw [if_pos h, List.getElem?_eq_getElem hk, Option.getD_some]

theorem zmqRecv_zero {n : Nat} (h : ∀ k, n ≤ k → buf k = 0) :
    ∀ k, n ≤ k → (zmqRecv buf n msg).1 k = 0 := by
  intro k hk
  rw [zmqRecv_of_ge hk]
  exact h k hk

/-- **The bytes past the limit are 0** after any history, since the buffer is static and
nothing is ever received there. -/
theorem buffer_zero (l : Link) (history : List Bytes) :
    ∀ k, l.recvLimit ≤ k → l.buffer history k = 0 := by
  unfold buffer
  generalize hb : (fun _ : Nat => (0 : UInt8)) = buf
  have h0 : ∀ k, l.recvLimit ≤ k → buf k = 0 := by
    intro k _
    rw [← hb]
  clear hb
  induction history generalizing buf with
  | nil => exact h0
  | cons msg history ih => exact ih _ (zmqRecv_zero h0)

/-! ### What is handed over -/

theorem receive_eq (hleast : l.leastSize ≤ msg.length) (hhdr : l.headerSize ≤ msg.length) :
    (l.receive buf msg).2 =
      if msg.length ≤ pkgBufSize then
        .ok (some ((List.range (msg.length - l.headerSize)).map
          (fun i => (zmqRecv buf l.recvLimit msg).1 (l.headerSize + i))))
      else .error .outOfBounds := by
  have hlen : ((msg.length : Int) - l.headerSize).toNat = msg.length - l.headerSize := by omega
  unfold receive
  show (if msg.length < l.leastSize then _ else _) = _
  rw [if_neg (not_lt.mpr hleast)]
  simp only [bufRange, zmqRecv_size, hlen]
  by_cases h : msg.length ≤ pkgBufSize
  · rw [if_pos h, if_pos (by omega)]
    rfl
  · rw [if_neg h, if_neg (by omega)]
    rfl

theorem receive_whole (hleast : l.leastSize ≤ l.headerSize + payload.length)
    (hrecv : l.headerSize + payload.length ≤ l.recvLimit)
    (hsize : l.headerSize + payload.length ≤ pkgBufSize) :
    (l.receive buf (l.wire connData payload)).2 = .ok (some payload) := by
  have hhdr := length_header l connData
  have hlen : (l.wire connData payload).length = l.headerSize + payload.length := by
    unfold wire
    rw [List.length_append, hhdr]
  rw [receive_eq (by rw [hlen]; exact hleast) (by rw [hlen]; omega), hlen, if_pos hsize,
    Nat.add_sub_cancel_left]
  refine congrArg (fun p => Except.ok (some p)) ?_
  refine List.ext_getElem (by rw [List.length_map, List.length_range]) (fun i h1 h2 => ?_)
  rw [List.getElem_map, List.getElem_range, zmqRecv_of_lt (by omega) (by rw [hlen]; omega)]
  unfold wire
  rw [List.getElem_append_right (by omega)]
  congr 1
  omega

/-- A payload is handed over whole when it was copied whole, or when the bytes that were
not copied are what the buffer has in their place. -/
theorem receive_wire_iff (hzero : ∀ k, l.recvLimit ≤ k → buf k = 0) :
    (l.receive buf (l.wire connData payload)).2 = .ok (some payload) ↔
      l.leastSize ≤ l.headerSize + payload.length ∧
      l.headerSize + payload.length ≤ pkgBufSize ∧
      ∀ b ∈ payload.drop (l.recvLimit - l.headerSize), b = 0 := by
  have hhdr := length_header l connData
  have hle := headerSize_le l
  have hlen : (l.wire connData payload).length = l.headerSize + payload.length := by
    unfold wire
    rw [List.length_append, hhdr]
  by_cases hleast : l.leastSize ≤ l.headerSize + payload.length
  swap
  · refine iff_of_false ?_ (fun h => hleast h.1)
    unfold receive
    show (if (l.wire connData payload).length < l.leastSize then _ else _) ≠ _
    rw [hlen, if_pos (not_le.mp hleast)]
    exact fun h => nomatch h
  rw [receive_eq (by rw [hlen]; exact hleast) (by rw [hlen]; omega), hlen, Nat.add_sub_cancel_left]
  by_cases hsize : l.headerSize + payload.length ≤ pkgBufSize
  swap
  · rw [if_neg hsize]
    exact iff_of_false (fun h => nomatch h) (fun h => hsize h.2.1)
  rw [if_pos hsize]
  have hcell : ∀ i (hi : i < payload.length),
      (zmqRecv buf l.recvLimit (l.wire connData payload)).1 (l.headerSize + i) =
        if l.headerSize + i < l.recvLimit then payload[i] else 0 := by
    intro i hi
    split
    · next h =>
      rw [zmqRecv_of_lt h (by rw [hlen]; omega)]
      unfold wire
      rw [List.getElem_append_right (by omega)]
      congr 1
      omega
    · next h => rw [zmqRecv_of_ge (not_lt.mp h), hzero _ (not_lt.mp h)]
  have heq : (List.range payload.length).map
      (fun i => (zmqRecv buf l.recvLimit (l.wire connData payload)).1 (l.headerSize + i)) =
        payload ↔ ∀ i (hi : i < payload.length), l.recvLimit ≤ l.headerSize + i →
          payload[i] = 0 := by
    constructor
    · intro h i hi hge
      have h1 := hcell i hi
      rw [if_neg (not_lt.mpr hge)] at h1
      rw [← h1]
      have := congrArg (fun xs => xs[i]?) h
      simp only [List.getElem?_map, List.getElem?_range hi, Option.map_some,
        List.getElem?_eq_getElem hi, Option.some.injEq] at this
      exact this.symm
    · intro h
      refine List.ext_getElem (by rw [List.length_map, List.length_range]) (fun i h1 h2 => ?_)
      rw [List.getElem_map, List.getElem_range, hcell i h2]
      split
      · rfl
      · next hge => exact (h i h2 (not_lt.mp hge)).symm
  constructor
  · intro h
    refine ⟨hleast, hsize, fun b hb => ?_⟩
    obtain ⟨i, hi, rfl⟩ := List.mem_iff_getElem.mp hb
    rw [List.length_drop] at hi
    rw [List.getElem_drop]
    exact heq.mp (Option.some.inj (Except.ok.inj h)) _ _ (by omega)
  · rintro ⟨-, -, h⟩
    refine congrArg (fun p => Except.ok (some p)) (heq.mpr (fun i hi hge => ?_))
    have hmem : payload[i] ∈ payload.drop (l.recvLimit - l.headerSize) := by
      refine List.mem_iff_getElem.mpr ⟨i - (l.recvLimit - l.headerSize), ?_, ?_⟩
      · rw [List.length_drop]
        omega
      · rw [List.getElem_drop]
        congr 1
        omega
    exact h _ hmem

/-- **A link carries a message unchanged exactly when** the message is not ignored for
its size, does not reach beyond the receive buffer, and holds only zeros past the number
of bytes asked for. -/
theorem carried_iff (l : Link) (history : List Bytes) (connData : ConnData) (payload : Bytes) :
    (l.receive (l.buffer history) (l.wire connData payload)).2 = .ok (some payload) ↔
      l.leastSize ≤ l.headerSize + payload.length ∧
      l.headerSize + payload.length ≤ pkgBufSize ∧
      ∀ b ∈ payload.drop (l.recvLimit - l.headerSize), b = 0 :=
  receive_wire_iff (buffer_zero l history)

/-- A payload of 1013 bytes from a client, one more than gamesvr copies. -/
def longPayload : Bytes := List.replicate 1013 7

/-- gamesvr does not see it as it was sent. -/
theorem connsvrToGamesvr_long :
    longPayload.length ≤ pkgBufSize ∧
    ¬ (connsvrToGamesvr.receive (connsvrToGamesvr.buffer [])
      (connsvrToGamesvr.wire ⟨5, 1, .connProc⟩ longPayload)).2 = .ok (some longPayload) := by
  have hlong : longPayload.length = 1013 := List.length_replicate
  refine ⟨by rw [hlong]; decide, fun h => ?_⟩
  have h7 : (7 : UInt8) ∈ longPayload.drop 1012 := by
    unfold longPayload
    rw [List.drop_replicate]
    exact List.mem_replicate.mpr ⟨by decide, rfl⟩
  have := ((receive_wire_iff (buffer_zero connsvrToGamesvr [])).mp h).2.2 7 h7
  exact absurd this (by decide)

end

end Link

end PlayFrame
