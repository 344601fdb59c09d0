/-
# `PlayFrame.Frame.CommDef` — how the C++ is embedded

`common/frame/comm_def.h` and the conventions every other module follows.

* A statement that C++ leaves undefined, and a failed `CHECK`, end the process.
  A function that can do either returns `Result`, whose error says which of them
  happened; a model never goes on past it.
* `uint32_t` positions and sizes are `Nat`, `int32_t`, `int64_t` and `time_t` are
  `Int`; a conversion between widths that can lose a bit is written out
  (`toInt32`).
* A C array is a function together with its size, and is only read and written
  through `readAt` and `writeAt`, which fault outside of it.
-/
import Mathlib.Logic.Function.Basic
import Mathlib.Data.Int.Bitwise
import Mathlib.Tactic.Common

namespace PlayFrame

/-- The ways a process ends that the source does not choose. -/
inductive Fault where
  /-- an array access outside the array -/
  | outOfBounds
  /-- a null pointer or a deleted object is dereferenced -/
  | badPointer
  /-- an object is deleted twice -/
  | doubleFree
  /-- a glog `CHECK` fails -/
  | checkFailed
  /-- a handler is given a message of another class -/
  | typeConfusion
  deriving DecidableEq, Repr

/-- The outcome of a function that may end the process. -/
abbrev Result (α : Type) := Except Fault α

/-- `r` is an outcome after which no undefined behaviour has happened: a value, or
the orderly abort of a `CHECK`. -/
def Result.Clean {α : Type} (r : Result α) : Prop :=
  ∀ f, r = .error f → f = .checkFailed

section
variable {α β : Type} {x : Result α} {f : α → Result β} {b : β}

@[simp] theorem ok_bind (a : α) (f : α → Result β) : (Except.ok a >>= f : Result β) = f a := rfl

@[simp] theorem error_bind (e : Fault) (f : α → Result β) :
    (Except.error e >>= f : Result β) = .error e := rfl

theorem bind_eq_ok : (x >>= f : Result β) = .ok b ↔ ∃ a, x = .ok a ∧ f a = .ok b := by
  cases x with
  | error e => simp
  | ok a => simp

theorem bind_clean (hx : Result.Clean x) (hf : ∀ a, x = .ok a → Result.Clean (f a)) :
    Result.Clean (x >>= f) := by
  cases x with
  | error e => exact fun e' he => hx e' (by simpa using he)
  | ok a => exact hf a rfl

@[simp] theorem clean_ok (a : α) : Result.Clean (.ok a : Result α) := by
  intro e he; cases he

@[simp] theorem clean_check : Result.Clean (.error .checkFailed : Result α) := by
  intro e he; cases he; rfl

end

/-! ## Arrays -/

section
variable {α : Type} {size : Nat} {arr : Nat → α} {i : Int} {k : Nat}

/-- `arr[i]`, for an array of `size` cells. -/
def readAt (size : Nat) (arr : Nat → α) (i : Int) : Result α :=
  if 0 ≤ i ∧ i < size then .ok (arr i.toNat) else .error .outOfBounds

/-- `arr[i] = v`, for an array of `size` cells. -/
def writeAt (size : Nat) (arr : Nat → α) (i : Int) (v : α) : Result (Nat → α) :=
  if 0 ≤ i ∧ i < size then .ok (Function.update arr i.toNat v) else .error .outOfBounds

@[simp] theorem readAt_nat (h : k < size) : readAt size arr (k : Int) = .ok (arr k) := by
  simp [readAt, h]

@[simp] theorem writeAt_nat (h : k < size) (v : α) :
    writeAt size arr (k : Int) v = .ok (Function.update arr k v) := by
  simp [writeAt, h]

end

/-! ## Integer conversions -/

/-- `(int32_t)x`: the two's complement value of the low 32 bits. -/
def toInt32 (x : Int) : Int := x.bmod 4294967296

theorem toInt32_of_range {x : Int} (h1 : -2147483648 ≤ x) (h2 : x < 2147483648) :
    toInt32 x = x := by
  simp only [toInt32, Int.bmod_def, Nat.cast_ofNat]
  split <;> omega

theorem toInt32_range (x : Int) : -2147483648 ≤ toInt32 x ∧ toInt32 x < 2147483648 := by
  simp only [toInt32, Int.bmod_def, Nat.cast_ofNat]
  split <;> omega

/-- `std::string`, `bytes` and the contents of a `char` buffer. -/
abbrev Bytes : Type := List UInt8

/-! ## `ConnData`, the header of every message between connsvr and gamesvr -/

/-- `enum ConnCmd`. -/
inductive ConnCmd where
  | connStart
  | connProc
  | connStop
  deriving DecidableEq, Repr

/-- `struct ConnData`. -/
structure ConnData where
  connFd : Int
  playerIdx : Int
  connCmd : ConnCmd
  deriving DecidableEq, Repr

/-- `sizeof(ConnData)`: three packed 32-bit fields. -/
def connDataSize : Nat := 12

/-- A message between connsvr and gamesvr: the header and what follows it. -/
structure ConnMsg where
  connData : ConnData
  payload : Bytes
  deriving DecidableEq, Repr

/-- `PKG_BUF_SIZE`, the same in all servers. -/
def pkgBufSize : Nat := 10240

end PlayFrame
