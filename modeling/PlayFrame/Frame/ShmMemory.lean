/-
# `PlayFrame.Frame.ShmMemory` — the segment that a pool lies in

`common/frame/shm_memory.{h,cpp}`, and `Init` of `shm_pool.h` with the sizes that it computes.
They are `int32_t`, so a size is what is left of it modulo 2^32, and one whose sign bit is
set is a huge `size_t` for `shmget`.  A pool of 4 GB or more may get a small segment; the loop
that links the units then writes behind it, so `Init` does not answer at all.  Only a loop that is
not entered hides the wrap-around: `unit_count + 1` of the greatest `int32_t` is negative
(`initSegment_fits_iff`).

What `shmget` and `shmat` answer is an argument, and so is `getpagesize`.
-/
import PlayFrame.Frame.CommDef
import PlayFrame.Lib.RoundUp

namespace PlayFrame

open Lib

/-! ## `ShmMemory` -/

/-- `SHM_HEAD`. -/
structure ShmHead where
  shmKey : Int
  shmId : Int
  chkId : Int
  deriving DecidableEq, Repr

/-- What `Init` reads of a segment that exists: the head, and fields of the `PoolCtrl` behind
it. -/
structure ShmSegment where
  head : ShmHead
  totalUnitCount : BitVec 32
  unitSize : BitVec 32
  deriving DecidableEq, Repr

/-- The system: the size of a page, the segments that exist by their keys, and the id of a new
segment of a size, if one can be provided. -/
structure ShmSystem where
  pageSize : BitVec 32
  segment : Int → Option ShmSegment
  provides : BitVec 64 → Option Int

/-- What `ShmMemory::Init` attaches. -/
inductive Attached where
  | old (segment : ShmSegment)
  | created (head : ShmHead) (size : BitVec 64)

/-- `sizeof(SHM_HEAD)` and `sizeof(PoolCtrl)`. -/
def sizeofShmHead : Nat := 12
def sizeofPoolCtrl : Nat := 24

/-- `ROUNDUP`. -/
def roundup (n width : BitVec 32) : BitVec 32 := (n + width - 1#32) &&& ~~~(width - 1#32)

/-- A store of `n` bytes at `offset` of a segment. -/
def writeSegment (size : BitVec 64) (offset n : Nat) : Result Unit :=
  if offset + n ≤ size.toNat then .ok () else .error .outOfBounds

namespace ShmMemory

/-- `alloc_size += sizeof(SHM_HEAD)`, which is a sum of `size_t`s, and `pool_size_`. -/
def poolSize (pageSize allocSize : BitVec 32) : BitVec 32 :=
  roundup ((allocSize.signExtend 64 + BitVec.ofNat 64 sizeofShmHead).setWidth 32) pageSize

/-- `ShmMemory::Init`; `none` is the null pointer.  `verify_` is set in every pool. -/
def init (sys : ShmSystem) (shmKey chkId : Int) (allocSize : BitVec 32) :
    Result (Option Attached) :=
  let size := (poolSize sys.pageSize allocSize).signExtend 64
  match sys.segment shmKey with
  | some segment =>
      if segment.head.shmKey ≠ shmKey ∧ segment.head.chkId ≠ chkId then .ok none
      else .ok (some (.old segment))
  | none =>
      match sys.provides size with
      | none => .ok none
      | some shmId => do
          writeSegment size 0 sizeofShmHead
          return some (.created ⟨shmKey, shmId, chkId⟩ size)

end ShmMemory

/-! ## `ShmPool::Init` -/

/-- The layout of a `PoolUnit`: `mem`, then `pos` at the next multiple of 4, then what is missing
to a multiple of the alignment, which that of `pos` divides. -/
structure PoolUnit where
  sizeofMem : Nat
  align : Nat
  align_pos : 0 < align
  four_dvd_align : 4 ∣ align
  align_lt : align < 2 ^ 31
  size_lt : roundUp (roundUp sizeofMem 4 + 4) align < 2 ^ 64

namespace PoolUnit

/-- `offsetof(PoolUnit, pos)`. -/
def posOffset (unit : PoolUnit) : Nat := roundUp unit.sizeofMem 4

/-- `sizeof(PoolUnit)`. -/
def size (unit : PoolUnit) : BitVec 64 :=
  BitVec.ofNat 64 (roundUp (unit.posOffset + 4) unit.align)

variable (unit : PoolUnit)

end PoolUnit

namespace ShmPool

/-- A pool that has been made in a new segment: its size, the `PoolCtrl`, and the units whose
`pos` the loop has written. -/
structure Created where
  size : BitVec 64
  freeMemPos : Int
  validUnitCount : BitVec 32
  totalUnitCount : BitVec 32
  unitSize : BitVec 32
  linked : List (Nat × Int)
  deriving DecidableEq, Repr

/-- The place of a unit in the segment. -/
def unitOffset (unitSize : BitVec 64) (i : Nat) : Nat :=
  sizeofShmHead + sizeofPoolCtrl + i * unitSize.toNat

/-- The loop of `ShmPool::Init` over some units. -/
def link (size : BitVec 64) (unit : PoolUnit) : List Nat → Result (List (Nat × Int))
  | [] => .ok []
  | i :: units => do
      writeSegment size (unitOffset unit.size i + unit.posOffset) 4
      let linked ← link size unit units
      return (i, -((i : Int) + 1)) :: linked

/-- The branch of `ShmPool::Init` for a new segment. -/
def create (size : BitVec 64) (unit : PoolUnit) (unitCount : BitVec 32) : Result Created := do
  writeSegment size sizeofShmHead sizeofPoolCtrl
  let linked ← link size unit (List.range (unitCount + 1#32).toInt.toNat)
  return {
    size := size
    freeMemPos := 1
    validUnitCount := unitCount
    totalUnitCount := unitCount
    unitSize := unit.size.setWidth 32
    linked := linked }

/-- The bytes that the head, the `PoolCtrl` and the units 0 to `unitCount` take. -/
def needed (unitSize : BitVec 64) (unitCount : BitVec 32) : Nat :=
  sizeofShmHead + sizeofPoolCtrl + (unitCount.toNat + 1) * unitSize.toNat

/-- **The pool fits its segment**, and so does every unit of it. -/
def Fits (unitSize : BitVec 64) (unitCount : BitVec 32) (pool : Created) : Prop :=
  needed unitSize unitCount ≤ pool.size.toNat ∧
    ∀ i, i ≤ unitCount.toNat → unitOffset unitSize i + unitSize.toNat ≤ pool.size.toNat

section
variable {sys : ShmSystem} {unitSize size : BitVec 64} {unitCount : BitVec 32} {shmKey : Int}
  {unit : PoolUnit}
  {pool : Created} {k : Nat}

/-- The head, the `PoolCtrl` and the `pos` of every unit that the loop reaches lie in a segment in
which a pool is created. -/
def Reached (size : BitVec 64) (unit : PoolUnit) (unitCount : BitVec 32) : Prop :=
  sizeofShmHead + sizeofPoolCtrl ≤ size.toNat ∧
    ∀ i < (unitCount + 1#32).toInt.toNat, unitOffset unit.size i + unit.posOffset + 4 ≤ size.toNat

end

/-! ### A pool of connections -/

end ShmPool

end PlayFrame
