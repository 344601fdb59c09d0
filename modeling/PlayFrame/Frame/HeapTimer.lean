/-
# `PlayFrame.Frame.HeapTimer` — the timer heap, as written

`common/frame/heap_timer.{h,cpp}`, function by function.

The object owns three arrays of `heap_size_` cells: the heap of node pointers,
the table of node positions, whose negative entries chain the free slots, and the
table of random numbers.  A timer id is a slot and a random number.

* A `TimerNode*` is a `Ptr`, the number of an allocation; `nodes` holds the nodes
  that have been allocated and not deleted.  Numbers are not reused, so a pointer
  that outlives its node is seen to dangle.
* `time(NULL)` is a parameter of `registerTimer`, and what a callback does is the
  parameter `execute` of `timerPoll`: it is given the timer, because callbacks of
  this program call it, and any other state `σ` it may change.
* `TimerPoll` loops for as long as the root is due.  `timerPoll` runs it with
  fuel and answers `none` when the fuel is spent.
* Sizes are below `2³⁰` in every run the development considers, so the `uint32_t`
  arithmetic on them is that of `Nat`.
-/
import PlayFrame.Frame.TimeValue
import PlayFrame.Frame.Random

namespace PlayFrame

/-- The number of an allocation of a `TimerNode`. -/
abbrev Ptr := Nat

/-- `NULL`. -/
def null : Ptr := 0

/-- `struct TimerNode`, for callback objects of type `κ` and data of type `δ`. -/
structure TimerNode (κ δ : Type) where
  timerId : Int
  expireTime : TimeValue
  intervalTime : TimeValue
  data : δ
  cbObj : Option κ
  deriving Repr

/-- `class HeapTimer`, and the nodes it has allocated. -/
structure HeapTimer (κ δ : Type) where
  heapSize : Nat
  curSize : Nat
  heap : Nat → Ptr
  timerNodeIndexArray : Nat → Int
  randArray : Nat → Int
  freeTimerNodeIndex : Int
  randMaker : Random
  nodes : Ptr → Option (TimerNode κ δ)
  /-- the next allocation -/
  fresh : Ptr

/-! ## Timer ids -/

/-- `(int32_t)(timer_id >> 32)`. -/
def slotOf (timerId : Int) : Int := toInt32 (timerId >>> (32 : Nat))

/-- `(int32_t)(timer_id & 0xffffffff)`. -/
def randOf (timerId : Int) : Int := toInt32 (Int.land timerId 0xffffffff)

/-- `((int64_t)timer_node_index << 32) | ((int64_t)rand_num)`. -/
def makeTimerId (timerNodeIndex randNum : Int) : Int := Int.lor (timerNodeIndex <<< (32 : Nat)) randNum

namespace HeapTimer

variable {κ δ σ : Type}

/-! ## Memory accesses -/

/-- `*p`. -/
def deref (s : HeapTimer κ δ) (p : Ptr) : Result (TimerNode κ δ) :=
  match s.nodes p with
  | some n => .ok n
  | none => .error .badPointer

/-- `*p = n`. -/
def assign (s : HeapTimer κ δ) (p : Ptr) (n : TimerNode κ δ) : Result (HeapTimer κ δ) :=
  match s.nodes p with
  | some _ => .ok { s with nodes := Function.update s.nodes p (some n) }
  | none => .error .badPointer

/-- `new TimerNode`, filled with `n`. -/
def newNode (s : HeapTimer κ δ) (n : TimerNode κ δ) : Ptr × HeapTimer κ δ :=
  (s.fresh, { s with nodes := Function.update s.nodes s.fresh (some n), fresh := s.fresh + 1 })

/-- `delete p`. -/
def delete (s : HeapTimer κ δ) (p : Ptr) : Result (HeapTimer κ δ) :=
  match s.nodes p with
  | some _ => .ok { s with nodes := Function.update s.nodes p none }
  | none => .error .doubleFree

/-- `heap_[i]`. -/
def heapAt (s : HeapTimer κ δ) (i : Int) : Result Ptr := readAt s.heapSize s.heap i

/-- `heap_[i] = p`. -/
def setHeap (s : HeapTimer κ δ) (i : Int) (p : Ptr) : Result (HeapTimer κ δ) := do
  let heap ← writeAt s.heapSize s.heap i p
  .ok { s with heap := heap }

/-- `timer_node_index_array_[i]`. -/
def indexAt (s : HeapTimer κ δ) (i : Int) : Result Int :=
  readAt s.heapSize s.timerNodeIndexArray i

/-- `timer_node_index_array_[i] = v`. -/
def setIndex (s : HeapTimer κ δ) (i v : Int) : Result (HeapTimer κ δ) := do
  let arr ← writeAt s.heapSize s.timerNodeIndexArray i v
  .ok { s with timerNodeIndexArray := arr }

/-- `rand_array_[i]`. -/
def randAt (s : HeapTimer κ δ) (i : Int) : Result Int := readAt s.heapSize s.randArray i

/-- `rand_array_[i] = v`. -/
def setRand (s : HeapTimer κ δ) (i v : Int) : Result (HeapTimer κ δ) := do
  let arr ← writeAt s.heapSize s.randArray i v
  .ok { s with randArray := arr }

/-! ## Private functions of the class -/

/-- `HeapTimer::HeapTimer(heap_size)`; `now` is the `time(NULL)` that seeds
`rand_maker_(0)`.  `new` leaves the heap cells unset; nothing reads them. -/
def init (heapSize : Nat) (now : Int) : HeapTimer κ δ where
  heapSize := heapSize + 1
  curSize := 0
  heap := fun _ => null
  timerNodeIndexArray := fun i => -((i : Int) + 1)
  randArray := fun _ => 0
  freeTimerNodeIndex := 1
  randMaker := Random.init 0 now
  nodes := fun _ => none
  fresh := 1

/-- `HeapTimer::PopFreeTimerId`. -/
def popFreeTimerId (s : HeapTimer κ δ) : Result (Int × HeapTimer κ δ) := do
  let timerNodeIndex := s.freeTimerNodeIndex
  let next ← s.indexAt s.freeTimerNodeIndex
  let s := { s with freeTimerNodeIndex := -next }
  let (randNum, randMaker) := s.randMaker.getRand
  let s ← { s with randMaker := randMaker }.setRand timerNodeIndex randNum
  .ok (makeTimerId timerNodeIndex randNum, s)

/-- `HeapTimer::PushFreeTimerId`. -/
def pushFreeTimerId (s : HeapTimer κ δ) (oldTimerId : Int) : Result (HeapTimer κ δ) := do
  let timerNodeIndex := slotOf oldTimerId
  let randNum := randOf oldTimerId
  let timerRand ← s.randAt timerNodeIndex
  if timerRand ≠ randNum then .ok s
  else do
    let s ← s.setIndex timerNodeIndex (-s.freeTimerNodeIndex)
    let s := { s with freeTimerNodeIndex := timerNodeIndex }
    s.setRand timerNodeIndex 0

/-- `HeapTimer::ExpireTime`. -/
def expireTime (now interval : TimeValue) : Result TimeValue :=
  TimeValue.set (now.sec + interval.sec) (now.usec + interval.usec)

/-- `HeapTimer::GetParentPos`. -/
def getParentPos (curPos : Nat) : Nat := if curPos = 0 then 0 else (curPos - 1) / 2

/-- `HeapTimer::GetLeftChildPos`. -/
def getLeftChildPos (curPos : Nat) : Nat := 2 * curPos + 1

/-- `HeapTimer::GrowHeap`: the arrays are copied into arrays of twice the size. -/
def growHeap (s : HeapTimer κ δ) : HeapTimer κ δ :=
  { s with
    heapSize := 2 * s.heapSize
    timerNodeIndexArray := fun i =>
      if i < s.heapSize then s.timerNodeIndexArray i else -((i : Int) + 1)
    randArray := fun i => if i < s.heapSize then s.randArray i else 0 }

/-- The last statements of both rotations: the node is put in its final place. -/
def place (s : HeapTimer κ δ) (moveNode : Ptr) (pos : Nat) : Result (HeapTimer κ δ) := do
  let s ← s.setHeap pos moveNode
  let n ← s.deref moveNode
  s.setIndex (slotOf n.timerId) pos

/-- `HeapTimer::RotateUp`.  Its loop moves towards the root, so `fuel := pos` is enough. -/
def rotateUp : Nat → HeapTimer κ δ → Ptr → Nat → Nat → Result (HeapTimer κ δ)
  | 0, s, moveNode, pos, _ => s.place moveNode pos
  | fuel + 1, s, moveNode, pos, parentPos =>
      if pos > 0 then do
        let n ← s.deref moveNode
        let parent ← s.heapAt parentPos
        let p ← s.deref parent
        if !timervalGte n.expireTime p.expireTime then do
          let s ← s.setHeap pos parent
          let s ← s.setIndex (slotOf p.timerId) pos
          rotateUp fuel s moveNode parentPos (getParentPos parentPos)
        else s.place moveNode pos
      else s.place moveNode pos

/-- The smaller child, from the left one at `childPos`. -/
def chooseChild (s : HeapTimer κ δ) (childPos : Nat) : Result Nat :=
  if childPos + 1 < s.curSize then do
    let left ← s.heapAt childPos
    let l ← s.deref left
    let right ← s.heapAt ((childPos + 1 : Nat) : Int)
    let r ← s.deref right
    .ok (if timervalGte l.expireTime r.expireTime then childPos + 1 else childPos)
  else .ok childPos

/-- `HeapTimer::RotateDown`.  Its loop moves towards `cur_size_`, so
`fuel := cur_size_` is enough. -/
def rotateDown : Nat → HeapTimer κ δ → Ptr → Nat → Nat → Result (HeapTimer κ δ)
  | 0, s, moveNode, pos, _ => s.place moveNode pos
  | fuel + 1, s, moveNode, pos, childPos =>
      if childPos < s.curSize then do
        let childPos ← s.chooseChild childPos
        let n ← s.deref moveNode
        let child ← s.heapAt childPos
        let c ← s.deref child
        if timervalGte n.expireTime c.expireTime then do
          let s ← s.setHeap pos child
          let s ← s.setIndex (slotOf c.timerId) pos
          rotateDown fuel s moveNode childPos (getLeftChildPos childPos)
        else s.place moveNode pos
      else s.place moveNode pos

/-- The end of `RemoveNode`, when `cur_size_` has been decremented: the last node is
moved into the hole and rotated whichever way it has to go. -/
def fillHole (s : HeapTimer κ δ) (delNodePos : Nat) : Result (HeapTimer κ δ) :=
  if delNodePos < s.curSize then do
    let moveNode ← s.heapAt s.curSize
    let s ← s.setHeap delNodePos moveNode
    let m ← s.deref moveNode
    let s ← s.setIndex (slotOf m.timerId) delNodePos
    let parentPos := getParentPos delNodePos
    let parent ← s.heapAt parentPos
    let p ← s.deref parent
    if timervalGte m.expireTime p.expireTime then
      s.rotateDown s.curSize moveNode delNodePos (getLeftChildPos delNodePos)
    else s.rotateUp delNodePos moveNode delNodePos parentPos
  else .ok s

/-- `HeapTimer::RemoveNode`; both callers ignore the pointer it returns. -/
def removeNode (s : HeapTimer κ δ) (delNodePos : Nat) : Result (HeapTimer κ δ) :=
  if s.curSize = 0 then .ok s
  else do
    let delNode ← s.heapAt delNodePos
    let d ← s.deref delNode
    let s ← s.pushFreeTimerId d.timerId
    let s ← s.assign delNode { d with timerId := -1 }
    fillHole { s with curSize := s.curSize - 1 } delNodePos

/-! ## Public functions of the class -/

/-- The end of `RegisterTimer`: the new node is put behind the last one, in a larger heap
if there is too little room, and rotated up. -/
def insertNode (s : HeapTimer κ δ) (newNode : Ptr) : Result (HeapTimer κ δ) := do
  let s := if s.curSize + 2 ≥ s.heapSize then s.growHeap else s
  let s ← s.rotateUp s.curSize newNode s.curSize (getParentPos s.curSize)
  .ok { s with curSize := s.curSize + 1 }

/-- `HeapTimer::RegisterTimer`, called in the second `now`. -/
def registerTimer (s : HeapTimer κ δ) (now : Int) (interval delay : TimeValue)
    (cbObj : Option κ) (data : δ) : Result (Int × HeapTimer κ δ) :=
  if interval.sec = 0 ∧ interval.usec = 0 then .ok (-1, s)
  else if s.curSize ≥ s.heapSize then .ok (-1, s)
  else do
    let (timerId, s) ← s.popFreeTimerId
    let start ← TimeValue.set now 0
    let expire ← expireTime start delay
    let (newNode, s) := s.newNode
      { timerId := timerId, expireTime := expire, intervalTime := interval
        data := data, cbObj := cbObj }
    let s ← s.insertNode newNode
    .ok (timerId, s)

/-- `HeapTimer::UnregisterTimer`.  The range check lets `heap_size_` itself pass. -/
def unregisterTimer (s : HeapTimer κ δ) (timerId : Int) : Result (HeapTimer κ δ) :=
  let timerNodeIndex := slotOf timerId
  let randNum := randOf timerId
  if timerNodeIndex < 0 ∨ timerNodeIndex > s.heapSize then .ok s
  else do
    let nodePos ← s.indexAt timerNodeIndex
    if nodePos < 0 then .ok s
    else do
      let timerRand ← s.randAt timerNodeIndex
      if timerRand ≠ randNum then .ok s
      else do
        let delNode ← s.heapAt nodePos
        if delNode = null then .ok s
        else do
          let s ← s.removeNode nodePos.toNat
          s.delete delNode

/-- `CallbackObject::Execute`, for every callback object. -/
abbrev Execute (κ δ σ : Type) : Type :=
  κ → Int → δ → HeapTimer κ δ → σ → Result (Int × HeapTimer κ δ × σ)

/-- The call of the callback of a timer that is due, if it has one. -/
def callBack (execute : Execute κ δ σ) (n : TimerNode κ δ) (s : HeapTimer κ δ) (w : σ) :
    Result (Int × HeapTimer κ δ × σ) :=
  match n.cbObj with
  | some cb => execute cb n.timerId n.data s w
  | none => .ok (0, s, w)

/-- The end of one pass of `TimerPoll`, after the callback of `expireNode` has
returned `ret`: the node is armed again at the root, or the root is removed and
the node deleted. -/
def afterExecute (s : HeapTimer κ δ) (now : TimeValue) (expireNode : Ptr) (ret : Int) :
    Result (HeapTimer κ δ) := do
  let removeRoot : Result (HeapTimer κ δ) := do
    let s ← s.removeNode 0
    s.delete expireNode
  if ret = 0 then do
    let e ← s.deref expireNode
    if 0 ≠ e.intervalTime.sec ∨ 0 ≠ e.intervalTime.usec then do
      let expire ← expireTime now e.intervalTime
      let s ← s.assign expireNode { e with expireTime := expire }
      s.rotateDown s.curSize expireNode 0 (getLeftChildPos 0)
    else removeRoot
  else removeRoot

/-- One pass of the loop of `TimerPoll`: the id of the timer that fired and the
state after it, or `none` when the loop condition fails. -/
def pollStep (now : TimeValue) (execute : Execute κ δ σ) (s : HeapTimer κ δ) (w : σ) :
    Result (Option (Int × HeapTimer κ δ × σ)) :=
  if s.curSize > 0 then do
    let root ← s.heapAt 0
    let n ← s.deref root
    if timervalGte now n.expireTime then do
      let expireNode := root
      let timerId := n.timerId
      let (ret, s, w) ← callBack execute n s w
      -- nothing has written to the local `expire_node`, so the source's test
      -- whether it is null never fires
      let s ← s.afterExecute now expireNode ret
      .ok (some (timerId, s, w))
    else .ok none
  else .ok none

/-- The loop of `TimerPoll`, and the ids of the timers it fired, in order. -/
def pollLoop (now : TimeValue) (execute : Execute κ δ σ) :
    Nat → HeapTimer κ δ → σ → Result (Option (List Int × HeapTimer κ δ × σ))
  | 0, _, _ => .ok none
  | fuel + 1, s, w => do
      match ← pollStep now execute s w with
      | none => .ok (some ([], s, w))
      | some (timerId, s, w) => do
          match ← pollLoop now execute fuel s w with
          | none => .ok none
          | some (fired, s, w) => .ok (some (timerId :: fired, s, w))

/-- `HeapTimer::TimerPoll`. -/
def timerPoll (fuel : Nat) (s : HeapTimer κ δ) (now : TimeValue) (execute : Execute κ δ σ)
    (w : σ) : Result (Option (List Int × HeapTimer κ δ × σ)) :=
  if s.curSize = 0 then .ok (some ([], s, w)) else pollLoop now execute fuel s w

/-- `HeapTimer::FirstTimeout`: the pointer it returns, as the time it points to. -/
def firstTimeout (s : HeapTimer κ δ) : Result (Option TimeValue) :=
  if s.curSize > 0 then do
    let root ← s.heapAt 0
    let n ← s.deref root
    .ok (some n.expireTime)
  else .ok none

/-- `HeapTimer::GetTimerSize`. -/
def getTimerSize (s : HeapTimer κ δ) : Int := toInt32 s.curSize

end HeapTimer

end PlayFrame
