/-
# `PlayFrame.GameSvrLua.Scripts` — the scripts of the tasks

`gamesvr_lua_coroutine/lua_engine_module/script/{task_reg,task_role,main}.lua`.  The classes
that the scripts use, `Player` and `ObjMgrModule`, are those of gamesvr: the sources of both
servers are the same there.

A coroutine that waits is kept as the `CO_YIELD` that it waits at and the local variables
that are used from there on.  `CO_YIELD(f(x))` calls `f(x)` and then yields; the value that
the task is resumed with is what it returns.  A method that is called on `nil`, which
`GetPlayer` gives for a null pointer, is an error of the script.

`request` is a field that the source does not have: the number, in the log of requests
`toDatasvr`, of the one that the argument of the `CO_YIELD` has sent.
-/
import PlayFrame.Frame.LuaEngine
import PlayFrame.GameSvr.Player

namespace PlayFrame

/-- The functions that tasks are created for. -/
inductive LuaFunc where
  | quickReg
  | normalReg
  | login
  deriving DecidableEq, Repr

/-- The arguments of `login`. -/
structure LoginArgs where
  taskId : UInt64
  uid : UInt64
  passwordHash : UInt64
  seq : UInt64
  playerIdx : Int
  resCmd : Int
  deriving DecidableEq, Repr

/-- The arguments of `quick_reg`. -/
structure QuickRegArgs where
  taskId : UInt64
  seq : UInt64
  playerIdx : Int
  resCmd : Int
  deriving DecidableEq, Repr

/-- The arguments of `normal_reg`. -/
structure NormalRegArgs where
  taskId : UInt64
  account : Bytes
  password : Bytes
  seq : UInt64
  playerIdx : Int
  resCmd : Int
  deriving DecidableEq, Repr

/-- What a task is resumed with: the arguments of its function, or the flag that `CO_YIELD`
returns. -/
inductive LuaArgs where
  | quickReg (args : QuickRegArgs)
  | normalReg (args : NormalRegArgs)
  | login (args : LoginArgs)
  | flag (flag : Int)
  deriving DecidableEq, Repr

/-- The two `CO_YIELD`s of `login`. -/
inductive LoginYield where
  /-- in the loop that saves the old player -/
  | update (player oldPlayer : Nat) (oldPlayerIdx : Int) (updateCount : Nat)
  /-- at the request for the data of the player -/
  | get (player : Nat)
  deriving DecidableEq, Repr

/-- The coroutines. -/
inductive Coroutine where
  | start (func : LuaFunc)
  | quickReg (args : QuickRegArgs) (player : Nat) (i : Nat) (uid : UInt64) (password : Bytes)
  | normalReg (args : NormalRegArgs) (player : Nat)
  | login (args : LoginArgs) (point : LoginYield) (request : Option Nat)
  deriving DecidableEq, Repr

/-- What a run of a coroutine to its next `CO_YIELD` or to its end is. -/
abbrev ScriptRun : Type := Result (LuaRet Coroutine × GameWorld)

/-- The request that was sent between two worlds, by its number in the log. -/
def requestSince (w w' : GameWorld) : Option Nat :=
  if w.toDatasvr.length < w'.toDatasvr.length then some w.toDatasvr.length else none

variable (codec : Codec)

/-! ## `task_reg.lua` -/

/-- The characters that `rand_str` draws from, as they stand there. -/
def randStrChars : Bytes :=
  [97, 98, 99, 100, 101, 102, 103, 104, 105, 106, 107, 108, 109, 110, 104, 111, 112, 113, 114,
   115, 116, 117, 118, 119, 120, 121, 122, 48, 49, 50, 51, 52, 53, 54, 55, 56, 57]

/-- `rand_str`; `math.random` draws from the generator `rand`. -/
def randStr (num : Nat) (rand : Nat → Nat) : Bytes :=
  (List.range num).map (fun i => randStrChars.getD (rand i % randStrChars.length) 0)

namespace QuickReg

/-- The end of `quick_reg`. -/
def fail (args : QuickRegArgs) (player : Nat) (w : GameWorld) : ScriptRun := do
  let w ← Player.sendFailedCsRes codec args.seq args.resCmd (-1) player w
  .ok (.returned, w)

/-- The loop of `quick_reg`, from its test on. -/
def loop (args : QuickRegArgs) (player i : Nat) (w : GameWorld) : ScriptRun :=
  if i ≤ 3 then do
    let uid := Utils.genUidNum w.rdtsc
    let password := randStr 8 w.rand
    let passwordHash := Utils.fnv64aHash password
    let w ← Player.doAccountReg codec args.taskId uid passwordHash [] player w
    .ok (.yielded (.quickReg args player i uid password), w)
  else fail codec args player w

/-- `quick_reg`. -/
def run (args : QuickRegArgs) (w : GameWorld) : ScriptRun :=
  match w.objMgr.getPlayer args.playerIdx with
  | none => .ok (.failed, w)
  | some player => loop codec args player 1 w

/-- `quick_reg`, when its `CO_YIELD` returns. -/
def goOn (args : QuickRegArgs) (player i : Nat) (uid : UInt64) (password : Bytes) (flag : Int)
    (w : GameWorld) : ScriptRun :=
  if flag = 0 then do
    let w ← Player.sendOkCsQuickRegRes codec args.seq uid password player w
    .ok (.returned, w)
  else loop codec args player (i + 1) w

end QuickReg

namespace NormalReg

/-- The end of `normal_reg`, where it is also left early. -/
def fail (args : NormalRegArgs) (player : Nat) (w : GameWorld) : ScriptRun := do
  let w ← Player.sendFailedCsRes codec args.seq args.resCmd (-1) player w
  .ok (.returned, w)

/-- `normal_reg`. -/
def run (args : NormalRegArgs) (w : GameWorld) : ScriptRun :=
  match w.objMgr.getPlayer args.playerIdx with
  | none => .ok (.failed, w)
  | some player =>
      if Utils.checkAccount args.account ≠ 0 then fail codec args player w
      else if Utils.checkPassword args.password ≠ 0 then fail codec args player w
      else do
        let uid := Utils.fnv64aHash args.account
        let passwordHash := Utils.fnv64aHash args.password
        let w ← Player.doAccountReg codec args.taskId uid passwordHash args.account player w
        .ok (.yielded (.normalReg args player), w)

/-- `normal_reg`, when its `CO_YIELD` returns. -/
def goOn (args : NormalRegArgs) (player : Nat) (flag : Int) (w : GameWorld) : ScriptRun :=
  if flag = 0 then do
    let w ← Player.sendOkCsNormalRegRes codec args.seq args.account args.password player w
    .ok (.returned, w)
  else fail codec args player w

end NormalReg

/-! ## `task_role.lua` -/

namespace Login

/-- The replies of `login` that fail. -/
def fail (args : LoginArgs) (player : Nat) (w : GameWorld) : ScriptRun := do
  let w ← Player.sendFailedCsRes codec args.seq args.resCmd (-1) player w
  .ok (.returned, w)

/-- `CO_YIELD(player:DoGetPlayerData(task_id, uid, password_hash))`. -/
def askData (args : LoginArgs) (player : Nat) (w : GameWorld) : ScriptRun := do
  let w' ← Player.doGetPlayerData codec args.taskId args.uid args.passwordHash player w
  .ok (.yielded (.login args (.get player) (requestSince w w')), w')

/-- The body of the loop: the old player is saved before `CO_YIELD` and in it. -/
def saveOld (args : LoginArgs) (player oldPlayer : Nat) (oldPlayerIdx : Int) (updateCount : Nat)
    (w : GameWorld) : ScriptRun := do
  let w ← Player.doUpdatePlayerData codec args.taskId oldPlayer w
  let w' ← Player.doUpdatePlayerData codec args.taskId oldPlayer w
  .ok (.yielded (.login args (.update player oldPlayer oldPlayerIdx updateCount)
    (requestSince w w')), w')

/-- The loop of `login`, from its test on, and what follows it. -/
def loop (args : LoginArgs) (player oldPlayer : Nat) (oldPlayerIdx : Int) (updateCount : Nat)
    (updatePlayerDataFlag : Int) (w : GameWorld) : ScriptRun :=
  if updatePlayerDataFlag ≠ 0 ∧ updateCount < 5 then
    saveOld codec args player oldPlayer oldPlayerIdx updateCount w
  else do
    let objMgr ← w.objMgr.delPlayer oldPlayerIdx
    let w := { w with objMgr := objMgr }
    if updateCount ≥ 5 then fail codec args player w else askData codec args player w

/-- `login`, for the player that it has found. -/
def runFor (args : LoginArgs) (player : Nat) (w : GameWorld) : ScriptRun :=
  let oldPlayerIdx := w.objMgr.findPlayerIdxByUid args.uid
  if oldPlayerIdx > 0 then
    match w.objMgr.getPlayer oldPlayerIdx with
    | none => .ok (.failed, w)
    | some oldPlayer => do
        let w ← Player.sendServerKickOffNotify codec oldPlayer w
        loop codec args player oldPlayer oldPlayerIdx 0 1 w
  else askData codec args player w

/-- `login`.  The reply to a player that is `nil` is a method of `nil`. -/
def run (args : LoginArgs) (w : GameWorld) : ScriptRun :=
  match w.objMgr.getPlayer args.playerIdx with
  | none => .ok (.failed, w)
  | some player => runFor codec args player w

/-- `login`, when the second `CO_YIELD` returns. -/
def gotData (args : LoginArgs) (player : Nat) (getPlayerDataFlag : Int) (w : GameWorld) :
    ScriptRun :=
  if getPlayerDataFlag ≠ 0 then fail codec args player w
  else do
    let w ← Player.setUid args.uid player w
    let w := Player.setPasswordHash args.passwordHash player w
    let w ← Player.sendOkCsLoginRes codec args.seq player w
    let w ← Player.sendRoleInfoNotify codec player w
    .ok (.returned, w)

/-- `login`, when a `CO_YIELD` returns. -/
def goOn (args : LoginArgs) (flag : Int) (w : GameWorld) : LoginYield → ScriptRun
  | .update player oldPlayer oldPlayerIdx updateCount =>
      loop codec args player oldPlayer oldPlayerIdx updateCount flag w
  | .get player => gotData codec args player flag w

end Login

/-! ## The interpreter -/

/-- The scripts as they are loaded: all three functions are there.  A coroutine is resumed
with what it waits for. -/
def scripts : Lua LuaFunc Coroutine LuaArgs GameWorld where
  getGlobal := fun func => some (.start func)
  resume
    | .start .quickReg, .quickReg args, w => QuickReg.run codec args w
    | .start .normalReg, .normalReg args, w => NormalReg.run codec args w
    | .start .login, .login args, w => Login.run codec args w
    | .quickReg args player i uid password, .flag flag, w =>
        QuickReg.goOn codec args player i uid password flag w
    | .normalReg args player, .flag flag, w => NormalReg.goOn codec args player flag w
    | .login args point _, .flag flag, w => Login.goOn codec args flag w point
    | _, _, _ => .error .typeConfusion

end PlayFrame
