import PlayFrame.Lib.Heap
import PlayFrame.Lib.FreeList
import PlayFrame.Lib.Lehmer
import PlayFrame.Frame.CommDef
import PlayFrame.Frame.TimeValue
import PlayFrame.Frame.Random
import PlayFrame.Frame.HeapTimer
import PlayFrame.Frame.HeapTimerInv
import PlayFrame.Frame.HeapTimerOps
import PlayFrame.Frame.HeapTimerRun
import PlayFrame.Frame.HeapTimerMap
import PlayFrame.Frame.TimerPoll
import PlayFrame.Frame.TimerNodes
import PlayFrame.Frame.TimerClock
import PlayFrame.Lib.Framing
import PlayFrame.Frame.Zmq
import PlayFrame.ConnSvr.Connection
import PlayFrame.ConnSvr.RecvStream
import PlayFrame.Frame.Epoller
import PlayFrame.ConnSvr.ConnMgr
import PlayFrame.ConnSvr.Event
import PlayFrame.ConnSvr.Delivery
import PlayFrame.ConnSvr.EventSpec
import PlayFrame.ConnSvr.SendStream
import PlayFrame.GameSvr.LogicModule
import PlayFrame.Frame.MsgModuleBase
import PlayFrame.Frame.ShmPool
import PlayFrame.Frame.Utils
import PlayFrame.GameSvr.ObjMgr
import PlayFrame.GameSvr.Proto
import PlayFrame.GameSvr.MsgTable
import PlayFrame.GameSvr.Player
import PlayFrame.GameSvr.Logics
import PlayFrame.GameSvr.MsgModule
import PlayFrame.Lib.Handle
import PlayFrame.System.System
import PlayFrame.System.Routing
import PlayFrame.System.Leak
import PlayFrame.System.OnePlayer
import PlayFrame.Lib.Index
import PlayFrame.GameSvr.UidIndex
import PlayFrame.GameSvr.GameLogic
import PlayFrame.GameSvr.Wire
import PlayFrame.GameSvr.PlayerData
import PlayFrame.GameSvr.QuickReg
import PlayFrame.GameSvr.Restart
import PlayFrame.GameSvr.Backend
import PlayFrame.GameSvr.Session
import PlayFrame.GameSvr.OneSession
import PlayFrame.GameSvr.SavedData
import PlayFrame.DataSvr.Truth
import PlayFrame.DataSvr.Order
import PlayFrame.Frame.ShmPoolRun
import PlayFrame.GameSvr.Cities
import PlayFrame.ConnSvr.Service
import PlayFrame.Frame.Dispatch
import PlayFrame.Frame.HeapTimerBounds
import PlayFrame.Frame.HeapTimerFire
import PlayFrame.ConnSvr.Reassembly
import PlayFrame.TcpClient.ConnCache
import PlayFrame.TcpClient.MsgMgr
import PlayFrame.GameSvr.Crash
import PlayFrame.GameSvr.LoginEnd
import PlayFrame.GameSvr.Replies
import PlayFrame.Frame.LuaTasks
import PlayFrame.GameSvr.CoroutineRun
import PlayFrame.Lib.BitPairs
import PlayFrame.Frame.Uid
import PlayFrame.Frame.CString
import PlayFrame.GameSvr.NormalReg
import PlayFrame.GameSvrLua.Account
import PlayFrame.Lib.RoundUp
import PlayFrame.Frame.ShmMemory
import PlayFrame.GameSvr.Objects
import PlayFrame.GameSvr.OneStep
import PlayFrame.GameSvr.Reload
import PlayFrame.Lib.Checked
import PlayFrame.Frame.RandomRun
import PlayFrame.Lib.Workers
import PlayFrame.DataSvr.Durable
import PlayFrame.GameSvr.Asks
import PlayFrame.GameSvr.Registration
import PlayFrame.System.GameData
import PlayFrame.System.Serving
import PlayFrame.System.Accounts
import PlayFrame.System.Records
import PlayFrame.ConnSvr.Streams
import PlayFrame.System.Traffic
import PlayFrame.TcpClient.Requests
import PlayFrame.System.Clients
import PlayFrame.System.Cluster
import PlayFrame.System.Confirmed
import PlayFrame.Lib.Ledger
import PlayFrame.GameSvrLua.Tasks
import PlayFrame.GameSvrLua.Steps
import PlayFrame.GameSvrLua.Login
import PlayFrame.GameSvrLua.Replies
