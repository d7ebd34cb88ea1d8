import QsaTalk.Lib.ByteBuffer
import QsaTalk.Lib.SlotTable
import QsaTalk.Lib.Runs
import QsaTalk.Lib.CloseHandshake
import QsaTalk.Lib.Fragments
import QsaTalk.Lib.Precedence
import QsaTalk.Lib.Reentry
import QsaTalk.Lib.Loops
import QsaTalk.Lib.ByteFile
import QsaTalk.Lib.StartCodes
import QsaTalk.Lib.Stores
import QsaTalk.Lib.RoundRobin
import QsaTalk.Wire
import QsaTalk.Device
import QsaTalk.Command
import QsaTalk.Media
import QsaTalk.Receive
import QsaTalk.Timer
import QsaTalk.System
import QsaTalk.HandlerSpecs
import QsaTalk.SendThread
import QsaTalk.CallMachine
import QsaTalk.Lifecycle
import QsaTalk.Watchdog
import QsaTalk.CommandTable
import QsaTalk.Saturation
import QsaTalk.PendingCommands
import QsaTalk.Coherence
import QsaTalk.Peer
import QsaTalk.Teardown
import QsaTalk.Hangup
import QsaTalk.StaleBytes
import QsaTalk.Isolation
import QsaTalk.Fragmentation
import QsaTalk.Messages
import QsaTalk.Emission
import QsaTalk.Outbound
import QsaTalk.Playback
import QsaTalk.Addressing
import QsaTalk.Acknowledgement
import QsaTalk.Rejection
import QsaTalk.Callbacks
import QsaTalk.Callers
import QsaTalk.Redelivery
import QsaTalk.Reporting
import QsaTalk.Audibility
import QsaTalk.Reentrancy
import QsaTalk.Nalu
import QsaTalk.Streamer
import QsaTalk.Transport
import QsaTalk.Bounds
import QsaTalk.Pacing
import QsaTalk.Enqueue
import QsaTalk.Confirmation
import QsaTalk.Timeouts
import QsaTalk.Drain
import QsaTalk.CrossSend
import QsaTalk.Lib.Worker
import QsaTalk.Threaded
import QsaTalk.SendQueue
import QsaTalk.Traffic
import QsaTalk.Counters
import QsaTalk.Lib.Rtp
import QsaTalk.NewNal
import QsaTalk.Deafness
import QsaTalk.Demo
import QsaTalk.Sessions
import QsaTalk.Lives
