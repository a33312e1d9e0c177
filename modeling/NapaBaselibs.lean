import NapaBaselibs.Lib.Runs
import NapaBaselibs.Lib.SlotTable
import NapaBaselibs.Lib.ByteSeq
import NapaBaselibs.Lib.Tiling
import NapaBaselibs.Lib.TimerSet
import NapaBaselibs.Lib.UpperHull
import NapaBaselibs.Lib.Selection
import NapaBaselibs.Lib.Scan
import NapaBaselibs.Lib.LinkedQueue
import NapaBaselibs.Lib.DoublyLinked
import NapaBaselibs.Lib.LeakyBucket
import NapaBaselibs.Lib.Ledger
import NapaBaselibs.Lib.Leases
import NapaBaselibs.Lib.Network
import NapaBaselibs.Lib.MemStream
import NapaBaselibs.Lib.Binary64
import NapaBaselibs.Lib.Forest
import NapaBaselibs.Lib.Bounded
import NapaBaselibs.Lib.Dict
import NapaBaselibs.ML.Wire
import NapaBaselibs.ML.SocketID
import NapaBaselibs.ML.State
import NapaBaselibs.ML.SendAll
import NapaBaselibs.ML.SendMsg
import NapaBaselibs.ML.SendTermination
import NapaBaselibs.ML.RecvData
import NapaBaselibs.ML.Timers
import NapaBaselibs.ML.Handshake
import NapaBaselibs.ML.Api
import NapaBaselibs.ML.RecvPkg
import NapaBaselibs.ML.Node
import NapaBaselibs.ML.Sample
import NapaBaselibs.ML.TableSafety
import NapaBaselibs.ML.ConnCalls
import NapaBaselibs.ML.ConnBuffer
import NapaBaselibs.ML.KeepaliveChains
import NapaBaselibs.ML.ConnChecks
import NapaBaselibs.ML.ConnCallbacks
import NapaBaselibs.ML.CallbackRuns
import NapaBaselibs.ML.ControlPriority
import NapaBaselibs.ML.CopySafety
import NapaBaselibs.ML.ReadyStability
import NapaBaselibs.ML.Fragmentation
import NapaBaselibs.ML.Reassembly
import NapaBaselibs.ML.Arrivals
import NapaBaselibs.ML.HoleFree
import NapaBaselibs.ML.GapTracking
import NapaBaselibs.ML.EntryRules
import NapaBaselibs.ML.GapRuns
import NapaBaselibs.ML.BackOff
import NapaBaselibs.ML.RoundTrip
import NapaBaselibs.ML.SocketIDWire
import NapaBaselibs.ML.SocketIDString
import NapaBaselibs.ML.OutputQueue
import NapaBaselibs.ML.RateLimiter
import NapaBaselibs.ML.QueueRuns
import NapaBaselibs.ML.PacketSearch
import NapaBaselibs.ML.QueueOps
import NapaBaselibs.ML.KeptList
import NapaBaselibs.ML.Retransmission
import NapaBaselibs.ML.BucketLeak
import NapaBaselibs.ML.BucketCalls
import NapaBaselibs.ML.DrainSplits
import NapaBaselibs.ML.Stun
import NapaBaselibs.ML.StunRoundTrip
import NapaBaselibs.ML.GiveUp
import NapaBaselibs.ML.TwoParty
import NapaBaselibs.ML.TypeSeparation
import NapaBaselibs.ML.Entries
import NapaBaselibs.ML.LiveSlots
import NapaBaselibs.ML.Agreement
import NapaBaselibs.ML.StunAnswer
import NapaBaselibs.ML.StunBounds
import NapaBaselibs.ML.MessageIdentity
import NapaBaselibs.ML.NackService
import NapaBaselibs.Rep.Record
import NapaBaselibs.Rep.SharedStream
import NapaBaselibs.Rep.BatchPublish
import NapaBaselibs.Rep.BatchRuns
import NapaBaselibs.Rep.Parsing
import NapaBaselibs.ALTO.Database
import NapaBaselibs.ALTO.Rating
import NapaBaselibs.ALTO.ReplyXML
import NapaBaselibs.ALTO.ReplyWalk
import NapaBaselibs.ALTO.ReplyComplete
import NapaBaselibs.ALTO.Client
import NapaBaselibs.ALTO.ThreadedQuery
import NapaBaselibs.MONL.Measure
import NapaBaselibs.MONL.Dispatcher
import NapaBaselibs.MONL.Pointers
import NapaBaselibs.MONL.Clockdrift
import NapaBaselibs.MONL.ClockdriftWindow
import NapaBaselibs.MONL.ClockdriftHull
import NapaBaselibs.MONL.Consistency
import NapaBaselibs.MONL.Stopping
import NapaBaselibs.MONL.ConsistentRuns
import NapaBaselibs.MONL.StopProtocol
import NapaBaselibs.MONL.OobTarget
import NapaBaselibs.MONL.Handles
import NapaBaselibs.MONL.CtrlMsg
import NapaBaselibs.MONL.CtrlBounds
import NapaBaselibs.Lib.SampleStats
import NapaBaselibs.Lib.RingBuffer
import NapaBaselibs.MONL.ResultBuffer
import NapaBaselibs.MONL.SampleWindow
import NapaBaselibs.MONL.SampleHistory
import NapaBaselibs.Lib.ResidueClasses
import NapaBaselibs.MONL.SeqWin
import NapaBaselibs.MONL.FailedActivation
import NapaBaselibs.Lib.TextBuffer
import NapaBaselibs.Rep.QueryStrings
import NapaBaselibs.Rep.ResultLists
import NapaBaselibs.Rep.ResultLimit
import NapaBaselibs.ALTO.Positional
import NapaBaselibs.ALTO.LinkedDatabase
import NapaBaselibs.ALTO.DatabaseLists
import NapaBaselibs.ALTO.DatabaseRuns
import NapaBaselibs.MONL.Capprobe
import NapaBaselibs.MONL.CapprobeDelay
import NapaBaselibs.MONL.CapprobeRange
import NapaBaselibs.Lib.KeyRuns
import NapaBaselibs.Lib.Histogram
import NapaBaselibs.MONL.CapprobeMode
import NapaBaselibs.MONL.SeqWinStep
import NapaBaselibs.MONL.LossRecovery
import NapaBaselibs.MONL.LossSamples
import NapaBaselibs.MONL.LossBurst
import NapaBaselibs.Lib.PowerField
import NapaBaselibs.FEC.GaloisField
import NapaBaselibs.Lib.GaussJordan
import NapaBaselibs.FEC.InvertMat
import NapaBaselibs.FEC.InvertVdm
import NapaBaselibs.FEC.Codec
import NapaBaselibs.Lib.Numeral
import NapaBaselibs.Inet.Dotted
import NapaBaselibs.Inet.Groups
import NapaBaselibs.Inet.Shorthand
import NapaBaselibs.Inet.SocketIDText
import NapaBaselibs.ML.QueueOrder
