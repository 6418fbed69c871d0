import TurboCore.Foundation.Execution
import TurboCore.Foundation.Framing
import TurboCore.Foundation.BucketIndex
import TurboCore.AiDist.StreamRoundTrip
import TurboCore.Registry.QueryExactness
import TurboCore.Registry.Server
import TurboCore.Registry.StreamIsolation
import TurboCore.Base.ThreadPool
import TurboCore.Registry.NodeIdentity
import TurboCore.Base.ThreadPoolBlocking
import TurboCore.Base.ThreadPoolShutdown
import TurboCore.Net.Buffer
import TurboCore.Net.EpollPoller
import TurboCore.Net.TcpConnection
import TurboCore.Net.ConnectionRun
import TurboCore.Net.CallerMemory
import TurboCore.Net.GracefulShutdown
import TurboCore.Net.ServerQueues
import TurboCore.Net.PollerRegistration
import TurboCore.Net.ConnectionTable
import TurboCore.Foundation.Simulation
import TurboCore.Registry.IndexKeys
import TurboCore.Net.BufferQueue
import TurboCore.Net.ClientReports
import TurboCore.Net.OutputConservation
import TurboCore.Net.ClientReconnect
import TurboCore.Net.ProcessUpdates
import TurboCore.Net.ProcessRuns
import TurboCore.Net.Lifecycle
import TurboCore.Net.LiveTable
import TurboCore.Net.LoopAffinity
import TurboCore.Net.UserCallbacks
import TurboCore.Net.SplitHandlers
import TurboCore.Net.Teardown
import TurboCore.Foundation.IndexedList
import TurboCore.Foundation.Fallible
import TurboCore.Foundation.LongestPrefix
import TurboCore.Net.WSPollPoller
import TurboCore.Net.EventLoop
import TurboCore.AiDist.NumberDecoding
import TurboCore.Registry.LivenessRanking
import TurboCore.DistTask.JobManager
import TurboCore.Net.BufferRead
import TurboCore.Base.ScalarTyping
import TurboCore.Base.Config
import TurboCore.Base.ConfigReads
import TurboCore.Base.Logger
import TurboCore.Base.LoggerShutdown
import TurboCore.Net.HandlerStack
import TurboCore.Net.ConnectionOwners
import TurboCore.Net.HandlerSites
import TurboCore.Net.HandlerSteps
import TurboCore.Net.HandlerLifetime
import TurboCore.Foundation.ShiftRegister
import TurboCore.AiDist.Crc32Bits
import TurboCore.AiDist.BurstErrors
import TurboCore.Foundation.RecordedReads
import TurboCore.AiDist.ReadBounds
import TurboCore.Foundation.NonRecursiveMutex
import TurboCore.Registry.TimeoutScan
import TurboCore.Base.ConfigLoad
import TurboCore.Net.ScatterRead
import TurboCore.Net.WriteInterest
import TurboCore.Net.ActiveChannels
import TurboCore.Net.ActiveRuns
import TurboCore.Base.ThreadPoolShrink
import TurboCore.Foundation.PriorityQueue
import TurboCore.Net.DelayedTasks
import TurboCore.Foundation.Delimited
import TurboCore.Base.ConfigKeys
import TurboCore.Net.QuitRequest
import TurboCore.AiDist.FrameLengths
import TurboCore.DistTask.ResultHistory
import TurboCore.Registry.AssignedIds
import TurboCore.Foundation.FirstMatch
import TurboCore.Net.LineSearch
import TurboCore.Net.BufferWords
import TurboCore.Net.BufferIndices
import TurboCore.Net.LoopWakeups
import TurboCore.Foundation.FrameStream
import TurboCore.Foundation.Progress
import TurboCore.Net.OutputLedger
import TurboCore.Net.BufferMemory
import TurboCore.Net.InterestList
import TurboCore.Net.Polling
import TurboCore.Registry.Session
import TurboCore.Registry.SessionReplies
import TurboCore.Registry.SessionProgress
import TurboCore.Base.LoggerWakeup
import TurboCore.Net.SocketOwnership
import TurboCore.Foundation.RoundRobin
import TurboCore.Net.LoopBalance
import TurboCore.Base.ConfigSubscribers
import TurboCore.Base.ThreadPoolWakeup
import TurboCore.Foundation.Rollover
import TurboCore.Base.LogFiles
import TurboCore.DistTask.JobTable
