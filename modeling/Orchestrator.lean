import Orchestrator.AcceptedParameters
import Orchestrator.ActiveSlots
import Orchestrator.AllServed
import Orchestrator.Announcements
import Orchestrator.ArgumentVector
import Orchestrator.AutoscalerRounds
import Orchestrator.Cancellation
import Orchestrator.ClientFrames
import Orchestrator.CommandOptions
import Orchestrator.Config
import Orchestrator.ConfigPaths
import Orchestrator.Conservation
import Orchestrator.Deadlock
import Orchestrator.Effects
import Orchestrator.Endings
import Orchestrator.Entities
import Orchestrator.Flags
import Orchestrator.FrameReports
import Orchestrator.Frames
import Orchestrator.Hangs
import Orchestrator.Histories.Itinerary
import Orchestrator.InterArrivals
import Orchestrator.JobFlow
import Orchestrator.JobGeneration
import Orchestrator.JobLog
import Orchestrator.Jobs
import Orchestrator.JobsUpdate
import Orchestrator.Json.Document
import Orchestrator.Json.Fixed
import Orchestrator.Json.General
import Orchestrator.Json.Layout
import Orchestrator.Json.Token
import Orchestrator.Json.Value
import Orchestrator.Lifecycle
import Orchestrator.Linked.Spine
import Orchestrator.LinkedList
import Orchestrator.ListSearch
import Orchestrator.LiveJobs
import Orchestrator.Locking
import Orchestrator.Log.Agreement
import Orchestrator.Log.ConsoleHandler
import Orchestrator.Log.Events
import Orchestrator.Log.WebsocketHandler
import Orchestrator.LongIdle
import Orchestrator.Loops.While
import Orchestrator.LowLoad
import Orchestrator.Memory
import Orchestrator.Mongoose.Accessors
import Orchestrator.Mongoose.Bounds
import Orchestrator.Mongoose.Documents
import Orchestrator.Mongoose.Escapes
import Orchestrator.Mongoose.JsonGet
import Orchestrator.Mongoose.Lexemes
import Orchestrator.Mongoose.Lookup
import Orchestrator.OptionOrder
import Orchestrator.PaperFlow
import Orchestrator.Papers
import Orchestrator.PeakLength
import Orchestrator.Pool
import Orchestrator.PoolHistory
import Orchestrator.PoolMoves
import Orchestrator.PoolRoster
import Orchestrator.Pooling.Roster
import Orchestrator.Preprocessing
import Orchestrator.PrinterJoins
import Orchestrator.PrinterRecords
import Orchestrator.PrinterTotals
import Orchestrator.Printing.Buffer
import Orchestrator.Pthread.Alone
import Orchestrator.Pthread.Chronicle
import Orchestrator.Pthread.Control
import Orchestrator.Pthread.Joins
import Orchestrator.Pthread.LockOrder
import Orchestrator.Pthread.LockSet
import Orchestrator.Pthread.Monitor
import Orchestrator.Pthread.Peak
import Orchestrator.Pthread.Progress
import Orchestrator.Pthread.Quota
import Orchestrator.Pthread.Reach
import Orchestrator.Pthread.Sections
import Orchestrator.Pthread.Semantics
import Orchestrator.Pthread.Step
import Orchestrator.PublishedFrames
import Orchestrator.QueueArea
import Orchestrator.QueueBooks
import Orchestrator.QueueDiscipline
import Orchestrator.QueueLedger
import Orchestrator.QueueReplay
import Orchestrator.Queueing.Ledger
import Orchestrator.Queueing.Station
import Orchestrator.Queueing.Timecard
import Orchestrator.Ratios
import Orchestrator.RefillMonitor
import Orchestrator.RefillRequests
import Orchestrator.RefillWaits
import Orchestrator.RefillerWakeUps
import Orchestrator.ReportFields
import Orchestrator.ReportView
import Orchestrator.Reports
import Orchestrator.Restarts
import Orchestrator.Sampling.Moments
import Orchestrator.ScaleDown
import Orchestrator.ScaleUps
import Orchestrator.Server
import Orchestrator.ServerLocks
import Orchestrator.ServiceTimes
import Orchestrator.SharedMemory
import Orchestrator.SimulationStats
import Orchestrator.StartCommand
import Orchestrator.StatisticsBuffer
import Orchestrator.StatisticsReport
import Orchestrator.Steps
import Orchestrator.Stock.Depot
import Orchestrator.Stock.Desk
import Orchestrator.StopIntegral
import Orchestrator.StopLatency
import Orchestrator.Stranding
import Orchestrator.System
import Orchestrator.SystemTimes
import Orchestrator.Threads.Autoscaling
import Orchestrator.Threads.JobReceiver
import Orchestrator.Threads.Main
import Orchestrator.Threads.PaperRefiller
import Orchestrator.Threads.Printer
import Orchestrator.Threads.SignalCatcher
import Orchestrator.Timestamps
import Orchestrator.WaitingJobs
import Orchestrator.WakeUpTime
import Orchestrator.WakeUps
import Orchestrator.WsBridge
