import Orchestrator.Json.Fixed
import Orchestrator.Log.Events
import Orchestrator.SimulationStats

/-!
# The frames of the server

What the handlers of `websocket_handler.c` print into `buf` and send: each frame is one `sprintf`.
The frames of `publish_jobs_update` and `publish_statistics` take more than one call and are not
among them.

* `logFrame` — the frame that most events send, with a time stamp and a message.
* `Event.frames` — the frames of an event.
-/

namespace Orchestrator

open Json

/-! ## `sprintf` -/

/-- A number as the argument of a `%d`, which is an `int`. -/
def asInt (n : Int) : Int := (BitVec.ofInt 32 n).toInt

/-- A part of a format string with its argument. -/
inductive Chunk
  | lit (s : String)
  /-- `%d` -/
  | int (n : Int)
  /-- `%.pf` -/
  | fixed (p : ℕ) (x : Double)

/-- The text of a part. -/
def Chunk.text : Chunk → List Char
  | .lit s => s.toList
  | .int n => decimal (asInt n)
  | .fixed p (.num q) => (Numeral.fixed p q).text
  | .fixed _ .nan => "nan".toList

/-- What `sprintf` writes before the terminator. -/
def chunksText (cs : List Chunk) : List Char := cs.flatMap Chunk.text

/-- A frame: the size of `buf` and the format with its arguments. -/
structure SentFrame where
  bufSize : ℕ
  chunks : List Chunk

/-- The text of a frame. -/
def SentFrame.text (f : SentFrame) : List Char := chunksText f.chunks

/-- `x / 1000.0` of an `unsigned long`, with `%.3f`. -/
def msOfULong (x : ULong) : Chunk := .fixed 3 ((Double.ofNat x.toNat).div (.num 1000))

/-- `n / 1000.0` of an `int`, with `%.3f`. -/
def msOfInt (n : Int) : Chunk := .fixed 3 ((Double.ofInt (asInt n)).div (.num 1000))

/-! ## The log frames -/

/-- A log frame with its time stamp and its message. -/
def logFrame (timestamp : Chunk) (message : List Chunk) : SentFrame where
  bufSize := 1024
  chunks :=
    .lit "\x7b\"type\":\"log\", \"data\":\x7b\"timestamp\":" :: timestamp ::
      .lit ", \"message\":\"" :: (message ++ [.lit "\"\x7d\x7d"])

/-- The message of `job_arrival_helper`. -/
def jobArrivalMessage (jobId : ℕ) (papersRequired : Int)
    (previousJobArrivalTimeUs currentJobArrivalTimeUs : ULong) (isDropped : Bool) : List Chunk :=
  let interArrivalTimeUs := intOfULong (currentJobArrivalTimeUs - previousJobArrivalTimeUs)
  [.lit "job", .int jobId, .lit " arrives, needs ", .int papersRequired, .lit " paper",
    .lit (if papersRequired = 1 then "" else "s"), .lit ", inter-arrival time = ",
    msOfInt interArrivalTimeUs, .lit "ms", .lit (if isDropped then ", dropped" else "")]

/-- The message of `publish_removed_job`. -/
def removedJobMessage (job : Job) : List Chunk :=
  [.lit "job", .int job.id, .lit " removed from system"]

/-- The message of `publish_queue_arrival`. -/
def queueArrivalMessage (job : Job) (jobQueue : TimedQueue) : List Chunk :=
  [.lit "job", .int job.id, .lit " enters queue, queue length = ", .int (timedQueueLength jobQueue)]

/-- The message of `publish_queue_departure`. -/
def queueDepartureMessage (job : Job) (jobQueue : TimedQueue) : List Chunk :=
  [.lit "job", .int job.id, .lit " leaves queue, time in queue = ",
    msOfULong (job.queueDepartureTimeUs - job.queueArrivalTimeUs), .lit "ms, queue_length = ",
    .int (timedQueueLength jobQueue)]

/-- The message of `publish_printer_arrival`. -/
def printerArrivalMessage (job : Job) (printer : Printer) : List Chunk :=
  [.lit "job", .int job.id, .lit " begins service at printer", .int printer.id, .lit ", printing ",
    .int job.papersRequired, .lit " pages in about ", .int job.serviceTimeRequestedMs, .lit "ms"]

/-- The message of `publish_system_departure`. -/
def systemDepartureMessage (job : Job) (printer : Printer) : List Chunk :=
  let serviceDuration := intOfULong (job.serviceDepartureTimeUs - job.serviceArrivalTimeUs)
  [.lit "job", .int job.id, .lit " departs from printer", .int printer.id,
    .lit ", service time = ", msOfInt serviceDuration, .lit "ms"]

/-- The message of `publish_paper_empty`. -/
def paperEmptyMessage (printer : Printer) (jobId : ℕ) : List Chunk :=
  [.lit "printer", .int printer.id, .lit " does not have enough paper for job", .int jobId,
    .lit " and is requesting refill"]

/-- The message of `publish_paper_refill_start`. -/
def paperRefillStartMessage (printer : Printer) (papersNeeded timeToRefillUs : Int) :
    List Chunk :=
  [.lit "printer", .int printer.id, .lit " starts refilling ", .int papersNeeded,
    .lit " papers, estimated time = ", msOfInt timeToRefillUs, .lit "ms"]

/-- The message of `publish_paper_refill_end`. -/
def paperRefillEndMessage (printer : Printer) (refillDurationUs : Int) : List Chunk :=
  [.lit "printer", .int printer.id, .lit " finishes refilling, actual time = ",
    msOfInt refillDurationUs, .lit "ms"]

/-- The message of `publish_scale_up`. -/
def scaleUpMessage (newPrinterCount : Int) (queueLength : ℕ) : List Chunk :=
  [.lit "Autoscaling: Scaled UP to ", .int newPrinterCount, .lit " printers (queue length: ",
    .int queueLength, .lit ")"]

/-- The message of `publish_scale_down`. -/
def scaleDownMessage (newPrinterCount : Int) (queueLength : ℕ) : List Chunk :=
  [.lit "Autoscaling: Scaled DOWN to ", .int newPrinterCount, .lit " printers (queue length: ",
    .int queueLength, .lit ")"]

/-! ## The other frames -/

/-- The first frame of `publish_simulation_start`. -/
def simulationStartedFrame : SentFrame where
  bufSize := 1024
  chunks := [.lit "\x7b\"type\":\"simulation_started\", \"data\":\x7b\"timestamp\":0\x7d\x7d"]

/-- The second frame of `publish_simulation_end`. -/
def simulationCompleteFrame (durationUs : ULong) : SentFrame where
  bufSize := 1024
  chunks :=
    [.lit "\x7b\"type\":\"simulation_complete\", \"data\":\x7b\"duration\":", msOfULong durationUs,
      .lit "\x7d\x7d"]

/-- The frame of `publish_job_update`. -/
def jobUpdateFrame (job : Job) : SentFrame where
  bufSize := 512
  chunks :=
    [.lit "\x7b\"type\":\"job_update\", \"data\":\x7b\"id\":", .int job.id,
      .lit ", \"papersRequired\":", .int job.papersRequired, .lit "\x7d\x7d"]

/-- The frame of `publish_printer_idle`. -/
def printerIdleFrame (printer : Printer) : SentFrame where
  bufSize := 1024
  chunks :=
    [.lit "\x7b\"type\":\"consumer_update\", \"data\":\x7b\"id\":", .int printer.id,
      .lit ", \"papersLeft\":", .int printer.currentPaperCount,
      .lit ", \"status\":\"idle\", \"currentJobId\":null\x7d\x7d"]

/-- The frame of `publish_printer_busy`. -/
def printerBusyFrame (printer : Printer) (jobId : ℕ) : SentFrame where
  bufSize := 1024
  chunks :=
    [.lit "\x7b\"type\":\"consumer_update\", \"data\":\x7b\"id\":", .int printer.id,
      .lit ", \"papersLeft\":", .int printer.currentPaperCount,
      .lit ", \"status\":\"serving\", \"currentJobId\":", .int jobId, .lit "\x7d\x7d"]

/-- The frame of `publish_printer_waiting_refill`. -/
def printerWaitingRefillFrame (printer : Printer) : SentFrame where
  bufSize := 1024
  chunks :=
    [.lit "\x7b\"type\":\"consumer_update\", \"data\":\x7b\"id\":", .int printer.id,
      .lit ", \"papersLeft\":", .int printer.currentPaperCount,
      .lit ", \"status\":\"waiting_refill\", \"currentJobId\":null\x7d\x7d"]

/-- The frame of `publish_stats_update`. -/
def statsUpdateFrame (stats : SimulationStatistics) (queueLength : ℕ) : SentFrame where
  bufSize := 1024
  chunks :=
    [.lit "\x7b\"type\":\"stats_update\", \"data\":\x7b\"jobsProcessed\":",
      .fixed 0 (.ofNat stats.totalJobsServed), .lit ", \"jobsReceived\":",
      .fixed 0 (.ofNat stats.totalJobsArrived), .lit ", \"queueLength\":", .int queueLength,
      .lit ", \"avgCompletionTime\":", .fixed 2 (calculateAverageSystemTime stats),
      .lit ", \"papersUsed\":", .int (calculateTotalPapersUsed stats),
      .lit ", \"refillEvents\":", .fixed 0 (.ofNat stats.paperRefillEvents),
      .lit ", \"avgServiceTime\":", .fixed 2 (calculateOverallAverageServiceTime stats),
      .lit "\x7d\x7d"]

/-! ## The frames of an event -/

/-- The frames of an event, from the state the handler finds and the time it reads. -/
def Event.frames (now : ULong) (h : HandlerState) : Event → List SentFrame
  | .simulationStart =>
      [simulationStartedFrame, logFrame (.lit "0") [.lit "simulation begins"]]
  | .simulationEnd =>
      [logFrame (msOfULong (now - h.referenceTimeUs))
          [.lit "simulation ends, duration = ", msOfULong (now - h.referenceTimeUs), .lit "ms"],
        simulationCompleteFrame (now - h.referenceTimeUs)]
  | .systemArrival job previous =>
      [logFrame (msOfULong (job.systemArrivalTimeUs - h.referenceTimeUs))
        (jobArrivalMessage job.id job.papersRequired previous job.systemArrivalTimeUs false)]
  | .droppedJob job previous =>
      [logFrame (msOfULong (job.systemArrivalTimeUs - h.referenceTimeUs))
        (jobArrivalMessage job.id job.papersRequired previous job.systemArrivalTimeUs true)]
  | .removedJob job =>
      [logFrame (msOfULong (now - h.referenceTimeUs)) (removedJobMessage job)]
  | .queueArrival job _ =>
      [logFrame (msOfULong (job.queueArrivalTimeUs - h.referenceTimeUs))
        (queueArrivalMessage job h.jobQueue)]
  | .queueDeparture job _ =>
      [logFrame (msOfULong (job.queueDepartureTimeUs - h.referenceTimeUs))
        (queueDepartureMessage job h.jobQueue)]
  | .jobUpdate job => [jobUpdateFrame job]
  | .printerArrival job printer =>
      [logFrame (msOfULong (job.serviceArrivalTimeUs - h.referenceTimeUs))
        (printerArrivalMessage job printer)]
  | .systemDeparture job printer =>
      [logFrame (msOfULong (job.serviceDepartureTimeUs - h.referenceTimeUs))
        (systemDepartureMessage job printer)]
  | .paperEmpty printer jobId currentTimeUs =>
      [logFrame (msOfULong (currentTimeUs - h.referenceTimeUs)) (paperEmptyMessage printer jobId)]
  | .paperRefillStart printer papersNeeded timeToRefillUs currentTimeUs =>
      [logFrame (msOfULong (currentTimeUs - h.referenceTimeUs))
        (paperRefillStartMessage printer papersNeeded timeToRefillUs)]
  | .paperRefillEnd printer refillDurationUs currentTimeUs =>
      [logFrame (msOfULong (currentTimeUs - h.referenceTimeUs))
        (paperRefillEndMessage printer refillDurationUs)]
  | .scaleUp newPrinterCount queueLength currentTimeUs =>
      [logFrame (msOfULong (currentTimeUs - h.referenceTimeUs))
        (scaleUpMessage newPrinterCount queueLength)]
  | .scaleDown newPrinterCount queueLength currentTimeUs =>
      [logFrame (msOfULong (currentTimeUs - h.referenceTimeUs))
        (scaleDownMessage newPrinterCount queueLength)]
  | .printerIdle printer => [printerIdleFrame printer]
  | .printerBusy printer jobId => [printerBusyFrame printer jobId]
  | .printerWaitingRefill printer => [printerWaitingRefillFrame printer]
  | .statsUpdate queueLength => [statsUpdateFrame h.stats queueLength]
  | .simulationStopped =>
      [logFrame (msOfULong (now - h.referenceTimeUs))
        [.lit "simulation stopped, duration = ", msOfULong (now - h.referenceTimeUs), .lit "ms"]]
  | .simulationParameters _ | .jobsUpdate | .statistics => []

end Orchestrator
