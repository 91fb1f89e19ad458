import Orchestrator.Config

/-!
# Jobs, printers, queues and statistics

The records the threads share.  A `job_t*` is passed from the receiver through the queue to one
printer and only its current holder writes to it, so the model hands the record over by value.  This
is exact but for one reader: a printer that waits for paper keeps a pointer to the job it looked at
and reads `papers_required` again after every wake-up, although another thread may have taken the
job out of the queue and freed it (`SparesExamined` says when none does).  Memory allocation is
taken to succeed, as the receiver takes it to when it ignores the result of `timed_queue_enqueue`.

Counters of type `int` are taken not to overflow: `totalPapersUsed` of a printer, and
`printerPaperUsed` and `papersRefilled` of the statistics.
-/

namespace Orchestrator

/-! ## Jobs -/

/-- `job_t`. -/
structure Job where
  id : ℕ
  interArrivalTimeUs : Int
  papersRequired : Int
  serviceTimeRequestedMs : Int
  systemArrivalTimeUs : ULong
  queueArrivalTimeUs : ULong
  queueDepartureTimeUs : ULong
  serviceArrivalTimeUs : ULong
  serviceDepartureTimeUs : ULong
  deriving DecidableEq, Repr, Inhabited

/-- `init_job`. -/
def initJob (jobId : ℕ) (interArrivalTimeUs papersRequired : Int) : Job where
  id := jobId
  interArrivalTimeUs := interArrivalTimeUs
  papersRequired := papersRequired
  serviceTimeRequestedMs := 0
  systemArrivalTimeUs := 0
  queueArrivalTimeUs := 0
  queueDepartureTimeUs := 0
  serviceArrivalTimeUs := 0
  serviceDepartureTimeUs := 0

/-- `random_between`, on the value `rand()` returned.  The C remainder truncates. -/
def randomBetween (rand : ℕ) (lower upper : Int) : Int :=
  (rand : Int).tmod (upper - lower + 1) + lower

/-! ## The timed queue -/

/-- `timed_queue_t`, with its linked list as the sequence of jobs it holds, front first. -/
structure TimedQueue where
  list : List Job
  lastInteractionTimeUs : ULong

/-- `timed_queue_length`. -/
def timedQueueLength (tq : TimedQueue) : ℕ := tq.list.length

/-- `timed_queue_is_empty`. -/
def timedQueueIsEmpty (tq : TimedQueue) : Bool := tq.list.isEmpty

/-- `timed_queue_enqueue` at clock reading `now`. -/
def timedQueueEnqueue (tq : TimedQueue) (now : ULong) (job : Job) : TimedQueue :=
  { list := tq.list ++ [job], lastInteractionTimeUs := now }

/-- `timed_queue_first`. -/
def timedQueueFirst (tq : TimedQueue) : Option Job := tq.list.head?

/-- `timed_queue_dequeue_front` at clock reading `now`. -/
def timedQueueDequeueFront (tq : TimedQueue) (now : ULong) : Option Job × TimedQueue :=
  match tq.list with
  | [] => (none, tq)
  | job :: rest => (some job, { list := rest, lastInteractionTimeUs := now })

/-! ## Printers and the printer pool -/

/-- `printer_t`. -/
structure Printer where
  id : ℕ
  currentPaperCount : Int
  totalPapersUsed : Int
  capacity : Int
  jobsPrintedCount : ℕ
  lastJobCompletionTimeUs : ULong
  isIdle : Bool
  deriving Inhabited

/-- `printer_instance_t`, less its thread and argument struct, which belong to the control state. -/
structure PrinterInstance where
  printer : Printer
  active : Bool

/-- `printer_pool_t`. -/
structure PrinterPool where
  printers : Slot → PrinterInstance
  activeCount : Int
  minCount : Int
  lastScaleTimeUs : ULong
  lowQueueStartTimeUs : ULong

/-- `printer_pool_init`. -/
def printerPoolInit (minPrinters paperCapacity : Int) : PrinterPool where
  printers i :=
    { printer :=
        { id := i + 1
          currentPaperCount := paperCapacity
          totalPapersUsed := 0
          capacity := paperCapacity
          jobsPrintedCount := 0
          lastJobCompletionTimeUs := 0
          isIdle := true }
      active := false }
  activeCount := 0
  minCount := minPrinters
  lastScaleTimeUs := 0
  lowQueueStartTimeUs := 0

/-- Change the printer in slot `i`. -/
def PrinterPool.modifyPrinter (pool : PrinterPool) (i : Slot) (f : Printer → Printer) :
    PrinterPool :=
  { pool with
    printers := Function.update pool.printers i
      { pool.printers i with printer := f (pool.printers i).printer } }

/-- Set the `active` flag of slot `i`. -/
def PrinterPool.setActive (pool : PrinterPool) (i : Slot) (b : Bool) : PrinterPool :=
  { pool with printers := Function.update pool.printers i { pool.printers i with active := b } }

lemma setActive_printer (pool : PrinterPool) (i j : Slot) (b : Bool) :
    ((pool.setActive i b).printers j).printer = (pool.printers j).printer := by
  by_cases hj : j = i
  · subst hj
    simp [PrinterPool.setActive]
  · simp [PrinterPool.setActive, hj]

lemma setActive_active (pool : PrinterPool) (i j : Slot) (b : Bool) :
    ((pool.setActive i b).printers j).active = if j = i then b else (pool.printers j).active := by
  by_cases hj : j = i
  · subst hj
    simp [PrinterPool.setActive]
  · simp [PrinterPool.setActive, hj]

/-! ## Statistics -/

/-- `simulation_statistics_t`.  The counters the code keeps as `double` are natural numbers. -/
structure SimulationStatistics where
  simulationStartTimeUs : ULong
  simulationDurationUs : ULong
  totalJobsArrived : ℕ
  totalJobsServed : ℕ
  totalJobsDropped : ℕ
  totalJobsRemoved : ℕ
  totalInterArrivalTimeUs : ULong
  totalSystemTimeUs : ULong
  sumOfSystemTimeSquaredUs2 : Int
  totalQueueWaitTimeUs : ULong
  areaNumInJobQueueUs : ULong
  maxJobQueueLength : ℕ
  jobsServedByPrinter : Slot → ℕ
  printerPaperUsed : Slot → Int
  totalServiceTimePrinterUs : Slot → ULong
  printerPaperEmptyTimeUs : Slot → ULong
  maxPrintersUsed : ℕ
  paperRefillEvents : ℕ
  totalRefillServiceTimeUs : ULong
  papersRefilled : Int

/-- `(simulation_statistics_t){0}`. -/
def SimulationStatistics.zero : SimulationStatistics where
  simulationStartTimeUs := 0
  simulationDurationUs := 0
  totalJobsArrived := 0
  totalJobsServed := 0
  totalJobsDropped := 0
  totalJobsRemoved := 0
  totalInterArrivalTimeUs := 0
  totalSystemTimeUs := 0
  sumOfSystemTimeSquaredUs2 := 0
  totalQueueWaitTimeUs := 0
  areaNumInJobQueueUs := 0
  maxJobQueueLength := 0
  jobsServedByPrinter _ := 0
  printerPaperUsed _ := 0
  totalServiceTimePrinterUs _ := 0
  printerPaperEmptyTimeUs _ := 0
  maxPrintersUsed := 0
  paperRefillEvents := 0
  totalRefillServiceTimeUs := 0
  papersRefilled := 0

end Orchestrator
