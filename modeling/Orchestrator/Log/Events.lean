import Orchestrator.Entities

/-!
# Log events

`include/log_router.h` routes every report of the simulation through one table of function
pointers, `log_ops_t`.  An `Event` is a call of one entry with its arguments, and a back end is a
function from events to handlers, with `none` for an entry that is `NULL`.

The texts a handler prints or publishes are not modelled here, only what it does to memory.  It may
write through its arguments, to the statistics, the queue, a job and a printer, and to the two
static reference times of its file.
-/

namespace Orchestrator

/-- A call of an `emit_*` function. -/
inductive Event where
  | simulationParameters (params : SimulationParameters)
  | simulationStart
  | simulationEnd
  | systemArrival (job : Job) (previousJobArrivalTimeUs : ULong)
  | droppedJob (job : Job) (previousJobArrivalTimeUs : ULong)
  | removedJob (job : Job)
  | queueArrival (job : Job) (lastInteractionTimeUs : ULong)
  | queueDeparture (job : Job) (lastInteractionTimeUs : ULong)
  | jobUpdate (job : Job)
  | jobsUpdate
  | printerArrival (job : Job) (printer : Printer)
  | systemDeparture (job : Job) (printer : Printer)
  | paperEmpty (printer : Printer) (jobId : ℕ) (currentTimeUs : ULong)
  | paperRefillStart (printer : Printer) (papersNeeded timeToRefillUs : Int)
      (currentTimeUs : ULong)
  | paperRefillEnd (printer : Printer) (refillDurationUs : Int) (currentTimeUs : ULong)
  | scaleUp (newPrinterCount : Int) (queueLength : ℕ) (currentTimeUs : ULong)
  | scaleDown (newPrinterCount : Int) (queueLength : ℕ) (currentTimeUs : ULong)
  | printerIdle (printer : Printer)
  | printerBusy (printer : Printer) (jobId : ℕ)
  | printerWaitingRefill (printer : Printer)
  | statsUpdate (queueLength : ℕ)
  | simulationStopped
  | statistics

/-- The job an argument of the call points to. -/
def Event.job : Event → Job
  | .systemArrival job _ | .droppedJob job _ | .removedJob job | .queueArrival job _
  | .queueDeparture job _ | .jobUpdate job | .printerArrival job _ | .systemDeparture job _ => job
  | _ => default

/-- The printer an argument of the call points to. -/
def Event.printer : Event → Printer
  | .printerArrival _ printer | .systemDeparture _ printer | .paperEmpty printer _ _
  | .paperRefillStart printer _ _ _ | .paperRefillEnd printer _ _ | .printerIdle printer
  | .printerBusy printer _ | .printerWaitingRefill printer => printer
  | _ => default

/-- What the handlers of a file can write to: what the arguments of the call point to, and the
file's own static variables. -/
structure HandlerState where
  stats : SimulationStatistics
  jobQueue : TimedQueue
  job : Job
  printer : Printer
  referenceTimeUs : ULong
  referenceEndTimeUs : ULong

/-- A handler, given what `get_time_in_us` returns while it runs. -/
abbrev Handler := ULong → HandlerState → HandlerState

/-- A handler that only prints or publishes. -/
def outputOnly : Handler := fun _ h => h

/-- A registered back end. -/
abbrev LogOps := Event → Option Handler

/-- `log_mode`. -/
inductive LogMode where
  | terminal
  | server
  deriving DecidableEq, Repr

end Orchestrator
