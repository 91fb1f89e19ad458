import Orchestrator.Log.WebsocketHandler
import Orchestrator.Log.ConsoleHandler
import Orchestrator.Pthread.Semantics

/-!
# The shared memory

Everything the threads read and write, with the names of the threads, mutexes and condition
variables.  The local variables of a thread are kept here too, next to what they are copied from
and to; no other thread reads them.

Two fields are history variables, which no code reads: `emitted` lists the log events so far,
newest first, and `dequeued` the jobs taken from the front of the job queue, oldest first.  Three
more are the environment's: the wall clock, the next result of `rand()` and the next result of
`pthread_create`.
-/

namespace Orchestrator

/-! ## Names -/

/-- The threads of a run.  `main` is `main` of the command line program or `simulation_runner` of
the server; `stopper` is the signal catching thread or the server's event loop. -/
inductive Tid where
  | main
  | stopper
  | receiver
  | refiller
  | autoscaler
  | printer (i : Slot)
  deriving DecidableEq, Repr

inductive Mutex where
  | poolMutex
  | jobQueueMutex
  | paperRefillQueueMutex
  | statsMutex
  | simulationStateMutex
  | wsMutex
  | serverStateMutex
  deriving DecidableEq, Repr

inductive Cond where
  | jobQueueNotEmptyCv
  | refillNeededCv
  | refillSupplierCv
  deriving DecidableEq, Repr

/-- The pointers of `printer_thread_args_t` to synchronisation objects. -/
structure PrinterThreadArgs where
  paperRefillQueueMutex : Mutex
  jobQueueMutex : Mutex
  statsMutex : Mutex
  simulationStateMutex : Mutex
  jobQueueNotEmptyCv : Cond
  refillNeededCv : Cond
  refillSupplierCv : Cond
  deriving DecidableEq, Repr

/-- `shared_printer_args`, which `main` and `simulation_runner` fill in. -/
def sharedPrinterArgs : PrinterThreadArgs where
  paperRefillQueueMutex := .paperRefillQueueMutex
  jobQueueMutex := .jobQueueMutex
  statsMutex := .statsMutex
  simulationStateMutex := .simulationStateMutex
  jobQueueNotEmptyCv := .jobQueueNotEmptyCv
  refillNeededCv := .refillNeededCv
  refillSupplierCv := .refillSupplierCv

/-- `shared_args`, which `scale_up` fills in.  `autoscaling_thread_args_t` has no refill queue
mutex, and the first field gets the job queue's. -/
def scaleUpSharedArgs : PrinterThreadArgs where
  paperRefillQueueMutex := .jobQueueMutex
  jobQueueMutex := .jobQueueMutex
  statsMutex := .statsMutex
  simulationStateMutex := .simulationStateMutex
  jobQueueNotEmptyCv := .jobQueueNotEmptyCv
  refillNeededCv := .refillNeededCv
  refillSupplierCv := .refillSupplierCv

/-- How the program was started, and the parameters of the run. -/
structure Setup where
  mode : LogMode
  params : SimulationParameters

/-! ## Local variables -/

structure ReceiverLocals where
  jobId : ℕ := 0
  job : Job := default
  terminateNow : Bool := false
  queueLength : ℕ := 0
  queueLastInteractionTimeUs : ULong := 0
  previousJobArrivalTimeUs : ULong := 0

structure PrinterLocals where
  terminate : Bool := false
  jobToDequeue : Job := default
  refillStartTimeUs : ULong := 0
  queueLastInteractionTimeUs : ULong := 0
  job : Job := default
  haveAllJobsArrived : Bool := false

structure RefillerLocals where
  terminateNow : Bool := false
  areAllJobsServed : Bool := false
  printer : Option Slot := none
  papersNeeded : Int := 0
  refillStartTimeUs : ULong := 0
  refillEndTimeUs : ULong := 0

structure AutoscalerLocals where
  terminate : Bool := false
  queueLength : ℕ := 0
  currentTimeUs : ULong := 0
  shouldScale : Bool := false
  newPrinterId : Int := 0
  scaleQueueLength : ℕ := 0
  scaleTimeUs : ULong := 0
  printerToRemove : Option Slot := none

/-! ## The memory -/

structure Data where
  clock : ULong
  rand : ℕ
  createOk : Bool
  gTerminateNow : Bool
  allJobsArrived : Bool
  allJobsServed : Bool
  jobQueue : TimedQueue
  paperRefillQueue : List Slot
  stats : SimulationStatistics
  pool : PrinterPool
  referenceTimeUs : ULong
  referenceEndTimeUs : ULong
  receiver : ReceiverLocals
  refiller : RefillerLocals
  printer : Slot → PrinterLocals
  autoscaler : AutoscalerLocals
  mainI : Int
  emitted : List Event
  dequeued : List Job

namespace Data

/-- Change the local variables of printer `i`. -/
def modifyLocals (d : Data) (i : Slot) (f : PrinterLocals → PrinterLocals) : Data :=
  { d with printer := Function.update d.printer i (f (d.printer i)) }

/-- Change the `printer_t` of slot `i`. -/
def modifyPrinter (d : Data) (i : Slot) (f : Printer → Printer) : Data :=
  { d with pool := d.pool.modifyPrinter i f }

def modifyReceiver (d : Data) (f : ReceiverLocals → ReceiverLocals) : Data :=
  { d with receiver := f d.receiver }

def modifyRefiller (d : Data) (f : RefillerLocals → RefillerLocals) : Data :=
  { d with refiller := f d.refiller }

def modifyAutoscaler (d : Data) (f : AutoscalerLocals → AutoscalerLocals) : Data :=
  { d with autoscaler := f d.autoscaler }

def modifyStats (d : Data) (f : SimulationStatistics → SimulationStatistics) : Data :=
  { d with stats := f d.stats }

/-- The `printer_t` in slot `i`. -/
def slot (d : Data) (i : Slot) : Printer := (d.pool.printers i).printer

/-- `set_log_mode`: the back end the router calls. -/
def logger : LogMode → LogOps
  | .terminal => consoleOps
  | .server => websocketOps

/-- `emit_*`: call the registered handler, if there is one.  The reference times are the static
variables of the back end's own file.  What the handler leaves in the job and the printer of the
call is what it found there (`handler_keeps`), so nothing is copied back. -/
def emit (mode : LogMode) (e : Event) (d : Data) : Data :=
  let h := ((logger mode e).getD outputOnly) d.clock
    ⟨d.stats, d.jobQueue, e.job, e.printer, d.referenceTimeUs, d.referenceEndTimeUs⟩
  { d with
    stats := h.stats
    jobQueue := h.jobQueue
    referenceTimeUs := h.referenceTimeUs
    referenceEndTimeUs := h.referenceEndTimeUs
    emitted := e :: d.emitted }

section Frame

variable (mode : LogMode) (e : Event) (d : Data) (i j : Slot)

@[simp] lemma emit_clock : (d.emit mode e).clock = d.clock := rfl
@[simp] lemma emit_gTerminateNow : (d.emit mode e).gTerminateNow = d.gTerminateNow := rfl
@[simp] lemma emit_allJobsArrived : (d.emit mode e).allJobsArrived = d.allJobsArrived := rfl
@[simp] lemma emit_allJobsServed : (d.emit mode e).allJobsServed = d.allJobsServed := rfl
@[simp] lemma emit_paperRefillQueue : (d.emit mode e).paperRefillQueue = d.paperRefillQueue := rfl
@[simp] lemma emit_pool : (d.emit mode e).pool = d.pool := rfl
@[simp] lemma emit_slot : (d.emit mode e).slot i = d.slot i := rfl
@[simp] lemma emit_receiver : (d.emit mode e).receiver = d.receiver := rfl
@[simp] lemma emit_refiller : (d.emit mode e).refiller = d.refiller := rfl
@[simp] lemma emit_printer : (d.emit mode e).printer = d.printer := rfl
@[simp] lemma emit_dequeued : (d.emit mode e).dequeued = d.dequeued := rfl

/-- No handler touches the jobs in the queue. -/
@[simp] lemma emit_jobQueue_list : (d.emit mode e).jobQueue.list = d.jobQueue.list := by
  cases mode <;> cases e <;> rfl

variable (f : PrinterLocals → PrinterLocals) (g : Printer → Printer)

@[simp] lemma modifyLocals_printer_self : (d.modifyLocals i f).printer i = f (d.printer i) := by
  simp [modifyLocals]

@[simp] lemma modifyLocals_slot : (d.modifyLocals i f).slot j = d.slot j := rfl
@[simp] lemma modifyPrinter_printer : (d.modifyPrinter i g).printer = d.printer := rfl

@[simp] lemma modifyPrinter_slot_self : (d.modifyPrinter i g).slot i = g (d.slot i) := by
  simp [modifyPrinter, slot, PrinterPool.modifyPrinter]

variable {i j}

lemma modifyPrinter_slot_of_ne (h : j ≠ i) : (d.modifyPrinter i g).slot j = d.slot j := by
  simp [modifyPrinter, slot, PrinterPool.modifyPrinter, h]

end Frame

end Data

/-- The mutex a log call takes and releases inside: the WebSocket back end reads the connection id
under `g_ws_mutex`.  The console handlers hold the lock of `stdout` (`flockfile`) around their
`printf` calls, which are cancellation points.  That lock is not modelled: a thread cancelled inside
such a call keeps it, and every later handler of the command line program waits for it. -/
def logMutex : LogMode → Option Mutex
  | .terminal => none
  | .server => some .wsMutex

/-- What the environment may do between two steps. -/
inductive Env where
  | tick (t : ULong)
  | rand (r : ℕ)
  | createResult (ok : Bool)
  deriving DecidableEq, Repr

/-- The clock never goes back. -/
def Env.apply : Env → Data → Data
  | .tick t, d => { d with clock := if d.clock ≤ t then t else d.clock }
  | .rand r, d => { d with rand := r }
  | .createResult ok, d => { d with createOk := ok }

end Orchestrator
