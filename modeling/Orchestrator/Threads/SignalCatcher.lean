import Orchestrator.Memory

/-!
# The stop handler

`sig_int_catching_thread_func` of `signalcatcher.c`, and `request_stop_simulation` of `server.c`,
which makes the same calls in the same order.  The first is a thread that ends after one request;
the second runs in the server's event loop, which returns to `idle` and may be asked again.
-/

namespace Orchestrator

inductive StopPc where
  | idle
  | lockState
  | setFlags
  | lockStats
  | emitStopped
  | unlockStats
  | cancelReceiver
  | cancelRefiller
  | lockQueue
  | lockStatsDrain
  | drain
  | notifyPrinters
  | unlockStatsDrain
  | unlockQueue
  | lockRefill
  | notifyWaiting
  | notifyRefiller
  | unlockRefill
  | done
  deriving DecidableEq, Repr

abbrev StopInstr := Pthread.Instr Tid StopPc Mutex Cond PrinterThreadArgs Data

/-- One round of `empty_queue_if_terminating`: remove the front job, if there is one. -/
def emptyQueueRound (mode : LogMode) (d : Data) : Data :=
  match timedQueueDequeueFront d.jobQueue d.clock with
  | (some job, queue) =>
      (({ d with jobQueue := queue, dequeued := d.dequeued ++ [job] }).emit mode
        (.removedJob { job with queueDepartureTimeUs := d.clock })).modifyStats fun st =>
          { st with totalJobsRemoved := st.totalJobsRemoved + 1 }
  | (none, _) => d

/-- The code of the stop handler. -/
def stopCode (setup : Setup) : StopPc → StopInstr
  -- `sigwait`, or the event loop between two frames
  | .idle => .sleep .lockState
  | .lockState => .lock .simulationStateMutex .setFlags
  | .setFlags =>
      .unlock .simulationStateMutex
        (fun d => { d with gTerminateNow := true, allJobsArrived := true }) fun _ => .lockStats
  | .lockStats => .lock .statsMutex .emitStopped
  | .emitStopped =>
      .call (logMutex setup.mode) (fun d => d.emit setup.mode .simulationStopped)
        fun _ => .unlockStats
  | .unlockStats => .unlock .statsMutex id fun _ => .cancelReceiver
  | .cancelReceiver => .cancel (fun _ => some .receiver) .cancelRefiller
  | .cancelRefiller => .cancel (fun _ => some .refiller) .lockQueue
  | .lockQueue => .lock .jobQueueMutex .lockStatsDrain
  | .lockStatsDrain => .lock .statsMutex .drain
  | .drain =>
      .call (logMutex setup.mode) (emptyQueueRound setup.mode) fun d =>
        if timedQueueIsEmpty d.jobQueue then .notifyPrinters else .drain
  | .notifyPrinters => .broadcast .jobQueueNotEmptyCv .unlockStatsDrain
  | .unlockStatsDrain => .unlock .statsMutex id fun _ => .unlockQueue
  | .unlockQueue => .unlock .jobQueueMutex id fun _ => .lockRefill
  | .lockRefill => .lock .paperRefillQueueMutex .notifyWaiting
  | .notifyWaiting => .broadcast .refillNeededCv .notifyRefiller
  | .notifyRefiller => .broadcast .refillSupplierCv .unlockRefill
  | .unlockRefill => .unlock .paperRefillQueueMutex id fun _ => .done
  | .done =>
      match setup.mode with
      | .terminal => .exit
      | .server => .act id fun _ => .idle

end Orchestrator
