import Orchestrator.Memory

/-!
# The printer threads

`printer_thread_func` of `printer.c`, one program counter for each statement that another thread
can observe.  Names follow the source; where it locks the same mutex in several places the counters
say which one.
-/

namespace Orchestrator

inductive PrinterPc where
  -- looking for work
  | lockState
  | readTerminate
  | lockQueue
  | checkQueue
  | exitUnlockQueue
  | waitJob
  | waitUnlockQueue
  -- the job at the front needs more paper than there is
  | checkPaper
  | noPaperUnlockQueue
  | lockRefill
  | emitPaperEmpty
  | appendRequest
  | notifyRefiller
  | checkRefilled
  | waitPaper
  | lockStateInWait
  | readTerminateInWait
  | abortUnlockRefill
  | refilledUnlockRefill
  | emitRefilled
  | lockStatsEmpty
  | recordEmptyTime
  -- take the job and print it
  | dequeue
  | emitQueueDeparture
  | unlockQueue
  | emitArrival
  | markBusy
  | emitBusy
  | service
  | usePaper
  | markIdle
  | emitIdle
  | lockStats
  | emitDeparture
  | emitStats
  | unlockStats
  | lockStateDone
  | readArrived
  | lockQueueDone
  | checkDone
  | nextUnlockQueue
  -- exit_printer
  | exitLockState
  | exitSetServed
  | exitLockRefill
  | exitNotifyRefiller
  | exitNotifyPrinters
  | exitUnlockRefill
  | exitCancelRefiller
  | exit
  deriving DecidableEq, Repr

abbrev PrinterInstr := Pthread.Instr Tid PrinterPc Mutex Cond PrinterThreadArgs Data

/-- The `is_exit_condition_met` of `printer.c`. -/
def isPrinterExitConditionMet (allJobsArrived : Bool) (jobQueue : TimedQueue) : Bool :=
  allJobsArrived && timedQueueIsEmpty jobQueue

/-- `job->papers_required > printer->current_paper_count`, for the job the printer looks at. -/
def lacksPaper (d : Data) (i : Slot) : Bool :=
  (d.slot i).currentPaperCount < (d.printer i).jobToDequeue.papersRequired

namespace Printer

/-- Copy the front job of the queue to `job_to_dequeue`.  The code keeps a pointer and reads the job
again in the refill wait, by when another thread may have freed it: the copy is exact in the runs
that meet `SparesExamined`. -/
def lookAtFront (i : Slot) (d : Data) : Data :=
  d.modifyLocals i fun l =>
    { l with jobToDequeue := (timedQueueFirst d.jobQueue).getD default }

/-- `timed_queue_dequeue_front`, after the queue's time stamp was saved. -/
def takeJob (i : Slot) (d : Data) : Data :=
  let front := timedQueueDequeueFront d.jobQueue d.clock
  { d.modifyLocals i fun l =>
      { l with
        queueLastInteractionTimeUs := d.jobQueue.lastInteractionTimeUs
        job := front.1.getD default } with
    jobQueue := front.2
    dequeued := d.dequeued ++ front.1.toList }

/-- The departure from the queue, stamped and reported. -/
def leaveQueue (mode : LogMode) (i : Slot) (d : Data) : Data :=
  let d := d.modifyLocals i fun l =>
    { l with job := { l.job with queueDepartureTimeUs := d.clock } }
  ((d.emit mode (.queueDeparture (d.printer i).job (d.printer i).queueLastInteractionTimeUs)).emit
    mode .jobsUpdate).emit mode (.statsUpdate (timedQueueLength d.jobQueue))

/-- The service time of the job, its arrival at the printer and the report of it. -/
def arriveAtPrinter (setup : Setup) (i : Slot) (d : Data) : Data :=
  let d := d.modifyLocals i fun l =>
    { l with
      job :=
        { l.job with
          serviceTimeRequestedMs :=
            (((Double.ofInt l.job.papersRequired).div setup.params.printingRate).mul
              (.ofInt 1000)).toInt
          serviceArrivalTimeUs := d.clock } }
  d.emit setup.mode (.printerArrival (d.printer i).job (d.slot i))

/-- `current_paper_count -= papers_required; total_papers_used += papers_required`. -/
def usePaper (i : Slot) (d : Data) : Data :=
  d.modifyPrinter i fun p =>
    { p with
      currentPaperCount := p.currentPaperCount - (d.printer i).job.papersRequired
      totalPapersUsed := p.totalPapersUsed + (d.printer i).job.papersRequired }

/-- The departure time of the job, the printer's completion time and its idle flag. -/
def markIdle (i : Slot) (d : Data) : Data :=
  (d.modifyLocals i fun l => { l with job := { l.job with serviceDepartureTimeUs := d.clock } }
    ).modifyPrinter i fun p => { p with lastJobCompletionTimeUs := d.clock, isIdle := true }

/-- The departure of the job from the system. -/
def departSystem (mode : LogMode) (i : Slot) (d : Data) : Data :=
  let d := d.modifyPrinter i fun p => { p with jobsPrintedCount := p.jobsPrintedCount + 1 }
  d.emit mode (.systemDeparture (d.printer i).job (d.slot i))

/-- Add the time without paper to the printer's statistics. -/
def recordEmptyTime (i : Slot) (d : Data) : Data :=
  match slotOfIndex (((d.slot i).id : Int) - 1) with
  | some idx => d.modifyStats fun st =>
      { st with
        printerPaperEmptyTimeUs :=
          Function.update st.printerPaperEmptyTimeUs idx
            (st.printerPaperEmptyTimeUs idx +
              ulongOfInt (intOfULong (d.clock - (d.printer i).refillStartTimeUs))) }
  | none => d

end Printer

open Printer in
/-- `printer_thread_func` of the printer in slot `i`. -/
def printerCode (setup : Setup) (i : Slot) (args : PrinterThreadArgs) : PrinterPc → PrinterInstr
  | .lockState => .lock args.simulationStateMutex .readTerminate
  | .readTerminate =>
      .unlock args.simulationStateMutex
        (fun d => d.modifyLocals i fun l => { l with terminate := d.gTerminateNow })
        fun _ => .lockQueue
  | .lockQueue => .lock args.jobQueueMutex .checkQueue
  | .checkQueue =>
      .act id fun d =>
        if (d.printer i).terminate || isPrinterExitConditionMet d.allJobsArrived d.jobQueue then
          .exitUnlockQueue
        else if timedQueueIsEmpty d.jobQueue then .waitJob
        else .checkPaper
  | .exitUnlockQueue => .unlock args.jobQueueMutex id fun _ => .exitLockState
  | .waitJob => .wait args.jobQueueNotEmptyCv args.jobQueueMutex .waitUnlockQueue
  | .waitUnlockQueue => .unlock args.jobQueueMutex id fun _ => .lockState
  | .checkPaper =>
      .act (lookAtFront i) fun d => if lacksPaper d i then .noPaperUnlockQueue else .dequeue
  | .noPaperUnlockQueue => .unlock args.jobQueueMutex id fun _ => .lockRefill
  | .lockRefill => .lock args.paperRefillQueueMutex .emitPaperEmpty
  | .emitPaperEmpty =>
      .call (logMutex setup.mode)
        (fun d =>
          let d := d.modifyLocals i fun l => { l with refillStartTimeUs := d.clock }
          (d.emit setup.mode
            (.paperEmpty (d.slot i) (d.printer i).jobToDequeue.id d.clock)).emit
            setup.mode (.printerWaitingRefill (d.slot i)))
        fun _ => .appendRequest
  | .appendRequest =>
      .act (fun d => { d with paperRefillQueue := d.paperRefillQueue ++ [i] })
        fun _ => .notifyRefiller
  | .notifyRefiller => .broadcast args.refillSupplierCv .checkRefilled
  | .checkRefilled =>
      .act id fun d => if lacksPaper d i then .waitPaper else .refilledUnlockRefill
  | .waitPaper => .wait args.refillNeededCv args.paperRefillQueueMutex .lockStateInWait
  | .lockStateInWait => .lock args.simulationStateMutex .readTerminateInWait
  | .readTerminateInWait =>
      .unlock args.simulationStateMutex
        (fun d => d.modifyLocals i fun l => { l with terminate := d.gTerminateNow })
        fun d => if (d.printer i).terminate then .abortUnlockRefill else .checkRefilled
  | .abortUnlockRefill => .unlock args.paperRefillQueueMutex id fun _ => .exitLockState
  | .refilledUnlockRefill => .unlock args.paperRefillQueueMutex id fun _ => .emitRefilled
  | .emitRefilled =>
      .call (logMutex setup.mode) (fun d => d.emit setup.mode (.printerIdle (d.slot i)))
        fun _ => .lockStatsEmpty
  | .lockStatsEmpty => .lock args.statsMutex .recordEmptyTime
  | .recordEmptyTime => .unlock args.statsMutex (recordEmptyTime i) fun _ => .lockState
  | .dequeue => .act (takeJob i) fun _ => .emitQueueDeparture
  | .emitQueueDeparture =>
      .call (logMutex setup.mode) (leaveQueue setup.mode i) fun _ => .unlockQueue
  | .unlockQueue => .unlock args.jobQueueMutex id fun _ => .emitArrival
  | .emitArrival =>
      .call (logMutex setup.mode) (arriveAtPrinter setup i) fun _ => .markBusy
  | .markBusy =>
      .act (fun d => d.modifyPrinter i fun p => { p with isIdle := false }) fun _ => .emitBusy
  | .emitBusy =>
      .call (logMutex setup.mode)
        (fun d => d.emit setup.mode (.printerBusy (d.slot i) (d.printer i).job.id))
        fun _ => .service
  | .service => .sleep .usePaper
  | .usePaper => .act (usePaper i) fun _ => .markIdle
  | .markIdle => .act (markIdle i) fun _ => .emitIdle
  | .emitIdle =>
      .call (logMutex setup.mode) (fun d => d.emit setup.mode (.printerIdle (d.slot i)))
        fun _ => .lockStats
  | .lockStats => .lock args.statsMutex .emitDeparture
  | .emitDeparture => .call (logMutex setup.mode) (departSystem setup.mode i) fun _ => .emitStats
  | .emitStats =>
      .call (logMutex setup.mode)
        (fun d => d.emit setup.mode (.statsUpdate (timedQueueLength d.jobQueue)))
        fun _ => .unlockStats
  | .unlockStats => .unlock args.statsMutex id fun _ => .lockStateDone
  | .lockStateDone => .lock args.simulationStateMutex .readArrived
  | .readArrived =>
      .unlock args.simulationStateMutex
        (fun d => d.modifyLocals i fun l => { l with haveAllJobsArrived := d.allJobsArrived })
        fun _ => .lockQueueDone
  | .lockQueueDone => .lock args.jobQueueMutex .checkDone
  | .checkDone =>
      .act id fun d =>
        if isPrinterExitConditionMet (d.printer i).haveAllJobsArrived d.jobQueue then
          .exitUnlockQueue
        else .nextUnlockQueue
  | .nextUnlockQueue => .unlock args.jobQueueMutex id fun _ => .lockState
  | .exitLockState => .lock args.simulationStateMutex .exitSetServed
  | .exitSetServed =>
      .unlock args.simulationStateMutex (fun d => { d with allJobsServed := true })
        fun _ => .exitLockRefill
  | .exitLockRefill => .lock args.paperRefillQueueMutex .exitNotifyRefiller
  | .exitNotifyRefiller => .broadcast args.refillSupplierCv .exitNotifyPrinters
  | .exitNotifyPrinters => .broadcast args.refillNeededCv .exitUnlockRefill
  | .exitUnlockRefill => .unlock args.paperRefillQueueMutex id fun _ => .exitCancelRefiller
  | .exitCancelRefiller => .cancel (fun _ => some .refiller) .exit
  | .exit => .exit

end Orchestrator
