import Orchestrator.Memory

/-!
# The paper refiller

`paper_refill_thread_func` of `paper_refiller.c`.  Cancellation is disabled except around the
sleep that models a refill.
-/

namespace Orchestrator

inductive RefillerPc where
  | start
  | lockRefill
  | lockState
  | readFlags
  | checkFlags
  | exitNotifyPrinters
  | exitUnlockRefill
  | checkRequests
  | waitRequest
  | popRequest
  | unlockRefill
  | computeNeed
  -- the printer is full
  | skipLockRefill
  | skipNotifyPrinters
  | skipUnlockRefill
  -- refill it
  | emitStart
  | enableCancel
  | sleep
  | disableCancel
  | emitEnd
  | addPaper
  | lockStats
  | recordRefill
  | emitStats
  | unlockStats
  | doneLockRefill
  | doneNotifyPrinters
  | doneUnlockRefill
  | exit
  deriving DecidableEq, Repr

abbrev RefillerInstr := Pthread.Instr Tid RefillerPc Mutex Cond PrinterThreadArgs Data

namespace Refiller

/-- The flags, both read under `simulation_state_mutex`. -/
def readFlags (d : Data) : Data :=
  d.modifyRefiller fun r =>
    { r with terminateNow := d.gTerminateNow, areAllJobsServed := d.allJobsServed }

/-- `list_pop_left` of the request queue, and the start of the refill. -/
def popRequest (d : Data) : Data :=
  { d.modifyRefiller fun r =>
      { r with refillStartTimeUs := d.clock, printer := d.paperRefillQueue.head? } with
    paperRefillQueue := d.paperRefillQueue.tail }

/-- `papers_needed = printer->capacity - printer->current_paper_count`. -/
def computeNeed (d : Data) : Data :=
  match d.refiller.printer with
  | some i => d.modifyRefiller fun r =>
      { r with papersNeeded := (d.slot i).capacity - (d.slot i).currentPaperCount }
  | none => d

/-- `(unsigned long)((papers_needed / params->refill_rate) * 1000000)`, kept in an `int`. -/
def timeToRefillUs (params : SimulationParameters) (papersNeeded : Int) : Int :=
  intOfULong (((Double.ofInt papersNeeded).div params.refillRate).mul (.ofInt 1000000)).toULong

def reportStart (setup : Setup) (d : Data) : Data :=
  match d.refiller.printer with
  | some i => d.emit setup.mode
      (.paperRefillStart (d.slot i) d.refiller.papersNeeded
        (timeToRefillUs setup.params d.refiller.papersNeeded) d.refiller.refillStartTimeUs)
  | none => d

lemma reportStart_refiller (setup : Setup) (d : Data) :
    (reportStart setup d).refiller = d.refiller := by
  rw [reportStart]
  split <;> rfl

/-- The end time of the refill and the report of it. -/
def reportEnd (mode : LogMode) (d : Data) : Data :=
  let d := d.modifyRefiller fun r => { r with refillEndTimeUs := d.clock }
  match d.refiller.printer with
  | some i => d.emit mode
      (.paperRefillEnd (d.slot i)
        (intOfULong (d.refiller.refillEndTimeUs - d.refiller.refillStartTimeUs))
        d.refiller.refillEndTimeUs)
  | none => d

lemma reportEnd_refiller (mode : LogMode) (d : Data) :
    (reportEnd mode d).refiller = { d.refiller with refillEndTimeUs := d.clock } := by
  rw [reportEnd]
  simp only
  split <;> rfl

/-- `printer->current_paper_count += papers_needed`. -/
def addPaper (d : Data) : Data :=
  match d.refiller.printer with
  | some i => d.modifyPrinter i fun p =>
      { p with currentPaperCount := p.currentPaperCount + d.refiller.papersNeeded }
  | none => d

def recordRefill (d : Data) : Data :=
  d.modifyStats fun st =>
    { st with
      papersRefilled := st.papersRefilled + d.refiller.papersNeeded
      totalRefillServiceTimeUs := st.totalRefillServiceTimeUs +
        (d.refiller.refillEndTimeUs - d.refiller.refillStartTimeUs)
      paperRefillEvents := st.paperRefillEvents + 1 }

end Refiller

open Refiller in
/-- `paper_refill_thread_func`. -/
def refillerCode (setup : Setup) : RefillerPc → RefillerInstr
  | .start => .setCancelState false .lockRefill
  | .lockRefill => .lock .paperRefillQueueMutex .lockState
  | .lockState => .lock .simulationStateMutex .readFlags
  | .readFlags => .unlock .simulationStateMutex readFlags fun _ => .checkFlags
  | .checkFlags =>
      .act id fun d =>
        if d.refiller.terminateNow || d.refiller.areAllJobsServed then .exitNotifyPrinters
        else .checkRequests
  | .exitNotifyPrinters => .broadcast .refillNeededCv .exitUnlockRefill
  | .exitUnlockRefill => .unlock .paperRefillQueueMutex id fun _ => .exit
  | .checkRequests =>
      .act id fun d => if d.paperRefillQueue.isEmpty then .waitRequest else .popRequest
  | .waitRequest => .wait .refillSupplierCv .paperRefillQueueMutex .lockState
  | .popRequest => .act popRequest fun _ => .unlockRefill
  | .unlockRefill => .unlock .paperRefillQueueMutex id fun _ => .computeNeed
  | .computeNeed =>
      .act computeNeed fun d =>
        if d.refiller.papersNeeded ≤ 0 then .skipLockRefill else .emitStart
  | .skipLockRefill => .lock .paperRefillQueueMutex .skipNotifyPrinters
  | .skipNotifyPrinters => .broadcast .refillNeededCv .skipUnlockRefill
  | .skipUnlockRefill => .unlock .paperRefillQueueMutex id fun _ => .lockRefill
  | .emitStart => .call (logMutex setup.mode) (reportStart setup) fun _ => .enableCancel
  | .enableCancel => .setCancelState true .sleep
  | .sleep => .sleep .disableCancel
  | .disableCancel => .setCancelState false .emitEnd
  | .emitEnd => .call (logMutex setup.mode) (reportEnd setup.mode) fun _ => .addPaper
  | .addPaper => .act addPaper fun _ => .lockStats
  | .lockStats => .lock .statsMutex .recordRefill
  | .recordRefill => .act recordRefill fun _ => .emitStats
  | .emitStats =>
      .call (logMutex setup.mode)
        (fun d => d.emit setup.mode (.statsUpdate (timedQueueLength d.jobQueue)))
        fun _ => .unlockStats
  | .unlockStats => .unlock .statsMutex id fun _ => .doneLockRefill
  | .doneLockRefill => .lock .paperRefillQueueMutex .doneNotifyPrinters
  | .doneNotifyPrinters => .broadcast .refillNeededCv .doneUnlockRefill
  | .doneUnlockRefill => .unlock .paperRefillQueueMutex id fun _ => .lockRefill
  | .exit => .exit

end Orchestrator
