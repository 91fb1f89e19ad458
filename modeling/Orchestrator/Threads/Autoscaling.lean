import Orchestrator.Memory

/-!
# The autoscaler

`autoscaling.c`, with `printer_pool_start_printer` of `printer.c`.  The two decisions are functions
of the pool; the two operations are sections of the thread's code.
-/

namespace Orchestrator

/-! ## The decisions -/

/-- `get_scale_up_threshold`. -/
def getScaleUpThreshold (activePrinters : Int) : Int :=
  if activePrinters = 2 then configAutoscaleThreshold2Printers
  else if activePrinters = 3 then configAutoscaleThreshold3Printers
  else if activePrinters = 4 then configAutoscaleThreshold4Printers
  else 999999

/-- `should_scale_up`. -/
def shouldScaleUp (pool : PrinterPool) (queueLength : ℕ) (currentTimeUs : ULong) : Bool :=
  if pool.activeCount ≥ maxPrinters then false
  else if currentTimeUs - pool.lastScaleTimeUs < configAutoscaleCooldownUs then false
  else decide ((queueLength : Int) ≥ getScaleUpThreshold pool.activeCount)

/-- `for (int i = active_count - 1; i >= min_count; i--)`, stopping at the first slot that
satisfies `test`; `n` slots are left, the last of them with index `low + n - 1`. -/
def scanSlotsDown (test : Slot → Bool) (low : Int) : ℕ → Option Slot
  | 0 => none
  | n + 1 =>
      match slotOfIndex (low + n) with
      | some i => if test i then some i else scanSlotsDown test low n
      | none => scanSlotsDown test low n

/-- The scan over the printers above the minimum, last one first. -/
def findExtraPrinter (pool : PrinterPool) (test : PrinterInstance → Bool) : Option Slot :=
  scanSlotsDown (fun i => test (pool.printers i)) pool.minCount
    (pool.activeCount - pool.minCount).toNat

/-- Whether a printer counts as idle long enough in `should_scale_down`. -/
def isLongIdle (currentTimeUs : ULong) (p : PrinterInstance) : Bool :=
  p.active && p.printer.isIdle &&
    decide (currentTimeUs - p.printer.lastJobCompletionTimeUs ≥ configAutoscaleIdleTimeoutUs)

/-- `should_scale_down`, with the pool it leaves. -/
def shouldScaleDown (pool : PrinterPool) (queueLength : ℕ) (currentTimeUs : ULong) :
    Bool × PrinterPool :=
  if pool.activeCount ≤ pool.minCount then (false, pool)
  else if currentTimeUs - pool.lastScaleTimeUs < configAutoscaleCooldownUs then (false, pool)
  else if (queueLength : Int) ≥ configAutoscaleScaleDownThreshold then
    (false, { pool with lowQueueStartTimeUs := 0 })
  else if pool.lowQueueStartTimeUs = 0 then
    (false, { pool with lowQueueStartTimeUs := currentTimeUs })
  else if currentTimeUs - pool.lowQueueStartTimeUs < configAutoscaleScaleDownWaitUs then
    (false, pool)
  else ((findExtraPrinter pool (isLongIdle currentTimeUs)).isSome, pool)

/-- The five ways through `should_scale_down`: too early, a long queue, a short one for the first
time, and a short one again, with its answer. -/
lemma shouldScaleDown_cases (pool : PrinterPool) (queueLength : ℕ) (now : ULong) :
    ((pool.activeCount ≤ pool.minCount ∨
          now - pool.lastScaleTimeUs < configAutoscaleCooldownUs) ∧
        shouldScaleDown pool queueLength now = (false, pool)) ∨
      (pool.minCount < pool.activeCount ∧
        configAutoscaleCooldownUs ≤ now - pool.lastScaleTimeUs ∧
        ((¬(queueLength : Int) < configAutoscaleScaleDownThreshold ∧
            shouldScaleDown pool queueLength now =
              (false, { pool with lowQueueStartTimeUs := 0 })) ∨
          ((queueLength : Int) < configAutoscaleScaleDownThreshold ∧
            ((pool.lowQueueStartTimeUs = 0 ∧ shouldScaleDown pool queueLength now =
                (false, { pool with lowQueueStartTimeUs := now })) ∨
              (pool.lowQueueStartTimeUs ≠ 0 ∧ ∃ found,
                shouldScaleDown pool queueLength now = (found, pool) ∧ (found = true ↔
                  configAutoscaleScaleDownWaitUs ≤ now - pool.lowQueueStartTimeUs ∧
                    (findExtraPrinter pool (isLongIdle now)).isSome = true)))))) := by
  by_cases hmin : pool.activeCount ≤ pool.minCount
  · exact .inl ⟨.inl hmin, by simp [shouldScaleDown, hmin]⟩
  by_cases hcool : now - pool.lastScaleTimeUs < configAutoscaleCooldownUs
  · exact .inl ⟨.inr hcool, by simp [shouldScaleDown, hcool]⟩
  refine .inr ⟨by omega, UInt64.not_lt.mp hcool, ?_⟩
  by_cases hlong : (queueLength : Int) ≥ configAutoscaleScaleDownThreshold
  · exact .inl ⟨by omega, by simp [shouldScaleDown, hmin, hcool, hlong]⟩
  refine .inr ⟨by omega, ?_⟩
  by_cases hzero : pool.lowQueueStartTimeUs = 0
  · exact .inl ⟨hzero, by simp [shouldScaleDown, hmin, hcool, hlong, hzero]⟩
  refine .inr ⟨hzero, ?_⟩
  by_cases hwait : now - pool.lowQueueStartTimeUs < configAutoscaleScaleDownWaitUs
  · exact ⟨false, by simp [shouldScaleDown, hmin, hcool, hlong, hzero, hwait],
      by simp [UInt64.not_le.mpr hwait]⟩
  · exact ⟨(findExtraPrinter pool (isLongIdle now)).isSome,
      by simp only [shouldScaleDown, hmin, hcool, hlong, hzero, hwait, if_false],
      by simp [UInt64.not_lt.mp hwait]⟩

/-- The decision to scale down writes only the pool's low-queue time. -/
lemma shouldScaleDown_pool (pool : PrinterPool) (queueLength : ℕ) (now : ULong) :
    ∃ low, (shouldScaleDown pool queueLength now).2 = { pool with lowQueueStartTimeUs := low } := by
  rcases shouldScaleDown_cases pool queueLength now with ⟨-, h⟩ | ⟨-, -, ⟨-, h⟩ | ⟨-, ⟨-, h⟩ |
    ⟨-, _, h, -⟩⟩⟩
  · exact ⟨pool.lowQueueStartTimeUs, by rw [h]⟩
  · exact ⟨0, by rw [h]⟩
  · exact ⟨now, by rw [h]⟩
  · exact ⟨pool.lowQueueStartTimeUs, by rw [h]⟩

lemma shouldScaleDown_printers (pool : PrinterPool) (queueLength : ℕ) (currentTimeUs : ULong) :
    (shouldScaleDown pool queueLength currentTimeUs).2.printers = pool.printers := by
  obtain ⟨low, h⟩ := shouldScaleDown_pool pool queueLength currentTimeUs
  rw [h]

/-- A decision to scale down leaves the pool alone, and was not taken lightly. -/
lemma shouldScaleDown_true {pool : PrinterPool} {queueLength : ℕ} {now : ULong}
    (h : (shouldScaleDown pool queueLength now).1 = true) :
    (shouldScaleDown pool queueLength now).2 = pool ∧ pool.minCount < pool.activeCount ∧
      configAutoscaleCooldownUs ≤ now - pool.lastScaleTimeUs ∧
      (queueLength : Int) < configAutoscaleScaleDownThreshold ∧ pool.lowQueueStartTimeUs ≠ 0 ∧
      configAutoscaleScaleDownWaitUs ≤ now - pool.lowQueueStartTimeUs ∧
      (findExtraPrinter pool (isLongIdle now)).isSome = true := by
  rcases shouldScaleDown_cases pool queueLength now with ⟨-, hd⟩ | ⟨hmore, hcool, ⟨-, hd⟩ |
    ⟨hshort, ⟨-, hd⟩ | ⟨hlow, found, hd, hfound⟩⟩⟩
  · rw [hd] at h; cases h
  · rw [hd] at h; cases h
  · rw [hd] at h; cases h
  · rw [hd] at h ⊢
    obtain ⟨hwait, hidle⟩ := hfound.mp h
    exact ⟨rfl, hmore, hcool, hshort, hlow, hwait, hidle⟩

/-- The printer `scale_down` removes: the most recently added one that is idle. -/
def printerToRemove (pool : PrinterPool) : Option Slot :=
  findExtraPrinter pool fun p => p.active && p.printer.isIdle

/-! ## `printer_pool_start_printer` -/

/-- The checks of `printer_pool_start_printer` before it creates the thread. -/
def canStartPrinter (pool : PrinterPool) (printerId : Int) : Bool :=
  match slotOfIndex (printerId - 1) with
  | some i => decide (pool.activeCount < maxPrinters) && !(pool.printers i).active
  | none => false

/-- Count the printer as active, once its thread was created. -/
def markStarted (pool : PrinterPool) (printerId : Int) : PrinterPool :=
  match slotOfIndex (printerId - 1) with
  | some i => { pool.setActive i true with activeCount := pool.activeCount + 1 }
  | none => pool

/-- The idle report for a printer that was just started. -/
def emitStarted (mode : LogMode) (printerId : Int) (d : Data) : Data :=
  match slotOfIndex (printerId - 1) with
  | some i => d.emit mode (.printerIdle (d.slot i))
  | none => d

/-! ## The thread -/

inductive AutoscalerPc where
  | lockState
  | readFlags
  | lockQueue
  | readLength
  | readClock
  | lockPoolUp
  | decideUp
  | lockPoolDown
  | decideDown
  -- scale_up
  | upLockPool
  | upChooseId
  | upLockQueue
  | upReadLength
  | upEmit
  | upCheckSlot
  | upCreate
  | upMarkStarted
  | upEmitIdle
  | upUnlockPool
  | upFail
  -- scale_down
  | downLockPool
  | downChoose
  | downCancel
  | downUnlockPool
  | downJoin
  | downRelockPool
  | downMarkStopped
  | downLockQueue
  | downReadLength
  | downEmit
  | downRelease
  | downFail
  | sleep
  | exit
  deriving DecidableEq, Repr

abbrev AutoscalerInstr := Pthread.Instr Tid AutoscalerPc Mutex Cond PrinterThreadArgs Data

namespace Autoscaler

/-- `g_terminate_now || *args->all_jobs_served`. -/
def readFlags (d : Data) : Data :=
  d.modifyAutoscaler fun a => { a with terminate := d.gTerminateNow || d.allJobsServed }

def readLength (d : Data) : Data :=
  d.modifyAutoscaler fun a => { a with queueLength := timedQueueLength d.jobQueue }

def decideUp (d : Data) : Data :=
  d.modifyAutoscaler fun a =>
    { a with shouldScale := shouldScaleUp d.pool a.queueLength a.currentTimeUs }

def decideDown (d : Data) : Data :=
  let decision := shouldScaleDown d.pool d.autoscaler.queueLength d.autoscaler.currentTimeUs
  { d.modifyAutoscaler fun a => { a with shouldScale := decision.1 } with pool := decision.2 }

def chooseId (d : Data) : Data :=
  d.modifyAutoscaler fun a => { a with newPrinterId := d.pool.activeCount + 1 }

/-- `queue_length = timed_queue_length(args->job_queue)`, inside the two operations. -/
def readScaleLength (d : Data) : Data :=
  d.modifyAutoscaler fun a => { a with scaleQueueLength := timedQueueLength d.jobQueue }

/-- The announcement of `scale_up`, made before the printer is started. -/
def announceUp (mode : LogMode) (d : Data) : Data :=
  let d := d.modifyAutoscaler fun a => { a with scaleTimeUs := d.clock }
  d.emit mode (.scaleUp (d.pool.activeCount + 1) d.autoscaler.scaleQueueLength
    d.autoscaler.scaleTimeUs)

/-- The end of a successful `scale_up`. -/
def stampUp (d : Data) : Data :=
  { d with
    pool :=
      { d.pool with lastScaleTimeUs := d.autoscaler.scaleTimeUs, lowQueueStartTimeUs := 0 } }

def choosePrinter (d : Data) : Data :=
  d.modifyAutoscaler fun a => { a with printerToRemove := printerToRemove d.pool }

/-- The bookkeeping of `scale_down` after the join. -/
def markStopped (d : Data) : Data :=
  match d.autoscaler.printerToRemove with
  | some i =>
      { d.modifyAutoscaler fun a => { a with scaleTimeUs := d.clock } with
        pool :=
          { d.pool.setActive i false with
            activeCount := d.pool.activeCount - 1
            lastScaleTimeUs := d.clock
            lowQueueStartTimeUs := 0 } }
  | none => d

def announceDown (mode : LogMode) (d : Data) : Data :=
  d.emit mode (.scaleDown d.pool.activeCount d.autoscaler.scaleQueueLength
    d.autoscaler.scaleTimeUs)

end Autoscaler

open Autoscaler in
/-- `autoscaling_thread_func`. -/
def autoscalerCode (setup : Setup) : AutoscalerPc → AutoscalerInstr
  | .lockState => .lock .simulationStateMutex .readFlags
  | .readFlags =>
      .unlock .simulationStateMutex readFlags fun d =>
        if d.autoscaler.terminate then .exit else .lockQueue
  | .lockQueue => .lock .jobQueueMutex .readLength
  | .readLength => .unlock .jobQueueMutex readLength fun _ => .readClock
  | .readClock =>
      .act (fun d => d.modifyAutoscaler fun a => { a with currentTimeUs := d.clock })
        fun _ => .lockPoolUp
  | .lockPoolUp => .lock .poolMutex .decideUp
  | .decideUp =>
      .unlock .poolMutex decideUp fun d =>
        if d.autoscaler.shouldScale then .upLockPool else .lockPoolDown
  | .lockPoolDown => .lock .poolMutex .decideDown
  | .decideDown =>
      .unlock .poolMutex decideDown fun d =>
        if d.autoscaler.shouldScale then .downLockPool else .sleep
  | .upLockPool => .lock .poolMutex .upChooseId
  | .upChooseId =>
      .act chooseId fun d =>
        if d.pool.activeCount ≥ maxPrinters then .upFail else .upLockQueue
  | .upLockQueue => .lock .jobQueueMutex .upReadLength
  | .upReadLength => .unlock .jobQueueMutex readScaleLength fun _ => .upEmit
  | .upEmit => .call (logMutex setup.mode) (announceUp setup.mode) fun _ => .upCheckSlot
  | .upCheckSlot =>
      .act id fun d =>
        if canStartPrinter d.pool d.autoscaler.newPrinterId then .upCreate else .upFail
  | .upCreate =>
      .create (fun d => (slotOfIndex (d.autoscaler.newPrinterId - 1)).map .printer)
        scaleUpSharedArgs Data.createOk .upMarkStarted .upFail
  | .upMarkStarted =>
      .act (fun d => { d with pool := markStarted d.pool d.autoscaler.newPrinterId })
        fun _ => .upEmitIdle
  | .upEmitIdle =>
      .call (logMutex setup.mode) (fun d => emitStarted setup.mode d.autoscaler.newPrinterId d)
        fun _ => .upUnlockPool
  | .upUnlockPool => .unlock .poolMutex stampUp fun _ => .sleep
  | .upFail => .unlock .poolMutex id fun _ => .sleep
  | .downLockPool => .lock .poolMutex .downChoose
  | .downChoose =>
      .act choosePrinter fun d =>
        if d.pool.activeCount ≤ d.pool.minCount then .downFail
        else if d.autoscaler.printerToRemove.isNone then .downFail
        else .downCancel
  | .downCancel => .cancel (fun d => d.autoscaler.printerToRemove.map .printer) .downUnlockPool
  | .downUnlockPool => .unlock .poolMutex id fun _ => .downJoin
  | .downJoin => .join (fun d => d.autoscaler.printerToRemove.map .printer) .downRelockPool
  | .downRelockPool => .lock .poolMutex .downMarkStopped
  | .downMarkStopped => .act markStopped fun _ => .downLockQueue
  | .downLockQueue => .lock .jobQueueMutex .downReadLength
  | .downReadLength => .unlock .jobQueueMutex readScaleLength fun _ => .downEmit
  | .downEmit => .call (logMutex setup.mode) (announceDown setup.mode) fun _ => .downRelease
  | .downRelease => .unlock .poolMutex id fun _ => .sleep
  | .downFail => .unlock .poolMutex id fun _ => .sleep
  | .sleep => .sleep .lockState
  | .exit => .exit

end Orchestrator
