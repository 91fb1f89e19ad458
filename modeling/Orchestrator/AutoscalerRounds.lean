import Orchestrator.Threads.Autoscaling
import Orchestrator.Pthread.Alone

/-!
# Rounds of the autoscaler

One round of the autoscaler's loop as a function of the pool, in two versions.

* `tick` — a round during which the printers leave their fields alone.
* `round` — a round with what the printers write between the decision and the operation, and with
  what the operation announces and returns.
* `round_computes` — the thread's code computes `round`; `round_is_tick` is the quiet case.
-/

namespace Orchestrator

open Pthread

/-! ## Rounds that nobody disturbs -/

/-- What one round of the autoscaler's loop reads, and the outcome of a thread creation in it. -/
structure Tick where
  queueLength : ℕ
  currentTimeUs : ULong
  /-- the second clock reading, inside the operation -/
  scaleTimeUs : ULong
  createOk : Bool

/-- `scale_up`. -/
def scaleUp (pool : PrinterPool) (t : Tick) : PrinterPool :=
  if pool.activeCount ≥ maxPrinters then pool
  else if canStartPrinter pool (pool.activeCount + 1) && t.createOk then
    { markStarted pool (pool.activeCount + 1) with
      lastScaleTimeUs := t.scaleTimeUs
      lowQueueStartTimeUs := 0 }
  else pool

/-- `scale_down`. -/
def scaleDown (pool : PrinterPool) (t : Tick) : PrinterPool :=
  if pool.activeCount ≤ pool.minCount then pool
  else match printerToRemove pool with
    | some i =>
        { pool.setActive i false with
          activeCount := pool.activeCount - 1
          lastScaleTimeUs := t.scaleTimeUs
          lowQueueStartTimeUs := 0 }
    | none => pool

/-- One round of the loop of `autoscaling_thread_func`. -/
def tick (pool : PrinterPool) (t : Tick) : PrinterPool :=
  if shouldScaleUp pool t.queueLength t.currentTimeUs then scaleUp pool t
  else
    let decision := shouldScaleDown pool t.queueLength t.currentTimeUs
    if decision.1 then scaleDown decision.2 t else decision.2

/-! ## Rounds with the printers at work -/

/-- A printer's thread, or the refiller for it, gives its `printer_t` new contents. -/
structure PrinterWrite where
  slot : Slot
  printer : Printer

/-- The pool after the writes. -/
def PrinterPool.writeAll (pool : PrinterPool) (writes : List PrinterWrite) : PrinterPool :=
  writes.foldl (fun pool w => pool.modifyPrinter w.slot fun _ => w.printer) pool

/-- A round, with what happens in the middle of it.  The other places where a printer could write
are no different from before or after the round. -/
structure Round extends Tick where
  /-- between the decision and the operation -/
  writes : List PrinterWrite
  /-- the second queue length, inside the operation -/
  scaleQueueLength : ℕ

/-- What a call of `scale_up` or `scale_down` returns, the pool it leaves, and the log events it
emits, newest first. -/
structure ScaleCall where
  returns : Int
  pool : PrinterPool
  emitted : List Event

/-- The events of `printer_pool_start_printer`, once the thread was created. -/
def startedEvents (pool : PrinterPool) (printerId : Int) : List Event :=
  match slotOfIndex (printerId - 1) with
  | some i => [.printerIdle (pool.printers i).printer]
  | none => []

/-- A call of `scale_up`. -/
def scaleUpCall (pool : PrinterPool) (r : Round) : ScaleCall :=
  if pool.activeCount ≥ maxPrinters then ⟨0, pool, []⟩
  else
    let newPrinterId := pool.activeCount + 1
    let announced := [Event.scaleUp (pool.activeCount + 1) r.scaleQueueLength r.scaleTimeUs]
    if canStartPrinter pool newPrinterId && r.createOk then
      ⟨1,
        { markStarted pool newPrinterId with
          lastScaleTimeUs := r.scaleTimeUs
          lowQueueStartTimeUs := 0 },
        startedEvents pool newPrinterId ++ announced⟩
    else ⟨0, pool, announced⟩

/-- A call of `scale_down`. -/
def scaleDownCall (pool : PrinterPool) (r : Round) : ScaleCall :=
  if pool.activeCount ≤ pool.minCount then ⟨0, pool, []⟩
  else match printerToRemove pool with
    | some i =>
        ⟨1,
          { pool.setActive i false with
            activeCount := pool.activeCount - 1
            lastScaleTimeUs := r.scaleTimeUs
            lowQueueStartTimeUs := 0 },
          [.scaleDown (pool.activeCount - 1) r.scaleQueueLength r.scaleTimeUs]⟩
    | none => ⟨0, pool, []⟩

/-- The two operations. -/
inductive ScaleOperation where
  | scaleUp
  | scaleDown
  deriving DecidableEq, Repr

/-- The operation a round decides on, and the pool the two decisions leave. -/
def decideScaling (pool : PrinterPool) (r : Round) : Option ScaleOperation × PrinterPool :=
  if shouldScaleUp pool r.queueLength r.currentTimeUs then (some .scaleUp, pool)
  else
    let decision := shouldScaleDown pool r.queueLength r.currentTimeUs
    (if decision.1 then some .scaleDown else none, decision.2)

/-- The call of an operation. -/
def ScaleOperation.call (pool : PrinterPool) (r : Round) : ScaleOperation → ScaleCall
  | .scaleUp => scaleUpCall pool r
  | .scaleDown => scaleDownCall pool r

/-- The pool when a round comes to its operation. -/
def poolAtCall (pool : PrinterPool) (r : Round) : PrinterPool :=
  (decideScaling pool r).2.writeAll r.writes

/-- The call a round makes, if it makes one. -/
def roundCall (pool : PrinterPool) (r : Round) : Option ScaleCall :=
  (decideScaling pool r).1.map (ScaleOperation.call (poolAtCall pool r) r)

/-- The pool after a round, and what the round announced. -/
def round (pool : PrinterPool) (r : Round) : PrinterPool × List Event :=
  match roundCall pool r with
  | some c => (c.pool, c.emitted)
  | none => (poolAtCall pool r, [])

/-- Whether `printer_pool_start_printer` succeeds with the next printer. -/
def Round.starts (r : Round) (pool : PrinterPool) : Bool :=
  canStartPrinter pool (pool.activeCount + 1) && r.createOk

section Calls

variable {pool : PrinterPool} {r : Round}

lemma scaleUpCall_full (hfull : pool.activeCount ≥ maxPrinters) :
    scaleUpCall pool r = ⟨0, pool, []⟩ := by
  rw [scaleUpCall, if_pos hfull]

lemma scaleUpCall_started (hroom : ¬pool.activeCount ≥ maxPrinters) (h : r.starts pool = true) :
    scaleUpCall pool r =
      ⟨1,
        { markStarted pool (pool.activeCount + 1) with
          lastScaleTimeUs := r.scaleTimeUs
          lowQueueStartTimeUs := 0 },
        startedEvents pool (pool.activeCount + 1) ++
          [.scaleUp (pool.activeCount + 1) r.scaleQueueLength r.scaleTimeUs]⟩ := by
  rw [Round.starts] at h
  simp only [scaleUpCall, if_neg hroom, h, if_true]

lemma scaleUpCall_failed (hroom : ¬pool.activeCount ≥ maxPrinters) (h : ¬r.starts pool = true) :
    scaleUpCall pool r =
      ⟨0, pool, [.scaleUp (pool.activeCount + 1) r.scaleQueueLength r.scaleTimeUs]⟩ := by
  rw [Round.starts] at h
  simp only [scaleUpCall, if_neg hroom, if_neg h]

lemma scaleDownCall_least (hleast : pool.activeCount ≤ pool.minCount) :
    scaleDownCall pool r = ⟨0, pool, []⟩ := by
  rw [scaleDownCall, if_pos hleast]

lemma scaleDownCall_none (hmore : ¬pool.activeCount ≤ pool.minCount)
    (h : printerToRemove pool = none) : scaleDownCall pool r = ⟨0, pool, []⟩ := by
  rw [scaleDownCall, if_neg hmore, h]

lemma scaleDownCall_some {i : Slot} (hmore : ¬pool.activeCount ≤ pool.minCount)
    (h : printerToRemove pool = some i) :
    scaleDownCall pool r =
      ⟨1,
        { pool.setActive i false with
          activeCount := pool.activeCount - 1
          lastScaleTimeUs := r.scaleTimeUs
          lowQueueStartTimeUs := 0 },
        [.scaleDown (pool.activeCount - 1) r.scaleQueueLength r.scaleTimeUs]⟩ := by
  rw [scaleDownCall, if_neg hmore, h]

end Calls

lemma scaleUpCall_pool (pool : PrinterPool) (r : Round) :
    (scaleUpCall pool r).pool = scaleUp pool r.toTick := by
  unfold scaleUpCall scaleUp
  split
  · rfl
  · simp only
    split <;> rfl

lemma scaleDownCall_pool (pool : PrinterPool) (r : Round) :
    (scaleDownCall pool r).pool = scaleDown pool r.toTick := by
  unfold scaleDownCall scaleDown
  split
  · rfl
  · split <;> rfl

/-! ### The three kinds of rounds -/

section Kinds

variable {pool : PrinterPool} {r : Round} {op : ScaleOperation}

lemma decideScaling_up (hup : shouldScaleUp pool r.queueLength r.currentTimeUs = true) :
    decideScaling pool r = (some .scaleUp, pool) := by
  rw [decideScaling, if_pos hup]

lemma decideScaling_down (hup : ¬shouldScaleUp pool r.queueLength r.currentTimeUs = true)
    (hdown : (shouldScaleDown pool r.queueLength r.currentTimeUs).1 = true) :
    decideScaling pool r =
      (some .scaleDown, (shouldScaleDown pool r.queueLength r.currentTimeUs).2) := by
  simp [decideScaling, hup, hdown]

lemma decideScaling_none (hup : ¬shouldScaleUp pool r.queueLength r.currentTimeUs = true)
    (hdown : ¬(shouldScaleDown pool r.queueLength r.currentTimeUs).1 = true) :
    decideScaling pool r = (none, (shouldScaleDown pool r.queueLength r.currentTimeUs).2) := by
  simp [decideScaling, hup, hdown]

/-- A round that calls an operation. -/
lemma round_of_call (h : (decideScaling pool r).1 = some op) :
    roundCall pool r = some (op.call (poolAtCall pool r) r) ∧
      round pool r = ((op.call (poolAtCall pool r) r).pool,
        (op.call (poolAtCall pool r) r).emitted) := by
  have hcall : roundCall pool r = some (op.call (poolAtCall pool r) r) := by simp [roundCall, h]
  exact ⟨hcall, by rw [round, hcall]⟩

/-- A round that calls none. -/
lemma round_of_none (h : (decideScaling pool r).1 = none) :
    roundCall pool r = none ∧ round pool r = (poolAtCall pool r, []) := by
  have hcall : roundCall pool r = none := by simp [roundCall, h]
  exact ⟨hcall, by rw [round, hcall]⟩

/-- A round during which the printers write nothing. -/
lemma round_of_quiet (hquiet : r.writes = []) : (round pool r).1 = tick pool r.toTick := by
  have hstay : poolAtCall pool r = (decideScaling pool r).2 := by
    rw [poolAtCall, hquiet]
    rfl
  unfold tick
  split
  · next hup =>
    have hd := decideScaling_up hup
    rw [(round_of_call (congrArg Prod.fst hd)).2, hstay, hd]
    exact scaleUpCall_pool pool r
  · next hup =>
    simp only
    split
    · next hdown =>
      have hd := decideScaling_down hup hdown
      rw [(round_of_call (congrArg Prod.fst hd)).2, hstay, hd]
      exact scaleDownCall_pool _ r
    · next hdown =>
      have hd := decideScaling_none hup hdown
      rw [(round_of_none (congrArg Prod.fst hd)).2, hstay, hd]

end Kinds

/-! ## The thread's code -/

section Code

variable (setup : Setup)

/-- The data of `scale_up` when it comes to the check of the slot. -/
def scaleUpChosen (d : Data) : Data :=
  Autoscaler.announceUp setup.mode (Autoscaler.readScaleLength (Autoscaler.chooseId d))

/-- The operation `scale_up`, as far as its check of the slot. -/
lemma alone_upCheckSlot (d : Data) (hroom : ¬d.pool.activeCount ≥ maxPrinters) :
    Alone (autoscalerCode setup) (.upLockPool, d) (.upCheckSlot, scaleUpChosen setup d) :=
  .head (And.intro rfl rfl) <| .head (And.intro rfl (if_neg hroom).symm) <|
    .head (And.intro rfl rfl) <| .head (And.intro rfl rfl) <| .head (And.intro rfl rfl) .refl

/-- The memory after a call: its pool, and what it emitted. -/
structure ScaleCall.Left (c : ScaleCall) (d d' : Data) : Prop where
  pool : d'.pool = c.pool
  emitted : d'.emitted = c.emitted ++ d.emitted

/-- The operation `scale_up`, from its lock to the sleep. -/
lemma alone_scaleUp (d : Data) (r : Round) (htime : r.scaleTimeUs = d.clock)
    (hlength : r.scaleQueueLength = timedQueueLength d.jobQueue) :
    ∃ d', Alone (autoscalerCode setup) (.upLockPool, d) (.sleep, d') ∧
      (scaleUpCall d.pool r).Left d d' := by
  by_cases hfull : d.pool.activeCount ≥ maxPrinters
  · rw [scaleUpCall_full hfull]
    exact ⟨_, .head (And.intro rfl rfl) <| .head (And.intro rfl (if_pos hfull).symm) <|
      .head (And.intro rfl rfl) .refl, rfl, rfl⟩
  · have hpre := alone_upCheckSlot setup d hfull
    have hpool : (scaleUpChosen setup d).pool = d.pool := rfl
    have hid : (scaleUpChosen setup d).autoscaler.newPrinterId = d.pool.activeCount + 1 := rfl
    have hstamp : (scaleUpChosen setup d).autoscaler.scaleTimeUs = d.clock := rfl
    have hsaid : (scaleUpChosen setup d).emitted =
        .scaleUp (d.pool.activeCount + 1) r.scaleQueueLength r.scaleTimeUs :: d.emitted := by
      rw [hlength, htime]
      rfl
    generalize scaleUpChosen setup d = e at *
    by_cases hcan : canStartPrinter d.pool (d.pool.activeCount + 1) = true
    · have hstart : canStartPrinter e.pool e.autoscaler.newPrinterId = true := by
        rw [hpool, hid, hcan]
      by_cases hok : r.createOk = true
      · have hstarts : r.starts d.pool = true := by simp [Round.starts, hcan, hok]
        rw [scaleUpCall_started hfull hstarts]
        refine ⟨_, hpre.trans <| .head (And.intro rfl (if_pos hstart).symm) <|
          .head (And.intro rfl (.inl rfl)) <| .head (And.intro rfl rfl) <|
          .head (And.intro rfl rfl) <| .head (And.intro rfl rfl) .refl, ?_⟩
        simp only [Autoscaler.stampUp, emitStarted, id, hid, hpool, startedEvents, markStarted]
        cases slotOfIndex (d.pool.activeCount + 1 - 1) with
        | none => exact ⟨by simp only [hstamp, htime], hsaid⟩
        | some i =>
            constructor
            · simp only [Data.emit, hstamp, htime]
            · simp only [Data.emit, hsaid, List.cons_append, List.nil_append, Data.slot,
                PrinterPool.setActive, Function.update_self]
      · have hfails : ¬r.starts d.pool = true := by simp [Round.starts, hok]
        rw [scaleUpCall_failed hfull hfails]
        exact ⟨_, hpre.trans <| .head (And.intro rfl (if_pos hstart).symm) <|
          .head (And.intro rfl (.inr rfl)) <| .head (And.intro rfl rfl) .refl, hpool, hsaid⟩
    · have hstay : ¬canStartPrinter e.pool e.autoscaler.newPrinterId = true := by
        rw [hpool, hid]
        exact hcan
      have hfails : ¬r.starts d.pool = true := by simp [Round.starts, hcan]
      rw [scaleUpCall_failed hfull hfails]
      exact ⟨_, hpre.trans <| .head (And.intro rfl (if_neg hstay).symm) <|
        .head (And.intro rfl rfl) .refl, hpool, hsaid⟩

/-- The operation `scale_down`, from its lock to the sleep. -/
lemma alone_scaleDown (d : Data) (r : Round) (htime : r.scaleTimeUs = d.clock)
    (hlength : r.scaleQueueLength = timedQueueLength d.jobQueue) :
    ∃ d', Alone (autoscalerCode setup) (.downLockPool, d) (.sleep, d') ∧
      (scaleDownCall d.pool r).Left d d' := by
  by_cases hmin : d.pool.activeCount ≤ d.pool.minCount
  · rw [scaleDownCall_least hmin]
    exact ⟨_, .head (And.intro rfl rfl) <| .head (And.intro rfl (if_pos hmin).symm) <|
      .head (And.intro rfl rfl) .refl, rfl, rfl⟩
  · cases hremove : printerToRemove d.pool with
    | none =>
        have hnone : (Autoscaler.choosePrinter d).autoscaler.printerToRemove.isNone = true := by
          simp [Autoscaler.choosePrinter, Data.modifyAutoscaler, hremove]
        rw [scaleDownCall_none hmin hremove]
        exact ⟨_, .head (And.intro rfl rfl) <|
          .head (And.intro rfl ((if_neg hmin).trans (if_pos hnone)).symm) <|
          .head (And.intro rfl rfl) .refl, rfl, rfl⟩
    | some i =>
        have hsome : ¬(Autoscaler.choosePrinter d).autoscaler.printerToRemove.isNone = true := by
          simp [Autoscaler.choosePrinter, Data.modifyAutoscaler, hremove]
        rw [scaleDownCall_some hmin hremove]
        refine ⟨_, .head (And.intro rfl rfl) <|
          .head (And.intro rfl ((if_neg hmin).trans (if_neg hsome)).symm) <|
          .head (And.intro rfl rfl) <| .head (And.intro rfl rfl) <| .head (And.intro rfl rfl) <|
          .head (And.intro rfl rfl) <| .head (And.intro rfl rfl) <| .head (And.intro rfl rfl) <|
          .head (And.intro rfl rfl) <| .head (And.intro rfl rfl) <|
          .head (And.intro rfl rfl) .refl, ?_⟩
        constructor
        · simp [Autoscaler.choosePrinter, Autoscaler.markStopped, Autoscaler.readScaleLength,
            Autoscaler.announceDown, Data.modifyAutoscaler, hremove, htime]
        · simp [Autoscaler.choosePrinter, Autoscaler.markStopped, Autoscaler.readScaleLength,
            Autoscaler.announceDown, Data.modifyAutoscaler, Data.emit, hremove, htime, hlength]

/-- Where the thread is when it comes to its operation. -/
def ScaleOperation.start : Option ScaleOperation → AutoscalerPc
  | some .scaleUp => .upLockPool
  | some .scaleDown => .downLockPool
  | none => .sleep

/-- The thread's code as far as the operation. -/
lemma alone_decideScaling (d : Data)
    (hrun : d.gTerminateNow = false ∧ d.allJobsServed = false) (r : Round)
    (hlength : r.queueLength = timedQueueLength d.jobQueue) (htime : r.currentTimeUs = d.clock) :
    ∃ e, Alone (autoscalerCode setup) (.lockState, d)
        (ScaleOperation.start (decideScaling d.pool r).1, e) ∧
      e.pool = (decideScaling d.pool r).2 ∧ e.clock = d.clock ∧ e.jobQueue = d.jobQueue ∧
        e.emitted = d.emitted := by
  have hgo : ¬(Autoscaler.readFlags d).autoscaler.terminate = true := by
    simp [Autoscaler.readFlags, Data.modifyAutoscaler, hrun.1, hrun.2]
  -- up to the first decision
  obtain ⟨e, hpre, hpool, hclock, hqueue, hsaid, hl, ht⟩ :
      ∃ e, Alone (autoscalerCode setup) (.lockState, d) (.decideUp, e) ∧ e.pool = d.pool ∧
        e.clock = d.clock ∧ e.jobQueue = d.jobQueue ∧ e.emitted = d.emitted ∧
          e.autoscaler.queueLength = timedQueueLength d.jobQueue ∧
            e.autoscaler.currentTimeUs = d.clock :=
    ⟨_, .head (And.intro rfl rfl) <| .head (And.intro rfl (if_neg hgo).symm) <|
      .head (And.intro rfl rfl) <| .head (And.intro rfl rfl) <| .head (And.intro rfl rfl) <|
      .head (And.intro rfl rfl) .refl, rfl, rfl, rfl, rfl, rfl, rfl⟩
  have hdecision : (Autoscaler.decideUp e).autoscaler.shouldScale =
      shouldScaleUp d.pool r.queueLength r.currentTimeUs := by
    simp [Autoscaler.decideUp, Data.modifyAutoscaler, hpool, hl, ht, hlength, htime]
  by_cases hup : shouldScaleUp d.pool r.queueLength r.currentTimeUs = true
  · rw [decideScaling_up hup]
    exact ⟨_, hpre.trans <| .head (And.intro rfl (if_pos (hdecision.trans hup)).symm) .refl,
      hpool, hclock, hqueue, hsaid⟩
  · let f := Autoscaler.decideDown (Autoscaler.decideUp e)
    have hdown : f.autoscaler.shouldScale =
        (shouldScaleDown d.pool r.queueLength r.currentTimeUs).1 := by
      simp [f, Autoscaler.decideDown, Autoscaler.decideUp, Data.modifyAutoscaler, hpool, hl, ht,
        hlength, htime]
    have hleft : f.pool = (shouldScaleDown d.pool r.queueLength r.currentTimeUs).2 := by
      simp [f, Autoscaler.decideDown, Autoscaler.decideUp, Data.modifyAutoscaler, hpool, hl, ht,
        hlength, htime]
    have hmid : Alone (autoscalerCode setup) (.lockState, d) (.decideDown, Autoscaler.decideUp e) :=
      hpre.trans <| .head (And.intro rfl (if_neg (hdecision.trans_ne hup)).symm) <|
        .head (And.intro rfl rfl) .refl
    by_cases hscale : (shouldScaleDown d.pool r.queueLength r.currentTimeUs).1 = true
    · rw [decideScaling_down hup hscale]
      exact ⟨f, hmid.trans <| .head (And.intro rfl (if_pos (hdown.trans hscale)).symm) .refl,
        hleft, hclock, hqueue, hsaid⟩
    · rw [decideScaling_none hup hscale]
      exact ⟨f, hmid.trans <| .head (And.intro rfl (if_neg (hdown.trans_ne hscale)).symm) .refl,
        hleft, hclock, hqueue, hsaid⟩

/-- **The thread's loop computes `round`.**  The autoscaler decides, other threads write to the
printers while the clock and the queue move on, and the operation it decided on runs, with either
outcome of the creation of a thread. -/
theorem round_computes (d : Data) (hrun : d.gTerminateNow = false ∧ d.allJobsServed = false)
    (r : Round) (hlength : r.queueLength = timedQueueLength d.jobQueue)
    (htime : r.currentTimeUs = d.clock) :
    ∃ q e, Alone (autoscalerCode setup) (.lockState, d) (q, e) ∧ e.clock = d.clock ∧
      e.jobQueue = d.jobQueue ∧
        ∀ e' : Data, e'.pool = e.pool.writeAll r.writes → e'.emitted = e.emitted →
          r.scaleTimeUs = e'.clock → r.scaleQueueLength = timedQueueLength e'.jobQueue →
            ∃ d', Alone (autoscalerCode setup) (q, e') (.sleep, d') ∧
              d'.pool = (round d.pool r).1 ∧ d'.emitted = (round d.pool r).2 ++ d.emitted := by
  obtain ⟨e, hpre, hpool, hclock, hqueue, hsaid⟩ :=
    alone_decideScaling setup d hrun r hlength htime
  refine ⟨_, e, hpre, hclock, hqueue, fun e' hpool' hsaid' htime' hlength' => ?_⟩
  rw [hsaid] at hsaid'
  have hatCall : e'.pool = poolAtCall d.pool r := by rw [hpool', hpool, poolAtCall]
  rcases hdecide : (decideScaling d.pool r).1 with _ | _ | _
  · rw [(round_of_none hdecide).2]
    exact ⟨e', .refl, hatCall, hsaid'⟩
  · obtain ⟨d', halone, hleft⟩ := alone_scaleUp setup e' r htime' hlength'
    rw [(round_of_call hdecide).2, ← hatCall]
    exact ⟨d', halone, hleft.pool, by rw [hleft.emitted, hsaid']; rfl⟩
  · obtain ⟨d', halone, hleft⟩ := alone_scaleDown setup e' r htime' hlength'
    rw [(round_of_call hdecide).2, ← hatCall]
    exact ⟨d', halone, hleft.pool, by rw [hleft.emitted, hsaid']; rfl⟩

/-- **The quiet case.**  A round of the autoscaler that nobody disturbs computes `tick`. -/
theorem round_is_tick (d : Data) (hrun : d.gTerminateNow = false ∧ d.allJobsServed = false)
    (ok : Bool) :
    ∃ d', Alone (autoscalerCode setup) (.lockState, d) (.sleep, d') ∧
      d'.pool = tick d.pool ⟨timedQueueLength d.jobQueue, d.clock, d.clock, ok⟩ := by
  let r : Round :=
    { queueLength := timedQueueLength d.jobQueue
      currentTimeUs := d.clock
      scaleTimeUs := d.clock
      createOk := ok
      writes := []
      scaleQueueLength := timedQueueLength d.jobQueue }
  obtain ⟨q, e, hpre, hclock, hqueue, hrest⟩ := round_computes setup d hrun r rfl rfl
  have hlength : r.scaleQueueLength = timedQueueLength e.jobQueue := by rw [hqueue]
  obtain ⟨d', hpost, hpool, -⟩ := hrest e rfl rfl hclock.symm hlength
  exact ⟨d', hpre.trans hpost, by rw [hpool, round_of_quiet rfl]⟩

end Code

end Orchestrator
