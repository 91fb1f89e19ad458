import Orchestrator.Pthread.Step
import Orchestrator.System

/-!
# What the threads beside the jobs do to the memory

The main thread and the autoscaler scale the pool, the refiller fills printers, and the stop
handler is quiet in all but three of its instructions.  None of them changes anything else, so what
a later module looks at in the memory is the same after a step of theirs as soon as it does not
depend on the few things listed here:

- `ScalingEffect` — `main_scales`, `autoscaler_scales`;
- `RefillEffect` — `refiller_refills`;
- `stop_quiet`.
-/

namespace Orchestrator

variable {setup : Setup} {d d' : Data}

/-! ## The pool -/

lemma markStarted_printer (pool : PrinterPool) (printerId : Int) (j : Slot) :
    ((markStarted pool printerId).printers j).printer = (pool.printers j).printer := by
  rw [markStarted]
  split
  · exact setActive_printer _ _ _ _
  · rfl

/-- The reports of a scaling and of a started printer. -/
def Event.ofScaling : Event → Bool
  | .scaleUp _ _ _ | .scaleDown _ _ _ | .printerIdle _ => true
  | _ => false

/-- What scaling the pool does to the memory: the printers in the slots stay as they are. -/
inductive ScalingEffect (mode : LogMode) (d d' : Data) : Prop where
  | scaled (locals : AutoscalerLocals) (pool : PrinterPool) (i : Int)
      (data : d' = { d with autoscaler := locals, pool := pool, mainI := i })
      (printers : ∀ j, (pool.printers j).printer = d.slot j)
  | reported (locals : AutoscalerLocals) (e : Event)
      (data : d' = Data.emit mode e { d with autoscaler := locals }) (he : e.ofScaling = true)

lemma emitStarted_scales (mode : LogMode) (printerId : Int) (d : Data) :
    ScalingEffect mode d (emitStarted mode printerId d) := by
  rw [emitStarted]
  split
  · exact .reported d.autoscaler _ rfl rfl
  · exact .scaled d.autoscaler d.pool d.mainI rfl fun _ => rfl

/-- **The autoscaler scales the pool** and does nothing else. -/
lemma autoscaler_scales {q q' : AutoscalerPc} (h : (autoscalerCode setup q).Goes d d' q') :
    ScalingEffect setup.mode d d' := by
  cases q with
  | exit => exact h.elim
  | decideDown =>
      refine .scaled _ _ d.mainI h.1 fun j => ?_
      rw [shouldScaleDown_printers]
      rfl
  | upEmit | downEmit => exact .reported _ _ h.1 rfl
  | upMarkStarted => exact .scaled d.autoscaler _ d.mainI h.1 (markStarted_printer _ _)
  | upEmitIdle => rw [h.1]; exact emitStarted_scales _ _ _
  | downMarkStopped =>
      rw [h.1, Autoscaler.markStopped]
      split
      · exact .scaled _ _ d.mainI rfl fun j => setActive_printer d.pool _ j false
      · exact .scaled d.autoscaler d.pool d.mainI rfl fun _ => rfl
  | _ => exact .scaled _ _ d.mainI h.1 fun _ => rfl

/-- The main thread reports on the run here. -/
def MainPc.reports : MainPc → Bool
  | .emitParameters | .emitStart | .emitEnd | .emitStatistics => true
  | _ => false

/-- **The main thread starts printers** where it does not report on the run. -/
lemma main_scales {q q' : MainPc} (h : (mainCode setup q).Goes d d' q')
    (hq : q.reports = false) : ScalingEffect setup.mode d d' := by
  cases q with
  | exit => exact h.elim
  | emitParameters | emitStart | emitEnd | emitStatistics => cases hq
  | markStarted => exact .scaled d.autoscaler _ d.mainI h.1 (markStarted_printer _ _)
  | emitIdle => rw [h.1]; exact emitStarted_scales _ _ _
  | _ => exact .scaled d.autoscaler d.pool _ h.1 fun _ => rfl

/-! ## The refills -/

/-- The reports of a refill. -/
def Event.ofRefill : Event → Bool
  | .paperRefillStart _ _ _ _ | .paperRefillEnd _ _ _ | .statsUpdate _ => true
  | _ => false

/-- What the refiller does to the memory until it records the refill. -/
inductive RefillEffect (mode : LogMode) (d d' : Data) : Prop where
  | noted (locals : RefillerLocals) (requests : List Slot)
      (data : d' = { d with refiller := locals, paperRefillQueue := requests })
  | filled (i : Slot) (papers : Int)
      (data : d' = d.modifyPrinter i fun p =>
        { p with currentPaperCount := p.currentPaperCount + papers })
  | reported (locals : RefillerLocals) (e : Event)
      (data : d' = Data.emit mode e { d with refiller := locals }) (he : e.ofRefill = true)

/-- **The refiller fills printers** where it does not record that it has. -/
lemma refiller_refills {q q' : RefillerPc} (h : (refillerCode setup q).Goes d d' q')
    (hq : q ≠ .recordRefill) : RefillEffect setup.mode d d' := by
  have hsame : RefillEffect setup.mode d d := .noted d.refiller d.paperRefillQueue rfl
  cases q with
  | exit => exact h.elim
  | recordRefill => exact absurd rfl hq
  | computeNeed =>
      rw [h.1, Refiller.computeNeed]
      split
      · exact .noted _ d.paperRefillQueue rfl
      · exact hsame
  | emitStart =>
      rw [h.1, Refiller.reportStart]
      split
      · exact .reported d.refiller _ rfl rfl
      · exact hsame
  | emitEnd =>
      rw [h.1, Refiller.reportEnd]
      split
      · exact .reported _ _ rfl rfl
      · exact .noted _ d.paperRefillQueue rfl
  | addPaper =>
      rw [h.1, Refiller.addPaper]
      split
      · exact .filled _ _ rfl
      · exact hsame
  | emitStats => exact .reported d.refiller _ h.1 rfl
  | _ => exact .noted _ _ h.1

/-! ## The stop -/

/-- The stop handler writes to the memory here. -/
def StopPc.writes : StopPc → Bool
  | .setFlags | .emitStopped | .drain => true
  | _ => false

/-- The stop handler is quiet in all but these instructions. -/
lemma stop_quiet {q q' : StopPc} (h : (stopCode setup q).Goes d d' q')
    (hq : q.writes = false) : d' = d := by
  cases q with
  | setFlags | emitStopped | drain => cases hq
  | done =>
      simp only [stopCode] at h
      split at h
      · exact h.elim
      · exact h.1
  | _ => exact h.1

end Orchestrator
