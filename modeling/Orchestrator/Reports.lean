import Orchestrator.Effects

/-!
# What each instruction reports

The log events of every instruction of the six threads, newest first.

* `reports` — the events.
* `emitted_of_goes` — the log grows by them, and by nothing else.
-/

namespace Orchestrator

open Pthread

variable (setup : Setup)

/-- What the printer in slot `i` reports. -/
def printerReports (i : Slot) (d : Data) : PrinterPc → List Event
  | .emitPaperEmpty =>
      [.printerWaitingRefill (d.slot i),
        .paperEmpty (d.slot i) (d.printer i).jobToDequeue.id d.clock]
  | .emitRefilled | .emitIdle => [.printerIdle (d.slot i)]
  | .emitQueueDeparture =>
      [.statsUpdate (timedQueueLength d.jobQueue), .jobsUpdate,
        .queueDeparture { (d.printer i).job with queueDepartureTimeUs := d.clock }
          (d.printer i).queueLastInteractionTimeUs]
  | .emitArrival =>
      [.printerArrival
        { (d.printer i).job with
          serviceTimeRequestedMs :=
            (((Double.ofInt (d.printer i).job.papersRequired).div setup.params.printingRate).mul
              (.ofInt 1000)).toInt
          serviceArrivalTimeUs := d.clock } (d.slot i)]
  | .emitBusy => [.printerBusy (d.slot i) (d.printer i).job.id]
  | .emitDeparture =>
      [.systemDeparture (d.printer i).job
        { d.slot i with jobsPrintedCount := (d.slot i).jobsPrintedCount + 1 }]
  | .emitStats => [.statsUpdate (timedQueueLength d.jobQueue)]
  | _ => []

/-- What the receiver reports. -/
def receiverReports (d : Data) : ReceiverPc → List Event
  | .emitArrival =>
      [.statsUpdate (timedQueueLength d.jobQueue),
        .systemArrival d.receiver.job d.receiver.previousJobArrivalTimeUs]
  | .emitDrop => [.droppedJob d.receiver.job d.receiver.previousJobArrivalTimeUs]
  | .emitQueueArrival =>
      [.statsUpdate (timedQueueLength d.jobQueue), .jobUpdate d.receiver.job,
        .queueArrival d.receiver.job d.receiver.queueLastInteractionTimeUs]
  | _ => []

/-- What the refiller reports, if it has a printer. -/
def refillerReports (d : Data) : RefillerPc → List Event
  | .emitStart => (d.refiller.printer.map fun i =>
      Event.paperRefillStart (d.slot i) d.refiller.papersNeeded
        (Refiller.timeToRefillUs setup.params d.refiller.papersNeeded)
        d.refiller.refillStartTimeUs).toList
  | .emitEnd => (d.refiller.printer.map fun i =>
      Event.paperRefillEnd (d.slot i) (intOfULong (d.clock - d.refiller.refillStartTimeUs))
        d.clock).toList
  | .emitStats => [.statsUpdate (timedQueueLength d.jobQueue)]
  | _ => []

/-- What the stop handler reports. -/
def stopReports (d : Data) : StopPc → List Event
  | .emitStopped => [.simulationStopped]
  | .drain => ((timedQueueFirst d.jobQueue).map fun job =>
      Event.removedJob { job with queueDepartureTimeUs := d.clock }).toList
  | _ => []

/-- The idle report for a printer that was just started. -/
def startedReports (printerId : Int) (d : Data) : List Event :=
  ((slotOfIndex (printerId - 1)).map fun i => Event.printerIdle (d.slot i)).toList

/-- What the autoscaler reports. -/
def autoscalerReports (d : Data) : AutoscalerPc → List Event
  | .upEmit => [.scaleUp (d.pool.activeCount + 1) d.autoscaler.scaleQueueLength d.clock]
  | .upEmitIdle => startedReports d.autoscaler.newPrinterId d
  | .downEmit =>
      [.scaleDown d.pool.activeCount d.autoscaler.scaleQueueLength d.autoscaler.scaleTimeUs]
  | _ => []

/-- What the main thread reports. -/
def mainReports (d : Data) : MainPc → List Event
  | .emitParameters => [.simulationParameters setup.params]
  | .emitStart => [.simulationStart]
  | .emitIdle => startedReports d.mainI d
  | .emitEnd => [.simulationEnd]
  | .emitStatistics => [.statistics]
  | _ => []

/-- What the instruction of thread `t` at `q` reports. -/
def reports : (t : Tid) → Pc t → Data → List Event
  | .main, q => fun d => mainReports setup d q
  | .stopper, q => fun d => stopReports d q
  | .receiver, q => fun d => receiverReports d q
  | .refiller, q => fun d => refillerReports setup d q
  | .autoscaler, q => fun d => autoscalerReports d q
  | .printer i, q => fun d => printerReports setup i d q

variable {setup} {d d' : Data}

lemma emitStarted_emitted (mode : LogMode) (printerId : Int) (d : Data) :
    (emitStarted mode printerId d).emitted = startedReports printerId d ++ d.emitted := by
  rw [emitStarted, startedReports]
  cases slotOfIndex (printerId - 1) <;> rfl

lemma printer_emitted {i : Slot} {args : PrinterThreadArgs} {q q' : PrinterPc}
    (h : (printerCode setup i args q).Goes d d' q') :
    d'.emitted = printerReports setup i d q ++ d.emitted := by
  cases q with
  | exit => exact h.elim
  | emitQueueDeparture | emitArrival | emitDeparture =>
      rw [h.1]
      simp [Printer.leaveQueue, Printer.arriveAtPrinter, Printer.departSystem, printerReports,
        Data.emit, Data.modifyLocals, Data.slot, Data.modifyPrinter, PrinterPool.modifyPrinter]
  | emitPaperEmpty => rw [h.1]; simp [printerReports, Data.emit, Data.modifyLocals, Data.slot]
  | recordEmptyTime =>
      rw [h.1, Printer.recordEmptyTime]
      split <;> rfl
  | _ => obtain ⟨rfl, _⟩ := h; rfl

lemma receiver_emitted {q q' : ReceiverPc} (h : (receiverCode setup q).Goes d d' q') :
    d'.emitted = receiverReports d q ++ d.emitted := by
  cases q with
  | exit => exact h.elim
  | nextJob =>
      rw [h.1, Receiver.createJob]
      split <;> rfl
  | emitArrival | emitQueueArrival =>
      rw [h.1]
      simp [Receiver.reportArrival, Receiver.reportQueueArrival, receiverReports, Data.emit,
        Data.modifyStats, timedQueueLength]
  | _ => obtain ⟨rfl, _⟩ := h; rfl

lemma refiller_emitted {q q' : RefillerPc} (h : (refillerCode setup q).Goes d d' q') :
    d'.emitted = refillerReports setup d q ++ d.emitted := by
  cases q with
  | exit => exact h.elim
  | computeNeed => rw [h.1, Refiller.computeNeed]; split <;> rfl
  | addPaper => rw [h.1, Refiller.addPaper]; split <;> rfl
  | emitStart =>
      rw [h.1, Refiller.reportStart, refillerReports]
      cases d.refiller.printer <;> rfl
  | emitEnd =>
      rw [h.1, Refiller.reportEnd, refillerReports]
      simp only [Data.modifyRefiller]
      cases d.refiller.printer <;> rfl
  | _ => obtain ⟨rfl, _⟩ := h; rfl

lemma stop_emitted {q q' : StopPc} (h : (stopCode setup q).Goes d d' q') :
    d'.emitted = stopReports d q ++ d.emitted := by
  cases q with
  | drain =>
      rw [h.1, emptyQueueRound, stopReports, timedQueueFirst]
      cases hq : d.jobQueue.list <;> simp only [timedQueueDequeueFront, hq] <;> rfl
  | setFlags | emitStopped => obtain ⟨rfl, _⟩ := h; rfl
  | _ => rw [stop_quiet h rfl]; rfl

lemma autoscaler_emitted {q q' : AutoscalerPc} (h : (autoscalerCode setup q).Goes d d' q') :
    d'.emitted = autoscalerReports d q ++ d.emitted := by
  cases q with
  | exit => exact h.elim
  | upEmitIdle => rw [h.1]; exact emitStarted_emitted _ _ d
  | downMarkStopped => rw [h.1, Autoscaler.markStopped]; split <;> rfl
  | _ => obtain ⟨rfl, _⟩ := h; rfl

lemma main_emitted {q q' : MainPc} (h : (mainCode setup q).Goes d d' q') :
    d'.emitted = mainReports setup d q ++ d.emitted := by
  cases q with
  | exit => exact h.elim
  | emitIdle => rw [h.1]; exact emitStarted_emitted _ _ d
  | _ => obtain ⟨rfl, _⟩ := h; rfl

/-- **The log grows by what the instruction reports.** -/
theorem emitted_of_goes {t : Tid} {args : PrinterThreadArgs} {q q' : Pc t}
    (h : ((program setup).code t args q).Goes d d' q') :
    d'.emitted = reports setup t q d ++ d.emitted := by
  cases t with
  | main => exact main_emitted h
  | stopper => exact stop_emitted h
  | receiver => exact receiver_emitted h
  | refiller => exact refiller_emitted h
  | autoscaler => exact autoscaler_emitted h
  | printer i => exact printer_emitted h

end Orchestrator
