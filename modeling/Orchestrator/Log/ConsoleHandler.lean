import Orchestrator.Log.Events

/-!
# The console back end

The handlers of `console_handler.c`, as far as they write to the statistics, to the queue's time
stamp and to the file's reference times.
-/

namespace Orchestrator

/-- `log_simulation_start`. -/
def logSimulationStart : Handler := fun now h =>
  { h with
    referenceTimeUs := now
    stats := { h.stats with simulationStartTimeUs := now } }

/-- `log_simulation_end`. -/
def logSimulationEnd : Handler := fun now h =>
  { h with
    referenceEndTimeUs := now
    stats := { h.stats with simulationDurationUs := now - h.referenceTimeUs } }

/-- `log_system_arrival`. -/
def logSystemArrival (previousJobArrivalTimeUs : ULong) : Handler := fun _ h =>
  { h with
    stats :=
      { h.stats with
        totalJobsArrived := h.stats.totalJobsArrived + 1
        totalInterArrivalTimeUs := h.stats.totalInterArrivalTimeUs +
          (h.job.systemArrivalTimeUs - previousJobArrivalTimeUs) } }

/-- `log_dropped_job`. -/
def logDroppedJob : Handler := fun _ h =>
  { h with stats := { h.stats with totalJobsDropped := h.stats.totalJobsDropped + 1 } }

/-- `log_queue_arrival`. -/
def logQueueArrival (lastInteractionTimeUs : ULong) : Handler := fun _ h =>
  { h with
    stats :=
      { h.stats with
        areaNumInJobQueueUs := h.stats.areaNumInJobQueueUs +
          (h.job.queueArrivalTimeUs - lastInteractionTimeUs) *
            ulongOfInt (timedQueueLength h.jobQueue - 1) }
    jobQueue := { h.jobQueue with lastInteractionTimeUs := h.job.queueArrivalTimeUs } }

/-- `log_queue_departure`. -/
def logQueueDeparture (lastInteractionTimeUs : ULong) : Handler := fun _ h =>
  { h with
    stats :=
      { h.stats with
        areaNumInJobQueueUs := h.stats.areaNumInJobQueueUs +
          (h.job.queueDepartureTimeUs - lastInteractionTimeUs) *
            ulongOfInt (timedQueueLength h.jobQueue + 1) }
    jobQueue := { h.jobQueue with lastInteractionTimeUs := h.job.queueDepartureTimeUs } }

/-- The per-printer part of `log_system_departure`. -/
def logDepartureOfPrinter (job : Job) (printer : Printer) (serviceDuration : Int)
    (stats : SimulationStatistics) : SimulationStatistics :=
  match slotOfIndex ((printer.id : Int) - 1) with
  | some idx =>
      { stats with
        jobsServedByPrinter :=
          Function.update stats.jobsServedByPrinter idx (stats.jobsServedByPrinter idx + 1)
        printerPaperUsed :=
          Function.update stats.printerPaperUsed idx
            (stats.printerPaperUsed idx + job.papersRequired)
        totalServiceTimePrinterUs :=
          Function.update stats.totalServiceTimePrinterUs idx
            (stats.totalServiceTimePrinterUs idx + ulongOfInt serviceDuration)
        maxPrintersUsed :=
          if printer.id > stats.maxPrintersUsed then printer.id else stats.maxPrintersUsed }
  | none => stats

/-- `log_system_departure`. -/
def logSystemDeparture : Handler := fun _ h =>
  let systemTime := intOfULong (h.job.serviceDepartureTimeUs - h.job.systemArrivalTimeUs)
  let serviceDuration :=
    intOfULong (h.job.serviceDepartureTimeUs - h.job.serviceArrivalTimeUs)
  let stats := logDepartureOfPrinter h.job h.printer serviceDuration h.stats
  { h with
    stats :=
      { stats with
        totalSystemTimeUs := h.stats.totalSystemTimeUs + ulongOfInt systemTime
        sumOfSystemTimeSquaredUs2 :=
          h.stats.sumOfSystemTimeSquaredUs2 + mulInt systemTime systemTime
        totalJobsServed := h.stats.totalJobsServed + 1
        totalQueueWaitTimeUs := h.stats.totalQueueWaitTimeUs +
          (h.job.queueDepartureTimeUs - h.job.queueArrivalTimeUs) } }

/-- `log_ctrl_c_pressed`. -/
def logCtrlCPressed : Handler := fun now h =>
  { h with
    referenceEndTimeUs := now
    stats := { h.stats with simulationDurationUs := now - h.referenceTimeUs } }

/-- The table `console_handler_register` registers. -/
def consoleOps : LogOps
  | .simulationParameters _ => some outputOnly
  | .simulationStart => some logSimulationStart
  | .simulationEnd => some logSimulationEnd
  | .systemArrival _ previous => some (logSystemArrival previous)
  | .droppedJob _ _ => some logDroppedJob
  | .removedJob _ => some outputOnly
  | .queueArrival _ last => some (logQueueArrival last)
  | .queueDeparture _ last => some (logQueueDeparture last)
  | .jobUpdate _ => none
  | .jobsUpdate => none
  | .printerArrival _ _ => some outputOnly
  | .systemDeparture _ _ => some logSystemDeparture
  | .paperEmpty _ _ _ => some outputOnly
  | .paperRefillStart _ _ _ _ => some outputOnly
  | .paperRefillEnd _ _ _ => some outputOnly
  | .scaleUp _ _ _ => some outputOnly
  | .scaleDown _ _ _ => some outputOnly
  | .printerIdle _ => none
  | .printerBusy _ _ => none
  | .printerWaitingRefill _ => none
  | .statsUpdate _ => none
  | .simulationStopped => some logCtrlCPressed
  | .statistics => some outputOnly

end Orchestrator
