import Orchestrator.Log.Events

/-!
# The WebSocket back end

The handlers of `websocket_handler.c`, as far as they write to the statistics, to the queue's time
stamp and to the file's reference times.
-/

namespace Orchestrator

/-- `publish_simulation_start`. -/
def publishSimulationStart : Handler := fun now h =>
  { h with
    referenceTimeUs := now
    stats := { h.stats with simulationStartTimeUs := now } }

/-- `publish_simulation_end`. -/
def publishSimulationEnd : Handler := fun now h =>
  { h with
    referenceEndTimeUs := now
    stats := { h.stats with simulationDurationUs := now - h.referenceTimeUs } }

/-- `publish_system_arrival`. -/
def publishSystemArrival (previousJobArrivalTimeUs : ULong) : Handler := fun _ h =>
  { h with
    stats :=
      { h.stats with
        totalJobsArrived := h.stats.totalJobsArrived + 1
        totalInterArrivalTimeUs := h.stats.totalInterArrivalTimeUs +
          (h.job.systemArrivalTimeUs - previousJobArrivalTimeUs) } }

/-- `publish_dropped_job`. -/
def publishDroppedJob : Handler := fun _ h =>
  { h with stats := { h.stats with totalJobsDropped := h.stats.totalJobsDropped + 1 } }

/-- `publish_queue_arrival`. -/
def publishQueueArrival (lastInteractionTimeUs : ULong) : Handler := fun _ h =>
  { h with
    stats :=
      { h.stats with
        areaNumInJobQueueUs := h.stats.areaNumInJobQueueUs +
          (h.job.queueArrivalTimeUs - lastInteractionTimeUs) *
            ulongOfInt (timedQueueLength h.jobQueue - 1) }
    jobQueue := { h.jobQueue with lastInteractionTimeUs := h.job.queueArrivalTimeUs } }

/-- `publish_queue_departure`. -/
def publishQueueDeparture (lastInteractionTimeUs : ULong) : Handler := fun _ h =>
  { h with
    stats :=
      { h.stats with
        areaNumInJobQueueUs := h.stats.areaNumInJobQueueUs +
          (h.job.queueDepartureTimeUs - lastInteractionTimeUs) *
            ulongOfInt (timedQueueLength h.jobQueue + 1) }
    jobQueue := { h.jobQueue with lastInteractionTimeUs := h.job.queueDepartureTimeUs } }

/-- The per-printer part of `publish_system_departure`. -/
def publishDepartureOfPrinter (job : Job) (printer : Printer) (serviceDuration : Int)
    (stats : SimulationStatistics) : SimulationStatistics :=
  match slotOfIndex ((printer.id : Int) - 1) with
  | some idx =>
      { stats with
        jobsServedByPrinter :=
          Function.update stats.jobsServedByPrinter idx (stats.jobsServedByPrinter idx + 1)
        printerPaperUsed :=
          Function.update stats.printerPaperUsed idx
            (stats.printerPaperUsed idx + job.papersRequired)
        totalServiceTimePrinterUs :=
          Function.update stats.totalServiceTimePrinterUs idx
            (stats.totalServiceTimePrinterUs idx + ulongOfInt serviceDuration)
        maxPrintersUsed :=
          if printer.id > stats.maxPrintersUsed then printer.id else stats.maxPrintersUsed }
  | none => stats

/-- `publish_system_departure`. -/
def publishSystemDeparture : Handler := fun _ h =>
  let systemTime := intOfULong (h.job.serviceDepartureTimeUs - h.job.systemArrivalTimeUs)
  let serviceDuration :=
    intOfULong (h.job.serviceDepartureTimeUs - h.job.serviceArrivalTimeUs)
  let stats := publishDepartureOfPrinter h.job h.printer serviceDuration h.stats
  { h with
    stats :=
      { stats with
        totalSystemTimeUs := h.stats.totalSystemTimeUs + ulongOfInt systemTime
        sumOfSystemTimeSquaredUs2 :=
          h.stats.sumOfSystemTimeSquaredUs2 + mulInt systemTime systemTime
        totalJobsServed := h.stats.totalJobsServed + 1
        totalQueueWaitTimeUs := h.stats.totalQueueWaitTimeUs +
          (h.job.queueDepartureTimeUs - h.job.queueArrivalTimeUs) } }

/-- `publish_simulation_stopped`. -/
def publishSimulationStopped : Handler := fun now h =>
  { h with
    referenceEndTimeUs := now
    stats := { h.stats with simulationDurationUs := now - h.referenceTimeUs } }

/-- The table `websocket_handler_register` registers. -/
def websocketOps : LogOps
  | .simulationParameters _ => none
  | .simulationStart => some publishSimulationStart
  | .simulationEnd => some publishSimulationEnd
  | .systemArrival _ previous => some (publishSystemArrival previous)
  | .droppedJob _ _ => some publishDroppedJob
  | .removedJob _ => some outputOnly
  | .queueArrival _ last => some (publishQueueArrival last)
  | .queueDeparture _ last => some (publishQueueDeparture last)
  | .jobUpdate _ => some outputOnly
  | .jobsUpdate => some outputOnly
  | .printerArrival _ _ => some outputOnly
  | .systemDeparture _ _ => some publishSystemDeparture
  | .paperEmpty _ _ _ => some outputOnly
  | .paperRefillStart _ _ _ _ => some outputOnly
  | .paperRefillEnd _ _ _ => some outputOnly
  | .scaleUp _ _ _ => some outputOnly
  | .scaleDown _ _ _ => some outputOnly
  | .printerIdle _ => some outputOnly
  | .printerBusy _ _ => some outputOnly
  | .printerWaitingRefill _ => some outputOnly
  | .statsUpdate _ => some outputOnly
  | .simulationStopped => some publishSimulationStopped
  | .statistics => some outputOnly

end Orchestrator
