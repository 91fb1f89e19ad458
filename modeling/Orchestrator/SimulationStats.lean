import Orchestrator.Entities
import Mathlib.Data.Rat.Cast.Order
import Mathlib.Tactic.FieldSimp

/-!
# The reported statistics

The derived values of `simulation_stats.c`, in exact arithmetic.  The square root in
`calculate_system_time_std_dev` is a parameter: `systemTimeVariance` is its local variable
`variance`.
-/

namespace Orchestrator

variable (stats : SimulationStatistics)

/-- `calculate_average_inter_arrival_time`. -/
def calculateAverageInterArrivalTime : Double :=
  if stats.totalJobsArrived ≤ 1 then .num 0
  else ((Double.ofNat stats.totalInterArrivalTimeUs.toNat).div (.num 1000000)).div
    ((Double.ofNat stats.totalJobsArrived).sub (.num 1))

/-- `calculate_average_queue_wait_time`. -/
def calculateAverageQueueWaitTime : Double :=
  if stats.totalJobsServed = 0 then .num 0
  else ((Double.ofNat stats.totalQueueWaitTimeUs.toNat).div (.num 1000000)).div
    (Double.ofNat stats.totalJobsServed)

/-- `calculate_average_service_time`. -/
def calculateAverageServiceTime (printerIndex : Int) : Double :=
  match slotOfIndex printerIndex with
  | none => .num 0
  | some i =>
      if stats.jobsServedByPrinter i = 0 then .num 0
      else ((Double.ofNat (stats.totalServiceTimePrinterUs i).toNat).div (.num 1000000)).div
        (Double.ofNat (stats.jobsServedByPrinter i))

/-- `calculate_average_queue_length`. -/
def calculateAverageQueueLength : Double :=
  if stats.simulationDurationUs = 0 then .num 0
  else (Double.ofNat stats.areaNumInJobQueueUs.toNat).div
    (Double.ofNat stats.simulationDurationUs.toNat)

/-- `calculate_average_system_time`. -/
def calculateAverageSystemTime : Double :=
  if stats.totalJobsServed = 0 then .num 0
  else ((Double.ofNat stats.totalSystemTimeUs.toNat).div (.num 1000000)).div
    (Double.ofNat stats.totalJobsServed)

/-- `variance` in `calculate_system_time_std_dev`, which returns before it computes it when at most
one job was served. -/
def systemTimeVariance : Option Double :=
  if stats.totalJobsServed ≤ 1 then none
  else
    let avgSystemTime := calculateAverageSystemTime stats
    let avgSystemTimeUs := avgSystemTime.mul (.num 1000000)
    let avgTimeSq := (Double.ofInt stats.sumOfSystemTimeSquaredUs2).div
      (Double.ofNat stats.totalJobsServed)
    some (avgTimeSq.sub (avgSystemTimeUs.mul avgSystemTimeUs))

/-- `calculate_system_time_std_dev`. -/
def calculateSystemTimeStdDev (sqrt : Double → Double) : Double :=
  match systemTimeVariance stats with
  | none => .num 0
  | some variance =>
      (sqrt (if Double.lt (.num 0) variance then variance else .num 0)).div (.num 1000000)

variable {stats} in
/-- `variance`, from what the statistics hold. -/
lemma systemTimeVariance_eq (h : ¬stats.totalJobsServed ≤ 1) :
    systemTimeVariance stats = some (.num (stats.sumOfSystemTimeSquaredUs2 / stats.totalJobsServed -
      (stats.totalSystemTimeUs.toNat / stats.totalJobsServed) ^ 2)) := by
  have hne : stats.totalJobsServed ≠ 0 := by omega
  have hne' : (stats.totalJobsServed : ℚ) ≠ 0 := Nat.cast_ne_zero.mpr hne
  rw [systemTimeVariance, if_neg h, calculateAverageSystemTime, if_neg hne]
  simp only [Double.ofNat, Double.ofInt, Double.div_num hne',
    Double.div_num (show (1000000 : ℚ) ≠ 0 by norm_num), Double.mul_num, Double.sub_num]
  congr 3
  field_simp

/-- `calculate_system_utilization`. -/
def calculateSystemUtilization (printerIndex : Int) : Double :=
  match slotOfIndex printerIndex with
  | none => .num 0
  | some i =>
      if stats.simulationDurationUs = 0 then .num 0
      else (Double.ofNat (stats.totalServiceTimePrinterUs i).toNat).div
        (Double.ofNat stats.simulationDurationUs.toNat)

/-- `calculate_job_arrival_rate`. -/
def calculateJobArrivalRate : Double :=
  if stats.simulationDurationUs = 0 then .num 0
  else (Double.ofNat stats.totalJobsArrived).div
    ((Double.ofNat stats.simulationDurationUs.toNat).mul (.num (1 / 1000000)))

/-- `calculate_job_drop_probability`. -/
def calculateJobDropProbability : Double :=
  if stats.totalJobsArrived = 0 then .num 0
  else (Double.ofNat stats.totalJobsDropped).div (Double.ofNat stats.totalJobsArrived)

/-! ## Over all printers -/

/-- The loops over the printers that were used: `i < max_printers_used && i < MAX_PRINTERS`. -/
def sumOverUsed {M : Type} [Add M] (used : ℕ) (f : Slot → M) : List Slot → M → M
  | [], total => total
  | i :: rest, total => if (i : ℕ) < used then sumOverUsed used f rest (total + f i) else total

/-- `calculate_total_papers_used`. -/
def calculateTotalPapersUsed : Int :=
  sumOverUsed stats.maxPrintersUsed stats.printerPaperUsed (List.finRange maxPrinters) 0

/-- `calculate_overall_average_service_time`. -/
def calculateOverallAverageServiceTime : Double :=
  if stats.totalJobsServed = 0 then .num 0
  else
    let totalServiceTime := sumOverUsed stats.maxPrintersUsed stats.totalServiceTimePrinterUs
      (List.finRange maxPrinters) 0
    ((Double.ofNat totalServiceTime.toNat).div (Double.ofNat stats.totalJobsServed)).div
      (.num 1000000)

end Orchestrator
