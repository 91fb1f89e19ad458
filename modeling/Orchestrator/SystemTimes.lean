import Orchestrator.Log.Agreement
import Orchestrator.SimulationStats
import Orchestrator.System
import Orchestrator.Sampling.Moments
import Mathlib.Algebra.BigOperators.Ring.Finset
import Mathlib.Data.Rat.Cast.Order
import Mathlib.Tactic.Linarith

/-!
# The moments of the system times

A departure handler puts the job's system time into an `int` before it adds it and its square to
the statistics.

* `squareInt_le` — the square it adds is too small from 46341 microseconds on.
* `departures_add_up` — what a sequence of events adds to the statistics.
* `system_times_exact` — the sums are exact, and the variance is that of the system times, exactly
  when every square fits in an `int`.
-/

namespace Orchestrator

open Sampling

/-- The job a departure event is about. -/
def Event.departedJob : Event → Option Job
  | .systemDeparture job _ => some job
  | _ => none

/-- The jobs that depart in a sequence of log calls. -/
def departedJobs (calls : List (ULong × Event)) : List Job :=
  calls.filterMap fun call => call.2.departedJob

/-- `job->service_departure_time_us - job->system_arrival_time_us`. -/
def Job.systemTime (job : Job) : ULong := job.serviceDepartureTimeUs - job.systemArrivalTimeUs

/-- The system times of the jobs that depart. -/
def systemTimes (calls : List (ULong × Event)) : List ℕ :=
  (departedJobs calls).map fun job =>
    job.serviceDepartureTimeUs.toNat - job.systemArrivalTimeUs.toNat

/-- Every job that departs does so after it arrived. -/
def DepartLater (calls : List (ULong × Event)) : Prop :=
  ∀ job ∈ departedJobs calls, job.systemArrivalTimeUs ≤ job.serviceDepartureTimeUs

instance (calls : List (ULong × Event)) : Decidable (DepartLater calls) :=
  inferInstanceAs (Decidable (∀ _ ∈ _, _))

/-- The differences the handlers compute. -/
def measuredTimes (calls : List (ULong × Event)) : List ULong :=
  (departedJobs calls).map Job.systemTime

/-- They do not wrap. -/
lemma systemTimes_eq {calls : List (ULong × Event)} (h : DepartLater calls) :
    systemTimes calls = (measuredTimes calls).map UInt64.toNat := by
  rw [measuredTimes, List.map_map]
  refine List.map_congr_left fun job hjob => ?_
  exact (UInt64.toNat_sub_of_le _ _ (h job hjob)).symm

/-- `system_time * system_time`. -/
def squareInt (t : ULong) : Int := mulInt (intOfULong t) (intOfULong t)

/-- **The square of a system time** as it is added: exact if it fits in an `int`, else too small. -/
lemma squareInt_le (t : ULong) :
    squareInt t ≤ (t.toNat : Int) ^ 2 ∧
      (squareInt t = (t.toNat : Int) ^ 2 ↔ t.toNat ^ 2 < 2 ^ 31) := by
  by_cases hfits : t.toNat ^ 2 < 2 ^ 31
  · have hsmall : t.toNat < 2 ^ 31 := by nlinarith only [hfits]
    have hexact : squareInt t = (t.toNat : Int) ^ 2 := by
      rw [squareInt, intOfULong_of_lt hsmall, pow_two]
      have hsq : ((t.toNat : Int) * t.toNat) = ((t.toNat ^ 2 : ℕ) : Int) := by push_cast; ring
      exact mulInt_of_lt (by omega) (by omega)
    exact ⟨hexact.le, iff_of_true hexact hfits⟩
  · have hlt : squareInt t < (t.toNat : Int) ^ 2 := by
      have hbound := mulInt_lt (intOfULong t) (intOfULong t)
      have hbig : ((2 ^ 31 : ℕ) : Int) ≤ ((t.toNat ^ 2 : ℕ) : Int) := by omega
      push_cast at hbig
      exact lt_of_lt_of_le hbound hbig
    exact ⟨hlt.le, iff_of_false hlt.ne hfits⟩

/-- The squares add up to the right sum only if each of them is right. -/
lemma squares_exact_iff (times : List ULong) :
    (times.map squareInt).sum = (times.map fun t => (t.toNat : Int) ^ 2).sum ↔
      ∀ t ∈ times, t.toNat ^ 2 < 2 ^ 31 := by
  constructor
  · intro hsum t ht
    by_contra hlarge
    have hlt : squareInt t < (t.toNat : Int) ^ 2 :=
      lt_of_le_of_ne (squareInt_le t).1 fun heq => hlarge ((squareInt_le t).2.mp heq)
    have := List.sum_lt_sum (l := times) squareInt (fun t => (t.toNat : Int) ^ 2)
      (fun t _ => (squareInt_le t).1) ⟨t, ht, hlt⟩
    omega
  · intro hall
    congr 1
    exact List.map_congr_left fun t ht => (squareInt_le t).2.mpr (hall t ht)

/-! ## What the departures add up to -/

/-- What the departures so far have left in the statistics. -/
structure SameMoments (stats stats' : SimulationStatistics) : Prop where
  served : stats'.totalJobsServed = stats.totalJobsServed
  total : stats'.totalSystemTimeUs = stats.totalSystemTimeUs
  squares : stats'.sumOfSystemTimeSquaredUs2 = stats.sumOfSystemTimeSquaredUs2

/-- No other event touches them. -/
lemma emit_sameMoments (mode : LogMode) {e : Event} (d : Data) (h : e.departedJob = none) :
    SameMoments d.stats (d.emit mode e).stats := by
  cases mode <;> cases e <;> first | exact ⟨rfl, rfl, rfl⟩ | cases h

/-- A departure counts the job and adds its system time and the square. -/
lemma emit_departure (mode : LogMode) (job : Job) (printer : Printer) (d : Data) :
    (d.emit mode (.systemDeparture job printer)).stats.totalJobsServed =
        d.stats.totalJobsServed + 1 ∧
      (d.emit mode (.systemDeparture job printer)).stats.totalSystemTimeUs =
        d.stats.totalSystemTimeUs + ulongOfInt (intOfULong job.systemTime) ∧
      (d.emit mode (.systemDeparture job printer)).stats.sumOfSystemTimeSquaredUs2 =
        d.stats.sumOfSystemTimeSquaredUs2 + squareInt job.systemTime := by
  cases mode <;> exact ⟨rfl, rfl, rfl⟩

/-- **What the departures add up to.**  The total is exact if every system time fits in an `int` and
the sum in an `unsigned long`. -/
lemma departures_add_up (mode : LogMode) (calls : List (ULong × Event)) (d : Data) :
    let times := (measuredTimes calls).map UInt64.toNat
    (d.emitAll mode calls).stats.totalJobsServed =
        d.stats.totalJobsServed + (measuredTimes calls).length ∧
      (d.emitAll mode calls).stats.sumOfSystemTimeSquaredUs2 =
        d.stats.sumOfSystemTimeSquaredUs2 + ((measuredTimes calls).map squareInt).sum ∧
      ((∀ x ∈ times, x < 2 ^ 31) → d.stats.totalSystemTimeUs.toNat + times.sum < 2 ^ 64 →
        (d.emitAll mode calls).stats.totalSystemTimeUs.toNat =
          d.stats.totalSystemTimeUs.toNat + times.sum) := by
  induction calls generalizing d with
  | nil => exact ⟨rfl, (add_zero _).symm, fun _ _ => rfl⟩
  | cons call calls ih =>
      rw [Data.emitAll_cons]
      obtain ⟨hserved, hsquares, htotal⟩ := ih ({ d with clock := call.1 }.emit mode call.2)
      cases hjob : call.2.departedJob with
      | none =>
          have hsame := emit_sameMoments mode { d with clock := call.1 } hjob
          have hjobs : measuredTimes (call :: calls) = measuredTimes calls := by
            simp [measuredTimes, departedJobs, hjob]
          rw [hsame.served] at hserved
          rw [hsame.squares] at hsquares
          rw [hsame.total] at htotal
          rw [hjobs]
          exact ⟨hserved, hsquares, htotal⟩
      | some job =>
          obtain ⟨printer, hcall⟩ : ∃ printer, call.2 = .systemDeparture job printer := by
            cases hevent : call.2 with
            | systemDeparture job' printer =>
                rw [hevent] at hjob
                exact ⟨printer, by rw [Option.some.inj hjob]⟩
            | _ => rw [hevent] at hjob; cases hjob
          have hjobs : measuredTimes (call :: calls) = job.systemTime :: measuredTimes calls := by
            simp [measuredTimes, departedJobs, hjob]
          obtain ⟨hcount, hsum, hsquare⟩ :=
            emit_departure mode job printer { d with clock := call.1 }
          rw [hcall] at hserved hsquares htotal ⊢
          rw [hserved, hsquares, hjobs, hcount, hsquare, List.map_cons, List.map_cons,
            List.sum_cons, List.length_cons]
          refine ⟨by dsimp only; omega, by dsimp only; omega, fun hsmall hfits => ?_⟩
          rw [List.sum_cons] at hfits ⊢
          have hint : job.systemTime.toNat < 2 ^ 31 := hsmall _ (by simp)
          rw [hsum, intOfULong_of_lt hint, ulongOfInt_toNat] at htotal
          have hadd : (d.stats.totalSystemTimeUs + job.systemTime).toNat =
              d.stats.totalSystemTimeUs.toNat + job.systemTime.toNat := by
            rw [UInt64.toNat_add]
            omega
          have hrest := htotal (fun x hx => hsmall x (by simp [hx])) (by simp only [hadd]; omega)
          simp only [hadd] at hrest
          omega

/-! ## The variance -/

/-- The system times as rational numbers. -/
def systemTimesQ (calls : List (ULong × Event)) : List ℚ :=
  (systemTimes calls).map fun (x : ℕ) => (x : ℚ)

/-- The variance the report computes is that of the system times, and not negative. -/
def VarianceRight (stats : SimulationStatistics) (calls : List (ULong × Event)) : Prop :=
  ∀ v ∈ systemTimeVariance stats,
    v = .num (variance (systemTimesQ calls)) ∧ 0 ≤ variance (systemTimesQ calls)

/-- Exact sums give the variance. -/
lemma varianceRight_of_sums {stats : SimulationStatistics} {calls : List (ULong × Event)}
    (hserved : stats.totalJobsServed = (systemTimes calls).length)
    (htotal : stats.totalSystemTimeUs.toNat = (systemTimes calls).sum)
    (hsquares : stats.sumOfSystemTimeSquaredUs2 =
      (((systemTimes calls).map fun x => x ^ 2).sum : ℕ)) : VarianceRight stats calls := by
  intro v hv
  refine ⟨?_, variance_nonneg _⟩
  by_cases hfew : stats.totalJobsServed ≤ 1
  · rw [systemTimeVariance, if_pos hfew] at hv
    cases hv
  · rw [systemTimeVariance_eq hfew] at hv
    have hne : systemTimesQ calls ≠ [] := by
      intro hnil
      rw [systemTimesQ, List.map_eq_nil_iff] at hnil
      rw [hserved, hnil] at hfew
      exact hfew (Nat.zero_le 1)
    have hsum : (systemTimesQ calls).sum = ((systemTimes calls).sum : ℚ) :=
      (Nat.cast_list_sum (systemTimes calls)).symm
    have hsq : ((systemTimesQ calls).map fun x => x ^ 2).sum =
        ((((systemTimes calls).map fun x => x ^ 2).sum : ℕ) : ℚ) := by
      rw [Nat.cast_list_sum, systemTimesQ, List.map_map, List.map_map]
      simp [Function.comp_def]
    have hlen : ((systemTimesQ calls).length : ℚ) = stats.totalJobsServed := by
      rw [hserved, systemTimesQ, List.length_map]
    rw [← Option.some.inj hv, variance_eq hne, mean, hsum, hsq, hlen, htotal, hsquares]
    rfl

/-- **When the moments of the system times are exact.**  Through any sequence of log events, from
zero statistics, in which every job that departs does so after it arrived and the system times add
up to less than 2^64: the two sums are those of the system times and of their squares, and the
variance that `calculate_system_time_std_dev` computes is their population variance, exactly when
the square of each system time fits in an `int`. -/
theorem system_times_exact (mode : LogMode) (d : Data) (hzero : d.stats = .zero)
    (calls : List (ULong × Event)) (hjobs : DepartLater calls)
    (hfits : (systemTimes calls).sum < 2 ^ 64) :
    let stats := (d.emitAll mode calls).stats
    (stats.totalSystemTimeUs.toNat = (systemTimes calls).sum ∧
        stats.sumOfSystemTimeSquaredUs2 = (((systemTimes calls).map fun x => x ^ 2).sum : ℕ) ∧
        VarianceRight stats calls) ↔
      ∀ x ∈ systemTimes calls, x ^ 2 < 2 ^ 31 := by
  obtain ⟨hserved, hsquares, htotal⟩ := departures_add_up mode calls d
  have htimes := systemTimes_eq hjobs
  rw [hzero] at hserved hsquares htotal
  rw [← htimes] at htotal
  have hlen : (measuredTimes calls).length = (systemTimes calls).length := by
    rw [htimes, List.length_map]
  have hexact : ((((systemTimes calls).map fun x => x ^ 2).sum : ℕ) : Int) =
      ((measuredTimes calls).map fun t => (t.toNat : Int) ^ 2).sum := by
    rw [Nat.cast_list_sum, htimes, List.map_map, List.map_map]
    simp [Function.comp_def]
  have hiff : (∀ t ∈ measuredTimes calls, t.toNat ^ 2 < 2 ^ 31) ↔
      ∀ x ∈ systemTimes calls, x ^ 2 < 2 ^ 31 := by
    rw [htimes]
    simp
  rw [← hiff, ← squares_exact_iff]
  constructor
  · rintro ⟨-, hsq, -⟩
    rw [hsquares, hexact] at hsq
    simpa [SimulationStatistics.zero] using hsq
  · intro hsum
    have hsmall : ∀ x ∈ systemTimes calls, x < 2 ^ 31 := by
      intro x hx
      have := hiff.mp ((squares_exact_iff _).mp hsum) x hx
      nlinarith only [this]
    have htotal' : (d.emitAll mode calls).stats.totalSystemTimeUs.toNat =
        (systemTimes calls).sum := by
      rw [htotal hsmall (by simpa [SimulationStatistics.zero] using hfits)]
      exact Nat.zero_add _
    have hsquares' : (d.emitAll mode calls).stats.sumOfSystemTimeSquaredUs2 =
        (((systemTimes calls).map fun x => x ^ 2).sum : ℕ) := by
      rw [hsquares, hsum, hexact]
      exact Int.zero_add _
    refine ⟨htotal', hsquares', varianceRight_of_sums ?_ htotal' hsquares'⟩
    rw [hserved, hlen]
    exact Nat.zero_add _

/-- The departure of a job that was in the system from `arrived` to `departed`. -/
def departure (arrived departed : ULong) : ULong × Event :=
  (departed, .systemDeparture
    { initJob 1 500000 10 with
      systemArrivalTimeUs := arrived
      serviceDepartureTimeUs := departed }
    ((freshData defaultServer).slot 0))

/-- Two jobs of 30 and 40 milliseconds. -/
theorem system_times_exact_short_jobs :
    let calls := [departure 1000000 1030000, departure 1500000 1540000]
    let stats := ((freshData defaultServer).emitAll .server calls).stats
    (stats.totalSystemTimeUs.toNat = (systemTimes calls).sum ∧
        stats.sumOfSystemTimeSquaredUs2 = (((systemTimes calls).map fun x => x ^ 2).sum : ℕ) ∧
        VarianceRight stats calls) ↔
      ∀ x ∈ systemTimes calls, x ^ 2 < 2 ^ 31 :=
  system_times_exact .server (freshData defaultServer) rfl
    [departure 1000000 1030000, departure 1500000 1540000] (by decide +kernel) (by decide +kernel)

/-- **A negative variance.**  Two jobs of 500 and 600 milliseconds: the squares overflow, their sum
is 114643968 in place of 610000000000, and the report's variance is negative. -/
theorem system_times_overflow :
    let calls := [departure 1000000 1500000, departure 1500000 2100000]
    let stats := ((freshData defaultServer).emitAll .server calls).stats
    DepartLater calls ∧ (systemTimes calls).sum < 2 ^ 64 ∧
      ((systemTimes calls).map fun x => x ^ 2).sum = 610000000000 ∧
        stats.sumOfSystemTimeSquaredUs2 = 114643968 ∧
          systemTimeVariance stats = some (.num (-302442678016)) ∧
            variance (systemTimesQ calls) = 2500000000 := by
  decide +kernel

end Orchestrator
