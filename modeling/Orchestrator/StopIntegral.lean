import Orchestrator.Frames
import Orchestrator.Queueing.Ledger
import Orchestrator.SimulationStats

/-!
# The queue integral of a stopped run

The stop handler removes every job from the queue and does not add to `area_num_in_job_queue_us`.

* `emptyQueueIfTerminatingAt` — the loop, with what the clock returns in every round.
* `emptyQueue_drains` — it empties the queue, counts the jobs and leaves the integral as it was.
* `stop_keeps_integral` — that is the integral up to the last removal exactly when the queue was
  empty or no time has passed since `last_interaction_time_us`.
-/

namespace Orchestrator

open Queueing

variable {d : Data}

/-! ## The loop -/

/-- What `get_time_in_us` returns in one round: for the time stamp of the queue, and for that of the
job. -/
structure DrainClock where
  dequeueUs : ULong
  departureUs : ULong

/-- One round of `empty_queue_if_terminating`. -/
def removeFront (mode : LogMode) (now : DrainClock) (d : Data) : Data :=
  match timedQueueDequeueFront d.jobQueue now.dequeueUs with
  | (some job, queue) =>
      (({ d with
          clock := now.departureUs
          jobQueue := queue
          dequeued := d.dequeued ++ [job] }).emit mode
        (.removedJob { job with queueDepartureTimeUs := now.departureUs })).modifyStats fun st =>
          { st with totalJobsRemoved := st.totalJobsRemoved + 1 }
  | (none, _) => d

/-- `empty_queue_if_terminating`, with the clock of each round. -/
def emptyQueueIfTerminatingAt (mode : LogMode) : List DrainClock → Data → Data
  | [], d => d
  | now :: clocks, d =>
      if timedQueueIsEmpty d.jobQueue then d
      else emptyQueueIfTerminatingAt mode clocks (removeFront mode now d)

/-- The round that the stop handler executes between two readings of the clock. -/
lemma emptyQueueRound_eq (mode : LogMode) (d : Data) :
    emptyQueueRound mode d = removeFront mode ⟨d.clock, d.clock⟩ d := rfl

/-- **While the clock stands still**, it is the loop that the stop handler executes. -/
theorem emptyQueueIfTerminating_eq (mode : LogMode) (d : Data) :
    emptyQueueIfTerminating mode d =
      emptyQueueIfTerminatingAt mode
        (List.replicate (timedQueueLength d.jobQueue) ⟨d.clock, d.clock⟩) d := by
  suffices hloop : ∀ (n : ℕ) (d : Data), d.jobQueue.list.length = n →
      (emptyQueueRound mode)^[n] d =
        emptyQueueIfTerminatingAt mode (List.replicate n ⟨d.clock, d.clock⟩) d from
    hloop _ d rfl
  intro n
  induction n with
  | zero => intro d _; rfl
  | succ n ih =>
      intro d hn
      have hlen : (emptyQueueRound mode d).jobQueue.list.length = n := by
        rw [emptyQueueRound_list, List.length_tail, hn]
        rfl
      have hempty : timedQueueIsEmpty d.jobQueue = false := by
        cases hlist : d.jobQueue.list with
        | nil => rw [hlist] at hn; cases hn
        | cons job rest => rw [timedQueueIsEmpty, hlist]; rfl
      have hclock : (emptyQueueRound mode d).clock = d.clock := by
        rw [emptyQueueRound]
        split <;> rfl
      rw [Function.iterate_succ_apply, ih _ hlen, hclock, List.replicate_succ,
        emptyQueueIfTerminatingAt, hempty]
      show _ = emptyQueueIfTerminatingAt mode _ (removeFront mode _ d)
      rw [← emptyQueueRound_eq]

/-- A round takes the front job out and touches neither the integral nor the duration. -/
lemma removeFront_cons (mode : LogMode) (now : DrainClock) {job : Job} {rest : List Job}
    (h : d.jobQueue.list = job :: rest) :
    (removeFront mode now d).jobQueue = { list := rest, lastInteractionTimeUs := now.dequeueUs } ∧
      (removeFront mode now d).stats =
        { d.stats with totalJobsRemoved := d.stats.totalJobsRemoved + 1 } := by
  simp only [removeFront, timedQueueDequeueFront, h]
  cases mode <;> exact ⟨rfl, rfl⟩

/-- **What the loop does**, when it has a reading of the clock for each job. -/
theorem emptyQueue_drains (mode : LogMode) {clocks : List DrainClock} {d : Data}
    (hlen : clocks.length = d.jobQueue.list.length) :
    (emptyQueueIfTerminatingAt mode clocks d).jobQueue.list = [] ∧
      (emptyQueueIfTerminatingAt mode clocks d).stats =
        { d.stats with
          totalJobsRemoved := d.stats.totalJobsRemoved + d.jobQueue.list.length } := by
  induction clocks generalizing d with
  | nil =>
      have hnil : d.jobQueue.list = [] := List.eq_nil_of_length_eq_zero hlen.symm
      rw [emptyQueueIfTerminatingAt, hnil]
      exact ⟨rfl, rfl⟩
  | cons now clocks ih =>
      obtain ⟨job, rest, hqueue⟩ := List.exists_cons_of_length_eq_add_one hlen.symm
      have hempty : timedQueueIsEmpty d.jobQueue = false := by rw [timedQueueIsEmpty, hqueue]; rfl
      obtain ⟨hlist, hstats⟩ := removeFront_cons mode now hqueue
      have hrest : clocks.length = (removeFront mode now d).jobQueue.list.length := by
        rw [hqueue] at hlen
        rw [hlist]
        exact Nat.succ.inj hlen
      obtain ⟨hnil, hafter⟩ := ih hrest
      rw [emptyQueueIfTerminatingAt, hempty]
      refine ⟨hnil, ?_⟩
      show (emptyQueueIfTerminatingAt mode clocks (removeFront mode now d)).stats = _
      rw [hafter, hstats, hlist, hqueue, List.length_cons]
      simp only [SimulationStatistics.mk.injEq, true_and, and_true]
      omega

/-! ## The integral -/

section Integral

variable {ι : Type}

/-- The integral of the length of a line over time, up to the last entry of its books. -/
def lengthIntegral (l : Ledger ι) : ℕ := ∑ t ∈ Finset.Ico l.first l.last, l.lengthAt t

/-- The statistics have the integral of the length of the queue, and the report its average. -/
structure IntegralRight (l : Ledger ι) (stats : SimulationStatistics) : Prop where
  area : stats.areaNumInJobQueueUs.toNat = lengthIntegral l
  average : stats.simulationDurationUs ≠ 0 → calculateAverageQueueLength stats =
    .num ((lengthIntegral l : ℚ) / stats.simulationDurationUs.toNat)

/-- Books of the queue so far, by which the integral is right up to its last interaction. -/
structure QueueHistory (l : Ledger ι) (d : Data) : Prop where
  built : l.Built
  length : l.present.length = d.jobQueue.list.length
  last : l.last = d.jobQueue.lastInteractionTimeUs.toNat
  area : d.stats.areaNumInJobQueueUs.toNat = lengthIntegral l

lemma integralRight_of_area {l : Ledger ι} {stats : SimulationStatistics}
    (h : stats.areaNumInJobQueueUs.toNat = lengthIntegral l) : IntegralRight l stats where
  area := h
  average hduration := by
    have hne : (stats.simulationDurationUs.toNat : ℚ) ≠ 0 := by
      rw [Nat.cast_ne_zero]
      intro hzero
      exact hduration (UInt64.toNat_inj.mp hzero)
    rw [calculateAverageQueueLength, if_neg hduration]
    simp only [Double.ofNat, Double.div_num hne, h]

/-- **When stopping keeps the queue integral right.**  From any content of the queue and any
statistics with the integral up to `last_interaction_time_us`, and at any clock readings that do not
go back: `empty_queue_if_terminating` empties the queue and counts the jobs it removed, and
`area_num_in_job_queue_us` is the integral up to the last removal exactly when every removal takes
place at `last_interaction_time_us`. -/
theorem stop_keeps_integral (mode : LogMode) {l : Ledger ι} {d : Data} (h : QueueHistory l d)
    {clocks : List DrainClock} (hlen : clocks.length = d.jobQueue.list.length)
    (hordered : (d.jobQueue.lastInteractionTimeUs :: clocks.map DrainClock.dequeueUs).Pairwise
      fun t u => t ≤ u) :
    let d' := emptyQueueIfTerminatingAt mode clocks d
    d'.jobQueue.list = [] ∧
      d'.stats.totalJobsRemoved = d.stats.totalJobsRemoved + d.jobQueue.list.length ∧
      (IntegralRight (l.leaveAll (clocks.map fun now => now.dequeueUs.toNat)) d'.stats ↔
        ∀ now ∈ clocks, now.dequeueUs = d.jobQueue.lastInteractionTimeUs) := by
  obtain ⟨hempty, hstats⟩ := emptyQueue_drains mode hlen
  have hcount : (clocks.map fun now => now.dequeueUs.toNat).length = l.present.length := by
    rw [List.length_map, hlen, h.length]
  have htimes : (l.last :: clocks.map fun now => now.dequeueUs.toNat).Pairwise (· ≤ ·) := by
    rw [h.last]
    have hmap := hordered.map UInt64.toNat fun t u htu => UInt64.le_iff_toNat_le.mp htu
    rwa [List.map_cons, List.map_map] at hmap
  obtain ⟨_, hsame⟩ := Ledger.area_leaveAll hcount htimes
  rw [(h.built.leaveAll hcount htimes).area_eq_sum, h.built.area_eq_sum] at hsame
  have hcond : (∀ t ∈ clocks.map (fun now => now.dequeueUs.toNat), t = l.last) ↔
      ∀ now ∈ clocks, now.dequeueUs = d.jobQueue.lastInteractionTimeUs := by
    rw [List.forall_mem_map, h.last]
    exact forall₂_congr fun now _ => UInt64.toNat_inj
  have harea : (emptyQueueIfTerminatingAt mode clocks d).stats.areaNumInJobQueueUs.toNat =
      lengthIntegral l := by
    rw [hstats]
    exact h.area
  refine ⟨hempty, by rw [hstats], ?_⟩
  rw [← hcond, ← hsame]
  constructor
  · intro hright
    exact hright.area.symm.trans harea
  · intro heq
    exact integralRight_of_area (harea.trans heq.symm)

end Integral

/-- Two jobs are in the queue, since 10 and 20 microseconds after the start. -/
def twoWaiting : Data :=
  { freshData defaultServer with
    jobQueue :=
      { list :=
          [{ initJob 1 200000 10 with queueArrivalTimeUs := 10 },
            { initJob 2 200000 10 with queueArrivalTimeUs := 20 }]
        lastInteractionTimeUs := 20 }
    stats :=
      { SimulationStatistics.zero with areaNumInJobQueueUs := 10, simulationDurationUs := 120 } }

/-- The books of their queue. -/
def twoWaitingHistory : Ledger ℕ := ((Ledger.opened 0).arrive 1 10).arrive 2 20

lemma twoWaiting_history : QueueHistory twoWaitingHistory twoWaiting where
  built := .arrive 2 (.arrive 1 (.opened 0) (by decide)) (by decide)
  length := rfl
  last := rfl
  area := by decide +kernel

theorem stop_keeps_integral_two_waiting :
    let clocks : List DrainClock := [⟨120, 120⟩, ⟨130, 130⟩]
    let d' := emptyQueueIfTerminatingAt .server clocks twoWaiting
    d'.jobQueue.list = [] ∧
      d'.stats.totalJobsRemoved =
        twoWaiting.stats.totalJobsRemoved + twoWaiting.jobQueue.list.length ∧
      (IntegralRight (twoWaitingHistory.leaveAll (clocks.map fun now => now.dequeueUs.toNat))
          d'.stats ↔
        ∀ now ∈ clocks, now.dequeueUs = twoWaiting.jobQueue.lastInteractionTimeUs) :=
  @stop_keeps_integral ℕ .server twoWaitingHistory twoWaiting twoWaiting_history
    [⟨120, 120⟩, ⟨130, 130⟩] rfl
    (by decide +kernel)

/-- **The waiting of removed jobs is lost.**  The two jobs are removed at 120 and 130: the integral
is 220 by then, and the statistics still have 10. -/
theorem stop_loses_waiting :
    let clocks : List DrainClock := [⟨120, 120⟩, ⟨130, 130⟩]
    let d' := emptyQueueIfTerminatingAt .server clocks twoWaiting
    let l' := twoWaitingHistory.leaveAll (clocks.map fun now => now.dequeueUs.toNat)
    QueueHistory twoWaitingHistory twoWaiting ∧
      d'.jobQueue.list = [] ∧ d'.stats.areaNumInJobQueueUs = 10 ∧ lengthIntegral l' = 220 ∧
        calculateAverageQueueLength d'.stats = .num (10 / 120) := by
  refine ⟨twoWaiting_history, ?_⟩
  decide +kernel

end Orchestrator
