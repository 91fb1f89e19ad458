import Orchestrator.QueueDiscipline
import Orchestrator.ReportView
import Orchestrator.Pthread.Peak

/-!
# The peak length of the job queue

The receiver reads the length of the queue before it adds a job, and raises `max_job_queue_length`
to that.

* `receiver_seen` — the length it has read counts from the moment it adds its job.
* `PeakKept` — the recorded maximum is one less than the peak.
* `max_length_is_peak` — it is the peak only if no job has been in the queue.
-/

namespace Orchestrator

open Pthread

variable {setup : Setup} {d d' : Data} {s s' : Sys} {a : SysAction}
  {ok : Sys → SysAction → Prop}

/-- The receiver has added its job to the queue and has not reported that. -/
def ReceiverPc.hasAdded : ReceiverPc → Bool
  | .lockStatsQueue | .emitQueueArrival => true
  | _ => false

lemma ReceiverPc.held_of_hasAdded {q : ReceiverPc} (hq : q.hasAdded = true) :
    Mutex.jobQueueMutex ∈ receiverHeld q := by
  cases q with
  | lockStatsQueue | emitQueueArrival => decide
  | _ => cases hq

/-- The maximum, with the length that the receiver is about to report. -/
def longestSeen (q : ReceiverPc) (d : Data) : ℕ :=
  if q.hasAdded then max d.reportView.longestQueue d.receiver.queueLength
  else d.reportView.longestQueue

/-- The number of jobs in the queue. -/
def Sys.queueLength (s : Sys) : ℕ := s.data.jobQueue.list.length

/-- What the recorded maximum has to do with the peak. -/
structure PeakKept (peak : ℕ) (s : Sys) : Prop where
  below : s.queueLength ≤ peak
  read : s.receiverPc.enqueues = true → s.data.receiver.queueLength = s.queueLength
  longest : longestSeen s.receiverPc s.data = peak - 1

/-- The receiver's own steps: the length it has read counts from the moment it adds its job. -/
lemma receiver_seen {q q' : ReceiverPc} (h : (receiverCode setup q).Goes d d' q') :
    longestSeen q' d' =
      if q = .enqueue then max d.reportView.longestQueue d.receiver.queueLength
      else longestSeen q d := by
  rcases receiver_reportView h with ⟨hquiet, hv⟩ | ⟨rfl, hv⟩ | ⟨rfl, hv⟩ | ⟨rfl, hv⟩
  · unfold longestSeen
    rw [hv]
    cases q with
    | exit => exact h.elim
    | emitQueueArrival | emitArrival | emitDrop => cases hquiet
    | nextJob | checkCapacity | readTerminate =>
        obtain ⟨_, rfl⟩ := h
        simp only
        split <;> rfl
    | _ => obtain ⟨rfl, rfl⟩ := h; rfl
  · obtain ⟨_, rfl⟩ := h
    rw [longestSeen, hv]
    rfl
  · obtain ⟨_, rfl⟩ := h
    rw [longestSeen, hv]
    rfl
  · obtain ⟨_, rfl⟩ := h
    rw [longestSeen, hv]
    rfl

/-- The receiver knows the length from where it reads it. -/
lemma receiver_read {q q' : ReceiverPc} (h : (receiverCode setup q).Goes d d' q')
    (hq : q'.enqueues = true)
    (hread : q.enqueues = true → d.receiver.queueLength = d.jobQueue.list.length) :
    d'.receiver.queueLength = d'.jobQueue.list.length := by
  cases q with
  | exit => exact h.elim
  | checkCapacity => obtain ⟨rfl, _⟩ := h; rfl
  | stampQueueArrival => obtain ⟨rfl, _⟩ := h; exact hread rfl
  | nextJob | readTerminate =>
      obtain ⟨_, rfl⟩ := h
      simp only at hq
      split at hq <;> cases hq
  | _ => obtain ⟨_, rfl⟩ := h; cases hq

lemma PeakKept.step {peak : ℕ} (ih : PeakKept peak s)
    (h : Reach (program setup) ok (freshState setup) s)
    (hs : step (program setup) s a = some s') : PeakKept (max peak s'.queueLength) s' := by
  have hbelow := ih.below
  rcases receiver_cases h hs with ⟨hex, hpc, hrec⟩ | ⟨ex, goes⟩
  · -- somebody else moves: the queue gets no longer
    have hlen : s'.queueLength ≤ s.queueLength := by
      cases queue_step h hs with
      | same queue => exact (congrArg List.length queue).le
      | join ex _ _ => exact absurd ex hex
      | leave t _ _ _ job queue =>
          have hlen := congrArg List.length queue
          rw [List.length_cons] at hlen
          show s'.data.jobs.queue.length ≤ s.data.jobs.queue.length
          omega
    have hmax : s'.data.reportView.longestQueue = s.data.reportView.longestQueue := by
      cases report_step hs with
      | later _ _ report => rw [report]
      | start _ _ report | ended _ _ report | stopped _ report => rw [report]; rfl
      | enqueued ex _ _ | arrival ex _ _ | drop ex _ _ => exact absurd ex hex
      | departure i _ _ report =>
          rw [report, ReportView.record]
          split <;> rfl
    have hpeak : max peak s'.queueLength = peak := by omega
    rw [hpeak]
    refine ⟨hlen.trans hbelow, fun hq => ?_, ?_⟩
    · rw [hpc] at hq
      have hholds := receiver_holds h (ReceiverPc.held_of_enqueues hq)
      have hkept := queue_kept h hs hholds hex
      rw [hrec, ih.read hq]
      exact (congrArg List.length hkept).symm
    · rw [hpc, longestSeen, hmax, hrec]
      exact ih.longest
  · refine ⟨le_max_right _ _, fun hq => receiver_read goes hq ih.read, ?_⟩
    rw [receiver_seen goes]
    have hlongest := ih.longest
    by_cases hq : s.receiverPc = .enqueue
    · -- the queue is longer by one than the receiver has read
      have hread : s.data.receiver.queueLength = s.queueLength := ih.read (by rw [hq]; rfl)
      have hlen : s'.queueLength = s.queueLength + 1 := by
        rw [hq] at goes
        rw [Sys.queueLength, goes.1]
        exact List.length_append
      rw [if_pos hq, hread, hlen]
      rw [hq] at hlongest
      change s.data.reportView.longestQueue = peak - 1 at hlongest
      omega
    · have hqueue : s'.data.jobs.queue = s.data.jobs.queue := by
        rcases receiver_jobs goes with ⟨hj, _⟩ | ⟨_, hd, _⟩ | ⟨_, hd, _⟩ | ⟨henqueue, _⟩
        · rw [hj]
        · rw [hd, reportArrival_jobs]
        · rw [hd, emit_droppedJob_jobs]
        · exact absurd henqueue hq
      have hlen : s'.queueLength = s.queueLength := congrArg List.length hqueue
      rw [if_neg hq, hlongest, hlen]
      omega

variable {peak : ℕ}

/-- **The maximum is one less than the peak**, counting what the receiver is about to report. -/
theorem peak_kept (h : ReachPeak (program setup) ok (freshState setup) Sys.queueLength peak s) :
    PeakKept peak s :=
  h.invariant (I := PeakKept) ⟨le_rfl, fun hq => (by cases hq), rfl⟩ fun hr ih _ hs => ih.step hr hs

/-- **The recorded maximum is not the peak.**  Wherever the receiver is not in the critical section
of the queue, `max_job_queue_length` is one less than the largest number of jobs that has been in
the queue, in every run; so it is that number only if no job has been in the queue. -/
theorem max_length_is_peak
    (h : ReachPeak (program setup) ok (freshState setup) Sys.queueLength peak s)
    (hout : s.owner .jobQueueMutex ≠ .held .receiver) :
    s.data.stats.maxJobQueueLength = peak - 1 ∧
      (s.data.stats.maxJobQueueLength = peak ↔ peak = 0) := by
  have hlongest := (peak_kept h).longest
  have hadded : s.receiverPc.hasAdded = false := by
    rw [Bool.eq_false_iff]
    intro hq
    have hholds := receiver_holds h.reach (ReceiverPc.held_of_hasAdded hq)
    exact hout (((lockInv h.reach).owner _ _).mpr hholds)
  rw [longestSeen, hadded] at hlongest
  change s.data.stats.maxJobQueueLength = peak - 1 at hlongest
  exact ⟨hlongest, by omega⟩

/-- One job has been in the queue, and the maximum is zero. -/
theorem max_length_of_one_job :
    ∃ peak, ∃ s : Sys, ReachPeak (program defaultServer) anyChoice (freshState defaultServer)
        Sys.queueLength peak s ∧ s.queueLength = 1 ∧ s.owner .jobQueueMutex = .free ∧
      s.data.stats.maxJobQueueLength = peak - 1 ∧
        (s.data.stats.maxJobQueueLength = peak ↔ peak = 0) := by
  obtain ⟨s, hs, hlen, hfree⟩ := exists_run defaultServer anyChoice
    (runs Tid.main 20 ++ runs Tid.receiver 25)
    (fun s => s.queueLength = 1 ∧ s.owner .jobQueueMutex = .free) (by decide +kernel)
  obtain ⟨peak, hpeak⟩ := hs.exists_peak Sys.queueLength
  exact ⟨peak, s, hpeak, hlen, hfree, max_length_is_peak hpeak (by rw [hfree]; simp)⟩

/-- The maximum is zero although a job is in the queue. -/
theorem max_length_below_peak :
    ∃ peak, ∃ s : Sys, ReachPeak (program defaultServer) anyChoice (freshState defaultServer)
        Sys.queueLength peak s ∧ s.owner .jobQueueMutex = .free ∧ 1 ≤ peak ∧
      s.data.stats.maxJobQueueLength = 0 := by
  obtain ⟨s, hs, hlen, hfree, hmax⟩ := exists_run defaultServer anyChoice
    (runs Tid.main 20 ++ runs Tid.receiver 25)
    (fun s => s.queueLength = 1 ∧ s.owner .jobQueueMutex = .free ∧
      s.data.stats.maxJobQueueLength = 0) (by decide +kernel)
  obtain ⟨peak, hpeak⟩ := hs.exists_peak Sys.queueLength
  exact ⟨peak, s, hpeak, hfree, hlen ▸ hpeak.le_peak, hmax⟩

end Orchestrator
