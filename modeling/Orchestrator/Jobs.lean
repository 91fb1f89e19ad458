import Orchestrator.Log.Agreement
import Orchestrator.Queueing.Station
import Orchestrator.Steps

/-!
# What memory says about jobs

The parts of memory that tell where jobs are, and which instructions change them.

* `Data.jobs` — the queue, the jobs ever taken from its front, and the ids in the log events that
  count a job as arrived, served, dropped or removed.
* `printer_jobs`, `receiver_jobs`, `stop_jobs` — the few places where a thread changes them; every
  other instruction leaves them alone.
* `Counted` — the counters of the statistics are the numbers of these log events.
-/

namespace Orchestrator

open Pthread

/-! ## Log events about jobs -/

namespace Event

def arrivedId : Event → Option ℕ
  | .systemArrival job _ => some job.id
  | _ => none

def servedId : Event → Option ℕ
  | .systemDeparture job _ => some job.id
  | _ => none

def droppedId : Event → Option ℕ
  | .droppedJob job _ => some job.id
  | _ => none

def removedId : Event → Option ℕ
  | .removedJob job => some job.id
  | _ => none

/-- The event counts a job as arrived, served, dropped or removed. -/
def aboutJobs : Event → Bool
  | .systemArrival _ _ | .systemDeparture _ _ | .droppedJob _ _ | .removedJob _ => true
  | _ => false

end Event

/-- The state of the jobs. -/
structure JobView where
  queue : List Job
  dequeued : List Job
  arrived : List ℕ
  served : List ℕ
  dropped : List ℕ
  removed : List ℕ
  totalArrived : ℕ
  totalServed : ℕ
  totalDropped : ℕ
  totalRemoved : ℕ

/-- What a log event adds.  The removals are counted by the stop handler itself. -/
def JobView.record (v : JobView) (e : Event) : JobView :=
  { v with
    arrived := e.arrivedId.toList ++ v.arrived
    served := e.servedId.toList ++ v.served
    dropped := e.droppedId.toList ++ v.dropped
    removed := e.removedId.toList ++ v.removed
    totalArrived := v.totalArrived + e.arrivedId.toList.length
    totalServed := v.totalServed + e.servedId.toList.length
    totalDropped := v.totalDropped + e.droppedId.toList.length }

namespace Data

/-- The state of the jobs in memory. -/
def jobs (d : Data) : JobView where
  queue := d.jobQueue.list
  dequeued := d.dequeued
  arrived := d.emitted.filterMap Event.arrivedId
  served := d.emitted.filterMap Event.servedId
  dropped := d.emitted.filterMap Event.droppedId
  removed := d.emitted.filterMap Event.removedId
  totalArrived := d.stats.totalJobsArrived
  totalServed := d.stats.totalJobsServed
  totalDropped := d.stats.totalJobsDropped
  totalRemoved := d.stats.totalJobsRemoved

variable (mode : LogMode) (e : Event) (d : Data)

lemma filterMap_cons_toList {α β : Type} (f : α → Option β) (a : α) (l : List α) :
    (a :: l).filterMap f = (f a).toList ++ l.filterMap f := by
  cases h : f a <;> simp [h]

/-- Both back ends count the same events. -/
lemma emit_counters :
    (d.emit mode e).stats.totalJobsArrived =
        d.stats.totalJobsArrived + e.arrivedId.toList.length ∧
      (d.emit mode e).stats.totalJobsServed =
        d.stats.totalJobsServed + e.servedId.toList.length ∧
      (d.emit mode e).stats.totalJobsDropped =
        d.stats.totalJobsDropped + e.droppedId.toList.length ∧
      (d.emit mode e).stats.totalJobsRemoved = d.stats.totalJobsRemoved := by
  rw [emit_mode mode .server]
  cases e with
  | systemDeparture job printer =>
      simp only [emit, logger, websocketOps, Option.getD_some, publishSystemDeparture,
        publishDepartureOfPrinter]
      split <;> exact ⟨rfl, rfl, rfl, rfl⟩
  | _ => exact ⟨rfl, rfl, rfl, rfl⟩

lemma emit_jobs : (d.emit mode e).jobs = d.jobs.record e := by
  obtain ⟨harr, hserv, hdrop, hrem⟩ := emit_counters mode e d
  simp only [jobs, JobView.record, emit_jobQueue_list, harr, hserv, hdrop, hrem,
    JobView.mk.injEq, true_and, and_true]
  exact ⟨rfl, filterMap_cons_toList _ _ _, filterMap_cons_toList _ _ _,
    filterMap_cons_toList _ _ _, filterMap_cons_toList _ _ _⟩

variable {e}

lemma emit_jobs_of_silent (h : e.aboutJobs = false) : (d.emit mode e).jobs = d.jobs := by
  rw [emit_jobs]
  cases e <;> first | rfl | cases h

end Data

variable {setup : Setup} {d d' : Data}

/-! ## The effects on jobs -/

lemma takeJob_jobs {job : Job} {rest : List Job} (i : Slot) (h : d.jobQueue.list = job :: rest) :
    (Printer.takeJob i d).jobs =
        { d.jobs with queue := rest, dequeued := d.jobs.dequeued ++ [job] } ∧
      ((Printer.takeJob i d).printer i).job = job := by
  simp only [Printer.takeJob, timedQueueDequeueFront, h]
  exact ⟨rfl, by simp [Data.modifyLocals]⟩

lemma departSystem_jobs (mode : LogMode) (i : Slot) (d : Data) :
    (Printer.departSystem mode i d).jobs =
      { d.jobs with
        served := (d.printer i).job.id :: d.jobs.served
        totalServed := d.jobs.totalServed + 1 } := by
  rw [Printer.departSystem, Data.emit_jobs]
  rfl

lemma reportArrival_jobs (mode : LogMode) (d : Data) :
    (Receiver.reportArrival mode d).jobs =
      { d.jobs with
        arrived := d.receiver.job.id :: d.jobs.arrived
        totalArrived := d.jobs.totalArrived + 1 } := by
  rw [Receiver.reportArrival, Data.emit_jobs_of_silent _ _ rfl, Data.emit_jobs]
  rfl

lemma reportQueueArrival_jobs (mode : LogMode) (d : Data) :
    (Receiver.reportQueueArrival mode d).jobs = d.jobs := by
  rw [Receiver.reportQueueArrival, Data.emit_jobs_of_silent _ _ rfl,
    Data.emit_jobs_of_silent _ _ rfl, Data.emit_jobs_of_silent _ _ rfl]
  rfl

lemma emit_droppedJob_jobs (mode : LogMode) (job : Job) (previous : ULong) (d : Data) :
    (d.emit mode (.droppedJob job previous)).jobs =
      { d.jobs with
        dropped := job.id :: d.jobs.dropped
        totalDropped := d.jobs.totalDropped + 1 } := by
  rw [Data.emit_jobs]
  rfl

lemma enqueueJob_jobs (d : Data) :
    (Receiver.enqueueJob d).jobs =
      { d.jobs with queue := d.jobs.queue ++ [d.receiver.job] } := rfl

lemma emptyQueueRound_jobs_nil (mode : LogMode) (h : d.jobQueue.list = []) :
    emptyQueueRound mode d = d := by
  simp only [emptyQueueRound, timedQueueDequeueFront, h]

lemma emptyQueueRound_jobs_cons {job : Job} {rest : List Job} (mode : LogMode)
    (h : d.jobQueue.list = job :: rest) :
    (emptyQueueRound mode d).jobs =
      { d.jobs with
        queue := rest
        dequeued := d.jobs.dequeued ++ [job]
        removed := job.id :: d.jobs.removed
        totalRemoved := d.jobs.totalRemoved + 1 } := by
  simp only [emptyQueueRound, timedQueueDequeueFront, h]
  have hstats : ∀ d : Data, (d.modifyStats fun st =>
      { st with totalJobsRemoved := st.totalJobsRemoved + 1 }).jobs =
        { d.jobs with totalRemoved := d.jobs.totalRemoved + 1 } := fun _ => rfl
  rw [hstats, Data.emit_jobs]
  rfl

/-! ## Printers -/

/-- The printer has taken a job from the queue and has not recorded its departure. -/
def PrinterPc.holdsJob : PrinterPc → Bool
  | .emitQueueDeparture | .unlockQueue | .emitArrival | .markBusy | .emitBusy | .service
  | .usePaper | .markIdle | .emitIdle | .lockStats | .emitDeparture => true
  | _ => false

/-- The job in the hands of printer `i`, when it is at `q`. -/
def inHand (i : Slot) (q : PrinterPc) (d : Data) : Option ℕ :=
  if q.holdsJob then some (d.printer i).job.id else none

/-- A printer changes the state of the jobs when it takes one and when it records its departure. -/
lemma printer_jobs {i : Slot} {args : PrinterThreadArgs} {q q' : PrinterPc}
    (h : (printerCode setup i args q).Goes d d' q') :
    (d'.jobs = d.jobs ∧ inHand i q' d' = inHand i q d) ∨
      (q = .dequeue ∧ d' = Printer.takeJob i d ∧ q' = .emitQueueDeparture) ∨
      (q = .emitDeparture ∧ d' = Printer.departSystem setup.mode i d ∧ q' = .emitStats) := by
  cases q with
  | dequeue => exact .inr (.inl ⟨rfl, h⟩)
  | emitDeparture => exact .inr (.inr ⟨rfl, h⟩)
  | exit => exact h.elim
  | checkQueue | checkPaper | checkRefilled | readTerminateInWait | checkDone =>
      left
      obtain ⟨rfl, rfl⟩ := h
      refine ⟨rfl, ?_⟩
      simp only
      split <;> (try split) <;> rfl
  | emitPaperEmpty =>
      left
      obtain ⟨rfl, rfl⟩ := h
      refine ⟨?_, rfl⟩
      simp only
      rw [Data.emit_jobs_of_silent _ _ rfl, Data.emit_jobs_of_silent _ _ rfl]
      rfl
  | emitQueueDeparture =>
      left
      obtain ⟨rfl, rfl⟩ := h
      refine ⟨?_, by simp [inHand, PrinterPc.holdsJob, Printer.leaveQueue]⟩
      rw [Printer.leaveQueue, Data.emit_jobs_of_silent _ _ rfl, Data.emit_jobs_of_silent _ _ rfl,
        Data.emit_jobs_of_silent _ _ rfl]
      rfl
  | emitArrival =>
      left
      obtain ⟨rfl, rfl⟩ := h
      refine ⟨?_, by simp [inHand, PrinterPc.holdsJob, Printer.arriveAtPrinter]⟩
      rw [Printer.arriveAtPrinter, Data.emit_jobs_of_silent _ _ rfl]
      rfl
  | markIdle =>
      left
      obtain ⟨rfl, rfl⟩ := h
      exact ⟨rfl, by simp [inHand, PrinterPc.holdsJob, Printer.markIdle]⟩
  | recordEmptyTime =>
      left
      obtain ⟨rfl, rfl⟩ := h
      refine ⟨?_, rfl⟩
      rw [Printer.recordEmptyTime]
      split <;> rfl
  | _ =>
      left
      obtain ⟨rfl, rfl⟩ := h
      first
        | exact ⟨rfl, rfl⟩
        | exact ⟨Data.emit_jobs_of_silent _ _ rfl, rfl⟩

/-! ## The receiver -/

/-- The receiver's job was counted as arrived and is neither in the queue nor dropped. -/
def ReceiverPc.holdsJob : ReceiverPc → Bool
  | .unlockStatsArrival | .lockQueue | .checkCapacity | .dropUnlockQueue | .lockStatsDrop
  | .emitDrop | .stampQueueArrival | .enqueue => true
  | _ => false

/-- The job the receiver has counted and not placed, when it is at `q`. -/
def pendingJob (q : ReceiverPc) (d : Data) : Option ℕ :=
  if q.holdsJob then some d.receiver.job.id else none

lemma pendingJob_of_holds {q : ReceiverPc} (h : q.holdsJob = true) :
    pendingJob q d = some d.receiver.job.id :=
  if_pos h

lemma pendingJob_eq_none {q : ReceiverPc} (h : q.holdsJob = false) : pendingJob q d = none :=
  if_neg (by rw [h]; exact Bool.false_ne_true)

/-- The receiver changes the state of the jobs when it counts an arrival, when it drops a job and
when it enqueues one. -/
lemma receiver_jobs {q q' : ReceiverPc} (h : (receiverCode setup q).Goes d d' q') :
    (d'.jobs = d.jobs ∧ pendingJob q' d' = pendingJob q d) ∨
      (q = .emitArrival ∧ d' = Receiver.reportArrival setup.mode d ∧ q' = .unlockStatsArrival) ∨
      (q = .emitDrop ∧ d' = d.emit setup.mode
        (.droppedJob d.receiver.job d.receiver.previousJobArrivalTimeUs) ∧
        q' = .unlockStatsDrop) ∨
      (q = .enqueue ∧ d' = Receiver.enqueueJob d ∧ q' = .lockStatsQueue) := by
  cases q with
  | emitArrival => exact .inr (.inl ⟨rfl, h⟩)
  | emitDrop => exact .inr (.inr (.inl ⟨rfl, h⟩))
  | enqueue => exact .inr (.inr (.inr ⟨rfl, h⟩))
  | exit => exact h.elim
  | nextJob =>
      left
      obtain ⟨rfl, rfl⟩ := h
      have hpc : pendingJob .nextJob d = none := rfl
      rw [Receiver.createJob, hpc]
      split
      · exact ⟨rfl, by simp [pendingJob, Data.modifyReceiver, *, ReceiverPc.holdsJob]⟩
      · exact ⟨rfl, by simp [pendingJob, *, ReceiverPc.holdsJob]⟩
  | readTerminate | checkCapacity =>
      left
      obtain ⟨rfl, rfl⟩ := h
      refine ⟨rfl, ?_⟩
      simp only
      split <;> rfl
  | emitQueueArrival =>
      left
      obtain ⟨rfl, rfl⟩ := h
      exact ⟨reportQueueArrival_jobs setup.mode d, rfl⟩
  | _ =>
      left
      obtain ⟨rfl, rfl⟩ := h
      exact ⟨rfl, rfl⟩

/-! ## The other threads -/

/-- The stop handler changes the state of the jobs when it drains the queue. -/
lemma stop_jobs {q q' : StopPc} (h : (stopCode setup q).Goes d d' q') :
    d'.jobs = d.jobs ∨ (q = .drain ∧ d' = emptyQueueRound setup.mode d) := by
  cases q with
  | drain => exact .inr ⟨rfl, h.1⟩
  | setFlags => left; rw [h.1]; rfl
  | emitStopped => left; rw [h.1]; exact Data.emit_jobs_of_silent _ _ rfl
  | _ => left; rw [stop_quiet h rfl]

lemma RefillEffect.jobs (h : RefillEffect setup.mode d d') : d'.jobs = d.jobs := by
  cases h with
  | noted _ _ data | filled _ _ data => rw [data]; rfl
  | reported _ e data he =>
      rw [data]
      cases e <;> first | exact Data.emit_jobs_of_silent _ _ rfl | cases he

lemma refiller_jobs {q q' : RefillerPc} (h : (refillerCode setup q).Goes d d' q') :
    d'.jobs = d.jobs := by
  by_cases hq : q = .recordRefill
  · subst hq
    rw [h.1]
    rfl
  · exact (refiller_refills h hq).jobs

lemma ScalingEffect.jobs (h : ScalingEffect setup.mode d d') : d'.jobs = d.jobs := by
  cases h with
  | scaled _ _ _ data _ => rw [data]; rfl
  | reported _ e data he =>
      rw [data]
      cases e <;> first | exact Data.emit_jobs_of_silent _ _ rfl | cases he

lemma autoscaler_jobs {q q' : AutoscalerPc} (h : (autoscalerCode setup q).Goes d d' q') :
    d'.jobs = d.jobs :=
  (autoscaler_scales h).jobs

lemma main_jobs {q q' : MainPc} (h : (mainCode setup q).Goes d d' q') : d'.jobs = d.jobs := by
  cases q with
  | emitParameters | emitStart | emitEnd | emitStatistics =>
      rw [h.1]; exact Data.emit_jobs_of_silent _ _ rfl
  | _ => exact (main_scales h rfl).jobs

end Orchestrator
