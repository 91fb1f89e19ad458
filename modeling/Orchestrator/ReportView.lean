import Orchestrator.Log.Agreement
import Orchestrator.Steps

/-!
# What the report is computed from

The arrivals, drops, service times and the maximum of the queue length in the statistics, and the
times of the simulation.

* `ReportView.record` — what a log event adds to them.
* `report_step` — the instructions of the threads that report one of these events; every other step
  leaves them alone and moves the clock forward at most.
-/

namespace Orchestrator

open Pthread

/-- When the job of an arrival in the system arrived. -/
def Event.arrivalTime : Event → Option ULong
  | .systemArrival job _ => some job.systemArrivalTimeUs
  | _ => none

/-- The part of the memory that the report of these is about.  `arrivals` are the arrival times of
the jobs, newest first. -/
structure ReportView where
  clock : ULong
  startTimeUs : ULong
  referenceTimeUs : ULong
  durationUs : ULong
  jobsArrived : ℕ
  jobsDropped : ℕ
  interArrivalTimeUs : ULong
  longestQueue : ℕ
  serviceTimeUs : Slot → ULong
  printerIds : Slot → ℕ
  arrivals : List ULong

/-- It, in memory. -/
def Data.reportView (d : Data) : ReportView where
  clock := d.clock
  startTimeUs := d.stats.simulationStartTimeUs
  referenceTimeUs := d.referenceTimeUs
  durationUs := d.stats.simulationDurationUs
  jobsArrived := d.stats.totalJobsArrived
  jobsDropped := d.stats.totalJobsDropped
  interArrivalTimeUs := d.stats.totalInterArrivalTimeUs
  longestQueue := d.stats.maxJobQueueLength
  serviceTimeUs := d.stats.totalServiceTimePrinterUs
  printerIds i := (d.slot i).id
  arrivals := d.emitted.filterMap Event.arrivalTime

/-- `(int)(service_departure_time_us - service_arrival_time_us)`, added to an `unsigned long`. -/
def Job.serviceDuration (job : Job) : ULong :=
  ulongOfInt (intOfULong (job.serviceDepartureTimeUs - job.serviceArrivalTimeUs))

/-- What a log event adds. -/
def ReportView.record (v : ReportView) : Event → ReportView
  | .simulationStart => { v with startTimeUs := v.clock, referenceTimeUs := v.clock }
  | .simulationEnd | .simulationStopped => { v with durationUs := v.clock - v.referenceTimeUs }
  | .systemArrival job previous =>
      { v with
        jobsArrived := v.jobsArrived + 1
        interArrivalTimeUs := v.interArrivalTimeUs + (job.systemArrivalTimeUs - previous)
        arrivals := job.systemArrivalTimeUs :: v.arrivals }
  | .droppedJob _ _ => { v with jobsDropped := v.jobsDropped + 1 }
  | .systemDeparture job printer =>
      match slotOfIndex ((printer.id : Int) - 1) with
      | some i =>
          { v with
            serviceTimeUs :=
              Function.update v.serviceTimeUs i (v.serviceTimeUs i + job.serviceDuration) }
      | none => v
  | _ => v

/-- What the receiver does to the maximum when it adds a job to a queue of some length. -/
def ReportView.raise (v : ReportView) (queueLength : ℕ) : ReportView :=
  { v with longestQueue := max v.longestQueue queueLength }

/-- The event is one of those above. -/
def Event.aboutReport : Event → Bool
  | .simulationStart | .simulationEnd | .simulationStopped | .systemArrival _ _ | .droppedJob _ _
  | .systemDeparture _ _ => true
  | _ => false

/-- Both back ends record the same. -/
lemma emit_reportView (mode : LogMode) (e : Event) (d : Data) :
    (d.emit mode e).reportView = d.reportView.record e := by
  rw [Data.emit_mode mode .server]
  cases e with
  | systemDeparture job printer =>
      simp only [Data.reportView, Data.emit, Data.logger, websocketOps, Option.getD_some,
        publishSystemDeparture, publishDepartureOfPrinter, Event.job, Event.printer,
        ReportView.record, Job.serviceDuration]
      generalize slotOfIndex ((printer.id : Int) - 1) = slot
      cases slot <;> rfl
  | _ => rfl

lemma emit_reportView_of_silent (mode : LogMode) {e : Event} (d : Data)
    (h : e.aboutReport = false) : (d.emit mode e).reportView = d.reportView := by
  rw [emit_reportView]
  cases e <;> first | rfl | cases h

variable {setup : Setup} {d d' : Data}

/-! ## Which instructions record one of them -/

lemma modifyPrinter_reportView (i : Slot) (f : Printer → Printer) (d : Data)
    (hid : ∀ p, (f p).id = p.id) : (d.modifyPrinter i f).reportView = d.reportView := by
  have hids : (fun j => ((d.modifyPrinter i f).slot j).id) = fun j => (d.slot j).id := by
    funext j
    by_cases hj : j = i
    · subst hj
      rw [Data.modifyPrinter_slot_self, hid]
    · rw [Data.modifyPrinter_slot_of_ne _ _ hj]
  simp only [Data.reportView, hids]
  rfl

/-- A printer records a departure. -/
lemma printer_reportView {i : Slot} {args : PrinterThreadArgs} {q q' : PrinterPc}
    (h : (printerCode setup i args q).Goes d d' q') :
    d'.reportView = d.reportView ∨
      (q = .emitDeparture ∧ d'.reportView =
        d.reportView.record (.systemDeparture (d.printer i).job (d.slot i))) := by
  cases q with
  | exit => exact h.elim
  | emitDeparture =>
      right
      refine ⟨rfl, ?_⟩
      have hview : (d.modifyPrinter i fun p =>
          { p with jobsPrintedCount := p.jobsPrintedCount + 1 }).reportView = d.reportView :=
        modifyPrinter_reportView _ _ _ fun _ => rfl
      rw [h.1, Printer.departSystem, emit_reportView, hview]
      simp only [ReportView.record, Data.modifyPrinter_slot_self, Data.modifyPrinter_printer]
  | emitPaperEmpty =>
      left
      rw [h.1, emit_reportView_of_silent _ _ rfl, emit_reportView_of_silent _ _ rfl]
      rfl
  | recordEmptyTime =>
      left
      rw [h.1, Printer.recordEmptyTime]
      split <;> rfl
  | emitQueueDeparture =>
      left
      rw [h.1, Printer.leaveQueue, emit_reportView_of_silent _ _ rfl,
        emit_reportView_of_silent _ _ rfl, emit_reportView_of_silent _ _ rfl]
      rfl
  | emitArrival =>
      left
      rw [h.1, Printer.arriveAtPrinter, emit_reportView_of_silent _ _ rfl]
      rfl
  | markBusy | usePaper | markIdle =>
      left
      rw [h.1]
      exact modifyPrinter_reportView _ _ _ fun _ => rfl
  | _ =>
      left
      obtain ⟨rfl, _⟩ := h
      first
        | rfl
        | exact emit_reportView_of_silent _ _ rfl

/-- The report of a job's arrival in the queue raises the maximum. -/
lemma reportQueueArrival_reportView (mode : LogMode) (d : Data) :
    (Receiver.reportQueueArrival mode d).reportView =
      d.reportView.raise d.receiver.queueLength := by
  have hmax : (if d.receiver.queueLength > d.stats.maxJobQueueLength then d.receiver.queueLength
      else d.stats.maxJobQueueLength) = max d.stats.maxJobQueueLength d.receiver.queueLength := by
    split <;> omega
  rw [Receiver.reportQueueArrival, emit_reportView_of_silent _ _ rfl,
    emit_reportView_of_silent _ _ rfl, emit_reportView_of_silent _ _ rfl]
  simp only [Data.reportView, Data.modifyStats, ReportView.raise, hmax]
  rfl

/-- Where the receiver records something. -/
def ReceiverPc.reports : ReceiverPc → Bool
  | .emitQueueArrival | .emitArrival | .emitDrop => true
  | _ => false

/-- The receiver records arrivals and drops, and raises the maximum. -/
lemma receiver_reportView {q q' : ReceiverPc} (h : (receiverCode setup q).Goes d d' q') :
    (q.reports = false ∧ d'.reportView = d.reportView) ∨
      (q = .emitQueueArrival ∧
        d'.reportView = d.reportView.raise d.receiver.queueLength) ∨
      (q = .emitArrival ∧ d'.reportView = d.reportView.record
        (.systemArrival d.receiver.job d.receiver.previousJobArrivalTimeUs)) ∨
      (q = .emitDrop ∧ d'.reportView = d.reportView.record
        (.droppedJob d.receiver.job d.receiver.previousJobArrivalTimeUs)) := by
  cases q with
  | exit => exact h.elim
  | emitQueueArrival =>
      right; left
      rw [h.1, reportQueueArrival_reportView]
      exact ⟨rfl, rfl⟩
  | emitArrival =>
      right; right; left
      rw [h.1, Receiver.reportArrival, emit_reportView_of_silent _ _ rfl, emit_reportView]
      exact ⟨rfl, rfl⟩
  | emitDrop => right; right; right; rw [h.1, emit_reportView]; exact ⟨rfl, rfl⟩
  | nextJob =>
      left
      refine ⟨rfl, ?_⟩
      rw [h.1, Receiver.createJob]
      split <;> rfl
  | _ => left; obtain ⟨rfl, _⟩ := h; exact ⟨rfl, rfl⟩

/-- The stop handler records its time. -/
lemma stop_reportView {q q' : StopPc} (h : (stopCode setup q).Goes d d' q') :
    d'.reportView = d.reportView ∨
      (q = .emitStopped ∧ d'.reportView = d.reportView.record .simulationStopped) := by
  cases q with
  | emitStopped => right; rw [h.1, emit_reportView]; exact ⟨rfl, rfl⟩
  | drain =>
      left
      rw [h.1, emptyQueueRound]
      split
      · rename_i job queue _
        exact emit_reportView_of_silent setup.mode
          { d with jobQueue := queue, dequeued := d.dequeued ++ [job] } rfl
      · rfl
  | setFlags => left; rw [h.1]; rfl
  | _ => left; rw [stop_quiet h rfl]

lemma RefillEffect.reportView (h : RefillEffect setup.mode d d') :
    d'.reportView = d.reportView := by
  cases h with
  | noted _ _ data => rw [data]; rfl
  | filled _ _ data => rw [data]; exact modifyPrinter_reportView _ _ _ fun _ => rfl
  | reported _ e data he =>
      rw [data]
      cases e <;> first | exact emit_reportView_of_silent _ _ rfl | cases he

lemma refiller_reportView {q q' : RefillerPc} (h : (refillerCode setup q).Goes d d' q') :
    d'.reportView = d.reportView := by
  by_cases hq : q = .recordRefill
  · subst hq
    rw [h.1]
    rfl
  · exact (refiller_refills h hq).reportView

lemma ScalingEffect.reportView (h : ScalingEffect setup.mode d d') :
    d'.reportView = d.reportView := by
  cases h with
  | scaled a pool i data hprinters =>
      have hids : ∀ j, (d'.slot j).id = (d.slot j).id := fun j => by
        rw [data]
        exact congrArg Printer.id (hprinters j)
      simp only [Data.reportView, hids]
      rw [data]
  | reported _ e data he =>
      rw [data]
      cases e <;> first | exact emit_reportView_of_silent _ _ rfl | cases he

/-- The main thread records the start and the end of the simulation. -/
lemma main_reportView {q q' : MainPc} (h : (mainCode setup q).Goes d d' q') :
    d'.reportView = d.reportView ∨
      (q = .emitStart ∧ d'.reportView = d.reportView.record .simulationStart) ∨
      (q = .emitEnd ∧ d'.reportView = d.reportView.record .simulationEnd) := by
  cases q with
  | emitStart => right; left; rw [h.1, emit_reportView]; exact ⟨rfl, rfl⟩
  | emitEnd => right; right; rw [h.1, emit_reportView]; exact ⟨rfl, rfl⟩
  | emitParameters | emitStatistics => left; rw [h.1]; exact emit_reportView_of_silent _ _ rfl
  | _ => exact .inl (main_scales h rfl).reportView

/-! ## One step -/

variable {s s' : Sys} {a : SysAction}

/-- What a step does to the data of the report. -/
inductive ReportStep (setup : Setup) (s s' : Sys) : Prop where
  | later (c : ULong) (le : s.data.clock ≤ c)
      (report : s'.data.reportView = { s.data.reportView with clock := c })
  | start (ex : Executes (program setup) s s' .main) (pc : s.mainPc = .emitStart)
      (report : s'.data.reportView = s.data.reportView.record .simulationStart)
  | ended (ex : Executes (program setup) s s' .main) (pc : s.mainPc = .emitEnd)
      (report : s'.data.reportView = s.data.reportView.record .simulationEnd)
  | stopped (ex : Executes (program setup) s s' .stopper)
      (report : s'.data.reportView = s.data.reportView.record .simulationStopped)
  | enqueued (ex : Executes (program setup) s s' .receiver)
      (pc : s.receiverPc = .emitQueueArrival)
      (report : s'.data.reportView = s.data.reportView.raise s.data.receiver.queueLength)
  | arrival (ex : Executes (program setup) s s' .receiver) (pc : s.receiverPc = .emitArrival)
      (report : s'.data.reportView = s.data.reportView.record
        (.systemArrival s.data.receiver.job s.data.receiver.previousJobArrivalTimeUs))
  | drop (ex : Executes (program setup) s s' .receiver) (pc : s.receiverPc = .emitDrop)
      (report : s'.data.reportView = s.data.reportView.record
        (.droppedJob s.data.receiver.job s.data.receiver.previousJobArrivalTimeUs))
  | departure (i : Slot) (ex : Executes (program setup) s s' (.printer i))
      (pc : s.printerPc i = .emitDeparture)
      (report : s'.data.reportView = s.data.reportView.record
        (.systemDeparture (s.data.printer i).job (s.data.slot i)))

lemma ReportStep.same (h : s'.data.reportView = s.data.reportView) : ReportStep setup s s' :=
  .later s.data.clock (UInt64.le_refl _) h

/-- **Step inversion for the report.** -/
theorem report_step (hs : step (program setup) s a = some s') : ReportStep setup s s' := by
  cases step_effect hs with
  | exec t ex =>
      cases t with
      | main =>
          rcases main_reportView ex.goes with h | ⟨hq, h⟩ | ⟨hq, h⟩
          · exact .same h
          · exact .start ex hq h
          · exact .ended ex hq h
      | stopper =>
          rcases stop_reportView ex.goes with h | ⟨_, h⟩
          · exact .same h
          · exact .stopped ex h
      | receiver =>
          rcases receiver_reportView ex.goes with ⟨_, h⟩ | ⟨hq, h⟩ | ⟨hq, h⟩ | ⟨hq, h⟩
          · exact .same h
          · exact .enqueued ex hq h
          · exact .arrival ex hq h
          · exact .drop ex hq h
      | refiller => exact .same (refiller_reportView ex.goes)
      | autoscaler => exact .same (autoscaler_scales ex.goes).reportView
      | printer i =>
          rcases printer_reportView ex.goes with h | ⟨hq, h⟩
          · exact .same h
          · exact .departure i ex hq h
  | env e eq =>
      subst eq
      cases e with
      | tick t =>
          refine .later (if s.data.clock ≤ t then t else s.data.clock) ?_ rfl
          split
          · assumption
          · exact UInt64.le_refl _
      | rand r => exact .same rfl
      | createResult ok => exact .same rfl
  | exit t _ _ eq => subst eq; exact .same rfl
  | acceptRunning t _ _ _ eq => subst eq; exact .same rfl
  | acceptWaiting t m _ _ eq => subst eq; exact .same rfl
  | spurious t c m _ eq => subst eq; exact .same rfl
  | resume t m _ _ eq => subst eq; exact .same rfl
  | die t m _ _ eq => subst eq; exact .same rfl

end Orchestrator
