import Orchestrator.InterArrivals
import Orchestrator.QueueArea

/-!
# Differences of time stamps

The statistics add up differences of clock readings that different threads took, as unsigned
numbers.

* `Sys.differences` — the differences a thread's next instruction adds to the statistics.
* `Job.InOrder` — the time stamps a job has so far are in order.
* `OnTime` — what every thread knows about its time stamps.
* `timestamps_in_order` — jobs are served in order, and no difference wraps around.
-/

namespace Orchestrator

open Pthread Queueing

/-! ## What the statistics add up -/

/-- A statistic that is made of differences of time stamps. -/
inductive Figure where
  | interArrivalTime
  /-- The difference counts once for each of the jobs. -/
  | queueArea (jobs : Int)
  | queueWaitTime
  | systemTime
  | serviceTime (printerId : ℕ)
  | refillTime
  | paperEmptyTime (printerId : ℕ)
  | simulationDuration

/-- A difference of two time stamps and the statistic it belongs to. -/
structure Difference where
  figure : Figure
  minuend : ULong
  subtrahend : ULong

/-- The subtraction as the code makes it. -/
def Difference.value (δ : Difference) : ULong := δ.minuend - δ.subtrahend

/-- The subtraction does not wrap around. -/
def Difference.Fits (δ : Difference) : Prop := δ.subtrahend ≤ δ.minuend

/-- The statistics that are made of differences. -/
structure TimeFigures where
  interArrivalTimeUs : ULong
  queueAreaUs : ULong
  queueWaitTimeUs : ULong
  systemTimeUs : ULong
  systemTimeSquaredUs2 : Int
  serviceTimeUs : Slot → ULong
  refillTimeUs : ULong
  paperEmptyTimeUs : Slot → ULong
  durationUs : ULong

/-- They, among the statistics. -/
def SimulationStatistics.timeFigures (stats : SimulationStatistics) : TimeFigures where
  interArrivalTimeUs := stats.totalInterArrivalTimeUs
  queueAreaUs := stats.areaNumInJobQueueUs
  queueWaitTimeUs := stats.totalQueueWaitTimeUs
  systemTimeUs := stats.totalSystemTimeUs
  systemTimeSquaredUs2 := stats.sumOfSystemTimeSquaredUs2
  serviceTimeUs := stats.totalServiceTimePrinterUs
  refillTimeUs := stats.totalRefillServiceTimeUs
  paperEmptyTimeUs := stats.printerPaperEmptyTimeUs
  durationUs := stats.simulationDurationUs

/-- Add a time to that of a printer, if there is a slot for it. -/
def addAtPrinter (times : Slot → ULong) (printerId : ℕ) (time : ULong) : Slot → ULong :=
  match slotOfIndex ((printerId : Int) - 1) with
  | some i => Function.update times i (times i + time)
  | none => times

/-- What a difference does to its statistic.  Some of them go through an `int`. -/
def TimeFigures.record (v : TimeFigures) (δ : Difference) : TimeFigures :=
  match δ.figure with
  | .interArrivalTime => { v with interArrivalTimeUs := v.interArrivalTimeUs + δ.value }
  | .queueArea jobs => { v with queueAreaUs := v.queueAreaUs + δ.value * ulongOfInt jobs }
  | .queueWaitTime => { v with queueWaitTimeUs := v.queueWaitTimeUs + δ.value }
  | .systemTime =>
      { v with
        systemTimeUs := v.systemTimeUs + ulongOfInt (intOfULong δ.value)
        systemTimeSquaredUs2 :=
          v.systemTimeSquaredUs2 + mulInt (intOfULong δ.value) (intOfULong δ.value) }
  | .serviceTime printerId =>
      { v with
        serviceTimeUs :=
          addAtPrinter v.serviceTimeUs printerId (ulongOfInt (intOfULong δ.value)) }
  | .refillTime => { v with refillTimeUs := v.refillTimeUs + δ.value }
  | .paperEmptyTime printerId =>
      { v with
        paperEmptyTimeUs :=
          addAtPrinter v.paperEmptyTimeUs printerId (ulongOfInt (intOfULong δ.value)) }
  | .simulationDuration => { v with durationUs := δ.value }

/-- What differences do to their statistics, one after the other. -/
def TimeFigures.recordAll (v : TimeFigures) (δs : List Difference) : TimeFigures :=
  δs.foldl TimeFigures.record v

/-! ## The differences of the log handlers -/

/-- The differences the handler of an event adds when it runs in memory `d`. -/
def Event.differences (d : Data) : Event → List Difference
  | .simulationEnd | .simulationStopped => [⟨.simulationDuration, d.clock, d.referenceTimeUs⟩]
  | .systemArrival job previous => [⟨.interArrivalTime, job.systemArrivalTimeUs, previous⟩]
  | .queueArrival job last =>
      [⟨.queueArea (timedQueueLength d.jobQueue - 1), job.queueArrivalTimeUs, last⟩]
  | .queueDeparture job last =>
      [⟨.queueArea (timedQueueLength d.jobQueue + 1), job.queueDepartureTimeUs, last⟩]
  | .systemDeparture job printer =>
      [⟨.systemTime, job.serviceDepartureTimeUs, job.systemArrivalTimeUs⟩,
        ⟨.serviceTime printer.id, job.serviceDepartureTimeUs, job.serviceArrivalTimeUs⟩,
        ⟨.queueWaitTime, job.queueDepartureTimeUs, job.queueArrivalTimeUs⟩]
  | _ => []

/-- **Both back ends add these differences** and no others. -/
lemma emit_timeFigures (mode : LogMode) (e : Event) (d : Data) :
    (d.emit mode e).stats.timeFigures = d.stats.timeFigures.recordAll (e.differences d) := by
  rw [Data.emit_mode mode .server]
  cases e with
  | systemDeparture job printer =>
      simp only [Data.emit, Data.logger, websocketOps, Option.getD_some, publishSystemDeparture,
        publishDepartureOfPrinter, Event.job, Event.printer, Event.differences,
        TimeFigures.recordAll, List.foldl, TimeFigures.record, addAtPrinter]
      generalize slotOfIndex ((printer.id : Int) - 1) = slot
      cases slot <;> rfl
  | _ => rfl

lemma emit_timeFigures_of_silent (mode : LogMode) {e : Event} (d : Data)
    (h : e.differences d = []) : (d.emit mode e).stats.timeFigures = d.stats.timeFigures := by
  rw [emit_timeFigures, h]
  rfl

/-! ## The differences of the threads -/

/-- The differences that the instruction at `q` adds to the statistics in memory `d`. -/
def differences (d : Data) : (t : Tid) → Pc t → List Difference
  | .main, q => match q with
    | .emitEnd => Event.simulationEnd.differences d
    | _ => []
  | .stopper, q => match q with
    | .emitStopped => Event.simulationStopped.differences d
    | _ => []
  | .receiver, q => match q with
    | .emitArrival =>
        (Event.systemArrival d.receiver.job d.receiver.previousJobArrivalTimeUs).differences d
    | .emitQueueArrival =>
        (Event.queueArrival d.receiver.job d.receiver.queueLastInteractionTimeUs).differences d
    | _ => []
  | .refiller, q => match q with
    | .recordRefill => [⟨.refillTime, d.refiller.refillEndTimeUs, d.refiller.refillStartTimeUs⟩]
    | _ => []
  | .autoscaler, _ => []
  | .printer i, q => match q with
    | .emitQueueDeparture =>
        -- the job is stamped in the same instruction
        (Event.queueDeparture { (d.printer i).job with queueDepartureTimeUs := d.clock }
          (d.printer i).queueLastInteractionTimeUs).differences d
    | .emitDeparture => (Event.systemDeparture (d.printer i).job (d.slot i)).differences d
    | .recordEmptyTime =>
        [⟨.paperEmptyTime (d.slot i).id, d.clock, (d.printer i).refillStartTimeUs⟩]
    | _ => []

/-- The differences that the next instruction of thread `t` adds to the statistics. -/
def Sys.differences (s : Sys) (t : Tid) : List Difference :=
  Orchestrator.differences s.data t (s.ctl t).pc

variable {setup : Setup} {d d' : Data}

lemma printer_timeFigures {i : Slot} {args : PrinterThreadArgs} {q q' : PrinterPc}
    (h : (printerCode setup i args q).Goes d d' q') :
    d'.stats.timeFigures = d.stats.timeFigures.recordAll (differences d (.printer i) q) := by
  cases q with
  | exit => exact h.elim
  | emitPaperEmpty =>
      rw [h.1, emit_timeFigures_of_silent _ _ rfl, emit_timeFigures_of_silent _ _ rfl]
      rfl
  | emitQueueDeparture =>
      rw [h.1, Printer.leaveQueue, emit_timeFigures_of_silent _ _ rfl,
        emit_timeFigures_of_silent _ _ rfl, emit_timeFigures]
      simp only [Event.differences, differences, Data.modifyLocals, Function.update_self]
  | emitArrival =>
      rw [h.1, Printer.arriveAtPrinter, emit_timeFigures_of_silent _ _ rfl]
      rfl
  | emitDeparture =>
      rw [h.1, Printer.departSystem, emit_timeFigures]
      simp only [Event.differences, differences, Data.modifyPrinter_slot_self,
        Data.modifyPrinter_printer]
      rfl
  | recordEmptyTime =>
      rw [h.1, Printer.recordEmptyTime]
      simp only [differences, TimeFigures.recordAll, List.foldl, TimeFigures.record, addAtPrinter]
      generalize slotOfIndex (((d.slot i).id : Int) - 1) = slot
      cases slot <;> rfl
  | _ =>
      obtain ⟨rfl, _⟩ := h
      first
        | rfl
        | exact emit_timeFigures_of_silent _ _ rfl

lemma receiver_timeFigures {q q' : ReceiverPc} (h : (receiverCode setup q).Goes d d' q') :
    d'.stats.timeFigures = d.stats.timeFigures.recordAll (differences d .receiver q) := by
  cases q with
  | exit => exact h.elim
  | nextJob =>
      rw [h.1, Receiver.createJob]
      split <;> rfl
  | emitArrival =>
      rw [h.1, Receiver.reportArrival, emit_timeFigures_of_silent _ _ rfl, emit_timeFigures]
      rfl
  | emitQueueArrival =>
      rw [h.1, Receiver.reportQueueArrival, emit_timeFigures_of_silent _ _ rfl,
        emit_timeFigures_of_silent _ _ rfl, emit_timeFigures]
      rfl
  | emitDrop => rw [h.1]; exact emit_timeFigures_of_silent _ _ rfl
  | _ => obtain ⟨rfl, _⟩ := h; rfl

lemma RefillEffect.timeFigures (h : RefillEffect setup.mode d d') :
    d'.stats.timeFigures = d.stats.timeFigures := by
  cases h with
  | noted _ _ data | filled _ _ data => subst data; rfl
  | reported _ e data he =>
      rw [data]
      cases e <;> first | exact emit_timeFigures_of_silent _ _ rfl | cases he

lemma refiller_timeFigures {q q' : RefillerPc} (h : (refillerCode setup q).Goes d d' q') :
    d'.stats.timeFigures = d.stats.timeFigures.recordAll (differences d .refiller q) := by
  cases q with
  | recordRefill => rw [h.1]; rfl
  | _ => exact (refiller_refills h (by simp)).timeFigures

lemma stop_timeFigures {q q' : StopPc} (h : (stopCode setup q).Goes d d' q') :
    d'.stats.timeFigures = d.stats.timeFigures.recordAll (differences d .stopper q) := by
  cases q with
  | emitStopped => rw [h.1]; exact emit_timeFigures _ _ _
  | drain =>
      rw [h.1, emptyQueueRound]
      split
      · rename_i job queue _
        exact emit_timeFigures_of_silent setup.mode
          { d with jobQueue := queue, dequeued := d.dequeued ++ [job] } rfl
      · rfl
  | setFlags => rw [h.1]; rfl
  | _ => rw [stop_quiet h rfl]; rfl

lemma ScalingEffect.timeFigures (h : ScalingEffect setup.mode d d') :
    d'.stats.timeFigures = d.stats.timeFigures := by
  cases h with
  | scaled _ _ _ data _ => rw [data]
  | reported _ e data he =>
      rw [data]
      cases e <;> first | exact emit_timeFigures_of_silent _ _ rfl | cases he

lemma main_timeFigures {q q' : MainPc} (h : (mainCode setup q).Goes d d' q') :
    d'.stats.timeFigures = d.stats.timeFigures.recordAll (differences d .main q) := by
  cases q with
  | emitEnd => rw [h.1]; exact emit_timeFigures _ _ _
  | emitParameters | emitStart | emitStatistics =>
      rw [h.1]; exact emit_timeFigures_of_silent _ _ rfl
  | _ => exact (main_scales h rfl).timeFigures

variable {s s' : Sys} {a : SysAction} {ok : Sys → SysAction → Prop}

/-- **A step adds the differences of the thread that executes it**, and of no other. -/
theorem timeFigures_step (hs : step (program setup) s a = some s') :
    s'.data.stats.timeFigures = s.data.stats.timeFigures ∨
      ∃ t, Executes (program setup) s s' t ∧
        s'.data.stats.timeFigures =
          s.data.stats.timeFigures.recordAll (s.differences t) := by
  cases sys_move hs with
  | quiet data _ => obtain ⟨c, r, k, data⟩ := data; exact .inl (by rw [data])
  | main ex goes => exact .inr ⟨_, ex, main_timeFigures goes⟩
  | stopper ex goes _ => exact .inr ⟨_, ex, stop_timeFigures goes⟩
  | receiver ex goes _ => exact .inr ⟨_, ex, receiver_timeFigures goes⟩
  | refiller ex goes _ => exact .inr ⟨_, ex, refiller_timeFigures goes⟩
  | autoscaler _ goes => exact .inl (autoscaler_scales goes).timeFigures
  | printer i ex goes _ => exact .inr ⟨_, ex, printer_timeFigures goes⟩

/-! ## Jobs on their way -/

/-- The time stamps of a job in the order in which it gets them. -/
def Job.stamps (job : Job) : List ULong :=
  [job.systemArrivalTimeUs, job.queueArrivalTimeUs, job.queueDepartureTimeUs,
    job.serviceArrivalTimeUs, job.serviceDepartureTimeUs]

/-- The first `n` time stamps of the job are in order, and the clock is not before them. -/
def Job.InOrder (job : Job) (n : ℕ) (now : ULong) : Prop :=
  (job.stamps.take n ++ [now]).Pairwise (· ≤ ·)

lemma Job.inOrder_zero (job : Job) (now : ULong) : job.InOrder 0 now :=
  List.pairwise_singleton _ _

namespace Job.InOrder

variable {job job' : Job} {n : ℕ} {now now' : ULong}

lemma later (h : job.InOrder n now) (hle : now ≤ now') : job.InOrder n now' := by
  obtain ⟨hstamps, _, hnow⟩ := List.pairwise_append.mp h
  refine List.pairwise_append.mpr ⟨hstamps, List.pairwise_singleton _ _, fun t ht u hu => ?_⟩
  rw [List.mem_singleton.mp hu]
  exact UInt64.le_trans (hnow t ht now (List.mem_singleton_self _)) hle

/-- **The next time stamp is the clock's.** -/
lemma stamp (h : job.InOrder n now)
    (hstamp : job'.stamps.take (n + 1) = job.stamps.take n ++ [now]) :
    job'.InOrder (n + 1) now := by
  rw [Job.InOrder, hstamp]
  refine List.pairwise_append.mpr ⟨h, List.pairwise_singleton _ _, fun t ht u hu => ?_⟩
  rw [List.mem_singleton.mp hu]
  rcases List.mem_append.mp ht with ht | ht
  · exact (List.pairwise_append.mp h).2.2 t ht now (List.mem_singleton_self _)
  · rw [List.mem_singleton.mp ht]
    exact UInt64.le_refl _

/-- The time stamps to come do not matter. -/
lemma congr (h : job.InOrder n now) (hstamps : job'.stamps.take n = job.stamps.take n) :
    job'.InOrder n now := by
  rw [Job.InOrder, hstamps]
  exact h

end Job.InOrder

/-! ## What the threads know -/

/-- What the receiver knows about the time stamps of its job. -/
def receiverOnTime (q : ReceiverPc) (r : ReceiverLocals) (now : ULong) : Prop :=
  match q with
  | .lockStatsArrival | .emitArrival | .unlockStatsArrival | .lockQueue | .checkCapacity
  | .stampQueueArrival => r.job.InOrder 1 now
  -- the queue has been stamped no later than the job
  | .enqueue | .lockStatsQueue | .emitQueueArrival =>
      r.job.InOrder 2 now ∧ r.queueLastInteractionTimeUs ≤ r.job.queueArrivalTimeUs
  | _ => True

/-- What a printer knows about the time stamps of its job and of its request for paper. -/
def printerOnTime (q : PrinterPc) (l : PrinterLocals) (now : ULong) : Prop :=
  match q with
  | .appendRequest | .notifyRefiller | .checkRefilled | .waitPaper | .lockStateInWait
  | .readTerminateInWait | .refilledUnlockRefill | .emitRefilled | .lockStatsEmpty
  | .recordEmptyTime => l.refillStartTimeUs ≤ now
  | .emitQueueDeparture => l.job.InOrder 2 now ∧ l.queueLastInteractionTimeUs ≤ now
  | .unlockQueue | .emitArrival => l.job.InOrder 3 now
  | .markBusy | .emitBusy | .service | .usePaper | .markIdle => l.job.InOrder 4 now
  | .emitIdle | .lockStats | .emitDeparture => l.job.InOrder 5 now
  | _ => True

/-- What the refiller knows about the time stamps of its refill. -/
def refillerOnTime (q : RefillerPc) (r : RefillerLocals) (now : ULong) : Prop :=
  match q with
  | .unlockRefill | .computeNeed | .emitStart | .enableCancel | .sleep | .disableCancel
  | .emitEnd => r.refillStartTimeUs ≤ now
  | .addPaper | .lockStats | .recordRefill => r.refillStartTimeUs ≤ r.refillEndTimeUs
  | _ => True

section Later

variable {now now' : ULong} (hle : now ≤ now')

include hle

lemma receiverOnTime.later {q : ReceiverPc} {r : ReceiverLocals} (h : receiverOnTime q r now) :
    receiverOnTime q r now' := by
  cases q with
  | lockStatsArrival | emitArrival | unlockStatsArrival | lockQueue | checkCapacity
  | stampQueueArrival => exact Job.InOrder.later h hle
  | enqueue | lockStatsQueue | emitQueueArrival => exact ⟨h.1.later hle, h.2⟩
  | _ => trivial

lemma printerOnTime.later {q : PrinterPc} {l : PrinterLocals} (h : printerOnTime q l now) :
    printerOnTime q l now' := by
  cases q with
  | appendRequest | notifyRefiller | checkRefilled | waitPaper | lockStateInWait
  | readTerminateInWait | refilledUnlockRefill | emitRefilled | lockStatsEmpty
  | recordEmptyTime => exact UInt64.le_trans h hle
  | emitQueueDeparture => exact ⟨h.1.later hle, UInt64.le_trans h.2 hle⟩
  | unlockQueue | emitArrival | markBusy | emitBusy | service | usePaper | markIdle | emitIdle
  | lockStats | emitDeparture => exact Job.InOrder.later h hle
  | _ => trivial

lemma refillerOnTime.later {q : RefillerPc} {r : RefillerLocals} (h : refillerOnTime q r now) :
    refillerOnTime q r now' := by
  cases q with
  | unlockRefill | computeNeed | emitStart | enableCancel | sleep | disableCancel | emitEnd =>
      exact UInt64.le_trans h hle
  | addPaper | lockStats | recordRefill => exact h
  | _ => trivial

end Later

/-- The time stamps of the queue, of the jobs in it and of the jobs that were served. -/
structure QueueOnTime (v : QueueView) : Prop where
  last : v.last ≤ v.clock
  list : ∀ job ∈ v.list, job.InOrder 2 v.clock
  departed : ∀ job ∈ v.departed, job.InOrder 5 v.clock

lemma QueueOnTime.later {v v' : QueueView} (h : QueueOnTime v) (hclock : v.clock ≤ v'.clock)
    (hlast : v'.last = v.last) (hlist : v'.list = v.list) (hdeparted : v'.departed = v.departed) :
    QueueOnTime v' where
  last := by rw [hlast]; exact UInt64.le_trans h.last hclock
  list job hjob := (h.list job (hlist ▸ hjob)).later hclock
  departed job hjob := (h.departed job (hdeparted ▸ hjob)).later hclock

/-- The front job and the jobs behind it. -/
lemma QueueOnTime.front {job : Job} {rest : List Job} (h : QueueOnTime d.queueView)
    (hlist : d.jobQueue.list = job :: rest) :
    job.InOrder 2 d.clock ∧ ∀ j ∈ rest, j.InOrder 2 d.clock := by
  have hin : ∀ j ∈ d.jobQueue.list, j.InOrder 2 d.clock := h.list
  rw [hlist] at hin
  exact List.forall_mem_cons.mp hin

/-! ## The receiver -/

lemma receiver_onTime {q q' : ReceiverPc} (h : (receiverCode setup q).Goes d d' q')
    (hqueue : QueueOnTime d.queueView) (hown : receiverOnTime q d.receiver d.clock) :
    QueueOnTime d'.queueView ∧ receiverOnTime q' d'.receiver d.clock := by
  rcases receiver_queueView h with hv | ⟨rfl, rfl, rfl⟩ | ⟨rfl, rfl, rfl⟩
  · rw [hv]
    refine ⟨hqueue, ?_⟩
    cases q with
    | exit => exact h.elim
    | stampArrival =>
        obtain ⟨rfl, rfl⟩ := h
        exact (Job.inOrder_zero d.receiver.job d.clock).stamp rfl
    | stampQueueArrival =>
        obtain ⟨rfl, rfl⟩ := h
        exact ⟨Job.InOrder.stamp hown rfl, hqueue.last⟩
    | nextJob | readTerminate =>
        obtain ⟨_, rfl⟩ := h
        simp only
        split <;> trivial
    | checkCapacity =>
        obtain ⟨rfl, rfl⟩ := h
        simp only
        split
        · trivial
        · exact hown
    | lockStatsArrival | emitArrival | unlockStatsArrival | lockQueue | lockStatsQueue =>
        obtain ⟨rfl, rfl⟩ := h
        exact hown
    | _ => obtain ⟨rfl, rfl⟩ := h; trivial
  · rw [enqueueJob_queueView]
    refine ⟨⟨UInt64.le_refl _, fun job hjob => ?_, hqueue.departed⟩, hown⟩
    rcases List.mem_append.mp hjob with hjob | hjob
    · exact hqueue.list job hjob
    · rw [List.mem_singleton.mp hjob]
      exact hown.1
  · rw [reportQueueArrival_queueView]
    refine ⟨⟨?_, hqueue.list, hqueue.departed⟩, trivial⟩
    have hbefore := (List.pairwise_append.mp hown.1).2.2
    exact hbefore _ (by simp [Job.stamps]) _ (List.mem_singleton_self _)

/-! ## The printers -/

lemma default_inOrder (now : ULong) : (default : Job).InOrder 2 now := by
  show [(0 : ULong), 0, now].Pairwise (· ≤ ·)
  simp

/-- A printer takes a job with two time stamps. -/
lemma takeJob_onTime (i : Slot) (hqueue : QueueOnTime d.queueView) :
    QueueOnTime (Printer.takeJob i d).queueView ∧
      printerOnTime .emitQueueDeparture ((Printer.takeJob i d).printer i) d.clock := by
  cases hlist : d.jobQueue.list with
  | nil =>
      have hview : (Printer.takeJob i d).queueView = d.queueView := by
        simp only [Printer.takeJob, timedQueueDequeueFront, hlist]
        simp [Data.queueView, Data.modifyLocals]
      rw [hview]
      refine ⟨hqueue, ?_, ?_⟩
      · simp only [Printer.takeJob, timedQueueDequeueFront, hlist, Data.modifyLocals,
          Function.update_self]
        exact default_inOrder d.clock
      · simp only [Printer.takeJob, Data.modifyLocals, Function.update_self]
        exact hqueue.last
  | cons job rest =>
      obtain ⟨hview, hjob, hsaved⟩ := takeJob_queueView i hlist
      obtain ⟨hfront, hrest⟩ := hqueue.front hlist
      rw [hview]
      refine ⟨⟨UInt64.le_refl _, hrest, hqueue.departed⟩, ?_, ?_⟩
      · rw [hjob]
        exact hfront
      · rw [hsaved]
        exact hqueue.last

/-- A printer's own steps keep what it knows. -/
lemma printer_onTime {i : Slot} {args : PrinterThreadArgs} {q q' : PrinterPc}
    (h : (printerCode setup i args q).Goes d d' q') (hqueue : QueueOnTime d.queueView)
    (hown : printerOnTime q (d.printer i) d.clock) :
    printerOnTime q' (d'.printer i) d.clock := by
  cases q with
  | exit => exact h.elim
  | dequeue =>
      obtain ⟨rfl, rfl⟩ := h
      exact (takeJob_onTime i hqueue).2
  | emitPaperEmpty =>
      obtain ⟨rfl, rfl⟩ := h
      simp only [Data.emit_printer, Data.modifyLocals_printer_self]
      exact UInt64.le_refl _
  | emitQueueDeparture =>
      obtain ⟨rfl, rfl⟩ := h
      simp only [Printer.leaveQueue, Data.emit_printer, Data.modifyLocals_printer_self]
      exact Job.InOrder.stamp hown.1 rfl
  | emitArrival =>
      obtain ⟨rfl, rfl⟩ := h
      simp only [Printer.arriveAtPrinter, Data.emit_printer, Data.modifyLocals_printer_self]
      exact Job.InOrder.stamp hown rfl
  | markIdle =>
      obtain ⟨rfl, rfl⟩ := h
      simp only [Printer.markIdle, Data.modifyPrinter_printer, Data.modifyLocals_printer_self]
      exact Job.InOrder.stamp hown rfl
  | readTerminateInWait =>
      obtain ⟨rfl, rfl⟩ := h
      simp only [Data.modifyLocals_printer_self]
      split
      · trivial
      · exact hown
  | checkRefilled =>
      obtain ⟨rfl, rfl⟩ := h
      simp only
      split <;> exact hown
  | checkQueue | checkPaper | checkDone =>
      obtain ⟨_, rfl⟩ := h
      simp only
      split <;> (try split) <;> trivial
  | appendRequest | notifyRefiller | waitPaper | lockStateInWait | refilledUnlockRefill
  | emitRefilled | lockStatsEmpty | unlockQueue | markBusy | emitBusy | service | usePaper
  | emitIdle | lockStats =>
      obtain ⟨rfl, rfl⟩ := h
      exact hown
  | _ => obtain ⟨_, rfl⟩ := h; trivial

lemma printer_queueOnTime {i : Slot} {args : PrinterThreadArgs} {q q' : PrinterPc}
    (h : (printerCode setup i args q).Goes d d' q') (hqueue : QueueOnTime d.queueView)
    (hown : printerOnTime q (d.printer i) d.clock) : QueueOnTime d'.queueView := by
  rcases printer_queueView h with hv | ⟨_, rfl, _⟩ | ⟨_, rfl, _⟩ | ⟨rfl, rfl, _⟩
  · rw [hv]
    exact hqueue
  · exact (takeJob_onTime i hqueue).1
  · rw [leaveQueue_queueView]
    exact ⟨UInt64.le_refl _, hqueue.list, hqueue.departed⟩
  · rw [departSystem_queueView]
    refine ⟨hqueue.last, hqueue.list, fun job hjob => ?_⟩
    rcases List.mem_cons.mp hjob with rfl | hjob
    · exact hown
    · exact hqueue.departed job hjob

/-! ## The refiller and the stop handler -/

lemma refiller_onTime {q q' : RefillerPc} (h : (refillerCode setup q).Goes d d' q')
    (hown : refillerOnTime q d.refiller d.clock) : refillerOnTime q' d'.refiller d.clock := by
  cases q with
  | exit => exact h.elim
  | popRequest =>
      obtain ⟨rfl, rfl⟩ := h
      exact UInt64.le_refl _
  | computeNeed =>
      have hsame : d'.refiller.refillStartTimeUs = d.refiller.refillStartTimeUs := by
        rw [h.1, Refiller.computeNeed]
        split <;> rfl
      obtain ⟨_, rfl⟩ := h
      simp only
      split
      · trivial
      · show d'.refiller.refillStartTimeUs ≤ d.clock
        rw [hsame]
        exact hown
  | emitStart =>
      obtain ⟨rfl, rfl⟩ := h
      rw [Refiller.reportStart_refiller]
      exact hown
  | emitEnd =>
      obtain ⟨rfl, rfl⟩ := h
      rw [Refiller.reportEnd_refiller]
      exact hown
  | addPaper =>
      obtain ⟨rfl, rfl⟩ := h
      have hsame : (Refiller.addPaper d).refiller = d.refiller := by
        rw [Refiller.addPaper]
        split <;> rfl
      rw [hsame]
      exact hown
  | unlockRefill | enableCancel | sleep | disableCancel | lockStats =>
      obtain ⟨rfl, rfl⟩ := h
      exact hown
  | checkFlags | checkRequests =>
      obtain ⟨_, rfl⟩ := h
      simp only
      split <;> trivial
  | _ => obtain ⟨_, rfl⟩ := h; trivial

lemma stop_onTime {q q' : StopPc} (h : (stopCode setup q).Goes d d' q')
    (hqueue : QueueOnTime d.queueView) : QueueOnTime d'.queueView := by
  rcases stop_queueView h with hv | ⟨_, rfl⟩
  · rw [hv]
    exact hqueue
  · cases hlist : d.jobQueue.list with
    | nil =>
        rw [emptyQueueRound_jobs_nil _ hlist]
        exact hqueue
    | cons job rest =>
        rw [emptyQueueRound_queueView _ hlist]
        exact ⟨UInt64.le_refl _, (hqueue.front hlist).2, hqueue.departed⟩

/-! ## Every run -/

/-- All time stamps are in order, and none is later than the clock. -/
structure OnTime (s : Sys) : Prop where
  reference : s.data.referenceTimeUs ≤ s.data.clock
  queue : QueueOnTime s.data.queueView
  receiver : receiverOnTime s.receiverPc s.data.receiver s.data.clock
  refiller : refillerOnTime s.refillerPc s.data.refiller s.data.clock
  printer : ∀ i, printerOnTime (s.printerPc i) (s.data.printer i) s.data.clock

/-- The clock never goes back, and the reference time never gets ahead of it. -/
lemma clock_step (hs : step (program setup) s a = some s')
    (hreference : s.data.referenceTimeUs ≤ s.data.clock) :
    s.data.clock ≤ s'.data.clock ∧ s'.data.referenceTimeUs ≤ s'.data.clock := by
  have hclock : ∀ v : ReportView, s'.data.reportView = v → s'.data.clock = v.clock ∧
      s'.data.referenceTimeUs = v.referenceTimeUs := by
    rintro _ rfl
    exact ⟨rfl, rfl⟩
  cases report_step hs with
  | later c le report =>
      obtain ⟨hc, hr⟩ := hclock _ report
      rw [hc, hr]
      exact ⟨le, UInt64.le_trans hreference le⟩
  | start _ _ report =>
      obtain ⟨hc, hr⟩ := hclock _ report
      rw [hc, hr]
      exact ⟨UInt64.le_refl _, UInt64.le_refl _⟩
  | ended _ _ report | stopped _ report | enqueued _ _ report | arrival _ _ report
  | drop _ _ report =>
      obtain ⟨hc, hr⟩ := hclock _ report
      rw [hc, hr]
      exact ⟨UInt64.le_refl _, hreference⟩
  | departure i _ _ report =>
      obtain ⟨hc, hr⟩ := hclock _ report
      rw [hc, hr, ReportView.record]
      split <;> exact ⟨UInt64.le_refl _, hreference⟩

/-- No step takes the queue out of order. -/
lemma OnTime.queue_step (ih : OnTime s) (hs : step (program setup) s a = some s') :
    QueueOnTime s'.data.queueView := by
  have hclock := (clock_step hs ih.reference).1
  cases sys_move hs with
  | quiet data _ =>
      obtain ⟨c, r, k, data⟩ := data
      rw [data] at hclock ⊢
      exact ih.queue.later hclock rfl rfl rfl
  | main _ goes => rw [main_queueView goes]; exact ih.queue
  | stopper _ goes _ => exact stop_onTime goes ih.queue
  | receiver _ goes _ => exact (receiver_onTime goes ih.queue ih.receiver).1
  | refiller _ goes _ => rw [refiller_queueView goes]; exact ih.queue
  | autoscaler _ goes => rw [autoscaler_queueView goes]; exact ih.queue
  | printer i _ goes _ => exact printer_queueOnTime goes ih.queue (ih.printer i)

lemma OnTime.step (ih : OnTime s) (h : Reach (program setup) ok (freshState setup) s)
    (hs : step (program setup) s a = some s') : OnTime s' := by
  obtain ⟨hclock, hreference⟩ := clock_step hs ih.reference
  refine ⟨hreference, ih.queue_step hs, ?_, ?_, fun i => ?_⟩
  · rcases receiver_cases h hs with ⟨_, hpc, hrec⟩ | ⟨_, goes⟩
    · rw [hpc, hrec]
      exact ih.receiver.later hclock
    · exact (receiver_onTime goes ih.queue ih.receiver).2.later hclock
  · rcases refiller_cases h hs with ⟨_, hpc, href⟩ | ⟨_, goes⟩
    · rw [hpc, href]
      exact ih.refiller.later hclock
    · exact (refiller_onTime goes ih.refiller).later hclock
  · rcases printer_cases hs i with ⟨_, hpc, _, hloc⟩ | ⟨t, _, hc⟩ | ⟨_, _, goes⟩
    · rw [hpc, hloc]
      exact (ih.printer i).later hclock
    · rw [created_printer hc]
      trivial
    · exact (printer_onTime goes ih.queue (ih.printer i)).later hclock

lemma onTime_fresh (setup : Setup) : OnTime (freshState setup) where
  reference := UInt64.le_refl _
  queue :=
    ⟨UInt64.le_refl _, fun job hjob => (by cases hjob), fun job hjob => (by cases hjob)⟩
  receiver := trivial
  refiller := trivial
  printer _ := trivial

/-- **The threads' time stamps are in order in every run.** -/
theorem on_time (h : Reach (program setup) ok (freshState setup) s) : OnTime s :=
  h.invariant (I := OnTime) (onTime_fresh setup) fun hr ih _ hs => ih.step hr hs

/-! ## No difference wraps around -/

lemma receiver_fits (hown : receiverOnTime s.receiverPc s.data.receiver s.data.clock)
    (hknown : NewestKnown s.receiverPc s.data.receiver s.data.reportView) :
    ∀ δ ∈ s.differences .receiver, δ.Fits := by
  intro δ hδ
  change δ ∈ differences s.data .receiver s.receiverPc at hδ
  generalize s.receiverPc = q at *
  cases q with
  | emitArrival =>
      obtain ⟨hprevious, hafter, _⟩ := hknown
      rw [List.mem_singleton.mp hδ]
      show s.data.receiver.previousJobArrivalTimeUs ≤ _
      rw [hprevious]
      exact hafter
  | emitQueueArrival =>
      rw [List.mem_singleton.mp hδ]
      exact hown.2
  | _ => cases hδ

/-- The time stamps of a job that has them all follow each other. -/
lemma Job.InOrder.all {job : Job} {now : ULong} (h : job.InOrder 5 now) :
    job.systemArrivalTimeUs ≤ job.queueArrivalTimeUs ∧
      job.queueArrivalTimeUs ≤ job.queueDepartureTimeUs ∧
      job.queueDepartureTimeUs ≤ job.serviceArrivalTimeUs ∧
      job.serviceArrivalTimeUs ≤ job.serviceDepartureTimeUs := by
  have hall : job.stamps.Pairwise (· ≤ ·) := (List.pairwise_append.mp h).1
  simp only [Job.stamps, List.pairwise_cons, List.mem_cons, List.not_mem_nil, or_false,
    forall_eq_or_imp, forall_eq] at hall
  obtain ⟨⟨harrived, _⟩, ⟨hwaited, _⟩, ⟨htaken, _⟩, hserved, _⟩ := hall
  exact ⟨harrived, hwaited, htaken, hserved⟩

lemma printer_fits {i : Slot}
    (hown : printerOnTime (s.printerPc i) (s.data.printer i) s.data.clock) :
    ∀ δ ∈ s.differences (.printer i), δ.Fits := by
  intro δ hδ
  change δ ∈ differences s.data (.printer i) (s.printerPc i) at hδ
  generalize s.printerPc i = q at *
  cases q with
  | emitQueueDeparture =>
      rw [List.mem_singleton.mp hδ]
      exact hown.2
  | emitDeparture =>
      obtain ⟨harrived, hwaited, htaken, hserved⟩ := Job.InOrder.all hown
      have hprinted := UInt64.le_trans hwaited (UInt64.le_trans htaken hserved)
      simp only [differences, Event.differences, List.mem_cons, List.not_mem_nil, or_false] at hδ
      rcases hδ with rfl | rfl | rfl
      · exact UInt64.le_trans harrived hprinted
      · exact hserved
      · exact hwaited
  | recordEmptyTime =>
      rw [List.mem_singleton.mp hδ]
      exact hown
  | _ => cases hδ

/-- **The next instruction of every thread subtracts no later time from an earlier one.** -/
lemma differences_fit (h : Reach (program setup) ok (freshState setup) s) (t : Tid) :
    ∀ δ ∈ s.differences t, δ.Fits := by
  have hin := on_time h
  cases t with
  | receiver => exact receiver_fits hin.receiver (arrivals_kept h).known
  | printer i => exact printer_fits (hin.printer i)
  | main =>
      intro δ hδ
      change δ ∈ differences s.data .main s.mainPc at hδ
      generalize s.mainPc = q at *
      cases q with
      | emitEnd => rw [List.mem_singleton.mp hδ]; exact hin.reference
      | _ => cases hδ
  | stopper =>
      intro δ hδ
      change δ ∈ differences s.data .stopper s.stopPc at hδ
      generalize s.stopPc = q at *
      cases q with
      | emitStopped => rw [List.mem_singleton.mp hδ]; exact hin.reference
      | _ => cases hδ
  | refiller =>
      intro δ hδ
      change δ ∈ differences s.data .refiller s.refillerPc at hδ
      have hown := hin.refiller
      generalize s.refillerPc = q at *
      cases q with
      | recordRefill => rw [List.mem_singleton.mp hδ]; exact hown
      | _ => cases hδ
  | autoscaler => exact fun δ hδ => by cases hδ

/-- **Time stamps are in order.**  In every run, the five times of a job that was served follow each
other; every difference that the next instruction of a thread adds to the statistics has a minuend
not smaller than its subtrahend; and the statistics made of differences change by these alone. -/
theorem timestamps_in_order (h : Reach (program setup) ok (freshState setup) s) :
    (∀ job ∈ s.data.servedJobs,
      job.systemArrivalTimeUs ≤ job.queueArrivalTimeUs ∧
        job.queueArrivalTimeUs ≤ job.queueDepartureTimeUs ∧
        job.queueDepartureTimeUs ≤ job.serviceArrivalTimeUs ∧
        job.serviceArrivalTimeUs ≤ job.serviceDepartureTimeUs) ∧
      (∀ t, ∀ δ ∈ s.differences t, δ.subtrahend ≤ δ.minuend) ∧
      ∀ a s', step (program setup) s a = some s' →
        s'.data.stats.timeFigures = s.data.stats.timeFigures ∨
          ∃ t, Executes (program setup) s s' t ∧
            s'.data.stats.timeFigures =
              s.data.stats.timeFigures.recordAll (s.differences t) :=
  ⟨fun job hjob => ((on_time h).queue.departed job hjob).all, differences_fit h,
    fun _ _ hs => timeFigures_step hs⟩

/-- One job is printed while the clock goes on. -/
def servedLate : List SysAction :=
  [Action.env (Env.tick 1000)] ++ runs Tid.main 20 ++ [Action.env (Env.tick 3000)] ++
    runs Tid.receiver 21 ++ [Action.env (Env.tick 4000)] ++ runs (Tid.printer 0) 12 ++
    [Action.env (Env.tick 9000)] ++ runs (Tid.printer 0) 9

theorem timestamps_in_order_one_job :
    ∃ s : Sys, Reach (program defaultServer) anyChoice (freshState defaultServer) s ∧
      s.data.servedJobs.map Job.stamps = [[3000, 3000, 4000, 4000, 9000]] ∧
      (∀ job ∈ s.data.servedJobs,
        job.systemArrivalTimeUs ≤ job.queueArrivalTimeUs ∧
          job.queueArrivalTimeUs ≤ job.queueDepartureTimeUs ∧
          job.queueDepartureTimeUs ≤ job.serviceArrivalTimeUs ∧
          job.serviceArrivalTimeUs ≤ job.serviceDepartureTimeUs) ∧
        (∀ t, ∀ δ ∈ s.differences t, δ.subtrahend ≤ δ.minuend) ∧
        ∀ a s', step (program defaultServer) s a = some s' →
          s'.data.stats.timeFigures = s.data.stats.timeFigures ∨
            ∃ t, Executes (program defaultServer) s s' t ∧
              s'.data.stats.timeFigures =
                s.data.stats.timeFigures.recordAll (s.differences t) := by
  obtain ⟨s, hs, hjobs⟩ := exists_run defaultServer anyChoice servedLate
    (fun s => s.data.servedJobs.map Job.stamps = [[3000, 3000, 4000, 4000, 9000]])
    (by decide +kernel)
  exact ⟨s, hs, hjobs, timestamps_in_order hs⟩

end Orchestrator
