import Orchestrator.Jobs
import Orchestrator.Queueing.Ledger

/-!
# The books of the job queue

The log events of the job queue are the entries of a ledger, and the statistics keep its area in an
`unsigned long`.

* `books` — the ledger of the events so far.
* `Data.queueView` — the part of memory that the books are about, and which instructions change it.
-/

namespace Orchestrator

open Pthread Queueing

/-! ## The ledger of the events -/

/-- The ledger of a list of events, newest first. -/
def books : List Event → Ledger ℕ
  | [] => .opened 0
  | .queueArrival job _ :: es => (books es).arrive job.id job.queueArrivalTimeUs.toNat
  | .queueDeparture job _ :: es =>
      (books es).depart job.id job.queueArrivalTimeUs.toNat job.queueDepartureTimeUs.toNat
  | _ :: es => books es

/-- Who joined the line with an event, and when. -/
def Event.joined : Event → Option (ℕ × ℕ)
  | .queueArrival job _ => some (job.id, job.queueArrivalTimeUs.toNat)
  | _ => none

/-- The job of a departure from the system. -/
def Event.departed : Event → Option Job
  | .systemDeparture job _ => some job
  | _ => none

/-- The event concerns the line, or counts its waiting times. -/
def Event.aboutQueue : Event → Bool
  | .queueArrival _ _ | .queueDeparture _ _ | .systemDeparture _ _ | .removedJob _ => true
  | _ => false

/-- The state of the line and of its books. -/
structure QueueView where
  books : Ledger ℕ
  joined : List (ℕ × ℕ)
  area : ULong
  totalWait : ULong
  departed : List Job
  last : ULong
  list : List Job
  dequeued : List Job
  removed : List ℕ
  clock : ULong

/-- The state of the line in memory. -/
def Data.queueView (d : Data) : QueueView where
  books := Orchestrator.books d.emitted
  joined := (d.emitted.filterMap Event.joined).reverse
  area := d.stats.areaNumInJobQueueUs
  totalWait := d.stats.totalQueueWaitTimeUs
  departed := d.emitted.filterMap Event.departed
  last := d.jobQueue.lastInteractionTimeUs
  list := d.jobQueue.list
  dequeued := d.dequeued
  removed := d.emitted.filterMap Event.removedId
  clock := d.clock

lemma emit_queueView_of_silent (mode : LogMode) {e : Event} (d : Data)
    (h : e.aboutQueue = false) : (d.emit mode e).queueView = d.queueView := by
  cases mode <;> cases e <;> first | rfl | cases h

variable {setup : Setup} {d d' : Data}

/-! ## Which instructions change it -/

/-- A printer changes the line when it takes a job, and its books when it reports that and when it
records the departure of the job from the system. -/
lemma printer_queueView {i : Slot} {args : PrinterThreadArgs} {q q' : PrinterPc}
    (h : (printerCode setup i args q).Goes d d' q') :
    d'.queueView = d.queueView ∨
      (q = .dequeue ∧ d' = Printer.takeJob i d ∧ q' = .emitQueueDeparture) ∨
      (q = .emitQueueDeparture ∧ d' = Printer.leaveQueue setup.mode i d ∧ q' = .unlockQueue) ∨
      (q = .emitDeparture ∧ d' = Printer.departSystem setup.mode i d ∧ q' = .emitStats) := by
  cases q with
  | dequeue => exact .inr (.inl ⟨rfl, h⟩)
  | emitQueueDeparture => exact .inr (.inr (.inl ⟨rfl, h⟩))
  | emitDeparture => exact .inr (.inr (.inr ⟨rfl, h⟩))
  | exit => exact h.elim
  | emitPaperEmpty =>
      left
      rw [h.1, emit_queueView_of_silent _ _ rfl, emit_queueView_of_silent _ _ rfl]
      rfl
  | emitArrival =>
      left
      rw [h.1, Printer.arriveAtPrinter, emit_queueView_of_silent _ _ rfl]
      rfl
  | recordEmptyTime =>
      left
      rw [h.1, Printer.recordEmptyTime]
      split <;> rfl
  | _ =>
      left
      obtain ⟨rfl, _⟩ := h
      first
        | rfl
        | exact emit_queueView_of_silent _ _ rfl

/-- The receiver changes the line when it adds a job, and its books when it reports that. -/
lemma receiver_queueView {q q' : ReceiverPc} (h : (receiverCode setup q).Goes d d' q') :
    d'.queueView = d.queueView ∨
      (q = .enqueue ∧ d' = Receiver.enqueueJob d ∧ q' = .lockStatsQueue) ∨
      (q = .emitQueueArrival ∧ d' = Receiver.reportQueueArrival setup.mode d ∧
        q' = .unlockStatsQueue) := by
  cases q with
  | enqueue => exact .inr (.inl ⟨rfl, h⟩)
  | emitQueueArrival => exact .inr (.inr ⟨rfl, h⟩)
  | exit => exact h.elim
  | nextJob =>
      left
      rw [h.1, Receiver.createJob]
      split <;> rfl
  | emitArrival =>
      left
      rw [h.1, Receiver.reportArrival, emit_queueView_of_silent _ _ rfl,
        emit_queueView_of_silent _ _ rfl]
  | _ =>
      left
      obtain ⟨rfl, _⟩ := h
      first
        | rfl
        | exact emit_queueView_of_silent _ _ rfl

/-- The stop handler changes the line when it drains it. -/
lemma stop_queueView {q q' : StopPc} (h : (stopCode setup q).Goes d d' q') :
    d'.queueView = d.queueView ∨ (q = .drain ∧ d' = emptyQueueRound setup.mode d) := by
  cases q with
  | drain => exact .inr ⟨rfl, h.1⟩
  | setFlags => left; rw [h.1]; rfl
  | emitStopped => left; rw [h.1]; exact emit_queueView_of_silent _ _ rfl
  | _ => left; rw [stop_quiet h rfl]

lemma RefillEffect.queueView (h : RefillEffect setup.mode d d') : d'.queueView = d.queueView := by
  cases h with
  | noted _ _ data | filled _ _ data => rw [data]; rfl
  | reported _ e data he =>
      rw [data]
      cases e <;> first | exact emit_queueView_of_silent _ _ rfl | cases he

lemma refiller_queueView {q q' : RefillerPc} (h : (refillerCode setup q).Goes d d' q') :
    d'.queueView = d.queueView := by
  by_cases hq : q = .recordRefill
  · subst hq
    rw [h.1]
    rfl
  · exact (refiller_refills h hq).queueView

lemma ScalingEffect.queueView (h : ScalingEffect setup.mode d d') :
    d'.queueView = d.queueView := by
  cases h with
  | scaled _ _ _ data _ => rw [data]; rfl
  | reported _ e data he =>
      rw [data]
      cases e <;> first | exact emit_queueView_of_silent _ _ rfl | cases he

lemma autoscaler_queueView {q q' : AutoscalerPc} (h : (autoscalerCode setup q).Goes d d' q') :
    d'.queueView = d.queueView :=
  (autoscaler_scales h).queueView

lemma main_queueView {q q' : MainPc} (h : (mainCode setup q).Goes d d' q') :
    d'.queueView = d.queueView := by
  cases q with
  | emitParameters | emitStart | emitEnd | emitStatistics =>
      rw [h.1]; exact emit_queueView_of_silent _ _ rfl
  | _ => exact (main_scales h rfl).queueView

/-! ## What these instructions do -/

lemma takeJob_queueView {job : Job} {rest : List Job} (i : Slot)
    (h : d.jobQueue.list = job :: rest) :
    (Printer.takeJob i d).queueView =
        { d.queueView with list := rest, dequeued := d.dequeued ++ [job], last := d.clock } ∧
      ((Printer.takeJob i d).printer i).job = job ∧
      ((Printer.takeJob i d).printer i).queueLastInteractionTimeUs =
        d.jobQueue.lastInteractionTimeUs := by
  simp only [Printer.takeJob, timedQueueDequeueFront, h]
  exact ⟨rfl, by simp [Data.modifyLocals], by simp [Data.modifyLocals]⟩

lemma leaveQueue_queueView (mode : LogMode) (i : Slot) (d : Data) :
    (Printer.leaveQueue mode i d).queueView =
      { d.queueView with
        books := d.queueView.books.depart (d.printer i).job.id
          (d.printer i).job.queueArrivalTimeUs.toNat d.clock.toNat
        area := d.queueView.area + (d.clock - (d.printer i).queueLastInteractionTimeUs) *
          ulongOfInt ((d.jobQueue.list.length : Int) + 1)
        last := d.clock } := by
  rw [Printer.leaveQueue, emit_queueView_of_silent _ _ rfl, emit_queueView_of_silent _ _ rfl]
  cases mode <;> simp only [Data.queueView, Data.modifyLocals, Data.emit, Data.logger, consoleOps,
    websocketOps, logQueueDeparture, publishQueueDeparture, Option.getD_some, books,
    timedQueueLength, Function.update_self] <;> rfl

lemma enqueueJob_queueView (d : Data) :
    (Receiver.enqueueJob d).queueView =
      { d.queueView with list := d.jobQueue.list ++ [d.receiver.job], last := d.clock } := rfl

lemma reportQueueArrival_queueView (mode : LogMode) (d : Data) :
    (Receiver.reportQueueArrival mode d).queueView =
      { d.queueView with
        books := d.queueView.books.arrive d.receiver.job.id
          d.receiver.job.queueArrivalTimeUs.toNat
        joined := d.queueView.joined ++
          [(d.receiver.job.id, d.receiver.job.queueArrivalTimeUs.toNat)]
        area := d.queueView.area +
          (d.receiver.job.queueArrivalTimeUs - d.receiver.queueLastInteractionTimeUs) *
            ulongOfInt ((d.jobQueue.list.length : Int) - 1)
        last := d.receiver.job.queueArrivalTimeUs } := by
  rw [Receiver.reportQueueArrival, emit_queueView_of_silent _ _ rfl,
    emit_queueView_of_silent _ _ rfl]
  cases mode <;> simp only [Data.queueView, Data.modifyStats, Data.emit, Data.logger, consoleOps,
    websocketOps, logQueueArrival, publishQueueArrival, Option.getD_some, books,
    timedQueueLength, QueueView.mk.injEq] <;>
    simp only [List.filterMap_cons, Event.job, Event.joined, Event.departed, Event.removedId,
      List.reverse_cons, and_self]

lemma departSystem_queueView (mode : LogMode) (i : Slot) (d : Data) :
    (Printer.departSystem mode i d).queueView =
      { d.queueView with
        departed := (d.printer i).job :: d.queueView.departed
        totalWait := d.queueView.totalWait + ((d.printer i).job.queueDepartureTimeUs -
          (d.printer i).job.queueArrivalTimeUs) } := by
  have hemit : ∀ (d : Data) (job : Job) (printer : Printer),
      (d.emit mode (.systemDeparture job printer)).queueView =
        { d.queueView with
          departed := job :: d.queueView.departed
          totalWait := d.queueView.totalWait +
            (job.queueDepartureTimeUs - job.queueArrivalTimeUs) } := by
    intro d job printer
    rw [Data.emit_mode mode .server]
    simp only [Data.emit, Data.logger, websocketOps, Option.getD_some, publishSystemDeparture,
      publishDepartureOfPrinter]
    split <;> rfl
  rw [Printer.departSystem, hemit]
  rfl

lemma emptyQueueRound_queueView {job : Job} {rest : List Job} (mode : LogMode)
    (h : d.jobQueue.list = job :: rest) :
    (emptyQueueRound mode d).queueView =
      { d.queueView with
        list := rest
        dequeued := d.dequeued ++ [job]
        removed := job.id :: d.queueView.removed
        last := d.clock } := by
  simp only [emptyQueueRound, timedQueueDequeueFront, h]
  cases mode <;> rfl

end Orchestrator
