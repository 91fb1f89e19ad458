import Orchestrator.QueueBooks
import Orchestrator.Pthread.Monitor

/-!
# The queue's monitor

`job_queue_mutex` protects the line and its books.  What follows holds as long as the stop handler
has not removed a job.

* `Synced` — outside the critical sections, the books list the jobs that are in line and those that
  were taken, and the statistics have the area of the books.
* `Stamped`, `Joining`, `Leaving` — what is outstanding inside them.
* `queueMonitor` — every instruction keeps to this, so that it holds in every run.
-/

namespace Orchestrator

open Pthread Queueing

/-! ## Entries -/

/-- The entry of a job in line. -/
def Job.key (job : Job) : ℕ × ℕ := (job.id, job.queueArrivalTimeUs.toNat)

/-- The entry of a job that was taken. -/
def Job.visit (job : Job) : ℕ × ℕ × ℕ :=
  (job.id, job.queueArrivalTimeUs.toNat, job.queueDepartureTimeUs.toNat)

/-- The books are those of a line, and the statistics have their area. -/
structure Recorded (v : QueueView) : Prop where
  built : v.books.Built
  area : v.area = UInt64.ofNat v.books.area
  last_le : v.books.last ≤ v.clock.toNat
  joined : v.books.entered = v.joined

/-- The books are up to date. -/
structure Synced (v : QueueView) : Prop extends Recorded v where
  last : v.last.toNat = v.books.last
  list : v.list.map Job.key = v.books.present
  dequeued : v.dequeued.map Job.key = v.books.left

/-- A job is about to join the line. -/
structure Stamped (job : Job) (saved : ULong) (v : QueueView) : Prop extends Synced v where
  saved : saved = v.last
  after : v.books.last ≤ job.queueArrivalTimeUs.toNat
  before : job.queueArrivalTimeUs.toNat ≤ v.clock.toNat

/-- A job has joined the line and not been reported. -/
structure Joining (job : Job) (saved : ULong) (v : QueueView) : Prop extends Recorded v where
  saved : saved.toNat = v.books.last
  list : v.list.map Job.key = v.books.present ++ [job.key]
  dequeued : v.dequeued.map Job.key = v.books.left
  after : v.books.last ≤ job.queueArrivalTimeUs.toNat
  before : job.queueArrivalTimeUs.toNat ≤ v.clock.toNat

/-- A job was taken and that has not been reported. -/
structure Leaving (job : Job) (saved : ULong) (v : QueueView) : Prop extends Recorded v where
  saved : saved.toNat = v.books.last
  list : job.key :: v.list.map Job.key = v.books.present
  dequeued : v.dequeued.map Job.key = v.books.left ++ [job.key]

/-- What holds inside and outside: whoever is in the books was enqueued, in this order. -/
structure Kept (v : QueueView) : Prop extends Recorded v where
  entered : v.books.entered <+: (v.dequeued ++ v.list).map Job.key

lemma Synced.kept {v : QueueView} (h : Synced v) : Kept v where
  toRecorded := h.toRecorded
  entered := by rw [List.map_append, h.dequeued, h.list, Ledger.entered]

lemma Joining.kept {job : Job} {saved : ULong} {v : QueueView} (h : Joining job saved v) :
    Kept v where
  toRecorded := h.toRecorded
  entered := by
    rw [List.map_append, h.dequeued, h.list, Ledger.entered, ← List.append_assoc]
    exact List.prefix_append _ _

lemma Leaving.kept {job : Job} {saved : ULong} {v : QueueView} (h : Leaving job saved v) :
    Kept v where
  toRecorded := h.toRecorded
  entered := by
    rw [List.map_append, h.dequeued, List.append_assoc, List.singleton_append, h.list,
      Ledger.entered]

/-! ## Later -/

/-- The clock went on, and jobs departed from the system. -/
def Later (v v' : QueueView) : Prop :=
  ∃ clock departed totalWait, v.clock ≤ clock ∧
    v' = { v with clock := clock, departed := departed, totalWait := totalWait }

lemma Later.of_eq {v v' : QueueView} (h : v' = v) : Later v v' :=
  ⟨v.clock, v.departed, v.totalWait, UInt64.le_refl _, h⟩

section Later

variable {v v' : QueueView} {job : Job} {saved : ULong}

lemma Later.removed (h : Later v v') : v'.removed = v.removed := by
  obtain ⟨_, _, _, _, rfl⟩ := h
  rfl

lemma Recorded.later (hr : Recorded v) (h : Later v v') : Recorded v' := by
  obtain ⟨_, _, _, hle, rfl⟩ := h
  exact ⟨hr.built, hr.area, hr.last_le.trans (UInt64.le_iff_toNat_le.mp hle), hr.joined⟩

lemma Synced.later (hr : Synced v) (h : Later v v') : Synced v' := by
  have hrec := hr.toRecorded.later h
  obtain ⟨_, _, _, _, rfl⟩ := h
  exact ⟨hrec, hr.last, hr.list, hr.dequeued⟩

lemma Kept.later (hr : Kept v) (h : Later v v') : Kept v' := by
  have hrec := hr.toRecorded.later h
  obtain ⟨_, _, _, _, rfl⟩ := h
  exact ⟨hrec, hr.entered⟩

lemma Stamped.later (hr : Stamped job saved v) (h : Later v v') : Stamped job saved v' := by
  have hsync := hr.toSynced.later h
  obtain ⟨_, _, _, hle, rfl⟩ := h
  exact ⟨hsync, hr.saved, hr.after, hr.before.trans (UInt64.le_iff_toNat_le.mp hle)⟩

lemma Joining.later (hr : Joining job saved v) (h : Later v v') : Joining job saved v' := by
  have hrec := hr.toRecorded.later h
  obtain ⟨_, _, _, hle, rfl⟩ := h
  exact ⟨hrec, hr.saved, hr.list, hr.dequeued, hr.after,
    hr.before.trans (UInt64.le_iff_toNat_le.mp hle)⟩

lemma Leaving.later (hr : Leaving job saved v) (h : Later v v') : Leaving job saved v' := by
  have hrec := hr.toRecorded.later h
  obtain ⟨_, _, _, _, rfl⟩ := h
  exact ⟨hrec, hr.saved, hr.list, hr.dequeued⟩

end Later

/-! ## The four instructions -/

/-- The arithmetic of an entry, modulo `2 ^ 64`. -/
lemma area_entry {saved now : ULong} {area n : ℕ} {k : Int} (hle : saved.toNat ≤ now.toNat)
    (hk : k = n) :
    UInt64.ofNat area + (now - saved) * ulongOfInt k =
      UInt64.ofNat (area + (now.toNat - saved.toNat) * n) := by
  have hsub : now - saved = UInt64.ofNat (now.toNat - saved.toNat) := by
    rw [UInt64.ofNat_sub hle, UInt64.ofNat_toNat, UInt64.ofNat_toNat]
  have hlen : ulongOfInt k = UInt64.ofNat n := by
    rw [hk, ulongOfInt, BitVec.ofInt_natCast]
    rfl
  rw [hsub, hlen, UInt64.ofNat_add, UInt64.ofNat_mul]

variable {setup : Setup} {d d' : Data}

lemma Stamped.enqueue
    (h : Stamped d.receiver.job d.receiver.queueLastInteractionTimeUs d.queueView) :
    Joining d.receiver.job d.receiver.queueLastInteractionTimeUs
      (Receiver.enqueueJob d).queueView := by
  rw [enqueueJob_queueView]
  refine ⟨⟨h.built, h.area, h.last_le, h.joined⟩, ?_, ?_, h.dequeued, h.after, h.before⟩
  · rw [h.saved]; exact h.last
  · have hlist : d.jobQueue.list.map Job.key = d.queueView.books.present := h.list
    show (d.jobQueue.list ++ [d.receiver.job]).map Job.key = _
    rw [List.map_append, hlist]
    rfl

lemma Joining.report {mode : LogMode}
    (h : Joining d.receiver.job d.receiver.queueLastInteractionTimeUs d.queueView) :
    Synced (Receiver.reportQueueArrival mode d).queueView := by
  have hlen : ((d.jobQueue.list.length : Int) - 1) = (d.queueView.books.present.length : ℕ) := by
    have hlen := congrArg List.length h.list
    rw [List.length_map, List.length_append, List.length_singleton] at hlen
    change d.jobQueue.list.length = _ at hlen
    omega
  rw [reportQueueArrival_queueView]
  refine ⟨⟨.arrive _ h.built h.after, ?_, h.before, ?_⟩, rfl, h.list, h.dequeued⟩
  · have hsaved := h.saved
    show d.queueView.area + _ * _ = _
    rw [h.area, area_entry (by rw [hsaved]; exact h.after) hlen, hsaved]
    rfl
  · show (d.queueView.books.arrive _ _).entered = d.queueView.joined ++ _
    rw [Ledger.entered_arrive, h.joined]

lemma Synced.take {i : Slot} (h : Synced d.queueView) (hlist : d.queueView.list ≠ []) :
    Leaving ((Printer.takeJob i d).printer i).job
      ((Printer.takeJob i d).printer i).queueLastInteractionTimeUs
      (Printer.takeJob i d).queueView := by
  obtain ⟨job, rest, hqueue⟩ := List.exists_cons_of_ne_nil hlist
  change d.jobQueue.list = job :: rest at hqueue
  have hpresent : (job :: rest).map Job.key = d.queueView.books.present := hqueue ▸ h.list
  obtain ⟨hview, hjob, hsaved⟩ := takeJob_queueView i hqueue
  rw [hview, hjob, hsaved]
  refine ⟨⟨h.built, h.area, h.last_le, h.joined⟩, h.last, hpresent, ?_⟩
  have hdequeued : d.dequeued.map Job.key = d.queueView.books.left := h.dequeued
  show (d.dequeued ++ [job]).map Job.key = _
  rw [List.map_append, hdequeued]
  rfl

lemma Leaving.report {mode : LogMode} {i : Slot}
    (h : Leaving (d.printer i).job (d.printer i).queueLastInteractionTimeUs d.queueView) :
    Synced (Printer.leaveQueue mode i d).queueView := by
  have hfront := h.list.symm
  have hlen : ((d.jobQueue.list.length : Int) + 1) = (d.queueView.books.present.length : ℕ) := by
    rw [hfront, List.length_cons, List.length_map]
    rfl
  rw [leaveQueue_queueView]
  refine ⟨⟨.depart h.built hfront h.last_le, ?_, Nat.le_refl _, ?_⟩, rfl, ?_, ?_⟩
  · have hsaved := h.saved
    show d.queueView.area + _ * _ = _
    rw [h.area, area_entry (by rw [hsaved]; exact h.last_le) hlen, hsaved]
    rfl
  · show (d.queueView.books.depart _ _ _).entered = d.queueView.joined
    rw [Ledger.entered_depart hfront, h.joined]
  · show d.queueView.list.map Job.key = d.queueView.books.present.tail
    rw [hfront, List.tail_cons]
  · show d.queueView.dequeued.map Job.key = (d.queueView.books.depart _ _ _).left
    rw [h.dequeued, Ledger.left_depart]
    rfl

/-! ## Inside the critical sections -/

/-- What the receiver knows where it owns the mutex. -/
def receiverInside (q : ReceiverPc) (d : Data) : Prop :=
  match q with
  | .enqueue => Stamped d.receiver.job d.receiver.queueLastInteractionTimeUs d.queueView
  | .lockStatsQueue | .emitQueueArrival =>
      Joining d.receiver.job d.receiver.queueLastInteractionTimeUs d.queueView
  | _ => Synced d.queueView

/-- What a printer knows where it owns the mutex. -/
def printerInside (i : Slot) (q : PrinterPc) (d : Data) : Prop :=
  match q with
  | .checkPaper | .dequeue => Synced d.queueView ∧ d.queueView.list ≠ []
  | .emitQueueDeparture =>
      Leaving (d.printer i).job (d.printer i).queueLastInteractionTimeUs d.queueView
  | _ => Synced d.queueView

/-- What a thread knows where it owns the mutex. -/
def queueInside : (t : Tid) → Pc t → Data → Prop
  | .receiver, q => receiverInside q
  | .printer i, q => printerInside i q
  | .main, _ | .stopper, _ | .refiller, _ | .autoscaler, _ => fun d => Synced d.queueView

/-- It holds, or the stop handler has removed a job. -/
def UnlessRemoved (P : Data → Prop) (d : Data) : Prop := d.queueView.removed ≠ [] ∨ P d

lemma UnlessRemoved.later {P Q : Data → Prop} (h : UnlessRemoved P d)
    (hl : Later d.queueView d'.queueView) (himp : P d → Q d') : UnlessRemoved Q d' :=
  h.imp (fun hne => by rwa [hl.removed]) himp

lemma receiverInside.kept {q : ReceiverPc} (h : receiverInside q d) : Kept d.queueView := by
  cases q with
  | enqueue => exact Stamped.toSynced h |>.kept
  | lockStatsQueue | emitQueueArrival => exact Joining.kept h
  | _ => exact Synced.kept h

lemma printerInside.kept {i : Slot} {q : PrinterPc} (h : printerInside i q d) :
    Kept d.queueView := by
  cases q with
  | checkPaper | dequeue => exact h.1.kept
  | emitQueueDeparture => exact Leaving.kept h
  | _ => exact Synced.kept h

lemma queueInside.kept {t : Tid} {q : Pc t} (h : queueInside t q d) : Kept d.queueView := by
  cases t with
  | receiver => exact receiverInside.kept h
  | printer i => exact printerInside.kept h
  | _ => exact Synced.kept h

/-- A thread's knowledge is about the line and its own variables. -/
lemma queueInside.later {t : Tid} {q : Pc t} (h : queueInside t q d)
    (hv : Later d.queueView d'.queueView) (hrec : t = .receiver → d'.receiver = d.receiver)
    (hprn : ∀ i, t = .printer i → d'.printer i = d.printer i) : queueInside t q d' := by
  cases t with
  | receiver =>
      change receiverInside q d at h
      show receiverInside q d'
      simp only [receiverInside, hrec rfl] at h ⊢
      cases q with
      | enqueue => exact Stamped.later h hv
      | lockStatsQueue | emitQueueArrival => exact Joining.later h hv
      | _ => exact Synced.later h hv
  | printer i =>
      have hlist : d'.queueView.list = d.queueView.list := by
        obtain ⟨_, _, _, _, he⟩ := hv
        rw [he]
      change printerInside i q d at h
      show printerInside i q d'
      simp only [printerInside, hprn i rfl, hlist] at h ⊢
      cases q with
      | checkPaper | dequeue => exact ⟨h.1.later hv, h.2⟩
      | emitQueueDeparture => exact Leaving.later h hv
      | _ => exact Synced.later h hv
  | _ => exact Synced.later h hv

/-! ## The instructions inside -/

/-- Apart from taking a job and reporting it, a printer leaves the line alone. -/
lemma printer_later {i : Slot} {args : PrinterThreadArgs} {q q' : PrinterPc}
    (h : (printerCode setup i args q).Goes d d' q') (hdequeue : q ≠ .dequeue)
    (hemit : q ≠ .emitQueueDeparture) : Later d.queueView d'.queueView := by
  rcases printer_queueView h with hv | ⟨hq, _⟩ | ⟨hq, _⟩ | ⟨_, rfl, _⟩
  · exact .of_eq hv
  · exact absurd hq hdequeue
  · exact absurd hq hemit
  · exact ⟨d.clock, _, _, UInt64.le_refl _, departSystem_queueView setup.mode i d⟩

lemma printer_inside {i : Slot} {args : PrinterThreadArgs} {q q' : PrinterPc}
    (h : (printerCode setup i args q).Goes d d' q') (hin : printerInside i q d) :
    printerInside i q' d' := by
  cases q with
  | dequeue =>
      obtain ⟨rfl, rfl⟩ := h
      exact hin.1.take hin.2
  | emitQueueDeparture =>
      obtain ⟨rfl, rfl⟩ := h
      exact Leaving.report hin
  | checkQueue =>
      obtain ⟨rfl, rfl⟩ := h
      simp only
      split
      · exact hin
      · split
        · exact hin
        · next hne => exact ⟨hin, fun hnil => hne (by simp_all [timedQueueIsEmpty, Data.queueView])⟩
  | checkPaper =>
      obtain ⟨rfl, rfl⟩ := h
      simp only
      split
      · exact hin.1
      · exact hin
  | checkRefilled | readTerminateInWait | checkDone =>
      obtain ⟨rfl, rfl⟩ := h
      simp only
      split <;> exact hin
  | exit => exact h.elim
  | _ =>
      have hlater := printer_later h (by simp) (by simp)
      obtain ⟨_, rfl⟩ := h
      exact Synced.later hin hlater

lemma receiver_later {q q' : ReceiverPc} (h : (receiverCode setup q).Goes d d' q')
    (henqueue : q ≠ .enqueue) (hemit : q ≠ .emitQueueArrival) :
    Later d.queueView d'.queueView := by
  rcases receiver_queueView h with hv | ⟨hq, _⟩ | ⟨hq, _⟩
  · exact .of_eq hv
  · exact absurd hq henqueue
  · exact absurd hq hemit

lemma receiver_inside {q q' : ReceiverPc} (h : (receiverCode setup q).Goes d d' q')
    (hin : receiverInside q d) : receiverInside q' d' := by
  cases q with
  | stampQueueArrival =>
      obtain ⟨rfl, rfl⟩ := h
      have hsync : Synced d.queueView := hin
      exact ⟨hsync, rfl, hsync.last_le, Nat.le_refl _⟩
  | enqueue =>
      obtain ⟨rfl, rfl⟩ := h
      exact Stamped.enqueue hin
  | lockStatsQueue =>
      obtain ⟨rfl, rfl⟩ := h
      exact hin
  | emitQueueArrival =>
      obtain ⟨rfl, rfl⟩ := h
      exact Joining.report hin
  | checkCapacity | readTerminate =>
      obtain ⟨rfl, rfl⟩ := h
      simp only
      split <;> exact hin
  | nextJob =>
      have hlater := receiver_later h (by simp) (by simp)
      obtain ⟨_, rfl⟩ := h
      simp only
      split <;> exact Synced.later hin hlater
  | exit => exact h.elim
  | _ =>
      have hlater := receiver_later h (by simp) (by simp)
      obtain ⟨_, rfl⟩ := h
      exact Synced.later hin hlater

/-- The stop handler removes a job or leaves the line alone. -/
lemma stop_later {q q' : StopPc} (h : (stopCode setup q).Goes d d' q') :
    d'.queueView.removed ≠ [] ∨ Later d.queueView d'.queueView := by
  rcases stop_queueView h with hv | ⟨_, rfl⟩
  · exact .inr (.of_eq hv)
  · cases hqueue : d.jobQueue.list with
    | nil => exact .inr (.of_eq (by rw [emptyQueueRound_jobs_nil _ hqueue]))
    | cons job rest => exact .inl (by rw [emptyQueueRound_queueView _ hqueue]; simp)

/-- A removed job stays removed. -/
lemma stop_removed {q q' : StopPc} (h : (stopCode setup q).Goes d d' q')
    (hne : d.queueView.removed ≠ []) : d'.queueView.removed ≠ [] := by
  rcases stop_later h with hrem | hl
  · exact hrem
  · rwa [hl.removed]

lemma printer_removed {i : Slot} {args : PrinterThreadArgs} {q q' : PrinterPc}
    (h : (printerCode setup i args q).Goes d d' q') :
    d'.queueView.removed = d.queueView.removed := by
  rcases printer_queueView h with hv | ⟨_, rfl, _⟩ | ⟨_, rfl, _⟩ | ⟨_, rfl, _⟩
  · rw [hv]
  · rfl
  · rw [leaveQueue_queueView]
  · rw [departSystem_queueView]

lemma receiver_removed {q q' : ReceiverPc} (h : (receiverCode setup q).Goes d d' q') :
    d'.queueView.removed = d.queueView.removed := by
  rcases receiver_queueView h with hv | ⟨_, rfl, _⟩ | ⟨_, rfl, _⟩
  · rw [hv]
  · rfl
  · rw [reportQueueArrival_queueView]

/-- A job that was removed stays so. -/
lemma code_removed {t : Tid} {arg : PrinterThreadArgs} {q q' : Pc t}
    (h : ((program setup).code t arg q).Goes d d' q') (hne : d.queueView.removed ≠ []) :
    d'.queueView.removed ≠ [] := by
  cases t with
  | receiver => rwa [receiver_removed h]
  | printer i => rwa [printer_removed h]
  | stopper => exact stop_removed h hne
  | main => rwa [main_queueView h]
  | refiller => rwa [refiller_queueView h]
  | autoscaler => rwa [autoscaler_queueView h]

/-- **Every instruction keeps what its thread knows.** -/
theorem queue_inside {t : Tid} {arg : PrinterThreadArgs} {q q' : Pc t}
    (h : ((program setup).code t arg q).Goes d d' q') (hin : UnlessRemoved (queueInside t q) d) :
    UnlessRemoved (queueInside t q') d' := by
  rcases hin with hne | hin
  · exact .inl (code_removed h hne)
  · cases t with
    | receiver => exact .inr (receiver_inside h hin)
    | printer i => exact .inr (printer_inside h hin)
    | stopper => exact (stop_later h).imp_right fun hl => Synced.later hin hl
    | main => exact .inr (Synced.later hin (.of_eq (main_queueView h)))
    | refiller => exact .inr (Synced.later hin (.of_eq (refiller_queueView h)))
    | autoscaler => exact .inr (Synced.later hin (.of_eq (autoscaler_queueView h)))

/-! ## The instructions outside -/

/-- Outside the critical sections, nobody touches the line. -/
lemma outside_later {t : Tid} {arg : PrinterThreadArgs} {q q' : Pc t} (harg : IsThreadArgs arg)
    (hm : Mutex.jobQueueMutex ∉ heldBy t arg q) (h : ((program setup).code t arg q).Goes d d' q') :
    d'.queueView.removed ≠ [] ∨ Later d.queueView d'.queueView := by
  have hqueue := jobQueueMutex_of_args harg
  cases t with
  | receiver =>
      change Mutex.jobQueueMutex ∉ receiverHeld q at hm
      exact .inr (receiver_later h (fun hq => hm (by rw [hq]; simp [receiverHeld]))
        fun hq => hm (by rw [hq]; simp [receiverHeld]))
  | printer i =>
      change Mutex.jobQueueMutex ∉ printerHeld arg q at hm
      exact .inr (printer_later h
        (fun hq => hm (by rw [hq]; simp [printerHeld, hqueue]))
        fun hq => hm (by rw [hq]; simp [printerHeld, hqueue]))
  | stopper => exact stop_later h
  | main => exact .inr (.of_eq (main_queueView h))
  | refiller => exact .inr (.of_eq (refiller_queueView h))
  | autoscaler => exact .inr (.of_eq (autoscaler_queueView h))

/-- Nobody touches another thread's variables. -/
lemma other_locals {t u : Tid} {arg : PrinterThreadArgs} {q q' : Pc t}
    (h : ((program setup).code t arg q).Goes d d' q') (hne : u ≠ t) :
    (u = .receiver → d'.receiver = d.receiver) ∧
      ∀ i, u = .printer i → d'.printer i = d.printer i := by
  cases t with
  | receiver =>
      refine ⟨fun hu => absurd hu hne, fun i _ => ?_⟩
      rw [(receiver_locals h).2.1]
  | printer j =>
      obtain ⟨hrec, _, hprn, _⟩ := printer_locals h
      refine ⟨fun _ => hrec, fun i hu => hprn i ?_⟩
      rintro rfl
      exact hne hu
  | stopper =>
      obtain ⟨hrec, _, hprn, _⟩ := stop_locals h
      exact ⟨fun _ => hrec, fun i _ => by rw [hprn]⟩
  | main =>
      obtain ⟨hrec, _, hprn, _⟩ := main_locals h
      exact ⟨fun _ => hrec, fun i _ => by rw [hprn]⟩
  | refiller =>
      obtain ⟨hrec, hprn, _⟩ := refiller_locals h
      exact ⟨fun _ => hrec, fun i _ => by rw [hprn]⟩
  | autoscaler =>
      obtain ⟨hrec, _, hprn⟩ := autoscaler_locals h
      exact ⟨fun _ => hrec, fun i _ => by rw [hprn]⟩

/-! ## The monitor -/

/-- Who has just come to own the mutex knows that the books are up to date. -/
lemma inside_of_enters {t : Tid} {arg : PrinterThreadArgs} {q next : Pc t}
    (hcode : (program setup).code t arg q = .lock .jobQueueMutex next ∨
      ∃ c, (program setup).code t arg q = .wait c .jobQueueMutex next)
    (hs : Synced d.queueView) : queueInside t next d := by
  cases t with
  | receiver =>
      rcases hcode with hcode | ⟨c, hcode⟩ <;> change receiverCode setup q = _ at hcode <;>
        cases q <;> cases hcode <;> exact hs
  | printer i =>
      generalize Mutex.jobQueueMutex = m at hcode
      rcases hcode with hcode | ⟨c, hcode⟩ <;> change printerCode setup i arg q = _ at hcode <;>
        cases q <;> cases hcode <;> exact hs
  | _ => exact hs

/-- Who is about to give the mutex away knows it, too. -/
lemma synced_of_waits {t : Tid} {arg : PrinterThreadArgs} {c : Cond} {q next : Pc t}
    (hcode : (program setup).code t arg q = .wait c .jobQueueMutex next)
    (hin : queueInside t q d) : Synced d.queueView := by
  cases t with
  | receiver => change receiverCode setup q = _ at hcode; cases q <;> cases hcode
  | printer i =>
      generalize Mutex.jobQueueMutex = m at hcode
      change printerCode setup i arg q = _ at hcode
      cases q <;> cases hcode <;> exact hin
  | _ => exact hin

lemma goes_of_unlocks {t : Tid} {arg : PrinterThreadArgs} {f : Data → Data} {q : Pc t}
    {next : Data → Pc t}
    (hcode : (program setup).code t arg q = .unlock .jobQueueMutex f next) (d : Data) :
    ((program setup).code t arg q).Goes d (f d) (next (f d)) := by
  rw [hcode]
  exact ⟨rfl, rfl⟩

lemma synced_of_unlocks {t : Tid} {arg : PrinterThreadArgs} {f : Data → Data} {q : Pc t}
    {next : Data → Pc t}
    (hcode : (program setup).code t arg q = .unlock .jobQueueMutex f next)
    (hin : queueInside t q d) : Synced (f d).queueView := by
  have h := goes_of_unlocks hcode d
  cases t with
  | receiver =>
      change receiverCode setup q = _ at hcode
      cases q <;> cases hcode <;> exact hin
  | printer i =>
      rcases printer_queueView h with hv | ⟨rfl, _⟩ | ⟨rfl, _⟩ | ⟨rfl, _⟩
      · rw [hv]
        generalize Mutex.jobQueueMutex = m at hcode
        change printerCode setup i arg q = _ at hcode
        cases q <;> cases hcode <;> exact hin
      all_goals cases hcode
  | stopper =>
      rcases stop_queueView h with hv | ⟨rfl, _⟩
      · exact Synced.later hin (.of_eq hv)
      · cases hcode
  | main => exact Synced.later hin (.of_eq (main_queueView h))
  | refiller => exact Synced.later hin (.of_eq (refiller_queueView h))
  | autoscaler => exact Synced.later hin (.of_eq (autoscaler_queueView h))

/-- The environment moves the clock forward. -/
lemma env_later (e : Env) (d : Data) : Later d.queueView (e.apply d).queueView := by
  cases e with
  | tick t =>
      refine ⟨_, d.queueView.departed, d.queueView.totalWait, ?_, rfl⟩
      show d.clock ≤ if d.clock ≤ t then t else d.clock
      split
      · assumption
      · exact UInt64.le_refl _
  | _ => exact .of_eq rfl

lemma env_locals (e : Env) (d : Data) :
    (e.apply d).receiver = d.receiver ∧ (e.apply d).printer = d.printer := by
  cases e <;> exact ⟨rfl, rfl⟩

variable (setup)

/-- **The monitor of the job queue.** -/
def queueMonitor : Monitor (lockDiscipline setup) .jobQueueMutex where
  free := UnlessRemoved fun d => Synced d.queueView
  inside t _ q := UnlessRemoved (queueInside t q)
  always := UnlessRemoved fun d => Kept d.queueView
  lock t arg q next d _ hcode hfree := hfree.imp_right fun hs => inside_of_enters (.inl hcode) hs
  resume t arg q c next d _ hcode hfree :=
    hfree.imp_right fun hs => inside_of_enters (.inr ⟨c, hcode⟩) hs
  wait t arg q c next d _ hcode hin := hin.imp_right fun hin => synced_of_waits hcode hin
  unlock t arg q f next d _ hcode hin :=
    hin.imp (code_removed (goes_of_unlocks hcode d)) fun hin => synced_of_unlocks hcode hin
  stays t arg q d d' q' _ _ _ h hin := queue_inside h hin
  frame t arg q d d' q' harg hm h := by
    rcases outside_later harg hm h with hne | hl
    · exact ⟨fun _ => .inl hne, fun _ => .inl hne, fun u _ arg' r _ => .inl hne⟩
    · refine ⟨fun hf => hf.later hl fun hs => hs.later hl,
        fun ha => ha.later hl fun hk => hk.later hl, fun u hu arg' r hin => ?_⟩
      obtain ⟨hrec, hprn⟩ := other_locals h hu
      exact hin.later hl fun hin => hin.later hl hrec hprn
  env e d := by
    have hl := env_later e d
    obtain ⟨hrec, hprn⟩ := env_locals e d
    exact ⟨fun hf => hf.later hl fun hs => hs.later hl,
      fun ha => ha.later hl fun hk => hk.later hl, fun u arg r hin =>
        hin.later hl fun hin => hin.later hl (fun _ => hrec) fun i _ => congrFun hprn i⟩
  free_always d hfree := hfree.imp_right fun hs => hs.kept
  inside_always t arg q d hin := hin.imp_right fun hin => hin.kept

variable {setup} {s : Sys} {ok : Sys → SysAction → Prop}

/-- **The books are kept in every run**, as long as no job is removed. -/
theorem queue_books (h : Reach (program setup) ok (freshState setup) s) :
    (queueMonitor setup).Inv s := by
  have hsync : Synced (freshData setup).queueView :=
    ⟨⟨.opened 0, rfl, Nat.zero_le _, rfl⟩, rfl, rfl, rfl⟩
  have hlocks : (lockDiscipline setup).Inv (freshState setup) :=
    lockInv (.refl : Reach (program setup) ok (freshState setup) _)
  refine (queueMonitor setup).inv_of_reach hlocks (mutex_fresh setup) ⟨?_, ?_, ?_⟩ h
  · exact fun _ => .inr hsync
  · intro t ht; cases ht
  · exact .inr hsync.kept

end Orchestrator
