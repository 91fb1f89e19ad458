import Orchestrator.Endings
import Orchestrator.Histories.Itinerary
import Orchestrator.QueueArea
import Orchestrator.Reports
import Orchestrator.ServiceTimes

/-!
# The life of a job in the log

A client that reads the log events sees each job arrive, be dropped or join the queue, and be
removed from there or taken to one printer, which prints it.

* `Stage` — how far a job has come, and the log events that say so.
* `OnRecord` — the log of a job agrees with the place it is in, up to the section of the job queue
  that somebody is still in.
* `on_record` — it does so in every run.
-/

namespace Orchestrator

open Pthread Queueing Histories

/-! ## The log of one job -/

/-- What a log event says about a job. -/
inductive Leg where
  | arrived
  | dropped
  | queued
  | shown
  | removed
  | taken
  | reached (printerId : ℕ)
  | started (printerId : ℕ)
  | left (printerId : ℕ)
  deriving DecidableEq, Repr

/-- The job an event of its life is about.  A report of an empty printer names a job too, but is no
event of its life: it says that the job waits, and comes when the printer has let go of the queue
(`paper_empty_after_joining`). -/
def Event.leg : Event → Option (ℕ × Leg)
  | .systemArrival job _ => some (job.id, .arrived)
  | .droppedJob job _ => some (job.id, .dropped)
  | .queueArrival job _ => some (job.id, .queued)
  | .jobUpdate job => some (job.id, .shown)
  | .removedJob job => some (job.id, .removed)
  | .queueDeparture job _ => some (job.id, .taken)
  | .printerArrival job printer => some (job.id, .reached printer.id)
  | .printerBusy printer jobId => some (jobId, .started printer.id)
  | .systemDeparture job printer => some (job.id, .left printer.id)
  | _ => none

/-- The log of job `k`, oldest event first. -/
def Data.jobLog (d : Data) (k : ℕ) : List Leg := itinerary Event.leg k d.emitted

/-- How far a job has come. -/
inductive Stage where
  | expected
  | arrived
  | dropped
  | waiting
  | removed
  | taken
  | reached (printerId : ℕ)
  | printing (printerId : ℕ)
  | printed (printerId : ℕ)
  deriving DecidableEq, Repr

/-- The log of a job that has come so far. -/
def Stage.log : Stage → List Leg
  | .expected => []
  | .arrived => [.arrived]
  | .dropped => [.arrived, .dropped]
  | .waiting => [.arrived, .queued, .shown]
  | .removed => [.arrived, .queued, .shown, .removed]
  | .taken => [.arrived, .queued, .shown, .taken]
  | .reached p => [.arrived, .queued, .shown, .taken, .reached p]
  | .printing p => [.arrived, .queued, .shown, .taken, .reached p, .started p]
  | .printed p => [.arrived, .queued, .shown, .taken, .reached p, .started p, .left p]

/-- Only a job that is still expected has not arrived. -/
lemma Stage.log_of_not_arrived {stage : Stage} (h : Leg.arrived ∉ stage.log) : stage.log = [] := by
  cases stage with
  | expected => rfl
  | _ => simp [Stage.log] at h

variable {setup : Setup} {d d' : Data}

/-- A job that has arrived is one whose arrival is in the log. -/
lemma arrived_mem_jobLog {k : ℕ} : Leg.arrived ∈ d.jobLog k ↔ k ∈ d.jobs.arrived := by
  rw [Data.jobLog, mem_itinerary, Data.jobs, List.mem_filterMap]
  refine exists_congr fun e => and_congr_right fun _ => ?_
  cases e <;> simp [Event.leg, Event.arrivedId]

/-! ## What the threads report -/

/-- What printer `i` reports about its job at `q`. -/
def printerLegs (i : Slot) (d : Data) : PrinterPc → List Leg
  | .emitQueueDeparture => [.taken]
  | .emitArrival => [.reached (d.slot i).id]
  | .emitBusy => [.started (d.slot i).id]
  | .emitDeparture => [.left (d.slot i).id]
  | _ => []

/-- What the receiver reports about its job at `q`. -/
def receiverLegs : ReceiverPc → List Leg
  | .emitArrival => [.arrived]
  | .emitDrop => [.dropped]
  | .emitQueueArrival => [.queued, .shown]
  | _ => []

lemma printer_reported {i : Slot} {args : PrinterThreadArgs} {q q' : PrinterPc}
    (h : (printerCode setup i args q).Goes d d' q') :
    Reported Event.leg (d.printer i).job.id d.emitted d'.emitted (printerLegs i d q) := by
  refine ⟨_, printer_emitted h, fun k => ?_⟩
  rcases eq_or_ne k (d.printer i).job.id with rfl | hk
  · cases q <;> simp [printerReports, printerLegs, itinerary, legOf, Event.leg]
  · cases q <;> simp [printerReports, itinerary, legOf, Event.leg, hk, hk.symm]

lemma receiver_reported {q q' : ReceiverPc} (h : (receiverCode setup q).Goes d d' q') :
    Reported Event.leg d.receiver.job.id d.emitted d'.emitted (receiverLegs q) := by
  refine ⟨_, receiver_emitted h, fun k => ?_⟩
  rcases eq_or_ne k d.receiver.job.id with rfl | hk
  · cases q <;> simp [receiverReports, receiverLegs, itinerary, legOf, Event.leg]
  · cases q <;> simp [receiverReports, itinerary, legOf, Event.leg, hk, hk.symm]

/-- The stop handler reports the job it removes. -/
lemma drain_reported {job : Job} {rest : List Job} (mode : LogMode)
    (hq : d.jobQueue.list = job :: rest) :
    Reported Event.leg job.id d.emitted (emptyQueueRound mode d).emitted [.removed] := by
  refine ⟨[.removedJob { job with queueDepartureTimeUs := d.clock }], ?_, fun k => ?_⟩
  · simp only [emptyQueueRound, timedQueueDequeueFront, hq]
    rfl
  · rcases eq_or_ne k job.id with rfl | hk
    · simp [itinerary, legOf, Event.leg]
    · simp [itinerary, legOf, Event.leg, hk, hk.symm]

/-- Without a job to remove, it reports nothing about jobs. -/
lemma stop_reported {q q' : StopPc} (h : (stopCode setup q).Goes d d' q')
    (hq : q = .drain → d.jobQueue.list = []) (k : ℕ) :
    Reported Event.leg k d.emitted d'.emitted [] := by
  rw [stop_emitted h]
  refine .of_silent fun e he => ?_
  cases q with
  | drain => simp [stopReports, timedQueueFirst, hq rfl] at he
  | emitStopped => rw [List.mem_singleton.mp he]; rfl
  | _ => cases he

/-- The threads that have nothing to do with jobs report nothing about them. -/
lemma bystander_reported {t : Tid} {args : PrinterThreadArgs} {q q' : Pc t}
    (h : ((program setup).code t args q).Goes d d' q')
    (ht : t = .main ∨ t = .refiller ∨ t = .autoscaler) (k : ℕ) :
    Reported Event.leg k d.emitted d'.emitted [] := by
  rw [emitted_of_goes h]
  refine .of_silent fun e he => ?_
  rcases ht with rfl | rfl | rfl
  · change e ∈ mainReports setup d q at he
    cases q <;> simp [mainReports, startedReports] at he <;> grind [Event.leg]
  · change e ∈ refillerReports setup d q at he
    cases q <;> simp [refillerReports] at he <;> grind [Event.leg]
  · change e ∈ autoscalerReports d q at he
    cases q <;> simp [autoscalerReports, startedReports] at he <;> grind [Event.leg]

/-! ## Where the log of a job stands -/

variable {s s' : Sys} {a : SysAction} {ok : Sys → SysAction → Prop}

/-- The job that the receiver has put into the queue and not reported there yet. -/
def unreported (q : ReceiverPc) (d : Data) : Option ℕ :=
  match q with
  | .lockStatsQueue | .emitQueueArrival => some d.receiver.job.id
  | _ => none

/-- How far a job in the queue has come, as far as the log goes. -/
def lineStage (s : Sys) (k : ℕ) : Stage :=
  if unreported s.receiverPc s.data = some k then .arrived else .waiting

/-- How far the job in the hands of the printer in slot `i` has come, as far as the log goes. -/
def handStage (i : Slot) : PrinterPc → Stage
  | .emitQueueDeparture => .waiting
  | .unlockQueue | .emitArrival => .taken
  | .markBusy | .emitBusy => .reached (i + 1)
  | _ => .printing (i + 1)

/-- The log of every job agrees with the place the job is in. -/
structure OnRecord (s : Sys) : Prop where
  lawful : ∀ k, ∃ stage : Stage, s.data.jobLog k = stage.log
  pending : ∀ k, (station s).pending = some k → s.data.jobLog k = Stage.arrived.log
  joined : ∀ k, unreported s.receiverPc s.data = some k → k ∈ (station s).line
  line : ∀ k ∈ (station s).line, s.data.jobLog k = (lineStage s k).log
  hand : ∀ i k, (station s).inService i = some k →
    s.data.jobLog k = (handStage i (s.printerPc i)).log

lemma onRecord_fresh (setup : Setup) : OnRecord (freshState setup) where
  lawful k := ⟨.expected, rfl⟩
  pending k hk := by cases hk
  joined k hk := by cases hk
  line k hk := by cases hk
  hand i k hk := by cases hk

/-- A step that reports nothing, takes no job out of the queue, and at most makes a printer drop the
job in its hands. -/
lemma OnRecord.of_silent (ih : OnRecord s) (hlog : ∀ k, s'.data.jobLog k = s.data.jobLog k)
    (hpending : (station s').pending = (station s).pending)
    (hline : (station s').line = (station s).line)
    (hun : unreported s'.receiverPc s'.data = unreported s.receiverPc s.data)
    (hhand : ∀ i k, (station s').inService i = some k → (station s).inService i = some k ∧
      handStage i (s'.printerPc i) = handStage i (s.printerPc i)) : OnRecord s' where
  lawful k := by rw [hlog]; exact ih.lawful k
  pending k hk := by rw [hlog]; exact ih.pending k (hpending ▸ hk)
  joined k hk := by rw [hline]; exact ih.joined k (hun ▸ hk)
  line k hk := by rw [hlog, lineStage, hun]; exact ih.line k (hline ▸ hk)
  hand i k hk := by
    obtain ⟨hbefore, hstage⟩ := hhand i k hk
    rw [hlog, hstage]
    exact ih.hand i k hbefore

/-- What another thread leaves alone in the hands of a printer, unless it starts the printer. -/
lemma hand_of_other {t : Tid} {i : Slot} (ex : Executes (program setup) s s' t)
    (hne : t ≠ .printer i) (hprn : s'.data.printer i = s.data.printer i) {k : ℕ}
    (hk : (station s').inService i = some k) :
    (station s).inService i = some k ∧
      handStage i (s'.printerPc i) = handStage i (s.printerPc i) := by
  rcases ex.other_place hne.symm with hpl | hc
  · have hpc : s'.printerPc i = s.printerPc i := hpl.1
    exact ⟨(inHand_congr hpl hprn).symm.trans hk, by rw [hpc]⟩
  · rw [show (station s').inService i = inHand i (s'.printerPc i) s'.data from rfl,
      inHand_created hc] at hk
    cases hk

/-- A thread that has nothing to do with jobs. -/
lemma OnRecord.of_bystander {t : Tid} (ih : OnRecord s)
    (h : Reach (program setup) ok (freshState setup) s) (ex : Executes (program setup) s s' t)
    (hr : t ≠ .receiver) (hp : ∀ i, t ≠ .printer i)
    (hlog : ∀ k, Reported Event.leg k s.data.emitted s'.data.emitted [])
    (hjobs : s'.data.jobs = s.data.jobs) (hrec : s'.data.receiver = s.data.receiver)
    (hprn : s'.data.printer = s.data.printer) : OnRecord s' := by
  have hpl : (s.ctl .receiver).SamePlace (s'.ctl .receiver) :=
    stays h ex hr.symm (by simp)
  have hpc : s'.receiverPc = s.receiverPc := hpl.1
  refine ih.of_silent (fun k => (hlog k).itinerary_silent k) (pendingJob_congr hpl hrec) ?_ ?_
    fun i k hk => hand_of_other ex (hp i) (by rw [hprn]) hk
  · simp only [station, hjobs]
  · simp only [unreported, hpc, hrec]

/-! ### The receiver -/

/-- Where the receiver has not reported its job in the queue, it holds the mutex of the queue. -/
lemma holds_of_unreported (h : Reach (program setup) ok (freshState setup) s) {k : ℕ}
    (hk : unreported s.receiverPc s.data = some k) :
    (lockDiscipline setup).Holds s .receiver .jobQueueMutex := by
  refine receiver_holds h ?_
  generalize s.receiverPc = q at hk ⊢
  cases q with
  | lockStatsQueue | emitQueueArrival => decide
  | _ => cases hk

/-- While another thread holds the mutex of the queue, every job there is reported. -/
lemma unreported_eq_none {t : Tid} (h : Reach (program setup) ok (freshState setup) s)
    (ht : (lockDiscipline setup).Holds s t .jobQueueMutex) (hne : t ≠ .receiver) :
    unreported s.receiverPc s.data = none := by
  cases hun : unreported s.receiverPc s.data with
  | none => rfl
  | some k => exact absurd ((lockInv h).exclusive ht (holds_of_unreported h hun)) hne

/-- A receiver's instruction that reports nothing of the life of its job and places it nowhere. -/
lemma receiver_silent {q q' : ReceiverPc} (h : (receiverCode setup q).Goes d d' q')
    (hlegs : receiverLegs q = []) (henqueue : q ≠ .enqueue) :
    d'.jobs = d.jobs ∧ pendingJob q' d' = pendingJob q d ∧ unreported q' d' = unreported q d := by
  rcases receiver_jobs h with ⟨hj, hp⟩ | ⟨rfl, _⟩ | ⟨rfl, _⟩ | ⟨rfl, _⟩
  · refine ⟨hj, hp, ?_⟩
    cases q with
    | exit => exact h.elim
    | emitQueueArrival => cases hlegs
    | enqueue => exact absurd rfl henqueue
    | nextJob | readTerminate | checkCapacity =>
        obtain ⟨_, rfl⟩ := h
        simp only
        split <;> rfl
    | _ => obtain ⟨rfl, rfl⟩ := h; rfl
  · cases hlegs
  · cases hlegs
  · exact absurd rfl henqueue

/-- The log of a job that arrives is new. -/
lemma jobLog_of_arriving (ih : OnRecord s) (h : Reach (program setup) ok (freshState setup) s)
    (goes : (receiverCode setup s.receiverPc).Goes s.data s'.data s'.receiverPc)
    (hq : s.receiverPc = .emitArrival) : s.data.jobLog s.data.receiver.job.id = [] := by
  have hnum := numbered h
  obtain ⟨_, _, hnew⟩ := receiver_numbering goes hnum.job
  obtain ⟨stage, hstage⟩ := ih.lawful s.data.receiver.job.id
  rw [hstage]
  refine Stage.log_of_not_arrived fun harrived => ?_
  rw [← hstage, arrived_mem_jobLog] at harrived
  exact absurd (hnum.arrived _ harrived) (not_le.mpr (hnew hq).2)

lemma lineStage_log_ne_nil (s : Sys) (k : ℕ) : (lineStage s k).log ≠ [] := by
  rw [lineStage]
  split <;> simp [Stage.log]

lemma handStage_log_ne_nil (i : Slot) (q : PrinterPc) : (handStage i q).log ≠ [] := by
  cases q <;> simp [handStage, Stage.log]

section Receiver

variable (ih : OnRecord s) (h : Reach (program setup) ok (freshState setup) s)
  (ex : Executes (program setup) s s' .receiver)

include ih h ex

/-- The job the receiver counts as arrived. -/
lemma OnRecord.arrive (hq : s.receiverPc = .emitArrival) : OnRecord s' := by
  have goes : (receiverCode setup s.receiverPc).Goes s.data s'.data s'.receiverPc := ex.goes
  have hnew := jobLog_of_arriving ih h goes hq
  have hreported := receiver_reported goes
  have hown := hreported.itinerary_eq
  have hprn := (receiver_locals goes).2.1
  rw [hq] at goes hown
  obtain ⟨hd, hq'⟩ : s'.data = Receiver.reportArrival setup.mode s.data ∧
    s'.receiverPc = .unlockStatsArrival := goes
  have hown' : s'.data.jobLog s.data.receiver.job.id = Stage.arrived.log := by
    rw [Data.jobLog, hown, show itinerary Event.leg s.data.receiver.job.id s.data.emitted = [] from
      hnew]
    rfl
  -- the logs of the other jobs are not empty
  have hothers : ∀ {k l}, l ≠ [] → s.data.jobLog k = l → s'.data.jobLog k = l := fun hl hk => by
    rw [← hk]
    refine hreported.itinerary_other ?_
    rintro rfl
    exact hl (hk.symm.trans hnew)
  have hline : (station s').line = (station s).line := by
    simp only [station, hd, reportArrival_jobs]
  have hun : ∀ k, unreported s'.receiverPc s'.data = some k ↔
      unreported s.receiverPc s.data = some k := fun k => by rw [hq, hq']; simp [unreported]
  refine ⟨fun k => ?_, fun k hk => ?_, fun k hk => ?_, fun k hk => ?_, fun i k hk => ?_⟩
  · by_cases hk : k = s.data.receiver.job.id
    · subst hk; exact ⟨.arrived, hown'⟩
    · rw [Data.jobLog, hreported.itinerary_other hk]; exact ih.lawful k
  · have hpend : pendingJob s'.receiverPc s'.data = some s.data.receiver.job.id := by
      rw [pendingJob_of_holds (by rw [hq']; rfl), hd]
      simp [Receiver.reportArrival]
    obtain rfl := Option.some.inj (hpend.symm.trans hk)
    exact hown'
  · rw [hline]; exact ih.joined k ((hun k).mp hk)
  · rw [hline] at hk
    have hstage : lineStage s' k = lineStage s k := by simp only [lineStage, hun]
    rw [hstage]
    exact hothers (lineStage_log_ne_nil s k) (ih.line k hk)
  · obtain ⟨hbefore, hstage⟩ := hand_of_other ex (by simp) (by rw [hprn]) hk
    rw [hstage]
    exact hothers (handStage_log_ne_nil i _) (ih.hand i k hbefore)

/-- The job the receiver drops. -/
lemma OnRecord.drop (hq : s.receiverPc = .emitDrop) : OnRecord s' := by
  have goes : (receiverCode setup s.receiverPc).Goes s.data s'.data s'.receiverPc := ex.goes
  have hapart := (station_accounted h).apart
  have hreported := receiver_reported goes
  have hown := hreported.itinerary_eq
  have hprn := (receiver_locals goes).2.1
  have hpend : (station s).pending = some s.data.receiver.job.id :=
    pendingJob_of_holds (by rw [hq]; rfl)
  have harrived := ih.pending _ hpend
  rw [hq] at goes hown
  obtain ⟨hd, hq'⟩ := goes
  have hline : (station s').line = (station s).line := by
    simp only [station, hd, emit_droppedJob_jobs]
  have hun : ∀ k, unreported s'.receiverPc s'.data = some k ↔
      unreported s.receiverPc s.data = some k := fun k => by rw [hq, hq']; simp [unreported]
  refine ⟨fun k => ?_, fun k hk => ?_, fun k hk => ?_, fun k hk => ?_, fun i k hk => ?_⟩
  · by_cases hk : k = s.data.receiver.job.id
    · subst hk
      exact ⟨.dropped, by rw [Data.jobLog, hown]; exact congrArg (· ++ _) harrived⟩
    · rw [Data.jobLog, hreported.itinerary_other hk]; exact ih.lawful k
  · have hnone : (station s').pending = none := pendingJob_eq_none (by rw [hq']; rfl)
    rw [hnone] at hk
    cases hk
  · rw [hline]; exact ih.joined k ((hun k).mp hk)
  · rw [hline] at hk
    have hne : k ≠ s.data.receiver.job.id := by
      rintro rfl
      exact hapart.pending_line _ hpend hk
    rw [Data.jobLog, hreported.itinerary_other hne]
    simp only [lineStage, hun]
    exact ih.line k hk
  · obtain ⟨hbefore, hstage⟩ := hand_of_other ex (by simp) (by rw [hprn]) hk
    have hne : k ≠ s.data.receiver.job.id := by
      rintro rfl
      exact hapart.pending_service _ i hpend hbefore
    rw [Data.jobLog, hreported.itinerary_other hne, hstage]
    exact ih.hand i k hbefore

/-- The job the receiver puts into the queue. -/
lemma OnRecord.join (hq : s.receiverPc = .enqueue) : OnRecord s' := by
  have goes : (receiverCode setup s.receiverPc).Goes s.data s'.data s'.receiverPc := ex.goes
  have hapart := (station_accounted h).apart
  have hreported := receiver_reported goes
  have hprn := (receiver_locals goes).2.1
  have hpend : (station s).pending = some s.data.receiver.job.id :=
    pendingJob_of_holds (by rw [hq]; rfl)
  rw [hq] at goes hreported
  have hlog := hreported.itinerary_silent
  obtain ⟨hd, hq'⟩ := goes
  have hline : (station s').line = (station s).line ++ [s.data.receiver.job.id] := by
    simp only [station, hd, enqueueJob_jobs, List.map_append, List.map_singleton]
  have hun : unreported s.receiverPc s.data = none := by rw [hq]; rfl
  have hun' : unreported s'.receiverPc s'.data = some s.data.receiver.job.id := by
    rw [hq', hd]
    rfl
  refine ⟨fun k => ?_, fun k hk => ?_, fun k hk => ?_, fun k hk => ?_, fun i k hk => ?_⟩
  · rw [Data.jobLog, hlog]; exact ih.lawful k
  · have hnone : (station s').pending = none := pendingJob_eq_none (by rw [hq']; rfl)
    rw [hnone] at hk
    cases hk
  · obtain rfl := Option.some.inj (hun'.symm.trans hk)
    rw [hline]
    simp
  · rw [Data.jobLog, hlog, lineStage, hun']
    rw [hline] at hk
    rcases List.mem_append.mp hk with hk | hk
    · have hne : some s.data.receiver.job.id ≠ some k := fun heq => by
        obtain rfl := Option.some.inj heq
        exact hapart.pending_line _ hpend hk
      rw [if_neg hne]
      have hbefore := ih.line k hk
      rwa [lineStage, hun, if_neg (by simp)] at hbefore
    · obtain rfl := List.mem_singleton.mp hk
      rw [if_pos rfl]
      exact ih.pending _ hpend
  · obtain ⟨hbefore, hstage⟩ := hand_of_other ex (by simp) (by rw [hprn]) hk
    rw [Data.jobLog, hlog, hstage]
    exact ih.hand i k hbefore

/-- The job the receiver reports in the queue. -/
lemma OnRecord.announce (hq : s.receiverPc = .emitQueueArrival) : OnRecord s' := by
  have goes : (receiverCode setup s.receiverPc).Goes s.data s'.data s'.receiverPc := ex.goes
  have hapart := (station_accounted h).apart
  have hreported := receiver_reported goes
  have hown := hreported.itinerary_eq
  have hprn := (receiver_locals goes).2.1
  have hun : unreported s.receiverPc s.data = some s.data.receiver.job.id := by rw [hq]; rfl
  have hin := ih.joined _ hun
  have hbefore := ih.line _ hin
  rw [lineStage, hun, if_pos rfl] at hbefore
  rw [hq] at goes hown
  obtain ⟨hd, hq'⟩ := goes
  have hline : (station s').line = (station s).line := by
    simp only [station, hd, reportQueueArrival_jobs]
  have hun' : unreported s'.receiverPc s'.data = none := by rw [hq']; rfl
  have hown' : s'.data.jobLog s.data.receiver.job.id = Stage.waiting.log := by
    rw [Data.jobLog, hown]
    exact congrArg (· ++ _) hbefore
  refine ⟨fun k => ?_, fun k hk => ?_, fun k hk => ?_, fun k hk => ?_, fun i k hk => ?_⟩
  · by_cases hk : k = s.data.receiver.job.id
    · subst hk; exact ⟨.waiting, hown'⟩
    · rw [Data.jobLog, hreported.itinerary_other hk]; exact ih.lawful k
  · have hnone : (station s').pending = none := pendingJob_eq_none (by rw [hq']; rfl)
    rw [hnone] at hk
    cases hk
  · rw [hun'] at hk
    cases hk
  · rw [lineStage, hun', if_neg (by simp)]
    by_cases hne : k = s.data.receiver.job.id
    · subst hne; exact hown'
    · rw [Data.jobLog, hreported.itinerary_other hne]
      have hother := ih.line k (hline ▸ hk)
      rwa [lineStage, hun, if_neg fun heq => hne (Option.some.inj heq).symm] at hother
  · obtain ⟨hbusy, hstage⟩ := hand_of_other ex (by simp) (by rw [hprn]) hk
    have hne : k ≠ s.data.receiver.job.id := by
      rintro rfl
      exact hapart.line_service _ i hin hbusy
    rw [Data.jobLog, hreported.itinerary_other hne, hstage]
    exact ih.hand i k hbusy

lemma OnRecord.receiver_step : OnRecord s' := by
  have goes : (receiverCode setup s.receiverPc).Goes s.data s'.data s'.receiverPc := ex.goes
  by_cases hjoin : s.receiverPc = .enqueue
  · exact ih.join h ex hjoin
  by_cases hlegs : receiverLegs s.receiverPc = []
  · obtain ⟨hjobs, hpend, hun⟩ := receiver_silent goes hlegs hjoin
    have hprn := (receiver_locals goes).2.1
    have hreported := receiver_reported goes
    rw [hlegs] at hreported
    exact ih.of_silent hreported.itinerary_silent hpend (by simp only [station, hjobs]) hun
      fun i k hk => hand_of_other ex (by simp) (by rw [hprn]) hk
  · generalize hq : s.receiverPc = q at hlegs
    cases q with
    | emitArrival => exact ih.arrive h ex hq
    | emitDrop => exact ih.drop h ex hq
    | emitQueueArrival => exact ih.announce h ex hq
    | _ => exact absurd rfl hlegs

end Receiver

/-! ### The printers -/

/-- Any instruction of a printer with a job in its hands takes the log of the job to the stage of
the place it comes to. -/
lemma printer_handStage {i : Slot} {args : PrinterThreadArgs} {q q' : PrinterPc}
    (h : (printerCode setup i args q).Goes d d' q') (hid : (d.slot i).id = i + 1)
    (hq : q.holdsJob = true) :
    ∃ stage : Stage, (handStage i q).log ++ printerLegs i d q = stage.log ∧
      (q'.holdsJob = true → handStage i q' = stage) := by
  cases q with
  | emitQueueDeparture => rw [h.2]; exact ⟨.taken, rfl, fun _ => rfl⟩
  | unlockQueue => rw [h.2]; exact ⟨.taken, rfl, fun _ => rfl⟩
  | emitArrival =>
      rw [h.2]
      exact ⟨.reached (i + 1), by rw [← hid]; rfl, fun _ => rfl⟩
  | markBusy => rw [h.2]; exact ⟨.reached (i + 1), rfl, fun _ => rfl⟩
  | emitBusy =>
      rw [h.2]
      exact ⟨.printing (i + 1), by simp [printerLegs, hid, handStage, Stage.log], fun _ => rfl⟩
  | service | usePaper | markIdle | emitIdle | lockStats =>
      rw [h.2]
      exact ⟨.printing (i + 1), rfl, fun _ => rfl⟩
  | emitDeparture =>
      rw [h.2]
      exact ⟨.printed (i + 1), by simp [printerLegs, hid, handStage, Stage.log],
        fun hq' => by cases hq'⟩
  | _ => cases hq

section Printer

variable {i : Slot} (ih : OnRecord s) (h : Reach (program setup) ok (freshState setup) s)
  (ex : Executes (program setup) s s' (.printer i))

include ih h ex

/-- The job a printer takes from the queue. -/
lemma OnRecord.take (hq : s.printerPc i = .dequeue) : OnRecord s' := by
  have goes : (printerCode setup i (s.printerArgs i) (s.printerPc i)).Goes s.data s'.data
    (s'.printerPc i) := ex.goes
  have hapart := (station_accounted h).apart
  have hholds := printer_holds_queue h ex.running hq fun _ => List.mem_singleton_self _
  have hun := unreported_eq_none h hholds (by simp)
  have hlocals := printer_locals goes
  have hpl : (s.ctl .receiver).SamePlace (s'.ctl .receiver) := stays h ex (by simp) (by simp)
  have hpc : s'.receiverPc = s.receiverPc := hpl.1
  have hun' : unreported s'.receiverPc s'.data = none := by
    rw [← hun]
    simp only [unreported, hpc, hlocals.1]
  have hreported := printer_reported goes
  rw [hq] at goes hreported
  have hlog := hreported.itinerary_silent
  obtain ⟨hd, hq'⟩ := goes
  obtain ⟨rest, hqueue⟩ :=
    List.head?_eq_some_iff.mp ((frontKept h i).dequeue (by rw [ex.running]; rfl) hq)
  obtain ⟨hjobs, hjob⟩ := takeJob_jobs i hqueue
  set k₀ := (s.data.printer i).jobToDequeue.id with hk₀
  have hline : (station s).line = k₀ :: (station s').line := by
    simp only [station, hd, hjobs]
    exact congrArg (List.map Job.id) hqueue
  have hwaiting : ∀ k ∈ (station s).line, s.data.jobLog k = Stage.waiting.log := fun k hk => by
    rw [ih.line k hk, lineStage, hun, if_neg (by simp)]
  refine ⟨fun k => ?_, fun k hk => ?_, fun k hk => ?_, fun k hk => ?_, fun j k hk => ?_⟩
  · rw [Data.jobLog, hlog]; exact ih.lawful k
  · rw [Data.jobLog, hlog]
    exact ih.pending k ((pendingJob_congr hpl hlocals.1).symm.trans hk)
  · rw [hun'] at hk
    cases hk
  · rw [Data.jobLog, hlog, lineStage, hun', if_neg (by simp)]
    exact hwaiting k (by rw [hline]; exact List.mem_cons_of_mem _ hk)
  · rw [Data.jobLog, hlog]
    by_cases hj : j = i
    · subst hj
      have hhand : (station s').inService j = some k₀ := by
        show inHand j (s'.printerPc j) s'.data = _
        rw [inHand, if_pos (by rw [hq']; rfl), hd, hjob]
      obtain rfl := Option.some.inj (hhand.symm.trans hk)
      rw [hq']
      exact hwaiting _ (by rw [hline]; exact List.mem_cons_self)
    · obtain ⟨hbefore, hstage⟩ :=
        hand_of_other ex (by simpa using Ne.symm hj) (hlocals.2.2.1 j hj) hk
      rw [hstage]
      exact ih.hand j k hbefore

/-- What a printer reports about the job in its hands. -/
lemma OnRecord.serve (hids : IdsKept s.data.reportView) (hq : (s.printerPc i).holdsJob = true) :
    OnRecord s' := by
  have goes : (printerCode setup i (s.printerArgs i) (s.printerPc i)).Goes s.data s'.data
    (s'.printerPc i) := ex.goes
  have hapart := (station_accounted h).apart
  have hlocals := printer_locals goes
  have hpl : (s.ctl .receiver).SamePlace (s'.ctl .receiver) := stays h ex (by simp) (by simp)
  have hpc : s'.receiverPc = s.receiverPc := hpl.1
  have hun : unreported s'.receiverPc s'.data = unreported s.receiverPc s.data := by
    simp only [unreported, hpc, hlocals.1]
  have hreported := printer_reported goes
  have hown := hreported.itinerary_eq
  set k₀ := (s.data.printer i).job.id with hk₀
  have hbusy : (station s).inService i = some k₀ := by
    show inHand i (s.printerPc i) s.data = _
    rw [inHand, if_pos hq]
  have hline : (station s').line = (station s).line := by
    rcases printer_jobs goes with ⟨hj, _⟩ | ⟨hdeq, _⟩ | ⟨_, hd, _⟩
    · simp only [station, hj]
    · rw [hdeq] at hq; cases hq
    · simp only [station, hd, departSystem_jobs]
  obtain ⟨stage, hstage, hnext⟩ := printer_handStage goes (hids i) hq
  have hown' : s'.data.jobLog k₀ = stage.log := by
    rw [Data.jobLog, hown, ← hstage]
    exact congrArg (· ++ _) (ih.hand i k₀ hbusy)
  refine ⟨fun k => ?_, fun k hk => ?_, fun k hk => ?_, fun k hk => ?_, fun j k hk => ?_⟩
  · by_cases hk : k = k₀
    · rw [hk]; exact ⟨stage, hown'⟩
    · rw [Data.jobLog, hreported.itinerary_other hk]; exact ih.lawful k
  · have hbefore : (station s).pending = some k :=
      (pendingJob_congr hpl hlocals.1).symm.trans hk
    have hne : k ≠ k₀ := fun heq => hapart.pending_service k i hbefore (heq ▸ hbusy)
    rw [Data.jobLog, hreported.itinerary_other hne]
    exact ih.pending k hbefore
  · rw [hline]; exact ih.joined k (hun ▸ hk)
  · rw [hline] at hk
    have hne : k ≠ k₀ := fun heq => hapart.line_service k i hk (heq ▸ hbusy)
    rw [Data.jobLog, hreported.itinerary_other hne, lineStage, hun]
    exact ih.line k hk
  · by_cases hj : j = i
    · subst hj
      have hholds : (s'.printerPc j).holdsJob = true := by
        by_contra hno
        rw [show (station s').inService j = inHand j (s'.printerPc j) s'.data from rfl, inHand,
          if_neg hno] at hk
        cases hk
      have hsame : inHand j (s'.printerPc j) s'.data = inHand j (s.printerPc j) s.data := by
        rcases printer_jobs goes with ⟨_, hp⟩ | ⟨hdeq, _⟩ | ⟨_, _, hq'⟩
        · exact hp
        · rw [hdeq] at hq; cases hq
        · rw [hq'] at hholds; cases hholds
      obtain rfl := Option.some.inj (hbusy.symm.trans (hsame.symm.trans hk))
      rw [hnext hholds]
      exact hown'
    · obtain ⟨hbefore, hsame⟩ :=
        hand_of_other ex (by simpa using Ne.symm hj) (hlocals.2.2.1 j hj) hk
      have hne : k ≠ k₀ := fun heq => hj (hapart.service k j i hbefore (heq ▸ hbusy))
      rw [Data.jobLog, hreported.itinerary_other hne, hsame]
      exact ih.hand j k hbefore

end Printer

/-! ### Every step -/

/-- The job the stop handler removes. -/
lemma OnRecord.drain {job : Job} {rest : List Job} (ih : OnRecord s)
    (h : Reach (program setup) ok (freshState setup) s)
    (ex : Executes (program setup) s s' .stopper) (hq : s.stopPc = .drain)
    (hqueue : s.data.jobQueue.list = job :: rest) : OnRecord s' := by
  have goes : (stopCode setup s.stopPc).Goes s.data s'.data s'.stopPc := ex.goes
  have hapart := (station_accounted h).apart
  obtain ⟨hrec, _, hprn, _⟩ := stop_locals goes
  have hpl : (s.ctl .receiver).SamePlace (s'.ctl .receiver) := stays h ex (by simp) (by simp)
  have hpc : s'.receiverPc = s.receiverPc := hpl.1
  have hholds : (lockDiscipline setup).Holds s .stopper .jobQueueMutex := by
    refine Discipline.holds_of_running ex.running ?_
    show Mutex.jobQueueMutex ∈ stopHeld s.stopPc
    rw [hq]
    decide
  have hun := unreported_eq_none h hholds (by simp)
  have hun' : unreported s'.receiverPc s'.data = none := by
    rw [← hun]
    simp only [unreported, hpc, hrec]
  rw [hq] at goes
  have hd : s'.data = emptyQueueRound setup.mode s.data := goes.1
  have hreported := drain_reported setup.mode hqueue
  rw [← hd] at hreported
  have hline : (station s).line = job.id :: (station s').line := by
    simp only [station, hd, emptyQueueRound_jobs_cons _ hqueue]
    exact congrArg (List.map Job.id) hqueue
  have hwaiting : ∀ k ∈ (station s).line, s.data.jobLog k = Stage.waiting.log := fun k hk => by
    rw [ih.line k hk, lineStage, hun, if_neg (by simp)]
  have hfirst : job.id ∈ (station s).line := by rw [hline]; exact List.mem_cons_self
  refine ⟨fun k => ?_, fun k hk => ?_, fun k hk => ?_, fun k hk => ?_, fun i k hk => ?_⟩
  · by_cases hk : k = job.id
    · subst hk
      refine ⟨.removed, ?_⟩
      rw [Data.jobLog, hreported.itinerary_eq]
      exact congrArg (· ++ _) (hwaiting _ hfirst)
    · rw [Data.jobLog, hreported.itinerary_other hk]; exact ih.lawful k
  · have hbefore : (station s).pending = some k := (pendingJob_congr hpl hrec).symm.trans hk
    have hne : k ≠ job.id := fun heq => hapart.pending_line k hbefore (heq ▸ hfirst)
    rw [Data.jobLog, hreported.itinerary_other hne]
    exact ih.pending k hbefore
  · rw [hun'] at hk
    cases hk
  · have hnodup := hapart.line
    rw [hline] at hnodup
    have hne : k ≠ job.id := fun heq => (List.nodup_cons.mp hnodup).1 (heq ▸ hk)
    rw [Data.jobLog, hreported.itinerary_other hne, lineStage, hun', if_neg (by simp)]
    exact hwaiting k (by rw [hline]; exact List.mem_cons_of_mem _ hk)
  · obtain ⟨hbefore, hstage⟩ := hand_of_other ex (by simp) (by rw [hprn]) hk
    have hne : k ≠ job.id := fun heq => hapart.line_service k i (heq ▸ hfirst) hbefore
    rw [Data.jobLog, hreported.itinerary_other hne, hstage]
    exact ih.hand i k hbefore

lemma OnRecord.step (ih : OnRecord s) (h : Reach (program setup) ok (freshState setup) s)
    (hids : IdsKept s.data.reportView) (hs : step (program setup) s a = some s') :
    OnRecord s' := by
  cases sys_move hs with
  | quiet data places =>
      obtain ⟨c, r, k, data⟩ := data
      refine ih.of_silent (fun k => by rw [data]; rfl)
        (pendingJob_congr (places _) (by rw [data])) (by rw [station, station, data]; rfl) ?_
        fun i k hk => ⟨(inHand_congr (places _) (by rw [data])).symm.trans hk, ?_⟩
      · have hpc : s'.receiverPc = s.receiverPc := (places _).1
        rw [hpc, data]
        rfl
      · have hpc : s'.printerPc i = s.printerPc i := (places _).1
        rw [hpc]
  | main ex goes =>
      obtain ⟨hrec, _, hprn, _⟩ := main_locals goes
      exact ih.of_bystander h ex (by simp) (by simp)
        (bystander_reported ex.goes (.inl rfl)) (main_jobs goes) hrec hprn
  | refiller ex goes _ =>
      obtain ⟨hrec, hprn, _⟩ := refiller_locals goes
      exact ih.of_bystander h ex (by simp) (by simp)
        (bystander_reported ex.goes (.inr (.inl rfl))) (refiller_jobs goes) hrec hprn
  | autoscaler ex goes =>
      obtain ⟨hrec, _, hprn⟩ := autoscaler_locals goes
      exact ih.of_bystander h ex (by simp) (by simp)
        (bystander_reported ex.goes (.inr (.inr rfl))) (autoscaler_jobs goes) hrec hprn
  | receiver ex _ _ => exact ih.receiver_step h ex
  | stopper ex goes _ =>
      obtain ⟨hrec, _, hprn, _⟩ := stop_locals goes
      by_cases hq : s.stopPc = .drain ∧ s.data.jobQueue.list ≠ []
      · obtain ⟨job, rest, hqueue⟩ := List.exists_cons_of_ne_nil hq.2
        exact ih.drain h ex hq.1 hqueue
      · have hnil : s.stopPc = .drain → s.data.jobQueue.list = [] := fun hpc =>
          not_not.mp fun hne => hq ⟨hpc, hne⟩
        refine ih.of_bystander h ex (by simp) (by simp) (stop_reported goes hnil) ?_ hrec hprn
        rcases stop_jobs goes with hj | ⟨hpc, hd⟩
        · exact hj
        · rw [hd, emptyQueueRound_jobs_nil _ (hnil hpc)]
  | printer i ex goes others =>
      by_cases hq : s.printerPc i = .dequeue
      · exact ih.take h ex hq
      by_cases hholds : (s.printerPc i).holdsJob = true
      · exact ih.serve h ex hids hholds
      · -- with nothing in its hands, a printer reports nothing about jobs
        have hreported := printer_reported goes
        have hlegs : printerLegs i s.data (s.printerPc i) = [] := by
          generalize s.printerPc i = q at hholds
          cases q <;> first | rfl | exact absurd rfl hholds
        rw [hlegs] at hreported
        obtain ⟨hrec, _, hprn, _⟩ := printer_locals goes
        have hpl := others .receiver (by simp)
        have hpc : s'.receiverPc = s.receiverPc := hpl.1
        have hjobs : s'.data.jobs = s.data.jobs ∧
            inHand i (s'.printerPc i) s'.data = inHand i (s.printerPc i) s.data := by
          rcases printer_jobs goes with hsame | ⟨hdeq, _⟩ | ⟨hdep, _⟩
          · exact hsame
          · exact absurd hdeq hq
          · rw [hdep] at hholds
            exact absurd rfl hholds
        refine ih.of_silent hreported.itinerary_silent (pendingJob_congr hpl hrec)
          (by simp only [station, hjobs.1]) (by simp only [unreported, hpc, hrec]) fun j k hk => ?_
        by_cases hj : j = i
        · subst hj
          have hnone : inHand j (s.printerPc j) s.data = none := by rw [inHand, if_neg hholds]
          rw [show (station s').inService j = inHand j (s'.printerPc j) s'.data from rfl,
            hjobs.2, hnone] at hk
          cases hk
        · exact hand_of_other ex (by simpa using Ne.symm hj) (hprn j hj) hk

/-- **The log of a job agrees with the place it is in**, in every run. -/
theorem on_record (h : Reach (program setup) ok (freshState setup) s) : OnRecord s :=
  h.invariant (I := OnRecord) (onRecord_fresh setup) fun hr ih _ hs => ih.step hr (ids_kept hr) hs

end Orchestrator
