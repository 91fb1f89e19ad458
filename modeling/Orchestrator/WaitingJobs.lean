import Orchestrator.JobLog

/-!
# The jobs that wait

The log of a job is that of a waiting one from its queue arrival to its queue departure or removal.
A printer and the stop handler take a job out of the queue before they report it, in the same
section, so between two sections the jobs in the queue are those that wait by the log.

* `WaitsInQueue` — a job that waits by the log is in the queue, or somebody is in the section.
* `job_log_lawful` — the log of every job is that of one stage, in every run.
* `paper_empty_after_joining` — an empty printer names a job that has joined the queue by then.
* `job_log_ends` — where a run leaves its jobs.
-/

namespace Orchestrator

open Pthread Queueing Histories

variable {setup : Setup} {d d' : Data} {s s' : Sys} {a : SysAction}
  {ok : Sys → SysAction → Prop}

/-! ## Waiting by the log -/

/-- Whatever is reported of a job last is the last entry of its log. -/
lemma not_waiting_of_last (ls : List Leg) {leg : Leg} {k : ℕ}
    (h : Reported Event.leg k d.emitted d'.emitted (ls ++ [leg])) (hleg : leg ≠ .shown) :
    d'.jobLog k ≠ Stage.waiting.log := fun hk => by
  have hlast := congrArg List.getLast? (h.itinerary_eq.symm.trans hk)
  rw [← List.append_assoc, List.getLast?_concat] at hlast
  exact hleg (Option.some.inj hlast)

/-- A report that does not show a job in the queue makes no job a waiting one. -/
lemma waiting_before {ls : List Leg} {j k : ℕ}
    (h : Reported Event.leg j d.emitted d'.emitted ls) (hls : Leg.shown ∉ ls)
    (hk : d'.jobLog k = Stage.waiting.log) : d.jobLog k = Stage.waiting.log := by
  by_cases hj : k = j
  · subst hj
    rcases ls.eq_nil_or_concat' with rfl | ⟨ls, leg, rfl⟩
    · exact (h.itinerary_silent k).symm.trans hk
    · have hleg : leg ≠ .shown := by
        rintro rfl
        exact hls (by simp)
      exact absurd hk (not_waiting_of_last _ h hleg)
  · exact (h.itinerary_other hj).symm.trans hk

/-- Only the receiver's report makes a job a waiting one. -/
lemma waiting_step (hs : step (program setup) s a = some s') {k : ℕ}
    (hk : s'.data.jobLog k = Stage.waiting.log) :
    s.data.jobLog k = Stage.waiting.log ∨
      (Executes (program setup) s s' .receiver ∧ s.receiverPc = .emitQueueArrival ∧
        k = s.data.receiver.job.id) := by
  cases sys_move hs with
  | quiet data _ =>
      obtain ⟨c, r, k, data⟩ := data
      rw [data] at hk
      exact .inl hk
  | main ex _ =>
      exact .inl (waiting_before (bystander_reported ex.goes (.inl rfl) 0) (by simp) hk)
  | refiller ex _ _ =>
      exact .inl (waiting_before (bystander_reported ex.goes (.inr (.inl rfl)) 0) (by simp) hk)
  | autoscaler ex _ =>
      exact .inl (waiting_before (bystander_reported ex.goes (.inr (.inr rfl)) 0) (by simp) hk)
  | stopper ex goes _ =>
      left
      by_cases hq : s.stopPc = .drain ∧ s.data.jobQueue.list ≠ []
      · obtain ⟨job, rest, hqueue⟩ := List.exists_cons_of_ne_nil hq.2
        rw [hq.1] at goes
        have hreported := drain_reported setup.mode hqueue
        rw [← goes.1] at hreported
        exact waiting_before hreported (by decide) hk
      · have hnil : s.stopPc = .drain → s.data.jobQueue.list = [] := fun hpc =>
          not_not.mp fun hne => hq ⟨hpc, hne⟩
        exact waiting_before (stop_reported goes hnil 0) (by simp) hk
  | printer i ex goes _ =>
      refine .inl (waiting_before (printer_reported goes) ?_ hk)
      generalize s.printerPc i = q
      cases q <;> simp [printerLegs]
  | receiver ex goes _ =>
      have hreported := receiver_reported goes
      by_cases hq : s.receiverPc = .emitQueueArrival
      · by_cases hj : k = s.data.receiver.job.id
        · exact .inr ⟨ex, hq, hj⟩
        · exact .inl ((hreported.itinerary_other hj).symm.trans hk)
      · refine .inl (waiting_before hreported ?_ hk)
        generalize s.receiverPc = q at hq
        cases q <;> simp [receiverLegs] at hq ⊢

/-- The printer in slot `i` has taken job `k` out of the queue and is in the section still. -/
structure TakenBy (s : Sys) (i : Slot) (k : ℕ) : Prop where
  owner : s.owner .jobQueueMutex = .held (.printer i)
  pc : s.printerPc i = .emitQueueDeparture
  job : (s.data.printer i).job.id = k

/-- A job that waits by the log is in the queue, or a printer has just taken it out, or a thread has
ended in a section of the queue. -/
def WaitsInQueue (s : Sys) : Prop :=
  ∀ k, s.data.jobLog k = Stage.waiting.log →
    k ∈ (station s).line ∨ (∃ i, TakenBy s i k) ∨ ∃ t, s.owner .jobQueueMutex = .ended t

/-- A waiting job stays in the queue unless a printer takes it out. -/
lemma line_step (h : Reach (program setup) ok (freshState setup) s)
    (hs : step (program setup) s a = some s') {k : ℕ} (hline : k ∈ (station s).line)
    (hk : s'.data.jobLog k = Stage.waiting.log) :
    k ∈ (station s').line ∨ ∃ i, TakenBy s' i k := by
  have hsame : s'.data.jobs = s.data.jobs → k ∈ (station s').line := fun hj => by
    rw [show (station s').line = (station s).line by simp only [station, hj]]
    exact hline
  cases sys_move hs with
  | quiet data _ => obtain ⟨c, r, k, data⟩ := data; exact .inl (hsame (by rw [data]; rfl))
  | main ex goes => exact .inl (hsame (main_jobs goes))
  | refiller ex goes _ => exact .inl (hsame (refiller_jobs goes))
  | autoscaler ex goes => exact .inl (hsame (autoscaler_jobs goes))
  | receiver ex goes _ =>
      left
      rcases receiver_jobs goes with ⟨hj, _⟩ | ⟨_, hd, _⟩ | ⟨_, hd, _⟩ | ⟨_, hd, _⟩
      · exact hsame hj
      · simp only [station, hd, reportArrival_jobs]; exact hline
      · simp only [station, hd, emit_droppedJob_jobs]; exact hline
      · simp only [station, hd, enqueueJob_jobs, List.map_append]
        exact List.mem_append_left _ hline
  | stopper ex goes _ =>
      left
      rcases stop_jobs goes with hj | ⟨_, hd⟩
      · exact hsame hj
      · cases hqueue : s.data.jobQueue.list with
        | nil => exact hsame (by rw [hd, emptyQueueRound_jobs_nil _ hqueue])
        | cons job rest =>
            have hreported := drain_reported setup.mode hqueue
            rw [← hd] at hreported
            have hne : k ≠ job.id := by
              rintro rfl
              exact not_waiting_of_last [] hreported (by simp) hk
            simp only [station, Data.jobs, hqueue, List.map_cons] at hline
            simp only [station, hd, emptyQueueRound_jobs_cons _ hqueue]
            exact (List.mem_cons.mp hline).resolve_left hne
  | printer i ex goes _ =>
      rcases printer_jobs goes with ⟨hj, _⟩ | ⟨hq, hd, hq'⟩ | ⟨_, hd, _⟩
      · exact .inl (hsame hj)
      · obtain ⟨rest, hqueue⟩ :=
          List.head?_eq_some_iff.mp ((frontKept h i).dequeue (by rw [ex.running]; rfl) hq)
        obtain ⟨hjobs, hjob⟩ := takeJob_jobs i hqueue
        rw [← hd] at hjobs hjob
        have hlocks : (printerCode setup i (s.printerArgs i) (s.printerPc i)).Locks (.printer i)
            s.owner s'.owner := ex.locks
        rw [hq] at hlocks
        have howner : s'.owner .jobQueueMutex = .held (.printer i) := by
          rw [show s'.owner = s.owner from hlocks]
          exact ((lockInv h).owner _ _).mpr
            (printer_holds_queue h ex.running hq fun _ => List.mem_singleton_self _)
        simp only [station, hqueue, List.map_cons] at hline
        rcases List.mem_cons.mp hline with hk₀ | hrest
        · exact .inr ⟨i, howner, hq', by rw [hjob, hk₀]⟩
        · refine .inl ?_
          simp only [station, hjobs]
          exact hrest
      · refine .inl ?_
        simp only [station, hd, departSystem_jobs]
        exact hline

/-- A job in a printer's hands stays there until the printer reports it. -/
lemma TakenBy.step {i : Slot} {k : ℕ} (htaken : TakenBy s i k)
    (h : Reach (program setup) ok (freshState setup) s)
    (hs : step (program setup) s a = some s') (hk : s'.data.jobLog k = Stage.waiting.log) :
    TakenBy s' i k ∨ ∃ t, s'.owner .jobQueueMutex = .ended t := by
  have hholds := ((lockInv h).owner _ _).mp htaken.owner
  by_cases hex : Executes (program setup) s s' (.printer i)
  · have goes : (printerCode setup i (s.printerArgs i) (s.printerPc i)).Goes s.data s'.data
      (s'.printerPc i) := hex.goes
    have hreported := printer_reported goes
    rw [htaken.pc, htaken.job] at hreported
    exact absurd hk (not_waiting_of_last [] hreported (by simp))
  · rcases place_step hs hex with hpl | ⟨t, _, hc⟩
    · rcases Discipline.owner_held_step hs hex htaken.owner with howner | howner
      · refine .inl ⟨howner, ?_, by rw [printer_unchanged hs hex]; exact htaken.job⟩
        rw [Sys.printerPc, hpl.1]
        exact htaken.pc
      · exact .inr ⟨_, howner⟩
    · have hdead := hc.notAlive
      rw [hholds.1] at hdead
      cases hdead

lemma WaitsInQueue.step (ih : WaitsInQueue s)
    (h : Reach (program setup) ok (freshState setup) s)
    (hs : step (program setup) s a = some s') : WaitsInQueue s' := fun k hk => by
  rcases waiting_step hs hk with hwaiting | ⟨ex, hq, hj⟩
  · rcases ih k hwaiting with hline | ⟨i, htaken⟩ | ⟨t, howner⟩
    · rcases line_step h hs hline hk with hline | htaken
      · exact .inl hline
      · exact .inr (.inl htaken)
    · rcases htaken.step h hs hk with htaken | howner
      · exact .inr (.inl ⟨i, htaken⟩)
      · exact .inr (.inr howner)
    · exact .inr (.inr ⟨t, Discipline.owner_ended_step hs howner⟩)
  · -- the receiver reports a job that it has put into the queue
    have hjoined := (on_record h).joined k (by rw [hq, hj]; rfl)
    rcases line_step h hs hjoined hk with hline | htaken
    · exact .inl hline
    · exact .inr (.inl htaken)

theorem waitsInQueue (h : Reach (program setup) ok (freshState setup) s) : WaitsInQueue s :=
  h.invariant (I := WaitsInQueue) (fun k hk => by cases hk) fun hr ih _ hs => ih.step hr hs

/-! ## Reports of an empty printer -/

/-- The job that an empty printer names. -/
def Event.emptyFor : Event → Option ℕ
  | .paperEmpty _ jobId _ => some jobId
  | _ => none

/-- In a log, newest event first, every report of an empty printer comes after the report of its
job in the queue. -/
def EmptyAfterJoining (log : List Event) : Prop :=
  ∀ e past, (e :: past) <:+ log → ∀ k ∈ e.emptyFor, Leg.shown ∈ itinerary Event.leg k past

lemma EmptyAfterJoining.cons {e : Event} {log : List Event} (h : EmptyAfterJoining log)
    (he : ∀ k ∈ e.emptyFor, Leg.shown ∈ itinerary Event.leg k log) :
    EmptyAfterJoining (e :: log) := fun e' past hsuffix k hk => by
  rcases List.suffix_cons_iff.mp hsuffix with heq | hold
  · obtain ⟨rfl, rfl⟩ := List.cons_eq_cons.mp heq
    exact he k hk
  · exact h e' past hold k hk

lemma EmptyAfterJoining.append {log es : List Event} (h : EmptyAfterJoining log)
    (hes : ∀ e ∈ es, e.emptyFor = none) : EmptyAfterJoining (es ++ log) := by
  induction es with
  | nil => exact h
  | cons e es ih =>
      refine (ih fun e' he' => hes e' (List.mem_cons_of_mem _ he')).cons fun k hk => ?_
      rw [hes e List.mem_cons_self] at hk
      cases hk

/-- Nobody but a printer reports that it is empty. -/
lemma emptyFor_of_mem {t : Tid} {q : Pc t} (ht : ∀ i, t ≠ .printer i) {e : Event}
    (he : e ∈ reports setup t q d) : e.emptyFor = none := by
  cases t with
  | main =>
      change e ∈ mainReports setup d q at he
      cases q <;> simp [mainReports, startedReports] at he <;> grind [Event.emptyFor]
  | stopper =>
      change e ∈ stopReports d q at he
      cases q <;> simp [stopReports] at he <;> grind [Event.emptyFor]
  | receiver =>
      change e ∈ receiverReports d q at he
      cases q <;> simp [receiverReports] at he <;> grind [Event.emptyFor]
  | refiller =>
      change e ∈ refillerReports setup d q at he
      cases q <;> simp [refillerReports] at he <;> grind [Event.emptyFor]
  | autoscaler =>
      change e ∈ autoscalerReports d q at he
      cases q <;> simp [autoscalerReports, startedReports] at he <;> grind [Event.emptyFor]
  | printer i => exact absurd rfl (ht i)

/-- A printer reports it at one place. -/
lemma printer_emptyFor {i : Slot} {q : PrinterPc} (hq : q ≠ .emitPaperEmpty) {e : Event}
    (he : e ∈ printerReports setup i d q) : e.emptyFor = none := by
  cases q <;> simp [printerReports] at he hq <;> grind [Event.emptyFor]

/-- The printer has found too little paper for the job it has looked at, and not reported it. -/
def PrinterPc.willReportEmpty : PrinterPc → Bool
  | .noPaperUnlockQueue | .lockRefill | .emitPaperEmpty => true
  | _ => false

/-- Printers report jobs that have joined the queue, and have looked at such jobs. -/
structure EmptyReports (s : Sys) : Prop where
  log : EmptyAfterJoining s.data.emitted
  looked : ∀ i, (s.printerPc i).willReportEmpty = true →
    Leg.shown ∈ s.data.jobLog (s.data.printer i).jobToDequeue.id

/-- What is in the log of a job stays there. -/
lemma mem_jobLog_of_append {es : List Event} (h : d'.emitted = es ++ d.emitted) {leg : Leg} {k : ℕ}
    (hmem : leg ∈ d.jobLog k) : leg ∈ d'.jobLog k := by
  obtain ⟨e, he, hleg⟩ := mem_itinerary.mp hmem
  exact mem_itinerary.mpr ⟨e, by rw [h]; exact List.mem_append_right _ he, hleg⟩

/-- A printer comes to report a job that it has looked at, or was on the way to do so. -/
lemma printer_willReportEmpty {i : Slot} {args : PrinterThreadArgs} {q q' : PrinterPc}
    (h : (printerCode setup i args q).Goes d d' q') (hq' : q'.willReportEmpty = true) :
    (q.willReportEmpty = true ∧
        (d'.printer i).jobToDequeue = (d.printer i).jobToDequeue) ∨
      (q = .checkPaper ∧
        (d'.printer i).jobToDequeue = (timedQueueFirst d.jobQueue).getD default) := by
  cases q with
  | exit => exact h.elim
  | checkPaper => obtain ⟨rfl, _⟩ := h; exact .inr ⟨rfl, by simp [Printer.lookAtFront]⟩
  | noPaperUnlockQueue | lockRefill => obtain ⟨rfl, _⟩ := h; exact .inl ⟨rfl, rfl⟩
  | checkQueue =>
      obtain ⟨_, rfl⟩ := h
      simp only at hq'
      split at hq'
      · cases hq'
      · split at hq' <;> cases hq'
  | checkRefilled | readTerminateInWait | checkDone =>
      obtain ⟨_, rfl⟩ := h
      simp only at hq'
      split at hq' <;> cases hq'
  | _ => obtain ⟨_, rfl⟩ := h; cases hq'

/-- A printer that looks at the front job sees one that is shown in the queue. -/
lemma shown_of_front {i : Slot} (h : Reach (program setup) ok (freshState setup) s)
    (hrun : (s.ctl (.printer i)).status = .running) (hq : s.printerPc i = .checkPaper) :
    Leg.shown ∈ s.data.jobLog ((timedQueueFirst s.data.jobQueue).getD default).id := by
  have hholds := printer_holds_queue h hrun hq fun _ => List.mem_singleton_self _
  have hun := unreported_eq_none h hholds (by simp)
  have hne : s.data.jobQueue.list ≠ [] := (frontKept h i).checkPaper (by rw [hrun]; rfl) hq
  obtain ⟨job, rest, hqueue⟩ := List.exists_cons_of_ne_nil hne
  have hline : job.id ∈ (station s).line := by
    show job.id ∈ s.data.jobQueue.list.map Job.id
    rw [hqueue]
    exact List.mem_cons_self
  have hlog := (on_record h).line _ hline
  rw [lineStage, hun, if_neg (by simp)] at hlog
  rw [timedQueueFirst, hqueue]
  show Leg.shown ∈ s.data.jobLog job.id
  rw [hlog]
  decide

/-- What an instruction adds to the log. -/
lemma EmptyReports.grow {t : Tid} (ih : EmptyReports s) (ex : Executes (program setup) s s' t) :
    EmptyAfterJoining s'.data.emitted := by
  rw [emitted_of_goes ex.goes]
  by_cases ht : ∃ i, t = .printer i
  · obtain ⟨i, rfl⟩ := ht
    show EmptyAfterJoining (printerReports setup i s.data (s.printerPc i) ++ s.data.emitted)
    by_cases hq : s.printerPc i = .emitPaperEmpty
    · have hlooked := ih.looked i (by rw [hq]; rfl)
      rw [hq]
      refine (ih.log.cons fun k hk => ?_).cons fun k hk => by cases hk
      obtain rfl := Option.some.inj hk
      exact hlooked
    · exact ih.log.append fun e he => printer_emptyFor hq he
  · exact ih.log.append fun e he => emptyFor_of_mem (fun i hi => ht ⟨i, hi⟩) he

lemma EmptyReports.step (ih : EmptyReports s)
    (h : Reach (program setup) ok (freshState setup) s)
    (hs : step (program setup) s a = some s') : EmptyReports s' := by
  obtain ⟨es, hes, hlog⟩ : ∃ es, s'.data.emitted = es ++ s.data.emitted ∧
      EmptyAfterJoining s'.data.emitted := by
    cases step_move hs with
    | idle data _ => exact ⟨[], by rw [data]; rfl, by rw [data]; exact ih.log⟩
    | env e data _ =>
        have hsame : s'.data.emitted = s.data.emitted := by rw [data]; cases e <;> rfl
        exact ⟨[], hsame, hsame ▸ ih.log⟩
    | exec t ex => exact ⟨_, emitted_of_goes ex.goes, ih.grow ex⟩
  refine ⟨hlog, fun i hq' => ?_⟩
  by_cases hex : Executes (program setup) s s' (.printer i)
  · have goes : (printerCode setup i (s.printerArgs i) (s.printerPc i)).Goes s.data s'.data
      (s'.printerPc i) := hex.goes
    refine mem_jobLog_of_append hes ?_
    rcases printer_willReportEmpty goes hq' with ⟨hq, hjob⟩ | ⟨hq, hjob⟩
    · rw [hjob]
      exact ih.looked i hq
    · rw [hjob]
      exact shown_of_front h hex.running hq
  · rw [printer_unchanged hs hex]
    refine mem_jobLog_of_append hes (ih.looked i ?_)
    rcases place_step hs hex with hpl | ⟨t, _, hc⟩
    · rw [← hq', Sys.printerPc, Sys.printerPc, hpl.1]
    · rw [created_printer hc] at hq'
      cases hq'

lemma emptyReports (h : Reach (program setup) ok (freshState setup) s) : EmptyReports s :=
  h.invariant (I := EmptyReports)
    ⟨fun _ _ hsuffix => (by cases List.suffix_nil.mp hsuffix), fun _ hq => (by cases hq)⟩
    fun hr ih _ hs => ih.step hr hs

/-- **An empty printer names a job that has joined the queue.**  In every run, the report of an
empty printer comes after the one that shows its job in the queue, which another thread may have
taken out again since then. -/
theorem paper_empty_after_joining (h : Reach (program setup) anyChoice (freshState setup) s)
    {printer : Printer} {jobId : ℕ} {time : ULong} {past : List Event}
    (hreport : (.paperEmpty printer jobId time :: past) <:+ s.data.emitted) :
    Leg.shown ∈ itinerary Event.leg jobId past :=
  (emptyReports h).log _ past hreport jobId rfl

/-! ## Every run -/

/-- **Every job lives one life.**  Whatever the scheduler, the clock, the scaling and the stop
handler do, the log of a job is that of one stage of its life.  While nobody has the job queue, the
jobs in it are exactly the ones that are waiting by the log.  The log of a job in the hands of a
printer says how far this printer has come with it. -/
theorem job_log_lawful (h : Reach (program setup) anyChoice (freshState setup) s) :
    (∀ k, ∃ stage : Stage, s.data.jobLog k = stage.log) ∧
      (s.owner .jobQueueMutex = .free →
        ∀ k, k ∈ s.data.jobQueue.list.map Job.id ↔ s.data.jobLog k = Stage.waiting.log) ∧
      ∀ i, (s.printerPc i).holdsJob = true →
        s.data.jobLog (s.data.printer i).job.id = (handStage i (s.printerPc i)).log := by
  have hrec := on_record h
  refine ⟨hrec.lawful, fun hfree k => ⟨fun hk => ?_, fun hk => ?_⟩, fun i hi => hrec.hand i _ ?_⟩
  · have hun : unreported s.receiverPc s.data = none := by
      cases hun : unreported s.receiverPc s.data with
      | none => rfl
      | some k =>
          have howner := ((lockInv h).owner _ _).mpr (holds_of_unreported h hun)
          rw [hfree] at howner
          cases howner
    have hline := hrec.line k hk
    rwa [lineStage, hun, if_neg (by simp)] at hline
  · rcases waitsInQueue h k hk with hline | ⟨i, htaken⟩ | ⟨t, howner⟩
    · exact hline
    · have howner := htaken.owner
      rw [hfree] at howner
      cases howner
    · rw [hfree] at howner
      cases howner
  · show inHand i (s.printerPc i) s.data = _
    rw [inHand, if_pos hi]

/-- One job is being printed and the next one waits. -/
theorem job_log_lawful_while_printing :
    ∃ s : Sys, Reach (program defaultServer) anyChoice (freshState defaultServer) s ∧
      s.printerPc 0 = .service ∧ s.data.jobLog 1 = (Stage.printing 1).log ∧
      s.data.jobQueue.list.map Job.id = [2] ∧ s.data.jobLog 2 = Stage.waiting.log := by
  obtain ⟨s, hs, hpc, hid, hqueue, hfree⟩ := exists_run defaultServer anyChoice
    (runs Tid.main 20 ++ runs Tid.receiver 23 ++ runs (Tid.printer 0) 11 ++ runs Tid.receiver 20)
    (fun s => s.printerPc 0 = .service ∧ (s.data.printer 0).job.id = 1 ∧
      s.data.jobQueue.list.map Job.id = [2] ∧ s.owner .jobQueueMutex = .free) (by decide +kernel)
  obtain ⟨_, hwaiting, hhand⟩ := job_log_lawful hs
  refine ⟨s, hs, hpc, ?_, hqueue, ?_⟩
  · have hlog := hhand 0 (by rw [hpc]; rfl)
    rwa [hid, hpc] at hlog
  · exact (hwaiting hfree 2).mp (by rw [hqueue]; exact List.mem_singleton_self _)

/-! ## The end of a run -/

/-- Nothing happens to a job any more. -/
def Stage.final : Stage → Bool
  | .dropped | .removed | .printed _ => true
  | _ => false

/-- Nothing comes after it in the log of a job. -/
def Leg.last : Leg → Bool
  | .dropped | .removed | .left _ => true
  | _ => false

lemma Stage.final_of_last {stage : Stage} {leg : Leg} (hmem : leg ∈ stage.log)
    (hleg : leg.last = true) : stage.final = true := by
  cases leg with
  | dropped | removed | left => cases stage <;> simp [Stage.log, Stage.final] at hmem ⊢
  | _ => cases hleg

/-- The events that count a job as served, dropped or removed are the last in its log. -/
lemma Event.leg_of_counted {e : Event} {k : ℕ}
    (h : e.servedId = some k ∨ e.droppedId = some k ∨ e.removedId = some k) :
    ∃ leg : Leg, e.leg = some (k, leg) ∧ leg.last = true := by
  cases e with
  | systemDeparture job printer =>
      rcases h with h | h | h <;> cases h
      exact ⟨_, rfl, rfl⟩
  | droppedJob job previous =>
      rcases h with h | h | h <;> cases h
      exact ⟨_, rfl, rfl⟩
  | removedJob job =>
      rcases h with h | h | h <;> cases h
      exact ⟨_, rfl, rfl⟩
  | _ => rcases h with h | h | h <;> cases h

/-- A job that was dropped, removed or served has come to the end of its life. -/
lemma final_of_counted {k : ℕ} {e : Event} (ih : OnRecord s) (he : e ∈ s.data.emitted)
    (h : e.servedId = some k ∨ e.droppedId = some k ∨ e.removedId = some k) :
    ∃ stage : Stage, stage.final = true ∧ s.data.jobLog k = stage.log := by
  obtain ⟨leg, hleg, hlast⟩ := Event.leg_of_counted h
  obtain ⟨stage, hstage⟩ := ih.lawful k
  have hmem : leg ∈ s.data.jobLog k := mem_itinerary.mpr ⟨e, he, hleg⟩
  exact ⟨stage, Stage.final_of_last (hstage ▸ hmem) hlast, hstage⟩

/-- Every job that has arrived is in one of its places, or its life is over. -/
lemma final_or_placed (h : Reach (program setup) NoPrinterCancelled (freshState setup) s) {k : ℕ}
    (hk : k ∈ s.data.jobs.arrived) :
    (∃ stage : Stage, stage.final = true ∧ s.data.jobLog k = stage.log) ∨
      (station s).pending = some k ∨ k ∈ (station s).line ∨
        ∃ i, (station s).inService i = some k := by
  have hrec := on_record h
  have hcensus : k ∈ (station s).census := by
    rw [(station_conserved h).census]
    exact Multiset.mem_coe.mpr hk
  simp only [Station.census, Station.busy, Multiset.mem_add, Multiset.mem_coe, Multiset.mem_sum,
    Option.mem_toList, Finset.mem_univ, true_and] at hcensus
  rcases hcensus with ((((hp | hl) | hb) | hserved) | hdropped) | hremoved
  · exact .inr (.inl hp)
  · exact .inr (.inr (.inl hl))
  · exact .inr (.inr (.inr hb))
  · obtain ⟨e, he, hid⟩ := List.mem_filterMap.mp hserved
    exact .inl (final_of_counted hrec he (.inl hid))
  · obtain ⟨e, he, hid⟩ := List.mem_filterMap.mp hdropped
    exact .inl (final_of_counted hrec he (.inr (.inl hid)))
  · obtain ⟨e, he, hid⟩ := List.mem_filterMap.mp hremoved
    exact .inl (final_of_counted hrec he (.inr (.inr hid)))

/-- No printer is cancelled, nor the stop handler where it takes a job out of the queue and reports
it.  This is one step here, and the report of a job is lost if the handler is cancelled inside. -/
def ReportsKept (s : Sys) : SysAction → Prop
  | .accept (.printer _) => False
  | .accept .stopper => s.stopPc ≠ .drain
  | _ => True

instance (s : Sys) (a : SysAction) : Decidable (ReportsKept s a) :=
  match a with
  | .accept (.printer _) => isFalse id
  | .accept .stopper => inferInstanceAs (Decidable (s.stopPc ≠ .drain))
  | .accept .main | .accept .receiver | .accept .refiller | .accept .autoscaler => isTrue trivial
  | .run _ | .spurious _ | .env _ => isTrue trivial

/-- **Every life comes to its end.**  When the receiver and the printers of a run in which no
printer was cancelled have ended, every job that arrived was dropped, removed or printed, by its
log, or it was left in the queue and is waiting, by its log. -/
theorem job_log_ends (h : Reach (program setup) ReportsKept (freshState setup) s)
    (hreceiver : (s.ctl .receiver).status = .ended)
    (hprinters : ∀ i, (s.ctl (.printer i)).status.alive = false) {k : ℕ}
    (hk : Leg.arrived ∈ s.data.jobLog k) :
    (∃ stage : Stage, stage.final = true ∧ s.data.jobLog k = stage.log) ∨
      (k ∈ s.data.jobQueue.list.map Job.id ∧ s.data.jobLog k = Stage.waiting.log) := by
  have hno : Reach (program setup) NoPrinterCancelled (freshState setup) s :=
    h.mono fun s a hok i hi => by rw [hi] at hok; exact hok
  have hpending : s.receiverPc.holdsJob = false ∧ unreported s.receiverPc s.data = none := by
    have hdead : ¬(s.ctl .receiver).status.alive = true := by
      rw [hreceiver]
      decide
    have halive := receiver_alive h
    generalize s.receiverPc = q at halive ⊢
    cases q with
    | start | sleep | exit => exact ⟨rfl, rfl⟩
    | _ => exact absurd (halive (by simp) (by simp) (by simp)) hdead
  rcases final_or_placed hno (arrived_mem_jobLog.mp hk) with hfinal | hp | hl | ⟨i, hi⟩
  · exact .inl hfinal
  · rw [show (station s).pending = none from pendingJob_eq_none hpending.1] at hp
    cases hp
  · have hline := (on_record h).line k hl
    rw [lineStage, hpending.2, if_neg (by simp)] at hline
    exact .inr ⟨hl, hline⟩
  · rw [show (station s).inService i = inHand i (s.printerPc i) s.data from rfl, inHand,
      holdsJob_of_not_alive hno (hprinters i)] at hi
    cases hi

/-- A stop request finds one job in the queue and the receiver asleep. -/
theorem job_log_ends_after_stop :
    ∃ s : Sys, Reach (program defaultServer) ReportsKept (freshState defaultServer) s ∧
      s.data.jobLog 1 = Stage.removed.log ∧
      ((∃ stage : Stage, stage.final = true ∧ s.data.jobLog 1 = stage.log) ∨
        (1 ∈ s.data.jobQueue.list.map Job.id ∧ s.data.jobLog 1 = Stage.waiting.log)) := by
  obtain ⟨s, hs, hreceiver, hprinters, hlog⟩ := exists_run defaultServer ReportsKept
    (runs Tid.main 20 ++ runs Tid.receiver 23 ++ runs Tid.stopper 18 ++
      [Action.accept Tid.receiver] ++ runs Tid.stopper 1 ++ runs (Tid.printer 0) 13 ++
      runs (Tid.printer 1) 13)
    (fun s => (s.ctl .receiver).status = .ended ∧ (∀ i, (s.ctl (.printer i)).status.alive = false) ∧
      s.data.jobLog 1 = Stage.removed.log) (by decide +kernel)
  exact ⟨s, hs, hlog, job_log_ends hs hreceiver hprinters (by rw [hlog]; decide)⟩

end Orchestrator
