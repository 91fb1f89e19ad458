import Orchestrator.QueueDiscipline
import Orchestrator.Stranding

/-!
# The job a printer waits for

A printer that lacks paper leaves the job it looked at in the queue, goes to wait for paper on
another mutex and keeps a pointer to the job.

* `front_step` — the job at the front leaves only by a printer's dequeue and by the stop handler's
  drain.
* `SparesExamined` — no such step takes a job that another printer is waiting for.
* `examined_job_lives` — exactly then the pointer stays good.
-/

namespace Orchestrator

open Pthread Queueing

variable {setup : Setup} {s s' : Sys} {a : SysAction} {ok : Sys → SysAction → Prop}

/-! ## Who takes the front job -/

/-- The thread is about to remove the job at the front of the queue. -/
def TakesFront (s : Sys) : Tid → Prop
  | .printer i => s.printerPc i = .dequeue
  | .stopper => s.stopPc = .drain
  | _ => False

instance (s : Sys) (t : Tid) : Decidable (TakesFront s t) :=
  match t with
  | .printer i => inferInstanceAs (Decidable (s.printerPc i = .dequeue))
  | .stopper => inferInstanceAs (Decidable (s.stopPc = .drain))
  | .main | .receiver | .refiller | .autoscaler => isFalse id

/-- One that takes the front job holds the mutex of the queue. -/
lemma holds_of_takesFront {t : Tid} (h : Reach (program setup) ok (freshState setup) s)
    (ht : TakesFront s t) (hrun : (s.ctl t).status = .running) :
    (lockDiscipline setup).Holds s t .jobQueueMutex := by
  cases t with
  | printer i => exact printer_holds_queue h hrun ht fun _ => List.mem_singleton_self _
  | stopper =>
      have hq : s.stopPc = .drain := ht
      refine Discipline.holds_of_running hrun ?_
      show Mutex.jobQueueMutex ∈ stopHeld s.stopPc
      rw [hq]
      decide
  | _ => exact ht.elim

/-- The queue after the front job was taken, if there was one. -/
lemma front_taken {t : Tid} (ex : Executes (program setup) s s' t) (ht : TakesFront s t) :
    s'.data.jobs.queue = s.data.jobs.queue.tail := by
  cases t with
  | printer i =>
      have hq : s.printerPc i = .dequeue := ht
      have goes : (printerCode setup i (s.printerArgs i) (s.printerPc i)).Goes s.data s'.data
        (s'.printerPc i) := ex.goes
      rw [hq] at goes
      rw [goes.1]
      cases hqueue : s.data.jobQueue.list with
      | nil => simp only [Data.jobs, Printer.takeJob, timedQueueDequeueFront, hqueue, List.tail_nil]
      | cons job rest =>
          rw [(takeJob_jobs i hqueue).1, show s.data.jobs.queue = job :: rest from hqueue]
          rfl
  | stopper =>
      have hq : s.stopPc = .drain := ht
      have goes : (stopCode setup s.stopPc).Goes s.data s'.data s'.stopPc := ex.goes
      rw [hq] at goes
      rw [goes.1]
      cases hqueue : s.data.jobQueue.list with
      | nil =>
          rw [emptyQueueRound_jobs_nil _ hqueue, show s.data.jobs.queue = [] from hqueue]
          rfl
      | cons job rest =>
          rw [emptyQueueRound_jobs_cons _ hqueue, show s.data.jobs.queue = job :: rest from hqueue]
          rfl
  | _ => exact ht.elim

/-- **Step inversion for the front of the queue.**  No job leaves the queue, or a thread takes the
one at the front. -/
lemma front_step (hs : step (program setup) s a = some s') :
    (∀ job ∈ s.data.jobs.queue, job ∈ s'.data.jobs.queue) ∨
      ∃ t, a = .run t ∧ Executes (program setup) s s' t ∧ TakesFront s t := by
  have hsame : s'.data.jobs = s.data.jobs →
      ∀ job ∈ s.data.jobs.queue, job ∈ s'.data.jobs.queue := fun hj job hjob => by
    rw [hj]; exact hjob
  cases step_effect hs with
  | exec t ex =>
      cases t with
      | main => exact .inl (hsame (main_jobs ex.goes))
      | refiller => exact .inl (hsame (refiller_jobs ex.goes))
      | autoscaler => exact .inl (hsame (autoscaler_jobs ex.goes))
      | stopper =>
          rcases stop_jobs ex.goes with hj | ⟨hq, _⟩
          · exact .inl (hsame hj)
          · exact .inr ⟨_, rfl, ex, hq⟩
      | printer i =>
          have goes : (printerCode setup i (s.printerArgs i) (s.printerPc i)).Goes s.data s'.data
            (s'.printerPc i) := ex.goes
          rcases printer_jobs goes with ⟨hj, _⟩ | ⟨hq, _, _⟩ | ⟨_, hd, _⟩
          · exact .inl (hsame hj)
          · exact .inr ⟨_, rfl, ex, hq⟩
          · left
            rw [hd, departSystem_jobs]
            exact fun job hjob => hjob
      | receiver =>
          left
          have goes : (receiverCode setup s.receiverPc).Goes s.data s'.data s'.receiverPc := ex.goes
          rcases receiver_jobs goes with ⟨hj, _⟩ | ⟨_, hd, _⟩ | ⟨_, hd, _⟩ | ⟨_, hd, _⟩
          · exact hsame hj
          · rw [hd, reportArrival_jobs]
            exact fun job hjob => hjob
          · rw [hd, emit_droppedJob_jobs]
            exact fun job hjob => hjob
          · rw [hd, enqueueJob_jobs]
            exact fun job hjob => List.mem_append_left _ hjob
  | env e eq =>
      subst eq
      left
      cases e <;> exact fun job hjob => hjob
  | exit _ _ _ eq => subst eq; exact .inl (hsame rfl)
  | resume _ _ _ _ eq => subst eq; exact .inl (hsame rfl)
  | die _ _ _ _ eq => subst eq; exact .inl (hsame rfl)
  | acceptRunning _ _ _ _ eq => subst eq; exact .inl (hsame rfl)
  | acceptWaiting _ _ _ _ eq => subst eq; exact .inl (hsame rfl)
  | spurious _ _ _ _ eq => subst eq; exact .inl (hsame rfl)

/-! ## Waiting for paper -/

/-- From the release of the job queue to the end of the refill wait. -/
def PrinterPc.inRefillWait : PrinterPc → Bool
  | .lockRefill | .emitPaperEmpty | .appendRequest | .notifyRefiller | .checkRefilled | .waitPaper
  | .lockStateInWait | .readTerminateInWait => true
  | _ => false

/-- Printer `i` waits for the paper of the job it looked at. -/
def Examines (s : Sys) (i : Slot) : Prop :=
  (s.ctl (.printer i)).status.alive = true ∧ (s.printerPc i).inRefillWait = true

instance (s : Sys) (i : Slot) : Decidable (Examines s i) :=
  inferInstanceAs (Decidable (_ ∧ _))

/-- The job that printer `i` looked at is in the queue. -/
def ExaminedLives (s : Sys) (i : Slot) : Prop :=
  (s.data.printer i).jobToDequeue ∈ s.data.jobs.queue

instance (s : Sys) (i : Slot) : Decidable (ExaminedLives s i) :=
  inferInstanceAs (Decidable (_ ∈ _))

/-- The step does not take a job that another printer waits for. -/
def SparesExamined (s : Sys) : SysAction → Prop
  | .run t => TakesFront s t → ∀ i, t ≠ .printer i → Examines s i →
      s.data.jobs.queue.head? ≠ some (s.data.printer i).jobToDequeue
  | _ => True

instance (s : Sys) (a : SysAction) : Decidable (SparesExamined s a) :=
  match a with
  | .run t => inferInstanceAs (Decidable (TakesFront s t → ∀ i, t ≠ .printer i → Examines s i →
      s.data.jobs.queue.head? ≠ some (s.data.printer i).jobToDequeue))
  | .accept _ | .spurious _ | .env _ => isTrue trivial

/-- The printer has looked at a job it lacks the paper for, and has not come out of the wait. -/
def PrinterPc.keepsExamined (q : PrinterPc) : Prop :=
  q = .noPaperUnlockQueue ∨ q.inRefillWait = true

/-- A printer comes to the refill wait from its look at the front job, and keeps the pointer. -/
lemma examined_of_goes {i : Slot} {args : PrinterThreadArgs} {d d' : Data} {q q' : PrinterPc}
    (h : (printerCode setup i args q).Goes d d' q') (hq' : q'.keepsExamined) :
    (d'.jobs.queue = d.jobs.queue ∧ q = .checkPaper ∧ q' = .noPaperUnlockQueue ∧
      (d'.printer i).jobToDequeue = (timedQueueFirst d.jobQueue).getD default) ∨
    (d'.jobs.queue = d.jobs.queue ∧ q.keepsExamined ∧
      (d'.printer i).jobToDequeue = (d.printer i).jobToDequeue) := by
  cases q with
  | exit => exact h.elim
  | checkPaper =>
      left
      obtain ⟨rfl, hq⟩ := h
      have hlook : ((Printer.lookAtFront i d).printer i).jobToDequeue =
          (timedQueueFirst d.jobQueue).getD default := by simp [Printer.lookAtFront]
      simp only at hq
      split at hq
      · exact ⟨rfl, rfl, hq, hlook⟩
      · rw [hq] at hq'
        rcases hq' with hq' | hq' <;> cases hq'
  | emitPaperEmpty =>
      right
      obtain ⟨rfl, rfl⟩ := h
      exact ⟨by simp [Data.jobs, Data.modifyLocals], .inr rfl, by simp⟩
  | noPaperUnlockQueue => right; obtain ⟨rfl, rfl⟩ := h; exact ⟨rfl, .inl rfl, rfl⟩
  | lockRefill | appendRequest | notifyRefiller | checkRefilled | waitPaper | lockStateInWait =>
      right
      obtain ⟨rfl, _⟩ := h
      exact ⟨rfl, .inr rfl, rfl⟩
  | readTerminateInWait =>
      right
      obtain ⟨rfl, _⟩ := h
      exact ⟨rfl, .inr rfl, by simp⟩
  | checkQueue | checkDone =>
      obtain ⟨_, rfl⟩ := h
      simp only [PrinterPc.keepsExamined] at hq'
      repeat' split at hq'
      all_goals rcases hq' with hq' | hq' <;> cases hq'
  | _ =>
      rw [h.2] at hq'
      rcases hq' with hq' | hq' <;> cases hq'

/-- Behind its look at the queue, a printer's job is in the queue until it comes out of the wait. -/
def ExaminedKept (s : Sys) (i : Slot) : Prop :=
  (s.ctl (.printer i)).status.alive = true → (s.printerPc i).keepsExamined → ExaminedLives s i

/-- Another thread that takes the front job spares the one the printer looked at: the printer still
holds the mutex of the queue, or the step is one that spares it. -/
lemma spares_examined {i : Slot} {t : Tid} (h : Reach (program setup) ok (freshState setup) s)
    (hok : SparesExamined s (.run t)) (ex : Executes (program setup) s s' t)
    (ht : TakesFront s t) (hne : t ≠ .printer i)
    (ha : (s.ctl (.printer i)).status.alive = true) (hq : (s.printerPc i).keepsExamined) :
    s.data.jobs.queue.head? ≠ some (s.data.printer i).jobToDequeue := by
  rcases hq with hq | hq
  · have hrun := printer_running h ha (by rw [hq]; simp) (by rw [hq]; simp)
    have hholds := printer_holds_queue h hrun hq fun _ => List.mem_singleton_self _
    exact absurd ((lockInv h).exclusive (holds_of_takesFront h ht ex.running) hholds) hne
  · exact hok ht i hne ⟨ha, hq⟩

lemma ExaminedKept.step {i : Slot} (ih : ExaminedKept s i)
    (h : Reach (program setup) ok (freshState setup) s) (hok : SparesExamined s a)
    (hs : step (program setup) s a = some s') : ExaminedKept s' i := by
  intro ha' hq'
  -- what the printer looked at before the step is in the queue after it
  have hkeep : ¬Executes (program setup) s s' (.printer i) ∨
        s'.data.jobs.queue = s.data.jobs.queue →
      (s.ctl (.printer i)).status.alive = true → (s.printerPc i).keepsExamined →
      (s'.data.printer i).jobToDequeue = (s.data.printer i).jobToDequeue → ExaminedLives s' i := by
    intro hex ha hq hjob
    have hmem : (s.data.printer i).jobToDequeue ∈ s.data.jobs.queue := ih ha hq
    rw [ExaminedLives, hjob]
    rcases hex with hex | hsame
    · rcases front_step hs with hall | ⟨t, rfl, ex, ht⟩
      · exact hall _ hmem
      · have hne : t ≠ .printer i := fun heq => hex (heq ▸ ex)
        have hfront := spares_examined h hok ex ht hne ha hq
        rw [front_taken ex ht]
        cases hqueue : s.data.jobs.queue with
        | nil => rw [hqueue] at hmem; cases hmem
        | cons job rest =>
            rw [hqueue] at hmem hfront
            refine (List.mem_cons.mp hmem).resolve_left fun heq => hfront ?_
            rw [heq]
            rfl
    · rw [hsame]; exact hmem
  rcases printer_cases hs i with ⟨hex, hpc, _, hl⟩ | ⟨t, _, hc⟩ | ⟨ex, _, goes⟩
  · have ha : (s.ctl (.printer i)).status.alive = true := by
      rcases alive_step hs ha' with ha | ⟨t, _, hc⟩
      · exact ha
      · rw [created_printer hc] at hq'
        rcases hq' with hq' | hq' <;> cases hq'
    exact hkeep (.inl hex) ha (hpc ▸ hq') (by rw [hl])
  · rw [created_printer hc] at hq'
    rcases hq' with hq' | hq' <;> cases hq'
  · have ha : (s.ctl (.printer i)).status.alive = true := by rw [ex.running]; rfl
    rcases examined_of_goes goes hq' with ⟨hqueue, hpc, _, hlook⟩ | ⟨hqueue, hq, hjob⟩
    · obtain ⟨job, rest, hcons⟩ := List.exists_cons_of_ne_nil ((frontKept h i).checkPaper ha hpc)
      have hlist : s.data.jobQueue.list = job :: rest := hcons
      rw [ExaminedLives, hqueue, hlook, hcons, timedQueueFirst, hlist]
      exact List.mem_cons_self
    · exact hkeep (.inr hqueue) ha hq hjob

/-- **The job a printer waits for stays in the queue**, in every run that spares it. -/
theorem examinedKept (hspares : ∀ s a, ok s a → SparesExamined s a)
    (h : Reach (program setup) ok (freshState setup) s) (i : Slot) : ExaminedKept s i :=
  h.invariant (I := fun s => ExaminedKept s i)
    (fun _ hq => by rcases hq with hq | hq <;> cases hq)
    fun hr ih hok hs => ih.step hr (hspares _ _ hok) hs

/-- A thread that is about to take the front job is not at the end of a condition wait. -/
lemma executes_of_takesFront {t : Tid} (h : Reach (program setup) ok (freshState setup) s)
    (hs : step (program setup) s (.run t) = some s') (ht : TakesFront s t) :
    Executes (program setup) s s' t := by
  have hno : ∀ m, (s.ctl t).status.mutex ≠ some m := fun m hm => by
    obtain ⟨c, q, hq⟩ := waitPlace_fresh h t m hm
    cases t with
    | printer i =>
        have hpc : (s.ctl (.printer i)).pc = PrinterPc.dequeue := ht
        rw [hpc] at hq
        change printerCode setup i _ q = _ at hq
        cases q <;> cases hq
    | stopper => exact absurd hq (stopCode_ne_wait setup q c m _)
    | _ => exact ht.elim
  refine executes_of_run hs hno fun hexit => ?_
  cases t with
  | printer i =>
      have hpc : s.printerPc i = .dequeue := ht
      change printerCode setup i (s.printerArgs i) (s.printerPc i) = .exit at hexit
      rw [hpc] at hexit
      cases hexit
  | stopper =>
      have hpc : s.stopPc = .drain := ht
      change stopCode setup s.stopPc = .exit at hexit
      rw [hpc] at hexit
      cases hexit
  | _ => exact ht.elim

/-- A thread that takes the front job leaves the other printers as they are. -/
lemma examines_of_takesFront {t : Tid} {i : Slot} (ex : Executes (program setup) s s' t)
    (ht : TakesFront s t) (hne : t ≠ .printer i) (hi : Examines s i) :
    Examines s' i ∧ s'.data.printer i = s.data.printer i := by
  constructor
  · rw [Examines, Sys.printerPc]
    cases ex.others (.printer i) hne.symm with
    | same _ ctl => rw [ctl]; exact hi
    | woken c _ ctl => rw [ctl, wake_alive, wake_pc]; exact hi
    | asked _ ctl => rw [ctl]; exact hi
    | created hc => have hdead := hc.notAlive; rw [hi.1] at hdead; cases hdead
  · cases t with
    | printer j =>
        have goes : (printerCode setup j (s.printerArgs j) (s.printerPc j)).Goes s.data s'.data
          (s'.printerPc j) := ex.goes
        exact (printer_locals goes).2.2.1 i fun heq => hne (by rw [heq])
    | stopper =>
        have goes : (stopCode setup s.stopPc).Goes s.data s'.data s'.stopPc := ex.goes
        rw [(stop_locals goes).2.2.1]
    | _ => exact ht.elim

/-- A step that does not spare the job leaves a printer with a pointer to a job that is not in the
queue: the ids in the queue are all different. -/
lemma examined_dies (h : Reach (program setup) ok (freshState setup) s)
    (hs : step (program setup) s a = some s') (hok : ¬SparesExamined s a) :
    ∃ i, Examines s' i ∧ ¬ExaminedLives s' i := by
  obtain ⟨t, rfl, ht, i, hne, hi, hfront⟩ : ∃ t, a = .run t ∧ TakesFront s t ∧ ∃ i,
      t ≠ .printer i ∧ Examines s i ∧
        s.data.jobs.queue.head? = some (s.data.printer i).jobToDequeue := by
    cases a with
    | run t =>
        simp only [SparesExamined, not_forall, not_not] at hok
        obtain ⟨ht, i, hne, hi, hfront⟩ := hok
        exact ⟨t, rfl, ht, i, hne, hi, hfront⟩
    | accept t | spurious t | env e => exact absurd trivial hok
  have ex := executes_of_takesFront h hs ht
  obtain ⟨hi', hl⟩ := examines_of_takesFront ex ht hne hi
  refine ⟨i, hi', fun hmem => ?_⟩
  obtain ⟨rest, hqueue⟩ := List.head?_eq_some_iff.mp hfront
  have hsorted : (s.data.jobs.queue.map Job.id).Pairwise (· < ·) := (station_ordered h).parts.2.1
  rw [hqueue, List.map_cons, List.pairwise_cons] at hsorted
  rw [ExaminedLives, hl, front_taken ex ht, hqueue, List.tail_cons] at hmem
  exact lt_irrefl _ (hsorted.1 _ (List.mem_map_of_mem hmem))

/-- **A printer waits for paper on behalf of a live job exactly while it is spared.**  In a run in
which no step takes a job that another printer waits for, a waiting printer's job is in the queue;
a step that does take one leaves the printer waiting for a job that is gone. -/
theorem examined_job_lives (setup : Setup) :
    (∀ s : Sys, Reach (program setup) SparesExamined (freshState setup) s →
      ∀ i, Examines s i → ExaminedLives s i) ∧
    (∀ (s s' : Sys) (a : SysAction), Reach (program setup) anyChoice (freshState setup) s →
      step (program setup) s a = some s' → ¬SparesExamined s a →
        ∃ i, Examines s' i ∧ ¬ExaminedLives s' i) :=
  ⟨fun _ h i hi => examinedKept (fun _ _ hok => hok) h i hi.1 (.inr hi.2),
    fun _ _ _ h hs hok => examined_dies h hs hok⟩

/-- The first printer waits for the second job's paper, and the other threads keep away. -/
theorem examined_job_lives_during_refill :
    ∃ s : Sys, Reach (program twoJobs) SparesExamined (freshState twoJobs) s ∧
      (s.ctl (.printer 0)).status = .waiting .refillNeededCv .paperRefillQueueMutex ∧
      (s.data.printer 0).jobToDequeue ∈ s.data.jobQueue.list := by
  obtain ⟨s, hs, hw, hi⟩ := exists_run twoJobs SparesExamined
    (firstJobPrinted ++ runs (Tid.printer 0) 6 ++ runs Tid.refiller 11)
    (fun s => (s.ctl (.printer 0)).status = .waiting .refillNeededCv .paperRefillQueueMutex ∧
      Examines s 0) (by decide +kernel)
  exact ⟨s, hs, hw, (examined_job_lives twoJobs).1 s hs 0 hi⟩

/-- **A printer waits for a job that is gone**: the other printer, which has paper, takes it; or the
stop handler removes it. -/
theorem examined_job_gone :
    (∃ s : Sys, Reach (program twoJobs) anyChoice (freshState twoJobs) s ∧
      (s.ctl (.printer 0)).status = .waiting .refillNeededCv .paperRefillQueueMutex ∧
      Examines s 0 ∧ ¬ExaminedLives s 0 ∧ s.data.gTerminateNow = false) ∧
    ∃ s : Sys, Reach (program twoJobs) anyChoice (freshState twoJobs) s ∧
      (s.ctl (.printer 0)).status = .waiting .refillNeededCv .paperRefillQueueMutex ∧
      Examines s 0 ∧ ¬ExaminedLives s 0 ∧ s.data.stats.totalJobsRemoved = 1 :=
  ⟨exists_run twoJobs anyChoice
      (firstJobPrinted ++ runs (Tid.printer 0) 6 ++ runs (Tid.printer 1) 6)
      (fun s => (s.ctl (.printer 0)).status = .waiting .refillNeededCv .paperRefillQueueMutex ∧
        Examines s 0 ∧ ¬ExaminedLives s 0 ∧ s.data.gTerminateNow = false) (by decide +kernel),
    exists_run twoJobs anyChoice
      (firstJobPrinted ++ runs (Tid.printer 0) 6 ++ runs Tid.stopper 11)
      (fun s => (s.ctl (.printer 0)).status = .waiting .refillNeededCv .paperRefillQueueMutex ∧
        Examines s 0 ∧ ¬ExaminedLives s 0 ∧ s.data.stats.totalJobsRemoved = 1)
      (by decide +kernel)⟩

end Orchestrator
