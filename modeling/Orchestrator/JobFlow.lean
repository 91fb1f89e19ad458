import Orchestrator.Jobs

/-!
# The flow of jobs

The orchestrator, seen as a service station: the receiver's counted job is the arrival that is not
placed yet, the job queue is the line, and the printers are the servers.

* `station_step` — every step of the threads is a move of the station or leaves it alone, except
  that a printer thread started in the slot of a cancelled one has lost the job that one held.
* `Numbered` — the receiver numbers the jobs in increasing order.
* `FrontKept` — between looking at the front job and taking it, a printer keeps it at the front.
-/

namespace Orchestrator

open Pthread Queueing

/-- Where the jobs of a state are, by their ids. -/
def station (s : Sys) : Station Slot ℕ where
  pending := pendingJob s.receiverPc s.data
  line := s.data.jobs.queue.map Job.id
  inService i := inHand i (s.printerPc i) s.data
  arrived := s.data.jobs.arrived
  taken := s.data.jobs.dequeued.map Job.id
  served := s.data.jobs.served
  dropped := s.data.jobs.dropped
  removed := s.data.jobs.removed

variable {setup : Setup} {s s' : Sys} {a : SysAction} {ok : Sys → SysAction → Prop}

/-! ## The ids of the jobs -/

/-- The receiver has the job with the next id. -/
def ReceiverPc.hasJob : ReceiverPc → Bool
  | .enableCancel | .sleep | .disableCancel | .lockState | .readTerminate | .stampArrival
  | .lockStatsArrival | .emitArrival => true
  | q => q.holdsJob

/-- The receiver has counted the job with the next id, and its loop counter is one behind. -/
def ReceiverPc.numbered : ReceiverPc → Bool
  | .unlockStatsDrop | .lockStatsQueue | .emitQueueArrival | .unlockStatsQueue | .notifyPrinters
  | .unlockQueue => true
  | q => q.holdsJob

/-- The largest id counted so far. -/
def lastId (q : ReceiverPc) (d : Data) : ℕ :=
  if q.numbered then d.receiver.jobId + 1 else d.receiver.jobId

/-- The receiver's job has the next id, and no larger id was counted. -/
structure Numbered (s : Sys) : Prop where
  job : s.receiverPc.hasJob = true → s.data.receiver.job.id = s.data.receiver.jobId + 1
  arrived : ∀ k ∈ s.data.jobs.arrived, k ≤ lastId s.receiverPc s.data

lemma numbered_fresh (setup : Setup) : Numbered (freshState setup) where
  job h := by cases h
  arrived k hk := by simp [freshState, freshData, Data.jobs] at hk

/-- What the receiver does to its own numbering. -/
lemma receiver_numbering {d d' : Data} {q q' : ReceiverPc}
    (h : (receiverCode setup q).Goes d d' q')
    (hjob : q.hasJob = true → d.receiver.job.id = d.receiver.jobId + 1) :
    (q'.hasJob = true → d'.receiver.job.id = d'.receiver.jobId + 1) ∧
      lastId q d ≤ lastId q' d' ∧
        (q = .emitArrival → d.receiver.job.id ≤ lastId q' d' ∧ lastId q d < d.receiver.job.id) := by
  cases q with
  | exit => exact h.elim
  | nextJob =>
      obtain ⟨rfl, rfl⟩ := h
      rw [Receiver.createJob]
      split
      · simp [*, Data.modifyReceiver, lastId, ReceiverPc.numbered, ReceiverPc.holdsJob, initJob]
      · simp [*, lastId, ReceiverPc.numbered, ReceiverPc.holdsJob, ReceiverPc.hasJob]
  | readTerminate | checkCapacity =>
      obtain ⟨rfl, rfl⟩ := h
      simp only
      have := hjob rfl
      split <;> simp_all [Data.modifyReceiver, lastId, ReceiverPc.numbered, ReceiverPc.holdsJob,
        ReceiverPc.hasJob, Receiver.readQueueLength]
  | emitArrival =>
      obtain ⟨rfl, rfl⟩ := h
      have := hjob rfl
      simp [lastId, ReceiverPc.numbered, ReceiverPc.holdsJob, Receiver.reportArrival, this]
  | _ =>
      obtain ⟨rfl, rfl⟩ := h
      simp_all [Data.modifyReceiver, lastId, ReceiverPc.numbered, ReceiverPc.holdsJob,
        ReceiverPc.hasJob, Receiver.readStart, Receiver.stampArrival, Receiver.stampQueueArrival,
        Receiver.enqueueJob,
        Receiver.finishDropped, Receiver.keepArrivalTime, Receiver.reportQueueArrival,
        Data.modifyStats]

/-! ## Where a job is depends on one thread's place and locals -/

lemma pendingJob_congr (hpl : (s.ctl .receiver).SamePlace (s'.ctl .receiver))
    (hl : s'.data.receiver = s.data.receiver) :
    pendingJob s'.receiverPc s'.data = pendingJob s.receiverPc s.data := by
  rw [pendingJob, pendingJob, Sys.receiverPc, Sys.receiverPc, hpl.1, hl]

lemma inHand_congr {i : Slot} (hpl : (s.ctl (.printer i)).SamePlace (s'.ctl (.printer i)))
    (hl : s'.data.printer i = s.data.printer i) :
    inHand i (s'.printerPc i) s'.data = inHand i (s.printerPc i) s.data := by
  rw [inHand, inHand, Sys.printerPc, Sys.printerPc, hpl.1, hl]

lemma inHand_created {t : Tid} {i : Slot} (hc : Created (program setup) s s' t (.printer i)) :
    inHand i (s'.printerPc i) s'.data = none := by
  rw [inHand, created_printer hc]
  rfl

lemma station_eq (hjobs : s'.data.jobs = s.data.jobs)
    (hpending : pendingJob s'.receiverPc s'.data = pendingJob s.receiverPc s.data)
    (hhand : ∀ i, inHand i (s'.printerPc i) s'.data = inHand i (s.printerPc i) s.data) :
    station s' = station s := by
  simp only [station, hjobs, hpending, hhand]

/-- A step of a thread that keeps its hands off the jobs. -/
lemma station_of_jobs_eq {t : Tid} (h : Reach (program setup) ok (freshState setup) s)
    (ex : Executes (program setup) s s' t) (hr : t ≠ .receiver) (hp : ∀ i, t ≠ .printer i)
    (hjobs : s'.data.jobs = s.data.jobs) (hrec : s'.data.receiver = s.data.receiver)
    (hprn : s'.data.printer = s.data.printer) :
    station s' = station s ∨
      ∃ i, Created (program setup) s s' t (.printer i) ∧ station s' = (station s).lose i := by
  have hpending := pendingJob_congr (stays h ex hr.symm fun i => by simp) hrec
  have hhand : ∀ i, inHand i (s'.printerPc i) s'.data = inHand i (s.printerPc i) s.data ∨
      Created (program setup) s s' t (.printer i) := fun i =>
    (ex.other_place (hp i).symm).imp_left fun hpl => inHand_congr hpl (by rw [hprn])
  rcases created_one hhand fun _ => inHand_created with hfun | ⟨i, hc, hfun⟩
  · exact .inl (station_eq hjobs hpending (congrFun hfun))
  · refine .inr ⟨i, hc, ?_⟩
    simp only [station, Station.lose, hjobs, hpending, hfun]

/-- A step of a thread that creates nobody and keeps its hands off the jobs. -/
lemma station_of_quiet {t : Tid} (hplaces : OthersStay s s' t) (hr : t ≠ .receiver)
    (hp : ∀ i, t ≠ .printer i) (hjobs : s'.data.jobs = s.data.jobs)
    (hrec : s'.data.receiver = s.data.receiver) (hprn : s'.data.printer = s.data.printer) :
    station s' = station s :=
  station_eq hjobs (pendingJob_congr (hplaces _ hr.symm) hrec) fun i =>
    inHand_congr (hplaces _ (hp i).symm) (by rw [hprn])

/-! ## Numbering -/

lemma numbered_congr (h : Numbered s) (hpl : (s.ctl .receiver).SamePlace (s'.ctl .receiver))
    (hl : s'.data.receiver = s.data.receiver) (hjobs : s'.data.jobs.arrived = s.data.jobs.arrived) :
    Numbered s' := by
  constructor
  · rw [Sys.receiverPc, hpl.1, hl]; exact h.job
  · rw [Sys.receiverPc, lastId, hpl.1, hl, hjobs]; exact h.arrived

/-- A drain leaves the arrivals alone. -/
lemma emptyQueueRound_arrived (mode : LogMode) (d : Data) :
    (emptyQueueRound mode d).jobs.arrived = d.jobs.arrived := by
  cases hq : d.jobQueue.list with
  | nil => rw [emptyQueueRound_jobs_nil mode hq]
  | cons job rest => rw [emptyQueueRound_jobs_cons mode hq]

/-- Taking a job leaves the arrivals alone. -/
lemma takeJob_arrived (i : Slot) (d : Data) :
    (Printer.takeJob i d).jobs.arrived = d.jobs.arrived := rfl

lemma Numbered.step (ih : Numbered s) (h : Reach (program setup) ok (freshState setup) s)
    (hs : step (program setup) s a = some s') : Numbered s' := by
  have hstay : ∀ {t : Tid}, Executes (program setup) s s' t → t ≠ .receiver →
      (s.ctl .receiver).SamePlace (s'.ctl .receiver) := fun ex ht => stays h ex ht.symm (by simp)
  cases sys_move hs with
  | quiet data places =>
      obtain ⟨c, r, k, data⟩ := data
      exact numbered_congr ih (places _) (by rw [data]) (by rw [data]; rfl)
  | main ex goes =>
      exact numbered_congr ih (hstay ex (by simp)) (main_locals goes).1 (by rw [main_jobs goes])
  | stopper ex goes _ =>
      refine numbered_congr ih (hstay ex (by simp)) (stop_locals goes).1 ?_
      rcases stop_jobs goes with hj | ⟨_, hd⟩
      · rw [hj]
      · rw [hd, emptyQueueRound_arrived]
  | refiller ex goes _ =>
      exact numbered_congr ih (hstay ex (by simp)) (refiller_locals goes).1
        (by rw [refiller_jobs goes])
  | autoscaler ex goes =>
      exact numbered_congr ih (hstay ex (by simp)) (autoscaler_locals goes).1
        (by rw [autoscaler_jobs goes])
  | printer i ex goes _ =>
      refine numbered_congr ih (hstay ex (by simp)) (printer_locals goes).1 ?_
      rcases printer_jobs goes with ⟨hj, _⟩ | ⟨_, hd, _⟩ | ⟨_, hd, _⟩
      · rw [hj]
      · rw [hd, takeJob_arrived]
      · rw [hd, departSystem_jobs]
  | receiver ex goes _ =>
      obtain ⟨hjob, hlast, hnew⟩ := receiver_numbering goes ih.job
      refine ⟨hjob, fun k hk => ?_⟩
      rcases receiver_jobs goes with ⟨hj, _⟩ | ⟨hq, hd, _⟩ | ⟨_, hd, _⟩ | ⟨_, hd, _⟩
      · rw [hj] at hk
        exact (ih.arrived k hk).trans hlast
      · rw [hd, reportArrival_jobs] at hk
        rcases List.mem_cons.mp hk with rfl | hk
        · exact (hnew hq).1
        · exact (ih.arrived k hk).trans hlast
      · rw [hd, emit_droppedJob_jobs] at hk
        exact (ih.arrived k hk).trans hlast
      · rw [hd, enqueueJob_jobs] at hk
        exact (ih.arrived k hk).trans hlast

/-- **The receiver numbers the jobs in increasing order.** -/
theorem numbered (h : Reach (program setup) ok (freshState setup) s) : Numbered s :=
  h.invariant (numbered_fresh setup) fun hr ih _ hs => ih.step hr hs

/-! ## The front of the queue -/

/-- What a step does to the job queue. -/
inductive QueueStep (setup : Setup) (s s' : Sys) : Prop where
  | same (queue : s'.data.jobs.queue = s.data.jobs.queue)
  | join (ex : Executes (program setup) s s' .receiver) (pc : s.receiverPc = .enqueue)
      (queue : s'.data.jobs.queue = s.data.jobs.queue ++ [s.data.receiver.job])
  | leave (t : Tid) (ex : Executes (program setup) s s' t) (other : t ≠ .receiver)
      (holds : (lockDiscipline setup).Holds s t .jobQueueMutex) (job : Job)
      (queue : s.data.jobs.queue = job :: s'.data.jobs.queue)

/-- **Step inversion for the job queue.** -/
theorem queue_step (h : Reach (program setup) ok (freshState setup) s)
    (hs : step (program setup) s a = some s') : QueueStep setup s s' := by
  cases sys_move hs with
  | quiet data _ => obtain ⟨c, r, k, data⟩ := data; exact .same (by rw [data]; rfl)
  | main ex goes => exact .same (by rw [main_jobs goes])
  | refiller ex goes _ => exact .same (by rw [refiller_jobs goes])
  | autoscaler ex goes => exact .same (by rw [autoscaler_jobs goes])
  | stopper ex goes _ =>
      rcases stop_jobs goes with hj | ⟨hq, hd⟩
      · exact .same (by rw [hj])
      · cases hqueue : s.data.jobQueue.list with
        | nil => exact .same (by rw [hd, emptyQueueRound_jobs_nil _ hqueue])
        | cons job rest =>
            refine .leave _ ex (by simp) (Discipline.holds_of_running ex.running ?_) job ?_
            · show Mutex.jobQueueMutex ∈ stopHeld s.stopPc
              rw [hq]; decide
            · rw [hd, emptyQueueRound_jobs_cons _ hqueue]
              exact hqueue
  | receiver ex goes _ =>
      rcases receiver_jobs goes with ⟨hj, _⟩ | ⟨_, hd, _⟩ | ⟨_, hd, _⟩ | ⟨hq, hd, _⟩
      · exact .same (by rw [hj])
      · exact .same (by rw [hd, reportArrival_jobs])
      · exact .same (by rw [hd, emit_droppedJob_jobs])
      · exact .join ex hq (by rw [hd, enqueueJob_jobs])
  | printer i ex goes _ =>
      rcases printer_jobs goes with ⟨hj, _⟩ | ⟨hq, hd, _⟩ | ⟨_, hd, _⟩
      · exact .same (by rw [hj])
      · cases hqueue : s.data.jobQueue.list with
        | nil =>
            refine .same ?_
            rw [hd]
            simp only [Data.jobs, Printer.takeJob, timedQueueDequeueFront, hqueue]
        | cons job rest =>
            have hholds :=
              printer_holds_queue h ex.running hq fun _ => List.mem_singleton_self _
            refine .leave _ ex (by simp) hholds job ?_
            rw [hd, (takeJob_jobs i hqueue).1]
            exact hqueue
      · exact .same (by rw [hd, departSystem_jobs])

/-- While a thread holds the mutex of the job queue, nobody else changes the queue. -/
lemma queue_kept {t : Tid} (h : Reach (program setup) ok (freshState setup) s)
    (hs : step (program setup) s a = some s')
    (ht : (lockDiscipline setup).Holds s t .jobQueueMutex)
    (hex : ¬Executes (program setup) s s' t) : s'.data.jobs.queue = s.data.jobs.queue := by
  cases queue_step h hs with
  | same queue => exact queue
  | join ex pc _ =>
      have hrec : (lockDiscipline setup).Holds s .receiver .jobQueueMutex := by
        refine Discipline.holds_of_running ex.running ?_
        show Mutex.jobQueueMutex ∈ receiverHeld s.receiverPc
        rw [pc]; decide
      exact absurd ((lockInv h).exclusive hrec ht ▸ ex) hex
  | leave u ex _ holds _ _ => exact absurd ((lockInv h).exclusive holds ht ▸ ex) hex

/-- Only the receiver adds to the queue. -/
lemma queue_grows (h : Reach (program setup) ok (freshState setup) s)
    (hs : step (program setup) s a = some s') {job : Job} (hjob : job ∈ s'.data.jobs.queue) :
    job ∈ s.data.jobs.queue ∨
      (Executes (program setup) s s' .receiver ∧ s.receiverPc = .enqueue ∧
        job = s.data.receiver.job) := by
  cases queue_step h hs with
  | same queue => rw [queue] at hjob; exact .inl hjob
  | join ex pc queue =>
      rw [queue] at hjob
      rcases List.mem_append.mp hjob with hjob | hjob
      · exact .inl hjob
      · exact .inr ⟨ex, pc, List.mem_singleton.mp hjob⟩
  | leave t _ _ _ first queue => rw [queue]; exact .inl (List.mem_cons_of_mem _ hjob)

/-- Between finding the queue non-empty and taking its front job, a printer keeps the job it looked
at there. -/
structure FrontKept (s : Sys) (i : Slot) : Prop where
  checkPaper : (s.ctl (.printer i)).status.alive = true → s.printerPc i = .checkPaper →
    s.data.jobs.queue ≠ []
  dequeue : (s.ctl (.printer i)).status.alive = true → s.printerPc i = .dequeue →
    s.data.jobs.queue.head? = some (s.data.printer i).jobToDequeue

/-- What a printer's own step does to the front of the queue. -/
lemma printer_front {i : Slot} {args : PrinterThreadArgs} {d d' : Data} {q q' : PrinterPc}
    (h : (printerCode setup i args q).Goes d d' q') :
    (q' = .checkPaper → d'.jobs.queue ≠ []) ∧
      (q' = .dequeue → q = .checkPaper ∧ d'.jobs.queue = d.jobs.queue ∧
        (d'.printer i).jobToDequeue = (timedQueueFirst d.jobQueue).getD default) := by
  cases q with
  | exit => exact h.elim
  | checkQueue =>
      obtain ⟨rfl, rfl⟩ := h
      simp only
      split
      · simp
      · split
        · simp
        · next hne =>
          refine ⟨fun _ hnil => hne ?_, by simp⟩
          simp only [Data.jobs] at hnil
          simp [timedQueueIsEmpty, hnil]
  | checkPaper =>
      obtain ⟨rfl, rfl⟩ := h
      simp only
      split
      · simp
      · refine ⟨by simp, fun _ => ⟨trivial, ?_, by simp [Printer.lookAtFront]⟩⟩
        rfl
  | checkRefilled | readTerminateInWait | checkDone =>
      obtain ⟨_, rfl⟩ := h
      simp only
      split <;> simp
  | _ => obtain ⟨_, rfl⟩ := h; simp

lemma FrontKept.step {i : Slot} (ih : FrontKept s i)
    (h : Reach (program setup) ok (freshState setup) s)
    (hs : step (program setup) s a = some s') : FrontKept s' i := by
  have hholds : (s.ctl (.printer i)).status.alive = true →
      s.printerPc i = .checkPaper ∨ s.printerPc i = .dequeue →
      (lockDiscipline setup).Holds s (.printer i) .jobQueueMutex := fun ha hq => by
    have hrun := printer_running h ha (by rcases hq with hq | hq <;> rw [hq] <;> simp)
      (by rcases hq with hq | hq <;> rw [hq] <;> simp)
    rcases hq with hq | hq
    · exact printer_holds_queue h hrun hq fun _ => List.mem_singleton_self _
    · exact printer_holds_queue h hrun hq fun _ => List.mem_singleton_self _
  -- a printer that stays where it is keeps the front, since nobody else holds the mutex
  have hstay : ¬Executes (program setup) s s' (.printer i) →
      (s.ctl (.printer i)).SamePlace (s'.ctl (.printer i)) → FrontKept s' i := fun hex hpl => by
    have hl := printer_unchanged hs hex
    have hold : (s'.ctl (.printer i)).status.alive = true →
        s'.printerPc i = .checkPaper ∨ s'.printerPc i = .dequeue →
        (s.ctl (.printer i)).status.alive = true ∧ s'.data.jobs.queue = s.data.jobs.queue :=
      fun ha hq => by
      have ha' : (s.ctl (.printer i)).status.alive = true := by
        rcases alive_step hs ha with ha | ⟨t, _, hc⟩
        · exact ha
        · rw [created_printer hc] at hq
          rcases hq with hq | hq <;> cases hq
      rw [Sys.printerPc, hpl.1] at hq
      exact ⟨ha', queue_kept h hs (hholds ha' hq) hex⟩
    constructor <;> intro ha hq
    · obtain ⟨ha', hqueue⟩ := hold ha (.inl hq)
      rw [hqueue]
      exact ih.checkPaper ha' (by rw [← hq, Sys.printerPc, Sys.printerPc, hpl.1])
    · obtain ⟨ha', hqueue⟩ := hold ha (.inr hq)
      rw [hqueue, hl]
      exact ih.dequeue ha' (by rw [← hq, Sys.printerPc, Sys.printerPc, hpl.1])
  by_cases hex : Executes (program setup) s s' (.printer i)
  · have goes : (printerCode setup i (s.printerArgs i) (s.printerPc i)).Goes s.data s'.data
        (s'.printerPc i) := hex.goes
    obtain ⟨hcheck, hdeq⟩ := printer_front goes
    refine ⟨fun _ hq => hcheck hq, fun _ hq => ?_⟩
    obtain ⟨hq', hqueue, hl⟩ := hdeq hq
    have hne := ih.checkPaper (by rw [hex.running]; rfl) hq'
    obtain ⟨job, rest, hj⟩ := List.exists_cons_of_ne_nil hne
    have hj' : s.data.jobQueue.list = job :: rest := hj
    rw [hqueue, hl, hj, timedQueueFirst, hj']
    rfl
  · rcases place_step hs hex with hpl | ⟨t, _, hc⟩
    · exact hstay hex hpl
    · constructor <;> intro _ hq <;> rw [created_printer hc] at hq <;> cases hq

/-- **The job a printer takes is the one it looked at.** -/
theorem frontKept (h : Reach (program setup) ok (freshState setup) s) (i : Slot) :
    FrontKept s i :=
  h.invariant (I := fun s => FrontKept s i) ⟨fun _ hq => (by cases hq), fun _ hq => (by cases hq)⟩
    fun hr ih _ hs => ih.step hr hs

/-! ## The refinement -/

/-- What the receiver's step is to the station. -/
lemma receiver_station (h : Reach (program setup) ok (freshState setup) s)
    (goes : (receiverCode setup s.receiverPc).Goes s.data s'.data s'.receiverPc)
    (others : OthersStay s s' .receiver) :
    station s' = station s ∨ Station.Step (station s) (station s') := by
  have hprn := (receiver_locals goes).2.1
  have hhand : ∀ i, inHand i (s'.printerPc i) s'.data = inHand i (s.printerPc i) s.data :=
    fun i => inHand_congr (others _ (by simp)) (by rw [hprn])
  have hnum := numbered h
  obtain ⟨_, _, hnew⟩ := receiver_numbering goes hnum.job
  rcases receiver_jobs goes with ⟨hj, hp⟩ | ⟨hq, hd, hq'⟩ | ⟨hq, hd, hq'⟩ | ⟨hq, hd, hq'⟩
  · exact .inl (station_eq hj hp hhand)
  · right
    have hpend : (station s).pending = none := pendingJob_eq_none (by rw [hq]; rfl)
    have hpend' : pendingJob s'.receiverPc s'.data = some s.data.receiver.job.id := by
      rw [pendingJob_of_holds (by rw [hq']; rfl), hd]
      simp [Receiver.reportArrival]
    have hstep := Station.Step.arrive (s := station s) s.data.receiver.job.id hpend fun k hk =>
      (hnum.arrived k hk).trans_lt (hnew hq).2
    convert hstep using 1
    have hj := congrArg Data.jobs hd
    simp only [station, hpend', hhand, hj, reportArrival_jobs]
  · right
    have hpend : (station s).pending = some s.data.receiver.job.id :=
      pendingJob_of_holds (by rw [hq]; rfl)
    have hpend' : pendingJob s'.receiverPc s'.data = none :=
      pendingJob_eq_none (by rw [hq']; rfl)
    convert Station.Step.drop (s := station s) _ hpend using 1
    have hj := congrArg Data.jobs hd
    simp only [station, hpend', hhand, hj, emit_droppedJob_jobs]
  · right
    have hpend : (station s).pending = some s.data.receiver.job.id :=
      pendingJob_of_holds (by rw [hq]; rfl)
    have hpend' : pendingJob s'.receiverPc s'.data = none :=
      pendingJob_eq_none (by rw [hq']; rfl)
    convert Station.Step.join (s := station s) _ hpend using 1
    have hj := congrArg Data.jobs hd
    simp only [station, hpend', hhand, hj, enqueueJob_jobs, List.map_append, List.map_singleton]

/-- What a printer's step is to the station. -/
lemma printer_station {i : Slot} (h : Reach (program setup) ok (freshState setup) s)
    (hrun : (s.ctl (.printer i)).status = .running)
    (goes : (printerCode setup i (s.printerArgs i) (s.printerPc i)).Goes s.data s'.data
      (s'.printerPc i))
    (others : OthersStay s s' (.printer i)) :
    station s' = station s ∨ Station.Step (station s) (station s') := by
  obtain ⟨hrec, _, hprn, _⟩ := printer_locals goes
  have hpend := pendingJob_congr (others .receiver (by simp)) hrec
  have hhand : ∀ j, j ≠ i →
      inHand j (s'.printerPc j) s'.data = inHand j (s.printerPc j) s.data := fun j hj =>
    inHand_congr (others _ (by simpa using hj)) (hprn j hj)
  have hupd : ∀ x, inHand i (s'.printerPc i) s'.data = x →
      (fun j => inHand j (s'.printerPc j) s'.data) =
        Function.update (fun j => inHand j (s.printerPc j) s.data) i x := fun x hx => by
    funext j
    by_cases hj : j = i
    · subst hj; simpa using hx
    · rw [Function.update_of_ne hj]; exact hhand j hj
  rcases printer_jobs goes with ⟨hj, hp⟩ | ⟨hq, hd, hq'⟩ | ⟨hq, hd, hq'⟩
  · left
    refine station_eq hj hpend fun j => ?_
    by_cases hji : j = i
    · subst hji; exact hp
    · exact hhand j hji
  · right
    have hfront := (frontKept h i).dequeue (by rw [hrun]; rfl) hq
    obtain ⟨rest, hqueue⟩ := List.head?_eq_some_iff.mp hfront
    obtain ⟨hjobs, hjob⟩ := takeJob_jobs i hqueue
    have hx := hupd (some (s.data.printer i).jobToDequeue.id) (by
      simp [inHand, hq', PrinterPc.holdsJob, hd, hjob])
    have hidle : (station s).inService i = none := by
      simp [station, inHand, hq, PrinterPc.holdsJob]
    convert Station.Step.take (s := station s) i (s.data.printer i).jobToDequeue.id
      (rest.map Job.id) (by simp [station, hqueue]) hidle using 1
    rw [← hd] at hjobs
    simp only [station, hpend, hx, hjobs, List.map_append, List.map_singleton]
  · right
    have hx := hupd none (by simp [inHand, hq', PrinterPc.holdsJob])
    have hbusy : (station s).inService i = some (s.data.printer i).job.id := by
      simp [station, inHand, hq, PrinterPc.holdsJob]
    convert Station.Step.finish (s := station s) i _ hbusy using 1
    have hj := congrArg Data.jobs hd
    simp only [station, hpend, hx, hj, departSystem_jobs]

/-- **The threads refine the station.**  Every step leaves the station alone or moves one job,
except that a printer started in the slot of a printer that was cancelled with a job loses it. -/
theorem station_step (h : Reach (program setup) ok (freshState setup) s)
    (hs : step (program setup) s a = some s') :
    station s' = station s ∨ Station.Step (station s) (station s') ∨
      ∃ t i, Executes (program setup) s s' t ∧ Created (program setup) s s' t (.printer i) ∧
        station s' = (station s).lose i := by
  cases sys_move hs with
  | quiet data places =>
      obtain ⟨c, r, k, data⟩ := data
      exact .inl (station_eq (by rw [data]; rfl) (pendingJob_congr (places _) (by rw [data]))
        fun i => inHand_congr (places _) (by rw [data]))
  | main ex goes =>
      obtain ⟨hrec, _, hprn, _⟩ := main_locals goes
      rcases station_of_jobs_eq h ex (by simp) (by simp) (main_jobs goes) hrec hprn with
        he | ⟨i, hc, he⟩
      · exact .inl he
      · exact .inr (.inr ⟨_, i, ex, hc, he⟩)
  | autoscaler ex goes =>
      obtain ⟨hrec, _, hprn⟩ := autoscaler_locals goes
      rcases station_of_jobs_eq h ex (by simp) (by simp) (autoscaler_jobs goes) hrec hprn with
        he | ⟨i, hc, he⟩
      · exact .inl he
      · exact .inr (.inr ⟨_, i, ex, hc, he⟩)
  | refiller _ goes others =>
      obtain ⟨hrec, hprn, _⟩ := refiller_locals goes
      exact .inl (station_of_quiet others (by simp) (by simp) (refiller_jobs goes) hrec hprn)
  | stopper _ goes others =>
      obtain ⟨hrec, _, hprn, _⟩ := stop_locals goes
      rcases stop_jobs goes with hj | ⟨hq, hd⟩
      · exact .inl (station_of_quiet others (by simp) (by simp) hj hrec hprn)
      · cases hqueue : s.data.jobQueue.list with
        | nil =>
            rw [emptyQueueRound_jobs_nil _ hqueue] at hd
            exact .inl (station_of_quiet others (by simp) (by simp) (by rw [hd]) hrec hprn)
        | cons job rest =>
            right; left
            have hjobs := emptyQueueRound_jobs_cons setup.mode hqueue
            have hpend := pendingJob_congr (others .receiver (by simp)) hrec
            have hhand : ∀ i, inHand i (s'.printerPc i) s'.data =
                inHand i (s.printerPc i) s.data := fun i =>
              inHand_congr (others _ (by simp)) (by rw [hprn])
            convert Station.Step.remove (s := station s) job.id (rest.map Job.id)
              (by simp [station, Data.jobs, hqueue]) using 1
            rw [← hd] at hjobs
            simp only [station, hpend, hhand, hjobs, List.map_append, List.map_singleton]
  | receiver _ goes others => exact (receiver_station h goes others).imp_right .inl
  | printer i ex goes others =>
      exact (printer_station h ex.running goes others).imp_right .inl

end Orchestrator
