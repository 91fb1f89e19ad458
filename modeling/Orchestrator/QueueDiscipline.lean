import Orchestrator.PaperFlow

/-!
# Queue discipline

The job queue is first in, first out, keeps to its capacity, and gives a job only to a printer that
has the paper for it.

* `station_ordered` — jobs leave the queue in the order of their ids.
* `RoomChecked` — what the receiver knows about the length of the queue when it enqueues or drops.
* `queue_discipline` — the laws together.
-/

namespace Orchestrator

open Pthread Queueing

variable {setup : Setup} {s s' : Sys} {a : SysAction} {ok : Sys → SysAction → Prop}

/-- **The station is ordered in every run.** -/
theorem station_ordered (h : Reach (program setup) ok (freshState setup) s) :
    (station s).Ordered := by
  refine h.invariant (I := fun s => (station s).Ordered)
    ⟨List.Pairwise.nil, fun _ hk => (by cases hk)⟩ fun {s s' a} hr ih _ hs => ?_
  rcases station_step hr hs with he | hstep | ⟨t, i, _, _, he⟩
  · rw [he]; exact ih
  · exact hstep.ordered ih
  · rw [he]; exact ih.lose i

/-! ## The capacity -/

/-- The receiver has found room in the queue and has not enqueued its job. -/
def ReceiverPc.enqueues : ReceiverPc → Bool
  | .stampQueueArrival | .enqueue => true
  | _ => false

lemma ReceiverPc.held_of_enqueues {q : ReceiverPc} (hq : q.enqueues = true) :
    Mutex.jobQueueMutex ∈ receiverHeld q := by
  cases q with
  | stampQueueArrival | enqueue => decide
  | _ => cases hq

/-- The receiver has found the queue full and has not dropped its job. -/
def ReceiverPc.drops : ReceiverPc → Bool
  | .dropUnlockQueue | .lockStatsDrop | .emitDrop => true
  | _ => false

/-- What the receiver knows about the length of the queue. -/
structure RoomChecked (params : SimulationParameters) (s : Sys) : Prop where
  bounded : params.queueCapacity ≠ -1 →
    (s.data.jobs.queue.length : Int) ≤ params.queueCapacity
  room : (s.ctl .receiver).status.alive = true → s.receiverPc.enqueues = true →
    params.queueCapacity ≠ -1 → (s.data.jobs.queue.length : Int) < params.queueCapacity
  full : (s.ctl .receiver).status.alive = true → s.receiverPc = .dropUnlockQueue →
    s.data.jobs.queue.length = s.data.receiver.queueLength
  read : s.receiverPc.drops = true →
    params.queueCapacity ≠ -1 ∧ params.queueCapacity ≤ s.data.receiver.queueLength

/-- What the receiver's own step does to its knowledge. -/
lemma receiver_room {d d' : Data} {q q' : ReceiverPc} (h : (receiverCode setup q).Goes d d' q')
    (hroom : q.enqueues = true → setup.params.queueCapacity ≠ -1 →
      (d.jobs.queue.length : Int) < setup.params.queueCapacity)
    (hread : q.drops = true → setup.params.queueCapacity ≠ -1 ∧
      setup.params.queueCapacity ≤ d.receiver.queueLength) :
    (q'.enqueues = true → setup.params.queueCapacity ≠ -1 →
        (d'.jobs.queue.length : Int) < setup.params.queueCapacity) ∧
      (q' = .dropUnlockQueue → d'.jobs.queue.length = d'.receiver.queueLength) ∧
        (q'.drops = true → setup.params.queueCapacity ≠ -1 ∧
          setup.params.queueCapacity ≤ d'.receiver.queueLength) := by
  cases q with
  | exit => exact h.elim
  | checkCapacity =>
      obtain ⟨rfl, rfl⟩ := h
      simp only
      split
      · next hfull =>
        simp only [Receiver.isQueueFull, Bool.and_eq_true, bne_iff_ne, decide_eq_true_eq] at hfull
        exact ⟨nofun, fun _ => rfl, fun _ => hfull⟩
      · next hroom =>
        refine ⟨fun _ hcap => ?_, nofun, nofun⟩
        simp only [Receiver.isQueueFull, Bool.and_eq_true, bne_iff_ne, decide_eq_true_eq,
          not_and, not_le] at hroom
        exact hroom hcap
  | stampQueueArrival => obtain ⟨rfl, rfl⟩ := h; exact ⟨fun _ => hroom rfl, nofun, nofun⟩
  | dropUnlockQueue | lockStatsDrop =>
      obtain ⟨rfl, rfl⟩ := h
      exact ⟨nofun, nofun, fun _ => hread rfl⟩
  | nextJob | readTerminate =>
      obtain ⟨_, rfl⟩ := h
      simp only
      split <;> exact ⟨nofun, nofun, nofun⟩
  | _ => obtain ⟨_, rfl⟩ := h; exact ⟨nofun, nofun, nofun⟩

lemma RoomChecked.step (ih : RoomChecked setup.params s)
    (h : Reach (program setup) ok (freshState setup) s)
    (hs : step (program setup) s a = some s') : RoomChecked setup.params s' := by
  have hbounded : setup.params.queueCapacity ≠ -1 →
      (s'.data.jobs.queue.length : Int) ≤ setup.params.queueCapacity := fun hcap => by
    have hlen := ih.bounded hcap
    cases queue_step h hs with
    | same queue => rwa [queue]
    | join ex pc queue =>
        have hlt := ih.room (by rw [ex.running]; rfl) (by rw [pc]; rfl) hcap
        rw [queue, List.length_append, List.length_singleton]
        omega
    | leave t _ _ _ job queue =>
        rw [queue, List.length_cons] at hlen
        omega
  rcases receiver_cases h hs with ⟨hex, hpc, hloc⟩ | ⟨ex, goes⟩
  · -- the receiver holds the mutex of the queue where it knows its length
    have hkept : (s'.ctl .receiver).status.alive = true →
        s.receiverPc.enqueues = true ∨ s.receiverPc = .dropUnlockQueue →
        (s.ctl .receiver).status.alive = true ∧
          s'.data.jobs.queue = s.data.jobs.queue := fun ha hq => by
      have ha' : (s.ctl .receiver).status.alive = true := by
        rcases alive_step hs ha with ha | ⟨t, _, hc⟩
        · exact ha
        · have hstart : s'.receiverPc = .start := by rw [Sys.receiverPc, hc.fresh]; rfl
          rw [hpc] at hstart
          rw [hstart] at hq
          rcases hq with hq | hq <;> cases hq
      have hholds : (lockDiscipline setup).Holds s .receiver .jobQueueMutex := by
        refine receiver_holds h ?_
        rcases hq with hq | hq
        · exact ReceiverPc.held_of_enqueues hq
        · rw [hq]
          decide
      exact ⟨ha', queue_kept h hs hholds hex⟩
    refine ⟨hbounded, fun ha hq hcap => ?_, fun ha hq => ?_, ?_⟩
    · rw [hpc] at hq
      obtain ⟨ha', hqueue⟩ := hkept ha (.inl hq)
      rw [hqueue]
      exact ih.room ha' hq hcap
    · rw [hpc] at hq
      obtain ⟨ha', hqueue⟩ := hkept ha (.inr hq)
      rw [hqueue, hloc]
      exact ih.full ha' hq
    · rw [hpc, hloc]; exact ih.read
  · obtain ⟨hroom, hfull, hread⟩ := receiver_room goes (ih.room (by rw [ex.running]; rfl)) ih.read
    exact ⟨hbounded, fun _ => hroom, fun _ => hfull, hread⟩

/-- **The receiver knows how long the queue is when it enqueues or drops.** -/
theorem roomChecked
    (hcap : setup.params.queueCapacity ≠ -1 → 0 ≤ setup.params.queueCapacity)
    (h : Reach (program setup) ok (freshState setup) s) : RoomChecked setup.params s := by
  refine h.invariant (I := RoomChecked setup.params) ⟨?_, ?_, ?_, ?_⟩
    fun {s s' a} hr ih _ hs => ih.step hr hs
  · exact hcap
  · intro ha; cases ha
  · intro ha; cases ha
  · intro hq; cases hq

/-! ## The laws -/

/-- The laws of the job queue. -/
structure QueueLaws (params : SimulationParameters) (s : Sys) : Prop where
  /-- the queue is in the order of the ids -/
  sorted : (s.data.jobQueue.list.map Job.id).Pairwise (· < ·)
  /-- and keeps to its capacity -/
  bounded : params.queueCapacity ≠ -1 →
    (timedQueueLength s.data.jobQueue : Int) ≤ params.queueCapacity
  /-- jobs leave it in the order of the ids -/
  dequeued : (s.data.dequeued.map Job.id).Pairwise (· < ·)
  /-- and before all that are still there -/
  before : ∀ job ∈ s.data.dequeued, ∀ job' ∈ s.data.jobQueue.list, job.id < job'.id
  /-- the job a printer is about to take is the one it checked, and it has the paper for it -/
  checked : ∀ i, (s.ctl (.printer i)).status.alive = true → s.printerPc i = .dequeue →
    timedQueueFirst s.data.jobQueue = some (s.data.printer i).jobToDequeue ∧
      (s.data.printer i).jobToDequeue.papersRequired ≤ (s.data.slot i).currentPaperCount
  /-- a job that is going to be dropped found the queue full, -/
  full : s.receiverPc.drops = true →
    params.queueCapacity ≠ -1 ∧ params.queueCapacity ≤ s.data.receiver.queueLength
  /-- in the critical section that decided it -/
  decided : (s.ctl .receiver).status.alive = true → s.receiverPc = .dropUnlockQueue →
    timedQueueLength s.data.jobQueue = s.data.receiver.queueLength

/-- What a step may do. -/
structure QueueMoves (setup : Setup) (s s' : Sys) : Prop where
  /-- a printer takes the job it checked -/
  taken : ∀ i, Executes (program setup) s s' (.printer i) → s.printerPc i = .dequeue →
    (s'.data.printer i).job = (s.data.printer i).jobToDequeue ∧
      s'.data.dequeued = s.data.dequeued ++ [(s.data.printer i).jobToDequeue]
  /-- only the receiver drops a job, and only one that found the queue full -/
  dropped : s'.data.stats.totalJobsDropped ≠ s.data.stats.totalJobsDropped →
    s.receiverPc.drops = true

/-- Only the receiver drops jobs. -/
lemma dropped_step (hs : step (program setup) s a = some s')
    (hne : s'.data.jobs.totalDropped ≠ s.data.jobs.totalDropped) : s.receiverPc = .emitDrop := by
  cases sys_move hs with
  | quiet data _ => obtain ⟨c, r, k, data⟩ := data; rw [data] at hne; exact absurd rfl hne
  | main ex goes => rw [main_jobs goes] at hne; exact absurd rfl hne
  | refiller ex goes _ => rw [refiller_jobs goes] at hne; exact absurd rfl hne
  | autoscaler ex goes => rw [autoscaler_jobs goes] at hne; exact absurd rfl hne
  | stopper ex goes _ =>
      rcases stop_jobs goes with hj | ⟨_, hd⟩
      · rw [hj] at hne; exact absurd rfl hne
      · cases hq : s.data.jobQueue.list with
        | nil => rw [hd, emptyQueueRound_jobs_nil _ hq] at hne; exact absurd rfl hne
        | cons job rest => rw [hd, emptyQueueRound_jobs_cons _ hq] at hne; exact absurd rfl hne
  | receiver ex goes _ =>
      rcases receiver_jobs goes with ⟨hj, _⟩ | ⟨_, hd, _⟩ | ⟨hq, _, _⟩ | ⟨_, hd, _⟩
      · rw [hj] at hne; exact absurd rfl hne
      · rw [hd, reportArrival_jobs] at hne; exact absurd rfl hne
      · exact hq
      · rw [hd, enqueueJob_jobs] at hne; exact absurd rfl hne
  | printer i ex goes _ =>
      rcases printer_jobs goes with ⟨hj, _⟩ | ⟨_, hd, _⟩ | ⟨_, hd, _⟩
      · rw [hj] at hne; exact absurd rfl hne
      · rw [hd] at hne; exact absurd rfl hne
      · rw [hd, departSystem_jobs] at hne; exact absurd rfl hne

lemma queueMoves (h : Reach (program setup) ok (freshState setup) s)
    (hs : step (program setup) s a = some s') : QueueMoves setup s s' := by
  refine ⟨fun i ex hq => ?_, fun hne => by rw [dropped_step hs hne]; rfl⟩
  have goes : (printerCode setup i (s.printerArgs i) (s.printerPc i)).Goes s.data s'.data
      (s'.printerPc i) := ex.goes
  rw [hq] at goes
  obtain ⟨rest, hqueue⟩ :=
    List.head?_eq_some_iff.mp ((frontKept h i).dequeue (by rw [ex.running]; rfl) hq)
  obtain ⟨hjobs, hjob⟩ := takeJob_jobs i hqueue
  rw [goes.1]
  exact ⟨hjob, congrArg JobView.dequeued hjobs⟩

/-- **Queue discipline.**  With accepted parameters, the laws of the job queue hold in every
reachable state, and every step from there keeps to them. -/
theorem queue_discipline (hparams : Accepted setup.params)
    (h : Reach (program setup) ok (freshState setup) s) :
    QueueLaws setup.params s ∧
      ∀ a s', step (program setup) s a = some s' → QueueMoves setup s s' := by
  have hrange := accepted_inRange hparams
  obtain ⟨htaken, hline, hbefore⟩ := (station_ordered h).parts
  have hroom := roomChecked (fun hcap => (hrange.queueCapacity.resolve_left hcap).le) h
  refine ⟨⟨hline, hroom.bounded, htaken, fun job hjob job' hjob' => ?_, fun i ha hq => ?_,
    hroom.read, hroom.full⟩, fun a s' hs => queueMoves h hs⟩
  · exact hbefore _ (List.mem_map_of_mem hjob) _ (List.mem_map_of_mem hjob')
  · have hpromise : (depot s).promised i =
        some (s.data.printer i).jobToDequeue.papersRequired := by
      simp [depot, promise, hq]
    exact ⟨(frontKept h i).dequeue ha hq, ((depot_laws hrange h).1.promised i _ hpromise).2⟩

/-- A server run whose job queue has room for two jobs. -/
def smallQueue : Setup := ⟨.server, { simulationDefaultParamsHighLoad with queueCapacity := 2 }⟩

lemma smallQueue_accepted : Accepted smallQueue.params :=
  ⟨fun _ => 2, fun _ => .num 0, ["-q", "2"], false, by decide⟩

/-- A queue of capacity two: the third job is about to be dropped while a printer is about to take
the first. -/
theorem queue_discipline_when_full :
    ∃ s : Sys, Reach (program smallQueue) anyChoice (freshState smallQueue) s ∧
      (s.receiverPc = .emitDrop ∧ s.printerPc 0 = .dequeue) ∧ QueueLaws smallQueue.params s := by
  obtain ⟨s, hs, hpcs⟩ := exists_run smallQueue anyChoice
    (runs Tid.main 20 ++ runs Tid.receiver 54 ++ runs (Tid.printer 0) 5)
    (fun s => s.receiverPc = .emitDrop ∧ s.printerPc 0 = .dequeue) (by decide +kernel)
  exact ⟨s, hs, hpcs, (queue_discipline smallQueue_accepted hs).1⟩

end Orchestrator
