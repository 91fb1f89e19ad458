import Orchestrator.ScaleDown
import Orchestrator.Stranding

/-!
# What all_jobs_served says

The first printer that exits sets `all_jobs_served`, and the refiller and the autoscaler end
because of it.

* `arrived_all` — once the arrivals have ended without a stop request, every job has arrived.
* `ExitsLast` — the flag is set while no printer has a job in hand, and no printer is cancelled with
  one.
* `all_jobs_served_truth` — then the flag tells the truth.
-/

namespace Orchestrator

open Pthread

variable {setup : Setup} {s s' : Sys} {a : SysAction} {ok : Sys → SysAction → Prop}

/-! ## How many jobs arrive -/

/-- The receiver is in the body of its loop. -/
def ReceiverPc.atJob (q : ReceiverPc) : Bool := q.hasJob || q.numbered

/-- The receiver is behind its loop. -/
def ReceiverPc.behindLoop : ReceiverPc → Bool
  | .endLockState | .endSetArrived => true
  | q => q.announced

/-- The receiver has counted the jobs up to its loop counter, and leaves the loop behind the last
one or because of a stop request. -/
structure ArrivalsCounted (params : SimulationParameters) (s : Sys) : Prop where
  counted : s.data.jobs.totalArrived = lastId s.receiverPc s.data
  bound : s.data.receiver.jobId ≤ params.numJobs.toNat
  atJob : s.receiverPc.atJob = true → s.data.receiver.jobId < params.numJobs.toNat
  behind : s.receiverPc.behindLoop = true →
    s.data.receiver.terminateNow = true ∨ s.data.receiver.jobId = params.numJobs.toNat

/-- What the receiver's step does to its loop counter. -/
lemma receiver_counter {d d' : Data} {q q' : ReceiverPc} (h : (receiverCode setup q).Goes d d' q')
    (hbound : d.receiver.jobId ≤ setup.params.numJobs.toNat)
    (hjob : q.atJob = true → d.receiver.jobId < setup.params.numJobs.toNat)
    (habort : q = .abort → d.receiver.terminateNow = true)
    (hbehind : q.behindLoop = true →
      d.receiver.terminateNow = true ∨ d.receiver.jobId = setup.params.numJobs.toNat) :
    d'.receiver.jobId ≤ setup.params.numJobs.toNat ∧
      (q'.atJob = true → d'.receiver.jobId < setup.params.numJobs.toNat) ∧
      (q'.behindLoop = true → d'.receiver.terminateNow = true ∨
        d'.receiver.jobId = setup.params.numJobs.toNat) ∧
      d'.jobs.totalArrived + lastId q d = d.jobs.totalArrived + lastId q' d' := by
  cases q with
  | exit => exact h.elim
  | nextJob =>
      obtain ⟨rfl, rfl⟩ := h
      rw [Receiver.createJob]
      split
      · next hmore =>
        have hlt : d.receiver.jobId < setup.params.numJobs.toNat := by omega
        simp [Data.modifyReceiver, hmore, hbound, hlt, ReceiverPc.atJob, ReceiverPc.hasJob,
          ReceiverPc.behindLoop, ReceiverPc.announced, lastId, ReceiverPc.numbered,
          ReceiverPc.holdsJob]
        rfl
      · next hdone =>
        have heq : d.receiver.jobId = setup.params.numJobs.toNat := by omega
        simp [heq, ReceiverPc.atJob, ReceiverPc.hasJob, lastId, ReceiverPc.numbered,
          ReceiverPc.holdsJob]
  | emitArrival =>
      obtain ⟨rfl, rfl⟩ := h
      have hlt := hjob rfl
      rw [reportArrival_jobs]
      simp [Receiver.reportArrival, hbound, hlt, ReceiverPc.behindLoop, ReceiverPc.announced,
        lastId, ReceiverPc.numbered, ReceiverPc.holdsJob]
      omega
  | readTerminate =>
      obtain ⟨rfl, rfl⟩ := h
      have hlt := hjob rfl
      simp only
      split <;>
        simp_all [Data.modifyReceiver, ReceiverPc.atJob, ReceiverPc.hasJob, ReceiverPc.behindLoop,
          ReceiverPc.announced, lastId, ReceiverPc.numbered, ReceiverPc.holdsJob]
      all_goals rfl
  | checkCapacity =>
      obtain ⟨rfl, rfl⟩ := h
      have hlt := hjob rfl
      simp only
      split <;>
        simp_all [Receiver.readQueueLength, Data.modifyReceiver, ReceiverPc.behindLoop,
          ReceiverPc.announced, lastId, ReceiverPc.numbered, ReceiverPc.holdsJob]
      all_goals rfl
  | unlockStatsDrop | unlockQueue =>
      obtain ⟨rfl, rfl⟩ := h
      have hlt := hjob rfl
      refine ⟨hlt, fun hq => (by cases hq), fun hq => (by cases hq), ?_⟩
      rfl
  | start | readStart =>
      obtain ⟨rfl, rfl⟩ := h
      exact ⟨hbound, fun hq => (by cases hq), fun hq => (by cases hq), rfl⟩
  | abort =>
      obtain ⟨rfl, rfl⟩ := h
      exact ⟨hbound, fun hq => (by cases hq), fun _ => .inl (habort rfl), rfl⟩
  | endLockState | endSetArrived | endLockQueue | endNotifyPrinters | endUnlockQueue =>
      obtain ⟨rfl, rfl⟩ := h
      exact ⟨hbound, fun hq => (by cases hq), fun _ => hbehind rfl, rfl⟩
  | emitDrop =>
      obtain ⟨rfl, rfl⟩ := h
      refine ⟨hbound, fun _ => hjob rfl, fun hq => (by cases hq), ?_⟩
      rw [emit_droppedJob_jobs]
      rfl
  | emitQueueArrival =>
      obtain ⟨rfl, rfl⟩ := h
      refine ⟨hbound, fun _ => hjob rfl, fun hq => (by cases hq), ?_⟩
      rw [reportQueueArrival_jobs]
      rfl
  | _ =>
      obtain ⟨rfl, rfl⟩ := h
      exact ⟨hbound, fun _ => hjob rfl, fun hq => (by cases hq), rfl⟩

/-- Only the receiver counts arrivals. -/
lemma totalArrived_step (hs : step (program setup) s a = some s')
    (hex : ¬Executes (program setup) s s' .receiver) :
    s'.data.jobs.totalArrived = s.data.jobs.totalArrived := by
  cases sys_move hs with
  | quiet data _ => obtain ⟨c, r, k, data⟩ := data; rw [data]; rfl
  | main _ goes => rw [main_jobs goes]
  | refiller _ goes _ => rw [refiller_jobs goes]
  | autoscaler _ goes => rw [autoscaler_jobs goes]
  | receiver ex _ _ => exact absurd ex hex
  | stopper _ goes _ =>
      rcases stop_jobs goes with hj | ⟨_, hd⟩
      · rw [hj]
      · rw [hd]
        cases hq : s.data.jobQueue.list with
        | nil => rw [emptyQueueRound_jobs_nil _ hq]
        | cons job rest => rw [emptyQueueRound_jobs_cons _ hq]
  | printer i _ goes _ =>
      rcases printer_jobs goes with ⟨hj, _⟩ | ⟨_, hd, _⟩ | ⟨_, hd, _⟩
      · rw [hj]
      · rw [hd]; rfl
      · rw [hd, departSystem_jobs]

/-- **The receiver counts its jobs.** -/
theorem arrivalsCounted (h : Reach (program setup) ok (freshState setup) s) :
    ArrivalsCounted setup.params s := by
  refine h.invariant (I := fun s => ArrivalsCounted setup.params s) ?_
    fun {s s' a} hr ih _ hs => ?_
  · exact ⟨rfl, Nat.zero_le _, fun hq => (by cases hq), fun hq => (by cases hq)⟩
  · rcases receiver_cases hr hs with ⟨hex, hpc, hl⟩ | ⟨_, goes⟩
    · have htotal := totalArrived_step hs hex
      constructor
      · rw [htotal, lastId, hpc, hl]; exact ih.counted
      · rw [hl]; exact ih.bound
      · rw [hpc, hl]; exact ih.atJob
      · rw [hpc, hl]; exact ih.behind
    · obtain ⟨hbound, hjob, hbehind, hcount⟩ :=
        receiver_counter goes ih.bound ih.atJob (abort_terminateNow hr) ih.behind
      have hcounted := ih.counted
      exact ⟨by omega, hbound, hjob, hbehind⟩

/-- **Once the arrivals have ended without a stop request, every job has arrived**, and the receiver
has none left. -/
theorem arrived_all (h : Reach (program setup) ok (freshState setup) s)
    (harr : s.data.allJobsArrived = true) (hterm : s.data.gTerminateNow = false) :
    s.data.stats.totalJobsArrived = setup.params.numJobs.toNat ∧
      s.receiverPc.holdsJob = false := by
  have hann : s.receiverPc.announced = true :=
    (announced_of_arrived h harr).resolve_left (by rw [hterm]; decide)
  have hcounted := arrivalsCounted h
  have hid : s.data.receiver.jobId = setup.params.numJobs.toNat := by
    have hbehind : s.receiverPc.behindLoop = true := by
      generalize s.receiverPc = q at *
      cases q <;> first | rfl | cases hann
    refine (hcounted.behind hbehind).resolve_left fun hread => ?_
    rw [(readsSound h).receiverTerminate hread] at hterm
    cases hterm
  have hplace : s.receiverPc.numbered = false ∧ s.receiverPc.holdsJob = false := by
    generalize s.receiverPc = q at *
    cases q <;> first | exact ⟨rfl, rfl⟩ | cases hann
  have htotal : s.data.stats.totalJobsArrived = lastId s.receiverPc s.data := hcounted.counted
  rw [lastId, hplace.1, hid] at htotal
  exact ⟨htotal, hplace.2⟩

/-- Without a stop request no job is removed. -/
lemma removed_none (h : Reach (program setup) ok (freshState setup) s) :
    s.data.gTerminateNow = false → s.data.stats.totalJobsRemoved = 0 := by
  refine h.invariant (I := fun s : Sys => s.data.gTerminateNow = false →
    s.data.stats.totalJobsRemoved = 0) (fun _ => rfl) fun {s s' a} hr ih _ hs hterm' => ?_
  have hterm := no_stop_before hs hterm'
  have hsame : s'.data.jobs.totalRemoved = s.data.jobs.totalRemoved := by
    cases sys_move hs with
    | quiet data _ => obtain ⟨c, r, k, data⟩ := data; rw [data]; rfl
    | main _ goes => rw [main_jobs goes]
    | refiller _ goes _ => rw [refiller_jobs goes]
    | autoscaler _ goes => rw [autoscaler_jobs goes]
    | receiver _ goes _ =>
        rcases receiver_jobs goes with ⟨hj, _⟩ | ⟨_, hd, _⟩ | ⟨_, hd, _⟩ | ⟨_, hd, _⟩
        · rw [hj]
        · rw [hd, reportArrival_jobs]
        · rw [hd, emit_droppedJob_jobs]
        · rw [hd, enqueueJob_jobs]
    | stopper _ goes _ =>
        rcases stop_jobs goes with hj | ⟨hq, _⟩
        · rw [hj]
        · -- the stop handler drains the queue behind its flags
          have hset := terminate_of_owesForEnd hr (by rw [hq]; rfl)
          rw [hterm] at hset
          cases hset
    | printer i _ goes _ =>
        rcases printer_jobs goes with ⟨hj, _⟩ | ⟨_, hd, _⟩ | ⟨_, hd, _⟩
        · rw [hj]
        · rw [hd]; rfl
        · rw [hd, departSystem_jobs]
  exact hsame.trans (ih hterm)

/-! ## The flag -/

/-- If `all_jobs_served` is set and no stop was requested, then every job was served or dropped, the
queue is empty and no printer has a job in hand. -/
def TellsTruth (params : SimulationParameters) (s : Sys) : Prop :=
  s.data.allJobsServed = true → s.data.gTerminateNow = false →
    s.data.stats.totalJobsServed + s.data.stats.totalJobsDropped = params.numJobs.toNat ∧
      s.data.jobQueue.list = [] ∧ ∀ i, (s.printerPc i).holdsJob = false

/-- A printer that sets `all_jobs_served` without a stop request does so while no printer has a job
in hand, and no printer acts on a cancellation with a job in hand. -/
def ExitsLast (s : Sys) : SysAction → Prop
  | .run (.printer i) => s.printerPc i = .exitSetServed → s.data.gTerminateNow = false →
      ∀ j, (s.printerPc j).holdsJob = false
  | .accept (.printer i) => (s.printerPc i).holdsJob = false
  | _ => True

instance (s : Sys) (a : SysAction) : Decidable (ExitsLast s a) :=
  match a with
  | .run (.printer i) => inferInstanceAs (Decidable
      (s.printerPc i = .exitSetServed → s.data.gTerminateNow = false →
        ∀ j, (s.printerPc j).holdsJob = false))
  | .accept (.printer i) => inferInstanceAs (Decidable ((s.printerPc i).holdsJob = false))
  | .run .main | .run .stopper | .run .receiver | .run .refiller | .run .autoscaler =>
      isTrue trivial
  | .accept .main | .accept .stopper | .accept .receiver | .accept .refiller
  | .accept .autoscaler => isTrue trivial
  | .spurious _ | .env _ => isTrue trivial

/-- A printer that is not alive has no job in hand. -/
lemma no_job_of_dead {i : Slot} (h : Reach (program setup) ExitsLast (freshState setup) s) :
    (s.ctl (.printer i)).status.alive = false → (s.printerPc i).holdsJob = false := by
  refine h.invariant (I := fun s : Sys => (s.ctl (.printer i)).status.alive = false →
    (s.printerPc i).holdsJob = false) (fun _ => rfl) fun {s s' a} hr ih hok hs hdead => ?_
  cases thread_step hs (.printer i) with
  | same ctl => rw [ctl] at hdead; rw [Sys.printerPc, ctl]; exact ih hdead
  | exec ex =>
      rcases (s.instr (program setup) (.printer i)).statusAfter_cases with
        hst | ⟨c, m, q, _, hst⟩ <;>
        rw [ex.status, hst] at hdead <;> cases hdead
  | created t _ _ hc => rw [hc.fresh] at hdead; cases hdead
  | asked t _ _ ctl => rw [ctl] at hdead; rw [Sys.printerPc, ctl]; exact ih hdead
  | woken c m _ ctl => rw [ctl] at hdead; cases hdead
  | resume m _ ctl => rw [ctl] at hdead; cases hdead
  | exit _ hi ctl =>
      change printerCode setup i (Sys.printerArgs s i) (Sys.printerPc s i) = .exit at hi
      rw [Sys.printerPc, ctl]
      show (Sys.printerPc s i).holdsJob = false
      generalize Sys.printerPc s i = q at *
      cases q <;> first | rfl | cases hi
  | die m hw ctl =>
      rw [Sys.printerPc, ctl]
      exact holdsJob_of_waiting hr (by rw [hw]; rfl)
  | killed _ _ _ ctl => rw [Sys.printerPc, ctl]; exact hok
  | caught m _ _ ctl => rw [ctl] at hdead; cases hdead

/-- A printer takes no job from an empty queue. -/
lemma holdsJob_step {i : Slot} (h : Reach (program setup) ok (freshState setup) s)
    (hs : step (program setup) s a = some s') (hnil : s.data.jobs.queue = [])
    (hq' : (s'.printerPc i).holdsJob = true) : (s.printerPc i).holdsJob = true := by
  rcases printer_cases hs i with ⟨_, hpc, _⟩ | ⟨t, _, hc⟩ | ⟨ex, _, goes⟩
  · exact hpc ▸ hq'
  · rw [created_printer hc] at hq'; cases hq'
  · refine (holdsJob_of_goes goes hq').resolve_right fun hq => ?_
    have hfront := (frontKept h i).dequeue (by rw [ex.running]; rfl) hq
    rw [hnil] at hfront
    cases hfront

/-- **While the flag is set and no stop was requested, no printer has a job in hand.** -/
theorem no_job_in_hand (h : Reach (program setup) ExitsLast (freshState setup) s) :
    s.data.allJobsServed = true → s.data.gTerminateNow = false →
      ∀ i, (s.printerPc i).holdsJob = false := by
  refine h.invariant (I := fun s : Sys => s.data.allJobsServed = true →
    s.data.gTerminateNow = false → ∀ i, (s.printerPc i).holdsJob = false)
    (fun hi => by cases hi) fun {s s' a} hr ih hok hs hserved' hterm' i => ?_
  have hterm := no_stop_before hs hterm'
  have hbefore : (∀ j, (Sys.printerPc s j).holdsJob = false) ∧ WorkOver s.data := by
    rcases served_before hs hserved' with hserved | ⟨j, rfl, pc⟩
    · exact ⟨ih hserved hterm, workOver_of_served hr hserved⟩
    · exact ⟨hok pc hterm, workOver_of_leaving hr j (by rw [pc]; rfl)⟩
  obtain ⟨hnone, hover⟩ := hbefore
  have hnil : s.data.jobs.queue = [] := (hover.without_stop hterm).2
  by_contra hq'
  have hq := holdsJob_step hr hs hnil (by simpa using hq')
  rw [hnone i] at hq
  cases hq

/-- **The flag tells the truth**, in a run whose printers exit last. -/
lemma tellsTruth (h : Reach (program setup) ExitsLast (freshState setup) s) :
    TellsTruth setup.params s := by
  intro hserved hterm
  have hnone := no_job_in_hand h hserved hterm
  obtain ⟨harr, hnil⟩ := (workOver_of_served h hserved).without_stop hterm
  obtain ⟨htotal, hpending⟩ := arrived_all h harr hterm
  have hlist : s.data.jobQueue.list = [] := hnil
  have hbusy : busyPrinters s = ∅ :=
    Finset.filter_eq_empty_iff.mpr fun i _ => by
      rw [hnone i]
      decide
  have hcount := counts_of_conserved h (station_conserved_of (fun hr => no_job_of_dead hr) h)
  rw [htotal, removed_none h hterm, timedQueueLength, hlist, hbusy, hpending] at hcount
  exact ⟨by simpa using hcount.symm, hlist, hnone⟩

/-- A printer that sets the flag while another has a job in hand makes it lie. -/
lemma lies_of_exit {i j : Slot} (hs : step (program setup) s (.run (.printer i)) = some s')
    (hrun : (s.ctl (.printer i)).status = .running) (hq : s.printerPc i = .exitSetServed)
    (hterm : s.data.gTerminateNow = false) (hj : (s.printerPc j).holdsJob = true) :
    ¬TellsTruth setup.params s' := by
  have ex : Executes (program setup) s s' (.printer i) := by
    refine executes_of_run hs (fun m => by rw [hrun]; simp [Status.mutex]) fun hexit => ?_
    change printerCode setup i (s.printerArgs i) (s.printerPc i) = .exit at hexit
    rw [hq] at hexit
    cases hexit
  have goes : (printerCode setup i (s.printerArgs i) (s.printerPc i)).Goes s.data s'.data
    (s'.printerPc i) := ex.goes
  rw [hq] at goes
  have hne : j ≠ i := fun heq => by
    rw [heq, hq] at hj
    cases hj
  have hstay : s'.printerPc j = s.printerPc j :=
    (others_stay ex (by simp) (by simp) (.printer j) (by simpa using hne)).1
  intro htruth
  have hnone := (htruth (by rw [goes.1]) (by rw [goes.1]; exact hterm)).2.2 j
  rw [hstay, hj] at hnone
  cases hnone

/-- **`all_jobs_served` tells the truth** in every run in which it is set last: no printer sets it
without a stop request while one has a job in hand, and none is cancelled with a job.  A printer
that sets it too early makes it lie. -/
theorem all_jobs_served_truth (setup : Setup) :
    (∀ s : Sys, Reach (program setup) ExitsLast (freshState setup) s →
      TellsTruth setup.params s) ∧
    (∀ (s s' : Sys) (i j : Slot), Reach (program setup) anyChoice (freshState setup) s →
      step (program setup) s (.run (.printer i)) = some s' →
      (s.ctl (.printer i)).status = .running → s.printerPc i = .exitSetServed →
      s.data.gTerminateNow = false → (s.printerPc j).holdsJob = true →
        ¬TellsTruth setup.params s') :=
  ⟨fun _ h => tellsTruth h, fun _ _ _ _ _ hs hrun hq hterm hj => lies_of_exit hs hrun hq hterm hj⟩

/-- One job, and two printers. -/
def singleJob : Setup := ⟨.server, { simulationDefaultParamsHighLoad with numJobs := 1 }⟩

/-- The printer that printed the job sets the flag. -/
theorem all_jobs_served_truth_one_printer :
    ∃ s : Sys, Reach (program singleJob) ExitsLast (freshState singleJob) s ∧
      s.data.allJobsServed = true ∧
      s.data.stats.totalJobsServed + s.data.stats.totalJobsDropped = 1 ∧
      s.data.jobQueue.list = [] ∧ ∀ i, (s.printerPc i).holdsJob = false := by
  obtain ⟨s, hs, hserved, hterm⟩ := exists_run singleJob ExitsLast
    (runs Tid.main 20 ++ runs Tid.receiver 28 ++ runs (Tid.printer 0) 26)
    (fun s => s.data.allJobsServed = true ∧ s.data.gTerminateNow = false) (by decide +kernel)
  exact ⟨s, hs, hserved, (all_jobs_served_truth singleJob).1 s hs hserved hterm⟩

/-- **The flag lies.**  One printer prints the only job, and the other has found the queue empty and
the arrivals ended. -/
theorem all_jobs_served_lie :
    ∃ s : Sys, Reach (program singleJob) anyChoice (freshState singleJob) s ∧
      s.data.allJobsServed = true ∧ s.data.gTerminateNow = false ∧
      s.data.stats.totalJobsServed = 0 ∧ s.data.stats.totalJobsDropped = 0 ∧
      s.printerPc 0 = .service ∧ (s.data.printer 0).job.id = 1 ∧
      ¬TellsTruth singleJob.params s := by
  obtain ⟨s, hs, hserved, hterm, hcount, hdrop, hpc, hid⟩ := exists_run singleJob anyChoice
    (runs Tid.main 20 ++ runs Tid.receiver 28 ++ runs (Tid.printer 0) 11 ++ runs (Tid.printer 1) 7)
    (fun s => s.data.allJobsServed = true ∧ s.data.gTerminateNow = false ∧
      s.data.stats.totalJobsServed = 0 ∧ s.data.stats.totalJobsDropped = 0 ∧
      s.printerPc 0 = .service ∧ (s.data.printer 0).job.id = 1) (by decide +kernel)
  refine ⟨s, hs, hserved, hterm, hcount, hdrop, hpc, hid, fun htruth => ?_⟩
  have hnone := (htruth hserved hterm).2.2 0
  rw [hpc] at hnone
  cases hnone

end Orchestrator
