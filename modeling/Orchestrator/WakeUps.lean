import Orchestrator.Flags
import Orchestrator.JobFlow

/-!
# No lost wake-up on the job queue

A printer that waits for a job has seen an empty queue and jobs still to arrive.  Whoever ends that
owes a broadcast of `job_queue_not_empty_cv`, and makes it with `job_queue_mutex` held.

* `NothingToDo` — what is true while a printer waits.
* `nothingToDo_step` — it stays true until a thread makes the broadcast it owes.
* `no_lost_wakeup` — so no printer sleeps through the last broadcast.
-/

namespace Orchestrator

open Pthread

variable {setup : Setup} {s s' : Sys} {a : SysAction} {ok : Sys → SysAction → Prop}

/-! ## Who owes a broadcast -/

/-- The receiver has put a job into the queue and has not woken the printers. -/
def ReceiverPc.owesForJob : ReceiverPc → Bool
  | .lockStatsQueue | .emitQueueArrival | .unlockStatsQueue | .notifyPrinters => true
  | _ => false

lemma ReceiverPc.held_of_owesForJob {q : ReceiverPc} (hq : q.owesForJob = true) :
    Mutex.jobQueueMutex ∈ receiverHeld q := by
  cases q with
  | lockStatsQueue | emitQueueArrival | unlockStatsQueue | notifyPrinters => decide
  | _ => cases hq

/-- The receiver has announced the end of the arrivals and has not woken the printers.  Before
`endLockQueue` it has announced it only if it broke off its loop. -/
def ReceiverPc.owesForEnd (q : ReceiverPc) (terminateNow : Bool) : Bool :=
  match q with
  | .endLockQueue | .endNotifyPrinters => true
  | .endLockState | .endSetArrived => terminateNow
  | _ => false

/-- The stop handler has announced the end of the arrivals and has not woken the printers. -/
def StopPc.owesForEnd : StopPc → Bool
  | .lockStats | .emitStopped | .unlockStats | .cancelReceiver | .cancelRefiller | .lockQueue
  | .lockStatsDrain | .drain | .notifyPrinters => true
  | _ => false

/-- There is no job and there are more to come, except for what the waiting printers are still to
be told. -/
structure NothingToDo (s : Sys) : Prop where
  queue : s.data.jobs.queue = [] ∨ s.receiverPc.owesForJob = true
  arrivals : s.data.allJobsArrived = false ∨
    s.receiverPc.owesForEnd s.data.receiver.terminateNow = true ∨ s.stopPc.owesForEnd = true

/-- A thread executes a broadcast of `job_queue_not_empty_cv` with `job_queue_mutex` held. -/
def TellsPrinters (setup : Setup) (s s' : Sys) : Prop :=
  ∃ t, Executes (program setup) s s' t ∧
    (s.instr (program setup) t).wakes = some .jobQueueNotEmptyCv ∧
      (lockDiscipline setup).Holds s t .jobQueueMutex

lemma receiver_aborts {d d' : Data} {q : ReceiverPc} (h : (receiverCode setup q).Goes d d' .abort) :
    d'.receiver.terminateNow = true := by
  cases q with
  | exit => exact h.elim
  | readTerminate =>
      obtain ⟨hd, hq⟩ := h
      rw [← hd] at hq
      by_contra hterm
      simp only [hterm] at hq
      cases hq
  | nextJob | checkCapacity =>
      obtain ⟨_, hq⟩ := h
      simp only at hq
      split at hq <;> cases hq
  | _ => cases h.2

/-- The receiver breaks off its loop only if it has read the terminate flag. -/
lemma abort_terminateNow (h : Reach (program setup) ok (freshState setup) s) :
    s.receiverPc = .abort → s.data.receiver.terminateNow = true := by
  refine h.invariant
    (I := fun s : Sys => s.receiverPc = .abort → s.data.receiver.terminateNow = true)
    (fun hq => by cases hq) fun {s s' a} hr ih _ hs hq => ?_
  rcases receiver_cases hr hs with ⟨_, hpc, hloc⟩ | ⟨_, goes⟩
  · rw [hloc]; exact ih (hpc ▸ hq)
  · exact receiver_aborts (hq ▸ goes)

/-- The receiver keeps what it owes until it makes the broadcast. -/
lemma receiver_owes {d d' : Data} {q q' : ReceiverPc} (h : (receiverCode setup q).Goes d d' q') :
    (q.owesForJob = true → q'.owesForJob = true ∨ q = .notifyPrinters) ∧
      (q.owesForEnd d.receiver.terminateNow = true →
        q'.owesForEnd d'.receiver.terminateNow = true ∨ q = .endNotifyPrinters) := by
  cases q with
  | exit => exact h.elim
  | notifyPrinters => exact ⟨fun _ => .inr rfl, nofun⟩
  | endNotifyPrinters => exact ⟨nofun, fun _ => .inr rfl⟩
  | lockStatsQueue | emitQueueArrival | unlockStatsQueue =>
      obtain ⟨_, rfl⟩ := h
      exact ⟨fun _ => .inl rfl, nofun⟩
  | endLockState => obtain ⟨rfl, rfl⟩ := h; exact ⟨nofun, .inl⟩
  | endSetArrived | endLockQueue =>
      obtain ⟨_, rfl⟩ := h
      exact ⟨nofun, fun _ => .inl rfl⟩
  | _ => exact ⟨nofun, nofun⟩

/-- The stop handler keeps what it owes until it makes the broadcast. -/
lemma stop_owes {d d' : Data} {q q' : StopPc} (h : (stopCode setup q).Goes d d' q')
    (hq : q.owesForEnd = true) : q'.owesForEnd = true ∨ q = .notifyPrinters := by
  cases q with
  | notifyPrinters => exact .inr rfl
  | drain =>
      left
      obtain ⟨_, rfl⟩ := h
      simp only
      split <;> rfl
  | lockStats | emitStopped | unlockStats | cancelReceiver | cancelRefiller | lockQueue
  | lockStatsDrain => obtain ⟨_, rfl⟩ := h; exact .inl rfl
  | _ => cases hq

lemma receiver_tells (ex : Executes (program setup) s s' .receiver)
    (hq : s.receiverPc = .notifyPrinters ∨ s.receiverPc = .endNotifyPrinters) :
    TellsPrinters setup s s' := by
  refine ⟨_, ex, ?_, Discipline.holds_of_running ex.running ?_⟩
  · show (receiverCode setup s.receiverPc).wakes = _
    rcases hq with hq | hq <;> rw [hq] <;> rfl
  · show Mutex.jobQueueMutex ∈ receiverHeld s.receiverPc
    rcases hq with hq | hq <;> rw [hq] <;> decide

lemma stop_tells (ex : Executes (program setup) s s' .stopper)
    (hq : s.stopPc = .notifyPrinters) : TellsPrinters setup s s' := by
  refine ⟨_, ex, ?_, Discipline.holds_of_running ex.running ?_⟩
  · show (stopCode setup s.stopPc).wakes = _
    rw [hq]; rfl
  · show Mutex.jobQueueMutex ∈ stopHeld s.stopPc
    rw [hq]; decide

/-! ## One step -/

/-- The stop handler stays where it is or executes an instruction. -/
lemma stop_cases (h : Reach (program setup) ok (freshState setup) s)
    (hs : step (program setup) s a = some s') :
    (¬Executes (program setup) s s' .stopper ∧ s'.stopPc = s.stopPc) ∨
      (Executes (program setup) s s' .stopper ∧
        (stopCode setup s.stopPc).Goes s.data s'.data s'.stopPc) := by
  rcases stays_or_executes (u := .stopper) h hs (by simp) with ⟨hex, hpl⟩ | hex
  · exact .inl ⟨hex, hpl.1⟩
  · exact .inr ⟨hex, hex.goes⟩

lemma queue_nothing (h : Reach (program setup) ok (freshState setup) s)
    (hs : step (program setup) s a = some s')
    (hidle : s.data.jobs.queue = [] ∨ s.receiverPc.owesForJob = true) :
    (s'.data.jobs.queue = [] ∨ s'.receiverPc.owesForJob = true) ∨ TellsPrinters setup s s' := by
  have howes : s.receiverPc.owesForJob = true →
      s'.receiverPc.owesForJob = true ∨ TellsPrinters setup s s' := fun hq => by
    rcases receiver_cases h hs with ⟨_, hpc, _⟩ | ⟨ex, goes⟩
    · left; rwa [hpc]
    · exact ((receiver_owes goes).1 hq).imp_right fun hq => receiver_tells ex (.inl hq)
  rcases hidle with hnil | hq
  · cases queue_step h hs with
    | same queue => rw [queue]; exact .inl (.inl hnil)
    | join ex pc _ =>
        have goes : (receiverCode setup s.receiverPc).Goes s.data s'.data s'.receiverPc := ex.goes
        rw [pc] at goes
        left; right
        rw [goes.2]; rfl
    | leave t _ _ _ job queue => rw [hnil] at queue; cases queue
  · exact (howes hq).imp_left .inr

lemma arrivals_nothing (h : Reach (program setup) ok (freshState setup) s)
    (hs : step (program setup) s a = some s')
    (hidle : s.data.allJobsArrived = false ∨
      s.receiverPc.owesForEnd s.data.receiver.terminateNow = true ∨
        s.stopPc.owesForEnd = true) :
    (s'.data.allJobsArrived = false ∨
      s'.receiverPc.owesForEnd s'.data.receiver.terminateNow = true ∨
        s'.stopPc.owesForEnd = true) ∨ TellsPrinters setup s s' := by
  rcases hidle with hflag | hq | hq
  · left
    cases flag_step hs with
    | same flags => exact .inl ((congrArg FlagView.arrived flags).trans hflag)
    | arrived ex pc _ =>
        have goes : (receiverCode setup s.receiverPc).Goes s.data s'.data s'.receiverPc := ex.goes
        right; left
        rcases pc with ⟨hq, hq'⟩ | ⟨_, hq'⟩
        · rw [hq]  at goes
          rw [hq', goes.1]
          exact abort_terminateNow h hq
        · rw [hq']; rfl
    | stopped _ _ pc' _ => right; right; rw [pc']; rfl
    | served i _ _ _ flags => exact .inl ((congrArg FlagView.arrived flags).trans hflag)
  · rcases receiver_cases h hs with ⟨_, hpc, hloc⟩ | ⟨ex, goes⟩
    · left; right; left
      rwa [hpc, hloc]
    · rcases (receiver_owes goes).2 hq with hq | hq
      · exact .inl (.inr (.inl hq))
      · exact .inr (receiver_tells ex (.inr hq))
  · rcases stop_cases h hs with ⟨_, hpc⟩ | ⟨ex, goes⟩
    · left; right; right
      rwa [hpc]
    · rcases stop_owes goes hq with hq | hq
      · exact .inl (.inr (.inr hq))
      · exact .inr (stop_tells ex hq)

/-- **There is nothing to do until a thread tells the printers.** -/
theorem nothingToDo_step (h : Reach (program setup) ok (freshState setup) s)
    (hs : step (program setup) s a = some s') (hidle : NothingToDo s) :
    NothingToDo s' ∨ TellsPrinters setup s s' := by
  rcases queue_nothing h hs hidle.queue with hqueue | htells
  · rcases arrivals_nothing h hs hidle.arrivals with harr | htells
    · exact .inl ⟨hqueue, harr⟩
    · exact .inr htells
  · exact .inr htells

/-! ## A printer that is about to wait -/

/-- A printer goes from `checkQueue` to its wait when there is nothing to do. -/
lemma printer_begins {i : Slot} {args : PrinterThreadArgs} {d d' : Data} {q : PrinterPc}
    (h : (printerCode setup i args q).Goes d d' .waitJob) :
    d' = d ∧ d.jobs.queue = [] ∧ d.allJobsArrived = false := by
  cases q with
  | exit => exact h.elim
  | checkQueue =>
      obtain ⟨hd, hq⟩ := h
      rw [id] at hd
      subst hd
      simp only at hq
      split at hq
      · cases hq
      · next hexit =>
        split at hq
        · next hempty =>
          have hnil : d'.jobQueue.list = [] := by simpa [timedQueueIsEmpty] using hempty
          refine ⟨rfl, hnil, ?_⟩
          simp only [isPrinterExitConditionMet, hempty, Bool.and_true, Bool.or_eq_true,
            not_or, Bool.not_eq_true] at hexit
          exact hexit.2
        · cases hq
  | checkPaper | checkRefilled | readTerminateInWait | checkDone =>
      obtain ⟨_, hq⟩ := h
      simp only at hq
      split at hq <;> cases hq
  | _ => cases h.2

/-- A printer about to wait holds the mutex of the queue. -/
lemma waitJob_holds {i : Slot} (h : Reach (program setup) ok (freshState setup) s)
    (ha : (s.ctl (.printer i)).status.alive = true) (hq : s.printerPc i = .waitJob) :
    (lockDiscipline setup).Holds s (.printer i) .jobQueueMutex := by
  have hrun := printer_running h ha (by rw [hq]; nofun) (by rw [hq]; nofun)
  exact printer_holds_queue h hrun hq fun _ => List.mem_singleton_self _

/-- **A printer about to wait has nothing to do**: whoever could tell it otherwise needs the mutex
it holds. -/
theorem waitJob_nothing (h : Reach (program setup) ok (freshState setup) s) (i : Slot) :
    (s.ctl (.printer i)).status.alive = true → s.printerPc i = .waitJob → NothingToDo s := by
  refine h.invariant (I := fun s : Sys => (s.ctl (.printer i)).status.alive = true →
    s.printerPc i = .waitJob → NothingToDo s) (fun ha => by cases ha)
    fun {s s' a} hr ih _ hs ha hq => ?_
  rcases printer_cases hs i with ⟨hex, hpc, _⟩ | ⟨t, _, hc⟩ | ⟨_, _, goes⟩
  · rw [hpc] at hq
    have ha' : (s.ctl (.printer i)).status.alive = true := by
      rcases alive_step hs ha with ha | ⟨t, _, hc⟩
      · exact ha
      · rw [created_printer hc] at hpc
        rw [← hpc] at hq
        cases hq
    have hholds := waitJob_holds hr ha' hq
    refine (nothingToDo_step hr hs (ih ha' hq)).resolve_right ?_
    rintro ⟨t, ex, _, ht⟩
    exact hex ((lockInv hr).exclusive ht hholds ▸ ex)
  · rw [created_printer hc] at hq
    cases hq
  · rw [hq] at goes
    obtain ⟨hd, hqueue, hflag⟩ := printer_begins goes
    exact ⟨.inl (hd ▸ hqueue), .inl (hd ▸ hflag)⟩

/-! ## Printers that wait -/

/-- **There is nothing to do while a printer waits.** -/
theorem waiting_nothing {u : Tid} {m : Mutex}
    (h : Reach (program setup) ok (freshState setup) s)
    (hw : (s.ctl u).status = .waiting .jobQueueNotEmptyCv m) : NothingToDo s := by
  refine waiting_invariant (fun u m hm => ?_) (fun {s s' a u m next} hr _ hs ex hi => ?_)
    (fun {s s' a} hr _ hs hidle => ?_) h hw
  · have := mutex_fresh setup u
    rw [hm] at this
    cases this
  · -- only printers wait for a job, and they do so at `waitJob`
    obtain ⟨i, rfl, hq⟩ : ∃ i, u = .printer i ∧ Sys.printerPc s i = .waitJob := by
      rcases waits_cases hi with ⟨i, rfl, ⟨hq, _⟩ | ⟨_, hc, _⟩⟩ | ⟨_, _, hc, _⟩
      · exact ⟨i, rfl, hq⟩
      · rcases printerArgs_cases hr i with harg | harg <;> rw [harg] at hc <;> cases hc
      · cases hc
    have ha : (s.ctl (.printer i)).status.alive = true := by rw [ex.running]; rfl
    refine (nothingToDo_step hr hs (waitJob_nothing hr i ha hq)).resolve_right ?_
    rintro ⟨t, _, hwakes, ht⟩
    obtain rfl := (lockInv hr).exclusive ht (waitJob_holds hr ha hq)
    rw [hi] at hwakes
    cases hwakes
  · exact (nothingToDo_step hr hs hidle).imp_right fun ⟨t, ex, hwakes, _⟩ => ⟨t, ex, hwakes⟩

/-- **No lost wake-up on the job queue.**  While a printer is blocked on `job_queue_not_empty_cv`
and has not been woken, the job queue is empty outside the receiver's own critical section, and
either `all_jobs_arrived` is 0, or the receiver or the stop handler has set it and has not made its
broadcast. -/
theorem no_lost_wakeup {i : Slot} {m : Mutex} (h : Reach (program setup) ok (freshState setup) s)
    (hw : (s.ctl (.printer i)).status = .waiting .jobQueueNotEmptyCv m) :
    (s.owner .jobQueueMutex ≠ .held .receiver → timedQueueIsEmpty s.data.jobQueue = true) ∧
      (s.data.allJobsArrived = false ∨
        ((s.ctl .receiver).status.alive = true ∧
          s.receiverPc.owesForEnd s.data.receiver.terminateNow = true) ∨
        s.stopPc.owesForEnd = true) := by
  obtain ⟨hqueue, harr⟩ := waiting_nothing h hw
  constructor
  · intro hown
    rcases hqueue with hnil | hq
    · exact List.isEmpty_iff.mpr hnil
    · have hholds := receiver_holds h (ReceiverPc.held_of_owesForJob hq)
      exact absurd (((lockInv h).owner _ _).mpr hholds) hown
  · rcases harr with hflag | hq | hq
    · exact .inl hflag
    · have ha := receiver_alive h (by rintro hq'; rw [hq'] at hq; cases hq)
        (by rintro hq'; rw [hq'] at hq; cases hq) (by rintro hq'; rw [hq'] at hq; cases hq)
      exact .inr (.inl ⟨ha, hq⟩)
    · exact .inr (.inr hq)

/-- A printer waits while a stop request has set `all_jobs_arrived` and has not come to its
broadcast. -/
theorem no_lost_wakeup_during_stop :
    ∃ s : Sys, Reach (program defaultServer) anyChoice (freshState defaultServer) s ∧
      ((s.ctl (.printer 0)).status = .waiting .jobQueueNotEmptyCv .jobQueueMutex ∧
        s.data.allJobsArrived = true ∧ s.owner .jobQueueMutex = .free) ∧
      timedQueueIsEmpty s.data.jobQueue = true ∧ s.stopPc.owesForEnd = true := by
  obtain ⟨s, hs, ⟨hw, hflag, hfree⟩, hrec⟩ := exists_run defaultServer anyChoice
    (runs Tid.main 20 ++ runs (Tid.printer 0) 5 ++ runs Tid.stopper 3)
    (fun s => ((s.ctl (.printer 0)).status = .waiting .jobQueueNotEmptyCv .jobQueueMutex ∧
      s.data.allJobsArrived = true ∧ s.owner .jobQueueMutex = .free) ∧ s.receiverPc = .start)
    (by decide +kernel)
  obtain ⟨hempty, harr⟩ := no_lost_wakeup hs hw
  refine ⟨s, hs, ⟨hw, hflag, hfree⟩, hempty (by rw [hfree]; nofun), ?_⟩
  rw [hflag, hrec] at harr
  simpa [ReceiverPc.owesForEnd] using harr

end Orchestrator
