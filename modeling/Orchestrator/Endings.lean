import Orchestrator.Conservation
import Orchestrator.WakeUps

/-!
# How a run ends

Without a stop request the first printer that exits has seen the end of the arrivals and an empty
queue.  With one, the stop handler empties the queue, but the receiver reads the terminate flag
before it takes the queue's mutex, and the command line program may cancel the stop handler before
it has come to the queue.

* `DrainsLast` — no job joins the queue after the stop handler has emptied it, and the handler is
  not cancelled before.
* `Attended` — there was somebody to take the jobs.
* `nothing_left_behind` — then a run that has ended leaves no job in the queue.
* `job_left_behind` — without any one of these conditions a job stays there.
-/

namespace Orchestrator

open Pthread

variable {setup : Setup} {s s' : Sys} {a : SysAction} {ok : Sys → SysAction → Prop}

/-! ## The stop handler's drain -/

/-- The stop handler has begun to handle a request and has not emptied the queue. -/
def StopPc.willDrain : StopPc → Bool
  | .lockState | .setFlags | .lockStats | .emitStopped | .unlockStats | .cancelReceiver
  | .cancelRefiller | .lockQueue | .lockStatsDrain | .drain => true
  | _ => false

/-- No printer is cancelled, no job joins the queue between the last time the stop handler empties
it and the end of the run, and the stop handler is not cancelled before it has emptied it. -/
def DrainsLast (s : Sys) : SysAction → Prop
  | .accept (.printer _) => False
  | .accept .stopper => s.stopPc.willDrain = false
  | .run .receiver =>
      s.receiverPc = .enqueue → s.data.gTerminateNow = true → s.stopPc.willDrain = true
  | _ => True

instance (s : Sys) (a : SysAction) : Decidable (DrainsLast s a) :=
  match a with
  | .accept (.printer _) => isFalse id
  | .accept .stopper => inferInstanceAs (Decidable (s.stopPc.willDrain = false))
  | .run .receiver => inferInstanceAs (Decidable
      (s.receiverPc = .enqueue → s.data.gTerminateNow = true → s.stopPc.willDrain = true))
  | .accept .main | .accept .receiver | .accept .refiller | .accept .autoscaler => isTrue trivial
  | .run .main | .run .stopper | .run .refiller | .run .autoscaler | .run (.printer _) =>
      isTrue trivial
  | .spurious _ | .env _ => isTrue trivial

/-- The stop handler's drain ends with an empty queue. -/
lemma willDrain_of_goes {d d' : Data} {q q' : StopPc} (h : (stopCode setup q).Goes d d' q')
    (hq : q.willDrain = true) : q'.willDrain = true ∨ d'.jobs.queue = [] := by
  cases q with
  | drain =>
      obtain ⟨hd, hq'⟩ := h
      rw [← hd] at hq'
      simp only at hq'
      split at hq'
      · next hempty => exact .inr (List.isEmpty_iff.mp hempty)
      · left; rw [hq']; rfl
  | lockState | setFlags | lockStats | emitStopped | unlockStats | cancelReceiver | cancelRefiller
  | lockQueue | lockStatsDrain => left; rw [h.2]; rfl
  | _ => cases hq

/-- The receiver joins a job to the queue in its own step. -/
lemma run_of_join (hs : step (program setup) s a = some s')
    (ex : Executes (program setup) s s' .receiver) (hq : s.receiverPc = .enqueue) :
    a = .run .receiver := by
  have goes : (receiverCode setup s.receiverPc).Goes s.data s'.data s'.receiverPc := ex.goes
  refine run_of_moves hs ex fun hpc => ?_
  rw [hq] at goes
  rw [← Sys.receiverPc, ← Sys.receiverPc, goes.2, hq] at hpc
  cases hpc

/-- **After a stop request the queue is empty**, or the stop handler is going to empty it. -/
theorem drained (h : Reach (program setup) DrainsLast (freshState setup) s) :
    s.data.gTerminateNow = true → s.stopPc.willDrain = true ∨ s.data.jobs.queue = [] := by
  refine h.invariant (I := fun s : Sys => s.data.gTerminateNow = true →
    s.stopPc.willDrain = true ∨ s.data.jobs.queue = []) (fun hi => by cases hi)
    fun {s s' a} hr ih hok hs hterm' => ?_
  have hdrain : (Sys.stopPc s).willDrain = true →
      (Sys.stopPc s').willDrain = true ∨ s'.data.jobs.queue = [] := fun hq => by
    rcases stop_cases hr hs with ⟨_, hpc⟩ | ⟨_, goes⟩
    · exact .inl (hpc ▸ hq)
    · exact willDrain_of_goes goes hq
  rcases stop_before hs hterm' with hterm | ⟨_, _, pc'⟩
  · rcases ih hterm with hq | hnil
    · exact hdrain hq
    · cases queue_step hr hs with
      | same queue => exact .inr (queue.trans hnil)
      | join ex pc _ =>
          obtain rfl := run_of_join hs ex pc
          exact hdrain (hok pc hterm)
      | leave _ _ _ _ job queue => rw [hnil] at queue; cases queue
  · left
    rw [pc']
    rfl

/-- A stop handler that has ended has emptied the queue, or had nothing to do. -/
theorem drained_of_ended (h : Reach (program setup) DrainsLast (freshState setup) s) :
    (s.ctl .stopper).status.alive = false → s.stopPc.willDrain = false := by
  refine h.invariant (I := fun s : Sys =>
    (s.ctl .stopper).status.alive = false → s.stopPc.willDrain = false) (fun _ => rfl)
    fun {s s' a} hr ih hok hs hdead => ?_
  cases thread_step hs .stopper with
  | same ctl => rw [ctl] at hdead; rw [Sys.stopPc, ctl]; exact ih hdead
  | exec ex =>
      rcases (s.instr (program setup) .stopper).statusAfter_cases with hst | ⟨c, m, q, _, hst⟩ <;>
        rw [ex.status, hst] at hdead <;> cases hdead
  | created t _ _ hc => rw [hc.fresh] at hdead; cases hdead
  | asked t _ _ ctl => rw [ctl] at hdead; rw [Sys.stopPc, ctl]; exact ih hdead
  | woken c m _ ctl => rw [ctl] at hdead; cases hdead
  | resume m _ ctl => rw [ctl] at hdead; cases hdead
  | exit _ hi ctl =>
      change stopCode setup (Sys.stopPc s) = .exit at hi
      rw [Sys.stopPc, ctl]
      show (Sys.stopPc s).willDrain = false
      generalize Sys.stopPc s = q at *
      cases q <;> first | rfl | cases hi
  | die m hw _ =>
      obtain ⟨c, q, hq⟩ := waitPlace_fresh hr .stopper m (by rw [hw]; rfl)
      exact absurd hq (stopCode_ne_wait setup q c m _)
  | killed _ _ _ ctl => rw [Sys.stopPc, ctl]; exact hok
  | caught m _ _ ctl => rw [ctl] at hdead; cases hdead

/-! ## Printers that exit -/

/-- The printer is on its way out. -/
def PrinterPc.leaving : PrinterPc → Bool
  | .exitUnlockQueue | .abortUnlockRefill | .exitLockState | .exitSetServed | .exitLockRefill
  | .exitNotifyRefiller | .exitNotifyPrinters | .exitUnlockRefill | .exitCancelRefiller
  | .exit => true
  | _ => false

/-- There will be no more work: a stop was requested, or the last job has arrived and the queue is
empty. -/
def WorkOver (d : Data) : Prop :=
  d.gTerminateNow = true ∨ (d.allJobsArrived = true ∧ d.jobs.queue = [])

/-- Without a stop request the work is over when the last job has arrived and the queue is empty. -/
lemma WorkOver.without_stop {d : Data} (h : WorkOver d) (hterm : d.gTerminateNow = false) :
    d.allJobsArrived = true ∧ d.jobs.queue = [] :=
  h.resolve_left (by rw [hterm]; decide)

/-- The receiver sets `all_jobs_arrived` behind its last job, or because of a stop request. -/
theorem announced_of_arrived (h : Reach (program setup) ok (freshState setup) s) :
    s.data.allJobsArrived = true → s.data.gTerminateNow = true ∨ s.receiverPc.announced = true := by
  refine h.invariant (I := fun s : Sys => s.data.allJobsArrived = true →
    s.data.gTerminateNow = true ∨ s.receiverPc.announced = true) (fun hi => by cases hi)
    fun {s s' a} hr ih _ hs harr' => ?_
  have hterm := (flags_mono hs).1
  have hview : s'.data.flags.arrived = true := harr'
  have hsame : s.data.allJobsArrived = true →
      s'.data.gTerminateNow = true ∨ (Sys.receiverPc s').announced = true := fun harr => by
    rcases ih harr with hi | hq
    · exact .inl (hterm hi)
    · right
      rcases receiver_cases hr hs with ⟨_, hpc, _⟩ | ⟨_, goes⟩
      · rw [hpc]; exact hq
      · exact announced_stays goes hq
  cases flag_step hs with
  | same flags => rw [flags] at hview; exact hsame hview
  | served _ _ _ _ flags => rw [flags] at hview; exact hsame hview
  | stopped _ _ _ flags => exact .inl (congrArg FlagView.terminateNow flags)
  | arrived _ pc flags =>
      rcases pc with ⟨hq, _⟩ | ⟨_, hq'⟩
      · exact .inl (hterm ((readsSound hr).receiverTerminate (abort_terminateNow hr hq)))
      · right; rw [hq']; rfl

/-- When the work is over, it stays so. -/
lemma WorkOver.step (h : WorkOver s.data) (hr : Reach (program setup) ok (freshState setup) s)
    (hs : step (program setup) s a = some s') : WorkOver s'.data := by
  obtain ⟨hterm, harr, _⟩ := flags_mono hs
  rcases h with hi | ⟨hi, hnil⟩
  · exact .inl (hterm hi)
  · cases queue_step hr hs with
    | same queue => exact .inr ⟨harr hi, queue.trans hnil⟩
    | join ex pc _ =>
        -- a receiver that has announced the end joins no job
        refine .inl (hterm ((announced_of_arrived hr hi).resolve_right ?_))
        rw [pc]
        decide
    | leave _ _ _ _ job queue => rw [hnil] at queue; cases queue

/-- A printer starts to leave for one of three reasons. -/
lemma leaving_of_goes {i : Slot} {args : PrinterThreadArgs} {d d' : Data} {q q' : PrinterPc}
    (h : (printerCode setup i args q).Goes d d' q') (hq' : q'.leaving = true) :
    q.leaving = true ∨ (d'.printer i).terminate = true ∨
      ((d'.allJobsArrived = true ∨ (d'.printer i).haveAllJobsArrived = true) ∧
        d'.jobs.queue = []) := by
  cases q with
  | exit => exact h.elim
  | checkQueue =>
      right
      obtain ⟨rfl, hq⟩ := h
      simp only [id] at hq ⊢
      split at hq
      · next hexit =>
        rw [Bool.or_eq_true, isPrinterExitConditionMet, Bool.and_eq_true] at hexit
        exact hexit.imp_right fun hmet => ⟨.inl hmet.1, List.isEmpty_iff.mp hmet.2⟩
      · split at hq <;> rw [hq] at hq' <;> cases hq'
  | checkDone =>
      right; right
      obtain ⟨rfl, hq⟩ := h
      simp only [id] at hq ⊢
      split at hq
      · next hexit =>
        rw [isPrinterExitConditionMet, Bool.and_eq_true] at hexit
        exact ⟨.inr hexit.1, List.isEmpty_iff.mp hexit.2⟩
      · rw [hq] at hq'; cases hq'
  | readTerminateInWait =>
      right; left
      obtain ⟨hd, hq⟩ := h
      rw [← hd] at hq
      rw [hq] at hq'
      simp only at hq'
      split at hq'
      · assumption
      · cases hq'
  | exitUnlockQueue | abortUnlockRefill | exitLockState | exitSetServed | exitLockRefill
  | exitNotifyRefiller | exitNotifyPrinters | exitUnlockRefill | exitCancelRefiller =>
      exact .inl rfl
  | checkPaper | checkRefilled =>
      obtain ⟨_, rfl⟩ := h
      simp only at hq'
      split at hq' <;> cases hq'
  | _ => rw [h.2] at hq'; cases hq'

/-- **A printer leaves when the work is over.** -/
theorem workOver_of_leaving (h : Reach (program setup) ok (freshState setup) s) (i : Slot) :
    (s.printerPc i).leaving = true → WorkOver s.data := by
  refine h.invariant (I := fun s : Sys => (s.printerPc i).leaving = true → WorkOver s.data)
    (fun hq => by cases hq) fun {s s' a} hr ih hok hs hq => ?_
  rcases printer_cases hs i with ⟨_, hpc, _⟩ | ⟨t, _, hc⟩ | ⟨_, _, goes⟩
  · exact (ih (hpc ▸ hq)).step hr hs
  · rw [created_printer hc] at hq; cases hq
  · have hreads := readsSound (hr.tail hok hs)
    rcases leaving_of_goes goes hq with hq | hterm | ⟨harr | harr, hnil⟩
    · exact (ih hq).step hr hs
    · exact .inl (hreads.printerTerminate i hterm)
    · exact .inr ⟨harr, hnil⟩
    · exact .inr ⟨hreads.printerArrived i harr, hnil⟩

/-! ## The end -/

/-- Every thread that moves jobs has terminated: the receiver, all printers, and the stop handler,
which in the server is back in the event loop. -/
structure RunOver (s : Sys) : Prop where
  receiver : (s.ctl .receiver).status = .ended
  printers : ∀ i, (s.ctl (.printer i)).status.alive = false
  stopper : (s.ctl .stopper).status.alive = false ∨ s.stopPc = .idle

instance (s : Sys) : Decidable (RunOver s) :=
  decidable_of_iff
    ((s.ctl .receiver).status = .ended ∧ (∀ i, (s.ctl (.printer i)).status.alive = false) ∧
      ((s.ctl .stopper).status.alive = false ∨ s.stopPc = .idle))
    ⟨fun ⟨hr, hp, hst⟩ => ⟨hr, hp, hst⟩, fun ⟨hr, hp, hst⟩ => ⟨hr, hp, hst⟩⟩

/-- A printer has been created, or a stop was requested.  With a consumer count of 0, or where every
`pthread_create` of a printer fails, nobody else takes the jobs out of the queue. -/
def Attended (s : Sys) : Prop :=
  (∃ i, (s.ctl (.printer i)).status ≠ .absent) ∨ s.data.gTerminateNow = true

instance (s : Sys) : Decidable (Attended s) :=
  inferInstanceAs (Decidable
    ((∃ i, (s.ctl (.printer i)).status ≠ .absent) ∨ s.data.gTerminateNow = true))

/-- **Nothing is left behind** when a run is over in which the stop handler's drain comes last, if
there was a printer or a stop request. -/
theorem nothing_left_behind (h : Reach (program setup) DrainsLast (freshState setup) s)
    (hover : RunOver s) (hattended : Attended s) :
    s.data.jobQueue.list = [] ∧
      s.data.stats.totalJobsArrived = s.data.stats.totalJobsServed +
        s.data.stats.totalJobsDropped + s.data.stats.totalJobsRemoved := by
  have hno : Reach (program setup) NoPrinterCancelled (freshState setup) s :=
    h.mono fun s a hok i hi => by rw [hi] at hok; exact hok
  have hdone : s.stopPc.willDrain = false := by
    rcases hover.stopper with hdead | hidle
    · exact drained_of_ended h hdead
    · rw [hidle]; rfl
  have hstopped : s.data.gTerminateNow = true → s.data.jobQueue.list = [] := fun hterm => by
    refine (drained h hterm).resolve_left ?_
    rw [hdone]
    decide
  have hnil : s.data.jobQueue.list = [] := by
    rcases hattended with ⟨i, hcreated⟩ | hterm
    · have hdead := hover.printers i
      have hleft : (s.printerPc i).leaving = true := by
        cases hst : (s.ctl (.printer i)).status with
        | absent => exact absurd hst hcreated
        | ended => rw [(place_of_not_alive hno).2 hst]; rfl
        | _ => rw [hst] at hdead; cases hdead
      rcases workOver_of_leaving h i hleft with hterm | ⟨_, hnil⟩
      · exact hstopped hterm
      · exact hnil
    · exact hstopped hterm
  refine ⟨hnil, ?_⟩
  have hbusy : busyPrinters s = ∅ :=
    Finset.filter_eq_empty_iff.mpr fun i _ => by
      rw [holdsJob_of_not_alive hno (hover.printers i)]
      decide
  have hpending : s.receiverPc.holdsJob = false := by
    by_contra hq
    have ha := receiver_alive h (by rintro hq'; rw [hq'] at hq; exact hq rfl)
      (by rintro hq'; rw [hq'] at hq; exact hq rfl) (by rintro hq'; rw [hq'] at hq; exact hq rfl)
    rw [hover.receiver] at ha
    cases ha
  have hcons := counts_of_conserved hno (station_conserved hno)
  rw [timedQueueLength, hnil, hbusy, hpending] at hcons
  simpa using hcons

/-- A stop request finds one job in the queue and the receiver asleep. -/
theorem nothing_left_behind_after_stop :
    ∃ s : Sys, Reach (program defaultServer) DrainsLast (freshState defaultServer) s ∧
      s.data.gTerminateNow = true ∧ s.data.stats.totalJobsRemoved = 1 ∧
      s.data.jobQueue.list = [] ∧
      s.data.stats.totalJobsArrived = s.data.stats.totalJobsServed +
        s.data.stats.totalJobsDropped + s.data.stats.totalJobsRemoved := by
  obtain ⟨s, hs, hover, hterm, hremoved⟩ := exists_run defaultServer DrainsLast
    (runs Tid.main 20 ++ runs Tid.receiver 23 ++ runs Tid.stopper 18 ++
      [Action.accept Tid.receiver] ++ runs Tid.stopper 1 ++ runs (Tid.printer 0) 13 ++
      runs (Tid.printer 1) 13)
    (fun s => RunOver s ∧ s.data.gTerminateNow = true ∧ s.data.stats.totalJobsRemoved = 1)
    (by decide +kernel)
  exact ⟨s, hs, hterm, hremoved, nothing_left_behind hs hover (.inr hterm)⟩

/-- A run of the server without printers and with one job. -/
def nobodyServes : Setup :=
  ⟨.server, { simulationDefaultParamsHighLoad with consumerCount := 0, numJobs := 1 }⟩

/-- **A job is left behind.**  In the server, the receiver has found `g_terminate_now` unset and
puts its job into the queue after the stop handler has emptied it.  In the command line program, the
main thread cancels the signal catching thread before it has come to the queue.  And with no printer
to be created the job just stays. -/
theorem job_left_behind :
    (∃ s : Sys, Reach (program defaultServer) NoPrinterCancelled (freshState defaultServer) s ∧
      RunOver s ∧ s.data.jobQueue.list.map Job.id = [1] ∧
      s.data.stats.totalJobsArrived = 1 ∧ s.data.stats.totalJobsServed = 0 ∧
      s.data.stats.totalJobsDropped = 0 ∧ s.data.stats.totalJobsRemoved = 0) ∧
    (∃ s : Sys, Reach (program defaultCli) NoPrinterCancelled (freshState defaultCli) s ∧
      RunOver s ∧ s.data.jobQueue.list.map Job.id = [1] ∧
      s.data.stats.totalJobsArrived = 1 ∧ s.data.stats.totalJobsServed = 0 ∧
      s.data.stats.totalJobsDropped = 0 ∧ s.data.stats.totalJobsRemoved = 0) ∧
    ∃ s : Sys, Reach (program nobodyServes) DrainsLast (freshState nobodyServes) s ∧
      RunOver s ∧ ¬Attended s ∧ s.data.jobQueue.list.map Job.id = [1] ∧
      s.data.stats.totalJobsArrived = 1 ∧ s.data.stats.totalJobsServed = 0 ∧
      s.data.stats.totalJobsDropped = 0 ∧ s.data.stats.totalJobsRemoved = 0 :=
  ⟨exists_run defaultServer NoPrinterCancelled
      (runs Tid.main 20 ++ runs Tid.receiver 12 ++ runs Tid.stopper 18 ++ runs Tid.receiver 11 ++
        [Action.accept Tid.receiver] ++ runs Tid.stopper 1 ++ runs (Tid.printer 0) 13 ++
        runs (Tid.printer 1) 13)
      (fun s => RunOver s ∧ s.data.jobQueue.list.map Job.id = [1] ∧
        s.data.stats.totalJobsArrived = 1 ∧ s.data.stats.totalJobsServed = 0 ∧
        s.data.stats.totalJobsDropped = 0 ∧ s.data.stats.totalJobsRemoved = 0)
      (by decide +kernel),
    exists_run defaultCli NoPrinterCancelled
      (runs Tid.main 21 ++ runs Tid.receiver 23 ++ runs Tid.stopper 3 ++ runs Tid.receiver 11 ++
        runs (Tid.printer 0) 13 ++ runs (Tid.printer 1) 13 ++ runs Tid.refiller 8 ++
        runs Tid.autoscaler 3 ++ runs Tid.main 20 ++ runs Tid.stopper 1 ++
        [Action.accept Tid.stopper])
      (fun s => RunOver s ∧ s.data.jobQueue.list.map Job.id = [1] ∧
        s.data.stats.totalJobsArrived = 1 ∧ s.data.stats.totalJobsServed = 0 ∧
        s.data.stats.totalJobsDropped = 0 ∧ s.data.stats.totalJobsRemoved = 0)
      (by decide +kernel),
    exists_run nobodyServes DrainsLast (runs Tid.main 6 ++ runs Tid.receiver 28 ++ runs Tid.main 2)
      (fun s => RunOver s ∧ ¬Attended s ∧ s.data.jobQueue.list.map Job.id = [1] ∧
        s.data.stats.totalJobsArrived = 1 ∧ s.data.stats.totalJobsServed = 0 ∧
        s.data.stats.totalJobsDropped = 0 ∧ s.data.stats.totalJobsRemoved = 0)
      (by decide +kernel)⟩

end Orchestrator
