import Orchestrator.Lifecycle
import Orchestrator.RefillMonitor
import Orchestrator.Stranding

/-!
# No lost wake-up between the printers and the refiller

Without scaling all threads use one mutex for the refill queue, so nobody is told anything between a
thread's last look and its wait.

* `NoEnd` — what is true while the refiller waits: the end is not announced, or the thread that
  announced it has still to wake the refiller.
* `ShortOrOwed` — what is true while a printer waits for paper: it has too little, or the refiller
  brought it some and has still to wake the printer.
* `waiting_noEnd`, `waiting_shortOrOwed` — the results.
-/

namespace Orchestrator

open Pthread Stock

variable {setup : Setup} {s s' : Sys} {a : SysAction} {i : Slot}

/-! ## One mutex -/

/-- **Without scaling all printers share one argument struct.** -/
theorem args_shared (h : Reach (program setup) NoScaling (freshState setup) s) (i : Slot) :
    s.printerArgs i = sharedPrinterArgs := by
  refine h.invariant (I := fun s : Sys => s.printerArgs i = sharedPrinterArgs) rfl
    fun {s s' a} _ ih hok hs => ?_
  rcases printer_cases hs i with ⟨_, _, harg, _⟩ | ⟨t, ex, hc⟩ | ⟨_, harg, _⟩
  · rw [harg]; exact ih
  · exact (created_by_main hok hs ex hc).2.2.2.2
  · rw [harg]; exact ih

/-- Without scaling only initial printers ask for paper. -/
lemma initialsAskForPaper (h : Reach (program setup) NoScaling (freshState setup) s) :
    Reach (program setup) InitialsAskForPaper (freshState setup) s := by
  induction h with
  | refl => exact .refl
  | @tail s s' a hr _ hs ih =>
      refine ih.tail ?_ hs
      cases a with
      | run t =>
          cases t with
          | printer i =>
              intro _ hup
              rw [args_shared hr i] at hup
              cases hup
          | _ => exact trivial
      | _ => exact trivial

/-- Without scaling a printer that is alive stays alive until it exits. -/
lemma printer_stays_alive (h : Reach (program setup) NoScaling (freshState setup) s)
    (hs : step (program setup) s a = some s') (ha : (s.ctl (.printer i)).status.alive = true)
    (hq : s.printerPc i ≠ .exit) : (s'.ctl (.printer i)).status.alive = true := by
  rcases alive_cases hs ha with hstays | hexit | ⟨m, hc⟩ | ⟨hmust, _⟩
  · exact hstays
  · change printerCode setup i (s.printerArgs i) (s.printerPc i) = .exit at hexit
    generalize s.printerPc i = q at hexit hq
    cases q with
    | exit => exact absurd rfl hq
    | _ => cases hexit
  · exact absurd hc (not_cancelled h _ m)
  · rw [Thread.mustCancel, never_pending h i, Bool.and_false] at hmust
    cases hmust

/-! ## What the refiller has to know -/

/-- The stop handler has set the flags and has not woken the refiller. -/
def StopPc.owesSupplier : StopPc → Bool
  | .lockStats | .emitStopped | .unlockStats | .cancelReceiver | .cancelRefiller | .lockQueue
  | .lockStatsDrain | .drain | .notifyPrinters | .unlockStatsDrain | .unlockQueue | .lockRefill
  | .notifyWaiting | .notifyRefiller => true
  | _ => false

/-- The printer has set `all_jobs_served` and has not woken the refiller. -/
def PrinterPc.owesSupplier : PrinterPc → Bool
  | .exitLockRefill | .exitNotifyRefiller => true
  | _ => false

/-- The end is not announced, except for what the refiller is still to be told. -/
structure NoEnd (s : Sys) : Prop where
  stop : s.data.gTerminateNow = false ∨ s.stopPc.owesSupplier = true
  served : s.data.allJobsServed = false ∨
    ∃ i, (s.ctl (.printer i)).status.alive = true ∧ (s.printerPc i).owesSupplier = true

/-- A thread executes a broadcast of `c` with `paper_refill_queue_mutex` held. -/
def Tells (setup : Setup) (c : Cond) (s s' : Sys) : Prop :=
  ∃ t, Executes (program setup) s s' t ∧ (s.instr (program setup) t).wakes = some c ∧
    (lockDiscipline setup).Holds s t .paperRefillQueueMutex

lemma stop_owesSupplier {d d' : Data} {q q' : StopPc} (h : (stopCode setup q).Goes d d' q')
    (hq : q.owesSupplier = true) : q'.owesSupplier = true ∨ q = .notifyRefiller := by
  cases q with
  | notifyRefiller => exact .inr rfl
  | drain =>
      left
      rw [h.2]
      beta_reduce
      split <;> rfl
  | lockStats | emitStopped | unlockStats | cancelReceiver | cancelRefiller | lockQueue
  | lockStatsDrain | notifyPrinters | unlockStatsDrain | unlockQueue | lockRefill
  | notifyWaiting => left; rw [h.2]; rfl
  | _ => cases hq

lemma printer_owesSupplier {args : PrinterThreadArgs} {d d' : Data} {q q' : PrinterPc}
    (h : (printerCode setup i args q).Goes d d' q') (hq : q.owesSupplier = true) :
    q'.owesSupplier = true ∨ q = .exitNotifyRefiller := by
  cases q with
  | exitNotifyRefiller => exact .inr rfl
  | exitLockRefill => left; rw [h.2]; rfl
  | _ => cases hq

lemma stop_noEnd (h : Reach (program setup) NoScaling (freshState setup) s)
    (hs : step (program setup) s a = some s')
    (hstop : s.data.gTerminateNow = false ∨ s.stopPc.owesSupplier = true) :
    (s'.data.gTerminateNow = false ∨ s'.stopPc.owesSupplier = true) ∨
      Tells setup .refillSupplierCv s s' := by
  rcases hstop with hterm | hq
  · left
    cases hterm' : s'.data.gTerminateNow with
    | false => exact .inl rfl
    | true =>
        rcases stop_before hs hterm' with hold | ⟨_, _, hpc'⟩
        · rw [hterm] at hold; cases hold
        · exact .inr (by rw [hpc']; rfl)
  · rcases stop_cases h hs with ⟨_, hpc⟩ | ⟨ex, goes⟩
    · exact .inl (.inr (hpc ▸ hq))
    · rcases stop_owesSupplier goes hq with hq' | hq'
      · exact .inl (.inr hq')
      · refine .inr ⟨_, ex, ?_, Discipline.holds_of_running ex.running ?_⟩
        · show (stopCode setup s.stopPc).wakes = _
          rw [hq']; rfl
        · show Mutex.paperRefillQueueMutex ∈ stopHeld s.stopPc
          rw [hq']; decide

lemma served_noEnd (h : Reach (program setup) NoScaling (freshState setup) s)
    (hs : step (program setup) s a = some s')
    (hserved : s.data.allJobsServed = false ∨
      ∃ i, (s.ctl (.printer i)).status.alive = true ∧ (s.printerPc i).owesSupplier = true) :
    (s'.data.allJobsServed = false ∨ ∃ i, (s'.ctl (.printer i)).status.alive = true ∧
        (s'.printerPc i).owesSupplier = true) ∨ Tells setup .refillSupplierCv s s' := by
  rcases hserved with hflag | ⟨i, ha, hq⟩
  · left
    cases flag_step hs with
    | same flags => exact .inl ((congrArg FlagView.served flags).trans hflag)
    | arrived _ _ flags => exact .inl ((congrArg FlagView.served flags).trans hflag)
    | stopped _ _ _ flags => exact .inl ((congrArg FlagView.served flags).trans hflag)
    | served i ex pc pc' _ =>
        refine .inr ⟨i, printer_stays_alive h hs (by rw [ex.running]; rfl) (by rw [pc]; simp), ?_⟩
        rw [pc']; rfl
  · have halive := printer_stays_alive h hs ha fun hexit => by rw [hexit] at hq; cases hq
    rcases printer_cases hs i with ⟨_, hpc, _⟩ | ⟨t, _, hc⟩ | ⟨ex, _, goes⟩
    · exact .inl (.inr ⟨i, halive, hpc ▸ hq⟩)
    · have hdead := hc.notAlive
      rw [ha] at hdead
      cases hdead
    · rcases printer_owesSupplier goes hq with hq' | hq'
      · exact .inl (.inr ⟨i, halive, hq'⟩)
      · refine .inr ⟨_, ex, ?_, Discipline.holds_of_running ex.running ?_⟩
        · show (printerCode setup i (s.printerArgs i) (s.printerPc i)).wakes = _
          rw [hq', args_shared h i]; rfl
        · show Mutex.paperRefillQueueMutex ∈ printerHeld (s.printerArgs i) (s.printerPc i)
          rw [hq', args_shared h i]; decide

/-- **The end is not announced until a thread tells the refiller.** -/
theorem noEnd_step (h : Reach (program setup) NoScaling (freshState setup) s)
    (hs : step (program setup) s a = some s') (hno : NoEnd s) :
    NoEnd s' ∨ Tells setup .refillSupplierCv s s' := by
  rcases stop_noEnd h hs hno.stop with hstop | htells
  · rcases served_noEnd h hs hno.served with hserved | htells
    · exact .inl ⟨hstop, hserved⟩
    · exact .inr htells
  · exact .inr htells

/-- The refiller is on its way to its wait and has seen that nothing is over. -/
def RefillerPc.sure (q : RefillerPc) (d : Data) : Bool :=
  match q with
  | .checkFlags => !(d.refiller.terminateNow || d.refiller.areAllJobsServed)
  | .checkRequests | .waitRequest => true
  | _ => false

/-- The refiller becomes sure when it reads the flags, and stays so until its wait. -/
lemma sure_of_goes {d d' : Data} {q q' : RefillerPc} (h : (refillerCode setup q).Goes d d' q')
    (hq' : q'.sure d' = true) :
    (d'.gTerminateNow = false ∧ d'.allJobsServed = false) ∨
      (q.sure d = true ∧ (refillerCode setup q).wakes = none) := by
  cases q with
  | exit => exact h.elim
  | readFlags =>
      obtain ⟨rfl, rfl⟩ := h
      left
      simpa [RefillerPc.sure, Refiller.readFlags, Data.modifyRefiller] using hq'
  | checkFlags =>
      obtain ⟨rfl, rfl⟩ := h
      right
      refine ⟨?_, rfl⟩
      cases hover : (d'.refiller.terminateNow || d'.refiller.areAllJobsServed) with
      | false => simp only [RefillerPc.sure, hover]; rfl
      | true =>
          have hexit : (RefillerPc.exitNotifyPrinters).sure d' = true := by
            simpa only [id, hover, if_true] using hq'
          cases hexit
  | checkRequests =>
      obtain ⟨rfl, rfl⟩ := h
      exact .inr ⟨rfl, rfl⟩
  | computeNeed =>
      rw [h.2] at hq'
      beta_reduce at hq'
      split at hq' <;> cases hq'
  | _ => rw [h.2] at hq'; cases hq'

/-- A refiller that is sure holds the mutex of the refill queue. -/
lemma sure_holds (h : Reach (program setup) NoScaling (freshState setup) s)
    (hq : s.refillerPc.sure s.data = true) :
    (lockDiscipline setup).Holds s .refiller .paperRefillQueueMutex := by
  have ha := refiller_alive h (by rintro hq'; rw [hq'] at hq; cases hq)
    (by rintro hq'; rw [hq'] at hq; cases hq) (by rintro hq'; rw [hq'] at hq; cases hq)
  have hrun := refiller_running h ha (by rintro hq'; rw [hq'] at hq; cases hq)
  refine Discipline.holds_of_running hrun ?_
  show Mutex.paperRefillQueueMutex ∈ refillerHeld s.refillerPc
  generalize s.refillerPc = q at hq
  cases q with
  | checkFlags | checkRequests | waitRequest => decide
  | _ => cases hq

/-- **A refiller about to wait has missed nothing.** -/
theorem sure_noEnd (h : Reach (program setup) NoScaling (freshState setup) s) :
    s.refillerPc.sure s.data = true → NoEnd s := by
  refine h.invariant (I := fun s : Sys => s.refillerPc.sure s.data = true → NoEnd s)
    (fun hq => by cases hq) fun {s s' a} hr ih _ hs hq => ?_
  rcases refiller_cases hr hs with ⟨hex, hpc, hloc⟩ | ⟨ex, goes⟩
  · have hold : (Sys.refillerPc s).sure s.data = true := by
      rw [hpc] at hq
      simpa only [RefillerPc.sure, hloc] using hq
    refine (noEnd_step hr hs (ih hold)).resolve_right ?_
    rintro ⟨t, ex, _, ht⟩
    exact hex ((lockInv hr).exclusive ht (sure_holds hr hold) ▸ ex)
  · rcases sure_of_goes goes hq with ⟨hterm, hserved⟩ | ⟨hold, hquiet⟩
    · exact ⟨.inl hterm, .inl hserved⟩
    · refine (noEnd_step hr hs (ih hold)).resolve_right ?_
      rintro ⟨t, _, hwakes, ht⟩
      obtain rfl := (lockInv hr).exclusive ht (sure_holds hr hold)
      change (refillerCode setup (Sys.refillerPc s)).wakes = _ at hwakes
      rw [hquiet] at hwakes
      cases hwakes

/-- **The refiller does not sleep through the end.** -/
theorem waiting_noEnd {m : Mutex} (h : Reach (program setup) NoScaling (freshState setup) s)
    (hw : (s.ctl .refiller).status = .waiting .refillSupplierCv m) : NoEnd s := by
  refine thread_waiting_invariant (fun m hm => by cases hm)
    (fun {s s' a m next} hr _ hs ex hi => ?_)
    (fun {s s' a m} hr _ hs _ hno => (noEnd_step hr hs hno).imp_right
      fun ⟨t, ex, hwakes, _⟩ => ⟨t, ex, hwakes⟩) h hw
  have hq : Sys.refillerPc s = .waitRequest := by
    rcases waits_cases hi with ⟨i, hu, _⟩ | ⟨_, hq, _⟩
    · cases hu
    · exact hq
  have hsure : (Sys.refillerPc s).sure s.data = true := by rw [hq]; rfl
  refine (noEnd_step hr hs (sure_noEnd hr hsure)).resolve_right ?_
  rintro ⟨t, _, hwakes, ht⟩
  obtain rfl := (lockInv hr).exclusive ht (sure_holds hr hsure)
  rw [hi] at hwakes
  cases hwakes

/-! ## What a waiting printer has to know -/

/-- The refiller has brought paper and has not woken the printers. -/
def RefillerPc.owesPaper : RefillerPc → Bool
  | .lockStats | .recordRefill | .emitStats | .unlockStats | .doneLockRefill
  | .doneNotifyPrinters => true
  | _ => false

/-- Printer `i` has too little paper, except for what it is still to be told. -/
def ShortOrOwed (s : Sys) (i : Slot) : Prop :=
  lacksPaper s.data i = true ∨ s.refillerPc.owesPaper = true

lemma refiller_owesPaper {d d' : Data} {q q' : RefillerPc} (h : (refillerCode setup q).Goes d d' q')
    (hq : q.owesPaper = true) : q'.owesPaper = true ∨ q = .doneNotifyPrinters := by
  cases q with
  | doneNotifyPrinters => exact .inr rfl
  | lockStats | recordRefill | emitStats | unlockStats | doneLockRefill => left; rw [h.2]; rfl
  | _ => cases hq

/-- A printer that lacks paper lacks it until the refiller brings some. -/
lemma short_step (hs : step (program setup) s a = some s')
    (hex : ¬Executes (program setup) s s' (.printer i)) (hshort : lacksPaper s.data i = true) :
    ShortOrOwed s' i := by
  have hlocal := printer_unchanged hs hex
  have hsame : s'.data.papers.level i = s.data.papers.level i → ShortOrOwed s' i := fun hlevel => by
    have hlevel' : (s'.data.slot i).currentPaperCount = (s.data.slot i).currentPaperCount := hlevel
    left
    rw [lacksPaper, decide_eq_true_iff] at hshort ⊢
    rwa [hlevel', hlocal]
  cases paper_step hs with
  | same papers => exact hsame (by rw [papers])
  | request j _ _ papers => exact hsame (by rw [papers])
  | use j ex _ data =>
      have hne : i ≠ j := by rintro rfl; exact hex ex
      refine hsame ?_
      rw [data, usePaper_papers]
      simp [hne]
  | pop _ _ data => exact hsame (by rw [data, popRequest_papers])
  | add ex pc _ =>
      have goes : (refillerCode setup s.refillerPc).Goes s.data s'.data s'.refillerPc := ex.goes
      rw [pc] at goes
      exact .inr (by rw [goes.2]; rfl)
  | book _ _ data => exact hsame (by rw [data, recordRefill_papers])

/-- **A printer is short until a thread tells it otherwise.** -/
theorem shortOrOwed_step (h : Reach (program setup) NoScaling (freshState setup) s)
    (hs : step (program setup) s a = some s')
    (hex : ¬Executes (program setup) s s' (.printer i)) (hshort : ShortOrOwed s i) :
    ShortOrOwed s' i ∨ Tells setup .refillNeededCv s s' := by
  rcases hshort with hlacks | hq
  · exact .inl (short_step hs hex hlacks)
  · rcases refiller_cases h hs with ⟨_, hpc, _⟩ | ⟨ex, goes⟩
    · exact .inl (.inr (hpc ▸ hq))
    · rcases refiller_owesPaper goes hq with hq' | hq'
      · exact .inl (.inr hq')
      · refine .inr ⟨_, ex, ?_, Discipline.holds_of_running ex.running ?_⟩
        · show (refillerCode setup s.refillerPc).wakes = _
          rw [hq']; rfl
        · show Mutex.paperRefillQueueMutex ∈ refillerHeld s.refillerPc
          rw [hq']; decide

/-- A printer goes to its wait for paper when it has too little. -/
lemma printer_begins_paper {args : PrinterThreadArgs} {d d' : Data} {q : PrinterPc}
    (h : (printerCode setup i args q).Goes d d' .waitPaper) : lacksPaper d' i = true := by
  cases q with
  | exit => exact h.elim
  | checkRefilled =>
      obtain ⟨rfl, hq⟩ := h
      beta_reduce at hq
      split at hq
      · next hlacks => exact hlacks
      · cases hq
  | checkQueue | checkPaper | readTerminateInWait | checkDone =>
      have hq := h.2
      beta_reduce at hq
      split at hq <;> (try split at hq) <;> cases hq
  | _ => cases h.2

/-- A printer about to wait for paper holds the mutex of the refill queue. -/
lemma waitPaper_holds (h : Reach (program setup) NoScaling (freshState setup) s)
    (ha : (s.ctl (.printer i)).status.alive = true) (hq : s.printerPc i = .waitPaper) :
    (lockDiscipline setup).Holds s (.printer i) .paperRefillQueueMutex := by
  have hrun := printer_running h ha (by rw [hq]; simp) (by rw [hq]; simp)
  refine Discipline.holds_of_running hrun ?_
  show Mutex.paperRefillQueueMutex ∈ printerHeld (s.printerArgs i) (s.printerPc i)
  rw [hq, args_shared h i]
  decide

/-- **A printer about to wait for paper has missed nothing.** -/
theorem waitPaper_shortOrOwed (h : Reach (program setup) NoScaling (freshState setup) s)
    (i : Slot) : (s.ctl (.printer i)).status.alive = true → s.printerPc i = .waitPaper →
      ShortOrOwed s i := by
  refine h.invariant (I := fun s : Sys => (s.ctl (.printer i)).status.alive = true →
    s.printerPc i = .waitPaper → ShortOrOwed s i) (fun ha => by cases ha)
    fun {s s' a} hr ih _ hs ha hq => ?_
  rcases printer_cases hs i with ⟨hex, hpc, _⟩ | ⟨t, _, hc⟩ | ⟨_, _, goes⟩
  · rw [hpc] at hq
    have ha' : (s.ctl (.printer i)).status.alive = true := by
      rcases alive_step hs ha with ha | ⟨t, _, hc⟩
      · exact ha
      · rw [created_printer hc] at hpc
        rw [← hpc] at hq
        cases hq
    refine (shortOrOwed_step hr hs hex (ih ha' hq)).resolve_right ?_
    rintro ⟨t, ex, _, ht⟩
    exact hex ((lockInv hr).exclusive ht (waitPaper_holds hr ha' hq) ▸ ex)
  · rw [created_printer hc] at hq
    cases hq
  · rw [hq] at goes
    exact .inl (printer_begins_paper goes)

/-- **No printer sleeps through its refill.** -/
theorem waiting_shortOrOwed {m : Mutex}
    (h : Reach (program setup) NoScaling (freshState setup) s)
    (hw : (s.ctl (.printer i)).status = .waiting .refillNeededCv m) : ShortOrOwed s i := by
  refine thread_waiting_invariant (I := fun s : Sys => ShortOrOwed s i) (fun m hm => by cases hm)
    (fun {s s' a m next} hr _ hs ex hi => ?_) (fun {s s' a m} hr _ hs hwait hshort => ?_) h hw
  · have hq := waitPaper_of_wait hr hi
    obtain ⟨_, hd, hctl⟩ := waitPaper_step hs ex hq
    have hshort := waitPaper_shortOrOwed hr i (by rw [ex.running]; rfl) hq
    rw [ShortOrOwed, hd, Sys.refillerPc, hctl .refiller (by simp)]
    exact hshort
  · have hex : ¬Executes (program setup) s s' (.printer i) := fun ex => by
      have hrun := ex.running
      rw [hwait] at hrun
      cases hrun
    rcases shortOrOwed_step hr hs hex hshort with hstill | ⟨t, ht, hwakes, _⟩
    · exact .inl hstill
    · exact .inr ⟨t, ht, hwakes⟩

end Orchestrator
