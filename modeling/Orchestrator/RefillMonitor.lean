import Orchestrator.PaperFlow

/-!
# The paper refill queue as a monitor

The refiller and the printers that `main` starts work on the paper refill queue under
`paper_refill_queue_mutex`.  A printer that `scale_up` starts was given `job_queue_mutex` in its
place.

* `InRefillSection` — a thread is inside a section that appends to or pops from the queue.
* `InitialsAskForPaper` — no printer started by `scale_up` finds too little paper.
* `refill_monitor` — under this condition the queue is a correct monitor.
* `refill_monitor_broken` — without it two threads are inside, and a request is not heard.
-/

namespace Orchestrator

open Pthread

variable {setup : Setup} {s s' : Sys} {a : SysAction} {ok : Sys → SysAction → Prop}

/-! ## Sections -/

/-- The branch of a printer that has too little paper. -/
def PrinterPc.asksForPaper : PrinterPc → Bool
  | .noPaperUnlockQueue | .lockRefill | .emitPaperEmpty | .appendRequest | .notifyRefiller
  | .checkRefilled | .waitPaper | .lockStateInWait | .readTerminateInWait | .abortUnlockRefill
  | .refilledUnlockRefill | .emitRefilled | .lockStatsEmpty | .recordEmptyTime => true
  | _ => false

/-- The section of a printer that appends a request. -/
def PrinterPc.inRefillSection : PrinterPc → Bool
  | .emitPaperEmpty | .appendRequest | .notifyRefiller | .checkRefilled | .waitPaper
  | .lockStateInWait | .readTerminateInWait | .abortUnlockRefill | .refilledUnlockRefill => true
  | _ => false

/-- The section of the refiller that pops a request. -/
def RefillerPc.inRefillSection : RefillerPc → Bool
  | .lockState | .readFlags | .checkFlags | .exitNotifyPrinters | .exitUnlockRefill
  | .checkRequests | .waitRequest | .popRequest | .unlockRefill => true
  | _ => false

/-- A thread runs inside a section that appends to or pops from the paper refill queue. -/
def InRefillSection (s : Sys) (t : Tid) : Prop :=
  (s.ctl t).status = .running ∧
    match t with
    | .printer i => (s.printerPc i).inRefillSection = true
    | .refiller => s.refillerPc.inRefillSection = true
    | _ => False

instance (s : Sys) (t : Tid) : Decidable (InRefillSection s t) :=
  match t with
  | .printer i => inferInstanceAs (Decidable (_ ∧ (s.printerPc i).inRefillSection = true))
  | .refiller => inferInstanceAs (Decidable (_ ∧ s.refillerPc.inRefillSection = true))
  | .main | .stopper | .receiver | .autoscaler => inferInstanceAs (Decidable (_ ∧ False))

/-! ## Who asks for paper -/

/-- A printer started by `scale_up` has enough paper for every job it looks at. -/
def InitialsAskForPaper (s : Sys) : SysAction → Prop
  | .run (.printer i) => s.printerPc i = .checkPaper → s.printerArgs i = scaleUpSharedArgs →
      lacksPaper (Printer.lookAtFront i s.data) i = false
  | _ => True

instance (s : Sys) (a : SysAction) : Decidable (InitialsAskForPaper s a) :=
  match a with
  | .run (.printer i) => inferInstanceAs (Decidable (s.printerPc i = .checkPaper →
      s.printerArgs i = scaleUpSharedArgs →
        lacksPaper (Printer.lookAtFront i s.data) i = false))
  | .run .main | .run .stopper | .run .receiver | .run .refiller | .run .autoscaler =>
      isTrue trivial
  | .accept _ | .spurious _ | .env _ => isTrue trivial

/-- A printer comes to the branch from the comparison with its paper. -/
lemma asksForPaper_of_goes {i : Slot} {args : PrinterThreadArgs} {d d' : Data} {q q' : PrinterPc}
    (h : (printerCode setup i args q).Goes d d' q') (hq' : q'.asksForPaper = true) :
    q.asksForPaper = true ∨ (q = .checkPaper ∧ lacksPaper (Printer.lookAtFront i d) i = true) := by
  cases q with
  | exit => exact h.elim
  | checkPaper =>
      right
      obtain ⟨rfl, rfl⟩ := h
      refine ⟨rfl, ?_⟩
      by_contra hlack
      simp [hlack, PrinterPc.asksForPaper] at hq'
  | checkQueue | checkDone =>
      obtain ⟨_, rfl⟩ := h
      simp only at hq'
      split at hq' <;> (try split at hq') <;> cases hq'
  | noPaperUnlockQueue | lockRefill | emitPaperEmpty | appendRequest | notifyRefiller
  | checkRefilled | waitPaper | lockStateInWait | readTerminateInWait | abortUnlockRefill
  | refilledUnlockRefill | emitRefilled | lockStatsEmpty | recordEmptyTime => exact .inl rfl
  | _ => rw [h.2] at hq'; cases hq'

/-- **Only initial printers ask for paper.** -/
theorem initial_of_asksForPaper (i : Slot)
    (h : Reach (program setup) InitialsAskForPaper (freshState setup) s) :
    (s.printerPc i).asksForPaper = true → s.printerArgs i = sharedPrinterArgs := by
  refine h.invariant (I := fun s : Sys =>
    (s.printerPc i).asksForPaper = true → s.printerArgs i = sharedPrinterArgs)
    (fun _ => rfl) fun {s s' a} hr ih hok hs hq => ?_
  rcases printer_cases hs i with ⟨_, hpc, harg, _⟩ | ⟨t, _, hc⟩ | ⟨ex, harg, goes⟩
  · rw [harg]; exact ih (hpc ▸ hq)
  · rw [created_printer hc] at hq
    cases hq
  · rw [harg]
    rcases asksForPaper_of_goes goes hq with hq | ⟨hq₀, hlack⟩
    · exact ih hq
    · refine (printerArgs_cases hr i).resolve_right fun hup => ?_
      obtain rfl : a = .run (.printer i) := by
        rcases place_cases hs (.printer i) with hpl | ⟨rfl, _⟩ | ⟨_, _, hc⟩
        · rw [Sys.printerPc, hpl.1] at hq
          rw [Sys.printerPc] at hq₀
          rw [hq₀] at hq
          cases hq
        · rfl
        · rw [created_printer hc] at hq
          cases hq
      have := hok hq₀ hup
      rw [hlack] at this
      cases this

/-! ## Mutual exclusion -/

/-- A thread inside a section holds the mutex of the refill queue. -/
lemma inRefillSection_holds {t : Tid}
    (h : Reach (program setup) InitialsAskForPaper (freshState setup) s)
    (ht : InRefillSection s t) : (lockDiscipline setup).Holds s t .paperRefillQueueMutex := by
  refine Discipline.holds_of_running ht.1 ?_
  have hsec := ht.2
  cases t with
  | printer i =>
      change (s.printerPc i).inRefillSection = true at hsec
      show Mutex.paperRefillQueueMutex ∈ printerHeld (s.printerArgs i) (s.printerPc i)
      have hargs := initial_of_asksForPaper i h
      generalize s.printerPc i = q at *
      cases q <;> first
        | (rw [hargs rfl]; decide)
        | cases hsec
  | refiller =>
      change s.refillerPc.inRefillSection = true at hsec
      show Mutex.paperRefillQueueMutex ∈ refillerHeld s.refillerPc
      generalize s.refillerPc = q at *
      cases q <;> first
        | decide
        | cases hsec
  | main | stopper | receiver | autoscaler => exact hsec.elim

/-! ## The refiller's wait -/

/-- Every request is known to the refiller, or the printer that made it is about to tell it. -/
def RequestsHeard (s : Sys) : Prop :=
  s.data.paperRefillQueue = [] ∨
    ∃ i, (s.ctl (.printer i)).status = .running ∧ s.printerPc i = .notifyRefiller

/-- A printer about to tell the refiller does so, or stays where it is. -/
lemma notifyRefiller_step (hs : step (program setup) s a = some s') {i : Slot}
    (hrun : (s.ctl (.printer i)).status = .running) (hq : s.printerPc i = .notifyRefiller) :
    ((s'.ctl (.printer i)).status = .running ∧ s'.printerPc i = .notifyRefiller) ∨
      Executes (program setup) s s' (.printer i) := by
  have hinstr : s.instr (program setup) (.printer i) =
      .broadcast (s.printerArgs i).refillSupplierCv .checkRefilled := by
    show printerCode setup i (s.printerArgs i) (s.printerPc i) = _
    rw [hq]; rfl
  cases thread_step hs (.printer i) with
  | same ctl => left; rw [Sys.printerPc, ctl]; exact ⟨hrun, hq⟩
  | exec ex => exact .inr ex
  | created t _ _ hc => have := hc.notAlive; rw [hrun] at this; cases this
  | asked t _ _ ctl => left; rw [Sys.printerPc, ctl]; exact ⟨hrun, hq⟩
  | woken c m hw _ => rw [hrun] at hw; cases hw
  | resume m hw _ => rw [hrun] at hw; cases hw
  | exit _ hi _ => rw [hinstr] at hi; cases hi
  | die m hw _ => rw [hrun] at hw; cases hw
  | killed _ _ point _ => rw [hinstr] at point; cases point
  | caught m _ hw _ => rcases hw with ⟨c, hw⟩ | hw <;> rw [hrun] at hw <;> cases hw

/-- Requests stay heard until a printer tells the refiller. -/
lemma requestsHeard_step (h : Reach (program setup) ok (freshState setup) s)
    (hs : step (program setup) s a = some s') (hheard : RequestsHeard s) :
    RequestsHeard s' ∨ ∃ t, Executes (program setup) s s' t ∧
      (s.instr (program setup) t).wakes = some .refillSupplierCv := by
  rcases hheard with hnil | ⟨i, hrun, hq⟩
  · left
    cases paper_step hs with
    | same papers => exact .inl ((congrArg PaperView.requests papers).trans hnil)
    | request i ex pc papers =>
        have goes : (printerCode setup i (s.printerArgs i) (s.printerPc i)).Goes s.data s'.data
          (s'.printerPc i) := ex.goes
        rw [pc] at goes
        refine .inr ⟨i, ?_, goes.2⟩
        have hinstr : s.instr (program setup) (.printer i) =
            printerCode setup i (s.printerArgs i) .appendRequest := by rw [← pc]; rfl
        rw [ex.status, hinstr]
        rfl
    | use i _ _ data => rw [RequestsHeard, data]; exact .inl hnil
    | pop _ _ data =>
        left
        rw [data]
        show s.data.paperRefillQueue.tail = []
        rw [hnil]
        rfl
    | add _ _ data =>
        rw [RequestsHeard, data, Refiller.addPaper]
        split <;> exact .inl hnil
    | book _ _ data => rw [RequestsHeard, data]; exact .inl hnil
  · rcases notifyRefiller_step hs hrun hq with hstay | ex
    · exact .inl (.inr ⟨i, hstay⟩)
    · refine .inr ⟨_, ex, ?_⟩
      show (printerCode setup i (s.printerArgs i) (s.printerPc i)).wakes = _
      rw [hq]
      rcases printerArgs_cases h i with harg | harg <;> rw [harg] <;> rfl

/-- The refiller comes to its wait from finding no request. -/
lemma refiller_waits {d d' : Data} {q : RefillerPc}
    (h : (refillerCode setup q).Goes d d' .waitRequest) : d'.paperRefillQueue = [] := by
  cases q with
  | exit => exact h.elim
  | checkRequests =>
      obtain ⟨hd, hq⟩ := h
      simp only at hq
      split at hq
      · next hempty => rw [hd]; exact List.isEmpty_iff.mp hempty
      · cases hq
  | checkFlags | computeNeed =>
      obtain ⟨_, hq⟩ := h
      simp only at hq
      split at hq <;> cases hq
  | _ => cases h.2

/-- **The refiller begins to wait only when there is no request.** -/
theorem waitRequest_empty (h : Reach (program setup) InitialsAskForPaper (freshState setup) s) :
    (s.ctl .refiller).status = .running → s.refillerPc = .waitRequest →
      s.data.paperRefillQueue = [] := by
  refine h.invariant (I := fun s : Sys => (s.ctl .refiller).status = .running →
    s.refillerPc = .waitRequest → s.data.paperRefillQueue = [])
    (fun hr => by cases hr) fun {s s' a} hr ih _ hs hrun hq => ?_
  rcases refiller_cases hr hs with ⟨hex, hpc, _⟩ | ⟨_, goes⟩
  · rw [hpc] at hq
    have ha := refiller_alive hr (by rw [hq]; nofun) (by rw [hq]; nofun) (by rw [hq]; nofun)
    have hrun' : (s.ctl .refiller).status = .running := refiller_running hr ha (by rw [hq]; nofun)
    rcases requests_grow hs hex with heq | ⟨i, ex, hpc', _⟩
    · rw [heq]; exact ih hrun' hq
    · -- a printer that appends holds the mutex the refiller holds here
      have hprinter := inRefillSection_holds hr (t := .printer i)
        ⟨ex.running, by simp only [hpc']; rfl⟩
      have hrefiller := inRefillSection_holds hr (t := .refiller) ⟨hrun', by simp only [hq]; rfl⟩
      cases (lockInv hr).exclusive hprinter hrefiller
  · exact refiller_waits (hq ▸ goes)

/-- **Every request is heard while the refiller waits.** -/
theorem requestsHeard_of_waiting {m : Mutex}
    (h : Reach (program setup) InitialsAskForPaper (freshState setup) s)
    (hw : (s.ctl .refiller).status = .waiting .refillSupplierCv m) : RequestsHeard s := by
  refine waiting_invariant (fun u m hm => ?_) (fun {s s' a u m next} hr _ _ ex hi => ?_)
    (fun {s s' a} hr _ hs hheard => requestsHeard_step hr hs hheard) h hw
  · have := mutex_fresh setup u
    rw [hm] at this
    cases this
  · obtain ⟨rfl, hq⟩ : u = .refiller ∧ Sys.refillerPc s = .waitRequest := by
      rcases waits_cases hi with ⟨i, _, ⟨_, hc, _⟩ | ⟨_, hc, _⟩⟩ | ⟨hu, hq, _⟩
      · rcases printerArgs_cases hr i with harg | harg <;> rw [harg] at hc <;> cases hc
      · rcases printerArgs_cases hr i with harg | harg <;> rw [harg] at hc <;> cases hc
      · exact ⟨hu, hq⟩
    have goes := ex.goes
    rw [hi] at goes
    exact .inl (by rw [goes.1]; exact waitRequest_empty hr ex.running hq)

/-! ## The monitor -/

/-- **The refill queue is a monitor**, in a run in which no printer started by `scale_up` asks for
paper: at most one thread is inside a section, and the refiller does not wait with a request in the
queue, but for the printer that has just appended it and broadcasts before it leaves its section. -/
theorem refill_monitor (h : Reach (program setup) InitialsAskForPaper (freshState setup) s) :
    (∀ t u, InRefillSection s t → InRefillSection s u → t = u) ∧
      ∀ m, (s.ctl .refiller).status = .waiting .refillSupplierCv m →
        s.data.paperRefillQueue = [] ∨
          ∃ i, InRefillSection s (.printer i) ∧ s.printerPc i = .notifyRefiller := by
  refine ⟨fun t u ht hu =>
    (lockInv h).exclusive (inRefillSection_holds h ht) (inRefillSection_holds h hu),
    fun m hw => (requestsHeard_of_waiting h hw).imp_right ?_⟩
  rintro ⟨i, hrun, hq⟩
  exact ⟨i, ⟨hrun, by simp only [hq]; rfl⟩, hq⟩

/-- An initial printer has been refilled and the refiller waits for the next request. -/
theorem refill_monitor_after_refill :
    ∃ s : Sys, Reach (program defaultServer) InitialsAskForPaper (freshState defaultServer) s ∧
      (s.data.slot 0).totalPapersUsed = 90 ∧
      (s.ctl .refiller).status = .waiting .refillSupplierCv .paperRefillQueueMutex ∧
      (s.data.paperRefillQueue = [] ∨
        ∃ i, InRefillSection s (.printer i) ∧ s.printerPc i = .notifyRefiller) := by
  obtain ⟨s, hs, hused, hw⟩ := exists_run defaultServer InitialsAskForPaper
    ([Action.env (Env.rand 20)] ++ runs Tid.main 20 ++ runs Tid.receiver 78 ++
      runs (Tid.printer 0) 84 ++ runs Tid.refiller 28)
    (fun s => (s.data.slot 0).totalPapersUsed = 90 ∧
      (s.ctl .refiller).status = .waiting .refillSupplierCv .paperRefillQueueMutex)
    (by decide +kernel)
  exact ⟨s, hs, hused, hw, (refill_monitor hs).2 _ hw⟩

/-- The third printer, started by `scale_up`, has run out of paper while the refiller is about to
wait. -/
def scaledUpRun : List SysAction :=
  [Action.env (Env.rand 20)] ++ runs Tid.main 20 ++ runs Tid.receiver 192 ++
    [Action.env (Env.tick 10000000)] ++ runs Tid.autoscaler 18 ++ runs (Tid.printer 2) 72 ++
    runs Tid.refiller 6 ++ runs (Tid.printer 2) 8

/-- **A printer started by `scale_up` breaks the monitor.**  It is inside its section together with
the refiller; then it appends its request and broadcasts before the refiller begins to wait, and
the request stays unheard while both wait. -/
theorem refill_monitor_broken :
    (∃ s : Sys, Reach (program defaultServer) anyChoice (freshState defaultServer) s ∧
      InRefillSection s .refiller ∧ InRefillSection s (.printer 2)) ∧
    ∃ s : Sys, Reach (program defaultServer) anyChoice (freshState defaultServer) s ∧
      (s.ctl .refiller).status = .waiting .refillSupplierCv .paperRefillQueueMutex ∧
      (s.ctl (.printer 2)).status = .waiting .refillNeededCv .jobQueueMutex ∧
      s.data.paperRefillQueue = [2] ∧ ∀ i, ¬ InRefillSection s (.printer i) :=
  ⟨exists_run defaultServer anyChoice scaledUpRun
      (fun s => InRefillSection s .refiller ∧ InRefillSection s (.printer 2)) (by decide +kernel),
    exists_run defaultServer anyChoice (scaledUpRun ++ runs (Tid.printer 2) 4 ++
      runs Tid.refiller 1)
      (fun s => (s.ctl .refiller).status = .waiting .refillSupplierCv .paperRefillQueueMutex ∧
        (s.ctl (.printer 2)).status = .waiting .refillNeededCv .jobQueueMutex ∧
        s.data.paperRefillQueue = [2] ∧ ∀ i, ¬ InRefillSection s (.printer i))
      (by decide +kernel)⟩

end Orchestrator
