import Orchestrator.RefillRequests

/-!
# Printers that wait for paper

A printer that has asked for paper waits for a broadcast of `refill_needed_cv`.  The refiller makes
one after every refill, and every thread that ends because of a stop request makes one before.  But
the first printer that exits ends the refiller, and a printer does not look for a stop request
between its look at the queue and its wait.

* `OwesRefilled` — a thread that has still to broadcast `refill_needed_cv`.
* `AwaitsBroadcast` — after a stop request no printer begins to wait after the last broadcast.
* `waiting_owed` — then a printer that waits after a stop request is owed a broadcast.
-/

namespace Orchestrator

open Pthread Stock

variable {setup : Setup} {s s' : Sys} {a : SysAction} {ok : Sys → SysAction → Prop}

/-! ## Who owes a broadcast -/

/-- The stop handler has begun to handle a request and has not woken the waiting printers. -/
def StopPc.owesRefilled : StopPc → Bool
  | .lockState | .setFlags | .lockStats | .emitStopped | .unlockStats | .cancelReceiver
  | .cancelRefiller | .lockQueue | .lockStatsDrain | .drain | .notifyPrinters | .unlockStatsDrain
  | .unlockQueue | .lockRefill | .notifyWaiting => true
  | _ => false

/-- The printer has not made its last broadcast. -/
def PrinterPc.owesRefilled : PrinterPc → Bool
  | .exitUnlockRefill | .exitCancelRefiller | .exit => false
  | _ => true

/-- The refiller is on its way to a broadcast.  `told`: it has read that it is to end. -/
def RefillerPc.owesRefilled (q : RefillerPc) (told : Bool) : Bool :=
  match q with
  | .start | .lockRefill | .lockState | .readFlags | .exitNotifyPrinters | .skipLockRefill
  | .skipNotifyPrinters | .disableCancel | .emitEnd | .addPaper | .lockStats | .recordRefill
  | .emitStats | .unlockStats | .doneLockRefill | .doneNotifyPrinters => true
  | .checkFlags => told
  | _ => false

/-- A thread is blocked on a condition variable of the refills. -/
def waitsForRefill : Status Mutex Cond → Bool
  | .waiting .refillNeededCv _ | .waiting .refillSupplierCv _ => true
  | _ => false

/-- A stop was requested, and the thread will broadcast `refill_needed_cv` before it ends: it
exists, is not blocked itself, and has not made its last broadcast. -/
def OwesRefilled (s : Sys) (t : Tid) : Prop :=
  ((s.ctl t).status.alive = true ∧ waitsForRefill (s.ctl t).status = false) ∧
    match t with
    | .stopper => s.stopPc.owesRefilled = true
    | .refiller => s.refillerPc.owesRefilled
        (s.data.refiller.terminateNow || s.data.refiller.areAllJobsServed) = true
    | .printer i => (s.printerPc i).owesRefilled = true
    | _ => False

instance (s : Sys) (t : Tid) : Decidable (OwesRefilled s t) :=
  match t with
  | .stopper => inferInstanceAs (Decidable (_ ∧ s.stopPc.owesRefilled = true))
  | .refiller => inferInstanceAs (Decidable (_ ∧ s.refillerPc.owesRefilled _ = true))
  | .printer i => inferInstanceAs (Decidable (_ ∧ (s.printerPc i).owesRefilled = true))
  | .main | .receiver | .autoscaler => inferInstanceAs (Decidable (_ ∧ False))

/-- A thread stays able to make its broadcast, or begins to wait itself. -/
lemma ready_step {t : Tid} (hs : step (program setup) s a = some s')
    (ha : (s.ctl t).status.alive = true) (hw : waitsForRefill (s.ctl t).status = false)
    (hend : s.instr (program setup) t ≠ .exit) (hcancelled : ∀ m, (s.ctl t).status ≠ .cancelled m)
    (hcancel : (s.ctl t).mustCancel = true →
      (s.instr (program setup) t).isCancelPoint = false) :
    ((s'.ctl t).status.alive = true ∧ waitsForRefill (s'.ctl t).status = false) ∨
      (Executes (program setup) s s' t ∧ ∃ c m next, s.instr (program setup) t = .wait c m next ∧
        (c = .refillNeededCv ∨ c = .refillSupplierCv)) := by
  have halive : (s'.ctl t).status.alive = true := by
    rcases alive_cases hs ha with h | h | ⟨m, h⟩ | ⟨hmust, hpoint⟩
    · exact h
    · exact absurd h hend
    · exact absurd h (hcancelled m)
    · rw [hcancel hmust] at hpoint; cases hpoint
  have hbegun : ∀ c m, (s'.ctl t).status = .waiting c m →
      (c = .refillNeededCv ∨ c = .refillSupplierCv) →
        Executes (program setup) s s' t ∧
          ∃ c m next, s.instr (program setup) t = .wait c m next ∧
            (c = .refillNeededCv ∨ c = .refillSupplierCv) := fun c m hst hc => by
    rcases waiting_step hs hst with ⟨hold, _⟩ | ⟨ex, next, hi⟩
    · rw [hold] at hw
      rcases hc with rfl | rfl <;> cases hw
    · exact ⟨ex, c, m, next, hi, hc⟩
  cases hst : (s'.ctl t).status with
  | waiting c m =>
      cases c with
      | jobQueueNotEmptyCv => exact .inl ⟨rfl, rfl⟩
      | refillNeededCv => exact .inr (hbegun _ m hst (.inl rfl))
      | refillSupplierCv => exact .inr (hbegun _ m hst (.inr rfl))
  | absent | ended => rw [hst] at halive; cases halive
  | running | woken m | cancelled m => exact .inl ⟨rfl, rfl⟩

/-! ## Nobody loses the broadcast it owes -/

/-- A thread broadcasts `refill_needed_cv`. -/
def WakesPrinters (setup : Setup) (s s' : Sys) : Prop :=
  ∃ t, Executes (program setup) s s' t ∧
    (s.instr (program setup) t).wakes = some .refillNeededCv

lemma stop_owesRefilled {d d' : Data} {q q' : StopPc} (h : (stopCode setup q).Goes d d' q')
    (hq : q.owesRefilled = true) : q'.owesRefilled = true ∨ q = .notifyWaiting := by
  cases q with
  | notifyWaiting => exact .inr rfl
  | drain =>
      left
      rw [h.2]
      simp only
      split <;> rfl
  | lockState | setFlags | lockStats | emitStopped | unlockStats | cancelReceiver | cancelRefiller
  | lockQueue | lockStatsDrain | notifyPrinters | unlockStatsDrain | unlockQueue | lockRefill =>
      left; rw [h.2]; rfl
  | _ => cases hq

lemma refiller_owesRefilled {d d' : Data} {q q' : RefillerPc}
    (h : (refillerCode setup q).Goes d d' q') (hterm : d.gTerminateNow = true)
    (hq : q.owesRefilled (d.refiller.terminateNow || d.refiller.areAllJobsServed) = true) :
    q'.owesRefilled (d'.refiller.terminateNow || d'.refiller.areAllJobsServed) = true ∨
      (refillerCode setup q).wakes = some .refillNeededCv := by
  cases q with
  | exit => cases hq
  | exitNotifyPrinters | skipNotifyPrinters | doneNotifyPrinters => exact .inr rfl
  | readFlags =>
      obtain ⟨rfl, rfl⟩ := h
      left
      simp [Refiller.readFlags, Data.modifyRefiller, hterm, RefillerPc.owesRefilled]
  | checkFlags =>
      left
      rw [RefillerPc.owesRefilled] at hq
      rw [h.2]
      simp only [id, hq, if_true]
      rfl
  | start | lockRefill | lockState | skipLockRefill | disableCancel | emitEnd | addPaper | lockStats
  | recordRefill | emitStats | unlockStats | doneLockRefill => left; rw [h.2]; rfl
  | _ => cases hq

lemma printer_owesRefilled {i : Slot} {args : PrinterThreadArgs} {d d' : Data} {q q' : PrinterPc}
    (h : (printerCode setup i args q).Goes d d' q') (hq : q.owesRefilled = true) :
    q'.owesRefilled = true ∨ q = .exitNotifyPrinters := by
  cases q with
  | exit => cases hq
  | exitNotifyPrinters => exact .inr rfl
  | exitUnlockRefill | exitCancelRefiller => cases hq
  | checkQueue | checkPaper | checkRefilled | readTerminateInWait | checkDone =>
      left
      rw [h.2]
      simp only
      split <;> (try split) <;> rfl
  | _ => left; rw [h.2]; rfl

/-- The stop handler keeps its debt, since it is not cancelled while a printer is alive. -/
lemma stopper_owes_step {i : Slot} (h : Reach (program setup) NoScaling (freshState setup) s)
    (hs : step (program setup) s a = some s') (hi : (s.ctl (.printer i)).status.alive = true)
    (ht : OwesRefilled s .stopper) : OwesRefilled s' .stopper ∨ WakesPrinters setup s s' := by
  obtain ⟨⟨ha, hw⟩, hq⟩ := ht
  simp only at hq
  have hend : stopCode setup s.stopPc ≠ .exit := fun hexit => by
    generalize s.stopPc = q at hexit hq
    cases q with
    | done => cases hq
    | _ => cases hexit
  have hcancelled : ∀ m, (s.ctl .stopper).status ≠ .cancelled m := fun m hm => by
    obtain ⟨c, q, hinstr⟩ := waitPlace_fresh h .stopper m (by rw [hm]; rfl)
    exact stopCode_ne_wait setup q c m _ hinstr
  have hcancel : (s.ctl .stopper).mustCancel = true →
      (stopCode setup s.stopPc).isCancelPoint = false := fun hmust => by
    rw [Thread.mustCancel, stopper_not_pending h hi, Bool.and_false] at hmust
    cases hmust
  rcases ready_step hs ha hw hend hcancelled hcancel with hready | ⟨_, c, m, next, hinstr, _⟩
  · rcases stop_cases h hs with ⟨_, hpc⟩ | ⟨ex, goes⟩
    · exact .inl ⟨hready, by simp only [hpc]; exact hq⟩
    · rcases stop_owesRefilled goes hq with hq' | hq'
      · exact .inl ⟨hready, hq'⟩
      · refine .inr ⟨_, ex, ?_⟩
        show (stopCode setup s.stopPc).wakes = _
        rw [hq']
        rfl
  · exact absurd hinstr (stopCode_ne_wait setup _ c m next)

/-- The refiller keeps its debt, since it is cancelled only in its sleep. -/
lemma refiller_owes_step (h : Reach (program setup) NoScaling (freshState setup) s)
    (hs : step (program setup) s a = some s') (hterm : s.data.gTerminateNow = true)
    (ht : OwesRefilled s .refiller) : OwesRefilled s' .refiller ∨ WakesPrinters setup s s' := by
  obtain ⟨⟨ha, hw⟩, hq⟩ := ht
  simp only at hq
  have hguard := refiller_guarded h
  have hend : refillerCode setup s.refillerPc ≠ .exit := fun hexit => by
    generalize s.refillerPc = q at hexit hq
    cases q with
    | exit => cases hq
    | _ => cases hexit
  have hnowait : ∀ c m next, refillerCode setup s.refillerPc ≠ .wait c m next :=
    fun c m next hwait => by
      generalize s.refillerPc = q at hwait hq
      cases q with
      | waitRequest => cases hq
      | _ => cases hwait
  have hcancel : (s.ctl .refiller).mustCancel = true →
      (refillerCode setup s.refillerPc).isCancelPoint = false := fun hmust => by
    rw [Thread.mustCancel, Bool.and_eq_true] at hmust
    have hexposed : s.refillerPc.exposed = true := hguard.enabled hmust.1
    generalize s.refillerPc = q at hexposed hq
    cases q with
    | sleep => cases hq
    | start | disableCancel => rfl
    | _ => cases hexposed
  rcases ready_step hs ha hw hend hguard.notCancelled hcancel with
    hready | ⟨_, c, m, next, hwait, _⟩
  · rcases refiller_cases h hs with ⟨_, hpc, hl⟩ | ⟨ex, goes⟩
    · exact .inl ⟨hready, by simp only [hpc, hl]; exact hq⟩
    · rcases refiller_owesRefilled goes hterm hq with hq' | hwakes
      · exact .inl ⟨hready, hq'⟩
      · exact .inr ⟨_, ex, hwakes⟩
  · exact absurd hwait (hnowait _ _ _)

/-- A printer keeps its debt until it begins to wait itself. -/
lemma printer_owes_step {j : Slot} (h : Reach (program setup) NoScaling (freshState setup) s)
    (hs : step (program setup) s a = some s') (ht : OwesRefilled s (.printer j)) :
    OwesRefilled s' (.printer j) ∨ WakesPrinters setup s s' ∨
      (Executes (program setup) s s' (.printer j) ∧ s.printerPc j = .waitPaper) := by
  obtain ⟨⟨ha, hw⟩, hq⟩ := ht
  simp only at hq
  have hset : Settled (program setup) s (.printer j) :=
    settled (fun s a ha => ha j) ⟨fun m => by simp [freshState], fun _ => rfl,
      fun h => by simp [freshState] at h⟩ (noPrinterCancelled h)
  have hend : printerCode setup j (s.printerArgs j) (s.printerPc j) ≠ .exit := fun hexit => by
    generalize s.printerPc j = q at hexit hq
    cases q with
    | exit => cases hq
    | _ => cases hexit
  have hcancel : (s.ctl (.printer j)).mustCancel = true →
      (printerCode setup j (s.printerArgs j) (s.printerPc j)).isCancelPoint = false :=
    fun hmust => by
      rw [Thread.mustCancel, never_pending h j, Bool.and_false] at hmust
      cases hmust
  rcases ready_step hs ha hw hend hset.notCancelled hcancel with
    hready | ⟨ex, c, m, next, hwait, hc⟩
  · rcases printer_cases hs j with ⟨_, hpc, _⟩ | ⟨t, _, hc⟩ | ⟨ex, _, goes⟩
    · exact .inl ⟨hready, by simp only [hpc]; exact hq⟩
    · have := hc.notAlive
      rw [ha] at this
      cases this
    · rcases printer_owesRefilled goes hq with hq' | hq'
      · exact .inl ⟨hready, hq'⟩
      · refine .inr (.inl ⟨_, ex, ?_⟩)
        show (printerCode setup j (s.printerArgs j) (s.printerPc j)).wakes = _
        rw [hq']
        rcases printerArgs_cases h j with harg | harg <;> rw [harg] <;> rfl
  · refine .inr (.inr ⟨ex, ?_⟩)
    rcases waits_cases hwait with ⟨k, hk, ⟨_, hcv, _⟩ | ⟨hpc, _⟩⟩ | ⟨hk, _⟩
    · cases hk
      rcases printerArgs_cases h j with harg | harg <;> rw [harg] at hcv <;> subst hcv <;>
        rcases hc with hc | hc <;> cases hc
    · cases hk
      exact hpc
    · cases hk

/-! ## The invariant of the wait -/

/-- Nobody scales, and after a stop request a printer begins to wait for paper only while another
thread owes it a broadcast. -/
structure AwaitsBroadcast (s : Sys) (a : SysAction) : Prop where
  noScaling : NoScaling s a
  owed : ∀ i, a = .run (.printer i) → s.printerPc i = .waitPaper →
    s.data.gTerminateNow = true → ∃ t, t ≠ .printer i ∧ OwesRefilled s t

/-- Where a printer begins to wait for paper, and what it leaves alone. -/
lemma waitPaper_step {j : Slot} (hs : step (program setup) s a = some s')
    (ex : Executes (program setup) s s' (.printer j)) (hq : s.printerPc j = .waitPaper) :
    a = .run (.printer j) ∧ s'.data = s.data ∧
      ∀ u, u ≠ .printer j → s'.ctl u = s.ctl u := by
  have hinstr : s.instr (program setup) (.printer j) =
      .wait (s.printerArgs j).refillNeededCv (s.printerArgs j).paperRefillQueueMutex
        .lockStateInWait := by
    show printerCode setup j (s.printerArgs j) (s.printerPc j) = _
    rw [hq]; rfl
  have goes := ex.goes
  rw [hinstr] at goes
  refine ⟨run_of_moves hs ex ?_, goes.1, fun u hu => ex.wait_ctl hinstr hu⟩
  rw [goes.2]
  intro hpc
  rw [Sys.printerPc, ← hpc] at hq
  cases hq

/-- When a printer begins to wait, the other threads owe what they owed. -/
lemma owes_of_waitPaper {j : Slot} {t : Tid} (hs : step (program setup) s a = some s')
    (ex : Executes (program setup) s s' (.printer j)) (hq : s.printerPc j = .waitPaper)
    (ht : OwesRefilled s t) (hne : t ≠ .printer j) : OwesRefilled s' t := by
  obtain ⟨_, hd, hctl⟩ := waitPaper_step hs ex hq
  have howes := ht.2
  refine ⟨by rw [hctl t hne]; exact ht.1, ?_⟩
  cases t with
  | stopper => simp only [Sys.stopPc, hctl .stopper hne]; exact howes
  | refiller => simp only [Sys.refillerPc, hctl .refiller hne, hd]; exact howes
  | printer k => simp only [Sys.printerPc, hctl (.printer k) hne]; exact howes
  | main | receiver | autoscaler => exact howes

/-- A printer that waits for paper has begun to do so at `waitPaper`. -/
lemma waitPaper_of_wait {i : Slot} {m : Mutex} {next : PrinterPc}
    (h : Reach (program setup) ok (freshState setup) s)
    (hi : s.instr (program setup) (.printer i) = .wait .refillNeededCv m next) :
    s.printerPc i = .waitPaper := by
  rcases waits_cases hi with ⟨k, hk, ⟨_, hcv, _⟩ | ⟨hpc, _⟩⟩ | ⟨hk, _⟩
  · rcases printerArgs_cases h k with harg | harg <;> rw [harg] at hcv <;> cases hcv
  · cases hk
    exact hpc
  · cases hk

/-- The stop handler owes a broadcast from the moment it has set the flags. -/
lemma owes_of_setFlags (ex : Executes (program setup) s s' .stopper) (hpc : s.stopPc = .setFlags)
    (hpc' : s'.stopPc = .lockStats) : OwesRefilled s' .stopper := by
  have hinstr : s.instr (program setup) .stopper = stopCode setup .setFlags := by rw [← hpc]; rfl
  have hst : (s'.ctl .stopper).status = .running := by rw [ex.status, hinstr]; rfl
  refine ⟨⟨by rw [hst]; rfl, by rw [hst]; rfl⟩, ?_⟩
  simp only [hpc']
  rfl

/-- **A printer that waits for paper will be woken.**  After a stop request another thread owes it a
broadcast. -/
theorem waiting_owed {i : Slot} {m : Mutex}
    (h : Reach (program setup) AwaitsBroadcast (freshState setup) s)
    (hw : (s.ctl (.printer i)).status = .waiting .refillNeededCv m) :
    s.data.gTerminateNow = false ∨ ∃ t, t ≠ .printer i ∧ OwesRefilled s t := by
  refine thread_waiting_invariant
    (I := fun s : Sys => s.data.gTerminateNow = false ∨ ∃ t, t ≠ .printer i ∧ OwesRefilled s t)
    (fun m hm => by cases hm) (fun {s s' a m next} hr hok hs ex hi => ?_)
    (fun {s s' a m} hr hok hs hwait hidle => ?_) h hw
  · have hq := waitPaper_of_wait hr hi
    obtain ⟨ha, hd, _⟩ := waitPaper_step hs ex hq
    cases hterm : s.data.gTerminateNow with
    | false => left; rw [hd, hterm]
    | true =>
        obtain ⟨t, hne, ht⟩ := hok.owed i ha hq hterm
        exact .inr ⟨t, hne, owes_of_waitPaper hs ex hq ht hne⟩
  · have hcalm := hr.mono fun s a hok => hok.noScaling
    have halive : (s.ctl (.printer i)).status.alive = true := by rw [hwait]; rfl
    cases hterm : s.data.gTerminateNow with
    | false =>
        left
        cases hterm' : s'.data.gTerminateNow with
        | false => exact .inl rfl
        | true =>
            obtain ⟨ex, pc, pc'⟩ :=
              (stop_before hs hterm').resolve_left (by rw [hterm]; exact Bool.false_ne_true)
            exact .inr ⟨.stopper, nofun, owes_of_setFlags ex pc pc'⟩
    | true =>
        obtain ⟨t, hne, ht⟩ := hidle.resolve_left fun hfalse => by
          rw [hterm] at hfalse
          cases hfalse
        cases t with
        | stopper =>
            exact (stopper_owes_step hcalm hs halive ht).imp_left fun ht' => .inr ⟨_, hne, ht'⟩
        | refiller =>
            exact (refiller_owes_step hcalm hs hterm ht).imp_left fun ht' => .inr ⟨_, hne, ht'⟩
        | printer j =>
            rcases printer_owes_step hcalm hs ht with ht' | hwakes | ⟨ex, hq⟩
            · exact .inl (.inr ⟨_, hne, ht'⟩)
            · exact .inr hwakes
            · -- the debtor begins to wait itself, and somebody else takes over its debt
              obtain ⟨ha, _⟩ := waitPaper_step hs ex hq
              obtain ⟨u, hu, howes⟩ := hok.owed j ha hq hterm
              refine .inl (.inr ⟨u, ?_, owes_of_waitPaper hs ex hq howes hu⟩)
              rintro rfl
              have hready := howes.1.2
              rw [hwait] at hready
              cases hready
        | main | receiver | autoscaler => exact ht.2.elim

end Orchestrator
