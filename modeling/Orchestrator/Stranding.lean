import Orchestrator.RefillWaits

/-!
# Stranded printers

A printer that waits for paper while no stop was requested relies on the refiller.  The refiller
ends when a stop was requested, or when a printer has exited, which sets `all_jobs_served` and
cancels it.

* `RefillsInTime` — no printer sets `all_jobs_served` while another lacks paper, and none begins to
  wait after the last broadcast of a stop request.
* `no_printer_stranded` — then a printer that waits with too little paper will be helped.
* `printer_stranded` — without either half of it one is stranded.
-/

namespace Orchestrator

open Pthread Stock

variable {setup : Setup} {s s' : Sys} {a : SysAction} {ok : Sys → SysAction → Prop}

/-! ## When the refiller ends -/

/-- A stop was requested, or a printer has exited. -/
def EndAnnounced (d : Data) : Prop := d.gTerminateNow = true ∨ d.allJobsServed = true

lemma EndAnnounced.step (h : EndAnnounced s.data) (hs : step (program setup) s a = some s') :
    EndAnnounced s'.data :=
  h.imp (flags_mono hs).1 (flags_mono hs).2.2

/-- The stop handler has set the flags before it wakes anybody. -/
lemma terminate_of_owesForEnd (h : Reach (program setup) ok (freshState setup) s) :
    s.stopPc.owesForEnd = true → s.data.gTerminateNow = true := by
  refine h.invariant (I := fun s : Sys => s.stopPc.owesForEnd = true →
    s.data.gTerminateNow = true) (fun hq => by cases hq) fun {s s' a} hr ih _ hs hq => ?_
  rcases stop_cases hr hs with ⟨_, hpc⟩ | ⟨_, goes⟩
  · exact (flags_mono hs).1 (ih (hpc ▸ hq))
  · by_cases hq₀ : (Sys.stopPc s).owesForEnd = true
    · exact (flags_mono hs).1 (ih hq₀)
    · generalize Sys.stopPc s = q at *
      cases q with
      | setFlags => rw [goes.1]
      | done =>
          simp only [stopCode] at goes
          split at goes
          · exact goes.elim
          · rw [goes.2] at hq; cases hq
      | idle | lockState | unlockStatsDrain | unlockQueue | lockRefill | notifyWaiting
      | notifyRefiller | unlockRefill => rw [goes.2] at hq; cases hq
      | _ => exact absurd rfl hq₀

/-- The printer has set `all_jobs_served`. -/
def PrinterPc.hasServed : PrinterPc → Bool
  | .exitLockRefill | .exitNotifyRefiller | .exitNotifyPrinters | .exitUnlockRefill
  | .exitCancelRefiller | .exit => true
  | _ => false

lemma served_of_hasServed (h : Reach (program setup) ok (freshState setup) s) (i : Slot) :
    (s.printerPc i).hasServed = true → s.data.allJobsServed = true := by
  refine h.invariant (I := fun s : Sys => (s.printerPc i).hasServed = true →
    s.data.allJobsServed = true) (fun hq => by cases hq) fun {s s' a} hr ih _ hs hq => ?_
  have hkeep : (Sys.printerPc s i).hasServed = true → s'.data.allJobsServed = true :=
    fun hq₀ => (flags_mono hs).2.2 (ih hq₀)
  rcases printer_cases hs i with ⟨_, hpc, _⟩ | ⟨t, _, hc⟩ | ⟨_, _, goes⟩
  · exact hkeep (hpc ▸ hq)
  · rw [created_printer hc] at hq; cases hq
  · generalize Sys.printerPc s i = q at *
    cases q with
    | exitSetServed => rw [goes.1]
    | exitLockRefill | exitNotifyRefiller | exitNotifyPrinters | exitUnlockRefill
    | exitCancelRefiller | exit => exact hkeep rfl
    | checkQueue | checkPaper | checkRefilled | readTerminateInWait | checkDone =>
        rw [goes.2] at hq
        simp only at hq
        split at hq <;> (try split at hq) <;> cases hq
    | _ => rw [goes.2] at hq; cases hq

/-- The refiller has read that it is to end. -/
def RefillerPc.leaving : RefillerPc → Bool
  | .exitNotifyPrinters | .exitUnlockRefill | .exit => true
  | _ => false

lemma refiller_leaving {d d' : Data} {q q' : RefillerPc} (h : (refillerCode setup q).Goes d d' q')
    (hq' : q'.leaving = true) :
    q.leaving = true ∨ d.refiller.terminateNow = true ∨ d.refiller.areAllJobsServed = true := by
  cases q with
  | exitNotifyPrinters | exitUnlockRefill | exit => exact .inl rfl
  | checkFlags =>
      rw [h.2] at hq'
      simp only [id] at hq'
      split at hq'
      · next hflags => exact .inr (by simpa using hflags)
      · cases hq'
  | checkRequests | computeNeed =>
      rw [h.2] at hq'
      simp only at hq'
      split at hq' <;> cases hq'
  | _ => rw [h.2] at hq'; cases hq'

/-- Only the stop handler and printers that exit ask the refiller to end. -/
lemma cancels_refiller (h : Reach (program setup) ok (freshState setup) s) {t : Tid}
    (hc : (s.instr (program setup) t).cancels s.data = some .refiller) :
    EndAnnounced s.data := by
  rcases cancels_cases hc with ⟨_, hu | hu⟩ | ⟨_, ⟨_, hu⟩ | ⟨hq, _⟩⟩ | ⟨_, _, i, hu, _⟩ |
    ⟨i, _, hq, _⟩
  · cases hu
  · cases hu
  · cases hu
  · exact .inl (terminate_of_owesForEnd h (by rw [hq]; rfl))
  · cases hu
  · exact .inr (served_of_hasServed h i (by rw [hq]; rfl))

/-- Whatever leads to the end of the refiller was announced. -/
structure EndsAnnounced (s : Sys) : Prop where
  pending : (s.ctl .refiller).cancelPending = true → EndAnnounced s.data
  leaving : s.refillerPc.leaving = true → EndAnnounced s.data
  ended : (s.ctl .refiller).status = .ended → EndAnnounced s.data

lemma EndsAnnounced.step (ih : EndsAnnounced s)
    (h : Reach (program setup) ok (freshState setup) s)
    (hs : step (program setup) s a = some s') : EndsAnnounced s' := by
  refine ⟨fun hp => ?_, fun hq => ?_, fun hst => ?_⟩
  · rcases pending_step hs hp with hp | ⟨t, _, hc⟩
    · exact (ih.pending hp).step hs
    · exact (cancels_refiller h hc).step hs
  · rcases refiller_cases h hs with ⟨_, hpc, _⟩ | ⟨_, goes⟩
    · exact (ih.leaving (hpc ▸ hq)).step hs
    · have hreads := readsSound h
      rcases refiller_leaving goes hq with hq | hterm | hserved
      · exact (ih.leaving hq).step hs
      · exact .inl ((flags_mono hs).1 (hreads.refillerTerminate hterm))
      · exact .inr ((flags_mono hs).2.2 (hreads.refillerServed hserved))
  · cases thread_step hs .refiller with
    | same ctl => rw [ctl] at hst; exact (ih.ended hst).step hs
    | exec ex =>
        rcases (s.instr (program setup) .refiller).statusAfter_cases with hr | ⟨c, m, q, _, hr⟩ <;>
          rw [ex.status, hr] at hst <;> cases hst
    | created t _ _ hc => rw [hc.fresh] at hst; cases hst
    | asked t _ _ ctl => rw [ctl] at hst; exact (ih.ended hst).step hs
    | woken c m _ ctl => rw [ctl] at hst; cases hst
    | resume m _ ctl => rw [ctl] at hst; cases hst
    | exit _ hexit _ =>
        refine (ih.leaving ?_).step hs
        change refillerCode setup s.refillerPc = .exit at hexit
        generalize s.refillerPc = q at *
        cases q <;> first | rfl | cases hexit
    | die m hc _ => exact absurd hc ((refiller_guarded h).notCancelled m)
    | killed must _ _ _ =>
        rw [Thread.mustCancel, Bool.and_eq_true] at must
        exact (ih.pending must.2).step hs
    | caught m _ _ ctl => rw [ctl] at hst; cases hst

/-- **The refiller ends when it was told to.** -/
theorem endsAnnounced (h : Reach (program setup) ok (freshState setup) s) : EndsAnnounced s :=
  h.invariant (I := EndsAnnounced) ⟨fun hp => (by cases hp), fun hq => (by cases hq),
    fun hst => (by cases hst)⟩ fun hr ih _ hs => ih.step hr hs

/-- `all_jobs_served` is set when the work is over. -/
theorem workOver_of_served (h : Reach (program setup) ok (freshState setup) s) :
    s.data.allJobsServed = true → WorkOver s.data := by
  refine h.invariant (I := fun s : Sys => s.data.allJobsServed = true → WorkOver s.data)
    (fun hi => by cases hi) fun {s s' a} hr ih _ hs hserved => ?_
  rcases served_before hs hserved with hold | ⟨i, _, pc⟩
  · exact (ih hold).step hr hs
  · exact (workOver_of_leaving hr i (by rw [pc]; rfl)).step hr hs

/-! ## Printers that lack paper -/

/-- Printer `i` has found too little paper for the job it looked at, and wants more. -/
def Lacking (s : Sys) (i : Slot) : Prop :=
  ((s.printerPc i).phase = .asking ∨ (s.printerPc i).phase = .asked) ∧
    lacksPaper s.data i = true

instance (s : Sys) (i : Slot) : Decidable (Lacking s i) := inferInstanceAs (Decidable (_ ∧ _))

/-- The refiller is past its sleep and brings paper to printer `i`. -/
def BeingFilled (s : Sys) (i : Slot) : Prop :=
  s.data.refiller.printer = some i ∧
    (s.refillerPc = .disableCancel ∨ s.refillerPc = .emitEnd ∨ s.refillerPc = .addPaper)

instance (s : Sys) (i : Slot) : Decidable (BeingFilled s i) :=
  inferInstanceAs (Decidable (_ ∧ _))

/-- Nobody but a printer takes its paper. -/
lemma level_rises {i : Slot} (h : Reach (program setup) ok (freshState setup) s)
    (hs : step (program setup) s a = some s') (hex : ¬Executes (program setup) s s' (.printer i)) :
    s.data.papers.level i ≤ s'.data.papers.level i := by
  cases paper_step hs with
  | same papers => rw [papers]
  | request j _ _ papers => rw [papers]
  | use j ex _ data =>
      have hji : i ≠ j := by rintro rfl; exact hex ex
      rw [data, usePaper_papers]
      simp [Function.update_of_ne hji]
  | pop _ _ data => rw [data, popRequest_papers]
  | add _ pc data =>
      obtain ⟨k, hk⟩ := Option.isSome_iff_exists.mp ((supplied h).printer (by rw [pc]; rfl))
      have hpos := (supplied h).positive (by rw [pc]; rfl)
      rw [data, addPaper_papers hk]
      by_cases hik : i = k
      · subst hik
        simp only [Function.update_self]
        omega
      · simp [Function.update_of_ne hik]
  | book _ _ data => rw [data, recordRefill_papers]

/-- A printer comes to lack paper only when it looks at a job. -/
lemma lacking_step {i : Slot} (h : Reach (program setup) (Unscaled setup) (freshState setup) s)
    (hok : Unscaled setup s a) (hs : step (program setup) s a = some s') (hi : Lacking s' i) :
    Lacking s i ∨ (Executes (program setup) s s' (.printer i) ∧ s.printerPc i = .checkPaper) := by
  obtain ⟨hphase, hlacks⟩ := hi
  have hsame : (s'.data.printer i).jobToDequeue = (s.data.printer i).jobToDequeue →
      s.data.papers.level i ≤ s'.data.papers.level i → lacksPaper s.data i = true :=
    fun hneed hlevel => by
      rw [lacksPaper, decide_eq_true_iff] at hlacks ⊢
      rw [← hneed]
      exact hlevel.trans_lt hlacks
  by_cases hex : Executes (program setup) s s' (.printer i)
  · have goes : (printerCode setup i (s.printerArgs i) (s.printerPc i)).Goes s.data s'.data
        (s'.printerPc i) := hex.goes
    cases printer_asks goes with
    | stay phase need papers =>
        exact .inl ⟨by rw [← phase]; exact hphase, hsame need (by rw [papers])⟩
    | miss pc _ _ _ => exact .inr ⟨hex, pc⟩
    | ask asking _ need papers => exact .inl ⟨.inl asking, hsame need (by rw [papers])⟩
    | spend _ phase _ _ => rw [phase] at hphase; rcases hphase with h | h <;> cases h
    | satisfied _ phase _ _ => rw [phase] at hphase; rcases hphase with h | h <;> cases h
    | giveUp _ phase _ _ => rw [phase] at hphase; rcases hphase with h | h <;> cases h
  · have hpc := printer_keeps (h.mono fun s a hok => hok.noScaling) hok.noScaling hs
      (place_step hs hex)
    rw [hpc] at hphase
    exact .inl ⟨hphase, hsame (by rw [printer_unchanged hs hex]) (level_rises h hs hex)⟩

/-- The refiller brings the paper before it turns to anything else. -/
lemma beingFilled_step {i : Slot}
    (h : Reach (program setup) (Unscaled setup) (freshState setup) s) (hok : Unscaled setup s a)
    (hs : step (program setup) s a = some s') (hfill : BeingFilled s i) (hi : Lacking s' i) :
    BeingFilled s' i := by
  obtain ⟨hprn, hq⟩ := hfill
  rcases refiller_cases h hs with ⟨_, hpc, hl⟩ | ⟨_, goes⟩
  · rw [BeingFilled, hpc, hl]
    exact ⟨hprn, hq⟩
  · rcases hq with hq | hq | hq
    · rw [hq] at goes
      exact ⟨by rw [goes.1]; exact hprn, .inr (.inl goes.2)⟩
    · rw [hq] at goes
      refine ⟨?_, .inr (.inr goes.2)⟩
      rw [goes.1, Refiller.reportEnd_refiller]
      exact hprn
    · -- the printer is full now, which is enough for any job
      exfalso
      have hfills : s.data.refiller.papersNeeded =
          setup.params.printerPaperCapacity - s.data.papers.level i :=
        (desk_sound h i).fills _ (by
          simp [desk, order, hq, RefillerPc.hasRequest, RefillerPc.brings, hprn])
      have hlevel : s'.data.papers.level i = setup.params.printerPaperCapacity := by
        rw [hq] at goes
        rw [goes.1, addPaper_papers hprn, hfills]
        simp
      have hfits := (desk_sound (h.tail hok hs) i).fits hi.1
      have hshort : s'.data.papers.level i < (desk s').need i := (short_iff i).mpr hi.2
      omega

/-! ## The runs in which refills come in time -/

/-- The runs without scaling in which

* a printer that sets `all_jobs_served` without a stop request leaves no printer behind that lacks
  paper, unless the refiller is already past its sleep for it, and
* after a stop request a printer begins to wait for paper only while another thread owes a
  broadcast. -/
structure RefillsInTime (setup : Setup) (s : Sys) (a : SysAction) : Prop where
  unscaled : Unscaled setup s a
  served : ∀ i, a = .run (.printer i) → s.printerPc i = .exitSetServed →
    s.data.gTerminateNow = false → ∀ j, Lacking s j → BeingFilled s j
  owed : ∀ i, a = .run (.printer i) → s.printerPc i = .waitPaper →
    s.data.gTerminateNow = true → ∃ t, t ≠ .printer i ∧ OwesRefilled s t

/-- **Whoever lacks paper when all jobs are served gets it at once.** -/
theorem beingFilled_of_served
    (h : Reach (program setup) (RefillsInTime setup) (freshState setup) s) :
    s.data.allJobsServed = true → s.data.gTerminateNow = false →
      ∀ i, Lacking s i → BeingFilled s i := by
  refine h.invariant (I := fun s : Sys => s.data.allJobsServed = true →
    s.data.gTerminateNow = false → ∀ i, Lacking s i → BeingFilled s i)
    (fun hi => by cases hi) fun {s s' a} hr ih hok hs hserved' hterm' i hi => ?_
  have hcalm := hr.mono fun s a hok => hok.unscaled
  have hterm := no_stop_before hs hterm'
  have hbefore : WorkOver s.data ∧ ∀ i, Lacking s i → BeingFilled s i := by
    rcases served_before hs hserved' with hserved | ⟨j, ha, pc⟩
    · exact ⟨workOver_of_served hr hserved, ih hserved hterm⟩
    · exact ⟨workOver_of_leaving hr j (by rw [pc]; rfl), hok.served j ha pc hterm⟩
  rcases lacking_step hcalm hok.unscaled hs hi with hold | ⟨ex, hq⟩
  · exact beingFilled_step hcalm hok.unscaled hs (hbefore.2 i hold) hi
  · -- nobody looks at a job any more
    exact absurd (hbefore.1.without_stop hterm).2
      ((frontKept hr i).checkPaper (by rw [ex.running]; rfl) hq)

/-- **The refiller does not end** while a printer lacks paper and no stop was requested. -/
theorem refiller_not_ended {i : Slot}
    (h : Reach (program setup) (RefillsInTime setup) (freshState setup) s) (hi : Lacking s i)
    (hterm : s.data.gTerminateNow = false) : (s.ctl .refiller).status ≠ .ended := fun hended => by
  rcases (endsAnnounced h).ended hended with hstop | hserved
  · rw [hterm] at hstop; cases hstop
  · obtain ⟨_, hq⟩ := beingFilled_of_served h hserved hterm i hi
    have ha := refiller_alive h (by rcases hq with hq | hq | hq <;> rw [hq] <;> nofun)
      (by rcases hq with hq | hq | hq <;> rw [hq] <;> nofun)
      (by rcases hq with hq | hq | hq <;> rw [hq] <;> nofun)
    rw [hended] at ha
    cases ha

/-- A printer that waits for paper has written its request. -/
lemma asked_of_waiting {i : Slot} {m : Mutex}
    (h : Reach (program setup) ok (freshState setup) s)
    (hw : (s.ctl (.printer i)).status = .waiting .refillNeededCv m) :
    (s.printerPc i).phase = .asked := by
  obtain ⟨q, hq⟩ := waiting_place (fun c m hm => by cases hm) h hw
  change printerCode setup i (s.printerArgs i) q = .wait .refillNeededCv m (s.printerPc i) at hq
  cases q <;> simp only [printerCode, reduceCtorEq] at hq
  · rcases printerArgs_cases h i with harg | harg <;> rw [harg] at hq <;> cases hq
  · rw [← (Instr.wait.inj hq).2.2]
    rfl

/-- **No printer is stranded** in a run in which refills come in time.  While a printer waits for
paper and has too little, either the refiller has not ended and has its request or works on it, or a
stop was requested and another thread owes a broadcast. -/
theorem no_printer_stranded {i : Slot} {m : Mutex}
    (h : Reach (program setup) (RefillsInTime setup) (freshState setup) s)
    (hw : (s.ctl (.printer i)).status = .waiting .refillNeededCv m)
    (hlacks : lacksPaper s.data i = true) :
    ((s.ctl .refiller).status ≠ .ended ∧
        (i ∈ s.data.paperRefillQueue ∨
          (s.refillerPc.hasRequest = true ∧ s.data.refiller.printer = some i))) ∨
      (s.data.gTerminateNow = true ∧ ∃ t, t ≠ .printer i ∧ OwesRefilled s t) := by
  have hasked := asked_of_waiting h hw
  cases hterm : s.data.gTerminateNow with
  | false =>
      left
      refine ⟨refiller_not_ended h ⟨.inr hasked, hlacks⟩ hterm, ?_⟩
      have hsound := desk_sound (h.mono fun s a hok => hok.unscaled) i
      refine (hsound.heard hasked ((short_iff i).mpr hlacks)).imp_right ?_
      rintro ⟨n, hn⟩
      simp only [desk, order] at hn
      split at hn
      · next hreq =>
        obtain ⟨k, hk, hkn⟩ := Option.map_eq_some_iff.mp hn
        rw [hk, (Prod.mk.inj hkn).1]
        exact ⟨hreq, rfl⟩
      · cases hn
  | true =>
      right
      refine ⟨rfl, (waiting_owed (h.mono fun s a hok => ⟨hok.unscaled.noScaling, hok.owed⟩)
        hw).resolve_left ?_⟩
      rw [hterm]
      decide

/-- Two printers that hold 50 papers, and two jobs. -/
def twoJobs : Setup :=
  ⟨.server, { simulationDefaultParamsHighLoad with printerPaperCapacity := 50, numJobs := 2 }⟩

/-- The first printer has printed a job of 30 papers and has come to the next. -/
def firstJobPrinted : List SysAction :=
  [Action.env (Env.rand 20)] ++ runs Tid.main 20 ++ runs Tid.receiver 47 ++ runs (Tid.printer 0) 30

/-- The first printer waits while the refiller is on its way. -/
theorem no_printer_stranded_during_refill :
    ∃ s : Sys, Reach (program twoJobs) (RefillsInTime twoJobs) (freshState twoJobs) s ∧
      ((s.ctl (.printer 0)).status = .waiting .refillNeededCv .paperRefillQueueMutex ∧
        lacksPaper s.data 0 = true ∧ s.data.paperRefillQueue = [] ∧
        s.data.gTerminateNow = false) ∧
      (s.ctl .refiller).status ≠ .ended ∧ s.data.refiller.printer = some 0 := by
  obtain ⟨s, hs, hw, hlacks, hqueue, hterm⟩ := exists_run twoJobs
    (fun s a => Unscaled twoJobs s a ∧ s.data.gTerminateNow = false ∧
      ∀ i, a = .run (.printer i) → s.printerPc i ≠ .exitSetServed)
    (firstJobPrinted ++ runs (Tid.printer 0) 6 ++ runs Tid.refiller 11)
    (fun s => (s.ctl (.printer 0)).status = .waiting .refillNeededCv .paperRefillQueueMutex ∧
      lacksPaper s.data 0 = true ∧ s.data.paperRefillQueue = [] ∧ s.data.gTerminateNow = false)
    (by decide +kernel)
  have hs' : Reach (program twoJobs) (RefillsInTime twoJobs) (freshState twoJobs) s :=
    hs.mono fun s a ⟨hok, hterm, hout⟩ =>
      ⟨hok, fun i ha hq => absurd hq (hout i ha),
        fun _ _ _ hterm' => by rw [hterm] at hterm'; cases hterm'⟩
  refine ⟨s, hs', ⟨hw, hlacks, hqueue, hterm⟩, ?_⟩
  rcases no_printer_stranded hs' hw hlacks with ⟨hended, hreq | ⟨_, hprn⟩⟩ | ⟨hstop, _⟩
  · rw [hqueue] at hreq; cases hreq
  · exact ⟨hended, hprn⟩
  · rw [hterm] at hstop; cases hstop

/-- The second job joins the queue behind a stop request that the first printer has not seen; the
stop handler, the refiller and the second printer have ended, and the first printer waits. -/
def secondJobBehindStop : List SysAction :=
  [Action.env (Env.rand 20)] ++ runs Tid.main 20 ++ runs Tid.receiver 23 ++
    runs (Tid.printer 0) 26 ++ runs Tid.receiver 8 ++ runs Tid.stopper 19 ++
    runs (Tid.printer 1) 13 ++ runs Tid.receiver 16 ++ runs Tid.refiller 8 ++
    runs (Tid.printer 0) 10

/-- **A printer is stranded.**  In the first run it waits for a job that the other printer then
takes and prints; that printer exits and cancels the refiller in the middle of the refill.  In the
second run it begins to wait after the stop handler, the refiller and the other printer have made
their broadcasts, for a job that is still in the queue. -/
theorem printer_stranded :
    (∃ s : Sys, Reach (program twoJobs) (Unscaled twoJobs) (freshState twoJobs) s ∧
      (s.ctl (.printer 0)).status = .waiting .refillNeededCv .paperRefillQueueMutex ∧
      lacksPaper s.data 0 = true ∧ (s.ctl .refiller).status = .ended ∧
      s.data.gTerminateNow = false) ∧
    ∃ s : Sys, Reach (program twoJobs) (Unscaled twoJobs) (freshState twoJobs) s ∧
      (s.ctl (.printer 0)).status = .waiting .refillNeededCv .paperRefillQueueMutex ∧
      lacksPaper s.data 0 = true ∧ (s.data.printer 0).jobToDequeue ∈ s.data.jobQueue.list ∧
      (s.ctl .refiller).status = .ended ∧ ∀ t, t ≠ .printer 0 → ¬OwesRefilled s t := by
  refine ⟨exists_run twoJobs (Unscaled twoJobs)
    (firstJobPrinted ++ runs (Tid.printer 0) 6 ++ runs Tid.refiller 11 ++ runs (Tid.printer 1) 32 ++
      runs (Tid.printer 0) 5 ++ [Action.accept Tid.refiller])
    (fun s => (s.ctl (.printer 0)).status = .waiting .refillNeededCv .paperRefillQueueMutex ∧
      lacksPaper s.data 0 = true ∧ (s.ctl .refiller).status = .ended ∧
      s.data.gTerminateNow = false) (by decide +kernel), ?_⟩
  obtain ⟨s, hs, hw, hlacks, hjob, hended, hstop, hrefill, hprn⟩ := exists_run twoJobs
    (Unscaled twoJobs) secondJobBehindStop
    (fun s => (s.ctl (.printer 0)).status = .waiting .refillNeededCv .paperRefillQueueMutex ∧
      lacksPaper s.data 0 = true ∧ (s.data.printer 0).jobToDequeue ∈ s.data.jobQueue.list ∧
      (s.ctl .refiller).status = .ended ∧ ¬OwesRefilled s .stopper ∧ ¬OwesRefilled s .refiller ∧
      ∀ i, ¬OwesRefilled s (.printer i)) (by decide +kernel)
  refine ⟨s, hs, hw, hlacks, hjob, hended, fun t _ => ?_⟩
  cases t with
  | stopper => exact hstop
  | refiller => exact hrefill
  | printer i => exact hprn i
  | main | receiver | autoscaler => exact fun ht => ht.2

end Orchestrator
