import Orchestrator.Cancellation
import Orchestrator.Deadlock
import Orchestrator.Pool
import Orchestrator.Pthread.Progress

/-!
# What the main thread has created and joined

* `begun` — behind its creation a thread exists; behind its join it has ended (`ended_of_pastJoin`).
* `MainPc.fits` — which places of the main thread a setup has.
* `active_begun` — an active slot has a thread.
* `orphan_stopper` — without scaling, only the signal catching thread leaves mutexes behind, and
  only when everything else is over.
-/

namespace Orchestrator

open Pthread

variable {setup : Setup} {s s' : Sys} {a : SysAction} {d d' : Data}
  {ok : Sys → SysAction → Prop}

/-- An instruction that moves the main thread is executed by running it. -/
lemma main_runs (hs : step (program setup) s a = some s') (hpc : s'.mainPc ≠ s.mainPc) :
    a = .run .main ∧ Executes (program setup) s s' .main := by
  rcases place_cases hs .main with hpl | hrun | ⟨t, _, hc⟩
  · exact absurd hpl.1 hpc
  · exact hrun
  · rcases spawns_cases hc.spawned with ⟨_, hu | hu | hu | hu⟩ | ⟨_, i, hu⟩ <;> cases hu

/-! ## Places -/

/-- The places of the main thread that depend on the setup. -/
def MainPc.fits (setup : Setup) : MainPc → Bool
  | .createAutoscaler | .joinAutoscaler => setup.params.autoScaling != 0
  | .cancelAutoscaler => setup.params.autoScaling != 0 && decide (setup.mode = .terminal)
  | .createStopper | .cancelStopper | .joinStopper => decide (setup.mode = .terminal)
  | _ => true

lemma fits_of_goes {q q' : MainPc} (h : (mainCode setup q).Goes d d' q')
    (hq : q.fits setup = true) : q'.fits setup = true := by
  cases q with
  | exit => exact h.elim
  | createReceiver | createRefiller | createPrinter | createStopper =>
      rcases h.2 with rfl | rfl <;> rfl
  | createAutoscaler =>
      rcases h.2 with rfl | rfl
      · cases hm : setup.mode <;> simp [MainPc.fits, hm]
      · rfl
  | nextPrinter | checkSlot | checkJoin =>
      rw [h.2]
      simp only
      split <;> (try split) <;> rfl
  | checkAutoscaling | checkAutoscalingEnd =>
      rw [h.2]
      cases hm : setup.mode <;> by_cases hauto : setup.params.autoScaling = 0 <;>
        simp [MainPc.fits, hm, hauto]
  | cancelAutoscaler =>
      rw [h.2]
      simp only [MainPc.fits, Bool.and_eq_true] at hq
      exact hq.1
  | joinAutoscaler =>
      rw [h.2]
      cases hm : setup.mode <;> simp [MainPc.fits, hm]
  | cancelStopper => rw [h.2]; exact hq
  | _ => rw [h.2]; rfl

/-- **The main thread keeps to the places its setup has.** -/
theorem main_fits (h : Reach (program setup) ok (freshState setup) s) :
    s.mainPc.fits setup = true := by
  refine h.invariant (I := fun s : Sys => s.mainPc.fits setup = true) rfl
    fun {s s' a} _ ih _ hs => ?_
  rcases main_cases hs with hpl | goes
  · rw [Sys.mainPc, hpl.1]; exact ih
  · exact fits_of_goes goes ih

/-! ## Creations -/

/-- The setup asks for the thread. -/
def Wanted (setup : Setup) (u : Tid) : Prop := u = .autoscaler → setup.params.autoScaling ≠ 0

lemma createdAfter_inj {u v : Tid} {n : ℕ} (hu : createdAfter setup u = some n)
    (hv : createdAfter setup v = some n) : u = v := by
  cases hm : setup.mode <;> cases u <;> cases v <;> simp_all [createdAfter] <;> omega

lemma createdAfter_le {u : Tid} {n : ℕ} (hu : createdAfter setup u = some n) : n ≤ 3 := by
  cases hm : setup.mode <;> cases u <;> simp_all [createdAfter] <;> omega

lemma server_stage {u : Tid} {n : ℕ} (hm : setup.mode = .server)
    (hu : createdAfter setup u = some n) : n ≤ 2 := by
  cases u <;> simp_all [createdAfter] <;> omega

lemma stopper_of_stage {u : Tid} (hu : createdAfter setup u = some 3) : u = .stopper := by
  cases u <;> simp_all [createdAfter]

lemma terminal_of_createdAfter {n : ℕ} (hu : createdAfter setup .stopper = some n) :
    setup.mode = .terminal := by
  cases hm : setup.mode with
  | terminal => rfl
  | server => simp [createdAfter, hm] at hu

/-- The end of the check for autoscaling ends the stage of no thread that is wanted. -/
lemma stage_of_checkAutoscaling {u : Tid} {n : ℕ} {q' : MainPc}
    (hu : createdAfter setup u = some n) (hwant : Wanted setup u) (hn : 2 ≤ n)
    (h : (mainCode setup .checkAutoscaling).Goes d d' q') : q'.stage ≤ n := by
  rw [h.2]
  by_cases hauto : setup.params.autoScaling = 0
  · have hne : n ≠ 2 := by
      rintro rfl
      exact hwant (createdAfter_inj hu rfl) hauto
    cases hm : setup.mode with
    | terminal => simp [hauto, MainPc.stage]; omega
    | server => exact absurd ((server_stage hm hu).antisymm hn) hne
  · simp [hauto, MainPc.stage]
    omega

/-- The step of the main thread that ends the stage of a thread creates it. -/
lemma running_of_stage {u : Tid} {n : ℕ} (hs : step (program setup) s (.run .main) = some s')
    (ex : Executes (program setup) s s' .main) (hu : createdAfter setup u = some n)
    (hwant : Wanted setup u) (hn : s.mainPc.stage ≤ n) (hn' : n < s'.mainPc.stage) :
    (s'.ctl u).status = .running := by
  have hcreate : ∀ {target : Data → Option Tid} {next fail : MainPc} {v : Tid},
      mainCode setup s.mainPc = .create target sharedPrinterArgs (fun _ => true) next fail →
        target s.data = some v → (s'.ctl v).status = .running ∧ s'.mainPc = next :=
    fun hi hv => running_of_create hs ex.running hi hv rfl
  have goes : (mainCode setup s.mainPc).Goes s.data s'.data s'.mainPc := ex.goes
  have hstage : ∀ v k, createdAfter setup v = some k → k = n → v = u := fun v k hv hk => by
    subst hk
    exact createdAfter_inj hv hu
  have hle := createdAfter_le hu
  generalize s.mainPc = q at *
  cases q with
  | exit => exact goes.elim
  | createReceiver =>
      obtain ⟨hrun, hq'⟩ := hcreate rfl rfl
      rw [hq'] at hn'
      have hn0 : 0 = n := by simp [MainPc.stage] at hn'; omega
      exact hstage .receiver 0 rfl hn0 ▸ hrun
  | createRefiller =>
      obtain ⟨hrun, hq'⟩ := hcreate rfl rfl
      rw [hq'] at hn'
      have hn1 : 1 = n := by simp [MainPc.stage] at hn hn'; omega
      exact hstage .refiller 1 rfl hn1 ▸ hrun
  | createAutoscaler =>
      obtain ⟨hrun, hq'⟩ := hcreate rfl rfl
      rw [hq'] at hn'
      have hn2 : 2 = n := by
        simp only [MainPc.stage] at hn
        cases hm : setup.mode with
        | terminal => simp [hm, MainPc.stage] at hn'; omega
        | server => exact (server_stage hm hu).antisymm' hn
      exact hstage .autoscaler 2 rfl hn2 ▸ hrun
  | createStopper =>
      obtain ⟨hrun, _⟩ := hcreate rfl rfl
      have hn3 : n = 3 := by simp [MainPc.stage] at hn; omega
      exact stopper_of_stage (hn3 ▸ hu) ▸ hrun
  | checkAutoscaling =>
      exact absurd hn' (Nat.not_lt.mpr (stage_of_checkAutoscaling hu hwant hn goes))
  | createPrinter =>
      rcases goes.2 with hq' | hq' <;> rw [hq'] at hn' <;> exact absurd hn' (Nat.not_lt.mpr hn)
  | nextPrinter | checkSlot =>
      rw [goes.2] at hn'
      beta_reduce at hn'
      split at hn' <;> exact absurd hn' (Nat.not_lt.mpr hn)
  | emitParameters | emitStart | startPrinters | markStarted | emitIdle | countPrinter =>
      rw [goes.2] at hn'
      exact absurd hn' (Nat.not_lt.mpr hn)
  | _ =>
      simp only [MainPc.stage] at hn
      omega

/-- **Behind its creation a thread exists.** -/
theorem begun (h : Reach (program setup) ok (freshState setup) s) {u : Tid} {n : ℕ}
    (hu : createdAfter setup u = some n) (hwant : Wanted setup u) :
    n < s.mainPc.stage → (s.ctl u).status ≠ .absent := by
  have hfresh : ¬n < (freshState setup).mainPc.stage := Nat.not_lt_zero n
  refine h.invariant (I := fun s : Sys => n < s.mainPc.stage → (s.ctl u).status ≠ .absent)
    (fun hn => absurd hn hfresh) fun {s s' a} _ ih _ hs hn => ?_
  by_cases hold : n < (Sys.mainPc s).stage
  · exact present_step hs (ih hold)
  · have hmoved : Sys.mainPc s' ≠ Sys.mainPc s := fun hpc => hold (hpc ▸ hn)
    obtain ⟨rfl, ex⟩ := main_runs hs hmoved
    rw [running_of_stage hs ex hu hwant (Nat.not_lt.mp hold) hn]
    simp

/-- A thread that only the main thread creates does not come back from its end. -/
lemma ended_stays {u : Tid} {n : ℕ} (h : Reach (program setup) ok (freshState setup) s)
    (hs : step (program setup) s a = some s') (hu : createdAfter setup u = some n)
    (hended : (s.ctl u).status = .ended) : (s'.ctl u).status = .ended := by
  rcases ended_step hs hended with hstays | ⟨t, ex, hc⟩
  · exact hstays
  · obtain ⟨_, hstage, _, _⟩ := created_stage ex hc hu
    rw [(unstarted h u n hu hstage.le).1] at hended
    cases hended

/-! ## Joins -/

/-- The main thread has come past its join of the thread. -/
def MainPc.pastJoin : MainPc → Tid → Bool
  | .startJoins, .receiver | .checkJoin, .receiver | .joinPrinter, .receiver
  | .countJoin, .receiver | .joinRefiller, .receiver => true
  | .checkAutoscalingEnd, .receiver | .checkAutoscalingEnd, .refiller
  | .cancelAutoscaler, .receiver | .cancelAutoscaler, .refiller
  | .joinAutoscaler, .receiver | .joinAutoscaler, .refiller => true
  | .cancelStopper, .stopper | .joinStopper, .stopper => false
  | .cancelStopper, _ | .joinStopper, _ | .emitEnd, _ | .emitStatistics, _ | .exit, _ => true
  | _, _ => false

/-- The main thread comes past a join by joining, or there is no thread to join. -/
lemma pastJoin_of_goes {q q' : MainPc} {u : Tid} {n : ℕ} (h : (mainCode setup q).Goes d d' q')
    (hu : createdAfter setup u = some n) (hwant : Wanted setup u) (hq' : q'.pastJoin u = true) :
    q.pastJoin u = true ∨ ∃ next, mainCode setup q = .join (fun _ => some u) next := by
  cases q with
  | exit => exact h.elim
  | createReceiver | createRefiller | createPrinter | createStopper =>
      rcases h.2 with rfl | rfl <;> cases u <;> cases hq'
  | createAutoscaler =>
      rcases h.2 with rfl | rfl
      · split at hq' <;> cases u <;> cases hq'
      · cases u <;> cases hq'
  | nextPrinter | checkSlot | checkAutoscaling =>
      rw [h.2] at hq'
      beta_reduce at hq'
      split at hq' <;> (try split at hq') <;> cases u <;> cases hq'
  | checkJoin =>
      rw [h.2] at hq'
      beta_reduce at hq'
      left
      split at hq' <;> (try split at hq') <;> cases u <;> first | rfl | cases hq'
  | joinReceiver | joinRefiller | joinStopper =>
      rw [h.2] at hq'
      cases u <;> first
        | exact .inl rfl
        | exact .inr ⟨_, rfl⟩
        | cases hq'
  | checkAutoscalingEnd =>
      left
      cases u with
      | receiver | refiller => rfl
      | main | printer i => cases hu
      | autoscaler =>
          rw [h.2] at hq'
          cases hm : setup.mode <;> simp [hm, hwant rfl, MainPc.pastJoin] at hq'
      | stopper =>
          have hm := terminal_of_createdAfter hu
          rw [h.2] at hq'
          by_cases hauto : setup.params.autoScaling = 0 <;>
            simp [hm, hauto, MainPc.pastJoin] at hq'
  | joinAutoscaler =>
      cases u with
      | receiver | refiller => exact .inl rfl
      | main | printer i => cases hu
      | autoscaler => exact .inr ⟨_, rfl⟩
      | stopper =>
          rw [h.2] at hq'
          simp [terminal_of_createdAfter hu, MainPc.pastJoin] at hq'
  | _ =>
      rw [h.2] at hq'
      left
      cases u <;> first | rfl | cases hq'

/-- **Behind its join a thread has ended.** -/
theorem ended_of_pastJoin (h : Reach (program setup) ok (freshState setup) s) {u : Tid} {n : ℕ}
    (hu : createdAfter setup u = some n) (hwant : Wanted setup u) :
    s.mainPc.pastJoin u = true → (s.ctl u).status = .ended := by
  refine h.invariant (I := fun s : Sys => s.mainPc.pastJoin u = true → (s.ctl u).status = .ended)
    (fun hq => by cases u <;> cases hq) fun {s s' a} hr ih _ hs hq => ?_
  by_cases hold : (Sys.mainPc s).pastJoin u = true
  · exact ended_stays hr hs hu (ih hold)
  · have hmoved : Sys.mainPc s' ≠ Sys.mainPc s := fun hpc => hold (hpc ▸ hq)
    obtain ⟨rfl, ex⟩ := main_runs hs hmoved
    obtain ⟨next, hi⟩ := (pastJoin_of_goes ex.goes hu hwant hq).resolve_left hold
    exact ended_stays hr hs hu (ended_of_join hs ex.running hi rfl)

/-! ## Slots -/

/-- A slot that is active has a thread, one that is about to be marked so has one, and a slot whose
thread the main thread is about to join is active. -/
structure ActiveBegun (s : Sys) : Prop where
  active : ∀ j, s.data.slots.active j = true → (s.ctl (.printer j)).status ≠ .absent
  marked : s.mainPc = .markStarted → ∀ j, slotOfIndex (s.data.mainI - 1) = some j →
    (s.ctl (.printer j)).status ≠ .absent
  joined : s.mainPc = .joinPrinter → ∀ j, slotOfIndex s.data.mainI = some j →
    s.data.slots.active j = true

lemma main_joins {q : MainPc} (h : (mainCode setup q).Goes d d' .joinPrinter) :
    d' = d ∧ ∀ j, slotOfIndex d.mainI = some j → d.slots.active j = true := by
  cases q with
  | exit => exact h.elim
  | checkJoin =>
      obtain ⟨hd, hq⟩ := h
      refine ⟨hd, fun j hj => ?_⟩
      beta_reduce at hq
      split at hq
      · split at hq
        · next hactive => simpa [Main.isSlotActive, hj, Data.slots] using hactive
        · cases hq
      · cases hq
  | createReceiver | createRefiller | createPrinter | createStopper =>
      rcases h.2 with hq | hq <;> cases hq
  | createAutoscaler =>
      rcases h.2 with hq | hq
      · split at hq <;> cases hq
      · cases hq
  | nextPrinter | checkSlot | checkAutoscaling | checkAutoscalingEnd =>
      have hq := h.2
      beta_reduce at hq
      split at hq <;> (try split at hq) <;> cases hq
  | joinAutoscaler =>
      have hq := h.2
      split at hq <;> cases hq
  | _ => cases h.2

/-- The main thread marks a slot after it has created its thread. -/
lemma createPrinter_of_goes {q : MainPc} (h : (mainCode setup q).Goes d d' .markStarted) :
    q = .createPrinter := by
  cases q with
  | exit => exact h.elim
  | createPrinter => rfl
  | createReceiver | createRefiller | createStopper => rcases h.2 with hq | hq <;> cases hq
  | createAutoscaler =>
      rcases h.2 with hq | hq
      · split at hq <;> cases hq
      · cases hq
  | nextPrinter | checkSlot | checkAutoscaling | checkAutoscalingEnd | checkJoin =>
      have hq := h.2
      beta_reduce at hq
      split at hq <;> (try split at hq) <;> cases hq
  | joinAutoscaler =>
      have hq := h.2
      split at hq <;> cases hq
  | _ => cases h.2

lemma ActiveBegun.step (ih : ActiveBegun s) (hok : NoScaling s a)
    (hs : step (program setup) s a = some s') : ActiveBegun s' := by
  rcases slots_cases hok hs with ⟨hslots, hpc, _, _⟩ | ⟨rfl, ex, goes⟩
  · have hi : s'.data.mainI = s.data.mainI := congrArg SlotView.mainI hslots
    refine ⟨fun j hj => present_step hs (ih.active j (hslots ▸ hj)), fun hq j hj => ?_,
      fun hq j hj => ?_⟩
    · exact present_step hs (ih.marked (hpc ▸ hq) j (hi ▸ hj))
    · rw [hslots]
      exact ih.joined (hpc ▸ hq) j (hi ▸ hj)
  · refine ⟨fun j hj => ?_, fun hq j hj => ?_, fun hq j hj => ?_⟩
    · have hold : s.data.slots.active j = true → (s'.ctl (.printer j)).status ≠ .absent :=
        fun hact => present_step hs (ih.active j hact)
      rcases main_slots goes with ⟨hslots, _⟩ | ⟨_, hslots⟩ | ⟨hq, hd⟩ | ⟨_, hslots⟩ | ⟨_, hslots⟩
      · exact hold (hslots ▸ hj)
      · rw [hslots] at hj; exact hold hj
      · by_cases hsame : slotOfIndex (s.data.mainI - 1) = some j
        · exact present_step hs (ih.marked hq j hsame)
        · refine hold ?_
          rw [hd] at hj
          simp only [Data.slots, markStarted] at hj ⊢
          split at hj
          · next i hi =>
            have hne : j ≠ i := by rintro rfl; exact hsame hi
            simpa [PrinterPool.setActive, hne] using hj
          · exact hj
      · rw [hslots] at hj; exact hold hj
      · rw [hslots] at hj; exact hold hj
    · rw [hq] at goes
      have hcreate := createPrinter_of_goes goes
      obtain ⟨u, hu, hrun⟩ := running_of_created hs ex.running (main_createPrinter hcreate)
        (by simp) hq
      rw [hcreate] at goes
      rw [goes.1] at hj
      rw [hj] at hu
      obtain rfl := Option.some.inj hu
      rw [hrun]
      simp
    · rw [hq] at goes
      obtain ⟨hd, hactive⟩ := main_joins goes
      rw [hd] at hj ⊢
      exact hactive j hj

/-- **Every active slot has a thread.** -/
theorem active_begun (h : Reach (program setup) NoScaling (freshState setup) s) : ActiveBegun s :=
  h.invariant (I := ActiveBegun) ⟨fun j hj => (by cases hj), fun hq => (by cases hq),
    fun hq => (by cases hq)⟩ fun _ ih hok hs => ih.step hok hs

/-! ## Mutexes left behind -/

/-- The places the autoscaler comes to while it does not scale. -/
def AutoscalerPc.idles : AutoscalerPc → Bool
  | .upLockPool | .downLockPool => true
  | q => !q.scales

lemma idles_of_goes {q q' : AutoscalerPc} (h : (autoscalerCode setup q).Goes d d' q')
    (hq : q.scales = false) : q'.idles = true := by
  cases q with
  | exit => exact h.elim
  | readFlags | decideUp | decideDown =>
      rw [h.2]
      beta_reduce
      split <;> rfl
  | lockState | lockQueue | readLength | readClock | lockPoolUp | lockPoolDown | sleep =>
      rw [h.2]; rfl
  | _ => cases hq

lemma autoscaler_cases (h : Reach (program setup) ok (freshState setup) s)
    (hs : step (program setup) s a = some s') :
    (¬Executes (program setup) s s' .autoscaler ∧ s'.autoscalerPc = s.autoscalerPc) ∨
      (Executes (program setup) s s' .autoscaler ∧
        (autoscalerCode setup s.autoscalerPc).Goes s.data s'.data s'.autoscalerPc) := by
  rcases stays_or_executes (u := .autoscaler) h hs (by simp) with ⟨hex, hpl⟩ | hex
  · exact .inl ⟨hex, hpl.1⟩
  · exact .inr ⟨hex, hex.goes⟩

/-- **Without scaling the autoscaler comes no further than to the first lock of an operation.** -/
theorem autoscaler_idle (h : Reach (program setup) NoScaling (freshState setup) s) :
    s.autoscalerPc.idles = true := by
  refine h.invariant (I := fun s : Sys => s.autoscalerPc.idles = true) rfl
    fun {s s' a} hr ih hok hs => ?_
  rcases autoscaler_cases hr hs with ⟨_, hpc⟩ | ⟨ex, goes⟩
  · rw [hpc]; exact ih
  · exact idles_of_goes goes (autoscaler_idles hok hs ex)

/-- Without scaling every cancellation is quiet, except that of the signal catching thread. -/
lemma quiet_of_accept {t : Tid} (h : Reach (program setup) NoScaling (freshState setup) s)
    (ht : t ≠ .stopper) (hs : step (program setup) s (.accept t) = some s') :
    QuietCancel s (.accept t) := by
  cases t with
  | main | receiver | refiller => exact trivial
  | stopper => exact absurd rfl ht
  | printer i =>
      have hmust : ∀ must : (s.ctl (.printer i)).mustCancel = true, False := fun must => by
        rw [Thread.mustCancel, never_pending h i, Bool.and_false] at must
        cases must
      cases step_effect hs with
      | acceptRunning _ must _ _ _ => exact (hmust must).elim
      | acceptWaiting _ _ must _ _ => exact (hmust must).elim
  | autoscaler =>
      have hpoint := (accept_running h hs fun _ q _ _ _ hw => by
        rcases waiter_cases hw with ⟨_, ht⟩ | ht <;> cases ht).2
      have hidle := autoscaler_idle h
      change (autoscalerCode setup s.autoscalerPc).isCancelPoint = true at hpoint
      change s.autoscalerPc.quiet = true
      generalize s.autoscalerPc = q at hpoint hidle ⊢
      cases q <;> first
        | rfl
        | exact Bool.noConfusion hidle
        | exact Bool.noConfusion hpoint

/-- Without scaling nobody is cancelled in a condition wait. -/
lemma not_cancelled (h : Reach (program setup) NoScaling (freshState setup) s) (t : Tid)
    (m : Mutex) : (s.ctl t).status ≠ .cancelled m := by
  have hwait : (s.ctl t).status.mutex = some m → (∃ i, t = .printer i) ∨ t = .refiller :=
    fun hm => by
      obtain ⟨c, q, hq⟩ := waitPlace_fresh h t m hm
      exact waiter_cases hq
  intro hst
  rcases hwait (by rw [hst]; rfl) with ⟨i, rfl⟩ | rfl
  · have hset : Settled (program setup) s (.printer i) :=
      settled (fun s a ha => ha i) ⟨fun m => by simp [freshState], fun _ => rfl,
        fun h => by simp [freshState] at h⟩ (noPrinterCancelled h)
    exact hset.notCancelled m hst
  · exact (refiller_guarded h).notCancelled m hst

/-- The server's event loop is not cancelled. -/
lemma terminal_of_pending (h : Reach (program setup) ok (freshState setup) s) :
    (s.ctl .stopper).cancelPending = true → setup.mode = .terminal := by
  refine h.invariant (I := fun s : Sys => (s.ctl .stopper).cancelPending = true →
    setup.mode = .terminal) (fun hp => by cases hp) fun {s s' a} hr ih _ hs hp => ?_
  rcases pending_step hs hp with hold | ⟨t, _, hc⟩
  · exact ih hold
  · have hfits := main_fits hr
    rw [(cancels_stopper hc).2] at hfits
    simpa [MainPc.fits] using hfits

/-- The signal catching thread was cancelled, at the end of the command line program. -/
structure StopperCut (setup : Setup) (s : Sys) : Prop where
  mode : setup.mode = .terminal
  main : s.mainPc.stopperCancelled = true
  ended : (s.ctl .stopper).status = .ended

lemma StopperCut.step (hcut : StopperCut setup s)
    (h : Reach (program setup) ok (freshState setup) s)
    (hs : Pthread.step (program setup) s a = some s') : StopperCut setup s' where
  mode := hcut.mode
  main := by
    rcases main_cases hs with hpl | goes
    · rw [Sys.mainPc, hpl.1]; exact hcut.main
    · exact stopperCancelled_of_goes goes (.inl hcut.main)
  ended := ended_stays h hs (n := 3) (by simp [createdAfter, hcut.mode]) hcut.ended

/-- **Only a signal catching thread that was cancelled leaves a mutex behind**, in a run without
scaling. -/
theorem orphan_stopper (h : Reach (program setup) NoScaling (freshState setup) s) :
    ∀ m v, s.owner m = .ended v → StopperCut setup s := by
  refine h.invariant (I := fun s : Sys => ∀ m v, s.owner m = .ended v → StopperCut setup s)
    (fun m v hm => by cases hm) fun {s s' a} hr ih hok hs m v hm => ?_
  have hold : s.owner m = .ended v → StopperCut setup s' := fun hown => (ih m v hown).step hr hs
  -- a thread that ends leaves behind what it owns
  have hfinish : ∀ t, s' = s.finish t → s.owner m = .ended v ∨ s.owner m = .held t := by
    rintro t rfl
    rw [State.finish_owner] at hm
    split at hm
    · next hheld => exact .inr hheld
    · exact .inl hm
  have hinv := lockInv hr
  cases step_effect hs with
  | exec t ex =>
      by_contra hcut
      exact Discipline.locks_not_ended ex.locks (fun hown => hcut (hold hown)) hm
  | exit t _ instr eq =>
      have hresp := hinv.argOk_instr t
      rw [instr] at hresp
      exact hold ((hfinish t eq).resolve_right (hinv.not_owner hresp))
  | resume t m' _ _ eq =>
      subst eq
      rw [State.setOwner_owner] at hm
      split at hm
      · cases hm
      · exact hold hm
  | die t m' cancelled _ _ => exact absurd cancelled (not_cancelled hr t m')
  | acceptRunning t must running _ eq =>
      by_cases ht : t = .stopper
      · subst ht
        subst eq
        rw [Thread.mustCancel, Bool.and_eq_true] at must
        refine ⟨terminal_of_pending hr must.2, ?_, by rw [State.finish_ctl_self]⟩
        rw [Sys.mainPc, State.finish_ctl_of_ne (by simp)]
        exact stopper_pending hr must.2
      · have hheld := (quiet_accept hr (quiet_of_accept hr ht hs) hs).2
        exact hold ((hfinish t eq).resolve_right (hinv.not_owner hheld))
  | acceptWaiting t m' _ _ eq => subst eq; exact hold hm
  | spurious t c m' _ eq => subst eq; exact hold hm
  | env e eq => subst eq; exact hold hm

end Orchestrator
