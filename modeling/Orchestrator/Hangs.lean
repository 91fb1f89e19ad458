import Orchestrator.LiveJobs
import Orchestrator.RefillerWakeUps
import Orchestrator.ServiceTimes

/-!
# When a run can hang

A run hangs where no thread can take a step of its own, although some have not ended.  Without
scaling, and if every job fits into a printer, there is one way to come there besides a run without
printers: a printer waits for paper and the refiller has ended.

The result is about the server.  In the command line program the main thread cancels the signal
catching thread, which may then keep the lock of `stdout` and hold up every printer for ever.

* `Stuck` — no thread can take a step, but the user can still ask for a stop.
* `mutexes_free` — then nobody waits for a mutex.
* `waiters_of_stuck` — nor does a printer wait for a job.
* `ways_to_hang` — what is left.
* `hangs_for_paper` — where no job is taken from under a printer that has looked at it, the printer
  waits because a stop was requested.
-/

namespace Orchestrator

open Pthread Stock

variable {setup : Setup} {s s' : Sys} {a : SysAction} {ok : Sys → SysAction → Prop}

/-! ## Threads that have ended -/

/-- A stop request ends the arrivals. -/
lemma arrived_of_terminate (h : Reach (program setup) ok (freshState setup) s) :
    s.data.flags.terminateNow = true → s.data.flags.arrived = true := by
  refine h.invariant (I := fun s : Sys => s.data.flags.terminateNow = true →
    s.data.flags.arrived = true) (fun hi => by cases hi) fun {s s' a} _ ih _ hs hterm => ?_
  cases flag_step hs with
  | same flags => rw [flags] at hterm ⊢; exact ih hterm
  | served _ _ _ _ flags => rw [flags] at hterm ⊢; exact ih hterm
  | arrived _ _ flags => rw [flags]
  | stopped _ _ _ flags => rw [flags]

/-- The receiver has announced the end of the arrivals. -/
def ReceiverPc.hasEnded : ReceiverPc → Bool
  | .endLockQueue | .endNotifyPrinters | .endUnlockQueue | .exit => true
  | _ => false

lemma hasEnded_of_goes {d d' : Data} {q q' : ReceiverPc} (h : (receiverCode setup q).Goes d d' q')
    (hq' : q'.hasEnded = true) : q.hasEnded = true ∨ d'.flags.arrived = true := by
  cases q with
  | exit => exact h.elim
  | endLockQueue | endNotifyPrinters | endUnlockQueue => exact .inl rfl
  | endSetArrived => right; rw [h.1]; rfl
  | nextJob | readTerminate | checkCapacity =>
      rw [h.2] at hq'
      beta_reduce at hq'
      split at hq' <;> cases hq'
  | _ => rw [h.2] at hq'; cases hq'

/-- Whatever leads to the end of the receiver ends the arrivals. -/
structure ArrivalsEnded (s : Sys) : Prop where
  pending : (s.ctl .receiver).cancelPending = true → s.data.flags.arrived = true
  leaving : s.receiverPc.hasEnded = true → s.data.flags.arrived = true
  ended : (s.ctl .receiver).status = .ended → s.data.flags.arrived = true

lemma ArrivalsEnded.step (ih : ArrivalsEnded s)
    (h : Reach (program setup) ok (freshState setup) s)
    (hs : step (program setup) s a = some s') : ArrivalsEnded s' := by
  have hmono : s.data.flags.arrived = true → s'.data.flags.arrived = true := (flags_mono hs).2.1
  refine ⟨fun hp => ?_, fun hq => ?_, fun hst => hmono ?_⟩
  · rcases pending_step hs hp with hp | ⟨t, _, hc⟩
    · exact hmono (ih.pending hp)
    · rcases cancels_cases hc with ⟨_, hu | hu⟩ | ⟨_, ⟨hq, _⟩ | ⟨_, hu⟩⟩ | ⟨_, _, i, hu, _⟩ |
        ⟨i, _, _, hu⟩
      · cases hu
      · cases hu
      · exact hmono (arrived_of_terminate h (terminate_of_owesForEnd h (by rw [hq]; rfl)))
      · cases hu
      · cases hu
      · cases hu
  · rcases receiver_cases h hs with ⟨_, hpc, _⟩ | ⟨_, goes⟩
    · exact hmono (ih.leaving (hpc ▸ hq))
    · rcases hasEnded_of_goes goes hq with hq | harr
      · exact hmono (ih.leaving hq)
      · exact harr
  · cases thread_step hs .receiver with
    | same ctl => rw [ctl] at hst; exact ih.ended hst
    | exec ex =>
        rcases (s.instr (program setup) .receiver).statusAfter_cases with hr | ⟨c, m, q, _, hr⟩ <;>
          rw [ex.status, hr] at hst <;> cases hst
    | created t _ _ hc => rw [hc.fresh] at hst; cases hst
    | asked t _ _ ctl => rw [ctl] at hst; exact ih.ended hst
    | woken c m _ ctl => rw [ctl] at hst; cases hst
    | resume m _ ctl => rw [ctl] at hst; cases hst
    | exit _ hexit _ =>
        refine ih.leaving ?_
        change receiverCode setup s.receiverPc = .exit at hexit
        generalize s.receiverPc = q at *
        cases q <;> first | rfl | cases hexit
    | die m hc _ => exact absurd hc ((receiver_guarded h).notCancelled m)
    | killed must _ _ _ =>
        rw [Thread.mustCancel, Bool.and_eq_true] at must
        exact ih.pending must.2
    | caught m _ _ ctl => rw [ctl] at hst; cases hst

/-- **The receiver ends when the arrivals have ended.** -/
theorem arrivalsEnded (h : Reach (program setup) ok (freshState setup) s) : ArrivalsEnded s :=
  h.invariant (I := ArrivalsEnded) ⟨fun hp => (by cases hp), fun hq => (by cases hq),
    fun hst => (by cases hst)⟩ fun hr ih _ hs => ih.step hr hs

/-! ## The stop handler -/

/-- The stop handler can always be cancelled. -/
lemma stopper_enabled (h : Reach (program setup) ok (freshState setup) s) :
    (s.ctl .stopper).cancelEnabled = true := by
  refine h.invariant (I := fun s : Sys => (s.ctl .stopper).cancelEnabled = true) rfl
    fun {s s' a} _ ih _ hs => ?_
  cases thread_step hs .stopper with
  | same ctl => rw [ctl]; exact ih
  | exec ex =>
      rw [ex.enabled, ih]
      show (stopCode setup (Sys.stopPc s)).enabledAfter true = true
      generalize Sys.stopPc s = q
      cases q with
      | done => rw [stopCode]; split <;> rfl
      | _ => rfl
  | created t _ _ hc => rw [hc.fresh]
  | asked t _ _ ctl | woken c m _ ctl | resume m _ ctl | exit _ _ ctl | die m _ ctl
  | killed _ _ _ ctl | caught m _ _ ctl => rw [ctl]; exact ih

lemma stopper_idle_of_absent (h : Reach (program setup) ok (freshState setup) s) :
    (s.ctl .stopper).status = .absent → s.stopPc = .idle := by
  refine h.invariant (I := fun s : Sys => (s.ctl .stopper).status = .absent → s.stopPc = .idle)
    (fun _ => rfl) fun {s s' a} hr ih _ hs hst => ?_
  rcases stop_cases hr hs with ⟨_, hpc⟩ | ⟨ex, _⟩
  · rw [hpc]
    refine ih ?_
    by_contra hpresent
    exact present_step hs hpresent hst
  · exact absurd hst (present_step hs (by rw [ex.running]; simp))

/-- The stop handler ends behind a request, or because it is cancelled. -/
lemma stopper_done_of_ended (h : Reach (program setup) NoScaling (freshState setup) s) :
    (s.ctl .stopper).status = .ended → s.stopPc = .done ∨ s.mainPc.stopperCancelled = true := by
  refine h.invariant (I := fun s : Sys => (s.ctl .stopper).status = .ended →
    s.stopPc = .done ∨ s.mainPc.stopperCancelled = true)
    (fun hst => by cases hm : setup.mode <;> simp [freshState, hm] at hst)
    fun {s s' a} hr ih hok hs hst => ?_
  have hcancelled : (Sys.mainPc s).stopperCancelled = true →
      (Sys.mainPc s').stopperCancelled = true := fun hq => by
    rcases main_cases hs with hpl | goes
    · have hpc : Sys.mainPc s' = Sys.mainPc s := hpl.1
      rw [hpc]; exact hq
    · exact stopperCancelled_of_goes goes (.inl hq)
  have hsame : Sys.stopPc s' = Sys.stopPc s → (s.ctl .stopper).status = .ended →
      Sys.stopPc s' = .done ∨ (Sys.mainPc s').stopperCancelled = true := fun hpc hended => by
    rw [hpc]
    exact (ih hended).imp_right hcancelled
  cases thread_step hs .stopper with
  | same ctl => exact hsame (congrArg Thread.pc ctl) (by rwa [ctl] at hst)
  | exec ex =>
      rcases (s.instr (program setup) .stopper).statusAfter_cases with hr | ⟨c, m, q, _, hr⟩ <;>
        rw [ex.status, hr] at hst <;> cases hst
  | created t _ _ hc => rw [hc.fresh] at hst; cases hst
  | asked t _ _ ctl => exact hsame (by show (s'.ctl _).pc = _; rw [ctl]) (by rwa [ctl] at hst)
  | woken c m _ ctl => rw [ctl] at hst; cases hst
  | resume m _ ctl => rw [ctl] at hst; cases hst
  | exit _ hexit ctl =>
      left
      have hpc : Sys.stopPc s' = Sys.stopPc s := by show (s'.ctl _).pc = _; rw [ctl]
      rw [hpc]
      change stopCode setup (Sys.stopPc s) = .exit at hexit
      generalize Sys.stopPc s = q at hexit
      cases q <;> first | rfl | cases hexit
  | die m hc _ => exact absurd hc (not_cancelled hr _ m)
  | killed must _ _ _ =>
      rw [Thread.mustCancel, Bool.and_eq_true] at must
      exact .inr (hcancelled (stopper_pending hr must.2))
  | caught m _ _ ctl => rw [ctl] at hst; cases hst

/-- The main thread comes to the join of the signal catching thread from its cancellation. -/
lemma cancelStopper_of_goes {d d' : Data} {q : MainPc}
    (h : (mainCode setup q).Goes d d' .joinStopper) : q = .cancelStopper := by
  cases q with
  | exit => exact h.elim
  | cancelStopper => rfl
  | createReceiver | createRefiller | createPrinter | createStopper =>
      rcases h.2 with hq | hq <;> cases hq
  | createAutoscaler =>
      rcases h.2 with hq | hq
      · split at hq <;> cases hq
      · cases hq
  | nextPrinter | checkSlot | checkAutoscaling | checkAutoscalingEnd | checkJoin =>
      have hq := h.2
      beta_reduce at hq
      split at hq <;> (try split at hq) <;> cases hq
  | joinAutoscaler =>
      have hq := h.2
      split at hq <;> cases hq
  | _ => cases h.2

/-- The main thread joins a signal catching thread that it has asked to end. -/
lemma stopper_asked (h : Reach (program setup) ok (freshState setup) s) :
    s.mainPc = .joinStopper → (s.ctl .stopper).cancelPending = true := by
  refine h.invariant (I := fun s : Sys => s.mainPc = .joinStopper →
    (s.ctl .stopper).cancelPending = true) (fun hq => by cases hq) fun {s s' a} hr ih _ hs hq => ?_
  by_cases hold : Sys.mainPc s = .joinStopper
  · rcases pending_stays hs (ih hold) with hp | ⟨t, ex, hc⟩
    · exact hp
    · rcases spawns_cases hc.spawned with ⟨rfl, _⟩ | ⟨_, i, hu⟩
      · have hcreate := main_spawns_stopper hc.spawned
        change Sys.mainPc s = .createStopper at hcreate
        rw [hold] at hcreate
        cases hcreate
      · cases hu
  · obtain ⟨rfl, ex⟩ := main_runs hs fun hpc => hold (hpc ▸ hq)
    have goes : (mainCode setup (Sys.mainPc s)).Goes s.data s'.data (Sys.mainPc s') := ex.goes
    rw [hq] at goes
    have hi : s.instr (program setup) .main = mainCode setup .cancelStopper := by
      rw [← cancelStopper_of_goes goes]; rfl
    exact pending_of_cancel hs ex.running hi rfl

/-! ## Stuck states -/

/-- The event loop or the signal catching thread has no request to stop. -/
def AtRest (s : Sys) (t : Tid) : Prop := t = .stopper ∧ s.stopPc = .idle

/-- No thread can take a step, but that the user asks for a stop. -/
def Stuck (setup : Setup) (s : Sys) : Prop :=
  ∀ t, step (program setup) s (.accept t) = none ∧
    (¬AtRest s t → step (program setup) s (.run t) = none)

instance (s : Sys) (t : Tid) : Decidable (AtRest s t) := inferInstanceAs (Decidable (_ ∧ _))

/-- What holds of every thread can be decided thread by thread. -/
instance (P : Tid → Prop) [DecidablePred P] : Decidable (∀ t, P t) :=
  decidable_of_iff (P .main ∧ P .stopper ∧ P .receiver ∧ P .refiller ∧ P .autoscaler ∧
      ∀ i, P (.printer i)) (by
    refine ⟨fun ⟨hm, hs, hr, hf, ha, hp⟩ t => ?_, fun h => ⟨h _, h _, h _, h _, h _, fun i => h _⟩⟩
    cases t with
    | main => exact hm
    | stopper => exact hs
    | receiver => exact hr
    | refiller => exact hf
    | autoscaler => exact ha
    | printer i => exact hp i)

instance (setup : Setup) (s : Sys) : Decidable (Stuck setup s) :=
  inferInstanceAs (Decidable (∀ _, _ ∧ _))

/-- All threads have ended, but for the one that waits for a request to stop. -/
def Finished (s : Sys) : Prop := ∀ t, (s.ctl t).status.alive = true → AtRest s t

/-- A thread that is alive in a stuck state meets an obstacle. -/
lemma Stuck.obstacle {t : Tid} (hstuck : Stuck setup s)
    (h : Reach (program setup) ok (freshState setup) s) (ha : (s.ctl t).status.alive = true)
    (hrest : ¬AtRest s t) : Obstacle (program setup) s t :=
  obstacle_of_blocked (lockInv h) ha ⟨(hstuck t).2 hrest, (hstuck t).1⟩

/-- Without scaling only the main thread joins. -/
lemma main_of_join {t : Tid} {target : Data → Option Tid} {next : Pc t}
    (h : Reach (program setup) NoScaling (freshState setup) s)
    (hi : s.instr (program setup) t = .join target next) : t = .main := by
  cases t with
  | main => rfl
  | stopper =>
      change stopCode setup s.stopPc = _ at hi
      generalize s.stopPc = q at hi
      cases q with
      | done => simp only [stopCode] at hi; split at hi <;> cases hi
      | _ => cases hi
  | receiver =>
      change receiverCode setup s.receiverPc = _ at hi
      generalize s.receiverPc = q at hi
      cases q <;> cases hi
  | refiller =>
      change refillerCode setup s.refillerPc = _ at hi
      generalize s.refillerPc = q at hi
      cases q <;> cases hi
  | printer i =>
      change printerCode setup i (s.printerArgs i) (s.printerPc i) = _ at hi
      generalize s.printerPc i = q at hi
      cases q <;> cases hi
  | autoscaler =>
      have hidle := autoscaler_idle h
      change autoscalerCode setup s.autoscalerPc = _ at hi
      generalize s.autoscalerPc = q at hi hidle
      cases q <;> first
        | exact Bool.noConfusion hidle
        | cases hi

/-- Without scaling only the main thread creates threads. -/
lemma main_of_create {t : Tid} {target : Data → Option Tid} {arg : PrinterThreadArgs}
    {succeeds : Data → Bool} {next fail : Pc t} {u : Tid}
    (h : Reach (program setup) NoScaling (freshState setup) s)
    (hi : s.instr (program setup) t = .create target arg succeeds next fail)
    (hu : target s.data = some u) : t = .main := by
  have hspawns : (s.instr (program setup) t).spawns s.data = some (u, arg) := by
    rw [hi, Instr.spawns, hu]; rfl
  by_contra hm
  have ha : t = .autoscaler := by
    by_contra ha
    rw [State.instr, others_spawn_none setup t _ _ _ hm ha] at hspawns
    cases hspawns
  subst ha
  have hidle := autoscaler_idle h
  rw [show s.autoscalerPc = .upCreate from (autoscaler_spawned setup hspawns).2.1] at hidle
  cases hidle

/-! ## Nobody waits for a mutex -/

/-- Without the option there is no autoscaler. -/
lemma autoscaler_absent (h : Reach (program setup) ok (freshState setup) s)
    (hauto : setup.params.autoScaling = 0) : (s.ctl .autoscaler).status = .absent := by
  refine h.invariant (I := fun s : Sys => (s.ctl .autoscaler).status = .absent) rfl
    fun {s s' a} hr ih _ hs => ?_
  rcases absent_step hs ih with ⟨hst, _⟩ | ⟨t, ex, hc⟩
  · exact hst
  · exfalso
    rcases spawns_cases hc.spawned with ⟨rfl, _⟩ | ⟨_, i, hu⟩
    · have hq : Sys.mainPc s = .createAutoscaler := by
        have hspawned : (mainCode setup (Sys.mainPc s)).spawns s.data =
          some (.autoscaler, (s'.ctl .autoscaler).arg) := hc.spawned
        generalize Sys.mainPc s = q at hspawned
        cases q with
        | createAutoscaler => rfl
        | createPrinter =>
            obtain ⟨v, hv, hp⟩ := Option.map_eq_some_iff.mp hspawned
            obtain ⟨i, _, rfl⟩ := Option.map_eq_some_iff.mp hv
            cases hp
        | _ => cases hspawned
      have hfits := main_fits hr
      rw [hq] at hfits
      simp [MainPc.fits, hauto] at hfits
    · cases hu

/-- Behind the cancellation of the signal catching thread no printer is alive. -/
lemma printer_dead_of_cancelled (h : Reach (program setup) NoScaling (freshState setup) s)
    (hq : s.mainPc.stopperCancelled = true) (i : Slot) :
    (s.ctl (.printer i)).status.alive = false := by
  have hbound : s.mainPc.joinBound s.data.mainI = some maxPrinters := by
    generalize s.mainPc = q at hq
    cases q with
    | joinStopper | emitEnd | emitStatistics | exit => rfl
    | _ => cases hq
  exact joined h _ hbound i (by have := i.isLt; omega)

/-- Behind the cancellation of the signal catching thread everything else is over. -/
lemma over_of_stopperCut (h : Reach (program setup) NoScaling (freshState setup) s)
    (hcut : StopperCut setup s) {t : Tid} (ht : t ≠ .main) :
    (s.ctl t).status.alive = false := by
  have hpast : s.mainPc.pastJoin t = true ∨ t = .stopper := by
    have hq := hcut.main
    generalize s.mainPc = q at hq
    cases q with
    | joinStopper => cases t <;> first | exact .inr rfl | exact .inl rfl
    | emitEnd | emitStatistics | exit => exact .inl rfl
    | _ => cases hq
  have hended : ∀ {n}, createdAfter setup t = some n → Wanted setup t → t ≠ .stopper →
      (s.ctl t).status.alive = false := fun hn hwant hne => by
    rw [ended_of_pastJoin h hn hwant (hpast.resolve_right hne)]
    rfl
  cases t with
  | main => exact absurd rfl ht
  | stopper => rw [hcut.ended]; rfl
  | receiver => exact hended rfl nofun nofun
  | refiller => exact hended rfl nofun nofun
  | autoscaler =>
      by_cases hauto : setup.params.autoScaling = 0
      · rw [autoscaler_absent h hauto]; rfl
      · exact hended rfl (fun _ => hauto) nofun
  | printer i => exact printer_dead_of_cancelled h hcut.main i

/-- In a stuck state every owner of a mutex asks for another one. -/
lemma Stuck.owner_asks {t : Tid} {m : Mutex} (hstuck : Stuck setup s)
    (h : Reach (program setup) NoScaling (freshState setup) s) (ho : s.owner m = .held t) :
    ∃ m', s.requests (program setup) t = some m' ∧ s.owner m' ≠ .free := by
  have hrun := owner_running h ho
  have hheld : m ∈ heldBy t (s.ctl t).arg (s.ctl t).pc := (((lockInv h).owner t m).mp ho).2.1
  have hmain : t ≠ .main := by rintro rfl; cases hheld
  have hrest : ¬AtRest s t := by
    rintro ⟨rfl, hq⟩
    change m ∈ stopHeld s.stopPc at hheld
    rw [hq] at hheld
    cases hheld
  cases hstuck.obstacle h (by rw [hrun]; rfl) hrest with
  | mutex m' hreq htaken => exact ⟨m', hreq, htaken⟩
  | signal c m' hw => rw [hrun] at hw; cases hw
  | thread u target next hi hu _ => exact absurd (main_of_join h hi) hmain
  | taken u target arg _ next fail hi hu _ => exact absurd (main_of_create h hi hu) hmain

/-- **In a stuck state nobody waits for a mutex.** -/
theorem mutexes_free {t : Tid} {m : Mutex} (hstuck : Stuck setup s)
    (h : Reach (program setup) NoScaling (freshState setup) s)
    (hreq : s.requests (program setup) t = some m) : s.owner m = .free := by
  by_contra htaken
  have hrank : ∀ m : Mutex, m.rank ≤ 6 := fun m => by cases m <;> decide
  obtain ⟨u, m', v, hu, hv⟩ := orphan_of_taken (run_ordered h) hrank
    (fun u m ho => hstuck.owner_asks h ho) hreq htaken
  have hcut := orphan_stopper h m' v hv
  by_cases hm : u = .main
  · subst hm
    have hq := hcut.main
    have hst : (s.ctl .main).status = .running := by
      refine status_running (alive_of_requests hu) fun m₁ hm₁ => ?_
      obtain ⟨c, q, hwait⟩ := waitPlace_fresh h .main m₁ hm₁
      rcases waiter_cases hwait with ⟨i, ht⟩ | ht <;> cases ht
    rw [State.requests, hst] at hu
    change (mainCode setup s.mainPc).requests = _ at hu
    generalize s.mainPc = q at hq hu
    cases q with
    | joinStopper | exit => cases hu
    | emitEnd | emitStatistics =>
        rw [mainCode, hcut.mode] at hu
        cases hu
    | _ => cases hq
  · have hdead := over_of_stopperCut h hcut hm
    rw [alive_of_requests hu] at hdead
    cases hdead

/-! ## Who is still alive -/

/-- Whom the main thread joins. -/
lemma main_target {d : Data} {q next : MainPc} {target : Data → Option Tid} {u : Tid}
    (hi : mainCode setup q = .join target next) (hu : target d = some u) :
    (q = .joinReceiver ∧ u = .receiver) ∨ (q = .joinRefiller ∧ u = .refiller) ∨
      (q = .joinAutoscaler ∧ u = .autoscaler) ∨ (q = .joinStopper ∧ u = .stopper) ∨
      (q = .joinPrinter ∧ ∃ j, slotOfIndex d.mainI = some j ∧ u = .printer j) := by
  cases q with
  | joinReceiver => cases hi; cases hu; exact .inl ⟨rfl, rfl⟩
  | joinRefiller => cases hi; cases hu; exact .inr (.inl ⟨rfl, rfl⟩)
  | joinAutoscaler => cases hi; cases hu; exact .inr (.inr (.inl ⟨rfl, rfl⟩))
  | joinStopper => cases hi; cases hu; exact .inr (.inr (.inr (.inl ⟨rfl, rfl⟩)))
  | joinPrinter =>
      cases hi
      obtain ⟨j, hj, rfl⟩ := Option.map_eq_some_iff.mp hu
      exact .inr (.inr (.inr (.inr ⟨rfl, j, hj, rfl⟩)))
  | _ => cases hi

/-- The main thread joins threads that it has created. -/
lemma joined_begun {target : Data → Option Tid} {next : MainPc} {u : Tid}
    (h : Reach (program setup) NoScaling (freshState setup) s)
    (hi : mainCode setup s.mainPc = .join target next) (hu : target s.data = some u) :
    (s.ctl u).status ≠ .absent := by
  have hfits := main_fits h
  rcases main_target hi hu with ⟨hq, rfl⟩ | ⟨hq, rfl⟩ | ⟨hq, rfl⟩ | ⟨hq, rfl⟩ | ⟨hq, j, hj, rfl⟩
  · exact begun h (n := 0) rfl (fun hn => by cases hn) (by rw [hq]; decide)
  · exact begun h (n := 1) rfl (fun hn => by cases hn) (by rw [hq]; decide)
  · refine begun h (n := 2) rfl (fun _ => ?_) (by rw [hq]; decide)
    rw [hq] at hfits
    simpa [MainPc.fits] using hfits
  · have hm : setup.mode = .terminal := by
      rw [hq] at hfits
      simpa [MainPc.fits] using hfits
    exact begun h (n := 3) (by simp [createdAfter, hm]) (fun hn => by cases hn)
      (by rw [hq]; decide)
  · exact (active_begun h).active j ((active_begun h).joined hq j hj)

/-- In a stuck state a thread other than the main thread waits for a signal. -/
lemma Stuck.waiting {t : Tid} (hstuck : Stuck setup s)
    (h : Reach (program setup) NoScaling (freshState setup) s) (ht : t ≠ .main)
    (ha : (s.ctl t).status.alive = true) (hrest : ¬AtRest s t) :
    ∃ c m, (s.ctl t).status = .waiting c m := by
  cases hstuck.obstacle h ha hrest with
  | mutex m hreq htaken => exact absurd (mutexes_free hstuck h hreq) htaken
  | signal c m hw => exact ⟨c, m, hw⟩
  | thread u target next hi _ _ => exact absurd (main_of_join h hi) ht
  | taken u target arg _ next fail hi hu _ => exact absurd (main_of_create h hi hu) ht

/-- The main thread does not create a thread that is there. -/
lemma created_absent {target : Data → Option Tid} {arg : PrinterThreadArgs}
    {succeeds : Data → Bool} {next fail : MainPc} {u : Tid}
    (h : Reach (program setup) NoScaling (freshState setup) s)
    (hi : mainCode setup s.mainPc = .create target arg succeeds next fail)
    (hu : target s.data = some u) : (s.ctl u).status = .absent := by
  have hspawned : (mainCode setup s.mainPc).spawns s.data = some (u, arg) := by
    rw [hi, Instr.spawns, hu]; rfl
  have hcreated : ∀ {n}, createdAfter setup u = some n → (s.ctl u).status = .absent := fun hn =>
    (unstarted h u _ hn (main_spawns hspawned hn).1.le).1
  rcases (main_spawned setup hspawned).2 with (rfl | rfl | rfl | rfl) | ⟨hq, i, hi, rfl⟩
  · exact hcreated (n := 0) rfl
  · exact hcreated (n := 1) rfl
  · exact hcreated (n := 2) rfl
  · have hfits := main_fits h
    rw [main_spawns_stopper hspawned] at hfits
    have hm : setup.mode = .terminal := by simpa [MainPc.fits] using hfits
    exact hcreated (n := 3) (by simp [createdAfter, hm])
  · by_contra hst
    have hfree := (started h).room hq i hi
    rcases (started h).active i hst with hactive | ⟨hq', _⟩
    · rw [hfree] at hactive; cases hactive
    · rw [hq] at hq'; cases hq'

/-- A signal catching thread that the main thread joins acts on its cancellation. -/
lemma Stuck.not_joinStopper (hstuck : Stuck setup s)
    (h : Reach (program setup) ok (freshState setup) s)
    (ha : (s.ctl .stopper).status.alive = true) (hidle : s.stopPc = .idle) :
    s.mainPc ≠ .joinStopper := fun hq => by
  have hrun : (s.ctl .stopper).status = .running := by
    refine status_running ha fun m hm => ?_
    obtain ⟨c, q, hwait⟩ := waitPlace_fresh h .stopper m hm
    rcases waiter_cases hwait with ⟨i, ht⟩ | ht <;> cases ht
  have hmust : (s.ctl .stopper).mustCancel = true := by
    rw [Thread.mustCancel, stopper_enabled h, stopper_asked h hq]; rfl
  have hpoint : ((program setup).code .stopper (s.ctl .stopper).arg
      (s.ctl .stopper).pc).isCancelPoint = true := by
    show (stopCode setup s.stopPc).isCancelPoint = true
    rw [hidle]; rfl
  have hnone := (hstuck .stopper).1
  simp [step, hmust, hrun, hpoint] at hnone

/-- In a stuck state the main thread joins a thread that is alive. -/
lemma Stuck.main_waits (hstuck : Stuck setup s)
    (h : Reach (program setup) NoScaling (freshState setup) s)
    (ha : (s.ctl .main).status.alive = true) :
    ∃ u, u ≠ .main ∧ (s.ctl u).status.alive = true ∧ ¬AtRest s u := by
  cases hstuck.obstacle h ha (fun hr => by cases hr.1) with
  | mutex m hreq htaken => exact absurd (mutexes_free hstuck h hreq) htaken
  | signal c m hw =>
      obtain ⟨c', q, hwait⟩ := waitPlace_fresh h .main m (by rw [hw]; rfl)
      rcases waiter_cases hwait with ⟨i, ht⟩ | ht <;> cases ht
  | taken u target arg _ next fail hi hu halive =>
      rw [created_absent h hi hu] at halive
      cases halive
  | thread u target next hi hu hne =>
      have halive : (s.ctl u).status.alive = true := by
        have hbegun := joined_begun h hi hu
        cases hst : (s.ctl u).status with
        | absent => exact absurd hst hbegun
        | ended => exact absurd hst hne
        | _ => rfl
      refine ⟨u, ?_, halive, ?_⟩
      · rcases main_target hi hu with ⟨_, rfl⟩ | ⟨_, rfl⟩ | ⟨_, rfl⟩ | ⟨_, rfl⟩ | ⟨_, j, _, rfl⟩ <;>
          simp
      · rintro ⟨rfl, hidle⟩
        refine hstuck.not_joinStopper h halive hidle ?_
        rcases main_target hi hu with ⟨_, hu⟩ | ⟨_, hu⟩ | ⟨_, hu⟩ | ⟨hq, _⟩ | ⟨_, j, _, hu⟩
        · cases hu
        · cases hu
        · cases hu
        · exact hq
        · cases hu

/-- **A stuck run has come to its end, or somebody waits for a signal.** -/
theorem waiters_of_stuck (hstuck : Stuck setup s)
    (h : Reach (program setup) NoScaling (freshState setup) s) :
    Finished s ∨ ∃ t c m, (s.ctl t).status = .waiting c m := by
  by_contra hno
  rw [not_or] at hno
  obtain ⟨hfin, hwait⟩ := hno
  refine hfin fun t ha => ?_
  by_contra hrest
  by_cases hm : t = .main
  · subst hm
    obtain ⟨u, hu, halive, hrest'⟩ := hstuck.main_waits h ha
    exact hwait ⟨u, hstuck.waiting h hu halive hrest'⟩
  · exact hwait ⟨t, hstuck.waiting h hm ha hrest⟩

/-! ## What they wait for -/

/-- Who waits waits for a job, for paper, or for a request. -/
lemma waiting_cases {t : Tid} {c : Cond} {m : Mutex}
    (h : Reach (program setup) ok (freshState setup) s)
    (hw : (s.ctl t).status = .waiting c m) :
    (∃ i, t = .printer i ∧ (c = .jobQueueNotEmptyCv ∨ c = .refillNeededCv)) ∨
      (t = .refiller ∧ c = .refillSupplierCv ∧ s.refillerPc = .lockState) := by
  obtain ⟨q, hq⟩ := waiting_place
    (fun c m hm => by have := mutex_fresh setup t; rw [hm] at this; cases this) h hw
  rcases waiter_cases hq with ⟨i, rfl⟩ | rfl
  · refine .inl ⟨i, rfl, ?_⟩
    change printerCode setup i (s.printerArgs i) q = .wait c m (s.printerPc i) at hq
    cases q <;> simp only [printerCode, reduceCtorEq] at hq
    · left
      rw [← (Instr.wait.inj hq).1]
      rcases printerArgs_cases h i with harg | harg <;> rw [harg] <;> rfl
    · right
      rw [← (Instr.wait.inj hq).1]
      rcases printerArgs_cases h i with harg | harg <;> rw [harg] <;> rfl
  · change refillerCode setup q = .wait c m s.refillerPc at hq
    cases q <;> simp only [refillerCode, reduceCtorEq] at hq
    exact .inr ⟨rfl, (Instr.wait.inj hq).1.symm, (Instr.wait.inj hq).2.2.symm⟩

/-- In a stuck state the receiver is not alive. -/
lemma Stuck.receiver_dead (hstuck : Stuck setup s)
    (h : Reach (program setup) NoScaling (freshState setup) s) :
    (s.ctl .receiver).status.alive = false := by
  by_contra ha
  rw [Bool.not_eq_false] at ha
  obtain ⟨c, m, hw⟩ := hstuck.waiting h (by simp) ha (fun hr => by cases hr.1)
  rcases waiting_cases h hw with ⟨i, ht, _⟩ | ⟨ht, _⟩ <;> cases ht

/-- In a stuck state the stop handler is not in the middle of its work. -/
lemma Stuck.stopper_rests (hstuck : Stuck setup s)
    (h : Reach (program setup) NoScaling (freshState setup) s) :
    s.stopPc = .idle ∨ s.stopPc = .done ∨ s.mainPc.stopperCancelled = true := by
  cases ha : (s.ctl .stopper).status.alive with
  | true =>
      left
      by_contra hidle
      obtain ⟨c, m, hw⟩ := hstuck.waiting h (by simp) ha (fun hr => hidle hr.2)
      rcases waiting_cases h hw with ⟨i, ht, _⟩ | ⟨ht, _⟩ <;> cases ht
  | false =>
      cases hst : (s.ctl .stopper).status with
      | absent => exact .inl (stopper_idle_of_absent h hst)
      | ended => exact .inr (stopper_done_of_ended h hst)
      | _ => rw [hst] at ha; cases ha

/-- **In a stuck state no printer waits for a job.** -/
theorem no_printer_waits_for_job {i : Slot} {m : Mutex} (hstuck : Stuck setup s)
    (h : Reach (program setup) NoScaling (freshState setup) s) :
    (s.ctl (.printer i)).status ≠ .waiting .jobQueueNotEmptyCv m := fun hw => by
  have hpresent : (s.ctl (.printer i)).status ≠ .absent := by rw [hw]; simp
  have hstage : 1 < s.mainPc.stage := by
    by_contra hstage
    exact hpresent (printers_absent h (Nat.not_lt.mp hstage) i).1
  -- the receiver has ended, and has announced that it ends
  have hdead := hstuck.receiver_dead h
  have hbegun : (s.ctl .receiver).status ≠ .absent := begun h (n := 0) rfl nofun (by omega)
  have harrived : s.data.allJobsArrived = true := (arrivalsEnded h).ended (by
    cases hst : (s.ctl .receiver).status with
    | absent => exact absurd hst hbegun
    | ended => rfl
    | _ => rw [hst] at hdead; cases hdead)
  rcases (waiting_nothing h hw).arrivals with hflag | hq | hq
  · rw [harrived] at hflag
    cases hflag
  · have ha := receiver_alive h (by rintro hq'; rw [hq'] at hq; cases hq)
      (by rintro hq'; rw [hq'] at hq; cases hq) (by rintro hq'; rw [hq'] at hq; cases hq)
    rw [hdead] at ha
    cases ha
  · rcases hstuck.stopper_rests h with hidle | hdone | hcut
    · rw [hidle] at hq; cases hq
    · rw [hdone] at hq; cases hq
    · have hcancelled := printer_dead_of_cancelled h hcut i
      rw [hw] at hcancelled
      cases hcancelled

/-- In a stuck state a printer that waits for paper has too little. -/
lemma Stuck.lacks {i : Slot} {m : Mutex} (hstuck : Stuck setup s)
    (h : Reach (program setup) NoScaling (freshState setup) s)
    (hw : (s.ctl (.printer i)).status = .waiting .refillNeededCv m) :
    lacksPaper s.data i = true := by
  refine (waiting_shortOrOwed h hw).resolve_right fun hq => ?_
  have ha := refiller_alive h (by rintro hq'; rw [hq'] at hq; cases hq)
    (by rintro hq'; rw [hq'] at hq; cases hq) (by rintro hq'; rw [hq'] at hq; cases hq)
  obtain ⟨c, m, hwait⟩ := hstuck.waiting h (by simp) ha (fun hr => by cases hr.1)
  rcases waiting_cases h hwait with ⟨i, ht, _⟩ | ⟨_, _, hq'⟩
  · cases ht
  · rw [hq'] at hq; cases hq

/-- **In a stuck state nobody waits for paper while the refiller is alive**: the request is in the
queue, and the refiller was told so before it began to wait. -/
theorem refiller_ended_of_waiting {i : Slot} {m : Mutex} (hstuck : Stuck setup s)
    (h : Reach (program setup) (Unscaled setup) (freshState setup) s)
    (hw : (s.ctl (.printer i)).status = .waiting .refillNeededCv m) :
    (s.ctl .refiller).status = .ended := by
  have hcalm := h.mono fun s a hok => hok.noScaling
  have hstage : 1 < s.mainPc.stage := by
    by_contra hstage
    have habsent := (printers_absent h (Nat.not_lt.mp hstage) i).1
    rw [hw] at habsent
    cases habsent
  have hbegun : (s.ctl .refiller).status ≠ .absent := begun h (n := 1) rfl nofun hstage
  by_contra hended
  have ha : (s.ctl .refiller).status.alive = true := by
    cases hst : (s.ctl .refiller).status with
    | absent => exact absurd hst hbegun
    | ended => exact absurd hst hended
    | _ => rfl
  obtain ⟨c, m', hwait⟩ := hstuck.waiting hcalm (by simp) ha (fun hr => by cases hr.1)
  rcases waiting_cases h hwait with ⟨j, ht, _⟩ | ⟨_, rfl, hq⟩
  · cases ht
  · have hshort : (desk s).Short i := (short_iff i).mpr (hstuck.lacks hcalm hw)
    rcases (desk_sound h i).heard (asked_of_waiting h hw) hshort with hqueue | ⟨n, hn⟩
    · rcases requestsHeard_of_waiting (initialsAskForPaper hcalm) hwait with hnil | ⟨j, hrun, _⟩
      · have hqueue' : i ∈ s.data.paperRefillQueue := hqueue
        rw [hnil] at hqueue'
        cases hqueue'
      · obtain ⟨c, m, hw'⟩ := hstuck.waiting hcalm (t := .printer j) (by simp)
          (by rw [hrun]; rfl) (fun hr => by cases hr.1)
        rw [hrun] at hw'
        cases hw'
    · simp only [desk, order, hq, RefillerPc.hasRequest] at hn
      cases hn

/-! ## The result -/

/-- A refiller that waits while no printer is alive has never had one to serve. -/
lemma no_printer_of_waiting {m : Mutex}
    (h : Reach (program setup) NoScaling (freshState setup) s)
    (hw : (s.ctl .refiller).status = .waiting .refillSupplierCv m)
    (hdead : ∀ i, (s.ctl (.printer i)).status.alive = false) (i : Slot) :
    (s.ctl (.printer i)).status = .absent := by
  have hserved : s.data.allJobsServed = false := by
    rcases (waiting_noEnd h hw).served with hflag | ⟨j, ha, _⟩
    · exact hflag
    · rw [hdead j] at ha; cases ha
  cases hst : (s.ctl (.printer i)).status with
  | absent => rfl
  | ended =>
      have hexit := (place_of_not_alive (noPrinterCancelled h)).2 hst
      rw [served_of_hasServed h i (by rw [hexit]; rfl)] at hserved
      cases hserved
  | _ =>
      have halive := hdead i
      rw [hst] at halive
      cases halive

/-- Where every job fits into a printer and nobody scales, a run in which no thread can take a step
has come to its end, or no printer was ever started and the refiller waits, or a printer with too
little paper waits for it and the refiller has ended. -/
lemma ways_to_hang (h : Reach (program setup) (Unscaled setup) (freshState setup) s)
    (hstuck : Stuck setup s) :
    Finished s ∨
      ((∀ i, (s.ctl (.printer i)).status = .absent) ∧
        ∃ m, (s.ctl .refiller).status = .waiting .refillSupplierCv m) ∨
      ∃ i m, (s.ctl (.printer i)).status = .waiting .refillNeededCv m ∧
        lacksPaper s.data i = true ∧ (s.ctl .refiller).status = .ended := by
  have hcalm := h.mono fun s a hok => hok.noScaling
  -- a printer that is alive waits for paper
  have hprinter : ∀ i, (s.ctl (.printer i)).status.alive = true →
      ∃ m, (s.ctl (.printer i)).status = .waiting .refillNeededCv m := fun i ha => by
    obtain ⟨c, m, hw⟩ := hstuck.waiting hcalm (t := .printer i) (by simp) ha
      (fun hr => by cases hr.1)
    rcases waiting_cases h hw with ⟨j, _, rfl | rfl⟩ | ⟨ht, _⟩
    · exact absurd hw (no_printer_waits_for_job hstuck hcalm)
    · exact ⟨m, hw⟩
    · cases ht
  refine (waiters_of_stuck hstuck hcalm).imp_right ?_
  rintro ⟨t, c, m, hw⟩
  by_cases halive : ∃ i, (s.ctl (.printer i)).status.alive = true
  · obtain ⟨i, ha⟩ := halive
    obtain ⟨m', hw'⟩ := hprinter i ha
    exact .inr ⟨i, m', hw', hstuck.lacks hcalm hw', refiller_ended_of_waiting hstuck h hw'⟩
  · push Not at halive
    have hdead : ∀ i, (s.ctl (.printer i)).status.alive = false := fun i => by
      simpa using halive i
    rcases waiting_cases h hw with ⟨i, rfl, _⟩ | ⟨rfl, rfl, _⟩
    · exact absurd (by rw [hw]; rfl) (halive i)
    · exact .inl ⟨no_printer_of_waiting hcalm hw hdead, m, hw⟩

/-- The job a printer waits for is in the queue, in every run that spares it. -/
lemma examined_of_waiting {i : Slot} {m : Mutex} (hspares : ∀ s a, ok s a → SparesExamined s a)
    (h : Reach (program setup) ok (freshState setup) s)
    (hw : (s.ctl (.printer i)).status = .waiting .refillNeededCv m) : ExaminedLives s i := by
  refine examinedKept hspares h i (by rw [hw]; rfl) ?_
  obtain ⟨q, hq⟩ := waiting_place (fun c m hm => by cases hm) h hw
  change printerCode setup i (s.printerArgs i) q = .wait .refillNeededCv m (s.printerPc i) at hq
  cases q <;> simp only [printerCode, reduceCtorEq] at hq
  · rcases printerArgs_cases h i with harg | harg <;> rw [harg] at hq <;> cases hq
  · rw [← (Instr.wait.inj hq).2.2]
    exact .inr rfl

/-- **A run hangs for want of paper only**, in the server.  Let nobody scale, let every job fit
into a printer, and let no thread take a job that a printer is waiting to print.  A run in which
no thread can take a step has come to its end, or no printer was ever started and the refiller
waits, or a stop was requested and the refiller has ended, while a printer with too little paper
waits for a job that is still in the queue. -/
theorem hangs_for_paper {params : SimulationParameters}
    (h : Reach (program ⟨.server, params⟩)
      (fun s a => Unscaled ⟨.server, params⟩ s a ∧ SparesExamined s a)
      (freshState ⟨.server, params⟩) s)
    (hstuck : Stuck ⟨.server, params⟩ s) :
    Finished s ∨
      ((∀ i, (s.ctl (.printer i)).status = .absent) ∧
        ∃ m, (s.ctl .refiller).status = .waiting .refillSupplierCv m) ∨
      (s.data.gTerminateNow = true ∧ (s.ctl .refiller).status = .ended ∧
        ∃ i m, (s.ctl (.printer i)).status = .waiting .refillNeededCv m ∧
          lacksPaper s.data i = true ∧ (s.data.printer i).jobToDequeue ∈ s.data.jobQueue.list) := by
  have hunscaled := h.mono fun s a hok => hok.1
  refine (ways_to_hang hunscaled hstuck).imp_right (.imp_right ?_)
  rintro ⟨i, m, hw, hlacks, hended⟩
  have hlives : (s.data.printer i).jobToDequeue ∈ s.data.jobQueue.list :=
    examined_of_waiting (fun s a hok => hok.2) h hw
  refine ⟨?_, hended, i, m, hw, hlacks, hlives⟩
  -- without a stop request the refiller ends when the queue is empty
  rcases (endsAnnounced h).ended hended with hterm | hserved
  · exact hterm
  · by_contra hterm
    rw [Bool.not_eq_true] at hterm
    have hnil := ((workOver_of_served h hserved).without_stop hterm).2
    rw [show s.data.jobQueue.list = [] from hnil] at hlives
    cases hlives

/-- The receiver puts the second job into the queue behind a stop request.  The first printer has
not seen the request, lacks the paper for that job and waits, and the main thread has come to the
join of this printer. -/
theorem hangs_for_paper_after_stop :
    ∃ s : Sys, Reach (program twoJobs) (fun s a => Unscaled twoJobs s a ∧ SparesExamined s a)
        (freshState twoJobs) s ∧
      Stuck twoJobs s ∧ s.mainPc = .joinPrinter ∧ s.data.jobQueue.list.map Job.id = [2] ∧
      s.data.gTerminateNow = true ∧ (s.ctl .refiller).status = .ended ∧
        ∃ i m, (s.ctl (.printer i)).status = .waiting .refillNeededCv m ∧
          lacksPaper s.data i = true ∧ (s.data.printer i).jobToDequeue ∈ s.data.jobQueue.list := by
  obtain ⟨s, hs, hstuck, hmain, hqueue, halive⟩ := exists_run twoJobs
    (fun s a => Unscaled twoJobs s a ∧ SparesExamined s a)
    (secondJobBehindStop ++ runs Tid.autoscaler 3 ++ runs Tid.main 3)
    (fun s => Stuck twoJobs s ∧ s.mainPc = .joinPrinter ∧ s.data.jobQueue.list.map Job.id = [2] ∧
      (s.ctl .main).status.alive = true ∧ (s.ctl (.printer 0)).status ≠ .absent)
    (by decide +kernel)
  refine ⟨s, hs, hstuck, hmain, hqueue, ?_⟩
  rcases hangs_for_paper hs hstuck with hfin | ⟨habsent, _⟩ | hhang
  · cases (hfin .main halive.1).1
  · exact absurd (habsent 0) halive.2
  · exact hhang

end Orchestrator
