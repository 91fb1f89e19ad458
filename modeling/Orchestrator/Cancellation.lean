import Orchestrator.Steps

/-!
# Cancellation and mutexes

A thread that acts on a cancellation inside a locked section takes its mutex with it.  The receiver
and the refiller disable cancellation around their locked sections.  The printers, the autoscaler
and the signal catching thread do not.

* `QuietCancel` — cancellations take effect only where a thread holds nothing and does not wait.
* `no_orphaned_mutex` — in runs whose cancellations are quiet no terminated thread owns a mutex.
* `orphaned_job_queue_mutex` — `scale_down` can cancel a printer that waits for a job, and then
  blocks on the mutex the printer took with it.
-/

namespace Orchestrator

open Pthread

variable {setup : Setup} {s s' : Sys} {a : SysAction} {ok : Sys → SysAction → Prop}

/-! ## Where a cancellation does no harm -/

/-- The cancellation points of a printer outside its locked sections. -/
def PrinterPc.quiet : PrinterPc → Bool
  | .emitRefilled | .emitArrival | .emitBusy | .service | .emitIdle => true
  | _ => false

/-- The cancellation points of the autoscaler outside its locked sections. -/
def AutoscalerPc.quiet : AutoscalerPc → Bool
  | .sleep | .downJoin => true
  | _ => false

/-- The cancellation point of the stop handler outside its locked sections. -/
def StopPc.quiet : StopPc → Bool
  | .idle => true
  | _ => false

/-- A printer, the autoscaler and the stop handler act on a cancellation only where they run outside
every locked section. -/
def QuietCancel (s : Sys) : SysAction → Prop
  | .accept (.printer i) =>
      (s.ctl (.printer i)).status = .running ∧ (s.printerPc i).quiet = true
  | .accept .autoscaler => s.autoscalerPc.quiet = true
  | .accept .stopper => s.stopPc.quiet = true
  | _ => True

instance (s : Sys) (a : SysAction) : Decidable (QuietCancel s a) :=
  match a with
  | .accept (.printer i) => inferInstanceAs (Decidable
      ((s.ctl (.printer i)).status = .running ∧ (s.printerPc i).quiet = true))
  | .accept .autoscaler => inferInstanceAs (Decidable (s.autoscalerPc.quiet = true))
  | .accept .stopper => inferInstanceAs (Decidable (s.stopPc.quiet = true))
  | .accept .main | .accept .receiver | .accept .refiller => isTrue trivial
  | .run _ | .spurious _ | .env _ => isTrue trivial

/-- A thread without condition waits is running while it can act on a cancellation. -/
lemma accept_running {t : Tid} (h : Reach (program setup) ok (freshState setup) s)
    (hs : step (program setup) s (.accept t) = some s')
    (hwait : ∀ arg q c m next, (program setup).code t arg q ≠ .wait c m next) :
    (s.ctl t).status = .running ∧ (s.instr (program setup) t).isCancelPoint = true := by
  have hbehind : ∀ m, (s.ctl t).status.mutex ≠ some m := fun m hm => by
    obtain ⟨c, q, hq⟩ := waitPlace_fresh h t m hm
    exact hwait _ _ _ _ _ hq
  cases step_effect hs with
  | acceptRunning _ _ running point _ => exact ⟨running, point⟩
  | acceptWaiting _ m _ waits _ =>
      refine absurd ?_ (hbehind m)
      rcases waits with ⟨c, hw⟩ | hw <;> rw [hw] <;> rfl

/-- A guarded thread acts on a cancellation at a place where it is exposed. -/
lemma accept_guarded {t : Tid} {exposed : Pc t → Bool}
    (hexp : Exposure (program setup) t exposed)
    (h : Reach (program setup) ok (freshState setup) s)
    (hg : Guarded (program setup) s t exposed)
    (hs : step (program setup) s (.accept t) = some s') :
    (s.ctl t).status = .running ∧ exposed (s.ctl t).pc = true ∧
      (s.instr (program setup) t).isCancelPoint = true := by
  have hexposed : (s.ctl t).mustCancel = true → exposed (s.ctl t).pc = true := fun hm => by
    rw [Thread.mustCancel, Bool.and_eq_true] at hm
    exact hg.enabled hm.1
  cases step_effect hs with
  | acceptRunning _ must running point _ => exact ⟨running, hexposed must, point⟩
  | acceptWaiting _ m must waits _ =>
      have hmu : (s.ctl t).status.mutex = some m := by
        rcases waits with ⟨c, hw⟩ | hw <;> rw [hw] <;> rfl
      obtain ⟨c, q, hq⟩ := waitPlace_fresh h t m hmu
      have := hexposed must
      rw [hexp.wait _ _ _ _ _ hq] at this
      cases this

/-- Quiet cancellations find a running thread that holds nothing. -/
lemma quiet_accept {t : Tid} (h : Reach (program setup) ok (freshState setup) s)
    (hq : QuietCancel s (.accept t)) (hs : step (program setup) s (.accept t) = some s') :
    (s.ctl t).status = .running ∧ (lockDiscipline setup).heldAt s t = [] := by
  cases t with
  | printer i =>
      refine ⟨hq.1, ?_⟩
      have hpc := hq.2
      show printerHeld (s.printerArgs i) (s.printerPc i) = []
      generalize s.printerPc i = q at hpc ⊢
      cases q <;> first | rfl | cases hpc
  | autoscaler =>
      refine ⟨(accept_running h hs fun _ q _ _ _ hw => ?_).1, ?_⟩
      · rcases waiter_cases hw with ⟨_, ht⟩ | ht <;> cases ht
      · change autoscalerHeld s.autoscalerPc = []
        change s.autoscalerPc.quiet = true at hq
        generalize s.autoscalerPc = q at hq ⊢
        cases q <;> first | rfl | cases hq
  | stopper =>
      refine ⟨(accept_running h hs fun _ q _ _ _ hw => ?_).1, ?_⟩
      · rcases waiter_cases hw with ⟨_, ht⟩ | ht <;> cases ht
      · change stopHeld s.stopPc = []
        change s.stopPc.quiet = true at hq
        generalize s.stopPc = q at hq ⊢
        cases q <;> first | rfl | cases hq
  | main =>
      refine ⟨(accept_running h hs fun _ q _ _ _ hw => ?_).1, rfl⟩
      rcases waiter_cases hw with ⟨_, ht⟩ | ht <;> cases ht
  | receiver =>
      obtain ⟨hrun, hexp, hpoint⟩ := accept_guarded (receiver_exposure setup) h
        (receiver_guarded h) hs
      refine ⟨hrun, ?_⟩
      show receiverHeld s.receiverPc = []
      change (receiverCode setup s.receiverPc).isCancelPoint = true at hpoint
      change s.receiverPc.exposed = true at hexp
      generalize s.receiverPc = q at hexp hpoint ⊢
      cases q <;> first | rfl | cases hexp
  | refiller =>
      obtain ⟨hrun, hexp, hpoint⟩ := accept_guarded (refiller_exposure setup) h
        (refiller_guarded h) hs
      refine ⟨hrun, ?_⟩
      show refillerHeld s.refillerPc = []
      change s.refillerPc.exposed = true at hexp
      generalize s.refillerPc = q at hexp ⊢
      cases q <;> first | rfl | cases hexp

/-! ## Runs with quiet cancellations -/

/-- A thread inside a condition wait holds nothing but the mutex of the wait. -/
lemma heldAt_of_waiting {t : Tid} {m : Mutex} (h : Reach (program setup) ok (freshState setup) s)
    (hm : (s.ctl t).status.mutex = some m) : (lockDiscipline setup).heldAt s t = [m] := by
  obtain ⟨c, q, hq⟩ := waitPlace_fresh h t m hm
  exact (wait_held hq).2

/-- A thread that owns a mutex is running. -/
lemma owner_running {t : Tid} {m : Mutex} (h : Reach (program setup) ok (freshState setup) s)
    (hown : s.owner m = .held t) : (s.ctl t).status = .running := by
  obtain ⟨ha, hheld, hne⟩ := ((lockInv h).owner t m).mp hown
  have hmu : ∀ m', (s.ctl t).status.mutex ≠ some m' := fun m' hm' => by
    rw [heldAt_of_waiting h hm', List.mem_singleton] at hheld
    exact hne (hheld ▸ hm')
  exact status_running ha hmu

/-- **No terminated thread owns a mutex** in a run whose cancellations are quiet.  In particular,
after `scale_down` has joined the printer it cancelled, the job queue's mutex is free or belongs to
another thread that is running. -/
theorem no_orphaned_mutex (h : Reach (program setup) QuietCancel (freshState setup) s) :
    (∀ t m, (s.ctl t).status = .ended → s.owner m ≠ .held t ∧ s.owner m ≠ .ended t) ∧
      ((s.ctl .autoscaler).status = .running → s.autoscalerPc = .downLockQueue →
        s.owner .jobQueueMutex = .free ∨
          ∃ t, s.owner .jobQueueMutex = .held t ∧ t ≠ .autoscaler ∧
            (s.ctl t).status = .running) := by
  have hrefl : Reach (program setup) QuietCancel (freshState setup) (freshState setup) := .refl
  have horphan : Discipline.NoOrphan s := by
    refine Discipline.no_orphan (L := lockDiscipline setup) (fun hr hq hs => quiet_accept hr hq hs)
      (lockInv hrefl) ⟨fun m t => by simp [freshState], fun t m hc => ?_⟩ h
    have := mutex_fresh setup t
    rw [hc] at this
    cases this
  refine ⟨fun t m ht => ⟨fun hown => ?_, horphan.owner m t⟩, fun _ hq => ?_⟩
  · have := (((lockInv h).owner t m).mp hown).1
    rw [ht] at this
    cases this
  · cases hown : s.owner .jobQueueMutex with
    | free => exact .inl rfl
    | ended t => exact absurd hown (horphan.owner _ t)
    | held t =>
        refine .inr ⟨t, rfl, ?_, owner_running h hown⟩
        rintro rfl
        have hmem : Mutex.jobQueueMutex ∈ autoscalerHeld s.autoscalerPc :=
          (((lockInv h).owner _ _).mp hown).2.1
        rw [hq] at hmem
        exact absurd hmem (by decide)

/-! ## Runs that scale down -/

/-- Ten jobs pile up, the autoscaler starts a third printer, the first two print the jobs, the third
one waits for a job, and the autoscaler asks it to end. -/
def scaleDownRun : List SysAction :=
  runs Tid.main 20 ++ runs Tid.receiver 192 ++ [Action.env (Env.tick 10000000)] ++
    runs Tid.autoscaler 18 ++
    (List.replicate 5 (runs (Tid.printer 0) 24 ++ runs (Tid.printer 1) 24)).flatten ++
    runs (Tid.printer 2) 5 ++ [Action.env (Env.tick 14000000)] ++ runs Tid.autoscaler 10 ++
    [Action.env (Env.tick 20000000)] ++ runs Tid.autoscaler 13

/-- A quiet cancellation: the third printer gets one more job and acts on the request while it
prints. -/
theorem no_orphaned_mutex_quiet_run :
    ∃ s : Sys, Reach (program defaultServer) QuietCancel (freshState defaultServer) s ∧
      (s.ctl (.printer 2)).status = .ended ∧ s.autoscalerPc = .downLockQueue ∧
      ∀ m, s.owner m ≠ .ended (.printer 2) := by
  obtain ⟨s, hs, hended, hq⟩ := exists_run defaultServer QuietCancel
    (scaleDownRun ++ runs Tid.receiver 19 ++ runs (Tid.printer 2) 13 ++
      [Action.accept (Tid.printer 2)] ++ runs Tid.autoscaler 3)
    (fun s => (s.ctl (.printer 2)).status = .ended ∧ s.autoscalerPc = .downLockQueue)
    (by decide +kernel)
  exact ⟨s, hs, hended, hq, fun m => ((no_orphaned_mutex hs).1 _ m hended).2⟩

/-- **A printer takes the job queue's mutex with it.**  Cancelled while it waits for a job, the
third printer takes the mutex again and ends; `scale_down` joins it and can never lock the queue. -/
theorem orphaned_job_queue_mutex :
    ∃ s : Sys, Reach (program defaultServer) anyChoice (freshState defaultServer) s ∧
      (s.ctl (.printer 2)).status = .ended ∧
      s.owner .jobQueueMutex = .ended (.printer 2) ∧
      (s.ctl .autoscaler).status = .running ∧ s.autoscalerPc = .downLockQueue ∧
      (step (program defaultServer) s (.run .autoscaler)).isNone = true :=
  exists_run defaultServer anyChoice
    (scaleDownRun ++ [Action.accept (Tid.printer 2)] ++ runs (Tid.printer 2) 1 ++
      runs Tid.autoscaler 3)
    (fun s => (s.ctl (.printer 2)).status = .ended ∧
      s.owner .jobQueueMutex = .ended (.printer 2) ∧ (s.ctl .autoscaler).status = .running ∧
      s.autoscalerPc = .downLockQueue ∧
      (step (program defaultServer) s (.run .autoscaler)).isNone = true)
    (by decide +kernel)

end Orchestrator
