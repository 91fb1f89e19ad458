import Orchestrator.Cancellation
import Orchestrator.Jobs

/-!
# Scaling down and the jobs in the printers' hands

`scale_down` picks a printer whose `is_idle` flag is set.  The flag is cleared after the printer has
taken a job and set before it has recorded the departure, and the printer may take a job between the
choice and the moment the cancellation takes effect.

* `SparesJobs` — a printer is asked to end only while it holds no job, and takes none after that.
* `no_job_lost` — under this condition no printer ends with a job.
* `job_lost_by_scale_down` — without it one does.
-/

namespace Orchestrator

open Pthread

variable {setup : Setup} {s s' : Sys} {a : SysAction} {ok : Sys → SysAction → Prop}

/-- The autoscaler asks only a printer that holds no job to end, and a printer that was asked takes
no job. -/
def SparesJobs (s : Sys) : SysAction → Prop
  | .run .autoscaler => s.autoscalerPc = .downCancel →
      ∀ i, s.data.autoscaler.printerToRemove = some i → (s.printerPc i).holdsJob = false
  | .run (.printer i) => s.printerPc i = .dequeue → (s.ctl (.printer i)).cancelPending = false
  | _ => True

instance (s : Sys) (a : SysAction) : Decidable (SparesJobs s a) :=
  match a with
  | .run .autoscaler => inferInstanceAs (Decidable (s.autoscalerPc = .downCancel →
      ∀ i, s.data.autoscaler.printerToRemove = some i → (s.printerPc i).holdsJob = false))
  | .run (.printer i) => inferInstanceAs (Decidable
      (s.printerPc i = .dequeue → (s.ctl (.printer i)).cancelPending = false))
  | .run .main | .run .stopper | .run .receiver | .run .refiller => isTrue trivial
  | .accept _ | .spurious _ | .env _ => isTrue trivial

/-- Only `scale_down` asks a printer to end. -/
lemma cancels_printer {t : Tid} {i : Slot} {s : Sys}
    (h : (s.instr (program setup) t).cancels s.data = some (.printer i)) :
    t = .autoscaler ∧ s.autoscalerPc = .downCancel ∧
      s.data.autoscaler.printerToRemove = some i := by
  rcases cancels_cases h with ⟨_, hu | hu⟩ | ⟨_, ⟨_, hu⟩ | ⟨_, hu⟩⟩ | ⟨ht, hq, j, hu, hi⟩ |
    ⟨_, _, _, hu⟩
  all_goals cases hu
  exact ⟨ht, hq, hi⟩

/-- A printer gets a job only by taking one. -/
lemma holdsJob_of_goes {i : Slot} {args : PrinterThreadArgs} {d d' : Data} {q q' : PrinterPc}
    (h : (printerCode setup i args q).Goes d d' q') (hq' : q'.holdsJob = true) :
    q.holdsJob = true ∨ q = .dequeue := by
  rcases printer_jobs h with ⟨_, hhand⟩ | ⟨hq, _, _⟩ | ⟨hq, _, _⟩
  · left
    rw [inHand, inHand, if_pos hq'] at hhand
    by_contra hq
    rw [if_neg hq] at hhand
    cases hhand
  · exact .inr hq
  · exact .inl (by rw [hq]; rfl)

/-- A printer that was asked to end, and one that is not alive, holds no job. -/
structure Spared (s : Sys) (i : Slot) : Prop where
  asked : (s.ctl (.printer i)).cancelPending = true → (s.printerPc i).holdsJob = false
  dead : (s.ctl (.printer i)).status.alive = false → (s.printerPc i).holdsJob = false

/-- A printer inside a condition wait holds no job. -/
lemma holdsJob_of_waiting {i : Slot} {m : Mutex}
    (h : Reach (program setup) ok (freshState setup) s)
    (hm : (s.ctl (.printer i)).status.mutex = some m) : (s.printerPc i).holdsJob = false := by
  obtain ⟨c, q, hq⟩ := waitPlace_fresh h (.printer i) m hm
  change printerCode setup i (s.printerArgs i) q = .wait c m (s.printerPc i) at hq
  cases q <;> simp only [printerCode, reduceCtorEq, Instr.wait.injEq] at hq
  all_goals
    rw [← hq.2.2]
    rfl

lemma Spared.step {i : Slot} (ih : Spared s i)
    (h : Reach (program setup) ok (freshState setup) s) (hok : SparesJobs s a)
    (hs : step (program setup) s a = some s') : Spared s' i := by
  have hsame : (s'.ctl (.printer i)).pc = (s.ctl (.printer i)).pc →
      ((s.printerPc i).holdsJob = false) → Spared s' i := fun hpc hq =>
    ⟨fun _ => by rw [Sys.printerPc, hpc]; exact hq, fun _ => by rw [Sys.printerPc, hpc]; exact hq⟩
  cases thread_step hs (.printer i) with
  | same ctl =>
      refine ⟨?_, ?_⟩ <;> rw [Sys.printerPc, ctl]
      · exact ih.asked
      · exact ih.dead
  | exec ex =>
      have goes : (printerCode setup i (s.printerArgs i) (s.printerPc i)).Goes s.data s'.data
        (s'.printerPc i) := ex.goes
      refine ⟨fun hp => ?_, fun hd => ?_⟩
      · -- a printer that was asked takes no job
        have hp' : (s.ctl (.printer i)).cancelPending = true := by
          rw [ex.pending, Bool.or_eq_true, decide_eq_true_eq] at hp
          refine hp.resolve_right fun hc => ?_
          cases (cancels_printer hc).1
        by_contra hq
        rcases holdsJob_of_goes goes (Bool.not_eq_false _ ▸ hq) with hq | hq
        · rw [ih.asked hp'] at hq; cases hq
        · have := hok hq
          rw [hp'] at this
          cases this
      · rcases (s.instr (program setup) (.printer i)).statusAfter_cases with
          hr | ⟨c, m, next, _, hst⟩
        · rw [ex.status, hr] at hd; cases hd
        · rw [ex.status, hst] at hd; cases hd
  | created t _ _ hc =>
      refine ⟨?_, ?_⟩ <;> rw [created_printer hc]
      · exact fun _ => rfl
      · exact fun _ => rfl
  | asked t ex hc ctl =>
      obtain ⟨rfl, hq, hi⟩ := cancels_printer hc
      exact hsame (by rw [ctl]) (hok hq i hi)
  | woken c m hw ctl =>
      exact hsame (by rw [ctl]) (holdsJob_of_waiting h (by rw [hw]; rfl))
  | resume m hw ctl => exact hsame (by rw [ctl]) (holdsJob_of_waiting h (by rw [hw]; rfl))
  | exit _ hi ctl =>
      refine hsame (by rw [ctl]) ?_
      change printerCode setup i (s.printerArgs i) (s.printerPc i) = .exit at hi
      generalize s.printerPc i = q at *
      cases q <;> first | rfl | cases hi
  | die m hw ctl => exact hsame (by rw [ctl]) (holdsJob_of_waiting h (by rw [hw]; rfl))
  | killed must _ _ ctl =>
      rw [Thread.mustCancel, Bool.and_eq_true] at must
      exact hsame (by rw [ctl]) (ih.asked must.2)
  | caught m must _ ctl =>
      rw [Thread.mustCancel, Bool.and_eq_true] at must
      exact hsame (by rw [ctl]) (ih.asked must.2)

/-- **No printer ends with a job**, in a run in which a printer is asked to end only while it holds
none and takes none after that. -/
theorem no_job_lost {i : Slot} (h : Reach (program setup) SparesJobs (freshState setup) s)
    (hended : (s.ctl (.printer i)).status = .ended) : (s.printerPc i).holdsJob = false := by
  have hspared : Spared s i := h.invariant (I := fun s => Spared s i)
    ⟨fun _ => rfl, fun _ => rfl⟩ fun hr ih hok hs => ih.step hr hok hs
  exact hspared.dead (by rw [hended]; rfl)

/-- The third printer is asked to end while it waits for a job, and ends at once. -/
theorem no_job_lost_while_waiting :
    ∃ s : Sys, Reach (program defaultServer) SparesJobs (freshState defaultServer) s ∧
      (s.ctl (.printer 2)).status = .ended ∧ (s.printerPc 2).holdsJob = false := by
  obtain ⟨s, hs, hended⟩ := exists_run defaultServer SparesJobs
    (scaleDownRun ++ [Action.accept (Tid.printer 2)] ++ runs (Tid.printer 2) 1)
    (fun s => (s.ctl (.printer 2)).status = .ended) (by decide +kernel)
  exact ⟨s, hs, hended, no_job_lost hs hended⟩

/-- **Scaling down loses a job.**  Between the choice of the idle printer and the moment the
cancellation takes effect, the printer takes the eleventh job; it ends while it prints. -/
theorem job_lost_by_scale_down :
    ∃ s : Sys, Reach (program defaultServer) anyChoice (freshState defaultServer) s ∧
      (s.ctl (.printer 2)).status = .ended ∧ (s.printerPc 2).holdsJob = true ∧
      (s.data.printer 2).job.id = 11 ∧ s.data.stats.totalJobsServed = 10 ∧
      s.autoscalerPc = .downLockQueue :=
  exists_run defaultServer anyChoice
    (scaleDownRun ++ runs Tid.receiver 19 ++ runs (Tid.printer 2) 13 ++
      [Action.accept (Tid.printer 2)] ++ runs Tid.autoscaler 3)
    (fun s => (s.ctl (.printer 2)).status = .ended ∧ (s.printerPc 2).holdsJob = true ∧
      (s.data.printer 2).job.id = 11 ∧ s.data.stats.totalJobsServed = 10 ∧
      s.autoscalerPc = .downLockQueue)
    (by decide +kernel)

end Orchestrator
