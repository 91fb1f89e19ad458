import Orchestrator.PoolRoster

/-!
# The joins of the printer threads

The autoscaler is joined only after `printer_pool_join_all`, which may miss a printer or join it a
second time.

* `printers_joined_once` — in a run that keeps to the walk every printer thread is joined once, and
  none is alive at the end.
* `printer_joined_twice_or_never` — without it a printer is left running, and another is joined
  twice.
-/

namespace Orchestrator

open Pthread Pooling

variable {s : Sys} {setup : Setup} {es : List (ThreadEvent Tid)}

/-! ## The result -/

/-- The roster is sound in every run that keeps to the walk. -/
theorem roster_sound (h : Traced (program setup) KeepsToWalk (freshState setup) s es) :
    (roster s es).Sound := by
  refine h.invariant (I := fun s es => (roster s es).Sound) ?_ fun {s s' a es} hr ih hok hs => ?_
  · have hun : ∀ i, ¬(roster (freshState setup) []).Unjoined i := by
      intro i hi
      rcases hi with hi | ⟨hactive, _⟩
      · cases hi
      · cases hactive
    exact ⟨fun i hi => absurd hi (hun i), fun i _ => ⟨fun n hn => (by cases hn), rfl⟩,
      fun i hi => (by cases hi), fun i hi => (by cases hi), fun i hi => (by cases hi)⟩
  · obtain ⟨r, hr | hmove, hends⟩ : MovesRoster s s' es _ := roster_step hr hok hs
    · exact (hr ▸ ih).ends hends
    · exact (hmove.sound ih).ends hends

/-- Every printer thread is joined once at most, and once when the end of the simulation is
reported; then none of them is alive. -/
structure JoinedOnce (s : Sys) (es : List (ThreadEvent Tid)) : Prop where
  atMost : ∀ i : Slot, ∀ n ∈ joinCounts (.printer i) es, n ≤ 1
  atEnd : s.mainPc = .emitEnd → ∀ i : Slot, (∀ n ∈ joinCounts (.printer i) es, n = 1) ∧
    (s.ctl (.printer i)).status.alive = false

/-- **Every printer thread is joined exactly once** in a run that keeps to the walk. -/
theorem printers_joined_once (h : Traced (program setup) KeepsToWalk (freshState setup) s es) :
    JoinedOnce s es := by
  have hsound := roster_sound h
  refine ⟨hsound.at_most, fun hq => hsound.at_end (fun i => ?_) ?_⟩
  · refine decide_eq_true ?_
    rw [LookedAt, hq]
    exact Int.ofNat_lt.mpr i.isLt
  · simp [roster, hq]

/-! ## Runs that scale up at the end -/

/-- What the scheduler's choices are computed to reach, with the history of the run. -/
lemma exists_history (setup : Setup) (ok : Sys → SysAction → Prop) [∀ s a, Decidable (ok s a)]
    (as : List SysAction) (test : Sys → List (ThreadEvent Tid) → Prop)
    [∀ s es, Decidable (test s es)]
    (h : (runTracedIf (program setup) ok (freshState setup) [] as).any
      (fun r => decide (test r.1 r.2)) = true) :
    ∃ (s : Sys) (es : List (ThreadEvent Tid)),
      Traced (program setup) ok (freshState setup) s es ∧ test s es :=
  exists_traced_of_run as h

/-- Ten jobs pile up, the autoscaler decides to start a third printer and the user stops the
simulation; the two printers and the refiller come to their ends. -/
def lateScaleUp (autoscaler : ℕ) : List SysAction :=
  runs Tid.main 20 ++ runs Tid.receiver 192 ++ [Action.env (Env.tick 10000000)] ++
    runs Tid.autoscaler autoscaler ++ runs Tid.stopper 27 ++ runs Tid.receiver 2 ++
    [Action.accept Tid.receiver] ++ runs (Tid.printer 0) 13 ++ runs (Tid.printer 1) 13 ++
    runs Tid.refiller 8

/-- The third printer is started before the walk and joined by it. -/
theorem printers_joined_once_after_scale_up :
    ∃ (s : Sys) (es : List (ThreadEvent Tid)),
      Traced (program defaultServer) KeepsToWalk (freshState defaultServer) s es ∧
        s.mainPc = .emitEnd ∧ joinCounts (.printer 2) es = [1] ∧ JoinedOnce s es := by
  obtain ⟨s, es, hs, hend, hcount⟩ := exists_history defaultServer KeepsToWalk
    (lateScaleUp 18 ++ runs (Tid.printer 2) 13 ++ runs Tid.main 18 ++ runs Tid.autoscaler 3 ++
      runs Tid.main 1)
    (fun s es => s.mainPc = .emitEnd ∧ joinCounts (.printer 2) es = [1])
    (by decide +kernel)
  exact ⟨s, es, hs, hend, hcount, printers_joined_once hs⟩

/-- **A printer is left running, and a printer is joined twice.**  In the first run the third
printer is started after the walk has passed its slot: it is running when the end is reported and
nobody joins it.  In the second one `scale_down` and the walk join the third printer. -/
theorem printer_joined_twice_or_never :
    (∃ (s : Sys) (es : List (ThreadEvent Tid)),
      Traced (program defaultServer) anyChoice (freshState defaultServer) s es ∧
        s.mainPc = .emitEnd ∧ (s.ctl (.printer 2)).status = .running ∧
        joinCounts (.printer 2) es = [0] ∧ ¬JoinedOnce s es) ∧
    ∃ (s : Sys) (es : List (ThreadEvent Tid)),
      Traced (program defaultServer) anyChoice (freshState defaultServer) s es ∧
        joinCounts (.printer 2) es = [2] ∧ ¬JoinedOnce s es := by
  constructor
  · obtain ⟨s, es, hs, hend, hrun, hcount⟩ := exists_history defaultServer anyChoice
      (lateScaleUp 13 ++ runs Tid.main 17 ++ runs Tid.autoscaler 8 ++ runs Tid.main 1)
      (fun s es => s.mainPc = .emitEnd ∧ (s.ctl (.printer 2)).status = .running ∧
        joinCounts (.printer 2) es = [0])
      (by decide +kernel)
    refine ⟨s, es, hs, hend, hrun, hcount, fun hjoined => ?_⟩
    have halive := (hjoined.atEnd hend 2).2
    rw [hrun] at halive
    cases halive
  · obtain ⟨s, es, hs, hcount⟩ := exists_history defaultServer anyChoice
      (scaleDownRun ++ runs Tid.stopper 18 ++ runs Tid.receiver 2 ++ [Action.accept Tid.receiver] ++
        runs (Tid.printer 0) 13 ++ runs (Tid.printer 1) 13 ++ runs (Tid.printer 2) 15 ++
        runs Tid.refiller 8 ++ runs Tid.main 18 ++ runs Tid.autoscaler 1)
      (fun _ es => joinCounts (.printer 2) es = [2])
      (by decide +kernel)
    refine ⟨s, es, hs, hcount, fun hjoined => ?_⟩
    have htwice := hjoined.atMost 2 2 (by rw [hcount]; exact List.mem_singleton.mpr rfl)
    omega

end Orchestrator
