import Orchestrator.Pthread.Reach
import Mathlib.Order.Nat

/-!
# The peak of a quantity over a run

`ReachPeak p ok s₀ f` collects the states that a run from `s₀` can reach, each with the largest
value that `f` has had on the way, the two ends included.

* `ReachPeak.invariant` — the invariant rule with the peak so far.
* `Reach.exists_peak` — every reachable state has one.
-/

set_option linter.unusedSectionVars false

namespace Pthread

variable {T : Type} {Pc : T → Type} {M C A D E : Type} [DecidableEq T] [DecidableEq M]
  [DecidableEq C]

/-- The states a run from `s₀` reaches, with the peak of `f` over the run. -/
inductive ReachPeak (p : Program T Pc M C A D E) (ok : State T Pc M C A D → Action T E → Prop)
    (s₀ : State T Pc M C A D) (f : State T Pc M C A D → ℕ) : ℕ → State T Pc M C A D → Prop where
  | refl : ReachPeak p ok s₀ f (f s₀) s₀
  | tail {peak : ℕ} {s s' : State T Pc M C A D} {a : Action T E} :
      ReachPeak p ok s₀ f peak s → ok s a → step p s a = some s' →
        ReachPeak p ok s₀ f (max peak (f s')) s'

variable {p : Program T Pc M C A D E} {s s₀ : State T Pc M C A D}
  {ok : State T Pc M C A D → Action T E → Prop} {f : State T Pc M C A D → ℕ} {peak : ℕ}

namespace ReachPeak

lemma reach (h : ReachPeak p ok s₀ f peak s) : Reach p ok s₀ s := by
  induction h with
  | refl => exact .refl
  | tail _ hok hs ih => exact ih.tail hok hs

/-- **The invariant rule with peaks.** -/
theorem invariant {I : ℕ → State T Pc M C A D → Prop} (hinit : I (f s₀) s₀)
    (hstep : ∀ {peak s s' a}, Reach p ok s₀ s → I peak s → ok s a → step p s a = some s' →
      I (max peak (f s')) s')
    (h : ReachPeak p ok s₀ f peak s) : I peak s := by
  induction h with
  | refl => exact hinit
  | tail hr hok hs ih => exact hstep hr.reach ih hok hs

/-- The quantity is never above its peak. -/
lemma le_peak (h : ReachPeak p ok s₀ f peak s) : f s ≤ peak := by
  cases h with
  | refl => exact le_rfl
  | tail => exact le_max_right _ _

end ReachPeak

/-- Every run has a peak. -/
lemma Reach.exists_peak (f : State T Pc M C A D → ℕ) (h : Reach p ok s₀ s) :
    ∃ peak, ReachPeak p ok s₀ f peak s := by
  induction h with
  | refl => exact ⟨_, .refl⟩
  | tail _ hok hs ih =>
      obtain ⟨peak, hpeak⟩ := ih
      exact ⟨_, hpeak.tail hok hs⟩

end Pthread
