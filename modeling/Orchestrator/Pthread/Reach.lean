import Orchestrator.Pthread.Step

/-!
# Reachable states

`Reach p ok s₀` collects the states that a run from `s₀` can reach by steps whose scheduler
choice satisfies `ok`; the choices a statement excludes are the ones `ok` refuses.  An invariant
is proved once per step (`Reach.invariant`), and a reachable state is exhibited by a list of
choices (`exists_reach_of_runTraceIf`).
-/

set_option linter.unusedSectionVars false

namespace Pthread

variable {T : Type} {Pc : T → Type} {M C A D E : Type} [DecidableEq T] [DecidableEq M]
  [DecidableEq C]
variable {p : Program T Pc M C A D E} {s s' s₀ : State T Pc M C A D} {a : Action T E}

/-- The states a run from `s₀` reaches, with every step allowed by `ok`. -/
inductive Reach (p : Program T Pc M C A D E) (ok : State T Pc M C A D → Action T E → Prop)
    (s₀ : State T Pc M C A D) : State T Pc M C A D → Prop where
  | refl : Reach p ok s₀ s₀
  | tail {s s' : State T Pc M C A D} {a : Action T E} :
      Reach p ok s₀ s → ok s a → step p s a = some s' → Reach p ok s₀ s'

namespace Reach

variable {ok ok' : State T Pc M C A D → Action T E → Prop}

/-- **The invariant rule.**  What holds at the start and is kept by every allowed step from a
reachable state holds in every reachable state. -/
theorem invariant {I : State T Pc M C A D → Prop} (hinit : I s₀)
    (hstep : ∀ {s s' a}, Reach p ok s₀ s → I s → ok s a → step p s a = some s' → I s')
    (h : Reach p ok s₀ s) : I s := by
  induction h with
  | refl => exact hinit
  | tail hr hok hs ih => exact hstep hr ih hok hs

/-- Fewer allowed steps reach fewer states. -/
lemma mono (himp : ∀ s a, ok s a → ok' s a) (h : Reach p ok s₀ s) : Reach p ok' s₀ s := by
  induction h with
  | refl => exact .refl
  | tail _ hok hs ih => exact .tail ih (himp _ _ hok) hs

lemma trans {s₁ s₂ : State T Pc M C A D} (h₁ : Reach p ok s₀ s₁) (h₂ : Reach p ok s₁ s₂) :
    Reach p ok s₀ s₂ := by
  induction h₂ with
  | refl => exact h₁
  | tail _ hok hs ih => exact .tail ih hok hs

end Reach

/-! ## Runs given by a list of choices -/

/-- Every choice is allowed. -/
abbrev anyChoice : State T Pc M C A D → Action T E → Prop := fun _ _ => True

/-- Thread `t` runs `n` times. -/
def runs (t : T) (n : Nat) : List (Action T E) := List.replicate n (.run t)

section

variable {ok : State T Pc M C A D → Action T E → Prop} [∀ s a, Decidable (ok s a)]

/-- Run a list of scheduler choices, each of which has to be allowed. -/
def runTraceIf (p : Program T Pc M C A D E) (ok : State T Pc M C A D → Action T E → Prop)
    [∀ s a, Decidable (ok s a)] :
    State T Pc M C A D → List (Action T E) → Option (State T Pc M C A D)
  | s, [] => some s
  | s, a :: as =>
      if ok s a then
        match step p s a with
        | some s' => runTraceIf p ok s' as
        | none => none
      else none

/-- The state a list of choices ends in is reachable. -/
lemma reach_of_runTraceIf {as : List (Action T E)} (h : runTraceIf p ok s as = some s') :
    Reach p ok s s' := by
  induction as generalizing s with
  | nil =>
      obtain rfl : s = s' := by simpa [runTraceIf] using h
      exact .refl
  | cons a as ih =>
      rw [runTraceIf] at h
      split at h
      · next hok =>
        split at h
        · next s₁ hs => exact (Reach.tail .refl hok hs).trans (ih h)
        · cases h
      · cases h

/-- A property that the last state of a list of choices is computed to have is one of a reachable
state. -/
lemma exists_reach_of_runTraceIf {test : State T Pc M C A D → Prop} [DecidablePred test]
    (as : List (Action T E)) (h : (runTraceIf p ok s₀ as).any (fun s => decide (test s)) = true) :
    ∃ s, Reach p ok s₀ s ∧ test s := by
  cases hrun : runTraceIf p ok s₀ as with
  | none => rw [hrun] at h; cases h
  | some s =>
      rw [hrun] at h
      exact ⟨s, reach_of_runTraceIf hrun, of_decide_eq_true h⟩

end

end Pthread
