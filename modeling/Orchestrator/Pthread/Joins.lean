import Orchestrator.Pthread.Control

/-!
# Creations and joins

The history of a run: which threads were created and which were joined, newest first.  One name may
belong to several threads, one after the other.

* `Traced` — the reachable states with their histories.
* `joinCounts` — how often each thread that had a name was joined.
* `step_event` — an event is an instruction that its thread executes.
-/

set_option linter.unusedSectionVars false

namespace Pthread

variable {T : Type} {Pc : T → Type} {M C A D E : Type} [DecidableEq T] [DecidableEq M]
  [DecidableEq C]

/-- A thread was created, or a join of it returned. -/
inductive ThreadEvent (T : Type) where
  | created (t : T)
  | joined (t : T)
  deriving DecidableEq, Repr

/-- The event of an instruction that is executed. -/
def Instr.threadEvent {P : Type} (i : Instr T P M C A D) (d : D) : Option (ThreadEvent T) :=
  match i with
  | .create target _ ok _ _ => if ok d then (target d).map .created else none
  | .join target _ => (target d).map .joined
  | _ => none

/-- The event of a step. -/
def State.threadEvent (p : Program T Pc M C A D E) (s : State T Pc M C A D) :
    Action T E → Option (ThreadEvent T)
  | .run t => if (s.ctl t).status = .running then (s.instr p t).threadEvent s.data else none
  | .accept _ | .spurious _ | .env _ => none

/-- The states a run from `s₀` reaches, with the history of the run. -/
inductive Traced (p : Program T Pc M C A D E) (ok : State T Pc M C A D → Action T E → Prop)
    (s₀ : State T Pc M C A D) : State T Pc M C A D → List (ThreadEvent T) → Prop where
  | refl : Traced p ok s₀ s₀ []
  | tail {s s' : State T Pc M C A D} {a : Action T E} {es : List (ThreadEvent T)} :
      Traced p ok s₀ s es → ok s a → step p s a = some s' →
        Traced p ok s₀ s' ((s.threadEvent p a).toList ++ es)

/-- How often each thread that had the name `t` was joined, latest thread first. -/
def joinCounts (t : T) : List (ThreadEvent T) → List Nat
  | [] => []
  | .created u :: es => if u = t then 0 :: joinCounts t es else joinCounts t es
  | .joined u :: es => if u = t then (joinCounts t es).modifyHead (· + 1) else joinCounts t es

variable {p : Program T Pc M C A D E} {s s' s₀ : State T Pc M C A D} {a : Action T E}
variable {ok : State T Pc M C A D → Action T E → Prop} {es : List (ThreadEvent T)}

lemma Traced.reach (h : Traced p ok s₀ s es) : Reach p ok s₀ s := by
  induction h with
  | refl => exact .refl
  | tail _ hok hs ih => exact ih.tail hok hs

/-- **The invariant rule with histories.** -/
theorem Traced.invariant {I : State T Pc M C A D → List (ThreadEvent T) → Prop} (hinit : I s₀ [])
    (hstep : ∀ {s s' a es}, Reach p ok s₀ s → I s es → ok s a → step p s a = some s' →
      I s' ((s.threadEvent p a).toList ++ es))
    (h : Traced p ok s₀ s es) : I s es := by
  induction h with
  | refl => exact hinit
  | tail hr hok hs ih => exact hstep hr.reach ih hok hs

/-! ## Events -/

/-- **An event is an instruction that is executed.** -/
theorem step_event (h : step p s a = some s') :
    s.threadEvent p a = none ∨ ∃ t, a = .run t ∧ Executes p s s' t ∧
      s.threadEvent p a = (s.instr p t).threadEvent s.data := by
  cases step_effect h with
  | exec t ex => exact .inr ⟨t, rfl, ex, if_pos ex.running⟩
  | exit t running instr _ =>
      left
      rw [State.threadEvent, if_pos running, instr]
      rfl
  | resume t m woken _ _ => exact .inl (if_neg (by rw [woken]; simp))
  | die t m cancelled _ _ => exact .inl (if_neg (by rw [cancelled]; simp))
  | _ => exact .inl rfl

/-- The event of a thread that executes an instruction. -/
lemma event_of_executes {t : T} (ex : Executes p s s' t) :
    s.threadEvent p (.run t) = (s.instr p t).threadEvent s.data :=
  if_pos ex.running

/-- **What `pthread_create` does**: it succeeds, and nobody but the new thread comes to life, or it
fails. -/
lemma create_cases {t : T} {target : D → Option T} {arg : A} {ok : D → Bool} {next fail : Pc t}
    (h : step p s (.run t) = some s') (hrun : (s.ctl t).status = .running)
    (hi : s.instr p t = .create target arg ok next fail) :
    s'.data = s.data ∧
      ((∃ u, s.threadEvent p (.run t) = some (.created u) ∧ target s.data = some u ∧
          ok s.data = true ∧ (s'.ctl t).pc = next ∧
          ∀ v, v ≠ u → (s'.ctl v).status.alive = true → (s.ctl v).status.alive = true) ∨
        (s.threadEvent p (.run t) = none ∧ (s'.ctl t).pc = fail ∧
          ∀ v, (s'.ctl v).status.alive = true → (s.ctl v).status.alive = true)) := by
  have hevent : s.threadEvent p (.run t) =
      if ok s.data then (target s.data).map .created else none := by
    rw [State.threadEvent, if_pos hrun, hi]
    rfl
  have hmoved : ∀ (q : Pc t) (v : T), ((s.goto t s.data q).ctl v).status = (s.ctl v).status := by
    intro q v
    by_cases hv : v = t
    · subst hv
      rw [State.goto_ctl_self]
    · rw [State.goto_ctl_of_ne _ _ hv]
  simp only [step, hrun] at h
  rw [State.instr] at hi
  simp only [hi, exec] at h
  cases htarget : target s.data with
  | none =>
      simp only [htarget] at h
      obtain rfl := Option.some.inj h
      exact ⟨rfl, .inr ⟨by rw [hevent, htarget]; simp, by simp, fun v hv => by rwa [hmoved] at hv⟩⟩
  | some u =>
      simp only [htarget] at h
      split at h
      · cases h
      · next hdead =>
        split at h
        · next hok =>
          obtain rfl := Option.some.inj h
          have hne : t ≠ u := by
            rintro rfl
            simp [hrun, Status.alive] at hdead
          refine ⟨rfl, .inl ⟨u, by rw [hevent, if_pos hok, htarget]; rfl, rfl, hok, ?_, ?_⟩⟩
          · rw [State.setCtl_ctl_of_ne _ hne, State.goto_ctl_self]
          · intro v hvu hv
            rwa [State.setCtl_ctl_of_ne _ hvu, hmoved] at hv
        · next hok =>
          obtain rfl := Option.some.inj h
          exact ⟨rfl, .inr ⟨by rw [hevent, if_neg hok], by simp, fun v hv => by rwa [hmoved] at hv⟩⟩

/-! ## Histories of given runs -/

section

variable [∀ s a, Decidable (ok s a)]

/-- Run a list of scheduler choices, each of which has to be allowed, and keep the history. -/
def runTracedIf (p : Program T Pc M C A D E) (ok : State T Pc M C A D → Action T E → Prop)
    [∀ s a, Decidable (ok s a)] :
    State T Pc M C A D → List (ThreadEvent T) → List (Action T E) →
      Option (State T Pc M C A D × List (ThreadEvent T))
  | s, es, [] => some (s, es)
  | s, es, a :: as =>
      if ok s a then
        match step p s a with
        | some s' => runTracedIf p ok s' ((s.threadEvent p a).toList ++ es) as
        | none => none
      else none

lemma traced_of_runTracedIf {as : List (Action T E)} {es' : List (ThreadEvent T)}
    (h : Traced p ok s₀ s es) (hrun : runTracedIf p ok s es as = some (s', es')) :
    Traced p ok s₀ s' es' := by
  induction as generalizing s es with
  | nil =>
      obtain ⟨rfl, rfl⟩ := Prod.mk.inj (Option.some.inj hrun)
      exact h
  | cons a as ih =>
      rw [runTracedIf] at hrun
      split at hrun
      · next hok =>
        split at hrun
        · next s₁ hs => exact ih (h.tail hok hs) hrun
        · cases hrun
      · cases hrun

/-- What the last state and the history of a list of choices are computed to have. -/
lemma exists_traced_of_run {test : State T Pc M C A D → List (ThreadEvent T) → Prop}
    [∀ s es, Decidable (test s es)] (as : List (Action T E))
    (h : (runTracedIf p ok s₀ [] as).any (fun r => decide (test r.1 r.2)) = true) :
    ∃ s es, Traced p ok s₀ s es ∧ test s es := by
  cases hrun : runTracedIf p ok s₀ [] as with
  | none => rw [hrun] at h; cases h
  | some r =>
      rw [hrun] at h
      exact ⟨r.1, r.2, traced_of_runTracedIf .refl hrun, of_decide_eq_true h⟩

end

end Pthread
