import Orchestrator.Pthread.Control

/-!
# Chronicles

A run together with a record of what its instructions did, oldest entry first.  A `Scribe` says
which instructions are recorded, and as what.

* `Chronicled` — the states a run reaches, with the chronicle of the run.
* `Chronicled.invariant` — the invariant rule with chronicles.
* `entry_of_moves`, `entry_of_others` — what a step adds to the chronicle of one thread.
* `exists_chronicled` — a chronicle given by a list of choices.
-/

set_option linter.unusedSectionVars false

namespace Pthread

variable {T : Type} {Pc : T → Type} {M C A D E β : Type} [DecidableEq T] [DecidableEq M]
  [DecidableEq C]

/-- What a thread that executes its instruction in some memory is recorded to have done. -/
abbrev Scribe (T : Type) (Pc : T → Type) (D β : Type) := (t : T) → Pc t → D → Option β

/-- The entry of a step: that of the instruction that is executed. -/
def State.entry (p : Program T Pc M C A D E) (scribe : Scribe T Pc D β) (s : State T Pc M C A D) :
    Action T E → Option β
  | .run t => match (s.ctl t).status, s.instr p t with
    | .running, .exit => none
    | .running, _ => scribe t (s.ctl t).pc s.data
    | _, _ => none
  | .accept _ | .spurious _ | .env _ => none

/-- The states a run from `s₀` reaches, with the chronicle of the run. -/
inductive Chronicled (p : Program T Pc M C A D E)
    (ok : State T Pc M C A D → Action T E → Prop) (scribe : Scribe T Pc D β)
    (s₀ : State T Pc M C A D) : State T Pc M C A D → List β → Prop where
  | refl : Chronicled p ok scribe s₀ s₀ []
  | tail {s s' : State T Pc M C A D} {a : Action T E} {es : List β} :
      Chronicled p ok scribe s₀ s es → ok s a → step p s a = some s' →
        Chronicled p ok scribe s₀ s' (es ++ (s.entry p scribe a).toList)

variable {p : Program T Pc M C A D E} {ok : State T Pc M C A D → Action T E → Prop}
  {scribe : Scribe T Pc D β} {s s' s₀ : State T Pc M C A D} {a : Action T E} {es : List β}

namespace Chronicled

lemma reach (h : Chronicled p ok scribe s₀ s es) : Reach p ok s₀ s := by
  induction h with
  | refl => exact .refl
  | tail _ hok hs ih => exact ih.tail hok hs

/-- **The invariant rule with chronicles.** -/
theorem invariant {I : State T Pc M C A D → List β → Prop} (hinit : I s₀ [])
    (hstep : ∀ {s s' a es}, Reach p ok s₀ s → I s es → ok s a → step p s a = some s' →
      I s' (es ++ (s.entry p scribe a).toList))
    (h : Chronicled p ok scribe s₀ s es) : I s es := by
  induction h with
  | refl => exact hinit
  | tail hr hok hs ih => exact hstep hr.reach ih hok hs

end Chronicled

/-! ## Entries -/

/-- **An entry is an instruction that is executed.** -/
theorem step_entry (scribe : Scribe T Pc D β) (h : step p s a = some s') :
    s.entry p scribe a = none ∨ ∃ t, a = .run t ∧ Executes p s s' t ∧
      s.entry p scribe a = scribe t (s.ctl t).pc s.data := by
  cases step_effect h with
  | exec t ex =>
      refine .inr ⟨t, rfl, ex, ?_⟩
      have hgoes := ex.goes
      rw [State.entry, ex.running]
      generalize s.instr p t = i at hgoes
      cases i <;> first | rfl | exact hgoes.elim
  | exit t running instr _ =>
      left
      rw [State.entry, running, instr]
  | resume t m woken _ _ =>
      left
      rw [State.entry, woken]
  | die t m cancelled _ _ =>
      left
      rw [State.entry, cancelled]
  | _ => exact .inl rfl

variable {u : T}

/-- A chronicle of one thread has no entries of others. -/
lemma entry_of_others (hscribe : ∀ t, t ≠ u → ∀ q d, scribe t q d = none)
    (h : step p s a = some s') (hu : ¬Executes p s s' u) : s.entry p scribe a = none := by
  rcases step_entry scribe h with hnone | ⟨t, _, ex, hentry⟩
  · exact hnone
  · have hne : t ≠ u := by
      rintro rfl
      exact hu ex
    rw [hentry, hscribe t hne]

/-- An instruction that moves its thread is recorded. -/
lemma entry_of_moves (h : step p s a = some s') (ex : Executes p s s' u)
    (hpc : (s'.ctl u).pc ≠ (s.ctl u).pc) :
    s.entry p scribe a = scribe u (s.ctl u).pc s.data := by
  obtain rfl := run_of_moves h ex hpc
  have hgoes := ex.goes
  rw [State.entry, ex.running]
  generalize s.instr p u = i at hgoes
  cases i <;> first | rfl | exact hgoes.elim

/-! ## Chronicles given by a list of choices -/

variable [∀ s a, Decidable (ok s a)]

/-- Run a list of scheduler choices and record it. -/
def runChronicle (p : Program T Pc M C A D E) (ok : State T Pc M C A D → Action T E → Prop)
    [∀ s a, Decidable (ok s a)] (scribe : Scribe T Pc D β) :
    State T Pc M C A D → List β → List (Action T E) → Option (State T Pc M C A D × List β)
  | s, es, [] => some (s, es)
  | s, es, a :: as =>
      if ok s a then
        match step p s a with
        | some s' => runChronicle p ok scribe s' (es ++ (s.entry p scribe a).toList) as
        | none => none
      else none

lemma chronicled_of_run {as : List (Action T E)} {es' : List β}
    (hs : Chronicled p ok scribe s₀ s es)
    (h : runChronicle p ok scribe s es as = some (s', es')) :
    Chronicled p ok scribe s₀ s' es' := by
  induction as generalizing s es with
  | nil =>
      obtain ⟨rfl, rfl⟩ := Prod.mk.inj (Option.some.inj h)
      exact hs
  | cons a as ih =>
      rw [runChronicle] at h
      split at h
      · next hok =>
        split at h
        · next s₁ hstep => exact ih (hs.tail hok hstep) h
        · cases h
      · cases h

/-- A property that the last state of a list of choices and its chronicle are computed to have. -/
lemma exists_chronicled {test : State T Pc M C A D → List β → Prop}
    [∀ s es, Decidable (test s es)] (as : List (Action T E))
    (h : (runChronicle p ok scribe s₀ [] as).any (fun r => decide (test r.1 r.2)) = true) :
    ∃ s es, Chronicled p ok scribe s₀ s es ∧ test s es := by
  cases hrun : runChronicle p ok scribe s₀ [] as with
  | none => rw [hrun] at h; cases h
  | some r =>
      rw [hrun] at h
      exact ⟨r.1, r.2, chronicled_of_run .refl hrun, of_decide_eq_true h⟩

end Pthread
