import Orchestrator.Pthread.Control

/-!
# Quotas

How much a thread still does once some condition holds of the memory for good.

* `Quota` — a number in memory that one thread raises, and how much the thread may still raise it,
  by its program counter and the memory.
* `Quota.run` — from a state in which the condition holds, no run raises the number by more.
-/

set_option linter.unusedSectionVars false

namespace Pthread

variable {T : Type} {Pc : T → Type} {M C A D E : Type} [DecidableEq T] [DecidableEq M]
  [DecidableEq C]

/-- The quota of thread `t` once `closing` holds. -/
structure Quota (p : Program T Pc M C A D E) (t : T) where
  closing : D → Prop
  count : D → Nat
  owed : Pc t → D → Nat
  own : ∀ arg q d d' q', closing d → (p.code t arg q).Goes d d' q' →
    count d' + owed q' d' ≤ count d + owed q d
  other : ∀ u arg q d d' q', u ≠ t → closing d → (p.code u arg q).Goes d d' q' →
    count d' ≤ count d ∧ ∀ r, owed r d' = owed r d
  env : ∀ e d, count (p.env e d) ≤ count d ∧ ∀ r, owed r (p.env e d) = owed r d
  entry : ∀ d, owed (p.entry t) d = 0

namespace Quota

variable {p : Program T Pc M C A D E} {t : T} (Q : Quota p t) {s s' s₀ : State T Pc M C A D}
  {a : Action T E} {ok : State T Pc M C A D → Action T E → Prop}

/-- What has been done, and what may still be done. -/
def total (s : State T Pc M C A D) : Nat := Q.count s.data + Q.owed (s.ctl t).pc s.data

variable {Q}

/-- **No step raises the total.** -/
lemma total_step (hclosing : Q.closing s.data) (hs : step p s a = some s') :
    Q.total s' ≤ Q.total s := by
  cases step_move hs with
  | idle data places =>
      have heq : Q.total s' = Q.total s := by rw [total, total, data, (places t).1]
      exact Nat.le_of_eq heq
  | env e data places =>
      obtain ⟨hcount, howed⟩ := Q.env e s.data
      rw [total, total, data, (places t).1, howed]
      omega
  | exec u ex =>
      by_cases hu : u = t
      · subst hu
        exact Q.own _ _ _ _ _ hclosing ex.goes
      · obtain ⟨hcount, howed⟩ := Q.other u _ _ _ _ _ hu hclosing ex.goes
        rcases ex.other_place (Ne.symm hu) with hpl | hc
        · rw [total, total, hpl.1, howed]
          omega
        · rw [total, total, hc.fresh, Q.entry]
          omega

/-- **The quota of a run.**  From a state in which the condition holds, the number grows by what the
thread still owes there, at most. -/
theorem run (hkeep : ∀ {s s' a}, Reach p ok s₀ s → Q.closing s.data → step p s a = some s' →
      Q.closing s'.data)
    (hr : Reach p ok s₀ s) (hclosing : Q.closing s.data) (h : Reach p ok s s') :
    Q.count s'.data ≤ Q.count s.data + Q.owed (s.ctl t).pc s.data := by
  have hinv : Q.closing s'.data ∧ Q.total s' ≤ Q.total s :=
    h.invariant (I := fun s' => Q.closing s'.data ∧ Q.total s' ≤ Q.total s)
      ⟨hclosing, Nat.le_refl _⟩
      fun hr' ih _ hs =>
        ⟨hkeep (hr.trans hr') ih.1 hs, Nat.le_trans (total_step ih.1 hs) ih.2⟩
  exact Nat.le_trans (Nat.le_add_right _ _) hinv.2

end Quota

end Pthread
