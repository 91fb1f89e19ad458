import Mathlib.Tactic.Common

/-!
# Loops

A loop is given by its body.  In a state the body goes on to another state (`inl`), leaves with a
result (`inr`) or fails (`none`).

* `Leaves` — the loop leaves with a result; `Leaves.unique`, there is only one.
* `run` — the same for a given number of rounds, to compute with; `leaves_of_run`.
* `exists_leaves` — total correctness: an invariant that every round keeps while it brings a
  variant down.
-/

namespace Loops

variable {σ ρ : Type} {body : σ → Option (σ ⊕ ρ)} {s : σ} {r r' : ρ}

/-- The loop leaves with a result. -/
inductive Leaves (body : σ → Option (σ ⊕ ρ)) : σ → ρ → Prop
  | leave {s : σ} {r : ρ} (h : body s = some (.inr r)) : Leaves body s r
  | round {s s' : σ} {r : ρ} (h : body s = some (.inl s')) (hrest : Leaves body s' r) :
      Leaves body s r

/-- **A loop leaves with one result.** -/
theorem Leaves.unique (h : Leaves body s r) (h' : Leaves body s r') : r = r' := by
  induction h with
  | leave h =>
      cases h' with
      | leave h' => exact Sum.inr.inj (Option.some.inj (h.symm.trans h'))
      | round h' _ => cases h.symm.trans h'
  | round h _ ih =>
      cases h' with
      | leave h' => cases h.symm.trans h'
      | round h' hrest =>
          obtain rfl := Sum.inl.inj (Option.some.inj (h.symm.trans h'))
          exact ih hrest

/-- At most `n` rounds of the loop. -/
def run (body : σ → Option (σ ⊕ ρ)) : ℕ → σ → Option ρ
  | 0, _ => none
  | n + 1, s => (body s).bind (Sum.elim (run body n) some)

lemma leaves_of_run {n : ℕ} (h : run body n s = some r) : Leaves body s r := by
  induction n generalizing s with
  | zero => cases h
  | succ n ih =>
      obtain ⟨next, hbody, hnext⟩ := Option.bind_eq_some_iff.mp h
      cases next with
      | inl s' => exact .round hbody (ih hnext)
      | inr r' =>
          obtain rfl := Option.some.inj hnext
          exact .leave hbody

/-- **Total correctness of a loop.**  While the invariant holds, a round keeps it and brings the
variant down, or it leaves with a result that is as it should be. -/
theorem exists_leaves (inv : σ → Prop) (variant : σ → ℕ) (post : ρ → Prop)
    (hround : ∀ s, inv s →
      (∃ s', body s = some (.inl s') ∧ inv s' ∧ variant s' < variant s) ∨
        ∃ r, body s = some (.inr r) ∧ post r)
    (h : inv s) : ∃ r, Leaves body s r ∧ post r := by
  induction hn : variant s using Nat.strongRecOn generalizing s with
  | ind n ih =>
      subst hn
      rcases hround s h with ⟨s', hbody, hinv, hlt⟩ | ⟨r, hbody, hpost⟩
      · obtain ⟨r, hrest, hpost⟩ := ih (variant s') hlt hinv rfl
        exact ⟨r, .round hbody hrest, hpost⟩
      · exact ⟨r, .leave hbody, hpost⟩

end Loops
