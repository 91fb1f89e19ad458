import Mathlib.Data.List.Chain
import Mathlib.Data.List.Nodup

/-!
# Doubly linked spines

A node has a pointer to the next one and a pointer to the previous one; either may be missing.  A
*spine* is a list of different nodes in which neighbours point at each other.

* `Spine.forward`, `Spine.backward` — the two chains of a spine, mirror images of each other.
* `Spine.congr` — pointers that no two neighbours use do not matter.
* `Visits.of_isChain` — a walk along one of the chains.
* `Spine.insert` — a node put between two neighbours.
* `Spine.unlink` — a node taken out from between its neighbours.
-/

namespace Linked

variable {P : Type*} {next prev next' prev' : P → Option P} {a b c : P} {l r ps : List P}

/-- `a` and `b` are neighbours. -/
def Neighbours (next prev : P → Option P) (a b : P) : Prop :=
  next a = some b ∧ prev b = some a

/-- The nodes `ps`, all different, linked in both directions. -/
structure Spine (next prev : P → Option P) (ps : List P) : Prop where
  nodup : ps.Nodup
  linked : ps.IsChain (Neighbours next prev)

/-- The chain of the pointers to the next node. -/
lemma Spine.forward (h : Spine next prev ps) : ps.IsChain fun p q => next p = some q :=
  h.linked.imp fun _ _ hpq => hpq.1

/-- **The pointers to the previous node** give the same nodes from the end. -/
theorem Spine.backward (h : Spine next prev ps) :
    ps.reverse.IsChain fun p q => prev p = some q :=
  List.isChain_reverse.mpr (h.linked.imp fun _ _ hpq => hpq.2)

/-- Two nodes that stand next to each other. -/
lemma Spine.neighbours (h : Spine next prev (l ++ a :: b :: r)) : Neighbours next prev a b :=
  (List.isChain_append_cons_cons.mp h.linked).2.1

/-! ## Pointers that do not matter -/

/-- A chain uses the pointers to the next node of all but its last node, and the pointers to the
previous node of all but its first. -/
lemma isChain_congr (h : ps.IsChain (Neighbours next prev))
    (hnext : ∀ p ∈ ps.dropLast, next' p = next p) (hprev : ∀ p ∈ ps.tail, prev' p = prev p) :
    ps.IsChain (Neighbours next' prev') := by
  rw [List.isChain_iff_forall_rel_of_append_cons_cons] at h ⊢
  rintro p q l r rfl
  have hp : p ∈ (l ++ p :: q :: r).dropLast := by simp
  have hq : q ∈ (l ++ p :: q :: r).tail := by cases l <;> simp
  obtain ⟨hpq, hqp⟩ := h rfl
  exact ⟨(hnext p hp).trans hpq, (hprev q hq).trans hqp⟩

/-- **A spine** depends on the pointers of its own nodes only. -/
theorem Spine.congr (h : Spine next prev ps) (hnext : ∀ p ∈ ps.dropLast, next' p = next p)
    (hprev : ∀ p ∈ ps.tail, prev' p = prev p) : Spine next' prev' ps :=
  ⟨h.nodup, isChain_congr h.linked hnext hprev⟩

/-! ## Walks -/

/-- A loop that starts at `p`, asks `step` for the node after the current one and ends at `stop`
comes past the nodes `ps`. -/
inductive Visits (step : P → Option P) (stop : P) : P → List P → Prop
  | done : Visits step stop stop []
  | node {p q ps} (hne : p ≠ stop) (hstep : step p = some q) (hrest : Visits step stop q ps) :
      Visits step stop p (p :: ps)

/-- **A walk along a chain** whose step follows the chain up to its last node `b` and stops
there. -/
theorem Visits.of_isChain {step : P → Option P} {stop : P} {pointer : P → Option P}
    (h : (ps ++ [b]).IsChain fun p q => pointer p = some q) (hstop : stop ∉ ps)
    (hlast : ∀ p ∈ ps, pointer p = some b → step p = some stop)
    (hinner : ∀ p ∈ ps, ∀ q ∈ ps, pointer p = some q → step p = some q) :
    Visits step stop (ps.head?.getD stop) ps := by
  induction ps with
  | nil => exact .done
  | cons p ps ih =>
      rw [List.mem_cons, not_or] at hstop
      have hrest := ih h.tail hstop.2 (fun q hq => hlast q (List.mem_cons_of_mem _ hq))
        (fun q hq s hs => hinner q (List.mem_cons_of_mem _ hq) s (List.mem_cons_of_mem _ hs))
      refine .node (Ne.symm hstop.1) ?_ hrest
      cases ps with
      | nil => exact hlast p List.mem_cons_self (by simpa using h)
      | cons q ps =>
          have hpq : pointer p = some q := (List.isChain_cons_cons.mp h).1
          exact hinner p List.mem_cons_self q (List.mem_cons_of_mem _ List.mem_cons_self) hpq

/-! ## Insertion and removal -/

/-- The two halves of a spine keep their links when only the pointers between them change. -/
lemma isChain_halves (hleft : (l ++ [a]).IsChain (Neighbours next prev))
    (hright : (b :: r).IsChain (Neighbours next prev))
    (hnext : ∀ p ∈ l ++ b :: r, next' p = next p) (hprev : ∀ p ∈ l ++ a :: r, prev' p = prev p) :
    (l ++ [a]).IsChain (Neighbours next' prev') ∧ (b :: r).IsChain (Neighbours next' prev') := by
  constructor
  · refine isChain_congr hleft (fun p hp => hnext p ?_) (fun p hp => hprev p ?_)
    · rw [List.dropLast_concat] at hp
      exact List.mem_append_left _ hp
    · have := List.mem_of_mem_tail hp
      grind
  · refine isChain_congr hright (fun p hp => hnext p ?_) (fun p hp => hprev p ?_)
    · exact List.mem_append_right _ (List.dropLast_subset _ hp)
    · rw [List.tail_cons] at hp
      exact List.mem_append_right _ (List.mem_cons_of_mem _ hp)

variable [DecidableEq P]

/-- **A node is put between two neighbours**: four pointers change. -/
theorem Spine.insert (h : Spine next prev (l ++ a :: b :: r)) (hnew : c ∉ l ++ a :: b :: r) :
    Spine (Function.update (Function.update next c (some b)) a (some c))
      (Function.update (Function.update prev c (some a)) b (some c)) (l ++ a :: c :: b :: r) := by
  have hnodup : (c :: (l ++ a :: b :: r)).Nodup := List.nodup_cons.mpr ⟨hnew, h.nodup⟩
  have hperm : (l ++ a :: c :: b :: r).Perm (c :: (l ++ a :: b :: r)) := by
    simpa using @List.perm_middle _ c (l ++ [a]) (b :: r)
  have hnext : ∀ p ∈ l ++ b :: r,
      Function.update (Function.update next c (some b)) a (some c) p = next p := by grind
  have hprev : ∀ p ∈ l ++ a :: r,
      Function.update (Function.update prev c (some a)) b (some c) p = prev p := by grind
  obtain ⟨hleft, -, hright⟩ := List.isChain_append_cons_cons.mp h.linked
  obtain ⟨hleft, hright⟩ := isChain_halves hleft hright hnext hprev
  refine ⟨hperm.nodup_iff.mpr hnodup, List.isChain_append_cons_cons.mpr ⟨hleft, ?_,
    List.isChain_cons_cons.mpr ⟨?_, hright⟩⟩⟩
  · constructor <;> grind
  · constructor <;> grind

/-- **A node is taken out from between its neighbours**: two pointers change. -/
theorem Spine.unlink (h : Spine next prev (l ++ a :: c :: b :: r)) :
    Spine (Function.update next a (some b)) (Function.update prev b (some a))
      (l ++ a :: b :: r) := by
  have hnodup := h.nodup
  have hsub : (l ++ a :: b :: r).Sublist (l ++ a :: c :: b :: r) :=
    ((List.sublist_cons_self c _).cons_cons a).append_left l
  have hnext : ∀ p ∈ l ++ b :: r, Function.update next a (some b) p = next p := by grind
  have hprev : ∀ p ∈ l ++ a :: r, Function.update prev b (some a) p = prev p := by grind
  obtain ⟨hleft, -, hrest⟩ := List.isChain_append_cons_cons.mp h.linked
  obtain ⟨-, hright⟩ := List.isChain_cons_cons.mp hrest
  obtain ⟨hleft, hright⟩ := isChain_halves hleft hright hnext hprev
  refine ⟨hnodup.sublist hsub, List.isChain_append_cons_cons.mpr ⟨hleft, ?_, hright⟩⟩
  constructor <;> grind

end Linked
