import Mathlib.Algebra.BigOperators.Group.Finset.Piecewise
import Mathlib.Algebra.Order.BigOperators.Group.Finset
import Mathlib.Algebra.Order.Group.Multiset
import Mathlib.Data.Fintype.Basic
import Mathlib.Tactic.Abel

/-!
# A service station

Customers `α` arrive at a station with one waiting line and several servers `ι`.  An arrival is
counted before the customer is turned away or joins the line; a server takes the customer at the
front of the line and lets it go when it is served; the line may be cleared.

* `Station.Step` — the moves of a customer.
* `Station.Conserved` — everyone who arrived is in exactly one place, kept by every step.
* `Station.Accounted` — nobody is in two places, kept also when a server drops out.
* `Station.Apart` — so those who wait and those who are served are all different.
* `Station.Ordered` — customers that arrive in increasing order are taken in increasing order, kept
  by every step and also when a server drops out with its customer (`Station.lose`).
-/

set_option linter.unusedSectionVars false

namespace Queueing

/-- Where the customers of a station are.  `taken` lists those who ever left the front of the line,
in the order they did. -/
@[ext]
structure Station (ι α : Type) where
  pending : Option α
  line : List α
  inService : ι → Option α
  arrived : List α
  taken : List α
  served : List α
  dropped : List α
  removed : List α

namespace Station

variable {ι α : Type} [DecidableEq ι]

/-- A server drops out with the customer it serves. -/
def lose (s : Station ι α) (i : ι) : Station ι α :=
  { s with inService := Function.update s.inService i none }

/-- The moves of one customer. -/
inductive Step [LT α] (s : Station ι α) : Station ι α → Prop where
  | arrive (a : α) (idle : s.pending = none) (fresh : ∀ b ∈ s.arrived, b < a) :
      Step s { s with pending := some a, arrived := a :: s.arrived }
  | drop (a : α) (here : s.pending = some a) :
      Step s { s with pending := none, dropped := a :: s.dropped }
  | join (a : α) (here : s.pending = some a) :
      Step s { s with pending := none, line := s.line ++ [a] }
  | take (i : ι) (a : α) (rest : List α) (front : s.line = a :: rest)
      (idle : s.inService i = none) :
      Step s
        { s with
          line := rest
          taken := s.taken ++ [a]
          inService := Function.update s.inService i (some a) }
  | finish (i : ι) (a : α) (busy : s.inService i = some a) :
      Step s
        { s with
          inService := Function.update s.inService i none
          served := a :: s.served }
  | remove (a : α) (rest : List α) (front : s.line = a :: rest) :
      Step s { s with line := rest, taken := s.taken ++ [a], removed := a :: s.removed }

/-! ## Conservation -/

section Conservation

variable [Fintype ι]

/-- Everyone the servers are busy with. -/
def busy (s : Station ι α) : Multiset α := ∑ i, ((s.inService i).toList : Multiset α)

/-- Everyone, counted place by place. -/
def census (s : Station ι α) : Multiset α :=
  (s.pending.toList : Multiset α) + s.line + s.busy + s.served + s.dropped + s.removed

/-- Everyone who arrived is in exactly one place. -/
structure Conserved [LT α] (s : Station ι α) : Prop where
  census : s.census = s.arrived
  fresh : s.arrived.Pairwise (fun a b => b < a)

/-- Giving an idle server a customer adds the customer to the busy ones. -/
lemma sum_update_of_idle {f : ι → Option α} {i : ι} (h : f i = none) (a : α) :
    (∑ j, ((Function.update f i (some a) j).toList : Multiset α)) =
      a ::ₘ ∑ j, ((f j).toList : Multiset α) := by
  have hfun : (fun j => ((Function.update f i (some a) j).toList : Multiset α)) =
      Function.update (fun j => ((f j).toList : Multiset α)) i {a} := by
    funext j
    by_cases hj : j = i
    · subst hj; simp
    · simp [hj]
  rw [hfun, Finset.sum_update_of_mem (Finset.mem_univ i),
    ← Finset.add_sum_erase _ (fun j => ((f j).toList : Multiset α)) (Finset.mem_univ i), h,
    Finset.sdiff_singleton_eq_erase]
  simp [Multiset.singleton_add]

/-- Taking a server's customer away removes it from the busy ones. -/
lemma sum_update_none {f : ι → Option α} {i : ι} {a : α} (h : f i = some a) :
    (∑ j, ((f j).toList : Multiset α)) =
      a ::ₘ ∑ j, ((Function.update f i none j).toList : Multiset α) := by
  have hidle : Function.update f i none i = none := by simp
  rw [← sum_update_of_idle hidle a, Function.update_idem, ← h, Function.update_eq_self]

/-- A move takes someone from one place to another, or lets someone in. -/
lemma Step.census [LT α] {s s' : Station ι α} (h : Step s s') :
    s'.census + s.arrived = s.census + s'.arrived := by
  cases h with
  | arrive a idle fresh =>
      simp only [Station.census, busy, idle, ← Multiset.cons_coe, Option.toList_none,
        Option.toList_some, Multiset.coe_nil, ← Multiset.singleton_add]
      abel
  | drop a here =>
      simp only [Station.census, busy, here, ← Multiset.cons_coe, Option.toList_none,
        Option.toList_some, Multiset.coe_nil, ← Multiset.singleton_add]
      abel
  | join a here =>
      simp only [Station.census, busy, here, ← Multiset.coe_add, Option.toList_none,
        Option.toList_some, Multiset.coe_nil]
      abel
  | take i a rest front idle =>
      simp only [Station.census, busy, front, sum_update_of_idle idle, ← Multiset.cons_coe,
        ← Multiset.singleton_add]
      abel
  | finish i a hbusy =>
      simp only [Station.census, busy, sum_update_none hbusy, ← Multiset.cons_coe,
        ← Multiset.singleton_add]
      abel
  | remove a rest front =>
      simp only [Station.census, busy, front, ← Multiset.cons_coe, ← Multiset.singleton_add]
      abel

lemma Step.fresh [LT α] {s s' : Station ι α} (h : Step s s')
    (hf : s.arrived.Pairwise (fun a b => b < a)) : s'.arrived.Pairwise (fun a b => b < a) := by
  cases h with
  | arrive a idle fresh => exact List.pairwise_cons.mpr ⟨fresh, hf⟩
  | _ => exact hf

/-- **Every move keeps everyone in one place.** -/
theorem Step.conserved [LT α] {s s' : Station ι α} (h : Step s s') (hc : s.Conserved) :
    s'.Conserved := by
  refine ⟨?_, h.fresh hc.fresh⟩
  have hcensus := h.census
  rw [hc.census, add_comm] at hcensus
  exact add_left_cancel hcensus

/-- Nobody is in two places. -/
theorem Conserved.nodup [Preorder α] {s : Station ι α} (h : s.Conserved) : s.census.Nodup := by
  rw [h.census, Multiset.coe_nodup]
  exact h.fresh.imp fun hlt => hlt.ne'

/-- The number of arrivals is the number of customers in each place. -/
theorem Conserved.card [LT α] {s : Station ι α} (h : s.Conserved) :
    s.arrived.length = s.served.length + s.dropped.length + s.removed.length + s.line.length +
      Multiset.card s.busy + s.pending.toList.length := by
  have hcard := congrArg Multiset.card h.census
  simp only [Station.census, Multiset.card_add, Multiset.coe_card] at hcard
  omega

/-- Everyone arrived, and is in one place or lost. -/
structure Accounted [LT α] (s : Station ι α) : Prop where
  census : s.census ≤ s.arrived
  fresh : s.arrived.Pairwise (fun a b => b < a)

theorem Step.accounted [LT α] {s s' : Station ι α} (h : Step s s') (hc : s.Accounted) :
    s'.Accounted := by
  refine ⟨?_, h.fresh hc.fresh⟩
  have hcensus : s'.census + s.arrived ≤ s'.arrived + s.arrived := by
    rw [h.census, add_comm]
    exact add_le_add_right hc.census _
  exact le_of_add_le_add_right hcensus

lemma Accounted.lose [LT α] {s : Station ι α} (h : s.Accounted) (i : ι) : (s.lose i).Accounted := by
  refine ⟨le_trans ?_ h.census, h.fresh⟩
  have hbusy : (s.lose i).busy ≤ s.busy := Finset.sum_le_sum fun j _ => by
    by_cases hj : j = i
    · subst hj; simp [Station.lose]
    · simp [Station.lose, hj]
  exact add_le_add_left (add_le_add_left (add_le_add_left (add_le_add_right hbusy _) _) _) _

/-- Nobody is served twice. -/
theorem Accounted.nodup_served [Preorder α] {s : Station ι α} (h : s.Accounted) :
    s.served.Nodup := by
  have harrived : (s.arrived : Multiset α).Nodup :=
    Multiset.coe_nodup.mpr (h.fresh.imp fun hlt => hlt.ne')
  have hserved : (s.served : Multiset α) ≤ s.census := by
    rw [Station.census, add_assoc, add_assoc]
    exact (Multiset.le_add_right _ _).trans (Multiset.le_add_left _ _)
  exact Multiset.coe_nodup.mp (Multiset.nodup_of_le (hserved.trans h.census) harrived)

/-- Nobody is in two of the places up to the servers. -/
structure Apart (s : Station ι α) : Prop where
  line : s.line.Nodup
  pending_line : ∀ a, s.pending = some a → a ∉ s.line
  pending_service : ∀ a i, s.pending = some a → s.inService i ≠ some a
  line_service : ∀ a i, a ∈ s.line → s.inService i ≠ some a
  service : ∀ a i j, s.inService i = some a → s.inService j = some a → i = j

omit [DecidableEq ι] in
lemma mem_busy {s : Station ι α} {i : ι} {a : α} (h : s.inService i = some a) : a ∈ s.busy :=
  Multiset.mem_sum.mpr ⟨i, Finset.mem_univ i, by simp [h]⟩

/-- **Who is accounted for is in one place.** -/
theorem Accounted.apart [Preorder α] {s : Station ι α} (h : s.Accounted) : s.Apart := by
  have harrived : (s.arrived : Multiset α).Nodup :=
    Multiset.coe_nodup.mpr (h.fresh.imp fun hlt => hlt.ne')
  have hcensus : s.census.Nodup := Multiset.nodup_of_le h.census harrived
  have hplaces := (Multiset.nodup_add.mp (Multiset.nodup_add.mp (Multiset.nodup_add.mp
    hcensus).1).1).1
  obtain ⟨hfront, hbusy, hfront_busy⟩ := Multiset.nodup_add.mp hplaces
  obtain ⟨_, hline, hpending_line⟩ := Multiset.nodup_add.mp hfront
  have hpending : ∀ {a}, s.pending = some a → a ∈ (s.pending.toList : Multiset α) :=
    fun ha => by simp [ha]
  refine ⟨Multiset.coe_nodup.mp hline, fun a ha => ?_, fun a i ha hi => ?_, fun a i ha hi => ?_,
    fun a i j hi hj => ?_⟩
  · exact Multiset.disjoint_left.mp hpending_line (hpending ha)
  · exact Multiset.disjoint_left.mp hfront_busy
      (Multiset.mem_add.mpr (.inl (hpending ha))) (mem_busy hi)
  · exact Multiset.disjoint_left.mp hfront_busy
      (Multiset.mem_add.mpr (.inr (Multiset.mem_coe.mpr ha))) (mem_busy hi)
  · by_contra hij
    rw [busy, ← Finset.add_sum_erase _ _ (Finset.mem_univ i)] at hbusy
    have hhere : a ∈ ((s.inService i).toList : Multiset α) := by simp [hi]
    refine Multiset.disjoint_left.mp (Multiset.nodup_add.mp hbusy).2.2 hhere ?_
    exact Multiset.mem_sum.mpr
      ⟨j, Finset.mem_erase.mpr ⟨Ne.symm hij, Finset.mem_univ j⟩, by simp [hj]⟩

end Conservation

/-! ## Order -/

/-- Those who were taken, wait and are about to join, in this order, are in the order they arrived
in. -/
structure Ordered [LT α] (s : Station ι α) : Prop where
  sorted : (s.taken ++ s.line ++ s.pending.toList).Pairwise (· < ·)
  arrived : ∀ a ∈ s.taken ++ s.line ++ s.pending.toList, a ∈ s.arrived

/-- **Every move keeps the order.** -/
theorem Step.ordered [Preorder α] {s s' : Station ι α} (h : Step s s') (ho : s.Ordered) :
    s'.Ordered := by
  obtain ⟨hsort, harr⟩ := ho
  cases h with
  | arrive a idle fresh =>
      simp only [idle, Option.toList_none, List.append_nil] at hsort harr
      refine ⟨?_, fun b hb => ?_⟩
      · simp only [Option.toList_some]
        rw [List.pairwise_append]
        refine ⟨hsort, List.pairwise_singleton _ _, fun b hb c hc => ?_⟩
        rw [List.mem_singleton.mp hc]
        exact fresh b (harr b hb)
      · simp only [Option.toList_some, List.mem_append, List.mem_singleton] at hb
        rcases hb with hb | rfl
        · exact List.mem_cons_of_mem _ (harr b (List.mem_append.mpr hb))
        · exact List.mem_cons_self
  | drop a here =>
      have hsub : (s.taken ++ s.line ++ ([] : List α)).Sublist
          (s.taken ++ s.line ++ s.pending.toList) := (List.nil_sublist _).append_left _
      exact ⟨hsort.sublist hsub, fun b hb => harr b (hsub.subset hb)⟩
  | join a here =>
      have heq : s.taken ++ (s.line ++ [a]) ++ ([] : List α) =
          s.taken ++ s.line ++ s.pending.toList := by simp [here]
      exact ⟨heq ▸ hsort, fun b hb => harr b (heq ▸ hb)⟩
  | take i a rest front idle =>
      have heq : s.taken ++ [a] ++ rest ++ s.pending.toList =
          s.taken ++ s.line ++ s.pending.toList := by simp [front]
      exact ⟨heq ▸ hsort, fun b hb => harr b (heq ▸ hb)⟩
  | finish i a _ => exact ⟨hsort, harr⟩
  | remove a rest front =>
      have heq : s.taken ++ [a] ++ rest ++ s.pending.toList =
          s.taken ++ s.line ++ s.pending.toList := by simp [front]
      exact ⟨heq ▸ hsort, fun b hb => harr b (heq ▸ hb)⟩

lemma Ordered.lose [LT α] {s : Station ι α} (h : s.Ordered) (i : ι) : (s.lose i).Ordered :=
  ⟨h.sorted, h.arrived⟩

/-- The taken are in increasing order, so are those in line, and the taken come first. -/
lemma Ordered.parts [LT α] {s : Station ι α} (h : s.Ordered) :
    s.taken.Pairwise (· < ·) ∧ s.line.Pairwise (· < ·) ∧ ∀ a ∈ s.taken, ∀ b ∈ s.line, a < b :=
  List.pairwise_append.mp (List.pairwise_append.mp h.sorted).1

end Station

end Queueing
