import Mathlib.Algebra.BigOperators.Group.Finset.Piecewise
import Mathlib.Algebra.Order.Ring.Int
import Mathlib.Data.Fintype.Card
import Mathlib.Tactic.Ring

/-!
# Stores and one supplier

Several stores `ι` of the same capacity are used up by their owners and filled up by one supplier.
An owner checks that its store suffices before it takes what it needs, later.  The supplier reads
how much is missing, brings it later without looking again, and books it later still.

* `Depot.Step` — the moves.
* `Depot.Bounded` — no store falls below zero or rises over its capacity.  It holds because nobody
  but its owner takes from a store: the amount under way still fits when it arrives.
* `Depot.Balanced` — what the stores hold and have used is what they started with and what was
  brought.
-/

namespace Stock

/-- The stores and the supplier. -/
@[ext]
structure Depot (ι : Type) where
  level : ι → ℤ
  used : ι → ℤ
  /-- what an owner has checked and will take -/
  promised : ι → Option ℤ
  /-- what the supplier will bring, and where -/
  underWay : Option (ι × ℤ)
  /-- what was brought and not booked -/
  unbooked : ℤ
  booked : ℤ

namespace Depot

variable {ι : Type} [DecidableEq ι] {capacity : ℤ}

/-- The moves of owners and supplier, with stores of the given capacity. -/
inductive Step (capacity : ℤ) (s : Depot ι) : Depot ι → Prop where
  | promise (i : ι) (n : ℤ) (nonneg : 0 ≤ n) (enough : n ≤ s.level i) :
      Step capacity s { s with promised := Function.update s.promised i (some n) }
  | take (i : ι) (n : ℤ) (checked : s.promised i = some n) :
      Step capacity s
        { s with
          level := Function.update s.level i (s.level i - n)
          used := Function.update s.used i (s.used i + n)
          promised := Function.update s.promised i none }
  | forget (i : ι) : Step capacity s { s with promised := Function.update s.promised i none }
  | order (i : ι) : Step capacity s { s with underWay := some (i, capacity - s.level i) }
  | skip : Step capacity s { s with underWay := none }
  | bring (i : ι) (n : ℤ) (ordered : s.underWay = some (i, n)) (nonneg : 0 ≤ n)
      (idle : s.unbooked = 0) :
      Step capacity s
        { s with
          level := Function.update s.level i (s.level i + n)
          underWay := none
          unbooked := n }
  | book : Step capacity s { s with booked := s.booked + s.unbooked, unbooked := 0 }

/-- Every store is between empty and full, and stays so whatever is promised or under way. -/
structure Bounded (capacity : ℤ) (s : Depot ι) : Prop where
  level : ∀ i, 0 ≤ s.level i ∧ s.level i ≤ capacity
  promised : ∀ i n, s.promised i = some n → 0 ≤ n ∧ n ≤ s.level i
  underWay : ∀ i n, s.underWay = some (i, n) → s.level i + n ≤ capacity

/-- **Every move keeps the stores within bounds.** -/
theorem Step.bounded {s s' : Depot ι} (h : Step capacity s s') (hb : s.Bounded capacity) :
    s'.Bounded capacity := by
  obtain ⟨hlevel, hprom, hway⟩ := hb
  cases h with
  | promise i n nonneg enough =>
      refine ⟨hlevel, fun j m hj => ?_, hway⟩
      by_cases hji : j = i
      · subst hji
        obtain rfl : n = m := by simpa using hj
        exact ⟨nonneg, enough⟩
      · exact hprom j m (by simpa [hji] using hj)
  | take i n checked =>
      obtain ⟨hn, hn'⟩ := hprom i n checked
      refine ⟨fun j => ?_, fun j m hj => ?_, fun j m hj => ?_⟩ <;> by_cases hji : j = i
      · subst hji
        have := hlevel j
        simp only [Function.update_self]
        omega
      · simpa [hji] using hlevel j
      · subst hji; simp at hj
      · simpa [hji] using hprom j m (by simpa [hji] using hj)
      · subst hji
        have := hway j m hj
        simp only [Function.update_self]
        omega
      · simpa [hji] using hway j m hj
  | forget i =>
      refine ⟨hlevel, fun j m hj => ?_, hway⟩
      by_cases hji : j = i
      · subst hji; simp at hj
      · exact hprom j m (by simpa [hji] using hj)
  | order i =>
      refine ⟨hlevel, hprom, fun j m hj => ?_⟩
      obtain ⟨rfl, rfl⟩ : i = j ∧ capacity - s.level i = m := by simpa using hj
      simp only
      omega
  | skip => exact ⟨hlevel, hprom, fun j m hj => by cases hj⟩
  | bring i n ordered nonneg _ =>
      have hfits := hway i n ordered
      refine ⟨fun j => ?_, fun j m hj => ?_, fun j m hj => by cases hj⟩ <;> by_cases hji : j = i
      · subst hji
        have := hlevel j
        simp only [Function.update_self]
        omega
      · simpa [hji] using hlevel j
      · subst hji
        have := hprom j m hj
        simp only [Function.update_self]
        omega
      · simpa [hji] using hprom j m hj
  | book => exact ⟨hlevel, hprom, hway⟩

section Balance

variable [Fintype ι]

/-- What the stores hold and have used is what they started with and what was brought, booked or
not. -/
def Balanced (capacity : ℤ) (s : Depot ι) : Prop :=
  ∑ i, (s.level i + s.used i) = Fintype.card ι * capacity + s.booked + s.unbooked

/-- A change in one store changes the total by the same amount. -/
lemma sum_change {f g : ι → ℤ} {i : ι} {n : ℤ} (hi : g i = f i + n)
    (hother : ∀ j, j ≠ i → g j = f j) : ∑ j, g j = ∑ j, f j + n := by
  have hg : g = Function.update f i (f i + n) := by
    funext j
    by_cases hj : j = i
    · subst hj; simpa using hi
    · simpa [hj] using hother j hj
  rw [hg, Finset.sum_update_of_mem (Finset.mem_univ i), Finset.sdiff_singleton_eq_erase,
    ← Finset.add_sum_erase _ f (Finset.mem_univ i)]
  ring

/-- **Every move keeps the balance.** -/
theorem Step.balanced {s s' : Depot ι} (h : Step capacity s s') (hb : s.Balanced capacity) :
    s'.Balanced capacity := by
  rw [Balanced] at hb
  cases h with
  | promise i n _ _ => exact hb
  | take i n _ =>
      rw [Balanced, ← hb]
      refine Finset.sum_congr rfl fun j _ => ?_
      by_cases hj : j = i
      · subst hj; simp
      · simp [hj]
  | forget i => exact hb
  | order i => exact hb
  | skip => exact hb
  | bring i n _ _ idle =>
      have hsum := sum_change (f := fun j => s.level j + s.used j)
        (g := fun j => Function.update s.level i (s.level i + n) j + s.used j) (i := i) (n := n)
        (by simp; ring) (fun j hj => by simp [hj])
      simp only [Balanced]
      rw [hsum, hb, idle]
      ring
  | book =>
      simp only [Balanced]
      rw [hb]
      ring

end Balance

end Depot

end Stock
