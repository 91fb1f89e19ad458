import Mathlib.Algebra.BigOperators.Intervals
import Mathlib.Algebra.Order.BigOperators.Group.List
import Mathlib.Order.Interval.Finset.Nat
import Mathlib.Tactic.Ring

/-!
# The books of a queue

A `Ledger` is kept at the entrance and the exit of a line: at every arrival and at every departure
it adds, for the time since the last entry, the number of those who were in line.

* `Ledger.Built` — a ledger with entries in the order of time, where whoever leaves was in front.
* `Ledger.Built.area_eq_waits` — the area it has added up is the time that those who left were in
  line, and those who are in line have been so far.
* `Ledger.Built.area_eq_sum` — and it is the integral of the length of the line over time, up to the
  last entry.
* `Ledger.area_leaveAll` — what is added when everyone leaves, one after the other.
-/

namespace Queueing

/-- The books of a line: the area so far, the time of the last entry, those in line with their
arrival times, and those who left with their arrival and departure times, oldest first. -/
structure Ledger (ι : Type) where
  area : ℕ
  last : ℕ
  present : List (ι × ℕ)
  past : List (ι × ℕ × ℕ)

namespace Ledger

variable {ι : Type}

/-- A book without entries, opened at some time. -/
def opened (t : ℕ) : Ledger ι where
  area := 0
  last := t
  present := []
  past := []

/-- Someone joins the line. -/
def arrive (l : Ledger ι) (a : ι) (now : ℕ) : Ledger ι where
  area := l.area + (now - l.last) * l.present.length
  last := now
  present := l.present ++ [(a, now)]
  past := l.past

/-- The first in line leaves. -/
def depart (l : Ledger ι) (a : ι) (arrival now : ℕ) : Ledger ι where
  area := l.area + (now - l.last) * l.present.length
  last := now
  present := l.present.tail
  past := l.past ++ [(a, arrival, now)]

/-- A ledger whose entries are in the order of time and of the line. -/
inductive Built : Ledger ι → Prop where
  | opened (t : ℕ) : Built (opened t)
  | arrive {l : Ledger ι} (a : ι) {now : ℕ} : Built l → l.last ≤ now → Built (l.arrive a now)
  | depart {l : Ledger ι} {a : ι} {arrival now : ℕ} {rest : List (ι × ℕ)} : Built l →
      l.present = (a, arrival) :: rest → l.last ≤ now → Built (l.depart a arrival now)

/-- Everyone who left, with the arrival time, oldest first. -/
def left (l : Ledger ι) : List (ι × ℕ) := l.past.map fun v => (v.1, v.2.1)

/-- Everyone who ever joined, with the arrival time, oldest first. -/
def entered (l : Ledger ι) : List (ι × ℕ) := l.left ++ l.present

/-- The time of the first entry; for a book without entries, when it was opened. -/
def first (l : Ledger ι) : ℕ := (l.entered.head?.map Prod.snd).getD l.last

/-- How many were in line at time `t`. -/
def lengthAt (l : Ledger ι) (t : ℕ) : ℕ :=
  l.past.countP (fun v => decide (v.2.1 ≤ t) && decide (t < v.2.2)) +
    l.present.countP fun v => decide (v.2 ≤ t)

/-! ## Who joined and who left -/

lemma left_depart (l : Ledger ι) (a : ι) (arrival now : ℕ) :
    (l.depart a arrival now).left = l.left ++ [(a, arrival)] := by
  simp [left, depart]

lemma entered_arrive (l : Ledger ι) (a : ι) (now : ℕ) :
    (l.arrive a now).entered = l.entered ++ [(a, now)] := by
  simp [entered, left, arrive]

lemma entered_depart {l : Ledger ι} {a : ι} {arrival now : ℕ} {rest : List (ι × ℕ)}
    (h : l.present = (a, arrival) :: rest) : (l.depart a arrival now).entered = l.entered := by
  simp [entered, left, depart, h]

/-! ## Times -/

/-- Nobody joined after the last entry. -/
lemma Built.entered_le {l : Ledger ι} (h : l.Built) : ∀ v ∈ l.entered, v.2 ≤ l.last := by
  induction h with
  | opened t => simp [entered, left, Ledger.opened]
  | @arrive l a now _ hle ih =>
      intro v hv
      rw [entered_arrive] at hv
      rcases List.mem_append.mp hv with hv | hv
      · exact (ih v hv).trans hle
      · rw [List.mem_singleton.mp hv]
        exact le_refl now
  | depart _ hfront hle ih =>
      intro v hv
      rw [entered_depart hfront] at hv
      exact (ih v hv).trans hle

/-- Everyone who left did so after joining, and before the last entry. -/
lemma Built.past_le {l : Ledger ι} (h : l.Built) :
    ∀ v ∈ l.past, v.2.1 ≤ v.2.2 ∧ v.2.2 ≤ l.last := by
  induction h with
  | opened t => simp [Ledger.opened]
  | arrive a _ hle ih => exact fun v hv => ⟨(ih v hv).1, (ih v hv).2.trans hle⟩
  | @depart l a arrival now rest hbuilt hfront hle ih =>
      intro v hv
      rcases List.mem_append.mp hv with hv | hv
      · exact ⟨(ih v hv).1, (ih v hv).2.trans hle⟩
      · have hjoined : arrival ≤ l.last :=
          hbuilt.entered_le (a, arrival) (by simp [entered, hfront])
        rw [List.mem_singleton.mp hv]
        exact ⟨hjoined.trans hle, le_refl now⟩

/-- Everyone joined in the order of time. -/
lemma Built.entered_sorted {l : Ledger ι} (h : l.Built) :
    l.entered.Pairwise (fun v w => v.2 ≤ w.2) := by
  induction h with
  | opened t => exact List.Pairwise.nil
  | @arrive l a now hbuilt hle ih =>
      rw [entered_arrive, List.pairwise_append]
      refine ⟨ih, List.pairwise_singleton _ _, fun v hv w hw => ?_⟩
      rw [List.mem_singleton.mp hw]
      exact (hbuilt.entered_le v hv).trans hle
  | depart _ hfront _ ih => rw [entered_depart hfront]; exact ih

/-- Nobody joined before the first entry. -/
lemma Built.first_le {l : Ledger ι} (h : l.Built) : ∀ v ∈ l.entered, l.first ≤ v.2 := by
  intro v hv
  have hsorted := h.entered_sorted
  rw [first]
  cases hl : l.entered with
  | nil => rw [hl] at hv; cases hv
  | cons w rest =>
      rw [hl] at hv hsorted
      rcases List.mem_cons.mp hv with rfl | hv
      · exact le_refl _
      · exact (List.pairwise_cons.mp hsorted).1 v hv

/-! ## The area -/

/-- The time those in line have been there when `now` is the time. -/
lemma sum_waits_later (present : List (ι × ℕ)) {last now : ℕ} (hle : last ≤ now)
    (hpresent : ∀ v ∈ present, v.2 ≤ last) :
    (present.map fun v => now - v.2).sum =
      (now - last) * present.length + (present.map fun v => last - v.2).sum := by
  induction present with
  | nil => simp
  | cons v rest ih =>
      have hv : v.2 ≤ last := hpresent v List.mem_cons_self
      have hrest := ih fun w hw => hpresent w (List.mem_cons_of_mem _ hw)
      have hsplit : now - v.2 = (now - last) + (last - v.2) := by omega
      simp only [List.map_cons, List.sum_cons, List.length_cons, hrest, hsplit]
      ring

/-- **The area is the time spent in line**, by those who left and by those who are there. -/
theorem Built.area_eq_waits {l : Ledger ι} (h : l.Built) :
    l.area = (l.past.map fun v => v.2.2 - v.2.1).sum +
      (l.present.map fun v => l.last - v.2).sum := by
  induction h with
  | opened t => rfl
  | @arrive l a now hbuilt hle ih =>
      have hpresent : ∀ v ∈ l.present, v.2 ≤ l.last := fun v hv =>
        hbuilt.entered_le v (List.mem_append_right _ hv)
      simp only [Ledger.arrive, List.map_append, List.map_cons, List.map_nil, List.sum_append,
        List.sum_cons, List.sum_nil, sum_waits_later l.present hle hpresent, ih]
      omega
  | @depart l a arrival now rest hbuilt hfront hle ih =>
      have hpresent : ∀ v ∈ l.present, v.2 ≤ l.last := fun v hv =>
        hbuilt.entered_le v (List.mem_append_right _ hv)
      have hlater := sum_waits_later l.present hle hpresent
      rw [hfront] at hlater ih
      simp only [Ledger.depart, hfront, List.map_append, List.map_cons, List.map_nil,
        List.sum_append, List.sum_cons, List.sum_nil, List.tail_cons] at hlater ih ⊢
      omega

/-! ## The integral -/

/-- One visit, summed over time. -/
lemma sum_visit {first last arrival departure : ℕ} (hfirst : first ≤ arrival)
    (hlast : departure ≤ last) :
    (∑ t ∈ Finset.Ico first last,
      if (decide (arrival ≤ t) && decide (t < departure)) = true then 1 else 0) =
        departure - arrival := by
  have hfilter : (Finset.Ico first last).filter
      (fun t => (decide (arrival ≤ t) && decide (t < departure)) = true) =
        Finset.Ico arrival departure := by
    ext t
    simp only [Finset.mem_filter, Finset.mem_Ico, Bool.and_eq_true, decide_eq_true_eq]
    omega
  rw [← Finset.card_filter, hfilter, Nat.card_Ico]

/-- The visits of a list of people, summed over time, one after the other. -/
lemma sum_countP {α : Type} (s : Finset ℕ) (p : ℕ → α → Bool) (l : List α) :
    (∑ t ∈ s, l.countP (p t)) = (l.map fun v => ∑ t ∈ s, if p t v = true then 1 else 0).sum := by
  induction l with
  | nil => simp
  | cons v rest ih =>
      simp only [List.countP_cons, Finset.sum_add_distrib, ih, List.map_cons, List.sum_cons]
      omega

/-- **The area is the integral of the length of the line**, from the first entry to the last. -/
theorem Built.area_eq_sum {l : Ledger ι} (h : l.Built) :
    l.area = ∑ t ∈ Finset.Ico l.first l.last, l.lengthAt t := by
  have hpast : ∀ v ∈ l.past, (∑ t ∈ Finset.Ico l.first l.last,
      if (decide (v.2.1 ≤ t) && decide (t < v.2.2)) = true then 1 else 0) = v.2.2 - v.2.1 := by
    intro v hv
    refine sum_visit (h.first_le (v.1, v.2.1) ?_) (h.past_le v hv).2
    exact List.mem_append_left _ (List.mem_map.mpr ⟨v, hv, rfl⟩)
  have hpresent : ∀ v ∈ l.present, (∑ t ∈ Finset.Ico l.first l.last,
      if decide (v.2 ≤ t) = true then 1 else 0) = l.last - v.2 := by
    intro v hv
    rw [← sum_visit (h.first_le v (List.mem_append_right _ hv)) (le_refl l.last)]
    refine Finset.sum_congr rfl fun t ht => ?_
    have htl : t < l.last := (Finset.mem_Ico.mp ht).2
    simp [htl]
  rw [h.area_eq_waits]
  simp only [lengthAt, Finset.sum_add_distrib]
  rw [sum_countP _ (fun t (v : ι × ℕ × ℕ) => decide (v.2.1 ≤ t) && decide (t < v.2.2)),
    sum_countP _ (fun t (v : ι × ℕ) => decide (v.2 ≤ t)), List.map_congr_left hpast,
    List.map_congr_left hpresent]

/-! ## Everyone leaves -/

/-- Those in line leave one after the other, at the given times. -/
def leaveAll : Ledger ι → List ℕ → Ledger ι
  | l, [] => l
  | l, now :: times =>
      match l.present with
      | [] => l
      | (a, arrival) :: _ => leaveAll (l.depart a arrival now) times

lemma leaveAll_cons {l : Ledger ι} {a : ι} {arrival now : ℕ} {rest : List (ι × ℕ)}
    (h : l.present = (a, arrival) :: rest) (times : List ℕ) :
    l.leaveAll (now :: times) = (l.depart a arrival now).leaveAll times := by
  rw [leaveAll, h]

lemma Built.leaveAll {l : Ledger ι} (h : l.Built) {times : List ℕ}
    (hlen : times.length = l.present.length) (hordered : (l.last :: times).Pairwise (· ≤ ·)) :
    (l.leaveAll times).Built := by
  induction times generalizing l with
  | nil => exact h
  | cons now times ih =>
      obtain ⟨⟨a, arrival⟩, rest, hfront⟩ := List.exists_cons_of_length_eq_add_one hlen.symm
      obtain ⟨hbefore, hrest⟩ := List.pairwise_cons.mp hordered
      rw [leaveAll_cons hfront]
      refine ih (.depart h hfront (hbefore now List.mem_cons_self)) ?_ hrest
      rw [hfront] at hlen
      simpa [Ledger.depart, hfront] using hlen

/-- **The area grows while people leave**, unless nobody was in line or all left at the time of the
last entry. -/
theorem area_leaveAll {l : Ledger ι} {times : List ℕ} (hlen : times.length = l.present.length)
    (hordered : (l.last :: times).Pairwise (· ≤ ·)) :
    l.area ≤ (l.leaveAll times).area ∧
      ((l.leaveAll times).area = l.area ↔ ∀ t ∈ times, t = l.last) := by
  induction times generalizing l with
  | nil => exact ⟨le_refl _, by simp [leaveAll]⟩
  | cons now times ih =>
      obtain ⟨⟨a, arrival⟩, rest, hfront⟩ := List.exists_cons_of_length_eq_add_one hlen.symm
      obtain ⟨hbefore, hrest⟩ := List.pairwise_cons.mp hordered
      have hle : l.last ≤ now := hbefore now List.mem_cons_self
      have hrestlen : times.length = (l.depart a arrival now).present.length := by
        rw [hfront] at hlen
        simpa [depart, hfront] using hlen
      obtain ⟨hgrows, hsame⟩ := ih hrestlen hrest
      have harea : (l.depart a arrival now).area = l.area + (now - l.last) * l.present.length := rfl
      rw [leaveAll_cons hfront]
      refine ⟨by omega, ?_⟩
      constructor
      · intro heq
        have hzero : (now - l.last) * l.present.length = 0 := by omega
        have hnow : now = l.last := by
          rcases Nat.mul_eq_zero.mp hzero with hnow | hnone
          · omega
          · rw [hfront] at hnone
            cases hnone
        intro t ht
        rcases List.mem_cons.mp ht with rfl | ht
        · exact hnow
        · rw [← hnow]
          exact hsame.mp (by omega) t ht
      · intro hall
        have hnow : now = l.last := hall now List.mem_cons_self
        have hrestsame := hsame.mpr fun t ht => (hall t (List.mem_cons_of_mem _ ht)).trans hnow.symm
        rw [hrestsame, harea, hnow, Nat.sub_self, Nat.zero_mul, Nat.add_zero]

end Ledger

end Queueing
