import Mathlib.Data.List.Basic

/-!
# Itineraries

A log reports, entry by entry, what happened to many travellers.  The itinerary of one traveller is
what the log says about it, in the order in which it happened.

* `itinerary` — read off a log that has its newest entry first.
* `Reported` — what a few new entries of the log say, all about one traveller or about none.
* `Reported.itinerary_eq` — they lengthen the itinerary of that traveller and of nobody else.
-/

namespace Histories

variable {ε κ α : Type} [DecidableEq κ]

/-- What an entry says about traveller `k`, where `leg` says whom it is about. -/
def legOf (leg : ε → Option (κ × α)) (k : κ) (e : ε) : Option α :=
  match leg e with
  | some (j, l) => if j = k then some l else none
  | none => none

/-- The itinerary of `k` in a log, newest entry first; its own first leg comes first. -/
def itinerary (leg : ε → Option (κ × α)) (k : κ) : List ε → List α
  | [] => []
  | e :: log => itinerary leg k log ++ (legOf leg k e).toList

variable {leg : ε → Option (κ × α)} {log : List ε} {j k : κ} {l : α}

/-- Later entries lengthen an itinerary. -/
lemma itinerary_append (es : List ε) :
    itinerary leg k (es ++ log) = itinerary leg k log ++ itinerary leg k es := by
  induction es with
  | nil => simp [itinerary]
  | cons e es ih => rw [List.cons_append, itinerary, ih, itinerary, List.append_assoc]

/-- A leg is on an itinerary if and only if an entry of the log reports it. -/
lemma mem_itinerary : l ∈ itinerary leg k log ↔ ∃ e ∈ log, leg e = some (k, l) := by
  induction log with
  | nil => simp [itinerary]
  | cons e log ih =>
      have hhead : l ∈ (legOf leg k e).toList ↔ leg e = some (k, l) := by
        rw [legOf]
        cases he : leg e with
        | none => simp
        | some jl =>
            obtain ⟨j, l'⟩ := jl
            by_cases hj : j = k
            · subst hj
              simp [eq_comm]
            · simp [hj]
      simp only [itinerary, List.mem_append, ih, hhead, List.mem_cons, exists_eq_or_imp]
      exact or_comm

/-- The entries that were added to a log report the legs `ls` of `k`, and nothing else. -/
def Reported (leg : ε → Option (κ × α)) (k : κ) (log log' : List ε) (ls : List α) : Prop :=
  ∃ es, log' = es ++ log ∧ ∀ j, itinerary leg j es = if j = k then ls else []

variable {log' : List ε} {ls : List α}

lemma Reported.of_silent {es : List ε} (h : ∀ e ∈ es, leg e = none) :
    Reported leg k log (es ++ log) [] := by
  refine ⟨es, rfl, fun j => ?_⟩
  rw [ite_self]
  refine List.eq_nil_iff_forall_not_mem.mpr fun l hl => ?_
  obtain ⟨e, he, hleg⟩ := mem_itinerary.mp hl
  rw [h e he] at hleg
  cases hleg

/-- **The itinerary of `k` grows by the legs reported.** -/
theorem Reported.itinerary_eq (h : Reported leg k log log' ls) :
    itinerary leg k log' = itinerary leg k log ++ ls := by
  obtain ⟨es, rfl, hes⟩ := h
  rw [itinerary_append, hes, if_pos rfl]

/-- **Nobody else's does.** -/
theorem Reported.itinerary_other (h : Reported leg k log log' ls) (hne : j ≠ k) :
    itinerary leg j log' = itinerary leg j log := by
  obtain ⟨es, rfl, hes⟩ := h
  rw [itinerary_append, hes, if_neg hne, List.append_nil]

/-- Where no leg is reported, nobody's does. -/
theorem Reported.itinerary_silent (h : Reported leg k log log' []) (j : κ) :
    itinerary leg j log' = itinerary leg j log := by
  obtain ⟨es, rfl, hes⟩ := h
  rw [itinerary_append, hes, ite_self, List.append_nil]

end Histories
