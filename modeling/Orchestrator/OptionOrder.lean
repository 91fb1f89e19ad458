import Orchestrator.AcceptedParameters
import Mathlib.Data.List.Nodup

/-!
# The order of the options

The bounds on the sheets are swapped after every option if they are not in order.  From bounds with
the gap between their ranges in between this never happens, and the options store into different
fields.

* `CliOption.put` — an option, without the swap.
* `foldl_apply_eq` — accepted options never swap the bounds.
* `option_order_irrelevant` — any two orders of the same options come to the same end.
-/

namespace Orchestrator

section

variable (atoi : String → Int) (atof : String → Double)

/-- What an option does to the parameters and to `g_debug`, without the swap. -/
def CliOption.put : CliOption → SimulationParameters × Bool → SimulationParameters × Bool
  | value f v, (p, b) => (f.store atoi atof v p, b)
  | debug, (p, _) => (p, true)
  | help, c => c

end

variable {atoi : String → Int} {atof : String → Double} {p : SimulationParameters}

/-! ## The bounds -/

/-- The bounds on the sheets are on either side of the gap between their ranges. -/
def BoundsApart (p : SimulationParameters) : Prop :=
  p.papersRequiredLowerBound ≤ 10 ∧ 15 ≤ p.papersRequiredUpperBound

instance (p : SimulationParameters) : Decidable (BoundsApart p) :=
  inferInstanceAs (Decidable (_ ∧ _))

lemma BoundsApart.swapBounds_eq (h : BoundsApart p) : swapBounds p = p := by
  obtain ⟨hlower, hupper⟩ := h
  rw [swapBounds, min_eq_right (by omega), max_eq_right (by omega)]

/-- An option that passes its check keeps the bounds apart. -/
lemma BoundsApart.store (h : BoundsApart p) {f : ValueFlag} {v : String}
    (hcheck : f.check atoi atof v = .ok ()) : BoundsApart (f.store atoi atof v p) := by
  cases f with
  | papersLower => exact ⟨(mem_of_isInRangeInt hcheck).2, h.2⟩
  | papersUpper => exact ⟨h.1, (mem_of_isInRangeInt hcheck).1⟩
  | _ => exact h

/-- **Accepted options never swap the bounds.** -/
lemma foldl_apply_eq {opts : List CliOption} (hall : ∀ o ∈ opts, o.complaint atoi atof = none)
    (hp : BoundsApart p) (b : Bool) :
    opts.foldl (fun c o => o.apply atoi atof c) (p, b) =
      opts.foldl (fun c o => o.put atoi atof c) (p, b) := by
  induction opts generalizing p b with
  | nil => rfl
  | cons o opts ih =>
      have hrest : ∀ o ∈ opts, o.complaint atoi atof = none :=
        fun o ho => hall o (List.mem_cons_of_mem _ ho)
      rw [List.foldl_cons, List.foldl_cons]
      cases o with
      | value f v =>
          have hstore : BoundsApart (f.store atoi atof v p) :=
            hp.store (CliOption.complaint_value (hall _ List.mem_cons_self))
          rw [CliOption.apply, hstore.swapBounds_eq]
          exact ih hrest hstore b
      | debug =>
          rw [CliOption.apply, hp.swapBounds_eq]
          exact ih hrest hp true
      | help => exact ih hrest hp b

/-! ## Two orders -/

/-- Two options with a value store into different fields. -/
lemma ValueFlag.store_comm {f g : ValueFlag} (hne : f ≠ g) (v w : String)
    (p : SimulationParameters) :
    g.store atoi atof w (f.store atoi atof v p) = f.store atoi atof v (g.store atoi atof w p) := by
  cases f <;> cases g <;> first | rfl | exact absurd rfl hne

/-- Two different options do the same in either order. -/
lemma CliOption.put_comm {o o' : CliOption} (hne : o.name ≠ o'.name)
    (c : SimulationParameters × Bool) :
    o'.put atoi atof (o.put atoi atof c) = o.put atoi atof (o'.put atoi atof c) := by
  cases o with
  | value f v =>
      cases o' with
      | value g w =>
          have hfg : f ≠ g := by
            rintro rfl
            exact hne rfl
          simp only [put, ValueFlag.store_comm hfg]
      | debug => rfl
      | help => rfl
  | debug => cases o' <;> rfl
  | help => cases o' <;> rfl

/-- **The order of the options does not matter.**  From any parameters whose lower bound is at most
10 and whose upper bound is at least 15, and for any options each given at most once: whatever
`process_args` makes of one order of them when it returns `TRUE`, it makes of every other. -/
theorem option_order_irrelevant (atoi : String → Int) (atof : String → Double)
    {p : SimulationParameters} (hp : BoundsApart p) (b : Bool) {opts opts' : List CliOption}
    (honce : (opts.map CliOption.name).Nodup) (hperm : opts.Perm opts')
    (params : SimulationParameters) (debug : Bool) :
    processArgs atoi atof p b (opts.flatMap CliOption.argv) = .accepted params debug ↔
      processArgs atoi atof p b (opts'.flatMap CliOption.argv) = .accepted params debug := by
  have hsplit : ∀ opts : List CliOption, splitArgs (opts.flatMap CliOption.argv) = (opts, []) := by
    intro opts
    have := splitArgs_flatMap opts []
    rwa [List.append_nil, show splitArgs [] = ([], []) from rfl, List.append_nil] at this
  have hcomm : ∀ o ∈ opts, ∀ o' ∈ opts, ∀ c,
      o'.put atoi atof (o.put atoi atof c) = o.put atoi atof (o'.put atoi atof c) := by
    intro o ho o' ho' c
    by_cases hname : o.name = o'.name
    · rw [List.inj_on_of_nodup_map honce ho ho' hname]
    · exact CliOption.put_comm hname c
  have hfold : opts.foldl (fun c o => o.put atoi atof c) (p, b) =
      opts'.foldl (fun c o => o.put atoi atof c) (p, b) := hperm.foldl_eq' hcomm (p, b)
  rw [accepted_iff, accepted_iff, hsplit, hsplit]
  simp only [true_and]
  have hmem : (∀ o ∈ opts, o.complaint atoi atof = none) ↔
      ∀ o ∈ opts', o.complaint atoi atof = none :=
    forall_congr' fun o => by rw [hperm.mem_iff]
  constructor
  · rintro ⟨hall, hresult⟩
    rw [foldl_apply_eq hall hp, hfold, ← foldl_apply_eq (hmem.mp hall) hp] at hresult
    exact ⟨hmem.mp hall, hresult⟩
  · rintro ⟨hall, hresult⟩
    rw [foldl_apply_eq hall hp, ← hfold, ← foldl_apply_eq (hmem.mpr hall) hp] at hresult
    exact ⟨hmem.mpr hall, hresult⟩

/-- The two bounds, in either order. -/
theorem option_order_irrelevant_bounds :
    let atoi : String → Int := fun v => if v = "7" then 7 else 20
    let atof : String → Double := fun v => .ofInt (atoi v)
    let params : SimulationParameters :=
      { simulationDefaultParamsHighLoad with
        papersRequiredLowerBound := 7, papersRequiredUpperBound := 20 }
    processArgs atoi atof simulationDefaultParamsHighLoad false
        ["-papers_lower", "7", "-debug", "-papers_upper", "20"] = .accepted params true ↔
      processArgs atoi atof simulationDefaultParamsHighLoad false
        ["-papers_upper", "20", "-papers_lower", "7", "-debug"] = .accepted params true :=
  have honce : (([.value .papersLower "7", .debug, .value .papersUpper "20"] :
      List CliOption).map CliOption.name).Nodup := by decide
  have hperm : ([.value .papersLower "7", .debug, .value .papersUpper "20"] :
      List CliOption).Perm [.value .papersUpper "20", .value .papersLower "7", .debug] := by decide
  option_order_irrelevant _ _ (by decide) false honce hperm _ true

end Orchestrator
