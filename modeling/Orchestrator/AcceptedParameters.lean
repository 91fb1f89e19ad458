import Orchestrator.CommandOptions
import Mathlib.Data.Int.ConditionallyCompleteOrder
import Mathlib.Tactic.NormNum

/-!
# Accepted parameters

What `process_args` has checked when it returns `TRUE`.  A range check of a `double` is passed by
NaN, so the two rates are in range or NaN.

* `ValidParameters` — the ranges of `config.h`.
* `accepted_valid` — accepted parameters are in them exactly when neither rate was given as NaN.
-/

namespace Orchestrator

/-! ## Ranges -/

/-- The parameters are in the ranges of `config.h`. -/
structure ValidParameters (p : SimulationParameters) : Prop where
  numJobs : 0 < p.numJobs
  queueCapacity : p.queueCapacity = -1 ∨ 0 < p.queueCapacity
  lower : p.papersRequiredLowerBound ∈ Set.Icc configRangeMinPapersMin configRangeMinPapersMax
  upper : p.papersRequiredUpperBound ∈ Set.Icc configRangeMaxPapersMin configRangeMaxPapersMax
  capacity : p.printerPaperCapacity ∈
    Set.Icc configRangePaperCapacityMin configRangePaperCapacityMax
  printingRate : configRangePrintRateMin.le p.printingRate = true ∧
    p.printingRate.le configRangePrintRateMax = true
  refillRate : configRangeRefillRateMin.le p.refillRate = true ∧
    p.refillRate.le configRangeRefillRateMax = true
  consumers : p.consumerCount ∈ Set.Icc configRangeConsumerCountMin configRangeConsumerCountMax
  minArrival : p.minArrivalTime ∈
    Set.Icc configRangeMinArrivalTimeMin configRangeMinArrivalTimeMax
  maxArrival : p.maxArrivalTime ∈
    Set.Icc configRangeMaxArrivalTimeMin configRangeMaxArrivalTimeMax
  jobArrival : (Double.num 200000).le p.jobArrivalTimeUs = true ∧
    p.jobArrivalTimeUs.le (.num 800000) = true
  autoScaling : p.autoScaling = 0 ∨ p.autoScaling = 1
  fixedArrival : p.fixedArrival = 0 ∨ p.fixedArrival = 1
  bounds : p.papersRequiredLowerBound ≤ p.papersRequiredUpperBound ∧
    p.papersRequiredUpperBound ≤ p.printerPaperCapacity

/-- A rate between two bounds, or NaN. -/
def RateChecked (min max rate : Double) : Prop :=
  rate = .nan ∨ min.le rate = true ∧ rate.le max = true

/-- What the checks make sure of. -/
structure Checked (p : SimulationParameters) : Prop where
  numJobs : 0 < p.numJobs
  queueCapacity : p.queueCapacity = -1 ∨ 0 < p.queueCapacity
  lower : p.papersRequiredLowerBound ∈ Set.Icc configRangeMinPapersMin configRangeMinPapersMax
  upper : p.papersRequiredUpperBound ∈ Set.Icc configRangeMaxPapersMin configRangeMaxPapersMax
  capacity : p.printerPaperCapacity ∈
    Set.Icc configRangePaperCapacityMin configRangePaperCapacityMax
  printingRate : RateChecked configRangePrintRateMin configRangePrintRateMax p.printingRate
  refillRate : RateChecked configRangeRefillRateMin configRangeRefillRateMax p.refillRate
  consumers : p.consumerCount ∈ Set.Icc configRangeConsumerCountMin configRangeConsumerCountMax
  minArrival : p.minArrivalTime ∈
    Set.Icc configRangeMinArrivalTimeMin configRangeMinArrivalTimeMax
  maxArrival : p.maxArrivalTime ∈
    Set.Icc configRangeMaxArrivalTimeMin configRangeMaxArrivalTimeMax
  jobArrival : ∃ ms ∈ Set.Icc configRangeJobArrivalTimeMin configRangeJobArrivalTimeMax,
    p.jobArrivalTimeUs = .ofInt (ms * 1000)
  autoScaling : p.autoScaling = 0 ∨ p.autoScaling = 1
  fixedArrival : p.fixedArrival = 0 ∨ p.fixedArrival = 1

lemma checked_default : Checked simulationDefaultParamsHighLoad where
  numJobs := by decide
  queueCapacity := .inl rfl
  lower := by decide
  upper := by decide
  capacity := by decide
  printingRate := .inr (by decide +kernel)
  refillRate := .inr (by decide +kernel)
  consumers := by decide
  minArrival := by decide
  maxArrival := by decide
  jobArrival := ⟨200, by decide, by decide +kernel⟩
  autoScaling := .inr rfl
  fixedArrival := .inr rfl

/-! ## The checks -/

lemma mem_of_isInRangeInt {name : String} {i lo hi : Int}
    (h : isInRangeInt name i lo hi = .ok ()) : i ∈ Set.Icc lo hi := by
  rw [isInRangeInt] at h
  split at h
  · cases h
  · next hin => exact ⟨by omega, by omega⟩

lemma pos_of_isPositiveInteger {name : String} {i : Int}
    (h : isPositiveInteger name i = .ok ()) : 0 < i := by
  rw [isPositiveInteger] at h
  split at h
  · cases h
  · omega

lemma zero_or_one_of_isZeroOrOne {name : String} {i : Int}
    (h : isZeroOrOne name i = .ok ()) : i = 0 ∨ i = 1 := by
  rw [isZeroOrOne] at h
  split at h
  · cases h
  · omega

/-- A `double` passes its check if it is in range, or NaN. -/
lemma rateChecked_of_isInRangeDouble {name : String} {x : Double} {lo hi : ℚ}
    (h : isInRangeDouble name x (.num lo) (.num hi) = .ok ()) :
    RateChecked (.num lo) (.num hi) x := by
  rw [isInRangeDouble] at h
  split at h
  · cases h
  · next hin =>
    cases x with
    | nan => exact .inl rfl
    | num q =>
        simp only [Double.lt, Bool.or_eq_true, decide_eq_true_eq, not_or, not_lt] at hin
        exact .inr ⟨decide_eq_true hin.1, decide_eq_true hin.2⟩

variable {atoi : String → Int} {atof : String → Double} {p : SimulationParameters}

/-- An option that passes its check keeps what the checks make sure of. -/
lemma Checked.store (h : Checked p) {f : ValueFlag} {v : String}
    (hcheck : f.check atoi atof v = .ok ()) : Checked (f.store atoi atof v p) := by
  cases f with
  | num => exact { h with numJobs := pos_of_isPositiveInteger hcheck }
  | q =>
      refine { h with queueCapacity := ?_ }
      rw [ValueFlag.check] at hcheck
      split at hcheck
      · exact .inr (pos_of_isPositiveInteger hcheck)
      · next hq => exact .inl (not_not.mp hq)
  | papersLower => exact { h with lower := mem_of_isInRangeInt hcheck }
  | papersUpper => exact { h with upper := mem_of_isInRangeInt hcheck }
  | pCap => exact { h with capacity := mem_of_isInRangeInt hcheck }
  | s => exact { h with printingRate := rateChecked_of_isInRangeDouble hcheck }
  | ref => exact { h with refillRate := rateChecked_of_isInRangeDouble hcheck }
  | consumers => exact { h with consumers := mem_of_isInRangeInt hcheck }
  | autoScale => exact { h with autoScaling := zero_or_one_of_isZeroOrOne hcheck }
  | fixedArrival => exact { h with fixedArrival := zero_or_one_of_isZeroOrOne hcheck }
  | jobArrTime => exact { h with jobArrival := ⟨atoi v, mem_of_isInRangeInt hcheck, rfl⟩ }
  | minArr => exact { h with minArrival := mem_of_isInRangeInt hcheck }
  | maxArr => exact { h with maxArrival := mem_of_isInRangeInt hcheck }

/-- The bounds are in order, and are not swapped. -/
lemma Checked.swapBounds_eq (h : Checked p) : swapBounds p = p := by
  have hlower : p.papersRequiredLowerBound ≤ 10 := h.lower.2
  have hupper : 15 ≤ p.papersRequiredUpperBound := h.upper.1
  rw [swapBounds, min_eq_right (by omega), max_eq_right (by omega)]

/-- **What the checks make sure of** holds whenever `process_args` returns `TRUE`. -/
theorem accepted_checked {params : SimulationParameters} {b debug : Bool} {argv : List String}
    (hp : Checked p) (h : processArgs atoi atof p b argv = .accepted params debug) :
    Checked params := by
  obtain ⟨-, hall, hfold⟩ := accepted_iff.mp h
  have hkept : Checked ((splitArgs argv).1.foldl (fun c o => o.apply atoi atof c) (p, b)).1 :=
    foldl_apply (fun f v p hmem hp => hp.store (CliOption.complaint_value (hall _ hmem)))
      (fun p hp => by rwa [hp.swapBounds_eq]) hp b
  rwa [hfold] at hkept

/-! ## The last value of an option -/

/-- The value that an option gives to `f`. -/
def CliOption.valueOf (f : ValueFlag) : CliOption → Option String
  | value g v => if g = f then some v else none
  | debug => none
  | help => none

/-- The last value given to `f` on a command line. -/
def lastValue (f : ValueFlag) (argv : List String) : Option String :=
  ((splitArgs argv).1.filterMap (CliOption.valueOf f)).getLast?

/-- The field of an option has the last value given to it, or is as it was. -/
lemma foldl_lastValue {β : Type} (atoi : String → Int) (p : SimulationParameters)
    (f : ValueFlag) (field : SimulationParameters → β)
    (value : String → β)
    (hfield : ∀ g v p, field (ValueFlag.store atoi atof g v p) =
      if g = f then value v else field p)
    (hswap : ∀ p, field (swapBounds p) = field p) (opts : List CliOption) (b : Bool) :
    field (opts.foldl (fun c o => o.apply atoi atof c) (p, b)).1 =
      ((opts.filterMap (CliOption.valueOf f)).getLast?).elim (field p) value := by
  induction opts generalizing p b with
  | nil => rfl
  | cons o opts ih =>
      rw [List.foldl_cons]
      cases o with
      | value g v =>
          rw [CliOption.apply, ih, hswap, hfield, List.filterMap_cons, CliOption.valueOf]
          by_cases hg : g = f
          · simp only [if_pos hg, List.getLast?_cons]
            cases (opts.filterMap (CliOption.valueOf f)).getLast? <;> rfl
          · simp only [if_neg hg]
      | debug => rw [CliOption.apply, ih, hswap]; rfl
      | help => rw [CliOption.apply, ih]; rfl

/-- A rate that was checked is in range exactly when it is not NaN. -/
lemma RateChecked.le_iff {min max rate : Double} (h : RateChecked min max rate) :
    (min.le rate = true ∧ rate.le max = true) ↔ rate ≠ .nan := by
  constructor
  · rintro ⟨-, hmax⟩ rfl
    cases hmax
  · intro hne
    exact h.resolve_left hne

/-- Only the check of NaN is missing. -/
lemma Checked.valid_iff (h : Checked p) :
    ValidParameters p ↔ p.printingRate ≠ .nan ∧ p.refillRate ≠ .nan := by
  rw [← h.printingRate.le_iff, ← h.refillRate.le_iff]
  constructor
  · intro hvalid
    exact ⟨hvalid.printingRate, hvalid.refillRate⟩
  · rintro ⟨hprint, hrefill⟩
    obtain ⟨ms, ⟨hlow, hhigh⟩, hms⟩ := h.jobArrival
    have hlower : p.papersRequiredLowerBound ≤ 10 := h.lower.2
    have hupper : 15 ≤ p.papersRequiredUpperBound ∧ p.papersRequiredUpperBound ≤ 30 := h.upper
    have hcapacity : 50 ≤ p.printerPaperCapacity := h.capacity.1
    refine { h with
      printingRate := hprint
      refillRate := hrefill
      jobArrival := ?_
      bounds := ⟨by omega, by omega⟩ }
    change 200 ≤ ms at hlow
    change ms ≤ 800 at hhigh
    rw [hms]
    constructor
    · have hcast : ((200000 : Int) : ℚ) ≤ ((ms * 1000 : Int) : ℚ) := Int.cast_le.mpr (by omega)
      exact decide_eq_true hcast
    · have hcast : ((ms * 1000 : Int) : ℚ) ≤ ((800000 : Int) : ℚ) := Int.cast_le.mpr (by omega)
      exact decide_eq_true hcast

/-- **When accepted command lines give valid parameters.**  If `process_args`, from the default
parameters, returns `TRUE`, then the parameters are in the ranges of `config.h` exactly when neither
the last value of `-s` nor that of `-ref` is converted to NaN. -/
theorem accepted_valid {params : SimulationParameters} {debug : Bool} {argv : List String}
    (h : processArgs atoi atof simulationDefaultParamsHighLoad false argv =
      .accepted params debug) :
    ValidParameters params ↔
      ∀ f ∈ [ValueFlag.s, ValueFlag.ref], ∀ v ∈ lastValue f argv, atof v ≠ .nan := by
  have hne : ∀ (rate : Double) (last : Option String), rate ≠ .nan →
      (last.elim rate atof ≠ .nan ↔ ∀ v ∈ last, atof v ≠ .nan) := by
    intro rate last hrate
    cases last <;> simp [hrate]
  obtain ⟨-, -, hfold⟩ := accepted_iff.mp h
  have hprint := foldl_lastValue atoi simulationDefaultParamsHighLoad .s
    SimulationParameters.printingRate atof (fun g v p => by cases g <;> rfl) (fun _ => rfl)
    (splitArgs argv).1 false
  have hrefill := foldl_lastValue atoi simulationDefaultParamsHighLoad .ref
    SimulationParameters.refillRate atof (fun g v p => by cases g <;> rfl) (fun _ => rfl)
    (splitArgs argv).1 false
  rw [hfold] at hprint hrefill
  rw [(accepted_checked checked_default h).valid_iff, hprint, hrefill]
  simp only [List.mem_cons, List.not_mem_nil, or_false, forall_eq_or_imp, forall_eq]
  exact and_congr (hne _ _ (by decide)) (hne _ _ (by decide))

/-- `-s 6`. -/
theorem accepted_valid_rate_six :
    ∃ params, processArgs (fun _ => 6) (fun _ => .num 6) simulationDefaultParamsHighLoad false
        ["-s", "6"] = .accepted params false ∧ params.printingRate = .num 6 ∧
      (ValidParameters params ↔
        ∀ f ∈ [ValueFlag.s, ValueFlag.ref], ∀ v ∈ lastValue f ["-s", "6"],
          (fun _ => Double.num 6) v ≠ .nan) := by
  have hrun : processArgs (fun _ => 6) (fun _ => .num 6) simulationDefaultParamsHighLoad false
      ["-s", "6"] =
        .accepted { simulationDefaultParamsHighLoad with printingRate := .num 6 } false := by
    decide +kernel
  exact ⟨_, hrun, rfl, accepted_valid hrun⟩

/-- **A rate that is not a number is accepted**, for `-s nan`. -/
theorem nan_rate_accepted :
    ∃ params, processArgs (fun _ => 0) (fun _ => .nan) simulationDefaultParamsHighLoad false
        ["-s", "nan"] = .accepted params false ∧ params.printingRate = .nan ∧
      ¬ValidParameters params := by
  refine ⟨{ simulationDefaultParamsHighLoad with printingRate := .nan }, by decide +kernel, rfl,
    fun h => ?_⟩
  exact absurd h.printingRate.1 (by decide)

end Orchestrator
