import Orchestrator.Config

/-!
# Command line arguments

`process_args` of `preprocessing.c`, which both programs run on their arguments before anything
else.  `atoi` and `atof` are parameters.  An argument that is not there is `argv[argc]`, a null
pointer; reading it has no defined result.

* `processArgs` — the loop over the arguments.
* `accepted_inRange` — the ranges that hold of the parameters whenever it returns `TRUE`.
-/

namespace Orchestrator

/-- What is wrong with an argument, with the data of the message. -/
inductive ArgsError where
  | notPositiveInteger (name : String)
  | notInRangeDouble (name : String) (min max : Double)
  | notInRangeInt (name : String) (min max : Int)
  | notZeroOrOne (name : String)
  | unrecognized (arg : String)
  deriving DecidableEq, Repr

/-- How `process_args` ends. -/
inductive ArgsResult where
  | accepted (params : SimulationParameters) (debug : Bool)
  | rejected (error : ArgsError)
  | help
  | nullArgument
  deriving DecidableEq, Repr

/-! ## Checks -/

/-- `is_positive_integer`. -/
def isPositiveInteger (name : String) (value : Int) : Except ArgsError Unit :=
  if value ≤ 0 then .error (.notPositiveInteger name) else .ok ()

/-- `is_in_range_double`. -/
def isInRangeDouble (name : String) (value min max : Double) : Except ArgsError Unit :=
  if value.lt min || max.lt value then .error (.notInRangeDouble name min max) else .ok ()

/-- `is_in_range_int`. -/
def isInRangeInt (name : String) (value min max : Int) : Except ArgsError Unit :=
  if value < min ∨ max < value then .error (.notInRangeInt name min max) else .ok ()

/-- The check of the two flags. -/
def isZeroOrOne (name : String) (value : Int) : Except ArgsError Unit :=
  if value ≠ 0 ∧ value ≠ 1 then .error (.notZeroOrOne name) else .ok ()

/-- `swap_bounds`, on the two paper bounds. -/
def swapBounds (p : SimulationParameters) : SimulationParameters :=
  { p with
    papersRequiredLowerBound := min p.papersRequiredUpperBound p.papersRequiredLowerBound
    papersRequiredUpperBound := max p.papersRequiredLowerBound p.papersRequiredUpperBound }

/-! ## The loop -/

section

variable (atoi : String → Int) (atof : String → Double)

/-- The options that take a value, with what they do with it. -/
def valueOption (p : SimulationParameters) :
    String → Option (String → Except ArgsError SimulationParameters)
  | "-num" => some fun v => do
      isPositiveInteger "num_jobs" (atoi v)
      return { p with numJobs := atoi v }
  | "-q" => some fun v => do
      -- -1 means unlimited, otherwise must be positive
      if atoi v ≠ -1 then isPositiveInteger "queue_capacity" (atoi v)
      return { p with queueCapacity := atoi v }
  | "-papers_lower" => some fun v => do
      isInRangeInt "papers_required_lower_bound" (atoi v) configRangeMinPapersMin
        configRangeMinPapersMax
      return { p with papersRequiredLowerBound := atoi v }
  | "-papers_upper" => some fun v => do
      isInRangeInt "papers_required_upper_bound" (atoi v) configRangeMaxPapersMin
        configRangeMaxPapersMax
      return { p with papersRequiredUpperBound := atoi v }
  | "-p_cap" => some fun v => do
      isInRangeInt "printer_paper_capacity" (atoi v) configRangePaperCapacityMin
        configRangePaperCapacityMax
      return { p with printerPaperCapacity := atoi v }
  | "-s" => some fun v => do
      isInRangeDouble "service_rate" (atof v) configRangePrintRateMin configRangePrintRateMax
      return { p with printingRate := atof v }
  | "-ref" => some fun v => do
      isInRangeDouble "refill_rate" (atof v) configRangeRefillRateMin configRangeRefillRateMax
      return { p with refillRate := atof v }
  | "-consumers" => some fun v => do
      isInRangeInt "consumer_count" (atoi v) configRangeConsumerCountMin
        configRangeConsumerCountMax
      return { p with consumerCount := atoi v }
  | "-auto_scale" => some fun v => do
      isZeroOrOne "auto_scaling" (atoi v)
      return { p with autoScaling := atoi v }
  | "-fixed_arrival" => some fun v => do
      isZeroOrOne "fixed_arrival" (atoi v)
      return { p with fixedArrival := atoi v }
  | "-job_arr_time" => some fun v => do
      isInRangeInt "job_arrival_time" (atoi v) configRangeJobArrivalTimeMin
        configRangeJobArrivalTimeMax
      return { p with jobArrivalTimeUs := .ofInt (atoi v * 1000) }
  | "-min_arr" => some fun v => do
      isInRangeInt "min_arrival_time" (atoi v) configRangeMinArrivalTimeMin
        configRangeMinArrivalTimeMax
      return { p with minArrivalTime := atoi v }
  | "-max_arr" => some fun v => do
      isInRangeInt "max_arrival_time" (atoi v) configRangeMaxArrivalTimeMin
        configRangeMaxArrivalTimeMax
      return { p with maxArrivalTime := atoi v }
  | _ => none

/-- `process_args`, on `argv[1]` and what follows, with the value of `g_debug` so far. -/
def processArgs (p : SimulationParameters) (debug : Bool) : List String → ArgsResult
  | [] => .accepted p debug
  | arg :: rest =>
      if arg = "-help" then .help
      else match valueOption atoi atof p arg, rest with
        | some _, [] => .nullArgument
        | some set, value :: rest =>
            match set value with
            | .ok p => processArgs (swapBounds p) debug rest
            | .error e => .rejected e
        | none, rest =>
            if arg = "-debug" then processArgs (swapBounds p) true rest
            else .rejected (.unrecognized arg)

end

/-! ## Accepted parameters -/

/-- The parameters that `process_args` makes of some command line. -/
def Accepted (params : SimulationParameters) : Prop :=
  ∃ (atoi : String → Int) (atof : String → Double) (argv : List String) (debug : Bool),
    processArgs atoi atof simulationDefaultParamsHighLoad false argv = .accepted params debug

/-- The integer ranges of the command line. -/
structure InRange (p : SimulationParameters) : Prop where
  numJobs : 0 < p.numJobs
  queueCapacity : p.queueCapacity = -1 ∨ 0 < p.queueCapacity
  lower : 5 ≤ p.papersRequiredLowerBound ∧ p.papersRequiredLowerBound ≤ 10
  upper : 15 ≤ p.papersRequiredUpperBound ∧ p.papersRequiredUpperBound ≤ 30
  capacity : 50 ≤ p.printerPaperCapacity ∧ p.printerPaperCapacity ≤ 200
  consumers : 1 ≤ p.consumerCount ∧ p.consumerCount ≤ 5
  autoScaling : p.autoScaling = 0 ∨ p.autoScaling = 1

/-- In range, the bounds are in order and are not swapped. -/
lemma InRange.swapBounds {p : SimulationParameters} (h : InRange p) : InRange (swapBounds p) := by
  obtain ⟨hlo, hlo'⟩ := h.lower
  obtain ⟨hup, hup'⟩ := h.upper
  have heq : Orchestrator.swapBounds p = p := by
    simp only [Orchestrator.swapBounds]
    rw [min_eq_right (by omega), max_eq_right (by omega)]
  rw [heq]
  exact h

/-- An option that accepts its value keeps the ranges. -/
lemma InRange.valueOption {atoi : String → Int} {atof : String → Double}
    {p p' : SimulationParameters} {arg v : String}
    {set : String → Except ArgsError SimulationParameters} (h : InRange p)
    (hset : valueOption atoi atof p arg = some set) (hv : set v = .ok p') : InRange p' := by
  obtain ⟨hnum, hq, hlo, hup, hcap, hcons, hauto⟩ := h
  unfold Orchestrator.valueOption at hset
  split at hset
  all_goals try cases hset
  all_goals
    simp only [isPositiveInteger, isInRangeInt, isInRangeDouble, isZeroOrOne, bind, Except.bind,
      pure, Except.pure, configRangeMinPapersMin, configRangeMinPapersMax, configRangeMaxPapersMin,
      configRangeMaxPapersMax, configRangePaperCapacityMin, configRangePaperCapacityMax,
      configRangeConsumerCountMin, configRangeConsumerCountMax] at hv
    grind [InRange]

/-- The loop keeps the ranges. -/
lemma processArgs_inRange {atoi : String → Int} {atof : String → Double} {argv : List String}
    {p params : SimulationParameters} {b debug : Bool} (hp : InRange p)
    (h : processArgs atoi atof p b argv = .accepted params debug) : InRange params := by
  fun_induction processArgs atoi atof p b argv with
  | case1 p b =>
      cases h
      exact hp
  | case4 p b arg hhelp set value rest hset p' hv ih =>
      exact ih (hp.valueOption hset hv).swapBounds h
  | case6 p b rest hnone hhelp ih => exact ih hp.swapBounds h
  | _ => cases h

/-- **Accepted parameters are in range.** -/
theorem accepted_inRange {params : SimulationParameters} (h : Accepted params) :
    InRange params := by
  obtain ⟨atoi, atof, argv, debug, h⟩ := h
  exact processArgs_inRange (by constructor <;> simp [simulationDefaultParamsHighLoad]) h

/-- The defaults are what an empty command line gives. -/
lemma accepted_default : Accepted simulationDefaultParamsHighLoad :=
  ⟨fun _ => 0, fun _ => .num 0, [], false, rfl⟩

end Orchestrator
