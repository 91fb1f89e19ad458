import Orchestrator.Preprocessing
import Orchestrator.StartCommand

/-!
# The two ways to configure a run

`process_args` decodes the parameters from the command line, the start command from JSON.  Both are
given the same ten values here, in the ranges that the server publishes under `/api/config`.

* `processArgs_flags` — what a list of accepted flags amounts to.
* `arrival_times_differ` — the two paths never agree on the time between two arrivals, which the
  start command takes for microseconds.
* `paths_agree_otherwise` — they agree on everything else.
-/

namespace Orchestrator

/-! ## The values -/

/-- A value for each of the ten parameters that both paths can set. -/
structure ConfigValues where
  jobCount : Double
  printRate : Double
  consumerCount : Double
  autoScaling : Bool
  refillRate : Double
  paperCapacity : Double
  jobArrivalTime : Double
  maxQueue : Double
  minPapers : Double
  maxPapers : Double

namespace ConfigValues

/-- The values are in the ranges of `/api/config`.  The number of jobs and the queue capacity have
no published range and are in that of their flags. -/
structure Published (v : ConfigValues) : Prop where
  jobCount : v.jobCount.In (Set.Ico 1 2147483648)
  printRate : configRangePrintRateMin.le v.printRate = true ∧
    v.printRate.le configRangePrintRateMax = true
  consumerCount : v.consumerCount.In
    (Set.Icc (configRangeConsumerCountMin : ℚ) configRangeConsumerCountMax)
  refillRate : configRangeRefillRateMin.le v.refillRate = true ∧
    v.refillRate.le configRangeRefillRateMax = true
  paperCapacity : v.paperCapacity.In
    (Set.Icc (configRangePaperCapacityMin : ℚ) configRangePaperCapacityMax)
  jobArrivalTime : v.jobArrivalTime.In
    (Set.Icc (configRangeJobArrivalTimeMin : ℚ) configRangeJobArrivalTimeMax)
  maxQueue : v.maxQueue.In ({-1} ∪ Set.Ico 1 2147483648)
  minPapers : v.minPapers.In (Set.Icc (configRangeMinPapersMin : ℚ) configRangeMinPapersMax)
  maxPapers : v.maxPapers.In (Set.Icc (configRangeMaxPapersMin : ℚ) configRangeMaxPapersMax)

/-- The start command's config with these values. -/
def toConfig (v : ConfigValues) : StartConfig where
  jobCount := some v.jobCount
  printRate := some v.printRate
  consumerCount := some v.consumerCount
  refillRate := some v.refillRate
  paperCapacity := some v.paperCapacity
  jobArrivalTime := some v.jobArrivalTime
  maxQueue := some v.maxQueue
  minPapers := some v.minPapers
  maxPapers := some v.maxPapers
  autoScaling := some v.autoScaling

end ConfigValues

/-- A text for each value. -/
structure FlagTexts where
  num : String
  s : String
  consumers : String
  autoScale : String
  ref : String
  pCap : String
  jobArrTime : String
  q : String
  papersLower : String
  papersUpper : String

/-- The flags, each with its text. -/
def FlagTexts.flags (t : FlagTexts) : List (String × String) :=
  [("-num", t.num), ("-s", t.s), ("-consumers", t.consumers), ("-auto_scale", t.autoScale),
    ("-ref", t.ref), ("-p_cap", t.pCap), ("-job_arr_time", t.jobArrTime), ("-q", t.q),
    ("-papers_lower", t.papersLower), ("-papers_upper", t.papersUpper)]

/-- The arguments that a list of flags makes. -/
def argvOf (flags : List (String × String)) : List String := flags.flatMap fun f => [f.1, f.2]

section

variable (atoi : String → Int) (atof : String → Double)

/-- `atoi` and `atof` read the texts as the values. -/
structure ReadAs (t : FlagTexts) (v : ConfigValues) : Prop where
  num : atoi t.num = v.jobCount.toInt
  s : atof t.s = v.printRate
  consumers : atoi t.consumers = v.consumerCount.toInt
  autoScale : atoi t.autoScale = if v.autoScaling then 1 else 0
  ref : atof t.ref = v.refillRate
  pCap : atoi t.pCap = v.paperCapacity.toInt
  jobArrTime : atoi t.jobArrTime = v.jobArrivalTime.toInt
  q : atoi t.q = v.maxQueue.toInt
  papersLower : atoi t.papersLower = v.minPapers.toInt
  papersUpper : atoi t.papersUpper = v.maxPapers.toInt

end

/-! ## Accepted flags -/

variable {atoi : String → Int} {atof : String → Double}

/-- The flag is accepted, and stores its value. -/
def Accepts (atoi : String → Int) (atof : String → Double)
    (store : SimulationParameters → String → SimulationParameters) (flag : String × String) :
    Prop :=
  flag.1 ≠ "-help" ∧ ∀ p, ∃ set, valueOption atoi atof p flag.1 = some set ∧
    set flag.2 = .ok (store p flag.1)

/-- **A list of accepted flags** is accepted, and stores one value after the other. -/
theorem processArgs_flags {store : SimulationParameters → String → SimulationParameters}
    {flags : List (String × String)} (h : ∀ flag ∈ flags, Accepts atoi atof store flag)
    (p : SimulationParameters) (debug : Bool) :
    processArgs atoi atof p debug (argvOf flags) =
      .accepted (flags.foldl (fun p flag => swapBounds (store p flag.1)) p) debug := by
  induction flags generalizing p with
  | nil => rfl
  | cons flag flags ih =>
      obtain ⟨hhelp, hstore⟩ := h flag List.mem_cons_self
      obtain ⟨set, hset, hok⟩ := hstore p
      have hrest := ih (fun f hf => h f (List.mem_cons_of_mem _ hf)) (swapBounds (store p flag.1))
      show processArgs atoi atof p debug (flag.1 :: flag.2 :: argvOf flags) = _
      unfold processArgs
      rw [if_neg hhelp, hset]
      simp only [hok]
      exact hrest

/-- What one flag stores is there at the end, and what none stores is as it was. -/
lemma foldl_field {β : Type} {store : SimulationParameters → String → SimulationParameters}
    {flags : List (String × String)} (field : SimulationParameters → β) (key : String) (value : β)
    (hfield : ∀ p, ∀ flag ∈ flags, field (swapBounds (store p flag.1)) =
      if flag.1 = key then value else field p) (p : SimulationParameters) :
    field (flags.foldl (fun p flag => swapBounds (store p flag.1)) p) =
      if key ∈ flags.map Prod.fst then value else field p := by
  induction flags generalizing p with
  | nil => rfl
  | cons flag flags ih =>
      have hmem : flag ∈ flag :: flags := List.mem_cons_self
      rw [List.foldl_cons, ih (fun p f hf => hfield p f (List.mem_cons_of_mem _ hf)),
        hfield p flag hmem]
      by_cases hin : key ∈ flags.map Prod.fst
      · simp [hin]
      · by_cases hkey : flag.1 = key
        · simp [hkey]
        · simp [hin, hkey, Ne.symm hkey]

/-! ## The ten flags -/

namespace ConfigValues

/-- What a flag stores of the values. -/
def store (v : ConfigValues) (p : SimulationParameters) : String → SimulationParameters
  | "-num" => { p with numJobs := v.jobCount.toInt }
  | "-s" => { p with printingRate := v.printRate }
  | "-consumers" => { p with consumerCount := v.consumerCount.toInt }
  | "-auto_scale" => { p with autoScaling := if v.autoScaling then 1 else 0 }
  | "-ref" => { p with refillRate := v.refillRate }
  | "-p_cap" => { p with printerPaperCapacity := v.paperCapacity.toInt }
  | "-job_arr_time" => { p with jobArrivalTimeUs := .ofInt (v.jobArrivalTime.toInt * 1000) }
  | "-q" => { p with queueCapacity := v.maxQueue.toInt }
  | "-papers_lower" => { p with papersRequiredLowerBound := v.minPapers.toInt }
  | "-papers_upper" => { p with papersRequiredUpperBound := v.maxPapers.toInt }
  | _ => p

variable {v : ConfigValues}

/-- Casts of values from a range of positive integers stay in it. -/
lemma toInt_mem {x : Double} {a b : Int} (ha : 0 < a) (hb : b < 2147483648)
    (h : x.In (Set.Icc (a : ℚ) b)) : a ≤ x.toInt ∧ x.toInt ≤ b := by
  obtain ⟨q, ⟨hlo, hhi⟩, rfl⟩ := h
  have hlo' := (le_tdiv_of_pos ha).mpr hlo
  have hhi' : q.num.tdiv q.den ≤ b :=
    (tdiv_le_of_nonneg (n := b) (by
      have : (a : ℚ) ≤ b := hlo.trans hhi
      have : a ≤ b := by exact_mod_cast this
      omega)).mpr (by linarith)
  rw [Double.toInt_num, if_pos (by omega)]
  exact ⟨hlo', hhi'⟩

/-- A rate between two bounds passes the check of its flag. -/
lemma inRange_of_le {name : String} {x lo hi : Double} (h : lo.le x = true ∧ x.le hi = true) :
    isInRangeDouble name x lo hi = .ok () := by
  obtain ⟨hlo, hhi⟩ := h
  cases x with
  | nan => cases hi <;> cases hhi
  | num q =>
      cases lo with
      | nan => cases hlo
      | num a =>
          cases hi with
          | nan => cases hhi
          | num b =>
              simp only [Double.le, decide_eq_true_eq] at hlo hhi
              simp [isInRangeDouble, Double.lt, not_lt.mpr hlo, not_lt.mpr hhi]

/-- An integer between two bounds passes the check of its flag. -/
lemma inRange_of_mem {name : String} {i lo hi : Int} (h : lo ≤ i ∧ i ≤ hi) :
    isInRangeInt name i lo hi = .ok () := by
  rw [isInRangeInt, if_neg (by omega)]

/-- The overrides of a config with published values apply. -/
lemma Published.applies (h : v.Published) : v.toConfig.applies = true := by
  obtain ⟨q, hq, hx⟩ := h.jobCount
  have hpos : (0 : ℚ) < q := by linarith [hq.1]
  simp [StartConfig.applies, toConfig, hx, Double.lt, hpos]

/-- Every flag accepts its published value. -/
lemma Published.accepts (h : v.Published) {t : FlagTexts} (hread : ReadAs atoi atof t v) :
    ∀ flag ∈ t.flags, Accepts atoi atof v.store flag := by
  have hjobs := Double.toInt_pos.mpr h.jobCount
  have hqueue : v.maxQueue.toInt = -1 ∨ 0 < v.maxQueue.toInt := by
    refine Double.toInt_capacity.mpr ?_
    obtain ⟨q, hq | hq, hx⟩ := h.maxQueue
    · exact ⟨q, .inl (by rw [Set.mem_singleton_iff.mp hq]; norm_num), hx⟩
    · exact ⟨q, .inr hq, hx⟩
  intro flag hflag
  simp only [FlagTexts.flags, List.mem_cons, List.not_mem_nil, or_false] at hflag
  rcases hflag with rfl | rfl | rfl | rfl | rfl | rfl | rfl | rfl | rfl | rfl <;>
    refine ⟨by simp, fun p => ⟨_, rfl, ?_⟩⟩
  · simp [isPositiveInteger, hread.num, store, not_le.mpr hjobs, bind, Except.bind, pure,
      Except.pure]
  · simp [hread.s, store, inRange_of_le h.printRate, bind, Except.bind, pure, Except.pure]
  · simp [hread.consumers, store, inRange_of_mem (toInt_mem (by decide) (by decide)
      h.consumerCount), bind, Except.bind, pure, Except.pure]
  · cases hb : v.autoScaling <;>
      simp [isZeroOrOne, hread.autoScale, store, hb, bind, Except.bind, pure, Except.pure]
  · simp [hread.ref, store, inRange_of_le h.refillRate, bind, Except.bind, pure, Except.pure]
  · simp [hread.pCap, store, inRange_of_mem (toInt_mem (by decide) (by decide) h.paperCapacity),
      bind, Except.bind, pure, Except.pure]
  · simp [hread.jobArrTime, store, inRange_of_mem (toInt_mem (by decide) (by decide)
      h.jobArrivalTime), bind, Except.bind, pure, Except.pure]
  · rcases hqueue with hq | hq
    · simp [hread.q, store, hq, pure, Except.pure]
    · simp [isPositiveInteger, hread.q, store, not_le.mpr hq, bind, Except.bind, pure,
        Except.pure]
  · simp [hread.papersLower, store, inRange_of_mem (toInt_mem (by decide) (by decide)
      h.minPapers), bind, Except.bind, pure, Except.pure]
  · simp [hread.papersUpper, store, inRange_of_mem (toInt_mem (by decide) (by decide)
      h.maxPapers), bind, Except.bind, pure, Except.pure]

/-- The bounds on the sheets are where the flags leave them, the lower below the upper. -/
def BoundsInOrder (p : SimulationParameters) : Prop :=
  p.papersRequiredLowerBound ≤ configRangeMinPapersMax ∧
    configRangeMaxPapersMin ≤ p.papersRequiredUpperBound

/-- Published values keep the bounds in order, and they are not swapped. -/
lemma Published.store_inOrder (h : v.Published) {t : FlagTexts} {flag : String × String}
    (hflag : flag ∈ t.flags) {p : SimulationParameters} (hp : BoundsInOrder p) :
    BoundsInOrder (v.store p flag.1) ∧
      swapBounds (v.store p flag.1) = v.store p flag.1 := by
  have hlower := (toInt_mem (by decide) (by decide) h.minPapers).2
  have hupper := (toInt_mem (by decide) (by decide) h.maxPapers).1
  have horder : BoundsInOrder (v.store p flag.1) := by
    obtain ⟨hlo, hhi⟩ := hp
    simp only [FlagTexts.flags, List.mem_cons, List.not_mem_nil, or_false] at hflag
    rcases hflag with rfl | rfl | rfl | rfl | rfl | rfl | rfl | rfl | rfl | rfl <;>
      first | exact ⟨hlo, hhi⟩ | exact ⟨hlower, hhi⟩ | exact ⟨hlo, hupper⟩
  refine ⟨horder, ?_⟩
  obtain ⟨hlo, hhi⟩ := horder
  have hmax : configRangeMinPapersMax = 10 := rfl
  have hmin : configRangeMaxPapersMin = 15 := rfl
  simp only [swapBounds]
  rw [min_eq_right (by omega), max_eq_right (by omega)]

/-- Two flags store their values in either order. -/
lemma store_comm {t : FlagTexts} {f g : String × String} (hf : f ∈ t.flags) (hg : g ∈ t.flags)
    (p : SimulationParameters) :
    v.store (v.store p f.1) g.1 = v.store (v.store p g.1) f.1 := by
  simp only [FlagTexts.flags, List.mem_cons, List.not_mem_nil, or_false] at hf hg
  rcases hf with rfl | rfl | rfl | rfl | rfl | rfl | rfl | rfl | rfl | rfl <;>
    rcases hg with rfl | rfl | rfl | rfl | rfl | rfl | rfl | rfl | rfl | rfl <;>
    simp only [store]

end ConfigValues

open ConfigValues

/-! ## The time between two arrivals -/

/-- **The two paths never agree on the time between two arrivals.**  With any values in the
published ranges, from any parameters and with the flags in any order, `process_args` accepts the
flags and stores the milliseconds as microseconds; the start command stores the number of
milliseconds. -/
theorem arrival_times_differ {v : ConfigValues} {t : FlagTexts} {flags : List (String × String)}
    (hv : v.Published) (hread : ReadAs atoi atof t v) (hflags : flags.Perm t.flags)
    (p : SimulationParameters) :
    ∃ params, processArgs atoi atof p false (argvOf flags) = .accepted params false ∧
      params.jobArrivalTimeUs = .ofInt (v.jobArrivalTime.toInt * 1000) ∧
      (applyConfig v.toConfig p).jobArrivalTimeUs = .ofInt v.jobArrivalTime.toInt ∧
      params.jobArrivalTimeUs ≠ (applyConfig v.toConfig p).jobArrivalTimeUs := by
  have haccepts : ∀ flag ∈ flags, Accepts atoi atof v.store flag := fun flag hflag =>
    hv.accepts hread flag (hflags.mem_iff.mp hflag)
  have hcli : (flags.foldl (fun p flag => swapBounds (v.store p flag.1)) p).jobArrivalTimeUs =
      .ofInt (v.jobArrivalTime.toInt * 1000) := by
    have hfield : ∀ p, ∀ flag ∈ flags,
        (swapBounds (v.store p flag.1)).jobArrivalTimeUs =
          if flag.1 = "-job_arr_time" then .ofInt (v.jobArrivalTime.toInt * 1000)
          else p.jobArrivalTimeUs := by
      intro p flag hflag
      have hmem := hflags.mem_iff.mp hflag
      simp only [FlagTexts.flags, List.mem_cons, List.not_mem_nil, or_false] at hmem
      rcases hmem with rfl | rfl | rfl | rfl | rfl | rfl | rfl | rfl | rfl | rfl <;>
        simp [ConfigValues.store, swapBounds]
    rw [foldl_field SimulationParameters.jobArrivalTimeUs _ _ hfield, if_pos]
    exact (hflags.map Prod.fst).mem_iff.mpr (by simp [FlagTexts.flags])
  have hjson : (applyConfig v.toConfig p).jobArrivalTimeUs = .ofInt v.jobArrivalTime.toInt := by
    rw [applyConfig_eq, if_pos hv.applies]
    rfl
  refine ⟨_, processArgs_flags haccepts p false, hcli, hjson, ?_⟩
  rw [hcli, hjson]
  have hpos := (toInt_mem (by decide) (by decide) hv.jobArrivalTime).1
  intro heq
  have hrat : (v.jobArrivalTime.toInt : ℚ) * 1000 = v.jobArrivalTime.toInt := by
    simpa [Double.ofInt] using heq
  have hint : v.jobArrivalTime.toInt * 1000 = v.jobArrivalTime.toInt := by exact_mod_cast hrat
  have hmin : configRangeJobArrivalTimeMin = 200 := rfl
  omega

/-- The values that the server publishes as its defaults. -/
def publishedDefaults : ConfigValues where
  jobCount := .num 20
  printRate := .num 5
  consumerCount := .num 2
  autoScaling := true
  refillRate := .num 25
  paperCapacity := .num 150
  jobArrivalTime := .num 500
  maxQueue := .num (-1)
  minPapers := .num 5
  maxPapers := .num 15

/-- The same values as texts. -/
def defaultTexts : FlagTexts where
  num := "20"
  s := "5"
  consumers := "2"
  autoScale := "1"
  ref := "25"
  pCap := "150"
  jobArrTime := "500"
  q := "-1"
  papersLower := "5"
  papersUpper := "15"

/-- The texts above, with the integers they denote. -/
def readInt (s : String) : Int :=
  (([("20", 20), ("5", 5), ("2", 2), ("1", 1), ("25", 25), ("150", 150), ("500", 500), ("-1", -1),
    ("15", 15)] : List (String × Int)).lookup s).getD 0

lemma publishedDefaults_published : publishedDefaults.Published where
  jobCount := ⟨20, by norm_num, rfl⟩
  printRate := by decide +kernel
  consumerCount := ⟨2, by norm_num [configRangeConsumerCountMin, configRangeConsumerCountMax], rfl⟩
  refillRate := by decide +kernel
  paperCapacity :=
    ⟨150, by norm_num [configRangePaperCapacityMin, configRangePaperCapacityMax], rfl⟩
  jobArrivalTime :=
    ⟨500, by norm_num [configRangeJobArrivalTimeMin, configRangeJobArrivalTimeMax], rfl⟩
  maxQueue := ⟨-1, .inl rfl, rfl⟩
  minPapers := ⟨5, by norm_num [configRangeMinPapersMin, configRangeMinPapersMax], rfl⟩
  maxPapers := ⟨15, by norm_num [configRangeMaxPapersMin, configRangeMaxPapersMax], rfl⟩

lemma defaultTexts_readAs :
    ReadAs readInt (fun s => .ofInt (readInt s)) defaultTexts publishedDefaults := by
  constructor <;> decide +kernel

/-- With the published defaults, one path waits half a second between two jobs and the other half a
millisecond. -/
theorem arrival_times_differ_at_defaults :
    ∃ params, processArgs readInt (fun s => .ofInt (readInt s)) simulationDefaultParamsHighLoad
        false (argvOf defaultTexts.flags) = .accepted params false ∧
      params.jobArrivalTimeUs = .ofInt (publishedDefaults.jobArrivalTime.toInt * 1000) ∧
      (applyConfig publishedDefaults.toConfig simulationDefaultParamsHighLoad).jobArrivalTimeUs =
        .ofInt publishedDefaults.jobArrivalTime.toInt ∧
      params.jobArrivalTimeUs ≠
        (applyConfig publishedDefaults.toConfig simulationDefaultParamsHighLoad).jobArrivalTimeUs :=
  arrival_times_differ publishedDefaults_published defaultTexts_readAs (.refl _)
    simulationDefaultParamsHighLoad

/-- **The two paths disagree on the published defaults.** -/
theorem config_paths_disagree :
    publishedDefaults.Published ∧
      ReadAs readInt (fun s => .ofInt (readInt s)) defaultTexts publishedDefaults ∧
      processArgs readInt (fun s => .ofInt (readInt s)) simulationDefaultParamsHighLoad false
          (argvOf defaultTexts.flags) =
        .accepted
          { applyConfig publishedDefaults.toConfig simulationDefaultParamsHighLoad with
            jobArrivalTimeUs := .num 500000 } false ∧
      (applyConfig publishedDefaults.toConfig simulationDefaultParamsHighLoad).jobArrivalTimeUs =
        .num 500 :=
  ⟨publishedDefaults_published, defaultTexts_readAs, by decide +kernel, by decide +kernel⟩

/-! ## Everything else -/

/-- With the bounds in order throughout, no flag swaps them. -/
lemma foldl_swapBounds {store : SimulationParameters → String → SimulationParameters}
    {I : SimulationParameters → Prop} {flags : List (String × String)}
    (hkeep : ∀ p, ∀ flag ∈ flags, I p →
      I (store p flag.1) ∧ swapBounds (store p flag.1) = store p flag.1)
    {p : SimulationParameters} (hp : I p) :
    flags.foldl (fun p flag => swapBounds (store p flag.1)) p =
      flags.foldl (fun p flag => store p flag.1) p := by
  induction flags generalizing p with
  | nil => rfl
  | cons flag flags ih =>
      obtain ⟨hI, hswap⟩ := hkeep p flag List.mem_cons_self hp
      rw [List.foldl_cons, List.foldl_cons, hswap]
      exact ih (fun p f hf => hkeep p f (List.mem_cons_of_mem _ hf)) hI

/-- **The two paths agree on everything else.**  From parameters whose bounds on the sheets are in
order, all fields but the time between two arrivals are the same. -/
theorem paths_agree_otherwise {v : ConfigValues} {t : FlagTexts} {flags : List (String × String)}
    (hv : v.Published) (hread : ReadAs atoi atof t v) (hflags : flags.Perm t.flags)
    {p : SimulationParameters} (hp : BoundsInOrder p) :
    ∃ params, processArgs atoi atof p false (argvOf flags) = .accepted params false ∧
      params = { applyConfig v.toConfig p with jobArrivalTimeUs := params.jobArrivalTimeUs } := by
  have hmem : ∀ flag ∈ flags, flag ∈ t.flags := fun flag hflag => hflags.mem_iff.mp hflag
  have haccepts : ∀ flag ∈ flags, Accepts atoi atof v.store flag := fun flag hflag =>
    hv.accepts hread flag (hmem flag hflag)
  refine ⟨_, processArgs_flags haccepts p false, ?_⟩
  have hfold : flags.foldl (fun p flag => swapBounds (v.store p flag.1)) p =
      t.flags.foldl (fun p flag => v.store p flag.1) p := by
    rw [foldl_swapBounds (I := BoundsInOrder)
      (fun p flag hflag hp => hv.store_inOrder (hmem flag hflag) hp) hp]
    exact hflags.foldl_eq' (fun f hf g hg p => store_comm (hmem f hf) (hmem g hg) p) p
  rw [hfold, applyConfig_eq, if_pos (hv.applies)]
  simp only [FlagTexts.flags, List.foldl_cons, List.foldl_nil, ConfigValues.store]
  rfl

end Orchestrator
