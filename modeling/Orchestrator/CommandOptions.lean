import Orchestrator.Preprocessing

/-!
# The options of the command line

An option that takes a value is a check of that value and a store of it, and a command line is a
sequence of options, up to the first argument that is not one.

* `ValueFlag` — the thirteen options with a value, with their checks and what they store.
* `splitArgs` — the options of a command line, and what is left of it.
* `processArgs_eq`, `accepted_iff` — `process_args` is the first complaint of an option, or else
  what all of them store.
-/

namespace Orchestrator

/-! ## Options with a value -/

inductive ValueFlag where
  | num
  | q
  | papersLower
  | papersUpper
  | pCap
  | s
  | ref
  | consumers
  | autoScale
  | fixedArrival
  | jobArrTime
  | minArr
  | maxArr
  deriving DecidableEq, Repr

namespace ValueFlag

/-- How the option is written. -/
def text : ValueFlag → String
  | num => "-num"
  | q => "-q"
  | papersLower => "-papers_lower"
  | papersUpper => "-papers_upper"
  | pCap => "-p_cap"
  | s => "-s"
  | ref => "-ref"
  | consumers => "-consumers"
  | autoScale => "-auto_scale"
  | fixedArrival => "-fixed_arrival"
  | jobArrTime => "-job_arr_time"
  | minArr => "-min_arr"
  | maxArr => "-max_arr"

lemma text_ne_help (f : ValueFlag) : f.text ≠ "-help" := by cases f <;> decide

variable (atoi : String → Int) (atof : String → Double)

/-- The check of the value. -/
def check : ValueFlag → String → Except ArgsError Unit
  | num, v => isPositiveInteger "num_jobs" (atoi v)
  | q, v => if atoi v ≠ -1 then isPositiveInteger "queue_capacity" (atoi v) else .ok ()
  | papersLower, v =>
      isInRangeInt "papers_required_lower_bound" (atoi v) configRangeMinPapersMin
        configRangeMinPapersMax
  | papersUpper, v =>
      isInRangeInt "papers_required_upper_bound" (atoi v) configRangeMaxPapersMin
        configRangeMaxPapersMax
  | pCap, v =>
      isInRangeInt "printer_paper_capacity" (atoi v) configRangePaperCapacityMin
        configRangePaperCapacityMax
  | s, v =>
      isInRangeDouble "service_rate" (atof v) configRangePrintRateMin configRangePrintRateMax
  | ref, v =>
      isInRangeDouble "refill_rate" (atof v) configRangeRefillRateMin configRangeRefillRateMax
  | consumers, v =>
      isInRangeInt "consumer_count" (atoi v) configRangeConsumerCountMin
        configRangeConsumerCountMax
  | autoScale, v => isZeroOrOne "auto_scaling" (atoi v)
  | fixedArrival, v => isZeroOrOne "fixed_arrival" (atoi v)
  | jobArrTime, v =>
      isInRangeInt "job_arrival_time" (atoi v) configRangeJobArrivalTimeMin
        configRangeJobArrivalTimeMax
  | minArr, v =>
      isInRangeInt "min_arrival_time" (atoi v) configRangeMinArrivalTimeMin
        configRangeMinArrivalTimeMax
  | maxArr, v =>
      isInRangeInt "max_arrival_time" (atoi v) configRangeMaxArrivalTimeMin
        configRangeMaxArrivalTimeMax

/-- What is stored of a value that passes. -/
def store : ValueFlag → String → SimulationParameters → SimulationParameters
  | num, v, p => { p with numJobs := atoi v }
  | q, v, p => { p with queueCapacity := atoi v }
  | papersLower, v, p => { p with papersRequiredLowerBound := atoi v }
  | papersUpper, v, p => { p with papersRequiredUpperBound := atoi v }
  | pCap, v, p => { p with printerPaperCapacity := atoi v }
  | s, v, p => { p with printingRate := atof v }
  | ref, v, p => { p with refillRate := atof v }
  | consumers, v, p => { p with consumerCount := atoi v }
  | autoScale, v, p => { p with autoScaling := atoi v }
  | fixedArrival, v, p => { p with fixedArrival := atoi v }
  | jobArrTime, v, p => { p with jobArrivalTimeUs := .ofInt (atoi v * 1000) }
  | minArr, v, p => { p with minArrivalTime := atoi v }
  | maxArr, v, p => { p with maxArrivalTime := atoi v }

end ValueFlag

section

variable {atoi : String → Int} {atof : String → Double}

lemma bind_pure_eq_map {α : Type} (x : Except ArgsError Unit) (a : α) :
    (do x; pure a) = x.map fun _ => a := by
  cases x <;> rfl

/-- **An option with a value is a check and a store.** -/
theorem valueOption_text (atoi : String → Int) (atof : String → Double) (f : ValueFlag)
    (p : SimulationParameters) :
    ∃ set, valueOption atoi atof p f.text = some set ∧
      ∀ v, set v = (f.check atoi atof v).map fun _ => f.store atoi atof v p := by
  cases f with
  | q =>
      refine ⟨_, rfl, fun v => ?_⟩
      by_cases hv : atoi v = -1
      · simp [ValueFlag.check, ValueFlag.store, hv, Except.map, pure, Except.pure]
      · simp only [ValueFlag.check, ValueFlag.store, hv, ne_eq, not_false_eq_true, if_true]
        exact bind_pure_eq_map _ _
  | _ => exact ⟨_, rfl, fun v => bind_pure_eq_map _ _⟩

/-- The option with a value that is written so. -/
def valueFlag (arg : String) : Option ValueFlag :=
  [.num, .q, .papersLower, .papersUpper, .pCap, .s, .ref, .consumers, .autoScale, .fixedArrival,
    .jobArrTime, .minArr, .maxArr].find? fun f => f.text = arg

@[simp] lemma valueFlag_text (f : ValueFlag) : valueFlag f.text = some f := by
  cases f <;> decide

lemma eq_text_of_valueFlag {arg : String} {f : ValueFlag} (h : valueFlag arg = some f) :
    arg = f.text := by
  have htext := List.find?_some h
  simp only [decide_eq_true_eq] at htext
  exact htext.symm

/-- There are no other options with a value. -/
lemma valueOption_of_valueFlag {p : SimulationParameters} {arg : String}
    (h : valueFlag arg = none) : valueOption atoi atof p arg = none := by
  have hne : ∀ f : ValueFlag, arg ≠ f.text := by
    rintro f rfl
    rw [valueFlag_text] at h
    cases h
  unfold valueOption
  split
  · exact absurd rfl (hne .num)
  · exact absurd rfl (hne .q)
  · exact absurd rfl (hne .papersLower)
  · exact absurd rfl (hne .papersUpper)
  · exact absurd rfl (hne .pCap)
  · exact absurd rfl (hne .s)
  · exact absurd rfl (hne .ref)
  · exact absurd rfl (hne .consumers)
  · exact absurd rfl (hne .autoScale)
  · exact absurd rfl (hne .fixedArrival)
  · exact absurd rfl (hne .jobArrTime)
  · exact absurd rfl (hne .minArr)
  · exact absurd rfl (hne .maxArr)
  · rfl

end

/-! ## Command lines -/

/-- An option, with its value if it takes one. -/
inductive CliOption where
  | value (f : ValueFlag) (v : String)
  | debug
  | help
  deriving DecidableEq, Repr

namespace CliOption

/-- How the option is written. -/
def name : CliOption → String
  | value f _ => f.text
  | debug => "-debug"
  | help => "-help"

/-- The arguments it consists of. -/
def argv : CliOption → List String
  | value f v => [f.text, v]
  | debug => ["-debug"]
  | help => ["-help"]

variable (atoi : String → Int) (atof : String → Double)

/-- How `process_args` ends at this option, if it does. -/
def complaint : CliOption → Option ArgsResult
  | value f v =>
      match f.check atoi atof v with
      | .ok () => none
      | .error e => some (.rejected e)
  | debug => none
  | help => some .help

/-- What one round of the loop does to the parameters and to `g_debug`, when it goes on. -/
def apply : CliOption → SimulationParameters × Bool → SimulationParameters × Bool
  | value f v, (p, b) => (swapBounds (f.store atoi atof v p), b)
  | debug, (p, _) => (swapBounds p, true)
  | help, c => c

end CliOption

/-- The options of a command line, and the arguments from the first one that is not an option with
all it needs. -/
def splitArgs : List String → List CliOption × List String
  | [] => ([], [])
  | arg :: rest =>
      if arg = "-help" then (.help :: (splitArgs rest).1, (splitArgs rest).2)
      else match valueFlag arg, rest with
        | some f, v :: rest => (.value f v :: (splitArgs rest).1, (splitArgs rest).2)
        | some _, [] => ([], [arg])
        | none, rest =>
            if arg = "-debug" then (.debug :: (splitArgs rest).1, (splitArgs rest).2)
            else ([], arg :: rest)

/-- How `process_args` ends at the arguments that are left. -/
def endOfArgs (c : SimulationParameters × Bool) : List String → ArgsResult
  | [] => .accepted c.1 c.2
  | arg :: _ => if (valueFlag arg).isSome then .nullArgument else .rejected (.unrecognized arg)

section

variable {atoi : String → Int} {atof : String → Double}

variable (p : SimulationParameters) (b : Bool)

/-! The rounds of the loop. -/

lemma processArgs_help (rest : List String) :
    processArgs atoi atof p b ("-help" :: rest) = .help := by
  unfold processArgs
  exact if_pos rfl

lemma processArgs_value (f : ValueFlag) (v : String) (rest : List String) :
    processArgs atoi atof p b (f.text :: v :: rest) =
      match f.check atoi atof v with
      | .ok () => processArgs atoi atof (swapBounds (f.store atoi atof v p)) b rest
      | .error e => .rejected e := by
  obtain ⟨set, hset, hv⟩ := valueOption_text atoi atof f p
  conv_lhs => unfold processArgs
  simp only [if_neg f.text_ne_help, hset, hv]
  cases f.check atoi atof v <;> rfl

lemma processArgs_missing (f : ValueFlag) :
    processArgs atoi atof p b [f.text] = .nullArgument := by
  obtain ⟨set, hset, -⟩ := valueOption_text atoi atof f p
  unfold processArgs
  simp only [if_neg f.text_ne_help, hset]

lemma processArgs_debug (rest : List String) :
    processArgs atoi atof p b ("-debug" :: rest) =
      processArgs atoi atof (swapBounds p) true rest := by
  conv_lhs => unfold processArgs
  simp [valueOption_of_valueFlag (show valueFlag "-debug" = none by decide)]

lemma processArgs_unrecognized {arg : String} (rest : List String) (hflag : valueFlag arg = none)
    (hhelp : arg ≠ "-help") (hdebug : arg ≠ "-debug") :
    processArgs atoi atof p b (arg :: rest) = .rejected (.unrecognized arg) := by
  unfold processArgs
  simp only [if_neg hhelp, valueOption_of_valueFlag hflag, if_neg hdebug]

/-- **What `process_args` computes**: the first complaint of an option, or else what all of them
store. -/
theorem processArgs_eq (argv : List String) :
    processArgs atoi atof p b argv =
      (((splitArgs argv).1.findSome? (CliOption.complaint atoi atof)).getD
        (endOfArgs ((splitArgs argv).1.foldl (fun c o => o.apply atoi atof c) (p, b))
          (splitArgs argv).2)) := by
  fun_induction splitArgs argv generalizing p b with
  | case1 => rfl
  | case2 rest ih =>
      rw [processArgs_help]
      rfl
  | case3 arg hhelp f v rest hflag ih =>
      obtain rfl := eq_text_of_valueFlag hflag
      rw [processArgs_value]
      simp only [List.findSome?_cons, CliOption.complaint, List.foldl_cons, CliOption.apply]
      cases f.check atoi atof v with
      | error e => rfl
      | ok u => exact ih _ _
  | case4 arg hhelp f hflag =>
      obtain rfl := eq_text_of_valueFlag hflag
      rw [processArgs_missing]
      simp [endOfArgs]
  | case5 rest hhelp hflag ih =>
      rw [processArgs_debug, ih]
      simp only [List.findSome?_cons, CliOption.complaint, List.foldl_cons, CliOption.apply]
  | case6 arg hhelp rest hflag hdebug =>
      rw [processArgs_unrecognized p b rest hflag hhelp hdebug]
      simp [endOfArgs, hflag]

/-- The options and what is left are the command line. -/
theorem splitArgs_append (argv : List String) :
    (splitArgs argv).1.flatMap CliOption.argv ++ (splitArgs argv).2 = argv := by
  fun_induction splitArgs argv with
  | case1 => rfl
  | case2 rest ih => simpa [CliOption.argv] using ih
  | case3 arg hhelp f v rest hflag ih =>
      obtain rfl := eq_text_of_valueFlag hflag
      simpa [CliOption.argv] using ih
  | case4 => rfl
  | case5 rest hhelp hflag ih => simpa [CliOption.argv] using ih
  | case6 => rfl

/-- What is left is nothing, an option without its value, or begins with no option at all. -/
lemma splitArgs_left (argv : List String) :
    (splitArgs argv).2 = [] ∨ (∃ f : ValueFlag, (splitArgs argv).2 = [f.text]) ∨
      ∃ arg rest, (splitArgs argv).2 = arg :: rest ∧ valueFlag arg = none := by
  fun_induction splitArgs argv with
  | case1 => exact .inl rfl
  | case2 rest ih => exact ih
  | case3 arg hhelp f v rest hflag ih => exact ih
  | case4 arg hhelp f hflag => exact .inr (.inl ⟨f, by rw [eq_text_of_valueFlag hflag]⟩)
  | case5 rest hhelp hflag ih => exact ih
  | case6 arg hhelp rest hflag hdebug => exact .inr (.inr ⟨arg, rest, rfl, hflag⟩)

lemma splitArgs_option (o : CliOption) (rest : List String) :
    splitArgs (o.argv ++ rest) = (o :: (splitArgs rest).1, (splitArgs rest).2) := by
  cases o with
  | value f v =>
      show splitArgs (f.text :: v :: rest) = _
      conv_lhs => unfold splitArgs
      simp [f.text_ne_help]
  | debug =>
      show splitArgs ("-debug" :: rest) = _
      conv_lhs => unfold splitArgs
      simp [show valueFlag "-debug" = none by decide]
  | help =>
      show splitArgs ("-help" :: rest) = _
      conv_lhs => unfold splitArgs
      simp

/-- A sequence of options is split into these options. -/
theorem splitArgs_flatMap (opts : List CliOption) (rest : List String) :
    splitArgs (opts.flatMap CliOption.argv ++ rest) =
      (opts ++ (splitArgs rest).1, (splitArgs rest).2) := by
  induction opts with
  | nil => rfl
  | cons o opts ih =>
      rw [List.flatMap_cons, List.append_assoc, splitArgs_option, ih]
      rfl

lemma CliOption.complaint_ne_accepted (o : CliOption) (params : SimulationParameters)
    (debug : Bool) : o.complaint atoi atof ≠ some (.accepted params debug) := by
  cases o with
  | value f v =>
      rw [complaint]
      split <;> simp
  | debug => simp [complaint]
  | help => simp [complaint]

lemma CliOption.complaint_value {f : ValueFlag} {v : String}
    (h : (CliOption.value f v).complaint atoi atof = none) : f.check atoi atof v = .ok () := by
  rw [complaint] at h
  cases hcheck : f.check atoi atof v with
  | ok u => rfl
  | error e => rw [hcheck] at h; cases h

/-- **When `process_args` returns `TRUE`**: every argument belongs to an option, and no option has a
complaint. -/
theorem accepted_iff {p params : SimulationParameters} {b debug : Bool} {argv : List String} :
    processArgs atoi atof p b argv = .accepted params debug ↔
      (splitArgs argv).2 = [] ∧ (∀ o ∈ (splitArgs argv).1, o.complaint atoi atof = none) ∧
        (splitArgs argv).1.foldl (fun c o => o.apply atoi atof c) (p, b) = (params, debug) := by
  rw [processArgs_eq, ← List.findSome?_eq_none_iff]
  cases hfirst : (splitArgs argv).1.findSome? (CliOption.complaint atoi atof) with
  | some r =>
      obtain ⟨o, -, ho⟩ := List.exists_of_findSome?_eq_some hfirst
      simp only [Option.getD_some, reduceCtorEq, false_and, and_false, iff_false]
      rintro rfl
      exact o.complaint_ne_accepted params debug ho
  | none =>
      rw [Option.getD_none]
      cases hleft : (splitArgs argv).2 with
      | nil => simp [endOfArgs, Prod.ext_iff]
      | cons arg rest =>
          simp only [endOfArgs, reduceCtorEq, false_and, iff_false]
          split <;> simp

/-- What every option keeps is kept. -/
lemma foldl_apply {I : SimulationParameters → Prop} {opts : List CliOption}
    (hkeep : ∀ f v p, CliOption.value f v ∈ opts → I p → I (f.store atoi atof v p))
    (hswap : ∀ p, I p → I (swapBounds p)) {p : SimulationParameters} (hp : I p) (b : Bool) :
    I (opts.foldl (fun c o => o.apply atoi atof c) (p, b)).1 := by
  induction opts generalizing p b with
  | nil => exact hp
  | cons o opts ih =>
      have hrest : ∀ f v p, CliOption.value f v ∈ opts → I p → I (f.store atoi atof v p) :=
        fun f v p hmem => hkeep f v p (List.mem_cons_of_mem _ hmem)
      rw [List.foldl_cons]
      cases o with
      | value f v => exact ih hrest (hswap _ (hkeep f v p List.mem_cons_self hp)) b
      | debug => exact ih hrest (hswap p hp) true
      | help => exact ih hrest hp b

end

end Orchestrator
