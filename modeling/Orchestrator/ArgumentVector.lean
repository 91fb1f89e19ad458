import Orchestrator.CommandOptions

/-!
# The argument vector

`process_args` walks over `argv` with an index that it advances in the loop header and again for
the value of an option.  `argv[argc]` is a null pointer.

* `processArgsFrom` — the loop with its index, and the indices of the strings it reads.
* `processArgsFrom_fst` — it computes what `processArgs` says.
* `strings_read_exist` — every string it reads is there, exactly when no option at the end lacks its
  value.
-/

namespace Orchestrator

section

variable (atoi : String → Int) (atof : String → Double) (argv : List String)

/-- The loop of `process_args` from `argv[i]`, with the indices of the strings that it compares or
hands to `atoi` or `atof`. -/
def processArgsFrom (i : ℕ) (p : SimulationParameters) (debug : Bool) : ArgsResult × List ℕ :=
  if h : i < argv.length then
    if argv[i] = "-help" then (.help, [i])
    else match valueOption atoi atof p argv[i] with
      | some set =>
          -- `argv[++i]`
          match argv[i + 1]? with
          | some value =>
              match set value with
              | .ok p =>
                  let r := processArgsFrom (i + 2) (swapBounds p) debug
                  (r.1, i :: (i + 1) :: r.2)
              | .error e => (.rejected e, [i, i + 1])
          | none => (.nullArgument, [i, i + 1])
      | none =>
          if argv[i] = "-debug" then
            let r := processArgsFrom (i + 1) (swapBounds p) true
            (r.1, i :: r.2)
          else (.rejected (.unrecognized argv[i]), [i])
  else (.accepted p debug, [])
termination_by argv.length - i

/-- `process_args`, from `argv[1]`. -/
def processArgv (p : SimulationParameters) (debug : Bool) : ArgsResult × List ℕ :=
  processArgsFrom atoi atof argv 1 p debug

end

variable {atoi : String → Int} {atof : String → Double} {argv : List String}

/-- **The walk with an index** computes what the recursion over the arguments does. -/
theorem processArgsFrom_fst (i : ℕ) (p : SimulationParameters) (debug : Bool) :
    (processArgsFrom atoi atof argv i p debug).1 =
      processArgs atoi atof p debug (argv.drop i) := by
  fun_induction processArgsFrom atoi atof argv i p debug with
  | case1 i p debug h hhelp =>
      rw [List.drop_eq_getElem_cons h, hhelp, processArgs_help]
  | case2 i p debug h hhelp set hset value hvalue p' hv r ih =>
      obtain ⟨hlt, rfl⟩ := List.getElem?_eq_some_iff.mp hvalue
      rw [List.drop_eq_getElem_cons h, List.drop_eq_getElem_cons hlt]
      conv_rhs => unfold processArgs
      simp only [if_neg hhelp, hset, hv]
      exact ih
  | case3 i p debug h hhelp set hset value hvalue e hv =>
      obtain ⟨hlt, rfl⟩ := List.getElem?_eq_some_iff.mp hvalue
      rw [List.drop_eq_getElem_cons h, List.drop_eq_getElem_cons hlt]
      conv_rhs => unfold processArgs
      simp only [if_neg hhelp, hset, hv]
  | case4 i p debug h hhelp set hset hvalue =>
      have hend : argv.drop (i + 1) = [] := List.drop_eq_nil_of_le (by simpa using hvalue)
      rw [List.drop_eq_getElem_cons h, hend]
      conv_rhs => unfold processArgs
      simp only [if_neg hhelp, hset]
  | case5 i p debug h hhelp hset hdebug r ih =>
      rw [List.drop_eq_getElem_cons h, hdebug, processArgs_debug]
      exact ih
  | case6 i p debug h hhelp hset hdebug =>
      rw [List.drop_eq_getElem_cons h]
      conv_rhs => unfold processArgs
      simp only [if_neg hhelp, hset, if_neg hdebug]
  | case7 i p debug h =>
      rw [List.drop_eq_nil_of_le (by omega)]
      rfl

/-- The index only goes up. -/
lemma le_of_mem_reads (i : ℕ) (p : SimulationParameters) (debug : Bool) :
    ∀ j ∈ (processArgsFrom atoi atof argv i p debug).2, i ≤ j := by
  fun_induction processArgsFrom atoi atof argv i p debug with
  | case2 i p debug h hhelp set hset value hvalue p' hv r ih =>
      intro j hj
      rcases List.mem_cons.mp hj with rfl | hj
      · exact le_rfl
      rcases List.mem_cons.mp hj with rfl | hj
      · omega
      · have := ih j hj
        omega
  | case5 i p debug h hhelp hset hdebug r ih =>
      intro j hj
      rcases List.mem_cons.mp hj with rfl | hj
      · exact le_rfl
      · have := ih j hj
        omega
  | _ => simp

/-- Every string the loop reads is there, unless it hands on the null pointer. -/
lemma reads_lt_iff (i : ℕ) (p : SimulationParameters) (debug : Bool) :
    (∀ j ∈ (processArgsFrom atoi atof argv i p debug).2, j < argv.length) ↔
      (processArgsFrom atoi atof argv i p debug).1 ≠ .nullArgument := by
  fun_induction processArgsFrom atoi atof argv i p debug with
  | case1 i p debug h => simp [h]
  | case2 i p debug h hhelp set hset value hvalue p' hv r ih =>
      obtain ⟨hlt, -⟩ := List.getElem?_eq_some_iff.mp hvalue
      rw [← ih]
      simp [h, hlt, r]
  | case3 i p debug h hhelp set hset value hvalue e hv =>
      obtain ⟨hlt, -⟩ := List.getElem?_eq_some_iff.mp hvalue
      simp [h, hlt]
  | case4 i p debug h hhelp set hset hvalue =>
      have hend : argv.length ≤ i + 1 := by simpa using hvalue
      simp [hend]
  | case5 i p debug h hhelp hset hdebug r ih =>
      rw [← ih]
      simp [h, r]
  | case6 i p debug h => simp [h]
  | case7 i p debug h => simp

/-! ## Missing values -/

/-- The last argument is an option that takes a value, and all options before it are accepted. -/
def ValueMissing (atoi : String → Int) (atof : String → Double) (args : List String) : Prop :=
  ∃ (opts : List CliOption) (f : ValueFlag), args = opts.flatMap CliOption.argv ++ [f.text] ∧
    ∀ o ∈ opts, o.complaint atoi atof = none

lemma CliOption.complaint_ne_null (o : CliOption) :
    o.complaint atoi atof ≠ some .nullArgument := by
  cases o with
  | value f v =>
      rw [complaint]
      split <;> simp
  | debug => simp [complaint]
  | help => simp [complaint]

/-- A null pointer is handed on only for a value that is missing. -/
lemma nullArgument_iff (p : SimulationParameters) (debug : Bool) (args : List String) :
    processArgs atoi atof p debug args = .nullArgument ↔ ValueMissing atoi atof args := by
  constructor
  · intro h
    rw [processArgs_eq] at h
    cases hfirst : (splitArgs args).1.findSome? (CliOption.complaint atoi atof) with
    | some r =>
        rw [hfirst] at h
        obtain ⟨o, -, ho⟩ := List.exists_of_findSome?_eq_some hfirst
        rw [Option.getD_some] at h
        rw [h] at ho
        exact absurd ho o.complaint_ne_null
    | none =>
        rw [hfirst, Option.getD_none] at h
        have hall := List.findSome?_eq_none_iff.mp hfirst
        have hargs := splitArgs_append args
        rcases splitArgs_left args with hleft | ⟨f, hleft⟩ | ⟨arg, rest, hleft, hflag⟩
        · rw [hleft] at h
          cases h
        · rw [hleft] at hargs
          exact ⟨_, f, hargs.symm, hall⟩
        · rw [hleft, endOfArgs, hflag] at h
          cases h
  · rintro ⟨opts, f, rfl, hall⟩
    have hsplit : splitArgs [f.text] = ([], [f.text]) := by
      unfold splitArgs
      simp [f.text_ne_help]
    have hfirst : opts.findSome? (CliOption.complaint atoi atof) = none :=
      List.findSome?_eq_none_iff.mpr hall
    rw [processArgs_eq, splitArgs_flatMap, hsplit]
    simp [hfirst, endOfArgs]

/-! ## Every string that is read -/

/-- The walk ends with `TRUE`, `FALSE` or the help exit, and reads only strings that are there. -/
structure ReadsSafely (argc : ℕ) (r : ArgsResult × List ℕ) : Prop where
  ends : (∃ params debug, r.1 = .accepted params debug) ∨ (∃ e, r.1 = .rejected e) ∨ r.1 = .help
  reads : ∀ j ∈ r.2, 1 ≤ j ∧ j < argc

/-- **When `process_args` reads only strings that are there.**  For every argument vector, every
result of `atoi` and `atof` and all start values, it ends with `TRUE`, `FALSE` or the help exit, and
every string it compares or converts is one of `argv[1]` to `argv[argc - 1]`, exactly when the last
argument is not an option without its value, all options before it being accepted. -/
theorem strings_read_exist (atoi : String → Int) (atof : String → Double) (argv : List String)
    (p : SimulationParameters) (debug : Bool) :
    ReadsSafely argv.length (processArgv atoi atof argv p debug) ↔
      ¬ValueMissing atoi atof (argv.drop 1) := by
  rw [← nullArgument_iff p debug, ← processArgsFrom_fst]
  constructor
  · rintro ⟨hends, -⟩ hnull
    rcases hends with ⟨params, debug, hend⟩ | ⟨e, hend⟩ | hend <;>
      · rw [processArgv, hnull] at hend
        cases hend
  · intro hnull
    refine ⟨?_, fun j hj =>
      ⟨le_of_mem_reads 1 p debug j hj, (reads_lt_iff 1 p debug).mpr hnull j hj⟩⟩
    show _ ∨ _ ∨ (processArgsFrom atoi atof argv 1 p debug).1 = _
    cases hresult : (processArgsFrom atoi atof argv 1 p debug).1 with
    | accepted params debug => exact .inl ⟨params, debug, hresult⟩
    | rejected e => exact .inr (.inl ⟨e, hresult⟩)
    | help => exact .inr (.inr rfl)
    | nullArgument => exact absurd hresult hnull

/-- **A value that is not there is read.**  The only argument is `-num`: `atoi` gets `argv[2]`, the
null pointer. -/
theorem missing_value_read :
    processArgv (fun _ => 0) (fun _ => .num 0) ["cli", "-num"] simulationDefaultParamsHighLoad
        false = (.nullArgument, [1, 2]) ∧
      ¬ReadsSafely 2 (processArgv (fun _ => 0) (fun _ => .num 0) ["cli", "-num"]
        simulationDefaultParamsHighLoad false) := by
  have hrun : processArgv (fun _ => 0) (fun _ => .num 0) ["cli", "-num"]
      simulationDefaultParamsHighLoad false = (.nullArgument, [1, 2]) := by
    rw [processArgv, processArgsFrom]
    rfl
  refine ⟨hrun, fun hsafe => ?_⟩
  rw [hrun] at hsafe
  exact absurd (hsafe.reads 2 (by decide)).2 (by decide)

end Orchestrator
