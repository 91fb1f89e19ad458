import Orchestrator.Server
import Orchestrator.PaperFlow
import Mathlib.Tactic.Linarith
import Mathlib.Data.Rat.Cast.Order

/-!
# The parameters of a started run

What the config overrides of a sequence of start commands amount to, and when the run that one of
them starts has parameters it can run with.

* `StartConfig.merge` — two configs one after the other are one config, in which the later wins.
* `Usable` — parameters a run can use.
* `started_run_usable` — the run that is started has them exactly when the values last sent, or
  those of the command line where none was sent, are in range.
-/

namespace Orchestrator

/-! ## Conversions -/

section Truncation

variable {q : ℚ} {n : Int}

/-- Truncation is a floor above zero. -/
lemma le_tdiv_of_pos (hn : 0 < n) : n ≤ q.num.tdiv q.den ↔ (n : ℚ) ≤ q := by
  have hden : (0 : Int) < q.den := by exact_mod_cast q.den_pos
  have hle : (n : ℚ) ≤ q ↔ n * q.den ≤ q.num := by
    rw [Rat.le_iff]
    simp
  rw [hle]
  rcases le_or_gt 0 q.num with hq | hq
  · rw [Int.tdiv_eq_ediv_of_nonneg hq]
    exact Int.le_ediv_iff_mul_le hden
  · have htrunc : q.num.tdiv q.den ≤ 0 := by
      have hneg := Int.tdiv_nonneg (Int.neg_nonneg.mpr hq.le) hden.le
      rw [Int.neg_tdiv] at hneg
      omega
    have hmul : 0 < n * q.den := Int.mul_pos hn hden
    constructor
    · intro h; omega
    · intro h; omega

lemma tdiv_le_of_nonneg (hn : 0 ≤ n) : q.num.tdiv q.den ≤ n ↔ q < n + 1 := by
  have h := le_tdiv_of_pos (q := q) (n := n + 1) (by omega)
  push_cast at h
  rw [← not_le, ← h]
  omega

/-- Truncation is a ceiling below zero. -/
lemma le_tdiv_of_nonpos (hn : n ≤ 0) : n ≤ q.num.tdiv q.den ↔ n - 1 < q := by
  have h := tdiv_le_of_nonneg (q := -q) (n := -n) (by omega)
  rw [Rat.neg_num, Rat.neg_den, Int.neg_tdiv] at h
  have hneg : n ≤ q.num.tdiv q.den ↔ -(q.num.tdiv q.den) ≤ -n := by omega
  rw [hneg, h]
  push_cast
  constructor
  · intro hq; linarith
  · intro hq; linarith

end Truncation

namespace Double

/-- The value is a number in the interval. -/
def In (x : Double) (range : Set ℚ) : Prop := ∃ q ∈ range, x = .num q

variable {x : Double}

lemma toInt_num (q : ℚ) :
    (num q).toInt = if -2147483648 ≤ q.num.tdiv q.den ∧ q.num.tdiv q.den < 2147483648 then
      q.num.tdiv q.den else -2147483648 := rfl

lemma lt_upper {q : ℚ} : q.num.tdiv q.den < 2147483648 ↔ q < 2147483648 := by
  have h := tdiv_le_of_nonneg (q := q) (n := 2147483647) (by omega)
  norm_num at h
  rw [← h]
  omega

/-- The number of jobs is positive. -/
lemma toInt_pos : 0 < x.toInt ↔ x.In (Set.Ico 1 2147483648) := by
  cases x with
  | nan => simp [toInt, In]
  | num q =>
      have hone := le_tdiv_of_pos (q := q) (n := 1) (by omega)
      push_cast at hone
      rw [toInt_num]
      simp only [In, num.injEq, exists_eq_right', Set.mem_Ico, ← hone, ← lt_upper]
      split <;> omega

/-- The number of printers fits the pool. -/
lemma toInt_between_one_five : 1 ≤ x.toInt ∧ x.toInt ≤ 5 ↔ x.In (Set.Ico 1 6) := by
  cases x with
  | nan => simp [toInt, In]
  | num q =>
      have hone := le_tdiv_of_pos (q := q) (n := 1) (by omega)
      have hfive := tdiv_le_of_nonneg (q := q) (n := 5) (by omega)
      norm_num at hone hfive
      rw [toInt_num]
      simp only [In, num.injEq, exists_eq_right', Set.mem_Ico, ← hone, ← hfive]
      split <;> omega

/-- The time between two arrivals is not negative. -/
lemma toInt_nonneg : 0 ≤ x.toInt ↔ x.In (Set.Ioo (-1) 2147483648) := by
  cases x with
  | nan => simp [toInt, In]
  | num q =>
      have hzero := le_tdiv_of_nonpos (q := q) (n := 0) le_rfl
      norm_num at hzero
      rw [toInt_num]
      simp only [In, num.injEq, exists_eq_right', Set.mem_Ioo, ← hzero, ← lt_upper]
      split <;> omega

/-- The capacity is the mark for none, or positive. -/
lemma toInt_capacity :
    x.toInt = -1 ∨ 0 < x.toInt ↔ x.In (Set.Ioc (-2) (-1) ∪ Set.Ico 1 2147483648) := by
  cases x with
  | nan => simp [toInt, In]
  | num q =>
      have hone := le_tdiv_of_pos (q := q) (n := 1) (by omega)
      have hminus := le_tdiv_of_nonpos (q := q) (n := -1) (by omega)
      have hzero := le_tdiv_of_nonpos (q := q) (n := 0) le_rfl
      norm_num at hone hminus hzero
      rw [toInt_num]
      simp only [In, num.injEq, exists_eq_right', Set.mem_union, Set.mem_Ioc, Set.mem_Ico, ← hone,
        ← hminus, ← lt_upper, ← not_lt (a := (-1 : ℚ)), ← hzero]
      split <;> omega

lemma zero_lt : (num 0).lt x = true ↔ x.In (Set.Ioi 0) := by
  cases x with
  | nan => simp [lt, In]
  | num q => simp [lt, In]

/-- A quotient by a positive number is a number. -/
lemma div_ne_nan {y : Double} (hy : (num 0).lt y = true) (i : Int) : (ofInt i).div y ≠ nan := by
  cases y with
  | nan => cases hy
  | num q =>
      have hq : q ≠ 0 := by
        rintro rfl
        simp [lt] at hy
      simp [ofInt, div, hq]

end Double

/-! ## Two configs are one -/

namespace StartConfig

/-- The config has a positive job count, so that its overrides apply. -/
def applies (config : StartConfig) : Bool := (Double.num 0).lt (config.jobCount.getD (.num 0))

/-- The overrides of a config. -/
def override (config : StartConfig) (p : SimulationParameters) : SimulationParameters :=
  { p with
    numJobs := (config.jobCount.map Double.toInt).getD p.numJobs
    printingRate := config.printRate.getD p.printingRate
    consumerCount := (config.consumerCount.map Double.toInt).getD p.consumerCount
    refillRate := config.refillRate.getD p.refillRate
    printerPaperCapacity := (config.paperCapacity.map Double.toInt).getD p.printerPaperCapacity
    jobArrivalTimeUs :=
      (config.jobArrivalTime.map fun x => Double.ofInt x.toInt).getD p.jobArrivalTimeUs
    queueCapacity := (config.maxQueue.map Double.toInt).getD p.queueCapacity
    papersRequiredLowerBound := (config.minPapers.map Double.toInt).getD p.papersRequiredLowerBound
    papersRequiredUpperBound := (config.maxPapers.map Double.toInt).getD p.papersRequiredUpperBound
    autoScaling := (config.autoScaling.map fun b => if b then 1 else 0).getD p.autoScaling }

/-- A config after another; each value of the later one wins. -/
def merge (earlier later : StartConfig) : StartConfig where
  jobCount := later.jobCount <|> earlier.jobCount
  printRate := later.printRate <|> earlier.printRate
  consumerCount := later.consumerCount <|> earlier.consumerCount
  refillRate := later.refillRate <|> earlier.refillRate
  paperCapacity := later.paperCapacity <|> earlier.paperCapacity
  jobArrivalTime := later.jobArrivalTime <|> earlier.jobArrivalTime
  maxQueue := later.maxQueue <|> earlier.maxQueue
  minPapers := later.minPapers <|> earlier.minPapers
  maxPapers := later.maxPapers <|> earlier.maxPapers
  autoScaling := later.autoScaling <|> earlier.autoScaling

/-- The values that the configs with a positive job count have sent last. -/
def sent (configs : List StartConfig) : StartConfig :=
  configs.foldl (fun acc config => if config.applies then acc.merge config else acc) {}

end StartConfig

open StartConfig

lemma applyConfig_eq (config : StartConfig) (p : SimulationParameters) :
    applyConfig config p = if config.applies then config.override p else p := by
  cases hcount : config.jobCount with
  | none => simp [applyConfig, applies, hcount, Double.lt]
  | some x => simp [applyConfig, applies, override, hcount]

/-- A value given later wins. -/
lemma getD_orElse {α β : Type} (later earlier : Option α) (f : α → β) (b : β) :
    (later.map f).getD ((earlier.map f).getD b) = ((later <|> earlier).map f).getD b := by
  cases later with
  | none => simp
  | some x => simp

/-- **Two overrides are the override of the merged configs.** -/
theorem override_override (earlier later : StartConfig) (p : SimulationParameters) :
    later.override (earlier.override p) = (earlier.merge later).override p := by
  have hplain : ∀ (x y : Option Double) (d : Double), x.getD (y.getD d) = (x <|> y).getD d := by
    intro x y d
    cases x with
    | none => simp
    | some x => simp
  simp only [override, merge, getD_orElse]
  rw [hplain later.printRate, hplain later.refillRate]

/-- The parameters after a sequence of start commands. -/
def inForce (configs : List StartConfig) (p : SimulationParameters) : SimulationParameters :=
  configs.foldl (fun p config => applyConfig config p) p

/-- **The parameters in force are the values last sent.** -/
theorem inForce_eq (configs : List StartConfig) (p : SimulationParameters) :
    inForce configs p = (sent configs).override p := by
  have hfrom : ∀ acc : StartConfig, inForce configs (acc.override p) =
      (configs.foldl (fun acc config => if config.applies then acc.merge config else acc)
        acc).override p := by
    induction configs with
    | nil => intro acc; rfl
    | cons config configs ih =>
        intro acc
        show inForce configs (applyConfig config (acc.override p)) = _
        rw [applyConfig_eq, List.foldl_cons]
        split
        · rw [override_override]
          exact ih _
        · exact ih _
  exact hfrom {}

/-! ## Usable parameters -/

/-- Parameters that a run can use. -/
structure Usable (p : SimulationParameters) : Prop where
  numJobs : 0 < p.numJobs
  consumerCount : 1 ≤ p.consumerCount ∧ p.consumerCount ≤ maxPrinters
  papers : 0 < p.papersRequiredLowerBound ∧
    p.papersRequiredLowerBound ≤ p.papersRequiredUpperBound ∧
    p.papersRequiredUpperBound ≤ p.printerPaperCapacity
  printingRate : (Double.num 0).lt p.printingRate = true
  refillRate : (Double.num 0).lt p.refillRate = true
  jobArrivalTimeUs : (Double.num 0).le p.jobArrivalTimeUs = true
  queueCapacity : p.queueCapacity = -1 ∨ 0 < p.queueCapacity

/-- What the threads compute from the parameters is defined, which is to say that nothing is divided
by zero, and a job fits into a printer's tray. -/
structure WellDefined (p : SimulationParameters) : Prop where
  remainder : p.papersRequiredUpperBound - p.papersRequiredLowerBound + 1 ≠ 0
  bounds : ∀ rand,
    p.papersRequiredLowerBound ≤
        randomBetween rand p.papersRequiredLowerBound p.papersRequiredUpperBound ∧
      randomBetween rand p.papersRequiredLowerBound p.papersRequiredUpperBound ≤
        p.papersRequiredUpperBound
  serviceTime : ∀ papers, (Double.ofInt papers).div p.printingRate ≠ .nan
  refillTime : ∀ papers, (Double.ofInt papers).div p.refillRate ≠ .nan
  fits : ∀ rand, randomBetween rand p.papersRequiredLowerBound p.papersRequiredUpperBound ≤
    p.printerPaperCapacity

/-- **Usable parameters keep the threads' arithmetic defined.** -/
theorem Usable.wellDefined {p : SimulationParameters} (h : Usable p) : WellDefined p := by
  obtain ⟨_, hle, hcap⟩ := h.papers
  exact
    { remainder := by omega
      bounds := fun rand => randomBetween_bounds rand hle
      serviceTime := Double.div_ne_nan h.printingRate
      refillTime := Double.div_ne_nan h.refillRate
      fits := fun rand => (randomBetween_bounds rand hle).2.trans hcap }

/-- A value that was sent is in `range`, or none was and the one of the command line is `good`. -/
def SentIn (value : Option Double) (range : Set ℚ) (good : Prop) : Prop :=
  match value with
  | some x => x.In range
  | none => good

/-- The values last sent, and those of the command line where none was sent, are in range. -/
structure SentInRange (config : StartConfig) (p : SimulationParameters) : Prop where
  jobCount : SentIn config.jobCount (Set.Ico 1 2147483648) (0 < p.numJobs)
  consumerCount : SentIn config.consumerCount (Set.Ico 1 6)
    (1 ≤ p.consumerCount ∧ p.consumerCount ≤ 5)
  printRate : SentIn config.printRate (Set.Ioi 0) ((Double.num 0).lt p.printingRate = true)
  refillRate : SentIn config.refillRate (Set.Ioi 0) ((Double.num 0).lt p.refillRate = true)
  jobArrivalTime : SentIn config.jobArrivalTime (Set.Ioo (-1) 2147483648)
    ((Double.num 0).le p.jobArrivalTimeUs = true)
  maxQueue : SentIn config.maxQueue (Set.Ioc (-2) (-1) ∪ Set.Ico 1 2147483648)
    (p.queueCapacity = -1 ∨ 0 < p.queueCapacity)
  -- the three paper numbers, cut to whole sheets
  papers :
    0 < (config.minPapers.map Double.toInt).getD p.papersRequiredLowerBound ∧
      (config.minPapers.map Double.toInt).getD p.papersRequiredLowerBound ≤
        (config.maxPapers.map Double.toInt).getD p.papersRequiredUpperBound ∧
      (config.maxPapers.map Double.toInt).getD p.papersRequiredUpperBound ≤
        (config.paperCapacity.map Double.toInt).getD p.printerPaperCapacity

/-- A cast of the value that was sent, in terms of the value. -/
lemma sentIn_iff (good : Int → Prop) {range : Set ℚ}
    (hcast : ∀ x : Double, good x.toInt ↔ x.In range) (value : Option Double) (i : Int) :
    good ((value.map Double.toInt).getD i) ↔ SentIn value range (good i) := by
  cases value with
  | none => rfl
  | some x => exact hcast x

/-- **Overridden parameters are usable exactly when the values are in range.** -/
theorem override_usable (config : StartConfig) (p : SimulationParameters) :
    Usable (config.override p) ↔ SentInRange config p := by
  have hjobs := sentIn_iff (fun i => 0 < i) (fun _ => Double.toInt_pos) config.jobCount p.numJobs
  have hconsumers := sentIn_iff (fun i => 1 ≤ i ∧ i ≤ 5) (fun _ => Double.toInt_between_one_five)
    config.consumerCount p.consumerCount
  have hqueue := sentIn_iff (fun i => i = -1 ∨ 0 < i) (fun _ => Double.toInt_capacity)
    config.maxQueue p.queueCapacity
  have hrate : ∀ (value : Option Double) (x : Double),
      (Double.num 0).lt (value.getD x) = true ↔
        SentIn value (Set.Ioi 0) ((Double.num 0).lt x = true) := by
    intro value x
    cases value with
    | none => rfl
    | some y => exact Double.zero_lt
  have harrival : (Double.num 0).le (config.override p).jobArrivalTimeUs = true ↔
      SentIn config.jobArrivalTime (Set.Ioo (-1) 2147483648)
        ((Double.num 0).le p.jobArrivalTimeUs = true) := by
    cases hx : config.jobArrivalTime with
    | none => simp [override, hx, SentIn]
    | some x => simp [override, hx, SentIn, Double.le, Double.ofInt, ← Double.toInt_nonneg]
  constructor
  · intro h
    exact
      { jobCount := hjobs.mp h.numJobs
        consumerCount := hconsumers.mp h.consumerCount
        printRate := (hrate _ _).mp h.printingRate
        refillRate := (hrate _ _).mp h.refillRate
        jobArrivalTime := harrival.mp h.jobArrivalTimeUs
        maxQueue := hqueue.mp h.queueCapacity
        papers := h.papers }
  · intro h
    exact
      { numJobs := hjobs.mpr h.jobCount
        consumerCount := hconsumers.mpr h.consumerCount
        papers := h.papers
        printingRate := (hrate _ _).mpr h.printRate
        refillRate := (hrate _ _).mpr h.refillRate
        jobArrivalTimeUs := harrival.mpr h.jobArrivalTime
        queueCapacity := hqueue.mpr h.maxQueue }

/-! ## Started runs -/

/-- The configs of the start commands among some steps. -/
def startConfigs (as : List ServerAction) : List StartConfig :=
  as.filterMap fun
    | .start config => some config
    | _ => none

/-- A start command changes the parameters in the same way whether or not it starts a run. -/
lemma Server.step_params {srv srv' : Server} {a : ServerAction} (h : srv.step a = some srv') :
    srv'.params = inForce (startConfigs [a]) srv.params := by
  cases a with
  | run a =>
      obtain ⟨sys, _, rfl⟩ := Option.map_eq_some_iff.mp h
      rfl
  | start config =>
      simp only [Server.step] at h
      split at h
      · split at h
        · obtain rfl := Option.some.inj h; rfl
        · obtain rfl := Option.some.inj h; rfl
      · cases h
  | clearStats =>
      simp only [Server.step] at h
      split at h
      · obtain rfl := Option.some.inj h; rfl
      · cases h
  | finish =>
      simp only [Server.step] at h
      split at h
      · obtain rfl := Option.some.inj h; rfl
      · cases h

/-- The parameters after any history of the server. -/
lemma Server.run_params {srv srv' : Server} {as : List ServerAction} (h : srv.run as = some srv') :
    srv'.params = inForce (startConfigs as) srv.params := by
  induction as generalizing srv with
  | nil =>
      obtain rfl : srv = srv' := by simpa [Server.run] using h
      rfl
  | cons a as ih =>
      obtain ⟨srv₁, hs, hrest⟩ : ∃ srv₁, srv.step a = some srv₁ ∧ srv₁.run as = some srv' := by
        simpa [Server.run, Option.bind_eq_some_iff] using h
      have hcons : startConfigs (a :: as) = startConfigs [a] ++ startConfigs as := by
        simp only [startConfigs, ← List.filterMap_append, List.singleton_append]
      rw [ih hrest, Server.step_params hs, hcons, inForce, inForce, inForce, List.foldl_append]

/-- **When a started run has usable parameters.** After any history of the server, a start command
that starts a run starts it with usable parameters, and with all that follows from them, exactly
when the values last sent with a positive job count, or those of the command line where none was
sent, are in range.  These are the parameters in force at the start, and what follows from them
holds until another start command changes them. -/
theorem started_run_usable {params : SimulationParameters} {as : List ServerAction}
    {srv srv' : Server} {config : StartConfig} (hrun : (initContext params).run as = some srv)
    (hidle : srv.isRunning = false) (hstart : srv.step (.start config) = some srv') :
    srv'.isRunning = true ∧
      (Usable srv'.params ∧ WellDefined srv'.params ↔
        SentInRange (sent (startConfigs as ++ [config])) params) := by
  have hrunning : srv'.isRunning = true := by
    simp only [Server.step, hidle] at hstart
    split at hstart
    · obtain rfl := Option.some.inj hstart; rfl
    · cases hstart
  have hparams : srv'.params = (sent (startConfigs as ++ [config])).override params := by
    rw [← inForce_eq, Server.step_params hstart, Server.run_params hrun, inForce, inForce, inForce,
      List.foldl_append]
    rfl
  refine ⟨hrunning, ?_⟩
  rw [hparams, ← override_usable]
  constructor
  · intro h; exact h.1
  · intro h; exact ⟨h, h.wellDefined⟩

/-- A config that names the jobs, the printers and the least number of sheets. -/
def fiveJobs : StartConfig where
  jobCount := some (.num 5)
  consumerCount := some (.num 3)
  minPapers := some (.num 8)

/-- A server that was only told the number of jobs, printers and sheets starts a usable run. -/
theorem started_run_usable_at_once :
    ∃ srv', (initContext simulationDefaultParamsHighLoad).step (.start fiveJobs) = some srv' ∧
      srv'.isRunning = true ∧ Usable srv'.params ∧ WellDefined srv'.params := by
  have hstart : ∃ srv', (initContext simulationDefaultParamsHighLoad).step (.start fiveJobs) =
      some srv' := ⟨_, rfl⟩
  obtain ⟨srv', hs⟩ := hstart
  have hrun : (initContext simulationDefaultParamsHighLoad).run [] =
      some (initContext simulationDefaultParamsHighLoad) := rfl
  obtain ⟨hrunning, husable⟩ := started_run_usable hrun rfl hs
  refine ⟨srv', hs, hrunning, husable.mpr ?_⟩
  have hrates : (Double.num 0).lt (.num 5) = true ∧ (Double.num 0).lt (.num 25) = true ∧
      (Double.num 0).le (.num 200000) = true := by
    simp [Double.lt, Double.le]
  exact
    { jobCount := ⟨5, by norm_num, rfl⟩
      consumerCount := ⟨3, by norm_num, rfl⟩
      printRate := hrates.1
      refillRate := hrates.2.1
      jobArrivalTime := hrates.2.2
      maxQueue := .inl rfl
      papers := by decide +kernel }

/-- A config whose bounds on the sheets of a job leave no number between them. -/
def crossedBounds : StartConfig where
  jobCount := some (.num 5)
  minPapers := some (.num 10)
  maxPapers := some (.num 9)

/-- **A start command can start an unusable run.**  Its receiver takes a remainder by zero. -/
theorem started_run_unusable :
    ∃ srv', (initContext simulationDefaultParamsHighLoad).step (.start crossedBounds) = some srv' ∧
      srv'.isRunning = true ∧ ¬Usable srv'.params ∧
        srv'.params.papersRequiredUpperBound - srv'.params.papersRequiredLowerBound + 1 = 0 := by
  refine ⟨_, rfl, rfl, fun h => ?_, by decide +kernel⟩
  have hzero :
      (applyConfig crossedBounds simulationDefaultParamsHighLoad).papersRequiredUpperBound -
        (applyConfig crossedBounds simulationDefaultParamsHighLoad).papersRequiredLowerBound + 1 =
        0 := by
    decide +kernel
  exact h.wellDefined.remainder hzero

end Orchestrator
