import Orchestrator.ReportFields
import Orchestrator.StatisticsBuffer
import Mathlib.Tactic.IntervalCases

/-!
# The report of the statistics

`publish_statistics` sends what `write_statistics_to_buffer` has printed into 4096 bytes.  With what
`printf` writes for `%.3g` and `%.0f`, the report is always complete, and the server's own JSON
reader finds every figure in it.

* `publishStatistics` — the frame.
* `statisticsDoc` — the report as a JSON document.
* `statistics_published` — every report is complete and read back.
-/

namespace Orchestrator

open Json Printing

/-! ## The formats -/

/-- What `printf` writes with `%.3g`. -/
def generalText : Double → List Char
  | .num q => (Numeral.general 2 q).text
  | .nan => "nan".toList

/-- What `printf` writes with `%.pf`. -/
def fixedText (p : ℕ) : Double → List Char
  | .num q => (Numeral.fixed p q).text
  | .nan => "nan".toList

lemma nul_notMem_numeral (n : Numeral) : nul ∉ n.text :=
  fun h => absurd (isPlain_numeral n nul h) (by decide)

lemma nul_notMem_generalText (x : Double) : nul ∉ generalText x := by
  cases x with
  | nan => exact (by decide : nul ∉ "nan".toList)
  | num q => exact nul_notMem_numeral _

lemma nul_notMem_fixedText (p : ℕ) (x : Double) : nul ∉ fixedText p x := by
  cases x with
  | nan => exact (by decide : nul ∉ "nan".toList)
  | num q => exact nul_notMem_numeral _

/-- The formats of the C library, with a square root. -/
def printfLibrary (sqrt : Double → Double) : CLibrary where
  general := ⟨generalText, nul_notMem_generalText⟩
  fixed := ⟨fixedText 0, nul_notMem_fixedText 0⟩
  sqrt := sqrt

/-- `publish_statistics`: the frame, if one is sent. -/
def publishStatistics (lib : CLibrary) (stats : SimulationStatistics) (mem : ℕ → Char) :
    Option (Option (List Char)) := do
  let (n, w) ← writeStatisticsToBuffer lib stats mem 4096
  some (if 0 < n then some (cString 4096 w.mem) else none)

/-! ## The fields -/

variable (sqrt : Double → Double) (stats : SimulationStatistics)

/-- The fields of the first call. -/
def summaryFields : List (String × FieldValue) :=
  [("simulation_duration_sec",
      .general ((Double.ofNat stats.simulationDurationUs.toNat).div (.num 1000000))),
    ("total_jobs_arrived", .fixed 0 (.ofNat stats.totalJobsArrived)),
    ("total_jobs_served", .fixed 0 (.ofNat stats.totalJobsServed)),
    ("total_jobs_dropped", .fixed 0 (.ofNat stats.totalJobsDropped)),
    ("total_jobs_removed", .fixed 0 (.ofNat stats.totalJobsRemoved)),
    ("job_arrival_rate_per_sec", .general (calculateJobArrivalRate stats)),
    ("job_drop_probability", .general (calculateJobDropProbability stats)),
    ("avg_inter_arrival_time_sec", .general (calculateAverageInterArrivalTime stats)),
    ("avg_system_time_sec", .general (calculateAverageSystemTime stats)),
    ("system_time_std_dev_sec", .general (calculateSystemTimeStdDev stats sqrt)),
    ("avg_queue_wait_time_sec", .general (calculateAverageQueueWaitTime stats)),
    ("avg_queue_length", .general (calculateAverageQueueLength stats)),
    ("max_queue_length", .int stats.maxJobQueueLength)]

/-- The fields of the printer in slot `i`. -/
def printerFields (i : Slot) : List (String × FieldValue) :=
  [("id", .int (i + 1 : ℕ)),
    ("jobs_served", .fixed 0 (.ofNat (stats.jobsServedByPrinter i))),
    ("paper_used", .int (stats.printerPaperUsed i)),
    ("avg_service_time_sec", .general (calculateAverageServiceTime stats i)),
    ("utilization", .general (calculateSystemUtilization stats i))]

/-- The fields of the last call. -/
def refillFields : List (String × FieldValue) :=
  [("paper_refill_events", .fixed 0 (.ofNat stats.paperRefillEvents)),
    ("total_refill_service_time_sec",
      .general ((Double.ofNat stats.totalRefillServiceTimeUs.toNat).div (.num 1000000))),
    ("papers_refilled", .int stats.papersRefilled)]

/-- What is printed for a figure. -/
def FieldValue.figure : FieldValue → List Char
  | .int n => decimal n
  | .fixed p x => fixedText p x
  | .general x => generalText x
  | v => v.doc.text

/-- The figures of some fields. -/
def figuresOf (fields : List (String × FieldValue)) : List (String × List Char) :=
  fields.map fun f => (f.1, f.2.figure)

lemma summaryFigures_eq : summaryFigures (printfLibrary sqrt) stats =
    figuresOf (summaryFields sqrt stats) := rfl

lemma printerFigures_eq (i : Slot) : printerFigures (printfLibrary sqrt) stats i =
    figuresOf (printerFields stats i) := rfl

lemma refillFigures_eq : refillFigures (printfLibrary sqrt) stats =
    figuresOf (refillFields stats) := rfl

variable {sqrt stats}

/-- A printable figure is printed as its document. -/
lemma figure_eq {v : FieldValue} (h : v.Printable) : v.figure = v.doc.text := by
  cases v with
  | int n => exact (text_intNumeral n).symm
  | fixed p x =>
      obtain ⟨q, rfl⟩ := h
      rfl
  | general x =>
      obtain ⟨q, rfl, -⟩ := h
      rfl
  | _ => rfl

/-- The figures are printed as the members of an object. -/
lemma membersText_figuresOf {fields : List (String × FieldValue)}
    (h : ∀ f ∈ fields, f.2.Printable) :
    membersText (figuresOf fields) = [','].intercalate ((fieldDocs fields).map fieldText) := by
  rw [membersText, figuresOf, fieldDocs, List.map_map, List.map_map]
  congr 1
  refine List.map_congr_left fun f hf => ?_
  show memberText (f.1, f.2.figure) = fieldText (f.1, f.2.doc)
  rw [figure_eq (h f hf)]
  simp [memberText, fieldText]

/-! ## The document -/

/-- The document of the printer in slot `i`. -/
def printerDoc (stats : SimulationStatistics) (i : Slot) : Doc :=
  .obj [] (.ofList [] [] (fieldDocs (printerFields stats i)))

/-- The members of the data. -/
def statisticsDocs (sqrt : Double → Double) (stats : SimulationStatistics) :
    List (String × Doc) :=
  fieldDocs (summaryFields sqrt stats) ++
    ("printers", .arr [] (.ofList ((reportedSlots stats).map (printerDoc stats)))) ::
      fieldDocs (refillFields stats)

/-- The report as a document. -/
def statisticsDoc (sqrt : Double → Double) (stats : SimulationStatistics) : Doc :=
  .obj [] <| .ofList space []
    [("type", .str (piecesOf "statistics".toList)),
      ("data", .obj [] (.ofList [] [] (statisticsDocs sqrt stats)))]

/-- The value can be printed in at most 22 characters. -/
def FieldValue.Reported (v : FieldValue) : Prop := v.Printable ∧ v.figure.length ≤ 22

/-- So can every value of the report. -/
structure AllReported (sqrt : Double → Double) (stats : SimulationStatistics) : Prop where
  summary : ∀ f ∈ summaryFields sqrt stats, f.2.Reported
  printers : ∀ i, ∀ f ∈ printerFields stats i, f.2.Reported
  refills : ∀ f ∈ refillFields stats, f.2.Reported

/-! ### Its text -/

lemma intercalate_append {sep : List Char} {xs ys : List (List Char)} (hx : xs ≠ [])
    (hy : ys ≠ []) :
    sep.intercalate (xs ++ ys) = sep.intercalate xs ++ (sep ++ sep.intercalate ys) := by
  induction xs with
  | nil => exact absurd rfl hx
  | cons x xs ih =>
      cases xs with
      | nil =>
          obtain ⟨y, ys, rfl⟩ := List.exists_cons_of_ne_nil hy
          simp [List.intercalate_cons_cons]
      | cons x' xs =>
          have hrest := ih (List.cons_ne_nil x' xs)
          simp only [List.cons_append] at hrest
          simp [List.intercalate_cons_cons, hrest]

/-- The printers have a comma behind each but the last. -/
lemma flatMap_commas (f : Slot → List Char) : ∀ n ≤ 5, 0 < n →
    ((List.finRange maxPrinters).take n).flatMap
        (fun i : Slot => f i ++ if (i : ℕ) < n - 1 then [','] else []) =
      [','].intercalate (((List.finRange maxPrinters).take n).map f) := by
  intro n hn hpos
  have hslots : List.finRange maxPrinters =
      [⟨0, by decide⟩, ⟨1, by decide⟩, ⟨2, by decide⟩, ⟨3, by decide⟩, ⟨4, by decide⟩] := rfl
  rw [hslots]
  interval_cases n <;> simp [List.intercalate_cons_cons]

lemma plainNames_of {fields : List (String × FieldValue)} (names : List String)
    (hfields : fields.map Prod.fst = names) (hnames : names.all plainName = true) :
    ∀ f ∈ fields, plainName f.1 = true :=
  fun f hf => List.all_eq_true.mp hnames f.1 (hfields ▸ List.mem_map_of_mem hf)

lemma plainName_summary : ∀ f ∈ summaryFields sqrt stats, plainName f.1 = true :=
  plainNames_of ["simulation_duration_sec", "total_jobs_arrived", "total_jobs_served",
    "total_jobs_dropped", "total_jobs_removed", "job_arrival_rate_per_sec",
    "job_drop_probability", "avg_inter_arrival_time_sec", "avg_system_time_sec",
    "system_time_std_dev_sec", "avg_queue_wait_time_sec", "avg_queue_length", "max_queue_length"]
    rfl rfl

lemma plainName_printer (i : Slot) : ∀ f ∈ printerFields stats i, plainName f.1 = true :=
  plainNames_of ["id", "jobs_served", "paper_used", "avg_service_time_sec", "utilization"] rfl rfl

lemma plainName_refill : ∀ f ∈ refillFields stats, plainName f.1 = true :=
  plainNames_of ["paper_refill_events", "total_refill_service_time_sec", "papers_refilled"] rfl rfl

lemma plainName_statistics : ∀ f ∈ statisticsDocs sqrt stats, plainName f.1 = true := by
  intro f hf
  rcases List.mem_append.mp hf with hf | hf
  · obtain ⟨g, hg, rfl⟩ := List.mem_map.mp hf
    exact plainName_summary g hg
  · rcases List.mem_cons.mp hf with rfl | hf
    · exact (rfl : plainName "printers" = true)
    · obtain ⟨g, hg, rfl⟩ := List.mem_map.mp hf
      exact plainName_refill g hg

lemma plainNames_of_plainName {fields : List (String × Doc)}
    (h : ∀ f ∈ fields, plainName f.1 = true) : PlainNames fields :=
  fun f hf => (pathName_of_plainName (h f hf)).2

/-- The text of an object without white space. -/
lemma text_obj_ofList {fields : List (String × Doc)} (h : PlainNames fields) (hne : fields ≠ []) :
    (Doc.obj [] (.ofList [] [] fields)).text =
      '\x7b' :: ([','].intercalate (fields.map fieldText) ++ ['\x7d']) := by
  rw [Doc.text, Members.text_ofList h, if_neg hne]
  simp [Blank.text]

/-- The literal parts of the report around its members. -/
lemma literal_parts (summary printers refills : List Char) :
    statisticsHeader ++ summary ++ [','] ++
        (printersHeader ++ (printers ++ ([']', ','] ++ refills ++ ['\x7d', '\x7d']))) =
      '\x7b' :: '"' :: ("type".toList ++ ('"' :: ':' :: '"' :: ("statistics".toList ++
        ('"' :: ',' :: ' ' :: '"' :: ("data".toList ++ ('"' :: ':' :: '\x7b' ::
          (summary ++ ([','] ++ ('"' :: ("printers".toList ++ '"' :: ':' :: '[' ::
            (printers ++ [']'])) ++ ([','] ++ refills))) ++ ['\x7d', '\x7d']))))))) := by
  simp only [List.append_assoc, List.cons_append, List.nil_append]
  rfl

/-- The text of the members of the data. -/
lemma text_statisticsDocs :
    (Members.ofList [] [] (statisticsDocs sqrt stats)).text =
      [','].intercalate ((fieldDocs (summaryFields sqrt stats)).map fieldText) ++
        ([','] ++ ('"' :: ("printers".toList ++ '"' :: ':' :: '[' ::
          ([','].intercalate ((reportedSlots stats).map fun i => (printerDoc stats i).text) ++
            [']'])) ++ ([','] ++ [','].intercalate ((fieldDocs (refillFields stats)).map
              fieldText)))) := by
  have hitems : fieldText ("printers",
      .arr [] (.ofList ((reportedSlots stats).map (printerDoc stats)))) =
        '"' :: ("printers".toList ++ '"' :: ':' :: '[' ::
          ([','].intercalate ((reportedSlots stats).map fun i => (printerDoc stats i).text) ++
            [']'])) := by
    rw [fieldText, Doc.text, Items.text_ofList, List.map_map]
    rfl
  have hplain := plainNames_of_plainName (@plainName_statistics sqrt stats)
  have hne : statisticsDocs sqrt stats ≠ [] := List.cons_ne_nil _ _
  have hsummary : (fieldDocs (summaryFields sqrt stats)).map fieldText ≠ [] :=
    List.cons_ne_nil _ _
  have hrefill : (fieldDocs (refillFields stats)).map fieldText ≠ [] := List.cons_ne_nil _ _
  have hgap : ',' :: Blank.text [] = [','] := rfl
  rw [Members.text_ofList hplain, if_neg hne, statisticsDocs, List.map_append, List.map_cons,
    hitems, hgap, intercalate_append hsummary (List.cons_ne_nil _ _),
    List.intercalate_cons_of_ne_nil hrefill]
  simp only [Blank.text, List.map_nil, List.nil_append, List.append_assoc]

/-- **The calls print the text of the document.** -/
theorem flatten_statisticsTexts (h : AllReported sqrt stats)
    (hprinters : stats.maxPrintersUsed ≤ maxPrinters) :
    ∃ texts, statisticsTexts (printfLibrary sqrt) stats = some texts ∧
      texts.flatten = (statisticsDoc sqrt stats).text := by
  have hslots := mapM_slotOfIndex _ (printersToReport_le hprinters)
  have hsummary := membersText_figuresOf fun f hf => (h.summary f hf).1
  have hrefill := membersText_figuresOf fun f hf => (h.refills f hf).1
  have hprinter : ∀ i, printerText (printfLibrary sqrt) stats (printersToReport stats) i =
      (printerDoc stats i).text ++
        if (i : ℕ) < printersToReport stats - 1 then [','] else [] := by
    intro i
    have hmembers := membersText_figuresOf fun f hf => (h.printers i f hf).1
    have hplain := plainNames_fieldDocs (@plainName_printer stats i)
    rw [printerText, printerFigures_eq, hmembers, printerDoc,
      text_obj_ofList hplain (List.cons_ne_nil _ _)]
    simp only [List.cons_append, List.append_assoc]
  refine ⟨summaryText (printfLibrary sqrt) stats :: printersHeader ::
    ((reportedSlots stats).map (printerText (printfLibrary sqrt) stats (printersToReport stats)) ++
      [refillText (printfLibrary sqrt) stats]), ?_, ?_⟩
  · rw [statisticsTexts, hslots]
    rfl
  · have hcommas := flatMap_commas (fun i => (printerDoc stats i).text) _
      (printersToReport_le hprinters) (printersToReport_pos stats)
    have hrow : ((reportedSlots stats).map
        (printerText (printfLibrary sqrt) stats (printersToReport stats))).flatten =
          [','].intercalate ((reportedSlots stats).map fun i => (printerDoc stats i).text) := by
      rw [reportedSlots, ← hcommas, ← List.flatMap_def]
      exact List.flatMap_congr fun i _ => hprinter i
    have htype : piecesText (piecesOf "type".toList) = "type".toList :=
      piecesText_piecesOf (List.all_eq_true.mp rfl)
    have hstatistics : piecesText (piecesOf "statistics".toList) = "statistics".toList :=
      piecesText_piecesOf (List.all_eq_true.mp rfl)
    have hdata : piecesText (piecesOf "data".toList) = "data".toList :=
      piecesText_piecesOf (List.all_eq_true.mp rfl)
    rw [List.flatten_cons, List.flatten_cons, List.flatten_append, hrow, List.flatten_singleton,
      summaryText, refillText, summaryFigures_eq, refillFigures_eq, hsummary, hrefill,
      literal_parts]
    show _ = (Doc.obj [] (.cons [] (piecesOf "type".toList) [] [] (.str _) []
      (.cons space (piecesOf "data".toList) [] [] (.obj [] _) [] .nil))).text
    rw [text_typed, htype, hstatistics, hdata, text_statisticsDocs]

/-! ## The figures -/

/-- A count that a `double` holds. -/
lemma reported_count {n : ℕ} (h : n ≤ 2 ^ 53) : (FieldValue.fixed 0 (.ofNat n)).Reported := by
  refine ⟨⟨n, rfl⟩, ?_⟩
  have hle : n ≤ 10 ^ 20 - 1 := by omega
  have hwidth : |(n : ℚ)| * 10 ^ 0 ≤ ((10 ^ (20 + 0) - 1 : ℕ) : ℚ) := by
    rw [pow_zero, mul_one, abs_of_nonneg (Nat.cast_nonneg n)]
    exact Nat.cast_le.mpr hle
  exact Numeral.length_fixed_le (by decide) hwidth

/-- An `int` or an `unsigned`. -/
lemma reported_int {n : Int} (h : n.natAbs < 2 ^ 32) : (FieldValue.int n).Reported := by
  have hlt : n.natAbs < 10 ^ 10 := by omega
  exact ⟨trivial, (length_decimal_le (by decide) hlt).trans (by decide)⟩

lemma reported_general {x : Double} {q : ℚ} (hx : x = .num q) (hq : Within 999 q) :
    (FieldValue.general x).Reported := by
  subst hx
  exact ⟨⟨q, rfl, hq⟩, (Numeral.length_general_le hq).trans (by decide)⟩

/-- A quotient of two counts. -/
lemma reported_ratio {x : Double} {a b : ℕ} (hx : x = .num ((a : ℚ) / b)) (ha : a < 10 ^ 40)
    (hb : b < 10 ^ 40) : (FieldValue.general x).Reported :=
  reported_general hx ((within_ratio ha hb).mono (by decide))

lemma reported_zero : (FieldValue.general (.num 0)).Reported :=
  reported_general rfl (.inl rfl)

/-- Seconds from microseconds. -/
lemma reported_seconds (us : ULong) :
    (FieldValue.general ((Double.ofNat us.toNat).div (.num 1000000))).Reported := by
  have hus := us.toNat_lt
  refine @reported_ratio _ us.toNat 1000000 ?_ (by omega) (by decide)
  rw [Double.ofNat, Double.div_num (by norm_num)]
  norm_num

/-- The mean of `n` times. -/
lemma reported_mean (us : ULong) {n : ℕ} (hn : n ≠ 0) (hle : n ≤ 2 ^ 53) :
    (FieldValue.general (((Double.ofNat us.toNat).div (.num 1000000)).div
      (.ofNat n))).Reported := by
  have hus := us.toNat_lt
  have hcast : (n : ℚ) ≠ 0 := Nat.cast_ne_zero.mpr hn
  refine @reported_ratio _ us.toNat (1000000 * n) ?_ (by omega) (by omega)
  rw [Double.ofNat, Double.ofNat, Double.div_num (by norm_num), Double.div_num hcast, div_div]
  push_cast
  rfl

/-- A quotient by the duration. -/
lemma reported_perDuration (us : ULong) {duration : ULong} (h : duration ≠ 0) :
    (FieldValue.general ((Double.ofNat us.toNat).div (.ofNat duration.toNat))).Reported := by
  have hus := us.toNat_lt
  have hduration := duration.toNat_lt
  have hne : (duration.toNat : ℚ) ≠ 0 :=
    Nat.cast_ne_zero.mpr fun hzero => h (UInt64.toNat_inj.mp hzero)
  refine @reported_ratio _ us.toNat duration.toNat ?_ (by omega) (by omega)
  rw [Double.ofNat, Double.ofNat, Double.div_num hne]

/-- Counters that their C types hold exactly, and no more printers than the arrays have. -/
structure StatisticsInRange (stats : SimulationStatistics) : Prop where
  arrived : stats.totalJobsArrived ≤ 2 ^ 53
  served : stats.totalJobsServed ≤ 2 ^ 53
  dropped : stats.totalJobsDropped ≤ 2 ^ 53
  removed : stats.totalJobsRemoved ≤ 2 ^ 53
  refills : stats.paperRefillEvents ≤ 2 ^ 53
  servedByPrinter : ∀ i, stats.jobsServedByPrinter i ≤ 2 ^ 53
  longestQueue : stats.maxJobQueueLength < 2 ^ 32
  paperUsed : ∀ i, (stats.printerPaperUsed i).natAbs < 2 ^ 32
  papersRefilled : stats.papersRefilled.natAbs < 2 ^ 32
  squares : stats.sumOfSystemTimeSquaredUs2.natAbs < 10 ^ 200
  printers : stats.maxPrintersUsed ≤ maxPrinters

/-- The square root of a number is a number, and not much smaller or larger. -/
def SquareRoot (sqrt : Double → Double) : Prop :=
  ∀ q : ℚ, 0 ≤ q → Within 250 q → ∃ r, sqrt (.num q) = .num r ∧ Within 250 r

section Figures

variable (h : StatisticsInRange stats)
include h

lemma reported_arrivalRate : (FieldValue.general (calculateJobArrivalRate stats)).Reported := by
  rw [calculateJobArrivalRate]
  split
  · exact reported_zero
  · next hduration =>
    have hle := h.arrived
    have hlt := stats.simulationDurationUs.toNat_lt
    have hne : (stats.simulationDurationUs.toNat : ℚ) ≠ 0 :=
      Nat.cast_ne_zero.mpr fun hzero => hduration (UInt64.toNat_inj.mp hzero)
    refine @reported_ratio _ (stats.totalJobsArrived * 1000000)
      stats.simulationDurationUs.toNat ?_ (by omega) (by omega)
    rw [Double.ofNat, Double.ofNat, Double.mul_num, Double.div_num (by positivity)]
    push_cast
    congr 1
    field_simp

lemma reported_dropProbability :
    (FieldValue.general (calculateJobDropProbability stats)).Reported := by
  rw [calculateJobDropProbability]
  split
  · exact reported_zero
  · next harrived =>
    have hdropped := h.dropped
    have hle := h.arrived
    have hne : (stats.totalJobsArrived : ℚ) ≠ 0 := Nat.cast_ne_zero.mpr harrived
    refine @reported_ratio _ stats.totalJobsDropped stats.totalJobsArrived ?_ (by omega) (by omega)
    rw [Double.ofNat, Double.ofNat, Double.div_num hne]

lemma reported_interArrivalTime :
    (FieldValue.general (calculateAverageInterArrivalTime stats)).Reported := by
  rw [calculateAverageInterArrivalTime]
  split
  · exact reported_zero
  · next harrived =>
    have hle := h.arrived
    have hone : (Double.ofNat stats.totalJobsArrived).sub (.num 1) =
        .ofNat (stats.totalJobsArrived - 1) := by
      rw [Double.ofNat, Double.sub_num, Double.ofNat, Nat.cast_sub (by omega), Nat.cast_one]
    rw [hone]
    exact reported_mean _ (by omega) (by omega)

lemma reported_systemTime : (FieldValue.general (calculateAverageSystemTime stats)).Reported := by
  rw [calculateAverageSystemTime]
  split
  · exact reported_zero
  · next hserved => exact reported_mean _ hserved h.served

lemma reported_queueWaitTime :
    (FieldValue.general (calculateAverageQueueWaitTime stats)).Reported := by
  rw [calculateAverageQueueWaitTime]
  split
  · exact reported_zero
  · next hserved => exact reported_mean _ hserved h.served

lemma reported_serviceTime (i : Int) :
    (FieldValue.general (calculateAverageServiceTime stats i)).Reported := by
  rw [calculateAverageServiceTime]
  split
  · exact reported_zero
  · split
    · exact reported_zero
    · next hserved => exact reported_mean _ hserved (h.servedByPrinter _)

/-- The variance is a quotient of two counts when it is positive. -/
lemma within_variance {q : ℚ} (hq : 0 < q) (hv : systemTimeVariance stats = some (.num q)) :
    Within 250 q := by
  by_cases hfew : stats.totalJobsServed ≤ 1
  · rw [systemTimeVariance, if_pos hfew] at hv
    cases hv
  rw [systemTimeVariance_eq hfew, Option.some.injEq, Double.num.injEq] at hv
  have hserved := h.served
  have hsquares := h.squares
  have hn : (0 : ℚ) < stats.totalJobsServed := Nat.cast_pos.mpr (by omega)
  -- over the square of the number of jobs
  have hratio : q = ((stats.sumOfSystemTimeSquaredUs2 * stats.totalJobsServed -
      stats.totalSystemTimeUs.toNat ^ 2 : ℤ) : ℚ) / (stats.totalJobsServed ^ 2 : ℕ) := by
    rw [← hv]
    push_cast
    field_simp
  have hsquare : (0 : ℚ) < (stats.totalJobsServed ^ 2 : ℕ) := by
    push_cast
    positivity
  have hpos : (0 : ℚ) < ((stats.sumOfSystemTimeSquaredUs2 * stats.totalJobsServed -
      stats.totalSystemTimeUs.toNat ^ 2 : ℤ) : ℚ) := by
    rw [hratio] at hq
    exact (div_pos_iff_of_pos_right hsquare).mp hq
  obtain ⟨a, ha⟩ := Int.eq_ofNat_of_zero_le (Int.cast_pos.mp hpos).le
  have hle : (a : ℤ) ≤ 10 ^ 200 * 2 ^ 53 := by
    have hproduct : stats.sumOfSystemTimeSquaredUs2 * stats.totalJobsServed ≤
        (10 ^ 200 * 2 ^ 53 : ℕ) := by
      refine Int.le_natAbs.trans ?_
      rw [Int.natAbs_mul]
      exact Int.ofNat_le.mpr (Nat.mul_le_mul hsquares.le hserved)
    have htotal : (0 : ℤ) ≤ (stats.totalSystemTimeUs.toNat : ℤ) ^ 2 := by positivity
    push_cast at hproduct
    omega
  have hnumerator : a < 10 ^ 250 :=
    (Int.ofNat_le.mp hle).trans_lt (by norm_num)
  have hdenominator : stats.totalJobsServed ^ 2 < 10 ^ 250 :=
    (Nat.pow_le_pow_left hserved 2).trans_lt (by norm_num)
  rw [hratio, ha]
  exact within_ratio hnumerator hdenominator

/-- The deviation is a number because the variance is not allowed to be negative. -/
lemma reported_stdDev (hsqrt : SquareRoot sqrt) :
    (FieldValue.general (calculateSystemTimeStdDev stats sqrt)).Reported := by
  have hroot : ∀ v : Double, systemTimeVariance stats = some v → ∃ q : ℚ, 0 ≤ q ∧ Within 250 q ∧
      (if Double.lt (.num 0) v then v else .num 0) = .num q := by
    intro v hv
    cases v with
    | nan => exact ⟨0, le_rfl, .inl rfl, rfl⟩
    | num q =>
        by_cases hq : 0 < q
        · exact ⟨q, hq.le, within_variance h hq hv, if_pos (decide_eq_true hq)⟩
        · exact ⟨0, le_rfl, .inl rfl, if_neg (fun hlt => hq (of_decide_eq_true hlt))⟩
  rw [calculateSystemTimeStdDev]
  split
  · exact reported_zero
  · next v hvariance =>
    obtain ⟨q, hq, hwithin, hv⟩ := hroot v hvariance
    obtain ⟨r, hr, hwithin'⟩ := hsqrt q hq hwithin
    refine @reported_general _ (r / 1000000) ?_ (hwithin'.div_million.mono (by decide))
    rw [hv, hr, Double.div_num (by norm_num)]

omit h

lemma reported_queueLength : (FieldValue.general (calculateAverageQueueLength stats)).Reported := by
  rw [calculateAverageQueueLength]
  split
  · exact reported_zero
  · next hduration => exact reported_perDuration _ hduration

lemma reported_utilization (i : Int) :
    (FieldValue.general (calculateSystemUtilization stats i)).Reported := by
  rw [calculateSystemUtilization]
  split
  · exact reported_zero
  · split
    · exact reported_zero
    · next hduration => exact reported_perDuration _ hduration

end Figures

/-- **Every figure of the report is a number**, and a short one. -/
theorem allReported (h : StatisticsInRange stats) (hsqrt : SquareRoot sqrt) :
    AllReported sqrt stats where
  summary := by
    intro f hf
    simp only [summaryFields, List.mem_cons, List.not_mem_nil, or_false] at hf
    rcases hf with rfl | rfl | rfl | rfl | rfl | rfl | rfl | rfl | rfl | rfl | rfl | rfl | rfl
    · exact reported_seconds _
    · exact reported_count h.arrived
    · exact reported_count h.served
    · exact reported_count h.dropped
    · exact reported_count h.removed
    · exact reported_arrivalRate h
    · exact reported_dropProbability h
    · exact reported_interArrivalTime h
    · exact reported_systemTime h
    · exact reported_stdDev h hsqrt
    · exact reported_queueWaitTime h
    · exact reported_queueLength
    · exact reported_int h.longestQueue
  printers := by
    intro i f hf
    have hi : (i : ℕ) < 5 := i.isLt
    simp only [printerFields, List.mem_cons, List.not_mem_nil, or_false] at hf
    rcases hf with rfl | rfl | rfl | rfl | rfl
    · refine reported_int ?_
      show (i : ℕ) + 1 < 2 ^ 32
      omega
    · exact reported_count (h.servedByPrinter i)
    · exact reported_int (h.paperUsed i)
    · exact reported_serviceTime h i
    · exact reported_utilization i
  refills := by
    intro f hf
    simp only [refillFields, List.mem_cons, List.not_mem_nil, or_false] at hf
    rcases hf with rfl | rfl | rfl
    · exact reported_count h.refills
    · exact reported_seconds _
    · exact reported_int h.papersRefilled

/-! ## What is read -/

/-- The path of a field in an element of an array. -/
def elementPath (name : String) : List Char := "$.".toList ++ name.toList

/-- The text of an array with these elements. -/
def arrayText (xs : List (List Char)) : List Char := '[' :: ([','].intercalate xs ++ [']'])

/-- The reader finds in the text the type of the report, every figure of the run, and an array with
one object for each printer, in which it finds every figure of the printer. -/
structure StatisticsRead (sqrt : Double → Double) (stats : SimulationStatistics)
    (text : List Char) : Prop where
  type : mgJsonGetStr text "$.type".toList = some "statistics".toList
  figures : ∀ name v, (summaryFields sqrt stats ++ refillFields stats).lookup name = some v →
    v.ReadAt text (fieldPath name)
  printers : ∃ xs : List (List Char), xs.length = printersToReport stats ∧
    (∃ before after, text = before ++ (arrayText xs ++ after) ∧
      mgJsonGet text (fieldPath "printers") = .found before.length (arrayText xs).length) ∧
    ∀ i : Slot, ∀ x, xs[(i : ℕ)]? = some x →
      ∀ name v, (printerFields stats i).lookup name = some v → v.ReadAt x (elementPath name)

lemma nested_fieldDocs {fields : List (String × FieldValue)} (h : ∀ f ∈ fields, f.2.Reported) :
    ∀ f ∈ fieldDocs fields, Nested 0 f.2 := by
  intro f hf
  obtain ⟨g, hg, rfl⟩ := List.mem_map.mp hf
  exact FieldValue.nested (h g hg).1

lemma nested_printerDoc (h : AllReported sqrt stats) (i : Slot) : Nested 1 (printerDoc stats i) :=
  nested_obj (fun f hf => by
    obtain ⟨g, hg, rfl⟩ := List.mem_map.mp hf
    exact plainName_printer i g hg) (nested_fieldDocs (h.printers i))

/-- The reader reads the document. -/
lemma legible_statisticsDoc (h : AllReported sqrt stats) : Legible (statisticsDoc sqrt stats) := by
  have hprinters : Nested 2 (.arr [] (.ofList ((reportedSlots stats).map (printerDoc stats)))) := by
    refine nested_arr fun x hx => ?_
    obtain ⟨i, -, rfl⟩ := List.mem_map.mp hx
    exact nested_printerDoc h i
  have hdata : Nested 3 (.obj [] (.ofList [] [] (statisticsDocs sqrt stats))) := by
    refine nested_obj plainName_statistics fun f hf => ?_
    rcases List.mem_append.mp hf with hf | hf
    · exact (nested_fieldDocs h.summary f hf).mono (by decide)
    · rcases List.mem_cons.mp hf with rfl | hf
      · exact hprinters
      · exact (nested_fieldDocs h.refills f hf).mono (by decide)
  have htype : Nested 3 (.str (piecesOf "statistics".toList)) := ⟨trivial, Nat.zero_le 3, trivial⟩
  have hdoc : Nested 4 (statisticsDoc sqrt stats) := by
    refine nested_obj (fun f hf => ?_) fun f hf => ?_
    · rcases List.mem_pair.mp hf with rfl | rfl
      · exact (rfl : plainName "type" = true)
      · exact (rfl : plainName "data" = true)
    · rcases List.mem_pair.mp hf with rfl | rfl
      · exact htype
      · exact hdata
  exact hdoc.legible (by decide)

/-- What is under the path of a field. -/
lemma at_statisticsDoc (name : String) :
    (statisticsDoc sqrt stats).at ["data".toList, name.toList] =
      (statisticsDocs sqrt stats).lookup name := by
  have hfind := @Members.find_ofList [] [] _
    (plainNames_of_plainName (@plainName_statistics sqrt stats)) name
  rw [← hfind]
  show ((Members.ofList [] [] (statisticsDocs sqrt stats)).find name.toList).bind some = _
  cases (Members.ofList [] [] (statisticsDocs sqrt stats)).find name.toList <;> rfl

/-- The figures of the run are not the printers. -/
lemma lookup_statisticsDocs {name : String} {v : FieldValue}
    (hv : (summaryFields sqrt stats ++ refillFields stats).lookup name = some v) :
    (statisticsDocs sqrt stats).lookup name = some v.doc := by
  have hprinters : (summaryFields sqrt stats ++ refillFields stats).lookup "printers" = none := rfl
  have hname : (name == "printers") = false := by
    refine beq_false_of_ne fun heq => ?_
    rw [heq, hprinters] at hv
    cases hv
  rw [List.lookup_append] at hv
  rw [statisticsDocs, List.lookup_append, List.lookup_cons, hname, lookup_fieldDocs,
    lookup_fieldDocs]
  cases hsummary : (summaryFields sqrt stats).lookup name with
  | some u =>
      rw [hsummary, Option.some_or] at hv
      rw [Option.map_some, Option.some_or, Option.some.inj hv]
  | none =>
      rw [hsummary, Option.none_or] at hv
      rw [Option.map_none, Option.none_or, hv]
      rfl

/-- The printers are under their name. -/
lemma lookup_printers : (statisticsDocs sqrt stats).lookup "printers" =
    some (.arr [] (.ofList ((reportedSlots stats).map (printerDoc stats)))) := by
  have hsummary : (summaryFields sqrt stats).lookup "printers" = none := rfl
  rw [statisticsDocs, List.lookup_append, lookup_fieldDocs, hsummary]
  rfl

lemma docText_nil (d : Doc) : docText [] [] d = d.text := by
  simp [docText, Blank.text]

/-- The slots are reported in their order. -/
lemma reportedSlots_getElem? {i : ℕ} {j : Slot} (h : (reportedSlots stats)[i]? = some j) :
    (j : ℕ) = i := by
  obtain ⟨hi, hj⟩ := List.getElem?_eq_some_iff.mp h
  rw [← hj]
  simp [reportedSlots]

/-- A name with a value is the name of a field. -/
lemma mem_of_lookup {α : Type} {fields : List (String × α)} {name : String} {v : α}
    (h : fields.lookup name = some v) : (name, v) ∈ fields := by
  obtain ⟨before, after, rfl, -⟩ := List.lookup_eq_some_iff.mp h
  exact List.mem_append_right before List.mem_cons_self

/-- **The reader finds the figures of the printer** in its object. -/
lemma readAt_printerDoc (h : AllReported sqrt stats) (i : Slot) {name : String} {v : FieldValue}
    (hv : (printerFields stats i).lookup name = some v) :
    v.ReadAt (printerDoc stats i).text (elementPath name) := by
  have hmem := mem_of_lookup hv
  have hname := (pathName_of_plainName (plainName_printer i (name, v) hmem)).1
  have hplain := plainNames_fieldDocs (@plainName_printer stats i)
  have hkeys : ∀ k ∈ [name.toList], PathName k := by
    intro k hk
    rw [List.mem_singleton.mp hk]
    exact hname
  have hfind := @Members.find_ofList [] [] _ hplain name
  have hat : (printerDoc stats i).at [name.toList] = some v.doc := by
    show ((Members.ofList [] [] (fieldDocs (printerFields stats i))).find name.toList).bind some = _
    rw [hfind, lookup_fieldDocs, hv]
    rfl
  have hpath : elementPath name = pathOf [name.toList] := by
    simp [elementPath, pathOf, pathText]
  have hread := FieldValue.readAt ((nested_printerDoc h i).legible (by decide)) hkeys
    (h.printers i (name, v) hmem).1 hat
  rw [docText_nil] at hread
  rw [hpath]
  exact hread

/-- **The reader finds everything** in the text of the document. -/
theorem statisticsRead (h : AllReported sqrt stats)
    (hprinters : stats.maxPrintersUsed ≤ maxPrinters) :
    StatisticsRead sqrt stats (statisticsDoc sqrt stats).text where
  type := by
    have hkeys : ∀ k ∈ ["type".toList], PathName k := by
      intro k hk
      rw [List.mem_singleton.mp hk]
      exact ⟨by decide, by decide, by decide, by decide⟩
    have hat : (statisticsDoc sqrt stats).at ["type".toList] =
        some (FieldValue.text "statistics".toList).doc := rfl
    have hread := FieldValue.readAt (legible_statisticsDoc h) hkeys
      (v := .text "statistics".toList) (List.all_eq_true.mp rfl) hat
    rw [docText_nil] at hread
    exact hread
  figures := by
    intro name v hv
    have hmem := mem_of_lookup hv
    have hreported : plainName name = true ∧ v.Reported := by
      rcases List.mem_append.mp hmem with hmem | hmem
      · exact ⟨plainName_summary (name, v) hmem, h.summary (name, v) hmem⟩
      · exact ⟨plainName_refill (name, v) hmem, h.refills (name, v) hmem⟩
    have hkeys := pathName_field (pathName_of_plainName hreported.1).1
    have hat := (@at_statisticsDoc sqrt stats name).trans (lookup_statisticsDocs hv)
    have hread := FieldValue.readAt (legible_statisticsDoc h) hkeys hreported.2.1 hat
    rw [docText_nil] at hread
    rw [fieldPath_eq]
    exact hread
  printers := by
    have hkeys : ∀ k ∈ ["data".toList, "printers".toList], PathName k :=
      pathName_field ⟨by decide, by decide, by decide, by decide⟩
    have hat := (@at_statisticsDoc sqrt stats "printers").trans lookup_printers
    obtain ⟨before, after, htext, hget⟩ := mgJsonGet_at [] [] (legible_statisticsDoc h) hkeys hat
    have harray : (Doc.arr [] (.ofList ((reportedSlots stats).map (printerDoc stats)))).text =
        arrayText ((reportedSlots stats).map fun i => (printerDoc stats i).text) := by
      rw [Doc.text, Items.text_ofList, List.map_map]
      rfl
    rw [docText_nil, harray] at htext hget
    refine ⟨_, ?_, ⟨before, after, htext, ?_⟩, ?_⟩
    · rw [List.length_map, length_reportedSlots hprinters]
    · rw [fieldPath_eq]
      exact hget
    · intro i x hx name v hv
      obtain ⟨j, hj, rfl⟩ := Option.map_eq_some_iff.mp ((List.getElem?_map).symm.trans hx)
      obtain rfl : j = i := Fin.ext (reportedSlots_getElem? hj)
      exact readAt_printerDoc h j hv

/-! ## The frame -/

/-- The width of short figures. -/
lemma widths_figuresOf_le {fields : List (String × FieldValue)}
    (h : ∀ f ∈ fields, f.2.Reported) : widths (figuresOf fields) ≤ 22 * fields.length := by
  induction fields with
  | nil => exact Nat.zero_le _
  | cons f fields ih =>
      have hhead := (h f List.mem_cons_self).2
      have htail := ih fun g hg => h g (List.mem_cons_of_mem f hg)
      rw [widths, figuresOf, List.map_map] at htail ⊢
      rw [List.map_cons, List.sum_cons, List.length_cons]
      show f.2.figure.length + _ ≤ _
      omega

/-- The figures of a report leave room for the rest of the text. -/
lemma figureWidths_le (h : AllReported sqrt stats)
    (hprinters : stats.maxPrintersUsed ≤ maxPrinters) :
    figureWidths (printfLibrary sqrt) stats ≤ 902 := by
  have hsummary : widths (figuresOf (summaryFields sqrt stats)) ≤ 22 * 13 :=
    widths_figuresOf_le h.summary
  have hrefills : widths (figuresOf (refillFields stats)) ≤ 22 * 3 :=
    widths_figuresOf_le h.refills
  have hprinter : ∀ i, widths (figuresOf (printerFields stats i)) ≤ 22 * 5 :=
    fun i => widths_figuresOf_le (h.printers i)
  have hcount := (length_reportedSlots hprinters).trans_le (printersToReport_le hprinters)
  have hmem : ∀ n ∈ (reportedSlots stats).map fun i => widths (figuresOf (printerFields stats i)),
      n ≤ 22 * 5 := by
    intro n hn
    obtain ⟨i, -, rfl⟩ := List.mem_map.mp hn
    exact hprinter i
  have hsum := List.sum_le_card_nsmul _ _ hmem
  rw [List.length_map, nsmul_eq_mul, Nat.cast_id] at hsum
  simp only [figureWidths, summaryFigures_eq, printerFigures_eq, refillFigures_eq]
  omega

/-- **Every report of the statistics is complete and read back.**  For all statistics that fit
their C types, `publish_statistics` sends the whole text, and the server's own reader finds every
figure in it, to the digits that are printed. -/
theorem statistics_published (h : StatisticsInRange stats) (hsqrt : SquareRoot sqrt)
    (mem : ℕ → Char) :
    ∃ text, publishStatistics (printfLibrary sqrt) stats mem = some (some text) ∧
      StatisticsRead sqrt stats text := by
  have hall := allReported h hsqrt
  obtain ⟨texts, htexts, hne, hnul, hsum⟩ := sum_statisticsTexts (printfLibrary sqrt) h.printers
  obtain ⟨texts', htexts', hflatten⟩ := flatten_statisticsTexts hall h.printers
  obtain rfl : texts = texts' := Option.some.inj (htexts.symm.trans htexts')
  have hwidths := figureWidths_le hall h.printers
  have hcount := printersToReport_le h.printers
  have hlt : (texts.map List.length).sum < 4096 := by omega
  have hstring := @printAll_cString 4096 texts (by decide) mem hnul hne hlt
  have hoffset : (printAll 4096 mem texts).offset = (texts.map List.length).sum := by
    rw [printAll, foldl_offset, Nat.zero_add]
  have hwrite : writeStatisticsToBuffer (printfLibrary sqrt) stats mem 4096 =
      some (((printAll 4096 mem texts).offset : Int), printAll 4096 mem texts) := by
    unfold writeStatisticsToBuffer
    rw [if_neg (by decide), htexts]
    rfl
  refine ⟨(statisticsDoc sqrt stats).text, ?_, statisticsRead hall h.printers⟩
  rw [publishStatistics, hwrite]
  show some (if (0 : Int) < ((printAll 4096 mem texts).offset : Int) then _ else none) = _
  rw [if_pos (by omega), hstring, hflatten]

/-- The square root, rounded down. -/
def wholeRoot : Double → Double
  | .num q => .num (Nat.sqrt ⌊q⌋₊)
  | .nan => .nan

lemma squareRoot_wholeRoot : SquareRoot wholeRoot := by
  intro q hq hwithin
  refine ⟨Nat.sqrt ⌊q⌋₊, rfl, ?_⟩
  by_cases hzero : Nat.sqrt ⌊q⌋₊ = 0
  · exact .inl (by rw [hzero, Nat.cast_zero])
  have hone : 1 ≤ Nat.sqrt ⌊q⌋₊ := Nat.one_le_iff_ne_zero.mpr hzero
  have hle : ((Nat.sqrt ⌊q⌋₊ : ℕ) : ℚ) ≤ q :=
    (Nat.cast_le.mpr (Nat.sqrt_le_self _)).trans (Nat.floor_le hq)
  have hpos : (1 : ℚ) ≤ (Nat.sqrt ⌊q⌋₊ : ℕ) := by exact_mod_cast hone
  have hlt : q < 10 ^ 250 := by
    rcases hwithin with rfl | ⟨-, hlt⟩
    · positivity
    · exact (le_abs_self q).trans_lt hlt
  rw [Within, abs_of_nonneg (Nat.cast_nonneg _)]
  exact .inr ⟨(zpow_le_one_of_nonpos₀ (by norm_num) (by decide)).trans hpos, hle.trans_lt hlt⟩

/-- A run with two jobs, of one and of three seconds. -/
def twoServed : SimulationStatistics :=
  { SimulationStatistics.zero with
    simulationDurationUs := 5000000
    totalJobsArrived := 2
    totalJobsServed := 2
    totalSystemTimeUs := 4000000
    sumOfSystemTimeSquaredUs2 := 10 ^ 13
    maxPrintersUsed := 1 }

/-- The report of that run. -/
theorem statistics_published_twoServed :
    StatisticsInRange twoServed ∧ SquareRoot wholeRoot ∧
      ∃ text, publishStatistics (printfLibrary wholeRoot) twoServed (fun _ => nul) =
        some (some text) ∧ StatisticsRead wholeRoot twoServed text := by
  have hrange : StatisticsInRange twoServed := by
    refine ⟨by decide, by decide, by decide, by decide, by decide, fun i => ?_, by decide,
      fun i => ?_, by decide, ?_, by decide⟩
    · exact Nat.zero_le _
    · exact (by decide : (0 : Int).natAbs < 2 ^ 32)
    · norm_num [twoServed]
  exact ⟨hrange, squareRoot_wholeRoot,
    statistics_published hrange squareRoot_wholeRoot (fun _ => nul)⟩

end Orchestrator
