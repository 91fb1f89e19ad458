import Orchestrator.Json.Token
import Orchestrator.Printing.Buffer
import Orchestrator.SimulationStats

/-!
# The statistics encoder

`write_statistics_to_buffer` prints the statistics into a buffer with one `snprintf` after the
other and returns the sum of their results.

* `statisticsTexts` — the texts of the calls.
* `sum_statisticsTexts` — how long they are together, from the widths of the figures.
* `statistics_fit_iff` — the calls stay in the buffer and the result is the number of characters
  stored, exactly when the figures leave room for the rest of the text.
-/

namespace Orchestrator

open Json Printing

/-- What `printf` writes for a `double`; there is no terminator in it. -/
structure DoubleFormat where
  text : Double → List Char
  nul_notMem : ∀ x, nul ∉ text x

/-- The formats `%.3g` and `%.0f`, and the square root. -/
structure CLibrary where
  general : DoubleFormat
  fixed : DoubleFormat
  sqrt : Double → Double

variable (lib : CLibrary) (stats : SimulationStatistics)

/-! ## The figures -/

/-- The figures of the first call, by their names. -/
def summaryFigures : List (String × List Char) :=
  [("simulation_duration_sec",
      lib.general.text ((Double.ofNat stats.simulationDurationUs.toNat).div (.num 1000000))),
    ("total_jobs_arrived", lib.fixed.text (.ofNat stats.totalJobsArrived)),
    ("total_jobs_served", lib.fixed.text (.ofNat stats.totalJobsServed)),
    ("total_jobs_dropped", lib.fixed.text (.ofNat stats.totalJobsDropped)),
    ("total_jobs_removed", lib.fixed.text (.ofNat stats.totalJobsRemoved)),
    ("job_arrival_rate_per_sec", lib.general.text (calculateJobArrivalRate stats)),
    ("job_drop_probability", lib.general.text (calculateJobDropProbability stats)),
    ("avg_inter_arrival_time_sec", lib.general.text (calculateAverageInterArrivalTime stats)),
    ("avg_system_time_sec", lib.general.text (calculateAverageSystemTime stats)),
    ("system_time_std_dev_sec", lib.general.text (calculateSystemTimeStdDev stats lib.sqrt)),
    ("avg_queue_wait_time_sec", lib.general.text (calculateAverageQueueWaitTime stats)),
    ("avg_queue_length", lib.general.text (calculateAverageQueueLength stats)),
    ("max_queue_length", decimal stats.maxJobQueueLength)]

/-- The figures of the printer in slot `i`. -/
def printerFigures (i : Slot) : List (String × List Char) :=
  [("id", decimal (i + 1 : ℕ)),
    ("jobs_served", lib.fixed.text (.ofNat (stats.jobsServedByPrinter i))),
    ("paper_used", decimal (stats.printerPaperUsed i)),
    ("avg_service_time_sec", lib.general.text (calculateAverageServiceTime stats i)),
    ("utilization", lib.general.text (calculateSystemUtilization stats i))]

/-- The figures of the last call. -/
def refillFigures : List (String × List Char) :=
  [("paper_refill_events", lib.fixed.text (.ofNat stats.paperRefillEvents)),
    ("total_refill_service_time_sec",
      lib.general.text ((Double.ofNat stats.totalRefillServiceTimeUs.toNat).div (.num 1000000))),
    ("papers_refilled", decimal stats.papersRefilled)]

/-! ## The calls -/

/-- A member of an object. -/
def memberText (m : String × List Char) : List Char :=
  '"' :: (m.1.toList ++ ['"', ':'] ++ m.2)

/-- The members of an object, with a comma between each two. -/
def membersText (ms : List (String × List Char)) : List Char :=
  [','].intercalate (ms.map memberText)

/-- The beginning of the text. -/
def statisticsHeader : List Char := "\x7b\"type\":\"statistics\", \"data\":\x7b".toList

/-- The text of the first call. -/
def summaryText : List Char :=
  statisticsHeader ++ membersText (summaryFigures lib stats) ++ [',']

/-- The text of the second call. -/
def printersHeader : List Char := "\"printers\":[".toList

/-- The text of a printer, which is followed by a comma unless it is the last one. -/
def printerText (printersToReport : ℕ) (i : Slot) : List Char :=
  '\x7b' :: (membersText (printerFigures lib stats i) ++ ['\x7d'] ++
    if (i : ℕ) < printersToReport - 1 then [','] else [])

/-- The text of the last call. -/
def refillText : List Char :=
  [']', ','] ++ membersText (refillFigures lib stats) ++ ['\x7d', '\x7d']

/-- `printers_to_report`. -/
def printersToReport : ℕ := if 0 < stats.maxPrintersUsed then stats.maxPrintersUsed else 2

/-- The texts of the calls.  The loop reads the arrays of the printers at every index below
`printers_to_report`. -/
def statisticsTexts : Option (List (List Char)) := do
  let slots ← (List.range (printersToReport stats)).mapM fun i : ℕ => slotOfIndex i
  some (summaryText lib stats :: printersHeader ::
    (slots.map (printerText lib stats (printersToReport stats)) ++ [refillText lib stats]))

/-- `write_statistics_to_buffer`, with the memory that it leaves and its calls of `snprintf`. -/
def writeStatisticsToBuffer (mem : ℕ → Char) (bufSize : Int) : Option (Int × Writer) :=
  if bufSize ≤ 0 then some (-1, ⟨mem, 0, []⟩)
  else do
    let texts ← statisticsTexts lib stats
    let w := printAll bufSize.toNat mem texts
    some (w.offset, w)

/-! ## The characters of the texts -/

variable {lib stats}

lemma nul_notMem_decimal (n : Int) : nul ∉ decimal n := by
  have hdigits : ∀ c ∈ Nat.toDigits 10 n.natAbs, c ≠ nul := by
    rintro c hc rfl
    exact absurd (isDigit_of_mem_toDigits hc) (by decide)
  rw [decimal]
  split
  · simp only [List.mem_cons, not_or]
    exact ⟨by decide, fun hmem => hdigits _ hmem rfl⟩
  · exact fun hmem => hdigits _ hmem rfl

/-- A figure without a terminator in its name or its text. -/
def NulFree (m : String × List Char) : Prop := nul ∉ m.1.toList ∧ nul ∉ m.2

lemma nulFree_figures (lib : CLibrary) (stats : SimulationStatistics) :
    (∀ m ∈ summaryFigures lib stats, NulFree m) ∧
    (∀ i, ∀ m ∈ printerFigures lib stats i, NulFree m) ∧
    ∀ m ∈ refillFigures lib stats, NulFree m := by
  have hgeneral : ∀ x, '\x00' ∉ lib.general.text x := lib.general.nul_notMem
  have hfixed : ∀ x, '\x00' ∉ lib.fixed.text x := lib.fixed.nul_notMem
  have hdecimal : ∀ n, '\x00' ∉ decimal n := nul_notMem_decimal
  refine ⟨?_, fun i => ?_, ?_⟩
  · simp [NulFree, nul, summaryFigures, hgeneral, hfixed, hdecimal]
  · simp [NulFree, nul, printerFigures, hgeneral, hfixed, hdecimal]
  · simp [NulFree, nul, refillFigures, hgeneral, hfixed, hdecimal]

lemma nul_notMem_membersText {ms : List (String × List Char)}
    (h : ∀ m ∈ ms, NulFree m) : nul ∉ membersText ms := by
  have hmember : ∀ m ∈ ms, nul ∉ memberText m := by
    intro m hm
    have hm := h m hm
    simp [memberText, hm.1, hm.2]
    decide
  induction ms with
  | nil => simp [membersText]
  | cons m ms ih =>
      have hm := hmember m List.mem_cons_self
      cases ms with
      | nil => simpa [membersText] using hm
      | cons n ms =>
          have hrest := ih (fun k hk => h k (List.mem_cons_of_mem m hk))
            (fun k hk => hmember k (List.mem_cons_of_mem m hk))
          simp only [membersText, List.map_cons, List.intercalate_cons_cons] at hrest ⊢
          simp [hm, hrest]
          decide

lemma nul_notMem_summaryText : nul ∉ summaryText lib stats := by
  have hmembers := nul_notMem_membersText (nulFree_figures lib stats).1
  have hheader : nul ∉ statisticsHeader := by decide
  simp only [summaryText, List.mem_append, List.mem_singleton, hheader, hmembers, false_or]
  decide

lemma nul_notMem_printerText (n : ℕ) (i : Slot) : nul ∉ printerText lib stats n i := by
  have hmembers := nul_notMem_membersText ((nulFree_figures lib stats).2.1 i)
  have hcomma : nul ∉ (if (i : ℕ) < n - 1 then [','] else []) := by
    split <;> decide
  simp only [printerText, List.mem_cons, List.mem_append, hmembers, hcomma, or_false, false_or]
  decide

lemma nul_notMem_refillText : nul ∉ refillText lib stats := by
  have hmembers := nul_notMem_membersText (nulFree_figures lib stats).2.2
  simp only [refillText, List.mem_append, hmembers, or_false]
  decide

/-! ## The length of the texts -/

/-- The characters of some figures. -/
def widths (ms : List (String × List Char)) : ℕ := (ms.map fun m => m.2.length).sum

/-- The characters of the names of some figures, with two quotes, a colon and a comma for each. -/
def nameWidths (ms : List (String × List Char)) : ℕ := (ms.map fun m => m.1.toList.length + 4).sum

lemma length_memberText (m : String × List Char) :
    (memberText m).length = m.1.toList.length + 3 + m.2.length := by
  simp [memberText]
  omega

/-- The characters of some figures, when their names take `k` and one more. -/
lemma length_membersText {ms : List (String × List Char)} {k : ℕ} (hk : nameWidths ms = k + 1) :
    (membersText ms).length = k + widths ms := by
  have hne : ms ≠ [] := by
    rintro rfl
    cases hk
  have htext : (membersText ms).length + 1 = (ms.map fun m => (memberText m).length + 1).sum := by
    clear hk
    induction ms with
    | nil => exact absurd rfl hne
    | cons m ms ih =>
        cases ms with
        | nil => simp [membersText]
        | cons n ms =>
            have hrest := ih (by simp)
            simp only [membersText, List.map_cons, List.intercalate_cons_cons, List.length_append,
              List.length_singleton, List.sum_cons] at hrest ⊢
            omega
  have hsum : (ms.map fun m => (memberText m).length + 1).sum = nameWidths ms + widths ms := by
    rw [nameWidths, widths, ← List.sum_map_add]
    congr 1
    refine List.map_congr_left fun m _ => ?_
    rw [length_memberText]
    omega
  omega

/-- The slots of the printers that are reported. -/
def reportedSlots (stats : SimulationStatistics) : List Slot :=
  (List.finRange maxPrinters).take (printersToReport stats)

/-- The characters of all figures of a report. -/
def figureWidths (lib : CLibrary) (stats : SimulationStatistics) : ℕ :=
  widths (summaryFigures lib stats) +
    ((reportedSlots stats).map fun i => widths (printerFigures lib stats i)).sum +
    widths (refillFigures lib stats)

lemma printersToReport_pos (stats : SimulationStatistics) : 0 < printersToReport stats := by
  rw [printersToReport]
  split <;> omega

lemma printersToReport_le (h : stats.maxPrintersUsed ≤ maxPrinters) :
    printersToReport stats ≤ 5 := by
  rw [printersToReport]
  split
  · exact h
  · omega

lemma mapM_slotOfIndex : ∀ n ≤ 5, (List.range n).mapM (fun i : ℕ => slotOfIndex i) =
    some ((List.finRange maxPrinters).take n) := by
  decide

/-- The commas between the printers. -/
lemma sum_commas : ∀ n ≤ 5, 0 < n → (((List.finRange maxPrinters).take n).map
    fun i : Slot => if (i : ℕ) < n - 1 then 1 else 0).sum = n - 1 := by
  decide

lemma length_summaryText :
    (summaryText lib stats).length = 343 + widths (summaryFigures lib stats) := by
  have hmembers : (membersText (summaryFigures lib stats)).length =
      312 + widths (summaryFigures lib stats) :=
    length_membersText (by simp [nameWidths, summaryFigures])
  have hhead : statisticsHeader.length = 30 := rfl
  rw [summaryText, List.length_append, List.length_append, hhead, hmembers, List.length_singleton]
  omega

lemma length_printerText (n : ℕ) (i : Slot) :
    (printerText lib stats n i).length =
      75 + widths (printerFigures lib stats i) + if (i : ℕ) < n - 1 then 1 else 0 := by
  have hmembers : (membersText (printerFigures lib stats i)).length =
      73 + widths (printerFigures lib stats i) :=
    length_membersText (by simp [nameWidths, printerFigures])
  rw [printerText, List.length_cons, List.length_append, List.length_append, hmembers,
    List.length_singleton]
  split <;> simp <;> omega

lemma length_refillText :
    (refillText lib stats).length = 78 + widths (refillFigures lib stats) := by
  have hmembers : (membersText (refillFigures lib stats)).length =
      74 + widths (refillFigures lib stats) :=
    length_membersText (by simp [nameWidths, refillFigures])
  rw [refillText, List.length_append, List.length_append, hmembers]
  simp
  omega

lemma length_reportedSlots (h : stats.maxPrintersUsed ≤ maxPrinters) :
    (reportedSlots stats).length = printersToReport stats := by
  have hle := printersToReport_le h
  rw [reportedSlots, List.length_take, List.length_finRange]
  exact Nat.min_eq_left hle

/-- The texts of the printers together. -/
lemma sum_printerTexts (lib : CLibrary) (h : stats.maxPrintersUsed ≤ maxPrinters) :
    ((reportedSlots stats).map fun i =>
        (printerText lib stats (printersToReport stats) i).length).sum =
      76 * printersToReport stats - 1 +
        ((reportedSlots stats).map fun i => widths (printerFigures lib stats i)).sum := by
  have hpos := printersToReport_pos stats
  have hcommas := sum_commas _ (printersToReport_le h) hpos
  have hlength := length_reportedSlots h
  simp only [length_printerText, List.sum_map_add, List.map_const',
    List.sum_replicate_nat, hlength]
  rw [reportedSlots, hcommas]
  omega

/-- **The length of the text**, from the number of printers and the widths of the figures. -/
theorem sum_statisticsTexts (lib : CLibrary) (h : stats.maxPrintersUsed ≤ maxPrinters) :
    ∃ texts, statisticsTexts lib stats = some texts ∧ texts ≠ [] ∧
      (∀ text ∈ texts, nul ∉ text) ∧
      (texts.map List.length).sum =
        432 + 76 * printersToReport stats + figureWidths lib stats := by
  have hpos := printersToReport_pos stats
  have hslots := mapM_slotOfIndex _ (printersToReport_le h)
  have hprinters := sum_printerTexts lib h
  have hheader : printersHeader.length = 12 := rfl
  refine ⟨summaryText lib stats :: printersHeader ::
    ((reportedSlots stats).map (printerText lib stats (printersToReport stats)) ++
      [refillText lib stats]), ?_, List.cons_ne_nil _ _, ?_, ?_⟩
  · rw [statisticsTexts, hslots]
    rfl
  · intro text htext
    simp only [List.mem_cons, List.mem_append, List.mem_map, List.not_mem_nil, or_false] at htext
    rcases htext with rfl | rfl | ⟨i, -, rfl⟩ | rfl
    · exact nul_notMem_summaryText
    · decide
    · exact nul_notMem_printerText _ i
    · exact nul_notMem_refillText
  · simp only [List.map_cons, List.map_append, List.map_map, List.sum_cons, List.sum_append,
      List.map_nil, List.sum_nil, hheader, length_summaryText, length_refillText,
      Function.comp_def, hprinters, figureWidths]
    omega

/-! ## The encoder and its buffer -/

/-- Every call of `snprintf` is given at most what is left of the buffer, and the result is -1 or
the number of characters before the terminator. -/
structure RespectsBuffer (bufSize : Int) (r : Int × Writer) : Prop where
  calls : ∀ c ∈ r.2.calls, (c.offset : Int) ≤ bufSize ∧ (c.size : Int) ≤ bufSize - c.offset
  result : r.1 = -1 ∨ ∃ n : ℕ, r.1 = n ∧ Terminated r.2.mem n

lemma respectsBuffer_iff {bufSize : ℕ} {w : Writer} :
    RespectsBuffer bufSize (w.offset, w) ↔ w.Respects bufSize := by
  constructor
  · rintro ⟨hcalls, hresult⟩
    refine ⟨fun c hc => ?_, ?_⟩
    · obtain ⟨hoffset, hsize⟩ := hcalls c hc
      exact ⟨by omega, by omega⟩
    · rcases hresult with hnone | ⟨n, hn, hstored⟩
      · exact absurd hnone (by simp)
      · obtain rfl : w.offset = n := Int.ofNat.inj hn
        exact hstored
  · rintro ⟨hcalls, hstored⟩
    refine ⟨fun c hc => ?_, .inr ⟨w.offset, rfl, hstored⟩⟩
    obtain ⟨hoffset, hsize⟩ := hcalls c hc
    show (c.offset : Int) ≤ bufSize ∧ (c.size : Int) ≤ bufSize - c.offset
    omega

/-- The encoder with a buffer that is not empty. -/
lemma writeStatisticsToBuffer_iff (lib : CLibrary) (h : stats.maxPrintersUsed ≤ maxPrinters)
    (mem : ℕ → Char)
    {bufSize : ℕ} (hpos : 0 < bufSize) (hint : bufSize < 2 ^ 31) :
    ∃ r, writeStatisticsToBuffer lib stats mem bufSize = some r ∧
      (RespectsBuffer bufSize r ↔
        432 + 76 * printersToReport stats + figureWidths lib stats < bufSize) := by
  obtain ⟨texts, htexts, hne, hnul, hsum⟩ := sum_statisticsTexts lib h
  refine ⟨((printAll bufSize mem texts).offset, printAll bufSize mem texts), ?_, ?_⟩
  · rw [writeStatisticsToBuffer, if_neg (by omega), htexts]
    rfl
  · rw [respectsBuffer_iff, printAll_respects_iff hpos (by omega) mem hnul hne, hsum]

/-- **When the encoder respects its buffer.**  For all statistics of at most `MAX_PRINTERS` printers
and every buffer size, the calls stay in the buffer and the result is the number of characters
stored, exactly when the figures leave room for the rest of the text and the terminator. -/
theorem statistics_fit_iff (lib : CLibrary) (stats : SimulationStatistics)
    (h : stats.maxPrintersUsed ≤ maxPrinters) (mem : ℕ → Char) {bufSize : Int}
    (hpos : 0 < bufSize) (hint : bufSize < 2 ^ 31) :
    ∃ r, writeStatisticsToBuffer lib stats mem bufSize = some r ∧
      (RespectsBuffer bufSize r ↔
        432 + 76 * (printersToReport stats : Int) + figureWidths lib stats < bufSize) := by
  obtain ⟨n, rfl⟩ := Int.eq_ofNat_of_zero_le hpos.le
  obtain ⟨r, hr, hiff⟩ := writeStatisticsToBuffer_iff lib h mem
    (show 0 < n by omega) (by omega)
  refine ⟨r, hr, hiff.trans ?_⟩
  omega

/-- What the formats write for a whole number of at most three digits. -/
def wholeText : Double → List Char
  | .num q => decimal q.num
  | .nan => "nan".toList

lemma nul_notMem_wholeText (x : Double) : nul ∉ wholeText x := by
  cases x with
  | nan => exact (by decide : nul ∉ "nan".toList)
  | num q => exact nul_notMem_decimal _

/-- The formats of such numbers, and the square roots of 0 and 1. -/
def wholeLibrary : CLibrary where
  general := ⟨wholeText, nul_notMem_wholeText⟩
  fixed := ⟨wholeText, nul_notMem_wholeText⟩
  sqrt x := x

/-- A run of four seconds and four jobs, each two seconds in the system, on two printers. -/
def fourServed : SimulationStatistics :=
  { SimulationStatistics.zero with
    simulationDurationUs := 4000000
    totalJobsArrived := 4
    totalJobsServed := 4
    totalInterArrivalTimeUs := 6000000
    totalSystemTimeUs := 8000000
    sumOfSystemTimeSquaredUs2 := 16000000000000
    totalQueueWaitTimeUs := 4000000
    areaNumInJobQueueUs := 4000000
    maxJobQueueLength := 2
    jobsServedByPrinter := fun i => if (i : ℕ) < 2 then 2 else 0
    printerPaperUsed := fun i => if (i : ℕ) < 2 then 45 else 0
    totalServiceTimePrinterUs := fun i => if (i : ℕ) < 2 then 4000000 else 0
    maxPrintersUsed := 2
    paperRefillEvents := 1
    totalRefillServiceTimeUs := 3000000
    papersRefilled := 75 }

/-- The statistics of that run fit into the buffer of `publish_statistics`. -/
theorem statistics_fit_iff_four_served :
    ∃ r, writeStatisticsToBuffer wholeLibrary fourServed (fun _ => nul) 4096 = some r ∧
      (RespectsBuffer 4096 r ↔ 432 + 76 * (printersToReport fourServed : Int) +
        figureWidths wholeLibrary fourServed < 4096) ∧ RespectsBuffer 4096 r := by
  have hwidths : figureWidths wholeLibrary fourServed = 29 := by decide +kernel
  obtain ⟨r, hr, hiff⟩ := statistics_fit_iff wholeLibrary fourServed (by decide) (fun _ => nul)
    (show (0 : Int) < 4096 by decide) (by decide)
  refine ⟨r, hr, hiff, hiff.mpr ?_⟩
  rw [hwidths]
  decide

/-- The formats of the number zero. -/
def zeroLibrary : CLibrary where
  general := ⟨fun _ => ['0'], fun _ => by decide⟩
  fixed := ⟨fun _ => ['0'], fun _ => by decide⟩
  sqrt x := x

/-- **A buffer of 64 bytes is overrun** by the statistics of a run without jobs. -/
theorem small_buffer_overrun :
    ∃ r, writeStatisticsToBuffer zeroLibrary .zero (fun _ => nul) 64 = some r ∧
      ¬RespectsBuffer 64 r := by
  have hprinters : SimulationStatistics.zero.maxPrintersUsed ≤ maxPrinters := by decide
  obtain ⟨r, hr, hiff⟩ := writeStatisticsToBuffer_iff zeroLibrary hprinters (fun _ => nul)
    (show 0 < 64 by decide) (by decide)
  refine ⟨r, hr, fun hrespects => ?_⟩
  have hlt := hiff.mp hrespects
  omega

end Orchestrator
