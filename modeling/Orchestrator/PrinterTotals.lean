import Orchestrator.Log.Agreement
import Orchestrator.SimulationStats
import Orchestrator.System
import Mathlib.Algebra.BigOperators.Fin
import Mathlib.Data.Rat.Cast.Order

/-!
# The figures of the printers and their totals

A departure is recorded in the figures of one printer, and the totals over all printers are computed
by loops that stop at `max_printers_used`.

* `sumOverUsed_eq` — a loop that stops early misses nothing if nothing is behind where it stops.
* `departures_recorded` — what a sequence of events adds to the figures of each printer.
* `printer_totals` — the figures add up to the totals.
-/

namespace Orchestrator

/-! ## Departures -/

/-- The job and the printer of a departure. -/
def Event.departure : Event → Option (Job × Printer)
  | .systemDeparture job printer => some (job, printer)
  | _ => none

/-- The departures in a sequence of log calls. -/
def departures (calls : List (ULong × Event)) : List (Job × Printer) :=
  calls.filterMap fun call => call.2.departure

/-- The time between the start and the end of a service. -/
def Job.serviceTime (job : Job) : Int :=
  (job.serviceDepartureTimeUs.toNat : Int) - job.serviceArrivalTimeUs.toNat

/-- The largest id of a printer that served a job. -/
def largestId (deps : List (Job × Printer)) : ℕ := (deps.map fun dep => dep.2.id).foldr max 0

/-- The part of a total that belongs to slot `i`. -/
def share {M : Type} [AddMonoid M] (f : Job × Printer → M) (deps : List (Job × Printer))
    (i : Slot) : M :=
  (deps.map fun dep => if slotOfIndex ((dep.2.id : Int) - 1) = some i then f dep else 0).sum

variable {deps : List (Job × Printer)} {M : Type}

/-- Every departure belongs to one slot. -/
lemma sum_share [AddCommMonoid M] (f : Job × Printer → M)
    (hids : ∀ dep ∈ deps, 1 ≤ dep.2.id ∧ dep.2.id ≤ maxPrinters) :
    ∑ i, share f deps i = (deps.map f).sum := by
  induction deps with
  | nil => simp [share]
  | cons dep deps ih =>
      have hslot : ∃ i, slotOfIndex ((dep.2.id : Int) - 1) = some i := by
        have hid := hids dep List.mem_cons_self
        refine ⟨_, dif_pos ⟨by omega, by omega⟩⟩
      obtain ⟨i, hi⟩ := hslot
      have hrest := ih fun dep hdep => hids dep (List.mem_cons_of_mem _ hdep)
      simp only [share, List.map_cons, List.sum_cons, Finset.sum_add_distrib] at hrest ⊢
      rw [hrest, hi]
      simp

/-- Nothing belongs to a slot from the largest id on. -/
lemma share_eq_zero [AddMonoid M] (f : Job × Printer → M)
    (hids : ∀ dep ∈ deps, 1 ≤ dep.2.id ∧ dep.2.id ≤ maxPrinters) {i : Slot}
    (hi : largestId deps ≤ i) : share f deps i = 0 := by
  induction deps with
  | nil => rfl
  | cons dep deps ih =>
      have hle : dep.2.id ≤ i := (le_max_left _ _).trans hi
      have hid := hids dep List.mem_cons_self
      have hne : slotOfIndex ((dep.2.id : Int) - 1) ≠ some i := by
        rw [slotOfIndex, dif_pos ⟨by omega, by omega⟩]
        intro heq
        have := congrArg Fin.val (Option.some.inj heq)
        simp only at this
        omega
      rw [share, List.map_cons, List.sum_cons, if_neg hne, zero_add]
      exact ih (fun dep hdep => hids dep (List.mem_cons_of_mem _ hdep))
        ((le_max_right _ _).trans hi)

/-! ## The loops -/

/-- **A loop that stops early** misses nothing if there is nothing from where it stops on. -/
lemma sumOverUsed_eq [AddCommMonoid M] {used : ℕ} {f : Slot → M}
    (hzero : ∀ i : Slot, used ≤ i → f i = 0) {is : List Slot}
    (hsorted : is.Pairwise (· < ·)) (total : M) :
    sumOverUsed used f is total = total + (is.map f).sum := by
  induction is generalizing total with
  | nil => simp [sumOverUsed]
  | cons i is ih =>
      obtain ⟨hlt, hrest⟩ := List.pairwise_cons.mp hsorted
      rw [sumOverUsed]
      by_cases hi : (i : ℕ) < used
      · rw [if_pos hi, ih hrest, List.map_cons, List.sum_cons, add_assoc]
      · have hall : ∀ x ∈ (i :: is).map f, x = 0 := by
          intro x hx
          obtain ⟨j, hj, rfl⟩ := List.mem_map.mp hx
          refine hzero j ?_
          rcases List.mem_cons.mp hj with rfl | hj
          · omega
          · have := hlt j hj
            have : (i : ℕ) < j := this
            omega
        rw [if_neg hi, List.sum_eq_zero hall, add_zero]

/-- Over all printers. -/
lemma sumOverUsed_finRange [AddCommMonoid M] {used : ℕ} {f : Slot → M}
    (hzero : ∀ i : Slot, used ≤ i → f i = 0) :
    sumOverUsed used f (List.finRange maxPrinters) 0 = ∑ i, f i := by
  rw [sumOverUsed_eq hzero (List.pairwise_lt_finRange _), zero_add, ← List.ofFn_eq_map,
    List.sum_ofFn]

/-- A loop over `unsigned long`s adds up the integers they stand for. -/
lemma sumOverUsed_ulongOfInt (used : ℕ) (f : Slot → Int) (is : List Slot) (total : Int) :
    sumOverUsed used (fun i => ulongOfInt (f i)) is (ulongOfInt total) =
      ulongOfInt (sumOverUsed used f is total) := by
  induction is generalizing total with
  | nil => rfl
  | cons i is ih =>
      rw [sumOverUsed, sumOverUsed]
      split
      · rw [← ulongOfInt_add, ih]
      · rfl

/-! ## What the departures add up to -/

/-- What was recorded of the printers. -/
structure PrinterFigures where
  served : ℕ
  jobs : Slot → ℕ
  papers : Slot → Int
  serviceUs : Slot → ULong
  largest : ℕ

/-- The figures of the printers in the statistics. -/
def SimulationStatistics.printerFigures (stats : SimulationStatistics) : PrinterFigures where
  served := stats.totalJobsServed
  jobs := stats.jobsServedByPrinter
  papers := stats.printerPaperUsed
  serviceUs := stats.totalServiceTimePrinterUs
  largest := stats.maxPrintersUsed

/-- The figures after some departures. -/
def PrinterFigures.add (v : PrinterFigures) (deps : List (Job × Printer)) : PrinterFigures where
  served := v.served + deps.length
  jobs i := v.jobs i + share (fun _ => 1) deps i
  papers i := v.papers i + share (fun dep => dep.1.papersRequired) deps i
  serviceUs i := v.serviceUs i + ulongOfInt (share (fun dep => dep.1.serviceTime) deps i)
  largest := max v.largest (largestId deps)

lemma share_cons [AddMonoid M] (f : Job × Printer → M) (dep : Job × Printer)
    (deps : List (Job × Printer)) (i : Slot) :
    share f (dep :: deps) i = share f [dep] i + share f deps i := by
  simp [share]

lemma PrinterFigures.add_nil (v : PrinterFigures) : v.add [] = v := by
  have hzero : ulongOfInt 0 = 0 := rfl
  simp [add, share, largestId, hzero]

lemma PrinterFigures.add_cons (v : PrinterFigures) (dep : Job × Printer)
    (deps : List (Job × Printer)) : (v.add [dep]).add deps = v.add (dep :: deps) := by
  have hlargest : largestId (dep :: deps) = max (largestId [dep]) (largestId deps) := by
    simp [largestId]
  simp only [add, mk.injEq]
  refine ⟨?_, ?_, ?_, ?_, ?_⟩
  · simp only [List.length_cons, List.length_nil]
    omega
  · funext i
    rw [share_cons _ dep deps, ← add_assoc]
  · funext i
    rw [share_cons _ dep deps, ← add_assoc]
  · funext i
    rw [share_cons _ dep deps, ulongOfInt_add, UInt64.add_assoc]
  · rw [hlargest, max_assoc]

/-- No other event touches them. -/
lemma emit_printerFigures (mode : LogMode) {e : Event} (d : Data) (h : e.departure = none) :
    (d.emit mode e).stats.printerFigures = d.stats.printerFigures := by
  cases mode <;> cases e <;> first | rfl | cases h

/-- Adding to the figure of one slot. -/
lemma update_add_share {N : Type} [Add N] [AddMonoid M] (φ : M → N) (hzero : ∀ x, x + φ 0 = x)
    (f : Job × Printer → M) {dep : Job × Printer} {i : Slot}
    (hi : slotOfIndex ((dep.2.id : Int) - 1) = some i) (figures : Slot → N) :
    Function.update figures i (figures i + φ (f dep)) =
      fun j => figures j + φ (share f [dep] j) := by
  funext j
  by_cases hj : j = i
  · subst hj
    simp [share, hi]
  · simp [share, hi, hj, Ne.symm hj, hzero]

/-- A departure is recorded for its printer. -/
lemma emit_departure_printerFigures (mode : LogMode) {dep : Job × Printer} (d : Data)
    (hid : 1 ≤ dep.2.id ∧ dep.2.id ≤ maxPrinters)
    (hint : -2 ^ 31 ≤ dep.1.serviceTime ∧ dep.1.serviceTime < 2 ^ 31) :
    (d.emit mode (.systemDeparture dep.1 dep.2)).stats.printerFigures =
      d.stats.printerFigures.add [dep] := by
  obtain ⟨i, hi⟩ : ∃ i, slotOfIndex ((dep.2.id : Int) - 1) = some i :=
    ⟨_, dif_pos ⟨by omega, by omega⟩⟩
  have hduration : intOfULong (dep.1.serviceDepartureTimeUs - dep.1.serviceArrivalTimeUs) =
      dep.1.serviceTime := intOfULong_sub hint.1 hint.2
  have hlargest : (if dep.2.id > d.stats.maxPrintersUsed then dep.2.id
      else d.stats.maxPrintersUsed) = max d.stats.maxPrintersUsed (largestId [dep]) := by
    simp only [largestId, List.map_cons, List.map_nil, List.foldr_cons, List.foldr_nil]
    split <;> omega
  have hrecord : (d.emit mode (.systemDeparture dep.1 dep.2)).stats.printerFigures =
      { served := d.stats.totalJobsServed + 1
        jobs := Function.update d.stats.jobsServedByPrinter i (d.stats.jobsServedByPrinter i + 1)
        papers := Function.update d.stats.printerPaperUsed i
          (d.stats.printerPaperUsed i + dep.1.papersRequired)
        serviceUs := Function.update d.stats.totalServiceTimePrinterUs i
          (d.stats.totalServiceTimePrinterUs i + ulongOfInt dep.1.serviceTime)
        largest := if dep.2.id > d.stats.maxPrintersUsed then dep.2.id
          else d.stats.maxPrintersUsed } := by
    rw [Data.emit_mode mode .server]
    simp only [Data.emit, Data.logger, websocketOps, Option.getD_some, publishSystemDeparture,
      publishDepartureOfPrinter, Event.job, Event.printer, hi, hduration,
      SimulationStatistics.printerFigures]
  rw [hrecord, PrinterFigures.add, hlargest,
    update_add_share (fun x : ℕ => x) (fun _ => rfl) (fun _ => 1) hi,
    update_add_share (fun x : Int => x) Int.add_zero (fun dep => dep.1.papersRequired) hi,
    update_add_share ulongOfInt UInt64.add_zero (fun dep => dep.1.serviceTime) hi]
  rfl

/-- The departures are from printers of the pool, and the service times fit in an `int`. -/
structure FromPool (deps : List (Job × Printer)) : Prop where
  ids : ∀ dep ∈ deps, 1 ≤ dep.2.id ∧ dep.2.id ≤ maxPrinters
  times : ∀ dep ∈ deps, -2 ^ 31 ≤ dep.1.serviceTime ∧ dep.1.serviceTime < 2 ^ 31

/-- **What a sequence of log events records of the printers.** -/
lemma departures_recorded (mode : LogMode) {calls : List (ULong × Event)}
    (h : FromPool (departures calls)) (d : Data) :
    (d.emitAll mode calls).stats.printerFigures =
      d.stats.printerFigures.add (departures calls) := by
  induction calls generalizing d with
  | nil => exact (PrinterFigures.add_nil _).symm
  | cons call calls ih =>
      rw [Data.emitAll_cons]
      cases hdep : call.2.departure with
      | none =>
          have hdeps : departures (call :: calls) = departures calls := by
            simp [departures, hdep]
          rw [hdeps] at h ⊢
          rw [ih h, emit_printerFigures mode _ hdep]
      | some dep =>
          obtain ⟨job, printer⟩ := dep
          have hcall : call.2 = .systemDeparture job printer := by
            cases hevent : call.2 with
            | systemDeparture job' printer' =>
                rw [hevent] at hdep
                cases hdep
                rfl
            | _ => rw [hevent] at hdep; cases hdep
          have hdeps : departures (call :: calls) = (job, printer) :: departures calls := by
            simp [departures, hdep]
          rw [hdeps] at h ⊢
          have hrest : FromPool (departures calls) :=
            ⟨fun dep hdep => h.ids dep (List.mem_cons_of_mem _ hdep),
              fun dep hdep => h.times dep (List.mem_cons_of_mem _ hdep)⟩
          rw [hcall, ih hrest, ← PrinterFigures.add_cons]
          congr 1
          exact @emit_departure_printerFigures mode (job, printer) _
            (h.ids _ List.mem_cons_self) (h.times _ List.mem_cons_self)

/-! ## The totals -/

/-- The figures of the printers add up to the totals, and these are those of the departures. -/
structure TotalsRight (stats : SimulationStatistics) (deps : List (Job × Printer)) : Prop where
  served : ∑ i, stats.jobsServedByPrinter i = stats.totalJobsServed
  largest : stats.maxPrintersUsed = largestId deps
  papers : calculateTotalPapersUsed stats = (deps.map fun dep => dep.1.papersRequired).sum
  service : stats.totalJobsServed = deps.length ∧
    calculateOverallAverageServiceTime stats =
      if deps = [] then .num 0
      else .num (((deps.map fun dep => dep.1.serviceTime).sum : Int) / deps.length / 1000000)

/-- **The figures of the printers add up to the totals.**  Through any sequence of log events, from
zero statistics, in which the printers have ids from 1 to `MAX_PRINTERS` and the service times fit
in an `int` and their sum in an `unsigned long`: the jobs of the printers add up to the jobs that
were served, `max_printers_used` is the largest id that served one, and the loops that stop there
find all the papers and all the service time.  In exact arithmetic the sum of the service times
always fits; the average is that of the exact sum. -/
theorem printer_totals (mode : LogMode) (d : Data) (hzero : d.stats = .zero)
    (calls : List (ULong × Event)) (hpool : FromPool (departures calls))
    (hfits : 0 ≤ ((departures calls).map fun dep => dep.1.serviceTime).sum ∧
      ((departures calls).map fun dep => dep.1.serviceTime).sum < 2 ^ 64) :
    TotalsRight (d.emitAll mode calls).stats (departures calls) := by
  have hfigures := departures_recorded mode hpool d
  rw [hzero] at hfigures
  generalize hstats : (d.emitAll mode calls).stats = stats at hfigures ⊢
  generalize departures calls = deps at hpool hfits hfigures ⊢
  have hserved : stats.totalJobsServed = deps.length :=
    (congrArg PrinterFigures.served hfigures).trans (Nat.zero_add _)
  have hjobs : ∀ i, stats.jobsServedByPrinter i = share (fun _ => 1) deps i := fun i =>
    (congrFun (congrArg PrinterFigures.jobs hfigures) i).trans (Nat.zero_add _)
  have hpapers : stats.printerPaperUsed = share (fun dep => dep.1.papersRequired) deps :=
    (congrArg PrinterFigures.papers hfigures).trans (funext fun i => Int.zero_add _)
  have hservice : stats.totalServiceTimePrinterUs =
      fun i => ulongOfInt (share (fun dep => dep.1.serviceTime) deps i) :=
    (congrArg PrinterFigures.serviceUs hfigures).trans (funext fun i => UInt64.zero_add _)
  have hlargest : stats.maxPrintersUsed = largestId deps :=
    (congrArg PrinterFigures.largest hfigures).trans (Nat.zero_max _)
  refine ⟨?_, hlargest, ?_, hserved, ?_⟩
  · simp only [hjobs]
    rw [sum_share _ hpool.ids, hserved]
    simp
  · rw [calculateTotalPapersUsed, hlargest, hpapers,
      sumOverUsed_finRange fun i hi => share_eq_zero _ hpool.ids hi, sum_share _ hpool.ids]
  · have hloop : sumOverUsed stats.maxPrintersUsed stats.totalServiceTimePrinterUs
        (List.finRange maxPrinters) 0 =
          ulongOfInt (deps.map fun dep => dep.1.serviceTime).sum := by
      rw [hlargest, hservice, ← sum_share _ hpool.ids,
        ← sumOverUsed_finRange fun i hi => share_eq_zero _ hpool.ids hi]
      exact sumOverUsed_ulongOfInt _ _ _ 0
    rw [calculateOverallAverageServiceTime, hserved, hloop]
    by_cases hnil : deps = []
    · rw [if_pos (by rw [hnil]; rfl), if_pos hnil]
    · have hne : deps.length ≠ 0 := fun h => hnil (List.eq_nil_of_length_eq_zero h)
      rw [if_neg hne, if_neg hnil]
      have hcast : (((ulongOfInt (deps.map fun dep => dep.1.serviceTime).sum).toNat : ℕ) : ℚ) =
          ((deps.map fun dep => dep.1.serviceTime).sum : Int) := by
        rw [← Int.cast_natCast, toNat_ulongOfInt hfits.1 hfits.2]
      simp only [Double.ofNat, Double.div_num (Nat.cast_ne_zero.mpr hne),
        Double.div_num (show (1000000 : ℚ) ≠ 0 by norm_num), hcast]

/-- A departure from the printer with an id, of a job with some papers and a service time. -/
def serviceBy (id : ℕ) (papers : Int) (serviceUs : ULong) : ULong × Event :=
  (serviceUs, .systemDeparture
    { initJob 1 200000 papers with serviceDepartureTimeUs := serviceUs }
    { ((freshData defaultServer).slot 0) with id := id })

/-- The third printer serves two jobs and the first one, and the second none. -/
theorem printer_totals_two_printers :
    let calls := [serviceBy 3 12 2400000, serviceBy 1 10 2000000, serviceBy 3 20 4000000]
    let stats := ((freshData defaultServer).emitAll .server calls).stats
    stats.maxPrintersUsed = 3 ∧ calculateTotalPapersUsed stats = 42 ∧
      calculateOverallAverageServiceTime stats = .num (14 / 5) ∧
      TotalsRight stats (departures calls) :=
  ⟨by decide +kernel, by decide +kernel, by decide +kernel,
    printer_totals .server (freshData defaultServer) rfl
      [serviceBy 3 12 2400000, serviceBy 1 10 2000000, serviceBy 3 20 4000000]
      ⟨by decide +kernel, by decide +kernel⟩ ⟨by decide +kernel, by decide +kernel⟩⟩

end Orchestrator
