import Orchestrator.PoolHistory

/-!
# Scaling up under load

When a queue at the highest documented threshold makes the pool grow.

* `threshold_reached` — with a printer or more, only a lone one has a threshold above 25.
* `scale_up_possible` — the round scales up exactly when there are two printers and the next slot is
  free.
-/

namespace Orchestrator

/-- The call starts a printer in an inactive slot, returns 1 and counts it. -/
structure CallStartsPrinter (pool : PrinterPool) (c : ScaleCall) : Prop where
  returns : c.returns = 1
  activeCount : c.pool.activeCount = pool.activeCount + 1
  slot : ∃ i, (pool.printers i).active = false ∧
    ∀ j, (c.pool.printers j).active = if j = i then true else (pool.printers j).active

/-- The slot `scale_up` asks for is inactive. -/
def NextSlotFree (pool : PrinterPool) : Prop :=
  ∃ i : Slot, pool.activeCount = i ∧ (pool.printers i).active = false

instance (pool : PrinterPool) : Decidable (NextSlotFree pool) :=
  inferInstanceAs (Decidable (∃ _, _ ∧ _))

variable {pool : PrinterPool} {r : Round}

/-- The thresholds of the pools that can grow. -/
lemma threshold_reached {count : Int} {queueLength : ℕ} (hcount : 1 ≤ count ∧ count < 5)
    (hlong : 25 ≤ queueLength) :
    (queueLength : Int) ≥ getScaleUpThreshold count ↔ 2 ≤ count ∨ 999999 ≤ queueLength := by
  unfold getScaleUpThreshold configAutoscaleThreshold2Printers configAutoscaleThreshold3Printers
    configAutoscaleThreshold4Printers
  split
  · omega
  · split
    · omega
    · split
      · omega
      · omega

/-- After the cooldown, below the number of slots, the threshold decides. -/
lemma decidesUp_iff (hroom : pool.activeCount < 5)
    (hcool : configAutoscaleCooldownUs ≤ r.currentTimeUs - pool.lastScaleTimeUs) :
    DecidesUp pool r ↔ (r.queueLength : Int) ≥ getScaleUpThreshold pool.activeCount := by
  have hfull : ¬pool.activeCount ≥ maxPrinters := by simp only [maxPrinters]; omega
  unfold DecidesUp shouldScaleUp
  rw [if_neg hfull, if_neg (UInt64.not_lt.mpr hcool), decide_eq_true_eq]

/-- `printer_pool_start_printer` succeeds exactly when the next slot is free and the thread is
created. -/
lemma starts_iff (hcount : 0 ≤ pool.activeCount ∧ pool.activeCount < 5) :
    r.starts pool = true ↔ NextSlotFree pool ∧ r.createOk = true := by
  constructor
  · intro h
    obtain ⟨i, hi, hfree, hok⟩ := starts_slot h
    exact ⟨⟨i, hi, hfree⟩, hok⟩
  · rintro ⟨⟨i, hi, hfree⟩, hok⟩
    have hslot : slotOfIndex pool.activeCount = some i := slotOfIndex_eq_some.mpr hi
    have hroom : pool.activeCount < (maxPrinters : Int) := by simp only [maxPrinters]; omega
    simp [Round.starts, canStartPrinter, hslot, hroom, hfree, hok]

/-- A call of `scale_up` with room in the pool starts a printer exactly when the start succeeds. -/
lemma scaleUpCall_starts_iff (hcount : 0 ≤ pool.activeCount ∧ pool.activeCount < 5)
    (hok : r.createOk = true) :
    CallStartsPrinter pool (scaleUpCall pool r) ↔ NextSlotFree pool := by
  have hfull : ¬pool.activeCount ≥ maxPrinters := by simp only [maxPrinters]; omega
  by_cases hstarts : r.starts pool = true
  · have hfree := ((starts_iff hcount).mp hstarts).1
    obtain ⟨i, hi, hinactive⟩ := hfree
    have hscaled := scaleUpCall_rescaled hfull hstarts hi
    refine iff_of_true ⟨?_, hscaled.activeCount, i, hinactive, hscaled.active⟩ ⟨i, hi, hinactive⟩
    rw [scaleUpCall_started hfull hstarts]
  · refine iff_of_false ?_ fun hfree => hstarts ((starts_iff hcount).mpr ⟨hfree, hok⟩)
    intro h
    have hreturns := h.returns
    rw [scaleUpCall_failed hfull hstarts] at hreturns
    cases hreturns

/-- The writes of the printers do not free a slot. -/
lemma SameRoster.nextSlotFree {pool' : PrinterPool} (h : SameRoster pool pool') :
    NextSlotFree pool' ↔ NextSlotFree pool := by
  unfold NextSlotFree
  simp only [h.activeCount, h.active]

/-- **When load makes the pool grow.**  In every state of the pool with fewer than 5 active printers
that a history of rounds leads to, a round after the cooldown with 25 jobs or more in the queue,
whose thread creation would succeed, decides to scale up and starts a printer exactly when there are
two active printers (or 999999 jobs) and the slot after the first `active_count` is inactive. -/
theorem scale_up_possible {n : ℕ} (hn : 1 ≤ n ∧ n ≤ 5) (paperCapacity : Int)
    (history : List PoolStep) (r : Round)
    (hroom : (poolHistory n paperCapacity history).pool.activeCount < 5)
    (hcool : configAutoscaleCooldownUs ≤
      r.currentTimeUs - (poolHistory n paperCapacity history).pool.lastScaleTimeUs)
    (hlong : 25 ≤ r.queueLength) (hok : r.createOk = true) :
    let pool := (poolHistory n paperCapacity history).pool
    (DecidesUp pool r ∧ CallStartsPrinter (poolAtCall pool r) (scaleUpCall (poolAtCall pool r) r)) ↔
      (2 ≤ pool.activeCount ∨ 999999 ≤ r.queueLength) ∧ NextSlotFree pool := by
  have hrange := poolHistory_inRange hn paperCapacity history
  have hleast := hrange.least
  generalize (poolHistory n paperCapacity history).pool = pool at *
  have hsame := (poolAtCall_sameRoster pool r).1
  have hcount : 0 ≤ (poolAtCall pool r).activeCount ∧ (poolAtCall pool r).activeCount < 5 := by
    rw [hsame.activeCount]
    omega
  have hdecides : DecidesUp pool r ↔ 2 ≤ pool.activeCount ∨ 999999 ≤ r.queueLength :=
    (decidesUp_iff hroom hcool).trans (threshold_reached (by omega) hlong)
  have hstarts : CallStartsPrinter (poolAtCall pool r) (scaleUpCall (poolAtCall pool r) r) ↔
      NextSlotFree pool :=
    (scaleUpCall_starts_iff hcount hok).trans hsame.nextSlotFree
  exact and_congr hdecides hstarts

/-- A round with a long queue, three seconds after the last change. -/
def longQueue (now : ULong) : Round := ⟨⟨25, now, now, true⟩, [], 25⟩

/-- Two printers and a long queue. -/
theorem scale_up_possible_two_printers :
    let pool := (poolHistory 2 90 []).pool
    (DecidesUp pool (longQueue 3000000) ∧
        CallStartsPrinter (poolAtCall pool (longQueue 3000000))
          (scaleUpCall (poolAtCall pool (longQueue 3000000)) (longQueue 3000000))) ↔
      (2 ≤ pool.activeCount ∨ 999999 ≤ (longQueue 3000000).queueLength) ∧ NextSlotFree pool :=
  scale_up_possible (n := 2) (by decide) 90 [] (longQueue 3000000) (by decide) (by decide)
    (by decide)
    rfl

/-- A third and a fourth printer are started; the fourth is busy when the autoscaler scales down. -/
def busyLastPrinter : List PoolStep :=
  [quietRound 10 3000000 true, quietRound 15 6000000 true,
    .printer ⟨3, { ((startedPool 2 90).printers 3).printer with isIdle := false }⟩,
    quietRound 0 9000000 true, quietRound 0 14000000 true]

/-- **A pool that cannot grow.**  A lone printer has no threshold, and a pool with a gap decides to
scale up but asks for a printer that is active. -/
theorem scale_up_impossible :
    let lone := (poolHistory 1 90 []).pool
    let gap := (poolHistory 2 90 busyLastPrinter).pool
    (lone.activeCount < 5 ∧
        configAutoscaleCooldownUs ≤ (longQueue 3000000).currentTimeUs - lone.lastScaleTimeUs ∧
          ¬DecidesUp lone (longQueue 3000000)) ∧
      ClockRuns busyLastPrinter ∧ gap.activeCount < 5 ∧
        configAutoscaleCooldownUs ≤ (longQueue 17000000).currentTimeUs - gap.lastScaleTimeUs ∧
          DecidesUp gap (longQueue 17000000) ∧
            ¬CallStartsPrinter (poolAtCall gap (longQueue 17000000))
              (scaleUpCall (poolAtCall gap (longQueue 17000000)) (longQueue 17000000)) := by
  refine ⟨by decide, by decide, by decide +kernel, by decide +kernel, by decide +kernel, ?_⟩
  intro h
  have hreturns : (scaleUpCall
      (poolAtCall (poolHistory 2 90 busyLastPrinter).pool (longQueue 17000000))
      (longQueue 17000000)).returns = 0 := by decide +kernel
  rw [h.returns] at hreturns
  cases hreturns

end Orchestrator
