import Orchestrator.ActiveSlots
import Mathlib.Data.Fintype.Fin

/-!
# Histories of the pool

The pool over any sequence of rounds of the autoscaler, with the printers at work between the rounds
and inside them.

* `PoolStep`, `poolHistory` — the histories, from the pool with its minimum of printers started.
* `round_cases` — a round keeps the roster, starts one printer or removes one.
* `scaling_bounded` — the count is right and in range, moves by one at a time, and two changes are a
  cooldown apart.
-/

namespace Orchestrator

/-! ## Histories -/

/-- What happens to the pool. -/
inductive PoolStep where
  | round (r : Round)
  | printer (w : PrinterWrite)

/-- The pool, the log events of the rounds so far, and the value of `last_scale_time_us` after each
change of `active_count`, both lists newest first. -/
structure PoolLog where
  pool : PrinterPool
  emitted : List Event
  changedAt : List ULong

/-- The history goes on with another pool. -/
def PoolLog.extend (s : PoolLog) (pool : PrinterPool) (emitted : List Event) : PoolLog where
  pool := pool
  emitted := emitted ++ s.emitted
  changedAt :=
    if pool.activeCount = s.pool.activeCount then s.changedAt
    else pool.lastScaleTimeUs :: s.changedAt

/-- One step of a history. -/
def PoolStep.apply (s : PoolLog) : PoolStep → PoolLog
  | .round r => s.extend (Orchestrator.round s.pool r).1 (Orchestrator.round s.pool r).2
  | .printer w => s.extend (s.pool.writeAll [w]) []

/-- A history of the pool with `n` printers at the start. -/
def poolHistory (n : ℕ) (paperCapacity : Int) (history : List PoolStep) : PoolLog :=
  history.foldl PoolStep.apply ⟨startedPool n paperCapacity, [], []⟩

/-- A round during which nothing moves but the autoscaler. -/
def quietRound (queueLength : ℕ) (now : ULong) (createOk : Bool) : PoolStep :=
  .round ⟨⟨queueLength, now, now, createOk⟩, [], queueLength⟩

/-- What a step reads from the clock. -/
def PoolStep.readings : PoolStep → List ULong
  | .round r => [r.currentTimeUs, r.scaleTimeUs]
  | .printer _ => []

/-- The clock readings of a history never go back. -/
def ClockRuns (history : List PoolStep) : Prop :=
  (history.flatMap PoolStep.readings).Pairwise (· ≤ ·)

instance (history : List PoolStep) : Decidable (ClockRuns history) :=
  inferInstanceAs (Decidable (List.Pairwise _ _))

/-- The number of active slots. -/
def activeSlots (pool : PrinterPool) : ℕ :=
  (Finset.univ.filter fun i => (pool.printers i).active = true).card

lemma poolHistory_append (n : ℕ) (paperCapacity : Int) (history : List PoolStep) (e : PoolStep) :
    poolHistory n paperCapacity (history ++ [e]) =
      e.apply (poolHistory n paperCapacity history) := by
  simp [poolHistory, List.foldl_append]

/-! ## What writes and decisions leave alone -/

/-- The counts, the flags and the time of the last change are the same. -/
structure SameRoster (pool pool' : PrinterPool) : Prop where
  activeCount : pool'.activeCount = pool.activeCount
  minCount : pool'.minCount = pool.minCount
  lastScaleTimeUs : pool'.lastScaleTimeUs = pool.lastScaleTimeUs
  active : ∀ i, (pool'.printers i).active = (pool.printers i).active

lemma SameRoster.refl (pool : PrinterPool) : SameRoster pool pool := ⟨rfl, rfl, rfl, fun _ => rfl⟩

lemma SameRoster.trans {p q r : PrinterPool} (h : SameRoster p q) (h' : SameRoster q r) :
    SameRoster p r where
  activeCount := h'.activeCount.trans h.activeCount
  minCount := h'.minCount.trans h.minCount
  lastScaleTimeUs := h'.lastScaleTimeUs.trans h.lastScaleTimeUs
  active i := (h'.active i).trans (h.active i)

/-- Printers that write their own fields change nothing else. -/
lemma writeAll_sameRoster (pool : PrinterPool) (writes : List PrinterWrite) :
    SameRoster pool (pool.writeAll writes) ∧
      (pool.writeAll writes).lowQueueStartTimeUs = pool.lowQueueStartTimeUs := by
  induction writes generalizing pool with
  | nil => exact ⟨.refl pool, rfl⟩
  | cons w writes ih =>
      have hone : SameRoster pool (pool.modifyPrinter w.slot fun _ => w.printer) := by
        refine ⟨rfl, rfl, rfl, fun i => ?_⟩
        by_cases hi : i = w.slot
        · subst hi
          simp [PrinterPool.modifyPrinter]
        · simp [PrinterPool.modifyPrinter, hi]
      obtain ⟨hrest, hlow⟩ := ih (pool.modifyPrinter w.slot fun _ => w.printer)
      exact ⟨hone.trans hrest, hlow⟩

/-- The decision against or for a scale-down changes the low-queue time at most. -/
lemma shouldScaleDown_sameRoster (pool : PrinterPool) (queueLength : ℕ) (now : ULong) :
    SameRoster pool (shouldScaleDown pool queueLength now).2 := by
  obtain ⟨low, h⟩ := shouldScaleDown_pool pool queueLength now
  rw [h]
  exact ⟨rfl, rfl, rfl, fun _ => rfl⟩

lemma decideScaling_sameRoster (pool : PrinterPool) (r : Round) :
    SameRoster pool (decideScaling pool r).2 := by
  unfold decideScaling
  split
  · exact .refl pool
  · exact shouldScaleDown_sameRoster pool r.queueLength r.currentTimeUs

lemma poolAtCall_sameRoster (pool : PrinterPool) (r : Round) :
    SameRoster pool (poolAtCall pool r) ∧
      (poolAtCall pool r).lowQueueStartTimeUs = (decideScaling pool r).2.lowQueueStartTimeUs := by
  obtain ⟨hwrites, hlow⟩ := writeAll_sameRoster (decideScaling pool r).2 r.writes
  exact ⟨(decideScaling_sameRoster pool r).trans hwrites, hlow⟩

/-! ## What a round does -/

/-- The flag of slot `i` is `b` now, the count is `count`, and the time of the change is noted. -/
structure Rescaled (pool pool' : PrinterPool) (i : Slot) (b : Bool) (count : Int) (now : ULong) :
    Prop where
  active : ∀ j, (pool'.printers j).active = if j = i then b else (pool.printers j).active
  activeCount : pool'.activeCount = count
  minCount : pool'.minCount = pool.minCount
  lastScaleTimeUs : pool'.lastScaleTimeUs = now
  lowQueueStartTimeUs : pool'.lowQueueStartTimeUs = 0

/-- A flag that is set in a pool with the same roster as before. -/
lemma Rescaled.of_sameRoster {pool left pool' : PrinterPool} {i : Slot} {b : Bool} {count : Int}
    {now : ULong} (h : SameRoster pool left) (h' : Rescaled left pool' i b count now) :
    Rescaled pool pool' i b count now :=
  { h' with
    active := fun j => by rw [h'.active j, h.active j]
    minCount := h'.minCount.trans h.minCount }

/-- `printer_pool_start_printer` succeeds with the next printer only if that has a free slot. -/
lemma starts_slot {pool : PrinterPool} {r : Round} (h : r.starts pool = true) :
    ∃ i : Slot, pool.activeCount = i ∧ (pool.printers i).active = false ∧ r.createOk = true := by
  simp only [Round.starts, Bool.and_eq_true, canStartPrinter] at h
  obtain ⟨hcan, hok⟩ := h
  split at hcan
  · next i hi =>
    simp only [Bool.and_eq_true, decide_eq_true_eq, Bool.not_eq_true'] at hcan
    exact ⟨i, by have := slotOfIndex_eq_some.mp hi; omega, hcan.2, hok⟩
  · cases hcan

/-- The pool of a successful `scale_up`. -/
lemma scaleUpCall_rescaled {pool : PrinterPool} {r : Round} {i : Slot}
    (hroom : ¬pool.activeCount ≥ maxPrinters) (h : r.starts pool = true)
    (hi : pool.activeCount = i) :
    Rescaled pool (scaleUpCall pool r).pool i true (pool.activeCount + 1) r.scaleTimeUs := by
  have hslot : slotOfIndex (pool.activeCount + 1 - 1) = some i :=
    slotOfIndex_eq_some.mpr (by omega)
  rw [scaleUpCall_started hroom h, markStarted, hslot]
  exact ⟨fun j => setActive_active pool i j true, rfl, rfl, rfl, rfl⟩

/-- The pool of a successful `scale_down`. -/
lemma scaleDownCall_rescaled {pool : PrinterPool} {r : Round} {i : Slot}
    (hmore : ¬pool.activeCount ≤ pool.minCount) (h : printerToRemove pool = some i) :
    Rescaled pool (scaleDownCall pool r).pool i false (pool.activeCount - 1) r.scaleTimeUs := by
  rw [scaleDownCall_some hmore h]
  exact ⟨fun j => setActive_active pool i j false, rfl, rfl, rfl, rfl⟩

/-- The round decides to scale up. -/
def DecidesUp (pool : PrinterPool) (r : Round) : Prop :=
  shouldScaleUp pool r.queueLength r.currentTimeUs = true

/-- The round decides to scale down. -/
def DecidesDown (pool : PrinterPool) (r : Round) : Prop :=
  ¬DecidesUp pool r ∧ (shouldScaleDown pool r.queueLength r.currentTimeUs).1 = true

instance (pool : PrinterPool) (r : Round) : Decidable (DecidesUp pool r) :=
  inferInstanceAs (Decidable (_ = _))

instance (pool : PrinterPool) (r : Round) : Decidable (DecidesDown pool r) :=
  inferInstanceAs (Decidable (_ ∧ _))

/-- The decisions of a round. -/
lemma decideScaling_cases (pool : PrinterPool) (r : Round) :
    (DecidesUp pool r ∧ (decideScaling pool r).1 = some .scaleUp ∧
        (decideScaling pool r).2 = pool) ∨
      (DecidesDown pool r ∧ (decideScaling pool r).1 = some .scaleDown ∧
        (decideScaling pool r).2 = pool) ∨
      (¬DecidesUp pool r ∧ (decideScaling pool r).1 = none ∧
        (decideScaling pool r).2 = (shouldScaleDown pool r.queueLength r.currentTimeUs).2) := by
  by_cases hup : DecidesUp pool r
  · have hd := decideScaling_up hup
    exact .inl ⟨hup, by rw [hd], by rw [hd]⟩
  · by_cases hdown : (shouldScaleDown pool r.queueLength r.currentTimeUs).1 = true
    · have hd := decideScaling_down hup hdown
      exact .inr (.inl ⟨⟨hup, hdown⟩, by rw [hd], by rw [hd]; exact (shouldScaleDown_true hdown).1⟩)
    · have hd := decideScaling_none hup hdown
      exact .inr (.inr ⟨hup, by rw [hd], by rw [hd]⟩)

/-- In a full pool no start succeeds. -/
lemma starts_room {pool : PrinterPool} {r : Round} (h : r.starts pool = true) :
    ¬pool.activeCount ≥ maxPrinters := by
  obtain ⟨i, hi, -, -⟩ := starts_slot h
  have := i.isLt
  omega

/-- `scale_up` starts the next printer or leaves the pool as it is. -/
lemma scaleUpCall_cases (pool : PrinterPool) (r : Round) :
    (¬r.starts pool = true ∧ (scaleUpCall pool r).pool = pool) ∨
      (r.starts pool = true ∧ ∃ i : Slot, pool.activeCount = i ∧
        (pool.printers i).active = false ∧
          Rescaled pool (scaleUpCall pool r).pool i true (pool.activeCount + 1)
            r.scaleTimeUs) := by
  by_cases hstarts : r.starts pool = true
  · right
    obtain ⟨i, hi, hfree, -⟩ := starts_slot hstarts
    exact ⟨hstarts, i, hi, hfree, scaleUpCall_rescaled (starts_room hstarts) hstarts hi⟩
  · left
    refine ⟨hstarts, ?_⟩
    by_cases hfull : pool.activeCount ≥ maxPrinters
    · rw [scaleUpCall_full hfull]
    · rw [scaleUpCall_failed hfull hstarts]

/-- `scale_down` removes a printer above the minimum or leaves the pool as it is. -/
lemma scaleDownCall_cases (pool : PrinterPool) (r : Round) :
    (scaleDownCall pool r).pool = pool ∨
      (pool.minCount < pool.activeCount ∧ ∃ i : Slot, printerToRemove pool = some i ∧
        Rescaled pool (scaleDownCall pool r).pool i false (pool.activeCount - 1)
          r.scaleTimeUs) := by
  by_cases hleast : pool.activeCount ≤ pool.minCount
  · left
    rw [scaleDownCall_least hleast]
  · cases hremove : printerToRemove pool with
    | none =>
        left
        rw [scaleDownCall_none hleast hremove]
    | some i => exact .inr ⟨by omega, i, rfl, scaleDownCall_rescaled hleast hremove⟩

/-- Whether a start succeeds does not depend on what the printers write. -/
lemma SameRoster.starts {pool pool' : PrinterPool} (h : SameRoster pool pool') (r : Round) :
    r.starts pool' = r.starts pool := by
  unfold Round.starts canStartPrinter
  simp only [h.activeCount, h.active]

/-- **A round keeps the roster, starts one printer or removes one.** -/
theorem round_cases (pool : PrinterPool) (r : Round) :
    ((DecidesUp pool r → ¬r.starts pool = true) ∧ SameRoster pool (round pool r).1 ∧
        (round pool r).1.lowQueueStartTimeUs = (decideScaling pool r).2.lowQueueStartTimeUs) ∨
      (DecidesUp pool r ∧ r.starts pool = true ∧ ∃ i : Slot, pool.activeCount = i ∧
        (pool.printers i).active = false ∧
          Rescaled pool (round pool r).1 i true (pool.activeCount + 1) r.scaleTimeUs) ∨
      (DecidesDown pool r ∧ pool.minCount < pool.activeCount ∧
        ∃ i, printerToRemove (poolAtCall pool r) = some i ∧
          Rescaled pool (round pool r).1 i false (pool.activeCount - 1) r.scaleTimeUs) := by
  obtain ⟨hsame, hlow⟩ := poolAtCall_sameRoster pool r
  have hcount := hsame.activeCount
  rcases decideScaling_cases pool r with ⟨hup, hdecide, -⟩ | ⟨hdown, hdecide, -⟩ |
    ⟨hup, hdecide, -⟩
  · have hround : (round pool r).1 = (scaleUpCall (poolAtCall pool r) r).pool := by
      rw [(round_of_call hdecide).2, ScaleOperation.call]
    rw [hround, ← hsame.starts r]
    rcases scaleUpCall_cases (poolAtCall pool r) r with ⟨hfails, hstay⟩ |
      ⟨hstarts, i, hi, hfree, hscaled⟩
    · left
      rw [hstay]
      exact ⟨fun _ => hfails, hsame, hlow⟩
    · right; left
      rw [hcount] at hi hscaled
      exact ⟨hup, hstarts, i, hi, by rw [← hsame.active i, hfree], .of_sameRoster hsame hscaled⟩
  · have hround : (round pool r).1 = (scaleDownCall (poolAtCall pool r) r).pool := by
      rw [(round_of_call hdecide).2, ScaleOperation.call]
    rw [hround]
    rcases scaleDownCall_cases (poolAtCall pool r) r with hstay | ⟨hmore, i, hi, hscaled⟩
    · left
      rw [hstay]
      exact ⟨fun hup => absurd hup hdown.1, hsame, hlow⟩
    · right; right
      rw [hcount, hsame.minCount] at hmore
      rw [hcount] at hscaled
      exact ⟨hdown, hmore, i, hi, .of_sameRoster hsame hscaled⟩
  · left
    rw [(round_of_none hdecide).2]
    exact ⟨fun h => absurd h hup, hsame, hlow⟩

/-! ## The count and its range -/

/-- The number of active slots after a change of one flag. -/
lemma Rescaled.activeSlots_add {pool pool' : PrinterPool} {i : Slot} {count : Int} {now : ULong}
    (h : Rescaled pool pool' i true count now) (hfree : (pool.printers i).active = false) :
    activeSlots pool' = activeSlots pool + 1 := by
  have hset : (Finset.univ.filter fun j => (pool'.printers j).active = true) =
      insert i (Finset.univ.filter fun j => (pool.printers j).active = true) := by
    ext j
    by_cases hj : j = i
    · subst hj
      simp [h.active j]
    · simp [h.active j, hj]
  rw [activeSlots, hset, Finset.card_insert_of_notMem (by simp [hfree])]
  rfl

lemma Rescaled.activeSlots_sub {pool pool' : PrinterPool} {i : Slot} {count : Int} {now : ULong}
    (h : Rescaled pool pool' i false count now) (hset : (pool.printers i).active = true) :
    activeSlots pool' + 1 = activeSlots pool := by
  have herase : (Finset.univ.filter fun j => (pool'.printers j).active = true) =
      (Finset.univ.filter fun j => (pool.printers j).active = true).erase i := by
    ext j
    by_cases hj : j = i
    · subst hj
      simp [h.active j]
    · simp [h.active j, hj]
  rw [activeSlots, herase]
  exact Finset.card_erase_add_one (by simp [hset])

lemma SameRoster.activeSlots {pool pool' : PrinterPool} (h : SameRoster pool pool') :
    activeSlots pool' = activeSlots pool := by
  unfold Orchestrator.activeSlots
  simp only [h.active]

/-- What holds of the pool in every state of a history. -/
structure PoolInRange (n : ℕ) (pool : PrinterPool) : Prop where
  minCount : pool.minCount = n
  count : pool.activeCount = activeSlots pool
  least : (n : Int) ≤ pool.activeCount
  most : pool.activeCount ≤ 5

variable {n : ℕ} {pool pool' : PrinterPool} {r : Round}

lemma PoolInRange.of_sameRoster (h : PoolInRange n pool) (hsame : SameRoster pool pool') :
    PoolInRange n pool' where
  minCount := hsame.minCount.trans h.minCount
  count := by rw [hsame.activeCount, hsame.activeSlots, h.count]
  least := by rw [hsame.activeCount]; exact h.least
  most := by rw [hsame.activeCount]; exact h.most

/-- The printer `scale_down` chooses is active. -/
lemma printerToRemove_some {i : Slot} (h : printerToRemove pool = some i) :
    (pool.printers i).active = true ∧ (pool.printers i).printer.isIdle = true ∧
      pool.minCount ≤ i := by
  obtain ⟨htest, hlow, -, -⟩ := scanSlotsDown_some h
  simp only [Bool.and_eq_true] at htest
  exact ⟨htest.1, htest.2, hlow⟩

/-- **One round** keeps the count right and in range, and moves it by at most one. -/
lemma round_inRange (h : PoolInRange n pool) (r : Round) :
    PoolInRange n (round pool r).1 ∧ pool.activeCount - 1 ≤ (round pool r).1.activeCount ∧
      (round pool r).1.activeCount ≤ pool.activeCount + 1 := by
  have hcount := h.count
  have hleast := h.least
  have hmost := h.most
  rcases round_cases pool r with ⟨-, hsame, -⟩ | ⟨-, -, i, hi, hfree, hscaled⟩ |
    ⟨-, hmore, i, hi, hscaled⟩
  · have := hsame.activeCount
    exact ⟨h.of_sameRoster hsame, by omega, by omega⟩
  · have hactive := hscaled.activeCount
    have hslots := hscaled.activeSlots_add hfree
    have hlt := i.isLt
    simp only [maxPrinters] at hlt
    refine ⟨⟨hscaled.minCount.trans h.minCount, ?_, ?_, ?_⟩, by omega, by omega⟩
    · rw [hactive, hslots]; push_cast; omega
    · omega
    · omega
  · have hactive := hscaled.activeCount
    have hset : (pool.printers i).active = true := by
      rw [← (poolAtCall_sameRoster pool r).1.active i]
      exact (printerToRemove_some hi).1
    have hslots := hscaled.activeSlots_sub hset
    have hmin := h.minCount
    refine ⟨⟨hscaled.minCount.trans hmin, ?_, ?_, ?_⟩, by omega, by omega⟩
    · rw [hactive]; omega
    · omega
    · omega

lemma startedPool_inRange (hn : 1 ≤ n ∧ n ≤ 5) (paperCapacity : Int) :
    PoolInRange n (startedPool n paperCapacity) := by
  obtain ⟨hfirst, hcount, hmin, -, -⟩ := startedPool_started (n := n) hn.2 paperCapacity
  refine ⟨hmin, ?_, by omega, by omega⟩
  have hset : ∀ i : Slot,
      ((startedPool n paperCapacity).printers i).active = true ↔ (i : ℕ) < n := by
    intro i
    rw [hfirst i, hcount]
    omega
  have hcard : (Finset.univ.filter fun i : Slot => (i : ℕ) < n).card = min maxPrinters n :=
    Fin.card_filter_val_lt
  rw [hcount, activeSlots]
  simp only [hset, hcard, maxPrinters]
  omega

lemma PoolStep.apply_inRange {s : PoolLog} (h : PoolInRange n s.pool) (e : PoolStep) :
    PoolInRange n (e.apply s).pool := by
  cases e with
  | round r => exact (round_inRange h r).1
  | printer w => exact h.of_sameRoster (writeAll_sameRoster s.pool [w]).1

/-- The count is right and in range in every state of every history. -/
lemma poolHistory_inRange (hn : 1 ≤ n ∧ n ≤ 5) (paperCapacity : Int) (history : List PoolStep) :
    PoolInRange n (poolHistory n paperCapacity history).pool := by
  induction history using List.reverseRecOn with
  | nil => exact startedPool_inRange hn paperCapacity
  | append_singleton done e ih =>
      rw [poolHistory_append]
      exact e.apply_inRange ih

/-! ## The time between two changes -/

/-- A step that leaves the count alone is no change. -/
lemma PoolStep.apply_changedAt {s : PoolLog} {e : PoolStep}
    (h : (e.apply s).pool.activeCount = s.pool.activeCount) :
    (e.apply s).changedAt = s.changedAt := by
  cases e with
  | round r => exact if_pos h
  | printer w => exact if_pos h

/-- A cooldown passes from one time to another. -/
def CooldownApart (later earlier : ULong) : Prop :=
  earlier.toNat + configAutoscaleCooldownUs.toNat ≤ later.toNat

/-- The time of the last change was read from the clock, and each change came a cooldown after the
one before. -/
structure Spaced (s : PoolLog) (readings : List ULong) : Prop where
  last : s.pool.lastScaleTimeUs = 0 ∨ s.pool.lastScaleTimeUs ∈ readings
  head : ∀ time ∈ s.changedAt.head?, s.pool.lastScaleTimeUs = time
  spaced : s.changedAt.IsChain CooldownApart

/-- A round that decides on an operation finds the cooldown elapsed. -/
lemma cooldown_of_decides (h : DecidesUp pool r ∨ DecidesDown pool r) :
    configAutoscaleCooldownUs ≤ r.currentTimeUs - pool.lastScaleTimeUs := by
  rcases h with h | h
  · rw [← UInt64.not_lt]
    intro hlt
    simp [DecidesUp, shouldScaleUp, hlt] at h
  · exact (shouldScaleDown_true h.2).2.2.1

/-- The difference of two readings in order does not wrap. -/
lemma toNat_sub_of_reading {now last : ULong} {readings : List ULong}
    (hlast : last = 0 ∨ last ∈ readings) (hnow : ∀ x ∈ readings, x ≤ now) :
    (now - last).toNat = now.toNat - last.toNat ∧ last.toNat ≤ now.toNat := by
  have hle : last ≤ now := by
    rcases hlast with rfl | hmem
    · exact UInt64.zero_le
    · exact hnow last hmem
  exact ⟨UInt64.toNat_sub_of_le now last hle, UInt64.le_iff_toNat_le.mp hle⟩

/-- A round whose clock readings come after all earlier ones keeps the changes spaced. -/
lemma round_spaced {s : PoolLog} {readings : List ULong} (h : Spaced s readings)
    (hnow : ∀ x ∈ readings, x ≤ r.currentTimeUs) (hscale : r.currentTimeUs ≤ r.scaleTimeUs) :
    Spaced ((PoolStep.round r).apply s) (readings ++ [r.currentTimeUs, r.scaleTimeUs]) := by
  -- a change is noted in front of the others
  have hchange : ∀ {i : Slot} {b : Bool} {count : Int},
      Rescaled s.pool (round s.pool r).1 i b count r.scaleTimeUs → count ≠ s.pool.activeCount →
        DecidesUp s.pool r ∨ DecidesDown s.pool r →
          Spaced ((PoolStep.round r).apply s) (readings ++ [r.currentTimeUs, r.scaleTimeUs]) := by
    intro i b count hscaled hne hdecides
    have hcool := UInt64.le_iff_toNat_le.mp (cooldown_of_decides hdecides)
    obtain ⟨hsub, hle⟩ := toNat_sub_of_reading h.last hnow
    have hscale' := UInt64.le_iff_toNat_le.mp hscale
    have hlist : ((PoolStep.round r).apply s).changedAt = r.scaleTimeUs :: s.changedAt := by
      simp [PoolStep.apply, PoolLog.extend, hscaled.activeCount, hne, hscaled.lastScaleTimeUs]
    have hlast : ((PoolStep.round r).apply s).pool.lastScaleTimeUs = r.scaleTimeUs :=
      hscaled.lastScaleTimeUs
    refine ⟨?_, ?_, ?_⟩
    · rw [hlast]
      exact .inr (by simp)
    · rw [hlist, hlast]
      intro time htime
      exact Option.some.inj htime
    · rw [hlist]
      refine List.isChain_cons.mpr ⟨fun time htime => ?_, h.spaced⟩
      rw [CooldownApart, ← h.head time htime]
      omega
  rcases round_cases s.pool r with ⟨-, hsame, -⟩ | ⟨hup, -, i, -, -, hscaled⟩ |
    ⟨hdown, -, i, -, hscaled⟩
  · have hlist : ((PoolStep.round r).apply s).changedAt = s.changedAt :=
      PoolStep.apply_changedAt hsame.activeCount
    have hlast : ((PoolStep.round r).apply s).pool.lastScaleTimeUs = s.pool.lastScaleTimeUs :=
      hsame.lastScaleTimeUs
    refine ⟨?_, ?_, ?_⟩
    · rw [hlast]
      exact h.last.imp id fun hmem => List.mem_append_left _ hmem
    · rw [hlist, hlast]
      exact h.head
    · rw [hlist]
      exact h.spaced
  · exact hchange hscaled (by omega) (.inl hup)
  · exact hchange hscaled (by omega) (.inr hdown)

/-- The changes of every history are spaced. -/
lemma poolHistory_spaced (hn : n ≤ 5) (paperCapacity : Int) (history : List PoolStep)
    (hclock : ClockRuns history) :
    Spaced (poolHistory n paperCapacity history) (history.flatMap PoolStep.readings) := by
  induction history using List.reverseRecOn with
  | nil =>
      obtain ⟨-, -, -, hlast, -⟩ := startedPool_started (n := n) hn paperCapacity
      refine ⟨.inl hlast, ?_, List.isChain_nil⟩
      intro time htime
      cases htime
  | append_singleton done e ih =>
      rw [ClockRuns, List.flatMap_append, List.pairwise_append] at hclock
      obtain ⟨hdone, hstep, hlater⟩ := hclock
      rw [poolHistory_append, List.flatMap_append]
      have h := ih hdone
      cases e with
      | round r =>
          refine round_spaced h (fun x hx => hlater x hx _ (by simp [PoolStep.readings])) ?_
          simpa [PoolStep.readings] using hstep
      | printer w =>
          have hsame := (writeAll_sameRoster (poolHistory n paperCapacity done).pool [w]).1
          have hlist : ((PoolStep.printer w).apply (poolHistory n paperCapacity done)).changedAt =
              (poolHistory n paperCapacity done).changedAt :=
            PoolStep.apply_changedAt hsame.activeCount
          refine ⟨?_, ?_, ?_⟩
          · rw [PoolStep.apply, PoolLog.extend, hsame.lastScaleTimeUs]
            exact h.last.imp id fun hmem => List.mem_append_left _ hmem
          · rw [hlist, PoolStep.apply, PoolLog.extend, hsame.lastScaleTimeUs]
            exact h.head
          · rw [hlist]
            exact h.spaced

/-- **Scaling is bounded and rate-limited.**  From the pool with its minimum of 1 to 5 printers
started, through any rounds of the autoscaler whose clock readings never go back and with the
printers at work at any point: `active_count` is the number of active slots and lies between the
minimum and 5, no round moves it by more than one, and the values of `last_scale_time_us` at two
successive changes of it are a cooldown apart. -/
theorem scaling_bounded {n : ℕ} (hn : 1 ≤ n ∧ n ≤ 5) (paperCapacity : Int)
    (history : List PoolStep) (hclock : ClockRuns history) :
    let s := poolHistory n paperCapacity history
    s.pool.activeCount = activeSlots s.pool ∧
      (n ≤ s.pool.activeCount ∧ s.pool.activeCount ≤ 5) ∧
      (∀ r, s.pool.activeCount - 1 ≤ (round s.pool r).1.activeCount ∧
        (round s.pool r).1.activeCount ≤ s.pool.activeCount + 1) ∧
      s.changedAt.IsChain CooldownApart := by
  have hrange := poolHistory_inRange hn paperCapacity history
  have hspaced := poolHistory_spaced hn.2 paperCapacity history hclock
  exact ⟨hrange.count, ⟨hrange.least, hrange.most⟩, fun r => (round_inRange hrange r).2,
    hspaced.spaced⟩

/-- A third printer is started under load, and removed when the queue has been short for long. -/
def loadComesAndGoes : List PoolStep :=
  [quietRound 10 3000000 true, quietRound 0 6000000 true, quietRound 0 11000000 true]

/-- The pool of two printers during these rounds; both changes happen. -/
theorem scaling_bounded_under_load :
    let s := poolHistory 2 90 loadComesAndGoes
    (s.pool.activeCount = activeSlots s.pool ∧
      (2 ≤ s.pool.activeCount ∧ s.pool.activeCount ≤ 5) ∧
      (∀ r, s.pool.activeCount - 1 ≤ (round s.pool r).1.activeCount ∧
        (round s.pool r).1.activeCount ≤ s.pool.activeCount + 1) ∧
      s.changedAt.IsChain CooldownApart) ∧
      s.changedAt = [11000000, 3000000] :=
  ⟨scaling_bounded (n := 2) (by decide) 90 loadComesAndGoes (by decide), by decide +kernel⟩

end Orchestrator
