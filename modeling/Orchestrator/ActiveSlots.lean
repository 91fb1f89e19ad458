import Orchestrator.AutoscalerRounds
import Mathlib.Data.List.Induction

/-!
# The active slots of the pool

Whether the autoscaler keeps the active printers in the first slots.  `scale_up` takes the number of
the new printer from the count, and the scans for a printer to remove look only below it.

* `tick_activeFirst` — one round.
* `active_slots_first` — the active printers fill the first slots throughout exactly when each
  scale-down finds the last one of them idle.
-/

namespace Orchestrator

/-! ## Histories of the pool -/

/-- What happens to the pool between two states of interest. -/
inductive PoolEvent where
  | tick (t : Tick)
  /-- the printer in slot `i` writes its own fields -/
  | printer (i : Slot) (isIdle : Bool) (lastJobCompletionTimeUs : ULong)

/-- The pool after an event. -/
def PoolEvent.apply (pool : PrinterPool) : PoolEvent → PrinterPool
  | .tick t => Orchestrator.tick pool t
  | .printer i isIdle last =>
      pool.modifyPrinter i fun p =>
        { p with isIdle := isIdle, lastJobCompletionTimeUs := last }

/-- The pool after a sequence of events. -/
def poolRun (pool : PrinterPool) (events : List PoolEvent) : PrinterPool :=
  events.foldl PoolEvent.apply pool

/-- The pool when the first `n` printers are started. -/
def startedPool (n : ℕ) (paperCapacity : Int) : PrinterPool :=
  (List.range n).foldl (fun pool (k : ℕ) => markStarted pool (k + 1))
    (printerPoolInit n paperCapacity)

/-- The active printers are the first ones. -/
def ActiveFirst (pool : PrinterPool) : Prop :=
  ∀ i : Slot, (pool.printers i).active = true ↔ (i : Int) < pool.activeCount

instance (pool : PrinterPool) : Decidable (ActiveFirst pool) :=
  inferInstanceAs (Decidable (∀ _, _ ↔ _))

/-! ## The scan for a printer -/

lemma slotOfIndex_eq_some {k : Int} {i : Slot} : slotOfIndex k = some i ↔ k = i := by
  unfold slotOfIndex
  constructor
  · intro h
    split at h
    · next hk =>
      obtain rfl := Option.some.inj h
      simp [Int.toNat_of_nonneg hk.1]
    · cases h
  · rintro rfl
    rw [dif_pos ⟨by omega, by simp⟩]
    simp

/-- The scan finds the last slot that passes the test. -/
lemma scanSlotsDown_some {test : Slot → Bool} {low : Int} {n : ℕ} {i : Slot}
    (h : scanSlotsDown test low n = some i) :
    test i = true ∧ low ≤ i ∧ (i : Int) < low + n ∧
      ∀ j : Slot, i < j → (j : Int) < low + n → test j = false := by
  induction n with
  | zero => cases h
  | succ n ih =>
      -- the last slot of the range, if there is one, is tested first
      have hskip : (∀ j : Slot, (j : Int) = low + n → test j = false) →
          scanSlotsDown test low n = some i →
          test i = true ∧ low ≤ i ∧ (i : Int) < low + (n + 1 : ℕ) ∧
            ∀ j : Slot, i < j → (j : Int) < low + (n + 1 : ℕ) → test j = false := by
        intro hlast hrest
        obtain ⟨htest, hlow, hhigh, hafter⟩ := ih hrest
        refine ⟨htest, hlow, by push_cast; omega, fun j hij hj => ?_⟩
        by_cases hjn : (j : Int) = low + n
        · exact hlast j hjn
        · exact hafter j hij (by push_cast at hj; omega)
      rw [scanSlotsDown] at h
      split at h
      · next k hk =>
        have hk' := slotOfIndex_eq_some.mp hk
        split at h
        · next htest =>
          obtain rfl := Option.some.inj h
          refine ⟨htest, by omega, by push_cast; omega, fun j hij hj => ?_⟩
          have : (k : ℕ) < j := hij
          push_cast at hj
          omega
        · next htest =>
          refine hskip (fun j hj => ?_) h
          obtain rfl : j = k := Fin.ext (by omega)
          simpa using htest
      · next hk =>
        refine hskip (fun j hj => ?_) h
        rw [slotOfIndex_eq_some.mpr hj.symm] at hk
        cases hk

/-- A scan that finds nothing has no slot that passes the test. -/
lemma scanSlotsDown_none {test : Slot → Bool} {low : Int} {n : ℕ}
    (h : scanSlotsDown test low n = none) (j : Slot) (hlow : low ≤ j)
    (hhigh : (j : Int) < low + n) : test j = false := by
  induction n with
  | zero => push_cast at hhigh; omega
  | succ n ih =>
      rw [scanSlotsDown] at h
      split at h
      · next k hk =>
        have hk' := slotOfIndex_eq_some.mp hk
        split at h
        · cases h
        · next htest =>
          by_cases hjk : j = k
          · subst hjk; simpa using htest
          · refine ih h ?_
            have : (j : ℕ) ≠ k := fun hval => hjk (Fin.ext hval)
            push_cast at hhigh
            omega
      · next hk =>
        refine ih h ?_
        by_contra hge
        have hj : low + n = j := by push_cast at hhigh; omega
        rw [slotOfIndex_eq_some.mpr hj] at hk
        cases hk

/-! ## One round -/

/-- The number of active printers is between the minimum and the number of slots. -/
structure CountInRange (pool : PrinterPool) : Prop where
  least : pool.minCount ≤ pool.activeCount
  most : pool.activeCount ≤ maxPrinters

/-- The round scales down. -/
def ScalesDown (pool : PrinterPool) (t : Tick) : Prop :=
  shouldScaleUp pool t.queueLength t.currentTimeUs = false ∧
    (shouldScaleDown pool t.queueLength t.currentTimeUs).1 = true

/-- The printer in the last of the first `active_count` slots is idle. -/
def LastIdle (pool : PrinterPool) : Prop :=
  ∀ i : Slot, (i : Int) = pool.activeCount - 1 → (pool.printers i).printer.isIdle = true

variable {pool : PrinterPool} {t : Tick}

/-- A decision against scaling down changes neither the slots nor the counts. -/
lemma shouldScaleDown_counts (pool : PrinterPool) (queueLength : ℕ) (now : ULong) :
    (shouldScaleDown pool queueLength now).2.activeCount = pool.activeCount ∧
      (shouldScaleDown pool queueLength now).2.minCount = pool.minCount := by
  obtain ⟨low, h⟩ := shouldScaleDown_pool pool queueLength now
  rw [h]
  exact ⟨rfl, rfl⟩

/-- A printer that is idle for long is one that `scale_down` can remove. -/
lemma printerToRemove_of_longIdle {now : ULong}
    (h : (findExtraPrinter pool (isLongIdle now)).isSome = true) :
    (printerToRemove pool).isSome = true := by
  obtain ⟨i, hi⟩ := Option.isSome_iff_exists.mp h
  obtain ⟨htest, hlow, hhigh, -⟩ := scanSlotsDown_some hi
  rw [Option.isSome_iff_ne_none]
  intro hnone
  have hidle := scanSlotsDown_none hnone i hlow hhigh
  simp only [isLongIdle, Bool.and_eq_true] at htest
  simp [htest.1.1, htest.1.2] at hidle

/-- One flag is set, and the count goes with it. -/
lemma ActiveFirst.setActive {pool' : PrinterPool} {i : Slot} {b : Bool} (h : ActiveFirst pool)
    (hprinters : pool'.printers = (pool.setActive i b).printers)
    (hself : b = true ↔ (i : Int) < pool'.activeCount)
    (hothers : ∀ j : Slot, (j : ℕ) ≠ i →
      ((j : Int) < pool.activeCount ↔ (j : Int) < pool'.activeCount)) :
    ActiveFirst pool' := by
  intro j
  rw [hprinters, setActive_active]
  split
  · next hj => rw [hj, hself]
  · next hj => rw [h j, hothers j fun hval => hj (Fin.ext hval)]

/-- The printer that is started in the first free slot makes one more. -/
lemma markStarted_activeFirst (h : ActiveFirst pool) {i : Slot} (hi : pool.activeCount = i) :
    ActiveFirst (markStarted pool (pool.activeCount + 1)) ∧
      (markStarted pool (pool.activeCount + 1)).activeCount = pool.activeCount + 1 ∧
      (markStarted pool (pool.activeCount + 1)).minCount = pool.minCount := by
  have hslot : slotOfIndex (pool.activeCount + 1 - 1) = some i :=
    slotOfIndex_eq_some.mpr (by omega)
  rw [markStarted, hslot]
  refine ⟨h.setActive rfl ?_ fun j hj => ?_, rfl, rfl⟩
  · exact iff_of_true rfl (by show (i : Int) < pool.activeCount + 1; omega)
  · show _ ↔ (j : Int) < pool.activeCount + 1
    omega

/-- Starting a printer leaves the autoscaler's times alone. -/
lemma markStarted_times (pool : PrinterPool) (printerId : Int) :
    (markStarted pool printerId).lastScaleTimeUs = pool.lastScaleTimeUs ∧
      (markStarted pool printerId).lowQueueStartTimeUs = pool.lowQueueStartTimeUs := by
  unfold markStarted
  split <;> exact ⟨rfl, rfl⟩

/-- `scale_up` fills the next slot. -/
lemma scaleUp_activeFirst (h : ActiveFirst pool) : ActiveFirst (scaleUp pool t) := by
  unfold scaleUp
  split
  · exact h
  · split
    · next hstart =>
      simp only [Bool.and_eq_true, canStartPrinter] at hstart
      have hcan := hstart.1
      split at hcan
      · next i hi =>
        have hi' := slotOfIndex_eq_some.mp hi
        exact (markStarted_activeFirst h (i := i) (by omega)).1
      · cases hcan
    · exact h

/-- **`scale_down` empties the last active slot exactly when the printer there is idle.** -/
lemma scaleDown_activeFirst (h : ActiveFirst pool) (hcount : CountInRange pool)
    (hmin : 0 ≤ pool.minCount) (hmore : pool.minCount < pool.activeCount)
    (hfound : (printerToRemove pool).isSome = true) :
    ActiveFirst (scaleDown pool t) ↔ LastIdle pool := by
  obtain ⟨i, hi⟩ := Option.isSome_iff_exists.mp hfound
  obtain ⟨htest, hlow, hhigh, hafter⟩ := scanSlotsDown_some hi
  rw [Int.toNat_of_nonneg (by omega)] at hhigh hafter
  simp only [Bool.and_eq_true] at htest
  unfold scaleDown
  rw [if_neg (by omega), hi]
  obtain ⟨last, hlast⟩ : ∃ last : Slot, (last : Int) = pool.activeCount - 1 := by
    have hmost := hcount.most
    exact ⟨⟨(pool.activeCount - 1).toNat, by omega⟩, by simp; omega⟩
  have hlastActive : (pool.printers last).active = true := (h last).mpr (by omega)
  constructor
  · intro hfirst
    -- slot `i` is empty now, so it is behind the others
    have hempty := hfirst i
    change ((pool.setActive i false).printers i).active = true ↔
      (i : Int) < pool.activeCount - 1 at hempty
    rw [setActive_active, if_pos rfl] at hempty
    have hbehind : ¬(i : Int) < pool.activeCount - 1 := fun hlt => by cases hempty.mpr hlt
    have heq : (i : Int) = last := by omega
    obtain rfl : i = last := Fin.ext (by omega)
    intro j hj
    obtain rfl : j = i := Fin.ext (by omega)
    exact htest.2
  · intro hidle
    have heq : i = last := by
      by_contra hne
      have hlt : i < last := by
        have hne' : (i : ℕ) ≠ last := fun hval => hne (Fin.ext hval)
        rw [Fin.lt_def]
        omega
      have hbusy := hafter last hlt (by omega)
      simp [hlastActive, hidle last hlast] at hbusy
    subst heq
    refine h.setActive rfl (iff_of_false Bool.false_ne_true ?_) fun j hj => ?_
    · show ¬(i : Int) < pool.activeCount - 1
      omega
    · show _ ↔ (j : Int) < pool.activeCount - 1
      omega

/-- **One round** leaves the active printers in the first slots exactly when it does not scale down
past a busy last printer. -/
theorem tick_activeFirst (h : ActiveFirst pool) (hcount : CountInRange pool)
    (hmin : 0 ≤ pool.minCount) :
    ActiveFirst (tick pool t) ↔ (ScalesDown pool t → LastIdle pool) := by
  unfold tick ScalesDown
  by_cases hup : shouldScaleUp pool t.queueLength t.currentTimeUs = true
  · rw [if_pos hup]
    simp [hup, scaleUp_activeFirst h]
  · rw [if_neg hup]
    by_cases hdown : (shouldScaleDown pool t.queueLength t.currentTimeUs).1 = true
    · obtain ⟨hpool, hmore, -, -, -, -, hidle⟩ := shouldScaleDown_true hdown
      have hfound := printerToRemove_of_longIdle hidle
      simp only [hdown, if_true, hpool, hup, scaleDown_activeFirst h hcount hmin hmore hfound]
      simp
    · have hsame : ActiveFirst (shouldScaleDown pool t.queueLength t.currentTimeUs).2 := by
        intro i
        rw [shouldScaleDown_printers, (shouldScaleDown_counts _ _ _).1]
        exact h i
      simp [hdown, hsame]

/-- A round keeps the count in range. -/
lemma tick_count (hcount : CountInRange pool) :
    CountInRange (tick pool t) ∧ (tick pool t).minCount = pool.minCount := by
  obtain ⟨hleast, hmost⟩ := hcount
  unfold tick
  split
  · unfold scaleUp
    split
    · exact ⟨⟨hleast, hmost⟩, rfl⟩
    · next hroom =>
      split
      · unfold markStarted
        split
        · refine ⟨⟨?_, ?_⟩, rfl⟩
          · simp only [PrinterPool.setActive]; omega
          · simp only; omega
        · exact ⟨⟨hleast, hmost⟩, rfl⟩
      · exact ⟨⟨hleast, hmost⟩, rfl⟩
  · obtain ⟨hactive, hmin⟩ := shouldScaleDown_counts pool t.queueLength t.currentTimeUs
    simp only
    split
    · unfold scaleDown
      split
      · exact ⟨⟨by rw [hactive, hmin]; exact hleast, by rw [hactive]; exact hmost⟩, hmin⟩
      · next hmore =>
        split
        · refine ⟨⟨?_, ?_⟩, hmin⟩
          · simp only [PrinterPool.setActive]; omega
          · simp only; omega
        · exact ⟨⟨by rw [hactive, hmin]; exact hleast, by rw [hactive]; exact hmost⟩, hmin⟩
    · exact ⟨⟨by rw [hactive, hmin]; exact hleast, by rw [hactive]; exact hmost⟩, hmin⟩

/-! ## Runs -/

/-- What holds of the pool between two events, whether or not the active printers are first. -/
structure PoolSound (n : ℕ) (pool : PrinterPool) : Prop where
  minCount : pool.minCount = n
  count : CountInRange pool

lemma PoolEvent.apply_sound {n : ℕ} (h : PoolSound n pool) (e : PoolEvent) :
    PoolSound n (e.apply pool) := by
  cases e with
  | tick t =>
      obtain ⟨hcount, hmin⟩ := tick_count (t := t) h.count
      exact ⟨hmin.trans h.minCount, hcount⟩
  | printer i isIdle last => exact ⟨h.minCount, h.count.least, h.count.most⟩

lemma poolRun_sound {n : ℕ} (h : PoolSound n pool) (events : List PoolEvent) :
    PoolSound n (poolRun pool events) := by
  induction events generalizing pool with
  | nil => exact h
  | cons e events ih => exact ih (e.apply_sound h)

lemma poolRun_append (pool : PrinterPool) (events : List PoolEvent) (e : PoolEvent) :
    poolRun pool (events ++ [e]) = e.apply (poolRun pool events) := by
  simp [poolRun, List.foldl_append]

/-- A printer that writes its own fields stays active. -/
lemma printer_activeFirst (i : Slot) (isIdle : Bool) (last : ULong) :
    ActiveFirst ((PoolEvent.printer i isIdle last).apply pool) ↔ ActiveFirst pool := by
  have hactive : ∀ j, (((PoolEvent.printer i isIdle last).apply pool).printers j).active =
      (pool.printers j).active := by
    intro j
    by_cases hj : j = i
    · subst hj
      simp [PoolEvent.apply, PrinterPool.modifyPrinter]
    · simp [PoolEvent.apply, PrinterPool.modifyPrinter, hj]
  have hcount : ((PoolEvent.printer i isIdle last).apply pool).activeCount = pool.activeCount := rfl
  unfold ActiveFirst
  rw [hcount]
  simp only [hactive]

/-- The initial printers are in the first slots, and nothing has been scaled yet. -/
lemma startedPool_started {n : ℕ} (hn : n ≤ maxPrinters) (paperCapacity : Int) :
    ActiveFirst (startedPool n paperCapacity) ∧ (startedPool n paperCapacity).activeCount = n ∧
      (startedPool n paperCapacity).minCount = n ∧
      (startedPool n paperCapacity).lastScaleTimeUs = 0 ∧
      (startedPool n paperCapacity).lowQueueStartTimeUs = 0 := by
  have hstarted : ∀ k ≤ n,
      let pool := (List.range k).foldl (fun pool (k : ℕ) => markStarted pool (k + 1))
        (printerPoolInit n paperCapacity)
      ActiveFirst pool ∧ pool.activeCount = k ∧ pool.minCount = n ∧ pool.lastScaleTimeUs = 0 ∧
        pool.lowQueueStartTimeUs = 0 := by
    intro k hk
    induction k with
    | zero =>
        refine ⟨fun i => ?_, rfl, rfl, rfl, rfl⟩
        simp [printerPoolInit]
    | succ k ih =>
        obtain ⟨hfirst, hcount, hmin, hlast, hlow⟩ := ih (by omega)
        obtain ⟨hfirst', hcount', hmin'⟩ :=
          markStarted_activeFirst hfirst (i := ⟨k, by omega⟩) hcount
        rw [hcount] at hfirst' hcount' hmin'
        simp only [List.range_succ, List.foldl_append, List.foldl_cons, List.foldl_nil]
        obtain ⟨hlast', hlow'⟩ := markStarted_times _ (k + 1)
        exact ⟨hfirst', by rw [hcount']; push_cast; rfl, hmin'.trans hmin, hlast'.trans hlast,
          hlow'.trans hlow⟩
  exact hstarted n le_rfl

lemma startedPool_activeFirst {n : ℕ} (hn : n ≤ maxPrinters) (paperCapacity : Int) :
    ActiveFirst (startedPool n paperCapacity) ∧ PoolSound n (startedPool n paperCapacity) := by
  obtain ⟨hfirst, hcount, hmin, -, -⟩ := startedPool_started hn paperCapacity
  exact ⟨hfirst, hmin, by rw [hcount, hmin], by rw [hcount]; omega⟩

/-- **When the active printers fill the pool from the front.**  From the pool with its minimum of
printers started, after any rounds of the autoscaler and whatever the printers write to their own
fields, the active printers are the first `active_count` throughout exactly when every round that
scales down finds the last of them idle. -/
theorem active_slots_first {n : ℕ} (hn : 1 ≤ n ∧ n ≤ 5) (paperCapacity : Int)
    (events : List PoolEvent) :
    (∀ done, done <+: events → ActiveFirst (poolRun (startedPool n paperCapacity) done)) ↔
      ∀ done t, done ++ [.tick t] <+: events →
        ScalesDown (poolRun (startedPool n paperCapacity) done) t →
          LastIdle (poolRun (startedPool n paperCapacity) done) := by
  obtain ⟨hfirst, hsound⟩ := startedPool_activeFirst (n := n) hn.2 paperCapacity
  have hround : ∀ done t, ActiveFirst (poolRun (startedPool n paperCapacity) done) →
      (ActiveFirst (poolRun (startedPool n paperCapacity) (done ++ [.tick t])) ↔
        (ScalesDown (poolRun (startedPool n paperCapacity) done) t →
          LastIdle (poolRun (startedPool n paperCapacity) done))) := by
    intro done t h
    have hs := poolRun_sound hsound done
    rw [poolRun_append]
    exact tick_activeFirst h hs.count (by rw [hs.minCount]; omega)
  constructor
  · intro hall done t hpre
    have hdone : done <+: events := (List.prefix_append done _).trans hpre
    exact (hround done t (hall done hdone)).mp (hall _ hpre)
  · intro hcond done
    induction done using List.reverseRecOn with
    | nil => intro _; exact hfirst
    | append_singleton done e ih =>
        intro hpre
        have hdone := ih ((List.prefix_append done _).trans hpre)
        cases e with
        | tick t => exact (hround done t hdone).mpr (hcond done t hpre)
        | printer i isIdle last =>
            rw [poolRun_append]
            exact (printer_activeFirst i isIdle last).mpr hdone

/-- A third printer is started, and removed again when it has been idle for long. -/
def upAndDown : List PoolEvent :=
  [.tick ⟨10, 3000000, 3000000, true⟩, .tick ⟨0, 6000000, 6000000, true⟩,
    .tick ⟨0, 11000000, 11000000, true⟩]

/-- The pool of two printers during these rounds. -/
theorem active_slots_first_up_and_down :
    (∀ done, done <+: upAndDown → ActiveFirst (poolRun (startedPool 2 90) done)) ↔
      ∀ done t, done ++ [.tick t] <+: upAndDown → ScalesDown (poolRun (startedPool 2 90) done) t →
        LastIdle (poolRun (startedPool 2 90) done) :=
  active_slots_first (n := 2) (by decide) 90 upAndDown

/-- A third and a fourth printer are started; the fourth is busy when the autoscaler scales down. -/
def downPastBusy : List PoolEvent :=
  [.tick ⟨10, 3000000, 3000000, true⟩, .tick ⟨15, 6000000, 6000000, true⟩, .printer 3 false 0,
    .tick ⟨0, 9000000, 9000000, true⟩, .tick ⟨0, 14000000, 14000000, true⟩]

/-- **A scale-down leaves a gap.**  The third printer is removed although it was not added last;
from then on the number of the next printer is that of one that is active. -/
theorem active_slots_gap :
    ¬ActiveFirst (poolRun (startedPool 2 90) downPastBusy) ∧
      (poolRun (startedPool 2 90) downPastBusy).activeCount = 3 ∧
      canStartPrinter (poolRun (startedPool 2 90) downPastBusy)
        ((poolRun (startedPool 2 90) downPastBusy).activeCount + 1) = false := by
  decide +kernel

end Orchestrator
