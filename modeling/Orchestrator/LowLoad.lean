import Orchestrator.PoolHistory

/-!
# Scaling down after low load

`low_queue_start_time_us` stands for a stretch of rounds with a short queue, and 0 for none.  A
round that decides to scale up never comes to `should_scale_down`, so when its start fails the time
goes on standing for a stretch that is over.

* `TimerHonest` — what the time stands for.
* `removal_after_low_load` — a removal comes after such a stretch, when no scale-up fails while the
  time is set.
-/

namespace Orchestrator

variable {n : ℕ} {paperCapacity : Int} {done : List PoolStep} {r : Round}

/-- The round finds a queue below `CONFIG_AUTOSCALE_SCALE_DOWN_THRESHOLD`. -/
def Round.low (r : Round) : Prop := (r.queueLength : Int) < configAutoscaleScaleDownThreshold

/-- Every round among the steps finds a short queue. -/
def AllLow (steps : List PoolStep) : Prop := ∀ r, PoolStep.round r ∈ steps → r.low

/-- The stretch of rounds with a short queue that starts with `b`, as the pool has it in `s`;
`start` is the history before it. -/
structure LowStretch (s start : PoolLog) (b : Round) (since : List PoolStep) : Prop where
  time : b.currentTimeUs = s.pool.lowQueueStartTimeUs
  unchanged : s.changedAt = start.changedAt
  low : AllLow (.round b :: since)
  more : s.pool.minCount < s.pool.activeCount
  cooled : s.pool.lastScaleTimeUs.toNat + configAutoscaleCooldownUs.toNat ≤ b.currentTimeUs.toNat

/-- The low-queue time is 0, or it is the start of a stretch of rounds with a short queue. -/
def TimerHonest (n : ℕ) (paperCapacity : Int) (done : List PoolStep) : Prop :=
  (poolHistory n paperCapacity done).pool.lowQueueStartTimeUs = 0 ∨
    ∃ before b since, done = before ++ .round b :: since ∧
      LowStretch (poolHistory n paperCapacity done) (poolHistory n paperCapacity before) b since

/-- Each round that decides to scale up starts its printer, or finds the low-queue time 0. -/
def ScaleUpsHeeded (n : ℕ) (paperCapacity : Int) (history : List PoolStep) : Prop :=
  ∀ done r, done ++ [.round r] <+: history → DecidesUp (poolHistory n paperCapacity done).pool r →
    r.starts (poolHistory n paperCapacity done).pool = true ∨
      (poolHistory n paperCapacity done).pool.lowQueueStartTimeUs = 0

/-- The round removes a printer. -/
def Removes (pool : PrinterPool) (r : Round) : Prop :=
  (round pool r).1.activeCount < pool.activeCount

/-- Low load before a round: the rounds of the last five seconds, itself included, found a short
queue, and there was such a round at least five seconds before, since the last change of the
count. -/
def AfterLowLoad (n : ℕ) (paperCapacity : Int) (done : List PoolStep) (r : Round) : Prop :=
  (∀ b, PoolStep.round b ∈ done ++ [.round r] →
      r.currentTimeUs.toNat < b.currentTimeUs.toNat + configAutoscaleScaleDownWaitUs.toNat →
        b.low) ∧
    ∃ before b since, done = before ++ .round b :: since ∧
      b.currentTimeUs.toNat + configAutoscaleScaleDownWaitUs.toNat ≤ r.currentTimeUs.toNat ∧
      (poolHistory n paperCapacity done).changedAt =
        (poolHistory n paperCapacity before).changedAt ∧
      AllLow (.round b :: since)

/-! ## The time is honest -/

lemma allLow_round (h : r.low) : AllLow [.round r] := by
  intro x hx
  rw [List.mem_singleton, PoolStep.round.injEq] at hx
  exact hx ▸ h

/-- A step without a round that finds a long queue, which leaves the count and the time alone. -/
lemma TimerHonest.keep (h : TimerHonest n paperCapacity done) {e : PoolStep}
    (hsame : SameRoster (poolHistory n paperCapacity done).pool
      (e.apply (poolHistory n paperCapacity done)).pool)
    (htime : (e.apply (poolHistory n paperCapacity done)).pool.lowQueueStartTimeUs =
      (poolHistory n paperCapacity done).pool.lowQueueStartTimeUs)
    (hlow : AllLow [e]) : TimerHonest n paperCapacity (done ++ [e]) := by
  rcases h with h | ⟨before, b, since, hdone, hstretch⟩
  · left
    rw [poolHistory_append, htime, h]
  · right
    refine ⟨before, b, since ++ [e], by rw [hdone]; simp, ?_⟩
    rw [poolHistory_append]
    refine ⟨by rw [htime, hstretch.time], ?_, ?_, ?_, ?_⟩
    · rw [PoolStep.apply_changedAt hsame.activeCount, hstretch.unchanged]
    · intro x hx
      rw [← List.cons_append, List.mem_append] at hx
      exact hx.elim (hstretch.low x) (hlow x)
    · rw [hsame.minCount, hsame.activeCount]
      exact hstretch.more
    · rw [hsame.lastScaleTimeUs]
      exact hstretch.cooled

/-- A short queue for the first time. -/
lemma TimerHonest.start
    (hsame : SameRoster (poolHistory n paperCapacity done).pool
      (round (poolHistory n paperCapacity done).pool r).1)
    (htime : (round (poolHistory n paperCapacity done).pool r).1.lowQueueStartTimeUs =
      r.currentTimeUs)
    (hlow : r.low)
    (hmore : (poolHistory n paperCapacity done).pool.minCount <
      (poolHistory n paperCapacity done).pool.activeCount)
    (hcooled : (poolHistory n paperCapacity done).pool.lastScaleTimeUs.toNat +
      configAutoscaleCooldownUs.toNat ≤ r.currentTimeUs.toNat) :
    TimerHonest n paperCapacity (done ++ [.round r]) := by
  right
  refine ⟨done, r, [], rfl, ?_⟩
  rw [poolHistory_append]
  refine ⟨htime.symm, PoolStep.apply_changedAt hsame.activeCount, ?_, ?_, ?_⟩
  · exact allLow_round hlow
  · show (round _ r).1.minCount < (round _ r).1.activeCount
    rw [hsame.minCount, hsame.activeCount]
    exact hmore
  · show (round _ r).1.lastScaleTimeUs.toNat + _ ≤ _
    rw [hsame.lastScaleTimeUs]
    exact hcooled

/-- While the time is set, `should_scale_down` does not return early. -/
lemma LowStretch.not_early {s start : PoolLog} {b : Round} {since : List PoolStep}
    (h : LowStretch s start b since) (hnow : b.currentTimeUs ≤ r.currentTimeUs) :
    ¬(s.pool.activeCount ≤ s.pool.minCount ∨
      r.currentTimeUs - s.pool.lastScaleTimeUs < configAutoscaleCooldownUs) := by
  have hmore := h.more
  have hcooled := h.cooled
  have hnow' := UInt64.le_iff_toNat_le.mp hnow
  rintro (hmin | hcool)
  · omega
  · have hle : s.pool.lastScaleTimeUs ≤ r.currentTimeUs := by
      rw [UInt64.le_iff_toNat_le]
      omega
    rw [UInt64.lt_iff_toNat_lt, UInt64.toNat_sub_of_le _ _ hle] at hcool
    omega

/-- The times of a history: that of the last change was read from the clock, and no reading is later
than the round to come. -/
structure ComesAfter (n : ℕ) (paperCapacity : Int) (done : List PoolStep) (r : Round) : Prop where
  last : (poolHistory n paperCapacity done).pool.lastScaleTimeUs = 0 ∨
    (poolHistory n paperCapacity done).pool.lastScaleTimeUs ∈ done.flatMap PoolStep.readings
  now : ∀ x ∈ done.flatMap PoolStep.readings, x ≤ r.currentTimeUs

/-- A round of the history comes before the next one. -/
lemma ComesAfter.round_le (h : ComesAfter n paperCapacity done r) {b : Round}
    (hb : PoolStep.round b ∈ done) : b.currentTimeUs ≤ r.currentTimeUs :=
  h.now _ (List.mem_flatMap.mpr ⟨_, hb, by simp [PoolStep.readings]⟩)

/-- **One round** keeps the low-queue time honest, unless it fails to scale up while the time is
set. -/
lemma TimerHonest.round (h : TimerHonest n paperCapacity done)
    (hafter : ComesAfter n paperCapacity done r)
    (hheeded : DecidesUp (poolHistory n paperCapacity done).pool r →
      r.starts (poolHistory n paperCapacity done).pool = true ∨
        (poolHistory n paperCapacity done).pool.lowQueueStartTimeUs = 0) :
    TimerHonest n paperCapacity (done ++ [.round r]) := by
  have hzero : (Orchestrator.round (poolHistory n paperCapacity done).pool r).1.lowQueueStartTimeUs
      = 0 → TimerHonest n paperCapacity (done ++ [.round r]) := by
    intro hzero
    left
    rw [poolHistory_append]
    exact hzero
  rcases round_cases (poolHistory n paperCapacity done).pool r with
    ⟨hup, hsame, htime⟩ | ⟨-, -, i, -, -, hscaled⟩ | ⟨-, -, i, -, hscaled⟩
  · rcases decideScaling_cases (poolHistory n paperCapacity done).pool r with
      ⟨hdecides, -, hd⟩ | ⟨hdecides, -, hd⟩ | ⟨-, -, hd⟩
    · rw [hd] at htime
      rcases hheeded hdecides with hstarts | hunset
      · exact absurd hstarts (hup hdecides)
      · exact hzero (htime.trans hunset)
    · obtain ⟨-, -, -, hshort, -⟩ := shouldScaleDown_true hdecides.2
      rw [hd] at htime
      exact h.keep hsame htime (allLow_round hshort)
    · rw [hd] at htime
      rcases shouldScaleDown_cases (poolHistory n paperCapacity done).pool r.queueLength
        r.currentTimeUs with ⟨hearly, hs⟩ | ⟨hmore, hcool, ⟨-, hs⟩ | ⟨hshort, ⟨-, hs⟩ |
          ⟨-, found, hs, -⟩⟩⟩
      · rw [hs] at htime
        rcases h with hunset | ⟨before, b, since, hdone, hstretch⟩
        · exact hzero (htime.trans hunset)
        · have hb : b.currentTimeUs ≤ r.currentTimeUs := hafter.round_le (by rw [hdone]; simp)
          exact absurd hearly (hstretch.not_early hb)
      · rw [hs] at htime
        exact hzero htime
      · rw [hs] at htime
        obtain ⟨hsub, hle⟩ := toNat_sub_of_reading hafter.last hafter.now
        rw [UInt64.le_iff_toNat_le] at hcool
        exact .start hsame htime hshort hmore (by omega)
      · rw [hs] at htime
        exact h.keep hsame htime (allLow_round hshort)
  · exact hzero hscaled.lowQueueStartTimeUs
  · exact hzero hscaled.lowQueueStartTimeUs

/-- What the clock says when a history goes on with a round. -/
lemma comesAfter_of_earlier {history : List PoolStep} (hn : n ≤ 5) (hclock : ClockRuns history)
    (hpre : done ++ [.round r] <+: history) : ComesAfter n paperCapacity done r := by
  obtain ⟨rest, rfl⟩ := hpre
  rw [ClockRuns, List.append_assoc, List.flatMap_append, List.pairwise_append] at hclock
  obtain ⟨hdone, -, hlater⟩ := hclock
  exact ⟨(poolHistory_spaced hn paperCapacity done hdone).last,
    fun x hx => hlater x hx _ (by simp [PoolStep.readings])⟩

/-- The low-queue time is honest throughout. -/
lemma timerHonest_of_heeded {history : List PoolStep} (hn : n ≤ 5) (hclock : ClockRuns history)
    (hheeded : ScaleUpsHeeded n paperCapacity history) (hpre : done <+: history) :
    TimerHonest n paperCapacity done := by
  induction done using List.reverseRecOn with
  | nil =>
      obtain ⟨-, -, -, -, hlow⟩ := startedPool_started (n := n) hn paperCapacity
      exact .inl hlow
  | append_singleton done e ih =>
      have h := ih ((List.prefix_append done _).trans hpre)
      cases e with
      | round r => exact h.round (comesAfter_of_earlier hn hclock hpre) (hheeded done r hpre)
      | printer w =>
          obtain ⟨hsame, hlow⟩ :=
            writeAll_sameRoster (poolHistory n paperCapacity done).pool [w]
          refine h.keep hsame hlow ?_
          intro x hx
          rw [List.mem_singleton] at hx
          cases hx

/-! ## Removals -/

/-- The stretch behind a removal is long enough. -/
lemma TimerHonest.afterLowLoad (h : TimerHonest n paperCapacity done) {history : List PoolStep}
    (hn : n ≤ 5) (hclock : ClockRuns history) (hpre : done ++ [.round r] <+: history)
    (hdown : DecidesDown (poolHistory n paperCapacity done).pool r) :
    AfterLowLoad n paperCapacity done r := by
  obtain ⟨-, -, -, hshort, hset, hwait, -⟩ := shouldScaleDown_true hdown.2
  have hafter : ComesAfter n paperCapacity done r := comesAfter_of_earlier hn hclock hpre
  rcases h with hunset | ⟨before, b, since, hdone, hstretch⟩
  · exact absurd hunset hset
  · have hb : b.currentTimeUs ≤ r.currentTimeUs := hafter.round_le (by rw [hdone]; simp)
    have hbefore : ComesAfter n paperCapacity before b := by
      refine comesAfter_of_earlier hn hclock (.trans ⟨since ++ [.round r], ?_⟩ hpre)
      rw [hdone]
      simp
    rw [← hstretch.time, UInt64.le_iff_toNat_le, UInt64.toNat_sub_of_le _ _ hb] at hwait
    rw [UInt64.le_iff_toNat_le] at hb
    refine ⟨?_, before, b, since, hdone, by omega, hstretch.unchanged, hstretch.low⟩
    intro x hx hrecent
    rw [hdone, List.append_assoc, List.mem_append, List.mem_append] at hx
    rcases hx with hx | hx | hx
    · -- a round before the stretch is too old
      have hold := UInt64.le_iff_toNat_le.mp (hbefore.round_le hx)
      omega
    · exact hstretch.low x hx
    · exact allLow_round hshort x hx

/-- **Removals come after low load.**  Through any rounds of the autoscaler whose clock readings
never go back and with the printers at work at any point: when each round that decides to scale up
starts its printer or finds `low_queue_start_time_us` 0, a round that removes a printer has found a
short queue, as have all rounds of the five seconds before it and one before those, since the last
change of the count. -/
theorem removal_after_low_load {n : ℕ} (hn : 1 ≤ n ∧ n ≤ 5) (paperCapacity : Int)
    (history : List PoolStep) (hclock : ClockRuns history)
    (hheeded : ScaleUpsHeeded n paperCapacity history) (done : List PoolStep) (r : Round)
    (hpre : done ++ [.round r] <+: history)
    (hremoves : Removes (poolHistory n paperCapacity done).pool r) :
    AfterLowLoad n paperCapacity done r := by
  have hhonest : TimerHonest n paperCapacity done :=
    timerHonest_of_heeded hn.2 hclock hheeded ((List.prefix_append done _).trans hpre)
  unfold Removes at hremoves
  rcases round_cases (poolHistory n paperCapacity done).pool r with
    ⟨-, hsame, -⟩ | ⟨-, -, i, -, -, hscaled⟩ | ⟨hdown, -⟩
  · rw [hsame.activeCount] at hremoves
    omega
  · rw [hscaled.activeCount] at hremoves
    omega
  · exact hhonest.afterLowLoad hn.2 hclock hpre hdown

/-- The load comes and goes, and no scale-up fails. -/
lemma loadComesAndGoes_heeded : ScaleUpsHeeded 2 90 loadComesAndGoes := by
  intro done r hpre _
  rcases done with _ | ⟨e, _ | ⟨e', _ | ⟨e'', rest⟩⟩⟩
  · exact .inr (by decide)
  · simp only [loadComesAndGoes, List.cons_append, List.nil_append, List.cons_prefix_cons] at hpre
    obtain ⟨rfl, -⟩ := hpre
    exact .inr (by decide +kernel)
  · simp only [loadComesAndGoes, quietRound, List.cons_append, List.nil_append,
      List.cons_prefix_cons, PoolStep.round.injEq] at hpre
    obtain ⟨rfl, rfl, rfl, -⟩ := hpre
    exact .inl (by decide +kernel)
  · simp [loadComesAndGoes] at hpre

/-- The last of the rounds in which the load comes and goes removes the third printer. -/
theorem removal_after_low_load_at_end :
    Removes (poolHistory 2 90 [quietRound 10 3000000 true, quietRound 0 6000000 true]).pool
        ⟨⟨0, 11000000, 11000000, true⟩, [], 0⟩ ∧
      AfterLowLoad 2 90 [quietRound 10 3000000 true, quietRound 0 6000000 true]
        ⟨⟨0, 11000000, 11000000, true⟩, [], 0⟩ :=
  have hremoves :
      Removes (poolHistory 2 90 [quietRound 10 3000000 true, quietRound 0 6000000 true]).pool
        ⟨⟨0, 11000000, 11000000, true⟩, [], 0⟩ := by
    unfold Removes
    decide +kernel
  ⟨hremoves, removal_after_low_load (n := 2) (by decide) 90 loadComesAndGoes (by decide)
    loadComesAndGoes_heeded _ _ (List.prefix_refl _) hremoves⟩

/-- The third printer is started; the queue is short, then at the next threshold when no thread can
be created, then short again. -/
def failedScaleUp : List PoolStep :=
  [quietRound 10 3000000 true, quietRound 0 6000000 true, quietRound 15 8000000 false]

/-- **A removal right after high load.**  The round at 11 s removes a printer, three seconds after
one that found 15 jobs in the queue. -/
theorem removal_after_high_load :
    ClockRuns (failedScaleUp ++ [quietRound 0 11000000 true]) ∧
      Removes (poolHistory 2 90 failedScaleUp).pool ⟨⟨0, 11000000, 11000000, true⟩, [], 0⟩ ∧
      ¬AfterLowLoad 2 90 failedScaleUp ⟨⟨0, 11000000, 11000000, true⟩, [], 0⟩ := by
  refine ⟨by decide, ?_, ?_⟩
  · unfold Removes
    decide +kernel
  · intro h
    have hlow := h.1 ⟨⟨15, 8000000, 8000000, false⟩, [], 15⟩
      (by simp [failedScaleUp, quietRound]) (by decide)
    simp [Round.low, configAutoscaleScaleDownThreshold] at hlow

end Orchestrator
