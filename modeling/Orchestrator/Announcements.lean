import Orchestrator.PoolHistory

/-!
# The announced number of printers

`scale_up` announces the new count before it tries to start the printer.  A front end that follows
the scaling events has the right count exactly while no start fails.

* `announcedCount` — the count of the latest scaling event.
* `round_announces` — what one round does to it.
* `announcements_match` — the announced count is right throughout, and no call that returns 0
  announces anything, exactly when each scale-up starts its printer.
-/

namespace Orchestrator

/-- The printer count a scaling event announces. -/
def Event.announcedCount : Event → Option Int
  | .scaleUp newPrinterCount _ _ => some newPrinterCount
  | .scaleDown newPrinterCount _ _ => some newPrinterCount
  | _ => none

/-- The printer count of the latest scaling event; the newest event is first. -/
def announcedCount (emitted : List Event) : Option Int := emitted.findSome? Event.announcedCount

/-- The latest scaling event, if there is one, announces the count. -/
def Announced (s : PoolLog) : Prop :=
  ∀ c ∈ announcedCount s.emitted, c = s.pool.activeCount

/-- A call that returns 0 emits nothing and leaves the pool, as it found it, alone. -/
def QuietFailure (pool : PrinterPool) (c : ScaleCall) : Prop :=
  c.returns = 0 → c.emitted = [] ∧ c.pool = pool

/-- The round's call, if it makes one, fails only quietly. -/
def FailsQuietly (pool : PrinterPool) (r : Round) : Prop :=
  ∀ c ∈ roundCall pool r, QuietFailure (poolAtCall pool r) c

/-- A scale-up the round decides on starts its printer. -/
def ScaleUpSucceeds (pool : PrinterPool) (r : Round) : Prop :=
  DecidesUp pool r → r.starts pool = true

variable {pool : PrinterPool} {r : Round} {s : PoolLog}

@[simp] lemma announcedCount_append (new old : List Event) :
    announcedCount (new ++ old) = (announcedCount new).or (announcedCount old) :=
  List.findSome?_append

/-- The events of a start announce no count. -/
lemma announcedCount_startedEvents (pool : PrinterPool) (printerId : Int) :
    announcedCount (startedEvents pool printerId) = none := by
  unfold startedEvents
  split <;> rfl

/-! ## One round -/

/-- A scale-down announces the count it leaves, or does nothing. -/
lemma scaleDownCall_announces (pool : PrinterPool) (r : Round) :
    QuietFailure pool (scaleDownCall pool r) ∧
      ((scaleDownCall pool r).emitted = [] ∧ (scaleDownCall pool r).pool = pool ∨
        announcedCount (scaleDownCall pool r).emitted =
          some (scaleDownCall pool r).pool.activeCount) := by
  by_cases hleast : pool.activeCount ≤ pool.minCount
  · rw [scaleDownCall_least hleast]
    exact ⟨fun _ => ⟨rfl, rfl⟩, .inl ⟨rfl, rfl⟩⟩
  · cases hremove : printerToRemove pool with
    | none =>
        rw [scaleDownCall_none hleast hremove]
        exact ⟨fun _ => ⟨rfl, rfl⟩, .inl ⟨rfl, rfl⟩⟩
    | some i =>
        rw [scaleDownCall_some hleast hremove]
        refine ⟨?_, .inr rfl⟩
        intro hzero
        cases hzero

/-- A scale-up that starts its printer announces the count it leaves. -/
lemma scaleUpCall_announces (h : r.starts pool = true) :
    QuietFailure pool (scaleUpCall pool r) ∧
      announcedCount (scaleUpCall pool r).emitted =
        some (scaleUpCall pool r).pool.activeCount := by
  obtain ⟨i, hi, -, -⟩ := starts_slot h
  have hcount := (scaleUpCall_rescaled (starts_room h) h hi).activeCount
  rw [hcount, scaleUpCall_started (starts_room h) h]
  refine ⟨?_, ?_⟩
  · intro hzero
    cases hzero
  · rw [announcedCount_append, announcedCount_startedEvents]
    rfl

/-- A scale-up with room in the pool that fails has announced a printer. -/
lemma scaleUpCall_loud (hroom : ¬pool.activeCount ≥ maxPrinters) (h : ¬r.starts pool = true) :
    ¬QuietFailure pool (scaleUpCall pool r) := by
  rw [scaleUpCall_failed hroom h]
  intro hquiet
  have hnone := (hquiet rfl).1
  cases hnone

/-- A round that decides to scale up finds room in the pool. -/
lemma room_of_decidesUp (h : DecidesUp pool r) : ¬pool.activeCount ≥ maxPrinters := by
  intro hfull
  simp [DecidesUp, shouldScaleUp, hfull] at h

/-- What a round announced is the latest announcement. -/
lemma announced_of_round {c : Int} (h : announcedCount (round s.pool r).2 = some c) :
    Announced ((PoolStep.round r).apply s) ↔ c = (round s.pool r).1.activeCount := by
  have hlatest : announcedCount ((PoolStep.round r).apply s).emitted = some c := by
    show announcedCount ((round s.pool r).2 ++ s.emitted) = some c
    rw [announcedCount_append, h]
    rfl
  unfold Announced
  rw [hlatest]
  exact ⟨fun hc => hc c rfl, fun hc c' hc' => Option.some.inj hc' ▸ hc⟩

/-- A round that announces nothing and keeps the count. -/
lemma Announced.keep (h : Announced s) {e : PoolStep} (hsaid : (e.apply s).emitted = s.emitted)
    (hcount : (e.apply s).pool.activeCount = s.pool.activeCount) : Announced (e.apply s) := by
  unfold Announced
  rw [hsaid, hcount]
  exact h

/-- A round that scales up. -/
lemma round_announces_up (hup : DecidesUp s.pool r) :
    Announced ((PoolStep.round r).apply s) ∧ FailsQuietly s.pool r ↔ r.starts s.pool = true := by
  have hsame := (poolAtCall_sameRoster s.pool r).1
  obtain ⟨hcall, hround⟩ := round_of_call (congrArg Prod.fst (decideScaling_up hup))
  have hquiet : FailsQuietly s.pool r ↔
      QuietFailure (poolAtCall s.pool r) (scaleUpCall (poolAtCall s.pool r) r) := by
    unfold FailsQuietly
    rw [hcall]
    exact ⟨fun h => h _ rfl, fun h c hc => Option.some.inj hc ▸ h⟩
  rw [← hsame.starts r]
  by_cases hstarts : r.starts (poolAtCall s.pool r) = true
  · obtain ⟨hfails, hsaid⟩ := scaleUpCall_announces hstarts
    refine iff_of_true ⟨?_, hquiet.mpr hfails⟩ hstarts
    rw [announced_of_round (by rw [hround]; exact hsaid), hround]
    rfl
  · refine iff_of_false ?_ hstarts
    rintro ⟨-, hfails⟩
    have hroom : ¬(poolAtCall s.pool r).activeCount ≥ maxPrinters := by
      rw [hsame.activeCount]
      exact room_of_decidesUp hup
    exact scaleUpCall_loud hroom hstarts (hquiet.mp hfails)

/-- A round that scales down. -/
lemma round_announces_down (h : Announced s) (hdown : DecidesDown s.pool r) :
    Announced ((PoolStep.round r).apply s) ∧ FailsQuietly s.pool r := by
  have hsame := (poolAtCall_sameRoster s.pool r).1
  obtain ⟨hcall, hround⟩ :=
    round_of_call (congrArg Prod.fst (decideScaling_down hdown.1 hdown.2))
  obtain ⟨hfails, hannounces⟩ := scaleDownCall_announces (poolAtCall s.pool r) r
  refine ⟨?_, ?_⟩
  · rcases hannounces with ⟨hnone, hpool⟩ | hsaid
    · refine h.keep ?_ ?_
      · show (round s.pool r).2 ++ s.emitted = s.emitted
        rw [hround]
        show (scaleDownCall _ r).emitted ++ s.emitted = s.emitted
        rw [hnone, List.nil_append]
      · show (round s.pool r).1.activeCount = s.pool.activeCount
        rw [hround]
        show (scaleDownCall _ r).pool.activeCount = s.pool.activeCount
        rw [hpool, hsame.activeCount]
    · rw [announced_of_round (by rw [hround]; exact hsaid), hround]
      rfl
  · intro c hc
    rw [hcall] at hc
    exact Option.some.inj hc ▸ hfails

/-- A round without a call. -/
lemma round_announces_none (h : Announced s) (hnone : (decideScaling s.pool r).1 = none) :
    Announced ((PoolStep.round r).apply s) ∧ FailsQuietly s.pool r := by
  obtain ⟨hcall, hround⟩ := round_of_none hnone
  refine ⟨h.keep ?_ ?_, ?_⟩
  · show (round s.pool r).2 ++ s.emitted = s.emitted
    rw [hround, List.nil_append]
  · show (round s.pool r).1.activeCount = s.pool.activeCount
    rw [hround, (poolAtCall_sameRoster s.pool r).1.activeCount]
  · intro c hc
    rw [hcall] at hc
    cases hc

/-- **One round** keeps the announced count right and fails only quietly exactly when its scale-up,
if it decides on one, starts a printer. -/
theorem round_announces (h : Announced s) (r : Round) :
    Announced ((PoolStep.round r).apply s) ∧ FailsQuietly s.pool r ↔
      ScaleUpSucceeds s.pool r := by
  rcases decideScaling_cases s.pool r with ⟨hup, -⟩ | ⟨hdown, -⟩ | ⟨hup, hnone, -⟩
  · exact (round_announces_up hup).trans ⟨fun hstarts _ => hstarts, fun hsucceeds => hsucceeds hup⟩
  · exact iff_of_true (round_announces_down h hdown) fun hup => absurd hup hdown.1
  · exact iff_of_true (round_announces_none h hnone) fun h => absurd h hup

/-! ## Histories -/

/-- **When the announcements match the pool.**  Through any rounds of the autoscaler, with any clock
readings and with the printers at work at any point: the latest scaling event announces
`active_count` throughout, and no call that returns 0 announces anything or changes the pool,
exactly when each round that decides to scale up finds the next slot free and has its thread
created. -/
theorem announcements_match (n : ℕ) (paperCapacity : Int) (history : List PoolStep) :
    ((∀ done, done <+: history → Announced (poolHistory n paperCapacity done)) ∧
      ∀ done r, done ++ [.round r] <+: history →
        FailsQuietly (poolHistory n paperCapacity done).pool r) ↔
      ∀ done r, done ++ [.round r] <+: history →
        ScaleUpSucceeds (poolHistory n paperCapacity done).pool r := by
  constructor
  · rintro ⟨hannounced, hquiet⟩ done r hpre
    have hdone := hannounced done ((List.prefix_append done _).trans hpre)
    have hround := hannounced _ hpre
    rw [poolHistory_append] at hround
    exact (round_announces hdone r).mp ⟨hround, hquiet done r hpre⟩
  · intro hsucceeds
    have hannounced : ∀ done, done <+: history → Announced (poolHistory n paperCapacity done) := by
      intro done
      induction done using List.reverseRecOn with
      | nil =>
          intro _ c hc
          cases hc
      | append_singleton done e ih =>
          intro hpre
          have hdone := ih ((List.prefix_append done _).trans hpre)
          rw [poolHistory_append]
          cases e with
          | round r => exact ((round_announces hdone r).mpr (hsucceeds done r hpre)).1
          | printer w =>
              exact hdone.keep rfl (writeAll_sameRoster _ [w]).1.activeCount
    refine ⟨hannounced, fun done r hpre => ?_⟩
    have hdone := hannounced done ((List.prefix_append done _).trans hpre)
    exact ((round_announces hdone r).mpr (hsucceeds done r hpre)).2

/-- **An announcement without a printer.**  With ten jobs in the queue and no thread to be had, the
round announces a third printer; there are two. -/
theorem announcement_overstates :
    ¬Announced (poolHistory 2 90 [quietRound 10 3000000 false]) ∧
      (roundCall (poolHistory 2 90 []).pool ⟨⟨10, 3000000, 3000000, false⟩, [], 10⟩).map
          (fun c => (c.returns, announcedCount c.emitted)) = some (0, some 3) := by
  refine ⟨?_, by decide +kernel⟩
  intro h
  have hthree := h 3 (by decide +kernel)
  revert hthree
  decide +kernel

end Orchestrator
