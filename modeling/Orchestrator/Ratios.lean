import Orchestrator.Jobs
import Orchestrator.ServiceTimes
import Orchestrator.SimulationStats
import Mathlib.Algebra.Order.Field.Basic
import Mathlib.Data.Rat.Cast.Order

/-!
# The reported ratios

The utilization of a printer and the drop probability are quotients of what the statistics hold when
`emit_statistics` is called.

* `drops_counted` — every dropped job has been counted as arrived.
* `DepartsInTime` — no printer records a departure between the last two log calls of the main
  thread.
* `reported_ratios` — in the runs that keep to that, the ratios are between 0 and 1.
* `utilization_above_one` — a printer that nobody joins can break it.
-/

namespace Orchestrator

open Pthread Queueing

variable {setup : Setup} {d d' : Data} {s s' : Sys} {a : SysAction}
  {ok : Sys → SysAction → Prop}

/-! ## Drops -/

/-- Every dropped job was counted, and so is the one that the receiver is about to place. -/
def DropsCounted (q : ReceiverPc) (v : ReportView) : Prop :=
  v.jobsDropped + (if q.holdsJob then 1 else 0) ≤ v.jobsArrived

lemma DropsCounted.of_fewer {q q' : ReceiverPc} {v : ReportView} (h : DropsCounted q v)
    (hq : q'.holdsJob = true → q.holdsJob = true) : DropsCounted q' v := by
  unfold DropsCounted at h ⊢
  by_cases hq' : q'.holdsJob = true
  · rw [if_pos hq']
    rwa [if_pos (hq hq')] at h
  · rw [if_neg hq']
    omega

/-- The receiver counts a job before it drops it. -/
lemma receiver_drops {q q' : ReceiverPc} (h : (receiverCode setup q).Goes d d' q')
    (hdrops : DropsCounted q d.reportView) : DropsCounted q' d'.reportView := by
  rcases receiver_reportView h with ⟨hquiet, hv⟩ | ⟨rfl, hv⟩ | ⟨rfl, hv⟩ | ⟨rfl, hv⟩
  · rw [hv]
    refine hdrops.of_fewer fun hq' => ?_
    cases q with
    | exit => exact h.elim
    | emitQueueArrival | emitArrival | emitDrop => cases hquiet
    | nextJob | readTerminate =>
        obtain ⟨_, rfl⟩ := h
        simp only at hq'
        split at hq' <;> cases hq'
    | checkCapacity => rfl
    | _ => obtain ⟨_, rfl⟩ := h; first | rfl | cases hq'
  · obtain ⟨_, rfl⟩ := h
    rw [hv]
    exact hdrops
  · obtain ⟨_, rfl⟩ := h
    rw [hv]
    exact Nat.succ_le_succ hdrops
  · obtain ⟨_, rfl⟩ := h
    rw [hv]
    exact hdrops

lemma drops_step (h : Reach (program setup) ok (freshState setup) s)
    (hs : step (program setup) s a = some s')
    (ih : DropsCounted s.receiverPc s.data.reportView) :
    DropsCounted s'.receiverPc s'.data.reportView := by
  rcases receiver_cases h hs with ⟨hex, hpc, _⟩ | ⟨_, goes⟩
  · rw [hpc]
    cases report_step hs with
    | later _ _ report | start _ _ report | ended _ _ report | stopped _ report =>
        rw [report]
        exact ih
    | enqueued ex _ _ | arrival ex _ _ | drop ex _ _ => exact absurd ex hex
    | departure i _ _ report =>
        rw [report, ReportView.record]
        split <;> exact ih
  · exact receiver_drops goes ih

/-- **No more jobs are dropped than arrive**, in every run. -/
theorem drops_counted (h : Reach (program setup) ok (freshState setup) s) :
    s.data.stats.totalJobsDropped ≤ s.data.stats.totalJobsArrived := by
  have hfresh : DropsCounted ReceiverPc.start (freshData setup).reportView := Nat.le_refl 0
  have hdrops : DropsCounted s.receiverPc s.data.reportView :=
    h.invariant (I := fun s => DropsCounted (Sys.receiverPc s) s.data.reportView) hfresh
      fun hr ih _ hs => drops_step hr hs ih
  exact (Nat.le_add_right _ _).trans hdrops

/-! ## The duration -/

/-- No printer records a departure between `emit_simulation_end` and `emit_statistics`. -/
def DepartsInTime (s : Sys) (a : SysAction) : Prop :=
  ∀ i, a = .run (.printer i) → s.printerPc i = .emitDeparture → s.mainPc ≠ .emitStatistics

instance (s : Sys) (a : SysAction) : Decidable (DepartsInTime s a) :=
  inferInstanceAs (Decidable (∀ _, _ → _ → _))

/-- The service time of every slot is at most the duration. -/
def WithinDuration (v : ReportView) : Prop := ∀ i, v.serviceTimeUs i ≤ v.durationUs

/-- The time since the start is above every service time. -/
lemma within_elapsed (h : CardsKept s) (i : Slot) :
    s.data.reportView.serviceTimeUs i ≤
      s.data.reportView.clock - s.data.reportView.referenceTimeUs := by
  have htotal := (h.sound i).total_le
  change s.data.reportView.referenceTimeUs.toNat + (s.data.reportView.serviceTimeUs i).toNat ≤
    s.data.reportView.clock.toNat at htotal
  have hle : s.data.reportView.referenceTimeUs ≤ s.data.reportView.clock :=
    UInt64.le_iff_toNat_le.mpr (by omega)
  rw [UInt64.le_iff_toNat_le, UInt64.toNat_sub_of_le _ _ hle]
  omega

/-- The main thread comes to the statistics from the end of the simulation. -/
lemma before_statistics {q : MainPc} (h : (mainCode setup q).Goes d d' .emitStatistics) :
    q = .emitEnd := by
  cases q with
  | emitEnd => rfl
  | exit => exact h.elim
  | createReceiver | createRefiller | createPrinter | createStopper =>
      obtain ⟨_, hq | hq⟩ := h <;> cases hq
  | createAutoscaler =>
      obtain ⟨_, hq | hq⟩ := h
      · split at hq <;> cases hq
      · cases hq
  | nextPrinter | checkSlot =>
      obtain ⟨_, hq⟩ := h
      simp only at hq
      split at hq <;> cases hq
  | joinAutoscaler =>
      obtain ⟨_, hq⟩ := h
      split at hq <;> cases hq
  | checkJoin | checkAutoscaling | checkAutoscalingEnd =>
      obtain ⟨_, hq⟩ := h
      simp only at hq
      split at hq <;> (try split at hq) <;> cases hq
  | _ => obtain ⟨_, hq⟩ := h; cases hq

/-- At the statistics, the duration covers every service time. -/
def DurationCovers (s : Sys) : Prop :=
  s.mainPc = .emitStatistics → WithinDuration s.data.reportView

lemma DurationCovers.step (ih : DurationCovers s) (hcards : CardsKept s)
    (hs : step (program setup) s a = some s') (htime : DepartsInTime s a) :
    DurationCovers s' := by
  intro hq i
  have helapsed := within_elapsed hcards i
  rcases main_cases hs with hpl | goes
  · have hbefore : s.mainPc = .emitStatistics := by rw [← hq, Sys.mainPc, Sys.mainPc, hpl.1]
    have hcovers := ih hbefore i
    cases report_step hs with
    | later _ _ report | enqueued _ _ report | arrival _ _ report | drop _ _ report =>
        rw [report]
        exact hcovers
    | start _ pc _ | ended _ pc _ => rw [hbefore] at pc; cases pc
    | stopped _ report => rw [report]; exact helapsed
    | departure j ex pc report =>
        exact absurd hbefore (htime j (run_of_departure hs ex pc) pc)
  · rw [hq] at goes
    have hend := before_statistics goes
    rw [hend] at goes
    rw [goes.1, emit_reportView]
    exact helapsed

/-- The runs of short services in which no departure comes too late. -/
def InTime (s : Sys) (a : SysAction) : Prop := ShortServices s a ∧ DepartsInTime s a

instance (s : Sys) (a : SysAction) : Decidable (InTime s a) :=
  inferInstanceAs (Decidable (_ ∧ _))

/-- **The duration covers every service time**, in every run that is in time. -/
theorem duration_covers (h : Reach (program setup) InTime (freshState setup) s) :
    DurationCovers s :=
  h.invariant (I := DurationCovers) (fun hq => (by cases hq))
    fun hr ih hok hs => ih.step (cards_sound (fun _ _ ha => ha.1) hr) hs hok.2

/-! ## The ratios -/

/-- A number between 0 and 1, which is not the result of a division by zero. -/
def Double.InUnit (x : Double) : Prop := ∃ q : ℚ, x = .num q ∧ 0 ≤ q ∧ q ≤ 1

/-- A quotient of counts. -/
lemma inUnit_div {m n : ℕ} (hle : m ≤ n) (hne : n ≠ 0) :
    ((Double.ofNat m).div (Double.ofNat n)).InUnit := by
  have hpos : (0 : ℚ) < n := Nat.cast_pos.mpr (Nat.pos_of_ne_zero hne)
  refine ⟨(m : ℚ) / n, Double.div_num hpos.ne', div_nonneg (Nat.cast_nonneg m) hpos.le, ?_⟩
  exact (div_le_one hpos).mpr (Nat.cast_le.mpr hle)

lemma inUnit_zero : (Double.num 0).InUnit := ⟨0, rfl, le_rfl, zero_le_one⟩

/-- What the report of the ratios needs, and the ratios. -/
structure RatiosRight (stats : SimulationStatistics) : Prop where
  dropped : stats.totalJobsDropped ≤ stats.totalJobsArrived
  service : ∀ i, stats.totalServiceTimePrinterUs i ≤ stats.simulationDurationUs
  dropProbability : (calculateJobDropProbability stats).InUnit
  utilization : ∀ printerIndex, (calculateSystemUtilization stats printerIndex).InUnit

lemma ratiosRight_of_sums {stats : SimulationStatistics}
    (hdropped : stats.totalJobsDropped ≤ stats.totalJobsArrived)
    (hservice : ∀ i, stats.totalServiceTimePrinterUs i ≤ stats.simulationDurationUs) :
    RatiosRight stats := by
  refine ⟨hdropped, hservice, ?_, fun printerIndex => ?_⟩
  · rw [calculateJobDropProbability]
    split
    · exact inUnit_zero
    · next hne => exact inUnit_div hdropped hne
  · rw [calculateSystemUtilization]
    split
    · exact inUnit_zero
    · next i _ =>
      split
      · exact inUnit_zero
      · next hne =>
        refine inUnit_div (UInt64.le_iff_toNat_le.mp (hservice i)) fun hzero => hne ?_
        exact UInt64.toNat_inj.mp hzero

/-- **When the reported ratios are between 0 and 1.**  In every run whose services take less than
`2 ^ 31` microseconds and in which no printer records a departure between the last two log calls of
the main thread: when `emit_statistics` is called, no more jobs were dropped than arrived, the
service time of every slot is at most the duration of the simulation, and the drop probability and
the utilizations are numbers between 0 and 1. -/
theorem reported_ratios (h : Reach (program setup) InTime (freshState setup) s)
    (hpc : s.mainPc = .emitStatistics) : RatiosRight s.data.stats :=
  ratiosRight_of_sums (drops_counted h) (duration_covers h hpc)

/-- One job is served, the user stops the simulation and all threads come to their ends. -/
def servedAndStopped : List SysAction :=
  [Action.env (Env.tick 1000)] ++ runs Tid.main 20 ++ runs Tid.receiver 21 ++
    [Action.env (Env.tick 2000)] ++ runs (Tid.printer 0) 12 ++ [Action.env (Env.tick 5000)] ++
    runs (Tid.printer 0) 12 ++ runs Tid.stopper 18 ++ runs Tid.receiver 2 ++
    [Action.accept Tid.receiver] ++ runs (Tid.printer 0) 13 ++ runs (Tid.printer 1) 13 ++
    runs Tid.refiller 8 ++ runs Tid.main 17 ++ runs Tid.autoscaler 3 ++ runs Tid.main 2

theorem reported_ratios_one_job :
    ∃ s : Sys, Reach (program defaultServer) InTime (freshState defaultServer) s ∧
      s.mainPc = .emitStatistics ∧
      calculateSystemUtilization s.data.stats 0 = .num (3 / 4) ∧ RatiosRight s.data.stats := by
  obtain ⟨s, hs, hpc, hutilization⟩ := exists_run defaultServer InTime servedAndStopped
    (fun s => s.mainPc = .emitStatistics ∧
      calculateSystemUtilization s.data.stats 0 = .num (3 / 4)) (by decide +kernel)
  exact ⟨s, hs, hpc, hutilization, reported_ratios hs hpc⟩

/-- Ten jobs pile up and a third printer is started.  It takes a job before the user stops the
simulation, and the walk over the slots passes it before the autoscaler has marked its slot. -/
def lateDeparture : List SysAction :=
  runs Tid.main 20 ++ runs Tid.receiver 192 ++ [Action.env (Env.tick 10000000)] ++
    runs Tid.autoscaler 14 ++ runs (Tid.printer 2) 11 ++ runs Tid.stopper 26 ++
    runs Tid.receiver 2 ++ [Action.accept Tid.receiver] ++ runs (Tid.printer 0) 13 ++
    runs (Tid.printer 1) 13 ++ runs Tid.refiller 8 ++ runs Tid.main 17 ++ runs Tid.autoscaler 7 ++
    runs Tid.main 2 ++ [Action.env (Env.tick 30000000)] ++ runs (Tid.printer 2) 6

/-- **A utilization of 200 percent.**  The third printer records a service of twenty seconds after
the end of a simulation of ten seconds was reported. -/
theorem utilization_above_one :
    ∃ s : Sys, Reach (program defaultServer) ShortServices (freshState defaultServer) s ∧
      s.mainPc = .emitStatistics ∧ s.data.stats.simulationDurationUs = 10000000 ∧
      s.data.stats.totalServiceTimePrinterUs 2 = 20000000 ∧
        calculateSystemUtilization s.data.stats 2 = .num 2 :=
  exists_run defaultServer ShortServices lateDeparture
    (fun s => s.mainPc = .emitStatistics ∧ s.data.stats.simulationDurationUs = 10000000 ∧
      s.data.stats.totalServiceTimePrinterUs 2 = 20000000 ∧
        calculateSystemUtilization s.data.stats 2 = .num 2) (by decide +kernel)

end Orchestrator
