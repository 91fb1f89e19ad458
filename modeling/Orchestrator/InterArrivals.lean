import Orchestrator.ReportView
import Orchestrator.SimulationStats
import Mathlib.Tactic.Linarith

/-!
# The average inter-arrival time

The receiver measures the gap before the first job from the start of the simulation, and the report
divides by the number of gaps between jobs.

* `ArrivalBooks` — the gaps add up to the time from the start to the newest arrival.
* `NewestKnown` — the receiver carries the newest arrival time along both paths of its loop.
* `inter_arrival_average` — the report is the mean gap exactly when the first job arrived at the
  start.
-/

namespace Orchestrator

open Pthread

/-- The newest arrival, or the start of the simulation. -/
def ReportView.newest (v : ReportView) : ULong := v.arrivals.headD v.startTimeUs

/-- The arrivals are counted and in order, and the gaps are added up. -/
structure ArrivalBooks (v : ReportView) : Prop where
  counted : v.jobsArrived = v.arrivals.length
  total : v.interArrivalTimeUs = v.newest - v.startTimeUs
  ordered : (v.clock :: (v.arrivals ++ [v.startTimeUs])).Pairwise fun t u => u ≤ t

/-- What the receiver knows about the newest arrival. -/
def NewestKnown (q : ReceiverPc) (r : ReceiverLocals) (v : ReportView) : Prop :=
  match q with
  | .start | .readStart => v.arrivals = []
  | .lockStatsArrival | .emitArrival =>
      r.previousJobArrivalTimeUs = v.newest ∧ v.newest ≤ r.job.systemArrivalTimeUs ∧
        r.job.systemArrivalTimeUs ≤ v.clock
  -- the job has arrived, and the loop has not come round
  | .unlockStatsArrival | .lockQueue | .checkCapacity | .dropUnlockQueue | .lockStatsDrop
  | .emitDrop | .unlockStatsDrop | .stampQueueArrival | .enqueue | .lockStatsQueue
  | .emitQueueArrival | .unlockStatsQueue => r.job.systemArrivalTimeUs = v.newest
  | _ => r.previousJobArrivalTimeUs = v.newest

variable {v : ReportView}

lemma ArrivalBooks.newest_le (h : ArrivalBooks v) : v.newest ≤ v.clock := by
  refine (List.pairwise_cons.mp h.ordered).1 _ ?_
  cases harr : v.arrivals with
  | nil => simp [ReportView.newest, harr]
  | cons t rest => simp [ReportView.newest, harr]

/-- No job arrives. -/
structure SameArrivals (v v' : ReportView) : Prop where
  clock : v.clock ≤ v'.clock
  start : v'.startTimeUs = v.startTimeUs
  counted : v'.jobsArrived = v.jobsArrived
  total : v'.interArrivalTimeUs = v.interArrivalTimeUs
  arrivals : v'.arrivals = v.arrivals

lemma SameArrivals.newest {v' : ReportView} (h : SameArrivals v v') : v'.newest = v.newest := by
  rw [ReportView.newest, ReportView.newest, h.arrivals, h.start]

lemma ArrivalBooks.same (h : ArrivalBooks v) {v' : ReportView} (hv : SameArrivals v v') :
    ArrivalBooks v' := by
  refine ⟨?_, ?_, ?_⟩
  · rw [hv.counted, hv.arrivals]
    exact h.counted
  · rw [hv.total, hv.newest, hv.start]
    exact h.total
  · rw [hv.arrivals, hv.start]
    obtain ⟨hbefore, hordered⟩ := List.pairwise_cons.mp h.ordered
    exact List.pairwise_cons.mpr ⟨fun t ht => UInt64.le_trans (hbefore t ht) hv.clock, hordered⟩

lemma NewestKnown.same {q : ReceiverPc} {r : ReceiverLocals} (h : NewestKnown q r v)
    {v' : ReportView} (hv : SameArrivals v v') : NewestKnown q r v' := by
  cases q with
  | start | readStart => exact hv.arrivals.trans h
  | lockStatsArrival | emitArrival =>
      obtain ⟨hprevious, hafter, hbefore⟩ := h
      exact ⟨hprevious.trans hv.newest.symm, by rw [hv.newest]; exact hafter,
        UInt64.le_trans hbefore hv.clock⟩
  | _ => exact h.trans hv.newest.symm

/-- An arrival adds the gap since the one before it. -/
lemma ArrivalBooks.arrive (h : ArrivalBooks v) {job : Job} {previous : ULong}
    (hprevious : previous = v.newest) (hafter : v.newest ≤ job.systemArrivalTimeUs)
    (hbefore : job.systemArrivalTimeUs ≤ v.clock) :
    ArrivalBooks (v.record (.systemArrival job previous)) := by
  obtain ⟨_, hordered⟩ := List.pairwise_cons.mp h.ordered
  have hbelow : ∀ t ∈ v.arrivals ++ [v.startTimeUs], t ≤ job.systemArrivalTimeUs := by
    intro t ht
    refine UInt64.le_trans ?_ hafter
    cases harr : v.arrivals with
    | nil =>
        rw [harr] at ht
        rw [List.mem_singleton.mp ht, ReportView.newest, harr]
        exact UInt64.le_refl _
    | cons u rest =>
        rw [harr] at ht hordered
        rw [ReportView.newest, harr]
        rcases List.mem_cons.mp ht with rfl | ht
        · exact UInt64.le_refl _
        · exact (List.pairwise_cons.mp hordered).1 t ht
  refine ⟨?_, ?_, ?_⟩
  · show v.jobsArrived + 1 = _
    rw [h.counted]
    rfl
  · show v.interArrivalTimeUs + (job.systemArrivalTimeUs - previous) =
      job.systemArrivalTimeUs - v.startTimeUs
    rw [h.total, hprevious]
    grind
  · refine List.pairwise_cons.mpr ⟨fun t ht => ?_, List.pairwise_cons.mpr ⟨hbelow, hordered⟩⟩
    rcases List.mem_cons.mp ht with rfl | ht
    · exact hbefore
    · exact UInt64.le_trans (hbelow t ht) hbefore

/-! ## The receiver -/

variable {setup : Setup} {d d' : Data}

/-- The receiver's own steps: it reports an arrival with the newest one before it. -/
lemma receiver_newest {q q' : ReceiverPc} (h : (receiverCode setup q).Goes d d' q')
    (hbooks : ArrivalBooks d.reportView) (hknown : NewestKnown q d.receiver d.reportView) :
    ArrivalBooks d'.reportView ∧ NewestKnown q' d'.receiver d'.reportView := by
  rcases receiver_reportView h with ⟨hquiet, hv⟩ | ⟨rfl, hv⟩ | ⟨rfl, hv⟩ | ⟨rfl, hv⟩
  · rw [hv]
    refine ⟨hbooks, ?_⟩
    cases q with
    | exit => exact h.elim
    | readStart =>
        obtain ⟨rfl, rfl⟩ := h
        have hnone : d.reportView.arrivals = [] := hknown
        show d.reportView.startTimeUs = d.reportView.newest
        rw [ReportView.newest, hnone]
        rfl
    | nextJob =>
        have hprevious : d'.receiver.previousJobArrivalTimeUs =
            d.receiver.previousJobArrivalTimeUs := by
          rw [h.1, Receiver.createJob]
          split <;> rfl
        obtain ⟨_, rfl⟩ := h
        simp only
        split <;> exact hprevious.trans hknown
    | stampArrival =>
        obtain ⟨rfl, rfl⟩ := h
        exact ⟨hknown, hbooks.newest_le, UInt64.le_refl _⟩
    | readTerminate | checkCapacity =>
        obtain ⟨rfl, rfl⟩ := h
        simp only
        split <;> exact hknown
    | emitQueueArrival | emitArrival | emitDrop => cases hquiet
    | _ => obtain ⟨rfl, rfl⟩ := h; exact hknown
  · rw [hv]
    refine ⟨hbooks.same ⟨UInt64.le_refl _, rfl, rfl, rfl, rfl⟩, ?_⟩
    obtain ⟨rfl, rfl⟩ := h
    exact hknown
  · obtain ⟨hprevious, hafter, hbefore⟩ := hknown
    rw [hv]
    refine ⟨hbooks.arrive hprevious hafter hbefore, ?_⟩
    obtain ⟨rfl, rfl⟩ := h
    rfl
  · rw [hv]
    refine ⟨hbooks.same ⟨UInt64.le_refl _, rfl, rfl, rfl, rfl⟩, ?_⟩
    obtain ⟨rfl, rfl⟩ := h
    exact hknown

/-! ## Every run -/

variable {s s' : Sys} {a : SysAction} {ok : Sys → SysAction → Prop}

/-- The arrivals are in the books, and the receiver knows the newest one. -/
structure ArrivalsKept (s : Sys) : Prop where
  books : ArrivalBooks s.data.reportView
  known : NewestKnown s.receiverPc s.data.receiver s.data.reportView

lemma ArrivalsKept.step (ih : ArrivalsKept s) (h : Reach (program setup) ok (freshState setup) s)
    (hs : step (program setup) s a = some s') : ArrivalsKept s' := by
  rcases receiver_cases h hs with ⟨hex, hpc, hrec⟩ | ⟨_, goes⟩
  · have hsame : SameArrivals s.data.reportView s'.data.reportView → ArrivalsKept s' := by
      intro hv
      refine ⟨ih.books.same hv, ?_⟩
      rw [hpc, hrec]
      exact ih.known.same hv
    cases report_step hs with
    | later c le report => exact hsame (by rw [report]; exact ⟨le, rfl, rfl, rfl, rfl⟩)
    | start _ pc report =>
        -- the receiver is created after the start
        have hentry : s.receiverPc = .start :=
          (unstarted h .receiver 0 rfl (by rw [pc]; decide)).2.1
        have hknown := ih.known
        rw [hentry] at hknown
        have hnone : s.data.reportView.arrivals = [] := hknown
        have hbooks := ih.books
        refine ⟨⟨?_, ?_, ?_⟩, ?_⟩
        · rw [report]; exact hbooks.counted
        · have htotal := hbooks.total
          rw [ReportView.newest, hnone, List.headD_nil, UInt64.sub_self] at htotal
          rw [report]
          show s.data.reportView.interArrivalTimeUs =
            s.data.reportView.arrivals.headD s.data.reportView.clock - s.data.reportView.clock
          rw [htotal, hnone, List.headD_nil, UInt64.sub_self]
        · rw [report]
          show (s.data.reportView.clock :: (s.data.reportView.arrivals ++
            [s.data.reportView.clock])).Pairwise fun t u => u ≤ t
          rw [hnone]
          simp
        · rw [hpc, hrec, hentry, report]
          exact hnone
    | ended _ _ report | stopped _ report =>
        exact hsame (by rw [report]; exact ⟨UInt64.le_refl _, rfl, rfl, rfl, rfl⟩)
    | enqueued ex _ _ | arrival ex _ _ | drop ex _ _ => exact absurd ex hex
    | departure i _ _ report =>
        refine hsame ?_
        rw [report, ReportView.record]
        split <;> exact ⟨UInt64.le_refl _, rfl, rfl, rfl, rfl⟩
  · obtain ⟨hbooks, hknown⟩ := receiver_newest goes ih.books ih.known
    exact ⟨hbooks, hknown⟩

lemma arrivals_fresh (setup : Setup) : ArrivalsKept (freshState setup) where
  books := by
    refine ⟨rfl, ?_, ?_⟩
    · show (0 : ULong) = 0 - 0
      decide
    · show [(0 : ULong), 0].Pairwise fun t u => u ≤ t
      decide
  known := by
    show (freshState setup).data.reportView.arrivals = []
    rfl

/-- **The gaps add up to the time from the start to the newest arrival**, in every run. -/
theorem arrivals_kept (h : Reach (program setup) ok (freshState setup) s) : ArrivalsKept s :=
  h.invariant (I := ArrivalsKept) (arrivals_fresh setup) fun hr ih _ hs => ih.step hr hs

/-- When the jobs arrived, oldest first. -/
def Data.arrivalTimes (d : Data) : List ULong := (d.emitted.filterMap Event.arrivalTime).reverse

variable {first last : ULong} {between : List ULong}

/-- What the report divides, with two jobs or more. -/
lemma average_of_books (h : ArrivalBooks d.reportView)
    (hjobs : d.arrivalTimes = first :: (between ++ [last])) :
    calculateAverageInterArrivalTime d.stats =
        .num (((last.toNat : ℚ) - d.stats.simulationStartTimeUs.toNat) / 1000000 /
          (between.length + 1)) ∧
      d.arrivalTimes.Pairwise (fun t u => t ≤ u) := by
  have harrivals : d.reportView.arrivals = last :: (between.reverse ++ [first]) := by
    have hrev := congrArg List.reverse hjobs
    rw [Data.arrivalTimes, List.reverse_reverse] at hrev
    rw [show d.reportView.arrivals = d.emitted.filterMap Event.arrivalTime from rfl, hrev]
    simp
  have hcount : d.stats.totalJobsArrived = between.length + 2 := by
    have hcounted := h.counted
    rw [harrivals, List.length_cons, List.length_append, List.length_reverse,
      List.length_singleton] at hcounted
    exact hcounted
  have hordered := (List.pairwise_cons.mp h.ordered).2
  have hstart : d.stats.simulationStartTimeUs ≤ last := by
    rw [harrivals, List.cons_append] at hordered
    exact (List.pairwise_cons.mp hordered).1 _ (by simp [Data.reportView])
  have htotal : d.stats.totalInterArrivalTimeUs.toNat =
      last.toNat - d.stats.simulationStartTimeUs.toNat := by
    have htotal := h.total
    rw [ReportView.newest, harrivals] at htotal
    rw [show d.stats.totalInterArrivalTimeUs = last - d.stats.simulationStartTimeUs from htotal,
      UInt64.toNat_sub_of_le _ _ hstart]
  constructor
  · have hne : ((between.length : ℚ) + 2 - 1) ≠ 0 := by
      have : (0 : ℚ) ≤ between.length := Nat.cast_nonneg _
      linarith
    rw [calculateAverageInterArrivalTime, if_neg (by omega), htotal, hcount]
    simp only [Double.ofNat, Nat.cast_add, Nat.cast_ofNat, Double.sub_num,
      Double.div_num (show (1000000 : ℚ) ≠ 0 by norm_num), Double.div_num hne]
    rw [Nat.cast_sub (UInt64.le_iff_toNat_le.mp hstart)]
    congr 2
    linarith
  · have hsub := (List.pairwise_append.mp hordered).1
    rw [show d.arrivalTimes = d.reportView.arrivals.reverse from rfl, List.pairwise_reverse]
    exact hsub

/-- **When the reported average is the mean gap.**  In every run in which two jobs or more have
arrived, the arrival times are in order, and `calculate_average_inter_arrival_time` is the time from
the first to the last of them over the number of gaps, in seconds, exactly when the first job
arrived at the start of the simulation. -/
theorem inter_arrival_average (h : Reach (program setup) ok (freshState setup) s)
    (hjobs : s.data.arrivalTimes = first :: (between ++ [last])) :
    s.data.arrivalTimes.Pairwise (fun t u => t ≤ u) ∧
      (calculateAverageInterArrivalTime s.data.stats =
          .num (((last.toNat : ℚ) - first.toNat) / (between.length + 1) / 1000000) ↔
        first = s.data.stats.simulationStartTimeUs) := by
  obtain ⟨haverage, hordered⟩ := average_of_books (arrivals_kept h).books hjobs
  refine ⟨hordered, ?_⟩
  have hgaps : (0 : ℚ) < between.length + 1 := by positivity
  rw [haverage, Double.num.injEq, div_right_comm, div_left_inj' (by norm_num),
    div_left_inj' hgaps.ne', sub_right_inj, Nat.cast_inj, UInt64.toNat_inj]
  exact eq_comm

/-- Two jobs that arrive one and three milliseconds after the start. -/
def twoArrivals : List SysAction :=
  [Action.env (Env.tick 1000)] ++ runs Tid.main 20 ++ [Action.env (Env.tick 2000)] ++
    runs Tid.receiver 21 ++ [Action.env (Env.tick 4000)] ++ runs Tid.receiver 19

theorem inter_arrival_average_two_jobs :
    ∃ s : Sys, Reach (program defaultServer) anyChoice (freshState defaultServer) s ∧
      s.data.arrivalTimes = [2000, 4000] ∧
      s.data.arrivalTimes.Pairwise (fun t u => t ≤ u) ∧
        (calculateAverageInterArrivalTime s.data.stats =
            .num ((((4000 : ULong).toNat : ℚ) - (2000 : ULong).toNat) /
              (([] : List ULong).length + 1) / 1000000) ↔
          2000 = s.data.stats.simulationStartTimeUs) := by
  obtain ⟨s, hs, hjobs⟩ := exists_run defaultServer anyChoice twoArrivals
    (fun s => s.data.arrivalTimes = [2000, 4000]) (by decide +kernel)
  exact ⟨s, hs, hjobs, inter_arrival_average hs hjobs⟩

/-- **The report counts one gap too many.**  The one gap between the two jobs is two milliseconds,
and the report says three. -/
theorem inter_arrival_average_from_start :
    ∃ s : Sys, Reach (program defaultServer) anyChoice (freshState defaultServer) s ∧
      s.data.arrivalTimes = [2000, 4000] ∧ s.data.stats.totalJobsArrived = 2 ∧
      calculateAverageInterArrivalTime s.data.stats = .num (3 / 1000) ∧
        calculateAverageInterArrivalTime s.data.stats ≠
          .num ((4000 - 2000) / (2 - 1) / 1000000) :=
  exists_run defaultServer anyChoice twoArrivals
    (fun s => s.data.arrivalTimes = [2000, 4000] ∧ s.data.stats.totalJobsArrived = 2 ∧
      calculateAverageInterArrivalTime s.data.stats = .num (3 / 1000) ∧
        calculateAverageInterArrivalTime s.data.stats ≠
          .num ((4000 - 2000) / (2 - 1) / 1000000)) (by decide +kernel)

end Orchestrator
