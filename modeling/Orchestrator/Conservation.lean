import Orchestrator.JobFlow
import Mathlib.Algebra.BigOperators.Ring.Finset

/-!
# Job conservation

In every run in which no printer is cancelled, the jobs counted as arrived are the jobs served,
dropped, removed, queued, in a printer's hands and in the receiver's hands, and no job is in two of
these places.

* `counted` — the counters are the numbers of the log events.
* `station_conserved` — the refinement of the station carries its conservation law over.
* `jobs_conserved` — the law in terms of the counters.
-/

namespace Orchestrator

open Pthread Queueing

variable {setup : Setup} {s s' : Sys} {a : SysAction} {ok : Sys → SysAction → Prop}

/-! ## The counters -/

/-- The counters are the numbers of the log events. -/
structure Counted (v : JobView) : Prop where
  arrived : v.totalArrived = v.arrived.length
  served : v.totalServed = v.served.length
  dropped : v.totalDropped = v.dropped.length
  removed : v.totalRemoved = v.removed.length

lemma Counted.step (ih : Counted s.data.jobs) (hs : step (program setup) s a = some s') :
    Counted s'.data.jobs := by
  obtain ⟨harr, hserv, hdrop, hrem⟩ := ih
  cases sys_move hs with
  | quiet data _ => obtain ⟨c, r, k, data⟩ := data; rw [data]; exact ⟨harr, hserv, hdrop, hrem⟩
  | main _ goes => rw [main_jobs goes]; exact ⟨harr, hserv, hdrop, hrem⟩
  | refiller _ goes _ => rw [refiller_jobs goes]; exact ⟨harr, hserv, hdrop, hrem⟩
  | autoscaler _ goes => rw [autoscaler_jobs goes]; exact ⟨harr, hserv, hdrop, hrem⟩
  | stopper _ goes _ =>
      rcases stop_jobs goes with hj | ⟨_, hd⟩
      · rw [hj]; exact ⟨harr, hserv, hdrop, hrem⟩
      · rw [hd]
        cases hq : s.data.jobQueue.list with
        | nil => rw [emptyQueueRound_jobs_nil _ hq]; exact ⟨harr, hserv, hdrop, hrem⟩
        | cons job rest =>
            rw [emptyQueueRound_jobs_cons _ hq]
            exact ⟨harr, hserv, hdrop, by simp [hrem]⟩
  | receiver _ goes _ =>
      rcases receiver_jobs goes with ⟨hj, _⟩ | ⟨_, hd, _⟩ | ⟨_, hd, _⟩ | ⟨_, hd, _⟩
      · rw [hj]; exact ⟨harr, hserv, hdrop, hrem⟩
      · rw [hd, reportArrival_jobs]; exact ⟨by simp [harr], hserv, hdrop, hrem⟩
      · rw [hd, emit_droppedJob_jobs]; exact ⟨harr, hserv, by simp [hdrop], hrem⟩
      · rw [hd, enqueueJob_jobs]; exact ⟨harr, hserv, hdrop, hrem⟩
  | printer i _ goes _ =>
      rcases printer_jobs goes with ⟨hj, _⟩ | ⟨_, hd, _⟩ | ⟨_, hd, _⟩
      · rw [hj]; exact ⟨harr, hserv, hdrop, hrem⟩
      · rw [hd]; exact ⟨harr, hserv, hdrop, hrem⟩
      · rw [hd, departSystem_jobs]; exact ⟨harr, by simp [hserv], hdrop, hrem⟩

/-- **The counters of the statistics count the log events.** -/
theorem counted (h : Reach (program setup) ok (freshState setup) s) : Counted s.data.jobs :=
  h.invariant (I := fun s => Counted s.data.jobs) ⟨rfl, rfl, rfl, rfl⟩
    fun _ ih _ hs => ih.step hs

/-! ## Runs in which no printer is cancelled -/

/-- No printer acts on a cancellation request. -/
def NoPrinterCancelled : Sys → SysAction → Prop := fun _ a => ∀ i, a ≠ .accept (.printer i)

instance (s : Sys) (a : SysAction) : Decidable (NoPrinterCancelled s a) :=
  inferInstanceAs (Decidable (∀ i, a ≠ .accept (.printer i)))

/-- A printer whose thread is not alive is at its entry or its exit. -/
lemma place_of_not_alive {i : Slot}
    (h : Reach (program setup) NoPrinterCancelled (freshState setup) s) :
    ((s.ctl (.printer i)).status = .absent → s.printerPc i = .lockState) ∧
      ((s.ctl (.printer i)).status = .ended → s.printerPc i = .exit) := by
  have hset : Settled (program setup) s (.printer i) :=
    settled (fun s a ha => ha i) ⟨fun m => by simp [freshState], fun _ => rfl,
      fun h => by simp [freshState] at h⟩ h
  refine ⟨hset.absent, fun hst => ?_⟩
  have hexit : printerCode setup i (s.printerArgs i) (s.printerPc i) = .exit := hset.ended hst
  cases hq : s.printerPc i <;> rw [hq] at hexit <;> first | rfl | cases hexit

/-- A printer whose thread is not alive holds no job. -/
lemma holdsJob_of_not_alive {i : Slot}
    (h : Reach (program setup) NoPrinterCancelled (freshState setup) s)
    (hdead : (s.ctl (.printer i)).status.alive = false) : (s.printerPc i).holdsJob = false := by
  obtain ⟨habsent, hended⟩ := place_of_not_alive (i := i) h
  cases hst : (s.ctl (.printer i)).status with
  | absent => rw [habsent hst]; rfl
  | ended => rw [hended hst]; rfl
  | _ => rw [hst] at hdead; cases hdead

/-- **Conservation over the station**, in runs in which a printer that is not alive holds no job. -/
theorem station_conserved_of
    (hdead : ∀ {s : Sys} {i : Slot}, Reach (program setup) ok (freshState setup) s →
      (s.ctl (.printer i)).status.alive = false → (s.printerPc i).holdsJob = false)
    (h : Reach (program setup) ok (freshState setup) s) : (station s).Conserved := by
  refine h.invariant (I := fun s => (station s).Conserved) ⟨?_, List.Pairwise.nil⟩
    fun {s s' a} hr ih _ hs => ?_
  · simp [station, freshState, freshData, Data.jobs, Station.census, Station.busy, pendingJob,
      inHand, ReceiverPc.holdsJob, PrinterPc.holdsJob]
  · rcases station_step hr hs with he | hstep | ⟨t, i, _, hc, he⟩
    · rw [he]; exact ih
    · exact hstep.conserved ih
    · have hlose : (station s).lose i = station s := by
        have hidle : (station s).inService i = none := by
          show inHand i (Sys.printerPc s i) s.data = none
          rw [inHand, hdead hr hc.notAlive]
          rfl
        rw [Station.lose, ← hidle, Function.update_eq_self]
      rw [he, hlose]
      exact ih

theorem station_conserved (h : Reach (program setup) NoPrinterCancelled (freshState setup) s) :
    (station s).Conserved :=
  station_conserved_of (fun hr => holdsJob_of_not_alive hr) h

/-- The printers that hold a job. -/
def busyPrinters (s : Sys) : Finset Slot := Finset.univ.filter fun i => (s.printerPc i).holdsJob

lemma card_busy (s : Sys) : Multiset.card (station s).busy = (busyPrinters s).card := by
  rw [Station.busy, Multiset.card_sum, busyPrinters, Finset.card_filter]
  refine Finset.sum_congr rfl fun i _ => ?_
  by_cases hi : (s.printerPc i).holdsJob = true
  · simp [station, inHand, hi]
  · simp [station, inHand, hi]

/-- The counters of the statistics, when everyone is in one place of the station. -/
lemma counts_of_conserved (h : Reach (program setup) ok (freshState setup) s)
    (hcons : (station s).Conserved) :
    s.data.stats.totalJobsArrived =
      s.data.stats.totalJobsServed + s.data.stats.totalJobsDropped +
        s.data.stats.totalJobsRemoved + timedQueueLength s.data.jobQueue +
        (busyPrinters s).card + (if s.receiverPc.holdsJob then 1 else 0) := by
  have harr : s.data.stats.totalJobsArrived = (station s).arrived.length := (counted h).arrived
  have hserv : s.data.stats.totalJobsServed = (station s).served.length := (counted h).served
  have hdrop : s.data.stats.totalJobsDropped = (station s).dropped.length := (counted h).dropped
  have hrem : s.data.stats.totalJobsRemoved = (station s).removed.length := (counted h).removed
  have hpend : (station s).pending.toList.length = if s.receiverPc.holdsJob then 1 else 0 := by
    simp only [station, pendingJob]
    split <;> rfl
  have hline : (station s).line.length = timedQueueLength s.data.jobQueue := by
    simp [station, Data.jobs, timedQueueLength]
  have hcard := hcons.card
  rw [hpend, hline, card_busy] at hcard
  rw [harr, hserv, hdrop, hrem, hcard]

/-- **Job conservation.**  In every state that is reached without cancelling a printer, every job
counted as arrived is counted as served, dropped or removed, or it is in the queue, in the hands of
a printer that has not recorded its departure, or with the receiver that has neither enqueued nor
dropped it; and no job is in two of these places. -/
theorem jobs_conserved (h : Reach (program setup) NoPrinterCancelled (freshState setup) s) :
    s.data.stats.totalJobsArrived =
        s.data.stats.totalJobsServed + s.data.stats.totalJobsDropped +
          s.data.stats.totalJobsRemoved + timedQueueLength s.data.jobQueue +
          (busyPrinters s).card + (if s.receiverPc.holdsJob then 1 else 0) ∧
      (station s).census.Nodup :=
  ⟨counts_of_conserved h (station_conserved h), (station_conserved h).nodup⟩

/-- A stop of a server run in which one job was served, one is being printed, one was in the queue
and is removed, and one is with the receiver. -/
theorem jobs_conserved_after_stop :
    ∃ s : Sys, Reach (program defaultServer) NoPrinterCancelled (freshState defaultServer) s ∧
      (s.data.stats.totalJobsArrived = 4 ∧ s.data.stats.totalJobsServed = 1 ∧
        s.data.stats.totalJobsRemoved = 1 ∧ (busyPrinters s).card = 1 ∧
          s.receiverPc.holdsJob = true) ∧
      (station s).census.Nodup := by
  obtain ⟨s, hs, hcounts⟩ := exists_run defaultServer NoPrinterCancelled
    (runs Tid.main 20 ++ runs Tid.receiver 69 ++ runs (Tid.printer 0) 35 ++ runs Tid.stopper 19)
    (fun s => s.data.stats.totalJobsArrived = 4 ∧ s.data.stats.totalJobsServed = 1 ∧
      s.data.stats.totalJobsRemoved = 1 ∧ (busyPrinters s).card = 1 ∧
        s.receiverPc.holdsJob = true)
    (by decide +kernel)
  exact ⟨s, hs, hcounts, (jobs_conserved hs).2⟩

end Orchestrator
