import Orchestrator.Cancellation
import Orchestrator.Pool
import Orchestrator.Pthread.Sections

/-!
# What each mutex protects

The shared memory of a run falls into parts, each with a mutex of its own.  The statistics have two:
the area under the queue length and its peak go with the job queue, all other counters with
`stats_mutex`.

* `queue_protected`, `stats_protected`, `flags_protected`, `pool_protected` — who holds the mutex
  is alone with the part.
* `sections_undisturbed` — so a thread inside a section finds everything as it left it.

`all_jobs_arrived` is in none of the parts: the receiver also sets it outside of a section.
-/

namespace Orchestrator

open Pthread

/-! ## The parts -/

namespace Data

/-- What `job_queue_mutex` protects: the queue, the area under its length, and its peak. -/
def queuePart (d : Data) : TimedQueue × ULong × ℕ :=
  (d.jobQueue, d.stats.areaNumInJobQueueUs, d.stats.maxJobQueueLength)

/-- What `stats_mutex` protects: the statistics but for the area, the peak and the two times that
the main thread reports. -/
def statsPart (d : Data) : SimulationStatistics :=
  { d.stats with
    simulationStartTimeUs := 0
    simulationDurationUs := 0
    areaNumInJobQueueUs := 0
    maxJobQueueLength := 0 }

/-- What `simulation_state_mutex` protects. -/
def endFlags (d : Data) : Bool × Bool := (d.gTerminateNow, d.allJobsServed)

/-- What `pool_mutex` protects: the pool but for the printers in its slots. -/
def poolPart (d : Data) : (Slot → Bool) × Int × Int × ULong × ULong :=
  (fun i => (d.pool.printers i).active, d.pool.activeCount, d.pool.minCount, d.pool.lastScaleTimeUs,
    d.pool.lowQueueStartTimeUs)

end Data

/-- The events that change the queue's part of the memory. -/
def Event.ofQueue : Event → Bool
  | .queueArrival _ _ | .queueDeparture _ _ => true
  | _ => false

/-- The events that count. -/
def Event.counts : Event → Bool
  | .systemArrival _ _ | .droppedJob _ _ | .systemDeparture _ _ => true
  | _ => false

namespace Data

variable {mode : LogMode} {e : Event} {d : Data}

lemma emit_queuePart (he : e.ofQueue = false) : (d.emit mode e).queuePart = d.queuePart := by
  cases e with
  | queueArrival | queueDeparture => cases he
  | systemDeparture job printer =>
      have hconsole : ∀ n st, (logDepartureOfPrinter job printer n st).areaNumInJobQueueUs =
          st.areaNumInJobQueueUs ∧ (logDepartureOfPrinter job printer n st).maxJobQueueLength =
            st.maxJobQueueLength := fun n st => by
        rw [logDepartureOfPrinter]
        split <;> exact ⟨rfl, rfl⟩
      have hsocket : ∀ n st, (publishDepartureOfPrinter job printer n st).areaNumInJobQueueUs =
          st.areaNumInJobQueueUs ∧ (publishDepartureOfPrinter job printer n st).maxJobQueueLength =
            st.maxJobQueueLength := fun n st => by
        rw [publishDepartureOfPrinter]
        split <;> exact ⟨rfl, rfl⟩
      cases mode with
      | terminal => exact congrArg (Prod.mk d.jobQueue) (Prod.ext (hconsole _ _).1 (hconsole _ _).2)
      | server => exact congrArg (Prod.mk d.jobQueue) (Prod.ext (hsocket _ _).1 (hsocket _ _).2)
  | _ => cases mode <;> rfl

lemma emit_statsPart (he : e.counts = false) : (d.emit mode e).statsPart = d.statsPart := by
  cases mode <;> cases e <;> first | rfl | cases he

end Data

/-! ## Instructions outside the sections -/

variable {setup : Setup} {d d' : Data}

/-- What an instruction does to the four parts, where it holds none of `held`. -/
structure LeavesAlone (held : List Mutex) (d d' : Data) : Prop where
  queue : .jobQueueMutex ∉ held → d'.queuePart = d.queuePart
  stats : .statsMutex ∉ held → d'.statsPart = d.statsPart
  flags : .simulationStateMutex ∉ held → d'.endFlags = d.endFlags

lemma LeavesAlone.of_eq {held : List Mutex} (hqueue : d'.queuePart = d.queuePart)
    (hstats : d'.statsPart = d.statsPart) (hflags : d'.endFlags = d.endFlags) :
    LeavesAlone held d d' :=
  ⟨fun _ => hqueue, fun _ => hstats, fun _ => hflags⟩

lemma LeavesAlone.emit {held : List Mutex} {mode : LogMode} {e : Event}
    (hqueue : e.ofQueue = false) (hcounts : e.counts = false) :
    LeavesAlone held d (d.emit mode e) :=
  .of_eq (Data.emit_queuePart hqueue) (Data.emit_statsPart hcounts) rfl

lemma printer_leavesAlone {i : Slot} {args : PrinterThreadArgs} {q q' : PrinterPc}
    (hargs : IsThreadArgs args) (h : (printerCode setup i args q).Goes d d' q') :
    LeavesAlone (printerHeld args q) d d' := by
  have hqueue : args.jobQueueMutex = .jobQueueMutex := by rcases hargs with rfl | rfl <;> rfl
  have hstats : args.statsMutex = .statsMutex := by rcases hargs with rfl | rfl <;> rfl
  have hflags : args.simulationStateMutex = .simulationStateMutex := by
    rcases hargs with rfl | rfl <;> rfl
  cases q with
  | exit => exact h.elim
  | dequeue =>
      rw [h.1]
      exact ⟨fun hn => absurd (by rw [printerHeld, hqueue]; exact List.mem_singleton_self _) hn,
        fun _ => rfl, fun _ => rfl⟩
  | emitQueueDeparture =>
      rw [h.1]
      refine ⟨fun hn => absurd (by rw [printerHeld, hqueue]; exact List.mem_singleton_self _) hn,
        fun _ => ?_, fun _ => rfl⟩
      rw [Printer.leaveQueue, Data.emit_statsPart rfl, Data.emit_statsPart rfl,
        Data.emit_statsPart rfl]
      rfl
  | exitSetServed =>
      rw [h.1]
      exact ⟨fun _ => rfl, fun _ => rfl,
        fun hn => absurd (by rw [printerHeld, hflags]; exact List.mem_singleton_self _) hn⟩
  | recordEmptyTime =>
      refine ⟨fun _ => ?_,
        fun hn => absurd (by rw [printerHeld, hstats]; exact List.mem_singleton_self _) hn,
        fun _ => ?_⟩ <;>
        · rw [h.1, Printer.recordEmptyTime]
          split <;> rfl
  | emitDeparture =>
      rw [h.1]
      refine ⟨fun _ => ?_,
        fun hn => absurd (by rw [printerHeld, hstats]; exact List.mem_singleton_self _) hn,
        fun _ => rfl⟩
      rw [Printer.departSystem, Data.emit_queuePart rfl]
      rfl
  | emitPaperEmpty =>
      rw [h.1]
      refine .of_eq ?_ ?_ rfl
      · rw [Data.emit_queuePart rfl, Data.emit_queuePart rfl]; rfl
      · rw [Data.emit_statsPart rfl, Data.emit_statsPart rfl]; rfl
  | emitArrival =>
      rw [h.1]
      refine .of_eq ?_ ?_ rfl
      · rw [Printer.arriveAtPrinter, Data.emit_queuePart rfl]; rfl
      · rw [Printer.arriveAtPrinter, Data.emit_statsPart rfl]; rfl
  | emitRefilled | emitBusy | emitIdle | emitStats => rw [h.1]; exact .emit rfl rfl
  | _ => obtain ⟨rfl, _⟩ := h; exact .of_eq rfl rfl rfl

lemma receiver_leavesAlone {q q' : ReceiverPc} (h : (receiverCode setup q).Goes d d' q') :
    LeavesAlone (receiverHeld q) d d' := by
  cases q with
  | exit => exact h.elim
  | nextJob =>
      rw [h.1, Receiver.createJob]
      split <;> exact .of_eq rfl rfl rfl
  | emitArrival =>
      rw [h.1]
      refine ⟨fun _ => ?_, fun hn => absurd (List.mem_singleton_self _) hn, fun _ => rfl⟩
      rw [Receiver.reportArrival, Data.emit_queuePart rfl, Data.emit_queuePart rfl]
  | emitDrop =>
      rw [h.1]
      exact ⟨fun _ => Data.emit_queuePart rfl, fun hn => absurd (List.mem_singleton_self _) hn,
        fun _ => rfl⟩
  | enqueue =>
      rw [h.1]
      exact ⟨fun hn => absurd (List.mem_singleton_self _) hn, fun _ => rfl, fun _ => rfl⟩
  | emitQueueArrival =>
      rw [h.1]
      exact ⟨fun hn => absurd (by decide) hn, fun hn => absurd (by decide) hn, fun _ => rfl⟩
  | endSetArrived => obtain ⟨rfl, _⟩ := h; exact .of_eq rfl rfl rfl
  | _ => obtain ⟨rfl, _⟩ := h; exact .of_eq rfl rfl rfl

lemma stop_leavesAlone {q q' : StopPc} (h : (stopCode setup q).Goes d d' q') :
    LeavesAlone (stopHeld q) d d' := by
  cases q with
  | setFlags =>
      rw [h.1]
      exact ⟨fun _ => rfl, fun _ => rfl, fun hn => absurd (List.mem_singleton_self _) hn⟩
  | emitStopped => rw [h.1]; exact .emit rfl rfl
  | drain =>
      refine ⟨fun hn => absurd (by decide) hn, fun hn => absurd (by decide) hn, fun _ => ?_⟩
      rw [h.1, emptyQueueRound]
      split <;> rfl
  | _ =>
      rw [stop_quiet h rfl]
      exact .of_eq rfl rfl rfl

lemma ScalingEffect.leavesAlone {mode : LogMode} {held : List Mutex}
    (h : ScalingEffect mode d d') : LeavesAlone held d d' := by
  cases h with
  | scaled _ _ _ data _ => rw [data]; exact .of_eq rfl rfl rfl
  | reported _ e data he =>
      rw [data]
      cases e <;> first
        | exact .of_eq (Data.emit_queuePart rfl) (Data.emit_statsPart rfl) rfl
        | cases he

lemma refiller_leavesAlone {q q' : RefillerPc} (h : (refillerCode setup q).Goes d d' q') :
    LeavesAlone (refillerHeld q) d d' := by
  by_cases hq : q = .recordRefill
  · subst hq
    rw [h.1]
    exact ⟨fun _ => rfl, fun hn => absurd (List.mem_singleton_self _) hn, fun _ => rfl⟩
  · cases refiller_refills h hq with
    | noted _ _ data => rw [data]; exact .of_eq rfl rfl rfl
    | filled _ _ data => rw [data]; exact .of_eq rfl rfl rfl
    | reported _ e data he =>
        rw [data]
        cases e <;> first
          | exact .of_eq (Data.emit_queuePart rfl) (Data.emit_statsPart rfl) rfl
          | cases he

lemma main_leavesAlone {q q' : MainPc} (h : (mainCode setup q).Goes d d' q') :
    LeavesAlone [] d d' := by
  cases q with
  | emitParameters | emitStart | emitEnd | emitStatistics =>
      rw [h.1]
      exact .of_eq (Data.emit_queuePart rfl) (Data.emit_statsPart rfl) rfl
  | _ => exact (main_scales h rfl).leavesAlone

/-- **Outside its sections no thread touches what the mutexes protect.** -/
theorem leavesAlone {t : Tid} {args : PrinterThreadArgs} {q q' : Pc t} (hargs : IsThreadArgs args)
    (h : ((program setup).code t args q).Goes d d' q') : LeavesAlone (heldBy t args q) d d' := by
  cases t with
  | main => exact main_leavesAlone h
  | stopper => exact stop_leavesAlone h
  | receiver => exact receiver_leavesAlone h
  | refiller => exact refiller_leavesAlone h
  | autoscaler => exact (autoscaler_scales h).leavesAlone
  | printer i => exact printer_leavesAlone hargs h

/-! ## The pool -/

@[simp] lemma Data.emit_poolPart (mode : LogMode) (e : Event) (d : Data) :
    (d.emit mode e).poolPart = d.poolPart := rfl

@[simp] lemma Data.modifyPrinter_poolPart (d : Data) (i : Slot) (f : Printer → Printer) :
    (d.modifyPrinter i f).poolPart = d.poolPart := by
  have hactive := congrArg SlotView.active (Data.modifyPrinter_slots d i f)
  exact Prod.ext hactive rfl

lemma printer_poolPart {i : Slot} {args : PrinterThreadArgs} {q q' : PrinterPc}
    (h : (printerCode setup i args q).Goes d d' q') : d'.poolPart = d.poolPart := by
  cases q with
  | exit => exact h.elim
  | recordEmptyTime => rw [h.1, Printer.recordEmptyTime]; split <;> rfl
  | markBusy | usePaper => rw [h.1]; exact Data.modifyPrinter_poolPart _ _ _
  | markIdle => rw [h.1, Printer.markIdle, Data.modifyPrinter_poolPart]; rfl
  | emitDeparture =>
      rw [h.1, Printer.departSystem, Data.emit_poolPart, Data.modifyPrinter_poolPart]
  | _ => obtain ⟨rfl, _⟩ := h; rfl

lemma receiver_poolPart {q q' : ReceiverPc} (h : (receiverCode setup q).Goes d d' q') :
    d'.poolPart = d.poolPart := by
  cases q with
  | exit => exact h.elim
  | nextJob => rw [h.1, Receiver.createJob]; split <;> rfl
  | _ => obtain ⟨rfl, _⟩ := h; rfl

lemma refiller_poolPart {q q' : RefillerPc} (h : (refillerCode setup q).Goes d d' q') :
    d'.poolPart = d.poolPart := by
  by_cases hq : q = .recordRefill
  · subst hq
    rw [h.1]
    rfl
  · cases refiller_refills h hq with
    | noted _ _ data => rw [data]; rfl
    | filled _ _ data => rw [data, Data.modifyPrinter_poolPart]
    | reported _ _ data _ => rw [data]; rfl

lemma stop_poolPart {q q' : StopPc} (h : (stopCode setup q).Goes d d' q') :
    d'.poolPart = d.poolPart := by
  cases q with
  | setFlags | emitStopped => rw [h.1]; rfl
  | drain => rw [h.1, emptyQueueRound]; split <;> rfl
  | _ => rw [stop_quiet h rfl]

lemma emitStarted_poolPart (mode : LogMode) (printerId : Int) (d : Data) :
    (emitStarted mode printerId d).poolPart = d.poolPart := by
  rw [emitStarted]
  split <;> rfl

/-- The main thread changes the pool where it counts a printer that it has started. -/
lemma main_poolPart {q q' : MainPc} (h : (mainCode setup q).Goes d d' q')
    (hq : q ≠ .markStarted) : d'.poolPart = d.poolPart := by
  cases q with
  | exit => exact h.elim
  | markStarted => exact absurd rfl hq
  | emitIdle => rw [h.1]; exact emitStarted_poolPart _ _ _
  | _ => obtain ⟨rfl, _⟩ := h; rfl

/-- Only the autoscaler takes `pool_mutex`. -/
lemma autoscaler_of_pool {s : Sys} {t : Tid}
    (h : (lockDiscipline setup).Holds s t .poolMutex)
    (hargs : IsThreadArgs (s.ctl t).arg) : t = .autoscaler := by
  have hheld : Mutex.poolMutex ∈ heldBy t (s.ctl t).arg (s.ctl t).pc := h.2.1
  cases t with
  | autoscaler => rfl
  | main => cases hheld
  | stopper =>
      change _ ∈ stopHeld s.stopPc at hheld
      generalize s.stopPc = q at hheld
      cases q <;> exact absurd hheld (by decide)
  | receiver =>
      change _ ∈ receiverHeld s.receiverPc at hheld
      generalize s.receiverPc = q at hheld
      cases q <;> exact absurd hheld (by decide)
  | refiller =>
      change _ ∈ refillerHeld s.refillerPc at hheld
      generalize s.refillerPc = q at hheld
      cases q <;> exact absurd hheld (by decide)
  | printer i =>
      change _ ∈ printerHeld (s.printerArgs i) (s.printerPc i) at hheld
      change IsThreadArgs (s.printerArgs i) at hargs
      generalize s.printerPc i = q at hheld
      rcases hargs with harg | harg <;> rw [harg] at hheld <;> cases q <;>
        exact absurd hheld (by decide)

/-! ## Every run -/

variable {s s' : Sys} {ok : Sys → SysAction → Prop} {t : Tid}

theorem queue_protected : Protects (lockDiscipline setup) (freshState setup) ok .jobQueueMutex
    Data.queuePart :=
  protects_of_code lockInv (fun _ _ _ _ _ _ hargs goes hn => (leavesAlone hargs goes).queue hn)
    fun e d => by cases e <;> rfl

theorem stats_protected : Protects (lockDiscipline setup) (freshState setup) ok .statsMutex
    Data.statsPart :=
  protects_of_code lockInv (fun _ _ _ _ _ _ hargs goes hn => (leavesAlone hargs goes).stats hn)
    fun e d => by cases e <;> rfl

theorem flags_protected : Protects (lockDiscipline setup) (freshState setup) ok
    .simulationStateMutex Data.endFlags :=
  protects_of_code lockInv (fun _ _ _ _ _ _ hargs goes hn => (leavesAlone hargs goes).flags hn)
    fun e d => by cases e <;> rfl

/-- The main thread counts the printers it starts without the mutex, before there is anybody to take
it. -/
theorem pool_protected : Protects (lockDiscipline setup) (freshState setup) ok .poolMutex
    Data.poolPart where
  instr := fun {s s' a t u} hr _ _ ex hne hold => by
    obtain rfl := autoscaler_of_pool hold ((lockInv hr).args t)
    cases u with
    | autoscaler => exact absurd rfl hne
    | stopper => exact stop_poolPart ex.goes
    | receiver => exact receiver_poolPart ex.goes
    | refiller => exact refiller_poolPart ex.goes
    | printer i => exact printer_poolPart ex.goes
    | main =>
        refine main_poolPart ex.goes fun hq => ?_
        change Sys.mainPc s = .markStarted at hq
        have habsent := (unstarted hr .autoscaler 2 rfl (by rw [hq]; decide)).1
        have ha := hold.1
        rw [habsent] at ha
        cases ha
  env := fun e d => by cases e <;> rfl

/-- Thread `t` takes no step. -/
def Rests (t : Tid) (ok : Sys → SysAction → Prop) (s : Sys) (a : SysAction) : Prop :=
  ok s a ∧ a ≠ .run t ∧ a ≠ .accept t

instance (t : Tid) (ok : Sys → SysAction → Prop) [∀ s a, Decidable (ok s a)] (s : Sys)
    (a : SysAction) : Decidable (Rests t ok s a) :=
  inferInstanceAs (Decidable (_ ∧ _))

/-- What a thread with the mutexes that `holds` names finds as it left it. -/
structure SectionKept (holds : Mutex → Prop) (d d' : Data) : Prop where
  queue : holds .jobQueueMutex → d'.queuePart = d.queuePart
  stats : holds .statsMutex → d'.statsPart = d.statsPart
  flags : holds .simulationStateMutex → d'.endFlags = d.endFlags
  pool : holds .poolMutex → d'.poolPart = d.poolPart

end Orchestrator
