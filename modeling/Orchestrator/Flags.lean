import Orchestrator.Steps

/-!
# The three flags

Who writes `g_terminate_now`, `all_jobs_arrived` and `all_jobs_served`.  They are only ever set:
`flag_step` lists the four statements that do it.
-/

namespace Orchestrator

open Pthread

/-- The values of the flags. -/
@[ext]
structure FlagView where
  terminateNow : Bool
  arrived : Bool
  served : Bool

namespace Data

/-- The flags in memory. -/
def flags (d : Data) : FlagView where
  terminateNow := d.gTerminateNow
  arrived := d.allJobsArrived
  served := d.allJobsServed

@[simp] lemma emit_flags (mode : LogMode) (e : Event) (d : Data) :
    (d.emit mode e).flags = d.flags := rfl

end Data

variable {setup : Setup} {d d' : Data} {ok : Sys → SysAction → Prop}

/-- A printer sets a flag only when it exits. -/
lemma printer_flags {i : Slot} {args : PrinterThreadArgs} {q q' : PrinterPc}
    (h : (printerCode setup i args q).Goes d d' q') :
    d'.flags = d.flags ∨
      (q = .exitSetServed ∧ q' = .exitLockRefill ∧ d'.flags = { d.flags with served := true }) := by
  cases q with
  | exit => exact h.elim
  | exitSetServed => obtain ⟨rfl, rfl⟩ := h; exact .inr ⟨rfl, rfl, rfl⟩
  | recordEmptyTime => left; rw [h.1, Printer.recordEmptyTime]; split <;> rfl
  | _ => left; obtain ⟨rfl, _⟩ := h; rfl

/-- The receiver announces the end of the arrivals in two places. -/
lemma receiver_flags {q q' : ReceiverPc} (h : (receiverCode setup q).Goes d d' q') :
    d'.flags = d.flags ∨
      (((q = .abort ∧ q' = .endLockState) ∨ (q = .endSetArrived ∧ q' = .endLockQueue)) ∧
        d'.flags = { d.flags with arrived := true }) := by
  cases q with
  | exit => exact h.elim
  | abort => obtain ⟨rfl, rfl⟩ := h; exact .inr ⟨.inl ⟨rfl, rfl⟩, rfl⟩
  | endSetArrived => obtain ⟨rfl, rfl⟩ := h; exact .inr ⟨.inr ⟨rfl, rfl⟩, rfl⟩
  | nextJob => left; rw [h.1, Receiver.createJob]; split <;> rfl
  | _ => left; obtain ⟨rfl, _⟩ := h; rfl

/-- The stop handler sets two flags at once. -/
lemma stop_flags {q q' : StopPc} (h : (stopCode setup q).Goes d d' q') :
    d'.flags = d.flags ∨
      (q = .setFlags ∧ q' = .lockStats ∧
        d'.flags = { d.flags with terminateNow := true, arrived := true }) := by
  cases q with
  | setFlags => obtain ⟨rfl, rfl⟩ := h; exact .inr ⟨rfl, rfl, rfl⟩
  | drain => left; rw [h.1, emptyQueueRound]; split <;> rfl
  | emitStopped => left; rw [h.1]; rfl
  | _ => left; rw [stop_quiet h rfl]

lemma ScalingEffect.flags (h : ScalingEffect setup.mode d d') : d'.flags = d.flags := by
  cases h with
  | scaled _ _ _ data _ | reported _ _ data _ => rw [data]; rfl

lemma RefillEffect.flags (h : RefillEffect setup.mode d d') : d'.flags = d.flags := by
  cases h with
  | noted _ _ data | filled _ _ data | reported _ _ data _ => rw [data]; rfl

lemma refiller_flags {q q' : RefillerPc} (h : (refillerCode setup q).Goes d d' q') :
    d'.flags = d.flags := by
  by_cases hq : q = .recordRefill
  · subst hq
    rw [h.1]
    rfl
  · exact (refiller_refills h hq).flags

lemma main_flags {q q' : MainPc} (h : (mainCode setup q).Goes d d' q') : d'.flags = d.flags := by
  cases q with
  | emitParameters | emitStart | emitEnd | emitStatistics => rw [h.1]; rfl
  | _ => exact (main_scales h rfl).flags

/-- What a step does to the flags. -/
inductive FlagStep (setup : Setup) (s s' : Sys) : Prop where
  | same (flags : s'.data.flags = s.data.flags)
  | arrived (ex : Executes (program setup) s s' .receiver)
      (pc : (s.receiverPc = .abort ∧ s'.receiverPc = .endLockState) ∨
        (s.receiverPc = .endSetArrived ∧ s'.receiverPc = .endLockQueue))
      (flags : s'.data.flags = { s.data.flags with arrived := true })
  | stopped (ex : Executes (program setup) s s' .stopper)
      (pc : s.stopPc = .setFlags) (pc' : s'.stopPc = .lockStats)
      (flags : s'.data.flags = { s.data.flags with terminateNow := true, arrived := true })
  | served (i : Slot) (ex : Executes (program setup) s s' (.printer i))
      (pc : s.printerPc i = .exitSetServed) (pc' : s'.printerPc i = .exitLockRefill)
      (flags : s'.data.flags = { s.data.flags with served := true })

/-- **Step inversion for the flags.** -/
theorem flag_step {s s' : Sys} {a : SysAction} (hs : step (program setup) s a = some s') :
    FlagStep setup s s' := by
  cases sys_move hs with
  | quiet data _ => obtain ⟨c, r, k, data⟩ := data; exact .same (by rw [data]; rfl)
  | main _ goes => exact .same (main_flags goes)
  | refiller _ goes _ => exact .same (refiller_flags goes)
  | autoscaler _ goes => exact .same (autoscaler_scales goes).flags
  | stopper ex goes _ =>
      rcases stop_flags goes with h | ⟨hq, hq', h⟩
      · exact .same h
      · exact .stopped ex hq hq' h
  | receiver ex goes _ =>
      rcases receiver_flags goes with h | ⟨hq, h⟩
      · exact .same h
      · exact .arrived ex hq h
  | printer i ex goes _ =>
      rcases printer_flags goes with h | ⟨hq, hq', h⟩
      · exact .same h
      · exact .served i ex hq hq' h

/-! ## The flags are never reset -/

/-- **A flag that is set stays set.** -/
theorem flags_mono {s s' : Sys} {a : SysAction} (hs : step (program setup) s a = some s') :
    (s.data.gTerminateNow = true → s'.data.gTerminateNow = true) ∧
      (s.data.allJobsArrived = true → s'.data.allJobsArrived = true) ∧
        (s.data.allJobsServed = true → s'.data.allJobsServed = true) := by
  have hview : ∀ d : Data, d.gTerminateNow = d.flags.terminateNow ∧
      d.allJobsArrived = d.flags.arrived ∧ d.allJobsServed = d.flags.served :=
    fun _ => ⟨rfl, rfl, rfl⟩
  rw [(hview s.data).1, (hview s.data).2.1, (hview s.data).2.2, (hview s'.data).1,
    (hview s'.data).2.1, (hview s'.data).2.2]
  cases flag_step hs with
  | same flags => rw [flags]; exact ⟨id, id, id⟩
  | arrived _ _ flags => rw [flags]; exact ⟨id, fun _ => rfl, id⟩
  | stopped _ _ _ flags => rw [flags]; exact ⟨fun _ => rfl, fun _ => rfl, id⟩
  | served i _ _ _ flags => rw [flags]; exact ⟨id, id, fun _ => rfl⟩

/-- Where there is no stop request, there was none a step before. -/
lemma no_stop_before {s s' : Sys} {a : SysAction} (hs : step (program setup) s a = some s')
    (hterm' : s'.data.gTerminateNow = false) : s.data.gTerminateNow = false := by
  cases hterm : s.data.gTerminateNow with
  | false => rfl
  | true =>
      rw [(flags_mono hs).1 hterm] at hterm'
      cases hterm'

/-- The step that requests a stop is the stop handler's, in one place. -/
lemma stop_before {s s' : Sys} {a : SysAction} (hs : step (program setup) s a = some s')
    (hterm' : s'.data.gTerminateNow = true) :
    s.data.gTerminateNow = true ∨
      (Executes (program setup) s s' .stopper ∧ s.stopPc = .setFlags ∧ s'.stopPc = .lockStats) := by
  have hview : s'.data.flags.terminateNow = true := hterm'
  cases flag_step hs with
  | same flags => rw [flags] at hview; exact .inl hview
  | arrived _ _ flags => rw [flags] at hview; exact .inl hview
  | served _ _ _ _ flags => rw [flags] at hview; exact .inl hview
  | stopped ex pc pc' _ => exact .inr ⟨ex, pc, pc'⟩

/-- The step that sets `all_jobs_served` is a printer's, in one place. -/
lemma served_before {s s' : Sys} {a : SysAction} (hs : step (program setup) s a = some s')
    (hserved' : s'.data.allJobsServed = true) :
    s.data.allJobsServed = true ∨
      ∃ i, a = .run (.printer i) ∧ s.printerPc i = .exitSetServed := by
  have hview : s'.data.flags.served = true := hserved'
  cases flag_step hs with
  | same flags => rw [flags] at hview; exact .inl hview
  | arrived _ _ flags => rw [flags] at hview; exact .inl hview
  | stopped _ _ _ flags => rw [flags] at hview; exact .inl hview
  | served i ex pc pc' _ =>
      refine .inr ⟨i, run_of_moves hs ex fun hpc => ?_, pc⟩
      rw [Sys.printerPc] at pc pc'
      rw [pc, pc'] at hpc
      cases hpc

/-! ## What the threads have read -/

/-- A printer reads each flag into its own local. -/
lemma printer_reads {i : Slot} {args : PrinterThreadArgs} {q q' : PrinterPc}
    (h : (printerCode setup i args q).Goes d d' q') :
    ((d'.printer i).terminate = (d.printer i).terminate ∨
        (d'.printer i).terminate = d.gTerminateNow) ∧
      ((d'.printer i).haveAllJobsArrived = (d.printer i).haveAllJobsArrived ∨
        (d'.printer i).haveAllJobsArrived = d.allJobsArrived) := by
  cases q with
  | exit => exact h.elim
  | readTerminate | readTerminateInWait =>
      rw [h.1, Data.modifyLocals_printer_self]
      exact ⟨.inr rfl, .inl rfl⟩
  | readArrived =>
      rw [h.1, Data.modifyLocals_printer_self]
      exact ⟨.inl rfl, .inr rfl⟩
  | recordEmptyTime => rw [h.1, Printer.recordEmptyTime]; split <;> exact ⟨.inl rfl, .inl rfl⟩
  | checkPaper | emitPaperEmpty | dequeue | emitQueueDeparture | emitArrival | markIdle =>
      rw [h.1]
      refine ⟨.inl ?_, .inl ?_⟩ <;>
        simp [Printer.lookAtFront, Printer.takeJob, Printer.leaveQueue, Printer.arriveAtPrinter,
          Printer.markIdle, Data.modifyLocals]
  | _ => obtain ⟨rfl, _⟩ := h; exact ⟨.inl rfl, .inl rfl⟩

lemma receiver_reads {q q' : ReceiverPc} (h : (receiverCode setup q).Goes d d' q') :
    d'.receiver.terminateNow = d.receiver.terminateNow ∨
      d'.receiver.terminateNow = d.gTerminateNow := by
  cases q with
  | exit => exact h.elim
  | readTerminate => rw [h.1]; exact .inr rfl
  | nextJob => left; rw [h.1, Receiver.createJob]; split <;> rfl
  | _ => left; obtain ⟨rfl, _⟩ := h; rfl

lemma refiller_reads {q q' : RefillerPc} (h : (refillerCode setup q).Goes d d' q') :
    (d'.refiller.terminateNow = d.refiller.terminateNow ∧
        d'.refiller.areAllJobsServed = d.refiller.areAllJobsServed) ∨
      (d'.refiller.terminateNow = d.gTerminateNow ∧
        d'.refiller.areAllJobsServed = d.allJobsServed) := by
  cases q with
  | exit => exact h.elim
  | readFlags => rw [h.1]; exact .inr ⟨rfl, rfl⟩
  | computeNeed => left; rw [h.1, Refiller.computeNeed]; split <;> exact ⟨rfl, rfl⟩
  | emitStart => left; rw [h.1, Refiller.reportStart]; split <;> exact ⟨rfl, rfl⟩
  | emitEnd => left; rw [h.1, Refiller.reportEnd]; split <;> exact ⟨rfl, rfl⟩
  | addPaper => left; rw [h.1, Refiller.addPaper]; split <;> exact ⟨rfl, rfl⟩
  | _ => left; obtain ⟨rfl, _⟩ := h; exact ⟨rfl, rfl⟩

/-- A thread that has read a flag as set was right, and still is. -/
structure ReadsSound (d : Data) : Prop where
  printerTerminate : ∀ i, (d.printer i).terminate = true → d.gTerminateNow = true
  printerArrived : ∀ i, (d.printer i).haveAllJobsArrived = true → d.allJobsArrived = true
  receiverTerminate : d.receiver.terminateNow = true → d.gTerminateNow = true
  refillerTerminate : d.refiller.terminateNow = true → d.gTerminateNow = true
  refillerServed : d.refiller.areAllJobsServed = true → d.allJobsServed = true

/-- **What a thread has read of a flag stays true.** -/
theorem readsSound {s : Sys} (h : Reach (program setup) ok (freshState setup) s) :
    ReadsSound s.data := by
  refine h.invariant (I := fun s => ReadsSound s.data)
    (by constructor <;> intros <;> contradiction) fun {s s' a} hr ih _ hs => ?_
  obtain ⟨hterm, harr, hserved⟩ := flags_mono hs
  have hprinter : ∀ i, ¬Executes (program setup) s s' (.printer i) ∨
      ∃ q', (printerCode setup i (Sys.printerArgs s i) (Sys.printerPc s i)).Goes s.data s'.data
        q' := fun i => by
      by_cases hex : Executes (program setup) s s' (.printer i)
      · exact .inr ⟨_, hex.goes⟩
      · exact .inl hex
  refine ⟨fun i hi => ?_, fun i hi => ?_, fun hi => ?_, fun hi => ?_, fun hi => ?_⟩
  · rcases hprinter i with hex | ⟨_, goes⟩
    · rw [printer_unchanged hs hex] at hi
      exact hterm (ih.printerTerminate i hi)
    · rcases (printer_reads goes).1 with hl | hl <;> rw [hl] at hi
      · exact hterm (ih.printerTerminate i hi)
      · exact hterm hi
  · rcases hprinter i with hex | ⟨_, goes⟩
    · rw [printer_unchanged hs hex] at hi
      exact harr (ih.printerArrived i hi)
    · rcases (printer_reads goes).2 with hl | hl <;> rw [hl] at hi
      · exact harr (ih.printerArrived i hi)
      · exact harr hi
  · rcases receiver_cases hr hs with ⟨_, _, hl⟩ | ⟨_, goes⟩
    · rw [hl] at hi; exact hterm (ih.receiverTerminate hi)
    · rcases receiver_reads goes with hl | hl <;> rw [hl] at hi
      · exact hterm (ih.receiverTerminate hi)
      · exact hterm hi
  · rcases refiller_cases hr hs with ⟨_, _, hl⟩ | ⟨_, goes⟩
    · rw [hl] at hi; exact hterm (ih.refillerTerminate hi)
    · rcases refiller_reads goes with ⟨hl, _⟩ | ⟨hl, _⟩ <;> rw [hl] at hi
      · exact hterm (ih.refillerTerminate hi)
      · exact hterm hi
  · rcases refiller_cases hr hs with ⟨_, _, hl⟩ | ⟨_, goes⟩
    · rw [hl] at hi; exact hserved (ih.refillerServed hi)
    · rcases refiller_reads goes with ⟨_, hl⟩ | ⟨_, hl⟩ <;> rw [hl] at hi
      · exact hserved (ih.refillerServed hi)
      · exact hserved hi

/-! ## The end of the arrivals -/

/-- The receiver has announced that all jobs have arrived. -/
def ReceiverPc.announced : ReceiverPc → Bool
  | .endLockQueue | .endNotifyPrinters | .endUnlockQueue | .exit => true
  | _ => false

/-- The receiver announces the end of the arrivals when it sets the flag. -/
lemma announced_of_goes {q q' : ReceiverPc} (h : (receiverCode setup q).Goes d d' q')
    (hq : q.announced = false) (hq' : q'.announced = true) : d'.allJobsArrived = true := by
  cases q with
  | exit => exact h.elim
  | endSetArrived => rw [h.1]
  | endLockQueue | endNotifyPrinters | endUnlockQueue => cases hq
  | nextJob | readTerminate | checkCapacity =>
      obtain ⟨_, rfl⟩ := h
      simp only at hq'
      split at hq' <;> cases hq'
  | _ => rw [h.2] at hq'; cases hq'

/-- The receiver does not go back behind its announcement. -/
lemma announced_stays {q q' : ReceiverPc} (h : (receiverCode setup q).Goes d d' q')
    (hq : q.announced = true) : q'.announced = true := by
  cases q with
  | exit => exact h.elim
  | endLockQueue | endNotifyPrinters | endUnlockQueue => rw [h.2]; rfl
  | _ => cases hq

end Orchestrator
