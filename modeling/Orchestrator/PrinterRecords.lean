import Orchestrator.SharedMemory
import Orchestrator.Stranding

/-!
# Who writes the record of a printer

No mutex protects a `printer_t`.  Its thread writes to it, and the refiller adds paper; the two keep
out of each other's way by the requests alone.

* `record_step` — nobody else writes to the record.
* `record_undisturbed` — without scaling, and if every job fits, the refiller adds paper only while
  the printer waits for it.
-/

namespace Orchestrator

open Pthread Stock

variable {setup : Setup} {d d' : Data} {s s' : Sys} {a : SysAction} {i : Slot}
  {ok : Sys → SysAction → Prop}

/-! ## One instruction -/

lemma printer_otherSlot {j : Slot} {args : PrinterThreadArgs} {q q' : PrinterPc}
    (h : (printerCode setup j args q).Goes d d' q') (hne : i ≠ j) : d'.slot i = d.slot i := by
  cases q with
  | exit => exact h.elim
  | recordEmptyTime => rw [h.1, Printer.recordEmptyTime]; split <;> rfl
  | markBusy | usePaper => rw [h.1]; exact Data.modifyPrinter_slot_of_ne _ _ hne
  | markIdle => rw [h.1, Printer.markIdle, Data.modifyPrinter_slot_of_ne _ _ hne]; rfl
  | emitDeparture =>
      rw [h.1, Printer.departSystem, Data.emit_slot, Data.modifyPrinter_slot_of_ne _ _ hne]
  | _ => obtain ⟨rfl, _⟩ := h; rfl

/-- Every instruction of a printer moves it. -/
lemma printer_moves {args : PrinterThreadArgs} {q q' : PrinterPc}
    (h : (printerCode setup i args q).Goes d d' q') : q' ≠ q := by
  cases q with
  | exit => exact h.elim
  | checkQueue | checkPaper | checkRefilled | readTerminateInWait | checkDone =>
      obtain ⟨_, rfl⟩ := h
      beta_reduce
      split <;> (try split) <;> nofun
  | _ => obtain ⟨_, rfl⟩ := h; nofun

lemma receiver_slot {q q' : ReceiverPc} (h : (receiverCode setup q).Goes d d' q') :
    d'.slot i = d.slot i := by
  cases q with
  | exit => exact h.elim
  | nextJob => rw [h.1, Receiver.createJob]; split <;> rfl
  | _ => obtain ⟨rfl, _⟩ := h; rfl

lemma stop_slot {q q' : StopPc} (h : (stopCode setup q).Goes d d' q') : d'.slot i = d.slot i := by
  cases q with
  | setFlags | emitStopped => rw [h.1]; rfl
  | drain => rw [h.1, emptyQueueRound]; split <;> rfl
  | _ => rw [stop_quiet h rfl]

lemma ScalingEffect.slot {mode : LogMode} (h : ScalingEffect mode d d') :
    d'.slot i = d.slot i := by
  cases h with
  | scaled _ _ _ data printers => rw [data]; exact printers i
  | reported _ _ data _ => rw [data]; rfl

lemma main_slot {q q' : MainPc} (h : (mainCode setup q).Goes d d' q') : d'.slot i = d.slot i := by
  cases q with
  | emitParameters | emitStart | emitEnd | emitStatistics => rw [h.1]; rfl
  | _ => exact (main_scales h rfl).slot

/-- The refiller adds the paper it has fetched to the printer that asked for it, and is done with
the request. -/
structure Fills (d d' : Data) (q q' : RefillerPc) (i : Slot) : Prop where
  pc : q = .addPaper
  pc' : q' = .lockStats
  printer : d.refiller.printer = some i
  slot : d'.slot i =
    { d.slot i with
      currentPaperCount := (d.slot i).currentPaperCount + d.refiller.papersNeeded }
  requests : d'.paperRefillQueue = d.paperRefillQueue

lemma refiller_slot {q q' : RefillerPc} (h : (refillerCode setup q).Goes d d' q') :
    d'.slot i = d.slot i ∨ Fills d d' q q' i := by
  cases q with
  | exit => exact h.elim
  | addPaper =>
      have hd := h.1
      rw [Refiller.addPaper] at hd
      split at hd
      · next j hj =>
        by_cases hne : i = j
        · subst hne
          refine .inr ⟨rfl, h.2, hj, ?_, ?_⟩
          · rw [hd]; exact Data.modifyPrinter_slot_self _ _ _
          · rw [hd]; rfl
        · left
          rw [hd]
          exact Data.modifyPrinter_slot_of_ne _ _ hne
      · exact .inl (by rw [hd])
  | computeNeed => left; rw [h.1, Refiller.computeNeed]; split <;> rfl
  | emitStart => left; rw [h.1, Refiller.reportStart]; split <;> rfl
  | emitEnd => left; rw [h.1, Refiller.reportEnd]; split <;> rfl
  | _ => left; obtain ⟨rfl, _⟩ := h; rfl

/-! ## One step -/

/-- **Only the refiller writes to the record of another thread's printer**, and only paper. -/
theorem record_step (hs : step (program setup) s a = some s')
    (hex : ¬Executes (program setup) s s' (.printer i)) :
    s'.data.slot i = s.data.slot i ∨
      Fills s.data s'.data s.refillerPc s'.refillerPc i := by
  cases sys_move hs with
  | quiet data _ => obtain ⟨c, r, k, data⟩ := data; exact .inl (by rw [data]; rfl)
  | main _ goes => exact .inl (main_slot goes)
  | stopper _ goes _ => exact .inl (stop_slot goes)
  | receiver _ goes _ => exact .inl (receiver_slot goes)
  | refiller _ goes _ => exact refiller_slot goes
  | autoscaler _ goes => exact .inl (autoscaler_scales goes).slot
  | printer j ex goes _ =>
      have hne : i ≠ j := by rintro rfl; exact hex ex
      exact .inl (printer_otherSlot goes hne)

/-! ## While the printer's thread rests -/

/-- What the others have done to the record of printer `i`: nothing, or its one request was met. -/
def Filled (setup : Setup) (i : Slot) (s s' : Sys) : Prop :=
  s'.data.slot i = s.data.slot i ∨
    (((s.printerPc i).phase = .asked ∨ (s.printerPc i).phase = .leaving) ∧
      s'.data.slot i =
        { s.data.slot i with currentPaperCount := setup.params.printerPaperCapacity } ∧
      ¬(desk s').Requested i)

/-- The refiller adds paper for a request, and fills the printer. -/
lemma filled_of_fills (h : Reach (program setup) (Unscaled setup) (freshState setup) s)
    (hfills : Fills s.data s'.data s.refillerPc s'.refillerPc i) :
    (desk s).Requested i ∧
      s'.data.slot i =
        { s.data.slot i with currentPaperCount := setup.params.printerPaperCapacity } ∧
      ¬(desk s').Requested i := by
  have hsound := desk_sound h i
  have horder : (desk s).order = some (i, some s.data.refiller.papersNeeded) := by
    simp [desk, order, hfills.pc, RefillerPc.hasRequest, RefillerPc.brings, hfills.printer]
  refine ⟨.inr ⟨_, horder⟩, ?_, ?_⟩
  · have hfull : (s.data.slot i).currentPaperCount + s.data.refiller.papersNeeded =
        setup.params.printerPaperCapacity := by
      have hneed : s.data.refiller.papersNeeded =
          setup.params.printerPaperCapacity - (s.data.slot i).currentPaperCount :=
        hsound.fills _ horder
      omega
    rw [hfills.slot, hfull]
  · rintro (hqueue | ⟨n, hn⟩)
    · have hold : i ∈ s'.data.paperRefillQueue := hqueue
      rw [hfills.requests] at hold
      exact hsound.once.2 _ horder hold
    · simp [desk, order, hfills.pc', RefillerPc.hasRequest, RefillerPc.brings] at hn

/-- **A printer's record is its own.**  Without scaling, and if every job fits into a printer: while
the thread of a printer takes no step, nobody else writes to its record, except that the refiller
fills it up, once, if the printer had asked for paper. -/
theorem record_undisturbed (h : Reach (program setup) (Unscaled setup) (freshState setup) s)
    (h' : Reach (program setup) (Rests (.printer i) (Unscaled setup)) s s') :
    s'.printerPc i = s.printerPc i ∧ Filled setup i s s' := by
  refine h'.invariant
    (I := fun s' : Sys => s'.printerPc i = s.printerPc i ∧ Filled setup i s s')
    ⟨rfl, .inl rfl⟩ fun {s₁ s₂ a} hr₁ ih hok hs => ?_
  have hr : Reach (program setup) (Unscaled setup) (freshState setup) s₁ :=
    h.trans (hr₁.mono fun _ _ hok => hok.1)
  have hex : ¬Executes (program setup) s₁ s₂ (.printer i) := fun ex =>
    hok.2.1 (run_of_moves hs ex (printer_moves ex.goes))
  have hpc : Sys.printerPc s₂ i = Sys.printerPc s₁ i :=
    printer_keeps (hr.mono fun s a hok => hok.noScaling) hok.1.noScaling hs (place_step hs hex)
  refine ⟨hpc.trans ih.1, ?_⟩
  rcases record_step hs hex with hsame | hfills
  · rcases ih.2 with hold | ⟨hasked, hslot, hnone⟩
    · exact .inl (hsame.trans hold)
    · refine .inr ⟨hasked, hsame.trans hslot, ?_⟩
      rcases desk_step hr hok.1 hs with he | hstep
      · rw [he]; exact hnone
      · exact hstep.not_requested hnone (congrArg PrinterPc.phase hpc)
  · obtain ⟨hreq, hslot, hnone⟩ := filled_of_fills hr hfills
    rcases ih.2 with hold | ⟨_, _, hdone⟩
    · refine .inr ⟨?_, by rw [hslot, hold], hnone⟩
      have hkept := ((desk_sound hr i).kept hreq).imp_left And.left
      rw [← ih.1]
      exact hkept
    · exact absurd hreq hdone

/-- The refiller fills the first printer, which waits with 20 papers. -/
theorem record_undisturbed_in_refill :
    ∃ s s' : Sys, Reach (program twoJobs) (Unscaled twoJobs) (freshState twoJobs) s ∧
      Reach (program twoJobs) (Rests (.printer 0) (Unscaled twoJobs)) s s' ∧
      (s.data.slot 0).currentPaperCount = 20 ∧
      s'.data.slot 0 = { s.data.slot 0 with currentPaperCount := 50 } := by
  obtain ⟨s, hs, hlevel, hnext⟩ := exists_run twoJobs (Unscaled twoJobs)
    (firstJobPrinted ++ runs (Tid.printer 0) 6)
    (fun s => (s.data.slot 0).currentPaperCount = 20 ∧
      (runTraceIf (program twoJobs) (Rests (.printer 0) (Unscaled twoJobs)) s
        (runs Tid.refiller 15)).any
          (fun s' => decide ((s'.data.slot 0).currentPaperCount ≠ 20)) = true)
    (by decide +kernel)
  obtain ⟨s', hs', hmore⟩ := exists_reach_of_runTraceIf (runs Tid.refiller 15) hnext
  refine ⟨s, s', hs, hs', hlevel, ?_⟩
  rcases (record_undisturbed hs hs').2 with hsame | ⟨_, hslot, _⟩
  · rw [hsame] at hmore
    exact absurd hlevel hmore
  · exact hslot

end Orchestrator
