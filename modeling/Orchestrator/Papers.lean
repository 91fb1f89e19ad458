import Orchestrator.Log.Agreement
import Orchestrator.Steps

/-!
# What memory says about paper

The parts of memory that tell where paper is and who asked for it, and which instructions change
them.

* `Data.papers` — the paper counts of the pool slots, the requests and the amount booked.
* `printer_papers`, `refiller_papers` — the few places where a thread changes them; every other
  instruction leaves them alone.
-/

namespace Orchestrator

open Pthread

/-- The state of the paper. -/
structure PaperView where
  level : Slot → Int
  used : Slot → Int
  capacity : Slot → Int
  requests : List Slot
  refilled : Int

namespace Data

/-- The state of the paper in memory. -/
def papers (d : Data) : PaperView where
  level i := (d.slot i).currentPaperCount
  used i := (d.slot i).totalPapersUsed
  capacity i := (d.slot i).capacity
  requests := d.paperRefillQueue
  refilled := d.stats.papersRefilled

/-- No handler counts paper into the refills. -/
lemma emit_papersRefilled (mode : LogMode) (e : Event) (d : Data) :
    (d.emit mode e).stats.papersRefilled = d.stats.papersRefilled := by
  rw [emit_mode mode .server]
  cases e with
  | systemDeparture job printer =>
      simp only [emit, logger, websocketOps, Option.getD_some, publishSystemDeparture,
        publishDepartureOfPrinter]
      split <;> rfl
  | _ => rfl

@[simp] lemma emit_papers (mode : LogMode) (e : Event) (d : Data) :
    (d.emit mode e).papers = d.papers := by
  simp only [papers, emit_slot, emit_paperRefillQueue, emit_papersRefilled]

/-- A change of a printer that is not about its paper. -/
lemma modifyPrinter_papers {d : Data} {i : Slot} {f : Printer → Printer}
    (hf : ∀ p, (f p).currentPaperCount = p.currentPaperCount ∧
      (f p).totalPapersUsed = p.totalPapersUsed ∧ (f p).capacity = p.capacity) :
    (d.modifyPrinter i f).papers = d.papers := by
  have hslot : ∀ j, ((d.modifyPrinter i f).slot j).currentPaperCount =
        (d.slot j).currentPaperCount ∧
      ((d.modifyPrinter i f).slot j).totalPapersUsed = (d.slot j).totalPapersUsed ∧
      ((d.modifyPrinter i f).slot j).capacity = (d.slot j).capacity := fun j => by
    by_cases hj : j = i
    · subst hj; simpa using hf _
    · rw [modifyPrinter_slot_of_ne _ _ hj]; exact ⟨rfl, rfl, rfl⟩
  simp only [papers, (hslot _).1, (hslot _).2.1, (hslot _).2.2]
  rfl

end Data

variable {setup : Setup} {d d' : Data}

/-! ## The effects on paper -/

lemma usePaper_papers (i : Slot) (d : Data) :
    (Printer.usePaper i d).papers =
      { d.papers with
        level := Function.update d.papers.level i
          (d.papers.level i - (d.printer i).job.papersRequired)
        used := Function.update d.papers.used i
          (d.papers.used i + (d.printer i).job.papersRequired) } := by
  simp only [Data.papers, PaperView.mk.injEq]
  refine ⟨?_, ?_, ?_, rfl, rfl⟩ <;> funext j <;> by_cases hj : j = i
  · subst hj; simp [Printer.usePaper]
  · simp [Printer.usePaper, Data.modifyPrinter_slot_of_ne _ _ hj, hj]
  · subst hj; simp [Printer.usePaper]
  · simp [Printer.usePaper, Data.modifyPrinter_slot_of_ne _ _ hj, hj]
  · subst hj; simp [Printer.usePaper]
  · simp [Printer.usePaper, Data.modifyPrinter_slot_of_ne _ _ hj]

lemma popRequest_papers (d : Data) :
    (Refiller.popRequest d).papers = { d.papers with requests := d.papers.requests.tail } := rfl

lemma addPaper_papers {i : Slot} (h : d.refiller.printer = some i) :
    (Refiller.addPaper d).papers =
      { d.papers with
        level := Function.update d.papers.level i
          (d.papers.level i + d.refiller.papersNeeded) } := by
  simp only [Refiller.addPaper, h, Data.papers, PaperView.mk.injEq]
  refine ⟨?_, ?_, ?_, rfl, rfl⟩ <;> funext j <;> by_cases hj : j = i
  · subst hj; simp
  · simp [Data.modifyPrinter_slot_of_ne _ _ hj, hj]
  · subst hj; simp
  · simp [Data.modifyPrinter_slot_of_ne _ _ hj]
  · subst hj; simp
  · simp [Data.modifyPrinter_slot_of_ne _ _ hj]

lemma recordRefill_papers (d : Data) :
    (Refiller.recordRefill d).papers =
      { d.papers with refilled := d.papers.refilled + d.refiller.papersNeeded } := rfl

/-! ## Printers -/

/-- A printer changes the state of the paper when it asks for some and when it uses some. -/
lemma printer_papers {i : Slot} {args : PrinterThreadArgs} {q q' : PrinterPc}
    (h : (printerCode setup i args q).Goes d d' q') :
    d'.papers = d.papers ∨
      (q = .appendRequest ∧ q' = .notifyRefiller ∧
        d'.papers = { d.papers with requests := d.papers.requests ++ [i] }) ∨
      (q = .usePaper ∧ q' = .markIdle ∧ d' = Printer.usePaper i d) := by
  cases q with
  | exit => exact h.elim
  | appendRequest => obtain ⟨rfl, rfl⟩ := h; exact .inr (.inl ⟨rfl, rfl, rfl⟩)
  | usePaper => exact .inr (.inr ⟨rfl, h.2, h.1⟩)
  | emitPaperEmpty =>
      left
      rw [h.1]
      simp only [Data.emit_papers]
      rfl
  | emitQueueDeparture =>
      left
      rw [h.1, Printer.leaveQueue]
      simp only [Data.emit_papers]
      rfl
  | emitArrival =>
      left
      rw [h.1, Printer.arriveAtPrinter]
      simp only [Data.emit_papers]
      rfl
  | markBusy => left; rw [h.1]; exact Data.modifyPrinter_papers fun _ => ⟨rfl, rfl, rfl⟩
  | markIdle =>
      left
      rw [h.1, Printer.markIdle, Data.modifyPrinter_papers]
      · rfl
      · exact fun _ => ⟨rfl, rfl, rfl⟩
  | emitDeparture =>
      left
      rw [h.1, Printer.departSystem, Data.emit_papers]
      exact Data.modifyPrinter_papers fun _ => ⟨rfl, rfl, rfl⟩
  | recordEmptyTime => left; rw [h.1, Printer.recordEmptyTime]; split <;> rfl
  | emitRefilled | emitBusy | emitIdle | emitStats => left; rw [h.1]; exact Data.emit_papers _ _ _
  | _ => left; obtain ⟨rfl, _⟩ := h; rfl

/-- Before it uses paper, a printer changes only the requests. -/
lemma printer_counts {i : Slot} {args : PrinterThreadArgs} {q q' : PrinterPc}
    (h : (printerCode setup i args q).Goes d d' q') (hq : q ≠ .usePaper) :
    d'.papers = { d.papers with requests := d'.papers.requests } := by
  rcases printer_papers h with hp | ⟨_, _, hp⟩ | ⟨hq', _⟩
  · rw [hp]
  · rw [hp]
  · exact absurd hq' hq

/-! ## The refiller -/

/-- The refiller changes the state of the paper when it takes a request, when it fills a printer and
when it books the refill. -/
lemma refiller_papers {q q' : RefillerPc} (h : (refillerCode setup q).Goes d d' q') :
    d'.papers = d.papers ∨
      (q = .popRequest ∧ q' = .unlockRefill ∧ d' = Refiller.popRequest d) ∨
      (q = .addPaper ∧ q' = .lockStats ∧ d' = Refiller.addPaper d) ∨
      (q = .recordRefill ∧ q' = .emitStats ∧ d' = Refiller.recordRefill d) := by
  cases q with
  | exit => exact h.elim
  | popRequest => exact .inr (.inl ⟨rfl, h.2, h.1⟩)
  | addPaper => exact .inr (.inr (.inl ⟨rfl, h.2, h.1⟩))
  | recordRefill => exact .inr (.inr (.inr ⟨rfl, h.2, h.1⟩))
  | computeNeed => left; rw [h.1, Refiller.computeNeed]; split <;> rfl
  | emitStart =>
      left
      rw [h.1, Refiller.reportStart]
      split
      · exact Data.emit_papers _ _ _
      · rfl
  | emitEnd =>
      left
      rw [h.1, Refiller.reportEnd]
      split
      · rw [Data.emit_papers]; rfl
      · rfl
  | emitStats => left; rw [h.1]; exact Data.emit_papers _ _ _
  | _ => left; obtain ⟨rfl, _⟩ := h; rfl

/-- Except where it fills a printer and books it, the refiller changes only the requests. -/
lemma refiller_counts {q q' : RefillerPc} (h : (refillerCode setup q).Goes d d' q')
    (hq : q ≠ .addPaper) (hq' : q ≠ .recordRefill) :
    d'.papers = { d.papers with requests := d'.papers.requests } := by
  rcases refiller_papers h with hp | ⟨_, _, hd⟩ | ⟨hq₂, _⟩ | ⟨hq₂, _⟩
  · rw [hp]
  · rw [hd, popRequest_papers]
  · exact absurd hq₂ hq
  · exact absurd hq₂ hq'

/-! ## The other threads -/

lemma receiver_papers {q q' : ReceiverPc} (h : (receiverCode setup q).Goes d d' q') :
    d'.papers = d.papers := by
  cases q with
  | exit => exact h.elim
  | nextJob => rw [h.1, Receiver.createJob]; split <;> rfl
  | emitArrival =>
      rw [h.1, Receiver.reportArrival]
      simp only [Data.emit_papers]
  | emitDrop => rw [h.1]; exact Data.emit_papers _ _ _
  | emitQueueArrival =>
      rw [h.1, Receiver.reportQueueArrival]
      simp only [Data.emit_papers]
      rfl
  | _ => obtain ⟨rfl, _⟩ := h; rfl

lemma emptyQueueRound_papers (mode : LogMode) (d : Data) :
    (emptyQueueRound mode d).papers = d.papers := by
  have hstats : ∀ d : Data, (d.modifyStats fun st =>
      { st with totalJobsRemoved := st.totalJobsRemoved + 1 }).papers = d.papers := fun _ => rfl
  rw [emptyQueueRound]
  split
  · rw [hstats, Data.emit_papers]; rfl
  · rfl

lemma stop_papers {q q' : StopPc} (h : (stopCode setup q).Goes d d' q') :
    d'.papers = d.papers := by
  cases q with
  | drain => rw [h.1]; exact emptyQueueRound_papers _ _
  | setFlags => rw [h.1]; rfl
  | emitStopped => rw [h.1]; exact Data.emit_papers _ _ _
  | _ => rw [stop_quiet h rfl]

/-- Scaling the pool leaves the paper alone. -/
lemma ScalingEffect.papers (h : ScalingEffect setup.mode d d') : d'.papers = d.papers := by
  cases h with
  | scaled a pool i data hprinters =>
      have hslot : ∀ j, d'.slot j = d.slot j := fun j => by rw [data]; exact hprinters j
      simp only [Data.papers, hslot]
      rw [data]
  | reported _ _ data _ => rw [data, Data.emit_papers]; rfl

lemma autoscaler_papers {q q' : AutoscalerPc} (h : (autoscalerCode setup q).Goes d d' q') :
    d'.papers = d.papers :=
  (autoscaler_scales h).papers

lemma main_papers {q q' : MainPc} (h : (mainCode setup q).Goes d d' q') :
    d'.papers = d.papers := by
  cases q with
  | emitParameters | emitStart | emitEnd | emitStatistics =>
      rw [h.1]; exact Data.emit_papers _ _ _
  | _ => exact (main_scales h rfl).papers

/-! ## One step -/

/-- What a step does to the paper. -/
inductive PaperStep (setup : Setup) (s s' : Sys) : Prop where
  | same (papers : s'.data.papers = s.data.papers)
  | request (i : Slot) (ex : Executes (program setup) s s' (.printer i))
      (pc : s.printerPc i = .appendRequest)
      (papers : s'.data.papers = { s.data.papers with requests := s.data.papers.requests ++ [i] })
  | use (i : Slot) (ex : Executes (program setup) s s' (.printer i))
      (pc : s.printerPc i = .usePaper) (data : s'.data = Printer.usePaper i s.data)
  | pop (ex : Executes (program setup) s s' .refiller) (pc : s.refillerPc = .popRequest)
      (data : s'.data = Refiller.popRequest s.data)
  | add (ex : Executes (program setup) s s' .refiller) (pc : s.refillerPc = .addPaper)
      (data : s'.data = Refiller.addPaper s.data)
  | book (ex : Executes (program setup) s s' .refiller) (pc : s.refillerPc = .recordRefill)
      (data : s'.data = Refiller.recordRefill s.data)

/-- **Step inversion for paper.** -/
theorem paper_step {s s' : Sys} {a : SysAction} (hs : step (program setup) s a = some s') :
    PaperStep setup s s' := by
  cases sys_move hs with
  | quiet data _ => obtain ⟨c, r, k, data⟩ := data; exact .same (by rw [data]; rfl)
  | main _ goes => exact .same (main_papers goes)
  | stopper _ goes _ => exact .same (stop_papers goes)
  | receiver _ goes _ => exact .same (receiver_papers goes)
  | autoscaler _ goes => exact .same (autoscaler_papers goes)
  | printer i ex goes _ =>
      rcases printer_papers goes with h | ⟨hq, _, h⟩ | ⟨hq, _, h⟩
      · exact .same h
      · exact .request i ex hq h
      · exact .use i ex hq h
  | refiller ex goes _ =>
      rcases refiller_papers goes with h | ⟨hq, _, h⟩ | ⟨hq, _, h⟩ | ⟨hq, _, h⟩
      · exact .same h
      · exact .pop ex hq h
      · exact .add ex hq h
      · exact .book ex hq h

end Orchestrator
