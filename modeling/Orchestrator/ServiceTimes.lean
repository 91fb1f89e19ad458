import Orchestrator.Queueing.Timecard
import Orchestrator.ReportView

/-!
# The service times of the slots

The service time that the statistics hold for a slot is the total of a time card, which is opened
when the simulation starts and passed on from a printer of the slot to the next one.

* `printers_absent` — no printer runs before the simulation has started.
* `printer_card` — every instruction of a printer is a move on its card.
* `cards_sound` — the cards are right in every run whose services take less than `2 ^ 31`
  microseconds.
-/

namespace Orchestrator

open Pthread Queueing

variable {setup : Setup} {d d' : Data} {s s' : Sys} {a : SysAction}
  {ok : Sys → SysAction → Prop}

/-! ## The cards -/

/-- What a printer is doing for its job, when it is at `q`. -/
def servicePhase (q : PrinterPc) (job : Job) : Phase :=
  match q with
  | .markBusy | .emitBusy | .service | .usePaper | .markIdle =>
      .busy job.serviceArrivalTimeUs.toNat
  | .emitIdle | .lockStats | .emitDeparture =>
      .done job.serviceArrivalTimeUs.toNat job.serviceDepartureTimeUs.toNat
  | _ => .idle

/-- The card of slot `i`, whose printer is at `q`. -/
def timecard (i : Slot) (q : PrinterPc) (d : Data) : Timecard where
  opened := d.reportView.referenceTimeUs.toNat
  total := (d.reportView.serviceTimeUs i).toNat
  phase := servicePhase q (d.printer i).job

/-- The printer in each slot has its id. -/
def IdsKept (v : ReportView) : Prop := ∀ i : Slot, v.printerIds i = i + 1

lemma slotOfIndex_id (i : Slot) : slotOfIndex (((i + 1 : ℕ) : Int) - 1) = some i := by
  have hin : (0 : Int) ≤ ((i + 1 : ℕ) : Int) - 1 ∧
      (((i + 1 : ℕ) : Int) - 1).toNat < maxPrinters := by
    have := i.isLt
    omega
  rw [slotOfIndex, dif_pos hin]
  congr 1
  apply Fin.ext
  show (((i + 1 : ℕ) : Int) - 1).toNat = i
  omega

/-- What a departure from slot `i` records. -/
lemma record_departure {v : ReportView} {i : Slot} {job : Job} {printer : Printer}
    (hid : printer.id = i + 1) :
    v.record (.systemDeparture job printer) =
      { v with
        serviceTimeUs := Function.update v.serviceTimeUs i
          (v.serviceTimeUs i + job.serviceDuration) } := by
  rw [ReportView.record, hid, slotOfIndex_id]

/-- Short services are recorded as they were. -/
lemma serviceDuration_of_short {job : Job}
    (h : (job.serviceDepartureTimeUs - job.serviceArrivalTimeUs).toNat < 2 ^ 31) :
    job.serviceDuration = job.serviceDepartureTimeUs - job.serviceArrivalTimeUs := by
  rw [Job.serviceDuration, intOfULong_of_lt h, ulongOfInt_toNat]

/-- A short service is added to the total of its slot as a number, while the sum fits. -/
lemma record_departure_total {v : ReportView} {i : Slot} {job : Job} {printer : Printer}
    (hid : printer.id = i + 1)
    (hordered : job.serviceArrivalTimeUs.toNat ≤ job.serviceDepartureTimeUs.toNat)
    (hshort : (job.serviceDepartureTimeUs - job.serviceArrivalTimeUs).toNat < 2 ^ 31)
    (hfits : (v.serviceTimeUs i).toNat ≤ job.serviceArrivalTimeUs.toNat) :
    ((v.record (.systemDeparture job printer)).serviceTimeUs i).toNat = (v.serviceTimeUs i).toNat +
      (job.serviceDepartureTimeUs.toNat - job.serviceArrivalTimeUs.toNat) := by
  have hle : job.serviceArrivalTimeUs ≤ job.serviceDepartureTimeUs :=
    UInt64.le_iff_toNat_le.mpr hordered
  have hbound : job.serviceDepartureTimeUs.toNat < 2 ^ 64 := job.serviceDepartureTimeUs.toNat_lt
  rw [record_departure hid]
  show (Function.update v.serviceTimeUs i _ i).toNat = _
  rw [Function.update_self, serviceDuration_of_short hshort, UInt64.toNat_add,
    UInt64.toNat_sub_of_le _ _ hle]
  refine Nat.mod_eq_of_lt ?_
  omega

lemma timecard_eq {i : Slot} {q q' : PrinterPc} (hv : d'.reportView = d.reportView)
    (hphase : servicePhase q' (d'.printer i).job = servicePhase q (d.printer i).job) :
    timecard i q' d' = timecard i q d := by
  rw [timecard, timecard, hv, hphase]

/-- **A printer's own steps are moves on its card.** -/
lemma printer_card {i : Slot} {args : PrinterThreadArgs} {q q' : PrinterPc}
    (h : (printerCode setup i args q).Goes d d' q') (hid : (d.slot i).id = i + 1)
    (hshort : q = .emitDeparture → ((d.printer i).job.serviceDepartureTimeUs -
      (d.printer i).job.serviceArrivalTimeUs).toNat < 2 ^ 31)
    (hsound : (timecard i q d).Sound d.clock.toNat) :
    timecard i q' d' = timecard i q d ∨
      Timecard.Move d.clock.toNat (timecard i q d) (timecard i q' d') := by
  rcases printer_reportView h with hv | ⟨rfl, hv⟩
  · cases q with
    | exit => exact h.elim
    | emitArrival =>
        right
        have hphase : servicePhase q' (d'.printer i).job = .busy d.clock.toNat := by
          rw [h.1, h.2, Printer.arriveAtPrinter]
          simp [servicePhase]
        rw [timecard, timecard, hv, hphase]
        exact .start
    | markIdle =>
        right
        have hphase : servicePhase q' (d'.printer i).job =
            .done (d.printer i).job.serviceArrivalTimeUs.toNat d.clock.toNat := by
          rw [h.1, h.2, Printer.markIdle]
          simp [servicePhase]
        rw [timecard, timecard, hv, hphase]
        exact .finish
    | emitDeparture =>
        right
        obtain ⟨_, rfl⟩ := h
        have hcard : timecard i .emitStats d' =
            { timecard i .emitDeparture d with phase := .idle } := by
          rw [timecard, timecard, hv]
          rfl
        rw [hcard]
        exact .leave
    | checkQueue =>
        left
        refine timecard_eq hv ?_
        obtain ⟨rfl, rfl⟩ := h
        simp only
        split
        · rfl
        · split <;> rfl
    | checkPaper | checkRefilled | readTerminateInWait | checkDone =>
        left
        refine timecard_eq hv ?_
        obtain ⟨_, rfl⟩ := h
        simp only
        split <;> rfl
    | _ =>
        left
        refine timecard_eq hv ?_
        obtain ⟨rfl, rfl⟩ := h
        rfl
  · right
    obtain ⟨_, rfl⟩ := h
    obtain ⟨hbefore, hordered, _⟩ := hsound
    have hfits : (d.reportView.serviceTimeUs i).toNat ≤
        (d.printer i).job.serviceArrivalTimeUs.toNat :=
      (Nat.le_add_left _ _).trans hbefore
    have htotal : (d'.reportView.serviceTimeUs i).toNat = (d.reportView.serviceTimeUs i).toNat +
        ((d.printer i).job.serviceDepartureTimeUs.toNat -
          (d.printer i).job.serviceArrivalTimeUs.toNat) := by
      rw [hv]
      exact record_departure_total hid hordered (hshort rfl) hfits
    have hopened : d'.reportView.referenceTimeUs = d.reportView.referenceTimeUs := by
      rw [hv, record_departure hid]
    rw [timecard, timecard, htotal, hopened]
    exact .record

/-! ## Before the start -/

/-- Before the refiller is created, the printers are absent. -/
def PrintersAbsent (s : Sys) : Prop :=
  s.mainPc.stage ≤ 1 → ∀ i : Slot, (s.ctl (.printer i)).status = .absent ∧
    s.printerPc i = .lockState

lemma PrintersAbsent.step (ih : PrintersAbsent s)
    (h : Reach (program setup) ok (freshState setup) s)
    (hs : step (program setup) s a = some s') : PrintersAbsent s' := by
  intro hstage i
  have hbefore : s.mainPc.stage ≤ 1 := (stage_mono hs).trans hstage
  obtain ⟨hst, hpc⟩ := ih hbefore i
  rcases absent_step hs hst with ⟨hst', hpl⟩ | ⟨t, ex, hc⟩
  · exact ⟨hst', by rw [← hpc, Sys.printerPc, Sys.printerPc, hpl.1]⟩
  · exfalso
    rcases spawns_cases hc.spawned with ⟨_, hu⟩ | ⟨rfl | rfl, _⟩
    · rcases hu with hu | hu | hu | hu <;> cases hu
    · rcases (main_spawned setup hc.spawned).2 with hu | ⟨hq, _⟩
      · rcases hu with hu | hu | hu | hu <;> cases hu
      · change s.mainPc = .createPrinter at hq
        rw [hq] at hbefore
        exact absurd hbefore (by decide)
    · have habsent := (unstarted h .autoscaler 2 rfl (by omega)).1
      rw [ex.running] at habsent
      cases habsent

/-- **No printer runs before the simulation has started.** -/
theorem printers_absent (h : Reach (program setup) ok (freshState setup) s) : PrintersAbsent s :=
  h.invariant (I := PrintersAbsent) (fun _ _ => ⟨rfl, rfl⟩) fun hr ih _ hs => ih.step hr hs

/-! ## Every run -/

/-- Every departure that is recorded is of a service of less than `2 ^ 31` microseconds. -/
def ShortServices (s : Sys) (a : SysAction) : Prop :=
  ∀ i, a = .run (.printer i) → s.printerPc i = .emitDeparture →
    ((s.data.printer i).job.serviceDepartureTimeUs -
      (s.data.printer i).job.serviceArrivalTimeUs).toNat < 2 ^ 31

instance (s : Sys) (a : SysAction) : Decidable (ShortServices s a) :=
  inferInstanceAs (Decidable (∀ _, _ → _ → _))

/-- The card of a slot. -/
def Sys.card (s : Sys) (i : Slot) : Timecard := timecard i (s.printerPc i) s.data

/-- The cards are right, and empty before the start. -/
structure CardsKept (s : Sys) : Prop where
  ids : IdsKept s.data.reportView
  unstarted : s.mainPc.stage ≤ 1 → ∀ i, s.data.reportView.serviceTimeUs i = 0
  sound : ∀ i, (s.card i).Sound s.data.clock.toNat

/-- What a step of others does to the data of a slot's card. -/
structure CardFrame (s s' : Sys) (i : Slot) : Prop where
  clock : s.data.reportView.clock ≤ s'.data.reportView.clock
  total : s'.data.reportView.serviceTimeUs i = s.data.reportView.serviceTimeUs i
  opened : s'.data.reportView.referenceTimeUs = s.data.reportView.referenceTimeUs ∨
    (s.mainPc = .emitStart ∧
      s'.data.reportView.referenceTimeUs = s'.data.reportView.clock)

/-- No step changes the id of a printer. -/
lemma IdsKept.step (h : IdsKept s.data.reportView) (hs : step (program setup) s a = some s') :
    IdsKept s'.data.reportView := by
  cases report_step hs with
  | later _ _ report | start _ _ report | ended _ _ report | stopped _ report
  | enqueued _ _ report | arrival _ _ report | drop _ _ report => rw [report]; exact h
  | departure j _ _ report =>
      rw [report, record_departure (h j)]
      exact h

/-- Printers keep the ids they were initialised with. -/
lemma ids_kept (h : Reach (program setup) ok (freshState setup) s) : IdsKept s.data.reportView :=
  h.invariant (I := fun s => IdsKept s.data.reportView) (fun _ => rfl) fun _ ih _ hs => ih.step hs

lemma card_frame {i : Slot} (hids : IdsKept s.data.reportView)
    (hs : step (program setup) s a = some s')
    (hex : ¬Executes (program setup) s s' (.printer i)) : CardFrame s s' i := by
  have hle := UInt64.le_refl s.data.reportView.clock
  cases report_step hs with
  | later _ le report =>
      exact ⟨by rw [report]; exact le, by rw [report], .inl (by rw [report])⟩
  | start _ pc report =>
      exact ⟨by rw [report]; exact hle, by rw [report]; rfl, .inr ⟨pc, by rw [report]; rfl⟩⟩
  | ended _ _ report | stopped _ report | enqueued _ _ report | arrival _ _ report
  | drop _ _ report =>
      exact ⟨by rw [report]; exact hle, by rw [report]; rfl, .inl (by rw [report]; rfl)⟩
  | departure j ex _ report =>
      rw [record_departure (hids j)] at report
      refine ⟨by rw [report]; exact hle, ?_, .inl (by rw [report])⟩
      have hne : i ≠ j := by
        rintro rfl
        exact hex ex
      rw [report]
      exact Function.update_of_ne hne _ _

/-- Only its own thread starts, ends or records a service of a slot. -/
lemma others_phase {i : Slot} (hs : step (program setup) s a = some s')
    (hex : ¬Executes (program setup) s s' (.printer i)) :
    (s'.card i).phase = (s.card i).phase ∨ (s'.card i).phase = .idle := by
  rcases printer_cases hs i with ⟨_, hpc, _, hloc⟩ | ⟨t, _, hc⟩ | ⟨ex, _⟩
  · left
    show servicePhase (s'.printerPc i) (s'.data.printer i).job = _
    rw [hpc, hloc]
    rfl
  · right
    show servicePhase (s'.printerPc i) (s'.data.printer i).job = _
    rw [created_printer hc]
    rfl
  · exact absurd ex hex

/-- A step of others keeps the card of a slot right. -/
lemma CardsKept.others {i : Slot} (ih : CardsKept s)
    (h : Reach (program setup) ok (freshState setup) s) (hs : step (program setup) s a = some s')
    (hex : ¬Executes (program setup) s s' (.printer i)) :
    (s'.card i).Sound s'.data.clock.toNat := by
  obtain ⟨hclock, htotal, hopened⟩ := card_frame ih.ids hs hex
  have hlater := (ih.sound i).later (UInt64.le_iff_toNat_le.mp hclock)
  rcases hopened with hopened | ⟨hq, hopened⟩
  · rcases others_phase hs hex with hphase | hphase
    · have hcard : s'.card i = s.card i := by
        rw [Sys.card, Sys.card, timecard, timecard, hopened, htotal]
        exact congrArg (Timecard.mk _ _) hphase
      rw [hcard]
      exact hlater
    · have hcard : s'.card i = { s.card i with phase := .idle } := by
        rw [Sys.card, Sys.card, timecard, timecard, hopened, htotal]
        exact congrArg (Timecard.mk _ _) hphase
      rw [hcard]
      exact hlater.move .leave
  · -- the simulation starts: nobody has served yet
    have hstage : s.mainPc.stage ≤ 1 := by rw [hq]; decide
    have hidle : (s.card i).phase = .idle := by
      show servicePhase (s.printerPc i) (s.data.printer i).job = _
      rw [(printers_absent h hstage i).2]
      rfl
    have hphase : (s'.card i).phase = .idle := by
      rcases others_phase hs hex with hphase | hphase
      · rw [hphase, hidle]
      · exact hphase
    have hzero : (s'.card i).total = 0 := by
      show (s'.data.reportView.serviceTimeUs i).toNat = 0
      rw [htotal, ih.unstarted hstage i]
      rfl
    have hcard : s'.card i = ⟨s'.data.clock.toNat, 0, .idle⟩ := by
      rw [← hzero, ← hphase]
      show timecard _ _ _ = _
      rw [timecard, hopened]
      rfl
    rw [hcard]
    exact Nat.le_refl _

/-- A departure is recorded by running the printer. -/
lemma run_of_departure {i : Slot} (hs : step (program setup) s a = some s')
    (ex : Executes (program setup) s s' (.printer i)) (hq : s.printerPc i = .emitDeparture) :
    a = .run (.printer i) := by
  have goes : (printerCode setup i (s.printerArgs i) (s.printerPc i)).Goes s.data s'.data
      (s'.printerPc i) := ex.goes
  rw [hq] at goes
  have hnext : s'.printerPc i = .emitStats := goes.2
  refine run_of_moves hs ex fun hsame => ?_
  change s'.printerPc i = s.printerPc i at hsame
  rw [hnext, hq] at hsame
  cases hsame

/-- A printer's step keeps the card of its slot right. -/
lemma CardsKept.own {i : Slot} (ih : CardsKept s) (hs : step (program setup) s a = some s')
    (hshort : ShortServices s a) (ex : Executes (program setup) s s' (.printer i)) :
    (s'.card i).Sound s'.data.clock.toNat := by
  have goes : (printerCode setup i (s.printerArgs i) (s.printerPc i)).Goes s.data s'.data
      (s'.printerPc i) := ex.goes
  have hclock : s'.data.reportView.clock = s.data.reportView.clock := by
    rcases printer_reportView goes with hv | ⟨_, hv⟩
    · rw [hv]
    · rw [hv, record_departure (ih.ids i)]
  have hshort' : s.printerPc i = .emitDeparture →
      ((s.data.printer i).job.serviceDepartureTimeUs -
        (s.data.printer i).job.serviceArrivalTimeUs).toNat < 2 ^ 31 := by
    intro hq
    exact hshort i (run_of_departure hs ex hq) hq
  show (timecard i (s'.printerPc i) s'.data).Sound s'.data.reportView.clock.toNat
  rw [hclock]
  rcases printer_card goes (ih.ids i) hshort' (ih.sound i) with hcard | hmove
  · rw [hcard]
    exact ih.sound i
  · exact (ih.sound i).move hmove

lemma CardsKept.step (ih : CardsKept s) (h : Reach (program setup) ok (freshState setup) s)
    (hs : step (program setup) s a = some s') (hshort : ShortServices s a) : CardsKept s' := by
  refine ⟨ih.ids.step hs, fun hstage i => ?_, fun i => ?_⟩
  · have hbefore : s.mainPc.stage ≤ 1 := (stage_mono hs).trans hstage
    have hex : ¬Executes (program setup) s s' (.printer i) := by
      intro ex
      have habsent := (printers_absent h hbefore i).1
      rw [ex.running] at habsent
      cases habsent
    rw [(card_frame ih.ids hs hex).total]
    exact ih.unstarted hbefore i
  · by_cases hex : Executes (program setup) s s' (.printer i)
    · exact ih.own hs hshort hex
    · exact ih.others h hs hex

lemma cards_fresh (setup : Setup) : CardsKept (freshState setup) where
  ids _ := rfl
  unstarted _ _ := rfl
  sound _ := Nat.le_refl 0

/-- **The cards are right in every run of short services.** -/
theorem cards_sound (hok : ∀ s a, ok s a → ShortServices s a)
    (h : Reach (program setup) ok (freshState setup) s) : CardsKept s :=
  h.invariant (I := CardsKept) (cards_fresh setup)
    fun hr ih hok' hs => ih.step hr hs (hok _ _ hok')

end Orchestrator
