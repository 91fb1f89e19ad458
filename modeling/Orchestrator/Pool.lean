import Orchestrator.Conservation
import Orchestrator.ScaleDown

/-!
# The printer threads and the slots of the pool

The main thread starts the printers slot by slot and joins every active slot.  While the autoscaler
neither starts nor stops a printer, every printer thread that exists is in an active slot, a slot
gets one thread, and the loop of joins leaves none alive.

* `NoScaling` — the autoscaler executes nothing of `scale_up` and `scale_down`.
* `started` — a thread that exists is in an active slot.
* `absent_of_created` — no slot gets a second thread.
* `joined` — after the loop of joins no printer is alive.
-/

namespace Orchestrator

open Pthread

/-- The flags of the slots and the loop counter of the main thread. -/
structure SlotView where
  active : Slot → Bool
  mainI : Int

/-- The slots in memory. -/
def Data.slots (d : Data) : SlotView where
  active i := (d.pool.printers i).active
  mainI := d.mainI

@[simp] lemma Data.emit_slots (mode : LogMode) (e : Event) (d : Data) :
    (d.emit mode e).slots = d.slots := rfl

/-- A change of a printer leaves the flags of the slots alone. -/
@[simp] lemma Data.modifyPrinter_slots (d : Data) (i : Slot) (f : Printer → Printer) :
    (d.modifyPrinter i f).slots = d.slots := by
  simp only [Data.slots, Data.modifyPrinter, PrinterPool.modifyPrinter, SlotView.mk.injEq]
  refine ⟨?_, trivial⟩
  funext j
  by_cases hj : j = i
  · subst hj; simp
  · simp [hj]

variable {setup : Setup} {d d' : Data}

/-! ## Who changes the slots -/

lemma printer_slots {i : Slot} {args : PrinterThreadArgs} {q q' : PrinterPc}
    (h : (printerCode setup i args q).Goes d d' q') : d'.slots = d.slots := by
  cases q with
  | exit => exact h.elim
  | recordEmptyTime => rw [h.1, Printer.recordEmptyTime]; split <;> rfl
  | markBusy | usePaper => rw [h.1]; exact Data.modifyPrinter_slots _ _ _
  | markIdle => rw [h.1, Printer.markIdle, Data.modifyPrinter_slots]; rfl
  | emitDeparture => rw [h.1, Printer.departSystem, Data.emit_slots, Data.modifyPrinter_slots]
  | _ => obtain ⟨rfl, _⟩ := h; rfl

lemma receiver_slots {q q' : ReceiverPc} (h : (receiverCode setup q).Goes d d' q') :
    d'.slots = d.slots := by
  cases q with
  | exit => exact h.elim
  | nextJob => rw [h.1, Receiver.createJob]; split <;> rfl
  | _ => obtain ⟨rfl, _⟩ := h; rfl

lemma refiller_slots {q q' : RefillerPc} (h : (refillerCode setup q).Goes d d' q') :
    d'.slots = d.slots := by
  by_cases hq : q = .recordRefill
  · subst hq
    rw [h.1]
    rfl
  · cases refiller_refills h hq with
    | noted _ _ data => rw [data]; rfl
    | filled _ _ data => rw [data, Data.modifyPrinter_slots]
    | reported _ _ data _ => rw [data]; rfl

lemma stop_slots {q q' : StopPc} (h : (stopCode setup q).Goes d d' q') : d'.slots = d.slots := by
  cases q with
  | setFlags | emitStopped => rw [h.1]; rfl
  | drain => rw [h.1, emptyQueueRound]; split <;> rfl
  | _ => rw [stop_quiet h rfl]

/-- The instructions of `scale_up` and `scale_down`. -/
def AutoscalerPc.scales : AutoscalerPc → Bool
  | .upLockPool | .upChooseId | .upLockQueue | .upReadLength | .upEmit | .upCheckSlot | .upCreate
  | .upMarkStarted | .upEmitIdle | .upUnlockPool | .upFail | .downLockPool | .downChoose
  | .downCancel | .downUnlockPool | .downJoin | .downRelockPool | .downMarkStopped
  | .downLockQueue | .downReadLength | .downEmit | .downRelease | .downFail => true
  | _ => false

lemma autoscaler_slots {q q' : AutoscalerPc} (h : (autoscalerCode setup q).Goes d d' q')
    (hq : q.scales = false) : d'.slots = d.slots := by
  cases q with
  | exit => exact h.elim
  | decideDown =>
      rw [h.1]
      simp only [Data.slots, Autoscaler.decideDown, shouldScaleDown_printers]
      rfl
  | lockState | readFlags | lockQueue | readLength | readClock | lockPoolUp | decideUp
  | lockPoolDown | sleep => obtain ⟨rfl, _⟩ := h; rfl
  | _ => cases hq

/-! ## Runs that do not scale -/

/-- The autoscaler executes nothing of `scale_up` and `scale_down`. -/
def NoScaling (s : Sys) (a : SysAction) : Prop :=
  a = .run .autoscaler → s.autoscalerPc.scales = false

instance (s : Sys) (a : SysAction) : Decidable (NoScaling s a) :=
  inferInstanceAs (Decidable (_ → _))

variable {s s' : Sys} {a : SysAction}

/-- Every instruction of the autoscaler moves it. -/
lemma autoscaler_moves {q q' : AutoscalerPc} (h : (autoscalerCode setup q).Goes d d' q') :
    q' ≠ q := by
  cases q with
  | exit => exact h.elim
  | readFlags | decideUp | decideDown | upChooseId | upCheckSlot | downChoose =>
      obtain ⟨_, rfl⟩ := h
      simp only
      split <;> (try split) <;> nofun
  | upCreate => rcases h.2 with rfl | rfl <;> nofun
  | _ => obtain ⟨_, rfl⟩ := h; nofun

/-- The autoscaler runs only outside the two operations. -/
lemma autoscaler_idles (hok : NoScaling s a) (hs : step (program setup) s a = some s')
    (ex : Executes (program setup) s s' .autoscaler) : s.autoscalerPc.scales = false := by
  have goes : (autoscalerCode setup s.autoscalerPc).Goes s.data s'.data s'.autoscalerPc := ex.goes
  exact hok (run_of_moves hs ex (autoscaler_moves goes))

lemma main_createPrinter (hq : s.mainPc = .createPrinter) :
    s.instr (program setup) .main =
      .create (fun d => (slotOfIndex (d.mainI - 1)).map .printer) sharedPrinterArgs Data.createOk
        .markStarted .countPrinter := by
  show mainCode setup s.mainPc = _
  rw [hq]
  rfl

lemma main_joinPrinter (hq : s.mainPc = .joinPrinter) :
    s.instr (program setup) .main =
      .join (fun d => (slotOfIndex d.mainI).map .printer) .countJoin := by
  show mainCode setup s.mainPc = _
  rw [hq]
  rfl

/-- Only the main thread creates printers, in one place. -/
lemma created_by_main (hok : NoScaling s a) (hs : step (program setup) s a = some s') {t : Tid}
    {j : Slot} (ex : Executes (program setup) s s' t)
    (hc : Created (program setup) s s' t (.printer j)) :
    t = .main ∧ s.mainPc = .createPrinter ∧ slotOfIndex (s.data.mainI - 1) = some j ∧
      s'.mainPc = .markStarted ∧ s'.printerArgs j = sharedPrinterArgs := by
  rcases spawns_cases hc.spawned with ⟨_, hu | hu | hu | hu⟩ | ⟨rfl | rfl, _⟩
  all_goals try cases hu
  · obtain ⟨harg, (hu | hu | hu | hu) | ⟨hq, i, hi, hu⟩⟩ := main_spawned setup hc.spawned
    all_goals cases hu
    change s.mainPc = .createPrinter at hq
    exact ⟨rfl, hq, hi, hc.succeeds _ _ _ _ _ (main_createPrinter hq), harg⟩
  · obtain ⟨_, hq, _⟩ := autoscaler_spawned setup hc.spawned
    have hidle := autoscaler_idles hok hs ex
    change s.autoscalerPc = .upCreate at hq
    rw [hq] at hidle
    cases hidle

/-- Every instruction of the main thread moves it. -/
lemma main_moves {q q' : MainPc} (h : (mainCode setup q).Goes d d' q') : q' ≠ q := by
  cases q with
  | exit => exact h.elim
  | createReceiver | createRefiller | createPrinter | createStopper =>
      rcases h.2 with rfl | rfl <;> nofun
  | createAutoscaler =>
      rcases h.2 with rfl | rfl
      · split <;> nofun
      · nofun
  | nextPrinter | checkSlot | checkAutoscaling | checkJoin | checkAutoscalingEnd =>
      obtain ⟨_, rfl⟩ := h
      simp only
      split <;> (try split) <;> nofun
  | joinAutoscaler =>
      obtain ⟨_, rfl⟩ := h
      split <;> nofun
  | _ => obtain ⟨_, rfl⟩ := h; nofun

/-- Without the main thread the slots stay as they are and no printer is created. -/
lemma slots_cases (hok : NoScaling s a) (hs : step (program setup) s a = some s') :
    (s'.data.slots = s.data.slots ∧ s'.mainPc = s.mainPc ∧
        ¬Executes (program setup) s s' .main ∧
        ∀ t j, Executes (program setup) s s' t → ¬Created (program setup) s s' t (.printer j)) ∨
      (a = .run .main ∧ Executes (program setup) s s' .main ∧
        (mainCode setup s.mainPc).Goes s.data s'.data s'.mainPc) := by
  rcases place_cases hs .main with hpl | ⟨rfl, ex⟩ | ⟨t, _, hc⟩
  · left
    have hmain : ¬Executes (program setup) s s' .main := fun ex =>
      main_moves (show (mainCode setup s.mainPc).Goes s.data s'.data s'.mainPc from ex.goes) hpl.1
    refine ⟨?_, hpl.1, hmain, fun t j ex hc => ?_⟩
    · cases sys_move hs with
      | quiet data _ => obtain ⟨c, r, k, data⟩ := data; rw [data]; rfl
      | main ex _ => exact absurd ex hmain
      | stopper _ goes _ => exact stop_slots goes
      | receiver _ goes _ => exact receiver_slots goes
      | refiller _ goes _ => exact refiller_slots goes
      | autoscaler ex goes => exact autoscaler_slots goes (autoscaler_idles hok hs ex)
      | printer i _ goes _ => exact printer_slots goes
    · exact hmain ((created_by_main hok hs ex hc).1 ▸ ex)
  · exact .inr ⟨rfl, ex, ex.goes⟩
  · rcases spawns_cases hc.spawned with ⟨_, hu | hu | hu | hu⟩ | ⟨_, i, hu⟩ <;> cases hu

/-- What the main thread does to the slots. -/
lemma main_slots {q q' : MainPc} (h : (mainCode setup q).Goes d d' q') :
    (d'.slots = d.slots ∧ q ≠ .markStarted) ∨
      (q = .startPrinters ∧ d'.slots = { d.slots with mainI := 1 }) ∨
      (q = .markStarted ∧ d' = { d with pool := markStarted d.pool d.mainI }) ∨
      ((q = .countPrinter ∨ q = .countJoin) ∧ d'.slots = { d.slots with mainI := d.mainI + 1 }) ∨
      (q = .startJoins ∧ d'.slots = { d.slots with mainI := 0 }) := by
  cases q with
  | exit => exact h.elim
  | startPrinters => obtain ⟨rfl, _⟩ := h; exact .inr (.inl ⟨rfl, rfl⟩)
  | markStarted => exact .inr (.inr (.inl ⟨rfl, h.1⟩))
  | countPrinter => obtain ⟨rfl, _⟩ := h; exact .inr (.inr (.inr (.inl ⟨.inl rfl, rfl⟩)))
  | countJoin => obtain ⟨rfl, _⟩ := h; exact .inr (.inr (.inr (.inl ⟨.inr rfl, rfl⟩)))
  | startJoins => obtain ⟨rfl, _⟩ := h; exact .inr (.inr (.inr (.inr ⟨rfl, rfl⟩)))
  | emitIdle =>
      refine .inl ⟨?_, by decide⟩
      have hd : d' = emitStarted setup.mode d.mainI d := h.1
      rw [hd, emitStarted]
      split <;> rfl
  | _ => obtain ⟨rfl, _⟩ := h; exact .inl ⟨rfl, by decide⟩

/-! ## Threads and slots -/

/-- The slot the main thread is about to start a printer in is not active, and a printer thread that
exists is in an active slot or was created a moment ago. -/
structure Started (s : Sys) : Prop where
  room : s.mainPc = .createPrinter → ∀ j, slotOfIndex (s.data.mainI - 1) = some j →
    s.data.slots.active j = false
  active : ∀ j, (s.ctl (.printer j)).status ≠ .absent → s.data.slots.active j = true ∨
    (s.mainPc = .markStarted ∧ slotOfIndex (s.data.mainI - 1) = some j)

/-- The main thread creates a printer after it has found the slot free. -/
lemma free_of_goes {q : MainPc} (h : (mainCode setup q).Goes d d' .createPrinter) :
    d' = d ∧ q ≠ .markStarted ∧ canStartPrinter d.pool d.mainI = true := by
  cases q with
  | exit => exact h.elim
  | checkSlot =>
      obtain ⟨hd, hq⟩ := h
      simp only at hq
      split at hq
      · next hfree => exact ⟨hd, by decide, hfree⟩
      · cases hq
  | createReceiver | createRefiller | createPrinter | createStopper =>
      rcases h.2 with hq | hq <;> cases hq
  | createAutoscaler =>
      rcases h.2 with hq | hq
      · split at hq <;> cases hq
      · cases hq
  | nextPrinter | checkAutoscaling | checkJoin | checkAutoscalingEnd =>
      have hq := h.2
      simp only at hq
      split at hq <;> (try split at hq) <;> cases hq
  | joinAutoscaler =>
      have hq := h.2
      split at hq <;> cases hq
  | _ => cases h.2

lemma Started.step (ih : Started s) (hok : NoScaling s a)
    (hs : step (program setup) s a = some s') : Started s' := by
  -- a thread that exists after the step existed before, or the main thread has just created it
  have hnew : ∀ j, (s'.ctl (.printer j)).status ≠ .absent →
      (s.ctl (.printer j)).status ≠ .absent ∨
        ∃ t, Executes (program setup) s s' t ∧ Created (program setup) s s' t (.printer j) :=
    fun j hj => by
      by_cases hst : (s.ctl (.printer j)).status = .absent
      · exact (absent_step hs hst).elim (fun h => absurd h.1 hj) .inr
      · exact .inl hst
  rcases slots_cases hok hs with ⟨hslots, hpc, _, hnone⟩ | ⟨_, _, goes⟩
  · have hi : s'.data.mainI = s.data.mainI := congrArg SlotView.mainI hslots
    refine ⟨fun hq j hj => ?_, fun j hj => ?_⟩
    · rw [hslots]
      exact ih.room (hpc ▸ hq) j (hi ▸ hj)
    · rw [hslots, hpc, hi]
      exact ih.active j ((hnew j hj).resolve_right fun ⟨t, ex, hc⟩ => hnone t j ex hc)
  · refine ⟨fun hq j hj => ?_, fun j hj => ?_⟩
    · rw [hq] at goes
      obtain ⟨hd, _, hfree⟩ := free_of_goes goes
      rw [hd] at hj ⊢
      simp only [canStartPrinter, hj, Bool.and_eq_true, Bool.not_eq_true'] at hfree
      exact hfree.2
    · rcases hnew j hj with hold | ⟨t, ex, hc⟩
      · have hactive := ih.active j hold
        rcases main_slots goes with ⟨hslots, hq⟩ | ⟨hq, hslots⟩ | ⟨hq, hd⟩ | ⟨hq, hslots⟩ |
          ⟨hq, hslots⟩
        · exact .inl (hslots ▸ hactive.resolve_right fun h => hq h.1)
        · rw [hslots]
          exact .inl (hactive.resolve_right fun h => by rw [hq] at h; cases h.1)
        · left
          rw [hd]
          by_cases hsame : slotOfIndex (s.data.mainI - 1) = some j
          · simp [Data.slots, markStarted, hsame, PrinterPool.setActive]
          · have hact : (s.data.pool.printers j).active = true :=
              hactive.resolve_right fun h => hsame h.2
            simp only [Data.slots, markStarted]
            split
            · next i hi =>
              have hne : j ≠ i := by rintro rfl; exact hsame hi
              simpa [PrinterPool.setActive, hne] using hact
            · exact hact
        · rw [hslots]
          refine .inl (hactive.resolve_right fun h => ?_)
          rcases hq with hq | hq <;> rw [hq] at h <;> cases h.1
        · rw [hslots]
          exact .inl (hactive.resolve_right fun h => by rw [hq] at h; cases h.1)
      · obtain ⟨_, hq, hj', hq', _⟩ := created_by_main hok hs ex hc
        rw [hq, hq'] at goes
        rw [goes.1]
        exact .inr ⟨hq', hj'⟩

/-- **Every printer thread belongs to an active slot.** -/
theorem started (h : Reach (program setup) NoScaling (freshState setup) s) : Started s :=
  h.invariant (I := Started) ⟨fun hq => (by cases hq), fun j hj => absurd rfl hj⟩
    fun _ ih hok hs => ih.step hok hs

/-- **No slot gets a second thread.** -/
theorem absent_of_created {t : Tid} {j : Slot}
    (h : Reach (program setup) NoScaling (freshState setup) s) (hok : NoScaling s a)
    (hs : step (program setup) s a = some s') (ex : Executes (program setup) s s' t)
    (hc : Created (program setup) s s' t (.printer j)) :
    (s.ctl (.printer j)).status = .absent := by
  obtain ⟨_, hq, hj, _⟩ := created_by_main hok hs ex hc
  have hfree := (started h).room hq j hj
  by_contra hst
  rcases (started h).active j hst with hact | ⟨hq', _⟩
  · rw [hfree] at hact; cases hact
  · rw [hq] at hq'; cases hq'

/-! ## No printer is cancelled -/

/-- Nobody asks a printer to end. -/
theorem never_pending (h : Reach (program setup) NoScaling (freshState setup) s) (i : Slot) :
    (s.ctl (.printer i)).cancelPending = false := by
  refine h.invariant (I := fun s : Sys => (s.ctl (.printer i)).cancelPending = false) rfl
    fun {s s' a} _ ih hok hs => ?_
  by_contra hp
  rw [Bool.not_eq_false] at hp
  rcases pending_step hs hp with hp | ⟨t, ex, hc⟩
  · rw [ih] at hp; cases hp
  · obtain ⟨rfl, hq, _⟩ := cancels_printer hc
    have hidle := autoscaler_idles hok hs ex
    rw [hq] at hidle
    cases hidle

/-- Without scaling no printer acts on a cancellation request. -/
lemma noPrinterCancelled (h : Reach (program setup) NoScaling (freshState setup) s) :
    Reach (program setup) NoPrinterCancelled (freshState setup) s := by
  induction h with
  | refl => exact .refl
  | @tail s s' a hr _ hs ih =>
      refine ih.tail (fun i ha => ?_) hs
      subst ha
      have hp := never_pending hr i
      have hmust : ∀ must : (s.ctl (.printer i)).mustCancel = true, False := fun must => by
        rw [Thread.mustCancel, hp, Bool.and_false] at must
        cases must
      cases step_effect hs with
      | acceptRunning _ must _ _ _ => exact hmust must
      | acceptWaiting _ _ must _ _ => exact hmust must

/-- A printer is at its entry until it executes its first instruction. -/
lemma printer_keeps {j : Slot} (h : Reach (program setup) NoScaling (freshState setup) s)
    (hok : NoScaling s a) (hs : step (program setup) s a = some s')
    (hpl : (s.ctl (.printer j)).SamePlace (s'.ctl (.printer j)) ∨
      ∃ t, Executes (program setup) s s' t ∧ Created (program setup) s s' t (.printer j)) :
    s'.printerPc j = s.printerPc j := by
  rcases hpl with hpl | ⟨t, ex, hc⟩
  · exact hpl.1
  · rw [created_printer hc,
      (place_of_not_alive (noPrinterCancelled h)).1 (absent_of_created h hok hs ex hc)]

/-! ## The joins -/

/-- The slots below this number have been joined. -/
def MainPc.joinBound (mainI : Int) : MainPc → Option Int
  | .checkJoin | .joinPrinter => some mainI
  | .countJoin => some (mainI + 1)
  | .joinRefiller | .checkAutoscalingEnd | .cancelAutoscaler | .joinAutoscaler | .cancelStopper
  | .joinStopper | .emitEnd | .emitStatistics | .exit => some maxPrinters
  | _ => none

/-- No printer is alive in a slot that has been joined. -/
def Joined (s : Sys) : Prop :=
  ∀ bound, s.mainPc.joinBound s.data.mainI = some bound → ∀ j : Slot, (j : Int) < bound →
    (s.ctl (.printer j)).status.alive = false

lemma slotOfIndex_coe (j : Slot) : slotOfIndex (j : Int) = some j := by
  simp [slotOfIndex]

/-- The loop of joins comes past a slot that is not active, or by joining its thread. -/
lemma joinBound_of_goes {q q' : MainPc} {bound : Int} (h : (mainCode setup q).Goes d d' q')
    (hb : q'.joinBound d'.mainI = some bound) :
    bound = 0 ∨ q.joinBound d.mainI = some bound ∨
      (q = .checkJoin ∧ maxPrinters ≤ d.mainI) ∨
      (bound = d.mainI + 1 ∧
        ((q = .checkJoin ∧ Main.isSlotActive d = false) ∨ q = .joinPrinter)) := by
  cases q with
  | exit => exact h.elim
  | startJoins => obtain ⟨rfl, rfl⟩ := h; exact .inl (Option.some.inj hb).symm
  | checkJoin =>
      obtain ⟨rfl, rfl⟩ := h
      simp only [id] at hb
      split at hb
      · split at hb
        · exact .inr (.inl hb)
        · next hactive =>
          exact .inr (.inr (.inr ⟨(Option.some.inj hb).symm, .inl ⟨rfl, by simpa using hactive⟩⟩))
      · next hend => exact .inr (.inr (.inl ⟨rfl, not_lt.mp hend⟩))
  | joinPrinter =>
      obtain ⟨rfl, rfl⟩ := h
      exact .inr (.inr (.inr ⟨(Option.some.inj hb).symm, .inr rfl⟩))
  | countJoin => obtain ⟨rfl, rfl⟩ := h; exact .inr (.inl hb)
  | joinRefiller | cancelAutoscaler | cancelStopper | joinStopper | emitEnd | emitStatistics =>
      obtain ⟨_, rfl⟩ := h
      exact .inr (.inl hb)
  | checkAutoscalingEnd =>
      obtain ⟨_, rfl⟩ := h
      simp only at hb
      split at hb <;> split at hb <;> exact .inr (.inl hb)
  | joinAutoscaler =>
      obtain ⟨_, rfl⟩ := h
      split at hb <;> exact .inr (.inl hb)
  | createReceiver | createRefiller | createPrinter | createStopper =>
      rcases h.2 with rfl | rfl <;> cases hb
  | createAutoscaler =>
      rcases h.2 with rfl | rfl
      · split at hb <;> cases hb
      · cases hb
  | nextPrinter | checkSlot | checkAutoscaling =>
      obtain ⟨_, rfl⟩ := h
      simp only at hb
      split at hb <;> (try split at hb) <;> cases hb
  | _ => obtain ⟨_, rfl⟩ := h; cases hb

lemma Joined.step (ih : Joined s) (h : Reach (program setup) NoScaling (freshState setup) s)
    (hok : NoScaling s a) (hs : step (program setup) s a = some s') : Joined s' := by
  intro bound hb j hj
  by_contra halive
  rw [Bool.not_eq_false] at halive
  rcases slots_cases hok hs with ⟨hslots, hpc, _, hnone⟩ | ⟨rfl, ex, goes⟩
  · have hi : s'.data.mainI = s.data.mainI := congrArg SlotView.mainI hslots
    rcases alive_step hs halive with hold | ⟨t, ex, hc⟩
    · rw [ih bound (by rw [← hpc, ← hi]; exact hb) j hj] at hold
      cases hold
    · exact hnone t j ex hc
  · have hold : (s.ctl (.printer j)).status.alive = true := by
      rcases alive_step hs halive with hold | ⟨t, ex, hc⟩
      · exact hold
      · rw [(created_by_main hok hs ex hc).2.2.2.1] at hb
        cases hb
    -- a slot the loop has just come past
    have hnow : (j : Int) = s.data.mainI → (s.mainPc = .checkJoin ∧
        Main.isSlotActive s.data = false) ∨ s.mainPc = .joinPrinter → False := fun hji hq => by
      have hslot : slotOfIndex s.data.mainI = some j := hji ▸ slotOfIndex_coe j
      rcases hq with ⟨hq, hactive⟩ | hq
      · rw [Main.isSlotActive, hslot] at hactive
        rcases (started h).active j (fun hst => by rw [hst] at hold; cases hold) with
          hact | ⟨hq', _⟩
        · exact absurd hact (by simp [Data.slots, hactive])
        · rw [hq] at hq'; cases hq'
      · rw [ended_of_join hs ex.running (main_joinPrinter hq) (by rw [hslot]; rfl)] at hold
        cases hold
    rcases joinBound_of_goes goes hb with rfl | hsame | ⟨hq, hend⟩ | ⟨rfl, hq⟩
    · omega
    · rw [ih bound hsame j hj] at hold; cases hold
    · have hlast : (j : Int) < s.data.mainI := by
        have := j.isLt
        omega
      rw [ih s.data.mainI (by rw [hq]; rfl) j hlast] at hold
      cases hold
    · by_cases hji : (j : Int) = s.data.mainI
      · exact hnow hji hq
      · have hbound : s.mainPc.joinBound s.data.mainI = some s.data.mainI := by
          rcases hq with ⟨hq, _⟩ | hq <;> rw [hq] <;> rfl
        rw [ih _ hbound j (by omega)] at hold
        cases hold

/-- **The main thread comes past its joins when no printer is alive.** -/
theorem joined (h : Reach (program setup) NoScaling (freshState setup) s) : Joined s :=
  h.invariant (I := Joined) (fun _ hb => by cases hb) fun hr ih hok hs => ih.step hr hok hs

/-- The main thread has asked the stop handler to end. -/
def MainPc.stopperCancelled : MainPc → Bool
  | .joinStopper | .emitEnd | .emitStatistics | .exit => true
  | _ => false

lemma stopperCancelled_of_goes {q q' : MainPc} (h : (mainCode setup q).Goes d d' q')
    (hq : q.stopperCancelled = true ∨ q = .cancelStopper) : q'.stopperCancelled = true := by
  cases q with
  | exit => exact h.elim
  | cancelStopper | joinStopper | emitEnd | emitStatistics => rw [h.2]; rfl
  | _ => rcases hq with hq | hq <;> cases hq

/-- Only the main thread asks the stop handler to end. -/
lemma cancels_stopper {t : Tid} {s : Sys}
    (h : (s.instr (program setup) t).cancels s.data = some .stopper) :
    t = .main ∧ s.mainPc = .cancelStopper := by
  rcases cancels_cases h with ⟨rfl, _⟩ | ⟨_, ⟨_, hu⟩ | ⟨_, hu⟩⟩ | ⟨_, _, i, hu, _⟩ | ⟨_, _, _, hu⟩
  · refine ⟨rfl, ?_⟩
    change (mainCode setup s.mainPc).cancels s.data = _ at h
    generalize s.mainPc = q at *
    cases q <;> cases h
    rfl
  all_goals cases hu

lemma stopper_pending (h : Reach (program setup) NoScaling (freshState setup) s) :
    (s.ctl .stopper).cancelPending = true → s.mainPc.stopperCancelled = true := by
  refine h.invariant (I := fun s : Sys => (s.ctl .stopper).cancelPending = true →
    s.mainPc.stopperCancelled = true) (fun hp => by cases hp) fun {s s' a} hr ih hok hs hp => ?_
  have hcause : (Sys.mainPc s).stopperCancelled = true ∨
      (Executes (program setup) s s' .main ∧ Sys.mainPc s = .cancelStopper) := by
    rcases pending_step hs hp with hp | ⟨t, ex, hc⟩
    · exact .inl (ih hp)
    · obtain ⟨rfl, hq⟩ := cancels_stopper hc
      exact .inr ⟨ex, hq⟩
  rcases slots_cases hok hs with ⟨_, hpc, hmain, _⟩ | ⟨_, _, goes⟩
  · rw [hpc]
    exact hcause.resolve_right fun h => hmain h.1
  · exact stopperCancelled_of_goes goes (hcause.imp_right And.right)

/-- **While a printer is alive nobody cancels the stop handler.** -/
theorem stopper_not_pending {i : Slot}
    (h : Reach (program setup) NoScaling (freshState setup) s)
    (ha : (s.ctl (.printer i)).status.alive = true) :
    (s.ctl .stopper).cancelPending = false := by
  by_contra hp
  rw [Bool.not_eq_false] at hp
  have hq := stopper_pending h hp
  have hbound : s.mainPc.joinBound s.data.mainI = some (maxPrinters : Int) := by
    generalize s.mainPc = q at *
    cases q <;> first | rfl | cases hq
  rw [joined h _ hbound i (by have := i.isLt; omega)] at ha
  cases ha

end Orchestrator
