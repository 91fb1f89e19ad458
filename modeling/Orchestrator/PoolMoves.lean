import Orchestrator.ActiveSlots
import Orchestrator.Pool
import Orchestrator.Pthread.Joins

/-!
# Who changes the pool

The main thread and the autoscaler are the only ones that create and join printers and change the
`active` flags.

* `PoolMove` — a step of the main thread, of the autoscaler, or of neither.
* `Targets` — a thread is created only in a slot that is not active, and joined by `scale_down` only
  in one that is.
-/

namespace Orchestrator

open Pthread

variable {setup : Setup} {s s' : Sys} {a : SysAction} {ok : Sys → SysAction → Prop} {d d' : Data}

/-! ## Who moves -/

/-- A step of the main thread, of the autoscaler, or of neither. -/
inductive PoolMove (setup : Setup) (s s' : Sys) (a : SysAction) : Prop where
  | main (run : a = .run .main) (ex : Executes (program setup) s s' .main)
      (goes : (mainCode setup s.mainPc).Goes s.data s'.data s'.mainPc)
      (autoscaler : s'.data.autoscaler = s.data.autoscaler)
      (place : s'.autoscalerPc = s.autoscalerPc)
  | autoscaler (run : a = .run .autoscaler) (ex : Executes (program setup) s s' .autoscaler)
      (goes : (autoscalerCode setup s.autoscalerPc).Goes s.data s'.data s'.autoscalerPc)
      (place : s'.mainPc = s.mainPc)
  | other (event : s.threadEvent (program setup) a = none) (slots : s'.data.slots = s.data.slots)
      (autoscaler : s'.data.autoscaler = s.data.autoscaler) (mainPlace : s'.mainPc = s.mainPc)
      (autoscalerPlace : s'.autoscalerPc = s.autoscalerPc)
      (alive : ∀ i, (s'.ctl (.printer i)).status.alive = true →
        (s.ctl (.printer i)).status.alive = true)

/-- The other threads neither create nor join anybody. -/
lemma threadEvent_none {t : Tid} (hm : t ≠ .main) (ha : t ≠ .autoscaler) :
    (s.instr (program setup) t).threadEvent s.data = none := by
  cases t with
  | main => exact absurd rfl hm
  | autoscaler => exact absurd rfl ha
  | stopper =>
      show (stopCode setup s.stopPc).threadEvent s.data = none
      cases s.stopPc <;> simp only [stopCode] <;> (try split) <;> rfl
  | receiver =>
      show (receiverCode setup s.receiverPc).threadEvent s.data = none
      cases s.receiverPc <;> rfl
  | refiller =>
      show (refillerCode setup s.refillerPc).threadEvent s.data = none
      cases s.refillerPc <;> rfl
  | printer i =>
      show (printerCode setup i (s.printerArgs i) (s.printerPc i)).threadEvent s.data = none
      cases s.printerPc i <;> rfl

lemma main_event (ex : Executes (program setup) s s' .main) :
    s.threadEvent (program setup) (.run .main) = (mainCode setup s.mainPc).threadEvent s.data :=
  event_of_executes ex

lemma autoscaler_event (ex : Executes (program setup) s s' .autoscaler) :
    s.threadEvent (program setup) (.run .autoscaler) =
      (autoscalerCode setup s.autoscalerPc).threadEvent s.data :=
  event_of_executes ex

/-- **Step inversion for the pool.** -/
theorem pool_move (h : Reach (program setup) ok (freshState setup) s)
    (hs : step (program setup) s a = some s') : PoolMove setup s s' a := by
  by_cases hm : Executes (program setup) s s' .main
  · have goes : (mainCode setup s.mainPc).Goes s.data s'.data s'.mainPc := hm.goes
    exact .main (run_of_moves hs hm (main_moves goes)) hm goes (main_locals goes).2.2.2
      (stays h hm (by simp) (by simp)).1
  by_cases ha : Executes (program setup) s s' .autoscaler
  · have goes : (autoscalerCode setup s.autoscalerPc).Goes s.data s'.data s'.autoscalerPc := ha.goes
    exact .autoscaler (run_of_moves hs ha (autoscaler_moves goes)) ha goes
      (stays h ha (by simp) (by simp)).1
  have hplace : ∀ {t : Tid}, ¬Executes (program setup) s s' t → (∀ i, t ≠ .printer i) →
      (s.ctl t).SamePlace (s'.ctl t) := fun hne ht => by
    rcases place_step hs hne with hpl | ⟨t', ex, hc⟩
    · exact hpl
    · refine stays h ex ?_ ht
      rintro rfl
      exact hne ex
  have halive : ∀ i, (s'.ctl (.printer i)).status.alive = true →
      (s.ctl (.printer i)).status.alive = true := fun i hi => by
    rcases alive_step hs hi with hold | ⟨t, ex, hc⟩
    · exact hold
    · rcases spawns_cases hc.spawned with ⟨_, hu | hu | hu | hu⟩ | ⟨rfl | rfl, _⟩
      all_goals try cases hu
      · exact absurd ex hm
      · exact absurd ex ha
  have hevent : s.threadEvent (program setup) a = none := by
    rcases step_event hs with he | ⟨t, _, ex, he⟩
    · exact he
    · rw [he]
      exact threadEvent_none (fun ht => hm (ht ▸ ex)) fun ht => ha (ht ▸ ex)
  refine .other hevent ?_ ?_ (hplace hm (by simp)).1 (hplace ha (by simp)).1 halive
  · cases sys_move hs with
    | quiet data _ => obtain ⟨c, r, k, data⟩ := data; rw [data]; rfl
    | main ex _ => exact absurd ex hm
    | autoscaler ex _ => exact absurd ex ha
    | stopper _ goes _ => exact stop_slots goes
    | receiver _ goes _ => exact receiver_slots goes
    | refiller _ goes _ => exact refiller_slots goes
    | printer i _ goes _ => exact printer_slots goes
  · exact autoscaler_unchanged hs ha

/-- The autoscaler does nothing before the main thread has started all its printers. -/
lemma autoscaler_entry (h : Reach (program setup) ok (freshState setup) s)
    (hstage : s.mainPc.stage ≤ 2) : s.autoscalerPc = .lockState ∧
      ∀ s', ¬Executes (program setup) s s' .autoscaler := by
  obtain ⟨hst, hpc, _⟩ := unstarted h .autoscaler 2 rfl hstage
  refine ⟨hpc, fun s' ex => ?_⟩
  rw [ex.running] at hst
  cases hst

/-! ## The flags -/

lemma markStarted_slots {i : Slot} {printerId : Int} (h : slotOfIndex (printerId - 1) = some i) :
    ({ d with pool := markStarted d.pool printerId } : Data).slots =
      { d.slots with active := Function.update d.slots.active i true } := by
  simp only [Data.slots, markStarted, h, PrinterPool.setActive, SlotView.mk.injEq, and_true]
  funext j
  by_cases hj : j = i
  · subst hj; simp
  · simp [hj]

lemma markStarted_slots_none {printerId : Int} (h : slotOfIndex (printerId - 1) = none) :
    ({ d with pool := markStarted d.pool printerId } : Data).slots = d.slots := by
  simp only [Data.slots, markStarted, h]

lemma markStopped_slots {i : Slot} (h : d.autoscaler.printerToRemove = some i) :
    (Autoscaler.markStopped d).slots =
      { d.slots with active := Function.update d.slots.active i false } := by
  simp only [Data.slots, Autoscaler.markStopped, h, PrinterPool.setActive, SlotView.mk.injEq]
  refine ⟨?_, rfl⟩
  funext j
  by_cases hj : j = i
  · subst hj; simp
  · simp [hj]

lemma markStopped_none (h : d.autoscaler.printerToRemove = none) :
    Autoscaler.markStopped d = d := by
  simp only [Autoscaler.markStopped, h]

/-- The autoscaler changes a flag in two places. -/
lemma autoscaler_slots_of_ne {q q' : AutoscalerPc} (h : (autoscalerCode setup q).Goes d d' q')
    (hstart : q ≠ .upMarkStarted) (hstop : q ≠ .downMarkStopped) : d'.slots = d.slots := by
  by_cases hq : q.scales = false
  · exact autoscaler_slots h hq
  · cases q with
    | upMarkStarted => exact absurd rfl hstart
    | downMarkStopped => exact absurd rfl hstop
    | upEmitIdle =>
        have hd : d' = emitStarted setup.mode d.autoscaler.newPrinterId d := h.1
        rw [hd, emitStarted]
        split <;> rfl
    | lockState | readFlags | lockQueue | readLength | readClock | lockPoolUp | decideUp
    | lockPoolDown | decideDown | sleep | exit => exact absurd rfl hq
    | _ => obtain ⟨rfl, _⟩ := h; rfl

/-- The autoscaler has chosen a printer to end and not joined it. -/
def AutoscalerPc.ends : AutoscalerPc → Bool
  | .downCancel | .downUnlockPool | .downJoin => true
  | _ => false

/-- A thread is created only in a slot that is not active, and joined by the autoscaler only in one
that is. -/
structure Targets (s : Sys) : Prop where
  main : s.mainPc = .createPrinter → ∀ i, slotOfIndex (s.data.mainI - 1) = some i →
    s.data.slots.active i = false
  starts : s.autoscalerPc = .upCreate → ∀ i,
    slotOfIndex (s.data.autoscaler.newPrinterId - 1) = some i → s.data.slots.active i = false
  ends : s.autoscalerPc.ends = true → ∀ i, s.data.autoscaler.printerToRemove = some i →
    s.data.slots.active i = true

/-- The printer that `scale_down` chooses is active. -/
lemma active_of_printerToRemove {pool : PrinterPool} {i : Slot}
    (h : printerToRemove pool = some i) : (pool.printers i).active = true := by
  have htest := (scanSlotsDown_some h).1
  simp only [Bool.and_eq_true] at htest
  exact htest.1

/-- What the autoscaler's own step does to its targets. -/
lemma autoscaler_targets {q q' : AutoscalerPc} (h : (autoscalerCode setup q).Goes d d' q')
    (hends : q.ends = true → ∀ i, d.autoscaler.printerToRemove = some i →
      d.slots.active i = true) :
    (q' = .upCreate → ∀ i, slotOfIndex (d'.autoscaler.newPrinterId - 1) = some i →
        d'.slots.active i = false) ∧
      (q'.ends = true → ∀ i, d'.autoscaler.printerToRemove = some i →
        d'.slots.active i = true) := by
  cases q with
  | exit => exact h.elim
  | upCheckSlot =>
      obtain ⟨rfl, rfl⟩ := h
      simp only
      split
      · next hfree =>
        refine ⟨fun _ i hi => ?_, fun hq => (by cases hq)⟩
        simp only [id, canStartPrinter, hi, Bool.and_eq_true, Bool.not_eq_true'] at hfree
        exact hfree.2
      · exact ⟨fun hq => (by cases hq), fun hq => (by cases hq)⟩
  | downChoose =>
      obtain ⟨rfl, rfl⟩ := h
      simp only
      split
      · exact ⟨fun hq => (by cases hq), fun hq => (by cases hq)⟩
      · split
        · exact ⟨fun hq => (by cases hq), fun hq => (by cases hq)⟩
        · exact ⟨fun hq => (by cases hq), fun _ i hi => active_of_printerToRemove hi⟩
  | downCancel | downUnlockPool =>
      obtain ⟨rfl, rfl⟩ := h
      exact ⟨fun hq => (by cases hq), fun _ => hends rfl⟩
  | readFlags | decideUp | decideDown | upChooseId =>
      obtain ⟨_, rfl⟩ := h
      simp only
      split <;> exact ⟨fun hq => (by cases hq), fun hq => (by cases hq)⟩
  | upCreate =>
      rcases h.2 with rfl | rfl <;> exact ⟨fun hq => (by cases hq), fun hq => (by cases hq)⟩
  | _ => obtain ⟨_, rfl⟩ := h; exact ⟨fun hq => (by cases hq), fun hq => (by cases hq)⟩

lemma Targets.step (ih : Targets s) (h : Reach (program setup) ok (freshState setup) s)
    (hs : step (program setup) s a = some s') : Targets s' := by
  cases pool_move h hs with
  | main _ ex goes hauto hplace =>
      refine ⟨fun hq i hi => ?_, ?_, ?_⟩
      · rw [hq] at goes
        obtain ⟨hd, _, hfree⟩ := free_of_goes goes
        rw [hd] at hi ⊢
        simp only [canStartPrinter, hi, Bool.and_eq_true, Bool.not_eq_true'] at hfree
        exact hfree.2
      all_goals
        rw [hplace, hauto]
        intro hq i hi
        have hslots : s'.data.slots.active = s.data.slots.active := by
          rcases main_slots goes with ⟨hslots, _⟩ | ⟨_, hslots⟩ | ⟨hstart, _⟩ | ⟨_, hslots⟩ |
            ⟨_, hslots⟩
          all_goals try rw [hslots]
          have hentry := (autoscaler_entry h (by rw [hstart]; decide)).1
          rw [hentry] at hq
          cases hq
        rw [hslots]
      · exact ih.starts hq i hi
      · exact ih.ends hq i hi
  | autoscaler _ ex goes hplace =>
      obtain ⟨hstarts, hends⟩ := autoscaler_targets goes ih.ends
      refine ⟨fun hq => ?_, hstarts, hends⟩
      have hstage : s.mainPc.stage ≤ 2 := by rw [← hplace, hq]; decide
      exact absurd ex ((autoscaler_entry h hstage).2 _)
  | other _ slots hauto hmain hplace _ =>
      have hi : s'.data.mainI = s.data.mainI := congrArg SlotView.mainI slots
      refine ⟨?_, ?_, ?_⟩
      · rw [hmain, hi, slots]; exact ih.main
      · rw [hplace, hauto, slots]; exact ih.starts
      · rw [hplace, hauto, slots]; exact ih.ends

/-- **Threads are created in free slots and joined in taken ones**, in every run. -/
theorem targets (h : Reach (program setup) ok (freshState setup) s) : Targets s :=
  h.invariant (I := Targets)
    ⟨fun hq => (by cases hq), fun hq => (by cases hq), fun hq => (by cases hq)⟩
    fun hr ih _ hs => ih.step hr hs

end Orchestrator
