import Orchestrator.Flags
import Orchestrator.Pthread.Quota
import Orchestrator.QueueLedger
import Orchestrator.Reports
import Orchestrator.ServiceTimes

/-!
# How much still happens after a stop request

Every thread reads `g_terminate_now` once a round, so each finishes at most the round it is in.

* `Event.reporter` — the thread a log event can come from.
* `arrivalQuota`, `dropQuota`, `joinQuota`, `receptionQuota`, `departureQuota`, `refillQuota`,
  `scalingQuota` — what each thread owes at most once the flag is set.
* `stop_bounds_work` — from then on the log has at most one more arrival, one more drop, one more
  job for each printer, one more refill and one more change of the pool.
-/

namespace Orchestrator

open Pthread

/-! ## Who reports what -/

/-- The thread of a printer. -/
def Printer.thread (printer : Printer) : Option Tid :=
  (slotOfIndex ((printer.id : Int) - 1)).map .printer

/-- The thread an event comes from, where the event tells. -/
def Event.reporter : Event → Option Tid
  | .systemArrival _ _ | .droppedJob _ _ | .queueArrival _ _ | .jobUpdate _ => some .receiver
  | .paperRefillStart _ _ _ _ | .paperRefillEnd _ _ _ => some .refiller
  | .scaleUp _ _ _ | .scaleDown _ _ _ => some .autoscaler
  | .removedJob _ | .simulationStopped => some .stopper
  | .simulationParameters _ | .simulationStart | .simulationEnd | .statistics => some .main
  | .printerArrival _ printer | .systemDeparture _ printer | .printerBusy printer _
  | .paperEmpty printer _ _ | .printerWaitingRefill printer => printer.thread
  | .queueDeparture _ _ | .jobsUpdate | .statsUpdate _ | .printerIdle _ => none

variable {setup : Setup} {d d' : Data}

/-- The thread of the printer in a slot. -/
lemma slot_thread (hids : IdsKept d.reportView) (i : Slot) :
    (d.slot i).thread = some (.printer i) := by
  have hid : (d.slot i).id = i + 1 := hids i
  rw [Printer.thread, hid, slotOfIndex_id]
  rfl

/-- **Every event comes from its reporter.** -/
lemma reporter_of_mem {t : Tid} {q : Pc t} (hids : IdsKept d.reportView) {e : Event}
    (he : e ∈ reports setup t q d) : e.reporter = none ∨ e.reporter = some t := by
  cases t with
  | main =>
      change e ∈ mainReports setup d q at he
      cases q <;> simp [mainReports, startedReports] at he <;> grind [Event.reporter]
  | stopper =>
      change e ∈ stopReports d q at he
      cases q <;> simp [stopReports] at he <;> grind [Event.reporter]
  | receiver =>
      change e ∈ receiverReports d q at he
      cases q <;> simp [receiverReports] at he <;> grind [Event.reporter]
  | refiller =>
      change e ∈ refillerReports setup d q at he
      cases q <;> simp [refillerReports] at he <;> grind [Event.reporter]
  | autoscaler =>
      change e ∈ autoscalerReports d q at he
      cases q <;> simp [autoscalerReports, startedReports] at he <;> grind [Event.reporter]
  | printer i =>
      have hslot := slot_thread hids i
      have hcount : Printer.thread
          { d.slot i with jobsPrintedCount := (d.slot i).jobsPrintedCount + 1 } =
            some (.printer i) := hslot
      change e ∈ printerReports setup i d q at he
      cases q <;> simp [printerReports] at he <;> grind [Event.reporter]

/-! ## Counting events -/

/-- How many events of a kind are in the log. -/
def Data.reported (d : Data) (kind : Event → Bool) : ℕ := d.emitted.countP kind

lemma reported_of_goes {t : Tid} {args : PrinterThreadArgs} {q q' : Pc t} (kind : Event → Bool)
    (h : ((program setup).code t args q).Goes d d' q') :
    d'.reported kind = (reports setup t q d).countP kind + d.reported kind := by
  rw [Data.reported, emitted_of_goes h, List.countP_append]
  rfl

/-- Nobody but its reporter reports an event. -/
lemma reported_other {t u : Tid} {args : PrinterThreadArgs} {q q' : Pc u} {kind : Event → Bool}
    (hids : IdsKept d.reportView) (hkind : ∀ e, kind e = true → e.reporter = some t) (hne : u ≠ t)
    (h : ((program setup).code u args q).Goes d d' q') : d'.reported kind = d.reported kind := by
  rw [reported_of_goes kind h, Nat.add_eq_right, List.countP_eq_zero]
  intro e he hk
  rcases reporter_of_mem hids he with hnone | hsome
  · rw [hkind e hk] at hnone
    cases hnone
  · rw [hkind e hk] at hsome
    exact hne (Option.some.inj hsome).symm

/-! ## Quotas -/

/-- A stop was requested. -/
structure Stopping (d : Data) : Prop where
  requested : d.gTerminateNow = true
  ids : IdsKept d.reportView

/-- The quota of a thread for the events of a kind. -/
def stopQuota (setup : Setup) {t : Tid} (kind : Event → Bool) (owed : Pc t → Data → ℕ)
    (reporter : ∀ e, kind e = true → e.reporter = some t)
    (own : ∀ args q d d' q', Stopping d → ((program setup).code t args q).Goes d d' q' →
      (reports setup t q d).countP kind + owed q' d' ≤ owed q d)
    (other : ∀ u args q d d' q', u ≠ t → ((program setup).code u args q).Goes d d' q' →
      ∀ r, owed r d' = owed r d)
    (env : ∀ (e : Env) d r, owed r (e.apply d) = owed r d)
    (entry : ∀ d, owed ((program setup).entry t) d = 0) : Pthread.Quota (program setup) t where
  closing := Stopping
  count d := d.reported kind
  owed := owed
  own args q d d' q' hstop h := by
    have howed := own args q d d' q' hstop h
    rw [reported_of_goes kind h]
    omega
  other u args q d d' q' hne hstop h :=
    ⟨(reported_other hstop.ids reporter hne h).le, other u args q d d' q' hne h⟩
  env e d := ⟨by cases e <;> exact Nat.le_refl _, env e d⟩
  entry := entry

/-! ## The receiver -/

namespace Event

def isArrival : Event → Bool
  | .systemArrival _ _ => true
  | _ => false

def isDrop : Event → Bool
  | .droppedJob _ _ => true
  | _ => false

def isJoin : Event → Bool
  | .queueArrival _ _ => true
  | _ => false

end Event

/-- Between the check of the flag and the report of the arrival. -/
def ReceiverPc.arriving : ReceiverPc → Bool
  | .stampArrival | .lockStatsArrival | .emitArrival => true
  | _ => false

/-- Between the check of the flag and the report of the drop. -/
def ReceiverPc.dropping : ReceiverPc → Bool
  | .stampArrival | .lockStatsArrival | .emitArrival | .unlockStatsArrival | .lockQueue
  | .checkCapacity | .dropUnlockQueue | .lockStatsDrop | .emitDrop => true
  | _ => false

/-- Between the check of the flag and the report that the job joined the queue. -/
def ReceiverPc.joining : ReceiverPc → Bool
  | .stampArrival | .lockStatsArrival | .emitArrival | .unlockStatsArrival | .lockQueue
  | .checkCapacity | .stampQueueArrival | .enqueue | .lockStatsQueue | .emitQueueArrival => true
  | _ => false

/-- The receiver turns back where it reads the flag. -/
lemma receiver_turns_back {q' : ReceiverPc} (hstop : Stopping d)
    (h : (receiverCode setup .readTerminate).Goes d d' q') : q' = .abort := by
  rw [h.2]
  exact if_pos hstop.requested

lemma arrival_owed {q q' : ReceiverPc} (hstop : Stopping d)
    (h : (receiverCode setup q).Goes d d' q') :
    (receiverReports d q).countP Event.isArrival + q'.arriving.toNat ≤ q.arriving.toNat := by
  cases q with
  | exit => exact h.elim
  | readTerminate => rw [receiver_turns_back hstop h]; exact Nat.le_refl _
  | nextJob | checkCapacity => rw [h.2]; beta_reduce; split <;> exact Nat.le_of_ble_eq_true rfl
  | _ => rw [h.2]; exact Nat.le_of_ble_eq_true rfl

lemma drop_owed {q q' : ReceiverPc} (hstop : Stopping d)
    (h : (receiverCode setup q).Goes d d' q') :
    (receiverReports d q).countP Event.isDrop + q'.dropping.toNat ≤ q.dropping.toNat := by
  cases q with
  | exit => exact h.elim
  | readTerminate => rw [receiver_turns_back hstop h]; exact Nat.le_refl _
  | nextJob | checkCapacity => rw [h.2]; beta_reduce; split <;> exact Nat.le_of_ble_eq_true rfl
  | _ => rw [h.2]; exact Nat.le_of_ble_eq_true rfl

lemma join_owed {q q' : ReceiverPc} (hstop : Stopping d)
    (h : (receiverCode setup q).Goes d d' q') :
    (receiverReports d q).countP Event.isJoin + q'.joining.toNat ≤ q.joining.toNat := by
  cases q with
  | exit => exact h.elim
  | readTerminate => rw [receiver_turns_back hstop h]; exact Nat.le_refl _
  | nextJob | checkCapacity => rw [h.2]; beta_reduce; split <;> exact Nat.le_of_ble_eq_true rfl
  | _ => rw [h.2]; exact Nat.le_of_ble_eq_true rfl

/-- At most one more job arrives. -/
def arrivalQuota (setup : Setup) : Pthread.Quota (program setup) .receiver :=
  stopQuota setup Event.isArrival (fun q _ => q.arriving.toNat)
    (fun e he => by cases e <;> first | rfl | cases he)
    (fun _ _ _ _ _ => arrival_owed) (fun _ _ _ _ _ _ _ _ _ => rfl) (fun _ _ _ => rfl) fun _ => rfl

/-- At most one more job is dropped. -/
def dropQuota (setup : Setup) : Pthread.Quota (program setup) .receiver :=
  stopQuota setup Event.isDrop (fun q _ => q.dropping.toNat)
    (fun e he => by cases e <;> first | rfl | cases he)
    (fun _ _ _ _ _ => drop_owed) (fun _ _ _ _ _ _ _ _ _ => rfl) (fun _ _ _ => rfl) fun _ => rfl

/-- At most one more job joins the queue. -/
def joinQuota (setup : Setup) : Pthread.Quota (program setup) .receiver :=
  stopQuota setup Event.isJoin (fun q _ => q.joining.toNat)
    (fun e he => by cases e <;> first | rfl | cases he)
    (fun _ _ _ _ _ => join_owed) (fun _ _ _ _ _ _ _ _ _ => rfl) (fun _ _ _ => rfl) fun _ => rfl

/-! ## The printers -/

namespace Event

variable (i : Slot)

def isReceptionBy : Event → Bool
  | .printerArrival _ printer => printer.thread == some (.printer i)
  | _ => false

def isDepartureFrom : Event → Bool
  | .systemDeparture _ printer => printer.thread == some (.printer i)
  | _ => false

end Event

/-- Between the check of the flag and the report that the job reached the printer. -/
def PrinterPc.receiving : PrinterPc → Bool → Bool
  | .lockQueue, terminate | .checkQueue, terminate => !terminate
  | .checkPaper, _ | .dequeue, _ | .emitQueueDeparture, _ | .unlockQueue, _ | .emitArrival, _ =>
      true
  | _, _ => false

/-- Between the check of the flag and the report that the job left the system. -/
def PrinterPc.serving (q : PrinterPc) (terminate : Bool) : Bool :=
  match q with
  | .markBusy | .emitBusy | .service | .usePaper | .markIdle | .emitIdle | .lockStats
  | .emitDeparture => true
  | _ => q.receiving terminate

/-- A printer turns back where it reads the flag. -/
lemma printer_turns_back {i : Slot} {args : PrinterThreadArgs} {q' : PrinterPc}
    (hstop : Stopping d) (h : (printerCode setup i args .readTerminate).Goes d d' q') :
    (d'.printer i).terminate = true := by
  rw [h.1, Data.modifyLocals_printer_self]
  exact hstop.requested

lemma reception_owed {i : Slot} {args : PrinterThreadArgs} {q q' : PrinterPc}
    (hstop : Stopping d) (h : (printerCode setup i args q).Goes d d' q') :
    (printerReports setup i d q).countP (Event.isReceptionBy i) +
        (q'.receiving (d'.printer i).terminate).toNat ≤
      (q.receiving (d.printer i).terminate).toNat := by
  cases q with
  | exit => exact h.elim
  | readTerminate =>
      have hterm := printer_turns_back hstop h
      rw [h.2, hterm]
      exact Nat.le_refl _
  | lockQueue => obtain ⟨rfl, rfl⟩ := h; exact (Nat.zero_add _).le
  | checkQueue =>
      obtain ⟨rfl, rfl⟩ := h
      cases hterm : (d'.printer i).terminate with
      | true => simp [printerReports, PrinterPc.receiving, hterm]
      | false =>
          refine (Nat.zero_add _).le.trans ?_
          exact Bool.toNat_le _
  | emitArrival =>
      rw [h.2]
      exact List.countP_le_length
  | checkPaper | readTerminateInWait | checkRefilled | checkDone =>
      rw [h.2]
      beta_reduce
      split <;> exact Nat.le_of_ble_eq_true rfl
  | _ => rw [h.2]; exact Nat.le_of_ble_eq_true rfl

lemma departure_owed {i : Slot} {args : PrinterThreadArgs} {q q' : PrinterPc}
    (hstop : Stopping d) (h : (printerCode setup i args q).Goes d d' q') :
    (printerReports setup i d q).countP (Event.isDepartureFrom i) +
        (q'.serving (d'.printer i).terminate).toNat ≤
      (q.serving (d.printer i).terminate).toNat := by
  cases q with
  | exit => exact h.elim
  | readTerminate =>
      have hterm := printer_turns_back hstop h
      rw [h.2, hterm]
      exact Nat.le_refl _
  | lockQueue => obtain ⟨rfl, rfl⟩ := h; exact (Nat.zero_add _).le
  | checkQueue =>
      obtain ⟨rfl, rfl⟩ := h
      cases hterm : (d'.printer i).terminate with
      | true => simp [printerReports, PrinterPc.serving, PrinterPc.receiving, hterm]
      | false =>
          refine (Nat.zero_add _).le.trans ?_
          exact Bool.toNat_le _
  | emitDeparture =>
      rw [h.2]
      exact List.countP_le_length
  | checkPaper | readTerminateInWait | checkRefilled | checkDone =>
      rw [h.2]
      beta_reduce
      split <;> exact Nat.le_of_ble_eq_true rfl
  | _ => rw [h.2]; exact Nat.le_of_ble_eq_true rfl

/-- A printer's flag is its own. -/
lemma terminate_other {i : Slot} {u : Tid} {args : PrinterThreadArgs} {q q' : Pc u}
    (hne : u ≠ .printer i) (h : ((program setup).code u args q).Goes d d' q') :
    (d'.printer i).terminate = (d.printer i).terminate :=
  congrArg PrinterLocals.terminate ((other_locals h hne.symm).2 i rfl)

lemma terminate_env (i : Slot) (e : Env) (d : Data) :
    ((e.apply d).printer i).terminate = (d.printer i).terminate := by
  cases e <;> rfl

/-- At most one more job reaches the printer. -/
def receptionQuota (setup : Setup) (i : Slot) : Pthread.Quota (program setup) (.printer i) :=
  stopQuota setup (Event.isReceptionBy i)
    (fun q d => (q.receiving (d.printer i).terminate).toNat)
    (fun e he => by cases e <;> first | exact beq_iff_eq.mp he | cases he)
    (fun _ _ _ _ _ => reception_owed)
    (fun _ _ _ _ _ _ hne h r => congrArg (fun b => (r.receiving b).toNat) (terminate_other hne h))
    (fun e d r => congrArg (fun b => (r.receiving b).toNat) (terminate_env i e d)) fun _ => rfl

/-- At most one more job leaves the system at the printer. -/
def departureQuota (setup : Setup) (i : Slot) : Pthread.Quota (program setup) (.printer i) :=
  stopQuota setup (Event.isDepartureFrom i)
    (fun q d => (q.serving (d.printer i).terminate).toNat)
    (fun e he => by cases e <;> first | exact beq_iff_eq.mp he | cases he)
    (fun _ _ _ _ _ => departure_owed)
    (fun _ _ _ _ _ _ hne h r => congrArg (fun b => (r.serving b).toNat) (terminate_other hne h))
    (fun e d r => congrArg (fun b => (r.serving b).toNat) (terminate_env i e d)) fun _ => rfl

/-! ## The refiller and the autoscaler -/

namespace Event

def isRefill : Event → Bool
  | .paperRefillStart _ _ _ _ => true
  | _ => false

def isScaling : Event → Bool
  | .scaleUp _ _ _ | .scaleDown _ _ _ => true
  | _ => false

end Event

/-- Between the check of the flags and the report of the refill. -/
def RefillerPc.refilling : RefillerPc → Bool → Bool
  | .checkFlags, turnsBack => !turnsBack
  | .checkRequests, _ | .popRequest, _ | .unlockRefill, _ | .computeNeed, _ | .emitStart, _ => true
  | _, _ => false

/-- The condition on which the refiller turns back. -/
def RefillerLocals.turnsBack (r : RefillerLocals) : Bool := r.terminateNow || r.areAllJobsServed

/-- Between the check of the flags and the report of the scaling. -/
def AutoscalerPc.scaling : AutoscalerPc → Bool
  | .lockQueue | .readLength | .readClock | .lockPoolUp | .decideUp | .lockPoolDown | .decideDown
  | .upLockPool | .upChooseId | .upLockQueue | .upReadLength | .upEmit | .downLockPool
  | .downChoose | .downCancel | .downUnlockPool | .downJoin | .downRelockPool | .downMarkStopped
  | .downLockQueue | .downReadLength | .downEmit => true
  | _ => false

lemma refill_owed {q q' : RefillerPc} (hstop : Stopping d)
    (h : (refillerCode setup q).Goes d d' q') :
    (refillerReports setup d q).countP Event.isRefill + (q'.refilling d'.refiller.turnsBack).toNat ≤
      (q.refilling d.refiller.turnsBack).toNat := by
  cases q with
  | exit => exact h.elim
  | readFlags =>
      have hterm : d'.refiller.turnsBack = true := by
        rw [h.1]
        exact Bool.or_eq_true_iff.mpr (.inl hstop.requested)
      rw [h.2, hterm]
      exact Nat.le_refl _
  | checkFlags =>
      obtain ⟨rfl, rfl⟩ := h
      cases hterm : d'.refiller.turnsBack with
      | true =>
          have hor : (d'.refiller.terminateNow || d'.refiller.areAllJobsServed) = true := hterm
          simp [refillerReports, RefillerPc.refilling, hor]
      | false =>
          refine (Nat.zero_add _).le.trans ?_
          exact Bool.toNat_le _
  | emitStart =>
      rw [h.2]
      exact List.countP_le_length.trans Option.length_toList_le
  | checkRequests | computeNeed =>
      rw [h.2]
      beta_reduce
      split <;> exact Nat.le_of_ble_eq_true rfl
  | emitEnd =>
      rw [h.2]
      cases hp : d.refiller.printer <;> simp [refillerReports, hp] <;> rfl
  | _ => rw [h.2]; exact Nat.le_of_ble_eq_true rfl

lemma scaling_owed {q q' : AutoscalerPc} (hstop : Stopping d)
    (h : (autoscalerCode setup q).Goes d d' q') :
    (autoscalerReports d q).countP Event.isScaling + q'.scaling.toNat ≤ q.scaling.toNat := by
  cases q with
  | exit => exact h.elim
  | readFlags =>
      have hterm : (Autoscaler.readFlags d).autoscaler.terminate = true :=
        Bool.or_eq_true_iff.mpr (.inl hstop.requested)
      have hq : q' = .exit := by rw [h.2]; exact if_pos hterm
      rw [hq]
      exact Nat.le_refl _
  | decideUp | decideDown | upChooseId | upCheckSlot =>
      rw [h.2]
      beta_reduce
      split <;> exact Nat.le_of_ble_eq_true rfl
  | downChoose =>
      rw [h.2]
      beta_reduce
      split
      · exact Nat.le_of_ble_eq_true rfl
      · split <;> exact Nat.le_of_ble_eq_true rfl
  | upCreate => rcases h.2 with hq | hq <;> rw [hq] <;> exact Nat.le_of_ble_eq_true rfl
  | upEmitIdle =>
      rw [h.2]
      change (startedReports d.autoscaler.newPrinterId d).countP _ + 0 ≤ 0
      rw [startedReports]
      cases slotOfIndex (d.autoscaler.newPrinterId - 1) <;> exact Nat.le_refl _
  | _ => rw [h.2]; exact Nat.le_of_ble_eq_true rfl

/-- The refiller's flags are its own. -/
lemma over_other {u : Tid} {args : PrinterThreadArgs} {q q' : Pc u} (hne : u ≠ .refiller)
    (h : ((program setup).code u args q).Goes d d' q') :
    d'.refiller.turnsBack = d.refiller.turnsBack := by
  cases u with
  | refiller => exact absurd rfl hne
  | main => rw [(main_locals h).2.1]
  | stopper => rw [(stop_locals h).2.1]
  | receiver => rw [(receiver_locals h).1]
  | autoscaler => rw [(autoscaler_locals h).2.1]
  | printer i => rw [(printer_locals h).2.1]

/-- At most one more refill starts. -/
def refillQuota (setup : Setup) : Pthread.Quota (program setup) .refiller :=
  stopQuota setup Event.isRefill (fun q d => (q.refilling d.refiller.turnsBack).toNat)
    (fun e he => by cases e <;> first | rfl | cases he)
    (fun _ _ _ _ _ => refill_owed)
    (fun _ _ _ _ _ _ hne h r => congrArg (fun b => (r.refilling b).toNat) (over_other hne h))
    (fun e _ _ => by cases e <;> rfl) fun _ => rfl

/-- The pool is scaled at most once more. -/
def scalingQuota (setup : Setup) : Pthread.Quota (program setup) .autoscaler :=
  stopQuota setup Event.isScaling (fun q _ => q.scaling.toNat)
    (fun e he => by cases e <;> first | rfl | cases he)
    (fun _ _ _ _ _ => scaling_owed) (fun _ _ _ _ _ _ _ _ _ => rfl) (fun _ _ _ => rfl)
    fun _ => rfl

/-! ## After the request -/

/-- What the log can gain from one state to a later one. -/
structure OneMore (d d' : Data) : Prop where
  arrivals : d'.reported Event.isArrival ≤ d.reported Event.isArrival + 1
  drops : d'.reported Event.isDrop ≤ d.reported Event.isDrop + 1
  joins : d'.reported Event.isJoin ≤ d.reported Event.isJoin + 1
  receptions : ∀ i, d'.reported (Event.isReceptionBy i) ≤ d.reported (Event.isReceptionBy i) + 1
  departures : ∀ i, d'.reported (Event.isDepartureFrom i) ≤
    d.reported (Event.isDepartureFrom i) + 1
  refills : d'.reported Event.isRefill ≤ d.reported Event.isRefill + 1
  scalings : d'.reported Event.isScaling ≤ d.reported Event.isScaling + 1

variable {s s' : Sys} {ok : Sys → SysAction → Prop}

/-- A stop request stays. -/
lemma Stopping.step {a : SysAction} (h : Stopping s.data)
    (hs : step (program setup) s a = some s') : Stopping s'.data :=
  ⟨(flags_mono hs).1 h.requested, h.ids.step hs⟩

/-- **After a stop request every thread finishes at most what it has begun.** -/
theorem stop_bounds_work (h : Reach (program setup) ok (freshState setup) s)
    (hstop : s.data.gTerminateNow = true) (h' : Reach (program setup) ok s s') :
    OneMore s.data s'.data where
  arrivals := ((arrivalQuota setup).run (fun _ => Stopping.step) h ⟨hstop, ids_kept h⟩ h').trans
    (Nat.add_le_add_left (Bool.toNat_le _) _)
  drops := ((dropQuota setup).run (fun _ => Stopping.step) h ⟨hstop, ids_kept h⟩ h').trans
    (Nat.add_le_add_left (Bool.toNat_le _) _)
  joins := ((joinQuota setup).run (fun _ => Stopping.step) h ⟨hstop, ids_kept h⟩ h').trans
    (Nat.add_le_add_left (Bool.toNat_le _) _)
  receptions i :=
    ((receptionQuota setup i).run (fun _ => Stopping.step) h ⟨hstop, ids_kept h⟩ h').trans
      (Nat.add_le_add_left (Bool.toNat_le _) _)
  departures i :=
    ((departureQuota setup i).run (fun _ => Stopping.step) h ⟨hstop, ids_kept h⟩ h').trans
      (Nat.add_le_add_left (Bool.toNat_le _) _)
  refills := ((refillQuota setup).run (fun _ => Stopping.step) h ⟨hstop, ids_kept h⟩ h').trans
    (Nat.add_le_add_left (Bool.toNat_le _) _)
  scalings := ((scalingQuota setup).run (fun _ => Stopping.step) h ⟨hstop, ids_kept h⟩ h').trans
    (Nat.add_le_add_left (Bool.toNat_le _) _)

/-- A stop request finds the receiver behind its check of the flag. -/
theorem stop_bounds_work_one_arrival :
    ∃ s s' : Sys, Reach (program defaultServer) anyChoice (freshState defaultServer) s ∧
      s.data.gTerminateNow = true ∧ Reach (program defaultServer) anyChoice s s' ∧
      s.data.reported Event.isArrival = 0 ∧ s'.data.reported Event.isArrival = 1 ∧
      OneMore s.data s'.data := by
  obtain ⟨s, hs, hterm, hzero, hrun⟩ := exists_run defaultServer anyChoice
    (runs Tid.main 20 ++ runs Tid.receiver 10 ++ runs Tid.stopper 3)
    (fun s => s.data.gTerminateNow = true ∧ s.data.reported Event.isArrival = 0 ∧
      (runTraceIf (program defaultServer) anyChoice s (runs Tid.receiver 4)).any
        (fun s' => decide (s'.data.reported Event.isArrival = 1)) = true) (by decide +kernel)
  obtain ⟨s', hs', hone⟩ := exists_reach_of_runTraceIf (runs Tid.receiver 4) hrun
  exact ⟨s, s', hs, hterm, hs', hzero, hone, stop_bounds_work hs hterm hs'⟩

end Orchestrator
