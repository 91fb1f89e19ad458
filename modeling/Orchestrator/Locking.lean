import Orchestrator.System
import Orchestrator.Pthread.LockSet

/-!
# The locks each thread holds

The static lock discipline of the six threads: for every program counter the mutexes that the code
around it holds, innermost first.  A printer's mutexes are the ones its argument struct names, so
what an autoscaled printer holds while it asks for paper is not what an initial one holds.
-/

namespace Orchestrator

open Pthread

def printerHeld (args : PrinterThreadArgs) : PrinterPc → List Mutex
  | .readTerminate | .readArrived | .exitSetServed => [args.simulationStateMutex]
  | .checkQueue | .exitUnlockQueue | .waitJob | .waitUnlockQueue | .checkPaper
  | .noPaperUnlockQueue | .dequeue | .emitQueueDeparture | .unlockQueue | .checkDone
  | .nextUnlockQueue => [args.jobQueueMutex]
  | .emitPaperEmpty | .appendRequest | .notifyRefiller | .checkRefilled | .waitPaper
  | .lockStateInWait | .abortUnlockRefill | .refilledUnlockRefill | .exitNotifyRefiller
  | .exitNotifyPrinters | .exitUnlockRefill => [args.paperRefillQueueMutex]
  | .readTerminateInWait => [args.simulationStateMutex, args.paperRefillQueueMutex]
  | .recordEmptyTime | .emitDeparture | .emitStats | .unlockStats => [args.statsMutex]
  | _ => []

def receiverHeld : ReceiverPc → List Mutex
  | .readTerminate | .endSetArrived => [.simulationStateMutex]
  | .emitArrival | .unlockStatsArrival | .emitDrop | .unlockStatsDrop => [.statsMutex]
  | .checkCapacity | .dropUnlockQueue | .stampQueueArrival | .enqueue | .lockStatsQueue
  | .notifyPrinters | .unlockQueue | .endNotifyPrinters | .endUnlockQueue => [.jobQueueMutex]
  | .emitQueueArrival | .unlockStatsQueue => [.statsMutex, .jobQueueMutex]
  | _ => []

def refillerHeld : RefillerPc → List Mutex
  | .lockState | .checkFlags | .exitNotifyPrinters | .exitUnlockRefill | .checkRequests
  | .waitRequest | .popRequest | .unlockRefill | .skipNotifyPrinters | .skipUnlockRefill
  | .doneNotifyPrinters | .doneUnlockRefill => [.paperRefillQueueMutex]
  | .readFlags => [.simulationStateMutex, .paperRefillQueueMutex]
  | .recordRefill | .emitStats | .unlockStats => [.statsMutex]
  | _ => []

def stopHeld : StopPc → List Mutex
  | .setFlags => [.simulationStateMutex]
  | .emitStopped | .unlockStats => [.statsMutex]
  | .lockStatsDrain | .unlockQueue => [.jobQueueMutex]
  | .drain | .notifyPrinters | .unlockStatsDrain => [.statsMutex, .jobQueueMutex]
  | .notifyWaiting | .notifyRefiller | .unlockRefill => [.paperRefillQueueMutex]
  | _ => []

def autoscalerHeld : AutoscalerPc → List Mutex
  | .readFlags => [.simulationStateMutex]
  | .readLength => [.jobQueueMutex]
  | .upReadLength | .downReadLength => [.jobQueueMutex, .poolMutex]
  | .lockState | .lockQueue | .readClock | .lockPoolUp | .lockPoolDown | .upLockPool
  | .downLockPool | .downJoin | .downRelockPool | .sleep | .exit => []
  | _ => [.poolMutex]

/-- The mutexes the code of a thread holds at a program counter. -/
def heldBy : (t : Tid) → PrinterThreadArgs → Pc t → List Mutex
  | .main, _ => fun _ => []
  | .stopper, _ => stopHeld
  | .receiver, _ => receiverHeld
  | .refiller, _ => refillerHeld
  | .autoscaler, _ => autoscalerHeld
  | .printer _, args => printerHeld args

/-- The arguments threads are created with. -/
def IsThreadArgs (args : PrinterThreadArgs) : Prop :=
  args = sharedPrinterArgs ∨ args = scaleUpSharedArgs

variable (setup : Setup)

/-! ## Every instruction keeps to the discipline -/

lemma printer_respects (i : Slot) (args : PrinterThreadArgs) (q : PrinterPc) :
    (printerCode setup i args q).Respects (printerHeld args) q := by
  cases q with
  | checkQueue => intro d; simp only; split <;> (try split) <;> rfl
  | checkPaper | checkRefilled | checkDone => intro d; simp only; split <;> rfl
  | readTerminateInWait => intro d; simp only; split <;> rfl
  | waitJob | waitPaper => exact ⟨List.mem_singleton.mpr rfl, rfl⟩
  | _ => first | rfl | exact fun _ => rfl

lemma receiver_respects (q : ReceiverPc) :
    (receiverCode setup q).Respects receiverHeld q := by
  cases q with
  | nextJob | checkCapacity | readTerminate => intro d; simp only; split <;> rfl
  | _ => first | rfl | exact fun _ => rfl

lemma refiller_respects (q : RefillerPc) :
    (refillerCode setup q).Respects refillerHeld q := by
  cases q with
  | checkFlags | checkRequests | computeNeed => intro d; simp only; split <;> rfl
  | waitRequest => exact ⟨List.mem_singleton.mpr rfl, rfl⟩
  | _ => first | rfl | exact fun _ => rfl

lemma stop_respects (q : StopPc) : (stopCode setup q).Respects stopHeld q := by
  cases q with
  | drain => intro d; simp only; split <;> rfl
  | done => simp only [stopCode]; split <;> first | rfl | exact fun _ => rfl
  | _ => first | rfl | exact fun _ => rfl

lemma autoscaler_respects (q : AutoscalerPc) :
    (autoscalerCode setup q).Respects autoscalerHeld q := by
  cases q with
  | readFlags | decideUp | decideDown | upChooseId | upCheckSlot =>
      intro d; simp only; split <;> rfl
  | downChoose => intro d; simp only; split <;> (try split) <;> rfl
  | upCreate => exact ⟨rfl, rfl⟩
  | _ => first | rfl | exact fun _ => rfl

lemma main_respects (q : MainPc) : (mainCode setup q).Respects (fun _ => []) q := by
  cases q with
  | createReceiver | createRefiller | createPrinter | createAutoscaler | createStopper =>
      exact ⟨rfl, rfl⟩
  | _ => first | rfl | exact fun _ => rfl

/-! ## Nothing is locked twice -/

lemma printerHeld_nodup {args : PrinterThreadArgs} (h : IsThreadArgs args) (q : PrinterPc) :
    (printerHeld args q).Nodup := by
  rcases h with rfl | rfl <;> cases q <;> decide

lemma heldBy_nodup {args : PrinterThreadArgs} (h : IsThreadArgs args) (t : Tid) (q : Pc t) :
    (heldBy t args q).Nodup := by
  cases t with
  | printer i => exact printerHeld_nodup h q
  | main => exact List.nodup_nil
  | stopper => show (stopHeld q).Nodup; cases q <;> decide
  | receiver => show (receiverHeld q).Nodup; cases q <;> decide
  | refiller => show (refillerHeld q).Nodup; cases q <;> decide
  | autoscaler => show (autoscalerHeld q).Nodup; cases q <;> decide

/-! ## Which threads are created, and with what -/

/-- What the main thread creates, and with what. -/
lemma main_spawned {q : MainPc} {d : Data} {u : Tid} {args : PrinterThreadArgs}
    (h : (mainCode setup q).spawns d = some (u, args)) :
    args = sharedPrinterArgs ∧
      ((u = .receiver ∨ u = .refiller ∨ u = .autoscaler ∨ u = .stopper) ∨
        (q = .createPrinter ∧ ∃ i, slotOfIndex (d.mainI - 1) = some i ∧ u = .printer i)) := by
  cases q with
  | createPrinter =>
      obtain ⟨v, hv, hp⟩ := Option.map_eq_some_iff.mp h
      obtain ⟨i, hi, rfl⟩ := Option.map_eq_some_iff.mp hv
      obtain ⟨rfl, rfl⟩ := Prod.mk.inj hp
      exact ⟨rfl, .inr ⟨rfl, i, hi, rfl⟩⟩
  | createReceiver | createRefiller | createAutoscaler | createStopper =>
      obtain ⟨rfl, rfl⟩ := Prod.mk.inj (Option.some.inj h)
      exact ⟨rfl, .inl (by simp)⟩
  | _ => cases h

/-- The autoscaler creates printers, in one place. -/
lemma autoscaler_spawned {q : AutoscalerPc} {d : Data} {u : Tid} {args : PrinterThreadArgs}
    (h : (autoscalerCode setup q).spawns d = some (u, args)) :
    args = scaleUpSharedArgs ∧ q = .upCreate ∧
      ∃ i, slotOfIndex (d.autoscaler.newPrinterId - 1) = some i ∧ u = .printer i := by
  cases q with
  | upCreate =>
      obtain ⟨v, hv, hp⟩ := Option.map_eq_some_iff.mp h
      obtain ⟨i, hi, rfl⟩ := Option.map_eq_some_iff.mp hv
      obtain ⟨rfl, rfl⟩ := Prod.mk.inj hp
      exact ⟨rfl, rfl, i, hi, rfl⟩
  | _ => cases h

/-- The other threads create nobody. -/
lemma others_spawn_none (t : Tid) (args : PrinterThreadArgs) (q : Pc t) (d : Data)
    (hm : t ≠ .main) (ha : t ≠ .autoscaler) : ((program setup).code t args q).spawns d = none := by
  cases t with
  | main => exact absurd rfl hm
  | autoscaler => exact absurd rfl ha
  | stopper =>
      show (stopCode setup q).spawns d = none
      cases q with
      | done => simp only [stopCode]; split <;> rfl
      | _ => rfl
  | receiver => show (receiverCode setup q).spawns d = none; cases q <;> rfl
  | refiller => show (refillerCode setup q).spawns d = none; cases q <;> rfl
  | printer i => show (printerCode setup i args q).spawns d = none; cases q <;> rfl

/-- Every thread is created with one of the two argument structs. -/
lemma spawns_args (t : Tid) (args : PrinterThreadArgs) (q : Pc t) (d : Data) {u : Tid}
    {args' : PrinterThreadArgs} (h : ((program setup).code t args q).spawns d = some (u, args')) :
    IsThreadArgs args' := by
  by_cases hm : t = .main
  · subst hm
    exact .inl (main_spawned setup h).1
  by_cases ha : t = .autoscaler
  · subst ha
    exact .inr (autoscaler_spawned setup h).1
  rw [others_spawn_none setup t args q d hm ha] at h
  cases h

/-! ## The discipline -/

/-- **The lock discipline of the orchestrator.** -/
def lockDiscipline : Discipline (program setup) where
  argOk _ args := IsThreadArgs args
  held := heldBy
  nodup t args q hargs := heldBy_nodup hargs t q
  entry t args _ := by cases t <;> rfl
  respects t args q _ := by
    cases t with
    | main => exact main_respects setup q
    | stopper => exact stop_respects setup q
    | receiver => exact receiver_respects setup q
    | refiller => exact refiller_respects setup q
    | autoscaler => exact autoscaler_respects setup q
    | printer i => exact printer_respects setup i args q
  spawns t args q _ d u args' h := spawns_args setup t args q d h

/-! ## The waits -/

variable {setup} {t : Tid} {args : PrinterThreadArgs} {q next : Pc t} {c : Cond} {m : Mutex}

/-- **Only the printers and the refiller wait** on a condition. -/
lemma waiter_cases (h : (program setup).code t args q = .wait c m next) :
    (∃ i, t = .printer i) ∨ t = .refiller := by
  cases t with
  | printer i => exact .inl ⟨i, rfl⟩
  | refiller => exact .inr rfl
  | main | receiver | autoscaler => cases q <;> cases h
  | stopper =>
      cases q with
      | done =>
          simp only [program, code, stopCode] at h
          split at h <;> cases h
      | _ => cases h

/-- A thread waits on a condition with one mutex only, and has it again behind the wait. -/
lemma wait_held (h : (program setup).code t args q = .wait c m next) :
    heldBy t args q = [m] ∧ heldBy t args next = [m] := by
  rcases waiter_cases h with ⟨i, rfl⟩ | rfl
  · cases q <;> cases h <;> exact ⟨rfl, rfl⟩
  · cases q <;> cases h
    exact ⟨rfl, rfl⟩

end Orchestrator
