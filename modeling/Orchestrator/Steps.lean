import Orchestrator.Effects
import Orchestrator.Locking

/-!
# One step of the orchestrator

`step_move` for this program: who moved, with the program counters at their own types, and which
other threads stay where they are.  Only the main thread and the autoscaler create threads.
-/

namespace Orchestrator

open Pthread

namespace Sys

abbrev mainPc (s : Sys) : MainPc := (s.ctl .main).pc
abbrev stopPc (s : Sys) : StopPc := (s.ctl .stopper).pc
abbrev receiverPc (s : Sys) : ReceiverPc := (s.ctl .receiver).pc
abbrev refillerPc (s : Sys) : RefillerPc := (s.ctl .refiller).pc
abbrev autoscalerPc (s : Sys) : AutoscalerPc := (s.ctl .autoscaler).pc
abbrev printerPc (s : Sys) (i : Slot) : PrinterPc := (s.ctl (.printer i)).pc

/-- The pointers printer `i` was started with. -/
abbrev printerArgs (s : Sys) (i : Slot) : PrinterThreadArgs := (s.ctl (.printer i)).arg

end Sys

variable {setup : Setup} {s s' : Sys} {a : SysAction}

/-! ## Who moves -/

/-- All threads but `t` stay where they are. -/
def OthersStay (s s' : Sys) (t : Tid) : Prop :=
  ∀ u, u ≠ t → (s.ctl u).SamePlace (s'.ctl u)

/-- What a step does to memory and to the program counters. -/
inductive SysMove (setup : Setup) (s s' : Sys) : Prop where
  | quiet (data : ∃ c r k, s'.data = { s.data with clock := c, rand := r, createOk := k })
      (places : ∀ u, (s.ctl u).SamePlace (s'.ctl u))
  | main (ex : Executes (program setup) s s' .main)
      (goes : (mainCode setup s.mainPc).Goes s.data s'.data s'.mainPc)
  | stopper (ex : Executes (program setup) s s' .stopper)
      (goes : (stopCode setup s.stopPc).Goes s.data s'.data s'.stopPc)
      (others : OthersStay s s' .stopper)
  | receiver (ex : Executes (program setup) s s' .receiver)
      (goes : (receiverCode setup s.receiverPc).Goes s.data s'.data s'.receiverPc)
      (others : OthersStay s s' .receiver)
  | refiller (ex : Executes (program setup) s s' .refiller)
      (goes : (refillerCode setup s.refillerPc).Goes s.data s'.data s'.refillerPc)
      (others : OthersStay s s' .refiller)
  | autoscaler (ex : Executes (program setup) s s' .autoscaler)
      (goes : (autoscalerCode setup s.autoscalerPc).Goes s.data s'.data s'.autoscalerPc)
  | printer (i : Slot) (ex : Executes (program setup) s s' (.printer i))
      (goes : (printerCode setup i (s.printerArgs i) (s.printerPc i)).Goes s.data s'.data
        (s'.printerPc i))
      (others : OthersStay s s' (.printer i))

/-! ## Who creates whom -/

/-- The threads that `t` may create at `q`. -/
lemma spawns_cases {t : Tid} {args args' : PrinterThreadArgs} {q : Pc t} {d : Data} {u : Tid}
    (h : ((program setup).code t args q).spawns d = some (u, args')) :
    (t = .main ∧ (u = .receiver ∨ u = .refiller ∨ u = .autoscaler ∨ u = .stopper)) ∨
      ((t = .main ∨ t = .autoscaler) ∧ ∃ i, u = .printer i) := by
  by_cases hm : t = .main
  · subst hm
    rcases (main_spawned setup h).2 with hu | ⟨_, i, _, hu⟩
    · exact .inl ⟨rfl, hu⟩
    · exact .inr ⟨.inl rfl, i, hu⟩
  by_cases ha : t = .autoscaler
  · subst ha
    obtain ⟨_, _, i, _, hu⟩ := autoscaler_spawned setup h
    exact .inr ⟨.inr rfl, i, hu⟩
  rw [others_spawn_none setup t args q d hm ha] at h
  cases h

/-- Threads other than the main thread and the autoscaler create nobody. -/
lemma others_stay {t : Tid} (ex : Executes (program setup) s s' t) (hm : t ≠ .main)
    (ha : t ≠ .autoscaler) : OthersStay s s' t := fun u hu => by
  rcases ex.other_place hu with h | h
  · exact h
  · rcases spawns_cases h.spawned with ⟨rfl, _⟩ | ⟨rfl | rfl, _⟩
    · exact absurd rfl hm
    · exact absurd rfl hm
    · exact absurd rfl ha

/-- **Step inversion for the orchestrator.** -/
theorem sys_move (h : step (program setup) s a = some s') : SysMove setup s s' := by
  cases step_move h with
  | idle data places => exact .quiet ⟨_, _, _, data⟩ places
  | env e data places =>
      refine .quiet ?_ places
      cases e with
      | tick t => exact ⟨_, _, _, data⟩
      | rand r => exact ⟨_, _, _, data⟩
      | createResult ok => exact ⟨_, _, _, data⟩
  | exec t ex =>
      cases t with
      | main => exact .main ex ex.goes
      | stopper => exact .stopper ex ex.goes (others_stay ex (by simp) (by simp))
      | receiver => exact .receiver ex ex.goes (others_stay ex (by simp) (by simp))
      | refiller => exact .refiller ex ex.goes (others_stay ex (by simp) (by simp))
      | autoscaler => exact .autoscaler ex ex.goes
      | printer i => exact .printer i ex ex.goes (others_stay ex (by simp) (by simp))

/-! ## Threads that are started once -/

/-- How many of the four threads below the main thread has come past the creation of. -/
def MainPc.stage : MainPc → ℕ
  | .emitParameters | .emitStart | .createReceiver => 0
  | .createRefiller => 1
  | .startPrinters | .nextPrinter | .checkSlot | .createPrinter | .markStarted | .emitIdle
  | .countPrinter | .checkAutoscaling | .createAutoscaler => 2
  | .createStopper => 3
  | _ => 4

/-- The stage whose end creates the thread.  The server has its stop handler from the beginning. -/
def createdAfter (setup : Setup) : Tid → Option ℕ
  | .receiver => some 0
  | .refiller => some 1
  | .autoscaler => some 2
  | .stopper => match setup.mode with
    | .terminal => some 3
    | .server => none
  | _ => none

/-- The main thread never comes back to an earlier stage. -/
lemma main_stage {d d' : Data} {q q' : MainPc} (h : (mainCode setup q).Goes d d' q') :
    q.stage ≤ q'.stage := by
  cases q with
  | exit => exact h.elim
  | createReceiver | createRefiller | createPrinter | createStopper =>
      obtain ⟨_, rfl | rfl⟩ := h <;> decide
  | createAutoscaler =>
      obtain ⟨_, rfl | rfl⟩ := h
      · split <;> decide
      · decide
  | nextPrinter | checkSlot =>
      obtain ⟨_, rfl⟩ := h
      simp only
      split <;> decide
  | checkJoin | checkAutoscaling | checkAutoscalingEnd =>
      obtain ⟨_, rfl⟩ := h
      simp only
      split <;> (try split) <;> decide
  | joinAutoscaler =>
      obtain ⟨_, rfl⟩ := h
      split <;> decide
  | _ => obtain ⟨_, rfl⟩ := h; simp [MainPc.stage]

/-- Until the main thread creates it, a thread is absent and at its entry. -/
def Unstarted (setup : Setup) (s : Sys) : Prop :=
  ∀ u n, createdAfter setup u = some n → s.mainPc.stage ≤ n →
    (s.ctl u).status = .absent ∧ (s.ctl u).pc = entry u ∧ (s.ctl u).arg = sharedPrinterArgs

lemma unstarted_fresh (setup : Setup) : Unstarted setup (freshState setup) := by
  intro u n hu _
  cases u with
  | main | printer i => cases hu
  | stopper =>
      refine ⟨?_, rfl, rfl⟩
      cases hm : setup.mode <;> simp_all [createdAfter, freshState]
  | receiver | refiller | autoscaler => exact ⟨rfl, rfl, rfl⟩

/-- A step of the main thread that creates `u` ends the stage before which `u` is absent. -/
lemma main_spawns {args : PrinterThreadArgs} {d : Data} {q : MainPc} {u : Tid} {n : ℕ}
    (hs : (mainCode setup q).spawns d = some (u, args)) (hu : createdAfter setup u = some n) :
    q.stage = n ∧ args = sharedPrinterArgs ∧
      ∀ d' q', (mainCode setup q).Goes d d' q' → n < q'.stage := by
  cases q with
  | createReceiver | createRefiller =>
      obtain ⟨rfl, rfl⟩ := Prod.mk.inj (Option.some.inj hs)
      cases hu
      exact ⟨rfl, rfl, by rintro d' q' ⟨_, rfl | rfl⟩ <;> decide⟩
  | createAutoscaler =>
      obtain ⟨rfl, rfl⟩ := Prod.mk.inj (Option.some.inj hs)
      cases hu
      refine ⟨rfl, rfl, ?_⟩
      rintro d' q' ⟨_, rfl | rfl⟩
      · split <;> decide
      · decide
  | createStopper =>
      obtain ⟨rfl, rfl⟩ := Prod.mk.inj (Option.some.inj hs)
      cases hm : setup.mode with
      | server => simp [createdAfter, hm] at hu
      | terminal =>
          obtain rfl : 3 = n := by simpa [createdAfter, hm] using hu
          exact ⟨rfl, rfl, by rintro d' q' ⟨_, rfl | rfl⟩ <;> decide⟩
  | createPrinter =>
      obtain ⟨v, hv, hp⟩ := Option.map_eq_some_iff.mp hs
      obtain ⟨i, _, rfl⟩ := Option.map_eq_some_iff.mp hv
      obtain ⟨rfl, _⟩ := Prod.mk.inj hp
      cases hu
  | _ => cases hs

/-- A thread with a stage is created by the main thread, in that stage. -/
lemma created_stage {t u : Tid} {n : ℕ} (ex : Executes (program setup) s s' t)
    (hc : Created (program setup) s s' t u) (hu : createdAfter setup u = some n) :
    t = .main ∧ s.mainPc.stage = n ∧ (s'.ctl u).arg = sharedPrinterArgs ∧ n < s'.mainPc.stage := by
  have hprinter : ∀ i, u ≠ .printer i := by rintro i rfl; cases hu
  rcases spawns_cases hc.spawned with ⟨rfl, _⟩ | ⟨_, i, hi⟩
  · have hspawned : (mainCode setup s.mainPc).spawns s.data = some (u, (s'.ctl u).arg) :=
      hc.spawned
    obtain ⟨hstage, harg, hgoes⟩ := main_spawns hspawned hu
    exact ⟨rfl, hstage, harg, hgoes _ _ ex.goes⟩
  · exact absurd hi (hprinter i)

/-- The main thread stays where it is or executes an instruction. -/
lemma main_cases (hs : step (program setup) s a = some s') :
    (s.ctl .main).SamePlace (s'.ctl .main) ∨
      (mainCode setup s.mainPc).Goes s.data s'.data s'.mainPc := by
  cases sys_move hs with
  | quiet _ places => exact .inl (places _)
  | main _ goes => exact .inr goes
  | stopper _ _ others => exact .inl (others _ (by simp))
  | receiver _ _ others => exact .inl (others _ (by simp))
  | refiller _ _ others => exact .inl (others _ (by simp))
  | printer i _ _ others => exact .inl (others _ (by simp))
  | autoscaler ex _ =>
      rcases ex.other_place (u := .main) (by simp) with hpl | hc
      · exact .inl hpl
      · rcases spawns_cases hc.spawned with ⟨h, _⟩ | ⟨_, i, h⟩ <;> cases h

/-- The stage of the main thread only grows. -/
lemma stage_mono (hs : step (program setup) s a = some s') : s.mainPc.stage ≤ s'.mainPc.stage := by
  rcases main_cases hs with hpl | goes
  · rw [Sys.mainPc, Sys.mainPc, hpl.1]
  · exact main_stage goes

lemma Unstarted.step (h : Unstarted setup s) (hs : step (program setup) s a = some s') :
    Unstarted setup s' := by
  intro u n hu hn
  obtain ⟨hst, hpc, harg⟩ := h u n hu ((stage_mono hs).trans hn)
  rcases absent_step hs hst with ⟨hst', hpl⟩ | ⟨t, ex, hc⟩
  · exact ⟨hst', by rw [hpl.1, hpc], by rw [hpl.2, harg]⟩
  · obtain ⟨_, _, _, hlt⟩ := created_stage ex hc hu
    exact absurd hn (Nat.not_le.mpr hlt)

variable {ok : Sys → SysAction → Prop}

lemma unstarted (h : Reach (program setup) ok (freshState setup) s) : Unstarted setup s :=
  h.invariant (unstarted_fresh setup) fun _ ih _ hs => ih.step hs

/-- Only the command line program comes to the creation of the signal catching thread. -/
lemma terminal_of_goes {d d' : Data} {q : MainPc}
    (h : (mainCode setup q).Goes d d' .createStopper) : setup.mode = .terminal := by
  cases hm : setup.mode with
  | terminal => rfl
  | server =>
      cases q with
      | exit => exact h.elim
      | checkAutoscaling =>
          have hq := h.2
          simp only [hm] at hq
          split at hq <;> cases hq
      | createAutoscaler =>
          rcases h.2 with hq | hq
          · simp only [hm] at hq; cases hq
          · cases hq
      | nextPrinter | checkSlot | checkJoin | checkAutoscalingEnd =>
          have hq := h.2
          simp only at hq
          split at hq <;> (try split at hq) <;> cases hq
      | joinAutoscaler =>
          have hq := h.2
          split at hq <;> cases hq
      | createReceiver | createRefiller | createPrinter | createStopper =>
          rcases h.2 with hq | hq <;> cases hq
      | _ => cases h.2

/-- The server never creates a stop handler. -/
lemma terminal_of_createStopper (h : Reach (program setup) ok (freshState setup) s) :
    s.mainPc = .createStopper → setup.mode = .terminal := by
  refine h.invariant (I := fun s : Sys => s.mainPc = .createStopper → setup.mode = .terminal)
    (fun h => by cases h) fun {s s' a} _ ih _ hs hq => ?_
  rcases main_cases hs with hpl | goes
  · exact ih (by rw [← hq, Sys.mainPc, Sys.mainPc, hpl.1])
  · exact terminal_of_goes (hq ▸ goes)

lemma main_spawns_stopper {args : PrinterThreadArgs} {d : Data} {q : MainPc}
    (h : (mainCode setup q).spawns d = some (.stopper, args)) : q = .createStopper := by
  cases q with
  | createStopper => rfl
  | createReceiver | createRefiller | createAutoscaler =>
      cases (Prod.mk.inj (Option.some.inj h)).1
  | createPrinter =>
      obtain ⟨v, hv, hp⟩ := Option.map_eq_some_iff.mp h
      obtain ⟨i, _, rfl⟩ := Option.map_eq_some_iff.mp hv
      cases (Prod.mk.inj hp).1
  | _ => cases h

/-- A thread with a stage is where it was also when the step creates it. -/
lemma created_place {t u : Tid} {n : ℕ} (h : Reach (program setup) ok (freshState setup) s)
    (ex : Executes (program setup) s s' t) (hc : Created (program setup) s s' t u)
    (hu : createdAfter setup u = some n) : (s.ctl u).SamePlace (s'.ctl u) := by
  obtain ⟨_, hstage, harg, _⟩ := created_stage ex hc hu
  obtain ⟨_, hpc, harg'⟩ := unstarted h u n hu hstage.le
  exact ⟨by rw [hc.fresh, hpc]; rfl, by rw [harg, harg']⟩

/-- **Only printers come back to their entry.**  While another thread executes an instruction, a
thread that is not a printer stays where it is. -/
theorem stays {t u : Tid} (h : Reach (program setup) ok (freshState setup) s)
    (ex : Executes (program setup) s s' t) (hne : u ≠ t) (hu : ∀ i, u ≠ .printer i) :
    (s.ctl u).SamePlace (s'.ctl u) := by
  rcases ex.other_place hne with hpl | hc
  · exact hpl
  · rcases spawns_cases hc.spawned with ⟨rfl, rfl | rfl | rfl | rfl⟩ | ⟨_, i, hi⟩
    · exact created_place h ex hc (n := 0) rfl
    · exact created_place h ex hc (n := 1) rfl
    · exact created_place h ex hc (n := 2) rfl
    · have hmode := terminal_of_createStopper h (main_spawns_stopper hc.spawned)
      exact created_place h ex hc (n := 3) (by simp [createdAfter, hmode])
    · exact absurd hi (hu i)

/-! ## Who cancels whom -/

/-- The cancellation requests of the program. -/
lemma cancels_cases {t u : Tid} {s : Sys}
    (h : (s.instr (program setup) t).cancels s.data = some u) :
    (t = .main ∧ (u = .autoscaler ∨ u = .stopper)) ∨
      (t = .stopper ∧ ((s.stopPc = .cancelReceiver ∧ u = .receiver) ∨
        (s.stopPc = .cancelRefiller ∧ u = .refiller))) ∨
      (t = .autoscaler ∧ s.autoscalerPc = .downCancel ∧
        ∃ i, u = .printer i ∧ s.data.autoscaler.printerToRemove = some i) ∨
      ∃ i, t = .printer i ∧ s.printerPc i = .exitCancelRefiller ∧ u = .refiller := by
  cases t with
  | main =>
      change (mainCode setup s.mainPc).cancels s.data = _ at h
      generalize s.mainPc = q at *
      cases q <;> cases h
      · exact .inl ⟨rfl, .inl rfl⟩
      · exact .inl ⟨rfl, .inr rfl⟩
  | stopper =>
      change (stopCode setup s.stopPc).cancels s.data = _ at h
      generalize s.stopPc = q at *
      cases q with
      | cancelReceiver => cases h; exact .inr (.inl ⟨rfl, .inl ⟨rfl, rfl⟩⟩)
      | cancelRefiller => cases h; exact .inr (.inl ⟨rfl, .inr ⟨rfl, rfl⟩⟩)
      | done =>
          simp only [stopCode] at h
          split at h <;> cases h
      | _ => cases h
  | receiver =>
      change (receiverCode setup s.receiverPc).cancels s.data = _ at h
      generalize s.receiverPc = q at *
      cases q <;> cases h
  | refiller =>
      change (refillerCode setup s.refillerPc).cancels s.data = _ at h
      generalize s.refillerPc = q at *
      cases q <;> cases h
  | autoscaler =>
      change (autoscalerCode setup s.autoscalerPc).cancels s.data = _ at h
      generalize s.autoscalerPc = q at *
      cases q <;> simp_all [autoscalerCode, Instr.cancels]
      grind
  | printer j =>
      change (printerCode setup j (s.printerArgs j) (s.printerPc j)).cancels s.data = _ at h
      refine .inr (.inr (.inr ⟨j, rfl, ?_⟩))
      generalize s.printerPc j = q at *
      cases q <;> cases h
      exact ⟨rfl, rfl⟩

/-! ## Printers that are started -/

lemma created_printer {t : Tid} {i : Slot} (hc : Created (program setup) s s' t (.printer i)) :
    s'.printerPc i = .lockState := by rw [Sys.printerPc, hc.fresh]; rfl

/-- One step starts at most one printer: what depends on each printer's own place and locals changes
in at most one slot. -/
lemma created_one {β : Type} {t : Tid} {f f' : Slot → β} {x : β}
    (hsame : ∀ i, f' i = f i ∨ Created (program setup) s s' t (.printer i))
    (hnew : ∀ i, Created (program setup) s s' t (.printer i) → f' i = x) :
    f' = f ∨ ∃ i, Created (program setup) s s' t (.printer i) ∧ f' = Function.update f i x := by
  by_cases hc : ∃ i, Created (program setup) s s' t (.printer i)
  · obtain ⟨i, hc⟩ := hc
    have hother : ∀ j, j ≠ i → ¬Created (program setup) s s' t (.printer j) := fun j hj hc' => by
      have := hc.spawned.symm.trans hc'.spawned
      simp only [Option.some.injEq, Prod.mk.injEq, Tid.printer.injEq] at this
      exact hj this.1.symm
    refine .inr ⟨i, hc, ?_⟩
    funext j
    by_cases hj : j = i
    · subst hj; simpa using hnew j hc
    · rw [Function.update_of_ne hj]
      exact (hsame j).resolve_right (hother j hj)
  · exact .inl (funext fun i => (hsame i).resolve_right fun hc' => hc ⟨i, hc'⟩)

/-! ## Waiting and holding -/

lemma mutex_fresh (setup : Setup) (u : Tid) :
    ((freshState setup).ctl u).status.mutex = none := by
  cases u with
  | stopper => cases hm : setup.mode <;> simp [freshState, hm, Status.mutex]
  | _ => rfl

lemma waitPlace_fresh (h : Reach (program setup) ok (freshState setup) s) :
    WaitPlace (program setup) s :=
  waitPlace (mutex_fresh setup) h

/-- The three waits of the program. -/
lemma waits_cases {s : Sys} {u : Tid} {c : Cond} {m : Mutex} {next : Pc u}
    (h : s.instr (program setup) u = .wait c m next) :
    (∃ i, u = .printer i ∧
        ((s.printerPc i = .waitJob ∧ c = (s.printerArgs i).jobQueueNotEmptyCv ∧
            m = (s.printerArgs i).jobQueueMutex) ∨
          (s.printerPc i = .waitPaper ∧ c = (s.printerArgs i).refillNeededCv ∧
            m = (s.printerArgs i).paperRefillQueueMutex))) ∨
      (u = .refiller ∧ s.refillerPc = .waitRequest ∧ c = .refillSupplierCv ∧
        m = .paperRefillQueueMutex) := by
  rcases waiter_cases h with ⟨i, rfl⟩ | rfl
  · change printerCode setup i (s.printerArgs i) (s.printerPc i) = _ at h
    refine .inl ⟨i, rfl, ?_⟩
    generalize s.printerPc i = q at *
    cases q <;> simp_all [printerCode]
  · change refillerCode setup s.refillerPc = _ at h
    refine .inr ⟨rfl, ?_⟩
    generalize s.refillerPc = q at *
    cases q <;> simp_all [refillerCode]

/-- A thread that is alive and not inside a condition wait is running. -/
lemma status_running {st : Status Mutex Cond} (ha : st.alive = true)
    (hm : ∀ m, st.mutex ≠ some m) : st = .running := by
  cases st with
  | running => rfl
  | absent | ended => cases ha
  | waiting c m => exact absurd rfl (hm m)
  | woken m => exact absurd rfl (hm m)
  | cancelled m => exact absurd rfl (hm m)

/-- A printer that is alive is running, except behind its two waits. -/
lemma printer_running {i : Slot} (h : Reach (program setup) ok (freshState setup) s)
    (halive : (s.ctl (.printer i)).status.alive = true)
    (hw : s.printerPc i ≠ .waitUnlockQueue) (hw' : s.printerPc i ≠ .lockStateInWait) :
    (s.ctl (.printer i)).status = .running := by
  have hbehind : ∀ m, (s.ctl (.printer i)).status.mutex ≠ some m := fun m hm => by
    obtain ⟨c, q, hq⟩ := waitPlace_fresh h (.printer i) m hm
    change printerCode setup i (s.printerArgs i) q = .wait c m (s.printerPc i) at hq
    cases q <;> simp [printerCode] at hq
    · exact hw hq.2.2.symm
    · exact hw' hq.2.2.symm
  exact status_running halive hbehind

/-- The receiver never waits: while it is alive, it is running. -/
lemma receiver_running (h : Reach (program setup) ok (freshState setup) s)
    (ha : (s.ctl .receiver).status.alive = true) : (s.ctl .receiver).status = .running := by
  have hbehind : ∀ m, (s.ctl .receiver).status.mutex ≠ some m := fun m hm => by
    obtain ⟨c, q, hq⟩ := waitPlace_fresh h .receiver m hm
    rcases waiter_cases hq with ⟨_, ht⟩ | ht <;> cases ht
  exact status_running ha hbehind

/-- The stop handler has no condition wait. -/
lemma stopCode_ne_wait (setup : Setup) (q : StopPc) (c : Cond) (m : Mutex) (next : StopPc) :
    stopCode setup q ≠ .wait c m next := by
  intro hwait
  have hcode : (program setup).code .stopper sharedPrinterArgs q = .wait c m next := hwait
  rcases waiter_cases hcode with ⟨_, ht⟩ | ht <;> cases ht

/-- The lock discipline holds in every reachable state. -/
theorem lockInv (h : Reach (program setup) ok (freshState setup) s) :
    (lockDiscipline setup).Inv s := by
  refine Discipline.inv_of_reach (Discipline.inv_init _ (fun t => .inl ?_) (fun _ => rfl)
    (fun t => ?_) (mutex_fresh setup)) h
  · cases t <;> rfl
  · cases t <;> rfl

/-- The arguments of a printer are one of the two argument structs. -/
lemma printerArgs_cases (h : Reach (program setup) ok (freshState setup) s) (i : Slot) :
    IsThreadArgs (s.printerArgs i) :=
  (lockInv h).args (.printer i)

lemma jobQueueMutex_of_args {args : PrinterThreadArgs} (h : IsThreadArgs args) :
    args.jobQueueMutex = .jobQueueMutex := by
  rcases h with rfl | rfl <;> rfl

/-- A printer that runs where its code holds the mutex of the queue holds it. -/
lemma printer_holds_queue {i : Slot} {q : PrinterPc}
    (h : Reach (program setup) ok (freshState setup) s)
    (hrun : (s.ctl (.printer i)).status = .running) (hq : s.printerPc i = q)
    (hheld : ∀ args : PrinterThreadArgs, args.jobQueueMutex ∈ printerHeld args q) :
    (lockDiscipline setup).Holds s (.printer i) .jobQueueMutex := by
  refine Discipline.holds_of_running hrun ?_
  show Mutex.jobQueueMutex ∈ printerHeld (s.printerArgs i) (s.printerPc i)
  rw [hq, ← jobQueueMutex_of_args (printerArgs_cases h i)]
  exact hheld _

/-! ## Local variables -/

variable {d d' : Data}

lemma printer_locals {i : Slot} {args : PrinterThreadArgs} {q q' : PrinterPc}
    (h : (printerCode setup i args q).Goes d d' q') :
    d'.receiver = d.receiver ∧ d'.refiller = d.refiller ∧
      (∀ j, j ≠ i → d'.printer j = d.printer j) ∧ d'.autoscaler = d.autoscaler := by
  cases q with
  | exit => exact h.elim
  | recordEmptyTime =>
      rw [h.1, Printer.recordEmptyTime]
      split <;> exact ⟨rfl, rfl, fun _ _ => rfl, rfl⟩
  | readTerminate | checkPaper | emitPaperEmpty | readTerminateInWait | dequeue
  | emitQueueDeparture | emitArrival | markIdle | readArrived =>
      obtain ⟨rfl, _⟩ := h
      exact ⟨rfl, rfl, fun j hj => Function.update_of_ne hj _ _, rfl⟩
  | _ => obtain ⟨rfl, _⟩ := h; exact ⟨rfl, rfl, fun _ _ => rfl, rfl⟩

lemma receiver_locals {q q' : ReceiverPc} (h : (receiverCode setup q).Goes d d' q') :
    d'.refiller = d.refiller ∧ d'.printer = d.printer ∧ d'.autoscaler = d.autoscaler := by
  cases q with
  | exit => exact h.elim
  | nextJob =>
      rw [h.1, Receiver.createJob]
      split <;> exact ⟨rfl, rfl, rfl⟩
  | _ => obtain ⟨rfl, _⟩ := h; exact ⟨rfl, rfl, rfl⟩

lemma refiller_locals {q q' : RefillerPc} (h : (refillerCode setup q).Goes d d' q') :
    d'.receiver = d.receiver ∧ d'.printer = d.printer ∧ d'.autoscaler = d.autoscaler := by
  by_cases hq : q = .recordRefill
  · subst hq
    rw [h.1]
    exact ⟨rfl, rfl, rfl⟩
  · cases refiller_refills h hq with
    | noted _ _ data | filled _ _ data | reported _ _ data _ => rw [data]; exact ⟨rfl, rfl, rfl⟩

lemma stop_locals {q q' : StopPc} (h : (stopCode setup q).Goes d d' q') :
    d'.receiver = d.receiver ∧ d'.refiller = d.refiller ∧ d'.printer = d.printer ∧
      d'.autoscaler = d.autoscaler := by
  cases q with
  | setFlags | emitStopped => rw [h.1]; exact ⟨rfl, rfl, rfl, rfl⟩
  | drain => rw [h.1, emptyQueueRound]; split <;> exact ⟨rfl, rfl, rfl, rfl⟩
  | _ => rw [stop_quiet h rfl]; exact ⟨rfl, rfl, rfl, rfl⟩

lemma autoscaler_locals {q q' : AutoscalerPc} (h : (autoscalerCode setup q).Goes d d' q') :
    d'.receiver = d.receiver ∧ d'.refiller = d.refiller ∧ d'.printer = d.printer := by
  cases autoscaler_scales h with
  | scaled _ _ _ data _ | reported _ _ data _ => rw [data]; exact ⟨rfl, rfl, rfl⟩

lemma main_locals {q q' : MainPc} (h : (mainCode setup q).Goes d d' q') :
    d'.receiver = d.receiver ∧ d'.refiller = d.refiller ∧ d'.printer = d.printer ∧
      d'.autoscaler = d.autoscaler := by
  cases q with
  | exit => exact h.elim
  | emitIdle =>
      have hd : d' = emitStarted setup.mode d.mainI d := h.1
      rw [hd, emitStarted]
      split <;> exact ⟨rfl, rfl, rfl, rfl⟩
  | _ => obtain ⟨rfl, _⟩ := h; exact ⟨rfl, rfl, rfl, rfl⟩

/-- The receiver's locals change only when it executes an instruction. -/
lemma receiver_unchanged (hs : step (program setup) s a = some s')
    (hne : ¬Executes (program setup) s s' .receiver) : s'.data.receiver = s.data.receiver := by
  cases sys_move hs with
  | quiet data _ => obtain ⟨c, r, k, data⟩ := data; rw [data]
  | main _ goes => exact (main_locals goes).1
  | stopper _ goes _ => exact (stop_locals goes).1
  | receiver ex _ _ => exact absurd ex hne
  | refiller _ goes _ => exact (refiller_locals goes).1
  | autoscaler _ goes => exact (autoscaler_locals goes).1
  | printer i _ goes _ => exact (printer_locals goes).1

/-- The refiller's locals change only when it executes an instruction. -/
lemma refiller_unchanged (hs : step (program setup) s a = some s')
    (hne : ¬Executes (program setup) s s' .refiller) : s'.data.refiller = s.data.refiller := by
  cases sys_move hs with
  | quiet data _ => obtain ⟨c, r, k, data⟩ := data; rw [data]
  | main _ goes => exact (main_locals goes).2.1
  | stopper _ goes _ => exact (stop_locals goes).2.1
  | receiver _ goes _ => exact (receiver_locals goes).1
  | refiller ex _ _ => exact absurd ex hne
  | autoscaler _ goes => exact (autoscaler_locals goes).2.1
  | printer i _ goes _ => exact (printer_locals goes).2.1

/-- A printer's locals change only when it executes an instruction. -/
lemma printer_unchanged {i : Slot} (hs : step (program setup) s a = some s')
    (hne : ¬Executes (program setup) s s' (.printer i)) :
    s'.data.printer i = s.data.printer i := by
  cases sys_move hs with
  | quiet data _ => obtain ⟨c, r, k, data⟩ := data; rw [data]
  | main _ goes => rw [(main_locals goes).2.2.1]
  | stopper _ goes _ => rw [(stop_locals goes).2.2.1]
  | receiver _ goes _ => rw [(receiver_locals goes).2.1]
  | refiller _ goes _ => rw [(refiller_locals goes).2.1]
  | autoscaler _ goes => rw [(autoscaler_locals goes).2.2]
  | printer j ex goes _ =>
      refine (printer_locals goes).2.2.1 i ?_
      rintro rfl
      exact hne ex

/-- The autoscaler's locals change only when it executes an instruction. -/
lemma autoscaler_unchanged (hs : step (program setup) s a = some s')
    (hne : ¬Executes (program setup) s s' .autoscaler) :
    s'.data.autoscaler = s.data.autoscaler := by
  cases sys_move hs with
  | quiet data _ => obtain ⟨c, r, k, data⟩ := data; rw [data]
  | main _ goes => exact (main_locals goes).2.2.2
  | stopper _ goes _ => exact (stop_locals goes).2.2.2
  | receiver _ goes _ => exact (receiver_locals goes).2.2
  | refiller _ goes _ => exact (refiller_locals goes).2.2
  | autoscaler ex _ => exact absurd ex hne
  | printer i _ goes _ => exact (printer_locals goes).2.2.2

/-! ## A thread from its own point of view -/

/-- A thread that is not a printer stays where it is or executes an instruction. -/
lemma stays_or_executes {u : Tid} (h : Reach (program setup) ok (freshState setup) s)
    (hs : step (program setup) s a = some s') (hu : ∀ i, u ≠ .printer i) :
    (¬Executes (program setup) s s' u ∧ (s.ctl u).SamePlace (s'.ctl u)) ∨
      Executes (program setup) s s' u := by
  by_cases hex : Executes (program setup) s s' u
  · exact .inr hex
  · refine .inl ⟨hex, ?_⟩
    rcases place_step hs hex with hpl | ⟨t, ex, hc⟩
    · exact hpl
    · have hne : u ≠ t := by rintro rfl; exact hex ex
      exact stays h ex hne hu

/-- The receiver stays where it is, with its locals, or executes an instruction. -/
lemma receiver_cases (h : Reach (program setup) ok (freshState setup) s)
    (hs : step (program setup) s a = some s') :
    (¬Executes (program setup) s s' .receiver ∧ s'.receiverPc = s.receiverPc ∧
        s'.data.receiver = s.data.receiver) ∨
      (Executes (program setup) s s' .receiver ∧
        (receiverCode setup s.receiverPc).Goes s.data s'.data s'.receiverPc) := by
  rcases stays_or_executes (u := .receiver) h hs (by simp) with ⟨hex, hpl⟩ | hex
  · exact .inl ⟨hex, hpl.1, receiver_unchanged hs hex⟩
  · exact .inr ⟨hex, hex.goes⟩

/-- The refiller stays where it is, with its locals, or executes an instruction. -/
lemma refiller_cases (h : Reach (program setup) ok (freshState setup) s)
    (hs : step (program setup) s a = some s') :
    (¬Executes (program setup) s s' .refiller ∧ s'.refillerPc = s.refillerPc ∧
        s'.data.refiller = s.data.refiller) ∨
      (Executes (program setup) s s' .refiller ∧
        (refillerCode setup s.refillerPc).Goes s.data s'.data s'.refillerPc) := by
  rcases stays_or_executes (u := .refiller) h hs (by simp) with ⟨hex, hpl⟩ | hex
  · exact .inl ⟨hex, hpl.1, refiller_unchanged hs hex⟩
  · exact .inr ⟨hex, hex.goes⟩

/-- A printer stays where it is, with its locals, is started, or executes an instruction. -/
lemma printer_cases (hs : step (program setup) s a = some s') (i : Slot) :
    (¬Executes (program setup) s s' (.printer i) ∧ s'.printerPc i = s.printerPc i ∧
        s'.printerArgs i = s.printerArgs i ∧ s'.data.printer i = s.data.printer i) ∨
      (∃ t, Executes (program setup) s s' t ∧ Created (program setup) s s' t (.printer i)) ∨
      (Executes (program setup) s s' (.printer i) ∧ s'.printerArgs i = s.printerArgs i ∧
        (printerCode setup i (s.printerArgs i) (s.printerPc i)).Goes s.data s'.data
          (s'.printerPc i)) := by
  by_cases hex : Executes (program setup) s s' (.printer i)
  · exact .inr (.inr ⟨hex, hex.arg, hex.goes⟩)
  · rcases place_step hs hex with hpl | hc
    · exact .inl ⟨hex, hpl.1, hpl.2, printer_unchanged hs hex⟩
    · exact .inr (.inl hc)

/-! ## Where the receiver and the refiller can be cancelled -/

/-- The receiver's cancellation is enabled. -/
def ReceiverPc.exposed : ReceiverPc → Bool
  | .start | .sleep | .disableCancel => true
  | _ => false

/-- The refiller's cancellation is enabled. -/
def RefillerPc.exposed : RefillerPc → Bool
  | .start | .sleep | .disableCancel => true
  | _ => false

lemma receiver_exposure (setup : Setup) :
    Exposure (program setup) .receiver ReceiverPc.exposed where
  entry := rfl
  goes _ q d d' q' h hq := by
    change (receiverCode setup q).Goes d d' q' at h
    change (receiverCode setup q).enabledAfter q.exposed = true at hq
    cases q with
    | exit => exact h.elim
    | enableCancel | sleep => rw [h.2]; rfl
    | _ => cases hq
  wait _ q c m next hq := by
    rcases waiter_cases hq with ⟨_, ht⟩ | ht <;> cases ht

lemma refiller_exposure (setup : Setup) :
    Exposure (program setup) .refiller RefillerPc.exposed where
  entry := rfl
  goes _ q d d' q' h hq := by
    change (refillerCode setup q).Goes d d' q' at h
    change (refillerCode setup q).enabledAfter q.exposed = true at hq
    cases q with
    | exit => exact h.elim
    | enableCancel | sleep => rw [h.2]; rfl
    | _ => cases hq
  wait _ q c m next hq := by
    change refillerCode setup q = .wait c m next at hq
    cases q <;> cases hq
    rfl

lemma receiver_guarded (h : Reach (program setup) ok (freshState setup) s) :
    Guarded (program setup) s .receiver ReceiverPc.exposed :=
  guarded (receiver_exposure setup) (mutex_fresh setup)
    ⟨fun _ => rfl, by simp [freshState], fun _ => rfl, by simp [freshState]⟩ h

lemma refiller_guarded (h : Reach (program setup) ok (freshState setup) s) :
    Guarded (program setup) s .refiller RefillerPc.exposed :=
  guarded (refiller_exposure setup) (mutex_fresh setup)
    ⟨fun _ => rfl, by simp [freshState], fun _ => rfl, by simp [freshState]⟩ h

/-- Between its start and its exit, the receiver is running, except that it may have been cancelled
in its sleep. -/
lemma receiver_alive (h : Reach (program setup) ok (freshState setup) s)
    (hstart : s.receiverPc ≠ .start) (hsleep : s.receiverPc ≠ .sleep)
    (hexit : s.receiverPc ≠ .exit) : (s.ctl .receiver).status.alive = true := by
  refine (receiver_guarded h).alive hstart (fun hi => ?_) fun hexposed => ?_
  · change receiverCode setup s.receiverPc = .exit at hi
    generalize s.receiverPc = q at *
    cases q with
    | exit => exact hexit rfl
    | _ => cases hi
  · change s.receiverPc.exposed = true at hexposed
    show (receiverCode setup s.receiverPc).isCancelPoint = false
    generalize s.receiverPc = q at *
    cases q with
    | start => exact absurd rfl hstart
    | sleep => exact absurd rfl hsleep
    | disableCancel => rfl
    | _ => cases hexposed

/-- Where its code is in a critical section, the receiver holds the mutex. -/
lemma receiver_holds {m : Mutex} (h : Reach (program setup) ok (freshState setup) s)
    (hm : m ∈ receiverHeld s.receiverPc) : (lockDiscipline setup).Holds s .receiver m := by
  have halive : (s.ctl .receiver).status.alive = true := by
    refine receiver_alive h ?_ ?_ ?_ <;>
      · intro hq
        rw [hq] at hm
        cases hm
  exact Discipline.holds_of_running (receiver_running h halive) hm

/-- Between its start and its exit, the refiller is alive, except that it may have been cancelled in
its sleep. -/
lemma refiller_alive (h : Reach (program setup) ok (freshState setup) s)
    (hstart : s.refillerPc ≠ .start) (hsleep : s.refillerPc ≠ .sleep)
    (hexit : s.refillerPc ≠ .exit) : (s.ctl .refiller).status.alive = true := by
  refine (refiller_guarded h).alive hstart (fun hi => ?_) fun hexposed => ?_
  · change refillerCode setup s.refillerPc = .exit at hi
    generalize s.refillerPc = q at *
    cases q with
    | exit => exact hexit rfl
    | _ => cases hi
  · change s.refillerPc.exposed = true at hexposed
    show (refillerCode setup s.refillerPc).isCancelPoint = false
    generalize s.refillerPc = q at *
    cases q with
    | start => exact absurd rfl hstart
    | sleep => exact absurd rfl hsleep
    | disableCancel => rfl
    | _ => cases hexposed

/-- A refiller that is alive is running, except behind its wait. -/
lemma refiller_running (h : Reach (program setup) ok (freshState setup) s)
    (ha : (s.ctl .refiller).status.alive = true) (hw : s.refillerPc ≠ .lockState) :
    (s.ctl .refiller).status = .running := by
  have hbehind : ∀ m, (s.ctl .refiller).status.mutex ≠ some m := fun m hm => by
    obtain ⟨c, q, hq⟩ := waitPlace_fresh h .refiller m hm
    change refillerCode setup q = .wait c m s.refillerPc at hq
    cases q <;> simp [refillerCode] at hq
    exact hw hq.2.2.symm
  exact status_running ha hbehind

/-! ## Runs given by a list of choices -/

/-- A list of allowed choices leads to a reachable state with what its last state is computed to
have. -/
lemma exists_run (setup : Setup) (ok : Sys → SysAction → Prop) [∀ s a, Decidable (ok s a)]
    (as : List SysAction) (test : Sys → Prop) [DecidablePred test]
    (h : (runTraceIf (program setup) ok (freshState setup) as).any
      (fun s => decide (test s)) = true) :
    ∃ s : Sys, Reach (program setup) ok (freshState setup) s ∧ test s :=
  exists_reach_of_runTraceIf as h

end Orchestrator
