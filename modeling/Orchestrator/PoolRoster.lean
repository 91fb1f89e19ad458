import Orchestrator.PoolMoves
import Orchestrator.Pooling.Roster

/-!
# The walk of the joins and the roster of printers

`printer_pool_join_all` looks at the `active` flags without `pool_mutex` while the autoscaler may be
in the middle of an operation.

* `KeepsToWalk` — the autoscaler creates and joins printers only in slots that the walk has not come
  to, and the walk does not come to a slot between such a call and the update of its flag.
* `roster` — the slots of a state, with the joins of the run that led to it.
* `roster_step` — a step that keeps to the walk is a move of the roster.
-/

namespace Orchestrator

open Pthread Pooling

variable {setup : Setup} {s s' : Sys} {a : SysAction} {ok : Sys → SysAction → Prop} {d d' : Data}

/-! ## The walk and the operations -/

/-- The slots below this number were looked at by `printer_pool_join_all`. -/
def MainPc.lookedAt (mainI : Int) : MainPc → Int
  | .checkJoin => mainI
  | .joinPrinter | .countJoin => mainI + 1
  | .joinRefiller | .checkAutoscalingEnd | .cancelAutoscaler | .joinAutoscaler | .cancelStopper
  | .joinStopper | .emitEnd | .emitStatistics | .exit => maxPrinters
  | _ => 0

/-- The walk of the joins has looked at slot `i`. -/
def LookedAt (s : Sys) (i : Slot) : Prop := (i : Int) < s.mainPc.lookedAt s.data.mainI

/-- The autoscaler has created a thread in slot `i` and not set its flag. -/
def StartsPrinter (s : Sys) (i : Slot) : Prop :=
  s.autoscalerPc = .upMarkStarted ∧ slotOfIndex (s.data.autoscaler.newPrinterId - 1) = some i

/-- The autoscaler has joined the thread of slot `i` and not cleared its flag. -/
def StopsPrinter (s : Sys) (i : Slot) : Prop :=
  (s.autoscalerPc = .downRelockPool ∨ s.autoscalerPc = .downMarkStopped) ∧
    s.data.autoscaler.printerToRemove = some i

instance (s : Sys) (i : Slot) : Decidable (LookedAt s i) := inferInstanceAs (Decidable (_ < _))
instance (s : Sys) (i : Slot) : Decidable (StartsPrinter s i) := inferInstanceAs (Decidable (_ ∧ _))
instance (s : Sys) (i : Slot) : Decidable (StopsPrinter s i) := inferInstanceAs (Decidable (_ ∧ _))

/-- The autoscaler creates and joins printers only in slots that the walk has not looked at, and the
walk looks at no slot between such a call and the update of its flag. -/
def KeepsToWalk (s : Sys) : SysAction → Prop
  | .run .autoscaler =>
      (s.autoscalerPc = .upCreate → s.data.createOk = true → ∀ i,
        slotOfIndex (s.data.autoscaler.newPrinterId - 1) = some i → ¬LookedAt s i) ∧
      (s.autoscalerPc = .downJoin → ∀ i,
        s.data.autoscaler.printerToRemove = some i → ¬LookedAt s i)
  | .run .main => s.mainPc = .checkJoin → ∀ i, slotOfIndex s.data.mainI = some i →
      ¬StartsPrinter s i ∧ ¬StopsPrinter s i
  | _ => True

instance (s : Sys) (a : SysAction) : Decidable (KeepsToWalk s a) :=
  match a with
  | .run .autoscaler => inferInstanceAs (Decidable (_ ∧ _))
  | .run .main => inferInstanceAs (Decidable (_ → _))
  | .run .stopper | .run .receiver | .run .refiller | .run (.printer _) => isTrue trivial
  | .accept _ | .spurious _ | .env _ => isTrue trivial

/-! ## The roster -/

/-- The pool of a state, with the joins of a history. -/
def roster (s : Sys) (es : List (ThreadEvent Tid)) : Roster Slot where
  active := s.data.slots.active
  alive i := (s.ctl (.printer i)).status.alive
  waits i := joinCounts (.printer i) es
  looked i := decide (LookedAt s i)
  starting :=
    if s.autoscalerPc = .upMarkStarted then slotOfIndex (s.data.autoscaler.newPrinterId - 1)
    else if s.mainPc = .markStarted then slotOfIndex (s.data.mainI - 1)
    else none
  stopping :=
    if s.autoscalerPc = .downRelockPool ∨ s.autoscalerPc = .downMarkStopped then
      s.data.autoscaler.printerToRemove
    else none
  joining := if s.mainPc = .joinPrinter then slotOfIndex s.data.mainI else none

variable {es es' : List (ThreadEvent Tid)} {r : Roster Slot}

/-- A roster in which some workers of `r` may have ended. -/
lemma ends_roster (hactive : s.data.slots.active = r.active)
    (hwaits : ∀ i, joinCounts (.printer i) es = r.waits i)
    (hlooked : ∀ i, decide (LookedAt s i) = r.looked i)
    (hstarting : (roster s es).starting = r.starting)
    (hstopping : (roster s es).stopping = r.stopping)
    (hjoining : (roster s es).joining = r.joining)
    (halive : ∀ i, (s.ctl (.printer i)).status.alive = true → r.alive i = true) :
    Roster.Ends r (roster s es) := by
  refine ⟨fun i => (s.ctl (.printer i)).status.alive, halive, ?_⟩
  rw [← hstarting, ← hstopping, ← hjoining, ← hactive]
  simp only [roster, Roster.mk.injEq, true_and, and_true]
  exact ⟨funext hwaits, funext hlooked⟩

/-- What a step adds to the counts. -/
lemma joinCounts_none (i : Slot) (e : Option (ThreadEvent Tid))
    (hc : e ≠ some (.created (.printer i))) (hj : e ≠ some (.joined (.printer i))) :
    joinCounts (.printer i) (e.toList ++ es) = joinCounts (.printer i) es := by
  cases e with
  | none => rfl
  | some e =>
      cases e with
      | created u =>
          have hne : u ≠ .printer i := fun heq => hc (by rw [heq])
          simp [joinCounts, hne]
      | joined u =>
          have hne : u ≠ .printer i := fun heq => hj (by rw [heq])
          simp [joinCounts, hne]

lemma joinCounts_created (i : Slot) :
    (fun j => joinCounts (.printer j) ((some (.created (.printer i))).toList ++ es)) =
      Function.update (fun j => joinCounts (.printer j) es) i
        (0 :: joinCounts (.printer i) es) := by
  funext j
  by_cases hj : j = i
  · subst hj; simp [joinCounts]
  · simp [joinCounts, hj, Ne.symm hj]

lemma joinCounts_joined (i : Slot) :
    (fun j => joinCounts (.printer j) ((some (.joined (.printer i))).toList ++ es)) =
      Function.update (fun j => joinCounts (.printer j) es) i
        ((joinCounts (.printer i) es).modifyHead (· + 1)) := by
  funext j
  by_cases hj : j = i
  · subst hj; simp [joinCounts]
  · simp [joinCounts, hj, Ne.symm hj]

/-! ## The main thread's steps -/

/-- The instructions of the main thread with which it neither starts a printer nor walks. -/
lemma main_quiet {q q' : MainPc} (h : (mainCode setup q).Goes d d' q')
    (hcreate : q ≠ .createPrinter) (hmark : q ≠ .markStarted) (hcheck : q ≠ .checkJoin)
    (hjoin : q ≠ .joinPrinter) :
    d'.slots.active = d.slots.active ∧ q'.lookedAt d'.mainI = q.lookedAt d.mainI ∧
      q' ≠ .markStarted ∧ q' ≠ .joinPrinter ∧
      ∀ i, (mainCode setup q).threadEvent d ≠ some (.created (.printer i)) ∧
        (mainCode setup q).threadEvent d ≠ some (.joined (.printer i)) := by
  have hactive : d'.slots.active = d.slots.active := by
    rcases main_slots h with ⟨hslots, _⟩ | ⟨_, hslots⟩ | ⟨hq, _⟩ | ⟨_, hslots⟩ | ⟨_, hslots⟩
    · rw [hslots]
    · rw [hslots]
    · exact absurd hq hmark
    · rw [hslots]
    · rw [hslots]
  refine ⟨hactive, ?_⟩
  cases q with
  | createPrinter => exact absurd rfl hcreate
  | markStarted => exact absurd rfl hmark
  | checkJoin => exact absurd rfl hcheck
  | joinPrinter => exact absurd rfl hjoin
  | exit => exact h.elim
  | createReceiver | createRefiller | createStopper =>
      obtain ⟨_, rfl | rfl⟩ := h <;>
        exact ⟨rfl, by simp, by simp, fun i => by simp [mainCode, Instr.threadEvent]⟩
  | createAutoscaler =>
      obtain ⟨_, rfl | rfl⟩ := h
      · split <;> exact ⟨rfl, by simp, by simp, fun i => by simp [mainCode, Instr.threadEvent]⟩
      · exact ⟨rfl, by simp, by simp, fun i => by simp [mainCode, Instr.threadEvent]⟩
  | nextPrinter | checkSlot | checkAutoscaling | checkAutoscalingEnd =>
      obtain ⟨_, rfl⟩ := h
      simp only
      split <;> (try split) <;>
        exact ⟨rfl, by simp, by simp, fun i => by simp [mainCode, Instr.threadEvent]⟩
  | joinAutoscaler =>
      obtain ⟨_, rfl⟩ := h
      split <;> exact ⟨rfl, by simp, by simp, fun i => by simp [mainCode, Instr.threadEvent]⟩
  | _ =>
      obtain ⟨rfl, rfl⟩ := h
      exact ⟨rfl, by simp, by simp, fun i => by simp [mainCode, Instr.threadEvent]⟩

/-- The main thread creates a printer in one place. -/
lemma main_creates {j : Slot} (hc : Created (program setup) s s' .main (.printer j)) :
    s.mainPc = .createPrinter ∧ slotOfIndex (s.data.mainI - 1) = some j := by
  rcases (main_spawned setup hc.spawned).2 with (hu | hu | hu | hu) | ⟨hq, i, hi, hu⟩
  all_goals cases hu
  exact ⟨hq, hi⟩

/-- No printer comes to life elsewhere. -/
lemma alive_of_main (hs : step (program setup) s (.run .main) = some s')
    (hq : s.mainPc ≠ .createPrinter) (j : Slot)
    (hj : (s'.ctl (.printer j)).status.alive = true) :
    (s.ctl (.printer j)).status.alive = true := by
  rcases alive_run hs hj with hold | hc
  · exact hold
  · exact absurd (main_creates hc).1 hq

/-- The autoscaler creates printers in one place. -/
lemma autoscaler_creates {j : Slot} (hc : Created (program setup) s s' .autoscaler (.printer j)) :
    s.autoscalerPc = .upCreate ∧
      slotOfIndex (s.data.autoscaler.newPrinterId - 1) = some j := by
  obtain ⟨_, hq, i, hi, hu⟩ := autoscaler_spawned setup hc.spawned
  cases hu
  exact ⟨hq, hi⟩

/-- A step leaves the roster alone or is a move of it, and some workers may end. -/
def MovesRoster (s s' : Sys) (es es' : List (ThreadEvent Tid)) : Prop :=
  ∃ r, (r = roster s es ∨ Roster.Step (roster s es) r) ∧ Roster.Ends r (roster s' es')

/-- The main thread creates a printer. -/
lemma roster_createPrinter (h : Reach (program setup) ok (freshState setup) s) (ht : Targets s)
    (hs : step (program setup) s (.run .main) = some s')
    (ex : Executes (program setup) s s' .main) (hq : s.mainPc = .createPrinter)
    (hplace : s'.autoscalerPc = s.autoscalerPc) :
    MovesRoster s s' es ((s.threadEvent (program setup) (.run .main)).toList ++ es) := by
  have hentry : s.autoscalerPc = .lockState :=
    (autoscaler_entry h (by rw [hq]; decide)).1
  have hi : s.instr (program setup) .main = _ := main_createPrinter hq
  have hahead : ∀ {s : Sys}, s.mainPc.lookedAt s.data.mainI = 0 →
      ∀ i, decide (LookedAt s i) = false := fun hlook i => by
    rw [decide_eq_false_iff_not, LookedAt, hlook]
    exact not_lt.mpr (Int.natCast_nonneg i)
  have hlook : s.mainPc.lookedAt s.data.mainI = 0 := by rw [hq]; rfl
  obtain ⟨hd, ⟨u, hevent, htarget, _, hq', halive⟩ | ⟨hevent, hq', halive⟩⟩ :=
    create_cases hs ex.running hi
  · change s'.mainPc = .markStarted at hq'
    have hlook' : s'.mainPc.lookedAt s'.data.mainI = 0 := by rw [hq']; rfl
    obtain ⟨i, hslot, rfl⟩ := Option.map_eq_some_iff.mp htarget
    refine ⟨_, .inr (.start i (ht.main hq i hslot) (hahead hlook i) (by simp [roster, hentry, hq])),
      ends_roster (by rw [hd]; rfl) ?_ ?_ ?_ ?_ ?_ fun j hj => ?_⟩
    · rw [hevent]; exact congrFun (joinCounts_created i)
    · intro j; rw [hahead hlook' j]; exact (hahead hlook j).symm
    · simp [roster, hplace, hentry, hq', hd, hslot]
    · simp [roster, hplace, hentry]
    · simp [roster, hq, hq']
    · by_cases hji : j = i
      · subst hji; simp
      · simpa [hji, roster] using halive (.printer j) (by simpa using hji) hj
  · change s'.mainPc = .countPrinter at hq'
    have hlook' : s'.mainPc.lookedAt s'.data.mainI = 0 := by rw [hq']; rfl
    refine ⟨_, .inl rfl, ends_roster (by rw [hd]; rfl) ?_ ?_ ?_ ?_ ?_ fun j => halive (.printer j)⟩
    · intro i; rw [hevent]; rfl
    · intro j; rw [hahead hlook' j]; exact (hahead hlook j).symm
    · simp [roster, hplace, hentry, hq', hq]
    · simp [roster, hplace, hentry]
    · simp [roster, hq, hq']

/-- The main thread sets the flag of a printer it has created. -/
lemma roster_markStarted (h : Reach (program setup) ok (freshState setup) s)
    (hs : step (program setup) s (.run .main) = some s')
    (ex : Executes (program setup) s s' .main) (hq : s.mainPc = .markStarted)
    (goes : (mainCode setup s.mainPc).Goes s.data s'.data s'.mainPc)
    (hplace : s'.autoscalerPc = s.autoscalerPc) :
    MovesRoster s s' es ((s.threadEvent (program setup) (.run .main)).toList ++ es) := by
  have hentry : s.autoscalerPc = .lockState :=
    (autoscaler_entry h (by rw [hq]; decide)).1
  have hevent : s.threadEvent (program setup) (.run .main) = none := by
    rw [main_event ex, hq]
    rfl
  have halive := alive_of_main hs (by rw [hq]; simp)
  rw [hq] at goes
  obtain ⟨hd, hq'⟩ := goes
  have hlook : ∀ i, decide (LookedAt s' i) = decide (LookedAt s i) := fun i => by
    simp only [LookedAt, hq, hq']
    rfl
  cases hslot : slotOfIndex (s.data.mainI - 1) with
  | none =>
      refine ⟨_, .inl rfl, ends_roster ?_ ?_ hlook ?_ ?_ ?_ halive⟩
      · rw [hd, markStarted_slots_none hslot]; rfl
      · intro i; rw [hevent]; rfl
      · simp [roster, hplace, hentry, hq', hq, hslot]
      · simp [roster, hplace, hentry]
      · simp [roster, hq, hq']
  | some i =>
      refine ⟨_, .inr (.setFlag i (by simp [roster, hentry, hq, hslot])),
        ends_roster ?_ ?_ hlook ?_ ?_ ?_ halive⟩
      · rw [hd, markStarted_slots hslot]; rfl
      · intro i; rw [hevent]; rfl
      · simp [roster, hplace, hentry, hq']
      · simp [roster, hplace, hentry]
      · simp [roster, hq, hq']

lemma stops_of_roster {i : Slot} (h : (roster s es).stopping = some i) : StopsPrinter s i := by
  simp only [roster] at h
  split at h
  · next hq => exact ⟨hq, h⟩
  · cases h

lemma starts_of_roster {i : Slot} (h : (roster s es).starting = some i)
    (hmain : s.mainPc ≠ .markStarted) : StartsPrinter s i := by
  simp only [roster, if_neg hmain] at h
  split at h
  · next hq => exact ⟨hq, h⟩
  · cases h

section CheckJoin

variable (hq : s.mainPc = .checkJoin)
  (goes : (mainCode setup s.mainPc).Goes s.data s'.data s'.mainPc)

include hq

lemma lookedAt_checkJoin (j : Slot) : LookedAt s j ↔ (j : Int) < s.data.mainI := by
  rw [LookedAt, hq]
  rfl

include goes

lemma checkJoin_goes :
    s'.data = s.data ∧ s'.mainPc = if s.data.mainI < maxPrinters then
      if Main.isSlotActive s.data then .joinPrinter else .countJoin else .joinRefiller := by
  rw [hq] at goes
  exact goes

/-- Within the slots, the walk looks at the next one. -/
lemma lookedAt_next (hmore : s.data.mainI < maxPrinters) (j : Slot) :
    LookedAt s' j ↔ (j : Int) < s.data.mainI + 1 := by
  obtain ⟨hd, hq'⟩ := checkJoin_goes hq goes
  rw [if_pos hmore] at hq'
  rw [LookedAt, hd, hq']
  split <;> rfl

lemma lookedAt_slot (hmore : s.data.mainI < maxPrinters) {i : Slot}
    (hslot : slotOfIndex s.data.mainI = some i) (j : Slot) :
    decide (LookedAt s' j) = Function.update (fun j => decide (LookedAt s j)) i true j := by
  have hi : (i : Int) = s.data.mainI := (slotOfIndex_eq_some.mp hslot).symm
  by_cases hj : j = i
  · subst hj
    simp [lookedAt_next hq goes hmore, hi]
  · have hne : (j : ℕ) ≠ i := fun hval => hj (Fin.ext hval)
    rw [Function.update_of_ne hj]
    refine decide_eq_decide.mpr ?_
    rw [lookedAt_next hq goes hmore, lookedAt_checkJoin hq]
    omega

/-- The look at a slot changes what the walk has looked at and whom it waits for. -/
lemma ends_checkJoin (hs : step (program setup) s (.run .main) = some s')
    (ex : Executes (program setup) s s' .main) (hplace : s'.autoscalerPc = s.autoscalerPc)
    {looked : Slot → Bool} {joining : Option Slot}
    (hlooked : ∀ j, decide (LookedAt s' j) = looked j)
    (hjoining : (roster s' es).joining = joining) :
    Roster.Ends { roster s es with looked := looked, joining := joining }
      (roster s' ((s.threadEvent (program setup) (.run .main)).toList ++ es)) := by
  obtain ⟨hd, hq'⟩ := checkJoin_goes hq goes
  have hevent : s.threadEvent (program setup) (.run .main) = none := by
    rw [main_event ex, hq]
    rfl
  have hstarting : (roster s' es).starting = (roster s es).starting := by
    have hne : s'.mainPc ≠ .markStarted := by
      rw [hq']
      split <;> (try split) <;> simp
    simp [roster, hplace, hd, hq, hne]
  have hstopping : (roster s' es).stopping = (roster s es).stopping := by
    simp [roster, hplace, hd]
  rw [hevent]
  exact ends_roster (by rw [hd]; rfl) (fun _ => rfl) hlooked hstarting hstopping hjoining
    (alive_of_main hs (by rw [hq]; simp))

end CheckJoin

/-- The walk looks at a slot. -/
lemma roster_checkJoin (hok : KeepsToWalk s (.run .main))
    (hs : step (program setup) s (.run .main) = some s')
    (ex : Executes (program setup) s s' .main) (hq : s.mainPc = .checkJoin)
    (goes : (mainCode setup s.mainPc).Goes s.data s'.data s'.mainPc)
    (hplace : s'.autoscalerPc = s.autoscalerPc) :
    MovesRoster s s' es ((s.threadEvent (program setup) (.run .main)).toList ++ es) := by
  obtain ⟨hd, hq'⟩ := checkJoin_goes hq goes
  by_cases hmore : s.data.mainI < maxPrinters
  · rw [if_pos hmore] at hq'
    cases hslot : slotOfIndex s.data.mainI with
    | none =>
        have hfree : Main.isSlotActive s.data = false := by rw [Main.isSlotActive, hslot]
        rw [hfree] at hq'
        refine ⟨_, .inl rfl, ends_checkJoin hq goes hs ex hplace (fun j => ?_) ?_⟩
        · have hne : (j : Int) ≠ s.data.mainI := fun hj => by
            rw [← hj, slotOfIndex_coe] at hslot
            cases hslot
          refine decide_eq_decide.mpr ?_
          rw [lookedAt_next hq goes hmore, lookedAt_checkJoin hq]
          omega
        · simp [roster, hq, hq']
    | some i =>
        obtain ⟨hstart, hstop⟩ := hok hq i hslot
        have hahead : ¬LookedAt s i := by
          rw [lookedAt_checkJoin hq, ← slotOfIndex_eq_some.mp hslot]
          exact lt_irrefl _
        by_cases hactive : (s.data.pool.printers i).active = true
        · have htaken : Main.isSlotActive s.data = true := by
            rw [Main.isSlotActive, hslot]
            exact hactive
          rw [htaken] at hq'
          refine ⟨_, .inr (.lookTaken i hactive (fun hst => hstop (stops_of_roster hst))
              (decide_eq_false_iff_not.mpr hahead) (by simp [roster, hq])),
            ends_checkJoin hq goes hs ex hplace (lookedAt_slot hq goes hmore hslot) ?_⟩
          simp [roster, hq', hd, hslot]
        · have hfree : Main.isSlotActive s.data = false := by
            rw [Main.isSlotActive, hslot]
            simpa using hactive
          rw [hfree] at hq'
          refine ⟨_, .inr (.lookFree i (Bool.eq_false_iff.mpr hactive)
              fun hst => hstart (starts_of_roster hst (by rw [hq]; simp))),
            ends_checkJoin hq goes hs ex hplace (lookedAt_slot hq goes hmore hslot) ?_⟩
          simp [roster, hq, hq']
  · rw [if_neg hmore] at hq'
    refine ⟨_, .inl rfl, ends_checkJoin hq goes hs ex hplace (fun j => ?_) ?_⟩
    · refine decide_eq_decide.mpr ?_
      rw [lookedAt_checkJoin hq, LookedAt, hq']
      show (j : Int) < maxPrinters ↔ _
      have := j.isLt
      omega
    · simp [roster, hq, hq']

/-- The walk joins a printer. -/
lemma roster_joinPrinter (hs : step (program setup) s (.run .main) = some s')
    (ex : Executes (program setup) s s' .main) (hq : s.mainPc = .joinPrinter)
    (hplace : s'.autoscalerPc = s.autoscalerPc) :
    MovesRoster s s' es ((s.threadEvent (program setup) (.run .main)).toList ++ es) := by
  have hi : s.instr (program setup) .main = _ := main_joinPrinter hq
  have hevent : s.threadEvent (program setup) (.run .main) =
      ((slotOfIndex s.data.mainI).map Tid.printer).map .joined := by
    rw [event_of_executes ex, hi]
    rfl
  have halive := alive_of_main hs (by rw [hq]; simp)
  have hgoes := ex.goes
  rw [hi] at hgoes
  obtain ⟨hd, hq'⟩ := hgoes
  change s'.mainPc = .countJoin at hq'
  have hlook : ∀ i, decide (LookedAt s' i) = decide (LookedAt s i) := fun i => by
    simp only [LookedAt, hq, hq', hd]
    rfl
  cases hslot : slotOfIndex s.data.mainI with
  | none =>
      rw [hslot] at hevent
      refine ⟨_, .inl rfl, ends_roster (by rw [hd]; rfl) ?_ hlook ?_ ?_ ?_ halive⟩
      · intro i; rw [hevent]; rfl
      · simp [roster, hplace, hd, hq', hq]
      · simp [roster, hplace, hd]
      · simp [roster, hq, hq', hslot]
  | some i =>
      rw [hslot] at hevent
      have hended := ended_of_join hs ex.running hi (u := .printer i) (by rw [hslot]; rfl)
      refine ⟨_, .inr (.join i (by simp [roster, hq, hslot]) ?_),
        ends_roster (by rw [hd]; rfl) ?_ hlook ?_ ?_ ?_ halive⟩
      · show (s.ctl (.printer i)).status.alive = false
        rw [hended]
        rfl
      · rw [hevent]; exact congrFun (joinCounts_joined i)
      · simp [roster, hplace, hd, hq', hq]
      · simp [roster, hplace, hd]
      · simp [roster, hq']

/-- **The main thread's steps are moves of the roster.** -/
theorem roster_main (h : Reach (program setup) ok (freshState setup) s) (ht : Targets s)
    (hok : KeepsToWalk s (.run .main)) (hs : step (program setup) s (.run .main) = some s')
    (ex : Executes (program setup) s s' .main)
    (goes : (mainCode setup s.mainPc).Goes s.data s'.data s'.mainPc)
    (hauto : s'.data.autoscaler = s.data.autoscaler) (hplace : s'.autoscalerPc = s.autoscalerPc) :
    MovesRoster s s' es ((s.threadEvent (program setup) (.run .main)).toList ++ es) := by
  by_cases hcreate : s.mainPc = .createPrinter
  · exact roster_createPrinter h ht hs ex hcreate hplace
  by_cases hmark : s.mainPc = .markStarted
  · exact roster_markStarted h hs ex hmark goes hplace
  by_cases hcheck : s.mainPc = .checkJoin
  · exact roster_checkJoin hok hs ex hcheck goes hplace
  by_cases hjoin : s.mainPc = .joinPrinter
  · exact roster_joinPrinter hs ex hjoin hplace
  obtain ⟨hactive, hlook, hmark', hjoin', hevent⟩ := main_quiet goes hcreate hmark hcheck hjoin
  refine ⟨_, .inl rfl, ends_roster hactive (fun i => ?_) (fun i => ?_) ?_ ?_ ?_
    (alive_of_main hs hcreate)⟩
  · rw [event_of_executes ex]
    exact joinCounts_none i _ (hevent i).1 (hevent i).2
  · exact decide_eq_decide.mpr (by rw [LookedAt, LookedAt, hlook])
  · simp [roster, hplace, hauto, hmark, hmark']
  · simp [roster, hplace, hauto]
  · simp [roster, hjoin, hjoin']

/-! ## The autoscaler's steps -/

/-- No printer is created by the autoscaler anywhere else. -/
lemma alive_of_autoscaler (hs : step (program setup) s (.run .autoscaler) = some s')
    (hq : s.autoscalerPc ≠ .upCreate) (j : Slot)
    (hj : (s'.ctl (.printer j)).status.alive = true) :
    (s.ctl (.printer j)).status.alive = true := by
  rcases alive_run hs hj with hold | hc
  · exact hold
  · exact absurd (autoscaler_creates hc).1 hq

/-- What the autoscaler leaves alone. -/
structure AutoscalerFrame (s s' : Sys) : Prop where
  place : s'.mainPc = s.mainPc
  mainI : s'.data.mainI = s.data.mainI
  stage : s.mainPc ≠ .markStarted

lemma AutoscalerFrame.looked (hf : AutoscalerFrame s s') (i : Slot) :
    decide (LookedAt s' i) = decide (LookedAt s i) :=
  decide_eq_decide.mpr (by rw [LookedAt, LookedAt, hf.place, hf.mainI])

lemma AutoscalerFrame.joining (hf : AutoscalerFrame s s') (es es' : List (ThreadEvent Tid)) :
    (roster s' es').joining = (roster s es).joining := by
  simp only [roster, hf.place, hf.mainI]

lemma autoscaler_mainI {q q' : AutoscalerPc} (h : (autoscalerCode setup q).Goes d d' q') :
    d'.mainI = d.mainI := by
  cases q with
  | exit => exact h.elim
  | upEmitIdle =>
      have hd : d' = emitStarted setup.mode d.autoscaler.newPrinterId d := h.1
      rw [hd, emitStarted]
      split <;> rfl
  | downMarkStopped => rw [h.1, Autoscaler.markStopped]; split <;> rfl
  | _ => obtain ⟨rfl, _⟩ := h; rfl

lemma autoscalerFrame (h : Reach (program setup) ok (freshState setup) s)
    (ex : Executes (program setup) s s' .autoscaler)
    (goes : (autoscalerCode setup s.autoscalerPc).Goes s.data s'.data s'.autoscalerPc)
    (hplace : s'.mainPc = s.mainPc) : AutoscalerFrame s s' :=
  ⟨hplace, autoscaler_mainI goes, fun hq => (autoscaler_entry h (by rw [hq]; decide)).2 _ ex⟩

/-- `scale_up` creates a printer. -/
lemma roster_upCreate (ht : Targets s) (hok : KeepsToWalk s (.run .autoscaler))
    (hs : step (program setup) s (.run .autoscaler) = some s')
    (ex : Executes (program setup) s s' .autoscaler) (hq : s.autoscalerPc = .upCreate)
    (hf : AutoscalerFrame s s') :
    MovesRoster s s' es ((s.threadEvent (program setup) (.run .autoscaler)).toList ++ es) := by
  have hi : s.instr (program setup) .autoscaler =
      .create (fun d => (slotOfIndex (d.autoscaler.newPrinterId - 1)).map .printer)
        scaleUpSharedArgs Data.createOk .upMarkStarted .upFail := by
    show autoscalerCode setup s.autoscalerPc = _
    rw [hq]
    rfl
  obtain ⟨hd, ⟨u, hevent, htarget, hcreated, hq', halive⟩ | ⟨hevent, hq', halive⟩⟩ :=
    create_cases hs ex.running hi
  · change s'.autoscalerPc = .upMarkStarted at hq'
    obtain ⟨i, hslot, rfl⟩ := Option.map_eq_some_iff.mp htarget
    have hahead : decide (LookedAt s i) = false :=
      decide_eq_false_iff_not.mpr (hok.1 hq hcreated i hslot)
    refine ⟨_, .inr (.start i (ht.starts hq i hslot) hahead (by simp [roster, hq, hf.stage])),
      ends_roster (by rw [hd]; rfl) ?_ hf.looked ?_ ?_ (hf.joining es _) fun j hj => ?_⟩
    · rw [hevent]; exact congrFun (joinCounts_created i)
    · simp [roster, hq', hd, hslot]
    · simp [roster, hq, hq']
    · by_cases hji : j = i
      · subst hji; simp
      · simpa [hji, roster] using halive (.printer j) (by simpa using hji) hj
  · change s'.autoscalerPc = .upFail at hq'
    refine ⟨_, .inl rfl, ends_roster (by rw [hd]; rfl) ?_ hf.looked ?_ ?_ (hf.joining es _)
      fun j => halive (.printer j)⟩
    · intro i; rw [hevent]; rfl
    · simp [roster, hq, hq', hf.place, hf.stage]
    · simp [roster, hq, hq']

/-- `scale_up` sets the flag. -/
lemma roster_upMarkStarted (hs : step (program setup) s (.run .autoscaler) = some s')
    (ex : Executes (program setup) s s' .autoscaler) (hq : s.autoscalerPc = .upMarkStarted)
    (goes : (autoscalerCode setup s.autoscalerPc).Goes s.data s'.data s'.autoscalerPc)
    (hf : AutoscalerFrame s s') :
    MovesRoster s s' es ((s.threadEvent (program setup) (.run .autoscaler)).toList ++ es) := by
  have hevent : s.threadEvent (program setup) (.run .autoscaler) = none := by
    rw [autoscaler_event ex, hq]
    rfl
  have halive := alive_of_autoscaler hs (by rw [hq]; simp)
  rw [hq] at goes
  obtain ⟨hd, hq'⟩ := goes
  cases hslot : slotOfIndex (s.data.autoscaler.newPrinterId - 1) with
  | none =>
      refine ⟨_, .inl rfl, ends_roster ?_ ?_ hf.looked ?_ ?_ (hf.joining es _) halive⟩
      · rw [hd, markStarted_slots_none hslot]; rfl
      · intro i; rw [hevent]; rfl
      · simp [roster, hq, hq', hslot, hf.place, hf.stage]
      · simp [roster, hq, hq']
  | some i =>
      refine ⟨_, .inr (.setFlag i (by simp [roster, hq, hslot])),
        ends_roster ?_ ?_ hf.looked ?_ ?_ (hf.joining es _) halive⟩
      · rw [hd, markStarted_slots hslot]; rfl
      · intro i; rw [hevent]; rfl
      · simp [roster, hq', hf.place, hf.stage]
      · simp [roster, hq, hq']

/-- `scale_down` joins a printer. -/
lemma roster_downJoin (ht : Targets s) (hok : KeepsToWalk s (.run .autoscaler))
    (hs : step (program setup) s (.run .autoscaler) = some s')
    (ex : Executes (program setup) s s' .autoscaler) (hq : s.autoscalerPc = .downJoin)
    (hf : AutoscalerFrame s s') :
    MovesRoster s s' es ((s.threadEvent (program setup) (.run .autoscaler)).toList ++ es) := by
  have hi : s.instr (program setup) .autoscaler =
      .join (fun d => d.autoscaler.printerToRemove.map .printer) .downRelockPool := by
    show autoscalerCode setup s.autoscalerPc = _
    rw [hq]
    rfl
  have hevent : s.threadEvent (program setup) (.run .autoscaler) =
      (s.data.autoscaler.printerToRemove.map Tid.printer).map .joined := by
    rw [event_of_executes ex, hi]
    rfl
  have halive := alive_of_autoscaler hs (by rw [hq]; simp)
  have hgoes := ex.goes
  rw [hi] at hgoes
  obtain ⟨hd, hq'⟩ := hgoes
  change s'.autoscalerPc = .downRelockPool at hq'
  cases hslot : s.data.autoscaler.printerToRemove with
  | none =>
      rw [hslot] at hevent
      refine ⟨_, .inl rfl,
        ends_roster (by rw [hd]; rfl) ?_ hf.looked ?_ ?_ (hf.joining es _) halive⟩
      · intro i; rw [hevent]; rfl
      · simp [roster, hq, hq', hf.place, hf.stage]
      · simp [roster, hq, hq', hd, hslot]
  | some i =>
      rw [hslot] at hevent
      have hended := ended_of_join hs ex.running hi (u := .printer i) (by rw [hslot]; rfl)
      have hahead : decide (LookedAt s i) = false :=
        decide_eq_false_iff_not.mpr (hok.2 hq i hslot)
      refine ⟨_, .inr (.stop i (ht.ends (by rw [hq]; rfl) i hslot) ?_ hahead
        (by simp [roster, hq])), ends_roster (by rw [hd]; rfl) ?_ hf.looked ?_ ?_ (hf.joining es _)
        halive⟩
      · show (s.ctl (.printer i)).status.alive = false
        rw [hended]
        rfl
      · rw [hevent]; exact congrFun (joinCounts_joined i)
      · simp [roster, hq, hq', hf.place, hf.stage]
      · simp [roster, hq', hd, hslot]

/-- `scale_down` clears the flag. -/
lemma roster_downMarkStopped (hs : step (program setup) s (.run .autoscaler) = some s')
    (ex : Executes (program setup) s s' .autoscaler) (hq : s.autoscalerPc = .downMarkStopped)
    (goes : (autoscalerCode setup s.autoscalerPc).Goes s.data s'.data s'.autoscalerPc)
    (hf : AutoscalerFrame s s') :
    MovesRoster s s' es ((s.threadEvent (program setup) (.run .autoscaler)).toList ++ es) := by
  have hevent : s.threadEvent (program setup) (.run .autoscaler) = none := by
    rw [autoscaler_event ex, hq]
    rfl
  have halive := alive_of_autoscaler hs (by rw [hq]; simp)
  rw [hq] at goes
  obtain ⟨hd, hq'⟩ := goes
  cases hslot : s.data.autoscaler.printerToRemove with
  | none =>
      rw [markStopped_none hslot] at hd
      refine ⟨_, .inl rfl,
        ends_roster (by rw [hd]; rfl) ?_ hf.looked ?_ ?_ (hf.joining es _) halive⟩
      · intro i; rw [hevent]; rfl
      · simp [roster, hq, hq', hf.place, hf.stage]
      · simp [roster, hq, hq', hslot]
  | some i =>
      refine ⟨_, .inr (.clearFlag i (by simp [roster, hq, hslot])),
        ends_roster ?_ ?_ hf.looked ?_ ?_ (hf.joining es _) halive⟩
      · rw [hd, markStopped_slots hslot]; rfl
      · intro i; rw [hevent]; rfl
      · simp [roster, hq, hq', hf.place, hf.stage]
      · simp [roster, hq']

/-- The instructions of the autoscaler outside these operations. -/
lemma autoscaler_quiet {q q' : AutoscalerPc} (h : (autoscalerCode setup q).Goes d d' q')
    (hcreate : q ≠ .upCreate) (hjoin : q ≠ .downJoin) (hrelock : q ≠ .downRelockPool) :
    q' ≠ .upMarkStarted ∧ ¬(q' = .downRelockPool ∨ q' = .downMarkStopped) ∧
      (autoscalerCode setup q).threadEvent d = none := by
  cases q with
  | upCreate => exact absurd rfl hcreate
  | downJoin => exact absurd rfl hjoin
  | downRelockPool => exact absurd rfl hrelock
  | exit => exact h.elim
  | readFlags | decideUp | decideDown | upChooseId | upCheckSlot =>
      obtain ⟨_, rfl⟩ := h
      simp only
      split <;> exact ⟨by simp, by simp, rfl⟩
  | downChoose =>
      obtain ⟨_, rfl⟩ := h
      simp only
      split <;> (try split) <;> exact ⟨by simp, by simp, rfl⟩
  | _ =>
      obtain ⟨_, rfl⟩ := h
      exact ⟨by simp, by simp, rfl⟩

/-- **The autoscaler's steps are moves of the roster.** -/
theorem roster_autoscaler (ht : Targets s) (hok : KeepsToWalk s (.run .autoscaler))
    (hs : step (program setup) s (.run .autoscaler) = some s')
    (ex : Executes (program setup) s s' .autoscaler)
    (goes : (autoscalerCode setup s.autoscalerPc).Goes s.data s'.data s'.autoscalerPc)
    (hf : AutoscalerFrame s s') :
    MovesRoster s s' es ((s.threadEvent (program setup) (.run .autoscaler)).toList ++ es) := by
  by_cases hcreate : s.autoscalerPc = .upCreate
  · exact roster_upCreate ht hok hs ex hcreate hf
  by_cases hmark : s.autoscalerPc = .upMarkStarted
  · exact roster_upMarkStarted hs ex hmark goes hf
  by_cases hjoin : s.autoscalerPc = .downJoin
  · exact roster_downJoin ht hok hs ex hjoin hf
  by_cases hclear : s.autoscalerPc = .downMarkStopped
  · exact roster_downMarkStopped hs ex hclear goes hf
  have hactive : s'.data.slots.active = s.data.slots.active := by
    rw [autoscaler_slots_of_ne goes hmark hclear]
  have halive := alive_of_autoscaler hs hcreate
  by_cases hrelock : s.autoscalerPc = .downRelockPool
  · have hevent : s.threadEvent (program setup) (.run .autoscaler) = none := by
      rw [autoscaler_event ex, hrelock]
      rfl
    rw [hrelock] at goes
    obtain ⟨hd, hq'⟩ := goes
    refine ⟨_, .inl rfl, ends_roster hactive ?_ hf.looked ?_ ?_ (hf.joining es _) halive⟩
    · intro i; rw [hevent]; rfl
    · simp [roster, hrelock, hq', hf.place, hf.stage]
    · simp [roster, hrelock, hq', hd]
  · obtain ⟨hmark', hstop', hnone⟩ := autoscaler_quiet goes hcreate hjoin hrelock
    have hevent : s.threadEvent (program setup) (.run .autoscaler) = none := by
      rw [event_of_executes ex]
      exact hnone
    refine ⟨_, .inl rfl, ends_roster hactive ?_ hf.looked ?_ ?_ (hf.joining es _) halive⟩
    · intro i; rw [hevent]; rfl
    · simp [roster, hmark, hmark', hf.place, hf.stage]
    · simp [roster, hstop', hrelock, hclear]

/-! ## Runs -/

/-- **Every step is a move of the roster.** -/
theorem roster_step (h : Reach (program setup) ok (freshState setup) s) (hok : KeepsToWalk s a)
    (hs : step (program setup) s a = some s') :
    MovesRoster s s' es ((s.threadEvent (program setup) a).toList ++ es) := by
  cases pool_move h hs with
  | main run ex goes hauto hplace =>
      subst run
      exact roster_main h (targets h) hok hs ex goes hauto hplace
  | autoscaler run ex goes hplace =>
      subst run
      exact roster_autoscaler (targets h) hok hs ex goes (autoscalerFrame h ex goes hplace)
  | other event slots hauto hmain hplace halive =>
      have hi : s'.data.mainI = s.data.mainI := congrArg SlotView.mainI slots
      refine ⟨_, .inl rfl, ends_roster (by rw [slots]; rfl) ?_ (fun i => ?_) ?_ ?_ ?_ halive⟩
      · intro i; rw [event]; rfl
      · exact decide_eq_decide.mpr (by rw [LookedAt, LookedAt, hmain, hi])
      · simp only [roster, hmain, hplace, hauto, hi]
      · simp only [roster, hplace, hauto]
      · simp only [roster, hmain, hi]

end Orchestrator
