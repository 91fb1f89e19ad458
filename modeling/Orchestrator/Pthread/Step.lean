import Orchestrator.Pthread.Semantics

/-!
# What one step can do

A step is opened in one place.  `step_effect` lists everything a step of the system does, to
memory, to the mutexes and to the control state of every thread; `step_move` is its coarser form
for facts about memory and program counters alone.  Proofs about a program case on the instruction
that was executed and never unfold `step`.

* `Instr.Goes` — what an instruction does to memory and to the program counter of its thread.
* `Instr.Locks` — what it does to the owners of the mutexes.
* `Others` — what it does to another thread: a broadcast wakes it, a cancellation request reaches
  it, or it is created.
-/

set_option linter.unusedSectionVars false

namespace Pthread

variable {T : Type} {Pc : T → Type} {M C A D E : Type} [DecidableEq T] [DecidableEq M]
  [DecidableEq C]
variable {p : Program T Pc M C A D E} {s s' : State T Pc M C A D} {a : Action T E}

/-! ## Frame lemmas of the state updates -/

namespace State

variable (t u : T)

@[simp] lemma goto_data (d : D) (q : Pc t) : (s.goto t d q).data = d := rfl
@[simp] lemma goto_owner (d : D) (q : Pc t) : (s.goto t d q).owner = s.owner := rfl
@[simp] lemma setStatus_data (st : Status M C) : (s.setStatus t st).data = s.data := rfl
@[simp] lemma setStatus_owner (st : Status M C) : (s.setStatus t st).owner = s.owner := rfl
@[simp] lemma setCtl_data (th : Thread (Pc t) M C A) : (s.setCtl t th).data = s.data := rfl
@[simp] lemma setCtl_owner (th : Thread (Pc t) M C A) : (s.setCtl t th).owner = s.owner := rfl
@[simp] lemma setOwner_data (m : M) (o : Owner T) : (s.setOwner m o).data = s.data := rfl
@[simp] lemma setOwner_ctl (m : M) (o : Owner T) : (s.setOwner m o).ctl = s.ctl := rfl
@[simp] lemma finish_data : (s.finish t).data = s.data := rfl

@[simp] lemma setOwner_owner (m m' : M) (o : Owner T) :
    (s.setOwner m o).owner m' = if m' = m then o else s.owner m' := by
  simp [setOwner, Function.update_apply]

lemma finish_owner (m : M) :
    (s.finish t).owner m = if s.owner m = .held t then .ended t else s.owner m := rfl

@[simp] lemma goto_ctl_self (d : D) (q : Pc t) :
    (s.goto t d q).ctl t = { s.ctl t with pc := q } := by
  simp [goto]

@[simp] lemma setStatus_ctl_self (st : Status M C) :
    (s.setStatus t st).ctl t = { s.ctl t with status := st } := by
  simp [setStatus, setCtl]

@[simp] lemma setCtl_ctl_self (th : Thread (Pc t) M C A) : (s.setCtl t th).ctl t = th := by
  simp [setCtl]

@[simp] lemma finish_ctl_self : (s.finish t).ctl t = { s.ctl t with status := .ended } := by
  simp [finish]

variable {t u}

lemma goto_ctl_of_ne (d : D) (q : Pc t) (h : u ≠ t) : (s.goto t d q).ctl u = s.ctl u := by
  simp [goto, h]

lemma setStatus_ctl_of_ne (st : Status M C) (h : u ≠ t) :
    (s.setStatus t st).ctl u = s.ctl u := by
  simp [setStatus, setCtl, h]

lemma setCtl_ctl_of_ne (th : Thread (Pc t) M C A) (h : u ≠ t) :
    (s.setCtl t th).ctl u = s.ctl u := by
  simp [setCtl, h]

lemma finish_ctl_of_ne (h : u ≠ t) : (s.finish t).ctl u = s.ctl u := by
  simp [finish, setStatus_ctl_of_ne _ h]

end State

section Wake

variable {P : Type} (c : C) (th : Thread P M C A)

@[simp] lemma wake_pc : (wake c th).pc = th.pc := by
  unfold wake; split <;> (try split) <;> rfl

@[simp] lemma wake_arg : (wake c th).arg = th.arg := by
  unfold wake; split <;> (try split) <;> rfl

@[simp] lemma wake_cancelPending : (wake c th).cancelPending = th.cancelPending := by
  unfold wake; split <;> (try split) <;> rfl

@[simp] lemma wake_cancelEnabled : (wake c th).cancelEnabled = th.cancelEnabled := by
  unfold wake; split <;> (try split) <;> rfl

/-- A broadcast touches only the threads that wait for it. -/
lemma wake_status : (wake c th).status =
    match th.status with
    | .waiting c' m => if c' = c then .woken m else .waiting c' m
    | st => st := by
  cases h : th.status with
  | waiting c' m => by_cases hc : c' = c <;> simp [wake, h, hc]
  | _ => simp [wake, h]

end Wake

/-! ## One instruction -/

namespace Instr

variable {P : Type}

/-- `i.Goes d d' q`: from memory `d` the instruction `i` can proceed to `q` with memory `d'`. -/
def Goes : Instr T P M C A D → D → D → P → Prop
  | .act f next, d, d', q => d' = f d ∧ q = next (f d)
  | .call _ f next, d, d', q => d' = f d ∧ q = next (f d)
  | .lock _ next, d, d', q => d' = d ∧ q = next
  | .unlock _ f next, d, d', q => d' = f d ∧ q = next (f d)
  | .wait _ _ next, d, d', q => d' = d ∧ q = next
  | .broadcast _ next, d, d', q => d' = d ∧ q = next
  | .sleep next, d, d', q => d' = d ∧ q = next
  | .setCancelState _ next, d, d', q => d' = d ∧ q = next
  | .cancel _ next, d, d', q => d' = d ∧ q = next
  | .create _ _ _ next fail, d, d', q => d' = d ∧ (q = next ∨ q = fail)
  | .join _ next, d, d', q => d' = d ∧ q = next
  | .exit, _, _, _ => False

/-- `i.Locks t o o'`: thread `t` can execute `i` when the owners are `o`, and `o'` are the owners
after it. -/
def Locks (t : T) : Instr T P M C A D → (M → Owner T) → (M → Owner T) → Prop
  | .call (some m) _ _, o, o' => o m = .free ∧ o' = o
  | .lock m _, o, o' => o m = .free ∧ o' = Function.update o m (.held t)
  | .unlock m _ _, o, o' => o m = .held t ∧ o' = Function.update o m .free
  | .wait _ m _, o, o' => o m = .held t ∧ o' = Function.update o m .free
  | _, o, o' => o' = o

/-- The status of a thread after the instruction. -/
def statusAfter : Instr T P M C A D → Status M C
  | .wait c m _ => .waiting c m
  | _ => .running

/-- Whether cancellation is enabled after the instruction. -/
def enabledAfter : Instr T P M C A D → Bool → Bool
  | .setCancelState b _, _ => b
  | _, b => b

/-- The thread an instruction creates, with its argument. -/
def spawns : Instr T P M C A D → D → Option (T × A)
  | .create u arg _ _ _, d => (u d).map (·, arg)
  | _, _ => none

/-- The thread an instruction asks to end. -/
def cancels : Instr T P M C A D → D → Option T
  | .cancel u _, d => u d
  | _, _ => none

/-- The condition variable an instruction broadcasts. -/
def wakes : Instr T P M C A D → Option C
  | .broadcast c _ => some c
  | _ => none

end Instr

/-- The instruction thread `t` is at. -/
def State.instr (p : Program T Pc M C A D E) (s : State T Pc M C A D) (t : T) :
    Instr T (Pc t) M C A D :=
  p.code t (s.ctl t).arg (s.ctl t).pc

/-! ## One step -/

/-- A step of `t` created `u`. -/
structure Created (p : Program T Pc M C A D E) (s s' : State T Pc M C A D) (t u : T) : Prop where
  notAlive : (s.ctl u).status.alive = false
  spawned : (s.instr p t).spawns s.data = some (u, (s'.ctl u).arg)
  succeeds : ∀ target arg ok next fail, s.instr p t = .create target arg ok next fail →
    (s'.ctl t).pc = next
  fresh : s'.ctl u = ⟨p.entry u, (s'.ctl u).arg, .running, true, false⟩

/-- What an instruction of `t` does to another thread `u`. -/
inductive Others (p : Program T Pc M C A D E) (s s' : State T Pc M C A D) (t u : T) : Prop where
  | same (quiet : (s.instr p t).wakes = none) (ctl : s'.ctl u = s.ctl u)
  | woken (c : C) (wakes : (s.instr p t).wakes = some c) (ctl : s'.ctl u = wake c (s.ctl u))
  | asked (cancels : (s.instr p t).cancels s.data = some u)
      (ctl : s'.ctl u = { s.ctl u with cancelPending := true })
  | created (h : Created p s s' t u)

/-- Thread `t` executes the instruction it is at. -/
structure Executes (p : Program T Pc M C A D E) (s s' : State T Pc M C A D) (t : T) : Prop where
  running : (s.ctl t).status = .running
  goes : (s.instr p t).Goes s.data s'.data (s'.ctl t).pc
  locks : (s.instr p t).Locks t s.owner s'.owner
  arg : (s'.ctl t).arg = (s.ctl t).arg
  status : (s'.ctl t).status = (s.instr p t).statusAfter
  enabled : (s'.ctl t).cancelEnabled = (s.instr p t).enabledAfter (s.ctl t).cancelEnabled
  pending : (s'.ctl t).cancelPending =
    ((s.ctl t).cancelPending || decide ((s.instr p t).cancels s.data = some t))
  others : ∀ u, u ≠ t → Others p s s' t u

/-- Everything a step of the system can do. -/
inductive Effect (p : Program T Pc M C A D E) (s s' : State T Pc M C A D) : Action T E → Prop where
  | exec (t : T) (h : Executes p s s' t) : Effect p s s' (.run t)
  | exit (t : T) (running : (s.ctl t).status = .running) (instr : s.instr p t = .exit)
      (eq : s' = s.finish t) : Effect p s s' (.run t)
  | resume (t : T) (m : M) (woken : (s.ctl t).status = .woken m) (free : s.owner m = .free)
      (eq : s' = (s.setStatus t .running).setOwner m (.held t)) : Effect p s s' (.run t)
  | die (t : T) (m : M) (cancelled : (s.ctl t).status = .cancelled m) (free : s.owner m = .free)
      (eq : s' = (s.setOwner m (.held t)).finish t) : Effect p s s' (.run t)
  | acceptRunning (t : T) (must : (s.ctl t).mustCancel = true)
      (running : (s.ctl t).status = .running) (point : (s.instr p t).isCancelPoint = true)
      (eq : s' = s.finish t) : Effect p s s' (.accept t)
  | acceptWaiting (t : T) (m : M) (must : (s.ctl t).mustCancel = true)
      (waits : (∃ c, (s.ctl t).status = .waiting c m) ∨ (s.ctl t).status = .woken m)
      (eq : s' = s.setStatus t (.cancelled m)) : Effect p s s' (.accept t)
  | spurious (t : T) (c : C) (m : M) (waiting : (s.ctl t).status = .waiting c m)
      (eq : s' = s.setStatus t (.woken m)) : Effect p s s' (.spurious t)
  | env (e : E) (eq : s' = { s with data := p.env e s.data }) : Effect p s s' (.env e)

/-- An instruction that touches only its own thread. -/
lemma Executes.of_frame {t : T} (running : (s.ctl t).status = .running)
    (goes : (s.instr p t).Goes s.data s'.data (s'.ctl t).pc)
    (locks : (s.instr p t).Locks t s.owner s'.owner)
    (quiet : (s.instr p t).wakes = none)
    (hctl : ∃ q, s'.ctl t = { s.ctl t with
      pc := q
      status := (s.instr p t).statusAfter
      cancelEnabled := (s.instr p t).enabledAfter (s.ctl t).cancelEnabled })
    (hcancels : (s.instr p t).cancels s.data = none)
    (hothers : ∀ u, u ≠ t → s'.ctl u = s.ctl u) : Executes p s s' t := by
  obtain ⟨q, hq⟩ := hctl
  exact
    { running, goes, locks
      arg := by rw [hq]
      status := by rw [hq]
      enabled := by rw [hq]
      pending := by rw [hq, hcancels]; simp
      others := fun u hu => .same quiet (hothers u hu) }

/-- The instruction moves its thread on, touches at most memory and one mutex, and reaches no other
thread unless it creates one. -/
def Instr.isPlain {P : Type} : Instr T P M C A D → Bool
  | .act _ _ | .call _ _ _ | .lock _ _ | .unlock _ _ _ | .sleep _ | .create _ _ _ _ _
  | .join _ _ => true
  | _ => false

lemma Instr.plain_effects {P : Type} {i : Instr T P M C A D} (h : i.isPlain = true) :
    i.wakes = none ∧ (∀ d, i.cancels d = none) ∧ i.statusAfter = .running ∧
      ∀ b, i.enabledAfter b = b := by
  cases i with
  | wait | broadcast | setCancelState | cancel | exit => cases h
  | _ => exact ⟨rfl, fun _ => rfl, rfl, fun _ => rfl⟩

section Exec

variable {t : T} (hrun : (s.ctl t).status = .running)

include hrun

/-- A plain instruction moves its thread on. -/
lemma Executes.of_plain {i : Instr T (Pc t) M C A D} {d : D} {q : Pc t} {o : M → Owner T}
    (hi : s.instr p t = i) (hplain : i.isPlain = true) (goes : i.Goes s.data d q)
    (locks : i.Locks t s.owner o) : Executes p s { s.goto t d q with owner := o } t := by
  subst hi
  obtain ⟨hwakes, hcancels, hstatus, henabled⟩ := Instr.plain_effects hplain
  refine .of_frame hrun ?_ locks hwakes ⟨q, ?_⟩ (hcancels _) fun u hu => State.goto_ctl_of_ne d q hu
  · simpa using goes
  · rw [hstatus, henabled, ← hrun]
    exact State.goto_ctl_self t d q

lemma exec_wait {c : C} {m : M} {next : Pc t} (hi : s.instr p t = .wait c m next)
    (hheld : s.owner m = .held t) :
    Executes p s (((s.goto t s.data next).setStatus t (.waiting c m)).setOwner m .free) t := by
  refine .of_frame hrun ?_ ?_ ?_ ⟨next, ?_⟩ ?_ fun u hu => ?_
  case refine_6 =>
    rw [State.setOwner_ctl, State.setStatus_ctl_of_ne _ hu, State.goto_ctl_of_ne _ _ hu]
  all_goals
    rw [hi]
    simp [Instr.Goes, Instr.Locks, Instr.wakes, Instr.statusAfter, Instr.enabledAfter,
      Instr.cancels, hheld, State.setOwner]

lemma exec_broadcast {c : C} {next : Pc t} (hi : s.instr p t = .broadcast c next)
    (h : exec p s t (.broadcast c next) = some s') : Executes p s s' t := by
  obtain rfl := Option.some.inj h
  refine
    { running := hrun
      goes := by simp [hi, Instr.Goes]
      locks := by simp [hi, Instr.Locks]
      arg := by simp
      status := by simp [Instr.statusAfter, hi, wake_status, hrun]
      enabled := by simp [Instr.enabledAfter, hi]
      pending := by simp [Instr.cancels, hi]
      others := fun u hu => .woken c (by simp [hi, Instr.wakes]) ?_ }
  simp [State.goto_ctl_of_ne _ _ hu]

lemma exec_setCancelState {b : Bool} {next : Pc t} (hi : s.instr p t = .setCancelState b next)
    (h : exec p s t (.setCancelState b next) = some s') : Executes p s s' t := by
  obtain rfl := Option.some.inj h
  refine .of_frame hrun ?_ ?_ ?_ ⟨next, ?_⟩ ?_ fun u hu => ?_
  case refine_6 => rw [State.setCtl_ctl_of_ne _ hu, State.goto_ctl_of_ne _ _ hu]
  all_goals
    rw [hi]
    simp [Instr.Goes, Instr.Locks, Instr.wakes, Instr.statusAfter, Instr.enabledAfter,
      Instr.cancels, hrun]

/-- A cancellation request may reach its own sender. -/
lemma exec_cancel {target : D → Option T} {next : Pc t} (hi : s.instr p t = .cancel target next)
    (h : exec p s t (.cancel target next) = some s') : Executes p s s' t := by
  simp only [exec] at h
  split at h
  · next hv =>
    obtain rfl := Option.some.inj h
    refine .of_frame hrun ?_ ?_ ?_ ⟨next, ?_⟩ ?_ fun u hu => State.goto_ctl_of_ne _ _ hu
    all_goals
      rw [hi]
      simp [Instr.Goes, Instr.Locks, Instr.wakes, Instr.statusAfter, Instr.enabledAfter,
        Instr.cancels, hrun, hv]
  · next v hv =>
    obtain rfl := Option.some.inj h
    by_cases hvt : v = t
    · subst hvt
      refine
        { running := hrun
          goes := by simp [hi, Instr.Goes]
          locks := by simp [hi, Instr.Locks]
          arg := by simp
          status := by simp [Instr.statusAfter, hi, hrun]
          enabled := by simp [Instr.enabledAfter, hi]
          pending := by simp [Instr.cancels, hi, hv]
          others := fun u hu => .same (by simp [hi, Instr.wakes]) ?_ }
      rw [State.setCtl_ctl_of_ne _ hu, State.goto_ctl_of_ne _ _ hu]
    · have ht : ∀ th, ((s.goto t s.data next).setCtl v th).ctl t = { s.ctl t with pc := next } :=
        fun th => by rw [State.setCtl_ctl_of_ne _ (Ne.symm hvt), State.goto_ctl_self]
      refine
        { running := hrun
          goes := by simp [hi, Instr.Goes, ht]
          locks := by simp [hi, Instr.Locks]
          arg := by simp [ht]
          status := by simp [Instr.statusAfter, ht, hi, hrun]
          enabled := by simp [Instr.enabledAfter, ht, hi]
          pending := by simp [Instr.cancels, ht, hi, hv, hvt]
          others := fun u hu => ?_ }
      by_cases huv : u = v
      · subst huv
        exact .asked (by simp [hi, Instr.cancels, hv]) (by simp [State.goto_ctl_of_ne _ _ hu])
      · refine .same (by simp [hi, Instr.wakes]) ?_
        rw [State.setCtl_ctl_of_ne _ huv, State.goto_ctl_of_ne _ _ hu]

/-- A thread that is created starts at its entry. -/
lemma exec_create {target : D → Option T} {arg : A} {ok : D → Bool} {next fail : Pc t} {v : T}
    (hi : s.instr p t = .create target arg ok next fail) (hv : target s.data = some v)
    (hdead : (s.ctl v).status.alive = false) :
    Executes p s ((s.goto t s.data next).setCtl v ⟨p.entry v, arg, .running, true, false⟩) t := by
  have hne : t ≠ v := by
    rintro rfl
    simp [hrun, Status.alive] at hdead
  have ht : ∀ th, ((s.goto t s.data next).setCtl v th).ctl t = { s.ctl t with pc := next } :=
    fun th => by rw [State.setCtl_ctl_of_ne _ hne, State.goto_ctl_self]
  refine
    { running := hrun
      goes := by simp [hi, Instr.Goes, ht]
      locks := by simp [hi, Instr.Locks]
      arg := by simp [ht]
      status := by simp [Instr.statusAfter, ht, hi, hrun]
      enabled := by simp [Instr.enabledAfter, ht, hi]
      pending := by simp [Instr.cancels, ht, hi]
      others := fun u hu => ?_ }
  by_cases huv : u = v
  · subst huv
    refine .created ⟨hdead, by simp [hi, Instr.spawns, hv], ?_, by simp⟩
    intro _ _ _ _ _ hi'
    cases hi.symm.trans hi'
    rw [ht]
  · refine .same (by simp [hi, Instr.wakes]) ?_
    rw [State.setCtl_ctl_of_ne _ huv, State.goto_ctl_of_ne _ _ hu]

/-- What `exec` does, instruction by instruction. -/
lemma exec_effect (h : exec p s t (s.instr p t) = some s') : Effect p s s' (.run t) := by
  generalize hi : s.instr p t = i at h
  cases i with
  | act f next =>
      obtain rfl := Option.some.inj h
      exact .exec t (.of_plain hrun hi rfl ⟨rfl, rfl⟩ rfl)
  | call m f next =>
      cases m with
      | none =>
          obtain rfl := Option.some.inj h
          exact .exec t (.of_plain hrun hi rfl ⟨rfl, rfl⟩ rfl)
      | some m =>
          simp only [exec] at h
          split at h
          · next hfree =>
            obtain rfl := Option.some.inj h
            exact .exec t (.of_plain hrun hi rfl ⟨rfl, rfl⟩ ⟨hfree, rfl⟩)
          · cases h
  | lock m next =>
      simp only [exec] at h
      split at h
      · next hfree =>
        obtain rfl := Option.some.inj h
        exact .exec t (.of_plain hrun hi rfl ⟨rfl, rfl⟩ ⟨hfree, rfl⟩)
      · cases h
  | unlock m f next =>
      simp only [exec] at h
      split at h
      · next hheld =>
        obtain rfl := Option.some.inj h
        exact .exec t (.of_plain hrun hi rfl ⟨rfl, rfl⟩ ⟨hheld, rfl⟩)
      · cases h
  | wait c m next =>
      simp only [exec] at h
      split at h
      · next hheld =>
        obtain rfl := Option.some.inj h
        exact .exec t (exec_wait hrun hi hheld)
      · cases h
  | broadcast c next => exact .exec t (exec_broadcast hrun hi h)
  | sleep next =>
      simp only [exec] at h
      split at h
      · cases h
      · obtain rfl := Option.some.inj h
        exact .exec t (.of_plain hrun hi rfl ⟨rfl, rfl⟩ rfl)
  | setCancelState b next => exact .exec t (exec_setCancelState hrun hi h)
  | cancel target next => exact .exec t (exec_cancel hrun hi h)
  | create target arg ok next fail =>
      have hfail : Executes p s (s.goto t s.data fail) t :=
        .of_plain hrun hi rfl ⟨rfl, .inr rfl⟩ rfl
      simp only [exec] at h
      split at h
      · exact .exec t (Option.some.inj h ▸ hfail)
      · next v hv =>
        split at h
        · cases h
        · next hdead =>
          split at h
          · obtain rfl := Option.some.inj h
            exact .exec t (exec_create hrun hi hv (by simpa using hdead))
          · exact .exec t (Option.some.inj h ▸ hfail)
  | join target next =>
      have hnext : Executes p s (s.goto t s.data next) t := .of_plain hrun hi rfl ⟨rfl, rfl⟩ rfl
      simp only [exec] at h
      split at h
      · cases h
      · split at h
        · exact .exec t (Option.some.inj h ▸ hnext)
        · split at h
          · exact .exec t (Option.some.inj h ▸ hnext)
          · cases h
  | exit => exact .exit t hrun hi (Option.some.inj h).symm

end Exec

/-- **Step inversion.** -/
theorem step_effect (h : step p s a = some s') : Effect p s s' a := by
  cases a with
  | run t =>
      simp only [step] at h
      split at h
      · next hrun => exact exec_effect hrun h
      · next m hm =>
        split at h
        · next hfree => exact .resume t m hm hfree (Option.some.inj h).symm
        · cases h
      · next m hm =>
        split at h
        · next hfree => exact .die t m hm hfree (Option.some.inj h).symm
        · cases h
      · cases h
  | accept t =>
      simp only [step] at h
      split at h
      · next hmust =>
        split at h
        · next hrun =>
          split at h
          · next hpoint => exact .acceptRunning t hmust hrun hpoint (Option.some.inj h).symm
          · cases h
        · next c m hm =>
          exact .acceptWaiting t m hmust (.inl ⟨c, hm⟩) (Option.some.inj h).symm
        · next m hm => exact .acceptWaiting t m hmust (.inr hm) (Option.some.inj h).symm
        · cases h
      · cases h
  | spurious t =>
      simp only [step] at h
      split at h
      · next c m hm => exact .spurious t c m hm (Option.some.inj h).symm
      · cases h
  | env e => exact .env e (Option.some.inj h).symm

/-- A join returns when the thread it waits for has ended. -/
theorem ended_of_join {t u : T} {target : D → Option T} {next : Pc t}
    (h : step p s (.run t) = some s') (hrun : (s.ctl t).status = .running)
    (hi : s.instr p t = .join target next) (hu : target s.data = some u) :
    (s.ctl u).status = .ended := by
  simp only [step, hrun] at h
  rw [State.instr] at hi
  simp only [hi, exec, hu] at h
  split at h
  · cases h
  · split at h
    · next hended => exact hended
    · cases h

end Pthread
