import Orchestrator.Pthread.Reach

/-!
# The control state of one thread

`step_effect` seen from one thread (`thread_step`), and what follows for its status, its program
counter and its cancellation flags.

* `step_move` — memory and program counters, for invariants that do not mention a status.
* `waiting_step` — a thread that waits was waiting and nobody broadcast, or it just began to.
* `settled` — a thread that nobody cancels is, while it is not alive, at its entry or its exit.
-/

set_option linter.unusedSectionVars false

namespace Pthread

variable {T : Type} {Pc : T → Type} {M C A D E : Type} [DecidableEq T] [DecidableEq M]
  [DecidableEq C]
variable {p : Program T Pc M C A D E} {s s' s₀ : State T Pc M C A D} {a : Action T E}
variable {ok : State T Pc M C A D → Action T E → Prop}

/-! ## Memory and program counters -/

/-- A thread is where it was. -/
def Thread.SamePlace {P : Type} (th th' : Thread P M C A) : Prop :=
  th'.pc = th.pc ∧ th'.arg = th.arg

/-- What a step does to memory and to the program counters: nothing, what the environment does, or
one instruction of one thread. -/
inductive Move (p : Program T Pc M C A D E) (s s' : State T Pc M C A D) : Prop where
  | idle (data : s'.data = s.data) (places : ∀ u, (s.ctl u).SamePlace (s'.ctl u))
  | env (e : E) (data : s'.data = p.env e s.data)
      (places : ∀ u, (s.ctl u).SamePlace (s'.ctl u))
  | exec (t : T) (h : Executes p s s' t)

lemma Thread.SamePlace.refl {P : Type} (th : Thread P M C A) : th.SamePlace th := ⟨rfl, rfl⟩

lemma samePlace_setStatus (t : T) (st : Status M C) (u : T) :
    (s.ctl u).SamePlace ((s.setStatus t st).ctl u) := by
  by_cases hu : u = t
  · subst hu; simp [Thread.SamePlace]
  · rw [State.setStatus_ctl_of_ne st hu]; exact .refl _

/-- **Step inversion for memory and program counters.** -/
theorem step_move (h : step p s a = some s') : Move p s s' := by
  cases step_effect h with
  | exec t ex => exact .exec t ex
  | exit t _ _ eq => subst eq; exact .idle rfl (samePlace_setStatus t .ended)
  | resume t m _ _ eq => subst eq; exact .idle rfl (samePlace_setStatus t .running)
  | die t m _ _ eq => subst eq; exact .idle rfl (samePlace_setStatus t .ended)
  | acceptRunning t _ _ _ eq => subst eq; exact .idle rfl (samePlace_setStatus t .ended)
  | acceptWaiting t m _ _ eq => subst eq; exact .idle rfl (samePlace_setStatus t (.cancelled m))
  | spurious t c m _ eq => subst eq; exact .idle rfl (samePlace_setStatus t (.woken m))
  | env e eq => subst eq; exact .env e rfl fun _ => .refl _

/-- Another thread stays where it is, unless it is created. -/
lemma Executes.other_place {t u : T} (h : Executes p s s' t) (hu : u ≠ t) :
    (s.ctl u).SamePlace (s'.ctl u) ∨ Created p s s' t u := by
  cases h.others u hu with
  | same _ ctl => left; rw [ctl]; exact .refl _
  | woken c _ ctl => left; rw [ctl]; exact ⟨wake_pc c _, wake_arg c _⟩
  | asked _ ctl => left; rw [ctl]; exact ⟨rfl, rfl⟩
  | created hc => exact .inr hc

/-! ## One thread -/

/-- What a step does to the control state of thread `u`. -/
inductive ThreadStep (p : Program T Pc M C A D E) (s s' : State T Pc M C A D) (u : T) :
    Action T E → Prop where
  | same {a : Action T E} (ctl : s'.ctl u = s.ctl u) : ThreadStep p s s' u a
  | exec (h : Executes p s s' u) : ThreadStep p s s' u (.run u)
  | created (t : T) (hne : u ≠ t) (ex : Executes p s s' t) (h : Created p s s' t u) :
      ThreadStep p s s' u (.run t)
  | asked (t : T) (ex : Executes p s s' t) (cancels : (s.instr p t).cancels s.data = some u)
      (ctl : s'.ctl u = { s.ctl u with cancelPending := true }) : ThreadStep p s s' u (.run t)
  | woken {a : Action T E} (c : C) (m : M) (waiting : (s.ctl u).status = .waiting c m)
      (ctl : s'.ctl u = { s.ctl u with status := .woken m }) : ThreadStep p s s' u a
  | resume (m : M) (woken : (s.ctl u).status = .woken m)
      (ctl : s'.ctl u = { s.ctl u with status := .running }) : ThreadStep p s s' u (.run u)
  | exit (running : (s.ctl u).status = .running) (instr : s.instr p u = .exit)
      (ctl : s'.ctl u = { s.ctl u with status := .ended }) : ThreadStep p s s' u (.run u)
  | die (m : M) (cancelled : (s.ctl u).status = .cancelled m)
      (ctl : s'.ctl u = { s.ctl u with status := .ended }) : ThreadStep p s s' u (.run u)
  | killed (must : (s.ctl u).mustCancel = true) (running : (s.ctl u).status = .running)
      (point : (s.instr p u).isCancelPoint = true)
      (ctl : s'.ctl u = { s.ctl u with status := .ended }) : ThreadStep p s s' u (.accept u)
  | caught (m : M) (must : (s.ctl u).mustCancel = true)
      (waits : (∃ c, (s.ctl u).status = .waiting c m) ∨ (s.ctl u).status = .woken m)
      (ctl : s'.ctl u = { s.ctl u with status := .cancelled m }) :
      ThreadStep p s s' u (.accept u)

lemma Executes.thread_step {t : T} (h : Executes p s s' t) (u : T) :
    ThreadStep p s s' u (.run t) := by
  by_cases hu : u = t
  · subst hu; exact .exec h
  · cases h.others u hu with
    | same _ ctl => exact .same ctl
    | woken c _ ctl =>
        cases hst : (s.ctl u).status with
        | waiting c' m =>
            by_cases hc : c' = c
            · subst hc
              exact .woken c' m hst (by rw [ctl]; simp [wake, hst])
            · exact .same (by rw [ctl]; simp [wake, hst, hc])
        | _ => exact .same (by rw [ctl]; simp [wake, hst])
    | asked hc ctl => exact .asked t h hc ctl
    | created hc => exact .created t hu h hc

/-- **Step inversion for one thread.** -/
theorem thread_step (h : step p s a = some s') (u : T) : ThreadStep p s s' u a := by
  cases step_effect h with
  | exec t ex => exact ex.thread_step u
  | exit t running instr eq =>
      subst eq
      by_cases hu : u = t
      · subst hu; exact .exit running instr (by simp)
      · exact .same (State.finish_ctl_of_ne hu)
  | resume t m woken _ eq =>
      subst eq
      by_cases hu : u = t
      · subst hu; exact .resume m woken (by simp)
      · exact .same (State.setStatus_ctl_of_ne _ hu)
  | die t m cancelled _ eq =>
      subst eq
      by_cases hu : u = t
      · subst hu; exact .die m cancelled (by simp)
      · exact .same (State.finish_ctl_of_ne hu)
  | acceptRunning t must running point eq =>
      subst eq
      by_cases hu : u = t
      · subst hu; exact .killed must running point (by simp)
      · exact .same (State.finish_ctl_of_ne hu)
  | acceptWaiting t m must waits eq =>
      subst eq
      by_cases hu : u = t
      · subst hu; exact .caught m must waits (by simp)
      · exact .same (State.setStatus_ctl_of_ne _ hu)
  | spurious t c m waiting eq =>
      subst eq
      by_cases hu : u = t
      · subst hu; exact .woken c m waiting (by simp)
      · exact .same (State.setStatus_ctl_of_ne _ hu)
  | env e eq => subst eq; exact .same rfl

/-- A thread stays where it is, executes an instruction, or is created. -/
lemma place_cases (h : step p s a = some s') (u : T) :
    (s.ctl u).SamePlace (s'.ctl u) ∨ (a = .run u ∧ Executes p s s' u) ∨
      ∃ t, Executes p s s' t ∧ Created p s s' t u := by
  cases thread_step h u with
  | same ctl => left; rw [ctl]; exact .refl _
  | exec ex => exact .inr (.inl ⟨rfl, ex⟩)
  | created t _ ex hc => exact .inr (.inr ⟨t, ex, hc⟩)
  | asked t _ _ ctl => left; rw [ctl]; exact ⟨rfl, rfl⟩
  | woken c m _ ctl => left; rw [ctl]; exact ⟨rfl, rfl⟩
  | resume m _ ctl => left; rw [ctl]; exact ⟨rfl, rfl⟩
  | exit _ _ ctl => left; rw [ctl]; exact ⟨rfl, rfl⟩
  | die m _ ctl => left; rw [ctl]; exact ⟨rfl, rfl⟩
  | killed _ _ _ ctl => left; rw [ctl]; exact ⟨rfl, rfl⟩
  | caught m _ _ ctl => left; rw [ctl]; exact ⟨rfl, rfl⟩

/-- An instruction that moves its thread is executed by running the thread. -/
lemma run_of_moves (h : step p s a = some s') {u : T} (ex : Executes p s s' u)
    (hpc : (s'.ctl u).pc ≠ (s.ctl u).pc) : a = .run u := by
  rcases place_cases h u with hpl | ⟨rfl, _⟩ | ⟨_, _, hc⟩
  · exact absurd hpl.1 hpc
  · rfl
  · have := hc.notAlive
    rw [ex.running] at this
    cases this

/-- A thread that executes no instruction stays where it is, unless it is created. -/
lemma place_step (h : step p s a = some s') {u : T} (hu : ¬Executes p s s' u) :
    (s.ctl u).SamePlace (s'.ctl u) ∨ ∃ t, Executes p s s' t ∧ Created p s s' t u :=
  (place_cases h u).imp_right fun hc => hc.resolve_left fun ⟨_, ex⟩ => hu ex

/-- A thread that does not exist yet is created, or nothing happens to it but a request to end. -/
lemma absent_step (h : step p s a = some s') {u : T} (hu : (s.ctl u).status = .absent) :
    ((s'.ctl u).status = .absent ∧ (s.ctl u).SamePlace (s'.ctl u)) ∨
      ∃ t, Executes p s s' t ∧ Created p s s' t u := by
  cases thread_step h u with
  | same ctl => left; rw [ctl]; exact ⟨hu, .refl _⟩
  | exec ex => rw [ex.running] at hu; cases hu
  | created t _ ex hc => exact .inr ⟨t, ex, hc⟩
  | asked t _ _ ctl => left; rw [ctl]; exact ⟨hu, ⟨rfl, rfl⟩⟩
  | woken c m hw _ => rw [hu] at hw; cases hw
  | resume m hw _ => rw [hu] at hw; cases hw
  | exit hr _ _ => rw [hu] at hr; cases hr
  | die m hw _ => rw [hu] at hw; cases hw
  | killed _ hr _ _ => rw [hu] at hr; cases hr
  | caught m _ hw _ => rcases hw with ⟨c, hw⟩ | hw <;> rw [hu] at hw <;> cases hw

/-! ## Waiting -/

/-- An instruction leaves its thread running or waiting. -/
lemma Instr.statusAfter_cases {P : Type} (i : Instr T P M C A D) :
    i.statusAfter = .running ∨ ∃ c m next, i = .wait c m next ∧ i.statusAfter = .waiting c m := by
  cases i with
  | wait c m next => exact .inr ⟨c, m, next, rfl, rfl⟩
  | _ => exact .inl rfl

/-- A broadcast leaves nobody waiting. -/
lemma Executes.not_wakes {t u : T} {c : C} {m : M} (h : Executes p s s' t)
    (hw : (s'.ctl u).status = .waiting c m) : (s.instr p t).wakes ≠ some c := by
  intro hwakes
  obtain ⟨next, hi⟩ : ∃ next, s.instr p t = .broadcast c next := by
    cases hi : s.instr p t <;> rw [hi] at hwakes <;> cases hwakes
    exact ⟨_, rfl⟩
  by_cases hu : u = t
  · subst hu
    rw [h.status, hi] at hw
    cases hw
  · cases h.others u hu with
    | same quiet _ => rw [quiet] at hwakes; cases hwakes
    | woken c' hc ctl =>
        obtain rfl : c' = c := by rw [hc] at hwakes; exact Option.some.inj hwakes
        rw [ctl, wake_status] at hw
        cases hst : (s.ctl u).status with
        | waiting c m' =>
            rw [hst] at hw
            by_cases hc' : c = c'
            · simp [hc'] at hw
            · simp [hc'] at hw
        | _ => rw [hst] at hw; cases hw
    | asked hc _ => rw [hi] at hc; cases hc
    | created hc => rw [hc.fresh] at hw; cases hw

/-- A thread that waits after a step was waiting before it, or the step is the beginning of its
wait. -/
theorem waiting_step (h : step p s a = some s') {u : T} {c : C} {m : M}
    (hw : (s'.ctl u).status = .waiting c m) :
    ((s.ctl u).status = .waiting c m ∧ (s.ctl u).SamePlace (s'.ctl u)) ∨
      (Executes p s s' u ∧ ∃ next, s.instr p u = .wait c m next) := by
  cases thread_step h u with
  | same ctl => rw [ctl] at hw ⊢; exact .inl ⟨hw, .refl _⟩
  | exec ex =>
      rcases (s.instr p u).statusAfter_cases with hr | ⟨c', m', next, hi, hst⟩
      · rw [ex.status, hr] at hw; cases hw
      · rw [ex.status, hst] at hw
        cases hw
        exact .inr ⟨ex, next, hi⟩
  | created t _ _ hc => rw [hc.fresh] at hw; cases hw
  | asked t ex hc ctl => rw [ctl] at hw ⊢; exact .inl ⟨hw, ⟨rfl, rfl⟩⟩
  | woken c' m' _ ctl => rw [ctl] at hw; cases hw
  | resume m' _ ctl => rw [ctl] at hw; cases hw
  | exit _ _ ctl => rw [ctl] at hw; cases hw
  | die m' _ ctl => rw [ctl] at hw; cases hw
  | killed _ _ _ ctl => rw [ctl] at hw; cases hw
  | caught m' _ _ ctl => rw [ctl] at hw; cases hw

/-- A thread that waits is behind the instruction that began its wait. -/
theorem waiting_place {u : T} (hinit : ∀ c m, (s₀.ctl u).status ≠ .waiting c m)
    (h : Reach p ok s₀ s) {c : C} {m : M} (hw : (s.ctl u).status = .waiting c m) :
    ∃ q, p.code u (s.ctl u).arg q = .wait c m (s.ctl u).pc := by
  refine Reach.invariant (I := fun s => ∀ c m, (s.ctl u).status = .waiting c m →
    ∃ q, p.code u (s.ctl u).arg q = .wait c m (s.ctl u).pc)
    (fun c m hw => absurd hw (hinit c m)) ?_ h c m hw
  intro s s' a _ ih _ hs c m hw
  rcases waiting_step hs hw with ⟨hw', hpl⟩ | ⟨ex, next, hi⟩
  · rw [hpl.1, hpl.2]
    exact ih c m hw'
  · have hgoes := ex.goes
    rw [hi] at hgoes
    rw [ex.arg, hgoes.2]
    exact ⟨(s.ctl u).pc, hi⟩

/-- **No lost wake-up of one thread.**  Let `u` leave `I` true when it begins to wait for `c`, and
let `I` stay true while it waits.  Then `I` is true while it waits. -/
theorem thread_waiting_invariant {u : T} {c : C} {I : State T Pc M C A D → Prop}
    (hinit : ∀ m, (s₀.ctl u).status ≠ .waiting c m)
    (hbegin : ∀ {s s' a m next}, Reach p ok s₀ s → ok s a → step p s a = some s' →
      Executes p s s' u → s.instr p u = .wait c m next → I s')
    (hkeep : ∀ {s s' a m}, Reach p ok s₀ s → ok s a → step p s a = some s' →
      (s.ctl u).status = .waiting c m → I s →
        I s' ∨ ∃ t, Executes p s s' t ∧ (s.instr p t).wakes = some c)
    (h : Reach p ok s₀ s) {m : M} (hw : (s.ctl u).status = .waiting c m) : I s := by
  refine Reach.invariant (I := fun s => ∀ m, (s.ctl u).status = .waiting c m → I s)
    (fun m hw => absurd hw (hinit m)) ?_ h m hw
  intro s s' a hr ih hok hs m hw
  rcases waiting_step hs hw with ⟨hw', _⟩ | ⟨ex, next, hi⟩
  · rcases hkeep hr hok hs hw' (ih m hw') with hidle | ⟨t, ex, hwakes⟩
    · exact hidle
    · exact absurd hwakes (ex.not_wakes hw)
  · exact hbegin hr hok hs ex hi

/-- **No lost wake-up.**  Let every thread that begins to wait for `c` leave `I` true, and let
`I` stay true until the next broadcast of `c`.  Then `I` is true while any thread waits. -/
theorem waiting_invariant {c : C} {I : State T Pc M C A D → Prop}
    (hinit : ∀ u m, (s₀.ctl u).status ≠ .waiting c m)
    (hbegin : ∀ {s s' a u m next}, Reach p ok s₀ s → ok s a → step p s a = some s' →
      Executes p s s' u → s.instr p u = .wait c m next → I s')
    (hkeep : ∀ {s s' a}, Reach p ok s₀ s → ok s a → step p s a = some s' → I s →
      I s' ∨ ∃ t, Executes p s s' t ∧ (s.instr p t).wakes = some c)
    (h : Reach p ok s₀ s) {u : T} {m : M} (hw : (s.ctl u).status = .waiting c m) : I s :=
  thread_waiting_invariant (hinit u) hbegin (fun hr hok hs _ hidle => hkeep hr hok hs hidle) h hw

/-- The mutex a thread inside a condition wait has given up. -/
def Status.mutex : Status M C → Option M
  | .waiting _ m => some m
  | .woken m => some m
  | .cancelled m => some m
  | _ => none

/-- A thread inside a condition wait is behind the instruction that began it. -/
def WaitPlace (p : Program T Pc M C A D E) (s : State T Pc M C A D) : Prop :=
  ∀ u m, (s.ctl u).status.mutex = some m →
    ∃ c q, p.code u (s.ctl u).arg q = .wait c m (s.ctl u).pc

lemma WaitPlace.step (ih : WaitPlace p s) (h : step p s a = some s') : WaitPlace p s' := by
  intro u m hm
  cases thread_step h u with
  | same ctl => rw [ctl] at hm ⊢; exact ih u m hm
  | exec ex =>
      rcases (s.instr p u).statusAfter_cases with hr | ⟨c, m', next, hi, hst⟩
      · rw [ex.status, hr] at hm; cases hm
      · rw [ex.status, hst] at hm
        obtain rfl : m' = m := by simpa [Status.mutex] using hm
        have hgoes := ex.goes
        rw [hi] at hgoes
        rw [ex.arg, hgoes.2]
        exact ⟨c, (s.ctl u).pc, hi⟩
  | created t _ _ hc => rw [hc.fresh] at hm; cases hm
  | asked t _ _ ctl => rw [ctl] at hm ⊢; exact ih u m hm
  | woken c m' hw ctl =>
      rw [ctl] at hm ⊢
      exact ih u m (by rw [hw]; exact hm)
  | resume m' _ ctl => rw [ctl] at hm; cases hm
  | exit _ _ ctl => rw [ctl] at hm; cases hm
  | die m' _ ctl => rw [ctl] at hm; cases hm
  | killed _ _ _ ctl => rw [ctl] at hm; cases hm
  | caught m' _ hw ctl =>
      rw [ctl] at hm ⊢
      refine ih u m ?_
      rcases hw with ⟨c, hw⟩ | hw <;> rw [hw] <;> exact hm

/-- **A thread inside a condition wait is behind the instruction that began it.** -/
theorem waitPlace (hinit : ∀ u, (s₀.ctl u).status.mutex = none) (h : Reach p ok s₀ s) :
    WaitPlace p s :=
  h.invariant (fun u m hm => by rw [hinit u] at hm; cases hm) fun _ ih _ hs => ih.step hs

/-- A thread that is run, behind no wait and not at its exit, executes its instruction. -/
lemma executes_of_run {t : T} (h : step p s (.run t) = some s')
    (hbehind : ∀ m, (s.ctl t).status.mutex ≠ some m) (hexit : s.instr p t ≠ .exit) :
    Executes p s s' t := by
  cases step_effect h with
  | exec _ ex => exact ex
  | exit _ _ instr _ => exact absurd instr hexit
  | resume _ m hw _ _ => exact absurd (by rw [hw]; rfl) (hbehind m)
  | die _ m hw _ _ => exact absurd (by rw [hw]; rfl) (hbehind m)

/-- A thread that is alive after a step of `t` was alive before it, or `t` created it. -/
lemma alive_run {t u : T} (h : step p s (.run t) = some s')
    (hu : (s'.ctl u).status.alive = true) :
    (s.ctl u).status.alive = true ∨ Created p s s' t u := by
  cases thread_step h u with
  | same ctl => rw [ctl] at hu; exact .inl hu
  | exec ex => left; rw [ex.running]; rfl
  | created _ _ _ hc => exact .inr hc
  | asked _ _ _ ctl => rw [ctl] at hu; exact .inl hu
  | woken c m hw _ => left; rw [hw]; rfl
  | resume m hw _ => left; rw [hw]; rfl
  | exit hr _ _ => left; rw [hr]; rfl
  | die m hw _ => left; rw [hw]; rfl

/-- A thread that is alive after a step was alive before it, or the step created it. -/
lemma alive_step (h : step p s a = some s') {u : T} (hu : (s'.ctl u).status.alive = true) :
    (s.ctl u).status.alive = true ∨ ∃ t, Executes p s s' t ∧ Created p s s' t u := by
  cases thread_step h u with
  | same ctl => rw [ctl] at hu; exact .inl hu
  | exec ex => left; rw [ex.running]; rfl
  | created t _ ex hc => exact .inr ⟨t, ex, hc⟩
  | asked t _ _ ctl => rw [ctl] at hu; exact .inl hu
  | woken c m hw _ => left; rw [hw]; rfl
  | resume m hw _ => left; rw [hw]; rfl
  | exit hr _ _ => left; rw [hr]; rfl
  | die m hw _ => left; rw [hw]; rfl
  | killed _ hr _ _ => left; rw [hr]; rfl
  | caught m _ hw _ => left; rcases hw with ⟨c, hw⟩ | hw <;> rw [hw] <;> rfl

/-- A thread that is alive stays alive, comes to its end or acts on a cancellation. -/
lemma alive_cases (h : step p s a = some s') {u : T} (hu : (s.ctl u).status.alive = true) :
    (s'.ctl u).status.alive = true ∨ s.instr p u = .exit ∨
      (∃ m, (s.ctl u).status = .cancelled m) ∨
      ((s.ctl u).mustCancel = true ∧ (s.instr p u).isCancelPoint = true) := by
  cases thread_step h u with
  | same ctl => rw [ctl]; exact .inl hu
  | exec ex =>
      left
      rcases (s.instr p u).statusAfter_cases with hr | ⟨c, m, next, _, hst⟩
      · rw [ex.status, hr]; rfl
      · rw [ex.status, hst]; rfl
  | created t _ _ hc => left; rw [hc.fresh]; rfl
  | asked t _ _ ctl => rw [ctl]; exact .inl hu
  | woken c m _ ctl => left; rw [ctl]; rfl
  | resume m _ ctl => left; rw [ctl]; rfl
  | exit _ instr _ => exact .inr (.inl instr)
  | die m hc _ => exact .inr (.inr (.inl ⟨m, hc⟩))
  | killed must _ point _ => exact .inr (.inr (.inr ⟨must, point⟩))
  | caught m _ _ ctl => left; rw [ctl]; rfl

/-- A wait touches no other thread. -/
lemma Executes.wait_ctl {t u : T} {c : C} {m : M} {next : Pc t} (h : Executes p s s' t)
    (hi : s.instr p t = .wait c m next) (hu : u ≠ t) : s'.ctl u = s.ctl u := by
  cases h.others u hu with
  | same _ ctl => exact ctl
  | woken c' hw _ => rw [hi] at hw; cases hw
  | asked hc _ => rw [hi] at hc; cases hc
  | created hc => have := hc.spawned; rw [hi] at this; cases this

/-! ## Threads that nobody cancels -/

/-- The thread is not being cancelled, and while it is not alive it is at its entry, if it was
never created, or at its exit, if it has ended. -/
structure Settled (p : Program T Pc M C A D E) (s : State T Pc M C A D) (u : T) : Prop where
  notCancelled : ∀ m, (s.ctl u).status ≠ .cancelled m
  absent : (s.ctl u).status = .absent → (s.ctl u).pc = p.entry u
  ended : (s.ctl u).status = .ended → s.instr p u = .exit

/-- A thread in the same place with the same status is as settled as before. -/
lemma Settled.of_place {u : T} (h : Settled p s u) (hpl : (s.ctl u).SamePlace (s'.ctl u))
    (hst : (s'.ctl u).status = (s.ctl u).status) : Settled p s' u := by
  obtain ⟨hpc, harg⟩ := hpl
  refine ⟨fun m => hst ▸ h.notCancelled m, fun ha => ?_, fun he => ?_⟩
  · rw [hpc]; exact h.absent (hst ▸ ha)
  · have := h.ended (hst ▸ he)
    rwa [State.instr, hpc, harg]

/-- A thread that is alive and not being cancelled is settled. -/
lemma Settled.of_status {u : T}
    (h : (s'.ctl u).status = .running ∨ (∃ c m, (s'.ctl u).status = .waiting c m) ∨
      ∃ m, (s'.ctl u).status = .woken m) : Settled p s' u := by
  rcases h with h | ⟨c, m, h⟩ | ⟨m, h⟩ <;> constructor <;> simp [h]

lemma Settled.step {u : T} (ih : Settled p s u) (hu : a ≠ .accept u)
    (h : step p s a = some s') : Settled p s' u := by
  cases thread_step h u with
  | same ctl => exact ih.of_place (by rw [ctl]; exact .refl _) (by rw [ctl])
  | exec ex =>
      rcases (s.instr p u).statusAfter_cases with hr | ⟨c, m, next, _, hst⟩
      · exact .of_status (.inl (ex.status.trans hr))
      · exact .of_status (.inr (.inl ⟨c, m, ex.status.trans hst⟩))
  | created t _ _ hc => exact .of_status (.inl (by rw [hc.fresh]))
  | asked t _ _ ctl => exact ih.of_place (by rw [ctl]; exact ⟨rfl, rfl⟩) (by rw [ctl])
  | woken c m _ ctl => exact .of_status (.inr (.inr ⟨m, by rw [ctl]⟩))
  | resume m _ ctl => exact .of_status (.inl (by rw [ctl]))
  | exit _ instr ctl =>
      refine ⟨fun m => by simp [ctl], fun ha => by simp [ctl] at ha, fun _ => ?_⟩
      rw [← instr, State.instr, State.instr, ctl]
  | die m hc _ => exact absurd hc (ih.notCancelled m)
  | killed => exact absurd rfl hu
  | caught => exact absurd rfl hu

/-- **A thread that nobody cancels ends only at its exit.** -/
theorem settled {u : T} (hok : ∀ s a, ok s a → a ≠ .accept u) (hinit : Settled p s₀ u)
    (h : Reach p ok s₀ s) : Settled p s u :=
  h.invariant (I := fun s => Settled p s u) hinit fun _ ih ha hs => ih.step (hok _ _ ha) hs

/-! ## Threads that are cancelled in few places -/

/-- Cancellation of thread `u` is enabled only at the places `exposed`: it ends at its exit, or at a
cancellation point among them. -/
structure Guarded (p : Program T Pc M C A D E) (s : State T Pc M C A D) (u : T)
    (exposed : Pc u → Bool) : Prop where
  enabled : (s.ctl u).cancelEnabled = true → exposed (s.ctl u).pc = true
  notCancelled : ∀ m, (s.ctl u).status ≠ .cancelled m
  absent : (s.ctl u).status = .absent → (s.ctl u).pc = p.entry u
  ended : (s.ctl u).status = .ended →
    s.instr p u = .exit ∨
      (exposed (s.ctl u).pc = true ∧ (s.instr p u).isCancelPoint = true)

/-- Where the code of `u` may be cancelled: `exposed` says when cancellation is enabled, and that it
is not during a wait. -/
structure Exposure (p : Program T Pc M C A D E) (u : T) (exposed : Pc u → Bool) : Prop where
  entry : exposed (p.entry u) = true
  goes : ∀ arg q d d' q', (p.code u arg q).Goes d d' q' →
    (p.code u arg q).enabledAfter (exposed q) = true → exposed q' = true
  wait : ∀ arg q c m next, p.code u arg q = .wait c m next → exposed next = false

/-- Enabling cancellation is monotone in whether it was enabled. -/
lemma Instr.enabledAfter_mono {P : Type} (i : Instr T P M C A D) {b b' : Bool}
    (h : b = true → b' = true) (hb : i.enabledAfter b = true) : i.enabledAfter b' = true := by
  cases i with
  | setCancelState c next => exact hb
  | _ => exact h hb

lemma Guarded.step {u : T} {exposed : Pc u → Bool} (hexp : Exposure p u exposed)
    (hwait : WaitPlace p s) (ih : Guarded p s u exposed) (h : step p s a = some s') :
    Guarded p s' u exposed := by
  -- where a thread waits, its cancellation is disabled
  have hmust : (s.ctl u).mustCancel = true → (s.ctl u).status.mutex = none := fun hm => by
    cases hmu : (s.ctl u).status.mutex with
    | none => rfl
    | some m =>
        obtain ⟨c, q, hq⟩ := hwait u m hmu
        rw [Thread.mustCancel, Bool.and_eq_true] at hm
        have := ih.enabled hm.1
        rw [hexp.wait _ _ _ _ _ hq] at this
        cases this
  cases thread_step h u with
  | same ctl =>
      refine ⟨?_, ?_, ?_, ?_⟩ <;> rw [ctl]
      · exact ih.enabled
      · exact ih.notCancelled
      · exact ih.absent
      · rw [State.instr, ctl]; exact ih.ended
  | exec ex =>
      refine ⟨fun he => ?_, fun m hc => ?_, fun hc => ?_, fun hc => ?_⟩
      · rw [ex.enabled] at he
        exact hexp.goes _ _ _ _ _ ex.goes (Instr.enabledAfter_mono _ ih.enabled he)
      all_goals
        rcases (s.instr p u).statusAfter_cases with hr | ⟨c, m', next, _, hst⟩
        · rw [ex.status, hr] at hc; cases hc
        · rw [ex.status, hst] at hc; cases hc
  | created t _ _ hc =>
      refine ⟨fun _ => ?_, ?_, ?_, ?_⟩ <;> rw [hc.fresh]
      · exact hexp.entry
      all_goals simp
  | asked t _ _ ctl =>
      refine ⟨?_, ?_, ?_, ?_⟩ <;> rw [ctl]
      · exact ih.enabled
      · exact ih.notCancelled
      · exact ih.absent
      · rw [State.instr, ctl]; exact ih.ended
  | woken c m _ ctl =>
      exact ⟨by rw [ctl]; exact ih.enabled, by simp [ctl], by simp [ctl], by simp [ctl]⟩
  | resume m _ ctl =>
      exact ⟨by rw [ctl]; exact ih.enabled, by simp [ctl], by simp [ctl], by simp [ctl]⟩
  | exit _ instr ctl =>
      refine ⟨?_, ?_, ?_, fun _ => .inl ?_⟩
      · rw [ctl]; exact ih.enabled
      · rw [ctl]; simp
      · rw [ctl]; simp
      · rw [← instr, State.instr, State.instr, ctl]
  | die m hc _ => exact absurd hc (ih.notCancelled m)
  | killed must _ point ctl =>
      have hexposed : exposed (s.ctl u).pc = true := by
        rw [Thread.mustCancel, Bool.and_eq_true] at must
        exact ih.enabled must.1
      refine ⟨?_, ?_, ?_, fun _ => .inr ⟨?_, ?_⟩⟩
      · rw [ctl]; exact ih.enabled
      · rw [ctl]; simp
      · rw [ctl]; simp
      · rw [ctl]; exact hexposed
      · rw [State.instr, ctl]; exact point
  | caught m must waits _ =>
      have hmu := hmust must
      rcases waits with ⟨c, hw⟩ | hw <;> rw [hw] at hmu <;> cases hmu

/-- **A guarded thread is cancelled only where it is exposed.** -/
theorem guarded {u : T} {exposed : Pc u → Bool} (hexp : Exposure p u exposed)
    (hmutex : ∀ u, (s₀.ctl u).status.mutex = none) (hinit : Guarded p s₀ u exposed)
    (h : Reach p ok s₀ s) : Guarded p s u exposed :=
  h.invariant (I := fun s => Guarded p s u exposed) hinit
    fun hr ih _ hs => ih.step hexp (waitPlace hmutex hr) hs

/-- A guarded thread that has begun, and is at no place where it ends, is alive. -/
lemma Guarded.alive {u : T} {exposed : Pc u → Bool} (h : Guarded p s u exposed)
    (hentry : (s.ctl u).pc ≠ p.entry u) (hexit : s.instr p u ≠ .exit)
    (hpoint : exposed (s.ctl u).pc = true → (s.instr p u).isCancelPoint = false) :
    (s.ctl u).status.alive = true := by
  cases hst : (s.ctl u).status with
  | absent => exact absurd (h.absent hst) hentry
  | ended =>
      rcases h.ended hst with hi | ⟨hexposed, hcancel⟩
      · exact absurd hi hexit
      · rw [hpoint hexposed] at hcancel
        cases hcancel
  | _ => rfl

/-! ## Cancellation flags -/

/-- A cancellation is pending only if it was, or if the step asked for it. -/
lemma pending_step (h : step p s a = some s') {u : T} (hp : (s'.ctl u).cancelPending = true) :
    (s.ctl u).cancelPending = true ∨
      ∃ t, Executes p s s' t ∧ (s.instr p t).cancels s.data = some u := by
  cases thread_step h u with
  | same ctl => rw [ctl] at hp; exact .inl hp
  | exec ex =>
      rw [ex.pending, Bool.or_eq_true, decide_eq_true_eq] at hp
      exact hp.imp_right fun hc => ⟨u, ex, hc⟩
  | created t _ _ hc => rw [hc.fresh] at hp; cases hp
  | asked t ex hc ctl => exact .inr ⟨t, ex, hc⟩
  | woken c m _ ctl => rw [ctl] at hp; exact .inl hp
  | resume m _ ctl => rw [ctl] at hp; exact .inl hp
  | exit _ _ ctl => rw [ctl] at hp; exact .inl hp
  | die m _ ctl => rw [ctl] at hp; exact .inl hp
  | killed _ _ _ ctl => rw [ctl] at hp; exact .inl hp
  | caught m _ _ ctl => rw [ctl] at hp; exact .inl hp

end Pthread
