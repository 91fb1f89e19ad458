import Orchestrator.Pthread.LockOrder

/-!
# Progress

Why a thread cannot go on.

* `Blocked` — the scheduler can neither run the thread nor let it act on a cancellation request.
* `obstacle_of_blocked` — then it asks for a mutex that is taken, waits for a signal or for the end
  of a thread, or is to create one that is still alive.
* `running_of_create`, `running_of_created` — a thread that was created runs.
* `orphan_of_taken` — where the mutexes are taken in order and their owners cannot go on for want of
  a mutex, one of them asks for a mutex that was left behind.
-/

set_option linter.unusedSectionVars false

namespace Pthread

/-! ## Chains of owners -/

section WaitsFor

variable {T M : Type} {rank : M → ℕ} {owner : M → Owner T} {requests : T → Option M} {bound : ℕ}

/-- A chain of threads that wait for each other's mutexes has an end: an owner that asks for no
mutex another thread owns. -/
lemma Ordered.exists_last (h : Ordered rank owner requests) (hbound : ∀ m, rank m ≤ bound) {t : T}
    {m : M} (ho : owner m = .held t) :
    ∃ u m', owner m' = .held u ∧ ∀ m₁, requests u = some m₁ → ∀ v, owner m₁ ≠ .held v := by
  induction hn : bound - rank m using Nat.strongRecOn generalizing t m with
  | ind n ih =>
      by_cases hlast : ∀ m₁, requests t = some m₁ → ∀ v, owner m₁ ≠ .held v
      · exact ⟨t, m, ho, hlast⟩
      · push Not at hlast
        obtain ⟨m₁, hm₁, v, hv⟩ := hlast
        have hlt : rank m < rank m₁ := h t m₁ hm₁ m ho
        have hle := hbound m₁
        exact ih (bound - rank m₁) (by omega) hv rfl

end WaitsFor

variable {T : Type} {Pc : T → Type} {M C A D E : Type} [DecidableEq T] [DecidableEq M]
  [DecidableEq C]
variable {p : Program T Pc M C A D E} {L : Discipline p} {s : State T Pc M C A D} {t : T}

/-! ## Blocked threads -/

/-- Thread `t` can take no step of its own. -/
def Blocked (p : Program T Pc M C A D E) (s : State T Pc M C A D) (t : T) : Prop :=
  step p s (.run t) = none ∧ step p s (.accept t) = none

/-- What keeps a thread from going on. -/
inductive Obstacle (p : Program T Pc M C A D E) (s : State T Pc M C A D) (t : T) : Prop where
  | mutex (m : M) (requests : s.requests p t = some m) (taken : s.owner m ≠ .free)
  | signal (c : C) (m : M) (waiting : (s.ctl t).status = .waiting c m)
  | thread (u : T) (target : D → Option T) (next : Pc t) (instr : s.instr p t = .join target next)
      (joined : target s.data = some u) (alive : (s.ctl u).status ≠ .ended)
  | taken (u : T) (target : D → Option T) (arg : A) (ok : D → Bool) (next fail : Pc t)
      (instr : s.instr p t = .create target arg ok next fail) (created : target s.data = some u)
      (alive : (s.ctl u).status.alive = true)

/-- Only threads that are alive ask for mutexes. -/
lemma alive_of_requests {m : M} (h : s.requests p t = some m) :
    (s.ctl t).status.alive = true := by
  rw [State.requests] at h
  cases hst : (s.ctl t).status with
  | absent | ended => rw [hst] at h; cases h
  | running | waiting c m₁ | woken m₁ | cancelled m₁ => rfl

/-- An instruction that cannot be executed. -/
lemma obstacle_of_exec (hinv : L.Inv s) (hrun : (s.ctl t).status = .running)
    (hcancel : (s.ctl t).mustCancel = true → (s.instr p t).isCancelPoint = false)
    (h : exec p s t (s.instr p t) = none) : Obstacle p s t := by
  have hresp := hinv.argOk_instr t
  have hown : ∀ m, m ∈ L.heldAt s t → s.owner m = .held t := fun m hm =>
    (hinv.owner t m).mpr (Discipline.holds_of_running hrun hm)
  have hreq : s.requests p t = (s.instr p t).requests := by rw [State.requests, hrun]
  cases hi : s.instr p t with
  | act f next | broadcast c next | setCancelState b next | exit => rw [hi] at h; cases h
  | call m f next =>
      rw [hi] at h hreq
      cases m with
      | none => cases h
      | some m => exact .mutex m hreq fun hfree => by simp [exec, hfree] at h
  | lock m next =>
      rw [hi] at h hreq
      exact .mutex m hreq fun hfree => by simp [exec, hfree] at h
  | unlock m f next =>
      rw [hi] at h hresp
      have hm : m ∈ L.heldAt s t := by
        rw [Discipline.heldAt, hresp s.data]
        exact List.mem_cons_self
      simp [exec, hown m hm] at h
  | wait c m next =>
      rw [hi] at h hresp
      simp [exec, hown m hresp.1] at h
  | sleep next =>
      rw [hi] at h hcancel
      cases hmust : (s.ctl t).mustCancel with
      | true => cases hcancel hmust
      | false => simp [exec, hmust] at h
  | cancel target next =>
      rw [hi] at h
      simp only [exec] at h
      split at h <;> cases h
  | create target arg ok next fail =>
      rw [hi] at h
      simp only [exec] at h
      split at h
      · cases h
      · next u hu =>
        split at h
        · next halive => exact .taken u target arg ok next fail hi hu halive
        · split at h <;> cases h
  | join target next =>
      rw [hi] at h hcancel
      cases hmust : (s.ctl t).mustCancel with
      | true => cases hcancel hmust
      | false =>
          simp only [exec, hmust, Bool.false_eq_true, if_false] at h
          split at h
          · cases h
          · next u hu =>
            split at h
            · cases h
            · next hend => exact .thread u target next hi hu hend

/-- **What blocks a thread.**  A thread that is alive and cannot go on meets an obstacle. -/
theorem obstacle_of_blocked (hinv : L.Inv s) (ha : (s.ctl t).status.alive = true)
    (hb : Blocked p s t) : Obstacle p s t := by
  obtain ⟨hrun, haccept⟩ := hb
  cases hst : (s.ctl t).status with
  | absent | ended => rw [hst] at ha; cases ha
  | waiting c m => exact .signal c m hst
  | woken m =>
      refine .mutex m (by rw [State.requests, hst]) fun hfree => ?_
      simp [step, hst, hfree] at hrun
  | cancelled m =>
      refine .mutex m (by rw [State.requests, hst]) fun hfree => ?_
      simp [step, hst, hfree] at hrun
  | running =>
      refine obstacle_of_exec hinv hst (fun hmust => ?_)
        (by simpa [step, hst, State.instr] using hrun)
      by_contra hpoint
      rw [Bool.not_eq_false] at hpoint
      rw [State.instr] at hpoint
      simp [step, hmust, hst, hpoint] at haccept

/-- **Somebody waits for a mutex left behind.**  Let the mutexes be taken in order, and let every
owner of a mutex ask for one that is taken.  Then, if a thread asks for a mutex that is taken,
a thread asks for one whose owner has ended. -/
theorem orphan_of_taken {rank : M → ℕ} {bound : ℕ} (hord : Ordered rank s.owner (s.requests p))
    (hbound : ∀ m, rank m ≤ bound)
    (hown : ∀ u m, s.owner m = .held u → ∃ m', s.requests p u = some m' ∧ s.owner m' ≠ .free)
    {m : M} (ht : s.requests p t = some m) (htaken : s.owner m ≠ .free) :
    ∃ u m' v, s.requests p u = some m' ∧ s.owner m' = .ended v := by
  cases ho : s.owner m with
  | free => exact absurd ho htaken
  | ended v => exact ⟨t, m, v, ht, ho⟩
  | held u =>
      obtain ⟨w, m', hw, hlast⟩ := hord.exists_last hbound ho
      obtain ⟨m₁, hm₁, htaken₁⟩ := hown w m' hw
      cases ho₁ : s.owner m₁ with
      | free => exact absurd ho₁ htaken₁
      | held v => exact absurd ho₁ (hlast m₁ hm₁ v)
      | ended v => exact ⟨w, m₁, v, hm₁, ho₁⟩

/-! ## Threads that are created or cancelled -/

variable {s' : State T Pc M C A D} {a : Action T E} {u : T}

/-- A creation that cannot fail makes its thread run. -/
lemma running_of_create {target : D → Option T} {arg : A} {ok : D → Bool} {next fail : Pc t}
    (h : step p s (.run t) = some s') (hrun : (s.ctl t).status = .running)
    (hi : s.instr p t = .create target arg ok next fail) (hu : target s.data = some u)
    (hok : ok s.data = true) : (s'.ctl u).status = .running ∧ (s'.ctl t).pc = next := by
  rw [State.instr] at hi
  simp only [step, hrun, hi, exec, hu, hok, if_true] at h
  split at h
  · cases h
  · next hdead =>
    obtain rfl := Option.some.inj h
    have hne : t ≠ u := by
      rintro rfl
      simp [hrun, Status.alive] at hdead
    rw [State.setCtl_ctl_self, State.setCtl_ctl_of_ne _ hne, State.goto_ctl_self]
    exact ⟨rfl, rfl⟩

/-- A creation that comes to its good end has created its thread. -/
lemma running_of_created {target : D → Option T} {arg : A} {ok : D → Bool} {next fail : Pc t}
    (h : step p s (.run t) = some s') (hrun : (s.ctl t).status = .running)
    (hi : s.instr p t = .create target arg ok next fail) (hne : next ≠ fail)
    (hpc : (s'.ctl t).pc = next) : ∃ u, target s.data = some u ∧ (s'.ctl u).status = .running := by
  have hfail : s' ≠ s.goto t s.data fail := by
    rintro rfl
    rw [State.goto_ctl_self] at hpc
    exact hne hpc.symm
  cases hu : target s.data with
  | none =>
      rw [State.instr] at hi
      simp only [step, hrun, hi, exec, hu] at h
      exact absurd (Option.some.inj h).symm hfail
  | some u =>
      cases hok : ok s.data with
      | true => exact ⟨u, rfl, (running_of_create h hrun hi hu hok).1⟩
      | false =>
          rw [State.instr] at hi
          simp only [step, hrun, hi, exec, hu, hok, Bool.false_eq_true, if_false] at h
          split at h
          · cases h
          · exact absurd (Option.some.inj h).symm hfail

/-- A thread that another one cancels has a request to end. -/
lemma pending_of_cancel {target : D → Option T} {next : Pc t} (h : step p s (.run t) = some s')
    (hrun : (s.ctl t).status = .running) (hi : s.instr p t = .cancel target next)
    (hu : target s.data = some u) : (s'.ctl u).cancelPending = true := by
  rw [State.instr] at hi
  simp only [step, hrun, hi, exec, hu] at h
  obtain rfl := Option.some.inj h
  rw [State.setCtl_ctl_self]

/-- A request to end stays, unless the thread is created again. -/
lemma pending_stays (h : step p s a = some s') (hp : (s.ctl u).cancelPending = true) :
    (s'.ctl u).cancelPending = true ∨ ∃ t, Executes p s s' t ∧ Created p s s' t u := by
  cases thread_step h u with
  | same ctl => rw [ctl]; exact .inl hp
  | exec ex => left; rw [ex.pending, hp]; rfl
  | created t _ ex hc => exact .inr ⟨t, ex, hc⟩
  | asked t _ _ ctl => rw [ctl]; exact .inl rfl
  | woken c m _ ctl | resume m _ ctl | exit _ _ ctl | die m _ ctl | killed _ _ _ ctl
  | caught m _ _ ctl => rw [ctl]; exact .inl hp

/-- A thread that was created stays created. -/
lemma present_step (h : step p s a = some s') (hu : (s.ctl u).status ≠ .absent) :
    (s'.ctl u).status ≠ .absent := by
  cases thread_step h u with
  | same ctl => rw [ctl]; exact hu
  | exec ex =>
      rcases (s.instr p u).statusAfter_cases with hr | ⟨c, m, next, _, hst⟩
      · rw [ex.status, hr]; simp
      · rw [ex.status, hst]; simp
  | created t _ _ hc => rw [hc.fresh]; simp
  | asked t _ _ ctl => rw [ctl]; exact hu
  | woken c m _ ctl | resume m _ ctl | exit _ _ ctl | die m _ ctl | killed _ _ _ ctl
  | caught m _ _ ctl => rw [ctl]; simp

/-- A thread that has ended stays so, unless it is created again. -/
lemma ended_step (h : step p s a = some s') (hu : (s.ctl u).status = .ended) :
    (s'.ctl u).status = .ended ∨ ∃ t, Executes p s s' t ∧ Created p s s' t u := by
  cases thread_step h u with
  | same ctl => rw [ctl]; exact .inl hu
  | exec ex => rw [ex.running] at hu; cases hu
  | created t _ ex hc => exact .inr ⟨t, ex, hc⟩
  | asked t _ _ ctl => rw [ctl]; exact .inl hu
  | woken c m hw _ => rw [hw] at hu; cases hu
  | resume m hw _ => rw [hw] at hu; cases hu
  | exit _ _ ctl => rw [ctl]; exact .inl rfl
  | die m _ ctl => rw [ctl]; exact .inl rfl
  | killed _ _ _ ctl => rw [ctl]; exact .inl rfl
  | caught m _ hw _ => rcases hw with ⟨c, hw⟩ | hw <;> rw [hw] at hu <;> cases hu

end Pthread
