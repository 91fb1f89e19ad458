import Orchestrator.Pthread.LockSet

/-!
# Sections

What a thread can rely on while it holds a mutex.

* `Protects` — a part of the memory that nobody changes but a thread that holds the mutex.
* `protects_of_code` — how to check it, instruction by instruction.
* `Protects.frame` — while a thread holds the mutex and does not move, that part stays as it is,
  however many steps the others take.
-/

set_option linter.unusedSectionVars false

namespace Pthread

variable {T : Type} {Pc : T → Type} {M C A D E V : Type} [DecidableEq T] [DecidableEq M]
  [DecidableEq C]
variable {p : Program T Pc M C A D E} {L : Discipline p} {s s' s₀ : State T Pc M C A D}
  {a : Action T E} {ok : State T Pc M C A D → Action T E → Prop} {t u : T} {m : M}

/-- In the runs from `s₀`, what `view` sees of the memory is changed by nobody while another thread
holds the mutex `m`. -/
structure Protects (L : Discipline p) (s₀ : State T Pc M C A D)
    (ok : State T Pc M C A D → Action T E → Prop) (m : M) (view : D → V) : Prop where
  instr : ∀ {s s' a t u}, Reach p ok s₀ s → ok s a → step p s a = some s' → Executes p s s' u →
    u ≠ t → L.Holds s t m → view s'.data = view s.data
  env : ∀ e d, view (p.env e d) = view d

/-- A part of the memory is protected if every instruction outside the sections leaves it alone. -/
lemma protects_of_code {view : D → V} (hinv : ∀ {s}, Reach p ok s₀ s → L.Inv s)
    (hcode : ∀ t arg q d d' q', L.argOk t arg → (p.code t arg q).Goes d d' q' →
      m ∉ L.held t arg q → view d' = view d)
    (henv : ∀ e d, view (p.env e d) = view d) : Protects L s₀ ok m view where
  instr := fun {s s' a t u} hr _ _ ex hne hold => by
    refine hcode u _ _ _ _ _ ((hinv hr).args u) ex.goes fun hheld => hne ?_
    exact (hinv hr).exclusive (Discipline.holds_of_running ex.running hheld) hold
  env := henv

/-- A thread that does not move goes on holding what it holds. -/
lemma holds_stays (h : step p s a = some s') (hrun : a ≠ .run t) (haccept : a ≠ .accept t)
    (hold : L.Holds s t m) : L.Holds s' t m := by
  have hsame : s'.ctl t = s.ctl t → L.Holds s' t m := fun ctl =>
    (Discipline.holds_congr (by rw [ctl]; exact .refl _) (by rw [ctl]) (by rw [ctl])).mpr hold
  cases step_effect h with
  | exec u ex =>
      have hne : t ≠ u := by rintro rfl; exact hrun rfl
      cases ex.others t hne with
      | same _ ctl => exact hsame ctl
      | woken c _ ctl =>
          exact (Discipline.holds_congr (by rw [ctl]; exact ⟨wake_pc c _, wake_arg c _⟩)
            (by rw [ctl, wake_alive]) (by rw [ctl, wake_mutex])).mpr hold
      | asked _ ctl =>
          exact (Discipline.holds_congr (by rw [ctl]; exact ⟨rfl, rfl⟩) (by rw [ctl])
            (by rw [ctl])).mpr hold
      | created hc =>
          have hdead := hc.notAlive
          rw [hold.1] at hdead
          cases hdead
  | exit u _ _ eq | acceptRunning u _ _ _ eq =>
      have hne : t ≠ u := by rintro rfl; first | exact hrun rfl | exact haccept rfl
      exact hsame (by rw [eq, State.finish_ctl_of_ne hne])
  | resume u m' _ _ eq =>
      have hne : t ≠ u := by rintro rfl; exact hrun rfl
      exact hsame (by rw [eq, State.setOwner_ctl, State.setStatus_ctl_of_ne _ hne])
  | die u m' _ _ eq =>
      have hne : t ≠ u := by rintro rfl; exact hrun rfl
      exact hsame (by rw [eq, State.finish_ctl_of_ne hne, State.setOwner_ctl])
  | acceptWaiting u m' _ _ eq =>
      have hne : t ≠ u := by rintro rfl; exact haccept rfl
      exact hsame (by rw [eq, State.setStatus_ctl_of_ne _ hne])
  | spurious u c m' hw eq =>
      by_cases hne : t = u
      · subst hne
        refine (Discipline.holds_congr ?_ ?_ ?_).mpr hold <;> rw [eq, State.setStatus_ctl_self]
        · exact ⟨rfl, rfl⟩
        · rw [hw]; rfl
        · rw [hw]; rfl
      · exact hsame (by rw [eq, State.setStatus_ctl_of_ne _ hne])
  | env e eq => exact hsame (by rw [eq])

namespace Protects

variable {view : D → V}

/-- No step of another thread changes what a thread sees inside its section. -/
lemma step (hg : Protects L s₀ ok m view) (hr : Reach p ok s₀ s) (hok : ok s a)
    (hs : Pthread.step p s a = some s') (hrun : a ≠ .run t) (hold : L.Holds s t m) :
    view s'.data = view s.data := by
  cases step_effect hs with
  | exec u ex => exact hg.instr hr hok hs ex (by rintro rfl; exact hrun rfl) hold
  | env e eq => rw [eq]; exact hg.env e s.data
  | exit _ _ _ eq | resume _ _ _ _ eq | die _ _ _ _ eq | acceptRunning _ _ _ _ eq
  | acceptWaiting _ _ _ _ eq | spurious _ _ _ _ eq => rw [eq]; rfl

/-- **A section is a section.**  While a thread holds the mutex and takes no step, nothing of what
the mutex protects changes. -/
theorem frame (hg : Protects L s₀ ok m view) (hr : Reach p ok s₀ s) (hold : L.Holds s t m)
    (h : Reach p (fun s a => ok s a ∧ a ≠ .run t ∧ a ≠ .accept t) s s') :
    L.Holds s' t m ∧ view s'.data = view s.data := by
  refine h.invariant (I := fun s' => L.Holds s' t m ∧ view s'.data = view s.data) ⟨hold, rfl⟩
    fun {s₁ s₂ a} hr₁ ih hok hs => ?_
  have hreach : Reach p ok s₀ s₁ := hr.trans (hr₁.mono fun _ _ hok => hok.1)
  exact ⟨holds_stays hs hok.2.1 hok.2.2 ih.1,
    (hg.step hreach hok.1 hs hok.2.1 ih.1).trans ih.2⟩

end Protects

end Pthread
