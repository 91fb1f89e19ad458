import Orchestrator.Pthread.LockSet

/-!
# Monitors

Memory that is written only by the owner of one mutex.

* `Monitor` — what holds of the memory while the mutex is free, at each place inside a section, and
  always; with a condition on each instruction.
* `Monitor.inv_of_reach` — then it holds in every reachable state.

A thread that ends inside a section leaves the mutex locked, and nothing but `always` is known from
then on.
-/

set_option linter.unusedSectionVars false

namespace Pthread

variable {T : Type} {Pc : T → Type} {M C A D E : Type} [DecidableEq T] [DecidableEq M]
  [DecidableEq C]

/-- The rules for memory that the mutex `m` protects. -/
structure Monitor {p : Program T Pc M C A D E} (L : Discipline p) (m : M) where
  /-- while nobody owns the mutex -/
  free : D → Prop
  /-- while a thread owns it, at each of its places -/
  inside : (t : T) → A → Pc t → D → Prop
  /-- in every state -/
  always : D → Prop
  lock : ∀ t arg q next d, L.argOk t arg → p.code t arg q = .lock m next → free d →
    inside t arg next d
  resume : ∀ t arg q c next d, L.argOk t arg → p.code t arg q = .wait c m next → free d →
    inside t arg next d
  wait : ∀ t arg q c next d, L.argOk t arg → p.code t arg q = .wait c m next →
    inside t arg q d → free d
  unlock : ∀ t arg q f next d, L.argOk t arg → p.code t arg q = .unlock m f next →
    inside t arg q d → free (f d)
  stays : ∀ t arg q d d' q', L.argOk t arg → m ∈ L.held t arg q → m ∈ L.held t arg q' →
    (p.code t arg q).Goes d d' q' → inside t arg q d → inside t arg q' d'
  /-- an instruction outside every section -/
  frame : ∀ t arg q d d' q', L.argOk t arg → m ∉ L.held t arg q →
    (p.code t arg q).Goes d d' q' →
      (free d → free d') ∧ (always d → always d') ∧
        ∀ u, u ≠ t → ∀ arg' r, inside u arg' r d → inside u arg' r d'
  env : ∀ e d, (free d → free (p.env e d)) ∧ (always d → always (p.env e d)) ∧
    ∀ u arg r, inside u arg r d → inside u arg r (p.env e d)
  free_always : ∀ d, free d → always d
  inside_always : ∀ t arg q d, inside t arg q d → always d

namespace Monitor

variable {p : Program T Pc M C A D E} {L : Discipline p} {m : M} (Mo : Monitor L m)
  {s s' s₀ : State T Pc M C A D} {a : Action T E}
  {ok : State T Pc M C A D → Action T E → Prop} {t u : T}

/-- The rules hold of a state. -/
structure Inv (s : State T Pc M C A D) : Prop where
  free : s.owner m = .free → Mo.free s.data
  inside : ∀ t, s.owner m = .held t → Mo.inside t (s.ctl t).arg (s.ctl t).pc s.data
  always : Mo.always s.data

variable {Mo}

/-- A change of owners and statuses by which nobody comes to own the mutex. -/
lemma Inv.of_fewer (h : Mo.Inv s) (hdata : s'.data = s.data)
    (hfree : s'.owner m = .free → s.owner m = .free)
    (hheld : ∀ u, s'.owner m = .held u →
      s.owner m = .held u ∧ (s.ctl u).SamePlace (s'.ctl u)) : Mo.Inv s' := by
  refine ⟨fun hf => ?_, fun u hu => ?_, ?_⟩ <;> rw [hdata]
  · exact h.free (hfree hf)
  · obtain ⟨hu', hpc, harg⟩ := hheld u hu
    rw [hpc, harg]
    exact h.inside u hu'
  · exact h.always

/-- What an instruction does to the owner of a mutex that its thread owns. -/
lemma owner_of_held {P : Type} {i : Instr T P M C A D} {o o' : M → Owner T} (hl : i.Locks t o o')
    (ho : o m = .held t) :
    o' m = .held t ∨ (o' m = .free ∧ ((∃ f next, i = .unlock m f next) ∨
      ∃ c next, i = .wait c m next)) := by
  cases i with
  | call m₁ f next =>
      left
      cases m₁ with
      | none => rw [show o' = o from hl]; exact ho
      | some m₁ => rw [hl.2]; exact ho
  | lock m₁ next =>
      left
      obtain ⟨hfree, rfl⟩ := hl
      have hne : m ≠ m₁ := fun heq => by rw [← heq, ho] at hfree; cases hfree
      rw [Function.update_of_ne hne]
      exact ho
  | unlock m₁ f next =>
      obtain ⟨_, rfl⟩ := hl
      by_cases hm : m = m₁
      · subst hm; exact .inr ⟨by simp, .inl ⟨f, next, rfl⟩⟩
      · left; rw [Function.update_of_ne hm]; exact ho
  | wait c m₁ next =>
      obtain ⟨_, rfl⟩ := hl
      by_cases hm : m = m₁
      · subst hm; exact .inr ⟨by simp, .inr ⟨c, next, rfl⟩⟩
      · left; rw [Function.update_of_ne hm]; exact ho
  | _ => left; rw [show o' = o from hl]; exact ho

/-- What an instruction does to the owner of a mutex that its thread does not own. -/
lemma owner_of_not_held {P : Type} {i : Instr T P M C A D} {o o' : M → Owner T}
    (hl : i.Locks t o o') (ho : o m ≠ .held t) :
    o' m = o m ∨ (o m = .free ∧ o' m = .held t ∧ ∃ next, i = .lock m next) := by
  cases i with
  | call m₁ f next =>
      left
      cases m₁ with
      | none => rw [show o' = o from hl]
      | some m₁ => rw [hl.2]
  | lock m₁ next =>
      obtain ⟨hfree, rfl⟩ := hl
      by_cases hm : m = m₁
      · subst hm; exact .inr ⟨hfree, by simp, next, rfl⟩
      · exact .inl (Function.update_of_ne hm _ _)
  | unlock m₁ f next =>
      obtain ⟨hheld, rfl⟩ := hl
      exact .inl (Function.update_of_ne (fun heq => ho (by rw [heq]; exact hheld)) _ _)
  | wait c m₁ next =>
      obtain ⟨hheld, rfl⟩ := hl
      exact .inl (Function.update_of_ne (fun heq => ho (by rw [heq]; exact hheld)) _ _)
  | _ => left; rw [show o' = o from hl]

/-- The owner of the mutex executes an instruction. -/
lemma Inv.exec_inside (h : Mo.Inv s) (hinv : L.Inv s) (hinv' : L.Inv s')
    (ex : Executes p s s' t) (ho : s.owner m = .held t) : Mo.Inv s' := by
  have harg := hinv.args t
  have hin := h.inside t ho
  have hmem : m ∈ L.heldAt s t := ((hinv.owner t m).mp ho).2.1
  rcases owner_of_held ex.locks ho with ho' | ⟨ho', hleave⟩
  · have hmem' : m ∈ L.held t (s.ctl t).arg (s'.ctl t).pc := by
      have hheld := ((hinv'.owner t m).mp ho').2.1
      rwa [Discipline.heldAt, ex.arg] at hheld
    have hin' := Mo.stays t _ _ _ _ _ harg hmem hmem' ex.goes hin
    refine ⟨fun hf => ?_, fun u hu => ?_, Mo.inside_always _ _ _ _ hin'⟩
    · rw [ho'] at hf; cases hf
    · rw [ho'] at hu
      obtain rfl := Owner.held.inj hu
      rw [ex.arg]
      exact hin'
  · have hfree' : Mo.free s'.data := by
      have hgoes := ex.goes
      rcases hleave with ⟨f, next, hi⟩ | ⟨c, next, hi⟩
      · rw [hi] at hgoes
        rw [hgoes.1]
        exact Mo.unlock t _ _ _ _ _ harg hi hin
      · rw [hi] at hgoes
        rw [hgoes.1]
        exact Mo.wait t _ _ _ _ _ harg hi hin
    refine ⟨fun _ => hfree', fun u hu => ?_, Mo.free_always _ hfree'⟩
    rw [ho'] at hu
    cases hu

/-- A thread that does not own the mutex executes an instruction. -/
lemma Inv.exec_outside (h : Mo.Inv s) (hinv : L.Inv s) (ex : Executes p s s' t)
    (ho : s.owner m ≠ .held t) : Mo.Inv s' := by
  have harg := hinv.args t
  have hmem : m ∉ L.heldAt s t := fun hin =>
    ho ((hinv.owner t m).mpr (Discipline.holds_of_running ex.running hin))
  obtain ⟨hfree, halways, hinside⟩ := Mo.frame t _ _ _ _ _ harg hmem ex.goes
  rcases owner_of_not_held ex.locks ho with hsame | ⟨hf, ho', next, hi⟩
  · refine ⟨fun hf => hfree (h.free (hsame ▸ hf)), fun u hu => ?_, halways h.always⟩
    rw [hsame] at hu
    have hne : u ≠ t := fun heq => ho (heq ▸ hu)
    have halive : (s.ctl u).status.alive = true := ((hinv.owner u m).mp hu).1
    rcases ex.other_place hne with ⟨hpc, harg'⟩ | hc
    · rw [hpc, harg']
      exact hinside u hne _ _ (h.inside u hu)
    · rw [hc.notAlive] at halive
      cases halive
  · have hgoes := ex.goes
    rw [hi] at hgoes
    have hin' : Mo.inside t (s'.ctl t).arg (s'.ctl t).pc s'.data := by
      rw [ex.arg, hgoes.1, hgoes.2]
      exact Mo.lock t _ _ _ _ harg hi (h.free hf)
    refine ⟨fun hf' => ?_, fun u hu => ?_, halways h.always⟩
    · rw [ho'] at hf'; cases hf'
    · rw [ho'] at hu
      obtain rfl := Owner.held.inj hu
      exact hin'

/-- A thread ends, and what it owns is lost. -/
lemma Inv.finish (h : Mo.Inv s) (t : T) : Mo.Inv (s.finish t) := by
  refine h.of_fewer rfl (fun hf => ?_) fun u hu => ⟨?_, samePlace_setStatus t .ended u⟩
  · rw [State.finish_owner] at hf
    split at hf
    · cases hf
    · exact hf
  · rw [State.finish_owner] at hu
    split at hu
    · cases hu
    · exact hu

/-- **Every step keeps the rules of the monitor.** -/
theorem Inv.step (h : Mo.Inv s) (hinv : L.Inv s) (hpl : WaitPlace p s)
    (hs : step p s a = some s') : Mo.Inv s' := by
  have hinv' : L.Inv s' := hinv.step hs
  cases step_effect hs with
  | exec t ex =>
      by_cases ho : s.owner m = .held t
      · exact h.exec_inside hinv hinv' ex ho
      · exact h.exec_outside hinv ex ho
  | exit t _ _ eq => subst eq; exact h.finish t
  | acceptRunning t _ _ _ eq => subst eq; exact h.finish t
  | acceptWaiting t m₁ _ _ eq =>
      subst eq
      exact h.of_fewer rfl id fun u hu => ⟨hu, samePlace_setStatus t _ u⟩
  | spurious t c m₁ _ eq =>
      subst eq
      exact h.of_fewer rfl id fun u hu => ⟨hu, samePlace_setStatus t _ u⟩
  | env e eq =>
      subst eq
      obtain ⟨hfree, halways, hinside⟩ := Mo.env e s.data
      exact ⟨fun hf => hfree (h.free hf), fun u hu => hinside u _ _ (h.inside u hu),
        halways h.always⟩
  | resume t m₁ hw hf eq =>
      subst eq
      have hpl' := samePlace_setStatus (s := s) t .running
      by_cases hm : m = m₁
      · subst hm
        obtain ⟨c, q, hq⟩ := hpl t m (by rw [hw]; rfl)
        have hin := Mo.resume t _ q c _ s.data (hinv.args t) hq (h.free hf)
        refine ⟨fun hf' => ?_, fun u hu => ?_, h.always⟩
        · rw [State.setOwner_owner, if_pos rfl] at hf'; cases hf'
        · rw [State.setOwner_owner, if_pos rfl] at hu
          obtain rfl := Owner.held.inj hu
          show Mo.inside t ((s.setStatus t .running).ctl t).arg
            ((s.setStatus t .running).ctl t).pc s.data
          rw [(hpl' t).1, (hpl' t).2]
          exact hin
      · refine h.of_fewer rfl (fun hf' => ?_) fun u hu => ⟨?_, hpl' u⟩
        · rwa [State.setOwner_owner, if_neg hm] at hf'
        · rwa [State.setOwner_owner, if_neg hm] at hu
  | die t m₁ _ hf eq =>
      subst eq
      refine h.of_fewer rfl (fun hf' => ?_) fun u hu => ⟨?_, samePlace_setStatus t .ended u⟩
      · rw [State.finish_owner, State.setOwner_owner] at hf'
        by_cases hm : m = m₁
        · rw [hm]; exact hf
        · rw [if_neg hm] at hf'
          split at hf'
          · cases hf'
          · exact hf'
      · rw [State.finish_owner, State.setOwner_owner] at hu
        by_cases hm : m = m₁
        · rw [if_pos hm, if_pos rfl] at hu; cases hu
        · rw [if_neg hm] at hu
          split at hu
          · cases hu
          · exact hu

/-- **The monitor rule.**  What the instructions keep inside and outside the sections of a mutex
holds in every reachable state. -/
theorem inv_of_reach (Mo : Monitor L m) (hinv : L.Inv s₀)
    (hmutex : ∀ u, (s₀.ctl u).status.mutex = none) (hinit : Mo.Inv s₀) (h : Reach p ok s₀ s) :
    Mo.Inv s :=
  h.invariant hinit fun hr ih _ hs =>
    ih.step (Discipline.inv_of_reach hinv hr) (waitPlace hmutex hr) hs

end Monitor

end Pthread
