import Orchestrator.Pthread.Control
import Mathlib.Data.List.Nodup

/-!
# Lock discipline

A program whose locking is static: at every program counter it is known which mutexes the thread
holds.  A `Discipline` names them and says that every instruction keeps to it.

* `Discipline.inv_of_reach` — in every reachable state the owner of a mutex is the thread that the
  discipline says holds it, and nobody else (`Discipline.Inv.exclusive`).
* `Discipline.no_orphan` — if threads act on a cancellation only where they hold nothing and do
  not wait, no mutex is ever owned by a thread that has ended.
-/

set_option linter.unusedSectionVars false

namespace Pthread

variable {T : Type} {Pc : T → Type} {M C A D E : Type} [DecidableEq T] [DecidableEq M]
  [DecidableEq C]

lemma wake_alive {P : Type} (c : C) (th : Thread P M C A) :
    (wake c th).status.alive = th.status.alive := by
  rw [wake_status]
  cases th.status with
  | waiting c' m => by_cases hc : c' = c <;> simp [hc, Status.alive]
  | _ => rfl

/-- A woken thread still has to take the mutex of its wait. -/
lemma wake_mutex {P : Type} (c : C) (th : Thread P M C A) :
    (wake c th).status.mutex = th.status.mutex := by
  rw [wake_status]
  cases th.status with
  | waiting c' m => by_cases hc : c' = c <;> simp [hc, Status.mutex]
  | _ => rfl

/-- `i.Respects held q`: if a thread that holds `held q` executes `i` at `q`, it holds afterwards
what `held` says of the place it comes to. -/
def Instr.Respects {P : Type} (held : P → List M) (q : P) : Instr T P M C A D → Prop
  | .act f next => ∀ d, held (next (f d)) = held q
  | .call _ f next => ∀ d, held (next (f d)) = held q
  | .lock m next => held next = m :: held q
  | .unlock m f next => ∀ d, held q = m :: held (next (f d))
  | .wait _ m next => m ∈ held q ∧ held next = held q
  | .broadcast _ next => held next = held q
  | .sleep next => held next = held q
  | .setCancelState _ next => held next = held q
  | .cancel _ next => held next = held q
  | .create _ _ _ next fail => held next = held q ∧ held fail = held q
  | .join _ next => held next = held q
  | .exit => held q = []

/-- A static assignment of the mutexes held at each program counter.  `argOk` are the arguments
that threads are created with. -/
structure Discipline (p : Program T Pc M C A D E) where
  argOk : T → A → Prop
  held : (t : T) → A → Pc t → List M
  nodup : ∀ t arg q, argOk t arg → (held t arg q).Nodup
  entry : ∀ t arg, argOk t arg → held t arg (p.entry t) = []
  respects : ∀ t arg q, argOk t arg → (p.code t arg q).Respects (held t arg) q
  spawns : ∀ t arg q, argOk t arg → ∀ d u arg',
    (p.code t arg q).spawns d = some (u, arg') → argOk u arg'

namespace Discipline

variable {p : Program T Pc M C A D E} (L : Discipline p) {s s' s₀ : State T Pc M C A D}
  {a : Action T E} {ok : State T Pc M C A D → Action T E → Prop} {t u : T} {m : M}

/-- The mutexes the code around the program counter of `t` holds. -/
def heldAt (s : State T Pc M C A D) (t : T) : List M := L.held t (s.ctl t).arg (s.ctl t).pc

/-- Thread `t` holds `m`: it is alive, its code holds `m` here, and it has not given `m` up to
wait. -/
def Holds (s : State T Pc M C A D) (t : T) (m : M) : Prop :=
  (s.ctl t).status.alive = true ∧ m ∈ L.heldAt s t ∧ (s.ctl t).status.mutex ≠ some m

/-- The owners are the threads that hold, and a waiting thread waits with a mutex of its own. -/
structure Inv (s : State T Pc M C A D) : Prop where
  args : ∀ t, L.argOk t (s.ctl t).arg
  owner : ∀ t m, s.owner m = .held t ↔ L.Holds s t m
  waits : ∀ t m, (s.ctl t).status.mutex = some m → m ∈ L.heldAt s t

/-- Before anything runs: all mutexes are free and every thread is at its entry. -/
lemma inv_init (hargs : ∀ t, L.argOk t (s.ctl t).arg) (hfree : ∀ m, s.owner m = .free)
    (hpc : ∀ t, (s.ctl t).pc = p.entry t) (hst : ∀ t, (s.ctl t).status.mutex = none) :
    L.Inv s := by
  refine ⟨hargs, fun t m => ?_, fun t m hm => by simp [hst] at hm⟩
  have hheld : L.heldAt s t = [] := by rw [heldAt, hpc, L.entry t _ (hargs t)]
  simp [hfree, Holds, hheld]

variable {L}

/-- What a thread holds depends on its place, on whether it is alive and on what it waits with. -/
lemma holds_congr (hpl : (s.ctl u).SamePlace (s'.ctl u))
    (ha : (s'.ctl u).status.alive = (s.ctl u).status.alive)
    (hm : (s'.ctl u).status.mutex = (s.ctl u).status.mutex) :
    L.Holds s' u m ↔ L.Holds s u m := by
  simp [Holds, heldAt, hpl.1, hpl.2, ha, hm]

lemma Inv.argOk_instr (h : L.Inv s) (t : T) :
    (s.instr p t).Respects (L.held t (s.ctl t).arg) (s.ctl t).pc :=
  L.respects t _ _ (h.args t)

/-! ## One instruction -/

/-- An instruction of `t` gives no mutex to another thread and takes none from it. -/
lemma locks_other {P : Type} {i : Instr T P M C A D} {o o' : M → Owner T} (hl : i.Locks t o o')
    (hu : u ≠ t) : o' m = .held u ↔ o m = .held u := by
  have hupd : ∀ (m₁ : M) (x : Owner T), (o m₁ ≠ .held u) → x ≠ .held u →
      (Function.update o m₁ x m = .held u ↔ o m = .held u) := fun m₁ x h₁ hx => by
    by_cases hm : m = m₁
    · subst hm; simp [h₁, hx]
    · simp [hm]
  cases i with
  | call m₁ f next =>
      cases m₁ with
      | none => rw [show o' = o from hl]
      | some m₁ => rw [hl.2]
  | lock m₁ next =>
      obtain ⟨hfree, rfl⟩ := hl
      exact hupd m₁ _ (by simp [hfree]) (by simpa using hu.symm)
  | unlock m₁ f next =>
      obtain ⟨hheld, rfl⟩ := hl
      exact hupd m₁ _ (by simpa [hheld] using hu.symm) (by simp)
  | wait c m₁ next =>
      obtain ⟨hheld, rfl⟩ := hl
      exact hupd m₁ _ (by simpa [hheld] using hu.symm) (by simp)
  | _ => rw [show o' = o from hl]

/-- The thread that executes an instruction holds afterwards what it owns afterwards. -/
lemma Inv.exec_self (h : L.Inv s) (ex : Executes p s s' t) :
    s'.owner m = .held t ↔ L.Holds s' t m := by
  have hresp := h.argOk_instr t
  have hown := h.owner t
  have hnd := L.nodup t _ (s.ctl t).pc (h.args t)
  have hgoes := ex.goes
  have hlocks := ex.locks
  simp only [Holds, heldAt, ex.arg, ex.status, ex.running, Status.alive, Status.mutex] at hown ⊢
  generalize (s.ctl t).arg = arg at *
  cases hi : s.instr p t with
  | act f next =>
      rw [hi] at hgoes hlocks hresp
      rw [hlocks, hown m, hgoes.2, hresp s.data]
      simp [Instr.statusAfter]
  | call m₁ f next =>
      rw [hi] at hgoes hlocks hresp
      have ho : s'.owner = s.owner := by
        cases m₁ with
        | none => exact hlocks
        | some m₁ => exact hlocks.2
      rw [ho, hown m, hgoes.2, hresp s.data]
      simp [Instr.statusAfter]
  | lock m₁ next =>
      rw [hi] at hgoes hlocks hresp
      rw [hlocks.2, hgoes.2, hresp]
      by_cases hm : m = m₁
      · subst hm; simp [Instr.statusAfter]
      · simp [Instr.statusAfter, hm, hown m]
  | unlock m₁ f next =>
      rw [hi] at hgoes hlocks hresp
      have hq := hresp s.data
      rw [hlocks.2, hgoes.2]
      rw [hq, List.nodup_cons] at hnd
      by_cases hm : m = m₁
      · subst hm; simp [Instr.statusAfter, hnd.1]
      · simp [Instr.statusAfter, hm, hown m, hq]
  | wait c m₁ next =>
      rw [hi] at hgoes hlocks hresp
      rw [hlocks.2, hgoes.2, hresp.2]
      by_cases hm : m = m₁
      · subst hm; simp [Instr.statusAfter]
      · simp [Instr.statusAfter, hm, hown m, Ne.symm hm]
  | create v arg' ok next fail =>
      rw [hi] at hgoes hlocks hresp
      have hq : L.held t arg (s'.ctl t).pc = L.held t arg (s.ctl t).pc := by
        rcases hgoes.2 with hpc | hpc <;> rw [hpc]
        · exact hresp.1
        · exact hresp.2
      rw [show s'.owner = s.owner from hlocks, hown m, hq]
      simp [Instr.statusAfter]
  | exit => rw [hi] at hgoes; exact hgoes.elim
  | _ =>
      rw [hi] at hgoes hlocks hresp
      rw [show s'.owner = s.owner from hlocks, hown m, hgoes.2, hresp]
      simp [Instr.statusAfter]

/-- A thread that begins to wait gives up a mutex its code holds. -/
lemma Inv.exec_waits (h : L.Inv s) (ex : Executes p s s' t)
    (hm : (s'.ctl t).status.mutex = some m) : m ∈ L.heldAt s' t := by
  rw [ex.status] at hm
  rcases (s.instr p t).statusAfter_cases with hr | ⟨c, m', next, hi, hst⟩
  · rw [hr] at hm; cases hm
  · rw [hst] at hm
    obtain rfl : m' = m := by simpa [Status.mutex] using hm
    have hresp := h.argOk_instr t
    have hgoes := ex.goes
    rw [hi] at hresp hgoes
    rw [heldAt, ex.arg, hgoes.2, hresp.2]
    exact hresp.1

/-- Another thread keeps what it holds; a created one holds nothing. -/
lemma Inv.exec_other (h : L.Inv s) (ex : Executes p s s' t) (hu : u ≠ t) :
    (s'.owner m = .held u ↔ L.Holds s' u m) ∧ L.argOk u (s'.ctl u).arg ∧
      ((s'.ctl u).status.mutex = some m → m ∈ L.heldAt s' u) := by
  have hold : (L.Holds s' u m ↔ L.Holds s u m) → (s'.owner m = .held u ↔ L.Holds s' u m) :=
    fun hh => (locks_other ex.locks hu).trans ((h.owner u m).trans hh.symm)
  have hplace : (s.ctl u).SamePlace (s'.ctl u) →
      (s'.ctl u).status.alive = (s.ctl u).status.alive →
      (s'.ctl u).status.mutex = (s.ctl u).status.mutex →
      (s'.owner m = .held u ↔ L.Holds s' u m) ∧ L.argOk u (s'.ctl u).arg ∧
        ((s'.ctl u).status.mutex = some m → m ∈ L.heldAt s' u) := fun hpl ha hmu => by
    refine ⟨hold (holds_congr hpl ha hmu), hpl.2 ▸ h.args u, fun hm => ?_⟩
    rw [heldAt, hpl.1, hpl.2]
    exact h.waits u m (hmu ▸ hm)
  cases ex.others u hu with
  | same _ ctl => exact hplace (by rw [ctl]; exact .refl _) (by rw [ctl]) (by rw [ctl])
  | woken c _ ctl =>
      exact hplace (by rw [ctl]; exact ⟨wake_pc c _, wake_arg c _⟩)
        (by rw [ctl, wake_alive]) (by rw [ctl, wake_mutex])
  | asked _ ctl => exact hplace (by rw [ctl]; exact ⟨rfl, rfl⟩) (by rw [ctl]) (by rw [ctl])
  | created hc =>
      have harg : L.argOk u (s'.ctl u).arg :=
        L.spawns t _ _ (h.args t) s.data u _ hc.spawned
      have hheld : L.heldAt s' u = [] := by
        rw [heldAt, hc.fresh]; exact L.entry u _ harg
      refine ⟨hold ?_, harg, fun hm => by rw [hc.fresh] at hm; cases hm⟩
      simp [Holds, hheld, hc.notAlive]

/-! ## One step -/

/-- A thread that ends keeps nothing; the others keep what they hold. -/
lemma Inv.finish (h : L.Inv s) (t : T) : L.Inv (s.finish t) := by
  have hmut : ∀ u, u ≠ t → ((s.finish t).ctl u) = s.ctl u := fun u hu =>
    State.finish_ctl_of_ne hu
  refine ⟨fun u => ?_, fun u m => ?_, fun u m hm => ?_⟩
  · by_cases hu : u = t
    · subst hu; simpa using h.args u
    · rw [hmut u hu]; exact h.args u
  · rw [State.finish_owner]
    by_cases hu : u = t
    · subst hu
      have : ¬L.Holds (s.finish u) u m := by simp [Holds, Status.alive]
      simp only [this, iff_false]
      split <;> simp_all
    · rw [holds_congr (s := s) (by rw [hmut u hu]; exact .refl _) (by rw [hmut u hu])
        (by rw [hmut u hu]), ← h.owner u m]
      split <;> simp_all [Ne.symm hu]
  · by_cases hu : u = t
    · subst hu; simp [Status.mutex] at hm
    · rw [hmut u hu] at hm
      rw [heldAt, hmut u hu]; exact h.waits u m hm

/-- A change of status that keeps a thread alive and waiting with the same mutex. -/
lemma Inv.setStatus (h : L.Inv s) {st : Status M C}
    (ha : st.alive = (s.ctl t).status.alive) (hm : st.mutex = (s.ctl t).status.mutex) :
    L.Inv (s.setStatus t st) := by
  have hpl : ∀ u, (s.ctl u).SamePlace ((s.setStatus t st).ctl u) := samePlace_setStatus t st
  have hst : ∀ u, ((s.setStatus t st).ctl u).status.alive = (s.ctl u).status.alive ∧
      ((s.setStatus t st).ctl u).status.mutex = (s.ctl u).status.mutex := fun u => by
    by_cases hu : u = t
    · subst hu; simp [ha, hm]
    · rw [State.setStatus_ctl_of_ne st hu]; exact ⟨rfl, rfl⟩
  refine ⟨fun u => (hpl u).2 ▸ h.args u, fun u m => ?_, fun u m hmu => ?_⟩
  · rw [State.setStatus_owner, holds_congr (hpl u) (hst u).1 (hst u).2]
    exact h.owner u m
  · rw [heldAt, (hpl u).1, (hpl u).2]
    exact h.waits u m ((hst u).2 ▸ hmu)

/-- A thread that comes back from a wait owns the mutex of the wait again. -/
lemma Inv.resume (h : L.Inv s) (hst : (s.ctl t).status.mutex = some m)
    (hfree : s.owner m = .free) : L.Inv ((s.setStatus t .running).setOwner m (.held t)) := by
  have hheld : m ∈ L.heldAt s t := h.waits t m hst
  have halive : (s.ctl t).status.alive = true := by
    cases hs : (s.ctl t).status <;> simp_all [Status.mutex, Status.alive]
  have hpl : ∀ u, (s.ctl u).SamePlace
      (((s.setStatus t .running).setOwner m (.held t)).ctl u) := samePlace_setStatus t .running
  have hne : ∀ u, u ≠ t → ((s.setStatus t .running).setOwner m (.held t)).ctl u = s.ctl u :=
    fun u hu => State.setStatus_ctl_of_ne _ hu
  refine ⟨fun u => (hpl u).2 ▸ h.args u, fun u m' => ?_, fun u m' hm' => ?_⟩
  · rw [State.setOwner_owner, State.setStatus_owner]
    by_cases hu : u = t
    · subst hu
      have hstat : (((s.setStatus u .running).setOwner m (.held u)).ctl u).status = .running := by
        simp
      rw [Holds, heldAt, (hpl u).1, (hpl u).2, hstat]
      by_cases hm' : m' = m
      · subst hm'
        simpa [Status.alive, Status.mutex, heldAt] using hheld
      · rw [if_neg hm', h.owner u m', Holds, hst]
        have hrun : (Status.running : Status M C).alive = true := rfl
        simp [halive, hrun, Status.mutex, Ne.symm hm', heldAt]
    · rw [holds_congr (s := s) (by rw [hne u hu]; exact .refl _) (by rw [hne u hu])
        (by rw [hne u hu]), ← h.owner u m']
      by_cases hm' : m' = m
      · subst hm'; simp [hfree, Ne.symm hu]
      · simp [hm']
  · by_cases hu : u = t
    · subst hu; simp [Status.mutex] at hm'
    · rw [hne u hu] at hm'
      rw [heldAt, hne u hu]; exact h.waits u m' hm'

/-- Threads that are replaced while they are not alive, by ones that hold nothing where they are
put, leave the owners as they are. -/
lemma Inv.replace (h : L.Inv s) (howner : s'.owner = s.owner)
    (hctl : ∀ u, s'.ctl u = s.ctl u ∨ ((s.ctl u).status.alive = false ∧
      L.argOk u (s'.ctl u).arg ∧ L.heldAt s' u = [] ∧ (s'.ctl u).status.mutex = none)) :
    L.Inv s' := by
  refine ⟨fun u => ?_, fun u m => ?_, fun u m hm => ?_⟩ <;>
    rcases hctl u with hu | ⟨hdead, harg, hheld, hmutex⟩
  · rw [hu]; exact h.args u
  · exact harg
  · rw [howner, holds_congr (s := s) (by rw [hu]; exact .refl _) (by rw [hu]) (by rw [hu])]
    exact h.owner u m
  · rw [howner, h.owner u m]
    simp [Holds, hdead, hheld]
  · rw [heldAt, hu]; exact h.waits u m (hu ▸ hm)
  · rw [hmutex] at hm; cases hm

/-- **Every step keeps the lock discipline.** -/
theorem Inv.step (h : L.Inv s) (hs : step p s a = some s') : L.Inv s' := by
  cases step_effect hs with
  | exec t ex =>
      refine ⟨fun u => ?_, fun u m => ?_, fun u m hm => ?_⟩ <;> by_cases hu : u = t
      · subst hu; rw [ex.arg]; exact h.args u
      · cases ex.other_place hu with
        | inl hpl => rw [hpl.2]; exact h.args u
        | inr hc => exact L.spawns t _ _ (h.args t) s.data u _ hc.spawned
      · subst hu; exact h.exec_self ex
      · exact (h.exec_other ex hu).1
      · subst hu; exact h.exec_waits ex hm
      · exact (h.exec_other ex hu).2.2 hm
  | exit t _ _ eq => subst eq; exact h.finish t
  | resume t m hw hfree eq => subst eq; exact h.resume (by rw [hw]; rfl) hfree
  | die t m hc hfree eq =>
      subst eq
      have hfin := (h.resume (t := t) (by rw [hc]; rfl) hfree).finish t
      have heq : ((s.setStatus t .running).setOwner m (.held t)).finish t =
          (s.setOwner m (.held t)).finish t := by
        simp only [State.finish, State.setStatus, State.setCtl, State.setOwner,
          Function.update_self, Function.update_idem]
        rfl
      exact heq ▸ hfin
  | acceptRunning t _ _ _ eq => subst eq; exact h.finish t
  | acceptWaiting t m _ hw eq =>
      subst eq
      refine h.setStatus ?_ ?_ <;> rcases hw with ⟨c, hw⟩ | hw <;> rw [hw] <;> rfl
  | spurious t c m hw eq =>
      subst eq
      exact h.setStatus (by rw [hw]; rfl) (by rw [hw]; rfl)
  | env e eq => subst eq; exact ⟨h.args, h.owner, h.waits⟩

/-! ## Runs -/

theorem inv_of_reach (hinit : L.Inv s₀) (h : Reach p ok s₀ s) : L.Inv s :=
  h.invariant hinit fun _ ih _ hs => ih.step hs

/-- **Mutual exclusion.** -/
theorem Inv.exclusive (h : L.Inv s) (ht : L.Holds s t m) (hu : L.Holds s u m) : t = u := by
  have h₁ := (h.owner t m).mpr ht
  have h₂ := (h.owner u m).mpr hu
  rw [h₁] at h₂
  exact Owner.held.inj h₂

/-- A running thread holds what its code holds. -/
lemma holds_of_running (hr : (s.ctl t).status = .running) (hm : m ∈ L.heldAt s t) :
    L.Holds s t m := by
  simp [Holds, hr, hm, Status.alive, Status.mutex]

/-- Where the code holds nothing, nothing is owned. -/
lemma Inv.not_owner (h : L.Inv s) (hheld : L.heldAt s t = []) : s.owner m ≠ .held t := by
  rw [Ne, h.owner t m, Holds, hheld]
  simp

/-- No mutex belongs to a thread that has ended, and none is about to. -/
structure NoOrphan (s : State T Pc M C A D) : Prop where
  owner : ∀ m t, s.owner m ≠ .ended t
  status : ∀ t m, (s.ctl t).status ≠ .cancelled m

lemma NoOrphan.finish (h : NoOrphan s) (ht : ∀ m, s.owner m ≠ .held t) :
    NoOrphan (s.finish t) := by
  refine ⟨fun m u => ?_, fun u m => ?_⟩
  · rw [State.finish_owner, if_neg (ht m)]; exact h.owner m u
  · by_cases hu : u = t
    · subst hu; simp
    · rw [State.finish_ctl_of_ne hu]; exact h.status u m

lemma locks_not_ended {P : Type} {i : Instr T P M C A D} {o o' : M → Owner T}
    (hl : i.Locks t o o') (ho : o m ≠ .ended u) : o' m ≠ .ended u := by
  have hupd : ∀ (m₁ : M) (x : Owner T), x ≠ .ended u → Function.update o m₁ x m ≠ .ended u :=
    fun m₁ x hx => by
      by_cases hm : m = m₁
      · subst hm; simpa using hx
      · simpa [hm] using ho
  cases i with
  | call m₁ f next =>
      cases m₁ with
      | none => rw [show o' = o from hl]; exact ho
      | some m₁ => rw [hl.2]; exact ho
  | lock m₁ next => rw [hl.2]; exact hupd m₁ _ (by simp)
  | unlock m₁ f next => rw [hl.2]; exact hupd m₁ _ (by simp)
  | wait c m₁ next => rw [hl.2]; exact hupd m₁ _ (by simp)
  | _ => rw [show o' = o from hl]; exact ho

/-- A mutex that its owner has kept to its end is never given back. -/
lemma owner_ended_step (hs : step p s a = some s') (ho : s.owner m = .ended u) :
    s'.owner m = .ended u := by
  have hkept : ∀ (m₁ : M) (x : Owner T), s.owner m₁ ≠ .ended u →
      Function.update s.owner m₁ x m = .ended u := fun m₁ x hx => by
    rw [Function.update_of_ne (by rintro rfl; exact hx ho), ho]
  cases step_effect hs with
  | exec t ex =>
      have hl := ex.locks
      generalize s.instr p t = i at hl
      cases i with
      | call m₁ f next =>
          cases m₁ with
          | none => rw [show s'.owner = s.owner from hl, ho]
          | some m₁ => rw [hl.2, ho]
      | lock m₁ next => rw [hl.2]; exact hkept m₁ _ (by simp [hl.1])
      | unlock m₁ f next => rw [hl.2]; exact hkept m₁ _ (by simp [hl.1])
      | wait c m₁ next => rw [hl.2]; exact hkept m₁ _ (by simp [hl.1])
      | _ => rw [show s'.owner = s.owner from hl, ho]
  | resume t m' _ hfree eq =>
      rw [eq, State.setOwner_owner, if_neg (by rintro rfl; simp [ho] at hfree)]
      exact ho
  | die t m' _ hfree eq =>
      rw [eq, State.finish_owner, State.setOwner_owner,
        if_neg (show m ≠ m' by rintro rfl; simp [ho] at hfree), ho]
      simp
  | exit t _ _ eq | acceptRunning t _ _ _ eq => rw [eq, State.finish_owner, ho]; simp
  | acceptWaiting t m' _ _ eq => rw [eq, State.setStatus_owner, ho]
  | spurious t c m' _ eq => rw [eq, State.setStatus_owner, ho]
  | env e eq => rw [eq]; exact ho

/-- A mutex stays with its owner until the owner executes an instruction, or ends. -/
lemma owner_held_step (hs : step p s a = some s') (hex : ¬Executes p s s' t)
    (ho : s.owner m = .held t) : s'.owner m = .held t ∨ s'.owner m = .ended t := by
  have hfinish : ∀ (s₁ : State T Pc M C A D) (u : T), s₁.owner m = .held t →
      (s₁.finish u).owner m = .held t ∨ (s₁.finish u).owner m = .ended t := fun s₁ u ho₁ => by
    rw [State.finish_owner]
    split
    · next hu => exact .inr (by rw [Owner.held.inj (ho₁.symm.trans hu)])
    · exact .inl ho₁
  cases step_effect hs with
  | exec u ex =>
      have hne : t ≠ u := by rintro rfl; exact hex ex
      exact .inl ((locks_other ex.locks hne).mpr ho)
  | resume u m' _ hfree eq =>
      refine .inl ?_
      rw [eq, State.setOwner_owner, if_neg (by rintro rfl; simp [ho] at hfree)]
      exact ho
  | die u m' _ hfree eq =>
      rw [eq]
      refine hfinish _ u ?_
      rw [State.setOwner_owner, if_neg (by rintro rfl; simp [ho] at hfree)]
      exact ho
  | exit u _ _ eq | acceptRunning u _ _ _ eq => rw [eq]; exact hfinish s u ho
  | acceptWaiting u m' _ _ eq => rw [eq]; exact .inl ho
  | spurious u c m' _ eq => rw [eq]; exact .inl ho
  | env e eq => rw [eq]; exact .inl ho

/-- A thread that acts on a cancellation outside every locked section and every wait leaves no
mutex behind; nor does any other step. -/
lemma NoOrphan.step (h : NoOrphan s) (hinv : L.Inv s)
    (hok : ∀ t, a = .accept t → (s.ctl t).status = .running ∧ L.heldAt s t = [])
    (hs : step p s a = some s') : NoOrphan s' := by
  refine ⟨fun m u => ?_, fun u m hc => ?_⟩
  · cases step_effect hs with
    | exec t ex => exact locks_not_ended ex.locks (h.owner m u)
    | exit t hr hi eq =>
        subst eq
        have hresp := hinv.argOk_instr t
        rw [hi] at hresp
        exact (h.finish fun _ => hinv.not_owner hresp).owner m u
    | resume t m' _ _ eq =>
        subst eq
        rw [State.setOwner_owner]
        split
        · simp
        · exact h.owner m u
    | die t m' hc _ _ => exact absurd hc (h.status t m')
    | acceptRunning t _ _ _ eq =>
        subst eq
        exact (h.finish fun _ => hinv.not_owner (hok t rfl).2).owner m u
    | acceptWaiting t m' _ _ eq => subst eq; exact h.owner m u
    | spurious t c m' _ eq => subst eq; exact h.owner m u
    | env e eq => subst eq; exact h.owner m u
  · cases thread_step hs u with
    | same ctl => rw [ctl] at hc; exact h.status u m hc
    | exec ex =>
        rcases (s.instr p u).statusAfter_cases with hr | ⟨c, m', next, _, hst⟩
        · rw [ex.status, hr] at hc; cases hc
        · rw [ex.status, hst] at hc; cases hc
    | created t _ _ hc' => rw [hc'.fresh] at hc; cases hc
    | asked t _ _ ctl => rw [ctl] at hc; exact h.status u m hc
    | woken c m' _ ctl => rw [ctl] at hc; cases hc
    | resume m' _ ctl => rw [ctl] at hc; cases hc
    | exit _ _ ctl => rw [ctl] at hc; cases hc
    | die m' _ ctl => rw [ctl] at hc; cases hc
    | killed _ _ _ ctl => rw [ctl] at hc; cases hc
    | caught m' _ hw _ =>
        have hr := (hok u rfl).1
        rcases hw with ⟨c, hw⟩ | hw <;> rw [hr] at hw <;> cases hw

/-- **No orphaned mutex.** -/
theorem no_orphan
    (hok : ∀ {s s' t}, Reach p ok s₀ s → ok s (.accept t) → step p s (.accept t) = some s' →
      (s.ctl t).status = .running ∧ L.heldAt s t = [])
    (hinv : L.Inv s₀) (hinit : NoOrphan s₀) (h : Reach p ok s₀ s) : NoOrphan s :=
  h.invariant hinit fun hr ih ha hs =>
    ih.step (inv_of_reach hinv hr) (fun _ ht => hok hr (ht ▸ ha) (ht ▸ hs)) hs

end Discipline

end Pthread
