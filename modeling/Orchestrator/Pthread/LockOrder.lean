import Orchestrator.Pthread.LockSet
import Mathlib.Logic.Relation

/-!
# Lock order

Threads that take their mutexes in a fixed order never wait for each other in a circle.

* `Ordered` — whoever asks for a mutex owns only mutexes of smaller rank.
* `Ordered.no_deadlock` — then no thread waits, directly or through others, for itself.
* `Discipline.Ranked` — a condition on the code alone, and `Discipline.Ranked.ordered`: a program
  that meets it is ordered wherever its lock discipline holds.
-/

set_option linter.unusedSectionVars false

namespace Pthread

/-! ## Waiting for mutexes -/

section WaitsFor

variable {T M : Type} {rank : M → ℕ} {owner : M → Owner T} {requests : T → Option M}

/-- Whoever asks for a mutex owns only mutexes of smaller rank. -/
def Ordered (rank : M → ℕ) (owner : M → Owner T) (requests : T → Option M) : Prop :=
  ∀ t m, requests t = some m → ∀ m', owner m' = .held t → rank m' < rank m

/-- Thread `t` asks for a mutex that `u` owns. -/
def WaitsFor (owner : M → Owner T) (requests : T → Option M) (t u : T) : Prop :=
  ∃ m, requests t = some m ∧ owner m = .held u

/-- Along a chain of waiting threads the ranks rise: the last one owns a mutex at least as high as
the one the first asks for. -/
lemma Ordered.rank_le (h : Ordered rank owner requests) {t u : T} {m : M}
    (hm : requests t = some m) (hw : Relation.TransGen (WaitsFor owner requests) t u) :
    ∃ m', owner m' = .held u ∧ rank m ≤ rank m' := by
  induction hw with
  | single hw =>
      obtain ⟨m', hm', ho⟩ := hw
      obtain rfl : m = m' := Option.some.inj (hm.symm.trans hm')
      exact ⟨m, ho, Nat.le_refl _⟩
  | tail _ hw ih =>
      obtain ⟨m₁, ho₁, hle⟩ := ih
      obtain ⟨m₂, hm₂, ho₂⟩ := hw
      have hlt : rank m₁ < rank m₂ := h _ m₂ hm₂ m₁ ho₁
      exact ⟨m₂, ho₂, Nat.le_trans hle (Nat.le_of_lt hlt)⟩

/-- **No deadlock.**  Where the mutexes are taken in order, no circle of threads waits for each
other's mutexes. -/
theorem Ordered.no_deadlock (h : Ordered rank owner requests) (t : T) :
    ¬Relation.TransGen (WaitsFor owner requests) t t := by
  intro hw
  obtain ⟨u, ⟨m, hm, _⟩, _⟩ := Relation.TransGen.head'_iff.mp hw
  obtain ⟨m', ho, hle⟩ := h.rank_le hm hw
  have hlt : rank m' < rank m := h t m hm m' ho
  omega

end WaitsFor

/-! ## Requests -/

variable {T : Type} {Pc : T → Type} {M C A D E : Type} [DecidableEq T] [DecidableEq M]
  [DecidableEq C]

/-- The mutex an instruction has to take: a lock, or the leaf mutex of a library call. -/
def Instr.requests {P : Type} : Instr T P M C A D → Option M
  | .lock m _ => some m
  | .call m _ _ => m
  | _ => none

/-- The mutex thread `t` has to take before it can go on.  One that was woken from a condition wait,
or cancelled in it, asks for the mutex of the wait. -/
def State.requests (p : Program T Pc M C A D E) (s : State T Pc M C A D) (t : T) : Option M :=
  match (s.ctl t).status with
  | .running => (s.instr p t).requests
  | .woken m => some m
  | .cancelled m => some m
  | _ => none

namespace Discipline

variable {p : Program T Pc M C A D E} {L : Discipline p} {rank : M → ℕ}
  {s : State T Pc M C A D}

/-- Every instruction that takes a mutex stands where only mutexes of smaller rank are held, and a
condition wait keeps only such mutexes besides its own. -/
structure Ranked (L : Discipline p) (rank : M → ℕ) : Prop where
  requests : ∀ t arg q, L.argOk t arg → ∀ m, (p.code t arg q).requests = some m →
    ∀ m' ∈ L.held t arg q, rank m' < rank m
  waits : ∀ t arg q, L.argOk t arg → ∀ c m next, p.code t arg q = .wait c m next →
    ∀ m' ∈ L.held t arg q, m' ≠ m → rank m' < rank m

/-- A thread in or after a condition wait keeps only mutexes below that of the wait. -/
lemma Ranked.waiting (h : L.Ranked rank) (hinv : L.Inv s) (hpl : WaitPlace p s) {t : T} {m m' : M}
    (hm : (s.ctl t).status.mutex = some m) (ho : s.owner m' = .held t) : rank m' < rank m := by
  obtain ⟨_, hheld, hne⟩ := (hinv.owner t m').mp ho
  obtain ⟨c, q, hq⟩ := hpl t m hm
  have hresp := L.respects t _ q (hinv.args t)
  rw [hq] at hresp
  have hheld' : m' ∈ L.held t (s.ctl t).arg q := by rw [← hresp.2]; exact hheld
  refine h.waits t _ q (hinv.args t) c m _ hq m' hheld' fun heq => hne ?_
  rw [hm, heq]

/-- **A ranked program takes its mutexes in order.** -/
theorem Ranked.ordered (h : L.Ranked rank) (hinv : L.Inv s) (hpl : WaitPlace p s) :
    Ordered rank s.owner (s.requests p) := by
  intro t m hm m' ho
  cases hst : (s.ctl t).status with
  | running =>
      obtain ⟨_, hheld, _⟩ := (hinv.owner t m').mp ho
      rw [State.requests, hst] at hm
      exact h.requests t _ _ (hinv.args t) m hm m' hheld
  | woken m₁ =>
      obtain rfl : m₁ = m := by simpa [State.requests, hst] using hm
      exact h.waiting hinv hpl (by rw [hst]; rfl) ho
  | cancelled m₁ =>
      obtain rfl : m₁ = m := by simpa [State.requests, hst] using hm
      exact h.waiting hinv hpl (by rw [hst]; rfl) ho
  | _ => simp [State.requests, hst] at hm

end Discipline

end Pthread
