import Orchestrator.Pthread.Step
import Mathlib.Logic.Relation

/-!
# A thread on its own

What the code of one thread does to memory when nobody else moves and no lock is taken.
-/

namespace Pthread

variable {T P M C A D : Type}

/-- `Alone code (q, d) (q', d')`: from `q` with memory `d` the code comes to `q'` with `d'`, with
nothing in between but its own instructions. -/
def Alone (code : P → Instr T P M C A D) : P × D → P × D → Prop :=
  Relation.ReflTransGen fun x y => (code x.1).Goes x.2 y.2 y.1

variable {code : P → Instr T P M C A D} {q q' : P} {d d' : D} {x : P × D}

lemma Alone.refl : Alone code x x := Relation.ReflTransGen.refl

/-- The first instruction, and the rest. -/
lemma Alone.head (h : (code q).Goes d d' q') (hrest : Alone code (q', d') x) :
    Alone code (q, d) x :=
  Relation.ReflTransGen.head h hrest

lemma Alone.trans {y z : P × D} (h₁ : Alone code x y) (h₂ : Alone code y z) : Alone code x z :=
  Relation.ReflTransGen.trans h₁ h₂

end Pthread
