import Mathlib.Order.Nat

/-!
# The time card of a server

A server records how long each service took when the service is over.  A `Timecard` is its total so
far, together with the service that it is giving or has given and not recorded.

* `Timecard.Move` — what the server can do at a time.
* `Timecard.Sound` — the services recorded, and the one that is not, lie one after the other between
  the opening of the card and now.
* `Timecard.Sound.total_le` — so the total is at most the time since the opening.
-/

namespace Queueing

/-- What a server is doing. -/
inductive Phase where
  | idle
  | busy (since : Nat)
  | done (since finish : Nat)
  deriving DecidableEq, Repr

/-- The card of a server: when it was opened, and the service time recorded so far. -/
structure Timecard where
  opened : Nat
  total : Nat
  phase : Phase
  deriving DecidableEq, Repr

namespace Timecard

/-- One step of a server at time `now`. -/
inductive Move (now : Nat) : Timecard → Timecard → Prop where
  | start {opened total : Nat} : Move now ⟨opened, total, .idle⟩ ⟨opened, total, .busy now⟩
  | finish {opened total since : Nat} :
      Move now ⟨opened, total, .busy since⟩ ⟨opened, total, .done since now⟩
  | record {opened total since finish : Nat} :
      Move now ⟨opened, total, .done since finish⟩ ⟨opened, total + (finish - since), .idle⟩
  -- the server goes away, and what it had not recorded is lost
  | leave {c : Timecard} : Move now c { c with phase := .idle }
  | reopen {opened : Nat} : Move now ⟨opened, 0, .idle⟩ ⟨now, 0, .idle⟩

/-- The card is right at time `now`. -/
def Sound (now : Nat) (c : Timecard) : Prop :=
  match c.phase with
  | .idle => c.opened + c.total ≤ now
  | .busy since => c.opened + c.total ≤ since ∧ since ≤ now
  | .done since finish => c.opened + c.total ≤ since ∧ since ≤ finish ∧ finish ≤ now

variable {now now' : Nat} {c c' : Timecard}

lemma Sound.later (h : c.Sound now) (hle : now ≤ now') : c.Sound now' := by
  obtain ⟨opened, total, phase⟩ := c
  cases phase with
  | idle => exact Nat.le_trans h hle
  | busy since => exact ⟨h.1, Nat.le_trans h.2 hle⟩
  | done since finish => exact ⟨h.1, h.2.1, Nat.le_trans h.2.2 hle⟩

/-- **The total is at most the time since the opening.** -/
theorem Sound.total_le (h : c.Sound now) : c.opened + c.total ≤ now := by
  obtain ⟨opened, total, phase⟩ := c
  cases phase with
  | idle => exact h
  | busy since => exact Nat.le_trans h.1 h.2
  | done since finish => exact Nat.le_trans h.1 (Nat.le_trans h.2.1 h.2.2)

/-- **Every move keeps the card right.** -/
theorem Sound.move (h : c.Sound now) (hmove : Move now c c') : c'.Sound now := by
  cases hmove with
  | start => exact ⟨h, Nat.le_refl now⟩
  | finish => exact ⟨h.1, h.2, Nat.le_refl now⟩
  | @record opened total since finish =>
      obtain ⟨hbefore, hordered, hafter⟩ := h
      show opened + (total + (finish - since)) ≤ now
      simp only at hbefore
      omega
  | leave => exact h.total_le
  | reopen => exact Nat.le_refl now

end Timecard

end Queueing
