import Mathlib.Algebra.Order.Ring.Int
import Mathlib.Data.List.Nodup
import Mathlib.Logic.Function.Basic

/-!
# Requests for stock

The owner of a store who has too little for what it wants to do writes a request and waits until
there is enough or it gives up.  One clerk takes the requests in turn, measures what is missing in
the store and brings it later.

* `Desk.Step` — the moves.
* `Desk.Sound` — an owner that waits for stock has exactly one request, in the queue or with the
  clerk, and what the clerk brings fills the store.
-/

namespace Stock

/-- Where an owner stands. -/
inductive Phase where
  /-- it does not lack stock -/
  | content
  /-- it has found too little and has not written its request -/
  | asking
  /-- it has written a request -/
  | asked
  /-- it has given up for good -/
  | leaving
  deriving DecidableEq, Repr

/-- The owners, the queue of their requests and the clerk. -/
@[ext]
structure Desk (ι : Type) where
  phase : ι → Phase
  /-- what an owner wants to have -/
  need : ι → ℤ
  level : ι → ℤ
  queue : List ι
  /-- the request the clerk works on, and what it brings, once it has measured it -/
  order : Option (ι × Option ℤ)

namespace Desk

variable {ι : Type} [DecidableEq ι] {capacity : ℤ} {s s' : Desk ι}

/-- The owner has less than it needs. -/
def Short (s : Desk ι) (i : ι) : Prop := s.level i < s.need i

/-- There is a request of the owner. -/
def Requested (s : Desk ι) (i : ι) : Prop := i ∈ s.queue ∨ ∃ n, s.order = some (i, n)

/-- The moves of owners and clerk, with stores of the given capacity. -/
inductive Step (capacity : ℤ) (s : Desk ι) : Desk ι → Prop where
  /-- an owner that does not lack stock uses some or turns to something else -/
  | spend (i : ι) (n level : ℤ) (content : s.phase i = .content) :
      Step capacity s
        { s with
          need := Function.update s.need i n
          level := Function.update s.level i level }
  | miss (i : ι) (n : ℤ) (content : s.phase i = .content) (fits : n ≤ capacity)
      (lacks : s.level i < n) :
      Step capacity s
        { s with
          phase := Function.update s.phase i .asking
          need := Function.update s.need i n }
  | ask (i : ι) (asking : s.phase i = .asking) :
      Step capacity s
        { s with
          phase := Function.update s.phase i .asked
          queue := s.queue ++ [i] }
  | satisfied (i : ι) (asked : s.phase i = .asked) (enough : ¬s.Short i) :
      Step capacity s { s with phase := Function.update s.phase i .content }
  | giveUp (i : ι) (out : s.phase i ≠ .asking) :
      Step capacity s { s with phase := Function.update s.phase i .leaving }
  | take (i : ι) (rest : List ι) (queue : s.queue = i :: rest) (idle : s.order = none) :
      Step capacity s { s with queue := rest, order := some (i, none) }
  | measure (i : ι) (order : s.order = some (i, none)) :
      Step capacity s { s with order := some (i, some (capacity - s.level i)) }
  | refuse (i : ι) (order : s.order = some (i, none)) (full : capacity ≤ s.level i) :
      Step capacity s { s with order := none }
  | bring (i : ι) (n : ℤ) (order : s.order = some (i, some n)) :
      Step capacity s
        { s with
          level := Function.update s.level i (s.level i + n)
          order := none }

/-- The owner and its request fit together. -/
structure Sound (capacity : ℤ) (s : Desk ι) (i : ι) : Prop where
  fits : s.phase i = .asking ∨ s.phase i = .asked → s.need i ≤ capacity
  lacks : s.phase i = .asking → s.Short i
  heard : s.phase i = .asked → s.Short i → s.Requested i
  kept : s.Requested i → (s.phase i = .asked ∧ s.Short i) ∨ s.phase i = .leaving
  once : s.queue.count i ≤ 1 ∧ ∀ n, s.order = some (i, n) → i ∉ s.queue
  fills : ∀ n, s.order = some (i, some n) → n = capacity - s.level i

/-- An owner that does not lack stock or is still writing has no request. -/
lemma Sound.not_requested {i : ι} (h : s.Sound capacity i)
    (hi : s.phase i = .content ∨ s.phase i = .asking) : ¬s.Requested i := fun hreq => by
  rcases h.kept hreq with ⟨hp, _⟩ | hp <;> rcases hi with hi | hi <;> rw [hi] at hp <;> cases hp

/-- Only its owner makes a request. -/
lemma Step.not_requested {i : ι} (h : Step capacity s s') (hi : ¬s.Requested i)
    (hphase : s'.phase i = s.phase i) : ¬s'.Requested i := by
  cases h with
  | ask j asking =>
      have hne : i ≠ j := by
        rintro rfl
        simp [asking] at hphase
      grind [Requested]
  | _ => grind [Requested]

/-- A full store is enough for its owner. -/
lemma Sound.not_short_of_full {i : ι} (h : s.Sound capacity i) (hi : s.phase i = .asked)
    (hfull : capacity ≤ s.level i) : ¬s.Short i := fun hlt =>
  absurd (hlt.trans_le (h.fits (.inr hi))) (not_lt.mpr hfull)

/-- **Every move keeps the desk in order.** -/
theorem Step.sound {j : ι} (h : Step capacity s s') (hs : s.Sound capacity j) :
    s'.Sound capacity j := by
  cases h with
  | spend i n level content =>
      -- the owner has no request that its new level or need could contradict
      have hnone : j = i → ¬s.Requested j := fun hji => hs.not_requested (.inl (hji ▸ content))
      constructor <;> grind [Requested, Short, Sound]
  | miss i n content fits lacks =>
      have hnone : j = i → ¬s.Requested j := fun hji => hs.not_requested (.inl (hji ▸ content))
      constructor <;> grind [Requested, Short, Sound]
  | ask i asking =>
      -- the new request is the only one
      have hnone : j = i → ¬s.Requested j := fun hji => hs.not_requested (.inr (hji ▸ asking))
      constructor <;> grind [Requested, Short, Sound]
  | satisfied i asked enough =>
      -- an owner with a request is short, so there is none left
      have hnone : j = i → ¬s.Requested j := fun hji hreq => by
        subst hji
        rcases hs.kept hreq with ⟨_, hshort⟩ | hp
        · exact enough hshort
        · rw [asked] at hp; cases hp
      constructor <;> grind [Requested, Short, Sound]
  | giveUp i out => constructor <;> grind [Requested, Short, Sound]
  | take i rest queue idle => constructor <;> grind [Requested, Short, Sound]
  | measure i order => constructor <;> grind [Requested, Short, Sound]
  | refuse i order full =>
      have henough : j = i → s.phase j = .asked → ¬s.Short j := fun hji hq =>
        hs.not_short_of_full hq (hji ▸ full)
      constructor <;> grind [Requested, Short, Sound]
  | bring i n order =>
      -- what was measured fills the store, since its level has not changed
      have hfull : j = i → s.level j + n = capacity := fun hji => by
        subst hji
        rw [hs.fills n order]
        omega
      have honce : j = i → j ∉ s.queue := fun hji => hs.once.2 _ (hji ▸ order)
      constructor <;> grind [Requested, Short, Sound]

end Desk

end Stock
