import Orchestrator.LinkedList
import Orchestrator.Loops.While

/-!
# The search in a linked list

`list_find` of `linked_list.c` follows the pointers to the next node from the first node on until
there is none.  So it also comes past the sentinel at the tail, and compares its data.

* `TailKept` — no call writes to the tail sentinel but its pointer to the last node.
* `listFind_leaves` — the search ends, and what it returns.
* `list_find_first` — it is the first node with the data, except that a list without a null element
  is searched for the null pointer.
-/

namespace Orchestrator

open Linked Loops

variable {α : Type} {w w' : ListHeap α} {xs l r : List (ℕ × Option α)} {x : ℕ × Option α}

/-! ## The function -/

section Function

variable [DecidableEq α]

/-- The loop of `list_find`: its condition, its body and the step to the next node. -/
def listFindBody (data : Option α) (w : ListHeap α) (curr : NodePtr) :
    Option (NodePtr ⊕ NodePtr) :=
  if curr = .null then some (.inr .null)
  else do
    if (← w.data curr) = data then some (.inr curr)
    else some (.inl (← w.next curr))

/-- `list_find` returns this node. -/
def ListFind (data : Option α) (w : ListHeap α) : NodePtr → Prop :=
  Leaves (listFindBody data w) (listFirst w)

/-! ## What it is for -/

/-- The node of the first element with the data, or the null pointer. -/
def firstWith (data : Option α) (xs : List (ℕ × Option α)) : NodePtr :=
  ((xs.find? fun x => x.2 = data).map fun x => .cell x.1).getD .null

/-- `list_find` returns the node of the first element with the data or the null pointer, and never a
sentinel. -/
structure FindsFirst (data : Option α) (w : ListHeap α) (xs : List (ℕ × Option α)) : Prop where
  first : ListFind data w (firstWith data xs)
  no_sentinel : ∀ p, ListFind data w p → p ≠ .head ∧ p ≠ .tail

end Function

/-! ## The tail sentinel -/

/-- The tail sentinel has no data and no next node, as `list_init` leaves it. -/
def TailKept (w : ListHeap α) : Prop := w.list.tail.data = none ∧ w.list.tail.next = .null

namespace TailKept

/-- A write that is not to the tail's data or next pointer. -/
lemma write {p : NodePtr} {f : ListNode α → ListNode α} (h : TailKept w)
    (hw : w.write p f = some w') (hdata : ∀ node, (f node).data = node.data)
    (hnext : p = .tail → ∀ node, (f node).next = node.next) : TailKept w' := by
  cases p with
  | null => cases hw
  | head => cases hw; exact h
  | tail =>
      cases hw
      exact ⟨(hdata _).trans h.1, (hnext rfl _).trans h.2⟩
  | cell n =>
      obtain ⟨node, -, rfl⟩ := Option.map_eq_some_iff.mp hw
      exact h

lemma setNext {p q : NodePtr} (h : TailKept w) (hw : w.setNext p q = some w') (hp : p ≠ .tail) :
    TailKept w' :=
  h.write hw (fun _ => rfl) fun htail => absurd htail hp

lemma setPrev {p q : NodePtr} (h : TailKept w) (hw : w.setPrev p q = some w') : TailKept w' :=
  h.write hw (fun _ => rfl) fun _ _ => rfl

lemma free {p : NodePtr} (h : TailKept w) (hw : w.free p = some w') : TailKept w' := by
  cases p with
  | cell n =>
      obtain ⟨node, -, rfl⟩ := Option.map_eq_some_iff.mp hw
      exact h
  | _ => cases hw

end TailKept

lemma ne_tail_of_left {L : List NodePtr} {a : NodePtr}
    (hl : NodePtr.head :: nodes l = L ++ [a]) : a ≠ .tail := by
  rintro rfl
  have hmem : NodePtr.tail ∈ NodePtr.head :: nodes l := by
    rw [hl]
    exact List.mem_append_right L (List.mem_singleton_self _)
  simp [nodes] at hmem

namespace Represents

/-- Before an element there is not the tail. -/
lemma prev_ne_tail (h : Represents w (l ++ x :: r)) {p : NodePtr}
    (hp : w.prev (.cell x.1) = some p) : p ≠ .tail := by
  obtain ⟨a, b, haround⟩ := h.exists_around
  obtain ⟨L, hl⟩ := haround.left
  obtain rfl := Option.some.inj (haround.prev_node.symm.trans hp)
  exact ne_tail_of_left hl

/-- Nor before the end. -/
lemma last_ne_tail (h : Represents w xs) : w.list.tail.prev ≠ .tail := by
  obtain ⟨L, a, b, R, hl, hr⟩ := Orchestrator.exists_around xs []
  rw [← List.append_nil xs] at h
  obtain ⟨-, hprev⟩ := h.around hl hr
  cases hr
  obtain rfl := Option.some.inj hprev
  exact ne_tail_of_left hl

end Represents

namespace TailKept

lemma append {malloc : Option ℕ} {obj : Option α} {ok : Bool} (h : TailKept w)
    (hrep : Represents w xs) (hcall : listAppend malloc obj w = some (w', ok)) : TailKept w' := by
  cases malloc with
  | none => cases hcall; exact h
  | some n =>
      simp only [listAppend, Option.bind_eq_bind, Option.bind_eq_some_iff, Option.some.injEq,
        Prod.mk.injEq] at hcall
      obtain ⟨w₁, hw₁, w₂, hw₂, rfl, -⟩ := hcall
      have halloc : TailKept (w.alloc n ⟨obj, .tail, w.list.tail.prev⟩) := h
      have hset : TailKept w₂ := (halloc.setNext hw₁ hrep.last_ne_tail).setPrev hw₂
      exact hset

lemma appendLeft {malloc : Option ℕ} {obj : Option α} {ok : Bool} (h : TailKept w)
    (hcall : listAppendLeft malloc obj w = some (w', ok)) : TailKept w' := by
  cases malloc with
  | none => cases hcall; exact h
  | some n =>
      simp only [listAppendLeft, Option.bind_eq_bind, Option.bind_eq_some_iff, Option.some.injEq,
        Prod.mk.injEq] at hcall
      obtain ⟨w₁, hw₁, w₂, hw₂, rfl, -⟩ := hcall
      have halloc : TailKept (w.alloc n ⟨obj, w.list.head.next, .head⟩) := h
      have hset : TailKept w₂ := (halloc.setPrev hw₁).setNext hw₂ (by simp)
      exact hset

lemma pop {p : NodePtr} (h : TailKept w) (hrep : Represents w xs)
    (hcall : listPop w = some (w', p)) : TailKept w' := by
  rw [listPop] at hcall
  split at hcall
  · cases hcall; exact h
  · next hne =>
      obtain ⟨l, x, rfl⟩ : ∃ l x, xs = l ++ [x] := by
        rcases List.eq_nil_or_concat xs with rfl | ⟨l, x, rfl⟩
        · exact absurd ((listIsEmpty_iff hrep).mpr rfl) hne
        · exact ⟨l, x, List.concat_eq_append⟩
      have hlast : w.list.tail.prev = .cell x.1 := by
        obtain ⟨a, b, haround⟩ := hrep.exists_around
        obtain ⟨R, hr⟩ := haround.right
        obtain ⟨rfl, -⟩ := List.cons.inj hr
        simpa using haround.prev_right
      simp only [hlast, Option.bind_eq_bind, Option.bind_eq_some_iff, Option.some.injEq,
        Prod.mk.injEq] at hcall
      obtain ⟨lastPrev, hlastPrev, w₁, hw₁, lastPrev', -, w₂, hw₂, rfl, -⟩ := hcall
      have hset : TailKept w₂ := (h.setNext hw₁ (hrep.prev_ne_tail hlastPrev)).setPrev hw₂
      exact hset

lemma popLeft {p : NodePtr} (h : TailKept w) (hcall : listPopLeft w = some (w', p)) :
    TailKept w' := by
  rw [listPopLeft] at hcall
  split at hcall
  · cases hcall; exact h
  · simp only [Option.bind_eq_bind, Option.bind_eq_some_iff, Option.some.injEq,
      Prod.mk.injEq] at hcall
    obtain ⟨firstNext, -, w₁, hw₁, firstNext', -, w₂, hw₂, rfl, -⟩ := hcall
    have hset : TailKept w₂ := (h.setPrev hw₁).setNext hw₂ (by simp)
    exact hset

lemma remove {p : NodePtr} (h : TailKept w) (hrep : Represents w xs) (hp : p ∈ nodes xs)
    (hcall : listRemove p w = some w') : TailKept w' := by
  obtain ⟨x, hx, rfl⟩ := List.mem_map.mp hp
  obtain ⟨l, r, rfl⟩ := List.append_of_mem hx
  rw [listRemove] at hcall
  split at hcall
  · cases hcall; exact h
  · simp only [Option.bind_eq_bind, Option.bind_eq_some_iff] at hcall
    obtain ⟨prev, hprev, next, -, w₁, hw₁, next', -, prev', -, w₂, hw₂, hfree⟩ := hcall
    have hset := (h.setNext hw₁ (hrep.prev_ne_tail hprev)).setPrev hw₂
    have hcount : TailKept (w₂.setCount (w₂.list.membersCount - 1)) := hset
    exact hcount.free hfree

lemma clearStep (h : TailKept w) (hcall : listClearStep w = some w') : TailKept w' := by
  simp only [listClearStep, Option.bind_eq_bind, Option.bind_eq_some_iff] at hcall
  obtain ⟨⟨w₁, node⟩, hpop, hfree⟩ := hcall
  exact (h.popLeft hpop).free hfree

lemma clear (h : TailKept w) (hcall : listClear w = some w') : TailKept w' := by
  fun_induction listClear w with
  | case1 w hempty => cases hcall; exact h
  | case2 w hne hnone => cases hcall
  | case3 w hne w₁ hstep ih => exact ih (h.clearStep hstep) hcall

/-- **No call writes to the tail sentinel** but its pointer to the last node. -/
theorem call {ret : ListReturn} (h : TailKept w) (hrep : Represents w xs) (call : ListCall α)
    (hallowed : call.Allowed w xs) (hexec : call.exec w = some (w', ret)) : TailKept w' := by
  cases call with
  | init => cases hexec; exact ⟨rfl, rfl⟩
  | append malloc obj =>
      obtain ⟨⟨w₁, ok⟩, hcall, heq⟩ := Option.map_eq_some_iff.mp hexec
      cases heq
      exact h.append hrep hcall
  | appendLeft malloc obj =>
      obtain ⟨⟨w₁, ok⟩, hcall, heq⟩ := Option.map_eq_some_iff.mp hexec
      cases heq
      exact h.appendLeft hcall
  | pop =>
      obtain ⟨⟨w₁, p⟩, hcall, heq⟩ := Option.map_eq_some_iff.mp hexec
      cases heq
      exact h.pop hrep hcall
  | popLeft =>
      obtain ⟨⟨w₁, p⟩, hcall, heq⟩ := Option.map_eq_some_iff.mp hexec
      cases heq
      exact h.popLeft hcall
  | remove node =>
      obtain ⟨w₁, hcall, heq⟩ := Option.map_eq_some_iff.mp hexec
      cases heq
      exact h.remove hrep hallowed hcall
  | clear =>
      obtain ⟨w₁, hcall, heq⟩ := Option.map_eq_some_iff.mp hexec
      cases heq
      exact h.clear hcall

end TailKept

lemma Listed.tailKept (h : Listed w xs) : TailKept w := by
  induction h with
  | init w => exact ⟨rfl, rfl⟩
  | call call h hallowed hexec ih => exact ih.call h.represents call hallowed hexec
  | other h hlist _ ih => rwa [TailKept, hlist]

/-! ## The search -/

section Search

variable [DecidableEq α] {data : Option α} {p : NodePtr}

/-- What the loop finds from the first of the nodes `xs` on: the tail has the null pointer. -/
def foundFrom (data : Option α) (xs : List (ℕ × Option α)) : NodePtr :=
  ((xs.find? fun x => x.2 = data).map fun x => .cell x.1).getD
    (if data = none then .tail else .null)

lemma listFindBody_null : listFindBody data w .null = some (.inr .null) := rfl

lemma listFindBody_found (hp : p ≠ .null) (hdata : w.data p = some data) :
    listFindBody data w p = some (.inr p) := by
  simp [listFindBody, hp, hdata]

lemma listFindBody_next {q : NodePtr} {obj : Option α} (hp : p ≠ .null)
    (hdata : w.data p = some obj) (hne : obj ≠ data) (hnext : w.next p = some q) :
    listFindBody data w p = some (.inl q) := by
  simp [listFindBody, hp, hdata, hne, hnext]

/-- At the tail the loop returns it or goes on to the end. -/
lemma TailKept.leaves (h : TailKept w) :
    Leaves (listFindBody data w) .tail (foundFrom data []) := by
  have hdata : w.data .tail = some none := congrArg some h.1
  have hnext : w.next .tail = some .null := congrArg some h.2
  by_cases hnone : data = none
  · subst hnone
    exact .leave (listFindBody_found nofun hdata)
  · have hfound : foundFrom data [] = .null := by simp [foundFrom, hnone]
    rw [hfound]
    exact .round (listFindBody_next nofun hdata (Ne.symm hnone) hnext) (.leave listFindBody_null)

/-- The loop from a place of the list on, by induction on the elements after it. -/
lemma Represents.leaves (h : Represents w (l ++ r)) (htail : TailKept w) {b : NodePtr}
    {R : List NodePtr} (hr : nodes r ++ [.tail] = b :: R) :
    Leaves (listFindBody data w) b (foundFrom data r) := by
  induction r generalizing l b R with
  | nil =>
      obtain ⟨rfl, -⟩ := List.cons.inj hr
      exact htail.leaves
  | cons x r ih =>
      obtain ⟨rfl, -⟩ := List.cons.inj hr
      have hdata : w.data (.cell x.1) = some x.2 := h.data x (by simp)
      by_cases hx : x.2 = data
      · have hfound : foundFrom data (x :: r) = .cell x.1 := by simp [foundFrom, hx]
        rw [hfound]
        exact .leave (listFindBody_found nofun (hx ▸ hdata))
      · obtain ⟨a, b, haround⟩ := h.exists_around
        obtain ⟨R, hr⟩ := haround.right
        have hfound : foundFrom data (x :: r) = foundFrom data r := by simp [foundFrom, hx]
        have hrest : Represents w ((l ++ [x]) ++ r) := by simpa using h
        rw [hfound]
        exact .round (listFindBody_next nofun hdata hx haround.next_node) (ih hrest hr)

/-- **The search ends**, with what the loop finds from the first node on. -/
theorem listFind_leaves (h : Represents w xs) (htail : TailKept w) :
    ListFind data w (if xs = [] then .null else foundFrom data xs) := by
  rw [ListFind, listFirst_eq h]
  cases xs with
  | nil => exact .leave listFindBody_null
  | cons x xs => exact Represents.leaves (l := []) h htail rfl

lemma firstWith_ne_sentinel {xs : List (ℕ × Option α)} :
    firstWith data xs ≠ .head ∧ firstWith data xs ≠ .tail := by
  rw [firstWith]
  cases xs.find? fun x => x.2 = data with
  | none => exact ⟨nofun, nofun⟩
  | some x => exact ⟨nofun, nofun⟩

/-- The loop finds what the search is for unless it comes to the tail for the null pointer. -/
lemma foundFrom_eq_firstWith_iff :
    foundFrom data xs = firstWith data xs ↔ data ≠ none ∨ ∃ x ∈ xs, x.2 = none := by
  cases hfind : xs.find? fun x => x.2 = data with
  | none =>
      have hnone : ∀ x ∈ xs, ¬x.2 = data := by simpa using hfind
      by_cases hdata : data = none
      · subst hdata
        have hne : foundFrom none xs ≠ firstWith none xs := by simp [foundFrom, firstWith, hfind]
        have hnot : ¬∃ x ∈ xs, x.2 = none := fun ⟨x, hx, hdata⟩ => hnone x hx hdata
        exact iff_of_false hne (not_or.mpr ⟨fun h => h rfl, hnot⟩)
      · simp [foundFrom, firstWith, hfind, hdata]
  | some x =>
      have hx : x.2 = data := by simpa using List.find?_some hfind
      have hmem : x ∈ xs := List.mem_of_find?_eq_some hfind
      simp only [foundFrom, firstWith, hfind, Option.map_some, Option.getD_some, true_iff]
      by_cases hdata : data = none
      · exact .inr ⟨x, hmem, hx.trans hdata⟩
      · exact .inl hdata

/-- **`list_find` finds the first node with the data**, in every list that calls lead to and for
every data, except that it returns the tail sentinel where a list that is not empty has no null
element and is searched for the null pointer. -/
theorem list_find_first (h : Listed w xs) (data : Option α) :
    FindsFirst data w xs ↔ data ≠ none ∨ xs = [] ∨ ∃ x ∈ xs, x.2 = none := by
  have hleaves : ListFind data w _ := listFind_leaves h.represents h.tailKept
  by_cases hempty : xs = []
  · rw [if_pos hempty] at hleaves
    have hfirst : firstWith data xs = .null := by rw [hempty]; rfl
    refine iff_of_true ⟨hfirst ▸ hleaves, fun p hp => ?_⟩ (.inr (.inl hempty))
    rw [hp.unique hleaves]
    exact ⟨nofun, nofun⟩
  · rw [if_neg hempty] at hleaves
    have hiff : FindsFirst data w xs ↔ foundFrom data xs = firstWith data xs := by
      refine ⟨fun hfinds => hleaves.unique hfinds.first, fun heq => ?_⟩
      rw [heq] at hleaves
      refine ⟨hleaves, fun p hp => ?_⟩
      rw [hp.unique hleaves]
      exact firstWith_ne_sentinel
    rw [hiff, foundFrom_eq_firstWith_iff]
    simp [hempty]

end Search

/-- In the list of three jobs, two of which are equal, the first of the two is found, and another
job is not. -/
theorem list_find_first_several :
    ∃ w, Listed w [(3, some 'a'), (5, some 'b'), (11, some 'b')] ∧
      FindsFirst (some 'b') w [(3, some 'a'), (5, some 'b'), (11, some 'b')] ∧
      ListFind (some 'b') w (.cell 5) ∧
      FindsFirst (some 'k') w [(3, some 'a'), (5, some 'b'), (11, some 'b')] := by
  obtain ⟨w, hlisted⟩ := exists_listed_several
  have hfirst := (list_find_first hlisted (some 'b')).mpr (.inl nofun)
  exact ⟨w, hlisted, hfirst, hfirst.first, (list_find_first hlisted (some 'k')).mpr (.inl nofun)⟩

/-- The list of one job, searched for the null pointer: the tail sentinel is returned. -/
theorem list_find_returns_sentinel :
    ∃ w, Listed w [(5, some 'j')] ∧ ListFind none w .tail ∧
      ¬FindsFirst none w [(5, some 'j')] := by
  obtain ⟨w, hlisted⟩ : ∃ w, Listed w [(5, some 'j')] :=
    exists_listed [.append (some 5) (some 'j')] rfl
  have htail : ListFind none w .tail := listFind_leaves hlisted.represents hlisted.tailKept
  exact ⟨w, hlisted, htail, fun hfinds => (hfinds.no_sentinel .tail htail).2 rfl⟩

end Orchestrator
