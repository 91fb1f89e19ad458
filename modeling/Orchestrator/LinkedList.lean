import Orchestrator.Linked.Spine

/-!
# The linked list

`linked_list.c`: a doubly linked list with its two sentinels inside the list record.  Reading or
writing through a pointer that points to no node, and freeing one, are failures (`none`).

* `listAppend`, `listAppendLeft`, `listPop`, `listPopLeft`, `listRemove`, `listClear`, `listInit`,
  `listFirst`, `listNext`, `listLast`, `listPrev` — the functions of the source.
* `Represents` — the representation invariant.
* `Represents.call` — every call keeps it and does on the elements what it says.
* `list_refines_sequence` — in every run of calls the list is the plain sequence.
-/

namespace Orchestrator

open Linked

/-! ## The heap -/

/-- What a pointer to a node points to: nothing, a sentinel of the list or a cell of the heap. -/
inductive NodePtr
  | null
  | head
  | tail
  | cell (addr : ℕ)
  deriving DecidableEq

/-- `list_node_t`; `data` is `none` for the null pointer. -/
structure ListNode (α : Type) where
  data : Option α
  next : NodePtr
  prev : NodePtr

/-- `linked_list_t`.  The `int` `members_count` is taken not to overflow. -/
structure LinkedList (α : Type) where
  membersCount : ℕ
  head : ListNode α
  tail : ListNode α

/-- The list record and the allocated cells of the heap. -/
structure ListHeap (α : Type) where
  list : LinkedList α
  cells : ℕ → Option (ListNode α)

namespace ListHeap

variable {α : Type} (w : ListHeap α)

/-- The node behind a pointer. -/
def node : NodePtr → Option (ListNode α)
  | .null => none
  | .head => some w.list.head
  | .tail => some w.list.tail
  | .cell n => w.cells n

/-- `p->next`. -/
def next (p : NodePtr) : Option NodePtr := (w.node p).map ListNode.next

/-- `p->prev`. -/
def prev (p : NodePtr) : Option NodePtr := (w.node p).map ListNode.prev

/-- `p->data`. -/
def data (p : NodePtr) : Option (Option α) := (w.node p).map ListNode.data

/-- A node is changed in place. -/
def write (p : NodePtr) (f : ListNode α → ListNode α) : Option (ListHeap α) :=
  match p with
  | .null => none
  | .head => some { w with list := { w.list with head := f w.list.head } }
  | .tail => some { w with list := { w.list with tail := f w.list.tail } }
  | .cell n => (w.cells n).map fun node =>
      { w with cells := Function.update w.cells n (some (f node)) }

/-- `p->next = q`. -/
def setNext (p q : NodePtr) : Option (ListHeap α) := w.write p fun node => { node with next := q }

/-- `p->prev = q`. -/
def setPrev (p q : NodePtr) : Option (ListHeap α) := w.write p fun node => { node with prev := q }

/-- A new cell with its three fields set. -/
def alloc (n : ℕ) (node : ListNode α) : ListHeap α :=
  { w with cells := Function.update w.cells n (some node) }

/-- `free(p)`. -/
def free : NodePtr → Option (ListHeap α)
  | .cell n => (w.cells n).map fun _ => { w with cells := Function.update w.cells n none }
  | _ => none

/-- `list->members_count = n`. -/
def setCount (n : ℕ) : ListHeap α := { w with list := { w.list with membersCount := n } }

end ListHeap

/-! ## The functions -/

variable {α : Type}

/-- `list_is_empty`. -/
def listIsEmpty (w : ListHeap α) : Bool := w.list.membersCount == 0

/-- `list_append`; `malloc` is the address of the new node, if there is memory. -/
def listAppend (malloc : Option ℕ) (obj : Option α) (w : ListHeap α) :
    Option (ListHeap α × Bool) :=
  match malloc with
  | none => some (w, false)
  | some newNode => do
      let w := w.alloc newNode ⟨obj, .tail, w.list.tail.prev⟩
      let w ← w.setNext w.list.tail.prev (.cell newNode)
      let w ← w.setPrev .tail (.cell newNode)
      some (w.setCount (w.list.membersCount + 1), true)

/-- `list_append_left`. -/
def listAppendLeft (malloc : Option ℕ) (obj : Option α) (w : ListHeap α) :
    Option (ListHeap α × Bool) :=
  match malloc with
  | none => some (w, false)
  | some newNode => do
      let w := w.alloc newNode ⟨obj, w.list.head.next, .head⟩
      let w ← w.setPrev w.list.head.next (.cell newNode)
      let w ← w.setNext .head (.cell newNode)
      some (w.setCount (w.list.membersCount + 1), true)

/-- `list_pop`. -/
def listPop (w : ListHeap α) : Option (ListHeap α × NodePtr) :=
  if listIsEmpty w then some (w, .null)
  else do
    let last := w.list.tail.prev
    let lastPrev ← w.prev last
    let w ← w.setNext lastPrev .tail
    let lastPrev ← w.prev last
    let w ← w.setPrev .tail lastPrev
    some (w.setCount (w.list.membersCount - 1), last)

/-- `list_pop_left`. -/
def listPopLeft (w : ListHeap α) : Option (ListHeap α × NodePtr) :=
  if listIsEmpty w then some (w, .null)
  else do
    let first := w.list.head.next
    let firstNext ← w.next first
    let w ← w.setPrev firstNext .head
    let firstNext ← w.next first
    let w ← w.setNext .head firstNext
    some (w.setCount (w.list.membersCount - 1), first)

/-- `list_remove`. -/
def listRemove (node : NodePtr) (w : ListHeap α) : Option (ListHeap α) :=
  if node = .null ∨ listIsEmpty w then some w
  else do
    let w ← w.setNext (← w.prev node) (← w.next node)
    let w ← w.setPrev (← w.next node) (← w.prev node)
    (w.setCount (w.list.membersCount - 1)).free node

/-- The body of the loop of `list_clear`. -/
def listClearStep (w : ListHeap α) : Option (ListHeap α) := do
  let (w, node) ← listPopLeft w
  w.free node

/-- `list_init`. -/
def listInit (w : ListHeap α) : ListHeap α :=
  { w with
    list :=
      { membersCount := 0
        head := ⟨none, .tail, .null⟩
        tail := ⟨none, .null, .head⟩ } }

/-- `list_first`. -/
def listFirst (w : ListHeap α) : NodePtr :=
  if listIsEmpty w then .null else w.list.head.next

/-- `list_last`. -/
def listLast (w : ListHeap α) : NodePtr :=
  if listIsEmpty w then .null else w.list.tail.prev

/-- `list_next`. -/
def listNext (w : ListHeap α) (node : NodePtr) : Option NodePtr :=
  if node = .null then some .null
  else do
    let next ← w.next node
    if next = .null ∨ next = .tail then some .null else some next

/-- `list_prev`. -/
def listPrev (w : ListHeap α) (node : NodePtr) : Option NodePtr :=
  if node = .null then some .null
  else do
    let prev ← w.prev node
    if prev = .null ∨ prev = .head then some .null else some prev

/-! ## What the writes do -/

namespace ListHeap

variable {w w' : ListHeap α} {p q : NodePtr}

@[simp] lemma next_head (w : ListHeap α) : w.next .head = some w.list.head.next := rfl

@[simp] lemma prev_tail (w : ListHeap α) : w.prev .tail = some w.list.tail.prev := rfl

@[simp] lemma setCount_next (n : ℕ) : (w.setCount n).next = w.next := by
  funext p
  cases p <;> rfl

@[simp] lemma setCount_prev (n : ℕ) : (w.setCount n).prev = w.prev := by
  funext p
  cases p <;> rfl

@[simp] lemma setCount_data (n : ℕ) : (w.setCount n).data = w.data := by
  funext p
  cases p <;> rfl

/-- A new cell. -/
lemma alloc_node (n : ℕ) (node : ListNode α) :
    (w.alloc n node).node = Function.update w.node (.cell n) (some node) := by
  funext q
  cases q with
  | cell m =>
      by_cases hm : m = n
      · subst hm
        simp [ListHeap.node, alloc]
      · simp [ListHeap.node, alloc, hm]
  | _ => rfl

/-- A write through a pointer to a node changes that node only. -/
lemma write_node {f : ListNode α → ListNode α} {node : ListNode α} (h : w.node p = some node) :
    ∃ w', w.write p f = some w' ∧ w'.node = Function.update w.node p (some (f node)) ∧
      w'.list.membersCount = w.list.membersCount := by
  cases p with
  | null => cases h
  | head =>
      cases h
      refine ⟨_, rfl, ?_, rfl⟩
      funext q
      cases q <;> rfl
  | tail =>
      cases h
      refine ⟨_, rfl, ?_, rfl⟩
      funext q
      cases q <;> rfl
  | cell n =>
      rw [ListHeap.node] at h
      refine ⟨w.alloc n (f node), ?_, alloc_node n (f node), rfl⟩
      rw [write, h, Option.map_some]
      rfl

section Fields

variable {β : Type} (field : ListNode α → β) {node node' : ListNode α}

/-- A change of one node, seen through a field of the nodes. -/
lemma field_update (h : w'.node = Function.update w.node p (some node)) :
    (fun q => (w'.node q).map field) =
      Function.update (fun q => (w.node q).map field) p (some (field node)) := by
  funext q
  by_cases hq : q = p
  · simp [h, hq]
  · simp [h, hq]

/-- A field that the change leaves alone. -/
lemma field_same (hnode : w.node p = some node)
    (h : w'.node = Function.update w.node p (some node')) (hfield : field node' = field node) :
    (fun q => (w'.node q).map field) = fun q => (w.node q).map field := by
  have hold : (w.node p).map field = some (field node) := by rw [hnode, Option.map_some]
  rw [field_update field h, hfield, ← hold, Function.update_eq_self]

end Fields

/-- `p->next = q` through a pointer to a node. -/
lemma setNext_spec {r : NodePtr} (h : w.next p = some r) (q : NodePtr) :
    ∃ w', w.setNext p q = some w' ∧ w'.next = Function.update w.next p (some q) ∧
      w'.prev = w.prev ∧ w'.data = w.data ∧ w'.list.membersCount = w.list.membersCount := by
  obtain ⟨node, hnode, -⟩ := Option.map_eq_some_iff.mp h
  obtain ⟨w', hw', hnodes, hcount⟩ :=
    write_node (f := fun node => { node with next := q }) hnode
  exact ⟨w', hw', field_update ListNode.next hnodes, field_same ListNode.prev hnode hnodes rfl,
    field_same ListNode.data hnode hnodes rfl, hcount⟩

/-- `p->prev = q` through a pointer to a node. -/
lemma setPrev_spec {r : NodePtr} (h : w.prev p = some r) (q : NodePtr) :
    ∃ w', w.setPrev p q = some w' ∧ w'.prev = Function.update w.prev p (some q) ∧
      w'.next = w.next ∧ w'.data = w.data ∧ w'.list.membersCount = w.list.membersCount := by
  obtain ⟨node, hnode, -⟩ := Option.map_eq_some_iff.mp h
  obtain ⟨w', hw', hnodes, hcount⟩ :=
    write_node (f := fun node => { node with prev := q }) hnode
  exact ⟨w', hw', field_update ListNode.prev hnodes, field_same ListNode.next hnode hnodes rfl,
    field_same ListNode.data hnode hnodes rfl, hcount⟩

@[simp] lemma alloc_next (n : ℕ) (node : ListNode α) :
    (w.alloc n node).next = Function.update w.next (.cell n) (some node.next) :=
  field_update ListNode.next (alloc_node n node)

@[simp] lemma alloc_prev (n : ℕ) (node : ListNode α) :
    (w.alloc n node).prev = Function.update w.prev (.cell n) (some node.prev) :=
  field_update ListNode.prev (alloc_node n node)

@[simp] lemma alloc_data (n : ℕ) (node : ListNode α) :
    (w.alloc n node).data = Function.update w.data (.cell n) (some node.data) :=
  field_update ListNode.data (alloc_node n node)

@[simp] lemma alloc_list (n : ℕ) (node : ListNode α) : (w.alloc n node).list = w.list := rfl

/-- A cell with data is allocated. -/
lemma cells_ne_none {n : ℕ} {obj : Option α} (h : w.data (.cell n) = some obj) :
    w.cells n ≠ none := by
  intro hnone
  simp [data, node, hnone] at h

/-- Two heaps with the same list record and the same cell behind `p`. -/
lemma node_congr (hlist : w'.list = w.list) (hcell : ∀ n, p = .cell n → w'.cells n = w.cells n) :
    w'.node p = w.node p := by
  cases p with
  | cell n => exact hcell n rfl
  | _ => simp [ListHeap.node, hlist]

end ListHeap

/-! ## The representation -/

/-- The nodes that hold the elements `xs`: each element comes with the address of its node. -/
def nodes (xs : List (ℕ × Option α)) : List NodePtr := xs.map fun x => .cell x.1

/-- **The heap holds the list of the elements `xs`.**  From sentinel to sentinel, the nodes of the
elements are linked in both directions. -/
structure Represents (w : ListHeap α) (xs : List (ℕ × Option α)) : Prop where
  spine : Spine w.next w.prev (.head :: (nodes xs ++ [.tail]))
  data : ∀ x ∈ xs, w.data (.cell x.1) = some x.2
  count : w.list.membersCount = xs.length

variable {w w' : ListHeap α} {xs l r : List (ℕ × Option α)} {x : ℕ × Option α}

@[simp] lemma nodes_append : nodes (l ++ r) = nodes l ++ nodes r := List.map_append

@[simp] lemma nodes_cons : nodes (x :: xs) = .cell x.1 :: nodes xs := rfl

/-- The list record of an empty list. -/
lemma represents_listInit (w : ListHeap α) : Represents (listInit w) [] where
  spine := ⟨by simp [nodes], by simp [nodes, Neighbours, ListHeap.next, ListHeap.prev,
    ListHeap.node, listInit]⟩
  data := by simp
  count := rfl

/-- The node of an element is allocated. -/
lemma Represents.cell_ne_none (h : Represents w xs) (hx : x ∈ xs) : w.cells x.1 ≠ none :=
  ListHeap.cells_ne_none (h.data x hx)

/-- Memory outside the nodes of the list does not matter. -/
lemma Represents.frame (h : Represents w xs) (hlist : w'.list = w.list)
    (hcells : ∀ x ∈ xs, w'.cells x.1 = w.cells x.1) : Represents w' xs := by
  have hnode : ∀ p ∈ NodePtr.head :: (nodes xs ++ [.tail]), w'.node p = w.node p := by
    intro p hp
    refine ListHeap.node_congr hlist fun n hn => ?_
    subst hn
    obtain ⟨x, hx, rfl⟩ : ∃ x ∈ xs, x.1 = n := by simpa [nodes] using hp
    exact hcells x hx
  refine ⟨h.spine.congr (fun p hp => ?_) (fun p hp => ?_), fun x hx => ?_, hlist ▸ h.count⟩
  · rw [ListHeap.next, hnode p (List.dropLast_subset _ hp), ListHeap.next]
  · rw [ListHeap.prev, hnode p (List.mem_of_mem_tail hp), ListHeap.prev]
  · have hp : NodePtr.cell x.1 ∈ NodePtr.head :: (nodes xs ++ [.tail]) := by
      simp only [nodes, List.mem_cons, List.mem_append, List.mem_map]
      exact .inr (.inl ⟨x, hx, rfl⟩)
    rw [← h.data x hx, ListHeap.data, hnode _ hp, ListHeap.data]

/-- The nodes around a place of the list: the last one up to it and the first one after it. -/
lemma exists_around (l r : List (ℕ × Option α)) :
    ∃ L a b R, NodePtr.head :: nodes l = L ++ [a] ∧ nodes r ++ [NodePtr.tail] = b :: R := by
  obtain ⟨L, a, hl⟩ := (List.eq_nil_or_concat (NodePtr.head :: nodes l)).resolve_left (by simp)
  obtain ⟨b, R, hr⟩ := List.exists_cons_of_ne_nil
    (show nodes r ++ [NodePtr.tail] ≠ [] by simp)
  exact ⟨L, a, b, R, by simpa using hl, hr⟩

variable {L R : List NodePtr} {a b : NodePtr} {n : ℕ} {obj : Option α}

/-- The spine, seen from one place of the list. -/
lemma spine_around (hl : .head :: nodes l = L ++ [a]) (hr : nodes r ++ [.tail] = b :: R) :
    NodePtr.head :: (nodes (l ++ r) ++ [.tail]) = L ++ a :: b :: R := by
  rw [nodes_append, List.append_assoc, hr, ← List.cons_append, hl]
  simp

/-- The spine, seen from one of its elements. -/
lemma spine_at (hl : .head :: nodes l = L ++ [a]) (hr : nodes r ++ [.tail] = b :: R) :
    NodePtr.head :: (nodes (l ++ x :: r) ++ [.tail]) = L ++ a :: .cell x.1 :: b :: R := by
  rw [nodes_append, nodes_cons, List.append_assoc, List.cons_append, hr, ← List.cons_append, hl]
  simp

/-- A cell that is not allocated is in no spine. -/
lemma Represents.fresh_notMem (h : Represents w xs) (hfresh : w.cells n = none) :
    NodePtr.cell n ∉ NodePtr.head :: (nodes xs ++ [.tail]) := by
  intro hmem
  obtain ⟨x, hx, rfl⟩ : ∃ x ∈ xs, x.1 = n := by simpa [nodes] using hmem
  exact h.cell_ne_none hx hfresh

/-- **A new node between two neighbours** makes its element one of the list. -/
theorem Represents.inserted (h : Represents w (l ++ r)) (hl : .head :: nodes l = L ++ [a])
    (hr : nodes r ++ [.tail] = b :: R) (hfresh : w.cells x.1 = none)
    (hnext : w'.next = Function.update (Function.update w.next (.cell x.1) (some b)) a
      (some (.cell x.1)))
    (hprev : w'.prev = Function.update (Function.update w.prev (.cell x.1) (some a)) b
      (some (.cell x.1)))
    (hdata : w'.data = Function.update w.data (.cell x.1) (some x.2))
    (hcount : w'.list.membersCount = w.list.membersCount) :
    Represents (w'.setCount (w'.list.membersCount + 1)) (l ++ x :: r) := by
  have hspine := h.spine
  have hnew := h.fresh_notMem hfresh
  rw [spine_around hl hr] at hspine hnew
  refine ⟨?_, fun y hy => ?_, ?_⟩
  · rw [spine_at hl hr, ListHeap.setCount_next, ListHeap.setCount_prev, hnext, hprev]
    exact hspine.insert hnew
  · rw [ListHeap.setCount_data, hdata]
    have hmem : y = x ∨ y ∈ l ++ r := by
      simp only [List.mem_append, List.mem_cons] at hy ⊢
      tauto
    rcases hmem with rfl | hmem
    · rw [Function.update_self]
    · have hne : NodePtr.cell y.1 ≠ .cell x.1 := by
        intro heq
        rw [NodePtr.cell.injEq] at heq
        exact h.cell_ne_none hmem (heq ▸ hfresh)
      rw [Function.update_of_ne hne, h.data y hmem]
  · show w'.list.membersCount + 1 = _
    rw [hcount, h.count]
    simp only [List.length_append, List.length_cons]
    omega

/-- **An element is taken out** by pointing its neighbours at each other. -/
theorem Represents.unlinked (h : Represents w (l ++ x :: r)) (hl : .head :: nodes l = L ++ [a])
    (hr : nodes r ++ [.tail] = b :: R) (hnext : w'.next = Function.update w.next a (some b))
    (hprev : w'.prev = Function.update w.prev b (some a)) (hdata : w'.data = w.data)
    (hcount : w'.list.membersCount = w.list.membersCount) :
    Represents (w'.setCount (w'.list.membersCount - 1)) (l ++ r) := by
  have hspine := h.spine
  rw [spine_at hl hr] at hspine
  refine ⟨?_, fun y hy => ?_, ?_⟩
  · rw [spine_around hl hr, ListHeap.setCount_next, ListHeap.setCount_prev, hnext, hprev]
    exact hspine.unlink
  · have hmem : y ∈ l ++ x :: r := by
      simp only [List.mem_append, List.mem_cons] at hy ⊢
      tauto
    rw [ListHeap.setCount_data, hdata, h.data y hmem]
  · show w'.list.membersCount - 1 = _
    rw [hcount, h.count]
    simp only [List.length_append, List.length_cons]
    omega

/-! ## What the functions do -/

/-- The first and the last link of a spine. -/
lemma Represents.around (h : Represents w (l ++ r)) (hl : .head :: nodes l = L ++ [a])
    (hr : nodes r ++ [.tail] = b :: R) : w.next a = some b ∧ w.prev b = some a := by
  have hspine := h.spine
  rw [spine_around hl hr] at hspine
  exact hspine.neighbours

lemma listIsEmpty_iff (h : Represents w xs) : listIsEmpty w = true ↔ xs = [] := by
  rw [listIsEmpty, beq_iff_eq, h.count, List.length_eq_zero_iff]

/-- `list_append` with memory for the node. -/
lemma listAppend_spec (h : Represents w xs) (hfresh : w.cells n = none) (obj : Option α) :
    ∃ w', listAppend (some n) obj w = some (w', true) ∧ Represents w' (xs ++ [(n, obj)]) := by
  obtain ⟨L, a, b, R, hl, hr⟩ := exists_around xs []
  have hxs : Represents w (xs ++ []) := by rwa [List.append_nil]
  have hnew := hxs.fresh_notMem hfresh
  obtain ⟨hnext, hprev⟩ := hxs.around hl hr
  rw [spine_around hl hr] at hnew
  cases hr
  have hlast : w.list.tail.prev = a := by simpa using hprev
  have ha : a ≠ .cell n := fun heq => hnew (by simp [heq])
  have hold : (w.alloc n ⟨obj, .tail, a⟩).next a = some .tail := by
    rw [ListHeap.alloc_next, Function.update_of_ne ha, hnext]
  obtain ⟨w₁, hw₁, hnext₁, hprev₁, hdata₁, hcount₁⟩ := ListHeap.setNext_spec hold (.cell n)
  have hold₁ : w₁.prev .tail = some a := by
    rw [hprev₁, ListHeap.alloc_prev, Function.update_of_ne (by simp), hprev]
  obtain ⟨w₂, hw₂, hprev₂, hnext₂, hdata₂, hcount₂⟩ := ListHeap.setPrev_spec hold₁ (.cell n)
  refine ⟨w₂.setCount (w₂.list.membersCount + 1), ?_, ?_⟩
  · simp [listAppend, hlast, hw₁, hw₂]
  · refine hxs.inserted (x := (n, obj)) hl rfl hfresh ?_ ?_ ?_ ?_
    · rw [hnext₂, hnext₁, ListHeap.alloc_next]
    · rw [hprev₂, hprev₁, ListHeap.alloc_prev]
    · rw [hdata₂, hdata₁, ListHeap.alloc_data]
    · rw [hcount₂, hcount₁, ListHeap.alloc_list]

/-- `list_append_left` with memory for the node. -/
lemma listAppendLeft_spec (h : Represents w xs) (hfresh : w.cells n = none) (obj : Option α) :
    ∃ w', listAppendLeft (some n) obj w = some (w', true) ∧ Represents w' ((n, obj) :: xs) := by
  obtain ⟨b, R, hr⟩ := List.exists_cons_of_ne_nil (show nodes xs ++ [NodePtr.tail] ≠ [] by simp)
  have hl : NodePtr.head :: nodes ([] : List (ℕ × Option α)) = [] ++ [.head] := rfl
  have hnew := h.fresh_notMem hfresh
  obtain ⟨hnext, hprev⟩ := h.around (l := []) hl hr
  rw [hr] at hnew
  have hfirst : w.list.head.next = b := by simpa using hnext
  have hb : b ≠ .cell n := fun heq => hnew (by simp [heq])
  have hold : (w.alloc n ⟨obj, b, .head⟩).prev b = some .head := by
    rw [ListHeap.alloc_prev, Function.update_of_ne hb, hprev]
  obtain ⟨w₁, hw₁, hprev₁, hnext₁, hdata₁, hcount₁⟩ := ListHeap.setPrev_spec hold (.cell n)
  have hold₁ : w₁.next .head = some b := by
    rw [hnext₁, ListHeap.alloc_next, Function.update_of_ne (by simp), hnext]
  obtain ⟨w₂, hw₂, hnext₂, hprev₂, hdata₂, hcount₂⟩ := ListHeap.setNext_spec hold₁ (.cell n)
  refine ⟨w₂.setCount (w₂.list.membersCount + 1), ?_, ?_⟩
  · simp [listAppendLeft, hfirst, hw₁, hw₂]
  · refine h.inserted (l := []) (x := (n, obj)) hl hr hfresh ?_ ?_ ?_ ?_
    · rw [hnext₂, hnext₁, ListHeap.alloc_next]
    · rw [hprev₂, hprev₁, ListHeap.alloc_prev]
    · rw [hdata₂, hdata₁, ListHeap.alloc_data]
    · rw [hcount₂, hcount₁, ListHeap.alloc_list]

/-- The pointers around the element `x`. -/
structure Around (w : ListHeap α) (l : List (ℕ × Option α)) (x : ℕ × Option α)
    (r : List (ℕ × Option α)) (a b : NodePtr) : Prop where
  left : ∃ L, NodePtr.head :: nodes l = L ++ [a]
  right : ∃ R, nodes r ++ [NodePtr.tail] = b :: R
  next_left : w.next a = some (.cell x.1)
  prev_node : w.prev (.cell x.1) = some a
  next_node : w.next (.cell x.1) = some b
  prev_right : w.prev b = some (.cell x.1)
  left_ne : a ≠ .cell x.1
  right_ne : b ≠ .cell x.1

lemma Represents.exists_around (h : Represents w (l ++ x :: r)) : ∃ a b, Around w l x r a b := by
  obtain ⟨L, a, b, R, hl, hr⟩ := Orchestrator.exists_around l r
  have hspine := h.spine
  rw [spine_at hl hr] at hspine
  obtain ⟨hnext, hprev⟩ := hspine.neighbours
  have hspine' : Spine w.next w.prev ((L ++ [a]) ++ .cell x.1 :: b :: R) := by simpa using hspine
  obtain ⟨hnext', hprev'⟩ := hspine'.neighbours
  have hnodup := hspine.nodup
  refine ⟨a, b, ⟨L, hl⟩, ⟨R, hr⟩, hnext, hprev, hnext', hprev', ?_, ?_⟩ <;> grind

/-- The neighbours of an element are pointed at each other, the left one first. -/
lemma Represents.unlink_left (h : Represents w (l ++ x :: r)) {a b : NodePtr}
    (haround : Around w l x r a b) :
    ∃ w₁ w₂, w.setNext a b = some w₁ ∧ w₁.prev (.cell x.1) = some a ∧
      w₁.next (.cell x.1) = some b ∧ w₁.setPrev b a = some w₂ ∧
      w₂.cells x.1 ≠ none ∧
      Represents (w₂.setCount (w₂.list.membersCount - 1)) (l ++ r) := by
  obtain ⟨L, hl⟩ := haround.left
  obtain ⟨R, hr⟩ := haround.right
  obtain ⟨w₁, hw₁, hnext₁, hprev₁, hdata₁, hcount₁⟩ := ListHeap.setNext_spec haround.next_left b
  have hold : w₁.prev b = some (.cell x.1) := by rw [hprev₁, haround.prev_right]
  obtain ⟨w₂, hw₂, hprev₂, hnext₂, hdata₂, hcount₂⟩ := ListHeap.setPrev_spec hold a
  refine ⟨w₁, w₂, hw₁, ?_, ?_, hw₂, ?_, ?_⟩
  · rw [hprev₁, haround.prev_node]
  · rw [hnext₁, Function.update_of_ne haround.left_ne.symm, haround.next_node]
  · exact ListHeap.cells_ne_none (by rw [hdata₂, hdata₁, h.data x (by simp)])
  · exact h.unlinked hl hr (hnext₂.trans hnext₁) (by rw [hprev₂, hprev₁]) (hdata₂.trans hdata₁)
      (hcount₂.trans hcount₁)

/-- The neighbours of an element are pointed at each other, the right one first. -/
lemma Represents.unlink_right (h : Represents w (l ++ x :: r)) {a b : NodePtr}
    (haround : Around w l x r a b) :
    ∃ w₁ w₂, w.setPrev b a = some w₁ ∧ w₁.next (.cell x.1) = some b ∧ w₁.setNext a b = some w₂ ∧
      w₂.cells x.1 ≠ none ∧
      Represents (w₂.setCount (w₂.list.membersCount - 1)) (l ++ r) := by
  obtain ⟨L, hl⟩ := haround.left
  obtain ⟨R, hr⟩ := haround.right
  obtain ⟨w₁, hw₁, hprev₁, hnext₁, hdata₁, hcount₁⟩ := ListHeap.setPrev_spec haround.prev_right a
  have hold : w₁.next a = some (.cell x.1) := by rw [hnext₁, haround.next_left]
  obtain ⟨w₂, hw₂, hnext₂, hprev₂, hdata₂, hcount₂⟩ := ListHeap.setNext_spec hold b
  have hdata : w₂.data = w.data := hdata₂.trans hdata₁
  refine ⟨w₁, w₂, hw₁, by rw [hnext₁, haround.next_node], hw₂, ?_, ?_⟩
  · exact ListHeap.cells_ne_none (by rw [hdata, h.data x (by simp)])
  · exact h.unlinked hl hr (by rw [hnext₂, hnext₁]) (hprev₂.trans hprev₁) hdata
      (hcount₂.trans hcount₁)

lemma listIsEmpty_append (h : Represents w (l ++ x :: r)) : listIsEmpty w = false := by
  rw [← Bool.not_eq_true, listIsEmpty_iff h]
  simp

/-- `list_pop` of an empty list. -/
lemma listPop_empty (h : Represents w []) : listPop w = some (w, .null) := by
  rw [listPop, if_pos ((listIsEmpty_iff h).mpr rfl)]

/-- `list_pop` of a list with an element. -/
lemma listPop_spec (h : Represents w (l ++ [x])) :
    ∃ w', listPop w = some (w', .cell x.1) ∧ w'.cells x.1 ≠ none ∧ Represents w' l := by
  obtain ⟨a, b, haround⟩ := h.exists_around
  obtain ⟨R, hr⟩ := haround.right
  obtain ⟨rfl, -⟩ := List.cons.inj hr
  have hlast : w.list.tail.prev = .cell x.1 := by simpa using haround.prev_right
  obtain ⟨w₁, w₂, hw₁, hprev, -, hw₂, hcell, hrep⟩ := h.unlink_left haround
  rw [List.append_nil] at hrep
  refine ⟨w₂.setCount (w₂.list.membersCount - 1), ?_, hcell, hrep⟩
  simp [listPop, listIsEmpty_append h, hlast, haround.prev_node, hw₁, hprev, hw₂]

/-- `list_pop_left` of an empty list. -/
lemma listPopLeft_empty (h : Represents w []) : listPopLeft w = some (w, .null) := by
  rw [listPopLeft, if_pos ((listIsEmpty_iff h).mpr rfl)]

/-- `list_pop_left` of a list with an element. -/
lemma listPopLeft_spec (h : Represents w (x :: r)) :
    ∃ w', listPopLeft w = some (w', .cell x.1) ∧ w'.cells x.1 ≠ none ∧ Represents w' r := by
  obtain ⟨a, b, haround⟩ := h.exists_around (l := [])
  obtain ⟨L, hl⟩ := haround.left
  have ha : a = .head := by
    cases L with
    | nil => exact (List.cons.inj hl).1.symm
    | cons p L => simp [nodes] at hl
  subst ha
  have hfirst : w.list.head.next = .cell x.1 := by simpa using haround.next_left
  obtain ⟨w₁, w₂, hw₁, hnext, hw₂, hcell, hrep⟩ := h.unlink_right (l := []) haround
  refine ⟨w₂.setCount (w₂.list.membersCount - 1), ?_, hcell, hrep⟩
  simp [listPopLeft, listIsEmpty_append (l := []) h, hfirst, haround.next_node, hw₁, hnext, hw₂]

/-- The other elements have other nodes. -/
lemma Represents.ne_of_mem (h : Represents w (l ++ x :: r)) : ∀ y ∈ l ++ r, y.1 ≠ x.1 := by
  have hnodup : (nodes (l ++ x :: r)).Nodup :=
    (List.nodup_append.mp (List.nodup_cons.mp h.spine.nodup).2).1
  rw [nodes_append, nodes_cons, List.nodup_middle, List.nodup_cons, ← nodes_append] at hnodup
  intro y hy heq
  refine hnodup.1 ?_
  rw [← heq]
  exact List.mem_map_of_mem hy

/-- The node of an element that was taken out is freed. -/
lemma Represents.freed (h : Represents w xs) (hcell : w.cells n ≠ none)
    (hne : ∀ y ∈ xs, y.1 ≠ n) : ∃ w', w.free (.cell n) = some w' ∧ Represents w' xs := by
  obtain ⟨node, hnode⟩ := Option.ne_none_iff_exists'.mp hcell
  refine ⟨{ w with cells := Function.update w.cells n none }, by simp [ListHeap.free, hnode], ?_⟩
  exact h.frame rfl fun y hy => Function.update_of_ne (hne y hy) none w.cells

/-- `list_remove` of a node of the list. -/
lemma listRemove_spec (h : Represents w (l ++ x :: r)) :
    ∃ w', listRemove (.cell x.1) w = some w' ∧ Represents w' (l ++ r) := by
  obtain ⟨a, b, haround⟩ := h.exists_around
  obtain ⟨w₁, w₂, hw₁, hprev, hnext, hw₂, hcell, hrep⟩ := h.unlink_left haround
  obtain ⟨w₃, hw₃, hrep₃⟩ := hrep.freed hcell h.ne_of_mem
  refine ⟨w₃, ?_, hrep₃⟩
  simp [listRemove, listIsEmpty_append h, haround.prev_node, haround.next_node, hw₁, hprev, hnext,
    hw₂, hw₃]

/-- One round of `list_clear`. -/
lemma listClearStep_spec (h : Represents w (x :: r)) :
    ∃ w', listClearStep w = some w' ∧ Represents w' r := by
  obtain ⟨w₁, hpop, hcell, hrep⟩ := listPopLeft_spec h
  obtain ⟨w₂, hw₂, hrep₂⟩ := hrep.freed hcell (h.ne_of_mem (l := []))
  exact ⟨w₂, by simp [listClearStep, hpop, hw₂], hrep₂⟩

/-! ## `list_clear` -/

namespace ListHeap

lemma write_count {p : NodePtr} {f : ListNode α → ListNode α} (h : w.write p f = some w') :
    w'.list.membersCount = w.list.membersCount := by
  cases p with
  | null => cases h
  | head => cases h; rfl
  | tail => cases h; rfl
  | cell n =>
      obtain ⟨node, -, rfl⟩ := Option.map_eq_some_iff.mp h
      rfl

lemma free_count {p : NodePtr} (h : w.free p = some w') :
    w'.list.membersCount = w.list.membersCount := by
  cases p with
  | cell n =>
      obtain ⟨node, -, rfl⟩ := Option.map_eq_some_iff.mp h
      rfl
  | _ => cases h

end ListHeap

/-- A round of the loop of `list_clear` counts down, whatever the pointers are. -/
lemma listClearStep_lt (hne : listIsEmpty w = false) (h : listClearStep w = some w') :
    w'.list.membersCount < w.list.membersCount := by
  have hpos : 0 < w.list.membersCount := by
    rw [listIsEmpty, beq_eq_false_iff_ne] at hne
    omega
  simp only [listClearStep, listPopLeft, hne, Bool.false_eq_true, if_false,
    Option.bind_eq_bind, Option.bind_eq_some_iff, Option.some.injEq] at h
  obtain ⟨⟨w₃, node⟩, ⟨q₀, hq₀, w₁, hw₁, q₁, hq₁, w₂, hw₂, heq⟩, hfree⟩ := h
  cases heq
  have h₁ := ListHeap.write_count hw₁
  have h₂ := ListHeap.write_count hw₂
  have h₃ := ListHeap.free_count hfree
  change w'.list.membersCount = w₂.list.membersCount - 1 at h₃
  omega

/-- `list_clear`. -/
def listClear (w : ListHeap α) : Option (ListHeap α) :=
  if _ : listIsEmpty w = true then some w
  else match _ : listClearStep w with
    | none => none
    | some w' => listClear w'
termination_by w.list.membersCount
decreasing_by exact listClearStep_lt (Bool.eq_false_iff.mpr ‹_›) ‹_›

/-- `list_clear` frees one node after the other. -/
lemma listClear_spec (h : Represents w xs) :
    ∃ w', listClear w = some w' ∧ Represents w' [] := by
  induction xs generalizing w with
  | nil =>
      refine ⟨w, ?_, h⟩
      rw [listClear, dif_pos ((listIsEmpty_iff h).mpr rfl)]
  | cons x xs ih =>
      obtain ⟨w₁, hstep, hrep⟩ := listClearStep_spec h
      obtain ⟨w₂, hclear, hempty⟩ := ih hrep
      refine ⟨w₂, ?_, hempty⟩
      have hne : listIsEmpty w = false := listIsEmpty_append (l := []) h
      rw [listClear, dif_neg (by simp [hne])]
      split
      · next hnone => rw [hstep] at hnone; cases hnone
      · next w₁' hsome =>
          rw [hstep] at hsome
          cases hsome
          exact hclear

/-! ## The walks over a list -/

lemma null_notMem_nodes : NodePtr.null ∉ nodes xs := by
  simp [nodes]

lemma listFirst_eq (h : Represents w xs) : listFirst w = (nodes xs).head?.getD .null := by
  cases xs with
  | nil => rw [listFirst, if_pos ((listIsEmpty_iff h).mpr rfl)]; rfl
  | cons x xs =>
      have hnext : w.next .head = some (.cell x.1) :=
        (Spine.neighbours (l := []) h.spine).1
      rw [listFirst, listIsEmpty_append (l := []) h]
      simpa using hnext

lemma listLast_eq (h : Represents w xs) : listLast w = (nodes xs).reverse.head?.getD .null := by
  rcases List.eq_nil_or_concat xs with rfl | ⟨l, x, rfl⟩
  · rw [listLast, if_pos ((listIsEmpty_iff h).mpr rfl)]; rfl
  · rw [List.concat_eq_append] at h ⊢
    obtain ⟨a, b, haround⟩ := h.exists_around
    obtain ⟨R, hr⟩ := haround.right
    obtain ⟨rfl, -⟩ := List.cons.inj hr
    rw [listLast, listIsEmpty_append h]
    simpa [nodes] using haround.prev_right

/-- **`list_first` and `list_next`** walk over the elements in order. -/
theorem Represents.walk (h : Represents w xs) :
    Visits (listNext w) .null (listFirst w) (nodes xs) := by
  rw [listFirst_eq h]
  have hstep : ∀ p ∈ nodes xs, p ≠ .null := fun p hp heq => null_notMem_nodes (heq ▸ hp)
  refine Visits.of_isChain h.spine.forward.tail null_notMem_nodes (fun p hp hnext => ?_)
    (fun p hp q hq hnext => ?_)
  · simp [listNext, hstep p hp, hnext]
  · have hq' : q ≠ .tail := by
      rintro rfl
      simp [nodes] at hq
    simp [listNext, hstep p hp, hnext, hstep q hq, hq']

/-- **`list_last` and `list_prev`** walk over the elements in reverse. -/
theorem Represents.walk_back (h : Represents w xs) :
    Visits (listPrev w) .null (listLast w) (nodes xs).reverse := by
  rw [listLast_eq h]
  have hstep : ∀ p ∈ (nodes xs).reverse, p ≠ .null :=
    fun p hp heq => null_notMem_nodes (List.mem_reverse.mp (heq ▸ hp))
  have hchain : ((nodes xs).reverse ++ [NodePtr.head]).IsChain fun p q => w.prev p = some q := by
    have := h.spine.backward
    simp only [List.reverse_cons, List.reverse_append, List.reverse_nil, List.nil_append] at this
    exact this.tail
  refine Visits.of_isChain hchain (fun hmem => hstep _ hmem rfl) (fun p hp hprev => ?_)
    (fun p hp q hq hprev => ?_)
  · simp [listPrev, hstep p hp, hprev]
  · have hq' : q ≠ .head := by
      rintro rfl
      simp [nodes] at hq
    simp [listPrev, hstep p hp, hprev, hstep q hq, hq']

/-! ## Runs -/

/-- A call of one of the functions that change the list. -/
inductive ListCall (α : Type)
  | init
  | append (malloc : Option ℕ) (obj : Option α)
  | appendLeft (malloc : Option ℕ) (obj : Option α)
  | pop
  | popLeft
  | remove (node : NodePtr)
  | clear

/-- What a call returns. -/
inductive ListReturn
  | nothing
  | flag (ok : Bool)
  | node (p : NodePtr)

namespace ListCall

/-- The call as the source performs it. -/
def exec (w : ListHeap α) : ListCall α → Option (ListHeap α × ListReturn)
  | init => some (listInit w, .flag true)
  | append malloc obj => (listAppend malloc obj w).map (Prod.map id .flag)
  | appendLeft malloc obj => (listAppendLeft malloc obj w).map (Prod.map id .flag)
  | pop => (listPop w).map (Prod.map id .node)
  | popLeft => (listPopLeft w).map (Prod.map id .node)
  | remove node => (listRemove node w).map (·, .nothing)
  | clear => (listClear w).map (·, .nothing)

/-- The call on a plain sequence. -/
def spec (xs : List (ℕ × Option α)) : ListCall α → List (ℕ × Option α) × ListReturn
  | init => ([], .flag true)
  | append (some n) obj => (xs ++ [(n, obj)], .flag true)
  | append none _ => (xs, .flag false)
  | appendLeft (some n) obj => ((n, obj) :: xs, .flag true)
  | appendLeft none _ => (xs, .flag false)
  | pop => (xs.dropLast, .node ((nodes xs).getLast?.getD .null))
  | popLeft => (xs.tail, .node ((nodes xs).head?.getD .null))
  | remove node => (xs.eraseP fun x => .cell x.1 = node, .nothing)
  | clear => ([], .nothing)

/-- `malloc` returns memory that is not in use, and only nodes of the list are removed. -/
def Allowed (w : ListHeap α) (xs : List (ℕ × Option α)) : ListCall α → Prop
  | append (some n) _ => w.cells n = none
  | appendLeft (some n) _ => w.cells n = none
  | remove node => node ∈ nodes xs
  | _ => True

end ListCall

/-- **Every call keeps the representation** and does on the elements what it says. -/
theorem Represents.call (h : Represents w xs) (call : ListCall α) (hallowed : call.Allowed w xs) :
    ∃ w', call.exec w = some (w', (call.spec xs).2) ∧ Represents w' (call.spec xs).1 := by
  cases call with
  | init => exact ⟨listInit w, rfl, represents_listInit w⟩
  | append malloc obj =>
      cases malloc with
      | none => exact ⟨w, rfl, h⟩
      | some n =>
          obtain ⟨w', hcall, hrep⟩ := listAppend_spec h hallowed obj
          exact ⟨w', by simp [ListCall.exec, ListCall.spec, hcall], hrep⟩
  | appendLeft malloc obj =>
      cases malloc with
      | none => exact ⟨w, rfl, h⟩
      | some n =>
          obtain ⟨w', hcall, hrep⟩ := listAppendLeft_spec h hallowed obj
          exact ⟨w', by simp [ListCall.exec, ListCall.spec, hcall], hrep⟩
  | pop =>
      rcases List.eq_nil_or_concat xs with rfl | ⟨l, x, rfl⟩
      · exact ⟨w, by simp [ListCall.exec, ListCall.spec, listPop_empty h, nodes], h⟩
      · rw [List.concat_eq_append] at h ⊢
        obtain ⟨w', hcall, -, hrep⟩ := listPop_spec h
        refine ⟨w', by simp [ListCall.exec, ListCall.spec, hcall, nodes], ?_⟩
        simpa [ListCall.spec] using hrep
  | popLeft =>
      cases xs with
      | nil => exact ⟨w, by simp [ListCall.exec, ListCall.spec, listPopLeft_empty h, nodes], h⟩
      | cons x xs =>
          obtain ⟨w', hcall, -, hrep⟩ := listPopLeft_spec h
          exact ⟨w', by simp [ListCall.exec, ListCall.spec, hcall], hrep⟩
  | remove node =>
      obtain ⟨x, hx, rfl⟩ := List.mem_map.mp hallowed
      obtain ⟨l, r, rfl⟩ := List.append_of_mem hx
      obtain ⟨w', hcall, hrep⟩ := listRemove_spec h
      have hne : ∀ y ∈ l, ¬(NodePtr.cell y.1 = .cell x.1) := by
        intro y hy heq
        rw [NodePtr.cell.injEq] at heq
        exact h.ne_of_mem y (List.mem_append_left _ hy) heq
      have herase : (l ++ x :: r).eraseP (fun y => .cell y.1 = NodePtr.cell x.1) = l ++ r := by
        rw [List.eraseP_append_right _ (by simpa using hne)]
        simp
      exact ⟨w', by simp [ListCall.exec, ListCall.spec, hcall], by
        rw [ListCall.spec, herase]; exact hrep⟩
  | clear =>
      obtain ⟨w', hcall, hrep⟩ := listClear_spec h
      exact ⟨w', by simp [ListCall.exec, ListCall.spec, hcall], hrep⟩

/-- The heaps that calls lead to from `list_init`, each with the plain sequence of its elements.
Between two calls the rest of the program uses all memory but the list and its nodes; the nodes
that `list_pop` and `list_pop_left` returned belong to it. -/
inductive Listed : ListHeap α → List (ℕ × Option α) → Prop
  | init (w : ListHeap α) : Listed (listInit w) []
  | call {w w' : ListHeap α} {xs : List (ℕ × Option α)} {ret : ListReturn} (call : ListCall α)
      (h : Listed w xs) (hallowed : call.Allowed w xs) (hexec : call.exec w = some (w', ret)) :
      Listed w' (call.spec xs).1
  | other {w w' : ListHeap α} {xs : List (ℕ × Option α)} (h : Listed w xs)
      (hlist : w'.list = w.list) (hcells : ∀ x ∈ xs, w'.cells x.1 = w.cells x.1) : Listed w' xs

lemma Listed.represents (h : Listed w xs) : Represents w xs := by
  induction h with
  | init w => exact represents_listInit w
  | call call _ hallowed hexec ih =>
      obtain ⟨w', hw', hrep⟩ := ih.call call hallowed
      rw [hexec] at hw'
      cases hw'
      exact hrep
  | other _ hlist hcells ih => exact ih.frame hlist hcells

/-- The heap holds the sequence `xs`, as a reader of the list sees it. -/
structure HoldsSequence (w : ListHeap α) (xs : List (ℕ × Option α)) : Prop where
  next_chain : (NodePtr.head :: nodes xs ++ [NodePtr.tail]).IsChain fun p q => w.next p = some q
  prev_chain : (NodePtr.tail :: (nodes xs).reverse ++ [NodePtr.head]).IsChain
    fun p q => w.prev p = some q
  distinct : (nodes xs).Nodup
  members_count : w.list.membersCount = xs.length
  data : (nodes xs).map w.data = xs.map fun x => some x.2
  first_next : Visits (listNext w) .null (listFirst w) (nodes xs)
  last_prev : Visits (listPrev w) .null (listLast w) (nodes xs).reverse

lemma Represents.holdsSequence (h : Represents w xs) : HoldsSequence w xs where
  next_chain := h.spine.forward
  prev_chain := by simpa using h.spine.backward
  distinct := (List.nodup_append.mp (List.nodup_cons.mp h.spine.nodup).2).1
  members_count := h.count
  data := by
    rw [nodes, List.map_map]
    exact List.map_congr_left h.data
  first_next := h.walk
  last_prev := h.walk_back

/-- **The linked list is a sequence.**  After every run of calls, with `malloc` failing at any
time, both chains run through the nodes of the elements that the calls on a plain sequence give, the
count is their number and the walks come past them in order and in reverse.  No call reads or writes
through a pointer without a node, each returns what it says, and an append without memory changes
nothing. -/
theorem list_refines_sequence (h : Listed w xs) :
    HoldsSequence w xs ∧
      (∀ call : ListCall α, call.Allowed w xs →
        ∃ w', call.exec w = some (w', (call.spec xs).2) ∧ HoldsSequence w' (call.spec xs).1) ∧
      ∀ obj, (ListCall.append none obj).exec w = some (w, .flag false) ∧
        (ListCall.appendLeft none obj).exec w = some (w, .flag false) := by
  refine ⟨h.represents.holdsSequence, fun call hallowed => ?_, fun obj => ⟨rfl, rfl⟩⟩
  obtain ⟨w', hw', hrep⟩ := h.represents.call call hallowed
  exact ⟨w', hw', hrep.holdsSequence⟩

/-! ## Runs of given calls -/

instance (w : ListHeap α) (xs : List (ℕ × Option α)) (call : ListCall α) :
    Decidable (call.Allowed w xs) :=
  match call with
  | .append (some n) _ | .appendLeft (some n) _ => inferInstanceAs (Decidable (w.cells n = none))
  | .remove node => inferInstanceAs (Decidable (node ∈ nodes xs))
  | .append none _ | .appendLeft none _ | .init | .pop | .popLeft | .clear => isTrue trivial

/-- The calls one after the other, on the heap and on the plain sequence, as long as they are
allowed. -/
def runCalls : List (ListCall α) → ListHeap α → List (ℕ × Option α) →
    Option (ListHeap α × List (ℕ × Option α))
  | [], w, xs => some (w, xs)
  | call :: calls, w, xs =>
      if call.Allowed w xs then (call.exec w).bind fun r => runCalls calls r.1 (call.spec xs).1
      else none

lemma Listed.runCalls {calls : List (ListCall α)} {ys : List (ℕ × Option α)} (h : Listed w xs)
    (hrun : runCalls calls w xs = some (w', ys)) : Listed w' ys := by
  induction calls generalizing w xs with
  | nil => cases hrun; exact h
  | cons call calls ih =>
      rw [Orchestrator.runCalls] at hrun
      split at hrun
      · next hallowed =>
        obtain ⟨⟨w₁, ret⟩, hexec, hrest⟩ := Option.bind_eq_some_iff.mp hrun
        exact ih (h.call call hallowed hexec) hrest
      · cases hrun

/-- The same list, with no other cells on the heap. -/
lemma Listed.alone (h : Listed w xs) :
    ∃ w', Listed w' xs ∧ ∀ n, (∀ x ∈ xs, x.1 ≠ n) → w'.cells n = none := by
  let cells : ℕ → Option (ListNode α) := fun n => if ∃ x ∈ xs, x.1 = n then w.cells n else none
  have hkept : ∀ x ∈ xs, cells x.1 = w.cells x.1 := fun x hx => if_pos ⟨x, hx, rfl⟩
  refine ⟨{ w with cells := cells }, h.other rfl hkept, fun n hn => if_neg ?_⟩
  rintro ⟨x, hx, heq⟩
  exact hn x hx heq

/-- The heap without cells. -/
def emptyHeap : ListHeap α :=
  ⟨⟨0, ⟨none, .null, .null⟩, ⟨none, .null, .null⟩⟩, fun _ => none⟩

/-- Every sequence of elements is that of a list. -/
lemma exists_listed_of (data : List (Option α)) :
    ∃ w, ∃ xs : List (ℕ × Option α),
      Listed w xs ∧ xs.map Prod.snd = data ∧ ∀ x ∈ xs, x.1 < data.length := by
  induction data using List.reverseRecOn with
  | nil => exact ⟨_, [], .init emptyHeap, rfl, by simp⟩
  | append_singleton data obj ih =>
      obtain ⟨w, xs, hlisted, hdata, hlt⟩ := ih
      obtain ⟨w, hlisted, hfree⟩ := hlisted.alone
      have hallowed : (ListCall.append (some data.length) obj).Allowed w xs :=
        hfree _ fun x hx => (hlt x hx).ne
      obtain ⟨w', hexec, -⟩ := hlisted.represents.call _ hallowed
      refine ⟨w', _, hlisted.call _ hallowed hexec, ?_, ?_⟩
      · simp [ListCall.spec, hdata]
      · intro x hx
        rw [List.length_append, List.length_singleton]
        rcases List.mem_append.mp hx with hx | hx
        · exact (hlt x hx).trans (Nat.lt_succ_self _)
        · rw [List.mem_singleton.mp hx]
          exact Nat.lt_succ_self _

/-- Calls from `list_init` lead to a list of the elements that they give. -/
lemma exists_listed {ys : List (ℕ × Option α)} (calls : List (ListCall α))
    (hrun : (runCalls calls (listInit emptyHeap) []).map Prod.snd = some ys) :
    ∃ w, Listed w ys := by
  obtain ⟨⟨w, xs⟩, hcalls, rfl⟩ := Option.map_eq_some_iff.mp hrun
  exact ⟨w, (Listed.init emptyHeap).runCalls hcalls⟩

/-- Calls at both ends, in the middle and without memory. -/
def severalCalls : List (ListCall Char) :=
  [.append (some 5) (some 'b'), .append (some 7) (some 'c'), .appendLeft (some 3) (some 'a'),
    .append (some 9) (some 'd'), .append none (some 'e'), .pop, .remove (.cell 7),
    .append (some 11) (some 'b')]

lemma exists_listed_several : ∃ w, Listed w [(3, some 'a'), (5, some 'b'), (11, some 'b')] :=
  exists_listed severalCalls rfl

/-- The list of three jobs, and what `list_pop` and `list_remove` make of it. -/
theorem list_refines_sequence_several :
    ∃ w, Listed w [(3, some 'a'), (5, some 'b'), (11, some 'b')] ∧
      HoldsSequence w [(3, some 'a'), (5, some 'b'), (11, some 'b')] ∧
      (∃ w', ListCall.pop.exec w = some (w', .node (.cell 11)) ∧
        HoldsSequence w' [(3, some 'a'), (5, some 'b')]) ∧
      ∃ w', (ListCall.remove (.cell 5)).exec w = some (w', .nothing) ∧
        HoldsSequence w' [(3, some 'a'), (11, some 'b')] := by
  obtain ⟨w, hlisted⟩ := exists_listed_several
  obtain ⟨hholds, hcalls, -⟩ := list_refines_sequence hlisted
  have hfive : NodePtr.cell 5 ∈ nodes [(3, some 'a'), (5, some 'b'), (11, some 'b')] := by decide
  exact ⟨w, hlisted, hholds, hcalls .pop trivial, hcalls (.remove (.cell 5)) hfive⟩

end Orchestrator
