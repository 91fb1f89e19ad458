import Orchestrator.Json.Document

/-!
# Objects and arrays in a fixed layout

Documents as a program prints them: plain names, the members in a row with the same white space
before each name after the first, the elements of an array without white space.

* `Members.ofList`, `Items.ofList` — the members and elements of a list.
* `Members.find_ofList` — what is under a name is what the list has under it.
* `Members.text_ofList`, `Items.text_ofList` — the text, with a comma between each two.
-/

namespace Json

/-! ## Plain strings -/

/-- A string without escapes, as far as its characters stand for themselves. -/
def piecesOf (s : List Char) : List Piece :=
  s.filterMap fun c => if h : isPlain c = true then some (.plain ⟨c, h⟩) else none

lemma piecesOf_cons {c : Char} (hc : isPlain c = true) (s : List Char) :
    piecesOf (c :: s) = .plain ⟨c, hc⟩ :: piecesOf s := by
  simp [piecesOf, hc]

/-- The text of a plain string is the string. -/
lemma piecesText_piecesOf {s : List Char} (h : ∀ c ∈ s, isPlain c = true) :
    piecesText (piecesOf s) = s := by
  induction s with
  | nil => rfl
  | cons c s ih =>
      rw [piecesOf_cons (h c List.mem_cons_self)]
      show c :: piecesText (piecesOf s) = _
      rw [ih fun d hd => h d (List.mem_cons_of_mem c hd)]

/-- So is what it means. -/
lemma char_piecesOf {s : List Char} (h : ∀ c ∈ s, isPlain c = true) :
    (piecesOf s).map Piece.char = s := by
  induction s with
  | nil => rfl
  | cons c s ih =>
      rw [piecesOf_cons (h c List.mem_cons_self), List.map_cons,
        ih fun d hd => h d (List.mem_cons_of_mem c hd)]
      rfl

/-! ## Members and elements -/

/-- The members of an object, with white space before the names only. -/
def Members.ofList (gap : Blank) : (before : Blank) → List (String × Doc) → Members
  | _, [] => .nil
  | before, (name, x) :: fields =>
      .cons before (piecesOf name.toList) [] [] x [] (Members.ofList gap gap fields)

/-- The elements of an array without white space. -/
def Items.ofList : List Doc → Items
  | [] => .nil
  | x :: xs => .cons [] x [] (Items.ofList xs)

/-- The names of some fields are plain. -/
def PlainNames (fields : List (String × Doc)) : Prop :=
  ∀ f ∈ fields, ∀ c ∈ f.1.toList, isPlain c = true

lemma PlainNames.tail {f : String × Doc} {fields : List (String × Doc)}
    (h : PlainNames (f :: fields)) : PlainNames fields :=
  fun g hg => h g (List.mem_cons_of_mem f hg)

variable {gap before : Blank} {fields : List (String × Doc)} {xs : List Doc}

/-- **What is under a name** is what the list has under it. -/
theorem Members.find_ofList (h : PlainNames fields) (name : String) :
    (Members.ofList gap before fields).find name.toList = fields.lookup name := by
  induction fields generalizing before with
  | nil => rfl
  | cons f fields ih =>
      obtain ⟨name', x⟩ := f
      have hname := piecesText_piecesOf (h (name', x) List.mem_cons_self)
      rw [Members.ofList, Members.find, hname, ih h.tail, List.lookup_cons]
      by_cases heq : name = name'
      · subst heq
        simp
      · have hne : name'.toList ≠ name.toList := fun htext => heq (String.toList_inj.mp htext).symm
        have hbeq : (name == name') = false := beq_false_of_ne heq
        rw [if_neg hne, hbeq]

lemma Members.numerals_ofList {P : Numeral → Prop} (h : ∀ f ∈ fields, f.2.Numerals P) :
    (Members.ofList gap before fields).Numerals P := by
  induction fields generalizing before with
  | nil => trivial
  | cons f fields ih =>
      exact ⟨h f List.mem_cons_self, ih fun g hg => h g (List.mem_cons_of_mem f hg)⟩

lemma Members.depth_ofList_le {n : ℕ} (h : ∀ f ∈ fields, f.2.depth ≤ n) :
    (Members.ofList gap before fields).depth ≤ n := by
  induction fields generalizing before with
  | nil => exact Nat.zero_le n
  | cons f fields ih =>
      exact max_le (h f List.mem_cons_self) (ih fun g hg => h g (List.mem_cons_of_mem f hg))

lemma Members.names_ofList {P : List Char → Prop} (hplain : PlainNames fields)
    (hnames : ∀ f ∈ fields, P f.1.toList) (h : ∀ f ∈ fields, f.2.Names P) :
    (Members.ofList gap before fields).Names P := by
  induction fields generalizing before with
  | nil => trivial
  | cons f fields ih =>
      obtain ⟨name, x⟩ := f
      refine ⟨?_, h (name, x) List.mem_cons_self, ih hplain.tail
        (fun g hg => hnames g (List.mem_cons_of_mem (name, x) hg))
        (fun g hg => h g (List.mem_cons_of_mem (name, x) hg))⟩
      rw [piecesText_piecesOf (hplain (name, x) List.mem_cons_self)]
      exact hnames (name, x) List.mem_cons_self

/-- The text of a field without white space. -/
def fieldText (f : String × Doc) : List Char := '"' :: (f.1.toList ++ '"' :: ':' :: f.2.text)

/-- **The text of the members**, with a comma between each two. -/
theorem Members.text_ofList (h : PlainNames fields) :
    (Members.ofList gap before fields).text =
      if fields = [] then []
      else before.text ++ (',' :: gap.text).intercalate (fields.map fieldText) := by
  induction fields generalizing before with
  | nil => rfl
  | cons f fields ih =>
      obtain ⟨name, x⟩ := f
      have hname := piecesText_piecesOf (h (name, x) List.mem_cons_self)
      rw [if_neg (List.cons_ne_nil _ _), Members.ofList, Members.text, ih h.tail, quoted, hname]
      cases fields with
      | nil => simp [Members.ofList, Members.comma, Blank.text, fieldText]
      | cons g fields =>
          have hcomma : (Members.ofList gap gap (g :: fields)).comma = [','] := rfl
          rw [if_neg (List.cons_ne_nil g fields), hcomma]
          simp [fieldText, Blank.text, List.intercalate_cons_cons]

lemma Items.numerals_ofList {P : Numeral → Prop} (h : ∀ x ∈ xs, x.Numerals P) :
    (Items.ofList xs).Numerals P := by
  induction xs with
  | nil => trivial
  | cons x xs ih =>
      exact ⟨h x List.mem_cons_self, ih fun y hy => h y (List.mem_cons_of_mem x hy)⟩

lemma Items.depth_ofList_le {n : ℕ} (h : ∀ x ∈ xs, x.depth ≤ n) :
    (Items.ofList xs).depth ≤ n := by
  induction xs with
  | nil => exact Nat.zero_le n
  | cons x xs ih =>
      exact max_le (h x List.mem_cons_self) (ih fun y hy => h y (List.mem_cons_of_mem x hy))

lemma Items.names_ofList {P : List Char → Prop} (h : ∀ x ∈ xs, x.Names P) :
    (Items.ofList xs).Names P := by
  induction xs with
  | nil => trivial
  | cons x xs ih =>
      exact ⟨h x List.mem_cons_self, ih fun y hy => h y (List.mem_cons_of_mem x hy)⟩

/-- **The text of the elements**, with a comma between each two. -/
theorem Items.text_ofList (xs : List Doc) :
    (Items.ofList xs).text = [','].intercalate (xs.map Doc.text) := by
  induction xs with
  | nil => rfl
  | cons x xs ih =>
      rw [Items.ofList, Items.text, ih]
      cases xs with
      | nil => simp [Items.ofList, Items.comma, Blank.text]
      | cons y xs =>
          have hcomma : (Items.ofList (y :: xs)).comma = [','] := rfl
          rw [hcomma]
          simp [Blank.text, List.intercalate_cons_cons]

end Json
