import Orchestrator.Json.General
import Orchestrator.Json.Layout
import Orchestrator.Mongoose.Accessors
import Orchestrator.Mongoose.Escapes
import Orchestrator.Config

/-!
# The fields of a report

What the program prints into a JSON text is made of a few kinds of values.  Each is printed as a
document, and the program's own JSON reader reads it back.

* `FieldValue` — a value, and the document it is printed as.
* `FieldValue.ReadAt` — the reader finds the value.
* `FieldValue.readAt` — so it does, in every document of printable values.
-/

namespace Orchestrator

open Json Printing

/-! ## Values -/

/-- The value of a field. -/
inductive FieldValue
  | int (n : Int)
  /-- a time in milliseconds with three decimals, from microseconds -/
  | ms (us : Int)
  /-- a number with `p` decimals -/
  | fixed (p : ℕ) (x : Double)
  /-- a number with three significant digits -/
  | general (x : Double)
  | text (s : List Char)
  | null

/-- The integer as a number in a document. -/
def intNumeral (n : Int) : Numeral where
  negative := decide (n < 0)
  whole := n.natAbs

/-- The value in a document. -/
def FieldValue.doc : FieldValue → Doc
  | .int n => .num (intNumeral n)
  | .ms us => .num (.fixed 3 ((us : ℚ) / 1000))
  | .fixed p (.num q) => .num (.fixed p q)
  | .general (.num q) => .num (.general 2 q)
  | .fixed _ .nan | .general .nan | .null => .null
  | .text s => .str (piecesOf s)

/-- The reader finds the value under the path.  A time is found exactly, a number with decimals up
to half a unit of the last one, and one with three significant digits up to half of a hundredth. -/
def FieldValue.ReadAt (text path : List Char) : FieldValue → Prop
  | .int n => mgJsonGetNum text path = some (n : ℚ)
  | .ms us => mgJsonGetNum text path = some ((us : ℚ) / 1000)
  | .fixed p x => ∃ q, x = .num q ∧ ∃ y, mgJsonGetNum text path = some y ∧
      |y - q| ≤ 1 / (2 * 10 ^ p)
  | .general x => ∃ q, x = .num q ∧ ∃ y, mgJsonGetNum text path = some y ∧ |y - q| ≤ |q| / 200
  | .text s => mgJsonGetStr text path = some s
  | .null => mgJsonGetNum text path = none ∧ mgJsonGetStr text path = none

/-- The value can be printed: strings need no escapes, and numbers are numbers. -/
def FieldValue.Printable : FieldValue → Prop
  | .text s => ∀ c ∈ s, isPlain c = true
  | .fixed _ x => ∃ q, x = .num q
  | .general x => ∃ q, x = .num q ∧ Within 999 q
  | _ => True

/-- The text of an integer. -/
lemma text_intNumeral (n : Int) : (intNumeral n).text = decimal n := by
  by_cases h : n < 0 <;> simp [Numeral.text, intNumeral, decimal, fractionText, exponentText, h]

/-- The value of an integer in a document. -/
lemma value_intNumeral (n : Int) : (intNumeral n).value = n := by
  have habs : ((n.natAbs : ℕ) : ℚ) = |(n : ℚ)| := by
    rw [← Int.cast_abs, Int.abs_eq_natAbs, Int.cast_natCast]
  simp only [Numeral.value, intNumeral, digitsValue, List.foldl_nil, List.length_nil, pow_zero,
    Option.map_none, Option.getD_none, zpow_zero, mul_one, decide_eq_true_eq, Nat.cast_zero,
    zero_div, add_zero, habs]
  split
  · next hneg =>
    rw [abs_of_neg (by exact_mod_cast hneg), neg_one_mul, neg_neg]
  · next hnonneg =>
    rw [abs_of_nonneg (by exact_mod_cast not_lt.mp hnonneg), one_mul]

/-- The characters of a numeral stand for themselves. -/
lemma isPlain_numeral (n : Numeral) : ∀ c ∈ n.text, isPlain c = true := by
  have hwhole : ∀ c ∈ Nat.toDigits 10 n.whole, isPlain c = true := fun c hc =>
    isPlain_of_isHex (by simp [isHex, isDigit_of_mem_toDigits hc])
  have hdigits : ∀ ds : List (Fin 10), ∀ c ∈ digitsText ds, isPlain c = true := by
    intro ds c hc
    obtain ⟨d, -, rfl⟩ := List.mem_map.mp hc
    exact isPlain_of_isHex (by simp [isHex])
  have hfraction : ∀ c ∈ fractionText n.fraction, isPlain c = true := by
    intro c hc
    rw [fractionText] at hc
    split at hc
    · cases hc
    · rcases List.mem_cons.mp hc with rfl | hc
      · rfl
      · exact hdigits _ c hc
  have hsign : ∀ sign : ExponentSign, ∀ c ∈ sign.text, isPlain c = true := by
    intro sign c hc
    cases sign with
    | none => cases hc
    | plus => rw [List.mem_singleton.mp hc]; rfl
    | minus => rw [List.mem_singleton.mp hc]; rfl
  have hexponent : ∀ c ∈ exponentText n.exponent, isPlain c = true := by
    intro c hc
    cases he : n.exponent with
    | none => rw [he] at hc; cases hc
    | some e =>
        rw [he] at hc
        rcases List.mem_cons.mp hc with rfl | hc
        · split <;> rfl
        · rcases List.mem_append.mp hc with hc | hc
          · exact hsign _ c hc
          · exact hdigits _ c hc
  intro c hc
  rw [Numeral.text] at hc
  rcases List.mem_append.mp hc with hc | hc
  · split at hc
    · rw [List.mem_singleton.mp hc]
      rfl
    · cases hc
  · rcases List.mem_append.mp hc with hc | hc
    · exact hwhole c hc
    · rcases List.mem_append.mp hc with hc | hc
      · exact hfraction c hc
      · exact hexponent c hc

/-- The characters of a number stand for themselves. -/
lemma isPlain_decimal (n : Int) : ∀ c ∈ decimal n, isPlain c = true := by
  have hdigit : ∀ c ∈ Nat.toDigits 10 n.natAbs, isPlain c = true := fun c hc =>
    isPlain_of_isHex (by simp [isHex, isDigit_of_mem_toDigits hc])
  intro c hc
  rw [decimal] at hc
  split at hc
  · rcases List.mem_cons.mp hc with rfl | hc
    · rfl
    · exact hdigit c hc
  · exact hdigit c hc

/-! ## Documents of values -/

/-- A name without escapes that can stand in a path. -/
def plainName (name : String) : Bool :=
  !name.toList.isEmpty && name.toList.all fun c => isPlain c && c != '.' && c != '[' && c != nul

lemma pathName_of_plainName {name : String} (h : plainName name = true) :
    PathName name.toList ∧ ∀ c ∈ name.toList, isPlain c = true := by
  simp only [plainName, Bool.and_eq_true, Bool.not_eq_true', List.isEmpty_eq_false_iff,
    List.all_eq_true, bne_iff_ne] at h
  obtain ⟨hne, hchars⟩ := h
  refine ⟨⟨hne, ?_, ?_, ?_⟩, fun c hc => (hchars c hc).1.1.1⟩
  · exact fun h => (hchars _ h).1.1.2 rfl
  · exact fun h => (hchars _ h).1.2 rfl
  · exact fun h => (hchars _ h).2 rfl

/-- A document that the reader reads, nested at most `n` deep. -/
structure Nested (n : ℕ) (d : Doc) : Prop where
  numerals : d.Numerals Readable
  depth_le : d.depth ≤ n
  names : d.Names Undotted

lemma Nested.legible {n : ℕ} {d : Doc} (h : Nested n d) (hn : n ≤ mgJsonMaxDepth) : Legible d :=
  ⟨h.numerals, h.depth_le.trans hn, h.names⟩

lemma Nested.mono {n m : ℕ} {d : Doc} (h : Nested n d) (hle : n ≤ m) : Nested m d :=
  ⟨h.numerals, h.depth_le.trans hle, h.names⟩

/-- An object of such documents. -/
lemma nested_obj {n : ℕ} {gap : Blank} {fields : List (String × Doc)}
    (hnames : ∀ f ∈ fields, plainName f.1 = true) (h : ∀ f ∈ fields, Nested n f.2) :
    Nested (n + 1) (.obj [] (.ofList gap [] fields)) where
  numerals := Members.numerals_ofList fun f hf => (h f hf).numerals
  depth_le := Nat.succ_le_succ (Members.depth_ofList_le fun f hf => (h f hf).depth_le)
  names := by
    refine Members.names_ofList (fun f hf => (pathName_of_plainName (hnames f hf)).2)
      (fun f hf => ?_) fun f hf => (h f hf).names
    have hname := (pathName_of_plainName (hnames f hf)).1
    exact ⟨hname.noDot, hname.noIndex⟩

/-- An array of such documents. -/
lemma nested_arr {n : ℕ} {xs : List Doc} (h : ∀ x ∈ xs, Nested n x) :
    Nested (n + 1) (.arr [] (.ofList xs)) where
  numerals := Items.numerals_ofList fun x hx => (h x hx).numerals
  depth_le := Nat.succ_le_succ (Items.depth_ofList_le fun x hx => (h x hx).depth_le)
  names := Items.names_ofList fun x hx => (h x hx).names

/-- A number without an exponent is read. -/
lemma readable_of_none {n : Numeral} (h : n.exponent = none) : Readable n := by
  intro e he
  rw [h] at he
  cases he

/-- A printable value is such a document. -/
lemma FieldValue.nested {v : FieldValue} (h : v.Printable) : Nested 0 v.doc := by
  cases v with
  | int n => exact ⟨readable_of_none rfl, Nat.le_refl 0, trivial⟩
  | ms us => exact ⟨readable_of_none rfl, Nat.le_refl 0, trivial⟩
  | fixed p x =>
      obtain ⟨q, rfl⟩ := h
      exact ⟨readable_of_none rfl, Nat.le_refl 0, trivial⟩
  | general x =>
      obtain ⟨q, rfl, hq⟩ := h
      refine ⟨fun e he => ?_, Nat.le_refl 0, trivial⟩
      exact (Numeral.exponent_general hq e he).trans_lt (by decide)
  | text s => exact ⟨trivial, Nat.le_refl 0, trivial⟩
  | null => exact ⟨trivial, Nat.le_refl 0, trivial⟩

/-- The fields of a report as members of an object. -/
def fieldDocs (fields : List (String × FieldValue)) : List (String × Doc) :=
  fields.map fun f => (f.1, f.2.doc)

lemma plainNames_fieldDocs {fields : List (String × FieldValue)}
    (h : ∀ f ∈ fields, plainName f.1 = true) : PlainNames (fieldDocs fields) := by
  intro f hf
  obtain ⟨g, hg, rfl⟩ := List.mem_map.mp hf
  exact (pathName_of_plainName (h g hg)).2

/-- What is under a name among them. -/
lemma lookup_fieldDocs (fields : List (String × FieldValue)) (name : String) :
    (fieldDocs fields).lookup name = (fields.lookup name).map FieldValue.doc := by
  induction fields with
  | nil => rfl
  | cons f fields ih =>
      obtain ⟨name', v⟩ := f
      rw [fieldDocs, List.map_cons, List.lookup_cons, List.lookup_cons, ← fieldDocs, ih]
      cases name == name' <;> rfl

/-- An object with a string and an object. -/
lemma text_typed (typeName type dataName : List Piece) (ms : Members) :
    (Doc.obj [] (.cons [] typeName [] [] (.str type) []
      (.cons space dataName [] [] (.obj [] ms) [] .nil))).text =
        '\x7b' :: '"' :: (piecesText typeName ++ ('"' :: ':' :: '"' :: (piecesText type ++
          ('"' :: ',' :: ' ' :: '"' :: (piecesText dataName ++ ('"' :: ':' :: '\x7b' ::
            (ms.text ++ ['\x7d', '\x7d']))))))) := by
  simp [Doc.text, Members.text, Members.comma, quoted, Blank.text, space]

/-! ## Reading a value -/

/-- The path of a field in the data of a frame. -/
def fieldPath (name : String) : List Char := "$.data.".toList ++ name.toList

/-- The path of a field, as a path of names. -/
lemma fieldPath_eq (name : String) : fieldPath name = pathOf ["data".toList, name.toList] :=
  (pathOf_pair "data".toList name.toList).symm

lemma pathName_field {name : String} (h : PathName name.toList) :
    ∀ k ∈ ["data".toList, name.toList], PathName k := by
  intro k hk
  rcases List.mem_pair.mp hk with rfl | rfl
  · exact ⟨by decide, by decide, by decide, by decide⟩
  · exact h

/-- **The reader finds a printable value** where the document has it. -/
theorem FieldValue.readAt {d : Doc} {keys : List (List Char)} {v : FieldValue} (hd : Legible d)
    (hkeys : ∀ k ∈ keys, PathName k) (hv : v.Printable) (hat : d.at keys = some v.doc) :
    v.ReadAt (docText [] [] d) (pathOf keys) := by
  have hnumber := mgJsonGetNum_at [] [] hd hkeys
  have hstring := mgJsonGetStr_at [] [] hd hkeys
  rw [hat] at hnumber hstring
  cases v with
  | int n =>
      refine hnumber.trans ?_
      show some (intNumeral n).value = _
      rw [value_intNumeral]
  | ms us =>
      refine hnumber.trans ?_
      show some (Numeral.fixed 3 ((us : ℚ) / 1000)).value = _
      rw [@Numeral.fixed_value 3 _ us (by norm_num)]
  | fixed p x =>
      obtain ⟨q, rfl⟩ := hv
      exact ⟨q, rfl, _, hnumber, Numeral.abs_fixed_sub_le p q⟩
  | general x =>
      obtain ⟨q, rfl, -⟩ := hv
      refine ⟨q, rfl, _, hnumber, ?_⟩
      have hround := Numeral.abs_general_sub_le 2 q
      norm_num at hround
      exact hround
  | text s => exact hstring.trans (mgJsonUnescape_piecesOf hv)
  | null => exact ⟨hnumber, hstring⟩

end Orchestrator
