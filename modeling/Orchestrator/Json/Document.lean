import Orchestrator.Json.Token
import Mathlib.Algebra.Field.Rat
import Mathlib.Data.Fintype.Basic
import Mathlib.Tactic.Ring

/-!
# JSON documents with their layout

A JSON text as a syntax tree that keeps what the value forgets: white space, the spelling of numbers
and the escapes in strings.  Every tree has a text, and the texts of the trees are the texts of the
grammar.

* `Doc.text` — the text of a document.
* `Doc.depth` — how deep its brackets are nested.
* `Numeral.value` — the number a numeral stands for.
-/

namespace Json

/-! ## White space -/

/-- Some white space. -/
abbrev Blank := List {c : Char // isSpace c = true}

/-- The text of white space. -/
def Blank.text (b : Blank) : List Char := b.map Subtype.val

/-- One space. -/
def space : Blank := [⟨' ', rfl⟩]

/-! ## Numbers -/

/-- The text of some digits. -/
def digitsText (ds : List (Fin 10)) : List Char := ds.map fun d => Nat.digitChar d.val

/-- The number some digits stand for. -/
def digitsValue (ds : List (Fin 10)) : ℕ := ds.foldl (fun n d => 10 * n + d.val) 0

/-- The value of digits after others. -/
lemma digitsValue_append (n : ℕ) (ds : List (Fin 10)) :
    ds.foldl (fun n d => 10 * n + d.val) n = n * 10 ^ ds.length + digitsValue ds := by
  induction ds generalizing n with
  | nil => simp [digitsValue]
  | cons d ds ih =>
      have hvalue : digitsValue (d :: ds) = (10 * 0 + d.val) * 10 ^ ds.length + digitsValue ds :=
        ih _
      rw [List.foldl_cons, ih, hvalue, List.length_cons]
      ring

/-- The value of digits, from the first digit. -/
lemma digitsValue_cons (d : Fin 10) (ds : List (Fin 10)) :
    digitsValue (d :: ds) = d * 10 ^ ds.length + digitsValue ds := by
  rw [digitsValue, List.foldl_cons, digitsValue_append]
  ring

/-- The sign of an exponent, which may be left out. -/
inductive ExponentSign
  | none
  | plus
  | minus
  deriving DecidableEq

/-- The text of a sign. -/
def ExponentSign.text : ExponentSign → List Char
  | .none => []
  | .plus => ['+']
  | .minus => ['-']

/-- An exponent: a small or capital letter, a sign, and at least one digit. -/
structure Exponent where
  capital : Bool
  sign : ExponentSign
  first : Fin 10
  rest : List (Fin 10)

/-- The digits of an exponent. -/
def Exponent.digits (e : Exponent) : List (Fin 10) := e.first :: e.rest

/-- The text of an exponent. -/
def Exponent.text (e : Exponent) : List Char :=
  (if e.capital then 'E' else 'e') :: (e.sign.text ++ digitsText e.digits)

/-- The integer an exponent stands for. -/
def Exponent.value (e : Exponent) : Int :=
  if e.sign = .minus then -(digitsValue e.digits : Int) else digitsValue e.digits

/-- A number as it is written.  Without digits in `fraction` there is no decimal point. -/
structure Numeral where
  negative : Bool
  whole : ℕ
  fraction : List (Fin 10) := []
  exponent : Option Exponent := none

/-- The text of the decimal point and the digits after it. -/
def fractionText (ds : List (Fin 10)) : List Char := if ds = [] then [] else '.' :: digitsText ds

/-- The text of an exponent that may be left out. -/
def exponentText (e : Option Exponent) : List Char := (e.map Exponent.text).getD []

/-- The text of a number. -/
def Numeral.text (n : Numeral) : List Char :=
  (if n.negative then ['-'] else []) ++
    (Nat.toDigits 10 n.whole ++ (fractionText n.fraction ++ exponentText n.exponent))

/-- The number itself. -/
def Numeral.value (n : Numeral) : ℚ :=
  (if n.negative then -1 else 1) *
    ((n.whole + digitsValue n.fraction / 10 ^ n.fraction.length) *
      10 ^ ((n.exponent.map Exponent.value).getD 0))

/-! ## Strings -/

/-- The character after a backslash, other than `u`. -/
def isEscape (c : Char) : Bool :=
  c = '"' || c = '\\' || c = '/' || c = 'b' || c = 'f' || c = 'n' || c = 'r' || c = 't'

/-- A hexadecimal digit. -/
def isHex (c : Char) : Bool :=
  c.isDigit || ('a' ≤ c && c ≤ 'f') || ('A' ≤ c && c ≤ 'F')

/-- A piece of a string: a character that stands for itself, or an escape. -/
inductive Piece
  | plain (c : {c : Char // isPlain c = true})
  | escape (c : {c : Char // isEscape c = true})
  | unicode (c₁ c₂ c₃ c₄ : {c : Char // isHex c = true})

/-- The text of a piece. -/
def Piece.text : Piece → List Char
  | .plain c => [c.val]
  | .escape c => ['\\', c.val]
  | .unicode c₁ c₂ c₃ c₄ => ['\\', 'u', c₁.val, c₂.val, c₃.val, c₄.val]

/-- The text between the quotes. -/
def piecesText (s : List Piece) : List Char := s.flatMap Piece.text

/-- A string with its quotes. -/
def quoted (s : List Piece) : List Char := '"' :: (piecesText s ++ ['"'])

/-- The value of a hexadecimal digit. -/
def hexValue (c : Char) : ℕ :=
  if c.isDigit then c.toNat - 48 else if 'a' ≤ c then c.toNat - 87 else c.toNat - 55

/-- The code point of an escape with four digits. -/
def codePoint (c₁ c₂ c₃ c₄ : Char) : ℕ :=
  ((hexValue c₁ * 16 + hexValue c₂) * 16 + hexValue c₃) * 16 + hexValue c₄

/-- The character after a backslash as it is meant. -/
def escaped : Char → Char
  | 'b' => '\x08'
  | 'f' => '\x0c'
  | 'n' => '\n'
  | 'r' => '\r'
  | 't' => '\t'
  | c => c

/-- The character a piece stands for. -/
def Piece.char : Piece → Char
  | .plain c => c.val
  | .escape c => escaped c.val
  | .unicode c₁ c₂ c₃ c₄ => Char.ofNat (codePoint c₁.val c₂.val c₃.val c₄.val)

/-! ## Documents -/

mutual

/-- A value with its layout. -/
inductive Doc
  | null
  | bool (b : Bool)
  | num (n : Numeral)
  | str (s : List Piece)
  /-- the elements of an array, after white space -/
  | arr (b : Blank) (xs : Items)
  /-- the members of an object, after white space -/
  | obj (b : Blank) (ms : Members)

/-- The elements of an array, each with the white space around it. -/
inductive Items
  | nil
  | cons (before : Blank) (x : Doc) (after : Blank) (xs : Items)

/-- The members of an object, with the white space before the name, around the colon and after the
value. -/
inductive Members
  | nil
  | cons (before : Blank) (name : List Piece) (afterName beforeValue : Blank) (x : Doc)
      (after : Blank) (ms : Members)

end

/-- The comma before further elements. -/
def Items.comma : Items → List Char
  | .nil => []
  | .cons .. => [',']

/-- The comma before further members. -/
def Members.comma : Members → List Char
  | .nil => []
  | .cons .. => [',']

mutual

/-- The text of a document. -/
def Doc.text : Doc → List Char
  | .null => ['n', 'u', 'l', 'l']
  | .bool true => ['t', 'r', 'u', 'e']
  | .bool false => ['f', 'a', 'l', 's', 'e']
  | .num n => n.text
  | .str s => quoted s
  | .arr b xs => '[' :: (b.text ++ (xs.text ++ [']']))
  | .obj b ms => '\x7b' :: (b.text ++ (ms.text ++ ['\x7d']))

/-- The text of the elements of an array, with commas between them. -/
def Items.text : Items → List Char
  | .nil => []
  | .cons before x after xs => before.text ++ (x.text ++ (after.text ++ (xs.comma ++ xs.text)))

/-- The text of the members of an object, with commas between them. -/
def Members.text : Members → List Char
  | .nil => []
  | .cons before name afterName beforeValue x after ms =>
      before.text ++ (quoted name ++ (afterName.text ++ (':' :: (beforeValue.text ++
        (x.text ++ (after.text ++ (ms.comma ++ ms.text)))))))

end

mutual

/-- How deep the brackets of a document are nested. -/
def Doc.depth : Doc → ℕ
  | .arr _ xs => xs.depth + 1
  | .obj _ ms => ms.depth + 1
  | _ => 0

/-- The greatest depth of the elements. -/
def Items.depth : Items → ℕ
  | .nil => 0
  | .cons _ x _ xs => max x.depth xs.depth

/-- The greatest depth of the members. -/
def Members.depth : Members → ℕ
  | .nil => 0
  | .cons _ _ _ _ x _ ms => max x.depth ms.depth

end

mutual

/-- Every number of the document satisfies `P`. -/
def Doc.Numerals (P : Numeral → Prop) : Doc → Prop
  | .num n => P n
  | .arr _ xs => xs.Numerals P
  | .obj _ ms => ms.Numerals P
  | _ => True

/-- Every number of the elements satisfies `P`. -/
def Items.Numerals (P : Numeral → Prop) : Items → Prop
  | .nil => True
  | .cons _ x _ xs => x.Numerals P ∧ xs.Numerals P

/-- Every number of the members satisfies `P`. -/
def Members.Numerals (P : Numeral → Prop) : Members → Prop
  | .nil => True
  | .cons _ _ _ _ x _ ms => x.Numerals P ∧ ms.Numerals P

end

mutual

/-- Every name of a member in the document satisfies `P`. -/
def Doc.Names (P : List Char → Prop) : Doc → Prop
  | .arr _ xs => xs.Names P
  | .obj _ ms => ms.Names P
  | _ => True

/-- Every name in the elements satisfies `P`. -/
def Items.Names (P : List Char → Prop) : Items → Prop
  | .nil => True
  | .cons _ x _ xs => x.Names P ∧ xs.Names P

/-- Every name in the members, their own included, satisfies `P`. -/
def Members.Names (P : List Char → Prop) : Members → Prop
  | .nil => True
  | .cons _ name _ _ x _ ms => P (piecesText name) ∧ x.Names P ∧ ms.Names P

end

/-! ## Parts of a document -/

/-- The value of the first member whose name is written `k`. -/
def Members.find (k : List Char) : Members → Option Doc
  | .nil => none
  | .cons _ name _ _ x _ ms => if piecesText name = k then some x else ms.find k

/-- What is under a path of names. -/
def Doc.at : List (List Char) → Doc → Option Doc
  | [], d => some d
  | k :: ks, .obj _ ms => (ms.find k).bind (Doc.at ks)
  | _ :: _, _ => none

/-- The number a document is. -/
def Doc.number : Doc → Option ℚ
  | .num n => some n.value
  | _ => none

/-- The truth value a document is. -/
def Doc.boolean : Doc → Option Bool
  | .bool b => some b
  | _ => none

/-- The string a document is, as it is written. -/
def Doc.string : Doc → Option (List Piece)
  | .str s => some s
  | _ => none

/-- A part of the members has numbers of theirs. -/
lemma Members.numerals_find {P : Numeral → Prop} {k : List Char} {x : Doc} :
    ∀ {ms : Members}, ms.Numerals P → ms.find k = some x → x.Numerals P
  | .nil, _, hx => by cases hx
  | .cons before name afterName beforeValue y after ms, h, hx => by
      rw [Members.find] at hx
      split at hx
      · exact Option.some.inj hx ▸ h.1
      · exact numerals_find h.2 hx

/-- So has a part of a document. -/
lemma Doc.numerals_at {P : Numeral → Prop} {keys : List (List Char)} {d x : Doc}
    (h : d.Numerals P) (hx : d.at keys = some x) : x.Numerals P := by
  induction keys generalizing d with
  | nil => exact Option.some.inj hx ▸ h
  | cons k ks ih =>
      cases d with
      | obj b ms =>
          obtain ⟨y, hy, hyx⟩ := Option.bind_eq_some_iff.mp hx
          exact ih (Members.numerals_find h hy) hyx
      | _ => cases hx

end Json
