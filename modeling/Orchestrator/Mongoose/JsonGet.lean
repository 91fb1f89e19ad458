import Orchestrator.Json.Token
import Orchestrator.Printing.Buffer
import Mathlib.Algebra.Field.Rat

/-!
# The JSON reader of mongoose

`mg_json_get` and the accessors over it, from `external/mongoose.c`.  A text is the characters of
`json.buf`, and a path is a C string without its terminator; texts are shorter than `INT_MAX`.

* `mgJsonGet` — the offset and the length of the value under a path.
* `mgJsonGetNum`, `mgJsonGetBool`, `mgJsonGetStr` — the value itself, in exact arithmetic.
-/

namespace Orchestrator

open Json Printing

/-! ## Strings -/

/-- `escapeseq`. -/
def escapeseq (esc : Bool) : List Char :=
  if esc then ['\x08', '\x0c', '\n', '\r', '\t', '\\', '"']
  else ['b', 'f', 'n', 'r', 't', '\\', '"']

/-- `json_esc`, whose result 0 is `none`. -/
def jsonEsc (c : Char) (esc : Bool) : Option Char :=
  ((escapeseq esc).zip (escapeseq !esc)).lookup c

/-- `mg_pass_string`: the length of a string up to its closing quote. -/
def mgPassString : List Char → Option ℕ
  | [] => none
  | [c] => if c = nul then none else if c = '"' then some 0 else none
  | c :: e :: s =>
      if c = '\\' ∧ (jsonEsc e true).isSome then (mgPassString s).map (· + 2)
      else if c = nul then none
      else if c = '"' then some 0
      else (mgPassString (e :: s)).map (· + 1)

/-! ## Numbers -/

/-- The digit `c - '0'`. -/
def digitOf (c : Char) : ℕ := c.toNat - '0'.toNat

/-- The loop over the digits before the decimal point, and what is left of the text. -/
def decimalLoop : List Char → ℚ → ℚ × List Char
  | [], d => (d, [])
  | c :: p, d => if c.isDigit then decimalLoop p (d * 10 + digitOf c) else (d, c :: p)

/-- The loop over the digits after the decimal point. -/
def fractionLoop : List Char → (frac base : ℚ) → ℚ × List Char
  | [], frac, _ => (frac, [])
  | c :: p, frac, base =>
      if c.isDigit then fractionLoop p (frac + base * digitOf c) (base / 10) else (frac, c :: p)

/-- The loop over the digits of the exponent, which stops at a large one. -/
def exponentLoop : List Char → (exp : ℕ) → ℕ × List Char
  | [], exp => (exp, [])
  | c :: p, exp =>
      if c.isDigit ∧ exp < 308 then exponentLoop p (exp * 10 + digitOf c) else (exp, c :: p)

/-- The sign of a number, and the text after it. -/
def atodSign : List Char → ℚ × List Char
  | '-' :: p => (-1, p)
  | '+' :: p => (1, p)
  | p => (1, p)

/-- The decimal point and the digits after it. -/
def atodFraction (sign d : ℚ) : List Char → ℚ × List Char
  | '.' :: p =>
      let (frac, p) := fractionLoop p 0 (1 / 10)
      (d + frac * sign, p)
  | p => (d, p)

/-- A minus sign that may be missing. -/
def atodMinus : List Char → Bool × List Char
  | '-' :: p => (true, p)
  | p => (false, p)

/-- A plus sign that may be missing. -/
def atodPlus : List Char → List Char
  | '+' :: p => p
  | p => p

/-- The exponent. -/
def atodExponent (d : ℚ) : List Char → ℚ × List Char
  | [] => (d, [])
  | c :: p =>
      if c = 'e' ∨ c = 'E' then
        let (minus, p) := atodMinus p
        let (exp, p) := exponentLoop (atodPlus p) 0
        (if minus then d / 10 ^ exp else d * 10 ^ exp, p)
      else (d, c :: p)

/-- `mg_atod`: the number at the front of a text, and `numlen`.  The code computes in `double`,
which rounds, underflows to 0 and overflows to infinity; the number here is exact. -/
def mgAtod (p : List Char) : ℚ × ℕ :=
  let (sign, p₁) := atodSign p
  let (d, p₂) := decimalLoop p₁ 0
  let (d, p₃) := atodFraction sign (d * sign) p₂
  let (d, p₄) := atodExponent d p₃
  (d, p.length - p₄.length)

/-! ## The state of the reader -/

/-- `expecting`. -/
inductive JsonExpecting
  | value
  | key
  | colon
  | commaOrEoo
  deriving DecidableEq

/-- `MG_JSON_MAX_DEPTH`. -/
def mgJsonMaxDepth : ℕ := 30

/-- The locals of `mg_json_get` that last from one character to the next.  `nesting` has the open
brackets, the innermost first. -/
structure JsonCursor where
  expecting : JsonExpecting := .value
  nesting : List Char := []
  j : ℕ := 0
  ed : ℕ := 0
  pos : ℕ := 1
  ci : Int := -1
  ei : Int := -1

/-- `depth`. -/
def JsonCursor.depth (st : JsonCursor) : ℕ := st.nesting.length

/-- The result: an offset with `toklen`, or one of the negative codes. -/
inductive JsonResult
  | found (offset toklen : ℕ)
  | tooDeep
  | invalid
  | notFound
  deriving DecidableEq

/-- `path[pos]`. -/
def pathAt (path : List Char) (pos : ℕ) : Char := path.getD pos nul

/-- `MG_CHECKRET`. -/
def mgCheckret (path : List Char) (i : ℕ) (st : JsonCursor) : Except JsonResult JsonCursor :=
  if st.depth = st.ed ∧ pathAt path st.pos = nul ∧ st.ci = st.ei then
    .error (.found st.j (i - st.j + 1))
  else .ok st

/-- `MG_EOO`. -/
def mgEoo (path : List Char) (i : ℕ) (c : Char) (st : JsonCursor) :
    Except JsonResult JsonCursor :=
  if st.depth = st.ed ∧ st.ci ≠ st.ei then .error .notFound
  else if st.nesting.head?.map (fun o => o.toNat + 2) ≠ some c.toNat then .error .invalid
  else mgCheckret path i { st with nesting := st.nesting.tail }

/-- The next index of an array is expected, in the array the path is about. -/
def JsonCursor.countIndex (st : JsonCursor) : JsonCursor :=
  { st with ci := if st.depth = st.ed ∧ 0 ≤ st.ei then st.ci + 1 else st.ci }

/-- The end of a value at offset `i`. -/
def endValue (path : List Char) (i : ℕ) (st : JsonCursor) : Except JsonResult JsonCursor :=
  (mgCheckret path i st).map fun st => { st.countIndex with expecting := .commaOrEoo }

/-! ## The cases of the loop -/

/-- An object begins. -/
def openObject (path : List Char) (st : JsonCursor) : JsonCursor :=
  let st := if st.depth = st.ed ∧ pathAt path st.pos = '.' ∧ st.ci = st.ei then
      { st with ed := st.ed + 1, pos := st.pos + 1, ci := -1, ei := -1 }
    else st
  { st with nesting := '\x7b' :: st.nesting, expecting := .key }

/-- The index in the path, and how many characters it takes. -/
def readIndex : List Char → (ei : Int) → (n : ℕ) → Int × ℕ
  | [], ei, n => (ei, n)
  | c :: p, ei, n =>
      if c = ']' then (ei, n) else readIndex p (ei * 10 + (c.toNat - '0'.toNat : Int)) (n + 1)

/-- An array begins. -/
def openArray (path : List Char) (st : JsonCursor) : JsonCursor :=
  let st := if st.depth = st.ed ∧ pathAt path st.pos = '[' ∧ st.ei = st.ci then
      let (ei, n) := readIndex (path.drop (st.pos + 1)) 0 0
      let pos := st.pos + 1 + n
      { st with
        ed := st.ed + 1
        pos := if pathAt path pos ≠ nul then pos + 1 else pos
        ci := 0
        ei := ei }
    else st
  { st with nesting := '[' :: st.nesting }

/-- `j = i`, where the path is about the values at this depth. -/
def JsonCursor.mark (st : JsonCursor) (i : ℕ) : JsonCursor :=
  if st.depth = st.ed then { st with j := i } else st

/-- The case `S_VALUE` for the character `c` at offset `i` with the text `rest` after it: how many
characters of `rest` it passes, and the new state. -/
def mgValue (path : List Char) (i : ℕ) (c : Char) (rest : List Char) (st : JsonCursor) :
    Except JsonResult (ℕ × JsonCursor) :=
  let st := st.mark i
  if c = '\x7b' then
    if mgJsonMaxDepth ≤ st.depth then .error .tooDeep else .ok (0, openObject path st)
  else if c = '[' then
    if mgJsonMaxDepth ≤ st.depth then .error .tooDeep else .ok (0, openArray path st)
  else if c = ']' ∧ 0 < st.depth then
    ((mgEoo path i c st).bind (endValue path i)).map (0, ·)
  else if ['t', 'r', 'u', 'e'] <+: c :: rest then (endValue path (i + 3) st).map (3, ·)
  else if ['n', 'u', 'l', 'l'] <+: c :: rest then (endValue path (i + 3) st).map (3, ·)
  else if ['f', 'a', 'l', 's', 'e'] <+: c :: rest then (endValue path (i + 4) st).map (4, ·)
  else if c = '-' ∨ c.isDigit then
    let numlen := (mgAtod (c :: rest)).2
    (endValue path (i + (numlen - 1)) st).map (numlen - 1, ·)
  else if c = '"' then
    match mgPassString rest with
    | none => .error .invalid
    | some n => (endValue path (i + (n + 1)) st).map (n + 1, ·)
  else .error .invalid

/-- The name of `n` characters at the front of `rest` is the next one in the path. -/
def IsNext (path rest : List Char) (n : ℕ) (st : JsonCursor) : Prop :=
  st.depth = st.ed ∧ pathAt path (st.pos - 1) = '.' ∧ rest.take n <+: path.drop st.pos ∧
    (pathAt path (st.pos + n) = nul ∨ pathAt path (st.pos + n) = '.' ∨
      pathAt path (st.pos + n) = '[')

instance (path rest : List Char) (n : ℕ) (st : JsonCursor) : Decidable (IsNext path rest n st) :=
  inferInstanceAs (Decidable (_ ∧ _))

/-- The case `S_KEY`. -/
def mgKey (path : List Char) (i : ℕ) (c : Char) (rest : List Char) (st : JsonCursor) :
    Except JsonResult (ℕ × JsonCursor) :=
  if c = '"' then
    match mgPassString rest with
    | none => .error .invalid
    | some n =>
        if rest.length ≤ n then .error .notFound
        else if st.depth < st.ed then .error .notFound
        else if st.depth = st.ed ∧ pathAt path (st.pos - 1) ≠ '.' then .error .notFound
        else
          .ok (n + 1,
            { st with
              pos := if IsNext path rest n st then st.pos + n else st.pos
              expecting := .colon })
  else if c = '\x7d' then
    (mgEoo path i c st).map fun st => (0, { st.countIndex with expecting := .commaOrEoo })
  else .error .invalid

/-- The case `S_COLON`. -/
def mgColon (c : Char) (st : JsonCursor) : Except JsonResult (ℕ × JsonCursor) :=
  if c = ':' then .ok (0, { st with expecting := .value }) else .error .invalid

/-- The case `S_COMMA_OR_EOO`. -/
def mgCommaOrEoo (path : List Char) (i : ℕ) (c : Char) (st : JsonCursor) :
    Except JsonResult (ℕ × JsonCursor) :=
  if st.depth = 0 then .error .invalid
  else if c = ',' then
    .ok (0, { st with expecting := if st.nesting.head? = some '\x7b' then .key else .value })
  else if c = ']' ∨ c = '\x7d' then
    if st.depth = st.ed ∧ c = '\x7d' ∧ pathAt path (st.pos - 1) = '.' then .error .notFound
    else if st.depth = st.ed ∧ c = ']' ∧ pathAt path (st.pos - 1) = ',' then .error .notFound
    else (mgEoo path i c st).map fun st => (0, st.countIndex)
  else .error .invalid

/-- A character that is not white space. -/
def mgCase (path : List Char) (i : ℕ) (c : Char) (rest : List Char) (st : JsonCursor) :
    Except JsonResult (ℕ × JsonCursor) :=
  match st.expecting with
  | .value => mgValue path i c rest st
  | .key => mgKey path i c rest st
  | .colon => mgColon c st
  | .commaOrEoo => mgCommaOrEoo path i c st

/-! ## The reader -/

/-- The loop, from offset `i` on, after `skip` more characters. -/
def mgJsonLoop (path : List Char) : (i : ℕ) → List Char → (skip : ℕ) → JsonCursor → JsonResult
  | _, [], _, _ => .notFound
  | i, _ :: rest, skip + 1, st => mgJsonLoop path (i + 1) rest skip st
  | i, c :: rest, 0, st =>
      if isSpace c then mgJsonLoop path (i + 1) rest 0 st
      else
        match mgCase path i c rest st with
        | .error r => r
        | .ok (skip, st) => mgJsonLoop path (i + 1) rest skip st

/-- `mg_json_get`. -/
def mgJsonGet (json path : List Char) : JsonResult :=
  if path.head? = some '$' then mgJsonLoop path 0 json 0 {} else .invalid

/-! ## The accessors -/

/-- `mg_json_get_num`. -/
def mgJsonGetNum (json path : List Char) : Option ℚ :=
  match mgJsonGet json path with
  | .found n toklen =>
      if json.getD n nul = '-' ∨ (json.getD n nul).isDigit then
        some (mgAtod ((json.drop n).take toklen)).1
      else none
  | _ => none

/-- `mg_json_get_bool`. -/
def mgJsonGetBool (json path : List Char) : Option Bool :=
  match mgJsonGet json path with
  | .found off _ =>
      if json.getD off nul = 't' then some true
      else if json.getD off nul = 'f' then some false
      else none
  | _ => none

/-- The hexadecimal digit `c`. -/
def hexDigitOf (c : Char) : Option ℕ :=
  if c.isDigit then some (c.toNat - '0'.toNat)
  else if 'A' ≤ c ∧ c ≤ 'F' then some (c.toNat - '7'.toNat)
  else if 'a' ≤ c ∧ c ≤ 'f' then some (c.toNat - 'W'.toNat)
  else none

/-- `mg_str_to_num` in base 16 for a value of one byte. -/
def mgStrToByte : List Char → (result : ℕ) → Option ℕ
  | [], result => some result
  | c :: s, result => do
      let digit ← hexDigitOf c
      if 255 / 16 < result then none
      else if 255 - digit < result * 16 then none
      else mgStrToByte s (result * 16 + digit)

/-- `mg_json_unescape` into a buffer that is longer than the text. -/
def mgJsonUnescape : List Char → Option (List Char)
  | [] => some []
  | '\\' :: 'u' :: c₁ :: c₂ :: c₃ :: c₄ :: s => do
      let n ← mgStrToByte [c₁, c₂, c₃, c₄] 0
      (mgJsonUnescape s).map (Char.ofNat n :: ·)
  | '\\' :: e :: s => do
      let c ← jsonEsc e false
      (mgJsonUnescape s).map (c :: ·)
  | c :: s => (mgJsonUnescape s).map (c :: ·)

/-- `mg_json_get_str`: the characters before the terminator that is written last. -/
def mgJsonGetStr (json path : List Char) : Option (List Char) :=
  match mgJsonGet json path with
  | .found off len =>
      if 1 < len ∧ json.getD off nul = '"' then
        mgJsonUnescape ((json.drop (off + 1)).take (len - 2))
      else none
  | _ => none

end Orchestrator
