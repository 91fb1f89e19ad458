import Orchestrator.Json.Token

/-!
# JSON values

The tokens of a value, and a parser that reads the value back.

* `Value.tokens` — the grammar: a text is well formed if its tokens are those of a value.
* `parse_tokens` — the parser gives that value.
* `decode_of_tokens` — so does decoding a text, whatever its white space.
-/

namespace Json

/-- A JSON value: a string, an integer, an array, or an object with its members in order. -/
inductive Value
  | str (s : List Char)
  | int (n : Int)
  | arr (xs : List Value)
  | obj (ms : List (List Char × Value))

/-! ## Parts of a value -/

/-- The member `k` of an object. -/
def Value.member (k : List Char) : Value → Option Value
  | .obj ms => ms.lookup k
  | _ => none

/-- The elements of an array. -/
def Value.elements : Value → Option (List Value)
  | .arr xs => some xs
  | _ => none

/-- The value of an integer. -/
def Value.integer : Value → Option Int
  | .int n => some n
  | _ => none

/-! ## Tokens of a value -/

mutual

/-- The tokens of a value. -/
def Value.tokens : Value → List Token
  | .str s => [.str s]
  | .int n => [.int n]
  | .arr xs => .lbracket :: (elementTokens xs ++ [.rbracket])
  | .obj ms => .lbrace :: (memberTokens ms ++ [.rbrace])

/-- The tokens of the elements of an array, separated by commas. -/
def elementTokens : List Value → List Token
  | [] => []
  | x :: xs => x.tokens ++ laterElementTokens xs

/-- The tokens of further elements, each after a comma. -/
def laterElementTokens : List Value → List Token
  | [] => []
  | x :: xs => .comma :: (x.tokens ++ laterElementTokens xs)

/-- The tokens of the members of an object, separated by commas. -/
def memberTokens : List (List Char × Value) → List Token
  | [] => []
  | (k, v) :: ms => .str k :: .colon :: (v.tokens ++ laterMemberTokens ms)

/-- The tokens of further members, each after a comma. -/
def laterMemberTokens : List (List Char × Value) → List Token
  | [] => []
  | (k, v) :: ms => .comma :: .str k :: .colon :: (v.tokens ++ laterMemberTokens ms)

end

/-! ## The parser -/

mutual

/-- A value at the front of the tokens, and what is left of them. -/
def parseValue : ℕ → List Token → Option (Value × List Token)
  | _ + 1, .str s :: ts => some (.str s, ts)
  | _ + 1, .int n :: ts => some (.int n, ts)
  | _ + 1, .lbracket :: .rbracket :: ts => some (.arr [], ts)
  | fuel + 1, .lbracket :: ts => do
      let (xs, ts) ← parseElements fuel ts
      some (.arr xs, ts)
  | _ + 1, .lbrace :: .rbrace :: ts => some (.obj [], ts)
  | fuel + 1, .lbrace :: ts => do
      let (ms, ts) ← parseMembers fuel ts
      some (.obj ms, ts)
  | _, _ => none

/-- The elements of an array up to its closing bracket. -/
def parseElements : ℕ → List Token → Option (List Value × List Token)
  | 0, _ => none
  | fuel + 1, ts => do
      let (x, ts) ← parseValue fuel ts
      match ts with
      | .comma :: ts => do
          let (xs, ts) ← parseElements fuel ts
          some (x :: xs, ts)
      | .rbracket :: ts => some ([x], ts)
      | _ => none

/-- The members of an object up to its closing brace. -/
def parseMembers : ℕ → List Token → Option (List (List Char × Value) × List Token)
  | fuel + 1, .str k :: .colon :: ts => do
      let (v, ts) ← parseValue fuel ts
      match ts with
      | .comma :: ts => do
          let (ms, ts) ← parseMembers fuel ts
          some ((k, v) :: ms, ts)
      | .rbrace :: ts => some ([(k, v)], ts)
      | _ => none
  | _, _ => none

end

/-- The value of a whole list of tokens. -/
def parse (ts : List Token) : Option Value :=
  match parseValue (2 * ts.length) ts with
  | some (v, []) => some v
  | _ => none

/-- The value of a text. -/
def decode (cs : List Char) : Option Value := (tokens? cs).bind parse

/-! ## The round trip -/

/-- No value begins with a closing bracket. -/
lemma tokens_append_ne (v : Value) (ts us : List Token) : v.tokens ++ ts ≠ .rbracket :: us := by
  cases v <;> simp [Value.tokens]

/-- An array that is not empty. -/
lemma parseValue_lbracket (fuel : ℕ) {ts : List Token} (h : ∀ us, ts ≠ .rbracket :: us) :
    parseValue (fuel + 1) (.lbracket :: ts) =
      (parseElements fuel ts).map fun r => (.arr r.1, r.2) := by
  rw [parseValue]
  · cases parseElements fuel ts <;> rfl
  · exact h

/-- An object that is not empty. -/
lemma parseValue_lbrace (fuel : ℕ) (k : List Char) (ts : List Token) :
    parseValue (fuel + 1) (.lbrace :: .str k :: ts) =
      (parseMembers fuel (.str k :: ts)).map fun r => (.obj r.1, r.2) := by
  rw [parseValue]
  · cases parseMembers fuel (.str k :: ts) <;> rfl
  · simp

lemma tokens_length_pos (v : Value) : 0 < v.tokens.length := by
  cases v <;> simp [Value.tokens]

mutual

/-- The parser reads a value from its tokens. -/
theorem parseValue_tokens : ∀ (v : Value) (rest : List Token) (fuel : ℕ),
    2 * v.tokens.length ≤ fuel + 1 →
    parseValue (fuel + 1) (v.tokens ++ rest) = some (v, rest)
  | .str s, rest, fuel, _ => by simp [Value.tokens, parseValue]
  | .int n, rest, fuel, _ => by simp [Value.tokens, parseValue]
  | .arr [], rest, fuel, _ => by simp [Value.tokens, elementTokens, parseValue]
  | .obj [], rest, fuel, _ => by simp [Value.tokens, memberTokens, parseValue]
  | .arr (x :: xs), rest, fuel, hfuel => by
      have helements := parseElements_tokens x xs rest fuel (by
        simp [Value.tokens] at hfuel
        omega)
      have hne : ∀ us, elementTokens (x :: xs) ++ .rbracket :: rest ≠ .rbracket :: us := by
        intro us
        rw [elementTokens, List.append_assoc]
        exact tokens_append_ne x _ us
      rw [Value.tokens, List.cons_append, List.append_assoc, List.singleton_append,
        parseValue_lbracket fuel hne, helements, Option.map_some]
  | .obj ((k, x) :: ms), rest, fuel, hfuel => by
      have hmembers := parseMembers_tokens k x ms rest fuel (by
        simp [Value.tokens] at hfuel
        omega)
      rw [memberTokens, List.cons_append] at hmembers
      rw [Value.tokens, memberTokens, List.cons_append, List.append_assoc, List.singleton_append,
        List.cons_append, parseValue_lbrace, hmembers, Option.map_some]
termination_by _ _ fuel => fuel + 1

/-- The parser reads the elements of an array. -/
theorem parseElements_tokens : ∀ (x : Value) (xs : List Value) (rest : List Token) (fuel : ℕ),
    2 * (elementTokens (x :: xs)).length + 1 ≤ fuel →
    parseElements fuel (elementTokens (x :: xs) ++ .rbracket :: rest) = some (x :: xs, rest)
  | x, xs, rest, 0, hfuel => by omega
  | x, xs, rest, 1, hfuel => by
      have := tokens_length_pos x
      simp only [elementTokens, List.length_append] at hfuel
      omega
  | x, [], rest, fuel + 2, hfuel => by
      have hx := parseValue_tokens x (.rbracket :: rest) fuel (by
        simp [elementTokens, laterElementTokens] at hfuel
        omega)
      rw [elementTokens, laterElementTokens, List.append_nil, parseElements, hx]
      rfl
  | x, y :: ys, rest, fuel + 2, hfuel => by
      simp only [elementTokens, laterElementTokens, List.length_append, List.length_cons] at hfuel
      have hx := parseValue_tokens x (.comma :: (elementTokens (y :: ys) ++ .rbracket :: rest))
        fuel (by omega)
      have hys := parseElements_tokens y ys rest (fuel + 1) (by
        simp only [elementTokens, List.length_append]
        omega)
      have hsplit : elementTokens (x :: y :: ys) ++ .rbracket :: rest =
          x.tokens ++ .comma :: (elementTokens (y :: ys) ++ .rbracket :: rest) := by
        simp [elementTokens, laterElementTokens]
      rw [hsplit, parseElements, hx]
      simp [hys]
termination_by _ _ _ fuel => fuel

/-- The parser reads the members of an object. -/
theorem parseMembers_tokens : ∀ (k : List Char) (x : Value) (ms : List (List Char × Value))
    (rest : List Token) (fuel : ℕ), 2 * (memberTokens ((k, x) :: ms)).length + 1 ≤ fuel →
    parseMembers fuel (memberTokens ((k, x) :: ms) ++ .rbrace :: rest) = some ((k, x) :: ms, rest)
  | k, x, ms, rest, 0, hfuel => by omega
  | k, x, ms, rest, 1, hfuel => by
      simp only [memberTokens, List.length_cons] at hfuel
      omega
  | k, x, [], rest, fuel + 2, hfuel => by
      have hx := parseValue_tokens x (.rbrace :: rest) fuel (by
        simp [memberTokens, laterMemberTokens] at hfuel
        omega)
      rw [memberTokens, laterMemberTokens, List.append_nil, List.cons_append, List.cons_append,
        parseMembers, hx]
      rfl
  | k, x, (l, y) :: ms, rest, fuel + 2, hfuel => by
      simp only [memberTokens, laterMemberTokens, List.length_append, List.length_cons] at hfuel
      have hx := parseValue_tokens x (.comma :: (memberTokens ((l, y) :: ms) ++ .rbrace :: rest))
        fuel (by omega)
      have hms := parseMembers_tokens l y ms rest (fuel + 1) (by
        simp only [memberTokens, List.length_append, List.length_cons]
        omega)
      have hsplit : memberTokens ((k, x) :: (l, y) :: ms) ++ .rbrace :: rest =
          .str k :: .colon ::
            (x.tokens ++ .comma :: (memberTokens ((l, y) :: ms) ++ .rbrace :: rest)) := by
        simp [memberTokens, laterMemberTokens]
      rw [hsplit, parseMembers, hx]
      simp [hms]
termination_by _ _ _ _ fuel => fuel

end

/-- **The parser gives the value** whose tokens it reads. -/
theorem parse_tokens (v : Value) : parse v.tokens = some v := by
  have hpos := tokens_length_pos v
  have h := parseValue_tokens v [] (2 * v.tokens.length - 1) (by omega)
  rw [List.append_nil, Nat.sub_add_cancel (by omega)] at h
  rw [parse, h]

/-- **Decoding a well-formed text** gives its value. -/
theorem decode_of_tokens {cs : List Char} {v : Value} (h : tokens? cs = some v.tokens) :
    decode cs = some v := by
  rw [decode, h, Option.bind_some, parse_tokens]

end Json
