import Orchestrator.Mongoose.Lexemes

/-!
# The reader over a document

What the loop of `mg_json_get` does over the text of a document: it goes through the document in
step with the grammar, and comes to the end of its value.

* `mgValue_scalar` — one turn of the loop passes a value without brackets.
* `Doc.read` — the loop comes to the end of a document the path does not lead into.
-/

namespace Orchestrator

open Json Printing

variable {path : List Char} {st : JsonCursor} {i : ℕ}

/-! ## One turn -/

/-- The loop after a turn that ended before `rest`. -/
def goOn (path : List Char) (i : ℕ) (rest : List Char) : Except JsonResult JsonCursor → JsonResult
  | .error r => r
  | .ok st => mgJsonLoop path i rest 0 st

@[simp] lemma goOn_ok (rest : List Char) :
    goOn path i rest (.ok st) = mgJsonLoop path i rest 0 st := rfl

@[simp] lemma goOn_error (rest : List Char) (r : JsonResult) :
    goOn path i rest (.error r) = r := rfl

lemma mgJsonLoop_skip (cs rest : List Char) (i : ℕ) (st : JsonCursor) :
    mgJsonLoop path i (cs ++ rest) cs.length st = mgJsonLoop path (i + cs.length) rest 0 st := by
  induction cs generalizing i with
  | nil => rfl
  | cons c cs ih =>
      rw [List.cons_append, List.length_cons, mgJsonLoop, ih]
      congr 1
      omega

/-- White space is passed. -/
lemma mgJsonLoop_blank (b : Blank) (rest : List Char) (i : ℕ) (st : JsonCursor) :
    mgJsonLoop path i (b.text ++ rest) 0 st =
      mgJsonLoop path (i + b.text.length) rest 0 st := by
  induction b generalizing i with
  | nil => rfl
  | cons c b ih =>
      have htext : Blank.text (c :: b) = c.val :: Blank.text b := rfl
      rw [htext, List.cons_append, mgJsonLoop, if_pos c.property, ih, List.length_cons]
      congr 1
      omega

/-- A turn that passes the first character and `cs`. -/
lemma mgJsonLoop_turn {c : Char} {cs rest : List Char} (hc : isSpace c = false)
    {r : Except JsonResult JsonCursor}
    (hcase : mgCase path i c (cs ++ rest) st = r.map (cs.length, ·)) :
    mgJsonLoop path i (c :: cs ++ rest) 0 st = goOn path (i + (c :: cs).length) rest r := by
  rw [List.cons_append, mgJsonLoop, if_neg (by simp [hc]), hcase]
  cases r with
  | error r => rfl
  | ok st =>
      show mgJsonLoop path (i + 1) (cs ++ rest) cs.length st = _
      rw [mgJsonLoop_skip, goOn_ok, List.length_cons]
      congr 1
      omega

/-- A turn that passes one character. -/
lemma mgJsonLoop_one {c : Char} {rest : List Char} (hc : isSpace c = false)
    {r : Except JsonResult JsonCursor} (hcase : mgCase path i c rest st = r.map (0, ·)) :
    mgJsonLoop path i (c :: rest) 0 st = goOn path (i + 1) rest r :=
  @mgJsonLoop_turn path st i c [] rest hc r hcase

/-! ## Values without brackets -/

/-- The document has no brackets of its own. -/
def Scalar : Doc → Prop
  | .arr _ _ | .obj _ _ => False
  | _ => True

/-- A digit or a minus sign is none of the characters that the reader asks for first. -/
lemma number_first {c : Char} (h : c = '-' ∨ c.isDigit = true) :
    isSpace c = false ∧ c ≠ '\x7b' ∧ c ≠ '[' ∧ c ≠ ']' ∧ c ≠ 't' ∧ c ≠ 'n' ∧ c ≠ 'f' := by
  have hnot : ∀ d : Char, d ≠ '-' → d.isDigit = false → c ≠ d := by
    rintro d hminus hdigit rfl
    rcases h with rfl | h
    · exact hminus rfl
    · rw [hdigit] at h
      exact Bool.noConfusion h
  refine ⟨?_, hnot _ (by decide) rfl, hnot _ (by decide) rfl, hnot _ (by decide) rfl,
    hnot _ (by decide) rfl, hnot _ (by decide) rfl, hnot _ (by decide) rfl⟩
  simp [isSpace, hnot ' ' (by decide) rfl, hnot '\t' (by decide) rfl, hnot '\n' (by decide) rfl,
    hnot '\r' (by decide) rfl]

/-- The text of a number begins with a digit or a minus sign. -/
lemma numeral_text (n : Numeral) :
    ∃ c cs, n.text = c :: cs ∧ (c = '-' ∨ c.isDigit = true) := by
  obtain ⟨c, cs, hcs⟩ := List.exists_cons_of_ne_nil
    (Nat.toDigits_ne_nil : Nat.toDigits 10 n.whole ≠ [])
  have hdigit : c.isDigit = true :=
    isDigit_of_mem_toDigits (n := n.whole) (by rw [hcs]; exact List.mem_cons_self)
  cases hneg : n.negative with
  | true => exact ⟨'-', _, by rw [Numeral.text, hneg]; rfl, .inl rfl⟩
  | false => exact ⟨c, _, by rw [Numeral.text, hneg, hcs]; rfl, .inr hdigit⟩

/-- **A value without brackets is passed in one turn.** -/
theorem mgValue_scalar {d : Doc} (hscalar : Scalar d) (hd : d.Numerals Readable) :
    ∃ c cs, d.text = c :: cs ∧ isSpace c = false ∧ ∀ rest, Delimited rest →
      mgValue path i c (cs ++ rest) st =
        (endValue path (i + cs.length) (st.mark i)).map (cs.length, ·) := by
  cases d with
  | null => exact ⟨'n', ['u', 'l', 'l'], rfl, rfl, fun rest _ => by simp [mgValue]⟩
  | bool b =>
      cases b with
      | true => exact ⟨'t', ['r', 'u', 'e'], rfl, rfl, fun rest _ => by simp [mgValue]⟩
      | false => exact ⟨'f', ['a', 'l', 's', 'e'], rfl, rfl, fun rest _ => by simp [mgValue]⟩
  | num n =>
      obtain ⟨c, cs, hcs, hc⟩ := numeral_text n
      obtain ⟨hspace, hbrace, hopen, hclose, ht, hn, hf⟩ := number_first hc
      refine ⟨c, cs, hcs, hspace, fun rest hrest => ?_⟩
      have hread := mgAtod_numeral hd hrest
      rw [hcs, List.cons_append] at hread
      simp [mgValue, hbrace, hopen, hclose, ht.symm, hn.symm, hf.symm, hc, hread]
  | str s =>
      refine ⟨'"', piecesText s ++ ['"'], rfl, rfl, fun rest _ => ?_⟩
      have hpass := mgPassString_pieces s rest
      simp [mgValue, hpass]
  | arr b xs => exact hscalar.elim
  | obj b ms => exact hscalar.elim

/-! ## States inside a document -/

namespace JsonCursor

/-- The state when something else is expected. -/
def expect (st : JsonCursor) (e : JsonExpecting) : JsonCursor := { st with expecting := e }

/-- The state after an opening bracket that is not on the path. -/
def push (st : JsonCursor) (c : Char) : JsonCursor := { st with nesting := c :: st.nesting }

@[simp] lemma expect_expect (st : JsonCursor) (e e' : JsonExpecting) :
    (st.expect e).expect e' = st.expect e' := rfl

@[simp] lemma expecting_expect (st : JsonCursor) (e : JsonExpecting) :
    (st.expect e).expecting = e := rfl

@[simp] lemma depth_expect (st : JsonCursor) (e : JsonExpecting) :
    (st.expect e).depth = st.depth := rfl

@[simp] lemma depth_push (st : JsonCursor) (c : Char) : (st.push c).depth = st.depth + 1 := rfl

@[simp] lemma ed_push (st : JsonCursor) (c : Char) : (st.push c).ed = st.ed := rfl

@[simp] lemma depth_mark (st : JsonCursor) (i : ℕ) : (st.mark i).depth = st.depth := by
  unfold mark
  split <;> rfl

@[simp] lemma ed_mark (st : JsonCursor) (i : ℕ) : (st.mark i).ed = st.ed := by
  unfold mark
  split <;> rfl

@[simp] lemma pos_mark (st : JsonCursor) (i : ℕ) : (st.mark i).pos = st.pos := by
  unfold mark
  split <;> rfl

lemma mark_expect (st : JsonCursor) (e : JsonExpecting) (i : ℕ) :
    (st.expect e).mark i = (st.mark i).expect e := by
  by_cases h : st.depth = st.ed
  · rw [mark, if_pos (show (st.expect e).depth = (st.expect e).ed from h), mark, if_pos h]
    rfl
  · rw [mark, if_neg (show ¬(st.expect e).depth = (st.expect e).ed from h), mark, if_neg h]

/-- Deeper than the path, nothing is marked. -/
lemma mark_of_lt {st : JsonCursor} (h : st.ed < st.depth) (i : ℕ) : st.mark i = st := by
  rw [mark, if_neg (by omega)]

end JsonCursor

open JsonCursor

/-- Deeper than the path, a value ends without a result. -/
lemma endValue_of_lt (h : st.ed < st.depth) : endValue path i st = .ok (st.expect .commaOrEoo) := by
  have hne : st.depth ≠ st.ed := by omega
  rw [endValue, mgCheckret, if_neg (fun hall => hne hall.1)]
  simp [Except.map, countIndex, hne, expect]

/-- What is expected makes no difference to `MG_CHECKRET`. -/
lemma mgCheckret_expect (e : JsonExpecting) :
    mgCheckret path i (st.expect e) = (mgCheckret path i st).map (expect · e) := by
  by_cases h : st.depth = st.ed ∧ pathAt path st.pos = nul ∧ st.ci = st.ei
  · have hexpect : (st.expect e).depth = (st.expect e).ed ∧
        pathAt path (st.expect e).pos = nul ∧ (st.expect e).ci = (st.expect e).ei := h
    rw [mgCheckret, if_pos hexpect, mgCheckret, if_pos h]
    rfl
  · have hexpect : ¬((st.expect e).depth = (st.expect e).ed ∧
        pathAt path (st.expect e).pos = nul ∧ (st.expect e).ci = (st.expect e).ei) := h
    rw [mgCheckret, if_neg hexpect, mgCheckret, if_neg h]
    rfl

lemma endValue_expect (e : JsonExpecting) :
    endValue path i (st.expect e) = endValue path i st := by
  rw [endValue, mgCheckret_expect, endValue]
  cases mgCheckret path i st <;> rfl

/-- `MG_CHECKRET` a second time is the same. -/
lemma mgCheckret_bind_endValue :
    (mgCheckret path i st).bind (endValue path i) = endValue path i st := by
  by_cases h : st.depth = st.ed ∧ pathAt path st.pos = nul ∧ st.ci = st.ei
  · rw [endValue, mgCheckret, if_pos h]
    rfl
  · rw [mgCheckret, if_neg h]
    rfl

/-- The innermost bracket is closed. -/
lemma mgEoo_push {o c : Char} (hclose : o.toNat + 2 = c.toNat) (hed : st.ed ≤ st.depth) :
    mgEoo path i c (st.push o) = mgCheckret path i st := by
  have hdepth : ¬((st.push o).depth = (st.push o).ed ∧ (st.push o).ci ≠ (st.push o).ei) := by
    simp
    omega
  have hhead : ¬((st.push o).nesting.head?.map (fun o => o.toNat + 2) ≠ some c.toNat) := by
    simp [push, hclose]
  rw [mgEoo, if_neg hdepth, if_neg hhead]
  rfl

/-- **A closing bracket ends the value** that its opening bracket began. -/
theorem mgCase_close {o c : Char} {e : JsonExpecting}
    (hcase : o = '[' ∧ c = ']' ∧ (e = .value ∨ e = .commaOrEoo) ∨
      o = '\x7b' ∧ c = '\x7d' ∧ (e = .key ∨ e = .commaOrEoo))
    (hed : st.ed ≤ st.depth) (rest : List Char) :
    mgCase path i c rest ((st.push o).expect e) = (endValue path i st).map (0, ·) := by
  have hclose : o.toNat + 2 = c.toNat := by
    rcases hcase with ⟨rfl, rfl, -⟩ | ⟨rfl, rfl, -⟩ <;> rfl
  have heoo : ∀ e, mgEoo path i c ((st.push o).expect e) =
      (mgCheckret path i st).map (expect · e) := fun e => by
    rw [← mgCheckret_expect]
    have hpush : mgEoo path i c ((st.expect e).push o) = mgCheckret path i (st.expect e) :=
      mgEoo_push hclose hed
    exact hpush
  have hend : ∀ e, (mgEoo path i c ((st.push o).expect e)).map
      (fun st' => (0, { st'.countIndex with expecting := .commaOrEoo })) =
        (endValue path i st).map (0, ·) := fun e => by
    rw [heoo, endValue]
    cases mgCheckret path i st <;> rfl
  have hkey : ¬(st.depth + 1 = st.ed) := by omega
  have hcomma : mgCase path i c rest ((st.push o).expect .commaOrEoo) =
      (endValue path i st).map (0, ·) := by
    have hbracket : c ≠ ',' ∧ (c = ']' ∨ c = '\x7d') := by
      rcases hcase with ⟨-, rfl, -⟩ | ⟨-, rfl, -⟩ <;> decide
    have hne : ((st.push o).expect .commaOrEoo).depth ≠ 0 := Nat.succ_ne_zero _
    show mgCommaOrEoo path i c ((st.push o).expect .commaOrEoo) = _
    rw [mgCommaOrEoo, if_neg hne, if_neg hbracket.1, if_pos hbracket.2,
      if_neg (fun hall => hkey hall.1), if_neg (fun hall => hkey hall.1), heoo, endValue]
    cases mgCheckret path i st <;> rfl
  rcases hcase with ⟨rfl, rfl, rfl | rfl⟩ | ⟨rfl, rfl, rfl | rfl⟩
  · have hmark : ((st.push '[').expect .value).mark i = (st.push '[').expect .value :=
      mark_of_lt (show st.ed < st.depth + 1 by omega) i
    show mgValue path i ']' rest ((st.push '[').expect .value) = _
    rw [mgValue, hmark]
    simp only [show (']' : Char) ≠ '\x7b' by decide, show (']' : Char) ≠ '[' by decide, if_false,
      depth_expect, depth_push, true_and, Nat.succ_pos, if_true]
    rw [heoo]
    congr 1
    rw [← endValue_expect .value, ← mgCheckret_bind_endValue, mgCheckret_expect]
  · exact hcomma
  · show mgKey path i '\x7d' rest ((st.push '\x7b').expect .key) = _
    rw [mgKey, if_neg (by decide), if_pos rfl, hend]
  · exact hcomma

/-! ## The turns between values -/

/-- The name of a member is passed, and compared with the path where the path is about it. -/
lemma mgCase_name (name : List Piece) (hed : st.ed ≤ st.depth)
    (hdot : st.depth = st.ed → pathAt path (st.pos - 1) = '.') (rest : List Char) :
    mgCase path i '"' (piecesText name ++ ['"'] ++ rest) (st.expect .key) =
      (Except.ok
        { st with
          pos := if IsNext path (piecesText name ++ '"' :: rest) (piecesText name).length st then
            st.pos + (piecesText name).length else st.pos
          expecting := .colon }).map ((piecesText name ++ ['"']).length, ·) := by
  have hpass := mgPassString_pieces name rest
  have hlong : ¬(piecesText name ++ '"' :: rest).length ≤ (piecesText name).length := by
    simp
  have hdepth : ¬(st.expect .key).depth < (st.expect .key).ed := Nat.not_lt.mpr hed
  have hlevel : ¬((st.expect .key).depth = (st.expect .key).ed ∧
      pathAt path ((st.expect .key).pos - 1) ≠ '.') := fun hall => hall.2 (hdot hall.1)
  rw [List.append_assoc, List.singleton_append]
  show mgKey path i '"' (piecesText name ++ '"' :: rest) (st.expect .key) = _
  rw [mgKey, if_pos rfl, hpass]
  dsimp only
  rw [if_neg hlong, if_neg hdepth, if_neg hlevel, List.length_append]
  rfl

/-- So is the colon. -/
lemma mgCase_colon (rest : List Char) :
    mgCase path i ':' rest (st.expect .colon) = (Except.ok (st.expect .value)).map (0, ·) := rfl

/-- After a comma there is another element or another member. -/
lemma mgCase_comma {o : Char} (ho : st.nesting.head? = some o) (rest : List Char) :
    mgCase path i ',' rest (st.expect .commaOrEoo) =
      (Except.ok (st.expect (if o = '\x7b' then .key else .value))).map (0, ·) := by
  have hne : (st.expect .commaOrEoo).depth ≠ 0 := by
    intro hzero
    rw [List.eq_nil_of_length_eq_zero (show st.nesting.length = 0 from hzero)] at ho
    cases ho
  have hhead : (st.expect .commaOrEoo).nesting.head? = some o := ho
  show mgCommaOrEoo path i ',' (st.expect .commaOrEoo) = _
  rw [mgCommaOrEoo, if_neg hne, if_pos rfl, hhead]
  simp [expect, Except.map]

/-- An array begins that the path does not index. -/
lemma mgCase_bracket (hpath : st.depth = st.ed → pathAt path st.pos ≠ '[')
    (hdepth : st.depth < mgJsonMaxDepth) (rest : List Char) :
    mgCase path i '[' rest (st.expect .value) =
      (Except.ok (((st.mark i).push '[').expect .value)).map (0, ·) := by
  have hmax : ¬mgJsonMaxDepth ≤ ((st.mark i).expect .value).depth := by
    simpa using hdepth
  have hclosed : ¬(((st.mark i).expect .value).depth = ((st.mark i).expect .value).ed ∧
      pathAt path ((st.mark i).expect .value).pos = '[' ∧
        ((st.mark i).expect .value).ei = ((st.mark i).expect .value).ci) := by
    rintro ⟨hlevel, hbracket, -⟩
    rw [depth_expect, depth_mark] at hlevel
    exact hpath (hlevel.trans (ed_mark st i)) (by rw [← pos_mark st i]; exact hbracket)
  show mgValue path i '[' rest (st.expect .value) = _
  rw [mgValue, mark_expect]
  dsimp only
  rw [if_neg (by decide), if_pos rfl, if_neg hmax, openArray, if_neg hclosed]
  rfl

/-- An object begins that the path does not enter. -/
lemma mgCase_brace (hpath : st.depth = st.ed → pathAt path st.pos ≠ '.')
    (hdepth : st.depth < mgJsonMaxDepth) (rest : List Char) :
    mgCase path i '\x7b' rest (st.expect .value) =
      (Except.ok (((st.mark i).push '\x7b').expect .key)).map (0, ·) := by
  have hmax : ¬mgJsonMaxDepth ≤ ((st.mark i).expect .value).depth := by
    simpa using hdepth
  have hclosed : ¬(((st.mark i).expect .value).depth = ((st.mark i).expect .value).ed ∧
      pathAt path ((st.mark i).expect .value).pos = '.' ∧
        ((st.mark i).expect .value).ci = ((st.mark i).expect .value).ei) := by
    rintro ⟨hlevel, hdot, -⟩
    rw [depth_expect, depth_mark] at hlevel
    exact hpath (hlevel.trans (ed_mark st i)) (by rw [← pos_mark st i]; exact hdot)
  show mgValue path i '\x7b' rest (st.expect .value) = _
  rw [mgValue, mark_expect]
  dsimp only
  rw [if_pos rfl, if_neg hmax, openObject, if_neg hclosed]
  rfl

lemma delimited_blank (b : Blank) {rest : List Char} (h : Delimited rest) :
    Delimited (b.text ++ rest) := by
  cases b with
  | nil => exact h
  | cons c b =>
      rintro d hd
      obtain rfl : c.val = d := Option.some.inj hd
      exact .inl c.property

lemma delimited_cons {c : Char} (hc : c = ',' ∨ c = ']' ∨ c = '\x7d') (rest : List Char) :
    Delimited (c :: rest) := by
  rintro d hd
  obtain rfl : c = d := Option.some.inj hd
  exact .inr hc

/-- What follows an element. -/
lemma delimited_items (after : Blank) (xs : Items) {rest : List Char} (h : Delimited rest) :
    Delimited (after.text ++ (xs.comma ++ xs.text ++ rest)) := by
  refine delimited_blank after ?_
  cases xs with
  | nil => exact h
  | cons before x after' xs => exact delimited_cons (.inl rfl) _

/-- What follows a member. -/
lemma delimited_members (after : Blank) (ms : Members) {rest : List Char} (h : Delimited rest) :
    Delimited (after.text ++ (ms.comma ++ ms.text ++ rest)) := by
  refine delimited_blank after ?_
  cases ms with
  | nil => exact h
  | cons before name afterName beforeValue x after' ms => exact delimited_cons (.inl rfl) _

/-- What is expected after the elements of an array. -/
def afterItems : Items → JsonExpecting
  | .nil => .value
  | .cons .. => .commaOrEoo

/-- What is expected after the members of an object. -/
def afterMembers : Members → JsonExpecting
  | .nil => .key
  | .cons .. => .commaOrEoo

/-- A document has a text. -/
lemma text_length_pos (d : Doc) : 0 < d.text.length := by
  cases d with
  | bool b => cases b <;> simp [Doc.text]
  | num n =>
      obtain ⟨c, cs, hcs, -⟩ := numeral_text n
      simp [Doc.text, hcs]
  | _ => simp [Doc.text, quoted]

/-! ## Whole documents -/

/-- A document without brackets. -/
lemma read_scalar {d : Doc} (hscalar : Scalar d) (hd : d.Numerals Readable) {rest : List Char}
    (hrest : Delimited rest) :
    mgJsonLoop path i (d.text ++ rest) 0 (st.expect .value) =
      goOn path (i + d.text.length) rest
        (endValue path (i + (d.text.length - 1)) (st.mark i)) := by
  obtain ⟨c, cs, hcs, hspace, hvalue⟩ := @mgValue_scalar path (st.expect .value) i
    d hscalar hd
  have hcase : mgCase path i c (cs ++ rest) (st.expect .value) =
      (endValue path (i + cs.length) (st.mark i)).map (cs.length, ·) := by
    rw [← endValue_expect .value, ← mark_expect]
    exact hvalue rest hrest
  rw [hcs, mgJsonLoop_turn hspace hcase]
  rfl

mutual

/-- **The reader comes to the end of a document** that the path does not lead into. -/
theorem read_doc (d : Doc) (st : JsonCursor) (hd : d.Numerals Readable)
    (hed : st.ed ≤ st.depth) (hopen : st.depth = st.ed → pathAt path st.pos ≠ '[')
    (henter : st.depth = st.ed → pathAt path st.pos = '.' → ∀ b ms, d ≠ .obj b ms)
    (hdepth : d.depth + st.depth ≤ mgJsonMaxDepth) (i : ℕ) {rest : List Char}
    (hrest : Delimited rest) :
    mgJsonLoop path i (d.text ++ rest) 0 (st.expect .value) =
      goOn path (i + d.text.length) rest
        (endValue path (i + (d.text.length - 1)) (st.mark i)) := by
  cases d with
  | arr b xs =>
      have hlt : st.depth < mgJsonMaxDepth := by
        rw [Doc.depth] at hdepth
        omega
      have hitems := read_items xs ((st.mark i).push '[') hd
        (by rw [ed_push, ed_mark, depth_push, depth_mark]; omega) rfl
        (by rw [depth_push, depth_mark]; rw [Doc.depth] at hdepth; omega) (i + 1 + b.text.length)
        (delimited_cons (c := ']') (by decide) rest)
      have hclose := @mgCase_close path (st.mark i) (i + 1 + b.text.length + xs.text.length)
        '[' ']' (afterItems xs)
        (.inl ⟨rfl, rfl, by cases xs <;> simp [afterItems]⟩) (by simpa using hed) rest
      have htext : (Doc.arr b xs).text ++ rest =
          '[' :: (b.text ++ (xs.text ++ (']' :: rest))) := by
        simp [Doc.text]
      have hlen : (Doc.arr b xs).text.length = b.text.length + xs.text.length + 2 := by
        simp [Doc.text]
        omega
      have hnext : i + (b.text.length + xs.text.length + 2) =
          i + 1 + b.text.length + xs.text.length + 1 := by omega
      have hend : i + (b.text.length + xs.text.length + 2 - 1) =
          i + 1 + b.text.length + xs.text.length := by omega
      rw [htext, hlen, mgJsonLoop_one rfl (mgCase_bracket hopen hlt _), goOn_ok,
        mgJsonLoop_blank, hitems, mgJsonLoop_one rfl hclose, hnext, hend]
  | obj b ms =>
      have hlt : st.depth < mgJsonMaxDepth := by
        rw [Doc.depth] at hdepth
        omega
      have hdot : st.depth = st.ed → pathAt path st.pos ≠ '.' :=
        fun hlevel hpath => henter hlevel hpath b ms rfl
      have hmembers := read_members ms ((st.mark i).push '\x7b') hd
        (by rw [ed_push, ed_mark, depth_push, depth_mark]; omega) rfl
        (by rw [depth_push, depth_mark]; rw [Doc.depth] at hdepth; omega) (i + 1 + b.text.length)
        (delimited_cons (c := '\x7d') (by decide) rest)
      have hclose := @mgCase_close path (st.mark i) (i + 1 + b.text.length + ms.text.length)
        '\x7b' '\x7d' (afterMembers ms)
        (.inr ⟨rfl, rfl, by cases ms <;> simp [afterMembers]⟩) (by simpa using hed) rest
      have htext : (Doc.obj b ms).text ++ rest =
          '\x7b' :: (b.text ++ (ms.text ++ ('\x7d' :: rest))) := by
        simp [Doc.text]
      have hlen : (Doc.obj b ms).text.length = b.text.length + ms.text.length + 2 := by
        simp [Doc.text]
        omega
      have hnext : i + (b.text.length + ms.text.length + 2) =
          i + 1 + b.text.length + ms.text.length + 1 := by omega
      have hend : i + (b.text.length + ms.text.length + 2 - 1) =
          i + 1 + b.text.length + ms.text.length := by omega
      rw [htext, hlen, mgJsonLoop_one rfl (mgCase_brace hdot hlt _), goOn_ok,
        mgJsonLoop_blank, hmembers, mgJsonLoop_one rfl hclose, hnext, hend]
  | null => exact read_scalar (d := .null) trivial hd hrest
  | bool b => exact read_scalar (d := .bool b) trivial hd hrest
  | num n => exact read_scalar (d := .num n) trivial hd hrest
  | str s => exact read_scalar (d := .str s) trivial hd hrest

/-- It passes the elements of an array deeper than the path. -/
theorem read_items (xs : Items) (st : JsonCursor) (hxs : xs.Numerals Readable)
    (hed : st.ed < st.depth) (hhead : st.nesting.head? = some '[')
    (hdepth : xs.depth + st.depth ≤ mgJsonMaxDepth) (i : ℕ) {rest : List Char}
    (hrest : Delimited rest) :
    mgJsonLoop path i (xs.text ++ rest) 0 (st.expect .value) =
      mgJsonLoop path (i + xs.text.length) rest 0 (st.expect (afterItems xs)) := by
  cases xs with
  | nil => rfl
  | cons before x after xs =>
      rw [Items.depth] at hdepth
      have hdoc := read_doc x st hxs.1 hed.le (fun h => absurd h (by omega))
        (fun h => absurd h (by omega)) (by omega) (i + before.text.length)
        (delimited_items after xs hrest)
      rw [mark_of_lt hed, endValue_of_lt hed, goOn_ok] at hdoc
      have htext : (Items.cons before x after xs).text ++ rest = before.text ++ (x.text ++
          (after.text ++ (xs.comma ++ xs.text ++ rest))) := by
        simp [Items.text]
      rw [htext, mgJsonLoop_blank, hdoc, mgJsonLoop_blank]
      cases xs with
      | nil =>
          congr 1
          simp [Items.text, Items.comma]
          omega
      | cons before' x' after' xs =>
          have hlater := read_items (.cons before' x' after' xs) st hxs.2 hed hhead (by omega)
            (i + before.text.length + x.text.length + after.text.length + 1) hrest
          show mgJsonLoop path _ (',' :: ((Items.cons before' x' after' xs).text ++ rest)) 0 _ = _
          rw [mgJsonLoop_one rfl (mgCase_comma hhead _), goOn_ok, if_neg (by decide), hlater]
          congr 1
          simp [Items.text, Items.comma]
          omega

/-- It passes the members of an object deeper than the path. -/
theorem read_members (ms : Members) (st : JsonCursor) (hms : ms.Numerals Readable)
    (hed : st.ed < st.depth) (hhead : st.nesting.head? = some '\x7b')
    (hdepth : ms.depth + st.depth ≤ mgJsonMaxDepth) (i : ℕ) {rest : List Char}
    (hrest : Delimited rest) :
    mgJsonLoop path i (ms.text ++ rest) 0 (st.expect .key) =
      mgJsonLoop path (i + ms.text.length) rest 0 (st.expect (afterMembers ms)) := by
  cases ms with
  | nil => rfl
  | cons before name afterName beforeValue x after ms =>
      rw [Members.depth] at hdepth
      have hdoc := fun k => read_doc x st hms.1 hed.le (fun h => absurd h (by omega))
        (fun h => absurd h (by omega)) (by omega) k (delimited_members after ms hrest)
      simp only [mark_of_lt hed, endValue_of_lt hed, goOn_ok] at hdoc
      have htext : (Members.cons before name afterName beforeValue x after ms).text ++ rest =
          before.text ++ ('"' :: (piecesText name ++ ['"']) ++ (afterName.text ++
            (':' :: (beforeValue.text ++ (x.text ++
              (after.text ++ (ms.comma ++ ms.text ++ rest))))))) := by
        simp [Members.text, quoted]
      have hname := @mgCase_name path st (i + before.text.length) name hed.le
        (fun h => absurd h (by omega)) (afterName.text ++ (':' :: (beforeValue.text ++
          (x.text ++ (after.text ++ (ms.comma ++ ms.text ++ rest))))))
      have hnot : ∀ cs n, ¬IsNext path cs n st := fun cs n h => absurd h.1 (by omega)
      rw [if_neg (hnot _ _)] at hname
      rw [htext, mgJsonLoop_blank, mgJsonLoop_turn rfl hname, goOn_ok, mgJsonLoop_blank]
      show mgJsonLoop path _ _ 0 (st.expect .colon) = _
      rw [mgJsonLoop_one rfl (mgCase_colon _), goOn_ok, mgJsonLoop_blank, hdoc, mgJsonLoop_blank]
      cases ms with
      | nil =>
          congr 1
          simp [Members.text, Members.comma, quoted]
          omega
      | cons before' name' afterName' beforeValue' x' after' ms =>
          have hlater := fun k => read_members
            (.cons before' name' afterName' beforeValue' x' after' ms) st hms.2 hed hhead
            (by omega) k hrest
          show mgJsonLoop path _ (',' :: ((Members.cons before' name' afterName' beforeValue' x'
            after' ms).text ++ rest)) 0 _ = _
          rw [mgJsonLoop_one rfl (mgCase_comma hhead _), goOn_ok, if_pos rfl, hlater]
          congr 1
          simp [Members.text, Members.comma, quoted]
          omega

end

end Orchestrator
