import Orchestrator.Mongoose.Documents

/-!
# What the reader finds

`mg_json_get` looks for a path like `$.config.jobCount`.  In each object the first member whose name
goes on with the path decides: the reader never comes back to look at a later one.

* `Doc.locate` — what is under a path, and where it begins.
* `locate_doc` — the reader finds just that.
* `mgJsonGet_document` — so does `mg_json_get` on the text of a document.
-/

namespace Json

open Printing

/-- The path after the name `k`, if the path `q` goes on with it. -/
def nextName (k q : List Char) : Option (List Char) :=
  if k <+: q ∧ ((q.drop k.length).headD nul = nul ∨ (q.drop k.length).headD nul = '.' ∨
      (q.drop k.length).headD nul = '[') then
    some (q.drop k.length)
  else none

mutual

/-- What is under the path `q`, with its offset in the text. -/
def Doc.locate : Doc → List Char → Option (ℕ × Doc)
  | d, [] => some (0, d)
  | .obj b ms, '.' :: q => (ms.locate q).map fun r => (1 + b.text.length + r.1, r.2)
  | _, _ => none

/-- What is under a path that begins with a name.  The first member with that name decides. -/
def Members.locate : Members → List Char → Option (ℕ × Doc)
  | .nil, _ => none
  | .cons before name afterName beforeValue x after ms, q =>
      let start := before.text.length + (quoted name).length + afterName.text.length + 1 +
        beforeValue.text.length
      match nextName (piecesText name) q with
      | some q' => (x.locate q').map fun r => (start + r.1, r.2)
      | none =>
          (ms.locate q).map fun r => (start + x.text.length + after.text.length + 1 + r.1, r.2)

end

end Json

namespace Orchestrator

open Json Printing JsonCursor

variable {path p q : List Char} {e : Char} {st : JsonCursor} {i : ℕ}

/-! ## Paths -/

/-- A path without indices in which every dot is followed by a name. -/
structure PathTail (q : List Char) : Prop where
  noIndex : '[' ∉ q
  noNul : nul ∉ q
  names : ∀ p r, q = p ++ '.' :: r → ∃ c r', r = c :: r' ∧ c ≠ '.'

/-- So is what is left of it. -/
lemma PathTail.suffix {k : List Char} (h : PathTail (k ++ q)) : PathTail q where
  noIndex hmem := h.noIndex (List.mem_append_right k hmem)
  noNul hmem := h.noNul (List.mem_append_right k hmem)
  names p r heq := h.names (k ++ p) r (by rw [heq, List.append_assoc])

/-- The character of the path at `pos + n`. -/
lemma pathAt_append (p q : List Char) (n : ℕ) :
    pathAt (p ++ q) (p.length + n) = (q.drop n).headD nul := by
  rw [pathAt, List.getD_eq_getElem?_getD, List.getElem?_append_right (Nat.le_add_right _ _),
    Nat.add_sub_cancel_left, List.headD_eq_head?_getD, List.head?_drop]

/-- The state is about the rest `q` of the path, which it has read up to `e`. -/
structure AtPath (path p : List Char) (e : Char) (q : List Char) (st : JsonCursor) : Prop where
  path_eq : path = p ++ e :: q
  pos_eq : st.pos = p.length + 1

lemma AtPath.pathAt_pos (h : AtPath path p e q st) (n : ℕ) :
    pathAt path (st.pos + n) = (q.drop n).headD nul := by
  have hpath : path = (p ++ [e]) ++ q := by rw [h.path_eq, List.append_assoc]; rfl
  have hlen : st.pos + n = (p ++ [e]).length + n := by
    rw [h.pos_eq, List.length_append]
    rfl
  rw [hpath, hlen, pathAt_append]

lemma AtPath.pathAt_pred (h : AtPath path p e q st) : pathAt path (st.pos - 1) = e := by
  have hat := pathAt_append p (e :: q) 0
  rw [h.path_eq, h.pos_eq, Nat.add_sub_cancel]
  exact hat

lemma AtPath.drop (h : AtPath path p e q st) : path.drop st.pos = q := by
  rw [h.path_eq, h.pos_eq, ← List.drop_drop, List.drop_left]
  rfl

/-- The name of a member is the next one in the path. -/
lemma isNext_iff (h : AtPath path p '.' q st) (hlevel : st.depth = st.ed) (k r : List Char) :
    IsNext path (k ++ '"' :: r) k.length st ↔ nextName k q ≠ none := by
  have htake : (k ++ '"' :: r).take k.length = k := by simp
  have hat := h.pathAt_pos k.length
  unfold IsNext nextName
  rw [htake, h.drop, hat, h.pathAt_pred]
  split <;> simp_all

/-- A path that goes on with the name `k`. -/
lemma eq_append_of_nextName {k q' : List Char} (h : nextName k q = some q') :
    q = k ++ q' ∧ (q'.headD nul = nul ∨ q'.headD nul = '.' ∨ q'.headD nul = '[') := by
  unfold nextName at h
  split at h
  · next hnext =>
    obtain rfl := Option.some.inj h
    exact ⟨(List.prefix_iff_eq_append.mp hnext.1).symm, hnext.2⟩
  · cases h

/-- After a name of the path there is its end or a dot. -/
lemma next_of_pathTail {k q' : List Char} (hq : PathTail q) (h : nextName k q = some q') :
    q = k ++ q' ∧ (q' = [] ∨ ∃ r, q' = '.' :: r) := by
  obtain ⟨heq, hhead⟩ := eq_append_of_nextName h
  refine ⟨heq, ?_⟩
  cases q' with
  | nil => exact .inl rfl
  | cons c r =>
      refine .inr ⟨r, ?_⟩
      have hmem : c ∈ q := by
        rw [heq]
        simp
      rcases hhead with h | h | h
      · rw [show c = nul from h] at hmem
        exact absurd hmem hq.noNul
      · rw [show c = '.' from h]
      · rw [show c = '[' from h] at hmem
        exact absurd hmem hq.noIndex

/-- A name of the path is not empty and does not end with a dot. -/
lemma name_of_nextName {k q' : List Char} (hq : PathTail q) {c : Char} {r : List Char}
    (hfirst : q = c :: r) (hc : c ≠ '.') (h : nextName k q = some q') :
    ∃ k' e', k = k' ++ [e'] ∧ e' ≠ '.' := by
  obtain ⟨heq, hnext⟩ := next_of_pathTail hq h
  have hne : k ≠ [] := by
    rintro rfl
    rw [List.nil_append] at heq
    rcases hnext with rfl | ⟨r', rfl⟩
    · rw [heq] at hfirst
      cases hfirst
    · rw [heq] at hfirst
      exact hc (List.cons.inj hfirst).1.symm
  refine ⟨k.dropLast, k.getLast hne, (List.dropLast_append_getLast hne).symm, ?_⟩
  intro hdot
  have hsplit : q = k.dropLast ++ '.' :: q' := by
    rw [heq, ← List.dropLast_append_getLast hne, hdot]
    simp
  obtain ⟨d, r', hr, hd⟩ := hq.names _ _ hsplit
  rcases hnext with rfl | ⟨r'', rfl⟩
  · cases hr
  · exact hd (List.cons.inj hr).1.symm

/-! ## The end of the search -/

/-- The rest of a document in which `n` objects are open, after a value. -/
inductive Tail : ℕ → List Char → Prop
  | done (b : Blank) : Tail 0 b.text
  | close (b : Blank) {n : ℕ} {rest : List Char} (h : Tail n rest) :
      Tail (n + 1) (b.text ++ '\x7d' :: rest)
  | more (b b' : Blank) (name : List Piece) (n : ℕ) (rest : List Char) :
      Tail (n + 1) (b.text ++ ',' :: (b'.text ++ (quoted name ++ rest)))

lemma Tail.delimited {n : ℕ} {rest : List Char} (h : Tail n rest) : Delimited rest := by
  cases h with
  | done b =>
      have hnil : Delimited [] := fun c hc => by cases hc
      rw [← List.append_nil b.text]
      exact delimited_blank b hnil
  | close b h => exact delimited_blank b (delimited_cons (by decide) _)
  | more b b' name n rest => exact delimited_blank b (delimited_cons (by decide) _)

/-- The state as the search sees it: only objects are open, and there is no index. -/
structure InObjects (n : ℕ) (st : JsonCursor) : Prop where
  nesting : st.nesting = List.replicate n '\x7b'
  ci : st.ci = -1
  ei : st.ei = -1

lemma InObjects.depth {n : ℕ} (h : InObjects n st) : st.depth = n := by
  rw [JsonCursor.depth, h.nesting, List.length_replicate]

/-- The state after a closing brace. -/
def JsonCursor.pop (st : JsonCursor) : JsonCursor := { st with nesting := st.nesting.tail }

lemma InObjects.pop {n : ℕ} (h : InObjects (n + 1) st) : InObjects n st.pop where
  nesting := by
    show st.nesting.tail = _
    rw [h.nesting, List.replicate_succ, List.tail_cons]
  ci := h.ci
  ei := h.ei

/-- An object on the path or around it is closed. -/
lemma mgEoo_pop {n : ℕ} (h : InObjects (n + 1) st) (hle : n + 1 ≤ st.ed) :
    mgEoo path i '\x7d' st = .ok st.pop := by
  have hindex : ¬(st.depth = st.ed ∧ st.ci ≠ st.ei) := fun hall => hall.2 (by rw [h.ci, h.ei])
  have hhead : ¬(st.nesting.head?.map (fun o => o.toNat + 2) ≠ some '\x7d'.toNat) := by
    rw [h.nesting]
    simp [List.replicate_succ]
  have hdepth : ¬(st.pop.depth = st.pop.ed ∧ pathAt path st.pop.pos = nul ∧
      st.pop.ci = st.pop.ei) := by
    rintro ⟨hlevel, -⟩
    rw [h.pop.depth] at hlevel
    have : st.pop.ed = st.ed := rfl
    omega
  rw [mgEoo, if_neg hindex, if_neg hhead]
  show mgCheckret path i st.pop = _
  rw [mgCheckret, if_neg hdepth]

/-- There is no index to count. -/
lemma countIndex_pop {n : ℕ} (h : InObjects n st) : st.countIndex = st := by
  have hei : ¬(st.depth = st.ed ∧ 0 ≤ st.ei) := by
    rw [h.ei]
    omega
  rw [countIndex, if_neg hei]

/-- A closing brace after a value, when the search is over. -/
lemma mgCase_pop {n : ℕ} (h : InObjects (n + 1) st) (hle : n + 1 ≤ st.ed)
    (hdot : n + 1 = st.ed → pathAt path (st.pos - 1) ≠ '.') (rest : List Char) :
    mgCase path i '\x7d' rest (st.expect .commaOrEoo) =
      (Except.ok (st.pop.expect .commaOrEoo)).map (0, ·) := by
  have hexpect : InObjects (n + 1) (st.expect .commaOrEoo) := ⟨h.nesting, h.ci, h.ei⟩
  have hne : (st.expect .commaOrEoo).depth ≠ 0 := by
    rw [hexpect.depth]
    omega
  have hleft : ¬((st.expect .commaOrEoo).depth = (st.expect .commaOrEoo).ed ∧
      ('\x7d' : Char) = '\x7d' ∧ pathAt path ((st.expect .commaOrEoo).pos - 1) = '.') := by
    rintro ⟨hlevel, -, hpath⟩
    rw [hexpect.depth] at hlevel
    exact hdot hlevel hpath
  show mgCommaOrEoo path i '\x7d' (st.expect .commaOrEoo) = _
  rw [mgCommaOrEoo, if_neg hne, if_neg (by decide), if_pos (by decide), if_neg hleft,
    if_neg (fun hall => absurd hall.2.1 (by decide)), mgEoo_pop hexpect hle]
  show Except.ok (0, (st.expect .commaOrEoo).pop.countIndex) = _
  rw [countIndex_pop hexpect.pop]
  rfl

/-- The brace that closes an object without members. -/
lemma mgCase_pop_empty {n : ℕ} (h : InObjects (n + 1) st) (hle : n + 1 ≤ st.ed)
    (rest : List Char) :
    mgCase path i '\x7d' rest (st.expect .key) =
      (Except.ok (st.pop.expect .commaOrEoo)).map (0, ·) := by
  have hexpect : InObjects (n + 1) (st.expect .key) := ⟨h.nesting, h.ci, h.ei⟩
  show mgKey path i '\x7d' rest (st.expect .key) = _
  rw [mgKey, if_neg (by decide), if_pos rfl, mgEoo_pop hexpect hle]
  show Except.ok (0, ((st.expect .key).pop.countIndex).expect .commaOrEoo) = _
  rw [countIndex_pop hexpect.pop]
  rfl

/-- The next name ends the search when it is over. -/
lemma mgCase_name_notFound (name : List Piece) (hle : st.depth ≤ st.ed)
    (hdot : st.depth = st.ed → pathAt path (st.pos - 1) ≠ '.') (rest : List Char) :
    mgCase path i '"' (piecesText name ++ '"' :: rest) (st.expect .key) = .error .notFound := by
  have hpass := mgPassString_pieces name rest
  have hlong : ¬(piecesText name ++ '"' :: rest).length ≤ (piecesText name).length := by
    simp
  show mgKey path i '"' (piecesText name ++ '"' :: rest) (st.expect .key) = _
  rw [mgKey, if_pos rfl, hpass]
  dsimp only
  rw [if_neg hlong]
  by_cases hlevel : st.depth = st.ed
  · have hover : (st.expect .key).depth = (st.expect .key).ed ∧
        pathAt path ((st.expect .key).pos - 1) ≠ '.' := ⟨hlevel, hdot hlevel⟩
    have hge : ¬(st.expect .key).depth < (st.expect .key).ed := Nat.not_lt.mpr hlevel.ge
    rw [if_neg hge, if_pos hover]
  · have hlt : (st.expect .key).depth < (st.expect .key).ed := Nat.lt_of_le_of_ne hle hlevel
    rw [if_pos hlt]

/-- **A search that is over finds nothing** in the rest of the document. -/
theorem search_over {n : ℕ} {rest : List Char} (h : Tail n rest) (hst : InObjects n st)
    (hle : n ≤ st.ed) (hdot : n = st.ed → pathAt path (st.pos - 1) ≠ '.') (i : ℕ) :
    mgJsonLoop path i rest 0 (st.expect .commaOrEoo) = .notFound := by
  induction h generalizing st i with
  | done b =>
      rw [← List.append_nil b.text, mgJsonLoop_blank]
      rfl
  | close b h ih =>
      rw [mgJsonLoop_blank, mgJsonLoop_one rfl (mgCase_pop hst hle hdot _), goOn_ok]
      refine ih hst.pop (by show _ ≤ st.ed; omega) (fun heq => ?_) _
      exact absurd (show _ = st.ed from heq) (by omega)
  | more b b' name n rest =>
      have hhead : st.nesting.head? = some '\x7b' := by
        rw [hst.nesting]
        rfl
      have hname := fun k => @mgCase_name_notFound path st k name
        (by rw [hst.depth]; exact hle) (fun hlevel => hdot (hst.depth ▸ hlevel)) rest
      rw [mgJsonLoop_blank, mgJsonLoop_one rfl (mgCase_comma hhead _), goOn_ok, if_pos rfl,
        mgJsonLoop_blank]
      have htext : quoted name ++ rest = '"' :: (piecesText name ++ '"' :: rest) := by
        simp [quoted]
      rw [htext, mgJsonLoop, if_neg (by decide), hname]

/-! ## The search -/

/-- The state inside an object on the path. -/
def JsonCursor.enter (st : JsonCursor) : JsonCursor :=
  { st with
    nesting := '\x7b' :: st.nesting, ed := st.ed + 1, pos := st.pos + 1, ci := -1, ei := -1 }

lemma InObjects.mark {n : ℕ} (h : InObjects n st) (i : ℕ) : InObjects n (st.mark i) := by
  unfold JsonCursor.mark
  split
  · exact ⟨h.nesting, h.ci, h.ei⟩
  · exact h

lemma InObjects.enter {n : ℕ} (h : InObjects n st) : InObjects (n + 1) st.enter where
  nesting := by
    show '\x7b' :: st.nesting = _
    rw [h.nesting, List.replicate_succ]
  ci := rfl
  ei := rfl

/-- The value under the path. -/
lemma endValue_found (hlevel : st.depth = st.ed) (hend : pathAt path st.pos = nul)
    (hindex : st.ci = st.ei) (k : ℕ) :
    endValue path k (st.mark i) = .error (.found i (k - i + 1)) := by
  have hmark : st.mark i = { st with j := i } := if_pos hlevel
  have hfound : (st.mark i).depth = (st.mark i).ed ∧ pathAt path (st.mark i).pos = nul ∧
      (st.mark i).ci = (st.mark i).ei := by
    rw [hmark]
    exact ⟨hlevel, hend, hindex⟩
  rw [endValue, mgCheckret, if_pos hfound, hmark]
  rfl

/-- Another value, at which the path does not end. -/
lemma endValue_on {n : ℕ} (h : InObjects n st) (hend : pathAt path st.pos ≠ nul) (k : ℕ) :
    endValue path k st = .ok (st.expect .commaOrEoo) := by
  rw [endValue, mgCheckret, if_neg (fun hall => hend hall.2.1)]
  show Except.ok (st.countIndex.expect .commaOrEoo) = _
  rw [countIndex_pop h]

/-- An object begins that the path enters. -/
lemma mgCase_enter {n : ℕ} (h : InObjects n st) (hlevel : st.ed = n)
    (hdot : pathAt path st.pos = '.') (hdepth : n < mgJsonMaxDepth) (rest : List Char) :
    mgCase path i '\x7b' rest (st.expect .value) =
      (Except.ok ((st.mark i).enter.expect .key)).map (0, ·) := by
  have hmark := h.mark i
  have hmax : ¬mgJsonMaxDepth ≤ ((st.mark i).expect .value).depth := by
    rw [depth_expect, hmark.depth]
    omega
  have hopen : ((st.mark i).expect .value).depth = ((st.mark i).expect .value).ed ∧
      pathAt path ((st.mark i).expect .value).pos = '.' ∧
        ((st.mark i).expect .value).ci = ((st.mark i).expect .value).ei := by
    refine ⟨?_, ?_, ?_⟩
    · show (st.mark i).depth = (st.mark i).ed
      rw [hmark.depth, ed_mark, hlevel]
    · show pathAt path (st.mark i).pos = '.'
      rw [pos_mark, hdot]
    · show (st.mark i).ci = (st.mark i).ei
      rw [hmark.ci, hmark.ei]
  show mgValue path i '\x7b' rest (st.expect .value) = _
  rw [mgValue, mark_expect]
  dsimp only
  rw [if_pos rfl, if_neg hmax, openObject, if_pos hopen]
  rfl

/-- The closing brace of an object on the path ends the search, after a member. -/
lemma mgCase_close_notFound {n : ℕ} (h : InObjects (n + 1) st) (hlevel : st.ed = n + 1)
    (hdot : pathAt path (st.pos - 1) = '.') (rest : List Char) :
    mgCase path i '\x7d' rest (st.expect .commaOrEoo) = .error .notFound := by
  have hne : (st.expect .commaOrEoo).depth ≠ 0 := by
    rw [depth_expect, h.depth]
    omega
  have hleft : (st.expect .commaOrEoo).depth = (st.expect .commaOrEoo).ed ∧
      ('\x7d' : Char) = '\x7d' ∧ pathAt path ((st.expect .commaOrEoo).pos - 1) = '.' :=
    ⟨by rw [depth_expect, h.depth]; exact hlevel.symm, rfl, hdot⟩
  show mgCommaOrEoo path i '\x7d' (st.expect .commaOrEoo) = _
  rw [mgCommaOrEoo, if_neg hne, if_neg (by decide), if_pos (by decide), if_pos hleft]

/-- Everything is under the empty path. -/
lemma locate_nil (d : Doc) : d.locate [] = some (0, d) := by
  cases d <;> rfl

/-- Nothing but an object has members. -/
lemma locate_dot {d : Doc} (hd : ∀ b ms, d ≠ .obj b ms) (q : List Char) :
    d.locate ('.' :: q) = none := by
  cases d with
  | obj b ms => exact absurd rfl (hd b ms)
  | _ => rfl

/-- The result of a search in a text that begins at offset `i`. -/
def resultAt (i : ℕ) : Option (ℕ × Doc) → JsonResult
  | none => .notFound
  | some r => .found (i + r.1) r.2.text.length

@[simp] lemma resultAt_map (i k : ℕ) (r : Option (ℕ × Doc)) :
    resultAt i (r.map fun r => (k + r.1, r.2)) = resultAt (i + k) r := by
  cases r with
  | none => rfl
  | some r => simp [resultAt, Nat.add_assoc]

mutual

/-- **The reader finds what is under the path** of a document, wherever the search has got to. -/
theorem locate_doc (d : Doc) {n : ℕ} (st : JsonCursor) {p q : List Char} {e : Char}
    (hd : d.Numerals Readable) (hst : InObjects n st) (hlevel : st.ed = n)
    (hat : AtPath path p e q st) (he : e ≠ '.') (hq : PathTail q)
    (hnext : q = [] ∨ ∃ r, q = '.' :: r) (hdepth : d.depth + n ≤ mgJsonMaxDepth) (i : ℕ)
    {rest : List Char} (hrest : Tail n rest) :
    mgJsonLoop path i (d.text ++ rest) 0 (st.expect .value) = resultAt i (d.locate q) := by
  have hpos := hat.pathAt_pos 0
  have hpass : ∀ hopen henter, mgJsonLoop path i (d.text ++ rest) 0 (st.expect .value) =
      goOn path (i + d.text.length) rest
        (endValue path (i + (d.text.length - 1)) (st.mark i)) := fun hopen henter =>
    read_doc d st hd (by rw [hst.depth, hlevel]) hopen henter (by rw [hst.depth]; exact hdepth) i
      hrest.delimited
  rcases hnext with rfl | ⟨r, rfl⟩
  · have hnul : pathAt path st.pos = nul := hpos
    have hlen := text_length_pos d
    rw [hpass (fun _ => by rw [hnul]; decide) (fun _ hdot => by rw [hnul] at hdot; cases hdot),
      endValue_found (by rw [hst.depth, hlevel]) hnul (by rw [hst.ci, hst.ei]), locate_nil]
    show JsonResult.found i _ = JsonResult.found (i + 0) d.text.length
    congr 1
    omega
  · have hdot : pathAt path st.pos = '.' := hpos
    by_cases hobj : ∀ b ms, d ≠ .obj b ms
    · rw [hpass (fun _ => by rw [hdot]; decide) (fun _ _ => hobj),
        endValue_on (hst.mark i) (by rw [pos_mark, hdot]; decide), goOn_ok,
        search_over hrest (hst.mark i) (by rw [ed_mark, hlevel]) (fun _ => ?_), locate_dot hobj]
      · rfl
      · rw [pos_mark, hat.pathAt_pred]
        exact he
    · cases d with
      | obj b ms =>
          have hlt : n < mgJsonMaxDepth := by
            rw [Doc.depth] at hdepth
            omega
          have hinside : AtPath path (p ++ [e]) '.' r (st.mark i).enter :=
            { path_eq := by rw [hat.path_eq, List.append_assoc]; rfl
              pos_eq := by
                show (st.mark i).pos + 1 = _
                rw [pos_mark, hat.pos_eq, List.length_append]
                rfl }
          have hfirst := hq.names [] r rfl
          have hmembers := locate_members ms (st.mark i).enter hd (hst.mark i).enter
            (by show (st.mark i).ed + 1 = _; rw [ed_mark, hlevel]) hinside
            (PathTail.suffix (k := ['.']) hq) hfirst (by rw [Doc.depth] at hdepth; omega)
            (i + 1 + b.text.length) hrest
          have htext : (Doc.obj b ms).text ++ rest =
              '\x7b' :: (b.text ++ (ms.text ++ ('\x7d' :: rest))) := by
            simp [Doc.text]
          rw [htext, mgJsonLoop_one rfl (mgCase_enter hst hlevel hdot hlt _), goOn_ok,
            mgJsonLoop_blank, hmembers, Doc.locate, resultAt_map]
          congr 1
          omega
      | _ => exact absurd (fun b ms heq => by cases heq) hobj

/-- The same over the members of an object on the path. -/
theorem locate_members (ms : Members) {n : ℕ} (st : JsonCursor) {p q : List Char}
    (hms : ms.Numerals Readable) (hst : InObjects (n + 1) st) (hlevel : st.ed = n + 1)
    (hat : AtPath path p '.' q st) (hq : PathTail q) (hfirst : ∃ c r, q = c :: r ∧ c ≠ '.')
    (hdepth : ms.depth + (n + 1) ≤ mgJsonMaxDepth) (i : ℕ) {rest : List Char}
    (hrest : Tail n rest) :
    mgJsonLoop path i (ms.text ++ ('\x7d' :: rest)) 0 (st.expect .key) =
      resultAt i (ms.locate q) := by
  cases ms with
  | nil =>
      show mgJsonLoop path i ('\x7d' :: rest) 0 (st.expect .key) = .notFound
      rw [mgJsonLoop_one rfl (mgCase_pop_empty hst hlevel.ge _), goOn_ok]
      exact search_over hrest hst.pop (by show n ≤ st.ed; omega)
        (fun heq => absurd (show n = st.ed from heq) (by omega)) _
  | cons before name afterName beforeValue x after ms =>
      rw [Members.depth] at hdepth
      have hdelimited : Delimited (after.text ++ (ms.comma ++ ms.text ++ '\x7d' :: rest)) :=
        delimited_members after ms (delimited_cons (by decide) _)
      have htext : (Members.cons before name afterName beforeValue x after ms).text ++
          ('\x7d' :: rest) = before.text ++ ('"' :: (piecesText name ++ ['"']) ++
            (afterName.text ++ (':' :: (beforeValue.text ++ (x.text ++
              (after.text ++ (ms.comma ++ ms.text ++ '\x7d' :: rest))))))) := by
        simp [Members.text, quoted]
      have hname := @mgCase_name path st (i + before.text.length) name
        (by rw [hst.depth, hlevel]) (fun _ => hat.pathAt_pred) (afterName.text ++ (':' ::
          (beforeValue.text ++ (x.text ++
            (after.text ++ (ms.comma ++ ms.text ++ '\x7d' :: rest))))))
      rw [htext, mgJsonLoop_blank, mgJsonLoop_turn rfl hname, goOn_ok, mgJsonLoop_blank]
      have hnext := isNext_iff hat (by rw [hst.depth, hlevel]) (piecesText name)
        (afterName.text ++ (':' :: (beforeValue.text ++ (x.text ++
          (after.text ++ (ms.comma ++ ms.text ++ '\x7d' :: rest))))))
      have hfind : (Members.cons before name afterName beforeValue x after ms).locate q =
          match nextName (piecesText name) q with
          | some q' => (x.locate q').map fun r => (before.text.length + (quoted name).length +
              afterName.text.length + 1 + beforeValue.text.length + r.1, r.2)
          | none => (ms.locate q).map fun r => (before.text.length + (quoted name).length +
              afterName.text.length + 1 + beforeValue.text.length + x.text.length +
                after.text.length + 1 + r.1, r.2) := rfl
      have hquoted : (quoted name).length = ('"' :: (piecesText name ++ ['"'])).length := rfl
      rw [hfind]
      cases hk : nextName (piecesText name) q with
      | none =>
          have hnot : ¬IsNext path (piecesText name ++ '"' :: (afterName.text ++ (':' ::
              (beforeValue.text ++ (x.text ++ (after.text ++
                (ms.comma ++ ms.text ++ '\x7d' :: rest))))))) (piecesText name).length st :=
            fun h => hnext.mp h hk
          obtain ⟨c, r, rfl, hc⟩ := hfirst
          have hpos : pathAt path st.pos = c := hat.pathAt_pos 0
          have hbracket : c ≠ '[' := fun heq => hq.noIndex (by rw [heq]; exact List.mem_cons_self)
          have hnul : c ≠ nul := fun heq => hq.noNul (by rw [heq]; exact List.mem_cons_self)
          have hread := fun k => read_doc x st hms.1 (by rw [hst.depth, hlevel])
            (fun _ => by rw [hpos]; exact hbracket) (fun _ hdot => absurd (hpos ▸ hdot) hc)
            (by rw [hst.depth]; omega) k hdelimited
          have hon := fun k j => @endValue_on path (st.mark k) (n + 1) (hst.mark k)
            (by rw [pos_mark, hpos]; exact hnul) j
          rw [if_neg hnot]
          show mgJsonLoop path _ _ 0 (st.expect .colon) = _
          rw [mgJsonLoop_one rfl (mgCase_colon _), goOn_ok, mgJsonLoop_blank, hread, hon, goOn_ok,
            mgJsonLoop_blank]
          cases ms with
          | nil =>
              show mgJsonLoop path _ ('\x7d' :: rest) 0 (expect _ .commaOrEoo) = .notFound
              rw [mgJsonLoop, if_neg (by decide), mgCase_close_notFound (hst.mark _)
                (by rw [ed_mark, hlevel]) (by rw [pos_mark, hat.pathAt_pred])]
          | cons before' name' afterName' beforeValue' x' after' ms =>
              have hhead : ∀ k, (st.mark k).nesting.head? = some '\x7b' := fun k => by
                rw [(hst.mark k).nesting]
                rfl
              have hlater := fun k j => locate_members
                (.cons before' name' afterName' beforeValue' x' after' ms) (st.mark k) hms.2
                (hst.mark k) (by rw [ed_mark, hlevel])
                { path_eq := hat.path_eq, pos_eq := by rw [pos_mark, hat.pos_eq] } hq
                ⟨c, r, rfl, hc⟩ (by omega) j hrest
              show mgJsonLoop path _ (',' :: ((Members.cons before' name' afterName' beforeValue'
                x' after' ms).text ++ '\x7d' :: rest)) 0 (expect _ .commaOrEoo) = _
              rw [mgJsonLoop_one rfl (mgCase_comma (hhead _) _), goOn_ok, if_pos rfl, hlater]
              dsimp only
              rw [resultAt_map, hquoted]
              congr 1
              omega
      | some q' =>
          obtain ⟨heq, hshape⟩ := next_of_pathTail hq hk
          obtain ⟨c, r, hcr, hc⟩ := hfirst
          obtain ⟨k', e', hname', he'⟩ := name_of_nextName hq hcr hc hk
          have hlen : (piecesText name).length = k'.length + 1 := by
            rw [hname', List.length_append]
            rfl
          have hthere : AtPath path (p ++ '.' :: k') e' q'
              { st with pos := st.pos + (piecesText name).length } :=
            { path_eq := by
                rw [hat.path_eq, heq, hname']
                simp
              pos_eq := by
                show st.pos + (piecesText name).length = _
                rw [hat.pos_eq, hlen, List.length_append, List.length_cons]
                omega }
          have htail : Tail (n + 1) (after.text ++ (ms.comma ++ ms.text ++ '\x7d' :: rest)) := by
            cases ms with
            | nil => exact .close after hrest
            | cons before' name' afterName' beforeValue' x' after' ms =>
                have hmore := Tail.more after before' name' n (afterName'.text ++ (':' ::
                  (beforeValue'.text ++ (x'.text ++ (after'.text ++ (ms.comma ++
                    (ms.text ++ '\x7d' :: rest)))))))
                simpa [Members.text, Members.comma] using hmore
          have hthen := fun j => locate_doc x
            { st with pos := st.pos + (piecesText name).length } hms.1
            ⟨hst.nesting, hst.ci, hst.ei⟩ hlevel hthere he' (PathTail.suffix (heq ▸ hq)) hshape
            (by omega) j htail
          rw [if_pos (hnext.mpr (by rw [hk]; exact Option.some_ne_none q'))]
          show mgJsonLoop path _ _ 0
            (expect { st with pos := st.pos + (piecesText name).length } .colon) = _
          rw [mgJsonLoop_one rfl (mgCase_colon _), goOn_ok, mgJsonLoop_blank, hthen]
          dsimp only
          rw [resultAt_map, hquoted]
          congr 1
          omega

end

/-- **`mg_json_get` on the text of a document**, in any layout: it finds what is under the path,
with its offset and length, and nothing where there is nothing. -/
theorem mgJsonGet_document (pre post : Blank) {d : Doc} (hd : d.Numerals Readable)
    (hdepth : d.depth ≤ mgJsonMaxDepth) (hq : PathTail q) (hnext : q = [] ∨ ∃ r, q = '.' :: r) :
    mgJsonGet (pre.text ++ (d.text ++ post.text)) ('$' :: q) =
      resultAt pre.text.length (d.locate q) := by
  have hat : AtPath ('$' :: q) [] '$' q {} := ⟨rfl, rfl⟩
  have hobjects : InObjects 0 {} := ⟨rfl, rfl, rfl⟩
  have hdoc := locate_doc d {} hd hobjects rfl hat (by decide) hq hnext hdepth
    (0 + pre.text.length) (Tail.done post)
  rw [Nat.zero_add] at hdoc
  rw [mgJsonGet, if_pos List.head?_cons, mgJsonLoop_blank, Nat.zero_add]
  exact hdoc

end Orchestrator
