import Orchestrator.Mongoose.Lookup

/-!
# The accessors on a document

For documents whose names have no dots or brackets, a path like `$.config.jobCount` means the
member `jobCount` of the member `config`, and the accessors return the value that is there.

* `locate_at` — the search by paths is the search by names.
* `mgJsonGetNum_at`, `mgJsonGetBool_at`, `mgJsonGetStr_at` — what the accessors return.
-/

namespace Orchestrator

open Json Printing

/-! ## Paths of names -/

/-- A name that can stand in a path. -/
structure PathName (k : List Char) : Prop where
  ne_nil : k ≠ []
  noDot : '.' ∉ k
  noIndex : '[' ∉ k
  noNul : nul ∉ k

/-- A name that cannot be taken for more than one name of a path. -/
def Undotted (k : List Char) : Prop := '.' ∉ k ∧ '[' ∉ k

/-- The names of a path, each after a dot. -/
def pathText (keys : List (List Char)) : List Char := keys.flatMap ('.' :: ·)

/-- The path of some names. -/
def pathOf (keys : List (List Char)) : List Char := '$' :: pathText keys

/-- A path of two names. -/
lemma pathOf_pair (k k' : List Char) : pathOf [k, k'] = ('$' :: '.' :: (k ++ ['.'])) ++ k' := by
  simp [pathOf, pathText]

variable {keys : List (List Char)}

lemma pathText_shape (keys : List (List Char)) :
    pathText keys = [] ∨ ∃ r, pathText keys = '.' :: r := by
  cases keys with
  | nil => exact .inl rfl
  | cons k ks => exact .inr ⟨_, rfl⟩

/-- After a dot of the path there is a name. -/
lemma pathText_names (h : ∀ k ∈ keys, PathName k) (p r : List Char)
    (heq : pathText keys = p ++ '.' :: r) : ∃ c r', r = c :: r' ∧ c ≠ '.' := by
  induction keys generalizing p with
  | nil => simp [pathText] at heq
  | cons k ks ih =>
      have hk := h k List.mem_cons_self
      have hks := ih fun k' hk' => h k' (List.mem_cons_of_mem k hk')
      have heq : '.' :: (k ++ pathText ks) = p ++ '.' :: r := heq
      cases p with
      | nil =>
          obtain ⟨c, k', rfl⟩ := List.exists_cons_of_ne_nil hk.ne_nil
          refine ⟨c, k' ++ pathText ks, (List.cons.inj heq).2.symm, ?_⟩
          rintro rfl
          exact hk.noDot List.mem_cons_self
      | cons d p =>
          have htail : k ++ pathText ks = p ++ '.' :: r := (List.cons.inj heq).2
          rcases List.append_eq_append_iff.mp htail with ⟨a, -, ha⟩ | ⟨a, ha, hr⟩
          · exact hks a ha
          · cases a with
            | nil => exact hks [] hr.symm
            | cons e a =>
                have he : '.' = e := (List.cons.inj hr).1
                refine absurd ?_ hk.noDot
                rw [ha, ← he]
                simp

lemma pathTail_pathText (h : ∀ k ∈ keys, PathName k) : PathTail (pathText keys) where
  noIndex := by
    simp only [pathText, List.mem_flatMap, List.mem_cons, not_exists, not_and, not_or]
    exact fun k hk => ⟨by decide, (h k hk).noIndex⟩
  noNul := by
    simp only [pathText, List.mem_flatMap, List.mem_cons, not_exists, not_and, not_or]
    exact fun k hk => ⟨by decide, (h k hk).noNul⟩
  names := pathText_names h

/-- The name of a member is the next one in the path exactly when it is the first name there. -/
lemma nextName_pathText {k' k : List Char} (hk' : Undotted k') (hk : PathName k)
    (ks : List (List Char)) :
    nextName k' (k ++ pathText ks) = if k' = k then some (pathText ks) else none := by
  have hhead : (pathText ks).headD nul = nul ∨ (pathText ks).headD nul = '.' := by
    rcases pathText_shape ks with h | ⟨r, h⟩
    · exact .inl (by rw [h]; rfl)
    · exact .inr (by rw [h]; rfl)
  by_cases heq : k' = k
  · subst heq
    have hdrop : (k' ++ pathText ks).drop k'.length = pathText ks := List.drop_left
    rw [nextName, hdrop, if_pos rfl, if_pos ⟨List.prefix_append _ _, by tauto⟩]
  · rw [if_neg heq, nextName, if_neg]
    rintro ⟨⟨r, hr⟩, hnext⟩
    rw [← hr, List.drop_left] at hnext
    rcases List.append_eq_append_iff.mp hr with ⟨a, ha, hra⟩ | ⟨a, ha, hta⟩
    · -- the name of the path goes on
      cases a with
      | nil => exact heq (by rw [ha, List.append_nil])
      | cons c a =>
          have hc : c ∈ k := by rw [ha]; simp
          rw [hra] at hnext
          rcases hnext with h | h | h
          · exact hk.noNul (by rw [← show c = nul from h]; exact hc)
          · exact hk.noDot (by rw [← show c = '.' from h]; exact hc)
          · exact hk.noIndex (by rw [← show c = '[' from h]; exact hc)
    · -- the name of the member goes on
      cases a with
      | nil => exact heq (by rw [ha, List.append_nil])
      | cons c a =>
          rcases pathText_shape ks with h | ⟨r', h⟩
          · rw [h] at hta
            cases hta
          · rw [h] at hta
            refine hk'.1 ?_
            rw [ha, ← (List.cons.inj hta).1]
            simp

/-! ## The search by names -/

mutual

/-- **A path leads where its names lead.** -/
theorem locate_at (d : Doc) (hd : d.Names Undotted) {keys : List (List Char)}
    (hkeys : ∀ k ∈ keys, PathName k) :
    (d.locate (pathText keys)).map Prod.snd = d.at keys := by
  cases keys with
  | nil => cases d <;> rfl
  | cons k ks =>
      cases d with
      | obj b ms =>
          have hmembers := locate_find ms hd (hkeys k List.mem_cons_self)
            fun k' hk' => hkeys k' (List.mem_cons_of_mem k hk')
          show ((ms.locate (k ++ pathText ks)).map _).map Prod.snd = (ms.find k).bind _
          rw [← hmembers, Option.map_map]
          rfl
      | _ => rfl

/-- So it does in the members of an object. -/
theorem locate_find (ms : Members) (hms : ms.Names Undotted) {k : List Char}
    {ks : List (List Char)} (hk : PathName k) (hks : ∀ k ∈ ks, PathName k) :
    (ms.locate (k ++ pathText ks)).map Prod.snd = (ms.find k).bind (Doc.at ks) := by
  cases ms with
  | nil => rfl
  | cons before name afterName beforeValue x after ms =>
      have hvalue := locate_at x hms.2.1 hks
      have hlater := locate_find ms hms.2.2 hk hks
      rw [Members.locate, nextName_pathText hms.1 hk, Members.find]
      by_cases heq : piecesText name = k
      · simp only [heq, if_true, Option.map_map, Option.bind_some]
        exact hvalue
      · simp only [heq, if_false, Option.map_map]
        exact hlater

end

mutual

/-- What is located is where it is said to be. -/
theorem locate_text (d : Doc) {q : List Char} {n : ℕ} {x : Doc} (h : d.locate q = some (n, x)) :
    ∃ u v, d.text = u ++ (x.text ++ v) ∧ u.length = n := by
  cases q with
  | nil =>
      rw [locate_nil] at h
      cases h
      exact ⟨[], [], by simp, rfl⟩
  | cons c q =>
      cases d with
      | obj b ms =>
          by_cases hc : c = '.'
          · subst hc
            obtain ⟨⟨m, y⟩, hm, heq⟩ := Option.map_eq_some_iff.mp h
            cases heq
            obtain ⟨u, v, htext, rfl⟩ := members_locate_text ms hm
            refine ⟨'\x7b' :: (b.text ++ u), v ++ ['\x7d'], ?_, ?_⟩
            · simp [Doc.text, htext]
            · simp
              omega
          · rw [Doc.locate.eq_3 _ _ (by simp) fun _ _ _ _ hq => hc (List.cons.inj hq).1] at h
            cases h
      | _ =>
          rw [Doc.locate.eq_3 _ _ (by simp) fun _ _ _ hd _ => by cases hd] at h
          cases h

/-- So it is in the members of an object. -/
theorem members_locate_text (ms : Members) {q : List Char} {n : ℕ} {x : Doc}
    (h : ms.locate q = some (n, x)) : ∃ u v, ms.text = u ++ (x.text ++ v) ∧ u.length = n := by
  cases ms with
  | nil => cases h
  | cons before name afterName beforeValue y after ms =>
      rw [Members.locate] at h
      split at h
      · obtain ⟨⟨m, z⟩, hm, heq⟩ := Option.map_eq_some_iff.mp h
        cases heq
        obtain ⟨u, v, htext, rfl⟩ := locate_text y hm
        refine ⟨before.text ++ (quoted name ++ (afterName.text ++ (':' ::
          (beforeValue.text ++ u)))), v ++ (after.text ++ (ms.comma ++ ms.text)), ?_, ?_⟩
        · simp [Members.text, htext]
        · simp
          omega
      · obtain ⟨⟨m, z⟩, hm, heq⟩ := Option.map_eq_some_iff.mp h
        cases heq
        obtain ⟨u, v, htext, rfl⟩ := members_locate_text ms hm
        have hcomma : ms.comma = [','] := by
          cases ms with
          | nil => cases hm
          | cons => rfl
        refine ⟨before.text ++ (quoted name ++ (afterName.text ++ (':' ::
          (beforeValue.text ++ (y.text ++ (after.text ++ (',' :: u))))))), v, ?_, ?_⟩
        · simp [Members.text, htext, hcomma]
        · simp
          omega

end

/-! ## The accessors -/

section OfDocument

variable (pre post : Blank) {d : Doc}

/-- A document that the reader reads, with names that cannot be taken for paths. -/
structure Legible (d : Doc) : Prop where
  numerals : d.Numerals Readable
  depth_le : d.depth ≤ mgJsonMaxDepth
  names : d.Names Undotted

/-- The text of a document with white space around it. -/
def docText (d : Doc) : List Char := pre.text ++ (d.text ++ post.text)

/-- **What is under a path is found.** -/
theorem mgJsonGet_at (hd : Legible d) (hkeys : ∀ k ∈ keys, PathName k) {x : Doc}
    (hx : d.at keys = some x) :
    ∃ u v, docText pre post d = u ++ (x.text ++ v) ∧
      mgJsonGet (docText pre post d) (pathOf keys) = .found u.length x.text.length := by
  have hget := mgJsonGet_document pre post hd.numerals hd.depth_le (pathTail_pathText hkeys)
    (pathText_shape keys)
  have hat := locate_at d hd.names hkeys
  rw [hx] at hat
  obtain ⟨⟨n, y⟩, hlocate, rfl⟩ := Option.map_eq_some_iff.mp hat
  obtain ⟨u, v, htext, rfl⟩ := locate_text d hlocate
  rw [hlocate] at hget
  refine ⟨pre.text ++ u, v ++ post.text, by simp [docText, htext], ?_⟩
  rw [List.length_append]
  exact hget

/-- What is not there is not found. -/
theorem mgJsonGet_at_none (hd : Legible d) (hkeys : ∀ k ∈ keys, PathName k)
    (hx : d.at keys = none) :
    mgJsonGet (docText pre post d) (pathOf keys) = .notFound := by
  have hget := mgJsonGet_document pre post hd.numerals hd.depth_le (pathTail_pathText hkeys)
    (pathText_shape keys)
  have hat := locate_at d hd.names hkeys
  rw [hx, Option.map_eq_none_iff] at hat
  rw [hat] at hget
  exact hget

lemma getD_append_cons (u v cs : List Char) (c : Char) :
    (u ++ (c :: cs ++ v)).getD u.length nul = c := by
  simp

lemma take_drop_append (u v w : List Char) :
    ((u ++ (w ++ v)).drop u.length).take w.length = w := by
  rw [List.drop_left, List.take_left]

/-- **`mg_json_get_num`** returns the number under the path. -/
theorem mgJsonGetNum_at (hd : Legible d) (hkeys : ∀ k ∈ keys, PathName k) :
    mgJsonGetNum (docText pre post d) (pathOf keys) = (d.at keys).bind Doc.number := by
  cases hx : d.at keys with
  | none => rw [mgJsonGetNum, mgJsonGet_at_none pre post hd hkeys hx]; rfl
  | some x =>
      obtain ⟨u, v, htext, hget⟩ := mgJsonGet_at pre post hd hkeys hx
      rw [mgJsonGetNum, hget, htext]
      dsimp only [Option.bind_some]
      have hreadable := Doc.numerals_at hd.numerals hx
      cases x with
      | num n =>
          obtain ⟨c, cs, hcs, hc⟩ := numeral_text n
          have hnumeral : mgAtod (n.text ++ []) = (n.value, n.text.length) :=
            mgAtod_numeral hreadable (by intro c hc; cases hc)
          rw [List.append_nil] at hnumeral
          have hchar : (u ++ ((Doc.num n).text ++ v)).getD u.length nul = c := by
            rw [show (Doc.num n).text = c :: cs from hcs]
            exact getD_append_cons u v cs c
          rw [hchar, if_pos hc, take_drop_append]
          exact congrArg (fun r => some r.1) hnumeral
      | bool b =>
          cases b with
          | true => exact if_neg (by rw [Doc.text, getD_append_cons]; decide)
          | false => exact if_neg (by rw [Doc.text, getD_append_cons]; decide)
      | null => exact if_neg (by rw [Doc.text, getD_append_cons]; decide)
      | str s => exact if_neg (by rw [Doc.text, quoted, getD_append_cons]; decide)
      | arr b xs => exact if_neg (by rw [Doc.text, getD_append_cons]; decide)
      | obj b ms => exact if_neg (by rw [Doc.text, getD_append_cons]; decide)

/-- **`mg_json_get_bool`** returns the truth value under the path. -/
theorem mgJsonGetBool_at (hd : Legible d) (hkeys : ∀ k ∈ keys, PathName k) :
    mgJsonGetBool (docText pre post d) (pathOf keys) = (d.at keys).bind Doc.boolean := by
  cases hx : d.at keys with
  | none => rw [mgJsonGetBool, mgJsonGet_at_none pre post hd hkeys hx]; rfl
  | some x =>
      obtain ⟨u, v, htext, hget⟩ := mgJsonGet_at pre post hd hkeys hx
      rw [mgJsonGetBool, hget, htext]
      dsimp only [Option.bind_some]
      cases x with
      | num n =>
          obtain ⟨c, cs, hcs, hc⟩ := numeral_text n
          obtain ⟨-, -, -, -, ht, -, hf⟩ := number_first hc
          rw [show (Doc.num n).text = c :: cs from hcs, getD_append_cons, if_neg ht, if_neg hf]
          rfl
      | bool b => cases b <;> simp [Doc.text, Doc.boolean]
      | null => simp [Doc.text, Doc.boolean]
      | str s => simp [Doc.text, quoted, Doc.boolean]
      | arr b xs => simp [Doc.text, Doc.boolean]
      | obj b ms => simp [Doc.text, Doc.boolean]

/-- **`mg_json_get_str`** returns the string under the path, as far as it can undo the escapes. -/
theorem mgJsonGetStr_at (hd : Legible d) (hkeys : ∀ k ∈ keys, PathName k) :
    mgJsonGetStr (docText pre post d) (pathOf keys) =
      ((d.at keys).bind Doc.string).bind fun s => mgJsonUnescape (piecesText s) := by
  cases hx : d.at keys with
  | none => rw [mgJsonGetStr, mgJsonGet_at_none pre post hd hkeys hx]; rfl
  | some x =>
      obtain ⟨u, v, htext, hget⟩ := mgJsonGet_at pre post hd hkeys hx
      rw [mgJsonGetStr, hget, htext]
      dsimp only [Option.bind_some]
      cases x with
      | num n =>
          obtain ⟨c, cs, hcs, hc⟩ := numeral_text n
          have hquote : c ≠ '"' := by
            rintro rfl
            revert hc
            decide
          refine if_neg ?_
          rw [show (Doc.num n).text = c :: cs from hcs, getD_append_cons]
          exact fun hall => hquote hall.2
      | bool b =>
          cases b with
          | true => exact if_neg (by rw [Doc.text, getD_append_cons]; simp)
          | false => exact if_neg (by rw [Doc.text, getD_append_cons]; simp)
      | null => exact if_neg (by rw [Doc.text, getD_append_cons]; simp)
      | str s =>
          have hlong : 1 < (Doc.str s).text.length := by simp [Doc.text, quoted]
          have hinner : ((u ++ ((Doc.str s).text ++ v)).drop (u.length + 1)).take
              ((Doc.str s).text.length - 2) = piecesText s := by
            have hsplit : u ++ ((Doc.str s).text ++ v) =
                (u ++ ['"']) ++ (piecesText s ++ ('"' :: v)) := by
              simp [Doc.text, quoted]
            have hstart : u.length + 1 = (u ++ ['"']).length := by simp
            have hlen : (Doc.str s).text.length - 2 = (piecesText s).length := by
              simp [Doc.text, quoted]
            rw [hsplit, hstart, hlen, take_drop_append]
          rw [if_pos ⟨hlong, by rw [Doc.text, quoted, getD_append_cons]⟩, hinner]
          rfl
      | arr b xs => exact if_neg (by rw [Doc.text, getD_append_cons]; simp)
      | obj b ms => exact if_neg (by rw [Doc.text, getD_append_cons]; simp)

end OfDocument

end Orchestrator
