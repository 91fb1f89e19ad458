import Orchestrator.Mongoose.JsonGet

/-!
# The reader stays inside its text

For every text, well formed or not, what `mg_json_get` returns is a piece of the text, so that the
accessors read no byte outside it.

* `mgCase_inside` — what one turn of the loop keeps and returns.
* `mgJsonGet_inside` — the value that is found lies in the text.
-/

namespace Orchestrator

open Json Printing

variable {path : List Char} {st : JsonCursor} {i : ℕ} {c : Char} {rest : List Char}

/-- A string ends before the text does. -/
lemma mgPassString_lt {s : List Char} {n : ℕ} (h : mgPassString s = some n) : n < s.length := by
  fun_induction mgPassString s generalizing n with
  | case1 => cases h
  | case2 => cases h
  | case3 => cases h; simp
  | case4 => cases h
  | case5 c e s hesc ih =>
      obtain ⟨m, hm, rfl⟩ := Option.map_eq_some_iff.mp h
      have := ih hm
      simp only [List.length_cons]
      omega
  | case6 => cases h
  | case7 => cases h; simp
  | case8 c e s hesc hnul hquote ih =>
      obtain ⟨m, hm, rfl⟩ := Option.map_eq_some_iff.mp h
      have := ih hm
      simp only [List.length_cons] at this ⊢
      omega

/-- What may come out of a turn of the loop at offset `i` of a text of length `len`: a piece of the
text, or a state with `j` at or before `i` and at most `MG_JSON_MAX_DEPTH` open brackets. -/
def Inside (len i : ℕ) : Except JsonResult JsonCursor → Prop
  | .error (.found offset toklen) => 0 < toklen ∧ offset + toklen ≤ len
  | .error _ => True
  | .ok st => st.j ≤ i ∧ st.depth ≤ mgJsonMaxDepth

/-- A state that may come out. -/
abbrev StateInside (i : ℕ) (st : JsonCursor) : Prop := st.j ≤ i ∧ st.depth ≤ mgJsonMaxDepth

lemma Inside.map {len : ℕ} {r : Except JsonResult JsonCursor} {f : JsonCursor → JsonCursor}
    (h : Inside len i r) (hf : ∀ st, StateInside i st → StateInside i (f st)) :
    Inside len i (r.map f) := by
  cases r with
  | error r => exact h
  | ok st => exact hf st h

lemma Inside.bind {len : ℕ} {r : Except JsonResult JsonCursor}
    {f : JsonCursor → Except JsonResult JsonCursor} (h : Inside len i r)
    (hf : ∀ st, StateInside i st → Inside len i (f st)) : Inside len i (r.bind f) := by
  cases r with
  | error r => exact h
  | ok st => exact hf st h

lemma mgCheckret_inside {len : ℕ} (hi : i < len) (h : StateInside i st) :
    Inside len i (mgCheckret path i st) := by
  unfold mgCheckret
  split
  · have := h.1
    show 0 < i - st.j + 1 ∧ st.j + (i - st.j + 1) ≤ len
    omega
  · exact h

lemma endValue_inside {len : ℕ} (hi : i < len) (h : StateInside i st) :
    Inside len i (endValue path i st) :=
  (mgCheckret_inside hi h).map fun _ hst => hst

lemma mgEoo_inside {len : ℕ} (hi : i < len) (h : StateInside i st) :
    Inside len i (mgEoo path i c st) := by
  unfold mgEoo
  split
  · trivial
  · split
    · trivial
    · refine mgCheckret_inside hi ⟨h.1, ?_⟩
      have hle : st.nesting.tail.length ≤ st.nesting.length := by simp
      exact hle.trans h.2

lemma mark_inside (h : StateInside i st) : StateInside i (st.mark i) := by
  unfold JsonCursor.mark
  split
  · exact ⟨le_rfl, h.2⟩
  · exact h

/-- What may come out of a turn with the number of characters that it passes. -/
def TurnInside (len i : ℕ) : Except JsonResult (ℕ × JsonCursor) → Prop
  | .error (.found offset toklen) => 0 < toklen ∧ offset + toklen ≤ len
  | .error _ => True
  | .ok (skip, st) => st.j ≤ i + skip ∧ st.depth ≤ mgJsonMaxDepth

/-- A turn that ends `skip` characters later. -/
lemma Inside.turn {len skip : ℕ} {r : Except JsonResult JsonCursor} (f : JsonCursor → JsonCursor)
    (h : Inside len (i + skip) r)
    (hf : ∀ st, StateInside (i + skip) st → StateInside (i + skip) (f st)) :
    TurnInside len i (r.map fun st => (skip, f st)) := by
  cases r with
  | error r => cases r <;> exact h
  | ok st => exact hf st h

/-- A value that ends `skip` characters later. -/
lemma endValue_turn {len skip : ℕ} (hskip : i + skip < len) (h : StateInside i st) :
    TurnInside len i ((endValue path (i + skip) st).map (skip, ·)) :=
  (endValue_inside hskip ⟨by have := h.1; omega, h.2⟩).turn id fun _ hst => hst

/-- A prefix that begins with the character itself fits into the rest of the text. -/
lemma prefix_fits {d : Char} {ds : List Char} (h : d :: ds <+: c :: rest) :
    ds.length ≤ rest.length := by
  have := h.length_le
  simpa using this

lemma mgAtod_le (p : List Char) : (mgAtod p).2 ≤ p.length := Nat.sub_le _ _

/-- The case `S_VALUE`. -/
lemma mgValue_inside (h : StateInside i st) :
    TurnInside (i + (c :: rest).length) i (mgValue path i c rest st) := by
  have hmark := mark_inside h
  have hhere : i < i + (c :: rest).length := by simp
  unfold mgValue
  dsimp only
  split
  · split
    · trivial
    · next hdepth =>
      unfold openObject
      split <;> exact ⟨hmark.1, by
        show (st.mark i).nesting.length + 1 ≤ mgJsonMaxDepth
        have : (st.mark i).depth < mgJsonMaxDepth := Nat.lt_of_not_le hdepth
        exact this⟩
  · split
    · split
      · trivial
      · next hdepth =>
        unfold openArray
        split <;> exact ⟨hmark.1, by
          show (st.mark i).nesting.length + 1 ≤ mgJsonMaxDepth
          have : (st.mark i).depth < mgJsonMaxDepth := Nat.lt_of_not_le hdepth
          exact this⟩
    · split
      · exact ((mgEoo_inside hhere hmark).bind fun _ hst => endValue_inside hhere hst).turn
          id fun _ hst => hst
      · split
        · next hprefix =>
          have := prefix_fits hprefix
          exact endValue_turn (by simp at this ⊢; omega) hmark
        · split
          · next hprefix =>
            have := prefix_fits hprefix
            exact endValue_turn (by simp at this ⊢; omega) hmark
          · split
            · next hprefix =>
              have := prefix_fits hprefix
              exact endValue_turn (by simp at this ⊢; omega) hmark
            · split
              · have := mgAtod_le (c :: rest)
                exact endValue_turn (by simp at this ⊢; omega) hmark
              · split
                · split
                  · trivial
                  · next n hpass =>
                    have := mgPassString_lt hpass
                    exact endValue_turn (by simp; omega) hmark
                · trivial

/-- **One turn of the loop** returns a piece of the text or keeps the state inside. -/
theorem mgCase_inside (h : StateInside i st) :
    TurnInside (i + (c :: rest).length) i (mgCase path i c rest st) := by
  have hhere : i < i + (c :: rest).length := by simp
  unfold mgCase
  split
  · exact mgValue_inside h
  · unfold mgKey
    split
    · split
      · trivial
      · split
        · trivial
        · split
          · trivial
          · split
            · trivial
            · exact ⟨by have := h.1; show st.j ≤ _; omega, h.2⟩
    · split
      · exact (mgEoo_inside hhere h).turn _ fun _ hst => hst
      · trivial
  · unfold mgColon
    split
    · exact h
    · trivial
  · unfold mgCommaOrEoo
    split
    · trivial
    · split
      · exact h
      · split
        · split
          · trivial
          · split
            · trivial
            · exact (mgEoo_inside hhere h).turn _ fun _ hst => hst
        · trivial

/-- So does the loop, from any state inside. -/
theorem mgJsonLoop_inside {skip offset toklen : ℕ} (h : StateInside (i + skip) st)
    (hfound : mgJsonLoop path i rest skip st = .found offset toklen) :
    0 < toklen ∧ offset + toklen ≤ i + rest.length := by
  induction rest generalizing i skip st with
  | nil =>
      rw [mgJsonLoop] at hfound
      cases hfound
  | cons c rest ih =>
      have hlen : i + (c :: rest).length = i + 1 + rest.length := by
        rw [List.length_cons]
        omega
      cases skip with
      | succ skip =>
          rw [mgJsonLoop] at hfound
          rw [hlen]
          exact ih ⟨by have := h.1; omega, h.2⟩ hfound
      | zero =>
          rw [mgJsonLoop] at hfound
          split at hfound
          · rw [hlen]
            exact ih ⟨by have := h.1; omega, h.2⟩ hfound
          · have hturn : TurnInside (i + (c :: rest).length) i (mgCase path i c rest st) :=
              mgCase_inside h
            cases hcase : mgCase path i c rest st with
            | error r =>
                rw [hcase] at hfound hturn
                dsimp only at hfound
                rw [hfound] at hturn
                exact hturn
            | ok next =>
                obtain ⟨skip, st'⟩ := next
                rw [hcase] at hfound hturn
                rw [hlen]
                exact ih ⟨by have := hturn.1; omega, hturn.2⟩ hfound

/-- **The reader stays inside its text.**  Whatever the text and the path are, what `mg_json_get`
finds is a piece of the text with at least one character. -/
theorem mgJsonGet_inside {json p : List Char} {offset toklen : ℕ}
    (h : mgJsonGet json p = .found offset toklen) :
    0 < toklen ∧ offset + toklen ≤ json.length := by
  unfold mgJsonGet at h
  split at h
  · have hloop := @mgJsonLoop_inside p {} 0 json 0 offset toklen
      ⟨Nat.zero_le _, Nat.zero_le _⟩ h
    omega
  · cases h

/-- A text that is cut off after the value. -/
theorem mgJsonGet_inside_cut :
    mgJsonGet "\x7b\"a\":7".toList "$.a".toList = .found 5 1 ∧
      0 < 1 ∧ 5 + 1 ≤ "\x7b\"a\":7".toList.length :=
  ⟨by decide, mgJsonGet_inside (p := "$.a".toList) (by decide)⟩

end Orchestrator
