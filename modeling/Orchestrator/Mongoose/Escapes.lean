import Orchestrator.Json.Layout
import Orchestrator.Mongoose.JsonGet

/-!
# Escapes in strings

`mg_json_unescape` turns the text of a string into the string.

* `Undone` — the escapes it can undo.
* `mgJsonUnescape_pieces` — a string of such pieces is read as what it means.
-/

namespace Orchestrator

open Json Printing

/-- The pieces of a string whose escapes `mg_json_unescape` can undo: no escaped slash, and no code
point outside the characters of ASCII. -/
def Undone : Piece → Prop
  | .plain _ => True
  | .escape c => c.val ≠ '/'
  | .unicode c₁ c₂ c₃ c₄ =>
      0 < codePoint c₁.val c₂.val c₃.val c₄.val ∧ codePoint c₁.val c₂.val c₃.val c₄.val < 128

/-- A hexadecimal digit is read. -/
lemma hexDigitOf_eq {c : Char} (h : isHex c = true) :
    hexDigitOf c = some (hexValue c) ∧ hexValue c < 16 := by
  simp only [isHex, Bool.or_eq_true, Bool.and_eq_true, decide_eq_true_eq] at h
  have hle : ∀ a b : Char, a ≤ b ↔ a.toNat ≤ b.toNat := fun a b => Iff.rfl
  have hdigit : c.isDigit = true ↔ 48 ≤ c.toNat ∧ c.toNat ≤ 57 := by
    simp only [Char.isDigit, Bool.and_eq_true, decide_eq_true_eq]
    exact Iff.rfl
  have hconst : 'a'.toNat = 97 ∧ 'f'.toNat = 102 ∧ 'A'.toNat = 65 ∧ 'F'.toNat = 70 ∧
      '0'.toNat = 48 ∧ '7'.toNat = 55 ∧ 'W'.toNat = 87 := by decide
  obtain ⟨ha, hf, hA, hF, h0, h7, hW⟩ := hconst
  simp only [hle, hdigit, ha, hf, hA, hF] at h
  unfold hexDigitOf hexValue
  simp only [hle, hdigit, ha, hf, hA, hF, h0, h7, hW]
  rcases h with (h | h) | h
  · rw [if_pos h, if_pos h]
    exact ⟨rfl, by omega⟩
  · rw [if_neg (by omega), if_neg (by omega), if_pos h, if_neg (by omega), if_pos h.1]
    exact ⟨rfl, by omega⟩
  · rw [if_neg (by omega), if_pos h, if_neg (by omega), if_neg (by omega)]
    exact ⟨rfl, by omega⟩

/-- A code point below 128 is read as that character. -/
lemma mgStrToByte_codePoint {c₁ c₂ c₃ c₄ : Char} (h₁ : isHex c₁ = true) (h₂ : isHex c₂ = true)
    (h₃ : isHex c₃ = true) (h₄ : isHex c₄ = true) (hsmall : codePoint c₁ c₂ c₃ c₄ < 128) :
    mgStrToByte [c₁, c₂, c₃, c₄] 0 = some (codePoint c₁ c₂ c₃ c₄) := by
  obtain ⟨hread₁, -⟩ := hexDigitOf_eq h₁
  obtain ⟨hread₂, -⟩ := hexDigitOf_eq h₂
  obtain ⟨hread₃, -⟩ := hexDigitOf_eq h₃
  obtain ⟨hread₄, -⟩ := hexDigitOf_eq h₄
  unfold codePoint at hsmall
  have hstep : ∀ {c : Char} {s : List Char} {result : ℕ}, hexDigitOf c = some (hexValue c) →
      result * 16 + hexValue c < 128 →
        mgStrToByte (c :: s) result = mgStrToByte s (result * 16 + hexValue c) := by
    intro c s result hread hlt
    rw [mgStrToByte, hread]
    show (if 255 / 16 < result then none
      else if 255 - hexValue c < result * 16 then none
      else mgStrToByte s (result * 16 + hexValue c)) = _
    rw [if_neg (by omega), if_neg (by omega)]
  rw [hstep hread₁ (by omega), hstep hread₂ (by omega), hstep hread₃ (by omega),
    hstep hread₄ (by omega), mgStrToByte, codePoint]
  simp

/-- A piece of a string. -/
lemma mgJsonUnescape_piece {p : Piece} (hp : Undone p) (rest : List Char) :
    mgJsonUnescape (p.text ++ rest) = (mgJsonUnescape rest).map (p.char :: ·) := by
  cases p with
  | plain c =>
      have hback : c.val ≠ '\\' := by
        intro heq
        have := c.property
        rw [heq] at this
        exact absurd this (by decide)
      show mgJsonUnescape (c.val :: rest) = _
      simp [mgJsonUnescape, hback, Piece.char]
  | escape c =>
      obtain ⟨c, hc⟩ := c
      have hslash : c ≠ '/' := hp
      simp only [isEscape, Bool.or_eq_true, decide_eq_true_eq] at hc
      show mgJsonUnescape ('\\' :: c :: rest) = _
      rcases hc with ((((((rfl | rfl) | rfl) | rfl) | rfl) | rfl) | rfl) | rfl <;>
        first
        | exact absurd rfl hslash
        | rfl
  | unicode c₁ c₂ c₃ c₄ =>
      show mgJsonUnescape ('\\' :: 'u' :: c₁.val :: c₂.val :: c₃.val :: c₄.val :: rest) = _
      rw [mgJsonUnescape, mgStrToByte_codePoint c₁.property c₂.property c₃.property c₄.property
        hp.2]
      rfl

/-- **The escapes of a string are undone.** -/
theorem mgJsonUnescape_pieces {s : List Piece} (hs : ∀ p ∈ s, Undone p) :
    mgJsonUnescape (piecesText s) = some (s.map Piece.char) := by
  induction s with
  | nil => rfl
  | cons p s ih =>
      have hrest := ih fun p' hp' => hs p' (List.mem_cons_of_mem p hp')
      show mgJsonUnescape (p.text ++ piecesText s) = _
      rw [mgJsonUnescape_piece (hs p List.mem_cons_self), hrest]
      rfl

/-- There is no terminator in it. -/
lemma char_ne_nul {p : Piece} (hp : Undone p) : p.char ≠ nul := by
  cases p with
  | plain c =>
      intro heq
      have := c.property
      rw [show c.val = nul from heq] at this
      exact absurd this (by decide)
  | escape c =>
      obtain ⟨c, hc⟩ := c
      simp only [isEscape, Bool.or_eq_true, decide_eq_true_eq] at hc
      show escaped c ≠ nul
      rcases hc with ((((((rfl | rfl) | rfl) | rfl) | rfl) | rfl) | rfl) | rfl <;> clear hp <;>
        decide
  | unicode c₁ c₂ c₃ c₄ =>
      intro heq
      have hzero := congrArg Char.toNat heq
      have hvalid : (codePoint c₁.val c₂.val c₃.val c₄.val).isValidChar := by
        have := hp.2
        left
        omega
      have hvalue : (Piece.unicode c₁ c₂ c₃ c₄).char.toNat =
          codePoint c₁.val c₂.val c₃.val c₄.val := by
        rw [Piece.char, Char.ofNat, dif_pos hvalid]
        rfl
      rw [hvalue] at hzero
      exact absurd hzero (Nat.pos_iff_ne_zero.mp hp.1)

/-- A string without escapes. -/
lemma undone_piecesOf (s : List Char) : ∀ p ∈ piecesOf s, Undone p := by
  intro p hp
  obtain ⟨c, -, hc⟩ := List.mem_filterMap.mp hp
  split at hc
  · cases hc
    trivial
  · cases hc

/-- The string that is read back. -/
lemma mgJsonUnescape_piecesOf {s : List Char} (h : ∀ c ∈ s, isPlain c = true) :
    mgJsonUnescape (piecesText (piecesOf s)) = some s := by
  rw [mgJsonUnescape_pieces (undone_piecesOf s), char_piecesOf h]

end Orchestrator
