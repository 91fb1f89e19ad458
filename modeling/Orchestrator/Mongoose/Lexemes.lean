import Orchestrator.Json.Document
import Orchestrator.Mongoose.JsonGet
import Mathlib.Tactic.FieldSimp
import Mathlib.Tactic.Ring

/-!
# Strings and numbers as the reader passes them

The two scanners of the JSON reader stop where the grammar says that a string and a number end.

* `mgPassString_pieces` — a string ends at its closing quote, whatever its escapes.
* `mgAtod_numeral` — a number is read to its end, and its value is exact.
-/

namespace Orchestrator

open Json Printing

/-! ## Strings -/

/-- A character that is neither a backslash, a quote nor a terminator is passed. -/
lemma mgPassString_cons {c : Char} (hback : c ≠ '\\') (hquote : c ≠ '"') (hnul : c ≠ nul)
    (s : List Char) : mgPassString (c :: s) = (mgPassString s).map (· + 1) := by
  cases s with
  | nil => simp [mgPassString, hquote, hnul]
  | cons e s => simp [mgPassString, hback, hquote, hnul]

lemma mgPassString_plain {c : Char} (h : isPlain c = true) (s : List Char) :
    mgPassString (c :: s) = (mgPassString s).map (· + 1) := by
  refine mgPassString_cons ?_ ?_ ?_ s
  · rintro rfl
    exact absurd h (by decide)
  · rintro rfl
    exact absurd h (by decide)
  · rintro rfl
    exact absurd h (by decide)

/-- A hexadecimal digit stands for itself. -/
lemma isPlain_of_isHex {c : Char} (h : isHex c = true) : isPlain c = true := by
  have hlow : 48 ≤ c.toNat ∧ c ≠ '\\' := by
    simp only [isHex, Bool.or_eq_true, Bool.and_eq_true, decide_eq_true_eq, Char.isDigit,
      ge_iff_le, Char.le_def, UInt32.le_iff_toNat_le] at h
    have hval : c.toNat = c.val.toNat := rfl
    refine ⟨?_, ?_⟩
    · rcases h with (⟨h, -⟩ | ⟨h, -⟩) | ⟨h, -⟩ <;> simp at h <;> omega
    · rintro rfl
      revert h
      decide
  have hquote : c ≠ '"' := by
    rintro rfl
    exact absurd hlow.1 (by decide)
  simp [isPlain, hquote, hlow.2]
  omega

/-- The character after a backslash is passed with it or after it. -/
lemma mgPassString_escape {e : Char} (h : isEscape e = true) (s : List Char) :
    mgPassString ('\\' :: e :: s) = (mgPassString s).map (· + 2) := by
  by_cases hpair : e = '\\' ∨ e = '"'
  · have hesc : (jsonEsc e true).isSome = true := by
      rcases hpair with rfl | rfl <;> rfl
    simp [mgPassString, hesc]
  · push Not at hpair
    simp only [isEscape, Bool.or_eq_true, decide_eq_true_eq] at h
    have hesc : (jsonEsc e true).isSome = false := by
      rcases h with ((((((rfl | rfl) | rfl) | rfl) | rfl) | rfl) | rfl) | rfl <;>
        first
        | rfl
        | exact absurd rfl hpair.1
        | exact absurd rfl hpair.2
    have hnul : e ≠ nul := by
      rintro rfl
      revert h
      decide
    simp [mgPassString, hesc, mgPassString_cons hpair.1 hpair.2 hnul, Function.comp_def,
      show ('\\' : Char) ≠ nul by decide]

/-- So is a piece of a string. -/
lemma mgPassString_piece (p : Piece) (s : List Char) :
    mgPassString (p.text ++ s) = (mgPassString s).map (· + p.text.length) := by
  cases p with
  | plain c => exact mgPassString_plain c.property s
  | escape c => exact mgPassString_escape c.property s
  | unicode c₁ c₂ c₃ c₄ =>
      have hu : mgPassString ('\\' :: 'u' :: (c₁.val :: c₂.val :: c₃.val :: c₄.val :: s)) =
          (mgPassString ('u' :: (c₁.val :: c₂.val :: c₃.val :: c₄.val :: s))).map (· + 1) := by
        have hesc : (jsonEsc 'u' true).isSome = false := rfl
        simp [mgPassString, hesc, show ('\\' : Char) ≠ nul by decide]
      show mgPassString ('\\' :: 'u' :: (c₁.val :: c₂.val :: c₃.val :: c₄.val :: s)) = _
      rw [hu, mgPassString_plain (by decide),
        mgPassString_plain (isPlain_of_isHex c₁.property),
        mgPassString_plain (isPlain_of_isHex c₂.property),
        mgPassString_plain (isPlain_of_isHex c₃.property),
        mgPassString_plain (isPlain_of_isHex c₄.property)]
      simp [Function.comp_def, Piece.text]

/-- **A string ends at its closing quote.** -/
theorem mgPassString_pieces (s : List Piece) (rest : List Char) :
    mgPassString (piecesText s ++ '"' :: rest) = some (piecesText s).length := by
  induction s with
  | nil =>
      show mgPassString ('"' :: rest) = some 0
      cases rest <;> rfl
  | cons p s ih =>
      have htext : piecesText (p :: s) = p.text ++ piecesText s := rfl
      rw [htext, List.append_assoc, mgPassString_piece, ih, List.length_append, Option.map_some,
        Nat.add_comm]

/-! ## Numbers -/

/-- A text before which a value ends: it is empty, or begins with white space, a comma or a closing
bracket. -/
def Delimited (rest : List Char) : Prop :=
  ∀ c ∈ rest.head?, isSpace c = true ∨ c = ',' ∨ c = ']' ∨ c = '\x7d'

/-- Such a text does not go on with a number. -/
lemma Delimited.head_ne {rest : List Char} (h : Delimited rest) {c : Char}
    (hc : rest.head? = some c) : c.isDigit = false ∧ c ≠ '.' ∧ c ≠ 'e' ∧ c ≠ 'E' := by
  have hcases := h c hc
  simp only [isSpace, Bool.or_eq_true, decide_eq_true_eq] at hcases
  rcases hcases with (((rfl | rfl) | rfl) | rfl) | rfl | rfl | rfl <;> decide

/-- The text does not begin with a digit. -/
def NoDigit (rest : List Char) : Prop := ∀ c ∈ rest.head?, c.isDigit = false

@[simp] lemma digitOf_digitChar (d : Fin 10) : digitOf (Nat.digitChar d) = d := by
  revert d
  decide

@[simp] lemma isDigit_digitChar (d : Fin 10) : (Nat.digitChar d).isDigit = true := by
  revert d
  decide

/-- The first loop passes all digits. -/
lemma decimalLoop_append {cs rest : List Char} (hdigits : ∀ c ∈ cs, c.isDigit = true)
    (hrest : NoDigit rest) (n : ℕ) :
    decimalLoop (cs ++ rest) n = (((Nat.ofDigitChars 10 cs n : ℕ) : ℚ), rest) := by
  induction cs generalizing n with
  | nil =>
      rw [Nat.ofDigitChars_nil, List.nil_append]
      cases rest with
      | nil => rfl
      | cons c rest => simp [decimalLoop, hrest c rfl]
  | cons c cs ih =>
      have hc := hdigits c List.mem_cons_self
      have hnext := ih (fun e he => hdigits e (List.mem_cons_of_mem c he)) (10 * n + digitOf c)
      rw [Nat.ofDigitChars_cons]
      rw [List.cons_append, decimalLoop, if_pos hc]
      push_cast at hnext
      rw [mul_comm (n : ℚ) 10, hnext]
      rfl

/-- The second loop passes all digits. -/
lemma fractionLoop_digits (ds : List (Fin 10)) {rest : List Char} (hrest : NoDigit rest)
    (frac base : ℚ) :
    fractionLoop (digitsText ds ++ rest) frac base =
      (frac + base * 10 * (digitsValue ds / 10 ^ ds.length), rest) := by
  induction ds generalizing frac base with
  | nil =>
      simp only [digitsText, List.map_nil, List.nil_append, digitsValue, List.foldl_nil]
      cases rest with
      | nil => simp [fractionLoop]
      | cons c rest => simp [fractionLoop, hrest c rfl]
  | cons d ds ih =>
      have htext : digitsText (d :: ds) = Nat.digitChar d :: digitsText ds := rfl
      rw [htext, List.cons_append, fractionLoop, if_pos (isDigit_digitChar d), ih,
        digitsValue_cons, digitOf_digitChar, List.length_cons]
      push_cast
      congr 1
      field_simp
      ring

/-- The third loop passes the digits of a number below 3080. -/
lemma exponentLoop_digits (ds : List (Fin 10)) {rest : List Char} (hrest : NoDigit rest) (exp : ℕ)
    (hsmall : exp * 10 ^ ds.length + digitsValue ds < 3080) :
    exponentLoop (digitsText ds ++ rest) exp =
      (exp * 10 ^ ds.length + digitsValue ds, rest) := by
  induction ds generalizing exp with
  | nil =>
      simp only [digitsText, List.map_nil, List.nil_append, digitsValue, List.foldl_nil,
        List.length_nil, pow_zero, mul_one, add_zero]
      cases rest with
      | nil => rfl
      | cons c rest => simp [exponentLoop, hrest c rfl]
  | cons d ds ih =>
      have htext : digitsText (d :: ds) = Nat.digitChar d :: digitsText ds := rfl
      have hvalue : exp * 10 ^ (d :: ds).length + digitsValue (d :: ds) =
          (exp * 10 + d) * 10 ^ ds.length + digitsValue ds := by
        rw [digitsValue_cons, List.length_cons]
        ring
      rw [hvalue] at hsmall ⊢
      have hpow : exp * 10 + d ≤ (exp * 10 + d) * 10 ^ ds.length :=
        Nat.le_mul_of_pos_right _ (Nat.pow_pos (by decide))
      have hexp : exp < 308 := by omega
      rw [htext, List.cons_append, exponentLoop,
        if_pos ⟨isDigit_digitChar d, hexp⟩, digitOf_digitChar, ih _ hsmall]

/-- A number whose exponent `mg_atod` reads to the end. -/
def Readable (n : Numeral) : Prop := ∀ e ∈ n.exponent, digitsValue e.digits < 3080

/-- A sign or none, before digits. -/
lemma atodSign_text (negative : Bool) {c : Char} (hc : c.isDigit = true) (p : List Char) :
    atodSign ((if negative then ['-'] else []) ++ c :: p) =
      (if negative then -1 else 1, c :: p) := by
  cases negative with
  | true => rfl
  | false =>
      have hminus : c ≠ '-' := by
        rintro rfl
        exact absurd hc (by decide)
      have hplus : c ≠ '+' := by
        rintro rfl
        exact absurd hc (by decide)
      simp [atodSign, hminus, hplus]

/-- The decimal point and its digits. -/
lemma atodFraction_text (sign d : ℚ) (ds : List (Fin 10)) {rest : List Char}
    (hrest : NoDigit rest) (hpoint : rest.head? ≠ some '.') :
    atodFraction sign d (fractionText ds ++ rest) =
      (d + digitsValue ds / 10 ^ ds.length * sign, rest) := by
  by_cases hds : ds = []
  · subst hds
    cases rest with
    | nil => simp [fractionText, atodFraction, digitsValue]
    | cons c rest =>
        have hc : c ≠ '.' := fun heq => hpoint (by rw [heq]; rfl)
        simp [fractionText, atodFraction, digitsValue, hc]
  · rw [fractionText, if_neg hds, List.cons_append, atodFraction, fractionLoop_digits ds hrest]
    simp

/-- The sign of an exponent, before its digits. -/
lemma exponentSign_text (sign : ExponentSign) {c : Char} (hc : c.isDigit = true) (p : List Char) :
    (atodMinus (sign.text ++ c :: p)).1 = (sign = .minus) ∧
      atodPlus (atodMinus (sign.text ++ c :: p)).2 = c :: p := by
  have hminus : c ≠ '-' := by
    rintro rfl
    exact absurd hc (by decide)
  have hplus : c ≠ '+' := by
    rintro rfl
    exact absurd hc (by decide)
  cases sign <;> simp [ExponentSign.text, atodMinus, atodPlus, hminus, hplus]

/-- The exponent, before a text that ends the number. -/
lemma atodExponent_text (d : ℚ) (e : Option Exponent) (he : ∀ e' ∈ e, digitsValue e'.digits < 3080)
    {rest : List Char} (hrest : Delimited rest) :
    atodExponent d (exponentText e ++ rest) =
      (d * 10 ^ ((e.map Exponent.value).getD 0), rest) := by
  cases e with
  | none =>
      cases rest with
      | nil => simp [exponentText, atodExponent]
      | cons c rest =>
          have hc := hrest.head_ne (c := c) rfl
          simp [exponentText, atodExponent, hc.2.2.1, hc.2.2.2]
  | some e =>
      have hdigit : NoDigit rest := fun c hc => (hrest.head_ne hc).1
      have hsmall : digitsValue e.digits < 3080 := he e rfl
      obtain ⟨hminus, hplus⟩ := exponentSign_text e.sign (isDigit_digitChar e.first)
        (digitsText e.rest ++ rest)
      have hloop := exponentLoop_digits e.digits hdigit 0 (by omega)
      have htext : digitsText e.digits ++ rest =
          Nat.digitChar e.first :: (digitsText e.rest ++ rest) := rfl
      rw [htext] at hloop
      have hmark : (if e.capital then 'E' else 'e') = 'e' ∨
          (if e.capital then 'E' else 'e') = 'E' := by
        cases e.capital <;> simp
      have hexp : exponentText (some e) ++ rest = (if e.capital then 'E' else 'e') ::
          (e.sign.text ++ Nat.digitChar e.first :: (digitsText e.rest ++ rest)) := by
        simp [exponentText, Exponent.text, Exponent.digits, digitsText]
      rw [hexp, atodExponent, if_pos hmark]
      simp only [hplus, hloop, hminus, Option.map_some, Option.getD_some, Exponent.value]
      by_cases hneg : e.sign = .minus
      · simp [hneg, zpow_neg, div_eq_mul_inv]
      · simp [hneg]

/-- **A number is read to its end**, and its value is exact. -/
theorem mgAtod_numeral {n : Numeral} (hn : Readable n) {rest : List Char}
    (hrest : Delimited rest) : mgAtod (n.text ++ rest) = (n.value, n.text.length) := by
  obtain ⟨c, cs, hcs⟩ := List.exists_cons_of_ne_nil
    (Nat.toDigits_ne_nil : Nat.toDigits 10 n.whole ≠ [])
  have hdigits : ∀ d ∈ Nat.toDigits 10 n.whole, d.isDigit = true :=
    fun d hd => isDigit_of_mem_toDigits hd
  have hhead : ∀ d ∈ (exponentText n.exponent ++ rest).head?, d.isDigit = false ∧ d ≠ '.' := by
    intro d hd
    cases hexp : n.exponent with
    | none =>
        rw [hexp] at hd
        exact ⟨(hrest.head_ne hd).1, (hrest.head_ne hd).2.1⟩
    | some e =>
        rw [hexp] at hd
        obtain rfl : (if e.capital then 'E' else 'e') = d := Option.some.inj hd
        cases e.capital <;> decide
  have hnext : NoDigit (exponentText n.exponent ++ rest) := fun d hd => (hhead d hd).1
  have hpoint : (exponentText n.exponent ++ rest).head? ≠ some '.' := fun hd => (hhead _ hd).2 rfl
  have hfraction : NoDigit (fractionText n.fraction ++ (exponentText n.exponent ++ rest)) := by
    by_cases hds : n.fraction = []
    · rw [hds]
      exact hnext
    · rw [fractionText, if_neg hds]
      rintro d hd
      obtain rfl : '.' = d := Option.some.inj hd
      rfl
  have hsign := atodSign_text n.negative (hdigits c (by rw [hcs]; exact List.mem_cons_self))
    (cs ++ (fractionText n.fraction ++ (exponentText n.exponent ++ rest)))
  have hdecimal := decimalLoop_append hdigits hfraction 0
  rw [hcs, Nat.cast_zero] at hdecimal
  have htext : n.text ++ rest = (if n.negative then ['-'] else []) ++
      c :: (cs ++ (fractionText n.fraction ++ (exponentText n.exponent ++ rest))) := by
    simp [Numeral.text, hcs]
  have hvalue : (Nat.ofDigitChars 10 (c :: cs) 0 : ℕ) = n.whole := by
    rw [← hcs, Nat.ofDigitChars_ten_toDigits]
  rw [List.cons_append] at hdecimal
  have hread : mgAtod (n.text ++ rest) = (n.value, (n.text ++ rest).length - rest.length) := by
    rw [mgAtod, htext, hsign]
    simp only [hdecimal, hvalue, atodFraction_text _ _ _ hnext hpoint,
      atodExponent_text _ _ hn hrest, Numeral.value]
    congr 1
    ring
  rw [hread, List.length_append, Nat.add_sub_cancel]

end Orchestrator
