import Mathlib.Algebra.Group.Nat.Defs
import Mathlib.Data.List.Basic
import Mathlib.Tactic.Common

/-!
# Tokens of JSON texts

A scanner that reads a text character by character.  It covers the JSON texts whose numbers are
integers and whose strings are written without escapes.

* `intOfDigits?_decimal` — an integer is read back from its decimal digits.
* `length_decimal_le` — the width of a number of bounded size.
* `Scans.append` — scanning is sequential.
* `Scans.str`, `Scans.int` — the texts of strings and integers.
-/

namespace Json

/-- The tokens of a text, without white space. -/
inductive Token
  | lbrace
  | rbrace
  | lbracket
  | rbracket
  | colon
  | comma
  | str (s : List Char)
  | int (n : Int)
  deriving DecidableEq

/-! ## Integers -/

/-- The decimal digits of `n`, after the sign if there is one. -/
def decimal (n : Int) : List Char :=
  if n < 0 then '-' :: Nat.toDigits 10 n.natAbs else Nat.toDigits 10 n.natAbs

/-- A non-negative integer: digits, the first of which is zero only if it is the only one. -/
def natOfDigits? (cs : List Char) : Option ℕ :=
  if cs ≠ [] ∧ cs.all Char.isDigit ∧ (cs.head? = some '0' → cs.length = 1) then
    some (Nat.ofDigitChars 10 cs 0)
  else none

/-- An integer: digits with or without a minus sign. -/
def intOfDigits? : List Char → Option Int
  | '-' :: cs => (natOfDigits? cs).map fun n : ℕ => -(n : Int)
  | cs => (natOfDigits? cs).map Int.ofNat

lemma isDigit_of_mem_toDigits {n : ℕ} {c : Char} (h : c ∈ Nat.toDigits 10 n) : c.isDigit :=
  Nat.isDigit_of_mem_toDigits (by decide) (by decide) h

/-- There are no leading zeros. -/
lemma head?_toDigits_ne {n : ℕ} (hn : n ≠ 0) : (Nat.toDigits 10 n).head? ≠ some '0' := by
  induction n using Nat.strongRecOn with
  | ind n ih =>
      rw [Nat.toDigits_eq_if (by decide)]
      split
      · simpa using hn
      · next hlt =>
        rw [List.head?_append_of_ne_nil _ Nat.toDigits_ne_nil]
        exact ih (n / 10) (by omega) (by omega)

lemma natOfDigits?_toDigits (n : ℕ) : natOfDigits? (Nat.toDigits 10 n) = some n := by
  have hzero : (Nat.toDigits 10 n).head? = some '0' → (Nat.toDigits 10 n).length = 1 := by
    intro hhead
    by_cases hn : n = 0
    · rw [hn, Nat.toDigits_zero]
      rfl
    · exact absurd hhead (head?_toDigits_ne hn)
  have hdigits : (Nat.toDigits 10 n).all Char.isDigit := by
    rw [List.all_eq_true]
    exact fun c hc => isDigit_of_mem_toDigits hc
  rw [natOfDigits?, if_pos ⟨Nat.toDigits_ne_nil, hdigits, hzero⟩,
    Nat.ofDigitChars_toDigits (by decide) (by decide)]

/-- **An integer is read back** from its decimal digits. -/
theorem intOfDigits?_decimal (n : Int) : intOfDigits? (decimal n) = some n := by
  rw [decimal]
  split
  · next hneg =>
    rw [intOfDigits?, natOfDigits?_toDigits, Option.map_some]
    congr 1
    omega
  · next hpos =>
    have hne : ∀ cs, Nat.toDigits 10 n.natAbs ≠ '-' :: cs := by
      intro cs heq
      have := isDigit_of_mem_toDigits (n := n.natAbs) (c := '-') (by rw [heq]; simp)
      exact absurd this (by decide)
    unfold intOfDigits?
    split
    · next cs heq => exact absurd heq (hne cs)
    · rw [natOfDigits?_toDigits, Option.map_some]
      congr 1
      show (n.natAbs : Int) = n
      omega

/-- **The width of a number** of at most `k` digits. -/
theorem length_decimal_le {n : Int} {k : ℕ} (hk : 0 < k) (h : n.natAbs < 10 ^ k) :
    (decimal n).length ≤ k + 1 := by
  have hlen := (Nat.length_toDigits_le_iff (b := 10) (by decide) hk).mpr h
  rw [decimal]
  split
  · simpa using hlen
  · omega

/-! ## The scanner -/

/-- What the scanner is in the middle of, with the characters it has read of it. -/
inductive LexState
  | between
  | string (read : List Char)
  | number (read : List Char)

/-- White space. -/
def isSpace (c : Char) : Bool := c = ' ' || c = '\t' || c = '\n' || c = '\r'

/-- The tokens of one character. -/
def punctuation : Char → Option Token
  | '\x7b' => some .lbrace
  | '\x7d' => some .rbrace
  | '[' => some .lbracket
  | ']' => some .rbracket
  | ':' => some .colon
  | ',' => some .comma
  | _ => none

/-- A character that starts something. -/
def start (c : Char) : Option (List Token × LexState) :=
  if isSpace c then some ([], .between)
  else if c = '"' then some ([], .string [])
  else if c = '-' || c.isDigit then some ([], .number [c])
  else (punctuation c).map fun t => ([t], .between)

/-- A character that may stand for itself in a string. -/
def isPlain (c : Char) : Bool := c ≠ '"' && c ≠ '\\' && 32 ≤ c.toNat

/-- One character: the tokens that it completes and the new state. -/
def LexState.step : LexState → Char → Option (List Token × LexState)
  | .between, c => start c
  | .string read, c =>
      if c = '"' then some ([.str read], .between)
      else if isPlain c then some ([], .string (read ++ [c]))
      else none
  | .number read, c =>
      if c.isDigit then some ([], .number (read ++ [c]))
      else do
        let n ← intOfDigits? read
        let (ts, st) ← start c
        some (.int n :: ts, st)

/-- A text: the tokens that it completes and the state after it. -/
def run : LexState → List Char → Option (List Token × LexState)
  | st, [] => some ([], st)
  | st, c :: cs => do
      let (ts, st) ← st.step c
      let (us, st) ← run st cs
      some (ts ++ us, st)

/-- The token that the end of the text completes. -/
def LexState.finish : LexState → Option (List Token)
  | .between => some []
  | .string _ => none
  | .number read => (intOfDigits? read).map fun n => [.int n]

/-- The tokens of a whole text. -/
def tokens? (cs : List Char) : Option (List Token) := do
  let (ts, st) ← run .between cs
  let us ← st.finish
  some (ts ++ us)

/-! ## What is scanned -/

/-- From `st`, the text `cs` completes the tokens `ts` and leads to `st'`. -/
def Scans (st : LexState) (cs : List Char) (ts : List Token) (st' : LexState) : Prop :=
  run st cs = some (ts, st')

variable {st st' st'' : LexState} {cs ds s : List Char} {ts us : List Token} {c : Char} {n : Int}

lemma Scans.nil : Scans st [] [] st := rfl

lemma Scans.cons (hstep : st.step c = some (ts, st')) (hrest : Scans st' cs us st'') :
    Scans st (c :: cs) (ts ++ us) st'' := by
  rw [Scans] at hrest ⊢
  simp [run, hstep, hrest]

/-- A character that completes nothing. -/
lemma Scans.skip (hstep : st.step c = some ([], st')) (hrest : Scans st' cs us st'') :
    Scans st (c :: cs) us st'' :=
  .cons hstep hrest

/-- **Texts are scanned one after the other.** -/
theorem Scans.append (h : Scans st cs ts st') (h' : Scans st' ds us st'') :
    Scans st (cs ++ ds) (ts ++ us) st'' := by
  induction cs generalizing st ts with
  | nil =>
      cases h
      exact h'
  | cons c cs ih =>
      simp only [Scans, run, Option.bind_eq_bind, Option.bind_eq_some_iff, Option.some.injEq] at h
      obtain ⟨⟨ts₁, st₁⟩, hstep, ⟨ts₂, st₂⟩, hrest, heq⟩ := h
      cases heq
      rw [List.append_assoc]
      exact .cons hstep (ih hrest)

lemma Scans.tokens?_eq (h : Scans .between cs ts .between) : tokens? cs = some ts := by
  rw [Scans] at h
  simp [tokens?, h, LexState.finish]

lemma scans_in_string (hplain : ∀ c ∈ s, isPlain c = true) (read : List Char) :
    Scans (.string read) s [] (.string (read ++ s)) := by
  induction s generalizing read with
  | nil =>
      rw [List.append_nil]
      exact .nil
  | cons c s ih =>
      have hc := hplain c List.mem_cons_self
      have hquote : c ≠ '"' := by
        rintro rfl
        exact absurd hc (by decide)
      have hrest := ih (fun d hd => hplain d (List.mem_cons_of_mem c hd)) (read ++ [c])
      rw [List.append_assoc, List.singleton_append] at hrest
      exact .skip (by simp [LexState.step, hquote, hc]) hrest

/-- **A string** between its quotes. -/
theorem Scans.str (hplain : ∀ c ∈ s, isPlain c = true) :
    Scans .between ('"' :: (s ++ ['"'])) [.str s] .between := by
  have hclose : Scans (.string ([] ++ s)) ['"'] ([.str s] ++ []) .between := .cons rfl .nil
  exact .skip rfl ((scans_in_string hplain []).append hclose)

lemma scans_in_number (hdigits : ∀ c ∈ cs, c.isDigit = true) (read : List Char) :
    Scans (.number read) cs [] (.number (read ++ cs)) := by
  induction cs generalizing read with
  | nil =>
      rw [List.append_nil]
      exact .nil
  | cons c cs ih =>
      have hc := hdigits c List.mem_cons_self
      have hrest := ih (fun d hd => hdigits d (List.mem_cons_of_mem c hd)) (read ++ [c])
      rw [List.append_assoc, List.singleton_append] at hrest
      exact .skip (by simp [LexState.step, hc]) hrest

/-- A digit or a minus sign begins a number. -/
lemma start_number (h : c = '-' ∨ c.isDigit = true) : start c = some ([], .number [c]) := by
  have hspace : isSpace c = false := by
    rw [← Bool.not_eq_true]
    intro hc
    simp only [isSpace, Bool.or_eq_true, decide_eq_true_eq] at hc
    rcases hc with ((rfl | rfl) | rfl) | rfl <;> revert h <;> decide
  have hquote : c ≠ '"' := by
    rintro rfl
    revert h
    decide
  have hnumber : (c = '-' || c.isDigit) = true := by simpa using h
  rw [start, hspace, if_neg (by simp), if_neg hquote, if_pos hnumber]

/-- The digits of an integer. -/
lemma scans_decimal (n : Int) : Scans .between (decimal n) [] (.number (decimal n)) := by
  have hdigits : ∀ c ∈ Nat.toDigits 10 n.natAbs, c.isDigit = true :=
    fun c hc => isDigit_of_mem_toDigits hc
  rw [decimal]
  split
  · exact .skip rfl (scans_in_number hdigits ['-'])
  · obtain ⟨c, cs, hcs⟩ := List.exists_cons_of_ne_nil
      (Nat.toDigits_ne_nil : Nat.toDigits 10 n.natAbs ≠ [])
    rw [hcs] at hdigits ⊢
    have hc := start_number (.inr (hdigits c List.mem_cons_self))
    exact .skip hc (scans_in_number (fun d hd => hdigits d (List.mem_cons_of_mem c hd)) [c])

/-- **An integer** is complete at the punctuation mark after it. -/
theorem Scans.int {t : Token} (n : Int) (hc : punctuation c = some t) :
    Scans .between (decimal n ++ [c]) [.int n, t] .between := by
  have hdigit : c.isDigit = false := by
    unfold punctuation at hc
    split at hc <;> first | rfl | cases hc
  have hstart : start c = some ([t], .between) := by
    unfold punctuation at hc
    split at hc <;> cases hc <;> rfl
  have hstep : (LexState.number (decimal n)).step c = some ([.int n, t], .between) := by
    simp [LexState.step, hdigit, intOfDigits?_decimal, hstart]
  have hend : Scans (.number (decimal n)) [c] ([.int n, t] ++ []) .between := .cons hstep .nil
  exact (scans_decimal n).append hend

end Json
