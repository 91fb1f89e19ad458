import Orchestrator.Json.Document
import Mathlib.Algebra.Order.Floor.Ring
import Mathlib.Data.Rat.Floor
import Mathlib.Tactic.FieldSimp
import Mathlib.Tactic.Linarith
import Mathlib.Tactic.Positivity
import Mathlib.Tactic.Ring

/-!
# Numbers with a fixed number of decimals

The numeral that `printf` writes for a finite number with `%.pf`: the nearest one with `p` digits
after the decimal point, and of two nearest ones the even one.

* `Numeral.abs_fixed_sub_le` — it is off by half a unit of the last digit at most.
* `Numeral.fixed_value` — a number with at most `p` decimals is written exactly.
* `Numeral.length_fixed_le` — the width of the text.
-/

namespace Json

/-! ## Rounding -/

/-- The nearest integer, and of two the even one. -/
def roundHalfEven (x : ℚ) : ℤ :=
  if x - ⌊x⌋ < 1 / 2 then ⌊x⌋
  else if 1 / 2 < x - ⌊x⌋ then ⌊x⌋ + 1
  else if ⌊x⌋ % 2 = 0 then ⌊x⌋
  else ⌊x⌋ + 1

/-- It is at most one half away. -/
lemma abs_roundHalfEven_sub_le (x : ℚ) : |(roundHalfEven x : ℚ) - x| ≤ 1 / 2 := by
  have hlow := Int.floor_le x
  have hhigh := Int.lt_floor_add_one x
  rw [abs_le]
  unfold roundHalfEven
  split
  · constructor <;> linarith
  · split
    · push_cast
      constructor <;> linarith
    · split
      · constructor <;> linarith
      · push_cast
        constructor <;> linarith

/-- An integer stays. -/
lemma roundHalfEven_intCast (k : ℤ) : roundHalfEven k = k := by
  simp [roundHalfEven]

/-- A number that is not negative stays so. -/
lemma roundHalfEven_nonneg {x : ℚ} (h : 0 ≤ x) : 0 ≤ roundHalfEven x := by
  have hfloor : 0 ≤ ⌊x⌋ := Int.floor_nonneg.mpr h
  unfold roundHalfEven
  split_ifs <;> omega

/-- No integer is passed. -/
lemma roundHalfEven_le {x : ℚ} {k : ℤ} (h : x ≤ k) : roundHalfEven x ≤ k := by
  by_contra hlt
  push Not at hlt
  have hround := abs_roundHalfEven_sub_le x
  have hcast : (k : ℚ) + 1 ≤ roundHalfEven x := by exact_mod_cast hlt
  rw [abs_le] at hround
  linarith [hround.2]

/-! ## Digits -/

/-- The last `p` digits of `m`. -/
def lastDigits : (p m : ℕ) → List (Fin 10)
  | 0, _ => []
  | p + 1, m => lastDigits p (m / 10) ++ [⟨m % 10, Nat.mod_lt m (by decide)⟩]

@[simp] lemma length_lastDigits (p m : ℕ) : (lastDigits p m).length = p := by
  induction p generalizing m with
  | zero => rfl
  | succ p ih => rw [lastDigits, List.length_append, ih, List.length_singleton]

/-- Their value. -/
lemma digitsValue_lastDigits (p m : ℕ) : digitsValue (lastDigits p m) = m % 10 ^ p := by
  induction p generalizing m with
  | zero => simp [lastDigits, digitsValue, Nat.mod_one]
  | succ p ih =>
      have hvalue : digitsValue (lastDigits (p + 1) m) =
          10 * digitsValue (lastDigits p (m / 10)) + m % 10 := by
        rw [lastDigits, digitsValue, List.foldl_append]
        rfl
      rw [hvalue, ih, pow_succ, Nat.mul_comm (10 ^ p) 10, Nat.mod_mul]
      omega

/-! ## The numeral -/

/-- The number `x` with `p` digits after the decimal point. -/
def Numeral.fixed (p : ℕ) (x : ℚ) : Numeral :=
  let n := (roundHalfEven (|x| * 10 ^ p)).toNat
  { negative := decide (x < 0), whole := n / 10 ^ p, fraction := lastDigits p n }

/-- The value of the numeral, from the rounded number of units. -/
lemma Numeral.fixed_value_eq (p : ℕ) (x : ℚ) :
    (Numeral.fixed p x).value =
      (if x < 0 then -1 else 1) * ((roundHalfEven (|x| * 10 ^ p) : ℚ) / 10 ^ p) := by
  have hnonneg : 0 ≤ roundHalfEven (|x| * 10 ^ p) := roundHalfEven_nonneg (by positivity)
  obtain ⟨n, hn⟩ := Int.eq_ofNat_of_zero_le hnonneg
  have hsplit : (n : ℚ) = (n / 10 ^ p : ℕ) * 10 ^ p + (n % 10 ^ p : ℕ) := by
    exact_mod_cast (Nat.div_add_mod' n (10 ^ p)).symm
  have hpow : (10 : ℚ) ^ p ≠ 0 := by positivity
  rw [Numeral.value]
  simp only [Numeral.fixed, hn, Int.toNat_natCast, length_lastDigits, digitsValue_lastDigits,
    Option.map_none, Option.getD_none, zpow_zero, mul_one,
    decide_eq_true_eq, Int.cast_natCast]
  congr 1
  rw [hsplit]
  field_simp

/-- **The numeral is off by half a unit** of its last digit at most. -/
theorem Numeral.abs_fixed_sub_le (p : ℕ) (x : ℚ) :
    |(Numeral.fixed p x).value - x| ≤ 1 / (2 * 10 ^ p) := by
  have hpow : (0 : ℚ) < 10 ^ p := by positivity
  have hround := abs_roundHalfEven_sub_le (|x| * 10 ^ p)
  have hunits : |(roundHalfEven (|x| * 10 ^ p) : ℚ) / 10 ^ p - (|x|)| ≤ 1 / (2 * 10 ^ p) := by
    have hdiv : (roundHalfEven (|x| * 10 ^ p) : ℚ) / 10 ^ p - |x| =
        ((roundHalfEven (|x| * 10 ^ p) : ℚ) - |x| * 10 ^ p) / 10 ^ p := by
      field_simp
    rw [hdiv, abs_div, abs_of_pos hpow, div_le_iff₀ hpow]
    calc |(roundHalfEven (|x| * 10 ^ p) : ℚ) - |x| * 10 ^ p|
        ≤ 1 / 2 := hround
      _ = 1 / (2 * 10 ^ p) * 10 ^ p := by field_simp
  rw [Numeral.fixed_value_eq]
  split
  · next hneg =>
    have habs : x = -|x| := by rw [abs_of_neg hneg, neg_neg]
    have hsame : -1 * ((roundHalfEven (|x| * 10 ^ p) : ℚ) / 10 ^ p) - x =
        -((roundHalfEven (|x| * 10 ^ p) : ℚ) / 10 ^ p - |x|) := by
      nth_rewrite 2 [habs]
      ring
    rw [hsame, abs_neg]
    exact hunits
  · next hpos =>
    have habs : |x| = x := abs_of_nonneg (not_lt.mp hpos)
    rw [one_mul]
    nth_rewrite 2 [← habs]
    exact hunits

/-- **A number with at most `p` decimals is written exactly.** -/
theorem Numeral.fixed_value {p : ℕ} {x : ℚ} {k : ℤ} (h : x * 10 ^ p = k) :
    (Numeral.fixed p x).value = x := by
  have hpow : (10 : ℚ) ^ p ≠ 0 := by positivity
  have hpos : (0 : ℚ) < 10 ^ p := by positivity
  have habs : |x| * 10 ^ p = ((|k| : ℤ) : ℚ) := by
    rw [Int.cast_abs, ← h, abs_mul, abs_of_pos hpos]
  rw [Numeral.fixed_value_eq, habs, roundHalfEven_intCast, ← habs, mul_div_assoc, div_self hpow,
    mul_one]
  split
  · next hneg => rw [abs_of_neg hneg, neg_one_mul, neg_neg]
  · next hnonneg => rw [abs_of_nonneg (not_lt.mp hnonneg), one_mul]

/-- **The width of the text** of a number with at most `k` digits before the point. -/
theorem Numeral.length_fixed_le {p k : ℕ} {x : ℚ} (hk : 0 < k)
    (h : |x| * 10 ^ p ≤ ((10 ^ (k + p) - 1 : ℕ) : ℚ)) :
    (Numeral.fixed p x).text.length ≤ k + p + 2 := by
  have hround : roundHalfEven (|x| * 10 ^ p) ≤ ((10 ^ (k + p) - 1 : ℕ) : ℤ) :=
    roundHalfEven_le (by exact_mod_cast h)
  have hpow : 0 < 10 ^ (k + p) := by positivity
  have hlt : (roundHalfEven (|x| * 10 ^ p)).toNat < 10 ^ k * 10 ^ p := by
    rw [← pow_add]
    omega
  have hwhole : (Numeral.fixed p x).whole < 10 ^ k := 
    (Nat.div_lt_iff_lt_mul (by positivity)).mpr hlt
  have hlen := (Nat.length_toDigits_le_iff (b := 10) (by decide) hk).mpr hwhole
  have hfraction : (fractionText (Numeral.fixed p x).fraction).length ≤ p + 1 := by
    unfold fractionText
    split
    · simp
    · have hdigits : (Numeral.fixed p x).fraction.length = p := length_lastDigits _ _
      simp [digitsText, hdigits]
  have hsign : (if (Numeral.fixed p x).negative then ['-'] else []).length ≤ 1 := by
    split <;> simp
  have hexponent : (exponentText (Numeral.fixed p x).exponent).length = 0 := rfl
  rw [Numeral.text, List.length_append, List.length_append, List.length_append]
  omega

end Json
