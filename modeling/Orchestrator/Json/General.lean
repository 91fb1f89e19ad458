import Orchestrator.Json.Fixed
import Mathlib.Algebra.Order.Field.Power
import Mathlib.Data.Int.Log
import Mathlib.Data.List.DropRight

/-!
# Numbers with some significant digits

The numeral that `printf` writes for a finite number with `%.Pg`, where `P` is `p + 1`: the nearest
number with `p + 1` significant digits, without an exponent while that of the first digit is between
-4 and `p`, and without zeros at the end of the fraction.

* `Numeral.abs_general_sub_le` — it is off by half a unit of the last digit at most.
* `Numeral.exponent_general` — the exponent that is written.
* `Numeral.length_general_le` — the width of the text.
-/

namespace Json

/-! ## Significant digits -/

/-- The nearest number to `a > 0` with `p + 1` significant digits: these digits as one integer, and
the decimal exponent of the first of them. -/
def scientific (p : ℕ) (a : ℚ) : ℕ × ℤ :=
  let e := Int.log 10 a
  let m := (roundHalfEven (a / 10 ^ (e - p))).toNat
  if m = 10 ^ (p + 1) then (10 ^ p, e + 1) else (m, e)

/-- No integer is passed. -/
lemma le_roundHalfEven {x : ℚ} {k : ℤ} (h : (k : ℚ) ≤ x) : k ≤ roundHalfEven x := by
  have hfloor : k ≤ ⌊x⌋ := Int.le_floor.mpr h
  unfold roundHalfEven
  split_ifs <;> omega

section Scientific

variable {p : ℕ} {a : ℚ}

/-- A positive number in units of its last significant digit. -/
lemma scaled_bounds (ha : 0 < a) :
    (10 : ℚ) ^ p ≤ a / 10 ^ (Int.log 10 a - p) ∧ a / 10 ^ (Int.log 10 a - p) ≤ 10 ^ (p + 1) := by
  have hunit : (0 : ℚ) < 10 ^ (Int.log 10 a - p) := by positivity
  have hlow : (10 : ℚ) ^ Int.log 10 a ≤ a := by
    exact_mod_cast Int.zpow_log_le_self (b := 10) (by decide) ha
  have hhigh : a < (10 : ℚ) ^ (Int.log 10 a + 1) := by
    exact_mod_cast Int.lt_zpow_succ_log_self (b := 10) (by decide) a
  rw [le_div_iff₀ hunit, div_le_iff₀ hunit, ← zpow_natCast, ← zpow_natCast,
    ← zpow_add₀ (by norm_num), ← zpow_add₀ (by norm_num)]
  have hfirst : ((p : ℕ) : ℤ) + (Int.log 10 a - p) = Int.log 10 a := by omega
  have hlast : ((p + 1 : ℕ) : ℤ) + (Int.log 10 a - p) = Int.log 10 a + 1 := by
    push_cast
    omega
  rw [hfirst, hlast]
  exact ⟨hlow, hhigh.le⟩

/-- The digits as an integer, before a carry. -/
lemma rounded_bounds (ha : 0 < a) :
    10 ^ p ≤ (roundHalfEven (a / 10 ^ (Int.log 10 a - p))).toNat ∧
      (roundHalfEven (a / 10 ^ (Int.log 10 a - p))).toNat ≤ 10 ^ (p + 1) := by
  obtain ⟨hlow, hhigh⟩ := scaled_bounds (p := p) ha
  have hle : ((10 ^ p : ℕ) : ℤ) ≤ roundHalfEven (a / 10 ^ (Int.log 10 a - p)) :=
    le_roundHalfEven (by exact_mod_cast hlow)
  have hge : roundHalfEven (a / 10 ^ (Int.log 10 a - p)) ≤ ((10 ^ (p + 1) : ℕ) : ℤ) :=
    roundHalfEven_le (by exact_mod_cast hhigh)
  omega

/-- There are `p + 1` digits. -/
lemma scientific_bounds (ha : 0 < a) :
    10 ^ p ≤ (scientific p a).1 ∧ (scientific p a).1 < 10 ^ (p + 1) := by
  obtain ⟨hlow, hhigh⟩ := rounded_bounds (p := p) ha
  unfold scientific
  dsimp only
  split
  · exact ⟨le_rfl, Nat.pow_lt_pow_right (by decide) (Nat.lt_succ_self p)⟩
  · next hne => exact ⟨hlow, Nat.lt_of_le_of_ne hhigh hne⟩

/-- What they stand for, before a carry. -/
lemma scientific_value (ha : 0 < a) :
    ((scientific p a).1 : ℚ) * 10 ^ ((scientific p a).2 - p) =
      roundHalfEven (a / 10 ^ (Int.log 10 a - p)) * 10 ^ (Int.log 10 a - p) := by
  have hbounds := rounded_bounds (p := p) ha
  have hcast : ((roundHalfEven (a / 10 ^ (Int.log 10 a - p))).toNat : ℚ) =
      roundHalfEven (a / 10 ^ (Int.log 10 a - p)) := by
    have hnonneg : 0 ≤ roundHalfEven (a / 10 ^ (Int.log 10 a - p)) := by
      by_contra hneg
      have hpow : 0 < 10 ^ p := by positivity
      omega
    exact_mod_cast Int.toNat_of_nonneg hnonneg
  rw [← hcast]
  unfold scientific
  dsimp only
  split
  · next heq =>
    rw [heq]
    have hcarry : Int.log 10 a + 1 - p = 1 + (Int.log 10 a - p) := by ring
    rw [hcarry, zpow_add₀ (by norm_num)]
    push_cast
    ring
  · rfl

/-- **The nearest number** with `p + 1` significant digits. -/
theorem abs_scientific_sub_le (ha : 0 < a) :
    |((scientific p a).1 : ℚ) * 10 ^ ((scientific p a).2 - p) - a| ≤ a / (2 * 10 ^ p) := by
  have hunit : (0 : ℚ) < 10 ^ (Int.log 10 a - p) := by positivity
  have hpow : (0 : ℚ) < 10 ^ p := by positivity
  have hlow := (scaled_bounds (p := p) ha).1
  have hround := abs_roundHalfEven_sub_le (a / 10 ^ (Int.log 10 a - p))
  have hle : (10 : ℚ) ^ (Int.log 10 a - p) ≤ a / 10 ^ p := by
    rw [le_div_iff₀ hunit] at hlow
    rw [le_div_iff₀ hpow, mul_comm]
    exact hlow
  have hdiff : (roundHalfEven (a / 10 ^ (Int.log 10 a - p)) : ℚ) * 10 ^ (Int.log 10 a - p) - a =
      (roundHalfEven (a / 10 ^ (Int.log 10 a - p)) - a / 10 ^ (Int.log 10 a - p)) *
        10 ^ (Int.log 10 a - p) := by
    field_simp
  rw [scientific_value ha, hdiff, abs_mul, abs_of_pos hunit]
  calc |(roundHalfEven (a / 10 ^ (Int.log 10 a - p)) : ℚ) - a / 10 ^ (Int.log 10 a - p)| *
        10 ^ (Int.log 10 a - p)
      ≤ 1 / 2 * 10 ^ (Int.log 10 a - p) := mul_le_mul_of_nonneg_right hround hunit.le
    _ ≤ 1 / 2 * (a / 10 ^ p) := mul_le_mul_of_nonneg_left hle (by norm_num)
    _ = a / (2 * 10 ^ p) := by ring

end Scientific

/-! ## Digits -/

/-- Digits without the zeros at their end. -/
def trimZeros (ds : List (Fin 10)) : List (Fin 10) := ds.rdropWhile (· = 0)

/-- The zeros at the end of a fraction add nothing. -/
lemma trimZeros_value (ds : List (Fin 10)) :
    (digitsValue (trimZeros ds) : ℚ) / 10 ^ (trimZeros ds).length =
      digitsValue ds / 10 ^ ds.length := by
  induction ds using List.reverseRecOn with
  | nil => rfl
  | append_singleton ds d ih =>
      rw [trimZeros, List.rdropWhile_concat]
      split
      · next hzero =>
        have hd : d = 0 := of_decide_eq_true hzero
        have hvalue : digitsValue (ds ++ [d]) = 10 * digitsValue ds := by
          rw [digitsValue, List.foldl_append, hd]
          rfl
        have hlen : (ds ++ [d]).length = ds.length + 1 := by simp
        rw [← trimZeros, ih, hvalue, hlen, pow_succ]
        push_cast
        field_simp
      · rfl

lemma length_trimZeros_le (ds : List (Fin 10)) : (trimZeros ds).length ≤ ds.length :=
  (List.rdropWhile_prefix _ _).length_le

/-- The exponent `e` with at least two digits. -/
def exponentOf (e : ℤ) : Exponent :=
  let k := max 1 (Nat.log 10 e.natAbs)
  { capital := false
    sign := if e < 0 then .minus else .plus
    first := ⟨e.natAbs / 10 ^ k % 10, Nat.mod_lt _ (by decide)⟩
    rest := lastDigits k e.natAbs }

/-- Its digits. -/
lemma digitsValue_exponentOf (e : ℤ) : digitsValue (exponentOf e).digits = e.natAbs := by
  have hlt : e.natAbs < 10 ^ (max 1 (Nat.log 10 e.natAbs) + 1) :=
    (Nat.lt_pow_succ_log_self (by decide) e.natAbs).trans_le
      (Nat.pow_le_pow_right (by decide) (by omega))
  have hfirst : e.natAbs / 10 ^ max 1 (Nat.log 10 e.natAbs) < 10 := by
    rw [Nat.div_lt_iff_lt_mul (by positivity), mul_comm, ← pow_succ]
    exact hlt
  rw [Exponent.digits, digitsValue_cons]
  simp only [exponentOf, length_lastDigits, digitsValue_lastDigits, Nat.mod_eq_of_lt hfirst]
  exact Nat.div_add_mod' _ _

/-- **It is the exponent.** -/
lemma exponentOf_value (e : ℤ) : (exponentOf e).value = e := by
  rw [Exponent.value, digitsValue_exponentOf]
  by_cases he : e < 0
  · have hsign : (exponentOf e).sign = .minus := if_pos he
    rw [if_pos hsign]
    omega
  · have hsign : (exponentOf e).sign = .plus := if_neg he
    rw [if_neg (by rw [hsign]; decide)]
    omega

/-! ## The numeral -/

/-- The number `x` with at most `p + 1` significant digits. -/
def Numeral.general (p : ℕ) (x : ℚ) : Numeral :=
  if x = 0 then { negative := false, whole := 0 }
  else
    let (m, e) := scientific p |x|
    if -4 ≤ e ∧ e ≤ p then
      let k := (p - e).toNat
      { negative := decide (x < 0), whole := m / 10 ^ k, fraction := trimZeros (lastDigits k m) }
    else
      { negative := decide (x < 0), whole := m / 10 ^ p, fraction := trimZeros (lastDigits p m)
        exponent := some (exponentOf e) }

/-- A numeral with the digits of `m`, `k` of them after the point. -/
lemma whole_add_fraction (m k : ℕ) :
    ((m / 10 ^ k : ℕ) : ℚ) + digitsValue (trimZeros (lastDigits k m)) /
      10 ^ (trimZeros (lastDigits k m)).length = m / 10 ^ k := by
  have hsplit : (m : ℚ) = (m / 10 ^ k : ℕ) * 10 ^ k + (m % 10 ^ k : ℕ) := by
    exact_mod_cast (Nat.div_add_mod' m (10 ^ k)).symm
  rw [trimZeros_value, digitsValue_lastDigits, length_lastDigits]
  rw [hsplit]
  field_simp

/-- The value of the numeral, from its significant digits. -/
lemma Numeral.general_value {p : ℕ} {x : ℚ} (hx : x ≠ 0) :
    (Numeral.general p x).value = (if x < 0 then -1 else 1) *
      ((scientific p |x|).1 * 10 ^ ((scientific p |x|).2 - p)) := by
  rw [Numeral.general, if_neg hx]
  dsimp only
  split
  · next hshort =>
    have hexp : (10 : ℚ) ^ ((scientific p |x|).2 - p) =
        1 / 10 ^ ((p : ℤ) - (scientific p |x|).2).toNat := by
      rw [← zpow_natCast, Int.toNat_of_nonneg (by omega), one_div, ← zpow_neg, neg_sub]
    simp only [Numeral.value, whole_add_fraction, Option.map_none, Option.getD_none, zpow_zero,
      mul_one, decide_eq_true_eq]
    rw [hexp]
    ring
  · next hlong =>
    simp only [Numeral.value, whole_add_fraction, Option.map_some, Option.getD_some,
      exponentOf_value, decide_eq_true_eq]
    rw [zpow_sub₀ (by norm_num), zpow_natCast]
    ring

/-- **The numeral is off by half a unit** of its last significant digit at most. -/
theorem Numeral.abs_general_sub_le (p : ℕ) (x : ℚ) :
    |(Numeral.general p x).value - x| ≤ |x| / (2 * 10 ^ p) := by
  by_cases hx : x = 0
  · have hzero : (Numeral.general p x).value = 0 := by
      rw [Numeral.general, if_pos hx]
      simp [Numeral.value, digitsValue]
    rw [hzero, hx]
    simp
  · have hround := abs_scientific_sub_le (p := p) (abs_pos.mpr hx)
    rw [Numeral.general_value hx]
    split
    · next hneg =>
      have hsame : -1 * (((scientific p |x|).1 : ℚ) * 10 ^ ((scientific p |x|).2 - p)) - x =
          -((scientific p |x|).1 * 10 ^ ((scientific p |x|).2 - p) - |x|) := by
        rw [abs_of_neg hneg]
        ring
      rw [hsame, abs_neg]
      exact hround
    · next hpos =>
      have habs : |x| = x := abs_of_nonneg (not_lt.mp hpos)
      rw [one_mul]
      nth_rewrite 3 [← habs]
      exact hround

/-! ## The size of the numeral -/

/-- A number that is zero or lies between `10 ^ -n` and `10 ^ n`. -/
def Within (n : ℕ) (x : ℚ) : Prop := x = 0 ∨ (10 : ℚ) ^ (-n : ℤ) ≤ |x| ∧ |x| < 10 ^ n

lemma Within.mono {n m : ℕ} {x : ℚ} (h : Within n x) (hle : n ≤ m) : Within m x := by
  rcases h with h | ⟨hlow, hhigh⟩
  · exact .inl h
  · refine .inr ⟨?_, ?_⟩
    · exact (zpow_le_zpow_right₀ (by norm_num) (by omega)).trans hlow
    · exact hhigh.trans_le (pow_le_pow_right₀ (by norm_num) hle)

/-- A quotient of numbers with at most `k` digits. -/
lemma within_ratio {a b k : ℕ} (ha : a < 10 ^ k) (hb : b < 10 ^ k) : Within k ((a : ℚ) / b) := by
  by_cases ha0 : a = 0
  · exact .inl (by rw [ha0]; simp)
  by_cases hb0 : b = 0
  · exact .inl (by rw [hb0]; simp)
  have hapos : 1 ≤ a := Nat.one_le_iff_ne_zero.mpr ha0
  have hbpos : 1 ≤ b := Nat.one_le_iff_ne_zero.mpr hb0
  have hb' : (0 : ℚ) < b := by exact_mod_cast hbpos
  rw [Within, abs_of_nonneg (by positivity)]
  refine .inr ⟨?_, ?_⟩
  · have hle : b ≤ a * 10 ^ k := hb.le.trans (Nat.le_mul_of_pos_left _ hapos)
    rw [zpow_neg, zpow_natCast, inv_eq_one_div, div_le_div_iff₀ (by positivity) hb', one_mul]
    exact_mod_cast hle
  · have hlt : a < 10 ^ k * b := ha.trans_le (Nat.le_mul_of_pos_right _ hbpos)
    rw [div_lt_iff₀ hb']
    exact_mod_cast hlt

/-- The same number in millions. -/
lemma Within.div_million {k : ℕ} {x : ℚ} (h : Within k x) : Within (k + 6) (x / 1000000) := by
  rcases h with h | ⟨hlow, hhigh⟩
  · exact .inl (by rw [h, zero_div])
  have habs : |x / 1000000| = |x| / 1000000 := by
    rw [abs_div]
    norm_num
  have hpow : (10 : ℚ) ^ (-(k + 6 : ℕ) : ℤ) = 10 ^ (-k : ℤ) / 1000000 := by
    have hsum : (-(k + 6 : ℕ) : ℤ) = -k + -6 := by
      push_cast
      ring
    rw [hsum, zpow_add₀ (by norm_num), div_eq_mul_inv]
    norm_num
  rw [Within, habs, hpow]
  refine .inr ⟨div_le_div_of_nonneg_right hlow (by norm_num), ?_⟩
  calc |x| / 1000000 ≤ |x| := div_le_self (abs_nonneg x) (by norm_num)
    _ < 10 ^ k := hhigh
    _ ≤ 10 ^ (k + 6) := pow_le_pow_right₀ (by norm_num) (Nat.le_add_right k 6)

/-- The exponent of such a number. -/
lemma scientific_exponent {p n : ℕ} {a : ℚ} (ha : 0 < a) (hlow : (10 : ℚ) ^ (-n : ℤ) ≤ a)
    (hhigh : a < 10 ^ n) : (scientific p a).2.natAbs ≤ n := by
  have hle : -n ≤ Int.log 10 a :=
    (Int.zpow_le_iff_le_log (b := 10) (by decide) ha).mp (by exact_mod_cast hlow)
  have hlt : Int.log 10 a < n :=
    (Int.lt_zpow_iff_log_lt (b := 10) (by decide) ha).mp (by exact_mod_cast hhigh)
  unfold scientific
  dsimp only
  split
  · show (Int.log 10 a + 1).natAbs ≤ n
    omega
  · show (Int.log 10 a).natAbs ≤ n
    omega

/-- **The exponent that is written.** -/
theorem Numeral.exponent_general {p n : ℕ} {x : ℚ} (h : Within n x) :
    ∀ e ∈ (Numeral.general p x).exponent, digitsValue e.digits ≤ n := by
  intro e he
  rw [Numeral.general] at he
  split at he
  · cases he
  · next hx =>
    obtain ⟨hlow, hhigh⟩ := h.resolve_left hx
    dsimp only at he
    split at he
    · cases he
    · cases he
      rw [digitsValue_exponentOf]
      exact scientific_exponent (abs_pos.mpr hx) hlow hhigh

/-- The text of an exponent of at most three digits. -/
lemma length_exponentText_le {e : ℤ} (h : e.natAbs < 1000) :
    (exponentText (some (exponentOf e))).length ≤ 5 := by
  have hlog : Nat.log 10 e.natAbs ≤ 2 := by
    have hlt : Nat.log 10 e.natAbs < 3 := Nat.log_lt_of_lt_pow' (by decide) h
    omega
  have hdigits : (exponentOf e).digits.length = max 1 (Nat.log 10 e.natAbs) + 1 := by
    rw [Exponent.digits, List.length_cons]
    simp [exponentOf]
  have hsign : (exponentOf e).sign.text.length ≤ 1 := by
    cases (exponentOf e).sign <;> decide
  show ((exponentOf e).text).length ≤ 5
  rw [Exponent.text, List.length_cons, List.length_append]
  simp only [digitsText, List.length_map, hdigits]
  omega

lemma length_fractionText_le (ds : List (Fin 10)) : (fractionText ds).length ≤ ds.length + 1 := by
  unfold fractionText
  split
  · simp
  · simp [digitsText]

/-- **The width of the text** of a number within `10 ^ -999` and `10 ^ 999`. -/
theorem Numeral.length_general_le {p : ℕ} {x : ℚ} (h : Within 999 x) :
    (Numeral.general p x).text.length ≤ p + 8 := by
  by_cases hx : x = 0
  · rw [Numeral.general, if_pos hx]
    show 1 ≤ p + 8
    omega
  · obtain ⟨hlow, hhigh⟩ := h.resolve_left hx
    have hexp := scientific_exponent (p := p) (abs_pos.mpr hx) hlow hhigh
    obtain ⟨hfew, hmany⟩ := scientific_bounds (p := p) (abs_pos.mpr hx)
    have hsign : (if (decide (x < 0)) = true then ['-'] else []).length ≤ 1 := by
      split <;> simp
    rw [Numeral.general, if_neg hx]
    dsimp only
    split
    · next hshort =>
      obtain ⟨k, hk⟩ : ∃ k : ℕ, (p - (scientific p |x|).2).toNat = k := ⟨_, rfl⟩
      have hkle : k ≤ p + 4 := by omega
      have hwhole : (Nat.toDigits 10 ((scientific p |x|).1 / 10 ^ k)).length ≤
          max 1 (p + 1 - k) := by
        refine (Nat.length_toDigits_le_iff (b := 10) (by decide) (by omega)).mpr ?_
        rw [Nat.div_lt_iff_lt_mul (by positivity), ← pow_add]
        exact hmany.trans_le (Nat.pow_le_pow_right (by decide) (by omega))
      have hfraction := length_fractionText_le (trimZeros (lastDigits k (scientific p |x|).1))
      have htrim := length_trimZeros_le (lastDigits k (scientific p |x|).1)
      rw [length_lastDigits] at htrim
      rw [hk, Numeral.text, List.length_append, List.length_append, List.length_append]
      show _ + (_ + (_ + 0)) ≤ p + 8
      dsimp only at *
      omega
    · next hlong =>
      have hwhole : (Nat.toDigits 10 ((scientific p |x|).1 / 10 ^ p)).length ≤ 1 := by
        refine (Nat.length_toDigits_le_iff (b := 10) (by decide) (by decide)).mpr ?_
        rw [Nat.div_lt_iff_lt_mul (by positivity), ← pow_add, Nat.add_comm]
        exact hmany
      have hfraction := length_fractionText_le (trimZeros (lastDigits p (scientific p |x|).1))
      have htrim := length_trimZeros_le (lastDigits p (scientific p |x|).1)
      have hexponent := length_exponentText_le (e := (scientific p |x|).2) (by omega)
      rw [length_lastDigits] at htrim
      rw [Numeral.text, List.length_append, List.length_append, List.length_append]
      dsimp only at *
      omega

end Json
