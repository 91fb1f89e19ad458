import Mathlib.Algebra.GroupWithZero.Nat
import Mathlib.Data.Rat.Defs
import Mathlib.Algebra.Order.Ring.Unbundled.Rat

/-!
# Constants and number types

The constants of `include/config.h` that the modelled code reads, and the C types the data model
is written in.

* `unsigned long` is `ULong`, the integers modulo `2 ^ 64`.
* `int` is `Int`, with `intOfULong` for the places where the code narrows an `unsigned long`.
* `double` is `Double`: an exact rational or NaN.
-/

namespace Orchestrator

/-- `unsigned long`. -/
abbrev ULong := UInt64

/-- The implicit conversion of an `unsigned long` to a 32-bit `int`. -/
def intOfULong (x : ULong) : Int := (x.toBitVec.truncate 32).toInt

/-- The implicit conversion of an `int` to `unsigned long`. -/
def ulongOfInt (i : Int) : ULong := UInt64.ofBitVec (BitVec.ofInt 64 i)

/-- The product of two `int`s, in 32-bit two's complement. -/
def mulInt (x y : Int) : Int := (BitVec.ofInt 32 (x * y)).toInt

/-- A value that fits in an `int` is kept. -/
lemma intOfULong_of_lt {x : ULong} (h : x.toNat < 2 ^ 31) : intOfULong x = x.toNat := by
  have hx : x.toBitVec.toNat = x.toNat := rfl
  rw [intOfULong, BitVec.toInt_eq_toNat_of_lt]
  · simp only [BitVec.truncate_eq_setWidth, BitVec.toNat_setWidth, hx]
    omega
  · simp only [BitVec.truncate_eq_setWidth, BitVec.toNat_setWidth, hx]
    omega

/-- A difference that fits in an `int` is kept, with its sign. -/
lemma intOfULong_sub {x y : ULong} (hlow : -2 ^ 31 ≤ (x.toNat : Int) - y.toNat)
    (hhigh : (x.toNat : Int) - y.toNat < 2 ^ 31) :
    intOfULong (x - y) = (x.toNat : Int) - y.toNat := by
  have hx := x.toNat_lt
  have hy := y.toNat_lt
  have hsub : (x - y).toNat = (2 ^ 64 - y.toNat + x.toNat) % 2 ^ 64 := UInt64.toNat_sub x y
  have hint : intOfULong (x - y) = ((x - y).toNat : Int).bmod (2 ^ 32) := by
    rw [intOfULong, BitVec.truncate_eq_setWidth, BitVec.toInt_setWidth]
    rfl
  rw [hint, hsub, Int.bmod_def]
  split <;> omega

/-- And it comes back. -/
lemma ulongOfInt_toNat (x : ULong) : ulongOfInt x.toNat = x := by
  rw [ulongOfInt, BitVec.ofInt_natCast]
  exact UInt64.ofNat_toNat

lemma ulongOfInt_add (i j : Int) : ulongOfInt (i + j) = ulongOfInt i + ulongOfInt j := by
  rw [ulongOfInt, BitVec.ofInt_add]
  rfl

/-- An integer in the range of `unsigned long` is kept. -/
lemma toNat_ulongOfInt {i : Int} (hlow : 0 ≤ i) (hhigh : i < 2 ^ 64) :
    ((ulongOfInt i).toNat : Int) = i := by
  obtain ⟨n, rfl⟩ := Int.eq_ofNat_of_zero_le hlow
  rw [ulongOfInt, BitVec.ofInt_natCast]
  show ((n % 2 ^ 64 : ℕ) : Int) = n
  omega

/-- A product of two `int`s that fits in an `int` is exact. -/
lemma mulInt_of_lt {x y : Int} (hlow : -2 ^ 31 ≤ x * y) (hhigh : x * y < 2 ^ 31) :
    mulInt x y = x * y := by
  rw [mulInt, BitVec.toInt_ofInt]
  exact Int.bmod_eq_of_le (by omega) (by omega)

/-- Every product of two `int`s is below 2^31. -/
lemma mulInt_lt (x y : Int) : mulInt x y < 2 ^ 31 := by
  rw [mulInt, BitVec.toInt_ofInt]
  have := Int.bmod_lt (x := x * y) (m := 2 ^ 32) (by decide)
  omega

lemma le_mulInt (x y : Int) : -2 ^ 31 ≤ mulInt x y := by
  rw [mulInt, BitVec.toInt_ofInt]
  have := Int.le_bmod (x := x * y) (m := 2 ^ 32) (by decide)
  omega

/-- `double`, taken as exact. -/
inductive Double where
  | nan
  | num (q : ℚ)
  deriving DecidableEq, Repr

namespace Double

def ofInt (i : Int) : Double := .num i

/-- The conversion of an `unsigned long`, and of a count. -/
def ofNat (n : ℕ) : Double := .num n

/-- `x / y`.  A quotient by zero is infinite or NaN, and no number either way. -/
def div : Double → Double → Double
  | .num x, .num y => if y = 0 then .nan else .num (x / y)
  | _, _ => .nan

def mul : Double → Double → Double
  | .num x, .num y => .num (x * y)
  | _, _ => .nan

def sub : Double → Double → Double
  | .num x, .num y => .num (x - y)
  | _, _ => .nan

@[simp] lemma div_num {x y : ℚ} (hy : y ≠ 0) : (num x).div (num y) = num (x / y) := if_neg hy

@[simp] lemma mul_num (x y : ℚ) : (num x).mul (num y) = num (x * y) := rfl

@[simp] lemma sub_num (x y : ℚ) : (num x).sub (num y) = num (x - y) := rfl

/-- `x < y`, which is false when either side is NaN. -/
def lt : Double → Double → Bool
  | .num x, .num y => x < y
  | _, _ => false

/-- `x <= y`. -/
def le : Double → Double → Bool
  | .num x, .num y => x ≤ y
  | _, _ => false

/-- The cast `(int)x`, which truncates towards zero.  Outside the range of `int` the language
leaves the result open, and the machine's conversion gives the least `int`. -/
def toInt : Double → Int
  | .num q =>
      if -2147483648 ≤ q.num.tdiv q.den ∧ q.num.tdiv q.den < 2147483648 then q.num.tdiv q.den
      else -2147483648
  | .nan => -2147483648

/-- The cast `(unsigned long)x`. -/
def toULong : Double → ULong
  | .num q => ulongOfInt (q.num.tdiv q.den)
  | .nan => 0

end Double

/-! ## `config.h` -/

/-- `CONFIG_RANGE_CONSUMER_COUNT_MAX`, which is also `MAX_PRINTERS`: the number of pool slots. -/
def maxPrinters : ℕ := 5

instance : NeZero maxPrinters := ⟨Nat.succ_ne_zero 4⟩

/-- A slot of `printer_pool_t.printers`, 0-indexed.  Slot `k` holds the printer with id `k + 1`. -/
abbrev Slot := Fin maxPrinters

/-- The slot with index `i`, if the array has one. -/
def slotOfIndex (i : Int) : Option Slot :=
  if h : 0 ≤ i ∧ i.toNat < maxPrinters then some ⟨i.toNat, h.2⟩ else none

def configRangePrintRateMin : Double := .num 4
def configRangePrintRateMax : Double := .num 10
def configRangeConsumerCountMin : Int := 1
def configRangeConsumerCountMax : Int := 5
def configRangeRefillRateMin : Double := .num 15
def configRangeRefillRateMax : Double := .num 30
def configRangePaperCapacityMin : Int := 50
def configRangePaperCapacityMax : Int := 200
def configRangeJobArrivalTimeMin : Int := 200
def configRangeJobArrivalTimeMax : Int := 800
def configRangeMinArrivalTimeMin : Int := 200
def configRangeMinArrivalTimeMax : Int := 400
def configRangeMaxArrivalTimeMin : Int := 500
def configRangeMaxArrivalTimeMax : Int := 800
def configRangeMinPapersMin : Int := 5
def configRangeMinPapersMax : Int := 10
def configRangeMaxPapersMin : Int := 15
def configRangeMaxPapersMax : Int := 30

def configAutoscaleCooldownUs : ULong := 3000000
def configAutoscaleScaleDownWaitUs : ULong := 5000000
def configAutoscaleIdleTimeoutUs : ULong := 5000000
def configAutoscaleScaleDownThreshold : Int := 5
def configAutoscaleThreshold2Printers : Int := 10
def configAutoscaleThreshold3Printers : Int := 15
def configAutoscaleThreshold4Printers : Int := 20

/-! ## `simulation_parameters_t` -/

/-- `simulation_parameters_t`. -/
structure SimulationParameters where
  jobArrivalTimeUs : Double
  papersRequiredLowerBound : Int
  papersRequiredUpperBound : Int
  queueCapacity : Int
  printingRate : Double
  printerPaperCapacity : Int
  refillRate : Double
  numJobs : Int
  consumerCount : Int
  autoScaling : Int
  fixedArrival : Int
  minArrivalTime : Int
  maxArrivalTime : Int
  deriving DecidableEq, Repr

/-- `SIMULATION_DEFAULT_PARAMS_HIGH_LOAD`. -/
def simulationDefaultParamsHighLoad : SimulationParameters where
  jobArrivalTimeUs := .num 200000
  papersRequiredLowerBound := 10
  papersRequiredUpperBound := 30
  queueCapacity := -1
  printingRate := .num 5
  printerPaperCapacity := 90
  refillRate := .num 25
  numJobs := 20
  consumerCount := 2
  autoScaling := 1
  fixedArrival := 1
  minArrivalTime := 300
  maxArrivalTime := 600

end Orchestrator
