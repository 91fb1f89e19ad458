import Orchestrator.Config
import Orchestrator.Loops.While

/-!
# The wake-up time

`get_wake_up_time` of `timeutils.c`: a delay in milliseconds is turned into nanoseconds, added to
the current time and carried into the seconds by a loop.  The nanoseconds of the delay are a product
of two `int`s.

* `carry_leaves` — the carry loop ends, with the seconds and the rest of what it starts with.
* `getWakeUpTime_leaves` — what the function returns, for every delay.
* `wake_up_time_exact` — the wake-up time is exact up to a delay of 2147 milliseconds.
-/

namespace Orchestrator

open Loops

/-- `struct timeval`. -/
structure Timeval where
  tvSec : Int64
  tvUsec : Int64

/-- `struct timespec`. -/
structure Timespec where
  tvSec : Int64
  tvNsec : Int64
  deriving DecidableEq

/-! ## The function -/

/-- The body of the loop of `get_wake_up_time`. -/
def carryBody (absoluteTimeout : Timespec) : Option (Timespec ⊕ Timespec) :=
  if absoluteTimeout.tvNsec ≥ 1000000000 then
    some (.inl
      { tvSec := absoluteTimeout.tvSec + 1
        tvNsec := absoluteTimeout.tvNsec - 1000000000 })
  else some (.inr absoluteTimeout)

/-- What `get_wake_up_time` computes before its loop; `now` is what `gettimeofday` gives. -/
def absoluteTimeout (now : Timeval) (timeMs : Int) : Timespec :=
  let relativeTimeout : Timespec := ⟨0, Int64.ofInt (mulInt timeMs 1000000)⟩
  { tvSec := now.tvSec + relativeTimeout.tvSec
    tvNsec := 1000 * now.tvUsec + relativeTimeout.tvNsec }

/-- `get_wake_up_time` returns this time. -/
def GetWakeUpTime (now : Timeval) (timeMs : Int) : Timespec → Prop :=
  Leaves carryBody (absoluteTimeout now timeMs)

/-! ## What it is for -/

/-- The time in nanoseconds. -/
def Timeval.ns (t : Timeval) : Int := t.tvSec.toInt * 1000000000 + t.tvUsec.toInt * 1000

/-- The time in nanoseconds. -/
def Timespec.ns (t : Timespec) : Int := t.tvSec.toInt * 1000000000 + t.tvNsec.toInt

/-- The nanoseconds are less than a second. -/
def Timespec.Normalised (t : Timespec) : Prop :=
  0 ≤ t.tvNsec.toInt ∧ t.tvNsec.toInt < 1000000000

/-- `get_wake_up_time` returns, with a normalised time that is `time_ms` milliseconds after the
current one. -/
def WakesAfter (now : Timeval) (timeMs : Int) : Prop :=
  ∃ t, GetWakeUpTime now timeMs t ∧ t.Normalised ∧ t.ns - now.ns = timeMs * 1000000

/-! ## The carry loop -/

/-- How often the loop carries. -/
def carries (tvNsec : Int64) : ℕ := (tvNsec.toInt / 1000000000).toNat

lemma toInt_sub_second {tvNsec : Int64} (h : 1000000000 ≤ tvNsec.toInt) :
    (tvNsec - 1000000000).toInt = tvNsec.toInt - 1000000000 := by
  have hlt := tvNsec.toInt_lt
  rw [Int64.toInt_sub]
  exact Int.bmod_eq_of_le (by simp; omega) (by simp; omega)

/-- **The carry loop ends.**  It has counted the whole seconds, and leaves the rest. -/
theorem carry_leaves (t : Timespec) :
    ∃ t', Leaves carryBody t t' ∧ t'.tvSec = t.tvSec + Int64.ofNat (carries t.tvNsec) ∧
      t'.tvNsec.toInt = t.tvNsec.toInt - carries t.tvNsec * 1000000000 := by
  -- after `c` rounds, as long as every round had a second to carry
  refine exists_leaves (fun s : Timespec => ∃ c : ℕ, s.tvSec = t.tvSec + Int64.ofNat c ∧
      s.tvNsec.toInt = t.tvNsec.toInt - c * 1000000000 ∧ (c = 0 ∨ 0 ≤ s.tvNsec.toInt))
    (fun s => s.tvNsec.toInt.toNat) _ (fun s hs => ?_) ⟨0, by simp, by simp, .inl rfl⟩
  obtain ⟨c, hsec, hnsec, hcarried⟩ := hs
  by_cases hmore : s.tvNsec ≥ 1000000000
  · have hge : 1000000000 ≤ s.tvNsec.toInt := by simpa [Int64.le_iff_toInt_le] using hmore
    have hsub := toInt_sub_second hge
    refine .inl ⟨_, if_pos hmore, ⟨c + 1, ?_, ?_, .inr ?_⟩, ?_⟩
    · show s.tvSec + 1 = _
      rw [hsec, Int64.ofNat_add, Int64.add_assoc]
      rfl
    · show (s.tvNsec - 1000000000).toInt = _
      rw [hsub, hnsec]
      omega
    · show 0 ≤ (s.tvNsec - 1000000000).toInt
      omega
    · show (s.tvNsec - 1000000000).toInt.toNat < _
      omega
  · have hlt : s.tvNsec.toInt < 1000000000 := by
      simpa [Int64.le_iff_toInt_le] using hmore
    have hc : carries t.tvNsec = c := by
      rw [carries]
      omega
    refine .inr ⟨s, if_neg hmore, ?_, ?_⟩
    · rw [hsec, hc]
    · rw [hnsec, hc]

/-! ## The result -/

/-- The seconds after a few carries, in 64-bit two's complement. -/
lemma toInt_add_carries (tvSec : Int64) {k : ℕ} (hk : k ≤ 4) :
    (tvSec + Int64.ofNat k).toInt =
      if tvSec.toInt + k < 2 ^ 63 then tvSec.toInt + k else tvSec.toInt + k - 2 ^ 64 := by
  have hlow := tvSec.le_toInt
  have hhigh := tvSec.toInt_lt
  rw [Int64.toInt_add, Int64.toInt_ofNat_of_lt (by omega), Int.bmod_def]
  split <;> split <;> omega

/-- Before the loop, the nanoseconds are those of the current time and the product. -/
lemma absoluteTimeout_tvNsec {now : Timeval}
    (hus : 0 ≤ now.tvUsec.toInt ∧ now.tvUsec.toInt < 1000000) (timeMs : Int) :
    (absoluteTimeout now timeMs).tvNsec.toInt =
      1000 * now.tvUsec.toInt + mulInt timeMs 1000000 := by
  have hlow := le_mulInt timeMs 1000000
  have hhigh := mulInt_lt timeMs 1000000
  have hproduct : (1000 * now.tvUsec).toInt = 1000 * now.tvUsec.toInt := by
    rw [Int64.toInt_mul]
    exact Int.bmod_eq_of_le (by simp; omega) (by simp; omega)
  have hrelative : (Int64.ofInt (mulInt timeMs 1000000)).toInt = mulInt timeMs 1000000 :=
    Int64.toInt_ofInt_of_le (by omega) (by omega)
  show (1000 * now.tvUsec + Int64.ofInt (mulInt timeMs 1000000)).toInt = _
  rw [Int64.toInt_add, hproduct, hrelative]
  exact Int.bmod_eq_of_le (by omega) (by omega)

/-- What `get_wake_up_time` returns: `n` is the number of nanoseconds before the loop, which carries
`k` times. -/
theorem getWakeUpTime_leaves {now : Timeval}
    (hus : 0 ≤ now.tvUsec.toInt ∧ now.tvUsec.toInt < 1000000) {timeMs n : Int} {k : ℕ}
    (hn : n = 1000 * now.tvUsec.toInt + mulInt timeMs 1000000)
    (hk : k = (n / 1000000000).toNat) :
    ∃ t, GetWakeUpTime now timeMs t ∧ t.tvNsec.toInt = n - k * 1000000000 ∧
      t.tvSec.toInt =
        if now.tvSec.toInt + k < 2 ^ 63 then now.tvSec.toInt + k
        else now.tvSec.toInt + k - 2 ^ 64 := by
  obtain ⟨t, hleaves, hsec, hnsec⟩ := carry_leaves (absoluteTimeout now timeMs)
  have hstart : (absoluteTimeout now timeMs).tvNsec.toInt = n :=
    (absoluteTimeout_tvNsec hus timeMs).trans hn.symm
  have hcarries : carries (absoluteTimeout now timeMs).tvNsec = k := by
    rw [carries, hstart, hk]
  have hfew : k ≤ 4 := by
    have hhigh := mulInt_lt timeMs 1000000
    omega
  have hnow : (absoluteTimeout now timeMs).tvSec = now.tvSec := Int64.add_zero _
  rw [hcarries, hnow] at hsec
  rw [hcarries, hstart] at hnsec
  exact ⟨t, hleaves, hnsec, by rw [hsec, toInt_add_carries _ hfew]⟩

/-- **The wake-up time is exact** and normalised exactly for delays up to 2147 milliseconds, as long
as its second is a `time_t`.  From 2148 milliseconds on the product of two `int`s is too large. -/
theorem wake_up_time_exact (now : Timeval)
    (hus : 0 ≤ now.tvUsec.toInt ∧ now.tvUsec.toInt < 1000000) (timeMs : Int) (hms : 0 ≤ timeMs) :
    WakesAfter now timeMs ↔
      timeMs ≤ 2147 ∧
        now.tvSec.toInt + (now.tvUsec.toInt * 1000 + timeMs * 1000000) / 1000000000 < 2 ^ 63 := by
  obtain ⟨t, hleaves, hnsec, hsec⟩ : ∃ t, GetWakeUpTime now timeMs t ∧ _ :=
    getWakeUpTime_leaves hus rfl rfl
  have hlow := le_mulInt timeMs 1000000
  have hhigh := mulInt_lt timeMs 1000000
  constructor
  · rintro ⟨t', hleaves', hnormal, hexact⟩
    obtain rfl := hleaves.unique hleaves'
    rw [Timespec.ns, Timeval.ns, hsec, hnsec] at hexact
    split at hexact
    · have hproduct : mulInt timeMs 1000000 = timeMs * 1000000 := by omega
      exact ⟨by omega, by omega⟩
    · -- the seconds have wrapped around, so the time is in the past
      omega
  · rintro ⟨hshort, hfits⟩
    have hproduct : mulInt timeMs 1000000 = timeMs * 1000000 :=
      mulInt_of_lt (by omega) (by omega)
    rw [hproduct] at hsec hnsec
    rw [if_pos (by omega)] at hsec
    refine ⟨t, hleaves, ⟨by omega, by omega⟩, ?_⟩
    rw [Timespec.ns, Timeval.ns]
    omega

/-- The longest delay that is exact. -/
theorem wake_up_time_exact_longest : WakesAfter ⟨5, 900000⟩ 2147 :=
  (wake_up_time_exact ⟨5, 900000⟩ ⟨by decide, by decide⟩ 2147 (by decide)).mpr
    ⟨by decide, by decide⟩

/-- **One millisecond more** wakes the caller in the past, with a negative number of
nanoseconds. -/
theorem wake_up_time_in_past :
    GetWakeUpTime ⟨5, 900000⟩ 2148 ⟨5, -1246967296⟩ ∧ ¬WakesAfter ⟨5, 900000⟩ 2148 := by
  have hreturn : GetWakeUpTime ⟨5, 900000⟩ 2148 ⟨5, -1246967296⟩ :=
    leaves_of_run (n := 1) (by decide +kernel)
  refine ⟨hreturn, ?_⟩
  rintro ⟨t, ht, hnormal, -⟩
  obtain rfl := hreturn.unique ht
  exact absurd hnormal.1 (by decide)

end Orchestrator
