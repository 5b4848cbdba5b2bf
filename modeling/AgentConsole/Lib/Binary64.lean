import Mathlib.Data.Nat.Log
import Mathlib.Tactic.Linarith

/-! # Naturals as binary64 numbers

A natural number becomes the nearest number with a 53-bit significand, ties going to the
even one.  Up to `maxSafe` nothing is lost; above it the nearest number stays above it. -/

namespace AgentConsole.Lib.Binary64

/-- `Number.MAX_SAFE_INTEGER` -/
def maxSafe : Nat := 2 ^ 53 - 1

/-- The spacing of the representable numbers at `n`. -/
def ulp (n : Nat) : Nat := 2 ^ (n.log2 - 52)

/-- The representable number nearest to `n`. -/
def round (n : Nat) : Nat :=
  if 2 * (n % ulp n) < ulp n ∨ 2 * (n % ulp n) = ulp n ∧ n / ulp n % 2 = 0 then
    n / ulp n * ulp n
  else (n / ulp n + 1) * ulp n

/-- The nearest representable number, or `maxSafe` where it is not a safe integer. -/
def clamp (n : Nat) : Nat :=
  if round n ≤ maxSafe then round n else maxSafe

theorem ulp_pos (n : Nat) : 0 < ulp n := Nat.two_pow_pos _

theorem ulp_of_le {n : Nat} (small : n ≤ maxSafe) : ulp n = 1 := by
  have below : n.log2 < 53 := by
    rcases Nat.eq_zero_or_pos n with rfl | positive
    · decide
    · exact (Nat.log2_lt (by omega)).mpr (by simp only [maxSafe] at small; omega)
  have : n.log2 - 52 = 0 := by omega
  simp [ulp, this]

/-- Safe integers are exact. -/
theorem round_of_le {n : Nat} (small : n ≤ maxSafe) : round n = n := by
  simp [round, ulp_of_le small, Nat.mod_one]

/-- Above the safe integers the nearest number is not safe either. -/
theorem lt_round {n : Nat} (large : maxSafe < n) : maxSafe < round n := by
  have nonzero : n ≠ 0 := by omega
  have exponent : 53 ≤ n.log2 := (Nat.le_log2 nonzero).mpr (by simp only [maxSafe] at large; omega)
  have split : 2 ^ n.log2 = 2 ^ 52 * ulp n := by
    rw [ulp, ← Nat.pow_add]
    congr 1
    omega
  have quotient : 2 ^ 52 ≤ n / ulp n := by
    rw [Nat.le_div_iff_mul_le (ulp_pos n), ← split]
    exact Nat.log2_self_le nonzero
  have floor : 2 ^ 53 ≤ n / ulp n * ulp n :=
    calc 2 ^ 53 = 2 ^ 52 * 2 ^ 1 := by norm_num
      _ ≤ n / ulp n * ulp n :=
        Nat.mul_le_mul quotient (Nat.pow_le_pow_right (by decide) (by omega))
  unfold round
  split
  · simp only [maxSafe]
    omega
  · rw [Nat.add_mul]
    simp only [maxSafe]
    omega

theorem round_le_iff {n : Nat} : round n ≤ maxSafe ↔ n ≤ maxSafe := by
  constructor
  · intro safe
    by_contra large
    have := lt_round (by omega : maxSafe < n)
    omega
  · intro small
    rwa [round_of_le small]

/-- Clamping keeps the safe integers and nothing else. -/
theorem clamp_eq (n : Nat) : clamp n = min n maxSafe := by
  unfold clamp
  split
  · rename_i safe
    rw [round_of_le (round_le_iff.mp safe), Nat.min_eq_left (round_le_iff.mp safe)]
  · rename_i unsafeInteger
    rw [round_le_iff] at unsafeInteger
    omega

theorem round_eq_zero_iff {n : Nat} : round n = 0 ↔ n = 0 := by
  constructor
  · intro zero
    have small : n ≤ maxSafe := round_le_iff.mp (by omega)
    rwa [round_of_le small] at zero
  · intro zero
    subst zero
    rfl

/-- A multiple of the spacing at it is representable. -/
theorem round_of_dvd {n : Nat} (multiple : ulp n ∣ n) : round n = n := by
  have exactly : n % ulp n = 0 := Nat.mod_eq_zero_of_dvd multiple
  have positive := ulp_pos n
  rw [round, if_pos (.inl (by omega)), Nat.div_mul_cancel multiple]

theorem lt_ulp_mul (n : Nat) : n < 2 ^ 53 * ulp n := by
  calc n < 2 ^ (n.log2 + 1) := Nat.lt_log2_self
    _ ≤ 2 ^ (53 + (n.log2 - 52)) := Nat.pow_le_pow_right (by decide) (by omega)
    _ = 2 ^ 53 * ulp n := by rw [Nat.pow_add, ulp]

/-- A number with a significand of at most `2 ^ 53` is a multiple of its own spacing. -/
theorem ulp_dvd {significand exponent : Nat} (bound : significand ≤ 2 ^ 53) :
    ulp (significand * 2 ^ exponent) ∣ significand * 2 ^ exponent := by
  by_cases below : significand = 2 ^ 53
  · -- rounded up to the next power of two, where the spacing doubles
    have power : significand * 2 ^ exponent = 2 ^ (53 + exponent) := by rw [below, Nat.pow_add]
    rw [power, ulp, Nat.log2_two_pow]
    exact Nat.pow_dvd_pow 2 (by omega)
  · rcases Nat.eq_zero_or_pos (significand * 2 ^ exponent) with zero | positive
    · simp [zero]
    · have upper : significand * 2 ^ exponent < 2 ^ (53 + exponent) := by
        rw [Nat.pow_add]
        exact Nat.mul_lt_mul_of_pos_right (by omega) (Nat.two_pow_pos exponent)
      have := (Nat.log2_lt (by omega)).mpr upper
      calc ulp (significand * 2 ^ exponent) ∣ 2 ^ exponent := Nat.pow_dvd_pow 2 (by omega)
        _ ∣ significand * 2 ^ exponent := Nat.dvd_mul_left _ _

/-- The nearest number is representable. -/
theorem round_round (n : Nat) : round (round n) = round n := by
  have bound : n / ulp n < 2 ^ 53 := (Nat.div_lt_iff_lt_mul (ulp_pos n)).mpr (lt_ulp_mul n)
  apply round_of_dvd
  unfold round
  split
  · exact ulp_dvd (by omega)
  · exact ulp_dvd (by omega)

/-- Rounding at most doubles. -/
theorem round_le_double (n : Nat) : round n ≤ 2 * n := by
  rcases Nat.eq_zero_or_pos n with zero | positive
  · simp [round_eq_zero_iff.mpr zero]
  · have spacing : ulp n ≤ n :=
      calc ulp n ≤ 2 ^ n.log2 := Nat.pow_le_pow_right (by decide) (by omega)
        _ ≤ n := Nat.log2_self_le (by omega)
    have floor : n / ulp n * ulp n ≤ n := Nat.div_mul_le_self n (ulp n)
    unfold round
    split
    · omega
    · rw [Nat.add_mul]
      omega

end AgentConsole.Lib.Binary64
