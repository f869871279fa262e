import SynthApi.Lib.Go
import Mathlib.Data.Int.Log

/-!
# `float64`

The finite values of `float64` are rational numbers. `round64` is what an operation with the exact result `x` stores: the
nearest value with 53 bits, and the even one of two; it keeps the order (`round64_mono`). A result beyond the largest value is
not modelled. `toInt64` is the conversion `int(x)`, with the result of amd64 for a value that is no `int64`.
-/

namespace Lib.Go

/-- The nearest integer, and the even one of two. -/
def roundEven (x : ℚ) : Int := if Int.fract x < 1 / 2 ∨ Int.fract x = 1 / 2 ∧ 2 ∣ ⌊x⌋ then ⌊x⌋ else ⌊x⌋ + 1

/-- The exponent of the last bit of `x`. -/
def lastBit (x : ℚ) : Int := max (Int.log 2 |x| - 52) (-1074)

def round64 (x : ℚ) : ℚ := roundEven (x / 2 ^ lastBit x) * 2 ^ lastBit x

def toInt64 (x : ℚ) : Int := if InInt64 (intPart x) then intPart x else -2 ^ 63

/-- The product of two values that decimals name. -/
def mul64 (a b : ℚ) : ℚ := round64 (round64 a * round64 b)

def div64 (a b : ℚ) : ℚ := round64 (round64 a / round64 b)

theorem roundEven_int (n : Int) : roundEven n = n := by simp [roundEven]

/-- Small integers are stored exactly. -/
theorem round64_int {n : Int} (h : |n| < 2 ^ 53) : round64 n = n := by
  have hlast : lastBit n ≤ 0 := by
    have hlog : Int.log 2 |(n : ℚ)| < 53 := by
      by_cases hn : n = 0
      · simp [hn]
      · refine (Int.lt_zpow_iff_log_lt (by norm_num) (by simpa using hn)).1 ?_
        exact_mod_cast h
    unfold lastBit
    omega
  obtain ⟨k, hk⟩ := Int.eq_ofNat_of_zero_le (neg_nonneg.2 hlast)
  have hpow : (2 : ℚ) ^ lastBit n = ((2 : ℚ) ^ k)⁻¹ := by
    rw [← zpow_natCast, ← zpow_neg, ← hk, neg_neg]
  have hscaled : (n : ℚ) / ((2 : ℚ) ^ k)⁻¹ = ((n * 2 ^ k : Int) : ℚ) := by
    push_cast
    rw [div_inv_eq_mul]
  rw [round64, hpow, hscaled, roundEven_int]
  push_cast
  field_simp

/-! ## Rounding keeps the order -/

theorem roundEven_mono {x y : ℚ} (h : x ≤ y) : roundEven x ≤ roundEven y := by
  have hle : ∀ z : ℚ, ⌊z⌋ ≤ roundEven z ∧ roundEven z ≤ ⌊z⌋ + 1 := by
    intro z
    unfold roundEven
    split_ifs <;> omega
  rcases (Int.floor_le_floor h).lt_or_eq with hlt | heq
  · have hx := (hle x).2
    have hy := (hle y).1
    omega
  · have hfract : Int.fract x ≤ Int.fract y := by
      unfold Int.fract
      rw [heq]
      linarith
    unfold roundEven
    rw [heq]
    split_ifs with hx hy
    · exact le_rfl
    · omega
    · rename_i hy
      -- the larger fraction is rounded down, so the smaller one is too
      refine absurd ?_ hx
      rcases hy with hy | ⟨hy, heven⟩
      · exact .inl (hfract.trans_lt hy)
      · rcases hfract.lt_or_eq with hlt | hsame
        · exact .inl (hy ▸ hlt)
        · exact .inr ⟨hsame.trans hy, heven⟩
    · exact le_rfl

theorem two_zpow_pos (k : Int) : (0 : ℚ) < 2 ^ k := zpow_pos two_pos k

theorem round64_nonneg {x : ℚ} (h : 0 ≤ x) : 0 ≤ round64 x := by
  have hdiv : ((0 : Int) : ℚ) ≤ x / 2 ^ lastBit x := by
    rw [Int.cast_zero]
    exact div_nonneg h (two_zpow_pos _).le
  have hround := roundEven_mono hdiv
  rw [roundEven_int] at hround
  exact mul_nonneg (by exact_mod_cast hround) (two_zpow_pos _).le

/-- A power of two above `x` is above the value that is stored for `x`. -/
theorem round64_le_two_pow {x : ℚ} {k : Int} (hk : lastBit x ≤ k) (h : x ≤ 2 ^ k) : round64 x ≤ 2 ^ k := by
  obtain ⟨n, hn⟩ := Int.eq_ofNat_of_zero_le (sub_nonneg.2 hk)
  have hsplit : (2 : ℚ) ^ k = ((2 ^ n : Int) : ℚ) * 2 ^ lastBit x := by
    rw [← sub_add_cancel k (lastBit x), hn, zpow_add₀ two_ne_zero]
    norm_cast
  have hdiv : x / 2 ^ lastBit x ≤ ((2 ^ n : Int) : ℚ) := by
    rw [div_le_iff₀ (two_zpow_pos _), ← hsplit]
    exact h
  have hround := roundEven_mono hdiv
  rw [roundEven_int] at hround
  rw [round64, hsplit]
  exact mul_le_mul_of_nonneg_right (by exact_mod_cast hround) (two_zpow_pos _).le

/-- **Rounding keeps the order.** -/
theorem round64_mono {x y : ℚ} (hx : 0 ≤ x) (h : x ≤ y) : round64 x ≤ round64 y := by
  rcases hx.eq_or_lt with rfl | hx
  · have hzero : round64 ((0 : Int) : ℚ) = (0 : Int) := round64_int (by decide)
    rw [Int.cast_zero] at hzero
    rw [hzero]
    exact round64_nonneg h
  have hy := hx.trans_le h
  have hlog : Int.log 2 x ≤ Int.log 2 y := Int.log_mono_right hx h
  have hlast : lastBit x = max (Int.log 2 x - 52) (-1074) ∧ lastBit y = max (Int.log 2 y - 52) (-1074) := by
    rw [lastBit, lastBit, abs_of_pos hx, abs_of_pos hy]
    exact ⟨rfl, rfl⟩
  rcases eq_or_ne (lastBit x) (lastBit y) with heq | hne
  · have hround : roundEven (x / 2 ^ lastBit y) ≤ roundEven (y / 2 ^ lastBit y) :=
      roundEven_mono (div_le_div_of_nonneg_right h (two_zpow_pos _).le)
    rw [round64, round64, heq]
    exact mul_le_mul_of_nonneg_right (by exact_mod_cast hround) (two_zpow_pos _).le
  · -- a power of two is between them
    have hlt : Int.log 2 x < Int.log 2 y := by omega
    have hupper : round64 x ≤ 2 ^ Int.log 2 y := by
      refine round64_le_two_pow (by omega) (le_of_lt ?_)
      have hsucc : x < 2 ^ (Int.log 2 x + 1) := Int.lt_zpow_succ_log_self (b := 2) (by norm_num) x
      exact hsucc.trans_le (zpow_le_zpow_right₀ one_le_two (by omega))
    refine hupper.trans ?_
    have hsplit : (2 : ℚ) ^ Int.log 2 y = ((2 ^ 52 : Int) : ℚ) * 2 ^ lastBit y := by
      rw [show Int.log 2 y = 52 + lastBit y by omega, zpow_add₀ two_ne_zero]
      norm_cast
    have hdiv : ((2 ^ 52 : Int) : ℚ) ≤ y / 2 ^ lastBit y := by
      rw [le_div_iff₀ (two_zpow_pos _), ← hsplit]
      exact Int.zpow_log_le_self (b := 2) (by norm_num) hy
    have hround := roundEven_mono hdiv
    rw [roundEven_int] at hround
    rw [hsplit, round64]
    exact mul_le_mul_of_nonneg_right (by exact_mod_cast hround) (two_zpow_pos _).le

section Operations

variable {a a' b : ℚ} (ha : 0 ≤ a) (hb : 0 ≤ b)

include ha hb

theorem mul64_nonneg : 0 ≤ mul64 a b := round64_nonneg (mul_nonneg (round64_nonneg ha) (round64_nonneg hb))

theorem div64_nonneg : 0 ≤ div64 a b := round64_nonneg (div_nonneg (round64_nonneg ha) (round64_nonneg hb))

theorem mul64_mono (h : a ≤ a') : mul64 a b ≤ mul64 a' b :=
  round64_mono (mul_nonneg (round64_nonneg ha) (round64_nonneg hb))
    (mul_le_mul_of_nonneg_right (round64_mono ha h) (round64_nonneg hb))

theorem div64_mono (h : a ≤ a') : div64 a b ≤ div64 a' b :=
  round64_mono (div_nonneg (round64_nonneg ha) (round64_nonneg hb))
    (div_le_div_of_nonneg_right (round64_mono ha h) (round64_nonneg hb))

end Operations

theorem intPart_int (n : Int) : intPart n = n := by simp [intPart]

theorem toInt64_int {n : Int} (h : |n| < 2 ^ 53) : toInt64 n = n := by
  have hmem : InInt64 n := by
    rw [abs_lt] at h
    unfold InInt64
    omega
  rw [toInt64, intPart_int, if_pos hmem]

end Lib.Go
