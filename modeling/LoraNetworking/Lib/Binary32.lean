import Mathlib.Tactic
import Mathlib.Data.Int.Log

/-! Rounding of rational numbers to the 24-bit significand of single precision, away from
overflow and underflow. -/

namespace Binary32

def roundHalfEven (q : ℚ) : ℤ :=
  if q - ⌊q⌋ < 1 / 2 then ⌊q⌋
  else if 1 / 2 < q - ⌊q⌋ then ⌊q⌋ + 1
  else if ⌊q⌋ % 2 = 0 then ⌊q⌋
  else ⌊q⌋ + 1

def round (q : ℚ) : ℚ :=
  if q = 0 then 0
  else
    let ulp : ℚ := 2 ^ (Int.log 2 |q| - 23)
    roundHalfEven (q / ulp) * ulp

@[simp] lemma roundHalfEven_intCast (z : ℤ) : roundHalfEven z = z := by
  simp [roundHalfEven]

lemma round_representable (m : ℤ) (e : ℕ) (hm : |m| < 2 ^ 24) : round (m * 2 ^ e) = m * 2 ^ e := by
  by_cases hz : m = 0
  · simp [round, hz]
  have hq : (m : ℚ) * 2 ^ e ≠ 0 := by simp [hz]
  have hlog : Int.log 2 |(m : ℚ) * 2 ^ e| < e + 24 := by
    apply (Int.lt_zpow_iff_log_lt (by norm_num) (abs_pos.mpr hq)).mp
    rw [abs_mul, abs_of_pos (by positivity : (0 : ℚ) < 2 ^ e)]
    have hm' : |(m : ℚ)| < 2 ^ 24 := by exact_mod_cast hm
    calc |(m : ℚ)| * 2 ^ e < 2 ^ 24 * 2 ^ e := by gcongr
      _ = ((2 : ℕ) : ℚ) ^ ((e : ℤ) + 24) := by
        push_cast
        rw [zpow_add₀ (by norm_num), zpow_natCast]
        norm_num [mul_comm]
  have hdef : round (m * 2 ^ e) = roundHalfEven ((m : ℚ) * 2 ^ e / 2 ^ (Int.log 2 |(m : ℚ) * 2 ^ e| - 23)) *
      2 ^ (Int.log 2 |(m : ℚ) * 2 ^ e| - 23) := by rw [round, if_neg hq]
  rw [hdef]
  generalize Int.log 2 |(m : ℚ) * 2 ^ e| = l at hlog
  obtain ⟨k, hk⟩ : ∃ k : ℕ, (e : ℤ) - (l - 23) = k := ⟨_, (Int.toNat_of_nonneg (by omega)).symm⟩
  have hdiv : (m : ℚ) * 2 ^ e / 2 ^ (l - 23) = ((m * 2 ^ k : ℤ) : ℚ) := by
    rw [mul_div_assoc, ← zpow_natCast (2 : ℚ) e, ← zpow_sub₀ (by norm_num), hk]
    push_cast
    rw [zpow_natCast]
  rw [hdiv, roundHalfEven_intCast, ← hdiv]
  exact div_mul_cancel₀ _ (by positivity)

end Binary32
