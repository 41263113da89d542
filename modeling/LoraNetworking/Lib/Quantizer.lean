import Mathlib.Tactic
import Mathlib.Order.CompletePartialOrder
import Mathlib.Order.Interval.Set.Basic

/-! A band cut into slots of one width, and a synthesiser that tunes in whole steps of `den / num`. -/

namespace Quantizer

def quantize (num den f : ℕ) : ℕ := f * num / den

section Steps

variable {num den f g bound : ℕ}

lemma quantize_lt (h : f * num < bound * den) : quantize num den f < bound := by
  have hden : 0 < den := by
    by_contra hzero
    obtain rfl : den = 0 := by omega
    simp at h
  exact (Nat.div_lt_iff_lt_mul hden).mpr h

lemma quantize_strict (hden : 0 < den) (h : f * num + den ≤ g * num) :
    quantize num den f < quantize num den g := by
  have hstep : f * num / den + 1 = (f * num + den) / den := (Nat.add_div_right _ hden).symm
  rw [quantize, quantize, ← Nat.succ_le_iff, Nat.succ_eq_add_one, hstep]
  exact Nat.div_le_div_right h

variable {K : Type*} [Field K] [LinearOrder K] [IsStrictOrderedRing K]

lemma tuned_le (hnum : 0 < num) : (quantize num den f : K) * den / num ≤ f := by
  have hpos : (0 : K) < num := Nat.cast_pos.mpr hnum
  rw [div_le_iff₀ hpos]
  exact_mod_cast Nat.div_mul_le_self (f * num) den

lemma lt_tuned (hnum : 0 < num) (hden : 0 < den) :
    (f : K) - den / num < (quantize num den f : K) * den / num := by
  have hpos : (0 : K) < num := Nat.cast_pos.mpr hnum
  have hlt : f * num < quantize num den f * den + den := Nat.lt_div_mul_add hden
  rw [sub_lt_iff_lt_add, ← add_div, lt_div_iff₀ hpos]
  exact_mod_cast hlt

end Steps

section Slots

variable {K : Type*} [Field K] [LinearOrder K] [IsStrictOrderedRing K] {base width : K} {m n count : ℕ}

def slot (base width : K) (n : ℕ) : Set K := Set.Icc (base + n * width) (base + (n + 1) * width)

def inner (base width : K) (n : ℕ) : Set K := Set.Ioo (base + n * width) (base + (n + 1) * width)

lemma slot_subset (hwidth : 0 ≤ width) (h : n < count) :
    slot base width n ⊆ Set.Icc base (base + count * width) := by
  have hlow : 0 ≤ (n : K) * width := mul_nonneg (Nat.cast_nonneg n) hwidth
  have hcount : (n : K) + 1 ≤ count := by exact_mod_cast h
  have hhigh : ((n : K) + 1) * width ≤ count * width := mul_le_mul_of_nonneg_right hcount hwidth
  apply Set.Icc_subset_Icc
  · exact le_add_of_nonneg_right hlow
  · exact add_le_add_right hhigh base

lemma slot_end_le (hwidth : 0 ≤ width) (h : m < n) : base + (m + 1) * width ≤ base + n * width := by
  have hnext : (m : K) + 1 ≤ n := by exact_mod_cast h
  exact add_le_add_right (mul_le_mul_of_nonneg_right hnext hwidth) base

lemma inner_disjoint (hwidth : 0 ≤ width) (h : m ≠ n) :
    Disjoint (inner base width m) (slot base width n) := by
  rw [Set.disjoint_left]
  rintro x ⟨hleft, hright⟩ ⟨hfrom, hto⟩
  cases Nat.lt_or_gt_of_ne h with
  | inl hlt => exact absurd (hright.trans_le (slot_end_le hwidth hlt)) (not_lt.mpr hfrom)
  | inr hgt => exact absurd ((slot_end_le hwidth hgt).trans_lt hleft) (not_lt.mpr hto)

end Slots

end Quantizer
