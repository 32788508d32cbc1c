/-
Rounding to a number of binary digits, ties to even.

A real is scaled so that the digits that stay are those in front of the point,
rounded to an integer, and scaled back.
-/

import Mathlib.Analysis.SpecialFunctions.Pow.Real
import Mathlib.Data.Int.Log
import Mathlib.Data.Nat.Sqrt

namespace Desmume.Rounding

variable (digits : ℕ) (x : ℝ)

noncomputable def halfEven : ℤ :=
  if Int.fract x < 1 / 2 then ⌊x⌋
  else if 1 / 2 < Int.fract x then ⌊x⌋ + 1
  else if Even ⌊x⌋ then ⌊x⌋
  else ⌊x⌋ + 1

/-- The scale of the last of `digits` digits. -/
noncomputable def lastDigit : ℝ := 2 ^ (Int.log 2 x - (digits - 1 : ℕ))

noncomputable def nearestEven : ℝ :=
  halfEven (x / lastDigit digits x) * lastDigit digits x

def roundNat (val : ℕ) : ℕ :=
  let scale := 2 ^ (Nat.log 2 val - (digits - 1))
  let quotient := val / scale
  let remainder := val % scale
  if 2 * remainder < scale then quotient * scale
  else if scale < 2 * remainder then (quotient + 1) * scale
  else if Even quotient then quotient * scale
  else (quotient + 1) * scale

theorem halfEven_intCast (val : ℤ) : halfEven val = val := by
  have half : (0 : ℝ) < 1 / 2 := by norm_num
  rw [halfEven,Int.fract_intCast,if_pos half,Int.floor_intCast]

theorem le_halfEven_iff {val : ℤ} {x : ℝ} (untied : x ≠ val - 1 / 2) :
    val ≤ halfEven x ↔ (val : ℝ) - 1 / 2 < x := by
  have split := Int.floor_add_fract x
  have low := Int.fract_nonneg x
  have high := Int.fract_lt_one x
  have near : ⌊x⌋ ≤ halfEven x ∧ halfEven x ≤ ⌊x⌋ + 1 := by
    unfold halfEven
    split_ifs
    all_goals omega
  rcases lt_trichotomy val (⌊x⌋ + 1) with below | same | above
  · have reached : (val : ℝ) ≤ ⌊x⌋ := by exact_mod_cast Int.lt_add_one_iff.mp below
    refine iff_of_true (by omega) ?_
    linarith
  · have place : (val : ℝ) = ⌊x⌋ + 1 := by exact_mod_cast same
    have other : Int.fract x ≠ 1 / 2 := by
      intro tie
      apply untied
      linarith
    unfold halfEven
    by_cases lower : Int.fract x < 1 / 2
    · rw [if_pos lower]
      refine iff_of_false (by omega) ?_
      linarith
    · have upper : 1 / 2 < Int.fract x := lt_of_le_of_ne (not_lt.mp lower) other.symm
      rw [if_neg lower,if_pos upper]
      refine iff_of_true (by omega) ?_
      linarith
  · have beyond : (⌊x⌋ : ℝ) + 2 ≤ val := by
      have integers : ⌊x⌋ + 2 ≤ val := by omega
      exact_mod_cast integers
    refine iff_of_false (by omega) ?_
    linarith

theorem halfEven_div (val : ℕ) {scale : ℕ} (positive : 0 < scale) :
    halfEven ((val : ℝ) / scale) =
      if 2 * (val % scale) < scale then ((val / scale : ℕ) : ℤ)
      else if scale < 2 * (val % scale) then ((val / scale : ℕ) : ℤ) + 1
      else if Even (val / scale) then ((val / scale : ℕ) : ℤ)
      else ((val / scale : ℕ) : ℤ) + 1 := by
  have above : (0 : ℝ) < scale := by exact_mod_cast positive
  have floor : ⌊(val : ℝ) / scale⌋ = ((val / scale : ℕ) : ℤ) := by
    rw [Int.floor_div_natCast,Int.floor_natCast,Int.natCast_div]
  have fract : Int.fract ((val : ℝ) / scale) = (val % scale : ℕ) / scale :=
    Int.fract_div_natCast_eq_div_natCast_mod
  have lower : Int.fract ((val : ℝ) / scale) < 1 / 2 ↔ 2 * (val % scale) < scale := by
    rw [fract,div_lt_div_iff₀ above two_pos,one_mul,mul_comm]
    exact_mod_cast Iff.rfl
  have upper : 1 / 2 < Int.fract ((val : ℝ) / scale) ↔ scale < 2 * (val % scale) := by
    rw [fract,div_lt_div_iff₀ two_pos above,one_mul,mul_comm]
    exact_mod_cast Iff.rfl
  rw [halfEven,floor]
  simp only [lower,upper,Int.even_coe_nat]

theorem roundNat_of_log_le {digits val : ℕ} (short : Nat.log 2 val ≤ digits - 1) :
    roundNat digits val = val := by
  have none : Nat.log 2 val - (digits - 1) = 0 := by omega
  unfold roundNat
  simp only [none,pow_zero,Nat.div_one,Nat.mod_one,Nat.mul_zero,Nat.mul_one,
    Nat.lt_one_iff,if_true]

variable {val : ℕ}

theorem nearestEven_natCast (positive : 0 < val) :
    nearestEven digits val = roundNat digits val := by
  have log : Int.log 2 (val : ℝ) = Nat.log 2 val := Int.log_natCast 2 val
  have two : (2 : ℝ) ≠ 0 := by norm_num
  rcases Nat.le_total (Nat.log 2 val) (digits - 1) with short | long
  · obtain ⟨spare,digitsLeft⟩ := Nat.exists_eq_add_of_le short
    have scale : lastDigit digits (val : ℝ) = ((2 : ℝ) ^ spare)⁻¹ := by
      rw [lastDigit,log,digitsLeft,Nat.cast_add,sub_add_cancel_left,zpow_neg,zpow_natCast]
    have whole : (val : ℝ) / lastDigit digits val = ((val * 2 ^ spare : ℕ) : ℤ) := by
      rw [scale,div_inv_eq_mul]
      push_cast
      rfl
    rw [nearestEven,whole,halfEven_intCast,scale,roundNat_of_log_le short]
    push_cast
    field_simp
  · obtain ⟨shift,digitsOver⟩ := Nat.exists_eq_add_of_le long
    have scale : lastDigit digits (val : ℝ) = ((2 ^ shift : ℕ) : ℝ) := by
      rw [lastDigit,log,digitsOver,Nat.cast_add,add_sub_cancel_left,zpow_natCast]
      push_cast
      rfl
    have shifted : Nat.log 2 val - (digits - 1) = shift := by omega
    rw [nearestEven,scale,halfEven_div val (Nat.two_pow_pos shift),roundNat]
    simp only [shifted]
    split_ifs
    all_goals push_cast
    all_goals rfl

theorem roundNat_cases (digits val : ℕ) :
    let scale := 2 ^ (Nat.log 2 val - (digits - 1))
    (2 * (val % scale) ≤ scale ∧ roundNat digits val = val / scale * scale) ∨
      (scale ≤ 2 * (val % scale) ∧ roundNat digits val = (val / scale + 1) * scale) := by
  intro scale
  unfold roundNat
  by_cases lower : 2 * (val % scale) < scale
  · exact Or.inl ⟨lower.le,if_pos lower⟩
  · by_cases upper : scale < 2 * (val % scale)
    · exact Or.inr ⟨upper.le,(if_neg lower).trans (if_pos upper)⟩
    · by_cases even : Even (val / scale)
      · exact Or.inl ⟨not_lt.mp upper,(if_neg lower).trans ((if_neg upper).trans (if_pos even))⟩
      · exact Or.inr ⟨not_lt.mp lower,(if_neg lower).trans ((if_neg upper).trans (if_neg even))⟩

theorem roundNat_error (val : ℕ) :
    2 * val ≤ 2 * roundNat digits val + 2 ^ (Nat.log 2 val - (digits - 1)) := by
  have parts := Nat.div_add_mod' val (2 ^ (Nat.log 2 val - (digits - 1)))
  rcases roundNat_cases digits val with ⟨lower,res⟩ | ⟨upper,res⟩
  · rw [res]
    omega
  · have small := Nat.mod_lt val (Nat.two_pow_pos (Nat.log 2 val - (digits - 1)))
    rw [res,Nat.add_mul,Nat.one_mul]
    omega

theorem pow_log_le_roundNat (positive : 0 < val) : 2 ^ Nat.log 2 val ≤ roundNat digits val := by
  have first := Nat.pow_log_le_self 2 positive.ne'
  by_cases short : Nat.log 2 val ≤ digits - 1
  · rw [roundNat_of_log_le short]
    exact first
  · have split : 2 ^ Nat.log 2 val =
        2 ^ (digits - 1) * 2 ^ (Nat.log 2 val - (digits - 1)) := by
      rw [← Nat.pow_add]
      congr 1
      omega
    rw [split] at first
    have quotient := (Nat.le_div_iff_mul_le (Nat.two_pow_pos _)).mpr first
    have floor := Nat.mul_le_mul_right (2 ^ (Nat.log 2 val - (digits - 1))) quotient
    rw [split]
    rcases roundNat_cases digits val with ⟨_,res⟩ | ⟨_,res⟩
    · rw [res]
      exact floor
    · rw [res,Nat.add_mul]
      exact floor.trans (Nat.le_add_right _ _)

theorem roundNat_le_pow (val : ℕ) (some : 0 < digits) :
    roundNat digits val ≤ 2 ^ (Nat.log 2 val + 1) := by
  have next := Nat.lt_pow_succ_log_self (show 1 < 2 by decide) val
  by_cases short : Nat.log 2 val ≤ digits - 1
  · rw [roundNat_of_log_le short]
    exact next.le
  · have split : 2 ^ (Nat.log 2 val + 1) =
        2 ^ digits * 2 ^ (Nat.log 2 val - (digits - 1)) := by
      rw [← Nat.pow_add]
      congr 1
      omega
    rw [split] at next ⊢
    have quotient : val / 2 ^ (Nat.log 2 val - (digits - 1)) + 1 ≤ 2 ^ digits :=
      (Nat.div_lt_iff_lt_mul (Nat.two_pow_pos _)).mpr next
    have ceiling := Nat.mul_le_mul_right (2 ^ (Nat.log 2 val - (digits - 1))) quotient
    rcases roundNat_cases digits val with ⟨_,res⟩ | ⟨_,res⟩
    · rw [res]
      rw [Nat.add_mul] at ceiling
      omega
    · rw [res]
      exact ceiling

theorem log_sqrt (positive : 0 < val) : Int.log 2 (√(val : ℝ)) = Nat.log 2 (Nat.sqrt val) := by
  have one : (1 : ℝ) ≤ √(val : ℝ) := by
    rw [Real.one_le_sqrt]
    exact_mod_cast positive
  rw [Int.log_of_one_le_right 2 one,Real.nat_floor_real_sqrt_eq_nat_sqrt]

theorem half_lt_sqrt_iff (val spare : ℕ) {whole : ℕ} (positive : 0 < whole) :
    (whole * 2 ^ spare : ℝ) - 1 / 2 < √(val : ℝ) * 2 ^ spare ↔
      2 ^ spare * whole ^ 2 < whole + 2 ^ spare * val := by
  have power : (0 : ℝ) < 2 ^ spare := by positivity
  have some : (1 : ℝ) ≤ whole * 2 ^ spare := by
    have natural : 1 ≤ whole * 2 ^ spare := Nat.mul_pos positive (Nat.two_pow_pos spare)
    exact_mod_cast natural
  have base : (0 : ℝ) ≤ whole * 2 ^ spare - 1 / 2 := by linarith
  have root : √(val : ℝ) * 2 ^ spare = √(val * (2 ^ spare) ^ 2 : ℝ) := by
    rw [Real.sqrt_mul (Nat.cast_nonneg val),Real.sqrt_sq power.le]
  have product : 2 ^ spare * (2 ^ spare * whole ^ 2) < 2 ^ spare * (whole + 2 ^ spare * val) ↔
      2 ^ spare * whole ^ 2 < whole + 2 ^ spare * val :=
    Nat.mul_lt_mul_left (Nat.two_pow_pos spare)
  rw [root,Real.lt_sqrt base,← product]
  constructor
  · intro below
    have reals : (2 ^ spare * (2 ^ spare * whole ^ 2) : ℝ) <
        2 ^ spare * (whole + 2 ^ spare * val) := by
      nlinarith only [below]
    exact_mod_cast reals
  · intro below
    have reals : (2 ^ spare * (2 ^ spare * whole ^ 2) + 1 : ℝ) ≤
        2 ^ spare * (whole + 2 ^ spare * val) := by
      exact_mod_cast below
    nlinarith only [reals]

theorem sqrt_ne_half (val spare whole : ℕ) : √(val : ℝ) * 2 ^ spare ≠ (whole : ℝ) - 1 / 2 := by
  intro tie
  have square : (√(val : ℝ) * 2 ^ spare) ^ 2 = val * (2 ^ spare) ^ 2 := by
    rw [mul_pow,Real.sq_sqrt (Nat.cast_nonneg val)]
  rw [tie] at square
  have reals : (4 * (val * (2 ^ spare) ^ 2 + whole) : ℝ) = 4 * whole ^ 2 + 1 := by
    linarith only [square]
  have naturals : 4 * (val * (2 ^ spare) ^ 2 + whole) = 4 * whole ^ 2 + 1 := by
    exact_mod_cast reals
  omega

theorem natCast_le_nearestEven_sqrt_iff {digits whole : ℕ} (positive : 0 < val)
    (some : 0 < whole) (short : Nat.log 2 (Nat.sqrt val) ≤ digits - 1) :
    (whole : ℝ) ≤ nearestEven digits √(val : ℝ) ↔
      2 ^ (digits - 1 - Nat.log 2 (Nat.sqrt val)) * whole ^ 2 <
        whole + 2 ^ (digits - 1 - Nat.log 2 (Nat.sqrt val)) * val := by
  obtain ⟨spare,digitsLeft⟩ := Nat.exists_eq_add_of_le short
  have left : digits - 1 - Nat.log 2 (Nat.sqrt val) = spare := by omega
  have scale : lastDigit digits (√(val : ℝ)) = ((2 : ℝ) ^ spare)⁻¹ := by
    rw [lastDigit,log_sqrt positive,digitsLeft,Nat.cast_add,sub_add_cancel_left,zpow_neg,
      zpow_natCast]
  have power : (0 : ℝ) < 2 ^ spare := by positivity
  have untied : √(val : ℝ) * 2 ^ spare ≠ (((whole * 2 ^ spare : ℕ) : ℤ) : ℝ) - 1 / 2 :=
    sqrt_ne_half val spare (whole * 2 ^ spare)
  have reached := le_halfEven_iff untied
  have cast : (((whole * 2 ^ spare : ℕ) : ℤ) : ℝ) = whole * 2 ^ spare := by
    push_cast
    rfl
  rw [cast,half_lt_sqrt_iff val spare some,← @Int.cast_le ℝ,cast] at reached
  rw [left,nearestEven,scale,div_inv_eq_mul,← div_eq_mul_inv,le_div_iff₀ power]
  exact reached

end Desmume.Rounding
