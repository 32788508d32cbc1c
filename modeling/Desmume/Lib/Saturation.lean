/-
Signed results that are clamped to the range of a word.

A sum of two words that does not fit wraps into the other half of the range, so
the sign of the wrapped word tells which end it is clamped to.
-/

import Mathlib

namespace Saturation

def Fits (w : Nat) (val : Int) : Prop := -2 ^ (w - 1) ≤ val ∧ val < 2 ^ (w - 1)

instance (w : Nat) (val : Int) : Decidable (Fits w val) :=
  inferInstanceAs (Decidable (_ ∧ _))

def clamp (w : Nat) (val : Int) : Int := max (-2 ^ (w - 1)) (min val (2 ^ (w - 1) - 1))

variable {w : Nat}

theorem clamp_of_fits {val : Int} (fits : Fits w val) : clamp w val = val := by
  obtain ⟨low,high⟩ := fits
  unfold clamp
  omega

theorem fits_clamp (val : Int) : Fits w (clamp w val) := by
  have positive : (0 : Int) < 2 ^ (w - 1) := by positivity
  unfold Fits clamp
  omega

theorem two_halves (wide : 0 < w) : (2 : Int) ^ w = 2 * 2 ^ (w - 1) := by
  rw [← pow_succ',Nat.sub_add_cancel wide]

theorem fits_toInt (word : BitVec w) : Fits w word.toInt := by
  rcases Nat.eq_zero_or_pos w with none | wide
  · subst none
    have empty : word.toInt = 0 := by
      rw [BitVec.of_length_zero (x := word)]
      rfl
    unfold Fits
    rw [empty]
    decide
  · have low := BitVec.le_two_mul_toInt (x := word)
    have high := BitVec.two_mul_toInt_lt (x := word)
    rw [two_halves wide] at low high
    unfold Fits
    omega

section

variable {word : BitVec w} {val : Int} (wraps : word.toInt = val.bmod (2 ^ w))

include wraps

theorem toInt_eq_iff (wide : 0 < w) : word.toInt = val ↔ Fits w val := by
  constructor
  · intro same
    rw [← same]
    exact fits_toInt word
  · rintro ⟨low,high⟩
    have halves := two_halves wide
    rw [wraps]
    apply Int.bmod_eq_of_le
    · push_cast
      omega
    · push_cast
      omega

theorem wrapped_cases (wide : 0 < w) (low : -2 ^ w ≤ val) (high : val < 2 ^ w)
    (outside : ¬Fits w val) :
    (2 ^ (w - 1) ≤ val ∧ word.toInt = val - 2 ^ w) ∨
      (val < -2 ^ (w - 1) ∧ word.toInt = val + 2 ^ w) := by
  have halves := two_halves wide
  have modulus : ((2 ^ w : Nat) : Int) = 2 * 2 ^ (w - 1) := by
    push_cast
    exact halves
  unfold Fits at outside
  rw [halves] at low high ⊢
  rw [wraps,Int.bmod_def,modulus]
  generalize (2 : Int) ^ (w - 1) = top at *
  rcases Int.lt_or_le val top with below | above
  · have rest : val % (2 * top) = val + 2 * top := by
      rw [← Int.add_emod_right,Int.emod_eq_of_lt (by omega) (by omega)]
    rw [rest,if_pos (by omega)]
    omega
  · have rest : val % (2 * top) = val := Int.emod_eq_of_lt (by omega) (by omega)
    rw [rest,if_neg (by omega)]
    omega

theorem clamp_wrapped (wide : 0 < w) (low : -2 ^ w ≤ val) (high : val < 2 ^ w)
    (outside : ¬Fits w val) : clamp w val = if word.msb then 2 ^ (w - 1) - 1 else -2 ^ (w - 1) := by
  have halves := two_halves wide
  have positive : (0 : Int) < 2 ^ (w - 1) := by positivity
  rw [BitVec.msb_eq_toInt]
  unfold clamp
  rcases wrapped_cases wraps wide low high outside with ⟨above,once⟩ | ⟨below,once⟩
  · rw [decide_eq_true (by omega),if_pos rfl]
    omega
  · rw [decide_eq_false (by omega),if_neg Bool.false_ne_true]
    omega

theorem not_fits_iff (wide : 0 < w) (low : -2 ^ w ≤ val) (high : val < 2 ^ w) :
    ¬Fits w val ↔ (word.msb = true ↔ 0 ≤ val) := by
  have halves := two_halves wide
  have positive : (0 : Int) < 2 ^ (w - 1) := by positivity
  rw [BitVec.msb_eq_toInt,decide_eq_true_eq]
  by_cases fits : Fits w val
  · have same := (toInt_eq_iff wraps wide).mpr fits
    rw [same]
    constructor
    · exact fun not => absurd fits not
    · omega
  · rcases wrapped_cases wraps wide low high fits with ⟨above,once⟩ | ⟨below,once⟩
    · exact ⟨fun _ => by omega, fun _ => fits⟩
    · exact ⟨fun _ => by omega, fun _ => fits⟩

end

section

variable (x y : BitVec w)

theorem sum_range (wide : 0 < w) : -2 ^ w ≤ x.toInt + y.toInt ∧ x.toInt + y.toInt < 2 ^ w := by
  have halves := two_halves wide
  have first := fits_toInt x
  have second := fits_toInt y
  unfold Fits at first second
  omega

theorem difference_range (wide : 0 < w) :
    -2 ^ w ≤ x.toInt - y.toInt ∧ x.toInt - y.toInt < 2 ^ w := by
  have halves := two_halves wide
  have first := fits_toInt x
  have second := fits_toInt y
  unfold Fits at first second
  omega

theorem msb_true_iff : x.msb = true ↔ x.toInt < 0 := by
  rw [BitVec.msb_eq_toInt,decide_eq_true_eq]

theorem msb_false_iff : x.msb = false ↔ 0 ≤ x.toInt := by
  rw [BitVec.msb_eq_toInt,decide_eq_false_iff_not,Int.not_lt]

theorem not_fits_sum_iff (wide : 0 < w) :
    ¬Fits w (x.toInt + y.toInt) ↔ x.msb = y.msb ∧ (x + y).msb ≠ x.msb := by
  obtain ⟨low,high⟩ := sum_range x y wide
  have first := fits_toInt x
  have second := fits_toInt y
  have wrong := not_fits_iff (BitVec.toInt_add x y) wide low high
  unfold Fits at first second
  cases left : x.msb with
  | false =>
      have xSign := (msb_false_iff x).mp left
      cases right : y.msb with
      | false =>
          have ySign := (msb_false_iff y).mp right
          have sign : 0 ≤ x.toInt + y.toInt := by omega
          rw [wrong,iff_true_right sign,Bool.ne_false_iff]
          exact (and_iff_right rfl).symm
      | true =>
          have ySign := (msb_true_iff y).mp right
          have inside : Fits w (x.toInt + y.toInt) := by
            unfold Fits
            omega
          exact ⟨fun outside => absurd inside outside, fun both => absurd both.1 (by decide)⟩
  | true =>
      have xSign := (msb_true_iff x).mp left
      cases right : y.msb with
      | false =>
          have ySign := (msb_false_iff y).mp right
          have inside : Fits w (x.toInt + y.toInt) := by
            unfold Fits
            omega
          exact ⟨fun outside => absurd inside outside, fun both => absurd both.1 (by decide)⟩
      | true =>
          have ySign := (msb_true_iff y).mp right
          have sign : ¬0 ≤ x.toInt + y.toInt := by omega
          rw [wrong,iff_false_right sign]
          exact (and_iff_right rfl).symm

theorem not_fits_difference_iff (wide : 0 < w) :
    ¬Fits w (x.toInt - y.toInt) ↔ x.msb ≠ y.msb ∧ (x - y).msb ≠ x.msb := by
  obtain ⟨low,high⟩ := difference_range x y wide
  have first := fits_toInt x
  have second := fits_toInt y
  have wrong := not_fits_iff (BitVec.toInt_sub (x := x) (y := y)) wide low high
  unfold Fits at first second
  cases left : x.msb with
  | false =>
      have xSign := (msb_false_iff x).mp left
      cases right : y.msb with
      | false =>
          have ySign := (msb_false_iff y).mp right
          have inside : Fits w (x.toInt - y.toInt) := by
            unfold Fits
            omega
          exact ⟨fun outside => absurd inside outside, fun both => absurd rfl both.1⟩
      | true =>
          have ySign := (msb_true_iff y).mp right
          have sign : 0 ≤ x.toInt - y.toInt := by omega
          rw [wrong,iff_true_right sign,Bool.ne_false_iff]
          exact (and_iff_right (by decide)).symm
  | true =>
      have xSign := (msb_true_iff x).mp left
      cases right : y.msb with
      | false =>
          have ySign := (msb_false_iff y).mp right
          have sign : ¬0 ≤ x.toInt - y.toInt := by omega
          rw [wrong,iff_false_right sign]
          exact (and_iff_right (by decide)).symm
      | true =>
          have ySign := (msb_true_iff y).mp right
          have inside : Fits w (x.toInt - y.toInt) := by
            unfold Fits
            omega
          exact ⟨fun outside => absurd inside outside, fun both => absurd rfl both.1⟩

end

end Saturation
