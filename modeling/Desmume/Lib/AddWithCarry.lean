/-
The sum of two words and a carry, with the flags of the sum.

The carry and the overflow say that the unsigned or the signed sum of the
operands is not the one of the result.
-/

import Mathlib

namespace AddWithCarry

variable {w : Nat}

structure Sum (w : Nat) where
  result : BitVec w
  N : Bool
  Z : Bool
  C : Bool
  V : Bool

def unsignedSum (x y : BitVec w) (carry : Bool) : Nat := x.toNat + y.toNat + carry.toNat

def signedSum (x y : BitVec w) (carry : Bool) : Int := x.toInt + y.toInt + carry.toNat

def addWithCarry (x y : BitVec w) (carry : Bool) : Sum w :=
  let result := BitVec.ofNat w (unsignedSum x y carry)
  { result := result
    N := result.msb
    Z := result == 0
    C := result.toNat != unsignedSum x y carry
    V := result.toInt != signedSum x y carry }

variable (x y : BitVec w) (carry : Bool)

theorem unsignedSum_lt : unsignedSum x y carry < 2 * 2 ^ w := by
  have first := x.isLt
  have second := y.isLt
  have third := Bool.toNat_lt carry
  unfold unsignedSum
  omega

theorem result_cases :
    ((addWithCarry x y carry).result.toNat = unsignedSum x y carry ∧
        unsignedSum x y carry < 2 ^ w) ∨
      ((addWithCarry x y carry).result.toNat + 2 ^ w = unsignedSum x y carry ∧
        2 ^ w ≤ unsignedSum x y carry) := by
  have bound := unsignedSum_lt x y carry
  change ((BitVec.ofNat w _).toNat = _ ∧ _) ∨ ((BitVec.ofNat w _).toNat + _ = _ ∧ _)
  rw [BitVec.toNat_ofNat]
  rcases Nat.lt_or_ge (unsignedSum x y carry) (2 ^ w) with fits | wraps
  · exact Or.inl ⟨Nat.mod_eq_of_lt fits,fits⟩
  · have once : unsignedSum x y carry - 2 ^ w < 2 ^ w := by omega
    have rest : unsignedSum x y carry % 2 ^ w = unsignedSum x y carry - 2 ^ w := by
      rw [Nat.mod_eq_sub_mod wraps,Nat.mod_eq_of_lt once]
    exact Or.inr ⟨by omega,wraps⟩

theorem result_eq : (addWithCarry x y carry).result = x + y + BitVec.ofNat w carry.toNat := by
  change BitVec.ofNat w (x.toNat + y.toNat + carry.toNat) = _
  rw [BitVec.ofNat_add,BitVec.ofNat_add,BitVec.ofNat_toNat,BitVec.ofNat_toNat,
    BitVec.setWidth_eq,BitVec.setWidth_eq]

theorem C_eq : (addWithCarry x y carry).C = decide (2 ^ w ≤ unsignedSum x y carry) := by
  change ((addWithCarry x y carry).result.toNat != unsignedSum x y carry) = _
  have positive : 0 < 2 ^ w := Nat.two_pow_pos w
  rcases result_cases x y carry with ⟨val,fits⟩ | ⟨val,wraps⟩
  · rw [val,decide_eq_false (Nat.not_le.mpr fits)]
    exact bne_self_eq_false' _
  · rw [decide_eq_true wraps,bne_iff_ne]
    omega

theorem V_eq (wide : 0 < w) :
    (addWithCarry x y carry).V =
      (x.msb == y.msb && (addWithCarry x y carry).result.msb != x.msb) := by
  change ((addWithCarry x y carry).result.toInt != signedSum x y carry) = _
  have cases := result_cases x y carry
  have carried := Bool.toNat_lt carry
  generalize (addWithCarry x y carry).result = res at cases
  have first := x.isLt
  have second := y.isLt
  have third := res.isLt
  unfold unsignedSum at cases
  unfold signedSum
  rw [BitVec.toInt_eq_toNat_cond,BitVec.toInt_eq_toNat_cond,BitVec.toInt_eq_toNat_cond,
    BitVec.msb_eq_decide,BitVec.msb_eq_decide,BitVec.msb_eq_decide]
  have half : 2 ^ w = 2 * 2 ^ (w - 1) := by
    rw [← Nat.pow_succ',Nat.succ_eq_add_one,Nat.sub_add_cancel wide]
  rw [half] at cases first second third ⊢
  generalize 2 ^ (w - 1) = top at *
  rw [Bool.eq_iff_iff]
  simp only [bne_iff_ne,Bool.and_eq_true,beq_iff_eq,decide_eq_decide,ne_eq]
  rcases cases with ⟨val,fits⟩ | ⟨val,wraps⟩
  · split_ifs <;> omega
  · split_ifs <;> omega

theorem unsignedSum_not :
    unsignedSum x (~~~y) carry + y.toNat + (!carry).toNat = x.toNat + 2 ^ w := by
  have second := y.isLt
  have complement : (~~~y).toNat = 2 ^ w - 1 - y.toNat := BitVec.toNat_not
  have carries : carry.toNat + (!carry).toNat = 1 := by
    cases carry with
    | false => rfl
    | true => rfl
  unfold unsignedSum
  omega

theorem result_not :
    (addWithCarry x (~~~y) carry).result = x - y - BitVec.ofNat w (!carry).toNat := by
  rw [result_eq,BitVec.not_eq_neg_add]
  cases carry with
  | false =>
      change x + (-y - 1) + 0 = x - y - 1
      ring
  | true =>
      change x + (-y - 1) + 1 = x - y - 0
      ring

theorem C_not : (addWithCarry x (~~~y) carry).C = decide (y.toNat + (!carry).toNat ≤ x.toNat) := by
  have total := unsignedSum_not x y carry
  rw [C_eq,decide_eq_decide]
  omega

theorem V_not (wide : 0 < w) :
    (addWithCarry x (~~~y) carry).V =
      (x.msb != y.msb && (addWithCarry x (~~~y) carry).result.msb != x.msb) := by
  have opposite : (~~~y).msb = !y.msb := by
    rw [BitVec.msb_not,decide_eq_true wide,Bool.true_and]
  rw [V_eq x (~~~y) carry wide,opposite]
  cases x.msb with
  | false => cases y.msb <;> rfl
  | true => cases y.msb <;> rfl

end AddWithCarry
