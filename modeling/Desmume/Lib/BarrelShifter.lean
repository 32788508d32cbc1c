/-
The shifts of a barrel shifter, and the shifts of C that compute them.

A word is extended by as many bits as it is shifted, and the result and the
carry are read off the extended word, so no amount is special but 0, which
leaves the carry alone.
-/

import Mathlib

namespace BarrelShifter

variable {w : Nat}

inductive SRType
  | LSL
  | LSR
  | ASR
  | ROR
  deriving DecidableEq

def LSL_C (x : BitVec w) (shift : Nat) : BitVec w × Bool :=
  let extended := x ++ BitVec.ofNat shift 0
  (extended.setWidth w, extended.getLsbD w)

def LSR_C (x : BitVec w) (shift : Nat) : BitVec w × Bool :=
  let extended := x.setWidth (shift + w)
  (extended.extractLsb' shift w, extended.getLsbD (shift - 1))

def ASR_C (x : BitVec w) (shift : Nat) : BitVec w × Bool :=
  let extended := x.signExtend (shift + w)
  (extended.extractLsb' shift w, extended.getLsbD (shift - 1))

def ROR_C (x : BitVec w) (shift : Nat) : BitVec w × Bool :=
  let res := x >>> (shift % w) ||| x <<< (w - shift % w)
  (res, res.msb)

def RRX_C (x : BitVec w) (carry : Bool) : BitVec w × Bool :=
  ((BitVec.ofBool carry ++ x).extractLsb' 1 w, x.getLsbD 0)

def Shift_C (x : BitVec w) (type : SRType) (amount : Nat) (carry : Bool) : BitVec w × Bool :=
  if amount = 0 then (x, carry)
  else
    match type with
    | .LSL => LSL_C x amount
    | .LSR => LSR_C x amount
    | .ASR => ASR_C x amount
    | .ROR => ROR_C x amount

variable (x : BitVec w)

theorem shift_zero (type : SRType) (carry : Bool) :
    Shift_C x type 0 carry = (x, carry) := if_pos rfl

theorem shift_pos {amount : Nat} (positive : amount ≠ 0) (x : BitVec w) (type : SRType)
    (carry : Bool) :
    Shift_C x type amount carry =
      match type with
      | .LSL => LSL_C x amount
      | .LSR => LSR_C x amount
      | .ASR => ASR_C x amount
      | .ROR => ROR_C x amount := if_neg positive

theorem LSL_C_fst (shift : Nat) : (LSL_C x shift).1 = x <<< shift := by
  apply BitVec.eq_of_getLsbD_eq
  intro i inside
  change ((x ++ BitVec.ofNat shift 0).setWidth w).getLsbD i = _
  rw [BitVec.getLsbD_setWidth,BitVec.getLsbD_append,BitVec.getLsbD_shiftLeft]
  simp only [inside,decide_true,Bool.true_and,BitVec.getLsbD_zero]
  by_cases below : i < shift
  · simp only [below,decide_true,Bool.not_true,Bool.false_and,if_true]
  · simp only [below,decide_false,Bool.not_false,Bool.true_and,if_false]

theorem LSL_C_snd_inside {shift : Nat} (inside : shift ≤ w) :
    (LSL_C x shift).2 = x.getLsbD (w - shift) := by
  change (x ++ BitVec.ofNat shift 0).getLsbD w = _
  rw [BitVec.getLsbD_append,if_neg (Nat.not_lt.mpr inside)]

theorem LSL_C_snd_outside {shift : Nat} (outside : w < shift) : (LSL_C x shift).2 = false := by
  change (x ++ BitVec.ofNat shift 0).getLsbD w = _
  rw [BitVec.getLsbD_append,if_pos outside,BitVec.getLsbD_zero]

theorem LSR_C_fst (shift : Nat) : (LSR_C x shift).1 = x >>> shift := by
  apply BitVec.eq_of_getLsbD_eq
  intro i inside
  have wide : shift + i < shift + w := Nat.add_lt_add_left inside shift
  change ((x.setWidth (shift + w)).extractLsb' shift w).getLsbD i = _
  rw [BitVec.getLsbD_extractLsb',BitVec.getLsbD_setWidth,BitVec.getLsbD_ushiftRight]
  simp only [inside,wide,decide_true,Bool.true_and]

theorem LSR_C_snd {shift : Nat} (positive : shift ≠ 0) :
    (LSR_C x shift).2 = x.getLsbD (shift - 1) := by
  have wide : shift - 1 < shift + w := by omega
  change (x.setWidth (shift + w)).getLsbD (shift - 1) = _
  rw [BitVec.getLsbD_setWidth]
  simp only [wide,decide_true,Bool.true_and]

theorem ASR_C_fst (shift : Nat) : (ASR_C x shift).1 = x.sshiftRight shift := by
  apply BitVec.eq_of_getLsbD_eq
  intro i inside
  have wide : shift + i < shift + w := Nat.add_lt_add_left inside shift
  change ((x.signExtend (shift + w)).extractLsb' shift w).getLsbD i = _
  rw [BitVec.getLsbD_extractLsb',BitVec.getLsbD_signExtend,BitVec.getLsbD_sshiftRight]
  simp only [inside,wide,Nat.not_le.mpr inside,decide_true,decide_false,Bool.true_and,
    Bool.not_false]

theorem ASR_C_snd_inside {shift : Nat} (positive : shift ≠ 0)
    (inside : shift ≤ w) : (ASR_C x shift).2 = x.getLsbD (shift - 1) := by
  have wide : shift - 1 < shift + w := by omega
  have low : shift - 1 < w := by omega
  change (x.signExtend (shift + w)).getLsbD (shift - 1) = _
  rw [BitVec.getLsbD_signExtend,if_pos low]
  simp only [wide,decide_true,Bool.true_and]

theorem ASR_C_snd_outside {shift : Nat} (positive : shift ≠ 0)
    (outside : w ≤ shift) : (ASR_C x shift).2 = x.msb := by
  have wide : shift - 1 < shift + w := by omega
  change (x.signExtend (shift + w)).getLsbD (shift - 1) = _
  rw [BitVec.getLsbD_signExtend]
  simp only [wide,decide_true,Bool.true_and]
  split
  · next low =>
    have last : shift - 1 = w - 1 := by omega
    rw [last,BitVec.msb_eq_getLsbD_last]
  · rfl

theorem sshiftRight_outside {shift : Nat} (outside : w ≤ shift) :
    x.sshiftRight shift = if x.msb then BitVec.allOnes w else 0 := by
  apply BitVec.eq_of_getLsbD_eq
  intro i inside
  have beyond : ¬shift + i < w := by omega
  rw [BitVec.getLsbD_sshiftRight,if_neg beyond]
  simp only [Nat.not_le.mpr inside,decide_false,Bool.not_false,Bool.true_and]
  cases x.msb with
  | false => exact BitVec.getLsbD_zero.symm
  | true =>
      rw [if_pos rfl,BitVec.getLsbD_allOnes]
      exact (decide_eq_true inside).symm

theorem ROR_C_mod (shift : Nat) : ROR_C x (shift % w) = ROR_C x shift := by
  unfold ROR_C
  rw [Nat.mod_mod]

theorem ROR_C_zero {shift : Nat} (whole : shift % w = 0) : ROR_C x shift = (x, x.msb) := by
  unfold ROR_C
  rw [whole,Nat.sub_zero,BitVec.shiftLeft_eq_zero (Nat.le_refl w),BitVec.or_zero]
  rfl

theorem ROR_C_fst {shift : Nat} (inside : shift < w) :
    (ROR_C x shift).1 = x >>> shift ||| x <<< (w - shift) := by
  unfold ROR_C
  rw [Nat.mod_eq_of_lt inside]

theorem ROR_C_snd {shift : Nat} (positive : shift ≠ 0) (inside : shift < w) :
    (ROR_C x shift).2 = x.getLsbD (shift - 1) := by
  change (ROR_C x shift).1.msb = _
  rw [ROR_C_fst x inside,BitVec.msb_eq_getLsbD_last,BitVec.getLsbD_or,
    BitVec.getLsbD_ushiftRight,BitVec.getLsbD_shiftLeft]
  have high : x.getLsbD (shift + (w - 1)) = false := BitVec.getLsbD_of_ge x _ (by omega)
  have top : w - 1 < w := by omega
  have above : ¬w - 1 < w - shift := by omega
  have place : w - 1 - (w - shift) = shift - 1 := by omega
  rw [high,place]
  simp only [top,above,decide_true,decide_false,Bool.not_false,Bool.true_and,Bool.false_or]

theorem RRX_C_fst (carry : Bool) :
    (RRX_C x carry).1 = (BitVec.ofBool carry).setWidth w <<< (w - 1) ||| x >>> 1 := by
  apply BitVec.eq_of_getLsbD_eq
  intro i inside
  change ((BitVec.ofBool carry ++ x).extractLsb' 1 w).getLsbD i = _
  rw [BitVec.getLsbD_extractLsb',BitVec.getLsbD_append,BitVec.getLsbD_or,
    BitVec.getLsbD_shiftLeft,BitVec.getLsbD_setWidth,BitVec.getLsbD_ushiftRight]
  simp only [inside,decide_true,Bool.true_and]
  by_cases last : i = w - 1
  · have beyond : ¬1 + i < w := by omega
    have high : x.getLsbD (1 + i) = false := BitVec.getLsbD_of_ge x _ (by omega)
    have here : 1 + i - w = 0 := by omega
    have lowest : i - (w - 1) = 0 := by omega
    have level : ¬i < w - 1 := by omega
    have some_width : 0 < w := by omega
    rw [if_neg beyond,high,here,lowest]
    simp only [level,some_width,decide_true,decide_false,Bool.not_false,Bool.true_and,
      Bool.or_false]
  · have below : i < w - 1 := by omega
    have within : 1 + i < w := by omega
    rw [if_pos within]
    simp only [below,decide_true,Bool.not_true,Bool.false_and,Bool.false_or]

end BarrelShifter

namespace HostShift

variable {w : Nat}

inductive Kind
  | left
  | right
  | arithmetic
  deriving DecidableEq

def Kind.shifted : Kind → BitVec w → Nat → BitVec w
  | .left, val, n => val <<< n
  | .right, val, n => val >>> n
  | .arithmetic, val, n => val.sshiftRight n

abbrev Host (w : Nat) := Kind → BitVec w → BitVec w → Option (BitVec w)

variable (host : Host w) (kind : Kind) (val : BitVec w)

def shift (n : BitVec w) : Option (BitVec w) :=
  if n.toNat < w then some (kind.shifted val n.toNat) else host kind val n

def strict : Host w := fun _ _ _ => none

/-- A left shift by the width itself sets no bit that the value has not: the host
takes counts modulo the width, or shifts all bits out. -/
def Keeps : Prop :=
  ∀ val : BitVec w, ∃ kept, host .left val (BitVec.ofNat w w) = some kept ∧
    val ||| kept = val

def modulo : Host w := fun kind val n => some (kind.shifted val (n.toNat % w))

theorem shift_inside {n : BitVec w}
    (inside : n.toNat < w) :
    shift host kind val n = some (kind.shifted val n.toNat) := if_pos inside

theorem shift_outside {n : BitVec w}
    (outside : w ≤ n.toNat) : shift host kind val n = host kind val n :=
  if_neg (Nat.not_lt.mpr outside)

theorem toNat_width : (BitVec.ofNat w w).toNat = w := by
  rw [BitVec.toNat_ofNat]
  exact Nat.mod_eq_of_lt Nat.lt_two_pow_self

theorem keeps_modulo : Keeps (modulo : Host w) := by
  intro val
  refine ⟨val,?_,BitVec.or_self⟩
  unfold modulo
  rw [toNat_width,Nat.mod_self]
  exact congrArg some (BitVec.shiftLeft_zero val)

end HostShift
