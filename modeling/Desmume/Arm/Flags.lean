/-
The flags and results of the arithmetic instructions with S against the sum of
two words and a carry, and those of the long multiplications against the
product of 64 bits.
-/

import Desmume.Arm.Arithmetic
import Desmume.Arm.ShifterOperand

namespace Desmume.Arm

open Cpu HostShift AddWithCarry

variable (reg : Status_Reg)

theorem getLsbD_setBit {idx : Nat} (bit : Bool) (inside : idx < 32) (k : Nat) :
    (reg.setBit idx bit).getLsbD k = if k = idx then bit else reg.getLsbD k := by
  have one : ((1 : u32) <<< idx).getLsbD k = decide (k = idx) := by
    change ((1#32) <<< idx).getLsbD k = _
    rw [← BitVec.twoPow_eq,BitVec.getLsbD_twoPow,decide_eq_true inside,Bool.true_and,
      decide_eq_decide]
    exact eq_comm
  unfold Status_Reg.setBit
  cases bit with
  | true =>
      rw [if_pos rfl,BitVec.getLsbD_or,one]
      by_cases same : k = idx
      · rw [if_pos same,decide_eq_true same,Bool.or_true]
      · rw [if_neg same,decide_eq_false same,Bool.or_false]
  | false =>
      rw [if_neg Bool.false_ne_true,BitVec.getLsbD_and,BitVec.getLsbD_not,one]
      by_cases same : k = idx
      · rw [if_pos same,decide_eq_true same,Bool.not_true,Bool.and_false,Bool.and_false]
      · rw [if_neg same,decide_eq_false same,Bool.not_false,Bool.and_true]
        rcases Nat.lt_or_ge k 32 with low | high
        · rw [decide_eq_true low,Bool.and_true]
        · rw [BitVec.getLsbD_of_ge reg k high,Bool.false_and]

structure FlagsOf (before after : Status_Reg) (sum : Sum 32) : Prop where
  N : after.getLsbD 31 = sum.N
  Z : after.getLsbD 30 = sum.Z
  C : after.getLsbD 29 = sum.C
  V : after.getLsbD 28 = sum.V
  others : ∀ k < 28, after.getLsbD k = before.getLsbD k

theorem flagsOf_setBits (sum : Sum 32) :
    FlagsOf reg
      ((((reg.setBit 31 sum.N).setBit 30 sum.Z).setBit 29 sum.C).setBit 28 sum.V) sum := by
  constructor
  all_goals simp only [getLsbD_setBit,Nat.reduceLT,Nat.reduceEqDiff,if_true,if_false]
  intro k low
  have away : k ≠ 28 ∧ k ≠ 29 ∧ k ≠ 30 ∧ k ≠ 31 := by omega
  simp only [away,if_false]

theorem flagsOf_carryFirst (sum : Sum 32) :
    FlagsOf reg
      ((((reg.setBit 29 sum.C).setBit 31 sum.N).setBit 30 sum.Z).setBit 28 sum.V) sum := by
  constructor
  all_goals simp only [getLsbD_setBit,Nat.reduceLT,Nat.reduceEqDiff,if_true,if_false]
  intro k low
  have away : k ≠ 28 ∧ k ≠ 29 ∧ k ≠ 30 ∧ k ≠ 31 := by omega
  simp only [away,if_false]

section

variable (v shift_op : u32)

theorem CarryFrom_eq : CarryFrom v shift_op = (addWithCarry v shift_op false).C := by
  rw [AddWithCarry.C_eq]
  unfold CarryFrom unsignedSum
  dsimp only
  rw [decide_eq_decide]
  have complement : ((0xFFFFFFFF : u32) - v).toNat = 2 ^ 32 - 1 - v.toNat := by bv_omega
  change ((0xFFFFFFFF : u32) - v).toNat < shift_op.toNat ↔ 2 ^ 32 ≤ v.toNat + shift_op.toNat + 0
  have bound := v.isLt
  rw [complement]
  omega

theorem carry_below : decide (v + shift_op < v) = (addWithCarry v shift_op false).C := by
  rw [AddWithCarry.C_eq,decide_eq_decide]
  change (v + shift_op).toNat < v.toNat ↔ 2 ^ 32 ≤ v.toNat + shift_op.toNat + 0
  have first := v.isLt
  have second := shift_op.isLt
  rw [BitVec.toNat_add]
  omega

theorem carry_below_one : decide (v + shift_op + 1 ≤ v) = (addWithCarry v shift_op true).C := by
  rw [AddWithCarry.C_eq,decide_eq_decide]
  change (v + shift_op + 1).toNat ≤ v.toNat ↔ 2 ^ 32 ≤ v.toNat + shift_op.toNat + 1
  have first := v.isLt
  have second := shift_op.isLt
  rw [BitVec.toNat_add,BitVec.toNat_add]
  change (_ + 1) % _ ≤ _ ↔ _
  omega

theorem BorrowFrom_eq : (!BorrowFrom v shift_op) = (addWithCarry v (~~~shift_op) true).C := by
  rw [C_not]
  unfold BorrowFrom
  rw [← decide_not,decide_eq_decide]
  exact Nat.not_lt

theorem borrow_with : decide (shift_op < v) = (addWithCarry v (~~~shift_op) false).C := by
  rw [C_not,decide_eq_decide]
  exact Iff.rfl

theorem borrow_without : decide (shift_op ≤ v) = (addWithCarry v (~~~shift_op) true).C := by
  rw [C_not,decide_eq_decide]
  exact Iff.rfl

variable (carry : Bool)

theorem OverflowFromADD_eq :
    OverflowFromADD (addWithCarry v shift_op carry).result v shift_op =
      (addWithCarry v shift_op carry).V := by
  rw [V_eq v shift_op carry (by omega)]
  unfold OverflowFromADD
  generalize (addWithCarry v shift_op carry).result = res
  cases v.msb with
  | false => cases shift_op.msb <;> cases res.msb <;> rfl
  | true => cases shift_op.msb <;> cases res.msb <;> rfl

theorem overflow_xor :
    ((v ^^^ shift_op ^^^ (-1)) &&& (v ^^^ (addWithCarry v shift_op carry).result)).msb =
      (addWithCarry v shift_op carry).V := by
  have ones : (-1 : u32).msb = true := rfl
  rw [V_eq v shift_op carry (by omega),BitVec.msb_and,BitVec.msb_xor,BitVec.msb_xor,
    BitVec.msb_xor,ones]
  generalize (addWithCarry v shift_op carry).result = res
  cases v.msb with
  | false => cases shift_op.msb <;> cases res.msb <;> rfl
  | true => cases shift_op.msb <;> cases res.msb <;> rfl

theorem OverflowFromSUB_eq :
    OverflowFromSUB (addWithCarry v (~~~shift_op) carry).result v shift_op =
      (addWithCarry v (~~~shift_op) carry).V := by
  rw [V_not v shift_op carry (by omega)]
  unfold OverflowFromSUB
  generalize (addWithCarry v (~~~shift_op) carry).result = res
  cases v.msb with
  | false => cases shift_op.msb <;> cases res.msb <;> rfl
  | true => cases shift_op.msb <;> cases res.msb <;> rfl

theorem overflow_xor_not :
    ((v ^^^ shift_op) &&& (v ^^^ (addWithCarry v (~~~shift_op) carry).result)).msb =
      (addWithCarry v (~~~shift_op) carry).V := by
  rw [V_not v shift_op carry (by omega),BitVec.msb_and,BitVec.msb_xor,BitVec.msb_xor]
  generalize (addWithCarry v (~~~shift_op) carry).result = res
  cases v.msb with
  | false => cases shift_op.msb <;> cases res.msb <;> rfl
  | true => cases shift_op.msb <;> cases res.msb <;> rfl

theorem sum_eq : v + shift_op = (addWithCarry v shift_op false).result := by
  rw [result_eq]
  exact (BitVec.add_zero _).symm

theorem sum_one_eq : v + shift_op + 1 = (addWithCarry v shift_op true).result := by
  rw [result_eq]
  rfl

theorem difference_eq : v - shift_op = (addWithCarry v (~~~shift_op) true).result := by
  rw [result_not]
  exact (BitVec.sub_zero _).symm

theorem difference_one_eq : v - shift_op - 1 = (addWithCarry v (~~~shift_op) false).result := by
  rw [result_not]
  rfl

end

/-- The result in its register, the flags of the sum, and all else as before. -/
structure Leaves (before after : Processor) (Rd : Fin 16) (sum : Sum 32) : Prop where
  result : after.R Rd = sum.result
  others : ∀ reg, reg ≠ Rd → after.R reg = before.R reg
  flags : FlagsOf before.CPSR after.CPSR sum

theorem setR_self (cpu : Processor) (reg : Fin 16) (val : u32) : (cpu.setR reg val).R reg = val :=
  Function.update_self _ _ _

theorem setR_of_ne (cpu : Processor) {reg other : Fin 16} (val : u32) (ne : other ≠ reg) :
    (cpu.setR reg val).R other = cpu.R other := Function.update_of_ne ne _ _

theorem setFlag_R (cpu : Processor) (idx : Nat) (bit : Bool) :
    (setFlag cpu idx bit).R = cpu.R := rfl

theorem leaves_setFlags (cpu : Processor) (Rd : Fin 16) (sum : Sum 32) :
    Leaves cpu (setFlag (setFlag (setFlag (setFlag (cpu.setR Rd sum.result) 31 sum.N) 30 sum.Z)
      29 sum.C) 28 sum.V) Rd sum where
  result := setR_self cpu Rd sum.result
  others := fun _ ne => setR_of_ne cpu sum.result ne
  flags := flagsOf_setBits cpu.CPSR sum

theorem leaves_carryFirst (cpu : Processor) (Rd : Fin 16) (sum : Sum 32) :
    Leaves cpu (setFlag (setFlag (setFlag (setFlag (cpu.setR Rd sum.result) 29 sum.C) 31 sum.N)
      30 sum.Z) 28 sum.V) Rd sum where
  result := setR_self cpu Rd sum.result
  others := fun _ ne => setR_of_ne cpu sum.result ne
  flags := flagsOf_carryFirst cpu.CPSR sum

section

variable (cpu : Processor) {i : u32} (v shift_op a b : u32)

theorem ADDS_leaves (notPC : REG_POS i 12 ≠ 15) :
    Leaves cpu (OP_ADDS cpu i v shift_op a b).1 (REG_POS i 12) (addWithCarry v shift_op false) := by
  unfold OP_ADDS
  dsimp only
  rw [if_neg notPC,setR_self,CarryFrom_eq,sum_eq,OverflowFromADD_eq]
  exact leaves_setFlags cpu (REG_POS i 12) (addWithCarry v shift_op false)

theorem SUBS_leaves (notPC : REG_POS i 12 ≠ 15) :
    Leaves cpu (OP_SUBS cpu i v shift_op a b).1 (REG_POS i 12)
      (addWithCarry v (~~~shift_op) true) := by
  unfold OP_SUBS
  dsimp only
  rw [if_neg notPC,setR_self,BorrowFrom_eq,difference_eq,OverflowFromSUB_eq]
  exact leaves_setFlags cpu (REG_POS i 12) (addWithCarry v (~~~shift_op) true)

theorem RSBS_leaves (notPC : REG_POS i 12 ≠ 15) :
    Leaves cpu (OP_RSBS cpu i v shift_op a b).1 (REG_POS i 12)
      (addWithCarry shift_op (~~~v) true) := by
  unfold OP_RSBS
  dsimp only
  rw [if_neg notPC,setR_self,BorrowFrom_eq,difference_eq,OverflowFromSUB_eq]
  exact leaves_setFlags cpu (REG_POS i 12) (addWithCarry shift_op (~~~v) true)

theorem C_clear {reg : Status_Reg} (clear : reg.getLsbD 29 = false) : Status_Reg.C reg = 0 := by
  rw [C_eq,clear]
  rfl

theorem C_set {reg : Status_Reg} (set : reg.getLsbD 29 = true) : Status_Reg.C reg ≠ 0 := by
  rw [C_eq,set]
  decide

theorem ADCS_leaves (notPC : REG_POS i 12 ≠ 15) :
    Leaves cpu (OP_ADCS cpu i v shift_op a b).1 (REG_POS i 12)
      (addWithCarry v shift_op (cpu.CPSR.getLsbD 29)) := by
  unfold OP_ADCS
  rw [if_neg notPC]
  dsimp only
  cases carry : cpu.CPSR.getLsbD 29 with
  | false =>
      rw [if_pos (C_clear carry),setR_self,carry_below,sum_eq,setFlag_R,setR_self,
        overflow_xor]
      exact leaves_carryFirst cpu (REG_POS i 12) (addWithCarry v shift_op false)
  | true =>
      rw [if_neg (C_set carry),setR_self,carry_below_one,sum_one_eq,setFlag_R,setR_self,
        overflow_xor]
      exact leaves_carryFirst cpu (REG_POS i 12) (addWithCarry v shift_op true)

theorem xSCS_leaves (left right : u32) (notPC : REG_POS i 12 ≠ 15) :
    Leaves cpu (OP_xSCS cpu i a b left right).1 (REG_POS i 12)
      (addWithCarry left (~~~right) (cpu.CPSR.getLsbD 29)) := by
  unfold OP_xSCS
  rw [if_neg notPC]
  dsimp only
  cases carry : cpu.CPSR.getLsbD 29 with
  | false =>
      rw [if_pos (C_clear carry),borrow_with,difference_one_eq,setFlag_R,setR_self,
        overflow_xor_not]
      exact leaves_carryFirst cpu (REG_POS i 12) (addWithCarry left (~~~right) false)
  | true =>
      rw [if_neg (C_set carry),borrow_without,difference_eq,setFlag_R,setR_self,
        overflow_xor_not]
      exact leaves_carryFirst cpu (REG_POS i 12) (addWithCarry left (~~~right) true)

/-- A comparison changes the flags only. -/
structure Compares (before after : Processor) (sum : Sum 32) : Prop where
  registers : after.R = before.R
  flags : FlagsOf before.CPSR after.CPSR sum

theorem CMP_compares :
    Compares cpu (OP_CMP cpu i shift_op a).1
      (addWithCarry (cpu.R (REG_POS i 16)) (~~~shift_op) true) := by
  unfold OP_CMP
  dsimp only
  simp only [setFlag_R]
  rw [BorrowFrom_eq,difference_eq,OverflowFromSUB_eq]
  exact ⟨rfl,flagsOf_setBits cpu.CPSR _⟩

theorem CMN_compares :
    Compares cpu (OP_CMN cpu i shift_op a).1
      (addWithCarry (cpu.R (REG_POS i 16)) shift_op false) := by
  unfold OP_CMN
  dsimp only
  simp only [setFlag_R]
  rw [CarryFrom_eq,sum_eq,OverflowFromADD_eq]
  exact ⟨rfl,flagsOf_setBits cpu.CPSR _⟩

end

inductive Arithmetic
  | ADDS
  | ADCS
  | SUBS
  | SBCS
  | RSBS
  | RSCS
  deriving DecidableEq

def Arithmetic.handler (host : Host 32) (shifter : Shifter) (cpu : Processor) (i : u32) :
    Arithmetic → Option (Processor × u32)
  | .ADDS => OP_ADD_S host shifter cpu i
  | .ADCS => OP_ADC_S host shifter cpu i
  | .SUBS => OP_SUB_S host shifter cpu i
  | .SBCS => OP_SBC_S host shifter cpu i
  | .RSBS => OP_RSB_S host shifter cpu i
  | .RSCS => OP_RSC_S host shifter cpu i

def Arithmetic.sum (n operand : u32) (carry : Bool) : Arithmetic → Sum 32
  | .ADDS => addWithCarry n operand false
  | .ADCS => addWithCarry n operand carry
  | .SUBS => addWithCarry n (~~~operand) true
  | .SBCS => addWithCarry n (~~~operand) carry
  | .RSBS => addWithCarry operand (~~~n) true
  | .RSCS => addWithCarry operand (~~~n) carry

variable {shifter : Shifter} {host : Host 32} {operand : u32}

theorem arithmetic_leaves {cpu : Processor} {i : u32}
    (given : shifter.plain host i cpu.toarmcpu_t = some operand) (notPC : REG_POS i 12 ≠ 15)
    (instr : Arithmetic) :
    ∃ after cycles, instr.handler host shifter cpu i = some (after, cycles) ∧
      Leaves cpu after (REG_POS i 12)
        (instr.sum (cpu.R (REG_POS i 16)) operand (cpu.CPSR.getLsbD 29)) := by
  have runs : ∀ body : Processor → u32 → u32 → u32 → u32 → u32 → Processor × u32,
      withOperand host shifter cpu i body =
        some (body cpu i (cpu.R (REG_POS i 16)) operand shifter.cycles (shifter.cycles + 2)) := by
    intro body
    unfold withOperand
    rw [given]
    rfl
  cases instr with
  | ADDS => exact ⟨_,_,runs _,ADDS_leaves cpu _ _ _ _ notPC⟩
  | ADCS => exact ⟨_,_,runs _,ADCS_leaves cpu _ _ _ _ notPC⟩
  | SUBS => exact ⟨_,_,runs _,SUBS_leaves cpu _ _ _ _ notPC⟩
  | SBCS => exact ⟨_,_,runs _,xSCS_leaves cpu _ _ _ _ notPC⟩
  | RSBS => exact ⟨_,_,runs _,RSBS_leaves cpu _ _ _ _ notPC⟩
  | RSCS => exact ⟨_,_,runs _,xSCS_leaves cpu _ _ _ _ notPC⟩

theorem CMP_x_compares {cpu : Processor} {i : u32}
    (given : shifter.plain host i cpu.toarmcpu_t = some operand) :
    ∃ after cycles, OP_CMP_x host shifter cpu i = some (after, cycles) ∧
      Compares cpu after (addWithCarry (cpu.R (REG_POS i 16)) (~~~operand) true) := by
  unfold OP_CMP_x
  rw [given]
  exact ⟨_,_,rfl,CMP_compares cpu operand shifter.cycles⟩

theorem CMN_x_compares {cpu : Processor} {i : u32}
    (given : shifter.plain host i cpu.toarmcpu_t = some operand) :
    ∃ after cycles, OP_CMN_x host shifter cpu i = some (after, cycles) ∧
      Compares cpu after (addWithCarry (cpu.R (REG_POS i 16)) operand false) := by
  unfold OP_CMN_x
  rw [given]
  exact ⟨_,_,rfl,CMN_compares cpu operand shifter.cycles⟩

end Desmume.Arm
