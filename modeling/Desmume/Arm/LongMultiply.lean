/-
The long multiplications with S, and all the arithmetic instructions with S
together.

The two registers of a product are its halves. The accumulating forms add the
halves one by one, with the carry of the lower to the upper.
-/

import Desmume.Arm.Flags

namespace Desmume.Arm

open Cpu HostShift AddWithCarry

theorem toNat_halves (high low : u32) :
    (high ++ low : u64).toNat = high.toNat * 2 ^ 32 + low.toNat := by
  rw [BitVec.toNat_append,← Nat.shiftLeft_add_eq_or_of_lt low.isLt,Nat.shiftLeft_eq]

variable (res : u64)

theorem upper_toNat : ((res >>> 32).setWidth 32).toNat = res.toNat / 2 ^ 32 := by
  have bound := res.isLt
  rw [BitVec.toNat_setWidth,BitVec.toNat_ushiftRight,Nat.shiftRight_eq_div_pow]
  omega

theorem lower_toNat : (res.setWidth 32).toNat = res.toNat % 2 ^ 32 :=
  BitVec.toNat_setWidth 32 res

theorem halves_eq : ((res >>> 32).setWidth 32 ++ res.setWidth 32 : u64) = res := by
  apply BitVec.eq_of_toNat_eq
  rw [toNat_halves,upper_toNat,lower_toNat]
  exact Nat.div_add_mod' res.toNat (2 ^ 32)

theorem upper_signed : (res.sshiftRight 32).setWidth 32 = (res >>> 32).setWidth 32 := by
  apply BitVec.eq_of_getLsbD_eq
  intro idx inside
  have within : 32 + idx < 64 := by omega
  have low : ¬64 ≤ idx := by omega
  rw [BitVec.getLsbD_setWidth,BitVec.getLsbD_setWidth,BitVec.getLsbD_sshiftRight,
    BitVec.getLsbD_ushiftRight,if_pos within]
  simp only [low,decide_false,Bool.not_false,Bool.true_and]

theorem carry_toNat (left right : u32) :
    (flag (CarryFrom left right)).toNat =
      if 2 ^ 32 ≤ left.toNat + right.toNat then 1 else 0 := by
  rw [CarryFrom_eq,AddWithCarry.C_eq]
  by_cases wraps : 2 ^ 32 ≤ left.toNat + right.toNat
  · have carried : 2 ^ 32 ≤ unsignedSum left right false := wraps
    rw [decide_eq_true carried,if_pos wraps]
    rfl
  · have fits : ¬2 ^ 32 ≤ unsignedSum left right false := wraps
    rw [decide_eq_false fits,if_neg wraps]
    rfl

theorem halves_add (high low : u32) :
    ((res >>> 32).setWidth 32 + high + flag (CarryFrom (res.setWidth 32) low) ++
      (low + res.setWidth 32) : u64) = res + (high ++ low) := by
  have first := res.isLt
  have second := high.isLt
  have third := low.isLt
  apply BitVec.eq_of_toNat_eq
  rw [toNat_halves,BitVec.toNat_add,BitVec.toNat_add,BitVec.toNat_add,BitVec.toNat_add,
    toNat_halves,carry_toNat,upper_toNat,lower_toNat]
  split <;> omega

theorem unsigned_product (a b : u32) :
    (a.setWidth 64 * b.setWidth 64 : u64) = BitVec.ofNat 64 (a.toNat * b.toNat) := by
  rw [BitVec.ofNat_mul,BitVec.ofNat_toNat,BitVec.ofNat_toNat]

theorem signExtend_ofInt (a : u32) : a.signExtend 64 = BitVec.ofInt 64 a.toInt := by
  have val : (a.signExtend 64).toInt = a.toInt := BitVec.toInt_signExtend_of_le (by omega)
  rw [← val,BitVec.ofInt_toInt]

theorem signed_product (a b : u32) :
    (b.signExtend 64 * a.signExtend 64 : u64) = BitVec.ofInt 64 (a.toInt * b.toInt) := by
  rw [BitVec.ofInt_mul,signExtend_ofInt,signExtend_ofInt,BitVec.mul_comm]

/-- The value in the two registers, N and Z of all its bits, and all else as
before. -/
structure LeavesLong (before after : Processor) (RdHi RdLo : Fin 16) (val : u64) : Prop where
  halves : (after.R RdHi ++ after.R RdLo : u64) = val
  others : ∀ reg, reg ≠ RdHi → reg ≠ RdLo → after.R reg = before.R reg
  N : after.CPSR.getLsbD 31 = val.msb
  Z : after.CPSR.getLsbD 30 = (val == 0)
  flags : ∀ k < 30, after.CPSR.getLsbD k = before.CPSR.getLsbD k

theorem zero_halves (high low : u32) : (high == 0 && low == 0) = ((high ++ low : u64) == 0) := by
  rw [Bool.eq_iff_iff,Bool.and_eq_true,beq_iff_eq,beq_iff_eq,beq_iff_eq]
  constructor
  · rintro ⟨none,nothing⟩
    rw [none,nothing]
    rfl
  · intro zero
    have total := congrArg BitVec.toNat zero
    rw [toNat_halves] at total
    change _ = 0 at total
    exact ⟨BitVec.eq_of_toNat_eq (by change _ = 0; omega),
      BitVec.eq_of_toNat_eq (by change _ = 0; omega)⟩

theorem msb_halves (high low : u32) : high.msb = (high ++ low : u64).msb := by
  rw [BitVec.msb_append]
  exact (if_neg (by omega)).symm

theorem leavesLong_setLongFlags {before cpu : Processor} {i : u32} (status : cpu.CPSR = before.CPSR)
    (others : ∀ reg, reg ≠ REG_POS i 16 → reg ≠ REG_POS i 12 → cpu.R reg = before.R reg) :
    LeavesLong before (setLongFlags cpu i) (REG_POS i 16) (REG_POS i 12)
      (cpu.R (REG_POS i 16) ++ cpu.R (REG_POS i 12)) := by
  have inside : 31 < 32 ∧ 30 < 32 := ⟨by omega,by omega⟩
  have flags : (setLongFlags cpu i).CPSR =
      (cpu.CPSR.setBit 31 (cpu.R (REG_POS i 16)).msb).setBit 30
        (cpu.R (REG_POS i 16) == 0 && cpu.R (REG_POS i 12) == 0) := rfl
  constructor
  · rfl
  · exact others
  · rw [flags,getLsbD_setBit _ _ inside.2,getLsbD_setBit _ _ inside.1,← msb_halves]
    rfl
  · rw [flags,getLsbD_setBit _ _ inside.2,← zero_halves]
    rfl
  · intro k low
    have away : k ≠ 30 ∧ k ≠ 31 := by omega
    rw [flags,getLsbD_setBit _ _ inside.2,getLsbD_setBit _ _ inside.1,if_neg away.1,
      if_neg away.2,status]

section

variable (cpu : Processor) {i : u32}

theorem leavesLong_lowFirst (distinct : REG_POS i 16 ≠ REG_POS i 12) {high low : u32}
    {val : u64} (halves : (high ++ low : u64) = val) :
    LeavesLong cpu (setLongFlags ((cpu.setR (REG_POS i 12) low).setR (REG_POS i 16) high) i)
      (REG_POS i 16) (REG_POS i 12) val := by
  have leaves := @leavesLong_setLongFlags cpu
    ((cpu.setR (REG_POS i 12) low).setR (REG_POS i 16) high) i rfl
    (fun reg notHigh notLow => (setR_of_ne _ high notHigh).trans (setR_of_ne cpu low notLow))
  rwa [setR_self,setR_of_ne _ high distinct.symm,setR_self,halves] at leaves

theorem leavesLong_highFirst (distinct : REG_POS i 16 ≠ REG_POS i 12) {high low : u32}
    {val : u64} (halves : (high ++ low : u64) = val) :
    LeavesLong cpu (setLongFlags ((cpu.setR (REG_POS i 16) high).setR (REG_POS i 12) low) i)
      (REG_POS i 16) (REG_POS i 12) val := by
  have leaves := @leavesLong_setLongFlags cpu
    ((cpu.setR (REG_POS i 16) high).setR (REG_POS i 12) low) i rfl
    (fun reg notHigh notLow => (setR_of_ne _ low notLow).trans (setR_of_ne cpu high notHigh))
  rwa [setR_self,setR_of_ne _ low distinct,setR_self,halves] at leaves

end

inductive LongMultiply
  | UMULLS
  | UMLALS
  | SMULLS
  | SMLALS
  deriving DecidableEq

def LongMultiply.handler (cpu : Processor) (i : u32) : LongMultiply → Processor × u32
  | .UMULLS => OP_UMULL_S cpu i
  | .UMLALS => OP_UMLAL_S cpu i
  | .SMULLS => OP_SMULL_S cpu i
  | .SMLALS => OP_SMLAL_S cpu i

/-- The product of Rm and Rs, with the old value of the two registers for the
accumulating forms. -/
def LongMultiply.value (m s : u32) (old : u64) : LongMultiply → u64
  | .UMULLS => BitVec.ofNat 64 (m.toNat * s.toNat)
  | .UMLALS => BitVec.ofNat 64 (m.toNat * s.toNat) + old
  | .SMULLS => BitVec.ofInt 64 (m.toInt * s.toInt)
  | .SMLALS => BitVec.ofInt 64 (m.toInt * s.toInt) + old

theorem longMultiply_leaves (cpu : Processor) {i : u32}
    (distinct : REG_POS i 16 ≠ REG_POS i 12) (instr : LongMultiply) :
    LeavesLong cpu (instr.handler cpu i).1 (REG_POS i 16) (REG_POS i 12)
      (instr.value (cpu.R (REG_POS i 0)) (cpu.R (REG_POS i 8))
        (cpu.R (REG_POS i 16) ++ cpu.R (REG_POS i 12))) := by
  cases instr with
  | UMULLS =>
      apply leavesLong_lowFirst cpu distinct
      rw [halves_eq]
      exact unsigned_product _ _
  | UMLALS =>
      change LeavesLong cpu (OP_UMLAL_S cpu i).1 _ _ _
      unfold OP_UMLAL_S
      dsimp only
      rw [setR_of_ne cpu _ distinct.symm]
      apply leavesLong_highFirst cpu distinct
      rw [halves_add,unsigned_product]
      rfl
  | SMULLS =>
      apply leavesLong_lowFirst cpu distinct
      rw [upper_signed,halves_eq]
      exact signed_product _ _
  | SMLALS =>
      change LeavesLong cpu (OP_SMLAL_S cpu i).1 _ _ _
      unfold OP_SMLAL_S
      dsimp only
      rw [setR_of_ne cpu _ distinct.symm]
      apply leavesLong_highFirst cpu distinct
      rw [upper_signed,halves_add,signed_product]
      rfl

/-- The sums leave their result and the four flags, the comparisons the flags
only, and a long multiplication its value in two distinct registers. -/
theorem arithmetic_flags (host : Host 32) (keeps : Keeps host) (cpu : Processor) (i : u32) :
    (∀ (shifter : Shifter) (instr : Arithmetic), REG_POS i 12 ≠ 15 →
      ∃ after cycles, instr.handler host shifter cpu i = some (after, cycles) ∧
        Leaves cpu after (REG_POS i 12)
          (instr.sum (cpu.R (REG_POS i 16)) (shifterOperand i cpu.toarmcpu_t shifter).1
            (cpu.CPSR.getLsbD 29))) ∧
    (∀ shifter : Shifter, ∃ after cycles, OP_CMP_x host shifter cpu i = some (after, cycles) ∧
      Compares cpu after (addWithCarry (cpu.R (REG_POS i 16))
        (~~~(shifterOperand i cpu.toarmcpu_t shifter).1) true)) ∧
    (∀ shifter : Shifter, ∃ after cycles, OP_CMN_x host shifter cpu i = some (after, cycles) ∧
      Compares cpu after (addWithCarry (cpu.R (REG_POS i 16))
        (shifterOperand i cpu.toarmcpu_t shifter).1 false)) ∧
    (∀ instr : LongMultiply, REG_POS i 16 ≠ REG_POS i 12 →
      LeavesLong cpu (instr.handler cpu i).1 (REG_POS i 16) (REG_POS i 12)
        (instr.value (cpu.R (REG_POS i 0)) (cpu.R (REG_POS i 8))
          (cpu.R (REG_POS i 16) ++ cpu.R (REG_POS i 12)))) := by
  have given := fun shifter : Shifter =>
    (gives_operand i cpu.toarmcpu_t shifter (fun _ _ => keeps)).plain
  refine ⟨?_,?_,?_,?_⟩
  · intro shifter instr notPC
    exact arithmetic_leaves (given shifter) notPC instr
  · intro shifter
    exact CMP_x_compares (given shifter)
  · intro shifter
    exact CMN_x_compares (given shifter)
  · intro instr distinct
    exact longMultiply_leaves cpu distinct instr

def ones : Processor :=
  { armcpu_t.initial with
    R := fun _ => 1
    instruction := 0
    instruct_adr := 0
    waitIRQ := false }

/-- `ADCS R3, R1, R1` and, with the same fields, `UMULLS R3, R1, R1, R0`. -/
theorem arithmetic_flags_ones :
    (∃ after cycles, OP_ADC_S modulo .LSL_IMM ones 0xE0B13001 = some (after, cycles) ∧
      Leaves ones after 3 (addWithCarry 1 1 false)) ∧
    LeavesLong ones (OP_UMULL_S ones 0xE0B13001).1 1 3 1 :=
  ⟨(arithmetic_flags modulo keeps_modulo ones 0xE0B13001).1 .LSL_IMM .ADCS (by decide),
    (arithmetic_flags modulo keeps_modulo ones 0xE0B13001).2.2.2 .UMULLS (by decide)⟩

/-- `UMULLS R0, R0, R1, R1` leaves the upper half of the product in the one
register. -/
theorem long_multiply_one_register :
    ¬∀ (cpu : Processor) (i : u32) (instr : LongMultiply),
      LeavesLong cpu (instr.handler cpu i).1 (REG_POS i 16) (REG_POS i 12)
        (instr.value (cpu.R (REG_POS i 0)) (cpu.R (REG_POS i 8))
          (cpu.R (REG_POS i 16) ++ cpu.R (REG_POS i 12))) := by
  intro all
  have halves := (all ones 0xE0900191 .UMULLS).halves
  have upper : (OP_UMULL_S ones 0xE0900191).1.R 0 = 0 := by decide
  change ((OP_UMULL_S ones 0xE0900191).1.R 0 ++ (OP_UMULL_S ones 0xE0900191).1.R 0 : u64) =
    BitVec.ofNat 64 (1 * 1) at halves
  rw [upper] at halves
  exact absurd halves (by decide)

end Desmume.Arm
