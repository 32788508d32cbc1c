/-
The arithmetic instructions with S: `OP_ADDS` to `OP_RSCS`, `OP_CMP`, `OP_CMN`
and the long multiplications.

A handler reads Rn, then its shifter operand, and its macro does the rest; the
handlers of one instruction differ in the form of the operand and in the cycles
that they return.
-/

import Desmume.Arm.Shifter
import Desmume.Lib.AddWithCarry

namespace Desmume.Arm

open Cpu HostShift

def CarryFrom (left right : u32) : Bool :=
  let res := (0xFFFFFFFF : u32) - left
  res < right

def OverflowFromADD (alu_out left right : u32) : Bool :=
  ((!left.msb && !right.msb) || (left.msb && right.msb)) &&
    ((left.msb && !alu_out.msb) || (!left.msb && alu_out.msb))

def setFlag (cpu : Processor) (idx : Nat) (bit : Bool) : Processor :=
  { cpu with CPSR := cpu.CPSR.setBit idx bit }

/-- `!CPSR.bits.C`. -/
def notC (reg : Status_Reg) : u32 := if Status_Reg.C reg = 0 then 1 else 0

def leaveToSPSR (cpu : Processor) : Processor :=
  let SPSR := cpu.SPSR
  let cpu := cpu.switchMode (BitVec.ofNat 8 SPSR.mode)
  let cpu := { cpu with CPSR := SPSR }
  let cpu := { cpu with toarmcpu_t := changeCPSR cpu.toarmcpu_t }
  let cpu := cpu.setR 15 (cpu.R 15 &&& (0xFFFFFFFC ||| cpu.CPSR.T <<< 1))
  { cpu with next_instruction := cpu.R 15 }

section

variable (cpu : Processor) (i v shift_op a b : u32)

def OP_ADDS : Processor × u32 :=
  let cpu := cpu.setR (REG_POS i 12) (v + shift_op)
  if REG_POS i 12 = 15 then (leaveToSPSR cpu, b)
  else
    let res := cpu.R (REG_POS i 12)
    let cpu := setFlag cpu 31 res.msb
    let cpu := setFlag cpu 30 (res == 0)
    let cpu := setFlag cpu 29 (CarryFrom v shift_op)
    let cpu := setFlag cpu 28 (OverflowFromADD res v shift_op)
    (cpu, a)

def OP_RSBS : Processor × u32 :=
  let cpu := cpu.setR (REG_POS i 12) (shift_op - v)
  if REG_POS i 12 = 15 then (leaveToSPSR cpu, b)
  else
    let res := cpu.R (REG_POS i 12)
    let cpu := setFlag cpu 31 res.msb
    let cpu := setFlag cpu 30 (res == 0)
    let cpu := setFlag cpu 29 (!BorrowFrom shift_op v)
    let cpu := setFlag cpu 28 (OverflowFromSUB res shift_op v)
    (cpu, a)

def OP_ADCS : Processor × u32 :=
  if REG_POS i 12 = 15 then
    (leaveToSPSR (cpu.setR (REG_POS i 12) (v + shift_op + Status_Reg.C cpu.CPSR)), b)
  else
    let cpu :=
      if Status_Reg.C cpu.CPSR = 0 then
        let cpu := cpu.setR (REG_POS i 12) (v + shift_op)
        setFlag cpu 29 (cpu.R (REG_POS i 12) < v)
      else
        let cpu := cpu.setR (REG_POS i 12) (v + shift_op + 1)
        setFlag cpu 29 (cpu.R (REG_POS i 12) ≤ v)
    let res := cpu.R (REG_POS i 12)
    let cpu := setFlag cpu 31 res.msb
    let cpu := setFlag cpu 30 (res == 0)
    let cpu := setFlag cpu 28 ((v ^^^ shift_op ^^^ (-1)) &&& (v ^^^ res)).msb
    (cpu, a)

/-- `OP_SBCS` and `OP_RSCS` differ in which operand is subtracted. -/
def OP_xSCS (left right : u32) : Processor × u32 :=
  if REG_POS i 12 = 15 then
    (leaveToSPSR (cpu.setR (REG_POS i 12) (left - right - notC cpu.CPSR)), b)
  else
    let cpu :=
      if Status_Reg.C cpu.CPSR = 0 then
        let cpu := cpu.setR (REG_POS i 12) (left - right - 1)
        setFlag cpu 29 (right < left)
      else
        let cpu := cpu.setR (REG_POS i 12) (left - right)
        setFlag cpu 29 (right ≤ left)
    let res := cpu.R (REG_POS i 12)
    let cpu := setFlag cpu 31 res.msb
    let cpu := setFlag cpu 30 (res == 0)
    let cpu := setFlag cpu 28 ((left ^^^ right) &&& (left ^^^ res)).msb
    (cpu, a)

def OP_SBCS : Processor × u32 := OP_xSCS cpu i a b v shift_op

def OP_RSCS : Processor × u32 := OP_xSCS cpu i a b shift_op v

def OP_CMP : Processor × u32 :=
  let tmp := cpu.R (REG_POS i 16) - shift_op
  let cpu := setFlag cpu 31 tmp.msb
  let cpu := setFlag cpu 30 (tmp == 0)
  let cpu := setFlag cpu 29 (!BorrowFrom (cpu.R (REG_POS i 16)) shift_op)
  let cpu := setFlag cpu 28 (OverflowFromSUB tmp (cpu.R (REG_POS i 16)) shift_op)
  (cpu, a)

def OP_CMN : Processor × u32 :=
  let tmp := cpu.R (REG_POS i 16) + shift_op
  let cpu := setFlag cpu 31 tmp.msb
  let cpu := setFlag cpu 30 (tmp == 0)
  let cpu := setFlag cpu 29 (CarryFrom (cpu.R (REG_POS i 16)) shift_op)
  let cpu := setFlag cpu 28 (OverflowFromADD tmp (cpu.R (REG_POS i 16)) shift_op)
  (cpu, a)

end

def Shifter.byRegister : Shifter → Bool
  | .LSL_REG | .LSR_REG | .ASR_REG | .ROR_REG => true
  | .LSL_IMM | .LSR_IMM | .ASR_IMM | .ROR_IMM | .IMM_VALUE => false

def Shifter.cycles (shifter : Shifter) : u32 := if shifter.byRegister then 2 else 1

section

variable (host : Host 32) (shifter : Shifter) (cpu : Processor) (i : u32)

/-- A handler from its macro: `OP_x_S_LSL_IMM` to `OP_x_S_IMM_VAL`. -/
def withOperand (macro_x : Processor → u32 → u32 → u32 → u32 → u32 → Processor × u32) :
    Option (Processor × u32) := do
  let v := cpu.R (REG_POS i 16)
  let shift_op ← shifter.plain host i cpu.toarmcpu_t
  pure (macro_x cpu i v shift_op shifter.cycles (shifter.cycles + 2))

def OP_ADD_S : Option (Processor × u32) := withOperand host shifter cpu i OP_ADDS

def OP_ADC_S : Option (Processor × u32) := withOperand host shifter cpu i OP_ADCS

def OP_SUB_S : Option (Processor × u32) := withOperand host shifter cpu i OP_SUBS

def OP_SBC_S : Option (Processor × u32) := withOperand host shifter cpu i OP_SBCS

def OP_RSB_S : Option (Processor × u32) := withOperand host shifter cpu i OP_RSBS

def OP_RSC_S : Option (Processor × u32) := withOperand host shifter cpu i OP_RSCS

/-- `OP_CMP_LSL_IMM` to `OP_CMP_IMM_VAL`. -/
def OP_CMP_x : Option (Processor × u32) := do
  let shift_op ← shifter.plain host i cpu.toarmcpu_t
  pure (OP_CMP cpu i shift_op shifter.cycles)

def OP_CMN_x : Option (Processor × u32) := do
  let shift_op ← shifter.plain host i cpu.toarmcpu_t
  pure (OP_CMN cpu i shift_op shifter.cycles)

end

def MUL_UMxxL_END (c v : u32) : u32 :=
  if v >>> 8 = 0 then c + 1
  else if v >>> 16 = 0 then c + 2
  else if v >>> 24 = 0 then c + 3
  else c + 4

def MUL_SMxxL_END (c : u32) (v : u64) : u32 :=
  let v := v &&& 0xFFFFFFFF
  if v >>> 8 = 0 ∨ v >>> 8 = 0xFFFFFF then c + 1
  else if v >>> 16 = 0 ∨ v >>> 16 = 0xFFFF then c + 2
  else if v >>> 24 = 0 ∨ v >>> 24 = 0xFF then c + 3
  else c + 4

section

variable (cpu : Processor) (i : u32)

def setLongFlags : Processor :=
  let cpu := setFlag cpu 31 (cpu.R (REG_POS i 16)).msb
  setFlag cpu 30 (cpu.R (REG_POS i 16) == 0 && cpu.R (REG_POS i 12) == 0)

def OP_UMULL_S : Processor × u32 :=
  let v := cpu.R (REG_POS i 8)
  let res : u64 := (cpu.R (REG_POS i 0)).setWidth 64 * v.setWidth 64
  let cpu := cpu.setR (REG_POS i 12) (res.setWidth 32)
  let cpu := cpu.setR (REG_POS i 16) ((res >>> 32).setWidth 32)
  (setLongFlags cpu i, MUL_UMxxL_END 2 v)

def OP_UMLAL_S : Processor × u32 :=
  let v := cpu.R (REG_POS i 8)
  let res : u64 := (cpu.R (REG_POS i 0)).setWidth 64 * v.setWidth 64
  let tmp : u32 := res.setWidth 32
  let cpu := cpu.setR (REG_POS i 16) ((res >>> 32).setWidth 32 + cpu.R (REG_POS i 16) +
    flag (CarryFrom tmp (cpu.R (REG_POS i 12))))
  let cpu := cpu.setR (REG_POS i 12) (cpu.R (REG_POS i 12) + tmp)
  (setLongFlags cpu i, MUL_UMxxL_END 3 v)

def OP_SMULL_S : Processor × u32 :=
  let v : u64 := (cpu.R (REG_POS i 8)).signExtend 64
  let res : u64 := v * (cpu.R (REG_POS i 0)).signExtend 64
  let cpu := cpu.setR (REG_POS i 12) (res.setWidth 32)
  let cpu := cpu.setR (REG_POS i 16) ((res.sshiftRight 32).setWidth 32)
  (setLongFlags cpu i, MUL_SMxxL_END 2 v)

def OP_SMLAL_S : Processor × u32 :=
  let v : u64 := (cpu.R (REG_POS i 8)).signExtend 64
  let res : u64 := v * (cpu.R (REG_POS i 0)).signExtend 64
  let tmp : u32 := res.setWidth 32
  let cpu := cpu.setR (REG_POS i 16) ((res.sshiftRight 32).setWidth 32 + cpu.R (REG_POS i 16) +
    flag (CarryFrom tmp (cpu.R (REG_POS i 12))))
  let cpu := cpu.setR (REG_POS i 12) (cpu.R (REG_POS i 12) + tmp)
  (setLongFlags cpu i, MUL_SMxxL_END 3 v)

end

end Desmume.Arm
