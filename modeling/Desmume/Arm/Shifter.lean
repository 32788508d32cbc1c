/-
The shifter operand: `LSL_IMM` to `S_IMM_VALUE`.

The plain macros give the operand, those with `S_` also the carry.
-/

import Desmume.Cpu.Interrupt
import Desmume.Lib.BarrelShifter

namespace Desmume.Arm

open Cpu HostShift BarrelShifter

/-- The carry flag of `CPSR.bits`. -/
def Status_Reg.C (reg : Status_Reg) : u32 := reg >>> 29 &&& 1

def BIT0 (i : u32) : u32 := i &&& 1

def BIT31 (i : u32) : u32 := i >>> 31

section

variable (host : Host 32)

def BIT_N (i n : u32) : Option u32 := (shift host .right i n).map (· &&& 1)

def ROR (i j : u32) : Option u32 := do
  let right ← shift host .right i j
  let left ← shift host .left i (32 - j)
  pure (right ||| left)

variable (i : u32) (cpu : armcpu_t)

/-- `R[REG_POS(i,0)]`. -/
def Rm : u32 := cpu.R (REG_POS i 0)

/-- `(i>>7)&0x1F`. -/
def immediate : u32 := i >>> 7 &&& 0x1F

/-- `R[REG_POS(i,8)]&0xFF`. -/
def amount : u32 := cpu.R (REG_POS i 8) &&& 0xFF

/-- `BIT31(R[REG_POS(i,0)])*0xFFFFFFFF`. -/
def signs : u32 := BIT31 (Rm i cpu) * 0xFFFFFFFF

def LSL_IMM : Option u32 := shift host .left (Rm i cpu) (immediate i)

def S_LSL_IMM : Option (u32 × u32) :=
  let shift_op := immediate i
  let c := Status_Reg.C cpu.CPSR
  if shift_op = 0 then some (Rm i cpu, c)
  else do
    let c ← BIT_N host (Rm i cpu) (32 - shift_op)
    let shift_op ← shift host .left (Rm i cpu) shift_op
    pure (shift_op, c)

def LSL_REG : Option u32 :=
  let shift_op := amount i cpu
  if 32 ≤ shift_op then some 0 else shift host .left (Rm i cpu) shift_op

def S_LSL_REG : Option (u32 × u32) :=
  let shift_op := amount i cpu
  let c := Status_Reg.C cpu.CPSR
  if shift_op = 0 then some (Rm i cpu, c)
  else if shift_op < 32 then do
    let c ← BIT_N host (Rm i cpu) (32 - shift_op)
    let shift_op ← shift host .left (Rm i cpu) shift_op
    pure (shift_op, c)
  else if shift_op = 32 then some (0, BIT0 (Rm i cpu))
  else some (0, 0)

def LSR_IMM : Option u32 :=
  let shift_op := immediate i
  if shift_op ≠ 0 then shift host .right (Rm i cpu) shift_op else some shift_op

def S_LSR_IMM : Option (u32 × u32) :=
  let shift_op := immediate i
  if shift_op = 0 then some (shift_op, BIT31 (Rm i cpu))
  else do
    let c ← BIT_N host (Rm i cpu) (shift_op - 1)
    let shift_op ← shift host .right (Rm i cpu) shift_op
    pure (shift_op, c)

def LSR_REG : Option u32 :=
  let shift_op := amount i cpu
  if 32 ≤ shift_op then some 0 else shift host .right (Rm i cpu) shift_op

def S_LSR_REG : Option (u32 × u32) :=
  let shift_op := amount i cpu
  let c := Status_Reg.C cpu.CPSR
  if shift_op = 0 then some (Rm i cpu, c)
  else if shift_op < 32 then do
    let c ← BIT_N host (Rm i cpu) (shift_op - 1)
    let shift_op ← shift host .right (Rm i cpu) shift_op
    pure (shift_op, c)
  else if shift_op = 32 then some (0, BIT31 (Rm i cpu))
  else some (0, 0)

def ASR_IMM : Option u32 :=
  let shift_op := immediate i
  if shift_op = 0 then some (signs i cpu) else shift host .arithmetic (Rm i cpu) shift_op

def S_ASR_IMM : Option (u32 × u32) :=
  let shift_op := immediate i
  if shift_op = 0 then some (signs i cpu, BIT31 (Rm i cpu))
  else do
    let c ← BIT_N host (Rm i cpu) (shift_op - 1)
    let shift_op ← shift host .arithmetic (Rm i cpu) shift_op
    pure (shift_op, c)

def ASR_REG : Option u32 :=
  let shift_op := amount i cpu
  if shift_op = 0 then some (Rm i cpu)
  else if shift_op < 32 then shift host .arithmetic (Rm i cpu) shift_op
  else some (signs i cpu)

def S_ASR_REG : Option (u32 × u32) :=
  let shift_op := amount i cpu
  let c := Status_Reg.C cpu.CPSR
  if shift_op = 0 then some (Rm i cpu, c)
  else if shift_op < 32 then do
    let c ← BIT_N host (Rm i cpu) (shift_op - 1)
    let shift_op ← shift host .arithmetic (Rm i cpu) shift_op
    pure (shift_op, c)
  else some (signs i cpu, BIT31 (Rm i cpu))

def ROR_IMM : Option u32 :=
  let shift_op := immediate i
  if shift_op = 0 then some (Status_Reg.C cpu.CPSR <<< 31 ||| Rm i cpu >>> 1)
  else ROR host (Rm i cpu) shift_op

def S_ROR_IMM : Option (u32 × u32) :=
  let shift_op := immediate i
  if shift_op = 0 then
    some (Status_Reg.C cpu.CPSR <<< 31 ||| Rm i cpu >>> 1, BIT0 (Rm i cpu))
  else do
    let c ← BIT_N host (Rm i cpu) (shift_op - 1)
    let shift_op ← ROR host (Rm i cpu) shift_op
    pure (shift_op, c)

def ROR_REG : Option u32 :=
  let shift_op := amount i cpu
  if shift_op = 0 ∨ shift_op &&& 0x1F = 0 then some (Rm i cpu)
  else ROR host (Rm i cpu) (shift_op &&& 0x1F)

def S_ROR_REG : Option (u32 × u32) :=
  let shift_op := amount i cpu
  let c := Status_Reg.C cpu.CPSR
  if shift_op = 0 then some (Rm i cpu, c)
  else
    let shift_op := shift_op &&& 0x1F
    if shift_op = 0 then some (Rm i cpu, BIT31 (Rm i cpu))
    else do
      let c ← BIT_N host (Rm i cpu) (shift_op - 1)
      let shift_op ← ROR host (Rm i cpu) shift_op
      pure (shift_op, c)

def IMM_VALUE : Option u32 := ROR host (i &&& 0xFF) (i >>> 7 &&& 0x1E)

def S_IMM_VALUE : Option (u32 × u32) := do
  let shift_op ← ROR host (i &&& 0xFF) (i >>> 7 &&& 0x1E)
  let c := Status_Reg.C cpu.CPSR
  let c := if i >>> 8 &&& 0xF ≠ 0 then BIT31 shift_op else c
  pure (shift_op, c)

/-- The forms of the shifter operand. -/
inductive Shifter
  | LSL_IMM
  | LSL_REG
  | LSR_IMM
  | LSR_REG
  | ASR_IMM
  | ASR_REG
  | ROR_IMM
  | ROR_REG
  | IMM_VALUE
  deriving DecidableEq

def Shifter.plain : Shifter → Option u32
  | .LSL_IMM => Arm.LSL_IMM host i cpu
  | .LSL_REG => Arm.LSL_REG host i cpu
  | .LSR_IMM => Arm.LSR_IMM host i cpu
  | .LSR_REG => Arm.LSR_REG host i cpu
  | .ASR_IMM => Arm.ASR_IMM host i cpu
  | .ASR_REG => Arm.ASR_REG host i cpu
  | .ROR_IMM => Arm.ROR_IMM host i cpu
  | .ROR_REG => Arm.ROR_REG host i cpu
  | .IMM_VALUE => Arm.IMM_VALUE host i

def Shifter.flagSetting : Shifter → Option (u32 × u32)
  | .LSL_IMM => S_LSL_IMM host i cpu
  | .LSL_REG => S_LSL_REG host i cpu
  | .LSR_IMM => S_LSR_IMM host i cpu
  | .LSR_REG => S_LSR_REG host i cpu
  | .ASR_IMM => S_ASR_IMM host i cpu
  | .ASR_REG => S_ASR_REG host i cpu
  | .ROR_IMM => S_ROR_IMM host i cpu
  | .ROR_REG => S_ROR_REG host i cpu
  | .IMM_VALUE => S_IMM_VALUE host i cpu

end

/-- The amount of an immediate shift to the right, where 0 stands for 32. -/
def decoded (i : u32) : Nat := if immediate i = 0 then 32 else (immediate i).toNat

/-- The shifter operand of the architecture and its carry-out. -/
def shifterOperand (i : u32) (cpu : armcpu_t) (shifter : Shifter) : u32 × Bool :=
  let carry := cpu.CPSR.getLsbD 29
  match shifter with
  | .LSL_IMM => Shift_C (Rm i cpu) .LSL (immediate i).toNat carry
  | .LSR_IMM => Shift_C (Rm i cpu) .LSR (decoded i) carry
  | .ASR_IMM => Shift_C (Rm i cpu) .ASR (decoded i) carry
  | .ROR_IMM =>
      if immediate i = 0 then RRX_C (Rm i cpu) carry
      else Shift_C (Rm i cpu) .ROR (immediate i).toNat carry
  | .LSL_REG => Shift_C (Rm i cpu) .LSL (amount i cpu).toNat carry
  | .LSR_REG => Shift_C (Rm i cpu) .LSR (amount i cpu).toNat carry
  | .ASR_REG => Shift_C (Rm i cpu) .ASR (amount i cpu).toNat carry
  | .ROR_REG => Shift_C (Rm i cpu) .ROR (amount i cpu).toNat carry
  | .IMM_VALUE => Shift_C (i &&& 0xFF) .ROR (2 * (i >>> 8 &&& 0xF).toNat) carry

def flag (bit : Bool) : u32 := (BitVec.ofBool bit).setWidth 32

end Desmume.Arm
