/-
Block loads with the S bit: `OP_LDMIA2`, `OP_LDMIB2`, `OP_LDMDA2`, `OP_LDMDB2`
and their forms with write-back.

Without R15 in the list they load the user bank; with it they return from an
exception.
-/

import Desmume.Cpu.Interrupt

namespace Desmume.Cpu

def BIT_N (i : u32) (n : Nat) : Bool := i.getLsbD n

def BIT15 (i : u32) : Bool := BIT_N i 15

section

variable (READ32 : u32 → u32) (i : u32)

/-- One `OP_L_xx` macro: the address moves before and after the load. -/
def OP_L (before after : u32) (st : armcpu_t × u32) (reg : Fin 15) : armcpu_t × u32 :=
  if BIT_N i reg then
    let start := st.2 + before
    (setR st.1 reg.castSucc (READ32 start), start + after)
  else st

def OP_L_IA : armcpu_t × u32 → Fin 15 → armcpu_t × u32 := OP_L READ32 i 0 4

def OP_L_IB : armcpu_t × u32 → Fin 15 → armcpu_t × u32 := OP_L READ32 i 4 0

def OP_L_DA : armcpu_t × u32 → Fin 15 → armcpu_t × u32 := OP_L READ32 i 0 (-4)

def OP_L_DB : armcpu_t × u32 → Fin 15 → armcpu_t × u32 := OP_L READ32 i (-4) 0

def upwards : List (Fin 15) := List.finRange 15

def downwards : List (Fin 15) := (List.finRange 15).reverse

variable (cpu : armcpu_t)

def inUserMode : Bool :=
  cpu.CPSR.mode == Mode.USR.code || cpu.CPSR.mode == Mode.SYS.code

/-- `armcpu_switchMode(cpu, SYS)` around the loads. -/
def loadUserBank (load : armcpu_t → armcpu_t) (cpu : armcpu_t) : armcpu_t :=
  if inUserMode cpu then cpu
  else
    let switched := armcpu_switchMode cpu (BitVec.ofNat 8 Mode.SYS.code)
    (armcpu_switchMode (load switched.1) (BitVec.ofNat 8 switched.2)).1

/-- `tmp & (0XFFFFFFFC | (BIT0(tmp)<<1))`. -/
def maskPC (tmp : u32) : u32 := tmp &&& ((0xFFFFFFFC : u32) ||| (tmp &&& 1) <<< 1)

def loadPC (start : u32) : armcpu_t := setR cpu 15 (maskPC (READ32 start))

/-- `cpu->CPSR = cpu->SPSR`. -/
def takeSPSR : armcpu_t := changeCPSR { cpu with CPSR := cpu.SPSR }

def leaveException : armcpu_t :=
  let SPSR := cpu.SPSR
  let cpu := (armcpu_switchMode cpu (BitVec.ofNat 8 SPSR.mode)).1
  changeCPSR { cpu with CPSR := SPSR }

def setNext : armcpu_t := { cpu with next_instruction := cpu.R 15 }

/-- `if (!BIT_N(i, REG_POS(i,16))) registres[REG_POS(i,16)] = start`. -/
def writeBack (start : u32) : armcpu_t :=
  if BIT_N i (REG_POS i 16) then cpu else setR cpu (REG_POS i 16) start

def OP_LDMIA2 : armcpu_t :=
  let start := cpu.R (REG_POS i 16)
  if BIT15 i = false then
    loadUserBank (fun cpu => (upwards.foldl (OP_L_IA READ32 i) (cpu, start)).1) cpu
  else
    let (cpu, start) := upwards.foldl (OP_L_IA READ32 i) (cpu, start)
    setNext (leaveException (loadPC READ32 cpu start))

def OP_LDMIB2 : armcpu_t :=
  let start := cpu.R (REG_POS i 16)
  if BIT15 i = false then
    loadUserBank (fun cpu => (upwards.foldl (OP_L_IB READ32 i) (cpu, start)).1) cpu
  else
    let (cpu, start) := upwards.foldl (OP_L_IB READ32 i) (cpu, start)
    setNext (leaveException (loadPC READ32 cpu (start + 4)))

def OP_LDMDA2 : armcpu_t :=
  let start := cpu.R (REG_POS i 16)
  if BIT15 i = false then
    loadUserBank (fun cpu => (downwards.foldl (OP_L_DA READ32 i) (cpu, start)).1) cpu
  else
    let cpu := setNext (takeSPSR (loadPC READ32 cpu start))
    leaveException (downwards.foldl (OP_L_DA READ32 i) (cpu, start - 4)).1

def OP_LDMDB2 : armcpu_t :=
  let start := cpu.R (REG_POS i 16)
  if BIT15 i = false then
    loadUserBank (fun cpu => (downwards.foldl (OP_L_DB READ32 i) (cpu, start)).1) cpu
  else
    let start := start - 4
    let cpu := setNext (takeSPSR (loadPC READ32 cpu start))
    leaveException (downwards.foldl (OP_L_DB READ32 i) (cpu, start)).1

def OP_LDMIA2_W : armcpu_t :=
  let start := cpu.R (REG_POS i 16)
  if BIT15 i = false then
    loadUserBank (fun cpu =>
      let (cpu, start) := upwards.foldl (OP_L_IA READ32 i) (cpu, start)
      writeBack i cpu start) cpu
  else
    let (cpu, start) := upwards.foldl (OP_L_IA READ32 i) (cpu, start)
    let cpu := writeBack i cpu (start + 4)
    setNext (leaveException (loadPC READ32 cpu start))

def OP_LDMIB2_W : armcpu_t :=
  let start := cpu.R (REG_POS i 16)
  if BIT15 i = false then
    loadUserBank (fun cpu =>
      let (cpu, start) := upwards.foldl (OP_L_IB READ32 i) (cpu, start)
      writeBack i cpu start) cpu
  else
    let (cpu, start) := upwards.foldl (OP_L_IB READ32 i) (cpu, start)
    let cpu := writeBack i cpu (start + 4)
    leaveException (setNext (takeSPSR (loadPC READ32 cpu (start + 4))))

def OP_LDMDA2_W : armcpu_t :=
  let start := cpu.R (REG_POS i 16)
  if BIT15 i = false then
    loadUserBank (fun cpu =>
      let (cpu, start) := downwards.foldl (OP_L_DA READ32 i) (cpu, start)
      writeBack i cpu start) cpu
  else
    let cpu := setNext (loadPC READ32 cpu start)
    let (cpu, start) := downwards.foldl (OP_L_DA READ32 i) (cpu, start - 4)
    leaveException (writeBack i cpu start)

def OP_LDMDB2_W : armcpu_t :=
  let start := cpu.R (REG_POS i 16)
  if BIT15 i = false then
    loadUserBank (fun cpu =>
      let (cpu, start) := downwards.foldl (OP_L_DB READ32 i) (cpu, start)
      writeBack i cpu start) cpu
  else
    let start := start - 4
    let cpu := setNext (takeSPSR (loadPC READ32 cpu start))
    let (cpu, start) := downwards.foldl (OP_L_DB READ32 i) (cpu, start)
    leaveException (writeBack i cpu start)

end

inductive Addressing
  | IA
  | IB
  | DA
  | DB
  deriving DecidableEq

/-- The handler of an addressing mode, with or without write-back. -/
def LDM2 (READ32 : u32 → u32) (i : u32) : Addressing → (writesBack : Bool) → armcpu_t → armcpu_t
  | .IA, false => OP_LDMIA2 READ32 i
  | .IB, false => OP_LDMIB2 READ32 i
  | .DA, false => OP_LDMDA2 READ32 i
  | .DB, false => OP_LDMDB2 READ32 i
  | .IA, true => OP_LDMIA2_W READ32 i
  | .IB, true => OP_LDMIB2_W READ32 i
  | .DA, true => OP_LDMDA2_W READ32 i
  | .DB, true => OP_LDMDB2_W READ32 i

/-- The address of the instruction that `armcpu_prefetch` fetches. -/
def prefetchAddress (cpu : armcpu_t) : u32 :=
  if cpu.CPSR.getLsbD 5 then cpu.next_instruction &&& 0xFFFFFFFE
  else cpu.next_instruction &&& 0xFFFFFFFC

end Desmume.Cpu
