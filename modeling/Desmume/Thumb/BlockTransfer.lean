/-
The Thumb block transfers: `OP_PUSH`, `OP_PUSH_LR`, `OP_POP`, `OP_POP_PC`,
`OP_STMIA_THUMB` and `OP_LDMIA_THUMB`.

The memory is what the data accesses of a processor read and change. The cycles
of a transfer depend on the timing of the memory and are left out.
-/

import Desmume.Arm.Arithmetic
import Desmume.Bios.Memory
import Desmume.Cpu.BlockLoad

namespace Desmume.Thumb

open Bios (inMainMemory)
open Cpu

/-- `_MMU_read32<PROCNUM>` and `_MMU_write32<PROCNUM>` on data. -/
structure Bus (Memory : Type) where
  read32 : Memory → u32 → u32 × Memory
  write32 : Memory → u32 → u32 → Memory

namespace Bus

variable {Memory : Type} (bus : Bus Memory) (mem : Memory) (adr : u32)

def READ32 : u32 × Memory := bus.read32 mem (adr &&& 0xFFFFFFFC)

def WRITE32 (val : u32) : Memory := bus.write32 mem (adr &&& 0xFFFFFFFC) val

end Bus

def REG_NUM (i : u32) (n : Nat) : Fin 16 :=
  ⟨(i >>> n &&& 7).toNat,by
    have small : (i >>> n &&& 7).toNat ≤ 7 := by
      rw [BitVec.toNat_and]
      exact Nat.and_le_right
    omega⟩

/-- `R[j]` for a register of the list. -/
def low (j : Fin 8) : Fin 16 := j.castLE (by decide)

section

variable {Memory : Type} (bus : Bus Memory) (PROCNUM : Proc) (cpu : Processor) (mem : Memory)
  (i : u32)

/-- Round `j` of `OP_PUSH`, on the memory and `adr`. -/
def pushRound (st : Memory × u32) (j : Fin 8) : Memory × u32 :=
  if BIT_N i (7 - j) then
    (bus.WRITE32 st.1 st.2 (cpu.R (low j.rev)), st.2 - 4)
  else st

def pushLoop (mem : Memory) (adr : u32) : Memory × u32 :=
  (List.finRange 8).foldl (pushRound bus cpu i) (mem, adr)

/-- Round `j` of `OP_STMIA_THUMB`. -/
def storeRound (st : Memory × u32) (j : Fin 8) : Memory × u32 :=
  if BIT_N i j then (bus.WRITE32 st.1 st.2 (cpu.R (low j)), st.2 + 4) else st

/-- Round `j` of `OP_POP`, `OP_POP_PC` and `OP_LDMIA_THUMB`. -/
def loadRound (st : (Processor × Memory) × u32) (j : Fin 8) : (Processor × Memory) × u32 :=
  if BIT_N i j then
    let (word, mem) := bus.READ32 st.1.2 st.2
    ((st.1.1.setR (low j) word, mem), st.2 + 4)
  else st

def loadLoop (adr : u32) : (Processor × Memory) × u32 :=
  (List.finRange 8).foldl (loadRound bus i) ((cpu, mem), adr)

def OP_PUSH : Processor × Memory :=
  let adr := cpu.R 13 - 4
  let (mem, adr) := pushLoop bus cpu i mem adr
  (cpu.setR 13 (adr + 4), mem)

def OP_PUSH_LR : Processor × Memory :=
  let adr := cpu.R 13 - 4
  let mem := bus.WRITE32 mem adr (cpu.R 14)
  let adr := adr - 4
  let (mem, adr) := pushLoop bus cpu i mem adr
  (cpu.setR 13 (adr + 4), mem)

def OP_POP : Processor × Memory :=
  let adr := cpu.R 13
  let ((cpu, mem), adr) := loadLoop bus cpu mem i adr
  (cpu.setR 13 adr, mem)

def OP_POP_PC : Processor × Memory :=
  let adr := cpu.R 13
  let ((cpu, mem), adr) := loadLoop bus cpu mem i adr
  let (v, mem) := bus.READ32 mem adr
  let cpu := if PROCNUM = .ARMCPU_ARM9 then Arm.setFlag cpu 5 (v.getLsbD 0) else cpu
  let cpu := cpu.setR 15 (v &&& 0xFFFFFFFE)
  let cpu := { cpu with next_instruction := cpu.R 15 }
  (cpu.setR 13 (adr + 4), mem)

def OP_STMIA_THUMB : Processor × Memory :=
  let adr := cpu.R (REG_NUM i 8)
  let (mem, adr) := (List.finRange 8).foldl (storeRound bus cpu i) (mem, adr)
  (cpu.setR (REG_NUM i 8) adr, mem)

def OP_LDMIA_THUMB : Processor × Memory :=
  let regIndex := REG_NUM i 8
  let adr := cpu.R regIndex
  let ((cpu, mem), adr) := loadLoop bus cpu mem i adr
  if BIT_N i regIndex then (cpu, mem) else (cpu.setR regIndex adr, mem)

end

/-- What a data access of 32 bits meets before the other regions. -/
structure Mmu (Other : Type) where
  ARM9_DTCM : IoMem
  MAIN_MEM : IoMem
  DTCMRegion : u32
  other : Other

section

variable {Other : Type}

/-- `(addr&(~0x3FFF)) == MMU.DTCMRegion`, on the ARM9. -/
def inDTCM (PROCNUM : Proc) (DTCMRegion addr : u32) : Prop :=
  PROCNUM = .ARMCPU_ARM9 ∧ addr &&& ~~~0x3FFF = DTCMRegion

instance (PROCNUM : Proc) (DTCMRegion addr : u32) : Decidable (inDTCM PROCNUM DTCMRegion addr) :=
  inferInstanceAs (Decidable (_ ∧ _))

/-- `addr & 0x3FFC`. -/
def dtcmIndex (addr : u32) : Nat := (addr &&& 0x3FFC).toNat

/-- `addr & _MMU_MAIN_MEM_MASK32`, for 4 MB. -/
def mainIndex (addr : u32) : Nat := (addr &&& 0x3FFFFC).toNat

/-- `_MMU_read32` and `_MMU_write32` over those of the other regions. -/
def dataBus (PROCNUM : Proc) (others : Bus (Mmu Other)) : Bus (Mmu Other) where
  read32 mmu addr :=
    if inDTCM PROCNUM mmu.DTCMRegion addr then (T1ReadLong mmu.ARM9_DTCM (dtcmIndex addr), mmu)
    else if inMainMemory addr then (T1ReadLong mmu.MAIN_MEM (mainIndex addr), mmu)
    else others.read32 mmu addr
  write32 mmu addr val :=
    if inDTCM PROCNUM mmu.DTCMRegion addr then
      { mmu with ARM9_DTCM := T1WriteLong mmu.ARM9_DTCM (dtcmIndex addr) val }
    else if inMainMemory addr then
      { mmu with MAIN_MEM := T1WriteLong mmu.MAIN_MEM (mainIndex addr) val }
    else others.write32 mmu addr val

end

end Desmume.Thumb
