/-
What a single load or store is charged: the timing of the memory and the Thumb
and ARM handlers that ask for it.

`ENABLE_ADVANCED_TIMING` is commented out in the source.
-/

import Desmume.Cpu.BlockTransfer
import Desmume.Mmu.CacheController

namespace Desmume.Thumb

open Cpu CacheTiming

inductive AccessSize
  | byte
  | halfword
  | word
  deriving DecidableEq

namespace AccessSize

/-- `READSIZE`. -/
def bits : AccessSize → Nat
  | .byte => 8
  | .halfword => 16
  | .word => 32

/-- `~((READSIZE>>3)-1)`. -/
def mask (size : AccessSize) : u32 := ~~~(BitVec.ofNat 32 (size.bits / 8) - 1)

end AccessSize

/-- `_MMU_read08` to `_MMU_write32`. -/
structure DataBus (Memory : Type) where
  read : (size : AccessSize) → Memory → u32 → BitVec size.bits × Memory
  write : (size : AccessSize) → Memory → u32 → BitVec size.bits → Memory

namespace DataBus

variable {Memory : Type} (bus : DataBus Memory) (size : AccessSize) (memory : Memory) (adr : u32)

/-- `READ8`, `READ16` and `READ32`. -/
def READ : BitVec size.bits × Memory := bus.read size memory (adr &&& size.mask)

/-- `WRITE8`, `WRITE16` and `WRITE32`. -/
def WRITE (val : BitVec size.bits) : Memory := bus.write size memory (adr &&& size.mask) val

end DataBus

/-- Whether `ENABLE_ADVANCED_TIMING` is defined, and `CommonSettings.advanced_timing`. -/
structure Build where
  ENABLE_ADVANCED_TIMING : Bool
  advanced_timing : Bool

def USE_TIMING (build : Build) : Bool := build.ENABLE_ADVANCED_TIMING && build.advanced_timing

/-- `CacheController<12,2,5>`. -/
def dataCache : CacheConfig where
  SIZESHIFT := 12
  ASSOCIATIVESHIFT := 2
  BLOCKSIZESHIFT := 5
  wordInBlock := by decide
  blockInSize := by decide
  sizeIsInt := by decide

/-- The cache of the ARM9 and the fetch units for data. -/
structure MMU_struct_timing where
  arm9dataCache : CacheController dataCache
  m_lastAddress : Proc → u32

section

variable (build : Build) (PROCNUM : Proc) (DTCMRegion : u32) (size : AccessSize)
  (DIR : MMU_ACCESS_DIRECTION)

def MC : u32 := 1

def M32 : u32 := if PROCNUM = .ARMCPU_ARM9 then 2 else 1

def M16 : u32 := M32 PROCNUM * if 16 < size.bits then 2 else 1

def MSLW : u32 := M16 PROCNUM size * 8

variable (addr : u32)

def MMU_WAIT : u32 :=
  let M32 := M32 PROCNUM
  let M16 := M16 PROCNUM size
  let MSLW := MSLW PROCNUM size
  [MC,MC,M16,M32,M32,M16,M16,M32,MSLW,MSLW,MSLW,M32,M32,M32,M32,M32].getD
    ((addr >>> 24).toNat % 16) 0

def missCycles (sequential : Bool) : u32 :=
  let c :=
    if sequential then M16 PROCNUM size
    else if DIR = .MMU_AD_READ then M16 PROCNUM size * 5
    else M16 PROCNUM size * 2
  if DIR = .MMU_AD_READ then c + 8 * M32 PROCNUM * 2 else c

/-- `_MMU_accesstime` on data with `TIMING`. The mask of the DTCM is that of `MMU.h`, its
digits are garbled here in the source. -/
def timedAccess (sequential : Bool) (timing : MMU_struct_timing) : u32 × MMU_struct_timing :=
  if PROCNUM = .ARMCPU_ARM9 ∧ addr &&& ~~~0x3FFF = DTCMRegion then (MC, timing)
  else if PROCNUM = .ARMCPU_ARM9 ∧ addr &&& 0x0F000000 = 0x02000000 then
    let (cached, cache) := timing.arm9dataCache.Cached DIR addr
    let timing := { timing with arm9dataCache := cache }
    if cached then (MC, timing) else (missCycles PROCNUM size DIR sequential, timing)
  else
    let c := MMU_WAIT PROCNUM size addr
    (if sequential then c else c + if PROCNUM = .ARMCPU_ARM9 then 3 * 2 else 1, timing)

def MMU_accesstime (TIMING : Bool) (addr : u32) (sequential : Bool)
    (timing : MMU_struct_timing) : u32 × MMU_struct_timing :=
  if TIMING then timedAccess PROCNUM DTCMRegion size DIR addr sequential timing
  else (MMU_WAIT PROCNUM size addr, timing)

/-- `FetchAccessUnit::Fetch` on data. -/
def Fetch (TIMING : Bool) (address : u32) (timing : MMU_struct_timing) : u32 × MMU_struct_timing :=
  let sequential :=
    if build.ENABLE_ADVANCED_TIMING && TIMING then
      address == timing.m_lastAddress PROCNUM + BitVec.ofNat 32 (size.bits / 8)
    else true
  let (time, timing) := MMU_accesstime PROCNUM DTCMRegion size DIR TIMING address sequential timing
  if build.ENABLE_ADVANCED_TIMING then
    (time, { timing with m_lastAddress := Function.update timing.m_lastAddress PROCNUM address })
  else (time, timing)

def MMU_memAccessCycles (timing : MMU_struct_timing) : u32 × MMU_struct_timing :=
  Fetch build PROCNUM DTCMRegion size DIR (USE_TIMING build) (addr &&& size.mask) timing

def MMU_aluMemCycles (aluCycles memCycles : u32) : u32 :=
  if PROCNUM = .ARMCPU_ARM9 then
    if aluCycles < memCycles then memCycles else aluCycles
  else aluCycles + memCycles

def MMU_aluMemAccessCycles (aluCycles addr : u32) (timing : MMU_struct_timing) :
    u32 × MMU_struct_timing :=
  let (memCycles, timing) := MMU_memAccessCycles build PROCNUM DTCMRegion size DIR addr timing
  (MMU_aluMemCycles PROCNUM aluCycles memCycles, timing)

end

structure Machine (Memory : Type) where
  cpu : armcpu_t
  memory : Memory
  timing : MMU_struct_timing

structure Setting (Memory : Type) where
  bus : DataBus Memory
  build : Build
  PROCNUM : Proc
  DTCMRegion : u32

section

variable {Memory : Type} (setting : Setting Memory) (i : u32) (m : Machine Memory)

/-- `return MMU_aluMemAccessCycles<PROCNUM,size,DIR>(aluCycles, adr)`. -/
def charge (size : AccessSize) (DIR : MMU_ACCESS_DIRECTION) (aluCycles adr : u32)
    (m : Machine Memory) : u32 × Machine Memory :=
  let (cycles, timing) := MMU_aluMemAccessCycles setting.build setting.PROCNUM
    setting.DTCMRegion size DIR aluCycles adr m.timing
  (cycles, { m with timing := timing })

def store (size : AccessSize) (adr : u32) (reg : Fin 16) : u32 × Machine Memory :=
  charge setting size .MMU_AD_WRITE 2 adr
    { m with
      memory := setting.bus.WRITE size m.memory adr
        ((m.cpu.R reg).setWidth size.bits) }

def load (size : AccessSize) (extend : BitVec size.bits → u32) (adr : u32) (reg : Fin 16) :
    u32 × Machine Memory :=
  let (val, memory) := setting.bus.READ size m.memory adr
  charge setting size .MMU_AD_READ 3 adr
    { m with cpu := setR m.cpu reg (extend val), memory := memory }

def zeroExtend {size : AccessSize} (val : BitVec size.bits) : u32 := val.setWidth 32

def signExtend {size : AccessSize} (val : BitVec size.bits) : u32 := val.signExtend 32

/-- `adr = (adr&3)*8`, the rotation and then the return with the new `adr`. -/
def loadRotated (adr : u32) (reg : Fin 16) : u32 × Machine Memory :=
  let (tempValue, memory) := setting.bus.READ .word m.memory adr
  let adr := (adr &&& 3) * 8
  charge setting .word .MMU_AD_READ 3 adr
    { m with cpu := setR m.cpu reg (ROR tempValue adr), memory := memory }

/-- `R[REG_NUM(i,3)]` and an offset. -/
def immediateAddress (off : u32) : u32 := m.cpu.R (REG_NUM i 3) + off

def registerAddress : u32 := m.cpu.R (REG_NUM i 3) + m.cpu.R (REG_NUM i 6)

def stackAddress : u32 := m.cpu.R 13 + (i &&& 0xFF) <<< 2

def programAddress : u32 := (m.cpu.R 15 &&& 0xFFFFFFFC) + (i &&& 0xFF) <<< 2

def OP_STRB_IMM_OFF : u32 × Machine Memory :=
  store setting m .byte (immediateAddress i m (i >>> 6 &&& 0x1F)) (REG_NUM i 0)

def OP_LDRB_IMM_OFF : u32 × Machine Memory :=
  load setting m .byte zeroExtend (immediateAddress i m (i >>> 6 &&& 0x1F))
    (REG_NUM i 0)

def OP_STRB_REG_OFF : u32 × Machine Memory :=
  store setting m .byte (registerAddress i m) (REG_NUM i 0)

def OP_LDRB_REG_OFF : u32 × Machine Memory :=
  load setting m .byte zeroExtend (registerAddress i m) (REG_NUM i 0)

def OP_LDRSB_REG_OFF : u32 × Machine Memory :=
  load setting m .byte signExtend (registerAddress i m) (REG_NUM i 0)

def OP_STRH_IMM_OFF : u32 × Machine Memory :=
  store setting m .halfword (immediateAddress i m (i >>> 5 &&& 0x3E)) (REG_NUM i 0)

def OP_LDRH_IMM_OFF : u32 × Machine Memory :=
  load setting m .halfword zeroExtend (immediateAddress i m (i >>> 5 &&& 0x3E))
    (REG_NUM i 0)

def OP_STRH_REG_OFF : u32 × Machine Memory :=
  store setting m .halfword (registerAddress i m) (REG_NUM i 0)

def OP_LDRH_REG_OFF : u32 × Machine Memory :=
  load setting m .halfword zeroExtend (registerAddress i m) (REG_NUM i 0)

def OP_LDRSH_REG_OFF : u32 × Machine Memory :=
  load setting m .halfword signExtend (registerAddress i m) (REG_NUM i 0)

def OP_STR_IMM_OFF : u32 × Machine Memory :=
  store setting m .word (immediateAddress i m (i >>> 4 &&& 0x7C)) (REG_NUM i 0)

def OP_LDR_IMM_OFF : u32 × Machine Memory :=
  loadRotated setting m (immediateAddress i m (i >>> 4 &&& 0x7C)) (REG_NUM i 0)

def OP_STR_REG_OFF : u32 × Machine Memory :=
  store setting m .word (m.cpu.R (REG_NUM i 6) + m.cpu.R (REG_NUM i 3))
    (REG_NUM i 0)

def OP_LDR_REG_OFF : u32 × Machine Memory :=
  loadRotated setting m (registerAddress i m) (REG_NUM i 0)

def OP_STR_SPREL : u32 × Machine Memory :=
  store setting m .word (stackAddress i m) (REG_NUM i 8)

def OP_LDR_SPREL : u32 × Machine Memory :=
  load setting m .word zeroExtend (stackAddress i m) (REG_NUM i 8)

def OP_LDR_PCREL : u32 × Machine Memory :=
  load setting m .word zeroExtend (programAddress i m) (REG_NUM i 8)

/-- `IMM_OFF_12`. -/
def IMM_OFF_12 : u32 := i &&& 0xFFF

/-- `IMM_OFF`. -/
def IMM_OFF : u32 := (i >>> 4 &&& 0xF0) + (i &&& 0xF)

/-- `LSL_IMM`. -/
def shift_op : u32 := m.cpu.R (REG_POS i 0) <<< (i >>> 7 &&& 0x1F).toNat

def armAddress (off : u32) : u32 := m.cpu.R (REG_POS i 16) + off

/-- `OP_LDR(a, b)`, which rotates without touching the address. -/
def OP_LDR (adr a b : u32) : u32 × Machine Memory :=
  let (val, memory) := setting.bus.READ .word m.memory adr
  let val := ROR val (8 * (adr &&& 3))
  if REG_POS i 12 = 15 then
    charge setting .word .MMU_AD_READ b adr
      { m with cpu := enterPC setting.PROCNUM m.cpu val, memory := memory }
  else
    charge setting .word .MMU_AD_READ a adr
      { m with cpu := setR m.cpu (REG_POS i 12) val, memory := memory }

def OP_LDR_P_IMM_OFF : u32 × Machine Memory :=
  OP_LDR setting i m (armAddress i m (IMM_OFF_12 i)) 3 5

def OP_LDR_P_LSL_IMM_OFF : u32 × Machine Memory :=
  OP_LDR setting i m (armAddress i m (shift_op i m)) 3 5

def OP_LDRB_P_IMM_OFF : u32 × Machine Memory :=
  load setting m .byte zeroExtend (armAddress i m (IMM_OFF_12 i)) (REG_POS i 12)

def OP_LDRB_P_LSL_IMM_OFF : u32 × Machine Memory :=
  load setting m .byte zeroExtend (armAddress i m (shift_op i m)) (REG_POS i 12)

def OP_LDRH_P_IMM_OFF : u32 × Machine Memory :=
  load setting m .halfword zeroExtend (armAddress i m (IMM_OFF i)) (REG_POS i 12)

def OP_LDRH_P_REG_OFF : u32 × Machine Memory :=
  load setting m .halfword zeroExtend (armAddress i m (m.cpu.R (REG_POS i 0)))
    (REG_POS i 12)

def OP_LDRSH_P_REG_OFF : u32 × Machine Memory :=
  load setting m .halfword signExtend (armAddress i m (m.cpu.R (REG_POS i 0)))
    (REG_POS i 12)

def OP_LDRSB_P_REG_OFF : u32 × Machine Memory :=
  load setting m .byte signExtend (armAddress i m (m.cpu.R (REG_POS i 0)))
    (REG_POS i 12)

def OP_STR_P_IMM_OFF : u32 × Machine Memory :=
  store setting m .word (armAddress i m (IMM_OFF_12 i)) (REG_POS i 12)

def OP_STR_P_LSL_IMM_OFF : u32 × Machine Memory :=
  store setting m .word (armAddress i m (shift_op i m)) (REG_POS i 12)

def OP_STRB_P_IMM_OFF : u32 × Machine Memory :=
  store setting m .byte (armAddress i m (IMM_OFF_12 i)) (REG_POS i 12)

def OP_STRB_P_LSL_IMM_OFF : u32 × Machine Memory :=
  store setting m .byte (armAddress i m (shift_op i m)) (REG_POS i 12)

def OP_STRH_P_IMM_OFF : u32 × Machine Memory :=
  store setting m .halfword (armAddress i m (IMM_OFF i)) (REG_POS i 12)

def OP_STRH_P_REG_OFF : u32 × Machine Memory :=
  store setting m .halfword (armAddress i m (m.cpu.R (REG_POS i 0)))
    (REG_POS i 12)

end

inductive Access
  | STRB_IMM_OFF
  | LDRB_IMM_OFF
  | STRB_REG_OFF
  | LDRB_REG_OFF
  | LDRSB_REG_OFF
  | STRH_IMM_OFF
  | LDRH_IMM_OFF
  | STRH_REG_OFF
  | LDRH_REG_OFF
  | LDRSH_REG_OFF
  | STR_IMM_OFF
  | LDR_IMM_OFF
  | STR_REG_OFF
  | LDR_REG_OFF
  | STR_SPREL
  | LDR_SPREL
  | LDR_PCREL
  deriving DecidableEq

namespace Access

def size : Access → AccessSize
  | STRB_IMM_OFF | LDRB_IMM_OFF | STRB_REG_OFF | LDRB_REG_OFF | LDRSB_REG_OFF => .byte
  | STRH_IMM_OFF | LDRH_IMM_OFF | STRH_REG_OFF | LDRH_REG_OFF | LDRSH_REG_OFF => .halfword
  | STR_IMM_OFF | LDR_IMM_OFF | STR_REG_OFF | LDR_REG_OFF | STR_SPREL | LDR_SPREL | LDR_PCREL =>
      .word

def DIR : Access → MMU_ACCESS_DIRECTION
  | STRB_IMM_OFF | STRB_REG_OFF | STRH_IMM_OFF | STRH_REG_OFF | STR_IMM_OFF | STR_REG_OFF
  | STR_SPREL => .MMU_AD_WRITE
  | LDRB_IMM_OFF | LDRB_REG_OFF | LDRSB_REG_OFF | LDRH_IMM_OFF | LDRH_REG_OFF | LDRSH_REG_OFF
  | LDR_IMM_OFF | LDR_REG_OFF | LDR_SPREL | LDR_PCREL => .MMU_AD_READ

def aluCycles (access : Access) : u32 := if access.DIR = .MMU_AD_WRITE then 2 else 3

def register (i : u32) : Access → Fin 16
  | STR_SPREL | LDR_SPREL | LDR_PCREL => REG_NUM i 8
  | _ => REG_NUM i 0

variable {Memory : Type} (i : u32) (m : Machine Memory)

def address : Access → u32
  | STRB_IMM_OFF | LDRB_IMM_OFF => immediateAddress i m (i >>> 6 &&& 0x1F)
  | STRH_IMM_OFF | LDRH_IMM_OFF => immediateAddress i m (i >>> 5 &&& 0x3E)
  | STR_IMM_OFF | LDR_IMM_OFF => immediateAddress i m (i >>> 4 &&& 0x7C)
  | STR_REG_OFF => m.cpu.R (REG_NUM i 6) + m.cpu.R (REG_NUM i 3)
  | STRB_REG_OFF | LDRB_REG_OFF | LDRSB_REG_OFF | STRH_REG_OFF | LDRH_REG_OFF | LDRSH_REG_OFF
  | LDR_REG_OFF => registerAddress i m
  | STR_SPREL | LDR_SPREL => stackAddress i m
  | LDR_PCREL => programAddress i m

def armAddress : Access → u32
  | STRB_IMM_OFF | LDRB_IMM_OFF | STR_IMM_OFF | LDR_IMM_OFF | STR_SPREL | LDR_SPREL
  | LDR_PCREL => Thumb.armAddress i m (IMM_OFF_12 i)
  | STRB_REG_OFF | LDRB_REG_OFF | STR_REG_OFF | LDR_REG_OFF =>
      Thumb.armAddress i m (shift_op i m)
  | STRH_IMM_OFF | LDRH_IMM_OFF => Thumb.armAddress i m (IMM_OFF i)
  | LDRSB_REG_OFF | STRH_REG_OFF | LDRH_REG_OFF | LDRSH_REG_OFF =>
      Thumb.armAddress i m (m.cpu.R (REG_POS i 0))

variable (setting : Setting Memory)

def thumb : Access → u32 × Machine Memory
  | STRB_IMM_OFF => OP_STRB_IMM_OFF setting i m
  | LDRB_IMM_OFF => OP_LDRB_IMM_OFF setting i m
  | STRB_REG_OFF => OP_STRB_REG_OFF setting i m
  | LDRB_REG_OFF => OP_LDRB_REG_OFF setting i m
  | LDRSB_REG_OFF => OP_LDRSB_REG_OFF setting i m
  | STRH_IMM_OFF => OP_STRH_IMM_OFF setting i m
  | LDRH_IMM_OFF => OP_LDRH_IMM_OFF setting i m
  | STRH_REG_OFF => OP_STRH_REG_OFF setting i m
  | LDRH_REG_OFF => OP_LDRH_REG_OFF setting i m
  | LDRSH_REG_OFF => OP_LDRSH_REG_OFF setting i m
  | STR_IMM_OFF => OP_STR_IMM_OFF setting i m
  | LDR_IMM_OFF => OP_LDR_IMM_OFF setting i m
  | STR_REG_OFF => OP_STR_REG_OFF setting i m
  | LDR_REG_OFF => OP_LDR_REG_OFF setting i m
  | STR_SPREL => OP_STR_SPREL setting i m
  | LDR_SPREL => OP_LDR_SPREL setting i m
  | LDR_PCREL => OP_LDR_PCREL setting i m

def arm : Access → u32 × Machine Memory
  | STRB_IMM_OFF => OP_STRB_P_IMM_OFF setting i m
  | LDRB_IMM_OFF => OP_LDRB_P_IMM_OFF setting i m
  | STRB_REG_OFF => OP_STRB_P_LSL_IMM_OFF setting i m
  | LDRB_REG_OFF => OP_LDRB_P_LSL_IMM_OFF setting i m
  | LDRSB_REG_OFF => OP_LDRSB_P_REG_OFF setting i m
  | STRH_IMM_OFF => OP_STRH_P_IMM_OFF setting i m
  | LDRH_IMM_OFF => OP_LDRH_P_IMM_OFF setting i m
  | STRH_REG_OFF => OP_STRH_P_REG_OFF setting i m
  | LDRH_REG_OFF => OP_LDRH_P_REG_OFF setting i m
  | LDRSH_REG_OFF => OP_LDRSH_P_REG_OFF setting i m
  | STR_IMM_OFF | STR_SPREL => OP_STR_P_IMM_OFF setting i m
  | LDR_IMM_OFF | LDR_SPREL | LDR_PCREL => OP_LDR_P_IMM_OFF setting i m
  | STR_REG_OFF => OP_STR_P_LSL_IMM_OFF setting i m
  | LDR_REG_OFF => OP_LDR_P_LSL_IMM_OFF setting i m

variable (access : Access) (adr : u32)

def price (timing : MMU_struct_timing) : u32 × MMU_struct_timing :=
  MMU_aluMemAccessCycles setting.build setting.PROCNUM setting.DTCMRegion access.size access.DIR
    access.aluCycles adr timing

def accessed : Memory :=
  match access.DIR with
  | .MMU_AD_READ => (setting.bus.READ access.size m.memory adr).2
  | .MMU_AD_WRITE =>
      setting.bus.WRITE access.size m.memory adr
        ((m.cpu.R (access.register i)).setWidth access.size.bits)

def charged (res : u32 × Machine Memory) : u32 × MMU_struct_timing :=
  (res.1, res.2.timing)

/-- The instruction accesses its effective address, is charged there, and is charged what the
ARM instruction with that address is. -/
structure ChargedAtAddress (access : Access) : Prop where
  accesses : (access.thumb i m setting).2.memory =
    access.accessed i m setting (access.address i m)
  charges : charged (access.thumb i m setting) =
    access.price setting (access.address i m) m.timing
  likeARM : ∀ (i' : u32) (machine' : Machine Memory),
    access.armAddress i' machine' = access.address i m → REG_POS i' 12 ≠ 15 →
    machine'.timing = m.timing →
    charged (access.arm i' machine' setting) = charged (access.thumb i m setting)

def Rotates : Prop := access = LDR_IMM_OFF ∨ access = LDR_REG_OFF

instance (access : Access) : Decidable access.Rotates := inferInstanceAs (Decidable (_ ∨ _))

/-- The regions whose words cost more than those of the region at zero: the main memory, the
video memory and the cartridge. -/
def SlowRegion : Prop := (adr >>> 24).toNat % 16 ∈ [2,5,6,8,9,10]

def SamePrice (build : Build) (adr : u32) : Prop :=
  if build.ENABLE_ADVANCED_TIMING then (adr &&& 3) * 8 = adr &&& 0xFFFFFFFC
  else ¬ SlowRegion adr

theorem thumb_accesses :
    (access.thumb i m setting).2.memory =
      access.accessed i m setting (access.address i m) := by
  cases access <;> rfl

theorem thumb_charged :
    charged (access.thumb i m setting) =
      access.price setting
        (if access.Rotates then (access.address i m &&& 3) * 8
          else access.address i m) m.timing := by
  cases access <;> rfl

theorem arm_charged (other : REG_POS i 12 ≠ 15) :
    charged (access.arm i m setting) =
      access.price setting (access.armAddress i m) m.timing := by
  have loaded (adr : u32) : charged (OP_LDR setting i m adr 3 5) =
      LDR_IMM_OFF.price setting adr m.timing := by
    unfold OP_LDR
    dsimp only
    rw [if_neg other]
    rfl
  cases access with
  | LDR_IMM_OFF | LDR_REG_OFF | LDR_SPREL | LDR_PCREL => exact loaded _
  | _ => rfl

theorem charged_iff :
    access.ChargedAtAddress i m setting ↔
      (access.Rotates → access.price setting ((access.address i m &&& 3) * 8)
          m.timing = access.price setting (access.address i m) m.timing) := by
  have charges := access.thumb_charged i m setting
  constructor
  · intro meets rotates
    rw [if_pos rotates] at charges
    exact charges.symm.trans meets.charges
  · intro same
    have atAddress : charged (access.thumb i m setting) =
        access.price setting (access.address i m) m.timing := by
      by_cases rotates : access.Rotates
      · rw [charges,if_pos rotates]
        exact same rotates
      · rw [charges,if_neg rotates]
    refine ⟨access.thumb_accesses i m setting,atAddress,?_⟩
    intro i' machine' here other timing
    rw [access.arm_charged i' machine' setting other,here,timing,atAddress]

theorem rotation_aligned :
    (adr &&& 3) * 8 &&& AccessSize.word.mask = (adr &&& 3) * 8 ∧
      (((adr &&& 3) * 8) >>> 24).toNat = 0 := by
  have small : (adr &&& 3).toNat ≤ 3 := by
    rw [BitVec.toNat_and]
    exact Nat.and_le_right
  generalize adr &&& 3 = rotation at small
  have val : rotation = BitVec.ofNat 32 rotation.toNat := by
    rw [BitVec.ofNat_toNat,BitVec.setWidth_eq]
  rw [val]
  generalize rotation.toNat = quarter at small
  interval_cases quarter <;> decide

section

variable {setting : Setting Memory}

def regionPrice (PROCNUM : Proc) (region : Nat) : u32 :=
  MMU_aluMemCycles PROCNUM 3 (MMU_WAIT PROCNUM .word (BitVec.ofNat 32 (region * 2 ^ 24)))

theorem regionPrice_eq_iff (PROCNUM : Proc) {region : Nat} (inside : region < 16) :
    regionPrice PROCNUM 0 = regionPrice PROCNUM region ↔ ¬ region ∈ [2,5,6,8,9,10] := by
  cases PROCNUM <;> interval_cases region <;> decide

theorem plain_price (plain : setting.build.ENABLE_ADVANCED_TIMING = false) (adr : u32)
    (timing : MMU_struct_timing) :
    LDR_IMM_OFF.price setting adr timing =
      (regionPrice setting.PROCNUM ((adr >>> 24).toNat % 16), timing) := by
  have untimed : USE_TIMING setting.build = false := by
    unfold USE_TIMING
    rw [plain,Bool.false_and]
  have fetched : LDR_IMM_OFF.price setting adr timing =
      (MMU_aluMemCycles setting.PROCNUM 3
        (MMU_WAIT setting.PROCNUM .word (adr &&& AccessSize.word.mask)), timing) := by
    unfold price MMU_aluMemAccessCycles MMU_memAccessCycles Fetch
    rw [untimed]
    dsimp only
    rw [if_neg (show ¬ setting.build.ENABLE_ADVANCED_TIMING = true by
      rw [plain]; exact Bool.false_ne_true)]
    rfl
  have region (idx : Nat) (inside : idx < 16) :
      ((BitVec.ofNat 32 (idx * 2 ^ 24)) >>> 24).toNat % 16 = idx := by
    interval_cases idx <;> decide
  have masked : (adr &&& AccessSize.word.mask) >>> 24 = adr >>> 24 := by
    have high : AccessSize.word.mask >>> 24 = 0xFF := by decide
    have small : (adr >>> 24).toNat < 2 ^ 8 := by
      have bound := adr.isLt
      rw [BitVec.toNat_ushiftRight,Nat.shiftRight_eq_div_pow]
      omega
    apply BitVec.eq_of_toNat_eq
    rw [BitVec.ushiftRight_and_distrib,high,BitVec.toNat_and]
    exact (Nat.and_two_pow_sub_one_eq_mod _ 8).trans (Nat.mod_eq_of_lt small)
  rw [fetched]
  unfold regionPrice MMU_WAIT
  dsimp only
  rw [masked,region _ (Nat.mod_lt _ (by decide))]

theorem advanced_address (advanced : setting.build.ENABLE_ADVANCED_TIMING = true) (adr : u32)
    (timing : MMU_struct_timing) :
    (LDR_IMM_OFF.price setting adr timing).2.m_lastAddress setting.PROCNUM =
      adr &&& AccessSize.word.mask := by
  unfold price MMU_aluMemAccessCycles MMU_memAccessCycles Fetch
  dsimp only
  rw [if_pos advanced]
  exact Function.update_self _ _ _

theorem samePrice_iff (adr : u32) (timing : MMU_struct_timing) :
    LDR_IMM_OFF.price setting ((adr &&& 3) * 8) timing =
        LDR_IMM_OFF.price setting adr timing ↔ SamePrice setting.build adr := by
  obtain ⟨whole,region⟩ := rotation_aligned adr
  unfold SamePrice
  cases enabled : setting.build.ENABLE_ADVANCED_TIMING with
  | false =>
      rw [if_neg Bool.false_ne_true,plain_price enabled,plain_price enabled,region]
      unfold SlowRegion
      rw [← regionPrice_eq_iff setting.PROCNUM (Nat.mod_lt _ (by decide))]
      exact ⟨congrArg Prod.fst,fun same => by rw [Nat.zero_mod,same]⟩
  | true =>
      rw [if_pos rfl]
      constructor
      · intro same
        have addresses := congrArg (fun price : u32 × MMU_struct_timing =>
          price.2.m_lastAddress setting.PROCNUM) same
        rw [advanced_address enabled,advanced_address enabled,whole] at addresses
        exact addresses
      · intro same
        unfold price MMU_aluMemAccessCycles MMU_memAccessCycles
        have masked : (adr &&& 3) * 8 &&& AccessSize.word.mask = adr &&& AccessSize.word.mask :=
          whole.trans same
        rw [show LDR_IMM_OFF.size = AccessSize.word from rfl,masked]

end

/-- A Thumb load or store is charged at the address that it accesses and like the ARM
instruction, except for the two loads that charge their rotation, when that is charged
otherwise. -/
theorem charged_at_address_iff :
    access.ChargedAtAddress i m setting ↔
      (access.Rotates → SamePrice setting.build (access.address i m)) := by
  rw [charged_iff]
  refine imp_congr_right fun rotates => ?_
  obtain rfl | rfl := rotates
  · exact samePrice_iff _ _
  · exact samePrice_iff _ _

/-- `LDR R0, [R1, #0]` from the main memory on the ARM7. -/
def mainLoad : Machine Unit where
  cpu := { armcpu_t.initial with R := fun _ => 0x02000000 }
  memory := ()
  timing := ⟨CacheController.Reset dataCache,fun _ => 0xFFFFFFFF⟩

/-- It is charged four cycles for an access that takes five. -/
theorem load_charged_at_rotation :
    ¬ ∀ (setting : Setting Unit) (i : u32) (m : Machine Unit) (access : Access),
      access.ChargedAtAddress i m setting := by
  intro all
  have charges := (all
    ⟨⟨fun _ memory _ => (0, memory), fun _ memory _ _ => memory⟩,⟨false,false⟩,
      .ARMCPU_ARM7,0⟩ 0x6808 mainLoad LDR_IMM_OFF).charges
  have cycles := congrArg Prod.fst charges
  revert cycles
  decide +kernel

end Access

end Desmume.Thumb
