/-
Registers of the two processors: `_MMU_ARM9_read08` to `_MMU_ARM7_write32` at
IME, IE, IF, DISPSTAT and VCOUNT, POWCNT, EXTKEYIN and the timers, and the
events that change these registers.

Addresses are offsets from 0x04000000. The switch of every function has the
cases of these registers; all other addresses go to the register page.
-/

import Desmume.Fifo.Gx
import Desmume.Timer.Cascade

namespace Desmume.Mmu

open Timer (Timers read_timer write_timer)

def REG_DISPA_DISPSTAT : Nat := 0x004
def REG_DISPx_VCOUNT : Nat := 0x006
def REG_TM0CNTL : Nat := 0x100
def REG_RCNT : Nat := 0x134
def REG_EXTKEYIN : Nat := 0x136
def REG_IME : Nat := 0x208
def REG_IE : Nat := 0x210
def REG_IF : Nat := 0x214
def REG_POWCNT1 : Nat := 0x304
def REG_POWCNT2 : Nat := 0x304

structure Power1 where
  lcd : Bool
  gpuMain : Bool
  gfx3d_render : Bool
  gfx3d_geometry : Bool
  gpuSub : Bool
  dispswap : Bool

structure Power2 where
  speakers : Bool
  wifi : Bool

/-- The register page and the bits of IF are in the timers of each processor. -/
structure Machine where
  timers : Proc → Timers
  reg_IME : Proc → u32
  reg_IE : Proc → u32
  gxstat : Gx.TGXSTAT
  VCount : u32
  power1 : Power1
  power2 : Power2
  isTouch : Bool
  LidClosed : Bool
  /-- Ensata is emulated and its handshake is at `ENSATA_HANDSHAKE_query`. -/
  ensataQuery : Bool
  nds_timer : Nat

def Machine.regs (m : Machine) (proc : Proc) : IoMem := (m.timers proc).regs

variable (m : Machine) (proc : Proc) (adr : Nat) (val : u32) (power1 : Power1)

def Machine.setTimers (timers : Timers) : Machine :=
  { m with timers := Function.update m.timers proc timers }

def Machine.mapRegs (change : IoMem → IoMem) : Machine :=
  m.setTimers proc
    { m.timers proc with regs := change (m.regs proc) }

def gen_IF : u32 :=
  let IF := (m.timers proc).reg_IF_bits
  match proc with
  | .ARMCPU_ARM9 =>
      if m.gxstat.gxfifo_irq = 1 then
        if m.gxstat.fifo_low then IF ||| Gx.IRQ_MASK_ARM9_GXFIFO else IF
      else if m.gxstat.gxfifo_irq = 2 then
        if m.gxstat.fifo_empty then IF ||| Gx.IRQ_MASK_ARM9_GXFIFO else IF
      else IF
  | .ARMCPU_ARM7 => IF

/-- `flag ? BIT(bit) : 0`. -/
def flagBit (flag : Bool) (bit : Nat) : u32 := if flag then 1 <<< bit else 0

def readreg_POWCNT1_8 (adr : Nat) : u32 :=
  if adr = REG_POWCNT1 then
    flagBit power1.lcd 0 ||| flagBit power1.gpuMain 1 ||| flagBit power1.gfx3d_render 2 |||
      flagBit power1.gfx3d_geometry 3
  else if adr = REG_POWCNT1 + 1 then flagBit power1.gpuSub 1 ||| flagBit power1.dispswap 7
  else 0

def readreg_POWCNT1 (adr : Nat) : u32 :=
  readreg_POWCNT1_8 power1 adr ||| (readreg_POWCNT1_8 power1 (adr + 1) <<< 8)

def writereg_POWCNT1_8 (adr : Nat) (val : u8) : Power1 :=
  if adr = REG_POWCNT1 then
    { power1 with
      lcd := val.getLsbD 0
      gpuMain := val.getLsbD 1
      gfx3d_render := val.getLsbD 2
      gfx3d_geometry := val.getLsbD 3 }
  else if adr = REG_POWCNT1 + 1 then
    { power1 with gpuSub := val.getLsbD 1, dispswap := val.getLsbD 7 }
  else power1

def writereg_POWCNT1 (adr : Nat) (val : u32) : Power1 :=
  writereg_POWCNT1_8 (writereg_POWCNT1_8 power1 adr (val.setWidth 8)) (adr + 1)
    ((val >>> 8).setWidth 8)

def POWCNT2 (power2 : Power2) : u32 := flagBit power2.speakers 0 ||| flagBit power2.wifi 1

def isTMxCNTL : Prop :=
  adr = REG_TM0CNTL ∨ adr = REG_TM0CNTL + 4 ∨ adr = REG_TM0CNTL + 8 ∨ adr = REG_TM0CNTL + 12

instance (adr : Nat) : Decidable (isTMxCNTL adr) := inferInstanceAs (Decidable (_ ∨ _))

def isTMxCNTH : Prop :=
  adr = REG_TM0CNTL + 2 ∨ adr = REG_TM0CNTL + 6 ∨ adr = REG_TM0CNTL + 10 ∨
    adr = REG_TM0CNTL + 14

instance (adr : Nat) : Decidable (isTMxCNTH adr) := inferInstanceAs (Decidable (_ ∨ _))

/-- `(adr >> 2) & 3`. -/
def timerIndex : Fin 4 := ⟨adr / 4 % 4,Nat.mod_lt _ (by decide)⟩

def readTimer : u16 :=
  read_timer (m.timers proc) m.nds_timer (timerIndex adr)

def setReload (val : u16) : Machine :=
  m.setTimers proc
    { m.timers proc with
      timerReload :=
        Function.update (m.timers proc).timerReload (timerIndex adr) val }

def writeTimer (i : Fin 4) (val : u16) : Machine :=
  m.setTimers proc (write_timer (m.timers proc) m.nds_timer i val)

/-- A 32-bit write: the reload value, the page and the control. -/
def writeTimer32 : Machine :=
  let reloaded := setReload m proc adr (val.setWidth 16)
  let paged := reloaded.mapRegs proc fun regs => T1WriteWord regs adr (val.setWidth 16)
  writeTimer paged proc (timerIndex adr) ((val >>> 16).setWidth 16)

def readTimer32 : u32 :=
  let val : u32 := (T1ReadWord (m.regs proc) (adr + 2)).setWidth 32
  ((m.timers proc).timer (timerIndex adr)).setWidth 32 ||| (val <<< 16)

def MMU_ARM9_read08 : u8 :=
  let IF := gen_IF m .ARMCPU_ARM9
  if adr = REG_IF then IF.setWidth 8
  else if adr = REG_IF + 1 then (IF >>> 8).setWidth 8
  else if adr = REG_IF + 2 then (IF >>> 16).setWidth 8
  else if adr = REG_IF + 3 then (IF >>> 24).setWidth 8
  else if adr = REG_DISPx_VCOUNT then (m.VCount &&& 0xFF).setWidth 8
  else if adr = REG_DISPx_VCOUNT + 1 then ((m.VCount >>> 8) &&& 0xFF).setWidth 8
  else if adr = REG_POWCNT1 ∨ adr = REG_POWCNT1 + 1 ∨ adr = REG_POWCNT1 + 2 ∨
      adr = REG_POWCNT1 + 3 then
    (readreg_POWCNT1_8 m.power1 adr).setWidth 8
  else m.regs .ARMCPU_ARM9 adr

def MMU_ARM9_read16 : u16 :=
  let adr := adr / 2 * 2
  if adr = REG_DISPx_VCOUNT then
    -- an Ensata query is answered, and the answer changes the handshake
    if m.ensataQuery then 270 else m.VCount.setWidth 16
  else if adr = REG_IME then (m.reg_IME .ARMCPU_ARM9).setWidth 16
  else if adr = REG_IE then (m.reg_IE .ARMCPU_ARM9).setWidth 16
  else if adr = REG_IE + 2 then ((m.reg_IE .ARMCPU_ARM9) >>> 16).setWidth 16
  else if adr = REG_IF then (gen_IF m .ARMCPU_ARM9).setWidth 16
  else if adr = REG_IF + 2 then (gen_IF m .ARMCPU_ARM9 >>> 16).setWidth 16
  else if isTMxCNTL adr then readTimer m .ARMCPU_ARM9 adr
  else if adr = REG_POWCNT1 ∨ adr = REG_POWCNT1 + 2 then
    (readreg_POWCNT1 m.power1 adr).setWidth 16
  else T1ReadWord (m.regs .ARMCPU_ARM9) adr

def MMU_ARM9_read32 : u32 :=
  let adr := adr / 4 * 4
  if adr = REG_DISPA_DISPSTAT then T1ReadLong (m.regs .ARMCPU_ARM9) adr
  else if adr = REG_DISPx_VCOUNT then m.VCount
  else if adr = REG_IME then m.reg_IME .ARMCPU_ARM9
  else if adr = REG_IE then m.reg_IE .ARMCPU_ARM9
  else if adr = REG_IF then gen_IF m .ARMCPU_ARM9
  else if isTMxCNTL adr then readTimer32 m .ARMCPU_ARM9 adr
  else if adr = REG_POWCNT1 then readreg_POWCNT1 m.power1 adr
  else T1ReadLong (m.regs .ARMCPU_ARM9) adr

def MMU_ARM7_read08 : u8 :=
  let IF := gen_IF m .ARMCPU_ARM7
  if adr = REG_IF then IF.setWidth 8
  else if adr = REG_IF + 1 then (IF >>> 8).setWidth 8
  else if adr = REG_IF + 2 then (IF >>> 16).setWidth 8
  else if adr = REG_IF + 3 then (IF >>> 24).setWidth 8
  else if adr = REG_DISPx_VCOUNT then (m.VCount &&& 0xFF).setWidth 8
  else if adr = REG_DISPx_VCOUNT + 1 then ((m.VCount >>> 8) &&& 0xFF).setWidth 8
  else m.regs .ARMCPU_ARM7 adr

def MMU_ARM7_read16 : u16 :=
  let adr := adr / 2 * 2
  if adr = REG_POWCNT2 then (POWCNT2 m.power2).setWidth 16
  else if adr = REG_DISPx_VCOUNT then m.VCount.setWidth 16
  else if adr = REG_IME then (m.reg_IME .ARMCPU_ARM7).setWidth 16
  else if adr = REG_IE then (m.reg_IE .ARMCPU_ARM7).setWidth 16
  else if adr = REG_IE + 2 then ((m.reg_IE .ARMCPU_ARM7) >>> 16).setWidth 16
  else if adr = REG_IF then (gen_IF m .ARMCPU_ARM7).setWidth 16
  else if adr = REG_IF + 2 then (gen_IF m .ARMCPU_ARM7 >>> 16).setWidth 16
  else if isTMxCNTL adr then readTimer m .ARMCPU_ARM7 adr
  else if adr = REG_EXTKEYIN then
    -- one byte of the page
    let ret : u16 := (m.regs .ARMCPU_ARM7 0x136).setWidth 16
    if m.isTouch then ret &&& ~~~64 else ret ||| 64
  else T1ReadWord (m.regs .ARMCPU_ARM7) adr

def MMU_ARM7_read32 : u32 :=
  let adr := adr / 4 * 4
  if adr = REG_DISPx_VCOUNT then m.VCount
  else if adr = REG_IME then m.reg_IME .ARMCPU_ARM7
  else if adr = REG_IE then m.reg_IE .ARMCPU_ARM7
  else if adr = REG_IF then gen_IF m .ARMCPU_ARM7
  else if isTMxCNTL adr then readTimer32 m .ARMCPU_ARM7 adr
  else T1ReadLong (m.regs .ARMCPU_ARM7) adr

/-- Of the registers of this file only RCNT and EXTKEYIN are refused, to the ARM9. -/
def validateIORegsWrite : Prop :=
  proc = .ARMCPU_ARM7 ∨ adr / 4 * 4 ≠ REG_RCNT

instance (proc : Proc) (adr : Nat) : Decidable (validateIORegsWrite proc adr) :=
  inferInstanceAs (Decidable (_ ∨ _))

def REG_IF_WriteByte (addr : Nat) (val : u8) : Machine :=
  let val := if addr = 2 ∧ proc = .ARMCPU_ARM9 then val &&& ~~~0x20 else val
  m.setTimers proc
    { m.timers proc with
      reg_IF_bits :=
        (m.timers proc).reg_IF_bits &&& ~~~(val.setWidth 32 <<< (addr * 8)) }

def REG_IF_WriteWord (addr : Nat) (val : u16) : Machine :=
  REG_IF_WriteByte (REG_IF_WriteByte m proc addr (val.setWidth 8)) proc (addr + 1)
    ((val >>> 8).setWidth 8)

def REG_IF_WriteLong : Machine :=
  REG_IF_WriteWord (REG_IF_WriteWord m proc 0 (val.setWidth 16)) proc 2
    ((val >>> 16).setWidth 16)

def writeIME : Machine :=
  { m with reg_IME := Function.update m.reg_IME proc (val &&& 1) }.mapRegs proc
    fun regs => T1WriteLong regs REG_IME val

def setIE : Machine :=
  { m with reg_IE := Function.update m.reg_IE proc val }

def writePage8 (val : u8) : Machine :=
  m.mapRegs proc fun regs => T1WriteByte regs adr val

def writePage16 (val : u16) : Machine :=
  m.mapRegs proc fun regs => T1WriteWord regs adr val

def writePage32 : Machine :=
  m.mapRegs proc fun regs => T1WriteLong regs adr val

def isIFByte : Prop :=
  adr = REG_IF ∨ adr = REG_IF + 1 ∨ adr = REG_IF + 2 ∨ adr = REG_IF + 3

instance (adr : Nat) : Decidable (isIFByte adr) := inferInstanceAs (Decidable (_ ∨ _))

def MMU_ARM9_write08 (val : u8) : Machine :=
  if ¬validateIORegsWrite .ARMCPU_ARM9 adr then m
  else
    let m :=
      if adr = REG_POWCNT1 then
        { m with power1 := writereg_POWCNT1_8 m.power1 adr val }
      else if isIFByte adr then REG_IF_WriteByte m .ARMCPU_ARM9 (adr - REG_IF) val
      else m
    writePage8 m .ARMCPU_ARM9 adr val

def MMU_ARM9_write16 (val : u16) : Machine :=
  let adr := adr / 2 * 2
  if ¬validateIORegsWrite .ARMCPU_ARM9 adr then m
  else if adr = REG_POWCNT1 then
    { m with power1 := writereg_POWCNT1 m.power1 adr (val.setWidth 32) }
  else if adr = REG_IME then writeIME m .ARMCPU_ARM9 (val.setWidth 32)
  else if adr = REG_IE then
    setIE m .ARMCPU_ARM9 ((m.reg_IE .ARMCPU_ARM9 &&& 0xFFFF0000) ||| val.setWidth 32)
  else if adr = REG_IE + 2 then
    setIE m .ARMCPU_ARM9
      ((m.reg_IE .ARMCPU_ARM9 &&& 0xFFFF) ||| (val.setWidth 32 <<< 16))
  else if adr = REG_IF then REG_IF_WriteWord m .ARMCPU_ARM9 0 val
  else if adr = REG_IF + 2 then REG_IF_WriteWord m .ARMCPU_ARM9 2 val
  else if isTMxCNTL adr then setReload m .ARMCPU_ARM9 adr val
  else if isTMxCNTH adr then writeTimer m .ARMCPU_ARM9 (timerIndex (adr - 2)) val
  else writePage16 m .ARMCPU_ARM9 adr val

def MMU_ARM9_write32 : Machine :=
  let adr := adr / 4 * 4
  if ¬validateIORegsWrite .ARMCPU_ARM9 adr then m
  else if adr = REG_POWCNT1 then
    writePage32 { m with power1 := writereg_POWCNT1 m.power1 adr val }
      .ARMCPU_ARM9 adr val
  else if adr = REG_IME then writeIME m .ARMCPU_ARM9 val
  else if adr = REG_IE then setIE m .ARMCPU_ARM9 val
  else if adr = REG_IF then REG_IF_WriteLong m .ARMCPU_ARM9 val
  else if isTMxCNTL adr then writeTimer32 m .ARMCPU_ARM9 adr val
  else writePage32 m .ARMCPU_ARM9 adr val

def MMU_ARM7_write08 (val : u8) : Machine :=
  if ¬validateIORegsWrite .ARMCPU_ARM7 adr then m
  else
    let m :=
      if isIFByte adr then REG_IF_WriteByte m .ARMCPU_ARM7 (adr - REG_IF) val
      else m
    writePage8 m .ARMCPU_ARM7 adr val

def MMU_ARM7_write16 (val : u16) : Machine :=
  let adr := adr / 2 * 2
  if ¬validateIORegsWrite .ARMCPU_ARM7 adr then m
  else if adr = REG_DISPx_VCOUNT then
    if 202 ≤ m.VCount.toNat ∧ m.VCount.toNat ≤ 212 then
      { m with VCount := val.setWidth 32 }
    else m
  else if adr = REG_EXTKEYIN then m
  else if adr = REG_POWCNT2 then
    { m with power2 := { speakers := val.getLsbD 0, wifi := val.getLsbD 1 } }
  else if adr = REG_IME then writeIME m .ARMCPU_ARM7 (val.setWidth 32)
  else if adr = REG_IE then
    setIE m .ARMCPU_ARM7 ((m.reg_IE .ARMCPU_ARM7 &&& 0xFFFF0000) ||| val.setWidth 32)
  else if adr = REG_IE + 2 then
    setIE m .ARMCPU_ARM7
      ((m.reg_IE .ARMCPU_ARM7 &&& 0xFFFF) ||| (val.setWidth 32 <<< 16))
  else if adr = REG_IF then REG_IF_WriteWord m .ARMCPU_ARM7 0 val
  else if adr = REG_IF + 2 then REG_IF_WriteWord m .ARMCPU_ARM7 2 val
  else if isTMxCNTL adr then setReload m .ARMCPU_ARM7 adr val
  else if isTMxCNTH adr then writeTimer m .ARMCPU_ARM7 (timerIndex (adr - 2)) val
  else writePage16 m .ARMCPU_ARM7 adr val

def MMU_ARM7_write32 : Machine :=
  let adr := adr / 4 * 4
  if ¬validateIORegsWrite .ARMCPU_ARM7 adr then m
  else if adr = REG_IME then writeIME m .ARMCPU_ARM7 val
  else if adr = REG_IE then setIE m .ARMCPU_ARM7 val
  else if adr = REG_IF then REG_IF_WriteLong m .ARMCPU_ARM7 val
  else if isTMxCNTL adr then writeTimer32 m .ARMCPU_ARM7 adr val
  else writePage32 m .ARMCPU_ARM7 adr val

def read08 : Machine → Nat → u8 :=
  match proc with
  | .ARMCPU_ARM9 => MMU_ARM9_read08
  | .ARMCPU_ARM7 => MMU_ARM7_read08

def read16 : Machine → Nat → u16 :=
  match proc with
  | .ARMCPU_ARM9 => MMU_ARM9_read16
  | .ARMCPU_ARM7 => MMU_ARM7_read16

def read32 : Machine → Nat → u32 :=
  match proc with
  | .ARMCPU_ARM9 => MMU_ARM9_read32
  | .ARMCPU_ARM7 => MMU_ARM7_read32

def write08 : Machine → Nat → u8 → Machine :=
  match proc with
  | .ARMCPU_ARM9 => MMU_ARM9_write08
  | .ARMCPU_ARM7 => MMU_ARM7_write08

def write16 : Machine → Nat → u16 → Machine :=
  match proc with
  | .ARMCPU_ARM9 => MMU_ARM9_write16
  | .ARMCPU_ARM7 => MMU_ARM7_write16

def write32 : Machine → Nat → u32 → Machine :=
  match proc with
  | .ARMCPU_ARM9 => MMU_ARM9_write32
  | .ARMCPU_ARM7 => MMU_ARM7_write32

/-! ### Events -/

def dispstat (change : u16 → u16) (regs : IoMem) : IoMem :=
  T1WriteWord regs REG_DISPA_DISPSTAT (change (T1ReadWord regs REG_DISPA_DISPSTAT))

def execHardware_gen_vmatch_goal (regs : IoMem) : u16 :=
  let vmatch := T1ReadWord regs REG_DISPA_DISPSTAT
  (vmatch >>> 8) ||| ((vmatch <<< 1) &&& (1 <<< 8))

def hstartPage (VCount : u32) (regs : IoMem) : IoMem :=
  let regs := if VCount = 262 then dispstat (· &&& ~~~1) regs else regs
  let regs := if VCount = 192 then dispstat (· ||| 1) regs else regs
  let regs := T1WriteWord regs REG_DISPx_VCOUNT (VCount.setWidth 16)
  let regs := T1WriteWord regs 0x1006 (VCount.setWidth 16)
  let regs := dispstat (· &&& 0xFFFD) regs
  if VCount = (execHardware_gen_vmatch_goal regs).setWidth 32 then dispstat (· ||| 4) regs
  else dispstat (· &&& 0xFFFB) regs

def execHardware_hstart : Machine :=
  let VCount := m.VCount + 1
  let VCount := if VCount = 263 then 0 else VCount
  ({ m with VCount := VCount }.mapRegs .ARMCPU_ARM9 (hstartPage VCount)).mapRegs
    .ARMCPU_ARM7 (hstartPage VCount)

def execHardware_hblank : Machine :=
  (m.mapRegs .ARMCPU_ARM9 (dispstat (· ||| 2))).mapRegs .ARMCPU_ARM7 (dispstat (· ||| 2))

def NDS_makeIrq (m : Machine) (proc : Proc) (num : Nat) : Machine :=
  m.setTimers proc (Timer.NDS_makeIrq (m.timers proc) num)

/-- The keys of EXTKEYIN; all other keys are in `pad`. -/
structure Input where
  X : Bool
  Y : Bool
  G : Bool
  isTouch : Bool
  pad : u16

def NDS_applyFinalInput (lidClosed : Bool) (input : Input) : Machine :=
  let padExt : u16 := (if input.X then 0 else 1) ||| (if input.Y then 0 else 2) |||
    (if input.G then 0 else 8) ||| (if lidClosed then 0x80 else 0) ||| 0x34
  let pad (regs : IoMem) := T1WriteWord regs 0x130 input.pad
  let keys := (m.mapRegs .ARMCPU_ARM9 pad).mapRegs .ARMCPU_ARM7 pad
  { keys with isTouch := input.isTouch, LidClosed := lidClosed }.mapRegs .ARMCPU_ARM7
    fun regs => T1WriteWord regs REG_EXTKEYIN
      (padExt ||| (T1ReadWord regs REG_EXTKEYIN &&& 0x0070))

def timerEvent (num : Fin 4) : Machine :=
  { m with timers := (Timer.event proc num m.timers m.nds_timer).1 }

def freshTimers (regs : IoMem) : Timers :=
  { timer := fun _ => 0
    timerReload := fun _ => 0
    timerMODE := fun _ => 0
    timerON := fun _ => false
    timerCycle := fun _ => 0
    regs := regs
    reg_IF_bits := 0
    reschedule := false }

/-- `NDS_Reset`, with the speakers of `MMU_Reset` and the line of `initSchedule`. -/
def NDS_Reset : Machine :=
  { timers := fun proc =>
      match proc with
      | .ARMCPU_ARM9 => freshTimers fun _ => 0
      | .ARMCPU_ARM7 => freshTimers (T1WriteWord (fun _ => 0) REG_POWCNT2 1)
    reg_IME := fun _ => 0
    reg_IE := fun _ => 0
    gxstat := Gx.TGXSTAT.fresh
    VCount := 262
    power1 :=
      { lcd := true
        gpuMain := true
        gfx3d_render := true
        gfx3d_geometry := true
        gpuSub := true
        dispswap := true }
    power2 := { speakers := true, wifi := false }
    isTouch := false
    LidClosed := false
    ensataQuery := false
    nds_timer := 0 }

def started : Machine := execHardware_hstart NDS_Reset

end Desmume.Mmu
