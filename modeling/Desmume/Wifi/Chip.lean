/-
The wireless chip as the ARM7 sees it: the controller with its RF and baseband
chips, and the reads of its registers.

The subchips and the registers behind them lie in front of `RAM` without a gap
that matters.
-/

import Desmume.Wifi.Transmit

namespace Desmume.Wifi

open Function (update)

structure Chip where
  mac : Mac
  powerOn : Bool
  powerOnPending : Bool
  rfStatus : u16
  rfPins : u16
  wepMode : u16
  macAddress : Fin 3 → u16
  bss : Fin 3 → u16
  aid : u16
  randomSeed : u16
  sub : Nat → u8

/-- `sizeof(wifiMac.RF) / 4`. -/
def rfRegisters : Nat := 13

def bbBytes : Nat := 105

def BB : Nat := 4 * rfRegisters
def rfIOCnt : Nat := 160
def rfIOStatus : Nat := 164
def rfIOData : Nat := 168
def bbIOCnt : Nat := 172
def RAM : Nat := 176

namespace Chip

variable (chip : Chip)

def byte (off : Nat) : u8 :=
  if off < RAM then chip.sub off else chip.mac.byte 0 (off - RAM)

variable (val : u16) (addr off : Nat) (part : Bool)

def setByte (val : u8) : Chip :=
  if off < RAM then { chip with sub := update chip.sub off val }
  else
    let i := (off - RAM) / 2
    let old := chip.mac.mem i
    { chip with
      mac := chip.mac.store i
        (if (off - RAM) % 2 = 0 then (old.extractLsb' 8 8 : u8) ++ val
          else val ++ (old.setWidth 8 : u8)) }

def half : u16 := chip.byte (off + 1) ++ chip.byte off

def setHalf (val : u16) : Chip :=
  (chip.setByte off (val.setWidth 8)).setByte (off + 1) (val.extractLsb' 8 8)

def word (off : Nat) : u32 := chip.half (off + 2) ++ chip.half off

def setWord (val : u32) : Chip :=
  (chip.setHalf off (val.setWidth 16)).setHalf (off + 2) (val.extractLsb' 16 16)

def content (word : u32) : BitVec 18 := word.setWidth 18

/-- `.bits.content = content`. -/
def withContent (word : u32) (content : BitVec 18) : u32 := word.extractLsb' 18 14 ++ content

def rfAddress : Nat := (chip.word rfIOData >>> 18 &&& 0x1F).toNat

def rfreg : u32 := chip.word (4 * addr)

def setRfreg (val : BitVec 18) : Chip :=
  chip.setWord (4 * addr) (withContent (chip.rfreg addr) val)

/-- The bits that `WIFI_resetRF` assigns in each register, and their values. -/
def rfDefaults : List (u32 × u32) :=
  [(0xC00F, 0x7),(0x3FE0F, 0x9003),(0xFFFF, 0x22),(0x1FFFF, 0x1FF78),(0x3FE0F, 0x1003),
    (0x3FFFF, 0x1780),(0x3FFFF, 0),(0x1FFFF, 0x14578),(0x3FFFF, 0x1E742),(0x3FFFF, 0x120),
    (0x3FFFF, 0),(0x3FFFF, 0),(0x30000, 0)]

def WIFI_resetRF : Chip :=
  rfDefaults.zipIdx.foldl
    (fun (chip : Chip) (entry : (u32 × u32) × Nat) => chip.setWord (4 * entry.2)
      ((chip.rfreg entry.2 &&& ~~~entry.1.1) ||| entry.1.2))
    chip

def rfBusy : Bool := (chip.half rfIOStatus).getLsbD 0

def WIFI_setRF_CNT : Chip := if chip.rfBusy then chip else chip.setHalf rfIOCnt val

def readRF : Chip :=
  let chip := chip.setHalf (rfIOData + 2) val
  if chip.rfAddress > rfRegisters then chip
  else chip.setWord rfIOData
    (withContent (chip.word rfIOData) (content (chip.rfreg chip.rfAddress)))

/-- A write operation transfers when its high part is written. The frequency that
registers 5 and 6 give is computed and dropped; register 13 resets the chip. -/
def writeRF : Chip :=
  let chip := chip.setHalf (if part then rfIOData + 2 else rfIOData) val
  if chip.rfAddress > rfRegisters then chip
  else if part then
    if chip.rfAddress = 13 then chip.WIFI_resetRF
    else chip.setRfreg chip.rfAddress (content (chip.word rfIOData))
  else chip

/-- `part` is 1 for the high part. -/
def WIFI_setRF_DATA : Chip :=
  if chip.rfBusy then chip
  else if (chip.half rfIOCnt).getLsbD 7 then if part then chip.readRF val else chip
  else chip.writeRF val part

def WIFI_getRF_DATA : u16 :=
  if chip.rfBusy then 0 else chip.half (if part then rfIOData + 2 else rfIOData)

def bbAddress : Nat := (chip.half bbIOCnt &&& 0x7F).toNat

def bbMode : Nat := (chip.half bbIOCnt >>> 12 &&& 3).toNat

def WIFI_setBB_CNT : Chip :=
  let chip := chip.setHalf bbIOCnt val
  if chip.bbMode = 1 then
    chip.setByte (BB + chip.bbAddress) ((chip.mac.mem (WIFI_IOREG 0x15A)).setWidth 8)
  else chip

def WIFI_getBB_DATA : u8 :=
  if (chip.half bbIOCnt).getLsbD 14 = false ∨ chip.bbMode ≠ 2 then 0
  else chip.byte (BB + chip.bbAddress)

/-- The cases of `WIFI_write16` that change what is not in the controller. -/
def writeRegister (val : u16) : Chip :=
  match addr with
  | 0x004 =>
      let chip :=
        if chip.mac.macMode.getLsbD 0 = false ∧ val.getLsbD 0 then
          { chip with rfPins := 0x0046, rfStatus := 0x0009 }
        else chip
      if val.getLsbD 14 then
        { chip with wepMode := 0, macAddress := fun _ => 0, bss := fun _ => 0, aid := 0 }
      else chip
  | 0x006 => { chip with wepMode := val }
  | 0x018 => { chip with macAddress := update chip.macAddress 0 val }
  | 0x01A => { chip with macAddress := update chip.macAddress 1 val }
  | 0x01C => { chip with macAddress := update chip.macAddress 2 val }
  | 0x020 => { chip with bss := update chip.bss 0 val }
  | 0x022 => { chip with bss := update chip.bss 1 val }
  | 0x024 => { chip with bss := update chip.bss 2 val }
  | 0x02A => { chip with aid := val &&& 0x07FF }
  | 0x03C => { chip with powerOn := val.getLsbD 1 }
  | 0x040 =>
      if val.getLsbD 15 ∧ chip.powerOnPending = false then
        { chip with powerOn := !val.getLsbD 0 }
      else chip
  | 0x158 => chip.WIFI_setBB_CNT val
  | 0x17C => chip.WIFI_setRF_DATA val true
  | 0x17E => chip.WIFI_setRF_DATA val false
  | 0x184 => chip.WIFI_setRF_CNT val
  | 0x2D0 =>
      if val = 0 ∧ chip.powerOnPending then { chip with powerOn := true, powerOnPending := false }
      else chip
  | _ => chip

/-- Whether an address is that of a register, which no page but the wireless
memory and the unused one is. -/
def isRegister (addr : u32) : Bool :=
  let page := addr &&& 0x7000
  !(decide (0x2000 ≤ page ∧ page < 0x6000))

def register (addr : u32) : Nat := (addr &&& 0x0FFF).toNat

def WIFI_write16 (addr : u32) (val : u16) : Chip :=
  let chip :=
    if chip.mac.power2_wifi ∧ isRegister addr then chip.writeRegister (register addr) val
    else chip
  { chip with mac := Wifi.WIFI_write16 chip.mac addr val }

/-- The value that `WIFI_read16` returns for a register. -/
def registerValue : u16 :=
  let mac := chip.mac
  match addr with
  | 0x000 => 0x1440
  | 0x004 => mac.macMode
  | 0x006 => chip.wepMode
  | 0x010 => mac.IF
  | 0x012 => mac.IE
  | 0x018 => chip.macAddress 0
  | 0x01A => chip.macAddress 1
  | 0x01C => chip.macAddress 2
  | 0x020 => chip.bss 0
  | 0x022 => chip.bss 1
  | 0x024 => chip.bss 2
  | 0x028 => mac.pid
  | 0x02A => chip.aid
  | 0x030 => mac.RXCnt
  | 0x036 => if mac.crystalEnabled then 0 else 1
  | 0x03C => (if chip.powerOn then 0 else 0x0200) ||| (if chip.powerOnPending then 0x0102 else 0)
  | 0x044 => chip.randomSeed
  | 0x058 => mac.mem CircBufReadAddress
  | 0x05C => mac.mem RXBufCount
  | 0x060 => mac.mem (mac.mem CircBufReadAddress >>> 1).toNat
  | 0x062 => mac.mem CircBufRdEnd
  | 0x064 => mac.mem CircBufRdSkip
  | 0x080 => (mac.TXSlots WIFI_TXSLOT_BEACON).RegVal
  | 0x088 => mac.ListenCount
  | 0x090 => (mac.TXSlots WIFI_TXSLOT_MPCMD).RegVal
  | 0x098 => (mac.TXSlots WIFI_TXSLOT_MPREPLY).RegVal
  | 0x0A0 => (mac.TXSlots WIFI_TXSLOT_LOC1).RegVal
  | 0x0A4 => (mac.TXSlots WIFI_TXSLOT_LOC2).RegVal
  | 0x0A8 => (mac.TXSlots WIFI_TXSLOT_LOC3).RegVal
  | 0x0B0 => mac.TXCnt ||| 0x10
  | 0x0B6 => mac.TXBusy
  | 0x0B8 => mac.TXStat
  | 0x0EE => if mac.eCountEnable then 1 else 0
  | 0x0F0 => mac.ucmp.setWidth 16
  | 0x0F2 => (mac.ucmp >>> 16).setWidth 16
  | 0x0F4 => (mac.ucmp >>> 32).setWidth 16
  | 0x0F6 => (mac.ucmp >>> 48).setWidth 16
  | 0x0F8 => mac.usec.setWidth 16
  | 0x0FA => (mac.usec >>> 16).setWidth 16
  | 0x0FC => (mac.usec >>> 32).setWidth 16
  | 0x0FE => (mac.usec >>> 48).setWidth 16
  | 0x118 => ((mac.eCount + 99) / 100).setWidth 16
  | 0x11C => mac.BeaconCount1
  | 0x134 => mac.BeaconCount2
  | 0x15C => chip.WIFI_getBB_DATA.setWidth 16
  | 0x15E | 0x180 => 0
  | 0x17C => chip.WIFI_getRF_DATA true
  | 0x17E => chip.WIFI_getRF_DATA false
  | 0x19C => chip.rfPins
  | 0x1A8 => mac.RXStatIncIF
  | 0x1AA => mac.RXStatIncIE
  | 0x1AC => mac.RXStatOvfIF
  | 0x1AE => mac.RXStatOvfIE
  | 0x1B0 | 0x1B2 | 0x1B4 | 0x1B6 | 0x1B8 | 0x1BA | 0x1BC | 0x1BE =>
      mac.RXStat (Fin.ofNat 16 (addr % 16 + 1)) ++ mac.RXStat (Fin.ofNat 16 (addr % 16))
  | 0x214 => chip.rfStatus
  | 0x268 => mac.RXTXAddr
  | _ => mac.mem (WIFI_IOREG addr)

end Chip

def advanceRead (mac : Mac) : Mac :=
  let next := mac.mem CircBufReadAddress + 2
  let next :=
    if mac.mem RXRangeEnd ≤ next then mac.mem RXRangeBegin
    else if next = mac.mem CircBufRdEnd then
      let skipped := (next + mac.mem CircBufRdSkip * 2) &&& 0x1FFE
      if skipped.toNat + (mac.mem RXRangeBegin).toNat = (mac.mem RXRangeEnd).toNat then 0
      else skipped
    else next
  mac.store CircBufReadAddress next

def WIFI_IRQ_RXCOUNTEXP : Nat := 9

def countRead (mac : Mac) : Mac :=
  let n := mac.mem RXBufCount
  if n = 0 then mac
  else
    let mac := if n = 1 then WIFI_triggerIRQ mac WIFI_IRQ_RXCOUNTEXP else mac
    mac.store RXBufCount (n - 1)

namespace Chip

variable (chip : Chip)

def registerRead (action : Bool) (addr : Nat) : Chip :=
  let mac := chip.mac
  match addr with
  | 0x044 =>
      { chip with
        randomSeed := (chip.randomSeed &&& 1) ^^^
          (((chip.randomSeed <<< 1) &&& 0x7FE) ||| ((chip.randomSeed >>> 10) &&& 1)) }
  | 0x060 => if action then { chip with mac := countRead (advanceRead mac) } else chip
  | 0x1A8 => { chip with mac := { mac with RXStatIncIF := 0 } }
  | 0x1AC => { chip with mac := { mac with RXStatOvfIF := 0 } }
  | 0x1B0 | 0x1B2 | 0x1B4 | 0x1B6 | 0x1B8 | 0x1BA | 0x1BC | 0x1BE =>
      { chip with mac := { mac with
          RXStat := update (update mac.RXStat (Fin.ofNat 16 (addr % 16)) 0)
            (Fin.ofNat 16 (addr % 16 + 1)) 0 } }
  | _ => chip

/-- `WIFI_read16`: the value and the chip after it. -/
def WIFI_read16 (addr : u32) : u16 × Chip :=
  let page := addr &&& 0x7000
  if chip.mac.power2_wifi = false then (0, chip)
  else if 0x2000 ≤ page ∧ page < 0x4000 then (0xFFFF, chip)
  else if 0x4000 ≤ page ∧ page < 0x6000 then
    (chip.mac.mem ((addr &&& 0x1FFF) >>> 1).toNat, chip)
  else (chip.registerValue (register addr), chip.registerRead (page == 0) (register addr))

def receivePins : Chip :=
  let mac := counters chip.mac
  match mac.TXCurSlot, mac.RXPacketQueue with
  | none, pkt :: _ =>
      if mac.GlobalUsecTimer &&& 7 = 0 then
        let chip := if pkt.NotStarted then { chip with rfPins := 0x00C7 } else chip
        if pkt.RemHWords - 1 = 0 then { chip with rfStatus := 9, rfPins := 0x00C6 } else chip
      else chip
  | _, _ => chip

def WIFI_usTrigger (replies arrivals : List Packet) : Option Chip :=
  (Wifi.WIFI_usTrigger chip.mac replies arrivals).map fun mac =>
    { chip.receivePins with mac := mac }

def WIFI_Reset (mode : Nat) : Chip :=
  { chip.WIFI_resetRF with
    mac := Wifi.WIFI_Reset chip.WIFI_resetRF.mac mode
    randomSeed := 1
    powerOn := false
    powerOnPending := false
    rfStatus := 0x0009
    rfPins := 0x00C6 }

inductive Op
  | power2 (wifi : Bool)
  | write16 (addr : u32) (val : u16)
  | read16 (addr : u32)
  | usTrigger (replies arrivals : List Packet)

def apply : Op → Option Chip
  | .power2 wifi => some { chip with mac := { chip.mac with power2_wifi := wifi } }
  | .write16 addr val => some (chip.WIFI_write16 addr val)
  | .read16 addr => some (chip.WIFI_read16 addr).2
  | .usTrigger replies arrivals => chip.WIFI_usTrigger replies arrivals

end Chip
end Desmume.Wifi
