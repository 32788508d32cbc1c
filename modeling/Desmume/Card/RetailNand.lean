/-
The NAND card: `Slot1_Retail_NAND`, with its protocol and its ROM component.

Commands come to the protocol, which starts an operation of the card for those
that it does not answer itself.
-/

import Desmume.Backup.Serving
import Desmume.Card.Transfer

namespace Desmume

namespace Card

open Backup

inductive eCardMode
  | RAW
  | KEY1
  | KEY2
  | NORMAL
  deriving DecidableEq

inductive eSlot1Operation
  | op00_ReadHeader_Unencrypted
  | op9F_Dummy
  | op90_ChipID
  | op1x_ChipID
  | op2x_SecureAreaLoad
  | opB7_Read
  | opB8_ChipID
  | Unknown
  deriving DecidableEq

/-- What the card and its protocol take from `gameInfo`, and `key1.decrypt`
under a game code. -/
structure CardInfo where
  mask : u32
  subArea : u16
  readROM : u32 → u32
  secureArea : u32 → u32
  chipID : u32
  gameCode : u32
  decrypt : u32 → GC_Command → GC_Command

structure Slot1Comp_Protocol where
  mode : eCardMode
  operation : eSlot1Operation
  command : GC_Command
  address : u32
  length : Int
  delay : Int
  chipId : u32
  gameCode : u32

namespace Slot1Comp_Protocol

variable (protocol : Slot1Comp_Protocol) (cmd : GC_Command)

def reset : Slot1Comp_Protocol :=
  { protocol with
    command := fun i => if i = 0 then 0x9F else 0
    operation := .op9F_Dummy
    length := 0
    delay := 0
    mode := .RAW }

def cmd64 : BitVec 64 :=
  cmd 0 ++ cmd 1 ++ cmd 2 ++ cmd 3 ++ cmd 4 ++ cmd 5 ++ cmd 6 ++
    cmd 7

/-- Bytes 1 to 4 of the command, which is also `(u32)(cmd64 >> 24)`. -/
def addressFromProtocol : u32 :=
  cmd 1 ++ cmd 2 ++ cmd 3 ++ cmd 4

def write_command_RAW : Slot1Comp_Protocol × Option eSlot1Operation :=
  if cmd 0 = 0x9F then ({ protocol with operation := .op9F_Dummy, length := 0x2000 }, none)
  else if cmd 0 = 0x90 then ({ protocol with operation := .op90_ChipID, length := 4 }, none)
  else if cmd 0 = 0x3C then ({ protocol with length := 0, mode := .KEY1 }, none)
  else if cmd 0 = 0x00 then
    ({ protocol with operation := .op00_ReadHeader_Unencrypted },
      some .op00_ReadHeader_Unencrypted)
  else (protocol, none)

def write_command_KEY1 (info : CardInfo) (protocol : Slot1Comp_Protocol) (cmd : GC_Command) :
    Slot1Comp_Protocol × Option eSlot1Operation :=
  let cmd := info.decrypt protocol.gameCode cmd
  if cmd 0 &&& 0xF0 = 0x10 then
    ({ protocol with operation := .op1x_ChipID, delay := 0x910, length := 4 }, none)
  else if cmd 0 &&& 0xF0 = 0x20 then
    let blocknumber : u32 := ((cmd64 cmd >>> 44) &&& 0xFFFF).setWidth 32
    ({ protocol with
        operation := .op2x_SecureAreaLoad, delay := 0x910, length := 0x11A8
        address := blocknumber * 0x1000 },
      some .op2x_SecureAreaLoad)
  else if cmd 0 &&& 0xF0 = 0x40 then ({ protocol with delay := 0x910, length := 0 }, none)
  else if cmd 0 &&& 0xF0 = 0xA0 then
    ({ protocol with delay := 0x910, length := 0, mode := .NORMAL }, none)
  else (protocol, none)

def write_command_NORMAL : Slot1Comp_Protocol × Option eSlot1Operation :=
  if cmd 0 = 0xB7 then
    ({ protocol with
        operation := .opB7_Read, address := addressFromProtocol cmd, length := 0x200 },
      some .opB7_Read)
  else if cmd 0 = 0xB8 then
    ({ protocol with operation := .opB8_ChipID, delay := 0, length := 4 }, none)
  else ({ protocol with operation := .Unknown }, some .Unknown)

def write_command (info : CardInfo) (protocol : Slot1Comp_Protocol) (command : GC_Command) :
    Slot1Comp_Protocol × Option eSlot1Operation :=
  let protocol := { protocol with command := command, delay := 0, length := 0, address := 0 }
  match protocol.mode with
  | .RAW => protocol.write_command_RAW command
  | .KEY1 => protocol.write_command_KEY1 info command
  | .NORMAL => protocol.write_command_NORMAL command
  | .KEY2 => (protocol, none)

def answer : Option u32 :=
  match protocol.operation with
  | .op9F_Dummy => some 0xFFFFFFFF
  | .op1x_ChipID => some protocol.chipId
  | .op90_ChipID => some protocol.chipId
  | .opB8_ChipID => some protocol.chipId
  | _ => none

end Slot1Comp_Protocol

structure Slot1Comp_Rom where
  operation : eSlot1Operation
  address : u32

variable (info : CardInfo)

def Slot1Comp_Rom.read (rom : Slot1Comp_Rom) : u32 × Slot1Comp_Rom :=
  match rom.operation with
  | .op00_ReadHeader_Unencrypted =>
      (info.readROM rom.address, { rom with address := (rom.address + 4) &&& 0xFFF })
  | .op2x_SecureAreaLoad =>
      (info.secureArea ((rom.address - 0x4000) &&& 0x3FFF),
        { rom with address := (rom.address &&& ~~~0xFFF) + ((rom.address + 4) &&& 0xFFF) })
  | .opB7_Read =>
      let address := rom.address &&& info.mask
      let address := if address < 0x8000 then 0x8000 + (address &&& 0x1FF) else address
      (info.readROM address,
        { rom with address := (address &&& ~~~0xFFF) + ((address + 4) &&& 0xFFF) })
  | _ => (0, rom)

structure Slot1_Retail_NAND where
  subAdr : u32
  protocol : Slot1Comp_Protocol
  rom : Slot1Comp_Rom
  mode : u32
  handle_save : u32
  save_start : u32
  save_adr : u32

/-- The card in its slot, and `MMU_new.backupDevice`. -/
structure NandSlot where
  card : Slot1_Retail_NAND
  backupDevice : BackupDevice

def CardInfo.subAdr : u32 := info.subArea.setWidth 32 <<< 17

def nandStatus (mode : u32) : u32 :=
  if mode = 0x84 then 0x20202020
  else if mode = 0x85 then 0x20202020 ||| 0x10101010
  else if mode = 0x8B then 0x60606060 ||| 0x10101010
  else if mode = 0xB2 then 0x20202020
  else 0x60606060

namespace Slot1_Retail_NAND

variable (info : CardInfo)

def connect (card : Slot1_Retail_NAND) : Slot1_Retail_NAND :=
  { card with
    protocol :=
      { card.protocol.reset with chipId := info.chipID, gameCode := info.gameCode }
    save_adr := 0
    handle_save := 0
    mode := 0
    subAdr := info.subAdr }

def seek (start : u32) (card : Slot1_Retail_NAND) : Slot1_Retail_NAND :=
  { card with save_start := start, save_adr := (start &&& info.mask) - card.subAdr }

def seekOther (start : u32) (card : Slot1_Retail_NAND) : Slot1_Retail_NAND :=
  if start ≠ card.save_start then card.seek info start else card

def slot1client_startOperation (operation : eSlot1Operation)
    (card : Slot1_Retail_NAND) : Slot1_Retail_NAND :=
  let addressFromProtocol := Slot1Comp_Protocol.addressFromProtocol card.protocol.command
  let cmd := card.protocol.command 0
  if operation = .op00_ReadHeader_Unencrypted then
    { card with rom := ⟨operation,addressFromProtocol⟩ }
  else if operation = .op2x_SecureAreaLoad then
    { card with rom := ⟨operation,card.protocol.address⟩ }
  else if cmd = 0x94 then { card with mode := cmd.setWidth 32 }
  else if cmd = 0x81 then
    { ({ card with mode := cmd.setWidth 32 } : Slot1_Retail_NAND).seekOther info
        addressFromProtocol with handle_save := 1 }
  else if cmd = 0x84 ∨ cmd = 0x85 then { card with mode := cmd.setWidth 32 }
  else if cmd = 0x8B then { card with mode := cmd.setWidth 32, handle_save := 0 }
  else if cmd = 0xB7 then
    if card.handle_save ≠ 0 then
      ({ card with mode := cmd.setWidth 32 } : Slot1_Retail_NAND).seekOther info
        addressFromProtocol
    else { card with rom := ⟨operation,addressFromProtocol⟩ }
  else if cmd = 0xB2 then
    { ({ card with mode := cmd.setWidth 32 } : Slot1_Retail_NAND).seek info addressFromProtocol
        with handle_save := 1 }
  else card

end Slot1_Retail_NAND

namespace NandSlot

variable (info : CardInfo) (slot : NandSlot) (operation : eSlot1Operation)

def readRom : u32 × NandSlot :=
  let res := slot.card.rom.read info
  (res.1, { slot with card := { slot.card with rom := res.2 } })

def slot1client_read_GCDATAIN (slot : NandSlot) : u32 × NandSlot :=
  let cmd := slot.card.protocol.command 0
  if operation = .op00_ReadHeader_Unencrypted ∨ operation = .op2x_SecureAreaLoad then
    slot.readRom info
  else if cmd = 0x94 then (0, { slot with card := { slot.card with mode := 0 } })
  else if cmd = 0xB7 then
    if slot.card.handle_save ≠ 0 then
      let backupDevice := slot.backupDevice.ensure (slot.card.save_adr + 4) false
      let res := backupDevice.readLongAt slot.card.save_adr 0
      (res.1,
        { card := { slot.card with save_adr := slot.card.save_adr + 4 }
          backupDevice := res.2 })
    else slot.readRom info
  else if cmd = 0xD6 then (nandStatus slot.card.mode, slot)
  else (0, slot)

def slot1client_write_GCDATAIN (val : u32) (slot : NandSlot) : NandSlot :=
  if operation = .op00_ReadHeader_Unencrypted ∨ operation = .opB7_Read ∨
      operation = .op2x_SecureAreaLoad then slot
  else if slot.card.protocol.command 0 = 0x81 then
    let backupDevice := slot.backupDevice.ensure (slot.card.save_adr + 4) false
    { card := { slot.card with save_adr := slot.card.save_adr + 4 }
      backupDevice := backupDevice.writeLong slot.card.save_adr val }
  else slot

def connect (info : CardInfo) (slot : NandSlot) : NandSlot :=
  { slot with card := slot.card.connect info }

def write_command (info : CardInfo) (cmd : GC_Command) (slot : NandSlot) : NandSlot :=
  let res := slot.card.protocol.write_command info cmd
  let card := { slot.card with protocol := res.1 }
  match res.2 with
  | some operation => { slot with card := card.slot1client_startOperation info operation }
  | none => { slot with card := card }

def read_GCDATAIN : u32 × NandSlot :=
  match slot.card.protocol.answer with
  | some val => (val, slot)
  | none => slot.slot1client_read_GCDATAIN info slot.card.protocol.operation

def write_GCDATAIN (val : u32) (slot : NandSlot) : NandSlot :=
  if slot.card.protocol.operation = .Unknown then
    slot.slot1client_write_GCDATAIN .Unknown val
  else slot

def post_fakeboot : NandSlot :=
  { slot with card := { slot.card with protocol := { slot.card.protocol with mode := .NORMAL } } }

end NandSlot

/-- The card as the bus of `MMU_writeToGCControl` finds it. -/
def construct_Slot1_Retail_NAND : ISlot1Interface NandSlot where
  write_command _ cmd slot := slot.write_command info cmd
  read_GCDATAIN _ slot := slot.read_GCDATAIN info
  write_GCDATAIN _ val slot := slot.write_GCDATAIN val

end Card
end Desmume
