/-
The GBA cartridge in slot 2.

The cartridge is a ROM file, a save file and the two mode variables of its
flash, `state` and `cmd`.
-/

import Desmume.Backup.Emufile

namespace Desmume.Slot2

open Backup

structure GbaFlash where
  size : u32
  state : u8
  cmd : u8
  idDevice : u8
  idManufacturer : u8
  bank : u8
  deriving DecidableEq, Repr

structure Slot2_GbaCart where
  fROM : Option EMUFILE
  fSRAM : Option EMUFILE
  romSize : u32
  sramSize : u32
  saveType : u32
  gbaFlash : GbaFlash
  deriving DecidableEq, Repr

/-- `u32 data = 0xFFFFFFFF` with the bytes read stored over it. -/
def storedOver (bytes : List u8) : u32 :=
  bytes.getD 3 0xFF ++ bytes.getD 2 0xFF ++ bytes.getD 1 0xFF ++ bytes.getD 0 0xFF

def erasedSector : List u8 := List.replicate 0x1000 0xFF

def readFile (file : Option EMUFILE) (pos : u32) (size : Nat) : Option EMUFILE × u32 :=
  match file with
  | none => (none, 0xFFFFFFFF)
  | some file =>
      let read := (file.fseek pos.toInt .SEEK_SET).fread size
      (some read.1, storedOver read.2)

namespace Slot2_GbaCart

variable (cart : Slot2_GbaCart) (pos : u32)

def readRom (size : Nat) : Slot2_GbaCart × u32 :=
  ({ cart with fROM := (readFile cart.fROM pos size).1 }, (readFile cart.fROM pos size).2)

def readSRAM (size : Nat) : Slot2_GbaCart × u32 :=
  ({ cart with fSRAM := (readFile cart.fSRAM pos size).1 }, (readFile cart.fSRAM pos size).2)

def writeSRAM (data : List u8) : Slot2_GbaCart :=
  { cart with fSRAM := cart.fSRAM.map fun file => (file.fseek pos.toInt .SEEK_SET).fwrite data }

end Slot2_GbaCart

def EEPROM : u32 := 0x52504545
def SRAM_ : u32 := 0x4D415253
def FLASH : u32 := 0x53414C46
def FLASH1M_ : u32 := 0x5F4D3148
def SIIRTC_V : u32 := 0x52494953

/-- The loop over the words of the ROM. The last word is not looked at. Each
round reads four bytes, so as much fuel as the file has bytes is enough. -/
def scanFrom : Nat → EMUFILE → EMUFILE × u32
  | 0, file => (file, 0xFF)
  | fuel + 1, file =>
      let word := file.fread 4
      match word.2 with
      | [b0,b1,b2,b3] =>
          let tmp : u32 := b3 ++ b2 ++ b1 ++ b0
          if file.bytes.length ≤ word.1.pos then (word.1, 0xFF)
          else if tmp = EEPROM then (word.1, 1)
          else if tmp = SRAM_ then (word.1, 2)
          else if tmp = FLASH then
            -- a word cut off by the end of the file is whatever the stack held
            let next := word.1.read32le 0
            (next.1, if next.2 = FLASH1M_ then 3 else 5)
          else if tmp = SIIRTC_V then (word.1, 4)
          else scanFrom fuel word.1
      | _ => (word.1, 0xFF)

def scanSaveTypeGBA (rom : EMUFILE) : EMUFILE × u32 :=
  scanFrom (rom.bytes.length + 1) (rom.fseek 0 .SEEK_SET)

/-- What `connect` reads outside the cartridge: the loaded game, the two paths
and the disk. -/
structure Host where
  romsize : u32
  path : String
  GBACartridge_RomPath : String
  GBACartridge_SRAMPath : String
  GetFileNameWithoutExt : String → String
  disk : String → Option (List u8)

def Host.resolve (host : Host) : Host :=
  if host.GBACartridge_RomPath = "self" then
    { host with
      GBACartridge_RomPath := host.path
      GBACartridge_SRAMPath := host.GetFileNameWithoutExt host.path ++ ".sav" }
  else host

namespace Slot2_GbaCart

variable (cart : Slot2_GbaCart) (adr : u32)

def Close : Slot2_GbaCart :=
  { cart with fROM := none, fSRAM := none, romSize := 0, sramSize := 0 }

def connect (host : Host) : Slot2_GbaCart :=
  if host.romsize = 0 then cart.Close
  else if host.GBACartridge_RomPath = "" then cart.Close
  else
    match host.resolve.disk host.resolve.GBACartridge_RomPath with
    | none => cart.Close
    | some romBytes =>
        let rom : EMUFILE := ⟨.rb_plus,romBytes,0⟩
        match host.resolve.disk host.resolve.GBACartridge_SRAMPath with
        | none => { cart.Close with fROM := some rom, romSize := rom.size }
        | some saveBytes =>
            let save : EMUFILE := ⟨.rb_plus,saveBytes,0⟩
            let small := save.size.toNat ≤ 64 * 1024
            { fROM := some (scanSaveTypeGBA rom).1
              fSRAM := some save
              romSize := rom.size
              sramSize := save.size
              saveType := (scanSaveTypeGBA rom).2
              gbaFlash :=
                { cart.gbaFlash with
                  size := save.size
                  idDevice := if small then 0x1B else 0x09
                  idManufacturer := if small then 0x32 else 0xC2
                  state := 0 } }

def disconnect : Slot2_GbaCart := cart.Close

def setMode (state cmd : u8) : Slot2_GbaCart :=
  { cart with gbaFlash := { cart.gbaFlash with state := state, cmd := cmd } }

def setState (st : u8) : Slot2_GbaCart :=
  cart.setMode st cart.gbaFlash.cmd

/-- `0x10000 * gbaFlash.bank`. -/
def bankBase : u32 := 0x10000 * cart.gbaFlash.bank.setWidth 32

def writePending (val : u8) : Slot2_GbaCart :=
  if cart.gbaFlash.cmd = 0xA0 then
    (cart.writeSRAM ((adr &&& 0x1FFFF) + cart.bankBase) [val]).setMode 0 0
  else cart

def gbaWriteFlash (val : u8) : Slot2_GbaCart :=
  if cart.fSRAM.isNone then cart
  else if cart.gbaFlash.state = 0 then
    if adr = 0x0A005555 ∧ val = 0xF0 then cart.setMode 0 0
    else if adr = 0x0A005555 ∧ val = 0xAA then cart.setState 1
    else if adr = 0x0A000000 ∧ cart.gbaFlash.cmd = 0xB0 then
      { cart with gbaFlash := { cart.gbaFlash with bank := val, cmd := 0 } }
    else cart.writePending adr val
  else if cart.gbaFlash.state = 1 then
    if adr = 0x0A002AAA ∧ val = 0x55 then cart.setState 2
    else (cart.setState 0).writePending adr val
  else if cart.gbaFlash.state = 2 then
    if adr = 0x0A005555 then
      cart.setMode (if val = 0x80 then 0x80 else if val = 0x90 then 0x90 else 0) val
    else (cart.setState 0).writePending adr val
  else if cart.gbaFlash.state = 0x80 then
    if adr = 0x0A005555 ∧ val = 0xAA then cart.setState 0x81
    else (cart.setState 0).writePending adr val
  else if cart.gbaFlash.state = 0x81 then
    if adr = 0x0A002AAA ∧ val = 0x55 then cart.setState 0x82
    else (cart.setState 0).writePending adr val
  else if cart.gbaFlash.state = 0x82 then
    if val = 0x30 then
      (cart.writeSRAM ((adr &&& 0x0000F000) + cart.bankBase) erasedSector).setMode 0 0
    else cart.setMode 0 0
  else if cart.gbaFlash.state = 0x90 then
    if adr = 0x0A005555 ∧ val = 0xAA then cart.setState 0x91
    else (cart.setState 0).writePending adr val
  else if cart.gbaFlash.state = 0x91 then
    if adr = 0x0A002AAA ∧ val = 0x55 then cart.setState 0x92
    else (cart.setState 0).writePending adr val
  else if cart.gbaFlash.state = 0x92 then cart.setMode 0 0
  else cart.writePending adr val

def gbaReadFlash : Slot2_GbaCart × u8 :=
  if cart.fSRAM.isNone then (cart, 0xFF)
  else if cart.gbaFlash.cmd = 0 then
    let read := cart.readSRAM ((adr &&& 0x1FFFF) + cart.bankBase) 1
    (read.1, read.2.setWidth 8)
  else if cart.gbaFlash.cmd = 0x90 then
    if adr = 0x0A000000 then (cart, cart.gbaFlash.idManufacturer)
    else if adr = 0x0A000001 then (cart, cart.gbaFlash.idDevice)
    else (cart, 0xFF)
  else if cart.gbaFlash.cmd = 0xF0 then (cart.setMode 0 0, 0xFF)
  else (cart, 0xFF)

def writeByte (addr : u32) (val : u8) : Slot2_GbaCart :=
  if 0x0A000000 ≤ addr ∧ addr < 0x0A010000 then
    if cart.saveType = 3 ∨ cart.saveType = 5 then cart.gbaWriteFlash addr val else cart
  else cart

def readByte (addr : u32) : Slot2_GbaCart × u8 :=
  if addr < 0x0A000000 then
    let read := cart.readRom (addr - 0x08000000) 1
    (read.1, read.2.setWidth 8)
  else if addr < 0x0A010000 then
    if cart.saveType = 3 ∨ cart.saveType = 5 then cart.gbaReadFlash addr
    else
      let read := cart.readSRAM (addr - 0x0A000000) 1
      (read.1, read.2.setWidth 8)
  else (cart, 0xFF)

end Slot2_GbaCart
end Desmume.Slot2
