/-
How a backup device gets its address width.

The constructor takes it from the footer of the save file, `reset` and
`forceManualBackupType` from the kind of memory the user selected, and an import
from the size of what is imported or, again, from the selected kind.
-/

import Desmume.Backup.SaveFile

namespace Desmume.Backup

open BackupDevice

inductive MediaType
  | MC_TYPE_AUTODETECT
  | MC_TYPE_EEPROM1
  | MC_TYPE_EEPROM2
  | MC_TYPE_FLASH
  | MC_TYPE_FRAM
  deriving DecidableEq, Repr

structure SAVE_TYPE where
  media_type : MediaType
  size : u32
  addr_size : u32
  deriving DecidableEq, Repr

def save_types : List SAVE_TYPE :=
  [⟨.MC_TYPE_AUTODETECT,1,0⟩,
    ⟨.MC_TYPE_EEPROM1,0x200,1⟩,
    ⟨.MC_TYPE_EEPROM2,0x2000,2⟩,
    ⟨.MC_TYPE_EEPROM2,0x10000,2⟩,
    ⟨.MC_TYPE_FRAM,0x8000,2⟩,
    ⟨.MC_TYPE_FLASH,0x40000,3⟩,
    ⟨.MC_TYPE_FLASH,0x80000,3⟩,
    ⟨.MC_TYPE_FLASH,0x100000,3⟩,
    ⟨.MC_TYPE_FLASH,0x200000,3⟩,
    ⟨.MC_TYPE_FLASH,0x400000,3⟩,
    ⟨.MC_TYPE_FLASH,0x800000,3⟩,
    ⟨.MC_TYPE_FLASH,0x1000000,3⟩,
    ⟨.MC_TYPE_FLASH,0x2000000,3⟩,
    ⟨.MC_TYPE_FLASH,0x4000000,3⟩]

/-- `save_types[index]`. No index reaches the end of the table. -/
def saveType (i : Nat) : SAVE_TYPE := save_types.getD i ⟨.MC_TYPE_AUTODETECT,0,0⟩

def addr_size_for_old_save_size (bupmem_size : u32) : u32 :=
  if bupmem_size = 0x200 then 1
  else if bupmem_size = 0x2000 ∨ bupmem_size = 0x8000 ∨ bupmem_size = 0x10000 then 2
  else if bupmem_size = 0x20000 ∨ bupmem_size = 0x40000 ∨ bupmem_size = 0x80000 ∨
      bupmem_size = 0x100000 ∨ bupmem_size = 0x200000 ∨ bupmem_size = 0x800000 then 3
  else 0xFFFFFFFF

def addr_size_for_old_save_type : MediaType → u32
  | .MC_TYPE_EEPROM1 => 1
  | .MC_TYPE_EEPROM2 => 2
  | .MC_TYPE_FRAM => 2
  | .MC_TYPE_FLASH => 3
  | .MC_TYPE_AUTODETECT => 0xFFFFFFFF

namespace BackupDevice

variable (manualBackupType : Fin 14) (dev : BackupDevice) (file : List u8) (force_size : u32)

def reset_hardware : BackupDevice :=
  { dev with
    com := 0
    reset_command_state := false
    write_enable := false
    write_protect := 0
    addr := 0
    addr_counter := 0 }

def reset : BackupDevice :=
  let dev := { dev.reset_hardware with data_autodetect := [] }
  if dev.state = .DETECTING ∧ manualBackupType ≠ 0 then
    let chosen := saveType manualBackupType
    let dev := { dev with state := .RUNNING }
    let dev := dev.ensure chosen.size false
    { dev with addr_size := addr_size_for_old_save_type chosen.media_type }
  else dev

def forceManualBackupType : BackupDevice :=
  { dev with
    addr_size := addr_size_for_old_save_size (saveType manualBackupType).size
    state := .RUNNING }

/-- What the constructor finds. `file` is the content of the save, if it
exists; `advsc` the save type of the game in the database, if that is loaded:
an index before the entry, `0xFE` or `0xFF`. -/
structure GameSetup where
  file : Option (List u8)
  writable : Bool
  autodetectBackupMethod : Nat
  advsc : Option u8
  manualBackupType : Fin 14

def openedFile (setup : GameSetup) : EMUFILE :=
  if setup.writable = false then { mode := .memory, bytes := [], pos := 0 }
  else
    match setup.file with
    | some bytes => { mode := .rb_plus, bytes := bytes, pos := 0 }
    | none => { mode := .wb_plus, bytes := [], pos := 0 }

def openFile (fp : EMUFILE) : Opened :=
  let fsize := fp.size
  let fp := if fsize < 0x200 then fp.truncate 0 else fp
  let res := readFooter fp noInfo
  if res.1 = 0 then
    { footer := res.1
      fpMC := res.2.1
      fsize := fsize - BitVec.ofNat 32 footerLength
      info := res.2.2 }
  else { footer := res.1, fpMC := res.2.1, fsize := 0, info := noInfo }

def advApply (type : u8) : BackupDevice :=
  if type ≠ 0xFF ∧ type ≠ 0xFE then
    let adv_size := (saveType (type.toNat + 1)).size
    let dev := { dev with info := { dev.info with type := type.setWidth 32 + 1 } }
    let dev :=
      if dev.info.size > adv_size then
        { dev with
          info := { dev.info with size := adv_size }
          fpMC := dev.fpMC.truncate adv_size.toNat }.ensure adv_size true
      else if dev.info.size < adv_size then
        { dev with info := { dev.info with size := adv_size } }.ensure adv_size false
      else dev
    { dev with fsize := adv_size }
  else { dev with info := { dev.info with type := type.setWidth 32 } }

def openedDevice (setup : GameSetup) : BackupDevice :=
  let opened := openFile (openedFile setup)
  { fpMC := opened.fpMC.fseek 0 .SEEK_SET
    fsize := opened.fsize
    info := opened.info
    isMovieMode := false
    uninitializedValue := 0xFF
    write_enable := false
    reset_command_state := false
    com := 0
    addr_size := 0
    addr_counter := 0
    addr := 0
    write_protect := 0
    data_autodetect := []
    state := .DETECTING }

def advised (setup : GameSetup) (dev : BackupDevice) : BackupDevice :=
  if setup.autodetectBackupMethod = 1 then
    match setup.advsc with
    | some type => dev.advApply type
    | none => dev
  else dev

/-- What the device takes over from `info`. -/
def described (setup : GameSetup) (dev : BackupDevice) : BackupDevice :=
  let type :=
    if setup.autodetectBackupMethod ≠ 1 ∧ dev.info.type = 0 then
      if searchFileSaveType dev.info.size = 0xFF then 0
      else searchFileSaveType dev.info.size
    else dev.info.type
  { dev with
    addr_size := dev.info.addr_size
    info := { dev.info with padSize := dev.fsize, type := type }
    state := if dev.fsize > 0 then .RUNNING else .DETECTING }

def construct (setup : GameSetup) : BackupDevice :=
  (described setup (advised setup (openedDevice setup))).reset setup.manualBackupType

def raw_applyUserSettings (size : u32) (manual : Bool) : BackupDevice × u32 :=
  if manualBackupType = 0 ∧ manual = false then
    let dev := { dev with addr_size := addr_size_for_old_save_size size }
    let dev := dev.ensure size false
    ({ dev with state := .RUNNING }, size)
  else
    let res := searchFileSaveType size
    let type := if manual = true ∧ res ≠ 0xFF then res.toNat + 1 else manualBackupType
    let chosen := saveType type
    ({ dev with
        addr_size := addr_size_for_old_save_type chosen.media_type
        state := .RUNNING },
      if chosen.size < size then chosen.size else size)

def importSize : u32 :=
  if force_size > 0 then force_size else BitVec.ofNat 32 file.length

def import_raw : BackupDevice :=
  let size : u32 := BitVec.ofNat 32 file.length
  let left := if force_size > 0 ∧ size < force_size then force_size - size else 0
  let applied := raw_applyUserSettings manualBackupType dev (importSize file force_size)
    (decide (force_size > 0))
  let sz := applied.2 - left
  if sz.toNat ≤ file.length then applied.1.saveBuffer (file.take sz.toNat) true else applied.1

def no_GBA_HEADER_ID : List u8 := ascii "NocashGbaBackupMediaSavDataFile"

def no_GBA_HEADER_SRAM_ID : List u8 := ascii "SRAM"

def readLong (bytes : List u8) (pos : Nat) : u32 :=
  (bytes.getD (pos + 3) 0 ++ bytes.getD (pos + 2) 0) ++
    (bytes.getD (pos + 1) 0 ++ bytes.getD pos 0)

/-- Compression method 1, until a zero. A file that ends early is read as if it
went on with zeros. -/
def unpackRuns : List u8 → List u8
  | [] => []
  | cc :: rest =>
      if cc = 0 then []
      else if cc = 0x80 then
        let tsize : u16 := rest.getD 2 0 ++ rest.getD 1 0
        List.replicate tsize.toNat (rest.getD 0 0) ++ unpackRuns (rest.drop 3)
      else if cc > 0x80 then
        List.replicate (cc.toNat - 0x80) (rest.getD 0 0) ++ unpackRuns (rest.drop 1)
      else rest.takeD cc.toNat 0 ++ unpackRuns (rest.drop cc.toNat)
termination_by bytes => bytes.length
decreasing_by
  all_goals rw [List.length_drop,List.length_cons]; omega

def no_gba_unpackSAV (src : List u8) : Except Nat (List u8) :=
  if src.length < 0x50 then .error 1
  else if src.take 0x1F ≠ no_GBA_HEADER_ID ∨ src.getD 0x1F 0 ≠ 0x1A then .error 2
  else if (src.drop 0x40).take 4 ≠ no_GBA_HEADER_SRAM_ID then .error 3
  else
    let compressMethod := readLong src 0x44
    if compressMethod = 0 then .ok ((src.drop 0x4C).takeD (readLong src 0x48).toNat 0)
    else if compressMethod = 1 then .ok (unpackRuns (src.drop 0x50))
    else .error 200

/-- The loop of `trim`, with `rows` rows to go. -/
def trimRows (src : Nat → u8) (size : u32) : Nat → u32 → u32
  | 0, _ => size
  | rows + 1, pos =>
      if (List.range 16).all (fun t => src (pos.toNat + t) = 0xFF) then
        trimRows src size rows (pos - 16)
      else pos + 16

def trim (src : Nat → u8) (size : u32) : u32 := trimRows src size (size.toNat / 16) (size - 16)

def fillLeft (size : u32) : u32 :=
  match (save_types.drop 1).find? (fun entry => size ≤ entry.size) with
  | some entry => size + (entry.size - size)
  | none => size

/-- The output buffer, which is filled with `0xFF`. -/
def outBuffer (out : List u8) (pos : Nat) : u8 := out.getD pos 0xFF

def noGbaSize (out : List u8) (force_size : u32) : u32 :=
  fillLeft (trim (outBuffer out)
    (if force_size > 0 then force_size else BitVec.ofNat 32 out.length))

def import_no_gba : BackupDevice :=
  match no_gba_unpackSAV file with
  | .error _ => dev
  | .ok out =>
      let applied := raw_applyUserSettings manualBackupType dev (noGbaSize out force_size)
        (decide (force_size > 0))
      applied.1.saveBuffer ((List.range applied.2.toNat).map (outBuffer out)) true

end BackupDevice

end Desmume.Backup
