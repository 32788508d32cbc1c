/-
The backup memory of a game card, and what growing its file does.

The save file holds `fsize` data bytes followed by a footer that records the
sizes and the kind of memory.
-/

import Desmume.Backup.Emufile

namespace Desmume.Backup

section

def saveSizes : List u32 :=
  [0x200,0x2000,0x8000,0x10000,0x40000,0x80000,0x100000,0x200000,0x400000,0x800000,
    0x1000000,0x2000000,0x4000000,0xFFFFFFFF]

/-- The loop of `pad_up_size` over the sizes still to be tried. -/
def padFrom (startSize : u32) : List u32 → u32
  | [] => startSize
  | padSize :: larger =>
      if startSize > padSize then padFrom startSize larger
      else if padSize = 0xFFFFFFFF then startSize
      else padSize

def pad_up_size (startSize : u32) : u32 := padFrom startSize saveSizes

/-- The sizes of `save_types[1]` to `save_types[12]`, which are the entries
`searchFileSaveType` compares. -/
def save_type_sizes : List u32 :=
  [0x200,0x2000,0x10000,0x8000,0x40000,0x80000,0x100000,0x200000,0x400000,0x800000,
    0x1000000,0x2000000]

/-- The index before the first entry of the size, or 0xFF. -/
def searchFileSaveType (size : u32) : u32 :=
  match save_type_sizes.findIdx? (fun entry => size == entry) with
  | some i => BitVec.ofNat 32 i
  | none => 0xFF

def ascii (text : String) : List u8 := text.toList.map fun letter => BitVec.ofNat 8 letter.toNat

def DESMUME_BACKUP_FOOTER_TXT : List u8 :=
  ascii "|<--Snip above here to create a raw sav by excluding this DeSmuME savedata footer:"

def kDesmumeSaveCookie : List u8 := ascii "|-DESMUME SAVE-|"

/-- `strlen(kDesmumeSaveCookie) + strlen(DESMUME_BACKUP_FOOTER_TXT) + 24`. -/
def footerLength : Nat := kDesmumeSaveCookie.length + DESMUME_BACKUP_FOOTER_TXT.length + 24

theorem length_footerText : DESMUME_BACKUP_FOOTER_TXT.length = 82 := by decide

theorem length_saveCookie : kDesmumeSaveCookie.length = 16 := by decide

theorem footerLength_eq : footerLength = 122 := by
  rw [footerLength,length_footerText,length_saveCookie]

structure Info where
  size : u32
  padSize : u32
  type : u32
  addr_size : u32
  mem_size : u32
  deriving DecidableEq, Repr

inductive DeviceState
  | DETECTING
  | RUNNING
  deriving DecidableEq, Repr

structure BackupDevice where
  fpMC : EMUFILE
  fsize : u32
  info : Info
  isMovieMode : Bool
  uninitializedValue : u8
  write_enable : Bool
  reset_command_state : Bool
  com : u32
  addr_size : u32
  addr_counter : u32
  addr : u32
  write_protect : u8
  data_autodetect : List u8
  state : DeviceState
  deriving DecidableEq, Repr

namespace BackupDevice

def writeFooter (fp : EMUFILE) (addr padSize type addr_size size : u32) : EMUFILE :=
  let fp := fp.fwrite DESMUME_BACKUP_FOOTER_TXT
  let fp := fp.write32le addr
  let fp := fp.write32le padSize
  let fp := fp.write32le type
  let fp := fp.write32le addr_size
  let fp := fp.write32le size
  let fp := fp.write32le 0
  fp.fwrite kDesmumeSaveCookie

variable (dev : BackupDevice) (gameCode : List Char) (val : u8) (addr : u32)

def paddedInfo (padSize : u32) : Info :=
  let type := searchFileSaveType padSize
  { dev.info with
    size := padSize
    padSize := padSize
    type := if type ≠ 0xFF then type + 1 else dev.info.type }

def grow (val : u8) : BackupDevice :=
  let fp := dev.fpMC.fseek dev.fsize.toInt .SEEK_SET
  let padSize := pad_up_size addr
  let size := padSize - dev.fsize
  let info := dev.paddedInfo padSize
  let fp := if size > 0 then fp.fwrite (List.replicate size.toNat val) else fp
  let fp := writeFooter fp addr padSize info.type dev.addr_size info.size
  { dev with fpMC := fp.fseek (addr - 1).toInt .SEEK_SET, fsize := padSize, info := info }

/-- `fpOut` says whether the caller passed `fpMC` or no file at all. -/
def ensureReal (val : u8) (fpOut : Bool) : BackupDevice :=
  if fpOut = false ∧ addr < dev.fsize then dev else dev.grow addr val

def ensure (fpOut : Bool) : BackupDevice :=
  dev.ensureReal addr dev.uninitializedValue fpOut

def read : BackupDevice × u8 :=
  let res := dev.fpMC.read8le 0xFF
  ({ dev with fpMC := res.1 }, res.2)

def write : BackupDevice :=
  if dev.isMovieMode then dev
  else { dev with fpMC := dev.fpMC.fwrite [val] }

def detectedAddrSize (autodetect_size : u32) : u32 :=
  let code := gameCode.take 3
  if autodetect_size = 0 ∨ autodetect_size = 1 then 1
  else if autodetect_size = 2 then 1
  else if autodetect_size = 3 then
    if code = ['A','L','3'] ∨ code = ['A','H','5'] ∨ code = ['A','V','H'] ∨
        code = ['A','Q','3'] then 1
    else 2
  else if autodetect_size = 4 then
    if code = ['A','S','M'] then 2 else 3
  else
    if code = ['B','D','E'] then 2 else autodetect_size &&& 3

def detect (dev : BackupDevice) : BackupDevice :=
  if dev.reset_command_state = false then dev
  else if dev.state = .DETECTING ∧ 0 < dev.data_autodetect.length then
    { dev with
      addr_size := detectedAddrSize gameCode (BitVec.ofNat 32 dev.data_autodetect.length)
      state := .RUNNING
      data_autodetect := [] }
  else dev

abbrev BM_CMD_WRITESTATUS : u32 := 0x01
abbrev BM_CMD_WRITELOW : u32 := 0x02
abbrev BM_CMD_READLOW : u32 := 0x03
abbrev BM_CMD_WRITEDISABLE : u32 := 0x04
abbrev BM_CMD_READSTATUS : u32 := 0x05
abbrev BM_CMD_WRITEENABLE : u32 := 0x06
abbrev BM_CMD_IRDA : u32 := 0x08
abbrev BM_CMD_WRITEHIGH : u32 := 0x0A
abbrev BM_CMD_READHIGH : u32 := 0x0B

def checkReset : BackupDevice :=
  if dev.reset_command_state then { dev with com := 0, reset_command_state := false }
  else dev

def reset_command : BackupDevice :=
  { dev with reset_command_state := true }

def addressByte : BackupDevice :=
  let addr := dev.addr <<< 8 ||| val.setWidth 32
  let addr_counter := dev.addr_counter + 1
  { dev with
    addr := addr
    addr_counter := addr_counter
    fpMC := if addr_counter = dev.addr_size then dev.fpMC.fseek addr.toInt .SEEK_SET
      else dev.fpMC }

def wrapAddress : BackupDevice :=
  if dev.addr_size = 1 then
    { dev with
      addr := dev.addr &&& 0x1FF
      fpMC := dev.fpMC.fseek (dev.addr &&& 0x1FF).toInt .SEEK_SET }
  else dev

def access : BackupDevice × u8 :=
  if dev.com = BM_CMD_READLOW then dev.read
  else if dev.write_enable then (dev.write val, val)
  else (dev, val)

def dataByte : BackupDevice × u8 :=
  let wrapped := dev.wrapAddress
  let ensured := wrapped.ensure (wrapped.addr + 1) false
  let res := ensured.access val
  ({ res.1 with addr := res.1.addr + 1 }, res.2)

def memoryByte (dev : BackupDevice) (val : u8) : BackupDevice × u8 :=
  if dev.state = .DETECTING then
    (detect gameCode { dev with data_autodetect := dev.data_autodetect ++ [val] }, 0xFF)
  else if dev.addr_counter < dev.addr_size then (dev.addressByte val, 0xFF)
  else dev.dataByte val

/-- The inner `switch (com)`: `val` has become the current command. -/
def newCommand : BackupDevice × u8 :=
  let com : u32 := val.setWidth 32
  if com = BM_CMD_IRDA then ({ dev with com := com }, 0xAA)
  else if com = BM_CMD_WRITEDISABLE then ({ dev with com := com, write_enable := false }, 0xFF)
  else if com = BM_CMD_WRITEENABLE then ({ dev with com := com, write_enable := true }, 0xFF)
  else if com = BM_CMD_WRITELOW ∨ com = BM_CMD_READLOW then
    ({ dev with com := com, addr_counter := 0, addr := 0 }, 0xFF)
  else if com = BM_CMD_WRITEHIGH ∨ com = BM_CMD_READHIGH then
    ({ dev with
        com := if com = BM_CMD_WRITEHIGH then BM_CMD_WRITELOW else BM_CMD_READLOW
        addr_counter := 0
        addr := if dev.addr_size = 1 then 1 else 0 }, 0xFF)
  else ({ dev with com := com }, 0xFF)

/-- The outer `switch (com)`. -/
def handleByte (dev : BackupDevice) (val : u8) : BackupDevice × u8 :=
  if dev.com = BM_CMD_WRITESTATUS then ({ dev with write_protect := val &&& 0xFC }, val)
  else if dev.com = BM_CMD_WRITELOW ∨ dev.com = BM_CMD_READLOW then
    memoryByte gameCode dev val
  else if dev.com = BM_CMD_READSTATUS then
    (dev, (if dev.write_enable then 2 else 0) ||| dev.write_protect)
  else if dev.com = BM_CMD_IRDA then (dev, 0xAA)
  else if dev.com ≠ 0 then (dev, val)
  else dev.newCommand val

def data_command (dev : BackupDevice) (val : u8) : BackupDevice × u8 :=
  let res := handleByte gameCode dev val
  (res.1.checkReset, res.2)

end BackupDevice

end

open Overwrite

variable (startSize : u32)

theorem le_padFrom (sizes : List u32) : startSize.toNat ≤ (padFrom startSize sizes).toNat := by
  induction sizes with
  | nil => exact le_rfl
  | cons padSize larger ih =>
      unfold padFrom
      split
      · exact ih
      · next enough =>
          split
          · exact le_rfl
          · exact Nat.le_of_not_gt enough

theorem padFrom_le (sizes : List u32) (limit : Nat)
    (limited : ∀ padSize ∈ sizes, padSize ≠ 0xFFFFFFFF → padSize.toNat ≤ limit) :
    (padFrom startSize sizes).toNat ≤ max startSize.toNat limit := by
  induction sizes with
  | nil => exact Nat.le_max_left _ _
  | cons padSize larger ih =>
      unfold padFrom
      split
      · exact ih fun entry listed => limited entry (List.mem_cons_of_mem _ listed)
      · split
        · exact Nat.le_max_left _ _
        · next bounded =>
            exact le_trans (limited padSize List.mem_cons_self bounded) (Nat.le_max_right _ _)

theorem le_pad_up_size : startSize.toNat ≤ (pad_up_size startSize).toNat :=
  le_padFrom startSize saveSizes

theorem pad_up_size_le : (pad_up_size startSize).toNat ≤ max startSize.toNat 0x4000000 := by
  apply padFrom_le startSize saveSizes
  simp [saveSizes]

def footerBytes (addr padSize type addr_size size : u32) : List u8 :=
  DESMUME_BACKUP_FOOTER_TXT ++ (EMUFILE.le32 addr ++ (EMUFILE.le32 padSize ++
    (EMUFILE.le32 type ++ (EMUFILE.le32 addr_size ++ (EMUFILE.le32 size ++
      (EMUFILE.le32 0 ++ kDesmumeSaveCookie))))))

theorem length_footerBytes (addr padSize type addr_size size : u32) :
    (footerBytes addr padSize type addr_size size).length = footerLength := by
  simp only [footerBytes,List.length_append,EMUFILE.length_le32,footerLength]
  omega

namespace BackupDevice

theorem writeFooter_eq (fp : EMUFILE) (addr padSize type addr_size size : u32)
    (inside : fp.pos ≤ fp.bytes.length) :
    writeFooter fp addr padSize type addr_size size =
      fp.fwrite (footerBytes addr padSize type addr_size size) := by
  simp only [writeFooter,EMUFILE.write32le,EMUFILE.fwrite_fwrite fp _ _ inside,
    List.append_assoc,footerBytes]

/-- The data size lies in the file and below 2 GiB. -/
structure Covered (dev : BackupDevice) : Prop where
  inside : dev.fsize.toNat ≤ dev.fpMC.bytes.length
  small : dev.fsize.toNat < 2 ^ 31

def growth (dev : BackupDevice) (addr : u32) (val : u8) : List u8 :=
  let padSize := pad_up_size addr
  let info := dev.paddedInfo padSize
  List.replicate (padSize.toNat - dev.fsize.toNat) val ++
    footerBytes addr padSize info.type dev.addr_size info.size

theorem length_growth (dev : BackupDevice) (addr : u32) (val : u8) :
    (dev.growth addr val).length =
      (pad_up_size addr).toNat - dev.fsize.toNat + footerLength := by
  simp only [growth,List.length_append,List.length_replicate,length_footerBytes]

@[simp] theorem fsize_grow (dev : BackupDevice) (addr : u32) (val : u8) :
    (dev.grow addr val).fsize = pad_up_size addr := rfl

variable {dev : BackupDevice} {addr : u32}

theorem fpMC_grow (covered : dev.Covered) (enough : dev.fsize.toNat ≤ addr.toNat)
    (val : u8) :
    (dev.grow addr val).fpMC =
      (({ dev.fpMC with pos := dev.fsize.toNat }).fwrite (dev.growth addr val)).fseek
        (addr - 1).toInt .SEEK_SET := by
  have padded := le_pad_up_size addr
  have difference :
      (pad_up_size addr - dev.fsize).toNat =
        (pad_up_size addr).toNat - dev.fsize.toNat := by
    bv_omega
  have seeked := EMUFILE.fseek_set dev.fpMC dev.fsize covered.small
  have padding :
      (if pad_up_size addr - dev.fsize > 0 then
          ({ dev.fpMC with pos := dev.fsize.toNat }).fwrite
            (List.replicate (pad_up_size addr - dev.fsize).toNat val)
        else { dev.fpMC with pos := dev.fsize.toNat }) =
        ({ dev.fpMC with pos := dev.fsize.toNat }).fwrite
          (List.replicate ((pad_up_size addr).toNat - dev.fsize.toNat) val) := by
    rw [difference]
    split
    · rfl
    · next none =>
        have zero : (pad_up_size addr).toNat - dev.fsize.toNat = 0 := by bv_omega
        rw [zero]
        rfl
  have length := length_overwrite 0 dev.fpMC.bytes
    (List.replicate ((pad_up_size addr).toNat - dev.fsize.toNat) val) dev.fsize.toNat
  simp only [grow,seeked,padding]
  rw [writeFooter_eq]
  · rw [EMUFILE.fwrite_fwrite _ _ _ covered.inside]
    rfl
  · rw [EMUFILE.fwrite_of_inside _ _ covered.inside]
    simp only
    omega

theorem bytes_grow (covered : dev.Covered) (enough : dev.fsize.toNat ≤ addr.toNat) (val : u8) :
    (dev.grow addr val).fpMC.bytes =
      overwrite 0 dev.fpMC.bytes dev.fsize.toNat (dev.growth addr val) := by
  rw [fpMC_grow covered enough,EMUFILE.bytes_fseek,EMUFILE.fwrite_of_inside _ _ covered.inside]

theorem pos_grow (covered : dev.Covered) (enough : dev.fsize.toNat ≤ addr.toNat)
    (positive : 0 < addr.toNat) (small : addr.toNat ≤ 2 ^ 31) (val : u8) :
    (dev.grow addr val).fpMC.pos = addr.toNat - 1 := by
  have before : (addr - 1).toNat = addr.toNat - 1 := by bv_omega
  rw [fpMC_grow covered enough,EMUFILE.fseek_set _ _ (by omega),before]

theorem length_bytes_grow (covered : dev.Covered) (enough : dev.fsize.toNat ≤ addr.toNat)
    (val : u8) :
    (dev.grow addr val).fpMC.bytes.length =
      max dev.fpMC.bytes.length ((pad_up_size addr).toNat + footerLength) := by
  have padded := le_pad_up_size addr
  rw [bytes_grow covered enough,length_overwrite,length_growth]
  congr 1
  omega

theorem grow_below (covered : dev.Covered) (enough : dev.fsize.toNat ≤ addr.toNat)
    (val : u8) (i : Nat) (below : i < dev.fsize.toNat) :
    (dev.grow addr val).fpMC.bytes[i]? = dev.fpMC.bytes[i]? := by
  rw [bytes_grow covered enough]
  exact getElem?_overwrite_before 0 _ _ _ i (lt_of_lt_of_le below covered.inside) below

theorem grow_padding (covered : dev.Covered) (enough : dev.fsize.toNat ≤ addr.toNat)
    (val : u8) (i : Nat) (above : dev.fsize.toNat ≤ i) (below : i < (pad_up_size addr).toNat) :
    (dev.grow addr val).fpMC.bytes[i]? = some val := by
  obtain ⟨off,rfl⟩ := Nat.exists_eq_add_of_le above
  have inPadding :
      off < (List.replicate ((pad_up_size addr).toNat - dev.fsize.toNat) val).length := by
    rw [List.length_replicate]
    omega
  rw [bytes_grow covered enough,
    getElem?_overwrite_inside 0 _ _ _ off (by rw [length_growth]; omega),growth,
    List.getElem?_append_left inPadding,List.getElem?_replicate,if_pos (by omega)]

theorem covered_grow (covered : dev.Covered) (enough : dev.fsize.toNat ≤ addr.toNat)
    (small : addr.toNat < 2 ^ 31) (val : u8) : (dev.grow addr val).Covered := by
  have padded := pad_up_size_le addr
  constructor
  · rw [length_bytes_grow covered enough,fsize_grow]
    omega
  · rw [fsize_grow]
    omega

end BackupDevice

end Desmume.Backup
