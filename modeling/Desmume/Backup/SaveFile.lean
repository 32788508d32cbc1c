/-
The save file and its footer.

Opening a save looks for the footer at the end of the file and takes the data to
be everything before it.
-/

import Desmume.Backup.SpiMemory

namespace Desmume.Backup

open Run Overwrite BackupDevice

def readSizes (fp : EMUFILE) (info : Info) : EMUFILE × Info :=
  let size := fp.read32le info.size
  let padSize := size.1.read32le info.padSize
  let type := padSize.1.read32le info.type
  let addr_size := type.1.read32le info.addr_size
  let mem_size := addr_size.1.read32le info.mem_size
  (mem_size.1,
    { size := size.2
      padSize := padSize.2
      type := type.2
      addr_size := addr_size.2
      mem_size := mem_size.2 })

/-- `readFooter`: its result, and `info` with what was read. -/
def readFooter (fp : EMUFILE) (info : Info) : Int × EMUFILE × Info :=
  let cookieLen := kDesmumeSaveCookie.length
  if fp.size < BitVec.ofNat 32 footerLength then (-1, fp, info)
  else
    let sig := (fp.fseek (-cookieLen) .SEEK_END).fread cookieLen
    if sig.2 ≠ kDesmumeSaveCookie then (-1, sig.1, info)
    else
      let version := ((sig.1.fseek (-cookieLen) .SEEK_END).fseek (-4) .SEEK_CUR).read32le
        0xFFFFFFFF
      if version.2 ≠ 0 then (-2, version.1, info)
      else
        let sizes := readSizes (version.1.fseek (-24) .SEEK_CUR) info
        (0, sizes.1, sizes.2)

structure Opened where
  footer : Int
  fpMC : EMUFILE
  fsize : u32
  info : Info

def noInfo : Info := { size := 0, padSize := 0, type := 0, addr_size := 0, mem_size := 0 }

/-- The constructor's part on an existing file, which it opens in mode `rb+`. -/
def openSave (bytes : List u8) : Opened :=
  let fp : EMUFILE := { mode := .rb_plus, bytes := bytes, pos := 0 }
  let fsize := fp.size
  let fp := if fsize < 0x200 then fp.truncate 0 else fp
  let res := readFooter fp noInfo
  if res.1 = 0 then
    { footer := res.1
      fpMC := res.2.1
      fsize := fsize - BitVec.ofNat 32 footerLength
      info := res.2.2 }
  else { footer := res.1, fpMC := res.2.1, fsize := 0, info := noInfo }

structure SavedState where
  version : u32
  write_enable : Bool
  com : u32
  addr_size : u32
  addr_counter : u32
  state : u32
  data : List u8
  data_autodetect : List u8
  addr : u32
  reset_command_state : Bool
  write_protect : u8
  savePos : u32

namespace BackupDevice

def restored (device : BackupDevice) (saved : SavedState) : BackupDevice :=
  { device with
    write_enable := saved.write_enable
    com := saved.com
    addr_size := saved.addr_size
    addr_counter := saved.addr_counter
    state := if saved.state = 0 then .DETECTING else .RUNNING
    data_autodetect := saved.data_autodetect
    addr := if 1 ≤ saved.version then saved.addr else device.addr
    reset_command_state :=
      if 3 ≤ saved.version then saved.reset_command_state else device.reset_command_state
    write_protect := if 4 ≤ saved.version then saved.write_protect else device.write_protect }

def placed (device : BackupDevice) (fp : EMUFILE) (data : List u8) : BackupDevice :=
  { device with fsize := BitVec.ofNat 32 data.length, fpMC := fp.fwrite data }

/-- The data put at the start of the file, and `ensure` at its end. -/
def store (device : BackupDevice) (fp : EMUFILE) (data : List u8) : BackupDevice :=
  (device.placed fp data).ensure (BitVec.ofNat 32 data.length) true

def load_state (device : BackupDevice) (saved : SavedState) : BackupDevice :=
  let device := device.restored saved
  let device := device.store (device.fpMC.fseek 0 .SEEK_SET) saved.data
  let pos := if 5 ≤ saved.version then saved.savePos else device.addr
  { device with fpMC := device.fpMC.fseek pos.toInt .SEEK_SET }

def rewind (fp : EMUFILE) (truncate : Bool) : EMUFILE :=
  if truncate then (fp.fseek 0 .SEEK_SET).truncate 0 else fp.fseek 0 .SEEK_SET

/-- `saveBuffer` with `_rewind`, as every caller passes it. -/
def saveBuffer (device : BackupDevice) (data : List u8) (truncate : Bool) : BackupDevice :=
  device.store (rewind device.fpMC truncate) data

end BackupDevice

inductive SaveOp
  | data_command (val : u8)
  | reset_command
  | ensure (addr : u32)
  | load_state (saved : SavedState)
  | saveBuffer (data : List u8) (truncate : Bool)

variable (size padSize type addr_size mem_size : u32) (gameCode : List Char)

def saveStep (device : BackupDevice) : SaveOp → BackupDevice
  | .data_command val => (device.data_command gameCode val).1
  | .reset_command => device.reset_command
  | .ensure addr => device.ensure addr false
  | .load_state saved => device.load_state saved
  | .saveBuffer data truncate => device.saveBuffer data truncate

/-- The file is `fsize` data bytes, one footer that records the device's sizes
and kind, and nothing after it. -/
structure OneFooter (device : BackupDevice) : Prop where
  length : device.fpMC.bytes.length = device.fsize.toNat + footerLength
  footer : ∃ size mem_size,
    device.fpMC.bytes.drop device.fsize.toNat =
      footerBytes size device.info.padSize device.info.type device.addr_size mem_size

structure Blank (device : BackupDevice) : Prop where
  bytes : device.fpMC.bytes = []
  fsize : device.fsize = 0

structure Sound (device : BackupDevice) : Prop extends OneFooter device where
  padded : device.info.padSize = device.fsize
  small : device.fsize.toNat + footerLength < 2 ^ 31

theorem drop_footerText :
    (footerBytes size padSize type addr_size mem_size).drop 82 =
      EMUFILE.le32 size ++ (EMUFILE.le32 padSize ++ (EMUFILE.le32 type ++
        (EMUFILE.le32 addr_size ++ (EMUFILE.le32 mem_size ++
          (EMUFILE.le32 0 ++ kDesmumeSaveCookie))))) :=
  List.drop_left' length_footerText

theorem drop_footerVersion :
    (footerBytes size padSize type addr_size mem_size).drop 102 =
      EMUFILE.le32 0 ++ kDesmumeSaveCookie := by
  rw [show 102 = 82 + 20 from rfl,← List.drop_drop,drop_footerText]
  rfl

theorem drop_footerCookie :
    (footerBytes size padSize type addr_size mem_size).drop 106 = kDesmumeSaveCookie := by
  rw [show 106 = 102 + 4 from rfl,← List.drop_drop,drop_footerVersion]
  rfl

theorem read_sizes (mode : FileMode) (bytes : List u8) (position : Nat)
    (size padSize type addr_size mem_size : u32) (rest : List u8)
    (written : bytes.drop position =
      EMUFILE.le32 size ++ (EMUFILE.le32 padSize ++ (EMUFILE.le32 type ++
        (EMUFILE.le32 addr_size ++ (EMUFILE.le32 mem_size ++ rest))))) (old : Info) :
    readSizes { mode := mode, bytes := bytes, pos := position } old =
      ({ mode := mode, bytes := bytes, pos := position + 20 },
        { size := size, padSize := padSize, type := type, addr_size := addr_size,
          mem_size := mem_size }) := by
  have next (start : Nat) (word : u32) (tail : List u8)
      (here : bytes.drop start = EMUFILE.le32 word ++ tail) : bytes.drop (start + 4) = tail := by
    rw [← List.drop_drop,here]
    exact List.drop_left' (EMUFILE.length_le32 word)
  have word (start : Nat) (val before : u32) (tail : List u8)
      (here : bytes.drop start = EMUFILE.le32 val ++ tail) :
      EMUFILE.read32le { mode := mode, bytes := bytes, pos := start } before =
        ({ mode := mode, bytes := bytes, pos := start + 4 }, val) :=
    EMUFILE.read32le_of_written _ before val tail here
  have second := next _ _ _ written
  have third := next _ _ _ second
  have fourth := next _ _ _ third
  have fifth := next _ _ _ fourth
  simp only [readSizes,word _ _ _ _ written,word _ _ _ _ second,word _ _ _ _ third,
    word _ _ _ _ fourth,word _ _ _ _ fifth]

theorem readFooter_footer (mode : FileMode) (bytes : List u8) (position n : Nat)
    (size padSize type addr_size mem_size : u32)
    (length : bytes.length = n + footerLength) (small : n + footerLength < 2 ^ 31)
    (footer : bytes.drop n = footerBytes size padSize type addr_size mem_size) :
    readFooter { mode := mode, bytes := bytes, pos := position } noInfo =
      (0, { mode := mode, bytes := bytes, pos := n + 102 },
        { size := size, padSize := padSize, type := type, addr_size := addr_size,
          mem_size := mem_size }) := by
  have behind (off : Nat) : bytes.drop (n + off) =
      (footerBytes size padSize type addr_size mem_size).drop off := by
    rw [← List.drop_drop,footer]
  have cookieLength := length_saveCookie
  rw [footerLength_eq] at length small
  have long : ¬ (EMUFILE.size { mode := mode, bytes := bytes, pos := position }) <
      BitVec.ofNat 32 footerLength := by
    rw [EMUFILE.size,footerLength_eq,length]
    bv_omega
  have atCookie (start : Nat) :
      EMUFILE.fseek { mode := mode, bytes := bytes, pos := start } (-(16 : Nat)) .SEEK_END =
        { mode := mode, bytes := bytes, pos := n + 106 } := by
    rw [EMUFILE.fseek_end _ 16 (by simp only; omega)]
    congr 1
    simp only
    omega
  have cookie := (behind 106).trans (drop_footerCookie size padSize type addr_size mem_size)
  have version := (behind 102).trans (drop_footerVersion size padSize type addr_size mem_size)
  have words := (behind 82).trans (drop_footerText size padSize type addr_size mem_size)
  have signature : (EMUFILE.fread { mode := mode, bytes := bytes, pos := n + 106 } 16) =
      ({ mode := mode, bytes := bytes, pos := n + 106 + 16 }, kDesmumeSaveCookie) := by
    simp only [EMUFILE.fread,cookie]
    rw [List.take_of_length_le (by rw [cookieLength]),cookieLength]
  have toVersion :
      EMUFILE.fseek { mode := mode, bytes := bytes, pos := n + 106 } (-4) .SEEK_CUR =
        { mode := mode, bytes := bytes, pos := n + 102 } :=
    EMUFILE.fseek_back _ 4 (by simp only; omega)
  have toWords :
      EMUFILE.fseek { mode := mode, bytes := bytes, pos := n + 106 } (-24) .SEEK_CUR =
        { mode := mode, bytes := bytes, pos := n + 82 } :=
    EMUFILE.fseek_back _ 24 (by simp only; omega)
  have versionWord :
      EMUFILE.read32le { mode := mode, bytes := bytes, pos := n + 102 } 0xFFFFFFFF =
        ({ mode := mode, bytes := bytes, pos := n + 106 }, 0) :=
    EMUFILE.read32le_of_written _ _ _ _ version
  unfold readFooter
  rw [if_neg long]
  simp only [cookieLength,atCookie,signature,toVersion,versionWord,toWords,ne_eq,
    not_true_eq_false,if_false,read_sizes mode bytes _ _ _ _ _ _ _ words]

theorem openSave_footer {bytes : List u8} {fsize size padSize type addr_size mem_size : u32}
    (length : bytes.length = fsize.toNat + footerLength)
    (small : fsize.toNat + footerLength < 2 ^ 31)
    (footer : bytes.drop fsize.toNat = footerBytes size padSize type addr_size mem_size) :
    openSave bytes =
      { footer := 0
        fpMC := { mode := .rb_plus, bytes := bytes, pos := fsize.toNat + 102 }
        fsize := fsize
        info :=
          { size := size, padSize := padSize, type := type, addr_size := addr_size,
            mem_size := mem_size } } := by
  have found (position : Nat) :=
    readFooter_footer .rb_plus bytes position fsize.toNat _ _ _ _ _ length small footer
  have fileSize (position : Nat) :
      EMUFILE.size { mode := .rb_plus, bytes := bytes, pos := position } -
        BitVec.ofNat 32 footerLength = fsize := by
    rw [EMUFILE.size,length,BitVec.ofNat_add,BitVec.add_sub_cancel,BitVec.ofNat_toNat,
      BitVec.setWidth_eq]
  have start :
      (if EMUFILE.size { mode := .rb_plus, bytes := bytes, pos := 0 } < 0x200 then
        EMUFILE.truncate { mode := .rb_plus, bytes := bytes, pos := 0 } 0
      else { mode := .rb_plus, bytes := bytes, pos := 0 }) =
        { mode := .rb_plus, bytes := bytes, pos := 0 } := by
    split <;> rfl
  unfold openSave
  simp only [start,found,fileSize,if_true]

variable {device : BackupDevice}

def Kept (device : BackupDevice) : Prop := Blank device ∨ Sound device

def fileView (device : BackupDevice) : List u8 × u32 × Info × u32 :=
  (device.fpMC.bytes, device.fsize, device.info, device.addr_size)

variable {before after : BackupDevice}

theorem fileView_eq (same : fileView after = fileView before) :
    after.fpMC.bytes = before.fpMC.bytes ∧ after.fsize = before.fsize ∧
      after.info = before.info ∧ after.addr_size = before.addr_size := by
  simpa only [fileView,Prod.mk.injEq] using same

theorem Sound.congr (sound : Sound before)
    (same : fileView after = fileView before) : Sound after := by
  obtain ⟨bytes,fsize,info,width⟩ := fileView_eq same
  exact
    { length := by rw [bytes,fsize]; exact sound.length
      footer := by rw [bytes,fsize,info,width]; exact sound.footer
      padded := by rw [info,fsize]; exact sound.padded
      small := by rw [fsize]; exact sound.small }

theorem Blank.congr (blank : Blank before)
    (bytes : after.fpMC.bytes = before.fpMC.bytes) (fsize : after.fsize = before.fsize) :
    Blank after :=
  ⟨bytes.trans blank.bytes,fsize.trans blank.fsize⟩

theorem Kept.congr {before after : BackupDevice} (kept : Kept before)
    (same : fileView after = fileView before) : Kept after := by
  obtain ⟨bytes,fsize,_,_⟩ := fileView_eq same
  rcases kept with blank | sound
  · exact Or.inl (blank.congr bytes fsize)
  · exact Or.inr (sound.congr same)

theorem Kept.covered (kept : Kept device) : device.Covered := by
  rcases kept with blank | sound
  · constructor
    · rw [blank.fsize]
      exact Nat.zero_le _
    · rw [blank.fsize]
      decide
  · have length := sound.length
    have small := sound.small
    constructor <;> omega

theorem Kept.length_le (kept : Kept device) :
    device.fpMC.bytes.length ≤ device.fsize.toNat + footerLength := by
  rcases kept with blank | sound
  · rw [blank.bytes]
    exact Nat.zero_le _
  · exact sound.length.le

theorem sound_grow {addr : u32} (covered : device.Covered)
    (enough : device.fsize.toNat ≤ addr.toNat)
    (covers : device.fpMC.bytes.length ≤ (pad_up_size addr).toNat + footerLength)
    (small : addr.toNat + footerLength < 2 ^ 31) (val : u8) : Sound (device.grow addr val) := by
  have padded := le_pad_up_size addr
  have limit := pad_up_size_le addr
  have length := length_growth device addr val
  have written :
      (device.grow addr val).fpMC.bytes =
        device.fpMC.bytes.take device.fsize.toNat ++ device.growth addr val := by
    rw [bytes_grow covered enough,overwrite_of_reach 0 _ _ _ covered.inside (by omega)]
  have inside := covered.inside
  constructor
  · constructor
    · rw [length_bytes_grow covered enough,fsize_grow]
      omega
    · refine ⟨addr,pad_up_size addr,?_⟩
      have front :
          (device.fpMC.bytes.take device.fsize.toNat ++
            List.replicate ((pad_up_size addr).toNat - device.fsize.toNat) val).length =
            (pad_up_size addr).toNat := by
        rw [List.length_append,List.length_take,List.length_replicate]
        omega
      rw [written,growth,← List.append_assoc,fsize_grow,List.drop_left' front]
      rfl
  · rfl
  · rw [fsize_grow]
    have footer := footerLength_eq
    omega

theorem Sound.write (sound : Sound device) (val : u8)
    (inData : device.isMovieMode = false → device.fpMC.pos < device.fsize.toNat) :
    Sound (device.write val) := by
  unfold BackupDevice.write
  cases movie : device.isMovieMode with
  | true => exact sound
  | false =>
      have inside := inData movie
      have length := sound.length
      have reach := length_overwrite 0 device.fpMC.bytes [val] device.fpMC.pos
      rw [List.length_singleton] at reach
      rw [if_neg Bool.false_ne_true,EMUFILE.fwrite_of_inside _ _ (by omega)]
      exact
        { length := by
            simp only
            omega
          footer := by
            obtain ⟨size,mem_size,footer⟩ := sound.footer
            refine ⟨size,mem_size,?_⟩
            simp only
            rw [drop_overwrite_behind _ _ _ _ _ (by rw [List.length_singleton]; omega)]
            exact footer
          padded := sound.padded
          small := sound.small }

/-- The data size fits below 2 GiB, and the new footer goes behind the old one. -/
structure StoreFits (fsize : u32) (data : List u8) : Prop where
  small : data.length + footerLength < 2 ^ 31
  covers : fsize.toNat ≤ (pad_up_size (BitVec.ofNat 32 data.length)).toNat

theorem store_eq (device : BackupDevice) (fp : EMUFILE) (data : List u8) :
    device.store fp data =
      (device.placed fp data).grow (BitVec.ofNat 32 data.length) device.uninitializedValue := by
  unfold store ensure ensureReal
  rw [if_neg (fun early => Bool.false_ne_true early.1.symm)]
  rfl

theorem placed_spec (device : BackupDevice) (fp : EMUFILE) (data : List u8) (start : fp.pos = 0)
    (small : data.length + footerLength < 2 ^ 31) :
    (device.placed fp data).Covered ∧
      (device.placed fp data).fpMC.bytes.length = max fp.bytes.length data.length ∧
      (BitVec.ofNat 32 data.length).toNat = data.length := by
  have size : (BitVec.ofNat 32 data.length).toNat = data.length := by
    rw [BitVec.toNat_ofNat,Nat.mod_eq_of_lt (by omega)]
  have written : (fp.fwrite data).bytes.length = max fp.bytes.length data.length := by
    rw [EMUFILE.fwrite_of_inside _ _ (by rw [start]; exact Nat.zero_le _)]
    simp only
    rw [length_overwrite,start,Nat.zero_add]
  refine ⟨⟨?_,?_⟩,written,size⟩
  · change (BitVec.ofNat 32 data.length).toNat ≤ (fp.fwrite data).bytes.length
    omega
  · change (BitVec.ofNat 32 data.length).toNat < 2 ^ 31
    omega

theorem sound_store (device : BackupDevice) (fp : EMUFILE) (data : List u8) (start : fp.pos = 0)
    (small : data.length + footerLength < 2 ^ 31) (covers : fp.bytes.length ≤
      (pad_up_size (BitVec.ofNat 32 data.length)).toNat + footerLength) :
    Sound (device.store fp data) := by
  obtain ⟨covered,length,size⟩ := placed_spec device fp data start small
  have padded := le_pad_up_size (BitVec.ofNat 32 data.length)
  rw [store_eq]
  apply sound_grow covered
  · exact le_rfl
  · omega
  · omega

/-! ### When a step keeps the footer -/

structure DataPhase (device : BackupDevice) : Prop where
  running : device.state = .RUNNING
  moving : device.com = BM_CMD_WRITELOW ∨ device.com = BM_CMD_READLOW
  counted : ¬ device.addr_counter < device.addr_size

structure Detects (device : BackupDevice) : Prop where
  detecting : device.state = .DETECTING
  moving : device.com = BM_CMD_WRITELOW ∨ device.com = BM_CMD_READLOW
  announced : device.reset_command_state = true

def nextAddress (device : BackupDevice) : Nat :=
  dataAddress device.addr_size device.addr.toNat 0

/-- Growth for the data byte stays below 2 GiB, and a byte that is written finds
the file position inside the data. -/
structure DataFits (device : BackupDevice) : Prop where
  below : device.fsize.toNat ≤ nextAddress device + 1 →
    nextAddress device + 1 + footerLength < 2 ^ 31
  inData : device.com = BM_CMD_WRITELOW → device.write_enable = true →
    device.isMovieMode = false →
    device.addr_size = 1 ∨ device.fsize.toNat ≤ nextAddress device + 1 ∨
      device.fpMC.pos < device.fsize.toNat

/-- The condition on an operation and the state it starts in. -/
def Fits (device : BackupDevice) : SaveOp → Prop
  | .data_command _ =>
      (Detects device → device.fpMC.bytes = [] ∨
        detectedAddrSize gameCode (BitVec.ofNat 32 (device.data_autodetect.length + 1)) =
          device.addr_size) ∧
      (DataPhase device → DataFits device)
  | .reset_command => True
  | .ensure addr => device.fsize ≤ addr → addr.toNat + footerLength < 2 ^ 31
  | .load_state saved => StoreFits device.fsize saved.data
  | .saveBuffer data truncate =>
      (truncate = true ∧ device.fpMC.mode ≠ .rb_plus ∧ data.length + footerLength < 2 ^ 31) ∨
        StoreFits device.fsize data

theorem fileView_wrapAddress (device : BackupDevice) :
    fileView device.wrapAddress = fileView device := by
  unfold wrapAddress
  split
  · simp only [fileView,EMUFILE.bytes_fseek]
  · rfl

theorem wrapAddress_address (device : BackupDevice) :
    device.wrapAddress.addr.toNat = nextAddress device ∧
      (device.addr_size = 1 → device.wrapAddress.fpMC.pos = nextAddress device) ∧
      (device.addr_size ≠ 1 → device.wrapAddress.fpMC.pos = device.fpMC.pos) := by
  unfold wrapAddress nextAddress dataAddress
  by_cases single : device.addr_size = 1
  · have masked := toNat_wrap device.addr
    rw [if_pos single,if_pos single,EMUFILE.fseek_set _ _ (by omega)]
    exact ⟨masked,fun _ => masked, fun plain => absurd single plain⟩
  · rw [if_neg single,if_neg single]
    exact ⟨rfl,fun same => absurd same single, fun _ => rfl⟩

theorem Kept.grow (kept : Kept device) {addr : u32}
    (enough : device.fsize.toNat ≤ addr.toNat) (small : addr.toNat + footerLength < 2 ^ 31) :
    Sound (device.grow addr device.uninitializedValue) := by
  have padded := le_pad_up_size addr
  have length := kept.length_le
  exact sound_grow kept.covered enough (by omega) small _

theorem Kept.prepared (kept : Kept device) (fits : DataFits device) :
    Sound device.prepared ∧
      (device.com = BM_CMD_WRITELOW → device.write_enable = true →
        device.isMovieMode = false →
        device.prepared.fpMC.pos < device.prepared.fsize.toNat) := by
  obtain ⟨addr,single,plain⟩ := wrapAddress_address device
  have same := fileView_wrapAddress device
  obtain ⟨_,sameSize,_,_⟩ := fileView_eq same
  have wrapped : Kept device.wrapAddress := kept.congr same
  have bound := device.fsize.isLt
  unfold BackupDevice.prepared ensure ensureReal
  by_cases growing : device.fsize.toNat ≤ nextAddress device + 1
  · have below := fits.below growing
    have next : (device.wrapAddress.addr + 1).toNat = nextAddress device + 1 := by bv_omega
    have padded := le_pad_up_size (device.wrapAddress.addr + 1)
    have early : ¬ device.wrapAddress.addr + 1 < device.wrapAddress.fsize := by
      rw [sameSize]
      bv_omega
    have enough : device.wrapAddress.fsize.toNat ≤ (device.wrapAddress.addr + 1).toNat := by
      rw [sameSize,next]
      exact growing
    rw [if_neg (by simpa using early)]
    refine ⟨wrapped.grow enough (by omega),fun _ _ _ => ?_⟩
    rw [pos_grow wrapped.covered enough (by omega) (by omega),fsize_grow]
    omega
  · have next : (device.wrapAddress.addr + 1).toNat = nextAddress device + 1 := by bv_omega
    have early : device.wrapAddress.addr + 1 < device.wrapAddress.fsize := by
      rw [sameSize]
      bv_omega
    rw [if_pos ⟨rfl,early⟩]
    constructor
    · rcases wrapped with blank | sound
      · rw [blank.fsize] at early
        exact absurd early BitVec.not_lt_zero
      · exact sound
    · intro writing enabled notMovie
      rw [sameSize]
      by_cases one : device.addr_size = 1
      · rw [single one]
        omega
      · rw [plain one]
        rcases fits.inData writing enabled notMovie with width | large | inside
        · exact absurd width one
        · exact absurd large growing
        · exact inside

theorem fileView_read (device : BackupDevice) :
    fileView device.read.1 = fileView device := rfl

theorem fileView_addr (device : BackupDevice) (addr : u32) :
    fileView { device with addr := addr } = fileView device := rfl

theorem sound_dataByte (kept : Kept device) (phase : DataPhase device)
    (fits : DataFits device) (val : u8) : Sound (device.dataByte val).1 := by
  obtain ⟨sound,inside⟩ := kept.prepared fits
  have setup := setup_prepared device
  have accessed : Sound (device.prepared.access val).1 := by
    unfold access
    split
    · exact sound.congr (fileView_read device.prepared)
    · next notReading =>
        split
        · next enabled =>
            have sameCom : device.prepared.com = device.com := com_of_setup setup
            have writing : device.com = BM_CMD_WRITELOW := by
              rcases phase.moving with write | read
              · exact write
              · exact absurd (sameCom.trans read) notReading
            exact sound.write val fun notMovie => inside writing
              ((write_enable_of_setup setup).symm.trans enabled)
              ((isMovieMode_of_setup setup).symm.trans notMovie)
        · exact sound
  rw [dataByte_eq]
  exact accessed.congr (fileView_addr _ _)

theorem fileView_checkReset (device : BackupDevice) :
    fileView device.checkReset = fileView device := by
  unfold checkReset
  split <;> rfl

theorem fileView_newCommand (device : BackupDevice) (val : u8) :
    fileView (device.newCommand val).1 = fileView device := by
  unfold newCommand
  simp only
  split_ifs <;> rfl

theorem fileView_addressByte (device : BackupDevice) (val : u8) :
    fileView (device.addressByte val) = fileView device := by
  unfold addressByte fileView
  simp only
  split
  · rw [EMUFILE.bytes_fseek]
  · rfl

theorem Kept.detect (kept : Kept device) (gameCode : List Char)
    (val : u8) (detecting : device.state = .DETECTING)
    (same : device.reset_command_state = true → device.fpMC.bytes = [] ∨
      detectedAddrSize gameCode (BitVec.ofNat 32 (device.data_autodetect.length + 1)) =
        device.addr_size) :
    Kept (BackupDevice.detect gameCode
      { device with data_autodetect := device.data_autodetect ++ [val] }) := by
  have pushed : (device.data_autodetect ++ [val]).length = device.data_autodetect.length + 1 := by
    rw [List.length_append,List.length_singleton]
  unfold BackupDevice.detect
  split
  · exact kept.congr rfl
  · next announced =>
      rw [if_pos ⟨detecting,by rw [pushed]; exact Nat.succ_pos _⟩]
      simp only [pushed]
      rcases same (by simpa using announced) with empty | width
      · rcases kept with blank | sound
        · exact Or.inl (blank.congr rfl rfl)
        · have length := sound.length
          have footer := footerLength_eq
          rw [empty,List.length_nil] at length
          omega
      · exact kept.congr (by simp only [fileView,width])

theorem Kept.data_command (kept : Kept device) (gameCode : List Char)
    (val : u8) (fits : Fits gameCode device (.data_command val)) :
    Kept (device.data_command gameCode val).1 := by
  have handled : Kept (handleByte gameCode device val).1 := by
    unfold handleByte
    split
    · exact kept.congr rfl
    · split
      · next moving =>
          unfold memoryByte
          split
          · next detecting =>
              exact kept.detect gameCode val detecting fun announced =>
                fits.1 ⟨detecting,moving,announced⟩
          · next running =>
              split
              · exact kept.congr (fileView_addressByte device val)
              · next counted =>
                  have phase : DataPhase device :=
                    { running := by
                        cases st : device.state with
                        | DETECTING => exact absurd st running
                        | RUNNING => rfl
                      moving := moving
                      counted := counted }
                  exact Or.inr (sound_dataByte kept phase (fits.2 phase) val)
      · split
        · exact kept
        · split
          · exact kept
          · split
            · exact kept
            · exact kept.congr (fileView_newCommand device val)
  exact handled.congr (fileView_checkReset _)

variable (fp : EMUFILE)

theorem fseek_zero : fp.fseek 0 .SEEK_SET = { fp with pos := 0 } :=
  EMUFILE.fseek_set fp 0 (by decide)

theorem pos_rewind (truncate : Bool) : (rewind fp truncate).pos = 0 := by
  unfold rewind EMUFILE.truncate
  rw [fseek_zero]
  split
  · split
    · rfl
    · rfl
    · exact Nat.min_zero _
  · rfl

theorem length_rewind_le (truncate : Bool) :
    (rewind fp truncate).bytes.length ≤ fp.bytes.length := by
  unfold rewind EMUFILE.truncate
  rw [fseek_zero]
  split
  · split
    · exact le_rfl
    · exact Nat.zero_le _
    · exact Nat.zero_le _
  · exact le_rfl

theorem bytes_rewind_truncated (mode : fp.mode ≠ .rb_plus) : (rewind fp true).bytes = [] := by
  unfold rewind EMUFILE.truncate
  rw [if_pos rfl,EMUFILE.mode_fseek]
  split
  · next disk => exact absurd disk mode
  · rfl
  · rfl

theorem kept_step (gameCode : List Char) (device : BackupDevice) (op : SaveOp)
    (kept : Kept device) (fits : Fits gameCode device op) : Kept (saveStep gameCode device op) := by
  have length := kept.length_le
  cases op with
  | data_command val => exact kept.data_command gameCode val fits
  | reset_command => exact kept.congr rfl
  | ensure addr =>
      change Kept (device.ensure addr false)
      unfold ensure ensureReal
      split
      · exact kept
      · next early =>
          have enough : device.fsize ≤ addr := by
            have notBelow : ¬ addr < device.fsize := by simpa using early
            bv_omega
          exact Or.inr (kept.grow enough (fits enough))
  | load_state saved =>
      have covers := fits.covers
      have stored : Sound ((device.restored saved).store
          ((device.restored saved).fpMC.fseek 0 .SEEK_SET) saved.data) := by
        rw [fseek_zero]
        apply sound_store _ _ _ rfl fits.small
        change device.fpMC.bytes.length ≤ _
        omega
      refine Or.inr (stored.congr ?_)
      simp only [saveStep,load_state,fileView,EMUFILE.bytes_fseek]
  | saveBuffer data truncate =>
      have shorter := length_rewind_le device.fpMC truncate
      rcases fits with ⟨truncates,mode,small⟩ | fits
      · refine Or.inr (sound_store _ _ _ (pos_rewind _ _) small ?_)
        rw [truncates,bytes_rewind_truncated _ mode]
        exact Nat.zero_le _
      · have covers := fits.covers
        exact Or.inr (sound_store _ _ _ (pos_rewind _ _) fits.small (by omega))

/-! ### Runs -/

theorem sound_zeroSave (size : u32) (small : size.toNat + footerLength < 2 ^ 31) :
    Sound (zeroSave size) :=
  { length := by
      change (List.replicate size.toNat 0 ++ footerBytes size size 0 3 size).length = _
      rw [List.length_append,List.length_replicate,length_footerBytes]
      rfl
    footer := ⟨size,size,List.drop_left' List.length_replicate⟩
    padded := rfl
    small := small }

end Desmume.Backup
