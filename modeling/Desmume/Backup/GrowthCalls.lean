/-
Who calls `ensureReal`, and what the padding amount is at each call.

The amount is an unsigned difference from the size the device has.
-/

import Desmume.Backup.Trim

namespace Desmume.Backup

open BackupDevice

/-- A call of `ensure`, with the device as it is then. -/
structure EnsureCall where
  device : BackupDevice
  addr : u32
  fpOut : Bool

namespace EnsureCall

def result (call : EnsureCall) : BackupDevice := call.device.ensure call.addr call.fpOut

/-- `ensureReal` returns at once. -/
def Returns (call : EnsureCall) : Prop := call.fpOut = false ∧ call.addr < call.device.fsize

instance (call : EnsureCall) : Decidable call.Returns :=
  inferInstanceAs (Decidable (call.fpOut = false ∧ call.addr < call.device.fsize))

def appended (call : EnsureCall) : Nat :=
  if call.Returns then 0 else (pad_up_size call.addr - call.device.fsize).toNat

/-- The difference does not wrap round, the bytes appended are those missing to
the padded size, and the data holds what was asked for. -/
structure Right (call : EnsureCall) : Prop where
  noWrap : ¬call.Returns → call.device.fsize ≤ pad_up_size call.addr
  padding : call.appended = (pad_up_size call.addr).toNat - call.device.fsize.toNat
  enough : call.addr ≤ call.result.fsize

end EnsureCall

/-- The constructor makes a save of a `.sav`. `fpMC` is the new save here: the
source passes it as `fpOut` and has not opened its own file yet. -/
def BackupDevice.convert (device : BackupDevice) (fpOut : EMUFILE) (buf : List u8) : BackupDevice :=
  let sz := BitVec.ofNat 32 buf.length
  let fp := fpOut.fwrite buf
  let res := searchFileSaveType sz
  if res ≠ 0xFF then
    let addr_size := (saveType (res.toNat + 1)).addr_size
    let device :=
      { device with
        fpMC := fp
        addr_size := addr_size
        fsize := sz
        info := { device.info with type := res + 1, addr_size := addr_size, size := sz } }
    { device.ensure sz true with fsize := 0 }
  else { device with fpMC := fp, info := { device.info with type := 0 } }

def advSize (type : Fin 13) : u32 := (saveType (type.val + 1)).size

inductive Caller
  | converted (device : BackupDevice) (fpOut : EMUFILE) (buf : List u8)
      (found : searchFileSaveType (BitVec.ofNat 32 buf.length) ≠ 0xFF)
  | truncated (device : BackupDevice) (type : Fin 13) (larger : device.info.size > advSize type)
  | extended (device : BackupDevice) (type : Fin 13) (smaller : device.info.size < advSize type)
  | data_command (device : BackupDevice)
  | reset (device : BackupDevice) (manualBackupType : Fin 14) (selected : manualBackupType ≠ 0)
  | load_state (device : BackupDevice) (saved : SavedState)
  | saveBuffer (device : BackupDevice) (data : List u8) (truncate : Bool)
  | raw_applyUserSettings (device : BackupDevice) (size : u32)

namespace Caller

def typed (device : BackupDevice) (type : Fin 13) : BackupDevice :=
  { device with info := { device.info with type := BitVec.ofNat 32 type.val + 1 } }

def call : Caller → EnsureCall
  | converted device fpOut buf _ =>
      let sz := BitVec.ofNat 32 buf.length
      let res := searchFileSaveType sz
      let addr_size := (saveType (res.toNat + 1)).addr_size
      { device :=
          { device with
            fpMC := fpOut.fwrite buf
            addr_size := addr_size
            fsize := sz
            info := { device.info with type := res + 1, addr_size := addr_size, size := sz } }
        addr := sz
        fpOut := true }
  | truncated device type _ =>
      { device :=
          { typed device type with
            info := { (typed device type).info with size := advSize type }
            fpMC := device.fpMC.truncate (advSize type).toNat }
        addr := advSize type
        fpOut := true }
  | extended device type _ =>
      { device :=
          { typed device type with
            info := { (typed device type).info with size := advSize type } }
        addr := advSize type
        fpOut := false }
  | data_command device =>
      { device := device.wrapAddress, addr := device.wrapAddress.addr + 1, fpOut := false }
  | reset device manualBackupType _ =>
      { device := { device.reset_hardware with data_autodetect := [], state := .RUNNING }
        addr := (saveType manualBackupType).size
        fpOut := false }
  | load_state device saved =>
      { device := (device.restored saved).placed
          ((device.restored saved).fpMC.fseek 0 .SEEK_SET) saved.data
        addr := BitVec.ofNat 32 saved.data.length
        fpOut := true }
  | saveBuffer device data truncate =>
      { device := device.placed (rewind device.fpMC truncate) data
        addr := BitVec.ofNat 32 data.length
        fpOut := true }
  | raw_applyUserSettings device size =>
      { device := { device with addr_size := addr_size_for_old_save_size size }
        addr := size
        fpOut := false }

end Caller

variable (device : BackupDevice)

theorem convert_call (fpOut : EMUFILE) (buf : List u8)
    (found : searchFileSaveType (BitVec.ofNat 32 buf.length) ≠ 0xFF) :
    device.convert fpOut buf =
      { (Caller.converted device fpOut buf found).call.result with fsize := 0 } := by
  unfold BackupDevice.convert
  rw [if_pos found]
  rfl

variable (type : Fin 13)

theorem typed_apply :
    (BitVec.ofNat 8 type.val ≠ 0xFF ∧ BitVec.ofNat 8 type.val ≠ 0xFE) ∧
      (BitVec.ofNat 8 type.val).toNat = type.val ∧
        (BitVec.ofNat 8 type.val).setWidth 32 = BitVec.ofNat 32 type.val := by
  revert type
  decide

theorem advApply_truncated (larger : device.info.size > advSize type) :
    device.advApply (BitVec.ofNat 8 type.val) =
      { (Caller.truncated device type larger).call.result with fsize := advSize type } := by
  obtain ⟨known,i,width⟩ := typed_apply type
  unfold advApply
  rw [if_pos known]
  unfold advSize at larger
  simp only [i,width,if_pos larger]
  rfl

theorem advApply_extended (smaller : device.info.size < advSize type) :
    device.advApply (BitVec.ofNat 8 type.val) =
      { (Caller.extended device type smaller).call.result with fsize := advSize type } := by
  obtain ⟨known,i,width⟩ := typed_apply type
  have notLarger : ¬device.info.size > advSize type :=
    BitVec.not_lt.mpr (BitVec.le_of_lt smaller)
  unfold advApply
  rw [if_pos known]
  unfold advSize at smaller notLarger
  simp only [i,width,if_neg notLarger,if_pos smaller]
  rfl

theorem dataByte_call (val : u8) :
    device.dataByte val =
      ({ ((Caller.data_command device).call.result.access val).1 with
          addr := ((Caller.data_command device).call.result.access val).1.addr + 1 },
        ((Caller.data_command device).call.result.access val).2) := rfl

theorem reset_call (manualBackupType : Fin 14)
    (detecting : device.state = .DETECTING) (selected : manualBackupType ≠ 0) :
    device.reset manualBackupType =
      { (Caller.reset device manualBackupType selected).call.result with
        addr_size := addr_size_for_old_save_type (saveType manualBackupType).media_type } := by
  unfold BackupDevice.reset
  exact if_pos ⟨detecting,selected⟩

theorem load_state_call (saved : SavedState) :
    device.load_state saved =
      { (Caller.load_state device saved).call.result with
        fpMC := (Caller.load_state device saved).call.result.fpMC.fseek
          (if 5 ≤ saved.version then saved.savePos
            else (Caller.load_state device saved).call.result.addr).toInt .SEEK_SET } := rfl

theorem saveBuffer_call (data : List u8) (truncate : Bool) :
    device.saveBuffer data truncate = (Caller.saveBuffer device data truncate).call.result := rfl

theorem raw_applyUserSettings_call (size : u32) :
    raw_applyUserSettings 0 device size false =
      ({ (Caller.raw_applyUserSettings device size).call.result with state := .RUNNING }, size) :=
  rfl

theorem EnsureCall.fsize_result (call : EnsureCall) :
    call.result.fsize = if call.Returns then call.device.fsize else pad_up_size call.addr := by
  by_cases returns : call.Returns
  · rw [if_pos returns]
    exact congrArg BackupDevice.fsize (if_pos returns)
  · rw [if_neg returns]
    exact congrArg BackupDevice.fsize (if_neg returns)

theorem EnsureCall.grow_of_going {call : EnsureCall} (going : ¬call.Returns) :
    call.result = call.device.grow call.addr call.device.uninitializedValue ∧
      call.appended = (pad_up_size call.addr - call.device.fsize).toNat :=
  ⟨if_neg going,if_neg going⟩

theorem EnsureCall.right_iff (call : EnsureCall) :
    call.Right ↔
      if call.Returns then pad_up_size call.addr ≤ call.device.fsize
      else call.device.fsize ≤ pad_up_size call.addr := by
  by_cases returns : call.Returns
  · rw [if_pos returns]
    constructor
    · intro right
      have none := right.padding
      rw [EnsureCall.appended,if_pos returns] at none
      rw [BitVec.le_def]
      omega
    · intro nothing
      rw [BitVec.le_def] at nothing
      refine ⟨fun going => absurd returns going, ?_, ?_⟩
      · rw [EnsureCall.appended,if_pos returns]
        omega
      · rw [EnsureCall.fsize_result,if_pos returns]
        exact BitVec.le_of_lt returns.2
  · rw [if_neg returns]
    constructor
    · intro right
      exact right.noWrap returns
    · intro within
      refine ⟨fun _ => within, ?_, ?_⟩
      · rw [EnsureCall.appended,if_neg returns,BitVec.toNat_sub_of_le within]
      · rw [EnsureCall.fsize_result,if_neg returns]
        exact le_pad_up_size call.addr

theorem not_returns_of_file {call : EnsureCall} (file : call.fpOut = true) : ¬call.Returns := by
  rintro ⟨none,-⟩
  rw [file] at none
  cases none

theorem right_of_set {call : EnsureCall} (file : call.fpOut = true)
    (set : call.device.fsize = call.addr) : call.Right := by
  rw [EnsureCall.right_iff,if_neg (not_returns_of_file file),set]
  exact le_pad_up_size call.addr

theorem right_iff_of_no_file {call : EnsureCall} (file : call.fpOut = false) :
    call.Right ↔
      (call.addr < call.device.fsize → pad_up_size call.addr ≤ call.device.fsize) := by
  rw [EnsureCall.right_iff]
  by_cases less : call.addr < call.device.fsize
  · rw [if_pos ⟨file,less⟩]
    exact ⟨fun enough _ => enough, fun enough => enough less⟩
  · rw [if_neg (fun returns => less returns.2)]
    constructor
    · exact fun _ above => absurd above less
    · exact fun _ => BitVec.le_trans (BitVec.not_lt.mp less) (le_pad_up_size call.addr)

theorem pad_up_size_advSize : pad_up_size (advSize type) = advSize type := by
  revert type
  decide

theorem pad_up_size_saveType (manualBackupType : Fin 14) (selected : manualBackupType ≠ 0) :
    pad_up_size (saveType manualBackupType).size = (saveType manualBackupType).size := by
  revert manualBackupType
  decide

theorem truncated_right_iff {device : BackupDevice} {type : Fin 13}
    (larger : device.info.size > advSize type) :
    (Caller.truncated device type larger).call.Right ↔ device.fsize ≤ advSize type := by
  rw [EnsureCall.right_iff,if_neg (not_returns_of_file rfl)]
  change device.fsize ≤ pad_up_size (advSize type) ↔ device.fsize ≤ advSize type
  rw [pad_up_size_advSize]

def Caller.Fits : Caller → Prop
  | .truncated device type _ => device.fsize ≤ advSize type
  | .data_command device =>
      device.wrapAddress.addr + 1 < device.fsize →
        pad_up_size (device.wrapAddress.addr + 1) ≤ device.fsize
  | .raw_applyUserSettings device size =>
      size < device.fsize → pad_up_size size ≤ device.fsize
  | _ => True

theorem fsize_wrapAddress : device.wrapAddress.fsize = device.fsize := by
  unfold wrapAddress
  split
  · rfl
  · rfl

/-- Every call is right exactly when it fits: the constructor does not truncate
a save below the size of its data, and a call that returns does so at a padded
size. -/
theorem growth_never_underflows_iff (caller : Caller) : caller.call.Right ↔ caller.Fits := by
  cases caller with
  | converted device fpOut buf found =>
      exact iff_of_true (right_of_set rfl rfl) trivial
  | truncated device type larger => exact truncated_right_iff larger
  | extended device type smaller =>
      rw [right_iff_of_no_file rfl]
      refine iff_of_true ?_ trivial
      intro less
      change pad_up_size (advSize type) ≤ device.fsize
      rw [pad_up_size_advSize]
      exact BitVec.le_of_lt less
  | data_command device =>
      rw [right_iff_of_no_file rfl]
      change (_ < device.wrapAddress.fsize → _ ≤ device.wrapAddress.fsize) ↔ _
      rw [fsize_wrapAddress]
      exact Iff.rfl
  | reset device manualBackupType selected =>
      rw [right_iff_of_no_file rfl]
      refine iff_of_true ?_ trivial
      intro less
      change pad_up_size (saveType manualBackupType).size ≤ device.fsize
      rw [pad_up_size_saveType manualBackupType selected]
      exact BitVec.le_of_lt less
  | load_state device saved => exact iff_of_true (right_of_set rfl rfl) trivial
  | saveBuffer device data truncate => exact iff_of_true (right_of_set rfl rfl) trivial
  | raw_applyUserSettings device size =>
      rw [right_iff_of_no_file rfl]
      exact Iff.rfl

/-! ### A save larger than the database says -/

/-- A save of this size, for a game with an EEPROM of 4 kbit. -/
def savedGame (size : u32) : GameSetup :=
  { file := some (zeroSave size).fpMC.bytes
    writable := true
    autodetectBackupMethod := 1
    advsc := some 0
    manualBackupType := 0 }

theorem openedDevice_savedGame {size : u32} (small : size.toNat + footerLength < 2 ^ 31) :
    (openedDevice (savedGame size)).fsize = size ∧
      (openedDevice (savedGame size)).info.size = size := by
  have sound := sound_zeroSave size small
  have footer : (zeroSave size).fpMC.bytes.drop size.toNat = footerBytes size size 0 3 size :=
    List.drop_left' List.length_replicate
  have opened := openSave_footer sound.length sound.small footer
  constructor
  · exact congrArg Opened.fsize opened
  · exact congrArg (fun found : Opened => found.info.size) opened

/-- The constructor truncates to 512 bytes and asks for 512 at a size of 8 KiB:
the amount is 512 - 8192. -/
theorem truncated_save_wraps : ¬∀ caller : Caller, caller.call.Right := by
  intro everywhere
  have small : (0x2000 : u32).toNat + footerLength < 2 ^ 31 := by decide
  obtain ⟨fsize,size⟩ := openedDevice_savedGame small
  have larger : (openedDevice (savedGame 0x2000)).info.size > advSize 0 := by
    rw [size]
    decide
  have within := (truncated_right_iff larger).mp (everywhere (.truncated _ 0 larger))
  rw [fsize] at within
  exact absurd within (by decide)

end Desmume.Backup
