/-
When a running backup device has an address width it can use.

With a width of 1, 2 or 3 an address phase has at least one byte and comes to an
end.
-/

import Desmume.Backup.Setup

namespace Desmume.Backup

open BackupDevice

variable (size : u32)

def UsableSize : Prop := size = 1 ∨ size = 2 ∨ size = 3

instance (size : u32) : Decidable (UsableSize size) :=
  inferInstanceAs (Decidable (size = 1 ∨ size = 2 ∨ size = 3))

def Usable (device : BackupDevice) : Prop :=
  device.state = .RUNNING → UsableSize device.addr_size

/-- The sizes `addr_size_for_old_save_size` knows. There is no 32 Mbit. -/
def supportedSizes : List u32 :=
  [0x200,0x2000,0x8000,0x10000,0x20000,0x40000,0x80000,0x100000,0x200000,0x800000]

theorem usable_old_save_size_iff :
    UsableSize (addr_size_for_old_save_size size) ↔ size ∈ supportedSizes := by
  unfold addr_size_for_old_save_size
  split
  · next small => exact iff_of_true (Or.inl rfl) (by rw [small]; decide)
  · next notSmall =>
      split
      · next medium =>
          refine iff_of_true (Or.inr (Or.inl rfl)) ?_
          rcases medium with rfl | rfl | rfl <;> decide
      · next notMedium =>
          split
          · next large =>
              refine iff_of_true (Or.inr (Or.inr rfl)) ?_
              rcases large with rfl | rfl | rfl | rfl | rfl | rfl <;> decide
          · next notLarge =>
              refine iff_of_false (by decide) ?_
              intro found
              simp only [supportedSizes,List.mem_cons,List.not_mem_nil,or_false] at found
              tauto

theorem addr_size_of_type (i : Fin 14) (selected : i ≠ 0) :
    addr_size_for_old_save_type (saveType i).media_type = (saveType i).addr_size ∧
      UsableSize (saveType i).addr_size := by
  revert i
  decide

theorem searchFileSaveType_ne_iff : searchFileSaveType size ≠ 0xFF ↔ size ∈ save_type_sizes := by
  unfold searchFileSaveType
  cases found : save_type_sizes.findIdx? (fun entry => size == entry) with
  | none =>
      rw [List.findIdx?_eq_none_iff] at found
      refine iff_of_false (fun other => other rfl) ?_
      intro member
      simpa using found size member
  | some i =>
      obtain ⟨inside,same,-⟩ := List.findIdx?_eq_some_iff_getElem.mp found
      have bound : save_type_sizes.length = 12 := rfl
      refine iff_of_true ?_ ?_
      · intro overflow
        have val := congrArg BitVec.toNat overflow
        rw [BitVec.toNat_ofNat] at val
        change i % 2 ^ 32 = 255 at val
        omega
      · rw [beq_iff_eq] at same
        rw [same]
        exact List.getElem_mem inside

theorem searchFileSaveType_lt {size : u32} (found : searchFileSaveType size ≠ 0xFF) :
    (searchFileSaveType size).toNat + 1 < 14 := by
  unfold searchFileSaveType at found ⊢
  cases i : save_type_sizes.findIdx? (fun entry => size == entry) with
  | none =>
      rw [i] at found
      exact absurd rfl found
  | some place =>
      obtain ⟨inside,-,-⟩ := List.findIdx?_eq_some_iff_getElem.mp i
      have bound : save_type_sizes.length = 12 := rfl
      rw [BitVec.toNat_ofNat]
      omega

namespace BackupDevice

def width (device : BackupDevice) : u32 × DeviceState := (device.addr_size, device.state)

theorem width_of_setup {before after : BackupDevice} (same : after.setup = before.setup) :
    after.width = before.width :=
  Prod.ext (addr_size_of_setup same) (state_of_setup same)

variable (device : BackupDevice)

theorem width_ensure (addr : u32) (fpOut : Bool) :
    (device.ensure addr fpOut).width = device.width :=
  width_of_setup (setup_ensure device addr fpOut)

theorem width_saveBuffer (data : List u8) (truncate : Bool) :
    (device.saveBuffer data truncate).width = device.width :=
  width_ensure _ _ _

theorem ensure_info_addr_size (addr : u32) (fpOut : Bool) :
    (device.ensure addr fpOut).info.addr_size = device.info.addr_size := by
  unfold ensure ensureReal
  split <;> rfl

theorem width_dataByte (val : u8) : (device.dataByte val).1.width = device.width :=
  width_of_setup (setup_dataByte device val)

theorem width_newCommand (val : u8) : (device.newCommand val).1.width = device.width := by
  unfold newCommand
  simp only
  split_ifs <;> rfl

theorem width_checkReset : device.checkReset.width = device.width := by
  unfold checkReset
  split <;> rfl

end BackupDevice

theorem usable_congr {before after : BackupDevice} (same : after.width = before.width) :
    Usable after ↔ Usable before := by
  obtain ⟨size,st⟩ := Prod.mk.inj same
  unfold Usable
  rw [size,st]

def EndsDetection (device : BackupDevice) : Prop :=
  (device.com = BM_CMD_WRITELOW ∨ device.com = BM_CMD_READLOW) ∧ device.state = .DETECTING ∧
    device.reset_command_state = true

instance (device : BackupDevice) : Decidable (EndsDetection device) := by
  unfold EndsDetection
  infer_instance

/-- The number of bytes, counted in 32 bits, is a multiple of four above four,
and the game is not the exception the source makes. -/
def DetectsZero (gameCode : List Char) (n : u32) : Prop :=
  4 < n ∧ n &&& 3 = 0 ∧ gameCode.take 3 ≠ ['B','D','E']

variable (gameCode : List Char)

theorem usable_detectedAddrSize_iff (n : u32) :
    UsableSize (detectedAddrSize gameCode n) ↔ ¬DetectsZero gameCode n := by
  have few (small : n.toNat ≤ 4) : ¬DetectsZero gameCode n := by
    intro zero
    have large := zero.1
    bv_omega
  simp only [detectedAddrSize]
  split
  · next first =>
      refine iff_of_true (Or.inl rfl) (few ?_)
      rcases first with rfl | rfl <;> decide
  · split
    · next two =>
        refine iff_of_true (Or.inl rfl) (few ?_)
        rw [two]
        decide
    · split
      · next three =>
          refine iff_of_true ?_ (few (by rw [three]; decide))
          split
          · exact Or.inl rfl
          · exact Or.inr (Or.inl rfl)
      · split
        · next four =>
            refine iff_of_true ?_ (few (by rw [four]; decide))
            split
            · exact Or.inr (Or.inl rfl)
            · exact Or.inr (Or.inr rfl)
        · next notFour =>
            have large : 4 < n := by bv_omega
            split
            · next exception =>
                exact iff_of_true (Or.inr (Or.inl rfl)) (fun zero => zero.2.2 exception)
            · next ordinary =>
                have low : (n &&& 3).toNat < 4 := by
                  rw [BitVec.toNat_and]
                  exact Nat.lt_of_le_of_lt Nat.and_le_right (by decide)
                constructor
                · intro usable zero
                  rw [zero.2.1] at usable
                  exact absurd usable (by decide)
                · intro nonzero
                  have some : n &&& 3 ≠ 0 := fun zero => nonzero ⟨large,zero,ordinary⟩
                  unfold UsableSize
                  bv_omega

theorem width_data_command (device : BackupDevice) (val : u8) :
    (device.data_command gameCode val).1.width =
      if EndsDetection device then
        (detectedAddrSize gameCode (BitVec.ofNat 32 (device.data_autodetect.length + 1)), .RUNNING)
      else device.width := by
  refine (width_checkReset _).trans ?_
  unfold handleByte
  split
  · next status =>
      rw [if_neg]
      · rfl
      · rintro ⟨moving,-,-⟩
        rw [status] at moving
        exact absurd moving (by decide)
  · split
    · next moving =>
        unfold memoryByte
        split
        · next detecting =>
            unfold detect
            by_cases announced : device.reset_command_state = true
            · have ends : EndsDetection device := ⟨moving,detecting,announced⟩
              rw [if_pos ends,if_neg (by simp [announced]),if_pos ⟨detecting,by simp⟩]
              simp only [width,List.length_append,List.length_singleton]
            · have continues : ¬EndsDetection device := fun ends => announced ends.2.2
              rw [if_neg continues,if_pos (by simpa using announced)]
              rfl
        · next running =>
            have elsewhere : ¬EndsDetection device := fun ends => running ends.2.1
            rw [if_neg elsewhere]
            split
            · rfl
            · exact width_dataByte device val
    · next other =>
        have elsewhere : ¬EndsDetection device := fun ends => other ends.1
        rw [if_neg elsewhere]
        split
        · rfl
        · split
          · rfl
          · split
            · rfl
            · exact width_newCommand device val

variable (manualBackupType : Fin 14)

theorem usable_reset_iff (device : BackupDevice) :
    Usable (reset manualBackupType device) ↔ Usable device := by
  simp only [reset]
  split
  · next selected =>
      obtain ⟨detecting,chosen⟩ := selected
      have matching := addr_size_of_type manualBackupType chosen
      refine iff_of_true ?_ ?_
      · intro _
        change UsableSize (addr_size_for_old_save_type _)
        rw [matching.1]
        exact matching.2
      · intro running
        exact DeviceState.noConfusion (detecting.symm.trans running)
  · exact Iff.rfl

theorem usable_force_iff (device : BackupDevice) :
    Usable (forceManualBackupType manualBackupType device) ↔
      (saveType manualBackupType).size ∈ supportedSizes := by
  rw [← usable_old_save_size_iff]
  constructor
  · intro usable
    exact usable rfl
  · intro usable _
    exact usable

def SettingsFit (manualBackupType : Fin 14) (size : u32) (manual : Bool) : Prop :=
  manualBackupType ≠ 0 ∨ if manual then size ∈ save_type_sizes else size ∈ supportedSizes

theorem usable_raw_applyUserSettings_iff (device : BackupDevice) (size : u32) (manual : Bool) :
    Usable (raw_applyUserSettings manualBackupType device size manual).1 ↔
      SettingsFit manualBackupType size manual := by
  simp only [raw_applyUserSettings]
  split
  · next automatic =>
      obtain ⟨none,rfl⟩ := automatic
      have same : ({ device with
          addr_size := addr_size_for_old_save_size size }.ensure size false).addr_size =
            addr_size_for_old_save_size size := congrArg Prod.fst (width_ensure _ size false)
      unfold Usable
      rw [same,usable_old_save_size_iff]
      simp [SettingsFit,none]
  · next settled =>
      have selected : manual = true ∨ manualBackupType ≠ 0 := by
        rcases Classical.not_and_iff_not_or_not.mp settled with other | yes
        · exact Or.inr other
        · exact Or.inl (by simpa using yes)
      split
      · next listed =>
          obtain ⟨rfl,found⟩ := listed
          have bound := searchFileSaveType_lt found
          have matching := addr_size_of_type ⟨(searchFileSaveType size).toNat + 1,bound⟩
            (Fin.ne_of_val_ne (Nat.succ_ne_zero _))
          refine iff_of_true ?_ (Or.inr ((searchFileSaveType_ne_iff size).mp found))
          intro _
          change UsableSize (addr_size_for_old_save_type _)
          rw [matching.1]
          exact matching.2
      · next unlisted =>
          by_cases chosen : manualBackupType = 0
          · have forced := selected.resolve_right (fun other => other chosen)
            have missing : ¬size ∈ save_type_sizes := by
              rw [← searchFileSaveType_ne_iff]
              exact fun found => unlisted ⟨forced,found⟩
            refine iff_of_false ?_ ?_
            · intro usable
              have unknown : UsableSize (addr_size_for_old_save_type (saveType 0).media_type) := by
                rw [chosen] at usable
                exact usable rfl
              exact absurd unknown (by decide)
            · simp [SettingsFit,chosen,forced,missing]
          · have matching := addr_size_of_type manualBackupType chosen
            refine iff_of_true ?_ (Or.inl chosen)
            intro _
            change UsableSize (addr_size_for_old_save_type _)
            rw [matching.1]
            exact matching.2

theorem width_import_raw (device : BackupDevice) (file : List u8) (force_size : u32) :
    (import_raw manualBackupType device file force_size).width =
      (raw_applyUserSettings manualBackupType device (importSize file force_size)
        (decide (force_size > 0))).1.width := by
  simp only [import_raw]
  generalize raw_applyUserSettings manualBackupType device (importSize file force_size)
    (decide (force_size > 0)) = applied
  generalize (applied.2 - if force_size > 0 ∧ BitVec.ofNat 32 file.length < force_size then
    force_size - BitVec.ofNat 32 file.length else 0) = sz
  split
  · exact width_saveBuffer _ _ _
  · rfl

variable (setup : GameSetup)

def startSize : u32 :=
  let opened := (openFile (openedFile setup)).fsize
  if setup.autodetectBackupMethod = 1 then
    match setup.advsc with
    | some type => if type ≠ 0xFF ∧ type ≠ 0xFE then (saveType (type.toNat + 1)).size else opened
    | none => opened
  else opened

def FooterFits : Prop :=
  startSize setup > 0 → UsableSize (openFile (openedFile setup)).info.addr_size

theorem advApply_spec (device : BackupDevice) (type : u8) :
    (device.advApply type).info.addr_size = device.info.addr_size ∧
      (device.advApply type).fsize =
        if type ≠ 0xFF ∧ type ≠ 0xFE then (saveType (type.toNat + 1)).size else device.fsize := by
  unfold advApply
  by_cases known : type ≠ 0xFF ∧ type ≠ 0xFE
  · rw [if_pos known,if_pos known]
    refine ⟨?_,rfl⟩
    simp only
    split
    · exact ensure_info_addr_size _ _ _
    · split
      · exact ensure_info_addr_size _ _ _
      · rfl
  · rw [if_neg known,if_neg known]
    exact ⟨rfl,rfl⟩

theorem advised_spec :
    (advised setup (openedDevice setup)).info.addr_size =
        (openFile (openedFile setup)).info.addr_size ∧
      (advised setup (openedDevice setup)).fsize = startSize setup := by
  simp only [advised,startSize]
  split
  · cases setup.advsc with
    | none => exact ⟨rfl,rfl⟩
    | some type => exact advApply_spec (openedDevice setup) type
  · exact ⟨rfl,rfl⟩

theorem usable_construct_iff : Usable (construct setup) ↔ FooterFits setup := by
  obtain ⟨footer,size⟩ := advised_spec setup
  unfold construct
  rw [usable_reset_iff]
  have running : (described setup (advised setup (openedDevice setup))).state = .RUNNING ↔
      startSize setup > 0 := by
    rw [← size]
    unfold described
    by_cases data : (advised setup (openedDevice setup)).fsize > 0
    · exact iff_of_true (if_pos data) data
    · refine iff_of_false ?_ data
      simp only [if_neg data]
      exact DeviceState.noConfusion
  unfold Usable FooterFits
  rw [running,← footer]
  rfl

structure BackupSystem where
  device : BackupDevice
  manualBackupType : Fin 14

inductive BackupOp
  | reset
  | setManualBackupType (type : Fin 14)
  | forceManualBackupType
  | reset_command
  | data_command (val : u8)
  | import_raw (file : List u8) (force_size : u32)
  | import_no_gba (file : List u8) (force_size : u32)

def backupStep (gameCode : List Char) (system : BackupSystem) : BackupOp → BackupSystem
  | .reset => { system with device := reset system.manualBackupType system.device }
  | .setManualBackupType type => { system with manualBackupType := type }
  | .forceManualBackupType =>
      { system with device := forceManualBackupType system.manualBackupType system.device }
  | .reset_command => { system with device := system.device.reset_command }
  | .data_command val => { system with device := (system.device.data_command gameCode val).1 }
  | .import_raw file force_size =>
      { system with device := import_raw system.manualBackupType system.device file force_size }
  | .import_no_gba file force_size =>
      { system with device := import_no_gba system.manualBackupType system.device file force_size }

def started : BackupSystem :=
  { device := construct setup, manualBackupType := setup.manualBackupType }

def widthCondition (gameCode : List Char) (system : BackupSystem) : BackupOp → Prop
  | .reset => True
  | .setManualBackupType _ => True
  | .forceManualBackupType => (saveType system.manualBackupType).size ∈ supportedSizes
  | .reset_command => True
  | .data_command _ =>
      EndsDetection system.device →
        ¬DetectsZero gameCode (BitVec.ofNat 32 (system.device.data_autodetect.length + 1))
  | .import_raw file force_size =>
      SettingsFit system.manualBackupType (importSize file force_size) (decide (force_size > 0))
  | .import_no_gba file force_size =>
      ∀ out, no_gba_unpackSAV file = .ok out →
        SettingsFit system.manualBackupType (noGbaSize out force_size) (decide (force_size > 0))

theorem usable_step_iff (system : BackupSystem) (op : BackupOp) (usable : Usable system.device) :
    Usable (backupStep gameCode system op).device ↔ widthCondition gameCode system op := by
  cases op with
  | reset => exact iff_of_true ((usable_reset_iff _ _).mpr usable) trivial
  | setManualBackupType type => exact iff_of_true usable trivial
  | forceManualBackupType => exact usable_force_iff _ _
  | reset_command => exact iff_of_true usable trivial
  | data_command val =>
      have width := width_data_command gameCode system.device val
      by_cases ends : EndsDetection system.device
      · rw [if_pos ends] at width
        obtain ⟨size,st⟩ := Prod.mk.inj width
        simp only [backupStep,widthCondition]
        rw [← usable_detectedAddrSize_iff]
        unfold Usable
        rw [size,st]
        exact ⟨fun here _ => here rfl, fun here _ => here ends⟩
      · rw [if_neg ends] at width
        refine iff_of_true ((usable_congr width).mpr usable) ?_
        intro other
        exact absurd other ends
  | import_raw file force_size =>
      have applied := usable_raw_applyUserSettings_iff system.manualBackupType system.device
        (importSize file force_size) (decide (force_size > 0))
      exact (usable_congr (width_import_raw _ _ file force_size)).trans applied
  | import_no_gba file force_size =>
      simp only [backupStep,widthCondition,import_no_gba]
      cases unpacked : no_gba_unpackSAV file with
      | error code =>
          refine iff_of_true usable ?_
          intro out other
          cases other
      | ok out =>
          have applied := usable_raw_applyUserSettings_iff system.manualBackupType system.device
            (noGbaSize out force_size) (decide (force_size > 0))
          refine (usable_congr (width_saveBuffer _ _ _)).trans (applied.trans ?_)
          constructor
          · intro fits other same
            cases same
            exact fits
          · intro fits
            exact fits out rfl

/-- A running device has a usable address width in every state of a run exactly
when the save was opened with one and every step meets its condition. -/
theorem address_width_usable_iff (gameCode : List Char) (setup : GameSetup) (ops : List BackupOp) :
    Run.Always (backupStep gameCode) (fun system => Usable system.device) (started setup) ops ↔
      FooterFits setup ∧
        Run.Guarded (backupStep gameCode) (widthCondition gameCode) (started setup) ops := by
  rw [← usable_construct_iff]
  have kept (system : BackupSystem) (op : BackupOp) (_ : True) : True := trivial
  have exact_step (system : BackupSystem) (op : BackupOp) (_ : True)
      (usable : Usable system.device) := usable_step_iff gameCode system op usable
  constructor
  · intro always
    have initial : Usable (started setup).device := always.head
    exact ⟨initial,(Run.always_iff_guarded kept exact_step trivial initial ops).mp always⟩
  · rintro ⟨initial,guarded⟩
    exact (Run.always_iff_guarded kept exact_step trivial initial ops).mpr guarded

def newGame : GameSetup :=
  { file := none, writable := true, autodetectBackupMethod := 0, advsc := none
    manualBackupType := 0 }

theorem openFile_short {fp : EMUFILE} (mode : fp.mode ≠ .memory) (short : fp.bytes = []) :
    (openFile fp).fsize = 0 := by
  have none (file : EMUFILE) (bytes : file.bytes = []) : (readFooter file noInfo).1 = -1 := by
    unfold readFooter
    rw [if_pos (by rw [EMUFILE.size,bytes,footerLength_eq]; decide)]
  have truncated : (fp.truncate 0).bytes = [] := by
    unfold EMUFILE.truncate
    split
    · exact short
    · rfl
    · next mem => exact absurd mem mode
  have size : fp.size < 0x200 := by
    rw [EMUFILE.size,short]
    decide
  simp only [openFile,if_pos size,none _ truncated]
  rfl

/-- The 32 Mbit FLASH, whose entry has width 3, is selected and forced. -/
theorem forced_width_unusable :
    Usable (started newGame).device ∧
      ¬Usable (Run.final (backupStep []) (started newGame)
        [.setManualBackupType 9,.forceManualBackupType]).device ∧
      (saveType 9).addr_size = 3 := by
  refine ⟨?_,?_,rfl⟩
  · rw [started,usable_construct_iff]
    intro data
    have empty : startSize newGame = 0 :=
      @openFile_short (openedFile newGame) (by decide) rfl
    rw [empty] at data
    exact absurd data (by decide)
  · intro usable
    have listed : (saveType (9 : Fin 14)).size ∈ supportedSizes :=
      (usable_force_iff 9 (construct newGame)).mp usable
    exact absurd listed (by decide)

end Desmume.Backup
