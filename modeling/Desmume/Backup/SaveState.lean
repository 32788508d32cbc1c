/-
The backup device in a savestate: `BackupDevice::save_state`, the stream read
back by `load_state`, and what later commands see of it.

Loading stores the data and calls `ensure` with the file, which never returns
early: it pads the size and writes a footer behind it.
-/

import Desmume.Backup.Alike
import Desmume.Savestate.Reader

namespace Desmume.Backup

open Savestate Overwrite BackupDevice

/-- The two bytes of the motion sensor, which nothing else uses. -/
structure Motion where
  motionInitState : u8
  motionFlag : u8
  deriving DecidableEq

def DeviceState.code : DeviceState → u32
  | .DETECTING => 0
  | .RUNNING => 1

def writebool (b : Bool) : List u8 := OSWRITE (if b then 1 else 0 : u32)

def writebuffer (vec : List u8) : List u8 :=
  OSWRITE (BitVec.ofNat 32 vec.length : u32) ++ vec

/-- `readbool`. The word is not initialised. -/
def readbool (uninit : u32) : StateM Stream Bool := do
  let temp ← readWord uninit
  return decide (temp.2 ≠ 0)

/-- `readbuffer`. A short read leaves the rest of the resized vector. -/
def readbuffer (uninit : u32) (vec : List u8) : StateM Stream (List u8) := do
  let size ← readWord uninit
  if size.1 = false then return vec
  else
    let vec := vec.takeD size.2.toNat 0
    fun is =>
      let read := is.fread size.2.toNat
      (read.2 ++ vec.drop read.2.length, read.1)

/-- `if (version >= first)`: the read, or the value that is kept. -/
def since {α : Type} (version first : u32) (program : StateM Stream α) (kept : α) :
    StateM Stream α :=
  if first ≤ version then program else pure kept

namespace BackupDevice

/-- `std::vector<u8> data(fsize)`, with what `fread` puts over its zeros. -/
def savedData (dev : BackupDevice) : List u8 :=
  let read := ((dev.fpMC.fseek 0 .SEEK_SET).fread dev.fsize.toNat).2
  read ++ List.replicate (dev.fsize.toNat - read.length) 0

/-- `fpMC->ftell()`. -/
def savePos (dev : BackupDevice) : u32 := BitVec.ofNat 32 dev.fpMC.pos

/-- The bytes that are written, and the device with its file position put back. -/
def save_state (dev : BackupDevice) (motion : Motion) : List u8 × BackupDevice :=
  (OSWRITE (5 : u32) ++ (writebool dev.write_enable ++ (OSWRITE dev.com ++
    (OSWRITE dev.addr_size ++ (OSWRITE dev.addr_counter ++ (OSWRITE dev.state.code ++
    (writebuffer dev.savedData ++ (writebuffer dev.data_autodetect ++
    (OSWRITE dev.addr ++ (OSWRITE motion.motionInitState ++ (OSWRITE motion.motionFlag ++
    (writebool dev.reset_command_state ++ (OSWRITE dev.write_protect ++
    OSWRITE dev.savePos)))))))))))),
    { dev with
      fpMC := ((dev.fpMC.fseek 0 .SEEK_SET).fread dev.fsize.toNat).1.fseek
        dev.savePos.toInt .SEEK_SET })

/-- The reads of `load_state`: the values for its assignments, or none when there
is no version. -/
def readState (uninit : u32) (dev : BackupDevice) (motion : Motion) :
    StateM Stream (Option (SavedState × Motion)) := do
  let version ← readWord uninit
  if version.1 = false then return none
  else
    let write_enable ← readbool uninit
    let com ← readWord dev.com
    let addr_size ← readWord dev.addr_size
    let addr_counter ← readWord dev.addr_counter
    let state ← readWord uninit
    let data ← readbuffer uninit []
    let data_autodetect ← readbuffer uninit dev.data_autodetect
    let addr ← since version.2 1 (readWord dev.addr) (true, dev.addr)
    let motionInitState ← since version.2 2 (OSREAD motion.motionInitState)
      motion.motionInitState
    let motionFlag ← since version.2 2 (OSREAD motion.motionFlag) motion.motionFlag
    let reset_command_state ← since version.2 3 (readbool uninit) dev.reset_command_state
    let write_protect ← since version.2 4 (OSREAD dev.write_protect) dev.write_protect
    let savePos ← since version.2 5 (readWord uninit) (true, 0)
    return some
      ({ version := version.2
         write_enable := write_enable
         com := com.2
         addr_size := addr_size.2
         addr_counter := addr_counter.2
         state := state.2
         data := data
         data_autodetect := data_autodetect
         addr := addr.2
         reset_command_state := reset_command_state
         write_protect := write_protect
         savePos := savePos.2 },
        ⟨motionInitState,motionFlag⟩)

/-- `load_state` on a stream: the device and the motion bytes it leaves. -/
def loadState (uninit : u32) (dev : BackupDevice) (motion : Motion) (is : Stream) :
    Bool × BackupDevice × Motion :=
  match (dev.readState uninit motion is).1 with
  | none => (false, dev, motion)
  | some (saved, motion) => (true, dev.load_state saved, motion)

/-- What `save_state` puts into the stream. -/
def saved (dev : BackupDevice) : SavedState where
  version := 5
  write_enable := dev.write_enable
  com := dev.com
  addr_size := dev.addr_size
  addr_counter := dev.addr_counter
  state := dev.state.code
  data := dev.savedData
  data_autodetect := dev.data_autodetect
  addr := dev.addr
  reset_command_state := dev.reset_command_state
  write_protect := dev.write_protect
  savePos := dev.savePos

/-- Sizes and position are those of a file below 2 GiB that has all its data. -/
structure Saveable (dev : BackupDevice) : Prop extends dev.Covered where
  room : dev.fsize.toNat + footerLength < 2 ^ 31
  position : dev.fpMC.pos < 2 ^ 31
  autodetect : dev.data_autodetect.length < 2 ^ 32

theorem readWord_word (x word : u32) : Reads (readWord x) (OSWRITE word) (true, word) :=
  readWord_reads x word

theorem readbool_writebool (uninit : u32) (b : Bool) : Reads (readbool uninit) (writebool b) b := by
  unfold readbool writebool
  have reads := (readWord_word uninit (if b then 1 else 0)).bind_pure
    (fun temp => decide (temp.2 ≠ 0))
  cases b with
  | false => exact reads
  | true => exact reads

theorem readbuffer_writebuffer (uninit : u32) (old : List u8) {vec : List u8}
    (fits : vec.length < 2 ^ 32) : Reads (readbuffer uninit old) (writebuffer vec) vec := by
  have size : (BitVec.ofNat 32 vec.length).toNat = vec.length := by
    rw [BitVec.toNat_ofNat,Nat.mod_eq_of_lt fits]
  unfold readbuffer writebuffer
  refine (readWord_word uninit _).bind ?_
  rw [if_neg (by simp),size]
  intro is rest at_
  have none_left : (old.takeD vec.length 0).drop vec.length = [] := by
    rw [List.drop_eq_nil_of_le (List.takeD_length _ _ _).le]
  change ((is.fread vec.length).2 ++ (old.takeD vec.length 0).drop _, _) = _
  rw [at_.fread rfl,none_left,List.append_nil]

theorem length_savedData (dev : BackupDevice) : dev.savedData.length = dev.fsize.toNat := by
  have short : ((dev.fpMC.fseek 0 .SEEK_SET).fread dev.fsize.toNat).2.length ≤
      dev.fsize.toNat := List.length_take_le _ _
  unfold savedData
  rw [List.length_append,List.length_replicate]
  omega

theorem since_reads {α : Type} {version first : u32} {program : StateM Stream α} {kept val : α}
    {bytes : List u8} (recent : first ≤ version) (reads : Reads program bytes val) :
    Reads (since version first program kept) bytes val := by
  unfold since
  rw [if_pos recent]
  exact reads

theorem readState_save_state {dev : BackupDevice}
    (autodetect : dev.data_autodetect.length < 2 ^ 32) (motion : Motion) (uninit : u32)
    (other : BackupDevice) (motion' : Motion) :
    Reads (other.readState uninit motion') (dev.save_state motion).1
      (some (dev.saved, motion)) := by
  have data : dev.savedData.length < 2 ^ 32 := by
    rw [length_savedData]
    exact dev.fsize.isLt
  unfold readState save_state
  refine (readWord_word _ _).bind ?_
  rw [if_neg (by simp)]
  refine (readbool_writebool _ _).bind ?_
  refine (readWord_word _ _).bind ?_
  refine (readWord_word _ _).bind ?_
  refine (readWord_word _ _).bind ?_
  refine (readWord_word _ _).bind ?_
  refine (readbuffer_writebuffer _ _ data).bind ?_
  refine (readbuffer_writebuffer _ _ autodetect).bind ?_
  refine (since_reads (by decide) (readWord_word _ _)).bind ?_
  refine (since_reads (by decide) (OSREAD_reads _ _)).bind ?_
  refine (since_reads (by decide) (OSREAD_reads _ _)).bind ?_
  refine (since_reads (by decide) (readbool_writebool _ _)).bind ?_
  refine (since_reads (by decide) (OSREAD_reads _ _)).bind ?_
  exact (since_reads (by decide) (readWord_word _ _)).bind_pure _

structure Restores (dev restored : BackupDevice) : Prop where
  write_enable : restored.write_enable = dev.write_enable
  com : restored.com = dev.com
  addr_size : restored.addr_size = dev.addr_size
  addr_counter : restored.addr_counter = dev.addr_counter
  addr : restored.addr = dev.addr
  state : restored.state = dev.state
  data_autodetect : restored.data_autodetect = dev.data_autodetect
  reset_command_state : restored.reset_command_state = dev.reset_command_state
  write_protect : restored.write_protect = dev.write_protect
  fsize : restored.fsize = dev.fsize
  data : restored.fpMC.bytes.take dev.fsize.toNat =
    dev.fpMC.bytes.take dev.fsize.toNat
  pos : restored.fpMC.pos = dev.fpMC.pos

variable {dev : BackupDevice}

theorem savedData_eq (covered : dev.Covered) :
    dev.savedData = dev.fpMC.bytes.take dev.fsize.toNat := by
  have inside := covered.inside
  have length : (dev.fpMC.bytes.take dev.fsize.toNat).length = dev.fsize.toNat := by
    rw [List.length_take]
    omega
  unfold savedData
  rw [fseek_zero]
  change dev.fpMC.bytes.take dev.fsize.toNat ++
    List.replicate (dev.fsize.toNat - (dev.fpMC.bytes.take dev.fsize.toNat).length) 0 = _
  rw [length,Nat.sub_self,List.replicate_zero,List.append_nil]

theorem seek_savePos (saveable : dev.Saveable) (fp : EMUFILE) :
    fp.fseek dev.savePos.toInt .SEEK_SET = { fp with pos := dev.fpMC.pos } := by
  have position := saveable.position
  have same : dev.savePos.toNat = dev.fpMC.pos := by
    unfold savePos
    rw [BitVec.toNat_ofNat,Nat.mod_eq_of_lt (by omega)]
  rw [EMUFILE.fseek_set fp dev.savePos (by rw [same]; exact position),same]

theorem save_state_device (saveable : dev.Saveable) (motion : Motion) :
    (dev.save_state motion).2 = dev := by
  change ({ dev with fpMC := EMUFILE.fseek _ dev.savePos.toInt .SEEK_SET } :
    BackupDevice) = dev
  rw [seek_savePos saveable,fseek_zero]
  rfl

/-- The other device with the data stored, before `ensure`. -/
def reloaded (dev other : BackupDevice) : BackupDevice :=
  (other.restored dev.saved).placed { other.fpMC with pos := 0 } dev.savedData

theorem load_state_saved (saveable : dev.Saveable) (other : BackupDevice) :
    other.load_state dev.saved =
      { (dev.reloaded other).grow dev.fsize other.uninitializedValue with
        fpMC := { ((dev.reloaded other).grow dev.fsize other.uninitializedValue).fpMC with
          pos := dev.fpMC.pos } } := by
  have size : BitVec.ofNat 32 dev.savedData.length = dev.fsize := by
    rw [length_savedData,BitVec.ofNat_toNat,BitVec.setWidth_eq]
  have stored : (other.restored dev.saved).store
      ((other.restored dev.saved).fpMC.fseek 0 .SEEK_SET) dev.saved.data =
      (dev.reloaded other).grow dev.fsize other.uninitializedValue := by
    rw [fseek_zero,store_eq]
    change (dev.reloaded other).grow (BitVec.ofNat 32 dev.savedData.length) _ = _
    rw [size]
    rfl
  have recent : (5 : u32) ≤ dev.saved.version := show (5 : u32) ≤ 5 by decide
  have seek := seek_savePos saveable
    ((dev.reloaded other).grow dev.fsize other.uninitializedValue).fpMC
  unfold load_state
  dsimp only
  rw [stored,if_pos recent]
  exact congrArg (fun fp : EMUFILE => ({ (dev.reloaded other).grow dev.fsize
    other.uninitializedValue with fpMC := fp } : BackupDevice)) seek

theorem reloaded_spec (saveable : dev.Saveable) (other : BackupDevice) :
    (dev.reloaded other).Covered ∧ (dev.reloaded other).fsize = dev.fsize ∧
      (dev.reloaded other).fpMC.bytes.take dev.fsize.toNat =
        dev.fpMC.bytes.take dev.fsize.toNat := by
  have length := length_savedData dev
  have room := saveable.room
  obtain ⟨covered,-,-⟩ := placed_spec (other.restored dev.saved)
    { other.fpMC with pos := 0 } dev.savedData rfl (by omega)
  refine ⟨covered,?_,?_⟩
  · change BitVec.ofNat 32 dev.savedData.length = dev.fsize
    rw [length,BitVec.ofNat_toNat,BitVec.setWidth_eq]
  · change (EMUFILE.fwrite { other.fpMC with pos := 0 } dev.savedData).bytes.take _ = _
    rw [EMUFILE.fwrite_of_inside _ _ (Nat.zero_le _),← length]
    have front := drop_overwrite 0 other.fpMC.bytes dev.savedData 0
    rw [List.drop_zero] at front
    dsimp only
    rw [front,List.take_left' rfl,savedData_eq saveable.toCovered]
    rw [List.length_take,Nat.min_eq_left saveable.inside]

theorem restores_iff (saveable : dev.Saveable) (other : BackupDevice) :
    Restores dev (other.load_state dev.saved) ↔
      pad_up_size dev.fsize = dev.fsize := by
  obtain ⟨covered,size,data⟩ := reloaded_spec saveable other
  have enough : (dev.reloaded other).fsize.toNat ≤ dev.fsize.toNat := by rw [size]
  rw [load_state_saved saveable other]
  constructor
  · intro restores
    exact restores.fsize
  · intro padded
    refine ⟨rfl,rfl,rfl,rfl,rfl,?_,rfl,rfl,rfl,padded,?_,rfl⟩
    · change (if dev.state.code = 0 then DeviceState.DETECTING else .RUNNING) = dev.state
      cases dev.state with
      | DETECTING => rfl
      | RUNNING => rfl
    · change ((dev.reloaded other).grow dev.fsize _).fpMC.bytes.take _ = _
      have inside := covered.inside
      rw [size] at inside
      rw [bytes_grow covered enough,size,take_overwrite 0 _ _ _ inside,data]

theorem Kept.saveable (kept : Kept dev) (pos : dev.fpMC.pos < 2 ^ 31)
    (autodetect : dev.data_autodetect.length < 2 ^ 32) : dev.Saveable := by
  refine ⟨kept.covered,?_,pos,autodetect⟩
  rcases kept with blank | sound
  · rw [blank.fsize,footerLength_eq]
    decide
  · exact sound.small

theorem covered_load_state (saveable : dev.Saveable) (other : BackupDevice) :
    (other.load_state dev.saved).Covered := by
  obtain ⟨covered,size,data⟩ := reloaded_spec saveable other
  have grown := covered_grow covered (by rw [size]) saveable.small other.uninitializedValue
  rw [load_state_saved saveable other]
  exact ⟨grown.inside,grown.small⟩

theorem alike_load_state (saveable : dev.Saveable) {other : BackupDevice}
    (filling : other.uninitializedValue = dev.uninitializedValue)
    (movie : other.isMovieMode = dev.isMovieMode)
    (restores : Restores dev (other.load_state dev.saved)) :
    Alike dev (other.load_state dev.saved) := by
  have covered := covered_load_state saveable other
  refine ⟨(other.load_state dev.saved).fpMC,(other.load_state dev.saved).info,?_,?_,
    saveable.small⟩
  · have keptFilling : (other.load_state dev.saved).uninitializedValue =
        other.uninitializedValue := by rw [load_state_saved saveable other]; rfl
    have keptMovie : (other.load_state dev.saved).isMovieMode = other.isMovieMode := by
      rw [load_state_saved saveable other]
      rfl
    obtain ⟨write_enable,com,addr_size,addr_counter,addr,st,data_autodetect,
      reset_command_state,write_protect,fsize,-,-⟩ := restores
    revert keptFilling keptMovie write_enable com addr_size addr_counter addr st
      data_autodetect reset_command_state write_protect fsize
    rw [filling,movie]
    cases other.load_state dev.saved with
    | mk fpMC fsize info isMovieMode uninitializedValue write_enable reset_command_state com
        addr_size addr_counter addr write_protect data_autodetect st =>
      rintro rfl rfl rfl rfl rfl rfl rfl rfl rfl rfl rfl rfl
      rfl
  · refine ⟨restores.pos,?_,saveable.inside,?_⟩
    · intro i below
      rw [← List.getElem?_take_of_lt below,restores.data,List.getElem?_take_of_lt below]
    · rw [← restores.fsize]
      exact covered.inside

theorem loadState_save_state (saveable : dev.Saveable) (motion : Motion) (uninit : u32)
    (other : BackupDevice) (motion' : Motion) {is : Stream} {rest : List u8}
    (at_ : is.At ((dev.save_state motion).1 ++ rest)) :
    other.loadState uninit motion' is = (true, other.load_state dev.saved, motion) := by
  unfold loadState
  rw [readState_save_state saveable.autodetect motion uninit other motion' is rest at_]

/-- The device comes back, and answers whatever follows as it would have without
being saved and loaded. -/
structure RoundTrips (gameCode : List Char) (dev loaded : BackupDevice) : Prop where
  restores : Restores dev loaded
  answers : ∀ ops,
    Run.Guarded (fun before op => (busStep gameCode before op).1) busCondition dev ops →
      (Run.logged (busStep gameCode) loaded ops).2 = (Run.logged (busStep gameCode) dev ops).2

/-- Saving leaves the device alone and loading succeeds in any other device of
the same configuration. All of it comes back exactly when the data size is a
padded one. -/
theorem savestate_round_trips_iff (gameCode : List Char) {dev : BackupDevice}
    (saveable : dev.Saveable) (motion : Motion) (uninit : u32) (other : BackupDevice)
    (filling : other.uninitializedValue = dev.uninitializedValue)
    (movie : other.isMovieMode = dev.isMovieMode) (motion' : Motion) {is : Stream}
    {rest : List u8} (at_ : is.At ((dev.save_state motion).1 ++ rest)) :
    (dev.save_state motion).2 = dev ∧
      (other.loadState uninit motion' is).1 = true ∧
      (other.loadState uninit motion' is).2.2 = motion ∧
      (RoundTrips gameCode dev (other.loadState uninit motion' is).2.1 ↔
        pad_up_size dev.fsize = dev.fsize) := by
  rw [loadState_save_state saveable motion uninit other motion' at_]
  refine ⟨save_state_device saveable motion,rfl,rfl,?_⟩
  constructor
  · intro trips
    exact (restores_iff saveable other).mp trips.restores
  · intro padded
    have restores := (restores_iff saveable other).mpr padded
    exact ⟨restores,
      answers_alike gameCode (alike_load_state saveable filling movie restores)⟩

/-- Within the address of a read, over a save of 512 bytes. -/
def addressing : BackupDevice :=
  { zeroSave 0x200 with com := BM_CMD_READLOW, addr_counter := 1, addr := 0x12 }

def atStart (bytes : List u8) : Stream :=
  { file := { mode := .memory, bytes := bytes, pos := 0 }, failbit := false }

theorem at_atStart (bytes : List u8) : (atStart bytes).At (bytes ++ []) :=
  ⟨(List.append_nil bytes).symm,rfl⟩

theorem saveable_addressing : addressing.Saveable := by
  have sound : Backup.Sound addressing :=
    { length := (sound_zeroSave 0x200 (by decide)).length
      footer := (sound_zeroSave 0x200 (by decide)).footer
      padded := rfl
      small := by decide }
  exact Kept.saveable (Or.inr sound) (by decide) (by decide)

theorem addressing_round_trips :
    RoundTrips [] addressing ((zeroSave 0x2000).loadState 0 ⟨7,8⟩
      (atStart (addressing.save_state ⟨1,2⟩).1)).2.1 :=
  (savestate_round_trips_iff [] saveable_addressing ⟨1,2⟩ 0 (zeroSave 0x2000) rfl rfl ⟨7,8⟩
    (at_atStart _)).2.2.2.mpr (by decide)

/-- A device without data comes back with 512 bytes of it. -/
theorem empty_save_grows :
    ¬∀ (dev other : BackupDevice) (motion motion' : Motion), dev.Saveable →
      other.uninitializedValue = dev.uninitializedValue →
      other.isMovieMode = dev.isMovieMode →
      Restores dev
        (other.loadState 0 motion' (atStart (dev.save_state motion).1)).2.1 := by
  intro everywhere
  have blank : Kept { zeroSave 0 with fpMC := ⟨.rb_plus,[],0⟩ } := Or.inl ⟨rfl,rfl⟩
  have saveable := Kept.saveable blank (by decide) (by decide)
  have restores := everywhere _ (zeroSave 0) ⟨0,0⟩ ⟨0,0⟩ saveable rfl rfl
  rw [loadState_save_state saveable ⟨0,0⟩ 0 _ ⟨0,0⟩ (at_atStart _)] at restores
  have padded : pad_up_size 0 = 0 := (restores_iff saveable (zeroSave 0)).mp restores
  exact absurd padded (by decide)

end BackupDevice

end Desmume.Backup
