/-
One byte of a transaction on a running device, and words by their address.

`contents` is the memory the game sees: the data bytes of the file and the
factory value behind them. Growth does not change it.
-/

import Desmume.Backup.Device

namespace Desmume.Backup

open Overwrite

namespace BackupDevice

structure Setup where
  com : u32
  addr_size : u32
  addr_counter : u32
  write_enable : Bool
  uninitializedValue : u8
  isMovieMode : Bool
  reset_command_state : Bool
  state : DeviceState

def setup (dev : BackupDevice) : Setup where
  com := dev.com
  addr_size := dev.addr_size
  addr_counter := dev.addr_counter
  write_enable := dev.write_enable
  uninitializedValue := dev.uninitializedValue
  isMovieMode := dev.isMovieMode
  reset_command_state := dev.reset_command_state
  state := dev.state

section

variable {first second : BackupDevice} (same : first.setup = second.setup)

include same

theorem com_of_setup : first.com = second.com := congrArg Setup.com same

theorem addr_size_of_setup : first.addr_size = second.addr_size := congrArg Setup.addr_size same

theorem addr_counter_of_setup : first.addr_counter = second.addr_counter :=
  congrArg Setup.addr_counter same

theorem write_enable_of_setup : first.write_enable = second.write_enable :=
  congrArg Setup.write_enable same

theorem isMovieMode_of_setup : first.isMovieMode = second.isMovieMode :=
  congrArg Setup.isMovieMode same

theorem reset_command_state_of_setup : first.reset_command_state = second.reset_command_state :=
  congrArg Setup.reset_command_state same

theorem state_of_setup : first.state = second.state := congrArg Setup.state same

end

theorem setup_ensure (dev : BackupDevice) (addr : u32) (fpOut : Bool) :
    (dev.ensure addr fpOut).setup = dev.setup := by
  unfold ensure ensureReal
  split <;> rfl

theorem setup_wrapAddress (dev : BackupDevice) : dev.wrapAddress.setup = dev.setup := by
  unfold wrapAddress
  split <;> rfl

theorem setup_write (dev : BackupDevice) (val : u8) : (dev.write val).setup = dev.setup := by
  unfold write
  split <;> rfl

theorem setup_access (dev : BackupDevice) (val : u8) : (dev.access val).1.setup = dev.setup := by
  unfold access
  split
  · rfl
  · split
    · exact setup_write dev val
    · rfl

theorem setup_dataByte (dev : BackupDevice) (val : u8) :
    (dev.dataByte val).1.setup = dev.setup := by
  have moved (before : BackupDevice) (addr : u32) :
      ({ before with addr := addr } : BackupDevice).setup = before.setup := rfl
  unfold dataByte
  rw [moved,setup_access,setup_ensure,setup_wrapAddress]

def finish (dev : BackupDevice) : BackupDevice :=
  { dev with com := 0, reset_command_state := false }

theorem ensure_reset_command (dev : BackupDevice) (addr : u32) (fpOut : Bool) :
    dev.reset_command.ensure addr fpOut = (dev.ensure addr fpOut).reset_command := by
  have sameSize : dev.reset_command.fsize = dev.fsize := rfl
  unfold ensure ensureReal
  rw [sameSize]
  split <;> rfl

theorem wrapAddress_reset_command (dev : BackupDevice) :
    dev.reset_command.wrapAddress = dev.wrapAddress.reset_command := by
  have sameWidth : dev.reset_command.addr_size = dev.addr_size := rfl
  unfold wrapAddress
  rw [sameWidth]
  split <;> rfl

theorem write_reset_command (dev : BackupDevice) (val : u8) :
    dev.reset_command.write val = (dev.write val).reset_command := by
  have sameMode : dev.reset_command.isMovieMode = dev.isMovieMode := rfl
  unfold write
  rw [sameMode]
  split <;> rfl

theorem access_reset_command (dev : BackupDevice) (val : u8) :
    dev.reset_command.access val =
      ((dev.access val).1.reset_command, (dev.access val).2) := by
  have sameCom : dev.reset_command.com = dev.com := rfl
  have sameEnable : dev.reset_command.write_enable = dev.write_enable := rfl
  unfold access
  rw [sameCom,sameEnable,write_reset_command]
  split
  · rfl
  · split <;> rfl

theorem dataByte_reset_command (dev : BackupDevice) (val : u8) :
    dev.reset_command.dataByte val =
      ((dev.dataByte val).1.reset_command, (dev.dataByte val).2) := by
  have sameAddr (before : BackupDevice) : before.reset_command.addr = before.addr := rfl
  simp only [dataByte,wrapAddress_reset_command,sameAddr,ensure_reset_command,
    access_reset_command]
  rfl

theorem newCommand_reset_command (dev : BackupDevice) (val : u8) :
    dev.reset_command.newCommand val =
      ((dev.newCommand val).1.reset_command, (dev.newCommand val).2) := by
  have sameWidth : dev.reset_command.addr_size = dev.addr_size := rfl
  unfold newCommand
  simp only [sameWidth]
  split_ifs <;> rfl

theorem not_detecting {dev : BackupDevice} (running : dev.state = .RUNNING) :
    ¬ dev.state = .DETECTING := by
  rw [running]
  exact DeviceState.noConfusion

theorem handleByte_reset_command (gameCode : List Char) (dev : BackupDevice) (val : u8)
    (running : dev.state = .RUNNING) :
    handleByte gameCode dev.reset_command val =
      ((handleByte gameCode dev val).1.reset_command,
        (handleByte gameCode dev val).2) := by
  have notDetecting := not_detecting running
  have sameCom : dev.reset_command.com = dev.com := rfl
  have sameEnable : dev.reset_command.write_enable = dev.write_enable := rfl
  have sameCounter : dev.reset_command.addr_counter = dev.addr_counter := rfl
  have sameWidth : dev.reset_command.addr_size = dev.addr_size := rfl
  have stillRunning : ¬ dev.reset_command.state = .DETECTING := notDetecting
  unfold handleByte memoryByte
  rw [if_neg notDetecting,if_neg stillRunning,sameCom,sameEnable,sameCounter,sameWidth,
    dataByte_reset_command,newCommand_reset_command]
  split_ifs <;> rfl

theorem handleByte_kept (gameCode : List Char) (dev : BackupDevice) (val : u8)
    (running : dev.state = .RUNNING) :
    (handleByte gameCode dev val).1.state = .RUNNING ∧
      (handleByte gameCode dev val).1.reset_command_state = dev.reset_command_state := by
  have notDetecting := not_detecting running
  have data := setup_dataByte dev val
  unfold handleByte memoryByte
  rw [if_neg notDetecting]
  split
  · exact ⟨running,rfl⟩
  · split
    · split
      · exact ⟨running,rfl⟩
      · exact ⟨(state_of_setup data).trans running,
          reset_command_state_of_setup data⟩
    · split
      · exact ⟨running,rfl⟩
      · split
        · exact ⟨running,rfl⟩
        · split
          · exact ⟨running,rfl⟩
          · unfold newCommand
            simp only
            split_ifs <;> exact ⟨running,rfl⟩

structure Serving (dev : BackupDevice) : Prop extends dev.Covered where
  running : dev.state = .RUNNING
  recording : dev.isMovieMode = false
  width : dev.addr_size = 1 ∨ dev.addr_size = 2 ∨ dev.addr_size = 3

theorem Serving.width_bounds {dev : BackupDevice} (serving : dev.Serving) :
    1 ≤ dev.addr_size.toNat ∧ dev.addr_size.toNat ≤ 3 := by
  rcases serving.width with one | two | three
  · rw [one]
    decide
  · rw [two]
    decide
  · rw [three]
    decide

def contents (dev : BackupDevice) (i : Nat) : u8 :=
  if i < dev.fsize.toNat then
    (dev.fpMC.bytes[i]?).getD dev.uninitializedValue
  else dev.uninitializedValue

theorem contents_present {dev : BackupDevice} (covered : dev.Covered) (i : Nat)
    (below : i < dev.fsize.toNat) : dev.fpMC.bytes[i]? = some (dev.contents i) := by
  have inside := lt_of_lt_of_le below covered.inside
  rw [contents,if_pos below,List.getElem?_eq_getElem inside,Option.getD_some]

theorem contents_congr {before after : BackupDevice}
    (sameBytes : after.fpMC.bytes = before.fpMC.bytes) (sameSize : after.fsize = before.fsize)
    (sameValue : after.uninitializedValue = before.uninitializedValue) :
    after.contents = before.contents := by
  funext i
  rw [contents,contents,sameBytes,sameSize,sameValue]

variable {dev : BackupDevice}

theorem contents_grow (covered : dev.Covered) {addr : u32} (enough : dev.fsize.toNat ≤ addr.toNat) :
    (dev.grow addr dev.uninitializedValue).contents = dev.contents := by
  have padded := le_pad_up_size addr
  have sameValue :
      (dev.grow addr dev.uninitializedValue).uninitializedValue =
        dev.uninitializedValue := rfl
  funext i
  unfold contents
  rw [sameValue,fsize_grow]
  by_cases below : i < dev.fsize.toNat
  · rw [if_pos below,if_pos (by omega),grow_below covered enough _ i below]
  · rw [if_neg below]
    split
    · next inPadding =>
        rw [grow_padding covered enough _ i (by omega) inPadding]
        rfl
    · rfl

theorem ensure_spec (serving : dev.Serving)
    (below : dev.addr.toNat + 1 + footerLength < 2 ^ 31) :
    let ensured := dev.ensure (dev.addr + 1) false
    ensured.Serving ∧ ensured.contents = dev.contents ∧
      dev.addr.toNat < ensured.fsize.toNat ∧ ensured.addr = dev.addr ∧
      (dev.fpMC.pos = dev.addr.toNat → ensured.fpMC.pos = dev.addr.toNat) := by
  have next : (dev.addr + 1).toNat = dev.addr.toNat + 1 := by bv_omega
  have covered := serving.toCovered
  unfold ensure ensureReal
  by_cases present : dev.addr + 1 < dev.fsize
  · rw [if_pos ⟨rfl,present⟩]
    exact ⟨serving,rfl,by bv_omega,rfl,id⟩
  · rw [if_neg (by simpa using present)]
    have enough : dev.fsize.toNat ≤ (dev.addr + 1).toNat := by bv_omega
    have padded := le_pad_up_size (dev.addr + 1)
    refine ⟨?_,contents_grow covered enough,?_,rfl,fun _ => ?_⟩
    · exact
        { toCovered := covered_grow covered enough (by omega) _
          running := serving.running
          recording := serving.recording
          width := serving.width }
    · rw [fsize_grow]
      omega
    · rw [pos_grow covered enough (by omega) (by omega)]
      omega

def Moves (dev : BackupDevice) : Prop :=
  dev.com = BM_CMD_READLOW ∨ dev.write_enable = true

theorem read_spec (serving : dev.Serving) (position : Nat)
    (below : position < dev.fsize.toNat) (here : dev.fpMC.pos = position) :
    dev.read =
      ({ dev with fpMC := { dev.fpMC with pos := position + 1 } },
        dev.contents position) := by
  have present := contents_present serving.toCovered position below
  rw [← here] at present ⊢
  simp only [read,EMUFILE.read8le_of_inside dev.fpMC 0xFF _ present]

theorem bytes_write (serving : dev.Serving) (val : u8)
    (inside : dev.fpMC.pos < dev.fpMC.bytes.length) :
    dev.write val =
      { dev with
        fpMC :=
          { dev.fpMC with
            bytes := overwrite 0 dev.fpMC.bytes dev.fpMC.pos [val]
            pos := dev.fpMC.pos + 1 } } := by
  have notMovie : ¬ dev.isMovieMode = true := by
    rw [serving.recording]
    exact Bool.false_ne_true
  rw [write,if_neg notMovie,EMUFILE.fwrite_of_inside _ _ inside.le]
  rfl

theorem write_spec (serving : dev.Serving) (val : u8) (pos : Nat)
    (below : pos < dev.fsize.toNat) (here : dev.fpMC.pos = pos) :
    (dev.write val).Serving ∧
      (dev.write val).contents = Function.update dev.contents pos val ∧
      (dev.write val).addr = dev.addr ∧
      (dev.write val).fpMC.pos = pos + 1 := by
  subst here
  have inside := lt_of_lt_of_le below serving.inside
  have length := length_overwrite 0 dev.fpMC.bytes [val] dev.fpMC.pos
  rw [bytes_write serving val inside]
  refine ⟨?_,?_,rfl,rfl⟩
  · exact
      { inside := by
          have old := serving.inside
          simp only
          omega
        small := serving.small
        running := serving.running
        recording := serving.recording
        width := serving.width }
  · funext i
    simp only [contents,getElem?_overwrite_singleton 0 _ _ val i inside]
    by_cases same : i = dev.fpMC.pos
    · subst same
      rw [if_pos below,if_pos rfl,Function.update_self]
      rfl
    · rw [if_neg same,Function.update_of_ne same]
      rfl

theorem access_spec (serving : dev.Serving) (val : u8)
    (below : dev.addr.toNat < dev.fsize.toNat)
    (here : dev.Moves → dev.fpMC.pos = dev.addr.toNat) :
    let res := dev.access val
    res.1.Serving ∧ res.1.addr = dev.addr ∧
      (dev.Moves → res.1.fpMC.pos = dev.addr.toNat + 1) ∧
      (dev.com = BM_CMD_READLOW →
        res.1.contents = dev.contents ∧ res.2 = dev.contents dev.addr.toNat) ∧
      (dev.com ≠ BM_CMD_READLOW →
        res.1.contents =
          if dev.write_enable then
            Function.update dev.contents dev.addr.toNat val
          else dev.contents) := by
  unfold access
  by_cases reading : dev.com = BM_CMD_READLOW
  · rw [if_pos reading,read_spec serving _ below (here (Or.inl reading))]
    refine ⟨?_,rfl,fun _ => rfl, fun _ => ⟨?_,rfl⟩, fun other => absurd reading other⟩
    · exact
        { inside := serving.inside
          small := serving.small
          running := serving.running
          recording := serving.recording
          width := serving.width }
    · exact contents_congr rfl rfl rfl
  · rw [if_neg reading]
    cases enabled : dev.write_enable with
    | true =>
        obtain ⟨served,stored,same,moved⟩ :=
          write_spec serving val _ below (here (Or.inr enabled))
        exact ⟨served,same,fun _ => moved, fun read => absurd read reading,
          fun _ => stored⟩
    | false =>
        refine ⟨serving,rfl,fun moves => ?_, fun read => absurd read reading, fun _ => rfl⟩
        rcases moves with read | write
        · exact absurd read reading
        · rw [enabled] at write
          cases write

/-! ### A data byte at its address -/

def dataAddress (addr_size : u32) (first i : Nat) : Nat :=
  if addr_size = 1 then (first + i) % 0x200 else first + i

/-- The next data byte goes to `first`, before the wrap of a one-byte address. -/
structure AtAddress (dev : BackupDevice) (first : Nat) : Prop where
  single : dev.addr_size = 1 → dev.addr.toNat % 0x200 = first % 0x200
  plain : dev.addr_size ≠ 1 →
    dev.addr.toNat = first ∧ (dev.Moves → dev.fpMC.pos = first)

theorem toNat_wrap (addr : u32) : (addr &&& 0x1FF).toNat = addr.toNat % 0x200 := by
  rw [BitVec.toNat_and]
  exact Nat.and_two_pow_sub_one_eq_mod addr.toNat 9

theorem wrapAddress_spec (serving : dev.Serving) {first : Nat}
    (here : dev.AtAddress first) :
    let wrapped := dev.wrapAddress
    wrapped.Serving ∧ wrapped.contents = dev.contents ∧
      wrapped.addr.toNat = dataAddress dev.addr_size first 0 ∧
      (dev.Moves → wrapped.fpMC.pos = wrapped.addr.toNat) := by
  unfold wrapAddress dataAddress
  by_cases single : dev.addr_size = 1
  · have masked := toNat_wrap dev.addr
    have small : (dev.addr &&& 0x1FF).toNat < 2 ^ 31 := by omega
    rw [if_pos single,if_pos single,EMUFILE.fseek_set _ _ small]
    refine ⟨?_,contents_congr rfl rfl rfl,?_,fun _ => rfl⟩
    · exact
        { inside := serving.inside
          small := serving.small
          running := serving.running
          recording := serving.recording
          width := serving.width }
    · exact masked.trans (here.single single)
  · obtain ⟨same,pos⟩ := here.plain single
    rw [if_neg single,if_neg single]
    exact ⟨serving,rfl,same,fun moves => (pos moves).trans same.symm⟩

def prepared (dev : BackupDevice) : BackupDevice :=
  dev.wrapAddress.ensure (dev.wrapAddress.addr + 1) false

theorem setup_prepared (dev : BackupDevice) : dev.prepared.setup = dev.setup :=
  (setup_ensure _ _ _).trans (setup_wrapAddress dev)

theorem prepared_spec (serving : dev.Serving) {first : Nat} (here : dev.AtAddress first)
    (below : dataAddress dev.addr_size first 0 + 1 + footerLength < 2 ^ 31) :
    dev.prepared.Serving ∧ dev.prepared.contents = dev.contents ∧
      dev.prepared.addr.toNat = dataAddress dev.addr_size first 0 ∧
      dev.prepared.addr.toNat < dev.prepared.fsize.toNat ∧
      (dev.Moves → dev.prepared.fpMC.pos = dev.prepared.addr.toNat) := by
  obtain ⟨wrapped,sameContents,addr,pos⟩ := wrapAddress_spec serving here
  obtain ⟨ensured,kept,room,sameAddr,stays⟩ := ensure_spec wrapped (by rw [addr]; exact below)
  have sameAddr' : dev.prepared.addr = dev.wrapAddress.addr := sameAddr
  rw [sameAddr']
  exact ⟨ensured,kept.trans sameContents,addr,room,fun moves => stays (pos moves)⟩

theorem dataByte_eq (dev : BackupDevice) (val : u8) :
    dev.dataByte val =
      ({ (dev.prepared.access val).1 with
          addr := (dev.prepared.access val).1.addr + 1 },
        (dev.prepared.access val).2) := rfl

theorem dataByte_spec (serving : dev.Serving) {first : Nat} (here : dev.AtAddress first)
    (below : dataAddress dev.addr_size first 0 + 1 + footerLength < 2 ^ 31) (val : u8) :
    let addr := dataAddress dev.addr_size first 0
    let res := dev.dataByte val
    res.1.Serving ∧ res.1.AtAddress (first + 1) ∧
      (dev.com = BM_CMD_READLOW →
        res.1.contents = dev.contents ∧ res.2 = dev.contents addr) ∧
      (dev.com ≠ BM_CMD_READLOW →
        res.1.contents =
          if dev.write_enable then Function.update dev.contents addr val
          else dev.contents) := by
  obtain ⟨ready,sameContents,addr,room,pos⟩ := prepared_spec serving here below
  have sameCom : dev.prepared.com = dev.com :=
    com_of_setup (setup_prepared dev)
  have sameEnable : dev.prepared.write_enable = dev.write_enable :=
    write_enable_of_setup (setup_prepared dev)
  have preparedMoves : dev.prepared.Moves ↔ dev.Moves := by
    unfold Moves
    rw [sameCom,sameEnable]
  obtain ⟨served,sameAddr,moved,reads,writes⟩ :=
    access_spec ready val room fun moves => pos (preparedMoves.mp moves)
  have setup : (dev.prepared.access val).1.setup = dev.setup :=
    (setup_access _ _).trans (setup_prepared dev)
  rw [sameCom,sameContents,addr] at reads
  rw [sameCom,sameContents,addr,sameEnable] at writes
  rw [dataByte_eq]
  revert served sameAddr moved reads writes setup
  generalize dev.prepared.access val = res
  intro served sameAddr moved reads writes setup
  have sameWidth : res.1.addr_size = dev.addr_size := addr_size_of_setup setup
  have resultMoves : res.1.Moves → dev.Moves := by
    unfold Moves
    rw [show res.1.com = dev.com from com_of_setup setup,
      show res.1.write_enable = dev.write_enable from write_enable_of_setup setup]
    exact id
  have nextAddr : (res.1.addr + 1).toNat = dataAddress dev.addr_size first 0 + 1 := by
    rw [sameAddr]
    bv_omega
  refine ⟨⟨⟨served.inside,served.small⟩,served.running,served.recording,served.width⟩,
    ⟨fun single => ?_, fun plain => ?_⟩,reads,writes⟩
  · rw [show res.1.addr_size = 1 from single] at sameWidth
    rw [nextAddr,dataAddress,if_pos sameWidth.symm]
    omega
  · have plain : dev.addr_size ≠ 1 := fun single => plain (sameWidth.trans single)
    rw [nextAddr,dataAddress,if_neg plain]
    refine ⟨rfl,fun moves => ?_⟩
    have there := moved (preparedMoves.mpr (resultMoves moves))
    rw [addr,dataAddress,if_neg plain] at there
    exact there

end BackupDevice

end Desmume.Backup

namespace Desmume.Backup

open LastWrite Overwrite

namespace BackupDevice

/-- `BackupDevice::readLong`. -/
def readLongAt (dev : BackupDevice) (addr init : u32) : u32 × BackupDevice :=
  let res := (dev.fpMC.fseek addr.toInt .SEEK_SET).read32le init
  (res.2, { dev with fpMC := res.1 })

def writeLong (dev : BackupDevice) (addr val : u32) : BackupDevice :=
  if dev.isMovieMode then dev
  else { dev with fpMC := (dev.fpMC.fseek addr.toInt .SEEK_SET).write32le val }

/-- A save file that is written to and lies below 2 GiB. -/
structure Sound (dev : BackupDevice) : Prop extends dev.Covered where
  recording : dev.isMovieMode = false

def wordCells (off : Nat) (val : u32) : List (Nat × u8) :=
  [(off, val.extractLsb' 0 8),(off + 1, val.extractLsb' 8 8),
    (off + 2, val.extractLsb' 16 8),(off + 3, val.extractLsb' 24 8)]

def wordAt (contents : Nat → u8) (off : Nat) : u32 :=
  contents (off + 3) ++ contents (off + 2) ++ contents (off + 1) ++ contents off

variable {dev : BackupDevice}

theorem lastWritten_word (start : Nat → u8) (off : Nat) (val : u32) :
    lastWritten start (wordCells off val) =
      Function.update (Function.update (Function.update (Function.update start off
        (val.extractLsb' 0 8)) (off + 1) (val.extractLsb' 8 8)) (off + 2)
          (val.extractLsb' 16 8)) (off + 3) (val.extractLsb' 24 8) := by
  have shape : wordCells off val =
      [(off, val.extractLsb' 0 8)] ++ [(off + 1, val.extractLsb' 8 8)] ++
        [(off + 2, val.extractLsb' 16 8)] ++ [(off + 3, val.extractLsb' 24 8)] := rfl
  rw [shape,lastWritten_snoc,lastWritten_snoc,lastWritten_snoc,lastWritten_singleton]

theorem ensure_room (sound : dev.Sound) {addr : u32} (small : addr.toNat < 2 ^ 31) :
    (dev.ensure addr false).Sound ∧
      (dev.ensure addr false).contents = dev.contents ∧
      addr.toNat ≤ (dev.ensure addr false).fsize.toNat := by
  unfold ensure ensureReal
  by_cases present : addr < dev.fsize
  · rw [if_pos ⟨rfl,present⟩]
    exact ⟨sound,rfl,by bv_omega⟩
  · have enough : dev.fsize.toNat ≤ addr.toNat := by bv_omega
    rw [if_neg (fun both => present both.2)]
    refine ⟨⟨covered_grow sound.toCovered enough small _,sound.recording⟩,
      contents_grow sound.toCovered enough,?_⟩
    rw [fsize_grow]
    exact le_pad_up_size addr

theorem readLong_sound (sound : dev.Sound) {addr : u32} (room : addr.toNat + 4 ≤ dev.fsize.toNat) :
    (dev.readLongAt addr 0).1 = wordAt dev.contents addr.toNat ∧
      (dev.readLongAt addr 0).2.Sound ∧
      (dev.readLongAt addr 0).2.contents = dev.contents := by
  have small := sound.small
  have present := fun k (inside : k < 4) =>
    contents_present sound.toCovered (addr.toNat + k) (by omega)
  have four : (dev.fpMC.bytes.drop addr.toNat).take 4 =
      [dev.contents addr.toNat,dev.contents (addr.toNat + 1),
        dev.contents (addr.toNat + 2),dev.contents (addr.toNat + 3)] := by
    apply List.ext_getElem?
    intro k
    by_cases inside : k < 4
    · rw [List.getElem?_take_of_lt inside,List.getElem?_drop,present k inside]
      interval_cases k <;> rfl
    · rw [List.getElem?_eq_none (by simp only [List.length_take]; omega),
        List.getElem?_eq_none (by simp only [List.length_cons,List.length_nil]; omega)]
  unfold readLongAt
  rw [EMUFILE.fseek_set _ _ (by omega)]
  unfold EMUFILE.read32le EMUFILE.fread
  dsimp only
  rw [four]
  exact ⟨rfl,⟨⟨sound.inside,sound.small⟩,sound.recording⟩,contents_congr rfl rfl rfl⟩

theorem writeLong_sound (sound : dev.Sound) {addr : u32}
    (room : addr.toNat + 4 ≤ dev.fsize.toNat) (val : u32) :
    (dev.writeLong addr val).Sound ∧
      (dev.writeLong addr val).contents =
        lastWritten dev.contents (wordCells addr.toNat val) := by
  have small := sound.small
  have inside := sound.inside
  have written : dev.writeLong addr val =
      { dev with
        fpMC :=
          { dev.fpMC with
            bytes := overwrite 0 dev.fpMC.bytes addr.toNat (EMUFILE.le32 val)
            pos := addr.toNat + 4 } } := by
    unfold writeLong EMUFILE.write32le
    rw [if_neg (by rw [sound.recording]; exact Bool.false_ne_true),
      EMUFILE.fseek_set _ _ (by omega),EMUFILE.fwrite_of_inside _ _ (by dsimp only; omega)]
    rfl
  have length := length_overwrite 0 dev.fpMC.bytes (EMUFILE.le32 val) addr.toNat
  have four : (EMUFILE.le32 val).length = 4 := EMUFILE.length_le32 val
  rw [written]
  refine ⟨⟨⟨?_,sound.small⟩,sound.recording⟩,?_⟩
  · dsimp only
    omega
  · rw [lastWritten_word]
    funext i
    unfold contents
    dsimp only
    by_cases before : i < addr.toNat
    · rw [getElem?_overwrite_before 0 _ _ _ _ (by omega) before,
        Function.update_of_ne (by omega),Function.update_of_ne (by omega),
        Function.update_of_ne (by omega),Function.update_of_ne (by omega)]
    by_cases behind : addr.toNat + 4 ≤ i
    · rw [getElem?_overwrite_behind 0 _ _ _ _ (by omega),
        Function.update_of_ne (by omega),Function.update_of_ne (by omega),
        Function.update_of_ne (by omega),Function.update_of_ne (by omega)]
    obtain ⟨k,rfl⟩ := Nat.exists_eq_add_of_le (not_lt.mp before)
    have within : k < 4 := by omega
    rw [if_pos (by omega),getElem?_overwrite_inside 0 _ _ _ _ (by omega)]
    interval_cases k
    · rw [Function.update_of_ne (by omega),Function.update_of_ne (by omega),
        Function.update_of_ne (by omega),Nat.add_zero,Function.update_self]
      rfl
    · rw [Function.update_of_ne (by omega),Function.update_of_ne (by omega),
        Function.update_self]
      rfl
    · rw [Function.update_of_ne (by omega),Function.update_self]
      rfl
    · rw [Function.update_self]
      rfl

end BackupDevice

end Desmume.Backup
