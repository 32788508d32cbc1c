/-
Devices whose files agree on the data.

The bytes behind the data and the note of the sizes belong to the footer.
-/

import Desmume.Backup.SaveFile

namespace Desmume.Backup

open Overwrite BackupDevice

structure FilesAlike (size : Nat) (first second : EMUFILE) : Prop where
  pos : second.pos = first.pos
  data : ∀ i < size, second.bytes[i]? = first.bytes[i]?
  firstInside : size ≤ first.bytes.length
  secondInside : size ≤ second.bytes.length

namespace FilesAlike

variable {size : Nat} {first second : EMUFILE}

theorem fseek (alike : FilesAlike size first second) (off : Int) :
    FilesAlike size (first.fseek off .SEEK_SET) (second.fseek off .SEEK_SET) := by
  unfold EMUFILE.fseek
  change FilesAlike size (if (0 : Int) + off < 0 then _ else _)
    (if (0 : Int) + off < 0 then _ else _)
  by_cases negative : (0 : Int) + off < 0
  · rw [if_pos negative,if_pos negative]
    exact alike
  · rw [if_neg negative,if_neg negative]
    exact ⟨rfl,alike.data,alike.firstInside,alike.secondInside⟩

theorem read8le (alike : FilesAlike size first second) (inside : first.pos < size) (val : u8) :
    FilesAlike size (first.read8le val).1 (second.read8le val).1 ∧
      (second.read8le val).2 = (first.read8le val).2 := by
  have there := List.getElem?_eq_getElem (lt_of_lt_of_le inside alike.firstInside)
  have same : second.bytes[second.pos]? = first.bytes[first.pos]? := by
    rw [alike.pos]
    exact alike.data first.pos inside
  rw [first.read8le_of_inside val _ there,second.read8le_of_inside val _ (same.trans there)]
  exact ⟨⟨congrArg (· + 1) alike.pos,alike.data,alike.firstInside,alike.secondInside⟩,rfl⟩

theorem fwrite (alike : FilesAlike size first second) (inside : first.pos < size) (val : u8) :
    FilesAlike size (first.fwrite [val]) (second.fwrite [val]) := by
  have firstRoom := lt_of_lt_of_le inside alike.firstInside
  have secondRoom : second.pos < second.bytes.length := by
    rw [alike.pos]
    exact lt_of_lt_of_le inside alike.secondInside
  have firstLength := length_overwrite 0 first.bytes [val] first.pos
  have secondLength := length_overwrite 0 second.bytes [val] second.pos
  have firstSize := alike.firstInside
  have secondSize := alike.secondInside
  rw [first.fwrite_of_inside [val] firstRoom.le,second.fwrite_of_inside [val] secondRoom.le]
  refine ⟨congrArg (· + 1) alike.pos,?_,by dsimp only; omega,by dsimp only; omega⟩
  intro i below
  dsimp only
  rw [getElem?_overwrite_singleton 0 _ _ val i firstRoom,
    getElem?_overwrite_singleton 0 _ _ val i secondRoom,alike.pos,alike.data i below]

end FilesAlike

namespace BackupDevice

def withFile (dev : BackupDevice) (fp : EMUFILE) (info : Info) : BackupDevice :=
  { dev with fpMC := fp, info := info }

def Alike (first second : BackupDevice) : Prop :=
  ∃ fp info, second = first.withFile fp info ∧
    FilesAlike first.fsize.toNat first.fpMC fp ∧ first.fsize.toNat < 2 ^ 31

def AnswersAlike (first second : BackupDevice × u8) : Prop :=
  Alike first.1 second.1 ∧ second.2 = first.2

theorem AnswersAlike.ite {cond : Prop} [Decidable cond]
    {yes yes' no no' : BackupDevice × u8} (whenTrue : cond → AnswersAlike yes yes')
    (whenFalse : ¬cond → AnswersAlike no no') :
    AnswersAlike (if cond then yes else no) (if cond then yes' else no') := by
  by_cases holds : cond
  · rw [if_pos holds,if_pos holds]
    exact whenTrue holds
  · rw [if_neg holds,if_neg holds]
    exact whenFalse holds

/-- The data byte, if the next one is one, lies inside of the data, and growth
for it stays below 2 GiB. -/
structure ByteInside (dev : BackupDevice) : Prop where
  below : dev.fsize.toNat ≤ nextAddress dev + 1 → nextAddress dev + 1 < 2 ^ 31
  inData : dev.addr_size = 1 ∨ dev.fsize.toNat ≤ nextAddress dev + 1 ∨
    dev.fpMC.pos < dev.fsize.toNat

variable {dev : BackupDevice} {fp : EMUFILE} {info : Info}

theorem grow_withFile (dev : BackupDevice) (fp : EMUFILE) (info : Info) (addr : u32) (val : u8) :
    (dev.withFile fp info).grow addr val =
      (dev.grow addr val).withFile ((dev.withFile fp info).grow addr val).fpMC
        ((dev.withFile fp info).grow addr val).info := rfl

theorem grow_files (alike : FilesAlike dev.fsize.toNat dev.fpMC fp) {addr : u32}
    (enough : dev.fsize.toNat ≤ addr.toNat) (positive : 0 < addr.toNat)
    (small : addr.toNat < 2 ^ 31) (val : u8) :
    FilesAlike (dev.grow addr val).fsize.toNat (dev.grow addr val).fpMC
      ((dev.withFile fp info).grow addr val).fpMC := by
  have covered : dev.Covered := ⟨alike.firstInside,by omega⟩
  have other : (dev.withFile fp info).Covered := ⟨alike.secondInside,covered.small⟩
  have pos := pos_grow covered enough positive small.le val
  have otherPosition := pos_grow other enough positive small.le val
  refine ⟨otherPosition.trans pos.symm,?_,(covered_grow covered enough small val).inside,
    (covered_grow other enough small val).inside⟩
  intro i below
  rcases Nat.lt_or_ge i dev.fsize.toNat with old | new
  · rw [grow_below covered enough val i old,grow_below other enough val i old]
    exact alike.data i old
  · rw [grow_padding covered enough val i new below,
      grow_padding other enough val i new below]

theorem wrapAddress_withFile (dev : BackupDevice) (fp : EMUFILE) (info : Info) :
    ∃ fp', (dev.withFile fp info).wrapAddress = dev.wrapAddress.withFile fp' info ∧
      (∀ {size}, FilesAlike size dev.fpMC fp → FilesAlike size dev.wrapAddress.fpMC fp') := by
  unfold wrapAddress
  by_cases single : dev.addr_size = 1
  · refine ⟨fp.fseek (dev.addr &&& 0x1FF).toInt .SEEK_SET,?_,?_⟩
    · rw [if_pos single]
      exact if_pos single
    · intro size alike
      rw [if_pos single]
      exact alike.fseek _
  · refine ⟨fp,?_,?_⟩
    · rw [if_neg single]
      exact if_neg single
    · intro size alike
      rw [if_neg single]
      exact alike

theorem fsize_wrapAddress (dev : BackupDevice) : dev.wrapAddress.fsize = dev.fsize :=
  (fileView_eq (fileView_wrapAddress dev)).2.1

variable {second : BackupDevice}

/-- Both devices make the same room, and the position is inside of it. -/
theorem prepared_alike (alike : Alike dev second) (inside : dev.ByteInside) :
    Alike dev.prepared second.prepared ∧
      dev.prepared.fpMC.pos < dev.prepared.fsize.toNat := by
  obtain ⟨fp,info,rfl,files,small⟩ := alike
  obtain ⟨fp',wrapped,along⟩ := wrapAddress_withFile dev fp info
  obtain ⟨addr,single,plain⟩ := wrapAddress_address dev
  have size := fsize_wrapAddress dev
  have bound := dev.fsize.isLt
  have wrappedFiles : FilesAlike dev.wrapAddress.fsize.toNat dev.wrapAddress.fpMC fp' := by
    rw [size]
    exact along files
  unfold prepared ensure ensureReal
  rw [wrapped]
  change Alike (if _ then dev.wrapAddress else dev.wrapAddress.grow _ _)
    (if false = false ∧ dev.wrapAddress.addr + 1 < dev.wrapAddress.fsize then _ else
      (dev.wrapAddress.withFile fp' info).grow (dev.wrapAddress.addr + 1)
        dev.wrapAddress.uninitializedValue) ∧ _
  by_cases growing : dev.fsize.toNat ≤ nextAddress dev + 1
  · have below := inside.below growing
    have next : (dev.wrapAddress.addr + 1).toNat = nextAddress dev + 1 := by bv_omega
    have padded := le_pad_up_size (dev.wrapAddress.addr + 1)
    have full : ¬dev.wrapAddress.addr + 1 < dev.wrapAddress.fsize := by
      rw [size]
      bv_omega
    have enough : dev.wrapAddress.fsize.toNat ≤ (dev.wrapAddress.addr + 1).toNat := by
      rw [size,next]
      exact growing
    have covered : dev.wrapAddress.Covered :=
      ⟨wrappedFiles.firstInside,by rw [size]; exact small⟩
    rw [if_neg (fun both => full both.2),if_neg (fun both => full both.2)]
    refine ⟨⟨_,_,grow_withFile _ _ _ _ _,
      grow_files wrappedFiles enough (by omega) (by omega) _,
      (covered_grow covered enough (by omega) _).small⟩,?_⟩
    rw [pos_grow covered enough (by omega) (by omega),fsize_grow]
    omega
  · have next : (dev.wrapAddress.addr + 1).toNat = nextAddress dev + 1 := by bv_omega
    have early : dev.wrapAddress.addr + 1 < dev.wrapAddress.fsize := by
      rw [size]
      bv_omega
    rw [if_pos ⟨rfl,early⟩,if_pos ⟨rfl,early⟩]
    refine ⟨⟨fp',info,rfl,wrappedFiles,by rw [size]; exact small⟩,?_⟩
    rw [size]
    by_cases one : dev.addr_size = 1
    · rw [single one]
      omega
    · rw [plain one]
      rcases inside.inData with width | large | here
      · exact absurd width one
      · exact absurd large growing
      · exact here

theorem read_alike (alike : Alike dev second) (inside : dev.fpMC.pos < dev.fsize.toNat) :
    AnswersAlike dev.read second.read := by
  obtain ⟨fp,info,rfl,files,small⟩ := alike
  obtain ⟨after,answer⟩ := files.read8le inside 0xFF
  exact ⟨⟨(fp.read8le 0xFF).1,info,rfl,after,small⟩,answer⟩

theorem write_alike (alike : Alike dev second)
    (inside : dev.fpMC.pos < dev.fsize.toNat) (val : u8) :
    Alike (dev.write val) (second.write val) := by
  obtain ⟨fp,info,rfl,files,small⟩ := alike
  unfold write
  change Alike _ (if dev.isMovieMode then _ else _)
  by_cases movie : dev.isMovieMode = true
  · rw [if_pos movie,if_pos movie]
    exact ⟨fp,info,rfl,files,small⟩
  · rw [if_neg movie,if_neg movie]
    exact ⟨fp.fwrite [val],info,rfl,files.fwrite inside val,small⟩

theorem access_alike (alike : Alike dev second)
    (inside : dev.fpMC.pos < dev.fsize.toNat) (val : u8) :
    AnswersAlike (dev.access val) (second.access val) := by
  have reads := read_alike alike inside
  have writes := write_alike alike inside val
  have sameCom : second.com = dev.com := by
    obtain ⟨fp,info,rfl,-,-⟩ := alike
    rfl
  have sameEnable : second.write_enable = dev.write_enable := by
    obtain ⟨fp,info,rfl,-,-⟩ := alike
    rfl
  unfold access
  rw [sameCom,sameEnable]
  refine .ite (fun _ => reads) fun _ => ?_
  exact .ite (fun _ => ⟨writes,rfl⟩) fun _ => ⟨alike,rfl⟩

theorem dataByte_alike (alike : Alike dev second) (inside : dev.ByteInside) (val : u8) :
    AnswersAlike (dev.dataByte val) (second.dataByte val) := by
  obtain ⟨prepared,here⟩ := prepared_alike alike inside
  obtain ⟨⟨fp,info,same,files,small⟩,answer⟩ := access_alike prepared here val
  rw [dataByte_eq,dataByte_eq,answer,same]
  exact ⟨⟨fp,info,rfl,files,small⟩,rfl⟩

theorem addressByte_alike (alike : Alike dev second) (val : u8) :
    Alike (dev.addressByte val) (second.addressByte val) := by
  obtain ⟨fp,info,rfl,files,small⟩ := alike
  unfold addressByte
  change Alike _ ({ dev.withFile (if dev.addr_counter + 1 = dev.addr_size then
      fp.fseek (dev.addr <<< 8 ||| val.setWidth 32).toInt .SEEK_SET else fp) info with
    addr := dev.addr <<< 8 ||| val.setWidth 32
    addr_counter := dev.addr_counter + 1 })
  refine ⟨_,info,rfl,?_,small⟩
  dsimp only
  split
  · exact files.fseek _
  · exact files

variable (gameCode : List Char)

theorem detect_withFile (dev : BackupDevice) (fp : EMUFILE) (info : Info) :
    detect gameCode (dev.withFile fp info) = (detect gameCode dev).withFile fp info ∧
      (detect gameCode dev).fpMC = dev.fpMC ∧
      (detect gameCode dev).fsize = dev.fsize := by
  unfold detect
  change (if dev.reset_command_state = false then _ else
    if dev.state = .DETECTING ∧ 0 < dev.data_autodetect.length then _ else _) = _ ∧ _
  split
  · exact ⟨rfl,rfl,rfl⟩
  · split
    · exact ⟨rfl,rfl,rfl⟩
    · exact ⟨rfl,rfl,rfl⟩

theorem detect_alike (alike : Alike dev second) :
    Alike (detect gameCode dev) (detect gameCode second) := by
  obtain ⟨fp,info,rfl,files,small⟩ := alike
  obtain ⟨same,file,size⟩ := detect_withFile gameCode dev fp info
  refine ⟨fp,info,same,?_,?_⟩
  · rw [file,size]
    exact files
  · rw [size]
    exact small

theorem checkReset_alike (alike : Alike dev second) : Alike dev.checkReset second.checkReset := by
  obtain ⟨fp,info,rfl,files,small⟩ := alike
  unfold checkReset
  change Alike _ (if dev.reset_command_state then _ else _)
  split
  · exact ⟨fp,info,rfl,files,small⟩
  · exact ⟨fp,info,rfl,files,small⟩

theorem newCommand_alike (alike : Alike dev second) (val : u8) :
    AnswersAlike (dev.newCommand val) (second.newCommand val) := by
  obtain ⟨fp,info,rfl,files,small⟩ := alike
  unfold newCommand
  refine .ite (fun _ => ⟨⟨fp,info,rfl,files,small⟩,rfl⟩) fun _ => ?_
  refine .ite (fun _ => ⟨⟨fp,info,rfl,files,small⟩,rfl⟩) fun _ => ?_
  refine .ite (fun _ => ⟨⟨fp,info,rfl,files,small⟩,rfl⟩) fun _ => ?_
  refine .ite (fun _ => ⟨⟨fp,info,rfl,files,small⟩,rfl⟩) fun _ => ?_
  refine .ite (fun _ => ⟨⟨fp,info,rfl,files,small⟩,rfl⟩) fun _ => ?_
  exact ⟨⟨fp,info,rfl,files,small⟩,rfl⟩

theorem memoryByte_alike (alike : Alike dev second)
    (inside : dev.state = .RUNNING → ¬dev.addr_counter < dev.addr_size →
      dev.ByteInside) (val : u8) :
    AnswersAlike (memoryByte gameCode dev val) (memoryByte gameCode second val) := by
  have addr := addressByte_alike alike val
  have data := fun there => dataByte_alike alike there val
  obtain ⟨fp,info,rfl,files,small⟩ := alike
  unfold memoryByte
  refine .ite (fun _ => ?_) fun running => ?_
  · exact ⟨detect_alike gameCode ⟨fp,info,rfl,files,small⟩,rfl⟩
  · refine .ite (fun _ => ⟨addr,rfl⟩) fun counted => data (inside ?_ counted)
    cases st : dev.state with
    | DETECTING => exact absurd st running
    | RUNNING => rfl

theorem handleByte_alike
    (alike : Alike dev second) (inside : DataPhase dev → dev.ByteInside) (val : u8) :
    AnswersAlike (handleByte gameCode dev val) (handleByte gameCode second val) := by
  have cmd := newCommand_alike alike val
  have mem := fun there => memoryByte_alike gameCode alike there val
  obtain ⟨fp,info,rfl,files,small⟩ := alike
  unfold handleByte
  refine .ite (fun _ => ⟨⟨fp,info,rfl,files,small⟩,rfl⟩) fun _ => ?_
  refine .ite (fun moving => mem fun running counted => inside ⟨running,moving,counted⟩)
    fun _ => ?_
  refine .ite (fun _ => ⟨⟨fp,info,rfl,files,small⟩,rfl⟩) fun _ => ?_
  refine .ite (fun _ => ⟨⟨fp,info,rfl,files,small⟩,rfl⟩) fun _ => ?_
  exact .ite (fun _ => ⟨⟨fp,info,rfl,files,small⟩,rfl⟩) fun _ => cmd

inductive BusOp
  | data_command (val : u8)
  | reset_command
  deriving DecidableEq

def busStep (gameCode : List Char) (dev : BackupDevice) : BusOp → BackupDevice × List u8
  | .data_command val =>
      ((dev.data_command gameCode val).1, [(dev.data_command gameCode val).2])
  | .reset_command => (dev.reset_command, [])

def busCondition (dev : BackupDevice) : BusOp → Prop
  | .data_command _ => DataPhase dev → dev.ByteInside
  | .reset_command => True

theorem busStep_alike (alike : Alike dev second) (op : BusOp) (cond : busCondition dev op) :
    Alike (busStep gameCode dev op).1 (busStep gameCode second op).1 ∧
      (busStep gameCode second op).2 = (busStep gameCode dev op).2 := by
  cases op with
  | data_command val =>
      obtain ⟨handled,answer⟩ := handleByte_alike gameCode alike cond val
      exact ⟨checkReset_alike handled,congrArg (fun byte => [byte]) answer⟩
  | reset_command =>
      obtain ⟨fp,info,rfl,files,small⟩ := alike
      exact ⟨⟨fp,info,rfl,files,small⟩,rfl⟩

theorem answers_alike (alike : Alike dev second) (ops : List BusOp)
    (guarded : Run.Guarded (fun before op => (busStep gameCode before op).1) busCondition
      dev ops) :
    (Run.logged (busStep gameCode) second ops).2 =
      (Run.logged (busStep gameCode) dev ops).2 := by
  induction ops generalizing dev second with
  | nil => rfl
  | cons op rest ih =>
      obtain ⟨after,answer⟩ := busStep_alike gameCode alike op guarded.1
      exact congrArg₂ (· ++ ·) answer (ih after guarded.2)

end BackupDevice

end Desmume.Backup
