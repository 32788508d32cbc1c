/-
Reads of the cartridge: `GameInfo::loadROM` and `GameInfo::readROM`, with the
ROM in memory or streamed from its file.

The stream seeks only when the position asked for is not the one after the last
read.
-/

import Desmume.Types
import Desmume.Lib.Run

namespace Desmume.Card

def DSGBA_LOADER_SIZE : u32 := 512

def sizeof_NDS_header : Nat := 0x200

inductive RomType
  | ROM_NDS
  | ROM_DSGBA
  deriving DecidableEq

def headerOffset : RomType → u32
  | .ROM_NDS => 0
  | .ROM_DSGBA => DSGBA_LOADER_SIZE

/-- The width of `long` on the host: 32 bits on the PSP. -/
inductive LongModel
  | long32
  | long64

/-- The conversion of a `u32` to `long`. -/
def LongModel.ofU32 : LongModel → u32 → Int
  | .long32, val => val.toInt
  | .long64, val => val.toNat

def LongModel.LONG_MAX : LongModel → Nat
  | .long32 => 2 ^ 31 - 1
  | .long64 => 2 ^ 63 - 1

structure FILE where
  bytes : List u8
  pos : Nat

/-- `fseek(file, offset, SEEK_SET)`, which refuses a negative offset. -/
def FILE.fseek (file : FILE) (offset : Int) : FILE :=
  if offset < 0 then file else { file with pos := offset.toNat }

def FILE.fread (file : FILE) (n : Nat) : List u8 × FILE :=
  let data := (file.bytes.drop file.pos).take n
  (data, { file with pos := file.pos + data.length })

/-- `romdata` is present when the ROM has been loaded to memory. Its last four
bytes are never written and are left out. -/
structure GameInfo where
  fROM : FILE
  romdata : Option (List u8)
  romsize : u32
  lastReadPos : u32
  headerOffset : u32

/-- `pad`, after the loop that runs for every byte from `num` to 4. -/
def padding (num : Nat) : u32 :=
  (fun pad : u32 => (pad >>> 8) ||| 0xFF000000)^[4 - num] 0

def wordOf : List u8 → u32
  | [] => 0
  | byte :: rest => byte.setWidth 32 ||| (wordOf rest <<< 8)

/-- `data & ~pad | pad`. -/
def padded (data : u32) (num : Nat) : u32 := (data &&& ~~~padding num) ||| padding num

/-- What `fread` leaves in `data` when it has no more than `bytes` to put there.
The rest of `data` has never been written. -/
def overBytes (uninit : u32) (bytes : List u8) : u32 :=
  wordOf bytes ||| (uninit &&& padding bytes.length)

def readStream (long : LongModel) (uninit : u32) (info : GameInfo) (pos : u32) : u32 × GameInfo :=
  let fROM :=
    if info.lastReadPos ≠ pos then info.fROM.fseek (long.ofU32 (pos + info.headerOffset))
    else info.fROM
  let read := fROM.fread 4
  (padded (overBytes uninit read.1) read.1.length,
    { info with fROM := read.2, lastReadPos := pos + BitVec.ofNat 32 read.1.length })

/-- `*(u32*)(romdata + pos)`: no value when a byte lies outside the buffer. -/
def fastPath (romdata : List u8) (pos : u32) : Option u32 :=
  let data := (romdata.drop pos.toNat).take 4
  if data.length = 4 then some (wordOf data) else none

/-- The loop of the slow path, `count` bytes from its end. -/
def slowPath (romdata : List u8) (romsize : u32) : Nat → u32 → Option (List u8)
  | 0, _ => some []
  | count + 1, pos =>
      if pos ≥ romsize then some []
      else do
        let byte ← romdata[pos.toNat]?
        let rest ← slowPath romdata romsize count (pos + 1)
        return byte :: rest

def readMemory (romdata : List u8) (romsize pos : u32) : Option u32 :=
  if pos + 4 ≤ romsize then (fastPath romdata pos).map (fun data => padded data 4)
  else (slowPath romdata romsize 4 pos).map (fun bytes => padded (wordOf bytes) bytes.length)

/-- `GameInfo::readROM`. There is no value when it reads outside of `romdata`. -/
def readROM (long : LongModel) (uninit : u32) (info : GameInfo) (pos : u32) :
    Option u32 × GameInfo :=
  match info.romdata with
  | none =>
      let read := readStream long uninit info pos
      (some read.1, read.2)
  | some romdata => (readMemory romdata info.romsize pos, info)

/-- `GameInfo::loadROM`, as far as it decides what later reads see: a stream ends
up at the start of the ROM. -/
def loadROM (bytes : List u8) (type : RomType) (loadToMemory : Bool) : Option GameInfo :=
  let offset := headerOffset type
  let romsize := BitVec.ofNat 32 bytes.length - offset
  let header := (FILE.fread ⟨bytes,offset.toNat⟩ sizeof_NDS_header).1
  if header.length = sizeof_NDS_header then
    let fROM : FILE := ⟨bytes,offset.toNat⟩
    if loadToMemory then
      let romdata := (fROM.fread romsize.toNat).1
      if romdata.length = romsize.toNat then
        some ⟨fROM,some romdata,romsize,0xFFFFFFFF,offset⟩
      else none
    else some ⟨fROM,none,romsize,0,offset⟩
  else none

/-- A file that `loadROM` accepts, with a length that `ftell` can report and that
leaves room for `romsize + 4`. -/
structure RomFile (long : LongModel) where
  bytes : List u8
  type : RomType
  header : (headerOffset type).toNat + sizeof_NDS_header ≤ bytes.length
  tellable : bytes.length ≤ long.LONG_MAX
  allocatable : bytes.length + 4 ≤ 2 ^ 32

namespace RomFile

variable {long : LongModel} (file : RomFile long)

def offset : Nat := (headerOffset file.type).toNat

def rom : List u8 := file.bytes.drop file.offset

/-- The byte at a position of the ROM, 0xFF behind its end. -/
def byteAt (pos : Nat) : u8 := (file.rom[pos]?).getD 0xFF

def wordAt (pos : Nat) : u32 :=
  file.byteAt (pos + 3) ++ file.byteAt (pos + 2) ++ (file.byteAt (pos + 1) ++ file.byteAt pos)

/-- The position is one that both modes can address: the end of the word does not
wrap, and the seek goes where it says. -/
def Addressable (pos : u32) : Prop :=
  pos.toNat + 4 < 2 ^ 32 ∧
    long.ofU32 (pos + headerOffset file.type) = ((pos.toNat + file.offset : Nat) : Int)

theorem offset_le : file.offset ≤ 512 := by
  unfold offset
  cases file.type with
  | ROM_NDS => decide
  | ROM_DSGBA => decide

theorem length_rom : file.rom.length = file.bytes.length - file.offset := List.length_drop

theorem rom_large : 0x200 ≤ file.rom.length := by
  have header : file.offset + sizeof_NDS_header ≤ file.bytes.length := file.header
  have size : sizeof_NDS_header = 0x200 := rfl
  rw [length_rom]
  omega

theorem rom_small : file.rom.length + 4 ≤ 2 ^ 32 := by
  have small := file.allocatable
  rw [length_rom]
  omega

def romsize : u32 := BitVec.ofNat 32 file.bytes.length - headerOffset file.type

theorem toNat_romsize : file.romsize.toNat = file.rom.length := by
  have small := file.allocatable
  have header : file.offset + sizeof_NDS_header ≤ file.bytes.length := file.header
  have offset : (headerOffset file.type).toNat = file.offset := rfl
  have length : (BitVec.ofNat 32 file.bytes.length).toNat = file.bytes.length := by
    rw [BitVec.toNat_ofNat]
    omega
  unfold romsize
  rw [BitVec.toNat_sub_of_le (by rw [BitVec.le_def,length,offset]; omega),length,offset,
    length_rom]

end RomFile

variable {i : Nat}

theorem getLsbD_wordOf (bytes : List u8) (inside : i < 32) :
    (wordOf bytes).getLsbD i = ((bytes[i / 8]?).getD 0).getLsbD (i % 8) := by
  induction bytes generalizing i with
  | nil => simp [wordOf]
  | cons byte rest ih =>
      simp only [wordOf,BitVec.getLsbD_or,BitVec.getLsbD_setWidth,BitVec.getLsbD_shiftLeft]
      by_cases first : i < 8
      · have zero : i / 8 = 0 := by omega
        have same : i % 8 = i := by omega
        simp [first,zero,same,inside]
      · have next : i / 8 = (i - 8) / 8 + 1 := by omega
        have same : i % 8 = (i - 8) % 8 := by omega
        rw [ih (by omega),next,List.getElem?_cons_succ,same,
          BitVec.getLsbD_of_ge byte i (by omega)]
        simp [first,inside]

theorem getLsbD_padding {num : Nat} (bytes : num ≤ 4) (inside : i < 32) :
    (padding num).getLsbD i = decide (8 * num ≤ i) := by
  have all : ∀ num : Fin 5, ∀ i : Fin 32,
      (padding num).getLsbD i = decide (8 * num.val ≤ i.val) := by decide
  exact all ⟨num,by omega⟩ ⟨i,inside⟩

theorem padded_overBytes (uninit : u32) (bytes : List u8) (short : bytes.length ≤ 4)
    (inside : i < 32) :
    (padded (overBytes uninit bytes) bytes.length).getLsbD i =
      ((bytes[i / 8]?).getD 0xFF).getLsbD (i % 8) := by
  unfold padded overBytes
  simp only [BitVec.getLsbD_or,BitVec.getLsbD_and,BitVec.getLsbD_not,inside,decide_true,
    Bool.true_and,getLsbD_padding short inside,getLsbD_wordOf bytes inside]
  by_cases read : i / 8 < bytes.length
  · rw [decide_eq_false (by omega),List.getElem?_eq_getElem read]
    simp
  · rw [decide_eq_true (by omega),List.getElem?_eq_none (by omega)]
    have ones : ∀ bit : Fin 8, (0xFF : u8).getLsbD bit = true := by decide
    have one := ones ⟨i % 8,Nat.mod_lt _ (by norm_num)⟩
    simp only [Option.getD_none,one]
    simp

theorem getLsbD_four_bytes (first second third fourth : u8) (inside : i < 32) :
    (fourth ++ third ++ (second ++ first) : u32).getLsbD i =
      (if i / 8 = 0 then first else if i / 8 = 1 then second
        else if i / 8 = 2 then third else fourth).getLsbD (i % 8) := by
  simp only [BitVec.getLsbD_append]
  by_cases zero : i < 8
  · rw [if_pos (by omega),if_pos zero,if_pos (by omega),Nat.mod_eq_of_lt zero]
  · rw [if_neg (show i / 8 ≠ 0 by omega)]
    by_cases one : i < 16
    · rw [if_pos (by omega),if_neg zero,if_pos (by omega),
        show i % 8 = i - 8 by omega]
    · rw [if_neg (by omega),if_neg (show i / 8 ≠ 1 by omega)]
      by_cases two : i < 24
      · rw [if_pos (by omega),if_pos (by omega),show i % 8 = i - (8 + 8) by omega]
      · rw [if_neg (by omega),if_neg (by omega),
          show i % 8 = i - (8 + 8) - 8 by omega]

theorem padded_eq_wordAt {long : LongModel} (file : RomFile long) (uninit : u32) (pos : Nat) :
    padded (overBytes uninit ((file.rom.drop pos).take 4)) ((file.rom.drop pos).take 4).length =
      file.wordAt pos := by
  have short : ((file.rom.drop pos).take 4).length ≤ 4 := List.length_take_le _ _
  apply BitVec.eq_of_getLsbD_eq
  intro i inside
  rw [padded_overBytes uninit _ short inside]
  unfold RomFile.wordAt
  rw [getLsbD_four_bytes _ _ _ _ inside,List.getElem?_take_of_lt (by omega),List.getElem?_drop]
  have byte : i / 8 = 0 ∨ i / 8 = 1 ∨ i / 8 = 2 ∨ i / 8 = 3 := by omega
  rcases byte with first | second | third | fourth
  · simp [first,RomFile.byteAt]
  · simp [second,RomFile.byteAt]
  · simp [third,RomFile.byteAt]
  · simp [fourth,RomFile.byteAt]

structure Read where
  pos : u32
  uninit : u32

def readStep (long : LongModel) (info : GameInfo) (read : Read) : GameInfo × List (Option u32) :=
  let answer := readROM long read.uninit info read.pos
  (answer.2, [answer.1])

def answers (long : LongModel) (info : GameInfo) (reads : List Read) : List (Option u32) :=
  (Run.logged (readStep long) info reads).2

variable {long : LongModel} (file : RomFile long)

def RomFile.stream : GameInfo :=
  ⟨⟨file.bytes,file.offset⟩,none,file.romsize,0,headerOffset file.type⟩

def RomFile.memory : GameInfo :=
  ⟨⟨file.bytes,file.offset⟩,some file.rom,file.romsize,0xFFFFFFFF,headerOffset file.type⟩

theorem header_read : ((FILE.fread ⟨file.bytes,file.offset⟩ sizeof_NDS_header).1).length =
    sizeof_NDS_header := by
  have header : file.offset + sizeof_NDS_header ≤ file.bytes.length := file.header
  change ((file.bytes.drop file.offset).take sizeof_NDS_header).length = _
  rw [List.length_take,List.length_drop]
  omega

theorem loadROM_stream : loadROM file.bytes file.type false = some file.stream := by
  unfold loadROM
  exact if_pos (header_read file)

theorem loadROM_memory : loadROM file.bytes file.type true = some file.memory := by
  have whole : ((FILE.fread ⟨file.bytes,file.offset⟩ file.romsize.toNat).1) = file.rom := by
    change (file.bytes.drop file.offset).take file.romsize.toNat = file.rom
    rw [file.toNat_romsize]
    exact List.take_length
  unfold loadROM
  refine (if_pos (header_read file)).trans ?_
  change (if ((FILE.fread ⟨file.bytes,file.offset⟩ file.romsize.toNat).1).length =
      file.romsize.toNat then _ else _) = _
  rw [if_pos (by rw [whole,file.toNat_romsize])]
  change some (GameInfo.mk _ (some (FILE.fread ⟨file.bytes,file.offset⟩
    file.romsize.toNat).1) _ _ _) = _
  rw [whole]
  rfl

theorem slowPath_eq (n : Nat) (pos : u32) :
    slowPath file.rom file.romsize n pos = some ((file.rom.drop pos.toNat).take n) := by
  have size := file.toNat_romsize
  have small := file.rom_small
  induction n generalizing pos with
  | zero => rfl
  | succ n ih =>
      unfold slowPath
      by_cases behind : pos ≥ file.romsize
      · rw [if_pos behind]
        rw [ge_iff_le,BitVec.le_def,size] at behind
        rw [List.drop_eq_nil_of_le behind,List.take_nil]
      · rw [if_neg behind]
        have before : pos.toNat < file.rom.length := by
          rw [ge_iff_le,BitVec.le_def,size] at behind
          omega
        have next : (pos + 1).toNat = pos.toNat + 1 := by
          rw [BitVec.toNat_add]
          change (pos.toNat + 1) % 2 ^ 32 = _
          omega
        rw [ih,next,List.getElem?_eq_getElem before,List.drop_eq_getElem_cons before]
        rfl

theorem overBytes_zero (bytes : List u8) : overBytes 0 bytes = wordOf bytes := by
  unfold overBytes
  simp

theorem readMemory_word {pos : u32} (below : pos.toNat + 4 < 2 ^ 32) :
    readMemory file.rom file.romsize pos = some (file.wordAt pos.toNat) := by
  have word := padded_eq_wordAt file 0 pos.toNat
  rw [overBytes_zero] at word
  unfold readMemory
  by_cases inside : pos + 4 ≤ file.romsize
  · have next : (pos + 4).toNat = pos.toNat + 4 := by
      rw [BitVec.toNat_add]
      change (pos.toNat + 4) % 2 ^ 32 = _
      omega
    have full : ((file.rom.drop pos.toNat).take 4).length = 4 := by
      rw [BitVec.le_def,next,file.toNat_romsize] at inside
      rw [List.length_take,List.length_drop]
      omega
    rw [full] at word
    rw [if_pos inside,fastPath,if_pos full,Option.map_some,word]
  · rw [if_neg inside,slowPath_eq,Option.map_some,word]

theorem readMemory_outside {pos : u32} (last : 2 ^ 32 ≤ pos.toNat + 4) :
    readMemory file.rom file.romsize pos = none := by
  have large := file.rom_large
  have small := file.rom_small
  have bound := pos.isLt
  have wrapped : (pos + 4).toNat = pos.toNat + 4 - 2 ^ 32 := by
    rw [BitVec.toNat_add]
    change (pos.toNat + 4) % 2 ^ 32 = _
    omega
  have inside : pos + 4 ≤ file.romsize := by
    rw [BitVec.le_def,wrapped,file.toNat_romsize]
    omega
  unfold readMemory fastPath
  rw [if_pos inside,List.drop_eq_nil_of_le (by omega)]
  rfl

theorem readMemory_iff (pos : u32) :
    readMemory file.rom file.romsize pos = some (file.wordAt pos.toNat) ↔
      pos.toNat + 4 < 2 ^ 32 := by
  constructor
  · intro word
    by_contra last
    rw [readMemory_outside file (by omega)] at word
    exact nomatch word
  · exact readMemory_word file

structure Streaming (info : GameInfo) : Prop where
  bytes : info.fROM.bytes = file.bytes
  pos : info.fROM.pos = info.lastReadPos.toNat + file.offset
  romdata : info.romdata = none
  headerOffset : info.headerOffset = headerOffset file.type

theorem streaming_stream : Streaming file file.stream :=
  ⟨rfl,(Nat.zero_add _).symm,rfl,rfl⟩

theorem readStream_word {info : GameInfo} (streaming : Streaming file info) {read : Read}
    (addressable : file.Addressable read.pos) :
    (readROM long read.uninit info read.pos).1 = some (file.wordAt read.pos.toNat) ∧
      Streaming file (readROM long read.uninit info read.pos).2 := by
  obtain ⟨below,seeks⟩ := addressable
  let fROM := if info.lastReadPos ≠ read.pos then
    info.fROM.fseek (long.ofU32 (read.pos + info.headerOffset)) else info.fROM
  have bytes : fROM.bytes = file.bytes := by
    change (if _ then _ else _ : FILE).bytes = _
    split
    next =>
      unfold FILE.fseek
      split
      next => exact streaming.bytes
      next => exact streaming.bytes
    next => exact streaming.bytes
  have pos : fROM.pos = read.pos.toNat + file.offset := by
    change (if _ then _ else _ : FILE).pos = _
    split
    next =>
      rw [streaming.headerOffset,seeks,FILE.fseek,if_neg (by omega)]
      rfl
    next same =>
      rw [streaming.pos,not_not.mp same]
  have data : (fROM.fread 4).1 = (file.rom.drop read.pos.toNat).take 4 := by
    change (fROM.bytes.drop fROM.pos).take 4 = _
    rw [bytes,pos,RomFile.rom,List.drop_drop,Nat.add_comm]
  have short : ((file.rom.drop read.pos.toNat).take 4).length ≤ 4 := List.length_take_le _ _
  have answer : readROM long read.uninit info read.pos =
      (some (padded (overBytes read.uninit (fROM.fread 4).1) (fROM.fread 4).1.length),
        { info with
          fROM := (fROM.fread 4).2
          lastReadPos := read.pos + BitVec.ofNat 32 (fROM.fread 4).1.length }) := by
    unfold readROM
    split
    next => rfl
    next romdata loaded => cases streaming.romdata.symm.trans loaded
  rw [answer]
  constructor
  · rw [data,padded_eq_wordAt]
  · refine ⟨bytes,?_,streaming.romdata,streaming.headerOffset⟩
    change fROM.pos + (fROM.fread 4).1.length =
      (read.pos + BitVec.ofNat 32 (fROM.fread 4).1.length).toNat + file.offset
    rw [data,pos,BitVec.toNat_add,BitVec.toNat_ofNat]
    omega

theorem answers_stream {info : GameInfo} (streaming : Streaming file info) {reads : List Read}
    (addressable : ∀ read ∈ reads, file.Addressable read.pos) :
    answers long info reads = reads.map (fun read => some (file.wordAt read.pos.toNat)) := by
  induction reads generalizing info with
  | nil => rfl
  | cons read rest ih =>
      obtain ⟨here,later⟩ := List.forall_mem_cons.mp addressable
      obtain ⟨word,next⟩ := readStream_word file streaming here
      change (readROM long read.uninit info read.pos).1 ::
        answers long (readROM long read.uninit info read.pos).2 rest = _
      rw [word,ih next later,List.map_cons]

variable (reads : List Read)

theorem answers_memory :
    answers long file.memory reads =
      reads.map (fun read => readMemory file.rom file.romsize read.pos) := by
  induction reads with
  | nil => rfl
  | cons read rest ih =>
      change readMemory file.rom file.romsize read.pos :: answers long file.memory rest = _
      rw [ih,List.map_cons]

theorem answers_memory_iff :
    answers long file.memory reads = reads.map (fun read => some (file.wordAt read.pos.toNat)) ↔
      ∀ read ∈ reads, read.pos.toNat + 4 < 2 ^ 32 := by
  rw [answers_memory,List.map_inj_left]
  exact forall₂_congr (fun read _ => readMemory_iff file read.pos)

theorem addressable_iff (pos : u32) :
    file.Addressable pos ↔
      match long with
      | .long32 => pos.toNat + file.offset < 2 ^ 31
      | .long64 => pos.toNat + 4 < 2 ^ 32 ∧ pos.toNat + file.offset < 2 ^ 32 := by
  have bound := pos.isLt
  have offset := file.offset_le
  have sum : (pos + headerOffset file.type).toNat = (pos.toNat + file.offset) % 2 ^ 32 :=
    BitVec.toNat_add _ _
  unfold RomFile.Addressable
  cases long with
  | long32 =>
      change _ ∧ (pos + headerOffset file.type).toInt = _ ↔ _
      rw [BitVec.toInt_eq_toNat_cond,sum]
      dsimp only
      constructor
      · rintro ⟨-,seeks⟩
        split at seeks
        next => omega
        next => omega
      · intro below
        rw [Nat.mod_eq_of_lt (by omega),if_pos (by omega)]
        exact ⟨by omega,rfl⟩
  | long64 =>
      change _ ∧ ((pos + headerOffset file.type).toNat : Int) = _ ↔ _
      rw [sum]
      dsimp only
      omega

/-- In memory every read of a history is the word of the ROM exactly when none of
them is at one of the last four positions, and it reads outside of the buffer
otherwise. From the file every read of a history of addressable positions is the
word of the ROM too. -/
theorem readROM_words :
    loadROM file.bytes file.type true = some file.memory ∧
    loadROM file.bytes file.type false = some file.stream ∧
    (answers long file.memory reads =
        reads.map (fun read => some (file.wordAt read.pos.toNat)) ↔
      ∀ read ∈ reads, read.pos.toNat + 4 < 2 ^ 32) ∧
    ((∀ read ∈ reads, file.Addressable read.pos) →
      answers long file.stream reads =
        reads.map (fun read => some (file.wordAt read.pos.toNat))) :=
  ⟨loadROM_memory file,loadROM_stream file,answers_memory_iff file reads,
    answers_stream file (streaming_stream file)⟩

def blankRom : RomFile .long32 where
  bytes := List.replicate 0x200 0
  type := .ROM_NDS
  header := by
    rw [List.length_replicate]
    decide
  tellable := by
    rw [List.length_replicate]
    decide
  allocatable := by
    rw [List.length_replicate]
    decide

/-- A read of the last word and one across the end, in both modes. -/
theorem readROM_words_blank :
    answers .long32 blankRom.memory [⟨0x1FC,0⟩,⟨0x1FE,0⟩] = [some 0,some 0xFFFF0000] ∧
      answers .long32 blankRom.stream [⟨0x1FC,0⟩,⟨0x1FE,0⟩] = [some 0,some 0xFFFF0000] := by
  obtain ⟨-,-,mem,stream⟩ := readROM_words blankRom [⟨0x1FC,0⟩,⟨0x1FE,0⟩]
  have addressable : ∀ read ∈ ([⟨0x1FC,0⟩,⟨0x1FE,0⟩] : List Read),
      blankRom.Addressable read.pos := by
    intro read member
    rw [addressable_iff]
    revert read member
    decide
  refine ⟨(mem.mpr (fun read member => (addressable read member).1)).trans ?_,
    (stream addressable).trans ?_⟩
  · decide +kernel
  · decide +kernel

/-- In memory the word at the last but three positions is read from outside of the
buffer. -/
theorem readROM_outside_buffer :
    ¬ ∀ (long : LongModel) (file : RomFile long) (reads : List Read),
      answers long file.memory reads =
          reads.map (fun read => some (file.wordAt read.pos.toNat)) ∧
        answers long file.stream reads =
          reads.map (fun read => some (file.wordAt read.pos.toNat)) := by
  intro everywhere
  have mem := (everywhere .long32 blankRom [⟨0xFFFFFFFC,0⟩]).1
  have below := (answers_memory_iff blankRom _).mp mem ⟨0xFFFFFFFC,0⟩ List.mem_cons_self
  exact absurd below (by decide)

end Desmume.Card
