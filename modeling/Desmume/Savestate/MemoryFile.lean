/-
The memory file: `EMUFILE_MEMORY`.

Position, length and the size of the vector move apart: a seek behind the end
reserves storage and leaves the length alone.
-/

import Desmume.Types
import Desmume.Lib.Overwrite
import Desmume.Lib.Run

namespace Desmume.MemoryFile

open Overwrite (overwrite length_overwrite)

/-- The sum of two `s32`, which has no value when it overflows. -/
def addS32 (first second : Int) : Option Int :=
  if -2 ^ 31 ≤ first + second ∧ first + second < 2 ^ 31 then some (first + second) else none

/-- The conversion of an integer to `u32`. -/
def toU32 (val : Int) : Nat := (val % 2 ^ 32).toNat

/-- The conversion of an unsigned integer to `s32`. -/
def toS32 (val : Nat) : Int := (BitVec.ofNat 32 val).toInt

inductive Origin
  | SEEK_SET
  | SEEK_CUR
  | SEEK_END

structure EMUFILE_MEMORY where
  vec : List u8
  pos : Int
  len : Int
  failbit : Bool

namespace EMUFILE_MEMORY

variable (file : EMUFILE_MEMORY)

def reserve (amt : Nat) : EMUFILE_MEMORY :=
  if file.vec.length < amt then
    { file with vec := file.vec ++ List.replicate (amt - file.vec.length) 0 }
  else file

/-- The file behind `buf()`, which makes room for one byte in an empty file. -/
def buf : EMUFILE_MEMORY := if file.len = 0 then file.reserve 1 else file

/-- Bytes read from `buf() + pos`: no value when one lies outside of the vector. -/
def load (n : Nat) : Option (List u8) :=
  if 0 ≤ file.pos ∧ file.pos + n ≤ file.vec.length then
    some ((file.vec.drop file.pos.toNat).take n)
  else none

/-- Bytes stored at `buf() + pos`, likewise. -/
def store (data : List u8) : Option EMUFILE_MEMORY :=
  if 0 ≤ file.pos ∧ file.pos + data.length ≤ file.vec.length then
    some { file with vec := overwrite 0 file.vec file.pos.toNat data }
  else none

def truncate (length : Int) : EMUFILE_MEMORY :=
  { file with
    vec := file.vec.take length.toNat ++ List.replicate (length.toNat - file.vec.length) 0
    len := length
    pos := if file.pos > length then length else file.pos }

/-- `len - pos` as a `u32`. -/
def remain : Nat := toU32 (file.len - file.pos)

def fgetc : Option (Int × EMUFILE_MEMORY) :=
  if file.remain < 1 then some (-1, { file with failbit := true })
  else do
    let file := file.buf
    let temp ← file.load 1
    let pos ← addS32 file.pos 1
    return ((temp.headD 0).toNat, { file with pos := pos })

/-- `_fread`: the bytes, of which the source returns the number. -/
def fread (bytes : Nat) : Option (List u8 × EMUFILE_MEMORY) :=
  let todo := min file.remain (bytes % 2 ^ 32)
  if file.len = 0 then some ([], { file with failbit := true })
  else do
    let file := file.buf
    let data ← file.load todo
    return (data,
      { file with
        pos := toS32 (toU32 file.pos + todo)
        failbit := if todo < bytes then true else file.failbit })

def fwrite (data : List u8) : Option EMUFILE_MEMORY := do
  let stop ← addS32 file.pos (toS32 data.length)
  let file ← (file.reserve (toU32 stop)).buf.store data
  return { file with pos := stop, len := max stop file.len }

def fputc (c : Int) : Option EMUFILE_MEMORY := file.fwrite [BitVec.ofInt 8 c]

def base : Origin → Int
  | .SEEK_SET => 0
  | .SEEK_CUR => file.pos
  | .SEEK_END => file.len

def fseek (off : Int) (origin : Origin) : Option EMUFILE_MEMORY := do
  let pos ← addS32 (file.base origin) off
  return { file with pos := pos }.reserve (toU32 pos)

end EMUFILE_MEMORY

inductive Op
  | fwrite (data : List u8)
  | fputc (c : Int)
  | fseek (off : Int) (origin : Origin)
  | truncate (length : Int)
  | fgetc
  | fread (bytes : Nat)

def step (file : EMUFILE_MEMORY) : Op → EMUFILE_MEMORY
  | .fwrite data => (file.fwrite data).getD file
  | .fputc c => (file.fputc c).getD file
  | .fseek off origin => (file.fseek off origin).getD file
  | .truncate length => file.truncate length
  | .fgetc => (file.fgetc.map Prod.snd).getD file
  | .fread bytes => ((file.fread bytes).map Prod.snd).getD file

/-- A seek goes to a target that is an `int` and not negative, and so is the
length a file is truncated to. -/
def InDomain (file : EMUFILE_MEMORY) : Op → Prop
  | .fseek off origin => 0 ≤ file.base origin + off ∧ file.base origin + off < 2 ^ 31
  | .truncate length => 0 ≤ length ∧ length < 2 ^ 31
  | _ => True

def EMUFILE_MEMORY.contents (file : EMUFILE_MEMORY) : List u8 := file.vec.take file.len.toNat

/-- What a read of `bytes` bytes is to give and to leave. -/
structure ReadRight (file : EMUFILE_MEMORY) (bytes : Nat) (data : List u8)
    (next : EMUFILE_MEMORY) : Prop where
  data_eq : data = (file.contents.drop file.pos.toNat).take bytes
  count : data.length = min bytes (file.len - file.pos).toNat
  failbit : next.failbit = true ↔ file.failbit = true ∨ data.length < bytes

/-- What `fgetc` returns of the bytes it has read. -/
def returned : List u8 → Int
  | [] => -1
  | byte :: _ => byte.toNat

/-- A call has a value, which it has not when it touches storage outside of the
vector, and a read gives the bytes of the file. -/
def StepRight (file : EMUFILE_MEMORY) : Op → Prop
  | .fwrite data => ∃ next, file.fwrite data = some next ∧ next.pos = file.pos + data.length
  | .fputc c => ∃ next, file.fputc c = some next ∧ next.pos = file.pos + 1
  | .fseek off origin => (file.fseek off origin).isSome = true
  | .truncate _ => True
  | .fgetc => ∃ data next, file.fgetc = some (returned data, next) ∧ ReadRight file 1 data next
  | .fread bytes => ∃ data next, file.fread bytes = some (data, next) ∧
      ReadRight file bytes data next

/-- A read starts no later than the end, and a write ends below 2 GiB. An empty
file is not asked for nothing while the failbit is clear; a count from 4 GiB on,
which is cut to its low half, still covers what remains. -/
def ReadsInside (file : EMUFILE_MEMORY) : Op → Prop
  | .fwrite data => file.pos + data.length < 2 ^ 31
  | .fputc _ => file.pos + 1 < 2 ^ 31
  | .fgetc => file.pos ≤ file.len
  | .fread bytes =>
      if file.len = 0 then bytes ≠ 0 ∨ file.failbit = true
      else if file.pos ≤ file.len then
        bytes < 2 ^ 32 ∨ (file.len - file.pos).toNat ≤ bytes % 2 ^ 32
      else bytes % 2 ^ 32 = 0
  | _ => True

instance (file : EMUFILE_MEMORY) : ∀ op, Decidable (ReadsInside file op)
  | .fwrite data => inferInstanceAs (Decidable (file.pos + data.length < 2 ^ 31))
  | .fputc _ => inferInstanceAs (Decidable (file.pos + 1 < 2 ^ 31))
  | .fgetc => inferInstanceAs (Decidable (file.pos ≤ file.len))
  | .fread bytes => inferInstanceAs (Decidable (if file.len = 0 then
      bytes ≠ 0 ∨ file.failbit = true
      else if file.pos ≤ file.len then
        bytes < 2 ^ 32 ∨ (file.len - file.pos).toNat ≤ bytes % 2 ^ 32
      else bytes % 2 ^ 32 = 0))
  | .fseek _ _ => isTrue trivial
  | .truncate _ => isTrue trivial

/-- Position and length lie in the vector, which is smaller than 2 GiB. -/
structure Sound (file : EMUFILE_MEMORY) : Prop where
  len_nonneg : 0 ≤ file.len
  len_le : file.len ≤ file.vec.length
  pos_nonneg : 0 ≤ file.pos
  pos_le : file.pos ≤ file.vec.length
  size_lt : file.vec.length < 2 ^ 31

def LenInside (file : EMUFILE_MEMORY) : Prop := file.len ≤ file.vec.length

theorem toU32_of_nonneg {val : Int} (nonneg : 0 ≤ val) (small : val < 2 ^ 32) :
    toU32 val = val.toNat := by
  unfold toU32
  rw [Int.emod_eq_of_lt nonneg small]

theorem toU32_of_neg {val : Int} (negative : val < 0) (large : -2 ^ 32 ≤ val) :
    toU32 val = (val + 2 ^ 32).toNat := by
  unfold toU32
  omega

theorem toS32_of_lt {val : Nat} (small : val < 2 ^ 31) : toS32 val = val := by
  unfold toS32
  rw [BitVec.toInt_eq_toNat_cond,BitVec.toNat_ofNat,Nat.mod_eq_of_lt (by omega),
    if_pos (by omega)]

theorem addS32_of_inside {first second : Int} (low : 0 ≤ first + second)
    (high : first + second < 2 ^ 31) : addS32 first second = some (first + second) :=
  if_pos ⟨by omega,high⟩

theorem addS32_eq_some {first second sum : Int} (defined : addS32 first second = some sum) :
    sum = first + second ∧ sum < 2 ^ 31 := by
  obtain ⟨inside,same⟩ := Option.ite_none_right_eq_some.mp defined
  have equal := Option.some.inj same
  exact ⟨equal.symm,equal ▸ inside.2⟩

namespace EMUFILE_MEMORY

variable {file : EMUFILE_MEMORY}

theorem length_reserve (amt : Nat) : (file.reserve amt).vec.length = max file.vec.length amt := by
  unfold reserve
  split
  next =>
    simp only [List.length_append,List.length_replicate]
    omega
  next => omega

@[simp] theorem pos_reserve (amt : Nat) : (file.reserve amt).pos = file.pos := by
  unfold reserve
  split
  next => rfl
  next => rfl

@[simp] theorem len_reserve (amt : Nat) : (file.reserve amt).len = file.len := by
  unfold reserve
  split
  next => rfl
  next => rfl

@[simp] theorem pos_buf : file.buf.pos = file.pos := by
  unfold buf
  split
  next => exact pos_reserve 1
  next => rfl

@[simp] theorem len_buf : file.buf.len = file.len := by
  unfold buf
  split
  next => exact len_reserve 1
  next => rfl

theorem buf_of_nonempty (nonempty : file.len ≠ 0) : file.buf = file := if_neg nonempty

theorem length_buf_le : file.vec.length ≤ file.buf.vec.length := by
  unfold buf
  split
  next =>
    rw [length_reserve]
    exact Nat.le_max_left _ _
  next => exact le_rfl

theorem length_buf : file.buf.vec.length ≤ max file.vec.length 1 := by
  unfold buf
  split
  next => rw [length_reserve]
  next => exact Nat.le_max_left _ _

theorem load_of_inside {n : Nat} (nonneg : 0 ≤ file.pos) (inside : file.pos + n ≤ file.vec.length) :
    file.load n = some ((file.vec.drop file.pos.toNat).take n) :=
  if_pos ⟨nonneg,inside⟩

theorem length_of_load {n : Nat} {data : List u8} (loaded : file.load n = some data) :
    data.length = n := by
  obtain ⟨inside,same⟩ := Option.ite_none_right_eq_some.mp loaded
  rw [← Option.some.inj same,List.length_take,List.length_drop]
  omega

theorem store_of_inside {data : List u8} (nonneg : 0 ≤ file.pos)
    (inside : file.pos + data.length ≤ file.vec.length) :
    file.store data = some { file with vec := overwrite 0 file.vec file.pos.toNat data } :=
  if_pos ⟨nonneg,inside⟩

theorem remain_before (nonneg : 0 ≤ file.pos) (before : file.pos ≤ file.len)
    (small : file.len < 2 ^ 31) : file.remain = (file.len - file.pos).toNat :=
  toU32_of_nonneg (by omega) (by omega)

theorem remain_behind (nonneg : 0 ≤ file.len) (behind : file.len < file.pos)
    (small : file.pos < 2 ^ 31) : 2 ^ 31 < file.remain := by
  unfold remain
  rw [toU32_of_neg (by omega) (by omega)]
  omega

end EMUFILE_MEMORY

namespace Sound

variable {file : EMUFILE_MEMORY}

theorem pos_lt (sound : Sound file) : file.pos < 2 ^ 31 := by
  have inside := sound.pos_le
  have small := sound.size_lt
  omega

theorem len_lt (sound : Sound file) : file.len < 2 ^ 31 := by
  have inside := sound.len_le
  have small := sound.size_lt
  omega

end Sound

theorem contents_drop_take {file : EMUFILE_MEMORY} (sound : Sound file) (bytes : Nat) :
    (file.contents.drop file.pos.toNat).take bytes =
      (file.vec.drop file.pos.toNat).take (min bytes (file.len - file.pos).toNat) := by
  have nonneg := sound.pos_nonneg
  have stop : file.len.toNat - file.pos.toNat = (file.len - file.pos).toNat := by
    have nonneg' := sound.len_nonneg
    omega
  unfold EMUFILE_MEMORY.contents
  rw [List.drop_take,List.take_take,stop]

theorem readRight_load_iff {file next : EMUFILE_MEMORY} (sound : Sound file) {bytes todo : Nat}
    {data : List u8} (loaded : file.load todo = some data)
    (failbit : next.failbit = true ↔ file.failbit = true ∨ todo < bytes) :
    ReadRight file bytes data next ↔ todo = min bytes (file.len - file.pos).toNat := by
  have length := EMUFILE_MEMORY.length_of_load loaded
  constructor
  · intro right
    rw [← length,right.count]
  · intro exactly
    refine ⟨?_,length.trans exactly,length.symm ▸ failbit⟩
    obtain ⟨inside,same⟩ := Option.ite_none_right_eq_some.mp loaded
    rw [contents_drop_take sound,← Option.some.inj same,exactly]

theorem fread_empty {file : EMUFILE_MEMORY} (empty : file.len = 0) (bytes : Nat) :
    file.fread bytes = some ([], { file with failbit := true }) := if_pos empty

theorem fread_nonempty {file : EMUFILE_MEMORY} (nonempty : file.len ≠ 0) (bytes : Nat) :
    file.fread bytes = (file.load (min file.remain (bytes % 2 ^ 32))).map (fun data =>
      (data,
        { file with
          pos := toS32 (toU32 file.pos + min file.remain (bytes % 2 ^ 32))
          failbit := if min file.remain (bytes % 2 ^ 32) < bytes then true
            else file.failbit })) := by
  unfold EMUFILE_MEMORY.fread
  rw [if_neg nonempty,EMUFILE_MEMORY.buf_of_nonempty nonempty]
  dsimp only
  cases file.load (min file.remain (bytes % 2 ^ 32)) with
  | none => rfl
  | some data => rfl

theorem set_failbit_iff (failbit : Bool) (short : Prop) [Decidable short] :
    (if short then true else failbit) = true ↔ failbit = true ∨ short := by
  by_cases less : short
  · rw [if_pos less]
    exact iff_of_true rfl (Or.inr less)
  · rw [if_neg less]
    exact (or_iff_left less).symm

theorem read_right_iff {file : EMUFILE_MEMORY} (sound : Sound file) (bytes todo : Nat)
    (pos : Int) :
    (∃ data next, (file.load todo).map (fun data =>
        (data,
          { file with pos := pos, failbit := if todo < bytes then true else file.failbit })) =
        some (data, next) ∧ ReadRight file bytes data next) ↔
      todo = min bytes (file.len - file.pos).toNat := by
  constructor
  · rintro ⟨data,next,same,right⟩
    obtain ⟨loadedData,loaded,pair⟩ := Option.map_eq_some_iff.mp same
    obtain ⟨rfl,rfl⟩ := Prod.mk.inj pair
    exact (readRight_load_iff sound loaded (set_failbit_iff file.failbit _)).mp right
  · intro exactly
    have nonneg := sound.pos_nonneg
    have inVec := sound.pos_le
    have lenInVec := sound.len_le
    have loaded := @EMUFILE_MEMORY.load_of_inside file todo nonneg (by omega)
    refine ⟨_,_,congrArg (Option.map _) loaded,?_⟩
    exact (readRight_load_iff sound loaded (set_failbit_iff file.failbit _)).mpr exactly

theorem fread_right_iff {file : EMUFILE_MEMORY} (sound : Sound file) (bytes : Nat) :
    StepRight file (.fread bytes) ↔ ReadsInside file (.fread bytes) := by
  change (∃ data next, file.fread bytes = some (data, next) ∧ _) ↔ (if _ then _ else _)
  by_cases empty : file.len = 0
  · rw [if_pos empty,fread_empty empty]
    have nothing : (file.len - file.pos).toNat = 0 := by
      have nonneg := sound.pos_nonneg
      omega
    constructor
    · rintro ⟨data,next,same,right⟩
      obtain ⟨rfl,rfl⟩ := Prod.mk.inj (Option.some.inj same)
      rcases right.failbit.mp rfl with already | short
      · exact Or.inr already
      · exact Or.inl (Nat.ne_of_gt short)
    · intro asked
      refine ⟨[],_,rfl,?_,?_,?_⟩
      · rw [contents_drop_take sound,nothing,Nat.min_zero,List.take_zero]
      · rw [nothing,Nat.min_zero,List.length_nil]
      · refine iff_of_true rfl ?_
        exact asked.symm.imp_right Nat.pos_of_ne_zero
  · rw [if_neg empty,fread_nonempty empty]
    refine (read_right_iff sound bytes _ _).trans ?_
    have nonneg := sound.pos_nonneg
    have small := sound.pos_lt
    by_cases before : file.pos ≤ file.len
    · rw [if_pos before,EMUFILE_MEMORY.remain_before nonneg before sound.len_lt]
      omega
    · have many := EMUFILE_MEMORY.remain_behind sound.len_nonneg (not_le.mp before) small
      rw [if_neg before]
      omega

theorem fgetc_at_end {file : EMUFILE_MEMORY} (none : file.remain < 1) :
    file.fgetc = some (-1, { file with failbit := true }) := if_pos none

theorem fgetc_before {file : EMUFILE_MEMORY} (sound : Sound file) (before : file.pos < file.len) :
    ∃ byte, file.load 1 = some [byte] ∧
      file.fgetc = some ((byte.toNat : Int), { file with pos := file.pos + 1 }) := by
  have nonneg := sound.pos_nonneg
  have lenInVec := sound.len_le
  have small := sound.len_lt
  have loaded := @EMUFILE_MEMORY.load_of_inside file 1 nonneg (by omega)
  obtain ⟨byte,single⟩ := List.length_eq_one_iff.mp (EMUFILE_MEMORY.length_of_load loaded)
  rw [single] at loaded
  refine ⟨byte,loaded,?_⟩
  have some_left : ¬ file.remain < 1 := by
    rw [EMUFILE_MEMORY.remain_before nonneg before.le small]
    omega
  unfold EMUFILE_MEMORY.fgetc
  rw [if_neg some_left,EMUFILE_MEMORY.buf_of_nonempty (by omega)]
  dsimp only
  rw [loaded,addS32_of_inside (by omega) (by omega)]
  rfl

theorem fgetc_behind {file : EMUFILE_MEMORY} (sound : Sound file) (behind : file.len < file.pos)
    (next : EMUFILE_MEMORY) : file.fgetc ≠ some (-1, next) := by
  have many := EMUFILE_MEMORY.remain_behind sound.len_nonneg behind sound.pos_lt
  intro ended
  unfold EMUFILE_MEMORY.fgetc at ended
  rw [if_neg (by omega)] at ended
  obtain ⟨temp,-,rest⟩ := Option.bind_eq_some_iff.mp ended
  obtain ⟨pos,-,same⟩ := Option.bind_eq_some_iff.mp rest
  have val := congrArg Prod.fst (Option.some.inj same)
  dsimp only at val
  omega

theorem fgetc_right_iff {file : EMUFILE_MEMORY} (sound : Sound file) :
    StepRight file .fgetc ↔ ReadsInside file .fgetc := by
  change (∃ data next, _ ∧ _) ↔ file.pos ≤ file.len
  have nonneg := sound.pos_nonneg
  constructor
  · rintro ⟨data,next,ended,right⟩
    by_contra behind
    have nothing : data = [] := by
      have n := right.count
      rw [← List.length_eq_zero_iff]
      omega
    rw [nothing] at ended
    exact fgetc_behind sound (not_le.mp behind) next ended
  · intro inside
    rcases inside.lt_or_eq with before | atEnd
    · obtain ⟨byte,loaded,read⟩ := fgetc_before sound before
      refine ⟨[byte],_,read,?_⟩
      refine (readRight_load_iff sound loaded ?_).mpr (by omega)
      exact (or_iff_left (lt_irrefl 1)).symm
    · have none : file.remain < 1 := by
        rw [EMUFILE_MEMORY.remain_before nonneg inside sound.len_lt]
        omega
      have nothing : (file.len - file.pos).toNat = 0 := by omega
      refine ⟨[],_,fgetc_at_end none,?_,?_,?_⟩
      · rw [contents_drop_take sound,nothing,Nat.min_zero,List.take_zero]
      · rw [nothing,Nat.min_zero,List.length_nil]
      · exact iff_of_true rfl (Or.inr Nat.zero_lt_one)

/-! ### Writes and seeks -/

def roomFor (file : EMUFILE_MEMORY) (n : Nat) : EMUFILE_MEMORY :=
  (file.reserve (file.pos + n).toNat).buf

theorem length_roomFor_le (file : EMUFILE_MEMORY) (n : Nat) :
    (roomFor file n).vec.length ≤
      max (max file.vec.length (file.pos + n).toNat) 1 := by
  unfold roomFor
  refine EMUFILE_MEMORY.length_buf.trans ?_
  rw [EMUFILE_MEMORY.length_reserve]

theorem le_length_roomFor (file : EMUFILE_MEMORY) (n : Nat) :
    max file.vec.length (file.pos + n).toNat ≤ (roomFor file n).vec.length := by
  unfold roomFor
  refine le_trans ?_ EMUFILE_MEMORY.length_buf_le
  rw [EMUFILE_MEMORY.length_reserve]

theorem fwrite_inside {file : EMUFILE_MEMORY} (sound : Sound file) {data : List u8}
    (below : file.pos + data.length < 2 ^ 31) :
    file.fwrite data = some
      { vec := overwrite 0 (roomFor file data.length).vec file.pos.toNat data
        pos := file.pos + data.length
        len := max (file.pos + data.length) file.len
        failbit := (roomFor file data.length).failbit } := by
  have nonneg := sound.pos_nonneg
  have room := le_length_roomFor file data.length
  have pos : (roomFor file data.length).pos = file.pos := by
    unfold roomFor
    rw [EMUFILE_MEMORY.pos_buf,EMUFILE_MEMORY.pos_reserve]
  have len : (roomFor file data.length).len = file.len := by
    unfold roomFor
    rw [EMUFILE_MEMORY.len_buf,EMUFILE_MEMORY.len_reserve]
  have stored := @EMUFILE_MEMORY.store_of_inside (roomFor file data.length) data (by omega)
    (by omega)
  unfold EMUFILE_MEMORY.fwrite
  rw [toS32_of_lt (by omega),addS32_of_inside (by omega) below]
  change (do
    let next ← (EMUFILE_MEMORY.buf (file.reserve (toU32 (file.pos + data.length)))).store data
    return { next with pos := file.pos + data.length,
                       len := max (file.pos + data.length) next.len }) = _
  rw [toU32_of_nonneg (by omega) (by omega)]
  change (do
    let next ← (roomFor file data.length).store data
    return { next with pos := file.pos + data.length,
                       len := max (file.pos + data.length) next.len }) = _
  rw [stored,pos]
  simp only [len]
  rfl

theorem fwrite_right_iff {file : EMUFILE_MEMORY} (sound : Sound file) (data : List u8) :
    (∃ next, file.fwrite data = some next ∧ next.pos = file.pos + data.length) ↔
      file.pos + data.length < 2 ^ 31 := by
  constructor
  · rintro ⟨next,written,moved⟩
    unfold EMUFILE_MEMORY.fwrite at written
    obtain ⟨stop,sum,rest⟩ := Option.bind_eq_some_iff.mp written
    obtain ⟨stored,-,same⟩ := Option.bind_eq_some_iff.mp rest
    have pos : stop = next.pos := congrArg EMUFILE_MEMORY.pos (Option.some.inj same)
    obtain ⟨val,small⟩ := addS32_eq_some sum
    omega
  · intro below
    exact ⟨_,fwrite_inside sound below,rfl⟩

theorem sound_fwrite {file : EMUFILE_MEMORY} (sound : Sound file) {data : List u8}
    (below : file.pos + data.length < 2 ^ 31) : Sound ((file.fwrite data).getD file) := by
  rw [fwrite_inside sound below,Option.getD_some]
  have nonneg := sound.pos_nonneg
  have lenNonneg := sound.len_nonneg
  have lenInVec := sound.len_le
  have small := sound.size_lt
  have room := le_length_roomFor file data.length
  have limit := length_roomFor_le file data.length
  have size := length_overwrite (0 : u8) (roomFor file data.length).vec data file.pos.toNat
  constructor
  · exact le_max_of_le_right lenNonneg
  · dsimp only
    omega
  · dsimp only
    omega
  · dsimp only
    omega
  · dsimp only
    omega

theorem fseek_inside {file : EMUFILE_MEMORY} {off : Int} {origin : Origin}
    (low : 0 ≤ file.base origin + off) (high : file.base origin + off < 2 ^ 31) :
    file.fseek off origin = some
      (EMUFILE_MEMORY.reserve { file with pos := file.base origin + off }
        (file.base origin + off).toNat) := by
  unfold EMUFILE_MEMORY.fseek
  rw [addS32_of_inside low high]
  change some (EMUFILE_MEMORY.reserve _ (toU32 (file.base origin + off))) = _
  rw [toU32_of_nonneg low (by omega)]

theorem sound_fseek {file : EMUFILE_MEMORY} (sound : Sound file) {off : Int} {origin : Origin}
    (low : 0 ≤ file.base origin + off) (high : file.base origin + off < 2 ^ 31) :
    Sound ((file.fseek off origin).getD file) := by
  rw [fseek_inside low high,Option.getD_some]
  have lenInVec := sound.len_le
  have small := sound.size_lt
  have size := @EMUFILE_MEMORY.length_reserve { file with pos := file.base origin + off }
    (file.base origin + off).toNat
  constructor
  · rw [EMUFILE_MEMORY.len_reserve]
    exact sound.len_nonneg
  · rw [EMUFILE_MEMORY.len_reserve,size]
    dsimp only
    omega
  · rw [EMUFILE_MEMORY.pos_reserve]
    exact low
  · rw [EMUFILE_MEMORY.pos_reserve,size]
    dsimp only
    omega
  · rw [size]
    dsimp only
    omega

theorem sound_truncate {file : EMUFILE_MEMORY} (sound : Sound file) {length : Int}
    (nonneg : 0 ≤ length) (small : length < 2 ^ 31) : Sound (file.truncate length) := by
  have posNonneg := sound.pos_nonneg
  have size : (file.truncate length).vec.length = length.toNat := by
    unfold EMUFILE_MEMORY.truncate
    simp only [List.length_append,List.length_take,List.length_replicate]
    omega
  have pos : (file.truncate length).pos = min file.pos length := by
    unfold EMUFILE_MEMORY.truncate
    dsimp only
    split
    next => omega
    next => omega
  constructor
  · exact nonneg
  · rw [size]
    change length ≤ _
    omega
  · rw [pos]
    omega
  · rw [pos,size]
    omega
  · rw [size]
    omega

theorem sound_fread {file : EMUFILE_MEMORY} (sound : Sound file) {bytes : Nat}
    (inside : ReadsInside file (.fread bytes)) : Sound (step file (.fread bytes)) := by
  obtain ⟨data,next,read,right⟩ := (fread_right_iff sound bytes).mpr inside
  have after : step file (.fread bytes) = next := by
    change ((file.fread bytes).map Prod.snd).getD file = next
    rw [read]
    rfl
  rw [after]
  by_cases empty : file.len = 0
  · rw [fread_empty empty] at read
    obtain ⟨-,rfl⟩ := Prod.mk.inj (Option.some.inj read)
    exact ⟨sound.len_nonneg,sound.len_le,sound.pos_nonneg,sound.pos_le,sound.size_lt⟩
  · rw [fread_nonempty empty] at read
    obtain ⟨loadedData,loaded,pair⟩ := Option.map_eq_some_iff.mp read
    obtain ⟨rfl,rfl⟩ := Prod.mk.inj pair
    obtain ⟨⟨nonneg,fits⟩,-⟩ := Option.ite_none_right_eq_some.mp loaded
    have small := sound.size_lt
    have moved : toS32 (toU32 file.pos + min file.remain (bytes % 2 ^ 32)) =
        file.pos + (min file.remain (bytes % 2 ^ 32) : Nat) := by
      rw [toU32_of_nonneg nonneg (by omega),toS32_of_lt (by omega)]
      omega
    refine ⟨sound.len_nonneg,sound.len_le,?_,?_,sound.size_lt⟩
    · dsimp only
      omega
    · dsimp only
      omega

theorem sound_fgetc {file : EMUFILE_MEMORY} (sound : Sound file)
    (inside : ReadsInside file .fgetc) : Sound (step file .fgetc) := by
  have within : file.pos ≤ file.len := inside
  have nonneg := sound.pos_nonneg
  have lenInVec := sound.len_le
  change Sound ((file.fgetc.map Prod.snd).getD file)
  rcases within.lt_or_eq with before | atEnd
  · obtain ⟨byte,-,read⟩ := fgetc_before sound before
    rw [read]
    refine ⟨sound.len_nonneg,sound.len_le,?_,?_,sound.size_lt⟩
    · change 0 ≤ file.pos + 1
      omega
    · change file.pos + 1 ≤ file.vec.length
      omega
  · have none : file.remain < 1 := by
      rw [EMUFILE_MEMORY.remain_before nonneg within sound.len_lt]
      omega
    rw [fgetc_at_end none]
    exact ⟨sound.len_nonneg,sound.len_le,sound.pos_nonneg,sound.pos_le,sound.size_lt⟩

theorem step_right_iff (file : EMUFILE_MEMORY) (op : Op) (sound : Sound file) :
    InDomain file op ∧ StepRight file op ↔ InDomain file op ∧ ReadsInside file op := by
  refine and_congr_right (fun domain => ?_)
  cases op with
  | fwrite data => exact fwrite_right_iff sound data
  | fputc c => exact fwrite_right_iff sound [BitVec.ofInt 8 c]
  | fseek off origin =>
      refine iff_of_true ?_ trivial
      change (file.fseek off origin).isSome = true
      rw [fseek_inside domain.1 domain.2]
      rfl
  | truncate length => exact Iff.rfl
  | fgetc => exact fgetc_right_iff sound
  | fread bytes => exact fread_right_iff sound bytes

theorem sound_step (file : EMUFILE_MEMORY) (op : Op) (sound : Sound file)
    (inside : InDomain file op ∧ ReadsInside file op) : Sound (step file op) := by
  obtain ⟨domain,cond⟩ := inside
  cases op with
  | fwrite data => exact sound_fwrite sound cond
  | fputc c => exact @sound_fwrite file sound [BitVec.ofInt 8 c] cond
  | fseek off origin => exact sound_fseek sound domain.1 domain.2
  | truncate length => exact sound_truncate sound domain.1 domain.2
  | fgetc => exact sound_fgetc sound cond
  | fread bytes => exact sound_fread sound cond

/-- In a run whose seeks go to targets from 0 on, every call is right exactly when
every read starts inside, and the length then stays in the vector. -/
theorem memory_reads_bounded_iff (file : EMUFILE_MEMORY) (sound : Sound file) (ops : List Op)
    (domain : Run.Guarded step InDomain file ops) :
    (Run.Guarded step StepRight file ops ↔ Run.Guarded step ReadsInside file ops) ∧
      (Run.Guarded step ReadsInside file ops → Run.Always step LenInside file ops) := by
  have both := Run.guarded_iff_guarded step_right_iff sound_step sound ops
  rw [Run.guarded_and,Run.guarded_and,and_iff_right domain,and_iff_right domain] at both
  refine ⟨both,fun inside => ?_⟩
  have always := Run.always_of_guarded sound_step sound
    ((Run.guarded_and _ _ _ _ _).mpr ⟨domain,inside⟩)
  exact always.mono (fun _ sound => sound.len_le)

def constructed (underlying : List u8) : EMUFILE_MEMORY :=
  { vec := underlying, pos := 0, len := underlying.length, failbit := false }

theorem sound_constructed {underlying : List u8} (small : underlying.length < 2 ^ 31) :
    Sound (constructed underlying) :=
  ⟨Int.natCast_nonneg _,le_rfl,le_rfl,Int.natCast_nonneg _,small⟩

/-- Two bytes written, a seek to the first and a read of more than remains. -/
theorem memory_reads_bounded_short :
    Run.Guarded step StepRight (constructed [])
      [.fwrite [1,2],.fseek 0 .SEEK_SET,.fread 3,.fgetc] := by
  have sound : Sound (constructed []) := sound_constructed (by decide)
  refine (memory_reads_bounded_iff (constructed []) sound _ ?_).1.mpr ?_
  · simp [Run.Guarded,InDomain,EMUFILE_MEMORY.base]
  · decide +kernel

/-- Two bytes behind the start of a file of one byte, the reserved storage ends
and the next byte is read from outside of it. -/
theorem read_behind_end :
    ¬ ∀ (file : EMUFILE_MEMORY), Sound file → ∀ ops, Run.Guarded step InDomain file ops →
      Run.Guarded step StepRight file ops := by
  intro everywhere
  have sound : Sound (constructed [7]) := sound_constructed (by decide)
  have domain : InDomain (constructed [7]) (.fseek 2 .SEEK_SET) := ⟨by decide,by decide⟩
  have right := everywhere (constructed [7]) sound [.fseek 2 .SEEK_SET,.fgetc]
    ⟨domain,trivial,trivial⟩
  have after : Sound (step (constructed [7]) (.fseek 2 .SEEK_SET)) :=
    sound_step _ _ sound ⟨domain,trivial⟩
  have inside := (fgetc_right_iff after).mp right.2.1
  exact absurd inside (by decide +kernel)

end Desmume.MemoryFile
