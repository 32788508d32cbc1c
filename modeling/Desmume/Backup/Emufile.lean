/-
Files as the backup device sees them.

A file is its bytes and a position.
-/

import Desmume.Types
import Desmume.Lib.Overwrite

namespace Desmume.Backup

open Overwrite

/-- `rb+` and `wb+` are modes of an `EMUFILE_FILE`; `memory` is an
`EMUFILE_MEMORY`. -/
inductive FileMode
  | rb_plus
  | wb_plus
  | memory
  deriving DecidableEq, Repr

inductive Origin
  | SEEK_SET
  | SEEK_CUR
  | SEEK_END
  deriving DecidableEq, Repr

structure EMUFILE where
  mode : FileMode
  bytes : List u8
  pos : Nat
  deriving DecidableEq, Repr

namespace EMUFILE

def base (file : EMUFILE) : Origin → Int
  | .SEEK_SET => 0
  | .SEEK_CUR => file.pos
  | .SEEK_END => file.bytes.length

def fseek (file : EMUFILE) (off : Int) (origin : Origin) : EMUFILE :=
  if file.base origin + off < 0 then file
  else { file with pos := (file.base origin + off).toNat }

/-- `size()`, as the unsigned value its callers compare and store. -/
def size (file : EMUFILE) : u32 := BitVec.ofNat 32 file.bytes.length

def fread (file : EMUFILE) (n : Nat) : EMUFILE × List u8 :=
  let data := (file.bytes.drop file.pos).take n
  ({ file with pos := file.pos + data.length }, data)

def fwrite (file : EMUFILE) (data : List u8) : EMUFILE :=
  if data = [] then file
  else { file with bytes := overwrite 0 file.bytes file.pos data, pos := file.pos + data.length }

def truncate (file : EMUFILE) (length : Nat) : EMUFILE :=
  match file.mode with
  | .rb_plus => { file with pos := 0 }
  | .wb_plus => { file with bytes := [], pos := 0 }
  | .memory => { file with bytes := file.bytes.takeD length 0, pos := min file.pos length }

def le32 (val : u32) : List u8 :=
  [val.extractLsb' 0 8,val.extractLsb' 8 8,val.extractLsb' 16 8,val.extractLsb' 24 8]

/-- `read8le(&val)`: `val` keeps its value at the end of the file. -/
def read8le (file : EMUFILE) (val : u8) : EMUFILE × u8 :=
  let res := file.fread 1
  (res.1, res.2.headD val)

def write32le (file : EMUFILE) (val : u32) : EMUFILE := file.fwrite (le32 val)

/-- `read32le(&val)`: `val` keeps its value when fewer than four bytes are left. -/
def read32le (file : EMUFILE) (val : u32) : EMUFILE × u32 :=
  let res := file.fread 4
  (res.1, match res.2 with
    | [b0,b1,b2,b3] => b3 ++ b2 ++ b1 ++ b0
    | _ => val)

@[simp] theorem length_le32 (val : u32) : (le32 val).length = 4 := rfl

theorem le32_bytes (val : u32) :
    val.extractLsb' 24 8 ++ val.extractLsb' 16 8 ++ val.extractLsb' 8 8 ++
      val.extractLsb' 0 8 = val := by
  apply BitVec.eq_of_getLsbD_eq
  intro i bound
  simp only [BitVec.getLsbD_append,BitVec.getLsbD_extractLsb']
  interval_cases i <;> rfl

variable (file : EMUFILE)

theorem fseek_set (off : u32) (small : off.toNat < 2 ^ 31) :
    file.fseek off.toInt .SEEK_SET = { file with pos := off.toNat } := by
  have signed : off.toInt = off.toNat := BitVec.toInt_eq_toNat_of_lt (by omega)
  rw [signed]
  unfold fseek
  rw [if_neg (by simp only [base]; omega)]
  simp [base]

theorem fseek_set_large (off : u32) (large : 2 ^ 31 ≤ off.toNat) :
    file.fseek off.toInt .SEEK_SET = file := by
  have negative : off.toInt < 0 := by
    have bound := off.isLt
    rw [BitVec.toInt_eq_toNat_cond,if_neg (by omega)]
    omega
  unfold fseek
  exact if_pos (by simpa [base] using negative)

theorem fseek_end (back : Nat) (inside : back ≤ file.bytes.length) :
    file.fseek (-back) .SEEK_END = { file with pos := file.bytes.length - back } := by
  unfold fseek
  rw [if_neg (by simp only [base]; omega)]
  congr 1
  simp only [base]
  omega

theorem fseek_back (back : Nat) (inside : back ≤ file.pos) :
    file.fseek (-back) .SEEK_CUR = { file with pos := file.pos - back } := by
  unfold fseek
  rw [if_neg (by simp only [base]; omega)]
  congr 1
  simp only [base]
  omega

@[simp] theorem bytes_fseek (off : Int) (origin : Origin) :
    (file.fseek off origin).bytes = file.bytes := by
  unfold fseek
  split <;> rfl

@[simp] theorem mode_fseek (off : Int) (origin : Origin) :
    (file.fseek off origin).mode = file.mode := by
  unfold fseek
  split <;> rfl

theorem fwrite_of_inside (data : List u8) (inside : file.pos ≤ file.bytes.length) :
    file.fwrite data =
      { file with
        bytes := overwrite 0 file.bytes file.pos data
        pos := file.pos + data.length } := by
  unfold fwrite
  split
  · next empty =>
      subst empty
      rw [overwrite_nil 0 file.bytes file.pos inside]
      rfl
  · rfl

theorem fwrite_fwrite (first second : List u8) (inside : file.pos ≤ file.bytes.length) :
    (file.fwrite first).fwrite second = file.fwrite (first ++ second) := by
  have reach := length_overwrite 0 file.bytes first file.pos
  rw [fwrite_of_inside file first inside,fwrite_of_inside file (first ++ second) inside,
    fwrite_of_inside _ second (by simp only; omega)]
  simp only [overwrite_overwrite 0 file.bytes file.pos first second inside,
    List.length_append,Nat.add_assoc]

theorem read8le_of_inside (val byte : u8) (present : file.bytes[file.pos]? = some byte) :
    file.read8le val = ({ file with pos := file.pos + 1 }, byte) := by
  have first : (file.bytes.drop file.pos).take 1 = [byte] := by
    rw [List.take_one,List.head?_drop,present]
    rfl
  simp only [read8le,fread,first,List.length_singleton,List.headD_cons]

theorem read8le_value (val : u8) : (file.read8le val).2 = (file.bytes[file.pos]?).getD val := by
  rw [← List.head?_drop]
  simp only [read8le,fread,List.take_one]
  cases file.bytes.drop file.pos <;> rfl

theorem read32le_of_written (val word : u32) (rest : List u8)
    (written : file.bytes.drop file.pos = le32 word ++ rest) :
    file.read32le val = ({ file with pos := file.pos + 4 }, word) := by
  have first : (file.bytes.drop file.pos).take 4 = le32 word := by
    rw [written,List.take_left' (length_le32 word)]
  simp only [read32le,fread,first,length_le32]
  rw [show le32 word = [word.extractLsb' 0 8,word.extractLsb' 8 8,word.extractLsb' 16 8,
    word.extractLsb' 24 8] from rfl]
  simp only [le32_bytes]

end EMUFILE

end Desmume.Backup
