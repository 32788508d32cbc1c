/-
The checksum of the BIOS, `getCRC16`.

The code takes the register and the data a nibble at a time through one table.
-/

import Desmume.Bios.Encoding
import Desmume.Bios.Stores
import Desmume.Lib.Crc

namespace Desmume.Bios

open Function (update update_of_ne update_self)

open Crc

def val : List u16 :=
  [0x0000,0xCC01,0xD801,0x1400,0xF001,0x3C00,0x2800,0xE401,
    0xA001,0x6C00,0x7800,0xB401,0x5000,0x9C01,0x8801,0x4400]

variable (read16 : u32 → u16) (currVal crc : u16)

/-- One pass of the loop over `j`. -/
def crcNibble (j : Nat) : u16 :=
  let tabVal := val.getD (crc &&& 0xF).toNat 0
  let crc := crc >>> 4
  let crc := crc ^^^ tabVal
  let tempVal := currVal >>> (4 * j)
  let tabVal := val.getD (tempVal &&& 0xF).toNat 0
  crc ^^^ tabVal

/-- The loop over `i`, with `left` iterations to go. -/
def crcLoop (read16 : u32 → u16) (datap : u32) : Nat → Nat → u16 → u16 → u16 × u16
  | 0, _, crc, currVal => (crc, currVal)
  | left + 1, i, crc, _ =>
      let currVal := read16 (datap + BitVec.ofNat 32 (i * 2))
      crcLoop read16 datap left (i + 1) ((List.range 4).foldl (crcNibble currVal) crc) currVal

def getCRC16 {Mem : Type} (bus : WideBus Mem) (cpu : Cpu.armcpu_t) (mem : Mem) :
    Cpu.armcpu_t × u32 :=
  let crc : u16 := (cpu.R 0).setWidth 16
  let datap := cpu.R 1
  let size := cpu.R 2 >>> 1
  let res := crcLoop (bus._MMU_read16 mem) datap size.toNat 0 crc 0
  ({ cpu with
      R := update (update cpu.R 0 (res.1.setWidth 32)) 3
        (res.2.setWidth 32) }, 1)

def crcArc (bytes : List u8) : u16 := crcBytes 0xA001 crc bytes

theorem lowBits_nibble (word : u16) : word &&& 0xF = lowBits 4 word := by
  apply BitVec.eq_of_getLsbD_eq
  intro i bound
  unfold lowBits
  interval_cases i <;> simp

theorem val_nibble (word : u16) :
    val.getD (lowBits 4 word).toNat 0 = shiftBits 0xA001 4 (lowBits 4 word) := by
  have ents : ∀ nibble : Fin 16,
      val.getD nibble.val 0 = shiftBits 0xA001 4 (BitVec.ofNat 16 nibble.val) := by decide
  have small : (lowBits 4 word).toNat < 16 := by
    rw [← lowBits_nibble,BitVec.toNat_and]
    exact Nat.lt_of_le_of_lt Nat.and_le_right (by decide)
  have entry := ents ⟨(lowBits 4 word).toNat,small⟩
  rwa [BitVec.ofNat_toNat,BitVec.setWidth_eq] at entry

theorem crcNibble_eq (j : Nat) :
    crcNibble currVal crc j = shiftBits 0xA001 4 (crc ^^^ lowBits 4 (currVal >>> (4 * j))) := by
  simp only [crcNibble,lowBits_nibble,val_nibble]
  rw [shiftBits_xor,shiftBits_split 0xA001 4 crc,BitVec.xor_comm (crc >>> 4)]

theorem crcNibble_halfword :
    (List.range 4).foldl (crcNibble currVal) crc = shiftBits 0xA001 16 (crc ^^^ currVal) := by
  have shifted (first : Nat) : currVal >>> (4 * (first + 1)) = (currVal >>> (4 * first)) >>> 4 := by
    rw [← BitVec.shiftRight_add,Nat.mul_succ]
  have last : lowBits 4 (currVal >>> (4 * 3)) = currVal >>> (4 * 3) := by
    apply BitVec.eq_of_getLsbD_eq
    intro i bound
    unfold lowBits
    interval_cases i <;> simp
  have pieces (n first : Nat) (crc : u16) :
      shiftBits 0xA001 (4 + n) (crc ^^^ currVal >>> (4 * first)) =
        shiftBits 0xA001 n
          (shiftBits 0xA001 4 (crc ^^^ lowBits 4 (currVal >>> (4 * first))) ^^^
            currVal >>> (4 * (first + 1))) := by
    rw [shifted]
    exact shiftBits_pieces 0xA001 4 n crc _
  have whole := pieces 12 0 crc
  rw [pieces 8 1,pieces 4 2,← last] at whole
  simp only [List.range_succ,List.range_zero,List.nil_append,List.foldl_append,
    List.foldl_cons,List.foldl_nil,crcNibble_eq]
  exact whole.symm

theorem crcArc_halfword (low high : u8) (crc : u16) :
    (List.range 4).foldl (crcNibble (high ++ low)) crc = crcArc crc [low,high] := by
  have lower : lowBits 8 (high ++ low : u16) = low.setWidth 16 := by
    unfold lowBits
    rw [BitVec.setWidth_append_eq_right]
  have upper : (high ++ low : u16) >>> 8 = high.setWidth 16 := by
    apply BitVec.eq_of_getLsbD_eq
    intro i bound
    rw [BitVec.getLsbD_ushiftRight,BitVec.getLsbD_append,BitVec.getLsbD_setWidth]
    simp [bound]
  have pieces := shiftBits_pieces 0xA001 8 8 crc (high ++ low)
  rw [lower,upper] at pieces
  rw [crcNibble_halfword]
  exact pieces

/-- The half-words the loop reads from the `first`-th on. -/
def halfwords (datap : u32) (first n : Nat) : List u16 :=
  (List.range' first n).map fun i => read16 (datap + BitVec.ofNat 32 (i * 2))

theorem halfwords_succ (datap : u32) (first n : Nat) :
    halfwords read16 datap first (n + 1) =
      read16 (datap + BitVec.ofNat 32 (first * 2)) ::
        halfwords read16 datap (first + 1) n := by
  rw [halfwords,List.range'_succ,List.map_cons]
  rfl

theorem halfwords_add (datap : u32) (first second : Nat) :
    halfwords read16 datap 0 (first + second) =
      halfwords read16 datap 0 first ++
        halfwords read16 (datap + BitVec.ofNat 32 (first * 2)) 0 second := by
  have moved : halfwords read16 datap first second =
      halfwords read16 (datap + BitVec.ofNat 32 (first * 2)) 0 second := by
    unfold halfwords
    rw [List.range'_eq_map_range,List.range'_eq_map_range,List.map_map,List.map_map]
    apply List.map_congr_left
    intro i _listed
    have addr : datap + BitVec.ofNat 32 (first * 2) + BitVec.ofNat 32 ((0 + i) * 2) =
        datap + BitVec.ofNat 32 ((first + i) * 2) := by
      rw [BitVec.add_assoc,← BitVec.ofNat_add,Nat.zero_add,Nat.add_mul]
    exact congrArg read16 addr.symm
  have parts := @List.range'_append_1 0 first second
  rw [Nat.zero_add] at parts
  rw [← moved]
  unfold halfwords
  rw [← List.map_append,parts]

theorem crcLoop_eq (datap : u32) (left i : Nat) (crc currVal : u16) :
    crcLoop read16 datap left i crc currVal =
      ((halfwords read16 datap i left).foldl
          (fun crc currVal => (List.range 4).foldl (crcNibble currVal) crc) crc,
        (halfwords read16 datap i left).getLastD currVal) := by
  induction left generalizing i crc currVal with
  | zero => rfl
  | succ left ih =>
      rw [crcLoop,ih,halfwords_succ,List.foldl_cons,List.getLastD_cons]

theorem getCRC16_R0 {Mem : Type} (bus : WideBus Mem) (cpu : Cpu.armcpu_t) (mem : Mem) :
    (getCRC16 bus cpu mem).1.R 0 =
      ((halfwords (bus._MMU_read16 mem) (cpu.R 1) 0 ((cpu.R 2).toNat / 2)).foldl
          (fun crc currVal => (List.range 4).foldl (crcNibble currVal) crc)
          ((cpu.R 0).setWidth 16)).setWidth 32 := by
  have size : (cpu.R 2 >>> 1).toNat = (cpu.R 2).toNat / 2 := by
    rw [BitVec.toNat_ushiftRight,Nat.shiftRight_eq_div_pow]
  have elsewhere : (0 : Fin 16) ≠ 3 := by decide
  simp only [getCRC16,crcLoop_eq,size]
  rw [update_of_ne elsewhere,update_self]

/-- `count` bytes of memory. -/
def bytesFrom {Mem : Type} (bus : Bus Mem) (mem : Mem) (start : u32) (n : Nat) : List u8 :=
  (List.range n).map fun i => bus._MMU_read08 mem (start + BitVec.ofNat 32 i)

theorem bytesFrom_succ_succ {Mem : Type} (bus : Bus Mem) (mem : Mem) (start : u32) (n : Nat) :
    bytesFrom bus mem start (n + 1 + 1) =
      bytesFrom bus mem start n ++
        [bus._MMU_read08 mem (start + BitVec.ofNat 32 n),
          bus._MMU_read08 mem (start + BitVec.ofNat 32 (n + 1))] := by
  unfold bytesFrom
  rw [List.range_succ,List.range_succ,List.map_append,List.map_append,List.append_assoc]
  rfl

section

variable {Mem : Type} {memory : WideMemory Mem} {mem : Mem} {datap : u32}

theorem read16_even (even : datap.toNat % 2 = 0) (n : Nat)
    (low : memory.cell (datap + BitVec.ofNat 32 (n * 2)))
    (high : memory.cell (datap + BitVec.ofNat 32 (n * 2 + 1))) :
    memory._MMU_read16 mem (datap + BitVec.ofNat 32 (n * 2)) =
      memory._MMU_read08 mem (datap + BitVec.ofNat 32 (n * 2 + 1)) ++
        memory._MMU_read08 mem (datap + BitVec.ofNat 32 (n * 2)) := by
  have base : (datap + BitVec.ofNat 32 (n * 2)) &&& ~~~1 =
      datap + BitVec.ofNat 32 (n * 2) := by
    apply BitVec.eq_of_toNat_eq
    rw [toNat_align2,BitVec.toNat_add,BitVec.toNat_ofNat]
    omega
  have word := memory.read16_bytes mem (datap + BitVec.ofNat 32 (n * 2))
  rw [base,next_cursor] at word
  exact word low high

theorem crcArc_halfwords (even : datap.toNat % 2 = 0) (n : Nat)
    (plain : ∀ i < 2 * n, memory.cell (datap + BitVec.ofNat 32 i)) (crc : u16) :
    (halfwords (memory._MMU_read16 mem) datap 0 n).foldl
        (fun crc currVal => (List.range 4).foldl (crcNibble currVal) crc) crc =
      crcArc crc (bytesFrom memory.toBus mem datap (2 * n)) := by
  induction n with
  | zero => rfl
  | succ n ih =>
      have earlier := ih (fun i bound => plain i (by omega))
      have low := plain (n * 2) (by omega)
      have high := plain (n * 2 + 1) (by omega)
      have single : halfwords (memory._MMU_read16 mem) (datap + BitVec.ofNat 32 (n * 2)) 0 1 =
          [memory._MMU_read16 mem (datap + BitVec.ofNat 32 (n * 2))] := by
        change [memory._MMU_read16 mem (_ + 0#32)] = _
        rw [BitVec.add_zero]
      have size : 2 * (n + 1) = n * 2 + 1 + 1 := by omega
      rw [halfwords_add,List.foldl_append,earlier,single,List.foldl_cons,List.foldl_nil,
        read16_even even n low high,crcArc_halfword,size,bytesFrom_succ_succ,crcArc,
        crcArc,crcArc,crcBytes_append,Nat.mul_comm 2 n]

end

def withArguments (cpu : Cpu.armcpu_t) (crc datap size : u32) : Cpu.armcpu_t :=
  { cpu with
    R := update (update (update cpu.R 0 crc) 1 datap) 2 size }

theorem withArguments_R (cpu : Cpu.armcpu_t) (crc datap size : u32) :
    (withArguments cpu crc datap size).R 0 = crc ∧
      (withArguments cpu crc datap size).R 1 = datap ∧
        (withArguments cpu crc datap size).R 2 = size := by
  simp [withArguments]

def crc16 {Mem : Type} (bus : WideBus Mem) (cpu : Cpu.armcpu_t) (mem : Mem)
    (crc datap size : u32) : u32 :=
  (getCRC16 bus (withArguments cpu crc datap size) mem).1.R 0

theorem crc16_pieces {Mem : Type} (bus : WideBus Mem) (cpu : Cpu.armcpu_t) (mem : Mem)
    (crc datap first second : u32) (even : first.toNat % 2 = 0)
    (fits : first.toNat + second.toNat < 2 ^ 32) :
    crc16 bus cpu mem (crc16 bus cpu mem crc datap first) (datap + first) second =
      crc16 bus cpu mem crc datap (first + second) := by
  have total : (first + second).toNat / 2 = first.toNat / 2 + second.toNat / 2 := by
    rw [BitVec.toNat_add,Nat.mod_eq_of_lt fits]
    omega
  have start : datap + BitVec.ofNat 32 (first.toNat / 2 * 2) = datap + first := by
    have whole : first.toNat / 2 * 2 = first.toNat := by omega
    rw [whole,BitVec.ofNat_toNat,BitVec.setWidth_eq]
  simp only [crc16,getCRC16_R0,withArguments_R,total]
  rw [halfwords_add,List.foldl_append,start,BitVec.setWidth_setWidth_of_le _ (by decide),
    BitVec.setWidth_eq]

/-- `R0` gets the reflected check with polynomial 0xA001 of the bytes that make
up whole half-words, continued from the low half of `R0`; and a buffer may be
checked in two even pieces. -/
theorem crc16_is_arc {Mem : Type} (memory : WideMemory Mem) (cpu : Cpu.armcpu_t) (mem : Mem)
    (crc datap size : u32) (even : datap.toNat % 2 = 0)
    (plain : ∀ i < 2 * (size.toNat / 2), memory.cell (datap + BitVec.ofNat 32 i)) :
    crc16 memory.toWideBus cpu mem crc datap size =
        (crcArc (crc.setWidth 16)
          (bytesFrom memory.toBus mem datap (2 * (size.toNat / 2)))).setWidth 32 ∧
      ∀ first second : u32, first.toNat % 2 = 0 → second.toNat % 2 = 0 →
        first.toNat + second.toNat = size.toNat →
        crc16 memory.toWideBus cpu mem
            (crc16 memory.toWideBus cpu mem crc datap first) (datap + first) second =
          crc16 memory.toWideBus cpu mem crc datap size := by
  constructor
  · have bytes := @crcArc_halfwords _ memory mem _ even _ plain (crc.setWidth 16)
    simp only [crc16,getCRC16_R0,withArguments_R]
    rw [bytes]
  · intro first second evenFirst _evenSecond whole
    have bound := size.isLt
    have sum : first + second = size := by
      apply BitVec.eq_of_toNat_eq
      rw [BitVec.toNat_add,whole]
      exact Nat.mod_eq_of_lt bound
    rw [crc16_pieces _ _ _ _ _ _ _ evenFirst (by omega),sum]

/-- Three bytes at the start of the main memory: two are checked. -/
theorem crc16_is_arc_three :
    crc16 mainWide.toWideBus Cpu.armcpu_t.initial (loaded 0 [0x31,0x32,0x33]) 0xFFFF
        0x02000000 3 =
      (crcArc 0xFFFF [0x31,0x32]).setWidth 32 := by
  have plain : ∀ i < 2 * ((3 : u32).toNat / 2),
      mainWide.cell (0x02000000 + BitVec.ofNat 32 i) := by
    intro i bound
    have small : i < 2 := bound
    interval_cases i
    · constructor <;> decide
    · constructor <;> decide
  exact (crc16_is_arc mainWide Cpu.armcpu_t.initial (loaded 0 [0x31,0x32,0x33]) 0xFFFF
    0x02000000 3 (by decide) plain).1

end Desmume.Bios
