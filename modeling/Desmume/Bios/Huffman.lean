/-
Huffman decompression: `UnCompHuffman`.

A round of the loop takes one bit and goes from a node to one of its children,
whose address is computed from the node.
-/

import Desmume.Bios.Lz77
import Desmume.Bios.Stores
import Desmume.Lib.While

namespace Desmume.Bios

open While

structure BitWindow where
  data : u32
  mask : u32
  source : u32
  deriving DecidableEq

/-- Where the walk is: `pos` is that of the pair of the current node, zero at
the root. -/
structure TreeWalk where
  pos : u32
  currentNode : u8
  deriving DecidableEq

structure HuffmanOut (Mem : Type) where
  mem : Mem
  dest : u32
  len : Nat
  writeValue : u32
  byteCount : Nat
  byteShift : Nat
  halfLen : Nat
  value : u32
  byteCount_lt : byteCount < 4
  halfLen_valid : halfLen = 0 ∨ halfLen = 4

structure HuffmanState (Mem : Type) where
  out : HuffmanOut Mem
  walk : TreeWalk
  window : BitWindow

def BitWindow.bit (win : BitWindow) : Bool := win.data &&& win.mask != 0

def TreeWalk.children (walk : TreeWalk) : u32 :=
  if walk.pos = 0 then walk.pos + 1
  else walk.pos + (((walk.currentNode &&& (0x3F : u8)).setWidth 32 + 1) <<< 1)

/-- `writeData`: the child on that side is data. -/
def TreeWalk.isData (walk : TreeWalk) (right : Bool) : Bool :=
  if right then walk.currentNode &&& (0x40 : u8) != 0 else walk.currentNode &&& (0x80 : u8) != 0

section

variable {Mem : Type} (bus : WideBus Mem)

variable (cpu : Cpu.armcpu_t) (mem : Mem)

def BitWindow.next (win : BitWindow) : BitWindow :=
  let mask := win.mask >>> 1
  if mask = 0 then
    { data := bus._MMU_read32 mem win.source
      mask := 0x80000000
      source := win.source + 4 }
  else { win with mask := mask }

def TreeWalk.next (treeStart : u32) (walk : TreeWalk) (right : Bool) : TreeWalk :=
  { pos := walk.children
    currentNode := bus._MMU_read08 mem
      (if right then treeStart + walk.children + 1 else treeStart + walk.children) }

/-- A byte into `writeValue`, and the word out after four. -/
def putWhole (out : HuffmanOut Mem) (byte : u32) : HuffmanOut Mem :=
  let writeValue := out.writeValue ||| byte <<< out.byteShift
  if full : out.byteCount + 1 = 4 then
    { out with
      mem := bus._MMU_write32 out.mem out.dest writeValue
      dest := out.dest + 4
      len := out.len - 4
      writeValue := 0
      byteCount := 0
      byteShift := 0
      byteCount_lt := by decide }
  else
    { out with
      writeValue := writeValue
      byteCount := out.byteCount + 1
      byteShift := out.byteShift + 8
      byteCount_lt := by have below := out.byteCount_lt; omega }

variable {out : HuffmanOut Mem}

theorem putWhole_of_full (full : out.byteCount + 1 = 4) (byte : u32) :
    putWhole bus out byte =
      { out with
        mem := bus._MMU_write32 out.mem out.dest (out.writeValue ||| byte <<< out.byteShift)
        dest := out.dest + 4
        len := out.len - 4
        writeValue := 0
        byteCount := 0
        byteShift := 0
        byteCount_lt := by decide } :=
  dif_pos full

theorem putWhole_of_open (room : out.byteCount + 1 < 4) (byte : u32) :
    putWhole bus out byte =
      { out with
        writeValue := out.writeValue ||| byte <<< out.byteShift
        byteCount := out.byteCount + 1
        byteShift := out.byteShift + 8
        byteCount_lt := room } :=
  dif_neg (Nat.ne_of_lt room)

def putHalf (out : HuffmanOut Mem) (half : u32) : HuffmanOut Mem :=
  let value := if out.halfLen = 0 then out.value ||| half else out.value ||| half <<< 4
  if whole : out.halfLen + 4 = 8 then
    { putWhole bus out value with halfLen := 0, value := 0, halfLen_valid := Or.inl rfl }
  else
    { out with
      halfLen := out.halfLen + 4
      value := value
      halfLen_valid := by have valid := out.halfLen_valid; omega }

theorem putHalf_first (first : out.halfLen = 0) (half : u32) :
    putHalf bus out half =
      { out with
        halfLen := 4
        value := out.value ||| half
        halfLen_valid := Or.inr rfl } := by
  simp only [putHalf,first,if_true]
  rfl

theorem putHalf_second (second : out.halfLen = 4) (half : u32) :
    putHalf bus out half =
      { putWhole bus out (out.value ||| half <<< 4) with
        halfLen := 0
        value := 0
        halfLen_valid := Or.inl rfl } := by
  have whole : out.halfLen + 4 = 8 := by omega
  have other : out.halfLen ≠ 0 := by omega
  simp only [putHalf,dif_pos whole,if_neg other]

theorem putWhole_halfLen (out : HuffmanOut Mem) (byte : u32) :
    (putWhole bus out byte).halfLen = out.halfLen := by
  by_cases full : out.byteCount + 1 = 4
  · rw [putWhole_of_full bus full]
  · have below := out.byteCount_lt
    rw [putWhole_of_open bus (by omega)]

theorem putWhole_value (out : HuffmanOut Mem) (byte : u32) :
    (putWhole bus out byte).value = out.value := by
  by_cases full : out.byteCount + 1 = 4
  · rw [putWhole_of_full bus full]
  · have below := out.byteCount_lt
    rw [putWhole_of_open bus (by omega)]

def putSymbol (header : u32) (out : HuffmanOut Mem) (symbol : u8) : HuffmanOut Mem :=
  if header &&& (0x0F : u32) = 8 then putWhole bus out (symbol.setWidth 32)
  else putHalf bus out (symbol.setWidth 32)

def huffmanRound (header treeStart : u32) (rootNode : u8) (st : HuffmanState Mem) :
    HuffmanState Mem :=
  let right := st.window.bit
  let walk := st.walk.next bus st.out.mem treeStart right
  if st.walk.isData right then
    let out := putSymbol bus header st.out walk.currentNode
    { out := out
      walk := { pos := 0, currentNode := rootNode }
      window := st.window.next bus out.mem }
  else
    { st with walk := walk, window := st.window.next bus st.out.mem }

/-- `while(len > 0)`, then `return 1`. -/
def huffmanStep (header treeStart : u32) (rootNode : u8) (st : HuffmanState Mem) :
    Except (Mem × u32) (HuffmanState Mem) :=
  if st.out.len > 0 then .ok (huffmanRound bus header treeStart rootNode st)
  else .error (st.out.mem, 1)

def huffmanTable : u32 := cpu.R 0 + 4 + 1

/-- `source += ((treeSize+1)<<1)-1`. -/
def huffmanStream : u32 :=
  let treeSize := bus._MMU_read08 mem (cpu.R 0 + 4)
  huffmanTable cpu + (((treeSize.setWidth 32 + 1) <<< 1) - 1)

def huffmanRoot : u8 :=
  bus._MMU_read08 mem (huffmanTable cpu)

def huffmanStart : HuffmanState Mem :=
  { out :=
      { mem := mem
        dest := cpu.R 1
        len := (bus._MMU_read32 mem (cpu.R 0) >>> 8).toNat
        writeValue := 0
        byteCount := 0
        byteShift := 0
        halfLen := 0
        value := 0
        byteCount_lt := by decide
        halfLen_valid := Or.inl rfl }
    walk := { pos := 0, currentNode := huffmanRoot bus cpu mem }
    window :=
      { data := bus._MMU_read32 mem (huffmanStream bus cpu mem)
        mask := 0x80000000
        source := huffmanStream bus cpu mem + 4 } }

def huffmanLoop : HuffmanState Mem → Except (Mem × u32) (HuffmanState Mem) :=
  huffmanStep bus (bus._MMU_read32 mem (cpu.R 0)) (huffmanTable cpu) (huffmanRoot bus cpu mem)

def UnCompHuffman (rounds : Nat) (cpu : Cpu.armcpu_t) (mem : Mem) : Option (Mem × u32) :=
  if addressRefused (cpu.R 0 + 4) (bus._MMU_read32 mem (cpu.R 0)) then some (mem, 0)
  else leftWith (after (huffmanLoop bus cpu mem) rounds (huffmanStart bus cpu mem))

def descend (treeStart : u32) (place : TreeWalk × BitWindow) : TreeWalk × BitWindow :=
  (place.1.next bus mem treeStart place.2.bit, place.2.next bus mem)

def leadsToData (place : TreeWalk × BitWindow) : Bool := place.1.isData place.2.bit

variable {bus} {header treeStart : u32} {rootNode : u8}

theorem after_descend {st : HuffmanState Mem} (some : 0 < st.out.len) (depth : Nat)
    (nothing : ∀ earlier < depth, leadsToData
      ((descend bus st.out.mem treeStart)^[earlier] (st.walk, st.window)) = false) :
    after (huffmanStep bus header treeStart rootNode) depth st =
      .ok
        { out := st.out
          walk := ((descend bus st.out.mem treeStart)^[depth] (st.walk, st.window)).1
          window :=
            ((descend bus st.out.mem treeStart)^[depth] (st.walk, st.window)).2 } := by
  induction depth generalizing st with
  | zero => rfl
  | succ depth ih =>
      have first : st.walk.isData st.window.bit = false := nothing 0 (Nat.succ_pos depth)
      have round : huffmanStep bus header treeStart rootNode st =
          .ok
            { out := st.out
              walk := st.walk.next bus st.out.mem treeStart st.window.bit
              window := st.window.next bus st.out.mem } := by
        rw [huffmanStep,if_pos some,huffmanRound]
        simp only [first,Bool.false_eq_true,if_false]
      rw [after_succ_of_ok round,Function.iterate_succ_apply]
      exact @ih
        { out := st.out
          walk := st.walk.next bus st.out.mem treeStart st.window.bit
          window := st.window.next bus st.out.mem } some
        fun earlier below => nothing (earlier + 1) (Nat.succ_lt_succ below)

def huffmanPut (bus : WideBus Mem) (header treeStart : u32) (rootNode : u8)
    (out : HuffmanOut Mem) (place : TreeWalk × BitWindow) : HuffmanState Mem :=
  let put := putSymbol bus header out (descend bus out.mem treeStart place).1.currentNode
  { out := put
    walk := { pos := 0, currentNode := rootNode }
    window := place.2.next bus put.mem }

theorem after_walk {st : HuffmanState Mem} (some : 0 < st.out.len) {depth : Nat}
    (nothing : ∀ earlier < depth, leadsToData
      ((descend bus st.out.mem treeStart)^[earlier] (st.walk, st.window)) = false)
    (meets : leadsToData
      ((descend bus st.out.mem treeStart)^[depth] (st.walk, st.window)) = true) :
    after (huffmanStep bus header treeStart rootNode) (depth + 1) st =
      .ok (huffmanPut bus header treeStart rootNode st.out
        ((descend bus st.out.mem treeStart)^[depth] (st.walk, st.window))) := by
  rw [after_add (after_descend some depth nothing)]
  generalize (descend bus st.out.mem treeStart)^[depth] (st.walk, st.window) = place
    at meets ⊢
  rw [after,huffmanStep,if_pos some,huffmanRound]
  unfold leadsToData at meets
  simp only [meets,if_true]
  rfl

end

end Desmume.Bios
