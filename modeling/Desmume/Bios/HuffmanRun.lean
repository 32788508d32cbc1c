/-
Huffman decompression undoes the encoding.

In the table the children of a node lie next to each other, at a distance from
the node that six of its bits give, and its two highest bits say which of them
are leaves.
-/

import Desmume.Bios.Encoding
import Desmume.Bios.Huffman
import Desmume.Lib.CodeTree
import Desmume.Lib.Packing

namespace Desmume.Bios

open CodeTree Packing While

/-- The table starts at an odd address, and a distance counts pairs from the
even address at or below that of the node. -/
def childPair (i : Nat) (node : u8) : Nat :=
  (i + 1) / 2 * 2 + 2 * (node &&& (0x3F : u8)).toNat + 1

/-- The tree is at `index` of the table; the flag says whether the parent calls
it data. -/
inductive Laid (table : List u8) : Nat → Bool → CodeTree u8 → Prop
  | leaf {i : Nat} {symbol : u8} (here : table[i]? = some symbol) :
      Laid table i true (.leaf symbol)
  | node {i : Nat} {node : u8} {left right : CodeTree u8} (here : table[i]? = some node)
      (first : Laid table (childPair i node) (node &&& (0x80 : u8) != 0) left)
      (second : Laid table (childPair i node + 1) (node &&& (0x40 : u8) != 0) right) :
      Laid table i false (.node left right)

def InWords (words : List u32) (bits : List Bool) : Prop :=
  ∀ (i : Nat) (inside : i < bits.length),
    ∃ word, words[i / 32]? = some word ∧ word.getLsbD (31 - i % 32) = bits[i]

def huffmanBytes (treeSize : u8) (table : List u8) (words : List u32) : List u8 :=
  treeSize :: (table ++ words.flatMap wordBytes)

section

variable {Mem : Type} {bus : WideBus Mem}

structure HuffmanData (bus : WideBus Mem) (mem : Mem) (treeStart stream : u32) (table : List u8)
    (words : List u32) : Prop where
  node : ∀ i byte, table[i]? = some byte →
    bus._MMU_read08 mem (treeStart + BitVec.ofNat 32 i) = byte
  word : ∀ i word, words[i]? = some word →
    bus._MMU_read32 mem (stream + BitVec.ofNat 32 (4 * i)) = word

/-- The window is at a position of the stream; behind the words it may hold
anything. -/
structure WindowAt (stream : u32) (words : List u32) (pos : Nat) (window : BitWindow) :
    Prop where
  mask : window.mask = BitVec.twoPow 32 (31 - pos % 32)
  source : window.source = stream + BitVec.ofNat 32 (4 * (pos / 32 + 1))
  data : ∀ word, words[pos / 32]? = some word → window.data = word

variable {stream : u32} {words : List u32} {pos : Nat} {window : BitWindow}

theorem twoPow_ne_zero {place : Nat} (inside : place < 32) : BitVec.twoPow 32 place ≠ 0 := by
  intro zero
  have val := congrArg BitVec.toNat zero
  rw [BitVec.toNat_twoPow_of_lt inside] at val
  exact absurd val (Nat.two_pow_pos place).ne'

theorem twoPow_succ_shift {place : Nat} (inside : place + 1 < 32) :
    BitVec.twoPow 32 (place + 1) >>> 1 = BitVec.twoPow 32 place := by
  apply BitVec.eq_of_toNat_eq
  rw [BitVec.toNat_ushiftRight,BitVec.toNat_twoPow_of_lt inside,
    BitVec.toNat_twoPow_of_lt (by omega),Nat.shiftRight_eq_div_pow,Nat.pow_succ,
    Nat.pow_one,Nat.mul_div_cancel _ (by decide)]

theorem WindowAt.bit (here : WindowAt stream words pos window) :
    window.bit = window.data.getLsbD (31 - pos % 32) := by
  rw [BitWindow.bit,here.mask,BitVec.and_twoPow]
  cases window.data.getLsbD (31 - pos % 32) with
  | false => rfl
  | true => exact bne_iff_ne.mpr (twoPow_ne_zero (by omega))

theorem WindowAt.next (here : WindowAt stream words pos window) {mem : Mem}
    {treeStart : u32} {table : List u8} (data : HuffmanData bus mem treeStart stream table words) :
    WindowAt stream words (pos + 1) (window.next bus mem) := by
  unfold BitWindow.next
  by_cases last : pos % 32 = 31
  · have empty : window.mask >>> 1 = 0 := by
      rw [here.mask,last]
      rfl
    have word : (pos + 1) / 32 = pos / 32 + 1 := by omega
    have bit : (pos + 1) % 32 = 0 := by omega
    dsimp only
    rw [if_pos empty]
    refine ⟨?_,?_,?_⟩
    · rw [bit]
      rfl
    · change window.source + 4 = _
      rw [here.source,word,Nat.mul_succ 4 (pos / 32 + 1),BitVec.ofNat_add,
        ← BitVec.add_assoc]
      rfl
    · intro val listed
      change bus._MMU_read32 mem window.source = val
      rw [word] at listed
      rw [here.source]
      exact data.word _ _ listed
  · have place : 31 - pos % 32 = 31 - (pos + 1) % 32 + 1 := by omega
    have shifted : window.mask >>> 1 = BitVec.twoPow 32 (31 - (pos + 1) % 32) := by
      rw [here.mask,place]
      exact twoPow_succ_shift (by omega)
    have word : (pos + 1) / 32 = pos / 32 := by omega
    have some : BitVec.twoPow 32 (31 - (pos + 1) % 32) ≠ 0 := twoPow_ne_zero (by omega)
    dsimp only
    rw [shifted,if_neg some]
    refine ⟨rfl,?_,?_⟩
    · rw [word]
      exact here.source
    · rw [word]
      exact here.data

theorem WindowAt.later (here : WindowAt stream words pos window) {mem : Mem}
    {treeStart : u32} {table : List u8}
    (data : HuffmanData bus mem treeStart stream table words) (rounds : Nat) :
    WindowAt stream words (pos + rounds) ((BitWindow.next bus mem)^[rounds] window) := by
  induction rounds with
  | zero => exact here
  | succ rounds ih =>
      rw [Function.iterate_succ_apply']
      exact ih.next data

theorem WindowAt.agrees (here : WindowAt stream words pos window) {mem : Mem}
    {treeStart : u32} {table : List u8}
    (data : HuffmanData bus mem treeStart stream table words) {first bits : List Bool}
    (stored : InWords words (first ++ bits)) (place : first.length = pos) :
    Agrees (fun rounds => ((BitWindow.next bus mem)^[rounds] window).bit) bits := by
  intro i inside
  subst place
  have later := here.later data i
  obtain ⟨word,listed,bit⟩ := stored (first.length + i) (by
    rw [List.length_append]
    omega)
  change ((BitWindow.next bus mem)^[i] window).bit = bits[i]
  rw [later.bit,later.data word listed,bit]
  simp only [List.getElem_append_right (Nat.le_add_right first.length i),
    Nat.add_sub_cancel_left]

variable {treeStart : u32} {table : List u8}

structure WalkAt (table : List u8) (i : Nat) (walk : TreeWalk) : Prop where
  node : table[i]? = some walk.currentNode
  children : walk.children = BitVec.ofNat 32 (childPair i walk.currentNode)

theorem childPair_odd (i : Nat) (node : u8) : childPair i node % 2 = 1 := by
  unfold childPair
  omega

variable {walk : TreeWalk} {symbol : u8} {i : Nat}

theorem walkAt_root (start : walk.pos = 0) (node : table[0]? = some walk.currentNode)
    (off : walk.currentNode &&& (0x3F : u8) = 0) : WalkAt table 0 walk := by
  refine ⟨node,?_⟩
  rw [TreeWalk.children,if_pos start,start,childPair,off]
  rfl

theorem walkAt_child {pair : Nat} (odd : pair % 2 = 1)
    (small : pair < 2 ^ 32) (pos : walk.pos = BitVec.ofNat 32 pair)
    (side : i = pair ∨ i = pair + 1) (node : table[i]? = some walk.currentNode) :
    WalkAt table i walk := by
  have some : walk.pos ≠ 0 := by
    intro zero
    have val := congrArg BitVec.toNat (pos.symm.trans zero)
    rw [BitVec.toNat_ofNat,Nat.mod_eq_of_lt small] at val
    change pair = 0 at val
    omega
  have base : (i + 1) / 2 * 2 = pair + 1 := by omega
  refine ⟨node,?_⟩
  rw [TreeWalk.children,if_neg some,childPair,base,pos]
  generalize walk.currentNode &&& (0x3F : u8) = off
  have bound := off.isLt
  apply BitVec.eq_of_toNat_eq
  rw [BitVec.toNat_add,BitVec.toNat_ofNat,BitVec.toNat_ofNat,BitVec.toNat_shiftLeft,
    Nat.shiftLeft_eq,BitVec.toNat_add,BitVec.toNat_setWidth]
  change (pair % 2 ^ 32 + (off.toNat % 2 ^ 32 + 1) % 2 ^ 32 * 2 ^ 1 % 2 ^ 32) % 2 ^ 32 = _
  omega

variable {mem : Mem}

theorem walkAt_next (data : HuffmanData bus mem treeStart stream table words)
    (short : table.length < 2 ^ 32)
    (here : WalkAt table i walk) {right : Bool} {side : Nat} {node : u8}
    (place : side = if right then childPair i walk.currentNode + 1
      else childPair i walk.currentNode) (child : table[side]? = some node) :
    (walk.next bus mem treeStart right).currentNode = node ∧
      WalkAt table side (walk.next bus mem treeStart right) := by
  have read : (walk.next bus mem treeStart right).currentNode = node := by
    have byte := data.node side node child
    rw [TreeWalk.next]
    change bus._MMU_read08 mem _ = node
    rw [here.children]
    cases right with
    | false =>
        have same : side = childPair i walk.currentNode := place
        rw [← same]
        exact byte
    | true =>
        have same : side = childPair i walk.currentNode + 1 := place
        rw [same,BitVec.ofNat_add,← BitVec.add_assoc] at byte
        exact byte
  have inside : side < table.length := (List.getElem?_eq_some_iff.mp child).1
  refine ⟨read,walkAt_child (childPair_odd i walk.currentNode) ?_ here.children ?_ ?_⟩
  · cases right with
    | false => exact Nat.lt_of_le_of_lt (Nat.le_of_eq place.symm) (by omega)
    | true =>
        have same : side = childPair i walk.currentNode + 1 := place
        omega
  · cases right with
    | false => exact Or.inl place
    | true => exact Or.inr place
  · rw [read]
    exact child

theorem Laid.listed {data : Bool} {tree : CodeTree u8}
    (laid : Laid table i data tree) : ∃ byte, table[i]? = some byte := by
  cases laid with
  | leaf here => exact ⟨_,here⟩
  | node here first second => exact ⟨_,here⟩

/-- The first data on the way is at its end, where it is `symbol`. -/
structure Walks (bus : WideBus Mem) (mem : Mem) (treeStart : u32) (walk : TreeWalk)
    (window : BitWindow) (depth : Nat) (symbol : u8) : Prop where
  nothing : ∀ earlier < depth,
    leadsToData ((descend bus mem treeStart)^[earlier] (walk, window)) = false
  meets : leadsToData ((descend bus mem treeStart)^[depth] (walk, window)) = true
  read : (descend bus mem treeStart
    ((descend bus mem treeStart)^[depth] (walk, window))).1.currentNode = symbol
  window : ((descend bus mem treeStart)^[depth] (walk, window)).2 =
    (BitWindow.next bus mem)^[depth] window

theorem walks_data (data : walk.isData window.bit = true)
    (read : (walk.next bus mem treeStart window.bit).currentNode = symbol) :
    Walks bus mem treeStart walk window 0 symbol :=
  ⟨fun _ none => absurd none (Nat.not_lt_zero _), data, read, rfl⟩

theorem walks_on {depth : Nat} (inner : walk.isData window.bit = false)
    (later : Walks bus mem treeStart (walk.next bus mem treeStart window.bit)
      (window.next bus mem) depth symbol) :
    Walks bus mem treeStart walk window (depth + 1) symbol := by
  refine ⟨?_,later.meets,later.read,later.window⟩
  intro earlier before
  cases earlier with
  | zero => exact inner
  | succ earlier => exact later.nothing earlier (Nat.lt_of_succ_lt_succ before)

theorem walks_bit (data : HuffmanData bus mem treeStart stream table words)
    (short : table.length < 2 ^ 32)
    (here : WalkAt table i walk) {right : Bool} (bit : window.bit = right) {side : Nat}
    (place : side = if right then childPair i walk.currentNode + 1
      else childPair i walk.currentNode)
    {child : CodeTree u8} (laid : Laid table side (walk.isData right) child)
    {bits : List Bool} (below : Code child bits symbol)
    (deeper : ∀ {walk : TreeWalk}, Laid table side false child → WalkAt table side walk →
      ∃ depth, bits.length = depth + 1 ∧
        Walks bus mem treeStart walk (window.next bus mem) depth symbol) :
    ∃ depth, bits.length + 1 = depth + 1 ∧ Walks bus mem treeStart walk window depth symbol := by
  subst bit
  obtain ⟨node,listed⟩ := laid.listed
  obtain ⟨read,there⟩ := walkAt_next data short here place listed
  cases isLeaf : walk.isData window.bit with
  | false =>
      rw [isLeaf] at laid
      obtain ⟨depth,size,walks⟩ := deeper laid there
      exact ⟨depth + 1,congrArg (· + 1) size,walks_on isLeaf walks⟩
  | true =>
      rw [isLeaf] at laid
      cases laid with
      | @leaf i found listedHere =>
          cases below
          have same : node = symbol := Option.some.inj (listed.symm.trans listedHere)
          exact ⟨0,rfl,walks_data isLeaf (read.trans same)⟩

theorem walks_code (data : HuffmanData bus mem treeStart stream table words)
    (short : table.length < 2 ^ 32) {tree : CodeTree u8} {code : List Bool}
    (followed : Code tree code symbol) (laid : Laid table i false tree) (here : WalkAt table i walk)
    {window : BitWindow}
    (agrees : Agrees (fun rounds => ((BitWindow.next bus mem)^[rounds] window).bit) code) :
    ∃ depth, code.length = depth + 1 ∧ Walks bus mem treeStart walk window depth symbol := by
  induction followed generalizing i walk window with
  | leaf symbol => cases laid
  | @left left right bits symbol below ih =>
      obtain ⟨bit,later⟩ := agrees_cons.mp agrees
      cases laid with
      | @node i node left right listed first second =>
          have same : node = walk.currentNode := Option.some.inj (listed.symm.trans here.node)
          subst same
          exact walks_bit data short here bit rfl first below
            fun laid there => ih laid there later
  | @right left right bits symbol below ih =>
      obtain ⟨bit,later⟩ := agrees_cons.mp agrees
      cases laid with
      | @node i node left right listed first second =>
          have same : node = walk.currentNode := Option.some.inj (listed.symm.trans here.node)
          subst same
          exact walks_bit data short here bit rfl second below
            fun laid there => ih laid there later

end

end Desmume.Bios
