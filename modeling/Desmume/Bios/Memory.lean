/-
Memory as the BIOS functions see it: the `_MMU_` accesses and what makes a
range of addresses plain memory.

`ram` are the addresses of byte-writable memory, `cell` those that may only be
read as memory; a write to one address of memory changes no other.
-/

import Desmume.Types

namespace Desmume.Bios

structure Bus (Mem : Type) where
  _MMU_read08 : Mem → u32 → u8
  _MMU_read32 : Mem → u32 → u32
  _MMU_write08 : Mem → u32 → u8 → Mem
  _MMU_write16 : Mem → u32 → u16 → Mem

structure PlainMemory (Mem : Type) extends Bus Mem where
  cell : u32 → Prop
  ram : u32 → Prop
  cell_of_ram : ∀ addr, ram addr → cell addr
  read_same : ∀ mem addr val, ram addr → _MMU_read08 (_MMU_write08 mem addr val) addr = val
  read_other : ∀ mem addr other val, ram addr → cell other → other ≠ addr →
    _MMU_read08 (_MMU_write08 mem addr val) other = _MMU_read08 mem other
  read32_bytes : ∀ mem addr,
    (∀ i < 4, cell ((addr &&& ~~~3) + BitVec.ofNat 32 i)) →
      _MMU_read32 mem addr =
        (_MMU_read08 mem ((addr &&& ~~~3) + 3) ++ _MMU_read08 mem ((addr &&& ~~~3) + 2)) ++
          (_MMU_read08 mem ((addr &&& ~~~3) + 1) ++ _MMU_read08 mem (addr &&& ~~~3))
  write16_bytes : ∀ mem addr val, ram (addr &&& ~~~1) → ram ((addr &&& ~~~1) + 1) →
    _MMU_write16 mem addr val =
      _MMU_write08 (_MMU_write08 mem ((addr &&& ~~~1) + 1) ((val >>> 8).setWidth 8))
        (addr &&& ~~~1) ((val &&& 0xFF).setWidth 8)

/-- Byte writes to `dest, dest + 1, ...`. -/
def writeBytes {Mem : Type} (bus : Bus Mem) (mem : Mem) (dest : u32) : List u8 → Mem
  | [] => mem
  | byte :: rest => writeBytes bus (bus._MMU_write08 mem dest byte) (dest + 1) rest

theorem next_base (base : u32) (size : Nat) :
    base + 1 + BitVec.ofNat 32 size = base + BitVec.ofNat 32 (size + 1) := by
  rw [BitVec.ofNat_add,BitVec.add_comm (BitVec.ofNat 32 size),← BitVec.add_assoc]
  rfl

theorem writeBytes_append {Mem : Type} (bus : Bus Mem) (mem : Mem) (dest : u32)
    (first second : List u8) :
    writeBytes bus mem dest (first ++ second) =
      writeBytes bus (writeBytes bus mem dest first) (dest + BitVec.ofNat 32 first.length)
        second := by
  induction first generalizing mem dest with
  | nil => simp [writeBytes]
  | cons byte rest ih =>
      rw [List.cons_append,writeBytes,ih,next_base,List.length_cons]
      rfl

theorem offset_injective {dest : u32} {left right : Nat} (leftBound : left < 2 ^ 32)
    (rightBound : right < 2 ^ 32)
    (same : dest + BitVec.ofNat 32 left = dest + BitVec.ofNat 32 right) : left = right := by
  have values := congrArg BitVec.toNat ((BitVec.add_right_inj dest).mp same)
  rw [BitVec.toNat_ofNat,BitVec.toNat_ofNat,Nat.mod_eq_of_lt leftBound,
    Nat.mod_eq_of_lt rightBound] at values
  exact values

namespace PlainMemory

variable {Mem : Type} (memory : PlainMemory Mem)

theorem writeBytes_outside (bytes : List u8) {mem : Mem} {dest other : u32}
    (writable : ∀ i < bytes.length, memory.ram (dest + BitVec.ofNat 32 i))
    (readable : memory.cell other)
    (outside : ∀ i < bytes.length, other ≠ dest + BitVec.ofNat 32 i) :
    memory._MMU_read08 (writeBytes memory.toBus mem dest bytes) other =
      memory._MMU_read08 mem other := by
  induction bytes using List.reverseRecOn generalizing mem with
  | nil => rfl
  | append_singleton first byte ih =>
      rw [List.length_append,List.length_singleton] at writable outside
      have earlier := @ih mem (fun i bound => writable i (by omega))
        (fun i bound => outside i (by omega))
      have last := memory.read_other (writeBytes memory.toBus mem dest first) _ other byte
        (writable first.length (by omega)) readable (outside first.length (by omega))
      rw [writeBytes_append]
      exact last.trans earlier

theorem writeBytes_inside (bytes : List u8) {mem : Mem} {dest : u32}
    (writable : ∀ i < bytes.length, memory.ram (dest + BitVec.ofNat 32 i))
    (short : bytes.length ≤ 2 ^ 32) (i : Nat) (inside : i < bytes.length) :
    memory._MMU_read08 (writeBytes memory.toBus mem dest bytes)
      (dest + BitVec.ofNat 32 i) = bytes[i] := by
  induction bytes using List.reverseRecOn generalizing mem with
  | nil => cases inside
  | append_singleton first byte ih =>
      rw [List.length_append,List.length_singleton] at writable short inside
      have here := writable first.length (by omega)
      rw [writeBytes_append]
      by_cases last : i = first.length
      · subst last
        have same := memory.read_same (writeBytes memory.toBus mem dest first) _ byte here
        rw [List.getElem_append_right (Nat.le_refl _)]
        simpa [writeBytes] using same
      · have before : i < first.length := by omega
        have ne : dest + BitVec.ofNat 32 i ≠ dest + BitVec.ofNat 32 first.length := by
          intro same
          exact last (offset_injective (by omega) (by omega) same)
        have kept := memory.read_other (writeBytes memory.toBus mem dest first) _ _ byte here
          (memory.cell_of_ram _ (writable i inside)) ne
        have earlier := @ih mem (fun i bound => writable i (by omega)) (by omega) before
        rw [List.getElem_append_left before]
        exact kept.trans earlier

end PlainMemory

/-- `addr & _MMU_MAIN_MEM_MASK`, for 4 MB. -/
def mainIndex (addr : u32) : Nat := (addr &&& 0x3FFFFF).toNat

def inMainMemory (addr : u32) : Prop := addr &&& 0x0F000000 = 0x02000000

instance (addr : u32) : Decidable (inMainMemory addr) :=
  inferInstanceAs (Decidable (addr &&& 0x0F000000 = 0x02000000))

/-- The accesses that go to `MAIN_MEM`. -/
def mainBus : Bus IoMem where
  _MMU_read08 mem addr := if inMainMemory addr then mem (mainIndex addr) else 0
  _MMU_read32 mem addr :=
    if inMainMemory addr then T1ReadLong mem (mainIndex (addr &&& ~~~3)) else 0
  _MMU_write08 mem addr val :=
    if inMainMemory addr then T1WriteByte mem (mainIndex addr) val else mem
  _MMU_write16 mem addr val :=
    if inMainMemory addr then T1WriteWord mem (mainIndex (addr &&& ~~~1)) val else mem

def mainRange (addr : u32) : Prop := 0x02000000 ≤ addr ∧ addr < 0x02400000

theorem mainIndex_eq_mod (addr : u32) : mainIndex addr = addr.toNat % 2 ^ 22 := by
  unfold mainIndex
  rw [BitVec.toNat_and]
  exact Nat.and_two_pow_sub_one_eq_mod addr.toNat 22

variable {addr : u32}

theorem mainRange.toNat (inside : mainRange addr) :
    0x02000000 ≤ addr.toNat ∧ addr.toNat < 0x02400000 := inside

theorem mainRange.inMainMemory (inside : mainRange addr) : inMainMemory addr := by
  obtain ⟨low,high⟩ := inside.toNat
  have nibble : addr &&& (0x0F000000 : u32) = ((addr >>> 24) &&& 0xF) <<< 24 := by
    apply BitVec.eq_of_getLsbD_eq
    intro i bound
    interval_cases i <;> simp
  have top : addr >>> 24 = 2 := by
    apply BitVec.eq_of_toNat_eq
    rw [BitVec.toNat_ushiftRight,Nat.shiftRight_eq_div_pow]
    change _ = 2
    omega
  unfold Bios.inMainMemory
  rw [nibble,top]
  decide

theorem mainRange.index (inside : mainRange addr) : mainIndex addr = addr.toNat - 0x02000000 := by
  obtain ⟨low,high⟩ := inside.toNat
  rw [mainIndex_eq_mod]
  omega

theorem toNat_align4 (addr : u32) : (addr &&& ~~~3).toNat = addr.toNat / 4 * 4 := by
  have shifted : addr &&& ~~~(3 : u32) = (addr >>> 2) <<< 2 := by
    apply BitVec.eq_of_getLsbD_eq
    intro i bound
    interval_cases i <;> simp
  have bound := addr.isLt
  rw [shifted,BitVec.toNat_shiftLeft,BitVec.toNat_ushiftRight,Nat.shiftLeft_eq,
    Nat.shiftRight_eq_div_pow]
  omega

theorem toNat_align2 (addr : u32) : (addr &&& ~~~1).toNat = addr.toNat / 2 * 2 := by
  have shifted : addr &&& ~~~(1 : u32) = (addr >>> 1) <<< 1 := by
    apply BitVec.eq_of_getLsbD_eq
    intro i bound
    interval_cases i <;> simp
  have bound := addr.isLt
  rw [shifted,BitVec.toNat_shiftLeft,BitVec.toNat_ushiftRight,Nat.shiftLeft_eq,
    Nat.shiftRight_eq_div_pow]
  omega

theorem mainIndex_add (inside : mainRange addr) (i : Nat)
    (after : mainRange (addr + BitVec.ofNat 32 i)) (small : i < 4) :
    mainIndex (addr + BitVec.ofNat 32 i) = mainIndex addr + i := by
  obtain ⟨low,high⟩ := inside.toNat
  have moved : (addr + BitVec.ofNat 32 i).toNat = addr.toNat + i := by
    rw [BitVec.toNat_add,BitVec.toNat_ofNat]
    omega
  rw [after.index,inside.index,moved]
  omega

def mainMemory : PlainMemory IoMem where
  toBus := mainBus
  cell := mainRange
  ram := mainRange
  cell_of_ram _ inside := inside
  read_same mem addr val inside := by
    simp only [mainBus,if_pos inside.inMainMemory]
    exact Function.update_self _ _ _
  read_other mem addr other val inside readable ne := by
    have apart : mainIndex other ≠ mainIndex addr := by
      intro same
      apply ne
      apply BitVec.eq_of_toNat_eq
      have left := inside.toNat
      have right := readable.toNat
      rw [readable.index,inside.index] at same
      omega
    simp only [mainBus,if_pos inside.inMainMemory,if_pos readable.inMainMemory]
    exact Function.update_of_ne apart _ _
  read32_bytes mem addr readable := by
    have zero : mainRange (addr &&& ~~~3) := by
      have first := readable 0 (by decide)
      rwa [BitVec.add_zero] at first
    have one := readable 1 (by decide)
    have two := readable 2 (by decide)
    have three := readable 3 (by decide)
    have inside : mainRange addr := by
      obtain ⟨low,high⟩ := zero.toNat
      have aligned := toNat_align4 addr
      constructor
      · change 33554432 ≤ addr.toNat
        omega
      · change addr.toNat < 37748736
        omega
    have second := mainIndex_add zero 1 one (by decide)
    have third := mainIndex_add zero 2 two (by decide)
    have fourth := mainIndex_add zero 3 three (by decide)
    simp only [mainBus,if_pos inside.inMainMemory,if_pos zero.inMainMemory]
    have threeIn : Bios.inMainMemory ((addr &&& ~~~3) + 3) := three.inMainMemory
    have twoIn : Bios.inMainMemory ((addr &&& ~~~3) + 2) := two.inMainMemory
    have oneIn : Bios.inMainMemory ((addr &&& ~~~3) + 1) := one.inMainMemory
    rw [if_pos threeIn,if_pos twoIn,if_pos oneIn]
    change T1ReadLong _ _ = (mem (mainIndex (_ + BitVec.ofNat 32 3)) ++
      mem (mainIndex (_ + BitVec.ofNat 32 2))) ++ (mem (mainIndex (_ + BitVec.ofNat 32 1)) ++ _)
    rw [fourth,third,second]
    rfl
  write16_bytes mem addr val low high := by
    have second : mainIndex ((addr &&& ~~~1) + 1) = mainIndex (addr &&& ~~~1) + 1 :=
      mainIndex_add low 1 high (by decide)
    have inside : mainRange addr := by
      obtain ⟨lowest,bound⟩ := low.toNat
      have aligned := toNat_align2 addr
      constructor
      · change 33554432 ≤ addr.toNat
        omega
      · change addr.toNat < 37748736
        omega
    simp only [mainBus,if_pos inside.inMainMemory,if_pos low.inMainMemory,
      if_pos high.inMainMemory,second]
    rfl

end Desmume.Bios
