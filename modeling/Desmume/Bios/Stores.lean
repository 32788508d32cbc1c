/-
The half-word reads and word writes of the BIOS functions, and what a function
stored.

A function of the bus can be run on a bus that notes every write down, so that
the stores of a run are data: how many there were, where they went and what
they wrote, also where the memory itself would not show it.
-/

import Desmume.Bios.Sink
import Desmume.Cpu.Banks

namespace Desmume.Bios

structure WideBus (Mem : Type) extends Bus Mem where
  _MMU_read16 : Mem → u32 → u16
  _MMU_write32 : Mem → u32 → u32 → Mem

inductive Store
  | byte (addr : u32) (val : u8)
  | half (addr : u32) (val : u16)
  | word (addr : u32) (val : u32)
  deriving DecidableEq

section

variable {Mem : Type}

variable (bus : WideBus Mem) (mem : Mem) (dest : u32) (words : List u32)

def WideBus.perform : Store → Mem
  | .byte addr val => bus._MMU_write08 mem addr val
  | .half addr val => bus._MMU_write16 mem addr val
  | .word addr val => bus._MMU_write32 mem addr val

def replay (stores : List Store) : Mem :=
  stores.foldl bus.perform mem

theorem replay_append (first second : List Store) :
    replay bus mem (first ++ second) = replay bus (replay bus mem first) second :=
  List.foldl_append

def WideBus.recording : WideBus (Mem × List Store) where
  _MMU_read08 noted addr := bus._MMU_read08 noted.1 addr
  _MMU_read16 noted addr := bus._MMU_read16 noted.1 addr
  _MMU_read32 noted addr := bus._MMU_read32 noted.1 addr
  _MMU_write08 noted addr val :=
    (bus._MMU_write08 noted.1 addr val, noted.2 ++ [.byte addr val])
  _MMU_write16 noted addr val :=
    (bus._MMU_write16 noted.1 addr val, noted.2 ++ [.half addr val])
  _MMU_write32 noted addr val :=
    (bus._MMU_write32 noted.1 addr val, noted.2 ++ [.word addr val])

theorem replay_recording (noted : Mem × List Store) (stores : List Store) :
    replay bus.recording noted stores = (replay bus noted.1 stores, noted.2 ++ stores) := by
  induction stores generalizing noted with
  | nil => exact Prod.ext rfl (List.append_nil _).symm
  | cons store rest ih =>
      have first : bus.recording.perform noted store =
          (bus.perform noted.1 store, noted.2 ++ [store]) := by
        cases store with
        | byte addr val => rfl
        | half addr val => rfl
        | word addr val => rfl
      rw [replay,List.foldl_cons,first]
      have later := ih (bus.perform noted.1 store, noted.2 ++ [store])
      rw [List.append_assoc] at later
      exact later

def storesOf (run : Mem × List Store → (Mem × List Store) × u32) : List Store :=
  (run (mem, [])).1.2

/-- Stores of words to `dest, dest + 4, ...`. -/
def placeWords : List Store :=
  words.mapIdx fun i val => .word (dest + BitVec.ofNat 32 (4 * i)) val

theorem placeWords_snoc (val : u32) :
    placeWords dest (words ++ [val]) =
      placeWords dest words ++ [.word (dest + BitVec.ofNat 32 (4 * words.length)) val] :=
  List.mapIdx_concat

@[simp] theorem length_placeWords : (placeWords dest words).length = words.length :=
  List.length_mapIdx

/-- `count` values read one after the other, each by way of the earlier ones. -/
def readings {Value : Type} (read : List Value → Value) : Nat → List Value
  | 0 => []
  | count + 1 => readings read count ++ [read (readings read count)]

@[simp] theorem length_readings {Value : Type} (read : List Value → Value) (n : Nat) :
    (readings read n).length = n := by
  induction n with
  | zero => rfl
  | succ n ih => rw [readings,List.length_append,ih,List.length_singleton]

end

def wordBytes (val : u32) : List u8 :=
  [val.extractLsb' 0 8,val.extractLsb' 8 8,val.extractLsb' 16 8,val.extractLsb' 24 8]

structure WideMemory (Mem : Type) extends PlainMemory Mem, WideBus Mem where
  read16_bytes : ∀ mem addr, cell (addr &&& ~~~1) → cell ((addr &&& ~~~1) + 1) →
    _MMU_read16 mem addr =
      _MMU_read08 mem ((addr &&& ~~~1) + 1) ++ _MMU_read08 mem (addr &&& ~~~1)
  write32_bytes : ∀ mem addr val,
    (∀ i < 4, ram ((addr &&& ~~~3) + BitVec.ofNat 32 i)) →
      _MMU_write32 mem addr val = writeBytes toBus mem (addr &&& ~~~3) (wordBytes val)

/-- The accesses that go to `MAIN_MEM`. -/
def mainWideBus : WideBus IoMem where
  toBus := mainBus
  _MMU_read16 mem addr :=
    if inMainMemory addr then T1ReadWord mem (mainIndex (addr &&& ~~~1)) else 0
  _MMU_write32 mem addr val :=
    if inMainMemory addr then T1WriteLong mem (mainIndex (addr &&& ~~~3)) val else mem

theorem mainRange_of_aligned {addr base : u32} {width : Nat} (inside : mainRange base)
    (divides : width = 2 ∨ width = 4) (aligned : base.toNat = addr.toNat / width * width) :
    mainRange addr := by
  obtain ⟨low,high⟩ := inside.toNat
  have lower : 0x02000000 ≤ addr.toNat ∧ addr.toNat < 0x02400000 := by
    rcases divides with rfl | rfl
    · omega
    · omega
  exact lower

theorem T1WriteLong_bytes (mem : IoMem) (addr : Nat) (val : u32) :
    T1WriteLong mem addr val =
      T1WriteByte (T1WriteByte (T1WriteByte (T1WriteByte mem addr (val.extractLsb' 0 8))
        (addr + 1) (val.extractLsb' 8 8)) (addr + 2) (val.extractLsb' 16 8))
        (addr + 3) (val.extractLsb' 24 8) := by
  have first : ((val.setWidth 16 : u16) &&& 0xFF).setWidth 8 = val.extractLsb' 0 8 := by
    apply BitVec.eq_of_getLsbD_eq
    intro i bound
    interval_cases i <;> simp
  have second : ((val.setWidth 16 : u16) >>> 8).setWidth 8 = val.extractLsb' 8 8 := by
    apply BitVec.eq_of_getLsbD_eq
    intro i bound
    interval_cases i <;> simp
  have third : (((val >>> 16).setWidth 16 : u16) &&& 0xFF).setWidth 8 =
      val.extractLsb' 16 8 := by
    apply BitVec.eq_of_getLsbD_eq
    intro i bound
    interval_cases i <;> simp
  have fourth : (((val >>> 16).setWidth 16 : u16) >>> 8).setWidth 8 = val.extractLsb' 24 8 := by
    apply BitVec.eq_of_getLsbD_eq
    intro i bound
    interval_cases i <;> simp
  unfold T1WriteLong T1WriteWord T1WriteByte
  rw [first,second,third,fourth,Function.update_comm (by omega : addr + 1 ≠ addr),
    Function.update_comm (by omega : addr + 2 + 1 ≠ addr + 2)]

def mainWide : WideMemory IoMem where
  toPlainMemory := mainMemory
  _MMU_read16 := mainWideBus._MMU_read16
  _MMU_write32 := mainWideBus._MMU_write32
  read16_bytes mem addr low high := by
    have second : mainIndex ((addr &&& ~~~1) + 1) = mainIndex (addr &&& ~~~1) + 1 :=
      mainIndex_add low 1 high (by decide)
    have inside := mainRange_of_aligned low (Or.inl rfl) (toNat_align2 addr)
    change (if inMainMemory addr then _ else _) =
      (if inMainMemory ((addr &&& ~~~1) + 1) then _ else _) ++
        (if inMainMemory (addr &&& ~~~1) then _ else _)
    rw [if_pos inside.inMainMemory,if_pos low.inMainMemory,if_pos high.inMainMemory,second]
    rfl
  write32_bytes mem addr val writable := by
    have zero : mainRange (addr &&& ~~~3) := by
      have first := writable 0 (by decide)
      rwa [BitVec.add_zero] at first
    have one : mainRange ((addr &&& ~~~3) + 1) := writable 1 (by decide)
    have two := writable 2 (by decide)
    have three := writable 3 (by decide)
    have inside := mainRange_of_aligned zero (Or.inr rfl) (toNat_align4 addr)
    have second : mainIndex ((addr &&& ~~~3) + 1) = mainIndex (addr &&& ~~~3) + 1 :=
      mainIndex_add zero 1 one (by decide)
    have third := mainIndex_add zero 2 two (by decide)
    have fourth := mainIndex_add zero 3 three (by decide)
    have put (mem : IoMem) (place : u32) (byte : u8) (here : mainRange place) :
        mainMemory._MMU_write08 mem place byte = T1WriteByte mem (mainIndex place) byte :=
      if_pos here.inMainMemory
    have after : (addr &&& ~~~3) + 1 + 1 = (addr &&& ~~~3) + BitVec.ofNat 32 2 :=
      next_cursor _ 1
    have last : (addr &&& ~~~3) + BitVec.ofNat 32 2 + 1 = (addr &&& ~~~3) + BitVec.ofNat 32 3 :=
      next_cursor _ 2
    change (if inMainMemory addr then _ else _) =
      writeBytes mainMemory.toBus mem (addr &&& ~~~3) (wordBytes val)
    rw [if_pos inside.inMainMemory,T1WriteLong_bytes]
    simp only [wordBytes,writeBytes]
    rw [after,last,put _ _ _ zero,put _ _ _ three,put _ _ _ two,put _ _ _ one,second,
      third,fourth]

end Desmume.Bios
