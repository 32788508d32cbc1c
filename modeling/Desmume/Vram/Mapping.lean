/-
The mapping of the VRAM banks: `MMU_VRAMmapControl` and what it calls.

All banks lie one behind the other in `ARM9_LCD`, in pages of 16 KB. The tables
say which page is seen at which place; 41 stands for no page.
-/

import Desmume.Types
import Desmume.Lib.Run
import Desmume.Lib.Table

namespace Desmume.Vram

open Function (update)

inductive VRAMBankID
  | VRAM_BANK_A
  | VRAM_BANK_B
  | VRAM_BANK_C
  | VRAM_BANK_D
  | VRAM_BANK_E
  | VRAM_BANK_F
  | VRAM_BANK_G
  | VRAM_BANK_H
  | VRAM_BANK_I
  deriving DecidableEq

open VRAMBankID

structure TVramBankInfo where
  page_addr : Nat
  num_pages : Nat

def vram_bank_info : VRAMBankID → TVramBankInfo
  | VRAM_BANK_A => { page_addr := 0, num_pages := 8 }
  | VRAM_BANK_B => { page_addr := 8, num_pages := 8 }
  | VRAM_BANK_C => { page_addr := 16, num_pages := 8 }
  | VRAM_BANK_D => { page_addr := 24, num_pages := 8 }
  | VRAM_BANK_E => { page_addr := 32, num_pages := 4 }
  | VRAM_BANK_F => { page_addr := 36, num_pages := 1 }
  | VRAM_BANK_G => { page_addr := 37, num_pages := 1 }
  | VRAM_BANK_H => { page_addr := 38, num_pages := 2 }
  | VRAM_BANK_I => { page_addr := 40, num_pages := 1 }

def page_addr (bank : VRAMBankID) : Nat := (vram_bank_info bank).page_addr

def num_pages (bank : VRAMBankID) : Nat := (vram_bank_info bank).num_pages

def VRAM_PAGE_UNMAPPED : u8 := 41

abbrev VRAM_LCDC_PAGES : Nat := 41

abbrev VRAM_ARM9_PAGES : Nat := 512

def VRAM_PAGE_ABG : Nat := 0
def VRAM_PAGE_BBG : Nat := 128
def VRAM_PAGE_AOBJ : Nat := 256
def VRAM_PAGE_BOBJ : Nat := 384

def ADDRESS_STEP_8KB : Nat := 0x2000
def ADDRESS_STEP_16KB : Nat := 0x4000

/-- The sizes of `ARM9_LCD` and of the blank memory directly behind it. -/
def ARM9_LCD_size : Nat := 0xA4000
def blank_memory_size : Nat := 0x20000

def blank_memory : Nat := ARM9_LCD_size

inductive Purpose
  | OFF
  | INVALID
  | ABG
  | BBG
  | AOBJ
  | BOBJ
  | LCDC
  | ARM7
  | TEX
  | TEXPAL
  | ABGEXTPAL
  | BBGEXTPAL
  | AOBJEXTPAL
  | BOBJEXTPAL
  deriving DecidableEq

structure BankInfo where
  purpose : Purpose
  ofs : Nat

/-- Everything `MMU_VRAMmapControl` recomputes. `VRAMSTAT` is the byte 0x240 of
the register page of the ARM7. -/
structure Mapping where
  banks : VRAMBankID → BankInfo
  vram_lcdc_map : Fin VRAM_LCDC_PAGES → u8
  vram_arm9_map : Fin VRAM_ARM9_PAGES → u8
  vram_arm7_map : Fin 2 → u8
  ExtPal : Fin 2 → Fin 4 → Nat
  ObjExtPal : Fin 2 → Fin 2 → Nat
  texPalSlot : Fin 6 → Nat
  textureSlotAddr : Fin 4 → Nat
  VRAMSTAT : u8

variable (bank : VRAMBankID) (cnt : u8) (map : Mapping) (mem : IoMem)

theorem last_page : page_addr bank + num_pages bank ≤ VRAM_LCDC_PAGES := by
  cases bank <;> decide

theorem num_pages_le : num_pages bank ≤ 8 := by
  cases bank <;> decide

namespace Mapping

variable (map : Mapping) (bank : VRAMBankID)

def setPurpose (purpose : Purpose) : Mapping :=
  { map with
    banks := update map.banks bank
      { map.banks bank with purpose := purpose } }

def setOfs (ofs : Nat) : Mapping :=
  { map with
    banks := update map.banks bank { map.banks bank with ofs := ofs } }

def MMU_vram_lcdc : Mapping :=
  { map with
    vram_lcdc_map := Table.storeAll map.vram_lcdc_map (List.finRange (num_pages bank))
      (Table.slot (page_addr bank) (num_pages bank) (last_page bank))
      (fun i => BitVec.ofNat 8 (page_addr bank + i.val)) }

theorem arm9_inside {off : Nat} (low : off ≤ 504) : off + num_pages bank ≤ VRAM_ARM9_PAGES := by
  have pages := num_pages_le bank
  unfold VRAM_ARM9_PAGES
  omega

def MMU_vram_arm9 (off : Nat) (low : off ≤ 504) : Mapping :=
  { map with
    vram_arm9_map := Table.storeAll map.vram_arm9_map (List.finRange (num_pages bank))
      (Table.slot off (num_pages bank) (arm9_inside bank low))
      (fun i => BitVec.ofNat 8 (page_addr bank + i.val)) }

def setArm7 (ofs : Fin 2) (bank : VRAMBankID) : Mapping :=
  { map with
    vram_arm7_map := update map.vram_arm7_map ofs
      (BitVec.ofNat 8 (page_addr bank)) }

def setTextureSlot (ofs : Fin 4) (addr : Nat) : Mapping :=
  { map with textureSlotAddr := update map.textureSlotAddr ofs addr }

def setTexPalSlot (slot : Fin 6) (addr : Nat) : Mapping :=
  { map with texPalSlot := update map.texPalSlot slot addr }

def setExtPal (eng : Fin 2) (slot : Fin 4) (addr : Nat) : Mapping :=
  { map with
    ExtPal := update map.ExtPal eng
      (update (map.ExtPal eng) slot addr) }

def setObjExtPal (eng slot : Fin 2) (addr : Nat) : Mapping :=
  { map with
    ObjExtPal := update map.ObjExtPal eng
      (update (map.ObjExtPal eng) slot addr) }

def orVRAMSTAT (bits : u8) : Mapping :=
  { map with VRAMSTAT := map.VRAMSTAT ||| bits }

end Mapping

def MMU_vram_physical (page : Nat) : Nat := page * ADDRESS_STEP_16KB

/-- `value & mask`, as an index below `mask + 1`. -/
def masked {width : Nat} (val : BitVec width) (mask : Nat) : Fin (mask + 1) :=
  ⟨(val &&& BitVec.ofNat width mask).toNat,by
    rw [BitVec.toNat_and,BitVec.toNat_ofNat]
    exact Nat.lt_succ_of_le (Nat.and_le_right.trans (Nat.mod_le _ _))⟩

/-- `(VRAMBankCnt >> 3) & 3`. -/
def bankOfs : Fin 4 := masked (cnt >>> 3) 3

def pageofslut : Fin 4 → Fin 6
  | 0 => 0
  | 1 => 1
  | 2 => 4
  | 3 => 5

def unsupported_mst (bank : VRAMBankID) : Mapping :=
  map.setPurpose bank .INVALID

theorem ABG_low : ∀ ofs : Fin 4, VRAM_PAGE_ABG + ofs * 8 ≤ 504 := by decide

theorem AOBJ_low : ∀ ofs : Fin 4, VRAM_PAGE_AOBJ + ofs * 8 ≤ 504 := by decide

def refreshAB : Mapping :=
  let ofs := bankOfs cnt
  match (cnt &&& 3).toNat with
  | 0 => ((map.setPurpose bank .LCDC).MMU_vram_lcdc bank).setOfs bank ofs
  | 1 =>
      ((map.setPurpose bank .ABG).MMU_vram_arm9 bank (VRAM_PAGE_ABG + ofs * 8)
        (ABG_low ofs)).setOfs bank ofs
  | 2 =>
      if ofs.val ≤ 1 then
        ((map.setPurpose bank .AOBJ).MMU_vram_arm9 bank (VRAM_PAGE_AOBJ + ofs * 8)
          (AOBJ_low ofs)).setOfs bank ofs
      else (map.setPurpose bank .AOBJ).setOfs bank ofs
  | 3 =>
      ((map.setPurpose bank .TEX).setTextureSlot ofs
        (MMU_vram_physical (page_addr bank))).setOfs bank ofs
  | _ => unsupported_mst map bank

def refreshCD : Mapping :=
  let ofs := bankOfs cnt
  match (cnt &&& 7).toNat with
  | 0 => ((map.setPurpose bank .LCDC).MMU_vram_lcdc bank).setOfs bank ofs
  | 1 =>
      ((map.setPurpose bank .ABG).MMU_vram_arm9 bank (VRAM_PAGE_ABG + ofs * 8)
        (ABG_low ofs)).setOfs bank ofs
  | 2 =>
      let map := map.setPurpose bank .ARM7
      let map := if bank = VRAM_BANK_C then map.orVRAMSTAT 1 else map
      let map := if bank = VRAM_BANK_D then map.orVRAMSTAT 2 else map
      if supported : ofs.val < 2 then
        (map.setArm7 ⟨ofs.val,supported⟩ bank).setOfs bank ofs
      else map.setOfs bank ofs
  | 3 =>
      ((map.setPurpose bank .TEX).setTextureSlot ofs
        (MMU_vram_physical (page_addr bank))).setOfs bank ofs
  | 4 =>
      if bank = VRAM_BANK_C then
        ((map.setPurpose bank .BBG).MMU_vram_arm9 bank VRAM_PAGE_BBG
          (by decide)).setOfs bank ofs
      else
        ((map.setPurpose bank .BOBJ).MMU_vram_arm9 bank VRAM_PAGE_BOBJ
          (by decide)).setOfs bank ofs
  | _ => unsupported_mst map bank

/-- `ExtPal[engine][0..3]`, each 8 KB behind the one before. -/
def mapExtPal (eng : Fin 2) (bank : VRAMBankID) : Mapping :=
  let map := map.setExtPal eng 0 (MMU_vram_physical (page_addr bank))
  let map := map.setExtPal eng 1 (map.ExtPal eng 0 + ADDRESS_STEP_8KB)
  let map := map.setExtPal eng 2 (map.ExtPal eng 1 + ADDRESS_STEP_8KB)
  map.setExtPal eng 3 (map.ExtPal eng 2 + ADDRESS_STEP_8KB)

def mapObjExtPal (eng : Fin 2) (bank : VRAMBankID) : Mapping :=
  let map := map.setObjExtPal eng 0 (MMU_vram_physical (page_addr bank))
  map.setObjExtPal eng 1 (map.ObjExtPal eng 1 + ADDRESS_STEP_8KB)

def refreshE : Mapping :=
  match (cnt &&& 7).toNat with
  | 0 => ((map.setPurpose bank .LCDC).MMU_vram_lcdc bank).setOfs bank 0
  | 1 =>
      ((map.setPurpose bank .ABG).MMU_vram_arm9 bank VRAM_PAGE_ABG (by decide)).setOfs bank 0
  | 2 =>
      ((map.setPurpose bank .AOBJ).MMU_vram_arm9 bank VRAM_PAGE_AOBJ
        (by decide)).setOfs bank 0
  | 3 =>
      let map := map.setPurpose bank .TEXPAL
      let map := map.setTexPalSlot 0 (MMU_vram_physical (page_addr bank))
      let map := map.setTexPalSlot 1 (MMU_vram_physical (page_addr bank + 1))
      let map := map.setTexPalSlot 2 (MMU_vram_physical (page_addr bank + 2))
      let map := map.setTexPalSlot 3 (MMU_vram_physical (page_addr bank + 3))
      map.setOfs bank 0
  | 4 => (mapExtPal (map.setPurpose bank .ABGEXTPAL) 0 bank).setOfs bank 0
  | _ => unsupported_mst map bank

theorem ABG_pageofs : ∀ pageofs : Fin 6, VRAM_PAGE_ABG + pageofs ≤ 504 := by decide

theorem ABG_mirror : ∀ pageofs : Fin 6, VRAM_PAGE_ABG + pageofs + 2 ≤ 504 := by decide

theorem AOBJ_pageofs : ∀ pageofs : Fin 6, VRAM_PAGE_AOBJ + pageofs ≤ 504 := by decide

theorem AOBJ_mirror : ∀ pageofs : Fin 6, VRAM_PAGE_AOBJ + pageofs + 2 ≤ 504 := by decide

theorem slot_first {ofs : Fin 4} (supported : ofs.val ≤ 1) : ofs.val * 2 < 4 := by
  omega

theorem slot_second {ofs : Fin 4} (supported : ofs.val ≤ 1) : ofs.val * 2 + 1 < 4 := by
  omega

/-- The pages two behind the selected ones are the mirrors the source calls
unexpected. -/
def refreshFG : Mapping :=
  let ofs := bankOfs cnt
  let pageofs := pageofslut ofs
  match (cnt &&& 7).toNat with
  | 0 => ((map.setPurpose bank .LCDC).MMU_vram_lcdc bank).setOfs bank ofs
  | 1 =>
      let map := map.setPurpose bank .ABG
      let map := map.MMU_vram_arm9 bank (VRAM_PAGE_ABG + pageofs)
        (ABG_pageofs pageofs)
      let map := map.MMU_vram_arm9 bank (VRAM_PAGE_ABG + pageofs + 2)
        (ABG_mirror pageofs)
      map.setOfs bank ofs
  | 2 =>
      let map := map.setPurpose bank .AOBJ
      let map := map.MMU_vram_arm9 bank (VRAM_PAGE_AOBJ + pageofs)
        (AOBJ_pageofs pageofs)
      let map := map.MMU_vram_arm9 bank (VRAM_PAGE_AOBJ + pageofs + 2)
        (AOBJ_mirror pageofs)
      map.setOfs bank ofs
  | 3 =>
      ((map.setPurpose bank .TEXPAL).setTexPalSlot pageofs
        (MMU_vram_physical (page_addr bank))).setOfs bank ofs
  | 4 =>
      if supported : ofs.val ≤ 1 then
        let map := map.setPurpose bank .ABGEXTPAL
        let map := map.setExtPal 0 ⟨ofs * 2,slot_first supported⟩
          (MMU_vram_physical (page_addr bank))
        let map := map.setExtPal 0 ⟨ofs * 2 + 1,slot_second supported⟩
          (map.ExtPal 0 ⟨ofs * 2,slot_first supported⟩ + ADDRESS_STEP_8KB)
        map.setOfs bank ofs
      else (map.setPurpose bank .INVALID).setOfs bank ofs
  | 5 => (mapObjExtPal (map.setPurpose bank .AOBJEXTPAL) 0 bank).setOfs bank ofs
  | _ => unsupported_mst map bank

def refreshH : Mapping :=
  match (cnt &&& 3).toNat with
  | 0 => ((map.setPurpose bank .LCDC).MMU_vram_lcdc bank).setOfs bank 0
  | 1 =>
      let map := map.setPurpose bank .BBG
      let map := map.MMU_vram_arm9 bank VRAM_PAGE_BBG (by decide)
      let map := map.MMU_vram_arm9 bank (VRAM_PAGE_BBG + 4) (by decide)
      map.setOfs bank 0
  | 2 => (mapExtPal (map.setPurpose bank .BBGEXTPAL) 1 bank).setOfs bank 0
  | _ => unsupported_mst map bank

def refreshI : Mapping :=
  match (cnt &&& 3).toNat with
  | 0 => ((map.setPurpose bank .LCDC).MMU_vram_lcdc bank).setOfs bank 0
  | 1 =>
      let map := map.setPurpose bank .BBG
      let map := map.MMU_vram_arm9 bank (VRAM_PAGE_BBG + 2) (by decide)
      let map := map.MMU_vram_arm9 bank (VRAM_PAGE_BBG + 3) (by decide)
      map.setOfs bank 0
  | 2 =>
      let map := map.setPurpose bank .BOBJ
      let map := map.MMU_vram_arm9 bank VRAM_PAGE_BOBJ (by decide)
      let map := map.MMU_vram_arm9 bank (VRAM_PAGE_BOBJ + 1) (by decide)
      map.setOfs bank 0
  | 3 => (mapObjExtPal (map.setPurpose bank .BOBJEXTPAL) 1 bank).setOfs bank 0
  | _ => unsupported_mst map bank

def refreshEnabled : VRAMBankID → u8 → Mapping → Mapping
  | VRAM_BANK_A => refreshAB VRAM_BANK_A
  | VRAM_BANK_B => refreshAB VRAM_BANK_B
  | VRAM_BANK_C => refreshCD VRAM_BANK_C
  | VRAM_BANK_D => refreshCD VRAM_BANK_D
  | VRAM_BANK_E => refreshE VRAM_BANK_E
  | VRAM_BANK_F => refreshFG VRAM_BANK_F
  | VRAM_BANK_G => refreshFG VRAM_BANK_G
  | VRAM_BANK_H => refreshH VRAM_BANK_H
  | VRAM_BANK_I => refreshI VRAM_BANK_I

/-- The register of a bank in the block that starts at 0x240; WRAMCNT lies
between those of G and H. -/
def registerBlock : VRAMBankID → Nat
  | VRAM_BANK_A => 0
  | VRAM_BANK_B => 1
  | VRAM_BANK_C => 2
  | VRAM_BANK_D => 3
  | VRAM_BANK_E => 4
  | VRAM_BANK_F => 5
  | VRAM_BANK_G => 6
  | VRAM_BANK_H => 8
  | VRAM_BANK_I => 9

def bankRegister (bank : VRAMBankID) : u8 := mem (0x240 + registerBlock bank)

def MMU_VRAMmapRefreshBank (map : Mapping) : Mapping :=
  let cnt := bankRegister mem bank
  if cnt &&& 0x80 = 0 then map else refreshEnabled bank cnt map

def MMU_VRAM_unmap_all : Mapping :=
  { map with
    banks := fun _ => { purpose := .OFF, ofs := 0 }
    vram_lcdc_map := fun _ => VRAM_PAGE_UNMAPPED
    vram_arm9_map := fun _ => VRAM_PAGE_UNMAPPED
    vram_arm7_map := fun _ => VRAM_PAGE_UNMAPPED
    ExtPal := fun _ _ => blank_memory
    ObjExtPal := fun _ _ => blank_memory
    texPalSlot := fun _ => blank_memory
    textureSlotAddr := fun _ => blank_memory }

def refreshAll (map : Mapping) : Mapping :=
  let map := MMU_VRAMmapRefreshBank VRAM_BANK_I mem map
  let map := MMU_VRAMmapRefreshBank VRAM_BANK_H mem map
  let map := MMU_VRAMmapRefreshBank VRAM_BANK_G mem map
  let map := MMU_VRAMmapRefreshBank VRAM_BANK_F mem map
  let map := MMU_VRAMmapRefreshBank VRAM_BANK_E mem map
  let map := MMU_VRAMmapRefreshBank VRAM_BANK_A mem map
  let map := MMU_VRAMmapRefreshBank VRAM_BANK_B mem map
  let map := MMU_VRAMmapRefreshBank VRAM_BANK_C mem map
  MMU_VRAMmapRefreshBank VRAM_BANK_D mem map

/-! ### The mirrors behind the mappable areas -/

inductive Region
  | abg
  | bbg
  | aobj
  | bobj
  deriving DecidableEq

/-- `types[t]`. -/
def Region.type : Region → Nat
  | .abg => VRAM_PAGE_ABG
  | .bbg => VRAM_PAGE_BBG
  | .aobj => VRAM_PAGE_AOBJ
  | .bobj => VRAM_PAGE_BOBJ

/-- `sizes[t]`. -/
def Region.size : Region → Nat
  | .abg => 32
  | .bbg => 8
  | .aobj => 16
  | .bobj => 8

theorem Region.type_le (region : Region) : region.type ≤ 384 := by
  cases region <;> decide

theorem Region.size_le (region : Region) : 8 ≤ region.size ∧ region.size ≤ 32 := by
  cases region <;> decide

/-- The page `type + i` of the loop, for `i` from `size` to 127. -/
def mirrorTarget (region : Region) (i : Fin (128 - region.size)) : Fin VRAM_ARM9_PAGES :=
  ⟨region.type + (region.size + i.val),by
    have low := region.type_le
    unfold VRAM_ARM9_PAGES
    omega⟩

/-- The page `type + (i & mask)`. -/
def mirrorSource (region : Region) (i : Fin (128 - region.size)) : Fin VRAM_ARM9_PAGES :=
  ⟨region.type + ((region.size + i.val) &&& (region.size - 1)),by
    have low := region.type_le
    have small := region.size_le
    have masked : (region.size + i.val) &&& (region.size - 1) ≤ region.size - 1 :=
      Nat.and_le_right
    unfold VRAM_ARM9_PAGES
    omega⟩

def mirrorRegion (region : Region) (map : Mapping) : Mapping :=
  { map with
    vram_arm9_map := Table.copyAll map.vram_arm9_map
      (List.finRange (128 - region.size)) (mirrorTarget region) (mirrorSource region) }

def mirrorAll : Mapping :=
  mirrorRegion .bobj (mirrorRegion .aobj (mirrorRegion .bbg (mirrorRegion .abg map)))

structure VramState where
  arm9Reg : IoMem
  WRAMCNT : Fin 4
  mapping : Mapping

def MMU_VRAMmapControl (vram : VramState) (block : Nat) (cnt : u8) : VramState :=
  if block = 7 then { vram with WRAMCNT := masked cnt 3 }
  else
    let mapping := MMU_VRAM_unmap_all vram.mapping
    let mapping := { mapping with VRAMSTAT := 0 }
    let mem := T1WriteByte vram.arm9Reg (0x240 + block) cnt
    { vram with
      arm9Reg := mem
      mapping := mirrorAll (refreshAll mem mapping) }

/-- What `MMU_Reset` leaves of the state. -/
def MMU_Reset (vram : VramState) : VramState :=
  { arm9Reg := fun _ => 0
    WRAMCNT := 0
    mapping := { MMU_VRAM_unmap_all vram.mapping with VRAMSTAT := 0 } }

inductive Call
  | control (block : Nat) (cnt : u8)
  | storeByte (addr : Nat) (val : u8)
  | storeWord (addr : Nat) (val : u16)
  | storeLong (addr : Nat) (val : u32)

def step (vram : VramState) : Call → VramState
  | .control block cnt => MMU_VRAMmapControl vram block cnt
  | .storeByte addr val => { vram with arm9Reg := T1WriteByte vram.arm9Reg addr val }
  | .storeWord addr val => { vram with arm9Reg := T1WriteWord vram.arm9Reg addr val }
  | .storeLong addr val => { vram with arm9Reg := T1WriteLong vram.arm9Reg addr val }

/-- A write of the ARM9 to the registers 0x240 to 0x249, by the block of its
aligned address. -/
inductive BusWrite
  | write08 (block : Fin 10) (val : u8)
  | write16 (block : Fin 5) (val : u16)
  | write32 (block : Fin 3) (val : u32)

/-- The cases of the three handlers. The 32-bit write at VRAMCNTH has two
register bytes only. -/
def BusWrite.calls : BusWrite → List Call
  | .write08 block val => [.control block val,.storeByte (0x240 + block) val]
  | .write16 block val =>
      [.control (2 * block) ((val &&& 0xFF).setWidth 8),
        .control (2 * block + 1) ((val >>> 8).setWidth 8),
        .storeWord (0x240 + 2 * block) val]
  | .write32 block val =>
      if block.val < 2 then
        [.control (4 * block) ((val &&& 0xFF).setWidth 8),
          .control (4 * block + 1) (((val >>> 8) &&& 0xFF).setWidth 8),
          .control (4 * block + 2) (((val >>> 16) &&& 0xFF).setWidth 8),
          .control (4 * block + 3) (((val >>> 24) &&& 0xFF).setWidth 8),
          .storeLong (0x240 + 4 * block) val]
      else
        [.control (4 * block) ((val &&& 0xFF).setWidth 8),
          .control (4 * block + 1) (((val >>> 8) &&& 0xFF).setWidth 8),
          .storeLong (0x240 + 4 * block) val]

end Desmume.Vram
