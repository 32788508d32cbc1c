/-
The slots of the extended palettes.

Five banks can be mapped as extended palettes.
-/

import Desmume.Vram.Control

namespace Desmume.Vram

open VRAMBankID

inductive PaletteSlot
  | bg (eng : Fin 2) (slot : Fin 4)
  | obj (eng : Fin 2) (slot : Fin 2)

variable (map : Mapping) (cnt : u8)

def Mapping.palette : PaletteSlot → Nat
  | .bg eng slot => map.ExtPal eng slot
  | .obj eng slot => map.ObjExtPal eng slot

def blockE : PaletteSlot → Option Nat
  | .bg eng slot => if eng = 0 ∧ (cnt &&& 7).toNat = 4 then some slot else none
  | .obj _ _ => none

def blockFG : PaletteSlot → Option Nat
  | .bg eng slot =>
      if (eng = 0 ∧ (cnt &&& 7).toNat = 4) ∧ slot.val / 2 = (bankOfs cnt).val then
        some (slot.val % 2)
      else none
  | .obj eng slot => if eng = 0 ∧ (cnt &&& 7).toNat = 5 then some slot else none

def blockH : PaletteSlot → Option Nat
  | .bg eng slot => if eng = 1 ∧ (cnt &&& 3).toNat = 2 then some slot else none
  | .obj _ _ => none

def blockI : PaletteSlot → Option Nat
  | .bg _ _ => none
  | .obj eng slot => if eng = 1 ∧ (cnt &&& 3).toNat = 3 then some slot else none

def selectedBlock : VRAMBankID → u8 → PaletteSlot → Option Nat
  | VRAM_BANK_E => blockE
  | VRAM_BANK_F => blockFG
  | VRAM_BANK_G => blockFG
  | VRAM_BANK_H => blockH
  | VRAM_BANK_I => blockI
  | _ => fun _ _ => none

def paletteBlock (regs : Registers) (bank : VRAMBankID) (slot : PaletteSlot) : Option Nat :=
  if regs bank &&& 0x80 = 0 then none else selectedBlock bank (regs bank) slot

def provider (regs : Registers) (slot : PaletteSlot) : Option (VRAMBankID × Nat) :=
  [VRAM_BANK_E,VRAM_BANK_F,VRAM_BANK_G,VRAM_BANK_H,VRAM_BANK_I].findSome?
    (fun bank => (paletteBlock regs bank slot).map (fun block => (bank, block)))

def blockAddr (bank : VRAMBankID) (block : Nat) : Nat :=
  MMU_vram_physical (page_addr bank) + block * ADDRESS_STEP_8KB

/-- The slots a bank provides are consecutive 8 KB blocks of its memory, and the
slots no bank provides are blank. -/
structure PaletteSlots (regs : Registers) (map : Mapping) : Prop where
  provided : ∀ slot bank block, provider regs slot = some (bank, block) →
    map.palette slot = blockAddr bank block ∧
      (block + 1) * ADDRESS_STEP_8KB ≤ num_pages bank * ADDRESS_STEP_16KB
  bgConsecutive : ∀ eng (slot next : Fin 4), next.val = slot.val + 1 →
    ∀ bank block later, provider regs (.bg eng slot) = some (bank, block) →
      provider regs (.bg eng next) = some (bank, later) →
        map.ExtPal eng next = map.ExtPal eng slot + ADDRESS_STEP_8KB
  objConsecutive : ∀ eng, map.ObjExtPal eng 0 < ARM9_LCD_size →
    map.ObjExtPal eng 1 = map.ObjExtPal eng 0 + ADDRESS_STEP_8KB
  blank : ∀ slot, provider regs slot = none → map.palette slot = blank_memory

def SelectsObjPalette : VRAMBankID → u8 → Prop
  | VRAM_BANK_F, cnt | VRAM_BANK_G, cnt => cnt &&& 0x80 ≠ 0 ∧ (cnt &&& 7).toNat = 5
  | VRAM_BANK_I, cnt => cnt &&& 0x80 ≠ 0 ∧ (cnt &&& 3).toNat = 3
  | _, _ => False

def filled (bank : VRAMBankID) (block : Option Nat) (old : Nat) : Nat :=
  block.elim old (blockAddr bank)

theorem ExtPal_mapExtPal (eng other : Fin 2) (bank : VRAMBankID) (slot : Fin 4) :
    (mapExtPal map eng bank).ExtPal other slot =
      if other = eng then blockAddr bank slot else map.ExtPal other slot := by
  by_cases same : other = eng
  · subst same
    rw [if_pos rfl]
    fin_cases slot <;> simp [mapExtPal,Mapping.setExtPal,blockAddr,Nat.add_assoc] <;> rfl
  · simp [mapExtPal,Mapping.setExtPal,same]

theorem filled_if (bank : VRAMBankID) (here : Prop) [Decidable here] (block old : Nat) :
    filled bank (if here then some block else none) old =
      if here then blockAddr bank block else old := by
  by_cases taken : here
  · rw [if_pos taken,if_pos taken]
    rfl
  · rw [if_neg taken,if_neg taken]
    rfl

theorem ExtPal_refreshE (bank : VRAMBankID) (cnt : u8) (map : Mapping) (eng : Fin 2)
    (slot : Fin 4) :
    (refreshE bank cnt map).ExtPal eng slot =
      filled bank (blockE cnt (.bg eng slot)) (map.ExtPal eng slot) := by
  rw [blockE,filled_if]
  unfold refreshE
  split
  case h_5 selected =>
      change (mapExtPal (map.setPurpose bank .ABGEXTPAL) 0 bank).ExtPal eng slot = _
      rw [ExtPal_mapExtPal]
      simp only [selected,and_true]
      rfl
  case h_6 unselected =>
      rw [if_neg (fun both => unselected both.2)]
      rfl
  all_goals
      rw [if_neg (by omega)]
      rfl

theorem ExtPal_refreshH (bank : VRAMBankID) (cnt : u8) (map : Mapping) (eng : Fin 2)
    (slot : Fin 4) :
    (refreshH bank cnt map).ExtPal eng slot =
      filled bank (blockH cnt (.bg eng slot)) (map.ExtPal eng slot) := by
  rw [blockH,filled_if]
  unfold refreshH
  split
  case h_3 selected =>
      change (mapExtPal (map.setPurpose bank .BBGEXTPAL) 1 bank).ExtPal eng slot = _
      rw [ExtPal_mapExtPal]
      simp only [selected,and_true]
      rfl
  case h_4 unselected =>
      rw [if_neg (fun both => unselected both.2)]
      rfl
  all_goals
      rw [if_neg (by omega)]
      rfl

theorem ExtPal_setExtPal (eng other : Fin 2) (slot place : Fin 4) (addr : Nat) :
    (map.setExtPal eng slot addr).ExtPal other place =
      if other = eng ∧ place = slot then addr else map.ExtPal other place := by
  unfold Mapping.setExtPal
  by_cases same : other = eng
  · subst same
    by_cases here : place = slot
    · simp [here]
    · simp [here]
  · simp [same]

theorem ExtPal_pair (bank : VRAMBankID) (ofs : Nat) (supported : ofs ≤ 1)
    (eng : Fin 2) (slot : Fin 4) :
    ((map.setExtPal 0 ⟨ofs * 2,by omega⟩ (MMU_vram_physical (page_addr bank))).setExtPal 0
        ⟨ofs * 2 + 1,by omega⟩
        ((map.setExtPal 0 ⟨ofs * 2,by omega⟩ (MMU_vram_physical (page_addr bank))).ExtPal 0
          ⟨ofs * 2,by omega⟩ + ADDRESS_STEP_8KB)).ExtPal eng slot =
      if eng = 0 ∧ slot.val / 2 = ofs then blockAddr bank (slot.val % 2)
      else map.ExtPal eng slot := by
  simp only [ExtPal_setExtPal,Fin.ext_iff (a := slot),and_self,if_true]
  by_cases first : eng = 0
  · by_cases odd : slot.val = ofs * 2 + 1
    · have half : slot.val / 2 = ofs ∧ slot.val % 2 = 1 := by omega
      rw [if_pos ⟨first,odd⟩,if_pos ⟨first,half.1⟩,half.2,blockAddr,Nat.one_mul]
    · by_cases even : slot.val = ofs * 2
      · have half : slot.val / 2 = ofs ∧ slot.val % 2 = 0 := by omega
        rw [if_neg (fun both => odd both.2),if_pos ⟨first,even⟩,if_pos ⟨first,half.1⟩,
          half.2,blockAddr,Nat.zero_mul,Nat.add_zero]
      · have half : slot.val / 2 ≠ ofs := by omega
        rw [if_neg (fun both => odd both.2),if_neg (fun both => even both.2),
          if_neg (fun both => half both.2)]
  · rw [if_neg (fun both => first both.1),if_neg (fun both => first both.1),
      if_neg (fun both => first both.1)]

theorem ExtPal_refreshFG (bank : VRAMBankID) (cnt : u8) (map : Mapping) (eng : Fin 2)
    (slot : Fin 4) :
    (refreshFG bank cnt map).ExtPal eng slot =
      filled bank (blockFG cnt (.bg eng slot)) (map.ExtPal eng slot) := by
  rw [blockFG,filled_if]
  unfold refreshFG
  by_cases selected : (cnt &&& 7).toNat = 4
  · simp only [selected,and_true]
    by_cases supported : (bankOfs cnt).val ≤ 1
    · rw [dif_pos supported]
      exact ExtPal_pair (map.setPurpose bank .ABGEXTPAL) bank _ supported eng slot
    · rw [dif_neg supported,if_neg (by omega)]
      rfl
  · rw [if_neg (fun all => selected all.1.2)]
    dsimp only
    split
    case h_5 chosen => exact absurd chosen selected
    all_goals rfl

/-- The first slot of the sprites is the bank, the second goes up 8 KB. -/
def objFilled (bank : VRAMBankID) (block : Option Nat) (slot : Fin 2) (old : Nat) : Nat :=
  block.elim old
    (fun _ => if slot = 0 then MMU_vram_physical (page_addr bank) else old + ADDRESS_STEP_8KB)

theorem objFilled_if (bank : VRAMBankID) (here : Prop) [Decidable here] (block : Nat)
    (slot : Fin 2) (old : Nat) :
    objFilled bank (if here then some block else none) slot old =
      if here then
        if slot = 0 then MMU_vram_physical (page_addr bank) else old + ADDRESS_STEP_8KB
      else old := by
  by_cases taken : here
  · rw [if_pos taken,if_pos taken]
    rfl
  · rw [if_neg taken,if_neg taken]
    rfl

theorem ObjExtPal_mapObjExtPal (eng other : Fin 2) (bank : VRAMBankID) (slot : Fin 2) :
    (mapObjExtPal map eng bank).ObjExtPal other slot =
      if other = eng then
        if slot = 0 then MMU_vram_physical (page_addr bank)
        else map.ObjExtPal other slot + ADDRESS_STEP_8KB
      else map.ObjExtPal other slot := by
  by_cases same : other = eng
  · subst same
    rw [if_pos rfl]
    fin_cases slot <;> simp [mapObjExtPal,Mapping.setObjExtPal]
  · simp [mapObjExtPal,Mapping.setObjExtPal,same]

theorem ObjExtPal_refreshFG (bank : VRAMBankID) (cnt : u8) (map : Mapping) (eng slot : Fin 2) :
    (refreshFG bank cnt map).ObjExtPal eng slot =
      objFilled bank (blockFG cnt (.obj eng slot)) slot (map.ObjExtPal eng slot) := by
  rw [blockFG,objFilled_if]
  by_cases selected : (cnt &&& 7).toNat = 5
  · unfold refreshFG
    simp only [selected,and_true]
    exact ObjExtPal_mapObjExtPal (map.setPurpose bank .AOBJEXTPAL) 0 eng bank slot
  · rw [if_neg (fun all => selected all.2)]
    unfold refreshFG
    dsimp only
    split
    case h_5 => split <;> rfl
    case h_6 chosen => exact absurd chosen selected
    all_goals rfl

theorem ObjExtPal_refreshI (bank : VRAMBankID) (cnt : u8) (map : Mapping) (eng slot : Fin 2) :
    (refreshI bank cnt map).ObjExtPal eng slot =
      objFilled bank (blockI cnt (.obj eng slot)) slot (map.ObjExtPal eng slot) := by
  rw [blockI,objFilled_if]
  by_cases selected : (cnt &&& 3).toNat = 3
  · unfold refreshI
    simp only [selected,and_true]
    exact ObjExtPal_mapObjExtPal (map.setPurpose bank .BOBJEXTPAL) 1 eng bank slot
  · rw [if_neg (fun all => selected all.2)]
    unfold refreshI
    split
    case h_4 chosen => exact absurd chosen selected
    all_goals rfl

theorem palettes_refreshAB (bank : VRAMBankID) (cnt : u8) (map : Mapping) :
    (refreshAB bank cnt map).ExtPal = map.ExtPal ∧
      (refreshAB bank cnt map).ObjExtPal = map.ObjExtPal := by
  unfold refreshAB
  dsimp only
  split
  case h_3 => split <;> exact ⟨rfl,rfl⟩
  all_goals exact ⟨rfl,rfl⟩

theorem palettes_refreshCD (bank : VRAMBankID) (cnt : u8) (map : Mapping) :
    (refreshCD bank cnt map).ExtPal = map.ExtPal ∧
      (refreshCD bank cnt map).ObjExtPal = map.ObjExtPal := by
  unfold refreshCD
  dsimp only
  split
  case h_3 => split_ifs <;> exact ⟨rfl,rfl⟩
  case h_5 => split <;> exact ⟨rfl,rfl⟩
  all_goals exact ⟨rfl,rfl⟩

theorem ObjExtPal_refreshE (bank : VRAMBankID) (cnt : u8) (map : Mapping) :
    (refreshE bank cnt map).ObjExtPal = map.ObjExtPal := by
  unfold refreshE
  split <;> rfl

theorem ObjExtPal_refreshH (bank : VRAMBankID) (cnt : u8) (map : Mapping) :
    (refreshH bank cnt map).ObjExtPal = map.ObjExtPal := by
  unfold refreshH
  split <;> rfl

theorem ExtPal_refreshI (bank : VRAMBankID) (cnt : u8) (map : Mapping) :
    (refreshI bank cnt map).ExtPal = map.ExtPal := by
  unfold refreshI
  split <;> rfl

/-! ### One bank after the other -/

theorem ExtPal_refreshBank (bank : VRAMBankID) (mem : IoMem) (map : Mapping)
    (eng : Fin 2) (slot : Fin 4) :
    (MMU_VRAMmapRefreshBank bank mem map).ExtPal eng slot =
      filled bank (paletteBlock (bankRegister mem) bank (.bg eng slot))
        (map.ExtPal eng slot) := by
  unfold MMU_VRAMmapRefreshBank paletteBlock
  by_cases off : bankRegister mem bank &&& 0x80 = 0
  · rw [if_pos off,if_pos off]
    rfl
  · rw [if_neg off,if_neg off]
    have kept {after : Mapping} (same : after.ExtPal = map.ExtPal) :
        after.ExtPal eng slot = filled bank none (map.ExtPal eng slot) := by
      rw [same]
      rfl
    cases bank with
    | VRAM_BANK_A => exact kept (palettes_refreshAB _ _ map).1
    | VRAM_BANK_B => exact kept (palettes_refreshAB _ _ map).1
    | VRAM_BANK_C => exact kept (palettes_refreshCD _ _ map).1
    | VRAM_BANK_D => exact kept (palettes_refreshCD _ _ map).1
    | VRAM_BANK_E => exact ExtPal_refreshE _ _ map eng slot
    | VRAM_BANK_F => exact ExtPal_refreshFG _ _ map eng slot
    | VRAM_BANK_G => exact ExtPal_refreshFG _ _ map eng slot
    | VRAM_BANK_H => exact ExtPal_refreshH _ _ map eng slot
    | VRAM_BANK_I => exact kept (ExtPal_refreshI _ _ map)

theorem ObjExtPal_refreshBank (bank : VRAMBankID) (mem : IoMem) (map : Mapping) (eng slot : Fin 2) :
    (MMU_VRAMmapRefreshBank bank mem map).ObjExtPal eng slot =
      objFilled bank (paletteBlock (bankRegister mem) bank (.obj eng slot)) slot
        (map.ObjExtPal eng slot) := by
  unfold MMU_VRAMmapRefreshBank paletteBlock
  by_cases off : bankRegister mem bank &&& 0x80 = 0
  · rw [if_pos off,if_pos off]
    rfl
  · rw [if_neg off,if_neg off]
    have kept {after : Mapping} (same : after.ObjExtPal = map.ObjExtPal) :
        after.ObjExtPal eng slot =
          objFilled bank none slot (map.ObjExtPal eng slot) := by
      rw [same]
      rfl
    cases bank with
    | VRAM_BANK_A => exact kept (palettes_refreshAB _ _ map).2
    | VRAM_BANK_B => exact kept (palettes_refreshAB _ _ map).2
    | VRAM_BANK_C => exact kept (palettes_refreshCD _ _ map).2
    | VRAM_BANK_D => exact kept (palettes_refreshCD _ _ map).2
    | VRAM_BANK_E => exact kept (ObjExtPal_refreshE _ _ map)
    | VRAM_BANK_F => exact ObjExtPal_refreshFG _ _ map eng slot
    | VRAM_BANK_G => exact ObjExtPal_refreshFG _ _ map eng slot
    | VRAM_BANK_H => exact kept (ObjExtPal_refreshH _ _ map)
    | VRAM_BANK_I => exact ObjExtPal_refreshI _ _ map eng slot

theorem fold_provider {Value : Type} (regs : Registers) (slot : PaletteSlot)
    (store : VRAMBankID → Nat → Value) (old : Value) :
    let fill bank val := (paletteBlock regs bank slot).elim val (store bank)
    fill VRAM_BANK_D (fill VRAM_BANK_C (fill VRAM_BANK_B (fill VRAM_BANK_A (fill VRAM_BANK_E
      (fill VRAM_BANK_F (fill VRAM_BANK_G (fill VRAM_BANK_H (fill VRAM_BANK_I old)))))))) =
      (provider regs slot).elim old (fun claim => store claim.1 claim.2) := by
  have none_of (bank : VRAMBankID) (unselected : ∀ cnt, selectedBlock bank cnt slot = none) :
      paletteBlock regs bank slot = none := by
    unfold paletteBlock
    rw [unselected,ite_self]
  simp only [none_of VRAM_BANK_A (fun _ => rfl),none_of VRAM_BANK_B (fun _ => rfl),
    none_of VRAM_BANK_C (fun _ => rfl),none_of VRAM_BANK_D (fun _ => rfl),Option.elim_none,
    provider,List.findSome?_cons,List.findSome?_nil]
  cases paletteBlock regs VRAM_BANK_E slot with
  | some block => rfl
  | none =>
      cases paletteBlock regs VRAM_BANK_F slot with
      | some block => rfl
      | none =>
          cases paletteBlock regs VRAM_BANK_G slot with
          | some block => rfl
          | none =>
              cases paletteBlock regs VRAM_BANK_H slot with
              | some block => rfl
              | none => cases paletteBlock regs VRAM_BANK_I slot <;> rfl

theorem ExtPal_mappingOf (regs : Registers) (eng : Fin 2) (slot : Fin 4) :
    (mappingOf regs).ExtPal eng slot =
      (provider regs (.bg eng slot)).elim blank_memory
        (fun claim => blockAddr claim.1 claim.2) := by
  change (refreshAll (registerPage regs) unmapped).ExtPal eng slot = _
  simp only [refreshAll,ExtPal_refreshBank,bankRegister_registerPage,filled]
  exact fold_provider regs (.bg eng slot) blockAddr blank_memory

theorem ObjExtPal_first (regs : Registers) (eng : Fin 2) :
    (mappingOf regs).ObjExtPal eng 0 =
      (provider regs (.obj eng 0)).elim blank_memory
        (fun claim => MMU_vram_physical (page_addr claim.1)) := by
  change (refreshAll (registerPage regs) unmapped).ObjExtPal eng 0 = _
  simp only [refreshAll,ObjExtPal_refreshBank,bankRegister_registerPage,objFilled,if_true]
  exact fold_provider regs (.obj eng 0)
    (fun bank _ => MMU_vram_physical (page_addr bank)) blank_memory

theorem ObjExtPal_second_le (regs : Registers) (eng : Fin 2) :
    blank_memory ≤ (mappingOf regs).ObjExtPal eng 1 := by
  have up (bank : VRAMBankID) (mem : IoMem) (map : Mapping)
      (low : blank_memory ≤ map.ObjExtPal eng 1) :
      blank_memory ≤ (MMU_VRAMmapRefreshBank bank mem map).ObjExtPal eng 1 := by
    rw [ObjExtPal_refreshBank]
    cases paletteBlock (bankRegister mem) bank (.obj eng 1) with
    | none => exact low
    | some block => exact Nat.le_add_right_of_le low
  change blank_memory ≤ (refreshAll (registerPage regs) unmapped).ObjExtPal eng 1
  unfold refreshAll
  iterate 9 apply up
  exact Nat.le_refl blank_memory

variable {regs : Registers} {bank : VRAMBankID} {block : Nat} {eng : Fin 2}

theorem paletteBlock_of_provider {slot : PaletteSlot}
    (provided : provider regs slot = some (bank, block)) :
    paletteBlock regs bank slot = some block := by
  obtain ⟨claimant,_member,claimed⟩ := List.exists_of_findSome?_eq_some provided
  obtain ⟨own,here,same⟩ := Option.map_eq_some_iff.mp claimed
  obtain ⟨rfl,rfl⟩ := Prod.mk.inj same
  exact here

theorem selectedBlock_of_some {slot : PaletteSlot}
    (claimed : paletteBlock regs bank slot = some block) :
    selectedBlock bank (regs bank) slot = some block := by
  unfold paletteBlock at claimed
  split at claimed
  · cases claimed
  · exact claimed

theorem ite_some {here : Prop} [Decidable here] {val : Nat}
    (claimed : (if here then some val else none) = some block) : here ∧ val = block := by
  by_cases taken : here
  · rw [if_pos taken] at claimed
    exact ⟨taken,Option.some.inj claimed⟩
  · rw [if_neg taken] at claimed
    cases claimed

theorem block_inside {cnt : u8} {slot : Fin 4}
    (claimed : selectedBlock bank cnt (.bg eng slot) = some block) :
    (block + 1) * ADDRESS_STEP_8KB ≤ num_pages bank * ADDRESS_STEP_16KB := by
  have small := slot.isLt
  have scaled (n : Nat) (low : block + 1 ≤ 2 * n) :
      (block + 1) * ADDRESS_STEP_8KB ≤ n * ADDRESS_STEP_16KB := by
    unfold ADDRESS_STEP_8KB ADDRESS_STEP_16KB
    omega
  cases bank with
  | VRAM_BANK_E =>
      obtain ⟨_selected,rfl⟩ := ite_some claimed
      exact scaled 4 (by omega)
  | VRAM_BANK_F =>
      obtain ⟨_selected,rfl⟩ := ite_some claimed
      exact scaled 1 (by omega)
  | VRAM_BANK_G =>
      obtain ⟨_selected,rfl⟩ := ite_some claimed
      exact scaled 1 (by omega)
  | VRAM_BANK_H =>
      obtain ⟨_selected,rfl⟩ := ite_some claimed
      exact scaled 2 (by omega)
  | _ => cases claimed

theorem block_succ {cnt : u8} {slot next : Fin 4}
    {later : Nat} (neighbour : next.val = slot.val + 1)
    (claimed : selectedBlock bank cnt (.bg eng slot) = some block)
    (claimedNext : selectedBlock bank cnt (.bg eng next) = some later) : later = block + 1 := by
  have halves {ofs : Nat} (same : slot.val / 2 = ofs) (sameNext : next.val / 2 = ofs) :
      next.val % 2 = slot.val % 2 + 1 := by omega
  cases bank with
  | VRAM_BANK_E =>
      obtain ⟨_selected,rfl⟩ := ite_some claimed
      obtain ⟨_selected,rfl⟩ := ite_some claimedNext
      exact neighbour
  | VRAM_BANK_F =>
      obtain ⟨selected,rfl⟩ := ite_some claimed
      obtain ⟨selectedNext,rfl⟩ := ite_some claimedNext
      exact halves selected.2 selectedNext.2
  | VRAM_BANK_G =>
      obtain ⟨selected,rfl⟩ := ite_some claimed
      obtain ⟨selectedNext,rfl⟩ := ite_some claimedNext
      exact halves selected.2 selectedNext.2
  | VRAM_BANK_H =>
      obtain ⟨_selected,rfl⟩ := ite_some claimed
      obtain ⟨_selected,rfl⟩ := ite_some claimedNext
      exact neighbour
  | _ => cases claimed

theorem objBlock_isSome {slot : Fin 2}
    (claimed : paletteBlock regs bank (.obj eng slot) = some block) :
    SelectsObjPalette bank (regs bank) := by
  have on : regs bank &&& 0x80 ≠ 0 := by
    intro off
    rw [paletteBlock,if_pos off] at claimed
    cases claimed
  have selected := selectedBlock_of_some claimed
  cases bank with
  | VRAM_BANK_F => exact ⟨on,(ite_some selected).1.2⟩
  | VRAM_BANK_G => exact ⟨on,(ite_some selected).1.2⟩
  | VRAM_BANK_I => exact ⟨on,(ite_some selected).1.2⟩
  | _ => cases selected

theorem objBlock_of_selects (selects : SelectsObjPalette bank (regs bank)) :
    ∃ eng, provider regs (.obj eng 0) ≠ none := by
  have claims (eng : Fin 2)
      (member : bank ∈ [VRAM_BANK_E,VRAM_BANK_F,VRAM_BANK_G,VRAM_BANK_H,VRAM_BANK_I])
      (on : regs bank &&& 0x80 ≠ 0)
      (selected : selectedBlock bank (regs bank) (.obj eng 0) = some 0) :
      ∃ eng, provider regs (.obj eng 0) ≠ none := by
    refine ⟨eng,fun absent => ?_⟩
    have claimed := List.findSome?_eq_none_iff.mp absent bank member
    rw [paletteBlock,if_neg on,selected] at claimed
    cases claimed
  cases bank with
  | VRAM_BANK_F => exact claims 0 (by decide) selects.1 (if_pos ⟨rfl,selects.2⟩)
  | VRAM_BANK_G => exact claims 0 (by decide) selects.1 (if_pos ⟨rfl,selects.2⟩)
  | VRAM_BANK_I => exact claims 1 (by decide) selects.1 (if_pos ⟨rfl,selects.2⟩)
  | _ => exact selects.elim

theorem no_provider (free : ∀ bank, ¬ SelectsObjPalette bank (regs bank))
    (eng slot : Fin 2) : provider regs (.obj eng slot) = none := by
  cases found : provider regs (.obj eng slot) with
  | none => rfl
  | some claim =>
      obtain ⟨bank,block⟩ := claim
      exact absurd (objBlock_isSome (paletteBlock_of_provider found)) (free bank)

theorem ObjExtPal_free (free : ∀ bank, ¬ SelectsObjPalette bank (regs bank)) (eng slot : Fin 2) :
    (mappingOf regs).ObjExtPal eng slot = blank_memory := by
  have kept (bank : VRAMBankID) : paletteBlock regs bank (.obj eng slot) = none := by
    cases found : paletteBlock regs bank (.obj eng slot) with
    | none => rfl
    | some block => exact absurd (objBlock_isSome found) (free bank)
  change (refreshAll (registerPage regs) unmapped).ObjExtPal eng slot = _
  simp only [refreshAll,ObjExtPal_refreshBank,bankRegister_registerPage,kept]
  rfl

theorem paletteSlots_of_free (free : ∀ bank, ¬ SelectsObjPalette bank (regs bank)) :
    PaletteSlots regs (mappingOf regs) where
  provided := by
    intro slot bank block provided
    cases slot with
    | bg eng slot =>
        have claimed := selectedBlock_of_some (paletteBlock_of_provider provided)
        refine ⟨?_,block_inside claimed⟩
        change (mappingOf regs).ExtPal eng slot = _
        rw [ExtPal_mappingOf,provided]
        rfl
    | obj eng slot =>
        rw [no_provider free] at provided
        cases provided
  bgConsecutive := by
    intro eng slot next neighbour bank block later provided providedNext
    have succ := block_succ neighbour
      (selectedBlock_of_some (paletteBlock_of_provider provided))
      (selectedBlock_of_some (paletteBlock_of_provider providedNext))
    rw [ExtPal_mappingOf,ExtPal_mappingOf,provided,providedNext,succ]
    simp only [Option.elim_some,blockAddr,Nat.add_mul,Nat.one_mul,Nat.add_assoc]
  objConsecutive := by
    intro eng inside
    rw [ObjExtPal_free free] at inside
    exact absurd inside (Nat.lt_irrefl _)
  blank := by
    intro slot absent
    cases slot with
    | bg eng slot =>
        change (mappingOf regs).ExtPal eng slot = _
        rw [ExtPal_mappingOf,absent]
        rfl
    | obj eng slot => exact ObjExtPal_free free eng slot

theorem paletteSlots_mappingOf (regs : Registers) :
    PaletteSlots regs (mappingOf regs) ↔ ∀ bank, ¬ SelectsObjPalette bank (regs bank) := by
  constructor
  · intro slots bank selects
    obtain ⟨eng,present⟩ := objBlock_of_selects selects
    obtain ⟨claim,provided⟩ := Option.ne_none_iff_exists'.mp present
    have first : (mappingOf regs).ObjExtPal eng 0 =
        MMU_vram_physical (page_addr claim.1) := by
      rw [ObjExtPal_first,provided]
      rfl
    have behind : MMU_vram_physical (page_addr claim.1) + ADDRESS_STEP_8KB < ARM9_LCD_size := by
      cases claim.1 <;> decide
    have second := slots.objConsecutive eng (by omega)
    have low : ARM9_LCD_size ≤ (mappingOf regs).ObjExtPal eng 1 :=
      ObjExtPal_second_le regs eng
    omega
  · exact paletteSlots_of_free

/-- The call of `MMU_VRAMmapControl` selects no extended palette for sprites. -/
def keepsObjPalettes : Call → Prop
  | .control block cnt => ∀ bank, registerBlock bank = block → ¬ SelectsObjPalette bank cnt
  | _ => True

def ConsecutiveSlots (vram : VramState) : Prop :=
  PaletteSlots (bankRegister vram.arm9Reg) vram.mapping

theorem consecutiveSlots_iff {vram : VramState} (sound : UpToDate vram) :
    ConsecutiveSlots vram ↔ ∀ bank, ¬ SelectsObjPalette bank (bankRegister vram.arm9Reg bank) := by
  unfold ConsecutiveSlots
  rw [sound,paletteSlots_mappingOf]

theorem consecutiveSlots_step (vram : VramState) (call : Call) (sound : UpToDate vram)
    (kept : harmless vram call) (slots : ConsecutiveSlots vram) :
    ConsecutiveSlots (step vram call) ↔ keepsObjPalettes call := by
  have before := (consecutiveSlots_iff sound).mp slots
  rw [consecutiveSlots_iff (upToDate_step vram call sound kept)]
  cases call with
  | control block cnt =>
      constructor
      · intro after bank here
        have written := after bank
        rw [step,bankRegister_control,if_pos here] at written
        exact written
      · intro keeps bank
        rw [step,bankRegister_control]
        by_cases here : registerBlock bank = block
        · rw [if_pos here]
          exact keeps bank here
        · rw [if_neg here]
          exact before bank
  | storeByte addr val =>
      rw [show bankRegister _ = _ from kept]
      exact iff_of_true before trivial
  | storeWord addr val =>
      rw [show bankRegister _ = _ from kept]
      exact iff_of_true before trivial
  | storeLong addr val =>
      rw [show bankRegister _ = _ from kept]
      exact iff_of_true before trivial

/-- Over every run of writes to the bank registers the slots of the extended
palettes stay consecutive exactly when no write maps F, G or I as a palette for
sprites: there the second slot is computed from its own old value. -/
theorem palette_slots_iff (before : VramState) (writes : List BusWrite) :
    Run.Always step ConsecutiveSlots (MMU_Reset before) (writes.flatMap BusWrite.calls) ↔
      ∀ write ∈ writes, ∀ call ∈ write.calls, keepsObjPalettes call := by
  have sound := upToDate_MMU_Reset before
  have initial : ConsecutiveSlots (MMU_Reset before) := by
    rw [consecutiveSlots_iff sound]
    intro bank
    cases bank <;> simp [SelectsObjPalette,bankRegister,MMU_Reset]
  have within := Run.guarded_flatMap BusWrite.calls harmless_calls (MMU_Reset before) writes
  rw [Run.always_iff_guarded_within upToDate_step consecutiveSlots_step sound initial within,
    Run.guarded_iff_forall]
  simp only [List.mem_flatMap,forall_exists_index,and_imp]
  exact ⟨fun all write member call inside => all call write member inside,
    fun all call write member inside => all write member call inside⟩

/-- Mapping F for sprites: the second slot is 8 KB behind the blank memory. -/
theorem second_slot_not_in_bank :
    ¬ ∀ (before : VramState) (writes : List BusWrite),
      Run.Always step ConsecutiveSlots (MMU_Reset before) (writes.flatMap BusWrite.calls) := by
  intro all
  let start : VramState := { arm9Reg := fun _ => 0, WRAMCNT := 0, mapping := unmapped }
  have slots := (all start [.write08 5 0x85]).last
  have second := slots.objConsecutive 0 (by decide)
  exact absurd second (by decide)

end Desmume.Vram
