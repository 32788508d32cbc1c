/-
Which bank a page of VRAM belongs to.

A bank is seen in a region of the ARM9 when it is enabled and its MST field
selects that region.
-/

import Desmume.Vram.Mapping

namespace Desmume.Vram

open VRAMBankID

def mst : VRAMBankID → u8 → Nat
  | VRAM_BANK_A, cnt | VRAM_BANK_B, cnt | VRAM_BANK_H, cnt | VRAM_BANK_I, cnt =>
      (cnt &&& 3).toNat
  | _, cnt => (cnt &&& 7).toNat

variable (cnt : u8)

def enabled : Prop := cnt &&& 0x80 ≠ 0

def placementsAB : List (Region × Nat) :=
  match (cnt &&& 3).toNat with
  | 1 => [(.abg, bankOfs cnt * 8)]
  | 2 => if (bankOfs cnt).val ≤ 1 then [(.aobj, bankOfs cnt * 8)] else []
  | _ => []

def placementsCD (second : Region) (cnt : u8) : List (Region × Nat) :=
  match (cnt &&& 7).toNat with
  | 1 => [(.abg, bankOfs cnt * 8)]
  | 4 => [(second, 0)]
  | _ => []

def placementsE : List (Region × Nat) :=
  match (cnt &&& 7).toNat with
  | 1 => [(.abg, 0)]
  | 2 => [(.aobj, 0)]
  | _ => []

def placementsFG : List (Region × Nat) :=
  let first := (pageofslut (bankOfs cnt)).val
  match (cnt &&& 7).toNat with
  | 1 => [(.abg, first),(.abg, first + 2)]
  | 2 => [(.aobj, first),(.aobj, first + 2)]
  | _ => []

def placementsH : List (Region × Nat) :=
  match (cnt &&& 3).toNat with
  | 1 => [(.bbg, 0),(.bbg, 4)]
  | _ => []

def placementsI : List (Region × Nat) :=
  match (cnt &&& 3).toNat with
  | 1 => [(.bbg, 2),(.bbg, 3)]
  | 2 => [(.bobj, 0),(.bobj, 1)]
  | _ => []

def placements : VRAMBankID → u8 → List (Region × Nat)
  | VRAM_BANK_A => placementsAB
  | VRAM_BANK_B => placementsAB
  | VRAM_BANK_C => placementsCD .bbg
  | VRAM_BANK_D => placementsCD .bobj
  | VRAM_BANK_E => placementsE
  | VRAM_BANK_F => placementsFG
  | VRAM_BANK_G => placementsFG
  | VRAM_BANK_H => placementsH
  | VRAM_BANK_I => placementsI

/-- A placed bank lies inside the mappable area of its region. -/
theorem placement_inside {bank : VRAMBankID} {cnt : u8} {region : Region} {first : Nat}
    (member : (region, first) ∈ placements bank cnt) : first + num_pages bank ≤ region.size := by
  have ofs := (bankOfs cnt).isLt
  have pageofs := (pageofslut (bankOfs cnt)).isLt
  have ab : (region, first) ∈ placementsAB cnt → first + 8 ≤ region.size := by
    intro member
    simp only [placementsAB] at member
    split at member
    next =>
      obtain ⟨rfl,rfl⟩ := Prod.mk.inj (List.mem_singleton.mp member)
      change _ ≤ 32
      omega
    next =>
      split at member
      next low =>
        obtain ⟨rfl,rfl⟩ := Prod.mk.inj (List.mem_singleton.mp member)
        change _ ≤ 16
        omega
      next => cases member
    next => cases member
  have cd (second : Region) : (region, first) ∈ placementsCD second cnt →
      first + 8 ≤ region.size := by
    intro member
    simp only [placementsCD] at member
    split at member
    next =>
      obtain ⟨rfl,rfl⟩ := Prod.mk.inj (List.mem_singleton.mp member)
      change _ ≤ 32
      omega
    next =>
      obtain ⟨rfl,rfl⟩ := Prod.mk.inj (List.mem_singleton.mp member)
      exact region.size_le.1
    next => cases member
  have fg : (region, first) ∈ placementsFG cnt → first + 1 ≤ region.size := by
    intro member
    have small := region.size_le
    simp only [placementsFG] at member
    split at member
    · rcases List.mem_pair.mp member with same | same
      · obtain ⟨rfl,rfl⟩ := Prod.mk.inj same
        omega
      · obtain ⟨rfl,rfl⟩ := Prod.mk.inj same
        omega
    · rcases List.mem_pair.mp member with same | same
      · obtain ⟨rfl,rfl⟩ := Prod.mk.inj same
        omega
      · obtain ⟨rfl,rfl⟩ := Prod.mk.inj same
        omega
    · cases member
  cases bank with
  | VRAM_BANK_A => exact ab member
  | VRAM_BANK_B => exact ab member
  | VRAM_BANK_C => exact cd .bbg member
  | VRAM_BANK_D => exact cd .bobj member
  | VRAM_BANK_E =>
      simp only [placements,placementsE] at member
      split at member
      next =>
        obtain ⟨rfl,rfl⟩ := Prod.mk.inj (List.mem_singleton.mp member)
        decide
      next =>
        obtain ⟨rfl,rfl⟩ := Prod.mk.inj (List.mem_singleton.mp member)
        decide
      next => cases member
  | VRAM_BANK_F => exact fg member
  | VRAM_BANK_G => exact fg member
  | VRAM_BANK_H =>
      simp only [placements,placementsH] at member
      split at member
      · rcases List.mem_pair.mp member with same | same
        · obtain ⟨rfl,rfl⟩ := Prod.mk.inj same
          decide
        · obtain ⟨rfl,rfl⟩ := Prod.mk.inj same
          decide
      · cases member
  | VRAM_BANK_I =>
      simp only [placements,placementsI] at member
      split at member
      · rcases List.mem_pair.mp member with same | same
        · obtain ⟨rfl,rfl⟩ := Prod.mk.inj same
          decide
        · obtain ⟨rfl,rfl⟩ := Prod.mk.inj same
          decide
      · rcases List.mem_pair.mp member with same | same
        · obtain ⟨rfl,rfl⟩ := Prod.mk.inj same
          decide
        · obtain ⟨rfl,rfl⟩ := Prod.mk.inj same
          decide
      · cases member

theorem placement_low {bank : VRAMBankID} {cnt : u8} {region : Region} {first : Nat}
    (member : (region, first) ∈ placements bank cnt) : region.type + first ≤ 504 := by
  have inside := placement_inside member
  have low := region.type_le
  have small := region.size_le
  omega

abbrev Registers := VRAMBankID → u8

def OwnedPage (regs : Registers) (region : Region) (off : Nat) (page : u8) : Prop :=
  ∃ bank, enabled (regs bank) ∧ ∃ first, (region, first) ∈ placements bank (regs bank) ∧
    ∃ i < num_pages bank, off = first + i ∧ page.toNat = page_addr bank + i

def OwnedLcdc (regs : Registers) (off : Nat) (page : u8) : Prop :=
  ∃ bank, enabled (regs bank) ∧ mst bank (regs bank) = 0 ∧
    ∃ i < num_pages bank, off = page_addr bank + i ∧ page.toNat = off

def OwnedArm7 (regs : Registers) (page : u8) : Prop :=
  ∃ bank, (bank = VRAM_BANK_C ∨ bank = VRAM_BANK_D) ∧ enabled (regs bank) ∧
    mst bank (regs bank) = 2 ∧ page.toNat = page_addr bank

/-- The three page tables before the mirrors are filled in. -/
structure Placed (regs : Registers) (map : Mapping) : Prop where
  arm9 : ∀ pos, map.vram_arm9_map pos = VRAM_PAGE_UNMAPPED ∨
    ∃ region off, pos.val = region.type + off ∧
      OwnedPage regs region off (map.vram_arm9_map pos)
  lcdc : ∀ pos, map.vram_lcdc_map pos = VRAM_PAGE_UNMAPPED ∨
    OwnedLcdc regs pos.val (map.vram_lcdc_map pos)
  arm7 : ∀ pos, map.vram_arm7_map pos = VRAM_PAGE_UNMAPPED ∨
    OwnedArm7 regs (map.vram_arm7_map pos)

variable {regs : Registers} {map : Mapping}

theorem toNat_page (bank : VRAMBankID) (i : Nat) (inside : i < num_pages bank) :
    (BitVec.ofNat 8 (page_addr bank + i)).toNat = page_addr bank + i := by
  have last := last_page bank
  unfold VRAM_LCDC_PAGES at last
  rw [BitVec.toNat_ofNat]
  omega

theorem Placed.of_tables (placed : Placed regs map) {other : Mapping}
    (arm9 : other.vram_arm9_map = map.vram_arm9_map)
    (lcdc : other.vram_lcdc_map = map.vram_lcdc_map)
    (arm7 : other.vram_arm7_map = map.vram_arm7_map) : Placed regs other := by
  constructor
  · rw [arm9]
    exact placed.arm9
  · rw [lcdc]
    exact placed.lcdc
  · rw [arm7]
    exact placed.arm7

theorem Placed.MMU_vram_arm9 (placed : Placed regs map) {bank : VRAMBankID}
    (on : enabled (regs bank)) {region : Region} {first : Nat}
    (member : (region, first) ∈ placements bank (regs bank)) :
    Placed regs (map.MMU_vram_arm9 bank (region.type + first) (placement_low member)) := by
  have low := placement_low member
  constructor
  · intro pos
    by_cases inside : region.type + first ≤ pos.val ∧
        pos.val < region.type + first + num_pages bank
    · obtain ⟨i,located⟩ := Nat.exists_eq_add_of_le inside.1
      have bound : i < num_pages bank := by omega
      have at_ : pos = Table.slot (region.type + first) (num_pages bank)
          (Mapping.arm9_inside bank low) ⟨i,bound⟩ := Fin.ext located
      have stored : (map.MMU_vram_arm9 bank (region.type + first) low).vram_arm9_map
          pos =
          BitVec.ofNat 8 (page_addr bank + i) := by
        rw [at_]
        exact Table.storeAll_slots_inside _ _ _ _ _ ⟨i,bound⟩
      rw [stored]
      right
      refine ⟨region,first + i,by omega,bank,on,first,member,i,bound,rfl,?_⟩
      exact toNat_page bank i bound
    · have kept : (map.MMU_vram_arm9 bank (region.type + first) low).vram_arm9_map pos =
          map.vram_arm9_map pos :=
        Table.storeAll_slots_outside _ _ _ _ _ pos (by omega)
      rw [kept]
      exact placed.arm9 pos
  · exact placed.lcdc
  · exact placed.arm7

theorem Placed.MMU_vram_lcdc (placed : Placed regs map) {bank : VRAMBankID}
    (on : enabled (regs bank)) (selected : mst bank (regs bank) = 0) :
    Placed regs (map.MMU_vram_lcdc bank) := by
  constructor
  · exact placed.arm9
  · intro pos
    by_cases inside : page_addr bank ≤ pos.val ∧
        pos.val < page_addr bank + num_pages bank
    · obtain ⟨i,located⟩ := Nat.exists_eq_add_of_le inside.1
      have bound : i < num_pages bank := by omega
      have at_ : pos = Table.slot (page_addr bank) (num_pages bank) (last_page bank)
          ⟨i,bound⟩ := Fin.ext located
      have stored : (map.MMU_vram_lcdc bank).vram_lcdc_map pos =
          BitVec.ofNat 8 (page_addr bank + i) := by
        rw [at_]
        exact Table.storeAll_slots_inside _ _ _ _ _ ⟨i,bound⟩
      rw [stored]
      right
      refine ⟨bank,on,selected,i,bound,located,?_⟩
      rw [toNat_page bank i bound,located]
    · have kept : (map.MMU_vram_lcdc bank).vram_lcdc_map pos =
          map.vram_lcdc_map pos :=
        Table.storeAll_slots_outside _ _ _ _ _ pos (by omega)
      rw [kept]
      exact placed.lcdc pos
  · exact placed.arm7

theorem Placed.setArm7 (placed : Placed regs map) {bank : VRAMBankID}
    (wired : bank = VRAM_BANK_C ∨ bank = VRAM_BANK_D) (on : enabled (regs bank))
    (selected : mst bank (regs bank) = 2) (ofs : Fin 2) : Placed regs (map.setArm7 ofs bank) := by
  constructor
  · exact placed.arm9
  · exact placed.lcdc
  · intro pos
    by_cases here : pos = ofs
    · have stored : (map.setArm7 ofs bank).vram_arm7_map pos =
          BitVec.ofNat 8 (page_addr bank) := by
        rw [here]
        exact Function.update_self _ _ _
      have pages : 0 < num_pages bank := by
        rcases wired with rfl | rfl <;> decide
      rw [stored]
      exact Or.inr ⟨bank,wired,on,selected,toNat_page bank 0 pages⟩
    · have kept : (map.setArm7 ofs bank).vram_arm7_map pos =
          map.vram_arm7_map pos := Function.update_of_ne here _ _
      rw [kept]
      exact placed.arm7 pos

section

variable (placed : Placed regs map) {bank : VRAMBankID} (on : enabled (regs bank))

include placed on

theorem placed_refreshAB (table : placements bank = placementsAB)
    (field : mst bank = fun cnt => (cnt &&& 3).toNat) :
    Placed regs (refreshAB bank (regs bank) map) := by
  have bits : mst bank (regs bank) = (regs bank &&& 3).toNat := by rw [field]
  simp only [refreshAB]
  split
  next zero => exact (placed.MMU_vram_lcdc on (bits.trans zero)).of_tables rfl rfl rfl
  next one =>
    have member : (Region.abg, (bankOfs (regs bank)).val * 8) ∈ placements bank (regs bank) := by
      simp only [table,placementsAB,one,List.mem_cons,true_or]
    exact (placed.MMU_vram_arm9 on member).of_tables rfl rfl rfl
  next two =>
    split
    next low =>
      have member : (Region.aobj, (bankOfs (regs bank)).val * 8) ∈
          placements bank (regs bank) := by
        simp only [table,placementsAB,two,if_pos low,List.mem_singleton]
      exact (placed.MMU_vram_arm9 on member).of_tables rfl rfl rfl
    next => exact placed.of_tables rfl rfl rfl
  next => exact placed.of_tables rfl rfl rfl
  next => exact placed.of_tables rfl rfl rfl

theorem placed_refreshCD {second : Region} (table : placements bank = placementsCD second)
    (field : mst bank = fun cnt => (cnt &&& 7).toNat)
    (wired : (bank = VRAM_BANK_C ∧ second = .bbg) ∨ (bank = VRAM_BANK_D ∧ second = .bobj)) :
    Placed regs (refreshCD bank (regs bank) map) := by
  have bits : mst bank (regs bank) = (regs bank &&& 7).toNat := by rw [field]
  simp only [refreshCD]
  split
  next zero => exact (placed.MMU_vram_lcdc on (bits.trans zero)).of_tables rfl rfl rfl
  next one =>
    have member : (Region.abg, (bankOfs (regs bank)).val * 8) ∈ placements bank (regs bank) := by
      simp only [table,placementsCD,one,List.mem_cons,true_or]
    exact (placed.MMU_vram_arm9 on member).of_tables rfl rfl rfl
  next two =>
    have cOrD : bank = VRAM_BANK_C ∨ bank = VRAM_BANK_D := wired.imp And.left And.left
    split
    next supported =>
      have mapped := placed.setArm7 cOrD on (bits.trans two) ⟨_,supported⟩
      rcases cOrD with rfl | rfl
      · exact mapped.of_tables rfl rfl rfl
      · exact mapped.of_tables rfl rfl rfl
    next =>
      rcases cOrD with rfl | rfl
      · exact placed.of_tables rfl rfl rfl
      · exact placed.of_tables rfl rfl rfl
  next => exact placed.of_tables rfl rfl rfl
  next four =>
    have member : (second, 0) ∈ placements bank (regs bank) := by
      simp only [table,placementsCD,four,List.mem_cons,true_or]
    rcases wired with ⟨rfl,rfl⟩ | ⟨rfl,rfl⟩
    · rw [if_pos rfl]
      exact (placed.MMU_vram_arm9 on member).of_tables rfl rfl rfl
    · rw [if_neg (by decide)]
      exact (placed.MMU_vram_arm9 on member).of_tables rfl rfl rfl
  next => exact placed.of_tables rfl rfl rfl

theorem placed_refreshE (table : placements bank = placementsE)
    (field : mst bank = fun cnt => (cnt &&& 7).toNat) :
    Placed regs (refreshE bank (regs bank) map) := by
  have bits : mst bank (regs bank) = (regs bank &&& 7).toNat := by rw [field]
  simp only [refreshE]
  split
  next zero => exact (placed.MMU_vram_lcdc on (bits.trans zero)).of_tables rfl rfl rfl
  next one =>
    have member : (Region.abg, 0) ∈ placements bank (regs bank) := by
      simp only [table,placementsE,one,List.mem_cons,true_or]
    exact (placed.MMU_vram_arm9 on member).of_tables rfl rfl rfl
  next two =>
    have member : (Region.aobj, 0) ∈ placements bank (regs bank) := by
      simp only [table,placementsE,two,List.mem_cons,true_or]
    exact (placed.MMU_vram_arm9 on member).of_tables rfl rfl rfl
  next => exact placed.of_tables rfl rfl rfl
  next => exact placed.of_tables rfl rfl rfl
  next => exact placed.of_tables rfl rfl rfl

theorem placed_refreshFG (table : placements bank = placementsFG)
    (field : mst bank = fun cnt => (cnt &&& 7).toNat) :
    Placed regs (refreshFG bank (regs bank) map) := by
  have bits : mst bank (regs bank) = (regs bank &&& 7).toNat := by rw [field]
  simp only [refreshFG]
  split
  next zero => exact (placed.MMU_vram_lcdc on (bits.trans zero)).of_tables rfl rfl rfl
  next one =>
    have member : (Region.abg, (pageofslut (bankOfs (regs bank))).val) ∈
        placements bank (regs bank) := by
      simp only [table,placementsFG,one,List.mem_cons,true_or]
    have mirror : (Region.abg, (pageofslut (bankOfs (regs bank))).val + 2) ∈
        placements bank (regs bank) := by
      simp only [table,placementsFG,one,List.mem_cons,true_or,or_true]
    exact ((placed.MMU_vram_arm9 on member).MMU_vram_arm9 on mirror).of_tables
      rfl rfl rfl
  next two =>
    have member : (Region.aobj, (pageofslut (bankOfs (regs bank))).val) ∈
        placements bank (regs bank) := by
      simp only [table,placementsFG,two,List.mem_cons,true_or]
    have mirror : (Region.aobj, (pageofslut (bankOfs (regs bank))).val + 2) ∈
        placements bank (regs bank) := by
      simp only [table,placementsFG,two,List.mem_cons,true_or,or_true]
    exact ((placed.MMU_vram_arm9 on member).MMU_vram_arm9 on mirror).of_tables
      rfl rfl rfl
  next => exact placed.of_tables rfl rfl rfl
  next =>
    split
    · exact placed.of_tables rfl rfl rfl
    · exact placed.of_tables rfl rfl rfl
  next => exact placed.of_tables rfl rfl rfl
  next => exact placed.of_tables rfl rfl rfl

theorem placed_refreshH (table : placements bank = placementsH)
    (field : mst bank = fun cnt => (cnt &&& 3).toNat) :
    Placed regs (refreshH bank (regs bank) map) := by
  have bits : mst bank (regs bank) = (regs bank &&& 3).toNat := by rw [field]
  simp only [refreshH]
  split
  next zero => exact (placed.MMU_vram_lcdc on (bits.trans zero)).of_tables rfl rfl rfl
  next one =>
    have member : (Region.bbg, 0) ∈ placements bank (regs bank) := by
      simp only [table,placementsH,one,List.mem_cons,true_or]
    have mirror : (Region.bbg, 4) ∈ placements bank (regs bank) := by
      simp only [table,placementsH,one,List.mem_cons,true_or,or_true]
    exact ((placed.MMU_vram_arm9 on member).MMU_vram_arm9 on mirror).of_tables rfl rfl rfl
  next => exact placed.of_tables rfl rfl rfl
  next => exact placed.of_tables rfl rfl rfl

theorem placed_refreshI (table : placements bank = placementsI)
    (field : mst bank = fun cnt => (cnt &&& 3).toNat) :
    Placed regs (refreshI bank (regs bank) map) := by
  have bits : mst bank (regs bank) = (regs bank &&& 3).toNat := by rw [field]
  simp only [refreshI]
  split
  next zero => exact (placed.MMU_vram_lcdc on (bits.trans zero)).of_tables rfl rfl rfl
  next one =>
    have member : (Region.bbg, 2) ∈ placements bank (regs bank) := by
      simp only [table,placementsI,one,List.mem_cons,true_or]
    have mirror : (Region.bbg, 3) ∈ placements bank (regs bank) := by
      simp only [table,placementsI,one,List.mem_cons,true_or,or_true]
    exact ((placed.MMU_vram_arm9 on member).MMU_vram_arm9 on mirror).of_tables rfl rfl rfl
  next two =>
    have member : (Region.bobj, 0) ∈ placements bank (regs bank) := by
      simp only [table,placementsI,two,List.mem_cons,true_or]
    have mirror : (Region.bobj, 1) ∈ placements bank (regs bank) := by
      simp only [table,placementsI,two,List.mem_cons,true_or,or_true]
    exact ((placed.MMU_vram_arm9 on member).MMU_vram_arm9 on mirror).of_tables rfl rfl rfl
  next => exact placed.of_tables rfl rfl rfl
  next => exact placed.of_tables rfl rfl rfl

end

theorem placed_refreshEnabled (placed : Placed regs map) (bank : VRAMBankID)
    (on : enabled (regs bank)) : Placed regs (refreshEnabled bank (regs bank) map) := by
  cases bank with
  | VRAM_BANK_A => exact placed_refreshAB placed on rfl rfl
  | VRAM_BANK_B => exact placed_refreshAB placed on rfl rfl
  | VRAM_BANK_C => exact placed_refreshCD placed on rfl rfl (Or.inl ⟨rfl,rfl⟩)
  | VRAM_BANK_D => exact placed_refreshCD placed on rfl rfl (Or.inr ⟨rfl,rfl⟩)
  | VRAM_BANK_E => exact placed_refreshE placed on rfl rfl
  | VRAM_BANK_F => exact placed_refreshFG placed on rfl rfl
  | VRAM_BANK_G => exact placed_refreshFG placed on rfl rfl
  | VRAM_BANK_H => exact placed_refreshH placed on rfl rfl
  | VRAM_BANK_I => exact placed_refreshI placed on rfl rfl

theorem placed_refreshBank {mem : IoMem} (placed : Placed (bankRegister mem) map)
    (bank : VRAMBankID) : Placed (bankRegister mem) (MMU_VRAMmapRefreshBank bank mem map) := by
  simp only [MMU_VRAMmapRefreshBank]
  split
  next => exact placed
  next on => exact placed_refreshEnabled placed bank on

theorem placed_unmap_all (regs : Registers) (map : Mapping) :
    Placed regs (MMU_VRAM_unmap_all map) :=
  ⟨fun _ => Or.inl rfl, fun _ => Or.inl rfl, fun _ => Or.inl rfl⟩

theorem placed_refreshAll {mem : IoMem} (placed : Placed (bankRegister mem) map) :
    Placed (bankRegister mem) (refreshAll mem map) := by
  have first := placed_refreshBank placed VRAM_BANK_I
  have second := placed_refreshBank first VRAM_BANK_H
  have third := placed_refreshBank second VRAM_BANK_G
  have fourth := placed_refreshBank third VRAM_BANK_F
  have fifth := placed_refreshBank fourth VRAM_BANK_E
  have sixth := placed_refreshBank fifth VRAM_BANK_A
  have seventh := placed_refreshBank sixth VRAM_BANK_B
  have eighth := placed_refreshBank seventh VRAM_BANK_C
  exact placed_refreshBank eighth VRAM_BANK_D

end Desmume.Vram
