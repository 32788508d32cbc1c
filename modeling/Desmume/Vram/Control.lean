/-
Runs of writes to the bank registers.

`MMU_VRAMmapControl` unmaps everything before it maps the banks again, so what
it leaves is a function of the nine registers.
-/

import Desmume.Vram.Address

namespace Desmume.Vram

open VRAMBankID

variable (regs : Registers)

def registerPage : IoMem
  | 0x240 => regs VRAM_BANK_A
  | 0x241 => regs VRAM_BANK_B
  | 0x242 => regs VRAM_BANK_C
  | 0x243 => regs VRAM_BANK_D
  | 0x244 => regs VRAM_BANK_E
  | 0x245 => regs VRAM_BANK_F
  | 0x246 => regs VRAM_BANK_G
  | 0x248 => regs VRAM_BANK_H
  | 0x249 => regs VRAM_BANK_I
  | _ => 0

theorem bankRegister_registerPage : bankRegister (registerPage regs) = regs := by
  funext bank
  cases bank <;> rfl

def unmapped : Mapping where
  banks := fun _ => { purpose := .OFF, ofs := 0 }
  vram_lcdc_map := fun _ => VRAM_PAGE_UNMAPPED
  vram_arm9_map := fun _ => VRAM_PAGE_UNMAPPED
  vram_arm7_map := fun _ => VRAM_PAGE_UNMAPPED
  ExtPal := fun _ _ => blank_memory
  ObjExtPal := fun _ _ => blank_memory
  texPalSlot := fun _ => blank_memory
  textureSlotAddr := fun _ => blank_memory
  VRAMSTAT := 0

def mappingOf : Mapping :=
  mirrorAll (refreshAll (registerPage regs) unmapped)

theorem refreshBank_congr (bank : VRAMBankID) {mem other : IoMem}
    (same : bankRegister mem = bankRegister other) :
    MMU_VRAMmapRefreshBank bank mem = MMU_VRAMmapRefreshBank bank other := by
  funext map
  unfold MMU_VRAMmapRefreshBank
  rw [same]

theorem refreshAll_congr {mem other : IoMem} (same : bankRegister mem = bankRegister other) :
    refreshAll mem = refreshAll other := by
  funext map
  simp only [refreshAll,refreshBank_congr _ same]

variable (vram : VramState)

variable (mem : IoMem) (block : Nat) (val : u32)

theorem mapping_control (cnt : u8) (bank : block ≠ 7) :
    (MMU_VRAMmapControl vram block cnt).mapping =
      mappingOf (bankRegister (MMU_VRAMmapControl vram block cnt).arm9Reg) := by
  have recomputed : (MMU_VRAMmapControl vram block cnt).mapping =
      mirrorAll (refreshAll (MMU_VRAMmapControl vram block cnt).arm9Reg unmapped) := by
    unfold MMU_VRAMmapControl
    rw [if_neg bank]
    rfl
  rw [recomputed,mappingOf,refreshAll_congr (bankRegister_registerPage _).symm]

theorem owned_mappingOf (regs : Registers) : Owned regs (mappingOf regs) := by
  have placed : Placed (bankRegister (registerPage regs)) unmapped :=
    placed_unmap_all _ unmapped
  have all := (placed_refreshAll placed).owned
  rw [bankRegister_registerPage] at all
  exact all

theorem registerBlock_ne_seven (bank : VRAMBankID) : registerBlock bank ≠ 7 := by
  cases bank <;> decide

theorem bankRegister_T1WriteByte (val : u8) (bank : VRAMBankID) :
    bankRegister (T1WriteByte mem (0x240 + block) val) bank =
      if registerBlock bank = block then val else bankRegister mem bank := by
  unfold bankRegister T1WriteByte
  by_cases here : registerBlock bank = block
  · rw [here,Function.update_self,if_pos rfl]
  · rw [Function.update_of_ne (by omega),if_neg here]

theorem bankRegister_control (cnt : u8) (bank : VRAMBankID) :
    bankRegister (MMU_VRAMmapControl vram block cnt).arm9Reg bank =
      if registerBlock bank = block then cnt else bankRegister vram.arm9Reg bank := by
  by_cases wram : block = 7
  · have other : registerBlock bank ≠ block := by
      rw [wram]
      exact registerBlock_ne_seven bank
    unfold MMU_VRAMmapControl
    rw [if_pos wram,if_neg other]
  · have written : (MMU_VRAMmapControl vram block cnt).arm9Reg =
        T1WriteByte vram.arm9Reg (0x240 + block) cnt := by
      unfold MMU_VRAMmapControl
      rw [if_neg wram]
    rw [written,bankRegister_T1WriteByte]

theorem bankRegister_T1WriteWord (val : u16) (bank : VRAMBankID) :
    bankRegister (T1WriteWord mem (0x240 + block) val) bank =
      if registerBlock bank = block then (val &&& 0xFF).setWidth 8
      else if registerBlock bank = block + 1 then (val >>> 8).setWidth 8
      else bankRegister mem bank := by
  have bytes : T1WriteWord mem (0x240 + block) val =
      T1WriteByte (T1WriteByte mem (0x240 + (block + 1)) ((val >>> 8).setWidth 8))
        (0x240 + block) ((val &&& 0xFF).setWidth 8) := rfl
  rw [bytes,bankRegister_T1WriteByte,bankRegister_T1WriteByte]

def harmless (vram : VramState) : Call → Prop
  | .control _ _ => True
  | call => bankRegister (step vram call).arm9Reg = bankRegister vram.arm9Reg

theorem low_byte : ((val.setWidth 16) &&& 0xFF).setWidth 8 = (val &&& 0xFF).setWidth 8 := by
  apply BitVec.eq_of_getLsbD_eq
  intro i bound
  interval_cases i <;> simp

theorem second_byte : ((val.setWidth 16) >>> 8).setWidth 8 = ((val >>> 8) &&& 0xFF).setWidth 8 := by
  apply BitVec.eq_of_getLsbD_eq
  intro i bound
  interval_cases i <;> simp

theorem bankRegister_T1WriteLong (bank : VRAMBankID) :
    bankRegister (T1WriteLong mem (0x240 + block) val) bank =
      if registerBlock bank = block + 2 then ((val >>> 16) &&& 0xFF).setWidth 8
      else if registerBlock bank = block + 3 then ((val >>> 24) &&& 0xFF).setWidth 8
      else if registerBlock bank = block then (val &&& 0xFF).setWidth 8
      else if registerBlock bank = block + 1 then ((val >>> 8) &&& 0xFF).setWidth 8
      else bankRegister mem bank := by
  have words : T1WriteLong mem (0x240 + block) val =
      T1WriteWord (T1WriteWord mem (0x240 + block) (val.setWidth 16)) (0x240 + (block + 2))
        ((val >>> 16).setWidth 16) := rfl
  have shifted : val >>> 16 >>> 8 = val >>> 24 := (BitVec.shiftRight_add val 16 8).symm
  rw [words,bankRegister_T1WriteWord,bankRegister_T1WriteWord,low_byte val,
    low_byte (val >>> 16),second_byte val,second_byte (val >>> 16),shifted]

theorem harmless_calls (write : BusWrite) (vram : VramState) :
    Run.Guarded step harmless vram write.calls := by
  cases write with
  | write08 block val =>
      refine ⟨trivial,?_,trivial⟩
      funext bank
      simp only [step,bankRegister_T1WriteByte,bankRegister_control]
      split_ifs <;> rfl
  | write16 block val =>
      refine ⟨trivial,trivial,?_,trivial⟩
      funext bank
      simp only [step,bankRegister_T1WriteWord,bankRegister_control]
      split_ifs <;> first | rfl | omega
  | write32 block val =>
      by_cases whole : block.val < 2
      · rw [BusWrite.calls,if_pos whole]
        refine ⟨trivial,trivial,trivial,trivial,?_,trivial⟩
        funext bank
        simp only [step,bankRegister_T1WriteLong,bankRegister_control]
        split_ifs <;> first | rfl | omega
      · rw [BusWrite.calls,if_neg whole]
        refine ⟨trivial,trivial,?_,trivial⟩
        have most (bank : VRAMBankID) : registerBlock bank ≤ 9 := by cases bank <;> decide
        funext bank
        have bound := most bank
        simp only [step,bankRegister_T1WriteLong,bankRegister_control]
        split_ifs <;> first | rfl | omega

def UpToDate (vram : VramState) : Prop :=
  vram.mapping = mappingOf (bankRegister vram.arm9Reg)

theorem upToDate_step (call : Call) (sound : UpToDate vram)
    (kept : harmless vram call) : UpToDate (step vram call) := by
  cases call with
  | control block cnt =>
      by_cases wram : block = 7
      · have same : step vram (.control block cnt) =
            { vram with WRAMCNT := masked cnt 3 } := by
          simp only [step,MMU_VRAMmapControl,if_pos wram]
        rw [same]
        exact sound
      · exact mapping_control vram block cnt wram
  | storeByte addr val => exact sound.trans (congrArg mappingOf kept.symm)
  | storeWord addr val => exact sound.trans (congrArg mappingOf kept.symm)
  | storeLong addr val => exact sound.trans (congrArg mappingOf kept.symm)

theorem mirrorRegion_unmapped (region : Region) : mirrorRegion region unmapped = unmapped := by
  have constant (pos : Fin VRAM_ARM9_PAGES) :
      (mirrorRegion region unmapped).vram_arm9_map pos = VRAM_PAGE_UNMAPPED := by
    obtain ⟨other,i,inside,rfl⟩ := regionPage_cases pos
    by_cases same : other = region
    · subst same
      exact mirrorRegion_self other unmapped i inside
    · exact mirrorRegion_other region other same unmapped i inside
  have table := funext constant
  exact congrArg (fun map => { unmapped with vram_arm9_map := map }) table

theorem upToDate_MMU_Reset : UpToDate (MMU_Reset vram) := by
  have off : refreshAll (registerPage (fun _ => 0)) unmapped = unmapped := rfl
  have zero : bankRegister (MMU_Reset vram).arm9Reg = fun _ => 0 := rfl
  unfold UpToDate
  rw [zero,mappingOf,off,mirrorAll,mirrorRegion_unmapped,mirrorRegion_unmapped,
    mirrorRegion_unmapped,mirrorRegion_unmapped]
  rfl

/-- For every sequence of writes to the bank registers, of any width, and after
every call of `MMU_VRAMmapControl`: the whole mapping is a function of the nine
bank registers, every entry of the page tables is unmapped or a page of a bank
that is enabled and selected there, and no address reaches behind the blank
memory. -/
theorem vram_mapping_of_registers :
    ∃ map : Registers → Mapping, ∀ (before : VramState) (writes : List BusWrite),
      Run.Always step
        (fun vram =>
          vram.mapping = map (bankRegister vram.arm9Reg) ∧
            Owned (bankRegister vram.arm9Reg) vram.mapping ∧ AddressesInside vram)
        (MMU_Reset before) (writes.flatMap BusWrite.calls) := by
  refine ⟨mappingOf,?_⟩
  intro before writes
  have guarded := Run.guarded_flatMap BusWrite.calls harmless_calls (MMU_Reset before) writes
  have always := Run.always_of_guarded upToDate_step (upToDate_MMU_Reset before) guarded
  apply always.mono
  intro vram sound
  have owned : Owned (bankRegister vram.arm9Reg) vram.mapping := by
    rw [sound]
    exact owned_mappingOf _
  exact ⟨sound,owned,owned.addressesInside⟩

end Desmume.Vram
