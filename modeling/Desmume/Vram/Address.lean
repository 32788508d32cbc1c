/-
Addresses into VRAM: `MMU_LCDmap` and `MMU_gpu_map`.

Once the mirrors are filled in, every entry of the page tables is unmapped or
owned, and then no address reaches behind the blank memory.
-/

import Desmume.Vram.Ownership

namespace Desmume.Vram

open VRAMBankID

def LCDC_HACKY_LOCATION : u32 := 0x06000000
def ARM7_HACKY_IWRAM_LOCATION : u32 := 0x03800000
def ARM7_HACKY_SIWRAM_LOCATION : u32 := 0x03000000

structure LCDmapped where
  addr : u32
  unmapped : Bool
  restricted : Bool

def arm7_siwram_blocks : Fin 2 → Fin 4 → Fin 4 → u32 :=
  ![![![0,1,2,3],![4,4,4,4],![5,5,5,5],![4,5,4,5]],
    ![![0,1,2,3],![0,1,2,3],![0,1,2,3],![0,1,2,3]]]

def arm9_siwram_blocks : Fin 4 → Fin 4 → u32 :=
  ![![4,5,4,5],![5,5,5,5],![4,4,4,4],![8,8,8,8]]

variable (proc : Proc)

def iwram_block_16k (WRAMCNT : Fin 4) (addr : u32) : u32 :=
  match proc with
  | .ARMCPU_ARM7 =>
      arm7_siwram_blocks (masked (addr >>> 23) 1) WRAMCNT (masked (addr >>> 14) 3)
  | .ARMCPU_ARM9 => arm9_siwram_blocks WRAMCNT (masked (addr >>> 14) 3)

/-- The first part of `MMU_LCDmap`, for 0x03000000 to 0x03FFFFFF. -/
def iwramMap (WRAMCNT : Fin 4) (addr : u32) : LCDmapped :=
  let iwram_offset := addr &&& 0x3FFF
  let addr := addr &&& 0x00FFFFFF
  let block := iwram_block_16k proc WRAMCNT addr
  match (block >>> 2).toNat with
  | 0 =>
      { addr := ARM7_HACKY_IWRAM_LOCATION + (block <<< 14) + iwram_offset
        unmapped := false
        restricted := false }
  | 1 =>
      { addr := ARM7_HACKY_SIWRAM_LOCATION + ((block &&& 3) <<< 14) + iwram_offset
        unmapped := false
        restricted := false }
  | _ => { addr := 0, unmapped := true, restricted := false }

def lcdMirror (addr : u32) : u32 :=
  if 0x068A4000 ≤ addr then 0x06800000 + (addr &&& 0x80000) else addr

theorem lcdcPage_lt (addr : u32) (inside : 0x06800000 ≤ lcdMirror addr) :
    ((lcdMirror addr >>> 14) &&& 63).toNat < VRAM_LCDC_PAGES := by
  have masked (val : u32) : ((val >>> 14) &&& 63).toNat = val.toNat / 2 ^ 14 % 64 := by
    have mod : (val.toNat >>> 14) &&& 63 = (val.toNat >>> 14) % 64 :=
      Nat.and_two_pow_sub_one_eq_mod _ 6
    rw [BitVec.toNat_and,BitVec.toNat_ushiftRight]
    exact mod.trans (by rw [Nat.shiftRight_eq_div_pow])
  rw [masked]
  unfold VRAM_LCDC_PAGES
  unfold lcdMirror at inside ⊢
  by_cases high : 0x068A4000 ≤ addr
  · have bit : addr &&& 0x80000 = 0 ∨ addr &&& 0x80000 = 0x80000 := by
      have split := BitVec.and_twoPow addr 19
      change addr &&& 0x80000 = _ at split
      rw [split]
      cases addr.getLsbD 19
      · exact Or.inl rfl
      · exact Or.inr rfl
    rw [if_pos high]
    rcases bit with clear | set
    · rw [clear]
      decide
    · rw [set]
      decide
  · rw [if_neg high] at inside ⊢
    have below : ¬(0x068A4000 : u32).toNat ≤ addr.toNat := high
    have above : (0x06800000 : u32).toNat ≤ addr.toNat := inside
    change ¬109723648 ≤ _ at below
    change 109051904 ≤ _ at above
    omega

/-- The page an address of the ARM9 between 0x06000000 and 0x06FFFFFF is
mapped to. -/
def vramPage (map : Mapping) (addr : u32) : u8 :=
  if inside : 0x06800000 ≤ lcdMirror addr then
    map.vram_lcdc_map ⟨((lcdMirror addr >>> 14) &&& 63).toNat,lcdcPage_lt addr inside⟩
  else map.vram_arm9_map (masked (lcdMirror addr >>> 14) (VRAM_ARM9_PAGES - 1))

def MMU_LCDmap (vram : VramState) (addr : u32) : LCDmapped :=
  if 0x03000000 ≤ addr ∧ addr < 0x04000000 then iwramMap proc vram.WRAMCNT addr
  else if addr < 0x06000000 then { addr := addr, unmapped := false, restricted := false }
  else if 0x07000000 ≤ addr then { addr := addr, unmapped := false, restricted := false }
  else
    match proc with
    | .ARMCPU_ARM7 =>
        let ofs := addr &&& 0x1FFFF
        let page := vram.mapping.vram_arm7_map (masked (addr >>> 17) 1)
        if page = VRAM_PAGE_UNMAPPED then { addr := 0, unmapped := true, restricted := false }
        else
          { addr := LCDC_HACKY_LOCATION + (page.setWidth 32 <<< 14) + ofs
            unmapped := false
            restricted := false }
    | .ARMCPU_ARM9 =>
        let ofs := lcdMirror addr &&& 0x3FFF
        let page := vramPage vram.mapping addr
        if page = VRAM_PAGE_UNMAPPED then { addr := 0, unmapped := true, restricted := true }
        else
          { addr := LCDC_HACKY_LOCATION + (page.setWidth 32 <<< 14) + ofs
            unmapped := false
            restricted := true }

/-- The offset from `ARM9_LCD` of the returned pointer. -/
def MMU_gpu_map (map : Mapping) (vram_addr : u32) : Nat :=
  let page := map.vram_arm9_map (masked (vram_addr >>> 14) (VRAM_ARM9_PAGES - 1))
  let ofs := vram_addr &&& 0x3FFF
  page.toNat <<< 14 + ofs.toNat

/-- The page `region.type + index`. -/
def regionPage (region : Region) (i : Nat) (inside : i < 128) : Fin VRAM_ARM9_PAGES :=
  ⟨region.type + i,by
    have low := region.type_le
    unfold VRAM_ARM9_PAGES
    omega⟩

theorem regionPage_cases (pos : Fin VRAM_ARM9_PAGES) :
    ∃ region i, ∃ inside : i < 128, pos = regionPage region i inside := by
  have bound : pos.val < 512 := pos.isLt
  have block : pos.val / 128 < 4 := by omega
  have inside : pos.val % 128 < 128 := Nat.mod_lt _ (by decide)
  have parts := Nat.div_add_mod pos.val 128
  interval_cases found : pos.val / 128
  · exact ⟨.abg,_,inside,Fin.ext (by simp only [regionPage,Region.type,VRAM_PAGE_ABG]; omega)⟩
  · exact ⟨.bbg,_,inside,Fin.ext (by simp only [regionPage,Region.type,VRAM_PAGE_BBG]; omega)⟩
  · exact ⟨.aobj,_,inside,
      Fin.ext (by simp only [regionPage,Region.type,VRAM_PAGE_AOBJ]; omega)⟩
  · exact ⟨.bobj,_,inside,
      Fin.ext (by simp only [regionPage,Region.type,VRAM_PAGE_BOBJ]; omega)⟩

variable (region : Region)

variable (i : Nat)

theorem mod_size_lt : i % region.size < region.size :=
  Nat.mod_lt _ (by have small := region.size_le; omega)

theorem mod_size_lt_128 : i % region.size < 128 := by
  have small := region.size_le
  have below := mod_size_lt region i
  omega

theorem and_mask : i &&& (region.size - 1) = i % region.size := by
  cases region with
  | abg => exact Nat.and_two_pow_sub_one_eq_mod i 5
  | bbg => exact Nat.and_two_pow_sub_one_eq_mod i 3
  | aobj => exact Nat.and_two_pow_sub_one_eq_mod i 4
  | bobj => exact Nat.and_two_pow_sub_one_eq_mod i 3

theorem mirrorRegion_self (map : Mapping) (i : Nat) (inside : i < 128) :
    (mirrorRegion region map).vram_arm9_map (regionPage region i inside) =
      map.vram_arm9_map
        (regionPage region (i % region.size) (mod_size_lt_128 region i)) := by
  by_cases mappable : i < region.size
  · have same : i % region.size = i := Nat.mod_eq_of_lt mappable
    simp only [same]
    apply Table.copyAll_of_outside
    intro copied _ hit
    have values : region.type + (region.size + copied.val) = region.type + i :=
      congrArg Fin.val hit
    omega
  · obtain ⟨copied,located⟩ := Nat.exists_eq_add_of_le (Nat.le_of_not_lt mappable)
    subst located
    have bound : copied < 128 - region.size := by omega
    have injective : Function.Injective (mirrorTarget region) := by
      intro left right same
      have values : region.type + (region.size + left.val) =
          region.type + (region.size + right.val) := congrArg Fin.val same
      exact Fin.ext (by omega)
    have apart (left right : Fin (128 - region.size)) :
        mirrorTarget region left ≠ mirrorSource region right := by
      intro same
      have values : region.type + (region.size + left.val) =
          region.type + ((region.size + right.val) &&& (region.size - 1)) :=
        congrArg Fin.val same
      rw [and_mask] at values
      have below := mod_size_lt region (region.size + right.val)
      omega
    have copy := Table.copyAll_target (List.finRange (128 - region.size)) (mirrorTarget region)
      (mirrorSource region) injective apart ⟨copied,bound⟩ (List.mem_finRange _)
      map.vram_arm9_map
    refine copy.trans (congrArg map.vram_arm9_map (Fin.ext ?_))
    change region.type + ((region.size + copied) &&& (region.size - 1)) = region.type + _
    rw [and_mask]

theorem mirrorRegion_other (region other : Region) (ne : other ≠ region)
    (map : Mapping) (i : Nat) (inside : i < 128) :
    (mirrorRegion region map).vram_arm9_map (regionPage other i inside) =
      map.vram_arm9_map (regionPage other i inside) := by
  have apart : other.type + 128 ≤ region.type ∨ region.type + 128 ≤ other.type := by
    revert ne
    cases region <;> cases other <;> decide
  apply Table.copyAll_of_outside
  intro copied _ hit
  have values : region.type + (region.size + copied.val) = other.type + i :=
    congrArg Fin.val hit
  omega

theorem mirrorAll_page (map : Mapping) (i : Nat) (inside : i < 128) :
    (mirrorAll map).vram_arm9_map (regionPage region i inside) =
      map.vram_arm9_map
        (regionPage region (i % region.size) (mod_size_lt_128 region i)) := by
  unfold mirrorAll
  cases region with
  | abg =>
      rw [mirrorRegion_other _ _ (by decide),mirrorRegion_other _ _ (by decide),
        mirrorRegion_other _ _ (by decide),mirrorRegion_self]
  | bbg =>
      rw [mirrorRegion_other _ _ (by decide),mirrorRegion_other _ _ (by decide),
        mirrorRegion_self,mirrorRegion_other _ _ (by decide)]
  | aobj =>
      rw [mirrorRegion_other _ _ (by decide),mirrorRegion_self,
        mirrorRegion_other _ _ (by decide),mirrorRegion_other _ _ (by decide)]
  | bobj =>
      rw [mirrorRegion_self,mirrorRegion_other _ _ (by decide),
        mirrorRegion_other _ _ (by decide),mirrorRegion_other _ _ (by decide)]

/-- What the page tables show once the mirrors are filled in. -/
structure Owned (regs : Registers) (map : Mapping) : Prop where
  arm9 : ∀ pos, map.vram_arm9_map pos = VRAM_PAGE_UNMAPPED ∨
    (map.vram_arm9_map pos).toNat < VRAM_LCDC_PAGES ∧
      ∃ region i, i < 128 ∧ pos.val = region.type + i ∧
        OwnedPage regs region (i % region.size) (map.vram_arm9_map pos)
  lcdc : ∀ pos, map.vram_lcdc_map pos = VRAM_PAGE_UNMAPPED ∨
    (map.vram_lcdc_map pos).toNat < VRAM_LCDC_PAGES ∧
      OwnedLcdc regs pos.val (map.vram_lcdc_map pos)
  arm7 : ∀ pos, map.vram_arm7_map pos = VRAM_PAGE_UNMAPPED ∨
    OwnedArm7 regs (map.vram_arm7_map pos)

variable {regs : Registers}

variable {page : u8}

theorem OwnedPage.lt {region : Region} {off : Nat}
    (owned : OwnedPage regs region off page) : page.toNat < VRAM_LCDC_PAGES := by
  obtain ⟨bank,-,first,-,i,inside,-,num⟩ := owned
  have last := last_page bank
  omega

theorem OwnedPage.offset_lt {region : Region} {off : Nat}
    (owned : OwnedPage regs region off page) : off < region.size := by
  obtain ⟨bank,-,first,member,i,inside,located,-⟩ := owned
  have within := placement_inside member
  omega

theorem Placed.owned {map : Mapping} (placed : Placed regs map) : Owned regs (mirrorAll map) := by
  constructor
  · intro pos
    obtain ⟨region,i,inside,rfl⟩ := regionPage_cases pos
    rw [mirrorAll_page]
    rcases placed.arm9 (regionPage region (i % region.size)
      (mod_size_lt_128 region i)) with unmapped | ⟨owner,off,located,owned⟩
    · exact Or.inl unmapped
    · have within := owned.offset_lt
      have below := mod_size_lt region i
      have small := region.size_le
      have smallOwner := owner.size_le
      have located : region.type + i % region.size = owner.type + off := located
      have sameRegion : owner = region := by
        have apart : owner = region ∨ owner.type + 128 ≤ region.type ∨
            region.type + 128 ≤ owner.type := by
          cases owner <;> cases region <;> decide
        rcases apart with same | apart
        · exact same
        · omega
      subst sameRegion
      have sameOffset : off = i % owner.size := by omega
      subst sameOffset
      exact Or.inr ⟨owned.lt,owner,i,inside,rfl,owned⟩
  · intro pos
    rcases placed.lcdc pos with unmapped | owned
    · exact Or.inl unmapped
    · obtain ⟨bank,on,selected,i,inside,located,num⟩ := owned
      refine Or.inr ⟨?_,bank,on,selected,i,inside,located,num⟩
      exact num.trans_lt pos.isLt
  · exact placed.arm7

theorem toNat_lcd (page : u8) (small : page.toNat < VRAM_LCDC_PAGES) (ofs : u32) (room : Nat)
    (bound : ofs.toNat < room) (short : room ≤ 0x20000) :
    (LCDC_HACKY_LOCATION + (page.setWidth 32 <<< 14) + ofs).toNat =
      0x06000000 + page.toNat * 0x4000 + ofs.toNat := by
  have wide : (page.setWidth 32).toNat = page.toNat := by
    rw [BitVec.toNat_setWidth]
    omega
  have shifted : (page.setWidth 32 <<< 14).toNat = page.toNat * 0x4000 := by
    rw [BitVec.toNat_shiftLeft,wide,Nat.shiftLeft_eq]
    omega
  unfold VRAM_LCDC_PAGES at small
  unfold LCDC_HACKY_LOCATION
  rw [BitVec.toNat_add,BitVec.toNat_add,shifted]
  have start : (0x06000000 : u32).toNat = 0x06000000 := rfl
  rw [start]
  omega

/-- What holds of every address: a mapped address of the VRAM range goes to
`ARM9_LCD`, and no result lies behind the blank memory. -/
structure AddressesInside (vram : VramState) : Prop where
  gpu : ∀ addr, MMU_gpu_map vram.mapping addr < ARM9_LCD_size + blank_memory_size
  mapped : ∀ proc addr, 0x06000000 ≤ addr → addr < 0x07000000 →
    (MMU_LCDmap proc vram addr).unmapped = true ∨
      LCDC_HACKY_LOCATION ≤ (MMU_LCDmap proc vram addr).addr
  lcd : ∀ proc addr, LCDC_HACKY_LOCATION ≤ (MMU_LCDmap proc vram addr).addr →
    (MMU_LCDmap proc vram addr).addr < 0x07000000 →
      ((MMU_LCDmap proc vram addr).addr - LCDC_HACKY_LOCATION).toNat <
        ARM9_LCD_size + blank_memory_size

theorem toNat_and_le (addr mask : u32) : (addr &&& mask).toNat ≤ mask.toNat := by
  rw [BitVec.toNat_and]
  exact Nat.and_le_right

theorem lcd_inside (page : u8) (small : page.toNat < VRAM_LCDC_PAGES) (ofs : u32)
    (reach : page.toNat * 0x4000 + ofs.toNat < ARM9_LCD_size + blank_memory_size)
    (short : ofs.toNat < 0x20000) :
    LCDC_HACKY_LOCATION ≤ LCDC_HACKY_LOCATION + (page.setWidth 32 <<< 14) + ofs ∧
      (LCDC_HACKY_LOCATION + (page.setWidth 32 <<< 14) + ofs - LCDC_HACKY_LOCATION).toNat <
        ARM9_LCD_size + blank_memory_size := by
  have val := toNat_lcd page small ofs 0x20000 short (Nat.le_refl _)
  have start : LCDC_HACKY_LOCATION.toNat = 0x06000000 := rfl
  have above : LCDC_HACKY_LOCATION ≤ LCDC_HACKY_LOCATION + (page.setWidth 32 <<< 14) + ofs := by
    rw [BitVec.le_def,val,start]
    omega
  refine ⟨above,?_⟩
  rw [BitVec.toNat_sub_of_le above,val,start]
  omega

theorem OwnedArm7.reach (owned : OwnedArm7 regs page) :
    page.toNat < VRAM_LCDC_PAGES ∧ page.toNat * 0x4000 + 0x20000 ≤ ARM9_LCD_size := by
  obtain ⟨bank,wired,-,-,num⟩ := owned
  rw [num]
  rcases wired with rfl | rfl
  · decide
  · decide

theorem iwram_block_lt (proc : Proc) (WRAMCNT : Fin 4) (addr : u32) :
    (iwram_block_16k proc WRAMCNT addr).toNat ≤ 8 := by
  cases proc with
  | ARMCPU_ARM9 =>
      unfold iwram_block_16k
      generalize masked (addr >>> 14) 3 = block
      change (arm9_siwram_blocks WRAMCNT block).toNat ≤ 8
      revert WRAMCNT block
      decide
  | ARMCPU_ARM7 =>
      unfold iwram_block_16k
      generalize masked (addr >>> 14) 3 = block
      generalize masked (addr >>> 23) 1 = region
      change (arm7_siwram_blocks region WRAMCNT block).toNat ≤ 8
      revert WRAMCNT block region
      decide

theorem iwramMap_below (proc : Proc) (WRAMCNT : Fin 4) (addr : u32) :
    (iwramMap proc WRAMCNT addr).addr < LCDC_HACKY_LOCATION := by
  have small := iwram_block_lt proc WRAMCNT (addr &&& 0x00FFFFFF)
  have ofs := toNat_and_le addr 0x3FFF
  simp only [iwramMap]
  generalize iwram_block_16k proc WRAMCNT (addr &&& 0x00FFFFFF) = block at small
  generalize addr &&& 0x3FFF = iwram_offset at ofs
  have off : iwram_offset.toNat ≤ 0x3FFF := ofs
  unfold ARM7_HACKY_IWRAM_LOCATION ARM7_HACKY_SIWRAM_LOCATION LCDC_HACKY_LOCATION
  split
  · bv_omega
  · have low := toNat_and_le block 3
    generalize block &&& 3 = bits at low
    have bound : bits.toNat ≤ 3 := low
    bv_omega
  · decide

theorem Owned.vramPage {map : Mapping} (owned : Owned regs map)
    (addr : u32) : vramPage map addr = VRAM_PAGE_UNMAPPED ∨
      (vramPage map addr).toNat < VRAM_LCDC_PAGES := by
  unfold Vram.vramPage
  split
  · exact (owned.lcdc _).imp_right And.left
  · exact (owned.arm9 _).imp_right And.left

theorem Owned.addressesInside {vram : VramState}
    (owned : Owned regs vram.mapping) : AddressesInside vram := by
  have answered (proc : Proc) (addr : u32) :
      ((MMU_LCDmap proc vram addr).addr = addr ∧ (addr < 0x06000000 ∨ 0x07000000 ≤ addr)) ∨
        ((MMU_LCDmap proc vram addr).addr < LCDC_HACKY_LOCATION ∧
          ((MMU_LCDmap proc vram addr).unmapped = true ∨ addr < 0x06000000)) ∨
        (LCDC_HACKY_LOCATION ≤ (MMU_LCDmap proc vram addr).addr ∧
          ((MMU_LCDmap proc vram addr).addr - LCDC_HACKY_LOCATION).toNat <
            ARM9_LCD_size + blank_memory_size) := by
    unfold MMU_LCDmap
    split_ifs with iwram low high
    · refine Or.inr (Or.inl ⟨iwramMap_below proc vram.WRAMCNT addr,Or.inr ?_⟩)
      exact BitVec.lt_trans iwram.2 (by decide)
    · exact Or.inl ⟨rfl,Or.inl low⟩
    · exact Or.inl ⟨rfl,Or.inr high⟩
    · cases proc with
      | ARMCPU_ARM7 =>
          simp only
          split_ifs with unmapped
          · exact Or.inr (Or.inl ⟨by decide,Or.inl rfl⟩)
          · have page := (owned.arm7 (masked (addr >>> 17) 1)).resolve_left unmapped
            have ofs : (addr &&& 0x1FFFF).toNat ≤ 0x1FFFF := toNat_and_le addr 0x1FFFF
            obtain ⟨small,reach⟩ := page.reach
            exact Or.inr (Or.inr (lcd_inside _ small _ (by omega) (by omega)))
      | ARMCPU_ARM9 =>
          simp only
          split_ifs with unmapped
          · exact Or.inr (Or.inl ⟨by decide,Or.inl rfl⟩)
          · have small := (owned.vramPage addr).resolve_left unmapped
            have ofs : (lcdMirror addr &&& 0x3FFF).toNat ≤ 0x3FFF := toNat_and_le _ 0x3FFF
            have pages : VRAM_LCDC_PAGES * 0x4000 = ARM9_LCD_size := rfl
            exact Or.inr (Or.inr (lcd_inside _ small _ (by omega) (by omega)))
  constructor
  · intro addr
    unfold MMU_gpu_map
    have ofs : (addr &&& 0x3FFF).toNat ≤ 0x3FFF := toNat_and_le addr 0x3FFF
    have small : (vram.mapping.vram_arm9_map
        (masked (addr >>> 14) (VRAM_ARM9_PAGES - 1))).toNat ≤ 41 := by
      rcases owned.arm9 (masked (addr >>> 14) (VRAM_ARM9_PAGES - 1)) with unmapped | ⟨small,-⟩
      · rw [unmapped]
        decide
      · exact Nat.le_of_lt small
    simp only [Nat.shiftLeft_eq,ARM9_LCD_size,blank_memory_size]
    omega
  · intro proc addr low high
    rcases answered proc addr with ⟨-,outside⟩ | ⟨-,unmapped | below⟩ | ⟨above,-⟩
    · rcases outside with below | beyond
      · exact absurd low (BitVec.not_le.mpr below)
      · exact absurd high (BitVec.not_lt.mpr beyond)
    · exact Or.inl unmapped
    · exact absurd low (BitVec.not_le.mpr below)
    · exact Or.inr above
  · intro proc addr above below
    rcases answered proc addr with ⟨same,outside⟩ | ⟨under,-⟩ | ⟨-,inside⟩
    · rw [same] at above below
      rcases outside with low | beyond
      · exact absurd above (BitVec.not_le.mpr low)
      · exact absurd below (BitVec.not_lt.mpr beyond)
    · exact absurd above (BitVec.not_le.mpr under)
    · exact inside

end Desmume.Vram
