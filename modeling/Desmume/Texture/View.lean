/-
What a decoded texture depends on.

The view of a texture is what a cache item keeps a copy of: the palette, the
bytes of the image and of the index data, and for 4x4 textures the six palette
slots.
-/

import Desmume.Texture.Decode

namespace Desmume.Texture

open Gather TexCache_TexFormat TextureMode

structure SameView (first second : Memory) (fmt texpal : u32) : Prop where
  palette : ∀ index, index < palSize fmt * 2 →
    pal first fmt texpal index = pal second fmt texpal index
  image : ∀ index, index < texSize fmt →
    first.host ((ms first fmt).address index) = second.host ((ms second fmt).address index)
  index : textureMode fmt = TEXMODE_4X4 → ∀ index, index < indexSize fmt →
    first.host ((msIndex first fmt).address index) =
      second.host ((msIndex second fmt).address index)
  colours : textureMode fmt = TEXMODE_4X4 → ∀ index, index < PALETTE_DUMP_SIZE →
    first.host ((paletteSpan first).address index) =
      second.host ((paletteSpan second).address index)

theorem SameView.refl (mem : Memory) (fmt texpal : u32) : SameView mem mem fmt texpal where
  palette := fun _ _ => rfl
  image := fun _ _ => rfl
  index := fun _ _ _ => rfl
  colours := fun _ _ _ => rfl

def liveBlocks (mem : Memory) (fmt : u32) : Nat :=
  min (blocks fmt).length (limit mem fmt)

/-- What the decoder reads for a 4x4 texture lies where the spans have it: its
words and half-words at the span's addresses, its colours in the six slots. -/
structure ReadsSpans (mem : Memory) (fmt texpal : u32) : Prop where
  words : ∀ i, i < 4 * liveBlocks mem fmt →
    (ms mem fmt).address i = mapPtr mem fmt + i
  halfWords : ∀ i, i < 2 * liveBlocks mem fmt →
    (msIndex mem fmt).address i = slot1Ptr mem fmt + i
  colours : ∀ d, d < liveBlocks mem fmt →
    ∀ entry, entry < entriesRead (blockMode (pal1 mem fmt d)) →
      palSlotOf (palAddress fmt texpal (pal1offset (pal1 mem fmt d) + entry)) < 6

variable {first second : Memory} {fmt texpal : u32}

theorem pal_eq (same : ∀ i, i < palSize fmt * 2 →
    pal first fmt texpal i = pal second fmt texpal i) :
    pal first fmt texpal = pal second fmt texpal := by
  funext i
  by_cases inside : i < palSize fmt * 2
  · exact same i inside
  · have behind (mem : Memory) : pal mem fmt texpal i = 0 := by
      apply MemSpan.dump_outside
      right
      change 0 + min (palSize fmt * 2) (palSize fmt * 2) ≤ i
      omega
    rw [behind first,behind second]

theorem itemTexels_congr (TEXFORMAT : TexCache_TexFormat) (fmt : u32) (palette : Nat → u8)
    (left right : Piece) (lens : left.len = right.len) (same : ∀ i, i < left.len →
      first.host (left.ptr + i) = second.host (right.ptr + i)) :
    itemTexels TEXFORMAT fmt first.host palette left =
      itemTexels TEXFORMAT fmt second.host palette right := by
  unfold itemTexels
  by_cases words : textureMode fmt = TEXMODE_16BPP
  · rw [if_pos words,if_pos words,← lens]
    apply List.map_congr_left
    intro x member
    have inside := List.mem_range.mp member
    rw [Nat.shiftRight_eq_div_pow] at inside
    have low := same (2 * x) (by omega)
    have high := same (2 * x + 1) (by omega)
    rw [T1ReadWord,T1ReadWord,Nat.add_assoc,Nat.add_assoc,low,high]
  · rw [if_neg words,if_neg words,← lens]
    apply List.flatMap_congr
    intro x member
    rw [same x (List.mem_range.mp member)]

theorem decodeInOrder_congr (TEXFORMAT : TexCache_TexFormat)
    (same : SameView first second fmt texpal) :
    decodeInOrder TEXFORMAT first fmt texpal =
      decodeInOrder TEXFORMAT second fmt texpal := by
  have texels := flatMap_congr
    (itemTexels_congr TEXFORMAT fmt (pal first fmt texpal))
    (ms first fmt).items (ms second fmt).items (MemSpan_TexMem_lens _ _ _ _)
    (fun i inside => same.image i (inside.trans_eq (ms first fmt).covers))
  unfold decodeInOrder
  rw [texels,pal_eq same.palette]

theorem length_blocks (fmt : u32) :
    (blocks fmt).length = (sizeY fmt >>> 2) * (sizeX fmt >>> 2) := by
  simp [blocks,List.length_flatMap]

private theorem blocks_le (fmt : u32) : 16 * (blocks fmt).length ≤ imageSize fmt := by
  rw [length_blocks,imageSize,Nat.shiftRight_eq_div_pow,Nat.shiftRight_eq_div_pow]
  calc 16 * (sizeY fmt / 2 ^ 2 * (sizeX fmt / 2 ^ 2))
      = sizeX fmt / 2 ^ 2 * 4 * (sizeY fmt / 2 ^ 2 * 4) := by ring
    _ ≤ sizeX fmt * sizeY fmt :=
        Nat.mul_le_mul (Nat.div_mul_le_self _ _) (Nat.div_mul_le_self _ _)

theorem words_inside (is4x4 : textureMode fmt = TEXMODE_4X4) (mem : Memory) :
    4 * liveBlocks mem fmt ≤ texSize fmt := by
  have enough := blocks_le fmt
  have live : liveBlocks mem fmt ≤ (blocks fmt).length := Nat.min_le_left _ _
  rw [texSize,is4x4,texSizes,Nat.shiftRight_eq_div_pow]
  omega

theorem halfWords_inside (is4x4 : textureMode fmt = TEXMODE_4X4) (mem : Memory) :
    2 * liveBlocks mem fmt ≤ indexSize fmt := by
  have enough := blocks_le fmt
  have live : liveBlocks mem fmt ≤ (blocks fmt).length := Nat.min_le_left _ _
  rw [indexSize,if_pos is4x4,Nat.shiftRight_eq_div_pow]
  omega

theorem limit_eq (first second : Memory) (fmt : u32) : limit first fmt = limit second fmt := by
  have lens : (ms first fmt).items.map Piece.len = (ms second fmt).items.map Piece.len :=
    MemSpan_TexMem_lens first second _ _
  have head (items : List Piece) :
      (items.headD ⟨0,0,0⟩).len = (items.map Piece.len).headD 0 := by
    cases items with
    | nil => rfl
    | cons item rest => rfl
  rw [limit,limit,head,head,lens]

theorem liveBlocks_eq (first second : Memory) (fmt : u32) :
    liveBlocks first fmt = liveBlocks second fmt := by
  rw [liveBlocks,liveBlocks,limit_eq first second]

section

variable (is4x4 : textureMode fmt = TEXMODE_4X4) (same : SameView first second fmt texpal)
  (firstReads : ReadsSpans first fmt texpal) (secondReads : ReadsSpans second fmt texpal)

include is4x4 same firstReads secondReads

theorem currBlock_congr {d : Nat} (live : d < liveBlocks first fmt) :
    currBlock first fmt d = currBlock second fmt d := by
  have byte (off : Nat) (inside : off < 4) :
      first.host (mapPtr first fmt + (4 * d + off)) =
        second.host (mapPtr second fmt + (4 * d + off)) := by
    have within := words_inside is4x4 first
    have liveToo := liveBlocks_eq first second fmt
    have here := same.image (4 * d + off) (by omega)
    rwa [firstReads.words _ (by omega),secondReads.words _ (by omega)] at here
  unfold currBlock
  refine T1ReadLong_congr fun off inside => ?_
  rw [Nat.add_assoc,Nat.add_assoc]
  exact byte off inside

theorem pal1_congr {d : Nat} (live : d < liveBlocks first fmt) :
    pal1 first fmt d = pal1 second fmt d := by
  have byte (off : Nat) (inside : off < 2) :
      first.host (slot1Ptr first fmt + (2 * d + off)) =
        second.host (slot1Ptr second fmt + (2 * d + off)) := by
    have within := halfWords_inside is4x4 first
    have liveToo := liveBlocks_eq first second fmt
    have here := same.index is4x4 (2 * d + off) (by omega)
    rwa [firstReads.halfWords _ (by omega),secondReads.halfWords _ (by omega)] at here
  exact T1ReadWord_congr (byte 0 (by omega)) (byte 1 (by omega))

end

theorem palette_address (mem : Memory) (addr : u32) (inside : palSlotOf addr < 6)
    {off : Nat} (within : addr.toNat % 0x4000 + off < 0x4000) :
    palSlotOf addr * 0x4000 + addr.toNat % 0x4000 + off < PALETTE_DUMP_SIZE ∧
    (paletteSpan mem).address
        (palSlotOf addr * 0x4000 + addr.toNat % 0x4000 + off) =
      mem.palSlot (palSlotOf addr) + (addr.toNat % 0x4000 + off) := by
  have bounded : palSlotOf addr * 0x4000 + addr.toNat % 0x4000 + off <
      PALETTE_DUMP_SIZE := by
    rw [PALETTE_DUMP_SIZE]
    omega
  refine ⟨bounded,?_⟩
  rw [paletteSpan,MemSpan_TexPalette,MemSpan.address_ofSlots _ _ 0 PALETTE_DUMP_SIZE bounded]
  dsimp only
  have slot : (0 + (palSlotOf addr * 0x4000 + addr.toNat % 0x4000 + off)) / 0x4000 =
      palSlotOf addr := by omega
  have place : (0 + (palSlotOf addr * 0x4000 + addr.toNat % 0x4000 + off)) % 0x4000 =
      addr.toNat % 0x4000 + off := by omega
  have kept : palSlotOf addr % 8 = palSlotOf addr := by omega
  rw [slot,place,kept]
  simp

theorem palAddress_even (is4x4 : textureMode fmt = TEXMODE_4X4) (texpal : u32) (off : Nat) :
    (palAddress fmt texpal off).toNat % 2 = 0 := by
  simp only [palAddress,paletteAddress,is4x4,BitVec.toNat_add,BitVec.toNat_shiftLeft,
    BitVec.toNat_ofNat,Nat.shiftLeft_eq]
  omega

theorem PAL4X4_congr (is4x4 : textureMode fmt = TEXMODE_4X4)
    (same : SameView first second fmt texpal) {off : Nat}
    (inside : palSlotOf (palAddress fmt texpal off) < 6) :
    PAL4X4 first fmt texpal off = PAL4X4 second fmt texpal off := by
  have even := palAddress_even is4x4 texpal off
  have masked (addr : u32) : (addr &&& 0x3FFF).toNat = addr.toNat % 0x4000 := by
    rw [BitVec.toNat_and]
    exact Nat.and_two_pow_sub_one_eq_mod addr.toNat 14
  have byte (step : Nat) (small : step < 2) :
      first.host (first.palSlot (palSlotOf (palAddress fmt texpal off)) +
        ((palAddress fmt texpal off).toNat % 0x4000 + step)) =
      second.host (second.palSlot (palSlotOf (palAddress fmt texpal off)) +
        ((palAddress fmt texpal off).toNat % 0x4000 + step)) := by
    have within : (palAddress fmt texpal off).toNat % 0x4000 + step < 0x4000 := by omega
    obtain ⟨bounded,firstPlace⟩ := palette_address first _ inside within
    obtain ⟨_,secondPlace⟩ := palette_address second _ inside within
    rw [← firstPlace,← secondPlace]
    exact same.colours is4x4 _ bounded
  unfold PAL4X4
  dsimp only
  rw [masked]
  exact T1ReadWord_congr (byte 0 (by omega)) (byte 1 (by omega))

theorem tmp_col_congr (mode : Nat) (left right : Nat → u16) (first second : u32)
    (same : ∀ entry, entry < entriesRead mode → left entry = right entry) :
    tmp_col mode left first second = tmp_col mode right first second := by
  match mode with
  | 0 => rw [tmp_col,tmp_col,same 2 (by decide)]
  | 1 => rw [tmp_col,tmp_col]
  | 2 => rw [tmp_col,tmp_col,same 2 (by decide),same 3 (by decide)]
  | _ + 3 => simp only [tmp_col]

theorem blockColors_congr (TEXFORMAT : TexCache_TexFormat) (mode : Nat) (left right : Nat → u16)
    (same : ∀ entry, entry < entriesRead mode → left entry = right entry) :
    blockColors TEXFORMAT mode left = blockColors TEXFORMAT mode right := by
  have enough : 2 ≤ entriesRead mode := by
    unfold entriesRead
    split <;> omega
  have zero := same 0 (by omega)
  have one := same 1 (by omega)
  unfold blockColors
  rw [zero,one,tmp_col_congr mode left right _ _ same]

theorem blockTexel_congr (TEXFORMAT : TexCache_TexFormat)
    (is4x4 : textureMode fmt = TEXMODE_4X4) (same : SameView first second fmt texpal)
    (firstReads : ReadsSpans first fmt texpal) (secondReads : ReadsSpans second fmt texpal)
    {d : Nat} (live : d < liveBlocks first fmt) :
    blockTexel TEXFORMAT first fmt texpal d = blockTexel TEXFORMAT second fmt texpal d := by
  have indexes := pal1_congr is4x4 same firstReads secondReads live
  have words := currBlock_congr is4x4 same firstReads secondReads live
  have colours := blockColors_congr TEXFORMAT (blockMode (pal1 first fmt d))
    (fun entry => PAL4X4 first fmt texpal (pal1offset (pal1 first fmt d) + entry))
    (fun entry => PAL4X4 second fmt texpal (pal1offset (pal1 first fmt d) + entry))
    (fun entry read => PAL4X4_congr is4x4 same (firstReads.colours d live entry read))
  funext sy sx
  unfold blockTexel
  dsimp only
  rw [colours,indexes,words]

section

variable (TEXFORMAT : TexCache_TexFormat)
  (texels : ∀ d < liveBlocks first fmt,
    blockTexel TEXFORMAT first fmt texpal d = blockTexel TEXFORMAT second fmt texpal d)

include texels

theorem decodeBlock_congr (decoding : Decoding) (block : Nat × Nat)
    (counted : decoding.d < (blocks fmt).length) :
    decodeBlock TEXFORMAT first fmt texpal decoding block =
      decodeBlock TEXFORMAT second fmt texpal decoding block := by
  have limits := limit_eq first second fmt
  unfold decodeBlock
  by_cases live : decoding.d < limit first fmt
  · rw [texels decoding.d (Nat.lt_min.mpr ⟨counted,live⟩),limits]
  · have dead : decide (limit first fmt ≤ decoding.d) = true := by
      simpa using Nat.le_of_not_lt live
    have deadToo : decide (limit second fmt ≤ decoding.d) = true := by rwa [← limits]
    rw [dead,deadToo]
    simp only [Bool.or_true,if_true]

theorem foldl_decodeBlock_congr (rest : List (Nat × Nat)) (decoding : Decoding)
    (counted : decoding.d + rest.length ≤ (blocks fmt).length) :
    rest.foldl (decodeBlock TEXFORMAT first fmt texpal) decoding =
      rest.foldl (decodeBlock TEXFORMAT second fmt texpal) decoding := by
  induction rest generalizing decoding with
  | nil => rfl
  | cons block rest ih =>
      rw [List.length_cons] at counted
      have head := decodeBlock_congr TEXFORMAT texels decoding block (by omega)
      rw [List.foldl_cons,List.foldl_cons,← head]
      apply ih
      change decoding.d + 1 + rest.length ≤ _
      omega

theorem decode4x4_congr : decode4x4 TEXFORMAT first fmt texpal =
    decode4x4 TEXFORMAT second fmt texpal := by
  refine congrArg Decoding.dwdst
    (foldl_decodeBlock_congr TEXFORMAT texels (blocks fmt) _ ?_)
  exact (Nat.zero_add _).le

end

theorem decode_congr (TEXFORMAT : TexCache_TexFormat) (same : SameView first second fmt texpal)
    (firstReads : textureMode fmt = TEXMODE_4X4 → ReadsSpans first fmt texpal)
    (secondReads : textureMode fmt = TEXMODE_4X4 → ReadsSpans second fmt texpal) :
    decode TEXFORMAT first fmt texpal = decode TEXFORMAT second fmt texpal := by
  unfold decode
  by_cases is4x4 : textureMode fmt = TEXMODE_4X4
  · rw [if_pos is4x4,if_pos is4x4]
    refine decode4x4_congr TEXFORMAT fun d live => ?_
    exact blockTexel_congr TEXFORMAT is4x4 same (firstReads is4x4) (secondReads is4x4) live
  · rw [if_neg is4x4,if_neg is4x4]
    exact decodeInOrder_congr TEXFORMAT same

/-! ### Textures inside their slots -/

theorem TexMem_inside (mem : Memory) {ofs len i : Nat} (inside : i < len)
    (oneSlot : ofs % 0x20000 + len ≤ 0x20000) :
    (MemSpan_TexMem mem ofs len).address i =
      mem.textureSlotAddr (Fin.ofNat 4 (ofs / 0x20000 % 4)) + ofs % 0x20000 + i := by
  have slot : (ofs + i) / 0x20000 = ofs / 0x20000 := by omega
  have place : (ofs + i) % 0x20000 = ofs % 0x20000 + i := by omega
  rw [MemSpan_TexMem,MemSpan.address_ofSlots _ _ ofs len inside,slot,place,Nat.add_assoc]

theorem TexMem_head (mem : Memory) {ofs len : Nat} (some : 0 < len) :
    ((MemSpan_TexMem mem ofs len).items.headD ⟨0,0,0⟩).ptr =
      mem.textureSlotAddr (Fin.ofNat 4 (ofs / 0x20000 % 4)) + ofs % 0x20000 := by
  obtain ⟨rest,rfl⟩ := Nat.exists_eq_succ_of_ne_zero some.ne'
  rfl

/-- A 4x4 texture whose image and index data do not leave their slots, and
whose palette base leaves room for every offset, is decoded from its spans. -/
theorem readsSpans_of_inside (is4x4 : textureMode fmt = TEXMODE_4X4) (mem : Memory)
    (image : ((fmt &&& 0xFFFF) <<< 3).toNat % 0x20000 + texSize fmt ≤ 0x20000)
    (i : (indexOffset fmt + indexBase fmt).toNat % 0x20000 + indexSize fmt ≤ 0x20000)
    (base : (paletteAddress fmt texpal).toNat + 0x10004 ≤ PALETTE_DUMP_SIZE) :
    ReadsSpans mem fmt texpal where
  words := by
    intro word inside
    have within := words_inside is4x4 mem
    rw [ms,mapPtr,ms,TexMem_head mem (by omega),TexMem_inside mem (by omega) image]
  halfWords := by
    intro halfWord inside
    have within := halfWords_inside is4x4 mem
    rw [msIndex,TexMem_inside mem (by omega) i,slot1Ptr]
    have off : ((fmt &&& 0x3FFF) <<< 2).toNat < 0x10000 := by
      have masked : (fmt &&& 0x3FFF).toNat ≤ 0x3FFF := by
        rw [BitVec.toNat_and]
        exact Nat.and_le_right
      rw [BitVec.toNat_shiftLeft,Nat.shiftLeft_eq]
      omega
    by_cases upper : fmt &&& 0xC000 = 0x8000
    · rw [indexOffset,indexBase,if_pos upper,if_pos upper,BitVec.toNat_add]
      have base : (0x30000 : u32).toNat = 0x30000 := rfl
      have slot : (((fmt &&& 0x3FFF) <<< 2).toNat + 0x30000) % 2 ^ 32 / 0x20000 % 4 = 1 := by
        omega
      rw [base,slot]
      change mem.textureSlotAddr 1 + _ + _ = _
      omega
    · rw [indexOffset,indexBase,if_neg upper,if_neg upper,BitVec.toNat_add]
      have base : (0x20000 : u32).toNat = 0x20000 := rfl
      have slot : (((fmt &&& 0x3FFF) <<< 2).toNat + 0x20000) % 2 ^ 32 / 0x20000 % 4 = 1 := by
        omega
      rw [base,slot]
      change mem.textureSlotAddr 1 + _ + _ = _
      omega
  colours := by
    intro d _ entry read
    have few : entriesRead (blockMode (pal1 mem fmt d)) ≤ 4 := by
      unfold entriesRead
      split <;> omega
    have off : pal1offset (pal1 mem fmt d) ≤ 0x7FFE := by
      have masked : (pal1 mem fmt d &&& 0x3FFF).toNat ≤ 0x3FFF := by
        rw [BitVec.toNat_and]
        exact Nat.and_le_right
      rw [pal1offset,BitVec.toNat_shiftLeft,Nat.shiftLeft_eq]
      omega
    have masked (addr : u32) : palSlotOf addr = addr.toNat / 0x4000 % 8 := by
      rw [palSlotOf,BitVec.toNat_and,BitVec.toNat_ushiftRight,Nat.shiftRight_eq_div_pow]
      exact Nat.and_two_pow_sub_one_eq_mod (addr.toNat / 2 ^ 14) 3
    rw [masked,palAddress,BitVec.toNat_add,BitVec.toNat_ofNat]
    rw [PALETTE_DUMP_SIZE] at base
    omega

end Desmume.Texture
