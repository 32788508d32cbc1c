/-
What `TexCache::scan` reads, and when it stays inside the slots.

A texture is read as the list of the bytes that the scan loads through the slot
pointers: the spans, and for a 4x4 texture the words, the index halfwords and
the colours of its blocks.
-/

import Desmume.Texture.Cache
import Desmume.Texture.View

namespace Desmume.Texture

open TexCache_TexFormat TextureMode

/-- A byte of a texture slot, or of a palette slot for a palette address. -/
inductive Access
  | texture (slot off : Nat)
  | palette (addr slot off : Nat)

variable (ofs len addr : Nat)

def palWrap : Nat := addr / 0x4000 % 8 % 6

def Access.Inside : Access → Prop
  | .texture slot off => slot < 4 ∧ off < 0x20000
  | .palette addr slot off => slot < 6 ∧ off < 0x4000 ∧ slot = palWrap addr

/-- `MemSpan_TexMem`. -/
def textureBytes : List Access :=
  (List.range len).map fun i =>
    .texture ((ofs + i) / 0x20000 % 4) ((ofs + i) % 0x20000)

/-- The slot that `MemSpan_TexPalette` has for an address unless it is silent. -/
def spanSlot : Nat :=
  let slot := addr / 0x4000 % 8
  if slot > 5 then slot - 5 else slot

/-- `MemSpan_TexPalette`. -/
def paletteBytes : List Access :=
  (List.range len).map fun i =>
    .palette (ofs + i) (spanSlot (ofs + i)) ((ofs + i) % 0x4000)

def imageStart (fmt : u32) : Nat := ((fmt &&& 0xFFFF) <<< 3).toNat

/-- Where the index halfwords of the blocks start in slot 1. -/
def indexStart (fmt : u32) : Nat :=
  if fmt &&& 0xC000 = 0x8000 then ((fmt &&& 0x3FFF) <<< 2).toNat + 0x10000
  else ((fmt &&& 0x3FFF) <<< 2).toNat

/-- `PAL4X4`. -/
def colourBytes (addr : u32) : List Access :=
  (List.range 2).map fun byte =>
    .palette (addr.toNat + byte) (palSlotOf addr) ((addr &&& 0x3FFF).toNat + byte)

/-- The address of a colour that block `d` reads. -/
def colourAddress (mem : Memory) (fmt texpal : u32) (d entry : Nat) : u32 :=
  palAddress fmt texpal (pal1offset (pal1 mem fmt d) + entry)

def colourCount (mem : Memory) (fmt : u32) (d : Nat) : Nat :=
  entriesRead (blockMode (pal1 mem fmt d))

/-- `map[d]`, `slot1[d]` and the colours of the block. -/
def blockBytes (mem : Memory) (fmt texpal : u32) (d : Nat) : List Access :=
  ((List.range 4).map fun byte =>
      .texture (imageStart fmt / 0x20000 % 4) (imageStart fmt % 0x20000 + 4 * d + byte)) ++
    ((List.range 2).map fun byte => .texture 1 (indexStart fmt + 2 * d + byte)) ++
    (List.range (colourCount mem fmt d)).flatMap fun entry =>
      colourBytes (colourAddress mem fmt texpal d entry)

/-- `TexCache::scan`. -/
def scanBytes (mem : Memory) (fmt texpal : u32) : List Access :=
  textureBytes (imageStart fmt) (texSize fmt) ++
    textureBytes (indexOffset fmt + indexBase fmt).toNat (indexSize fmt) ++
    paletteBytes (paletteAddress fmt texpal).toNat (palSize fmt * 2) ++
    if textureMode fmt = TEXMODE_4X4 then
      (List.range (liveBlocks mem fmt)).flatMap (blockBytes mem fmt texpal)
    else []

variable {mem : Memory} {fmt texpal : u32}

theorem textureBytes_inside : ∀ access ∈ textureBytes ofs len, access.Inside := by
  intro access member
  obtain ⟨i,_bound,rfl⟩ := List.mem_map.mp member
  exact ⟨Nat.mod_lt _ (by decide),Nat.mod_lt _ (by decide)⟩

theorem spanSlot_iff :
    spanSlot addr < 6 ∧ addr % 0x4000 < 0x4000 ∧ spanSlot addr = palWrap addr ↔
      addr / 0x4000 % 8 < 6 := by
  have off : addr % 0x4000 < 0x4000 := Nat.mod_lt _ (by decide)
  unfold spanSlot palWrap
  dsimp only
  by_cases behind : addr / 0x4000 % 8 > 5
  · rw [if_pos behind]
    omega
  · rw [if_neg behind]
    omega

theorem paletteBytes_iff :
    (∀ access ∈ paletteBytes ofs len, access.Inside) ↔
      len = 0 ∨ ofs % 0x20000 + len ≤ 0x18000 := by
  have bytes : (∀ access ∈ paletteBytes ofs len, access.Inside) ↔
      ∀ i < len, (ofs + i) / 0x4000 % 8 < 6 := by
    unfold paletteBytes
    rw [List.forall_mem_map]
    simp only [List.mem_range]
    exact forall₂_congr fun i _ => spanSlot_iff (ofs + i)
  rw [bytes]
  constructor
  · intro inside
    by_cases none : len = 0
    · exact Or.inl none
    · by_cases first : ofs % 0x20000 < 0x18000
      · by_cases ends : ofs % 0x20000 + len ≤ 0x18000
        · exact Or.inr ends
        · have here := inside (0x18000 - ofs % 0x20000) (by omega)
          exact absurd here (by omega)
      · have here := inside 0 (by omega)
        exact absurd here (by omega)
  · rintro (none | ends) i bound
    · exact absurd bound (by omega)
    · omega

theorem palSlotOf_eq (addr : u32) : palSlotOf addr = addr.toNat / 0x4000 % 8 := by
  rw [palSlotOf,BitVec.toNat_and,BitVec.toNat_ushiftRight,Nat.shiftRight_eq_div_pow]
  exact Nat.and_two_pow_sub_one_eq_mod (addr.toNat / 2 ^ 14) 3

theorem place_eq (addr : u32) : (addr &&& 0x3FFF).toNat = addr.toNat % 0x4000 := by
  rw [BitVec.toNat_and]
  exact Nat.and_two_pow_sub_one_eq_mod addr.toNat 14

theorem colourBytes_iff {addr : u32} (even : addr.toNat % 2 = 0) :
    (∀ access ∈ colourBytes addr, access.Inside) ↔ palSlotOf addr < 6 := by
  have slot := palSlotOf_eq addr
  have place := place_eq addr
  unfold colourBytes
  rw [List.forall_mem_map]
  constructor
  · exact fun inside => (inside 0 (by decide)).1
  · intro below byte member
    have small := List.mem_range.mp member
    refine ⟨below,?_,?_⟩
    · omega
    · unfold palWrap
      omega

theorem imageStart_mod (fmt : u32) : imageStart fmt % 0x20000 = fmt.toNat % 0x4000 * 8 := by
  have mask : (fmt &&& 0xFFFF).toNat = fmt.toNat % 0x10000 := by
    rw [BitVec.toNat_and]
    exact Nat.and_two_pow_sub_one_eq_mod fmt.toNat 16
  rw [imageStart,BitVec.toNat_shiftLeft,Nat.shiftLeft_eq,mask]
  omega

theorem indexStart_le (fmt : u32) : indexStart fmt ≤ fmt.toNat % 0x4000 * 4 + 0x10000 := by
  have mask : (fmt &&& 0x3FFF).toNat = fmt.toNat % 0x4000 := by
    rw [BitVec.toNat_and]
    exact Nat.and_two_pow_sub_one_eq_mod fmt.toNat 14
  have shifted : ((fmt &&& 0x3FFF) <<< 2).toNat = fmt.toNat % 0x4000 * 4 := by
    rw [BitVec.toNat_shiftLeft,Nat.shiftLeft_eq,mask]
    omega
  unfold indexStart
  split <;> omega

theorem texSize_eq (is4x4 : textureMode fmt = TEXMODE_4X4) :
    texSize fmt = 4 * (blocks fmt).length ∧ 0 < (blocks fmt).length := by
  have quarter (k : Nat) : 8 <<< k = 4 * (8 <<< k >>> 2) ∧ 0 < 8 <<< k >>> 2 := by
    have positive : 0 < 2 ^ k := Nat.two_pow_pos k
    rw [Nat.shiftLeft_eq,Nat.shiftRight_eq_div_pow]
    omega
  obtain ⟨width,wide⟩ := quarter ((fmt >>> 20) &&& 0x07).toNat
  obtain ⟨height,high⟩ := quarter ((fmt >>> 23) &&& 0x07).toNat
  rw [length_blocks,texSize,is4x4,texSizes,imageSize,Nat.mul_one,Nat.shiftRight_eq_div_pow]
  change sizeX fmt = 4 * (sizeX fmt >>> 2) at width
  change sizeY fmt = 4 * (sizeY fmt >>> 2) at height
  change 0 < sizeX fmt >>> 2 at wide
  change 0 < sizeY fmt >>> 2 at high
  generalize sizeX fmt >>> 2 = columns at width wide ⊢
  generalize sizeY fmt >>> 2 = rows at height high ⊢
  refine ⟨?_,Nat.mul_pos high wide⟩
  rw [width,height]
  have area : 4 * columns * (4 * rows) = 4 * (rows * columns) * 2 ^ 2 := by ring
  rw [area,Nat.mul_div_cancel _ (by decide)]

theorem limit_toNat (mem : Memory) (some : 0 < texSize fmt) :
    limit mem fmt = 4 * min (texSize fmt) (0x20000 - imageStart fmt % 0x20000) := by
  have first : ((ms mem fmt).items.headD ⟨0,0,0⟩).len =
      min (texSize fmt) (0x20000 - imageStart fmt % 0x20000) := by
    unfold ms imageStart
    obtain ⟨rest,length⟩ := Nat.exists_eq_succ_of_ne_zero some.ne'
    rw [length]
    rfl
  rw [limit,first,Nat.shiftLeft_eq]
  omega

theorem words_iff (is4x4 : textureMode fmt = TEXMODE_4X4) (mem : Memory) :
    imageStart fmt % 0x20000 + 4 * liveBlocks mem fmt ≤ 0x20000 ↔
      imageStart fmt % 0x20000 + texSize fmt ≤ 0x20000 := by
  obtain ⟨size,some⟩ := texSize_eq is4x4
  have limited := limit_toNat mem (show 0 < texSize fmt by omega)
  have within : imageStart fmt % 0x20000 < 0x20000 := Nat.mod_lt _ (by decide)
  unfold liveBlocks
  omega

theorem live_eq (is4x4 : textureMode fmt = TEXMODE_4X4) (mem : Memory)
    (image : imageStart fmt % 0x20000 + texSize fmt ≤ 0x20000) :
    liveBlocks mem fmt = (blocks fmt).length := by
  obtain ⟨size,some⟩ := texSize_eq is4x4
  have limited := limit_toNat mem (show 0 < texSize fmt by omega)
  unfold liveBlocks
  omega

theorem blockBytes_iff (is4x4 : textureMode fmt = TEXMODE_4X4) (d : Nat) :
    (∀ access ∈ blockBytes mem fmt texpal d, access.Inside) ↔
      imageStart fmt % 0x20000 + 4 * (d + 1) ≤ 0x20000 ∧
        indexStart fmt + 2 * (d + 1) ≤ 0x20000 ∧
        ∀ entry < colourCount mem fmt d,
          palSlotOf (colourAddress mem fmt texpal d entry) < 6 := by
  have words : (∀ access ∈ (List.range 4).map fun byte => Access.texture
      (imageStart fmt / 0x20000 % 4) (imageStart fmt % 0x20000 + 4 * d + byte),
      access.Inside) ↔ imageStart fmt % 0x20000 + 4 * (d + 1) ≤ 0x20000 := by
    rw [List.forall_mem_map]
    constructor
    · intro inside
      have last := (inside 3 (by decide)).2
      omega
    · intro ends byte member
      have small := List.mem_range.mp member
      exact ⟨Nat.mod_lt _ (by decide),by omega⟩
  have halfwords : (∀ access ∈ (List.range 2).map fun byte => Access.texture 1
      (indexStart fmt + 2 * d + byte), access.Inside) ↔
      indexStart fmt + 2 * (d + 1) ≤ 0x20000 := by
    rw [List.forall_mem_map]
    constructor
    · intro inside
      have last := (inside 1 (by decide)).2
      omega
    · intro ends byte member
      have small := List.mem_range.mp member
      exact ⟨by decide,by omega⟩
  have coloured : (∀ access ∈ (List.range (colourCount mem fmt d)).flatMap
      fun entry => colourBytes (colourAddress mem fmt texpal d entry), access.Inside) ↔
      ∀ entry < colourCount mem fmt d,
        palSlotOf (colourAddress mem fmt texpal d entry) < 6 := by
    constructor
    · intro inside entry read
      refine (colourBytes_iff (palAddress_even is4x4 texpal _)).mp ?_
      intro access member
      exact inside access (List.mem_flatMap.mpr ⟨entry,List.mem_range.mpr read,member⟩)
    · intro slots access member
      obtain ⟨entry,read,here⟩ := List.mem_flatMap.mp member
      have below := slots entry (List.mem_range.mp read)
      exact (colourBytes_iff (palAddress_even is4x4 texpal _)).mpr below access here
  unfold blockBytes
  rw [List.forall_mem_append,List.forall_mem_append,words,halfwords,coloured,and_assoc]

/-- The scan reads inside the slots, the blocks behind the slot are black, and the two
ways to palette memory come to the same bytes. -/
structure StaysInside (mem : Memory) (fmt texpal : u32) : Prop where
  inside : ∀ access ∈ scanBytes mem fmt texpal, access.Inside
  black : textureMode fmt = TEXMODE_4X4 → ∀ d < (blocks fmt).length,
    0x20000 < imageStart fmt % 0x20000 + 4 * (d + 1) → limit mem fmt ≤ d
  agree : textureMode fmt = TEXMODE_4X4 → ∀ d < liveBlocks mem fmt,
    ∀ entry < colourCount mem fmt d, ∀ byte < 2,
      (MemSpan_TexPalette mem (colourAddress mem fmt texpal d entry).toNat 2
        false).address byte =
      mem.palSlot (palSlotOf (colourAddress mem fmt texpal d entry)) +
        (colourAddress mem fmt texpal d entry &&& 0x3FFF).toNat + byte

/-- The palette ends with the sixth slot, a 4x4 image with its slot, and the colours of
its blocks are in the six slots. -/
structure InsideSlots (mem : Memory) (fmt texpal : u32) : Prop where
  palette : palSize fmt * 2 = 0 ∨
    (paletteAddress fmt texpal).toNat % 0x20000 + palSize fmt * 2 ≤ 0x18000
  image : textureMode fmt = TEXMODE_4X4 →
    imageStart fmt % 0x20000 + texSize fmt ≤ 0x20000
  colours : textureMode fmt = TEXMODE_4X4 → ∀ d < (blocks fmt).length,
    ∀ entry < colourCount mem fmt d,
      palSlotOf (colourAddress mem fmt texpal d entry) < 6

theorem scanBytes_iff : (∀ access ∈ scanBytes mem fmt texpal, access.Inside) ↔
    (palSize fmt * 2 = 0 ∨
      (paletteAddress fmt texpal).toNat % 0x20000 + palSize fmt * 2 ≤ 0x18000) ∧
    (textureMode fmt = TEXMODE_4X4 → ∀ d < liveBlocks mem fmt,
      ∀ access ∈ blockBytes mem fmt texpal d, access.Inside) := by
  have blocks : (∀ access ∈ if textureMode fmt = TEXMODE_4X4 then
      (List.range (liveBlocks mem fmt)).flatMap (blockBytes mem fmt texpal) else [],
      access.Inside) ↔ (textureMode fmt = TEXMODE_4X4 → ∀ d < liveBlocks mem fmt,
      ∀ access ∈ blockBytes mem fmt texpal d, access.Inside) := by
    by_cases is4x4 : textureMode fmt = TEXMODE_4X4
    · rw [if_pos is4x4]
      constructor
      · intro inside _ d live access member
        exact inside access (List.mem_flatMap.mpr ⟨d,List.mem_range.mpr live,member⟩)
      · intro inside access member
        obtain ⟨d,live,here⟩ := List.mem_flatMap.mp member
        exact inside is4x4 d (List.mem_range.mp live) access here
    · rw [if_neg is4x4]
      exact iff_of_true (List.forall_mem_nil _) fun here => absurd here is4x4
  unfold scanBytes
  rw [List.forall_mem_append,List.forall_mem_append,List.forall_mem_append,paletteBytes_iff,
    blocks,and_iff_right (textureBytes_inside _ _),and_iff_right (textureBytes_inside _ _)]

theorem spans_agree {addr : u32} (even : addr.toNat % 2 = 0)
    (below : palSlotOf addr < 6) {byte : Nat} (small : byte < 2) :
    (MemSpan_TexPalette mem addr.toNat 2 false).address byte =
      mem.palSlot (palSlotOf addr) + (addr &&& 0x3FFF).toNat + byte := by
  have slot := palSlotOf_eq addr
  have kept : (addr.toNat + byte) / 0x4000 % 8 = palSlotOf addr := by omega
  have place : (addr.toNat + byte) % 0x4000 = addr.toNat % 0x4000 + byte := by omega
  rw [MemSpan_TexPalette,MemSpan.address_ofSlots _ _ addr.toNat 2 small,place,place_eq,
    kept,← Nat.add_assoc]
  have last : ¬ palSlotOf addr > 5 := by omega
  dsimp only
  rw [decide_eq_false last,Bool.false_and,if_neg Bool.false_ne_true]

/-- The scan stays inside the slots, and both ways to palette memory agree, exactly when
the palette, the image and the colours of a 4x4 texture end with the slots. -/
theorem scan_stays_inside_iff (mem : Memory) (fmt texpal : u32) :
    StaysInside mem fmt texpal ↔ InsideSlots mem fmt texpal := by
  constructor
  · intro stays
    obtain ⟨palette,read⟩ := scanBytes_iff.mp stays.inside
    have image (is4x4 : textureMode fmt = TEXMODE_4X4) :
        imageStart fmt % 0x20000 + texSize fmt ≤ 0x20000 := by
      obtain ⟨size,some⟩ := texSize_eq is4x4
      rw [← words_iff is4x4 mem]
      have within : imageStart fmt % 0x20000 < 0x20000 := Nat.mod_lt _ (by decide)
      cases live : liveBlocks mem fmt with
      | zero => omega
      | succ last =>
          have word := (blockBytes_iff is4x4 last).mp (read is4x4 last (by omega))
          exact word.1
    refine ⟨palette,image,?_⟩
    intro is4x4 d block
    rw [← live_eq is4x4 mem (image is4x4)] at block
    exact ((blockBytes_iff is4x4 d).mp (read is4x4 d block)).2.2
  · intro slots
    have i (is4x4 : textureMode fmt = TEXMODE_4X4) (d : Nat)
        (block : d < (blocks fmt).length) :
        imageStart fmt % 0x20000 + 4 * (d + 1) ≤ 0x20000 ∧
          indexStart fmt + 2 * (d + 1) ≤ 0x20000 := by
      have image := slots.image is4x4
      have half := indexStart_le fmt
      have start := imageStart_mod fmt
      obtain ⟨size,_some⟩ := texSize_eq is4x4
      omega
    have live (is4x4 : textureMode fmt = TEXMODE_4X4) :=
      live_eq is4x4 mem (slots.image is4x4)
    refine ⟨scanBytes_iff.mpr ⟨slots.palette,?_⟩,?_,?_⟩
    · intro is4x4 d block
      rw [live is4x4] at block
      obtain ⟨word,halfword⟩ := i is4x4 d block
      exact (blockBytes_iff is4x4 d).mpr ⟨word,halfword,slots.colours is4x4 d block⟩
    · intro is4x4 d block beyond
      have word := (i is4x4 d block).1
      exact absurd beyond (by omega)
    · intro is4x4 d block entry read byte small
      rw [live is4x4] at block
      exact spans_agree (palAddress_even is4x4 texpal _) (slots.colours is4x4 d block entry read)
        small

def blankMemory : Memory where
  host := fun _ => 0
  texPalSlot := fun _ => 0
  textureSlotAddr := fun _ => 0

/-- A texture of four blocks that starts eight bytes before the end of its slot. -/
theorem overrun_reads_behind_slot :
    ¬ ∀ (mem : Memory) (fmt texpal : u32), StaysInside mem fmt texpal := by
  intro all
  have stays := all blankMemory 0x14003FFF 0
  have third := (scanBytes_iff.mp stays.inside).2 rfl 2 (by decide)
  exact absurd ((blockBytes_iff rfl 2).mp third).1 (by decide)

def Access.address (mem : Memory) : Access → Nat
  | .texture slot off => mem.textureSlotAddr (Fin.ofNat 4 slot) + off
  | .palette _ slot off => mem.palSlot slot + off

section

variable {host : Nat → u8}
  (same : ∀ access ∈ scanBytes mem fmt texpal,
    host (access.address mem) = mem.host (access.address mem))

include same

variable {d i : Nat}

theorem same_image (inside : i < texSize fmt) :
    host ((ms mem fmt).address i) = mem.host ((ms mem fmt).address i) := by
  rw [ms,MemSpan_TexMem,MemSpan.address_ofSlots _ _ _ _ inside]
  refine same (.texture _ _) ?_
  refine List.mem_append_left _ (List.mem_append_left _ (List.mem_append_left _ ?_))
  exact List.mem_map.mpr ⟨i,List.mem_range.mpr inside,rfl⟩

theorem same_index (inside : i < indexSize fmt) :
    host ((msIndex mem fmt).address i) =
      mem.host ((msIndex mem fmt).address i) := by
  rw [msIndex,MemSpan_TexMem,MemSpan.address_ofSlots _ _ _ _ inside]
  refine same (.texture _ _) ?_
  refine List.mem_append_left _ (List.mem_append_left _ (List.mem_append_right _ ?_))
  exact List.mem_map.mpr ⟨i,List.mem_range.mpr inside,rfl⟩

theorem same_palette (inside : i < palSize fmt * 2) :
    host ((mspal mem fmt texpal).address i) =
      mem.host ((mspal mem fmt texpal).address i) := by
  have slot (addr : Nat) :
      (if addr / 0x4000 % 8 > 5 && !false then addr / 0x4000 % 8 - 5
        else addr / 0x4000 % 8) = spanSlot addr := by
    unfold spanSlot
    simp only [Bool.not_false,Bool.and_true,decide_eq_true_eq]
  rw [mspal,MemSpan_TexPalette,MemSpan.address_ofSlots _ _ _ _ inside]
  dsimp only
  rw [slot]
  refine same (.palette ((paletteAddress fmt texpal).toNat + i) _ _) ?_
  refine List.mem_append_left _ (List.mem_append_right _ ?_)
  exact List.mem_map.mpr ⟨i,List.mem_range.mpr inside,rfl⟩

theorem pal_congr : pal { mem with host := host } fmt texpal = pal mem fmt texpal := by
  refine pal_eq fun i inside => ?_
  have bound : i < min (mspal mem fmt texpal).size (palSize fmt * 2) := by
    change i < min (palSize fmt * 2) (palSize fmt * 2)
    omega
  have left := (mspal mem fmt texpal).dump_inside host (fun _ => 0) 0 _ bound
  have right := (mspal mem fmt texpal).dump_inside mem.host (fun _ => 0) 0 _ bound
  rw [Nat.zero_add] at left right
  exact left.trans ((same_palette same inside).trans right.symm)

theorem same_block (is4x4 : textureMode fmt = TEXMODE_4X4)
    (live : d < liveBlocks mem fmt) {access : Access}
    (member : access ∈ blockBytes mem fmt texpal d) :
    host (access.address mem) = mem.host (access.address mem) := by
  refine same access ?_
  unfold scanBytes
  rw [if_pos is4x4]
  exact List.mem_append_right _ (List.mem_flatMap.mpr ⟨d,List.mem_range.mpr live,member⟩)

theorem currBlock_same (is4x4 : textureMode fmt = TEXMODE_4X4) (live : d < liveBlocks mem fmt) :
    currBlock { mem with host := host } fmt d = currBlock mem fmt d := by
  obtain ⟨size,some⟩ := texSize_eq is4x4
  have map : mapPtr mem fmt = mem.textureSlotAddr
      (Fin.ofNat 4 (imageStart fmt / 0x20000 % 4)) + imageStart fmt % 0x20000 :=
    TexMem_head mem (by omega)
  change T1ReadLong host (mapPtr mem fmt + 4 * d) = _
  unfold currBlock
  refine T1ReadLong_congr fun off inside => ?_
  have byte := same_block same is4x4 live (List.mem_append_left _ (List.mem_append_left _
    (List.mem_map.mpr ⟨off,List.mem_range.mpr inside,rfl⟩)))
  rw [map]
  simp only [Access.address,← Nat.add_assoc] at byte
  exact byte

theorem pal1_same (is4x4 : textureMode fmt = TEXMODE_4X4) (live : d < liveBlocks mem fmt) :
    pal1 { mem with host := host } fmt d = pal1 mem fmt d := by
  have byte (off : Nat) (inside : off < 2) :
      host (slot1Ptr mem fmt + 2 * d + off) =
        mem.host (slot1Ptr mem fmt + 2 * d + off) := by
    have here := same_block same is4x4 live (List.mem_append_left _ (List.mem_append_right _
      (List.mem_map.mpr ⟨off,List.mem_range.mpr inside,rfl⟩)))
    have start : slot1Ptr mem fmt = mem.textureSlotAddr 1 + indexStart fmt := rfl
    simp only [Access.address,← Nat.add_assoc] at here
    rw [start]
    exact here
  exact T1ReadWord_congr (byte 0 (by omega)) (byte 1 (by omega))

theorem colour_same (is4x4 : textureMode fmt = TEXMODE_4X4) {entry : Nat}
    (live : d < liveBlocks mem fmt) (read : entry < colourCount mem fmt d) :
    PAL4X4 { mem with host := host } fmt texpal
        (pal1offset (pal1 mem fmt d) + entry) =
      PAL4X4 mem fmt texpal (pal1offset (pal1 mem fmt d) + entry) := by
  have byte (off : Nat) (inside : off < 2) :=
    same_block same is4x4 live (List.mem_append_right _ (List.mem_flatMap.mpr
      ⟨entry,List.mem_range.mpr read,List.mem_map.mpr ⟨off,List.mem_range.mpr inside,rfl⟩⟩))
  simp only [Access.address,← Nat.add_assoc] at byte
  exact T1ReadWord_congr (byte 0 (by omega)) (byte 1 (by omega))

variable (TEXFORMAT : TexCache_TexFormat)

theorem blockTexel_same
    (is4x4 : textureMode fmt = TEXMODE_4X4) (live : d < liveBlocks mem fmt) :
    blockTexel TEXFORMAT { mem with host := host } fmt texpal d =
      blockTexel TEXFORMAT mem fmt texpal d := by
  have colours := blockColors_congr TEXFORMAT (blockMode (pal1 mem fmt d))
    (fun entry => PAL4X4 { mem with host := host } fmt texpal
      (pal1offset (pal1 mem fmt d) + entry))
    (fun entry => PAL4X4 mem fmt texpal (pal1offset (pal1 mem fmt d) + entry))
    (fun entry read => colour_same same is4x4 live read)
  funext sy sx
  unfold blockTexel
  dsimp only
  rw [pal1_same same is4x4 live,colours,currBlock_same same is4x4 live]

theorem decode_same :
    decode TEXFORMAT { mem with host := host } fmt texpal =
      decode TEXFORMAT mem fmt texpal := by
  unfold decode
  by_cases is4x4 : textureMode fmt = TEXMODE_4X4
  · rw [if_pos is4x4,if_pos is4x4]
    refine decode4x4_congr TEXFORMAT fun d live => ?_
    exact blockTexel_same same TEXFORMAT is4x4 live
  · rw [if_neg is4x4,if_neg is4x4]
    refine decodeInOrder_congr TEXFORMAT ⟨?_,?_,?_,?_⟩
    · exact fun i _inside => congrFun (pal_congr same) i
    · exact fun i inside => same_image same inside
    · exact fun here => absurd here is4x4
    · exact fun here => absurd here is4x4

end

/-! ### The cache -/

theorem MemSpan.memcmp_congr (span : MemSpan) {first second : Nat → u8}
    (same : ∀ i < span.size, first (span.address i) = second (span.address i))
    (buf2 : Nat → u8) (pos size : Nat) :
    span.memcmp first buf2 pos size = span.memcmp second buf2 pos size := by
  rw [Bool.eq_iff_iff,← not_iff_not,Bool.not_eq_true,Bool.not_eq_true,
    MemSpan.memcmp_eq_false,MemSpan.memcmp_eq_false]
  refine forall₂_congr fun i inside => ?_
  rw [same i (by omega)]

theorem MemSpan.dump_congr (span : MemSpan) {first second : Nat → u8}
    (same : ∀ i < span.size, first (span.address i) = second (span.address i))
    (buf : Nat → u8) (pos size : Nat) :
    span.dump first buf pos size = span.dump second buf pos size := by
  funext place
  by_cases inside : pos ≤ place ∧ place < pos + min span.size size
  · obtain ⟨i,rfl⟩ := Nat.exists_eq_add_of_le inside.1
    rw [span.dump_inside _ _ _ _ (by omega),span.dump_inside _ _ _ _ (by omega),
      same i (by omega)]
  · rw [span.dump_outside _ _ _ _ (by omega),span.dump_outside _ _ _ _ (by omega)]

section

variable {host : Nat → u8}
  (same : ∀ access ∈ scanBytes mem fmt texpal,
    host (access.address mem) = mem.host (access.address mem))

include same

variable (TEXFORMAT : TexCache_TexFormat)

theorem accepts_same (curr : TexCacheItem) :
    accepts { mem with host := host } TEXFORMAT fmt texpal curr =
      accepts mem TEXFORMAT fmt texpal curr := by
  have image := (ms mem fmt).memcmp_congr (fun i inside => same_image same inside)
  have i := (msIndex mem fmt).memcmp_congr (fun i inside => same_index same inside)
  unfold accepts
  rw [pal_congr same,← image,← i]
  rfl

theorem lookup_same (items : List TexCacheItem) :
    lookup { mem with host := host } TEXFORMAT fmt texpal items =
      lookup mem TEXFORMAT fmt texpal items := by
  induction items with
  | nil => rfl
  | cons curr rest ih =>
      rw [lookup,lookup,ih,accepts_same same]

theorem newitem_same (heap : Nat → u8) :
    newitem { mem with host := host } TEXFORMAT fmt texpal heap =
      newitem mem TEXFORMAT fmt texpal heap := by
  have image := (ms mem fmt).dump_congr (fun i inside => same_image same inside)
  have i := (msIndex mem fmt).dump_congr (fun i inside => same_index same inside)
  unfold newitem
  dsimp only
  rw [pal_congr same,decode_same same,← image,← i]
  rfl

theorem scan_same (cache : TexCache) (TEXFORMAT : TexCache_TexFormat) (heap : Nat → u8) :
    cache.scan { mem with host := host } TEXFORMAT fmt texpal heap =
      cache.scan mem TEXFORMAT fmt texpal heap := by
  unfold TexCache.scan
  rw [lookup_same same,newitem_same same]

end

/-- A byte behind the slot of an A3I5 texture. -/
theorem scan_same_behind_slot :
    TexCache.new.scan { blankMemory with host := Function.update blankMemory.host 0x20000 1 }
        TexFormat_15bpp 0x04000000 0 (fun _ => 0) =
      TexCache.new.scan blankMemory TexFormat_15bpp 0x04000000 0 (fun _ => 0) := by
  refine scan_same ?_ TexCache.new TexFormat_15bpp (fun _ => 0)
  intro access member
  have elsewhere : ∀ access ∈ scanBytes blankMemory 0x04000000 0,
      access.address blankMemory ≠ 0x20000 := by decide +kernel
  exact Function.update_of_ne (elsewhere access member) _ _

end Desmume.Texture
