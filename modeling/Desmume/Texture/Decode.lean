/-
What `TexCache::scan` computes from a format, a palette base and the memory:
the spans that hold the texture, and the decoded texels.

Texture memory is four slots of 128 KiB and texture palette memory six slots of
16 KiB, each a pointer into host memory. The decoded buffer is a map from
positions to texels; `none` is a texel the decoder does not write. The host is
little-endian.
-/

import Desmume.Types
import Desmume.Lib.Gather

namespace Desmume.Texture

open Gather

section

/-- Host memory and the pointers of `MMU.texInfo`. -/
structure Memory where
  host : Nat → u8
  texPalSlot : Fin 6 → Nat
  textureSlotAddr : Fin 4 → Nat

/-- `texInfo.texPalSlot[slot]`. The array has six entries; the two indices past
its end are the first two entries of `textureSlotAddr`, which follows it. -/
def Memory.palSlot (mem : Memory) (slot : Nat) : Nat :=
  if inside : slot < 6 then mem.texPalSlot ⟨slot,inside⟩
  else mem.textureSlotAddr (Fin.ofNat 4 (slot - 6))

/-- `class MemSpan`: pieces that follow one another and make up `size` bytes. -/
structure MemSpan where
  items : List Piece
  size : Nat
  inOrder : InOrder 0 items
  covers : total items = size

/-- The pieces of a range of addresses in slots of `window` bytes. Every round
takes at least one byte, so `len` rounds are enough. -/
def spanItems (win : Nat) (slotPtr : Nat → Nat) : Nat → (ofs len currofs : Nat) → List Piece
  | 0, _, _, _ => []
  | rounds + 1, ofs, len, currofs =>
      if len = 0 then []
      else
        let start := ofs % win
        let part := min len (win - start)
        { ptr := slotPtr (ofs / win) + start, len := part, ofs := currofs } ::
          spanItems win slotPtr rounds (ofs + part) (len - part) (currofs + part)

theorem spanItems_inOrder (win : Nat) (slotPtr : Nat → Nat) (rounds ofs len currofs : Nat) :
    InOrder currofs (spanItems win slotPtr rounds ofs len currofs) := by
  induction rounds generalizing ofs len currofs with
  | zero => trivial
  | succ rounds ih =>
      rw [spanItems]
      by_cases done : len = 0
      · rw [if_pos done]
        trivial
      · rw [if_neg done]
        exact ⟨rfl,ih _ _ _⟩

variable {i win : Nat}

theorem total_spanItems (positive : 0 < win) (slotPtr : Nat → Nat)
    (rounds ofs len currofs : Nat) (enough : len ≤ rounds) :
    total (spanItems win slotPtr rounds ofs len currofs) = len := by
  induction rounds generalizing ofs len currofs with
  | zero => exact (Nat.le_zero.mp enough).symm
  | succ rounds ih =>
      rw [spanItems]
      by_cases done : len = 0
      · rw [if_pos done,done]
        rfl
      · have within := Nat.mod_lt ofs positive
        have rest := ih (ofs + min len (win - ofs % win))
          (len - min len (win - ofs % win)) (currofs + min len (win - ofs % win))
          (by omega)
        rw [if_neg done,total_cons,rest]
        dsimp only
        omega

/-- A range of addresses in slots of `window` bytes. -/
def MemSpan.ofSlots (win : Nat) (positive : 0 < win) (slotPtr : Nat → Nat)
    (ofs len : Nat) : MemSpan where
  items := spanItems win slotPtr len ofs len 0
  size := len
  inOrder := spanItems_inOrder win slotPtr len ofs len 0
  covers := total_spanItems positive slotPtr len ofs len 0 le_rfl

def MemSpan_TexMem (mem : Memory) (ofs len : Nat) : MemSpan :=
  MemSpan.ofSlots 0x20000 (by decide)
    (fun slot => mem.textureSlotAddr (Fin.ofNat 4 (slot % 4))) ofs len

/-- The slot number is masked to eight slots. Unless `silent`, the two slots
that do not exist are moved down by five. -/
def MemSpan_TexPalette (mem : Memory) (ofs len : Nat) (silent : Bool) : MemSpan :=
  MemSpan.ofSlots 0x4000 (by decide)
    (fun slot =>
      let slot := slot % 8
      mem.palSlot (if slot > 5 && !silent then slot - 5 else slot)) ofs len

def PALETTE_DUMP_SIZE : Nat := 96 * 1024

/-- The texture palette memory that `invalidate` looks at. -/
def paletteSpan (mem : Memory) : MemSpan :=
  MemSpan_TexPalette mem 0 PALETTE_DUMP_SIZE true

def MemSpan.address (span : MemSpan) (i : Nat) : Nat := Gather.address span.items i

variable (span : MemSpan) (host buf : Nat → u8) (pos size : Nat)

/-- `MemSpan::memcmp`: whether the span differs from the buffer at `position`. -/
def MemSpan.memcmp (buf2 : Nat → u8) (pos size : Nat) : Bool :=
  differs host (fun i => buf2 (pos + i)) span.items (min span.size size)

/-- `MemSpan::dump` to a buffer at `position`. -/
def MemSpan.dump : Nat → u8 :=
  copy host span.items buf pos (min span.size size)

theorem MemSpan.memcmp_eq_false (buf2 : Nat → u8) (pos size : Nat) :
    span.memcmp host buf2 pos size = false ↔
      ∀ i, i < min span.size size →
        host (span.address i) = buf2 (pos + i) := by
  have within : min (min span.size size) span.size = min span.size size := by omega
  rw [MemSpan.memcmp,differs_eq_false host _ span.items 0 _ span.inOrder,span.covers,within]
  simp only [Nat.zero_add,MemSpan.address]

theorem MemSpan.dump_inside (inside : i < min span.size size) :
    span.dump host buf pos size (pos + i) = host (span.address i) := by
  have reached : pos ≤ pos + i ∧
      pos + i < pos + min (min span.size size) span.size := by omega
  rw [MemSpan.dump,copy_apply,span.covers,if_pos reached,Nat.add_sub_cancel_left,
    MemSpan.address]

theorem MemSpan.dump_outside (outside : i < pos ∨ pos + min span.size size ≤ i) :
    span.dump host buf pos size i = buf i := by
  have unreached : ¬ (pos ≤ i ∧
      i < pos + min (min span.size size) span.size) := by omega
  rw [MemSpan.dump,copy_apply,span.covers,if_neg unreached]

theorem address_spanItems (positive : 0 < win) (slotPtr : Nat → Nat)
    (rounds ofs len currofs : Nat) (enough : len ≤ rounds) (inside : i < len) :
    Gather.address (spanItems win slotPtr rounds ofs len currofs) i =
      slotPtr ((ofs + i) / win) + (ofs + i) % win := by
  induction rounds generalizing ofs len currofs i with
  | zero => omega
  | succ rounds ih =>
      have notDone : len ≠ 0 := by omega
      have within := Nat.mod_lt ofs positive
      rw [spanItems,if_neg notDone]
      by_cases head : i < min len (win - ofs % win)
      · have split : ofs + i = win * (ofs / win) + (ofs % win + i) := by
          rw [← Nat.add_assoc,Nat.div_add_mod]
        have small : ofs % win + i < win := by omega
        rw [address_head _ _ head,split,Nat.mul_add_div positive,Nat.mul_add_mod,
          Nat.div_eq_of_lt small,Nat.mod_eq_of_lt small,Nat.add_zero,Nat.add_assoc]
      · obtain ⟨off,rfl⟩ := Nat.exists_eq_add_of_le (Nat.le_of_not_lt head)
        have here : off < len - min len (win - ofs % win) := by omega
        have later := ih (ofs + min len (win - ofs % win))
          (len - min len (win - ofs % win)) (currofs + min len (win - ofs % win))
          (by omega) here
        refine (address_behind _ _ off).trans (later.trans ?_)
        rw [Nat.add_assoc]

theorem MemSpan.address_ofSlots (positive : 0 < win) (slotPtr : Nat → Nat)
    (ofs len : Nat) (inside : i < len) :
    (MemSpan.ofSlots win positive slotPtr ofs len).address i =
      slotPtr ((ofs + i) / win) + (ofs + i) % win :=
  address_spanItems positive slotPtr len ofs len 0 le_rfl inside

theorem spanItems_lens (win : Nat) (first second : Nat → Nat) (rounds ofs len currofs : Nat) :
    (spanItems win first rounds ofs len currofs).map Piece.len =
      (spanItems win second rounds ofs len currofs).map Piece.len := by
  induction rounds generalizing ofs len currofs with
  | zero => rfl
  | succ rounds ih =>
      simp only [spanItems]
      by_cases done : len = 0
      · rw [if_pos done,if_pos done]
      · rw [if_neg done,if_neg done,List.map_cons,List.map_cons,ih]

theorem MemSpan_TexMem_lens (first second : Memory) (ofs len : Nat) :
    (MemSpan_TexMem first ofs len).items.map Piece.len =
      (MemSpan_TexMem second ofs len).items.map Piece.len :=
  spanItems_lens _ _ _ _ _ _ _

end

inductive TexCache_TexFormat
  | TexFormat_32bpp
  | TexFormat_15bpp
  deriving DecidableEq, Repr

inductive TextureMode
  | TEXMODE_NONE
  | TEXMODE_A3I5
  | TEXMODE_I2
  | TEXMODE_I4
  | TEXMODE_I8
  | TEXMODE_4X4
  | TEXMODE_A5I3
  | TEXMODE_16BPP
  deriving DecidableEq, Repr

open TexCache_TexFormat TextureMode

variable (TEXFORMAT : TexCache_TexFormat) (mem : Memory) (fmt texpal : u32) (col : u16) (d : Nat)

def textureMode : TextureMode :=
  match ((fmt >>> 26) &&& 0x07).toNat with
  | 1 => TEXMODE_A3I5
  | 2 => TEXMODE_I2
  | 3 => TEXMODE_I4
  | 4 => TEXMODE_I8
  | 5 => TEXMODE_4X4
  | 6 => TEXMODE_A5I3
  | 7 => TEXMODE_16BPP
  | _ => TEXMODE_NONE

def sizeX : Nat := 8 <<< ((fmt >>> 20) &&& 0x07).toNat

def sizeY : Nat := 8 <<< ((fmt >>> 23) &&& 0x07).toNat

def imageSize : Nat := sizeX fmt * sizeY fmt

def palSizes : TextureMode → Nat
  | TEXMODE_NONE => 0
  | TEXMODE_A3I5 => 32
  | TEXMODE_I2 => 4
  | TEXMODE_I4 => 16
  | TEXMODE_I8 => 256
  | TEXMODE_4X4 => 0
  | TEXMODE_A5I3 => 8
  | TEXMODE_16BPP => 0

def texSizes : TextureMode → Nat
  | TEXMODE_NONE => 0
  | TEXMODE_A3I5 => 4
  | TEXMODE_I2 => 1
  | TEXMODE_I4 => 2
  | TEXMODE_I8 => 4
  | TEXMODE_4X4 => 1
  | TEXMODE_A5I3 => 4
  | TEXMODE_16BPP => 8

def paletteAddress : u32 :=
  match textureMode fmt with
  | TEXMODE_I2 => texpal <<< 3
  | _ => texpal <<< 4

def palSize : Nat := palSizes (textureMode fmt)

def texSize : Nat := (imageSize fmt * texSizes (textureMode fmt)) >>> 2

def ms : MemSpan :=
  MemSpan_TexMem mem ((fmt &&& 0xFFFF) <<< 3).toNat (texSize fmt)

def mspal : MemSpan :=
  MemSpan_TexPalette mem (paletteAddress fmt texpal).toNat (palSize fmt * 2) false

def indexBase : u32 := if fmt &&& 0xC000 = 0x8000 then 0x30000 else 0x20000

def indexOffset : u32 := (fmt &&& 0x3FFF) <<< 2

def indexSize : Nat :=
  if textureMode fmt = TEXMODE_4X4 then imageSize fmt >>> 3 else 0

def msIndex : MemSpan :=
  MemSpan_TexMem mem (indexOffset fmt + indexBase fmt).toNat (indexSize fmt)

def pal : Nat → u8 :=
  (mspal mem fmt texpal).dump mem.host (fun _ => 0) 0 (palSize fmt * 2)

def material_5bit_to_8bit : List u8 :=
  [0x00,0x08,0x10,0x18,0x21,0x29,0x31,0x39,
    0x42,0x4A,0x52,0x5A,0x63,0x6B,0x73,0x7B,
    0x84,0x8C,0x94,0x9C,0xA5,0xAD,0xB5,0xBD,
    0xC6,0xCE,0xD6,0xDE,0xE7,0xEF,0xF7,0xFF]

def material_3bit_to_8bit : List u8 :=
  [0x00,0x24,0x49,0x6D,0x92,0xB6,0xDB,0xFF]

def material_3bit_to_5bit : List u8 :=
  [0,4,8,13,17,22,26,31]

/-- `RGB15TO24_BITLOGIC`, of which the table holds the values. -/
def color_15bit_to_24bit : u32 :=
  let component (shift : Nat) : u32 :=
    (material_5bit_to_8bit.getD ((col >>> shift) &&& 0x1F).toNat 0).setWidth 32
  component 10 <<< 16 ||| component 5 <<< 8 ||| component 0

def RGB15TO32 (alpha8 : u8) : u32 :=
  alpha8.setWidth 32 <<< 24 ||| color_15bit_to_24bit (col &&& 0x7FFF)

def RGB15TO6665 (alpha5 : u8) : u32 :=
  let r : u32 := (col &&& 0x001F).setWidth 32
  let g : u32 := ((col &&& 0x03E0) >>> 5).setWidth 32
  let b : u32 := ((col &&& 0x7C00) >>> 10).setWidth 32
  alpha5.setWidth 32 <<< 24 ||| ((b <<< 1) + 1) <<< 16 ||| ((g <<< 1) + 1) <<< 8 |||
    ((r <<< 1) + 1)

def CONVERT (color : u16) (alpha : u8) : u32 :=
  match TEXFORMAT with
  | TexFormat_32bpp => RGB15TO32 color alpha
  | TexFormat_15bpp => RGB15TO6665 color alpha

def opaqueColor : TexCache_TexFormat → u8
  | TexFormat_32bpp => 0xFF
  | TexFormat_15bpp => 0x1F

def palZeroTransparent : u8 :=
  (1 - ((fmt >>> 29) &&& 1).setWidth 8) * opaqueColor TEXFORMAT

def byteTexels (pal : Nat → u8) (adr : u8) : List u32 :=
  let entry (bits : u8) : u16 := T1ReadWord pal (bits.toNat * 2)
  let texel (bits : u8) : u32 :=
    CONVERT TEXFORMAT (entry bits)
      (if bits = 0 then palZeroTransparent TEXFORMAT fmt else opaqueColor TEXFORMAT)
  match textureMode fmt with
  | TEXMODE_A3I5 =>
      let c := entry (adr &&& 31)
      let alpha := (adr >>> 5).toNat
      match TEXFORMAT with
      | TexFormat_15bpp => [RGB15TO6665 c (material_3bit_to_5bit.getD alpha 0)]
      | TexFormat_32bpp => [RGB15TO32 c (material_3bit_to_8bit.getD alpha 0)]
  | TEXMODE_I2 =>
      [texel (adr &&& 0x3),texel ((adr >>> 2) &&& 0x3),texel ((adr >>> 4) &&& 0x3),
        texel ((adr >>> 6) &&& 0x3)]
  | TEXMODE_I4 => [texel (adr &&& 0xF),texel (adr >>> 4)]
  | TEXMODE_I8 => [texel adr]
  | TEXMODE_A5I3 =>
      let c := entry (adr &&& 0x07)
      let alpha := adr >>> 3
      match TEXFORMAT with
      | TexFormat_15bpp => [RGB15TO6665 c alpha]
      | TexFormat_32bpp => [RGB15TO32 c (material_5bit_to_8bit.getD alpha.toNat 0)]
  | TEXMODE_NONE | TEXMODE_4X4 | TEXMODE_16BPP => []

def wordTexel (c : u16) : u32 :=
  CONVERT TEXFORMAT (c &&& 0x7FFF)
    (if c &&& 0x8000 ≠ 0 then opaqueColor TEXFORMAT else 0)

def itemTexels (host pal : Nat → u8) (item : Piece) : List u32 :=
  if textureMode fmt = TEXMODE_16BPP then
    (List.range (item.len >>> 1)).map fun x =>
      wordTexel TEXFORMAT (T1ReadWord host (item.ptr + 2 * x))
  else
    (List.range item.len).flatMap fun x =>
      byteTexels TEXFORMAT fmt pal (host (item.ptr + x))

def decodeInOrder :
    Nat → Option u32 := fun pos =>
  ((ms mem fmt).items.flatMap
    (itemTexels TEXFORMAT fmt mem.host (pal mem fmt texpal)))[pos]?

def palAddress (off : Nat) : u32 :=
  paletteAddress fmt texpal + BitVec.ofNat 32 (off * 2)

def palSlotOf (addr : u32) : Nat := ((addr >>> 14) &&& 0x7).toNat

def PAL4X4 (off : Nat) : u16 :=
  let addr := palAddress fmt texpal off
  T1ReadWord mem.host (mem.palSlot (palSlotOf addr) + (addr &&& 0x3FFF).toNat)

/-- Two colours mixed with weights of eighths, as a 15-bit colour. -/
def mixColors (first second firstWeight secondWeight : u32) : u16 :=
  let component (shift : Nat) : u32 :=
    (((first >>> shift) &&& 0xFF) * firstWeight + ((second >>> shift) &&& 0xFF) * secondWeight)
      >>> 6
  (component 0 ||| component 8 <<< 5 ||| component 16 <<< 10).setWidth 16

def averageColor (first second : u32) : u32 :=
  let part (mask : u32) : u32 := (((first &&& mask) + (second &&& mask)) >>> 1) &&& mask
  part 0x00FF00FF ||| part 0x0000FF00 ||| 0xFF000000

def reduceColor (color : u32) : u32 :=
  ((color >>> 2) &&& 0x003F3F3F) ||| ((color >>> 3) &&& 0x1F000000)

/-- `tmp_col`: the four colours of a block, from its first two colours and its
palette entries. -/
def tmp_col (mode : Nat) (entry : Nat → u16) (first second : u32) : Fin 4 → u32 :=
  match mode with
  | 0 => ![first,second,RGB15TO32 (entry 2) 0xFF,RGB15TO32 0x7FFF 0x00]
  | 1 => ![first,second,averageColor first second,0x00FFFFFF]
  | 2 => ![first,second,RGB15TO32 (entry 2) 0xFF,RGB15TO32 (entry 3) 0xFF]
  | _ =>
      ![first,second,RGB15TO32 (mixColors first second 5 3) 0xFF,
        RGB15TO32 (mixColors first second 3 5) 0xFF]

def blockColors (mode : Nat) (entry : Nat → u16) : Fin 4 → u32 :=
  let colors := tmp_col mode entry (RGB15TO32 (entry 0) 0xFF) (RGB15TO32 (entry 1) 0xFF)
  match TEXFORMAT with
  | TexFormat_32bpp => colors
  | TexFormat_15bpp => fun i => reduceColor (colors i)

def entriesRead : Nat → Nat
  | 0 => 3
  | 1 => 2
  | 2 => 4
  | _ => 2

def mapPtr : Nat :=
  ((ms mem fmt).items.headD ⟨0,0,0⟩).ptr

/-- `items[0].len<<2`: the block number from which on texels are black. -/
def limit : Nat :=
  ((ms mem fmt).items.headD ⟨0,0,0⟩).len <<< 2

def slot1Ptr : Nat :=
  mem.textureSlotAddr 1 +
    if fmt &&& 0xC000 = 0x8000 then ((fmt &&& 0x3FFF) <<< 2).toNat + 0x10000
    else ((fmt &&& 0x3FFF) <<< 2).toNat

def currBlock : u32 :=
  T1ReadLong mem.host (mapPtr mem fmt + 4 * d)

def pal1 : u16 :=
  T1ReadWord mem.host (slot1Ptr mem fmt + 2 * d)

def pal1offset (pal1 : u16) : Nat := ((pal1 &&& 0x3FFF) <<< 1).toNat

def blockMode (pal1 : u16) : Nat := (pal1 >>> 14).toNat

/-- The texel of a block at row `sy` and column `sx`. -/
def blockTexel (sy sx : Nat) : u32 :=
  let i := pal1 mem fmt d
  let colors := blockColors TEXFORMAT (blockMode i) fun entry =>
    PAL4X4 mem fmt texpal (pal1offset i + entry)
  let currRow := (currBlock mem fmt d >>> (sy <<< 3)) &&& 0xFF
  colors (Fin.ofNat 4 ((currRow >>> (sx * 2)) &&& 3).toNat)

structure Decoding where
  d : Nat
  dead : Bool
  dwdst : Nat → Option u32

/-- Sets the sixteen texels of block `x` of row `y`. -/
def setBlock (sizeX y x : Nat) (texel : Nat → Nat → u32) (dwdst : Nat → Option u32) :
    Nat → Option u32 :=
  (List.range 4).foldl (fun dwdst sy =>
    (List.range 4).foldl (fun dwdst sx =>
      Function.update dwdst ((x <<< 2) + ((y <<< 2) + sy) * sizeX + sx) (some (texel sy sx)))
      dwdst) dwdst

def decodeBlock (decoding : Decoding) (block : Nat × Nat) : Decoding :=
  let dead := decoding.dead || decide (limit mem fmt ≤ decoding.d)
  { d := decoding.d + 1
    dead := dead
    dwdst := setBlock (sizeX fmt) block.1 block.2
      (if dead then fun _ _ => 0 else blockTexel TEXFORMAT mem fmt texpal decoding.d)
      decoding.dwdst }

def blocks : List (Nat × Nat) :=
  (List.range (sizeY fmt >>> 2)).flatMap fun y =>
    (List.range (sizeX fmt >>> 2)).map fun x => (y, x)

def decode4x4 : Nat → Option u32 :=
  ((blocks fmt).foldl (decodeBlock TEXFORMAT mem fmt texpal)
    { d := 0, dead := false, dwdst := fun _ => none }).dwdst

def decode : Nat → Option u32 :=
  if textureMode fmt = TEXMODE_4X4 then decode4x4 TEXFORMAT mem fmt texpal
  else decodeInOrder TEXFORMAT mem fmt texpal

end Desmume.Texture
