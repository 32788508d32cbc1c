/-
The register writes of one 2D engine, as the ARM9 makes them, and the pixels of
one background on one line: `modeRender` and what it calls.
-/

import Desmume.Gpu.Engine
import Desmume.Vram.Address

namespace Desmume.Gpu

section

open Function (update)

/-- The value with byte `index` replaced. -/
def setByte {width : Nat} (val : BitVec width) (i : Nat) (byte : u8) : BitVec width :=
  (val &&& ~~~(BitVec.ofNat width 0xFF <<< (8 * i))) |||
    (byte.setWidth width <<< (8 * i))

/-- A write to the registers of one engine. A suffix names the part of the
register that is written. -/
inductive Write
  | DISPCNT (val : u32)
  | DISPCNT_low (val : u16)
  | DISPCNT_high (val : u16)
  | DISPCNT_byte (i : Fin 4) (val : u8)
  | BGxCNT (num : Fin 4) (val : u16)
  | BGxCNT_byte (num : Fin 4) (i : Fin 2) (val : u8)
  | BGxOFS (num : Fin 4) (hofs vofs : u16)
  | BGxPARMS (layer : Fin 2) (parms : BGxPARMS)
  | BGxX (layer : Fin 2) (val : u32)
  | BGxY (layer : Fin 2) (val : u32)
  | WINxH (win : Fin 2) (val : u16)
  | WINxH0 (win : Fin 2) (val : u8)
  | WINxH1 (win : Fin 2) (val : u8)
  | WINxV (win : Fin 2) (val : u16)
  | WINxV0 (win : Fin 2) (val : u8)
  | WINxV1 (win : Fin 2) (val : u8)
  | WININ (win : Fin 2) (val : u8)
  | WINOUT (val : u8)
  | WINOBJ (val : u8)
  | BLDCNT (val : u16)
  | BLDCNT_byte (i : Fin 2) (val : u8)
  | BLDALPHA_EVA (val : u8)
  | BLDALPHA_EVB (val : u8)
  | BLDY (val : u8)
  | MASTER_BRIGHT (val : u16)
  | MASTER_BRIGHT_byte (i : Fin 2) (val : u8)

/-- `val & 0x1F`, and bit 5 for the effects. -/
def windowControl (val : u8) : WindowControl :=
  { layers := val &&& 0x1F, special := val.getLsbD 5 }

namespace GPU

variable (gpu : GPU)

variable (win : Fin 2) (val : u8) (layer : Fin 2)

def GPU_setWINxH0 : GPU :=
  { gpu with
    WINH0 := update gpu.WINH0 win val
    need_update_winh := update gpu.need_update_winh win true }

def GPU_setWINxH1 : GPU :=
  { gpu with
    WINH1 := update gpu.WINH1 win val
    need_update_winh := update gpu.need_update_winh win true }

def GPU_setWINxH (val : u16) : GPU :=
  (gpu.GPU_setWINxH0 win ((val >>> 8).setWidth 8)).GPU_setWINxH1 win (val.setWidth 8)

def GPU_setWINxV0 : GPU :=
  { gpu with WINV0 := update gpu.WINV0 win val }

def GPU_setWINxV1 : GPU :=
  { gpu with WINV1 := update gpu.WINV1 win val }

def GPU_setWINxV (val : u16) : GPU :=
  (gpu.GPU_setWINxV0 win ((val >>> 8).setWidth 8)).GPU_setWINxV1 win (val.setWidth 8)

/-- `GPU_setWININ0` and `GPU_setWININ1`; `GPU_setWININ` is the two of them. -/
def GPU_setWININ : GPU :=
  { gpu with WININ := update gpu.WININ win (windowControl val) }

/-- `GPU_setWINOUT16` is this and `GPU_setWINOBJ`. -/
def GPU_setWINOUT : GPU := { gpu with WINOUT := windowControl val }

def GPU_setWINOBJ : GPU := { gpu with WINOBJ := windowControl val }

def GPU_setBLDCNT (val : u16) : GPU := { gpu with BLDCNT := val }.SetupFinalPixelBlitter

def GPU_setBLDCNT_LOW : GPU :=
  { gpu with BLDCNT := (gpu.BLDCNT &&& (0xFF00 : u16)) ||| val.setWidth 16 }.SetupFinalPixelBlitter

def GPU_setBLDCNT_HIGH : GPU :=
  { gpu with
    BLDCNT := (gpu.BLDCNT &&& (0xFF : u16)) ||| (val.setWidth 16 <<< 8) }.SetupFinalPixelBlitter

def storeBLDCNT (val : u16) : GPU :=
  { gpu with dispx_st := { gpu.dispx_st with BLDCNT := val } }

def writeBLDCNT_byte (i : Fin 2) (val : u8) : GPU :=
  let set := if i = 0 then gpu.GPU_setBLDCNT_HIGH val else gpu.GPU_setBLDCNT_LOW val
  set.storeBLDCNT (setByte gpu.dispx_st.BLDCNT i.val val)

/-- `val & 0x1F`, at most 16. -/
def factorOf : Factor := clamp16 (val.toNat % 32)

def storeMASTER_BRIGHT (val : u16) : GPU :=
  { gpu with dispx_st := { gpu.dispx_st with MASTER_BRIGHT := val } }

def brightFactor (val : u16) : Fin 32 := field val 0 32

def brightMode (val : u16) : Fin 4 := field val 14 4

def GPU_setMasterBrightness (val : u16) : GPU :=
  { gpu with MasterBrightFactor := brightFactor val, MasterBrightMode := brightMode val }

def setParms (parms : BGxPARMS) : GPU :=
  { gpu with
    dispx_st := { gpu.dispx_st with
      dispx_BGPARMS := update gpu.dispx_st.dispx_BGPARMS layer parms } }

/-- `refreshAffineStartRegs(layer, 0)`. -/
def refreshX : GPU :=
  gpu.setParms layer
    { gpu.dispx_st.dispx_BGPARMS layer with BGxX := (gpu.affineInfo layer).1 }

/-- `refreshAffineStartRegs(layer, 1)`. -/
def refreshY : GPU :=
  gpu.setParms layer
    { gpu.dispx_st.dispx_BGPARMS layer with BGxY := (gpu.affineInfo layer).2 }

/-- `refreshAffineStartRegs(-1, -1)`. -/
def refreshAffineStartRegs : GPU :=
  (((gpu.refreshX 0).refreshY 0).refreshX 1).refreshY 1

/-- `setAffineStart(layer, 0, val)`. -/
def setAffineStartX (val : u32) : GPU :=
  { gpu with
    affineInfo := update gpu.affineInfo layer (val, (gpu.affineInfo layer).2) }.refreshX layer

/-- `setAffineStart(layer, 1, val)`. -/
def setAffineStartY (val : u32) : GPU :=
  { gpu with
    affineInfo := update gpu.affineInfo layer ((gpu.affineInfo layer).1, val) }.refreshY layer

def storeBGxOFS (num : Fin 4) (hofs vofs : u16) : GPU :=
  { gpu with
    dispx_st := { gpu.dispx_st with
      BGxHOFS := update gpu.dispx_st.BGxHOFS num hofs
      BGxVOFS := update gpu.dispx_st.BGxVOFS num vofs } }

/-- The scroll registers and the affine parameters only stand in memory, so
their stores are of any width; so are byte stores to the reference points. -/
def write (cfg : Config) : Write → GPU
  | .DISPCNT val => gpu.GPU_setVideoProp cfg val
  | .DISPCNT_low val =>
      gpu.GPU_setVideoProp cfg ((gpu.dispCnt.val &&& (0xFFFF0000 : u32)) ||| val.setWidth 32)
  | .DISPCNT_high val =>
      gpu.GPU_setVideoProp cfg
        ((gpu.dispCnt.val &&& (0xFFFF : u32)) ||| (val.setWidth 32 <<< 16))
  | .DISPCNT_byte i val => gpu.storeDISPCNT (setByte gpu.dispCnt.val i.val val)
  | .BGxCNT num val => gpu.GPU_setBGProp cfg num val
  | .BGxCNT_byte num i val => gpu.storeBGxCNT num (setByte (gpu.bgcnt num).val i.val val)
  | .BGxOFS num hofs vofs => gpu.storeBGxOFS num hofs vofs
  | .BGxPARMS layer parms => gpu.setParms layer parms
  | .BGxX layer val => gpu.setAffineStartX layer val
  | .BGxY layer val => gpu.setAffineStartY layer val
  | .WINxH win val => gpu.GPU_setWINxH win val
  | .WINxH0 win val => gpu.GPU_setWINxH0 win val
  | .WINxH1 win val => gpu.GPU_setWINxH1 win val
  | .WINxV win val => gpu.GPU_setWINxV win val
  | .WINxV0 win val => gpu.GPU_setWINxV0 win val
  | .WINxV1 win val => gpu.GPU_setWINxV1 win val
  | .WININ win val => gpu.GPU_setWININ win val
  | .WINOUT val => gpu.GPU_setWINOUT val
  | .WINOBJ val => gpu.GPU_setWINOBJ val
  | .BLDCNT val => (gpu.GPU_setBLDCNT val).storeBLDCNT val
  | .BLDCNT_byte i val => gpu.writeBLDCNT_byte i val
  | .BLDALPHA_EVA val => { gpu with BLDALPHA_EVA := factorOf val }
  | .BLDALPHA_EVB val => { gpu with BLDALPHA_EVB := factorOf val }
  | .BLDY val => { gpu with BLDY_EVY := factorOf val }
  | .MASTER_BRIGHT val => (gpu.GPU_setMasterBrightness val).storeMASTER_BRIGHT val
  | .MASTER_BRIGHT_byte i val =>
      gpu.storeMASTER_BRIGHT (setByte gpu.dispx_st.MASTER_BRIGHT i.val val)

end GPU

def REG_DISPx.zero : REG_DISPx where
  dispx_DISPCNT := ⟨0⟩
  dispx_BGxCNT := fun _ => ⟨0⟩
  BGxHOFS := fun _ => 0
  BGxVOFS := fun _ => 0
  dispx_BGPARMS := fun _ => { BGxPA := 0, BGxPB := 0, BGxPC := 0, BGxPD := 0, BGxX := 0, BGxY := 0 }
  BLDCNT := 0
  MASTER_BRIGHT := 0

/-- The engine after `GPU_Reset`, with all registers clear. -/
def GPU_Reset (core : Core) : GPU where
  core := core
  dispx_st := .zero
  LayersEnable := fun _ => false
  BGs := fun _ => []
  background := fun _ =>
    { BG_bmp_large_ram := 0, BG_bmp_ram := 0, BG_tile_ram := 0, BG_map_ram := 0,
      BGExtPalSlot := 0, BGTypes := .Invalid, BGSize := (256, 256) }
  h_win := fun _ _ => false
  curr_win := fun _ => false
  need_update_winh := fun _ => false
  dispMode := 0
  vramBlock := 0
  VRAMaddr := 0
  sprBoundary := 0
  sprBMPBoundary := 0
  spriteRenderMode := .SPRITE_1D
  WINH0 := fun _ => 0
  WINH1 := fun _ => 0
  WINV0 := fun _ => 0
  WINV1 := fun _ => 0
  WININ := fun _ => { layers := 0, special := false }
  WINOUT := { layers := 0, special := false }
  WINOBJ := { layers := 0, special := false }
  WIN_ENABLED := fun _ => false
  WINOBJ_ENABLED := false
  BLDCNT := 0
  BLDALPHA_EVA := 0
  BLDALPHA_EVB := 0
  BLDY_EVY := 0
  setFinalColor_funcNum := { FUNC := .NoBlend, WINDOW := false }
  MasterBrightMode := 0
  MasterBrightFactor := 0
  affineInfo := fun _ => (0, 0)
  blend1 := false
  currLine := 0
  currDst := .null
  tempScanlineBuffer := fun _ => 0

end

/-- What a line is rendered from besides the registers. Pointers are offsets
from `ARM9_LCD`, with the blank memory behind it. -/
structure VideoMemory where
  ARM9_LCD : IoMem
  mapping : Vram.Mapping
  ARM9_VMEM : IoMem
  ARM9_OAM : IoMem
  /-- the 3D picture, four bytes a pixel and 256 pixels a line -/
  screen3D : Nat → u8

namespace VideoMemory

variable (vid : VideoMemory)

variable (addr : Int)

/-- `MMU_gpu_map(addr)` as an offset from `ARM9_LCD`. -/
def gpuMap : Nat := Vram.MMU_gpu_map vid.mapping (BitVec.ofInt 32 addr)

def byteAt : u8 := vid.ARM9_LCD (vid.gpuMap addr)

def wordAt : u16 := T1ReadWord vid.ARM9_LCD (vid.gpuMap addr)

end VideoMemory

abbrev Palette := Nat → u16

/-- `MMU.ARM9_VMEM + core * 0x400`. -/
def bgPalette (vid : VideoMemory) (core : Core) : Palette :=
  fun i => T1ReadWord vid.ARM9_VMEM (core.number.val * 0x400 + 2 * i)

/-- `MMU.ExtPal[core][slot]`. -/
def extPalette (vid : VideoMemory) (core : Core) (slot : Fin 4) : Palette :=
  fun i => T1ReadWord vid.ARM9_LCD (vid.mapping.ExtPal core.number slot + 2 * i)

structure TILEENTRY where
  val : u16

namespace TILEENTRY

variable (entry : TILEENTRY)

def TileNum : Fin 1024 := field entry.val 0 1024
def HFlip : Bool := entry.val.getLsbD 10
def VFlip : Bool := entry.val.getLsbD 11
def Palette : Fin 16 := field entry.val 12 16

end TILEENTRY

def textEntry (vid : VideoMemory) (map : Nat) (bg : Background) (screenSize : Fin 4)
    (xoff YBG : u16) : TILEENTRY :=
  let row := ((YBG &&& (BitVec.ofNat 16 bg.BGSize.2 - 1)) >>> 3).toNat
  let column := ((xoff &&& (BitVec.ofNat 16 bg.BGSize.1 - 1)) >>> 3).toNat
  let rowAddress := map + row % 32 * 64 + if row > 31 then 0x200 * 2 ^ screenSize.val else 0
  let addr := rowAddress + column % 32 * 2 + if column > 31 then 32 * 32 * 2 else 0
  ⟨vid.wordAt addr⟩

def textPixel16 (vid : VideoMemory) (pal : Palette) (tile : Nat) (entry : TILEENTRY)
    (xoff YBG : u16) : Option u16 :=
  let yoff := YBG.toNat % 8 * 4
  let line := vid.gpuMap
    (tile + entry.TileNum.val * 0x20 + if entry.VFlip then 7 * 4 - yoff else yoff)
  let pair := xoff.toNat % 8 / 2
  let currLine := (vid.ARM9_LCD (line + if entry.HFlip then 3 - pair else pair)).toNat
  let upper := (xoff.toNat % 2 == 1) != entry.HFlip
  let i := if upper then currLine / 16 else currLine % 16
  if i = 0 then none else some (pal (i + entry.Palette.val * 16))

def textPixel256 (vid : VideoMemory) (pal : Palette) (extended : Bool) (tile : Nat)
    (entry : TILEENTRY) (xoff YBG : u16) : Option u16 :=
  let yoff := YBG.toNat % 8 * 8
  let line := vid.gpuMap
    (tile + entry.TileNum.val * 0x40 + if entry.VFlip then 7 * 8 - yoff else yoff)
  let column := xoff.toNat % 8
  let i := (vid.ARM9_LCD (line + if entry.HFlip then 7 - column else column)).toNat
  if i = 0 then none
  else some (pal (i + if extended then entry.Palette.val * 256 else 0))

variable (gpu : GPU) (num : Fin 4)

def textPixel (vid : VideoMemory) (num : Fin 4) (xoff YBG : u16) : Option u16 :=
  let bg := gpu.background num
  let cnt := gpu.bgcnt num
  let entry := textEntry vid bg.BG_map_ram bg cnt.ScreenSize xoff YBG
  if cnt.Palette_256 then
    let extended := gpu.dispCnt.ExBGxPalette_Enable
    let pal := if extended then extPalette vid gpu.core bg.BGExtPalSlot
      else bgPalette vid gpu.core
    textPixel256 vid pal extended bg.BG_tile_ram entry xoff YBG
  else textPixel16 vid (bgPalette vid gpu.core) bg.BG_tile_ram entry xoff YBG

def opaquePixels (pixel : Nat → Option u16) : List (Nat × u16) :=
  (List.range 256).filterMap (fun x => (pixel x).map (fun color => (x, color)))

def lineText (vid : VideoMemory) (num : Fin 4) : List (Nat × u16) :=
  let vofs := gpu.dispx_st.BGxVOFS num &&& (0x1FF : u16)
  let hofs := gpu.dispx_st.BGxHOFS num &&& (0x1FF : u16)
  opaquePixels (fun x =>
    textPixel gpu vid num (hofs + BitVec.ofNat 16 x) (BitVec.ofNat 16 gpu.currLine + vofs))

/-- `ROTOCOORD`: eight bits of fraction, then twenty bits of signed integer. -/
def rotoInteger (val : u32) : Int := ((val >>> 8).setWidth 20).toInt

def rot_tiled_8bit_entry (vid : VideoMemory) (map tile : Nat) (pal : Palette) (lg : Nat)
    (auxX auxY : Int) : Option u16 :=
  let tileindex := (vid.byteAt (map + (auxX / 8 + auxY / 8 * (lg / 8 : Nat)))).toNat
  let i := (vid.byteAt (tile + (tileindex * 64 + auxY % 8 * 8 + auxX % 8))).toNat
  if i = 0 then none else some (pal i)

def rot_tiled_16bit_entry (vid : VideoMemory) (map tile : Nat) (pal : Palette)
    (extPal : Bool) (lg : Nat) (auxX auxY : Int) : Option u16 :=
  let entry : TILEENTRY := ⟨vid.wordAt (map + (auxX / 8 + auxY / 8 * (lg / 8 : Nat)) * 2)⟩
  let x := (if entry.HFlip then 7 - auxX else auxX) % 8
  let y := (if entry.VFlip then 7 - auxY else auxY) % 8
  let i := (vid.byteAt (tile + (entry.TileNum.val * 64 + y * 8 + x))).toNat
  if i = 0 then none
  else some (pal (i + if extPal then entry.Palette.val * 256 else 0))

def rot_256_map (vid : VideoMemory) (map : Nat) (pal : Palette) (lg : Nat)
    (auxX auxY : Int) : Option u16 :=
  let i := (vid.byteAt (map + (auxX + auxY * lg))).toNat
  if i = 0 then none else some (pal i)

def rot_BMP_map (vid : VideoMemory) (map : Nat) (lg : Nat) (auxX auxY : Int) : Option u16 :=
  let color := vid.wordAt (map + (auxX + auxY * lg) * 2)
  if color.getLsbD 15 then some color else none

/-- `rot_scale_op`: the unrotated case without boundary checks, then the
general one. -/
def rot_scale_op (WRAP : Bool) (parms : BGxPARMS) (wh ht : Nat)
    (entry : Int → Int → Option u16) (i : Nat) : Option u16 :=
  let dx := parms.BGxPA.signExtend 32
  let dy := parms.BGxPC.signExtend 32
  let startX := rotoInteger parms.BGxX
  let startY := rotoInteger parms.BGxY
  if dx = 0x100 ∧ dy = 0 ∧
      (WRAP ∨ startX + 256 < wh ∧ 0 ≤ startX ∧ startY < ht ∧ 0 ≤ startY) then
    if WRAP then entry ((startX + i) % wh) (startY % ht) else entry (startX + i) startY
  else
    let auxX := rotoInteger (parms.BGxX + BitVec.ofNat 32 i * dx)
    let auxY := rotoInteger (parms.BGxY + BitVec.ofNat 32 i * dy)
    if WRAP then entry (auxX % wh) (auxY % ht)
    else if 0 ≤ auxX ∧ auxX < wh ∧ 0 ≤ auxY ∧ auxY < ht then entry auxX auxY
    else none

/-- `parms` is that of layer 2 for layer 2 and that of layer 3 otherwise. -/
def parmsIndex : Fin 2 := if num = 2 then 0 else 1

def apply_rot_fun (entry : Nat → Int → Int → Option u16) : List (Nat × u16) :=
  let size := (gpu.background num).BGSize
  opaquePixels (rot_scale_op (gpu.bgcnt num).PaletteSet_Wrap
    (gpu.dispx_st.dispx_BGPARMS (parmsIndex num)) size.1 size.2 (entry size.1))

/-- `lineRot`. -/
def rotBG2 (vid : VideoMemory) (num : Fin 4) : List (Nat × u16) :=
  let bg := gpu.background num
  apply_rot_fun gpu num
    (rot_tiled_8bit_entry vid bg.BG_map_ram bg.BG_tile_ram (bgPalette vid gpu.core))

/-- `lineExtRot`. -/
def extRotBG2 (vid : VideoMemory) (num : Fin 4) : List (Nat × u16) :=
  let bg := gpu.background num
  match bg.BGTypes with
  | .AffineExt_256x16 =>
      let extended := gpu.dispCnt.ExBGxPalette_Enable
      let pal := if extended then extPalette vid gpu.core bg.BGExtPalSlot
        else bgPalette vid gpu.core
      apply_rot_fun gpu num (rot_tiled_16bit_entry vid bg.BG_map_ram bg.BG_tile_ram pal extended)
  | .AffineExt_256x1 =>
      apply_rot_fun gpu num (rot_256_map vid bg.BG_bmp_ram (bgPalette vid gpu.core))
  | .AffineExt_Direct => apply_rot_fun gpu num (rot_BMP_map vid bg.BG_bmp_ram)
  | .Large8bpp =>
      apply_rot_fun gpu num (rot_256_map vid bg.BG_bmp_large_ram (bgPalette vid gpu.core))
  | _ => []

/-- The pixels `modeRender<false>(num)` draws. -/
def modeRender (vid : VideoMemory) (num : Fin 4) : List (Nat × u16) :=
  match GPU_mode2type gpu.dispCnt.BG_Mode num with
  | .Text => lineText gpu vid num
  | .Affine => rotBG2 gpu vid num
  | .AffineExt => extRotBG2 gpu vid num
  | .Large8bpp => extRotBG2 gpu vid num
  | _ => []

def advanceParms : GPU :=
  match GPU_mode2type gpu.dispCnt.BG_Mode num with
  | .Affine | .AffineExt | .Large8bpp =>
      let parms := gpu.dispx_st.dispx_BGPARMS (parmsIndex num)
      gpu.setParms (parmsIndex num)
        { parms with
          BGxX := parms.BGxX + parms.BGxPB.signExtend 32
          BGxY := parms.BGxY + parms.BGxPD.signExtend 32 }
  | _ => gpu

end Desmume.Gpu
