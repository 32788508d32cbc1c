/-
The registers of one 2D engine and what is derived from them when they are
written: `GPU_setVideoProp`, `GPU_setBGProp`, `GPU_resortBGs`, and the setters
of the windows and of the colour effects.

`fadeInColors`, `fadeOutColors` and `gpuBlendTable555` are tables filled once;
here they are the functions they are filled from.
-/

import Desmume.Vram.Mapping

namespace Desmume
namespace Gpu

/-- The factors `EVA`, `EVB` and `EVY`. -/
abbrev Factor := Fin 17

/-- `value > 16 ? 16 : value`. -/
def clamp16 (val : Nat) : Factor := ⟨min 16 val,by omega⟩

variable (factor : Factor) (color : u16)

def red : Nat := color.toNat % 32

def green : Nat := color.toNat / 32 % 32

def blue : Nat := color.toNat / 1024 % 32

def rgb (r g b : Nat) : u16 := BitVec.ofNat 16 (r + 32 * g + 1024 * b)

def fadeInComponent (component : Nat) : Nat :=
  component + (31 - component) * factor.val / 16

def fadeOutComponent (component : Nat) : Nat :=
  component - component * factor.val / 16

/-- `fadeInColors[factor][color & 0x7FFF]`. -/
def fadeInColors : u16 :=
  rgb (fadeInComponent factor (red color)) (fadeInComponent factor (green color))
    (fadeInComponent factor (blue color))

/-- `fadeOutColors[factor][color & 0x7FFF]`. -/
def fadeOutColors : u16 :=
  rgb (fadeOutComponent factor (red color)) (fadeOutComponent factor (green color))
    (fadeOutComponent factor (blue color))

def gpuBlendTable555 (eva evb : Factor) (c0 c1 : Nat) : Nat :=
  min 31 ((c0 * eva.val + c1 * evb.val) / 16)

def blend (eva evb : Factor) (colA colB : u16) : u16 :=
  rgb (gpuBlendTable555 eva evb (red colA) (red colB))
    (gpuBlendTable555 eva evb (green colA) (green colB))
    (gpuBlendTable555 eva evb (blue colA) (blue colB))

theorem red_lt : red color < 32 := Nat.mod_lt _ (by omega)

theorem green_lt : green color < 32 := Nat.mod_lt _ (by omega)

theorem blue_lt : blue color < 32 := Nat.mod_lt _ (by omega)

variable {r g b : Nat}

theorem toNat_rgb (redInside : r < 32) (greenInside : g < 32)
    (blueInside : b < 32) : (rgb r g b).toNat = r + 32 * g + 1024 * b := by
  unfold rgb
  rw [BitVec.toNat_ofNat]
  exact Nat.mod_eq_of_lt (by omega)

theorem red_rgb (redInside : r < 32) (greenInside : g < 32)
    (blueInside : b < 32) : red (rgb r g b) = r := by
  unfold red
  rw [toNat_rgb redInside greenInside blueInside]
  omega

theorem green_rgb (redInside : r < 32) (greenInside : g < 32)
    (blueInside : b < 32) : green (rgb r g b) = g := by
  unfold green
  rw [toNat_rgb redInside greenInside blueInside]
  omega

theorem blue_rgb (redInside : r < 32) (greenInside : g < 32)
    (blueInside : b < 32) : blue (rgb r g b) = b := by
  unfold blue
  rw [toNat_rgb redInside greenInside blueInside]
  omega

theorem fadeInComponent_lt {component : Nat} (inside : component < 32) :
    fadeInComponent factor component < 32 := by
  have bound : (31 - component) * factor.val ≤ (31 - component) * 16 :=
    Nat.mul_le_mul_left _ (by omega)
  have quotient : (31 - component) * factor.val / 16 ≤ 31 - component :=
    Nat.div_le_of_le_mul (by omega)
  unfold fadeInComponent
  omega

theorem fadeOutComponent_lt {component : Nat} (inside : component < 32) :
    fadeOutComponent factor component < 32 := by
  unfold fadeOutComponent
  omega

end Gpu
end Desmume

namespace Desmume
namespace Gpu

inductive Core
  | GPU_MAIN
  | GPU_SUB
  deriving DecidableEq, Repr

/-- `gpu->core`. -/
def Core.number : Core → Fin 2
  | .GPU_MAIN => 0
  | .GPU_SUB => 1

/-- What the renderer reads of `my_config`. -/
structure Config where
  swap : Bool
  cur : Bool
  Render3D : Bool
  hide_screen : Int
  gpuLayerEnabled : Core → Fin 5 → Bool

/-- The bits of `value` from `low` on, modulo `size`. -/
def field {width : Nat} (val : BitVec width) (low size : Nat) [NeZero size] : Fin size :=
  Fin.ofNat size (val.toNat / 2 ^ low)

structure DISPCNT where
  val : u32
  deriving DecidableEq

namespace DISPCNT

variable (cnt : DISPCNT)

def BG_Mode : Fin 8 := field cnt.val 0 8
def BG0_3D : Bool := cnt.val.getLsbD 3
def OBJ_Tile_mapping : Bool := cnt.val.getLsbD 4
def OBJ_BMP_2D_dim : Bool := cnt.val.getLsbD 5
def OBJ_BMP_mapping : Bool := cnt.val.getLsbD 6
/-- `BG0_Enable` to `BG3_Enable`, then `OBJ_Enable`. -/
def Layer_Enable (layer : Fin 5) : Bool := cnt.val.getLsbD (8 + layer.val)
/-- `Win0_Enable` and `Win1_Enable`. -/
def Win_Enable (win : Fin 2) : Bool := cnt.val.getLsbD (13 + win.val)
def WinOBJ_Enable : Bool := cnt.val.getLsbD 15
def DisplayMode : Fin 4 := field cnt.val 16 4
def VRAM_Block : Fin 4 := field cnt.val 18 4
def OBJ_Tile_1D_Bound : Fin 4 := field cnt.val 20 4
def OBJ_BMP_1D_Bound : Bool := cnt.val.getLsbD 22
def CharacBase_Block : Fin 8 := field cnt.val 24 8
def ScreenBase_Block : Fin 8 := field cnt.val 27 8
def ExBGxPalette_Enable : Bool := cnt.val.getLsbD 30
def ExOBJPalette_Enable : Bool := cnt.val.getLsbD 31

end DISPCNT

structure BGxCNT where
  val : u16
  deriving DecidableEq

namespace BGxCNT

variable (cnt : BGxCNT)

def Priority : Fin 4 := field cnt.val 0 4
def CharacBase_Block : Fin 16 := field cnt.val 2 16
def Palette_256 : Bool := cnt.val.getLsbD 7
def ScreenBase_Block : Fin 32 := field cnt.val 8 32
def PaletteSet_Wrap : Bool := cnt.val.getLsbD 13
def ScreenSize : Fin 4 := field cnt.val 14 4

end BGxCNT

structure BGxPARMS where
  BGxPA : u16
  BGxPB : u16
  BGxPC : u16
  BGxPD : u16
  BGxX : u32
  BGxY : u32
  deriving DecidableEq

/-- The registers the renderer reads from memory, and with them the values of
BLDCNT and MASTER_BRIGHT as they stand in memory. -/
structure REG_DISPx where
  dispx_DISPCNT : DISPCNT
  dispx_BGxCNT : Fin 4 → BGxCNT
  BGxHOFS : Fin 4 → u16
  BGxVOFS : Fin 4 → u16
  dispx_BGPARMS : Fin 2 → BGxPARMS
  BLDCNT : u16
  MASTER_BRIGHT : u16

inductive BGType
  | Invalid
  | Text
  | Affine
  | Large8bpp
  | AffineExt
  | AffineExt_256x16
  | AffineExt_256x1
  | AffineExt_Direct
  deriving DecidableEq

def GPU_mode2type : Fin 8 → Fin 4 → BGType :=
  ![![.Text,.Text,.Text,.Text],
    ![.Text,.Text,.Text,.Affine],
    ![.Text,.Text,.Affine,.Affine],
    ![.Text,.Text,.Text,.AffineExt],
    ![.Text,.Text,.Affine,.AffineExt],
    ![.Text,.Text,.AffineExt,.AffineExt],
    ![.Invalid,.Invalid,.Large8bpp,.Invalid],
    ![.Invalid,.Invalid,.Invalid,.Invalid]]

def sizeTab : BGType → Fin 4 → Nat × Nat
  | .Invalid => ![(0, 0),(0, 0),(0, 0),(0, 0)]
  | .Text => ![(256, 256),(512, 256),(256, 512),(512, 512)]
  | .Affine => ![(128, 128),(256, 256),(512, 512),(1024, 1024)]
  | .Large8bpp => ![(512, 1024),(1024, 512),(0, 0),(0, 0)]
  | .AffineExt => ![(0, 0),(0, 0),(0, 0),(0, 0)]
  | .AffineExt_256x16 => ![(128, 128),(256, 256),(512, 512),(1024, 1024)]
  | .AffineExt_256x1 => ![(128, 128),(256, 256),(512, 256),(512, 512)]
  | .AffineExt_Direct => ![(128, 128),(256, 256),(512, 256),(512, 512)]

def MMU_ABG : Nat := 0x06000000
def MMU_BBG : Nat := 0x06200000
def MMU_AOBJ : Nat := 0x06400000
def MMU_BOBJ : Nat := 0x06600000

/-- What `GPU_setBGProp` keeps of one background. -/
structure Background where
  BG_bmp_large_ram : Nat
  BG_bmp_ram : Nat
  BG_tile_ram : Nat
  BG_map_ram : Nat
  BGExtPalSlot : Fin 4
  BGTypes : BGType
  BGSize : Nat × Nat

inductive SpriteRenderMode
  | SPRITE_1D
  | SPRITE_2D
  deriving DecidableEq

inductive BlendFunc
  | NoBlend
  | Blend
  | Increase
  | Decrease
  deriving DecidableEq

/-- The number `windowUsed * 4 + blendMode`, taken apart as the template
arguments it selects. -/
structure FuncNum where
  FUNC : BlendFunc
  WINDOW : Bool
  deriving DecidableEq

structure WindowControl where
  layers : u8
  special : Bool
  deriving DecidableEq

/-- Where a scan line is written: a null pointer before the first line, the
byte offset into `GPU_Screen`, or the buffer of the engine. -/
inductive Destination
  | null
  | GPU_Screen (off : Nat)
  | tempScanlineBuffer
  deriving DecidableEq

abbrev Row := Nat → u16

structure GPU where
  core : Core
  dispx_st : REG_DISPx
  LayersEnable : Fin 5 → Bool
  /-- `itemsForPriority[prio].BGs` -/
  BGs : Fin 4 → List (Fin 4)
  background : Fin 4 → Background
  h_win : Fin 2 → Nat → Bool
  /-- whether `curr_win` points to `h_win` and not to `win_empty` -/
  curr_win : Fin 2 → Bool
  need_update_winh : Fin 2 → Bool
  dispMode : Fin 4
  vramBlock : Fin 4
  VRAMaddr : Nat
  sprBoundary : Nat
  sprBMPBoundary : Nat
  spriteRenderMode : SpriteRenderMode
  WINH0 : Fin 2 → u8
  WINH1 : Fin 2 → u8
  WINV0 : Fin 2 → u8
  WINV1 : Fin 2 → u8
  WININ : Fin 2 → WindowControl
  WINOUT : WindowControl
  WINOBJ : WindowControl
  WIN_ENABLED : Fin 2 → Bool
  WINOBJ_ENABLED : Bool
  BLDCNT : u16
  BLDALPHA_EVA : Factor
  BLDALPHA_EVB : Factor
  BLDY_EVY : Factor
  setFinalColor_funcNum : FuncNum
  MasterBrightMode : Fin 4
  MasterBrightFactor : Fin 32
  affineInfo : Fin 2 → u32 × u32
  /-- left by the last layer drawn -/
  blend1 : Bool
  currLine : Nat
  currDst : Destination
  tempScanlineBuffer : Row

namespace GPU

variable (gpu : GPU)

/-- `gpu->sprMem`. -/
def sprMem : Nat :=
  match gpu.core with
  | .GPU_MAIN => MMU_AOBJ
  | .GPU_SUB => MMU_BOBJ

def dispCnt : DISPCNT := gpu.dispx_st.dispx_DISPCNT

variable (cfg : Config) (num : Fin 4) (core : Core) (cnt : DISPCNT)

def bgcnt : BGxCNT := gpu.dispx_st.dispx_BGxCNT num

def layerEnabled (layer : Fin 5) : Bool :=
  cfg.gpuLayerEnabled core layer ^^ !(cnt.Layer_Enable layer)

/-- The backgrounds of one priority, BG3 first, in the order they are painted. -/
def sortedBGs (enabled : Fin 5 → Bool) (cnt : Fin 4 → BGxCNT) (prio : Fin 4) : List (Fin 4) :=
  ([3,2,1,0] : List (Fin 4)).filter
    (fun bg => enabled bg.castSucc && (cnt bg).Priority == prio)

def GPU_resortBGs : GPU :=
  let enabled := layerEnabled cfg gpu.core gpu.dispCnt
  { gpu with
    LayersEnable := enabled
    BGs := sortedBGs enabled gpu.dispx_st.dispx_BGxCNT }

def bgType (dispCnt : DISPCNT) (cnt : BGxCNT) (num : Fin 4) : BGType :=
  match GPU_mode2type dispCnt.BG_Mode num with
  | .AffineExt =>
      if cnt.Palette_256 then
        if cnt.CharacBase_Block.val % 2 = 1 then .AffineExt_Direct else .AffineExt_256x1
      else .AffineExt_256x16
  | type => type

def bgExtPalSlot (cnt : BGxCNT) (num : Fin 4) : Fin 4 :=
  if num.val < 2 then Fin.ofNat 4 (cnt.PaletteSet_Wrap.toNat * 2 + num.val) else num

def backgroundOf (dispCnt : DISPCNT) (cnt : BGxCNT) (num : Fin 4) : Background :=
  let tile := match core with
    | .GPU_SUB => MMU_BBG
    | .GPU_MAIN => MMU_ABG + dispCnt.CharacBase_Block.val * 0x10000
  let bmp := match core with
    | .GPU_SUB => MMU_BBG
    | .GPU_MAIN => MMU_ABG
  let map := match core with
    | .GPU_SUB => MMU_BBG
    | .GPU_MAIN => MMU_ABG + dispCnt.ScreenBase_Block.val * 0x10000
  let mode := bgType dispCnt cnt num
  { BG_bmp_large_ram := bmp
    BG_bmp_ram := bmp + cnt.ScreenBase_Block.val * 0x4000
    BG_tile_ram := tile + cnt.CharacBase_Block.val * 0x4000
    BG_map_ram := map + cnt.ScreenBase_Block.val * 0x800
    BGExtPalSlot := bgExtPalSlot cnt num
    BGTypes := mode
    BGSize := sizeTab mode cnt.ScreenSize }

def storeBGxCNT (p : u16) : GPU :=
  { gpu with
    dispx_st := { gpu.dispx_st with
      dispx_BGxCNT := Function.update gpu.dispx_st.dispx_BGxCNT num ⟨p⟩ } }

def GPU_setBGProp (p : u16) : GPU :=
  let gpu := (gpu.storeBGxCNT num p).GPU_resortBGs cfg
  { gpu with
    background := Function.update gpu.background num
      (backgroundOf gpu.core gpu.dispCnt ⟨p⟩ num) }

def blendFunc (BLDCNT : u16) : BlendFunc :=
  match field BLDCNT 6 4 with
  | 0 => .NoBlend
  | 1 => .Blend
  | 2 => .Increase
  | 3 => .Decrease

def SetupFinalPixelBlitter : GPU :=
  { gpu with
    setFinalColor_funcNum :=
      { FUNC := blendFunc gpu.BLDCNT
        WINDOW := gpu.WIN_ENABLED 0 || gpu.WIN_ENABLED 1 || gpu.WINOBJ_ENABLED } }

def storeDISPCNT (p : u32) : GPU :=
  { gpu with dispx_st := { gpu.dispx_st with dispx_DISPCNT := ⟨p⟩ } }

/-- `cnt->DisplayMode & ((gpu->core)?1:3)`. -/
def displayMode : Fin 4 :=
  match core with
  | .GPU_MAIN => cnt.DisplayMode
  | .GPU_SUB => Fin.ofNat 4 (cnt.DisplayMode.val % 2)

def setDisplay : GPU :=
  let mode := displayMode gpu.core cnt
  { gpu with
    dispMode := mode
    vramBlock := cnt.VRAM_Block
    VRAMaddr := if mode = 2 then cnt.VRAM_Block.val * 0x20000 else gpu.VRAMaddr
    sprBoundary := if cnt.OBJ_Tile_mapping then 5 + cnt.OBJ_Tile_1D_Bound.val else 5
    spriteRenderMode := if cnt.OBJ_Tile_mapping then .SPRITE_1D else .SPRITE_2D
    sprBMPBoundary := if cnt.OBJ_BMP_1D_Bound ∧ gpu.core = .GPU_MAIN then 8 else 7 }

def setWindowsEnabled : GPU :=
  { gpu with WIN_ENABLED := cnt.Win_Enable, WINOBJ_ENABLED := cnt.WinOBJ_Enable }

def GPU_setVideoProp (p : u32) : GPU :=
  let gpu := (((gpu.storeDISPCNT p).setWindowsEnabled ⟨p⟩).SetupFinalPixelBlitter).setDisplay ⟨p⟩
  let gpu := gpu.GPU_setBGProp cfg 3 (gpu.bgcnt 3).val
  let gpu := gpu.GPU_setBGProp cfg 2 (gpu.bgcnt 2).val
  let gpu := gpu.GPU_setBGProp cfg 1 (gpu.bgcnt 1).val
  gpu.GPU_setBGProp cfg 0 (gpu.bgcnt 0).val

end GPU

end Gpu
end Desmume
