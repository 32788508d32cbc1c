/-
One line of the BG and OBJ layers: `_spriteRender`, `GPU_RenderLine_layer`.

The two nested loops over priorities and layers are the flat list `paintOrder`.
-/

import Desmume.Gpu.Backgrounds

namespace Desmume.Gpu

section

structure OAMAttributes where
  attr0 : u16
  attr1 : u16
  attr2 : u16
  attr3 : u16

/-- `_oamList[i]`. -/
def oamEntry (vid : VideoMemory) (core : Core) (i : Nat) : OAMAttributes :=
  let addr := core.number.val * 0x400 + 8 * i
  { attr0 := T1ReadWord vid.ARM9_OAM addr
    attr1 := T1ReadWord vid.ARM9_OAM (addr + 2)
    attr2 := T1ReadWord vid.ARM9_OAM (addr + 4)
    attr3 := T1ReadWord vid.ARM9_OAM (addr + 6) }

namespace OAMAttributes

variable (info : OAMAttributes)

def Y : Nat := info.attr0.toNat % 256
def RotScale : Bool := info.attr0.getLsbD 8
def Disable : Bool := info.attr0.getLsbD 9
def DoubleSize : Bool := info.attr0.getLsbD 9
def Mode : Fin 4 := field info.attr0 10 4
def PaletteMode_1x256 : Bool := info.attr0.getLsbD 13
def Shape : Fin 4 := field info.attr0 14 4
def X : Int := (info.attr1.setWidth 9).toInt
def RotScaleIndex : Fin 8 := field info.attr1 9 8
def HFlip : Bool := info.attr1.getLsbD 12
def VFlip : Bool := info.attr1.getLsbD 13
def Size : Fin 4 := field info.attr1 14 4
def TileIndex : Fin 1024 := field info.attr2 0 1024
def Priority : Fin 4 := field info.attr2 10 4
def PaletteIndex : Fin 16 := field info.attr2 12 16

end OAMAttributes

def sprSizeTab : Fin 4 → Fin 4 → Nat × Nat :=
  ![![(8, 8),(16, 8),(8, 16),(8, 8)],
    ![(16, 16),(32, 8),(8, 32),(8, 8)],
    ![(32, 32),(32, 16),(16, 32),(8, 8)],
    ![(64, 64),(64, 32),(32, 64),(8, 8)]]

def OAMAttributes.sprSize (info : OAMAttributes) : Nat × Nat := sprSizeTab info.Size info.Shape

/-- An opaque dot: one of the picture, or one of the object window. The loop
for rotated objects tests the priority of a window dot, the other does not. -/
inductive Dot
  | color (color : u16) (alpha : Nat) (type : Fin 4)
  | window (tested : Bool)
  deriving DecidableEq

/-- Where an object meets the line: the first position, the first column and
the row of the object, the number of positions, and the direction. -/
structure SpriteVars where
  sprX : Nat
  x : Int
  y : Nat
  lg : Nat
  xdir : Int

def compute_sprite_vars (info : OAMAttributes) (l : Nat) : Option SpriteVars :=
  let size := info.sprSize
  let row := (((l : Int) - info.Y) % 256).toNat
  if size.2 ≤ row then none
  else if info.X = 256 ∨ info.X + size.1 ≤ 0 then none
  else
    -- the part left of the screen is cut off first
    let sprX := max info.X 0
    let hidden := max (-info.X) 0
    let lg := if 256 ≤ sprX + size.1 then 256 - sprX else size.1 - hidden
    some
      { sprX := sprX.toNat
        x := if info.HFlip then size.1 - hidden - 1 else hidden
        y := if info.VFlip then size.2 - row - 1 else row
        lg := lg.toNat
        xdir := if info.HFlip then -1 else 1 }

variable (gpu : GPU) (vid : VideoMemory)

def bmp_sprite_address (info : OAMAttributes) (width : Nat) (y : Int) : Int :=
  let tile := info.TileIndex.val
  if gpu.dispCnt.OBJ_BMP_mapping then
    gpu.sprMem + tile * 2 ^ gpu.sprBMPBoundary + y * width * 2
  else if gpu.dispCnt.OBJ_BMP_2D_dim then
    gpu.sprMem + (tile / 32 * 32 * 64 + tile % 32 * 8 + y * 256) * 2
  else gpu.sprMem + (tile / 16 * 16 * 64 + tile % 16 * 8 + y * 128) * 2

/-- The address of row `y` of an object made of tiles, a tile row being
`rowBytes` long. -/
def tileRow (info : OAMAttributes) (width rowBytes : Nat) (y : Nat) : Nat :=
  match gpu.spriteRenderMode with
  | .SPRITE_2D => gpu.sprMem + info.TileIndex.val * 2 ^ 5 + y / 8 * 1024 + y % 8 * rowBytes
  | .SPRITE_1D =>
      gpu.sprMem + info.TileIndex.val * 2 ^ gpu.sprBoundary + y / 8 * width * rowBytes +
        y % 8 * rowBytes

/-- `(x&0x7) + ((x&0xFFF8)<<3)`. -/
def column256 (x : Nat) : Nat := x % 8 + x / 8 * 8 * 8

/-- The same for four bits a dot, with `x1 = x >> 1`. -/
def column16 (x : Nat) : Nat := x / 2 % 4 + x / 2 / 4 * 4 * 8

def nibble (pair : u8) (x : Nat) : Nat :=
  if x % 2 = 1 then pair.toNat / 16 else pair.toNat % 16

/-- `ARM9_VMEM + 0x200 + core * 0x400`. -/
def objPalette (core : Core) : Palette :=
  fun i => T1ReadWord vid.ARM9_VMEM (0x200 + core.number.val * 0x400 + 2 * i)

def objPalette256 (info : OAMAttributes) : Palette :=
  if gpu.dispCnt.ExOBJPalette_Enable then
    fun i => T1ReadWord vid.ARM9_LCD
      (vid.mapping.ObjExtPal gpu.core.number 0 + info.PaletteIndex.val * 0x200 + 2 * i)
  else objPalette vid gpu.core

def objPalette16 (info : OAMAttributes) : Palette :=
  fun i => objPalette vid gpu.core (info.PaletteIndex.val * 16 + i)

def render_sprite_BMP (info : OAMAttributes) (srcadr : Int) (x : Int) : Option Dot :=
  let color := vid.wordAt (srcadr + x * 2)
  if color.getLsbD 15 then some (.color color (info.PaletteIndex.val + 1) 3) else none

def render_sprite_256 (pal : Palette) (type : Fin 4) (srcadr : Nat) (x : Int) : Option Dot :=
  let i := (vid.byteAt (srcadr + column256 x.toNat : Nat)).toNat
  if i = 0 then none else some (.color (pal i) 255 type)

def render_sprite_16 (pal : Palette) (type : Fin 4) (srcadr : Nat) (x : Int) : Option Dot :=
  let i := nibble (vid.byteAt (srcadr + column16 x.toNat : Nat)) x.toNat
  if i = 0 then none else some (.color (pal i) 255 type)

def render_sprite_Win (col256 : Bool) (src : Nat) (x : Int) : Option Dot :=
  let opaqueDot := if col256 then vid.ARM9_LCD (src + column256 x.toNat) ≠ 0
    else nibble (vid.ARM9_LCD (src + column16 x.toNat)) x.toNat ≠ 0
  if opaqueDot then some (.window false) else none

/-- The dot in column `x` of row `y` of an object that is not rotated. -/
def plainDot (info : OAMAttributes) (y : Nat) (x : Int) : Option Dot :=
  let width := info.sprSize.1
  let rowBytes := if info.PaletteMode_1x256 then 8 else 4
  let srcadr := tileRow gpu info width rowBytes y
  if info.Mode = 2 then
    render_sprite_Win vid info.PaletteMode_1x256 (vid.gpuMap srcadr) x
  else if info.Mode = 3 then
    if info.PaletteIndex = 0 then none
    else render_sprite_BMP vid info (bmp_sprite_address gpu info width y) x
  else if info.PaletteMode_1x256 then
    render_sprite_256 vid (objPalette256 gpu vid info) (if info.Mode = 1 then 1 else 0) srcadr x
  else
    render_sprite_16 vid (objPalette16 gpu vid info) (if info.Mode = 1 then 1 else 0) srcadr x

/-- The dots of a span that starts at `left`. -/
def span (left length : Nat) (dot : Nat → Option Dot) : List (Nat × Dot) :=
  (List.range length).filterMap (fun j => (dot j).map (fun found => (left + j, found)))

def plainDots (info : OAMAttributes) : List (Nat × Dot) :=
  match compute_sprite_vars info gpu.currLine with
  | none => []
  | some vars =>
      span vars.sprX vars.lg (fun j => plainDot gpu vid info vars.y (vars.x + j * vars.xdir))

def rotoTileOffset (width rowBytes : Nat) (column auxY : Nat) : Nat :=
  match gpu.spriteRenderMode with
  | .SPRITE_2D => column + auxY / 8 * 1024 + auxY % 8 * rowBytes
  | .SPRITE_1D => column + auxY / 8 * width * rowBytes + auxY % 8 * rowBytes

def rotoTiles (info : OAMAttributes) : Nat :=
  match gpu.spriteRenderMode with
  | .SPRITE_2D => gpu.sprMem + info.TileIndex.val * 2 ^ 5
  | .SPRITE_1D => gpu.sprMem + info.TileIndex.val * 2 ^ gpu.sprBoundary

def roto256 (info : OAMAttributes) (auxX auxY : Nat) : Option Dot :=
  let src := vid.gpuMap (gpu.sprMem + info.TileIndex.val * 2 ^ gpu.sprBoundary : Nat)
  let off := rotoTileOffset gpu info.sprSize.1 8 (column256 auxX) auxY
  let colour := (vid.ARM9_LCD (src + off)).toNat
  if colour = 0 then none
  else some (.color (objPalette256 gpu vid info colour) 255 info.Mode)

def rotoDirect (info : OAMAttributes) (auxX auxY : Nat) : Option Dot :=
  let width := info.sprSize.1
  let srcadr := bmp_sprite_address gpu info width 0
  let off : Int := if gpu.dispCnt.OBJ_BMP_2D_dim then
      (bmp_sprite_address gpu info width auxY - srcadr) / 2 + auxX
    else auxX + auxY * width
  let colour := vid.wordAt (srcadr + off * 2)
  if info.PaletteIndex = 0 then none
  else if colour.getLsbD 15 then some (.color colour info.PaletteIndex.val info.Mode)
  else none

def roto16 (info : OAMAttributes) (auxX auxY : Nat) : Option Dot :=
  let src := vid.gpuMap (rotoTiles gpu info)
  let off := rotoTileOffset gpu info.sprSize.1 4 (column16 auxX) auxY
  let colour := nibble (vid.ARM9_LCD (src + off)) auxX
  if colour = 0 then none
  else if info.Mode = 2 then some (.window true)
  else some (.color (objPalette16 gpu vid info colour) 255 info.Mode)

def rotoDot (info : OAMAttributes) (auxX auxY : Nat) : Option Dot :=
  if info.PaletteMode_1x256 then roto256 gpu vid info auxX auxY
  else if info.Mode = 3 then rotoDirect gpu vid info auxX auxY
  else roto16 gpu vid info auxX auxY

/-- The matrix of a rotated object: `dx`, `dmx`, `dy`, `dmy`. -/
def rotoParameter (core : Core) (info : OAMAttributes) (i : Nat) : Int :=
  let blockparameter :=
    (info.RotScaleIndex.val + info.HFlip.toNat * 8 + info.VFlip.toNat * 16) * 4
  (oamEntry vid core (blockparameter + i)).attr3.toInt

def rotoDots (info : OAMAttributes) : List (Nat × Dot) :=
  let size := info.sprSize
  let fieldX := if info.DoubleSize then size.1 * 2 else size.1
  let fieldY := if info.DoubleSize then size.2 * 2 else size.2
  let y := (((gpu.currLine : Int) - info.Y) % 256).toNat
  if fieldY ≤ y then []
  else if info.X = 256 ∨ info.X + fieldX ≤ 0 then []
  else
    let dx := rotoParameter vid gpu.core info 0
    let dmx := rotoParameter vid gpu.core info 1
    let dy := rotoParameter vid gpu.core info 2
    let dmy := rotoParameter vid gpu.core info 3
    let realX := size.1 * 128 - (fieldX / 2 : Nat) * dx - (fieldY / 2 : Nat) * dmx + y * dmx
    let realY := size.2 * 128 - (fieldX / 2 : Nat) * dy - (fieldY / 2 : Nat) * dmy + y * dmy
    let hidden := max (-info.X) 0
    let lg := if info.X < 0 then fieldX + info.X
      else if 256 < info.X + fieldX then 256 - info.X else fieldX
    span info.X.toNat lg.toNat (fun j =>
      let auxX := (realX + (hidden + j) * dx) / 256
      let auxY := (realY + (hidden + j) * dy) / 256
      if 0 ≤ auxX ∧ 0 ≤ auxY ∧ auxX < size.1 ∧ auxY < size.2 then
        rotoDot gpu vid info auxX.toNat auxY.toNat
      else none)

def spriteDots (i : Nat) : List (Nat × Dot) :=
  let info := oamEntry vid gpu.core i
  if info.RotScale then rotoDots gpu vid info
  else if info.Disable then []
  else plainDots gpu vid info

/-- The tables filled by `_spriteRender`; 0xFF in `sprPrio` is no object. -/
structure SpriteLine where
  spr : Row
  sprAlpha : Nat → Nat
  sprType : Nat → Fin 4
  sprPrio : Nat → Nat
  sprWin : Nat → Bool

def SpriteLine.clear : SpriteLine where
  spr := fun _ => 0
  sprAlpha := fun _ => 0
  sprType := fun _ => 0
  sprPrio := fun _ => 0xFF
  sprWin := fun _ => false

def drawDot (prio : Nat) (line : SpriteLine) (placed : Nat × Dot) : SpriteLine :=
  match placed.2 with
  | .color color alpha type =>
      if prio < line.sprPrio placed.1 then
        { line with
          spr := Function.update line.spr placed.1 color
          sprAlpha := Function.update line.sprAlpha placed.1 alpha
          sprType := Function.update line.sprType placed.1 type
          sprPrio := Function.update line.sprPrio placed.1 prio }
      else line
  | .window tested =>
      if tested ∧ ¬prio < line.sprPrio placed.1 then line
      else { line with sprWin := Function.update line.sprWin placed.1 true }

def drawSprite (line : SpriteLine) (i : Nat) : SpriteLine :=
  (spriteDots gpu vid i).foldl
    (drawDot (oamEntry vid gpu.core i).Priority.val) line

def spriteRender (line : SpriteLine) : SpriteLine :=
  (List.range 128).foldl (drawSprite gpu vid) line

end

def WindowControl.admits (control : WindowControl) (layer : Fin 6) : Bool :=
  control.layers.getLsbD layer.val

variable (gpu : GPU) (win : Fin 2)

def withinRect (x : Nat) : Bool :=
  gpu.curr_win win && gpu.h_win win x

def anyWindow : Bool :=
  gpu.WINOBJ_ENABLED || gpu.WIN_ENABLED 1 || gpu.WIN_ENABLED 0

def windowAt (sprWin : Nat → Bool) (x : Nat) : Option WindowControl :=
  if withinRect gpu 0 x then some (gpu.WININ 0)
  else if withinRect gpu 1 x then some (gpu.WININ 1)
  else if gpu.WINOBJ_ENABLED && sprWin x then some gpu.WINOBJ
  else if anyWindow gpu then some gpu.WINOUT
  else none

/-- What `renderline_checkWindows` makes of `draw` and `effect`. -/
def renderline_checkWindows (sprWin : Nat → Bool) (layer : Fin 6) (x : Nat)
    (start : Bool × Bool) : Bool × Bool :=
  match windowAt gpu sprWin x with
  | some control => (control.admits layer, control.special)
  | none => start

def setup_windows (y : Nat) (win : Fin 2) : GPU :=
  let startY := (gpu.WINV0 win).toNat
  let endY := (gpu.WINV1 win).toNat
  let outside := if endY < startY then y < startY ∧ endY < y else y < startY ∨ endY ≤ y
  { gpu with
    curr_win := Function.update gpu.curr_win win
      (gpu.WIN_ENABLED win && !decide outside) }

/-- The table `h_win`, filled by three loops. -/
def windowTable (startX endX : u8) (x : Nat) : Bool :=
  if endX < startX then
    if x ≤ endX.toNat then true else if x < startX.toNat then false else true
  else
    if x < startX.toNat then false else if x < endX.toNat then true else false

def update_winh : GPU :=
  if gpu.WIN_ENABLED win then
    { gpu with
      need_update_winh := Function.update gpu.need_update_winh win false
      h_win := Function.update gpu.h_win win
        (windowTable (gpu.WINH0 win) (gpu.WINH1 win)) }
  else gpu

/-- `if(gpu->need_update_winh[window]) gpu->update_winh(window);`. -/
def refresh_winh : GPU :=
  if gpu.need_update_winh win then update_winh gpu win else gpu

structure Canvas where
  dst : Row
  bgPixels : Nat → Fin 6
  blend1 : Bool

namespace Canvas

variable (canvas : Canvas)

/-- The pixel written by layer `num`. -/
def put (num : Fin 6) (x : Nat) (color : u16) : Canvas :=
  { canvas with
    dst := Function.update canvas.dst x color
    bgPixels := Function.update canvas.bgPixels x num }

end Canvas

/-- `gpu->blend2[layer]`. -/
def blend2 (gpu : GPU) (layer : Fin 6) : Bool := gpu.BLDCNT.getLsbD (8 + layer.val)

/-- `(gpu->BLDCNT & (1 << layer)) != 0`. -/
def firstTarget (gpu : GPU) (layer : Fin 6) : Bool := gpu.BLDCNT.getLsbD layer.val

/-- The colour effect of `FUNC` on a pixel of a background. -/
def effectColor (gpu : GPU) (canvas : Canvas) (color : u16) (x : Nat) : u16 :=
  match gpu.setFinalColor_funcNum.FUNC with
  | .NoBlend => color
  | .Blend =>
      if blend2 gpu (canvas.bgPixels x) then
        blend gpu.BLDALPHA_EVA gpu.BLDALPHA_EVB color (canvas.dst x)
      else color
  | .Increase => fadeInColors gpu.BLDY_EVY color
  | .Decrease => fadeOutColors gpu.BLDY_EVY color

/-- `_master_setFinalBGColor` for a layer that is not the backdrop. -/
def setFinalBGColor (gpu : GPU) (sprWin : Nat → Bool) (num : Fin 6) (canvas : Canvas)
    (color : u16) (x : Nat) : Option u16 :=
  let win := if gpu.setFinalColor_funcNum.WINDOW then
      renderline_checkWindows gpu sprWin num x (false, true)
    else (true, true)
  if win.1 then
    if canvas.blend1 && win.2 then some (effectColor gpu canvas color x) else some color
  else none

def setFinalColorBG (gpu : GPU) (sprWin : Nat → Bool) (num : Fin 6) (canvas : Canvas)
    (pixel : Nat × u16) : Canvas :=
  match setFinalBGColor gpu sprWin num canvas (pixel.2 &&& (0x7FFF : u16)) pixel.1 with
  | some color => canvas.put num pixel.1 (color ||| (0x8000 : u16))
  | none => canvas

/-- The colour `_master_setFinalOBJColor` makes of a dot whose window admits
effects. -/
def objColor (gpu : GPU) (canvas : Canvas) (color : u16) (alpha : Nat) (type : Fin 4) (x : Nat) :
    u16 :=
  let bg_under := canvas.bgPixels x
  let secondTarget := bg_under ≠ 4 ∧ blend2 gpu bg_under = true
  if (type = 1 ∨ type = 3) ∧ secondTarget then
    if alpha = 255 then blend gpu.BLDALPHA_EVA gpu.BLDALPHA_EVB color (canvas.dst x)
    else blend (clamp16 alpha) (clamp16 (16 - alpha)) color (canvas.dst x)
  else if canvas.blend1 then
    match gpu.setFinalColor_funcNum.FUNC with
    | .NoBlend => color
    | .Blend =>
        if secondTarget then blend gpu.BLDALPHA_EVA gpu.BLDALPHA_EVB color (canvas.dst x)
        else color
    | .Increase => fadeInColors gpu.BLDY_EVY color
    | .Decrease => fadeOutColors gpu.BLDY_EVY color
  else color

/-- `setFinalColorSpr` at position `x`. -/
def setFinalColorSpr (gpu : GPU) (line : SpriteLine) (canvas : Canvas) (x : Nat) : Canvas :=
  let win := if gpu.setFinalColor_funcNum.WINDOW then
      renderline_checkWindows gpu line.sprWin 4 x (true, true)
    else (true, true)
  if win.1 then
    let color := if win.2 then
        objColor gpu canvas (line.spr x) (line.sprAlpha x) (line.sprType x) x
      else line.spr x
    canvas.put 4 x (color ||| (0x8000 : u16))
  else canvas

variable (vid : VideoMemory) (l k : Nat)

/-- Component `index` of a pixel of the 3D line; pixel 256 is the first one of
the next line. -/
def color3D (i : Nat) : u8 :=
  vid.screen3D ((l * 256 + k) * 4 + i)

def black3D : Bool :=
  color3D vid l k 0 == 0 && color3D vid l k 1 == 0 && color3D vid l k 2 == 0

/-- `RGB15(red, green, blue, alpha)`. -/
def rgb15of3D : u16 :=
  rgb ((color3D vid l k 0).toNat / 8) ((color3D vid l k 1).toNat / 8)
    ((color3D vid l k 2).toNat / 8) ||| (0x8000 : u16)

/-- `_master_setFinal3dColor(k, k)`, which looks at no window and no effect. -/
def setFinalColor3d (canvas : Canvas) (k : Nat) : Canvas :=
  if color3D vid l k 3 = 0 then canvas
  else if black3D vid l k && black3D vid l (k + 1) then canvas
  else canvas.put 0 k (rgb15of3D vid l k)

inductive Layer
  | BG (num : Fin 4)
  | OBJ (prio : Fin 4)
  deriving DecidableEq

def paintOrder (gpu : GPU) : List Layer :=
  ([3,2,1,0] : List (Fin 4)).flatMap (fun prio =>
    (gpu.BGs prio).map Layer.BG ++ [Layer.OBJ prio])

def bgLayer (num : Fin 4) : Fin 6 := ⟨num.val,by omega⟩

def is3D (gpu : GPU) (num : Fin 4) : Bool :=
  gpu.core = .GPU_MAIN ∧ num = 0 ∧ gpu.dispCnt.BG0_3D

def drawBG (gpu : GPU) (vid : VideoMemory) (sprWin : Nat → Bool) (l : Nat) (num : Fin 4)
    (canvas : Canvas) : Canvas :=
  let canvas := { canvas with blend1 := firstTarget gpu (bgLayer num) }
  if is3D gpu num then
    (List.range' 1 255).reverse.foldl (setFinalColor3d vid l) canvas
  else (modeRender gpu vid num).foldl (setFinalColorBG gpu sprWin (bgLayer num)) canvas

/-- The positions put into `itemsForPriority[prio].PixelsX`. -/
def PixelsX (line : SpriteLine) (prio : Fin 4) : List Nat :=
  (List.range 256).filter (fun x => line.sprPrio x = prio.val)

def drawOBJ (gpu : GPU) (line : SpriteLine) (prio : Fin 4) (canvas : Canvas) : Canvas :=
  (PixelsX line prio).foldl (setFinalColorSpr gpu line)
    { canvas with blend1 := firstTarget gpu 4 }

def drawLayer (gpu : GPU) (vid : VideoMemory) (line : SpriteLine) (l : Nat)
    (canvas : Canvas) : Layer → Canvas
  | .BG num =>
      if gpu.LayersEnable num.castSucc then drawBG gpu vid line.sprWin l num canvas else canvas
  | .OBJ prio => if gpu.LayersEnable 4 then drawOBJ gpu line prio canvas else canvas

/-- `T1ReadWord(MMU.ARM9_VMEM, gpu->core * 0x400) & 0x7FFF`. -/
def backdrop_color (gpu : GPU) (vid : VideoMemory) : u16 :=
  T1ReadWord vid.ARM9_VMEM (gpu.core.number.val * 0x400) &&& (0x7FFF : u16)

def backdropEffect (gpu : GPU) (color : u16) : u16 :=
  match gpu.setFinalColor_funcNum.FUNC with
  | .NoBlend | .Blend => color
  | .Increase => fadeInColors gpu.BLDY_EVY color
  | .Decrease => fadeOutColors gpu.BLDY_EVY color

/-- The backdrop at `x`. With windows it is drawn as a background pixel is,
from the flag and the object window the previous line left. -/
def backdropPixel (gpu : GPU) (vid : VideoMemory) (sprWin : Nat → Bool) (x : Nat) : u16 :=
  let color := backdrop_color gpu vid
  if gpu.setFinalColor_funcNum.WINDOW then
    let effect := (renderline_checkWindows gpu sprWin 5 x (false, true)).2
    (if gpu.blend1 && effect then backdropEffect gpu color else color) ||| (0x8000 : u16)
  else if gpu.BLDCNT.getLsbD 5 then backdropEffect gpu color
  else color

/-- The canvas the layers are painted on: `memset(gpu->bgPixels,5,256)`. -/
def backdrop (gpu : GPU) (vid : VideoMemory) (sprWin : Nat → Bool) : Canvas where
  dst := backdropPixel gpu vid sprWin
  bgPixels := fun _ => 5
  blend1 := gpu.blend1

def spriteLine (gpu : GPU) (vid : VideoMemory) : SpriteLine :=
  if gpu.LayersEnable 4 then spriteRender gpu vid .clear else .clear

structure LineResult where
  row : Row
  gpu : GPU
  sprWin : Nat → Bool

/-- The backgrounds that `modeRender` is called for, in that order. -/
def renderedBGs (gpu : GPU) : List (Fin 4) :=
  ([3,2,1,0] : List (Fin 4)).flatMap (fun prio =>
    (gpu.BGs prio).filter (fun num => gpu.LayersEnable num.castSucc && !is3D gpu num))

def GPU_RenderLine_layer (gpu : GPU) (vid : VideoMemory) (sprWin : Nat → Bool) (l : Nat) :
    LineResult :=
  let line := spriteLine gpu vid
  let canvas := (paintOrder gpu).foldl (drawLayer gpu vid line l) (backdrop gpu vid sprWin)
  { row := canvas.dst
    gpu := { (renderedBGs gpu).foldl advanceParms gpu with blend1 := canvas.blend1 }
    sprWin := line.sprWin }

end Desmume.Gpu
