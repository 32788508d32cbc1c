/-
Saving and loading the geometry engine: `SF_GFX3D`, `gfx3d_savestate` and
`gfx3d_loadstate`.

Floats are kept as their bits. The pointers `polylist` and `vertlist` are the
entries of the two pairs of lists that `listTwiddle` selects.
-/

import Desmume.Savestate.Reader
import Desmume.Savestate.RoundTrip

namespace Desmume.GeometryState

open Function (update)

open Savestate Backup

abbrev f32 := BitVec 32

/-- The variables of the table; those of `gfx3d.state` go by their field. -/
inductive Variable
  | control | polyAttr | polyAttrPending | inBegin | textureFormat | texturePalette | mode
  | mtxTemporal | mtxCurrent | ML4x4ind | ML4x3ind | MM4x4ind | MM4x3ind | MM3x3ind | u16coord
  | coordind | vtxFormat | trans | transind | scale | scaleind | _t | _s | last_t | last_s
  | clCmd | clInd | clInd2 | isSwapBuffers | BTind | PTind | PTcoords | BTcoords | gxFIFO_head
  | gxFIFO_tail | gxFIFO_size | gxFIFO_matrix_stack_op_size | gxFIFO_cmd | gxFIFO_param
  | gxPIPE_head | gxPIPE_tail | gxPIPE_size | gxPIPE_cmd | gxPIPE_param | colorRGB | lightColor
  | lightDirection | dsDiffuse | dsAmbient | dsSpecular | dsEmission | flushPending | drawPending
  | enableTexturing | enableAlphaTest | enableAlphaBlending | enableAntialiasing
  | enableEdgeMarking | enableClearImage | enableFog | enableFogAlphaOnly | fogShift | shading
  | wbuffer | sortmode | alphaTestRef | viewport | clearColor | clearDepth | fogColor | fogOffset
  | u16ToonTable | shininessTable | shininessInd | activeFlushCommand | pendingFlushCommand
  | triStripToggle | tempVertInfo_count | tempVertInfo_map | tempVertInfo_first
  deriving DecidableEq, Repr

def Variable.address (var : Variable) : Nat := var.ctorIdx

def HACK_GXIFO_SIZE : Nat := 200000

def row (desc : String) (size count : Nat) (var : Variable) : SFORMAT where
  desc := desc.toList.map fun letter => BitVec.ofNat 8 letter.toNat
  size := BitVec.ofNat 32 size
  count := BitVec.ofNat 32 count
  v := var.address

def SF_GFX3D : List SFORMAT :=
  [row "GCTL" 4 1 .control,row "GPAT" 4 1 .polyAttr,row "GPAP" 4 1 .polyAttrPending,
    row "GINB" 4 1 .inBegin,row "GTFM" 4 1 .textureFormat,row "GTPA" 4 1 .texturePalette,
    row "GMOD" 4 1 .mode,row "GMTM" 4 16 .mtxTemporal,row "GMCU" 4 64 .mtxCurrent,
    row "ML4I" 1 1 .ML4x4ind,row "ML3I" 1 1 .ML4x3ind,row "MM4I" 1 1 .MM4x4ind,
    row "MM3I" 1 1 .MM4x3ind,row "MMxI" 1 1 .MM3x3ind,row "GSCO" 4 1 .u16coord,
    row "GCOI" 1 1 .coordind,row "GVFM" 4 1 .vtxFormat,row "GTRN" 4 4 .trans,
    row "GTRI" 1 1 .transind,row "GSCA" 4 4 .scale,row "GSCI" 1 1 .scaleind,
    row "G_T_" 4 1 ._t,row "G_S_" 4 1 ._s,row "GL_T" 4 1 .last_t,row "GL_S" 4 1 .last_s,
    row "GLCM" 4 1 .clCmd,row "GLIN" 4 1 .clInd,row "GLI2" 4 1 .clInd2,
    row "GLSB" 4 1 .isSwapBuffers,row "GLBT" 4 1 .BTind,row "GLPT" 4 1 .PTind,
    row "GLPC" 4 4 .PTcoords,row "GBTC" 2 6 .BTcoords,row "GFHE" 4 1 .gxFIFO_head,
    row "GFTA" 4 1 .gxFIFO_tail,row "GFSZ" 4 1 .gxFIFO_size,
    row "GFMS" 4 1 .gxFIFO_matrix_stack_op_size,row "GFCM" 1 HACK_GXIFO_SIZE .gxFIFO_cmd,
    row "GFPM" 4 HACK_GXIFO_SIZE .gxFIFO_param,row "GPHE" 1 1 .gxPIPE_head,
    row "GPTA" 1 1 .gxPIPE_tail,row "GPSZ" 1 1 .gxPIPE_size,row "GPCM" 1 4 .gxPIPE_cmd,
    row "GPPM" 4 4 .gxPIPE_param,row "GCOL" 1 4 .colorRGB,row "GLCO" 4 4 .lightColor,
    row "GLDI" 4 4 .lightDirection,row "GMDI" 2 1 .dsDiffuse,row "GMAM" 2 1 .dsAmbient,
    row "GMSP" 2 1 .dsSpecular,row "GMEM" 2 1 .dsEmission,row "GFLP" 4 1 .flushPending,
    row "GDRP" 4 1 .drawPending,row "GSET" 4 1 .enableTexturing,
    row "GSEA" 4 1 .enableAlphaTest,row "GSEB" 4 1 .enableAlphaBlending,
    row "GSEX" 4 1 .enableAntialiasing,row "GSEE" 4 1 .enableEdgeMarking,
    row "GSEC" 4 1 .enableClearImage,row "GSEF" 4 1 .enableFog,
    row "GSEO" 4 1 .enableFogAlphaOnly,row "GFSH" 4 1 .fogShift,row "GSSH" 4 1 .shading,
    row "GSWB" 4 1 .wbuffer,row "GSSM" 4 1 .sortmode,row "GSAR" 1 1 .alphaTestRef,
    row "GSVP" 4 1 .viewport,row "GSCC" 4 1 .clearColor,row "GSCD" 4 1 .clearDepth,
    row "GSFC" 4 4 .fogColor,row "GSFO" 4 1 .fogOffset,row "GST4" 2 32 .u16ToonTable,
    row "GSSU" 1 128 .shininessTable,row "GSSI" 4 1 .shininessInd,
    row "GSAF" 4 1 .activeFlushCommand,row "GSPF" 4 1 .pendingFlushCommand,
    row "GTST" 4 1 .triStripToggle,row "GTVC" 4 1 .tempVertInfo_count,
    row "GTVM" 4 4 .tempVertInfo_map,row "GTVF" 4 1 .tempVertInfo_first]

/-- The bytes of a variable behind those of its row: `u16coord` is four words,
`transind` and `scaleind` are of type `int`. -/
def beyond (v : Nat) : Nat :=
  if v = Variable.u16coord.address then 4
  else if v = Variable.transind.address ∨ v = Variable.scaleind.address then 3
  else 0

structure POLY where
  vtxFormat : u8
  vertIndexes : Fin 4 → u16
  type : u32
  polyAttr : u32
  texParam : u32
  texPalette : u32
  viewport : u32
  miny : f32
  maxy : f32
  minz : f32
  maxz : f32

structure VERT where
  x : f32
  y : f32
  z : f32
  w : f32
  u : f32
  v : f32
  fcolor : Fin 3 → f32
  color : Fin 3 → u8

/-- A `POLYLIST` or a `VERTLIST`. -/
structure Entries (α : Type) where
  count : u32
  list : Nat → α

structure MatrixStack where
  position : u32
  matrix : Nat → Fin 16 → f32

/-- `mtxStack[i].size`, set by the constructor; `MatrixStackSetMaxSize` allocates
one matrix more. -/
def stackSize : Fin 4 → Nat
  | 0 => 1
  | 1 => 31
  | 2 => 31
  | 3 => 1

structure Gfx where
  vars : Vars
  vertlists : Fin 2 → Entries VERT
  polylists : Fin 2 → Entries POLY
  listTwiddle : Fin 2
  mtxStack : Fin 4 → MatrixStack
  shiftCommand : u32
  paramCounter : u32
  cacheLightDirection : Fin 4 → Fin 4 → f32
  cacheHalfVector : Fin 4 → Fin 4 → f32
  cullingMask : u32
  envMode : u32
  lightMask : u32
  texCoordinateTransform : u32

namespace Gfx

variable (gfx : Gfx)

def vertlist : Entries VERT := gfx.vertlists gfx.listTwiddle

def polylist : Entries POLY := gfx.polylists gfx.listTwiddle

/-- A variable of type `u32`. -/
def word (gfx : Gfx) (var : Variable) : u32 := Raw.ofBytes (gfx.vars var.address)

def gfx3d_glPolygonAttrib_cache : Gfx :=
  let polyAttr := gfx.word .polyAttr
  { gfx with
    lightMask := polyAttr &&& 0xF
    envMode := (polyAttr &&& 0x30) >>> 4
    cullingMask := (polyAttr >>> 6) &&& 3 }

def gfx3d_glTexImage_cache : Gfx :=
  { gfx with texCoordinateTransform := gfx.word .textureFormat >>> 30 }

abbrev LightVectors := Gfx → Fin 4 → (Fin 4 → f32) × (Fin 4 → f32)

def gfx3d_glLightDirection_cache (vectors : LightVectors) (gfx : Gfx) (i : Fin 4) : Gfx :=
  { gfx with
    cacheLightDirection := update gfx.cacheLightDirection i (vectors gfx i).1
    cacheHalfVector := update gfx.cacheHalfVector i (vectors gfx i).2 }

end Gfx

def POLY.save (poly : POLY) : List u8 :=
  OSWRITE poly.type ++ OSWRITE poly.vertIndexes ++ OSWRITE poly.polyAttr ++
    OSWRITE poly.texParam ++ OSWRITE poly.texPalette ++ OSWRITE poly.viewport ++
    OSWRITE poly.miny ++ OSWRITE poly.maxy

def VERT.save (vert : VERT) : List u8 :=
  OSWRITE vert.x ++ OSWRITE vert.y ++ OSWRITE vert.z ++ OSWRITE vert.w ++ OSWRITE vert.u ++
    OSWRITE vert.v ++ OSWRITE vert.color ++ OSWRITE vert.fcolor

/-- The position and `size * 16` floats. -/
def MatrixStack.save (stack : MatrixStack) (size : Nat) : List u8 :=
  OSWRITE stack.position ++ (List.range size).flatMap fun slot => OSWRITE (stack.matrix slot)

variable (gfx : Gfx) (vectors : Gfx.LightVectors)

def POLY.load (poly : POLY) : StateM Stream POLY := do
  let type ← OSREAD poly.type
  let vertIndexes ← OSREAD poly.vertIndexes
  let polyAttr ← OSREAD poly.polyAttr
  let texParam ← OSREAD poly.texParam
  let texPalette ← OSREAD poly.texPalette
  let viewport ← OSREAD poly.viewport
  let miny ← OSREAD poly.miny
  let maxy ← OSREAD poly.maxy
  pure { poly with
    type := type, vertIndexes := vertIndexes, polyAttr := polyAttr, texParam := texParam
    texPalette := texPalette, viewport := viewport, miny := miny, maxy := maxy }

def VERT.load (vert : VERT) : StateM Stream VERT := do
  let x ← OSREAD vert.x
  let y ← OSREAD vert.y
  let z ← OSREAD vert.z
  let w ← OSREAD vert.w
  let u ← OSREAD vert.u
  let v ← OSREAD vert.v
  let color ← OSREAD vert.color
  let fcolor ← OSREAD vert.fcolor
  pure { x := x, y := y, z := z, w := w, u := u, v := v, fcolor := fcolor, color := color }

def loadEntries {α : Type} (load : α → StateM Stream α) (ents : Entries α) :
    StateM Stream (Entries α) := do
  let n ← OSREAD ents.count
  let list ← loadList load ents.list n.toInt.toNat
  pure ⟨n,list⟩

def MatrixStack.load (stack : MatrixStack) (size : Nat) : StateM Stream MatrixStack := do
  let pos ← OSREAD stack.position
  let matrix ← loadList OSREAD stack.matrix size
  pure ⟨pos,matrix⟩

def loadStacks : StateM Stream Gfx := do
  let projection ← (gfx.mtxStack 0).load (stackSize 0)
  let coordinate ← (gfx.mtxStack 1).load (stackSize 1)
  let directional ← (gfx.mtxStack 2).load (stackSize 2)
  let texture ← (gfx.mtxStack 3).load (stackSize 3)
  pure { gfx with
    mtxStack := fun i =>
      match i with
      | 0 => projection
      | 1 => coordinate
      | 2 => directional
      | 3 => texture }

def gxf_hardware_loadstate : StateM Stream Gfx := do
  let (ok, version) ← readWord 0
  if ok = false then pure gfx
  else if version = 0 then do
    let (_, junk32) ← readWord 0
    let commandCursor := 4 - junk32
    let skipped := if commandCursor < 4 then (4 - commandCursor).toNat else 0
    discard skipped
    discard 4
    discard skipped
    discard 1
    pure gfx
  else if version = 1 then do
    discard 4
    discard 4
    discard 4
    discard 4
    discard 1
    pure gfx
  else if version = 2 then do
    let (_, shiftCommand) ← readWord gfx.shiftCommand
    let (_, paramCounter) ← readWord gfx.paramCounter
    pure { gfx with shiftCommand := shiftCommand, paramCounter := paramCounter }
  else pure gfx

def loadLists : StateM Stream Gfx := do
  let vertlist ← loadEntries VERT.load gfx.vertlist
  let polylist ← loadEntries POLY.load gfx.polylist
  pure { gfx with
    vertlists := update gfx.vertlists gfx.listTwiddle vertlist
    polylists := update gfx.polylists gfx.listTwiddle polylist }

def loadLightCaches : StateM Stream Gfx := do
  let cacheLightDirection ← OSREAD gfx.cacheLightDirection
  let cacheHalfVector ← OSREAD gfx.cacheHalfVector
  pure { gfx with
    cacheLightDirection := cacheLightDirection, cacheHalfVector := cacheHalfVector }

/-- `listTwiddle ^ 1`, with the rendered lists wiped. -/
def wipeRendered : Gfx :=
  let other := 1 - gfx.listTwiddle
  { gfx with
    vertlists := update gfx.vertlists other { gfx.vertlists other with count := 0 }
    polylists := update gfx.polylists other { gfx.polylists other with count := 0 } }

def prepare (gfx : Gfx) : Gfx :=
  { [0,1,2,3].foldl (Gfx.gfx3d_glLightDirection_cache vectors)
      gfx.gfx3d_glPolygonAttrib_cache.gfx3d_glTexImage_cache with listTwiddle := 0 }

def gfx3d_loadstate (gfx : Gfx) (size : Nat) :
    StateM Stream (Bool × Gfx) := do
  let (ok, version) ← readWord 0
  if ok = false then pure (false, gfx)
  else do
    let version : u32 := if size = 8 then 0 else version
    let gfx := prepare vectors gfx
    let gfx ← if 1 ≤ version.toInt then loadLists gfx else pure gfx
    let gfx ← if 2 ≤ version.toInt then loadStacks gfx else pure gfx
    let gfx ← if 3 ≤ version.toInt then gxf_hardware_loadstate gfx else pure gfx
    let gfx := wipeRendered gfx
    let gfx ← if 4 ≤ version.toInt then loadLightCaches gfx else pure gfx
    pure (true, gfx)

end Desmume.GeometryState
