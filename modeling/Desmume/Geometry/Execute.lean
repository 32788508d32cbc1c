/-
The variables of the geometry engine and the commands that set them:
`gfx3d_execute`, the caches, `gfx3d_reset`.

Floats are kept as the words that hold them, and what is computed in floats is a
parameter.
-/

import Desmume.Geometry.Commands
import Desmume.Geometry.MatrixStack
import Desmume.Geometry.PolygonList

namespace Desmume.Gfx3d
namespace Execute

open Function (update)

abbrev f32 := u32

abbrev Matrix := Nat → f32

def MatrixInit : Matrix := fun i => if i = 0 ∨ i = 5 ∨ i = 10 ∨ i = 15 then 0x3F800000 else 0

structure Vert where
  coord : Fin 4 → f32
  texcoord : f32 × f32
  color : Fin 3 → u8

def Vert.zero : Vert := { coord := fun _ => 0, texcoord := (0, 0), color := fun _ => 0 }

structure Lighting where
  dsDiffuse : u16
  dsAmbient : u16
  dsSpecular : u16
  dsEmission : u16
  lightMask : u32
  lightColor : Fin 4 → u32
  cacheLightDirection : Fin 4 → Fin 4 → f32
  cacheHalfVector : Fin 4 → Fin 4 → f32
  shininessTable : Nat → u8

/-- The computations in floats. -/
structure Floats where
  fromInt : u32 → f32
  fix2float : u32 → f32
  float16table : u16 → f32
  MatrixDivide4X4 : Matrix → Matrix
  MatrixDivide3X3 : Matrix → Matrix
  MatrixMultiply : Matrix → Matrix → Matrix
  MatrixScale : Matrix → (Nat → f32) → Matrix
  MatrixTranslate : Matrix → (Nat → f32) → Matrix
  /-- A half of the parameter of TEXCOORD, divided by sixteen. -/
  texcoord : u16 → f32
  /-- `last_s` and `last_t` from the coordinates, with the texture matrix. -/
  fromTexcoord : Matrix → f32 → f32 → f32 × f32
  fromNormal : Matrix → u32 → f32 → f32 → f32 × f32
  fromVertex : Matrix → (Fin 3 → u16) → f32 → f32 → f32 × f32
  lightVectors : Matrix → u32 → (Fin 4 → f32) × (Fin 4 → f32)
  lighting : Matrix → u32 → Lighting → Fin 3 → u8
  transform : Matrix → Matrix → (Fin 3 → u16) → Fin 4 → f32
  duplicated : Vert → Vert → Vert → Bool
  boxTest : Matrix → Matrix → (Nat → u16) → Bool
  posTest : Matrix → Matrix → (Nat → f32) → Nat → f32
  vecTest : Matrix → u32 → Fin 3 → u16

/-- `vec` are the three registers that VEC_TEST writes; `tr` and `tb` are bits of
GXSTAT. -/
structure Gfx where
  lists : Engine Vert
  matrices : Mtx.Geometry Matrix
  hardware : Gxf.GXF_Hardware
  mtxTemporal : Matrix
  ML4x4ind : u8
  ML4x3ind : u8
  MM4x4ind : u8
  MM4x3ind : u8
  MM3x3ind : u8
  u16coord : Fin 3 → u16
  coordind : u8
  trans : Nat → f32
  transind : u32
  scale : Nat → f32
  scaleind : u32
  _t : f32
  _s : f32
  last_t : f32
  last_s : f32
  isSwapBuffers : Bool
  BTind : u32
  PTind : u32
  BTcoords : Nat → u16
  PTcoords : Nat → f32
  colorRGB : Fin 3 → u8
  lightColor : Fin 4 → u32
  lightDirection : Fin 4 → u32
  dsDiffuse : u16
  dsAmbient : u16
  dsSpecular : u16
  dsEmission : u16
  shininessInd : u32
  shininessTable : Nat → u8
  cullingMask : u32
  envMode : u32
  lightMask : u32
  texCoordinateTransform : u32
  cacheLightDirection : Fin 4 → Fin 4 → f32
  cacheHalfVector : Fin 4 → Fin 4 → f32
  tr : Bool
  tb : Bool
  vec : Fin 3 → u16

namespace Gfx

def initial : Gfx where
  lists := Engine.initial Vert.zero
  matrices := Mtx.Geometry.initial MatrixInit
  hardware := Gxf.GXF_Hardware.reset
  mtxTemporal := fun _ => 0
  ML4x4ind := 0
  ML4x3ind := 0
  MM4x4ind := 0
  MM4x3ind := 0
  MM3x3ind := 0
  u16coord := fun _ => 0
  coordind := 0
  trans := fun _ => 0
  transind := 0
  scale := fun _ => 0
  scaleind := 0
  _t := 0
  _s := 0
  last_t := 0
  last_s := 0
  isSwapBuffers := false
  BTind := 0
  PTind := 0
  BTcoords := fun _ => 0
  PTcoords := fun i => if i = 3 then 0x3F800000 else 0
  colorRGB := fun _ => 31
  lightColor := fun _ => 0
  lightDirection := fun _ => 0
  dsDiffuse := 0
  dsAmbient := 0
  dsSpecular := 0
  dsEmission := 0
  shininessInd := 0
  shininessTable := fun _ => 0
  cullingMask := 0
  envMode := 0
  lightMask := 0
  texCoordinateTransform := 0
  cacheLightDirection := fun _ _ => 0
  cacheHalfVector := fun _ _ => 0
  tr := false
  tb := false
  vec := fun _ => 0

variable (floats : Floats) (gfx : Gfx) (v val : u32) (build : Build)

def gfx3d_glPolygonAttrib_cache : Gfx :=
  { gfx with
    lightMask := gfx.lists.polyAttr &&& 0xF
    envMode := (gfx.lists.polyAttr &&& 0x30) >>> 4
    cullingMask := (gfx.lists.polyAttr >>> 6) &&& 3 }

def gfx3d_glTexImage_cache : Gfx :=
  { gfx with texCoordinateTransform := gfx.lists.textureFormat >>> 30 }

def gfx3d_glLightDirection_cache (i : Fin 4) : Gfx :=
  let vectors := floats.lightVectors (gfx.matrices.mtxCurrent 2) (gfx.lightDirection i)
  { gfx with
    cacheLightDirection := update gfx.cacheLightDirection i vectors.1
    cacheHalfVector := update gfx.cacheHalfVector i vectors.2 }

def setCurrent (which : Fin 4) (current : Matrix) : Gfx :=
  { gfx with
    matrices := { gfx.matrices with
      mtxCurrent := update gfx.matrices.mtxCurrent which current } }

def current : Matrix := gfx.matrices.mtxCurrent gfx.matrices.mode

def follow (change : Matrix → Matrix) : Gfx :=
  if gfx.matrices.mode = 2 then gfx.setCurrent 1 (change (gfx.matrices.mtxCurrent 1)) else gfx

def gfx3d_glLoadIdentity : Gfx :=
  (gfx.setCurrent gfx.matrices.mode MatrixInit).follow fun _ => MatrixInit

/-- `(float)((v << 4) >> 4)`. -/
def matrixWord : f32 := floats.fromInt ((v <<< 4).sshiftRight 4)

def pastColumn (ind : u8) : u8 :=
  let ind := ind + 1
  if ind &&& 0x03 = 3 then ind + 1 else ind

def withoutColumn (matrix : Matrix) : Matrix := fun i =>
  if i = 3 ∨ i = 7 ∨ i = 11 then 0 else if i = 15 then 0x3F800000 else matrix i

def withoutRow (matrix : Matrix) : Matrix := fun i =>
  if i = 12 ∨ i = 13 ∨ i = 14 then 0 else matrix i

def gfx3d_glLoadMatrix4x4 : Gfx :=
  let mode := gfx.matrices.mode
  let gfx := gfx.setCurrent mode
    (update gfx.current gfx.ML4x4ind.toNat (matrixWord floats v))
  let ind := gfx.ML4x4ind + 1
  if ind < 16 then { gfx with ML4x4ind := ind }
  else
    let gfx := { gfx with ML4x4ind := 0 }
    let gfx := gfx.setCurrent mode (floats.MatrixDivide4X4 gfx.current)
    gfx.follow fun _ => gfx.matrices.mtxCurrent 2

def gfx3d_glLoadMatrix4x3 : Gfx :=
  let mode := gfx.matrices.mode
  let gfx := gfx.setCurrent mode
    (update gfx.current gfx.ML4x3ind.toNat (matrixWord floats v))
  let ind := pastColumn gfx.ML4x3ind
  if ind < 16 then { gfx with ML4x3ind := ind }
  else
    let gfx := { gfx with ML4x3ind := 0 }
    let gfx := gfx.setCurrent mode (withoutColumn (floats.MatrixDivide4X4 gfx.current))
    gfx.follow fun _ => gfx.matrices.mtxCurrent 2

def multiply (mtxTemporal : Matrix) : Gfx :=
  let gfx := gfx.setCurrent gfx.matrices.mode (floats.MatrixMultiply gfx.current mtxTemporal)
  let gfx := gfx.follow fun pos => floats.MatrixMultiply pos mtxTemporal
  { gfx with mtxTemporal := MatrixInit }

def gfx3d_glMultMatrix4x4 : Gfx :=
  let mtxTemporal := update gfx.mtxTemporal gfx.MM4x4ind.toNat (matrixWord floats v)
  let ind := gfx.MM4x4ind + 1
  if ind < 16 then { gfx with mtxTemporal := mtxTemporal, MM4x4ind := ind }
  else multiply floats { gfx with MM4x4ind := 0 } (floats.MatrixDivide4X4 mtxTemporal)

def gfx3d_glMultMatrix4x3 : Gfx :=
  let mtxTemporal := update gfx.mtxTemporal gfx.MM4x3ind.toNat (matrixWord floats v)
  let ind := pastColumn gfx.MM4x3ind
  if ind < 16 then { gfx with mtxTemporal := mtxTemporal, MM4x3ind := ind }
  else
    multiply floats { gfx with MM4x3ind := 0 } (withoutColumn (floats.MatrixDivide4X4 mtxTemporal))

def gfx3d_glMultMatrix3x3 : Gfx :=
  let mtxTemporal := update gfx.mtxTemporal gfx.MM3x3ind.toNat (matrixWord floats v)
  let ind := pastColumn gfx.MM3x3ind
  if ind < 12 then { gfx with mtxTemporal := mtxTemporal, MM3x3ind := ind }
  else
    multiply floats { gfx with MM3x3ind := 0 }
      (withoutRow (withoutColumn (floats.MatrixDivide3X3 mtxTemporal)))

def gfx3d_glScale : Gfx :=
  let scale := update gfx.scale gfx.scaleind.toNat (floats.fix2float v)
  let ind := gfx.scaleind + 1
  if ind.toInt < 3 then { gfx with scale := scale, scaleind := ind }
  else
    let which := if gfx.matrices.mode = 2 then 1 else gfx.matrices.mode
    let gfx := { gfx with scale := scale, scaleind := 0 }
    gfx.setCurrent which (floats.MatrixScale (gfx.matrices.mtxCurrent which) scale)

def gfx3d_glTranslate : Gfx :=
  let trans := update gfx.trans gfx.transind.toNat (floats.fix2float v)
  let ind := gfx.transind + 1
  if ind.toInt < 3 then { gfx with trans := trans, transind := ind }
  else
    let gfx := { gfx with trans := trans, transind := 0 }
    let gfx := gfx.setCurrent gfx.matrices.mode (floats.MatrixTranslate gfx.current trans)
    gfx.follow fun pos => floats.MatrixTranslate pos trans

def GFX3D_5TO6 (x : u8) : u8 := if x ≠ 0 then (x <<< 1) + 1 else 0

def component (c : Fin 3) : u8 := (v >>> (5 * c.val) &&& 0x1F).setWidth 8

def gfx3d_glColor3b : Gfx := { gfx with colorRGB := component v }

def lights : Lighting where
  dsDiffuse := gfx.dsDiffuse
  dsAmbient := gfx.dsAmbient
  dsSpecular := gfx.dsSpecular
  dsEmission := gfx.dsEmission
  lightMask := gfx.lightMask
  lightColor := gfx.lightColor
  cacheLightDirection := gfx.cacheLightDirection
  cacheHalfVector := gfx.cacheHalfVector
  shininessTable := gfx.shininessTable

def gfx3d_glNormal : Gfx :=
  let last :=
    if gfx.texCoordinateTransform = 2 then
      floats.fromNormal (gfx.matrices.mtxCurrent 3) v gfx._s gfx._t
    else (gfx.last_s, gfx.last_t)
  { gfx with
    last_s := last.1
    last_t := last.2
    colorRGB := floats.lighting (gfx.matrices.mtxCurrent 2) v gfx.lights }

def gfx3d_glTexCoord : Gfx :=
  let _t := floats.texcoord ((val >>> 16).setWidth 16)
  let _s := floats.texcoord (val.setWidth 16)
  let last :=
    if gfx.texCoordinateTransform = 1 then
      floats.fromTexcoord (gfx.matrices.mtxCurrent 3) _s _t
    else (_s, _t)
  { gfx with _t := _t, _s := _s, last_s := last.1, last_t := last.2 }

def SetVertex (build : Build) (floats : Floats) (gfx : Gfx) : Gfx :=
  let last :=
    if gfx.texCoordinateTransform = 3 then
      floats.fromVertex (gfx.matrices.mtxCurrent 3) gfx.u16coord gfx._s gfx._t
    else (gfx.last_s, gfx.last_t)
  let vert : Vert :=
    { coord := floats.transform (gfx.matrices.mtxCurrent 0) (gfx.matrices.mtxCurrent 1)
        gfx.u16coord
      texcoord := last
      color := fun c => GFX3D_5TO6 (gfx.colorRGB c) }
  { gfx with
    last_s := last.1
    last_t := last.2
    lists := (Gfx3d.SetVertex build floats.duplicated gfx.lists vert).1 }

def low : u16 := v.setWidth 16

def high : u16 := (v >>> 16).setWidth 16

def gfx3d_glVertex16b (floats : Floats) (gfx : Gfx) (v : u32) : Gfx :=
  if gfx.coordind = 0 then
    { gfx with
      u16coord := update (update gfx.u16coord 0 (low v)) 1 (high v)
      coordind := gfx.coordind + 1 }
  else
    SetVertex build floats
      { gfx with u16coord := update gfx.u16coord 2 (low v), coordind := 0 }

def ten (c : Fin 3) : u16 := (v >>> (10 * c.val) &&& 1023).setWidth 16

def gfx3d_glVertex10b (floats : Floats) (gfx : Gfx) (v : u32) : Gfx :=
  SetVertex build floats { gfx with u16coord := fun c => ten v c <<< 6 }

def gfx3d_glVertex3_cord (floats : Floats) (one two : Fin 3) (gfx : Gfx) (v : u32) : Gfx :=
  SetVertex build floats
    { gfx with u16coord := update (update gfx.u16coord one (low v)) two (high v) }

def gfx3d_glVertex_rel (floats : Floats) (gfx : Gfx) (v : u32) : Gfx :=
  SetVertex build floats
    { gfx with u16coord := fun c => gfx.u16coord c + (ten v c <<< 6).sshiftRight 6 }

/-! ### Attributes -/

def gfx3d_glPolygonAttrib : Gfx :=
  { gfx with lists := { gfx.lists with polyAttrPending := val } }

def gfx3d_glTexImage : Gfx :=
  gfx3d_glTexImage_cache { gfx with lists := { gfx.lists with textureFormat := val } }

def gfx3d_glTexPalette : Gfx :=
  { gfx with lists := { gfx.lists with texturePalette := val } }

def gfx3d_glMaterial0 : Gfx :=
  { gfx with
    dsDiffuse := low val
    dsAmbient := high val
    colorRGB := if val.getLsbD 15 then component val else gfx.colorRGB }

def gfx3d_glMaterial1 : Gfx :=
  { gfx with dsSpecular := low val, dsEmission := high val }

def lightIndex : Fin 4 :=
  ⟨(v >>> 30).toNat,by
    have bound := v.isLt
    rw [BitVec.toNat_ushiftRight,Nat.shiftRight_eq_div_pow]
    omega⟩

def gfx3d_glLightDirection : Gfx :=
  gfx3d_glLightDirection_cache floats
    { gfx with lightDirection := update gfx.lightDirection (lightIndex v) v }
    (lightIndex v)

def gfx3d_glLightColor : Gfx :=
  { gfx with lightColor := update gfx.lightColor (lightIndex v) v }

/-- A byte divided by `256.0f` is below one, and the conversion truncates. -/
def shininess (byte : u32) : u8 := BitVec.ofNat 8 ((byte &&& 0xFF).toNat / 256)

def gfx3d_glShininess : Gfx :=
  let ind := gfx.shininessInd.toNat
  let table := update gfx.shininessTable ind (shininess val)
  let table := update table (ind + 1) (shininess (val >>> 8))
  let table := update table (ind + 2) (shininess (val >>> 16))
  let table := update table (ind + 3) (shininess (val >>> 24))
  let next := gfx.shininessInd + 4
  { gfx with
    shininessTable := table
    shininessInd := if next.toInt < 128 then next else 0 }

def gfx3d_glBegin (gfx : Gfx) (v : u32) : Gfx :=
  gfx3d_glPolygonAttrib_cache { gfx with lists := Gfx3d.gfx3d_glBegin gfx.lists v }

def gfx3d_glEnd (gfx : Gfx) : Gfx := { gfx with lists := Gfx3d.gfx3d_glEnd gfx.lists }

def gfx3d_glViewPort : Gfx :=
  { gfx with lists := { gfx.lists with viewport := v } }

def gfx3d_glBoxTest : Gfx :=
  let ind := gfx.BTind.toNat
  let coords := update (update gfx.BTcoords ind (low v)) (ind + 1) (high v)
  let gfx := { gfx with BTcoords := coords, BTind := gfx.BTind + 2, tr := false, tb := true }
  if gfx.BTind < 5 then gfx
  else
    { gfx with
      BTind := 0
      tb := false
      tr := floats.boxTest (gfx.matrices.mtxCurrent 1) (gfx.matrices.mtxCurrent 0) coords }

def gfx3d_glPosTest : Gfx :=
  let ind := gfx.PTind.toNat
  let coords := update (update gfx.PTcoords ind (floats.float16table (low v)))
    (ind + 1) (floats.float16table (high v))
  let gfx := { gfx with PTcoords := coords, PTind := gfx.PTind + 2, tb := true }
  if gfx.PTind < 3 then gfx
  else
    { gfx with
      PTind := 0
      tb := false
      PTcoords := floats.posTest (gfx.matrices.mtxCurrent 1) (gfx.matrices.mtxCurrent 0)
        (update coords 3 0x3F800000) }

def gfx3d_glVecTest : Gfx :=
  { gfx with tb := false, vec := floats.vecTest (gfx.matrices.mtxCurrent 2) v }

/-- `NDS_Reset` has made GXSTAT and the registers anew before. What follows
assigns the variables that are named here and no others. -/
def gfx3d_reset (gfx : Gfx) : Gfx :=
  { gfx with
    tr := false
    tb := false
    vec := fun _ => 0
    shininessTable := fun _ => 0
    hardware := Gxf.GXF_Hardware.reset
    lists := Gfx3d.gfx3d_reset Vert.zero gfx.lists
    u16coord := fun _ => 0
    coordind := 0
    trans := fun _ => 0
    transind := 0
    scale := fun _ => 0
    scaleind := 0
    colorRGB := fun _ => 0
    matrices := { Mtx.gfx3d_reset MatrixInit gfx.matrices with se := false }
    mtxTemporal := MatrixInit
    ML4x4ind := 0
    ML4x3ind := 0
    MM4x4ind := 0
    MM4x3ind := 0
    MM3x3ind := 0
    BTind := 0
    PTind := 0
    _t := 0
    _s := 0
    last_t := 0
    last_s := 0
    isSwapBuffers := false }

/-- What reading the rows of `SF_GFX3D` changes. GXSTAT and the registers come
with the rows of the MMU. The row of `u16coord` is of four bytes, those of
`transind` and `scaleind` are of one. -/
def ReadStateChunk (saved : Gfx) : Gfx :=
  let byte := fun (old new : u32) => old &&& ~~~0xFF ||| new &&& 0xFF
  { saved with
    lists := { saved.lists with
      polylists := gfx.lists.polylists
      vertlists := gfx.lists.vertlists
      listTwiddle := gfx.lists.listTwiddle
      polygonListCompleted := gfx.lists.polygonListCompleted }
    matrices := { saved.matrices with mtxStack := gfx.matrices.mtxStack }
    hardware := gfx.hardware
    u16coord := update saved.u16coord 2 (gfx.u16coord 2)
    transind := byte gfx.transind saved.transind
    scaleind := byte gfx.scaleind saved.scaleind
    cullingMask := gfx.cullingMask
    envMode := gfx.envMode
    lightMask := gfx.lightMask
    texCoordinateTransform := gfx.texCoordinateTransform
    cacheLightDirection := gfx.cacheLightDirection
    cacheHalfVector := gfx.cacheHalfVector }

/-- The elements up to the count; `POLY.save` leaves the format out. -/
def loadPolylist (old saved : POLYLIST) : POLYLIST where
  count := saved.count
  list := fun i =>
    if 0 ≤ i ∧ i < saved.count then { saved.list i with vtxFormat := (old.list i).vtxFormat }
    else old.list i

def loadVertlist (old saved : VERTLIST Vert) : VERTLIST Vert where
  count := saved.count
  list := fun i => if 0 ≤ i ∧ i < saved.count then saved.list i else old.list i

def loadLists (version : Nat) (lists saved : Engine Vert) : Engine Vert :=
  let polylist := loadPolylist (lists.polylists 0) saved.polylist
  let vertlist := loadVertlist (lists.vertlists 0) saved.vertlist
  { lists with
    polylists := if 1 ≤ version then update lists.polylists 0 polylist else lists.polylists
    vertlists := if 1 ≤ version then update lists.vertlists 0 vertlist else lists.vertlists
    listTwiddle := 0 }

def wipeRendered (lists : Engine Vert) : Engine Vert :=
  { lists with
    polylists := update lists.polylists 1 { lists.polylists 1 with count := 0 }
    vertlists := update lists.vertlists 1 { lists.vertlists 1 with count := 0 } }

def loadStack (old saved : Mtx.MatrixStack Matrix) : Mtx.MatrixStack Matrix :=
  { old with
    position := saved.position
    matrix := fun slot => if slot < old.size.toNat then saved.matrix slot else old.matrix slot }

def gfx3d_loadstate (version : Nat) (gfx saved : Gfx) : Gfx :=
  let gfx := gfx3d_glTexImage_cache (gfx3d_glPolygonAttrib_cache gfx)
  let gfx := gfx3d_glLightDirection_cache floats gfx 0
  let gfx := gfx3d_glLightDirection_cache floats gfx 1
  let gfx := gfx3d_glLightDirection_cache floats gfx 2
  let gfx := gfx3d_glLightDirection_cache floats gfx 3
  { gfx with
    lists := wipeRendered (loadLists version gfx.lists saved.lists)
    matrices :=
      if 2 ≤ version then
        { gfx.matrices with
          mtxStack := fun which =>
            loadStack (gfx.matrices.mtxStack which) (saved.matrices.mtxStack which) }
      else gfx.matrices
    hardware := if 3 ≤ version then saved.hardware else gfx.hardware
    cacheLightDirection :=
      if 4 ≤ version then saved.cacheLightDirection else gfx.cacheLightDirection
    cacheHalfVector := if 4 ≤ version then saved.cacheHalfVector else gfx.cacheHalfVector }

end Gfx

inductive Command
  | MTX_MODE (v : u32)
  | MTX_PUSH
  | MTX_POP (v : u32)
  | MTX_STORE (v : u32)
  | MTX_RESTORE (v : u32)
  | MTX_IDENTITY
  | MTX_LOAD_4x4 (v : u32)
  | MTX_LOAD_4x3 (v : u32)
  | MTX_MULT_4x4 (v : u32)
  | MTX_MULT_4x3 (v : u32)
  | MTX_MULT_3x3 (v : u32)
  | MTX_SCALE (v : u32)
  | MTX_TRANS (v : u32)
  | COLOR (v : u32)
  | NORMAL (v : u32)
  | TEXCOORD (v : u32)
  | VTX_16 (v : u32)
  | VTX_10 (v : u32)
  | VTX_XY (v : u32)
  | VTX_XZ (v : u32)
  | VTX_YZ (v : u32)
  | VTX_DIFF (v : u32)
  | POLYGON_ATTR (v : u32)
  | TEXIMAGE_PARAM (v : u32)
  | PLTT_BASE (v : u32)
  | DIF_AMB (v : u32)
  | SPE_EMI (v : u32)
  | LIGHT_VECTOR (v : u32)
  | LIGHT_COLOR (v : u32)
  | SHININESS (v : u32)
  | BEGIN_VTXS (v : u32)
  | END_VTXS
  | SWAP_BUFFERS
  | VIEWPORT (v : u32)
  | BOX_TEST (v : u32)
  | POS_TEST (v : u32)
  | VEC_TEST (v : u32)

open Gfx

def gfx3d_execute (build : Build) (floats : Floats) (gfx : Gfx) : Command → Gfx
  | .MTX_MODE v => { gfx with matrices := Mtx.gfx3d_glMatrixMode gfx.matrices v }
  | .MTX_PUSH => { gfx with matrices := Mtx.gfx3d_glPushMatrix gfx.matrices }
  | .MTX_POP v => { gfx with matrices := Mtx.gfx3d_glPopMatrix gfx.matrices v }
  | .MTX_STORE v => { gfx with matrices := Mtx.gfx3d_glStoreMatrix gfx.matrices v }
  | .MTX_RESTORE v => { gfx with matrices := Mtx.gfx3d_glRestoreMatrix gfx.matrices v }
  | .MTX_IDENTITY => gfx3d_glLoadIdentity gfx
  | .MTX_LOAD_4x4 v => gfx3d_glLoadMatrix4x4 floats gfx v
  | .MTX_LOAD_4x3 v => gfx3d_glLoadMatrix4x3 floats gfx v
  | .MTX_MULT_4x4 v => gfx3d_glMultMatrix4x4 floats gfx v
  | .MTX_MULT_4x3 v => gfx3d_glMultMatrix4x3 floats gfx v
  | .MTX_MULT_3x3 v => gfx3d_glMultMatrix3x3 floats gfx v
  | .MTX_SCALE v => gfx3d_glScale floats gfx v
  | .MTX_TRANS v => gfx3d_glTranslate floats gfx v
  | .COLOR v => gfx3d_glColor3b gfx v
  | .NORMAL v => gfx3d_glNormal floats gfx v
  | .TEXCOORD v => gfx3d_glTexCoord floats gfx v
  | .VTX_16 v => gfx3d_glVertex16b build floats gfx v
  | .VTX_10 v => gfx3d_glVertex10b build floats gfx v
  | .VTX_XY v => gfx3d_glVertex3_cord build floats 0 1 gfx v
  | .VTX_XZ v => gfx3d_glVertex3_cord build floats 0 2 gfx v
  | .VTX_YZ v => gfx3d_glVertex3_cord build floats 1 2 gfx v
  | .VTX_DIFF v => gfx3d_glVertex_rel build floats gfx v
  | .POLYGON_ATTR v => gfx3d_glPolygonAttrib gfx v
  | .TEXIMAGE_PARAM v => gfx3d_glTexImage gfx v
  | .PLTT_BASE v => gfx3d_glTexPalette gfx v
  | .DIF_AMB v => gfx3d_glMaterial0 gfx v
  | .SPE_EMI v => gfx3d_glMaterial1 gfx v
  | .LIGHT_VECTOR v => gfx3d_glLightDirection floats gfx v
  | .LIGHT_COLOR v => gfx3d_glLightColor gfx v
  | .SHININESS v => gfx3d_glShininess gfx v
  | .BEGIN_VTXS v => Gfx.gfx3d_glBegin gfx v
  | .END_VTXS => Gfx.gfx3d_glEnd gfx
  | .SWAP_BUFFERS => { gfx with isSwapBuffers := true }
  | .VIEWPORT v => gfx3d_glViewPort gfx v
  | .BOX_TEST v => gfx3d_glBoxTest floats gfx v
  | .POS_TEST v => gfx3d_glPosTest floats gfx v
  | .VEC_TEST v => gfx3d_glVecTest floats gfx v

def gfx3d_VBlankSignal (gfx : Gfx) : Gfx :=
  if gfx.isSwapBuffers then
    { gfx with lists := gfx3d_doFlush gfx.lists, isSwapBuffers := false }
  else gfx

/-- A word at the command port. What it sends goes through the FIFO and is
executed from there. -/
def gfx3d_sendCommandToFIFO (gfx : Gfx) (val : u32) : Gfx :=
  match gfx.hardware.receive Gxf.iterations val with
  | some (hardware, _) => { gfx with hardware := hardware }
  | none => gfx

inductive Op
  | execute (cmd : Command)
  | send (val : u32)
  | VBlankSignal
  | loadstate (version : Nat) (saved : Gfx)
  | reset

def step (build : Build) (floats : Floats) (gfx : Gfx) : Op → Gfx
  | .execute cmd => gfx3d_execute build floats gfx cmd
  | .send val => gfx3d_sendCommandToFIFO gfx val
  | .VBlankSignal => gfx3d_VBlankSignal gfx
  | .loadstate version saved =>
      gfx3d_loadstate floats version (ReadStateChunk gfx saved) saved
  | .reset => Gfx.gfx3d_reset gfx

end Execute
end Desmume.Gfx3d
