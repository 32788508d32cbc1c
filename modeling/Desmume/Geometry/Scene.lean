/-
The scene handed to the renderer: `gfx3d_glFlush`, `gfx3d_doFlush` and the two
VBlank signals.

A flush points the renderer at the lists just built, copies the render state and
orders the polygons by depth; building goes on in the other lists.
-/

import Desmume.Geometry.PolygonList
import Desmume.Lib.IndexBuffer
import Desmume.Lib.Table

namespace Desmume.Gfx3d
namespace Rendering

open Function (update)

/-- Floats are kept as the words that hold them. -/
structure VERT where
  x : u32
  y : u32
  z : u32
  w : u32
  u : u32
  v : u32
  color : Fin 3 → u8

def VERT.zero : VERT :=
  { x := 0, y := 0, z := 0, w := 0, u := 0, v := 0, color := fun _ => 0 }

def floatValue (word : u32) : ℚ :=
  let mantissa : ℚ := (word &&& 0x7FFFFF).toNat
  let exponent := ((word >>> 23) &&& 0xFF).toNat
  let magnitude :=
    if exponent = 0 then mantissa / 2 ^ 149 else (2 ^ 23 + mantissa) * 2 ^ exponent / 2 ^ 150
  if word.getLsbD 31 then -magnitude else magnitude

/-- The line segment test of `SetVertex`. -/
def duplicated (vert0 vert1 vert2 : VERT) : Bool :=
  let x := fun vert : VERT => floatValue vert.x
  let y := fun vert : VERT => floatValue vert.y
  (x vert0 = x vert1 ∧ y vert0 = y vert1) ∨ (x vert1 = x vert2 ∧ y vert1 = y vert2) ∨
    (y vert0 = y vert1 ∧ y vert1 = y vert2) ∨ (x vert0 = x vert1 ∧ x vert1 = x vert2)

def TEXMODE_A3I5 : u8 := 1

def TEXMODE_A5I3 : u8 := 6

def getAttributeAlpha (poly : POLY) : u8 :=
  ((poly.polyAttr &&& (0x1F#32 <<< 16)) >>> 16).setWidth 8

def getTexParamTexFormat (poly : POLY) : u8 :=
  ((poly.texParam &&& (0x07#32 <<< 26)) >>> 26).setWidth 8

def isWireframe (poly : POLY) : Bool := getAttributeAlpha poly = 0

def isOpaque (poly : POLY) : Bool := getAttributeAlpha poly = 31

def isTranslucent (poly : POLY) : Bool :=
  if !isWireframe poly && !isOpaque poly then true
  else
    let texFormat := getTexParamTexFormat poly
    texFormat = TEXMODE_A3I5 ∨ texFormat = TEXMODE_A5I3

inductive Shading
  | TOON
  | HIGHLIGHT
  deriving DecidableEq

structure GFX3D_State where
  enableTexturing : Bool
  enableAlphaTest : Bool
  enableAlphaBlending : Bool
  enableAntialiasing : Bool
  enableEdgeMarking : Bool
  enableClearImage : Bool
  enableFog : Bool
  enableFogAlphaOnly : Bool
  wbuffer : Bool
  sortmode : Bool
  invalidateToon : Bool
  alphaTestRef : u8
  activeFlushCommand : u32
  pendingFlushCommand : u32
  clearDepth : u32
  clearColor : u32
  shading : Shading
  fogColor : u32
  fogOffset : u32
  fogShift : u32
  u16ToonTable : Nat → u16
  shininessTable : Nat → u8

def GFX3D_State.zero : GFX3D_State :=
  { enableTexturing := false
    enableAlphaTest := false
    enableAlphaBlending := false
    enableAntialiasing := false
    enableEdgeMarking := false
    enableClearImage := false
    enableFog := false
    enableFogAlphaOnly := false
    wbuffer := false
    sortmode := false
    invalidateToon := false
    alphaTestRef := 0
    activeFlushCommand := 0
    pendingFlushCommand := 0
    clearDepth := 0
    clearColor := 0
    shading := .TOON
    fogColor := 0
    fogOffset := 0
    fogShift := 0
    u16ToonTable := fun _ => 0
    shininessTable := fun _ => 0 }

def GFX3D_State.construct (mem : GFX3D_State) : GFX3D_State :=
  { mem with
    enableTexturing := true
    enableAlphaTest := true
    enableAlphaBlending := false
    enableAntialiasing := false
    enableEdgeMarking := false
    enableClearImage := false
    enableFog := false
    enableFogAlphaOnly := false
    shading := .TOON
    alphaTestRef := 0
    activeFlushCommand := 0
    pendingFlushCommand := 0
    clearDepth := 1
    clearColor := 0
    fogColor := 0
    fogOffset := 0
    fogShift := 0
    invalidateToon := true
    u16ToonTable := fun _ => 0
    shininessTable := fun _ => 0 }

def DS_DEPTH15TO24 (depth : u32) : u32 :=
  let i := depth &&& 0x7FFF
  i * 0x200 + ((i + 1) >>> 15) * 0x01FF

/-- The fields that a flush takes from `control` and from the command of the
flush before. -/
def GFX3D_State.flush (st : GFX3D_State) (control : u32) : GFX3D_State :=
  { st with
    shading := if control.getLsbD 1 then .HIGHLIGHT else .TOON
    enableTexturing := control.getLsbD 0
    enableAlphaTest := control.getLsbD 2
    enableAlphaBlending := control.getLsbD 3
    enableAntialiasing := control.getLsbD 4
    enableEdgeMarking := control.getLsbD 5
    enableFogAlphaOnly := control.getLsbD 6
    enableFog := control.getLsbD 7
    enableClearImage := control.getLsbD 14
    fogShift := (control >>> 8) &&& 0xF
    sortmode := st.activeFlushCommand.getLsbD 0
    wbuffer := st.activeFlushCommand.getLsbD 1 }

def GFX3D_State.renderCopy (st : GFX3D_State) : GFX3D_State :=
  { st with enableEdgeMarking := false, enableFog := false }

/-- The members of a `POLY` that only a flush writes. -/
structure Extent where
  miny : ℚ
  maxy : ℚ
  minz : ℚ
  maxz : ℚ

/-- The constant `0.00000001f` stands for a zero. -/
def VERT.vertw (vert : VERT) : ℚ :=
  if floatValue vert.w ≠ 0 then floatValue vert.w else 11258999 / 1125899906842624

def VERT.vertz (vert : VERT) : ℚ :=
  1 - (floatValue vert.z + vert.vertw) / (2 * vert.vertw)

def VERTLIST.vertz (vertlist : VERTLIST VERT) (poly : POLY) (corner : Fin 4) : ℚ :=
  (vertlist.list (poly.vertIndexes corner).toNat).vertz

def laterCorners (poly : POLY) : List (Fin 4) :=
  [1,2,3].filter fun corner => (corner.val : Int) < poly.type

def extent (vertlist : VERTLIST VERT) (poly : POLY) : Extent :=
  let verty := floatValue (vertlist.list (poly.vertIndexes 0).toNat).y
  let depth := VERTLIST.vertz vertlist poly
  { miny := verty
    maxy := verty
    minz := (laterCorners poly).foldl (fun minz corner => min minz (depth corner)) (depth 0)
    maxz := (laterCorners poly).foldl (fun maxz corner => max maxz (depth corner)) (depth 0) }

def gfx3d_zsort_compare (extents : Nat → Extent) (num1 num2 : Nat) : Bool :=
  if (extents num1).maxz ≠ (extents num2).maxz then (extents num1).maxz < (extents num2).maxz
  else if (extents num1).minz ≠ (extents num2).minz then
    (extents num1).minz < (extents num2).minz
  else num1 < num2

structure Machine where
  engine : Engine VERT
  extents : Fin 2 → Nat → Extent
  control : u32
  shininessInd : Nat
  isSwapBuffers : Bool
  drawPending : Bool
  frameCtr : Int
  -- the pointers `gfx3d.polylist` and `gfx3d.vertlist`
  polylist : Fin 2
  vertlist : Fin 2
  indexlist : Nat → Nat
  state : GFX3D_State
  renderState : GFX3D_State

/-- The initial values of the static variables, in zeroed memory. -/
def Machine.initial : Machine :=
  { engine := Engine.initial VERT.zero
    extents := fun _ _ => { miny := 0, maxy := 0, minz := 0, maxz := 0 }
    control := 0
    shininessInd := 0
    isSwapBuffers := false
    drawPending := false
    frameCtr := 0
    polylist := 0
    vertlist := 0
    indexlist := fun _ => 0
    state := GFX3D_State.zero.construct
    renderState := GFX3D_State.zero.construct }

/-- What `NDS_3D_Render` reads. -/
structure Scene where
  polylist : POLYLIST
  extents : Nat → Extent
  vertlist : VERTLIST VERT
  indexlist : Nat → Nat
  renderState : GFX3D_State

variable (m : Machine)

def Machine.scene : Scene :=
  { polylist := m.engine.polylists m.polylist
    extents := m.extents m.polylist
    vertlist := m.engine.vertlists m.vertlist
    indexlist := m.indexlist
    renderState := m.renderState }

def gfx3d_reset (m : Machine) : Machine :=
  let engine := Gfx3d.gfx3d_reset VERT.zero m.engine
  let state := m.state.construct
  { m with
    engine := engine
    extents := fun _ _ => { miny := 0, maxy := 0, minz := 0, maxz := 0 }
    control := 0
    isSwapBuffers := false
    drawPending := false
    frameCtr := 0
    polylist := engine.listTwiddle
    vertlist := engine.listTwiddle
    state := { state with invalidateToon := true, clearDepth := DS_DEPTH15TO24 0x7FFF }
    renderState := m.renderState.construct }

def Machine.ranged : Nat → Extent :=
  let polylist := m.engine.polylist
  Table.storeAll (m.extents m.engine.listTwiddle) (List.range polylist.count.toNat)
    id fun i : Nat => extent m.engine.vertlist (polylist.list i)

def Machine.sorted : Nat → Nat :=
  let polylist := m.engine.polylist
  let polygons := List.range polylist.count.toNat
  let opaques := IndexBuffer.collect (fun i : Nat => !isTranslucent (polylist.list i)) polygons
    (m.indexlist, 0)
  let collected :=
    IndexBuffer.collect (fun i : Nat => isTranslucent (polylist.list i)) polygons opaques
  IndexBuffer.stableSort (gfx3d_zsort_compare m.ranged) collected.1 opaques.2

def gfx3d_doFlush : Machine :=
  let twiddle := m.engine.listTwiddle
  let state := m.state.flush m.control
  { m with
    engine := twiddleLists m.engine
    extents := update m.extents twiddle m.ranged
    drawPending := true
    frameCtr := m.frameCtr + 1
    polylist := twiddle
    vertlist := twiddle
    indexlist := m.sorted
    state := { state with activeFlushCommand := state.pendingFlushCommand }
    renderState := state.renderCopy }

def gfx3d_glFlush (v : u32) : Machine :=
  { m with
    state := { m.state with pendingFlushCommand := v }
    isSwapBuffers := true }

/-- What the renderer's side of a run consists of. -/
inductive Entry
  | flushed (scene : Scene)
  | rendered (scene : Scene)

def gfx3d_VBlankSignal : Machine × List Entry :=
  if m.isSwapBuffers then
    let m := gfx3d_doFlush m
    ({ m with isSwapBuffers := false }, [.flushed m.scene])
  else (m, [])

def gfx3d_VBlankEndSignal (skipFrame : Bool) : Machine × List Entry :=
  if !m.drawPending then (m, [])
  else if skipFrame then (m, [])
  else
    let m := { m with drawPending := false }
    (m, [.rendered m.scene])

/-- What lies in 32 bytes of a `VERTLIST`: its count, or one of the three
aligned parts of a vertex. -/
inductive Place
  | count
  | coord (slot : Int)
  | texcoord (slot : Int)
  | color (slot : Int)

/-- The length of a `VERTLIST`, in units of 32 bytes. -/
def units (build : Build) : Int := 1 + 3 * build.VERTLIST_SIZE

def place (unit : Int) : Place :=
  if unit = 0 then .count
  else if unit % 3 = 1 then .coord (unit / 3)
  else if unit % 3 = 2 then .texcoord (unit / 3)
  else .color (unit / 3 - 1)

def setVert (list : VERTLIST VERT) (slot : Int) (change : VERT → VERT) : VERTLIST VERT :=
  { list with list := update list.list slot (change (list.list slot)) }

def byte (word : u32) (i : Nat) : u8 := (word >>> (8 * i)).setWidth 8

/-- The four coordinates, in the first sixteen bytes of a place. The members
`fcolor` of a vertex are never read. -/
def storeCoord (vert : VERT) (list : VERTLIST VERT) : Place → VERTLIST VERT
  | .count => { list with count := vert.x.toInt }
  | .coord slot => setVert list slot fun old =>
      { old with x := vert.x, y := vert.y, z := vert.z, w := vert.w }
  | .texcoord slot => setVert list slot fun old => { old with u := vert.x, v := vert.y }
  | .color slot => setVert list slot fun old => { old with color := fun i => byte vert.w i.val }

def storeTexcoord (vert : VERT) (list : VERTLIST VERT) : Place → VERTLIST VERT
  | .count => { list with count := vert.u.toInt }
  | .coord slot => setVert list slot fun old => { old with x := vert.u, y := vert.v }
  | .texcoord slot => setVert list slot fun old => { old with u := vert.u, v := vert.v }
  | .color _ => list

def storeColor (vert : VERT) (list : VERTLIST VERT) : Place → VERTLIST VERT
  | .count | .texcoord _ => list
  | .coord slot => setVert list slot fun old =>
      { old with w := byte old.w 3 ++ vert.color 2 ++ vert.color 1 ++ vert.color 0 }
  | .color slot => setVert list slot fun old => { old with color := vert.color }

/-- Both lists lie in one block, so a vertex stored outside its own list can
land in the other one. -/
def strayStore (build : Build) (eng : Engine VERT) (slot : Int) (vert : VERT) : Engine VERT :=
  let other := eng.listTwiddle + 1
  let unit := (eng.listTwiddle.val - other.val) * units build + 1 + 3 * slot
  let store := fun (part : VERT → VERTLIST VERT → Place → VERTLIST VERT) (unit : Int)
      (list : VERTLIST VERT) =>
    if 0 ≤ unit ∧ unit < units build then part vert list (place unit) else list
  let list := eng.vertlists other
  let list := store storeCoord unit list
  let list := store storeTexcoord (unit + 1) list
  let list := store storeColor (unit + 2) list
  { eng with vertlists := update eng.vertlists other list }

def Machine.vertex (build : Build) (m : Machine) (vert : VERT) : Machine :=
  let engine := (SetVertex build duplicated m.engine vert).1
  if m.engine.refuses build then { m with engine := engine }
  else { m with engine := strayStore build engine m.engine.vertIndex vert }

/-! ### Writes to the render state -/

/-- A byte divided by `256.0f` is below one, and the conversion truncates. -/
def shininess (byte : u32) : u8 := BitVec.ofNat 8 ((byte &&& 0xFF).toNat / 256)

def gfx3d_glShininess (val : u32) : Machine :=
  let ind := m.shininessInd
  let table := m.state.shininessTable
  let table := update table ind (shininess val)
  let table := update table (ind + 1) (shininess (val >>> 8))
  let table := update table (ind + 2) (shininess (val >>> 16))
  let table := update table (ind + 3) (shininess (val >>> 24))
  { m with
    state := { m.state with shininessTable := table }
    shininessInd := if ind + 4 < 128 then ind + 4 else 0 }

def gfx3d_UpdateToonTable (st : GFX3D_State) (off : u8) (val : u16) : GFX3D_State :=
  { st with
    invalidateToon := true
    u16ToonTable := update st.u16ToonTable off.toNat val }

def gfx3d_UpdateToonTable32 (st : GFX3D_State) (off : u8) (val : u32) : GFX3D_State :=
  { st with
    invalidateToon := true
    u16ToonTable :=
      update (update st.u16ToonTable off.toNat (val.setWidth 16))
        (off.toNat + 1) ((val >>> 16).setWidth 16) }

/-- A write to some of the bytes of `clearColor`. -/
def writeClearColor (st : GFX3D_State) (off : Fin 4) (mask val : u32) : GFX3D_State :=
  let shift := 8 * off.val
  { st with
    clearColor := (st.clearColor &&& ~~~(mask <<< shift)) ||| ((val &&& mask) <<< shift) }

/-- The writes of the register page that reach the render state. -/
inductive Register
  | gfx3d_glFogColor (v : u32)
  | gfx3d_glFogOffset (v : u32)
  | gfx3d_glClearDepth (v : u32)
  | gfx3d_glAlphaFunc (v : u32)
  | gfx3d_UpdateToonTable (off : u8) (val : u16)
  | gfx3d_UpdateToonTable32 (off : u8) (val : u32)
  | CLEAR_COLOR8 (off : Fin 4) (val : u8)
  | CLEAR_COLOR16 (off : Fin 4) (val : u16)
  | CLEAR_COLOR32 (val : u32)

def GFX3D_State.write (st : GFX3D_State) : Register → GFX3D_State
  | .gfx3d_glFogColor v => { st with fogColor := v }
  | .gfx3d_glFogOffset v => { st with fogOffset := v &&& 0x7fff }
  | .gfx3d_glClearDepth v => { st with clearDepth := DS_DEPTH15TO24 v }
  | .gfx3d_glAlphaFunc v => { st with alphaTestRef := (v &&& 31).setWidth 8 }
  | .gfx3d_UpdateToonTable off val => gfx3d_UpdateToonTable st off val
  | .gfx3d_UpdateToonTable32 off val => gfx3d_UpdateToonTable32 st off val
  | .CLEAR_COLOR8 off val => writeClearColor st off 0xFF (val.setWidth 32)
  | .CLEAR_COLOR16 off val => writeClearColor st off 0xFFFF (val.setWidth 32)
  | .CLEAR_COLOR32 val => { st with clearColor := val }

inductive Event
  | BEGIN_VTXS (v : u32)
  | END_VTXS
  | vertex (vert : VERT)
  | POLYGON_ATTR (val : u32)
  | TEXIMAGE_PARAM (val : u32)
  | PLTT_BASE (val : u32)
  | VIEWPORT (v : u32)
  | SHININESS (val : u32)
  | SWAP_BUFFERS (v : u32)
  | gfx3d_Control (v : u32)
  | register (write : Register)
  | VBlankStart
  | VBlankEnd (skipFrame : Bool)

def Machine.build (build : Build) (m : Machine) (op : Op VERT) : Machine :=
  { m with engine := Gfx3d.step build duplicated m.engine op }

def step (build : Build) (m : Machine) : Event → Machine × List Entry
  | .BEGIN_VTXS v => (m.build build (.BEGIN_VTXS v), [])
  | .END_VTXS => (m.build build .END_VTXS, [])
  | .vertex vert => (m.vertex build vert, [])
  | .POLYGON_ATTR val => (m.build build (.POLYGON_ATTR val), [])
  | .TEXIMAGE_PARAM val => (m.build build (.TEXIMAGE_PARAM val), [])
  | .PLTT_BASE val => (m.build build (.PLTT_BASE val), [])
  | .VIEWPORT v => (m.build build (.VIEWPORT v), [])
  | .SHININESS val => (gfx3d_glShininess m val, [])
  | .SWAP_BUFFERS v => (gfx3d_glFlush m v, [])
  | .gfx3d_Control v => ({ m with control := v }, [])
  | .register write => ({ m with state := m.state.write write }, [])
  | .VBlankStart => gfx3d_VBlankSignal m
  | .VBlankEnd skipFrame => gfx3d_VBlankEndSignal m skipFrame

end Rendering
end Desmume.Gfx3d
