/-
The polygon and vertex lists of the geometry engine: `SetVertex`,
`gfx3d_glBegin`, `gfx3d_glEnd` and the swap in `gfx3d_doFlush`.

Two pairs of lists are built in turn.
-/

import Desmume.Types
import Desmume.Lib.Run

namespace Desmume.Gfx3d

open Function (update)

/-- The two configurations of the list sizes. -/
inductive Build
  | standard
  | LOWRAM
  deriving DecidableEq

def Build.POLYLIST_SIZE : Build → Int
  | .standard => 9000
  | .LOWRAM => 1500

def Build.VERTLIST_SIZE : Build → Int
  | .standard => 36000
  | .LOWRAM => 3000

def GFX3D_TRIANGLES : u32 := 0

def GFX3D_QUADS : u32 := 1

def GFX3D_TRIANGLE_STRIP : u32 := 2

def GFX3D_QUAD_STRIP : u32 := 3

def NOTEXTURE_FLAG : u32 := 7 <<< 26

structure POLY where
  vtxFormat : u8
  vertIndexes : Fin 4 → u16
  type : Int
  polyAttr : u32
  texParam : u32
  texPalette : u32
  viewport : u32

def POLY.zero : POLY :=
  { vtxFormat := 0
    vertIndexes := fun _ => 0
    type := 0
    polyAttr := 0
    texParam := 0
    texPalette := 0
    viewport := 0 }

structure POLYLIST where
  count : Int
  list : Int → POLY

structure VERTLIST (VERT : Type) where
  count : Int
  list : Int → VERT

structure tmpVertInfo where
  count : Int
  map : Int → Int
  first : Bool

structure Engine (VERT : Type) where
  polylists : Fin 2 → POLYLIST
  vertlists : Fin 2 → VERTLIST VERT
  listTwiddle : Fin 2
  tempVertInfo : tmpVertInfo
  vtxFormat : u32
  triStripToggle : Bool
  inBegin : Bool
  polygonListCompleted : Int
  polyAttr : u32
  polyAttrPending : u32
  textureFormat : u32
  texturePalette : u32
  viewport : u32

section

variable {VERT : Type}

variable (eng : Engine VERT) (build : Build) (dup : VERT → VERT → VERT → Bool)

def Engine.polylist : POLYLIST := eng.polylists eng.listTwiddle

def Engine.vertlist : VERTLIST VERT := eng.vertlists eng.listTwiddle

def Engine.setPolylist (list : POLYLIST) : Engine VERT :=
  { eng with polylists := update eng.polylists eng.listTwiddle list }

def Engine.setVertlist (list : VERTLIST VERT) : Engine VERT :=
  { eng with vertlists := update eng.vertlists eng.listTwiddle list }

def twiddleLists : Engine VERT :=
  let eng := { eng with listTwiddle := eng.listTwiddle + 1 }
  let eng := eng.setPolylist { eng.polylist with count := 0 }
  eng.setVertlist { eng.vertlist with count := 0 }

/-- The toggle of a strip and `inBegin` keep their old values. -/
def gfx3d_reset (zero : VERT) (eng : Engine VERT) : Engine VERT :=
  let eng := { eng with
    polylists := fun _ => { count := 0, list := fun _ => POLY.zero }
    vertlists := fun _ => { count := 0, list := fun _ => zero }
    listTwiddle := 1 }
  let eng := twiddleLists eng
  { eng with
    polyAttr := 0
    textureFormat := 0
    texturePalette := 0
    polyAttrPending := 0
    vtxFormat := GFX3D_TRIANGLES
    tempVertInfo := { count := 0, map := fun _ => 0, first := false }
    viewport := 0xBFFF0000 }

def gfx3d_doFlush : Engine VERT :=
  twiddleLists eng

def gfx3d_glBegin (v : u32) : Engine VERT :=
  { eng with
    inBegin := true
    vtxFormat := v &&& 0x03
    triStripToggle := false
    tempVertInfo := { eng.tempVertInfo with count := 0, first := true }
    polyAttr := eng.polyAttrPending }

def gfx3d_glEnd : Engine VERT :=
  { eng with
    tempVertInfo := { eng.tempVertInfo with count := 0 }
    inBegin := false }

def Engine.initial (zero : VERT) : Engine VERT :=
  { polylists := fun _ => { count := 0, list := fun _ => POLY.zero }
    vertlists := fun _ => { count := 0, list := fun _ => zero }
    listTwiddle := 1
    tempVertInfo := { count := 0, map := fun _ => 0, first := false }
    vtxFormat := GFX3D_TRIANGLES
    triStripToggle := false
    inBegin := false
    polygonListCompleted := 0
    polyAttr := 0
    polyAttrPending := 0
    textureFormat := 0
    texturePalette := 0
    viewport := 0 }

def Engine.continuation : Int :=
  if eng.vtxFormat = GFX3D_TRIANGLE_STRIP ∧ eng.tempVertInfo.first = false then 2
  else if eng.vtxFormat = GFX3D_QUAD_STRIP ∧ eng.tempVertInfo.first = false then 2
  else 0

def SUBMITVERTEX (ii : Fin 4) (nn : Int) : Engine VERT :=
  let list := eng.polylist
  let poly := list.list list.count
  let i := BitVec.ofInt 16 (eng.tempVertInfo.map nn)
  let poly := { poly with vertIndexes := update poly.vertIndexes ii i }
  eng.setPolylist { list with list := update list.list list.count poly }

def Engine.setType (type : Int) : Engine VERT :=
  let list := eng.polylist
  let poly := { list.list list.count with type := type }
  eng.setPolylist { list with list := update list.list list.count poly }

def Engine.addVerts (verts : Int) : Engine VERT :=
  eng.setVertlist { eng.vertlist with count := eng.vertlist.count + verts }

def Engine.setMap (i slot : Int) : Engine VERT :=
  { eng with
    tempVertInfo :=
      { eng.tempVertInfo with map := update eng.tempVertInfo.map i slot } }

def completeTriangle : Engine VERT :=
  let eng := { eng with polygonListCompleted := 1 }
  let eng := SUBMITVERTEX eng 0 0
  let eng := SUBMITVERTEX eng 1 1
  let eng := SUBMITVERTEX eng 2 2
  let eng := eng.addVerts 3
  let eng := eng.setType 3
  { eng with tempVertInfo := { eng.tempVertInfo with count := 0 } }

def completeQuad : Engine VERT :=
  let eng := { eng with polygonListCompleted := 1 }
  let eng := SUBMITVERTEX eng 0 0
  let eng := SUBMITVERTEX eng 1 1
  let eng := SUBMITVERTEX eng 2 2
  let eng := SUBMITVERTEX eng 3 3
  let eng := eng.addVerts 4
  let eng := eng.setType 4
  { eng with tempVertInfo := { eng.tempVertInfo with count := 0 } }

def completeTriangleStrip (continuation : Int) : Engine VERT :=
  let eng := { eng with polygonListCompleted := 1 }
  let eng := SUBMITVERTEX eng 0 0
  let eng := SUBMITVERTEX eng 1 1
  let eng := SUBMITVERTEX eng 2 2
  let eng := eng.setType 3
  let eng :=
    if eng.triStripToggle then eng.setMap 1 (eng.vertlist.count + 2 - continuation)
    else eng.setMap 0 (eng.vertlist.count + 2 - continuation)
  let eng := if eng.tempVertInfo.first then eng.addVerts 3 else eng.addVerts 1
  { eng with
    triStripToggle := !eng.triStripToggle
    tempVertInfo := { eng.tempVertInfo with first := false, count := 2 } }

def completeQuadStrip (continuation : Int) : Engine VERT :=
  let eng := { eng with polygonListCompleted := 1 }
  let eng := SUBMITVERTEX eng 0 0
  let eng := SUBMITVERTEX eng 1 1
  let eng := SUBMITVERTEX eng 2 3
  let eng := SUBMITVERTEX eng 3 2
  let eng := eng.setType 4
  let eng := eng.setMap 0 (eng.vertlist.count + 2 - continuation)
  let eng := eng.setMap 1 (eng.vertlist.count + 3 - continuation)
  let eng := if eng.tempVertInfo.first then eng.addVerts 4 else eng.addVerts 2
  { eng with tempVertInfo := { eng.tempVertInfo with first := false, count := 2 } }

/-- The `switch` of `SetVertex`. -/
def complete (continuation : Int) : Engine VERT :=
  if eng.vtxFormat = GFX3D_TRIANGLES then
    if eng.tempVertInfo.count ≠ 3 then eng else completeTriangle eng
  else if eng.vtxFormat = GFX3D_QUADS then
    if eng.tempVertInfo.count ≠ 4 then eng else completeQuad eng
  else if eng.vtxFormat = GFX3D_TRIANGLE_STRIP then
    if eng.tempVertInfo.count ≠ 3 then eng else completeTriangleStrip eng continuation
  else if eng.vtxFormat = GFX3D_QUAD_STRIP then
    if eng.tempVertInfo.count ≠ 4 then eng else completeQuadStrip eng continuation
  else eng

/-- The end of `SetVertex`, once a polygon is complete. -/
def finish (eng : Engine VERT) : Engine VERT :=
  let list := eng.polylist
  let poly := list.list list.count
  let vert := fun i => eng.vertlist.list (poly.vertIndexes i).toNat
  let segment := eng.textureFormat &&& NOTEXTURE_FLAG = 0 ∧
    dup (vert 0) (vert 1) (vert 2) = true
  let fmt := if segment then eng.vtxFormat + 4 else eng.vtxFormat
  let poly := { poly with
    vtxFormat := fmt.setWidth 8
    polyAttr := eng.polyAttr
    texParam := eng.textureFormat
    texPalette := eng.texturePalette
    viewport := eng.viewport }
  eng.setPolylist
    { count := list.count + 1, list := update list.list list.count poly }

/-- The element of the vertex list and the element of `map` that a vertex is
written to. -/
structure Write where
  vertIndex : Int
  mapIndex : Int
  deriving DecidableEq

def Engine.refuses (eng : Engine VERT) : Prop :=
  eng.vertlist.count ≥ build.VERTLIST_SIZE ∨ eng.polylist.count ≥ build.POLYLIST_SIZE

instance (build : Build) (eng : Engine VERT) : Decidable (eng.refuses build) :=
  inferInstanceAs (Decidable (_ ∨ _))

def Engine.vertIndex : Int :=
  eng.vertlist.count + eng.tempVertInfo.count - eng.continuation

/-- The part of `SetVertex` before the switch. -/
def register (vert : VERT) : Engine VERT :=
  let vertIndex := eng.vertIndex
  let list := eng.vertlist
  let eng := eng.setVertlist { list with list := update list.list vertIndex vert }
  let eng := eng.setMap eng.tempVertInfo.count vertIndex
  { eng with
    tempVertInfo := { eng.tempVertInfo with count := eng.tempVertInfo.count + 1 }
    polygonListCompleted := 2 }

def SetVertex (eng : Engine VERT) (vert : VERT) : Engine VERT × Option Write :=
  let eng := { eng with polygonListCompleted := 0 }
  if eng.refuses build then (eng, none)
  else
    let continuation := eng.continuation
    let write : Write := ⟨eng.vertIndex,eng.tempVertInfo.count⟩
    let eng := complete (register eng vert) continuation
    if eng.polygonListCompleted = 1 then (finish dup eng, some write)
    else (eng, some write)

inductive Op (VERT : Type)
  | BEGIN_VTXS (v : u32)
  | END_VTXS
  | vertex (vert : VERT)
  | SWAP_BUFFERS
  | POLYGON_ATTR (val : u32)
  | TEXIMAGE_PARAM (val : u32)
  | PLTT_BASE (val : u32)
  | VIEWPORT (v : u32)

def step (eng : Engine VERT) :
    Op VERT → Engine VERT
  | .BEGIN_VTXS v => gfx3d_glBegin eng v
  | .END_VTXS => gfx3d_glEnd eng
  | .vertex vert => (SetVertex build dup eng vert).1
  | .SWAP_BUFFERS => gfx3d_doFlush eng
  | .POLYGON_ATTR val => { eng with polyAttrPending := val }
  | .TEXIMAGE_PARAM val => { eng with textureFormat := val }
  | .PLTT_BASE val => { eng with texturePalette := val }
  | .VIEWPORT v => { eng with viewport := v }

def written (eng : Engine VERT) :
    Op VERT → Option Write
  | .vertex vert => (SetVertex build dup eng vert).2
  | .BEGIN_VTXS _ | .END_VTXS | .SWAP_BUFFERS | .POLYGON_ATTR _ | .TEXIMAGE_PARAM _
  | .PLTT_BASE _ | .VIEWPORT _ => none

end

end Desmume.Gfx3d
