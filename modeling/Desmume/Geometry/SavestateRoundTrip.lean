/-
What a savestate of the geometry engine restores.

The loaded machine is described outright: each part is that of the savestate,
up to the bytes, fields and slots that are not in it, which are those of the
machine it was loaded into.
-/

import Desmume.Geometry.Savestate

namespace Desmume.GeometryState

open Function (update update_of_ne update_self)

open Savestate Backup

/-- The fields that `save` leaves out are those of the old polygon. -/
def POLY.merge (saved old : POLY) : POLY :=
  { saved with vtxFormat := old.vtxFormat, minz := old.minz, maxz := old.maxz }

theorem POLY.load_reads (saved old : POLY) : Reads old.load saved.save (saved.merge old) := by
  unfold POLY.load POLY.save
  simp only [List.append_assoc]
  refine (OSREAD_reads _ saved.type).bind ?_
  refine (OSREAD_reads _ saved.vertIndexes).bind ?_
  refine (OSREAD_reads _ saved.polyAttr).bind ?_
  refine (OSREAD_reads _ saved.texParam).bind ?_
  refine (OSREAD_reads _ saved.texPalette).bind ?_
  refine (OSREAD_reads _ saved.viewport).bind ?_
  refine (OSREAD_reads _ saved.miny).bind ?_
  exact (OSREAD_reads _ saved.maxy).bind_pure _

theorem VERT.load_reads (saved old : VERT) : Reads old.load saved.save saved := by
  unfold VERT.load VERT.save
  simp only [List.append_assoc]
  refine (OSREAD_reads _ saved.x).bind ?_
  refine (OSREAD_reads _ saved.y).bind ?_
  refine (OSREAD_reads _ saved.z).bind ?_
  refine (OSREAD_reads _ saved.w).bind ?_
  refine (OSREAD_reads _ saved.u).bind ?_
  refine (OSREAD_reads _ saved.v).bind ?_
  refine (OSREAD_reads _ saved.color).bind ?_
  exact (OSREAD_reads _ saved.fcolor).bind_pure _

def Entries.merge {α : Type} (merge : α → α → α) (saved old : Entries α) : Entries α where
  count := saved.count
  list i := if i < saved.count.toInt.toNat then merge (saved.list i) (old.list i) else old.list i

/-- The slots from `size` on are not in the savestate. -/
def MatrixStack.merge (size : Nat) (saved old : MatrixStack) : MatrixStack where
  position := saved.position
  matrix slot := if slot < size then saved.matrix slot else old.matrix slot

theorem MatrixStack.load_reads (size : Nat) (saved old : MatrixStack) :
    Reads (old.load size) (saved.save size) (saved.merge size old) := by
  unfold MatrixStack.load MatrixStack.save
  refine (OSREAD_reads _ saved.position).bind ?_
  exact (loadList_reads
    (fun saved old => OSREAD_reads old saved) saved.matrix old.matrix size).bind_pure _

def Gfx.withStacks (saved gfx : Gfx) : Gfx :=
  { gfx with mtxStack := fun i => (saved.mtxStack i).merge (stackSize i) (gfx.mtxStack i) }

def Gfx.withQueue (saved gfx : Gfx) : Gfx :=
  { gfx with shiftCommand := saved.shiftCommand, paramCounter := saved.paramCounter }

def Gfx.withLists (saved gfx : Gfx) : Gfx :=
  { gfx with
    vertlists := update gfx.vertlists gfx.listTwiddle
      (saved.vertlist.merge (fun saved _ => saved) gfx.vertlist)
    polylists := update gfx.polylists gfx.listTwiddle
      (saved.polylist.merge POLY.merge gfx.polylist) }

def Gfx.withLightCaches (saved gfx : Gfx) : Gfx :=
  { gfx with
    cacheLightDirection := saved.cacheLightDirection
    cacheHalfVector := saved.cacheHalfVector }

/-- The machine that loading what `saved` writes makes of `gfx`. -/
def Gfx.loaded (vectors : Gfx.LightVectors) (saved gfx : Gfx) : Gfx :=
  saved.withLightCaches
    (wipeRendered (saved.withQueue (saved.withStacks (saved.withLists (prepare vectors gfx)))))

section

variable (vectors : Gfx.LightVectors) (saved gfx : Gfx)

end

def rowLength (v : Nat) : Nat :=
  match SF_GFX3D.find? fun sf => sf.v == v with
  | some sf => sf.size.toNat * sf.count.toNat
  | none => 0

theorem rowLength_row : ∀ sf ∈ SF_GFX3D, rowLength sf.v = sf.size.toNat * sf.count.toNat := by
  decide +kernel

def Gfx.Sized (gfx : Gfx) : Prop :=
  ∀ sf ∈ SF_GFX3D, (gfx.vars sf.v).length = rowLength sf.v + beyond sf.v

def coveredPart (vars : Vars) : Vars := fun v => (vars v).take (rowLength v)

def behindPart (vars : Vars) : Vars := fun v => (vars v).drop (rowLength v)

theorem Gfx.Sized.covered {gfx : Gfx} (sized : gfx.Sized) :
    Savestate.Sized SF_GFX3D (coveredPart gfx.vars) := by
  intro sf member
  rw [← rowLength_row sf member]
  unfold coveredPart
  rw [List.length_take,sized sf member]
  omega

structure Gfx.Cached (gfx : Gfx) : Prop where
  lightMask : gfx.lightMask = gfx.word .polyAttr &&& 0xF
  envMode : gfx.envMode = (gfx.word .polyAttr &&& 0x30) >>> 4
  cullingMask : gfx.cullingMask = (gfx.word .polyAttr >>> 6) &&& 3
  texCoordinateTransform : gfx.texCoordinateTransform = gfx.word .textureFormat >>> 30

structure Restored (saved res : Gfx) : Prop where
  vars : ∀ sf ∈ SF_GFX3D, res.vars sf.v = saved.vars sf.v
  vertCount : res.vertlist.count = saved.vertlist.count
  verts : ∀ i < saved.vertlist.count.toInt.toNat,
    res.vertlist.list i = saved.vertlist.list i
  polyCount : res.polylist.count = saved.polylist.count
  polys : ∀ i < saved.polylist.count.toInt.toNat,
    res.polylist.list i = saved.polylist.list i
  positions : ∀ i, (res.mtxStack i).position = (saved.mtxStack i).position
  slots : ∀ i, ∀ slot ≤ stackSize i,
    (res.mtxStack i).matrix slot = (saved.mtxStack i).matrix slot
  queue : res.shiftCommand = saved.shiftCommand ∧ res.paramCounter = saved.paramCounter
  light : res.cacheLightDirection = saved.cacheLightDirection ∧
    res.cacheHalfVector = saved.cacheHalfVector
  masks : res.lightMask = saved.lightMask ∧ res.envMode = saved.envMode ∧
    res.cullingMask = saved.cullingMask ∧
    res.texCoordinateTransform = saved.texCoordinateTransform

/-- What the savestate leaves out is the same in the saved machine and in the
one it is loaded into, and the saved machine's caches are in line. -/
structure Kept (saved gfx : Gfx) : Prop where
  behind : ∀ var ∈ [Variable.u16coord,Variable.transind,Variable.scaleind],
    behindPart gfx.vars var.address = behindPart saved.vars var.address
  polys : ∀ i < saved.polylist.count.toInt.toNat,
    ((gfx.polylists 0).list i).vtxFormat = (saved.polylist.list i).vtxFormat ∧
    ((gfx.polylists 0).list i).minz = (saved.polylist.list i).minz ∧
    ((gfx.polylists 0).list i).maxz = (saved.polylist.list i).maxz
  tops : ∀ i, (gfx.mtxStack i).matrix (stackSize i) = (saved.mtxStack i).matrix (stackSize i)
  cached : saved.Cached

def started : Gfx where
  vars := fun v => List.replicate (rowLength v + beyond v) 0
  vertlists := fun _ => ⟨0,fun _ => ⟨0,0,0,0,0,0,fun _ => 0, fun _ => 0⟩⟩
  polylists := fun _ => ⟨0,fun _ => ⟨0,fun _ => 0, 0, 0, 0, 0, 0, 0, 0, 0, 0⟩⟩
  listTwiddle := 1
  mtxStack := fun _ => ⟨0,fun _ _ => 0⟩
  shiftCommand := 0
  paramCounter := 0
  cacheLightDirection := fun _ _ => 0
  cacheHalfVector := fun _ _ => 0
  cullingMask := 0
  envMode := 0
  lightMask := 0
  texCoordinateTransform := 0

/-- The machine after a vertex with z = 7 and a store to slot 31 of the
coordinate stack. -/
def drawn : Gfx :=
  { started with
    vars := update started.vars Variable.u16coord.address [0,0,0,0,7,0,0,0]
    mtxStack := fun _ => ⟨0,fun slot _ => if slot = 31 then 1 else 0⟩ }

end Desmume.GeometryState
