/-
What one vertex does to the lists.

A completed polygon refers to all the slots registered for it, in whatever order
its format submits them, and to no others.
-/

import Desmume.Geometry.PolygonList

namespace Desmume.Gfx3d

open Function (update update_idem update_of_ne update_self)

variable {VERT : Type}

@[simp] theorem polylist_setPolylist (eng : Engine VERT) (list : POLYLIST) :
    (eng.setPolylist list).polylist = list := by
  simp only [Engine.polylist,Engine.setPolylist,update_self]

@[simp] theorem vertlist_setVertlist (eng : Engine VERT) (list : VERTLIST VERT) :
    (eng.setVertlist list).vertlist = list := by
  simp only [Engine.vertlist,Engine.setVertlist,update_self]

@[simp] theorem vertlist_setPolylist (eng : Engine VERT) (list : POLYLIST) :
    (eng.setPolylist list).vertlist = eng.vertlist := rfl

@[simp] theorem polylist_setVertlist (eng : Engine VERT) (list : VERTLIST VERT) :
    (eng.setVertlist list).polylist = eng.polylist := rfl

@[simp] theorem tempVertInfo_setPolylist (eng : Engine VERT) (list : POLYLIST) :
    (eng.setPolylist list).tempVertInfo = eng.tempVertInfo := rfl

@[simp] theorem tempVertInfo_setVertlist (eng : Engine VERT) (list : VERTLIST VERT) :
    (eng.setVertlist list).tempVertInfo = eng.tempVertInfo := rfl

theorem twiddleLists_polys (eng : Engine VERT) : (twiddleLists eng).polylist.count = 0 := by
  unfold twiddleLists
  simp only [polylist_setVertlist,polylist_setPolylist]

theorem twiddleLists_verts (eng : Engine VERT) : (twiddleLists eng).vertlist.count = 0 := by
  unfold twiddleLists
  simp only [vertlist_setVertlist]

def POLY.refers (poly : POLY) (slot : Int) : Prop :=
  ∃ corner : Fin 4, (corner.val : Int) < poly.type ∧ ((poly.vertIndexes corner).toNat : Int) = slot

def POLYLIST.refers (list : POLYLIST) (slot : Int) : Prop :=
  ∃ poly, 0 ≤ poly ∧ poly < list.count ∧ (list.list poly).refers slot

def Engine.references (eng : Engine VERT) (slot : Int) : Prop :=
  eng.polylist.refers slot

def corners (vtxFormat : u32) : Int :=
  if vtxFormat = GFX3D_TRIANGLES ∨ vtxFormat = GFX3D_TRIANGLE_STRIP then 3 else 4

def POLYLIST.typed (list : POLYLIST) : Prop :=
  ∀ poly, 0 ≤ poly → poly < list.count → (list.list poly).type = 3 ∨ (list.list poly).type = 4

/-- A slot as it is stored, in the sixteen bits of `vertIndexes`. -/
def stored (slot : Int) : Int := (BitVec.ofInt 16 slot).toNat

theorem stored_eq {slot : Int} (nonneg : 0 ≤ slot) (small : slot < 65536) : stored slot = slot := by
  unfold stored
  rw [BitVec.toNat_ofInt]
  omega

structure Fills (list filled : POLYLIST) (total : Int) (map : Int → Int) : Prop where
  count : filled.count = list.count
  others : ∀ poly, poly ≠ list.count → filled.list poly = list.list poly
  type : (filled.list list.count).type = total
  slots : ∀ slot, (filled.list list.count).refers slot ↔
    ∃ i, 0 ≤ i ∧ i < total ∧ stored (map i) = slot

variable {map : Int → Int} {list : POLYLIST} {total : Int} {indexes : Fin 4 → Int}

theorem three_corners (zero : indexes 0 = map 0)
    (one : indexes 1 = map 1) (two : indexes 2 = map 2) (slot : Int) :
    (∃ corner : Fin 4, (corner.val : Int) < 3 ∧ indexes corner = slot) ↔
      ∃ i, 0 ≤ i ∧ i < 3 ∧ map i = slot := by
  constructor
  · rintro ⟨corner,inside,rfl⟩
    fin_cases corner
    · exact ⟨0,by omega,by omega,zero.symm⟩
    · exact ⟨1,by omega,by omega,one.symm⟩
    · exact ⟨2,by omega,by omega,two.symm⟩
    · contradiction
  · rintro ⟨i,nonneg,inside,rfl⟩
    have place : i = 0 ∨ i = 1 ∨ i = 2 := by
      omega
    rcases place with rfl | rfl | rfl
    · exact ⟨0,by omega,zero⟩
    · exact ⟨1,by omega,one⟩
    · exact ⟨2,by omega,two⟩

theorem four_corners (zero : indexes 0 = map 0) (one : indexes 1 = map 1)
    (last : (indexes 2 = map 2 ∧ indexes 3 = map 3) ∨ (indexes 2 = map 3 ∧ indexes 3 = map 2))
    (slot : Int) :
    (∃ corner : Fin 4, (corner.val : Int) < 4 ∧ indexes corner = slot) ↔
      ∃ i, 0 ≤ i ∧ i < 4 ∧ map i = slot := by
  constructor
  · rintro ⟨corner,inside,rfl⟩
    fin_cases corner
    · exact ⟨0,by omega,by omega,zero.symm⟩
    · exact ⟨1,by omega,by omega,one.symm⟩
    · rcases last with ⟨two,-⟩ | ⟨two,-⟩
      · exact ⟨2,by omega,by omega,two.symm⟩
      · exact ⟨3,by omega,by omega,two.symm⟩
    · rcases last with ⟨-,three⟩ | ⟨-,three⟩
      · exact ⟨3,by omega,by omega,three.symm⟩
      · exact ⟨2,by omega,by omega,three.symm⟩
  · rintro ⟨i,nonneg,inside,rfl⟩
    have place : i = 0 ∨ i = 1 ∨ i = 2 ∨ i = 3 := by
      omega
    rcases place with rfl | rfl | rfl | rfl
    · exact ⟨0,by omega,zero⟩
    · exact ⟨1,by omega,one⟩
    · rcases last with ⟨two,-⟩ | ⟨-,three⟩
      · exact ⟨2,by omega,two⟩
      · exact ⟨3,by omega,three⟩
    · rcases last with ⟨-,three⟩ | ⟨two,-⟩
      · exact ⟨3,by omega,three⟩
      · exact ⟨2,by omega,two⟩

def POLYLIST.fill (list : POLYLIST) (indexes : Fin 4 → u16) (type : Int) : POLYLIST :=
  { list with
    list := update list.list list.count
      { list.list list.count with vertIndexes := indexes, type := type } }

theorem fill_fills (list : POLYLIST) (indexes : Fin 4 → u16) (type : Int) (map : Int → Int)
    (slots : ∀ slot,
      (∃ corner : Fin 4, (corner.val : Int) < type ∧ ((indexes corner).toNat : Int) = slot) ↔
        ∃ i, 0 ≤ i ∧ i < type ∧ stored (map i) = slot) :
    Fills list (list.fill indexes type) type map := by
  constructor
  · rfl
  · intro poly other
    exact update_of_ne other _ _
  · simp only [POLYLIST.fill,update_self]
  · intro slot
    simp only [POLYLIST.fill,update_self]
    exact slots slot

theorem completeTriangle_polylist (eng : Engine VERT) :
    (completeTriangle eng).polylist = eng.polylist.fill
      (fun corner => if corner = 3 then (eng.polylist.list eng.polylist.count).vertIndexes 3
        else BitVec.ofInt 16 (eng.tempVertInfo.map corner.val)) 3 := by
  simp only [completeTriangle,SUBMITVERTEX,Engine.setType,Engine.addVerts,Engine.setVertlist,
    Engine.setPolylist,Engine.polylist,update_self,update_idem,POLYLIST.fill]
  congr 3
  funext corner
  fin_cases corner <;> rfl

theorem completeQuad_polylist (eng : Engine VERT) :
    (completeQuad eng).polylist = eng.polylist.fill
      (fun corner => BitVec.ofInt 16 (eng.tempVertInfo.map corner.val)) 4 := by
  simp only [completeQuad,SUBMITVERTEX,Engine.setType,Engine.addVerts,Engine.setVertlist,
    Engine.setPolylist,Engine.polylist,update_self,update_idem,POLYLIST.fill]
  congr 3
  funext corner
  fin_cases corner <;> rfl

theorem completeTriangleStrip_polylist (eng : Engine VERT) (continuation : Int) :
    (completeTriangleStrip eng continuation).polylist = (completeTriangle eng).polylist := by
  unfold completeTriangleStrip completeTriangle
  simp only
  split <;> split <;> rfl

theorem completeQuadStrip_polylist (eng : Engine VERT) (continuation : Int) :
    (completeQuadStrip eng continuation).polylist = eng.polylist.fill
      (fun corner => BitVec.ofInt 16 (eng.tempVertInfo.map
        (if corner = 2 then 3 else if corner = 3 then 2 else corner.val))) 4 := by
  have tail : (completeQuadStrip eng continuation).polylist =
      ((SUBMITVERTEX (SUBMITVERTEX (SUBMITVERTEX (SUBMITVERTEX eng 0 0) 1 1) 2 3) 3 2).setType
        4).polylist := by
    unfold completeQuadStrip
    simp only
    split <;> rfl
  rw [tail]
  simp only [SUBMITVERTEX,Engine.setType,Engine.setPolylist,Engine.polylist,
    update_self,update_idem,POLYLIST.fill]
  congr 3
  funext corner
  fin_cases corner <;> rfl

theorem triangle_fills (eng : Engine VERT) :
    Fills eng.polylist (completeTriangle eng).polylist 3 eng.tempVertInfo.map := by
  rw [completeTriangle_polylist]
  apply fill_fills
  intro slot
  exact three_corners rfl rfl rfl slot

theorem quad_fills (eng : Engine VERT) :
    Fills eng.polylist (completeQuad eng).polylist 4 eng.tempVertInfo.map := by
  rw [completeQuad_polylist]
  apply fill_fills
  intro slot
  exact four_corners rfl rfl (Or.inl ⟨rfl,rfl⟩) slot

theorem quadStrip_fills (eng : Engine VERT) (continuation : Int) :
    Fills eng.polylist (completeQuadStrip eng continuation).polylist 4
      eng.tempVertInfo.map := by
  rw [completeQuadStrip_polylist]
  apply fill_fills
  intro slot
  exact four_corners rfl rfl (Or.inr ⟨rfl,rfl⟩) slot

@[simp] theorem vertlist_addVerts (eng : Engine VERT) (verts : Int) :
    (eng.addVerts verts).vertlist.count = eng.vertlist.count + verts := by
  unfold Engine.addVerts
  rw [vertlist_setVertlist]

theorem completeTriangle_verts (eng : Engine VERT) :
    (completeTriangle eng).vertlist.count = eng.vertlist.count + 3 :=
  vertlist_addVerts _ _

theorem completeQuad_verts (eng : Engine VERT) :
    (completeQuad eng).vertlist.count = eng.vertlist.count + 4 :=
  vertlist_addVerts _ _

theorem either_verts (eng : Engine VERT) (first : Bool) (all less : Int) :
    (if first then eng.addVerts all else eng.addVerts less).vertlist.count =
      eng.vertlist.count + if first then all else less := by
  cases first with
  | true => exact vertlist_addVerts _ _
  | false => exact vertlist_addVerts _ _

theorem either_tempVertInfo (eng : Engine VERT) (first : Bool) (all less : Int) :
    (if first then eng.addVerts all else eng.addVerts less).tempVertInfo =
      eng.tempVertInfo := by
  cases first with
  | true => rfl
  | false => rfl

theorem completeTriangleStrip_verts (eng : Engine VERT) (continuation : Int) :
    (completeTriangleStrip eng continuation).vertlist.count =
      eng.vertlist.count + if eng.tempVertInfo.first then 3 else 1 := by
  unfold completeTriangleStrip
  refine (either_verts _ _ 3 1).trans ?_
  split <;> rfl

theorem completeQuadStrip_verts (eng : Engine VERT) (continuation : Int) :
    (completeQuadStrip eng continuation).vertlist.count =
      eng.vertlist.count + if eng.tempVertInfo.first then 4 else 2 := by
  unfold completeQuadStrip
  exact either_verts _ _ 4 2

theorem completeTriangleStrip_tempVertInfo (eng : Engine VERT) (continuation : Int) :
    (completeTriangleStrip eng continuation).tempVertInfo =
      { count := 2
        map := update eng.tempVertInfo.map (if eng.triStripToggle then 1 else 0)
          (eng.vertlist.count + 2 - continuation)
        first := false } := by
  unfold completeTriangleStrip
  simp only [either_tempVertInfo]
  cases toggle : eng.triStripToggle with
  | true => rfl
  | false => rfl

theorem completeQuadStrip_tempVertInfo (eng : Engine VERT) (continuation : Int) :
    (completeQuadStrip eng continuation).tempVertInfo =
      { count := 2
        map := update (update eng.tempVertInfo.map 0
          (eng.vertlist.count + 2 - continuation)) 1 (eng.vertlist.count + 3 - continuation)
        first := false } := by
  unfold completeQuadStrip
  simp only [either_tempVertInfo]
  rfl

/-! ### The whole command -/

def Engine.slotAt (eng : Engine VERT) : Int → Int :=
  update eng.tempVertInfo.map eng.tempVertInfo.count eng.vertIndex

theorem finish_refers (dup : VERT → VERT → VERT → Bool) (eng : Engine VERT) (poly slot : Int) :
    ((finish dup eng).polylist.list poly).refers slot ↔
      (eng.polylist.list poly).refers slot := by
  unfold finish
  rw [polylist_setPolylist]
  by_cases last : poly = eng.polylist.count
  · subst last
    simp only [update_self]
    rfl
  · simp only [update_of_ne last]

theorem finish_type (dup : VERT → VERT → VERT → Bool) (eng : Engine VERT) (poly : Int) :
    ((finish dup eng).polylist.list poly).type = (eng.polylist.list poly).type := by
  unfold finish
  rw [polylist_setPolylist]
  by_cases last : poly = eng.polylist.count
  · subst last
    simp only [update_self]
  · simp only [update_of_ne last]

theorem finish_count (dup : VERT → VERT → VERT → Bool) {eng : Engine VERT}
    (fills : Fills list eng.polylist total map) :
    (finish dup eng).polylist.count = list.count + 1 := by
  unfold finish
  rw [polylist_setPolylist,fills.count]

theorem finish_references (dup : VERT → VERT → VERT → Bool) {eng : Engine VERT}
    (polys : 0 ≤ list.count)
    (fills : Fills list eng.polylist total map) (slot : Int) :
    (finish dup eng).references slot ↔
      list.refers slot ∨ ∃ i, 0 ≤ i ∧ i < total ∧ stored (map i) = slot := by
  rw [← fills.slots]
  unfold Engine.references POLYLIST.refers
  simp only [finish_refers,finish_count dup fills]
  constructor
  · rintro ⟨poly,nonneg,inside,refers⟩
    by_cases last : poly = list.count
    · subst last
      exact Or.inr refers
    · rw [fills.others poly last] at refers
      exact Or.inl ⟨poly,nonneg,by omega,refers⟩
  · rintro (⟨poly,nonneg,inside,refers⟩ | refers)
    · rw [← fills.others poly (by omega)] at refers
      exact ⟨poly,nonneg,by omega,refers⟩
    · exact ⟨list.count,polys,by omega,refers⟩

theorem finish_typed (dup : VERT → VERT → VERT → Bool) {eng : Engine VERT}
    (kind : total = 3 ∨ total = 4)
    (fills : Fills list eng.polylist total map) (typed : list.typed) :
    (finish dup eng).polylist.typed := by
  intro poly nonneg inside
  rw [finish_count dup fills] at inside
  rw [finish_type]
  by_cases last : poly = list.count
  · rw [last,fills.type]
    exact kind
  · rw [fills.others poly last]
    exact typed poly nonneg (by omega)

/-- What `SetVertex` does when its vertex completes a polygon. -/
structure Completed (before after : Engine VERT) : Prop where
  references : ∀ slot, after.references slot ↔ before.references slot ∨
    ∃ i, 0 ≤ i ∧ i < corners before.vtxFormat ∧ stored (before.slotAt i) = slot
  typed : before.polylist.typed → after.polylist.typed
  polys : after.polylist.count = before.polylist.count + 1
  verts : after.vertlist.count =
    before.vertlist.count + corners before.vtxFormat - before.continuation
  format : after.vtxFormat = before.vtxFormat
  separate : before.vtxFormat = GFX3D_TRIANGLES ∨ before.vtxFormat = GFX3D_QUADS →
    after.tempVertInfo =
      { count := 0, map := before.slotAt, first := before.tempVertInfo.first }
  triangleStrip : before.vtxFormat = GFX3D_TRIANGLE_STRIP →
    after.tempVertInfo =
      { count := 2
        map := update before.slotAt (if before.triStripToggle then 1 else 0)
          (before.vertlist.count + 2 - before.continuation)
        first := false }
  quadStrip : before.vtxFormat = GFX3D_QUAD_STRIP →
    after.tempVertInfo =
      { count := 2
        map := update (update before.slotAt 0
          (before.vertlist.count + 2 - before.continuation)) 1
          (before.vertlist.count + 3 - before.continuation)
        first := false }

theorem SetVertex_accepted (build : Build) (dup : VERT → VERT → VERT → Bool)
    {eng : Engine VERT} (vert : VERT) {done : Engine VERT} (accepted : ¬eng.refuses build)
    (completes : complete (register { eng with polygonListCompleted := 0 } vert)
      eng.continuation = done) :
    SetVertex build dup eng vert =
      if done.polygonListCompleted = 1 then
        (finish dup done, some ⟨eng.vertIndex,eng.tempVertInfo.count⟩)
      else (done, some ⟨eng.vertIndex,eng.tempVertInfo.count⟩) := by
  subst completes
  exact if_neg accepted

theorem SetVertex_finishes (build : Build) (dup : VERT → VERT → VERT → Bool)
    {eng : Engine VERT} (vert : VERT) {done : Engine VERT} (accepted : ¬eng.refuses build)
    (completes : complete (register { eng with polygonListCompleted := 0 } vert)
      eng.continuation = done)
    (flagged : done.polygonListCompleted = 1) :
    SetVertex build dup eng vert =
      (finish dup done, some ⟨eng.vertIndex,eng.tempVertInfo.count⟩) :=
  (SetVertex_accepted build dup vert accepted completes).trans (if_pos flagged)

theorem register_verts (eng : Engine VERT) (vert : VERT) :
    (register eng vert).vertlist.count = eng.vertlist.count := by
  unfold register
  change (eng.setVertlist _).vertlist.count = _
  rw [vertlist_setVertlist]

variable {vtxFormat : u32}

theorem format_cases (valid : vtxFormat < 4) :
    vtxFormat = GFX3D_TRIANGLES ∨ vtxFormat = GFX3D_QUADS ∨ vtxFormat = GFX3D_TRIANGLE_STRIP ∨
      vtxFormat = GFX3D_QUAD_STRIP := by
  unfold GFX3D_TRIANGLES GFX3D_QUADS GFX3D_TRIANGLE_STRIP GFX3D_QUAD_STRIP
  bv_omega

theorem masked_format (v : u32) : v &&& 0x03 < (4 : u32) := by
  rw [BitVec.lt_def,BitVec.toNat_and]
  exact Nat.lt_succ_of_le Nat.and_le_right

theorem separate_not_strip (separate : vtxFormat = GFX3D_TRIANGLES ∨ vtxFormat = GFX3D_QUADS) :
    vtxFormat ≠ GFX3D_TRIANGLE_STRIP ∧ vtxFormat ≠ GFX3D_QUAD_STRIP := by
  rcases separate with rfl | rfl
  · decide
  · decide

theorem quads_not_triangles (quads : vtxFormat = GFX3D_QUADS ∨ vtxFormat = GFX3D_QUAD_STRIP) :
    vtxFormat ≠ GFX3D_TRIANGLES ∧ vtxFormat ≠ GFX3D_TRIANGLE_STRIP := by
  rcases quads with rfl | rfl
  · decide
  · decide

theorem corners_cases (vtxFormat : u32) : corners vtxFormat = 3 ∨ corners vtxFormat = 4 := by
  unfold corners
  split
  · exact Or.inl rfl
  · exact Or.inr rfl

theorem continuation_separate {eng : Engine VERT}
    (separate : eng.vtxFormat = GFX3D_TRIANGLES ∨ eng.vtxFormat = GFX3D_QUADS) :
    eng.continuation = 0 := by
  obtain ⟨notTriangleStrip,notQuadStrip⟩ := separate_not_strip separate
  simp [Engine.continuation,notTriangleStrip,notQuadStrip]

section

variable (build : Build) (dup : VERT → VERT → VERT → Bool) {eng : Engine VERT}
  (vert : VERT)

theorem SetVertex_completed {done : Engine VERT} (accepted : ¬eng.refuses build)
    (polys : 0 ≤ eng.polylist.count)
    (branch : complete (register { eng with polygonListCompleted := 0 } vert)
      eng.continuation = done)
    (flagged : done.polygonListCompleted = 1)
    (fills : Fills eng.polylist done.polylist (corners eng.vtxFormat) eng.slotAt)
    (verts : done.vertlist.count =
      eng.vertlist.count + corners eng.vtxFormat - eng.continuation)
    (fmt : done.vtxFormat = eng.vtxFormat)
    (separate : eng.vtxFormat = GFX3D_TRIANGLES ∨ eng.vtxFormat = GFX3D_QUADS →
      done.tempVertInfo =
        { count := 0, map := eng.slotAt, first := eng.tempVertInfo.first })
    (triangleStrip : eng.vtxFormat = GFX3D_TRIANGLE_STRIP →
      done.tempVertInfo =
        { count := 2
          map := update eng.slotAt (if eng.triStripToggle then 1 else 0)
            (eng.vertlist.count + 2 - eng.continuation)
          first := false })
    (quadStrip : eng.vtxFormat = GFX3D_QUAD_STRIP →
      done.tempVertInfo =
        { count := 2
          map := update (update eng.slotAt 0
            (eng.vertlist.count + 2 - eng.continuation)) 1
            (eng.vertlist.count + 3 - eng.continuation)
          first := false }) :
    Completed eng (SetVertex build dup eng vert).1 := by
  rw [SetVertex_finishes build dup vert accepted branch flagged]
  constructor
  · exact finish_references dup polys fills
  · exact finish_typed dup (corners_cases eng.vtxFormat) fills
  · exact finish_count dup fills
  · exact verts
  · exact fmt
  · exact separate
  · exact triangleStrip
  · exact quadStrip

theorem SetVertex_triangle (accepted : ¬eng.refuses build)
    (polys : 0 ≤ eng.polylist.count) (full : eng.tempVertInfo.count + 1 = 3)
    (fmt : eng.vtxFormat = GFX3D_TRIANGLES) : Completed eng (SetVertex build dup eng vert).1 := by
  let registered := register { eng with polygonListCompleted := 0 } vert
  have verts : registered.vertlist.count = eng.vertlist.count := register_verts _ vert
  have total : corners eng.vtxFormat = 3 := by
    rw [fmt]
    rfl
  have notStrip := separate_not_strip (Or.inl fmt)
  have branch : complete registered eng.continuation = completeTriangle registered :=
    (if_pos fmt).trans (if_neg (not_not.mpr full))
  apply SetVertex_completed build dup vert accepted polys branch rfl
  · rw [total]
    exact triangle_fills registered
  · rw [total,continuation_separate (Or.inl fmt),Int.sub_zero,← verts]
    exact completeTriangle_verts registered
  · rfl
  · exact fun _ => rfl
  · exact fun strip => absurd strip notStrip.1
  · exact fun strip => absurd strip notStrip.2

theorem SetVertex_quad (accepted : ¬eng.refuses build)
    (polys : 0 ≤ eng.polylist.count) (full : eng.tempVertInfo.count + 1 = 4)
    (fmt : eng.vtxFormat = GFX3D_QUADS) : Completed eng (SetVertex build dup eng vert).1 := by
  let registered := register { eng with polygonListCompleted := 0 } vert
  have verts : registered.vertlist.count = eng.vertlist.count := register_verts _ vert
  have total : corners eng.vtxFormat = 4 := by
    rw [fmt]
    rfl
  have notStrip := separate_not_strip (Or.inr fmt)
  have notTriangles : registered.vtxFormat ≠ GFX3D_TRIANGLES :=
    (quads_not_triangles (Or.inl fmt)).1
  have branch : complete registered eng.continuation = completeQuad registered :=
    (if_neg notTriangles).trans ((if_pos fmt).trans (if_neg (not_not.mpr full)))
  apply SetVertex_completed build dup vert accepted polys branch rfl
  · rw [total]
    exact quad_fills registered
  · rw [total,continuation_separate (Or.inr fmt),Int.sub_zero,← verts]
    exact completeQuad_verts registered
  · rfl
  · exact fun _ => rfl
  · exact fun strip => absurd strip notStrip.1
  · exact fun strip => absurd strip notStrip.2

theorem strip_continuation (fmt : eng.vtxFormat = GFX3D_TRIANGLE_STRIP ∨
    eng.vtxFormat = GFX3D_QUAD_STRIP) :
    eng.continuation = if eng.tempVertInfo.first then 0 else 2 := by
  unfold Engine.continuation
  cases first : eng.tempVertInfo.first with
  | true => simp
  | false =>
      rcases fmt with triangles | quads
      · simp [triangles]
      · simp [quads]

theorem SetVertex_triangleStrip (accepted : ¬eng.refuses build)
    (polys : 0 ≤ eng.polylist.count) (full : eng.tempVertInfo.count + 1 = 3)
    (fmt : eng.vtxFormat = GFX3D_TRIANGLE_STRIP) :
    Completed eng (SetVertex build dup eng vert).1 := by
  let registered := register { eng with polygonListCompleted := 0 } vert
  have verts : registered.vertlist.count = eng.vertlist.count := register_verts _ vert
  have total : corners eng.vtxFormat = 3 := by
    rw [fmt]
    rfl
  have notTriangles : registered.vtxFormat ≠ GFX3D_TRIANGLES :=
    fun triangles => (separate_not_strip (Or.inl triangles)).1 fmt
  have notQuads : registered.vtxFormat ≠ GFX3D_QUADS :=
    fun quads => (separate_not_strip (Or.inr quads)).1 fmt
  let done := completeTriangleStrip registered eng.continuation
  have branch : complete registered eng.continuation = done :=
    (if_neg notTriangles).trans
      ((if_neg notQuads).trans ((if_pos fmt).trans (if_neg (not_not.mpr full))))
  have flagged : done.polygonListCompleted = 1 := by
    unfold done completeTriangleStrip
    simp only
    split <;> split <;> rfl
  have added : done.vertlist.count = _ := completeTriangleStrip_verts registered _
  apply SetVertex_completed build dup vert accepted polys branch flagged
  · unfold done
    rw [total,completeTriangleStrip_polylist]
    exact triangle_fills registered
  · rw [added,verts,total,strip_continuation (Or.inl fmt)]
    change _ + (if eng.tempVertInfo.first then 3 else 1) = _
    cases eng.tempVertInfo.first with
    | true => simp
    | false => simp; omega
  · unfold done completeTriangleStrip
    simp only
    split <;> split <;> rfl
  · exact fun separate => absurd fmt (separate_not_strip separate).1
  · intro _
    unfold done
    rw [completeTriangleStrip_tempVertInfo,verts]
    rfl
  · exact fun strip => absurd fmt (quads_not_triangles (Or.inr strip)).2

theorem SetVertex_quadStrip (accepted : ¬eng.refuses build)
    (polys : 0 ≤ eng.polylist.count) (full : eng.tempVertInfo.count + 1 = 4)
    (fmt : eng.vtxFormat = GFX3D_QUAD_STRIP) : Completed eng (SetVertex build dup eng vert).1 := by
  let registered := register { eng with polygonListCompleted := 0 } vert
  have verts : registered.vertlist.count = eng.vertlist.count := register_verts _ vert
  have total : corners eng.vtxFormat = 4 := by
    rw [fmt]
    rfl
  obtain ⟨notTriangles,notStrip⟩ := quads_not_triangles (Or.inr fmt)
  have notQuads : registered.vtxFormat ≠ GFX3D_QUADS :=
    fun quads => (separate_not_strip (Or.inr quads)).2 fmt
  let done := completeQuadStrip registered eng.continuation
  have branch : complete registered eng.continuation = done :=
    (if_neg notTriangles).trans ((if_neg notQuads).trans
      ((if_neg notStrip).trans ((if_pos fmt).trans (if_neg (not_not.mpr full)))))
  have flagged : done.polygonListCompleted = 1 := by
    unfold done completeQuadStrip
    simp only
    split <;> rfl
  have added : done.vertlist.count = _ := completeQuadStrip_verts registered _
  apply SetVertex_completed build dup vert accepted polys branch flagged
  · rw [total]
    exact quadStrip_fills registered eng.continuation
  · rw [added,verts,total,strip_continuation (Or.inr fmt)]
    change _ + (if eng.tempVertInfo.first then 4 else 2) = _
    cases eng.tempVertInfo.first with
    | true => simp
    | false => simp; omega
  · unfold done completeQuadStrip
    simp only
    split <;> rfl
  · exact fun separate => absurd fmt (separate_not_strip separate).2
  · exact fun strip => absurd strip notStrip
  · intro _
    unfold done
    rw [completeQuadStrip_tempVertInfo,verts]
    rfl

theorem SetVertex_completes (accepted : ¬eng.refuses build)
    (valid : eng.vtxFormat < 4) (polys : 0 ≤ eng.polylist.count)
    (full : eng.tempVertInfo.count + 1 = corners eng.vtxFormat) :
    Completed eng (SetVertex build dup eng vert).1 := by
  rcases format_cases valid with fmt | fmt | fmt | fmt
  · rw [fmt] at full
    exact SetVertex_triangle build dup vert accepted polys full fmt
  · rw [fmt] at full
    exact SetVertex_quad build dup vert accepted polys full fmt
  · rw [fmt] at full
    exact SetVertex_triangleStrip build dup vert accepted polys full fmt
  · rw [fmt] at full
    exact SetVertex_quadStrip build dup vert accepted polys full fmt

theorem complete_partial {registered : Engine VERT} (continuation : Int)
    (valid : registered.vtxFormat < 4)
    (part : registered.tempVertInfo.count ≠ corners registered.vtxFormat) :
    complete registered continuation = registered := by
  unfold complete
  rcases format_cases valid with fmt | fmt | fmt | fmt
  · rw [fmt] at part ⊢
    exact if_pos part
  · rw [fmt] at part ⊢
    exact if_pos part
  · rw [fmt] at part ⊢
    exact if_pos part
  · rw [fmt] at part ⊢
    exact if_pos part

structure Registered (before after : Engine VERT) : Prop where
  polylist : after.polylist = before.polylist
  verts : after.vertlist.count = before.vertlist.count
  format : after.vtxFormat = before.vtxFormat
  toggle : after.triStripToggle = before.triStripToggle
  tempVertInfo : after.tempVertInfo =
    { count := before.tempVertInfo.count + 1
      map := before.slotAt
      first := before.tempVertInfo.first }

theorem SetVertex_registers (accepted : ¬eng.refuses build) (valid : eng.vtxFormat < 4)
    (part : eng.tempVertInfo.count + 1 ≠ corners eng.vtxFormat) :
    Registered eng (SetVertex build dup eng vert).1 := by
  let registered := register { eng with polygonListCompleted := 0 } vert
  have same : complete registered eng.continuation = registered :=
    complete_partial _ valid part
  have unflagged : registered.polygonListCompleted ≠ 1 := by
    change (2 : Int) ≠ 1
    omega
  rw [SetVertex_accepted build dup vert accepted same,if_neg unflagged]
  exact ⟨rfl,register_verts _ vert,rfl,rfl,rfl⟩

theorem SetVertex_written (accepted : ¬eng.refuses build) :
    (SetVertex build dup eng vert).2 =
      some ⟨eng.vertIndex,eng.tempVertInfo.count⟩ := by
  rw [SetVertex_accepted build dup vert accepted rfl]
  split
  · rfl
  · rfl

theorem SetVertex_refused (refused : eng.refuses build) :
    SetVertex build dup eng vert = ({ eng with polygonListCompleted := 0 }, none) :=
  if_pos refused

end

end Desmume.Gfx3d
