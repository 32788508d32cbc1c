/-
The clipper: `ClipperPlane`, `ClipperOutput`, `clipPoint` and `clipPoly`.

A polygon is fed to six stages, corner by corner; each stage clips by a plane
and hands what is left to the next one, and `finish` closes the outline stage by
stage.
-/

import Desmume.Geometry.PolygonList
import Desmume.Lib.Clipping
import Mathlib.Data.Rat.Floor
import Mathlib.Tactic.FieldSimp
import Mathlib.Tactic.Linarith
import Mathlib.Tactic.Ring

namespace Desmume
namespace Gfx3d
namespace Clipper

structure VERT where
  coord : Fin 4 → ℚ
  texcoord : Fin 2 → ℚ
  fcolor : Fin 3 → ℚ
  color : Fin 3 → u8

def VERT.color_to_float (vert : VERT) : VERT :=
  { vert with fcolor := fun i => (vert.color i).toNat }

/-- `interpolate<float>`. -/
def interpolate (ratio x0 x1 : ℚ) : ℚ := x0 + (x1 - x0) * ratio

/-- `interpolate<u8>`, which cuts the fraction. -/
def interpolateByte (ratio : ℚ) (x0 x1 : u8) : u8 :=
  BitVec.ofInt 8 ⌊interpolate ratio x0.toNat x1.toNat⌋

/-- The parameters of a stage: the coordinate, and the side, which is -1 or 1. -/
structure Plane where
  coord : Fin 4
  which : Int
  deriving DecidableEq

namespace Plane

variable (plane : Plane)

def out (vert : VERT) : Bool :=
  if plane.which = -1 then vert.coord plane.coord < -vert.coord 3
  else vert.coord plane.coord > vert.coord 3

/-- `w_inside` and `w_outside`. -/
def w (vert : VERT) : ℚ := if plane.which = -1 then -vert.coord 3 else vert.coord 3

/-- What `t` is divided by. -/
def divisor (inside outside : VERT) : ℚ :=
  (plane.w outside - plane.w inside) - (outside.coord plane.coord - inside.coord plane.coord)

def t (inside outside : VERT) : ℚ :=
  (inside.coord plane.coord - plane.w inside) / plane.divisor inside outside

def clipPoint (inside outside : VERT) : VERT :=
  let t := plane.t inside outside
  let ret : VERT :=
    { coord := fun i => interpolate t (inside.coord i) (outside.coord i)
      texcoord := fun i => interpolate t (inside.texcoord i) (outside.texcoord i)
      fcolor := inside.fcolor
      color := fun i => interpolateByte t (inside.color i) (outside.color i) }
  let ret := ret.color_to_float
  { ret with
    coord := Function.update ret.coord plane.coord
      (if plane.which = -1 then -ret.coord 3 else ret.coord 3) }

end Plane

/-- A call of `clipPoint`, whose result is the next scratch vertex. -/
structure Cut where
  plane : Plane
  inside : VERT
  outside : VERT

def Cut.point (cut : Cut) : VERT := cut.plane.clipPoint cut.inside cut.outside

/-- What a stage does: it takes a corner, and closes the outline. Each gives the
scratch vertices that are taken meanwhile. -/
class ClipStage (Stage : Type) where
  init : Stage
  clipVert : Stage → VERT → Stage × List Cut
  finish : Stage → Stage × List Cut
  /-- `clipperOut`, at the end of the stages. -/
  numVerts : Stage → Nat
  clipVerts : Stage → List VERT

open ClipStage (clipVert)

structure ClipperOutput where
  clipVerts : List VERT
  m_numVerts : Nat

instance : ClipStage ClipperOutput where
  init := { clipVerts := [], m_numVerts := 0 }
  clipVert out vert :=
    ({ clipVerts := out.clipVerts ++ [vert], m_numVerts := out.m_numVerts + 1 }, [])
  finish out := (out, [])
  numVerts := ClipperOutput.m_numVerts
  clipVerts := ClipperOutput.clipVerts

structure ClipperPlane (plane : Plane) (Next : Type) where
  m_prevVert : Option VERT
  m_firstVert : Option VERT
  m_next : Next

section

variable {plane : Plane} {Next : Type} [ClipStage Next]

def clipScratch (next : Next) (cut : Cut) : Next × List Cut :=
  let res := clipVert next cut.point
  (res.1, cut :: res.2)

def clipSegmentVsPlane (plane : Plane) (next : Next) (vert0 vert1 : VERT) : Next × List Cut :=
  match plane.out vert0, plane.out vert1 with
  | true, true => (next, [])
  | false, false => clipVert next vert1
  | false, true => clipScratch next ⟨plane,vert0,vert1⟩
  | true, false =>
      let first := clipScratch next ⟨plane,vert1,vert0⟩
      let second := clipVert first.1 vert1
      (second.1, first.2 ++ second.2)

def ClipperPlane.clipVert (stage : ClipperPlane plane Next) (vert : VERT) :
    ClipperPlane plane Next × List Cut :=
  match stage.m_prevVert with
  | some prev =>
      let res := clipSegmentVsPlane plane stage.m_next prev vert
      ({ stage with m_prevVert := some vert, m_next := res.1 }, res.2)
  | none => ({ stage with m_prevVert := some vert, m_firstVert := some vert }, [])

/-- `finish`. Without a first corner the null pointer is stored once more. -/
def ClipperPlane.finish (stage : ClipperPlane plane Next) : ClipperPlane plane Next × List Cut :=
  let closed :=
    match stage.m_firstVert with
    | some first => stage.clipVert first
    | none => (stage, [])
  let res := ClipStage.finish closed.1.m_next
  ({ closed.1 with m_next := res.1 }, closed.2 ++ res.2)

instance : ClipStage (ClipperPlane plane Next) where
  init := { m_prevVert := none, m_firstVert := none, m_next := ClipStage.init }
  clipVert := ClipperPlane.clipVert
  finish := ClipperPlane.finish
  numVerts stage := ClipStage.numVerts stage.m_next
  clipVerts stage := ClipStage.clipVerts stage.m_next

end

abbrev Stage6 := ClipperPlane ⟨2,1⟩ ClipperOutput
abbrev Stage5 := ClipperPlane ⟨2,-1⟩ Stage6
abbrev Stage4 := ClipperPlane ⟨1,1⟩ Stage5
abbrev Stage3 := ClipperPlane ⟨1,-1⟩ Stage4
abbrev Stage2 := ClipperPlane ⟨0,1⟩ Stage3
abbrev Stage1 := ClipperPlane ⟨0,-1⟩ Stage2

def planes : List Plane := [⟨0,-1⟩,⟨0,1⟩,⟨1,-1⟩,⟨1,1⟩,⟨2,-1⟩,⟨2,1⟩]

/-- The loop of `clipPoly` over the corners. -/
def feed {Stage : Type} [ClipStage Stage] : Stage → List VERT → Stage × List Cut
  | stage, [] => (stage, [])
  | stage, vert :: rest =>
      let first := clipVert stage vert
      let later := feed first.1 rest
      (later.1, first.2 ++ later.2)

def feedAll {Stage : Type} [ClipStage Stage] (stage : Stage) (verts : List VERT) :
    Stage × List Cut :=
  let fed := feed stage verts
  let finished := ClipStage.finish fed.1
  (finished.1, fed.2 ++ finished.2)

structure TClippedPoly where
  type : Nat
  poly : POLY
  clipVerts : List VERT

/-- What a call of `clipPoly` does: the vertices it writes to `clipVerts`, the
calls of `clipPoint` behind the scratch vertices, and the polygons that are
counted after it. -/
structure Clipped where
  outType : Nat
  clipVerts : List VERT
  scratch : List Cut
  clippedPolys : List TClippedPoly

def clipPoly (clippedPolys : List TClippedPoly) (poly : POLY) (verts : List VERT) : Clipped :=
  let run := feedAll (ClipStage.init : Stage1) (verts.take poly.type.toNat)
  let outType := ClipStage.numVerts run.1
  let clipVerts := ClipStage.clipVerts run.1
  { outType := outType
    clipVerts := clipVerts
    scratch := run.2
    clippedPolys :=
      if outType < 3 then clippedPolys
      else clippedPolys ++ [{ type := outType, poly := poly, clipVerts := clipVerts }] }

def MAX_CLIPPED_VERTS : Nat := 10

def MAX_SCRATCH_CLIP_VERTS : Nat := 4 * 6 + 40

end Clipper
end Gfx3d
end Desmume

namespace Desmume
namespace Gfx3d
namespace Clipper

section

variable {ratio x0 x1 : ℚ}

theorem interpolate_eq : interpolate ratio x0 x1 = (1 - ratio) * x0 + ratio * x1 := by
  unfold interpolate
  ring

theorem interpolate_nonneg (low : 0 ≤ ratio) (high : ratio < 1) (first : 0 ≤ x0)
    (second : 0 ≤ x1) : 0 ≤ interpolate ratio x0 x1 := by
  rw [interpolate_eq]
  have rest : 0 ≤ 1 - ratio := by linarith
  exact add_nonneg (mul_nonneg rest first) (mul_nonneg low second)

theorem interpolate_neg (low : 0 ≤ ratio) (high : ratio < 1) (first : x0 < 0)
    (second : x1 < 0) : interpolate ratio x0 x1 < 0 := by
  rw [interpolate_eq]
  have rest : 0 < 1 - ratio := by linarith
  exact add_neg_of_neg_of_nonpos (mul_neg_of_pos_of_neg rest first)
    (mul_nonpos_of_nonneg_of_nonpos low second.le)

end

namespace Plane

variable (plane : Plane)

def distance (vert : VERT) : ℚ :=
  if plane.which = -1 then vert.coord 3 + vert.coord plane.coord
  else vert.coord 3 - vert.coord plane.coord

variable {plane} {inside outside vert : VERT}

theorem out_iff : plane.out vert = true ↔ plane.distance vert < 0 := by
  unfold out distance
  split
  next =>
    rw [decide_eq_true_eq]
    constructor
    · intro less
      linarith
    · intro less
      linarith
  next =>
    rw [decide_eq_true_eq]
    constructor
    · intro less
      linarith
    · intro less
      linarith

theorem in_iff : plane.out vert = false ↔ 0 ≤ plane.distance vert := by
  rw [← Bool.not_eq_true,out_iff,not_lt]

theorem divisor_eq :
    (plane.divisor inside outside = plane.distance inside - plane.distance outside ∧
        inside.coord plane.coord - plane.w inside = plane.distance inside) ∨
      (plane.divisor inside outside = -(plane.distance inside - plane.distance outside) ∧
        inside.coord plane.coord - plane.w inside = -plane.distance inside) := by
  unfold divisor w distance
  by_cases negative : plane.which = -1
  · left
    simp only [if_pos negative]
    constructor
    · ring
    · ring
  · right
    simp only [if_neg negative]
    constructor
    · ring
    · ring

theorem t_eq : plane.t inside outside =
    plane.distance inside / (plane.distance inside - plane.distance outside) := by
  unfold t
  rcases @divisor_eq plane inside outside with ⟨below,above⟩ | ⟨below,above⟩
  · rw [below,above]
  · rw [below,above,neg_div_neg_eq]

section

variable (isIn : plane.out inside = false) (isOut : plane.out outside = true)

include isIn isOut

theorem apart : 0 < plane.distance inside - plane.distance outside := by
  have first := in_iff.mp isIn
  have second := out_iff.mp isOut
  linarith

theorem divisor_ne_zero : plane.divisor inside outside ≠ 0 := by
  have positive := apart isIn isOut
  rcases @divisor_eq plane inside outside with ⟨same,-⟩ | ⟨same,-⟩
  · rw [same]
    exact positive.ne'
  · rw [same]
    exact (neg_neg_of_pos positive).ne

theorem t_nonneg : 0 ≤ plane.t inside outside := by
  rw [t_eq]
  exact div_nonneg (in_iff.mp isIn) (apart isIn isOut).le

theorem t_lt_one : plane.t inside outside < 1 := by
  rw [t_eq,div_lt_one (apart isIn isOut)]
  have negative := out_iff.mp isOut
  linarith

theorem interpolate_distance :
    interpolate (plane.t inside outside) (plane.distance inside) (plane.distance outside) = 0 := by
  have positive := (apart isIn isOut).ne'
  rw [t_eq]
  unfold interpolate
  field_simp
  ring

theorem coord_clipPoint (i : Fin 4) :
    (plane.clipPoint inside outside).coord i =
      interpolate (plane.t inside outside) (inside.coord i) (outside.coord i) := by
  unfold clipPoint VERT.color_to_float
  by_cases set : i = plane.coord
  · have zero := interpolate_distance isIn isOut
    subst set
    simp only [Function.update_self]
    unfold distance at zero
    by_cases negative : plane.which = -1
    · simp only [if_pos negative] at zero ⊢
      unfold interpolate at zero ⊢
      linarith
    · simp only [if_neg negative] at zero ⊢
      unfold interpolate at zero ⊢
      linarith
  · simp only [Function.update_of_ne set]

theorem distance_clipPoint (other : Plane) :
    other.distance (plane.clipPoint inside outside) =
      interpolate (plane.t inside outside) (other.distance inside) (other.distance outside) := by
  unfold distance
  rw [coord_clipPoint isIn isOut,coord_clipPoint isIn isOut]
  unfold interpolate
  split
  next => ring
  next => ring

end

end Plane

/-! ### The planes as cutters -/

/-- The stages' planes, with `clipPoint`. -/
def cutter : Clipping.Cutter Plane VERT where
  inside plane vert := !plane.out vert
  cut := Plane.clipPoint
  cut_inside plane here next isIn isOut := by
    rw [Bool.not_eq_true'] at isIn ⊢
    rw [Bool.not_eq_false'] at isOut
    rw [Plane.in_iff,Plane.distance_clipPoint isIn isOut,
      Plane.interpolate_distance isIn isOut]
  cut_between plane here next isIn isOut other := by
    rw [Bool.not_eq_true'] at isIn
    rw [Bool.not_eq_false'] at isOut
    have low := Plane.t_nonneg isIn isOut
    have high := Plane.t_lt_one isIn isOut
    have distance := Plane.distance_clipPoint isIn isOut other
    rw [Bool.not_inj_iff,Bool.not_inj_iff]
    cases first : other.out here with
    | false =>
        cases second : other.out next with
        | false =>
            left
            rw [Plane.in_iff,distance]
            exact interpolate_nonneg low high (Plane.in_iff.mp first) (Plane.in_iff.mp second)
        | true =>
            cases other.out (plane.clipPoint here next) with
            | false => exact Or.inl rfl
            | true => exact Or.inr rfl
    | true =>
        cases second : other.out next with
        | false =>
            cases other.out (plane.clipPoint here next) with
            | false => exact Or.inr rfl
            | true => exact Or.inl rfl
        | true =>
            left
            rw [Plane.out_iff,distance]
            exact interpolate_neg low high (Plane.out_iff.mp first) (Plane.out_iff.mp second)

theorem inside_cutter (plane : Plane) (vert : VERT) : cutter.inside plane vert = !plane.out vert :=
  rfl

end Clipper
end Gfx3d
end Desmume
