/-
The stages clip by one plane after the other, and what clipping gives.

Six stages that are fed a polygon give the outline clipped by six planes. Each
corner that is put out is inside of the volume, every division is by a number
that is not zero, and a polygon inside is given back as it is.
-/

import Desmume.Geometry.Clipper

namespace Desmume.Gfx3d

section

namespace Clipper

open Clipping

/-- The call of `clipPoint` for the way between two corners. -/
def wayCuts (plane : Plane) (here next : VERT) : List Cut :=
  match plane.out here, plane.out next with
  | false, true => [⟨plane,here,next⟩]
  | true, false => [⟨plane,next,here⟩]
  | _, _ => []

def cutsAlong (plane : Plane) : VERT → List VERT → List Cut
  | _, [] => []
  | here, next :: rest => wayCuts plane here next ++ cutsAlong plane next rest

def cutsOf (plane : Plane) : List VERT → List Cut
  | [] => []
  | start :: rest => cutsAlong plane start (rest ++ [start])

def allCuts : List Plane → List VERT → List Cut
  | [], _ => []
  | plane :: planes, corners => cutsOf plane corners ++ allCuts planes (cutter.clip plane corners)

/-- A call of `clipPoint` is given a corner inside and one outside. -/
def Cut.Across (cut : Cut) : Prop :=
  cut.plane.out cut.inside = false ∧ cut.plane.out cut.outside = true

theorem across_of_mem_wayCuts {plane : Plane} {here next : VERT} {cut : Cut}
    (member : cut ∈ wayCuts plane here next) : cut.Across := by
  unfold wayCuts at member
  split at member
  next first second =>
      obtain rfl := List.mem_singleton.mp member
      exact ⟨first,second⟩
  next first second =>
      obtain rfl := List.mem_singleton.mp member
      exact ⟨second,first⟩
  next => cases member

theorem across_of_mem_cutsAlong {plane : Plane} {here : VERT} {corners : List VERT} {cut : Cut}
    (member : cut ∈ cutsAlong plane here corners) : cut.Across := by
  induction corners generalizing here with
  | nil => cases member
  | cons next rest ih =>
      rcases List.mem_append.mp member with first | later
      · exact across_of_mem_wayCuts first
      · exact ih later

theorem across_of_mem_allCuts {planes : List Plane} {corners : List VERT} {cut : Cut}
    (member : cut ∈ allCuts planes corners) : cut.Across := by
  induction planes generalizing corners with
  | nil => cases member
  | cons plane planes ih =>
      rcases List.mem_append.mp member with first | later
      · cases corners with
        | nil => cases first
        | cons start rest => exact across_of_mem_cutsAlong first
      · exact ih later

theorem length_wayCuts (plane : Plane) (here next : VERT) :
    (wayCuts plane here next).length = cutter.sided Cutter.crosses plane here next := by
  unfold wayCuts Cutter.sided
  rw [inside_cutter,inside_cutter]
  cases plane.out here with
  | true =>
      cases plane.out next with
      | true => rfl
      | false => rfl
  | false =>
      cases plane.out next with
      | true => rfl
      | false => rfl

theorem length_cutsAlong (plane : Plane) (here : VERT) (corners : List VERT) :
    (cutsAlong plane here corners).length =
      Tour.walk (cutter.sided Cutter.crosses plane) here corners := by
  induction corners generalizing here with
  | nil => rfl
  | cons next rest ih => rw [cutsAlong,List.length_append,length_wayCuts,ih,Tour.walk]

theorem length_allCuts (planes : List Plane) (corners : List VERT) :
    (allCuts planes corners).length = cutter.cuts planes corners := by
  induction planes generalizing corners with
  | nil => rfl
  | cons plane planes ih =>
      rw [allCuts,List.length_append,ih,Cutter.cuts]
      congr 1
      cases corners with
      | nil => rfl
      | cons start rest => exact length_cutsAlong plane start _

section

variable {Stage : Type} [ClipStage Stage]

theorem feed_append (stage : Stage) (first second : List VERT) :
    feed stage (first ++ second) =
      ((feed (feed stage first).1 second).1,
        (feed stage first).2 ++ (feed (feed stage first).1 second).2) := by
  induction first generalizing stage with
  | nil => rfl
  | cons vert rest ih =>
      rw [List.cons_append,feed,ih]
      simp only [feed,List.append_assoc]

theorem feed_single (stage : Stage) (vert : VERT) :
    feed stage [vert] = ClipStage.clipVert stage vert := by
  unfold feed feed
  simp only [List.append_nil]

theorem clipSegmentVsPlane_eq (plane : Plane) (next : Stage) (vert0 vert1 : VERT) :
    clipSegmentVsPlane plane next vert0 vert1 =
      ((feed next (cutter.emit plane vert0 vert1)).1,
        wayCuts plane vert0 vert1 ++ (feed next (cutter.emit plane vert0 vert1)).2) := by
  unfold clipSegmentVsPlane wayCuts Cutter.emit cutter
  dsimp only
  cases plane.out vert0 with
  | true =>
      cases plane.out vert1 with
      | true => rfl
      | false =>
          simp only [Bool.not_true,Bool.not_false,clipScratch,feed,Cut.point,
            List.append_nil,List.cons_append,List.nil_append]
  | false =>
      cases plane.out vert1 with
      | true =>
          simp only [Bool.not_true,Bool.not_false,clipScratch,feed,Cut.point,
            List.append_nil,List.cons_append,List.nil_append]
      | false =>
          simp only [Bool.not_false,feed,List.append_nil,List.nil_append]

variable {plane : Plane}

theorem feed_along (first : Option VERT) (prev : VERT) (next : Stage) (verts : List VERT) :
    ∃ last cuts,
      feed (⟨some prev,first,next⟩ : ClipperPlane plane Stage) verts =
          (⟨some last,first,(feed next (cutter.along plane prev verts)).1⟩, cuts) ∧
        cuts.Perm
          (cutsAlong plane prev verts ++ (feed next (cutter.along plane prev verts)).2) := by
  induction verts generalizing prev next with
  | nil => exact ⟨prev,[],rfl,List.Perm.refl _⟩
  | cons vert rest ih =>
      obtain ⟨last,cuts,fed,same⟩ := ih vert (feed next (cutter.emit plane prev vert)).1
      have step : ClipStage.clipVert (⟨some prev,first,next⟩ : ClipperPlane plane Stage) vert =
          (⟨some vert,first,(feed next (cutter.emit plane prev vert)).1⟩,
            wayCuts plane prev vert ++ (feed next (cutter.emit plane prev vert)).2) := by
        change ClipperPlane.clipVert _ vert = _
        unfold ClipperPlane.clipVert
        dsimp only
        rw [clipSegmentVsPlane_eq]
      refine ⟨last,wayCuts plane prev vert ++ (feed next (cutter.emit plane prev vert)).2 ++ cuts,
        ?_,?_⟩
      · rw [feed,step,Cutter.along,feed_append]
        dsimp only
        rw [fed]
      · rw [cutsAlong,Cutter.along,feed_append]
        dsimp only
        refine (same.append_left _).trans ?_
        -- The later cuts of this stage come after the next stage's.
        rw [List.append_assoc,List.append_assoc]
        refine List.Perm.append_left _ ?_
        rw [← List.append_assoc,← List.append_assoc]
        exact List.Perm.append_right _ List.perm_append_comm

theorem feedAll_plane (next : Stage) (verts : List VERT) :
    ∃ stage cuts,
      feedAll (⟨none,none,next⟩ : ClipperPlane plane Stage) verts = (stage, cuts) ∧
        stage.m_next = (feedAll next (cutter.clip plane verts)).1 ∧
        cuts.Perm (cutsOf plane verts ++ (feedAll next (cutter.clip plane verts)).2) := by
  cases verts with
  | nil => exact ⟨_,_,rfl,rfl,List.Perm.refl _⟩
  | cons start rest =>
      obtain ⟨last,cuts,fed,-⟩ := @feed_along Stage _ plane (some start) start next rest
      obtain ⟨_,all,closed,same⟩ :=
        @feed_along Stage _ plane (some start) start next (rest ++ [start])
      -- Finishing feeds the first corner once more.
      rw [feed_append,fed,feed_single] at closed
      obtain ⟨stage,cutsSame⟩ := Prod.mk.inj closed
      have opens : feed (⟨none,none,next⟩ : ClipperPlane plane Stage) (start :: rest) =
          feed ⟨some start,some start,next⟩ rest := rfl
      refine ⟨_,_,rfl,?_,?_⟩
      · unfold feedAll
        rw [opens,fed]
        change (ClipStage.finish
          (ClipStage.clipVert (_ : ClipperPlane plane Stage) start).1.m_next).1 = _
        rw [stage]
        rfl
      · unfold feedAll
        rw [opens,fed]
        change (cuts ++ ((ClipStage.clipVert (_ : ClipperPlane plane Stage) start).2 ++
          (ClipStage.finish
            (ClipStage.clipVert (_ : ClipperPlane plane Stage) start).1.m_next).2)).Perm _
        rw [stage,← List.append_assoc,cutsSame,cutsOf,← List.append_assoc]
        exact same.append_right _

def Yields (stage : Stage) (planes : List Plane) : Prop :=
  ∀ verts,
    ClipStage.clipVerts (feedAll stage verts).1 = cutter.outline planes verts ∧
      ClipStage.numVerts (feedAll stage verts).1 = (cutter.outline planes verts).length ∧
      (feedAll stage verts).2.Perm (allCuts planes verts)

theorem yields_plane {next : Stage} {planes : List Plane} (yields : Yields next planes) :
    Yields (⟨none,none,next⟩ : ClipperPlane plane Stage) (plane :: planes) := by
  intro verts
  obtain ⟨clipped,counted,cuts⟩ := yields (cutter.clip plane verts)
  obtain ⟨stage,calls,run,onward,same⟩ := @feedAll_plane Stage _ plane next verts
  rw [run]
  refine ⟨?_,?_,same.trans (cuts.append_left _)⟩
  · change ClipStage.clipVerts stage.m_next = _
    rw [onward,clipped]
    rfl
  · change ClipStage.numVerts stage.m_next = _
    rw [onward,counted]
    rfl

end

theorem feed_output (out : ClipperOutput) (verts : List VERT) :
    feed out verts =
      ({ clipVerts := out.clipVerts ++ verts
         m_numVerts := out.m_numVerts + verts.length }, []) := by
  induction verts generalizing out with
  | nil =>
      rw [List.append_nil]
      rfl
  | cons vert rest ih =>
      rw [feed,ih]
      change ((⟨(out.clipVerts ++ [vert]) ++ rest,out.m_numVerts + 1 + rest.length⟩ :
        ClipperOutput), ([] : List Cut)) = _
      rw [List.append_assoc,List.length_cons,Nat.add_assoc,Nat.add_comm 1]
      rfl

theorem yields_output : Yields (ClipStage.init : ClipperOutput) [] := by
  intro verts
  unfold feedAll
  rw [feed_output]
  refine ⟨List.nil_append verts,?_,List.Perm.refl _⟩
  exact Nat.zero_add verts.length

theorem clipPoly_yields : Yields (ClipStage.init : Stage1) planes :=
  yields_plane (yields_plane (yields_plane (yields_plane (yields_plane
    (yields_plane yields_output)))))

end Clipper

end

namespace Clipper

open Clipping

/-- `-w <= x, y, z <= w`. -/
def InsideVolume (vert : VERT) : Prop :=
  ∀ i : Fin 3, -vert.coord 3 ≤ vert.coord i.castSucc ∧
    vert.coord i.castSucc ≤ vert.coord 3

theorem mem_planes {plane : Plane} :
    plane ∈ planes ↔
      ∃ i : Fin 3, plane = ⟨i.castSucc,-1⟩ ∨ plane = ⟨i.castSucc,1⟩ := by
  constructor
  · intro member
    simp only [planes,List.mem_cons,List.not_mem_nil,or_false] at member
    rcases member with rfl | rfl | rfl | rfl | rfl | rfl
    · exact ⟨0,Or.inl rfl⟩
    · exact ⟨0,Or.inr rfl⟩
    · exact ⟨1,Or.inl rfl⟩
    · exact ⟨1,Or.inr rfl⟩
    · exact ⟨2,Or.inl rfl⟩
    · exact ⟨2,Or.inr rfl⟩
  · rintro ⟨i,rfl | rfl⟩
    · fin_cases i <;> decide
    · fin_cases i <;> decide

theorem insideVolume_iff {vert : VERT} :
    InsideVolume vert ↔ ∀ plane ∈ planes, cutter.inside plane vert = true := by
  have low : ∀ i : Fin 3, cutter.inside ⟨i.castSucc,-1⟩ vert = true ↔
      -vert.coord 3 ≤ vert.coord i.castSucc := by
    intro i
    rw [inside_cutter,Bool.not_eq_true']
    simp [Plane.out]
  have high : ∀ i : Fin 3, cutter.inside ⟨i.castSucc,1⟩ vert = true ↔
      vert.coord i.castSucc ≤ vert.coord 3 := by
    intro i
    rw [inside_cutter,Bool.not_eq_true']
    simp [Plane.out]
  constructor
  · intro inside plane member
    obtain ⟨i,rfl | rfl⟩ := mem_planes.mp member
    · exact (low i).mpr (inside i).1
    · exact (high i).mpr (inside i).2
  · intro inside i
    exact ⟨(low i).mp (inside _ (mem_planes.mpr ⟨i,Or.inl rfl⟩)),
      (high i).mp (inside _ (mem_planes.mpr ⟨i,Or.inr rfl⟩))⟩

section

variable (clippedPolys : List TClippedPoly) (poly : POLY) (verts : List VERT)

theorem clipPoly_eq (type : poly.type = verts.length) :
    (clipPoly clippedPolys poly verts).clipVerts = cutter.outline planes verts ∧
      (clipPoly clippedPolys poly verts).outType = (cutter.outline planes verts).length ∧
      (clipPoly clippedPolys poly verts).scratch.Perm (allCuts planes verts) := by
  have all : verts.take poly.type.toNat = verts := by
    rw [type,Int.toNat_natCast,List.take_length]
  have yields := clipPoly_yields verts
  unfold clipPoly
  rw [all]
  exact yields

/-- Clipping a triangle or a quad: the cuts, the corners that are put out, and
the polygons that are kept whole or discarded. -/
theorem clipPoly_sound (corners : verts.length = 3 ∨ verts.length = 4)
    (type : poly.type = verts.length) :
    let clipped := clipPoly clippedPolys poly verts
    (∀ cut ∈ clipped.scratch,
        cut.plane.divisor cut.inside cut.outside ≠ 0 ∧
          0 ≤ cut.plane.t cut.inside cut.outside ∧ cut.plane.t cut.inside cut.outside ≤ 1) ∧
      (∀ vert ∈ clipped.clipVerts, InsideVolume vert) ∧
      ((∀ vert ∈ verts, InsideVolume vert) →
        clipped.clipVerts.IsRotated verts ∧
          clipped.clippedPolys = clippedPolys ++ [⟨verts.length,poly,clipped.clipVerts⟩]) ∧
      ∀ plane ∈ planes, (∀ vert ∈ verts, plane.out vert = true) →
        clipped.clippedPolys = clippedPolys := by
  obtain ⟨outline,outType,scratch⟩ := clipPoly_eq clippedPolys poly verts type
  refine ⟨?_,?_,?_,?_⟩
  · intro cut member
    obtain ⟨isIn,isOut⟩ := across_of_mem_allCuts (scratch.mem_iff.mp member)
    exact ⟨Plane.divisor_ne_zero isIn isOut,Plane.t_nonneg isIn isOut,
      (Plane.t_lt_one isIn isOut).le⟩
  · intro vert member
    rw [outline] at member
    exact insideVolume_iff.mpr fun plane clipped => cutter.inside_of_mem_outline member clipped
  · intro inside
    have same : cutter.outline planes verts = verts.rotate 6 :=
      cutter.outline_of_inside fun plane member vert corner =>
        insideVolume_iff.mp (inside vert corner) plane member
    refine ⟨?_,?_⟩
    · rw [outline,same]
      exact List.IsRotated.forall verts 6
    · have n : (clipPoly clippedPolys poly verts).outType = verts.length := by
        rw [outType,same,List.length_rotate]
      change (if (clipPoly clippedPolys poly verts).outType < 3 then clippedPolys else
        clippedPolys ++ [⟨(clipPoly clippedPolys poly verts).outType,poly,
          (clipPoly clippedPolys poly verts).clipVerts⟩]) = _
      rw [n,if_neg (by omega)]
  · intro plane member outside
    have none : cutter.outline planes verts = [] := by
      refine cutter.outline_of_outside member (fun vert corner => ?_)
      rw [inside_cutter,outside vert corner]
      rfl
    change (if (clipPoly clippedPolys poly verts).outType < 3 then clippedPolys else _) = _
    rw [outType,none]
    rfl

/-- All that is written fits into `clipVerts` and `scratchClipVerts`. -/
def Clipped.Fits (clipped : Clipped) : Prop :=
  clipped.clipVerts.length ≤ MAX_CLIPPED_VERTS ∧ clipped.scratch.length ≤ MAX_SCRATCH_CLIP_VERTS

theorem length_clipVerts (type : poly.type = verts.length) :
    (clipPoly clippedPolys poly verts).clipVerts.length + cutter.dropped planes verts =
      verts.length + cutter.cuts planes verts := by
  rw [(clipPoly_eq clippedPolys poly verts type).1]
  exact cutter.length_outline planes verts

theorem length_scratch_le (type : poly.type = verts.length) :
    (clipPoly clippedPolys poly verts).scratch.length ≤ 6 * verts.length := by
  rw [(clipPoly_eq clippedPolys poly verts type).2.2.length_eq,length_allCuts]
  exact (cutter.cuts_le planes verts).trans (cutter.total_crossings_le planes verts)

theorem length_clipVerts_le (type : poly.type = verts.length) :
    (clipPoly clippedPolys poly verts).clipVerts.length ≤
      verts.length + Cutter.total cutter.exits planes verts := by
  rw [(clipPoly_eq clippedPolys poly verts type).1]
  exact cutter.length_outline_le planes verts

theorem exits_of_triangle (three : verts.length = 3) :
    Cutter.total cutter.exits planes verts ≤ 6 := by
  have each : ∀ plane, cutter.exits plane verts ≤ 1 := by
    intro plane
    have few := cutter.two_exits_le plane verts
    omega
  have sum := List.sum_le_card_nsmul (planes.map fun plane => cutter.exits plane verts) 1 (by
    intro n member
    obtain ⟨plane,-,rfl⟩ := List.mem_map.mp member
    exact each plane)
  exact sum

/-- The scratch vertices always fit. What is put out fits exactly when the
corners that the crossings make, less those that are outside, are few enough; so
it does for each polygon that leaves the planes six times at most. -/
theorem clipPoly_fits_iff (corners : verts.length = 3 ∨ verts.length = 4)
    (type : poly.type = verts.length) :
    ((clipPoly clippedPolys poly verts).Fits ↔
        verts.length + cutter.cuts planes verts ≤
          MAX_CLIPPED_VERTS + cutter.dropped planes verts) ∧
      (clipPoly clippedPolys poly verts).scratch.length ≤ 24 ∧
      (Cutter.total cutter.exits planes verts ≤ 6 → (clipPoly clippedPolys poly verts).Fits) ∧
      (verts.length = 3 → (clipPoly clippedPolys poly verts).Fits) := by
  have scratch := length_scratch_le clippedPolys poly verts type
  have enough : (clipPoly clippedPolys poly verts).scratch.length ≤ MAX_SCRATCH_CLIP_VERTS := by
    unfold MAX_SCRATCH_CLIP_VERTS
    omega
  have few : Cutter.total cutter.exits planes verts ≤ 6 →
      (clipPoly clippedPolys poly verts).Fits := by
    intro exits
    have lengths := length_clipVerts_le clippedPolys poly verts type
    refine ⟨?_,enough⟩
    unfold MAX_CLIPPED_VERTS
    omega
  refine ⟨?_,by omega,few,fun three => few (exits_of_triangle verts three)⟩
  have lengths := length_clipVerts clippedPolys poly verts type
  unfold Clipped.Fits
  constructor
  · rintro ⟨fits,-⟩
    omega
  · intro fits
    exact ⟨by omega,enough⟩

end

def corner (x y z w : ℚ) : VERT :=
  { coord := ![x,y,z,w], texcoord := fun _ => 0, fcolor := fun _ => 0, color := fun _ => 0 }

def polygon (type : Int) : POLY := { POLY.zero with type := type }

def insideTriangle : List VERT := [corner 0 0 0 1,corner 1 0 0 1,corner 0 1 (-1) 1]

theorem clipPoly_sound_triangle :
    (clipPoly [] (polygon 3) insideTriangle).clipVerts.IsRotated insideTriangle := by
  refine ((clipPoly_sound [] (polygon 3) insideTriangle (Or.inl rfl) rfl).2.2.1 ?_).1
  intro vert member
  rw [insideVolume_iff]
  revert vert
  decide +kernel

theorem clipPoly_fits_triangle : (clipPoly [] (polygon 3) insideTriangle).Fits :=
  (clipPoly_fits_iff [] (polygon 3) insideTriangle (Or.inl rfl) rfl).2.2.2 rfl

def foldedQuad : List VERT :=
  [corner 2 (-1) 0 1,corner (-2) 2 (-2) 1,corner 2 (-2) 2 1,corner 0 (-1) 2 2]

theorem foldedQuad_does_not_fit :
    ¬∀ (clippedPolys : List TClippedPoly) (poly : POLY) (verts : List VERT),
      verts.length = 3 ∨ verts.length = 4 → poly.type = verts.length →
      (clipPoly clippedPolys poly verts).Fits := by
  intro always
  have fits := (always [] (polygon 4) foldedQuad (Or.inr rfl) rfl).1
  rw [(clipPoly_eq [] (polygon 4) foldedQuad rfl).1] at fits
  exact absurd fits (by decide +kernel)

end Clipper

end Desmume.Gfx3d
