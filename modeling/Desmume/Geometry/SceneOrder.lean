/-
The order of a flushed scene.

The index list is the list of the opaque polygons, sorted by their depth ranges,
followed by the list of the translucent ones.
-/

import Desmume.Geometry.Scene
import Desmume.Geometry.Completion

namespace Desmume.Gfx3d
namespace Rendering

def Scene.polycount (scene : Scene) : Nat := scene.polylist.count.toNat

def Scene.order (scene : Scene) : List Nat := IndexBuffer.cells scene.indexlist scene.polycount

def Scene.translucent (scene : Scene) (num : Nat) : Prop :=
  isTranslucent (scene.polylist.list num) = true

def Scene.depths (scene : Scene) (num : Nat) : Set ℚ :=
  {depth | ∃ corner : Fin 4, (corner.val : Int) < (scene.polylist.list num).type ∧
    VERTLIST.vertz scene.vertlist (scene.polylist.list num) corner = depth}

/-- Lexicographically by `maxz`, `minz` and the order of submission. -/
def before (extents : Nat → Extent) (num1 num2 : Nat) : Prop :=
  (extents num1).maxz < (extents num2).maxz ∨
    ((extents num1).maxz = (extents num2).maxz ∧
      ((extents num1).minz < (extents num2).minz ∨
        ((extents num1).minz = (extents num2).minz ∧ num1 < num2)))

structure Scene.Ordered (build : Build) (scene : Scene) : Prop where
  inside : 0 ≤ scene.polylist.count ∧ scene.polylist.count ≤ build.POLYLIST_SIZE
  permutation : scene.order.Perm (List.range scene.polycount)
  nearest : ∀ num, num < scene.polycount →
    IsLeast (scene.depths num) (scene.extents num).minz
  farthest : ∀ num, num < scene.polycount →
    IsGreatest (scene.depths num) (scene.extents num).maxz
  sorted : ∃ opaques translucents, scene.order = opaques ++ translucents ∧
    (∀ num ∈ opaques, ¬scene.translucent num) ∧ (∀ num ∈ translucents, scene.translucent num) ∧
    opaques.Pairwise (before scene.extents) ∧ translucents.Pairwise (· < ·)

theorem foldl_min_isLeast {Depth : Type} [LinearOrder Depth] (depth : Fin 4 → Depth)
    (corners : List (Fin 4)) (start : Depth) :
    IsLeast {val | val = start ∨ ∃ corner ∈ corners, depth corner = val}
      (corners.foldl (fun minz corner => min minz (depth corner)) start) := by
  induction corners generalizing start with
  | nil =>
      constructor
      · exact Or.inl rfl
      · rintro val (rfl | ⟨corner,member,-⟩)
        · exact le_refl val
        · exact absurd member List.not_mem_nil
  | cons corner rest ih =>
      obtain ⟨attained,least⟩ := ih (min start (depth corner))
      constructor
      · rcases attained with here | ⟨later,member,same⟩
        · rcases min_choice start (depth corner) with kept | taken
          · exact Or.inl (here.trans kept)
          · exact Or.inr ⟨corner,List.mem_cons_self,(here.trans taken).symm⟩
        · exact Or.inr ⟨later,List.mem_cons_of_mem corner member,same⟩
      · have lowest := least (Or.inl rfl)
        rintro val (rfl | ⟨other,member,same⟩)
        · exact lowest.trans (min_le_left _ _)
        · rcases List.mem_cons.mp member with rfl | later
          · rw [← same]
            exact lowest.trans (min_le_right _ _)
          · exact least (Or.inr ⟨other,later,same⟩)

theorem foldl_max_isGreatest (depth : Fin 4 → ℚ) (corners : List (Fin 4)) (start : ℚ) :
    IsGreatest {val | val = start ∨ ∃ corner ∈ corners, depth corner = val}
      (corners.foldl (fun maxz corner => max maxz (depth corner)) start) :=
  foldl_min_isLeast (fun corner => OrderDual.toDual (depth corner)) corners
    (OrderDual.toDual start)

theorem mem_laterCorners (poly : POLY) (corner : Fin 4) :
    corner ∈ laterCorners poly ↔ corner ≠ 0 ∧ (corner.val : Int) < poly.type := by
  unfold laterCorners
  rw [List.mem_filter,decide_eq_true_eq]
  refine and_congr_left fun _ => ?_
  fin_cases corner <;> decide

theorem corner_depths (poly : POLY) (polygon : 0 < poly.type) (depth : Fin 4 → ℚ) :
    {val | val = depth 0 ∨ ∃ corner ∈ laterCorners poly, depth corner = val} =
      {val | ∃ corner : Fin 4, (corner.val : Int) < poly.type ∧ depth corner = val} := by
  ext val
  constructor
  · rintro (rfl | ⟨corner,member,same⟩)
    · exact ⟨0,polygon,rfl⟩
    · exact ⟨corner,((mem_laterCorners poly corner).mp member).2,same⟩
  · rintro ⟨corner,inside,same⟩
    by_cases first : corner = 0
    · rw [first] at same
      exact Or.inl same.symm
    · exact Or.inr ⟨corner,(mem_laterCorners poly corner).mpr ⟨first,inside⟩,same⟩

theorem extent_range (vertlist : VERTLIST VERT) (poly : POLY) (polygon : 0 < poly.type) :
    IsLeast {val | ∃ corner : Fin 4, (corner.val : Int) < poly.type ∧
        VERTLIST.vertz vertlist poly corner = val} (extent vertlist poly).minz ∧
      IsGreatest {val | ∃ corner : Fin 4, (corner.val : Int) < poly.type ∧
        VERTLIST.vertz vertlist poly corner = val} (extent vertlist poly).maxz := by
  rw [← corner_depths poly polygon]
  exact ⟨foldl_min_isLeast _ _ _,foldl_max_isGreatest _ _ _⟩

variable (extents : Nat → Extent) (num1 num2 : Nat)

theorem zsort_compare_iff :
    gfx3d_zsort_compare extents num1 num2 = true ↔ before extents num1 num2 := by
  unfold gfx3d_zsort_compare before
  by_cases far : (extents num1).maxz = (extents num2).maxz
  · rw [if_neg (not_not.mpr far)]
    by_cases near : (extents num1).minz = (extents num2).minz
    · simp [far,near]
    · simp [far,near]
  · simp [far]

theorem zsort_compare_false_iff :
    gfx3d_zsort_compare extents num1 num2 = false ↔ ¬before extents num1 num2 := by
  rw [← zsort_compare_iff,Bool.not_eq_true]

theorem before_asymm (first : before extents num1 num2) : ¬before extents num2 num1 := by
  unfold before at *
  rintro second
  rcases first with far | ⟨same,near | ⟨level,early⟩⟩ <;>
    rcases second with far' | ⟨same',near' | ⟨level',early'⟩⟩ <;> linarith

theorem before_trans (num1 num2 num3 : Nat)
    (first : before extents num1 num2) (second : before extents num2 num3) :
    before extents num1 num3 := by
  unfold before at *
  rcases first with far | ⟨same,near | ⟨level,early⟩⟩
  · left
    rcases second with far' | ⟨same',-⟩ <;> linarith
  · rcases second with far' | ⟨same',near' | ⟨level',-⟩⟩
    · left
      linarith
    · exact Or.inr ⟨same.trans same',Or.inl (near.trans near')⟩
    · exact Or.inr ⟨same.trans same',Or.inl (by linarith)⟩
  · rcases second with far' | ⟨same',near' | ⟨level',early'⟩⟩
    · left
      linarith
    · exact Or.inr ⟨same.trans same',Or.inl (by linarith)⟩
    · exact Or.inr ⟨same.trans same',Or.inr ⟨level.trans level',early.trans early'⟩⟩

theorem before_total (ne : num1 ≠ num2) : before extents num1 num2 ∨ before extents num2 num1 := by
  unfold before
  rcases lt_trichotomy (extents num1).maxz (extents num2).maxz with far | same | far
  · exact Or.inl (Or.inl far)
  · rcases lt_trichotomy (extents num1).minz (extents num2).minz with near | level | near
    · exact Or.inl (Or.inr ⟨same,Or.inl near⟩)
    · rcases Nat.lt_or_gt_of_ne ne with early | late
      · exact Or.inl (Or.inr ⟨same,Or.inr ⟨level,early⟩⟩)
      · exact Or.inr (Or.inr ⟨same.symm,Or.inr ⟨level.symm,late⟩⟩)
    · exact Or.inr (Or.inr ⟨same.symm,Or.inl near⟩)
  · exact Or.inr (Or.inl far)

theorem zsort_strict : IndexBuffer.Strict (gfx3d_zsort_compare extents) := by
  constructor
  · intro num1 num2 less
    rw [zsort_compare_iff] at less
    rw [zsort_compare_false_iff]
    exact before_asymm extents num1 num2 less
  · intro num1 num2 num3 first second
    rw [zsort_compare_iff] at first second ⊢
    exact before_trans extents num1 num2 num3 first second
  · intro num1 num2 ne
    rw [zsort_compare_iff,zsort_compare_iff]
    exact before_total extents num1 num2 ne

/-- The polygons a loop of `gfx3d_doFlush` picks out. -/
def picked (wanted : Nat → Bool) (n : Nat) : List Nat := (List.range n).filter wanted

variable (m : Machine)

theorem sorted_cells :
    IndexBuffer.cells m.sorted m.engine.polylist.count.toNat =
      (picked (fun num => !isTranslucent (m.engine.polylist.list num))
        m.engine.polylist.count.toNat).mergeSort
          (fun first second => !gfx3d_zsort_compare m.ranged second first) ++
      picked (fun num => isTranslucent (m.engine.polylist.list num))
        m.engine.polylist.count.toNat := by
  let n := m.engine.polylist.count.toNat
  let translucent := fun num : Nat => isTranslucent (m.engine.polylist.list num)
  let opaques := IndexBuffer.collect (fun num => !translucent num) (List.range n)
    (m.indexlist, 0)
  let collected := IndexBuffer.collect translucent (List.range n) opaques
  have front : IndexBuffer.used opaques = picked (fun num => !translucent num) n :=
    IndexBuffer.used_collect _ _ _
  have all : IndexBuffer.used collected =
      picked (fun num => !translucent num) n ++ picked translucent n :=
    (IndexBuffer.used_collect _ _ _).trans (congrArg (· ++ picked translucent n) front)
  have opaqueCount : opaques.2 = (picked (fun num => !translucent num) n).length := by
    rw [← front,IndexBuffer.used,IndexBuffer.length_cells]
  have total : collected.2 = n := by
    have lengths := congrArg List.length all
    rw [IndexBuffer.used,IndexBuffer.length_cells,List.length_append] at lengths
    have parts := List.length_eq_length_filter_add (l := List.range n) translucent
    rw [List.length_range] at parts
    unfold picked at lengths
    omega
  rw [IndexBuffer.used,total] at all
  have sorted := IndexBuffer.cells_stableSort (gfx3d_zsort_compare m.ranged) collected.1 all
  rw [← opaqueCount] at sorted
  exact sorted

theorem ranged_apply (num : Nat) (inside : num < m.engine.polylist.count.toNat) :
    m.ranged num =
      extent m.engine.vertlist (m.engine.polylist.list num) := by
  have stored := Table.storeAll_target (List.range m.engine.polylist.count.toNat) id
    (fun num : Nat => extent m.engine.vertlist (m.engine.polylist.list num))
    Function.injective_id num (List.mem_range.mpr inside)
    (m.extents m.engine.listTwiddle)
  exact stored

theorem twiddle_ne (twiddle : Fin 2) : twiddle ≠ twiddle + 1 := by
  fin_cases twiddle <;> decide

theorem twiddleLists_built (eng : Engine VERT) :
    (twiddleLists eng).polylists eng.listTwiddle = eng.polylist ∧
      (twiddleLists eng).vertlists eng.listTwiddle = eng.vertlist := by
  have other := twiddle_ne eng.listTwiddle
  exact ⟨Function.update_of_ne other _ _,Function.update_of_ne other _ _⟩

theorem doFlush_scene :
    (gfx3d_doFlush m).scene =
      { polylist := m.engine.polylist
        extents := m.ranged
        vertlist := m.engine.vertlist
        indexlist := m.sorted
        renderState := (m.state.flush m.control).renderCopy } := by
  obtain ⟨polys,verts⟩ := twiddleLists_built m.engine
  have extents : (gfx3d_doFlush m).extents m.engine.listTwiddle = m.ranged :=
    Function.update_self _ _ _
  change Scene.mk _ _ _ _ _ = _
  rw [← polys,← verts,← extents]
  rfl

theorem doFlush_ordered (build : Build) (m : Machine) (nonneg : 0 ≤ m.engine.polylist.count)
    (room : m.engine.polylist.count ≤ build.POLYLIST_SIZE) (typed : m.engine.polylist.typed) :
    (gfx3d_doFlush m).scene.Ordered build := by
  rw [doFlush_scene]
  have order := sorted_cells m
  have range (num : Nat) (inside : num < m.engine.polylist.count.toNat) :=
    extent_range m.engine.vertlist (m.engine.polylist.list num) (by
      have kind := typed num (by omega) (by omega)
      omega)
  have distinct : (picked (fun num => !isTranslucent (m.engine.polylist.list num))
      m.engine.polylist.count.toNat).Nodup := List.nodup_range.filter _
  constructor
  · exact ⟨nonneg,room⟩
  · refine (List.Perm.of_eq order).trans ?_
    refine ((List.mergeSort_perm _ _).append_right _).trans ?_
    refine List.perm_append_comm.trans ?_
    exact List.filter_append_perm _ _
  · intro num inside
    change IsLeast _ (m.ranged num).minz
    rw [ranged_apply m num inside]
    exact (range num inside).1
  · intro num inside
    change IsGreatest _ (m.ranged num).maxz
    rw [ranged_apply m num inside]
    exact (range num inside).2
  · refine ⟨_,_,order,?_,?_,?_,?_⟩
    · intro num member
      rw [List.mem_mergeSort] at member
      have wanted := (List.mem_filter.mp member).2
      rw [Bool.not_eq_true'] at wanted
      exact ne_true_of_eq_false wanted
    · exact fun num member => (List.mem_filter.mp member).2
    · have sorted := IndexBuffer.mergeSort_pairwise (zsort_strict m.ranged) distinct
      exact sorted.imp fun less => (zsort_compare_iff _ _ _).mp less
    · exact List.pairwise_lt_range.filter _

end Rendering
end Desmume.Gfx3d
