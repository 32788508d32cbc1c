/-
A buffer of indices, filled by loops that append and sorted in part.

A buffer is a total map from positions to indices, and only a prefix of it is in
use.
-/

import Mathlib

namespace IndexBuffer

universe u

variable {Index : Type u}

def cells (buffer : Nat → Index) (length : Nat) : List Index :=
  (List.range length).map buffer

variable (buffer : Nat → Index)

@[simp] theorem length_cells (length : Nat) : (cells buffer length).length = length := by
  rw [cells,List.length_map,List.length_range]

theorem cells_succ (length : Nat) :
    cells buffer (length + 1) = cells buffer length ++ [buffer length] := by
  rw [cells,List.range_succ,List.map_append]
  rfl

variable {length : Nat} {less : Index → Index → Bool}

theorem cells_congr {first second : Nat → Index}
    (same : ∀ pos, pos < length → first pos = second pos) :
    cells first length = cells second length :=
  List.map_congr_left fun pos member => same pos (List.mem_range.mp member)

variable (st : (Nat → Index) × Nat) (wanted : Index → Bool) (indices : List Index)

/-- `list[ctr++] = index`. -/
def push (i : Index) : (Nat → Index) × Nat :=
  (Function.update st.1 st.2 i, st.2 + 1)

def used : List Index := cells st.1 st.2

theorem used_push (i : Index) : used (push st i) = used st ++ [i] := by
  change cells (Function.update st.1 st.2 i) (st.2 + 1) =
    cells st.1 st.2 ++ [i]
  rw [cells_succ,Function.update_self]
  congr 1
  apply cells_congr
  intro pos inside
  exact Function.update_of_ne (Nat.ne_of_lt inside) _ _

def collect (st : (Nat → Index) × Nat) : (Nat → Index) × Nat :=
  indices.foldl (fun st i => if wanted i then push st i else st) st

theorem used_collect (st : (Nat → Index) × Nat) :
    used (collect wanted indices st) = used st ++ indices.filter wanted := by
  induction indices generalizing st with
  | nil => exact (List.append_nil _).symm
  | cons i rest ih =>
      change used (collect wanted rest (if wanted i then push st i else st)) = _
      rw [ih]
      cases selected : wanted i with
      | true =>
          rw [if_pos rfl,used_push,List.filter_cons_of_pos selected,List.append_assoc]
          rfl
      | false =>
          rw [if_neg Bool.false_ne_true,List.filter_cons_of_neg (by simp [selected])]

def storeFront (buffer : Nat → Index) (front : List Index) : Nat → Index := fun pos =>
  front.getD pos (buffer pos)

theorem storeFront_inside (front : List Index) {pos : Nat}
    (inside : pos < front.length) : storeFront buffer front pos = front[pos] := by
  rw [storeFront,List.getD_eq_getElem _ _ inside]

theorem storeFront_behind (front : List Index) {pos : Nat}
    (behind : front.length ≤ pos) : storeFront buffer front pos = buffer pos := by
  rw [storeFront,List.getD_eq_default _ _ behind]

theorem cells_storeFront {front old later : List Index}
    (split : cells buffer length = old ++ later) (same : front.length = old.length) :
    cells (storeFront buffer front) length = front ++ later := by
  have total : length = front.length + later.length := by
    rw [← length_cells buffer length,split,List.length_append,same]
  apply List.ext_getElem
  · rw [length_cells,List.length_append,total]
  · intro pos inside _
    have cell (buffer : Nat → Index) (inside : pos < (cells buffer length).length) :
        (cells buffer length)[pos] = buffer pos := by
      simp only [cells,List.getElem_map,List.getElem_range]
    rw [cell]
    by_cases front_part : pos < front.length
    · rw [storeFront_inside buffer front front_part,List.getElem_append_left front_part]
    · have behind : front.length ≤ pos := Nat.le_of_not_lt front_part
      rw [storeFront_behind buffer front behind,List.getElem_append_right behind,
        ← cell buffer (by simpa using inside)]
      simp only [split,same]
      rw [List.getElem_append_right (by omega)]

/-- `std::stable_sort` of the first cells by a strict order. -/
def stableSort (less : Index → Index → Bool) (buffer : Nat → Index) (length : Nat) : Nat → Index :=
  storeFront buffer ((cells buffer length).mergeSort fun first second => !less second first)

structure Strict (less : Index → Index → Bool) : Prop where
  asymm : ∀ first second, less first second = true → less second first = false
  trans : ∀ first second third,
    less first second = true → less second third = true → less first third = true
  total : ∀ first second, first ≠ second → less first second = true ∨ less second first = true

theorem Strict.not_greater_trans (strict : Strict less)
    (first second third : Index) (lower : (!less second first) = true)
    (upper : (!less third second) = true) : (!less third first) = true := by
  rw [Bool.not_eq_true'] at lower upper ⊢
  cases inverted : less third first with
  | false => rfl
  | true =>
      by_cases same : first = second
      · subst same
        rw [upper] at inverted
        contradiction
      · have below : less first second = true := by
          rcases strict.total first second same with below | above
          · exact below
          · rw [lower] at above
            contradiction
        have contradictory := strict.trans third first second inverted below
        rw [upper] at contradictory
        contradiction

theorem mergeSort_pairwise (strict : Strict less)
    {indices : List Index} (distinct : indices.Nodup) :
    (indices.mergeSort fun first second => !less second first).Pairwise
      (fun first second => less first second = true) := by
  have total (first second : Index) : (!less second first || !less first second) = true := by
    cases below : less first second with
    | true =>
        rw [strict.asymm first second below]
        rfl
    | false => rw [Bool.not_false,Bool.or_true]
  have sorted : (indices.mergeSort fun first second => !less second first).Pairwise
      (fun first second => (!less second first) = true) :=
    List.pairwise_mergeSort strict.not_greater_trans total indices
  have apart : (indices.mergeSort fun first second => !less second first).Nodup :=
    (List.mergeSort_perm indices _).nodup_iff.mpr distinct
  refine (sorted.and apart).imp ?_
  rintro first second ⟨lower,ne⟩
  rw [Bool.not_eq_true'] at lower
  rcases strict.total first second ne with below | above
  · exact below
  · rw [lower] at above
    contradiction

theorem cells_stableSort (less : Index → Index → Bool) (buffer : Nat → Index)
    {front later : List Index} (split : cells buffer length = front ++ later) :
    cells (stableSort less buffer front.length) length =
      (front.mergeSort fun first second => !less second first) ++ later := by
  have front_cells : cells buffer front.length = front := by
    have short : front.length ≤ length := by
      rw [← length_cells buffer length,split,List.length_append]
      omega
    have taken : cells buffer front.length = (cells buffer length).take front.length := by
      rw [cells,cells,← List.map_take,List.take_range,Nat.min_eq_left short]
    rw [taken,split,List.take_left]
  rw [stableSort,front_cells]
  exact cells_storeFront buffer split (List.length_mergeSort _)

end IndexBuffer
