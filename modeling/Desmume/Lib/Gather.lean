/-
Memory seen through a list of pieces.

A piece is a stretch of memory and its place in the whole.
-/

import Mathlib

namespace Gather

universe u

structure Piece where
  ptr : Nat
  len : Nat
  ofs : Nat
  deriving DecidableEq, Repr

def total (pieces : List Piece) : Nat := (pieces.map Piece.len).sum

@[simp] theorem total_nil : total [] = 0 := rfl

variable (piece : Piece) (rest : List Piece)

@[simp] theorem total_cons : total (piece :: rest) = piece.len + total rest := by
  simp only [total,List.map_cons,List.sum_cons]

def address : List Piece → Nat → Nat
  | [], _ => 0
  | piece :: rest, i =>
      if i < piece.len then piece.ptr + i else address rest (i - piece.len)

theorem address_head {i : Nat}
    (inside : i < piece.len) : address (piece :: rest) i = piece.ptr + i :=
  if_pos inside

theorem address_behind (i : Nat) : address (piece :: rest) (piece.len + i) = address rest i := by
  have behind : ¬ piece.len + i < piece.len := by omega
  rw [address,if_neg behind,Nat.add_sub_cancel_left]

def InOrder : Nat → List Piece → Prop
  | _, [] => True
  | start, piece :: rest => piece.ofs = start ∧ InOrder (start + piece.len) rest

variable {Cell : Type u} (mem : Nat → Cell)

def store (buffer : Nat → Cell) (pos ptr size : Nat) : Nat → Cell := fun i =>
  if pos ≤ i ∧ i < pos + size then mem (ptr + (i - pos))
  else buffer i

/-- Copies the pieces one after another until `size` cells are copied. -/
def copy : List Piece → (buffer : Nat → Cell) → (pos size : Nat) → Nat → Cell
  | [], buffer, _, _ => buffer
  | piece :: rest, buffer, pos, size =>
      let todo := min piece.len size
      let stored := store mem buffer pos piece.ptr todo
      if size - todo = 0 then stored else copy rest stored (pos + todo) (size - todo)

theorem copy_apply (pieces : List Piece) (buffer : Nat → Cell) (pos size i : Nat) :
    copy mem pieces buffer pos size i =
      if pos ≤ i ∧ i < pos + min size (total pieces) then
        mem (address pieces (i - pos))
      else buffer i := by
  induction pieces generalizing buffer pos size with
  | nil =>
      have outside : ¬ (pos ≤ i ∧ i < pos + min size (total [])) := by
        rw [total_nil]
        omega
      rw [copy,if_neg outside]
  | cons piece rest ih =>
      rw [total_cons]
      by_cases last : size - min piece.len size = 0
      · have within : min size (piece.len + total rest) = min piece.len size := by omega
        rw [copy,if_pos last,within,store]
        by_cases inside : pos ≤ i ∧ i < pos + min piece.len size
        · rw [if_pos inside,if_pos inside,address_head piece rest (by omega)]
        · rw [if_neg inside,if_neg inside]
      · have whole : min piece.len size = piece.len := by omega
        rw [copy,if_neg last,ih,whole,store]
        by_cases later : pos + piece.len ≤ i
        · obtain ⟨off,rfl⟩ := Nat.exists_eq_add_of_le later
          have behind : pos + piece.len + off - pos = piece.len + off := by omega
          have notStored :
              ¬ (pos ≤ pos + piece.len + off ∧
                pos + piece.len + off < pos + piece.len) := by omega
          rw [Nat.add_sub_cancel_left,behind,address_behind,if_neg notStored]
          congr 1
          apply propext
          omega
        · have notLater :
              ¬ (pos + piece.len ≤ i ∧
                i < pos + piece.len + min (size - piece.len) (total rest)) := by omega
          rw [if_neg notLater]
          by_cases inside : pos ≤ i ∧ i < pos + piece.len
          · have reached : pos ≤ i ∧
                i < pos + min size (piece.len + total rest) := by omega
            rw [if_pos inside,if_pos reached,address_head piece rest (by omega)]
          · have unreached : ¬ (pos ≤ i ∧
                i < pos + min size (piece.len + total rest)) := by omega
            rw [if_neg inside,if_neg unreached]

theorem flatMap_congr {Out : Type*} {first second : Nat → Cell} {render other : Piece → List Out}
    (each : ∀ left right : Piece, left.len = right.len →
      (∀ i, i < left.len → first (left.ptr + i) = second (right.ptr + i)) →
      render left = other right)
    (lefts rights : List Piece) (lens : lefts.map Piece.len = rights.map Piece.len)
    (same : ∀ i, i < total lefts →
      first (address lefts i) = second (address rights i)) :
    lefts.flatMap render = rights.flatMap other := by
  induction lefts generalizing rights with
  | nil =>
      cases rights with
      | nil => rfl
      | cons right rest => cases lens
  | cons left lefts ih =>
      cases rights with
      | nil => cases lens
      | cons right rights =>
          obtain ⟨headLen,tailLens⟩ := List.cons.inj lens
          rw [total_cons] at same
          have head : render left = other right := by
            apply each left right headLen
            intro i inside
            have here := same i (by omega)
            rwa [address_head left lefts inside,address_head right rights (headLen ▸ inside)]
              at here
          have tail : lefts.flatMap render = rights.flatMap other := by
            apply ih rights tailLens
            intro i inside
            have here := same (left.len + i) (by omega)
            rwa [address_behind,headLen,address_behind] at here
          rw [List.flatMap_cons,List.flatMap_cons,head,tail]

variable [DecidableEq Cell]

variable (buffer : Nat → Cell)

def stretchDiffers (pos ptr size : Nat) : Bool :=
  (List.range size).any fun off => mem (ptr + off) ≠ buffer (pos + off)

theorem stretchDiffers_eq_false (pos ptr size : Nat) :
    stretchDiffers mem buffer pos ptr size = false ↔
      ∀ off, off < size → mem (ptr + off) = buffer (pos + off) := by
  simp [stretchDiffers]

/-- Compares the pieces with a buffer until `size` cells are compared or one
piece differs. -/
def differs (buffer : Nat → Cell) : List Piece → (size : Nat) → Bool
  | [], _ => false
  | piece :: rest, size =>
      let todo := min piece.len size
      if stretchDiffers mem buffer piece.ofs piece.ptr todo then true
      else if size - todo = 0 then false
      else differs buffer rest (size - todo)

theorem differs_eq_false (pieces : List Piece) (start size : Nat) (inOrder : InOrder start pieces) :
    differs mem buffer pieces size = false ↔
      ∀ i, i < min size (total pieces) →
        mem (address pieces i) = buffer (start + i) := by
  induction pieces generalizing start size with
  | nil =>
      refine iff_of_true rfl ?_
      intro i inside
      rw [total_nil] at inside
      omega
  | cons piece rest ih =>
      obtain ⟨placed,restInOrder⟩ := inOrder
      have head := stretchDiffers_eq_false mem buffer piece.ofs piece.ptr (min piece.len size)
      have tail := ih (start + piece.len) (size - min piece.len size) restInOrder
      rw [total_cons,differs]
      by_cases headDiffers :
          stretchDiffers mem buffer piece.ofs piece.ptr (min piece.len size) = true
      · rw [if_pos headDiffers]
        refine iff_of_false (by simp) ?_
        intro same
        refine absurd (head.mpr ?_) (by simp [headDiffers])
        intro off inside
        have here := same off (by omega)
        rwa [address_head piece rest (by omega),← placed] at here
      · have headSame := head.mp (Bool.not_eq_true _ ▸ headDiffers)
        rw [if_neg headDiffers]
        by_cases last : size - min piece.len size = 0
        · rw [if_pos last]
          refine iff_of_true rfl ?_
          intro i inside
          rw [address_head piece rest (by omega),← placed]
          exact headSame i (by omega)
        · have whole : min piece.len size = piece.len := by omega
          rw [if_neg last,tail]
          constructor
          · intro tailSame i inside
            by_cases first : i < piece.len
            · rw [address_head piece rest first,← placed]
              exact headSame i (by omega)
            · obtain ⟨off,rfl⟩ := Nat.exists_eq_add_of_le (Nat.le_of_not_lt first)
              rw [address_behind,← Nat.add_assoc]
              exact tailSame off (by omega)
          · intro same i inside
            have here := same (piece.len + i) (by omega)
            rwa [address_behind,← Nat.add_assoc] at here

end Gather
