/-
Writes to a list of cells and to a memory of keys.

Storing a stretch of cells at a position is what a write at a file position does
to the contents: cells before the position and behind the stretch stay, and a
gap between the old end and the position is filled.
-/

import Mathlib

namespace Overwrite

universe u

variable {Cell : Type u}

/-- The list with `data` stored from `position` on. -/
def overwrite (fill : Cell) (cells : List Cell) (position : Nat) (data : List Cell) : List Cell :=
  cells.take position ++ List.replicate (position - cells.length) fill ++
    (data ++ cells.drop (position + data.length))

variable (fill : Cell) (cells data : List Cell) (position : Nat)

theorem length_overwrite :
    (overwrite fill cells position data).length =
      max cells.length (position + data.length) := by
  simp only [overwrite,List.length_append,List.length_take,List.length_replicate,
    List.length_drop]
  omega

private theorem length_front :
    (cells.take position ++ List.replicate (position - cells.length) fill).length =
      position := by
  simp only [List.length_append,List.length_take,List.length_replicate]
  omega

theorem take_overwrite (inside : position ≤ cells.length) :
    (overwrite fill cells position data).take position = cells.take position := by
  have noGap : position - cells.length = 0 := by omega
  rw [overwrite,noGap,List.replicate_zero,List.append_nil,
    List.take_append_of_le_length (by rw [List.length_take]; omega),List.take_take,min_self]

theorem drop_overwrite :
    (overwrite fill cells position data).drop position =
      data ++ cells.drop (position + data.length) := by
  unfold overwrite
  rw [List.drop_append_of_le_length (by rw [length_front]),
    List.drop_eq_nil_of_le (by rw [length_front]),List.nil_append]

variable (i : Nat)

theorem getElem?_overwrite_before (inside : i < cells.length) (before : i < position) :
    (overwrite fill cells position data)[i]? = cells[i]? := by
  unfold overwrite
  rw [List.getElem?_append_left (by rw [length_front]; exact before),
    List.getElem?_append_left (by rw [List.length_take]; omega),
    List.getElem?_take_of_lt before]

theorem getElem?_overwrite_inside (within : i < data.length) :
    (overwrite fill cells position data)[position + i]? = data[i]? := by
  rw [← List.getElem?_drop,drop_overwrite,List.getElem?_append_left within]

theorem getElem?_overwrite_behind (behind : position + data.length ≤ i) :
    (overwrite fill cells position data)[i]? = cells[i]? := by
  obtain ⟨distance,rfl⟩ := Nat.exists_eq_add_of_le behind
  rw [Nat.add_assoc,← List.getElem?_drop,drop_overwrite,
    List.getElem?_append_right (by omega),List.getElem?_drop]
  congr 1
  omega

theorem drop_overwrite_behind (behind : position + data.length ≤ i) :
    (overwrite fill cells position data).drop i = cells.drop i := by
  apply List.ext_getElem?
  intro off
  rw [List.getElem?_drop,List.getElem?_drop]
  exact getElem?_overwrite_behind fill cells data position _ (by omega)

theorem getElem?_overwrite_singleton (value : Cell) (i : Nat) (inside : position < cells.length) :
    (overwrite fill cells position [value])[i]? =
      if i = position then some value else cells[i]? := by
  rcases Nat.lt_trichotomy i position with before | same | behind
  · rw [if_neg (by omega),
      getElem?_overwrite_before fill cells [value] position i (by omega) before]
  · subst same
    rw [if_pos rfl]
    exact getElem?_overwrite_inside fill cells [value] i 0 (by simp)
  · rw [if_neg (by omega),
      getElem?_overwrite_behind fill cells [value] position i
        (by rw [List.length_singleton]; omega)]

theorem overwrite_eq_append (inside : position ≤ cells.length) :
    overwrite fill cells position data =
      cells.take position ++ (data ++ cells.drop (position + data.length)) := by
  have noGap : position - cells.length = 0 := by omega
  rw [overwrite,noGap,List.replicate_zero,List.append_nil]

theorem overwrite_nil (inside : position ≤ cells.length) :
    overwrite fill cells position [] = cells := by
  rw [overwrite_eq_append fill cells [] position inside]
  exact List.take_append_drop position cells

theorem overwrite_overwrite (first second : List Cell) (inside : position ≤ cells.length) :
    overwrite fill (overwrite fill cells position first) (position + first.length) second =
      overwrite fill cells position (first ++ second) := by
  have reach := length_overwrite fill cells first position
  have kept :
      (overwrite fill cells position first).take (position + first.length) =
        cells.take position ++ first := by
    rw [List.take_add,take_overwrite fill cells first position inside,drop_overwrite,
      List.take_left]
  have rest :
      (overwrite fill cells position first).drop (position + first.length + second.length) =
        cells.drop (position + (first ++ second).length) := by
    rw [Nat.add_assoc,← List.drop_drop,drop_overwrite,List.length_append,
      ← List.drop_drop,List.drop_left,List.drop_drop,Nat.add_assoc]
  rw [overwrite_eq_append fill _ second _ (by omega),kept,rest,
    overwrite_eq_append fill cells (first ++ second) position inside]
  simp only [List.append_assoc]

theorem overwrite_of_reach (inside : position ≤ cells.length)
    (reach : cells.length ≤ position + data.length) :
    overwrite fill cells position data = cells.take position ++ data := by
  rw [overwrite_eq_append fill cells data position inside,List.drop_eq_nil_of_le reach,
    List.append_nil]

end Overwrite

namespace LastWrite

universe u v

variable {Key : Type u} [DecidableEq Key] {Value : Type v}

def value? (key : Key) (write : Key × Value) : Option Value :=
  if write.1 = key then some write.2 else none

variable (start : Key → Value)

def lastWritten (log : List (Key × Value)) (key : Key) : Value :=
  (log.filterMap (value? key)).getLastD (start key)

theorem lastWritten_nil :
    lastWritten start ([] : List (Key × Value)) = start := rfl

theorem lastWritten_snoc (log : List (Key × Value)) (key : Key) (value : Value) :
    lastWritten start (log ++ [(key, value)]) =
      Function.update (lastWritten start log) key value := by
  funext read
  unfold lastWritten
  rw [List.filterMap_append]
  by_cases same : key = read
  · subst same
    simp [value?]
  · rw [Function.update_of_ne (fun equal => same equal.symm)]
    simp [value?,same]

theorem lastWritten_append (first second : List (Key × Value)) :
    lastWritten start (first ++ second) = lastWritten (lastWritten start first) second := by
  induction second using List.reverseRecOn with
  | nil => rw [List.append_nil,lastWritten_nil]
  | append_singleton second write ih =>
      obtain ⟨key,value⟩ := write
      rw [← List.append_assoc,lastWritten_snoc,lastWritten_snoc,ih]

theorem lastWritten_singleton (key : Key) (value : Value) :
    lastWritten start [(key, value)] = Function.update start key value :=
  lastWritten_snoc start [] key value

variable {log : List (Key × Value)}

theorem lastWritten_untouched {key : Key}
    (untouched : ∀ write ∈ log, write.1 ≠ key) : lastWritten start log key = start key := by
  have none : log.filterMap (value? key) = [] := by
    rw [List.filterMap_eq_nil_iff]
    intro write member
    exact if_neg (untouched write member)
  unfold lastWritten
  rw [none]
  rfl

theorem lastWritten_of_all {key : Key}
    {value : Value} (all : ∀ write ∈ log, write.1 = key → write.2 = value)
    (some : ∃ write ∈ log, write.1 = key) : lastWritten start log key = value := by
  induction log using List.reverseRecOn with
  | nil =>
      obtain ⟨write,member,-⟩ := some
      exact (List.not_mem_nil member).elim
  | append_singleton log write ih =>
      obtain ⟨other,written⟩ := write
      rw [lastWritten_snoc]
      by_cases same : key = other
      · rw [same,Function.update_self]
        exact all (other, written) (by simp) same.symm
      · rw [Function.update_of_ne same]
        apply ih (fun write member => all write (by simp [member]))
        obtain ⟨write,member,here⟩ := some
        rcases List.mem_append.mp member with before | last
        · exact ⟨write,before,here⟩
        · rw [List.mem_singleton.mp last] at here
          exact absurd here.symm same

end LastWrite
