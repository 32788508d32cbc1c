/-
Loops that store into a finite table.

A loop is a fold over its indices. `storeAll` stores a value for each index,
`copyAll` copies one cell of the table to another for each index.
-/

import Mathlib

namespace Table

open Function (update update_of_ne update_self)

universe u v w

variable {Slot : Type u} [DecidableEq Slot] {Cell : Type v} {Index : Type w}

variable (table : Slot → Cell)

def storeAll (indices : List Index) (target : Index → Slot) (val : Index → Cell) : Slot → Cell :=
  indices.foldl (fun table i => update table (target i) (val i)) table

def copyAll (indices : List Index) (target source : Index → Slot) : Slot → Cell :=
  indices.foldl
    (fun table i => update table (target i) (table (source i))) table

def changeAll (indices : List Slot) (change : Slot → Cell → Cell) : Slot → Cell :=
  indices.foldl (fun table i => update table i (change i (table i))) table

theorem changeAll_of_outside {indices : List Slot} (change : Slot → Cell → Cell) {slot : Slot}
    (outside : slot ∉ indices) (table : Slot → Cell) :
    changeAll table indices change slot = table slot := by
  induction indices generalizing table with
  | nil => rfl
  | cons head tail ih =>
      have later := ih (fun member => outside (List.mem_cons_of_mem head member))
        (update table head (change head (table head)))
      have apart : slot ≠ head := fun same => outside (same ▸ List.mem_cons_self)
      rw [update_of_ne apart] at later
      exact later

theorem changeAll_of_mem {indices : List Slot} (distinct : indices.Nodup)
    (change : Slot → Cell → Cell) {slot : Slot} (member : slot ∈ indices) (table : Slot → Cell) :
    changeAll table indices change slot = change slot (table slot) := by
  induction indices generalizing table with
  | nil => exact absurd member List.not_mem_nil
  | cons head tail ih =>
      obtain ⟨fresh,rest⟩ := List.nodup_cons.mp distinct
      change changeAll (update table head (change head (table head))) tail change slot = _
      by_cases here : slot = head
      · rw [here,changeAll_of_outside change fresh,update_self]
      · rw [ih rest ((List.mem_cons.mp member).resolve_left here),update_of_ne here]

variable (indices : List Index)

variable (target source : Index → Slot)

theorem storeAll_of_outside
    (val : Index → Cell) (slot : Slot) (outside : ∀ i ∈ indices, target i ≠ slot)
    (table : Slot → Cell) : storeAll table indices target val slot = table slot := by
  induction indices generalizing table with
  | nil => rfl
  | cons head tail ih =>
      have later := ih (fun i member => outside i (List.mem_cons_of_mem head member))
        (update table (target head) (val head))
      rw [update_of_ne (outside head List.mem_cons_self).symm] at later
      exact later

theorem storeAll_target (val : Index → Cell)
    (injective : Function.Injective target) (i : Index) (member : i ∈ indices)
    (table : Slot → Cell) : storeAll table indices target val (target i) = val i := by
  induction indices generalizing table with
  | nil => cases member
  | cons head tail ih =>
      by_cases again : i ∈ tail
      · exact ih again _
      · have here : i = head := (List.mem_cons.mp member).resolve_right again
        subst here
        have outside : ∀ other ∈ tail, target other ≠ target i := by
          intro other present same
          exact again (injective same ▸ present)
        have later := storeAll_of_outside tail target val (target i) outside
          (update table (target i) (val i))
        rw [update_self] at later
        exact later

theorem copyAll_of_outside
    (slot : Slot) (outside : ∀ i ∈ indices, target i ≠ slot) (table : Slot → Cell) :
    copyAll table indices target source slot = table slot := by
  induction indices generalizing table with
  | nil => rfl
  | cons head tail ih =>
      have later := ih (fun i member => outside i (List.mem_cons_of_mem head member))
        (update table (target head) (table (source head)))
      rw [update_of_ne (outside head List.mem_cons_self).symm] at later
      exact later

theorem copyAll_target
    (injective : Function.Injective target) (apart : ∀ left right, target left ≠ source right)
    (i : Index) (member : i ∈ indices) (table : Slot → Cell) :
    copyAll table indices target source (target i) = table (source i) := by
  induction indices generalizing table with
  | nil => cases member
  | cons head tail ih =>
      by_cases again : i ∈ tail
      · have later := ih again (update table (target head) (table (source head)))
        rw [update_of_ne (apart head i).symm] at later
        exact later
      · have here : i = head := (List.mem_cons.mp member).resolve_right again
        subst here
        have outside : ∀ other ∈ tail, target other ≠ target i := by
          intro other present same
          exact again (injective same ▸ present)
        have later := copyAll_of_outside tail target source (target i) outside
          (update table (target i) (table (source i)))
        rw [update_self] at later
        exact later

variable {size : Nat}

/-- The slots `start, start + 1, ...` of a stretch inside the table. -/
def slot (start n : Nat) (inside : start + n ≤ size) (i : Fin n) : Fin size :=
  ⟨start + i.val,by omega⟩

theorem slot_injective (start n : Nat) (inside : start + n ≤ size) :
    Function.Injective (slot start n inside) := by
  intro left right same
  have values : start + left.val = start + right.val := congrArg Fin.val same
  apply Fin.ext
  omega

theorem storeAll_slots_inside (table : Fin size → Cell) (start n : Nat)
    (inside : start + n ≤ size) (val : Fin n → Cell) (i : Fin n) :
    storeAll table (List.finRange n) (slot start n inside) val
      (slot start n inside i) = val i :=
  storeAll_target _ _ _ (slot_injective start n inside) i (List.mem_finRange i) table

theorem storeAll_slots_outside (table : Fin size → Cell) (start n : Nat)
    (inside : start + n ≤ size) (val : Fin n → Cell) (pos : Fin size)
    (outside : pos.val < start ∨ start + n ≤ pos.val) :
    storeAll table (List.finRange n) (slot start n inside) val pos =
      table pos := by
  apply storeAll_of_outside
  intro i _ same
  have values : start + i.val = pos.val := congrArg Fin.val same
  omega

end Table
