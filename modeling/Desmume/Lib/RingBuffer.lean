/-
A ring buffer over an arbitrary type and its abstraction to a queue.

The buffer has `capacity` slots, a head, a tail and a count.
-/

import Mathlib

universe u

structure RingBuffer (α : Type u) where
  slot : Nat → α
  head : Nat
  tail : Nat
  size : Nat

namespace RingBuffer

open Function (update update_of_ne update_self)

variable {α : Type u} {cap : Nat} {ring : RingBuffer α}

def wrap (cap i : Nat) : Nat :=
  if i > cap - 1 then 0 else i

def push (cap : Nat) (ring : RingBuffer α) (item : α) : RingBuffer α :=
  { slot := update ring.slot ring.tail item
    head := ring.head
    tail := wrap cap (ring.tail + 1)
    size := ring.size + 1 }

def pop (cap : Nat) (ring : RingBuffer α) : RingBuffer α :=
  { slot := ring.slot
    head := wrap cap (ring.head + 1)
    tail := ring.tail
    size := ring.size - 1 }

structure Holds (cap : Nat) (ring : RingBuffer α) (items : List α) : Prop where
  size_eq : ring.size = items.length
  fits : items.length ≤ cap
  head_lt : ring.head < cap
  tail_eq : ring.tail = (ring.head + items.length) % cap
  slots : ∀ i (bound : i < items.length),
    ring.slot ((ring.head + i) % cap) = items[i]

theorem wrap_succ {i : Nat} (bound : i < cap) : wrap cap (i + 1) = (i + 1) % cap := by
  unfold wrap
  by_cases last : i + 1 = cap
  · rw [last,Nat.mod_self,if_pos (by omega)]
  · rw [if_neg (by omega),Nat.mod_eq_of_lt (by omega)]

theorem slot_ne {head first second : Nat} (order : first < second) (turn : second < cap) :
    (head + first) % cap ≠ (head + second) % cap := by
  intro same
  have divides : cap ∣ (head + second) - (head + first) :=
    Nat.dvd_of_mod_eq_zero (Nat.sub_mod_eq_zero_of_mod_eq same.symm)
  have zero : (head + second) - (head + first) = 0 :=
    Nat.eq_zero_of_dvd_of_lt divides (by omega)
  omega

theorem Holds.tail_lt {items : List α} (holds : Holds cap ring items) : ring.tail < cap := by
  have positive : 0 < cap := Nat.zero_lt_of_lt holds.head_lt
  rw [holds.tail_eq]
  exact Nat.mod_lt _ positive

theorem holds_nil (slot : Nat → α) (positive : 0 < cap) :
    Holds cap { slot := slot, head := 0, tail := 0, size := 0 } [] where
  size_eq := rfl
  fits := Nat.zero_le _
  head_lt := positive
  tail_eq := by simp
  slots := by intro i bound; cases bound

theorem Holds.push {items : List α} (holds : Holds cap ring items)
    (room : items.length < cap) (item : α) : Holds cap (ring.push cap item) (items ++ [item]) where
  size_eq := by simp [RingBuffer.push,holds.size_eq]
  fits := by simpa using room
  head_lt := holds.head_lt
  tail_eq := by
    change wrap cap (ring.tail + 1) = _
    rw [wrap_succ holds.tail_lt,holds.tail_eq,Nat.mod_add_mod]
    simp [Nat.add_assoc,RingBuffer.push]
  slots := by
    intro i bound
    change update ring.slot ring.tail item ((ring.head + i) % cap) = _
    by_cases last : i = items.length
    · subst last
      rw [← holds.tail_eq,update_self]
      simp
    · have old : i < items.length := by
        simp only [List.length_append,List.length_singleton] at bound
        omega
      have apart : (ring.head + i) % cap ≠ ring.tail := by
        rw [holds.tail_eq]
        exact slot_ne old room
      rw [update_of_ne apart,holds.slots i old,List.getElem_append_left old]

theorem Holds.of_slots {items : List α} (holds : Holds cap ring items) {slot : Nat → α}
    (same : ∀ i < items.length,
      slot ((ring.head + i) % cap) = ring.slot ((ring.head + i) % cap)) :
    Holds cap { ring with slot := slot } items where
  size_eq := holds.size_eq
  fits := holds.fits
  head_lt := holds.head_lt
  tail_eq := holds.tail_eq
  slots := by
    intro i bound
    rw [← holds.slots i bound]
    exact same i bound

theorem Holds.head_slot {item : α} {rest : List α}
    (holds : Holds cap ring (item :: rest)) : ring.slot ring.head = item := by
  have first := holds.slots 0 (Nat.zero_lt_succ _)
  rw [Nat.add_zero,Nat.mod_eq_of_lt holds.head_lt] at first
  exact first

theorem Holds.pop {item : α} {rest : List α} (holds : Holds cap ring (item :: rest)) :
    Holds cap (ring.pop cap) rest where
  size_eq := by simp [RingBuffer.pop,holds.size_eq]
  fits := by
    have fits := holds.fits
    rw [List.length_cons] at fits
    omega
  head_lt := by
    have positive : 0 < cap := Nat.zero_lt_of_lt holds.head_lt
    change wrap cap (ring.head + 1) < cap
    rw [wrap_succ holds.head_lt]
    exact Nat.mod_lt _ positive
  tail_eq := by
    change ring.tail = (wrap cap (ring.head + 1) + rest.length) % cap
    rw [wrap_succ holds.head_lt,Nat.mod_add_mod,holds.tail_eq,List.length_cons]
    congr 1
    omega
  slots := by
    intro i bound
    change ring.slot ((wrap cap (ring.head + 1) + i) % cap) = _
    have next := holds.slots (i + 1) (Nat.succ_lt_succ bound)
    rw [wrap_succ holds.head_lt,Nat.mod_add_mod]
    rw [List.getElem_cons_succ] at next
    rw [← next]
    congr 2
    omega

theorem Holds.push_full {items : List α} (holds : Holds cap ring items)
    (full : items.length = cap) (item : α) : (ring.push cap item).slot ring.head = item := by
  have same : ring.tail = ring.head := by
    rw [holds.tail_eq,full,Nat.add_mod_right,Nat.mod_eq_of_lt holds.head_lt]
  change update ring.slot ring.tail item ring.head = item
  rw [same,update_self]

def items (cap : Nat) (ring : RingBuffer α) : List α :=
  (List.range ring.size).map fun i => ring.slot ((ring.head + i) % cap)

theorem Holds.items_eq {queued : List α} (holds : Holds cap ring queued) :
    ring.items cap = queued := by
  apply List.ext_getElem
  · simp [items,holds.size_eq]
  · intro i left right
    simp only [items,List.getElem_map,List.getElem_range]
    exact holds.slots i right

end RingBuffer
