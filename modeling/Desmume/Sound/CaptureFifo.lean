/-
The delay line of a capture unit: `SPUFifo::enqueue` and `SPUFifo::dequeue`.

`enqueue` stores at the tail and then moves it, `dequeue` moves the head and
then reads there.
-/

import Desmume.Lib.RingBuffer
import Desmume.Sound.Savestate

namespace Desmume.Sound
namespace SPUFifo

open Function (update update_apply)

/-- The index of a position, which is below 16 in every run from a reset. -/
def index (pos : u32) : Fin 16 := Fin.ofNat 16 pos.toNat

def enqueue (fifo : SPUFifo) (val : u16) : SPUFifo :=
  if fifo.size = 16 then fifo
  else
    { fifo with
      buffer := update fifo.buffer (index fifo.tail) val
      tail := (fifo.tail + 1) &&& 15
      size := fifo.size + 1 }

def dequeue (fifo : SPUFifo) : u16 × SPUFifo :=
  if fifo.size = 0 then (0, fifo)
  else
    let head := (fifo.head + 1) &&& 15
    (fifo.buffer (index head), { fifo with head := head, size := fifo.size - 1 })

inductive Op
  | enqueue (val : u16)
  | dequeue

variable (st : SPUFifo × List u16)

/-- The delay line, and the values enqueued and not yet dequeued, oldest first. -/
def step : Op → SPUFifo × List u16
  | .enqueue val =>
      (st.1.enqueue val, if st.2.length = 16 then st.2 else st.2 ++ [val])
  | .dequeue => (st.1.dequeue.2, st.2.tail)

def ring (fifo : SPUFifo) : RingBuffer u16 where
  slot := fun pos => fifo.buffer (Fin.ofNat 16 pos)
  head := fifo.head.toNat
  tail := fifo.tail.toNat
  size := fifo.size.toNat

def Holds (st : SPUFifo × List u16) : Prop := RingBuffer.Holds 16 st.1.ring st.2

variable {fifo : SPUFifo} {held : List u16}

theorem next_position {pos : u32} (inside : pos.toNat < 16) :
    ((pos + 1) &&& 15).toNat = RingBuffer.wrap 16 (pos.toNat + 1) := by
  have mask : (15 : u32).toNat = 2 ^ 4 - 1 := rfl
  have one : (1 : u32).toNat = 1 := rfl
  rw [RingBuffer.wrap_succ inside,BitVec.toNat_and,mask,Nat.and_two_pow_sub_one_eq_mod,
    BitVec.toNat_add,one,Nat.mod_eq_of_lt (a := pos.toNat + 1) (by omega)]

theorem size_eq (holds : Holds (fifo, held)) : fifo.size.toNat = held.length := holds.size_eq

theorem held_fits (holds : Holds (fifo, held)) : held.length ≤ 16 := holds.fits

theorem full_iff (holds : Holds (fifo, held)) : fifo.size = 16 ↔ held.length = 16 := by
  rw [← size_eq holds,BitVec.toNat_eq]
  rfl

theorem empty_iff (holds : Holds (fifo, held)) : fifo.size = 0 ↔ held = [] := by
  rw [← List.length_eq_zero_iff,← size_eq holds,BitVec.toNat_eq]
  rfl

theorem holds_reset (fifo : SPUFifo) : Holds (fifo.reset, []) :=
  RingBuffer.holds_nil _ (Nat.succ_pos 15)

theorem ring_enqueue (holds : Holds (fifo, held)) (room : held.length < 16) (val : u16) :
    (fifo.enqueue val).ring =
      { fifo.ring.push 16 val with
        slot := fun pos =>
          update fifo.buffer (index fifo.tail) val (Fin.ofNat 16 pos) } := by
  have size := size_eq holds
  have partly : fifo.size ≠ 16 := fun full => Nat.ne_of_lt room ((full_iff holds).mp full)
  have one : (1 : u32).toNat = 1 := rfl
  have n : (fifo.size + 1).toNat = fifo.size.toNat + 1 := by
    rw [BitVec.toNat_add,one,Nat.mod_eq_of_lt (by omega)]
  unfold enqueue
  rw [if_neg partly]
  simp only [ring,RingBuffer.push,next_position holds.tail_lt,n]

theorem index_eq_iff {slot : Nat} {pos : u32} (inside : slot < 16) (within : pos.toNat < 16) :
    Fin.ofNat 16 slot = index pos ↔ slot = pos.toNat := by
  unfold index
  rw [Fin.ext_iff,Fin.val_ofNat,Fin.val_ofNat,Nat.mod_eq_of_lt inside,
    Nat.mod_eq_of_lt within]

theorem holds_enqueue (holds : Holds (fifo, held)) (val : u16) :
    Holds (step (fifo, held) (.enqueue val)) := by
  by_cases full : held.length = 16
  · unfold step enqueue
    dsimp only
    rw [if_pos full,if_pos ((full_iff holds).mpr full)]
    exact holds
  · have room : held.length < 16 := Nat.lt_of_le_of_ne (held_fits holds) full
    unfold step Holds
    dsimp only
    rw [if_neg full,ring_enqueue holds room]
    apply (holds.push room val).of_slots
    intro pos _
    change update fifo.buffer (index fifo.tail) val _ =
      update fifo.ring.slot fifo.tail.toNat val _
    rw [update_apply,update_apply]
    exact if_congr (index_eq_iff (Nat.mod_lt _ (Nat.succ_pos 15)) holds.tail_lt) rfl rfl

theorem holds_dequeue (holds : Holds (fifo, held)) : Holds (step (fifo, held) .dequeue) := by
  cases held with
  | nil =>
      unfold step dequeue
      rw [if_pos ((empty_iff holds).mpr rfl)]
      exact holds
  | cons oldest rest =>
      have size := size_eq holds
      have one : (1 : u32).toNat = 1 := rfl
      have n : (fifo.size - 1).toNat = fifo.size.toNat - 1 := by
        rw [BitVec.toNat_sub_of_le,one]
        rw [BitVec.le_def,one,size,List.length_cons]
        omega
      unfold step dequeue Holds
      dsimp only
      rw [if_neg (fun empty => List.cons_ne_nil _ _ ((empty_iff holds).mp empty))]
      have popped := holds.pop
      simp only [RingBuffer.pop,ring,← next_position holds.head_lt,← n] at popped
      exact popped

theorem holds_run (fifo : SPUFifo) (ops : List Op) : Holds (ops.foldl step (fifo.reset, [])) := by
  induction ops using List.reverseRecOn with
  | nil => exact holds_reset fifo
  | append_singleton earlier op ih =>
      rw [List.foldl_append,List.foldl_cons,List.foldl_nil]
      cases op with
      | enqueue val => exact holds_enqueue ih val
      | dequeue => exact holds_dequeue ih

def Repeated : Prop :=
  st.2 ≠ [] →
    st.1.buffer (index ((st.1.head + 1) &&& 15)) = st.1.buffer (index st.1.head)

def Answers : Op → Prop
  | .enqueue val => st.2.length = 16 → st.1.enqueue val = st.1
  | .dequeue => ∀ oldest ∈ st.2.head?, st.1.dequeue.1 = oldest

theorem answers_dequeue_iff (holds : Holds (fifo, held)) :
    Answers (fifo, held) .dequeue ↔ Repeated (fifo, held) := by
  cases held with
  | nil =>
      constructor
      · intro _ some
        exact absurd rfl some
      · intro _ oldest impossible
        cases impossible
  | cons oldest rest =>
      have first : fifo.buffer (index fifo.head) = oldest := holds.head_slot
      have some : fifo.size ≠ 0 := fun empty => List.cons_ne_nil _ _ ((empty_iff holds).mp empty)
      unfold Answers Repeated dequeue
      dsimp only
      rw [if_neg some,first,List.head?_cons]
      constructor
      · intro answer _
        exact answer oldest rfl
      · intro repeated val same
        cases same
        exact repeated (List.cons_ne_nil _ _)

theorem answers_enqueue (holds : Holds (fifo, held)) (val : u16) :
    Answers (fifo, held) (.enqueue val) := by
  intro full
  unfold enqueue
  rw [if_pos ((full_iff holds).mpr full)]

/-- A reset delay line, whatever its buffer holds, is a queue of at most sixteen values over a
    run exactly when every value it is to hand out also stands in the slot behind it. -/
theorem capture_fifo_iff (fifo : SPUFifo) (ops : List Op) :
    (∀ earlier op later, ops = earlier ++ op :: later →
      let st := earlier.foldl step (fifo.reset, [])
      st.1.size.toNat = st.2.length ∧ st.2.length ≤ 16 ∧ Answers st op) ↔
    ∀ earlier later, ops = earlier ++ .dequeue :: later →
      Repeated (earlier.foldl step (fifo.reset, [])) := by
  constructor
  · intro queue earlier later split
    exact (answers_dequeue_iff (holds_run fifo earlier)).mp (queue earlier _ later split).2.2
  · intro repeated earlier op later split
    have holds := holds_run fifo earlier
    refine ⟨size_eq holds,held_fits holds,?_⟩
    cases op with
    | enqueue val => exact answers_enqueue holds val
    | dequeue => exact (answers_dequeue_iff holds).mpr (repeated earlier later split)

/-- Of the values one and two, both held, the first handed out is two. -/
theorem second_value_first :
    let reset : SPUFifo := { buffer := fun _ => 0, head := 0, tail := 0, size := 0 }
    let st := [Op.enqueue 1,.enqueue 2].foldl step (reset, [])
    st.2 = [1,2] ∧ st.1.dequeue.1 = 2 := by
  decide +kernel

end SPUFifo
end Desmume.Sound
