/-
The FIFO of the main memory display, `DISP_FIFOsend` and `DISP_FIFOrecv`.

Neither operation looks at the other end, so a receive gives what its slot was
last sent, which is the oldest waiting word as long as between one and 0x6000
of them wait.
-/

import Desmume.Lib.Run
import Desmume.Types

namespace Desmume.Fifo.Display

open Function (update update_of_ne update_self)

structure DISP_FIFO where
  head : Nat
  tail : Nat
  buf : Nat → u32

def DISP_FIFOinit : DISP_FIFO := ⟨0,0,fun _ => 0⟩

variable (fifo : DISP_FIFO)

def DISP_FIFOsend (val : u32) : DISP_FIFO :=
  { fifo with
    buf := update fifo.buf fifo.tail val
    tail := if fifo.tail + 1 > 0x5FFF then 0 else fifo.tail + 1 }

def DISP_FIFOrecv : u32 × DISP_FIFO :=
  (fifo.buf fifo.head,
    { fifo with head := if fifo.head + 1 > 0x5FFF then 0 else fifo.head + 1 })

inductive Op
  | send (val : u32)
  | recv

def step : Op → DISP_FIFO
  | .send val => DISP_FIFOsend fifo val
  | .recv => (DISP_FIFOrecv fifo).2

/-- The words sent, newest first, and the number of receives. -/
structure Traffic where
  sent : List u32
  taken : Nat

def Traffic.step (traffic : Traffic) : Op → Traffic
  | .send val => { traffic with sent := val :: traffic.sent }
  | .recv => { traffic with taken := traffic.taken + 1 }

/-- The last word whose number falls on the slot, 0 where there is none. -/
def latest : List u32 → Nat → u32
  | [], _ => 0
  | val :: older, slot => if older.length % 0x6000 = slot then val else latest older slot

/-- The buffer holds the last word of each slot. -/
structure Follows (fifo : DISP_FIFO) (traffic : Traffic) : Prop where
  head : fifo.head = traffic.taken % 0x6000
  tail : fifo.tail = traffic.sent.length % 0x6000
  slots : ∀ slot, fifo.buf slot = latest traffic.sent slot

variable {fifo : DISP_FIFO} {traffic : Traffic}

theorem wrapped (count : Nat) :
    (if count % 0x6000 + 1 > 0x5FFF then 0 else count % 0x6000 + 1) = (count + 1) % 0x6000 := by
  split_ifs
  · omega
  · omega

theorem Follows.step (follows : Follows fifo traffic) (op : Op) :
    Follows (step fifo op) (traffic.step op) := by
  cases op with
  | send val =>
      refine ⟨follows.head,?_,?_⟩
      · change (if fifo.tail + 1 > 0x5FFF then 0 else fifo.tail + 1) = _
        rw [follows.tail]
        exact wrapped traffic.sent.length
      · intro slot
        change update fifo.buf fifo.tail val slot = latest (val :: traffic.sent) slot
        rw [follows.tail,latest]
        by_cases here : traffic.sent.length % 0x6000 = slot
        · rw [if_pos here,← here,update_self]
        · rw [if_neg here,update_of_ne (Ne.symm here)]
          exact follows.slots slot
  | recv =>
      refine ⟨?_,follows.tail,follows.slots⟩
      change (if fifo.head + 1 > 0x5FFF then 0 else fifo.head + 1) = _
      rw [follows.head]
      exact wrapped traffic.taken

theorem follows_run (follows : Follows fifo traffic) (ops : List Op) :
    Follows (Run.final Display.step fifo ops) (Run.final Traffic.step traffic ops) := by
  induction ops generalizing fifo traffic with
  | nil => exact follows
  | cons op rest ih => exact ih (follows.step op)

/-- While no newer word has the same slot, the latest word of a slot is the one sent to it. -/
theorem getElem?_latest {number : Nat} (sent : List u32) (before : number < sent.length)
    (near : sent.length ≤ number + 0x6000) :
    sent.reverse[number]? = some (latest sent (number % 0x6000)) := by
  induction sent with
  | nil => cases before
  | cons val older ih =>
      rw [List.length_cons] at before near
      rw [latest,List.reverse_cons]
      by_cases newest : number = older.length
      · subst newest
        rw [if_pos rfl,List.getElem?_append_right (by simp)]
        simp
      · rw [if_neg (by omega),List.getElem?_append_left (by simp; omega)]
        exact ih (by omega) (by omega)

/-- After any sends and receives, a receive gives the last word of its slot, and the oldest
waiting word where between one and 0x6000 words wait. -/
theorem display_fifo_law (ops : List Op) :
    let traffic := Run.final Traffic.step ⟨[],0⟩ ops
    let word := (DISP_FIFOrecv (Run.final step DISP_FIFOinit ops)).1
    word = latest traffic.sent (traffic.taken % 0x6000) ∧
      (traffic.taken < traffic.sent.length →
        traffic.sent.length ≤ traffic.taken + 0x6000 →
          traffic.sent.reverse[traffic.taken]? = some word) := by
  have follows : Follows (Run.final step DISP_FIFOinit ops) (Run.final Traffic.step ⟨[],0⟩ ops) :=
    follows_run ⟨rfl,rfl,fun _ => rfl⟩ ops
  have word := (follows.slots _).trans (congrArg _ follows.head)
  exact ⟨word,fun before near => (getElem?_latest _ before near).trans (congrArg some word.symm)⟩

end Desmume.Fifo.Display
