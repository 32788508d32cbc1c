/-
Raw variables in a stream: `OSWRITE`, `OSREAD`, and what a program of reads
makes of bytes that were written for it.

`Reads` says that a program consumes exactly the given bytes and gives a fixed
result, whatever follows them.
-/

import Desmume.Savestate.Chunk

namespace Desmume.Savestate

open Backup

class Raw (α : Type) where
  size : Nat
  bytes : α → List u8
  ofBytes : List u8 → α
  length_bytes : ∀ x, (bytes x).length = size
  ofBytes_bytes : ∀ x, ofBytes (bytes x) = x

instance : Raw u8 where
  size := 1
  bytes x := [x]
  ofBytes bytes := bytes.getD 0 0
  length_bytes _ := List.length_singleton
  ofBytes_bytes _ := rfl

instance : Raw u16 where
  size := 2
  bytes x := [x.extractLsb' 0 8,x.extractLsb' 8 8]
  ofBytes bytes := bytes.getD 1 0 ++ bytes.getD 0 0
  length_bytes _ := rfl
  ofBytes_bytes x := by
    change x.extractLsb' 8 8 ++ x.extractLsb' 0 8 = x
    apply BitVec.eq_of_getLsbD_eq
    intro i inside
    simp only [BitVec.getLsbD_append,BitVec.getLsbD_extractLsb']
    interval_cases i <;> rfl

instance : Raw u32 where
  size := 4
  bytes := EMUFILE.le32
  ofBytes bytes := bytes.getD 3 0 ++ bytes.getD 2 0 ++ bytes.getD 1 0 ++ bytes.getD 0 0
  length_bytes := EMUFILE.length_le32
  ofBytes_bytes := EMUFILE.le32_bytes

instance : Raw u64 where
  size := 8
  bytes x := Raw.bytes (x.extractLsb' 0 32) ++ Raw.bytes (x.extractLsb' 32 32)
  ofBytes bytes := (Raw.ofBytes (bytes.drop 4) : u32) ++ (Raw.ofBytes (bytes.take 4) : u32)
  length_bytes x := by rw [List.length_append,Raw.length_bytes,Raw.length_bytes]; rfl
  ofBytes_bytes x := by
    have size := Raw.length_bytes (x.extractLsb' 0 32 : u32)
    change _ = 4 at size
    rw [List.drop_left' size,List.take_left' size,Raw.ofBytes_bytes,Raw.ofBytes_bytes]
    apply BitVec.eq_of_getLsbD_eq
    intro i inside
    simp only [BitVec.getLsbD_append,BitVec.getLsbD_extractLsb']
    by_cases low : i < 32
    · simp [low]
    · have high : 32 + (i - 32) = i := by omega
      have below : i - 32 < 32 := by omega
      simp [low,high,below]

section

variable {α : Type} [Raw α] {count : Nat}

theorem length_flatMap_bytes (xs : List α) :
    (xs.flatMap Raw.bytes).length = Raw.size α * xs.length := by
  induction xs with
  | nil => rfl
  | cons x xs ih =>
      rw [List.flatMap_cons,List.length_append,Raw.length_bytes,ih,List.length_cons,
        Nat.mul_succ,Nat.add_comm]

theorem element_bytes (xs : List α) {i : Nat} (inside : i < xs.length) :
    ((xs.flatMap Raw.bytes).drop (Raw.size α * i)).take (Raw.size α) =
      Raw.bytes xs[i] := by
  induction xs generalizing i with
  | nil => exact absurd inside (Nat.not_lt_zero i)
  | cons x xs ih =>
      rw [List.flatMap_cons]
      cases i with
      | zero =>
          rw [Nat.mul_zero,List.drop_zero]
          exact List.take_left' (Raw.length_bytes x)
      | succ i =>
          have behind : Raw.size α * (i + 1) =
              (Raw.bytes x).length + Raw.size α * i := by
            rw [Raw.length_bytes,Nat.mul_succ,Nat.add_comm]
          rw [behind,← List.drop_drop,List.drop_left,ih (Nat.lt_of_succ_lt_succ inside)]
          rfl

end

/-- An array, element after element. -/
instance {α : Type} [Raw α] {count : Nat} : Raw (Fin count → α) where
  size := Raw.size α * count
  bytes xs := (List.ofFn xs).flatMap Raw.bytes
  ofBytes bytes i := Raw.ofBytes ((bytes.drop (Raw.size α * i)).take (Raw.size α))
  length_bytes xs := by rw [length_flatMap_bytes,List.length_ofFn]
  ofBytes_bytes xs := by
    funext i
    have inside : i.val < (List.ofFn xs).length := by
      rw [List.length_ofFn]
      exact i.isLt
    rw [element_bytes _ inside,Raw.ofBytes_bytes,List.getElem_ofFn]

def OSWRITE {α : Type} [Raw α] (x : α) : List u8 := Raw.bytes x

def OSREAD {α : Type} [Raw α] (x : α) : StateM Stream α := fun is =>
  let (is, data) := is.fread (Raw.size α)
  (Raw.ofBytes (data ++ (Raw.bytes x).drop data.length), is)

/-- `read32le(&x, is)`, and whether it succeeded. -/
def readWord (x : u32) : StateM Stream (Bool × u32) := fun is =>
  match is.read32le with
  | (is, none) => ((false, x), is)
  | (is, some word) => ((true, word), is)

/-- `readle`: a variable that is cut short keeps its value. -/
def readle {α : Type} [Raw α] (Bufo : α) : StateM Stream α := fun is =>
  let (is, data) := is.fread (Raw.size α)
  (if data.length = Raw.size α then Raw.ofBytes data else Bufo, is)

def discard (count : Nat) : StateM Stream Unit := fun is => ((), (is.fread count).1)

def Reads {β : Type} (program : StateM Stream β) (bytes : List u8) (res : β) : Prop :=
  ∀ (is : Stream) (rest : List u8), is.At (bytes ++ rest) →
    program is = (res, is.skip bytes.length)

theorem Reads.pure {β : Type} (res : β) : Reads (pure res) [] res :=
  fun _ _ _ => rfl

theorem Reads.bind {β γ : Type} {first : StateM Stream β} {next : β → StateM Stream γ}
    {bytes more : List u8} {middle : β} {res : γ} (reads : Reads first bytes middle)
    (later : Reads (next middle) more res) : Reads (first >>= next) (bytes ++ more) res := by
  intro is rest at_
  rw [List.append_assoc] at at_
  change (match first is with | (val, is) => next val is) = _
  rw [reads is _ at_]
  refine (later _ rest at_.skip).trans ?_
  rw [Stream.skip_skip,List.length_append]

theorem Reads.bind_pure {β γ : Type} {program : StateM Stream β} {bytes : List u8} {middle : β}
    (f : β → γ) (reads : Reads program bytes middle) :
    Reads (program >>= fun x => Pure.pure (f x)) bytes (f middle) := by
  rw [← List.append_nil bytes]
  exact reads.bind (Reads.pure (f middle))

theorem OSREAD_reads {α : Type} [Raw α] (x y : α) : Reads (OSREAD x) (OSWRITE y) y := by
  intro is rest at_
  have dropped : (Raw.bytes x).drop (Raw.bytes y).length = [] := by
    apply List.drop_eq_nil_of_le
    rw [Raw.length_bytes,Raw.length_bytes]
  unfold OSREAD OSWRITE at *
  simp only [at_.fread (Raw.length_bytes y),dropped,List.append_nil,Raw.ofBytes_bytes]

theorem readWord_reads (x word : u32) : Reads (readWord x) (EMUFILE.le32 word) (true, word) := by
  intro is rest at_
  unfold readWord
  rw [at_.read32le]
  rfl

theorem readle_reads {α : Type} [Raw α] (x y : α) : Reads (readle x) (OSWRITE y) y := by
  intro is rest at_
  unfold readle OSWRITE at *
  simp only [at_.fread (Raw.length_bytes y),Raw.length_bytes,if_true,Raw.ofBytes_bytes]

/-- `for (int i = 0; i < count; i++) list[i].load(is)`. -/
def loadList {α : Type} (load : α → StateM Stream α) (list : Nat → α) :
    Nat → StateM Stream (Nat → α)
  | 0 => pure list
  | count + 1 => do
      let list ← loadList load list count
      let x ← load (list count)
      pure (Function.update list count x)

theorem loadList_reads {α : Type} {load : α → StateM Stream α} {save : α → List u8}
    {merge : α → α → α} (reads : ∀ saved old, Reads (load old) (save saved) (merge saved old))
    (saved list : Nat → α) (count : Nat) :
    Reads (loadList load list count) ((List.range count).flatMap fun i => save (saved i))
      (fun i => if i < count then merge (saved i) (list i) else list i) := by
  induction count with
  | zero => exact Reads.pure list
  | succ count ih =>
      have stored : (fun i => if i < count + 1 then merge (saved i) (list i) else list i) =
          Function.update (fun i => if i < count then merge (saved i) (list i) else list i)
            count (merge (saved count) (list count)) := by
        funext i
        by_cases last : i = count
        · rw [last,Function.update_self,if_pos (Nat.lt_succ_self count)]
        · rw [Function.update_of_ne last]
          by_cases before : i < count
          · rw [if_pos before,if_pos (Nat.lt_succ_of_lt before)]
          · rw [if_neg before,if_neg (by omega)]
      have old : (fun i => if i < count then merge (saved i) (list i) else list i) count =
          list count := if_neg (Nat.lt_irrefl count)
      rw [List.range_succ,List.flatMap_append,List.flatMap_singleton,stored]
      refine ih.bind ?_
      rw [old]
      exact (reads (saved count) (list count)).bind_pure _

theorem foldlM_reads {Index State : Type} {body : State → Index → StateM Stream State}
    {save : Index → List u8} {next : State → Index → State} (indices : List Index)
    (reads : ∀ st, ∀ i ∈ indices, Reads (body st i) (save i) (next st i)) (st : State) :
    Reads (indices.foldlM body st) (indices.flatMap save) (indices.foldl next st) := by
  induction indices generalizing st with
  | nil => exact Reads.pure st
  | cons i rest ih =>
      rw [List.foldlM_cons,List.flatMap_cons]
      refine (reads st i List.mem_cons_self).bind ?_
      exact ih (fun st later member => reads st later (List.mem_cons_of_mem i member)) _

end Desmume.Savestate
