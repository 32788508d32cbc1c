/-
One round of `ReadStateChunk`, over a buffer that is read and skipped over.

A round leaves the loop, goes on behind the entry it has read, or has skipped an
entry by a seek that may go back.
-/

import Desmume.Savestate.Loading

namespace Desmume.Savestate

section

open MemoryFile (EMUFILE_MEMORY addS32 addS32_of_inside addS32_eq_some toU32 toS32
  toU32_of_nonneg toS32_of_lt fread_empty fread_nonempty fseek_inside)

/-- A file over a buffer: behind the end there is just what a seek to the
position has reserved. -/
structure Wrapped (is : EMUFILE_MEMORY) : Prop where
  len_nonneg : 0 ≤ is.len
  pos_nonneg : 0 ≤ is.pos
  size_eq : (is.vec.length : Int) = max is.len is.pos
  size_lt : is.vec.length < 2 ^ 31
  nonempty : is.len < is.pos → is.len ≠ 0

/-- A buffer at the position `start`. -/
def wrap (buffer : List u8) (start : Nat) (failbit : Bool) : EMUFILE_MEMORY :=
  { vec := buffer, pos := start, len := buffer.length, failbit := failbit }

def dataAt (is : EMUFILE_MEMORY) (off n : Nat) : List u8 :=
  (is.vec.drop (is.pos.toNat + off)).take n

def wordAt (is : EMUFILE_MEMORY) (off : Nat) : u32 := (word (dataAt is off 4)).getD 0

namespace Wrapped

variable {is : EMUFILE_MEMORY}

theorem len_lt (wrapped : Wrapped is) : is.len < 2 ^ 31 := by
  have size := wrapped.size_eq
  have small := wrapped.size_lt
  omega

theorem pos_lt (wrapped : Wrapped is) : is.pos < 2 ^ 31 := by
  have size := wrapped.size_eq
  have small := wrapped.size_lt
  omega

theorem moved (wrapped : Wrapped is) {next : EMUFILE_MEMORY} (vec : next.vec = is.vec)
    (len : next.len = is.len) (from_pos : is.pos ≤ next.pos) (inside : next.pos ≤ is.len) :
    Wrapped next := by
  have lenNonneg := wrapped.len_nonneg
  have posNonneg := wrapped.pos_nonneg
  have size := wrapped.size_eq
  have small := wrapped.size_lt
  constructor
  · omega
  · omega
  · rw [vec,len]
    omega
  · rw [vec]
    exact small
  · omega

theorem seeked (wrapped : Wrapped is) (inside : is.pos ≤ is.len) {target : Int}
    (low : 0 < target) (high : target < 2 ^ 31) (some : is.len ≠ 0) :
    Wrapped (EMUFILE_MEMORY.reserve { is with pos := target } target.toNat) := by
  have size := wrapped.size_eq
  have small := wrapped.size_lt
  have length := @EMUFILE_MEMORY.length_reserve { is with pos := target } target.toNat
  dsimp only at length
  constructor
  · rw [EMUFILE_MEMORY.len_reserve]
    exact wrapped.len_nonneg
  · rw [EMUFILE_MEMORY.pos_reserve]
    exact low.le
  · rw [EMUFILE_MEMORY.len_reserve,EMUFILE_MEMORY.pos_reserve,length]
    dsimp only
    omega
  · rw [length]
    omega
  · rw [EMUFILE_MEMORY.len_reserve]
    exact fun _ => some

end Wrapped

variable {is : EMUFILE_MEMORY}

variable {bytes : Nat}

theorem fread_short (wrapped : Wrapped is) (inside : is.pos ≤ is.len)
    (small : bytes < 2 ^ 32) (short : is.len < is.pos + bytes) :
    ∃ data next, is.fread bytes = some (data, next) ∧ data.length < bytes ∧
      next.failbit = true := by
  by_cases empty : is.len = 0
  · refine ⟨_,_,fread_empty empty bytes,?_,rfl⟩
    rw [List.length_nil]
    omega
  · have nonneg := wrapped.pos_nonneg
    have size := wrapped.size_eq
    have remain := EMUFILE_MEMORY.remain_before nonneg inside wrapped.len_lt
    obtain ⟨todo,isTodo⟩ : ∃ todo, min is.remain (bytes % 2 ^ 32) = todo := ⟨_,rfl⟩
    have less : todo < bytes := by omega
    have loaded := @EMUFILE_MEMORY.load_of_inside is todo nonneg (by omega)
    have length := EMUFILE_MEMORY.length_of_load loaded
    rw [fread_nonempty empty,isTodo,loaded,Option.map_some,if_pos less]
    exact ⟨_,_,rfl,by omega,rfl⟩

theorem word_of_short {data : List u8} (short : data.length < 4) : word data = none := by
  match data, short with
  | [], _ => rfl
  | [_], _ => rfl
  | [_,_], _ => rfl
  | [_,_,_], _ => rfl

def ahead (is : EMUFILE_MEMORY) (bytes : Nat) : EMUFILE_MEMORY := { is with pos := is.pos + bytes }

theorem read32le_short (wrapped : Wrapped is) (inside : is.pos ≤ is.len)
    (short : is.len < is.pos + (4 : Nat)) : ∃ next, read32le is = some (none, next) := by
  obtain ⟨data,next,read,less,-⟩ := fread_short wrapped inside (by decide) short
  refine ⟨next,?_⟩
  unfold read32le
  rw [read]
  change some (word data, next) = _
  rw [word_of_short less]

end

open MemoryFile (EMUFILE_MEMORY addS32 addS32_eq_some fseek_inside)

variable {is : EMUFILE_MEMORY}

section

variable {sf : List SFORMAT} {temp size : Int} {loop : Entries}

end

end Desmume.Savestate
