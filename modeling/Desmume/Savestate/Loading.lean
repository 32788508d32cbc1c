/-
Loading from memory: `ReadStateChunk` and `ReadStateChunks` over a memory file.

Each round of `ReadStateChunk` reads an entry of its chunk.
-/

import Desmume.Lib.While
import Desmume.Savestate.Chunk
import Desmume.Savestate.MemoryFile

namespace Desmume.Savestate

open MemoryFile (EMUFILE_MEMORY addS32)

def word : List u8 → Option u32
  | [b0,b1,b2,b3] => some (b3 ++ b2 ++ b1 ++ b0)
  | _ => none

/-- `read32le(&val, is)`: there is no word when fewer than four bytes were read. -/
def read32le (is : EMUFILE_MEMORY) : Option (Option u32 × EMUFILE_MEMORY) := do
  let (data, is) ← is.fread 4
  return (word data, is)

/-- The variables of the loop of `ReadStateChunk`. -/
structure Entries where
  is : EMUFILE_MEMORY
  vars : Vars
  guessSF : Option Nat

structure Loaded where
  ok : Bool
  is : EMUFILE_MEMORY
  vars : Vars

/-- The loop of `ReadStateChunk` before its first round. -/
def Entries.start (is : EMUFILE_MEMORY) (vars : Vars) : Entries := ⟨is,vars,none⟩

/-- A loader of a part of the machine that reads its chunk itself. All it does
to the file is to read from it; what it does with the bytes is left out, up to a
store outside of the part, after which nothing is known. -/
inductive Loader
  | returns (ok : Bool)
  | fread (bytes : Nat) (next : List u8 → Loader)
  | fail (next : Bool → Loader)
  | strays

def Loader.run : Loader → EMUFILE_MEMORY → Option (Bool × EMUFILE_MEMORY)
  | .returns ok, is => some (ok, is)
  | .fread bytes next, is =>
      match is.fread bytes with
      | some (data, is) => (next data).run is
      | none => none
  | .fail next, is => (next is.failbit).run is
  | .strays, _ => none

/-- Where `ReadStateChunks` is: before a chunk, or in one that `ReadStateChunk`
reads. -/
inductive Place
  | chunks (is : EMUFILE_MEMORY) (vars : Vars)
  | entries (sf : List SFORMAT) (temp size : Int) (loop : Entries)

def Place.is : Place → EMUFILE_MEMORY
  | .chunks is _ => is
  | .entries _ _ _ loop => loop.is

section

variable {parts : Parts} {totalsize : Int} {sf : List SFORMAT} {temp size : Int} {loop : Entries}

end

end Desmume.Savestate
