/-
Whether loading a savestate ends.

A seek over an entry, and the one of `mic_loadstate`, may go back: the loop then
reads what it has read before.
-/

import Desmume.Savestate.EntryRounds

namespace Desmume.Savestate

open MemoryFile (EMUFILE_MEMORY)

variable {is : EMUFILE_MEMORY}

def Place.left : Place → Nat
  | .chunks is _ => 2 * (is.len - is.pos).toNat
  | .entries _ _ _ loop => 2 * (loop.is.len - loop.is.pos).toNat + 1

section

variable {parts : Parts} {totalsize : Int} {vars : Vars}

end

/-- An entry of 12 bytes in no row that says it is 4 GiB less 12 bytes long. -/
def backward : List u8 := [0,0,0,0,0xF4,0xFF,0xFF,0xFF,1,0,0,0]

end Desmume.Savestate
