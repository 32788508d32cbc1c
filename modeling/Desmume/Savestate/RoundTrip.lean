/-
What `SubWrite` writes, `ReadStateChunk` reads back.

The rows are written in the order of the table, so every guess is right and
nothing follows the entry of the last row.
-/

import Desmume.Savestate.Chunk

namespace Desmume.Savestate

open Backup LastWrite

structure Saves (vars : Vars) (sf : SFORMAT) (entry : Entry) : Prop where
  desc : entry.desc = sf.desc
  size : entry.size = sf.size
  count : entry.count = sf.count
  data : entry.data = vars sf.v

variable {vars : Vars}

theorem Saves.fits {sf : SFORMAT} {entry : Entry} (saves : Saves vars sf entry) : entry.fits sf :=
  ⟨saves.desc.symm,saves.size.symm,saves.count.symm⟩

theorem Saves.bytes {sf : SFORMAT} {entry : Entry} (saves : Saves vars sf entry)
    (small : entry.data.length < 2 ^ 31) : entry.bytes = rowBytes vars sf := by
  have product := (entry.product small).1
  rw [saves.size,saves.count,saves.data,BitVec.mul_comm] at product
  unfold Entry.bytes rowBytes
  rw [product,List.take_length,saves.size,saves.count,saves.data,← saves.desc,
    List.take_of_length_le (Nat.le_of_eq entry.tagged)]

variable {table : List SFORMAT}

theorem savestate_WriteChunk_eq (os : EMUFILE) (inside : os.pos ≤ os.bytes.length) (type : u32)
    (vars : Vars) (table : List SFORMAT) :
    savestate_WriteChunk os type vars table =
      os.fwrite (EMUFILE.le32 type ++ EMUFILE.le32 (SubWrite vars table).2 ++
        (SubWrite vars table).1) := by
  unfold savestate_WriteChunk EMUFILE.write32le
  simp only
  rw [EMUFILE.fwrite_fwrite os _ _ inside,EMUFILE.fwrite_fwrite os _ _ inside]

variable {ents : List Entry} {covered : Vars}

end Desmume.Savestate
