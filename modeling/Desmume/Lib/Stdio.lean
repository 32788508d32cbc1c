/-
Streams of the C library, as far as a caller can tell.

A stream is its bytes, a position and the last access since the stream was
opened or positioned.
-/

import Desmume.Lib.Overwrite

namespace Stdio

open Overwrite

inductive Access
  | read (atEnd : Bool)
  | write
  deriving DecidableEq

inductive Origin
  | SEEK_SET
  | SEEK_CUR
  | SEEK_END
  deriving DecidableEq

structure FILE where
  canRead : Bool
  canWrite : Bool
  append : Bool
  bytes : List (BitVec 8)
  pos : Nat
  last : Option Access

namespace FILE

def Readable (file : FILE) : Prop := file.last ≠ some .write

def Writable (file : FILE) : Prop := file.last ≠ some (.read false)

instance (file : FILE) : Decidable file.Readable := inferInstanceAs (Decidable (_ ≠ _))

instance (file : FILE) : Decidable file.Writable := inferInstanceAs (Decidable (_ ≠ _))

def base (file : FILE) : Origin → Int
  | .SEEK_SET => 0
  | .SEEK_CUR => file.pos
  | .SEEK_END => file.bytes.length

/-- The result is 0, or -1 for a position before the start. -/
def fseek (file : FILE) (off : Int) (origin : Origin) : Int × FILE :=
  if file.base origin + off < 0 then (-1, { file with last := none })
  else (0, { file with pos := (file.base origin + off).toNat, last := none })

def fread (file : FILE) (n : Nat) : Option (List (BitVec 8) × FILE) :=
  if file.canRead = false ∨ n = 0 then some ([], file)
  else if file.Readable then
    let data := (file.bytes.drop file.pos).take n
    some (data,
      { file with
        pos := file.pos + data.length
        last := some (.read (decide (data.length < n))) })
  else none

def writesAt (file : FILE) : Nat := if file.append then file.bytes.length else file.pos

def fwrite (file : FILE) (data : List (BitVec 8)) : Option (Nat × FILE) :=
  if file.canWrite = false ∨ data = [] then some (0, file)
  else if file.Writable then
    some (data.length,
      { file with
        bytes := overwrite 0 file.bytes file.writesAt data
        pos := file.writesAt + data.length
        last := some .write })
  else none

def after (file : FILE) (last : Option Access) : FILE := { file with last := last }

variable (file : FILE)

theorem fseek_here : file.fseek file.pos .SEEK_SET = (0, file.after none) := by
  have target : file.base .SEEK_SET + file.pos = file.pos := Int.zero_add _
  unfold fseek
  rw [target,if_neg (by omega),Int.toNat_natCast]
  rfl

theorem fseek_after (last : Option Access) (off : Int) (origin : Origin) :
    (file.after last).fseek off origin = file.fseek off origin := by
  cases origin <;> rfl

theorem fseek_last (off : Int) (origin : Origin) : (file.fseek off origin).2.last = none := by
  unfold fseek
  split <;> rfl

variable {data : List (BitVec 8)} {last : Option Access} {n : Nat}

theorem fread_after {file read : FILE}
    (readable : file.canRead = true → file.Readable → (file.after last).Readable)
    (taken : file.fread n = some (data, read)) :
    ((file.after last).fread n = some (data, read) ∧
        ∃ atEnd, read.last = some (.read atEnd) ∧ (atEnd = false → data ≠ [])) ∨
      ((file.after last).fread n = some (data, file.after last) ∧ read = file ∧ data = []) := by
  unfold fread at taken ⊢
  by_cases nothing : file.canRead = false ∨ n = 0
  · rw [if_pos nothing] at taken
    cases taken
    exact .inr ⟨if_pos nothing,rfl,rfl⟩
  · rw [if_neg nothing] at taken
    split at taken
    · next plain =>
      have canRead : file.canRead = true := Bool.eq_true_of_not_eq_false fun no => nothing (.inl no)
      cases taken
      refine .inl ⟨(if_neg nothing).trans (if_pos (readable canRead plain)),_,rfl,?_⟩
      intro full empty
      have short := of_decide_eq_false full
      rw [empty] at short
      exact short (Nat.pos_of_ne_zero fun zero => nothing (.inr zero))
    · cases taken

theorem fwrite_after {file written : FILE}
    (writable : file.canWrite = true → file.Writable → (file.after last).Writable)
    (taken : file.fwrite data = some (n, written)) :
    ((file.after last).fwrite data = some (n, written) ∧ written.last = some .write ∧
        n = data.length ∧ data ≠ [] ∧ written.pos = file.writesAt + n) ∨
      ((file.after last).fwrite data = some (n, file.after last) ∧ written = file ∧
        n = 0) := by
  unfold fwrite at taken ⊢
  by_cases nothing : file.canWrite = false ∨ data = []
  · rw [if_pos nothing] at taken
    cases taken
    exact .inr ⟨if_pos nothing,rfl,rfl⟩
  · rw [if_neg nothing] at taken
    split at taken
    · next plain =>
      have canWrite : file.canWrite = true :=
        Bool.eq_true_of_not_eq_false fun no => nothing (.inl no)
      cases taken
      exact .inl ⟨(if_neg nothing).trans (if_pos (writable canWrite plain)),rfl,rfl,
        fun empty => nothing (.inr empty), rfl⟩
    · cases taken

theorem writesAt_of_end (atEnd : file.append = true → file.pos = file.bytes.length) :
    file.writesAt = file.pos := by
  unfold writesAt
  split
  · next append => exact (atEnd append).symm
  · rfl

theorem fread_pos {file read : FILE}
    (taken : file.fread n = some (data, read)) : read.pos = file.pos + data.length := by
  unfold fread at taken
  split at taken
  · cases taken
    rfl
  split at taken
  · cases taken
    rfl
  · cases taken

end FILE

end Stdio
