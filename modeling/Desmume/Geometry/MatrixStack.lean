/-
The matrix stacks of the geometry engine: `MatrixStack` and the commands
MTX_MODE, MTX_PUSH, MTX_POP, MTX_STORE and MTX_RESTORE.

A position is moved by an addition and a mask with the size.
-/

import Desmume.Lib.Overwrite
import Desmume.Lib.Run
import Desmume.Types

namespace Desmume.Mtx

open Function (update)

abbrev s32 := BitVec 32

structure MatrixStack (M : Type) where
  matrix : Nat → M
  position : s32
  size : s32
  type : u8

section

variable {M : Type}

def MatrixStack.new (identity : M) (size : s32) (type : u8) : MatrixStack M :=
  { matrix := fun _ => identity
    position := 0
    size := size
    type := type }

def MatrixStackInit (identity : M) (stack : MatrixStack M) : MatrixStack M :=
  { stack with
    matrix := fun slot => if slot < stack.size.toNat then identity else stack.matrix slot
    position := 0 }

def MatrixStackSetStackPosition (stack : MatrixStack M) (se : Bool) (pos : s32) :
    MatrixStack M × Bool :=
  let stack := { stack with position := stack.position + pos }
  let se := if stack.position.slt 0 || stack.size.slt stack.position then true else se
  ({ stack with position := stack.position &&& stack.size }, se)

def MatrixStack.top (stack : MatrixStack M) : Nat :=
  if stack.type = 0 ∨ stack.type = 3 then 0 else stack.position.toNat

def MatrixStackLoadMatrix (stack : MatrixStack M) (pos : Nat) (ptr : M) : MatrixStack M :=
  { stack with matrix := update stack.matrix pos ptr }

def MatrixStackPushMatrix (stack : MatrixStack M) (se : Bool) (ptr : M) : MatrixStack M × Bool :=
  let stack := { stack with matrix := update stack.matrix stack.top ptr }
  MatrixStackSetStackPosition stack se 1

def MatrixStackPopMatrix (stack : MatrixStack M) (se : Bool) (size : s32) :
    M × MatrixStack M × Bool :=
  let (stack, se) := MatrixStackSetStackPosition stack se (-size)
  (stack.matrix stack.top, stack, se)

structure Geometry (M : Type) where
  mtxStack : Fin 4 → MatrixStack M
  mtxCurrent : Fin 4 → M
  mode : Fin 4
  se : Bool

def Geometry.initial (identity : M) : Geometry M :=
  { mtxStack := fun which =>
      match which with
      | 0 => MatrixStack.new identity 1 0
      | 1 => MatrixStack.new identity 31 1
      | 2 => MatrixStack.new identity 31 2
      | 3 => MatrixStack.new identity 1 3
    mtxCurrent := fun _ => identity
    mode := 0
    se := false }

def gfx3d_reset (identity : M) (geo : Geometry M) : Geometry M :=
  { geo with
    mtxStack := fun which => MatrixStackInit identity (geo.mtxStack which)
    mtxCurrent := fun _ => identity
    mode := 0 }

variable (geo : Geometry M) (which : Fin 4) (v : u32)

def gfx3d_glMatrixMode : Geometry M :=
  { geo with
    mode := ⟨(v &&& 3).toNat,Nat.lt_succ_of_le (by
      rw [BitVec.toNat_and]
      exact Nat.and_le_right)⟩ }

def Geometry.mymode : Fin 4 :=
  if geo.mode = 1 then 2 else geo.mode

def Geometry.push : Geometry M :=
  let (stack, se) := MatrixStackPushMatrix (geo.mtxStack which) geo.se
    (geo.mtxCurrent which)
  { geo with mtxStack := update geo.mtxStack which stack, se := se }

def gfx3d_glPushMatrix : Geometry M :=
  let mymode := geo.mymode
  let geo := geo.push mymode
  if mymode = 2 then geo.push 1 else geo

def Geometry.pop (i : s32) : Geometry M :=
  let (current, stack, se) := MatrixStackPopMatrix (geo.mtxStack which) geo.se i
  { geo with
    mtxStack := update geo.mtxStack which stack
    mtxCurrent := update geo.mtxCurrent which current
    se := se }

def gfx3d_glPopMatrix (i : s32) : Geometry M :=
  let i := if geo.mode = 0 then 1 else i
  let mymode := geo.mymode
  let geo := geo.pop mymode i
  if mymode = 2 then geo.pop 1 i else geo

def slotIndex (mymode : Fin 4) (v : u32) : u32 :=
  let v := if mymode = 0 ∨ mymode = 3 then 0 else v
  v &&& 31

def Geometry.store : Geometry M :=
  { geo with
    mtxStack := update geo.mtxStack which
      (MatrixStackLoadMatrix (geo.mtxStack which) v.toNat (geo.mtxCurrent which)) }

def gfx3d_glStoreMatrix : Geometry M :=
  let mymode := geo.mymode
  let v := slotIndex mymode v
  let geo := if v = 31 then { geo with se := true } else geo
  let geo := geo.store mymode v
  if mymode = 2 then geo.store 1 v else geo

def Geometry.restore : Geometry M :=
  { geo with
    mtxCurrent := update geo.mtxCurrent which
      ((geo.mtxStack which).matrix v.toNat) }

def gfx3d_glRestoreMatrix : Geometry M :=
  let mymode := geo.mymode
  let v := slotIndex mymode v
  let geo := if v = 31 then { geo with se := true } else geo
  let geo := geo.restore mymode v
  if mymode = 2 then geo.restore 1 v else geo

inductive Op (M : Type)
  | MTX_MODE (v : u32)
  | MTX_PUSH
  | MTX_POP (param : u32)
  | MTX_STORE (v : u32)
  | MTX_RESTORE (v : u32)
  | change (which : Fin 4) (current : M)

/-- The matrices a command writes to a stack: which stack and slot, and the
matrix current at the time. -/
def writes : Op M → List ((Fin 4 × Nat) × M)
  | .MTX_PUSH =>
      let mymode := geo.mymode
      ((mymode, (geo.mtxStack mymode).top), geo.mtxCurrent mymode) ::
        if mymode = 2 then [((1, (geo.mtxStack 1).top), geo.mtxCurrent 1)] else []
  | .MTX_STORE v =>
      let mymode := geo.mymode
      let v := slotIndex mymode v
      ((mymode, v.toNat), geo.mtxCurrent mymode) ::
        if mymode = 2 then [((1, v.toNat), geo.mtxCurrent 1)] else []
  | .MTX_MODE _ | .MTX_POP _ | .MTX_RESTORE _ | .change _ _ => []

def step (op : Op M) : Geometry M × List ((Fin 4 × Nat) × M) :=
  let next :=
    match op with
    | .MTX_MODE v => gfx3d_glMatrixMode geo v
    | .MTX_PUSH => gfx3d_glPushMatrix geo
    | .MTX_POP param => gfx3d_glPopMatrix geo param
    | .MTX_STORE v => gfx3d_glStoreMatrix geo v
    | .MTX_RESTORE v => gfx3d_glRestoreMatrix geo v
    | .change which current =>
        { geo with mtxCurrent := update geo.mtxCurrent which current }
  (next, writes geo op)

end

end Desmume.Mtx
