/-
What every command keeps of the matrix stacks.

Sizes and types never change, positions stay inside the allocations, the
coordinate and directional stacks move together, and every slot holds the last
matrix written to it.
-/

import Desmume.Geometry.MatrixStack

namespace Desmume.Mtx

open Function (update update_of_ne update_self)

open LastWrite

variable {M : Type}

def sizeOf (which : Fin 4) : Nat :=
  if which = 0 ∨ which = 3 then 1 else 31

theorem sizeOf_cases (which : Fin 4) : sizeOf which = 1 ∨ sizeOf which = 31 := by
  unfold sizeOf
  split
  · exact Or.inl rfl
  · exact Or.inr rfl

structure Shaped (geo : Geometry M) : Prop where
  size : ∀ which, (geo.mtxStack which).size = BitVec.ofNat 32 (sizeOf which)
  type : ∀ which, (geo.mtxStack which).type = BitVec.ofNat 8 which.val
  inside : ∀ which, (geo.mtxStack which).position.toNat ≤ sizeOf which
  together : (geo.mtxStack 1).position = (geo.mtxStack 2).position

/-- The change of one stack's position. -/
structure Moves (before after : Geometry M) (which : Fin 4) (pos : s32) : Prop where
  size : ∀ other, (after.mtxStack other).size = (before.mtxStack other).size
  type : ∀ other, (after.mtxStack other).type = (before.mtxStack other).type
  here : (after.mtxStack which).position =
    ((before.mtxStack which).position + pos) &&& (before.mtxStack which).size
  others : ∀ other, other ≠ which →
    (after.mtxStack other).position = (before.mtxStack other).position

variable {geo before after : Geometry M} {which : Fin 4} {pos : s32} {stack : MatrixStack M}

theorem moves_update (updated : after.mtxStack = update before.mtxStack which stack)
    (size : stack.size = (before.mtxStack which).size)
    (type : stack.type = (before.mtxStack which).type) (position : stack.position =
      ((before.mtxStack which).position + pos) &&& (before.mtxStack which).size) :
    Moves before after which pos := by
  constructor
  · intro other
    rw [updated]
    by_cases same : other = which
    · rw [same,update_self,size]
    · rw [update_of_ne same]
  · intro other
    rw [updated]
    by_cases same : other = which
    · rw [same,update_self,type]
    · rw [update_of_ne same]
  · rw [updated,update_self,position]
  · intro other ne
    rw [updated,update_of_ne ne]

theorem moves_push (geo : Geometry M) (which : Fin 4) : Moves geo (geo.push which) which 1 :=
  moves_update rfl rfl rfl rfl

theorem moves_pop (geo : Geometry M) (which : Fin 4) (i : s32) :
    Moves geo (geo.pop which i) which (-i) :=
  moves_update rfl rfl rfl rfl

theorem Shaped.masked (shaped : Shaped geo) (which : Fin 4) (pos : s32) :
    (pos &&& (geo.mtxStack which).size).toNat = pos.toNat % (sizeOf which + 1) := by
  rw [shaped.size,BitVec.toNat_and]
  rcases sizeOf_cases which with one | many
  · rw [one]
    exact Nat.and_two_pow_sub_one_eq_mod pos.toNat 1
  · rw [many]
    exact Nat.and_two_pow_sub_one_eq_mod pos.toNat 5

theorem Shaped.masked_le (shaped : Shaped geo) (which : Fin 4)
    (pos : s32) : (pos &&& (geo.mtxStack which).size).toNat ≤ sizeOf which := by
  rw [shaped.masked]
  exact Nat.lt_succ_iff.mp (Nat.mod_lt _ (Nat.succ_pos _))

theorem Shaped.moved_alone
    (shaped : Shaped before) (moves : Moves before after which pos) (alone : which ≠ 1)
    (notDirectional : which ≠ 2) : Shaped after := by
  constructor
  · intro other
    rw [moves.size]
    exact shaped.size other
  · intro other
    rw [moves.type]
    exact shaped.type other
  · intro other
    by_cases same : other = which
    · rw [same,moves.here]
      exact shaped.masked_le which _
    · rw [moves.others other same]
      exact shaped.inside other
  · rw [moves.others 1 alone.symm,moves.others 2 notDirectional.symm]
    exact shaped.together

theorem Shaped.moved_both {between : Geometry M}
    (shaped : Shaped before) (first : Moves before between 2 pos)
    (second : Moves between after 1 pos) : Shaped after := by
  have coordinate : (after.mtxStack 1).position =
      ((before.mtxStack 1).position + pos) &&& (before.mtxStack 1).size := by
    rw [second.here,first.others 1 (by decide),first.size]
  have directional : (after.mtxStack 2).position =
      ((before.mtxStack 2).position + pos) &&& (before.mtxStack 2).size := by
    rw [second.others 2 (by decide),first.here]
  constructor
  · intro other
    rw [second.size,first.size]
    exact shaped.size other
  · intro other
    rw [second.type,first.type]
    exact shaped.type other
  · intro other
    by_cases isCoordinate : other = 1
    · rw [isCoordinate,coordinate]
      exact shaped.masked_le 1 _
    · by_cases isDirectional : other = 2
      · rw [isDirectional,directional]
        exact shaped.masked_le 2 _
      · rw [second.others other isCoordinate,first.others other isDirectional]
        exact shaped.inside other
  · rw [coordinate,directional,shaped.together,shaped.size,shaped.size]
    rfl

theorem mymode_ne_one (geo : Geometry M) : geo.mymode ≠ 1 := by
  unfold Geometry.mymode
  split
  · decide
  · assumption

theorem Shaped.push (shaped : Shaped geo) : Shaped (gfx3d_glPushMatrix geo) := by
  unfold gfx3d_glPushMatrix
  by_cases both : geo.mymode = 2
  · simp only [both,if_true]
    exact shaped.moved_both (moves_push geo 2) (moves_push _ 1)
  · simp only [if_neg both]
    exact shaped.moved_alone (moves_push geo _) (mymode_ne_one geo) both

theorem Shaped.pop (shaped : Shaped geo) (param : u32) : Shaped (gfx3d_glPopMatrix geo param) := by
  unfold gfx3d_glPopMatrix
  by_cases both : geo.mymode = 2
  · simp only [both,if_true]
    exact shaped.moved_both (moves_pop geo 2 _) (moves_pop _ 1 _)
  · simp only [if_neg both]
    exact shaped.moved_alone (moves_pop geo _ _) (mymode_ne_one geo) both

theorem Shaped.store {geo : Geometry M} (shaped : Shaped geo) (which : Fin 4)
    (v : u32) : Shaped (geo.store which v) := by
  have same (other : Fin 4) :
      ((geo.store which v).mtxStack other).size = (geo.mtxStack other).size ∧
      ((geo.store which v).mtxStack other).type = (geo.mtxStack other).type ∧
      ((geo.store which v).mtxStack other).position =
        (geo.mtxStack other).position := by
    unfold Geometry.store
    by_cases here : other = which
    · rw [here]
      simp only [update_self]
      exact ⟨rfl,rfl,rfl⟩
    · simp only [update_of_ne here,and_self]
  constructor
  · intro other
    rw [(same other).1]
    exact shaped.size other
  · intro other
    rw [(same other).2.1]
    exact shaped.type other
  · intro other
    rw [(same other).2.2]
    exact shaped.inside other
  · rw [(same 1).2.2,(same 2).2.2]
    exact shaped.together

theorem Shaped.of_stacks (shaped : Shaped before)
    (same : after.mtxStack = before.mtxStack) : Shaped after := by
  constructor
  · rw [same]
    exact shaped.size
  · rw [same]
    exact shaped.type
  · rw [same]
    exact shaped.inside
  · rw [same]
    exact shaped.together

theorem Shaped.flagged (shaped : Shaped geo) (v : u32) :
    Shaped (if v = 31 then { geo with se := true } else geo) := by
  split
  · exact shaped.of_stacks rfl
  · exact shaped

theorem shaped_step (geo : Geometry M) (op : Op M) (shaped : Shaped geo) :
    Shaped (step geo op).1 := by
  cases op with
  | MTX_MODE v => exact shaped.of_stacks rfl
  | MTX_PUSH => exact shaped.push
  | MTX_POP param => exact shaped.pop param
  | MTX_STORE v =>
      have flagged := shaped.flagged (slotIndex geo.mymode v)
      change Shaped (gfx3d_glStoreMatrix geo v)
      unfold gfx3d_glStoreMatrix
      simp only
      split
      · exact (flagged.store _ _).store 1 _
      · exact flagged.store _ _
  | MTX_RESTORE v =>
      have flagged := shaped.flagged (slotIndex geo.mymode v)
      change Shaped (gfx3d_glRestoreMatrix geo v)
      unfold gfx3d_glRestoreMatrix
      simp only
      split
      · exact flagged.of_stacks rfl
      · exact flagged.of_stacks rfl
  | change which current => exact shaped.of_stacks rfl

theorem shaped_reset (identity : M) :
    Shaped (gfx3d_reset identity (Geometry.initial identity)) := by
  constructor
  · intro which
    fin_cases which <;> rfl
  · intro which
    fin_cases which <;> rfl
  · intro which
    exact Nat.zero_le _
  · rfl

def memory (geo : Geometry M) (place : Fin 4 × Nat) : M :=
  (geo.mtxStack place.1).matrix place.2

theorem memory_update {slot : Nat} {val : M}
    (updated : after.mtxStack = update before.mtxStack which stack)
    (written : stack.matrix = update (before.mtxStack which).matrix slot val) :
    memory after = update (memory before) (which, slot) val := by
  funext place
  obtain ⟨other,i⟩ := place
  unfold memory
  rw [updated]
  by_cases same : other = which
  · subst same
    rw [update_self,written]
    by_cases here : i = slot
    · rw [here,update_self,update_self]
    · have apart : (other, i) ≠ (other, slot) := by
        simp [here]
      rw [update_of_ne here,update_of_ne apart]
  · have apart : (other, i) ≠ (which, slot) := by
      simp [same]
    rw [update_of_ne same,update_of_ne apart]

theorem memory_push (geo : Geometry M) (which : Fin 4) :
    memory (geo.push which) = update (memory geo)
      (which, (geo.mtxStack which).top) (geo.mtxCurrent which) :=
  memory_update rfl rfl

theorem memory_store (geo : Geometry M) (which : Fin 4) (v : u32) :
    memory (geo.store which v) =
      update (memory geo) (which, v.toNat) (geo.mtxCurrent which) :=
  memory_update rfl rfl

theorem memory_pop (geo : Geometry M) (which : Fin 4) (i : s32) :
    memory (geo.pop which i) = memory geo := by
  funext place
  obtain ⟨other,idx⟩ := place
  unfold memory Geometry.pop
  by_cases same : other = which
  · rw [same]
    simp only [update_self]
    rfl
  · simp only [update_of_ne same]

theorem memory_flagged (geo : Geometry M) (v : u32) :
    memory (if v = 31 then { geo with se := true } else geo) = memory geo := by
  split <;> rfl

theorem memory_step (geo : Geometry M) (op : Op M) :
    memory (step geo op).1 = lastWritten (memory geo) (step geo op).2 := by
  cases op with
  | MTX_MODE v => rfl
  | MTX_PUSH =>
      change memory (gfx3d_glPushMatrix geo) = lastWritten _ (writes geo .MTX_PUSH)
      unfold gfx3d_glPushMatrix writes
      by_cases both : geo.mymode = 2
      · simp only [both,if_true]
        rw [memory_push,memory_push,← lastWritten_singleton,← lastWritten_singleton,
          ← lastWritten_append]
        rfl
      · simp only [if_neg both]
        rw [memory_push,lastWritten_singleton]
  | MTX_POP param =>
      change memory (gfx3d_glPopMatrix geo param) = memory geo
      unfold gfx3d_glPopMatrix
      simp only
      split
      · rw [memory_pop,memory_pop]
      · rw [memory_pop]
  | MTX_STORE v =>
      change memory (gfx3d_glStoreMatrix geo v) = lastWritten _ (writes geo (.MTX_STORE v))
      unfold gfx3d_glStoreMatrix writes
      have flagged := memory_flagged geo (slotIndex geo.mymode v)
      have current (which : Fin 4) :
          (if slotIndex geo.mymode v = 31 then { geo with se := true }
            else geo).mtxCurrent which = geo.mtxCurrent which := by
        split <;> rfl
      by_cases both : geo.mymode = 2
      · rw [both] at flagged current
        have second : (Geometry.store (if slotIndex 2 v = 31 then { geo with se := true }
            else geo) 2 (slotIndex 2 v)).mtxCurrent 1 = geo.mtxCurrent 1 := current 1
        simp only [both,if_true]
        rw [memory_store,memory_store,flagged,current,second,← lastWritten_singleton,
          ← lastWritten_singleton,← lastWritten_append]
        rfl
      · simp only [if_neg both]
        rw [memory_store,flagged,current,lastWritten_singleton]
  | MTX_RESTORE v =>
      change memory (gfx3d_glRestoreMatrix geo v) = memory geo
      unfold gfx3d_glRestoreMatrix
      have flagged := memory_flagged geo (slotIndex geo.mymode v)
      simp only
      split
      · exact flagged
      · exact flagged
  | change which current => rfl

theorem memory_run (geo : Geometry M) (ops : List (Op M)) :
    memory (Run.logged step geo ops).1 =
      lastWritten (memory geo) (Run.logged step geo ops).2 := by
  have kept (st : Geometry M) (log : List ((Fin 4 × Nat) × M)) (op : Op M)
      (holds : memory st = lastWritten (memory geo) log) :
      memory (step st op).1 = lastWritten (memory geo) (log ++ (step st op).2) := by
    rw [lastWritten_append,← holds]
    exact memory_step st op
  exact Run.logged_invariant kept rfl ops

theorem shaped_run (shaped : Shaped geo) (ops : List (Op M)) :
    Shaped (Run.logged step geo ops).1 := by
  let holds : Geometry M → List ((Fin 4 × Nat) × M) → Prop := fun st _ => Shaped st
  have kept (st : Geometry M) (log : List ((Fin 4 × Nat) × M)) (op : Op M)
      (before : holds st log) : holds (step st op).1 (log ++ (step st op).2) :=
    shaped_step st op before
  exact Run.logged_invariant kept shaped ops

end Desmume.Mtx
