/-
Pops of the matrix stacks over whole runs.

A pop makes current the matrix last written to the slot it lands on, so what the
matching push stored.
-/

import Desmume.Geometry.StackInvariant

namespace Desmume.Mtx

open LastWrite

variable {M : Type}

def Uses (geometry : Geometry M) (which : Fin 4) : Prop :=
  which = geometry.mymode ∨ (geometry.mymode = 2 ∧ which = 1)

def slotAt (which : Fin 4) (pos : Nat) : Nat :=
  if which = 0 ∨ which = 3 then 0 else pos

variable {geometry : Geometry M}

theorem Shaped.top (shaped : Shaped geometry) (which : Fin 4) :
    (geometry.mtxStack which).top =
      slotAt which (geometry.mtxStack which).position.toNat := by
  unfold MatrixStack.top slotAt
  rw [shaped.type]
  fin_cases which <;> rfl

/-- How far a pop moves down: the parameter has a signed offset in its low six
bits, but in projection mode every pop moves by one. -/
def popOffset (geometry : Geometry M) (param : u32) : Int :=
  if geometry.mode = 0 then 1 else (param.setWidth 6).toInt

def popParam (geometry : Geometry M) (param : u32) : s32 :=
  if geometry.mode = 0 then 1 else param

theorem popOffset_eq (geometry : Geometry M) (param : u32) :
    popOffset geometry param = ((popParam geometry param).setWidth 6).toInt := by
  unfold popOffset popParam
  split
  · rfl
  · rfl

theorem glPop_both (both : geometry.mymode = 2) (param : u32) :
    gfx3d_glPopMatrix geometry param =
      (geometry.pop 2 (popParam geometry param)).pop 1 (popParam geometry param) := by
  unfold gfx3d_glPopMatrix popParam
  simp only [both,if_true]

theorem glPop_alone (alone : geometry.mymode ≠ 2) (param : u32) :
    gfx3d_glPopMatrix geometry param =
      geometry.pop geometry.mymode (popParam geometry param) := by
  unfold gfx3d_glPopMatrix popParam
  simp only [if_neg alone]

theorem setWidth_toInt (param : u32) :
    (param.setWidth 6).toInt =
      if param.toNat % 64 < 32 then (param.toNat % 64 : Int)
      else (param.toNat % 64 : Int) - 64 := by
  rw [BitVec.toInt_eq_toNat_cond,BitVec.toNat_setWidth]
  omega

theorem popped_position (pos param : s32) {size : Nat} (known : size = 1 ∨ size = 31) :
    (((pos + -param).toNat % (size + 1) : Nat) : Int) =
      ((pos.toNat : Int) - (param.setWidth 6).toInt) % (size + 1) := by
  rw [setWidth_toInt,BitVec.toNat_add,BitVec.toNat_neg]
  rcases known with rfl | rfl
  · omega
  · omega

theorem Shaped.popped (shaped : Shaped geometry) (which : Fin 4) (i : s32) :
    (((geometry.pop which i).mtxStack which).position.toNat : Int) =
      (((geometry.mtxStack which).position.toNat : Int) - (i.setWidth 6).toInt) %
        (sizeOf which + 1) := by
  rw [(moves_pop geometry which i).here,shaped.masked]
  exact popped_position _ _ (sizeOf_cases which)

theorem Shaped.glPop_position (shaped : Shaped geometry) (param : u32)
    {which : Fin 4} (uses : Uses geometry which) :
    (((gfx3d_glPopMatrix geometry param).mtxStack which).position.toNat : Int) =
      (((geometry.mtxStack which).position.toNat : Int) - popOffset geometry param) %
        (sizeOf which + 1) := by
  rw [popOffset_eq]
  by_cases both : geometry.mymode = 2
  · have directional := shaped.popped 2 (popParam geometry param)
    have kept := (moves_pop (geometry.pop 2 (popParam geometry param)) 1
      (popParam geometry param)).others 2 (by omega)
    rw [← kept,← glPop_both both] at directional
    rcases uses with same | ⟨-,same⟩
    · rw [same,both]
      exact directional
    · rw [same,(shaped.pop param).together,shaped.together]
      exact directional
  · rcases uses with same | ⟨absurd,-⟩
    · rw [same,glPop_alone both]
      exact shaped.popped _ _
    · exact (both absurd).elim

theorem pop_current (geometry : Geometry M) (which : Fin 4) (i : s32) :
    (geometry.pop which i).mtxCurrent which =
      memory (geometry.pop which i) (which, ((geometry.pop which i).mtxStack which).top) := by
  unfold Geometry.pop memory
  simp only [Function.update_self]
  rfl

theorem Shaped.glPop_current (shaped : Shaped geometry) (param : u32)
    {which : Fin 4} (uses : Uses geometry which) :
    (gfx3d_glPopMatrix geometry param).mtxCurrent which =
      memory geometry
        (which, slotAt which
          ((gfx3d_glPopMatrix geometry param).mtxStack which).position.toNat) := by
  have same : memory (gfx3d_glPopMatrix geometry param) = memory geometry :=
    memory_step geometry (.MTX_POP param)
  rw [← same,← (shaped.pop param).top]
  by_cases both : geometry.mymode = 2
  · rw [glPop_both both]
    rcases uses with isDirectional | ⟨-,isCoordinate⟩
    · rw [isDirectional,both]
      have directional := pop_current geometry 2 (popParam geometry param)
      have place : (((geometry.pop 2 (popParam geometry param)).pop 1
          (popParam geometry param)).mtxStack 2) =
          (geometry.pop 2 (popParam geometry param)).mtxStack 2 := rfl
      rw [memory_pop,place]
      exact directional
    · rw [isCoordinate]
      exact pop_current _ 1 _
  · rcases uses with isMode | ⟨absurd,-⟩
    · rw [isMode,glPop_alone both]
      exact pop_current _ _ _
    · exact (both absurd).elim

def Extended (param : u32) : Prop := param.toInt = (param.setWidth 6).toInt

theorem setWidth_bounds (param : u32) :
    -32 ≤ (param.setWidth 6).toInt ∧ (param.setWidth 6).toInt < 32 := by
  rw [setWidth_toInt]
  omega

theorem extended_iff (param : u32) : Extended param ↔ -32 ≤ param.toInt ∧ param.toInt < 32 := by
  unfold Extended
  rw [setWidth_toInt,BitVec.toInt_eq_toNat_cond]
  omega

/-- A move takes the position of a stack below 0 or above its size. -/
def Leaves (geometry : Geometry M) (which : Fin 4) (move : Int) : Prop :=
  ((geometry.mtxStack which).position.toNat : Int) + move < 0 ∨
    (sizeOf which : Int) < ((geometry.mtxStack which).position.toNat : Int) + move

instance (geometry : Geometry M) (which : Fin 4) (move : Int) :
    Decidable (Leaves geometry which move) :=
  inferInstanceAs (Decidable (_ ∨ _))

theorem raise_eq (raised se : Bool) : (if raised then true else se) = (se || raised) := by
  cases raised with
  | true => exact (Bool.or_true se).symm
  | false => exact (Bool.or_false se).symm

theorem Shaped.flag (shaped : Shaped geometry) (which : Fin 4)
    (se : Bool) (pos : s32) {stack : MatrixStack M}
    (position : stack.position = (geometry.mtxStack which).position)
    (size : stack.size = (geometry.mtxStack which).size) :
    (MatrixStackSetStackPosition stack se pos).2 =
      (se || decide (((geometry.mtxStack which).position + pos).toInt < 0 ∨
        (sizeOf which : Int) < ((geometry.mtxStack which).position + pos).toInt)) := by
  have top : ((geometry.mtxStack which).size).toInt = sizeOf which := by
    rw [shaped.size]
    rcases sizeOf_cases which with one | many
    · rw [one]
      rfl
    · rw [many]
      rfl
  unfold MatrixStackSetStackPosition
  simp only [position,size,BitVec.slt_eq_decide,top,← Bool.decide_or]
  exact raise_eq _ se

theorem Shaped.position_toInt (shaped : Shaped geometry)
    (which : Fin 4) : ((geometry.mtxStack which).position).toInt =
      (geometry.mtxStack which).position.toNat := by
  have inside := shaped.inside which
  have bound := sizeOf_cases which
  rw [BitVec.toInt_eq_toNat_cond]
  omega

theorem Shaped.flag_short (shaped : Shaped geometry) (which : Fin 4)
    (se : Bool) {pos : s32} {move : Int} (same : pos.toInt = move) (small : -64 ≤ move)
    (large : move ≤ 64) {stack : MatrixStack M}
    (position : stack.position = (geometry.mtxStack which).position)
    (size : stack.size = (geometry.mtxStack which).size) :
    (MatrixStackSetStackPosition stack se pos).2 = (se || decide (Leaves geometry which move)) := by
  have inside := shaped.inside which
  have bound := sizeOf_cases which
  have moved : ((geometry.mtxStack which).position + pos).toInt =
      (geometry.mtxStack which).position.toNat + move := by
    rw [BitVec.toInt_add,shaped.position_toInt,same,Int.bmod_eq_of_le]
    · omega
    · omega
  rw [shaped.flag which se pos position size,moved]
  rfl

theorem Shaped.flag_unextended (shaped : Shaped geometry)
    (which : Fin 4) (se : Bool) {param : s32} (unextended : ¬Extended param)
    {stack : MatrixStack M} (pos : stack.position = (geometry.mtxStack which).position)
    (size : stack.size = (geometry.mtxStack which).size) :
    (MatrixStackSetStackPosition stack se (-param)).2 = true := by
  have inside := shaped.inside which
  have bound := sizeOf_cases which
  have outside : ((geometry.mtxStack which).position + -param).toInt < 0 ∨
      (sizeOf which : Int) < ((geometry.mtxStack which).position + -param).toInt := by
    rw [extended_iff,BitVec.toInt_eq_toNat_cond] at unextended
    rw [BitVec.toInt_eq_toNat_cond,BitVec.toNat_add,BitVec.toNat_neg]
    omega
  rw [shaped.flag which se (-param) pos size,decide_eq_true outside,Bool.or_true]

theorem Shaped.push_se (shaped : Shaped geometry) (which : Fin 4) :
    (geometry.push which).se = (geometry.se || decide (Leaves geometry which 1)) := by
  have one : (1 : s32).toInt = 1 := rfl
  exact shaped.flag_short which geometry.se one (by omega) (by omega) rfl rfl

theorem Shaped.leaves_together (shaped : Shaped geometry) (move : Int) :
    Leaves geometry 1 move ↔ Leaves geometry 2 move := by
  unfold Leaves
  rw [shaped.together]
  rfl

theorem Shaped.glPush_se (shaped : Shaped geometry) :
    (gfx3d_glPushMatrix geometry).se =
      (geometry.se || decide (Leaves geometry geometry.mymode 1)) := by
  unfold gfx3d_glPushMatrix
  by_cases both : geometry.mymode = 2
  · simp only [both,if_true]
    have one : (1 : s32).toInt = 1 := rfl
    have coordinate : ((geometry.push 2).push 1).se =
        ((geometry.push 2).se || decide (Leaves geometry 1 1)) :=
      shaped.flag_short 1 (geometry.push 2).se one (by omega) (by omega) rfl rfl
    rw [coordinate,shaped.push_se,decide_eq_decide.mpr (shaped.leaves_together 1),
      Bool.or_assoc,Bool.or_self]
  · simp only [if_neg both]
    exact shaped.push_se _

theorem popParam_extended {param : u32}
    (known : geometry.mode = 0 ∨ Extended param) : Extended (popParam geometry param) := by
  unfold popParam
  split
  · rfl
  · rename_i other
    exact known.resolve_left other

theorem popParam_toInt {param : u32} (extended : Extended (popParam geometry param)) :
    (-(popParam geometry param)).toInt = -popOffset geometry param := by
  have bounds := setWidth_bounds (popParam geometry param)
  rw [BitVec.toInt_neg,popOffset_eq,extended,Int.bmod_eq_of_le]
  · omega
  · omega

theorem Shaped.glPop_se (shaped : Shaped geometry) {param : u32}
    (known : geometry.mode = 0 ∨ Extended param) :
    (gfx3d_glPopMatrix geometry param).se =
      (geometry.se ||
        decide (Leaves geometry geometry.mymode (-popOffset geometry param))) := by
  have bounds := setWidth_bounds (popParam geometry param)
  have moved := popParam_toInt (popParam_extended known)
  rw [← popOffset_eq] at bounds
  by_cases both : geometry.mymode = 2
  · rw [glPop_both both,both]
    have directional : (geometry.pop 2 (popParam geometry param)).se =
        (geometry.se || decide (Leaves geometry 2 (-popOffset geometry param))) :=
      shaped.flag_short 2 geometry.se moved (by omega) (by omega) rfl rfl
    have coordinate : ((geometry.pop 2 (popParam geometry param)).pop 1
          (popParam geometry param)).se =
        ((geometry.pop 2 (popParam geometry param)).se ||
          decide (Leaves geometry 1 (-popOffset geometry param))) :=
      shaped.flag_short 1 _ moved (by omega) (by omega) rfl rfl
    rw [coordinate,directional,
      decide_eq_decide.mpr (shaped.leaves_together (-popOffset geometry param)),
      Bool.or_assoc,Bool.or_self]
  · rw [glPop_alone both]
    exact shaped.flag_short _ geometry.se moved (by omega) (by omega) rfl rfl

theorem Shaped.glPop_flags (shaped : Shaped geometry) {param : u32}
    (leaves : Leaves geometry geometry.mymode (-popOffset geometry param)) :
    (gfx3d_glPopMatrix geometry param).se = true := by
  by_cases known : geometry.mode = 0 ∨ Extended param
  · rw [shaped.glPop_se known,decide_eq_true leaves,Bool.or_true]
  · obtain ⟨other,unextended⟩ := not_or.mp known
    have same : popParam geometry param = param := if_neg other
    by_cases both : geometry.mymode = 2
    · rw [glPop_both both,same]
      exact shaped.flag_unextended 1 _ unextended rfl rfl
    · rw [glPop_alone both,same]
      exact shaped.flag_unextended _ _ unextended rfl rfl

/-! ### Matching pushes -/

/-- The commands stay above a position of a stack, push only while the stack
has room, and store elsewhere. -/
def Nested (which : Fin 4) (floor : Nat) : Geometry M → List (Op M) → Prop
  | _, [] => True
  | geometry, op :: rest =>
      floor < (geometry.mtxStack which).position.toNat ∧
      (match op with
        | .MTX_PUSH => Uses geometry which → ¬Leaves geometry which 1
        | .MTX_STORE v => Uses geometry which → (slotIndex geometry.mymode v).toNat ≠ floor
        | .MTX_MODE _ | .MTX_POP _ | .MTX_RESTORE _ | .change _ _ => True) ∧
      Nested which floor (step geometry op).1 rest

theorem mem_slots {slot : Fin 4 → Nat} {write : (Fin 4 × Nat) × M}
    (member : write ∈ ((geometry.mymode, slot geometry.mymode),
      geometry.mtxCurrent geometry.mymode) ::
        if geometry.mymode = 2 then [((1, slot 1), geometry.mtxCurrent 1)] else []) :
    Uses geometry write.1.1 ∧ write.1.2 = slot write.1.1 := by
  rcases List.mem_cons.mp member with first | second
  · rw [first]
    exact ⟨Or.inl rfl,rfl⟩
  · by_cases both : geometry.mymode = 2
    · rw [if_pos both,List.mem_singleton] at second
      rw [second]
      exact ⟨Or.inr ⟨both,rfl⟩,rfl⟩
    · rw [if_neg both] at second
      exact (List.not_mem_nil second).elim

theorem mem_writes_push {write : (Fin 4 × Nat) × M} (member : write ∈ writes geometry .MTX_PUSH) :
    Uses geometry write.1.1 ∧ write.1.2 = (geometry.mtxStack write.1.1).top :=
  @mem_slots _ geometry (fun which => (geometry.mtxStack which).top) write member

theorem mem_writes_store {v : u32} {write : (Fin 4 × Nat) × M}
    (member : write ∈ writes geometry (.MTX_STORE v)) :
    Uses geometry write.1.1 ∧ write.1.2 = (slotIndex geometry.mymode v).toNat :=
  @mem_slots _ geometry (fun _ => (slotIndex geometry.mymode v).toNat) write member

theorem slotAt_of_lt {which : Fin 4} {floor : Nat} (inside : floor < sizeOf which) :
    slotAt which floor = floor := by
  unfold sizeOf at inside
  unfold slotAt
  by_cases single : which = 0 ∨ which = 3
  · rw [if_pos single] at inside
    rw [if_pos single]
    omega
  · exact if_neg single

theorem writes_apart (shaped : Shaped geometry) {which : Fin 4}
    {floor : Nat} {op : Op M} {rest : List (Op M)}
    (nested : Nested which floor geometry (op :: rest))
    {write : (Fin 4 × Nat) × M} (member : write ∈ writes geometry op) :
    write.1 ≠ (which, floor) := by
  obtain ⟨above,keeps,-⟩ := nested
  intro same
  cases op with
  | MTX_PUSH =>
      obtain ⟨uses,slot⟩ := mem_writes_push member
      rw [same] at uses slot
      have room : ¬Leaves geometry which 1 := keeps uses
      unfold Leaves at room
      have here : floor = slotAt which (geometry.mtxStack which).position.toNat :=
        slot.trans (shaped.top which)
      rw [slotAt_of_lt (by omega)] at here
      omega
  | MTX_STORE v =>
      obtain ⟨uses,slot⟩ := mem_writes_store member
      rw [same] at uses slot
      exact keeps uses slot.symm
  | MTX_MODE v => exact (List.not_mem_nil member).elim
  | MTX_POP param => exact (List.not_mem_nil member).elim
  | MTX_RESTORE v => exact (List.not_mem_nil member).elim
  | change other current => exact (List.not_mem_nil member).elim

theorem nested_untouched {which : Fin 4} {floor : Nat} {geometry : Geometry M}
    {ops : List (Op M)} (shaped : Shaped geometry) (nested : Nested which floor geometry ops) :
    ∀ write ∈ (Run.logged step geometry ops).2, write.1 ≠ (which, floor) := by
  induction ops generalizing geometry with
  | nil =>
      intro write member
      exact (List.not_mem_nil member).elim
  | cons op rest ih =>
      intro write member
      rcases List.mem_append.mp member with now | later
      · exact writes_apart shaped nested now
      · exact ih (shaped_step geometry op shaped) nested.2.2 write later

theorem memory_glPush (shaped : Shaped geometry) {which : Fin 4} (uses : Uses geometry which) :
    memory (gfx3d_glPushMatrix geometry)
        (which, slotAt which (geometry.mtxStack which).position.toNat) =
      geometry.mtxCurrent which := by
  rw [← shaped.top]
  unfold gfx3d_glPushMatrix
  by_cases both : geometry.mymode = 2
  · simp only [both,if_true]
    rcases uses with isDirectional | ⟨-,isCoordinate⟩
    · rw [isDirectional,both,memory_push,memory_push]
      rw [Function.update_of_ne (by simp),Function.update_self]
    · rw [isCoordinate,memory_push]
      exact Function.update_self _ _ _
  · simp only [if_neg both]
    rcases uses with isMode | ⟨absurd,-⟩
    · rw [isMode,memory_push,Function.update_self]
    · exact (both absurd).elim

theorem pop_current_of_push (shaped : Shaped geometry) {which : Fin 4}
    (uses : Uses geometry which) (room : ¬Leaves geometry which 1) {later : List (Op M)}
    (nested : Nested which (geometry.mtxStack which).position.toNat
      (gfx3d_glPushMatrix geometry) later) {param : u32}
    (usesLast : Uses (Run.logged step (gfx3d_glPushMatrix geometry) later).1 which)
    (back : ((gfx3d_glPopMatrix (Run.logged step (gfx3d_glPushMatrix geometry) later).1
      param).mtxStack which).position = (geometry.mtxStack which).position) :
    (gfx3d_glPopMatrix (Run.logged step (gfx3d_glPushMatrix geometry) later).1
      param).mtxCurrent which = geometry.mtxCurrent which := by
  have shapedLast := shaped_run shaped.push later
  have slot : slotAt which (geometry.mtxStack which).position.toNat =
      (geometry.mtxStack which).position.toNat := by
    unfold Leaves at room
    exact slotAt_of_lt (by omega)
  have untouched := nested_untouched shaped.push nested
  have written := memory_glPush shaped uses
  rw [slot] at written
  rw [shapedLast.glPop_current param usesLast,back,slot,memory_run,
    lastWritten_untouched _ untouched,written]

theorem memory_reset (identity : M) :
    memory (gfx3d_reset identity (Geometry.initial identity)) = fun _ => identity := by
  funext place
  obtain ⟨which,slot⟩ := place
  have fresh : ((Geometry.initial identity).mtxStack which).matrix slot = identity := by
    fin_cases which <;> rfl
  change (if slot < _ then identity else ((Geometry.initial identity).mtxStack which).matrix slot) =
    identity
  rw [fresh,ite_self]

/-- After any commands: positions are inside the allocations and the two
coordinate stacks agree; a pop makes current what was last written to the slot
its offset leads to, and so what the matching push stored; and a push or pop
raises the error flag when the move leaves the stack. -/
theorem matrix_stacks_lifo (identity : M) (ops : List (Op M)) :
    let run := Run.logged step (gfx3d_reset identity (Geometry.initial identity)) ops
    let geometry := run.1
    (∀ which, (geometry.mtxStack which).position.toNat ≤ sizeOf which) ∧
    (geometry.mtxStack 1).position = (geometry.mtxStack 2).position ∧
    (∀ param which, Uses geometry which →
      let next := gfx3d_glPopMatrix geometry param
      let pos := (next.mtxStack which).position.toNat
      (pos : Int) =
        (((geometry.mtxStack which).position.toNat : Int) - popOffset geometry param) %
          (sizeOf which + 1) ∧
      next.mtxCurrent which =
        lastWritten (fun _ => identity) run.2 (which, slotAt which pos)) ∧
    (∀ which later param, Uses geometry which → ¬Leaves geometry which 1 →
      let pushed := gfx3d_glPushMatrix geometry
      let last := (Run.logged step pushed later).1
      Nested which (geometry.mtxStack which).position.toNat pushed later → Uses last which →
      let next := gfx3d_glPopMatrix last param
      (next.mtxStack which).position = (geometry.mtxStack which).position →
        next.mtxCurrent which = geometry.mtxCurrent which) ∧
    (gfx3d_glPushMatrix geometry).se =
      (geometry.se || decide (Leaves geometry geometry.mymode 1)) ∧
    ∀ param,
      (geometry.mode = 0 ∨ Extended param →
        (gfx3d_glPopMatrix geometry param).se =
          (geometry.se ||
            decide (Leaves geometry geometry.mymode (-popOffset geometry param)))) ∧
      (Leaves geometry geometry.mymode (-popOffset geometry param) →
        (gfx3d_glPopMatrix geometry param).se = true) := by
  have shaped := shaped_run (shaped_reset identity) ops
  refine ⟨shaped.inside,shaped.together,?_,?_,shaped.glPush_se,?_⟩
  · intro param which uses
    constructor
    · exact shaped.glPop_position param uses
    · rw [← memory_reset identity,← memory_run]
      exact shaped.glPop_current param uses
  · intro which later param uses room pushed last nested usesLast next back
    exact pop_current_of_push shaped uses room nested usesLast back
  · intro param
    constructor
    · intro known
      exact shaped.glPop_se known
    · intro leaves
      exact shaped.glPop_flags leaves

/-- In projection mode a pop by 0 moves by one and raises the flag; in position
mode a pop by -1, written in six bits, raises it although it stays inside. -/
theorem pops_flagged_inside :
    let geometry := gfx3d_reset () (Geometry.initial ())
    let pos := gfx3d_glMatrixMode geometry 1
    geometry.mymode = 0 ∧ geometry.se = false ∧ ¬Leaves geometry 0 (-((0 : u32).setWidth 6).toInt) ∧
    (gfx3d_glPopMatrix geometry 0).se = true ∧
    pos.mymode = 2 ∧ pos.se = false ∧
    ¬Leaves pos 2 (-((63 : u32).setWidth 6).toInt) ∧
    (gfx3d_glPopMatrix pos 63).se = true := by
  decide +kernel

end Desmume.Mtx
