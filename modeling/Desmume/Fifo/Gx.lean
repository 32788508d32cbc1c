/-
The geometry command FIFO: `GFX_FIFOclear`, `GFX_FIFOsend`, `GFX_PIPErecv`,
`GFX_FIFOcnt` and the cached flags of GXSTAT.

The FIFO has 200000 slots and no full check. `GXF_FIFO_handleEvents` copies
three facts about the FIFO into GXSTAT; `gen_IF` reads the copies.
-/

import Desmume.Types
import Desmume.Lib.RingBuffer

namespace Desmume.Gx

def HACK_GXIFO_SIZE : Nat := 200000

structure GFX_FIFO where
  cmd : Nat → u8
  param : Nat → u32
  head : u32
  tail : u32
  size : u32
  matrix_stack_op_size : u32

structure GFX_PIPE where
  head : u8
  tail : u8
  size : u8

structure TGXSTAT where
  fifo_empty : Bool
  fifo_low : Bool
  tb : u8
  tr : u8
  se : u8
  sb : u8
  gxfifo_irq : u8

/-- The constructor of `TGXSTAT`. -/
def TGXSTAT.fresh : TGXSTAT :=
  { fifo_empty := true
    fifo_low := false
    tb := 0
    tr := 0
    se := 0
    sb := 0
    gxfifo_irq := 0 }

/-- The FIFO, its status register and what its code asks of the rest of the
system. `triggered` lists the modes handed to `triggerDma`. -/
structure State where
  gxFIFO : GFX_FIFO
  gxPIPE : GFX_PIPE
  gxstat : TGXSTAT
  projectionStackPosition : u32
  MMU_MEM : Proc → IoMem
  reg_IF_bits : Proc → u32
  triggered : List EDMAMode
  nds_timer : u64
  gfx3dCycles : u64
  gxfifo_enabled : Bool
  reschedule : Bool

def State.zero : State :=
  { gxFIFO :=
      { cmd := fun _ => 0
        param := fun _ => 0
        head := 0
        tail := 0
        size := 0
        matrix_stack_op_size := 0 }
    gxPIPE := { head := 0, tail := 0, size := 0 }
    gxstat := TGXSTAT.fresh
    projectionStackPosition := 0
    MMU_MEM := fun _ _ => 0
    reg_IF_bits := fun _ => 0
    triggered := []
    nds_timer := 0
    gfx3dCycles := 0
    gxfifo_enabled := false
    reschedule := false }

def GFX_PIPEclear (st : State) : State :=
  { st with
    gxPIPE := { head := 0, tail := 0, size := 0 }
    gxFIFO := { st.gxFIFO with matrix_stack_op_size := 0 } }

def GFX_FIFO.clear (fifo : GFX_FIFO) : GFX_FIFO :=
  { fifo with head := 0, tail := 0, size := 0, matrix_stack_op_size := 0 }

def GFX_FIFOclear (st : State) : State :=
  { st with gxFIFO := st.gxFIFO.clear }

def NDS_Reschedule (st : State) : State :=
  { st with reschedule := true }

def NDS_RescheduleGXFIFO (st : State) (cost : u64) : State :=
  let st := if st.gxfifo_enabled then st
    else { st with gfx3dCycles := st.nds_timer, gxfifo_enabled := true }
  NDS_Reschedule { st with gfx3dCycles := st.gfx3dCycles + cost }

def triggerDma (st : State) (mode : EDMAMode) : State :=
  { st with triggered := st.triggered ++ [mode] }

def GXF_FIFO_handleEvents (st : State) : State :=
  let low := decide (st.gxFIFO.size ≤ 127)
  let lowchange := xor st.gxstat.fifo_low low
  let st := { st with gxstat := { st.gxstat with fifo_low := low } }
  let st := if low then triggerDma st .GXFifo else st
  let empty := decide (st.gxFIFO.size = 0)
  let emptychange := xor st.gxstat.fifo_empty empty
  let st := { st with gxstat := { st.gxstat with fifo_empty := empty } }
  let st := { st with
    gxstat := { st.gxstat with
      sb := if st.gxFIFO.matrix_stack_op_size ≠ 0 then 1 else 0 } }
  if emptychange || lowchange then NDS_Reschedule st else st

def IsMatrixStackCommand (cmd : u8) : Bool :=
  cmd = 0x11 || cmd = 0x12

def GFX_FIFO.put (fifo : GFX_FIFO) (cmd : u8) (param : u32) : GFX_FIFO :=
  { cmd := Function.update fifo.cmd fifo.tail.toNat cmd
    param := Function.update fifo.param fifo.tail.toNat param
    head := fifo.head
    tail := if fifo.tail + 1 > BitVec.ofNat 32 (HACK_GXIFO_SIZE - 1) then 0 else fifo.tail + 1
    size := fifo.size + 1
    matrix_stack_op_size :=
      if IsMatrixStackCommand cmd then fifo.matrix_stack_op_size + 1
      else fifo.matrix_stack_op_size }

def GFX_FIFOsend (st : State) (cmd : u8) (param : u32) : State :=
  let st := { st with gxFIFO := st.gxFIFO.put cmd param }
  NDS_RescheduleGXFIFO (GXF_FIFO_handleEvents st) 1

def GFX_FIFO.front (fifo : GFX_FIFO) : u8 × u32 :=
  (fifo.cmd fifo.head.toNat, fifo.param fifo.head.toNat)

def GFX_FIFO.drop (fifo : GFX_FIFO) : GFX_FIFO :=
  { fifo with
    matrix_stack_op_size :=
      if IsMatrixStackCommand fifo.front.1 then fifo.matrix_stack_op_size - 1
      else fifo.matrix_stack_op_size
    head := if fifo.head + 1 > BitVec.ofNat 32 (HACK_GXIFO_SIZE - 1) then 0 else fifo.head + 1
    size := fifo.size - 1 }

/-- The command and parameter on `TRUE`, nothing on `FALSE`. -/
def GFX_PIPErecv (st : State) : State × Option (u8 × u32) :=
  if st.gxFIFO.size = 0 then (GXF_FIFO_handleEvents st, none)
  else
    (GXF_FIFO_handleEvents { st with gxFIFO := st.gxFIFO.drop },
      some st.gxFIFO.front)

def GFX_FIFOcnt (st : State) (val : u32) : State :=
  if val &&& (1 <<< 29) ≠ 0 then GFX_FIFOclear (GFX_PIPEclear st)
  else
    { st with
      MMU_MEM := Function.update st.MMU_MEM .ARMCPU_ARM9
        (T1WriteLong (st.MMU_MEM .ARMCPU_ARM9) 0x600 val) }

/-- `TGXSTAT::write32`. -/
def TGXSTAT_write32 (st : State) (val : u32) : State :=
  let st := { st with
    gxstat := { st.gxstat with gxfifo_irq := ((val >>> 30) &&& 3).setWidth 8 } }
  if val.getLsbD 15 then
    { st with
      projectionStackPosition := 0
      gxstat := { st.gxstat with se := 0 } }
  else st

def IRQ_MASK_ARM9_GXFIFO : u32 := 1 <<< 21

def gen_IF (st : State) (proc : Proc) : u32 :=
  let IF := st.reg_IF_bits proc
  match proc with
  | .ARMCPU_ARM9 =>
      if st.gxstat.gxfifo_irq = 1 then
        if st.gxstat.fifo_low then IF ||| IRQ_MASK_ARM9_GXFIFO else IF
      else if st.gxstat.gxfifo_irq = 2 then
        if st.gxstat.fifo_empty then IF ||| IRQ_MASK_ARM9_GXFIFO else IF
      else IF
  | .ARMCPU_ARM7 => IF

/-- `GFX_FIFOclear` and a freshly constructed `TGXSTAT`. -/
def reset (st : State) : State :=
  { GFX_FIFOclear st with gxstat := TGXSTAT.fresh }

variable (st : State)

theorem gxFIFO_NDS_RescheduleGXFIFO (cost : u64) :
    (NDS_RescheduleGXFIFO st cost).gxFIFO = st.gxFIFO := by
  unfold NDS_RescheduleGXFIFO NDS_Reschedule
  split <;> rfl

theorem gxstat_NDS_RescheduleGXFIFO (cost : u64) :
    (NDS_RescheduleGXFIFO st cost).gxstat = st.gxstat := by
  unfold NDS_RescheduleGXFIFO NDS_Reschedule
  split <;> rfl

theorem gxFIFO_handleEvents : (GXF_FIFO_handleEvents st).gxFIFO = st.gxFIFO := by
  simp only [GXF_FIFO_handleEvents,NDS_Reschedule,triggerDma]
  split <;> split <;> rfl

theorem gxstat_handleEvents :
    (GXF_FIFO_handleEvents st).gxstat =
      { st.gxstat with
        fifo_low := decide (st.gxFIFO.size ≤ 127)
        fifo_empty := decide (st.gxFIFO.size = 0)
        sb := if st.gxFIFO.matrix_stack_op_size ≠ 0 then 1 else 0 } := by
  simp only [GXF_FIFO_handleEvents,NDS_Reschedule,triggerDma]
  split <;> split <;> rfl

theorem gxFIFO_send (cmd : u8) (param : u32) :
    (GFX_FIFOsend st cmd param).gxFIFO = st.gxFIFO.put cmd param := by
  unfold GFX_FIFOsend
  rw [gxFIFO_NDS_RescheduleGXFIFO,gxFIFO_handleEvents]

theorem GFX_PIPErecv_empty (empty : st.gxFIFO.size = 0) :
    GFX_PIPErecv st = (GXF_FIFO_handleEvents st, none) := by
  unfold GFX_PIPErecv
  rw [if_pos empty]

theorem GFX_PIPErecv_nonempty (nonempty : st.gxFIFO.size ≠ 0) :
    (GFX_PIPErecv st).1.gxFIFO = st.gxFIFO.drop ∧
      (GFX_PIPErecv st).2 = some st.gxFIFO.front := by
  unfold GFX_PIPErecv
  rw [if_neg nonempty]
  exact ⟨gxFIFO_handleEvents _,rfl⟩

def GFX_FIFO.ring (fifo : GFX_FIFO) : RingBuffer (u8 × u32) :=
  { slot := fun i => (fifo.cmd i, fifo.param i)
    head := fifo.head.toNat
    tail := fifo.tail.toNat
    size := fifo.size.toNat }

abbrev GFX_FIFO.Holds (fifo : GFX_FIFO) (queue : List (u8 × u32)) : Prop :=
  fifo.ring.Holds HACK_GXIFO_SIZE queue

theorem next_index {i : u32} (bound : i.toNat < HACK_GXIFO_SIZE) :
    (if i + 1 > BitVec.ofNat 32 (HACK_GXIFO_SIZE - 1) then (0 : u32) else i + 1).toNat =
      RingBuffer.wrap HACK_GXIFO_SIZE (i.toNat + 1) := by
  unfold HACK_GXIFO_SIZE at bound
  unfold RingBuffer.wrap HACK_GXIFO_SIZE
  have next : (i + 1).toNat = i.toNat + 1 := by bv_omega
  by_cases last : i + 1 > BitVec.ofNat 32 (200000 - 1)
  · rw [if_pos last,if_pos (by bv_omega)]
    rfl
  · rw [if_neg last,if_neg (by bv_omega),next]

theorem GFX_FIFO.ring_slot_put (fifo : GFX_FIFO) (cmd : u8) (param : u32) :
    (fifo.put cmd param).ring.slot =
      Function.update fifo.ring.slot fifo.ring.tail (cmd, param) := by
  funext i
  by_cases here : i = fifo.tail.toNat
  · simp [GFX_FIFO.ring,GFX_FIFO.put,here]
  · simp [GFX_FIFO.ring,GFX_FIFO.put,here]

variable {fifo : GFX_FIFO} {queue : List (u8 × u32)}

theorem GFX_FIFO.Holds.size_le (holds : fifo.Holds queue) : fifo.size.toNat ≤ 200000 := by
  have sizeEq : fifo.size.toNat = queue.length := holds.size_eq
  have fits : queue.length ≤ 200000 := holds.fits
  omega

theorem GFX_FIFO.ring_put (holds : fifo.Holds queue) (cmd : u8) (param : u32) :
    (fifo.put cmd param).ring = fifo.ring.push HACK_GXIFO_SIZE (cmd, param) := by
  have tailLt : fifo.tail.toNat < HACK_GXIFO_SIZE := holds.tail_lt
  have sizeLe := holds.size_le
  have slot := fifo.ring_slot_put cmd param
  have tail : (fifo.put cmd param).ring.tail =
      RingBuffer.wrap HACK_GXIFO_SIZE (fifo.ring.tail + 1) := next_index tailLt
  have size : (fifo.put cmd param).ring.size = fifo.ring.size + 1 := by
    change (fifo.size + 1).toNat = fifo.size.toNat + 1
    bv_omega
  unfold RingBuffer.push
  rw [← slot,← tail,← size]
  rfl

theorem GFX_FIFO.ring_drop (holds : fifo.Holds queue) (nonempty : fifo.size ≠ 0) :
    fifo.drop.ring = fifo.ring.pop HACK_GXIFO_SIZE := by
  have headLt : fifo.head.toNat < HACK_GXIFO_SIZE := holds.head_lt
  have head : fifo.drop.ring.head =
      RingBuffer.wrap HACK_GXIFO_SIZE (fifo.ring.head + 1) := next_index headLt
  have size : fifo.drop.ring.size = fifo.ring.size - 1 := by
    change (fifo.size - 1).toNat = fifo.size.toNat - 1
    bv_omega
  unfold RingBuffer.pop
  rw [← head,← size]
  rfl

theorem GFX_FIFO.holds_clear (fifo : GFX_FIFO) : fifo.clear.Holds [] :=
  RingBuffer.holds_nil _ (by decide)

theorem GFX_FIFO.Holds.front {first : u8 × u32} {rest : List (u8 × u32)}
    (holds : fifo.Holds (first :: rest)) : fifo.front = first :=
  holds.head_slot

theorem GFX_FIFO.Holds.size_ne_zero (holds : fifo.Holds queue) : fifo.size ≠ 0 ↔ queue ≠ [] := by
  have sizeEq : fifo.size.toNat = queue.length := holds.size_eq
  constructor
  · rintro nonzero rfl
    rw [List.length_nil] at sizeEq
    bv_omega
  · intro nonempty zero
    rw [zero] at sizeEq
    exact nonempty (List.length_eq_zero_iff.mp sizeEq.symm)

end Desmume.Gx
