/-
The cached flags of GXSTAT.

`fifo_low`, `fifo_empty` and `sb` are copies that only the event handler
refreshes.
-/

import Desmume.Lib.Run
import Desmume.Fifo.Gx

namespace Desmume.Gx

/-- The operations that call the event handler. -/
inductive Refresh
  | send (cmd : u8) (param : u32)
  | recv

/-- The register writes, which do not. -/
inductive Control
  | fifocnt (val : u32)
  | gxstat (val : u32)

inductive Op
  | refresh (op : Refresh)
  | control (op : Control)

def refresh (st : State) : Refresh → State
  | .send cmd param => GFX_FIFOsend st cmd param
  | .recv => (GFX_PIPErecv st).1

def control (st : State) : Control → State
  | .fifocnt val => GFX_FIFOcnt st val
  | .gxstat val => TGXSTAT_write32 st val

def step (st : State) : Op → State
  | .refresh op => refresh st op
  | .control op => control st op

/-- The condition that `gxfifo_irq` selects. -/
def IrqCondition (st : State) : Prop :=
  (st.gxstat.gxfifo_irq = 1 ∧ st.gxFIFO.size ≤ 127) ∨
    (st.gxstat.gxfifo_irq = 2 ∧ st.gxFIFO.size = 0)

instance (st : State) : Decidable (IrqCondition st) :=
  inferInstanceAs (Decidable (_ ∨ _))

structure Flags (st : State) : Prop where
  fifo_empty : st.gxstat.fifo_empty = true ↔ st.gxFIFO.size = 0
  fifo_low : st.gxstat.fifo_low = true ↔ st.gxFIFO.size ≤ 127
  sb : st.gxstat.sb ≠ 0 ↔ st.gxFIFO.matrix_stack_op_size ≠ 0

/-- The flags are current, and `gen_IF` adds the interrupt exactly when the
configured condition holds. -/
structure Current (st : State) : Prop where
  flags : Flags st
  interrupt : gen_IF st .ARMCPU_ARM9 =
    if IrqCondition st then st.reg_IF_bits .ARMCPU_ARM9 ||| IRQ_MASK_ARM9_GXFIFO
    else st.reg_IF_bits .ARMCPU_ARM9

def Harmless (st : State) : Op → Prop
  | .control (.fifocnt val) => val &&& (1 <<< 29) ≠ 0 →
      st.gxFIFO.size = 0 ∧ st.gxFIFO.matrix_stack_op_size = 0
  | _ => True

theorem current_iff_flags (st : State) : Current st ↔ Flags st := by
  refine ⟨Current.flags,fun flags => ⟨flags,?_⟩⟩
  unfold gen_IF IrqCondition
  rcases Decidable.em (st.gxstat.gxfifo_irq = 1) with half | notHalf
  · have notEmpty : ¬st.gxstat.gxfifo_irq = 2 := by
      rw [half]
      decide
    simp only [half,if_true,true_and,flags.fifo_low]
    simp
  · rcases Decidable.em (st.gxstat.gxfifo_irq = 2) with empty | neither
    · simp only [empty,flags.fifo_empty]
      simp
    · simp only [notHalf,neither,if_false,false_and,or_self]

theorem flags_handleEvents (st : State) : Flags (GXF_FIFO_handleEvents st) where
  fifo_empty := by
    rw [gxFIFO_handleEvents,gxstat_handleEvents]
    exact decide_eq_true_iff
  fifo_low := by
    rw [gxFIFO_handleEvents,gxstat_handleEvents]
    exact decide_eq_true_iff
  sb := by
    rw [gxFIFO_handleEvents,gxstat_handleEvents]
    simp

theorem flags_refresh (st : State) (op : Refresh) : Flags (refresh st op) := by
  cases op with
  | send cmd param =>
      have handled := flags_handleEvents { st with gxFIFO := st.gxFIFO.put cmd param }
      change Flags (NDS_RescheduleGXFIFO _ _)
      constructor
      · rw [gxFIFO_NDS_RescheduleGXFIFO,gxstat_NDS_RescheduleGXFIFO]
        exact handled.fifo_empty
      · rw [gxFIFO_NDS_RescheduleGXFIFO,gxstat_NDS_RescheduleGXFIFO]
        exact handled.fifo_low
      · rw [gxFIFO_NDS_RescheduleGXFIFO,gxstat_NDS_RescheduleGXFIFO]
        exact handled.sb
  | recv =>
      change Flags (GFX_PIPErecv st).1
      unfold GFX_PIPErecv
      split
      · exact flags_handleEvents st
      · exact flags_handleEvents _

theorem TGXSTAT_write32_kept (st : State) (val : u32) :
    (TGXSTAT_write32 st val).gxFIFO = st.gxFIFO ∧
      (TGXSTAT_write32 st val).gxstat.fifo_empty = st.gxstat.fifo_empty ∧
      (TGXSTAT_write32 st val).gxstat.fifo_low = st.gxstat.fifo_low ∧
      (TGXSTAT_write32 st val).gxstat.sb = st.gxstat.sb := by
  simp only [TGXSTAT_write32]
  split
  · exact ⟨rfl,rfl,rfl,rfl⟩
  · exact ⟨rfl,rfl,rfl,rfl⟩

theorem flags_write32 {st : State} (val : u32) (flags : Flags st) :
    Flags (TGXSTAT_write32 st val) := by
  obtain ⟨fifo,empty,low,sb⟩ := TGXSTAT_write32_kept st val
  constructor
  · rw [fifo,empty]
    exact flags.fifo_empty
  · rw [fifo,low]
    exact flags.fifo_low
  · rw [fifo,sb]
    exact flags.sb

theorem flags_fifocnt_iff {st : State} (val : u32) (flags : Flags st) :
    Flags (GFX_FIFOcnt st val) ↔ (val &&& (1 <<< 29) ≠ 0 →
      st.gxFIFO.size = 0 ∧ st.gxFIFO.matrix_stack_op_size = 0) := by
  unfold GFX_FIFOcnt
  by_cases clear : val &&& (1 <<< 29) ≠ 0
  · rw [if_pos clear]
    constructor
    · intro cleared _
      refine ⟨flags.fifo_empty.mp (cleared.fifo_empty.mpr rfl),?_⟩
      by_contra busy
      exact cleared.sb.mp (flags.sb.mpr busy) rfl
    · intro harmless
      obtain ⟨size,stack⟩ := harmless clear
      constructor
      · exact iff_of_true (flags.fifo_empty.mpr size) rfl
      · exact iff_of_true (flags.fifo_low.mpr (by rw [size]; decide))
          (show (0 : u32) ≤ 127 by decide)
      · exact iff_of_false (fun busy => flags.sb.mp busy stack) (fun busy => busy rfl)
  · rw [if_neg clear]
    refine iff_of_true ?_ (fun set => absurd set clear)
    exact ⟨flags.fifo_empty,flags.fifo_low,flags.sb⟩

theorem current_step_iff (st : State) (op : Op) (current : Current st) :
    Current (step st op) ↔ Harmless st op := by
  have flags := current.flags
  rw [current_iff_flags]
  cases op with
  | refresh op => exact iff_of_true (flags_refresh st op) trivial
  | control op =>
      cases op with
      | fifocnt val => exact flags_fifocnt_iff val flags
      | gxstat val => exact iff_of_true (flags_write32 val flags) trivial

/-- `fifo_low` is clear although the FIFO is nearly empty. -/
structure Stale (st : State) : Prop where
  fifo_low : st.gxstat.fifo_low = false
  size : st.gxFIFO.size ≤ 127

theorem Stale.not_current {st : State} (stale : Stale st) : ¬Current st := by
  intro current
  have low := current.flags.fifo_low.mpr stale.size
  rw [stale.fifo_low] at low
  exact absurd low (by decide)

theorem stale_reset (before : State) : Stale (reset before) where
  fifo_low := rfl
  size := show (0 : u32) ≤ 127 by decide

theorem Stale.control {st : State} (stale : Stale st) (op : Control) : Stale (control st op) := by
  cases op with
  | fifocnt val =>
      change Stale (GFX_FIFOcnt st val)
      unfold GFX_FIFOcnt
      split
      · exact ⟨stale.fifo_low,show (0 : u32) ≤ 127 by decide⟩
      · exact ⟨stale.fifo_low,stale.size⟩
  | gxstat val =>
      obtain ⟨fifo,-,low,-⟩ := TGXSTAT_write32_kept st val
      change Stale (TGXSTAT_write32 st val)
      constructor
      · rw [low]
        exact stale.fifo_low
      · rw [fifo]
        exact stale.size

theorem Stale.idle {st : State} (stale : Stale st) (idle : List Control) :
    Run.Always step Stale st (idle.map Op.control) := by
  induction idle generalizing st with
  | nil => exact stale
  | cons op rest ih => exact ⟨stale,ih (stale.control op)⟩

/-- Up to the first send or receive the flags are wrong in every state. From
then on they are right in every state exactly when each clear command finds
the FIFO already empty. -/
theorem gxstat_current_iff (before : State) (idle : List Control) (first : Refresh)
    (rest : List Op) :
    Run.Always step (fun st => ¬Current st) (reset before) (idle.map Op.control) ∧
      (Run.Always step Current
          (Run.final step (reset before) (idle.map Op.control ++ [.refresh first])) rest ↔
        Run.Guarded step Harmless
          (Run.final step (reset before) (idle.map Op.control ++ [.refresh first])) rest) := by
  constructor
  · exact ((stale_reset before).idle idle).mono fun st stale => stale.not_current
  · have started : Current
        (Run.final step (reset before) (idle.map Op.control ++ [.refresh first])) := by
      rw [Run.final_append,current_iff_flags]
      exact flags_refresh _ first
    have kept (st : State) (op : Op) (_ : True) : True := trivial
    exact Run.always_iff_guarded kept (fun st op _ => current_step_iff st op) trivial
      started rest

/-- Reset itself leaves `fifo_low` clear beside an empty FIFO. -/
theorem reset_flags_not_current :
    ¬∀ (before : State) (ops : List Op), Run.Always step Current (reset before) ops := by
  intro everywhere
  exact (stale_reset State.zero).not_current (everywhere State.zero [])

end Desmume.Gx
