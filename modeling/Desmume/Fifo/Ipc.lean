/-
The interprocessor FIFOs: `IPC_FIFOinit`, `IPC_FIFOsend`, `IPC_FIFOrecv` and
`IPC_FIFOcnt`.

Each processor owns the ring buffer it sends through and a copy of IPCFIFOCNT in
its register page.
-/

import Desmume.Types
import Desmume.Lib.RingBuffer

namespace Desmume.Ipc

open Function (update)

def IPCFIFOCNT_SENDEMPTY : u16 := 0x0001
def IPCFIFOCNT_SENDFULL : u16 := 0x0002
def IPCFIFOCNT_SENDIRQEN : u16 := 0x0004
def IPCFIFOCNT_SENDCLEAR : u16 := 0x0008
def IPCFIFOCNT_RECVEMPTY : u16 := 0x0100
def IPCFIFOCNT_RECVFULL : u16 := 0x0200
def IPCFIFOCNT_RECVIRQEN : u16 := 0x0400
def IPCFIFOCNT_FIFOERROR : u16 := 0x4000
def IPCFIFOCNT_FIFOENABLE : u16 := 0x8000
def IPCFIFOCNT_WRITEABLE : u16 :=
  IPCFIFOCNT_SENDIRQEN ||| IPCFIFOCNT_RECVIRQEN ||| IPCFIFOCNT_FIFOENABLE

def IRQ_BIT_IPCFIFO_SENDEMPTY : Nat := 17
def IRQ_BIT_IPCFIFO_RECVNONEMPTY : Nat := 18

/-- `buf` has 16 words; the counters never leave that range. -/
structure IPC_FIFO where
  buf : Nat → u32
  head : u8
  tail : u8
  size : u8

/-- The two send queues, the two register pages, and what the FIFO code asks
of the rest of the system. -/
structure State where
  ipc_fifo : Proc → IPC_FIFO
  MMU_MEM : Proc → IoMem
  reg_IF_bits : Proc → u32
  reschedule : Bool

def State.cnt (st : State) (proc : Proc) : u16 :=
  T1ReadWord (st.MMU_MEM proc) 0x184

def State.setCnt (st : State) (proc : Proc) (val : u16) : State :=
  { st with
    MMU_MEM := update st.MMU_MEM proc
      (T1WriteWord (st.MMU_MEM proc) 0x184 val) }

def State.setFifo (st : State) (proc : Proc) (fifo : IPC_FIFO) : State :=
  { st with ipc_fifo := update st.ipc_fifo proc fifo }

def NDS_Reschedule (st : State) : State :=
  { st with reschedule := true }

def NDS_makeIrq (st : State) (proc : Proc) (num : Nat) : State :=
  NDS_Reschedule
    { st with
      reg_IF_bits := update st.reg_IF_bits proc
        (st.reg_IF_bits proc ||| (1 <<< num)) }

/-- The FIFO after `memset(&ipc_fifo[proc], 0, sizeof(IPC_FIFO))`. -/
def IPC_FIFO.zero : IPC_FIFO :=
  { buf := fun _ => 0, head := 0, tail := 0, size := 0 }

def IPC_FIFOinit (st : State) (proc : Proc) : State :=
  (st.setFifo proc IPC_FIFO.zero).setCnt proc 0x0101

/-- `IPC_FIFOinit` on both processors, as at power-up. -/
def reset (st : State) : State :=
  IPC_FIFOinit (IPC_FIFOinit st .ARMCPU_ARM9) .ARMCPU_ARM7

def IPC_FIFO.put (fifo : IPC_FIFO) (val : u32) : IPC_FIFO :=
  { buf := update fifo.buf fifo.tail.toNat val
    head := fifo.head
    tail := if fifo.tail + 1 > 15 then 0 else fifo.tail + 1
    size := fifo.size + 1 }

def IPC_FIFO.drop (fifo : IPC_FIFO) : IPC_FIFO :=
  { buf := fifo.buf
    head := if fifo.head + 1 > 15 then 0 else fifo.head + 1
    tail := fifo.tail
    size := fifo.size - 1 }

def IPC_FIFOsend (st : State) (proc : Proc) (val : u32) : State :=
  let cnt_l := st.cnt proc
  if cnt_l &&& IPCFIFOCNT_FIFOENABLE = 0 then st
  else if (st.ipc_fifo proc).size > 15 then
    st.setCnt proc (cnt_l ||| IPCFIFOCNT_FIFOERROR)
  else
    let proc_remote := proc.remote
    let cnt_r := st.cnt proc_remote
    let cnt_l := cnt_l &&& 0xBFFC
    let cnt_r := cnt_r &&& 0xBCFF
    let fifo := (st.ipc_fifo proc).put val
    let cnt_l := if fifo.size > 15 then cnt_l ||| IPCFIFOCNT_SENDFULL else cnt_l
    let cnt_r := if fifo.size > 15 then cnt_r ||| IPCFIFOCNT_RECVFULL else cnt_r
    let st := ((st.setFifo proc fifo).setCnt proc cnt_l).setCnt proc_remote cnt_r
    let st := if cnt_r &&& IPCFIFOCNT_RECVIRQEN ≠ 0 then
        NDS_makeIrq st proc_remote IRQ_BIT_IPCFIFO_RECVNONEMPTY
      else st
    NDS_Reschedule st

def IPC_FIFOrecv (st : State) (proc : Proc) : State × u32 :=
  let cnt_l := st.cnt proc
  if cnt_l &&& IPCFIFOCNT_FIFOENABLE = 0 then (st, 0)
  else
    let proc_remote := proc.remote
    if (st.ipc_fifo proc_remote).size = 0 then
      (st.setCnt proc (cnt_l ||| IPCFIFOCNT_FIFOERROR), 0)
    else
      let cnt_r := st.cnt proc_remote
      let cnt_l := cnt_l &&& 0xBCFF
      let cnt_r := cnt_r &&& 0xBFFC
      let val := (st.ipc_fifo proc_remote).buf (st.ipc_fifo proc_remote).head.toNat
      let fifo := (st.ipc_fifo proc_remote).drop
      let st := st.setFifo proc_remote fifo
      let cnt_l := if fifo.size = 0 then cnt_l ||| IPCFIFOCNT_RECVEMPTY else cnt_l
      let cnt_r := if fifo.size = 0 then cnt_r ||| IPCFIFOCNT_SENDEMPTY else cnt_r
      let st := if fifo.size = 0 ∧ cnt_r &&& IPCFIFOCNT_SENDIRQEN ≠ 0 then
          NDS_makeIrq st proc_remote IRQ_BIT_IPCFIFO_SENDEMPTY
        else st
      (NDS_Reschedule ((st.setCnt proc cnt_l).setCnt proc_remote cnt_r), val)

def IPC_FIFOcnt (st : State) (proc : Proc) (val : u16) : State :=
  let cnt_l := st.cnt proc
  let cnt_r := st.cnt proc.remote
  let cnt_l := if val &&& IPCFIFOCNT_FIFOERROR ≠ 0 then
      cnt_l &&& ~~~IPCFIFOCNT_FIFOERROR
    else cnt_l
  let clear := val &&& IPCFIFOCNT_SENDCLEAR ≠ 0
  let st := if clear then
      st.setFifo proc { st.ipc_fifo proc with head := 0, tail := 0, size := 0 }
    else st
  let cnt_l := if clear then
      (cnt_l ||| IPCFIFOCNT_SENDEMPTY) &&& ~~~IPCFIFOCNT_SENDFULL
    else cnt_l
  let cnt_r := if clear then
      (cnt_r ||| IPCFIFOCNT_RECVEMPTY) &&& ~~~IPCFIFOCNT_RECVFULL
    else cnt_r
  let cnt_l := cnt_l &&& ~~~IPCFIFOCNT_WRITEABLE
  let cnt_l := cnt_l ||| (val &&& IPCFIFOCNT_WRITEABLE)
  let st := if cnt_l &&& IPCFIFOCNT_SENDIRQEN ≠ 0 ∧ cnt_l &&& IPCFIFOCNT_SENDEMPTY ≠ 0 then
      NDS_makeIrq st proc IRQ_BIT_IPCFIFO_SENDEMPTY
    else st
  let st := if cnt_l &&& IPCFIFOCNT_RECVIRQEN ≠ 0 ∧ cnt_l &&& IPCFIFOCNT_RECVEMPTY = 0 then
      NDS_makeIrq st proc IRQ_BIT_IPCFIFO_RECVNONEMPTY
    else st
  NDS_Reschedule ((st.setCnt proc cnt_l).setCnt proc.remote cnt_r)

variable (st : State) (proc : Proc)

variable (val : u16)

@[simp] theorem State.cnt_setCnt_self : (st.setCnt proc val).cnt proc = val := by
  simp [State.cnt,State.setCnt]

@[simp] theorem State.cnt_setCnt_remote : (st.setCnt proc.remote val).cnt proc = st.cnt proc := by
  simp [State.cnt,State.setCnt]

@[simp] theorem State.cnt_remote_setCnt :
    (st.setCnt proc val).cnt proc.remote = st.cnt proc.remote := by
  simp [State.cnt,State.setCnt]

@[simp] theorem State.ipc_fifo_setCnt :
    (st.setCnt proc val).ipc_fifo = st.ipc_fifo := rfl

@[simp] theorem State.cnt_setFifo (proc other : Proc) (fifo : IPC_FIFO) :
    (st.setFifo proc fifo).cnt other = st.cnt other := rfl

@[simp] theorem State.ipc_fifo_setFifo (fifo : IPC_FIFO) :
    (st.setFifo proc fifo).ipc_fifo = update st.ipc_fifo proc fifo := rfl

@[simp] theorem cnt_NDS_Reschedule :
    (NDS_Reschedule st).cnt proc = st.cnt proc := rfl

@[simp] theorem ipc_fifo_NDS_Reschedule :
    (NDS_Reschedule st).ipc_fifo = st.ipc_fifo := rfl

@[simp] theorem cnt_NDS_makeIrq (proc other : Proc) (num : Nat) :
    (NDS_makeIrq st proc num).cnt other = st.cnt other := rfl

@[simp] theorem ipc_fifo_NDS_makeIrq (num : Nat) :
    (NDS_makeIrq st proc num).ipc_fifo = st.ipc_fifo := rfl

@[simp] theorem ipc_fifo_if_NDS_makeIrq (raise : Prop) [Decidable raise] (st : State)
    (proc : Proc) (num : Nat) :
    (if raise then NDS_makeIrq st proc num else st).ipc_fifo = st.ipc_fifo := by
  split <;> rfl

@[simp] theorem cnt_if_NDS_makeIrq (raise : Prop) [Decidable raise] (st : State)
    (proc other : Proc) (num : Nat) :
    (if raise then NDS_makeIrq st proc num else st).cnt other = st.cnt other := by
  split <;> rfl

theorem ipc_fifo_reset : (reset st).ipc_fifo proc = IPC_FIFO.zero := by
  cases proc <;> rfl

theorem cnt_reset : (reset st).cnt proc = 0x0101 := by
  cases proc with
  | ARMCPU_ARM9 =>
      have kept := State.cnt_remote_setCnt
        ((IPC_FIFOinit st .ARMCPU_ARM9).setFifo .ARMCPU_ARM7 IPC_FIFO.zero)
        .ARMCPU_ARM7 0x0101
      exact kept.trans (State.cnt_setCnt_self _ _ _)
  | ARMCPU_ARM7 => exact State.cnt_setCnt_self _ _ _

def State.Enabled (st : State) (proc : Proc) : Prop :=
  st.cnt proc &&& IPCFIFOCNT_FIFOENABLE ≠ 0

instance (st : State) (proc : Proc) : Decidable (st.Enabled proc) :=
  inferInstanceAs (Decidable (_ ≠ _))

theorem State.send_cases :
    (st.Enabled proc ∧ ¬(st.ipc_fifo proc).size > 15) ∨
      (¬st.Enabled proc ∨ (st.ipc_fifo proc).size > 15) := by
  rcases Decidable.em (st.Enabled proc) with enabled | disabled
  · rcases Decidable.em ((st.ipc_fifo proc).size > 15) with full | room
    · exact Or.inr (Or.inr full)
    · exact Or.inl ⟨enabled,room⟩
  · exact Or.inr (Or.inl disabled)

theorem State.recv_cases :
    (st.Enabled proc ∧ (st.ipc_fifo proc.remote).size ≠ 0) ∨
      (¬st.Enabled proc ∨ (st.ipc_fifo proc.remote).size = 0) := by
  rcases Decidable.em (st.Enabled proc) with enabled | disabled
  · rcases Decidable.em ((st.ipc_fifo proc.remote).size = 0) with empty | nonempty
    · exact Or.inr (Or.inr empty)
    · exact Or.inl ⟨enabled,nonempty⟩
  · exact Or.inr (Or.inl disabled)

theorem IPC_FIFOsend_refused (val : u32)
    (refused : ¬st.Enabled proc ∨ (st.ipc_fifo proc).size > 15) :
    (IPC_FIFOsend st proc val).ipc_fifo = st.ipc_fifo ∧
      (IPC_FIFOsend st proc val).cnt proc.remote = st.cnt proc.remote ∧
      ((IPC_FIFOsend st proc val).cnt proc = st.cnt proc ∨
        (IPC_FIFOsend st proc val).cnt proc =
          st.cnt proc ||| IPCFIFOCNT_FIFOERROR) := by
  unfold IPC_FIFOsend
  by_cases disabled : st.cnt proc &&& IPCFIFOCNT_FIFOENABLE = 0
  · rw [if_pos disabled]
    exact ⟨rfl,rfl,Or.inl rfl⟩
  · have full : (st.ipc_fifo proc).size > 15 :=
      refused.resolve_left (fun off => off disabled)
    rw [if_neg disabled,if_pos full]
    exact ⟨rfl,State.cnt_remote_setCnt _ _ _,Or.inr (State.cnt_setCnt_self _ _ _)⟩

theorem IPC_FIFOsend_accepted (val : u32)
    (enabled : st.Enabled proc) (room : ¬(st.ipc_fifo proc).size > 15) :
    (IPC_FIFOsend st proc val).ipc_fifo =
        update st.ipc_fifo proc ((st.ipc_fifo proc).put val) ∧
      (IPC_FIFOsend st proc val).cnt proc =
        (if (st.ipc_fifo proc).size + 1 > 15 then
          (st.cnt proc &&& 0xBFFC) ||| IPCFIFOCNT_SENDFULL
        else st.cnt proc &&& 0xBFFC) ∧
      (IPC_FIFOsend st proc val).cnt proc.remote =
        (if (st.ipc_fifo proc).size + 1 > 15 then
          (st.cnt proc.remote &&& 0xBCFF) ||| IPCFIFOCNT_RECVFULL
        else st.cnt proc.remote &&& 0xBCFF) := by
  have on : ¬st.cnt proc &&& IPCFIFOCNT_FIFOENABLE = 0 := enabled
  unfold IPC_FIFOsend
  rw [if_neg on,if_neg room]
  refine ⟨?_,?_,?_⟩
  · simp only [ipc_fifo_NDS_Reschedule,ipc_fifo_if_NDS_makeIrq,State.ipc_fifo_setCnt,
      State.ipc_fifo_setFifo]
  · simp only [cnt_NDS_Reschedule,cnt_if_NDS_makeIrq,State.cnt_setCnt_remote,
      State.cnt_setCnt_self]
    rfl
  · simp only [cnt_NDS_Reschedule,cnt_if_NDS_makeIrq,State.cnt_setCnt_self]
    rfl

theorem IPC_FIFOrecv_refused (refused : ¬st.Enabled proc ∨ (st.ipc_fifo proc.remote).size = 0) :
    (IPC_FIFOrecv st proc).1.ipc_fifo = st.ipc_fifo ∧
      (IPC_FIFOrecv st proc).1.cnt proc.remote = st.cnt proc.remote ∧
      ((IPC_FIFOrecv st proc).1.cnt proc = st.cnt proc ∨
        (IPC_FIFOrecv st proc).1.cnt proc =
          st.cnt proc ||| IPCFIFOCNT_FIFOERROR) := by
  unfold IPC_FIFOrecv
  by_cases disabled : st.cnt proc &&& IPCFIFOCNT_FIFOENABLE = 0
  · rw [if_pos disabled]
    exact ⟨rfl,rfl,Or.inl rfl⟩
  · have empty : (st.ipc_fifo proc.remote).size = 0 :=
      refused.resolve_left (fun off => off disabled)
    rw [if_neg disabled,if_pos empty]
    exact ⟨rfl,State.cnt_remote_setCnt _ _ _,Or.inr (State.cnt_setCnt_self _ _ _)⟩

theorem IPC_FIFOrecv_accepted
    (enabled : st.Enabled proc) (nonempty : (st.ipc_fifo proc.remote).size ≠ 0) :
    (IPC_FIFOrecv st proc).1.ipc_fifo =
        update st.ipc_fifo proc.remote (st.ipc_fifo proc.remote).drop ∧
      (IPC_FIFOrecv st proc).2 =
        (st.ipc_fifo proc.remote).buf (st.ipc_fifo proc.remote).head.toNat ∧
      (IPC_FIFOrecv st proc).1.cnt proc =
        (if (st.ipc_fifo proc.remote).size - 1 = 0 then
          (st.cnt proc &&& 0xBCFF) ||| IPCFIFOCNT_RECVEMPTY
        else st.cnt proc &&& 0xBCFF) ∧
      (IPC_FIFOrecv st proc).1.cnt proc.remote =
        (if (st.ipc_fifo proc.remote).size - 1 = 0 then
          (st.cnt proc.remote &&& 0xBFFC) ||| IPCFIFOCNT_SENDEMPTY
        else st.cnt proc.remote &&& 0xBFFC) := by
  have on : ¬st.cnt proc &&& IPCFIFOCNT_FIFOENABLE = 0 := enabled
  unfold IPC_FIFOrecv
  rw [if_neg on,if_neg nonempty]
  refine ⟨?_,rfl,?_,?_⟩
  · simp only [ipc_fifo_NDS_Reschedule,ipc_fifo_if_NDS_makeIrq,State.ipc_fifo_setCnt,
      State.ipc_fifo_setFifo]
  · simp only [cnt_NDS_Reschedule,State.cnt_setCnt_remote,State.cnt_setCnt_self]
    rfl
  · simp only [cnt_NDS_Reschedule,State.cnt_setCnt_self]
    rfl

def cntAfter (cnt val : u16) : u16 :=
  let cnt := if val &&& IPCFIFOCNT_FIFOERROR ≠ 0 then cnt &&& ~~~IPCFIFOCNT_FIFOERROR else cnt
  let cnt := if val &&& IPCFIFOCNT_SENDCLEAR ≠ 0 then
      (cnt ||| IPCFIFOCNT_SENDEMPTY) &&& ~~~IPCFIFOCNT_SENDFULL
    else cnt
  (cnt &&& ~~~IPCFIFOCNT_WRITEABLE) ||| (val &&& IPCFIFOCNT_WRITEABLE)

theorem IPC_FIFOcnt_spec :
    (IPC_FIFOcnt st proc val).ipc_fifo =
        (if val &&& IPCFIFOCNT_SENDCLEAR ≠ 0 then
          update st.ipc_fifo proc
            { st.ipc_fifo proc with head := 0, tail := 0, size := 0 }
        else st.ipc_fifo) ∧
      (IPC_FIFOcnt st proc val).cnt proc = cntAfter (st.cnt proc) val ∧
      (IPC_FIFOcnt st proc val).cnt proc.remote =
        (if val &&& IPCFIFOCNT_SENDCLEAR ≠ 0 then
          (st.cnt proc.remote ||| IPCFIFOCNT_RECVEMPTY) &&& ~~~IPCFIFOCNT_RECVFULL
        else st.cnt proc.remote) := by
  unfold IPC_FIFOcnt
  refine ⟨?_,?_,?_⟩
  · by_cases clear : val &&& IPCFIFOCNT_SENDCLEAR ≠ 0
    · simp only [if_pos clear,ipc_fifo_NDS_Reschedule,ipc_fifo_if_NDS_makeIrq,
        State.ipc_fifo_setCnt,State.ipc_fifo_setFifo]
    · simp only [if_neg clear,ipc_fifo_NDS_Reschedule,ipc_fifo_if_NDS_makeIrq,
        State.ipc_fifo_setCnt]
  · simp only [cnt_NDS_Reschedule,State.cnt_setCnt_remote,State.cnt_setCnt_self,cntAfter]
  · simp only [cnt_NDS_Reschedule,State.cnt_setCnt_self]

/-! ### The ring buffer behind a send queue -/

def IPC_FIFO.ring (fifo : IPC_FIFO) : RingBuffer u32 :=
  { slot := fifo.buf
    head := fifo.head.toNat
    tail := fifo.tail.toNat
    size := fifo.size.toNat }

abbrev IPC_FIFO.Holds (fifo : IPC_FIFO) (words : List u32) : Prop :=
  fifo.ring.Holds 16 words

theorem next_index {i : u8} (bound : i.toNat < 16) :
    (if i + 1 > 15 then (0 : u8) else i + 1).toNat =
      RingBuffer.wrap 16 (i.toNat + 1) := by
  unfold RingBuffer.wrap
  have next : (i + 1).toNat = i.toNat + 1 := by bv_omega
  by_cases last : i + 1 > 15
  · rw [if_pos last,if_pos (by bv_omega)]
    rfl
  · rw [if_neg last,if_neg (by bv_omega),next]

variable {fifo : IPC_FIFO}

variable {words : List u32}

theorem IPC_FIFO.Holds.size_le (holds : fifo.Holds words) : fifo.size.toNat ≤ 16 := by
  have sizeEq : fifo.size.toNat = words.length := holds.size_eq
  have fits := holds.fits
  omega

theorem IPC_FIFO.ring_put (holds : fifo.Holds words) (val : u32) :
    (fifo.put val).ring = fifo.ring.push 16 val := by
  have tailLt : fifo.tail.toNat < 16 := holds.tail_lt
  have sizeLe := holds.size_le
  have size : (fifo.size + 1).toNat = fifo.size.toNat + 1 := by bv_omega
  simp only [IPC_FIFO.put,IPC_FIFO.ring,RingBuffer.push,next_index tailLt,size]

theorem IPC_FIFO.ring_drop (holds : fifo.Holds words) (nonempty : fifo.size ≠ 0) :
    fifo.drop.ring = fifo.ring.pop 16 := by
  have headLt : fifo.head.toNat < 16 := holds.head_lt
  have size : (fifo.size - 1).toNat = fifo.size.toNat - 1 := by bv_omega
  simp only [IPC_FIFO.drop,IPC_FIFO.ring,RingBuffer.pop,next_index headLt,size]

theorem IPC_FIFO.Holds.room_iff
    (holds : fifo.Holds words) : ¬fifo.size > 15 ↔ words.length < 16 := by
  have sizeEq : fifo.size.toNat = words.length := holds.size_eq
  constructor
  · intro room
    bv_omega
  · intro short
    bv_omega

theorem IPC_FIFO.Holds.nonempty_iff
    (holds : fifo.Holds words) : fifo.size ≠ 0 ↔ 0 < words.length := by
  have sizeEq : fifo.size.toNat = words.length := holds.size_eq
  constructor
  · intro nonzero
    bv_omega
  · intro some
    bv_omega

theorem IPC_FIFO.Holds.put {words : List u32}
    (holds : fifo.Holds words) (room : words.length < 16) (val : u32) :
    (fifo.put val).Holds (words ++ [val]) := by
  have pushed := RingBuffer.Holds.push holds room val
  rw [← IPC_FIFO.ring_put holds val] at pushed
  exact pushed

theorem IPC_FIFO.Holds.drop {word : u32} {rest : List u32}
    (holds : fifo.Holds (word :: rest)) : fifo.drop.Holds rest := by
  have nonempty : fifo.size ≠ 0 := holds.nonempty_iff.mpr (Nat.zero_lt_succ _)
  have popped := RingBuffer.Holds.pop holds
  rw [← IPC_FIFO.ring_drop holds nonempty] at popped
  exact popped

theorem IPC_FIFO.holds_cleared (fifo : IPC_FIFO) :
    IPC_FIFO.Holds { fifo with head := 0, tail := 0, size := 0 } [] :=
  RingBuffer.holds_nil fifo.buf (by decide)

end Desmume.Ipc
