/-
The error flag of IPCFIFOCNT.

Beside the two registers a run keeps, for each processor, whether one of its
calls has failed since its last acknowledgement.
-/

import Desmume.Fifo.IpcChannel

namespace Desmume.Ipc

def State.error (state : State) (proc : Proc) : Bool := (state.cnt proc).getLsbD 14

def State.Fails (state : State) : Op → Proc → Prop
  | .send proc _, failing =>
      failing = proc ∧ state.Enabled proc ∧ (state.ipc_fifo proc).size > 15
  | .recv proc, failing =>
      failing = proc ∧ state.Enabled proc ∧ (state.ipc_fifo proc.remote).size = 0
  | .cnt _ _, _ => False

def State.Transfers (state : State) : Op → Prop
  | .send proc _ => state.Enabled proc ∧ ¬(state.ipc_fifo proc).size > 15
  | .recv proc => state.Enabled proc ∧ (state.ipc_fifo proc.remote).size ≠ 0
  | .cnt _ _ => False

def Acknowledges : Op → Proc → Prop
  | .cnt proc val, acknowledging => acknowledging = proc ∧ val.getLsbD 14 = true
  | .send _ _, _ => False
  | .recv _, _ => False

/-- The FIFOs, and which processors have an unacknowledged failure. -/
structure Watched where
  state : State
  failed : Proc → Prop

def Watched.step (watched : Watched) (op : Op) : Watched where
  state := (Ipc.step watched.state op).1
  failed := fun proc =>
    watched.state.Fails op proc ∨ (watched.failed proc ∧ ¬ Acknowledges op proc)

variable (watched : Watched)

def Watched.Shows : Prop :=
  ∀ proc, watched.failed proc → watched.state.error proc = true

def Watched.KeepsError (op : Op) : Prop :=
  watched.state.Transfers op → ∀ proc, ¬ watched.failed proc

theorem getLsbD_error (cnt : u16) : (cnt ||| IPCFIFOCNT_FIFOERROR).getLsbD 14 = true := by
  simp [IPCFIFOCNT_FIFOERROR]

variable {proc caller : Proc}

theorem error_of_cnt {state state' : State}
    (same : state'.cnt proc = state.cnt proc) : state'.error proc = state.error proc :=
  congrArg (fun cnt => cnt.getLsbD 14) same

variable {state : State} {op : Op}

theorem error_transfers (transfers : state.Transfers op) (proc : Proc) :
    (step state op).1.error proc = false := by
  have masked (cnt mask bits : u16) (full : Prop) [Decidable full]
      (clears : mask.getLsbD 14 = false) (small : bits.getLsbD 14 = false) :
      (if full then cnt &&& mask ||| bits else cnt &&& mask).getLsbD 14 = false := by
    split
    · rw [BitVec.getLsbD_or,BitVec.getLsbD_and,clears,small,Bool.and_false,Bool.or_false]
    · rw [BitVec.getLsbD_and,clears,Bool.and_false]
  cases op with
  | send caller val =>
      obtain ⟨-,own,other⟩ := IPC_FIFOsend_accepted state caller val transfers.1 transfers.2
      rcases caller.eq_or_eq_remote proc with rfl | rfl
      · exact (congrArg (fun cnt => cnt.getLsbD 14) own).trans (masked _ _ _ _ rfl rfl)
      · exact (congrArg (fun cnt => cnt.getLsbD 14) other).trans (masked _ _ _ _ rfl rfl)
  | recv caller =>
      obtain ⟨-,-,own,other⟩ := IPC_FIFOrecv_accepted state caller transfers.1 transfers.2
      rcases caller.eq_or_eq_remote proc with rfl | rfl
      · exact (congrArg (fun cnt => cnt.getLsbD 14) own).trans (masked _ _ _ _ rfl rfl)
      · exact (congrArg (fun cnt => cnt.getLsbD 14) other).trans (masked _ _ _ _ rfl rfl)
  | cnt caller val => exact transfers.elim

theorem getLsbD_cntAfter (cnt val : u16) (silent : val.getLsbD 14 = false) :
    (cntAfter cnt val).getLsbD 14 = cnt.getLsbD 14 := by
  have none : ¬ val &&& IPCFIFOCNT_FIFOERROR ≠ 0 := by
    rw [show IPCFIFOCNT_FIFOERROR = BitVec.twoPow 16 14 from rfl,
      and_twoPow_ne_zero val 14 (by decide),silent]
    exact Bool.false_ne_true
  unfold cntAfter
  rw [if_neg none]
  dsimp only
  split <;>
    simp [IPCFIFOCNT_WRITEABLE,IPCFIFOCNT_SENDEMPTY,IPCFIFOCNT_SENDFULL,IPCFIFOCNT_SENDIRQEN,
      IPCFIFOCNT_RECVIRQEN,IPCFIFOCNT_FIFOENABLE]

theorem error_cnt {val : u16} (silent : ¬ Acknowledges (.cnt caller val) proc) :
    (step state (.cnt caller val)).1.error proc = state.error proc := by
  obtain ⟨-,own,other⟩ := IPC_FIFOcnt_spec state caller val
  rcases caller.eq_or_eq_remote proc with rfl | rfl
  · have clear : val.getLsbD 14 = false := by
      cases acknowledged : val.getLsbD 14 with
      | false => rfl
      | true => exact absurd ⟨rfl,acknowledged⟩ silent
    exact (congrArg (fun cnt => cnt.getLsbD 14) own).trans (getLsbD_cntAfter _ val clear)
  · refine (congrArg (fun cnt => cnt.getLsbD 14) other).trans ?_
    split <;> simp [State.error,IPCFIFOCNT_RECVEMPTY,IPCFIFOCNT_RECVFULL]

theorem error_send_full (val : u32)
    (enabled : state.Enabled caller) (full : (state.ipc_fifo caller).size > 15) :
    (step state (.send caller val)).1.error caller = true := by
  have on : ¬ state.cnt caller &&& IPCFIFOCNT_FIFOENABLE = 0 := enabled
  have run : IPC_FIFOsend state caller val =
      state.setCnt caller (state.cnt caller ||| IPCFIFOCNT_FIFOERROR) := by
    rw [IPC_FIFOsend,if_neg on,if_pos full]
  have flag : (IPC_FIFOsend state caller val).cnt caller = _ :=
    (congrArg (fun state => state.cnt caller) run).trans (State.cnt_setCnt_self _ _ _)
  exact (congrArg (fun cnt => cnt.getLsbD 14) flag).trans (getLsbD_error _)

theorem error_recv_empty
    (enabled : state.Enabled caller) (empty : (state.ipc_fifo caller.remote).size = 0) :
    (step state (.recv caller)).1.error caller = true := by
  have on : ¬ state.cnt caller &&& IPCFIFOCNT_FIFOENABLE = 0 := enabled
  have run : (IPC_FIFOrecv state caller).1 =
      state.setCnt caller (state.cnt caller ||| IPCFIFOCNT_FIFOERROR) := by
    rw [IPC_FIFOrecv,if_neg on,if_pos empty]
  have flag : (IPC_FIFOrecv state caller).1.cnt caller = _ :=
    (congrArg (fun state => state.cnt caller) run).trans (State.cnt_setCnt_self _ _ _)
  exact (congrArg (fun cnt => cnt.getLsbD 14) flag).trans (getLsbD_error _)

theorem error_fails (fails : state.Fails op proc) : (step state op).1.error proc = true := by
  cases op with
  | send caller val =>
      obtain ⟨rfl,enabled,full⟩ := fails
      exact error_send_full val enabled full
  | recv caller =>
      obtain ⟨rfl,enabled,empty⟩ := fails
      exact error_recv_empty enabled empty
  | cnt caller val => exact fails.elim

theorem error_refused {state state' : State} (error : state.error proc = true)
    (other : state'.cnt caller.remote = state.cnt caller.remote)
    (own : state'.cnt caller = state.cnt caller ∨
      state'.cnt caller = state.cnt caller ||| IPCFIFOCNT_FIFOERROR) :
    state'.error proc = true := by
  rcases caller.eq_or_eq_remote proc with rfl | rfl
  · rcases own with same | raised
    · rw [error_of_cnt same]
      exact error
    · exact (congrArg (fun cnt => cnt.getLsbD 14) raised).trans (getLsbD_error _)
  · rw [error_of_cnt other]
    exact error

theorem error_quiet (quiet : ¬ state.Transfers op)
    (error : state.error proc = true) (silent : ¬ Acknowledges op proc) :
    (step state op).1.error proc = true := by
  cases op with
  | send caller val =>
      rcases state.send_cases caller with accepted | refused
      · exact absurd accepted quiet
      · obtain ⟨-,other,own⟩ := IPC_FIFOsend_refused state caller val refused
        exact error_refused error other own
  | recv caller =>
      rcases state.recv_cases caller with accepted | refused
      · exact absurd accepted quiet
      · obtain ⟨-,other,own⟩ := IPC_FIFOrecv_refused state caller refused
        exact error_refused error other own
  | cnt caller val => exact (error_cnt silent).trans error

theorem not_fails_of_transfers (transfers : state.Transfers op)
    (proc : Proc) : ¬ state.Fails op proc := by
  cases op with
  | send caller val => exact fun fails => transfers.2 fails.2.2
  | recv caller => exact fun fails => transfers.2 fails.2.2
  | cnt caller val => exact transfers.elim

theorem not_acknowledges_of_transfers
    (transfers : state.Transfers op) (proc : Proc) : ¬ Acknowledges op proc := by
  cases op with
  | send caller val => exact id
  | recv caller => exact id
  | cnt caller val => exact transfers.elim

theorem shows_step_iff (op : Op) (shows : watched.Shows) :
    (watched.step op).Shows ↔ watched.KeepsError op := by
  by_cases transfers : watched.state.Transfers op
  · constructor
    · intro next _ proc failed
      have flag := next proc
        (Or.inr ⟨failed,not_acknowledges_of_transfers transfers proc⟩)
      have cleared := error_transfers transfers proc
      exact absurd (cleared.symm.trans flag) Bool.false_ne_true
    · intro keeps proc failed
      rcases failed with fails | ⟨failed,_⟩
      · exact absurd fails (not_fails_of_transfers transfers proc)
      · exact absurd failed (keeps transfers proc)
  · refine iff_of_true ?_ (fun transfer => absurd transfer transfers)
    intro proc failed
    rcases failed with fails | ⟨failed,silent⟩
    · exact error_fails fails
    · exact error_quiet transfers (shows proc failed) silent

/-- The FIFOs after `IPC_FIFOinit`, without a failure. -/
def Watched.reset (state : State) : Watched where
  state := Ipc.reset state
  failed := fun _ => False

/-- In a run of both processors from reset an error flag stays set until its
processor acknowledges it exactly when no word is moved in the meantime. -/
theorem error_sticky_iff (state : State) (ops : List Op) :
    Run.Always Watched.step Watched.Shows (Watched.reset state) ops ↔
      Run.Guarded Watched.step Watched.KeepsError (Watched.reset state) ops :=
  have none : (Watched.reset state).Shows := fun _ failed => failed.elim
  Run.always_iff_guarded (fun (_ : Watched) (_ : Op) (_ : True) => trivial)
    (fun watched op _ shows => shows_step_iff watched op shows) trivial none ops

def State.blank : State :=
  { ipc_fifo := fun _ => IPC_FIFO.zero
    MMU_MEM := fun _ _ => 0
    reg_IF_bits := fun _ => 0
    reschedule := false }

/-- The ARM9 enables its FIFO, receives from the empty queue and sends a word. -/
def emptyRecvRun : List Op :=
  [.cnt .ARMCPU_ARM9 0x8000,.recv .ARMCPU_ARM9,.send .ARMCPU_ARM9 0]

theorem error_lost_by_send :
    ¬ Run.Always Watched.step Watched.Shows (Watched.reset State.blank) emptyRecvRun := by
  intro always
  have enabled : (Ipc.step (reset State.blank) (.cnt .ARMCPU_ARM9 0x8000)).1.Enabled
      .ARMCPU_ARM9 := by
    decide +kernel
  have empty : ((Ipc.step (reset State.blank) (.cnt .ARMCPU_ARM9 0x8000)).1.ipc_fifo
      Proc.ARMCPU_ARM9.remote).size = 0 := by
    decide +kernel
  have flag := always.last .ARMCPU_ARM9 (Or.inr ⟨Or.inl ⟨rfl,enabled,empty⟩,id⟩)
  have lost : (Run.final Watched.step (Watched.reset State.blank) emptyRecvRun).state.error
      .ARMCPU_ARM9 = false := by
    decide +kernel
  exact absurd (lost.symm.trans flag) Bool.false_ne_true

end Desmume.Ipc
