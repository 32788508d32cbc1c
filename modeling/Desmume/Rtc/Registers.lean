/-
The registers a game writes and reads back.

Status register 2, clock adjust and the free register should hold what was last
written to them.
-/

import Desmume.Rtc.Transaction

namespace Desmume.Rtc

/-- The registers as the game thinks of them. -/
structure Registers where
  status2 : u8
  adjustment : u8
  free : u8
  deriving DecidableEq, Repr

variable (regs : Registers)

def Registers.get (reg : Nat) : Option u8 :=
  match reg with
  | 1 => some regs.status2
  | 6 => some regs.adjustment
  | 7 => some regs.free
  | _ => none

def Registers.set (reg : Nat) (val : u8) : Registers :=
  match reg with
  | 1 => { regs with status2 := val }
  | 6 => { regs with adjustment := val }
  | 7 => { regs with free := val }
  | _ => regs

def Registers.after (tx : Transaction) : Registers :=
  if Reads tx.command then regs
  else regs.set (registerOf tx.command) (tx.data 0)

def RTC.registers (rtc : RTC) : Registers :=
  { status2 := rtc.regStatus2, adjustment := rtc.regAdjustment, free := rtc.regFree }

structure Settled (rtc : RTC) : Prop where
  idle : rtc.cmdStat = .idle
  sizes : ∀ reg, reg ≠ 4 → rtc.cmdBitsSize reg = kDefaultCmdBitsSize reg

theorem settled_init : Settled rtcInit := ⟨rfl,fun _ _ => rfl⟩

variable {ending : RTC}

theorem registers_of_core {rtc : RTC} (core : rtc.core = ending) :
    rtc.registers = ending.registers := by
  rw [← core]
  rfl

theorem settled_of_core {rtc : RTC} (core : rtc.core = ending) (idle : ending.cmdStat = .idle)
    (sizes : ∀ reg, reg ≠ 4 →
      ending.cmdBitsSize reg = kDefaultCmdBitsSize reg) : Settled rtc := by
  subst core
  exact ⟨idle,sizes⟩

theorem transact_core (tx : Transaction) {rtc : RTC}
    (core : (((rtc.open tx).clocked tx.commandPulses 8).1.clocked
      tx.dataPulses
      (commandLength rtc.regStatus2 (registerOf tx.command))).1.core = ending)
    (idle : ending.cmdStat = .idle) : (rtc.transact tx).1.core = ending := by
  refine (core_releases tx.lowers ?_).trans core
  exact (congrArg RTC.cmdStat core).trans idle

theorem commandLength_bounds (regStatus2 : u8) (reg : Nat) :
    8 ≤ commandLength regStatus2 reg ∧ commandLength regStatus2 reg < 256 := by
  unfold commandLength kDefaultCmdBitsSize
  split
  · split
    · omega
    · omega
  · split <;> simp_all

theorem setCmdBitsSize_length {rtc : RTC}
    (sizes : ∀ reg, reg ≠ 4 → rtc.cmdBitsSize reg = kDefaultCmdBitsSize reg) :
    setCmdBitsSize rtc (rtc.cmd >>> 1).toNat =
      BitVec.ofNat 8 (commandLength rtc.regStatus2 (rtc.cmd >>> 1).toNat) := by
  unfold setCmdBitsSize commandLength
  by_cases alarm : rtc.cmd >>> 1 = 0x04
  · have reg : (rtc.cmd >>> 1).toNat = 4 := congrArg BitVec.toNat alarm
    rw [if_pos alarm,if_pos reg,Function.update_self]
    split
    · rfl
    · rfl
  · have reg : (rtc.cmd >>> 1).toNat ≠ 4 := fun same => alarm (BitVec.eq_of_toNat_eq same)
    rw [if_neg alarm,if_neg reg,sizes _ reg,BitVec.ofNat_toNat,BitVec.setWidth_eq]

theorem setCmdBitsSize_other {rtc : RTC}
    (sizes : ∀ reg, reg ≠ 4 → rtc.cmdBitsSize reg = kDefaultCmdBitsSize reg)
    (reg : Nat) (other : reg ≠ 4) : setCmdBitsSize rtc reg = kDefaultCmdBitsSize reg := by
  unfold setCmdBitsSize
  by_cases alarm : rtc.cmd >>> 1 = 0x04
  · have four : (rtc.cmd >>> 1).toNat = 4 := congrArg BitVec.toNat alarm
    rw [if_pos alarm,four,Function.update_of_ne other]
    exact sizes reg other
  · rw [if_neg alarm]
    exact sizes reg other

def RTC.decoded (rtc : RTC) (command : u8) : RTC :=
  { rtc.core with cmdStat := .command, bitsCount := 8, cmd := decode command }

theorem beginTransfer_write (rtc : RTC) {cmd : u8} (writes : ¬Reads cmd) :
    beginTransfer (rtc.decoded cmd) =
      { rtc.decoded cmd with
        bitsCount := 0
        cmdBitsSize := setCmdBitsSize (rtc.decoded cmd)
        cmdStat := .write } :=
  if_neg writes

theorem beginTransfer_read (rtc : RTC) {cmd : u8} (reads : Reads cmd) :
    beginTransfer (rtc.decoded cmd) =
      rtcRecv
        { rtc.decoded cmd with
          bitsCount := 0
          cmdBitsSize := setCmdBitsSize (rtc.decoded cmd)
          cmdStat := .read } :=
  if_pos reads

theorem Settled.transfers {rtc commanded started : RTC} (settled : Settled rtc) {command : u8}
    (core : commanded.core = started) (bits : started.bitsCount = 0)
    (cmd : started.cmd = decode command)
    (sizes : started.cmdBitsSize = setCmdBitsSize (rtc.decoded command)) :
    commanded.Transfers (commandLength rtc.regStatus2 (registerOf command)) 0 := by
  subst core
  refine ⟨bits,?_,(commandLength_bounds _ _).2⟩
  change commanded.core.cmdBitsSize (commanded.core.cmd >>> 1).toNat = _
  rw [cmd,sizes]
  exact setCmdBitsSize_length settled.sizes

theorem rtcSend_registers (rtc : RTC) :
    (rtcSend rtc).registers =
      rtc.registers.set (rtc.cmd >>> 1).toNat (rtc.data 0) := by
  unfold rtcSend Registers.set
  split <;> simp_all [RTC.registers]

theorem rtcSend_sizes (rtc : RTC) : (rtcSend rtc).cmdBitsSize = rtc.cmdBitsSize := by
  unfold rtcSend
  split <;> rfl

theorem received_get (rtc : RTC) {reg : Nat} {val : u8} (known : rtc.registers.get reg = some val) :
    (received rtc reg).getD 0 0 = val ∧ commandLength rtc.regStatus2 reg = 8 := by
  unfold Registers.get at known
  split at known
  · exact ⟨Option.some.inj known,rfl⟩
  · exact ⟨Option.some.inj known,rfl⟩
  · exact ⟨Option.some.inj known,rfl⟩
  · cases known

theorem bufferBits_byte (data : Nat → u8) :
    bufferBits data 8 = (List.range 8).map (data 0).getLsbD := rfl

section

variable {rtc : RTC} (settled : Settled rtc) (tx : Transaction)

include settled

theorem transact_write (writes : ¬Reads tx.command) :
    (rtc.transact tx).1.registers =
        rtc.registers.set (registerOf tx.command) (rtc.data 0 ||| tx.data 0) ∧
      Settled (rtc.transact tx).1 := by
  obtain ⟨core,up⟩ := clocked_commanded tx settled.idle
  have started := core.trans (beginTransfer_write rtc writes)
  have bounds := commandLength_bounds rtc.regStatus2 (registerOf tx.command)
  have transfers := settled.transfers started rfl rfl rfl
  obtain ⟨bitsCount,sent⟩ := clocked_sent writes up (congrArg RTC.cmdStat started) transfers
    (by omega)
  rw [started] at sent
  have ended := transact_core tx sent rfl
  have sizes : ∀ reg, reg ≠ 4 →
      (rtc.decoded tx.command).cmdBitsSize reg = kDefaultCmdBitsSize reg :=
    settled.sizes
  constructor
  · rw [registers_of_core ended]
    refine (rtcSend_registers _).trans ?_
    change rtc.registers.set _ (joined _ _ _ 0) = _
    unfold joined
    rw [Nat.mul_zero,Nat.sub_zero,firstBits_of_le _ bounds.1]
    have data := congrArg RTC.data started
    exact congrArg (fun buffer : Nat → u8 =>
      rtc.registers.set _ (buffer 0 ||| tx.data 0)) data
  · refine settled_of_core ended rfl ?_
    intro reg other
    refine (congrFun (rtcSend_sizes _) reg).trans ?_
    exact setCmdBitsSize_other sizes reg other

theorem transact_read (reads : Reads tx.command) :
    (rtc.transact tx).1.registers = rtc.registers ∧
      (∀ val, rtc.registers.get (registerOf tx.command) = some val →
        (rtc.transact tx).2 = (List.range 8).map val.getLsbD) ∧
      Settled (rtc.transact tx).1 := by
  obtain ⟨core,up⟩ := clocked_commanded tx settled.idle
  have started := core.trans (beginTransfer_read rtc reads)
  have bounds := commandLength_bounds rtc.regStatus2 (registerOf tx.command)
  have transfers := settled.transfers started rfl rfl rfl
  obtain ⟨⟨REG,bitsCount,shown⟩,bits⟩ := clocked_shown tx.dataPulses up
    (congrArg RTC.cmdStat started) transfers (by omega)
  rw [started] at shown
  have ended := transact_core tx shown rfl
  have sizes : ∀ reg, reg ≠ 4 →
      (rtc.decoded tx.command).cmdBitsSize reg = kDefaultCmdBitsSize reg :=
    settled.sizes
  refine ⟨?_,?_,?_⟩
  · rw [registers_of_core ended]
    rfl
  · intro val known
    refine bits.trans ?_
    have data := congrArg RTC.data started
    obtain ⟨byte,length⟩ := received_get rtc known
    rw [length]
    refine (congrArg (bufferBits · 8) data).trans ((bufferBits_byte _).trans ?_)
    rw [← byte]
    rfl
  · exact settled_of_core ended rfl (setCmdBitsSize_other sizes)

end

variable (st : RTC × Registers)

def transacted (tx : Transaction) : RTC × Registers :=
  ((st.1.transact tx).1, st.2.after tx)

/-- After the transaction the registers are what was last written to them, and
a read has shown its register, least significant bit first. -/
def Kept (tx : Transaction) : Prop :=
  (st.1.transact tx).1.registers = st.2.after tx ∧
    (Reads tx.command →
      ∀ val, st.2.get (registerOf tx.command) = some val →
        (st.1.transact tx).2 = (List.range 8).map val.getLsbD)

def Clean (tx : Transaction) : Prop :=
  ¬Reads tx.command →
    registerOf tx.command = 1 ∨ registerOf tx.command = 6 ∨
        registerOf tx.command = 7 →
      st.1.data 0 ||| tx.data 0 = tx.data 0

theorem set_eq_set_iff (regs : Registers) (reg : Nat) (first second : u8) :
    regs.set reg first = regs.set reg second ↔
      (reg = 1 ∨ reg = 6 ∨ reg = 7 → first = second) := by
  unfold Registers.set
  split <;> simp_all

structure Agrees (st : RTC × Registers) : Prop where
  settled : Settled st.1
  registers : st.1.registers = st.2

theorem kept_iff (tx : Transaction) (agrees : Agrees st) : Kept st tx ↔ Clean st tx := by
  unfold Kept Clean Registers.after
  by_cases reads : Reads tx.command
  · obtain ⟨regs,bits,-⟩ := transact_read agrees.settled tx reads
    rw [agrees.registers] at regs bits
    simp only [reads,if_true,regs,true_and,not_true_eq_false,false_implies,iff_true]
    exact fun _ => bits
  · obtain ⟨regs,-⟩ := transact_write agrees.settled tx reads
    rw [agrees.registers] at regs
    simp only [reads,if_false,regs,false_implies,and_true,not_false_eq_true,
      true_implies]
    exact set_eq_set_iff _ _ _ _

theorem agrees_transacted (tx : Transaction) (agrees : Agrees st) (clean : Clean st tx) :
    Agrees (transacted st tx) := by
  refine ⟨?_,((kept_iff st tx agrees).mpr clean).1⟩
  by_cases reads : Reads tx.command
  · exact (transact_read agrees.settled tx reads).2.2
  · exact (transact_write agrees.settled tx reads).2

/-- Over every sequence of transactions from `rtcInit`, the registers keep what
is written to them and reads show it, if and only if every write to one of them
finds the buffer clean. -/
theorem registers_kept_iff (transactions : List Transaction) :
    Run.Guarded transacted Kept (rtcInit, rtcInit.registers) transactions ↔
      Run.Guarded transacted Clean (rtcInit, rtcInit.registers) transactions :=
  Run.guarded_iff_guarded kept_iff agrees_transacted ⟨settled_init,rfl⟩ transactions

def bitPulse (bit : Bool) : Pulse :=
  { low := if bit then 0x75 else 0x74
    highs := [0x76]
    fall := by
      cases bit with
      | true => exact ⟨rfl,rfl,rfl,rfl⟩
      | false => exact ⟨rfl,rfl,rfl,rfl⟩
    rise := by
      intro high member
      rw [List.mem_singleton.mp member]
      exact ⟨rfl,rfl,rfl,rfl⟩
    risen := List.cons_ne_nil _ _ }

theorem bitPulse_sends (bit : Bool) : (bitPulse bit).Sends bit := by
  refine ⟨?_,?_,?_⟩
  · cases bit with
    | true => rfl
    | false => rfl
  · cases bit with
    | true => rfl
    | false => rfl
  · intro high member
    rw [List.mem_singleton.mp member]
    rfl

def Transaction.plain (command v : u8) : Transaction :=
  { command := command
    data := fun _ => v
    released := []
    ready := 0x72
    raise := 0x76
    commandPulses := fun bit => bitPulse (command.getLsbD bit)
    dataPulses := fun bit => bitPulse (v.getLsbD (bit % 8))
    lowered := [0x72]
    releases := by
      intro val member
      exact (List.not_mem_nil member).elim
    readies := ⟨rfl,rfl,rfl,rfl⟩
    selects := ⟨rfl,rfl,rfl,rfl⟩
    commands := fun bit _ => bitPulse_sends _
    sends := fun _ _ => bitPulse_sends _
    lowers := by
      intro val member
      rw [List.mem_singleton.mp member]
      exact ⟨true,rfl,rfl,rfl,rfl⟩ }

/-- The free register is written with 0xFF, then status register 2 with 1. -/
theorem status_joined_with_last_write :
    let first := Transaction.plain 0x76 0xFF
    let second := Transaction.plain 0x46 0x01
    registerOf second.command = 1 ∧ ¬Reads second.command ∧
      ((rtcInit.transact first).1.transact second).1.regStatus2 = 0xFF := by
  decide +kernel

end Desmume.Rtc
