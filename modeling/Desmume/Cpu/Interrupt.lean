/-
Taking an interrupt and returning from it: `armcpu_irqException`,
`armcpu_prefetch` and `OP_SUBS`.

The processor runs with the next instruction already fetched, so between two
instructions `instruct_adr` is the address to come back to and R15 is two
instructions ahead of it.
-/

import Desmume.Cpu.Banks

namespace Desmume.Cpu

namespace Status_Reg

def T (reg : Status_Reg) : u32 := reg >>> 5 &&& 1

def setBit (reg : Status_Reg) (i : Nat) (bit : Bool) : Status_Reg :=
  if bit then reg ||| (1 : u32) <<< i else reg &&& ~~~((1 : u32) <<< i)

end Status_Reg

/-- The processor with the registers of its fetch stage. -/
structure Processor extends armcpu_t where
  instruction : u32
  instruct_adr : u32
  waitIRQ : Bool

def Processor.setR (cpu : Processor) (reg : Fin 16) (val : u32) : Processor :=
  { cpu with toarmcpu_t := Cpu.setR cpu.toarmcpu_t reg val }

def Processor.switchMode (cpu : Processor) (mode : u8) : Processor :=
  { cpu with toarmcpu_t := (armcpu_switchMode cpu.toarmcpu_t mode).1 }

/-- `_MMU_read` at the code access type, and `MMU_codeFetchCycles`. -/
structure CodeMemory where
  read32 : u32 → u32
  read16 : u32 → u16
  codeFetchCycles32 : u32 → u32
  codeFetchCycles16 : u32 → u32

def armcpu_prefetch (PROCNUM : Proc) (code : CodeMemory) (cpu : Processor) : Processor × u32 :=
  let curInstruction := cpu.next_instruction
  if cpu.CPSR.T = 0 then
    let curInstruction := curInstruction &&& 0xFFFFFFFC
    let cpu := { cpu with instruct_adr := curInstruction, next_instruction := curInstruction + 4 }
    let cpu := cpu.setR 15 (curInstruction + 8)
    let cpu := { cpu with instruction := code.read32 curInstruction }
    (cpu, code.codeFetchCycles32 curInstruction)
  else
    let curInstruction := curInstruction &&& 0xFFFFFFFE
    let cpu := { cpu with instruct_adr := curInstruction, next_instruction := curInstruction + 2 }
    let cpu := cpu.setR 15 (curInstruction + 4)
    let cpu := { cpu with instruction := (code.read16 curInstruction).setWidth 32 }
    if PROCNUM = .ARMCPU_ARM9 then
      -- instruct_adr was set just above, so the second test never succeeds
      if ¬(curInstruction = cpu.instruct_adr + 2 ∧ curInstruction &&& 2 ≠ 0) then
        (cpu, code.codeFetchCycles32 curInstruction)
      else (cpu, 0)
    else (cpu, code.codeFetchCycles16 curInstruction)

def width (T : u32) : u32 := if T = 0 then 4 else 2

def addressMask (T : u32) : u32 := if T = 0 then 0xFFFFFFFC else 0xFFFFFFFE

def CodeMemory.instructionAt (code : CodeMemory) (T adr : u32) : u32 :=
  if T = 0 then code.read32 adr else (code.read16 adr).setWidth 32

/-- The state between two instructions: the next one has been fetched. -/
structure Prefetched (code : CodeMemory) (cpu : Processor) : Prop where
  aligned : cpu.instruct_adr &&& addressMask cpu.CPSR.T = cpu.instruct_adr
  next : cpu.next_instruction = cpu.instruct_adr + width cpu.CPSR.T
  pc : cpu.R 15 = cpu.instruct_adr + 2 * width cpu.CPSR.T
  fetched : cpu.instruction = code.instructionAt cpu.CPSR.T cpu.instruct_adr

variable (PROCNUM : Proc)

variable (code : CodeMemory) (i : u32)

theorem prefetch_fst (cpu : Processor) :
    (armcpu_prefetch PROCNUM code cpu).1 =
      let adr := cpu.next_instruction &&& addressMask cpu.CPSR.T
      { cpu.setR 15 (adr + 2 * width cpu.CPSR.T) with
        instruct_adr := adr
        next_instruction := adr + width cpu.CPSR.T
        instruction := code.instructionAt cpu.CPSR.T adr } := by
  unfold armcpu_prefetch addressMask width CodeMemory.instructionAt
  by_cases arm : cpu.CPSR.T = 0
  · simp only [if_pos arm]
    rfl
  · simp only [if_neg arm]
    split
    · split
      · rfl
      · rfl
    · rfl

theorem prefetched_prefetch (cpu : Processor) :
    Prefetched code (armcpu_prefetch PROCNUM code cpu).1 := by
  rw [prefetch_fst]
  constructor
  · change cpu.next_instruction &&& addressMask cpu.CPSR.T &&& addressMask cpu.CPSR.T =
      cpu.next_instruction &&& addressMask cpu.CPSR.T
    rw [BitVec.and_assoc,BitVec.and_self]
  · rfl
  · exact Function.update_self 15 _ cpu.R
  · rfl

theorem prefetch_CPSR (cpu : Processor) : (armcpu_prefetch PROCNUM code cpu).1.CPSR = cpu.CPSR := by
  rw [prefetch_fst]
  rfl

theorem prefetch_aligned (cpu : Processor)
    (aligned : cpu.next_instruction &&& addressMask cpu.CPSR.T = cpu.next_instruction) :
    (armcpu_prefetch PROCNUM code cpu).1.instruct_adr = cpu.next_instruction := by
  rw [prefetch_fst]
  exact aligned

variable {cpu : Processor} {file : RegisterFile}

theorem Models.prefetch (models : Models cpu.toarmcpu_t file) (PROCNUM : Proc) (code : CodeMemory) :
    Models (armcpu_prefetch PROCNUM code cpu).1.toarmcpu_t file := by
  rw [prefetch_fst]
  exact (models.setPC _).setNext _

def armcpu_irqException (PROCNUM : Proc) (code : CodeMemory) (cpu : Processor) : Processor :=
  let tmp := cpu.CPSR
  let cpu := cpu.switchMode (BitVec.ofNat 8 Mode.IRQ.code)
  let cpu := cpu.setR 14 (cpu.instruct_adr + 4)
  let cpu := { cpu with SPSR := tmp }
  let cpu := { cpu with CPSR := cpu.CPSR.clearT.setI }
  let cpu := { cpu with next_instruction := cpu.intVector + 0x18 }
  let cpu := { cpu with waitIRQ := false }
  (armcpu_prefetch PROCNUM code cpu).1

def irqEvents (cpu : Processor) : List Event :=
  [.entered .IRQ,.wrote (.stack .irq 1) (cpu.instruct_adr + 4),.wrote (.spsr .irq) cpu.CPSR]

theorem Models.irqException
    (models : Models cpu.toarmcpu_t file) (PROCNUM : Proc) (code : CodeMemory) :
    Models (armcpu_irqException PROCNUM code cpu).toarmcpu_t (file.applyAll (irqEvents cpu)) := by
  have inMode := models.switchMode .IRQ
  have named : visible Bank.irq 14 = .stack .irq 1 := visible_stack _ 1
  have linked := inMode.writeR 14 (cpu.instruct_adr + 4)
  change Models _ (RegisterFile.apply _ (.wrote (visible .irq 14) _)) at linked
  rw [named] at linked
  have saved := linked.writeSPSR cpu.CPSR
  unfold armcpu_irqException
  apply Models.prefetch
  exact saved.maskIrq.setNext _

def REG_POS (n : Nat) : Fin 16 :=
  ⟨(i >>> n &&& 0xF).toNat,Nat.lt_succ_of_le (by
    rw [BitVec.toNat_and]
    exact Nat.and_le_right)⟩

/-- The source shifts left by 32 where `j` is 0; the hardware takes shift
counts modulo 32. -/
def ROR (j : u32) : u32 := i.rotateRight j.toNat

def IMM_VALUE : u32 := ROR (i &&& 0xFF) (i >>> 7 &&& 0x1E)

def BorrowFrom (left right : u32) : Bool := left < right

def OverflowFromSUB (alu_out left right : u32) : Bool :=
  ((left.msb && !right.msb) || (!left.msb && right.msb)) &&
    ((left.msb && !alu_out.msb) || (!left.msb && alu_out.msb))

def OP_SUBS (cpu : Processor) (i v shift_op a b : u32) : Processor × u32 :=
  let cpu := cpu.setR (REG_POS i 12) (v - shift_op)
  if REG_POS i 12 = 15 then
    let SPSR := cpu.SPSR
    let cpu := cpu.switchMode (BitVec.ofNat 8 SPSR.mode)
    let cpu := { cpu with CPSR := SPSR }
    let cpu := { cpu with toarmcpu_t := changeCPSR cpu.toarmcpu_t }
    let cpu := cpu.setR 15 (cpu.R 15 &&& (0xFFFFFFFC ||| cpu.CPSR.T <<< 1))
    let cpu := { cpu with next_instruction := cpu.R 15 }
    (cpu, b)
  else
    let res := cpu.R (REG_POS i 12)
    let cpu := { cpu with CPSR := cpu.CPSR.setBit 31 res.msb }
    let cpu := { cpu with CPSR := cpu.CPSR.setBit 30 (res == 0) }
    let cpu := { cpu with CPSR := cpu.CPSR.setBit 29 (!BorrowFrom v shift_op) }
    let cpu := { cpu with CPSR := cpu.CPSR.setBit 28 (OverflowFromSUB res v shift_op) }
    (cpu, a)

def OP_SUB_S_IMM_VAL (cpu : Processor) (i : u32) : Processor × u32 :=
  OP_SUBS cpu i (cpu.R (REG_POS i 16)) (IMM_VALUE i) 1 3

theorem T_cases (reg : Status_Reg) : reg.T = 0 ∨ reg.T = 1 := by
  have small : reg.T.toNat ≤ 1 := by
    unfold Status_Reg.T
    rw [BitVec.toNat_and]
    exact Nat.and_le_right
  rcases Nat.le_one_iff_eq_zero_or_eq_one.mp small with clear | set
  · exact Or.inl (BitVec.eq_of_toNat_eq clear)
  · exact Or.inr (BitVec.eq_of_toNat_eq set)

theorem returnMask_eq (reg : Status_Reg) : 0xFFFFFFFC ||| reg.T <<< 1 = addressMask reg.T := by
  rcases T_cases reg with clear | set
  · rw [clear]
    rfl
  · rw [set]
    rfl

/-- An instruction `SUBS PC, LR, #4`, under whatever condition. -/
structure ReturnsFromIrq (i : u32) : Prop where
  Rn : REG_POS i 16 = 14
  Rd : REG_POS i 12 = 15
  immediate : IMM_VALUE i = 4

/-- What the handler leaves when it reaches the return: IRQ mode, and every
register of the file as on entry. The program counter and the flags are its
own. -/
structure HandlerKept (entry handled : Processor) : Prop where
  mode : handled.CPSR.mode = Mode.IRQ.code
  registers : contents .irq handled.toarmcpu_t = contents .irq entry.toarmcpu_t

theorem Models.SUBS_PC
    (models : Models cpu.toarmcpu_t file) {i : u32} (back : ReturnsFromIrq i) (mode : Mode)
    (saved : cpu.SPSR.mode = mode.code) :
    Models (OP_SUB_S_IMM_VAL cpu i).1.toarmcpu_t (file.apply (.entered mode)) := by
  have branch := models.setPC (cpu.R 14 - 4)
  have entered := branch.switchMode mode
  have restored : Models { (armcpu_switchMode (setR cpu.toarmcpu_t 15 (cpu.R 14 - 4))
      (BitVec.ofNat 8 mode.code)).1 with CPSR := cpu.SPSR } (file.apply (.entered mode)) :=
    ⟨saved,entered.cells⟩
  unfold OP_SUB_S_IMM_VAL OP_SUBS
  rw [back.Rn,back.Rd,back.immediate,if_pos rfl]
  apply Models.setNext
  apply Models.setPC
  apply Models.changeCPSR
  rw [← saved] at restored
  exact restored

theorem R15_switchMode (cpu : armcpu_t) (mode : u8) :
    (armcpu_switchMode cpu mode).1.R 15 = cpu.R 15 := by
  have saved (mode : Option Mode) : (saveBank cpu mode).R 15 = cpu.R 15 := by
    cases mode with
    | none => rfl
    | some mode => cases mode <;> rfl
  have loaded (cpu : armcpu_t) (mode : Option Mode) : (loadBank cpu mode).R 15 = cpu.R 15 := by
    cases mode with
    | none => rfl
    | some mode => cases mode <;> rfl
  exact (loaded _ _).trans (saved _)

theorem SUBS_PC_address (cpu : Processor) {i : u32} (back : ReturnsFromIrq i) :
    (OP_SUB_S_IMM_VAL cpu i).1.CPSR = cpu.SPSR ∧
      (OP_SUB_S_IMM_VAL cpu i).1.next_instruction =
        (cpu.R 14 - 4) &&& addressMask cpu.SPSR.T := by
  let entered := (armcpu_switchMode (setR cpu.toarmcpu_t 15 (cpu.R 14 - 4))
    (BitVec.ofNat 8 cpu.SPSR.mode)).1
  have target : entered.R 15 = cpu.R 14 - 4 :=
    (R15_switchMode _ _).trans (Function.update_self 15 _ cpu.R)
  unfold OP_SUB_S_IMM_VAL OP_SUBS
  rw [back.Rn,back.Rd,back.immediate,if_pos rfl]
  constructor
  · rfl
  · change Function.update entered.R 15 (entered.R 15 &&& (0xFFFFFFFC ||| cpu.SPSR.T <<< 1)) 15 = _
    rw [Function.update_self,target,returnMask_eq]

def irqOwned (cell : Cell) : Prop :=
  cell = .stack .irq 1 ∨ cell = .spsr .irq

theorem irqEvents_elsewhere (cpu : Processor) (file : RegisterFile) (cell : Cell)
    (kept : ¬irqOwned cell) : (file.applyAll (irqEvents cpu)).cells cell = file.cells cell := by
  have notLink : cell ≠ .stack .irq 1 := fun link => kept (Or.inl link)
  have notSaved : cell ≠ .spsr .irq := fun saved => kept (Or.inr saved)
  change Function.update (Function.update file.cells _ _) _ _ cell = _
  rw [Function.update_of_ne notSaved,Function.update_of_ne notLink]

theorem contents_spsr {bank : Bank} (banked : bank ≠ .usr) (cpu : armcpu_t) :
    contents bank cpu (.spsr bank) = cpu.SPSR :=
  if_pos ⟨rfl,banked⟩

theorem Mode.bank_ne_irq {mode : Mode} (notIrq : mode ≠ .IRQ) : mode.bank ≠ .irq := by
  cases mode with
  | IRQ => exact absurd rfl notIrq
  | USR | FIQ | SVC | ABT | UND | SYS => nofun

theorem visible_not_irqOwned {bank : Bank} (notIrq : bank ≠ .irq) (reg : Fin 15) :
    ¬irqOwned (visible bank reg) := by
  rcases register_cases reg with ⟨low,rfl⟩ | ⟨middle,rfl⟩ | ⟨stack,rfl⟩
  · rw [visible_low]
    simp [irqOwned]
  · rw [visible_middle]
    simp [irqOwned]
  · rw [visible_stack]
    simp [irqOwned,notIrq]

/-- An interrupt is transparent: from any state between two instructions, in
any mode but IRQ and either instruction set, the entry, a handler that keeps
the registers, and `SUBS PC, LR, #4` with the fetch after it give back CPSR,
R0 to R15, SPSR, all banked registers but R14_irq and SPSR_irq, and the next
instruction. -/
theorem irq_transparent (PROCNUM : Proc) (code codeAfter : CodeMemory) (cpu handled : Processor)
    (mode : Mode) (i : u32) (inMode : cpu.CPSR.mode = mode.code) (notIrq : mode ≠ .IRQ)
    (prefetched : Prefetched code cpu) (returns : ReturnsFromIrq i)
    (kept : HandlerKept (armcpu_irqException PROCNUM code cpu) handled) :
    let back := (armcpu_prefetch PROCNUM codeAfter (OP_SUB_S_IMM_VAL handled i).1).1
    back.CPSR = cpu.CPSR ∧
      (∀ reg, back.R reg = cpu.R reg) ∧
      (mode.bank ≠ .usr → back.SPSR = cpu.SPSR) ∧
      (∀ cell, ¬irqOwned cell →
        contents mode.bank back.toarmcpu_t cell = contents mode.bank cpu.toarmcpu_t cell) ∧
      back.instruct_adr = cpu.instruct_adr ∧
      back.next_instruction = cpu.next_instruction ∧
      Prefetched codeAfter back := by
  intro back
  let file : RegisterFile := { mode := mode, cells := contents mode.bank cpu.toarmcpu_t }
  have interrupted : Models cpu.toarmcpu_t file := ⟨inMode,rfl⟩
  have entered := interrupted.irqException PROCNUM code
  have atReturn : Models handled.toarmcpu_t (file.applyAll (irqEvents cpu)) :=
    ⟨kept.mode,kept.registers.trans entered.cells⟩
  have stored := congrFun atReturn.cells
  have link : handled.R 14 = cpu.instruct_adr + 4 := by
    have linkRegister := contents_visible .irq handled.toarmcpu_t 14
    exact linkRegister.symm.trans (stored (.stack .irq 1))
  have saved : handled.SPSR = cpu.CPSR := stored (.spsr .irq)
  have label : handled.SPSR.mode = mode.code := by
    rw [saved]
    exact inMode
  have returned := (atReturn.SUBS_PC returns mode label).prefetch PROCNUM codeAfter
  have cells (cell : Cell) (elsewhere : ¬irqOwned cell) :
      contents mode.bank back.toarmcpu_t cell = contents mode.bank cpu.toarmcpu_t cell := by
    have carried := congrFun returned.cells cell
    have untouched := irqEvents_elsewhere cpu file cell elsewhere
    exact carried.trans untouched
  obtain ⟨restored,addr⟩ := SUBS_PC_address handled returns
  rw [saved] at restored addr
  have onInstruction : (OP_SUB_S_IMM_VAL handled i).1.next_instruction = cpu.instruct_adr := by
    rw [addr,link,BitVec.add_sub_cancel]
    exact prefetched.aligned
  have CPSR : back.CPSR = cpu.CPSR := (prefetch_CPSR PROCNUM codeAfter _).trans restored
  have instruct_adr : back.instruct_adr = cpu.instruct_adr := by
    rw [← onInstruction]
    apply prefetch_aligned
    rw [onInstruction,restored]
    exact prefetched.aligned
  have refetched : Prefetched codeAfter back := prefetched_prefetch PROCNUM codeAfter _
  refine ⟨CPSR,?_,?_,cells,instruct_adr,?_,refetched⟩
  · intro reg
    cases reg using Fin.lastCases with
    | last =>
        change back.R 15 = cpu.R 15
        rw [refetched.pc,prefetched.pc,CPSR,instruct_adr]
    | cast reg =>
        have same := cells _ (visible_not_irqOwned (Mode.bank_ne_irq notIrq) reg)
        rwa [contents_visible,contents_visible] at same
  · intro banked
    have notOwned : ¬irqOwned (.spsr mode.bank) := by
      simp [irqOwned,Mode.bank_ne_irq notIrq]
    have same := cells _ notOwned
    rwa [contents_spsr banked,contents_spsr banked] at same
  · rw [refetched.next,prefetched.next,CPSR,instruct_adr]

/-- A Thumb program in user mode, interrupted at an address that is not a
multiple of four. -/
theorem irq_transparent_thumb :
    let code : CodeMemory := ⟨fun _ => 0, fun _ => 0, fun _ => 1, fun _ => 1⟩
    let user : armcpu_t :=
      { armcpu_t.initial with
        CPSR := 0x30
        R := fun reg => reg.val
        next_instruction := 0x02000006 }
    let cpu := (armcpu_prefetch .ARMCPU_ARM9 code ⟨user,0,0,false⟩).1
    let handled := armcpu_irqException .ARMCPU_ARM9 code cpu
    let back := (armcpu_prefetch .ARMCPU_ARM9 code (OP_SUB_S_IMM_VAL handled 0xE25EF004).1).1
    back.CPSR = 0x30 ∧ back.R 14 = 14 ∧ back.instruct_adr = 0x02000006 := by
  intro code user cpu handled back
  have interrupted : Prefetched code cpu := prefetched_prefetch _ code _
  have entry : cpu.CPSR = 0x30 := prefetch_CPSR _ code _
  have aligned : (0x02000006 : u32) &&& addressMask (Status_Reg.T 0x30) = 0x02000006 := by decide
  have fetchedAt : cpu.instruct_adr = 0x02000006 := prefetch_aligned _ code _ aligned
  have inUser : cpu.CPSR.mode = Mode.USR.code := by
    rw [entry]
    rfl
  have models : Models cpu.toarmcpu_t ⟨.USR,contents .usr cpu.toarmcpu_t⟩ := ⟨inUser,rfl⟩
  have kept : HandlerKept handled handled := ⟨(models.irqException _ code).mode,rfl⟩
  obtain ⟨CPSR,regs,-,-,instruct_adr,-⟩ :=
    irq_transparent .ARMCPU_ARM9 code code cpu handled .USR 0xE25EF004 inUser nofun interrupted
      ⟨rfl,rfl,rfl⟩ kept
  refine ⟨CPSR.trans entry,(regs 14).trans ?_,instruct_adr.trans fetchedAt⟩
  change (armcpu_prefetch .ARMCPU_ARM9 code ⟨user,0,0,false⟩).1.R 14 = 14
  rw [prefetch_fst]
  rfl

end Desmume.Cpu
