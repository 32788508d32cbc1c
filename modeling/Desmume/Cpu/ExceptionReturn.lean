/-
Block loads that return from an exception.

A block load reads the listed registers from consecutive words into the bank of
the exception mode, the lowest register from the lowest address.
-/

import Desmume.Cpu.BlockLoad

namespace Desmume.Cpu

open Function (update_of_ne update_self)

def rank (i : u32) (reg : Nat) : Nat := (List.range reg).countP (BIT_N i)

/-- The lowest address of a block of `count` words. -/
def lowestAddress (base : u32) (n : Nat) : Addressing → u32
  | .IA => base
  | .IB => base + 4
  | .DA => base - 4 * (n : u32) + 4
  | .DB => base - 4 * (n : u32)

def writtenBack (base : u32) (n : Nat) : Addressing → u32
  | .IA | .IB => base + 4 * (n : u32)
  | .DA | .DB => base - 4 * (n : u32)

def wordAddress (i base : u32) (mode : Addressing) (reg : Nat) : u32 :=
  lowestAddress base (rank i 16) mode + 4 * (rank i reg : u32)

section

variable (READ32 : u32 → u32) (i : u32) (mode : Addressing) (writesBack : Bool)

def loaded (cpu : armcpu_t) : armcpu_t :=
  { cpu with
    R := fun reg =>
      if BIT_N i reg then READ32 (wordAddress i (cpu.R (REG_POS i 16)) mode reg)
      else if writesBack ∧ reg = REG_POS i 16 then
        writtenBack (cpu.R (REG_POS i 16)) (rank i 16) mode
      else cpu.R reg }

/-- The word loaded for R15, as an address of an instruction. -/
def returnAddress (cpu : armcpu_t) : u32 :=
  let word := READ32 (wordAddress i (cpu.R (REG_POS i 16)) mode 15)
  if cpu.SPSR.getLsbD 5 then word &&& 0xFFFFFFFE else word &&& 0xFFFFFFFC

/-- CPSR is the old SPSR, every register of every bank is what it was in the
exception mode after the loads, and execution goes on at the loaded address. -/
structure Returns (old target : Mode) (cpu final : armcpu_t) : Prop where
  status : final.CPSR = cpu.SPSR
  banks : contents target.bank final = contents old.bank (loaded READ32 i mode writesBack cpu)
  continues : prefetchAddress final = returnAddress READ32 i mode cpu

end

def setsStatusFirst : Addressing → (writesBack : Bool) → Bool
  | .IA, _ => false
  | .IB, writesBack => writesBack
  | .DA, writesBack => !writesBack
  | .DB, _ => true

section

variable (READ32 : u32 → u32) (i before after : u32)

def listedIn (regs : List (Fin 15)) : Nat := regs.countP fun reg : Fin 15 => BIT_N i reg

variable (regs : List (Fin 15))

theorem foldl_OP_L_start (cpu : armcpu_t) (start : u32) :
    (regs.foldl (OP_L READ32 i before after) (cpu, start)).2 =
      start + (before + after) * (listedIn i regs : u32) := by
  induction regs generalizing cpu start with
  | nil => simp [listedIn]
  | cons reg rest ih =>
      rw [List.foldl_cons,OP_L]
      by_cases present : BIT_N i reg = true
      · have counted : listedIn i (reg :: rest) = listedIn i rest + 1 :=
          List.countP_cons_of_pos present
        rw [if_pos present,ih,counted,Nat.cast_succ]
        ring
      · have counted : listedIn i (reg :: rest) = listedIn i rest :=
          List.countP_cons_of_neg present
        rw [if_neg present,ih,counted]

theorem foldl_OP_L_frame (cpu : armcpu_t) (start : u32) :
    (regs.foldl (OP_L READ32 i before after) (cpu, start)).1 =
      { cpu with R := (regs.foldl (OP_L READ32 i before after) (cpu, start)).1.R } := by
  induction regs generalizing cpu start with
  | nil => rfl
  | cons reg rest ih =>
      rw [List.foldl_cons,OP_L]
      by_cases present : BIT_N i reg = true
      · rw [if_pos present,ih]
        rfl
      · rw [if_neg present,ih]

theorem foldl_OP_L_other (cpu : armcpu_t) (start : u32) (reg : Fin 16)
    (absent : ∀ other, other ∈ regs → reg ≠ other.castSucc) :
    (regs.foldl (OP_L READ32 i before after) (cpu, start)).1.R reg = cpu.R reg := by
  induction regs generalizing cpu start with
  | nil => rfl
  | cons first rest ih =>
      have later := fun other member => absent other (List.mem_cons_of_mem first member)
      rw [List.foldl_cons,OP_L]
      by_cases present : BIT_N i first = true
      · rw [if_pos present,ih _ _ later]
        exact update_of_ne (absent first List.mem_cons_self) _ _
      · rw [if_neg present,ih _ _ later]

theorem foldl_OP_L_turn (first last : List (Fin 15)) (reg : Fin 15)
    (once : reg ∉ first ∧ reg ∉ last) (cpu : armcpu_t) (start : u32) :
    ((first ++ reg :: last).foldl (OP_L READ32 i before after) (cpu, start)).1.R reg.castSucc =
      if BIT_N i reg then READ32 (start + (before + after) * (listedIn i first : u32) + before)
      else cpu.R reg.castSucc := by
  have distinct (regs : List (Fin 15)) (absent : reg ∉ regs) (other : Fin 15)
      (member : other ∈ regs) : reg.castSucc ≠ other.castSucc := by
    intro same
    rw [Fin.castSucc_injective _ same] at absent
    exact absent member
  have addr := foldl_OP_L_start READ32 i before after first cpu start
  have kept := foldl_OP_L_other READ32 i before after first cpu start reg.castSucc
    (distinct first once.1)
  rw [List.foldl_append,List.foldl_cons]
  rw [foldl_OP_L_other READ32 i before after last _ _ reg.castSucc (distinct last once.2),OP_L]
  by_cases present : BIT_N i reg = true
  · rw [if_pos present,if_pos present,addr]
    exact update_self _ _ _
  · rw [if_neg present,if_neg present,kept]

end

theorem upwards_split (reg : Fin 15) :
    upwards = upwards.take reg ++ reg :: upwards.drop (reg + 1) := by
  fin_cases reg <;> rfl

theorem downwards_split (reg : Fin 15) :
    downwards = (upwards.drop (reg + 1)).reverse ++ reg :: (upwards.take reg).reverse := by
  fin_cases reg <;> rfl

theorem upwards_once (reg : Fin 15) : reg ∉ upwards.take reg ∧ reg ∉ upwards.drop (reg + 1) := by
  fin_cases reg <;> decide

theorem listedIn_take (i : u32) (reg : Fin 15) : listedIn i (upwards.take reg) = rank i reg := by
  have values : (upwards.take reg).map Fin.val = List.range reg := by
    fin_cases reg <;> rfl
  rw [rank,← values,List.countP_map]
  rfl

theorem listedIn_upwards (i : u32) : listedIn i upwards = rank i 15 := by
  have values : upwards.map Fin.val = List.range 15 := rfl
  rw [rank,← values,List.countP_map]
  rfl

theorem listedIn_reverse (i : u32) (regs : List (Fin 15)) :
    listedIn i regs.reverse = listedIn i regs :=
  List.countP_reverse

theorem listedIn_drop (i : u32) (reg : Fin 15) (present : BIT_N i reg = true) :
    rank i reg + 1 + listedIn i (upwards.drop (reg + 1)) = rank i 15 := by
  have whole := listedIn_upwards i
  have counted : listedIn i (reg :: upwards.drop (reg + 1)) =
      listedIn i (upwards.drop (reg + 1)) + 1 := List.countP_cons_of_pos present
  have split : listedIn i upwards =
      listedIn i (upwards.take reg) + listedIn i (reg :: upwards.drop (reg + 1)) := by
    conv_lhs => rw [upwards_split reg]
    exact List.countP_append
  rw [← listedIn_take]
  omega

theorem rank_all (i : u32) (present : BIT15 i = true) : rank i 16 = rank i 15 + 1 := by
  rw [rank,List.range_succ,List.countP_append]
  exact congrArg _ (List.countP_cons_of_pos present)

section

variable (READ32 : u32 → u32) (i : u32) (cpu : armcpu_t) (base : u32) (reg : Fin 15)

theorem loads_IA :
    (upwards.foldl (OP_L_IA READ32 i) (cpu, base)).1.R reg.castSucc =
      if BIT_N i reg then READ32 (wordAddress i base .IA reg) else cpu.R reg.castSucc := by
  have turn := foldl_OP_L_turn READ32 i 0 4 _ _ reg (upwards_once reg) cpu base
  rw [← upwards_split,listedIn_take] at turn
  rw [OP_L_IA,turn,wordAddress,lowestAddress,zero_add,add_zero]

theorem loads_IB :
    (upwards.foldl (OP_L_IB READ32 i) (cpu, base)).1.R reg.castSucc =
      if BIT_N i reg then READ32 (wordAddress i base .IB reg) else cpu.R reg.castSucc := by
  have turn := foldl_OP_L_turn READ32 i 4 0 _ _ reg (upwards_once reg) cpu base
  rw [← upwards_split,listedIn_take] at turn
  rw [OP_L_IB,turn,wordAddress,lowestAddress,add_zero,add_right_comm]

theorem downwards_once :
    reg ∉ (upwards.drop (reg + 1)).reverse ∧ reg ∉ (upwards.take reg).reverse := by
  rw [List.mem_reverse,List.mem_reverse]
  exact (upwards_once reg).symm

variable (returns : BIT15 i = true)

include returns

theorem loads_downwards (before after : u32) (step : before + after = -4) :
    (downwards.foldl (OP_L READ32 i before after) (cpu, base - 4)).1.R reg.castSucc =
      if BIT_N i reg then
        READ32 (base - 4 * (rank i 16 : u32) + 4 + 4 * (rank i reg : u32) + before)
      else cpu.R reg.castSucc := by
  have turn := foldl_OP_L_turn READ32 i before after _ _ reg (downwards_once reg) cpu (base - 4)
  rw [← downwards_split,listedIn_reverse,step] at turn
  rw [turn]
  by_cases present : BIT_N i reg = true
  · have counted := listedIn_drop i reg present
    have addr : base - 4 + -4 * (listedIn i (upwards.drop (reg + 1)) : u32) =
        base - 4 * (rank i 16 : u32) + 4 + 4 * (rank i reg : u32) := by
      rw [rank_all i returns,← counted,Nat.cast_succ,Nat.cast_add,Nat.cast_succ]
      ring
    rw [if_pos present,if_pos present,addr]
  · rw [if_neg present,if_neg present]

theorem loads_DA :
    (downwards.foldl (OP_L_DA READ32 i) (cpu, base - 4)).1.R reg.castSucc =
      if BIT_N i reg then READ32 (wordAddress i base .DA reg) else cpu.R reg.castSucc := by
  rw [OP_L_DA,loads_downwards READ32 i cpu base reg returns 0 (-4) rfl,add_zero,wordAddress,
    lowestAddress]

theorem loads_DB :
    (downwards.foldl (OP_L_DB READ32 i) (cpu, base - 4)).1.R reg.castSucc =
      if BIT_N i reg then READ32 (wordAddress i base .DB reg) else cpu.R reg.castSucc := by
  have lower : base - 4 * (rank i 16 : u32) + 4 + 4 * (rank i reg : u32) + -4 =
      base - 4 * (rank i 16 : u32) + 4 * (rank i reg : u32) := by ring
  rw [OP_L_DB,loads_downwards READ32 i cpu base reg returns (-4) 0 rfl,lower,wordAddress,
    lowestAddress]

theorem wordAddress_DA_pc : wordAddress i base .DA 15 = base := by
  rw [wordAddress,lowestAddress,rank_all i returns,Nat.cast_succ]
  ring

theorem wordAddress_DB_pc : wordAddress i base .DB 15 = base - 4 := by
  rw [wordAddress,lowestAddress,rank_all i returns,Nat.cast_succ]
  ring

theorem writtenBack_upwards : base + 4 * (rank i 15 : u32) + 4 = base + 4 * (rank i 16 : u32) := by
  rw [rank_all i returns,Nat.cast_succ]
  ring

theorem writtenBack_downwards :
    base - 4 - 4 * (rank i 15 : u32) = base - 4 * (rank i 16 : u32) := by
  rw [rank_all i returns,Nat.cast_succ]
  ring

end

theorem writeBack_R (i : u32) (cpu : armcpu_t) (start : u32) (reg : Fin 16) :
    (writeBack i cpu start).R reg =
      if BIT_N i (REG_POS i 16) = false ∧ reg = REG_POS i 16 then start else cpu.R reg := by
  unfold writeBack
  by_cases present : BIT_N i (REG_POS i 16) = true
  · rw [if_pos present,if_neg (fun both => by rw [present] at both; cases both.1)]
  · rw [if_neg present]
    by_cases base : reg = REG_POS i 16
    · rw [if_pos ⟨(Bool.not_eq_true _).mp present,base⟩,base]
      exact update_self _ _ _
    · rw [if_neg (fun both => base both.2)]
      exact update_of_ne base _ _

theorem writeBack_frame (i : u32) (cpu : armcpu_t) (start : u32) :
    writeBack i cpu start = { cpu with R := (writeBack i cpu start).R } := by
  unfold writeBack
  split <;> rfl

def SameBanks (before after : armcpu_t) : Prop :=
  after =
    { before with
      R := after.R
      CPSR := after.CPSR
      next_instruction := after.next_instruction
      reschedule := after.reschedule }

theorem SameBanks.trans {first second third : armcpu_t} (start : SameBanks first second)
    (last : SameBanks second third) : SameBanks first third := by
  unfold SameBanks at last
  rw [start] at last
  exact last

theorem SameBanks.SPSR {before after : armcpu_t} (same : SameBanks before after) :
    after.SPSR = before.SPSR := by
  rw [same]

theorem sameBanks_loads (READ32 : u32 → u32) (i before after : u32) (regs : List (Fin 15))
    (cpu : armcpu_t) (start : u32) :
    SameBanks cpu (regs.foldl (OP_L READ32 i before after) (cpu, start)).1 := by
  unfold SameBanks
  rw [foldl_OP_L_frame]

theorem sameBanks_writeBack (i : u32) (cpu : armcpu_t) (start : u32) :
    SameBanks cpu (writeBack i cpu start) := by
  unfold SameBanks
  rw [writeBack_frame]

theorem sameBanks_loadPC (READ32 : u32 → u32) (cpu : armcpu_t) (start : u32) :
    SameBanks cpu (loadPC READ32 cpu start) := rfl

theorem sameBanks_takeSPSR (cpu : armcpu_t) : SameBanks cpu (takeSPSR cpu) := rfl

theorem sameBanks_setNext (cpu : armcpu_t) : SameBanks cpu (setNext cpu) := rfl

/-- The registers below R15 are loaded. -/
structure Prepared (READ32 : u32 → u32) (i : u32) (mode : Addressing) (writesBack : Bool)
    (cpu prepared : armcpu_t) : Prop where
  registers : ∀ reg : Fin 15, prepared.R reg.castSucc =
    (loaded READ32 i mode writesBack cpu).R reg.castSucc
  banks : SameBanks cpu prepared

theorem contents_of_R (current : Bank) {left right : armcpu_t}
    (registers : ∀ reg : Fin 15, left.R reg.castSucc = right.R reg.castSucc)
    (banks : SameBanks right left) : contents current left = contents current right := by
  funext cell
  cases cell with
  | low reg => exact registers (lowIndex reg)
  | middle fiq reg =>
      simp only [contents,registers]
      rw [banks]
      rfl
  | stack bank reg =>
      simp only [contents,registers]
      rw [banks]
      rfl
  | spsr bank =>
      rw [banks]
      rfl

theorem contents_leaveException (cpu : armcpu_t) (current target : Mode)
    (inMode : cpu.CPSR.mode = current.code) (spsr : cpu.SPSR.mode = target.code) :
    contents target.bank (leaveException cpu) = contents current.bank cpu := by
  have switched := (contents_switchMode cpu current target inMode).2
  rw [← spsr] at switched
  exact switched

section

variable (READ32 : u32 → u32) (i : u32) (cpu : armcpu_t) (start : u32)

theorem loadPC_R (reg : Fin 15) : (loadPC READ32 cpu start).R reg.castSucc = cpu.R reg.castSucc :=
  update_of_ne (Fin.castSucc_lt_last reg).ne _ _

@[simp] theorem loadPC_R15 : (loadPC READ32 cpu start).R 15 = maskPC (READ32 start) := by
  simp only [loadPC,setR,update_self]

@[simp] theorem loadPC_CPSR : (loadPC READ32 cpu start).CPSR = cpu.CPSR := rfl

@[simp] theorem loadPC_SPSR : (loadPC READ32 cpu start).SPSR = cpu.SPSR := rfl

@[simp] theorem takeSPSR_R : (takeSPSR cpu).R = cpu.R := rfl

@[simp] theorem takeSPSR_CPSR : (takeSPSR cpu).CPSR = cpu.SPSR := rfl

@[simp] theorem setNext_R : (setNext cpu).R = cpu.R := rfl

@[simp] theorem setNext_CPSR : (setNext cpu).CPSR = cpu.CPSR := rfl

@[simp] theorem setNext_next : (setNext cpu).next_instruction = cpu.R 15 := rfl

@[simp] theorem writeBack_CPSR : (writeBack i cpu start).CPSR = cpu.CPSR := by
  rw [writeBack_frame]

@[simp] theorem writeBack_SPSR : (writeBack i cpu start).SPSR = cpu.SPSR :=
  (sameBanks_writeBack i cpu start).SPSR

@[simp] theorem writeBack_next :
    (writeBack i cpu start).next_instruction = cpu.next_instruction := by
  rw [writeBack_frame]

variable (before after : u32) (regs : List (Fin 15))

@[simp] theorem loads_CPSR :
    (regs.foldl (OP_L READ32 i before after) (cpu, start)).1.CPSR = cpu.CPSR := by
  rw [foldl_OP_L_frame]

@[simp] theorem loads_SPSR :
    (regs.foldl (OP_L READ32 i before after) (cpu, start)).1.SPSR = cpu.SPSR :=
  (sameBanks_loads READ32 i before after regs cpu start).SPSR

@[simp] theorem loads_next :
    (regs.foldl (OP_L READ32 i before after) (cpu, start)).1.next_instruction =
      cpu.next_instruction := by
  rw [foldl_OP_L_frame]

theorem start_upwards (step : before + after = 4) :
    (upwards.foldl (OP_L READ32 i before after) (cpu, start)).2 =
      start + 4 * (rank i 15 : u32) := by
  rw [foldl_OP_L_start,step,listedIn_upwards]

theorem start_downwards (step : before + after = -4) :
    (downwards.foldl (OP_L READ32 i before after) (cpu, start)).2 =
      start - 4 * (rank i 15 : u32) := by
  have same : listedIn i downwards = rank i 15 :=
    (listedIn_reverse i upwards).trans (listedIn_upwards i)
  rw [foldl_OP_L_start,step,same]
  ring

@[simp] theorem leaveException_R15 : (leaveException cpu).R 15 = cpu.R 15 :=
  R15_switchMode cpu (BitVec.ofNat 8 cpu.SPSR.mode)

@[simp] theorem leaveException_next :
    (leaveException cpu).next_instruction = cpu.next_instruction :=
  next_instruction_switchMode cpu (BitVec.ofNat 8 cpu.SPSR.mode)

end

/-- The last steps of a handler, from the state in which the mode is switched. -/
structure Leaves (READ32 : u32 → u32) (i : u32) (mode : Addressing) (writesBack : Bool)
    (cpu last final : armcpu_t) : Prop where
  prepared : Prepared READ32 i mode writesBack cpu last
  status : last.CPSR = if setsStatusFirst mode writesBack then cpu.SPSR else cpu.CPSR
  leaves : final = leaveException last ∨ final = setNext (leaveException last)
  next : final.next_instruction = maskPC (READ32 (wordAddress i (cpu.R (REG_POS i 16)) mode 15))

section

variable (READ32 : u32 → u32) (i : u32) (cpu : armcpu_t) (mode : Addressing)

theorem loaded_plain (reg : Fin 15) :
    (loaded READ32 i mode false cpu).R reg.castSucc =
      if BIT_N i reg then READ32 (wordAddress i (cpu.R (REG_POS i 16)) mode reg)
      else cpu.R reg.castSucc := by
  simp [loaded]

theorem loaded_writeBack (kept : BIT_N i (REG_POS i 16) = false) {cpu' : armcpu_t} (start : u32)
    (written : start = writtenBack (cpu.R (REG_POS i 16)) (rank i 16) mode) (reg : Fin 15)
    (registers : cpu'.R reg.castSucc =
      if BIT_N i reg then READ32 (wordAddress i (cpu.R (REG_POS i 16)) mode reg)
      else cpu.R reg.castSucc) :
    (writeBack i cpu' start).R reg.castSucc =
      (loaded READ32 i mode true cpu).R reg.castSucc := by
  rw [writeBack_R,registers,written]
  by_cases base : reg.castSucc = REG_POS i 16
  · simp [loaded,base,kept]
  · simp [loaded,base]

variable (returns : BIT15 i = true)

include returns

theorem hasPC : ¬ BIT15 i = false := by
  rw [returns]
  exact Bool.noConfusion

theorem OP_LDMIA2_leaves : ∃ last, Leaves READ32 i .IA false cpu last (OP_LDMIA2 READ32 i cpu) := by
  have addr := start_upwards READ32 i cpu (cpu.R (REG_POS i 16)) 0 4 rfl
  have run : OP_LDMIA2 READ32 i cpu =
      setNext (leaveException (loadPC READ32
        (upwards.foldl (OP_L READ32 i 0 4) (cpu, cpu.R (REG_POS i 16))).1
        (upwards.foldl (OP_L READ32 i 0 4) (cpu, cpu.R (REG_POS i 16))).2)) :=
    if_neg (hasPC i returns)
  refine ⟨_,⟨?_,?_⟩,?_,Or.inr run,?_⟩
  · intro reg
    rw [loadPC_R,loaded_plain]
    exact loads_IA READ32 i cpu _ reg
  · exact (sameBanks_loads READ32 i 0 4 upwards cpu _).trans (sameBanks_loadPC READ32 _ _)
  · simp [setsStatusFirst]
  · rw [run,setNext_next,leaveException_R15,loadPC_R15,addr,wordAddress,lowestAddress]

theorem OP_LDMIB2_leaves : ∃ last, Leaves READ32 i .IB false cpu last (OP_LDMIB2 READ32 i cpu) := by
  have addr := start_upwards READ32 i cpu (cpu.R (REG_POS i 16)) 4 0 rfl
  have run : OP_LDMIB2 READ32 i cpu =
      setNext (leaveException (loadPC READ32
        (upwards.foldl (OP_L READ32 i 4 0) (cpu, cpu.R (REG_POS i 16))).1
        ((upwards.foldl (OP_L READ32 i 4 0) (cpu, cpu.R (REG_POS i 16))).2 + 4))) :=
    if_neg (hasPC i returns)
  refine ⟨_,⟨?_,?_⟩,?_,Or.inr run,?_⟩
  · intro reg
    rw [loadPC_R,loaded_plain]
    exact loads_IB READ32 i cpu _ reg
  · exact (sameBanks_loads READ32 i 4 0 upwards cpu _).trans (sameBanks_loadPC READ32 _ _)
  · simp [setsStatusFirst]
  · rw [run,setNext_next,leaveException_R15,loadPC_R15,addr,wordAddress,lowestAddress,
      add_right_comm]

theorem OP_LDMDA2_leaves : ∃ last, Leaves READ32 i .DA false cpu last (OP_LDMDA2 READ32 i cpu) := by
  let entered := setNext (takeSPSR (loadPC READ32 cpu (cpu.R (REG_POS i 16))))
  have run : OP_LDMDA2 READ32 i cpu =
      leaveException
        (downwards.foldl (OP_L READ32 i 0 (-4)) (entered, cpu.R (REG_POS i 16) - 4)).1 :=
    if_neg (hasPC i returns)
  refine ⟨_,⟨?_,?_⟩,?_,Or.inl run,?_⟩
  · intro reg
    rw [loaded_plain,← loadPC_R READ32 cpu (cpu.R (REG_POS i 16)) reg]
    exact loads_DA READ32 i entered _ reg returns
  · exact ((sameBanks_loadPC READ32 cpu _).trans ((sameBanks_takeSPSR _).trans
      (sameBanks_setNext _))).trans (sameBanks_loads READ32 i 0 (-4) downwards entered _)
  · simp [setsStatusFirst,entered]
  · simp [run,entered,wordAddress_DA_pc i _ returns]

theorem OP_LDMDB2_leaves : ∃ last, Leaves READ32 i .DB false cpu last (OP_LDMDB2 READ32 i cpu) := by
  let entered := setNext (takeSPSR (loadPC READ32 cpu (cpu.R (REG_POS i 16) - 4)))
  have run : OP_LDMDB2 READ32 i cpu =
      leaveException
        (downwards.foldl (OP_L READ32 i (-4) 0) (entered, cpu.R (REG_POS i 16) - 4)).1 :=
    if_neg (hasPC i returns)
  refine ⟨_,⟨?_,?_⟩,?_,Or.inl run,?_⟩
  · intro reg
    rw [loaded_plain,← loadPC_R READ32 cpu (cpu.R (REG_POS i 16) - 4) reg]
    exact loads_DB READ32 i entered _ reg returns
  · exact ((sameBanks_loadPC READ32 cpu _).trans ((sameBanks_takeSPSR _).trans
      (sameBanks_setNext _))).trans (sameBanks_loads READ32 i (-4) 0 downwards entered _)
  · simp [setsStatusFirst,entered]
  · simp [run,entered,wordAddress_DB_pc i _ returns]

variable (kept : BIT_N i (REG_POS i 16) = false)

include kept

theorem OP_LDMIA2_W_leaves :
    ∃ last, Leaves READ32 i .IA true cpu last (OP_LDMIA2_W READ32 i cpu) := by
  let lifted := upwards.foldl (OP_L READ32 i 0 4) (cpu, cpu.R (REG_POS i 16))
  have addr : lifted.2 = _ := start_upwards READ32 i cpu (cpu.R (REG_POS i 16)) 0 4 rfl
  have run : OP_LDMIA2_W READ32 i cpu =
      setNext (leaveException (loadPC READ32 (writeBack i lifted.1 (lifted.2 + 4)) lifted.2)) :=
    if_neg (hasPC i returns)
  refine ⟨_,⟨?_,?_⟩,?_,Or.inr run,?_⟩
  · intro reg
    have written : lifted.2 + 4 = writtenBack (cpu.R (REG_POS i 16)) (rank i 16) .IA := by
      rw [addr,writtenBack_upwards i _ returns,writtenBack]
    rw [loadPC_R]
    exact loaded_writeBack READ32 i cpu .IA kept _ written reg (loads_IA READ32 i cpu _ reg)
  · exact (sameBanks_loads READ32 i 0 4 upwards cpu _).trans
      ((sameBanks_writeBack i _ _).trans (sameBanks_loadPC READ32 _ _))
  · simp [setsStatusFirst,lifted]
  · rw [run,setNext_next,leaveException_R15,loadPC_R15,addr,wordAddress,lowestAddress]

theorem OP_LDMIB2_W_leaves :
    ∃ last, Leaves READ32 i .IB true cpu last (OP_LDMIB2_W READ32 i cpu) := by
  let lifted := upwards.foldl (OP_L READ32 i 4 0) (cpu, cpu.R (REG_POS i 16))
  have addr : lifted.2 = _ := start_upwards READ32 i cpu (cpu.R (REG_POS i 16)) 4 0 rfl
  have run : OP_LDMIB2_W READ32 i cpu =
      leaveException (setNext (takeSPSR (loadPC READ32
        (writeBack i lifted.1 (lifted.2 + 4)) (lifted.2 + 4)))) :=
    if_neg (hasPC i returns)
  refine ⟨_,⟨?_,?_⟩,?_,Or.inl run,?_⟩
  · intro reg
    have written : lifted.2 + 4 = writtenBack (cpu.R (REG_POS i 16)) (rank i 16) .IB := by
      rw [addr,writtenBack_upwards i _ returns,writtenBack]
    rw [setNext_R,takeSPSR_R,loadPC_R]
    exact loaded_writeBack READ32 i cpu .IB kept _ written reg (loads_IB READ32 i cpu _ reg)
  · exact (sameBanks_loads READ32 i 4 0 upwards cpu _).trans
      ((sameBanks_writeBack i _ _).trans ((sameBanks_loadPC READ32 _ _).trans
        ((sameBanks_takeSPSR _).trans (sameBanks_setNext _))))
  · simp [setsStatusFirst,lifted]
  · rw [run,leaveException_next,setNext_next,takeSPSR_R,loadPC_R15,addr,wordAddress,
      lowestAddress,add_right_comm]

theorem OP_LDMDA2_W_leaves :
    ∃ last, Leaves READ32 i .DA true cpu last (OP_LDMDA2_W READ32 i cpu) := by
  let entered := setNext (loadPC READ32 cpu (cpu.R (REG_POS i 16)))
  let lifted := downwards.foldl (OP_L READ32 i 0 (-4)) (entered, cpu.R (REG_POS i 16) - 4)
  have addr : lifted.2 = _ :=
    start_downwards READ32 i entered (cpu.R (REG_POS i 16) - 4) 0 (-4) rfl
  have run : OP_LDMDA2_W READ32 i cpu = leaveException (writeBack i lifted.1 lifted.2) :=
    if_neg (hasPC i returns)
  refine ⟨_,⟨?_,?_⟩,?_,Or.inl run,?_⟩
  · intro reg
    have written : lifted.2 = writtenBack (cpu.R (REG_POS i 16)) (rank i 16) .DA := by
      rw [addr,writtenBack_downwards i _ returns,writtenBack]
    have words := loads_DA READ32 i entered (cpu.R (REG_POS i 16)) reg returns
    rw [show entered.R reg.castSucc = cpu.R reg.castSucc from loadPC_R READ32 cpu _ reg] at words
    exact loaded_writeBack READ32 i cpu .DA kept _ written reg words
  · exact ((sameBanks_loadPC READ32 cpu _).trans (sameBanks_setNext _)).trans
      ((sameBanks_loads READ32 i 0 (-4) downwards entered _).trans (sameBanks_writeBack i _ _))
  · simp [setsStatusFirst,lifted,entered]
  · simp [run,lifted,entered,wordAddress_DA_pc i _ returns]

theorem OP_LDMDB2_W_leaves :
    ∃ last, Leaves READ32 i .DB true cpu last (OP_LDMDB2_W READ32 i cpu) := by
  let entered := setNext (takeSPSR (loadPC READ32 cpu (cpu.R (REG_POS i 16) - 4)))
  let lifted := downwards.foldl (OP_L READ32 i (-4) 0) (entered, cpu.R (REG_POS i 16) - 4)
  have addr : lifted.2 = _ :=
    start_downwards READ32 i entered (cpu.R (REG_POS i 16) - 4) (-4) 0 rfl
  have run : OP_LDMDB2_W READ32 i cpu = leaveException (writeBack i lifted.1 lifted.2) :=
    if_neg (hasPC i returns)
  refine ⟨_,⟨?_,?_⟩,?_,Or.inl run,?_⟩
  · intro reg
    have written : lifted.2 = writtenBack (cpu.R (REG_POS i 16)) (rank i 16) .DB := by
      rw [addr,writtenBack_downwards i _ returns,writtenBack]
    have words := loads_DB READ32 i entered (cpu.R (REG_POS i 16)) reg returns
    rw [show entered.R reg.castSucc = cpu.R reg.castSucc from loadPC_R READ32 cpu _ reg] at words
    exact loaded_writeBack READ32 i cpu .DB kept _ written reg words
  · exact ((sameBanks_loadPC READ32 cpu _).trans ((sameBanks_takeSPSR _).trans
      (sameBanks_setNext _))).trans
      ((sameBanks_loads READ32 i (-4) 0 downwards entered _).trans (sameBanks_writeBack i _ _))
  · simp [setsStatusFirst,lifted,entered]
  · simp [run,lifted,entered,wordAddress_DB_pc i _ returns]

end

theorem LDM2_leaves (READ32 : u32 → u32) (i : u32) (mode : Addressing) (writesBack : Bool)
    (cpu : armcpu_t) (returns : BIT15 i = true)
    (kept : writesBack = true → BIT_N i (REG_POS i 16) = false) :
    ∃ last, Leaves READ32 i mode writesBack cpu last (LDM2 READ32 i mode writesBack cpu) := by
  cases writesBack with
  | false =>
      cases mode with
      | IA => exact OP_LDMIA2_leaves READ32 i cpu returns
      | IB => exact OP_LDMIB2_leaves READ32 i cpu returns
      | DA => exact OP_LDMDA2_leaves READ32 i cpu returns
      | DB => exact OP_LDMDB2_leaves READ32 i cpu returns
  | true =>
      cases mode with
      | IA => exact OP_LDMIA2_W_leaves READ32 i cpu returns (kept rfl)
      | IB => exact OP_LDMIB2_W_leaves READ32 i cpu returns (kept rfl)
      | DA => exact OP_LDMDA2_W_leaves READ32 i cpu returns (kept rfl)
      | DB => exact OP_LDMDB2_W_leaves READ32 i cpu returns (kept rfl)

/-! ### When a handler returns from the exception -/

theorem maskPC_fetched (word : u32) :
    maskPC word &&& 0xFFFFFFFC = word &&& 0xFFFFFFFC ∧
    (maskPC word &&& 0xFFFFFFFE = word &&& 0xFFFFFFFE ↔
      word.getLsbD 0 = true ∨ word.getLsbD 1 = false) := by
  have low : word &&& 1 = (BitVec.ofBool (word.getLsbD 0)).setWidth 32 :=
    BitVec.and_one_eq_setWidth_ofBool_getLsbD
  cases odd : word.getLsbD 0 with
  | true =>
      rw [odd] at low
      have mask : maskPC word = word &&& 0xFFFFFFFE := by
        rw [maskPC,low]
        rfl
      rw [mask,BitVec.and_assoc,BitVec.and_assoc]
      exact ⟨rfl,iff_of_true rfl (Or.inl rfl)⟩
  | false =>
      rw [odd] at low
      have mask : maskPC word = word &&& 0xFFFFFFFC := by
        rw [maskPC,low]
        rfl
      rw [mask,BitVec.and_assoc,BitVec.and_assoc]
      refine ⟨rfl,?_⟩
      change word &&& 0xFFFFFFFC = word &&& 0xFFFFFFFE ↔ _
      constructor
      · intro same
        have bit := congrArg (fun bits => bits.getLsbD 1) same
        simpa using bit
      · intro even
        have clear : word.getLsbD 1 = false := even.resolve_left Bool.false_ne_true
        apply BitVec.eq_of_getLsbD_eq
        intro idx inside
        rw [BitVec.getLsbD_and,BitVec.getLsbD_and]
        by_cases one : idx = 1
        · rw [one,clear,Bool.false_and,Bool.false_and]
        · congr 1
          interval_cases idx <;> first | rfl | exact absurd rfl one

variable {READ32 : u32 → u32} {i : u32} {mode : Addressing} {writesBack : Bool}
  {cpu last final : armcpu_t}

theorem Leaves.contents (leaves : Leaves READ32 i mode writesBack cpu last final)
    {old target : Mode} (inMode : cpu.CPSR.mode = old.code) (spsr : cpu.SPSR.mode = target.code) :
    final.CPSR = cpu.SPSR ∧
    Cpu.contents target.bank final =
      Cpu.contents (if setsStatusFirst mode writesBack then target else old).bank
        (loaded READ32 i mode writesBack cpu) := by
  have saved := leaves.prepared.banks.SPSR
  have current : last.CPSR.mode =
      (if setsStatusFirst mode writesBack then target else old).code := by
    rw [leaves.status]
    split
    · exact spsr
    · exact inMode
  have banks := contents_leaveException last _ target current (saved ▸ spsr)
  rw [contents_of_R _ leaves.prepared.registers leaves.prepared.banks] at banks
  rcases leaves.leaves with same | same
  · rw [same]
    exact ⟨saved,banks⟩
  · rw [same]
    exact ⟨saved,banks⟩

theorem exception_return_iff (READ32 : u32 → u32) (i : u32) (mode : Addressing)
    (writesBack : Bool) (cpu : armcpu_t) (old target : Mode)
    (inMode : cpu.CPSR.mode = old.code) (spsr : cpu.SPSR.mode = target.code)
    (returns : BIT15 i = true) (kept : writesBack = true → BIT_N i (REG_POS i 16) = false) :
    Returns READ32 i mode writesBack old target cpu (LDM2 READ32 i mode writesBack cpu) ↔
      (setsStatusFirst mode writesBack = true →
        contents target.bank (loaded READ32 i mode writesBack cpu) =
          contents old.bank (loaded READ32 i mode writesBack cpu)) ∧
      (cpu.SPSR.getLsbD 5 = true →
        (READ32 (wordAddress i (cpu.R (REG_POS i 16)) mode 15)).getLsbD 0 = true ∨
        (READ32 (wordAddress i (cpu.R (REG_POS i 16)) mode 15)).getLsbD 1 = false) := by
  obtain ⟨last,leaves⟩ := LDM2_leaves READ32 i mode writesBack cpu returns kept
  obtain ⟨status,banks⟩ := leaves.contents inMode spsr
  have fetched := maskPC_fetched (READ32 (wordAddress i (cpu.R (REG_POS i 16)) mode 15))
  have addr : prefetchAddress (LDM2 READ32 i mode writesBack cpu) =
      returnAddress READ32 i mode cpu ↔
      (cpu.SPSR.getLsbD 5 = true →
        (READ32 (wordAddress i (cpu.R (REG_POS i 16)) mode 15)).getLsbD 0 = true ∨
        (READ32 (wordAddress i (cpu.R (REG_POS i 16)) mode 15)).getLsbD 1 = false) := by
    rw [prefetchAddress,returnAddress,status,leaves.next]
    by_cases thumb : cpu.SPSR.getLsbD 5 = true
    · rw [if_pos thumb,if_pos thumb,fetched.2]
      exact ⟨fun even _ => even, fun even => even thumb⟩
    · rw [if_neg thumb,if_neg thumb]
      exact iff_of_true fetched.1 (fun isThumb => absurd isThumb thumb)
  rw [← addr]
  cases early : setsStatusFirst mode writesBack with
  | false =>
      rw [early,if_neg Bool.false_ne_true] at banks
      constructor
      · intro correct
        exact ⟨(nomatch ·),correct.continues⟩
      · rintro ⟨_,continues⟩
        exact ⟨status,banks,continues⟩
  | true =>
      rw [early,if_pos rfl] at banks
      constructor
      · intro correct
        exact ⟨fun _ => banks.symm.trans correct.banks, correct.continues⟩
      · rintro ⟨same,continues⟩
        exact ⟨status,banks.trans (same rfl),continues⟩

def irqCpu : armcpu_t :=
  { armcpu_t.initial with
    R := fun reg => if reg = 13 then 0x03007FA0 else 0
    CPSR := 0x92
    SPSR := 0x1F
    R13_usr := 0x03007F00 }

/-- `LDMIA R13!, {R0, R15}^`. -/
theorem exception_return_ldmia :
    Returns (fun addr => addr) 0xE8FD8001 .IA true .IRQ .SYS irqCpu
      (LDM2 (fun addr => addr) 0xE8FD8001 .IA true irqCpu) :=
  (exception_return_iff (fun addr => addr) 0xE8FD8001 .IA true irqCpu .IRQ .SYS rfl rfl
    rfl (fun _ => rfl)).mpr ⟨(nomatch ·),(nomatch ·)⟩

/-- `LDMDB R0, {R15}^` leaves the interrupt's stack pointer to system mode. -/
theorem system_stack_pointer_lost :
    ¬ Returns (fun _ => 0) 0xE9508000 .DB false .IRQ .SYS irqCpu
      (LDM2 (fun _ => 0) 0xE9508000 .DB false irqCpu) := by
  intro returned
  have pointer := congrFun returned.banks (.stack .usr 0)
  have lost : contents Mode.SYS.bank (LDM2 (fun _ => 0) 0xE9508000 .DB false irqCpu)
      (.stack .usr 0) = 0x03007FA0 := by
    decide +kernel
  have kept : contents Mode.IRQ.bank (loaded (fun _ => 0) 0xE9508000 .DB false irqCpu)
      (.stack .usr 0) = 0x03007F00 := by
    decide +kernel
  rw [lost,kept] at pointer
  exact absurd pointer (by decide)

end Desmume.Cpu
