/-
The banked registers of a processor: `armcpu_switchMode` and
`armcpu_exception`.

The processor keeps the visible registers in `R` and `SPSR` and a saved copy of
each bank.
-/

import Desmume.Types
import Desmume.Lib.Run

namespace Desmume.Cpu

open Function (update update_of_ne update_self)

inductive Mode
  | USR
  | FIQ
  | IRQ
  | SVC
  | ABT
  | UND
  | SYS
  deriving DecidableEq

def Mode.code : Mode → Nat
  | .USR => 0x10
  | .FIQ => 0x11
  | .IRQ => 0x12
  | .SVC => 0x13
  | .ABT => 0x17
  | .UND => 0x1B
  | .SYS => 0x1F

/-- The case labels of both switches in `armcpu_switchMode`. -/
def Mode.decode : Nat → Option Mode
  | 0x10 => some .USR
  | 0x11 => some .FIQ
  | 0x12 => some .IRQ
  | 0x13 => some .SVC
  | 0x17 => some .ABT
  | 0x1B => some .UND
  | 0x1F => some .SYS
  | _ => none

abbrev Status_Reg := u32

namespace Status_Reg

variable (reg : Status_Reg)

def mode : Nat := (reg &&& 0x1F).toNat

def setMode (mode : u8) : Status_Reg :=
  (reg &&& ~~~0x1F) ||| (mode &&& 0x1F).setWidth 32

def clearT : Status_Reg := reg &&& ~~~0x20

def setI : Status_Reg := reg ||| 0x80

end Status_Reg

structure armcpu_t where
  next_instruction : u32
  R : Fin 16 → u32
  CPSR : Status_Reg
  SPSR : Status_Reg
  R13_usr : u32
  R14_usr : u32
  R13_svc : u32
  R14_svc : u32
  R13_abt : u32
  R14_abt : u32
  R13_und : u32
  R14_und : u32
  R13_irq : u32
  R14_irq : u32
  R8_fiq : u32
  R9_fiq : u32
  R10_fiq : u32
  R11_fiq : u32
  R12_fiq : u32
  R13_fiq : u32
  R14_fiq : u32
  SPSR_svc : Status_Reg
  SPSR_abt : Status_Reg
  SPSR_und : Status_Reg
  SPSR_irq : Status_Reg
  SPSR_fiq : Status_Reg
  intVector : u32
  execute : Bool
  reschedule : Bool

/-- The ARM9 as `armcpu_init` leaves it, before the first prefetch. -/
def armcpu_t.initial : armcpu_t :=
  { next_instruction := 0
    R := fun _ => 0
    CPSR := 0x1F
    SPSR := 0x1F
    R13_usr := 0
    R14_usr := 0
    R13_svc := 0
    R14_svc := 0
    R13_abt := 0
    R14_abt := 0
    R13_und := 0
    R14_und := 0
    R13_irq := 0
    R14_irq := 0
    R8_fiq := 0
    R9_fiq := 0
    R10_fiq := 0
    R11_fiq := 0
    R12_fiq := 0
    R13_fiq := 0
    R14_fiq := 0
    SPSR_svc := 0
    SPSR_abt := 0
    SPSR_und := 0
    SPSR_irq := 0
    SPSR_fiq := 0
    intVector := 0xFFFF0000
    execute := true
    reschedule := false }

def changeCPSR (cpu : armcpu_t) : armcpu_t :=
  { cpu with reschedule := true }

def emu_halt (cpu : armcpu_t) : armcpu_t :=
  { cpu with execute := false }

/-- The five `SWAP` statements of the FIQ cases. -/
def swapFiq (cpu : armcpu_t) : armcpu_t :=
  { cpu with
    R := fun i =>
      match i with
      | 8 => cpu.R8_fiq
      | 9 => cpu.R9_fiq
      | 10 => cpu.R10_fiq
      | 11 => cpu.R11_fiq
      | 12 => cpu.R12_fiq
      | other => cpu.R other
    R8_fiq := cpu.R 8
    R9_fiq := cpu.R 9
    R10_fiq := cpu.R 10
    R11_fiq := cpu.R 11
    R12_fiq := cpu.R 12 }

/-- The first switch of `armcpu_switchMode`, on the mode being left. -/
def saveBank (cpu : armcpu_t) : Option Mode → armcpu_t
  | some .USR | some .SYS => { cpu with R13_usr := cpu.R 13, R14_usr := cpu.R 14 }
  | some .FIQ =>
      let cpu := swapFiq cpu
      { cpu with R13_fiq := cpu.R 13, R14_fiq := cpu.R 14, SPSR_fiq := cpu.SPSR }
  | some .IRQ => { cpu with R13_irq := cpu.R 13, R14_irq := cpu.R 14, SPSR_irq := cpu.SPSR }
  | some .SVC => { cpu with R13_svc := cpu.R 13, R14_svc := cpu.R 14, SPSR_svc := cpu.SPSR }
  | some .ABT => { cpu with R13_abt := cpu.R 13, R14_abt := cpu.R 14, SPSR_abt := cpu.SPSR }
  | some .UND => { cpu with R13_und := cpu.R 13, R14_und := cpu.R 14, SPSR_und := cpu.SPSR }
  | none => cpu

def setR (cpu : armcpu_t) (reg : Fin 16) (val : u32) : armcpu_t :=
  { cpu with R := update cpu.R reg val }

def loadBank (cpu : armcpu_t) : Option Mode → armcpu_t
  | some .USR | some .SYS => setR (setR cpu 13 cpu.R13_usr) 14 cpu.R14_usr
  | some .FIQ =>
      let cpu := swapFiq cpu
      { setR (setR cpu 13 cpu.R13_fiq) 14 cpu.R14_fiq with SPSR := cpu.SPSR_fiq }
  | some .IRQ => { setR (setR cpu 13 cpu.R13_irq) 14 cpu.R14_irq with SPSR := cpu.SPSR_irq }
  | some .SVC => { setR (setR cpu 13 cpu.R13_svc) 14 cpu.R14_svc with SPSR := cpu.SPSR_svc }
  | some .ABT => { setR (setR cpu 13 cpu.R13_abt) 14 cpu.R14_abt with SPSR := cpu.SPSR_abt }
  | some .UND => { setR (setR cpu 13 cpu.R13_und) 14 cpu.R14_und with SPSR := cpu.SPSR_und }
  | none => cpu

def armcpu_switchMode (cpu : armcpu_t) (mode : u8) : armcpu_t × Nat :=
  let oldmode := cpu.CPSR.mode
  let cpu := saveBank cpu (Mode.decode oldmode)
  let cpu := loadBank cpu (Mode.decode mode.toNat)
  let cpu := { cpu with CPSR := cpu.CPSR.setMode mode }
  (changeCPSR cpu, oldmode)

def EXCEPTION_RESERVED_0x14 : u32 := 0x14

def exceptionMode (num : u32) : Mode :=
  if num = 0x00 then .SVC
  else if num = 0x04 then .UND
  else if num = 0x08 then .SVC
  else if num = 0x0C then .ABT
  else if num = 0x10 then .ABT
  else if num = 0x18 then .IRQ
  else if num = 0x1C then .FIQ
  else .USR

def armcpu_exception (cpu : armcpu_t) (num : u32) : armcpu_t :=
  let cpu := if num = EXCEPTION_RESERVED_0x14 then emu_halt cpu else cpu
  let tmp := cpu.CPSR
  let cpu := (armcpu_switchMode cpu (BitVec.ofNat 8 (exceptionMode num).code)).1
  let cpu := setR cpu 14 cpu.next_instruction
  let cpu := { cpu with SPSR := tmp }
  let cpu := { cpu with CPSR := cpu.CPSR.clearT.setI }
  let cpu := changeCPSR cpu
  let cpu := setR cpu 15 (cpu.intVector + num)
  { cpu with next_instruction := cpu.R 15 }

inductive Bank
  | usr
  | fiq
  | irq
  | svc
  | abt
  | und
  deriving DecidableEq

def Mode.bank : Mode → Bank
  | .USR => .usr
  | .FIQ => .fiq
  | .IRQ => .irq
  | .SVC => .svc
  | .ABT => .abt
  | .UND => .und
  | .SYS => .usr

/-- The registers of the architecture: R0 to R7 once, R8 to R12 twice, R13 and
R14 for each bank, SPSR for each bank but the user bank. -/
inductive Cell
  | low (reg : Fin 8)
  | middle (fiq : Bool) (reg : Fin 5)
  | stack (bank : Bank) (reg : Fin 2)
  | spsr (bank : Bank)
  deriving DecidableEq

variable (current : Bank)

def visible (reg : Fin 15) : Cell :=
  if low : reg.val < 8 then .low ⟨reg.val,low⟩
  else if middle : reg.val < 13 then .middle (current == .fiq) ⟨reg.val - 8,by omega⟩
  else .stack current ⟨reg.val - 13,by omega⟩

structure RegisterFile where
  mode : Mode
  cells : Cell → u32

inductive Event
  | entered (mode : Mode)
  | wrote (cell : Cell) (val : u32)

def RegisterFile.apply (file : RegisterFile) : Event → RegisterFile
  | .entered mode => { file with mode := mode }
  | .wrote cell val => { file with cells := update file.cells cell val }

def RegisterFile.applyAll (file : RegisterFile) (events : List Event) : RegisterFile :=
  events.foldl RegisterFile.apply file

theorem RegisterFile.applyAll_append (file : RegisterFile) (first second : List Event) :
    file.applyAll (first ++ second) = (file.applyAll first).applyAll second :=
  List.foldl_append

def savedMiddle (cpu : armcpu_t) : Fin 5 → u32
  | 0 => cpu.R8_fiq
  | 1 => cpu.R9_fiq
  | 2 => cpu.R10_fiq
  | 3 => cpu.R11_fiq
  | 4 => cpu.R12_fiq

def savedStack (cpu : armcpu_t) : Bank → Fin 2 → u32
  | .usr, 0 => cpu.R13_usr
  | .usr, 1 => cpu.R14_usr
  | .fiq, 0 => cpu.R13_fiq
  | .fiq, 1 => cpu.R14_fiq
  | .irq, 0 => cpu.R13_irq
  | .irq, 1 => cpu.R14_irq
  | .svc, 0 => cpu.R13_svc
  | .svc, 1 => cpu.R14_svc
  | .abt, 0 => cpu.R13_abt
  | .abt, 1 => cpu.R14_abt
  | .und, 0 => cpu.R13_und
  | .und, 1 => cpu.R14_und

def savedSpsr (cpu : armcpu_t) : Bank → u32
  | .usr => 0
  | .fiq => cpu.SPSR_fiq
  | .irq => cpu.SPSR_irq
  | .svc => cpu.SPSR_svc
  | .abt => cpu.SPSR_abt
  | .und => cpu.SPSR_und

def lowIndex (reg : Fin 8) : Fin 15 := ⟨reg.val,by omega⟩

def middleIndex (reg : Fin 5) : Fin 15 := ⟨8 + reg.val,by omega⟩

def stackIndex (reg : Fin 2) : Fin 15 := ⟨13 + reg.val,by omega⟩

/-- The cells while one bank is active: its registers are the visible ones,
and all others are in their copies. -/
def contents (cpu : armcpu_t) : Cell → u32
  | .low reg => cpu.R (lowIndex reg).castSucc
  | .middle fiq reg =>
      if fiq = (current == .fiq) then cpu.R (middleIndex reg).castSucc
      else savedMiddle cpu reg
  | .stack bank reg =>
      if bank = current then cpu.R (stackIndex reg).castSucc else savedStack cpu bank reg
  | .spsr bank => if bank = current ∧ bank ≠ .usr then cpu.SPSR else savedSpsr cpu bank

def stored (cpu : armcpu_t) : Cell → u32
  | .low reg => cpu.R (lowIndex reg).castSucc
  | .middle false reg => cpu.R (middleIndex reg).castSucc
  | .middle true reg => savedMiddle cpu reg
  | .stack bank reg => savedStack cpu bank reg
  | .spsr bank => savedSpsr cpu bank

theorem Mode.decode_code (mode : Mode) : Mode.decode mode.code = some mode := by
  cases mode <;> rfl

theorem stored_saveBank (cpu : armcpu_t) (mode : Mode) :
    stored (saveBank cpu (some mode)) = contents mode.bank cpu := by
  funext cell
  cases cell with
  | low reg => cases mode <;> fin_cases reg <;> rfl
  | middle fiq reg => cases mode <;> cases fiq <;> fin_cases reg <;> rfl
  | stack bank reg => cases mode <;> cases bank <;> fin_cases reg <;> rfl
  | spsr bank => cases mode <;> cases bank <;> rfl

theorem contents_loadBank (cpu : armcpu_t) (mode : Mode) :
    contents mode.bank (loadBank cpu (some mode)) = stored cpu := by
  funext cell
  cases cell with
  | low reg => cases mode <;> fin_cases reg <;> rfl
  | middle fiq reg => cases mode <;> cases fiq <;> fin_cases reg <;> rfl
  | stack bank reg => cases mode <;> cases bank <;> fin_cases reg <;> rfl
  | spsr bank => cases mode <;> cases bank <;> rfl

theorem mode_setMode (reg : Status_Reg) (mode : Mode) :
    (reg.setMode (BitVec.ofNat 8 mode.code)).mode = mode.code := by
  have gone : reg &&& ~~~0x1F &&& 0x1F = 0#32 := by
    rw [BitVec.and_assoc]
    exact BitVec.and_zero
  unfold Status_Reg.setMode Status_Reg.mode
  rw [BitVec.and_or_distrib_right,gone,BitVec.zero_or]
  cases mode <;> rfl

theorem mode_clearT_setI (reg : Status_Reg) : reg.clearT.setI.mode = reg.mode := by
  have apart : (0x80 : u32) &&& 0x1F = 0#32 := by decide
  have kept : reg &&& ~~~0x20 &&& 0x1F = reg &&& 0x1F := by
    rw [BitVec.and_assoc]
    rfl
  unfold Status_Reg.setI Status_Reg.clearT Status_Reg.mode
  rw [BitVec.and_or_distrib_right,kept,apart,BitVec.or_zero]

theorem contents_switchMode (cpu : armcpu_t) (old mode : Mode) (valid : cpu.CPSR.mode = old.code) :
    (armcpu_switchMode cpu (BitVec.ofNat 8 mode.code)).1.CPSR.mode = mode.code ∧
      contents mode.bank (armcpu_switchMode cpu (BitVec.ofNat 8 mode.code)).1 =
        contents old.bank cpu := by
  have label : (BitVec.ofNat 8 mode.code).toNat = mode.code := by
    cases mode <;> rfl
  have left : Mode.decode cpu.CPSR.mode = some old := by
    rw [valid]
    exact old.decode_code
  have entered : Mode.decode (BitVec.ofNat 8 mode.code).toNat = some mode := by
    rw [label]
    exact mode.decode_code
  constructor
  · exact mode_setMode _ mode
  · have loaded := contents_loadBank (saveBank cpu (some old)) mode
    rw [stored_saveBank] at loaded
    change contents mode.bank (loadBank (saveBank cpu (Mode.decode cpu.CPSR.mode))
      (Mode.decode (BitVec.ofNat 8 mode.code).toNat)) = contents old.bank cpu
    rw [left,entered]
    exact loaded

/-! ### Reading and writing a visible register -/

theorem visible_low (reg : Fin 8) : visible current (lowIndex reg) = .low reg := by
  have low : (lowIndex reg).val < 8 := reg.isLt
  unfold visible
  rw [dif_pos low]
  rfl

theorem visible_middle (reg : Fin 5) :
    visible current (middleIndex reg) = .middle (current == .fiq) reg := by
  have notLow : ¬(middleIndex reg).val < 8 := by
    change ¬8 + reg.val < 8
    omega
  have middle : (middleIndex reg).val < 13 := by
    change 8 + reg.val < 13
    omega
  unfold visible
  rw [dif_neg notLow,dif_pos middle]
  congr 1
  apply Fin.ext
  change 8 + reg.val - 8 = reg.val
  omega

theorem visible_stack (reg : Fin 2) : visible current (stackIndex reg) = .stack current reg := by
  have notLow : ¬(stackIndex reg).val < 8 := by
    change ¬13 + reg.val < 8
    omega
  have notMiddle : ¬(stackIndex reg).val < 13 := by
    change ¬13 + reg.val < 13
    omega
  unfold visible
  rw [dif_neg notLow,dif_neg notMiddle]
  congr 1
  apply Fin.ext
  change 13 + reg.val - 13 = reg.val
  omega

theorem register_cases (reg : Fin 15) :
    (∃ low, reg = lowIndex low) ∨ (∃ middle, reg = middleIndex middle) ∨
      ∃ stack, reg = stackIndex stack := by
  rcases Nat.lt_or_ge reg.val 8 with low | notLow
  · exact Or.inl ⟨⟨reg.val,low⟩,rfl⟩
  · rcases Nat.lt_or_ge reg.val 13 with middle | notMiddle
    · refine Or.inr (Or.inl ⟨⟨reg.val - 8,by omega⟩,Fin.ext ?_⟩)
      change reg.val = 8 + (reg.val - 8)
      omega
    · refine Or.inr (Or.inr ⟨⟨reg.val - 13,by omega⟩,Fin.ext ?_⟩)
      change reg.val = 13 + (reg.val - 13)
      omega

theorem contents_visible (cpu : armcpu_t) (reg : Fin 15) :
    contents current cpu (visible current reg) = cpu.R reg.castSucc := by
  rcases register_cases reg with ⟨low,rfl⟩ | ⟨middle,rfl⟩ | ⟨stack,rfl⟩
  · rw [visible_low]
    rfl
  · rw [visible_middle]
    exact if_pos rfl
  · rw [visible_stack]
    exact if_pos rfl

theorem contents_setR (cpu : armcpu_t) (reg : Fin 15) (val : u32) :
    contents current (setR cpu reg.castSucc val) =
      update (contents current cpu) (visible current reg) val := by
  have elsewhere (other : Fin 15) (ne : visible current other ≠ visible current reg) :
      (setR cpu reg.castSucc val).R other.castSucc = cpu.R other.castSucc := by
    apply update_of_ne
    intro same
    apply ne
    rw [Fin.castSucc_injective _ same]
  funext cell
  by_cases here : cell = visible current reg
  · rw [here,update_self,contents_visible]
    exact update_self _ _ _
  · rw [update_of_ne here]
    cases cell with
    | low low =>
        apply elsewhere
        rw [visible_low]
        exact here
    | middle fiq middle =>
        by_cases active : fiq = (current == .fiq)
        · simp only [contents,if_pos active]
          apply elsewhere
          rw [visible_middle,← active]
          exact here
        · simp only [contents,if_neg active]
          rfl
    | stack bank stack =>
        by_cases active : bank = current
        · simp only [contents,if_pos active]
          apply elsewhere
          rw [visible_stack]
          subst active
          exact here
        · simp only [contents,if_neg active]
          rfl
    | spsr bank => rfl

theorem contents_SPSR (cpu : armcpu_t) (val : Status_Reg) :
    contents current { cpu with SPSR := val } =
      if current = .usr then contents current cpu
      else update (contents current cpu) (.spsr current) val := by
  funext cell
  cases cell with
  | low reg => split <;> rfl
  | middle fiq reg => split <;> rfl
  | stack bank reg => split <;> rfl
  | spsr bank => cases current <;> cases bank <;> rfl

theorem contents_R15 (cpu : armcpu_t) (val : u32) :
    contents current (setR cpu 15 val) = contents current cpu := by
  have elsewhere (other : Fin 15) : (setR cpu 15 val).R other.castSucc = cpu.R other.castSucc :=
    update_of_ne (Fin.castSucc_lt_last other).ne _ _
  funext cell
  cases cell with
  | low reg => exact elsewhere _
  | middle fiq reg =>
      simp only [contents,elsewhere]
      rfl
  | stack bank reg =>
      simp only [contents,elsewhere]
      rfl
  | spsr bank => rfl

inductive Op
  | switchMode (mode : Mode)
  | writeR (reg : Fin 15) (val : u32)
  | writeSPSR (val : u32)
  | exception (num : u32)

def armcpu_t.bank (cpu : armcpu_t) : Bank :=
  match Mode.decode cpu.CPSR.mode with
  | some mode => mode.bank
  | none => .usr

def wroteSPSR (bank : Bank) (val : u32) : List Event :=
  if bank = .usr then [] else [.wrote (.spsr bank) val]

/-- An exception enters its mode, leaves the return address in R14 and the old
CPSR in SPSR. -/
def exceptionEvents (cpu : armcpu_t) (num : u32) : List Event :=
  [.entered (exceptionMode num),
    .wrote (.stack (exceptionMode num).bank 1) cpu.next_instruction] ++
    wroteSPSR (exceptionMode num).bank cpu.CPSR

def step (cpu : armcpu_t) : Op → armcpu_t × List Event
  | .switchMode mode =>
      ((armcpu_switchMode cpu (BitVec.ofNat 8 mode.code)).1, [.entered mode])
  | .writeR reg val => (setR cpu reg.castSucc val, [.wrote (visible cpu.bank reg) val])
  | .writeSPSR val => ({ cpu with SPSR := val }, wroteSPSR cpu.bank val)
  | .exception num => (armcpu_exception cpu num, exceptionEvents cpu num)

structure Models (cpu : armcpu_t) (file : RegisterFile) : Prop where
  mode : cpu.CPSR.mode = file.mode.code
  cells : contents file.mode.bank cpu = file.cells

variable {cpu : armcpu_t} {file : RegisterFile}

theorem Models.bank (models : Models cpu file) : cpu.bank = file.mode.bank := by
  unfold armcpu_t.bank
  rw [models.mode,Mode.decode_code]

theorem Models.switchMode (models : Models cpu file) (mode : Mode) :
    Models (armcpu_switchMode cpu (BitVec.ofNat 8 mode.code)).1 (file.apply (.entered mode)) := by
  obtain ⟨entered,kept⟩ := contents_switchMode cpu file.mode mode models.mode
  exact ⟨entered,kept.trans models.cells⟩

theorem Models.writeR (models : Models cpu file) (reg : Fin 15) (val : u32) :
    Models (setR cpu reg.castSucc val) (file.apply (.wrote (visible file.mode.bank reg) val)) := by
  constructor
  · exact models.mode
  · change contents file.mode.bank _ = update file.cells _ val
    rw [contents_setR,models.cells]

theorem Models.writeSPSR (models : Models cpu file) (val : Status_Reg) :
    Models { cpu with SPSR := val } (file.applyAll (wroteSPSR file.mode.bank val)) := by
  have written := contents_SPSR file.mode.bank cpu val
  rw [models.cells] at written
  unfold wroteSPSR
  by_cases user : file.mode.bank = .usr
  · rw [if_pos user] at written
    rw [if_pos user]
    exact ⟨models.mode,written⟩
  · rw [if_neg user] at written
    rw [if_neg user]
    exact ⟨models.mode,written⟩

theorem Models.maskIrq (models : Models cpu file) :
    Models { cpu with CPSR := cpu.CPSR.clearT.setI } file :=
  ⟨(mode_clearT_setI cpu.CPSR).trans models.mode,models.cells⟩

theorem Models.changeCPSR (models : Models cpu file) : Models (changeCPSR cpu) file :=
  ⟨models.mode,models.cells⟩

theorem Models.setPC (models : Models cpu file) (val : u32) : Models (setR cpu 15 val) file :=
  ⟨models.mode,(contents_R15 _ cpu val).trans models.cells⟩

theorem Models.setNext (models : Models cpu file)
    (val : u32) : Models { cpu with next_instruction := val } file :=
  ⟨models.mode,models.cells⟩

theorem Models.emu_halt (models : Models cpu file) : Models (emu_halt cpu) file :=
  ⟨models.mode,models.cells⟩

theorem next_instruction_switchMode (cpu : armcpu_t) (mode : u8) :
    (armcpu_switchMode cpu mode).1.next_instruction = cpu.next_instruction := by
  have saved (mode : Option Mode) :
      (saveBank cpu mode).next_instruction = cpu.next_instruction := by
    cases mode with
    | none => rfl
    | some mode => cases mode <;> rfl
  have loaded (cpu : armcpu_t) (mode : Option Mode) :
      (loadBank cpu mode).next_instruction = cpu.next_instruction := by
    cases mode with
    | none => rfl
    | some mode => cases mode <;> rfl
  exact (loaded _ _).trans (saved _)

private theorem Models.enter (models : Models cpu file) (num : u32) :
    let entered := (armcpu_switchMode cpu (BitVec.ofNat 8 (exceptionMode num).code)).1
    Models { setR entered 14 entered.next_instruction with SPSR := cpu.CPSR }
      (file.applyAll (exceptionEvents cpu num)) := by
  intro entered
  have inMode : Models entered _ := models.switchMode (exceptionMode num)
  have addr : entered.next_instruction = cpu.next_instruction :=
    next_instruction_switchMode cpu _
  have named : visible (exceptionMode num).bank 14 = .stack (exceptionMode num).bank 1 :=
    visible_stack _ 1
  have linked := inMode.writeR 14 entered.next_instruction
  have saved := linked.writeSPSR cpu.CPSR
  change Models _ (RegisterFile.applyAll (RegisterFile.apply _
    (.wrote (visible (exceptionMode num).bank 14) _)) _) at saved
  rw [named,addr] at saved
  rw [exceptionEvents,RegisterFile.applyAll_append,addr]
  exact saved

theorem Models.exception (models : Models cpu file) (num : u32) :
    Models (armcpu_exception cpu num) (file.applyAll (exceptionEvents cpu num)) := by
  unfold armcpu_exception
  by_cases reserved : num = EXCEPTION_RESERVED_0x14
  · rw [if_pos reserved]
    have entered := models.emu_halt.enter num
    exact (entered.maskIrq.changeCPSR.setPC _).setNext _
  · rw [if_neg reserved]
    have entered := models.enter num
    exact (entered.maskIrq.changeCPSR.setPC _).setNext _

theorem models_step (cpu : armcpu_t) (file : RegisterFile) (op : Op) (models : Models cpu file) :
    Models (step cpu op).1 (file.applyAll (step cpu op).2) := by
  cases op with
  | switchMode mode => exact models.switchMode mode
  | writeR reg val =>
      simp only [step,models.bank]
      exact models.writeR reg val
  | writeSPSR val =>
      simp only [step,models.bank]
      exact models.writeSPSR val
  | exception num => exact models.exception num

theorem models_run (models : Models cpu file) (ops : List Op) :
    Models (Run.logged step cpu ops).1 (file.applyAll (Run.logged step cpu ops).2) := by
  have kept (cpu : armcpu_t) (log : List Event) (op : Op)
      (models : Models cpu (file.applyAll log)) :
      Models (step cpu op).1 (file.applyAll (log ++ (step cpu op).2)) := by
    rw [RegisterFile.applyAll_append]
    exact models_step cpu _ op models
  exact Run.logged_invariant kept models ops

/-! ### The last value written -/

def Event.mode? : Event → Option Mode
  | .entered mode => some mode
  | .wrote _ _ => none

def Event.value? (cell : Cell) : Event → Option u32
  | .entered _ => none
  | .wrote written val => if written = cell then some val else none

def lastMode (start : Mode) (log : List Event) : Mode :=
  (log.filterMap Event.mode?).getLastD start

def lastWritten (start : Cell → u32) (log : List Event) (cell : Cell) : u32 :=
  (log.filterMap (Event.value? cell)).getLastD (start cell)

theorem lastMode_snoc (start : Mode) (log : List Event) (event : Event) :
    lastMode start (log ++ [event]) = (event.mode?).getD (lastMode start log) := by
  unfold lastMode
  rw [List.filterMap_append]
  cases event with
  | entered mode => simp [Event.mode?]
  | wrote cell val => simp [Event.mode?]

theorem lastWritten_snoc (start : Cell → u32) (log : List Event) (event : Event) (cell : Cell) :
    lastWritten start (log ++ [event]) cell =
      (event.value? cell).getD (lastWritten start log cell) := by
  unfold lastWritten
  rw [List.filterMap_append]
  cases v : event.value? cell with
  | none => simp [v]
  | some val => simp [v]

theorem RegisterFile.applyAll_eq (file : RegisterFile) (log : List Event) :
    file.applyAll log =
      { mode := lastMode file.mode log, cells := lastWritten file.cells log } := by
  induction log using List.reverseRecOn with
  | nil => rfl
  | append_singleton log event ih =>
      have mode := lastMode_snoc file.mode log event
      have cells : lastWritten file.cells (log ++ [event]) = _ :=
        funext (lastWritten_snoc file.cells log event)
      rw [RegisterFile.applyAll_append,ih,mode,cells]
      cases event with
      | entered mode => rfl
      | wrote written val =>
          change RegisterFile.mk _ (update _ written val) = _
          congr 1
          funext cell
          by_cases here : cell = written
          · rw [here,update_self,Event.value?,if_pos rfl]
            rfl
          · rw [update_of_ne here,Event.value?,if_neg (fun same => here same.symm)]
            rfl

/-- From any valid mode and over every sequence of mode changes, register
writes and exceptions: the visible registers hold what was last written to
their cells, and every other cell holds what was last written to it. -/
theorem banked_register_file (cpu : armcpu_t) (start : Mode)
    (valid : cpu.CPSR.mode = start.code) (ops : List Op) :
    let run := Run.logged step cpu ops
    let current := lastMode start run.2
    let cells := lastWritten (contents start.bank cpu) run.2
    run.1.CPSR.mode = current.code ∧
      (∀ reg : Fin 15, run.1.R reg.castSucc = cells (visible current.bank reg)) ∧
      (current.bank ≠ .usr → run.1.SPSR = cells (.spsr current.bank)) ∧
      (∀ cell, contents current.bank run.1 cell = cells cell) := by
  intro run current cells
  let file : RegisterFile := { mode := start, cells := contents start.bank cpu }
  have initial : Models cpu file := ⟨valid,rfl⟩
  have models := models_run initial ops
  rw [RegisterFile.applyAll_eq] at models
  have held : contents current.bank run.1 = cells := models.cells
  refine ⟨models.mode,?_,?_,fun cell => congrFun held cell⟩
  · intro reg
    rw [← held,contents_visible]
  · intro exceptional
    rw [← held]
    exact (if_pos ⟨rfl,exceptional⟩).symm

theorem banked_register_file_fiq :
    (Run.logged step armcpu_t.initial
      [.writeR 8 1,.switchMode .FIQ,.writeR 8 2,.exception 0x18,.switchMode .FIQ]).1.R 8 =
      2 := by
  obtain ⟨-,visibleR,-⟩ := banked_register_file armcpu_t.initial .SYS rfl
    [.writeR 8 1,.switchMode .FIQ,.writeR 8 2,.exception 0x18,.switchMode .FIQ]
  exact (visibleR 8).trans (by rfl)

end Desmume.Cpu
