/-
The ARM block transfers: `OP_STMIA` to `OP_STMDB`, `OP_LDMIA` to `OP_LDMDB`,
their forms with write-back, and the stores of the user bank.

Every handler walks the list of registers up or down with an address that moves
before or after each word.
-/

import Desmume.Cpu.ExceptionReturn
import Desmume.Lib.Walk
import Desmume.Thumb.BlockTransfer

namespace Desmume.Cpu

open Thumb (Bus)

section

variable {Memory : Type} (bus : Bus Memory) (PROCNUM : Proc) (i : u32)

def storeRound (cpu : armcpu_t) (before after : u32) (st : Memory × u32) (b : Fin 16) :
    Memory × u32 :=
  if BIT_N i b then
    let start := st.2 + before
    (bus.WRITE32 st.1 start (cpu.R b), start + after)
  else st

/-- The rounds for `b`, and for `15-b`. -/
def allUpwards : List (Fin 16) := List.finRange 16

def allDownwards : List (Fin 16) := (List.finRange 16).reverse

variable (cpu : armcpu_t) (mem : Memory)

def storeUpwards (before after start : u32) : Memory × u32 :=
  allUpwards.foldl (storeRound bus i cpu before after) (mem, start)

def storeDownwards (before after start : u32) : Memory × u32 :=
  allDownwards.foldl (storeRound bus i cpu before after) (mem, start)

def OP_STMIA : armcpu_t × Memory :=
  (cpu, (storeUpwards bus i cpu mem 0 4 (cpu.R (REG_POS i 16))).1)

def OP_STMIB : armcpu_t × Memory :=
  (cpu, (storeUpwards bus i cpu mem 4 0 (cpu.R (REG_POS i 16))).1)

def OP_STMDA : armcpu_t × Memory :=
  (cpu, (storeDownwards bus i cpu mem 0 (-4) (cpu.R (REG_POS i 16))).1)

def OP_STMDB : armcpu_t × Memory :=
  (cpu, (storeDownwards bus i cpu mem (-4) 0 (cpu.R (REG_POS i 16))).1)

def OP_STMIA_W : armcpu_t × Memory :=
  let (mem, start) := storeUpwards bus i cpu mem 0 4 (cpu.R (REG_POS i 16))
  (setR cpu (REG_POS i 16) start, mem)

def OP_STMIB_W : armcpu_t × Memory :=
  let (mem, start) := storeUpwards bus i cpu mem 4 0 (cpu.R (REG_POS i 16))
  (setR cpu (REG_POS i 16) start, mem)

def OP_STMDA_W : armcpu_t × Memory :=
  let (mem, start) := storeDownwards bus i cpu mem 0 (-4) (cpu.R (REG_POS i 16))
  (setR cpu (REG_POS i 16) start, mem)

def OP_STMDB_W : armcpu_t × Memory :=
  let (mem, start) := storeDownwards bus i cpu mem (-4) 0 (cpu.R (REG_POS i 16))
  (setR cpu (REG_POS i 16) start, mem)

def inUSR : Bool := cpu.CPSR.mode == Mode.USR.code

/-- `armcpu_switchMode(cpu, SYS)` in front of the rounds, then what follows them
with the mode to return to and the address. -/
def storeUserBank (store : armcpu_t → Memory → u32 → Memory × u32)
    (finish : armcpu_t → Nat → u32 → armcpu_t) : armcpu_t × Memory :=
  if inUSR cpu then (cpu, mem)
  else
    let start := cpu.R (REG_POS i 16)
    let (cpu, oldmode) := armcpu_switchMode cpu (BitVec.ofNat 8 Mode.SYS.code)
    let (mem, start) := store cpu mem start
    (finish cpu oldmode start, mem)

def switchBack (cpu : armcpu_t) (oldmode : Nat) : armcpu_t :=
  (armcpu_switchMode cpu (BitVec.ofNat 8 oldmode)).1

def OP_STMIA2 : armcpu_t × Memory :=
  storeUserBank i cpu mem (fun cpu mem => storeUpwards bus i cpu mem 0 4)
    (fun cpu oldmode _ => switchBack cpu oldmode)

def OP_STMIB2 : armcpu_t × Memory :=
  storeUserBank i cpu mem (fun cpu mem => storeUpwards bus i cpu mem 4 0)
    (fun cpu oldmode _ => switchBack cpu oldmode)

def OP_STMDA2 : armcpu_t × Memory :=
  storeUserBank i cpu mem (fun cpu mem => storeDownwards bus i cpu mem 0 (-4))
    (fun cpu oldmode _ => switchBack cpu oldmode)

def OP_STMDB2 : armcpu_t × Memory :=
  storeUserBank i cpu mem (fun cpu mem => storeDownwards bus i cpu mem (-4) 0)
    (fun cpu oldmode _ => switchBack cpu oldmode)

def OP_STMIA2_W : armcpu_t × Memory :=
  storeUserBank i cpu mem (fun cpu mem => storeUpwards bus i cpu mem 0 4)
    (fun cpu oldmode start => switchBack (setR cpu (REG_POS i 16) start) oldmode)

def OP_STMIB2_W : armcpu_t × Memory :=
  storeUserBank i cpu mem (fun cpu mem => storeUpwards bus i cpu mem 4 0)
    (fun cpu oldmode start => setR (switchBack cpu oldmode) (REG_POS i 16) start)

def OP_STMDA2_W : armcpu_t × Memory :=
  storeUserBank i cpu mem (fun cpu mem => storeDownwards bus i cpu mem 0 (-4))
    (fun cpu oldmode start => switchBack (setR cpu (REG_POS i 16) start) oldmode)

def OP_STMDB2_W : armcpu_t × Memory :=
  storeUserBank i cpu mem (fun cpu mem => storeDownwards bus i cpu mem (-4) 0)
    (fun cpu oldmode start => switchBack (setR cpu (REG_POS i 16) start) oldmode)

/-- One `OP_L_xx` macro. -/
def loadRound (before after : u32) (st : (armcpu_t × Memory) × u32) (reg : Fin 15) :
    (armcpu_t × Memory) × u32 :=
  if BIT_N i reg then
    let start := st.2 + before
    let (word, mem) := bus.READ32 st.1.2 start
    ((setR st.1.1 reg.castSucc word, mem), start + after)
  else st

def enterPC (cpu : armcpu_t) (tmp : u32) : armcpu_t :=
  let cpu :=
    if PROCNUM = .ARMCPU_ARM9 then
      setR { cpu with CPSR := cpu.CPSR.setBit 5 (tmp.getLsbD 0) } 15 (tmp &&& 0xFFFFFFFE)
    else setR cpu 15 (tmp &&& 0xFFFFFFFC)
  { cpu with next_instruction := cpu.R 15 }

def loadR15 (before after : u32) (st : (armcpu_t × Memory) × u32) : (armcpu_t × Memory) × u32 :=
  if BIT15 i then
    let start := st.2 + before
    let (tmp, mem) := bus.READ32 st.1.2 start
    ((enterPC PROCNUM st.1.1 tmp, mem), start + after)
  else st

def loadUpwards (before after : u32) : (armcpu_t × Memory) × u32 :=
  loadR15 bus PROCNUM i before after
    (upwards.foldl (loadRound bus i before after) ((cpu, mem), cpu.R (REG_POS i 16)))

def loadDownwards (before after : u32) : (armcpu_t × Memory) × u32 :=
  downwards.foldl (loadRound bus i before after)
    (loadR15 bus PROCNUM i before after ((cpu, mem), cpu.R (REG_POS i 16)))

def OP_LDMIA : armcpu_t × Memory := (loadUpwards bus PROCNUM i cpu mem 0 4).1

def OP_LDMIB : armcpu_t × Memory := (loadUpwards bus PROCNUM i cpu mem 4 0).1

def OP_LDMDA : armcpu_t × Memory := (loadDownwards bus PROCNUM i cpu mem 0 (-4)).1

def OP_LDMDB : armcpu_t × Memory := (loadDownwards bus PROCNUM i cpu mem (-4) 0).1

/-- `(~((2 << REG_POS(i,16))-1)) & 0xFFFF`, the registers above the base. -/
def bitList : u32 := ~~~(((2 : u32) <<< (REG_POS i 16).val) - 1) &&& 0xFFFF

def writeBase (st : (armcpu_t × Memory) × u32) : armcpu_t × Memory :=
  if i &&& ((1 : u32) <<< (REG_POS i 16).val) ≠ 0 then
    if i &&& bitList i ≠ 0 then (setR st.1.1 (REG_POS i 16) st.2, st.1.2) else st.1
  else (setR st.1.1 (REG_POS i 16) st.2, st.1.2)

def OP_LDMIA_W : armcpu_t × Memory := writeBase i (loadUpwards bus PROCNUM i cpu mem 0 4)

def OP_LDMIB_W : armcpu_t × Memory := writeBase i (loadUpwards bus PROCNUM i cpu mem 4 0)

def OP_LDMDA_W : armcpu_t × Memory := writeBase i (loadDownwards bus PROCNUM i cpu mem 0 (-4))

def OP_LDMDB_W : armcpu_t × Memory := writeBase i (loadDownwards bus PROCNUM i cpu mem (-4) 0)

end

/-- The handlers by addressing mode, with or without write-back. -/
def STM {Memory : Type} (bus : Bus Memory) (i : u32) :
    Addressing → (writesBack : Bool) → armcpu_t → Memory → armcpu_t × Memory
  | .IA, false => OP_STMIA bus i
  | .IB, false => OP_STMIB bus i
  | .DA, false => OP_STMDA bus i
  | .DB, false => OP_STMDB bus i
  | .IA, true => OP_STMIA_W bus i
  | .IB, true => OP_STMIB_W bus i
  | .DA, true => OP_STMDA_W bus i
  | .DB, true => OP_STMDB_W bus i

def STM2 {Memory : Type} (bus : Bus Memory) (i : u32) :
    Addressing → (writesBack : Bool) → armcpu_t → Memory → armcpu_t × Memory
  | .IA, false => OP_STMIA2 bus i
  | .IB, false => OP_STMIB2 bus i
  | .DA, false => OP_STMDA2 bus i
  | .DB, false => OP_STMDB2 bus i
  | .IA, true => OP_STMIA2_W bus i
  | .IB, true => OP_STMIB2_W bus i
  | .DA, true => OP_STMDA2_W bus i
  | .DB, true => OP_STMDB2_W bus i

def LDM {Memory : Type} (bus : Bus Memory) (PROCNUM : Proc) (i : u32) :
    Addressing → (writesBack : Bool) → armcpu_t → Memory → armcpu_t × Memory
  | .IA, false => OP_LDMIA bus PROCNUM i
  | .IB, false => OP_LDMIB bus PROCNUM i
  | .DA, false => OP_LDMDA bus PROCNUM i
  | .DB, false => OP_LDMDB bus PROCNUM i
  | .IA, true => OP_LDMIA_W bus PROCNUM i
  | .IB, true => OP_LDMIB_W bus PROCNUM i
  | .DA, true => OP_LDMDA_W bus PROCNUM i
  | .DB, true => OP_LDMDB_W bus PROCNUM i

namespace Addressing

def before : Addressing → u32
  | .IA | .DA => 0
  | .IB => 4
  | .DB => -4

def after : Addressing → u32
  | .IA => 4
  | .DA => -4
  | .IB | .DB => 0

def order : Addressing → List (Fin 16)
  | .IA | .IB => allUpwards
  | .DA | .DB => allDownwards

end Addressing

section

variable (i base : u32) (mode : Addressing)

def isListed (b : Fin 16) : Bool := BIT_N i b

def turns : List (Fin 16) := mode.order.filter (isListed i)

theorem mem_turns (reg : Fin 16) : reg ∈ turns i mode ↔ BIT_N i reg = true := by
  have all : reg ∈ mode.order := by
    cases mode with
    | IA | IB => exact List.mem_finRange reg
    | DA | DB => exact List.mem_reverse.mpr (List.mem_finRange reg)
  unfold turns
  rw [List.mem_filter]
  exact and_iff_right all

theorem listed_around {below above : List (Fin 16)} {b : Fin 16}
    (split : List.finRange 16 = below ++ b :: above) (present : isListed i b = true) :
    below.countP (isListed i) = rank i b ∧
      above.countP (isListed i) + (rank i b + 1) = rank i 16 := by
  have lower : below.countP (isListed i) = rank i b := by
    rw [rank,← Walk.below_eq split,List.countP_map]
    rfl
  have whole : (List.finRange 16).countP (isListed i) = rank i 16 := by
    rw [rank,← List.map_coe_finRange_eq_range,List.countP_map]
    rfl
  refine ⟨lower,?_⟩
  rw [← whole,split,List.countP_append,List.countP_cons_of_pos present,lower]
  omega

theorem visits_upwards (before after : u32) (step : before + after = 4) :
    Walk.visits (isListed i) before after base allUpwards =
      (allUpwards.filter (isListed i)).map
        (fun b : Fin 16 => (b, base + before + 4 * (rank i b : u32))) := by
  apply Walk.visits_eq
  intro first b last split present
  rw [step,(listed_around i split present).1,nsmul_eq_mul]
  ring

theorem visits_downwards (before after : u32) (step : before + after = -4) :
    Walk.visits (isListed i) before after base allDownwards =
      (allDownwards.filter (isListed i)).map
        (fun b : Fin 16 =>
          (b, base - 4 * (rank i 16 : u32) + 4 + before + 4 * (rank i b : u32))) := by
  apply Walk.visits_eq
  intro first b last split present
  have upwards : List.finRange 16 = last.reverse ++ b :: first.reverse := by
    rw [← List.reverse_reverse (List.finRange 16)]
    change allDownwards.reverse = _
    rw [split,List.reverse_append,List.reverse_cons,List.append_assoc]
    rfl
  have counted := (listed_around i upwards present).2
  rw [List.countP_reverse] at counted
  rw [step,← counted,nsmul_eq_mul,Nat.cast_add,Nat.cast_succ]
  ring

theorem visits_order :
    Walk.visits (isListed i) mode.before mode.after base mode.order =
      (turns i mode).map (fun b : Fin 16 => (b, wordAddress i base mode b)) := by
  cases mode with
  | IA =>
      refine (visits_upwards i base 0 4 rfl).trans (List.map_congr_left fun b _ => ?_)
      rw [wordAddress,lowestAddress,add_zero]
  | IB => exact visits_upwards i base 4 0 rfl
  | DA =>
      refine (visits_downwards i base 0 (-4) rfl).trans (List.map_congr_left fun b _ => ?_)
      rw [wordAddress,lowestAddress,add_zero]
  | DB =>
      have still : (4 : u32) + -4 = 0 := rfl
      refine (visits_downwards i base (-4) 0 rfl).trans (List.map_congr_left fun b _ => ?_)
      rw [wordAddress,lowestAddress,add_assoc _ (4 : u32),still,add_zero]

theorem countP_order : mode.order.countP (isListed i) = rank i 16 := by
  have up : (List.finRange 16).countP (isListed i) = rank i 16 := by
    rw [rank,← List.map_coe_finRange_eq_range,List.countP_map]
    rfl
  cases mode with
  | IA | IB => exact up
  | DA | DB => exact (List.countP_reverse).trans up

theorem behind_order :
    base + mode.order.countP (isListed i) • (mode.before + mode.after) =
      writtenBack base (rank i 16) mode := by
  rw [countP_order,nsmul_eq_mul]
  cases mode with
  | IA | IB =>
      rw [writtenBack,mul_comm]
      rfl
  | DA | DB =>
      rw [writtenBack]
      change base + (rank i 16 : u32) * -4 = _
      ring

end

section

variable {Memory : Type} (bus : Bus Memory) (PROCNUM : Proc) (i base : u32) (mode : Addressing)
  (cpu : armcpu_t) (mem : Memory)

def storedBlock (val : Fin 16 → u32) : Memory :=
  (turns i mode).foldl
    (fun mem b => bus.WRITE32 mem (wordAddress i base mode b.val) (val b)) mem

theorem foldl_storeRound :
    mode.order.foldl (storeRound bus i cpu mode.before mode.after) (mem, base) =
      (storedBlock bus i base mode mem cpu.R, writtenBack base (rank i 16) mode) := by
  have walk := Walk.foldl_step (isListed i) mode.before mode.after
    (fun mem b adr => bus.WRITE32 mem adr (cpu.R b)) mode.order mem base
  rw [visits_order,behind_order,List.foldl_map] at walk
  exact walk

theorem STM_eq (writesBack : Bool) :
    STM bus i mode writesBack cpu mem =
      (if writesBack then
          setR cpu (REG_POS i 16) (writtenBack (cpu.R (REG_POS i 16)) (rank i 16) mode)
        else cpu,
        storedBlock bus i (cpu.R (REG_POS i 16)) mode mem cpu.R) := by
  have walk := foldl_storeRound bus i (cpu.R (REG_POS i 16)) mode cpu mem
  cases writesBack with
  | false =>
      have stored : STM bus i mode false cpu mem =
          (cpu, (mode.order.foldl (storeRound bus i cpu mode.before mode.after)
            (mem, cpu.R (REG_POS i 16))).1) := by
        cases mode <;> rfl
      rw [stored,walk]
      rfl
  | true =>
      have stored : STM bus i mode true cpu mem =
          (setR cpu (REG_POS i 16)
            (mode.order.foldl (storeRound bus i cpu mode.before mode.after)
              (mem, cpu.R (REG_POS i 16))).2,
            (mode.order.foldl (storeRound bus i cpu mode.before mode.after)
              (mem, cpu.R (REG_POS i 16))).1) := by
        cases mode <;> rfl
      rw [stored,walk]
      rfl

def enterRegister (cpu : armcpu_t) (b : Fin 16) (word : u32) : armcpu_t :=
  if b = 15 then enterPC PROCNUM cpu word else setR cpu b word

def loadWord (st : armcpu_t × Memory) (b : Fin 16) (adr : u32) : armcpu_t × Memory :=
  (enterRegister PROCNUM st.1 b (bus.READ32 st.2 adr).1, (bus.READ32 st.2 adr).2)

def loadedBlock : armcpu_t × Memory :=
  (turns i mode).foldl
    (fun st b => loadWord bus PROCNUM st b (wordAddress i base mode b.val)) (cpu, mem)

theorem loads_walk (before after : u32) (regs : List (Fin 15)) (st : (armcpu_t × Memory) × u32) :
    regs.foldl (loadRound bus i before after) st =
      (regs.map Fin.castSucc).foldl
        (Walk.step (isListed i) before after (loadWord bus PROCNUM)) st := by
  have round (st : (armcpu_t × Memory) × u32) (reg : Fin 15) :
      loadRound bus i before after st reg =
        Walk.step (isListed i) before after (loadWord bus PROCNUM) st reg.castSucc := by
    have plain (word : u32) :
        enterRegister PROCNUM st.1.1 reg.castSucc word = setR st.1.1 reg.castSucc word :=
      if_neg (Fin.castSucc_lt_last reg).ne
    unfold loadRound Walk.step loadWord
    dsimp only
    rw [plain]
    rfl
  rw [List.foldl_map]
  exact congrArg (fun round => regs.foldl round st) (funext fun st => funext (round st))

theorem loadR15_walk (before after : u32) (st : (armcpu_t × Memory) × u32) :
    loadR15 bus PROCNUM i before after st =
      Walk.step (isListed i) before after (loadWord bus PROCNUM) st 15 := rfl

theorem foldl_loads (st : armcpu_t × Memory) :
    mode.order.foldl (Walk.step (isListed i) mode.before mode.after (loadWord bus PROCNUM))
        (st, base) =
      (loadedBlock bus PROCNUM i base mode st.1 st.2,
        writtenBack base (rank i 16) mode) := by
  have walk := Walk.foldl_step (isListed i) mode.before mode.after (loadWord bus PROCNUM)
    mode.order st base
  rw [visits_order,behind_order,List.foldl_map] at walk
  exact walk

theorem loadUpwards_eq (before after : u32) :
    loadUpwards bus PROCNUM i cpu mem before after =
      allUpwards.foldl (Walk.step (isListed i) before after (loadWord bus PROCNUM))
        ((cpu, mem), cpu.R (REG_POS i 16)) := by
  have split : allUpwards = upwards.map Fin.castSucc ++ [15] := rfl
  rw [loadUpwards,loads_walk bus PROCNUM,loadR15_walk,split,List.foldl_append]
  rfl

theorem loadDownwards_eq (before after : u32) :
    loadDownwards bus PROCNUM i cpu mem before after =
      allDownwards.foldl (Walk.step (isListed i) before after (loadWord bus PROCNUM))
        ((cpu, mem), cpu.R (REG_POS i 16)) := by
  have split : allDownwards = 15 :: downwards.map Fin.castSucc := rfl
  rw [loadDownwards,loads_walk bus PROCNUM,loadR15_walk,split,List.foldl_cons]

theorem LDM_eq (writesBack : Bool) :
    LDM bus PROCNUM i mode writesBack cpu mem =
      let loaded := loadedBlock bus PROCNUM i (cpu.R (REG_POS i 16)) mode cpu mem
      if writesBack then
        writeBase i (loaded, writtenBack (cpu.R (REG_POS i 16)) (rank i 16) mode)
      else loaded := by
  have walk := foldl_loads bus PROCNUM i (cpu.R (REG_POS i 16)) mode (cpu, mem)
  cases writesBack with
  | false =>
      have loaded : LDM bus PROCNUM i mode false cpu mem =
          (mode.order.foldl (Walk.step (isListed i) mode.before mode.after
            (loadWord bus PROCNUM)) ((cpu, mem), cpu.R (REG_POS i 16))).1 := by
        cases mode with
        | IA | IB => exact congrArg Prod.fst (loadUpwards_eq bus PROCNUM i cpu mem _ _)
        | DA | DB => exact congrArg Prod.fst (loadDownwards_eq bus PROCNUM i cpu mem _ _)
      rw [loaded,walk]
      rfl
  | true =>
      have loaded : LDM bus PROCNUM i mode true cpu mem =
          writeBase i (mode.order.foldl (Walk.step (isListed i) mode.before mode.after
            (loadWord bus PROCNUM)) ((cpu, mem), cpu.R (REG_POS i 16))) := by
        cases mode with
        | IA | IB => exact congrArg (writeBase i) (loadUpwards_eq bus PROCNUM i cpu mem _ _)
        | DA | DB => exact congrArg (writeBase i) (loadDownwards_eq bus PROCNUM i cpu mem _ _)
      rw [loaded,walk]
      rfl

end

end Desmume.Cpu
