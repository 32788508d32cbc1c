/-
Card transfers: `MMU_writeToGCControl`, `MMU_readFromGC`, `MMU_writeToGC` and
`MMU_GC_endTransfer`.

A command with a block size starts a count of bytes for its processor, every
access to the data port takes four, and the one that takes the last four ends
the transfer.
-/

import Desmume.Types
import Desmume.Lib.Run

namespace Desmume.Card

open Function (update update_of_ne update_self)

def IRQ_BIT_GC_TRANSFER_COMPLETE : Nat := 19

abbrev GC_Command := Fin 8 → u8

/-- The card in the slot. None of the devices touches the state of the bus. -/
structure ISlot1Interface (Device : Type) where
  write_command : Proc → GC_Command → Device → Device
  read_GCDATAIN : Proc → Device → u32 × Device
  write_GCDATAIN : Proc → u32 → Device → Device

/-- What the bus asks of the rest of the system. -/
inductive Event
  | applySeed (proc : Proc)
  | endTransfer (proc : Proc)
  | makeIrq (proc : Proc) (num : Nat)
  | triggerDma (mode : EDMAMode)
  deriving DecidableEq

structure State (Device : Type) where
  transfer_count : Proc → Int
  MMU_MEM : Proc → IoMem
  AUX_SPI_CNT : u16
  device : Device

variable {Device : Type}

def State.control (st : State Device) (proc : Proc) : u32 :=
  T1ReadLong (st.MMU_MEM proc) 0x1A4

def State.setControl (st : State Device) (proc : Proc) (val : u32) : State Device :=
  { st with
    MMU_MEM := update st.MMU_MEM proc
      (T1WriteLong (st.MMU_MEM proc) 0x1A4 val) }

def State.setCount (st : State Device) (proc : Proc) (n : Int) : State Device :=
  { st with transfer_count := update st.transfer_count proc n }

def completionIrq (st : State Device) (proc : Proc) : List Event :=
  if st.AUX_SPI_CNT &&& 0x4000 ≠ 0 then [.makeIrq proc IRQ_BIT_GC_TRANSFER_COMPLETE] else []

def MMU_GC_endTransfer (st : State Device) (proc : Proc) : State Device × List Event :=
  let val := st.control proc &&& 0x7F7FFFFF
  (st.setControl proc val, .endTransfer proc :: completionIrq st proc)

def blocksize_table : Fin 8 → Nat := ![0,0x200,0x400,0x800,0x1000,0x2000,0x4000,4]

/-- `blocksize_table[(val >> 24) & 7]`. -/
def blocksize (val : u32) : Nat := blocksize_table (val.extractLsb' 24 3).toFin

def start (val : u32) : Bool := val.getLsbD 31

def rawcmd (st : State Device) (proc : Proc) : GC_Command :=
  fun i => st.MMU_MEM proc (0x1A8 + i)

def startCommand (slot1 : ISlot1Interface Device) (st : State Device) (proc : Proc)
    (val : u32) : State Device × List Event :=
  let st :=
    { st with device := slot1.write_command proc (rawcmd st proc) st.device }
  let st := st.setCount proc (blocksize val)
  if st.transfer_count proc = 0 then MMU_GC_endTransfer st proc
  else (st.setControl proc (val ||| 0x00800000), [.triggerDma .Card])

/-- `key2.applySeed`, on the strobe bit of a control write. -/
def seeds (proc : Proc) (val : u32) : List Event :=
  if val.getLsbD 15 then [.applySeed proc] else []

def MMU_writeToGCControl (slot1 : ISlot1Interface Device) (st : State Device) (proc : Proc)
    (val : u32) : State Device × List Event :=
  if start val then
    let started := startCommand slot1 st proc val
    (started.1, seeds proc val ++ started.2)
  else (st.setControl proc (val &&& 0x7F7FFFFF), seeds proc val)

def countDown (st : State Device) (proc : Proc) : State Device × List Event :=
  let st := st.setCount proc (st.transfer_count proc - 4)
  if st.transfer_count proc ≤ 0 then MMU_GC_endTransfer st proc else (st, [])

def MMU_readFromGC (slot1 : ISlot1Interface Device) (st : State Device) (proc : Proc) :
    u32 × State Device × List Event :=
  if st.transfer_count proc = 0 then (0, st, [])
  else
    let read := slot1.read_GCDATAIN proc st.device
    (read.1, countDown { st with device := read.2 } proc)

def MMU_writeToGC (slot1 : ISlot1Interface Device) (st : State Device) (proc : Proc)
    (val : u32) : State Device × List Event :=
  countDown { st with device := slot1.write_GCDATAIN proc val st.device } proc

/-- A call of either processor, or anything the rest of the system does to the
registers in between. -/
inductive Op
  | writeToGCControl (proc : Proc) (val : u32)
  | readFromGC (proc : Proc)
  | writeToGC (proc : Proc) (val : u32)
  | elsewhere (MMU_MEM : Proc → IoMem) (AUX_SPI_CNT : u16)

def step (slot1 : ISlot1Interface Device) (st : State Device) : Op → State Device × List Event
  | .writeToGCControl proc val => MMU_writeToGCControl slot1 st proc val
  | .readFromGC proc => (MMU_readFromGC slot1 st proc).2
  | .writeToGC proc val => MMU_writeToGC slot1 st proc val
  | .elsewhere MMU_MEM AUX_SPI_CNT =>
      ({ st with MMU_MEM := MMU_MEM, AUX_SPI_CNT := AUX_SPI_CNT }, [])

variable (before : State Device)

/-- `MMU_Reset`, of the two transfer counts. -/
def reset : State Device :=
  { before with transfer_count := fun _ => 0 }

def Op.isStart (proc : Proc) : Op → Bool
  | .writeToGCControl other val => decide (other = proc) && start val
  | _ => false

def Op.isData (proc : Proc) : Op → Bool
  | .readFromGC other => decide (other = proc)
  | .writeToGC other _ => decide (other = proc)
  | _ => false

def accesses (proc : Proc) (ops : List Op) : Nat := ops.countP (Op.isData proc)

def completions (proc : Proc) (log : List Event) : Nat := log.count (.endTransfer proc)

def completionIrqs (proc : Proc) (log : List Event) : Nat :=
  log.count (.makeIrq proc IRQ_BIT_GC_TRANSFER_COMPLETE)

def Counted (st : State Device) : Prop :=
  ∀ proc, 0 ≤ st.transfer_count proc ∧ 4 ∣ st.transfer_count proc

def WithinTransfer (st : State Device) : Op → Prop
  | .writeToGC proc _ => st.transfer_count proc ≠ 0
  | _ => True

def Idle (st : State Device) (proc : Proc) : Prop :=
  st.control proc &&& 0x80800000 = 0

/-- What is asked of a run: the counts, and for every command that starts a
transfer of `b` bytes and everything up to the next start, one completion from
access `b / 4` on and none before, with at most one interrupt, that leaves the
ready and busy bits cleared. -/
structure Accounted (slot1 : ISlot1Interface Device) (st : State Device) (ops : List Op) :
    Prop where
  counted : Run.Always (fun st op => (step slot1 st op).1) Counted st ops
  completes : ∀ (before : List Op) (proc : Proc) (val : u32) (later : List Op),
    before ++ .writeToGCControl proc val :: later <+: ops → start val = true →
    0 < blocksize val → (∀ op ∈ later, op.isStart proc = false) →
    let started := (Run.logged (step slot1) st (before ++ [.writeToGCControl proc val])).1
    let log := (Run.logged (step slot1) started later).2
    completions proc log = (if blocksize val / 4 ≤ accesses proc later then 1 else 0) ∧
      completionIrqs proc log ≤ completions proc log
  cleared : ∀ (before : List Op) (op : Op) (proc : Proc),
    before ++ [op] <+: ops →
    .endTransfer proc ∈ (step slot1 (Run.logged (step slot1) st before).1 op).2 →
    Idle (Run.logged (step slot1) st (before ++ [op])).1 proc

@[simp] theorem setCount_count (st : State Device) (proc : Proc) (n : Int) :
    (st.setCount proc n).transfer_count =
      update st.transfer_count proc n := rfl

theorem countDown_count (st : State Device) (proc : Proc) :
    (countDown st proc).1.transfer_count =
      update st.transfer_count proc (st.transfer_count proc - 4) := by
  unfold countDown
  dsimp only
  split
  next => rfl
  next => rfl

theorem startCommand_count (slot1 : ISlot1Interface Device) (st : State Device) (proc : Proc)
    (val : u32) :
    (startCommand slot1 st proc val).1.transfer_count =
      update st.transfer_count proc (blocksize val : Int) := by
  unfold startCommand
  dsimp only
  split
  next => rfl
  next => rfl

theorem control_count (slot1 : ISlot1Interface Device) (st : State Device) (proc : Proc)
    (val : u32) :
    (MMU_writeToGCControl slot1 st proc val).1.transfer_count =
      if start val then update st.transfer_count proc (blocksize val : Int)
      else st.transfer_count := by
  unfold MMU_writeToGCControl
  split
  next => exact startCommand_count slot1 st proc val
  next => rfl

theorem readFromGC_count (slot1 : ISlot1Interface Device) (st : State Device) (proc : Proc) :
    (MMU_readFromGC slot1 st proc).2.1.transfer_count =
      if st.transfer_count proc = 0 then st.transfer_count
      else update st.transfer_count proc (st.transfer_count proc - 4) := by
  unfold MMU_readFromGC
  split
  next => rfl
  next => exact countDown_count _ proc

theorem writeToGC_count (slot1 : ISlot1Interface Device) (st : State Device) (proc : Proc)
    (val : u32) :
    (MMU_writeToGC slot1 st proc val).1.transfer_count =
      update st.transfer_count proc (st.transfer_count proc - 4) :=
  countDown_count _ proc

theorem four_dvd_blocksize (val : u32) : 4 ∣ blocksize val := by
  have all : ∀ field, 4 ∣ blocksize_table field := by decide
  exact all _

variable {st : State Device} {proc : Proc} {slot1 : ISlot1Interface Device} {left : Nat}
  {which : Proc} {val : u32}

theorem counted_update {next : State Device} {n : Int} (counted : Counted st)
    (updated : next.transfer_count = update st.transfer_count proc n) :
    Counted next ↔ 0 ≤ n ∧ 4 ∣ n := by
  constructor
  · intro after
    have own := after proc
    rw [updated,update_self] at own
    exact own
  · intro own which
    rw [updated]
    by_cases same : which = proc
    · rw [same,update_self]
      exact own
    · rw [update_of_ne same]
      exact counted which

theorem counted_same {next : State Device} (counted : Counted st)
    (same : next.transfer_count = st.transfer_count) : Counted next := by
  intro proc
  rw [same]
  exact counted proc

theorem counted_sub_four (counted : Counted st) (proc : Proc) :
    (0 ≤ st.transfer_count proc - 4 ∧ 4 ∣ st.transfer_count proc - 4) ↔
      st.transfer_count proc ≠ 0 := by
  obtain ⟨nonneg,words⟩ := counted proc
  omega

theorem counted_step_iff (slot1 : ISlot1Interface Device) (st : State Device) (op : Op)
    (counted : Counted st) : Counted (step slot1 st op).1 ↔ WithinTransfer st op := by
  cases op with
  | writeToGCControl proc val =>
      refine iff_of_true ?_ trivial
      have n := control_count slot1 st proc val
      cases started : start val with
      | true =>
          rw [started,if_pos rfl] at n
          refine (counted_update counted n).mpr ⟨Int.natCast_nonneg _,?_⟩
          exact Int.natCast_dvd_natCast.mpr (four_dvd_blocksize val)
      | false =>
          rw [started,if_neg Bool.false_ne_true] at n
          exact counted_same counted n
  | readFromGC proc =>
      refine iff_of_true ?_ trivial
      have n := readFromGC_count slot1 st proc
      by_cases ended : st.transfer_count proc = 0
      · rw [if_pos ended] at n
        exact counted_same counted n
      · rw [if_neg ended] at n
        exact (counted_update counted n).mpr ((counted_sub_four counted proc).mpr ended)
  | writeToGC proc val =>
      have n := writeToGC_count slot1 st proc val
      exact (counted_update counted n).trans (counted_sub_four counted proc)
  | elsewhere MMU_MEM AUX_SPI_CNT =>
      exact iff_of_true (counted_same counted rfl) trivial

theorem counted_reset : Counted (reset before) :=
  fun _ => ⟨le_rfl,dvd_zero _⟩

theorem completionIrq_cases (st : State Device) (proc : Proc) :
    completionIrq st proc = [.makeIrq proc IRQ_BIT_GC_TRANSFER_COMPLETE] ∨
      completionIrq st proc = [] := by
  unfold completionIrq
  split
  next => exact Or.inl rfl
  next => exact Or.inr rfl

theorem seeds_cases (proc : Proc) (val : u32) :
    seeds proc val = [.applySeed proc] ∨ seeds proc val = [] := by
  unfold seeds
  split
  next => exact Or.inl rfl
  next => exact Or.inr rfl

theorem seeds_append_log (proc which : Proc) (val : u32) (rest : List Event) :
    completions which (seeds proc val ++ rest) = completions which rest ∧
      completionIrqs which (seeds proc val ++ rest) = completionIrqs which rest := by
  rcases seeds_cases proc val with applied | none
  · rw [applied]
    exact ⟨List.count_cons_of_ne Event.noConfusion,List.count_cons_of_ne Event.noConfusion⟩
  · rw [none]
    exact ⟨rfl,rfl⟩

theorem endTransfer_log (st : State Device) (proc which : Proc) :
    completions which (MMU_GC_endTransfer st proc).2 = (if proc = which then 1 else 0) ∧
      completionIrqs which (MMU_GC_endTransfer st proc).2 ≤
        completions which (MMU_GC_endTransfer st proc).2 := by
  unfold MMU_GC_endTransfer completions completionIrqs
  dsimp only
  by_cases same : proc = which
  · subst same
    rcases completionIrq_cases st proc with raised | silent
    · rw [raised]
      simp
    · rw [silent]
      simp
  · rcases completionIrq_cases st proc with raised | silent
    · rw [raised]
      simp [same]
    · rw [silent]
      simp [same]

theorem endTransfer_silent (st : State Device) (ne : proc ≠ which) :
    completions which (MMU_GC_endTransfer st proc).2 = 0 ∧
      completionIrqs which (MMU_GC_endTransfer st proc).2 = 0 := by
  obtain ⟨completed,irqs⟩ := endTransfer_log st proc which
  rw [if_neg ne] at completed
  exact ⟨completed,Nat.le_zero.mp (completed ▸ irqs)⟩

theorem countDown_log (st : State Device) (proc which : Proc) :
    completions which (countDown st proc).2 =
        (if proc = which ∧ st.transfer_count proc ≤ 4 then 1 else 0) ∧
      completionIrqs which (countDown st proc).2 ≤
        completions which (countDown st proc).2 := by
  unfold countDown
  dsimp only
  rw [setCount_count,update_self]
  by_cases last : st.transfer_count proc - 4 ≤ 0
  · have ends : (proc = which ∧ st.transfer_count proc ≤ 4) ↔ proc = which :=
      and_iff_left (by omega)
    rw [if_pos last,if_congr ends rfl rfl]
    exact endTransfer_log _ proc which
  · rw [if_neg last,if_neg (by omega)]
    exact ⟨rfl,le_rfl⟩

/-- What one call does to the words left for a processor: one word fewer if it
is an access to its port, and the completion if that was the last. -/
structure Takes (proc : Proc) (left taken : Nat) (next : State Device × List Event) :
    Prop where
  count : next.1.transfer_count proc = 4 * ((left - taken : Nat) : Int)
  completed : completions proc next.2 = if taken = 1 ∧ left = 1 then 1 else 0
  irqs : completionIrqs proc next.2 ≤ completions proc next.2

theorem takes_nothing {next : State Device × List Event}
    (words : st.transfer_count proc = 4 * (left : Int))
    (same : next.1.transfer_count proc = st.transfer_count proc)
    (silent : completions proc next.2 = 0 ∧ completionIrqs proc next.2 = 0) :
    Takes proc left 0 next where
  count := by rw [same,words,Nat.sub_zero]
  completed := silent.1
  irqs := by rw [silent.1,silent.2]

theorem takes_countDown (words : st.transfer_count proc = 4 * ((left + 1 : Nat) : Int)) :
    Takes proc (left + 1) 1 (countDown st proc) where
  count := by
    rw [countDown_count,update_self,words]
    push_cast
    omega
  completed := by
    rw [(countDown_log st proc proc).1]
    refine if_congr ?_ rfl rfl
    rw [and_iff_right rfl,and_iff_right rfl,words]
    omega
  irqs := (countDown_log st proc proc).2

theorem takes_countDown_other {other : Proc}
    (words : st.transfer_count proc = 4 * (left : Int)) (ne : other ≠ proc) :
    Takes proc left 0 (countDown st other) := by
  obtain ⟨completed,irqs⟩ := countDown_log st other proc
  rw [if_neg (fun both => ne both.1)] at completed
  refine takes_nothing words ?_ ⟨completed,Nat.le_zero.mp (completed ▸ irqs)⟩
  rw [countDown_count,update_of_ne ne.symm]

theorem takes_control {other : Proc} (words : st.transfer_count proc = 4 * (left : Int))
    (noStart : (Op.writeToGCControl other val).isStart proc = false) :
    Takes proc left 0 (MMU_writeToGCControl slot1 st other val) := by
  cases started : start val with
  | false =>
      obtain ⟨completed,irqs⟩ := seeds_append_log other proc val []
      rw [List.append_nil] at completed irqs
      unfold MMU_writeToGCControl
      rw [started,if_neg Bool.false_ne_true]
      exact takes_nothing words rfl ⟨completed,irqs⟩
  | true =>
      have ne : other ≠ proc := by
        intro same
        rw [Op.isStart,decide_eq_true same,started] at noStart
        exact Bool.noConfusion noStart
      have silent : completions proc (startCommand slot1 st other val).2 = 0 ∧
          completionIrqs proc (startCommand slot1 st other val).2 = 0 := by
        unfold startCommand
        dsimp only
        split
        next => exact endTransfer_silent _ ne
        next => exact ⟨rfl,rfl⟩
      have n := control_count slot1 st other val
      unfold MMU_writeToGCControl at n ⊢
      rw [started,if_pos rfl] at n ⊢
      rw [if_pos rfl] at n
      obtain ⟨completed,irqs⟩ :=
        seeds_append_log other proc val (startCommand slot1 st other val).2
      refine takes_nothing words ?_ ⟨completed.trans silent.1,irqs.trans silent.2⟩
      rw [n,update_of_ne ne.symm]

theorem takes_step {slot1 : ISlot1Interface Device} {st : State Device} {proc : Proc}
    {left : Nat} {op : Op} (words : st.transfer_count proc = 4 * (left : Int))
    (within : WithinTransfer st op) (noStart : op.isStart proc = false) :
    Takes proc left (if op.isData proc then 1 else 0) (step slot1 st op) := by
  cases op with
  | writeToGCControl other val => exact takes_control words noStart
  | elsewhere MMU_MEM AUX_SPI_CNT => exact takes_nothing words rfl ⟨rfl,rfl⟩
  | readFromGC other =>
      change Takes proc left _ (MMU_readFromGC slot1 st other).2
      unfold MMU_readFromGC
      by_cases same : other = proc
      · subst same
        rw [Op.isData,decide_eq_true rfl,if_pos rfl]
        cases left with
        | zero =>
            rw [if_pos (by rw [words]; rfl)]
            exact ⟨words,rfl,le_rfl⟩
        | succ left =>
            rw [if_neg (by rw [words]; omega)]
            exact takes_countDown words
      · rw [Op.isData,decide_eq_false same,if_neg Bool.false_ne_true]
        split
        next => exact takes_nothing words rfl ⟨rfl,rfl⟩
        next => exact takes_countDown_other words same
  | writeToGC other val =>
      change Takes proc left _ (countDown _ other)
      by_cases same : other = proc
      · subst same
        rw [Op.isData,decide_eq_true rfl,if_pos rfl]
        cases left with
        | zero => exact absurd words within
        | succ left => exact takes_countDown words
      · rw [Op.isData,decide_eq_false same,if_neg Bool.false_ne_true]
        exact takes_countDown_other words same

theorem last_word (left later : Nat) :
    ((if 1 = 1 ∧ left = 1 then 1 else 0) + if 0 < left - 1 ∧ left - 1 ≤ later then 1 else 0) =
      if 0 < left ∧ left ≤ later + 1 then 1 else 0 := by
  rcases left with _ | _ | left
  · simp
  · simp
  · simp

theorem transfer_run {later : List Op} (words : st.transfer_count proc = 4 * (left : Int))
    (within : Run.Guarded (fun st op => (step slot1 st op).1) WithinTransfer st later)
    (noStart : ∀ op ∈ later, op.isStart proc = false) :
    completions proc (Run.logged (step slot1) st later).2 =
        (if 0 < left ∧ left ≤ accesses proc later then 1 else 0) ∧
      completionIrqs proc (Run.logged (step slot1) st later).2 ≤
        completions proc (Run.logged (step slot1) st later).2 := by
  induction later generalizing st left with
  | nil =>
      rw [if_neg (fun both => absurd (both.1.trans_le both.2) (lt_irrefl 0))]
      exact ⟨rfl,le_rfl⟩
  | cons op rest ih =>
      obtain ⟨noStartHere,noStartLater⟩ := List.forall_mem_cons.mp noStart
      have takes := @takes_step _ slot1 _ _ _ _ words within.1 noStartHere
      obtain ⟨completed,irqs⟩ := ih takes.count within.2 noStartLater
      have completedBoth : completions proc (Run.logged (step slot1) st (op :: rest)).2 =
          completions proc (step slot1 st op).2 +
            completions proc (Run.logged (step slot1) (step slot1 st op).1 rest).2 :=
        List.count_append
      have irqsBoth : completionIrqs proc (Run.logged (step slot1) st (op :: rest)).2 =
          completionIrqs proc (step slot1 st op).2 +
            completionIrqs proc (Run.logged (step slot1) (step slot1 st op).1 rest).2 :=
        List.count_append
      have counted : accesses proc (op :: rest) =
          accesses proc rest + if op.isData proc then 1 else 0 := List.countP_cons
      rw [completedBoth,irqsBoth]
      refine ⟨?_,Nat.add_le_add takes.irqs irqs⟩
      rw [takes.completed,completed,counted]
      cases op.isData proc with
      | false => simp
      | true => exact last_word left (accesses proc rest)

/-! ### Ready and busy -/

theorem idle_endTransfer (st : State Device) (proc : Proc) :
    Idle (MMU_GC_endTransfer st proc).1 proc := by
  have page : (MMU_GC_endTransfer st proc).1.MMU_MEM proc =
      T1WriteLong (st.MMU_MEM proc) 0x1A4 (st.control proc &&& 0x7F7FFFFF) :=
    update_self _ _ _
  unfold Idle State.control at *
  rw [page,T1ReadLong_T1WriteLong,BitVec.and_assoc]
  have disjoint : (0x7F7FFFFF : u32) &&& 0x80800000 = 0 := rfl
  rw [disjoint]
  exact BitVec.and_zero

theorem endTransfer_mem
    (ends : .endTransfer which ∈ (MMU_GC_endTransfer st proc).2) : which = proc := by
  unfold MMU_GC_endTransfer at ends
  cases List.mem_cons.mp ends with
  | inl same => exact Event.endTransfer.inj same
  | inr later =>
      rcases completionIrq_cases st proc with raised | silent
      · rw [raised] at later
        exact nomatch List.mem_singleton.mp later
      · rw [silent] at later
        exact nomatch later

theorem idle_countDown (ends : .endTransfer which ∈ (countDown st proc).2) :
    Idle (countDown st proc).1 which := by
  unfold countDown at ends ⊢
  dsimp only at ends ⊢
  split at ends
  next last =>
    rw [if_pos last,endTransfer_mem ends]
    exact idle_endTransfer _ proc
  next => exact nomatch ends

theorem idle_startCommand (ends : .endTransfer which ∈ (startCommand slot1 st proc val).2) :
    Idle (startCommand slot1 st proc val).1 which := by
  unfold startCommand at ends ⊢
  dsimp only at ends ⊢
  split at ends
  next empty =>
    rw [if_pos empty,endTransfer_mem ends]
    exact idle_endTransfer _ proc
  next => exact nomatch List.mem_singleton.mp ends

theorem idle_step {op : Op} (ends : .endTransfer proc ∈ (step slot1 st op).2) :
    Idle (step slot1 st op).1 proc := by
  cases op with
  | writeToGCControl other val =>
      change _ ∈ (MMU_writeToGCControl slot1 st other val).2 at ends
      change Idle (MMU_writeToGCControl slot1 st other val).1 proc
      have seeds : Event.endTransfer proc ∉ seeds other val := by
        rcases seeds_cases other val with applied | none
        · rw [applied]
          exact fun member => nomatch List.mem_singleton.mp member
        · rw [none]
          exact List.not_mem_nil
      unfold MMU_writeToGCControl at ends ⊢
      split at ends
      next started =>
        rw [if_pos started]
        exact idle_startCommand ((List.mem_append.mp ends).resolve_left seeds)
      next => exact absurd ends seeds
  | readFromGC other =>
      change _ ∈ (MMU_readFromGC slot1 st other).2.2 at ends
      change Idle (MMU_readFromGC slot1 st other).2.1 proc
      unfold MMU_readFromGC at ends ⊢
      split at ends
      next => exact nomatch ends
      next active =>
        rw [if_neg active]
        exact idle_countDown ends
  | writeToGC other val => exact idle_countDown ends
  | elsewhere MMU_MEM AUX_SPI_CNT => exact nomatch ends

theorem started_count (slot1 : ISlot1Interface Device) (st : State Device)
    (before : List Op) (proc : Proc) (started : start val = true) :
    (Run.logged (step slot1) st
        (before ++ [.writeToGCControl proc val])).1.transfer_count proc =
      4 * ((blocksize val / 4 : Nat) : Int) := by
  rw [Run.logged_snoc]
  change (MMU_writeToGCControl slot1 _ proc val).1.transfer_count proc = _
  rw [control_count,if_pos started,update_self]
  have words := Nat.mul_div_cancel' (four_dvd_blocksize val)
  omega

theorem counted_run_iff (slot1 : ISlot1Interface Device) (before : State Device) (ops : List Op) :
    Run.Always (fun st op => (step slot1 st op).1) Counted (reset before) ops ↔
      Run.Guarded (fun st op => (step slot1 st op).1) WithinTransfer (reset before) ops :=
  Run.always_iff_guarded (fun _ _ _ => trivial)
    (fun st op (_ : True) counted => counted_step_iff slot1 st op counted) trivial
    (counted_reset before) ops

/-- From reset, all transfers of a run are accounted for exactly when no write to
the data port comes while its processor has no transfer. -/
theorem transfers_accounted_iff (slot1 : ISlot1Interface Device) (before : State Device)
    (ops : List Op) :
    Accounted slot1 (reset before) ops ↔
      Run.Guarded (fun st op => (step slot1 st op).1) WithinTransfer (reset before) ops := by
  constructor
  · intro accounted
    exact (counted_run_iff slot1 before ops).mp accounted.counted
  · intro within
    refine ⟨(counted_run_iff slot1 before ops).mpr within,?_,?_⟩
    · intro earlier proc val later part started some noStart
      obtain ⟨rest,rfl⟩ := part
      have upTo := ((Run.guarded_append _ _ _ _ _).mp within).1
      rw [List.append_cons,Run.guarded_append] at upTo
      have words := started_count slot1 (reset before) earlier proc started
      have guarded := upTo.2
      rw [← Run.logged_fst] at guarded
      obtain ⟨completed,irqs⟩ := transfer_run words guarded noStart
      refine ⟨?_,irqs⟩
      rw [completed]
      have aligned := Nat.mul_div_cancel' (four_dvd_blocksize val)
      exact if_congr (and_iff_right (by omega)) rfl rfl
    · intro earlier op proc part ends
      rw [Run.logged_snoc]
      exact idle_step ends

/-- A write to the data port right after reset takes four bytes from none. -/
theorem write_outside_transfer_miscounts :
    ¬ ∀ (slot1 : ISlot1Interface Unit) (before : State Unit) (ops : List Op),
      Accounted slot1 (reset before) ops := by
  intro everywhere
  let slot1 : ISlot1Interface Unit :=
    { write_command := fun _ _ device => device
      read_GCDATAIN := fun _ device => (0, device)
      write_GCDATAIN := fun _ _ device => device }
  let before : State Unit :=
    { transfer_count := fun _ => 0, MMU_MEM := fun _ _ => 0, AUX_SPI_CNT := 0, device := () }
  have accounted := everywhere slot1 before [.writeToGC .ARMCPU_ARM9 0]
  have after := accounted.counted.2 .ARMCPU_ARM9
  have n := writeToGC_count slot1 (reset before) .ARMCPU_ARM9 0
  exact absurd (congrFun n .ARMCPU_ARM9 ▸ after.1) (by decide)

end Desmume.Card
