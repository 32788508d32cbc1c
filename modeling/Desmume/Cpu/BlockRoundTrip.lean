/-
The words of an ARM block transfer, and a block that is stored and loaded again.

The listed registers lie in order of their numbers in consecutive words, the
lowest one at the lowest address, whichever way the handler walks.
-/

import Desmume.Cpu.BlockTransfer
import Desmume.Thumb.StackRoundTrip

namespace Desmume.Cpu

open Thumb (Bus PlainBlock Keeps storeAll)

/-- `n` words from an address. -/
def words (start : u32) (n : Nat) (adr : u32) : Prop := ∃ k < n, adr = start + 4 * (k : u32)

section

variable (i base : u32) (mode : Addressing)

theorem rank_mono {below above : Nat} (ordered : below ≤ above) : rank i below ≤ rank i above :=
  (List.range_sublist.mpr ordered).countP_le

theorem rank_lt {reg : Nat} {bound : Nat} (present : BIT_N i reg = true) (inside : reg < bound) :
    rank i reg < rank i bound := by
  have next : rank i (reg + 1) = rank i reg + 1 := by
    rw [rank,List.range_succ,List.countP_append]
    exact congrArg _ (List.countP_cons_of_pos present)
  have later := rank_mono i (show reg + 1 ≤ bound from inside)
  omega

theorem words_wordAddress {reg : Fin 16} (present : BIT_N i reg = true) :
    words (lowestAddress base (rank i 16) mode) (rank i 16) (wordAddress i base mode reg) :=
  ⟨rank i reg,rank_lt i present reg.isLt,rfl⟩

theorem wordAddress_injective {reg other : Fin 16} (present : BIT_N i reg = true)
    (otherPresent : BIT_N i other = true)
    (same : wordAddress i base mode reg = wordAddress i base mode other) : reg = other := by
  have small : rank i 16 ≤ 16 := by
    have counted := List.countP_le_length (p := BIT_N i) (l := List.range 16)
    rwa [List.length_range] at counted
  have first := rank_lt i present reg.isLt
  have second := rank_lt i otherPresent other.isLt
  have ranks : rank i reg = rank i other := by
    have offsets : 4 * (rank i reg : u32) = 4 * (rank i other : u32) := by
      unfold wordAddress at same
      exact (BitVec.add_right_inj _).mp same
    have val (k : Nat) (bound : k < 16) : (4 * (k : u32)).toNat = 4 * k := by
      have cast : (k : u32) = BitVec.ofNat 32 k := rfl
      rw [cast,BitVec.toNat_mul,BitVec.toNat_ofNat]
      change 4 * (k % 2 ^ 32) % 2 ^ 32 = 4 * k
      omega
    have values := congrArg BitVec.toNat offsets
    rw [val _ (by omega),val _ (by omega)] at values
    omega
  apply Fin.ext
  rcases Nat.lt_trichotomy reg other with below | equal | above
  · exact absurd ranks (Nat.ne_of_lt (rank_lt i present below))
  · exact equal
  · exact absurd ranks (Nat.ne_of_gt (rank_lt i otherPresent above))

theorem wordAddress_aligned (aligned : base.toNat % 4 = 0) (reg : Nat) :
    wordAddress i base mode reg &&& 0xFFFFFFFC = wordAddress i base mode reg := by
  have whole : (wordAddress i base mode reg).toNat % 4 = 0 := by
    unfold wordAddress
    generalize (rank i reg : u32) = k
    cases mode with
    | IA =>
        change (base + 4 * k).toNat % 4 = 0
        bv_omega
    | IB =>
        change (base + 4 + 4 * k).toNat % 4 = 0
        bv_omega
    | DA =>
        change (base - 4 * (rank i 16 : u32) + 4 + 4 * k).toNat % 4 = 0
        generalize (rank i 16 : u32) = n
        bv_omega
    | DB =>
        change (base - 4 * (rank i 16 : u32) + 4 * k).toNat % 4 = 0
        generalize (rank i 16 : u32) = n
        bv_omega
  apply BitVec.eq_of_toNat_eq
  have masked := Bios.toNat_align4 (wordAddress i base mode reg)
  change (wordAddress i base mode reg &&& ~~~3).toNat = _
  omega

end

section

variable {Memory : Type} {bus : Bus Memory} {settled : Memory → Prop} {within : u32 → Prop}
  {addr : Fin 16 → u32} {mem : Memory}

structure Holds (bus : Bus Memory) (settled : Memory → Prop) (within : u32 → Prop)
    (addr val : Fin 16 → u32) (regs : List (Fin 16)) (before after : Memory) : Prop where
  settled : settled after
  stored : ∀ b ∈ regs, (bus.read32 after (addr b)).1 = val b
  others : ∀ adr, within adr → (∀ b ∈ regs, adr ≠ addr b) →
    (bus.read32 after adr).1 = (bus.read32 before adr).1

theorem holds_stores (plain : PlainBlock bus settled within) (val : Fin 16 → u32)
    (regs : List (Fin 16)) (inside : ∀ b ∈ regs, within (addr b))
    (apart : ∀ b ∈ regs, ∀ c ∈ regs, addr b = addr c → b = c) (distinct : regs.Nodup)
    (mapped : settled mem) :
    Holds bus settled within addr val regs mem
      (regs.foldl (fun mem b => bus.write32 mem (addr b) (val b)) mem) := by
  induction regs generalizing mem with
  | nil => exact ⟨mapped,fun _ absent => absurd absent List.not_mem_nil, fun _ _ _ => rfl⟩
  | cons first rest ih =>
      obtain ⟨fresh,distinctRest⟩ := List.nodup_cons.mp distinct
      have here := inside first List.mem_cons_self
      have later := ih (fun b member => inside b (List.mem_cons_of_mem _ member))
        (fun b member c other => apart b (List.mem_cons_of_mem _ member) c
          (List.mem_cons_of_mem _ other)) distinctRest
        (plain.write_settled mem _ (val first) mapped here)
      have ne : ∀ b ∈ rest, addr first ≠ addr b := by
        intro b member same
        rw [apart first List.mem_cons_self b (List.mem_cons_of_mem _ member) same] at fresh
        exact fresh member
      constructor
      · exact later.settled
      · intro b member
        rcases List.mem_cons.mp member with same | member
        · rw [same,List.foldl_cons,later.others _ here ne]
          exact plain.read_written mem _ _ mapped here
        · exact later.stored b member
      · intro adr covered other
        rw [List.foldl_cons,later.others adr covered fun b member =>
          other b (List.mem_cons_of_mem _ member)]
        exact plain.read_other mem _ _ _ mapped here covered
          (other first List.mem_cons_self)

def fetched (PROCNUM : Proc) (b : Fin 16) (word : u32) : u32 :=
  if b = 15 then
    if PROCNUM = .ARMCPU_ARM9 then word &&& 0xFFFFFFFE else word &&& 0xFFFFFFFC
  else word

/-- The listed registers hold their words; R15 continues at its word, on the ARM9 in
the state that bit 0 of it selects. -/
structure Loads (bus : Bus Memory) (settled : Memory → Prop) (within : u32 → Prop)
    (PROCNUM : Proc) (addr : Fin 16 → u32) (regs : List (Fin 16)) (cpu : armcpu_t)
    (mem : Memory) (after : armcpu_t × Memory) : Prop where
  kept : Keeps bus settled within mem after.2
  loaded : ∀ b ∈ regs, after.1.R b = fetched PROCNUM b (bus.read32 mem (addr b)).1
  others : ∀ b, b ∉ regs → after.1.R b = cpu.R b
  enters : 15 ∈ regs → after.1.next_instruction = after.1.R 15 ∧
    after.1.CPSR = if PROCNUM = .ARMCPU_ARM9 then
        cpu.CPSR.setBit 5 ((bus.read32 mem (addr 15)).1.getLsbD 0)
      else cpu.CPSR
  stays : 15 ∉ regs → after.1.next_instruction = cpu.next_instruction ∧ after.1.CPSR = cpu.CPSR
  banks : SameBanks cpu after.1

variable (PROCNUM : Proc) (cpu : armcpu_t)

theorem enterRegister_R (b reg : Fin 16) (word : u32) :
    (enterRegister PROCNUM cpu b word).R reg =
      if reg = b then fetched PROCNUM b word else cpu.R reg := by
  have written (cpu : armcpu_t) (val : u32) :
      (setR cpu b val).R reg = if reg = b then val else cpu.R reg := by
    by_cases same : reg = b
    · rw [if_pos same,same]
      exact Function.update_self _ _ _
    · rw [if_neg same]
      exact Function.update_of_ne same _ _
  unfold enterRegister fetched
  by_cases pc : b = 15
  · rw [if_pos pc,if_pos pc]
    subst pc
    unfold enterPC
    dsimp only
    by_cases arm9 : PROCNUM = .ARMCPU_ARM9
    · rw [if_pos arm9,if_pos arm9]
      exact written _ _
    · rw [if_neg arm9,if_neg arm9]
      exact written _ _
  · rw [if_neg pc,if_neg pc]
    exact written _ _

theorem enterRegister_pc (word : u32) :
    (enterRegister PROCNUM cpu 15 word).next_instruction =
        (enterRegister PROCNUM cpu 15 word).R 15 ∧
      (enterRegister PROCNUM cpu 15 word).CPSR =
        if PROCNUM = .ARMCPU_ARM9 then cpu.CPSR.setBit 5 (word.getLsbD 0) else cpu.CPSR := by
  unfold enterRegister
  rw [if_pos rfl]
  unfold enterPC
  dsimp only
  split
  · exact ⟨rfl,rfl⟩
  · exact ⟨rfl,rfl⟩

theorem enterRegister_other {b : Fin 16} (other : b ≠ 15) (word : u32) :
    (enterRegister PROCNUM cpu b word).next_instruction = cpu.next_instruction ∧
      (enterRegister PROCNUM cpu b word).CPSR = cpu.CPSR := by
  unfold enterRegister
  rw [if_neg other]
  exact ⟨rfl,rfl⟩

theorem sameBanks_enterRegister (b : Fin 16) (word : u32) :
    SameBanks cpu (enterRegister PROCNUM cpu b word) := by
  unfold enterRegister enterPC
  dsimp only
  split
  · split
    · rfl
    · rfl
  · rfl

theorem loads_block (plain : PlainBlock bus settled within) (PROCNUM : Proc)
    (regs : List (Fin 16)) (inside : ∀ b ∈ regs, within (addr b)) (distinct : regs.Nodup)
    (cpu : armcpu_t) (mapped : settled mem) :
    Loads bus settled within PROCNUM addr regs cpu mem
      (regs.foldl (fun st b =>
        (enterRegister PROCNUM st.1 b (bus.read32 st.2 (addr b)).1,
          (bus.read32 st.2 (addr b)).2)) (cpu, mem)) := by
  induction regs generalizing cpu mem with
  | nil =>
      exact
        { kept := ⟨mapped,fun _ _ => rfl⟩
          loaded := fun _ absent => absurd absent List.not_mem_nil
          others := fun _ _ => rfl
          enters := fun absent => absurd absent List.not_mem_nil
          stays := fun _ => ⟨rfl,rfl⟩
          banks := rfl }
  | cons first rest ih =>
      obtain ⟨fresh,distinctRest⟩ := List.nodup_cons.mp distinct
      have here := inside first List.mem_cons_self
      have unchanged (adr : u32) (covered : within adr) :
          (bus.read32 (bus.read32 mem (addr first)).2 adr).1 = (bus.read32 mem adr).1 :=
        plain.read_read mem _ adr mapped here covered
      have entered := enterRegister_R PROCNUM cpu first
      have later := ih (fun b member => inside b (List.mem_cons_of_mem _ member))
        distinctRest (enterRegister PROCNUM cpu first (bus.read32 mem (addr first)).1)
        (plain.read_settled mem _ mapped here)
      rw [List.foldl_cons]
      generalize rest.foldl _ _ = after at later ⊢
      constructor
      · exact ⟨later.kept.settled,fun adr covered =>
          (later.kept.words adr covered).trans (unchanged adr covered)⟩
      · intro b member
        rcases List.mem_cons.mp member with same | member
        · rw [same,later.others first fresh,entered,if_pos rfl]
        · rw [later.loaded b member,unchanged _ (inside b (List.mem_cons_of_mem _ member))]
      · intro b absent
        rw [later.others b fun member => absent (List.mem_cons_of_mem _ member), entered,
          if_neg fun same => absent (by rw [same]; exact List.mem_cons_self)]
      · intro member
        by_cases pc : first = 15
        · -- The rest leaves the program counter alone.
          subst pc
          obtain ⟨continues,st⟩ := enterRegister_pc PROCNUM cpu
            (bus.read32 mem (addr 15)).1
          obtain ⟨next,status⟩ := later.stays fresh
          exact ⟨next.trans (continues.trans (later.others 15 fresh).symm),status.trans st⟩
        · have listed : 15 ∈ rest :=
            (List.mem_cons.mp member).resolve_left fun same => pc same.symm
          obtain ⟨next,status⟩ := later.enters listed
          rw [(enterRegister_other PROCNUM cpu pc _).2,
            unchanged _ (inside 15 member)] at status
          exact ⟨next,status⟩
      · intro absent
        have pc : first ≠ 15 := fun same => absent (by rw [same]; exact List.mem_cons_self)
        obtain ⟨next,status⟩ := later.stays fun member => absent (List.mem_cons_of_mem _ member)
        obtain ⟨kept,st⟩ := enterRegister_other PROCNUM cpu pc
          (bus.read32 mem (addr first)).1
        exact ⟨next.trans kept,status.trans st⟩
      · exact (sameBanks_enterRegister PROCNUM cpu first _).trans later.banks

end

/-! ### The handlers -/

theorem turns_nodup (i : u32) (mode : Addressing) : (turns i mode).Nodup := by
  cases mode with
  | IA | IB => exact (List.nodup_finRange 16).filter _
  | DA | DB => exact (List.nodup_reverse.mpr (List.nodup_finRange 16)).filter _

theorem writeBase_unlisted {Memory : Type} (i : u32) (absent : BIT_N i (REG_POS i 16) = false)
    (st : (armcpu_t × Memory) × u32) :
    writeBase i st = (setR st.1.1 (REG_POS i 16) st.2, st.1.2) := by
  have clear : i &&& ((1 : u32) <<< (REG_POS i 16).val) = 0 := by
    change i &&& 1#32 <<< (REG_POS i 16).val = 0#32
    unfold BIT_N at absent
    rw [← BitVec.twoPow_eq,BitVec.and_twoPow,absent]
    rfl
  unfold writeBase
  rw [if_neg fun present => present clear]

section

variable {Memory : Type} (bus : Bus Memory) (i : u32) (mode : Addressing) (writesBack : Bool)
  (cpu : armcpu_t) (mem : Memory) (after : armcpu_t × Memory)

def wordOf (b : Fin 16) : u32 := wordAddress i (cpu.R (REG_POS i 16)) mode b

def blockOf : u32 → Prop :=
  words (lowestAddress (cpu.R (REG_POS i 16)) (rank i 16) mode) (rank i 16)

def baseAfter : u32 := writtenBack (cpu.R (REG_POS i 16)) (rank i 16) mode

/-- The writes are those of the listed registers at their words and no others. -/
structure StoresBlock : Prop where
  writes : after.2 =
    storeAll bus mem ((turns i mode).map fun b => (wordOf i mode cpu b, cpu.R b))
  stored : ∀ b, BIT_N i b.val = true → (bus.read32 after.2 (wordOf i mode cpu b)).1 = cpu.R b
  registers : after.1 =
    if writesBack then setR cpu (REG_POS i 16) (baseAfter i mode cpu) else cpu

/-- The listed registers hold their words, the base is written back, and nothing else
has changed. -/
structure LoadsBlock (settled : Memory → Prop) (PROCNUM : Proc) : Prop where
  kept : Keeps bus settled (blockOf i mode cpu) mem after.2
  loaded : ∀ b, BIT_N i b.val = true →
    after.1.R b = fetched PROCNUM b (bus.read32 mem (wordOf i mode cpu b)).1
  base : writesBack = true → after.1.R (REG_POS i 16) = baseAfter i mode cpu
  others : ∀ b, BIT_N i b.val = false → ¬ (writesBack = true ∧ b = REG_POS i 16) →
    after.1.R b = cpu.R b
  enters : BIT15 i = true → after.1.next_instruction = after.1.R 15 ∧
    after.1.CPSR = if PROCNUM = .ARMCPU_ARM9 then
        cpu.CPSR.setBit 5 ((bus.read32 mem (wordOf i mode cpu 15)).1.getLsbD 0)
      else cpu.CPSR
  stays : BIT15 i = false →
    after.1.next_instruction = cpu.next_instruction ∧ after.1.CPSR = cpu.CPSR
  banks : SameBanks cpu after.1

variable {bus i mode cpu mem} {settled : Memory → Prop}
  (mapped : settled mem) (aligned : (cpu.R (REG_POS i 16)).toNat % 4 = 0)
  (plain : PlainBlock bus settled (blockOf i mode cpu))

include mapped aligned plain

theorem STM_stores :
    StoresBlock bus i mode writesBack cpu mem (STM bus i mode writesBack cpu mem) := by
  have masked (b : Fin 16) : wordOf i mode cpu b &&& 0xFFFFFFFC = wordOf i mode cpu b :=
    wordAddress_aligned i _ mode aligned b
  have block : storedBlock bus i (cpu.R (REG_POS i 16)) mode mem cpu.R =
      (turns i mode).foldl
        (fun mem b => bus.write32 mem (wordOf i mode cpu b) (cpu.R b)) mem := by
    unfold storedBlock Bus.WRITE32
    refine congrArg (fun round => (turns i mode).foldl round mem) ?_
    funext mem b
    exact congrArg (fun adr => bus.write32 mem adr (cpu.R b)) (masked b)
  have listed (b : Fin 16) (member : b ∈ turns i mode) : BIT_N i b = true :=
    (mem_turns i mode b).mp member
  have holds := holds_stores plain cpu.R (turns i mode)
    (fun b member => words_wordAddress i _ mode (listed b member))
    (fun b member c other same =>
      wordAddress_injective i _ mode (listed b member) (listed c other) same)
    (turns_nodup i mode) mapped
  rw [STM_eq,block]
  constructor
  · unfold storeAll
    rw [List.foldl_map]
  · intro b present
    exact holds.stored b ((mem_turns i mode b).mpr present)
  · rfl

theorem LDM_loads (PROCNUM : Proc) (absent : BIT_N i (REG_POS i 16) = false) :
    LoadsBlock bus i mode writesBack cpu mem (LDM bus PROCNUM i mode writesBack cpu mem)
      settled PROCNUM := by
  have masked (b : Fin 16) : wordOf i mode cpu b &&& 0xFFFFFFFC = wordOf i mode cpu b :=
    wordAddress_aligned i _ mode aligned b
  have block : loadedBlock bus PROCNUM i (cpu.R (REG_POS i 16)) mode cpu mem =
      (turns i mode).foldl (fun st b =>
        (enterRegister PROCNUM st.1 b (bus.read32 st.2 (wordOf i mode cpu b)).1,
          (bus.read32 st.2 (wordOf i mode cpu b)).2)) (cpu, mem) := by
    unfold loadedBlock loadWord Bus.READ32
    refine congrArg (fun round => (turns i mode).foldl round (cpu, mem)) ?_
    funext st b
    exact congrArg (fun adr => (enterRegister PROCNUM st.1 b (bus.read32 st.2 adr).1,
      (bus.read32 st.2 adr).2)) (masked b)
  have listed (b : Fin 16) : b ∈ turns i mode ↔ BIT_N i b = true := mem_turns i mode b
  have unlisted (b : Fin 16) (clear : BIT_N i b = false) : b ∉ turns i mode := by
    rw [listed,clear]
    exact Bool.false_ne_true
  have loads := @loads_block _ bus settled _ (wordOf i mode cpu) _ plain PROCNUM (turns i mode)
    (fun b member => words_wordAddress i _ mode ((listed b).mp member))
    (turns_nodup i mode) cpu mapped
  rw [LDM_eq,block]
  dsimp only
  generalize (turns i mode).foldl _ _ = after at loads ⊢
  cases writesBack with
  | false =>
      exact
        { kept := loads.kept
          loaded := fun b present => loads.loaded b ((listed b).mpr present)
          base := fun back => absurd back Bool.false_ne_true
          others := fun b clear _ => loads.others b (unlisted b clear)
          enters := fun present => loads.enters ((listed 15).mpr present)
          stays := fun clear => loads.stays (unlisted 15 clear)
          banks := loads.banks }
  | true =>
      have written : (if true = true then
          writeBase i (after, writtenBack (cpu.R (REG_POS i 16)) (rank i 16) mode) else after) =
          (setR after.1 (REG_POS i 16) (baseAfter i mode cpu), after.2) :=
        writeBase_unlisted i absent _
      have kept (b : Fin 16) (other : b ≠ REG_POS i 16) :
          (setR after.1 (REG_POS i 16) (baseAfter i mode cpu)).R b = after.1.R b :=
        Function.update_of_ne other _ _
      have apart (b : Fin 16) (present : BIT_N i b = true) : b ≠ REG_POS i 16 := by
        intro same
        rw [same,absent] at present
        cases present
      rw [written]
      exact
        { kept := loads.kept
          loaded := fun b present =>
            (kept b (apart b present)).trans (loads.loaded b ((listed b).mpr present))
          base := fun _ => Function.update_self _ _ _
          others := fun b clear other =>
            (kept b fun same => other ⟨rfl,same⟩).trans (loads.others b (unlisted b clear))
          enters := fun present => by
            obtain ⟨next,status⟩ := loads.enters ((listed 15).mpr present)
            exact ⟨next.trans (kept 15 (apart 15 present)).symm,status⟩
          stays := fun clear => loads.stays (unlisted 15 clear)
          banks := loads.banks.trans rfl }

end

def ExecutesARM (cpu : armcpu_t) : Prop :=
  cpu.CPSR.T = 0 ∧ ∃ code executing, Prefetched code executing ∧ executing.toarmcpu_t = cpu

theorem ExecutesARM.aligned {cpu : armcpu_t} (executes : ExecutesARM cpu) :
    (cpu.R 15).toNat % 4 = 0 := by
  obtain ⟨arm,code,executing,prefetched,rfl⟩ := executes
  have whole := prefetched.aligned
  have pc := prefetched.pc
  rw [addressMask,if_pos arm] at whole
  rw [width,if_pos arm] at pc
  have masked := Bios.toNat_align4 executing.instruct_adr
  change executing.instruct_adr &&& ~~~3 = _ at whole
  rw [whole] at masked
  rw [pc]
  bv_omega

theorem fetched_pc (PROCNUM : Proc) (b : Fin 16) {word : u32}
    (aligned : b = 15 → word.toNat % 4 = 0) : fetched PROCNUM b word = word := by
  unfold fetched
  by_cases pc : b = 15
  · have quarter := Bios.toNat_align4 word
    have half := Bios.toNat_align2 word
    have whole := aligned pc
    rw [if_pos pc]
    split
    · apply BitVec.eq_of_toNat_eq
      change (word &&& ~~~1).toNat = _
      omega
    · apply BitVec.eq_of_toNat_eq
      change (word &&& ~~~3).toNat = _
      omega
  · rw [if_neg pc]

structure SameList (i i' : u32) : Prop where
  listed : ∀ b : Fin 16, BIT_N i' b = BIT_N i b
  base : REG_POS i' 16 = REG_POS i 16

theorem SameList.rank {i i' : u32} (same : SameList i i') {reg : Nat} (inside : reg ≤ 16) :
    Cpu.rank i' reg = Cpu.rank i reg := by
  apply List.countP_congr
  intro idx member
  have below : idx < 16 := Nat.lt_of_lt_of_le (List.mem_range.mp member) inside
  rw [same.listed ⟨idx,below⟩]

section

variable {i i' : u32} {cpu between : armcpu_t} (same : SameList i i')
  (back : between.R (REG_POS i 16) = baseAfter i .DB cpu)

include same back

theorem wordOf_back (b : Fin 16) : wordOf i' .IA between b = wordOf i .DB cpu b := by
  unfold wordOf wordAddress
  rw [same.base,back,same.rank (Nat.le_of_lt b.isLt)]
  rfl

theorem blockOf_back : blockOf i' .IA between = blockOf i .DB cpu := by
  unfold blockOf
  rw [same.base,back,same.rank (Nat.le_refl 16)]
  rfl

theorem baseAfter_back : baseAfter i' .IA between = cpu.R (REG_POS i 16) := by
  unfold baseAfter
  rw [same.base,back,same.rank (Nat.le_refl 16)]
  exact BitVec.sub_add_cancel _ _

end

/-- Every block transfer uses the words of its addressing mode, and a block that is pushed
is popped again. -/
theorem arm_block_transfers {Memory : Type} {bus : Bus Memory} {settled : Memory → Prop}
    (PROCNUM : Proc) (i : u32) (cpu : armcpu_t) {mem : Memory} (mapped : settled mem)
    (aligned : (cpu.R (REG_POS i 16)).toNat % 4 = 0) :
    (∀ mode writesBack, PlainBlock bus settled (blockOf i mode cpu) →
      StoresBlock bus i mode writesBack cpu mem (STM bus i mode writesBack cpu mem) ∧
        (BIT_N i (REG_POS i 16) = false →
          LoadsBlock bus i mode writesBack cpu mem
            (LDM bus PROCNUM i mode writesBack cpu mem) settled PROCNUM)) ∧
    (PlainBlock bus settled (blockOf i .DB cpu) → BIT_N i (REG_POS i 16) = false →
      ExecutesARM cpu →
      let pushed := OP_STMDB_W bus i cpu mem
      ∀ i' between changed, SameList i i' →
        between.R (REG_POS i 16) = pushed.1.R (REG_POS i 16) →
        Keeps bus settled (blockOf i .DB cpu) pushed.2 changed →
        let popped := OP_LDMIA_W bus PROCNUM i' between changed
        (∀ b, BIT_N i b.val = true → popped.1.R b = cpu.R b) ∧
          popped.1.R (REG_POS i 16) = cpu.R (REG_POS i 16)) := by
  refine ⟨fun mode writesBack plain => ⟨?_,?_⟩, ?_⟩
  · exact STM_stores writesBack mapped aligned plain
  · exact LDM_loads writesBack mapped aligned plain PROCNUM
  · intro plain absent executes pushed i' between changed same kept words
    have stores := STM_stores true mapped aligned plain
    have back : between.R (REG_POS i 16) = baseAfter i .DB cpu := by
      rw [kept]
      exact (congrFun (congrArg armcpu_t.R stores.registers) _).trans
        (Function.update_self _ _ _)
    have alignedBack : (between.R (REG_POS i' 16)).toNat % 4 = 0 := by
      rw [same.base,back]
      change (cpu.R (REG_POS i 16) - 4 * (rank i 16 : u32)).toNat % 4 = 0
      generalize (rank i 16 : u32) = n
      bv_omega
    have absentBack : BIT_N i' (REG_POS i' 16) = false := by
      rw [same.base,same.listed]
      exact absent
    have plainBack : PlainBlock bus settled (blockOf i' .IA between) := by
      rw [blockOf_back same back]
      exact plain
    have loads := LDM_loads true words.settled alignedBack plainBack PROCNUM absentBack
    constructor
    · intro b present
      have covered : blockOf i .DB cpu (wordOf i .DB cpu b) :=
        words_wordAddress i _ .DB present
      have word : (bus.read32 changed (wordOf i' .IA between b)).1 = cpu.R b := by
        rw [wordOf_back same back,words.words _ covered]
        exact stores.stored b present
      have loaded := loads.loaded b ((same.listed b).trans present)
      rw [word,fetched_pc PROCNUM b fun pc => by rw [pc]; exact executes.aligned] at loaded
      exact loaded
    · have base := loads.base rfl
      rw [same.base,baseAfter_back same back] at base
      exact base

/-! ### A push and a pop in the main memory -/

theorem words_eq_block {start : u32} (aligned : start &&& 0xFFFFFFFC = start) (n : Nat) :
    words start n = Thumb.block start n := by
  funext adr
  unfold words Thumb.block Thumb.wordAt
  rw [aligned]
  refine propext (exists_congr fun k => and_congr_right fun _ => ?_)
  rw [BitVec.ofNat_mul]
  rfl

def noCode : CodeMemory where
  read32 := fun _ => 0
  read16 := fun _ => 0
  codeFetchCycles32 := fun _ => 0
  codeFetchCycles16 := fun _ => 0

def caller : Processor :=
  (armcpu_prefetch .ARMCPU_ARM9 noCode
    { armcpu_t.initial with
      R := fun _ => 0x02001000
      next_instruction := 0x02000000
      instruction := 0
      instruct_adr := 0
      waitIRQ := false }).1

/-- `STMDB R13!, {R0, R3, R15}` and `LDMIA R13!, {R0, R3, R15}`. -/
theorem arm_push_pop :
    let bus : Bus (Thumb.Mmu Unit) := Thumb.dataBus .ARMCPU_ARM9
      { read32 := fun mmu _ => (0, mmu), write32 := fun mmu _ _ => mmu }
    let mmu : Thumb.Mmu Unit := ⟨fun _ => 0, fun _ => 0, 0, ()⟩
    let cpu := caller.toarmcpu_t
    let pushed := OP_STMDB_W bus 0xE92D8009 cpu mmu
    StoresBlock bus 0xE92D8009 .DB true cpu mmu pushed ∧
      ∀ between changed, between.R 13 = pushed.1.R 13 →
        Keeps bus (fun mmu => mmu.DTCMRegion = 0) (blockOf 0xE92D8009 .DB cpu) pushed.2 changed →
        let popped := OP_LDMIA_W bus .ARMCPU_ARM9 0xE8BD8009 between changed
        (∀ b : Fin 16, BIT_N 0xE92D8009 b = true → popped.1.R b = cpu.R b) ∧
          popped.1.R 13 = cpu.R 13 := by
  intro bus mmu cpu
  obtain ⟨transfers,restores⟩ := @arm_block_transfers _ bus (fun mmu => mmu.DTCMRegion = 0)
    .ARMCPU_ARM9 0xE92D8009 cpu mmu rfl (by decide)
  have plain : PlainBlock bus (fun mmu => mmu.DTCMRegion = 0) (blockOf 0xE92D8009 .DB cpu) := by
    unfold blockOf
    rw [words_eq_block (by decide)]
    exact Thumb.plain_dataBus .ARMCPU_ARM9 _ 0 _ (by decide) (by decide)
  refine ⟨(transfers .DB true plain).1,fun between changed same kept => ?_⟩
  exact restores plain (by decide)
    ⟨by decide,noCode,caller,prefetched_prefetch _ _ _,rfl⟩ _ between changed
    ⟨by decide,by decide⟩ same kept

end Desmume.Cpu
