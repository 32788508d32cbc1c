/-
A block that is stored and loaded again with the same list of registers.

Register `j` of the list has the word above those of the registers below it,
whether the list is walked down from the end of the block or up from its start.
-/

import Desmume.Arm.LongMultiply
import Desmume.Thumb.BlockTransfer

namespace Desmume.Thumb

open Bios (inMainMemory)
open Cpu

/-- The registers of the list below register `j`. -/
def rank (i : u32) : Nat → Nat
  | 0 => 0
  | j + 1 => rank i j + if BIT_N i j then 1 else 0

/-- Word `k` from an address, as the transfers take it. -/
def wordAt (start : u32) (k : Nat) : u32 := (start &&& 0xFFFFFFFC) + BitVec.ofNat 32 (4 * k)

def block (start : u32) (words : Nat) (adr : u32) : Prop := ∃ k < words, adr = wordAt start k

def belowStack (cpu : Processor) (words : Nat) : u32 → Prop :=
  block (cpu.R 13 - BitVec.ofNat 32 (4 * words)) words

/-- Words that keep what is written to them, in the states of the memory system
in which they are mapped. -/
structure PlainBlock {Memory : Type} (bus : Bus Memory) (settled : Memory → Prop)
    (within : u32 → Prop) : Prop where
  write_settled : ∀ mem adr val, settled mem → within adr →
    settled (bus.write32 mem adr val)
  read_settled : ∀ mem adr, settled mem → within adr → settled (bus.read32 mem adr).2
  read_written : ∀ mem adr val, settled mem → within adr →
    (bus.read32 (bus.write32 mem adr val) adr).1 = val
  read_other : ∀ mem adr other val, settled mem → within adr → within other →
    other ≠ adr → (bus.read32 (bus.write32 mem adr val) other).1 = (bus.read32 mem other).1
  read_read : ∀ mem adr other, settled mem → within adr → within other →
    (bus.read32 (bus.read32 mem adr).2 other).1 = (bus.read32 mem other).1

section

variable {Memory : Type} (bus : Bus Memory)

def storeAll (mem : Memory) (writes : List (u32 × u32)) : Memory :=
  writes.foldl (fun mem write => bus.write32 mem write.1 write.2) mem

def WritesWithin (within : u32 → Prop) (before after : Memory) : Prop :=
  ∃ writes : List (u32 × u32),
    (∀ write ∈ writes, within write.1) ∧ after = storeAll bus before writes

/-- The words of the block as before, whatever else was changed. -/
structure Keeps (settled : Memory → Prop) (within : u32 → Prop) (before after : Memory) : Prop where
  settled : settled after
  words : ∀ adr, within adr → (bus.read32 after adr).1 = (bus.read32 before adr).1

end

theorem rank_le (i : u32) (j : Nat) : rank i j ≤ j := by
  induction j with
  | zero => exact Nat.le_refl 0
  | succ j ih =>
      change rank i j + (if BIT_N i j then 1 else 0) ≤ j + 1
      split <;> omega

variable {j k : Nat}

theorem rank_succ_of_listed {i : u32} (listed : BIT_N i j = true) :
    rank i (j + 1) = rank i j + 1 := by
  change rank i j + (if BIT_N i j then 1 else 0) = _
  rw [if_pos listed]

theorem rank_succ_of_not_listed {i : u32} (listed : ¬BIT_N i j = true) :
    rank i (j + 1) = rank i j := by
  change rank i j + (if BIT_N i j then 1 else 0) = _
  rw [if_neg listed,Nat.add_zero]

theorem rank_mono (i : u32) (below : j ≤ k) : rank i j ≤ rank i k := by
  induction below with
  | refl => exact Nat.le_refl _
  | step _ ih => exact Nat.le_trans ih (Nat.le_add_right _ _)

theorem rank_lt_of_listed {i : u32} (listed : BIT_N i j = true) (below : j < k) :
    rank i j < rank i k := by
  have next := rank_succ_of_listed listed
  have upTo : rank i (j + 1) ≤ rank i k := rank_mono i below
  omega

theorem rank_congr {i i' : u32} (sameList : ∀ j : Fin 8, BIT_N i' j = BIT_N i j)
    (inside : j ≤ 8) : rank i' j = rank i j := by
  induction j with
  | zero => rfl
  | succ j ih =>
      have bit := sameList ⟨j,inside⟩
      change rank i' j + (if BIT_N i' j then 1 else 0) = rank i j + (if BIT_N i j then 1 else 0)
      rw [ih (by omega),bit]

def slotIndex (i : u32) : Option (Fin 8) → Nat
  | none => rank i 8
  | some j => rank i j

def inList (i : u32) : Option (Fin 8) → Prop
  | none => True
  | some j => BIT_N i j = true

def slotValue (cpu : Processor) : Option (Fin 8) → u32
  | none => cpu.R 14
  | some j => cpu.R (low j)

theorem slotIndex_injective {i : u32} {slot other : Option (Fin 8)} (listed : inList i slot)
    (otherListed : inList i other) (same : slotIndex i slot = slotIndex i other) :
    slot = other := by
  cases slot with
  | none =>
      cases other with
      | none => rfl
      | some k =>
          have below := rank_lt_of_listed otherListed k.isLt
          exact absurd same (Nat.ne_of_gt below)
  | some j =>
      cases other with
      | none =>
          have below := rank_lt_of_listed listed j.isLt
          exact absurd same (Nat.ne_of_lt below)
      | some k =>
          rcases Nat.lt_trichotomy j k with below | equal | above
          · exact absurd same (Nat.ne_of_lt (rank_lt_of_listed listed below))
          · rw [Fin.ext equal]
          · exact absurd same (Nat.ne_of_gt (rank_lt_of_listed otherListed above))

theorem wordAt_injective (start : u32) {l : Nat} (first : k < 2 ^ 30) (second : l < 2 ^ 30)
    (same : wordAt start k = wordAt start l) : k = l := by
  have offsets := Bios.offset_injective (by omega) (by omega) same
  omega

theorem mask_add (start : u32) (k : Nat) :
    (start + BitVec.ofNat 32 (4 * k)) &&& 0xFFFFFFFC = wordAt start k := by
  apply BitVec.eq_of_toNat_eq
  have whole := Bios.toNat_align4 (start + BitVec.ofNat 32 (4 * k))
  have first := Bios.toNat_align4 start
  have sum := BitVec.toNat_add start (BitVec.ofNat 32 (4 * k))
  have total := BitVec.toNat_add (start &&& ~~~3) (BitVec.ofNat 32 (4 * k))
  have off := BitVec.toNat_ofNat (4 * k) 32
  have bound := start.isLt
  change ((start + BitVec.ofNat 32 (4 * k)) &&& ~~~3).toNat =
    ((start &&& ~~~3) + BitVec.ofNat 32 (4 * k)).toNat
  omega

section

variable {Memory : Type} {bus : Bus Memory} {settled : Memory → Prop} {i : u32}
  {cpu : Processor} {start : u32} {words : Nat}

theorem foldl_rounds {State : Type} {step : State → Fin 8 → State} {holds : Nat → State → Prop}
    {st : State} (first : holds 0 st)
    (round : ∀ (j : Fin 8) st, holds j st → holds (j + 1) (step st j)) :
    holds 8 ((List.finRange 8).foldl step st) := by
  have upTo : ∀ k ≤ 8, holds k (((List.finRange 8).take k).foldl step st) := by
    intro k inside
    induction k with
    | zero => exact first
    | succ k ih =>
        have here : k < (List.finRange 8).length := by
          rw [List.length_finRange]
          omega
        rw [List.take_succ_eq_append_getElem here,List.foldl_append,List.getElem_finRange]
        exact round ⟨k,inside⟩ _ (ih (by omega))
  have whole := upTo 8 (Nat.le_refl 8)
  rwa [List.take_of_length_le (by rw [List.length_finRange])] at whole

theorem WritesWithin.refl {within : u32 → Prop} (mem : Memory) : WritesWithin bus within mem mem :=
  ⟨[],fun _ absent => absurd absent List.not_mem_nil, rfl⟩

theorem WritesWithin.write {within : u32 → Prop} {before after : Memory} {adr : u32}
    (soFar : WritesWithin bus within before after) (inside : within adr) (val : u32) :
    WritesWithin bus within before (bus.write32 after adr val) := by
  obtain ⟨writes,contained,written⟩ := soFar
  refine ⟨writes ++ [(adr, val)],?_,?_⟩
  · intro write present
    rcases List.mem_append.mp present with earlier | last
    · exact contained write earlier
    · rw [List.mem_singleton.mp last]
      exact inside
  · rw [written]
    unfold storeAll
    rw [List.foldl_append]
    rfl

structure Stored (bus : Bus Memory) (settled : Memory → Prop) (i : u32) (cpu : Processor)
    (start : u32) (words : Nat) (done : Option (Fin 8) → Prop) (before after : Memory) : Prop where
  settled : settled after
  within : WritesWithin bus (block start words) before after
  stored : ∀ slot, done slot →
    (bus.read32 after (wordAt start (slotIndex i slot))).1 = slotValue cpu slot

theorem Stored.write {done more : Option (Fin 8) → Prop} {before after : Memory}
    (plain : PlainBlock bus settled (block start words)) (small : words < 2 ^ 30)
    (soFar : Stored bus settled i cpu start words done before after) (slot : Option (Fin 8))
    (inside : slotIndex i slot < words) (listed : inList i slot) (next : ∀ other, more other →
      other = slot ∨ (done other ∧ inList i other ∧ slotIndex i other < words)) :
    Stored bus settled i cpu start words more before
      (bus.write32 after (wordAt start (slotIndex i slot)) (slotValue cpu slot)) where
  settled := plain.write_settled _ _ _ soFar.settled ⟨_,inside,rfl⟩
  within := soFar.within.write ⟨_,inside,rfl⟩ _
  stored := by
    intro other reached
    rcases next other reached with same | ⟨earlier,otherListed,otherInside⟩
    · rw [same]
      exact plain.read_written _ _ _ soFar.settled ⟨_,inside,rfl⟩
    · by_cases same : other = slot
      · rw [same]
        exact plain.read_written _ _ _ soFar.settled ⟨_,inside,rfl⟩
      · have ne : wordAt start (slotIndex i other) ≠ wordAt start (slotIndex i slot) := by
          intro equal
          have idx := wordAt_injective start (by omega) (by omega) equal
          exact same (slotIndex_injective otherListed listed idx)
        rw [plain.read_other _ _ _ _ soFar.settled ⟨_,inside,rfl⟩ ⟨_,otherInside,rfl⟩ ne]
        exact soFar.stored other earlier

theorem next_word (start : u32) (k : Nat) :
    start + BitVec.ofNat 32 (4 * k) + 4 = start + BitVec.ofNat 32 (4 * (k + 1)) := by
  rw [Nat.mul_succ,BitVec.ofNat_add,BitVec.add_assoc]
  rfl

theorem previous_word (start : u32) (k : Nat) :
    start + BitVec.ofNat 32 (4 * (k + 1)) - 4 = start + BitVec.ofNat 32 (4 * k) := by
  rw [← next_word,BitVec.add_sub_cancel]

/-- The slots that the walk down has stored after `rounds` rounds. -/
def pushed (i : u32) (lr : Prop) (rounds : Nat) : Option (Fin 8) → Prop
  | none => lr
  | some j => BIT_N i j = true ∧ 8 ≤ j + rounds

/-- The slots that the walk up has stored after `rounds` rounds. -/
def stored (i : u32) (rounds : Nat) : Option (Fin 8) → Prop
  | none => False
  | some j => BIT_N i j = true ∧ (j : Nat) < rounds

theorem pushLoop_stored {lr : Prop} {before mem : Memory}
    (plain : PlainBlock bus settled (block start words)) (small : words < 2 ^ 30)
    (room : rank i 8 ≤ words) (above : lr → rank i 8 < words)
    (entry : Stored bus settled i cpu start words (pushed i lr 0) before mem) :
    let after := pushLoop bus cpu i mem (start + BitVec.ofNat 32 (4 * rank i 8) - 4)
    Stored bus settled i cpu start words (pushed i lr 8) before after.1 ∧ after.2 = start - 4 := by
  have rounds := @foldl_rounds _ (pushRound bus cpu i)
    (fun round (st : Memory × u32) =>
      Stored bus settled i cpu start words (pushed i lr round) before st.1 ∧
        st.2 = start + BitVec.ofNat 32 (4 * rank i (8 - round)) - 4)
    (mem, start + BitVec.ofNat 32 (4 * rank i 8) - 4) ⟨entry,rfl⟩ ?_
  · obtain ⟨kept,adr⟩ := rounds
    refine ⟨kept,?_⟩
    rw [show start - 4 = start + BitVec.ofNat 32 (4 * 0) - 4 from by rw [BitVec.add_zero]]
    exact adr
  · intro j st reached
    obtain ⟨soFar,adr⟩ := reached
    have reg : 8 - (j : Nat) = (7 - (j : Nat)) + 1 := by omega
    have left : 8 - ((j : Nat) + 1) = 7 - (j : Nat) := by omega
    have reversed : ((j.rev : Fin 8) : Nat) = 7 - (j : Nat) := by
      rw [Fin.val_rev]
      omega
    have inside : rank i (7 - j) ≤ rank i 8 := rank_mono i (by omega)
    unfold pushRound
    by_cases listed : BIT_N i (7 - j) = true
    · have next := rank_succ_of_listed listed
      have below : rank i (7 - j) < rank i 8 := rank_lt_of_listed listed (by omega)
      rw [reg,next,previous_word] at adr
      rw [if_pos listed,left]
      have here : inList i (some j.rev) := by
        change BIT_N i _ = true
        rw [reversed]
        exact listed
      have bound : slotIndex i (some j.rev) < words := by
        change rank i _ < words
        rw [reversed]
        omega
      have earlier : ∀ other, pushed i lr (j + 1) other → other = some j.rev ∨
          (pushed i lr j other ∧ inList i other ∧ slotIndex i other < words) := by
        intro other reached
        cases other with
        | none => exact .inr ⟨reached,trivial,above reached⟩
        | some k =>
            obtain ⟨otherListed,high⟩ := reached
            by_cases last : k = j.rev
            · exact .inl (congrArg some last)
            · have apart : (k : Nat) ≠ (j.rev : Fin 8) := fun same => last (Fin.ext same)
              have within : rank i k < rank i 8 := rank_lt_of_listed otherListed k.isLt
              exact .inr ⟨⟨otherListed,by omega⟩,otherListed,Nat.lt_of_lt_of_le within room⟩
      have written := soFar.write plain small (some j.rev) bound here earlier
      refine ⟨?_,?_⟩
      · unfold Bus.WRITE32
        rw [adr,mask_add,← reversed]
        exact written
      · rw [adr]
    · have next := rank_succ_of_not_listed listed
      rw [reg,next] at adr
      rw [if_neg listed,left]
      refine ⟨⟨soFar.settled,soFar.within,?_⟩,adr⟩
      intro slot reached
      apply soFar.stored slot
      cases slot with
      | none => exact reached
      | some k =>
          obtain ⟨otherListed,high⟩ := reached
          refine ⟨otherListed,?_⟩
          by_cases last : (k : Nat) = 7 - j
          · rw [last] at otherListed
            exact absurd otherListed listed
          · omega

theorem storeLoop_stored {before mem : Memory}
    (plain : PlainBlock bus settled (block start words)) (small : words < 2 ^ 30)
    (room : rank i 8 ≤ words)
    (entry : Stored bus settled i cpu start words (stored i 0) before mem) :
    let after := (List.finRange 8).foldl (storeRound bus cpu i) (mem, start)
    Stored bus settled i cpu start words (stored i 8) before after.1 ∧
      after.2 = start + BitVec.ofNat 32 (4 * rank i 8) := by
  refine @foldl_rounds _ (storeRound bus cpu i)
    (fun round (st : Memory × u32) =>
      Stored bus settled i cpu start words (stored i round) before st.1 ∧
        st.2 = start + BitVec.ofNat 32 (4 * rank i round))
    (mem, start) ⟨entry,(BitVec.add_zero start).symm⟩ ?_
  intro j st reached
  obtain ⟨soFar,adr⟩ := reached
  unfold storeRound
  by_cases listed : BIT_N i j = true
  · have below : rank i j < rank i 8 := rank_lt_of_listed listed j.isLt
    rw [if_pos listed,rank_succ_of_listed listed,← next_word]
    have earlier : ∀ other, stored i (j + 1) other → other = some j ∨
        (stored i j other ∧ inList i other ∧ slotIndex i other < words) := by
      intro other reached
      cases other with
      | none => exact reached.elim
      | some k =>
          obtain ⟨otherListed,low⟩ := reached
          by_cases last : k = j
          · exact .inl (congrArg some last)
          · have apart : (k : Nat) ≠ j := fun same => last (Fin.ext same)
            have within : rank i k < rank i 8 := rank_lt_of_listed otherListed k.isLt
            exact .inr ⟨⟨otherListed,by omega⟩,otherListed,Nat.lt_of_lt_of_le within room⟩
    have written := soFar.write plain small (some j) (Nat.lt_of_lt_of_le below room) listed earlier
    refine ⟨?_,congrArg (· + 4) adr⟩
    unfold Bus.WRITE32
    rw [adr,mask_add]
    exact written
  · rw [if_neg listed,rank_succ_of_not_listed listed]
    refine ⟨⟨soFar.settled,soFar.within,?_⟩,adr⟩
    intro slot reached
    apply soFar.stored slot
    cases slot with
    | none => exact reached
    | some k =>
        obtain ⟨otherListed,low⟩ := reached
        refine ⟨otherListed,?_⟩
        by_cases last : (k : Nat) = j
        · rw [last] at otherListed
          exact absurd otherListed listed
        · omega

structure Loaded (bus : Bus Memory) (settled : Memory → Prop) (i : u32) (start : u32)
    (words rounds : Nat) (between : Processor) (changed : Memory)
    (st : (Processor × Memory) × u32) : Prop where
  kept : Keeps bus settled (block start words) changed st.1.2
  address : st.2 = start + BitVec.ofNat 32 (4 * rank i rounds)
  loaded : ∀ j : Fin 8, BIT_N i j = true → (j : Nat) < rounds →
    st.1.1.R (low j) = (bus.read32 changed (wordAt start (rank i j))).1
  others : ∀ reg, (∀ j : Fin 8, BIT_N i j = true → reg ≠ low j) →
    st.1.1.R reg = between.R reg
  status : st.1.1.CPSR = between.CPSR

theorem low_injective {j k : Fin 8} (same : low j = low k) : j = k := by
  have values : (low j : Nat) = low k := congrArg Fin.val same
  exact Fin.ext values

theorem loadLoop_loaded {between : Processor} {changed : Memory}
    (plain : PlainBlock bus settled (block start words)) (room : rank i 8 ≤ words)
    (mapped : settled changed) :
    Loaded bus settled i start words 8 between changed
      (loadLoop bus between changed i start) := by
  refine @foldl_rounds _ (loadRound bus i)
    (fun round st => Loaded bus settled i start words round between changed st)
    ((between, changed), start) ?_ ?_
  · exact ⟨⟨mapped,fun _ _ => rfl⟩,(BitVec.add_zero start).symm,
      fun _ _ below => absurd below (Nat.not_lt_zero _), fun _ _ => rfl, rfl⟩
  · intro j st soFar
    unfold loadRound
    by_cases listed : BIT_N i j = true
    · have below : rank i j < rank i 8 := rank_lt_of_listed listed j.isLt
      have inside : block start words (wordAt start (rank i j)) := ⟨_,by omega,rfl⟩
      rw [if_pos listed]
      unfold Bus.READ32
      rw [soFar.address,mask_add]
      constructor
      · refine ⟨plain.read_settled _ _ soFar.kept.settled inside,?_⟩
        intro adr within
        exact (plain.read_read _ _ _ soFar.kept.settled inside within).trans
          (soFar.kept.words adr within)
      · rw [rank_succ_of_listed listed,← next_word]
      · intro k otherListed reached
        by_cases last : k = j
        · rw [last]
          exact (Arm.setR_self _ _ _).trans (soFar.kept.words _ inside)
        · have apart : (k : Nat) ≠ j := fun same => last (Fin.ext same)
          have ne : low k ≠ low j := fun same => last (low_injective same)
          exact (Arm.setR_of_ne _ _ ne).trans (soFar.loaded k otherListed (by omega))
      · intro reg outside
        exact (Arm.setR_of_ne _ _ (outside j listed)).trans (soFar.others reg outside)
      · exact soFar.status
    · rw [if_neg listed]
      refine ⟨soFar.kept,?_,?_,soFar.others,soFar.status⟩
      · rw [rank_succ_of_not_listed listed]
        exact soFar.address
      · intro k otherListed reached
        by_cases last : (k : Nat) = j
        · rw [last] at otherListed
          exact absurd otherListed listed
        · exact soFar.loaded k otherListed (by omega)

end

/-! ### Round trips -/

section

variable {Memory : Type} {bus : Bus Memory} {settled : Memory → Prop} {i i' : u32}
  {cpu between : Processor} {mem changed : Memory}

def Restores (i : u32) (before after : Processor) : Prop :=
  ∀ j : Fin 8, BIT_N i j = true → after.R (low j) = before.R (low j)

theorem low_ne {reg : Fin 16} (high : 8 ≤ (reg : Nat)) (j : Fin 8) : low j ≠ reg := by
  intro same
  have values : (j : Nat) = reg := congrArg Fin.val same
  omega

theorem listed_congr (sameList : ∀ j : Fin 8, BIT_N i' j = BIT_N i j) {j : Fin 8}
    (listed : BIT_N i j = true) : BIT_N i' j = true := (sameList j).trans listed

variable {words : Nat}

theorem loaded_restores {start : u32} {done : Option (Fin 8) → Prop}
    {st : (Processor × Memory) × u32} {after : Memory} (room : rank i 8 ≤ words)
    (sameList : ∀ j : Fin 8, BIT_N i' j = BIT_N i j)
    (saved : Stored bus settled i cpu start words done mem after)
    (all : ∀ j : Fin 8, BIT_N i j = true → done (some j))
    (kept : Keeps bus settled (block start words) after changed)
    (loaded : Loaded bus settled i' start words 8 between changed st) : Restores i cpu st.1.1 := by
  intro j listed
  have below : rank i j < rank i 8 := rank_lt_of_listed listed j.isLt
  have slot := saved.stored (some j) (all j listed)
  have word := kept.words _ ⟨rank i j,by omega,rfl⟩
  rw [loaded.loaded j (listed_congr sameList listed) j.isLt,
    rank_congr sameList (Nat.le_of_lt j.isLt)]
  exact word.trans slot

theorem all_pushed (lr : Prop) (j : Fin 8) (listed : BIT_N i j = true) :
    pushed i lr 8 (some j) := ⟨listed,Nat.le_add_left 8 j⟩

theorem below_start (sp : u32) (words : Nat) :
    sp - BitVec.ofNat 32 (4 * words) + BitVec.ofNat 32 (4 * words) = sp := BitVec.sub_add_cancel _ _

theorem sub_add_four (adr : u32) : adr - 4 + 4 = adr := BitVec.sub_add_cancel adr 4

theorem push_pop (sameList : ∀ j : Fin 8, BIT_N i' j = BIT_N i j)
    (exactly : words = rank i 8)
    (plain : PlainBlock bus settled (belowStack cpu words))
    (mapped : settled mem) :
    let within := belowStack cpu words
    let after := OP_PUSH bus cpu mem i
    WritesWithin bus within mem after.2 ∧
      ∀ between changed, between.R 13 = after.1.R 13 → Keeps bus settled within after.2 changed →
        let popped := OP_POP bus between changed i'
        Restores i cpu popped.1 ∧ popped.1.R 13 = cpu.R 13 := by
  unfold belowStack at plain ⊢
  dsimp only
  generalize bottom : cpu.R 13 - BitVec.ofNat 32 (4 * words) = start at plain ⊢
  have small := rank_le i 8
  have top : cpu.R 13 = start + BitVec.ofNat 32 (4 * rank i 8) := by
    rw [← bottom,exactly,below_start]
  have walk := @pushLoop_stored _ bus settled i cpu start words False mem mem plain
    (by omega) (by omega) False.elim
    ⟨mapped,WritesWithin.refl mem,fun slot reached => by
      cases slot with
      | none => exact reached.elim
      | some j => exact absurd reached.2 (by omega)⟩
  rw [← top] at walk
  obtain ⟨saved,adr⟩ := walk
  refine ⟨saved.within,?_⟩
  intro between changed sameR13 kept
  have afterR13 : (OP_PUSH bus cpu mem i).1.R 13 = start := by
    refine (Arm.setR_self _ _ _).trans ?_
    exact (congrArg (· + 4) adr).trans (sub_add_four start)
  have loaded := @loadLoop_loaded _ bus settled i' start words between changed plain
    (by rw [rank_congr sameList (Nat.le_refl 8)]; omega) kept.settled
  rw [afterR13] at sameR13
  have popped : OP_POP bus between changed i' =
      ((loadLoop bus between changed i' start).1.1.setR 13
        (loadLoop bus between changed i' start).2,
        (loadLoop bus between changed i' start).1.2) := by
    unfold OP_POP
    rw [sameR13]
  rw [popped]
  constructor
  · intro j listed
    rw [Arm.setR_of_ne _ _ (low_ne (by decide) j)]
    exact loaded_restores (by omega) sameList saved (all_pushed False) kept loaded j listed
  · rw [Arm.setR_self,loaded.address,rank_congr sameList (Nat.le_refl 8),top]

theorem branched (st : Processor) (v adr : u32) :
    let cpu := st.setR 15 v
    let after := Processor.setR { cpu with next_instruction := cpu.R 15 } 13 adr
    after.R 15 = v ∧ after.next_instruction = v := by
  have self := Arm.setR_self st 15 v
  exact ⟨(Arm.setR_of_ne _ adr (by decide)).trans self,self⟩

theorem push_lr_pop_pc (PROCNUM : Proc) (sameList : ∀ j : Fin 8, BIT_N i' j = BIT_N i j)
    (exactly : words = rank i 8 + 1)
    (plain : PlainBlock bus settled (belowStack cpu words))
    (mapped : settled mem) :
    let within := belowStack cpu words
    let after := OP_PUSH_LR bus cpu mem i
    WritesWithin bus within mem after.2 ∧
      ∀ between changed, between.R 13 = after.1.R 13 → Keeps bus settled within after.2 changed →
        let popped := OP_POP_PC bus PROCNUM between changed i'
        (Restores i cpu popped.1 ∧ popped.1.R 13 = cpu.R 13) ∧
          popped.1.R 15 = cpu.R 14 &&& 0xFFFFFFFE ∧
          popped.1.next_instruction = cpu.R 14 &&& 0xFFFFFFFE ∧
          popped.1.CPSR = if PROCNUM = .ARMCPU_ARM9 then
            between.CPSR.setBit 5 ((cpu.R 14).getLsbD 0) else between.CPSR := by
  unfold belowStack at plain ⊢
  dsimp only
  generalize bottom : cpu.R 13 - BitVec.ofNat 32 (4 * words) = start at plain ⊢
  have small := rank_le i 8
  have top : cpu.R 13 = start + BitVec.ofNat 32 (4 * (rank i 8 + 1)) := by
    rw [← bottom,exactly,below_start]
  have untouched : Stored bus settled i cpu start words (fun _ => False) mem mem :=
    ⟨mapped,WritesWithin.refl mem,fun _ reached => reached.elim⟩
  have link := untouched.write plain (by omega) none (by change rank i 8 < words; omega) trivial
    (fun other (reached : pushed i True 0 other) => by
      cases other with
      | none => exact .inl rfl
      | some j => exact absurd reached.2 (by omega))
  have walk := pushLoop_stored plain (by omega) (by omega) (fun _ => by omega) link
  have first : cpu.R 13 - 4 = start + BitVec.ofNat 32 (4 * rank i 8) := by
    rw [top,previous_word]
  have pushedLR : OP_PUSH_LR bus cpu mem i =
      let walked := pushLoop bus cpu i
        (bus.write32 mem (wordAt start (rank i 8)) (cpu.R 14))
        (start + BitVec.ofNat 32 (4 * rank i 8) - 4)
      (cpu.setR 13 (walked.2 + 4), walked.1) := by
    unfold OP_PUSH_LR Bus.WRITE32
    rw [first]
    dsimp only
    rw [mask_add]
  obtain ⟨saved,adr⟩ := walk
  rw [pushedLR]
  refine ⟨saved.within,?_⟩
  intro between changed sameR13 kept
  have afterR13 : between.R 13 = start := by
    refine sameR13.trans ((Arm.setR_self _ _ _).trans ?_)
    exact (congrArg (· + 4) adr).trans (sub_add_four start)
  have loaded := @loadLoop_loaded _ bus settled i' start words between changed plain
    (by rw [rank_congr sameList (Nat.le_refl 8)]; omega) kept.settled
  have slot := saved.stored none trivial
  have inside : block start words (wordAt start (rank i 8)) := ⟨_,by omega,rfl⟩
  have word : (bus.READ32 (loadLoop bus between changed i' start).1.2
      (loadLoop bus between changed i' start).2).1 = cpu.R 14 := by
    unfold Bus.READ32
    rw [loaded.address,rank_congr sameList (Nat.le_refl 8),mask_add]
    exact (loaded.kept.words _ inside).trans ((kept.words _ inside).trans slot)
  have restores := loaded_restores (by omega) sameList saved (all_pushed True) kept loaded
  unfold OP_POP_PC
  rw [afterR13]
  dsimp only
  rw [word]
  refine ⟨⟨?_,?_⟩,?_,?_,?_⟩
  · intro j listed
    rw [Arm.setR_of_ne _ _ (low_ne (by decide) j)]
    refine (Arm.setR_of_ne _ _ (low_ne (by decide) j)).trans (Eq.trans ?_ (restores j listed))
    split <;> rfl
  · rw [Arm.setR_self,loaded.address,rank_congr sameList (Nat.le_refl 8),next_word,top]
  · exact (branched _ _ _).1
  · exact (branched _ _ _).2
  · rw [← loaded.status]
    split <;> rfl

theorem store_load (sameList : ∀ j : Fin 8, BIT_N i' j = BIT_N i j)
    (outside : BIT_N i' (REG_NUM i' 8) = false)
    {start : u32} (base : cpu.R (REG_NUM i 8) = start)
    (plain : PlainBlock bus settled (block start (rank i 8))) (mapped : settled mem) :
    let within := block start (rank i 8)
    let after := OP_STMIA_THUMB bus cpu mem i
    WritesWithin bus within mem after.2 ∧
      after.1.R (REG_NUM i 8) = start + BitVec.ofNat 32 (4 * rank i 8) ∧
      ∀ between changed, between.R (REG_NUM i' 8) = start →
        Keeps bus settled within after.2 changed →
        let loaded := OP_LDMIA_THUMB bus between changed i'
        Restores i cpu loaded.1 ∧
          loaded.1.R (REG_NUM i' 8) = start + BitVec.ofNat 32 (4 * rank i 8) := by
  dsimp only
  have small := rank_le i 8
  have walk := @storeLoop_stored _ bus settled i cpu start (rank i 8) mem mem plain
    (by omega) (Nat.le_refl _)
    ⟨mapped,WritesWithin.refl mem,fun slot reached => by
      cases slot with
      | none => exact reached.elim
      | some j => exact absurd reached.2 (Nat.not_lt_zero _)⟩
  obtain ⟨saved,adr⟩ := walk
  unfold OP_STMIA_THUMB
  rw [base]
  refine ⟨saved.within,(Arm.setR_self _ _ _).trans adr,?_⟩
  intro between changed sameBase kept
  have loaded := @loadLoop_loaded _ bus settled i' start (rank i 8) between changed plain
    (by rw [rank_congr sameList (Nat.le_refl 8)]) kept.settled
  have restores := loaded_restores (Nat.le_refl _) sameList saved
    (fun j listed => ⟨listed,j.isLt⟩) kept loaded
  have notListed : ¬BIT_N i' (REG_NUM i' 8) = true := by
    rw [outside]
    exact Bool.false_ne_true
  unfold OP_LDMIA_THUMB
  dsimp only
  rw [sameBase]
  rw [if_neg notListed]
  constructor
  · intro j listed
    have ne : low j ≠ REG_NUM i' 8 := by
      intro same
      rw [← same] at outside
      exact Bool.false_ne_true (outside.symm.trans (listed_congr sameList listed))
    exact (Arm.setR_of_ne _ _ ne).trans (restores j listed)
  · rw [Arm.setR_self,loaded.address,rank_congr sameList (Nat.le_refl 8)]

end

section

variable {Other : Type}

theorem toNat_dtcmIndex (addr : u32) : dtcmIndex addr = addr.toNat % 2 ^ 14 / 4 * 4 := by
  have split : addr &&& 0x3FFC = (addr &&& 0x3FFF) &&& ~~~(3 : u32) := by
    rw [BitVec.and_assoc]
    rfl
  unfold dtcmIndex
  rw [split,Bios.toNat_align4,BitVec.toNat_and]
  change (addr.toNat &&& (2 ^ 14 - 1)) / 4 * 4 = _
  rw [Nat.and_two_pow_sub_one_eq_mod]

theorem toNat_mainIndex (addr : u32) : mainIndex addr = addr.toNat % 2 ^ 22 / 4 * 4 := by
  have split : addr &&& 0x3FFFFC = (addr &&& 0x3FFFFF) &&& ~~~(3 : u32) := by
    rw [BitVec.and_assoc]
    rfl
  unfold mainIndex
  rw [split,Bios.toNat_align4,BitVec.toNat_and]
  change (addr.toNat &&& (2 ^ 22 - 1)) / 4 * 4 = _
  rw [Nat.and_two_pow_sub_one_eq_mod]

theorem T1ReadLong_T1WriteLong_of_disjoint (mem : IoMem) {addr other : Nat} (val : u32)
    (disjoint : addr + 4 ≤ other ∨ other + 4 ≤ addr) :
    T1ReadLong (T1WriteLong mem addr val) other = T1ReadLong mem other := by
  unfold T1ReadLong T1ReadWord
  rw [T1WriteLong_outside _ _ (by omega),T1WriteLong_outside _ _ (by omega),
    T1WriteLong_outside _ _ (by omega),T1WriteLong_outside _ _ (by omega)]

theorem words_apart (start : u32) {words size k l : Nat} (wide : 8 ≤ size) (inside : size ≤ 32)
    (short : words ≤ 16) (first : k < words) (second : l < words) (ne : k ≠ l) :
    let idx (addr : u32) := addr.toNat % 2 ^ size / 4 * 4
    idx (wordAt start k) + 4 ≤ idx (wordAt start l) ∨
      idx (wordAt start l) + 4 ≤ idx (wordAt start k) := by
  have modulus : 2 ^ size ∣ 2 ^ 32 := Nat.pow_dvd_pow 2 inside
  have large : 2 ^ 8 ≤ 2 ^ size := Nat.pow_le_pow_right (by decide) wide
  have quarter : 4 ∣ 2 ^ size := Nat.pow_dvd_pow 2 (Nat.le_trans (by decide : 2 ≤ 8) wide)
  have aligned := Bios.toNat_align4 start
  have val (n : Nat) (bound : n < 16) :
      (wordAt start n).toNat % 2 ^ size = (start.toNat / 4 * 4 + 4 * n) % 2 ^ size := by
    have sum := BitVec.toNat_add (start &&& ~~~3) (BitVec.ofNat 32 (4 * n))
    have off := BitVec.toNat_ofNat (4 * n) 32
    rw [Nat.mod_eq_of_lt (by omega)] at off
    rw [off,aligned] at sum
    change ((start &&& ~~~3) + BitVec.ofNat 32 (4 * n)).toNat % _ = _
    rw [sum,Nat.mod_mod_of_dvd _ modulus]
  dsimp only
  rw [val k (by omega),val l (by omega)]
  generalize 2 ^ size = space at large quarter
  obtain ⟨quads,rfl⟩ := quarter
  have quotient (n : Nat) : (start.toNat / 4 * 4 + 4 * n) % (4 * quads) / 4 * 4 =
      4 * ((start.toNat / 4 + n) % quads) := by
    rw [show start.toNat / 4 * 4 + 4 * n = 4 * (start.toNat / 4 + n) from by omega,
      Nat.mul_mod_mul_left]
    omega
  rw [quotient,quotient]
  have distinct : (start.toNat / 4 + k) % quads ≠ (start.toNat / 4 + l) % quads := by
    intro same
    have difference : k % quads = l % quads :=
      Nat.ModEq.add_left_cancel' (start.toNat / 4) same
    have left := Nat.mod_eq_of_lt (show k < quads from by omega)
    have right := Nat.mod_eq_of_lt (show l < quads from by omega)
    exact ne (left.symm.trans (difference.trans right))
  omega

section

variable {PROCNUM : Proc} {others : Bus (Mmu Other)} {mmu : Mmu Other} {addr : u32}
  (mapped : inDTCM PROCNUM mmu.DTCMRegion addr ∨ inMainMemory addr)
include mapped

theorem read_mapped : (dataBus PROCNUM others).read32 mmu addr =
    (if inDTCM PROCNUM mmu.DTCMRegion addr then T1ReadLong mmu.ARM9_DTCM (dtcmIndex addr)
      else T1ReadLong mmu.MAIN_MEM (mainIndex addr), mmu) := by
  unfold dataBus
  dsimp only
  by_cases tightly : inDTCM PROCNUM mmu.DTCMRegion addr
  · rw [if_pos tightly,if_pos tightly]
  · rw [if_neg tightly,if_neg tightly,if_pos (mapped.resolve_left tightly)]

theorem write_mapped (val : u32) : (dataBus PROCNUM others).write32 mmu addr val =
    if inDTCM PROCNUM mmu.DTCMRegion addr then
      { mmu with ARM9_DTCM := T1WriteLong mmu.ARM9_DTCM (dtcmIndex addr) val }
    else { mmu with MAIN_MEM := T1WriteLong mmu.MAIN_MEM (mainIndex addr) val } := by
  unfold dataBus
  dsimp only
  by_cases tightly : inDTCM PROCNUM mmu.DTCMRegion addr
  · rw [if_pos tightly,if_pos tightly]
  · rw [if_neg tightly,if_neg tightly,if_pos (mapped.resolve_left tightly)]

theorem write_region (val : u32) :
    ((dataBus PROCNUM others).write32 mmu addr val).DTCMRegion = mmu.DTCMRegion := by
  rw [write_mapped mapped]
  split <;> rfl

end

theorem plain_dataBus (PROCNUM : Proc) (others : Bus (Mmu Other)) (region start : u32)
    {words : Nat} (short : words ≤ 16)
    (mapped : ∀ k < words, inDTCM PROCNUM region (wordAt start k) ∨
      inMainMemory (wordAt start k)) :
    PlainBlock (dataBus PROCNUM others) (fun mmu => mmu.DTCMRegion = region)
      (block start words) where
  write_settled := by
    rintro mmu _ val rfl ⟨k,bound,rfl⟩
    exact write_region (mapped k bound) val
  read_settled := by
    rintro mmu _ rfl ⟨k,bound,rfl⟩
    rw [read_mapped (mapped k bound)]
  read_written := by
    rintro mmu _ val rfl ⟨k,bound,rfl⟩
    have region := @write_region _ _ others _ _ (mapped k bound) val
    have still := mapped k bound
    rw [← region] at still
    rw [read_mapped still,region,write_mapped (mapped k bound)]
    by_cases tightly : inDTCM PROCNUM mmu.DTCMRegion (wordAt start k)
    · rw [if_pos tightly,if_pos tightly]
      exact T1ReadLong_T1WriteLong _ _ _
    · rw [if_neg tightly,if_neg tightly]
      exact T1ReadLong_T1WriteLong _ _ _
  read_other := by
    rintro mmu _ _ val rfl ⟨k,bound,rfl⟩ ⟨l,otherBound,rfl⟩ ne
    have apart : k ≠ l := fun same => ne (by rw [same])
    have region := @write_region _ _ others _ _ (mapped k bound) val
    have still := mapped l otherBound
    rw [← region] at still
    rw [read_mapped still,region,read_mapped (mapped l otherBound),write_mapped (mapped k bound)]
    have tight := @words_apart start _ 14 _ _ (by decide) (by decide) short bound otherBound apart
    have main := @words_apart start _ 22 _ _ (by decide) (by decide) short bound otherBound apart
    dsimp only at tight main
    rw [← toNat_dtcmIndex,← toNat_dtcmIndex] at tight
    rw [← toNat_mainIndex,← toNat_mainIndex] at main
    dsimp only
    by_cases tightly : inDTCM PROCNUM mmu.DTCMRegion (wordAt start k)
    · rw [if_pos tightly]
      dsimp only
      rw [T1ReadLong_T1WriteLong_of_disjoint _ _ tight]
    · rw [if_neg tightly]
      dsimp only
      rw [T1ReadLong_T1WriteLong_of_disjoint _ _ main]
  read_read := by
    rintro mmu _ other rfl ⟨k,bound,rfl⟩ _
    rw [read_mapped (mapped k bound)]

end

/-- PUSH and POP, PUSH with LR and POP with PC, and STMIA and LDMIA from the
same base. -/
theorem thumb_block_round_trip {Memory : Type} {bus : Bus Memory} {settled : Memory → Prop}
    (PROCNUM : Proc) {i i' : u32} (sameList : ∀ j : Fin 8, BIT_N i' j = BIT_N i j)
    (cpu : Processor) {mem : Memory} (mapped : settled mem) :
    (PlainBlock bus settled (belowStack cpu (rank i 8)) →
      let within := belowStack cpu (rank i 8)
      let after := OP_PUSH bus cpu mem i
      WritesWithin bus within mem after.2 ∧
        ∀ between changed, between.R 13 = after.1.R 13 →
          Keeps bus settled within after.2 changed →
          let popped := OP_POP bus between changed i'
          Restores i cpu popped.1 ∧ popped.1.R 13 = cpu.R 13) ∧
    (PlainBlock bus settled (belowStack cpu (rank i 8 + 1)) →
      let within := belowStack cpu (rank i 8 + 1)
      let after := OP_PUSH_LR bus cpu mem i
      WritesWithin bus within mem after.2 ∧
        ∀ between changed, between.R 13 = after.1.R 13 →
          Keeps bus settled within after.2 changed →
          let popped := OP_POP_PC bus PROCNUM between changed i'
          (Restores i cpu popped.1 ∧ popped.1.R 13 = cpu.R 13) ∧
            popped.1.R 15 = cpu.R 14 &&& 0xFFFFFFFE ∧
            popped.1.next_instruction = cpu.R 14 &&& 0xFFFFFFFE ∧
            popped.1.CPSR = if PROCNUM = .ARMCPU_ARM9 then
              between.CPSR.setBit 5 ((cpu.R 14).getLsbD 0) else between.CPSR) ∧
    (BIT_N i' (REG_NUM i' 8) = false →
      PlainBlock bus settled (block (cpu.R (REG_NUM i 8)) (rank i 8)) →
      let start := cpu.R (REG_NUM i 8)
      let after := OP_STMIA_THUMB bus cpu mem i
      WritesWithin bus (block start (rank i 8)) mem after.2 ∧
        after.1.R (REG_NUM i 8) = start + BitVec.ofNat 32 (4 * rank i 8) ∧
        ∀ between changed, between.R (REG_NUM i' 8) = start →
          Keeps bus settled (block start (rank i 8)) after.2 changed →
          let loaded := OP_LDMIA_THUMB bus between changed i'
          Restores i cpu loaded.1 ∧
            loaded.1.R (REG_NUM i' 8) = start + BitVec.ofNat 32 (4 * rank i 8)) := by
  refine ⟨?_,?_,?_⟩
  · intro plain
    exact push_pop sameList rfl plain mapped
  · intro plain
    exact push_lr_pop_pc PROCNUM sameList rfl plain mapped
  · intro outside plain
    exact store_load sameList outside rfl plain mapped

def stacked : Processor :=
  { Arm.ones with R := Function.update (fun _ => 0x02001000) 14 0x02000101 }

/-- R0 and R3 with the base R2, on memory that is the main memory alone. -/
theorem thumb_block_round_trip_main :
    let bus : Bus (Mmu Unit) :=
      dataBus .ARMCPU_ARM9 { read32 := fun mmu _ => (0, mmu), write32 := fun mmu _ _ => mmu }
    let mmu : Mmu Unit := ⟨fun _ => 0, fun _ => 0, 0, ()⟩
    let within := belowStack stacked (rank 0x209 8 + 1)
    let after := OP_PUSH_LR bus stacked mmu 0x209
    WritesWithin bus within mmu after.2 ∧
      ∀ between changed, between.R 13 = after.1.R 13 →
        Keeps bus (fun mmu => mmu.DTCMRegion = 0) within after.2 changed →
        let popped := OP_POP_PC bus .ARMCPU_ARM9 between changed 0x209
        (Restores 0x209 stacked popped.1 ∧ popped.1.R 13 = stacked.R 13) ∧
          popped.1.R 15 = stacked.R 14 &&& 0xFFFFFFFE ∧
          popped.1.next_instruction = stacked.R 14 &&& 0xFFFFFFFE ∧
          popped.1.CPSR = between.CPSR.setBit 5 ((stacked.R 14).getLsbD 0) := by
  intro bus mmu
  have all := @thumb_block_round_trip _ bus (fun mmu => mmu.DTCMRegion = 0) .ARMCPU_ARM9
    0x209 0x209 (fun _ => rfl) stacked mmu rfl
  refine all.2.1 ?_
  exact plain_dataBus .ARMCPU_ARM9 _ 0
    (stacked.R 13 - BitVec.ofNat 32 (4 * (rank 0x209 8 + 1))) (by decide) (by decide)

end Desmume.Thumb
