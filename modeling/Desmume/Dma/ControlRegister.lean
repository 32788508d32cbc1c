/-
The control register of a DMA channel reads back the latched fields.

`read32` ors the fields together with the word count, so it is right while the
count stays within its 21 bits.
-/

import Desmume.Dma.Controller

namespace Desmume.Dma

/-- The word count fits its field, and each field of the register reads back as
it was latched. -/
structure Integrity (dma : DmaController) : Prop where
  wordcount : dma.wordcount ≤ 0x1FFFFF
  enable : (read32 dma).getLsbD 31 = dma.enable
  irq : (read32 dma).getLsbD 30 = dma.irq
  startmode : (read32 dma).extractLsb' 27 3 = dma._startmode
  bitWidth : EDMABitWidth.ofBit ((read32 dma).getLsbD 26) = dma.bitWidth
  repeatMode : (read32 dma).getLsbD 25 = dma.repeatMode
  sar : EDMASourceUpdate.ofCode ((read32 dma).extractLsb' 23 2) = dma.sar
  dar : EDMADestinationUpdate.ofCode ((read32 dma).extractLsb' 21 2) = dma.dar

inductive Op
  | access (nds_timer : Nat) (op : Access)
  | exec (env : Env)

def step (dma : DmaController) : Op → DmaController
  | .access nds_timer op => access nds_timer dma op
  | .exec env => exec dma env

/-- If `exec` starts a copy, the copy does not count down, or it moves no more
units than the count says. -/
def CountSuffices (dma : DmaController) : Op → Prop
  | .access _ _ => True
  | .exec env => ∀ next ∈ copying dma env,
      (copied next env).repeatMode = true ∨ next.startmode = .Card ∨
        todo next env ≤ (copied next env).wordcount

theorem high_bit_of_fits {val : u32} (fits : val ≤ 0x1FFFFF) {bit : Nat} (high : 21 ≤ bit) :
    val.getLsbD bit = false := by
  have small : val.toNat < 2 ^ bit := by
    calc
      val.toNat ≤ 0x1FFFFF := fits
      _ < 2 ^ 21 := by decide
      _ ≤ 2 ^ bit := Nat.pow_le_pow_right (by decide) high
  exact Nat.testBit_lt_two_pow small

theorem getLsbD_flag (bit : Bool) (i : Nat) : (flag bit).getLsbD i = (bit && decide (i = 0)) := by
  cases bit with
  | false => simp [flag]
  | true =>
      cases i with
      | zero => rfl
      | succ i => simp [flag]

theorem getLsbD_bitWidth_code (bitWidth : EDMABitWidth) (i : Nat) :
    bitWidth.code.getLsbD i =
      (decide (bitWidth = .EDMABitWidth_32) && decide (i = 0)) := by
  cases bitWidth with
  | EDMABitWidth_16 => simp [EDMABitWidth.code]
  | EDMABitWidth_32 =>
      cases i with
      | zero => rfl
      | succ i => simp [EDMABitWidth.code]

variable {dma : DmaController}

theorem getLsbD_read32 (fits : dma.wordcount ≤ 0x1FFFFF) {bit : Nat}
    (high : 21 ≤ bit) (inside : bit < 32) :
    (read32 dma).getLsbD bit =
      (dma.enable && decide (bit = 31) || dma.irq && decide (bit = 30) ||
        decide (27 ≤ bit) && dma._startmode.getLsbD (bit - 27) ||
        decide (dma.bitWidth = .EDMABitWidth_32) && decide (bit = 26) ||
        dma.repeatMode && decide (bit = 25) ||
        decide (23 ≤ bit) && dma.sar.code.getLsbD (bit - 23) ||
        dma.dar.code.getLsbD (bit - 21)) := by
  have clear := high_bit_of_fits fits high
  simp only [read32,BitVec.getLsbD_or,BitVec.getLsbD_shiftLeft,BitVec.getLsbD_setWidth,
    getLsbD_flag,getLsbD_bitWidth_code,clear,inside,Bool.or_false]
  interval_cases bit <;> simp

theorem EDMASourceUpdate.ofCode_code (sar : EDMASourceUpdate) :
    EDMASourceUpdate.ofCode sar.code = sar := by
  cases sar <;> rfl

theorem EDMADestinationUpdate.ofCode_code (dar : EDMADestinationUpdate) :
    EDMADestinationUpdate.ofCode dar.code = dar := by
  cases dar <;> rfl

theorem integrity_of_fits (fits : dma.wordcount ≤ 0x1FFFFF) : Integrity dma where
  wordcount := fits
  enable := by
    rw [getLsbD_read32 fits (by decide) (by decide)]
    simp
  irq := by
    rw [getLsbD_read32 fits (by decide) (by decide)]
    simp
  startmode := by
    apply BitVec.eq_of_getLsbD_eq
    intro i bound
    rw [BitVec.getLsbD_extractLsb',getLsbD_read32 fits (by omega) (by omega)]
    interval_cases i <;> simp
  bitWidth := by
    rw [getLsbD_read32 fits (by decide) (by decide)]
    cases dma.bitWidth with
    | EDMABitWidth_16 => simp [EDMABitWidth.ofBit]
    | EDMABitWidth_32 => simp [EDMABitWidth.ofBit]
  repeatMode := by
    rw [getLsbD_read32 fits (by decide) (by decide)]
    simp
  sar := by
    have code : (read32 dma).extractLsb' 23 2 = dma.sar.code := by
      apply BitVec.eq_of_getLsbD_eq
      intro i bound
      rw [BitVec.getLsbD_extractLsb',getLsbD_read32 fits (by omega) (by omega)]
      interval_cases i <;> simp
    rw [code,EDMASourceUpdate.ofCode_code]
  dar := by
    have code : (read32 dma).extractLsb' 21 2 = dma.dar.code := by
      apply BitVec.eq_of_getLsbD_eq
      intro i bound
      rw [BitVec.getLsbD_extractLsb',getLsbD_read32 fits (by omega) (by omega)]
      interval_cases i <;> simp
    rw [code,EDMADestinationUpdate.ofCode_code]

theorem integrity_iff (dma : DmaController) : Integrity dma ↔ dma.wordcount ≤ 0x1FFFFF :=
  ⟨Integrity.wordcount,integrity_of_fits⟩

theorem masked_fits (val : u32) : val &&& 0x1FFFFF ≤ 0x1FFFFF := by
  change (val &&& 0x1FFFFF).toNat ≤ _
  rw [BitVec.toNat_and]
  exact Nat.and_le_right

theorem fits_access (nds_timer : Nat) (dma : DmaController) (op : Access)
    (fits : dma.wordcount ≤ 0x1FFFFF) : (access nds_timer dma op).wordcount ≤ 0x1FFFFF := by
  cases op with
  | sad size adr val => exact fits
  | dad size adr val => exact fits
  | ctrl size adr val =>
      simp only [access]
      rw [wordcount_write32]
      exact masked_fits _
  | trigger mode =>
      simp only [access]
      rw [wordcount_tryTrigger]
      exact fits

theorem fits_copied (env : Env) (fits : dma.wordcount ≤ 0x1FFFFF) :
    (copied dma env).wordcount ≤ 0x1FFFFF := by
  have nested (accesses : List Access) (dma : DmaController)
      (fits : dma.wordcount ≤ 0x1FFFFF) :
      (accesses.foldl (access env.nds_timer) dma).wordcount ≤ 0x1FFFFF := by
    induction accesses generalizing dma with
    | nil => exact fits
    | cons op rest ih => exact ih _ (fits_access env.nds_timer dma op fits)
  apply nested
  unfold frameEnd
  split
  · exact fits
  · exact fits

theorem todo_le (env : Env) (fits : dma.wordcount ≤ 0x1FFFFF)
    (notCard : dma.startmode ≠ .Card) : todo dma env ≤ 0x200000 := by
  simp only [todo,if_neg notCard]
  have whole : (if dma.procnum = .ARMCPU_ARM9 ∧ dma.wordcount = 0 then (0x200000 : u32)
      else dma.wordcount) ≤ 0x200000 := by
    split
    · decide
    · bv_omega
  generalize (if dma.procnum = .ARMCPU_ARM9 ∧ dma.wordcount = 0 then (0x200000 : u32)
      else dma.wordcount) = n at whole
  have chosen : (if dma.startmode = .MemDisplay then (128 : u32) else n) ≤ 0x200000 := by
    split
    · decide
    · exact whole
  generalize (if dma.startmode = .MemDisplay then (128 : u32) else n) = n at chosen
  split
  · split
    · exact chosen
    · decide
  · exact chosen

theorem sub_fits_iff {n todo : u32} (fits : n ≤ 0x1FFFFF) (bounded : todo ≤ 0x200000) :
    n - todo ≤ 0x1FFFFF ↔ todo ≤ n := by
  constructor
  · intro inside
    bv_omega
  · intro enough
    bv_omega

theorem fits_doCopy_iff (env : Env) (fits : dma.wordcount ≤ 0x1FFFFF) :
    (doCopy dma env).wordcount ≤ 0x1FFFFF ↔
      (copied dma env).repeatMode = true ∨ dma.startmode = .Card ∨
        todo dma env ≤ (copied dma env).wordcount := by
  have after := fits_copied env fits
  rw [wordcount_doCopy]
  cases repeats : (copied dma env).repeatMode with
  | true =>
      rw [if_pos rfl]
      exact iff_of_true after (Or.inl rfl)
  | false =>
      rw [if_neg Bool.false_ne_true]
      by_cases card : dma.startmode = .Card
      · rw [if_pos card]
        exact iff_of_true (show (0 : u32) ≤ 0x1FFFFF by decide) (Or.inr (Or.inl card))
      · rw [if_neg card,sub_fits_iff after (todo_le env fits card)]
        constructor
        · intro enough
          exact Or.inr (Or.inr enough)
        · rintro (impossible | impossible | enough)
          · exact absurd impossible Bool.false_ne_true
          · exact absurd impossible card
          · exact enough

theorem integrity_step_iff (dma : DmaController) (op : Op) (integrity : Integrity dma) :
    Integrity (step dma op) ↔ CountSuffices dma op := by
  have fits := integrity.wordcount
  rw [integrity_iff]
  cases op with
  | access nds_timer op => exact iff_of_true (fits_access nds_timer dma op fits) trivial
  | exec env =>
      change (exec dma env).wordcount ≤ 0x1FFFFF ↔ ∀ next ∈ copying dma env, _
      rcases exec_cases dma env with ⟨none,same⟩ | ⟨next,some,n,copies⟩
      · rw [same,none]
        refine iff_of_true fits ?_
        intro next absent
        cases absent
      · rw [copies,some,fits_doCopy_iff env (by rw [n]; exact fits)]
        constructor
        · intro suffices_ other here
          cases here
          exact suffices_
        · intro everywhere
          exact everywhere next rfl

/-- From construction, the register reads back right in every state of a run
exactly when no copy of the run counts down by more than the count. -/
theorem control_register_integrity_iff (procnum : Proc) (chan : Fin 4) (ops : List Op) :
    Run.Always step Integrity (DmaController.fresh procnum chan) ops ↔
      Run.Guarded step CountSuffices (DmaController.fresh procnum chan) ops := by
  have kept (dma : DmaController) (op : Op) (_ : True) : True := trivial
  have fresh : Integrity (DmaController.fresh procnum chan) :=
    integrity_of_fits (show (0 : u32) ≤ 0x1FFFFF by decide)
  exact Run.always_iff_guarded kept (fun dma op _ => integrity_step_iff dma op) trivial fresh
    ops

/-- An immediate ARM9 transfer with count 0 moves 0x200000 units and leaves the
count at 0xFFE00000. -/
theorem count_zero_breaks_register :
    ¬∀ (procnum : Proc) (chan : Fin 4) (ops : List Op),
      Run.Always step Integrity (DmaController.fresh procnum chan) ops := by
  intro everywhere
  let env : Env :=
    { nds_timer := 0
      VCount := 0
      gxFIFO_size := 0
      transfer_count := 0
      time_elapsed := 0
      nested := [] }
  have always := everywhere .ARMCPU_ARM9 0
    [.access 0 (.ctrl .size32 0 0x80000000),.exec env]
  exact absurd always.last.wordcount (by decide)

end Desmume.Dma
