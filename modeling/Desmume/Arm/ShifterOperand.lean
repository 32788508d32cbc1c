/-
The macros of the shifter operand against the architecture.

Amounts 0, 32 and above are the cases of the macros; inside the width the
shifts are those of the words.
-/

import Desmume.Arm.Shifter

namespace Desmume.Arm

open Cpu HostShift BarrelShifter

theorem and_one_eq_flag (x : u32) : x &&& 1 = flag (x.getLsbD 0) :=
  BitVec.and_one_eq_setWidth_ofBool_getLsbD

theorem shifted_bit (x : u32) (n : Nat) : x >>> n &&& 1 = flag (x.getLsbD n) := by
  rw [and_one_eq_flag,BitVec.getLsbD_ushiftRight,Nat.add_zero]

theorem BIT0_eq (x : u32) : BIT0 x = flag (x.getLsbD 0) := and_one_eq_flag x

theorem BIT31_eq (x : u32) : BIT31 x = flag x.msb := by
  have last : x.msb = x.getLsbD 31 := BitVec.msb_eq_getLsbD_last x
  rw [last,← shifted_bit]
  apply BitVec.eq_of_toNat_eq
  have small : (x >>> 31).toNat < 2 := by
    have bound := x.isLt
    rw [BitVec.toNat_ushiftRight,Nat.shiftRight_eq_div_pow]
    omega
  change (x >>> 31).toNat = (x >>> 31 &&& 1).toNat
  rw [BitVec.toNat_and]
  change _ = (x >>> 31).toNat &&& (2 ^ 1 - 1)
  rw [Nat.and_two_pow_sub_one_eq_mod]
  omega

theorem C_eq (reg : Status_Reg) : Status_Reg.C reg = flag (reg.getLsbD 29) := shifted_bit reg 29

theorem BIT_N_eq (host : Host 32) (x : u32) {n : u32} (inside : n.toNat < 32) :
    BIT_N host x n = some (flag (x.getLsbD n.toNat)) := by
  unfold BIT_N
  rw [shift_inside host .right x inside,Option.map_some]
  exact congrArg some (shifted_bit x n.toNat)

theorem signs_eq (i : u32) (cpu : armcpu_t) :
    signs i cpu = if (Rm i cpu).msb then BitVec.allOnes 32 else 0 := by
  unfold signs
  rw [BIT31_eq]
  cases (Rm i cpu).msb with
  | false => rfl
  | true => rfl

theorem immediate_lt (i : u32) : (immediate i).toNat < 32 := by
  have small : (immediate i).toNat ≤ 31 := by
    unfold immediate
    rw [BitVec.toNat_and]
    exact Nat.and_le_right
  omega

theorem immediate_pos {i : u32} (nonzero : immediate i ≠ 0) : (immediate i).toNat ≠ 0 :=
  fun zero => nonzero (BitVec.eq_of_toNat_eq zero)

theorem toNat_pos {cnt : u32} (nonzero : cnt ≠ 0) : cnt.toNat ≠ 0 :=
  fun zero => nonzero (BitVec.eq_of_toNat_eq zero)

theorem ROR_inside (host : Host 32) (x : u32) {j : u32} (positive : j ≠ 0)
    (inside : j.toNat < 32) : ROR host x j = some (ROR_C x j.toNat).1 := by
  have nonzero := toNat_pos positive
  have complement : (32 - j).toNat = 32 - j.toNat := by bv_omega
  have left : (32 - j).toNat < 32 := by omega
  unfold ROR
  rw [shift_inside host .right x inside,shift_inside host .left x left,complement,
    ROR_C_fst x inside]
  rfl

theorem ROR_none {host : Host 32} (keeps : Keeps host) (x : u32) : ROR host x 0 = some x := by
  obtain ⟨kept,given,same⟩ := keeps x
  have zero : (0 : u32).toNat < 32 := by decide
  have outside : 32 ≤ (32 - 0 : u32).toNat := by decide
  unfold ROR
  rw [shift_inside host .right x zero,shift_outside host .left x outside]
  change (host .left x (BitVec.ofNat 32 32)).bind _ = _
  rw [given]
  change some (x >>> 0 ||| kept) = some x
  rw [BitVec.ushiftRight_zero,same]

section

variable (host : Host 32) (x : u32) {n : u32}

theorem below_lt (positive : n ≠ 0) (inside : n.toNat < 32) :
    (n - 1).toNat = n.toNat - 1 ∧ (n - 1).toNat < 32 := by
  have nonzero := toNat_pos positive
  have lower : (n - 1).toNat = n.toNat - 1 := by bv_omega
  exact ⟨lower,by omega⟩

theorem bit_and_shift (kind : HostShift.Kind) {k : u32} (bit : k.toNat < 32)
    (inside : n.toNat < 32) :
    (do
      let c ← BIT_N host x k
      let shift_op ← shift host kind x n
      pure (shift_op, c)) = some (kind.shifted x n.toNat, flag (x.getLsbD k.toNat)) := by
  rw [BIT_N_eq host x bit,shift_inside host kind x inside]
  rfl

theorem left_inside (positive : n ≠ 0) (inside : n.toNat < 32) :
    (do
      let c ← BIT_N host x (32 - n)
      let shift_op ← shift host .left x n
      pure (shift_op, c)) = some ((LSL_C x n.toNat).1, flag (LSL_C x n.toNat).2) := by
  have nonzero := toNat_pos positive
  have complement : (32 - n).toNat = 32 - n.toNat := by bv_omega
  have bit : (32 - n).toNat < 32 := by omega
  rw [bit_and_shift host x .left bit inside,complement,LSL_C_fst,
    LSL_C_snd_inside x (Nat.le_of_lt inside)]
  rfl

theorem right_inside (positive : n ≠ 0) (inside : n.toNat < 32) :
    (do
      let c ← BIT_N host x (n - 1)
      let shift_op ← shift host .right x n
      pure (shift_op, c)) = some ((LSR_C x n.toNat).1, flag (LSR_C x n.toNat).2) := by
  obtain ⟨lower,bit⟩ := below_lt positive inside
  rw [bit_and_shift host x .right bit inside,lower,LSR_C_fst,LSR_C_snd x (toNat_pos positive)]
  rfl

theorem arithmetic_inside (positive : n ≠ 0) (inside : n.toNat < 32) :
    (do
      let c ← BIT_N host x (n - 1)
      let shift_op ← shift host .arithmetic x n
      pure (shift_op, c)) = some ((ASR_C x n.toNat).1, flag (ASR_C x n.toNat).2) := by
  obtain ⟨lower,bit⟩ := below_lt positive inside
  rw [bit_and_shift host x .arithmetic bit inside,lower,ASR_C_fst,
    ASR_C_snd_inside x (toNat_pos positive) (Nat.le_of_lt inside)]
  rfl

theorem rotate_inside (positive : n ≠ 0) (inside : n.toNat < 32) :
    (do
      let c ← BIT_N host x (n - 1)
      let shift_op ← ROR host x n
      pure (shift_op, c)) = some ((ROR_C x n.toNat).1, flag (ROR_C x n.toNat).2) := by
  obtain ⟨lower,bit⟩ := below_lt positive inside
  rw [BIT_N_eq host x bit,ROR_inside host x positive inside,lower,
    ROR_C_snd x (toNat_pos positive) inside]
  rfl

end

theorem LSR_C_width (x : u32) : LSR_C x 32 = (0, x.msb) := by
  apply Prod.ext
  · rw [LSR_C_fst]
    exact BitVec.ushiftRight_eq_zero (Nat.le_refl 32)
  · rw [LSR_C_snd x (by omega),BitVec.msb_eq_getLsbD_last]

theorem LSR_C_beyond (x : u32) {shift : Nat} (beyond : 32 < shift) : LSR_C x shift =
    (0, false) := by
  apply Prod.ext
  · rw [LSR_C_fst]
    exact BitVec.ushiftRight_eq_zero (by omega)
  · rw [LSR_C_snd x (by omega)]
    exact BitVec.getLsbD_of_ge x _ (by omega)

theorem LSL_C_width (x : u32) : LSL_C x 32 = (0, x.getLsbD 0) := by
  apply Prod.ext
  · rw [LSL_C_fst]
    exact BitVec.shiftLeft_eq_zero (Nat.le_refl 32)
  · exact LSL_C_snd_inside x (Nat.le_refl 32)

theorem LSL_C_beyond (x : u32) {shift : Nat} (beyond : 32 < shift) : LSL_C x shift =
    (0, false) := by
  apply Prod.ext
  · rw [LSL_C_fst]
    exact BitVec.shiftLeft_eq_zero (by omega)
  · exact LSL_C_snd_outside x beyond

theorem ASR_C_outside (i : u32) (cpu : armcpu_t) {shift : Nat} (outside : 32 ≤ shift) :
    ASR_C (Rm i cpu) shift = (signs i cpu, (Rm i cpu).msb) := by
  apply Prod.ext
  · rw [ASR_C_fst,sshiftRight_outside _ outside,signs_eq]
  · exact ASR_C_snd_outside _ (by omega) outside

/-- Both macros of a form give the operand, the one with `S_` the carry too. -/
structure Gives (host : Host 32) (i : u32) (cpu : armcpu_t) (shifter : Shifter)
    (operand : u32 × Bool) : Prop where
  plain : shifter.plain host i cpu = some operand.1
  flagSetting : shifter.flagSetting host i cpu = some (operand.1, flag operand.2)

section

variable (host : Host 32) (i : u32) (cpu : armcpu_t)

theorem gives_LSL_IMM : Gives host i cpu .LSL_IMM (shifterOperand i cpu .LSL_IMM) := by
  have inside := immediate_lt i
  change Gives host i cpu .LSL_IMM (Shift_C (Rm i cpu) .LSL (immediate i).toNat _)
  by_cases zero : immediate i = 0
  · rw [zero]
    change Gives host i cpu .LSL_IMM (Shift_C (Rm i cpu) .LSL 0 _)
    rw [shift_zero]
    constructor
    · change shift host .left (Rm i cpu) (immediate i) = _
      rw [shift_inside host .left _ inside,zero]
      exact congrArg some (BitVec.shiftLeft_zero _)
    · rw [← C_eq]
      exact if_pos zero
  · rw [shift_pos (immediate_pos zero)]
    constructor
    · rw [LSL_C_fst]
      exact shift_inside host .left _ inside
    · exact (if_neg zero).trans (left_inside host _ zero inside)

theorem gives_LSR_IMM : Gives host i cpu .LSR_IMM (shifterOperand i cpu .LSR_IMM) := by
  have inside := immediate_lt i
  change Gives host i cpu .LSR_IMM (Shift_C (Rm i cpu) .LSR (decoded i) _)
  unfold decoded
  by_cases zero : immediate i = 0
  · rw [if_pos zero,shift_pos (by omega),LSR_C_width]
    constructor
    · exact (if_neg (not_not.mpr zero)).trans (congrArg some zero)
    · rw [← BIT31_eq,← zero]
      exact if_pos zero
  · rw [if_neg zero,shift_pos (immediate_pos zero)]
    constructor
    · rw [LSR_C_fst]
      exact (if_pos zero).trans (shift_inside host .right _ inside)
    · exact (if_neg zero).trans (right_inside host _ zero inside)

theorem gives_ASR_IMM : Gives host i cpu .ASR_IMM (shifterOperand i cpu .ASR_IMM) := by
  have inside := immediate_lt i
  change Gives host i cpu .ASR_IMM (Shift_C (Rm i cpu) .ASR (decoded i) _)
  unfold decoded
  by_cases zero : immediate i = 0
  · rw [if_pos zero,shift_pos (by omega),ASR_C_outside i cpu (Nat.le_refl 32)]
    constructor
    · exact if_pos zero
    · rw [← BIT31_eq]
      exact if_pos zero
  · rw [if_neg zero,shift_pos (immediate_pos zero)]
    constructor
    · rw [ASR_C_fst]
      exact (if_neg zero).trans (shift_inside host .arithmetic _ inside)
    · exact (if_neg zero).trans (arithmetic_inside host _ zero inside)

theorem gives_ROR_IMM : Gives host i cpu .ROR_IMM (shifterOperand i cpu .ROR_IMM) := by
  have inside := immediate_lt i
  unfold shifterOperand
  dsimp only
  by_cases zero : immediate i = 0
  · have extended : (RRX_C (Rm i cpu) (cpu.CPSR.getLsbD 29)).1 =
        Status_Reg.C cpu.CPSR <<< 31 ||| Rm i cpu >>> 1 := by
      rw [RRX_C_fst,C_eq]
      rfl
    rw [if_pos zero]
    constructor
    · rw [extended]
      exact if_pos zero
    · rw [extended]
      change _ = some (_, flag ((Rm i cpu).getLsbD 0))
      rw [← BIT0_eq]
      exact if_pos zero
  · rw [if_neg zero,shift_pos (immediate_pos zero)]
    constructor
    · exact (if_neg zero).trans (ROR_inside host _ zero inside)
    · exact (if_neg zero).trans (rotate_inside host _ zero inside)

theorem not_lt_of_toNat {cnt : u32} (outside : 32 ≤ cnt.toNat) : ¬cnt < 32 :=
  BitVec.not_lt.mpr outside

theorem ne_zero_of_toNat {cnt : u32} (outside : 32 ≤ cnt.toNat) : cnt ≠ 0 := by
  intro zero
  rw [zero] at outside
  exact absurd outside (by decide)

theorem gives_by_amount {shifter : Shifter} {type : SRType} {x cnt last : u32} {bit : Bool}
    {shifted : Option u32} {withCarry : Option (u32 × u32)}
    (plain : shifter.plain host i cpu = if 32 ≤ cnt then some 0 else shifted)
    (flagSetting : shifter.flagSetting host i cpu =
      if cnt = 0 then some (x, Status_Reg.C cpu.CPSR)
      else if cnt < 32 then withCarry
      else if cnt = 32 then some (0, last)
      else some (0, 0)) (unshifted : cnt = 0 → shifted = some x)
    (inside : cnt ≠ 0 → cnt.toNat < 32 → ∀ carry,
      shifted = some (Shift_C x type cnt.toNat carry).1 ∧
        withCarry = some ((Shift_C x type cnt.toNat carry).1,
          flag (Shift_C x type cnt.toNat carry).2))
    (lastBit : last = flag bit) (width : ∀ carry, Shift_C x type 32 carry = (0, bit))
    (beyond : ∀ n, 32 < n → ∀ carry, Shift_C x type n carry = (0, false)) :
    Gives host i cpu shifter (Shift_C x type cnt.toNat (cpu.CPSR.getLsbD 29)) := by
  rcases Nat.lt_or_ge cnt.toNat 32 with below | outside
  · have within : ¬(32 : u32) ≤ cnt := BitVec.not_le.mpr below
    have less : cnt < 32 := below
    rw [if_neg within] at plain
    by_cases zero : cnt = 0
    · rw [if_pos zero,C_eq] at flagSetting
      rw [unshifted zero] at plain
      rw [zero]
      change Gives host i cpu shifter (Shift_C x type 0 _)
      rw [shift_zero]
      exact ⟨plain,flagSetting⟩
    · obtain ⟨alone,both⟩ := inside zero below (cpu.CPSR.getLsbD 29)
      rw [if_neg zero,if_pos less,both] at flagSetting
      exact ⟨plain.trans alone,flagSetting⟩
  · have within : (32 : u32) ≤ cnt := outside
    rw [if_pos within] at plain
    rw [if_neg (ne_zero_of_toNat outside),if_neg (not_lt_of_toNat outside)] at flagSetting
    by_cases exactly : cnt = 32
    · rw [if_pos exactly,lastBit] at flagSetting
      rw [exactly]
      change Gives host i cpu shifter (Shift_C x type 32 _)
      rw [width]
      exact ⟨plain,flagSetting⟩
    · have more : 32 < cnt.toNat := by
        have ne : cnt.toNat ≠ 32 := fun same => exactly (BitVec.eq_of_toNat_eq same)
        omega
      rw [if_neg exactly] at flagSetting
      rw [beyond _ more]
      exact ⟨plain,flagSetting⟩

theorem gives_LSL_REG : Gives host i cpu .LSL_REG (shifterOperand i cpu .LSL_REG) := by
  change Gives host i cpu .LSL_REG (Shift_C (Rm i cpu) .LSL (amount i cpu).toNat _)
  refine gives_by_amount host i cpu (by rfl) (by rfl) ?_ ?_ (BIT0_eq (Rm i cpu)) ?_ ?_
  · intro zero
    rw [zero]
    exact congrArg some (BitVec.shiftLeft_zero _)
  · intro nonzero inside carry
    rw [shift_pos (toNat_pos nonzero)]
    refine ⟨?_,left_inside host _ nonzero inside⟩
    rw [LSL_C_fst]
    exact shift_inside host .left _ inside
  · intro carry
    rw [shift_pos (by omega)]
    exact LSL_C_width _
  · intro n more carry
    rw [shift_pos (by omega)]
    exact LSL_C_beyond _ more

theorem gives_LSR_REG : Gives host i cpu .LSR_REG (shifterOperand i cpu .LSR_REG) := by
  change Gives host i cpu .LSR_REG (Shift_C (Rm i cpu) .LSR (amount i cpu).toNat _)
  refine gives_by_amount host i cpu (by rfl) (by rfl) ?_ ?_ (BIT31_eq (Rm i cpu)) ?_ ?_
  · intro zero
    rw [zero]
    exact congrArg some (BitVec.ushiftRight_zero _)
  · intro nonzero inside carry
    rw [shift_pos (toNat_pos nonzero)]
    refine ⟨?_,right_inside host _ nonzero inside⟩
    rw [LSR_C_fst]
    exact shift_inside host .right _ inside
  · intro carry
    rw [shift_pos (by omega)]
    exact LSR_C_width _
  · intro n more carry
    rw [shift_pos (by omega)]
    exact LSR_C_beyond _ more

theorem gives_ASR_REG : Gives host i cpu .ASR_REG (shifterOperand i cpu .ASR_REG) := by
  change Gives host i cpu .ASR_REG (Shift_C (Rm i cpu) .ASR (amount i cpu).toNat _)
  by_cases zero : amount i cpu = 0
  · rw [zero]
    change Gives host i cpu .ASR_REG (Shift_C (Rm i cpu) .ASR 0 _)
    rw [shift_zero]
    constructor
    · exact if_pos zero
    · rw [← C_eq]
      exact if_pos zero
  · rw [shift_pos (toNat_pos zero)]
    rcases Nat.lt_or_ge (amount i cpu).toNat 32 with inside | outside
    · constructor
      · rw [ASR_C_fst]
        exact ((if_neg zero).trans (if_pos inside)).trans (shift_inside host .arithmetic _ inside)
      · exact ((if_neg zero).trans (if_pos inside)).trans (arithmetic_inside host _ zero inside)
    · have larger := not_lt_of_toNat outside
      dsimp only
      rw [ASR_C_outside i cpu outside]
      constructor
      · exact (if_neg zero).trans (if_neg larger)
      · rw [← BIT31_eq]
        exact (if_neg zero).trans (if_neg larger)

theorem gives_ROR_REG : Gives host i cpu .ROR_REG (shifterOperand i cpu .ROR_REG) := by
  change Gives host i cpu .ROR_REG (Shift_C (Rm i cpu) .ROR (amount i cpu).toNat _)
  have low : (amount i cpu &&& 0x1F).toNat = (amount i cpu).toNat % 32 := by
    rw [BitVec.toNat_and]
    exact Nat.and_two_pow_sub_one_eq_mod _ 5
  by_cases zero : amount i cpu = 0
  · rw [zero]
    change Gives host i cpu .ROR_REG (Shift_C (Rm i cpu) .ROR 0 _)
    rw [shift_zero]
    constructor
    · exact if_pos (Or.inl zero)
    · rw [← C_eq]
      exact if_pos zero
  · rw [shift_pos (toNat_pos zero)]
    by_cases whole : amount i cpu &&& 0x1F = 0
    · have multiple : (amount i cpu).toNat % 32 = 0 := by
        rw [← low,whole]
        rfl
      dsimp only
      rw [ROR_C_zero _ multiple]
      constructor
      · exact if_pos (Or.inr whole)
      · rw [← BIT31_eq]
        exact (if_neg zero).trans (if_pos whole)
    · have inside : (amount i cpu &&& 0x1F).toNat < 32 := by omega
      dsimp only
      rw [← ROR_C_mod,← low]
      constructor
      · exact (if_neg (not_or.mpr ⟨zero,whole⟩)).trans (ROR_inside host _ whole inside)
      · exact ((if_neg zero).trans (if_neg whole)).trans (rotate_inside host _ whole inside)

theorem rotation_eq : (i >>> 7 &&& 0x1E).toNat = 2 * (i >>> 8 &&& 0xF).toNat := by
  have field : i >>> 7 &&& (0x1E : u32) = (i >>> 8 &&& 0xF) <<< 1 := by
    have mask : (0x1E : u32) = (0xF : u32) <<< 1 := rfl
    have shifted : i >>> 8 = i >>> 7 >>> 1 := BitVec.shiftRight_add i 7 1
    rw [mask,shifted]
    apply BitVec.eq_of_getLsbD_eq
    intro idx inside
    cases idx with
    | zero => rw [BitVec.getLsbD_and,BitVec.getLsbD_shiftLeft,BitVec.getLsbD_shiftLeft]; simp
    | succ lower =>
        have positive : ¬lower + 1 < 1 := by omega
        rw [BitVec.getLsbD_and,BitVec.getLsbD_shiftLeft,BitVec.getLsbD_shiftLeft,
          BitVec.getLsbD_and,BitVec.getLsbD_ushiftRight (i >>> 7)]
        simp only [inside,positive,decide_true,decide_false,Bool.not_false,Bool.true_and,
          Nat.add_sub_cancel,Nat.add_comm 1 lower]
  have small : (i >>> 8 &&& 0xF).toNat ≤ 15 := by
    rw [BitVec.toNat_and]
    exact Nat.and_le_right
  rw [field]
  generalize i >>> 8 &&& 0xF = rotate at small
  rw [BitVec.toNat_shiftLeft,Nat.shiftLeft_eq]
  omega

variable {host}

theorem gives_IMM_VALUE (defined : i >>> 7 &&& 0x1E = 0 → Keeps host) :
    Gives host i cpu .IMM_VALUE (shifterOperand i cpu .IMM_VALUE) := by
  have rotation := rotation_eq i
  change Gives host i cpu .IMM_VALUE
    (Shift_C (i &&& 0xFF) .ROR (2 * (i >>> 8 &&& 0xF).toNat) _)
  rw [← rotation]
  by_cases zero : i >>> 7 &&& 0x1E = 0
  · have same := ROR_none (defined zero) (i &&& 0xFF)
    have none : ¬i >>> 8 &&& 0xF ≠ 0 := by
      apply not_not.mpr
      apply BitVec.eq_of_toNat_eq
      rw [zero] at rotation
      change _ = 0
      change 0 = _ at rotation
      omega
    rw [zero]
    change Gives host i cpu .IMM_VALUE (Shift_C (i &&& 0xFF) .ROR 0 _)
    rw [shift_zero]
    constructor
    · change ROR host (i &&& 0xFF) (i >>> 7 &&& 0x1E) = _
      rw [zero,same]
    · change S_IMM_VALUE host i cpu = _
      unfold S_IMM_VALUE
      rw [zero,same,← C_eq]
      exact congrArg (fun c => some (i &&& 0xFF, c)) (if_neg none)
  · have inside : (i >>> 7 &&& 0x1E).toNat < 32 := by
      have small : (i >>> 7 &&& 0x1E).toNat ≤ 30 := by
        rw [BitVec.toNat_and]
        exact Nat.and_le_right
      omega
    have field : i >>> 8 &&& 0xF ≠ 0 := by
      intro none
      apply zero
      apply BitVec.eq_of_toNat_eq
      rw [rotation,none]
      rfl
    have rotated := ROR_inside host (i &&& 0xFF) zero inside
    rw [shift_pos (toNat_pos zero)]
    constructor
    · exact rotated
    · change S_IMM_VALUE host i cpu = _
      unfold S_IMM_VALUE
      rw [rotated]
      change some (_, if i >>> 8 &&& 0xF ≠ 0 then BIT31 (ROR_C (i &&& 0xFF) _).1 else _) = _
      rw [if_pos field,BIT31_eq]
      rfl

theorem gives_operand (shifter : Shifter)
    (defined : shifter = .IMM_VALUE → i >>> 7 &&& 0x1E = 0 → Keeps host) :
    Gives host i cpu shifter (shifterOperand i cpu shifter) := by
  cases shifter with
  | LSL_IMM => exact gives_LSL_IMM host i cpu
  | LSL_REG => exact gives_LSL_REG host i cpu
  | LSR_IMM => exact gives_LSR_IMM host i cpu
  | LSR_REG => exact gives_LSR_REG host i cpu
  | ASR_IMM => exact gives_ASR_IMM host i cpu
  | ASR_REG => exact gives_ASR_REG host i cpu
  | ROR_IMM => exact gives_ROR_IMM host i cpu
  | ROR_REG => exact gives_ROR_REG host i cpu
  | IMM_VALUE => exact gives_IMM_VALUE i cpu (defined rfl)

end

/-! ### All forms -/

/-- The two families of macros agree with the architecture, and so with each
other, on every host whose left shift by 32 sets no new bit. -/
theorem shifter_operand_agrees (host : Host 32) (keeps : Keeps host) (i : u32) (cpu : armcpu_t)
    (shifter : Shifter) :
    shifter.plain host i cpu = some (shifterOperand i cpu shifter).1 ∧
      shifter.flagSetting host i cpu =
        some ((shifterOperand i cpu shifter).1, flag (shifterOperand i cpu shifter).2) := by
  have gives := gives_operand i cpu shifter (fun _ _ => keeps)
  exact ⟨gives.plain,gives.flagSetting⟩

/-- `MOVS R0, #1`, which is not rotated. -/
theorem shifter_operand_agrees_unrotated :
    Shifter.plain modulo 0xE3B00001 armcpu_t.initial .IMM_VALUE = some 1 ∧
      Shifter.flagSetting modulo 0xE3B00001 armcpu_t.initial .IMM_VALUE = some (1, 0) :=
  shifter_operand_agrees modulo keeps_modulo 0xE3B00001 armcpu_t.initial .IMM_VALUE

end Desmume.Arm
