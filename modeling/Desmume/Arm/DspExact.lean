/-
The saturating additions and the multiplications of half-words, `OP_QADD` to
`OP_QDSUB`, `OP_SMLA_x_y`, `OP_SMLAL_x_y` and `OP_SMLAW_y`, against exact
arithmetic.

The products fit their types, so nothing signed overflows here. The saturating
additions and all but one of the accumulations are exact.
-/

import Desmume.Arm.LongMultiply
import Desmume.Lib.Saturation

namespace Desmume.Arm

open Cpu Saturation

def SIGNED_OVERFLOW (a b c : u32) : u32 := BIT31 ((a &&& b &&& ~~~c) ||| (~~~a &&& ~~~b &&& c))

def SIGNED_UNDERFLOW (a b c : u32) : u32 :=
  BIT31 ((a &&& ~~~b &&& ~~~c) ||| (~~~a &&& b &&& c))

/-- `CPSR.bits.Q = 1`. -/
def setQ (cpu : Processor) : Processor := setFlag cpu 27 true

section

variable (cpu : Processor) (i : u32)

def saturating (res overflow : u32) : Processor × u32 :=
  if overflow ≠ 0 then ((setQ cpu).setR (REG_POS i 12) (0x80000000 - BIT31 res), 2)
  else
    let cpu := cpu.setR (REG_POS i 12) res
    if REG_POS i 12 = 15 then
      let cpu := cpu.setR 15 (cpu.R 15 &&& 0xFFFFFFFC)
      ({ cpu with next_instruction := cpu.R 15 }, 3)
    else (cpu, 2)

def OP_QADD : Processor × u32 :=
  let res := cpu.R (REG_POS i 16) + cpu.R (REG_POS i 0)
  saturating cpu i res (SIGNED_OVERFLOW (cpu.R (REG_POS i 16)) (cpu.R (REG_POS i 0)) res)

def OP_QSUB : Processor × u32 :=
  let res := cpu.R (REG_POS i 0) - cpu.R (REG_POS i 16)
  saturating cpu i res (SIGNED_UNDERFLOW (cpu.R (REG_POS i 0)) (cpu.R (REG_POS i 16)) res)

/-- `mul` of `OP_QDADD` and `OP_QDSUB`, with the flag it sets. -/
def doubled : Processor × u32 :=
  let mul := cpu.R (REG_POS i 16) <<< 1
  if BIT31 (cpu.R (REG_POS i 16)) ≠ BIT31 mul then (setQ cpu, 0x80000000 - BIT31 mul)
  else (cpu, mul)

def OP_QDADD : Processor × u32 :=
  let (cpu, mul) := doubled cpu i
  let res := mul + cpu.R (REG_POS i 0)
  saturating cpu i res (SIGNED_OVERFLOW (cpu.R (REG_POS i 0)) mul res)

def OP_QDSUB : Processor × u32 :=
  let (cpu, mul) := doubled cpu i
  let res := cpu.R (REG_POS i 0) - mul
  saturating cpu i res (SIGNED_UNDERFLOW (cpu.R (REG_POS i 0)) mul res)

end

def HWORD (i : u32) : u32 := i.sshiftRight 16

def LWORD (i : u32) : u32 := (i <<< 16).sshiftRight 16

inductive Half
  | B
  | T
  deriving DecidableEq

def Half.of (i : u32) : Half → u32
  | .B => LWORD i
  | .T => HWORD i

section

variable (cpu : Processor) (i : u32)

def OP_SMLA_B_B : Processor × u32 :=
  let m : u16 := (cpu.R (REG_POS i 0)).setWidth 16
  let s : u16 := (cpu.R (REG_POS i 8)).setWidth 16
  let tmp : u32 := m.signExtend 32 * s.signExtend 32
  let cpu := cpu.setR (REG_POS i 16) (tmp + cpu.R (REG_POS i 12))
  if OverflowFromADD (cpu.R (REG_POS i 16)) tmp (cpu.R (REG_POS i 12)) then (setQ cpu, 2)
  else (cpu, 2)

def accumulate (tmp a : u32) : Processor × u32 :=
  let cpu := cpu.setR (REG_POS i 16) (tmp + a)
  if SIGNED_OVERFLOW tmp a (cpu.R (REG_POS i 16)) ≠ 0 then (setQ cpu, 2) else (cpu, 2)

/-- `OP_SMLA_B_T`, `OP_SMLA_T_B` and `OP_SMLA_T_T`. -/
def OP_SMLA (x y : Half) : Processor × u32 :=
  let tmp := x.of (cpu.R (REG_POS i 0)) * y.of (cpu.R (REG_POS i 8))
  accumulate cpu i tmp (cpu.R (REG_POS i 12))

def OP_SMLA_x_y (x y : Half) : Processor × u32 :=
  match x, y with
  | .B, .B => OP_SMLA_B_B cpu i
  | x, y => OP_SMLA cpu i x y

/-- The same for a `tmp` of 64 bits. -/
def accumulateWide (tmp : u64) : Processor × u32 :=
  let a := cpu.R (REG_POS i 12)
  let cpu := cpu.setR (REG_POS i 16) ((tmp + a.setWidth 64).setWidth 32)
  if SIGNED_OVERFLOW (tmp.setWidth 32) a (cpu.R (REG_POS i 16)) ≠ 0 then (setQ cpu, 2)
  else (cpu, 2)

def OP_SMLAW_B : Processor × u32 :=
  let tmp : u64 := (LWORD (cpu.R (REG_POS i 8))).signExtend 64 *
    (cpu.R (REG_POS i 0)).signExtend 64
  accumulateWide cpu i (tmp.sshiftRight 16)

def OP_SMLAW_T : Processor × u32 :=
  let tmp : u64 := (HWORD (cpu.R (REG_POS i 8))).signExtend 64 *
    (cpu.R (REG_POS i 0)).signExtend 64
  accumulateWide cpu i (tmp.sshiftRight 16 &&& 0xFFFFFFFF)

def OP_SMLAW_y : Half → Processor × u32
  | .B => OP_SMLAW_B cpu i
  | .T => OP_SMLAW_T cpu i

/-- The lower word of `res` is added to the upper register, not the upper. -/
def accumulateLong (tmp : u64) : Processor × u32 :=
  let res := tmp + (cpu.R (REG_POS i 12)).setWidth 64
  let negative : u32 := if tmp.msb then 1 else 0
  let cpu := cpu.setR (REG_POS i 12) (res.setWidth 32)
  let upper : u64 := (cpu.R (REG_POS i 16)).setWidth 64 +
    (res + (negative * 0xFFFFFFFF).setWidth 64)
  (cpu.setR (REG_POS i 16) (upper.setWidth 32), 2)

/-- `OP_SMLAL_B_B`, `OP_SMLAL_B_T` and `OP_SMLAL_T_T` multiply in 32 bits. -/
def OP_SMLAL (x y : Half) : Processor × u32 :=
  accumulateLong cpu i ((x.of (cpu.R (REG_POS i 0)) * y.of (cpu.R (REG_POS i 8))).signExtend 64)

def OP_SMLAL_T_B : Processor × u32 :=
  accumulateLong cpu i ((HWORD (cpu.R (REG_POS i 0))).signExtend 64 *
    (LWORD (cpu.R (REG_POS i 8))).signExtend 64)

def OP_SMLAL_x_y (x y : Half) : Processor × u32 :=
  match x, y with
  | .T, .B => OP_SMLAL_T_B cpu i
  | x, y => OP_SMLAL cpu i x y

end

inductive Dsp
  | QADD
  | QSUB
  | QDADD
  | QDSUB
  | SMLA (x y : Half)
  | SMLAW (y : Half)
  | SMLAL (x y : Half)
  deriving DecidableEq

def Dsp.handler (cpu : Processor) (i : u32) : Dsp → Processor × u32
  | .QADD => OP_QADD cpu i
  | .QSUB => OP_QSUB cpu i
  | .QDADD => OP_QDADD cpu i
  | .QDSUB => OP_QDSUB cpu i
  | .SMLA x y => OP_SMLA_x_y cpu i x y
  | .SMLAW y => OP_SMLAW_y cpu i y
  | .SMLAL x y => OP_SMLAL_x_y cpu i x y

def Q (cpu : Processor) : Bool := cpu.CPSR.getLsbD 27

/-- A value in a register, and Q as it was or set because of `inexact`. -/
structure Yields (before after : Processor) (Rd : Fin 16) (val : u32) (inexact : Prop) :
    Prop where
  result : after.R Rd = val
  sticky : Q after = true ↔ Q before = true ∨ inexact

def Half.value (word : u32) : Half → Int
  | .B => (word.extractLsb' 0 16).toInt
  | .T => (word.extractLsb' 16 16).toInt

section

variable (cpu : Processor) (i : u32)

def twice : Int := clamp 32 (2 * (cpu.R (REG_POS i 16)).toInt)

def product (x y : Half) : Int :=
  x.value (cpu.R (REG_POS i 0)) * y.value (cpu.R (REG_POS i 8))

def wideProduct (y : Half) : Int :=
  y.value (cpu.R (REG_POS i 8)) * (cpu.R (REG_POS i 0)).toInt / 2 ^ 16

def Dsp.Exact (after : Processor) : Dsp → Prop
  | .QADD =>
      let sum := (cpu.R (REG_POS i 0)).toInt + (cpu.R (REG_POS i 16)).toInt
      Yields cpu after (REG_POS i 12) (BitVec.ofInt 32 (clamp 32 sum)) (¬Fits 32 sum)
  | .QSUB =>
      let difference := (cpu.R (REG_POS i 0)).toInt - (cpu.R (REG_POS i 16)).toInt
      Yields cpu after (REG_POS i 12) (BitVec.ofInt 32 (clamp 32 difference))
        (¬Fits 32 difference)
  | .QDADD =>
      let sum := (cpu.R (REG_POS i 0)).toInt + twice cpu i
      Yields cpu after (REG_POS i 12) (BitVec.ofInt 32 (clamp 32 sum))
        (¬Fits 32 (2 * (cpu.R (REG_POS i 16)).toInt) ∨ ¬Fits 32 sum)
  | .QDSUB =>
      let difference := (cpu.R (REG_POS i 0)).toInt - twice cpu i
      Yields cpu after (REG_POS i 12) (BitVec.ofInt 32 (clamp 32 difference))
        (¬Fits 32 (2 * (cpu.R (REG_POS i 16)).toInt) ∨ ¬Fits 32 difference)
  | .SMLA x y =>
      let sum := product cpu i x y + (cpu.R (REG_POS i 12)).toInt
      Yields cpu after (REG_POS i 16) (BitVec.ofInt 32 sum) (¬Fits 32 sum)
  | .SMLAW y =>
      let sum := wideProduct cpu i y + (cpu.R (REG_POS i 12)).toInt
      Yields cpu after (REG_POS i 16) (BitVec.ofInt 32 sum) (¬Fits 32 sum)
  | .SMLAL x y =>
      let old : u64 := cpu.R (REG_POS i 16) ++ cpu.R (REG_POS i 12)
      (after.R (REG_POS i 16) ++ after.R (REG_POS i 12) : u64) =
          old + BitVec.ofInt 64 (product cpu i x y) ∧
        Q after = Q cpu

def Dsp.Holds : Dsp → Prop
  | .SMLA .B .B =>
      REG_POS i 16 ≠ REG_POS i 12 ∨ Q cpu = true ∨
        Fits 32 (product cpu i .B .B + (cpu.R (REG_POS i 12)).toInt)
  | .SMLAL x y =>
      let added := BitVec.ofInt 32 (product cpu i x y)
      let low := cpu.R (REG_POS i 12)
      if REG_POS i 16 = REG_POS i 12 then
        (product cpu i x y = 0 ∧ low.toNat = 0) ∨
          (product cpu i x y = 1 ∧ low.toNat = 2 ^ 32 - 1)
      else
        added.toNat + low.toNat = 0 ∨ added.toNat + low.toNat = 2 ^ 32 + 1
  | _ => True

end

theorem BIT31_ne_zero (x : u32) : BIT31 x ≠ 0 ↔ x.msb = true := by
  rw [BIT31_eq]
  cases x.msb with
  | false => decide
  | true => decide

theorem BIT31_ne_iff (x y : u32) : BIT31 x ≠ BIT31 y ↔ x.msb ≠ y.msb := by
  rw [BIT31_eq,BIT31_eq]
  cases x.msb with
  | false => cases y.msb <;> decide
  | true => cases y.msb <;> decide

theorem SIGNED_OVERFLOW_iff (a b : u32) :
    SIGNED_OVERFLOW a b (a + b) ≠ 0 ↔ ¬Fits 32 (a.toInt + b.toInt) := by
  unfold SIGNED_OVERFLOW
  rw [BIT31_ne_zero,not_fits_sum_iff a b (by omega)]
  simp only [BitVec.msb_or,BitVec.msb_and,BitVec.msb_not]
  generalize (a + b).msb = sign
  cases a.msb with
  | false => cases b.msb <;> cases sign <;> decide
  | true => cases b.msb <;> cases sign <;> decide

theorem SIGNED_UNDERFLOW_iff (a b : u32) :
    SIGNED_UNDERFLOW a b (a - b) ≠ 0 ↔ ¬Fits 32 (a.toInt - b.toInt) := by
  unfold SIGNED_UNDERFLOW
  rw [BIT31_ne_zero,not_fits_difference_iff a b (by omega)]
  simp only [BitVec.msb_or,BitVec.msb_and,BitVec.msb_not]
  generalize (a - b).msb = sign
  cases a.msb with
  | false => cases b.msb <;> cases sign <;> decide
  | true => cases b.msb <;> cases sign <;> decide

theorem Q_setQ (cpu : Processor) : Q (setQ cpu) = true := by
  change (cpu.CPSR.setBit 27 true).getLsbD 27 = true
  rw [getLsbD_setBit _ _ (by omega),if_pos rfl]

theorem Q_setR (cpu : Processor) (reg : Fin 16) (val : u32) : Q (cpu.setR reg val) = Q cpu := rfl

section

variable {word : u32} {val : Int} (wraps : word.toInt = val.bmod (2 ^ 32))

include wraps

theorem word_of_fits (fits : Fits 32 val) : word = BitVec.ofInt 32 (clamp 32 val) := by
  rw [clamp_of_fits fits,← (toInt_eq_iff wraps (by omega)).mpr fits,BitVec.ofInt_toInt]

theorem saturated_word (low : -2 ^ 32 ≤ val) (high : val < 2 ^ 32) (outside : ¬Fits 32 val) :
    0x80000000 - BIT31 word = BitVec.ofInt 32 (clamp 32 val) := by
  rw [clamp_wrapped wraps (by omega) low high outside,BIT31_eq]
  cases word.msb with
  | false => decide
  | true => decide

theorem saturating_yields (before cpu : Processor) {i overflow : u32} {earlier : Prop}
    (notPC : REG_POS i 12 ≠ 15) (low : -2 ^ 32 ≤ val) (high : val < 2 ^ 32)
    (flagged : overflow ≠ 0 ↔ ¬Fits 32 val) (sticky : Q cpu = true ↔ Q before = true ∨ earlier) :
    Yields before (saturating cpu i word overflow).1 (REG_POS i 12)
      (BitVec.ofInt 32 (clamp 32 val)) (earlier ∨ ¬Fits 32 val) := by
  unfold saturating
  by_cases fits : Fits 32 val
  · have clear : ¬overflow ≠ 0 := fun set => flagged.mp set fits
    rw [if_neg clear]
    dsimp only
    rw [if_neg notPC]
    constructor
    · rw [setR_self]
      exact word_of_fits wraps fits
    · rw [Q_setR,sticky]
      simp only [fits,not_true_eq_false,or_false]
  · rw [if_pos (flagged.mpr fits)]
    constructor
    · rw [setR_self]
      exact saturated_word wraps low high fits
    · rw [Q_setR,Q_setQ]
      simp only [fits,not_false_eq_true,or_true]

end

section

variable (cpu : Processor) (i : u32)

theorem doubled_R : (doubled cpu i).1.R = cpu.R := by
  unfold doubled
  dsimp only
  split
  · rfl
  · rfl

theorem doubled_cases :
    ((doubled cpu i).2.toInt = twice cpu i) ∧
      (Q (doubled cpu i).1 = true ↔
        Q cpu = true ∨ ¬Fits 32 (2 * (cpu.R (REG_POS i 16)).toInt)) := by
  generalize reg : cpu.R (REG_POS i 16) = x
  have double : x <<< 1 = x + x := by
    apply BitVec.eq_of_toNat_eq
    rw [BitVec.toNat_shiftLeft,BitVec.toNat_add,Nat.shiftLeft_eq]
    omega
  have sum : 2 * x.toInt = x.toInt + x.toInt := Int.two_mul _
  have wraps := BitVec.toInt_add x x
  obtain ⟨low,high⟩ := sum_range x x (by omega)
  have flips : x.msb ≠ (x + x).msb ↔ ¬Fits 32 (x.toInt + x.toInt) := by
    rw [not_fits_sum_iff x x (by omega),ne_comm]
    exact (and_iff_right rfl).symm
  unfold doubled twice
  dsimp only
  rw [reg,double,sum]
  by_cases fits : Fits 32 (x.toInt + x.toInt)
  · have same : ¬BIT31 x ≠ BIT31 (x + x) :=
      fun ne => flips.mp ((BIT31_ne_iff _ _).mp ne) fits
    rw [if_neg same]
    constructor
    · rw [clamp_of_fits fits]
      exact (toInt_eq_iff wraps (by omega)).mpr fits
    · simp only [fits,not_true_eq_false,or_false]
  · rw [if_pos ((BIT31_ne_iff _ _).mpr (flips.mpr fits))]
    constructor
    · change (0x80000000 - BIT31 (x + x)).toInt = _
      rw [saturated_word wraps low high fits,BitVec.toInt_ofInt]
      obtain ⟨least,most⟩ := fits_clamp (w := 32) (x.toInt + x.toInt)
      exact Int.bmod_eq_of_le (by omega) (by omega)
    · rw [Q_setQ]
      simp only [fits,not_false_eq_true,or_true]

end

section

variable (before cpu : Processor) {i : u32} (notPC : REG_POS i 12 ≠ 15) (x y : u32)
  {earlier : Prop} (sticky : Q cpu = true ↔ Q before = true ∨ earlier)

include notPC sticky

theorem sum_yields :
    Yields before (saturating cpu i (x + y) (SIGNED_OVERFLOW x y (x + y))).1 (REG_POS i 12)
      (BitVec.ofInt 32 (clamp 32 (x.toInt + y.toInt)))
      (earlier ∨ ¬Fits 32 (x.toInt + y.toInt)) := by
  obtain ⟨low,high⟩ := sum_range x y (by omega)
  exact saturating_yields (BitVec.toInt_add x y) before cpu notPC low high
    (SIGNED_OVERFLOW_iff x y) sticky

theorem difference_yields :
    Yields before (saturating cpu i (x - y) (SIGNED_UNDERFLOW x y (x - y))).1 (REG_POS i 12)
      (BitVec.ofInt 32 (clamp 32 (x.toInt - y.toInt)))
      (earlier ∨ ¬Fits 32 (x.toInt - y.toInt)) := by
  obtain ⟨low,high⟩ := difference_range x y (by omega)
  exact saturating_yields BitVec.toInt_sub before cpu notPC low high
    (SIGNED_UNDERFLOW_iff x y) sticky

omit sticky

theorem QADD_exact : Dsp.QADD.Exact cpu i (OP_QADD cpu i).1 := by
  have yields := sum_yields cpu cpu notPC (cpu.R (REG_POS i 16)) (cpu.R (REG_POS i 0))
    (or_iff_left not_false).symm
  rw [false_or,Int.add_comm] at yields
  exact yields

theorem QSUB_exact : Dsp.QSUB.Exact cpu i (OP_QSUB cpu i).1 := by
  have yields := difference_yields cpu cpu notPC (cpu.R (REG_POS i 0)) (cpu.R (REG_POS i 16))
    (or_iff_left not_false).symm
  rw [false_or] at yields
  exact yields

theorem QDADD_exact : Dsp.QDADD.Exact cpu i (OP_QDADD cpu i).1 := by
  obtain ⟨val,sticky⟩ := doubled_cases cpu i
  have yields := sum_yields cpu (doubled cpu i).1 notPC ((doubled cpu i).1.R (REG_POS i 0))
    (doubled cpu i).2 sticky
  rw [val,doubled_R] at yields
  change Yields cpu (OP_QDADD cpu i).1 _ _ _
  unfold OP_QDADD
  dsimp only
  rw [doubled_R,BitVec.add_comm]
  exact yields

theorem QDSUB_exact : Dsp.QDSUB.Exact cpu i (OP_QDSUB cpu i).1 := by
  obtain ⟨val,sticky⟩ := doubled_cases cpu i
  have yields := difference_yields cpu (doubled cpu i).1 notPC
    ((doubled cpu i).1.R (REG_POS i 0)) (doubled cpu i).2 sticky
  rw [val,doubled_R] at yields
  change Yields cpu (OP_QDSUB cpu i).1 _ _ _
  unfold OP_QDSUB
  dsimp only
  rw [doubled_R]
  exact yields

end

/-! ### Half-words -/

theorem LWORD_eq (x : u32) : LWORD x = (x.extractLsb' 0 16).signExtend 32 := by
  apply BitVec.eq_of_getLsbD_eq
  intro k inside
  unfold LWORD
  rw [BitVec.getLsbD_sshiftRight,BitVec.getLsbD_signExtend,BitVec.getLsbD_extractLsb',
    BitVec.getLsbD_shiftLeft,BitVec.msb_shiftLeft,BitVec.msb_eq_getLsbD_last,
    BitVec.getLsbD_extractLsb']
  by_cases low : k < 16
  · have reach : 16 + k < 32 := by omega
    have above : ¬16 + k < 16 := by omega
    simp [low,reach,inside,above]
  · have reach : ¬16 + k < 32 := by omega
    simp [low,reach,inside,BitVec.getMsbD_eq_getLsbD]

theorem HWORD_eq (x : u32) : HWORD x = (x.extractLsb' 16 16).signExtend 32 := by
  apply BitVec.eq_of_getLsbD_eq
  intro k inside
  unfold HWORD
  rw [BitVec.getLsbD_sshiftRight,BitVec.getLsbD_signExtend,BitVec.getLsbD_extractLsb',
    BitVec.msb_eq_getLsbD_last,BitVec.msb_eq_getLsbD_last,BitVec.getLsbD_extractLsb']
  by_cases low : k < 16
  · have reach : 16 + k < 32 := by omega
    simp [low,reach,inside]
  · have reach : ¬16 + k < 32 := by omega
    simp [low,reach,inside]

theorem half_eq (half : Half) (x : u32) :
    half.of x = (BitVec.ofInt 32 (half.value x)) ∧
      -2 ^ 15 ≤ half.value x ∧ half.value x < 2 ^ 15 := by
  have extended : ∀ part : u16, part.signExtend 32 = BitVec.ofInt 32 part.toInt := by
    intro part
    rw [← BitVec.toInt_signExtend_of_le (v := 32) (by omega),BitVec.ofInt_toInt]
  cases half with
  | B =>
      obtain ⟨low,high⟩ := fits_toInt (x.extractLsb' 0 16)
      exact ⟨(LWORD_eq x).trans (extended _),low,high⟩
  | T =>
      obtain ⟨low,high⟩ := fits_toInt (x.extractLsb' 16 16)
      exact ⟨(HWORD_eq x).trans (extended _),low,high⟩

theorem toInt_ofInt_fits {val : Int} (fits : Fits 32 val) : (BitVec.ofInt 32 val).toInt = val := by
  obtain ⟨low,high⟩ := fits
  rw [BitVec.toInt_ofInt]
  exact Int.bmod_eq_of_le (by omega) (by omega)

theorem OverflowFromADD_iff (a b : u32) :
    OverflowFromADD (a + b) a b = true ↔ ¬Fits 32 (a.toInt + b.toInt) := by
  rw [not_fits_sum_iff a b (by omega)]
  unfold OverflowFromADD
  generalize (a + b).msb = sign
  cases a.msb with
  | false => cases b.msb <;> cases sign <;> decide
  | true => cases b.msb <;> cases sign <;> decide

theorem OverflowFromADD_result (sum a : u32) : OverflowFromADD sum a sum = false := by
  unfold OverflowFromADD
  cases sum.msb with
  | false => cases a.msb <;> rfl
  | true => cases a.msb <;> rfl

section

variable (cpu : Processor) (i : u32) {added : Int} (fits : Fits 32 added)

theorem yields_of_test {overflow inexact : Prop} [Decidable overflow] (Rd : Fin 16) (val : u32)
    (flagged : overflow ↔ inexact) :
    Yields cpu (if overflow then (setQ (cpu.setR Rd val), (2 : u32)) else (cpu.setR Rd val, 2)).1
      Rd val inexact := by
  by_cases set : overflow
  · rw [if_pos set]
    constructor
    · exact setR_self cpu Rd val
    · exact iff_of_true (Q_setQ _) (Or.inr (flagged.mp set))
  · rw [if_neg set]
    constructor
    · exact setR_self cpu Rd val
    · exact (or_iff_left fun holds => set (flagged.mpr holds)).symm

include fits

theorem accumulate_yields (a : u32) :
    Yields cpu (accumulate cpu i (BitVec.ofInt 32 added) a).1 (REG_POS i 16)
      (BitVec.ofInt 32 (added + a.toInt)) (¬Fits 32 (added + a.toInt)) := by
  have flagged := SIGNED_OVERFLOW_iff (BitVec.ofInt 32 added) a
  rw [toInt_ofInt_fits fits] at flagged
  unfold accumulate
  dsimp only
  rw [setR_self,BitVec.ofInt_add,BitVec.ofInt_toInt]
  exact yields_of_test cpu (REG_POS i 16) _ flagged

end

theorem mul_range {a b bound limit : Int} (first : -bound ≤ a ∧ a ≤ bound)
    (second : -limit ≤ b ∧ b ≤ limit) : -(bound * limit) ≤ a * b ∧ a * b ≤ bound * limit := by
  have left : |a| ≤ bound := abs_le.mpr first
  have right : |b| ≤ limit := abs_le.mpr second
  have both : |a * b| ≤ bound * limit := by
    rw [abs_mul]
    exact mul_le_mul left right (abs_nonneg b) ((abs_nonneg a).trans left)
  exact abs_le.mp both

section

variable (cpu : Processor) (i : u32) (x y : Half)

theorem product_range : -2 ^ 30 ≤ product cpu i x y ∧ product cpu i x y ≤ 2 ^ 30 := by
  obtain ⟨-,lowX,highX⟩ := half_eq x (cpu.R (REG_POS i 0))
  obtain ⟨-,lowY,highY⟩ := half_eq y (cpu.R (REG_POS i 8))
  exact @mul_range _ _ (2 ^ 15) (2 ^ 15) ⟨lowX,by omega⟩ ⟨lowY,by omega⟩

theorem fits_product : Fits 32 (product cpu i x y) := by
  have range := product_range cpu i x y
  unfold Fits
  omega

theorem product_word :
    x.of (cpu.R (REG_POS i 0)) * y.of (cpu.R (REG_POS i 8)) =
      BitVec.ofInt 32 (product cpu i x y) := by
  rw [(half_eq x _).1,(half_eq y _).1,← BitVec.ofInt_mul]
  rfl

theorem SMLA_exact : (Dsp.SMLA x y).Exact cpu i (OP_SMLA cpu i x y).1 := by
  unfold OP_SMLA
  dsimp only
  rw [product_word]
  exact accumulate_yields cpu i (fits_product cpu i x y) (cpu.R (REG_POS i 12))

theorem product_B_B :
    ((cpu.R (REG_POS i 0)).setWidth 16).signExtend 32 *
        ((cpu.R (REG_POS i 8)).setWidth 16).signExtend 32 =
      BitVec.ofInt 32 (product cpu i .B .B) := by
  rw [← product_word,BitVec.setWidth_eq_extractLsb' (by omega),
    BitVec.setWidth_eq_extractLsb' (by omega),← LWORD_eq,← LWORD_eq]
  rfl

theorem SMLA_B_B_exact_iff :
    (Dsp.SMLA .B .B).Exact cpu i (OP_SMLA_B_B cpu i).1 ↔ (Dsp.SMLA .B .B).Holds cpu i := by
  have fits := fits_product cpu i .B .B
  have sum : BitVec.ofInt 32 (product cpu i .B .B) + cpu.R (REG_POS i 12) =
      BitVec.ofInt 32 (product cpu i .B .B + (cpu.R (REG_POS i 12)).toInt) := by
    rw [BitVec.ofInt_add,BitVec.ofInt_toInt]
  change Yields cpu (OP_SMLA_B_B cpu i).1 _ _ _ ↔ _ ∨ _ ∨ _
  unfold OP_SMLA_B_B
  dsimp only
  rw [product_B_B,setR_self]
  by_cases one : REG_POS i 16 = REG_POS i 12
  · rw [← one,setR_self,OverflowFromADD_result,if_neg Bool.false_ne_true,one,sum]
    constructor
    · intro yields
      have kept := yields.sticky
      rw [Q_setR] at kept
      by_cases set : Q cpu = true
      · exact Or.inr (Or.inl set)
      · right
        right
        by_contra outside
        exact set (kept.mpr (Or.inr outside))
    · rintro (ne | set | fitting)
      · exact absurd rfl ne
      · exact ⟨setR_self _ _ _,by rw [Q_setR]; simp only [set,true_or]⟩
      · exact ⟨setR_self _ _ _,by rw [Q_setR]; simp only [fitting,not_true_eq_false,or_false]⟩
  · have flagged := OverflowFromADD_iff (BitVec.ofInt 32 (product cpu i .B .B))
      (cpu.R (REG_POS i 12))
    rw [toInt_ofInt_fits fits] at flagged
    rw [setR_of_ne cpu _ (Ne.symm one)]
    rw [sum] at flagged ⊢
    exact iff_of_true (yields_of_test cpu (REG_POS i 16) _ flagged) (Or.inl one)

theorem long_range :
    -2 ^ 46 ≤ y.value (cpu.R (REG_POS i 8)) * (cpu.R (REG_POS i 0)).toInt ∧
      y.value (cpu.R (REG_POS i 8)) * (cpu.R (REG_POS i 0)).toInt ≤ 2 ^ 46 := by
  obtain ⟨-,lowY,highY⟩ := half_eq y (cpu.R (REG_POS i 8))
  obtain ⟨low,high⟩ := fits_toInt (cpu.R (REG_POS i 0))
  exact @mul_range _ _ (2 ^ 15) (2 ^ 31) ⟨lowY,by omega⟩ ⟨low,by omega⟩

theorem fits_wideProduct : Fits 32 (wideProduct cpu i y) := by
  have range := long_range cpu i y
  unfold wideProduct Fits
  omega

theorem signExtend_half (half : Half) (word : u32) :
    (half.of word).signExtend 64 = BitVec.ofInt 64 (half.value word) := by
  obtain ⟨same,low,high⟩ := half_eq half word
  have fits : Fits 32 (half.value word) := by
    unfold Fits
    omega
  rw [signExtend_ofInt,same,toInt_ofInt_fits fits]

theorem lower_ofInt (val : Int) : (BitVec.ofInt 64 val).setWidth 32 = BitVec.ofInt 32 val := by
  apply BitVec.eq_of_toNat_eq
  rw [BitVec.toNat_setWidth,BitVec.toNat_ofInt,BitVec.toNat_ofInt]
  omega

theorem wideProduct_word :
    (((y.of (cpu.R (REG_POS i 8))).signExtend 64 *
        (cpu.R (REG_POS i 0)).signExtend 64).sshiftRight 16).setWidth 32 =
      BitVec.ofInt 32 (wideProduct cpu i y) := by
  obtain ⟨low,high⟩ := long_range cpu i y
  rw [signExtend_half,signExtend_ofInt,← BitVec.ofInt_mul]
  unfold wideProduct
  generalize y.value (cpu.R (REG_POS i 8)) * (cpu.R (REG_POS i 0)).toInt = long at *
  have whole : (BitVec.ofInt 64 long).toInt = long := by
    rw [BitVec.toInt_ofInt]
    exact Int.bmod_eq_of_le (by omega) (by omega)
  rw [BitVec.sshiftRight,whole,lower_ofInt,Int.shiftRight_eq_div_pow]
  rfl

theorem accumulateWide_yields {tmp : u64} {added : Int} (fits : Fits 32 added)
    (word : tmp.setWidth 32 = BitVec.ofInt 32 added) (a : u32) (read : cpu.R (REG_POS i 12) = a) :
    Yields cpu (accumulateWide cpu i tmp).1 (REG_POS i 16) (BitVec.ofInt 32 (added + a.toInt))
      (¬Fits 32 (added + a.toInt)) := by
  have flagged := SIGNED_OVERFLOW_iff (BitVec.ofInt 32 added) a
  rw [toInt_ofInt_fits fits] at flagged
  unfold accumulateWide
  dsimp only
  rw [setR_self,read,BitVec.setWidth_add _ _ (by omega),word,
    BitVec.setWidth_setWidth_of_le _ (by omega),BitVec.setWidth_eq,BitVec.ofInt_add,
    BitVec.ofInt_toInt]
  exact yields_of_test cpu (REG_POS i 16) _ flagged

theorem SMLAW_exact : (Dsp.SMLAW y).Exact cpu i (OP_SMLAW_y cpu i y).1 := by
  have word := wideProduct_word cpu i y
  have fits := fits_wideProduct cpu i y
  cases y with
  | B => exact accumulateWide_yields cpu i fits word (cpu.R (REG_POS i 12)) rfl
  | T =>
      refine accumulateWide_yields cpu i fits ?_ (cpu.R (REG_POS i 12)) rfl
      rw [← word]
      apply BitVec.eq_of_getLsbD_eq
      intro k inside
      have low : (0xFFFFFFFF : u64).getLsbD k = true := by
        revert k
        decide
      rw [BitVec.getLsbD_setWidth,BitVec.getLsbD_setWidth,BitVec.getLsbD_and,low,Bool.and_true]
      rfl

theorem SMLAL_handler :
    OP_SMLAL_x_y cpu i x y = accumulateLong cpu i (BitVec.ofInt 64 (product cpu i x y)) := by
  have word := product_word cpu i x y
  have fits := fits_product cpu i x y
  have extended : (x.of (cpu.R (REG_POS i 0)) * y.of (cpu.R (REG_POS i 8))).signExtend 64 =
      BitVec.ofInt 64 (product cpu i x y) := by
    rw [word,signExtend_ofInt,toInt_ofInt_fits fits]
  cases x with
  | B => exact congrArg (accumulateLong cpu i) extended
  | T =>
      cases y with
      | T => exact congrArg (accumulateLong cpu i) extended
      | B =>
          apply congrArg (accumulateLong cpu i)
          change (Half.T.of _).signExtend 64 * (Half.B.of _).signExtend 64 = _
          rw [signExtend_half,signExtend_half,← BitVec.ofInt_mul]
          rfl

end

theorem upper_word (high : u32) (res : u64) (negative : Bool) :
    (high.setWidth 64 +
        (res + ((if negative then 1 else 0 : u32) * 0xFFFFFFFF).setWidth 64)).setWidth 32 =
      high + (res.setWidth 32 + if negative then 0xFFFFFFFF else 0) := by
  rw [BitVec.setWidth_add _ _ (by omega),BitVec.setWidth_add _ _ (by omega),
    BitVec.setWidth_setWidth_of_le _ (by omega),BitVec.setWidth_setWidth_of_le _ (by omega),
    BitVec.setWidth_eq,BitVec.setWidth_eq]
  have mask : (if negative then 1 else 0 : u32) * 0xFFFFFFFF =
      if negative then 0xFFFFFFFF else 0 := by
    cases negative with
    | false => decide
    | true => decide
  rw [mask]

theorem halves_inj (high low first second : u32) :
    (high ++ low : u64) = first ++ second ↔ high = first ∧ low = second := by
  constructor
  · intro same
    have total := congrArg BitVec.toNat same
    have lowBound := low.isLt
    have secondBound := second.isLt
    rw [toNat_halves,toNat_halves] at total
    exact ⟨BitVec.eq_of_toNat_eq (by omega),BitVec.eq_of_toNat_eq (by omega)⟩
  · rintro ⟨highs,lows⟩
    rw [highs,lows]

section

variable {added : Int} (range : -2 ^ 30 ≤ added ∧ added ≤ 2 ^ 30)

include range

theorem product_halves :
    (BitVec.ofInt 64 added).setWidth 32 = BitVec.ofInt 32 added ∧
      ((BitVec.ofInt 64 added) >>> 32).setWidth 32 =
        if (BitVec.ofInt 64 added).msb then 0xFFFFFFFF else (0 : u32) := by
  have signed : (BitVec.ofInt 64 added).toInt = added := by
    rw [BitVec.toInt_ofInt]
    exact Int.bmod_eq_of_le (by omega) (by omega)
  refine ⟨lower_ofInt added,?_⟩
  apply BitVec.eq_of_toNat_eq
  rw [upper_toNat,BitVec.msb_eq_toInt,signed,BitVec.toNat_ofInt]
  rcases Int.lt_or_le added 0 with negative | positive
  · rw [decide_eq_true negative]
    change _ = 2 ^ 32 - 1
    omega
  · rw [decide_eq_false (Int.not_lt.mpr positive)]
    change _ = 0
    omega

theorem mask_toNat :
    (if (BitVec.ofInt 64 added).msb then 0xFFFFFFFF else (0 : u32)).toNat =
      if added < 0 then 2 ^ 32 - 1 else 0 := by
  have signed : (BitVec.ofInt 64 added).toInt = added := by
    rw [BitVec.toInt_ofInt]
    exact Int.bmod_eq_of_le (by omega) (by omega)
  rw [BitVec.msb_eq_toInt,signed]
  by_cases negative : added < 0
  · rw [decide_eq_true negative,if_pos rfl,if_pos negative]
    decide
  · rw [decide_eq_false negative,if_neg Bool.false_ne_true,if_neg negative]
    decide

variable (high low : u32)

theorem low_sum_iff :
    ((high + (BitVec.ofInt 32 added + low +
            if (BitVec.ofInt 64 added).msb then 0xFFFFFFFF else 0)) ++
          (BitVec.ofInt 32 added + low) : u64) = (high ++ low) + BitVec.ofInt 64 added ↔
      (BitVec.ofInt 32 added).toNat + low.toNat = 0 ∨
        (BitVec.ofInt 32 added).toNat + low.toNat = 2 ^ 32 + 1 := by
  obtain ⟨lower,upper⟩ := product_halves range
  rw [BitVec.add_comm (high ++ low : u64),← halves_add,lower,upper,
    BitVec.add_comm low,halves_inj,and_iff_left rfl]
  generalize (if (BitVec.ofInt 64 added).msb then 0xFFFFFFFF else (0 : u32)) = mask
  generalize BitVec.ofInt 32 added = part
  have carry := carry_toNat part low
  have lowBound := low.isLt
  have partBound := part.isLt
  have cancel : high + (part + low + mask) = mask + high + flag (CarryFrom part low) ↔
      part + low = flag (CarryFrom part low) := by
    have reordered : high + (part + low + mask) = mask + high + (part + low) := by ring
    rw [reordered,add_right_inj]
  rw [cancel,← BitVec.toNat_inj,carry,BitVec.toNat_add]
  split <;> omega

/-- In one register the sum can only be that of 1 and all ones, or of zeros. -/
theorem one_register_iff (word : u32) :
    ((BitVec.ofInt 32 added + word + (BitVec.ofInt 32 added + word +
            if (BitVec.ofInt 64 added).msb then 0xFFFFFFFF else 0)) ++
          (BitVec.ofInt 32 added + word + (BitVec.ofInt 32 added + word +
            if (BitVec.ofInt 64 added).msb then 0xFFFFFFFF else 0)) : u64) =
        (word ++ word) + BitVec.ofInt 64 added ↔
      (added = 0 ∧ word.toNat = 0) ∨ (added = 1 ∧ word.toNat = 2 ^ 32 - 1) := by
  obtain ⟨lower,upper⟩ := product_halves range
  have maskValue := mask_toNat range
  have part : ((BitVec.ofInt 32 added).toNat : Int) = added % 2 ^ 32 := by
    rw [BitVec.toNat_ofInt]
    omega
  have carry := carry_toNat (BitVec.ofInt 32 added) word
  have wordBound := word.isLt
  rw [BitVec.add_comm (word ++ word : u64),← halves_add,lower,upper,halves_inj]
  generalize (if (BitVec.ofInt 64 added).msb then 0xFFFFFFFF else (0 : u32)) = mask at *
  generalize flag (CarryFrom (BitVec.ofInt 32 added) word) = carried at *
  generalize BitVec.ofInt 32 added = low at *
  rw [← BitVec.toNat_inj,← BitVec.toNat_inj]
  have sum := BitVec.toNat_add low word
  have swapped := BitVec.toNat_add word low
  have masked := BitVec.toNat_add (low + word) mask
  have last := BitVec.toNat_add (low + word) (low + word + mask)
  have top := BitVec.toNat_add mask word
  have exactTop := BitVec.toNat_add (mask + word) carried
  rw [last,masked,sum,swapped,exactTop,top,maskValue,carry]
  have lowBound := low.isLt
  clear sum swapped masked last top exactTop maskValue carry lower upper
  by_cases negative : added < 0
  · have val : (low.toNat : Int) = added + 2 ^ 32 := by omega
    rw [if_pos negative]
    by_cases carries : 2 ^ 32 ≤ low.toNat + word.toNat
    · have rest : (low.toNat + word.toNat) % 2 ^ 32 = low.toNat + word.toNat - 2 ^ 32 := by omega
      rw [if_pos carries,Nat.add_comm word.toNat,rest]
      omega
    · rw [if_neg carries,Nat.add_comm word.toNat,Nat.mod_eq_of_lt (Nat.not_le.mp carries)]
      omega
  · have val : (low.toNat : Int) = added := by omega
    rw [if_neg negative]
    by_cases carries : 2 ^ 32 ≤ low.toNat + word.toNat
    · have rest : (low.toNat + word.toNat) % 2 ^ 32 = low.toNat + word.toNat - 2 ^ 32 := by omega
      rw [if_pos carries,Nat.add_comm word.toNat,rest]
      omega
    · rw [if_neg carries,Nat.add_comm word.toNat,Nat.mod_eq_of_lt (Nat.not_le.mp carries)]
      omega

end

section

variable (cpu : Processor) (i : u32) (x y : Half)

theorem accumulateLong_eq (tmp : u64) :
    (accumulateLong cpu i tmp).1 =
      let low := tmp.setWidth 32 + cpu.R (REG_POS i 12)
      let lowered := cpu.setR (REG_POS i 12) low
      lowered.setR (REG_POS i 16)
        (lowered.R (REG_POS i 16) + (low + if tmp.msb then 0xFFFFFFFF else 0)) := by
  have low : (tmp + (cpu.R (REG_POS i 12)).setWidth 64).setWidth 32 =
      tmp.setWidth 32 + cpu.R (REG_POS i 12) := by
    rw [BitVec.setWidth_add _ _ (by omega),BitVec.setWidth_setWidth_of_le _ (by omega),
      BitVec.setWidth_eq]
  unfold accumulateLong
  dsimp only
  rw [upper_word,low]

theorem SMLAL_exact_iff :
    (Dsp.SMLAL x y).Exact cpu i (OP_SMLAL_x_y cpu i x y).1 ↔ (Dsp.SMLAL x y).Holds cpu i := by
  have range := product_range cpu i x y
  have unchanged : Q (OP_SMLAL_x_y cpu i x y).1 = Q cpu := by
    rw [SMLAL_handler,accumulateLong_eq]
    rfl
  change _ ∧ _ ↔ ite _ _ _
  rw [and_iff_left unchanged,SMLAL_handler,accumulateLong_eq,lower_ofInt]
  dsimp only
  by_cases one : REG_POS i 16 = REG_POS i 12
  · rw [if_pos one,one,setR_self,setR_self]
    exact one_register_iff range (cpu.R (REG_POS i 12))
  · rw [if_neg one,setR_self,setR_of_ne _ _ (Ne.symm one),setR_self,setR_of_ne _ _ one]
    exact low_sum_iff range (cpu.R (REG_POS i 16)) (cpu.R (REG_POS i 12))

end

/-- The results and the sticky flag are exact except where SMLABB accumulates
into Rn and overflows, and for nearly all sums of SMLALxy. -/
theorem dsp_exact_iff (instr : Dsp) (cpu : Processor) (i : u32) (notPC : REG_POS i 12 ≠ 15) :
    instr.Exact cpu i (instr.handler cpu i).1 ↔ instr.Holds cpu i := by
  cases instr with
  | QADD => exact iff_of_true (QADD_exact cpu notPC) trivial
  | QSUB => exact iff_of_true (QSUB_exact cpu notPC) trivial
  | QDADD => exact iff_of_true (QDADD_exact cpu notPC) trivial
  | QDSUB => exact iff_of_true (QDSUB_exact cpu notPC) trivial
  | SMLA x y =>
      cases x with
      | B =>
          cases y with
          | B => exact SMLA_B_B_exact_iff cpu i
          | T => exact iff_of_true (SMLA_exact cpu i .B .T) trivial
      | T =>
          cases y with
          | B => exact iff_of_true (SMLA_exact cpu i .T .B) trivial
          | T => exact iff_of_true (SMLA_exact cpu i .T .T) trivial
  | SMLAW y => exact iff_of_true (SMLAW_exact cpu i y) trivial
  | SMLAL x y => exact SMLAL_exact_iff cpu i x y

/-- `QADD R0, R2, R1`. -/
theorem dsp_exact_ones : Dsp.QADD.Exact ones 0xE1010052 (OP_QADD ones 0xE1010052).1 ↔ True :=
  dsp_exact_iff .QADD ones 0xE1010052 (by decide)

def largest : Processor :=
  { ones with R := Function.update (fun _ => 1) 0 0x7FFFFFFF }

/-- `SMLABB R0, R2, R3, R0` overflows, and `SMLALBB R0, R1, R2, R3` has another
upper register than the sum. -/
theorem dsp_inexact :
    ¬(Dsp.SMLA .B .B).Exact largest 0xE1000382 (OP_SMLA_x_y largest 0xE1000382 .B .B).1 ∧
      ¬(Dsp.SMLAL .B .B).Exact ones 0xE1410382 (OP_SMLAL_x_y ones 0xE1410382 .B .B).1 := by
  constructor
  · intro yields
    have flagged := yields.sticky.mpr (Or.inr (by decide))
    exact absurd flagged (by decide)
  · intro yields
    exact absurd yields.1 (by decide)

end Desmume.Arm
