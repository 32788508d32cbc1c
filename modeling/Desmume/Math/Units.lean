/-
The divider and the square root unit: `execdiv`, `execsqrt`, the integer square
roots, one bit of the answer at a time, the registers in the three write
handlers of the ARM9, and the two sequencer items that deliver the results.

A started unit keeps its result aside and is busy until its item fires.
-/

import Desmume.Types
import Desmume.Lib.Run

namespace Desmume.MathUnits

/-- The `while` loop of `isqrt`. -/
def isqrtLoop (squaredbit remainder root : Nat) : Nat :=
  if 0 < squaredbit then
    if squaredbit ||| root ≤ remainder then
      isqrtLoop (squaredbit >>> 2) (remainder - (squaredbit ||| root))
        ((root >>> 1) ||| squaredbit)
    else isqrtLoop (squaredbit >>> 2) remainder (root >>> 1)
  else root
termination_by squaredbit
decreasing_by
  all_goals
    rw [Nat.shiftRight_eq_div_pow]
    omega

/-- The constant `(~0 >> 1) & ~(~0 >> 2)`. -/
def firstSquaredbit : Nat := 2 ^ 62

def isqrt (x : u64) : u32 :=
  if x.toNat < 1 then 0 else BitVec.ofNat 32 (isqrtLoop firstSquaredbit x.toNat 0)

theorem or_eq_add_of_multiple (bit multiple : Nat) (level : Nat) (small : bit < 2 ^ level) :
    bit ||| multiple * 2 ^ level = multiple * 2 ^ level + bit := by
  have merged := Nat.shiftLeft_add_eq_or_of_lt small multiple
  rw [Nat.shiftLeft_eq] at merged
  rw [Nat.or_comm]
  exact merged.symm

theorem isqrtLoop_round (level quotient remainder : Nat) :
    isqrtLoop (4 ^ level) remainder (quotient * 4 ^ (level + 1)) =
      if quotient * 4 ^ (level + 1) + 4 ^ level ≤ remainder then
        isqrtLoop (4 ^ level / 4) (remainder - (quotient * 4 ^ (level + 1) + 4 ^ level))
          ((2 * quotient + 1) * 4 ^ level)
      else isqrtLoop (4 ^ level / 4) remainder (2 * quotient * 4 ^ level) := by
  have four (exponent : Nat) : 4 ^ exponent = 2 ^ (2 * exponent) := by
    rw [Nat.pow_mul]
  have positive : 0 < 4 ^ level := Nat.pow_pos (by decide)
  have next : 4 ^ (level + 1) = 4 * 4 ^ level := by rw [Nat.pow_succ,Nat.mul_comm]
  have joined : 4 ^ level ||| quotient * 4 ^ (level + 1) =
      quotient * 4 ^ (level + 1) + 4 ^ level := by
    rw [four (level + 1)]
    apply or_eq_add_of_multiple
    rw [four level]
    exact Nat.pow_lt_pow_right (by decide) (by omega)
  have halved : (quotient * 4 ^ (level + 1)) >>> 1 = 2 * quotient * 4 ^ level := by
    have double : quotient * 4 ^ (level + 1) = 2 * (2 * quotient * 4 ^ level) := by
      rw [next]
      ring
    rw [Nat.shiftRight_eq_div_pow,double]
    exact Nat.mul_div_cancel_left _ (by decide)
  have entered : 2 * quotient * 4 ^ level ||| 4 ^ level = (2 * quotient + 1) * 4 ^ level := by
    have even : 2 * quotient * 4 ^ level = quotient * 2 ^ (2 * level + 1) := by
      rw [four level,Nat.pow_succ]
      ring
    rw [Nat.or_comm,even,or_eq_add_of_multiple,← even]
    · ring
    · rw [four level]
      exact Nat.pow_lt_pow_right (by decide) (by omega)
  rw [isqrtLoop,if_pos positive,joined,halved,entered,Nat.shiftRight_eq_div_pow]

theorem isqrtLoop_zero (remainder root : Nat) : isqrtLoop 0 remainder root = root := by
  rw [isqrtLoop,if_neg (Nat.lt_irrefl 0)]

theorem sqrt_of_bounds {x root : Nat} (low : root * root ≤ x)
    (high : x < (root + 1) * (root + 1)) : Nat.sqrt x = root :=
  Nat.le_antisymm (Nat.lt_succ_iff.mp (Nat.sqrt_lt.mpr high)) (Nat.le_sqrt.mpr low)

theorem isqrtLoop_eq_sqrt (x level quotient : Nat) (low : quotient * quotient * 4 ^ (level + 1) ≤ x)
    (high : x < (quotient + 1) * (quotient + 1) * 4 ^ (level + 1)) :
    isqrtLoop (4 ^ level) (x - quotient * quotient * 4 ^ (level + 1))
      (quotient * 4 ^ (level + 1)) = Nat.sqrt x := by
  induction level generalizing quotient with
  | zero =>
      rw [isqrtLoop_round]
      have odd : (2 * quotient + 1) * (2 * quotient + 1) =
          quotient * quotient * 4 ^ (0 + 1) + (quotient * 4 ^ (0 + 1) + 4 ^ 0) := by ring
      have even : 2 * quotient * (2 * quotient) = quotient * quotient * 4 ^ (0 + 1) := by ring
      have above : (2 * quotient + 1 + 1) * (2 * quotient + 1 + 1) =
          (quotient + 1) * (quotient + 1) * 4 ^ (0 + 1) := by ring
      have last : 4 ^ 0 / 4 = 0 := rfl
      rw [last]
      split
      next fits =>
        rw [isqrtLoop_zero,Nat.pow_zero,Nat.mul_one]
        exact (sqrt_of_bounds (by omega) (by omega)).symm
      next short =>
        rw [isqrtLoop_zero,Nat.pow_zero,Nat.mul_one]
        exact (sqrt_of_bounds (by omega) (by omega)).symm
  | succ level ih =>
      rw [isqrtLoop_round]
      have next : 4 ^ (level + 1 + 1) = 4 * 4 ^ (level + 1) := by
        rw [Nat.pow_succ,Nat.mul_comm]
      have lower : 4 ^ (level + 1) / 4 = 4 ^ level := by
        rw [Nat.pow_succ]
        exact Nat.mul_div_cancel _ (by decide)
      have odd : (2 * quotient + 1) * (2 * quotient + 1) * 4 ^ (level + 1) =
          quotient * quotient * 4 ^ (level + 1 + 1) +
            (quotient * 4 ^ (level + 1 + 1) + 4 ^ (level + 1)) := by
        rw [next]
        ring
      have even : 2 * quotient * (2 * quotient) * 4 ^ (level + 1) =
          quotient * quotient * 4 ^ (level + 1 + 1) := by
        rw [next]
        ring
      have above : (2 * quotient + 1 + 1) * (2 * quotient + 1 + 1) * 4 ^ (level + 1) =
          (quotient + 1) * (quotient + 1) * 4 ^ (level + 1 + 1) := by
        rw [next]
        ring
      rw [lower]
      split
      next fits =>
        rw [Nat.sub_sub,← odd]
        exact ih (2 * quotient + 1) (by omega) (by omega)
      next short =>
        rw [← even]
        exact ih (2 * quotient) (by omega) (by omega)

theorem isqrt_eq_sqrt (x : u64) : isqrt x = BitVec.ofNat 32 (Nat.sqrt x.toNat) := by
  unfold isqrt
  split
  next zero =>
    have none : x.toNat = 0 := by omega
    rw [none]
    rfl
  next =>
    have start : firstSquaredbit = 4 ^ 31 := by decide
    have bound : x.toNat < 2 ^ 64 := x.isLt
    have found := isqrtLoop_eq_sqrt x.toNat 31 0 (by omega) (by omega)
    simp only [Nat.zero_mul,Nat.sub_zero] at found
    rw [start,found]

/-- One expansion of the macro, on `g` and `val`. -/
def INNER_ISQRT (st : u32 × u32) (s : Nat) : u32 × u32 :=
  let temp := (st.1 <<< s) + ((1 : u32) <<< (s * 2 - 2))
  if temp ≤ st.2 then (st.1 + ((1 : u32) <<< (s - 1)), st.2 - temp) else st

def fsqrt (val : u32) : u32 :=
  let start : u32 × u32 :=
    if 0x40000000 ≤ val then (0x8000, val - 0x40000000) else (0, val)
  let last := [15,14,13,12,11,10,9,8,7,6,5,4,3,2].foldl INNER_ISQRT start
  let temp := last.1 + last.1 + 1
  if temp ≤ last.2 then last.1 + 1 else last.1

/-- The upper bits of the root are known, down to bit `level`. -/
structure Found (val level : Nat) (st : u32 × u32) : Prop where
  multiple : 2 ^ level ∣ st.1.toNat
  below : st.1.toNat + 2 ^ level ≤ 2 ^ 16
  remainder : st.1.toNat * st.1.toNat + st.2.toNat = val
  above : val < (st.1.toNat + 2 ^ level) * (st.1.toNat + 2 ^ level)

theorem toNat_shiftLeft_of_lt {val : u32} {s : Nat} (small : val.toNat * 2 ^ s < 2 ^ 32) :
    (val <<< s).toNat = val.toNat * 2 ^ s := by
  rw [BitVec.toNat_shiftLeft,Nat.shiftLeft_eq,Nat.mod_eq_of_lt small]

theorem Found.inner {val level : Nat} {st : u32 × u32} (found : Found val (level + 1) st)
    (small : level < 15) : Found val level (INNER_ISQRT st (level + 1)) := by
  obtain ⟨⟨quotient,multiple⟩,below,remainder,above⟩ := found
  obtain ⟨g,rest⟩ := st
  have double : 2 ^ (level + 1) = 2 * 2 ^ level := Nat.pow_succ'
  have square : 2 ^ ((level + 1) * 2 - 2) = 2 ^ level * 2 ^ level := by
    rw [← Nat.pow_add]
    congr 1
    omega
  have inside : 2 ^ level ≤ 2 ^ 14 := Nat.pow_le_pow_right (by decide) (by omega)
  generalize width : 2 ^ level = w at double square inside
  dsimp only at multiple below remainder above
  rw [double] at multiple below above
  have shifted : g.toNat * (2 * w) ≤ 2 ^ 16 * 2 ^ 15 := Nat.mul_le_mul (by omega) (by omega)
  have squared : w * w ≤ 2 ^ 14 * 2 ^ 14 := Nat.mul_le_mul inside inside
  have bit : ((1 : u32) <<< (level + 1 - 1)).toNat = w := by
    rw [Nat.add_sub_cancel,toNat_shiftLeft_of_lt]
    · rw [width]
      exact Nat.one_mul w
    · rw [width]
      change 1 * w < 2 ^ 32
      omega
  have temp : ((g <<< (level + 1)) + ((1 : u32) <<< ((level + 1) * 2 - 2))).toNat =
      2 * (g.toNat * w) + w * w := by
    have first : (g <<< (level + 1)).toNat = 2 * (g.toNat * w) := by
      rw [toNat_shiftLeft_of_lt] <;> rw [double]
      · ring
      · omega
    have second : ((1 : u32) <<< ((level + 1) * 2 - 2)).toNat = w * w := by
      rw [toNat_shiftLeft_of_lt] <;> rw [square]
      · exact Nat.one_mul _
      · change 1 * (w * w) < 2 ^ 32
        omega
    rw [BitVec.toNat_add,first,second]
    have apart : g.toNat * (2 * w) = 2 * (g.toNat * w) := by ring
    omega
  have grown : (g.toNat + w) * (g.toNat + w) =
      g.toNat * g.toNat + (2 * (g.toNat * w) + w * w) := by ring
  unfold INNER_ISQRT
  dsimp only
  split
  next fits =>
    rw [BitVec.le_def,temp] at fits
    have next : (g + ((1 : u32) <<< (level + 1 - 1))).toNat = g.toNat + w := by
      rw [BitVec.toNat_add,bit,Nat.mod_eq_of_lt (by omega)]
    have left : (rest - ((g <<< (level + 1)) +
        ((1 : u32) <<< ((level + 1) * 2 - 2)))).toNat =
        rest.toNat - (2 * (g.toNat * w) + w * w) := by
      rw [BitVec.toNat_sub_of_le (BitVec.le_def.mpr (temp ▸ fits)),temp]
    constructor
    · rw [next,multiple,width]
      exact ⟨2 * quotient + 1,by ring⟩
    · rw [next,width]
      omega
    · rw [next,left]
      omega
    · rw [next,width,Nat.add_assoc,← Nat.two_mul]
      exact above
  next short =>
    rw [BitVec.le_def,temp] at short
    constructor
    · rw [multiple,width]
      exact ⟨2 * quotient,by ring⟩
    · rw [width]
      dsimp only
      omega
    · exact remainder
    · rw [width,grown]
      omega

theorem Found.inner_rounds {val level : Nat} (small : level < 15) {st : u32 × u32}
    (found : Found val (level + 1) st) :
    Found val 1 ((List.range' 2 level).reverse.foldl INNER_ISQRT st) := by
  induction level generalizing st with
  | zero => exact found
  | succ level ih =>
      rw [List.range'_concat,List.reverse_append,List.reverse_singleton,
        List.singleton_append,List.foldl_cons,Nat.one_mul,Nat.add_comm 2]
      exact ih (by omega) (found.inner small)

theorem INNER_ISQRT_one (st : u32 × u32) :
    (INNER_ISQRT st 1).1 =
      if st.1 + st.1 + 1 ≤ st.2 then st.1 + 1 else st.1 := by
  have double : st.1 <<< 1 = st.1 + st.1 := by
    apply BitVec.eq_of_toNat_eq
    rw [BitVec.toNat_shiftLeft,BitVec.toNat_add,Nat.shiftLeft_eq,Nat.pow_one,Nat.mul_two]
  unfold INNER_ISQRT
  rw [double]
  exact apply_ite Prod.fst _ _ _

theorem fsqrt_eq_sqrt (val : u32) : (fsqrt val).toNat = Nat.sqrt val.toNat := by
  have inside : val.toNat < 2 ^ 32 := val.isLt
  have start : Found val.toNat 15
      (if 0x40000000 ≤ val then (0x8000, val - 0x40000000) else (0, val)) := by
    split
    next large =>
      have small : 0x40000000 ≤ val.toNat := large
      have left : (val - 0x40000000).toNat = val.toNat - 0x40000000 :=
        BitVec.toNat_sub_of_le large
      have root : (0x8000 : u32).toNat = 0x8000 := rfl
      constructor
      · rw [root]
        exact ⟨1,rfl⟩
      · rw [root]
        omega
      · rw [root,left]
        omega
      · rw [root]
        omega
    next less =>
      have small : val.toNat < 0x40000000 := BitVec.not_le.mp less
      have root : (0 : u32).toNat = 0 := rfl
      constructor
      · rw [root]
        exact ⟨0,rfl⟩
      · rw [root]
        omega
      · rw [root]
        exact Nat.zero_add val.toNat
      · rw [root]
        omega
  have last := (start.inner_rounds (by decide)).inner (by decide)
  have list : (List.range' 2 14).reverse = [15,14,13,12,11,10,9,8,7,6,5,4,3,2] := rfl
  rw [list] at last
  have same : fsqrt val = (INNER_ISQRT (List.foldl INNER_ISQRT
      (if 0x40000000 ≤ val then (0x8000, val - 0x40000000) else (0, val))
      [15,14,13,12,11,10,9,8,7,6,5,4,3,2]) 1).1 := by
    unfold fsqrt
    rw [INNER_ISQRT_one]
  rw [same]
  have remainder := last.remainder
  exact (sqrt_of_bounds (by omega) last.above).symm

/-- Both roots are exact, and so the same on 32 bits. -/
theorem square_roots_exact (x : u64) (v : u32) :
    ((isqrt x).toNat * (isqrt x).toNat ≤ x.toNat ∧
        x.toNat < ((isqrt x).toNat + 1) * ((isqrt x).toNat + 1)) ∧
      ((fsqrt v).toNat * (fsqrt v).toNat ≤ v.toNat ∧
        v.toNat < ((fsqrt v).toNat + 1) * ((fsqrt v).toNat + 1)) ∧
      fsqrt v = isqrt (v.setWidth 64) := by
  have exact64 (x : u64) : (isqrt x).toNat = Nat.sqrt x.toNat := by
    have small : Nat.sqrt x.toNat < 2 ^ 32 := Nat.sqrt_lt.mpr x.isLt
    rw [isqrt_eq_sqrt,BitVec.toNat_ofNat,Nat.mod_eq_of_lt small]
  refine ⟨?_,?_,?_⟩
  · rw [exact64]
    exact ⟨Nat.sqrt_le x.toNat,Nat.lt_succ_sqrt x.toNat⟩
  · rw [fsqrt_eq_sqrt]
    exact ⟨Nat.sqrt_le v.toNat,Nat.lt_succ_sqrt v.toNat⟩
  · apply BitVec.eq_of_toNat_eq
    rw [fsqrt_eq_sqrt,exact64,BitVec.toNat_setWidth_of_le (by decide)]

structure DivController where
  mode : u8
  busy : u8
  div0 : u8

def DivController.read16 (div : DivController) : u16 :=
  div.mode.setWidth 16 ||| (div.busy.setWidth 16 <<< 15) ||| (div.div0.setWidth 16 <<< 14)

def DivController.write16 (div : DivController) (val : u16) : DivController :=
  { div with mode := (val &&& 3).setWidth 8 }

structure SqrtController where
  mode : u8
  busy : u8

def SqrtController.read16 (sqrt : SqrtController) : u16 :=
  sqrt.mode.setWidth 16 ||| (sqrt.busy.setWidth 16 <<< 15)

def SqrtController.write16 (sqrt : SqrtController) (val : u16) : SqrtController :=
  { sqrt with mode := (val &&& 1).setWidth 8 }

structure MathState where
  mem : IoMem
  div : DivController
  sqrt : SqrtController
  divRunning : Bool
  divResult : u64
  divMod : u64
  divCycles : u64
  sqrtRunning : Bool
  sqrtResult : u32
  sqrtCycles : u64
  cached_sqrt : u64 → u32
  nds_timer : u64

/-- `MMU_Reset`. -/
def MathState.reset : MathState :=
  { mem := fun _ => 0
    div := { mode := 0, busy := 0, div0 := 0 }
    sqrt := { mode := 0, busy := 0 }
    divRunning := false
    divResult := 0
    divMod := 0
    divCycles := 0
    sqrtRunning := false
    sqrtResult := 0
    sqrtCycles := 0
    cached_sqrt := fun _ => 0
    nds_timer := 0 }

def divOperands (mode : u8) (mem : IoMem) : u64 × u64 :=
  match mode.toNat with
  | 0 => ((T1ReadLong mem 0x290).signExtend 64, (T1ReadLong mem 0x298).signExtend 64)
  | 1 | 3 => (T1ReadQuad mem 0x290, (T1ReadLong mem 0x298).signExtend 64)
  | _ => (T1ReadQuad mem 0x290, T1ReadQuad mem 0x298)

def divLatency (mode : u8) : u64 :=
  match mode.toNat with
  | 0 => 36
  | _ => 68

def divide (num den : u64) : u64 × u64 :=
  if den = 0 then (if num.slt 0 then 1 else -1, num) else (num.sdiv den, num.srem den)

def clearDivResults (mem : IoMem) : IoMem :=
  T1WriteLong (T1WriteLong (T1WriteLong (T1WriteLong mem 0x2A0 0) 0x2A4 0) 0x2A8 0) 0x2AC 0

def execdiv (st : MathState) : MathState :=
  let mode := st.div.mode
  let num := (divOperands mode st.mem).1
  let den := (divOperands mode st.mem).2
  { st with
    div :=
      { mode := mode
        busy := 1
        div0 := if den = 0 ∧ T1ReadQuad st.mem 0x298 = 0 then 1 else 0 }
    divCycles := st.nds_timer + divLatency mode
    mem := clearDivResults st.mem
    divResult := (divide num den).1
    divMod := (divide num den).2
    divRunning := true }

def dividerTriggered (st : MathState) : Bool :=
  st.divRunning && decide (st.divCycles ≤ st.nds_timer)

def storeDivResults (mem : IoMem) (res remainder : u64) : IoMem :=
  let mem := T1WriteLong mem 0x2A0 (res.setWidth 32)
  let mem := T1WriteLong mem 0x2A4 ((res >>> 32).setWidth 32)
  let mem := T1WriteLong mem 0x2A8 (remainder.setWidth 32)
  T1WriteLong mem 0x2AC ((remainder >>> 32).setWidth 32)

/-- `TSequenceItem_divider::exec`. -/
def dividerExec (st : MathState) : MathState :=
  { st with
    div := { st.div with busy := 0 }
    mem := storeDivResults st.mem st.divResult st.divMod
    divRunning := false }

variable (fpuSqrt : u32 → u32)

def sqrtKey (mode : u8) (mem : IoMem) : u64 :=
  if mode ≠ 0 then T1ReadQuad mem 0x2B8 else (T1ReadLong mem 0x2B8).setWidth 64

/-- The root a mode computes; `fpuSqrt` is the conversion to float, the root
and the conversion back. -/
def computeSqrt (mode : u8) (mem : IoMem) : u32 :=
  if mode ≠ 0 then isqrt (T1ReadQuad mem 0x2B8) else fpuSqrt (T1ReadLong mem 0x2B8)

def execsqrt (st : MathState) : MathState :=
  let mode := st.sqrt.mode
  let key := sqrtKey mode st.mem
  let cached := st.cached_sqrt key
  let miss := cached = 0 ∧ key ≠ 0
  let ret := if miss then computeSqrt fpuSqrt mode st.mem else cached
  { st with
    sqrt := { mode := mode, busy := 1 }
    cached_sqrt :=
      if miss then Function.update st.cached_sqrt key ret else st.cached_sqrt
    mem := T1WriteLong st.mem 0x2B4 0
    sqrtCycles := st.nds_timer + 26
    sqrtResult := ret
    sqrtRunning := true }

def sqrtunitTriggered (st : MathState) : Bool :=
  st.sqrtRunning && decide (st.sqrtCycles ≤ st.nds_timer)

/-- `TSequenceItem_sqrtunit::exec`. -/
def sqrtunitExec (st : MathState) : MathState :=
  { st with
    sqrt := { st.sqrt with busy := 0 }
    mem := T1WriteLong st.mem 0x2B4 st.sqrtResult
    sqrtRunning := false }

/-- The two items in the order `execHardware` looks at them. -/
def execHardware (st : MathState) : MathState :=
  let st := if sqrtunitTriggered st then sqrtunitExec st else st
  if dividerTriggered st then dividerExec st else st

def REG_DIVCNT : Nat := 0x280
def REG_DIVNUMER : Nat := 0x290
def REG_DIVDENOM : Nat := 0x298
def REG_SQRTCNT : Nat := 0x2B0
def REG_SQRTPARAM : Nat := 0x2B8

structure MathAddr where
  offset : Nat
  inside : (0x280 ≤ offset ∧ offset < 0x284) ∨ (0x290 ≤ offset ∧ offset < 0x2A0) ∨
    (0x2B0 ≤ offset ∧ offset < 0x2B4) ∨ (0x2B8 ≤ offset ∧ offset < 0x2C0)

/-- What a write means for the units: the control registers are handled apart
from the memory behind the operands, and some writes start a unit. -/
inductive Access
  | ignored
  | divcnt (val : u16)
  | sqrtcnt (val : u16)
  | storeByte (off : Nat) (val : u8)
  | storeWord (off : Nat) (val : u16)
  | storeLong (off : Nat) (val : u32)

inductive Start
  | none
  | divider
  | sqrtunit
  deriving DecidableEq

/-- The cases of `_MMU_ARM9_write08`: writes to the control registers return. -/
def access08 (off : Nat) (val : u8) : Access × Start :=
  if 0x2B0 ≤ off ∧ off < 0x2B4 then (.ignored, .none)
  else if 0x280 ≤ off ∧ off < 0x284 then (.ignored, .none)
  else (.storeByte off val, .none)

/-- The cases of `_MMU_ARM9_write16`: only the control registers start a unit. -/
def access16 (adr : Nat) (val : u16) : Access × Start :=
  let off := adr / 2 * 2
  if off = REG_DIVCNT then (.divcnt val, .divider)
  else if off = REG_SQRTCNT then (.sqrtcnt val, .sqrtunit)
  else (.storeWord off val, .none)

/-- The cases of `_MMU_ARM9_write32`: only the operands start a unit. -/
def access32 (adr : Nat) (val : u32) : Access × Start :=
  let off := adr / 4 * 4
  if off = REG_SQRTCNT then (.sqrtcnt (val.setWidth 16), .none)
  else if off = REG_DIVCNT then (.divcnt (val.setWidth 16), .none)
  else if off = REG_DIVNUMER ∨ off = REG_DIVNUMER + 4 ∨ off = REG_DIVDENOM ∨
      off = REG_DIVDENOM + 4 then (.storeLong off val, .divider)
  else if off = REG_SQRTPARAM ∨ off = REG_SQRTPARAM + 4 then
    (.storeLong off val, .sqrtunit)
  else (.storeLong off val, .none)

def store (st : MathState) : Access → MathState
  | .ignored => st
  | .divcnt val => { st with div := st.div.write16 val }
  | .sqrtcnt val => { st with sqrt := st.sqrt.write16 val }
  | .storeByte off val => { st with mem := T1WriteByte st.mem off val }
  | .storeWord off val => { st with mem := T1WriteWord st.mem off val }
  | .storeLong off val => { st with mem := T1WriteLong st.mem off val }

def start (st : MathState) : Start → MathState
  | .none => st
  | .divider => execdiv st
  | .sqrtunit => execsqrt fpuSqrt st

inductive Op
  | write08 (adr : MathAddr) (val : u8)
  | write16 (adr : MathAddr) (val : u16)
  | write32 (adr : MathAddr) (val : u32)
  | advance (cycles : u64)
  | execHardware

def Op.access : Op → Option (Access × Start)
  | .write08 adr val => some (access08 adr.offset val)
  | .write16 adr val => some (access16 adr.offset val)
  | .write32 adr val => some (access32 adr.offset val)
  | .advance _ => none
  | .execHardware => none

def perform (st : MathState) (access : Access × Start) : MathState :=
  start fpuSqrt (store st access.1) access.2

def step (st : MathState) : Op → MathState
  | .write08 adr val => perform fpuSqrt st (access08 adr.offset val)
  | .write16 adr val => perform fpuSqrt st (access16 adr.offset val)
  | .write32 adr val => perform fpuSqrt st (access32 adr.offset val)
  | .advance cycles => { st with nds_timer := st.nds_timer + cycles }
  | .execHardware => execHardware st

end Desmume.MathUnits
