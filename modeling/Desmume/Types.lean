/-
Fixed-width integers, the two processors, and the little-endian accessors of
the register page.

A register page is a total map from offsets to bytes. Only the offsets that a
modelled register occupies are ever read.
-/

import Mathlib

namespace Desmume

open Function (update update_of_ne)

abbrev u8 := BitVec 8
abbrev u16 := BitVec 16
abbrev u32 := BitVec 32
abbrev u64 := BitVec 64

instance neZero2 : NeZero 2 := ⟨by decide⟩
instance neZero3 : NeZero 3 := ⟨by decide⟩
instance neZero4 : NeZero 4 := ⟨by decide⟩
instance neZero5 : NeZero 5 := ⟨by decide⟩
instance neZero6 : NeZero 6 := ⟨by decide⟩
instance neZero8 : NeZero 8 := ⟨by decide⟩
instance neZero14 : NeZero 14 := ⟨by decide⟩
instance neZero16 : NeZero 16 := ⟨by decide⟩
instance neZero17 : NeZero 17 := ⟨by decide⟩
instance neZero32 : NeZero 32 := ⟨by decide⟩
instance neZero192 : NeZero 192 := ⟨by decide⟩
instance neZero1024 : NeZero 1024 := ⟨by decide⟩

/-- The index of the processor tables: `ARMCPU_ARM9` is 0, `ARMCPU_ARM7` is 1. -/
inductive Proc
  | ARMCPU_ARM9
  | ARMCPU_ARM7
  deriving DecidableEq, Repr

/-- `proc ^ 1`. -/
def Proc.remote : Proc → Proc
  | .ARMCPU_ARM9 => .ARMCPU_ARM7
  | .ARMCPU_ARM7 => .ARMCPU_ARM9

variable (proc : Proc)

@[simp] theorem Proc.remote_remote : proc.remote.remote = proc := by
  cases proc <;> rfl

@[simp] theorem Proc.remote_ne : proc.remote ≠ proc := by
  cases proc <;> decide

@[simp] theorem Proc.ne_remote : proc ≠ proc.remote :=
  proc.remote_ne.symm

theorem Proc.eq_or_eq_remote (other : Proc) : other = proc ∨ other = proc.remote := by
  cases proc <;> cases other <;> decide

inductive EDMAMode
  | Immediate
  | VBlank
  | HBlank
  | HStart
  | MemDisplay
  | Card
  | GBASlot
  | GXFifo
  | Wifi
  | GBASlot7
  deriving DecidableEq, Repr

theorem and_twoPow_ne_zero {width : Nat} (val : BitVec width) (bit : Nat) (inside : bit < width) :
    val &&& BitVec.twoPow width bit ≠ 0 ↔ val.getLsbD bit = true := by
  rw [BitVec.and_twoPow]
  by_cases present : val.getLsbD bit = true
  · rw [if_pos present]
    refine iff_of_true ?_ present
    intro zero
    have selected := congrArg (fun bits => bits.getLsbD bit) zero
    simp [inside] at selected
  · rw [if_neg present]
    simpa using present

/-- The page `MMU_MEM[proc][0x40]`. -/
abbrev IoMem := Nat → u8

def T1WriteByte (mem : IoMem) (addr : Nat) (val : u8) : IoMem :=
  update mem addr val

def T1ReadWord (mem : IoMem) (addr : Nat) : u16 :=
  mem (addr + 1) ++ mem addr

def T1ReadLong (mem : IoMem) (addr : Nat) : u32 :=
  T1ReadWord mem (addr + 2) ++ T1ReadWord mem addr

def T1ReadQuad (mem : IoMem) (addr : Nat) : u64 :=
  T1ReadLong mem (addr + 4) ++ T1ReadLong mem addr

def T1WriteWord (mem : IoMem) (addr : Nat) (val : u16) : IoMem :=
  update (update mem (addr + 1) ((val >>> 8).setWidth 8))
    addr ((val &&& 0xFF).setWidth 8)

def T1WriteLong (mem : IoMem) (addr : Nat) (val : u32) : IoMem :=
  T1WriteWord (T1WriteWord mem addr (val.setWidth 16)) (addr + 2) ((val >>> 16).setWidth 16)

variable (mem : IoMem) (addr : Nat)

@[simp] theorem T1ReadWord_T1WriteWord (val : u16) :
    T1ReadWord (T1WriteWord mem addr val) addr = val := by
  have high : (T1WriteWord mem addr val) (addr + 1) = (val >>> 8).setWidth 8 := by
    simp [T1WriteWord]
  have low : (T1WriteWord mem addr val) addr = (val &&& 0xFF).setWidth 8 := by
    simp [T1WriteWord]
  unfold T1ReadWord
  rw [high,low]
  apply BitVec.eq_of_getLsbD_eq
  intro i bound
  rw [BitVec.getLsbD_append]
  interval_cases i <;> simp

theorem T1ReadWord_T1WriteWord_of_disjoint (addr other : Nat) (val : u16)
    (disjoint : addr + 2 ≤ other ∨ other + 2 ≤ addr) :
    T1ReadWord (T1WriteWord mem addr val) other = T1ReadWord mem other := by
  have outside (i : Nat) (inside : i = other ∨ i = other + 1) :
      T1WriteWord mem addr val i = mem i := by
    have notLow : i ≠ addr := by omega
    have notHigh : i ≠ addr + 1 := by omega
    simp [T1WriteWord,notLow,notHigh]
  unfold T1ReadWord
  rw [outside other (Or.inl rfl),outside (other + 1) (Or.inr rfl)]

theorem T1ReadWord_T1WriteByte_of_outside (addr other : Nat) (val : u8)
    (notLow : addr ≠ other) (notHigh : addr ≠ other + 1) :
    T1ReadWord (T1WriteByte mem addr val) other = T1ReadWord mem other := by
  unfold T1ReadWord T1WriteByte
  rw [update_of_ne notLow.symm,update_of_ne notHigh.symm]

theorem T1ReadWord_T1WriteByte_low (val : u8) :
    T1ReadWord (T1WriteByte mem addr val) addr = mem (addr + 1) ++ val := by
  simp [T1ReadWord,T1WriteByte]

theorem T1ReadWord_T1WriteByte_high (val : u8) :
    T1ReadWord (T1WriteByte mem (addr + 1) val) addr = val ++ mem addr := by
  simp [T1ReadWord,T1WriteByte]

variable {other : Nat}

theorem T1WriteByte_outside {addr : Nat} (val : u8)
    (outside : other ≠ addr) : T1WriteByte mem addr val other = mem other :=
  update_of_ne outside _ _

theorem T1WriteWord_outside {addr : Nat} (val : u16)
    (outside : other < addr ∨ addr + 2 ≤ other) : T1WriteWord mem addr val other = mem other := by
  have notLow : other ≠ addr := by omega
  have notHigh : other ≠ addr + 1 := by omega
  unfold T1WriteWord
  rw [update_of_ne notLow,update_of_ne notHigh]

variable (val : u32)

theorem T1WriteLong_outside {addr : Nat}
    (outside : other < addr ∨ addr + 4 ≤ other) : T1WriteLong mem addr val other = mem other := by
  unfold T1WriteLong
  rw [T1WriteWord_outside _ _ (by omega),T1WriteWord_outside _ _ (by omega)]

theorem T1ReadWord_T1WriteLong_low :
    T1ReadWord (T1WriteLong mem addr val) addr = val.setWidth 16 := by
  unfold T1WriteLong
  rw [T1ReadWord_T1WriteWord_of_disjoint _ _ _ _ (by omega),T1ReadWord_T1WriteWord]

theorem T1ReadWord_T1WriteLong_high :
    T1ReadWord (T1WriteLong mem addr val) (addr + 2) = (val >>> 16).setWidth 16 := by
  unfold T1WriteLong
  rw [T1ReadWord_T1WriteWord]

theorem append_halves (width : Nat) (val : BitVec (width + width)) :
    (val >>> width).setWidth width ++ val.setWidth width = val := by
  apply BitVec.eq_of_getLsbD_eq
  intro i bound
  rw [BitVec.getLsbD_append]
  by_cases low : i < width
  · simp [low]
  · have restored : width + (i - width) = i := by omega
    have inside : i - width < width := by omega
    simp [low,restored,inside]

theorem T1ReadLong_T1WriteLong : T1ReadLong (T1WriteLong mem addr val) addr = val := by
  unfold T1ReadLong
  rw [T1ReadWord_T1WriteLong_low,T1ReadWord_T1WriteLong_high]
  exact append_halves 16 val

theorem T1ReadWord_congr {first second : IoMem} {adr : Nat} (low : first adr = second other)
    (high : first (adr + 1) = second (other + 1)) :
    T1ReadWord first adr = T1ReadWord second other := by
  unfold T1ReadWord
  rw [low,high]

theorem T1ReadLong_congr {first second : IoMem} {adr : Nat}
    (same : ∀ off < 4, first (adr + off) = second (other + off)) :
    T1ReadLong first adr = T1ReadLong second other := by
  have low : T1ReadWord first adr = T1ReadWord second other :=
    T1ReadWord_congr (same 0 (by omega)) (same 1 (by omega))
  have high : T1ReadWord first (adr + 2) = T1ReadWord second (other + 2) :=
    T1ReadWord_congr (same 2 (by omega)) (same 3 (by omega))
  unfold T1ReadLong
  rw [low,high]

end Desmume
