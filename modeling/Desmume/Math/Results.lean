/-
When the results of the math units are those of the registers.

`divPending` is the result the divider has or will deliver, `divValue` the one
of the mode and the operands that can be read.
-/

import Desmume.Math.Units

namespace Desmume.MathUnits

/-- The two pages agree from `first` up to `last`. -/
def Agree (first last : Nat) (mem other : IoMem) : Prop :=
  ∀ addr, first ≤ addr → addr < last → mem addr = other addr

variable {first last : Nat}

theorem Agree.trans {mem other third : IoMem}
    (left : Agree first last mem other) (right : Agree first last other third) :
    Agree first last mem third :=
  fun addr low high => (left addr low high).trans (right addr low high)

theorem Agree.readLong {mem other : IoMem} (agree : Agree first last mem other)
    (addr : Nat) (low : first ≤ addr) (high : addr + 4 ≤ last) :
    T1ReadLong mem addr = T1ReadLong other addr := by
  simp only [T1ReadLong,T1ReadWord]
  rw [agree addr (by omega) (by omega),agree (addr + 1) (by omega) (by omega),
    agree (addr + 2) (by omega) (by omega),agree (addr + 2 + 1) (by omega) (by omega)]

theorem Agree.readQuad {mem other : IoMem} (agree : Agree first last mem other)
    (addr : Nat) (low : first ≤ addr) (high : addr + 8 ≤ last) :
    T1ReadQuad mem addr = T1ReadQuad other addr := by
  unfold T1ReadQuad
  rw [agree.readLong addr low (by omega),agree.readLong (addr + 4) (by omega) (by omega)]

variable (mem : IoMem)

theorem agree_T1WriteLong (addr : Nat) (val : u32) (first last : Nat)
    (outside : last ≤ addr ∨ addr + 4 ≤ first) : Agree first last (T1WriteLong mem addr val) mem :=
  fun other low high => T1WriteLong_outside mem val (by omega)

theorem T1ReadQuad_of_halves (addr : Nat) (val : u64) :
    T1ReadQuad (T1WriteLong (T1WriteLong mem addr (val.setWidth 32)) (addr + 4)
      ((val >>> 32).setWidth 32)) addr = val := by
  have agree := agree_T1WriteLong (T1WriteLong mem addr (val.setWidth 32)) (addr + 4)
    ((val >>> 32).setWidth 32) addr (addr + 4) (Or.inl (Nat.le_refl _))
  have low := agree.readLong addr (Nat.le_refl _) (Nat.le_refl _)
  unfold T1ReadQuad
  rw [low,T1ReadLong_T1WriteLong,T1ReadLong_T1WriteLong]
  exact append_halves 32 val

theorem T1ReadQuad_storeDivResults (res remainder : u64) :
    T1ReadQuad (storeDivResults mem res remainder) 0x2A0 = res ∧
      T1ReadQuad (storeDivResults mem res remainder) 0x2A8 = remainder := by
  constructor
  · have first := agree_T1WriteLong
      (T1WriteLong (T1WriteLong mem 0x2A0 (res.setWidth 32)) 0x2A4
        ((res >>> 32).setWidth 32)) 0x2A8 (remainder.setWidth 32) 0x2A0 0x2A8
      (Or.inl (Nat.le_refl _))
    have second := agree_T1WriteLong
      (T1WriteLong (T1WriteLong (T1WriteLong mem 0x2A0 (res.setWidth 32)) 0x2A4
        ((res >>> 32).setWidth 32)) 0x2A8 (remainder.setWidth 32)) 0x2AC
        ((remainder >>> 32).setWidth 32) 0x2A0 0x2A8 (Or.inl (by decide))
    have kept := (second.trans first).readQuad 0x2A0 (Nat.le_refl _) (Nat.le_refl _)
    exact kept.trans (T1ReadQuad_of_halves mem 0x2A0 res)
  · exact T1ReadQuad_of_halves _ 0x2A8 remainder

def divBusy (st : MathState) : Bool := st.div.read16.getLsbD 15

def divMode (st : MathState) : u8 := (st.div.read16 &&& 3).setWidth 8

def sqrtBusy (st : MathState) : Bool := st.sqrt.read16.getLsbD 15

def sqrtMode (st : MathState) : u8 := (st.sqrt.read16 &&& 1).setWidth 8

def divValue (st : MathState) : u64 × u64 :=
  divide (divOperands (divMode st) st.mem).1 (divOperands (divMode st) st.mem).2

def divResults : u64 × u64 := (T1ReadQuad mem 0x2A0, T1ReadQuad mem 0x2A8)

/-- The root for the readable mode and operand: the integer root of 64 bits, or
what the floating point unit makes of 32 bits. -/
def sqrtValue (fpuSqrt : u32 → u32) (st : MathState) : u32 :=
  if sqrtMode st ≠ 0 then BitVec.ofNat 32 (Nat.sqrt (T1ReadQuad st.mem 0x2B8).toNat)
  else if T1ReadLong st.mem 0x2B8 = 0 then 0
  else fpuSqrt (T1ReadLong st.mem 0x2B8)

def DivCurrent (st : MathState) : Prop :=
  divBusy st = false → divResults st.mem = divValue st

def SqrtCurrent (fpuSqrt : u32 → u32) (st : MathState) : Prop :=
  sqrtBusy st = false → T1ReadLong st.mem 0x2B4 = sqrtValue fpuSqrt st

def elapse (st : MathState) (cycles : u64) : MathState :=
  execHardware { st with nds_timer := st.nds_timer + cycles }

def DivSettles (st : MathState) : Prop := ∀ cycles, DivCurrent (elapse st cycles)

def SqrtSettles (fpuSqrt : u32 → u32) (st : MathState) : Prop :=
  ∀ cycles, SqrtCurrent fpuSqrt (elapse st cycles)

structure SoundDiv (div : DivController) (running : Bool) : Prop where
  mode : div.mode.toNat < 4
  busy : div.busy = if running then 1 else 0
  div0 : div.div0 = 0 ∨ div.div0 = 1

structure SoundSqrt (sqrt : SqrtController) (running : Bool) : Prop where
  mode : sqrt.mode.toNat < 2
  busy : sqrt.busy = if running then 1 else 0

structure Sound (st : MathState) : Prop where
  div : SoundDiv st.div st.divRunning
  sqrt : SoundSqrt st.sqrt st.sqrtRunning

theorem SoundDiv.readable {div : DivController} {running : Bool} (sound : SoundDiv div running) :
    (div.read16 &&& 3).setWidth 8 = div.mode ∧ div.read16.getLsbD 15 = running := by
  obtain ⟨mode,busy,div0⟩ := div
  obtain ⟨small,busyBit,div0Bit⟩ := sound
  have fields : ∀ (mode : Fin 4) (running div0 : Bool),
      let div : DivController :=
        { mode := BitVec.ofNat 8 mode.val
          busy := if running then 1 else 0
          div0 := if div0 then 1 else 0 }
      (div.read16 &&& 3).setWidth 8 = div.mode ∧ div.read16.getLsbD 15 = running := by decide
  have mode_eq : mode = BitVec.ofNat 8 mode.toNat := by
    rw [BitVec.ofNat_toNat,BitVec.setWidth_eq]
  simp only at busyBit div0Bit
  rcases div0Bit with clear | set
  · have found := fields ⟨mode.toNat,small⟩ running false
    simp only [← mode_eq,← busyBit] at found
    rw [clear]
    exact found
  · have found := fields ⟨mode.toNat,small⟩ running true
    simp only [← mode_eq,← busyBit] at found
    rw [set]
    exact found

theorem SoundSqrt.readable {sqrt : SqrtController} {running : Bool}
    (sound : SoundSqrt sqrt running) :
    (sqrt.read16 &&& 1).setWidth 8 = sqrt.mode ∧ sqrt.read16.getLsbD 15 = running := by
  obtain ⟨mode,busy⟩ := sqrt
  obtain ⟨small,busyBit⟩ := sound
  have fields : ∀ (mode : Fin 2) (running : Bool),
      let sqrt : SqrtController :=
        { mode := BitVec.ofNat 8 mode.val, busy := if running then 1 else 0 }
      (sqrt.read16 &&& 1).setWidth 8 = sqrt.mode ∧ sqrt.read16.getLsbD 15 = running := by decide
  have mode_eq : mode = BitVec.ofNat 8 mode.toNat := by
    rw [BitVec.ofNat_toNat,BitVec.setWidth_eq]
  simp only at busyBit
  have found := fields ⟨mode.toNat,small⟩ running
  simp only [← mode_eq,← busyBit] at found
  exact found

variable {st : MathState}

theorem Sound.divMode (sound : Sound st) :
    divMode st = st.div.mode := sound.div.readable.1

theorem Sound.divBusy (sound : Sound st) :
    divBusy st = st.divRunning := sound.div.readable.2

theorem Sound.sqrtMode (sound : Sound st) :
    sqrtMode st = st.sqrt.mode := sound.sqrt.readable.1

theorem Sound.sqrtBusy (sound : Sound st) :
    sqrtBusy st = st.sqrtRunning := sound.sqrt.readable.2

theorem sound_reset : Sound MathState.reset :=
  ⟨⟨by decide,rfl,Or.inl rfl⟩,⟨by decide,rfl⟩⟩

theorem and_lt {bits : Nat} (val mask : u16) (small : mask.toNat < bits) (short : bits ≤ 256) :
    ((val &&& mask).setWidth 8).toNat < bits := by
  have masked : (val &&& mask).toNat ≤ mask.toNat := by
    rw [BitVec.toNat_and]
    exact Nat.and_le_right
  rw [BitVec.toNat_setWidth]
  omega

theorem Sound.store (sound : Sound st) (access : Access) : Sound (store st access) := by
  cases access with
  | ignored => exact sound
  | divcnt val =>
      exact ⟨⟨and_lt val 3 (by decide) (by decide),sound.div.busy,sound.div.div0⟩,sound.sqrt⟩
  | sqrtcnt val => exact ⟨sound.div,⟨and_lt val 1 (by decide) (by decide),sound.sqrt.busy⟩⟩
  | storeByte off val => exact ⟨sound.div,sound.sqrt⟩
  | storeWord off val => exact ⟨sound.div,sound.sqrt⟩
  | storeLong off val => exact ⟨sound.div,sound.sqrt⟩

theorem Sound.execdiv (sound : Sound st) : Sound (execdiv st) := by
  refine ⟨⟨sound.div.mode,rfl,?_⟩,sound.sqrt⟩
  simp only [MathUnits.execdiv]
  split
  · exact Or.inr rfl
  · exact Or.inl rfl

section

variable (fpuSqrt : u32 → u32)

theorem Sound.execsqrt {st : MathState} (sound : Sound st) : Sound (execsqrt fpuSqrt st) :=
  ⟨sound.div,⟨sound.sqrt.mode,rfl⟩⟩

theorem Sound.perform {st : MathState} (sound : Sound st) (access : Access × Start) :
    Sound (perform fpuSqrt st access) := by
  obtain ⟨access,unit⟩ := access
  cases unit with
  | none => exact sound.store access
  | divider => exact (sound.store access).execdiv
  | sqrtunit => exact (sound.store access).execsqrt fpuSqrt

theorem Sound.execHardware {st : MathState} (sound : Sound st) : Sound (execHardware st) := by
  have first : Sound (if sqrtunitTriggered st then sqrtunitExec st else st) := by
    split
    · exact ⟨sound.div,⟨sound.sqrt.mode,rfl⟩⟩
    · exact sound
  unfold MathUnits.execHardware
  revert first
  generalize (if sqrtunitTriggered st then sqrtunitExec st else st) = served
  intro first
  simp only
  split
  · exact ⟨⟨first.div.mode,rfl,first.div.div0⟩,first.sqrt⟩
  · exact first

theorem sound_step {st : MathState} (sound : Sound st) (op : Op) : Sound (step fpuSqrt st op) := by
  cases op with
  | write08 adr val => exact sound.perform fpuSqrt _
  | write16 adr val => exact sound.perform fpuSqrt _
  | write32 adr val => exact sound.perform fpuSqrt _
  | advance cycles => exact ⟨sound.div,sound.sqrt⟩
  | execHardware => exact sound.execHardware

end

def Access.Apart (access : Access) : Prop :=
  ∀ st, Agree 0x2A0 0x2B0 (store st access).mem st.mem ∧
    Agree 0x2B4 0x2B8 (store st access).mem st.mem

variable {off : Nat}

theorem apart_storeByte (val : u8)
    (inside : (0x290 ≤ off ∧ off < 0x2A0) ∨ (0x2B8 ≤ off ∧ off < 0x2C0)) :
    (Access.storeByte off val).Apart := by
  intro st
  constructor
  · intro addr low high
    exact Function.update_of_ne (by omega) _ _
  · intro addr low high
    exact Function.update_of_ne (by omega) _ _

theorem apart_storeWord (val : u16)
    (inside : off + 2 ≤ 0x2A0 ∨ (0x2B0 ≤ off ∧ off + 2 ≤ 0x2B4) ∨ 0x2B8 ≤ off) :
    (Access.storeWord off val).Apart := by
  intro st
  have outside (addr : Nat) (low : off ≠ addr) (high : off + 1 ≠ addr) :
      T1WriteWord st.mem off val addr = st.mem addr := by
    unfold T1WriteWord
    rw [Function.update_of_ne low.symm,Function.update_of_ne high.symm]
  constructor
  · intro addr low high
    exact outside addr (by omega) (by omega)
  · intro addr low high
    exact outside addr (by omega) (by omega)

theorem apart_storeLong (val : u32)
    (inside : off + 4 ≤ 0x2A0 ∨ 0x2B8 ≤ off) : (Access.storeLong off val).Apart :=
  fun st => ⟨agree_T1WriteLong st.mem off val _ _ (by omega),
    agree_T1WriteLong st.mem off val _ _ (by omega)⟩

theorem apart_of_mem {access : Access} (kept : ∀ st, (store st access).mem = st.mem) :
    access.Apart := by
  intro st
  rw [kept st]
  exact ⟨fun _ _ _ => rfl, fun _ _ _ => rfl⟩

variable (adr : MathAddr)

theorem apart_access08 (val : u8) : (access08 adr.offset val).1.Apart := by
  have inside := adr.inside
  unfold access08
  split_ifs with sqrtcnt divcnt
  · exact apart_of_mem (fun _ => rfl)
  · exact apart_of_mem (fun _ => rfl)
  · exact apart_storeByte val (by omega)

theorem apart_access16 (val : u16) : (access16 adr.offset val).1.Apart := by
  have inside := adr.inside
  have divReg : REG_DIVCNT = 0x280 := rfl
  have sqrtReg : REG_SQRTCNT = 0x2B0 := rfl
  simp only [access16]
  by_cases divcnt : adr.offset / 2 * 2 = REG_DIVCNT
  · rw [if_pos divcnt]
    exact apart_of_mem (fun _ => rfl)
  · rw [if_neg divcnt]
    by_cases sqrtcnt : adr.offset / 2 * 2 = REG_SQRTCNT
    · rw [if_pos sqrtcnt]
      exact apart_of_mem (fun _ => rfl)
    · rw [if_neg sqrtcnt]
      exact apart_storeWord val (by omega)

theorem apart_access32 (val : u32) : (access32 adr.offset val).1.Apart := by
  have inside := adr.inside
  have divReg : REG_DIVCNT = 0x280 := rfl
  have sqrtReg : REG_SQRTCNT = 0x2B0 := rfl
  simp only [access32]
  by_cases sqrtcnt : adr.offset / 4 * 4 = REG_SQRTCNT
  · rw [if_pos sqrtcnt]
    exact apart_of_mem (fun _ => rfl)
  · rw [if_neg sqrtcnt]
    by_cases divcnt : adr.offset / 4 * 4 = REG_DIVCNT
    · rw [if_pos divcnt]
      exact apart_of_mem (fun _ => rfl)
    · rw [if_neg divcnt]
      have operand : (Access.storeLong (adr.offset / 4 * 4) val).Apart :=
        apart_storeLong val (by omega)
      split
      · exact operand
      · split
        · exact operand
        · exact operand

end Desmume.MathUnits
