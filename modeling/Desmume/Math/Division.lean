/-
The arithmetic of the divider.

The numerator is the quotient times the denominator plus the remainder, as
signed numbers of 64 bits.
-/

import Desmume.Math.Current

namespace Desmume.MathUnits

variable (fpuSqrt : u32 → u32)

variable (num den : u64)

/-- The quotient is a number of 64 bits, so the division of the source has a value. -/
def DivisionDefined : Prop :=
  -(2 ^ 63) ≤ num.toInt.tdiv den.toInt ∧ num.toInt.tdiv den.toInt < 2 ^ 63

structure Divided (num den quotient remainder : Int) : Prop where
  composed : num = quotient * den + remainder
  smaller : remainder.natAbs < den.natAbs
  signed : remainder = 0 ∨ (0 < num ∧ 0 < remainder) ∨ (num < 0 ∧ remainder < 0)

def DivisionLaw (results : u64 × u64) : Prop :=
  if den = 0 then results = (if num.toInt < 0 then 1 else -1, num)
  else Divided num.toInt den.toInt results.1.toInt results.2.toInt

def selectedNum (st : MathState) : u64 := (divOperands st.div.mode st.mem).1

def selectedDen (st : MathState) : u64 := (divOperands st.div.mode st.mem).2

def divZeroFlag (st : MathState) : Bool := st.div.read16.getLsbD 14

def Undisturbed (ops : List Op) : Prop := ∀ op ∈ ops, starts op ≠ .divider

/-- What `execdiv` does in a state is right: the division is defined, results
are published, and whenever they are they obey the law; the flag tells a zero
denominator register. -/
structure DivisionRight (st : MathState) : Prop where
  defined : DivisionDefined (selectedNum st) (selectedDen st)
  delivered : ∃ ops, Undisturbed ops ∧
    (Run.final (step fpuSqrt) (execdiv st) ops).divRunning = false
  law : ∀ ops, Undisturbed ops →
    (Run.final (step fpuSqrt) (execdiv st) ops).divRunning = false →
    DivisionLaw (selectedNum st) (selectedDen st)
      (divResults (Run.final (step fpuSqrt) (execdiv st) ops).mem)
  div0 : ∀ ops, Undisturbed ops →
    divZeroFlag (Run.final (step fpuSqrt) (execdiv st) ops) =
      decide (T1ReadQuad st.mem 0x298 = 0)

theorem divided_tdiv (num den : Int) (nonzero : den ≠ 0) :
    Divided num den (num.tdiv den) (num.tmod den) := by
  refine ⟨(Int.tdiv_mul_add_tmod num den).symm,?_,?_⟩
  · rw [Int.natAbs_tmod]
    exact Nat.mod_lt _ (Int.natAbs_pos.mpr nonzero)
  · have sign := Int.sign_tmod num den
    rcases Int.lt_trichotomy num 0 with negative | rfl | positive
    · rw [Int.sign_eq_neg_one_of_neg negative] at sign
      split at sign
      · exact Or.inl (Int.sign_eq_zero_iff_zero.mp sign)
      · exact Or.inr (Or.inr ⟨negative,Int.sign_eq_neg_one_iff_neg.mp sign⟩)
    · exact Or.inl (Int.zero_tmod den)
    · rw [Int.sign_eq_one_of_pos positive] at sign
      split at sign
      · exact Or.inl (Int.sign_eq_zero_iff_zero.mp sign)
      · exact Or.inr (Or.inl ⟨positive,Int.sign_eq_one_iff_pos.mp sign⟩)

def Overflows : Prop := num = BitVec.intMin 64 ∧ den = -1

theorem divisionDefined_iff : DivisionDefined num den ↔ ¬Overflows num den := by
  constructor
  · rintro ⟨-,above⟩ ⟨least,minusOne⟩
    subst least minusOne
    exact absurd above (by decide)
  · intro fits
    have exact_quotient := BitVec.toInt_sdiv_of_ne_or_ne num den
      (by rwa [Overflows,not_and_or] at fits)
    unfold DivisionDefined
    rw [← exact_quotient]
    exact ⟨BitVec.le_toInt _,BitVec.toInt_lt⟩

theorem divisionLaw_divide (fits : ¬Overflows num den) : DivisionLaw num den (divide num den) := by
  unfold DivisionLaw divide
  split
  next zero =>
    have none : (0 : u64).toInt = 0 := rfl
    rw [BitVec.slt_eq_decide,none]
    simp only [decide_eq_true_eq]
  next nonzero =>
    have exact_quotient := BitVec.toInt_sdiv_of_ne_or_ne num den
      (by rwa [Overflows,not_and_or] at fits)
    have nonzero' : den.toInt ≠ 0 := fun zero => nonzero (BitVec.toInt_inj.mp zero)
    rw [exact_quotient,BitVec.toInt_srem]
    exact divided_tdiv num.toInt den.toInt nonzero'

theorem divPending_run (ops : List Op) {st : MathState} (undisturbed : Undisturbed ops) :
    divPending (Run.final (step fpuSqrt) st ops) = divPending st :=
  Run.observe_final divPending
    (fun op listed st => divPending_step fpuSqrt st op (undisturbed op listed)) st

variable (st : MathState)

theorem div0_execHardware : (execHardware st).div.div0 = st.div.div0 := by
  have first : (afterSqrtunit st).div.div0 = st.div.div0 :=
    congrArg DivController.div0 (sameDiv_afterSqrtunit st).div
  rw [execHardware_eq]
  split
  · exact first
  · exact first

theorem div0_perform {access : Access × Start}
    (other : access.2 ≠ .divider) : (perform fpuSqrt st access).div.div0 = st.div.div0 := by
  obtain ⟨access,unit⟩ := access
  have stored : (store st access).div.div0 = st.div.div0 := by
    cases access with
    | ignored => rfl
    | divcnt val => rfl
    | sqrtcnt val => rfl
    | storeByte off val => rfl
    | storeWord off val => rfl
    | storeLong off val => rfl
  cases unit with
  | none => exact stored
  | divider => exact absurd rfl other
  | sqrtunit => exact stored

theorem div0_step (op : Op) (other : starts op ≠ .divider) :
    (step fpuSqrt st op).div.div0 = st.div.div0 := by
  cases op with
  | write08 adr val => exact div0_perform fpuSqrt st other
  | write16 adr val => exact div0_perform fpuSqrt st other
  | write32 adr val => exact div0_perform fpuSqrt st other
  | advance cycles => rfl
  | execHardware => exact div0_execHardware st

theorem div0_run (ops : List Op) {st : MathState} (undisturbed : Undisturbed ops) :
    (Run.final (step fpuSqrt) st ops).div.div0 = st.div.div0 :=
  Run.observe_final (fun st : MathState => st.div.div0)
    (fun op listed st => div0_step fpuSqrt st op (undisturbed op listed)) st

theorem divZeroFlag_eq : divZeroFlag st = st.div.div0.getLsbD 0 := by
  unfold divZeroFlag DivController.read16
  simp only [BitVec.getLsbD_or,BitVec.getLsbD_setWidth,BitVec.getLsbD_shiftLeft]
  simp

theorem den_of_register (zero : T1ReadQuad st.mem 0x298 = 0) : selectedDen st = 0 := by
  have long : T1ReadLong st.mem 0x298 = 0 := by
    have low := congrArg (BitVec.setWidth 32) zero
    unfold T1ReadQuad at low
    rw [BitVec.setWidth_append_eq_right] at low
    exact low
  unfold selectedDen divOperands
  rw [long,zero]
  split
  · rfl
  · rfl
  · rfl
  · rfl

def publish (st : MathState) : List Op :=
  [.advance ((execdiv st).divCycles - (execdiv st).nds_timer),.execHardware]

theorem undisturbed_publish : Undisturbed (publish st) := by
  intro op listed
  rcases List.mem_cons.mp listed with rfl | later
  · exact nofun
  · rw [List.mem_singleton.mp later]
    exact nofun

theorem running_publish :
    (Run.final (step fpuSqrt) (execdiv st) (publish st)).divRunning = false := by
  let waited : MathState :=
    { execdiv st with
      nds_timer := (execdiv st).nds_timer +
        ((execdiv st).divCycles - (execdiv st).nds_timer) }
  change (execHardware waited).divRunning = false
  have due : dividerTriggered (afterSqrtunit waited) = true := by
    have reached := reach_deadline (execdiv st).divCycles (execdiv st).nds_timer
    unfold afterSqrtunit
    split
    · exact decide_eq_true reached
    · exact decide_eq_true reached
  rw [execHardware_eq,if_pos due]
  rfl

/-- Every run after a start publishes right results, with the right flag, when
and only when the operands are not the least number and minus one. -/
theorem division_right_iff (st : MathState) :
    DivisionRight fpuSqrt st ↔ ¬Overflows (selectedNum st) (selectedDen st) := by
  constructor
  · intro right
    exact (divisionDefined_iff _ _).mp right.defined
  · intro fits
    refine ⟨(divisionDefined_iff _ _).mpr fits,
      ⟨publish st,undisturbed_publish st,running_publish fpuSqrt st⟩,?_,?_⟩
    · intro ops undisturbed idle
      have pending := @divPending_run fpuSqrt ops (execdiv st) undisturbed
      have started : divPending (execdiv st) =
          divide (selectedNum st) (selectedDen st) := rfl
      rw [divPending,if_neg (by rw [idle]; decide),started] at pending
      rw [pending]
      exact divisionLaw_divide _ _ fits
    · intro ops undisturbed
      have flag := @div0_run fpuSqrt ops (execdiv st) undisturbed
      have started : (execdiv st).div.div0 =
          if selectedDen st = 0 ∧ T1ReadQuad st.mem 0x298 = 0 then 1 else 0 := rfl
      rw [divZeroFlag_eq,flag,started]
      by_cases zero : T1ReadQuad st.mem 0x298 = 0
      · rw [if_pos ⟨den_of_register st zero,zero⟩,decide_eq_true zero]
        rfl
      · rw [if_neg (fun both => zero both.2),decide_eq_false zero]
        rfl

/-- Mode 1, the least numerator and the denominator minus one. -/
def overflowRun : List Op :=
  [.write16 ⟨0x280,by decide⟩ 1,.write32 ⟨0x294,by decide⟩ 0x80000000,
    .write32 denominator 0xFFFFFFFF]

set_option maxRecDepth 8000 in
theorem least_by_minus_one :
    ¬∀ (fpuSqrt : u32 → u32) (ops : List Op) (op : Op), starts op = .divider →
      DivisionRight fpuSqrt (written (Run.final (step fpuSqrt) .reset ops) op) := by
  intro everywhere
  have right := everywhere id (overflowRun.take 2) (.write32 denominator 0xFFFFFFFF) (by decide)
  exact (divisionDefined_iff _ _).mp right.defined ⟨by decide,by decide⟩

end Desmume.MathUnits
