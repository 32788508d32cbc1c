/-
Runs of the math units.

`divPending` is the result the divider has or will deliver.
-/

import Desmume.Math.Results

namespace Desmume.MathUnits

variable (fpuSqrt : u32 → u32)

def divPending (st : MathState) : u64 × u64 :=
  if st.divRunning then (st.divResult, st.divMod) else divResults st.mem

def sqrtPending (st : MathState) : u32 :=
  if st.sqrtRunning then st.sqrtResult else T1ReadLong st.mem 0x2B4

structure SameDiv (st other : MathState) : Prop where
  div : st.div = other.div
  running : st.divRunning = other.divRunning
  result : st.divResult = other.divResult
  remainder : st.divMod = other.divMod
  mem : Agree 0x290 0x2B0 st.mem other.mem

theorem divResults_congr {mem other : IoMem} (agree : Agree 0x2A0 0x2B0 mem other) :
    divResults mem = divResults other := by
  unfold divResults
  rw [agree.readQuad 0x2A0 (by decide) (by decide),agree.readQuad 0x2A8 (by decide) (by decide)]

theorem divOperands_congr (mode : u8) {mem other : IoMem} (agree : Agree 0x290 0x2A0 mem other) :
    divOperands mode mem = divOperands mode other := by
  have numLong := agree.readLong 0x290 (by decide) (by decide)
  have denLong := agree.readLong 0x298 (by decide) (by decide)
  have numQuad := agree.readQuad 0x290 (by decide) (by decide)
  have denQuad := agree.readQuad 0x298 (by decide) (by decide)
  unfold divOperands
  rw [numLong,denLong,numQuad,denQuad]

variable {other : MathState} {access : Access × Start} {op : Op}

theorem divValue_congr {st : MathState} (mode : divMode st = divMode other)
    (agree : Agree 0x290 0x2A0 st.mem other.mem) : divValue st = divValue other := by
  unfold divValue
  rw [mode,divOperands_congr _ agree]

theorem SameDiv.pending {st : MathState} (same : SameDiv st other) :
    divPending st = divPending other := by
  have results := divResults_congr (fun addr low high => same.mem addr (by omega) high)
  unfold divPending
  rw [same.running,same.result,same.remainder,results]

theorem SameDiv.value {st : MathState} (same : SameDiv st other) :
    divValue st = divValue other := by
  apply divValue_congr
  · unfold divMode
    rw [same.div]
  · exact fun addr low high => same.mem addr low (by omega)

theorem sameDiv_sqrtunitExec (st : MathState) : SameDiv (sqrtunitExec st) st :=
  ⟨rfl,rfl,rfl,rfl,agree_T1WriteLong _ _ _ _ _ (by decide)⟩

theorem sameDiv_execsqrt (st : MathState) : SameDiv (execsqrt fpuSqrt st) st :=
  ⟨rfl,rfl,rfl,rfl,agree_T1WriteLong _ _ _ _ _ (by decide)⟩

theorem agree_clearDivResults (mem : IoMem) (first last : Nat)
    (outside : last ≤ 0x2A0 ∨ 0x2B0 ≤ first) : Agree first last (clearDivResults mem) mem := by
  intro addr low high
  unfold clearDivResults
  rw [T1WriteLong_outside _ _ (by omega),T1WriteLong_outside _ _ (by omega),
    T1WriteLong_outside _ _ (by omega),T1WriteLong_outside _ _ (by omega)]

theorem agree_storeDivResults (mem : IoMem) (res remainder : u64) (first last : Nat)
    (outside : last ≤ 0x2A0 ∨ 0x2B0 ≤ first) :
    Agree first last (storeDivResults mem res remainder) mem := by
  intro addr low high
  unfold storeDivResults
  rw [T1WriteLong_outside _ _ (by omega),T1WriteLong_outside _ _ (by omega),
    T1WriteLong_outside _ _ (by omega),T1WriteLong_outside _ _ (by omega)]

variable {st : MathState}

theorem divPending_execdiv (sound : Sound st) :
    divPending (execdiv st) = divValue (execdiv st) := by
  have mode := sound.execdiv.divMode
  have operands := divOperands_congr st.div.mode
    (agree_clearDivResults st.mem 0x290 0x2A0 (Or.inl (Nat.le_refl _)))
  unfold divValue
  rw [mode]
  change (_, _) = divide (divOperands st.div.mode (clearDivResults st.mem)).1
    (divOperands st.div.mode (clearDivResults st.mem)).2
  rw [operands]
  rfl

theorem divPending_dividerExec (running : st.divRunning = true) :
    divPending (dividerExec st) = divPending st := by
  obtain ⟨res,remainder⟩ :=
    T1ReadQuad_storeDivResults st.mem st.divResult st.divMod
  have before : divPending st = (st.divResult, st.divMod) := if_pos running
  have after : divPending (dividerExec st) =
      divResults (storeDivResults st.mem st.divResult st.divMod) := rfl
  rw [before,after,divResults,res,remainder]

theorem divValue_dividerExec (sound : Sound st) : divValue (dividerExec st) = divValue st := by
  have after : SoundDiv (dividerExec st).div (dividerExec st).divRunning :=
    ⟨sound.div.mode,rfl,sound.div.div0⟩
  apply divValue_congr
  · rw [sound.divMode]
    exact after.readable.1
  · exact agree_storeDivResults _ _ _ _ _ (Or.inl (Nat.le_refl _))

/-- The state between the two items of `execHardware`. -/
def afterSqrtunit (st : MathState) : MathState :=
  if sqrtunitTriggered st then sqrtunitExec st else st

theorem sound_afterSqrtunit (sound : Sound st) : Sound (afterSqrtunit st) := by
  unfold afterSqrtunit
  split
  · exact ⟨sound.div,⟨sound.sqrt.mode,rfl⟩⟩
  · exact sound

theorem sameDiv_afterSqrtunit (st : MathState) : SameDiv (afterSqrtunit st) st := by
  unfold afterSqrtunit
  split
  · exact sameDiv_sqrtunitExec st
  · exact ⟨rfl,rfl,rfl,rfl,fun _ _ _ => rfl⟩

theorem execHardware_eq (st : MathState) :
    execHardware st =
      if dividerTriggered (afterSqrtunit st) then dividerExec (afterSqrtunit st)
      else afterSqrtunit st := rfl

theorem divPending_execHardware (st : MathState) :
    divPending (execHardware st) = divPending st := by
  rw [execHardware_eq,← (sameDiv_afterSqrtunit st).pending]
  split
  next triggered =>
    exact divPending_dividerExec (Bool.and_eq_true_iff.mp triggered).1
  next => rfl

theorem divValue_execHardware (sound : Sound st) : divValue (execHardware st) = divValue st := by
  rw [execHardware_eq,← (sameDiv_afterSqrtunit st).value]
  split
  · exact divValue_dividerExec (sound_afterSqrtunit sound)
  · rfl

theorem divPending_store {access : Access} (apart : access.Apart) :
    divPending (store st access) = divPending st := by
  have results := divResults_congr (apart st).1
  have fields : (store st access).divRunning = st.divRunning ∧
      (store st access).divResult = st.divResult ∧
      (store st access).divMod = st.divMod := by
    cases access <;> exact ⟨rfl,rfl,rfl⟩
  unfold divPending
  rw [fields.1,fields.2.1,fields.2.2,results]

theorem divPending_perform (st : MathState) (apart : access.1.Apart) (other : access.2 ≠ .divider) :
    divPending (perform fpuSqrt st access) = divPending st := by
  obtain ⟨access,unit⟩ := access
  cases unit with
  | none => exact divPending_store apart
  | divider => exact absurd rfl other
  | sqrtunit =>
      exact (sameDiv_execsqrt fpuSqrt (store st access)).pending.trans (divPending_store apart)

structure SameSqrt (st other : MathState) : Prop where
  sqrt : st.sqrt = other.sqrt
  running : st.sqrtRunning = other.sqrtRunning
  result : st.sqrtResult = other.sqrtResult
  mem : Agree 0x2B4 0x2C0 st.mem other.mem

theorem sqrtValue_congr {st : MathState} (mode : sqrtMode st = sqrtMode other)
    (agree : Agree 0x2B8 0x2C0 st.mem other.mem) :
    sqrtValue fpuSqrt st = sqrtValue fpuSqrt other := by
  have long := agree.readLong 0x2B8 (by decide) (by decide)
  have quad := agree.readQuad 0x2B8 (by decide) (by decide)
  unfold sqrtValue
  rw [mode,long,quad]

theorem SameSqrt.pending {st : MathState} (same : SameSqrt st other) :
    sqrtPending st = sqrtPending other := by
  have res := same.mem.readLong 0x2B4 (by decide) (by decide)
  unfold sqrtPending
  rw [same.running,same.result,res]

theorem SameSqrt.value {st : MathState} (same : SameSqrt st other) :
    sqrtValue fpuSqrt st = sqrtValue fpuSqrt other := by
  apply sqrtValue_congr
  · unfold sqrtMode
    rw [same.sqrt]
  · exact fun addr low high => same.mem addr (by omega) high

theorem sameSqrt_dividerExec (st : MathState) : SameSqrt (dividerExec st) st :=
  ⟨rfl,rfl,rfl,agree_storeDivResults _ _ _ _ _ (by decide)⟩

theorem sameSqrt_execdiv (st : MathState) : SameSqrt (execdiv st) st :=
  ⟨rfl,rfl,rfl,agree_clearDivResults _ _ _ (by decide)⟩

theorem computeSqrt_eq (sound : Sound st) (positive : sqrtKey st.sqrt.mode st.mem ≠ 0) :
    computeSqrt fpuSqrt st.sqrt.mode st.mem = sqrtValue fpuSqrt st := by
  unfold computeSqrt sqrtValue
  rw [sound.sqrtMode]
  split
  next => exact isqrt_eq_sqrt _
  next long =>
    have nonzero : T1ReadLong st.mem 0x2B8 ≠ 0 := by
      intro zero
      apply positive
      rw [sqrtKey,if_neg long,zero]
      rfl
    rw [if_neg nonzero]

theorem sqrtValue_of_zero (sound : Sound st)
    (zero : sqrtKey st.sqrt.mode st.mem = 0) : sqrtValue fpuSqrt st = 0 := by
  unfold sqrtKey at zero
  unfold sqrtValue
  rw [sound.sqrtMode]
  split
  next quad =>
    rw [if_pos quad] at zero
    rw [zero]
    rfl
  next long =>
    rw [if_neg long] at zero
    have none : T1ReadLong st.mem 0x2B8 = 0 := by
      have num := congrArg BitVec.toNat zero
      rw [BitVec.toNat_setWidth] at num
      apply BitVec.eq_of_toNat_eq
      have bound := (T1ReadLong st.mem 0x2B8).isLt
      change _ = 0 at num
      change _ = 0
      omega
    rw [if_pos none]

/-- The cache holds nothing else for the operand: it may hold the root the
other mode computed. -/
def CacheAgrees (st : MathState) : Prop :=
  st.cached_sqrt (sqrtKey st.sqrt.mode st.mem) = 0 ∨
    st.cached_sqrt (sqrtKey st.sqrt.mode st.mem) = sqrtValue fpuSqrt st

theorem sqrtPending_execsqrt_iff (sound : Sound st) :
    sqrtPending (execsqrt fpuSqrt st) = sqrtValue fpuSqrt (execsqrt fpuSqrt st) ↔
      CacheAgrees fpuSqrt st := by
  have val : sqrtValue fpuSqrt (execsqrt fpuSqrt st) = sqrtValue fpuSqrt st := by
    apply sqrtValue_congr
    · rw [(sound.execsqrt fpuSqrt).sqrtMode,sound.sqrtMode]
      rfl
    · exact agree_T1WriteLong _ _ _ _ _ (by decide)
  have pending : sqrtPending (execsqrt fpuSqrt st) =
      if st.cached_sqrt (sqrtKey st.sqrt.mode st.mem) = 0 ∧
          sqrtKey st.sqrt.mode st.mem ≠ 0 then
        computeSqrt fpuSqrt st.sqrt.mode st.mem
      else st.cached_sqrt (sqrtKey st.sqrt.mode st.mem) := rfl
  rw [val,pending]
  unfold CacheAgrees
  by_cases zero : sqrtKey st.sqrt.mode st.mem = 0
  · have root := sqrtValue_of_zero fpuSqrt sound zero
    rw [if_neg (fun miss => miss.2 zero),root]
    exact (or_self_iff).symm
  · by_cases empty : st.cached_sqrt (sqrtKey st.sqrt.mode st.mem) = 0
    · rw [if_pos ⟨empty,zero⟩]
      exact iff_of_true (computeSqrt_eq fpuSqrt sound zero) (Or.inl empty)
    · rw [if_neg (fun miss => empty miss.1)]
      exact (or_iff_right empty).symm

theorem sqrtPending_afterSqrtunit (st : MathState) :
    sqrtPending (afterSqrtunit st) = sqrtPending st := by
  unfold afterSqrtunit
  split
  next triggered =>
    have running : st.sqrtRunning = true := (Bool.and_eq_true_iff.mp triggered).1
    have before : sqrtPending st = st.sqrtResult := if_pos running
    have after : sqrtPending (sqrtunitExec st) =
        T1ReadLong (T1WriteLong st.mem 0x2B4 st.sqrtResult) 0x2B4 := rfl
    rw [before,after,T1ReadLong_T1WriteLong]
  next => rfl

theorem sqrtValue_afterSqrtunit (sound : Sound st) :
    sqrtValue fpuSqrt (afterSqrtunit st) = sqrtValue fpuSqrt st := by
  have after := (sound_afterSqrtunit sound).sqrtMode
  have mode : (afterSqrtunit st).sqrt.mode = st.sqrt.mode := by
    unfold afterSqrtunit
    split <;> rfl
  apply sqrtValue_congr
  · rw [after,mode,sound.sqrtMode]
  · unfold afterSqrtunit
    split
    · exact agree_T1WriteLong _ _ _ _ _ (by decide)
    · exact fun _ _ _ => rfl

theorem sameSqrt_execHardware (st : MathState) : SameSqrt (execHardware st) (afterSqrtunit st) := by
  rw [execHardware_eq]
  split
  · exact sameSqrt_dividerExec _
  · exact ⟨rfl,rfl,rfl,fun _ _ _ => rfl⟩

theorem sqrtPending_store {access : Access} (apart : access.Apart) :
    sqrtPending (store st access) = sqrtPending st := by
  have res := (apart st).2.readLong 0x2B4 (Nat.le_refl _) (Nat.le_refl _)
  have fields : (store st access).sqrtRunning = st.sqrtRunning ∧
      (store st access).sqrtResult = st.sqrtResult := by
    cases access <;> exact ⟨rfl,rfl⟩
  unfold sqrtPending
  rw [fields.1,fields.2,res]

theorem sqrtPending_perform (st : MathState)
    (apart : access.1.Apart) (other : access.2 ≠ .sqrtunit) :
    sqrtPending (perform fpuSqrt st access) = sqrtPending st := by
  obtain ⟨access,unit⟩ := access
  cases unit with
  | none => exact sqrtPending_store apart
  | divider =>
      exact (sameSqrt_execdiv (store st access)).pending.trans (sqrtPending_store apart)
  | sqrtunit => exact absurd rfl other

/-! ### A unit settles when its pending result is the right one -/

theorem sound_advance (sound : Sound st) (cycles : u64) :
    Sound { st with nds_timer := st.nds_timer + cycles } :=
  ⟨sound.div,sound.sqrt⟩

theorem reach_deadline (deadline now : u64) : deadline ≤ now + (deadline - now) := by
  rw [BitVec.add_comm,BitVec.sub_add_cancel]
  exact BitVec.le_refl deadline

theorem divSettles_iff (sound : Sound st) : DivSettles st ↔ divPending st = divValue st := by
  have later (cycles : u64) : divPending (elapse st cycles) = divPending st ∧
      divValue (elapse st cycles) = divValue st :=
    ⟨divPending_execHardware _,divValue_execHardware (sound_advance sound cycles)⟩
  have busy (cycles : u64) : divBusy (elapse st cycles) = (elapse st cycles).divRunning :=
    (sound_advance sound cycles).execHardware.divBusy
  constructor
  · intro settles
    let cycles := st.divCycles - st.nds_timer
    let due : MathState := { st with nds_timer := st.nds_timer + cycles }
    have idle : (elapse st cycles).divRunning = false := by
      have elapsed : elapse st cycles = execHardware due := rfl
      have running : (afterSqrtunit due).divRunning = st.divRunning :=
        (sameDiv_afterSqrtunit due).running
      have times : (afterSqrtunit due).divCycles = st.divCycles ∧
          (afterSqrtunit due).nds_timer = st.nds_timer + cycles := by
        unfold afterSqrtunit
        split <;> exact ⟨rfl,rfl⟩
      rw [elapsed,execHardware_eq]
      split
      next => rfl
      next early =>
        rw [running]
        by_contra started
        apply early
        rw [dividerTriggered,running,times.1,times.2,
          decide_eq_true (reach_deadline st.divCycles st.nds_timer)]
        simpa using started
    have current := settles cycles ((busy cycles).trans idle)
    have pending : divPending (elapse st cycles) = divResults (elapse st cycles).mem := by
      rw [divPending,idle]
      rfl
    rw [← (later cycles).1,pending,current,(later cycles).2]
  · intro same cycles notBusy
    have idle : (elapse st cycles).divRunning = false := (busy cycles).symm.trans notBusy
    have pending : divPending (elapse st cycles) = divResults (elapse st cycles).mem := by
      rw [divPending,idle]
      rfl
    rw [← pending,(later cycles).1,same,(later cycles).2]

theorem sqrtPending_execHardware (st : MathState) :
    sqrtPending (execHardware st) = sqrtPending st :=
  (sameSqrt_execHardware st).pending.trans (sqrtPending_afterSqrtunit st)

theorem sqrtValue_execHardware (sound : Sound st) :
    sqrtValue fpuSqrt (execHardware st) = sqrtValue fpuSqrt st :=
  ((sameSqrt_execHardware st).value fpuSqrt).trans (sqrtValue_afterSqrtunit fpuSqrt sound)

theorem sqrtSettles_iff (sound : Sound st) :
    SqrtSettles fpuSqrt st ↔ sqrtPending st = sqrtValue fpuSqrt st := by
  have later (cycles : u64) : sqrtPending (elapse st cycles) = sqrtPending st ∧
      sqrtValue fpuSqrt (elapse st cycles) = sqrtValue fpuSqrt st :=
    ⟨sqrtPending_execHardware _,sqrtValue_execHardware fpuSqrt (sound_advance sound cycles)⟩
  have busy (cycles : u64) : sqrtBusy (elapse st cycles) = (elapse st cycles).sqrtRunning :=
    (sound_advance sound cycles).execHardware.sqrtBusy
  constructor
  · intro settles
    let cycles := st.sqrtCycles - st.nds_timer
    let due : MathState := { st with nds_timer := st.nds_timer + cycles }
    have idle : (elapse st cycles).sqrtRunning = false := by
      have after : (elapse st cycles).sqrtRunning = (afterSqrtunit due).sqrtRunning :=
        (sameSqrt_execHardware due).running
      rw [after]
      unfold afterSqrtunit
      split
      next => rfl
      next early =>
        by_contra started
        apply early
        have deadline := decide_eq_true (reach_deadline st.sqrtCycles st.nds_timer)
        change (st.sqrtRunning && _) = true
        rw [deadline]
        simpa using started
    have current := settles cycles ((busy cycles).trans idle)
    have pending : sqrtPending (elapse st cycles) =
        T1ReadLong (elapse st cycles).mem 0x2B4 := by
      rw [sqrtPending,idle]
      rfl
    rw [← (later cycles).1,pending,current,(later cycles).2]
  · intro same cycles notBusy
    have idle : (elapse st cycles).sqrtRunning = false := (busy cycles).symm.trans notBusy
    have pending : sqrtPending (elapse st cycles) =
        T1ReadLong (elapse st cycles).mem 0x2B4 := by
      rw [sqrtPending,idle]
      rfl
    rw [← pending,(later cycles).1,same,(later cycles).2]

def starts (op : Op) : Start :=
  match op.access with
  | some access => access.2
  | none => .none

def written (st : MathState) (op : Op) : MathState :=
  match op.access with
  | some access => store st access.1
  | none => st

def divCondition (st : MathState) (op : Op) : Prop :=
  starts op = .divider ∨ divValue (step fpuSqrt st op) = divValue st

/-- The step starts the square root unit on an operand for which the cache
holds nothing else, or keeps the root for its registers. -/
def sqrtCondition (st : MathState) (op : Op) : Prop :=
  if starts op = .sqrtunit then CacheAgrees fpuSqrt (written st op)
  else sqrtValue fpuSqrt (step fpuSqrt st op) = sqrtValue fpuSqrt st

theorem step_of_access (found : op.access = some access) :
    access.1.Apart ∧ ∀ st, step fpuSqrt st op = perform fpuSqrt st access := by
  cases op with
  | write08 adr val =>
      obtain rfl := Option.some.inj found
      exact ⟨apart_access08 adr val,fun _ => rfl⟩
  | write16 adr val =>
      obtain rfl := Option.some.inj found
      exact ⟨apart_access16 adr val,fun _ => rfl⟩
  | write32 adr val =>
      obtain rfl := Option.some.inj found
      exact ⟨apart_access32 adr val,fun _ => rfl⟩
  | advance cycles => cases found
  | execHardware => cases found

theorem kept_step {Value : Type} {read : MathState → Value} {unit : Start} {st : MathState}
    (advanced : ∀ cycles, read (step fpuSqrt st (.advance cycles)) = read st)
    (executed : read (execHardware st) = read st)
    (performed : ∀ access : Access × Start, access.1.Apart → access.2 ≠ unit →
      read (perform fpuSqrt st access) = read st)
    (op : Op) (other : starts op ≠ unit) : read (step fpuSqrt st op) = read st := by
  cases found : op.access with
  | none =>
      cases op with
      | write08 adr val => cases found
      | write16 adr val => cases found
      | write32 adr val => cases found
      | advance cycles => exact advanced cycles
      | execHardware => exact executed
  | some access =>
      obtain ⟨apart,steps⟩ := step_of_access fpuSqrt found
      have elsewhere : access.2 ≠ unit := by
        rw [starts,found] at other
        exact other
      rw [steps]
      exact performed access apart elsewhere

theorem divPending_step (st : MathState) (op : Op) (other : starts op ≠ .divider) :
    divPending (step fpuSqrt st op) = divPending st :=
  kept_step fpuSqrt (fun _ => rfl) (divPending_execHardware st)
    (fun _ apart elsewhere => divPending_perform fpuSqrt st apart elsewhere) op other

theorem sqrtPending_step (st : MathState) (op : Op) (other : starts op ≠ .sqrtunit) :
    sqrtPending (step fpuSqrt st op) = sqrtPending st :=
  kept_step fpuSqrt (fun _ => rfl) (sqrtPending_execHardware st)
    (fun _ apart elsewhere => sqrtPending_perform fpuSqrt st apart elsewhere) op other

theorem step_of_starts {unit : Start} (here : starts op = unit)
    (started : unit ≠ .none) (st : MathState) :
    step fpuSqrt st op = start fpuSqrt (written st op) unit := by
  cases found : op.access with
  | none =>
      rw [starts,found] at here
      exact absurd here.symm started
  | some access =>
      obtain ⟨-,performed⟩ := step_of_access fpuSqrt found
      rw [starts,found] at here
      rw [performed,written,found,← here]
      rfl

theorem Sound.written (sound : Sound st) (op : Op) : Sound (written st op) := by
  unfold MathUnits.written
  split
  · exact sound.store _
  · exact sound

theorem divSettles_of_starts (sound : Sound st)
    (here : starts op = .divider) : DivSettles (step fpuSqrt st op) := by
  rw [divSettles_iff (sound_step fpuSqrt sound op),
    step_of_starts fpuSqrt here (by decide)]
  exact divPending_execdiv (sound.written op)

theorem divSettles_step (sound : Sound st) (op : Op) (settles : DivSettles st) :
    DivSettles (step fpuSqrt st op) ↔ divCondition fpuSqrt st op := by
  by_cases here : starts op = .divider
  · exact iff_of_true (divSettles_of_starts fpuSqrt sound here) (Or.inl here)
  · rw [divSettles_iff sound] at settles
    rw [divSettles_iff (sound_step fpuSqrt sound op),divPending_step fpuSqrt st op here,
      settles]
    constructor
    · intro same
      exact Or.inr same.symm
    · intro cond
      exact (cond.resolve_left here).symm

theorem sqrtSettles_step (sound : Sound st) (op : Op) (settles : SqrtSettles fpuSqrt st) :
    SqrtSettles fpuSqrt (step fpuSqrt st op) ↔ sqrtCondition fpuSqrt st op := by
  rw [sqrtSettles_iff fpuSqrt (sound_step fpuSqrt sound op),sqrtCondition]
  by_cases here : starts op = .sqrtunit
  · rw [if_pos here,step_of_starts fpuSqrt here (by decide)]
    exact sqrtPending_execsqrt_iff fpuSqrt (sound.written op)
  · rw [sqrtSettles_iff fpuSqrt sound] at settles
    rw [if_neg here,sqrtPending_step fpuSqrt st op here,settles]
    exact eq_comm

theorem sound_run (ops : List Op) {st : MathState} (sound : Sound st) :
    Sound (Run.final (step fpuSqrt) st ops) := by
  induction ops generalizing st with
  | nil => exact sound
  | cons op rest ih => exact ih (sound_step fpuSqrt sound op)

/-- With any passage of time a unit that is not busy shows the result for its
readable mode and operands, in every state of a run, exactly when no step of
the run leaves the result behind. The divider counts from its first start: its
registers are zero after a reset, which is not the result of zero by zero. -/
theorem math_results_current_iff :
    (∀ ops, Run.Always (step fpuSqrt) (SqrtSettles fpuSqrt) .reset ops ↔
      Run.Guarded (step fpuSqrt) (sqrtCondition fpuSqrt) .reset ops) ∧
    ∀ before first after, starts first = .divider →
      (Run.Always (step fpuSqrt) DivSettles
          (Run.final (step fpuSqrt) .reset (before ++ [first])) after ↔
        Run.Guarded (step fpuSqrt) (divCondition fpuSqrt)
          (Run.final (step fpuSqrt) .reset (before ++ [first])) after) := by
  have kept (st : MathState) (op : Op) (sound : Sound st) :
      Sound (step fpuSqrt st op) := sound_step fpuSqrt sound op
  constructor
  · intro ops
    have initial : SqrtSettles fpuSqrt .reset := by
      rw [sqrtSettles_iff fpuSqrt sound_reset]
      rfl
    have exact_step (st : MathState) (op : Op) (sound : Sound st)
        (settles : SqrtSettles fpuSqrt st) := sqrtSettles_step fpuSqrt sound op settles
    exact Run.always_iff_guarded kept exact_step sound_reset initial ops
  · intro before first after here
    have sound := sound_run fpuSqrt before sound_reset
    have split : Run.final (step fpuSqrt) .reset (before ++ [first]) =
        step fpuSqrt (Run.final (step fpuSqrt) .reset before) first :=
      Run.final_append _ _ before [first]
    rw [split]
    have exact_step (st : MathState) (op : Op) (sound : Sound st)
        (settles : DivSettles st) := divSettles_step fpuSqrt sound op settles
    exact Run.always_iff_guarded kept exact_step (sound_step fpuSqrt sound first)
      (divSettles_of_starts fpuSqrt sound here) after

theorem divCondition_advance (st : MathState) (cycles : u64) :
    divCondition fpuSqrt st (.advance cycles) := Or.inr rfl

def numerator : MathAddr := ⟨0x290,by decide⟩

def denominator : MathAddr := ⟨0x298,by decide⟩

theorem math_results_current_started :
    Run.Always (step (fun v => BitVec.ofNat 32 (Nat.sqrt v.toNat))) DivSettles
      (Run.final (step (fun v => BitVec.ofNat 32 (Nat.sqrt v.toNat))) .reset
        ([] ++ [.write32 numerator 10]))
      [.write32 denominator 3,.advance 36] :=
  ((math_results_current_iff (fun v => BitVec.ofNat 32 (Nat.sqrt v.toNat))).2 []
    (.write32 numerator 10) [.write32 denominator 3,.advance 36] rfl).mpr
    ⟨Or.inl rfl,divCondition_advance _ _ 36,trivial⟩

/-- 10 by 3 is delivered, then a 16-bit write makes the numerator 7. -/
def staleRun : List Op :=
  [.write32 numerator 10,.write32 denominator 3,.advance 36,.execHardware,
    .write16 numerator 7]

set_option maxRecDepth 8000 in
theorem stale_quotient :
    ¬∀ (fpuSqrt : u32 → u32) (ops : List Op), DivCurrent (Run.final (step fpuSqrt) .reset ops) := by
  intro everywhere
  have idle : divBusy (Run.final (step id) .reset staleRun) = false := by decide
  have current := everywhere id staleRun idle
  have shown : divResults (Run.final (step id) .reset staleRun).mem = (3, 1) := by decide
  have right : divValue (Run.final (step id) .reset staleRun) = (2, 1) := by decide
  rw [shown,right] at current
  exact absurd current (by decide)

end Desmume.MathUnits
