/-
The system control coprocessor of the ARM9, `armcp15_t`, and what the protection
unit decides.

Writes to its registers refresh precomputed masks, from which the protection
unit decides an access: an address is in a region when its masked bits are the
region's.
-/

import Desmume.Lib.Run
import Desmume.Types

namespace Desmume.Cp15

open Function (update update_of_ne update_self)

/-- `CP15_ACCESS_WRITEUSR` to `CP15_ACCESS_EXECSYS`, 0 to 5. -/
inductive Access
  | WRITEUSR
  | WRITESYS
  | READUSR
  | READSYS
  | EXECUSR
  | EXECSYS
  deriving DecidableEq, Repr

/-- What a write to the coprocessor changes in the processor and the MMU. -/
structure Machine where
  ARM9_RW_MODE : Bool
  intVector : u32
  LDTBit : Bool
  waitIRQ : Bool
  halt_IE_and_IF : Bool
  DTCMRegion : u32
  ITCMRegion : u32

structure armcp15_t where
  ctrl : u32
  DCConfig : u32
  ICConfig : u32
  writeBuffCtrl : u32
  DaccessPerm : u32
  IaccessPerm : u32
  protectBaseSize : Fin 8 → u32
  DcacheLock : u32
  IcacheLock : u32
  ITCMRegion : u32
  DTCMRegion : u32
  /-- `regionWriteMask_USR` and its siblings. -/
  regionMask : Access → Fin 8 → u32
  regionSet : Access → Fin 8 → u32

def armcp15_t.initial : armcp15_t :=
  { ctrl := 0x00012078
    DCConfig := 0
    ICConfig := 0
    writeBuffCtrl := 0
    DaccessPerm := 0x22222222
    IaccessPerm := 0x22222222
    protectBaseSize := fun _ => 0
    DcacheLock := 0
    IcacheLock := 0
    ITCMRegion := 0x0C
    DTCMRegion := 0x0080000A
    regionMask := fun _ _ => 0
    regionSet := fun _ _ => 0 }

variable (val : u32) (type : Nat) (addr : u32)

def CP15_ACCESSTYPE (n : Fin 8) : Nat := ((val >>> (4 * n.val)) &&& 0x0F).toNat

def CP15_SIZEIDENTIFIER : u32 := (val >>> 1) &&& 0x1F

def CP15_SIZEBINARY : u32 := (1 : u32) <<< (CP15_SIZEIDENTIFIER val + 1)

def CP15_MASKFROMREG : u32 := ~~~((CP15_SIZEBINARY val - 1) ||| 0x3F)

def CP15_SETFROMREG : u32 := val &&& CP15_MASKFROMREG val

/-- The arrays of one access, for one region: those of the region, or those no
address meets. -/
def setAccess (cp15 : armcp15_t) (num : Fin 8) (mask set : u32) (access : Access)
    (allowed : Bool) : armcp15_t :=
  { cp15 with
    regionMask := update cp15.regionMask access
      (update (cp15.regionMask access) num (if allowed then mask else 0))
    regionSet := update cp15.regionSet access
      (update (cp15.regionSet access) num (if allowed then set else 0xFFFFFFFF)) }

def dataCases : (Bool × Bool) × Bool × Bool :=
  match type with
  | 1 => ((false, false), true, true)
  | 2 => ((false, true), true, true)
  | 3 => ((true, true), true, true)
  | 5 => ((false, false), false, true)
  | 6 => ((false, true), false, true)
  | _ => ((false, false), false, false)

/-- The cases of the instruction permissions: there is none for 5. -/
def instructionCases : Option (Bool × Bool) :=
  match type with
  | 1 => some (false, true)
  | 2 => some (true, true)
  | 3 => some (true, true)
  | 6 => some (true, true)
  | 5 => none
  | _ => some (false, false)

def setDataAccess (cp15 : armcp15_t) (num : Fin 8) (mask set : u32) : armcp15_t :=
  let ((writeUSR, readUSR), writeSYS, readSYS) :=
    dataCases (CP15_ACCESSTYPE cp15.DaccessPerm num)
  let cp15 := setAccess cp15 num mask set .WRITEUSR writeUSR
  let cp15 := setAccess cp15 num mask set .READUSR readUSR
  let cp15 := setAccess cp15 num mask set .WRITESYS writeSYS
  setAccess cp15 num mask set .READSYS readSYS

def setInstructionAccess (cp15 : armcp15_t) (num : Fin 8) (mask set : u32) : armcp15_t :=
  match instructionCases (CP15_ACCESSTYPE cp15.IaccessPerm num) with
  | some (execUSR, execSYS) =>
      let cp15 := setAccess cp15 num mask set .EXECUSR execUSR
      setAccess cp15 num mask set .EXECSYS execSYS
  | none => cp15

def setSingleRegionAccess (cp15 : armcp15_t) (num : Fin 8) (mask set : u32) : armcp15_t :=
  setInstructionAccess (setDataAccess cp15 num mask set) num mask set

/-- The mask and the bits of a region: nothing when it is disabled, everything
when it has 4 GB. -/
def regionMaskSet : u32 × u32 :=
  if val.getLsbD 0 then
    if CP15_SIZEIDENTIFIER val = 0x1F then (0, 0)
    else (CP15_MASKFROMREG val, CP15_SETFROMREG val)
  else (0, 0xFFFFFFFF)

def precalc (cp15 : armcp15_t) (num : Fin 8) : armcp15_t :=
  let (mask, set) := regionMaskSet (cp15.protectBaseSize num)
  setSingleRegionAccess cp15 num mask set

def maskPrecalc (cp15 : armcp15_t) : armcp15_t :=
  (List.finRange 8).foldl precalc cp15

structure Move where
  userMode : Bool
  val : u32
  CRn : Nat
  CRm : Nat
  opcode1 : Nat
  opcode2 : Nat

def moveARM2CP (cp15 : armcp15_t) (m : Machine) (move : Move) : armcp15_t × Machine × Bool :=
  let { userMode, val, CRn, CRm, opcode1, opcode2 } := move
  if userMode then (cp15, m, false)
  else
    match CRn with
    | 1 =>
        if opcode1 = 0 ∧ opcode2 = 0 ∧ CRm = 0 then
          ({ cp15 with ctrl := (val &&& 0x000FF085) ||| 0x00000078 },
            { m with
              ARM9_RW_MODE := val.getLsbD 7
              intVector := if val.getLsbD 13 then 0xFFFF0000 else 0
              LDTBit := !val.getLsbD 15 },
            true)
        else (cp15, m, false)
    | 2 =>
        if opcode1 = 0 ∧ CRm = 0 then
          match opcode2 with
          | 0 => ({ cp15 with DCConfig := val }, m, true)
          | 1 => ({ cp15 with ICConfig := val }, m, true)
          | _ => (cp15, m, false)
        else (cp15, m, false)
    | 3 =>
        if opcode1 = 0 ∧ opcode2 = 0 ∧ CRm = 0 then
          ({ cp15 with writeBuffCtrl := val }, m, true)
        else (cp15, m, false)
    | 5 =>
        if opcode1 = 0 ∧ CRm = 0 then
          match opcode2 with
          | 2 => (maskPrecalc { cp15 with DaccessPerm := val }, m, true)
          | 3 => (maskPrecalc { cp15 with IaccessPerm := val }, m, true)
          | _ => (cp15, m, false)
        else (cp15, m, false)
    | 6 =>
        if opcode1 = 0 ∧ opcode2 = 0 then
          if small : CRm < 8 then
            (maskPrecalc
              { cp15 with
                protectBaseSize := update cp15.protectBaseSize ⟨CRm,small⟩ val },
              m, true)
          else (cp15, m, false)
        else (cp15, m, false)
    | 7 =>
        if CRm = 0 ∧ opcode1 = 0 ∧ opcode2 = 4 then
          (cp15, { m with waitIRQ := true, halt_IE_and_IF := true }, true)
        else (cp15, m, false)
    | 9 =>
        if opcode1 = 0 then
          match CRm, opcode2 with
          | 0, 0 => ({ cp15 with DcacheLock := val }, m, true)
          | 0, 1 => ({ cp15 with IcacheLock := val }, m, true)
          | 1, 0 =>
              ({ cp15 with DTCMRegion := val &&& 0x0FFFF000 },
                { m with DTCMRegion := val &&& 0x0FFFF000 }, true)
          | 1, 1 => ({ cp15 with ITCMRegion := val }, { m with ITCMRegion := 0 }, true)
          | _, _ => (cp15, m, false)
        else (cp15, m, false)
    | _ => (cp15, m, false)

/-- The size of a region in bytes: a mask has no bits below a line of 64. -/
def regionSize : Nat := 2 ^ max 6 ((CP15_SIZEIDENTIFIER val).toNat + 1)

def covers : Prop :=
  addr.toNat / regionSize val = val.toNat / regionSize val

instance (val addr : u32) : Decidable (covers val addr) :=
  inferInstanceAs (Decidable (_ = _))

def permits : Access → Bool
  | .WRITEUSR => type == 3
  | .READUSR => type == 2 || type == 3 || type == 6
  | .WRITESYS => type == 1 || type == 2 || type == 3
  | .READSYS => type == 1 || type == 2 || type == 3 || type == 5 || type == 6
  | .EXECUSR => type == 2 || type == 3 || type == 6
  | .EXECSYS => type == 1 || type == 2 || type == 3 || type == 5 || type == 6

def Access.executes : Access → Bool
  | .EXECUSR | .EXECSYS => true
  | .WRITEUSR | .WRITESYS | .READUSR | .READSYS => false

def permission (cp15 : armcp15_t) (access : Access) (i : Fin 8) : Nat :=
  CP15_ACCESSTYPE (if access.executes then cp15.IaccessPerm else cp15.DaccessPerm) i

/-- The access has a case in `setSingleRegionAccess`. -/
def Defined (cp15 : armcp15_t) (access : Access) (i : Fin 8) : Prop :=
  access.executes = true → permission cp15 access i ≠ 5

theorem dataCases_permits :
    dataCases type =
      ((permits type .WRITEUSR, permits type .READUSR),
        permits type .WRITESYS, permits type .READSYS) := by
  unfold dataCases
  split <;> simp_all [permits]

theorem instructionCases_permits {type : Nat} (defined : type ≠ 5) :
    instructionCases type = some (permits type .EXECUSR, permits type .EXECSYS) := by
  unfold instructionCases
  split <;> simp_all [permits]

def arrays (cp15 : armcp15_t) (access : Access) (i : Fin 8) : u32 × u32 :=
  (cp15.regionMask access i, cp15.regionSet access i)

def granted (allowed : Bool) (maskSet : u32 × u32) : u32 × u32 :=
  if allowed then maskSet else (0, 0xFFFFFFFF)

variable (cp15 : armcp15_t) (num : Fin 8)

variable (mask set : u32)

theorem setAccess_arrays (access : Access) (allowed : Bool) (other : Access) (i : Fin 8) :
    arrays (setAccess cp15 num mask set access allowed) other i =
      if other = access ∧ i = num then granted allowed (mask, set) else arrays cp15 other i := by
  by_cases here : other = access
  · by_cases region : i = num
    · refine Eq.trans ?_ (if_pos ⟨here,region⟩).symm
      subst here region
      unfold arrays setAccess granted
      simp only [update_self]
      cases allowed with
      | true => rfl
      | false => rfl
    · refine Eq.trans ?_ (if_neg (fun both => region both.2)).symm
      subst here
      unfold arrays setAccess
      simp only [update_self,update_of_ne region]
  · refine Eq.trans ?_ (if_neg (fun both => here both.1)).symm
    unfold arrays setAccess
    simp only [update_of_ne here]

structure SameRegisters (before after : armcp15_t) : Prop where
  data : after.DaccessPerm = before.DaccessPerm
  instruction : after.IaccessPerm = before.IaccessPerm
  regions : after.protectBaseSize = before.protectBaseSize

theorem SameRegisters.trans {first second third : armcp15_t}
    (before : SameRegisters first second) (after : SameRegisters second third) :
    SameRegisters first third :=
  ⟨after.data.trans before.data,after.instruction.trans before.instruction,
    after.regions.trans before.regions⟩

theorem SameRegisters.permission {before after : armcp15_t} (same : SameRegisters before after)
    (access : Access) (i : Fin 8) :
    Cp15.permission after access i = Cp15.permission before access i := by
  unfold Cp15.permission
  rw [same.data,same.instruction]

theorem setAccess_registers (access : Access) (allowed : Bool) :
    SameRegisters cp15 (setAccess cp15 num mask set access allowed) :=
  ⟨rfl,rfl,rfl⟩

theorem setDataAccess_registers : SameRegisters cp15 (setDataAccess cp15 num mask set) :=
  (((setAccess_registers ..).trans (setAccess_registers ..)).trans
    (setAccess_registers ..)).trans (setAccess_registers ..)

theorem setInstructionAccess_registers :
    SameRegisters cp15 (setInstructionAccess cp15 num mask set) := by
  unfold setInstructionAccess
  split
  · exact (setAccess_registers ..).trans (setAccess_registers ..)
  · exact ⟨rfl,rfl,rfl⟩

theorem setDataAccess_arrays (access : Access) (i : Fin 8) :
    arrays (setDataAccess cp15 num mask set) access i =
      if access.executes = false ∧ i = num then
        granted (permits (permission cp15 access num) access) (mask, set)
      else arrays cp15 access i := by
  unfold setDataAccess
  rw [dataCases_permits]
  simp only [setAccess_arrays]
  by_cases region : i = num
  · cases access with
    | WRITEUSR => simp [region,permission,Access.executes]
    | WRITESYS => simp [region,permission,Access.executes]
    | READUSR => simp [region,permission,Access.executes]
    | READSYS => simp [region,permission,Access.executes]
    | EXECUSR => simp [Access.executes]
    | EXECSYS => simp [Access.executes]
  · simp [region]

variable {access : Access} {i : Fin 8}

theorem setInstructionAccess_data (other : access.executes = false ∨ i ≠ num) :
    arrays (setInstructionAccess cp15 num mask set) access i = arrays cp15 access i := by
  have apart : (access ≠ .EXECUSR ∧ access ≠ .EXECSYS) ∨ i ≠ num := by
    refine other.imp_left ?_
    intro data
    constructor
    · rintro rfl
      exact Bool.noConfusion data
    · rintro rfl
      exact Bool.noConfusion data
  unfold setInstructionAccess
  split
  · simp only [setAccess_arrays]
    rcases apart with ⟨notUSR,notSYS⟩ | region
    · simp only [notUSR,notSYS,false_and,if_false]
    · simp only [region,and_false,if_false]
  · rfl

theorem setInstructionAccess_here {cp15 : armcp15_t} {num : Fin 8}
    (executes : access.executes = true)
    (defined : permission cp15 access num ≠ 5) :
    arrays (setInstructionAccess cp15 num mask set) access num =
      granted (permits (permission cp15 access num) access) (mask, set) := by
  have instruction : permission cp15 access num = CP15_ACCESSTYPE cp15.IaccessPerm num := by
    unfold permission
    rw [if_pos executes]
  rw [instruction] at defined ⊢
  unfold setInstructionAccess
  rw [instructionCases_permits defined]
  simp only [setAccess_arrays]
  cases access with
  | WRITEUSR => exact Bool.noConfusion executes
  | WRITESYS => exact Bool.noConfusion executes
  | READUSR => exact Bool.noConfusion executes
  | READSYS => exact Bool.noConfusion executes
  | EXECUSR => simp
  | EXECSYS => simp

theorem setSingleRegionAccess_registers :
    SameRegisters cp15 (setSingleRegionAccess cp15 num mask set) :=
  (setDataAccess_registers ..).trans (setInstructionAccess_registers ..)

theorem setSingleRegionAccess_other (access : Access) (apart : i ≠ num) :
    arrays (setSingleRegionAccess cp15 num mask set) access i = arrays cp15 access i := by
  unfold setSingleRegionAccess
  rw [setInstructionAccess_data _ _ _ _ (Or.inr apart),setDataAccess_arrays,
    if_neg (fun both => apart both.2)]

theorem setSingleRegionAccess_here {cp15 : armcp15_t} {num : Fin 8}
    (defined : Defined cp15 access num) :
    arrays (setSingleRegionAccess cp15 num mask set) access num =
      granted (permits (permission cp15 access num) access) (mask, set) := by
  have same := setDataAccess_registers cp15 num mask set
  unfold setSingleRegionAccess
  cases executes : access.executes with
  | false =>
      rw [setInstructionAccess_data _ _ _ _ (Or.inl executes),setDataAccess_arrays,
        if_pos ⟨executes,rfl⟩]
  | true =>
      have known := defined executes
      rw [← same.permission] at known ⊢
      exact setInstructionAccess_here mask set executes known

/-- The arrays of a region are those of its registers, but for an instruction
permission 5. -/
def Current (cp15 : armcp15_t) (i : Fin 8) : Prop :=
  ∀ access, Defined cp15 access i →
    arrays cp15 access i =
      granted (permits (permission cp15 access i) access) (regionMaskSet (cp15.protectBaseSize i))

structure SameRegion (before after : armcp15_t) (i : Fin 8) : Prop where
  registers : SameRegisters before after
  arrays : ∀ access, Cp15.arrays after access i = Cp15.arrays before access i

theorem Current.of_same {before after : armcp15_t} (current : Current before i)
    (same : SameRegion before after i) : Current after i := by
  intro access defined
  unfold Defined at defined
  rw [same.registers.permission] at defined
  rw [same.arrays,same.registers.permission,same.registers.regions]
  exact current access defined

theorem precalc_registers : SameRegisters cp15 (precalc cp15 num) :=
  setSingleRegionAccess_registers ..

theorem precalc_current : Current (precalc cp15 num) num := by
  have same := precalc_registers cp15 num
  intro access defined
  unfold Defined at defined
  rw [same.permission] at defined ⊢
  rw [same.regions]
  exact setSingleRegionAccess_here _ _ defined

theorem precalc_other {num : Fin 8} (apart : i ≠ num) : SameRegion cp15 (precalc cp15 num) i :=
  ⟨precalc_registers cp15 num,fun access => setSingleRegionAccess_other _ _ _ _ access apart⟩

theorem precalcs_current (nums : List (Fin 8)) (cp15 : armcp15_t)
    (known : i ∈ nums ∨ Current cp15 i) : Current (nums.foldl precalc cp15) i := by
  induction nums generalizing cp15 with
  | nil => exact known.resolve_left List.not_mem_nil
  | cons num rest ih =>
      rw [List.foldl_cons]
      by_cases here : i = num
      · subst here
        exact ih _ (Or.inr (precalc_current cp15 i))
      · apply ih
        rcases known with member | current
        · exact Or.inl ((List.mem_cons.mp member).resolve_left here)
        · exact Or.inr (current.of_same (precalc_other cp15 here))

theorem maskPrecalc_current (i : Fin 8) : Current (maskPrecalc cp15) i :=
  precalcs_current _ cp15 (Or.inl (List.mem_finRange i))

/-! ### Runs -/

def step (st : armcp15_t × Machine) (move : Move) : armcp15_t × Machine :=
  let moved := moveARM2CP st.1 st.2 move
  (moved.1, moved.2.1)

def Refreshes (move : Move) : Prop :=
  move.userMode = false ∧ move.opcode1 = 0 ∧
    ((move.CRn = 5 ∧ move.CRm = 0 ∧ (move.opcode2 = 2 ∨ move.opcode2 = 3)) ∨
      (move.CRn = 6 ∧ move.CRm < 8 ∧ move.opcode2 = 0))

theorem refreshed {move : Move} (refreshes : Refreshes move) (cp15 : armcp15_t)
    (m : Machine) (i : Fin 8) : Current (moveARM2CP cp15 m move).1 i := by
  obtain ⟨userMode,val,CRn,CRm,opcode1,opcode2⟩ := move
  obtain ⟨privileged,first,⟨permission,rm,second⟩ | ⟨region,rm,second⟩⟩ := refreshes
  · simp only at privileged first permission rm second
    subst privileged first permission rm
    rcases second with rfl | rfl
    · exact maskPrecalc_current _ i
    · exact maskPrecalc_current _ i
  · simp only at privileged first region rm second
    subst privileged first region second
    have written : moveARM2CP cp15 m ⟨false,val,6,CRm,0,0⟩ =
        (maskPrecalc
          { cp15 with
            protectBaseSize := update cp15.protectBaseSize ⟨CRm,rm⟩ val },
          m, true) := by
      simp only [moveARM2CP,Bool.false_eq_true,if_false,and_self,if_true,rm,dif_pos]
    rw [written]
    exact maskPrecalc_current _ i

end Desmume.Cp15
