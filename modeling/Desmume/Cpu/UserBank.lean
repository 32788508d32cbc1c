/-
The transfers of the user bank: which registers they store and load, and which
copy of the base they write back.

The handlers switch to SYS, walk the list, and switch back. All with write-back
but `OP_STMIB2_W` write the base in between, into the user bank.
-/

import Desmume.Cpu.BlockRoundTrip

namespace Desmume.Cpu

open Function (update update_eq_self update_of_ne update_self)

open Thumb (Bus)

def Cell.number : Cell → Nat
  | .low reg => reg
  | .middle _ reg => 8 + reg
  | .stack _ reg => 13 + reg
  | .spsr _ => 15

theorem number_visible (current : Bank) (reg : Fin 15) : (visible current reg).number = reg := by
  rcases register_cases reg with ⟨low,rfl⟩ | ⟨middle,rfl⟩ | ⟨stack,rfl⟩
  · rw [visible_low]
    rfl
  · rw [visible_middle]
    rfl
  · rw [visible_stack]
    rfl

theorem visible_injective {current other : Bank} {reg reg' : Fin 15}
    (same : visible current reg = visible other reg') : reg = reg' := by
  have numbers := congrArg Cell.number same
  rw [number_visible,number_visible] at numbers
  exact Fin.ext numbers

def SharesBase (old : Mode) (base : Fin 16) : Prop :=
  base.val < 8 ∨ base.val = 15 ∨ base.val < 13 ∧ old ≠ .FIQ

instance (old : Mode) (base : Fin 16) : Decidable (SharesBase old base) :=
  inferInstanceAs (Decidable (_ ∨ _ ∨ _))

theorem shares_iff {old : Mode} (exceptional : old.bank ≠ .usr) (reg : Fin 15) :
    SharesBase old reg.castSucc ↔ visible .usr reg = visible old.bank reg := by
  revert exceptional reg
  cases old <;> decide

theorem contents_unlisted (current : Bank) {before after : armcpu_t} {listed : Fin 15 → Prop}
    (banks : SameBanks before after)
    (regs : ∀ reg, ¬ listed reg → after.R reg.castSucc = before.R reg.castSucc) {cell : Cell}
    (free : ∀ reg, listed reg → cell ≠ visible current reg) :
    contents current after cell = contents current before cell := by
  have seen (reg : Fin 15) (here : cell = visible current reg) :
      contents current after cell = contents current before cell := by
    rw [here,contents_visible,contents_visible]
    exact regs reg fun present => free reg present here
  cases cell with
  | low reg => exact seen (lowIndex reg) (visible_low current reg).symm
  | middle fiq reg =>
      by_cases active : fiq = (current == .fiq)
      · exact seen (middleIndex reg) (by rw [visible_middle,active])
      · simp only [contents,if_neg active]
        rw [banks]
        rfl
  | stack bank reg =>
      by_cases active : bank = current
      · exact seen (stackIndex reg) (by rw [visible_stack,active])
      · simp only [contents,if_neg active]
        rw [banks]
        rfl
  | spsr bank =>
      rw [banks]
      rfl

theorem CPSR_switchMode (cpu : armcpu_t) (mode : u8) :
    (armcpu_switchMode cpu mode).1.CPSR = cpu.CPSR.setMode mode := by
  have saved (mode : Option Mode) : (saveBank cpu mode).CPSR = cpu.CPSR := by
    cases mode with
    | none => rfl
    | some mode => cases mode <;> rfl
  have loaded (cpu : armcpu_t) (mode : Option Mode) : (loadBank cpu mode).CPSR = cpu.CPSR := by
    cases mode with
    | none => rfl
    | some mode => cases mode <;> rfl
  have kept := (loaded (saveBank cpu (Mode.decode cpu.CPSR.mode)) (Mode.decode mode.toNat)).trans
    (saved _)
  exact congrArg (fun status => Status_Reg.setMode status mode) kept

theorem setMode_setMode (reg : Status_Reg) (first : u8) (old : Mode) (valid : reg.mode = old.code) :
    (reg.setMode first).setMode (BitVec.ofNat 8 old.code) = reg := by
  have low : reg &&& 0x1F = BitVec.ofNat 32 old.code := by
    apply BitVec.eq_of_toNat_eq
    refine Eq.trans valid ?_
    cases old <;> rfl
  have entered : (BitVec.ofNat 8 old.code &&& 0x1F).setWidth 32 = BitVec.ofNat 32 old.code := by
    cases old <;> rfl
  have masked : (first &&& 0x1F).setWidth 32 &&& ~~~(0x1F : u32) = 0#32 := by
    apply BitVec.eq_of_getLsbD_eq
    intro idx bound
    interval_cases idx <;> simp
  have whole : reg &&& ~~~0x1F ||| reg &&& 0x1F = reg := by
    rw [← BitVec.and_or_distrib_left]
    exact BitVec.and_allOnes
  unfold Status_Reg.setMode
  rw [entered,BitVec.and_or_distrib_right,BitVec.and_assoc,BitVec.and_self,masked,
    BitVec.or_zero,← low]
  exact whole

section

variable {cpu : armcpu_t} {old : Mode} (valid : cpu.CPSR.mode = old.code)

def toSYS (cpu : armcpu_t) : armcpu_t :=
  (armcpu_switchMode cpu (BitVec.ofNat 8 Mode.SYS.code)).1

def userValue (old : Mode) (cpu : armcpu_t) (b : Fin 16) : u32 :=
  if inside : b.val < 15 then contents old.bank cpu (visible .usr ⟨b,inside⟩) else cpu.R 15

include valid

theorem contents_toSYS : contents .usr (toSYS cpu) = contents old.bank cpu :=
  (contents_switchMode cpu old .SYS valid).2

theorem toSYS_R : (toSYS cpu).R = userValue old cpu := by
  funext b
  unfold userValue
  by_cases inside : b.val < 15
  · rw [dif_pos inside,← contents_toSYS valid,contents_visible]
    rfl
  · have pc : b = 15 := Fin.ext (by omega)
    rw [dif_neg inside,pc]
    exact R15_switchMode cpu _

theorem switchBack_spec (worked : armcpu_t) (status : worked.CPSR = (toSYS cpu).CPSR) :
    contents old.bank (switchBack worked old.code) = contents .usr worked ∧
      (switchBack worked old.code).CPSR = cpu.CPSR ∧
      (switchBack worked old.code).R 15 = worked.R 15 := by
  have inSYS : worked.CPSR.mode = Mode.SYS.code := by
    rw [status]
    exact (contents_switchMode cpu old .SYS valid).1
  refine ⟨(contents_switchMode worked .SYS old inSYS).2,?_,R15_switchMode worked _⟩
  unfold switchBack
  rw [CPSR_switchMode,status,toSYS,CPSR_switchMode]
  exact setMode_setMode cpu.CPSR _ old valid

end

section

variable {Memory : Type} (bus : Bus Memory) (READ32 : u32 → u32) (i : u32) (mode : Addressing)
  (writesBack : Bool) (old : Mode) (cpu : armcpu_t)

def withBase (writesBack : Bool) : armcpu_t :=
  if writesBack then setR cpu (REG_POS i 16) (baseAfter i mode cpu) else cpu

/-- The user's registers are stored, in the same mode again nothing but the base is
changed, and the base is that of the executing mode. -/
structure StoresUserBank (mem : Memory) (after : armcpu_t × Memory) : Prop where
  stored : after.2 =
    storedBlock bus i (cpu.R (REG_POS i 16)) mode mem (userValue old cpu)
  status : after.1.CPSR = cpu.CPSR
  banks : contents old.bank after.1 = contents old.bank (withBase i mode cpu writesBack)
  pc : after.1.R 15 = (withBase i mode cpu writesBack).R 15

def loadWritesBase : Bool := writesBack && !BIT_N i (REG_POS i 16)

/-- The user's registers are loaded, and all else is as for a store. -/
structure LoadsUserBank (after : armcpu_t) : Prop where
  loaded : ∀ reg : Fin 15, BIT_N i reg.val = true →
    contents old.bank after (visible .usr reg) =
      READ32 (wordAddress i (cpu.R (REG_POS i 16)) mode reg)
  others : ∀ cell, (∀ reg : Fin 15, BIT_N i reg.val = true → cell ≠ visible .usr reg) →
    contents old.bank after cell =
      contents old.bank (withBase i mode cpu (loadWritesBase i writesBack)) cell
  status : after.CPSR = cpu.CPSR
  pc : after.R 15 = (withBase i mode cpu (loadWritesBase i writesBack)).R 15

def SameBase : Prop :=
  SharesBase old (REG_POS i 16) ∨
    rank i 16 = 0 ∧ userValue old cpu (REG_POS i 16) = cpu.R (REG_POS i 16)

end

theorem writtenBack_eq_iff (i base : u32) (mode : Addressing) :
    writtenBack base (rank i 16) mode = base ↔ rank i 16 = 0 := by
  have small : rank i 16 ≤ 16 := by
    have counted := List.countP_le_length (p := BIT_N i) (l := List.range 16)
    rwa [List.length_range] at counted
  generalize rank i 16 = n at small
  have val : (4 * (n : u32)).toNat = 4 * n := by
    have cast : (n : u32) = BitVec.ofNat 32 n := rfl
    rw [cast,BitVec.toNat_mul,BitVec.toNat_ofNat]
    change 4 * (n % 2 ^ 32) % 2 ^ 32 = 4 * n
    omega
  have zero : 4 * (n : u32) = 0 ↔ n = 0 := by
    rw [← BitVec.toNat_inj,val]
    change 4 * n = 0 ↔ n = 0
    omega
  rw [← zero]
  cases mode with
  | IA | IB => exact add_eq_left
  | DA | DB => exact sub_eq_self

theorem update_eq_update_iff (cells : Cell → u32) {user own : Cell} (ne : user ≠ own) (val : u32) :
    update cells user val = update cells own val ↔
      cells user = val ∧ cells own = val := by
  constructor
  · intro same
    have first := congrFun same user
    have second := congrFun same own
    rw [update_self,update_of_ne ne] at first
    rw [update_self,update_of_ne ne.symm] at second
    exact ⟨first.symm,second⟩
  · rintro ⟨first,second⟩
    rw [← first,update_eq_self,first,← second,update_eq_self]

theorem contents_base (bank : Bank) (cpu : armcpu_t) (reg : Fin 16) (val : u32) :
    contents bank (setR cpu reg val) =
      if inside : reg.val < 15 then
        update (contents bank cpu) (visible bank ⟨reg,inside⟩) val
      else contents bank cpu := by
  by_cases inside : reg.val < 15
  · rw [dif_pos inside]
    exact contents_setR bank cpu ⟨reg,inside⟩ val
  · have pc : reg = 15 := Fin.ext (by omega)
    rw [dif_neg inside,pc]
    exact contents_R15 bank cpu val

theorem R15_setR {left right : armcpu_t} (same : left.R 15 = right.R 15) (reg : Fin 16)
    (val : u32) : (setR left reg val).R 15 = (setR right reg val).R 15 := by
  change update left.R reg val 15 = update right.R reg val 15
  by_cases pc : 15 = reg
  · rw [← pc,update_self,update_self]
  · rw [update_of_ne pc,update_of_ne pc]
    exact same

def Addressing.macros : Addressing → List (Fin 15)
  | .IA | .IB => upwards
  | .DA | .DB => downwards

section

variable (READ32 : u32 → u32) (i : u32) (noPC : BIT15 i = false) (mode : Addressing)
  (cpu : armcpu_t) (base : u32)

def userLoads : armcpu_t :=
  (mode.macros.foldl (OP_L READ32 i mode.before mode.after) (cpu, base)).1

include noPC

theorem rank_noPC : rank i 16 = rank i 15 := by
  have absent : ¬ BIT_N i 15 = true := by
    rw [show BIT_N i 15 = false from noPC]
    exact Bool.false_ne_true
  rw [rank,List.range_succ,List.countP_append,List.countP_cons_of_neg absent]
  rfl

theorem macros_start :
    (mode.macros.foldl (OP_L READ32 i mode.before mode.after) (cpu, base)).2 =
      writtenBack base (rank i 16) mode := by
  rw [rank_noPC i noPC]
  cases mode with
  | IA => exact start_upwards READ32 i cpu base 0 4 rfl
  | IB => exact start_upwards READ32 i cpu base 4 0 rfl
  | DA => exact start_downwards READ32 i cpu base 0 (-4) rfl
  | DB => exact start_downwards READ32 i cpu base (-4) 0 rfl

theorem userLoads_downwards (before after : u32) (step : before + after = -4) (reg : Fin 15) :
    (downwards.foldl (OP_L READ32 i before after) (cpu, base)).1.R reg.castSucc =
      if BIT_N i reg then
        READ32 (base - 4 * (rank i 16 : u32) + 4 + before + 4 * (rank i reg : u32))
      else cpu.R reg.castSucc := by
  have turn := foldl_OP_L_turn READ32 i before after _ _ reg (downwards_once reg) cpu base
  rw [← downwards_split,listedIn_reverse,step] at turn
  rw [turn]
  by_cases present : BIT_N i reg = true
  · have counted := listedIn_drop i reg present
    have addr : base + -4 * (listedIn i (upwards.drop (reg + 1)) : u32) + before =
        base - 4 * (rank i 16 : u32) + 4 + before + 4 * (rank i reg : u32) := by
      rw [rank_noPC i noPC,← counted,Nat.cast_add,Nat.cast_succ]
      ring
    rw [if_pos present,if_pos present,addr]
  · rw [if_neg present,if_neg present]

theorem userLoads_R (reg : Fin 15) :
    (userLoads READ32 i mode cpu base).R reg.castSucc =
      if BIT_N i reg then READ32 (wordAddress i base mode reg) else cpu.R reg.castSucc := by
  cases mode with
  | IA => exact loads_IA READ32 i cpu base reg
  | IB => exact loads_IB READ32 i cpu base reg
  | DA =>
      have turn := userLoads_downwards READ32 i noPC cpu base 0 (-4) rfl reg
      rw [add_zero] at turn
      exact turn
  | DB =>
      have still : (4 : u32) + -4 = 0 := rfl
      have turn := userLoads_downwards READ32 i noPC cpu base (-4) 0 rfl reg
      rw [add_assoc _ (4 : u32),still,add_zero] at turn
      exact turn

end

theorem sameBanks_userLoads (READ32 : u32 → u32) (i : u32) (mode : Addressing) (cpu : armcpu_t)
    (base : u32) : SameBanks cpu (userLoads READ32 i mode cpu base) :=
  sameBanks_loads READ32 i _ _ _ cpu base

theorem userLoads_R15 (READ32 : u32 → u32) (i : u32) (mode : Addressing) (cpu : armcpu_t)
    (base : u32) : (userLoads READ32 i mode cpu base).R 15 = cpu.R 15 :=
  foldl_OP_L_other READ32 i _ _ _ cpu base 15 fun other _ => (Fin.castSucc_lt_last other).ne'

theorem SameBanks.setR {before after : armcpu_t} (same : SameBanks before after) (reg : Fin 16)
    (val : u32) : SameBanks (Cpu.setR before reg val) (Cpu.setR after reg val) := by
  unfold SameBanks at same
  rw [same]
  rfl

theorem setR_unlisted {i : u32} (absent : BIT_N i (REG_POS i 16) = false) (cpu : armcpu_t)
    (val : u32) {reg : Fin 15} (present : BIT_N i reg = true) :
    (setR cpu (REG_POS i 16) val).R reg.castSucc = cpu.R reg.castSucc := by
  apply update_of_ne
  intro same
  rw [← same] at absent
  exact Bool.false_ne_true (absent.symm.trans present)

theorem userLoads_others (READ32 : u32 → u32) {i : u32} (mode : Addressing) (cpu : armcpu_t)
    {cell : Cell} (free : ∀ reg : Fin 15, BIT_N i reg = true → cell ≠ visible .usr reg)
    (noPC : BIT15 i = false) (base : u32) (reg : Fin 16) (val : u32) :
    contents .usr (userLoads READ32 i mode cpu base) cell =
        contents .usr cpu cell ∧
      contents .usr (setR (userLoads READ32 i mode cpu base) reg val) cell =
        contents .usr (setR cpu reg val) cell := by
  have banks := sameBanks_userLoads READ32 i mode cpu base
  have kept (other : Fin 15) (absent : ¬ BIT_N i other = true) :
      (userLoads READ32 i mode cpu base).R other.castSucc =
        cpu.R other.castSucc := by
    rw [userLoads_R READ32 i noPC,if_neg absent]
  refine ⟨contents_unlisted .usr banks kept free,
    contents_unlisted .usr (banks.setR reg val) (fun other absent => ?_) free⟩
  change update (userLoads READ32 i mode cpu base).R reg val other.castSucc =
    update cpu.R reg val other.castSucc
  by_cases here : other.castSucc = reg
  · rw [here,update_self,update_self]
  · rw [update_of_ne here,update_of_ne here]
    exact kept other absent

section

variable {Memory : Type} {bus : Bus Memory} {READ32 : u32 → u32} {i : u32} {mode : Addressing}
  {old : Mode} {cpu : armcpu_t} {mem : Memory}
  (valid : cpu.CPSR.mode = old.code) (exceptional : old.bank ≠ .usr)

include valid exceptional

theorem notUser : inUSR cpu = false ∧ inUserMode cpu = false := by
  unfold inUSR inUserMode
  rw [valid]
  cases old <;> first | exact absurd rfl exceptional | exact ⟨rfl,rfl⟩

theorem STM2_eq (writesBack : Bool) :
    STM2 bus i mode writesBack cpu mem =
      (if writesBack then
          if mode = .IB then
            setR (switchBack (toSYS cpu) old.code) (REG_POS i 16) (baseAfter i mode cpu)
          else switchBack (setR (toSYS cpu) (REG_POS i 16) (baseAfter i mode cpu)) old.code
        else switchBack (toSYS cpu) old.code,
        storedBlock bus i (cpu.R (REG_POS i 16)) mode mem (userValue old cpu)) := by
  have walk := foldl_storeRound bus i (cpu.R (REG_POS i 16)) mode (toSYS cpu) mem
  rw [toSYS_R valid] at walk
  have handler (store : armcpu_t → Memory → u32 → Memory × u32)
      (finish : armcpu_t → Nat → u32 → armcpu_t)
      (stores : store (toSYS cpu) mem (cpu.R (REG_POS i 16)) =
        (storedBlock bus i (cpu.R (REG_POS i 16)) mode mem (userValue old cpu),
          baseAfter i mode cpu)) :
      storeUserBank i cpu mem store finish =
        (finish (toSYS cpu) old.code (baseAfter i mode cpu),
          storedBlock bus i (cpu.R (REG_POS i 16)) mode mem (userValue old cpu)) := by
    unfold storeUserBank
    rw [if_neg (by rw [(notUser valid exceptional).1]; exact Bool.false_ne_true),← valid]
    change (finish (toSYS cpu) cpu.CPSR.mode
      (store (toSYS cpu) mem (cpu.R (REG_POS i 16))).2,
      (store (toSYS cpu) mem (cpu.R (REG_POS i 16))).1) = _
    rw [stores]
  have shape : STM2 bus i mode writesBack cpu mem = storeUserBank i cpu mem
      (fun cpu mem start =>
        mode.order.foldl (storeRound bus i cpu mode.before mode.after) (mem, start))
      (fun cpu oldmode start =>
        if writesBack then
          if mode = .IB then setR (switchBack cpu oldmode) (REG_POS i 16) start
          else switchBack (setR cpu (REG_POS i 16) start) oldmode
        else switchBack cpu oldmode) := by
    cases mode <;> cases writesBack <;> rfl
  rw [shape]
  exact handler _ _ walk

theorem base_cells_iff :
    contents .usr (setR (toSYS cpu) (REG_POS i 16) (baseAfter i mode cpu)) =
        contents old.bank (setR cpu (REG_POS i 16) (baseAfter i mode cpu)) ↔
      SameBase i old cpu := by
  rw [contents_base,contents_base,contents_toSYS valid]
  unfold SameBase
  generalize named : REG_POS i 16 = base
  by_cases inside : base.val < 15
  · rw [dif_pos inside,dif_pos inside]
    have shares := shares_iff exceptional ⟨base.val,inside⟩
    change SharesBase old base ↔ _ at shares
    by_cases shared : SharesBase old base
    · rw [shares.mp shared]
      exact iff_of_true rfl (.inl shared)
    · have user : userValue old cpu base = contents old.bank cpu (visible .usr ⟨base,inside⟩) :=
        dif_pos inside
      have own : contents old.bank cpu (visible old.bank ⟨base,inside⟩) = cpu.R base :=
        contents_visible old.bank cpu ⟨base,inside⟩
      have val : baseAfter i mode cpu = cpu.R base ↔ rank i 16 = 0 := by
        unfold baseAfter
        rw [named]
        exact writtenBack_eq_iff i _ mode
      rw [update_eq_update_iff _ (fun same => shared (shares.mpr same)),or_iff_right shared,own,
        ← user,← val]
      constructor
      · rintro ⟨first,second⟩
        exact ⟨second.symm,first.trans second.symm⟩
      · rintro ⟨first,second⟩
        exact ⟨second.trans first.symm,first.symm⟩
  · rw [dif_neg inside,dif_neg inside]
    exact iff_of_true rfl (.inl (.inr (.inl (by omega))))

theorem stores_iff (writesBack : Bool) :
    StoresUserBank bus i mode writesBack old cpu mem
        (STM2 bus i mode writesBack cpu mem) ↔
      writesBack = false ∨ mode = .IB ∨ SameBase i old cpu := by
  have cells : contents .usr (setR (toSYS cpu) (REG_POS i 16) (baseAfter i mode cpu)) =
      contents old.bank (setR cpu (REG_POS i 16) (baseAfter i mode cpu)) ↔ SameBase i old cpu :=
    base_cells_iff valid exceptional
  have entered : (toSYS cpu).R 15 = cpu.R 15 := R15_switchMode cpu _
  rw [STM2_eq valid exceptional]
  cases writesBack with
  | false =>
      obtain ⟨banks,status,pc⟩ := switchBack_spec valid (toSYS cpu) rfl
      refine iff_of_true ⟨rfl,status,?_,?_⟩ (.inl rfl)
      · exact banks.trans (contents_toSYS valid)
      · exact pc.trans entered
  | true =>
      rw [if_pos rfl]
      by_cases late : mode = .IB
      · obtain ⟨banks,status,pc⟩ := switchBack_spec valid (toSYS cpu) rfl
        rw [if_pos late]
        refine iff_of_true ⟨rfl,status,?_,R15_setR (pc.trans entered) _ _⟩ (.inr (.inl late))
        change contents old.bank (setR _ _ _) = contents old.bank (setR _ _ _)
        rw [contents_base,contents_base,banks,contents_toSYS valid]
      · obtain ⟨banks,status,pc⟩ := switchBack_spec valid
          (setR (toSYS cpu) (REG_POS i 16) (baseAfter i mode cpu)) rfl
        rw [if_neg late]
        constructor
        · intro stores
          exact .inr (.inr (cells.mp (banks.symm.trans stores.banks)))
        · rintro (never | late' | same)
          · cases never
          · exact absurd late' late
          · exact ⟨rfl,status,banks.trans (cells.mpr same),pc.trans (R15_setR entered _ _)⟩

theorem LDM2_eq (noPC : BIT15 i = false) (writesBack : Bool) :
    LDM2 READ32 i mode writesBack cpu =
      switchBack
        (if loadWritesBase i writesBack then
          setR (userLoads READ32 i mode (toSYS cpu) (cpu.R (REG_POS i 16))) (REG_POS i 16)
            (baseAfter i mode cpu)
        else userLoads READ32 i mode (toSYS cpu) (cpu.R (REG_POS i 16))) old.code := by
  have behind := macros_start READ32 i noPC mode (toSYS cpu) (cpu.R (REG_POS i 16))
  have shape : LDM2 READ32 i mode writesBack cpu =
      loadUserBank (fun switched =>
        if writesBack then
          writeBack i (userLoads READ32 i mode switched (cpu.R (REG_POS i 16)))
            (mode.macros.foldl (OP_L READ32 i mode.before mode.after)
              (switched, cpu.R (REG_POS i 16))).2
        else userLoads READ32 i mode switched (cpu.R (REG_POS i 16))) cpu := by
    cases mode <;> cases writesBack <;> exact if_pos noPC
  rw [shape]
  unfold loadUserBank
  rw [if_neg (by rw [(notUser valid exceptional).2]; exact Bool.false_ne_true),← valid]
  dsimp only
  refine congrArg (fun worked => switchBack worked cpu.CPSR.mode) ?_
  cases writesBack with
  | false => rfl
  | true =>
      change writeBack i _ (mode.macros.foldl (OP_L READ32 i mode.before mode.after)
        (toSYS cpu, cpu.R (REG_POS i 16))).2 = _
      rw [behind]
      unfold writeBack loadWritesBase
      cases listed : BIT_N i (REG_POS i 16) with
      | false => rfl
      | true => rfl

theorem loads_iff (noPC : BIT15 i = false) (writesBack : Bool) :
    LoadsUserBank READ32 i mode writesBack old cpu (LDM2 READ32 i mode writesBack cpu) ↔
      writesBack = false ∨ BIT_N i (REG_POS i 16) = true ∨ SameBase i old cpu := by
  have cells : contents .usr (setR (toSYS cpu) (REG_POS i 16) (baseAfter i mode cpu)) =
      contents old.bank (setR cpu (REG_POS i 16) (baseAfter i mode cpu)) ↔ SameBase i old cpu :=
    base_cells_iff valid exceptional
  have entered : (userLoads READ32 i mode (toSYS cpu) (cpu.R (REG_POS i 16))).R 15 = cpu.R 15 :=
    (userLoads_R15 READ32 i mode (toSYS cpu) _).trans (R15_switchMode cpu _)
  have word (reg : Fin 15) (present : BIT_N i reg = true) :
      (userLoads READ32 i mode (toSYS cpu) (cpu.R (REG_POS i 16))).R reg.castSucc =
        READ32 (wordAddress i (cpu.R (REG_POS i 16)) mode reg) := by
    rw [userLoads_R READ32 i noPC,if_pos present]
  rw [LDM2_eq valid exceptional noPC]
  cases written : loadWritesBase i writesBack with
  | false =>
      have never : writesBack = false ∨ BIT_N i (REG_POS i 16) = true := by
        unfold loadWritesBase at written
        revert written
        cases writesBack <;> cases BIT_N i (REG_POS i 16) <;> decide
      obtain ⟨banks,status,pc⟩ := switchBack_spec valid
        (userLoads READ32 i mode (toSYS cpu) (cpu.R (REG_POS i 16)))
        (loads_CPSR READ32 i _ _ _ _ _)
      rw [if_neg Bool.false_ne_true]
      refine iff_of_true ?_ (or_assoc.mp (.inl never))
      constructor
      · intro reg present
        rw [banks,contents_visible]
        exact word reg present
      · intro cell free
        rw [banks,written,
          (userLoads_others READ32 mode (toSYS cpu) free noPC _ (REG_POS i 16) 0).1,
          contents_toSYS valid]
        rfl
      · exact status
      · rw [written]
        exact pc.trans entered
  | true =>
      obtain ⟨back,absent⟩ : writesBack = true ∧ BIT_N i (REG_POS i 16) = false := by
        unfold loadWritesBase at written
        revert written
        cases writesBack <;> cases BIT_N i (REG_POS i 16) <;> decide
      have inUser (cell : Cell)
          (free : ∀ reg : Fin 15, BIT_N i reg = true → cell ≠ visible .usr reg) :=
        (userLoads_others READ32 mode (toSYS cpu) free noPC (cpu.R (REG_POS i 16)) (REG_POS i 16)
          (baseAfter i mode cpu)).2
      obtain ⟨banks,status,pc⟩ := switchBack_spec valid
        (setR (userLoads READ32 i mode (toSYS cpu) (cpu.R (REG_POS i 16))) (REG_POS i 16)
          (baseAfter i mode cpu)) (loads_CPSR READ32 i _ _ _ _ _)
      rw [if_pos rfl,← cells,or_iff_right (by rw [back]; exact Bool.noConfusion),
        or_iff_right (by rw [absent]; exact Bool.noConfusion)]
      constructor
      · intro loads
        funext cell
        by_cases covered : ∃ reg : Fin 15, BIT_N i reg = true ∧ cell = visible .usr reg
        · obtain ⟨reg,present,rfl⟩ := covered
          have val : userValue old cpu reg.castSucc = contents old.bank cpu (visible .usr reg) :=
            dif_pos reg.isLt
          rw [contents_visible,setR_unlisted absent _ _ present,toSYS_R valid,val,
            contents_base]
          split
          next inside =>
            -- The base is another register, in whatever bank.
            refine (update_of_ne (fun here => ?_) _ _).symm
            have same := congrArg Fin.val (visible_injective here)
            change reg.val = (REG_POS i 16).val at same
            rw [← same,present] at absent
            cases absent
          next => rfl
        · have free : ∀ reg : Fin 15, BIT_N i reg = true → cell ≠ visible .usr reg :=
            fun reg present same => covered ⟨reg,present,same⟩
          rw [← inUser cell free,← banks,loads.others cell free,written]
          rfl
      · intro same
        constructor
        · intro reg present
          rw [banks,contents_visible,setR_unlisted absent _ _ present]
          exact word reg present
        · intro cell free
          rw [banks,inUser cell free,same,written]
          rfl
        · exact status
        · rw [written]
          exact pc.trans (R15_setR entered _ _)

end

/-- In an exception mode the transfers of a list without R15 touch the user bank, and the
base of the executing mode, except that the base is written to the user bank by all handlers
with write-back but `OP_STMIB2_W`. -/
theorem user_bank_transfers_iff {Memory : Type} (bus : Bus Memory) (READ32 : u32 → u32) (i : u32)
    (mode : Addressing) (writesBack : Bool) (old : Mode) (cpu : armcpu_t) (mem : Memory)
    (valid : cpu.CPSR.mode = old.code) (exceptional : old.bank ≠ .usr) (noPC : BIT15 i = false) :
    (StoresUserBank bus i mode writesBack old cpu mem
        (STM2 bus i mode writesBack cpu mem) ↔
      writesBack = false ∨ mode = .IB ∨ SameBase i old cpu) ∧
    (LoadsUserBank READ32 i mode writesBack old cpu (LDM2 READ32 i mode writesBack cpu) ↔
      writesBack = false ∨ BIT_N i (REG_POS i 16) = true ∨ SameBase i old cpu) :=
  ⟨stores_iff valid exceptional writesBack,loads_iff valid exceptional noPC writesBack⟩

def inIRQ : armcpu_t :=
  { armcpu_t.initial with
    CPSR := 0x12
    R := fun _ => 0x02001000
    R13_usr := 0x02002000 }

/-- `STMIB R13!, {R0, R14}^` in the interrupt handler, and the loads without write-back. -/
theorem user_bank_transfers_irq :
    let bus : Bus (u32 → u32) :=
      { read32 := fun mem adr => (mem adr, mem)
        write32 := fun mem adr val => update mem adr val }
    StoresUserBank bus 0xE9ED4001 .IB true .IRQ inIRQ (fun _ => 0)
        (OP_STMIB2_W bus 0xE9ED4001 inIRQ (fun _ => 0)) ∧
      LoadsUserBank (fun adr => adr) 0xE9DD4001 .IB false .IRQ inIRQ
        (OP_LDMIB2 (fun adr => adr) 0xE9DD4001 inIRQ) := by
  intro bus
  have valid : inIRQ.CPSR.mode = Mode.IRQ.code := by decide
  exact ⟨(user_bank_transfers_iff bus (fun adr => adr) 0xE9ED4001 .IB true .IRQ inIRQ (fun _ => 0)
      valid (by decide) (by decide)).1.mpr (.inr (.inl rfl)),
    (user_bank_transfers_iff bus (fun adr => adr) 0xE9DD4001 .IB false .IRQ inIRQ (fun _ => 0)
      valid (by decide) (by decide)).2.mpr (.inl rfl)⟩

/-- `STMIA R13!, {R0, R14}^` leaves the handler's stack pointer where it was and moves that
of the user. -/
theorem store_writes_user_base :
    ¬ ∀ (bus : Bus Unit) (i : u32) (mode : Addressing) (writesBack : Bool) (old : Mode)
      (cpu : armcpu_t), cpu.CPSR.mode = old.code → old.bank ≠ .usr → BIT15 i = false →
      StoresUserBank bus i mode writesBack old cpu () (STM2 bus i mode writesBack cpu ()) := by
  intro all
  have banks := (all ⟨fun mem _ => (0, mem), fun mem _ _ => mem⟩ 0xE8ED4001 .IA true
    .IRQ inIRQ (by decide) (by decide) (by decide)).banks
  have own := congrFun banks (.stack .irq 0)
  revert own
  decide +kernel

end Desmume.Cpu
