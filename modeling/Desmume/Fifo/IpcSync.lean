/-
IPCSYNC under bus writes of every width: `MMU_IPCSync` and the handlers that
reach it.

The register of each processor has a data-out nibble in bits 8 to 11 and shows
the other's as its data-in nibble in bits 0 to 3.
-/

import Desmume.Fifo.IpcStatus

namespace Desmume.IpcSync

open Function (update update_of_ne update_self)

open Ipc (pageOffset NDS_Reschedule NDS_makeIrq)

def REG_IPCSYNC : u32 := 0x04000180
def IPCSYNC_IRQ_SEND : u32 := 0x2000
def IPCSYNC_IRQ_RECV : u32 := 0x4000
def IRQ_BIT_IPCSYNC : Nat := 16

/-- The register pages and interrupts, and the Ensata fields of `nds`. -/
structure State extends Ipc.State where
  ensataEmulation : Bool
  ensataIpcSyncCounter : u32

/-- `T1ReadLong(MMU.MMU_MEM[proc][0x40], 0x180) & 0xFFFF`. -/
def State.sync (st : State) (proc : Proc) : u32 :=
  T1ReadLong (st.MMU_MEM proc) 0x180 &&& 0xFFFF

def State.setPage (st : State) (proc : Proc) (page : IoMem) : State :=
  { st with MMU_MEM := update st.MMU_MEM proc page }

def State.setSync (st : State) (proc : Proc) (val : u32) : State :=
  st.setPage proc (T1WriteLong (st.MMU_MEM proc) 0x180 val)

def localSync (sync_l val : u32) : u32 :=
  ((sync_l &&& 0x000F) ||| (val &&& 0x0F00)) ||| (val &&& 0x6000)

def remoteSync (sync_r val : u32) : u32 :=
  (sync_r &&& 0x6F00) ||| ((val >>> 8) &&& 0x000F)

/-- `(val & 0x0F00) >> 8`, the step of the Ensata handshake. -/
def ensataIteration (val : u32) : u32 := (val &&& 0x0F00) >>> 8

def ensataRemote (sync_r iteration : u32) : u32 := (sync_r &&& 0xF0FF) ||| (iteration <<< 8)

def ensataLocal (sync_l iteration : u32) : u32 := (sync_l &&& 0xFFF0) ||| iteration

/-- The condition under which `MMU_IPCSync` answers for the other processor. -/
def ensataAnswers (st : State) (proc : Proc) : Prop :=
  st.ensataEmulation = true ∧ proc = .ARMCPU_ARM7 ∧ st.ensataIpcSyncCounter < 9

instance (st : State) (proc : Proc) : Decidable (ensataAnswers st proc) :=
  inferInstanceAs (Decidable (_ ∧ _))

/-- The two registers that a write of `val` by `proc` leaves, its own first. -/
def syncPair (st : State) (proc : Proc) (val : u32) : u32 × u32 :=
  let sync_l := localSync (st.sync proc) val
  let sync_r := remoteSync (st.sync proc.remote) val
  if ensataAnswers st proc then
    (ensataLocal sync_l (ensataIteration val), ensataRemote sync_r (ensataIteration val))
  else (sync_l, sync_r)

def countIteration (st : State) (proc : Proc) (val : u32) : State :=
  if ensataAnswers st proc ∧ ensataIteration val = 8 - st.ensataIpcSyncCounter then
    { st with ensataIpcSyncCounter := st.ensataIpcSyncCounter + 1 }
  else st

def MMU_IPCSync (st : State) (proc : Proc) (val : u32) : State :=
  let sync := syncPair st proc val
  let st := countIteration st proc val
  let st := (st.setSync proc sync.1).setSync proc.remote sync.2
  let st :=
    if sync.1 &&& IPCSYNC_IRQ_SEND ≠ 0 ∧ sync.2 &&& IPCSYNC_IRQ_RECV ≠ 0 then
      { st with toState := NDS_makeIrq st.toState proc.remote IRQ_BIT_IPCSYNC }
    else st
  { st with toState := NDS_Reschedule st.toState }

/-- `_MMU_ARM9_write08` and `_MMU_ARM7_write08` at IPCSYNC, which neither switch
names: the byte goes into the page. -/
def MMU_write08 (st : State) (proc : Proc) (adr : u32) (val : u8) : State :=
  let adr := adr &&& 0x0FFFFFFF
  st.setPage proc (T1WriteByte (st.MMU_MEM proc) (pageOffset adr) val)

/-- `_MMU_ARM9_write16` and `_MMU_ARM7_write16` at the word of IPCSYNC. -/
def MMU_write16 (st : State) (proc : Proc) (adr : u32) (val : u16) : State :=
  let adr := adr &&& 0x0FFFFFFE
  if adr = REG_IPCSYNC then MMU_IPCSync st proc (val.setWidth 32)
  else st.setPage proc (T1WriteWord (st.MMU_MEM proc) (pageOffset adr) val)

/-- `_MMU_ARM9_write32` and `_MMU_ARM7_write32` at IPCSYNC. -/
def MMU_write32 (st : State) (proc : Proc) (adr val : u32) : State :=
  let adr := adr &&& 0x0FFFFFFC
  if adr = REG_IPCSYNC then MMU_IPCSync st proc val
  else st.setPage proc (T1WriteLong (st.MMU_MEM proc) (pageOffset adr) val)

/-- A write of a processor to the word of IPCSYNC, at any of its bytes. The wide
handlers align the address. -/
inductive Write
  | write08 (proc : Proc) (lane : Fin 4) (val : u8)
  | write16 (proc : Proc) (lane : Fin 4) (val : u16)
  | write32 (proc : Proc) (lane : Fin 4) (val : u32)

def laneAdr (lane : Fin 4) : u32 := REG_IPCSYNC + BitVec.ofNat 32 lane

def write (st : State) : Write → State
  | .write08 proc lane val => MMU_write08 st proc (laneAdr lane) val
  | .write16 proc lane val => MMU_write16 st proc (laneAdr lane) val
  | .write32 proc lane val => MMU_write32 st proc (laneAdr lane) val

/-- `MMU_clearMem` and the Ensata part of `NDS_Reset`. -/
def reset (before : State) (EnsataEmulation : Bool) : State :=
  { before with
    MMU_MEM := fun _ _ => 0
    ensataEmulation := EnsataEmulation
    ensataIpcSyncCounter := 0 }

def dataIn (page : IoMem) : BitVec 4 := (T1ReadWord page 0x180).extractLsb' 0 4

def dataOut (page : IoMem) : BitVec 4 := (T1ReadWord page 0x180).extractLsb' 8 4

def Mirror (st : State) : Prop :=
  ∀ proc, dataIn (st.MMU_MEM proc) = dataOut (st.MMU_MEM proc.remote)

/-- A byte store to one of the two bytes with a nibble carries the nibble that is
there. Every other write does whatever it does. -/
def KeepsNibble (st : State) : Write → Prop
  | .write08 proc 0 val => val.extractLsb' 0 4 = dataIn (st.MMU_MEM proc)
  | .write08 proc 1 val => val.extractLsb' 0 4 = dataOut (st.MMU_MEM proc)
  | _ => True

variable (st : State) (proc : Proc)

theorem mirror_iff :
    Mirror st ↔
      dataIn (st.MMU_MEM proc) = dataOut (st.MMU_MEM proc.remote) ∧
        dataIn (st.MMU_MEM proc.remote) = dataOut (st.MMU_MEM proc) := by
  constructor
  · intro mirror
    have other := mirror proc.remote
    rw [Proc.remote_remote] at other
    exact ⟨mirror proc,other⟩
  · rintro ⟨own,other⟩ which
    rcases proc.eq_or_eq_remote which with rfl | rfl
    · exact own
    · rw [Proc.remote_remote]
      exact other

theorem dataIn_T1WriteLong (mem : IoMem) (val : u32) :
    dataIn (T1WriteLong mem 0x180 val) = val.extractLsb' 0 4 := by
  unfold dataIn
  rw [T1ReadWord_T1WriteLong_low]
  ext i inside
  simp [show i < 16 by omega]

theorem dataOut_T1WriteLong (mem : IoMem) (val : u32) :
    dataOut (T1WriteLong mem 0x180 val) = val.extractLsb' 8 4 := by
  unfold dataOut
  rw [T1ReadWord_T1WriteLong_low]
  ext i inside
  simp [show 8 + i < 16 by omega]

theorem T1ReadLong_low (mem : IoMem) (addr : Nat) {i : Nat} (inside : i < 16) :
    (T1ReadLong mem addr).getLsbD i = (T1ReadWord mem addr).getLsbD i := by
  unfold T1ReadLong
  rw [BitVec.getLsbD_append,if_pos inside]

theorem State.sync_dataIn : (st.sync proc).extractLsb' 0 4 = dataIn (st.MMU_MEM proc) := by
  unfold State.sync dataIn
  apply BitVec.eq_of_getLsbD_eq
  intro i inside
  have low := T1ReadLong_low (st.MMU_MEM proc) 0x180 (show 0 + i < 16 by omega)
  simp only [BitVec.getLsbD_extractLsb',BitVec.getLsbD_and,low]
  interval_cases i <;> simp

theorem State.sync_dataOut : (st.sync proc).extractLsb' 8 4 = dataOut (st.MMU_MEM proc) := by
  unfold State.sync dataOut
  apply BitVec.eq_of_getLsbD_eq
  intro i inside
  have low := T1ReadLong_low (st.MMU_MEM proc) 0x180 (show 8 + i < 16 by omega)
  simp only [BitVec.getLsbD_extractLsb',BitVec.getLsbD_and,low]
  interval_cases i <;> simp

theorem localSync_nibbles (sync_l val : u32) :
    (localSync sync_l val).extractLsb' 0 4 = sync_l.extractLsb' 0 4 ∧
      (localSync sync_l val).extractLsb' 8 4 = val.extractLsb' 8 4 := by
  unfold localSync
  constructor
  · ext i inside
    interval_cases i <;> simp
  · ext i inside
    interval_cases i <;> simp

theorem remoteSync_nibbles (sync_r val : u32) :
    (remoteSync sync_r val).extractLsb' 0 4 = val.extractLsb' 8 4 ∧
      (remoteSync sync_r val).extractLsb' 8 4 = sync_r.extractLsb' 8 4 := by
  unfold remoteSync
  constructor
  · ext i inside
    interval_cases i <;> simp
  · ext i inside
    interval_cases i <;> simp

theorem ensataLocal_nibbles (sync_l val : u32) :
    (ensataLocal sync_l (ensataIteration val)).extractLsb' 0 4 = val.extractLsb' 8 4 ∧
      (ensataLocal sync_l (ensataIteration val)).extractLsb' 8 4 = sync_l.extractLsb' 8 4 := by
  unfold ensataLocal ensataIteration
  constructor
  · ext i inside
    interval_cases i <;> simp
  · ext i inside
    interval_cases i <;> simp

theorem ensataRemote_nibbles (sync_r val : u32) :
    (ensataRemote sync_r (ensataIteration val)).extractLsb' 0 4 = sync_r.extractLsb' 0 4 ∧
      (ensataRemote sync_r (ensataIteration val)).extractLsb' 8 4 = val.extractLsb' 8 4 := by
  unfold ensataRemote ensataIteration
  constructor
  · ext i inside
    interval_cases i <;> simp
  · ext i inside
    interval_cases i <;> simp

theorem syncPair_nibbles {st : State} (mirror : Mirror st) (proc : Proc) (val : u32) :
    (syncPair st proc val).1.extractLsb' 0 4 = (syncPair st proc val).2.extractLsb' 8 4 ∧
      (syncPair st proc val).2.extractLsb' 0 4 =
        (syncPair st proc val).1.extractLsb' 8 4 := by
  obtain ⟨localIn,localOut⟩ := localSync_nibbles (st.sync proc) val
  obtain ⟨remoteIn,remoteOut⟩ := remoteSync_nibbles (st.sync proc.remote) val
  unfold syncPair
  split
  next answers =>
    obtain ⟨ensataIn,ensataOut⟩ := ensataLocal_nibbles (localSync (st.sync proc) val) val
    obtain ⟨ensataIn',ensataOut'⟩ :=
      ensataRemote_nibbles (remoteSync (st.sync proc.remote) val) val
    constructor
    · exact ensataIn.trans ensataOut'.symm
    · rw [ensataIn',ensataOut,remoteIn,localOut]
  next silent =>
    constructor
    · rw [localIn,remoteOut,State.sync_dataIn,State.sync_dataOut]
      exact mirror proc
    · rw [remoteIn,localOut]

variable (page : IoMem)

@[simp] theorem setPage_self : (st.setPage proc page).MMU_MEM proc = page :=
  update_self _ _ _

@[simp] theorem setPage_remote :
    (st.setPage proc page).MMU_MEM proc.remote = st.MMU_MEM proc.remote :=
  update_of_ne proc.remote_ne _ _

@[simp] theorem setPage_of_remote : (st.setPage proc.remote page).MMU_MEM proc = st.MMU_MEM proc :=
  update_of_ne proc.ne_remote _ _

theorem countIteration_pages (val : u32) : (countIteration st proc val).MMU_MEM = st.MMU_MEM := by
  unfold countIteration
  split
  next => rfl
  next => rfl

theorem MMU_IPCSync_pages (val : u32) :
    (MMU_IPCSync st proc val).MMU_MEM proc =
        T1WriteLong (st.MMU_MEM proc) 0x180 (syncPair st proc val).1 ∧
      (MMU_IPCSync st proc val).MMU_MEM proc.remote =
        T1WriteLong (st.MMU_MEM proc.remote) 0x180 (syncPair st proc val).2 := by
  have pages : (MMU_IPCSync st proc val).MMU_MEM =
      (((countIteration st proc val).setSync proc (syncPair st proc val).1).setSync
        proc.remote (syncPair st proc val).2).MMU_MEM := by
    unfold MMU_IPCSync
    dsimp only [NDS_Reschedule]
    split
    next => rfl
    next => rfl
  rw [pages]
  unfold State.setSync
  constructor
  · rw [setPage_of_remote,setPage_self,countIteration_pages]
  · rw [setPage_self,setPage_remote,countIteration_pages]

theorem mirror_MMU_IPCSync {st : State} (mirror : Mirror st) (proc : Proc) (val : u32) :
    Mirror (MMU_IPCSync st proc val) := by
  obtain ⟨own,other⟩ := MMU_IPCSync_pages st proc val
  obtain ⟨readsOwn,readsOther⟩ := syncPair_nibbles mirror proc val
  rw [mirror_iff _ proc,own,other]
  simp only [dataIn_T1WriteLong,dataOut_T1WriteLong]
  exact ⟨readsOwn,readsOther⟩

theorem mirror_setPage_iff {st : State} (mirror : Mirror st) (proc : Proc) (page : IoMem) :
    Mirror (st.setPage proc page) ↔
      dataIn page = dataIn (st.MMU_MEM proc) ∧ dataOut page = dataOut (st.MMU_MEM proc) := by
  obtain ⟨own,other⟩ := (mirror_iff st proc).mp mirror
  rw [mirror_iff _ proc,setPage_self,setPage_remote,← own,other]
  exact and_congr_right' eq_comm

theorem mirror_setPage_outside {st : State} (mirror : Mirror st) (proc : Proc)
    (page : IoMem) (same : T1ReadWord page 0x180 = T1ReadWord (st.MMU_MEM proc) 0x180) :
    Mirror (st.setPage proc page) := by
  rw [mirror_setPage_iff mirror]
  unfold dataIn dataOut
  rw [same]
  exact ⟨rfl,rfl⟩

theorem dataIn_eq : dataIn page = (page 0x180).extractLsb' 0 4 := by
  unfold dataIn T1ReadWord
  apply BitVec.eq_of_getLsbD_eq
  intro i inside
  rw [BitVec.getLsbD_extractLsb',BitVec.getLsbD_append,if_pos (by omega),
    BitVec.getLsbD_extractLsb']

theorem dataOut_eq : dataOut page = (page 0x181).extractLsb' 0 4 := by
  unfold dataOut T1ReadWord
  apply BitVec.eq_of_getLsbD_eq
  intro i inside
  rw [BitVec.getLsbD_extractLsb',BitVec.getLsbD_append,if_neg (by omega),
    BitVec.getLsbD_extractLsb',Nat.add_sub_cancel_left,Nat.zero_add]

theorem nibbles_low (val : u8) :
    dataIn (T1WriteByte page 0x180 val) = val.extractLsb' 0 4 ∧
      dataOut (T1WriteByte page 0x180 val) = dataOut page := by
  simp only [dataIn_eq,dataOut_eq,T1WriteByte]
  constructor
  · rw [update_self]
  · rw [update_of_ne (by decide)]

theorem nibbles_high (val : u8) :
    dataIn (T1WriteByte page 0x181 val) = dataIn page ∧
      dataOut (T1WriteByte page 0x181 val) = val.extractLsb' 0 4 := by
  simp only [dataIn_eq,dataOut_eq,T1WriteByte]
  constructor
  · rw [update_of_ne (by decide)]
  · rw [update_self]

theorem mirror_write08_iff {st : State} (mirror : Mirror st) (proc : Proc)
    (lane : Fin 4) (val : u8) :
    Mirror (write st (.write08 proc lane val)) ↔
      KeepsNibble st (.write08 proc lane val) := by
  fin_cases lane
  · refine (mirror_setPage_iff mirror proc _).trans ?_
    obtain ⟨low,high⟩ := nibbles_low (st.MMU_MEM proc) val
    exact (and_congr (Eq.congr_left low) (Eq.congr_left high)).trans (and_iff_left rfl)
  · refine (mirror_setPage_iff mirror proc _).trans ?_
    obtain ⟨low,high⟩ := nibbles_high (st.MMU_MEM proc) val
    exact (and_congr (Eq.congr_left low) (Eq.congr_left high)).trans (and_iff_right rfl)
  · refine iff_of_true (mirror_setPage_outside mirror proc _ ?_) trivial
    exact T1ReadWord_T1WriteByte_of_outside _ 0x182 _ _ (by decide) (by decide)
  · refine iff_of_true (mirror_setPage_outside mirror proc _ ?_) trivial
    exact T1ReadWord_T1WriteByte_of_outside _ 0x183 _ _ (by decide) (by decide)

theorem mirror_write16 {st : State} (mirror : Mirror st) (proc : Proc)
    (lane : Fin 4) (val : u16) : Mirror (write st (.write16 proc lane val)) := by
  have above : Mirror (st.setPage proc (T1WriteWord (st.MMU_MEM proc) 0x182 val)) :=
    mirror_setPage_outside mirror proc _
      (T1ReadWord_T1WriteWord_of_disjoint _ 0x182 _ _ (Or.inr le_rfl))
  fin_cases lane
  · exact mirror_MMU_IPCSync mirror proc _
  · exact mirror_MMU_IPCSync mirror proc _
  · exact above
  · exact above

theorem mirror_write32 {st : State} (mirror : Mirror st) (proc : Proc)
    (lane : Fin 4) (val : u32) : Mirror (write st (.write32 proc lane val)) := by
  fin_cases lane
  · exact mirror_MMU_IPCSync mirror proc val
  · exact mirror_MMU_IPCSync mirror proc val
  · exact mirror_MMU_IPCSync mirror proc val
  · exact mirror_MMU_IPCSync mirror proc val

theorem mirror_write_iff (op : Write) (mirror : Mirror st) :
    Mirror (write st op) ↔ KeepsNibble st op := by
  cases op with
  | write08 proc lane val => exact mirror_write08_iff mirror proc lane val
  | write16 proc lane val => exact iff_of_true (mirror_write16 mirror proc lane val) trivial
  | write32 proc lane val => exact iff_of_true (mirror_write32 mirror proc lane val) trivial

theorem mirror_reset (before : State) (EnsataEmulation : Bool) :
    Mirror (reset before EnsataEmulation) := by
  intro proc
  rw [dataIn_eq,dataOut_eq]
  rfl

/-- From reset, with or without Ensata, the nibbles mirror each other in every
state of a run exactly when each byte store over a nibble carries that nibble. -/
theorem ipcsync_mirror_iff (before : State) (EnsataEmulation : Bool) (ops : List Write) :
    Run.Always write Mirror (reset before EnsataEmulation) ops ↔
      Run.Guarded write KeepsNibble (reset before EnsataEmulation) ops :=
  Run.always_iff_guarded (fun _ _ _ => trivial)
    (fun st op (_ : True) mirror => mirror_write_iff st op mirror) trivial
    (mirror_reset before EnsataEmulation) ops

/-- A byte store of 1 to the data-out nibble does not reach the other processor. -/
theorem byte_store_hides_nibble :
    ¬ ∀ (before : State) (EnsataEmulation : Bool) (ops : List Write),
      Run.Always write Mirror (reset before EnsataEmulation) ops := by
  intro everywhere
  let before : State :=
    { ipc_fifo := fun _ => Ipc.IPC_FIFO.zero
      MMU_MEM := fun _ _ => 0
      reg_IF_bits := fun _ => 0
      reschedule := false
      ensataEmulation := false
      ensataIpcSyncCounter := 0 }
  have always := everywhere before false [.write08 .ARMCPU_ARM9 1 1]
  have kept := (mirror_write08_iff (mirror_reset before false) .ARMCPU_ARM9 1 1).mp always.2
  have hidden : (1 : u8).extractLsb' 0 4 = dataOut (fun _ => 0) := kept
  rw [dataOut_eq] at hidden
  exact absurd hidden (by decide)

end Desmume.IpcSync
