/-
The status bits of IPCFIFOCNT under bus accesses of every width.

The FIFO functions keep four cached status bits of each register in step with
the queues.
-/

import Desmume.Lib.Run
import Desmume.Fifo.Ipc

namespace Desmume.Ipc

open Function (update update_of_ne update_self)

def REG_IPCFIFOCNT : u32 := 0x04000184
def REG_IPCFIFOSEND : u32 := 0x04000188
def REG_IPCFIFORECV : u32 := 0x04100000

/-- The offset of a register in its page: `adr & MMU_MASK[proc][adr >> 20]`. -/
def pageOffset (adr : u32) : Nat := (adr &&& 0x00FFFFFF).toNat

/-- `_MMU_ARM9_write08` and `_MMU_ARM7_write08` at the FIFO registers, which
neither switch names: the byte goes into the page. -/
def MMU_write08 (st : State) (proc : Proc) (adr : u32) (val : u8) : State :=
  let adr := adr &&& 0x0FFFFFFF
  { st with
    MMU_MEM := update st.MMU_MEM proc
      (T1WriteByte (st.MMU_MEM proc) (pageOffset adr) val) }

/-- `_MMU_ARM9_write16` and `_MMU_ARM7_write16` at the FIFO registers. -/
def MMU_write16 (st : State) (proc : Proc) (adr : u32) (val : u16) : State :=
  let adr := adr &&& 0x0FFFFFFE
  if adr = REG_IPCFIFOCNT then IPC_FIFOcnt st proc val
  else
    { st with
      MMU_MEM := update st.MMU_MEM proc
        (T1WriteWord (st.MMU_MEM proc) (pageOffset adr) val) }

/-- `_MMU_ARM9_write32` and `_MMU_ARM7_write32` at the FIFO registers. -/
def MMU_write32 (st : State) (proc : Proc) (adr val : u32) : State :=
  let adr := adr &&& 0x0FFFFFFC
  if adr = REG_IPCFIFOCNT then IPC_FIFOcnt st proc (val.setWidth 16)
  else if adr = REG_IPCFIFOSEND then IPC_FIFOsend st proc val
  else
    { st with
      MMU_MEM := update st.MMU_MEM proc
        (T1WriteLong (st.MMU_MEM proc) (pageOffset adr) val) }

/-- `_MMU_ARM9_read32` and `_MMU_ARM7_read32` at IPCFIFORECV. -/
def MMU_read32 (st : State) (proc : Proc) (adr : u32) : State :=
  let adr := adr &&& 0x0FFFFFFC
  if adr = REG_IPCFIFORECV then (IPC_FIFOrecv st proc).1 else st

inductive Register
  | IPCFIFOCNT
  | IPCFIFOSEND
  deriving DecidableEq

def Register.adr : Register → u32
  | .IPCFIFOCNT => REG_IPCFIFOCNT
  | .IPCFIFOSEND => REG_IPCFIFOSEND

/-- One access of a processor to the FIFO registers. The narrow reads of
IPCFIFORECV return page bytes. -/
inductive Access
  | write08 (proc : Proc) (reg : Register) (lane : Fin 4) (val : u8)
  | write16 (proc : Proc) (reg : Register) (half : Fin 2) (val : u16)
  | write32 (proc : Proc) (reg : Register) (val : u32)
  | read32 (proc : Proc)
  | readNarrow (proc : Proc)

def access (st : State) : Access → State
  | .write08 proc reg lane val =>
      MMU_write08 st proc (reg.adr + BitVec.ofNat 32 lane) val
  | .write16 proc reg half val =>
      MMU_write16 st proc (reg.adr + BitVec.ofNat 32 (2 * half)) val
  | .write32 proc reg val => MMU_write32 st proc reg.adr val
  | .read32 proc => MMU_read32 st proc REG_IPCFIFORECV
  | .readNarrow _ => st

structure Mirrors (st : State) (proc : Proc) : Prop where
  sendEmpty : st.cnt proc &&& IPCFIFOCNT_SENDEMPTY ≠ 0 ↔ (st.ipc_fifo proc).size = 0
  sendFull : st.cnt proc &&& IPCFIFOCNT_SENDFULL ≠ 0 ↔ (st.ipc_fifo proc).size = 16
  recvEmpty : st.cnt proc &&& IPCFIFOCNT_RECVEMPTY ≠ 0 ↔
    (st.ipc_fifo proc.remote).size = 0
  recvFull : st.cnt proc &&& IPCFIFOCNT_RECVFULL ≠ 0 ↔
    (st.ipc_fifo proc.remote).size = 16

def Mirror (st : State) : Prop := ∀ proc, Mirrors st proc

def Bounded (st : State) : Prop := ∀ proc, (st.ipc_fifo proc).size ≤ 16

/-- The status bits of one register value, against the two queue sizes. -/
structure Shows (cnt : u16) (own other : u8) : Prop where
  sendEmpty : cnt.getLsbD 0 = true ↔ own = 0
  sendFull : cnt.getLsbD 1 = true ↔ own = 16
  recvEmpty : cnt.getLsbD 8 = true ↔ other = 0
  recvFull : cnt.getLsbD 9 = true ↔ other = 16

variable (st : State) (proc : Proc)

theorem mirrors_iff :
    Mirrors st proc ↔
      Shows (st.cnt proc) (st.ipc_fifo proc).size (st.ipc_fifo proc.remote).size := by
  have sendEmpty := and_twoPow_ne_zero (st.cnt proc) 0 (by decide)
  have sendFull := and_twoPow_ne_zero (st.cnt proc) 1 (by decide)
  have recvEmpty := and_twoPow_ne_zero (st.cnt proc) 8 (by decide)
  have recvFull := and_twoPow_ne_zero (st.cnt proc) 9 (by decide)
  constructor
  · intro mirrors
    exact ⟨sendEmpty.symm.trans mirrors.sendEmpty,sendFull.symm.trans mirrors.sendFull,
      recvEmpty.symm.trans mirrors.recvEmpty,recvFull.symm.trans mirrors.recvFull⟩
  · intro shows_
    exact ⟨sendEmpty.trans shows_.sendEmpty,sendFull.trans shows_.sendFull,
      recvEmpty.trans shows_.recvEmpty,recvFull.trans shows_.recvFull⟩

theorem mirror_iff :
    Mirror st ↔
      Shows (st.cnt proc) (st.ipc_fifo proc).size (st.ipc_fifo proc.remote).size ∧
      Shows (st.cnt proc.remote) (st.ipc_fifo proc.remote).size
        (st.ipc_fifo proc).size := by
  constructor
  · intro mirror
    refine ⟨(mirrors_iff st proc).mp (mirror proc),?_⟩
    have other := (mirrors_iff st proc.remote).mp (mirror proc.remote)
    rw [Proc.remote_remote] at other
    exact other
  · rintro ⟨own,remote⟩ which
    rw [mirrors_iff]
    rcases Proc.eq_or_eq_remote proc which with same | other
    · rw [same]
      exact own
    · rw [other,Proc.remote_remote]
      exact remote

variable {next : State} {other : u8} {cnt : u16} {own : u8}

theorem Shows.congr {next : u16} (shows_ : Shows cnt own other)
    (low : next.getLsbD 0 = cnt.getLsbD 0) (second : next.getLsbD 1 = cnt.getLsbD 1)
    (high : next.getLsbD 8 = cnt.getLsbD 8) (ninth : next.getLsbD 9 = cnt.getLsbD 9) :
    Shows next own other where
  sendEmpty := by rw [low]; exact shows_.sendEmpty
  sendFull := by rw [second]; exact shows_.sendFull
  recvEmpty := by rw [high]; exact shows_.recvEmpty
  recvFull := by rw [ninth]; exact shows_.recvFull

theorem mirror_of_same {st : State} (mirror : Mirror st)
    (fifo : next.ipc_fifo = st.ipc_fifo) (cnt : ∀ proc, next.cnt proc = st.cnt proc) :
    Mirror next := by
  intro proc
  have here := (mirrors_iff st proc).mp (mirror proc)
  rw [mirrors_iff,cnt,fifo]
  exact here

theorem Shows.error (shows_ : Shows cnt own other) :
    Shows (cnt ||| IPCFIFOCNT_FIFOERROR) own other := by
  apply shows_.congr <;> simp [IPCFIFOCNT_FIFOERROR]

variable (before : State)

theorem mirror_reset : Mirror (reset before) := by
  intro proc
  rw [mirrors_iff,cnt_reset,ipc_fifo_reset,ipc_fifo_reset]
  constructor <;> decide

theorem bounded_reset : Bounded (reset before) := by
  intro proc
  rw [ipc_fifo_reset]
  decide

theorem bounded_update {st : State} {proc : Proc} {fifo : IPC_FIFO} (bounded : Bounded st)
    (updated : next.ipc_fifo = update st.ipc_fifo proc fifo)
    (fits : fifo.size ≤ 16) : Bounded next := by
  intro which
  rw [updated]
  by_cases same : which = proc
  · rw [same,update_self]
    exact fits
  · rw [update_of_ne same]
    exact bounded which

theorem bounded_same {st : State} (bounded : Bounded st)
    (fifo : next.ipc_fifo = st.ipc_fifo) : Bounded next := by
  intro which
  rw [fifo]
  exact bounded which

theorem bounded_send (val : u32) (bounded : Bounded st) : Bounded (IPC_FIFOsend st proc val) := by
  rcases st.send_cases proc with ⟨enabled,room⟩ | refused
  · apply bounded_update bounded (IPC_FIFOsend_accepted st proc val enabled room).1
    change (st.ipc_fifo proc).size + 1 ≤ 16
    bv_omega
  · exact bounded_same bounded (IPC_FIFOsend_refused st proc val refused).1

theorem bounded_recv (bounded : Bounded st) : Bounded (IPC_FIFOrecv st proc).1 := by
  rcases st.recv_cases proc with ⟨enabled,nonempty⟩ | refused
  · apply bounded_update bounded (IPC_FIFOrecv_accepted st proc enabled nonempty).1
    have fits := bounded proc.remote
    change (st.ipc_fifo proc.remote).size - 1 ≤ 16
    bv_omega
  · exact bounded_same bounded (IPC_FIFOrecv_refused st proc refused).1

theorem bounded_cnt (val : u16) (bounded : Bounded st) : Bounded (IPC_FIFOcnt st proc val) := by
  have fifo := (IPC_FIFOcnt_spec st proc val).1
  by_cases clear : val &&& IPCFIFOCNT_SENDCLEAR ≠ 0
  · rw [if_pos clear] at fifo
    exact bounded_update bounded fifo (show (0 : u8) ≤ 16 by decide)
  · rw [if_neg clear] at fifo
    exact bounded_same bounded fifo

theorem mirror_send (val : u32) (bounded : Bounded st)
    (mirror : Mirror st) : Mirror (IPC_FIFOsend st proc val) := by
  obtain ⟨own,remote⟩ := (mirror_iff st proc).mp mirror
  have fits := bounded proc
  rw [mirror_iff _ proc]
  rcases st.send_cases proc with ⟨enabled,room⟩ | refused
  · obtain ⟨fifo,cnt,cntRemote⟩ := IPC_FIFOsend_accepted st proc val enabled room
    rw [fifo,cnt,cntRemote,update_self,update_of_ne proc.remote_ne]
    change Shows _ ((st.ipc_fifo proc).size + 1) _ ∧ Shows _ _ ((st.ipc_fifo proc).size + 1)
    by_cases full : (st.ipc_fifo proc).size + 1 > 15
    · have sixteen : (st.ipc_fifo proc).size + 1 = 16 := by bv_omega
      rw [if_pos full,if_pos full,sixteen]
      constructor
      · constructor
        · simp [IPCFIFOCNT_SENDFULL]
        · simp [IPCFIFOCNT_SENDFULL]
        · simpa [IPCFIFOCNT_SENDFULL] using own.recvEmpty
        · simpa [IPCFIFOCNT_SENDFULL] using own.recvFull
      · constructor
        · simpa [IPCFIFOCNT_RECVFULL] using remote.sendEmpty
        · simpa [IPCFIFOCNT_RECVFULL] using remote.sendFull
        · simp [IPCFIFOCNT_RECVFULL]
        · simp [IPCFIFOCNT_RECVFULL]
    · have notZero : (st.ipc_fifo proc).size + 1 ≠ 0 := by bv_omega
      have notFull : (st.ipc_fifo proc).size + 1 ≠ 16 := by bv_omega
      simp only [if_neg full]
      constructor
      · constructor
        · exact iff_of_false (by simp) notZero
        · exact iff_of_false (by simp) notFull
        · simpa using own.recvEmpty
        · simpa using own.recvFull
      · constructor
        · simpa using remote.sendEmpty
        · simpa using remote.sendFull
        · exact iff_of_false (by simp) notZero
        · exact iff_of_false (by simp) notFull
  · obtain ⟨fifo,cntRemote,cnt⟩ := IPC_FIFOsend_refused st proc val refused
    rw [fifo,cntRemote]
    refine ⟨?_,remote⟩
    rcases cnt with same | error
    · rw [same]
      exact own
    · rw [error]
      exact own.error

theorem mirror_recv (bounded : Bounded st)
    (mirror : Mirror st) : Mirror (IPC_FIFOrecv st proc).1 := by
  obtain ⟨own,remote⟩ := (mirror_iff st proc).mp mirror
  have fits := bounded proc.remote
  rw [mirror_iff _ proc]
  rcases st.recv_cases proc with ⟨enabled,nonempty⟩ | refused
  · obtain ⟨fifo,-,cnt,cntRemote⟩ := IPC_FIFOrecv_accepted st proc enabled nonempty
    rw [fifo,cnt,cntRemote,update_self,update_of_ne proc.ne_remote]
    change Shows _ _ ((st.ipc_fifo proc.remote).size - 1) ∧
      Shows _ ((st.ipc_fifo proc.remote).size - 1) _
    have notFull : (st.ipc_fifo proc.remote).size - 1 ≠ 16 := by bv_omega
    by_cases last : (st.ipc_fifo proc.remote).size - 1 = 0
    · rw [if_pos last,if_pos last]
      constructor
      · constructor
        · simpa [IPCFIFOCNT_RECVEMPTY] using own.sendEmpty
        · simpa [IPCFIFOCNT_RECVEMPTY] using own.sendFull
        · exact iff_of_true (by simp [IPCFIFOCNT_RECVEMPTY]) last
        · exact iff_of_false (by simp [IPCFIFOCNT_RECVEMPTY]) notFull
      · constructor
        · exact iff_of_true (by simp [IPCFIFOCNT_SENDEMPTY]) last
        · exact iff_of_false (by simp [IPCFIFOCNT_SENDEMPTY]) notFull
        · simpa [IPCFIFOCNT_SENDEMPTY] using remote.recvEmpty
        · simpa [IPCFIFOCNT_SENDEMPTY] using remote.recvFull
    · rw [if_neg last,if_neg last]
      constructor
      · constructor
        · simpa using own.sendEmpty
        · simpa using own.sendFull
        · exact iff_of_false (by simp) last
        · exact iff_of_false (by simp) notFull
      · constructor
        · exact iff_of_false (by simp) last
        · exact iff_of_false (by simp) notFull
        · simpa using remote.recvEmpty
        · simpa using remote.recvFull
  · obtain ⟨fifo,cntRemote,cnt⟩ := IPC_FIFOrecv_refused st proc refused
    rw [fifo,cntRemote]
    refine ⟨?_,remote⟩
    rcases cnt with same | error
    · rw [same]
      exact own
    · rw [error]
      exact own.error

theorem shows_cntAfter {val : u16} (shows_ : Shows cnt own other) :
    Shows (cntAfter cnt val) (if val &&& IPCFIFOCNT_SENDCLEAR ≠ 0 then 0 else own) other := by
  have acknowledged : Shows (if val &&& IPCFIFOCNT_FIFOERROR ≠ 0 then
      cnt &&& ~~~IPCFIFOCNT_FIFOERROR else cnt) own other := by
    split
    · apply shows_.congr <;> simp [IPCFIFOCNT_FIFOERROR]
    · exact shows_
  have masked {cnt : u16} {own : u8} (shows_ : Shows cnt own other) :
      Shows ((cnt &&& ~~~IPCFIFOCNT_WRITEABLE) ||| (val &&& IPCFIFOCNT_WRITEABLE))
        own other := by
    apply shows_.congr <;>
      simp [IPCFIFOCNT_WRITEABLE,IPCFIFOCNT_SENDIRQEN,IPCFIFOCNT_RECVIRQEN,
        IPCFIFOCNT_FIFOENABLE]
  unfold cntAfter
  apply masked
  by_cases clear : val &&& IPCFIFOCNT_SENDCLEAR ≠ 0
  · rw [if_pos clear,if_pos clear]
    constructor
    · simp [IPCFIFOCNT_SENDEMPTY,IPCFIFOCNT_SENDFULL]
    · simp [IPCFIFOCNT_SENDEMPTY,IPCFIFOCNT_SENDFULL]
    · simpa [IPCFIFOCNT_SENDEMPTY,IPCFIFOCNT_SENDFULL] using acknowledged.recvEmpty
    · simpa [IPCFIFOCNT_SENDEMPTY,IPCFIFOCNT_SENDFULL] using acknowledged.recvFull
  · rw [if_neg clear,if_neg clear]
    exact acknowledged

theorem mirror_cnt (val : u16) (mirror : Mirror st) : Mirror (IPC_FIFOcnt st proc val) := by
  obtain ⟨own,remote⟩ := (mirror_iff st proc).mp mirror
  obtain ⟨fifo,cnt,cntRemote⟩ := IPC_FIFOcnt_spec st proc val
  have after : Shows (cntAfter (st.cnt proc) val) _ _ := shows_cntAfter own
  rw [mirror_iff _ proc,cnt,cntRemote,fifo]
  by_cases clear : val &&& IPCFIFOCNT_SENDCLEAR ≠ 0
  · rw [if_pos clear] at after
    rw [if_pos clear,if_pos clear,update_self,
      update_of_ne proc.remote_ne]
    refine ⟨after,?_⟩
    constructor
    · simpa [IPCFIFOCNT_RECVEMPTY,IPCFIFOCNT_RECVFULL] using remote.sendEmpty
    · simpa [IPCFIFOCNT_RECVEMPTY,IPCFIFOCNT_RECVFULL] using remote.sendFull
    · simp [IPCFIFOCNT_RECVEMPTY,IPCFIFOCNT_RECVFULL]
    · simp [IPCFIFOCNT_RECVEMPTY,IPCFIFOCNT_RECVFULL]
  · rw [if_neg clear] at after
    rw [if_neg clear,if_neg clear]
    exact ⟨after,remote⟩

/-! ### The bus accesses -/

theorem cnt_write_other (mem : IoMem) :
    { st with MMU_MEM := update st.MMU_MEM proc mem : State }.cnt
      proc.remote = st.cnt proc.remote := by
  simp [State.cnt]

theorem cnt_write_self (mem : IoMem) :
    { st with MMU_MEM := update st.MMU_MEM proc mem : State }.cnt proc =
      T1ReadWord mem 0x184 := by
  simp [State.cnt]

theorem mirror_write_outside {st : State} (proc : Proc) {mem : IoMem}
    (outside : T1ReadWord mem 0x184 = st.cnt proc) (mirror : Mirror st) :
    Mirror { st with MMU_MEM := update st.MMU_MEM proc mem } := by
  apply mirror_of_same mirror
  · rfl
  · intro which
    rcases Proc.eq_or_eq_remote proc which with same | other
    · rw [same,cnt_write_self]
      exact outside
    · rw [other,cnt_write_other]

theorem mirror_write_iff {st : State} (proc : Proc) (mem : IoMem) (mirror : Mirror st) :
    Mirror { st with MMU_MEM := update st.MMU_MEM proc mem } ↔
      Shows (T1ReadWord mem 0x184) (st.ipc_fifo proc).size
        (st.ipc_fifo proc.remote).size := by
  have remote := ((mirror_iff st proc).mp mirror).2
  rw [mirror_iff _ proc,cnt_write_self,cnt_write_other]
  exact and_iff_left remote

theorem mirror_write16 (reg : Register) (half : Fin 2) (val : u16) (mirror : Mirror st) :
    Mirror (access st (.write16 proc reg half val)) := by
  have outside (addr : Nat) (above : 0x186 ≤ addr) :
      T1ReadWord (T1WriteWord (st.MMU_MEM proc) addr val) 0x184 = st.cnt proc :=
    T1ReadWord_T1WriteWord_of_disjoint _ _ _ _ (Or.inr above)
  have stored (adr : u32) (notCnt : adr &&& 0x0FFFFFFE ≠ REG_IPCFIFOCNT)
      (above : 0x186 ≤ pageOffset (adr &&& 0x0FFFFFFE)) :
      Mirror (MMU_write16 st proc adr val) := by
    unfold MMU_write16
    rw [if_neg notCnt]
    exact mirror_write_outside proc (outside _ above) mirror
  cases reg with
  | IPCFIFOCNT =>
      fin_cases half
      · exact mirror_cnt st proc val mirror
      · exact stored 0x04000186 (by decide) (by decide)
  | IPCFIFOSEND =>
      fin_cases half
      · exact stored 0x04000188 (by decide) (by decide)
      · exact stored 0x0400018A (by decide) (by decide)

/-- A byte store to one of the two bytes of IPCFIFOCNT carries the current
status bits. Every other access does whatever it does. -/
def KeepsStatus (st : State) : Access → Prop
  | .write08 proc .IPCFIFOCNT 0 val =>
      (val.getLsbD 0 = true ↔ (st.ipc_fifo proc).size = 0) ∧
        (val.getLsbD 1 = true ↔ (st.ipc_fifo proc).size = 16)
  | .write08 proc .IPCFIFOCNT 1 val =>
      (val.getLsbD 0 = true ↔ (st.ipc_fifo proc.remote).size = 0) ∧
        (val.getLsbD 1 = true ↔ (st.ipc_fifo proc.remote).size = 16)
  | _ => True

theorem mirror_write08_low (val : u8) (mirror : Mirror st) :
    Mirror (MMU_write08 st proc 0x04000184 val) ↔
      (val.getLsbD 0 = true ↔ (st.ipc_fifo proc).size = 0) ∧
        (val.getLsbD 1 = true ↔ (st.ipc_fifo proc).size = 16) := by
  have own := ((mirror_iff st proc).mp mirror).1
  have old : st.cnt proc = st.MMU_MEM proc 0x185 ++ st.MMU_MEM proc 0x184 := rfl
  have new : T1ReadWord (T1WriteByte (st.MMU_MEM proc) 0x184 val) 0x184 =
      st.MMU_MEM proc 0x185 ++ val := T1ReadWord_T1WriteByte_low _ _ _
  have written := mirror_write_iff proc (T1WriteByte (st.MMU_MEM proc) 0x184 val) mirror
  refine Iff.trans written ?_
  rw [old] at own
  rw [new]
  constructor
  · intro shows_
    have empty := shows_.sendEmpty
    have full := shows_.sendFull
    rw [BitVec.getLsbD_append] at empty full
    exact ⟨by simpa using empty,by simpa using full⟩
  · rintro ⟨empty,full⟩
    have recvEmpty := own.recvEmpty
    have recvFull := own.recvFull
    rw [BitVec.getLsbD_append] at recvEmpty recvFull
    constructor
    · rw [BitVec.getLsbD_append]
      simpa using empty
    · rw [BitVec.getLsbD_append]
      simpa using full
    · rw [BitVec.getLsbD_append]
      simpa using recvEmpty
    · rw [BitVec.getLsbD_append]
      simpa using recvFull

theorem mirror_write08_high (val : u8) (mirror : Mirror st) :
    Mirror (MMU_write08 st proc 0x04000185 val) ↔
      (val.getLsbD 0 = true ↔ (st.ipc_fifo proc.remote).size = 0) ∧
        (val.getLsbD 1 = true ↔ (st.ipc_fifo proc.remote).size = 16) := by
  have own := ((mirror_iff st proc).mp mirror).1
  have old : st.cnt proc = st.MMU_MEM proc 0x185 ++ st.MMU_MEM proc 0x184 := rfl
  have new : T1ReadWord (T1WriteByte (st.MMU_MEM proc) 0x185 val) 0x184 =
      val ++ st.MMU_MEM proc 0x184 := T1ReadWord_T1WriteByte_high _ _ _
  have written := mirror_write_iff proc (T1WriteByte (st.MMU_MEM proc) 0x185 val) mirror
  refine Iff.trans written ?_
  rw [old] at own
  rw [new]
  constructor
  · intro shows_
    have empty := shows_.recvEmpty
    have full := shows_.recvFull
    rw [BitVec.getLsbD_append] at empty full
    exact ⟨by simpa using empty,by simpa using full⟩
  · rintro ⟨empty,full⟩
    have sendEmpty := own.sendEmpty
    have sendFull := own.sendFull
    rw [BitVec.getLsbD_append] at sendEmpty sendFull
    constructor
    · rw [BitVec.getLsbD_append]
      simpa using sendEmpty
    · rw [BitVec.getLsbD_append]
      simpa using sendFull
    · rw [BitVec.getLsbD_append]
      simpa using empty
    · rw [BitVec.getLsbD_append]
      simpa using full

theorem mirror_write08_outside (adr : u32) (val : u8)
    (above : 0x186 ≤ pageOffset (adr &&& 0x0FFFFFFF)) (mirror : Mirror st) :
    Mirror (MMU_write08 st proc adr val) := by
  apply mirror_write_outside proc _ mirror
  apply T1ReadWord_T1WriteByte_of_outside
  · omega
  · omega

theorem mirror_access_iff (op : Access) (bounded : Bounded st)
    (mirror : Mirror st) : Mirror (access st op) ↔ KeepsStatus st op := by
  cases op with
  | write08 proc reg lane val =>
      cases reg with
      | IPCFIFOCNT =>
          fin_cases lane
          · exact mirror_write08_low st proc val mirror
          · exact mirror_write08_high st proc val mirror
          · exact iff_of_true
              (mirror_write08_outside st proc 0x04000186 val (by decide) mirror) trivial
          · exact iff_of_true
              (mirror_write08_outside st proc 0x04000187 val (by decide) mirror) trivial
      | IPCFIFOSEND =>
          refine iff_of_true ?_ trivial
          fin_cases lane
          · exact mirror_write08_outside st proc 0x04000188 val (by decide) mirror
          · exact mirror_write08_outside st proc 0x04000189 val (by decide) mirror
          · exact mirror_write08_outside st proc 0x0400018A val (by decide) mirror
          · exact mirror_write08_outside st proc 0x0400018B val (by decide) mirror
  | write16 proc reg half val =>
      exact iff_of_true (mirror_write16 st proc reg half val mirror) trivial
  | write32 proc reg val =>
      refine iff_of_true ?_ trivial
      cases reg with
      | IPCFIFOCNT => exact mirror_cnt st proc _ mirror
      | IPCFIFOSEND => exact mirror_send st proc val bounded mirror
  | read32 proc => exact iff_of_true (mirror_recv st proc bounded mirror) trivial
  | readNarrow proc => exact iff_of_true mirror trivial

theorem bounded_access (op : Access) (bounded : Bounded st) : Bounded (access st op) := by
  cases op with
  | write08 proc reg lane val => exact bounded_same bounded rfl
  | write16 proc reg half val =>
      change Bounded (MMU_write16 _ _ _ _)
      simp only [MMU_write16]
      split
      · exact bounded_cnt st proc val bounded
      · exact bounded_same bounded rfl
  | write32 proc reg val =>
      cases reg with
      | IPCFIFOCNT => exact bounded_cnt st proc _ bounded
      | IPCFIFOSEND => exact bounded_send st proc val bounded
  | read32 proc => exact bounded_recv st proc bounded
  | readNarrow proc => exact bounded

/-- From reset, the status bits mirror the queues in every state of a run
exactly when each byte store to the status bytes of IPCFIFOCNT carries the
status bits of the moment. -/
theorem ipcfifocnt_mirror_iff (ops : List Access) :
    Run.Always access Mirror (reset before) ops ↔
      Run.Guarded access KeepsStatus (reset before) ops :=
  Run.always_iff_guarded bounded_access mirror_access_iff (bounded_reset before)
    (mirror_reset before) ops

/-- A byte of zeros stored to the low byte right after reset clears the
empty flag of an empty queue. -/
theorem byte_store_breaks_mirror :
    ¬∀ (before : State) (ops : List Access), Run.Always access Mirror (reset before) ops := by
  intro everywhere
  let before : State :=
    { ipc_fifo := fun _ => IPC_FIFO.zero
      MMU_MEM := fun _ _ => 0
      reg_IF_bits := fun _ => 0
      reschedule := false }
  have always := everywhere before [.write08 .ARMCPU_ARM9 .IPCFIFOCNT 0 0]
  have guarded := (mirror_access_iff (reset before) _ (bounded_reset before)
    (mirror_reset before)).mp always.2
  have empty : ((reset before).ipc_fifo .ARMCPU_ARM9).size = 0 := by
    rw [ipc_fifo_reset]
    rfl
  have flag := guarded.1.mpr empty
  exact absurd flag (by decide)

end Desmume.Ipc
