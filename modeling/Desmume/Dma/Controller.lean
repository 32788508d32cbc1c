/-
One DMA channel: `DmaController::write32`, `read32`, `tryTrigger`, `exec` and
`doCopy`, and the register wrapper that widens 8-bit and 16-bit writes.

A copy runs to its end inside `exec`.
-/

import Desmume.Types
import Desmume.Lib.Run

namespace Desmume.Dma

inductive EDMABitWidth
  | EDMABitWidth_16
  | EDMABitWidth_32
  deriving DecidableEq

inductive EDMASourceUpdate
  | Increment
  | Decrement
  | Fixed
  | Invalid
  deriving DecidableEq

inductive EDMADestinationUpdate
  | Increment
  | Decrement
  | Fixed
  | IncrementReload
  deriving DecidableEq

def EDMABitWidth.ofBit (bit : Bool) : EDMABitWidth :=
  if bit then .EDMABitWidth_32 else .EDMABitWidth_16

def EDMABitWidth.code : EDMABitWidth → u32
  | .EDMABitWidth_16 => 0
  | .EDMABitWidth_32 => 1

def EDMASourceUpdate.ofCode (code : BitVec 2) : EDMASourceUpdate :=
  if code = 0 then .Increment
  else if code = 1 then .Decrement
  else if code = 2 then .Fixed
  else .Invalid

def EDMASourceUpdate.code : EDMASourceUpdate → BitVec 2
  | .Increment => 0
  | .Decrement => 1
  | .Fixed => 2
  | .Invalid => 3

def EDMADestinationUpdate.ofCode (code : BitVec 2) : EDMADestinationUpdate :=
  if code = 0 then .Increment
  else if code = 1 then .Decrement
  else if code = 2 then .Fixed
  else .IncrementReload

def EDMADestinationUpdate.code : EDMADestinationUpdate → BitVec 2
  | .Increment => 0
  | .Decrement => 1
  | .Fixed => 2
  | .IncrementReload => 3

/-- The last three fields are the words outside the channel that it updates. -/
structure DmaController where
  procnum : Proc
  chan : Fin 4
  dmaCheck : Bool
  running : Bool
  paused : Bool
  triggered : Bool
  startmode : EDMAMode
  bitWidth : EDMABitWidth
  sar : EDMASourceUpdate
  dar : EDMADestinationUpdate
  enable : Bool
  irq : Bool
  repeatMode : Bool
  _startmode : BitVec 3
  wordcount : u32
  saddr : u32
  daddr : u32
  saddr_user : u32
  daddr_user : u32
  nextEvent : Nat
  freezeBus : u32
  reg_IF_bits : u32
  reschedule : Bool

/-- The constructor `DmaController()`. -/
def DmaController.fresh (procnum : Proc) (chan : Fin 4) : DmaController :=
  { procnum := procnum
    chan := chan
    dmaCheck := false
    running := false
    paused := false
    triggered := false
    startmode := .Immediate
    bitWidth := .EDMABitWidth_16
    sar := .Increment
    dar := .Increment
    enable := false
    irq := false
    repeatMode := false
    _startmode := 0
    wordcount := 0
    saddr := 0
    daddr := 0
    saddr_user := 0
    daddr_user := 0
    nextEvent := 0
    freezeBus := 0
    reg_IF_bits := 0
    reschedule := false }

def IRQ_BIT_DMA_0 : Nat := 8

def flag (bit : Bool) : u32 := if bit then 1 else 0

def read32 (dma : DmaController) : u32 :=
  flag dma.enable <<< 31 ||| flag dma.irq <<< 30 ||| dma._startmode.setWidth 32 <<< 27 |||
    dma.bitWidth.code <<< 26 ||| flag dma.repeatMode <<< 25 |||
    dma.sar.code.setWidth 32 <<< 23 ||| dma.dar.code.setWidth 32 <<< 21 ||| dma.wordcount

def doSchedule (dma : DmaController) (nds_timer : Nat) : DmaController :=
  { dma with dmaCheck := true, nextEvent := nds_timer, reschedule := true }

def doPause (dma : DmaController) : DmaController :=
  { dma with triggered := false, paused := true }

def NDS_makeIrq (dma : DmaController) (num : Nat) : DmaController :=
  { dma with reg_IF_bits := dma.reg_IF_bits ||| (1 <<< num), reschedule := true }

def doStop (dma : DmaController) : DmaController :=
  let stopped := { dma with
    running := false
    enable := if ¬dma.repeatMode then false else dma.enable }
  if dma.irq then NDS_makeIrq stopped (IRQ_BIT_DMA_0 + dma.chan.val) else stopped

def tryTrigger (dma : DmaController) (nds_timer : Nat) (mode : EDMAMode) : DmaController :=
  if dma.startmode ≠ mode then dma
  else if ¬dma.enable then dma
  else if dma.running ∧ ¬dma.paused then dma
  else doSchedule { dma with triggered := true } nds_timer

/-- The start mode bits as latched: the ARM7 has no lowest bit. -/
def startmodeBits (procnum : Proc) (val : u32) : BitVec 3 :=
  let valhi := val >>> 16
  let bits : BitVec 3 := ((valhi >>> 11) &&& 7).setWidth 3
  if procnum = .ARMCPU_ARM7 then bits &&& 6 else bits

/-- The assignments of `write32` up to the reload of the addresses. -/
def setControl (dma : DmaController) (val : u32) : DmaController :=
  let valhi := val >>> 16
  let wasEnable := dma.enable
  let dma := { dma with
    wordcount := val &&& 0x1FFFFF
    dar := EDMADestinationUpdate.ofCode (((valhi >>> 5) &&& 3).setWidth 2)
    sar := EDMASourceUpdate.ofCode (((valhi >>> 7) &&& 3).setWidth 2)
    repeatMode := valhi.getLsbD 9
    bitWidth := EDMABitWidth.ofBit (valhi.getLsbD 10)
    _startmode := startmodeBits dma.procnum val
    irq := valhi.getLsbD 14
    enable := valhi.getLsbD 15 }
  let dma := if ¬wasEnable ∧ dma.enable then { dma with triggered := false } else dma
  if dma.enable then { dma with saddr := dma.saddr_user, daddr := dma.daddr_user } else dma

def doNotStart (dma : DmaController) : Bool :=
  dma.startmode ≠ .Immediate ∧ dma.startmode ≠ .GXFifo ∧ dma.enable

def write32 (dma : DmaController) (nds_timer : Nat) (val : u32) : DmaController :=
  if ¬doNotStart dma then doSchedule (setControl dma val) nds_timer else setControl dma val

inductive Size
  | size8
  | size16
  | size32
  deriving DecidableEq

/-- `TRegister_32::write` on a register that now reads as `old`: the value
handed to its `write32`. -/
def merged (old : u32) (size : Size) (adr val : u32) : u32 :=
  let off := adr &&& 3
  let shift := (off <<< 3).toNat
  match size with
  | .size32 => val
  | .size8 => (old &&& ~~~((0xFF : u32) <<< shift)) ||| (val <<< shift)
  | .size16 => (old &&& ~~~((0xFFFF : u32) <<< shift)) ||| (val <<< shift)

/-- What reaches a channel from outside: a write to one of its three registers,
or a start condition. -/
inductive Access
  | sad (size : Size) (adr val : u32)
  | dad (size : Size) (adr val : u32)
  | ctrl (size : Size) (adr val : u32)
  | trigger (mode : EDMAMode)

def access (nds_timer : Nat) (dma : DmaController) : Access → DmaController
  | .sad size adr val => { dma with saddr_user := merged dma.saddr_user size adr val }
  | .dad size adr val => { dma with daddr_user := merged dma.daddr_user size adr val }
  | .ctrl size adr val => write32 dma nds_timer (merged (read32 dma) size adr val)
  | .trigger mode => tryTrigger dma nds_timer mode

/-- What one call of `exec` finds around the channel. `nested` is what its own
copy does to it. -/
structure Env where
  nds_timer : Nat
  VCount : Nat
  gxFIFO_size : u32
  transfer_count : u32
  time_elapsed : Nat
  nested : List Access

structure Transfer where
  units : Nat
  src : u32
  dst : u32
  deriving DecidableEq

def EDMABitWidth.sz : EDMABitWidth → u32
  | .EDMABitWidth_16 => 2
  | .EDMABitWidth_32 => 4

def EDMASourceUpdate.srcinc (sz : u32) : EDMASourceUpdate → u32
  | .Increment => sz
  | .Decrement => -sz
  | .Fixed => 0
  | .Invalid => 0

def EDMADestinationUpdate.dstinc (sz : u32) : EDMADestinationUpdate → u32
  | .Increment => sz
  | .Decrement => -sz
  | .Fixed => 0
  | .IncrementReload => sz

/-- The number of units `doCopy` sets out to move. -/
def todo (dma : DmaController) (env : Env) : u32 :=
  let todo := dma.wordcount
  let todo := if dma.procnum = .ARMCPU_ARM9 ∧ todo = 0 then 0x200000 else todo
  let todo := if dma.startmode = .MemDisplay then 128 else todo
  let todo := if dma.startmode = .Card then env.transfer_count / dma.bitWidth.sz else todo
  if dma.startmode = .GXFifo then (if todo ≤ 112 then todo else 112) else todo

/-- The block `doCopy` moves; its loop counts down a signed integer. -/
def transfer (dma : DmaController) (env : Env) : Transfer :=
  { units := (todo dma env).toInt.toNat, src := dma.saddr, dst := dma.daddr }

def frameEnd (dma : DmaController) (env : Env) : DmaController :=
  if dma.startmode = .MemDisplay ∧ env.VCount = 191 then { dma with enable := false } else dma

def copied (dma : DmaController) (env : Env) : DmaController :=
  env.nested.foldl (access env.nds_timer) (frameEnd dma env)

def freeze (dma : DmaController) : DmaController :=
  if dma.procnum = .ARMCPU_ARM9 then
    { dma with freezeBus := dma.freezeBus ||| (1 <<< (dma.chan.val + 1)) }
  else dma

def writeBack (dma : DmaController) (src dst : u32) : DmaController :=
  let dma := { dma with saddr := src }
  if dma.dar ≠ .IncrementReload then { dma with daddr := dst } else dma

def countDown (dma : DmaController) (todo : u32) : DmaController :=
  if ¬dma.repeatMode then
    if dma.startmode = .Card then { dma with wordcount := 0 }
    else { dma with wordcount := dma.wordcount - todo }
  else dma

def doCopy (dma : DmaController) (env : Env) : DmaController :=
  let units := BitVec.ofNat 32 (transfer dma env).units
  let src := dma.saddr + dma.sar.srcinc dma.bitWidth.sz * units
  let dst := dma.daddr + dma.dar.dstinc dma.bitWidth.sz * units
  let todo := todo dma env
  let dma := doSchedule (copied dma env) env.nds_timer
  let dma := { dma with nextEvent := dma.nextEvent + env.time_elapsed }
  countDown (writeBack (freeze dma) src dst) todo

def latchedMode (procnum : Proc) (chan : Fin 4) (bits : BitVec 3) : EDMAMode :=
  match procnum with
  | .ARMCPU_ARM9 =>
      match bits.toNat with
      | 0 => .Immediate
      | 1 => .VBlank
      | 2 => .HBlank
      | 3 => .HStart
      | 4 => .MemDisplay
      | 5 => .Card
      | 6 => .GBASlot
      | _ => .GXFifo
  | .ARMCPU_ARM7 =>
      match (bits >>> 1).toNat with
      | 0 => .Immediate
      | 1 => .VBlank
      | 2 => .Card
      | _ => if chan = 1 ∨ chan = 3 then .GBASlot7 else .Wifi

def scan (dma : DmaController) (env : Env) : DmaController :=
  match dma.startmode with
  | .Immediate => { dma with triggered := true }
  | .GXFifo => if env.gxFIFO_size ≤ 127 then { dma with triggered := true } else dma
  | _ => dma

/-- `exec` ends the transfer that is running, unless it is a geometry transfer
with words left: that one pauses. -/
def ends (dma : DmaController) : Bool :=
  dma.running ∧ ¬(dma.startmode = .GXFifo ∧ dma.wordcount > 0)

/-- The start of `exec`: the bus is unfrozen and the event is taken. -/
def arrive (dma : DmaController) : DmaController :=
  let dma := if dma.procnum = .ARMCPU_ARM9 then
      { dma with freezeBus := dma.freezeBus &&& ~~~((1 : u32) <<< (dma.chan.val + 1)) }
    else dma
  { dma with dmaCheck := false }

def latch (dma : DmaController) : DmaController :=
  { dma with startmode := latchedMode dma.procnum dma.chan dma._startmode }

/-- `exec` after a transfer has ended or paused, up to the copy: the channel and
whether `doCopy` is called on it. -/
def start (dma : DmaController) (env : Env) : DmaController × Bool :=
  if dma.enable then
    let dma := scan (latch dma) env
    if dma.triggered then ({ dma with running := true, paused := false }, true)
    else (dma, false)
  else (dma, false)

def pauseRunning (dma : DmaController) : DmaController :=
  if dma.running then doPause dma else dma

def exec (dma : DmaController) (env : Env) : DmaController :=
  let dma := arrive dma
  if ends dma then doStop dma
  else
    let next := start (pauseRunning dma) env
    if next.2 then doCopy next.1 env else next.1

/-- The channel as `exec` hands it to `doCopy`, when it does. -/
def copying (dma : DmaController) (env : Env) : Option DmaController :=
  let dma := arrive dma
  if ends dma then none
  else
    let next := start (pauseRunning dma) env
    if next.2 then some next.1 else none

/-! ### What one call does -/

variable (dma : DmaController)

theorem wordcount_setControl (val : u32) : (setControl dma val).wordcount = val &&& 0x1FFFFF := by
  simp only [setControl]
  split <;> split <;> rfl

variable (nds_timer : Nat)

theorem wordcount_write32 (val : u32) :
    (write32 dma nds_timer val).wordcount = val &&& 0x1FFFFF := by
  unfold write32
  split
  · exact wordcount_setControl dma val
  · exact wordcount_setControl dma val

theorem wordcount_tryTrigger (mode : EDMAMode) :
    (tryTrigger dma nds_timer mode).wordcount = dma.wordcount := by
  unfold tryTrigger
  split
  · rfl
  · split
    · rfl
    · split <;> rfl

theorem wordcount_doStop : (doStop dma).wordcount = dma.wordcount := by
  simp only [doStop]
  split <;> rfl

theorem wordcount_arrive : (arrive dma).wordcount = dma.wordcount := by
  simp only [arrive]
  split <;> rfl

variable (env : Env)

theorem wordcount_scan : (scan dma env).wordcount = dma.wordcount := by
  unfold scan
  split
  · rfl
  · split <;> rfl
  · rfl

theorem wordcount_start : (start dma env).1.wordcount = dma.wordcount := by
  unfold start
  split
  · simp only []
    split
    · exact wordcount_scan (latch dma) env
    · exact wordcount_scan (latch dma) env
  · rfl

theorem exec_cases :
    (copying dma env = none ∧ (exec dma env).wordcount = dma.wordcount) ∨
      ∃ next, copying dma env = some next ∧ next.wordcount = dma.wordcount ∧
        exec dma env = doCopy next env := by
  have arrived := wordcount_arrive dma
  unfold exec copying
  cases ended : ends (arrive dma) with
  | true =>
      left
      simp only [ended,if_true]
      exact ⟨trivial,(wordcount_doStop _).trans arrived⟩
  | false =>
      simp only [ended,Bool.false_eq_true,if_false]
      have same : (pauseRunning (arrive dma)).wordcount = dma.wordcount := by
        unfold pauseRunning
        split
        · exact arrived
        · exact arrived
      have started := (wordcount_start (pauseRunning (arrive dma)) env).trans same
      cases copies : (start (pauseRunning (arrive dma)) env).2 with
      | false =>
          left
          simp only [Bool.false_eq_true,if_false]
          exact ⟨trivial,started⟩
      | true =>
          right
          simp only [if_true]
          exact ⟨_,rfl,started,rfl⟩

theorem access_startmode (dma : DmaController) (op : Access) :
    (access nds_timer dma op).startmode = dma.startmode := by
  have set (val : u32) : (setControl dma val).startmode = dma.startmode := by
    simp only [setControl]
    split <;> split <;> rfl
  cases op with
  | sad size adr val => rfl
  | dad size adr val => rfl
  | ctrl size adr val =>
      simp only [access,write32]
      split
      · exact set _
      · exact set _
  | trigger mode =>
      simp only [access,tryTrigger]
      split
      · rfl
      · split
        · rfl
        · split <;> rfl

theorem copied_startmode : (copied dma env).startmode = dma.startmode := by
  have nested (accesses : List Access) (dma : DmaController) :
      (accesses.foldl (access env.nds_timer) dma).startmode = dma.startmode :=
    Run.observe_final DmaController.startmode
      (fun op _listed dma => access_startmode env.nds_timer dma op) dma
  unfold copied
  rw [nested]
  unfold frameEnd
  split <;> rfl

theorem freeze_kept :
    (freeze dma).wordcount = dma.wordcount ∧ (freeze dma).repeatMode = dma.repeatMode ∧
      (freeze dma).startmode = dma.startmode := by
  unfold freeze
  split
  · exact ⟨rfl,rfl,rfl⟩
  · exact ⟨rfl,rfl,rfl⟩

theorem writeBack_kept (src dst : u32) :
    (writeBack dma src dst).wordcount = dma.wordcount ∧
      (writeBack dma src dst).repeatMode = dma.repeatMode ∧
      (writeBack dma src dst).startmode = dma.startmode := by
  simp only [writeBack]
  split
  · exact ⟨rfl,rfl,rfl⟩
  · exact ⟨rfl,rfl,rfl⟩

theorem wordcount_countDown (todo : u32) :
    (countDown dma todo).wordcount =
      if dma.repeatMode then dma.wordcount
      else if dma.startmode = .Card then 0
      else dma.wordcount - todo := by
  unfold countDown
  cases dma.repeatMode with
  | true => rfl
  | false =>
      simp only [Bool.false_eq_true,not_false_eq_true,if_true,if_false]
      split
      · rfl
      · rfl

theorem wordcount_doCopy :
    (doCopy dma env).wordcount =
      if (copied dma env).repeatMode then (copied dma env).wordcount
      else if dma.startmode = .Card then 0
      else (copied dma env).wordcount - todo dma env := by
  rw [← copied_startmode dma env]
  simp only [doCopy]
  rw [wordcount_countDown,(writeBack_kept _ _ _).1,(writeBack_kept _ _ _).2.1,
    (writeBack_kept _ _ _).2.2,(freeze_kept _).1,(freeze_kept _).2.1,(freeze_kept _).2.2]
  rfl

end Desmume.Dma
