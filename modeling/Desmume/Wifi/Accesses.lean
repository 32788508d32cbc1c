/-
The accesses of the wireless chip to its memories.

An operation is read as the list of what it loads and stores through an index:
the halfwords of `RAM`, the bytes of the baseband chip, the registers of the RF
chip, and the bytes that a checksum is computed of.
-/

import Desmume.Wifi.Timers

namespace Desmume.Wifi

open Function (update update_of_ne update_self)

inductive Access
  | load (i : Nat)
  | store (i : Nat)
  | BB (i : Nat)
  | RF (i : Nat)
  | WIFI_calcCRC32 (i : Nat) (len : Int)
  deriving DecidableEq

def Access.Inside : Access → Prop
  | .load i => i < 0x1000
  | .store i => i < 0x1000
  | .BB i => i < bbBytes
  | .RF i => i < rfRegisters
  | .WIFI_calcCRC32 i len => 0 ≤ len ∧ 2 * i + len ≤ 2 * 0x1000

def AllInside (accesses : List Access) : Prop := ∀ access ∈ accesses, access.Inside

instance (access : Access) : Decidable access.Inside := by
  cases access <;> unfold Access.Inside <;> infer_instance

instance (accesses : List Access) : Decidable (AllInside accesses) :=
  inferInstanceAs (Decidable (∀ access ∈ accesses, access.Inside))

namespace Mac

variable (mac : Mac)

variable (slot : SlotIndex)

/-- `WIFI_TXStart`. -/
def startAccesses : List Access :=
  let reg := (mac.TXSlots slot).RegVal
  if reg.getLsbD 15 then
    let addr := (reg &&& 0x0FFF).toNat
    if addr > 0x1000 - 6 then []
    else if (mac.mem (addr + 5) &&& 0x3FFF).toNat = 0 then [.load (addr + 5)]
    else [.load (addr + 5),.load (addr + 4)]
  else []

/-- `WIFI_triggerIRQ(WIFI_IRQ_TIMEBEACON)`. -/
def beaconAccesses : List Access :=
  if mac.ucmpEnable then mac.startAccesses WIFI_TXSLOT_BEACON else []

/-- `REG_WIFI_TXREQ_SET`. -/
def requestAccesses (val : u16) : List Access :=
  (if val.getLsbD 0 then mac.startAccesses WIFI_TXSLOT_LOC1 else []) ++
    (if val.getLsbD 1 then mac.startAccesses WIFI_TXSLOT_MPCMD else []) ++
    (if val.getLsbD 2 then mac.startAccesses WIFI_TXSLOT_LOC2 else []) ++
    (if val.getLsbD 3 then mac.startAccesses WIFI_TXSLOT_LOC3 else [])

def eCountAccesses : List Access :=
  if mac.eCountEnable ∧ mac.eCount ≠ 0 ∧ mac.eCount - 1 = 0 then
    mac.startAccesses WIFI_TXSLOT_MPCMD
  else []

def beaconTickAccesses : List Access :=
  if mac.usec &&& 1023 = 0 then
    if mac.BeaconCount1 - 1 = mac.preBeacon then []
    else if mac.BeaconCount1 - 1 = 0 then mac.beaconAccesses
    else []
  else []

def crystalAccesses : List Access :=
  if mac.crystalEnabled then
    (usecTick mac).eCountAccesses ++ (eCountTick (usecTick mac)).beaconTickAccesses
  else []

def compareAccesses : List Access :=
  if mac.ucmpEnable ∧ mac.ucmp = mac.usec then mac.beaconAccesses else []

def countersAccesses : List Access :=
  let mac := { mac with GlobalUsecTimer := mac.GlobalUsecTimer + 1 }
  mac.crystalAccesses ++ (crystalTick mac).compareAccesses

/-- `WIFI_RXPutWord`. -/
def putAccesses : List Access :=
  if mac.RXCnt.getLsbD 15 then [.store (mac.mem RXWriteCursor &&& 0xFFF).toNat] else []

def putAllAccesses (data : Nat → u8) : Mac → List Nat → List Access
  | _, [] => []
  | mac, off :: rest =>
      mac.putAccesses ++ putAllAccesses data (WIFI_RXPutWord mac (dataWord data off)) rest

def IsCommand (cmd : Nat → u8) : Prop :=
  dataWord cmd 12 &&& 0xE7FF = 0x0228 ∧ (dataWord cmd (12 + 26)).getLsbD mac.pid.toNat = true

instance (cmd : Nat → u8) : Decidable (mac.IsCommand cmd) :=
  inferInstanceAs (Decidable (_ ∧ _))

/-- `WIFI_DoAutoReply`. -/
def replyAccesses (cmd : Nat → u8) : List Access :=
  if mac.IsCommand cmd then
    let regval := mac.mem (WIFI_IOREG 0x094)
    let i := (regval &&& 0x0FFF).toNat + 6 + 1
    let mac := mac.setRegVal WIFI_TXSLOT_MPREPLY regval
    .store i ::
      (mac.store i (dataWord cmd (12 + 24))).startAccesses WIFI_TXSLOT_MPREPLY
  else []

def packetDone : Mac :=
  let mac := wrapCursor (mac.store RXWriteCursor
    ((mac.mem RXWriteCursor + 1) &&& ~~~(1 : u16)))
  let mac := mac.store (WIFI_IOREG 0x054) (mac.mem RXWriteCursor)
  WIFI_IncrementRXStat (WIFI_triggerIRQ { mac with RXNum := mac.RXNum + 1 } WIFI_IRQ_RXEND) 7

def headed (pkt : Wifi_RXPacket) : Mac :=
  if pkt.NotStarted then
    WIFI_triggerIRQ
      ([0,2,4,6,8,10].foldl
        (fun mac off => WIFI_RXPutWord mac (dataWord pkt.Data off)) mac)
      WIFI_IRQ_RXSTART
  else mac

def receiveAccesses : List Access :=
  match mac.RXPacketQueue with
  | [] => []
  | pkt :: _ =>
      if mac.GlobalUsecTimer &&& 7 = 0 then
        (if pkt.NotStarted then putAllAccesses pkt.Data mac [0,2,4,6,8,10] else []) ++
          (mac.headed pkt).putAccesses ++
          (if pkt.RemHWords - 1 = 0 then
            (WIFI_RXPutWord (mac.headed pkt)
              (dataWord pkt.Data pkt.CurOffset)).packetDone.replyAccesses pkt.Data
          else [])
      else []

/-- `WIFI_PreTXAdjustments`. -/
def adjustAccesses : List Access :=
  let reg := (mac.TXSlots slot).RegVal
  let addr := (reg &&& 0x0FFF).toNat
  let txLen := (mac.mem (addr + 5) &&& 0x3FFF).toNat
  [.load (addr + 5)] ++
    (if reg.getLsbD 13 = false ∨ slot = WIFI_TXSLOT_BEACON then [.store (addr + 6 + 11)]
      else []) ++
    (if slot = WIFI_TXSLOT_BEACON then
      (List.range 4).map fun part => Access.store (addr + 6 + 12 + part)
      else []) ++
    [.WIFI_calcCRC32 (addr + 6) (txLen - 4 : Int)] ++
    (List.range 2).map fun part => Access.store (addr + 6 + (txLen - 4) / 2 + part)

def sendAccesses : List Access :=
  if mac.wifiCom then
    (List.range (mac.TXSlots slot).RemHWords.toNat).map fun off =>
      Access.load ((mac.TXSlots slot).CurAddr.toNat + off)
  else []

def endAccesses : List Access :=
  let addr := ((mac.TXSlots slot).RegVal &&& 0x0FFF).toNat
  [.store addr,.load (addr + 4),.store (addr + 4)]

def transmitAccesses : List Access :=
  let cur := mac.TXSlots slot
  if cur.RemPreamble > 0 then []
  else if mac.GlobalUsecTimer &&& cur.TimeMask.setWidth 64 = 0 then
    (if cur.NotStarted then mac.adjustAccesses slot ++ mac.sendAccesses slot else []) ++
      (if cur.RemHWords - 1 = 0 then mac.endAccesses slot else [])
  else []

/-- `WIFI_usTrigger`. -/
def tickAccesses : List Access :=
  mac.countersAccesses ++
    match (counters mac).TXCurSlot with
    | some slot => (counters mac).transmitAccesses slot
    | none => (counters mac).receiveAccesses

end Mac

namespace Chip

variable (chip : Chip)

/-- `WIFI_setRF_DATA`. -/
def rfAccesses (val : u16) : List Access :=
  let addressed := chip.setHalf (rfIOData + 2) val
  if chip.rfBusy then []
  else if addressed.rfAddress > rfRegisters then []
  else if (chip.half rfIOCnt).getLsbD 7 then [.RF addressed.rfAddress]
  else if addressed.rfAddress = 13 then []
  else [.RF addressed.rfAddress]

/-- `WIFI_setBB_CNT`. -/
def bbAccesses (val : u16) : List Access :=
  let controlled := chip.setHalf bbIOCnt val
  if controlled.bbMode = 1 then [.BB controlled.bbAddress] else []

/-- The cases of `WIFI_write16` that access a memory. -/
def registerAccesses (addr : Nat) (val : u16) : List Access :=
  match addr with
  | 0x070 => [.store ((chip.mac.mem CircBufWriteAddress >>> 1) &&& 0xFFF).toNat]
  | 0x0AE => chip.mac.requestAccesses val
  | 0x0F0 => if val.getLsbD 0 then chip.mac.beaconAccesses else []
  | 0x158 => chip.bbAccesses val
  | 0x17C => chip.rfAccesses val
  | _ => []

/-- `WIFI_getBB_DATA`. -/
def bbReadAccesses : List Access :=
  if (chip.half bbIOCnt).getLsbD 14 = false ∨ chip.bbMode ≠ 2 then [] else [.BB chip.bbAddress]

def registerReadAccesses (addr : Nat) : List Access :=
  match addr with
  | 0x060 => [.load (chip.mac.mem CircBufReadAddress >>> 1).toNat]
  | 0x15C => chip.bbReadAccesses
  | _ => []

def isMemory (addr : u32) : Bool :=
  decide (0x4000 ≤ addr &&& 0x7000 ∧ addr &&& 0x7000 < 0x6000)

/-- The halfword of `RAM` at an address. -/
def memoryIndex (addr : u32) : Nat := ((addr &&& 0x1FFF) >>> 1).toNat

def accesses : Op → List Access
  | .power2 _ => []
  | .write16 addr val =>
      if chip.mac.power2_wifi = false then []
      else if isMemory addr then [.store (memoryIndex addr)]
      else if isRegister addr then chip.registerAccesses (register addr) val
      else []
  | .read16 addr =>
      if chip.mac.power2_wifi = false then []
      else if isMemory addr then [.load (memoryIndex addr)]
      else if isRegister addr then chip.registerReadAccesses (register addr)
      else []
  | .usTrigger _ _ => chip.mac.tickAccesses

end Chip

def Frame (touched : Nat → Prop) (mac after : Mac) : Prop :=
  ∀ i, ¬ touched i → after.mem i = mac.mem i

variable {touched : Nat → Prop} {first second third : Mac}

theorem Frame.of_mem (same : second.mem = first.mem) : Frame touched first second :=
  fun i _ => congrFun same i

theorem Frame.refl (mac : Mac) : Frame touched mac mac := Frame.of_mem rfl

theorem Frame.trans (earlier : Frame touched first second) (later : Frame touched second third) :
    Frame touched first third :=
  fun i outside => (later i outside).trans (earlier i outside)

theorem Frame.mono {wider : Nat → Prop} (frame : Frame touched first second)
    (within : ∀ i, touched i → wider i) : Frame wider first second :=
  fun i outside => frame i fun inside => outside (within i inside)

variable {slot : SlotIndex} {replies : List Packet} {after : Mac} {i : Nat}

theorem frame_store (mac : Mac) (val : u16) (inside : touched i) :
    Frame touched mac (mac.store i val) := by
  intro other outside
  refine update_of_ne ?_ _ _
  rintro rfl
  exact outside inside

theorem frame_store32 (mac : Mac) (val : u32) (inside : touched i)
    (next : touched (i + 1)) : Frame touched mac (mac.store32 i val) :=
  (frame_store mac _ inside).trans (frame_store _ _ next)

theorem frame_store64 (mac : Mac) (val : u64)
    (inside : ∀ part < 4, touched (i + part)) : Frame touched mac (mac.store64 i val) :=
  (frame_store32 mac _ (inside 0 (by omega)) (inside 1 (by omega))).trans
    (frame_store32 _ _ (inside 2 (by omega)) (inside 3 (by omega)))

structure Buffers where
  mem : Nat → u16
  power2_wifi : Bool
  RXCnt : u16
  RXPacketQueue : List Wifi_RXPacket
  pid : u16

def Mac.buffers (mac : Mac) : Buffers where
  mem := mac.mem
  power2_wifi := mac.power2_wifi
  RXCnt := mac.RXCnt
  RXPacketQueue := mac.RXPacketQueue
  pid := mac.pid

@[simp] theorem buffers_TXStart (mac : Mac) (slot : SlotIndex) :
    (WIFI_TXStart mac slot).buffers = mac.buffers := by
  unfold WIFI_TXStart acceptStart
  dsimp only
  split_ifs <;> rfl

@[simp] theorem buffers_triggerIRQMask (mac : Mac) (mask : u16) :
    (WIFI_triggerIRQMask mac mask).buffers = mac.buffers := rfl

@[simp] theorem buffers_timeBeacon (mac : Mac) : (timeBeacon mac).buffers = mac.buffers := by
  have listened (mac : Mac) : (listenTick mac).buffers = mac.buffers := rfl
  unfold timeBeacon
  dsimp only
  split
  · rw [listened,buffers_TXStart]
    rfl
  · rfl

@[simp] theorem buffers_triggerIRQ (mac : Mac) (irq : Nat) :
    (WIFI_triggerIRQ mac irq).buffers = mac.buffers := by
  unfold WIFI_triggerIRQ
  rw [buffers_triggerIRQMask]
  split
  · exact buffers_timeBeacon mac
  · rfl

@[simp] theorem buffers_usecTick (mac : Mac) : (usecTick mac).buffers = mac.buffers := by
  unfold usecTick
  split <;> rfl

@[simp] theorem buffers_eCountTick (mac : Mac) : (eCountTick mac).buffers = mac.buffers := by
  unfold eCountTick
  dsimp only
  split
  · split
    · exact buffers_TXStart _ _
    · rfl
  · rfl

@[simp] theorem buffers_postBeaconTick (mac : Mac) :
    (postBeaconTick mac).buffers = mac.buffers := by
  unfold postBeaconTick
  dsimp only
  split
  · split
    · exact buffers_triggerIRQ _ _
    · rfl
  · rfl

@[simp] theorem buffers_beaconTick (mac : Mac) : (beaconTick mac).buffers = mac.buffers := by
  unfold beaconTick
  dsimp only
  split
  · rw [buffers_postBeaconTick]
    split_ifs
    · exact buffers_triggerIRQ _ _
    · exact buffers_triggerIRQ _ _
    · rfl
  · rfl

@[simp] theorem buffers_counters (mac : Mac) : (counters mac).buffers = mac.buffers := by
  have crystal (mac : Mac) : (crystalTick mac).buffers = mac.buffers := by
    unfold crystalTick
    split
    · rw [buffers_beaconTick,buffers_eCountTick,buffers_usecTick]
    · rfl
  unfold counters compareTick
  split
  · rw [buffers_triggerIRQ,crystal]
    rfl
  · exact crystal _

@[simp] theorem buffers_IncrementRXStat (mac : Mac) (stat : Fin 16) :
    (WIFI_IncrementRXStat mac stat).buffers = mac.buffers := by
  have counted :
      { mac with RXStat := update mac.RXStat stat (mac.RXStat stat + 1) }.buffers =
        mac.buffers := rfl
  have incremented (mac : Mac) (bitmask : u16) :
      (if mac.RXStatIncIE &&& bitmask ≠ 0 then
        WIFI_triggerIRQ { mac with RXStatIncIF := mac.RXStatIncIF ||| bitmask } WIFI_IRQ_RXINC
      else mac).buffers = mac.buffers := by
    split
    · exact buffers_triggerIRQ _ _
    · rfl
  have overflowed (mac : Mac) (bitmask : u16) :
      (if mac.RXStat stat &&& 0x80 ≠ 0 ∧ mac.RXStatOvfIE &&& bitmask ≠ 0 then
        WIFI_triggerIRQ { mac with RXStatOvfIF := mac.RXStatOvfIF ||| bitmask } WIFI_IRQ_RXOVF
      else mac).buffers = mac.buffers := by
    split
    · exact buffers_triggerIRQ _ _
    · rfl
  exact (overflowed _ (bitmasks.getD stat 0)).trans
    ((incremented _ (bitmasks.getD stat 0)).trans counted)

theorem mem_of_buffers {mac : Mac} (same : after.buffers = mac.buffers) : after.mem = mac.mem :=
  congrArg Buffers.mem same

theorem mem_triggerIRQ (mac : Mac) (irq : Nat) : (WIFI_triggerIRQ mac irq).mem = mac.mem :=
  mem_of_buffers (buffers_triggerIRQ mac irq)

theorem mem_counters (mac : Mac) : (counters mac).mem = mac.mem :=
  mem_of_buffers (buffers_counters mac)

@[simp] theorem mem_queueAll (mac : Mac) (packets : List Packet) :
    (packets.foldl WIFI_RXQueuePacket mac).mem = mac.mem := by
  induction packets generalizing mac with
  | nil => rfl
  | cons packet rest ih =>
      rw [List.foldl_cons,ih]
      unfold WIFI_RXQueuePacket
      split <;> rfl

@[simp] theorem mem_msTrigger (mac : Mac) (arrivals : List Packet) :
    (msTrigger mac arrivals).mem = mac.mem := by
  unfold msTrigger
  split
  · exact mem_queueAll mac arrivals
  · rfl

theorem frame_wrapCursor (mac : Mac) (cursor : touched RXWriteCursor) :
    Frame touched mac (wrapCursor mac) := by
  unfold wrapCursor
  split
  · exact frame_store mac _ cursor
  · exact Frame.refl mac

theorem frame_RXPutWord (mac : Mac) (val : u16) (cursor : touched RXWriteCursor)
    (stored : ∀ i, Access.store i ∈ mac.putAccesses → touched i) :
    Frame touched mac (WIFI_RXPutWord mac val) := by
  unfold WIFI_RXPutWord
  unfold Mac.putAccesses at stored
  dsimp only
  split
  next enabled =>
    rw [if_pos enabled] at stored
    have word := frame_store mac val (stored _ (List.mem_singleton_self _))
    have shown (mac : Mac) (addr : u16) : Frame touched mac { mac with RXTXAddr := addr } :=
      Frame.of_mem rfl
    refine Frame.trans ?_ (shown _ _)
    refine Frame.trans ?_ (frame_wrapCursor _ cursor)
    exact word.trans (frame_store _ _ cursor)
  next => exact Frame.refl mac

theorem frame_putAll (data : Nat → u8) (offsets : List Nat) (mac : Mac)
    (cursor : touched RXWriteCursor)
    (stored : ∀ i, Access.store i ∈ Mac.putAllAccesses data mac offsets → touched i) :
    Frame touched mac (offsets.foldl
      (fun mac off => WIFI_RXPutWord mac (dataWord data off)) mac) := by
  induction offsets generalizing mac with
  | nil => exact Frame.refl mac
  | cons off rest ih =>
      have here := frame_RXPutWord mac (dataWord data off) cursor
        fun i member => stored i (List.mem_append_left _ member)
      exact here.trans (ih _
        fun i member => stored i (List.mem_append_right _ member))

theorem frame_DoAutoReply (mac : Mac) (cmd : Nat → u8)
    (stored : ∀ i, Access.store i ∈ mac.replyAccesses cmd → touched i) :
    Frame touched mac (WIFI_DoAutoReply mac cmd) := by
  unfold WIFI_DoAutoReply
  dsimp only
  split
  next command =>
    split
    next ours =>
      rw [Mac.replyAccesses,if_pos (show mac.IsCommand cmd from ⟨command,ours⟩)] at stored
      have replied := frame_store (mac.setRegVal WIFI_TXSLOT_MPREPLY (mac.mem (WIFI_IOREG 0x094)))
        (dataWord cmd (12 + 24)) (stored _ List.mem_cons_self)
      exact (Frame.of_mem rfl).trans (replied.trans (Frame.of_mem (mem_TXStart _ _)))
    next => exact Frame.refl mac
  next => exact Frame.refl mac

theorem frame_packetDone (mac : Mac) (cursor : touched RXWriteCursor)
    (hardware : touched (WIFI_IOREG 0x054)) : Frame touched mac mac.packetDone := by
  have aligned := frame_store mac ((mac.mem RXWriteCursor + 1) &&& ~~~(1 : u16)) cursor
  have wrapped := aligned.trans (frame_wrapCursor _ cursor)
  unfold Mac.packetDone
  dsimp only
  refine Frame.trans ?_ (Frame.of_mem (mem_of_buffers (buffers_IncrementRXStat _ 7)))
  refine Frame.trans ?_ (Frame.of_mem (mem_triggerIRQ _ _))
  exact wrapped.trans (frame_store _ _ hardware)

theorem finishPacket_eq (mac : Mac) (pkt : Wifi_RXPacket) (rest : List Wifi_RXPacket) :
    finishPacket mac pkt rest =
      { WIFI_DoAutoReply mac.packetDone pkt.Data with RXPacketQueue := rest } := rfl

/-- Reception touches its cursor, the register that shows it, and what it stores. -/
theorem frame_receive (mac : Mac) :
    Frame (fun i => Access.store i ∈ mac.receiveAccesses ∨ i = RXWriteCursor ∨
      i = WIFI_IOREG 0x054) mac (receive mac) := by
  unfold receive Mac.receiveAccesses
  cases queue : mac.RXPacketQueue with
  | nil => exact Frame.refl mac
  | cons pkt rest =>
      dsimp only
      by_cases turn : mac.GlobalUsecTimer &&& 7 = 0
      · rw [if_pos turn,if_pos turn]
        have header : Frame (fun i => Access.store i ∈
            (if pkt.NotStarted then Mac.putAllAccesses pkt.Data mac [0,2,4,6,8,10] else []) ∨
            i = RXWriteCursor) mac (mac.headed pkt) := by
          unfold Mac.headed
          split
          · refine Frame.trans ?_ (Frame.of_mem (mem_triggerIRQ _ _))
            exact frame_putAll pkt.Data _ mac (Or.inr rfl) fun i member => Or.inl member
          · exact Frame.refl mac
        have word : Frame (fun i => Access.store i ∈ (mac.headed pkt).putAccesses ∨
            i = RXWriteCursor) (mac.headed pkt)
            (WIFI_RXPutWord (mac.headed pkt) (dataWord pkt.Data pkt.CurOffset)) :=
          frame_RXPutWord _ _ (Or.inr rfl) fun i member => Or.inl member
        by_cases last : pkt.RemHWords - 1 = 0
        · rw [if_pos last,if_pos last]
          have ended : Frame (fun i => i = RXWriteCursor ∨ i = WIFI_IOREG 0x054)
              (WIFI_RXPutWord (mac.headed pkt) (dataWord pkt.Data pkt.CurOffset))
              (WIFI_RXPutWord (mac.headed pkt) (dataWord pkt.Data pkt.CurOffset)).packetDone :=
            frame_packetDone _ (Or.inl rfl) (Or.inr rfl)
          have replied := frame_DoAutoReply (WIFI_RXPutWord (mac.headed pkt)
            (dataWord pkt.Data pkt.CurOffset)).packetDone pkt.Data (fun i member => member)
          rw [finishPacket_eq]
          refine Frame.trans (header.mono ?_) (Frame.trans (word.mono ?_)
            (Frame.trans (ended.mono ?_) (replied.mono ?_)))
          · rintro i (stored | cursor)
            · exact Or.inl (List.mem_append_left _ (List.mem_append_left _ stored))
            · exact Or.inr (Or.inl cursor)
          · rintro i (stored | cursor)
            · exact Or.inl (List.mem_append_left _ (List.mem_append_right _ stored))
            · exact Or.inr (Or.inl cursor)
          · exact fun i regs => Or.inr regs
          · exact fun i stored => Or.inl (List.mem_append_right _ stored)
        · rw [if_neg last,if_neg last]
          refine Frame.trans (header.mono ?_) (word.mono ?_)
          · rintro i (stored | cursor)
            · exact Or.inl (List.mem_append_left _ (List.mem_append_left _ stored))
            · exact Or.inr (Or.inl cursor)
          · rintro i (stored | cursor)
            · exact Or.inl (List.mem_append_left _ (List.mem_append_right _ stored))
            · exact Or.inr (Or.inl cursor)
      · rw [if_neg turn,if_neg turn]
        exact Frame.refl mac

/-! ### Sending -/

theorem frame_PreTXAdjustments {mac adjusted : Mac}
    (returned : WIFI_PreTXAdjustments mac slot = some adjusted) :
    Frame (fun i => Access.store i ∈ mac.adjustAccesses slot) mac adjusted := by
  unfold WIFI_PreTXAdjustments at returned
  obtain ⟨crc,_computed,rfl⟩ := Option.map_eq_some_iff.mp returned
  unfold Mac.adjustAccesses
  dsimp only
  generalize (mac.TXSlots slot).RegVal = reg
  generalize (reg &&& 0x0FFF).toNat = addr
  generalize (mac.mem (addr + 5) &&& 0x3FFF).toNat = txLen
  have numbered : Frame (fun i => Access.store i ∈
      (if reg.getLsbD 13 = false ∨ slot = WIFI_TXSLOT_BEACON then
        [Access.store (addr + 6 + 11)] else [])) mac
      (if reg.getLsbD 13 = false ∨ slot = WIFI_TXSLOT_BEACON then setSequenceNumber mac addr
        else mac) := by
    split
    · have stored : Frame (fun i => Access.store i ∈ [Access.store (addr + 6 + 11)]) mac
          (mac.store (addr + 6 + 11) (mac.TXSeqNo <<< 4)) :=
        frame_store mac _ (List.mem_singleton_self _)
      exact stored.trans (Frame.of_mem rfl)
    · exact Frame.refl mac
  have stamped (mac : Mac) : Frame (fun i => Access.store i ∈
      (if slot = WIFI_TXSLOT_BEACON then
        (List.range 4).map fun part => Access.store (addr + 6 + 12 + part) else [])) mac
      (if slot = WIFI_TXSLOT_BEACON then mac.store64 (addr + 6 + 12) mac.usec else mac) := by
    split
    · refine frame_store64 mac _ ?_
      intro part below
      exact List.mem_map.mpr ⟨part,List.mem_range.mpr below,rfl⟩
    · exact Frame.refl mac
  have summed (mac : Mac) : Frame (fun i => Access.store i ∈
      (List.range 2).map fun part => Access.store (addr + 6 + (txLen - 4) / 2 + part)) mac
      (mac.store32 (addr + 6 + (txLen - 4) / 2) crc) :=
    frame_store32 mac crc (List.mem_map.mpr ⟨0,List.mem_range.mpr (by omega),rfl⟩)
      (List.mem_map.mpr ⟨1,List.mem_range.mpr (by omega),rfl⟩)
  refine Frame.trans (numbered.mono ?_) (Frame.trans ((stamped _).mono ?_) ((summed _).mono ?_))
  · intro i member
    simp only [List.mem_append,member,or_true,true_or]
  · intro i member
    simp only [List.mem_append,member,or_true,true_or]
  · intro i member
    exact List.mem_append_right _ member

theorem mem_sendPacket (mac : Mac) (slot : SlotIndex) (replies : List Packet) :
    (sendPacket mac slot replies).mem = mac.mem := by
  unfold sendPacket
  split
  · exact mem_queueAll _ replies
  · rfl

theorem frame_reportEnd (mac : Mac) (slot : SlotIndex) :
    Frame (fun i => i = WIFI_IOREG 0x094) mac (reportEnd mac slot) := by
  have stated (mac : Mac) (stat : u16) : { mac with TXStat := stat }.mem = mac.mem := rfl
  have setRegVal (mac : Mac) (slot : SlotIndex) (val : u16) :
      (mac.setRegVal slot val).mem = mac.mem := rfl
  unfold reportEnd
  dsimp only
  split
  · apply Frame.of_mem
    rw [setRegVal]
    split_ifs <;> simp only [mem_triggerIRQ]
  · apply Frame.of_mem
    split_ifs
    · exact mem_triggerIRQ mac _
    · rfl
  · refine Frame.trans (Frame.of_mem ?_) (frame_store _ _ rfl)
    rw [setRegVal,mem_triggerIRQ]
  · apply Frame.of_mem
    rw [setRegVal,stated,mem_triggerIRQ]

theorem TXSlots_triggerIRQ (mac : Mac) {irq : Nat} (other : irq ≠ WIFI_IRQ_TIMEBEACON) :
    (WIFI_triggerIRQ mac irq).TXSlots = mac.TXSlots := by
  unfold WIFI_triggerIRQ
  rw [if_neg other]
  rfl

theorem address_reportEnd (mac : Mac) (slot : SlotIndex) :
    ((reportEnd mac slot).TXSlots slot).RegVal &&& 0x0FFF =
      (mac.TXSlots slot).RegVal &&& 0x0FFF := by
  have cleared (after : Mac) (slot : SlotIndex) (reg : u16) :
      ((after.setRegVal slot (reg &&& 0x7FFF)).TXSlots slot).RegVal &&& 0x0FFF =
        reg &&& 0x0FFF := by
    have stored : (after.setRegVal slot (reg &&& 0x7FFF)).TXSlots slot =
        { after.TXSlots slot with RegVal := reg &&& 0x7FFF } := update_self _ _ _
    rw [stored]
    change reg &&& 0x7FFF &&& 0x0FFF = _
    rw [BitVec.and_assoc]
    rfl
  have ended : (WIFI_triggerIRQ mac WIFI_IRQ_TXEND).TXSlots = mac.TXSlots :=
    TXSlots_triggerIRQ mac (by decide)
  unfold reportEnd
  dsimp only
  split
  · exact cleared _ 1 _
  · split_ifs
    · exact congrArg (fun slots => (slots 4).RegVal &&& 0x0FFF) ended
    · rfl
  · exact cleared _ 5 _
  · exact cleared _ _ _

theorem frame_endTransmission (mac : Mac) (slot : SlotIndex) :
    Frame (fun i => Access.store i ∈ mac.endAccesses slot ∨ i = WIFI_IOREG 0x094) mac
      (endTransmission mac slot) := by
  have freed (mac : Mac) (busy : u16) (next : Option SlotIndex) :
      { mac with TXBusy := busy, TXCurSlot := next }.mem = mac.mem := rfl
  unfold endTransmission Mac.endAccesses
  dsimp only
  rw [address_reportEnd]
  generalize ((mac.TXSlots slot).RegVal &&& 0x0FFF).toNat = addr
  refine Frame.trans ?_ (Frame.of_mem (freed _ _ _))
  refine Frame.trans ?_ (Frame.of_mem rfl)
  refine Frame.trans ((frame_reportEnd mac slot).mono fun i here => Or.inr here) ?_
  refine Frame.trans (frame_store _ 0x0001 (Or.inl List.mem_cons_self)) (frame_store _ _ ?_)
  exact Or.inl (List.mem_cons_of_mem _ (List.mem_cons_of_mem _ List.mem_cons_self))

theorem TXSlots_PreTXAdjustments {mac adjusted : Mac}
    (returned : WIFI_PreTXAdjustments mac slot = some adjusted) :
    adjusted.TXSlots = mac.TXSlots := by
  unfold WIFI_PreTXAdjustments at returned
  obtain ⟨crc,_computed,rfl⟩ := Option.map_eq_some_iff.mp returned
  have numbered (mac : Mac) (addr : Nat) :
      (setSequenceNumber mac addr).TXSlots = mac.TXSlots := rfl
  have summed (mac : Mac) (i : Nat) (val : u32) :
      (mac.store32 i val).TXSlots = mac.TXSlots := rfl
  have stamped (mac : Mac) (i : Nat) (val : u64) :
      (mac.store64 i val).TXSlots = mac.TXSlots := by
    rw [Mac.store64,summed,summed]
  rw [summed]
  split
  · split
    · rw [stamped,numbered]
    · rw [stamped]
  · split
    · rw [numbered]
    · rfl

theorem TXSlots_sendPacket (mac : Mac) (slot : SlotIndex) (replies : List Packet) :
    (sendPacket mac slot replies).TXSlots = mac.TXSlots := by
  have queued (packets : List Packet) (mac : Mac) :
      (packets.foldl WIFI_RXQueuePacket mac).TXSlots = mac.TXSlots := by
    induction packets generalizing mac with
    | nil => rfl
    | cons packet rest ih =>
        rw [List.foldl_cons,ih]
        unfold WIFI_RXQueuePacket
        split <;> rfl
  unfold sendPacket
  split
  · exact queued replies _
  · rfl

theorem TXSlots_beginTransmission {mac begun : Mac}
    (returned : beginTransmission mac slot replies = some begun) :
    begun.TXSlots slot = { mac.TXSlots slot with NotStarted := false } := by
  unfold beginTransmission at returned
  obtain ⟨adjusted,prepared,rfl⟩ := Option.map_eq_some_iff.mp returned
  have kept : (sendPacket (WIFI_triggerIRQ adjusted WIFI_IRQ_TXSTART) slot replies).TXSlots =
      mac.TXSlots := by
    rw [TXSlots_sendPacket,TXSlots_triggerIRQ _ (by decide),TXSlots_PreTXAdjustments prepared]
  change update _ slot _ slot = _
  rw [update_self,kept]

theorem frame_beginTransmission {mac begun : Mac}
    (returned : beginTransmission mac slot replies = some begun) :
    Frame (fun i => Access.store i ∈ mac.adjustAccesses slot) mac begun := by
  unfold beginTransmission at returned
  obtain ⟨adjusted,prepared,rfl⟩ := Option.map_eq_some_iff.mp returned
  refine Frame.trans (frame_PreTXAdjustments prepared) (Frame.of_mem ?_)
  change (sendPacket (WIFI_triggerIRQ adjusted WIFI_IRQ_TXSTART) slot replies).mem = _
  rw [mem_sendPacket,mem_triggerIRQ]

theorem frame_sendHalfword (mac : Mac) (slot : SlotIndex) :
    Frame (fun i => Access.store i ∈
        (if (mac.TXSlots slot).RemHWords - 1 = 0 then mac.endAccesses slot else []) ∨
      i = WIFI_IOREG 0x094) mac (sendHalfword mac slot) := by
  unfold sendHalfword
  dsimp only
  by_cases last : (mac.TXSlots slot).RemHWords - 1 = 0
  · rw [if_pos last,if_pos last]
    have own (val : Wifi_TXSlot) (addr : u16) :
        { mac.setSlot slot val with RXTXAddr := addr }.TXSlots slot = val :=
      update_self _ _ _
    have shown (val : Wifi_TXSlot) (addr : u16) :
        { mac.setSlot slot val with RXTXAddr := addr }.mem = mac.mem := rfl
    refine Frame.trans (Frame.of_mem (shown _ _)) ((frame_endTransmission _ slot).mono ?_)
    unfold Mac.endAccesses
    rw [own]
    exact fun i touched => touched
  · rw [if_neg last,if_neg last]
    exact Frame.of_mem rfl

theorem frame_transmit {mac : Mac} (returned : transmit mac slot replies = some after) :
    Frame (fun i => Access.store i ∈ mac.transmitAccesses slot ∨
      i = WIFI_IOREG 0x094) mac after := by
  unfold transmit at returned
  unfold Mac.transmitAccesses
  dsimp only at returned ⊢
  by_cases preamble : (mac.TXSlots slot).RemPreamble > 0
  · rw [if_pos preamble] at returned ⊢
    cases returned
    exact Frame.of_mem rfl
  · rw [if_neg preamble] at returned ⊢
    by_cases turn : mac.GlobalUsecTimer &&& (mac.TXSlots slot).TimeMask.setWidth 64 = 0
    · rw [if_pos turn] at returned ⊢
      obtain ⟨begun,first,rfl⟩ := Option.map_eq_some_iff.mp returned
      cases fresh : (mac.TXSlots slot).NotStarted with
      | false =>
          rw [fresh] at first
          cases first
          refine (frame_sendHalfword mac slot).mono ?_
          rintro i (stored | reg)
          · exact Or.inl (List.mem_append_right _ stored)
          · exact Or.inr reg
      | true =>
          rw [fresh] at first
          have own := TXSlots_beginTransmission first
          have sent := frame_sendHalfword begun slot
          unfold Mac.endAccesses at sent
          rw [own] at sent
          refine Frame.trans ((frame_beginTransmission first).mono ?_) (sent.mono ?_)
          · intro i stored
            exact Or.inl (List.mem_append_left _ (List.mem_append_left _ stored))
          · rintro i (stored | reg)
            · exact Or.inl (List.mem_append_right _ stored)
            · exact Or.inr reg
    · rw [if_neg turn] at returned ⊢
      cases returned
      exact Frame.refl _

theorem frame_usTrigger {mac : Mac} {arrivals : List Packet}
    (returned : WIFI_usTrigger mac replies arrivals = some after) :
    Frame (fun i => Access.store i ∈ mac.tickAccesses ∨
      i ∈ [RXWriteCursor,WIFI_IOREG 0x054,WIFI_IOREG 0x094]) mac after := by
  unfold WIFI_usTrigger at returned
  obtain ⟨worked,first,rfl⟩ := Option.map_eq_some_iff.mp returned
  refine Frame.trans (Frame.of_mem (mem_counters mac)) ?_
  refine Frame.trans ?_ (Frame.of_mem (mem_msTrigger worked arrivals))
  unfold Mac.tickAccesses
  cases current : (counters mac).TXCurSlot with
  | none =>
      rw [current] at first
      cases first
      refine (frame_receive _).mono ?_
      rintro i (stored | cursor | hardware)
      · exact Or.inl (List.mem_append_right _ stored)
      · exact Or.inr (by simp [cursor])
      · exact Or.inr (by simp [hardware])
  | some slot =>
      rw [current] at first
      refine (frame_transmit first).mono ?_
      rintro i (stored | reg)
      · exact Or.inl (List.mem_append_right _ stored)
      · exact Or.inr (by simp [reg])

end Desmume.Wifi
