/-
What the work of the controller leaves to the interrupts and the timers.

Sending and receiving only raise interrupts, never that of the beacon, and leave
the enable bits and the counters alone.
-/

import Desmume.Wifi.Chip

namespace Desmume.Wifi

/-- `wifiMac.IE & wifiMac.IF`. -/
def Mac.pending (mac : Mac) : u16 := mac.IE &&& mac.IF

/-- The interrupts that are raised, and the ARM7 told of the first. -/
structure Raises (before after : Mac) : Prop where
  enabled : after.IE = before.IE
  kept : ∀ irq, before.IF.getLsbD irq = true → after.IF.getLsbD irq = true
  told : after.arm7Irq =
    (before.arm7Irq || (before.pending == 0 && after.pending != 0))

/-- The counters, and whether the beacon's interrupt is raised. -/
structure Timers where
  crystalEnabled : Bool
  usecEnable : Bool
  ucmpEnable : Bool
  usec : u64
  ucmp : u64
  BeaconInterval : u16
  BeaconCount1 : u16
  BeaconCount2 : u16
  raised : Bool

def Mac.timers (mac : Mac) : Timers where
  crystalEnabled := mac.crystalEnabled
  usecEnable := mac.usecEnable
  ucmpEnable := mac.ucmpEnable
  usec := mac.usec
  ucmp := mac.ucmp
  BeaconInterval := mac.BeaconInterval
  BeaconCount1 := mac.BeaconCount1
  BeaconCount2 := mac.BeaconCount2
  raised := mac.IF.getLsbD WIFI_IRQ_TIMEBEACON

structure Works (before after : Mac) : Prop where
  raises : Raises before after
  timers : after.timers = before.timers

theorem pending_ne_zero {before after : Mac} (enabled : after.IE = before.IE)
    (kept : ∀ irq, before.IF.getLsbD irq = true → after.IF.getLsbD irq = true)
    (pending : before.pending ≠ 0) : after.pending ≠ 0 := by
  intro none
  apply pending
  apply BitVec.eq_of_getLsbD_eq
  intro irq inside
  have clear : after.pending.getLsbD irq = false := by
    rw [none]
    exact BitVec.getLsbD_zero
  change before.pending.getLsbD irq = (0#16).getLsbD irq
  rw [BitVec.getLsbD_zero,Mac.pending,BitVec.getLsbD_and]
  rw [Mac.pending,BitVec.getLsbD_and,enabled] at clear
  cases raised : before.IF.getLsbD irq with
  | false => exact Bool.and_false _
  | true =>
      rw [kept irq raised] at clear
      exact clear

theorem Raises.of_same {before after : Mac} (enabled : after.IE = before.IE)
    (raised : after.IF = before.IF) (told : after.arm7Irq = before.arm7Irq) :
    Raises before after where
  enabled := enabled
  kept := fun irq was => raised ▸ was
  told := by
    have same : after.pending = before.pending := by
      unfold Mac.pending
      rw [enabled,raised]
    rw [told,same]
    cases before.arm7Irq with
    | true => rfl
    | false =>
        cases none : before.pending == 0 with
        | false => rfl
        | true =>
            rw [eq_of_beq none]
            rfl

variable (mac : Mac)

theorem Raises.refl : Raises mac mac := Raises.of_same rfl rfl rfl

theorem Raises.trans {first second third : Mac} (earlier : Raises first second)
    (later : Raises second third) : Raises first third where
  enabled := later.enabled.trans earlier.enabled
  kept := fun irq was => later.kept irq (earlier.kept irq was)
  told := by
    have lasts := pending_ne_zero later.enabled later.kept
    have starts := pending_ne_zero earlier.enabled earlier.kept
    rw [later.told,earlier.told]
    cases first.arm7Irq with
    | true => rfl
    | false =>
        rw [Bool.false_or,Bool.false_or]
        by_cases none : first.pending = 0
        · by_cases middle : second.pending = 0
          · rw [none,middle]
            rfl
          · rw [beq_iff_eq.mpr none,bne_iff_ne.mpr middle,bne_iff_ne.mpr (lasts middle)]
            rfl
        · rw [beq_false_of_ne none,beq_false_of_ne (starts none)]
          rfl

theorem raises_triggerIRQMask (mask : u16) :
    Raises mac (WIFI_triggerIRQMask mac mask) where
  enabled := rfl
  kept := fun irq was => by
    change (mac.IF ||| (mask &&& ~~~(0x0400 : u16))).getLsbD irq = true
    rw [BitVec.getLsbD_or,was,Bool.true_or]
  told := rfl

theorem Raises.arm7Irq {before after : Mac} (raises : Raises before after)
    (quiet : before.arm7Irq = false) :
    after.arm7Irq = true ↔ before.pending = 0 ∧ after.pending ≠ 0 := by
  rw [raises.told,quiet,Bool.false_or,Bool.and_eq_true,beq_iff_eq,bne_iff_ne]

theorem Works.of_same {before after : Mac} (enabled : after.IE = before.IE)
    (raised : after.IF = before.IF) (told : after.arm7Irq = before.arm7Irq)
    (timers : after.timers = before.timers) : Works before after :=
  ⟨Raises.of_same enabled raised told,timers⟩

theorem Works.refl : Works mac mac := ⟨Raises.refl mac,rfl⟩

theorem Works.trans {first second third : Mac} (earlier : Works first second)
    (later : Works second third) : Works first third :=
  ⟨earlier.raises.trans later.raises,later.timers.trans earlier.timers⟩

theorem works_store (i : Nat) (val : u16) : Works mac (mac.store i val) :=
  Works.of_same rfl rfl rfl rfl

theorem works_store32 (i : Nat) (val : u32) :
    Works mac (mac.store32 i val) :=
  (works_store mac _ _).trans (works_store _ _ _)

theorem works_store64 (i : Nat) (val : u64) :
    Works mac (mac.store64 i val) :=
  (works_store32 mac _ _).trans (works_store32 _ _ _)

theorem works_setSlot (slot : SlotIndex) (val : Wifi_TXSlot) :
    Works mac (mac.setSlot slot val) :=
  Works.of_same rfl rfl rfl rfl

theorem works_triggerIRQ {irq : Nat} (other : irq ≠ WIFI_IRQ_TIMEBEACON) :
    Works mac (WIFI_triggerIRQ mac irq) := by
  have beacon : (mac.IF ||| (BitVec.twoPow 16 irq &&& ~~~(0x0400 : u16))).getLsbD
      WIFI_IRQ_TIMEBEACON = mac.IF.getLsbD WIFI_IRQ_TIMEBEACON := by
    rw [BitVec.getLsbD_or,BitVec.getLsbD_and,BitVec.getLsbD_twoPow,decide_eq_false other,
      Bool.and_false,Bool.false_and,Bool.or_false]
  unfold WIFI_triggerIRQ
  rw [if_neg other]
  refine ⟨raises_triggerIRQMask mac _,?_⟩
  unfold Mac.timers
  rw [← beacon]
  rfl

theorem works_TXStart (slot : SlotIndex) : Works mac (WIFI_TXStart mac slot) := by
  unfold WIFI_TXStart
  dsimp only
  split
  · split
    · exact Works.refl mac
    · split
      · exact Works.refl mac
      · exact Works.of_same rfl rfl rfl rfl
  · exact Works.refl mac

theorem works_wrapCursor : Works mac (wrapCursor mac) := by
  unfold wrapCursor
  split
  · exact works_store mac _ _
  · exact Works.refl mac

theorem works_RXPutWord (val : u16) : Works mac (WIFI_RXPutWord mac val) := by
  have addressed (mac : Mac) (addr : u16) : Works mac { mac with RXTXAddr := addr } :=
    Works.of_same rfl rfl rfl rfl
  unfold WIFI_RXPutWord
  split
  · refine Works.trans ?_ (addressed _ _)
    refine Works.trans ?_ (works_wrapCursor _)
    exact (works_store mac _ val).trans (works_store _ _ _)
  · exact Works.refl mac

theorem works_putWords (data : Nat → u8) (offsets : List Nat) :
    Works mac
      (offsets.foldl (fun mac off => WIFI_RXPutWord mac (dataWord data off)) mac) := by
  induction offsets generalizing mac with
  | nil => exact Works.refl mac
  | cons off rest ih => exact (works_RXPutWord mac _).trans (ih _)

theorem works_RXQueuePacket (packet : Packet) :
    Works mac (WIFI_RXQueuePacket mac packet) := by
  unfold WIFI_RXQueuePacket
  split
  · exact Works.of_same rfl rfl rfl rfl
  · exact Works.refl mac

theorem works_queueAll (packets : List Packet) :
    Works mac (packets.foldl WIFI_RXQueuePacket mac) := by
  induction packets generalizing mac with
  | nil => exact Works.refl mac
  | cons packet rest ih => exact (works_RXQueuePacket mac packet).trans (ih _)

theorem works_IncrementRXStat (stat : Fin 16) :
    Works mac (WIFI_IncrementRXStat mac stat) := by
  have counted : Works mac
      { mac with RXStat := Function.update mac.RXStat stat (mac.RXStat stat + 1) } :=
    Works.of_same rfl rfl rfl rfl
  have incremented (mac : Mac) (bitmask : u16) : Works mac
      (if mac.RXStatIncIE &&& bitmask ≠ 0 then
        WIFI_triggerIRQ { mac with RXStatIncIF := mac.RXStatIncIF ||| bitmask } WIFI_IRQ_RXINC
      else mac) := by
    split
    · refine Works.trans ?_ (@works_triggerIRQ _ WIFI_IRQ_RXINC (by decide))
      exact Works.of_same rfl rfl rfl rfl
    · exact Works.refl mac
  have overflowed (mac : Mac) (bitmask : u16) : Works mac
      (if mac.RXStat stat &&& 0x80 ≠ 0 ∧ mac.RXStatOvfIE &&& bitmask ≠ 0 then
        WIFI_triggerIRQ { mac with RXStatOvfIF := mac.RXStatOvfIF ||| bitmask } WIFI_IRQ_RXOVF
      else mac) := by
    split
    · refine Works.trans ?_ (@works_triggerIRQ _ WIFI_IRQ_RXOVF (by decide))
      exact Works.of_same rfl rfl rfl rfl
    · exact Works.refl mac
  exact (counted.trans (incremented _ (bitmasks.getD stat 0))).trans
    (overflowed _ (bitmasks.getD stat 0))

theorem works_DoAutoReply (cmd : Nat → u8) :
    Works mac (WIFI_DoAutoReply mac cmd) := by
  unfold WIFI_DoAutoReply
  dsimp only
  split
  · split
    · refine Works.trans ?_ (works_TXStart _ _)
      exact (works_setSlot mac WIFI_TXSLOT_MPREPLY _).trans (works_store _ _ _)
    · exact Works.refl mac
  · exact Works.refl mac

theorem works_finishPacket (pkt : Wifi_RXPacket) (rest : List Wifi_RXPacket) :
    Works mac (finishPacket mac pkt rest) := by
  have numbered (mac : Mac) (num : u8) : Works mac { mac with RXNum := num } :=
    Works.of_same rfl rfl rfl rfl
  have emptied (mac : Mac) (queue : List Wifi_RXPacket) :
      Works mac { mac with RXPacketQueue := queue } := Works.of_same rfl rfl rfl rfl
  unfold finishPacket
  dsimp only
  refine Works.trans ?_ (emptied _ rest)
  refine Works.trans ?_ (works_DoAutoReply _ pkt.Data)
  refine Works.trans ?_ (works_IncrementRXStat _ 7)
  refine Works.trans ?_ (works_triggerIRQ _ (by decide))
  refine Works.trans ?_ (numbered _ _)
  refine Works.trans ?_ (works_store _ (WIFI_IOREG 0x054) _)
  exact (works_store mac RXWriteCursor _).trans (works_wrapCursor _)

theorem works_receive : Works mac (receive mac) := by
  have queued (mac : Mac) (queue : List Wifi_RXPacket) :
      Works mac { mac with RXPacketQueue := queue } := Works.of_same rfl rfl rfl rfl
  unfold receive
  split
  next => exact Works.refl mac
  next pkt rest _queue =>
      split
      next =>
          have headed : Works mac
              (if pkt.NotStarted then
                WIFI_triggerIRQ
                  ([0,2,4,6,8,10].foldl
                    (fun mac off => WIFI_RXPutWord mac (dataWord pkt.Data off)) mac)
                  WIFI_IRQ_RXSTART
              else mac) := by
            split
            · exact (works_putWords mac pkt.Data _).trans
                (works_triggerIRQ _ (by decide))
            · exact Works.refl mac
          have put := headed.trans (works_RXPutWord _ (dataWord pkt.Data pkt.CurOffset))
          dsimp only
          split
          · exact put.trans (works_finishPacket _ _ rest)
          · exact put.trans (queued _ _)
      next => exact Works.refl mac

theorem works_msTrigger (arrivals : List Packet) :
    Works mac (msTrigger mac arrivals) := by
  unfold msTrigger
  split
  · exact works_queueAll mac arrivals
  · exact Works.refl mac

theorem works_PreTXAdjustments {mac adjusted : Mac} {slot : SlotIndex}
    (returned : WIFI_PreTXAdjustments mac slot = some adjusted) : Works mac adjusted := by
  have numbered (mac : Mac) (addr : Nat) : Works mac (setSequenceNumber mac addr) :=
    Works.of_same rfl rfl rfl rfl
  unfold WIFI_PreTXAdjustments at returned
  obtain ⟨crc,_computed,rfl⟩ := Option.map_eq_some_iff.mp returned
  refine Works.trans ?_ (works_store32 _ _ crc)
  split
  · split
    · exact (numbered mac _).trans (works_store64 _ _ _)
    · exact works_store64 mac _ _
  · split
    · exact numbered mac _
    · exact Works.refl mac

theorem works_sendPacket (slot : SlotIndex) (replies : List Packet) :
    Works mac (sendPacket mac slot replies) := by
  have told (mac : Mac) (event : Event) : Works mac (mac.emit event) :=
    Works.of_same rfl rfl rfl rfl
  unfold sendPacket
  split
  · exact (told mac _).trans (works_queueAll _ replies)
  · exact Works.refl mac

theorem works_beginTransmission {mac begun : Mac} {slot : SlotIndex} {replies : List Packet}
    (returned : beginTransmission mac slot replies = some begun) : Works mac begun := by
  unfold beginTransmission at returned
  obtain ⟨adjusted,prepared,rfl⟩ := Option.map_eq_some_iff.mp returned
  refine Works.trans ?_ (works_setSlot _ slot _)
  refine Works.trans ?_ (works_sendPacket _ slot replies)
  exact (works_PreTXAdjustments prepared).trans (works_triggerIRQ _ (by decide))

theorem works_reportEnd (slot : SlotIndex) : Works mac (reportEnd mac slot) := by
  have stated (mac : Mac) (stat : u16) : Works mac { mac with TXStat := stat } :=
    Works.of_same rfl rfl rfl rfl
  have ended (mac : Mac) : Works mac (WIFI_triggerIRQ mac WIFI_IRQ_TXEND) :=
    works_triggerIRQ mac (by decide)
  unfold reportEnd
  dsimp only
  split
  · have raised : Works mac (WIFI_triggerIRQ mac WIFI_IRQ_UNK) :=
      works_triggerIRQ mac (by decide)
    refine Works.trans ?_ (works_setSlot _ 1 _)
    split
    · exact raised.trans ((ended _).trans (stated _ _))
    · split
      · exact raised.trans ((ended _).trans (stated _ _))
      · exact raised
  · split
    · exact (ended mac).trans (stated _ _)
    · exact Works.refl mac
  · exact (ended mac).trans ((works_setSlot _ 5 _).trans (works_store _ _ _))
  · exact (ended mac).trans ((stated _ _).trans (works_setSlot _ _ _))

theorem works_endTransmission (slot : SlotIndex) :
    Works mac (endTransmission mac slot) := by
  have freed (mac : Mac) (busy : u16) (next : Option SlotIndex) :
      Works mac { mac with TXBusy := busy, TXCurSlot := next } :=
    Works.of_same rfl rfl rfl rfl
  have told (mac : Mac) (event : Event) : Works mac (mac.emit event) :=
    Works.of_same rfl rfl rfl rfl
  unfold endTransmission
  refine Works.trans ?_ (freed _ _ _)
  refine Works.trans ?_ (told _ _)
  refine Works.trans ?_ (works_store _ _ _)
  exact (works_reportEnd mac slot).trans (works_store _ _ 0x0001)

theorem works_transmit {mac after : Mac} {slot : SlotIndex} {replies : List Packet}
    (returned : transmit mac slot replies = some after) : Works mac after := by
  have sent (mac : Mac) : Works mac (sendHalfword mac slot) := by
    have moved (mac : Mac) (addr : u16) : Works mac { mac with RXTXAddr := addr } :=
      Works.of_same rfl rfl rfl rfl
    have told := (works_setSlot mac slot
      { mac.TXSlots slot with
        RemHWords := (mac.TXSlots slot).RemHWords - 1
        CurAddr := (mac.TXSlots slot).CurAddr + 1 }).trans
      (moved _ ((mac.TXSlots slot).CurAddr + 1))
    unfold sendHalfword
    dsimp only
    split
    · exact told.trans (works_endTransmission _ slot)
    · exact told
  unfold transmit at returned
  dsimp only at returned
  split at returned
  · cases returned
    exact works_setSlot mac slot _
  · split at returned
    · obtain ⟨begun,first,rfl⟩ := Option.map_eq_some_iff.mp returned
      refine Works.trans ?_ (sent begun)
      split at first
      · exact works_beginTransmission first
      · cases first
        exact Works.refl _
    · cases returned
      exact Works.refl mac

theorem works_usTrigger {mac after : Mac} {replies arrivals : List Packet}
    (returned : WIFI_usTrigger mac replies arrivals = some after) :
    Works (counters mac) after := by
  unfold WIFI_usTrigger at returned
  obtain ⟨worked,first,rfl⟩ := Option.map_eq_some_iff.mp returned
  refine Works.trans ?_ (works_msTrigger worked arrivals)
  split at first
  · exact works_transmit first
  · cases first
    exact works_receive _

end Desmume.Wifi
