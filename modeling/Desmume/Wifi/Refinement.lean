/-
The controller keeps to the schedule.

Register writes, the counters and the reception do nothing to the schedule but
start slots; the transmission takes its other steps, for the current slot only.
-/

import Desmume.Wifi.OncePerStart
import Desmume.Wifi.Transmit

namespace Desmume.Wifi

open Function (update update_eq_self update_of_ne update_self)

def Wifi_TXSlot.timing (slot : Wifi_TXSlot) : Timing where
  CurAddr := slot.CurAddr
  RemPreamble := slot.RemPreamble
  RemHWords := slot.RemHWords
  TimeMask := slot.TimeMask
  NotStarted := slot.NotStarted

def Mac.schedule (mac : Mac) : Schedule where
  connected := mac.wifiCom
  timer := mac.GlobalUsecTimer
  current := mac.TXCurSlot
  TXBusy := mac.TXBusy
  slots := fun slot => (mac.TXSlots slot).timing
  log := mac.log

variable (mac : Mac)

variable (val : u16) (i : Nat)

@[simp] theorem schedule_store (val : u16) :
    (mac.store i val).schedule = mac.schedule := rfl

@[simp] theorem schedule_store32 (val : u32) :
    (mac.store32 i val).schedule = mac.schedule := rfl

@[simp] theorem schedule_store64 (val : u64) : (mac.store64 i val).schedule = mac.schedule := by
  rw [Mac.store64,schedule_store32,schedule_store32]

theorem schedule_setSlot (slot : SlotIndex) (val : Wifi_TXSlot) :
    (mac.setSlot slot val).schedule = mac.schedule.setSlot slot val.timing := by
  have slots : (fun other => (update mac.TXSlots slot val other).timing) =
      update (fun other => (mac.TXSlots other).timing) slot val.timing := by
    funext other
    by_cases here : other = slot
    · rw [here,update_self,update_self]
    · rw [update_of_ne here,update_of_ne here]
  exact congrArg (fun slots => { mac.schedule with slots := slots }) slots

@[simp] theorem schedule_setRegVal (slot : SlotIndex) (val : u16) :
    (mac.setRegVal slot val).schedule = mac.schedule := by
  have slots : update mac.schedule.slots slot (mac.schedule.slots slot) =
      mac.schedule.slots := update_eq_self slot mac.schedule.slots
  rw [Mac.setRegVal,schedule_setSlot]
  exact congrArg (fun slots => { mac.schedule with slots := slots }) slots

@[simp] theorem schedule_wrapCursor : (wrapCursor mac).schedule = mac.schedule := by
  unfold wrapCursor
  split <;> rfl

@[simp] theorem schedule_foldl_store (ents : List (Nat × u16)) :
    (ents.foldl (fun (mac : Mac) entry => mac.store (WIFI_IOREG entry.1) entry.2) mac).schedule =
      mac.schedule := by
  induction ents generalizing mac with
  | nil => rfl
  | cons entry rest ih => exact ih (mac.store (WIFI_IOREG entry.1) entry.2)

theorem triggerIRQ_other {irq : Nat} (other : irq ≠ WIFI_IRQ_TIMEBEACON) :
    (WIFI_triggerIRQ mac irq).schedule = mac.schedule := by
  unfold WIFI_triggerIRQ
  rw [if_neg other]
  rfl

@[simp] theorem schedule_RXPutWord : (WIFI_RXPutWord mac val).schedule = mac.schedule := by
  unfold WIFI_RXPutWord
  split
  · exact schedule_wrapCursor _
  · rfl

@[simp] theorem schedule_RXQueuePacket (packet : Packet) :
    (WIFI_RXQueuePacket mac packet).schedule = mac.schedule := by
  unfold WIFI_RXQueuePacket
  split <;> rfl

@[simp] theorem schedule_queueAll (packets : List Packet) :
    (packets.foldl WIFI_RXQueuePacket mac).schedule = mac.schedule := by
  induction packets generalizing mac with
  | nil => rfl
  | cons packet rest ih =>
      rw [List.foldl_cons,ih,schedule_RXQueuePacket]

theorem schedule_IncrementRXStat (stat : Fin 16) :
    (WIFI_IncrementRXStat mac stat).schedule = mac.schedule := by
  unfold WIFI_IncrementRXStat
  dsimp only
  split_ifs <;> rfl

inductive Starts : Schedule → Schedule → Prop
  | refl {sched} : Starts sched sched
  | start {before middle} (earlier : Starts before middle) (slot fresh)
      (valid : Timing.Fresh fresh) : Starts before (middle.start slot fresh)

theorem Starts.trans {first second third : Schedule} (earlier : Starts first second)
    (later : Starts second third) : Starts first third := by
  induction later with
  | refl => exact earlier
  | start _ slot fresh valid ih => exact ih.start slot fresh valid

theorem Starts.of_eq {first second : Schedule} (same : second = first) :
    Starts first second := same ▸ Starts.refl

theorem schedule_acceptStart (slot : SlotIndex) (fresh : Wifi_TXSlot) :
    (acceptStart mac slot fresh).schedule = mac.schedule.start slot fresh.timing := by
  have slots := schedule_setSlot mac slot fresh
  exact congrArg
    (fun sched : Schedule =>
      { sched.emit (.started slot fresh.CurAddr fresh.RemHWords.toNat) with
        current := some (mac.TXCurSlot.getD slot)
        TXBusy := mac.TXBusy ||| BitVec.twoPow 16 slot })
    slots

theorem preamble_pos (short : Prop) [Decidable short] : (0 : Int) < if short then 96 else 192 := by
  split <;> decide

theorem starts_TXStart (slot : SlotIndex) :
    Starts mac.schedule (WIFI_TXStart mac slot).schedule := by
  unfold WIFI_TXStart
  dsimp only
  split
  next =>
      split
      next => exact Starts.refl
      next =>
          split
          next => exact Starts.refl
          next nonempty =>
              rw [schedule_acceptStart]
              refine Starts.refl.start slot _ ⟨rfl,?_,?_,?_⟩
              · exact preamble_pos _
              · change 1 ≤ (((_ + 1) / 2 : Nat) : Int)
                omega
              · change (if _ then (7 : u32) else 15) = 7 ∨ (if _ then (7 : u32) else 15) = 15
                split
                · exact Or.inl rfl
                · exact Or.inr rfl
  next => exact Starts.refl

theorem starts_timeBeacon : Starts mac.schedule (timeBeacon mac).schedule := by
  unfold timeBeacon
  dsimp only
  split
  · exact starts_TXStart
      { mac with
        BeaconCount1 := mac.BeaconInterval, BeaconCount2 := 0xFFFF, TXCnt := mac.TXCnt &&& 0xFFF2 }
      WIFI_TXSLOT_BEACON
  · exact Starts.refl

theorem starts_triggerIRQ (irq : Nat) : Starts mac.schedule (WIFI_triggerIRQ mac irq).schedule := by
  unfold WIFI_triggerIRQ
  by_cases beacon : irq = WIFI_IRQ_TIMEBEACON
  · rw [if_pos beacon]
    exact starts_timeBeacon mac
  · rw [if_neg beacon]
    exact Starts.refl

theorem starts_triggerIRQ_of {mac other : Mac} (same : other.schedule = mac.schedule)
    (irq : Nat) : Starts mac.schedule (WIFI_triggerIRQ other irq).schedule :=
  same ▸ starts_triggerIRQ other irq

theorem starts_startIf (bit : Bool) (mac : Mac) (slot : SlotIndex) :
    Starts mac.schedule (startIf bit mac slot).schedule := by
  unfold startIf
  split
  · exact starts_TXStart mac slot
  · exact Starts.refl

theorem starts_writeTXReqSet : Starts mac.schedule (writeTXReqSet mac val).schedule := by
  unfold writeTXReqSet
  have first := starts_startIf (val.getLsbD 0) { mac with TXCnt := mac.TXCnt ||| val }
    WIFI_TXSLOT_LOC1
  refine Starts.trans first ?_
  refine Starts.trans (starts_startIf (val.getLsbD 1) _ WIFI_TXSLOT_MPCMD) ?_
  refine Starts.trans (starts_startIf (val.getLsbD 2) _ WIFI_TXSLOT_LOC2) ?_
  exact starts_startIf (val.getLsbD 3) _ WIFI_TXSLOT_LOC3

theorem starts_writeUsCompare0 : Starts mac.schedule (writeUsCompare0 mac val).schedule := by
  unfold writeUsCompare0
  dsimp only
  split
  · refine starts_triggerIRQ_of ?_ WIFI_IRQ_TIMEBEACON
    rfl
  · exact Starts.refl

theorem schedule_writeMode : (writeMode mac val).schedule = mac.schedule := by
  have outer (mac : Mac) (mode : u16) : { mac with macMode := mode }.schedule = mac.schedule := rfl
  have reset (mac : Mac) (stat pid : u16) :
      { mac with TXStatCnt := stat, pid := pid }.schedule = mac.schedule := rfl
  unfold writeMode
  dsimp only
  rw [outer]
  split_ifs <;> simp only [reset,schedule_store,schedule_foldl_store]

theorem schedule_writeRXCnt : (writeRXCnt mac val).schedule = mac.schedule := by
  have emptied (mac : Mac) : { mac with RXPacketQueue := [] }.schedule = mac.schedule := rfl
  have control (mac : Mac) (cnt : u16) : { mac with RXCnt := cnt }.schedule = mac.schedule := rfl
  have latched (mac : Mac) : (if val.getLsbD 0 then latchCursor mac else mac).schedule =
      mac.schedule := by
    split <;> rfl
  have replied (mac : Mac) : (if val.getLsbD 7 then latchReply mac else mac).schedule =
      mac.schedule := by
    split
    · rw [latchReply,schedule_store,schedule_setRegVal]
    · rfl
  unfold writeRXCnt
  dsimp only
  split
  · rw [replied,latched,control]
  · rw [emptied,replied,latched,control]

theorem schedule_writeCircBuf (action : Bool) (val : u16) :
    (writeCircBuf mac action val).schedule = mac.schedule := by
  unfold writeCircBuf
  dsimp only
  split_ifs
  · rw [schedule_store,schedule_store,schedule_store]
  · rw [schedule_store,schedule_store]
  · rw [schedule_store]

theorem schedule_writeRangeBegin : (writeRangeBegin mac val).schedule = mac.schedule := by
  unfold writeRangeBegin
  dsimp only
  split <;> rfl

theorem starts_writeRegister (action : Bool) (addr : Nat) (val : u16) :
    Starts mac.schedule (writeRegister mac action addr val).schedule := by
  unfold writeRegister
  split
  case h_1 => exact Starts.of_eq (schedule_writeMode mac val)
  case h_6 => exact Starts.of_eq (schedule_writeRXCnt mac val)
  case h_8 =>
    split
    · exact starts_triggerIRQ mac WIFI_IRQ_RFWAKEUP
    · exact Starts.refl
  case h_9 => exact Starts.of_eq (schedule_writeRangeBegin mac val)
  case h_10 => exact Starts.of_eq (schedule_wrapCursor _)
  case h_17 => exact Starts.of_eq (schedule_writeCircBuf mac action val)
  case h_19 => exact Starts.of_eq (schedule_setRegVal mac _ val)
  case h_23 => exact Starts.of_eq (schedule_setRegVal mac _ val)
  case h_24 => exact Starts.of_eq (schedule_setRegVal mac _ val)
  case h_25 => exact Starts.of_eq (schedule_setRegVal mac _ val)
  case h_26 => exact Starts.of_eq (schedule_setRegVal mac _ val)
  case h_28 => exact starts_writeTXReqSet mac val
  case h_32 => exact starts_writeUsCompare0 mac val
  all_goals exact Starts.refl

theorem starts_write16 (addr : u32) (val : u16) :
    Starts mac.schedule (WIFI_write16 mac addr val).schedule := by
  unfold WIFI_write16
  dsimp only
  split_ifs
  · exact Starts.refl
  · exact Starts.refl
  · exact Starts.refl
  · exact starts_writeRegister mac _ _ val

/-! ### Reception -/

theorem starts_DoAutoReply (cmd : Nat → u8) :
    Starts mac.schedule (WIFI_DoAutoReply mac cmd).schedule := by
  unfold WIFI_DoAutoReply
  dsimp only
  split
  next =>
      split
      next =>
          have prepared : ((mac.setRegVal WIFI_TXSLOT_MPREPLY (mac.mem (WIFI_IOREG 0x094))).store
              ((mac.mem (WIFI_IOREG 0x094) &&& 0x0FFF).toNat + 6 + 1)
              (dataWord cmd (12 + 24))).schedule = mac.schedule := by
            rw [schedule_store,schedule_setRegVal]
          have started := starts_TXStart ((mac.setRegVal WIFI_TXSLOT_MPREPLY
            (mac.mem (WIFI_IOREG 0x094))).store
              ((mac.mem (WIFI_IOREG 0x094) &&& 0x0FFF).toNat + 6 + 1)
            (dataWord cmd (12 + 24))) WIFI_TXSLOT_MPREPLY
          rw [prepared] at started
          exact started
      next => exact Starts.refl
  next => exact Starts.refl

theorem starts_finishPacket (pkt : Wifi_RXPacket) (rest : List Wifi_RXPacket) :
    Starts mac.schedule (finishPacket mac pkt rest).schedule := by
  unfold finishPacket
  dsimp only
  refine Starts.trans ?_ (starts_DoAutoReply _ pkt.Data)
  apply Starts.of_eq
  have counted (mac : Mac) (num : u8) : ({ mac with RXNum := num } : Mac).schedule =
      mac.schedule := rfl
  rw [schedule_IncrementRXStat,triggerIRQ_other _ (by decide),counted,schedule_store,
    schedule_wrapCursor,schedule_store]

theorem schedule_header (data : Nat → u8) (offsets : List Nat) :
    (offsets.foldl (fun mac off => WIFI_RXPutWord mac (dataWord data off)) mac).schedule =
      mac.schedule := by
  induction offsets generalizing mac with
  | nil => rfl
  | cons off rest ih =>
      rw [List.foldl_cons,ih,schedule_RXPutWord]

theorem starts_receive : Starts mac.schedule (receive mac).schedule := by
  unfold receive
  split
  next => exact Starts.refl
  next pkt rest _queue =>
      split
      next =>
          have headed : (if pkt.NotStarted then
              WIFI_triggerIRQ
                ([0,2,4,6,8,10].foldl
                  (fun mac off => WIFI_RXPutWord mac (dataWord pkt.Data off)) mac)
                WIFI_IRQ_RXSTART
              else mac).schedule = mac.schedule := by
            split
            · rw [triggerIRQ_other _ (by decide),schedule_header]
            · rfl
          dsimp only
          split
          · refine Starts.trans (Starts.of_eq ?_) (starts_finishPacket _ _ rest)
            rw [schedule_RXPutWord,headed]
          · apply Starts.of_eq
            rw [← headed]
            exact schedule_RXPutWord _ _
      next => exact Starts.refl

theorem schedule_msTrigger (arrivals : List Packet) :
    (msTrigger mac arrivals).schedule = mac.schedule := by
  unfold msTrigger
  split
  · exact schedule_queueAll mac arrivals
  · rfl

theorem starts_eCountTick : Starts mac.schedule (eCountTick mac).schedule := by
  unfold eCountTick
  dsimp only
  split
  · split
    · exact starts_TXStart { mac with eCount := mac.eCount - 1 } WIFI_TXSLOT_MPCMD
    · exact Starts.refl
  · exact Starts.refl

theorem starts_beaconTick : Starts mac.schedule (beaconTick mac).schedule := by
  have post (mac : Mac) : (postBeaconTick mac).schedule = mac.schedule := by
    unfold postBeaconTick
    dsimp only
    split_ifs <;> rfl
  unfold beaconTick
  dsimp only
  split
  · rw [post]
    split_ifs
    · exact starts_triggerIRQ_of rfl WIFI_IRQ_TIMEPREBEACON
    · exact starts_triggerIRQ_of rfl WIFI_IRQ_TIMEBEACON
    · exact Starts.refl
  · exact Starts.refl

theorem starts_crystalTick : Starts mac.schedule (crystalTick mac).schedule := by
  unfold crystalTick
  split
  · have ticked : (usecTick mac).schedule = mac.schedule := by
      unfold usecTick
      split <;> rfl
    rw [← ticked]
    exact (starts_eCountTick _).trans (starts_beaconTick _)
  · exact Starts.refl

theorem starts_compareTick : Starts mac.schedule (compareTick mac).schedule := by
  unfold compareTick
  split
  · exact starts_triggerIRQ mac WIFI_IRQ_TIMEBEACON
  · exact Starts.refl

theorem starts_counters : Starts mac.schedule.elapse (counters mac).schedule :=
  (starts_crystalTick { mac with GlobalUsecTimer := mac.GlobalUsecTimer + 1 }).trans
    (starts_compareTick _)

variable {slot : SlotIndex} {replies : List Packet}

theorem schedule_PreTXAdjustments {mac adjusted : Mac}
    (returned : WIFI_PreTXAdjustments mac slot = some adjusted) :
    adjusted.schedule = mac.schedule := by
  have numbered (mac : Mac) (addr : Nat) :
      (setSequenceNumber mac addr).schedule = mac.schedule := rfl
  unfold WIFI_PreTXAdjustments at returned
  obtain ⟨crc,_computed,rfl⟩ := Option.map_eq_some_iff.mp returned
  rw [schedule_store32]
  split_ifs <;> simp only [numbered,schedule_store64]

theorem schedule_sendPacket (slot : SlotIndex) (replies : List Packet) :
    (sendPacket mac slot replies).schedule =
      if mac.wifiCom then
        mac.schedule.emit (.SendPacket slot (mac.TXSlots slot).CurAddr
          (mac.halfwords (mac.TXSlots slot).CurAddr.toNat (mac.TXSlots slot).RemHWords.toNat))
      else mac.schedule := by
  unfold sendPacket
  split
  · exact schedule_queueAll _ replies
  · rfl

theorem timing_eq (slot : SlotIndex) :
    (mac.TXSlots slot).timing = mac.schedule.slots slot := rfl

/-- The halfwords of the slot's frame, with the sequence number, the time stamp
and the checksum in place. -/
def Carries (mac : Mac) (slot : SlotIndex) (packet : List u16) : Prop :=
  ∃ adjusted, WIFI_PreTXAdjustments mac slot = some adjusted ∧
    packet = adjusted.halfwords (mac.TXSlots slot).CurAddr.toNat
      (mac.TXSlots slot).RemHWords.toNat

theorem Carries.length {mac : Mac} {slot : SlotIndex} {packet : List u16}
    (carries : Carries mac slot packet) :
    packet.length = (mac.schedule.slots slot).RemHWords.toNat := by
  obtain ⟨adjusted,_preTX,rfl⟩ := carries
  rw [Mac.halfwords,List.length_map,List.length_range]
  rfl

theorem beginTransmission_schedule {mac begun : Mac}
    (returned : beginTransmission mac slot replies = some begun) :
    ∃ packet, Carries mac slot packet ∧ begun.schedule = mac.schedule.send slot packet := by
  obtain ⟨adjusted,preTX,rfl⟩ := Option.map_eq_some_iff.mp returned
  have same : (WIFI_triggerIRQ adjusted WIFI_IRQ_TXSTART).schedule = mac.schedule := by
    rw [triggerIRQ_other _ (by decide),schedule_PreTXAdjustments preTX]
  have mem : (WIFI_triggerIRQ adjusted WIFI_IRQ_TXSTART).mem = adjusted.mem := rfl
  generalize WIFI_triggerIRQ adjusted WIFI_IRQ_TXSTART = ready at same mem ⊢
  have slots : (ready.TXSlots slot).timing = (mac.TXSlots slot).timing :=
    congrArg (fun sched => sched.slots slot) same
  refine ⟨ready.halfwords (ready.TXSlots slot).timing.CurAddr.toNat
    (ready.TXSlots slot).timing.RemHWords.toNat,⟨adjusted,preTX,?_⟩,?_⟩
  · rw [slots,Mac.halfwords,mem]
    rfl
  · have told := schedule_sendPacket ready slot replies
    have own : ((sendPacket ready slot replies).TXSlots slot).timing =
        (ready.TXSlots slot).timing := by
      rw [timing_eq,told]
      split <;> rfl
    have flagged : ({ (sendPacket ready slot replies).TXSlots slot with
        NotStarted := false } : Wifi_TXSlot).timing =
          { (ready.TXSlots slot).timing with NotStarted := false } :=
      congrArg (fun timing : Timing => { timing with NotStarted := false }) own
    rw [schedule_setSlot,told,flagged,← same]
    rfl

theorem schedule_reportEnd (slot : SlotIndex) : (reportEnd mac slot).schedule = mac.schedule := by
  have stat (mac : Mac) (TXStat : u16) : { mac with TXStat := TXStat }.schedule = mac.schedule :=
    rfl
  have ended (mac : Mac) : (WIFI_triggerIRQ mac WIFI_IRQ_TXEND).schedule = mac.schedule :=
    triggerIRQ_other mac (by decide)
  have unknown (mac : Mac) : (WIFI_triggerIRQ mac WIFI_IRQ_UNK).schedule = mac.schedule :=
    triggerIRQ_other mac (by decide)
  unfold reportEnd
  dsimp only
  split
  · split_ifs <;> simp only [schedule_setRegVal,stat,ended,unknown]
  · split_ifs <;> simp only [stat,ended]
  · simp only [schedule_store,schedule_setRegVal,ended]
  · simp only [schedule_setRegVal,stat,ended]

theorem schedule_endTransmission (slot : SlotIndex) :
    (endTransmission mac slot).schedule =
      { mac.schedule.emit (.ended slot) with
        TXBusy := mac.schedule.TXBusy &&& ~~~(BitVec.twoPow 16 slot)
        current := nextslot (mac.schedule.TXBusy &&& ~~~(BitVec.twoPow 16 slot)) } := by
  unfold endTransmission
  rw [← schedule_reportEnd mac slot]
  generalize reportEnd mac slot = reported
  rfl

theorem schedule_sendHalfword (slot : SlotIndex) :
    (sendHalfword mac slot).schedule =
      if (mac.schedule.slots slot).RemHWords = 1 then mac.schedule.finish slot
      else mac.schedule.halfword slot := by
  have counted (addr : u16) : { mac.setSlot slot
      { mac.TXSlots slot with
        RemHWords := (mac.TXSlots slot).RemHWords - 1
        CurAddr := (mac.TXSlots slot).CurAddr + 1 } with RXTXAddr := addr }.schedule =
      mac.schedule.halfword slot := schedule_setSlot mac slot _
  have last : (mac.schedule.slots slot).RemHWords = 1 ↔
      (mac.TXSlots slot).RemHWords - 1 = 0 := by
    change (mac.TXSlots slot).RemHWords = 1 ↔ _
    omega
  unfold sendHalfword
  dsimp only
  by_cases done : (mac.TXSlots slot).RemHWords - 1 = 0
  · rw [if_pos done,if_pos (last.mpr done),schedule_endTransmission,counted]
    rfl
  · rw [if_neg done,if_neg (fun one => done (last.mp one)),counted]

/-- What the transmission of the current slot does: it counts the preamble down,
waits for the next time slot, or sends a halfword, the packet before the first. -/
inductive Transmits (carries : List u16 → Prop) (sched : Schedule) (slot : SlotIndex) :
    Schedule → Prop
  | countdown (preamble : 0 < (sched.slots slot).RemPreamble) :
      Transmits carries sched slot (sched.countdown slot)
  | wait (between : sched.timer &&& (sched.slots slot).TimeMask.setWidth 64 ≠ 0) :
      Transmits carries sched slot sched
  | first {after} (packet) (NotStarted : (sched.slots slot).NotStarted = true)
      (content : carries packet)
      (sent : after = if ((sched.send slot packet).slots slot).RemHWords = 1 then
          (sched.send slot packet).finish slot
        else (sched.send slot packet).halfword slot) :
      Transmits carries sched slot after
  | later {after} (begun : (sched.slots slot).NotStarted = false)
      (sent : after = if (sched.slots slot).RemHWords = 1 then sched.finish slot
        else sched.halfword slot) :
      Transmits carries sched slot after

theorem transmits {mac after : Mac} (returned : transmit mac slot replies = some after) :
    Transmits (Carries mac slot) mac.schedule slot after.schedule := by
  unfold transmit at returned
  dsimp only at returned
  split at returned
  next preamble =>
      obtain rfl := Option.some.inj returned
      rw [schedule_setSlot]
      exact Transmits.countdown preamble
  next =>
      split at returned
      next =>
          obtain ⟨begun,started,rfl⟩ := Option.map_eq_some_iff.mp returned
          rw [schedule_sendHalfword]
          cases fresh : (mac.TXSlots slot).NotStarted with
          | true =>
              rw [fresh,if_pos rfl] at started
              obtain ⟨packet,content,same⟩ := beginTransmission_schedule started
              rw [same]
              exact Transmits.first packet fresh content rfl
          | false =>
              rw [fresh] at started
              obtain rfl := Option.some.inj started
              exact Transmits.later fresh rfl
      next between =>
          obtain rfl := Option.some.inj returned
          exact Transmits.wait between

end Desmume.Wifi
