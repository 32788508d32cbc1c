/-
When the wireless chip stays in its memories.

Starts, the circular buffers and the accesses of the ARM7 stay inside, as the
read address never leaves the range that reception uses.
-/

import Desmume.Wifi.Accesses

namespace Desmume.Wifi

open Function (update update_apply update_of_ne update_self)

def ranges : List Nat := [RXRangeBegin,RXRangeEnd,CircBufReadAddress]

section

variable {holds : Mac → Prop}

/-- A property of the memory that survives stores to the fields, as long as the
ranges are given addresses of the wireless memory. -/
structure Survives (holds : Mac → Prop) : Prop where
  same : ∀ (mac after : Mac), after.mem = mac.mem → holds mac → holds after
  field : ∀ {mac : Mac} {i : Nat} {val : u16}, 0x1000 ≤ i →
    (i ∈ ranges → val.toNat ≤ 0x1FFE) → holds mac → holds (mac.store i val)

variable (survives : Survives holds)

include survives

variable {mac : Mac}

theorem Survives.port (reg : Nat) (val : u16) (before : holds mac) :
    holds (mac.store (WIFI_IOREG reg) val) := by
  refine survives.field ?_ ?_ before
  · unfold WIFI_IOREG IOPorts
    omega
  · intro member
    simp only [ranges,List.mem_cons,List.not_mem_nil,or_false,WIFI_IOREG,IOPorts,
      RXRangeBegin,RXRangeEnd,CircBufReadAddress] at member
    omega

theorem Survives.ports (ents : List (Nat × u16)) (before : holds mac) :
    holds (ents.foldl
      (fun (mac : Mac) entry => mac.store (WIFI_IOREG entry.1) entry.2) mac) := by
  induction ents generalizing mac with
  | nil => exact before
  | cons entry rest ih => exact ih (survives.port _ _ before)

theorem Survives.writeMode (val : u16) (before : holds mac) : holds (writeMode mac val) := by
  have waking (mac : Mac) (old : u16) (before : holds mac) :
      holds (if old.getLsbD 0 = false ∧ val.getLsbD 0 then
        (mac.store (WIFI_IOREG 0x034) 0x0002).store (WIFI_IOREG 0x27C) 0x0005 else mac) := by
    split
    · exact survives.port _ _ (survives.port _ _ before)
    · exact before
  have sleeping (mac : Mac) (old : u16) (before : holds mac) :
      holds (if old.getLsbD 0 ∧ val.getLsbD 0 = false then
        mac.store (WIFI_IOREG 0x27C) 0x000A else mac) := by
    split
    · exact survives.port _ _ before
    · exact before
  have cleared (mac : Mac) (ents : List (Nat × u16)) (before : holds mac) :
      holds (if val.getLsbD 13 then ents.foldl
        (fun (mac : Mac) entry => mac.store (WIFI_IOREG entry.1) entry.2) mac else mac) := by
    split
    · exact survives.ports ents before
    · exact before
  have reset (mac : Mac) (stat pid : u16) (before : holds mac) :
      holds { mac with TXStatCnt := stat, pid := pid } := survives.same mac _ rfl before
  have restarted (mac : Mac) (ents : List (Nat × u16)) (before : holds mac) :
      holds (if val.getLsbD 14 then
        { ((ents.foldl (fun (mac : Mac) entry => mac.store (WIFI_IOREG entry.1) entry.2)
            mac).store RXRangeBegin 0x0000).store RXRangeEnd 0x0800 with
          TXStatCnt := 0, pid := 0 }
        else mac) := by
    split
    · apply reset
      refine survives.field (by decide) (fun _ => by decide) ?_
      exact survives.field (by decide) (fun _ => by decide) (survives.ports ents before)
    · exact before
  have moded (mac : Mac) (mode : u16) (before : holds mac) : holds { mac with macMode := mode } :=
    survives.same mac _ rfl before
  unfold Wifi.writeMode
  dsimp only
  exact moded _ _ (restarted _ _ (cleared _ _ (sleeping _ _ (waking _ _ before))))

theorem Survives.wrapCursor (before : holds mac) : holds (wrapCursor mac) := by
  unfold Wifi.wrapCursor
  split
  · exact survives.field (by decide) (fun member => absurd member (by decide)) before
  · exact before

theorem Survives.writeRXCnt (val : u16) (before : holds mac) : holds (writeRXCnt mac val) := by
  have control (mac : Mac) (cnt : u16) (before : holds mac) : holds { mac with RXCnt := cnt } :=
    survives.same mac _ rfl before
  have emptied (mac : Mac) (before : holds mac) : holds { mac with RXPacketQueue := [] } :=
    survives.same mac _ rfl before
  have latched (mac : Mac) (before : holds mac) :
      holds (if val.getLsbD 0 then latchCursor mac else mac) := by
    split
    · refine survives.port _ _ ?_
      exact survives.field (by decide) (fun member => absurd member (by decide)) before
    · exact before
  have replied (mac : Mac) (before : holds mac) :
      holds (if val.getLsbD 7 then latchReply mac else mac) := by
    split
    · exact survives.port _ _ (survives.same mac _ rfl before)
    · exact before
  unfold Wifi.writeRXCnt
  dsimp only
  split
  · exact replied _ (latched _ (control _ _ before))
  · exact emptied _ (replied _ (latched _ (control _ _ before)))

theorem Survives.writeRangeBegin (val : u16) (before : holds mac) :
    holds (writeRangeBegin mac val) := by
  have stored : holds (mac.store RXRangeBegin (val &&& 0x1FFE)) :=
    survives.field (by decide) (fun _ => Nat.and_le_right) before
  unfold Wifi.writeRangeBegin
  dsimp only
  split
  · exact survives.field (by decide) (fun member => absurd member (by decide)) stored
  · exact stored

theorem Survives.triggerIRQ (irq : Nat) (before : holds mac) : holds (WIFI_triggerIRQ mac irq) :=
  survives.same mac _ (mem_triggerIRQ mac irq) before

theorem Survives.writeTXReqSet (val : u16) (before : holds mac) :
    holds (writeTXReqSet mac val) := by
  have requested : holds { mac with TXCnt := mac.TXCnt ||| val } := survives.same mac _ rfl before
  have started (bit : Bool) (mac : Mac) (slot : SlotIndex) (before : holds mac) :
      holds (startIf bit mac slot) := by
    unfold startIf
    split
    · exact survives.same mac _ (mem_TXStart mac slot) before
    · exact before
  unfold Wifi.writeTXReqSet
  exact started _ _ _ (started _ _ _ (started _ _ _ (started _ _ _ requested)))

theorem Survives.writeUsCompare0 (val : u16) (before : holds mac) :
    holds (writeUsCompare0 mac val) := by
  unfold Wifi.writeUsCompare0
  dsimp only
  split
  · exact survives.triggerIRQ _ (survives.same mac _ rfl before)
  · exact survives.same mac _ rfl before

theorem Survives.writeCircBuf (action : Bool) (val : u16)
    (stored : holds (mac.store ((mac.mem CircBufWriteAddress >>> 1) &&& 0xFFF).toNat val)) :
    holds (writeCircBuf mac action val) := by
  have field {mac : Mac} {i : Nat} {val : u16}
      (known : i = CircBufWriteAddress ∨ i = CircBufWrEnd) (before : holds mac) :
      holds (mac.store i val) := by
    rcases known with rfl | rfl
    · exact survives.field (by decide) (fun member => absurd member (by decide)) before
    · exact survives.field (by decide) (fun member => absurd member (by decide)) before
  unfold Wifi.writeCircBuf
  dsimp only
  split
  · split
    · exact field (Or.inr rfl) (field (Or.inl rfl) stored)
    · exact field (Or.inl rfl) stored
  · exact stored

theorem Survives.writeRegister (action : Bool) (addr : Nat) (val : u16) (circular : addr = 0x070 →
      holds (mac.store ((mac.mem CircBufWriteAddress >>> 1) &&& 0xFFF).toNat val))
    (before : holds mac) : holds (writeRegister mac action addr val) := by
  have plain {i : Nat} {val : u16} (high : 0x1000 ≤ i) (other : i ∉ ranges) :
      holds (mac.store i val) :=
    survives.field high (fun member => absurd member other) before
  unfold Wifi.writeRegister
  split
  case h_1 => exact survives.writeMode val before
  case h_6 => exact survives.writeRXCnt val before
  case h_8 =>
    split
    · exact survives.triggerIRQ _ before
    · exact before
  case h_9 => exact survives.writeRangeBegin val before
  case h_10 =>
    refine survives.wrapCursor ?_
    exact survives.field (by decide) (fun _ => Nat.and_le_right) before
  case h_11 => exact survives.field (by decide) (fun _ => Nat.and_le_right) before
  case h_12 => exact plain (by decide) (by decide)
  case h_13 => exact plain (by decide) (by decide)
  case h_14 => exact plain (by decide) (by decide)
  case h_15 => exact plain (by decide) (by decide)
  case h_16 => exact plain (by decide) (by decide)
  case h_17 => exact survives.writeCircBuf action val (circular rfl)
  case h_18 => exact plain (by decide) (by decide)
  case h_28 => exact survives.writeTXReqSet val before
  case h_32 => exact survives.writeUsCompare0 val before
  all_goals exact survives.same mac _ rfl before

end

theorem cursor_lt (cursor : u16) : (cursor &&& 0xFFF).toNat < 0x1000 :=
  Nat.lt_succ_of_le Nat.and_le_right

namespace Chip

section

variable (chip : Chip)

variable {off : Nat}

theorem mac_setByte (val : u8) (inside : off < RAM) : (chip.setByte off val).mac = chip.mac := by
  unfold setByte
  rw [if_pos inside]

theorem mac_setHalf (val : u16) (inside : off + 1 < RAM) :
    (chip.setHalf off val).mac = chip.mac := by
  unfold setHalf
  rw [mac_setByte _ _ inside,mac_setByte _ _ (by omega)]

theorem mac_setWord (val : u32) (inside : off + 3 < RAM) :
    (chip.setWord off val).mac = chip.mac := by
  unfold setWord
  rw [mac_setHalf _ _ (by omega),mac_setHalf _ _ (by omega)]

theorem mac_resetRF : chip.WIFI_resetRF.mac = chip.mac := by
  have folded (ents : List ((u32 × u32) × Nat))
      (inside : ∀ entry ∈ ents, 4 * entry.2 + 3 < RAM) (chip : Chip) : (ents.foldl
        (fun (chip : Chip) (entry : (u32 × u32) × Nat) => chip.setWord (4 * entry.2)
          ((chip.rfreg entry.2 &&& ~~~entry.1.1) ||| entry.1.2)) chip).mac = chip.mac := by
    induction ents generalizing chip with
    | nil => rfl
    | cons entry rest ih =>
        rw [List.foldl_cons,ih
          (fun other member => inside other (List.mem_cons_of_mem _ member)),
          mac_setWord _ _ (inside entry List.mem_cons_self)]
  exact folded _ (by decide) chip

theorem mac_setRF_DATA (val : u16) (part : Bool) :
    (chip.WIFI_setRF_DATA val part).mac = chip.mac := by
  have addressed : (chip.setHalf (rfIOData + 2) val).mac = chip.mac :=
    chip.mac_setHalf val (by decide)
  have read : (chip.readRF val).mac = chip.mac := by
    unfold readRF
    dsimp only
    split
    · exact addressed
    · rw [mac_setWord _ _ (by decide),addressed]
  have write : (chip.writeRF val part).mac = chip.mac := by
    cases part with
    | false =>
        have low : chip.writeRF val false = chip.setHalf rfIOData val := ite_self _
        rw [low,mac_setHalf _ _ (by decide)]
    | true =>
        have high : chip.writeRF val true =
            if (chip.setHalf (rfIOData + 2) val).rfAddress > rfRegisters then
              chip.setHalf (rfIOData + 2) val
            else if (chip.setHalf (rfIOData + 2) val).rfAddress = 13 then
              (chip.setHalf (rfIOData + 2) val).WIFI_resetRF
            else (chip.setHalf (rfIOData + 2) val).setRfreg
              (chip.setHalf (rfIOData + 2) val).rfAddress
              (content ((chip.setHalf (rfIOData + 2) val).word rfIOData)) := rfl
        rw [high]
        split
        · exact addressed
        next small =>
          split
          · rw [mac_resetRF,addressed]
          · have inside : 4 * (chip.setHalf (rfIOData + 2) val).rfAddress + 3 < RAM := by
              simp only [rfRegisters,RAM] at small ⊢
              omega
            unfold setRfreg
            rw [mac_setWord _ _ inside,addressed]
  unfold WIFI_setRF_DATA
  split
  · rfl
  · split
    · split
      · exact read
      · rfl
    · exact write

theorem mac_writeRegister {addr : Nat} {val : u16}
    (inside : AllInside (chip.registerAccesses addr val)) :
    (chip.writeRegister addr val).mac = chip.mac := by
  have controlled : (chip.setHalf bbIOCnt val).mac = chip.mac := chip.mac_setHalf val (by decide)
  have baseband (inside : AllInside (chip.bbAccesses val)) :
      (chip.WIFI_setBB_CNT val).mac = chip.mac := by
    unfold bbAccesses at inside
    unfold WIFI_setBB_CNT
    dsimp only at inside ⊢
    split
    next transfer =>
      rw [if_pos transfer] at inside
      have small := inside _ (List.mem_singleton_self _)
      rw [mac_setByte _ _ ?_,controlled]
      simp only [Access.Inside,bbBytes] at small
      simp only [BB,rfRegisters,RAM]
      omega
    next => exact controlled
  unfold writeRegister
  split
  case h_1 =>
    dsimp only
    split_ifs <;> rfl
  case h_11 => split <;> rfl
  case h_12 => exact baseband inside
  case h_13 => exact chip.mac_setRF_DATA val true
  case h_14 => exact chip.mac_setRF_DATA val false
  case h_15 =>
    unfold WIFI_setRF_CNT
    split
    · rfl
    · exact chip.mac_setHalf val (by decide)
  case h_16 => split <;> rfl
  all_goals rfl

end

end Chip

def Mac.nextRead (mac : Mac) : u16 :=
  let next := mac.mem CircBufReadAddress + 2
  if mac.mem RXRangeEnd ≤ next then mac.mem RXRangeBegin
  else if next = mac.mem CircBufRdEnd then
    let skipped := (next + mac.mem CircBufRdSkip * 2) &&& 0x1FFE
    if skipped.toNat + (mac.mem RXRangeBegin).toNat = (mac.mem RXRangeEnd).toNat then 0
    else skipped
  else next

theorem advanceRead_eq (mac : Mac) :
    advanceRead mac = mac.store CircBufReadAddress mac.nextRead := rfl

structure Mac.Ranged (mac : Mac) : Prop where
  start : (mac.mem RXRangeBegin).toNat ≤ 0x1FFE
  stop : (mac.mem RXRangeEnd).toNat ≤ 0x1FFE
  read : (mac.mem CircBufReadAddress).toNat ≤ 0x1FFE

namespace Mac.Ranged

variable {mac : Mac}

theorem nextRead (ranged : mac.Ranged) : mac.nextRead.toNat ≤ 0x1FFE := by
  have start := ranged.start
  have stop := ranged.stop
  unfold Mac.nextRead
  dsimp only
  split
  · exact start
  next below =>
    split
    · split
      · exact Nat.zero_le _
      · exact Nat.and_le_right
    · have inside : (mac.mem CircBufReadAddress + 2).toNat < (mac.mem RXRangeEnd).toNat := by
        bv_omega
      omega

theorem of_same {after : Mac} (ranged : mac.Ranged)
    (same : ∀ i ∈ ranges, after.mem i = mac.mem i) : after.Ranged where
  start := by rw [same RXRangeBegin (by decide)]; exact ranged.start
  stop := by rw [same RXRangeEnd (by decide)]; exact ranged.stop
  read := by rw [same CircBufReadAddress (by decide)]; exact ranged.read

theorem store_other {i : Nat} (ranged : mac.Ranged) (val : u16) (other : i ∉ ranges) :
    (mac.store i val).Ranged := by
  refine ranged.of_same ?_
  intro reg member
  refine update_of_ne ?_ _ _
  rintro rfl
  exact other member

theorem survives : Survives Mac.Ranged where
  same := by
    intro mac after same ranged
    exact ranged.of_same fun i _ => congrFun same i
  field := by
    intro mac i val _high bounded ranged
    by_cases member : i ∈ ranges
    · have small := bounded member
      have v (reg : Nat) (old : (mac.mem reg).toNat ≤ 0x1FFE) :
          ((mac.store i val).mem reg).toNat ≤ 0x1FFE := by
        by_cases here : reg = i
        · rw [here]
          change (update mac.mem i val i).toNat ≤ _
          rw [update_self]
          exact small
        · change (update mac.mem i val reg).toNat ≤ _
          rw [update_of_ne here]
          exact old
      exact ⟨v _ ranged.start,v _ ranged.stop,v _ ranged.read⟩
    · exact ranged.store_other val member

end Mac.Ranged

/-! ### Lists of accesses -/

theorem allInside_nil : AllInside [] := fun _ member => nomatch member

theorem allInside_cons {access : Access} {rest : List Access} :
    AllInside (access :: rest) ↔ access.Inside ∧ AllInside rest :=
  List.forall_mem_cons

theorem allInside_append {front back : List Access} :
    AllInside (front ++ back) ↔ AllInside front ∧ AllInside back :=
  List.forall_mem_append

theorem allInside_if {cond : Prop} [Decidable cond] {accesses : List Access} :
    AllInside (if cond then accesses else []) ↔ (cond → AllInside accesses) := by
  by_cases met : cond
  · rw [if_pos met]
    exact ⟨fun inside _ => inside, fun inside => inside met⟩
  · rw [if_neg met]
    exact iff_of_true allInside_nil fun here => absurd here met

namespace Mac

variable (mac : Mac)

variable (slot : SlotIndex)

theorem putAccesses_inside : AllInside mac.putAccesses :=
  allInside_if.mpr fun _ => allInside_cons.mpr ⟨cursor_lt _,allInside_nil⟩

theorem putAllAccesses_inside (data : Nat → u8) (offsets : List Nat) (mac : Mac) :
    AllInside (putAllAccesses data mac offsets) := by
  induction offsets generalizing mac with
  | nil => exact allInside_nil
  | cons off rest ih =>
      exact allInside_append.mpr ⟨mac.putAccesses_inside,ih _⟩

/-- The frame of a slot whose transmission begins: it is at least as long as its
checksum, and its ends, the sequence number, the time stamp and the packet that
the interface is given lie inside. -/
def BeginsInside : Prop :=
  let reg := (mac.TXSlots slot).RegVal
  let addr := (reg &&& 0x0FFF).toNat
  let txLen := (mac.mem (addr + 5) &&& 0x3FFF).toNat
  4 ≤ txLen ∧ addr + 7 + (txLen - 4) / 2 < 0x1000 ∧
    (reg.getLsbD 13 = false ∨ slot = WIFI_TXSLOT_BEACON → addr + 17 < 0x1000) ∧
    (slot = WIFI_TXSLOT_BEACON → addr + 21 < 0x1000) ∧
    (mac.wifiCom = true → ∀ off < (mac.TXSlots slot).RemHWords.toNat,
      (mac.TXSlots slot).CurAddr.toNat + off < 0x1000)

def EndsInside : Prop :=
  ((mac.TXSlots slot).RegVal &&& 0x0FFF).toNat + 4 < 0x1000

def TransmitsInside : Prop :=
  ¬ (mac.TXSlots slot).RemPreamble > 0 →
    mac.GlobalUsecTimer &&& (mac.TXSlots slot).TimeMask.setWidth 64 = 0 →
    ((mac.TXSlots slot).NotStarted = true → mac.BeginsInside slot) ∧
      ((mac.TXSlots slot).RemHWords - 1 = 0 → mac.EndsInside slot)

def ReceivesInside : Prop :=
  ∀ pkt rest, mac.RXPacketQueue = pkt :: rest → mac.GlobalUsecTimer &&& 7 = 0 →
    pkt.RemHWords - 1 = 0 → mac.IsCommand pkt.Data →
    (mac.mem (WIFI_IOREG 0x094) &&& 0x0FFF).toNat + 7 < 0x1000

def WorksInside : Prop :=
  (∀ slot, mac.TXCurSlot = some slot → mac.TransmitsInside slot) ∧
    (mac.TXCurSlot = none → mac.ReceivesInside)

theorem pid_wrapCursor : (wrapCursor mac).pid = mac.pid := by
  unfold wrapCursor
  split <;> rfl

theorem pid_RXPutWord (val : u16) : (WIFI_RXPutWord mac val).pid = mac.pid := by
  have shown (mac : Mac) (addr : u16) : { mac with RXTXAddr := addr }.pid = mac.pid := rfl
  unfold WIFI_RXPutWord
  dsimp only
  split
  · rw [shown,pid_wrapCursor]
    rfl
  · rfl

theorem pid_headed (pkt : Wifi_RXPacket) : (mac.headed pkt).pid = mac.pid := by
  have put (offsets : List Nat) (mac : Mac) : (offsets.foldl
      (fun mac off => WIFI_RXPutWord mac (dataWord pkt.Data off)) mac).pid = mac.pid := by
    induction offsets generalizing mac with
    | nil => rfl
    | cons off rest ih =>
        rw [List.foldl_cons,ih,pid_RXPutWord]
  unfold headed
  split
  · exact (congrArg Buffers.pid (buffers_triggerIRQ _ _)).trans (put _ mac)
  · rfl

theorem pid_packetDone : mac.packetDone.pid = mac.pid := by
  have counted (mac : Mac) : (WIFI_IncrementRXStat mac 7).pid = mac.pid :=
    congrArg Buffers.pid (buffers_IncrementRXStat mac 7)
  have raised (mac : Mac) (irq : Nat) : (WIFI_triggerIRQ mac irq).pid = mac.pid :=
    congrArg Buffers.pid (buffers_triggerIRQ mac irq)
  unfold packetDone
  dsimp only
  rw [counted,raised]
  exact (pid_wrapCursor _).trans rfl

theorem reply_register (pkt : Wifi_RXPacket) :
    (WIFI_RXPutWord (mac.headed pkt) (dataWord pkt.Data pkt.CurOffset)).packetDone.mem
      (WIFI_IOREG 0x094) = mac.mem (WIFI_IOREG 0x094) := by
  have low (mac : Mac) (i : Nat) (member : Access.store i ∈ mac.putAccesses) :
      i < 0x1000 ∨ i = RXWriteCursor ∨ i = WIFI_IOREG 0x054 :=
    Or.inl (mac.putAccesses_inside _ member)
  have header : Frame (fun i => i < 0x1000 ∨ i = RXWriteCursor ∨
      i = WIFI_IOREG 0x054) mac (mac.headed pkt) := by
    unfold headed
    split
    · refine Frame.trans ?_ (Frame.of_mem (mem_triggerIRQ _ _))
      exact frame_putAll pkt.Data _ mac (Or.inr (Or.inl rfl))
        fun i member => Or.inl (putAllAccesses_inside pkt.Data _ mac _ member)
    · exact Frame.refl mac
  have word := header.trans (frame_RXPutWord _ (dataWord pkt.Data pkt.CurOffset)
    (Or.inr (Or.inl rfl)) (low _))
  exact word.trans (frame_packetDone _ (Or.inr (Or.inl rfl)) (Or.inr (Or.inr rfl)))
    (WIFI_IOREG 0x094) (by decide)

end Mac

namespace Chip

variable (chip : Chip)

/-- The condition on one operation: a byte of the baseband chip below its end, no
read of register 13 of the RF chip, and what a tick sends and replies to inside. -/
def StaysInside : Op → Prop
  | .power2 _ => True
  | .write16 addr val =>
      chip.mac.power2_wifi = true → isRegister addr = true →
        (register addr = 0x158 → (val >>> 12 &&& 3).toNat = 1 → (val &&& 0x7F).toNat < bbBytes) ∧
        (register addr = 0x17C → chip.rfBusy = false → (chip.half rfIOCnt).getLsbD 7 = true →
          (val >>> 2 &&& 0x1F).toNat ≠ 13)
  | .read16 addr =>
      chip.mac.power2_wifi = true → isRegister addr = true → register addr = 0x15C →
        (chip.half bbIOCnt).getLsbD 14 = true → chip.bbMode = 2 → chip.bbAddress < bbBytes
  | .usTrigger _ _ => (counters chip.mac).WorksInside

variable (val : u16)

theorem not_isRegister {addr : u32} (mem : isMemory addr = true) : isRegister addr = false := by
  have inside := of_decide_eq_true mem
  unfold isRegister
  dsimp only
  rw [decide_eq_true (show 0x2000 ≤ addr &&& 0x7000 ∧ addr &&& 0x7000 < 0x6000 by bv_omega)]
  rfl

theorem mac_write16 {addr : u32} {val : u16}
    (inside : AllInside (chip.accesses (.write16 addr val))) :
    (chip.WIFI_write16 addr val).mac = Wifi.WIFI_write16 chip.mac addr val := by
  have kept : (if chip.mac.power2_wifi ∧ isRegister addr then
      chip.writeRegister (register addr) val else chip).mac = chip.mac := by
    split
    next listed =>
      refine chip.mac_writeRegister ?_
      unfold accesses at inside
      dsimp only at inside
      have notMemory : ¬ isMemory addr = true := by
        intro mem
        rw [not_isRegister mem] at listed
        exact Bool.noConfusion listed.2
      rw [if_neg (by rw [listed.1]; decide),if_neg notMemory,if_pos listed.2] at inside
      exact inside
    next => rfl
  unfold WIFI_write16
  dsimp only
  rw [kept]

section

variable {holds : Mac → Prop} (survives : Survives holds)

include survives

theorem survives_write16 {addr : u32} {val : u16}
    (stored : ∀ (mac : Mac) i val', Access.store i ∈ chip.accesses (.write16 addr val) →
      holds mac → holds (mac.store i val'))
    (before : holds chip.mac) : holds (Wifi.WIFI_write16 chip.mac addr val) := by
  unfold accesses at stored
  dsimp only at stored
  cases power : chip.mac.power2_wifi with
  | false =>
      unfold Wifi.WIFI_write16
      dsimp only
      rw [if_pos power]
      exact before
  | true =>
      rw [power,if_neg (by decide)] at stored
      by_cases mem : isMemory addr = true
      · have page := of_decide_eq_true mem
        rw [if_pos mem] at stored
        unfold Wifi.WIFI_write16
        dsimp only
        rw [if_neg (by rw [power]; decide),if_neg (by bv_omega),if_pos page]
        exact stored _ _ _ (List.mem_singleton_self _) before
      · rw [if_neg mem] at stored
        by_cases listed : isRegister addr = true
        · rw [if_pos listed] at stored
          rw [write16_register chip.mac val power listed]
          refine survives.port _ _ (survives.writeRegister _ _ val ?_ before)
          intro circular
          rw [circular] at stored
          exact stored _ _ _ (List.mem_singleton_self _) before
        · have unlisted := listed
          simp only [isRegister,Bool.not_eq_true',decide_eq_false_iff_not,not_not] at unlisted
          simp only [isMemory,decide_eq_true_eq] at mem
          unfold Wifi.WIFI_write16
          dsimp only
          rw [if_neg (by rw [power]; decide),if_pos (by bv_omega)]
          exact before

theorem survives_read16 (ranged : chip.mac.Ranged) (addr : u32) (before : holds chip.mac) :
    holds (chip.WIFI_read16 addr).2.mac := by
  have counted (mac : Mac) (before : holds mac) : holds (countRead mac) := by
    have field (mac : Mac) (n : u16) (before : holds mac) :
        holds (mac.store RXBufCount n) :=
      survives.field (by decide) (fun member => absurd member (by decide)) before
    unfold countRead
    dsimp only
    split
    · exact before
    · split
      · exact field _ _ (survives.triggerIRQ _ before)
      · exact field _ _ before
  have advanced : holds (advanceRead chip.mac) := by
    rw [advanceRead_eq]
    exact survives.field (by decide) (fun _ => ranged.nextRead) before
  unfold WIFI_read16
  dsimp only
  split
  · exact before
  · split
    · exact before
    · split
      · exact before
      · unfold registerRead
        dsimp only
        split
        case h_2 =>
          split
          · exact counted _ advanced
          · exact before
        all_goals exact survives.same chip.mac _ rfl before

end

theorem ranged_step {after : Chip} {op : Op} (ranged : chip.mac.Ranged)
    (inside : AllInside (chip.accesses op)) (moved : chip.apply op = some after) :
    after.mac.Ranged := by
  have low (i : Nat) (member : i ∈ ranges) : 0x1000 ≤ i := by
    revert i
    decide
  cases op with
  | power2 wifi =>
      cases moved
      exact ⟨ranged.start,ranged.stop,ranged.read⟩
  | write16 addr val =>
      cases moved
      rw [chip.mac_write16 inside]
      refine chip.survives_write16 Mac.Ranged.survives ?_ ranged
      intro mac i val' member ranged
      refine ranged.store_other val' fun field => ?_
      have small : i < 0x1000 := inside _ member
      exact absurd (low i field) (by omega)
  | read16 addr =>
      cases moved
      exact chip.survives_read16 Mac.Ranged.survives ranged addr ranged
  | usTrigger replies arrivals =>
      obtain ⟨mac,ticked,rfl⟩ := Option.map_eq_some_iff.mp moved
      refine ranged.of_same fun i field => frame_usTrigger ticked i ?_
      rintro (stored | regs)
      · have small : i < 0x1000 := inside _ stored
        exact absurd (low i field) (by omega)
      · revert i
        decide

theorem RAM_step {after : Chip} {op : Op} (ranged : chip.mac.Ranged)
    (inside : AllInside (chip.accesses op)) (moved : chip.apply op = some after) {i : Nat}
    (low : i < 0x1000) (untouched : Access.store i ∉ chip.accesses op) :
    after.mac.mem i = chip.mac.mem i := by
  have survives : Survives (fun mac => mac.mem i = chip.mac.mem i) := by
    constructor
    · intro mac after same before
      rw [same,before]
    · intro mac field val high _ before
      change update mac.mem field val i = _
      rw [update_of_ne (by omega),before]
  cases op with
  | power2 wifi =>
      cases moved
      rfl
  | write16 addr val =>
      cases moved
      rw [chip.mac_write16 inside]
      refine chip.survives_write16 survives ?_ rfl
      intro mac other val' member before
      change update mac.mem other val' i = _
      rw [update_of_ne,before]
      rintro rfl
      exact untouched member
  | read16 addr =>
      cases moved
      exact chip.survives_read16 survives ranged addr rfl
  | usTrigger replies arrivals =>
      obtain ⟨mac,ticked,rfl⟩ := Option.map_eq_some_iff.mp moved
      refine frame_usTrigger ticked i ?_
      rintro (stored | regs)
      · exact untouched stored
      · have high : ∀ reg ∈ [RXWriteCursor,WIFI_IOREG 0x054,WIFI_IOREG 0x094],
            0x1000 ≤ reg := by decide
        exact absurd (high i regs) (by omega)

def Moves (op : Op) (after : Chip) : Prop := chip.apply op = some after

def Ranged : Prop := chip.mac.Ranged

theorem ranged_Reset (mode : Nat) : (silent.WIFI_Reset mode).mac.Ranged := by
  have zero (i : Nat) (field : i < IOPorts) :
      (silent.WIFI_Reset mode).mac.mem i = 0 := by
    change (Wifi.WIFI_Reset silent.WIFI_resetRF.mac mode).mem i = 0
    rw [mac_resetRF]
    exact if_neg fun port => absurd port.1 (by omega)
  constructor
  · rw [zero RXRangeBegin (by decide)]
    exact Nat.zero_le _
  · rw [zero RXRangeEnd (by decide)]
    exact Nat.zero_le _
  · rw [zero CircBufReadAddress (by decide)]
    exact Nat.zero_le _

/-- Along any run that stays inside the memories, a half-word of the RAM that no step stores to
is as it was. -/
theorem RAM_run {chip last : Chip} (ranged : chip.Ranged) {ops : List Op} {i : Nat}
    (low : i < 0x1000)
    (along : PartialRun.Along Moves (fun chip op =>
      AllInside (chip.accesses op) ∧ Access.store i ∉ chip.accesses op) chip ops)
    (reached : PartialRun.Reaches Moves chip ops last) : last.mac.mem i = chip.mac.mem i := by
  have kept := @PartialRun.invariant_of_reaches _ _ Moves _
    (fun now => now.Ranged ∧ now.mac.mem i = chip.mac.mem i)
    (fun now op next ⟨ranged,same⟩ ⟨inside,untouched⟩ moved =>
      ⟨now.ranged_step ranged inside moved,
        (now.RAM_step ranged inside moved low untouched).trans same⟩)
    chip last ⟨ranged,rfl⟩ ops along reached
  exact kept.2

/-- A frame's half-word is stored next to another. -/
theorem RAM_run_neighbour :
    ((silent.WIFI_Reset 2).WIFI_write16 0x04804000 0x1234).mac.mem 1 =
      (silent.WIFI_Reset 2).mac.mem 1 := by
  have along : PartialRun.Along Moves (fun chip op =>
      AllInside (chip.accesses op) ∧ Access.store 1 ∉ chip.accesses op)
      (silent.WIFI_Reset 2) [.write16 0x04804000 0x1234] :=
    ⟨by decide +kernel,fun _ _ => trivial⟩
  exact RAM_run (ranged_Reset 2) (by decide) along ⟨_,rfl,rfl⟩

end Chip

end Desmume.Wifi
