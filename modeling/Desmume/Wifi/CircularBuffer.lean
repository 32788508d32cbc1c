/-
A packet through the circular buffer.

The writer counts halfwords and the reader counts bytes; both go round the range
that the registers give it.
-/

import Desmume.Lib.RingBuffer
import Desmume.Wifi.Bounds

namespace Desmume.Wifi

open Function (update update_apply update_of_ne update_self)

open RingBuffer (Holds wrap)

/-- The range as a ring buffer, from the halfword `base` on. -/
def ring (mac : Mac) (base head tail size : Nat) : RingBuffer u16 where
  slot := fun i => mac.mem (base + i)
  head := head
  tail := tail
  size := size

/-- The registers of a range of `capacity` halfwords. -/
structure Range (base cap : Nat) (mac : Mac) : Prop where
  start : (mac.mem RXRangeBegin).toNat = 2 * base
  stop : (mac.mem RXRangeEnd).toNat = 2 * (base + cap)
  inside : base + cap ≤ 0xFFF

/-- None of the first words of the range from `head` on, and no register of the range. -/
def Spared (base cap head count i : Nat) : Prop :=
  (∀ turn < count, i ≠ base + (head + turn) % cap) ∧ (i < 0x1000 ∨ IOPorts ≤ i)

variable {base cap head count : Nat} {mac after : Mac} {items : List u16}

theorem mem_store_self (mac : Mac) (i : Nat) (val : u16) : (mac.store i val).mem i = val := by
  change update mac.mem i val i = val
  rw [update_self]

theorem Range.of_same (range : Range base cap mac)
    (same : ∀ i ∈ [RXRangeBegin,RXRangeEnd], after.mem i = mac.mem i) : Range base cap after where
  start := by rw [same _ (by decide)]; exact range.start
  stop := by rw [same _ (by decide)]; exact range.stop
  inside := range.inside

/-- The words that were received are in the range, the next one goes behind them. -/
structure Writing (base cap head : Nat) (mac : Mac) (items : List u16) : Prop where
  range : Range base cap mac
  enabled : mac.RXCnt.getLsbD 15 = true
  held : ∃ tail, (mac.mem RXWriteCursor).toNat = base + tail ∧
    Holds cap (ring mac base head tail items.length) items

theorem holds_of_same {tail : Nat}
    (holds : Holds cap (ring mac base head tail items.length) items)
    (same : ∀ turn < items.length, after.mem (base + (head + turn) % cap) =
      mac.mem (base + (head + turn) % cap)) :
    Holds cap (ring after base head tail items.length) items := holds.of_slots same

theorem Writing.of_same (writing : Writing base cap head mac items)
    (same : ∀ i, ¬ Spared base cap head items.length i →
      after.mem i = mac.mem i)
    (enabled : after.RXCnt = mac.RXCnt) : Writing base cap head after items := by
  have places : ∀ i ∈ [RXRangeBegin,RXRangeEnd,RXWriteCursor],
      0x1000 ≤ i ∧ i < IOPorts := by decide
  have field (i : Nat) (member : i ∈ [RXRangeBegin,RXRangeEnd,RXWriteCursor]) :
      after.mem i = mac.mem i := by
    refine same i fun spared => ?_
    have place := places i member
    rcases spared.2 with low | high
    · exact absurd low (by omega)
    · exact absurd high (by omega)
  obtain ⟨tail,cursor,holds⟩ := writing.held
  refine ⟨writing.range.of_same ?_,?_,tail,?_,holds_of_same holds ?_⟩
  · intro i member
    exact field i (List.mem_append_left [RXWriteCursor] member)
  · rw [enabled]
    exact writing.enabled
  · rw [field _ (by decide)]
    exact cursor
  · intro turn bound
    exact same _ fun spared => spared.1 turn bound rfl

def Mac.nextCursor (mac : Mac) : u16 :=
  if mac.mem RXRangeEnd >>> 1 ≤ mac.mem RXWriteCursor + 1 then mac.mem RXRangeBegin >>> 1
  else mac.mem RXWriteCursor + 1

@[simp] theorem RXCnt_wrapCursor (mac : Mac) : (wrapCursor mac).RXCnt = mac.RXCnt := by
  unfold wrapCursor
  split <;> rfl

@[simp] theorem RXCnt_RXPutWord (mac : Mac) (val : u16) :
    (WIFI_RXPutWord mac val).RXCnt = mac.RXCnt := by
  unfold WIFI_RXPutWord
  split
  · exact RXCnt_wrapCursor _
  · rfl

theorem mem_wrapCursor (mac : Mac) (i : Nat) :
    (wrapCursor mac).mem i = if i = RXWriteCursor then
      (if mac.mem RXRangeEnd >>> 1 ≤ mac.mem RXWriteCursor then mac.mem RXRangeBegin >>> 1
        else mac.mem RXWriteCursor)
      else mac.mem i := by
  unfold wrapCursor
  by_cases reached : mac.mem RXRangeEnd >>> 1 ≤ mac.mem RXWriteCursor
  · rw [if_pos reached,if_pos reached]
    change update mac.mem RXWriteCursor (mac.mem RXRangeBegin >>> 1) i = _
    rw [update_apply]
  · rw [if_neg reached,if_neg reached]
    by_cases here : i = RXWriteCursor
    · rw [if_pos here,here]
    · rw [if_neg here]

theorem mem_RXPutWord (enabled : mac.RXCnt.getLsbD 15 = true) (val : u16) (i : Nat) :
    (WIFI_RXPutWord mac val).mem i =
      if i = RXWriteCursor then mac.nextCursor
      else if i = (mac.mem RXWriteCursor &&& 0xFFF).toNat then val
      else mac.mem i := by
  have low := cursor_lt (mac.mem RXWriteCursor)
  generalize place : (mac.mem RXWriteCursor &&& 0xFFF).toNat = target at low ⊢
  have field (reg : Nat) (high : 0x1000 ≤ reg) :
      (mac.store target val).mem reg = mac.mem reg :=
    update_of_ne (by omega) _ _
  generalize written : (mac.store target val).store RXWriteCursor
    ((mac.store target val).mem RXWriteCursor + 1) = moved
  have cursor : moved.mem RXWriteCursor = mac.mem RXWriteCursor + 1 := by
    rw [← written,mem_store_self,field RXWriteCursor (by decide)]
  have reg (i : Nat) (other : i ≠ RXWriteCursor) :
      moved.mem i = (mac.store target val).mem i := by
    rw [← written]
    exact update_of_ne other _ _
  have put : (WIFI_RXPutWord mac val).mem i = (wrapCursor moved).mem i := by
    unfold WIFI_RXPutWord
    rw [if_pos enabled,place,← written]
  rw [put,mem_wrapCursor,cursor,reg RXRangeEnd (by decide),field RXRangeEnd (by decide),
    reg RXRangeBegin (by decide),field RXRangeBegin (by decide)]
  by_cases here : i = RXWriteCursor
  · rw [if_pos here,if_pos here]
    rfl
  · rw [if_neg here,if_neg here,reg i here]
    change update mac.mem target val i = _
    rw [update_apply]

section

variable {tail : Nat}

theorem cursor_place (range : Range base cap mac) (bound : tail < cap)
    (cursor : (mac.mem RXWriteCursor).toNat = base + tail) :
    (mac.mem RXWriteCursor &&& 0xFFF).toNat = base + tail := by
  have inside := range.inside
  have mask : (mac.mem RXWriteCursor).toNat &&& 4095 = (mac.mem RXWriteCursor).toNat % 4096 :=
    Nat.and_two_pow_sub_one_eq_mod _ 12
  rw [BitVec.toNat_and]
  change _ &&& 4095 = _
  rw [mask,cursor]
  exact Nat.mod_eq_of_lt (by omega)

theorem nextCursor_toNat (range : Range base cap mac) (bound : tail < cap)
    (cursor : (mac.mem RXWriteCursor).toNat = base + tail) :
    mac.nextCursor.toNat = base + wrap cap (tail + 1) := by
  have inside := range.inside
  have first : (mac.mem RXRangeBegin >>> 1).toNat = base := by
    rw [BitVec.toNat_ushiftRight,range.start,Nat.shiftRight_eq_div_pow]
    omega
  have last : (mac.mem RXRangeEnd >>> 1).toNat = base + cap := by
    rw [BitVec.toNat_ushiftRight,range.stop,Nat.shiftRight_eq_div_pow]
    omega
  have moved : (mac.mem RXWriteCursor + 1).toNat = base + tail + 1 := by
    rw [BitVec.toNat_add,cursor]
    exact Nat.mod_eq_of_lt (by change base + tail + 1 < 65536; omega)
  unfold Mac.nextCursor wrap
  by_cases full : mac.mem RXRangeEnd >>> 1 ≤ mac.mem RXWriteCursor + 1
  · have reached : base + cap ≤ base + tail + 1 := by
      rw [← last,← moved]
      exact full
    rw [if_pos full,if_pos (by omega),first,Nat.add_zero]
  · have below : ¬ base + cap ≤ base + tail + 1 := by
      rw [← last,← moved]
      exact full
    rw [if_neg full,if_neg (by omega),moved]
    omega

end

theorem Writing.put (writing : Writing base cap head mac items)
    (room : items.length < cap) (val : u16) :
    Writing base cap head (WIFI_RXPutWord mac val) (items ++ [val]) := by
  obtain ⟨tail,cursor,holds⟩ := writing.held
  have tailBound : tail < cap := holds.tail_lt
  have inside := writing.range.inside
  have place := cursor_place writing.range tailBound cursor
  have other (i : Nat) (cursor : i ≠ RXWriteCursor) (slot : i ≠ base + tail) :
      (WIFI_RXPutWord mac val).mem i = mac.mem i := by
    rw [mem_RXPutWord writing.enabled,if_neg cursor,place,if_neg slot]
  have slots (i : Nat) (bound : i < cap) :
      (WIFI_RXPutWord mac val).mem (base + i) =
        update (fun i => mac.mem (base + i)) tail val i := by
    have apart : base + i ≠ RXWriteCursor := by
      unfold RXWriteCursor
      omega
    rw [mem_RXPutWord writing.enabled,if_neg apart,place,update_apply]
    by_cases here : i = tail
    · rw [if_pos here,if_pos (by omega)]
    · rw [if_neg here,if_neg (by omega)]
  refine ⟨writing.range.of_same ?_,?_,wrap cap (tail + 1),?_,?_⟩
  · intro i member
    have places : ∀ i ∈ [RXRangeBegin,RXRangeEnd],
        0x1000 ≤ i ∧ i ≠ RXWriteCursor := by decide
    have field := places i member
    exact other i field.2 (by omega)
  · rw [RXCnt_RXPutWord]
    exact writing.enabled
  · rw [mem_RXPutWord writing.enabled,if_pos rfl]
    exact nextCursor_toNat writing.range tailBound cursor
  · rw [List.length_append,List.length_singleton]
    refine (holds.push room val).of_slots ?_
    intro turn _bound
    exact slots _ (Nat.mod_lt _ (Nat.zero_lt_of_lt tailBound))

/-- The places of the words from `count` on. -/
def places (base cap head count many : Nat) : List Access :=
  (List.range' count many).map fun turn => Access.store (base + (head + turn) % cap)

theorem Writing.putAccesses (writing : Writing base cap head mac items) :
    mac.putAccesses = places base cap head items.length 1 := by
  obtain ⟨tail,cursor,holds⟩ := writing.held
  have place := cursor_place writing.range holds.tail_lt cursor
  have behind : tail = (head + items.length) % cap := holds.tail_eq
  unfold Mac.putAccesses
  rw [if_pos writing.enabled,place,behind]
  rfl

theorem places_append (first second : Nat) :
    places base cap head count first ++ places base cap head (count + first) second =
      places base cap head count (first + second) := by
  unfold places
  rw [← List.map_append,List.range'_append_1]

theorem Writing.putAll (data : Nat → u8) {offsets : List Nat}
    (writing : Writing base cap head mac items) (room : items.length + offsets.length ≤ cap) :
    Writing base cap head
        (offsets.foldl (fun mac off => WIFI_RXPutWord mac (dataWord data off)) mac)
        (items ++ offsets.map (dataWord data)) ∧
      Mac.putAllAccesses data mac offsets =
        places base cap head items.length offsets.length := by
  induction offsets generalizing mac items with
  | nil =>
      rw [List.map_nil,List.append_nil]
      exact ⟨writing,rfl⟩
  | cons off rest ih =>
      rw [List.length_cons] at room
      have word := writing.put (by omega) (dataWord data off)
      have longer : (items ++ [dataWord data off]).length = items.length + 1 := by
        rw [List.length_append,List.length_singleton]
      obtain ⟨later,accesses⟩ := ih word (by omega)
      rw [List.append_assoc] at later
      refine ⟨later,?_⟩
      rw [Mac.putAllAccesses,writing.putAccesses,accesses,longer,places_append,
        List.length_cons,Nat.add_comm 1]

/-- The read address is at a word of the range, and no skip is set inside of it: the
skip address is not behind any word but the last, or skips nothing. -/
structure Reading (base cap head : Nat) (mac : Mac) : Prop
    extends Range base cap mac where
  address : (mac.mem CircBufReadAddress).toNat = 2 * (base + head)
  unskipped : (mac.mem CircBufRdEnd).toNat ≤ 2 * base ∨
    2 * (base + cap) ≤ (mac.mem CircBufRdEnd).toNat ∨
    mac.mem CircBufRdSkip = 0 ∧ (mac.mem CircBufRdEnd).toNat ≠ 2 * cap

/-- The reader wraps as the ring does. -/
theorem nextRead_toNat (reading : Reading base cap head mac) (bound : head < cap) :
    mac.nextRead.toNat = 2 * (base + wrap cap (head + 1)) := by
  have start := reading.start
  have stop := reading.stop
  have inside := reading.inside
  have unskipped := reading.unskipped
  have moved : (mac.mem CircBufReadAddress + 2).toNat = 2 * (base + head) + 2 := by
    rw [BitVec.toNat_add,reading.address]
    exact Nat.mod_eq_of_lt (by change 2 * (base + head) + 2 < 65536; omega)
  unfold Mac.nextRead wrap
  dsimp only
  generalize mac.mem CircBufReadAddress + 2 = next at moved ⊢
  by_cases full : mac.mem RXRangeEnd ≤ next
  · have reached : (mac.mem RXRangeEnd).toNat ≤ next.toNat := full
    rw [if_pos full,if_pos (by omega),start]
    omega
  · have below : next.toNat < (mac.mem RXRangeEnd).toNat := by
      rw [← BitVec.lt_def]
      exact BitVec.not_le.mp full
    have onward : (if head + 1 > cap - 1 then 0 else head + 1) = head + 1 :=
      if_neg (by omega)
    rw [if_neg full,onward]
    by_cases skip : next = mac.mem CircBufRdEnd
    · have same : (mac.mem CircBufRdEnd).toNat = next.toNat := by
        rw [skip]
      obtain ⟨none,quirk⟩ : mac.mem CircBufRdSkip = 0 ∧
          (mac.mem CircBufRdEnd).toNat ≠ 2 * cap := by
        rcases unskipped with before | behind | unused
        · exact absurd before (by omega)
        · exact absurd behind (by omega)
        · exact unused
      have even : next &&& 0x1FFE = next := by
        apply BitVec.eq_of_toNat_eq
        have mask (half : Nat) (small : half < 4096) : 2 * half &&& 0x1FFE = 2 * half := by
          have doubled (n : Nat) : 2 * n = n <<< 1 := by
            rw [Nat.shiftLeft_eq,Nat.mul_comm]
          have limit : 0x1FFE = 4095 <<< 1 := rfl
          rw [limit,doubled,← Nat.shiftLeft_and_distrib]
          change (half &&& (2 ^ 12 - 1)) <<< 1 = _
          rw [Nat.and_two_pow_sub_one_eq_mod,Nat.mod_eq_of_lt small]
        rw [BitVec.toNat_and]
        change next.toNat &&& 0x1FFE = _
        rw [moved,show 2 * (base + head) + 2 = 2 * (base + head + 1) by omega]
        exact mask _ (by omega)
      have zero : next + 0 * 2 &&& 0x1FFE = next := by
        rw [show next + 0 * 2 = next by bv_omega]
        exact even
      rw [if_pos skip,none,zero,if_neg (by omega)]
      omega
    · rw [if_neg skip]
      omega

theorem mem_countRead (mac : Mac) {i : Nat} (other : i ≠ RXBufCount) :
    (countRead mac).mem i = mac.mem i := by
  have counted (mac : Mac) (count : u16) : (mac.store RXBufCount count).mem i =
      mac.mem i := update_of_ne other _ _
  unfold countRead
  dsimp only
  split
  · rfl
  · rw [counted]
    split
    · rw [mem_triggerIRQ]
    · rfl

namespace Chip

/-- `REG_WIFI_CIRCBUFREAD`. -/
def CIRCBUFREAD : u32 := 0x04808060

def readBack : Nat → Chip → List u16
  | 0, _ => []
  | count + 1, chip =>
      (chip.WIFI_read16 CIRCBUFREAD).1 :: readBack count (chip.WIFI_read16 CIRCBUFREAD).2

theorem WIFI_read16_circular {chip : Chip} (powered : chip.mac.power2_wifi = true) :
    chip.WIFI_read16 CIRCBUFREAD =
      (chip.mac.mem (chip.mac.mem CircBufReadAddress >>> 1).toNat,
        { chip with mac := countRead (advanceRead chip.mac) }) := by
  unfold WIFI_read16
  dsimp only
  rw [if_neg (by rw [powered]; decide),if_neg (by decide),if_neg (by decide)]
  rfl

theorem power2_wifi_countRead (mac : Mac) : (countRead mac).power2_wifi = mac.power2_wifi := by
  have stored (mac : Mac) (count : u16) :
      (mac.store RXBufCount count).power2_wifi = mac.power2_wifi := rfl
  unfold countRead
  dsimp only
  split
  · rfl
  · rw [stored]
    split
    · exact congrArg Buffers.power2_wifi (buffers_triggerIRQ mac _)
    · rfl

/-- Each read pops a word. -/
theorem readBack_eq {chip : Chip} {tail : Nat} (powered : chip.mac.power2_wifi = true)
    (reading : Reading base cap head chip.mac)
    (holds : Holds cap (ring chip.mac base head tail items.length) items) :
    readBack items.length chip = items := by
  induction items generalizing chip head with
  | nil => rfl
  | cons item rest ih =>
      have bound : head < cap := holds.head_lt
      have inside := reading.inside
      have other (i : Nat) (count : i ≠ RXBufCount) (addr : i ≠ CircBufReadAddress) :
          (countRead (advanceRead chip.mac)).mem i = chip.mac.mem i := by
        rw [mem_countRead _ count,advanceRead_eq]
        exact update_of_ne addr _ _
      have places : ∀ i ∈ [RXRangeBegin,RXRangeEnd,CircBufRdEnd,CircBufRdSkip],
          i ≠ RXBufCount ∧ i ≠ CircBufReadAddress := by decide
      have field (i : Nat)
          (member : i ∈ [RXRangeBegin,RXRangeEnd,CircBufRdEnd,CircBufRdSkip]) :
          (countRead (advanceRead chip.mac)).mem i = chip.mac.mem i :=
        other i (places i member).1 (places i member).2
      have moved : (countRead (advanceRead chip.mac)).mem CircBufReadAddress =
          chip.mac.nextRead := by
        rw [mem_countRead _ (by decide),advanceRead_eq,mem_store_self]
      have here : chip.mac.mem (chip.mac.mem CircBufReadAddress >>> 1).toNat = item := by
        have place : (chip.mac.mem CircBufReadAddress >>> 1).toNat = base + head := by
          rw [BitVec.toNat_ushiftRight,reading.address,Nat.shiftRight_eq_div_pow]
          omega
        rw [place]
        exact holds.head_slot
      have next : Reading base cap (wrap cap (head + 1))
          (countRead (advanceRead chip.mac)) := by
        refine ⟨reading.toRange.of_same ?_,?_,?_⟩
        · intro i member
          exact field i (List.mem_append_left [CircBufRdEnd,CircBufRdSkip] member)
        · rw [moved]
          exact nextRead_toNat reading bound
        · rw [field CircBufRdEnd (by decide),field CircBufRdSkip (by decide)]
          exact reading.unskipped
      have left : Holds cap (ring (countRead (advanceRead chip.mac)) base
          (wrap cap (head + 1)) tail rest.length) rest := by
        refine holds.pop.of_slots ?_
        intro turn _bound
        have low := Nat.mod_lt (wrap cap (head + 1) + turn) (Nat.zero_lt_of_lt bound)
        refine other _ ?_ ?_
        · change base + (wrap cap (head + 1) + turn) % cap ≠ RXBufCount
          unfold RXBufCount
          omega
        · change base + (wrap cap (head + 1) + turn) % cap ≠ CircBufReadAddress
          unfold CircBufReadAddress
          omega
      have power : (countRead (advanceRead chip.mac)).power2_wifi = true := by
        rw [power2_wifi_countRead]
        exact powered
      rw [List.length_cons,readBack,WIFI_read16_circular powered,here]
      congr 1
      exact @ih _ { chip with mac := countRead (advanceRead chip.mac) } power next
        left

end Chip

structure Queues (before after : Mac) : Prop where
  enabled : after.RXCnt = before.RXCnt
  queued : ∃ more, after.RXPacketQueue = before.RXPacketQueue ++ more

theorem Queues.of_same {before after : Mac} (enabled : after.RXCnt = before.RXCnt)
    (queued : after.RXPacketQueue = before.RXPacketQueue) : Queues before after where
  enabled := enabled
  queued := ⟨[],by rw [queued,List.append_nil]⟩

theorem Queues.refl (mac : Mac) : Queues mac mac := Queues.of_same rfl rfl

theorem Queues.of_buffers {before after : Mac} (same : after.buffers = before.buffers) :
    Queues before after :=
  Queues.of_same (congrArg Buffers.RXCnt same) (congrArg Buffers.RXPacketQueue same)

theorem Queues.trans {first second third : Mac} (earlier : Queues first second)
    (later : Queues second third) : Queues first third where
  enabled := later.enabled.trans earlier.enabled
  queued := by
    obtain ⟨some,early⟩ := earlier.queued
    obtain ⟨more,late⟩ := later.queued
    exact ⟨some ++ more,by rw [late,early,List.append_assoc]⟩

theorem queues_queueAll (mac : Mac) (packets : List Packet) :
    Queues mac (packets.foldl WIFI_RXQueuePacket mac) := by
  induction packets generalizing mac with
  | nil => exact Queues.refl mac
  | cons packet rest ih =>
      have queued : Queues mac (WIFI_RXQueuePacket mac packet) := by
        unfold WIFI_RXQueuePacket
        split
        · exact ⟨rfl,_,rfl⟩
        · exact Queues.refl mac
      exact queued.trans (ih _)

theorem queues_msTrigger (mac : Mac) (arrivals : List Packet) :
    Queues mac (msTrigger mac arrivals) := by
  unfold msTrigger
  split
  · exact queues_queueAll mac arrivals
  · exact Queues.refl mac

theorem queue_counters (mac : Mac) : (counters mac).RXPacketQueue = mac.RXPacketQueue :=
  congrArg Buffers.RXPacketQueue (buffers_counters mac)

theorem queues_triggerIRQ (mac : Mac) (irq : Nat) : Queues mac (WIFI_triggerIRQ mac irq) :=
  Queues.of_buffers (buffers_triggerIRQ mac irq)

variable {slot : SlotIndex} {replies : List Packet}

theorem queues_PreTXAdjustments {adjusted : Mac}
    (returned : WIFI_PreTXAdjustments mac slot = some adjusted) : Queues mac adjusted := by
  have numbered (mac : Mac) (addr : Nat) : Queues mac (setSequenceNumber mac addr) :=
    Queues.of_same rfl rfl
  have stored (mac : Mac) (i : Nat) (val : u16) : Queues mac (mac.store i val) :=
    Queues.of_same rfl rfl
  have summed (mac : Mac) (i : Nat) (val : u32) : Queues mac (mac.store32 i val) :=
    (stored mac _ _).trans (stored _ _ _)
  have stamped (mac : Mac) (i : Nat) (val : u64) : Queues mac (mac.store64 i val) :=
    (summed mac _ _).trans (summed _ _ _)
  unfold WIFI_PreTXAdjustments at returned
  obtain ⟨crc,_computed,rfl⟩ := Option.map_eq_some_iff.mp returned
  refine Queues.trans ?_ (summed _ _ crc)
  split
  · split
    · exact (numbered mac _).trans (stamped _ _ _)
    · exact stamped mac _ _
  · split
    · exact numbered mac _
    · exact Queues.refl mac

theorem queues_beginTransmission {begun : Mac}
    (returned : beginTransmission mac slot replies = some begun) : Queues mac begun := by
  have marked (mac : Mac) (val : Wifi_TXSlot) : Queues mac (mac.setSlot slot val) :=
    Queues.of_same rfl rfl
  have told (mac : Mac) (event : Event) : Queues mac (mac.emit event) := Queues.of_same rfl rfl
  have sent (mac : Mac) : Queues mac (sendPacket mac slot replies) := by
    unfold sendPacket
    split
    · exact (told mac _).trans (queues_queueAll _ replies)
    · exact Queues.refl mac
  unfold beginTransmission at returned
  obtain ⟨adjusted,prepared,rfl⟩ := Option.map_eq_some_iff.mp returned
  refine Queues.trans ?_ (marked _ _)
  exact (queues_PreTXAdjustments prepared).trans ((queues_triggerIRQ _ _).trans (sent _))

theorem queues_reportEnd (mac : Mac) (slot : SlotIndex) : Queues mac (reportEnd mac slot) := by
  have stated (mac : Mac) (stat : u16) : Queues mac { mac with TXStat := stat } :=
    Queues.of_same rfl rfl
  have cleared (mac : Mac) (slot : SlotIndex) (val : u16) : Queues mac (mac.setRegVal slot val) :=
    Queues.of_same rfl rfl
  have stored (mac : Mac) (i : Nat) (val : u16) : Queues mac (mac.store i val) :=
    Queues.of_same rfl rfl
  have ended (mac : Mac) (stat : u16) :
      Queues mac { WIFI_triggerIRQ mac WIFI_IRQ_TXEND with TXStat := stat } :=
    (queues_triggerIRQ mac _).trans (stated _ _)
  unfold reportEnd
  dsimp only
  split
  · refine Queues.trans ?_ (cleared _ 1 _)
    refine Queues.trans (queues_triggerIRQ mac WIFI_IRQ_UNK) ?_
    split
    · exact ended _ _
    · split
      · exact ended _ _
      · exact Queues.refl _
  · split
    · exact ended mac _
    · exact Queues.refl mac
  · exact (queues_triggerIRQ mac _).trans ((cleared _ 5 _).trans (stored _ _ _))
  · exact (ended mac _).trans (cleared _ _ _)

theorem queues_transmit (returned : transmit mac slot replies = some after) : Queues mac after := by
  have freed (mac : Mac) (busy : u16) (next : Option SlotIndex) :
      Queues mac { mac with TXBusy := busy, TXCurSlot := next } := Queues.of_same rfl rfl
  have stored (mac : Mac) (i : Nat) (val : u16) : Queues mac (mac.store i val) :=
    Queues.of_same rfl rfl
  have told (mac : Mac) (event : Event) : Queues mac (mac.emit event) := Queues.of_same rfl rfl
  have counted (mac : Mac) (val : Wifi_TXSlot) : Queues mac (mac.setSlot slot val) :=
    Queues.of_same rfl rfl
  have moved (mac : Mac) (addr : u16) : Queues mac { mac with RXTXAddr := addr } :=
    Queues.of_same rfl rfl
  have ended (mac : Mac) : Queues mac (endTransmission mac slot) := by
    unfold endTransmission
    refine Queues.trans ?_ (freed _ _ _)
    refine Queues.trans ?_ (told _ _)
    refine Queues.trans ?_ (stored _ _ _)
    exact (queues_reportEnd mac slot).trans (stored _ _ 0x0001)
  have sent (mac : Mac) : Queues mac (sendHalfword mac slot) := by
    have out (val : Wifi_TXSlot) (addr : u16) :
        Queues mac { mac.setSlot slot val with RXTXAddr := addr } :=
      (counted mac val).trans (moved _ addr)
    unfold sendHalfword
    dsimp only
    split
    · exact (out _ _).trans (ended _)
    · exact out _ _
  unfold transmit at returned
  dsimp only at returned
  split at returned
  · cases returned
    exact counted mac _
  · split at returned
    · obtain ⟨begun,first,rfl⟩ := Option.map_eq_some_iff.mp returned
      refine Queues.trans ?_ (sent begun)
      split at first
      · exact queues_beginTransmission first
      · cases first
        exact Queues.refl _
    · cases returned
      exact Queues.refl mac

/-! ### The words of a packet -/

def words (data : Nat → u8) (count : Nat) : List u16 :=
  (List.range count).map fun turn => dataWord data (2 * turn)

/-- A packet of `hwords` halfwords of data after the first of them. -/
def partlyReceived (data : Nat → u8) (hwords done : Nat) : Wifi_RXPacket where
  Data := data
  CurOffset := 12 + 2 * done
  RemHWords := hwords - done
  NotStarted := decide (done = 0)

/-- How many words are in the range after the first of the data; the header comes with
the first of them. -/
def written (done : Nat) : Nat := if done = 0 then 0 else 6 + done

def Mac.wordAccesses (mac : Mac) (pkt : Wifi_RXPacket) : List Access :=
  (if pkt.NotStarted then Mac.putAllAccesses pkt.Data mac [0,2,4,6,8,10] else []) ++
    (mac.headed pkt).putAccesses

@[simp] theorem length_words (data : Nat → u8) (count : Nat) :
    (words data count).length = count := by
  rw [words,List.length_map,List.length_range]

theorem words_succ (data : Nat → u8) (count : Nat) :
    words data (count + 1) = words data count ++ [dataWord data (2 * count)] := by
  rw [words,List.range_succ,List.map_append]
  rfl

theorem written_le {hwords done : Nat} (bound : done ≤ hwords) : written done ≤ 6 + hwords := by
  unfold written
  split <;> omega

theorem Writing.headed {data : Nat → u8} {hwords done : Nat}
    (writing : Writing base cap head mac (words data (written done))) (room : 6 + done ≤ cap) :
    Writing base cap head (mac.headed (partlyReceived data hwords done))
        (words data (6 + done)) ∧
      places base cap head 0 (written done) ++
          (if (partlyReceived data hwords done).NotStarted then
            Mac.putAllAccesses data mac [0,2,4,6,8,10] else []) =
        places base cap head 0 (6 + done) := by
  unfold Mac.headed
  cases done with
  | zero =>
      obtain ⟨put,accesses⟩ := @Writing.putAll _ _ _ _ _ data [0,2,4,6,8,10] writing room
      have started : (partlyReceived data hwords 0).NotStarted = true := rfl
      rw [if_pos started,if_pos started]
      refine ⟨?_,accesses⟩
      refine put.of_same ?_ ?_
      · exact fun i _ => congrFun (mem_triggerIRQ _ _) i
      · exact congrArg Buffers.RXCnt (buffers_triggerIRQ _ _)
  | succ done =>
      have begun : ¬ (partlyReceived data hwords (done + 1)).NotStarted = true := Bool.false_ne_true
      rw [if_neg begun,if_neg begun,List.append_nil]
      exact ⟨writing,rfl⟩

theorem Writing.word {data : Nat → u8} {hwords done : Nat}
    (writing : Writing base cap head mac (words data (written done))) (room : 6 + done < cap) :
    Writing base cap head
        (WIFI_RXPutWord (mac.headed (partlyReceived data hwords done))
          (dataWord data (12 + 2 * done))) (words data (written (done + 1))) ∧
      places base cap head 0 (written done) ++
          mac.wordAccesses (partlyReceived data hwords done) =
        places base cap head 0 (written (done + 1)) := by
  have later : written (done + 1) = 6 + done + 1 := rfl
  obtain ⟨headed,header⟩ := writing.headed (by omega)
  have put := headed.put (by rw [length_words]; exact room) (dataWord data (12 + 2 * done))
  have next : 12 + 2 * done = 2 * (6 + done) := by omega
  constructor
  · rw [later,words_succ,← next]
    exact put
  · unfold Mac.wordAccesses
    rw [← List.append_assoc,headed.putAccesses,length_words]
    change (_ ++ if (partlyReceived data hwords done).NotStarted then
      Mac.putAllAccesses data mac [0,2,4,6,8,10] else []) ++ _ = _
    have behind := @places_append base cap head 0 (6 + done) 1
    rw [Nat.zero_add] at behind
    rw [header,behind,later]

def Mac.Receives (mac : Mac) : Prop :=
  mac.TXCurSlot = none ∧ mac.RXPacketQueue ≠ [] ∧ mac.GlobalUsecTimer &&& 7 = 0

instance (mac : Mac) : Decidable mac.Receives :=
  decidable_of_iff (mac.TXCurSlot.isNone = true ∧ mac.RXPacketQueue.isEmpty = false ∧
    mac.GlobalUsecTimer &&& 7 = 0) (by
      unfold Mac.Receives
      rw [Option.isNone_iff_eq_none,List.isEmpty_eq_false_iff])

/-- The controller, the turns so far, and the stores of their words. -/
structure Reception where
  mac : Mac
  turns : Nat
  stores : List Access

namespace Reception

variable (st : Reception)

def wordAccesses : List Access :=
  match (counters st.mac).RXPacketQueue with
  | [] => []
  | pkt :: _ => (counters st.mac).wordAccesses pkt

def tick (packets : List Packet × List Packet) : Option Reception :=
  (WIFI_usTrigger st.mac packets.1 packets.2).map fun mac =>
    if (counters st.mac).Receives then
      { mac := mac, turns := st.turns + 1, stores := st.stores ++ st.wordAccesses }
    else { mac := mac, turns := st.turns, stores := st.stores }

def Moves (packets : List Packet × List Packet) (after : Reception) : Prop :=
  st.tick packets = some after

/-- Neither the transmission nor the automatic reply stores into the words. -/
structure Clear (base cap head hwords : Nat) (st : Reception)
    (_packets : List Packet × List Packet) : Prop where
  sending : ∀ slot i, (counters st.mac).TXCurSlot = some slot →
    Access.store i ∈ (counters st.mac).transmitAccesses slot →
    Spared base cap head st.stores.length i
  replying : ∀ pkt rest, (counters st.mac).Receives →
    st.mac.RXPacketQueue = pkt :: rest → pkt.RemHWords = 1 → st.mac.IsCommand pkt.Data →
    Spared base cap head (6 + hwords) ((st.mac.mem (WIFI_IOREG 0x094) &&& 0x0FFF).toNat + 7)

/-- The packet is at the front of the queue and its words so far are in the range. -/
structure InProgress (base cap head : Nat) (data : Nat → u8) (hwords : Nat) : Prop where
  queue : ∃ rest, st.mac.RXPacketQueue = partlyReceived data hwords st.turns :: rest
  writing : Writing base cap head st.mac (words data (written st.turns))

def Complete (base cap head : Nat) (data : Nat → u8) (hwords : Nat) : Prop :=
  ∃ tail, Holds cap (ring st.mac base head tail (6 + hwords)) (words data (6 + hwords))

structure Invariant (base cap head : Nat) (data : Nat → u8) (hwords : Nat) : Prop where
  stores : st.stores = places base cap head 0 (written st.turns)
  partly : st.turns < hwords → st.InProgress base cap head data hwords
  whole : st.turns = hwords → st.Complete base cap head data hwords

variable {st}

theorem spared_register (count : Nat) {i : Nat} (high : IOPorts ≤ i)
    (inside : base + cap ≤ 0xFFF) (positive : 0 < cap) : Spared base cap head count i := by
  refine ⟨?_,Or.inr high⟩
  intro turn _bound
  have low := Nat.mod_lt (head + turn) positive
  unfold IOPorts at high
  omega

variable {hwords : Nat} {packets : List Packet × List Packet}

theorem quiet_tick (inside : base + cap ≤ 0xFFF) (positive : 0 < cap)
    (idle : ¬ (counters st.mac).Receives) (clear : Clear base cap head hwords st packets)
    (returned : WIFI_usTrigger st.mac packets.1 packets.2 = some after) :
    (∀ i, ¬ Spared base cap head st.stores.length i →
      after.mem i = st.mac.mem i) ∧ Queues st.mac after := by
  unfold WIFI_usTrigger at returned
  obtain ⟨worked,first,rfl⟩ := Option.map_eq_some_iff.mp returned
  have counted := buffers_counters st.mac
  have arrived := queues_msTrigger worked packets.2
  cases current : (counters st.mac).TXCurSlot with
  | none =>
      rw [current] at first
      cases first
      have same : receive (counters st.mac) = counters st.mac := by
        unfold receive
        cases queue : (counters st.mac).RXPacketQueue with
        | nil => rfl
        | cons pkt rest =>
            have between : ¬ (counters st.mac).GlobalUsecTimer &&& 7 = 0 := by
              intro turn
              refine idle ⟨current,?_,turn⟩
              rw [queue]
              exact List.cons_ne_nil pkt rest
            dsimp only
            rw [if_neg between]
      rw [same] at arrived ⊢
      refine ⟨?_,(Queues.of_buffers counted).trans arrived⟩
      intro i _
      rw [mem_msTrigger,mem_counters]
  | some slot =>
      rw [current] at first
      have frame := frame_transmit first
      refine ⟨?_,(Queues.of_buffers counted).trans ((queues_transmit first).trans arrived)⟩
      intro i needed
      rw [mem_msTrigger,frame i,mem_counters]
      rintro (stored | reg)
      · exact needed (clear.sending slot i current stored)
      · rw [reg] at needed
        exact needed (spared_register _ (by decide) inside positive)

variable {rest : List Wifi_RXPacket}

theorem receive_eq {pkt : Wifi_RXPacket}
    (queue : mac.RXPacketQueue = pkt :: rest) (turn : mac.GlobalUsecTimer &&& 7 = 0) :
    receive mac =
      let put := WIFI_RXPutWord (mac.headed pkt) (dataWord pkt.Data pkt.CurOffset)
      let next := { pkt with
        CurOffset := pkt.CurOffset + 2
        RemHWords := pkt.RemHWords - 1
        NotStarted := false }
      if pkt.RemHWords - 1 = 0 then finishPacket put next rest
      else { put with RXPacketQueue := next :: rest } := by
  unfold receive
  rw [queue]
  dsimp only
  rw [if_pos turn]
  rfl

theorem partlyReceived_succ (data : Nat → u8) (hwords done : Nat) :
    { partlyReceived data hwords done with
        CurOffset := (partlyReceived data hwords done).CurOffset + 2
        RemHWords := (partlyReceived data hwords done).RemHWords - 1
        NotStarted := false } = partlyReceived data hwords (done + 1) := by
  have left : (hwords : Int) - done - 1 = hwords - (done + 1 : Nat) := by omega
  unfold partlyReceived
  rw [left]
  rfl

theorem store_mem_replyAccesses {cmd : Nat → u8} {i : Nat}
    (stored : Access.store i ∈ mac.replyAccesses cmd) :
    mac.IsCommand cmd ∧ i = (mac.mem (WIFI_IOREG 0x094) &&& 0x0FFF).toNat + 7 := by
  have loads (mac : Mac) (slot : SlotIndex) : Access.store i ∉ mac.startAccesses slot := by
    unfold Mac.startAccesses
    dsimp only
    split_ifs <;> simp
  unfold Mac.replyAccesses at stored
  by_cases command : mac.IsCommand cmd
  · rw [if_pos command] at stored
    refine ⟨command,?_⟩
    rcases List.mem_cons.mp stored with here | started
    · exact Access.store.inj here
    · exact absurd started (loads _ _)
  · rw [if_neg command] at stored
    exact absurd stored List.not_mem_nil

variable {data : Nat → u8}

theorem complete_of_finish {pkt : Wifi_RXPacket} {put : Mac} (same : pkt.Data = data)
    (writing : Writing base cap head put (words data (6 + hwords)))
    (replying : put.packetDone.IsCommand data → Spared base cap head (6 + hwords)
      ((put.packetDone.mem (WIFI_IOREG 0x094) &&& 0x0FFF).toNat + 7))
    (kept : after.mem = (finishPacket put pkt rest).mem) :
    ∃ tail, Holds cap (ring after base head tail (6 + hwords)) (words data (6 + hwords)) := by
  obtain ⟨tail,_cursor,holds⟩ := writing.held
  have inside := writing.range.inside
  have positive : 0 < cap := Nat.zero_lt_of_lt holds.head_lt
  have done : Frame (fun i => i = RXWriteCursor ∨ i = WIFI_IOREG 0x054) put
      put.packetDone := frame_packetDone put (Or.inl rfl) (Or.inr rfl)
  have replied := frame_DoAutoReply put.packetDone data fun i member => member
  have place (turn : Nat) (bound : turn < (words data (6 + hwords)).length) :
      after.mem (base + (head + turn) % cap) =
        put.mem (base + (head + turn) % cap) := by
    have low := Nat.mod_lt (head + turn) positive
    rw [length_words] at bound
    rw [kept,finishPacket_eq,same]
    change (WIFI_DoAutoReply put.packetDone data).mem _ = _
    rw [replied,done]
    · have regs : ∀ i ∈ [RXWriteCursor,WIFI_IOREG 0x054], 0x1000 ≤ i := by decide
      rintro (cursor | hardware)
      · exact absurd (regs _ (List.mem_cons.mpr (Or.inl cursor))) (by omega)
      · exact absurd (regs _ (List.mem_cons_of_mem _ (List.mem_singleton.mpr hardware)))
          (by omega)
    · intro stored
      obtain ⟨cmd,here⟩ := store_mem_replyAccesses stored
      exact (replying cmd).1 turn bound here.symm
  have held := holds_of_same holds place
  rw [length_words] at held
  exact ⟨tail,held⟩

/-- The turn of the packet: the next word, and after the last the whole packet. -/
theorem turn_tick (room : 6 + hwords ≤ cap) (turn : (counters st.mac).Receives)
    (clear : Clear base cap head hwords st packets)
    (unfinished : st.turns < hwords)
    (partly : st.InProgress base cap head data hwords)
    (returned : WIFI_usTrigger st.mac packets.1 packets.2 = some after) (stores : List Access) :
    (st.turns + 1 < hwords → InProgress
      { mac := after, turns := st.turns + 1, stores := stores } base cap head data hwords) ∧
    (st.turns + 1 = hwords → Complete
      { mac := after, turns := st.turns + 1, stores := stores }
      base cap head data hwords) := by
  obtain ⟨rest,queued⟩ := partly.queue
  have counted := buffers_counters st.mac
  have queue : (counters st.mac).RXPacketQueue =
      partlyReceived data hwords st.turns :: rest :=
    (queue_counters _).trans queued
  have counting : Writing base cap head (counters st.mac)
      (words data (written st.turns)) :=
    partly.writing.of_same (fun i _ => congrFun (mem_counters _) i)
      (congrArg Buffers.RXCnt counted)
  obtain ⟨put,_places⟩ := @Writing.word _ _ _ _ data hwords _ counting (by omega)
  have last : (partlyReceived data hwords st.turns).RemHWords - 1 = 0 ↔
      st.turns + 1 = hwords := by
    change (hwords : Int) - st.turns - 1 = 0 ↔ _
    omega
  unfold WIFI_usTrigger at returned
  obtain ⟨worked,first,rfl⟩ := Option.map_eq_some_iff.mp returned
  rw [turn.1] at first
  have received := Option.some.inj first
  rw [receive_eq queue turn.2.2] at received
  dsimp only at received
  rw [partlyReceived_succ] at received
  constructor
  · intro more
    rw [if_neg (fun done => absurd (last.mp done) (by omega))] at received
    subst received
    obtain ⟨enabled,arrivals,arrived⟩ := queues_msTrigger
      { WIFI_RXPutWord ((counters st.mac).headed (partlyReceived data hwords st.turns))
          (dataWord data (12 + 2 * st.turns)) with
        RXPacketQueue := partlyReceived data hwords (st.turns + 1) :: rest } packets.2
    refine ⟨⟨rest ++ arrivals,arrived⟩,put.of_same ?_ enabled⟩
    exact fun i _ => congrFun (mem_msTrigger _ _) i
  · intro all
    rw [if_pos (last.mpr all)] at received
    have whole : written (st.turns + 1) = 6 + hwords := by
      rw [← all]
      rfl
    rw [whole] at put
    refine complete_of_finish rfl put ?_
      ((mem_msTrigger _ _).trans (congrArg Mac.mem received.symm))
    intro cmd
    have pid : (counters st.mac).pid = st.mac.pid := congrArg Buffers.pid counted
    have reg := (counters st.mac).reply_register (partlyReceived data hwords st.turns)
    rw [mem_counters] at reg
    have ours : st.mac.IsCommand data := by
      unfold Mac.IsCommand at cmd ⊢
      rw [Mac.pid_packetDone,Mac.pid_RXPutWord,Mac.pid_headed,pid] at cmd
      exact cmd
    have spared := clear.replying _ rest turn queued (by
      change (hwords : Int) - st.turns = 1
      omega) ours
    rw [← reg] at spared
    exact spared

@[simp] theorem length_places (count many : Nat) :
    (places base cap head count many).length = many := by
  rw [places,List.length_map,List.length_range']

/-- A tick keeps what holds until the packet behind is received. -/
theorem invariant_step (inside : base + cap ≤ 0xFFF)
    (room : 6 + hwords ≤ cap) (nonempty : 1 ≤ hwords)
    {packets : List Packet × List Packet} {next : Reception}
    (before : st.turns ≤ hwords → st.Invariant base cap head data hwords)
    (clear : Clear base cap head hwords st packets) (moved : st.Moves packets next)
    (turns : next.turns ≤ hwords) : next.Invariant base cap head data hwords := by
  obtain ⟨after,returned,rfl⟩ := Option.map_eq_some_iff.mp moved
  by_cases turn : (counters st.mac).Receives
  · rw [if_pos turn] at turns ⊢
    have unfinished : st.turns < hwords := turns
    have invariant := before (by omega)
    have partly := invariant.partly unfinished
    obtain ⟨rest,queued⟩ := partly.queue
    have counting : Writing base cap head (counters st.mac)
        (words data (written st.turns)) :=
      partly.writing.of_same (fun i _ => congrFun (mem_counters _) i)
        (congrArg Buffers.RXCnt (buffers_counters _))
    obtain ⟨_put,stored⟩ := @Writing.word _ _ _ _ data hwords _ counting (by omega)
    have front : st.wordAccesses =
        (counters st.mac).wordAccesses (partlyReceived data hwords st.turns) := by
      have queue : (counters st.mac).RXPacketQueue =
          partlyReceived data hwords st.turns :: rest :=
        (queue_counters _).trans queued
      unfold wordAccesses
      rw [queue]
    obtain ⟨more,all⟩ := turn_tick room turn clear unfinished partly returned
      (st.stores ++ st.wordAccesses)
    refine ⟨?_,more,all⟩
    change st.stores ++ st.wordAccesses = _
    rw [front,invariant.stores]
    exact stored
  · rw [if_neg turn] at turns ⊢
    have invariant := before turns
    obtain ⟨same,arrived⟩ := quiet_tick inside (by omega) turn clear returned
    rw [invariant.stores,length_places] at same
    refine ⟨invariant.stores,?_,?_⟩
    · intro unfinished
      have partly := invariant.partly unfinished
      obtain ⟨rest,queued⟩ := partly.queue
      obtain ⟨more,behind⟩ := arrived.queued
      refine ⟨⟨rest ++ more,?_⟩,?_⟩
      · rw [behind,queued]
        rfl
      · refine partly.writing.of_same ?_ arrived.enabled
        rw [length_words]
        exact same
    · intro all
      obtain ⟨tail,holds⟩ := invariant.whole all
      have whole : written st.turns = 6 + hwords := by
        change st.turns = hwords at all
        rw [written,if_neg (by omega),all]
      refine ⟨tail,holds.of_slots ?_⟩
      intro place bound
      rw [length_words,← whole] at bound
      exact same _ fun spared => spared.1 place bound rfl

/-! ### The clock -/

theorem timer_of_starts {first second : Schedule} (starts : Starts first second) :
    second.timer = first.timer := by
  induction starts with
  | refl => rfl
  | start earlier slot fresh valid ih => exact ih

def Idle (st : Reception) (_packets : List Packet × List Packet) : Prop :=
  (counters st.mac).TXCurSlot = none

theorem timer_counters (mac : Mac) : (counters mac).GlobalUsecTimer = mac.GlobalUsecTimer + 1 :=
  timer_of_starts (starts_counters mac)

theorem idle_tick (idle : st.Idle packets) :
    ∃ next, st.Moves packets next ∧
      next.mac.GlobalUsecTimer = st.mac.GlobalUsecTimer + 1 ∧
      next.turns = st.turns + if (counters st.mac).Receives then 1 else 0 := by
  have returned : WIFI_usTrigger st.mac packets.1 packets.2 =
      some (msTrigger (receive (counters st.mac)) packets.2) := by
    unfold WIFI_usTrigger
    dsimp only
    rw [show (counters st.mac).TXCurSlot = none from idle]
    rfl
  have timer : (msTrigger (receive (counters st.mac)) packets.2).GlobalUsecTimer =
      st.mac.GlobalUsecTimer + 1 := by
    rw [← timer_counters]
    exact (congrArg Schedule.timer (schedule_msTrigger _ _)).trans
      (timer_of_starts (starts_receive _))
  refine ⟨_,congrArg (Option.map _) returned,?_⟩
  dsimp only
  split
  · exact ⟨timer,rfl⟩
  · exact ⟨timer,rfl⟩

theorem turn_iff (timer : u64) : timer &&& 7 = 0 ↔ timer.toNat % 8 = 0 := by
  have mask : timer.toNat &&& 7 = timer.toNat % 8 := Nat.and_two_pow_sub_one_eq_mod _ 3
  rw [← mask,← BitVec.toNat_inj,BitVec.toNat_and]
  rfl

/-- Eight ticks for each word of the data are enough, and none too many. -/
theorem idle_run (inside : base + cap ≤ 0xFFF) (room : 6 + hwords ≤ cap) (nonempty : 1 ≤ hwords)
    {ticks : List (List Packet × List Packet)}
    (before : st.turns ≤ hwords → st.Invariant base cap head data hwords)
    (clear : PartialRun.Along Moves (Clear base cap head hwords) st ticks)
    (idle : PartialRun.Along Moves Idle st ticks) :
    ∃ last, PartialRun.Reaches Moves st ticks last ∧
      last.turns ≤ st.turns + (st.mac.GlobalUsecTimer.toNat % 8 + ticks.length) / 8 ∧
      min hwords (st.turns + (st.mac.GlobalUsecTimer.toNat % 8 + ticks.length) / 8) ≤
        last.turns := by
  induction ticks generalizing st with
  | nil =>
      refine ⟨st,rfl,?_,?_⟩
      · exact Nat.le_add_right _ _
      · rw [List.length_nil]
        omega
  | cons packets rest ih =>
      obtain ⟨next,moved,timer,turns⟩ := idle_tick idle.1
      have kept := invariant_step inside room nonempty before clear.1 moved
      obtain ⟨last,reached,most,least⟩ :=
        ih kept (clear.2 next moved) (idle.2 next moved)
      refine ⟨last,⟨next,moved,reached⟩,?_⟩
      have clock : next.mac.GlobalUsecTimer.toNat =
          (st.mac.GlobalUsecTimer.toNat + 1) % 2 ^ 64 := by
        rw [timer,BitVec.toNat_add]
        rfl
      have due : (counters st.mac).GlobalUsecTimer &&& 7 = 0 ↔
          next.mac.GlobalUsecTimer.toNat % 8 = 0 := by
        rw [timer_counters,← timer,turn_iff]
      have turn : st.turns < hwords → next.mac.GlobalUsecTimer.toNat % 8 = 0 →
          next.turns = st.turns + 1 := by
        intro unfinished now
        obtain ⟨queue,queued⟩ := ((before (by omega)).partly unfinished).queue
        have front : (counters st.mac).RXPacketQueue ≠ [] := by
          rw [queue_counters,queued]
          exact List.cons_ne_nil _ _
        rw [turns,if_pos ⟨idle.1,front,due.mpr now⟩]
      have between : next.mac.GlobalUsecTimer.toNat % 8 ≠ 0 → next.turns = st.turns := by
        intro early
        rw [turns,if_neg (fun receives => early (due.mp receives.2.2)),Nat.add_zero]
      have ofTurn : st.turns ≤ next.turns ∧ next.turns ≤ st.turns + 1 := by
        rw [turns]
        split <;> omega
      rw [List.length_cons]
      by_cases now : next.mac.GlobalUsecTimer.toNat % 8 = 0
      · rw [now] at most least
        have eighth : st.mac.GlobalUsecTimer.toNat % 8 = 7 := by omega
        rw [eighth]
        by_cases unfinished : st.turns < hwords
        · have one := turn unfinished now
          omega
        · omega
      · have same := between now
        have later : next.mac.GlobalUsecTimer.toNat % 8 =
            st.mac.GlobalUsecTimer.toNat % 8 + 1 := by omega
        rw [later,same] at most least
        omega

end Reception

def Packet.hwords (packet : Packet) : Nat := ((packet.len - 11) >>> 1).toNat

/-- The packet is at the front of the queue and the cursor in the range. -/
structure Ready (base cap head : Nat) (packet : Packet) (mac : Mac) : Prop where
  range : Range base cap mac
  enabled : mac.RXCnt.getLsbD 15 = true
  cursor : (mac.mem RXWriteCursor).toNat = base + head
  latched : head < cap
  queue : ∃ rest, mac.RXPacketQueue =
    { Data := packet.Data
      CurOffset := 12
      RemHWords := ((packet.len - 11) >>> 1).toInt
      NotStarted := true } :: rest

/-- Each word is stored once, in order and behind the cursor, and when the turns of the
packet are over, reads from the cursor on return the words. -/
structure Lossless (base cap head : Nat) (packet : Packet) (st : Reception) : Prop where
  once : ∃ count ≤ 6 + packet.hwords, st.stores = places base cap head 0 count ∧
    ∀ turn < count,
      st.mac.mem (base + (head + turn) % cap) = dataWord packet.Data (2 * turn)
  all : st.turns = max 1 packet.hwords → st.stores.length = 6 + packet.hwords
  read : st.turns = max 1 packet.hwords → ∀ chip : Chip,
    chip.mac.power2_wifi = true → Reading base cap head chip.mac →
    (∀ i < 0x1000, chip.mac.mem i = st.mac.mem i) →
    Chip.readBack (6 + packet.hwords) chip = words packet.Data (6 + packet.hwords)

variable {packet : Packet}

theorem Ready.invariant (ready : Ready base cap head packet mac)
    (nonempty : 1 ≤ packet.hwords) :
    Reception.Invariant { mac := mac, turns := 0, stores := [] } base cap head packet.Data
      packet.hwords := by
  obtain ⟨rest,queued⟩ := ready.queue
  refine ⟨rfl,fun _ => ?_, fun none => ?_⟩
  · have length : ((packet.len - 11) >>> 1).toInt = (packet.hwords : Int) - (0 : Nat) := by
      unfold Packet.hwords
      rw [BitVec.toInt_eq_toNat_of_lt]
      · exact (Int.sub_zero _).symm
      · rw [BitVec.toNat_ushiftRight,Nat.shiftRight_eq_div_pow]
        have bound := (packet.len - 11).isLt
        omega
    refine ⟨⟨rest,?_⟩,?_⟩
    · rw [queued,length]
      rfl
    · refine ⟨ready.range,ready.enabled,head,ready.cursor,?_⟩
      refine ⟨rfl,Nat.zero_le _,ready.latched,?_,?_⟩
      · exact (Nat.mod_eq_of_lt ready.latched).symm
      · intro i bound
        exact absurd bound (Nat.not_lt_zero i)
  · exact absurd none (by change ¬ 0 = packet.hwords; omega)

theorem lossless_of_invariant {st : Reception} (inside : base + cap ≤ 0xFFF)
    (nonempty : 1 ≤ packet.hwords) (turns : st.turns ≤ packet.hwords)
    (invariant : st.Invariant base cap head packet.Data packet.hwords) :
    Lossless base cap head packet st := by
  have stored := invariant.stores
  have full : st.turns = packet.hwords → written st.turns = 6 + packet.hwords := by
    intro all
    rw [written,if_neg (by omega),all]
  have most : max 1 packet.hwords = packet.hwords := Nat.max_eq_right nonempty
  refine ⟨⟨written st.turns,written_le turns,stored,?_⟩,?_,?_⟩
  · intro turn bound
    have item (items : List u16) (tail size : Nat)
        (holds : Holds cap (ring st.mac base head tail size) items)
        (eq : items = words packet.Data (written st.turns)) :
        st.mac.mem (base + (head + turn) % cap) = dataWord packet.Data (2 * turn) := by
      subst eq
      have slot := holds.slots turn (by rw [length_words]; exact bound)
      refine slot.trans ?_
      unfold words
      rw [List.getElem_map,List.getElem_range]
    rcases Nat.lt_or_eq_of_le turns with unfinished | all
    · obtain ⟨tail,_cursor,holds⟩ := (invariant.partly unfinished).writing.held
      exact item _ tail _ holds rfl
    · obtain ⟨tail,holds⟩ := invariant.whole all
      exact item _ tail _ holds (by rw [full all])
  · intro all
    rw [most] at all
    rw [stored,Reception.length_places,full all]
  · intro all chip powered reading same
    rw [most] at all
    obtain ⟨tail,holds⟩ := invariant.whole all
    have positive : 0 < cap := Nat.zero_lt_of_lt holds.head_lt
    have copied : Holds cap (ring chip.mac base head tail (6 + packet.hwords))
        (words packet.Data (6 + packet.hwords)) := by
      refine holds.of_slots ?_
      intro turn _bound
      have low := Nat.mod_lt (head + turn) positive
      exact same (base + (head + turn) % cap) (by omega)
    have back := @Chip.readBack_eq _ _ _ (words packet.Data (6 + packet.hwords)) chip tail powered
      reading (by rw [length_words]; exact copied)
    rw [length_words] at back
    exact back

/-- Reception through the circular buffer is lossless for a packet with data, unless the
transmission or the automatic reply stores into its words; eight ticks without a
transmission for each halfword of the data receive it. -/
theorem reception_lossless {ticks : List (List Packet × List Packet)}
    (ready : Ready base cap head packet mac) (shorter : 6 + packet.hwords ≤ cap)
    (nonempty : 1 ≤ packet.hwords) (clear : PartialRun.Along Reception.Moves
      (Reception.Clear base cap head packet.hwords) ⟨mac,0,[]⟩ ticks) :
    (∀ last, PartialRun.Reaches Reception.Moves ⟨mac,0,[]⟩ ticks last →
      last.turns ≤ max 1 packet.hwords → Lossless base cap head packet last) ∧
    (PartialRun.Along Reception.Moves Reception.Idle ⟨mac,0,[]⟩ ticks →
      ticks.length = 8 * packet.hwords →
      ∃ last, PartialRun.Reaches Reception.Moves ⟨mac,0,[]⟩ ticks last ∧
        last.turns = packet.hwords) := by
  have inside := ready.range.inside
  have invariant := ready.invariant nonempty
  constructor
  · intro last reached turns
    rw [Nat.max_eq_right nonempty] at turns
    have kept := @PartialRun.invariant_of_reaches _ _ Reception.Moves
      (Reception.Clear base cap head packet.hwords)
      (fun st => st.turns ≤ packet.hwords →
        st.Invariant base cap head packet.Data packet.hwords)
      (fun st packets next before clear moved =>
        Reception.invariant_step inside shorter nonempty before clear moved)
      ⟨mac,0,[]⟩ last (fun _ => invariant) ticks clear reached
    exact lossless_of_invariant inside nonempty turns (kept turns)
  · intro idle length
    obtain ⟨last,reached,most,least⟩ :=
      Reception.idle_run inside shorter nonempty (fun _ => invariant) clear idle
    refine ⟨last,reached,?_⟩
    dsimp only at most least
    rw [length] at most least
    omega

/-- A packet in front of an empty range of 64 halfwords, with the cursor at the last but
one of them, just before its turn. -/
def waiting (packet : Packet) : Mac :=
  { (Chip.silent.WIFI_Reset 2).mac with
    RXCnt := 0x8000
    GlobalUsecTimer := 7
    mem := fun i =>
      if i = RXRangeEnd then 0x80 else if i = RXWriteCursor then 0x3E else 0
    RXPacketQueue := [{ Data := packet.Data
                        CurOffset := 12
                        RemHWords := ((packet.len - 11) >>> 1).toInt
                        NotStarted := true }] }

def counting (len : u32) : Packet := { Data := fun i => BitVec.ofNat 8 i, len := len }

theorem waiting_ready (packet : Packet) : Ready 0 0x40 0x3E packet (waiting packet) where
  range := ⟨rfl,rfl,by decide⟩
  enabled := show (0x8000 : u16).getLsbD 15 = true by decide
  cursor := rfl
  latched := by decide
  queue := ⟨[],rfl⟩

theorem waiting_clear (len : u32) :
    PartialRun.Along Reception.Moves (Reception.Clear 0 0x40 0x3E (counting len).hwords)
      ⟨waiting (counting len),0,[]⟩ [([], [])] := by
  refine ⟨⟨?_,?_⟩,fun _ _ => trivial⟩
  · intro slot i current _stored
    exact nomatch current
  · intro pkt rest _receives queue _last cmd
    obtain rfl := (List.cons.inj queue).1.symm
    exact absurd cmd.1 (show ¬ dataWord (BitVec.ofNat 8) 12 &&& 0xE7FF = 0x0228 by decide)

theorem one_word_received : ∃ last, Reception.Moves ⟨waiting (counting 13),0,[]⟩ ([], []) last ∧
    Lossless 0 0x40 0x3E (counting 13) last := by
  obtain ⟨last,moved,_timer,turns⟩ :=
    @Reception.idle_tick ⟨waiting (counting 13),0,[]⟩ ([], []) rfl
  have received := (reception_lossless (waiting_ready (counting 13)) (by decide) (by decide)
    (waiting_clear 13)).1 last ⟨last,moved,rfl⟩
  refine ⟨last,moved,received ?_⟩
  rw [turns]
  split <;> decide

/-- A packet of nothing but a header is not over with its turn. -/
theorem header_runs_on :
    ¬ ∀ (base cap head : Nat) (packet : Packet) (mac : Mac)
        (ticks : List (List Packet × List Packet)) (last : Reception),
      Ready base cap head packet mac → 6 + packet.hwords < cap →
      PartialRun.Along Reception.Moves (Reception.Clear base cap head packet.hwords)
        ⟨mac,0,[]⟩ ticks →
      PartialRun.Reaches Reception.Moves ⟨mac,0,[]⟩ ticks last →
      last.turns ≤ max 1 packet.hwords → Lossless base cap head packet last := by
  intro all
  have ticked : (Reception.tick ⟨waiting (counting 12),0,[]⟩ ([], [])).map
      (fun st => (st.turns, st.stores.length)) = some (1, 7) := by decide +kernel
  obtain ⟨last,moved,counted⟩ := Option.map_eq_some_iff.mp ticked
  obtain ⟨turns,stored⟩ := Prod.mk.inj counted
  obtain ⟨count,few,stores,_held⟩ := (all 0 0x40 0x3E (counting 12) (waiting (counting 12))
    [([], [])] last (waiting_ready _) (by decide) (waiting_clear 12) ⟨last,moved,rfl⟩
    (by rw [turns]; decide)).once
  rw [stores,Reception.length_places] at stored
  rw [stored] at few
  exact absurd few (by decide)

end Desmume.Wifi
