/-
The schedule of transmissions on its own.

A schedule is what the controller keeps of its transmissions: the time, which
slot is current, which are busy, how far each has come, and the events so far.
-/

import Desmume.Wifi.Mac

namespace Desmume.Wifi

open Function (update update_apply)

structure Timing where
  CurAddr : u16
  RemPreamble : Int
  RemHWords : Int
  TimeMask : u32
  NotStarted : Bool

structure Schedule where
  connected : Bool
  timer : u64
  current : Option SlotIndex
  TXBusy : u16
  slots : SlotIndex → Timing
  log : List Event

def nextslot (TXBusy : u16) : Option SlotIndex :=
  [5,4,3,2,1,0].find? (fun slot : SlotIndex => TXBusy.getLsbD slot)

namespace Schedule

variable (sched : Schedule) (slot : SlotIndex)

def busy : Bool := sched.TXBusy.getLsbD slot

def setSlot (timing : Timing) : Schedule :=
  { sched with slots := update sched.slots slot timing }

def emit (event : Event) : Schedule :=
  { sched with log := sched.log ++ [event] }

def elapse : Schedule := { sched with timer := sched.timer + 1 }

def start (sched : Schedule) (slot : SlotIndex) (fresh : Timing) : Schedule :=
  { (sched.setSlot slot fresh).emit (.started slot fresh.CurAddr fresh.RemHWords.toNat) with
    current := some (sched.current.getD slot)
    TXBusy := sched.TXBusy ||| BitVec.twoPow 16 slot }

def countdown : Schedule :=
  sched.setSlot slot
    { sched.slots slot with RemPreamble := (sched.slots slot).RemPreamble - 1 }

def send (packet : List u16) : Schedule :=
  let told :=
    if sched.connected then
      sched.emit (.SendPacket slot (sched.slots slot).CurAddr packet)
    else sched
  told.setSlot slot { sched.slots slot with NotStarted := false }

def halfword : Schedule :=
  sched.setSlot slot
    { sched.slots slot with
      RemHWords := (sched.slots slot).RemHWords - 1
      CurAddr := (sched.slots slot).CurAddr + 1 }

def finish : Schedule :=
  let TXBusy := sched.TXBusy &&& ~~~(BitVec.twoPow 16 slot)
  { (sched.halfword slot).emit (.ended slot) with
    TXBusy := TXBusy
    current := nextslot TXBusy }

end Schedule

structure Timing.Fresh (timing : Timing) : Prop where
  notStarted : timing.NotStarted = true
  preamble : 0 < timing.RemPreamble
  hwords : 1 ≤ timing.RemHWords
  mask : timing.TimeMask = 7 ∨ timing.TimeMask = 15

namespace Schedule

inductive Step : Schedule → Schedule → Prop
  | elapse {sched} : Step sched sched.elapse
  | start {sched} (slot fresh) (valid : Timing.Fresh fresh) :
      Step sched (sched.start slot fresh)
  | countdown {sched} (slot) (now : sched.current = some slot)
      (preamble : 0 < (sched.slots slot).RemPreamble) :
      Step sched (sched.countdown slot)
  | send {sched} (slot packet) (now : sched.current = some slot)
      (first : (sched.slots slot).NotStarted = true)
      (whole : packet.length = (sched.slots slot).RemHWords.toNat) :
      Step sched (sched.send slot packet)
  | halfword {sched} (slot) (now : sched.current = some slot)
      (begun : (sched.slots slot).NotStarted = false)
      (more : (sched.slots slot).RemHWords ≠ 1) :
      Step sched (sched.halfword slot)
  | finish {sched} (slot) (now : sched.current = some slot)
      (begun : (sched.slots slot).NotStarted = false)
      (last : (sched.slots slot).RemHWords = 1) :
      Step sched (sched.finish slot)

structure Sound (sched : Schedule) : Prop where
  current_iff : sched.current = none ↔ sched.TXBusy = 0
  current_busy : ∀ slot, sched.current = some slot → sched.busy slot = true
  remaining : ∀ slot, sched.busy slot = true → 1 ≤ (sched.slots slot).RemHWords
  mask : ∀ slot, sched.busy slot = true →
    (sched.slots slot).TimeMask = 7 ∨ (sched.slots slot).TimeMask = 15
  preamble : ∀ slot, 0 ≤ (sched.slots slot).RemPreamble
  six : sched.TXBusy.toNat < 2 ^ 6

theorem mem_slots (slot : SlotIndex) : slot ∈ ([5,4,3,2,1,0] : List SlotIndex) := by
  fin_cases slot <;> decide

variable {slot : SlotIndex} {TXBusy : u16}

theorem nextslot_eq_none (six : TXBusy.toNat < 2 ^ 6) : nextslot TXBusy = none ↔ TXBusy = 0 := by
  unfold nextslot
  rw [List.find?_eq_none]
  constructor
  · intro none
    apply BitVec.eq_of_getLsbD_eq
    intro bit bound
    change TXBusy.getLsbD bit = (0#16).getLsbD bit
    rw [BitVec.getLsbD_zero]
    by_cases low : bit < 6
    · exact Bool.eq_false_iff.mpr (none ⟨bit,low⟩ (mem_slots _))
    · have small : TXBusy.toNat < 2 ^ bit :=
        lt_of_lt_of_le six (Nat.pow_le_pow_right (by omega) (by omega))
      exact Nat.testBit_lt_two_pow small
  · intro zero slot _member
    rw [zero]
    change ¬ (0#16).getLsbD slot = true
    rw [BitVec.getLsbD_zero]
    exact Bool.false_ne_true

theorem nextslot_busy (next : nextslot TXBusy = some slot) : TXBusy.getLsbD slot = true := by
  unfold nextslot at next
  have found := List.find?_some next
  exact found

theorem nextslot_highest
    (next : nextslot TXBusy = some slot) (higher : SlotIndex) (above : slot < higher) :
    TXBusy.getLsbD higher = false := by
  obtain ⟨_found,before,after,split,idle⟩ := List.find?_eq_some_iff_append.mp next
  have descending : ([5,4,3,2,1,0] : List SlotIndex).Pairwise (· > ·) := by decide
  have member := mem_slots higher
  rw [split] at descending member
  have behind := (List.pairwise_append.mp descending).2.1
  rcases List.mem_append.mp member with front | rest
  · exact Bool.eq_false_of_not_eq_true' (idle higher front)
  · rcases List.mem_cons.mp rest with same | later
    · exact absurd above (by rw [same]; exact lt_irrefl slot)
    · exact absurd above (not_lt_of_gt ((List.pairwise_cons.mp behind).1 higher later))

variable (sched : Schedule)

theorem busy_start (slot other : SlotIndex) (fresh : Timing) :
    (sched.start slot fresh).busy other = (sched.busy other || decide (other = slot)) := by
  change (sched.TXBusy ||| BitVec.twoPow 16 slot).getLsbD other = _
  have inside : slot.val < 16 := by omega
  rw [BitVec.getLsbD_or,BitVec.getLsbD_twoPow,decide_eq_true inside,Bool.true_and]
  congr 1
  rw [decide_eq_decide,Fin.ext_iff,eq_comm]

theorem busy_finish (slot other : SlotIndex) :
    (sched.finish slot).busy other = (sched.busy other && !decide (other = slot)) := by
  change (sched.TXBusy &&& ~~~(BitVec.twoPow 16 slot)).getLsbD other = _
  have inside : slot.val < 16 ∧ other.val < 16 := by omega
  rw [BitVec.getLsbD_and,BitVec.getLsbD_not,BitVec.getLsbD_twoPow,
    decide_eq_true inside.1,decide_eq_true inside.2,Bool.true_and,Bool.true_and]
  congr 2
  rw [decide_eq_decide,Fin.ext_iff,eq_comm]

theorem six_start (slot : SlotIndex) (fresh : Timing) (six : sched.TXBusy.toNat < 2 ^ 6) :
    (sched.start slot fresh).TXBusy.toNat < 2 ^ 6 := by
  change (sched.TXBusy ||| BitVec.twoPow 16 slot).toNat < 2 ^ 6
  rw [BitVec.toNat_or]
  apply Nat.or_lt_two_pow six
  rw [BitVec.toNat_twoPow]
  exact lt_of_le_of_lt (Nat.mod_le _ _) (Nat.pow_lt_pow_right (by omega) slot.isLt)

theorem six_finish (slot : SlotIndex)
    (six : sched.TXBusy.toNat < 2 ^ 6) : (sched.finish slot).TXBusy.toNat < 2 ^ 6 := by
  change (sched.TXBusy &&& ~~~(BitVec.twoPow 16 slot)).toNat < 2 ^ 6
  rw [BitVec.toNat_and]
  exact lt_of_le_of_lt Nat.and_le_left six

theorem ne_zero_of_busy {sched : Schedule} (busy : sched.busy slot = true) : sched.TXBusy ≠ 0 := by
  intro zero
  rw [Schedule.busy,zero] at busy
  change (0#16).getLsbD slot = true at busy
  rw [BitVec.getLsbD_zero] at busy
  cases busy

theorem slots_start (slot other : SlotIndex) (fresh : Timing) :
    (sched.start slot fresh).slots other =
      if other = slot then fresh else sched.slots other :=
  update_apply sched.slots slot fresh other

theorem slots_countdown (slot other : SlotIndex) :
    (sched.countdown slot).slots other =
      if other = slot then
        { sched.slots slot with RemPreamble := (sched.slots slot).RemPreamble - 1 }
      else sched.slots other :=
  update_apply sched.slots slot _ other

theorem slots_send (slot other : SlotIndex) (packet : List u16) :
    (sched.send slot packet).slots other =
      if other = slot then { sched.slots slot with NotStarted := false }
      else sched.slots other := by
  unfold send
  cases sched.connected with
  | false => exact update_apply sched.slots slot _ other
  | true => exact update_apply sched.slots slot _ other

theorem slots_halfword (slot other : SlotIndex) :
    (sched.halfword slot).slots other =
      if other = slot then
        { sched.slots slot with
          RemHWords := (sched.slots slot).RemHWords - 1
          CurAddr := (sched.slots slot).CurAddr + 1 }
      else sched.slots other :=
  update_apply sched.slots slot _ other

theorem slots_finish (slot other : SlotIndex) :
    (sched.finish slot).slots other =
      if other = slot then
        { sched.slots slot with
          RemHWords := (sched.slots slot).RemHWords - 1
          CurAddr := (sched.slots slot).CurAddr + 1 }
      else sched.slots other :=
  update_apply sched.slots slot _ other

theorem send_frame (slot : SlotIndex) (packet : List u16) :
    (sched.send slot packet).connected = sched.connected ∧
      (sched.send slot packet).timer = sched.timer ∧
      (sched.send slot packet).current = sched.current ∧
      (sched.send slot packet).TXBusy = sched.TXBusy := by
  unfold send
  dsimp only
  split
  · exact ⟨rfl,rfl,rfl,rfl⟩
  · exact ⟨rfl,rfl,rfl,rfl⟩

theorem sound_start {sched : Schedule} (sound : Sound sched) (slot : SlotIndex)
    {fresh : Timing} (valid : Timing.Fresh fresh) : Sound (sched.start slot fresh) := by
  have own : (sched.start slot fresh).busy slot = true := by
    rw [busy_start,decide_eq_true rfl,Bool.or_true]
  have kept (other : SlotIndex) (busy : sched.busy other = true) :
      (sched.start slot fresh).busy other = true := by
    rw [busy_start,busy,Bool.true_or]
  have old (other : SlotIndex) (ne : other ≠ slot)
      (busy : (sched.start slot fresh).busy other = true) : sched.busy other = true := by
    rw [busy_start,decide_eq_false ne,Bool.or_false] at busy
    exact busy
  refine ⟨?_,?_,?_,?_,?_,six_start sched slot fresh sound.six⟩
  · exact iff_of_false (Option.some_ne_none _) (ne_zero_of_busy own)
  · intro current now
    change some (sched.current.getD slot) = some current at now
    cases before : sched.current with
    | none =>
        rw [before] at now
        exact Option.some.inj now ▸ own
    | some running =>
        rw [before] at now
        exact Option.some.inj now ▸ kept running (sound.current_busy running before)
  · intro other busy
    rw [slots_start]
    split
    next => exact valid.hwords
    next ne => exact sound.remaining other (old other ne busy)
  · intro other busy
    rw [slots_start]
    split
    next => exact valid.mask
    next ne => exact sound.mask other (old other ne busy)
  · intro other
    rw [slots_start]
    split
    next => exact le_of_lt valid.preamble
    next => exact sound.preamble other

theorem sound_of_slot {before after : Schedule} (sound : Sound before)
    (current : after.current = before.current) (TXBusy : after.TXBusy = before.TXBusy)
    (others : ∀ other, other ≠ slot → after.slots other = before.slots other)
    (remaining : before.busy slot = true → 1 ≤ (after.slots slot).RemHWords)
    (mask : (after.slots slot).TimeMask = (before.slots slot).TimeMask)
    (preamble : 0 ≤ (after.slots slot).RemPreamble) : Sound after := by
  have same (other : SlotIndex) : after.busy other = before.busy other := by
    unfold Schedule.busy
    rw [TXBusy]
  refine ⟨?_,?_,?_,?_,?_,?_⟩
  · rw [current,TXBusy]
    exact sound.current_iff
  · intro other now
    rw [same]
    exact sound.current_busy other (current ▸ now)
  · intro other busy
    rw [same] at busy
    by_cases here : other = slot
    · subst here
      exact remaining busy
    · rw [others other here]
      exact sound.remaining other busy
  · intro other busy
    rw [same] at busy
    by_cases here : other = slot
    · subst here
      rw [mask]
      exact sound.mask other busy
    · rw [others other here]
      exact sound.mask other busy
  · intro other
    by_cases here : other = slot
    · subst here
      exact preamble
    · rw [others other here]
      exact sound.preamble other
  · rw [TXBusy]
    exact sound.six

theorem sound_finish {sched : Schedule} (sound : Sound sched) (slot : SlotIndex) :
    Sound (sched.finish slot) := by
  have six := six_finish sched slot sound.six
  have old (other : SlotIndex) (busy : (sched.finish slot).busy other = true) :
      sched.busy other = true ∧ other ≠ slot := by
    rw [busy_finish,Bool.and_eq_true] at busy
    refine ⟨busy.1,fun same => ?_⟩
    rw [decide_eq_true same] at busy
    exact Bool.noConfusion busy.2
  refine ⟨nextslot_eq_none six,fun other now => nextslot_busy now, ?_, ?_, ?_, six⟩
  · intro other busy
    obtain ⟨before,ne⟩ := old other busy
    rw [slots_finish,if_neg ne]
    exact sound.remaining other before
  · intro other busy
    obtain ⟨before,ne⟩ := old other busy
    rw [slots_finish,if_neg ne]
    exact sound.mask other before
  · intro other
    rw [slots_finish]
    split
    next => exact sound.preamble slot
    next => exact sound.preamble other

theorem sound_step {before after : Schedule} (step : Step before after)
    (sound : Sound before) : Sound after := by
  cases step with
  | elapse => exact ⟨sound.current_iff,sound.current_busy,sound.remaining,sound.mask,
      sound.preamble,sound.six⟩
  | start slot fresh valid => exact sound_start sound slot valid
  | countdown slot now preamble =>
      have own := slots_countdown before slot slot
      rw [if_pos rfl] at own
      refine sound_of_slot sound rfl rfl
        (fun other ne => (slots_countdown before slot other).trans (if_neg ne))
        ?_ ?_ ?_
      · rw [own]
        exact sound.remaining slot
      · rw [own]
      · rw [own]
        change 0 ≤ (before.slots slot).RemPreamble - 1
        omega
  | send slot packet now first whole =>
      have own := slots_send before slot slot packet
      rw [if_pos rfl] at own
      obtain ⟨_connected,_timer,current,TXBusy⟩ := send_frame before slot packet
      refine sound_of_slot sound current TXBusy
        (fun other ne => (slots_send before slot other packet).trans (if_neg ne))
        ?_ ?_ ?_
      · rw [own]
        exact sound.remaining slot
      · rw [own]
      · rw [own]
        exact sound.preamble slot
  | halfword slot now begun more =>
      have own := slots_halfword before slot slot
      rw [if_pos rfl] at own
      refine sound_of_slot sound rfl rfl
        (fun other ne => (slots_halfword before slot other).trans (if_neg ne))
        ?_ ?_ ?_
      · intro busy
        have positive := sound.remaining slot busy
        rw [own]
        change 1 ≤ (before.slots slot).RemHWords - 1
        omega
      · rw [own]
      · rw [own]
        exact sound.preamble slot
  | finish slot now begun last => exact sound_finish sound slot

end Schedule
end Desmume.Wifi
