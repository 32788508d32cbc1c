/-
When the ARM7 is told of a wireless interrupt.

The edge is computed where interrupts are raised.
-/

import Desmume.Lib.PartialRun
import Desmume.Wifi.Background
import Desmume.Wifi.Scheduling

namespace Desmume.Wifi

variable (mac : Mac)

theorem raises_triggerIRQ (irq : Nat) : Raises mac (WIFI_triggerIRQ mac irq) := by
  have beacon : Raises mac (timeBeacon mac) := by
    have reloaded (mac : Mac) (count1 count2 cnt : u16) : Raises mac
        { mac with BeaconCount1 := count1, BeaconCount2 := count2, TXCnt := cnt } :=
      Raises.of_same rfl rfl rfl
    have listened (mac : Mac) : Raises mac (listenTick mac) := Raises.of_same rfl rfl rfl
    unfold timeBeacon
    dsimp only
    split
    · refine Raises.trans ?_ (listened _)
      exact (reloaded mac _ _ _).trans (works_TXStart _ _).raises
    · exact Raises.of_same rfl rfl rfl
  unfold WIFI_triggerIRQ
  split
  · exact beacon.trans (raises_triggerIRQMask _ _)
  · exact raises_triggerIRQMask mac _

/-- What an interrupt is raised in, and the line to the ARM7. -/
def Mac.lines (mac : Mac) : u16 × u16 × Bool := (mac.IE, mac.IF, mac.arm7Irq)

theorem raises_of_lines {before after : Mac} (same : after.lines = before.lines) :
    Raises before after :=
  Raises.of_same (congrArg (fun lines => lines.1) same)
    (congrArg (fun lines => lines.2.1) same) (congrArg (fun lines => lines.2.2) same)

@[simp] theorem lines_store (mac : Mac) (i : Nat) (val : u16) :
    (mac.store i val).lines = mac.lines := rfl

@[simp] theorem lines_foldl_store (ents : List (Nat × u16)) :
    (ents.foldl (fun (mac : Mac) entry => mac.store (WIFI_IOREG entry.1) entry.2) mac).lines =
      mac.lines := by
  induction ents generalizing mac with
  | nil => rfl
  | cons entry rest ih => exact ih (mac.store (WIFI_IOREG entry.1) entry.2)

variable (val : u16)

theorem lines_writeMode : (writeMode mac val).lines = mac.lines := by
  have outer (mac : Mac) (mode : u16) : { mac with macMode := mode }.lines = mac.lines := rfl
  have reset (mac : Mac) (stat pid : u16) :
      { mac with TXStatCnt := stat, pid := pid }.lines = mac.lines := rfl
  unfold writeMode
  dsimp only
  rw [outer]
  split_ifs <;> simp only [reset,lines_store,lines_foldl_store]

theorem lines_writeRXCnt : (writeRXCnt mac val).lines = mac.lines := by
  have emptied (mac : Mac) : { mac with RXPacketQueue := [] }.lines = mac.lines := rfl
  have control (mac : Mac) (cnt : u16) : { mac with RXCnt := cnt }.lines = mac.lines := rfl
  have latched (mac : Mac) : (if val.getLsbD 0 then latchCursor mac else mac).lines =
      mac.lines := by
    split <;> rfl
  have replied (mac : Mac) : (if val.getLsbD 7 then latchReply mac else mac).lines =
      mac.lines := by
    split <;> rfl
  unfold writeRXCnt
  dsimp only
  split
  · rw [replied,latched,control]
  · rw [emptied,replied,latched,control]

theorem lines_writeCircBuf (action : Bool) (val : u16) :
    (writeCircBuf mac action val).lines = mac.lines := by
  unfold writeCircBuf
  dsimp only
  split_ifs <;> rfl

theorem lines_writeRangeBegin : (writeRangeBegin mac val).lines = mac.lines := by
  unfold writeRangeBegin
  dsimp only
  split <;> rfl

theorem lines_wrapCursor : (wrapCursor mac).lines = mac.lines := by
  unfold wrapCursor
  split <;> rfl

theorem raises_startIf (bit : Bool) (mac : Mac) (slot : SlotIndex) :
    Raises mac (startIf bit mac slot) := by
  unfold startIf
  split
  · exact (works_TXStart mac slot).raises
  · exact Raises.refl mac

theorem raises_writeTXReqSet : Raises mac (writeTXReqSet mac val) := by
  have requested : Raises mac { mac with TXCnt := mac.TXCnt ||| val } :=
    raises_of_lines rfl
  unfold writeTXReqSet
  refine Raises.trans ?_ (raises_startIf _ _ _)
  refine Raises.trans ?_ (raises_startIf _ _ _)
  refine Raises.trans ?_ (raises_startIf _ _ _)
  exact requested.trans (raises_startIf _ _ _)

theorem raises_writeUsCompare0 : Raises mac (writeUsCompare0 mac val) := by
  have compared (mac : Mac) (ucmp usec : u64) :
      Raises mac { mac with ucmp := ucmp, usec := usec } :=
    raises_of_lines rfl
  unfold writeUsCompare0
  dsimp only
  split
  · refine Raises.trans ?_ (raises_triggerIRQ _ _)
    exact compared mac _ _
  · exact raises_of_lines rfl

theorem raises_writeRegister (action : Bool) (addr : Nat) (val : u16)
    (other : addr ≠ 0x010 ∧ addr ≠ 0x012) : Raises mac (writeRegister mac action addr val) := by
  unfold writeRegister
  split
  case h_1 => exact raises_of_lines (lines_writeMode mac val)
  case h_3 => exact absurd rfl other.1
  case h_4 => exact absurd rfl other.2
  case h_6 => exact raises_of_lines (lines_writeRXCnt mac val)
  case h_8 =>
    split
    · exact raises_triggerIRQ mac _
    · exact Raises.refl mac
  case h_9 => exact raises_of_lines (lines_writeRangeBegin mac val)
  case h_10 => exact raises_of_lines (lines_wrapCursor _)
  case h_17 => exact raises_of_lines (lines_writeCircBuf mac action val)
  case h_28 => exact raises_writeTXReqSet mac val
  case h_32 => exact raises_writeUsCompare0 mac val
  case h_45 => exact raises_triggerIRQMask mac val
  all_goals exact raises_of_lines rfl

theorem raises_counters : Raises mac (counters mac) := by
  have timed (mac : Mac) (timer : u64) : Raises mac { mac with GlobalUsecTimer := timer } :=
    raises_of_lines rfl
  have counted (mac : Mac) : Raises mac (usecTick mac) := by
    unfold usecTick
    split
    · exact raises_of_lines rfl
    · exact Raises.refl mac
  have extra (mac : Mac) : Raises mac (eCountTick mac) := by
    have down : Raises mac { mac with eCount := mac.eCount - 1 } := raises_of_lines rfl
    unfold eCountTick
    dsimp only
    split
    · split
      · exact down.trans (works_TXStart _ _).raises
      · exact down
    · exact Raises.refl mac
  have post (mac : Mac) : Raises mac (postBeaconTick mac) := by
    have down : Raises mac { mac with BeaconCount2 := mac.BeaconCount2 - 1 } :=
      raises_of_lines rfl
    unfold postBeaconTick
    dsimp only
    split
    · split
      · exact down.trans (raises_triggerIRQ _ _)
      · exact down
    · exact Raises.refl mac
  have beacon (mac : Mac) : Raises mac (beaconTick mac) := by
    have down : Raises mac { mac with BeaconCount1 := mac.BeaconCount1 - 1 } :=
      raises_of_lines rfl
    unfold beaconTick
    dsimp only
    split
    · refine Raises.trans ?_ (post _)
      split
      · exact down.trans (raises_triggerIRQ _ _)
      · split
        · exact down.trans (raises_triggerIRQ _ _)
        · exact down
    · exact Raises.refl mac
  have crystal (mac : Mac) : Raises mac (crystalTick mac) := by
    unfold crystalTick
    split
    · exact ((counted mac).trans (extra _)).trans (beacon _)
    · exact Raises.refl mac
  have compare (mac : Mac) : Raises mac (compareTick mac) := by
    unfold compareTick
    split
    · exact raises_triggerIRQ mac _
    · exact Raises.refl mac
  exact ((timed mac _).trans (crystal _)).trans (compare _)

namespace Chip

variable (chip : Chip)

variable (off : Nat) (op : Op)

theorem raises_setByte (val : u8) : Raises chip.mac (chip.setByte off val).mac := by
  unfold setByte
  split
  · exact Raises.refl chip.mac
  · exact raises_of_lines rfl

theorem raises_setHalf (val : u16) : Raises chip.mac (chip.setHalf off val).mac :=
  (chip.raises_setByte off _).trans (raises_setByte _ _ _)

theorem raises_setWord (val : u32) : Raises chip.mac (chip.setWord off val).mac :=
  (chip.raises_setHalf off _).trans (raises_setHalf _ _ _)

theorem raises_resetRF : Raises chip.mac chip.WIFI_resetRF.mac := by
  have folded (ents : List ((u32 × u32) × Nat)) (chip : Chip) :
      Raises chip.mac (ents.foldl
        (fun (chip : Chip) (entry : (u32 × u32) × Nat) => chip.setWord (4 * entry.2)
          ((chip.rfreg entry.2 &&& ~~~entry.1.1) ||| entry.1.2)) chip).mac := by
    induction ents generalizing chip with
    | nil => exact Raises.refl chip.mac
    | cons entry rest ih => exact (chip.raises_setWord _ _).trans (ih _)
  exact folded _ chip

theorem raises_setRF_DATA (val : u16) (part : Bool) :
    Raises chip.mac (chip.WIFI_setRF_DATA val part).mac := by
  have read : Raises chip.mac (chip.readRF val).mac := by
    have addressed := chip.raises_setHalf (rfIOData + 2) val
    unfold readRF
    dsimp only
    split
    · exact addressed
    · exact addressed.trans (raises_setWord _ _ _)
  have write : Raises chip.mac (chip.writeRF val part).mac := by
    cases part with
    | false =>
        have addressed := chip.raises_setHalf rfIOData val
        have low : chip.writeRF val false = chip.setHalf rfIOData val := ite_self _
        rw [low]
        exact addressed
    | true =>
        have addressed := chip.raises_setHalf (rfIOData + 2) val
        have high : chip.writeRF val true =
            if (chip.setHalf (rfIOData + 2) val).rfAddress > rfRegisters then
              chip.setHalf (rfIOData + 2) val
            else if (chip.setHalf (rfIOData + 2) val).rfAddress = 13 then
              (chip.setHalf (rfIOData + 2) val).WIFI_resetRF
            else (chip.setHalf (rfIOData + 2) val).setRfreg
              (chip.setHalf (rfIOData + 2) val).rfAddress
              (content ((chip.setHalf (rfIOData + 2) val).word rfIOData)) := rfl
        rw [high]
        split
        · exact addressed
        · split
          · exact addressed.trans (raises_resetRF _)
          · exact addressed.trans (raises_setWord _ _ _)
  unfold WIFI_setRF_DATA
  split
  · exact Raises.refl chip.mac
  · split
    · split
      · exact read
      · exact Raises.refl chip.mac
    · exact write

theorem raises_chipRegister (addr : Nat) (val : u16) :
    Raises chip.mac (chip.writeRegister addr val).mac := by
  have baseband : Raises chip.mac (chip.WIFI_setBB_CNT val).mac := by
    have controlled := chip.raises_setHalf bbIOCnt val
    unfold WIFI_setBB_CNT
    dsimp only
    split
    · exact controlled.trans (raises_setByte _ _ _)
    · exact controlled
  have control : Raises chip.mac (chip.WIFI_setRF_CNT val).mac := by
    unfold WIFI_setRF_CNT
    split
    · exact Raises.refl chip.mac
    · exact chip.raises_setHalf rfIOCnt val
  unfold writeRegister
  split
  case h_1 =>
    dsimp only
    split_ifs <;> exact Raises.refl chip.mac
  case h_11 => split <;> exact Raises.refl chip.mac
  case h_12 => exact baseband
  case h_13 => exact chip.raises_setRF_DATA val true
  case h_14 => exact chip.raises_setRF_DATA val false
  case h_15 => exact control
  case h_16 => split <;> exact Raises.refl chip.mac
  all_goals exact Raises.refl chip.mac

theorem raises_registerRead (action : Bool) (addr : Nat) :
    Raises chip.mac (chip.registerRead action addr).mac := by
  have counted (mac : Mac) : Raises mac (countRead mac) := by
    unfold countRead
    dsimp only
    split
    · exact Raises.refl mac
    · split
      · exact (raises_triggerIRQ mac _).trans (works_store _ _ _).raises
      · exact (works_store mac _ _).raises
  unfold registerRead
  dsimp only
  split
  case h_2 =>
    split
    · exact (works_store chip.mac _ _).raises.trans (counted _)
    · exact Raises.refl chip.mac
  all_goals exact raises_of_lines rfl

theorem raises_read16 (addr : u32) : Raises chip.mac (chip.WIFI_read16 addr).2.mac := by
  unfold WIFI_read16
  dsimp only
  split
  · exact Raises.refl chip.mac
  · split
    · exact Raises.refl chip.mac
    · split
      · exact Raises.refl chip.mac
      · exact chip.raises_registerRead _ _

theorem raises_usTrigger {after : Chip} {replies arrivals : List Packet}
    (returned : chip.WIFI_usTrigger replies arrivals = some after) : Raises chip.mac after.mac := by
  obtain ⟨mac,ticked,rfl⟩ := Option.map_eq_some_iff.mp returned
  exact (raises_counters chip.mac).trans (works_usTrigger ticked).raises

variable {addr : u32}

theorem write16_register (mac : Mac) (val : u16) (power : mac.power2_wifi = true)
    (listed : isRegister addr = true) :
    Wifi.WIFI_write16 mac addr val =
      (Wifi.writeRegister mac (addr &&& 0x7000 == 0) (register addr) val).store
        (WIFI_IOREG (register addr)) val := by
  simp only [isRegister,Bool.not_eq_true',decide_eq_false_iff_not] at listed
  have unused : ¬ (0x2000 ≤ addr &&& 0x7000 ∧ addr &&& 0x7000 < 0x4000) := by bv_omega
  have mem : ¬ (0x4000 ≤ addr &&& 0x7000 ∧ addr &&& 0x7000 < 0x6000) := by bv_omega
  unfold Wifi.WIFI_write16
  dsimp only
  rw [if_neg (by rw [power]; exact Bool.noConfusion),if_neg unused,if_neg mem]
  rfl

theorem write16_memory (mac : Mac) (val : u16)
    (other : ¬ (mac.power2_wifi = true ∧ isRegister addr = true)) :
    Raises mac (Wifi.WIFI_write16 mac addr val) := by
  have page : mac.power2_wifi = true →
      0x2000 ≤ addr &&& 0x7000 ∧ addr &&& 0x7000 < 0x6000 := by
    intro power
    have unlisted : isRegister addr ≠ true := fun listed => other ⟨power,listed⟩
    simp only [isRegister,ne_eq,Bool.not_eq_true',decide_eq_false_iff_not,not_not] at unlisted
    exact unlisted
  unfold Wifi.WIFI_write16
  dsimp only
  split
  · exact Raises.refl mac
  next power =>
    have inside := page (by simpa using power)
    split
    · exact Raises.refl mac
    · split
      · exact (works_store mac _ _).raises
      next unused mem =>
        exfalso
        bv_omega

theorem raises_write16 (mac : Mac) (val : u16)
    (other : isRegister addr = true → register addr ≠ 0x010 ∧ register addr ≠ 0x012) :
    Raises mac (Wifi.WIFI_write16 mac addr val) := by
  by_cases reg : mac.power2_wifi = true ∧ isRegister addr = true
  · rw [write16_register mac val reg.1 reg.2]
    exact (raises_writeRegister mac _ _ val (other reg.2)).trans
      (works_store _ _ _).raises
  · exact write16_memory mac val reg

theorem write16_plain (addr : u32) (val : u16)
    (plain : chip.mac.power2_wifi = true ∧ isRegister addr = true →
      chip.writeRegister (register addr) val = chip) :
    chip.WIFI_write16 addr val =
      { chip with mac := Wifi.WIFI_write16 chip.mac addr val } := by
  have same : (if chip.mac.power2_wifi = true ∧ isRegister addr = true then
      chip.writeRegister (register addr) val else chip) = chip := by
    split
    next listed => exact plain listed
    next => rfl
  unfold WIFI_write16
  rw [same]

/-! ### The edge -/

def taken : Chip := { chip with mac := { chip.mac with arm7Irq := false } }

/-- A step, seen from an ARM7 that has taken its interrupt before it. -/
def Step (after : Chip) : Prop := chip.taken.apply op = some after

/-- `NDS_makeIrq` is called in the step exactly when an interrupt comes to be
pending in it. -/
def Told : Prop :=
  ∀ after, chip.Step op after →
    (after.mac.arm7Irq = true ↔ chip.mac.pending = 0 ∧ after.mac.pending ≠ 0)

def EnablesPending : Op → Prop
  | .write16 addr val =>
      chip.mac.power2_wifi = true ∧ isRegister addr = true ∧ register addr = 0x012 ∧
        chip.mac.pending = 0 ∧ val &&& chip.mac.IF ≠ 0
  | _ => False

theorem told_of_raises {op : Op}
    (raises : ∀ after, chip.taken.apply op = some after → Raises chip.taken.mac after.mac) :
    chip.Told op :=
  fun after moved => (raises after moved).arm7Irq rfl

theorem pending_acknowledged (mac : Mac) (val : u16) (none : mac.pending = 0) :
    mac.IE &&& (mac.IF &&& ~~~val) = 0 := by
  rw [← BitVec.and_assoc]
  change mac.pending &&& ~~~val = 0
  rw [none]
  exact BitVec.zero_and

theorem told_write16 (addr : u32) (val : u16) :
    chip.Told (.write16 addr val) ↔ ¬ chip.EnablesPending (.write16 addr val) := by
  by_cases powered : chip.mac.power2_wifi = true ∧ isRegister addr = true
  · by_cases enable : register addr = 0x012
    · -- The mask is stored, nothing else happens.
      have moved (after : Chip) (step : chip.Step (.write16 addr val) after) :
          after.mac.arm7Irq = false ∧ after.mac.pending = val &&& chip.mac.IF := by
        have written := write16_register chip.taken.mac val powered.1 powered.2
        rw [enable] at written
        have same : after = chip.taken.WIFI_write16 addr val := (Option.some.inj step).symm
        have plain := chip.taken.write16_plain addr val fun _ => by
          rw [enable]
          rfl
        rw [same,plain,written]
        exact ⟨rfl,rfl⟩
      constructor
      · intro told missed
        obtain ⟨_,_,_,none,raised⟩ := missed
        obtain ⟨quiet,pending⟩ := moved _ rfl
        have called := (told _ rfl).mpr ⟨none,by rw [pending]; exact raised⟩
        rw [quiet] at called
        cases called
      · intro never after step
        obtain ⟨quiet,pending⟩ := moved after step
        rw [quiet,pending]
        constructor
        · intro called
          cases called
        · intro rises
          exact absurd ⟨powered.1,powered.2,enable,rises.1,rises.2⟩ never
    · have never : ¬ chip.EnablesPending (.write16 addr val) :=
        fun missed => enable missed.2.2.1
      refine iff_of_true ?_ never
      by_cases acknowledge : register addr = 0x010
      · intro after step
        have written := write16_register chip.taken.mac val powered.1 powered.2
        rw [acknowledge] at written
        have same : after = chip.taken.WIFI_write16 addr val := (Option.some.inj step).symm
        have plain := chip.taken.write16_plain addr val fun _ => by
          rw [acknowledge]
          rfl
        rw [same,plain,written]
        constructor
        · intro called
          cases called
        · intro rises
          exact absurd (pending_acknowledged chip.mac val rises.1) rises.2
      · apply told_of_raises
        intro after step
        cases step
        refine Raises.trans ?_ (raises_write16 _ val fun _ => ⟨acknowledge,enable⟩)
        split
        · exact chip.taken.raises_chipRegister _ val
        · exact Raises.refl _
  · have never : ¬ chip.EnablesPending (.write16 addr val) :=
      fun missed => powered ⟨missed.1,missed.2.1⟩
    refine iff_of_true ?_ never
    apply told_of_raises
    intro after step
    cases step
    rw [chip.taken.write16_plain addr val fun listed => absurd listed powered]
    exact write16_memory _ val powered

theorem told_iff : chip.Told op ↔ ¬ chip.EnablesPending op := by
  cases op with
  | power2 wifi =>
      refine iff_of_true ?_ id
      apply told_of_raises
      intro after step
      cases step
      exact raises_of_lines rfl
  | write16 addr val => exact chip.told_write16 addr val
  | read16 addr =>
      refine iff_of_true ?_ id
      apply told_of_raises
      intro after step
      cases step
      exact chip.taken.raises_read16 addr
  | usTrigger replies arrivals =>
      refine iff_of_true ?_ id
      exact chip.told_of_raises fun after step => chip.taken.raises_usTrigger step

/-- In every run the ARM7 is told of exactly the interrupts that come to be
pending, when no step enables what was raised before. -/
theorem interrupts_told_iff (ops : List Op) :
    PartialRun.Along Step Told chip ops ↔
      PartialRun.Along Step (fun chip op => ¬ chip.EnablesPending op) chip ops :=
  PartialRun.along_congr told_iff chip ops

def silent : Chip where
  mac := Wifi.silent
  powerOn := false
  powerOnPending := false
  rfStatus := 0
  rfPins := 0
  wepMode := 0
  macAddress := fun _ => 0
  bss := fun _ => 0
  aid := 0
  randomSeed := 0
  sub := fun _ => 0

/-- An interrupt is raised through `REG_WIFI_IF_SET` and enabled afterwards. -/
def raiseThenEnable : List Op := [.write16 0x0480821C 1,.write16 0x04808012 1]

theorem enabled_late_not_told :
    ¬ ∀ (chip : Chip) (ops : List Op), PartialRun.Along Step Told chip ops := by
  intro all
  obtain ⟨_first,later⟩ := all (silent.WIFI_Reset 2) raiseThenEnable
  have second := (later _ rfl).1 _ rfl
  revert second
  decide +kernel

end Chip

end Desmume.Wifi
