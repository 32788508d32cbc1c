/-
The real-time clock of the ARM7: `rtcWrite`, `rtcSend` and `rtcRecv`.

The game drives three lines, each of them only while its direction bit is set.
A pulse takes the clock low in one write, with the bit on the data line, and
high again in the writes after it.
-/

import Desmume.Lib.Run
import Desmume.Types

namespace Desmume.Rtc

/-- `cmdStat`: 0, 1, 3 and 4 of the source. -/
inductive CmdStat
  | idle
  | command
  | write
  | read
  deriving DecidableEq, Repr

structure RTC where
  regStatus1 : u8
  regStatus2 : u8
  regAdjustment : u8
  regFree : u8
  prevSCK : Bool
  prevCS : Bool
  prevSIO : Bool
  SCK : Bool
  CS : Bool
  SIO : Bool
  DD : Bool
  REG : u16
  cmd : u8
  cmdStat : CmdStat
  bitsCount : u8
  data : Nat → u8
  cmdBitsSize : Nat → u8

def kDefaultCmdBitsSize (reg : Nat) : u8 :=
  match reg with
  | 0 => 8
  | 1 => 8
  | 2 => 56
  | 3 => 24
  | 4 => 0
  | 5 => 24
  | _ => 8

def toBCD (x : u8) : u8 :=
  ((x / 10) <<< 4) ||| (x % 10)

/-- The bytes `rtcRecv` leaves in the cleared buffer; the clock stands still. -/
def received (rtc : RTC) (reg : Nat) : List u8 :=
  match reg with
  | 0 => [rtc.regStatus1 &&& 0x0F]
  | 1 => [rtc.regStatus2]
  | 2 =>
      let hour : u8 := 11
      let hour := if rtc.regStatus1 &&& 0x02 = 0 then hour % 12 else hour
      [toBCD 15,toBCD 06,toBCD 15,3,(if hour < 12 then 0x00 else 0x40) ||| toBCD hour,
        toBCD 25,toBCD 34]
  | 3 =>
      let hour : u8 := 11
      [(if hour < 12 then 0x00 else 0x40) ||| toBCD hour,toBCD 25,toBCD 34]
  | 6 => [rtc.regAdjustment]
  | 7 => [rtc.regFree]
  | _ => []

def rtcRecv (rtc : RTC) : RTC :=
  let reg := (rtc.cmd >>> 1).toNat
  { rtc with
    data := fun i => (received rtc reg).getD i 0
    regStatus1 := if reg = 0 then rtc.regStatus1 &&& 0x0F else rtc.regStatus1 }

def rtcSend (rtc : RTC) : RTC :=
  match (rtc.cmd >>> 1).toNat with
  | 0 => { rtc with regStatus1 := rtc.data 0 }
  | 1 => { rtc with regStatus2 := rtc.data 0 }
  | 6 => { rtc with regAdjustment := rtc.data 0 }
  | 7 => { rtc with regFree := rtc.data 0 }
  | _ => rtc

def rtcInit : RTC :=
  { regStatus1 := 0x02
    regStatus2 := 0
    regAdjustment := 0
    regFree := 0
    prevSCK := false
    prevCS := false
    prevSIO := false
    SCK := false
    CS := false
    SIO := false
    DD := false
    REG := 0
    cmd := 0
    cmdStat := .idle
    bitsCount := 0
    data := fun _ => 0
    cmdBitsSize := kDefaultCmdBitsSize }

def rtcRead (rtc : RTC) : u16 := rtc.REG

def sample (rtc : RTC) (val : u16) : RTC :=
  let DD := val.getLsbD 4
  { rtc with
    DD := DD
    SIO := if DD then val.getLsbD 0 else rtc.prevSIO
    SCK := if val.getLsbD 5 then val.getLsbD 1 else rtc.prevSCK
    CS := if val.getLsbD 6 then val.getLsbD 2 else rtc.prevCS }

def latch (rtc : RTC) : RTC :=
  { rtc with prevSIO := rtc.SIO, prevSCK := rtc.SCK, prevCS := rtc.CS }

/-- The register number and the read bit of the eight command bits, which come
in either order: the fixed code 0110 tells which. -/
def decode (cmd : u8) : u8 :=
  if cmd &&& 0x0F = 0x06 then
    ((cmd &&& 0x80) >>> 7) ||| ((cmd &&& 0x40) >>> 5) ||| ((cmd &&& 0x20) >>> 3) |||
      ((cmd &&& 0x10) >>> 1)
  else cmd &&& 0x0F

/-- Alarm 1 is a frequency of one byte or a time of three. -/
def setCmdBitsSize (rtc : RTC) : Nat → u8 :=
  if rtc.cmd >>> 1 = 0x04 then
    Function.update rtc.cmdBitsSize (rtc.cmd >>> 1).toNat
      (if rtc.regStatus2 &&& 0x0F = 0x04 then 24 else 8)
  else rtc.cmdBitsSize

def beginTransfer (rtc : RTC) : RTC :=
  let rtc := { rtc with bitsCount := 0, cmdBitsSize := setCmdBitsSize rtc }
  if rtc.cmd &&& 0x01 ≠ 0 then rtcRecv { rtc with cmdStat := .read }
  else { rtc with cmdStat := .write }

def commandBit (rtc : RTC) : RTC :=
  if !rtc.CS then { rtc with cmdStat := .idle }
  else if rtc.SCK && rtc.DD then rtc
  else if !rtc.SCK && !rtc.DD then rtc
  else
    let rtc :=
      { rtc with
        cmd := rtc.cmd ||| ((BitVec.ofBool rtc.SIO).setWidth 8 <<< rtc.bitsCount)
        bitsCount := rtc.bitsCount + 1 }
    if rtc.bitsCount = 8 then
      let rtc := { rtc with cmd := decode rtc.cmd }
      if rtc.prevSCK && !rtc.SCK then beginTransfer rtc else rtc
    else rtc

def writeBit (rtc : RTC) : RTC :=
  let byte := (rtc.bitsCount >>> 3).toNat
  let rtc :=
    { rtc with
      data :=
        if rtc.SIO then
          Function.update rtc.data byte
            (rtc.data byte ||| ((1 : u8) <<< (rtc.bitsCount &&& 0x07)))
        else rtc.data
      bitsCount := rtc.bitsCount + 1 }
  if rtc.bitsCount = rtc.cmdBitsSize (rtc.cmd >>> 1).toNat then
    { rtcSend rtc with cmdStat := .idle }
  else rtc

def readBit (rtc : RTC) (val : u16) : RTC :=
  let shifted := rtc.data (rtc.bitsCount >>> 3).toNat >>> (rtc.bitsCount &&& 0x07)
  let rtc :=
    { rtc with
      REG := if shifted &&& 0x01 ≠ 0 then val ||| 0x01 else val &&& ~~~0x01
      bitsCount := rtc.bitsCount + 1 }
  if rtc.bitsCount = rtc.cmdBitsSize (rtc.cmd >>> 1).toNat ∨ val &&& 0x04 = 0 then
    { rtc with cmdStat := .idle }
  else rtc

/-- The switch of `rtcWrite`. -/
def advance (rtc : RTC) (val : u16) : RTC :=
  match rtc.cmdStat with
  | .idle =>
      if !rtc.prevCS && rtc.prevSCK && rtc.CS && rtc.SCK then
        { rtc with cmdStat := .command, bitsCount := 0, cmd := 0 }
      else rtc
  | .command => commandBit rtc
  | .write => if rtc.prevSCK && !rtc.SCK then writeBit rtc else rtc
  | .read => if rtc.prevSCK && !rtc.SCK then readBit rtc val else rtc

def rtcWrite (rtc : RTC) (val : u16) : RTC :=
  latch (advance (sample rtc val) val)

structure Lines (val : u16) (CS SCK : Bool) : Prop where
  csDriven : val.getLsbD 6 = true
  cs : val.getLsbD 2 = CS
  sckDriven : val.getLsbD 5 = true
  sck : val.getLsbD 1 = SCK

structure Pulse where
  low : u16
  highs : List u16
  fall : Lines low true false
  rise : ∀ high ∈ highs, Lines high true true
  risen : highs ≠ []

structure Pulse.Sends (pulse : Pulse) (bit : Bool) : Prop where
  driven : pulse.low.getLsbD 4 = true
  sent : pulse.low.getLsbD 0 = bit
  held : ∀ high ∈ pulse.highs, high.getLsbD 4 = true

def Pulse.writes (pulse : Pulse) : List u16 := pulse.low :: pulse.highs

def RTC.core (rtc : RTC) : RTC :=
  { rtc with
    prevSCK := false
    prevCS := false
    prevSIO := false
    SCK := false
    CS := false
    SIO := false
    DD := false }

structure RTC.Up (rtc : RTC) : Prop where
  prevSCK : rtc.prevSCK = true
  prevCS : rtc.prevCS = true

variable (rtc : RTC)

theorem rtcSend_levels : (rtcSend rtc).SCK = rtc.SCK ∧ (rtcSend rtc).CS = rtc.CS := by
  unfold rtcSend
  split <;> exact ⟨rfl,rfl⟩

theorem beginTransfer_levels :
    (beginTransfer rtc).SCK = rtc.SCK ∧ (beginTransfer rtc).CS = rtc.CS := by
  unfold beginTransfer
  simp only
  split <;> exact ⟨rfl,rfl⟩

theorem advance_levels (val : u16) :
    (advance rtc val).SCK = rtc.SCK ∧ (advance rtc val).CS = rtc.CS := by
  unfold advance
  split
  · split
    · exact ⟨rfl,rfl⟩
    · exact ⟨rfl,rfl⟩
  · unfold commandBit
    simp only
    split
    · exact ⟨rfl,rfl⟩
    · split
      · exact ⟨rfl,rfl⟩
      · split
        · exact ⟨rfl,rfl⟩
        · split
          · split
            · exact beginTransfer_levels _
            · exact ⟨rfl,rfl⟩
          · exact ⟨rfl,rfl⟩
  · unfold writeBit
    simp only
    split
    · split
      · exact rtcSend_levels _
      · exact ⟨rfl,rfl⟩
    · exact ⟨rfl,rfl⟩
  · unfold readBit
    simp only
    split
    · split
      · exact ⟨rfl,rfl⟩
      · exact ⟨rfl,rfl⟩
    · exact ⟨rfl,rfl⟩

variable {val : u16} {SCK bit CS : Bool}

theorem sample_levels (lines : Lines val CS SCK) (rtc : RTC) :
    (sample rtc val).SCK = SCK ∧ (sample rtc val).CS = CS := by
  constructor
  · exact (if_pos lines.sckDriven).trans lines.sck
  · exact (if_pos lines.csDriven).trans lines.cs

theorem rtcWrite_prevSCK (lines : Lines val CS SCK) (rtc : RTC) :
    (rtcWrite rtc val).prevSCK = SCK :=
  (advance_levels _ _).1.trans (sample_levels lines rtc).1

theorem rtcWrite_prevCS (lines : Lines val CS SCK) (rtc : RTC) : (rtcWrite rtc val).prevCS = CS :=
  (advance_levels _ _).2.trans (sample_levels lines rtc).2

theorem rtcWrite_core (val : u16) :
    (rtcWrite rtc val).core = (advance (sample rtc val) val).core := rfl

theorem core_high (lines : Lines val true true) {rtc : RTC}
    (selected : rtc.prevCS = true) (driven : rtc.cmdStat = .command → val.getLsbD 4 = true) :
    (rtcWrite rtc val).core = rtc.core := by
  obtain ⟨SCK,CS⟩ := sample_levels lines rtc
  have prevCS : (sample rtc val).prevCS = true := selected
  have same : advance (sample rtc val) val = sample rtc val := by
    unfold advance
    cases stat : (sample rtc val).cmdStat with
    | idle => simp [prevCS]
    | command =>
        have DD : (sample rtc val).DD = true := driven stat
        simp [commandBit,SCK,CS,DD]
    | write => simp [SCK]
    | read => simp [SCK]
  rw [rtcWrite_core,same]
  rfl

theorem core_highs {highs : List u16} (rise : ∀ high ∈ highs, Lines high true true)
    (risen : highs ≠ []) {rtc : RTC} (selected : rtc.prevCS = true)
    (driven : rtc.cmdStat = .command → ∀ high ∈ highs, high.getLsbD 4 = true) :
    (highs.foldl rtcWrite rtc).core = rtc.core ∧ (highs.foldl rtcWrite rtc).Up := by
  induction highs using List.reverseRecOn with
  | nil => exact (risen rfl).elim
  | append_singleton highs high ih =>
      have last : Lines high true true := rise high (by simp)
      rw [List.foldl_append,List.foldl_cons,List.foldl_nil]
      by_cases first : highs = []
      · rw [first,List.foldl_nil]
        refine ⟨core_high last selected (fun stat => driven stat high (by simp)),?_⟩
        exact ⟨rtcWrite_prevSCK last rtc,rtcWrite_prevCS last rtc⟩
      · obtain ⟨core,up⟩ := ih (fun other member => rise other (by simp [member])) first
          (fun stat other member => driven stat other (by simp [member]))
        have stat : (highs.foldl rtcWrite rtc).core.cmdStat = rtc.core.cmdStat := by
          rw [core]
        refine ⟨?_,rtcWrite_prevSCK last _,rtcWrite_prevCS last _⟩
        rw [core_high last up.prevCS,core]
        intro commanding
        exact driven (stat.symm.trans commanding) high (by simp)

def RTC.pulse (rtc : RTC) (pulse : Pulse) : RTC := pulse.writes.foldl rtcWrite rtc

variable (pulse : Pulse)

theorem pulse_core {rtc : RTC} (driven : (rtcWrite rtc pulse.low).cmdStat = .command →
      ∀ high ∈ pulse.highs, high.getLsbD 4 = true) :
    (rtc.pulse pulse).core = (rtcWrite rtc pulse.low).core ∧ (rtc.pulse pulse).Up :=
  core_highs pulse.rise pulse.risen (rtcWrite_prevCS pulse.fall rtc) driven

def RTC.shifted (rtc : RTC) (bit : Bool) : RTC :=
  { rtc with
    cmd := rtc.cmd ||| ((BitVec.ofBool bit).setWidth 8 <<< rtc.bitsCount)
    bitsCount := rtc.bitsCount + 1 }

theorem beginTransfer_core : (beginTransfer rtc).core = beginTransfer rtc.core := by
  unfold beginTransfer
  by_cases reads : rtc.cmd &&& 0x01 = 0
  · exact (congrArg RTC.core (if_neg (not_not.mpr reads))).trans
      (if_neg (not_not.mpr reads)).symm
  · exact (congrArg RTC.core (if_pos reads)).trans (if_pos reads).symm

theorem rtcSend_core : (rtcSend rtc).core = rtcSend rtc.core := by
  unfold rtcSend RTC.core
  simp only
  split <;> rfl

theorem sample_low (rtc : RTC) :
    sample rtc pulse.low =
      { rtc with
        DD := (sample rtc pulse.low).DD
        SIO := RTC.SIO (sample rtc pulse.low)
        SCK := false
        CS := true } := by
  obtain ⟨SCK,CS⟩ := sample_levels pulse.fall rtc
  have fields : sample rtc pulse.low =
      { rtc with
        DD := (sample rtc pulse.low).DD
        SIO := RTC.SIO (sample rtc pulse.low)
        SCK := (sample rtc pulse.low).SCK
        CS := (sample rtc pulse.low).CS } := rfl
  rwa [SCK,CS] at fields

theorem sample_sent {pulse : Pulse} (sends : pulse.Sends bit) (rtc : RTC) :
    sample rtc pulse.low =
      { rtc with DD := true, SIO := bit, SCK := false, CS := true } := by
  have line : RTC.SIO (sample rtc pulse.low) = bit := (if_pos sends.driven).trans sends.sent
  have DD : (sample rtc pulse.low).DD = true := sends.driven
  have fields := sample_low pulse rtc
  rwa [line,DD] at fields

theorem pulse_command {pulse : Pulse} (sends : pulse.Sends bit) {rtc : RTC}
    (up : rtc.Up) (stat : rtc.cmdStat = .command) :
    (rtc.pulse pulse).core =
        (if rtc.bitsCount + 1 = 8 then
          beginTransfer
            { rtc.core.shifted bit with cmd := decode (rtc.core.shifted bit).cmd }
        else rtc.core.shifted bit) ∧
      (rtc.pulse pulse).Up := by
  obtain ⟨core,after⟩ := pulse_core pulse (fun _ => sends.held)
  refine ⟨core.trans ?_,after⟩
  rw [rtcWrite_core,sample_sent sends]
  unfold advance commandBit
  simp only [stat,up.prevSCK,Bool.not_true,Bool.not_false,Bool.and_true,
    Bool.and_false,Bool.and_self,Bool.false_eq_true,if_false,if_true]
  by_cases eighth : rtc.bitsCount + 1 = 8
  · rw [if_pos eighth,if_pos eighth,beginTransfer_core]
    simp only [RTC.core,RTC.shifted,stat]
  · rw [if_neg eighth,if_neg eighth]
    simp only [RTC.core,RTC.shifted,stat]

def RTC.stored (rtc : RTC) (bit : Bool) : RTC :=
  let byte := (rtc.bitsCount >>> 3).toNat
  { rtc with
    data :=
      if bit then
        Function.update rtc.data byte
          (rtc.data byte ||| ((1 : u8) <<< (rtc.bitsCount &&& 0x07)))
      else rtc.data
    bitsCount := rtc.bitsCount + 1 }

def RTC.shown (rtc : RTC) (val : u16) : RTC :=
  let shifted := rtc.data (rtc.bitsCount >>> 3).toNat >>> (rtc.bitsCount &&& 0x07)
  { rtc with
    REG := if shifted &&& 0x01 ≠ 0 then val ||| 0x01 else val &&& ~~~0x01
    bitsCount := rtc.bitsCount + 1 }

def RTC.Full (rtc : RTC) : Prop :=
  rtc.bitsCount + (1 : u8) = rtc.cmdBitsSize (rtc.cmd >>> 1).toNat

instance (rtc : RTC) : Decidable rtc.Full := inferInstanceAs (Decidable (_ = _))

theorem pulse_write {pulse : Pulse} (sends : pulse.Sends bit) {rtc : RTC}
    (up : rtc.Up) (stat : rtc.cmdStat = .write) :
    (rtc.pulse pulse).core =
        (if rtc.Full then { rtcSend (rtc.core.stored bit) with cmdStat := .idle }
        else rtc.core.stored bit) ∧
      (rtc.pulse pulse).Up := by
  obtain ⟨core,after⟩ := pulse_core pulse (fun _ => sends.held)
  refine ⟨core.trans ?_,after⟩
  rw [rtcWrite_core,sample_sent sends]
  unfold advance
  simp only [stat,up.prevSCK,Bool.not_false,Bool.and_self,if_true]
  unfold writeBit
  by_cases full : rtc.Full
  · rw [if_pos full]
    refine (congrArg RTC.core (if_pos full)).trans ?_
    change { (rtcSend _).core with cmdStat := CmdStat.idle } = _
    rw [rtcSend_core]
    simp only [RTC.core,RTC.stored,stat]
  · rw [if_neg full]
    refine (congrArg RTC.core (if_neg full)).trans ?_
    simp only [RTC.core,RTC.stored,stat]

theorem Lines.selects (lines : Lines val true SCK) : ¬val &&& 0x04 = 0 :=
  (and_twoPow_ne_zero val 2 (by omega)).mpr lines.cs

theorem low_read {rtc : RTC} (up : rtc.Up) (stat : rtc.cmdStat = .read) :
    (rtcWrite rtc pulse.low).core =
      if rtc.Full then { rtc.core.shown pulse.low with cmdStat := .idle }
      else rtc.core.shown pulse.low := by
  have selects := pulse.fall.selects
  rw [rtcWrite_core,sample_low]
  unfold advance
  simp only [stat,up.prevSCK,Bool.not_false,Bool.and_self,if_true]
  unfold readBit
  by_cases full : rtc.Full
  · rw [if_pos full]
    exact congrArg RTC.core (if_pos (Or.inl full))
  · rw [if_neg full]
    refine (congrArg RTC.core (if_neg (not_or.mpr ⟨full,selects⟩))).trans ?_
    simp only [RTC.core,RTC.shown,stat]

theorem pulse_read {rtc : RTC} (up : rtc.Up) (stat : rtc.cmdStat = .read) :
    (rtc.pulse pulse).core =
        (if rtc.Full then { rtc.core.shown pulse.low with cmdStat := .idle }
        else rtc.core.shown pulse.low) ∧
      (rtc.pulse pulse).Up := by
  have low := low_read pulse up stat
  have notCommand : (rtcWrite rtc pulse.low).core.cmdStat ≠ .command := by
    rw [low]
    split
    · exact CmdStat.noConfusion
    · change rtc.cmdStat ≠ .command
      rw [stat]
      exact CmdStat.noConfusion
  obtain ⟨core,after⟩ := pulse_core pulse (fun commanding => absurd commanding notCommand)
  exact ⟨core.trans low,after⟩

/-! ### Selecting and releasing -/

theorem core_released (lines : Lines val false SCK) {rtc : RTC}
    (stat : rtc.cmdStat = .idle) : (rtcWrite rtc val).core = rtc.core := by
  obtain ⟨-,CS⟩ := sample_levels lines rtc
  have same : advance (sample rtc val) val = sample rtc val := by
    unfold advance
    have still : (sample rtc val).cmdStat = .idle := stat
    simp [still,CS]
  rw [rtcWrite_core,same]
  rfl

theorem core_releases {vals : List u16} (released : ∀ val ∈ vals, ∃ SCK, Lines val false SCK)
    {rtc : RTC} (stat : rtc.cmdStat = .idle) : (vals.foldl rtcWrite rtc).core = rtc.core := by
  induction vals generalizing rtc with
  | nil => rfl
  | cons val rest ih =>
      obtain ⟨SCK,lines⟩ := released val List.mem_cons_self
      have first := core_released lines stat
      have still : (rtcWrite rtc val).cmdStat = .idle :=
        (congrArg RTC.cmdStat first).trans stat
      have later := ih (fun other member => released other (List.mem_cons_of_mem _ member)) still
      rw [List.foldl_cons,later,first]

theorem core_selected {ready raise : u16} (release : Lines ready false true)
    (select : Lines raise true true) {rtc : RTC} (stat : rtc.cmdStat = .idle) :
    (rtcWrite (rtcWrite rtc ready) raise).core =
        { rtc.core with cmdStat := .command, bitsCount := 0, cmd := 0 } ∧
      (rtcWrite (rtcWrite rtc ready) raise).Up := by
  have first := core_released release stat
  have still : (rtcWrite rtc ready).cmdStat = .idle := (congrArg RTC.cmdStat first).trans stat
  have prevCS := rtcWrite_prevCS release rtc
  have prevSCK := rtcWrite_prevSCK release rtc
  obtain ⟨SCK,CS⟩ := sample_levels select (rtcWrite rtc ready)
  refine ⟨?_,rtcWrite_prevSCK select _,rtcWrite_prevCS select _⟩
  rw [← first,rtcWrite_core]
  unfold advance
  have idle : (sample (rtcWrite rtc ready) raise).cmdStat = .idle := still
  have low : (sample (rtcWrite rtc ready) raise).prevCS = false := prevCS
  have high : (sample (rtcWrite rtc ready) raise).prevSCK = true := prevSCK
  simp only [idle,low,high,SCK,CS,Bool.not_false,Bool.and_self,if_true]
  rfl

end Desmume.Rtc
