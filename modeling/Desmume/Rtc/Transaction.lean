/-
Whole transactions with the real-time clock.

The buffer that assembles what the game sends is cleared before a read and
never before a write, so a write leaves in its register the value joined with
what the buffer held.
-/

import Desmume.Rtc.Protocol

namespace Desmume.Rtc

def commandLength (regStatus2 : u8) (reg : Nat) : Nat :=
  if reg = 4 then if regStatus2 &&& 0x0F = 0x04 then 24 else 8
  else (kDefaultCmdBitsSize reg).toNat

variable (cmd : u8)

def registerOf : Nat := (decode cmd >>> 1).toNat

def Reads : Prop := decode cmd &&& 0x01 ≠ 0

instance (cmd : u8) : Decidable (Reads cmd) := inferInstanceAs (Decidable (_ ≠ _))

/-- What the game writes to the port for one command: the device released and
selected with the clock high, the command, the data, and the device released.
In a read the data line is the device's. -/
structure Transaction where
  command : u8
  data : Nat → u8
  released : List u16
  ready : u16
  raise : u16
  commandPulses : Nat → Pulse
  dataPulses : Nat → Pulse
  lowered : List u16
  releases : ∀ val ∈ released, ∃ SCK, Lines val false SCK
  readies : Lines ready false true
  selects : Lines raise true true
  commands : ∀ bit < 8, (commandPulses bit).Sends (command.getLsbD bit)
  sends : ¬Reads command →
    ∀ bit, (dataPulses bit).Sends ((data (bit / 8)).getLsbD (bit % 8))
  lowers : ∀ val ∈ lowered, ∃ SCK, Lines val false SCK

def RTC.clocked (rtc : RTC) (pulses : Nat → Pulse) : Nat → RTC × List Bool
  | 0 => (rtc, [])
  | count + 1 =>
      let before := rtc.clocked pulses count
      let after := before.1.pulse (pulses count)
      (after, before.2 ++ [(rtcRead after).getLsbD 0])

def RTC.open (rtc : RTC) (tx : Transaction) : RTC :=
  rtcWrite (rtcWrite (tx.released.foldl rtcWrite rtc) tx.ready)
    tx.raise

def RTC.transact (rtc : RTC) (tx : Transaction) : RTC × List Bool :=
  let commanded := ((rtc.open tx).clocked tx.commandPulses 8).1
  let done := commanded.clocked tx.dataPulses
    (commandLength rtc.regStatus2 (registerOf tx.command))
  (tx.lowered.foldl rtcWrite done.1, done.2)

def firstBits (n : Nat) : u8 := (cmd.setWidth n).setWidth 8

theorem firstBits_zero : firstBits cmd 0 = 0 := by
  apply BitVec.eq_of_getLsbD_eq
  intro i bound
  simp [firstBits]

theorem firstBits_all : firstBits cmd 8 = cmd := by
  unfold firstBits
  rw [BitVec.setWidth_eq,BitVec.setWidth_eq]

variable {n : Nat}

theorem firstBits_succ (short : n < 8) :
    firstBits cmd n |||
        ((BitVec.ofBool (cmd.getLsbD n)).setWidth 8 <<< BitVec.ofNat 8 n) =
      firstBits cmd (n + 1) := by
  apply BitVec.eq_of_getLsbD_eq
  intro i bound
  have amount : (BitVec.ofNat 8 n).toNat = n := by
    rw [BitVec.toNat_ofNat]
    omega
  unfold firstBits
  rw [BitVec.getLsbD_or,BitVec.shiftLeft_eq',amount]
  simp only [BitVec.getLsbD_setWidth,BitVec.getLsbD_shiftLeft,BitVec.getLsbD_ofBool]
  rcases Nat.lt_trichotomy i n with below | here | above
  · simp [bound,below,Nat.lt_succ_of_lt below]
  · subst here
    simp [bound]
  · have later : ¬i < n + 1 := by omega
    have notBefore : ¬i < n := by omega
    have apart : i - n ≠ 0 := by omega
    simp [later,notBefore,apart]

def RTC.commanding (rtc : RTC) (command : u8) (n : Nat) : RTC :=
  { rtc with
    cmdStat := .command
    bitsCount := BitVec.ofNat 8 n
    cmd := firstBits command n }

theorem open_core (tx : Transaction) {rtc : RTC} (stat : rtc.cmdStat = .idle) :
    (rtc.open tx).core = rtc.core.commanding tx.command 0 ∧
      (rtc.open tx).Up := by
  have first := core_releases tx.releases stat
  have still : (tx.released.foldl rtcWrite rtc).cmdStat = .idle :=
    (congrArg RTC.cmdStat first).trans stat
  obtain ⟨core,up⟩ := core_selected tx.readies tx.selects still
  refine ⟨?_,up⟩
  rw [first] at core
  refine core.trans ?_
  unfold RTC.commanding
  rw [firstBits_zero]
  rfl

theorem clocked_command (tx : Transaction) {rtc : RTC} (stat : rtc.cmdStat = .idle)
    (short : n < 8) :
    ((rtc.open tx).clocked tx.commandPulses n).1.core =
        rtc.core.commanding tx.command n ∧
      ((rtc.open tx).clocked tx.commandPulses n).1.Up := by
  induction n with
  | zero => exact open_core tx stat
  | succ n ih =>
      obtain ⟨core,up⟩ := ih (by omega)
      have commanding := congrArg RTC.cmdStat core
      have bits := congrArg RTC.bitsCount core
      obtain ⟨next,after⟩ := pulse_command (tx.commands n (by omega)) up commanding
      refine ⟨next.trans ?_,after⟩
      have more : (((rtc.open tx).clocked tx.commandPulses n).1).bitsCount + 1
          ≠ 8 := by
        change _ = BitVec.ofNat 8 n at bits
        change (RTC.core _).bitsCount + 1 ≠ 8
        rw [bits]
        bv_omega
      rw [if_neg more,core]
      unfold RTC.shifted RTC.commanding
      simp only [firstBits_succ _ (show n < 8 by omega)]
      rw [BitVec.ofNat_add]
      rfl

theorem clocked_commanded (tx : Transaction) {rtc : RTC} (stat : rtc.cmdStat = .idle) :
    ((rtc.open tx).clocked tx.commandPulses 8).1.core =
        beginTransfer
          { rtc.core with
            cmdStat := .command, bitsCount := 8, cmd := decode tx.command } ∧
      ((rtc.open tx).clocked tx.commandPulses 8).1.Up := by
  obtain ⟨core,up⟩ := clocked_command tx stat (show 7 < 8 by omega)
  have commanding := congrArg RTC.cmdStat core
  have bits := congrArg RTC.bitsCount core
  obtain ⟨next,after⟩ := pulse_command (tx.commands 7 (by omega)) up commanding
  refine ⟨next.trans ?_,after⟩
  have last : (((rtc.open tx).clocked tx.commandPulses 7).1).bitsCount + 1 = 8 := by
    change _ = BitVec.ofNat 8 7 at bits
    change (RTC.core _).bitsCount + 1 = 8
    rw [bits]
    rfl
  have whole := firstBits_succ tx.command (show 7 < 8 by omega)
  rw [firstBits_all] at whole
  rw [if_pos last,core]
  unfold RTC.shifted RTC.commanding
  simp only [whole]
  rfl

theorem firstBits_of_le (byte : u8) (all : 8 ≤ n) : firstBits byte n = byte := by
  apply BitVec.eq_of_getLsbD_eq
  intro i bound
  have before : i < n := by omega
  simp [firstBits,bound,before]

def joined (old new : Nat → u8) (n : Nat) (byte : Nat) : u8 :=
  old byte ||| firstBits (new byte) (n - 8 * byte)

variable (old new : Nat → u8)

theorem joined_zero : joined old new 0 = old := by
  funext byte
  unfold joined
  rw [Nat.zero_sub,firstBits_zero]
  exact BitVec.or_zero

theorem joined_apart {byte : Nat} (apart : byte ≠ n / 8) :
    joined old new (n + 1) byte = joined old new n byte := by
  unfold joined
  by_cases before : byte < n / 8
  · rw [firstBits_of_le _ (by omega),firstBits_of_le _ (by omega)]
  · rw [show n + 1 - 8 * byte = 0 by omega,show n - 8 * byte = 0 by omega]

theorem joined_here (n : Nat) :
    joined old new (n + 1) (n / 8) =
      joined old new n (n / 8) |||
        ((BitVec.ofBool ((new (n / 8)).getLsbD (n % 8))).setWidth 8 <<<
          BitVec.ofNat 8 (n % 8)) := by
  unfold joined
  rw [show n + 1 - 8 * (n / 8) = n % 8 + 1 by omega,
    show n - 8 * (n / 8) = n % 8 by omega,BitVec.or_assoc,
    firstBits_succ _ (Nat.mod_lt _ (by omega))]

theorem count_byte (small : n < 256) : ((BitVec.ofNat 8 n : u8) >>> 3).toNat = n / 8 := by
  rw [BitVec.toNat_ushiftRight,BitVec.toNat_ofNat,Nat.shiftRight_eq_div_pow,
    Nat.mod_eq_of_lt small]

theorem count_bit (small : n < 256) :
    (BitVec.ofNat 8 n : u8) &&& 0x07 = BitVec.ofNat 8 (n % 8) := by
  apply BitVec.eq_of_toNat_eq
  rw [BitVec.toNat_and,BitVec.toNat_ofNat,BitVec.toNat_ofNat,Nat.mod_eq_of_lt small]
  refine (Nat.and_two_pow_sub_one_eq_mod n 3).trans ?_
  omega

theorem stored_joined {rtc : RTC} {old new : Nat → u8} (small : n < 256)
    (bits : rtc.bitsCount = BitVec.ofNat 8 n) (data : rtc.data = joined old new n) :
    (rtc.stored ((new (n / 8)).getLsbD (n % 8))).data = joined old new (n + 1) := by
  unfold RTC.stored
  simp only [bits,data,count_byte small,count_bit small]
  funext byte
  by_cases here : byte = n / 8
  · rw [here,joined_here]
    cases (new (n / 8)).getLsbD (n % 8) with
    | true =>
        simp only [if_true,Function.update_self]
        rfl
    | false => simp
  · rw [joined_apart old new here]
    cases (new (n / 8)).getLsbD (n % 8) with
    | true => simp only [if_true,Function.update_of_ne here]
    | false => rfl

theorem stored_fields (rtc : RTC) (bit : Bool) :
    rtc.stored bit =
      { rtc with data := (rtc.stored bit).data, bitsCount := rtc.bitsCount + 1 } := rfl

structure RTC.Transfers (rtc : RTC) (length n : Nat) : Prop where
  bits : rtc.bitsCount = BitVec.ofNat 8 n
  size : rtc.cmdBitsSize (rtc.cmd >>> 1).toNat = BitVec.ofNat 8 length
  small : length < 256

theorem RTC.Transfers.full_iff {rtc : RTC} {length : Nat}
    (transfers : rtc.Transfers length n) (short : n < length) : rtc.Full ↔ n + 1 = length := by
  have small := transfers.small
  unfold RTC.Full
  rw [transfers.bits,transfers.size]
  constructor
  · intro same
    have next : (BitVec.ofNat 8 n : u8) + 1 = BitVec.ofNat 8 (n + 1) :=
      (BitVec.ofNat_add n 1).symm
    rw [next] at same
    have numbers := congrArg BitVec.toNat same
    simp only [BitVec.toNat_ofNat] at numbers
    omega
  · intro same
    rw [← same,BitVec.ofNat_add]
    rfl

section

variable {tx : Transaction} {rtc : RTC} {length : Nat}

variable {n : Nat}

theorem clocked_write (writes : ¬Reads tx.command) (up : rtc.Up)
    (stat : rtc.cmdStat = .write) (transfers : rtc.Transfers length 0)
    (short : n < length) :
    (rtc.clocked tx.dataPulses n).1.core =
        { rtc.core with
          bitsCount := BitVec.ofNat 8 n, data := joined rtc.data tx.data n } ∧
      (rtc.clocked tx.dataPulses n).1.Up := by
  induction n with
  | zero =>
      refine ⟨?_,up⟩
      rw [joined_zero,← transfers.bits]
      rfl
  | succ n ih =>
      obtain ⟨core,before⟩ := ih (by omega)
      have small := transfers.small
      have writing := (congrArg RTC.cmdStat core).trans stat
      obtain ⟨next,after⟩ := pulse_write (tx.sends writes n) before writing
      refine ⟨next.trans ?_,after⟩
      have here : ((rtc.clocked tx.dataPulses n).1.core).Transfers length n := by
        rw [core]
        exact ⟨rfl,transfers.size,small⟩
      have more : ¬(rtc.clocked tx.dataPulses n).1.Full := by
        intro full
        have last := (here.full_iff (by omega)).mp full
        omega
      have data := stored_joined (show n < 256 by omega) here.bits (congrArg RTC.data core)
      rw [if_neg more,stored_fields,data,core,BitVec.ofNat_add]
      rfl

theorem clocked_sent (writes : ¬Reads tx.command) (up : rtc.Up)
    (stat : rtc.cmdStat = .write) (transfers : rtc.Transfers length 0) (some : 0 < length) :
    ∃ bitsCount, (rtc.clocked tx.dataPulses length).1.core =
        { rtcSend { rtc.core with data := joined rtc.data tx.data length } with
          cmdStat := .idle, bitsCount := bitsCount } := by
  obtain ⟨n,rfl⟩ : ∃ n, length = n + 1 := ⟨length - 1,by omega⟩
  have small := transfers.small
  obtain ⟨core,before⟩ := clocked_write writes up stat transfers (Nat.lt_succ_self n)
  have writing := (congrArg RTC.cmdStat core).trans stat
  obtain ⟨next,-⟩ := pulse_write (tx.sends writes n) before writing
  have here : ((rtc.clocked tx.dataPulses n).1.core).Transfers (n + 1) n := by
    rw [core]
    exact ⟨rfl,transfers.size,small⟩
  have last : (rtc.clocked tx.dataPulses n).1.Full :=
    (here.full_iff (Nat.lt_succ_self n)).mpr rfl
  have data := stored_joined (show n < 256 by omega) here.bits (congrArg RTC.data core)
  refine ⟨BitVec.ofNat 8 n + 1,next.trans ?_⟩
  rw [if_pos last,stored_fields,data,core]
  unfold rtcSend
  simp only
  split <;> rfl

/-! ### Shown data -/

theorem shown_bit (small : n < 256) {rtc : RTC} (val : u16)
    (bits : rtc.bitsCount = BitVec.ofNat 8 n) :
    ((rtc.shown val).REG).getLsbD 0 = (rtc.data (n / 8)).getLsbD (n % 8) := by
  unfold RTC.shown
  have amount : (BitVec.ofNat 8 (n % 8) : u8).toNat = n % 8 := by
    rw [BitVec.toNat_ofNat]
    omega
  simp only [bits,count_byte small,count_bit small]
  rw [BitVec.ushiftRight_eq',amount]
  have tested := and_twoPow_ne_zero (rtc.data (n / 8) >>> (n % 8)) 0 (by omega)
  rw [BitVec.getLsbD_ushiftRight,Nat.add_zero] at tested
  by_cases set : (rtc.data (n / 8)).getLsbD (n % 8) = true
  · refine (congrArg (fun reg : u16 => reg.getLsbD 0) (if_pos (tested.mpr set))).trans ?_
    simp [set]
  · refine (congrArg (fun reg : u16 => reg.getLsbD 0) (if_neg (mt tested.mp set))).trans ?_
    simp [set]

theorem shown_fields (rtc : RTC) (val : u16) :
    rtc.shown val =
      { rtc with REG := (rtc.shown val).REG, bitsCount := rtc.bitsCount + 1 } := rfl

def bufferBits (data : Nat → u8) (n : Nat) : List Bool :=
  (List.range n).map fun bit => (data (bit / 8)).getLsbD (bit % 8)

theorem bufferBits_succ (data : Nat → u8) (n : Nat) :
    bufferBits data (n + 1) =
      bufferBits data n ++ [(data (n / 8)).getLsbD (n % 8)] := by
  unfold bufferBits
  rw [List.range_succ,List.map_append,List.map_singleton]

theorem pulse_shows (pulse : Pulse) (up : rtc.Up) (stat : rtc.cmdStat = .read)
    (small : n < 256) (bits : rtc.bitsCount = BitVec.ofNat 8 n) :
    (rtcRead (rtc.pulse pulse)).getLsbD 0 = (rtc.data (n / 8)).getLsbD (n % 8) := by
  obtain ⟨next,-⟩ := pulse_read pulse up stat
  have REG : (rtc.pulse pulse).REG = (rtc.core.shown pulse.low).REG := by
    refine (congrArg RTC.REG next).trans ?_
    split
    · rfl
    · rfl
  unfold rtcRead
  rw [REG]
  exact shown_bit small pulse.low bits

variable (pulses : Nat → Pulse)

theorem clocked_read (up : rtc.Up) (stat : rtc.cmdStat = .read)
    (transfers : rtc.Transfers length 0) (short : n < length) :
    (∃ REG, (rtc.clocked pulses n).1.core =
        { rtc.core with bitsCount := BitVec.ofNat 8 n, REG := REG }) ∧
      (rtc.clocked pulses n).1.Up ∧
      (rtc.clocked pulses n).2 = bufferBits rtc.data n := by
  induction n with
  | zero =>
      refine ⟨⟨rtc.REG,?_⟩,up,rfl⟩
      rw [← transfers.bits]
      rfl
  | succ n ih =>
      obtain ⟨⟨REG,core⟩,before,bits⟩ := ih (by omega)
      have small := transfers.small
      have reading := (congrArg RTC.cmdStat core).trans stat
      have data := congrArg RTC.data core
      obtain ⟨next,after⟩ := pulse_read (pulses n) before reading
      have here : ((rtc.clocked pulses n).1.core).Transfers length n := by
        rw [core]
        exact ⟨rfl,transfers.size,small⟩
      have more : ¬(rtc.clocked pulses n).1.Full := by
        intro full
        have last := (here.full_iff (by omega)).mp full
        omega
      have shows := pulse_shows (pulses n) before reading (show n < 256 by omega) here.bits
      refine ⟨⟨((rtc.clocked pulses n).1.core.shown (pulses n).low).REG,next.trans ?_⟩,
        after,?_⟩
      · rw [if_neg more,shown_fields,core,BitVec.ofNat_add]
        rfl
      · change _ ++ [_] = _
        rw [bits,shows,bufferBits_succ]
        change _ ++ [((rtc.clocked pulses n).1.core.data _).getLsbD _] = _
        rw [data]
        rfl

theorem clocked_shown (up : rtc.Up) (stat : rtc.cmdStat = .read)
    (transfers : rtc.Transfers length 0) (some : 0 < length) :
    (∃ REG bitsCount, (rtc.clocked pulses length).1.core =
        { rtc.core with cmdStat := .idle, bitsCount := bitsCount, REG := REG }) ∧
      (rtc.clocked pulses length).2 = bufferBits rtc.data length := by
  obtain ⟨n,rfl⟩ : ∃ n, length = n + 1 := ⟨length - 1,by omega⟩
  have small := transfers.small
  obtain ⟨⟨REG,core⟩,before,bits⟩ :=
    clocked_read pulses up stat transfers (Nat.lt_succ_self n)
  have reading := (congrArg RTC.cmdStat core).trans stat
  have data := congrArg RTC.data core
  obtain ⟨next,-⟩ := pulse_read (pulses n) before reading
  have here : ((rtc.clocked pulses n).1.core).Transfers (n + 1) n := by
    rw [core]
    exact ⟨rfl,transfers.size,small⟩
  have last : (rtc.clocked pulses n).1.Full :=
    (here.full_iff (Nat.lt_succ_self n)).mpr rfl
  have shows := pulse_shows (pulses n) before reading (show n < 256 by omega) here.bits
  constructor
  · refine ⟨((rtc.clocked pulses n).1.core.shown (pulses n).low).REG,
      BitVec.ofNat 8 n + 1,next.trans ?_⟩
    rw [if_pos last,shown_fields,core]
  · change _ ++ [_] = _
    rw [bits,shows,bufferBits_succ]
    change _ ++ [((rtc.clocked pulses n).1.core.data _).getLsbD _] = _
    rw [data]
    rfl

end

end Desmume.Rtc
