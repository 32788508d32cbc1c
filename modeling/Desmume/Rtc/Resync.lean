/-
The chip select of the real-time clock.

A rise of the select line with the clock high starts a command in the idle state
only.
-/

import Desmume.Rtc.Registers

namespace Desmume.Rtc

open Run

structure Counted (rtc : RTC) : Prop where
  sizes : ∀ reg, reg ≠ 4 → rtc.cmdBitsSize reg = kDefaultCmdBitsSize reg
  below : rtc.cmdStat = .write ∨ rtc.cmdStat = .read →
    rtc.bitsCount.toNat < (rtc.cmdBitsSize (rtc.cmd >>> 1).toNat).toNat ∧
      (rtc.cmdBitsSize (rtc.cmd >>> 1).toNat).toNat ≤ 56

theorem commandLength_le (regStatus2 : u8) (reg : Nat) : commandLength regStatus2 reg ≤ 56 := by
  unfold commandLength kDefaultCmdBitsSize
  split
  · split
    · omega
    · omega
  · split <;> decide

theorem received_length (rtc : RTC) (reg : Nat) : (received rtc reg).length ≤ 8 := by
  unfold received
  split <;> simp

variable {rtc : RTC}

theorem Counted.quiet (counted : Counted rtc) (after : RTC)
    (sizes : after.cmdBitsSize = rtc.cmdBitsSize)
    (quiet : after.cmdStat = .idle ∨ after.cmdStat = .command) : Counted after := by
  refine ⟨by rw [sizes]; exact counted.sizes,fun transfers => ?_⟩
  rcases quiet with idle | cmd
  · rw [idle] at transfers
    rcases transfers with same | same <;> cases same
  · rw [cmd] at transfers
    rcases transfers with same | same <;> cases same

theorem Counted.beginTransfer (counted : Counted rtc) : Counted (beginTransfer rtc) := by
  have length := setCmdBitsSize_length counted.sizes
  have bounds := commandLength_bounds rtc.regStatus2 (rtc.cmd >>> 1).toNat
  have most := commandLength_le rtc.regStatus2 (rtc.cmd >>> 1).toNat
  have size : (setCmdBitsSize rtc (rtc.cmd >>> 1).toNat).toNat =
      commandLength rtc.regStatus2 (rtc.cmd >>> 1).toNat := by
    rw [length,BitVec.toNat_ofNat,Nat.mod_eq_of_lt bounds.2]
  have started (ending : RTC) (sizes : ending.cmdBitsSize = setCmdBitsSize rtc)
      (cmd : ending.cmd = rtc.cmd) (bits : ending.bitsCount = 0) : Counted ending := by
    refine ⟨fun reg other => ?_, fun _ => ?_⟩
    · rw [sizes]
      exact setCmdBitsSize_other counted.sizes reg other
    · rw [sizes,cmd,bits,size]
      exact ⟨Nat.lt_of_lt_of_le (by decide) bounds.1,most⟩
  unfold Rtc.beginTransfer
  simp only
  split
  · exact started _ rfl rfl rfl
  · exact started _ rfl rfl rfl

theorem Counted.commandBit (counted : Counted rtc) (cmd : rtc.cmdStat = .command) :
    Counted (commandBit rtc) := by
  unfold Rtc.commandBit
  simp only
  split
  · exact counted.quiet _ rfl (Or.inl rfl)
  · split
    · exact counted
    · split
      · exact counted
      · split
        · split
          · exact Counted.beginTransfer (counted.quiet _ rfl (Or.inr cmd))
          · exact counted.quiet _ rfl (Or.inr cmd)
        · exact counted.quiet _ rfl (Or.inr cmd)

theorem Counted.next (counted : Counted rtc)
    (transfers : rtc.cmdStat = .write ∨ rtc.cmdStat = .read) (more : ¬ rtc.Full) (after : RTC)
    (sizes : after.cmdBitsSize = rtc.cmdBitsSize) (cmd : after.cmd = rtc.cmd)
    (bits : after.bitsCount = rtc.bitsCount + 1) : Counted after := by
  obtain ⟨below,most⟩ := counted.below transfers
  have step : (rtc.bitsCount + 1).toNat = rtc.bitsCount.toNat + 1 := by
    rw [BitVec.toNat_add]
    change (rtc.bitsCount.toNat + 1) % 2 ^ 8 = _
    omega
  have other : (rtc.bitsCount + 1).toNat ≠ (rtc.cmdBitsSize (rtc.cmd >>> 1).toNat).toNat :=
    fun same => more (BitVec.eq_of_toNat_eq same)
  refine ⟨by rw [sizes]; exact counted.sizes,fun _ => ?_⟩
  rw [sizes,cmd,bits]
  omega

theorem Counted.writeBit (counted : Counted rtc) (write : rtc.cmdStat = .write) :
    Counted (writeBit rtc) := by
  unfold Rtc.writeBit
  simp only
  split
  · exact counted.quiet _ (rtcSend_sizes _) (Or.inl rfl)
  · rename_i more
    exact counted.next (Or.inl write) more _ rfl rfl rfl

theorem Counted.readBit (counted : Counted rtc) (val : u16)
    (read : rtc.cmdStat = .read) : Counted (readBit rtc val) := by
  unfold Rtc.readBit
  simp only
  split
  · exact counted.quiet _ rfl (Or.inl rfl)
  · rename_i more
    exact counted.next (Or.inr read) (fun same => more (Or.inl same)) _ rfl rfl rfl

theorem Counted.rtcWrite (counted : Counted rtc) (val : u16) : Counted (rtcWrite rtc val) := by
  have sampled : Counted (sample rtc val) := ⟨counted.sizes,counted.below⟩
  have advanced : Counted (advance (sample rtc val) val) := by
    unfold advance
    split
    · rename_i idle
      split
      · exact sampled.quiet _ rfl (Or.inr rfl)
      · exact sampled
    · rename_i cmd
      exact sampled.commandBit cmd
    · rename_i write
      split
      · exact sampled.writeBit write
      · exact sampled
    · rename_i read
      split
      · exact sampled.readBit val read
      · exact sampled
  exact ⟨advanced.sizes,advanced.below⟩

def Inside (rtc : RTC) : Prop :=
  rtc.cmdStat = .write ∨ rtc.cmdStat = .read → (rtc.bitsCount >>> 3).toNat < 8

theorem Counted.inside (counted : Counted rtc) : Inside rtc := by
  intro transfers
  obtain ⟨below,most⟩ := counted.below transfers
  rw [BitVec.toNat_ushiftRight,Nat.shiftRight_eq_div_pow]
  omega

theorem always_inside (ops : List u16) : Always rtcWrite Inside rtcInit ops := by
  have initial : Counted rtcInit :=
    ⟨fun _ _ => rfl, fun transfers => by rcases transfers with same | same <;> cases same⟩
  have counted := @always_of_guarded _ _ rtcWrite Counted (fun _ _ => True)
    (fun rtc val counted _ => counted.rtcWrite val) rtcInit ops initial
    (guarded_of_forall (fun _ _ _ => trivial) rtcInit)
  exact counted.mono fun rtc counted => counted.inside

def clockAfter (rtc : RTC) (val : u16) : Bool :=
  if val.getLsbD 5 then val.getLsbD 1 else rtc.prevSCK

def selectAfter (rtc : RTC) (val : u16) : Bool :=
  if val.getLsbD 6 then val.getLsbD 2 else rtc.prevCS

structure Rises (rtc : RTC) (val : u16) : Prop where
  wasLow : rtc.prevCS = false
  wasHigh : rtc.prevSCK = true
  select : selectAfter rtc val = true
  clock : clockAfter rtc val = true

def freshCommand (rtc : RTC) (val : u16) : RTC :=
  latch { sample rtc val with cmdStat := .command, bitsCount := 0, cmd := 0 }

def Resyncs (rtc : RTC) (val : u16) : Prop :=
  Rises rtc val → rtcWrite rtc val = freshCommand rtc val

/-- A write that leaves the select line low during a transfer of data is one with
a falling clock, and in a transfer to the clock the one with the last bit. -/
structure Ends (rtc : RTC) (val : u16) : Prop where
  write : selectAfter rtc val = false → rtc.cmdStat = .write →
    rtc.prevSCK = true ∧ clockAfter rtc val = false ∧ rtc.Full
  read : selectAfter rtc val = false → rtc.cmdStat = .read →
    rtc.prevSCK = true ∧ clockAfter rtc val = false

def Selected (rtc : RTC) : Prop := rtc.cmdStat ≠ .idle → rtc.prevCS = true

theorem rtcWrite_select (rtc : RTC) (val : u16) : (rtcWrite rtc val).prevCS = selectAfter rtc val :=
  (advance_levels _ _).2

theorem rtcWrite_clock (rtc : RTC) (val : u16) : (rtcWrite rtc val).prevSCK = clockAfter rtc val :=
  (advance_levels _ _).1

theorem rtcWrite_cmdStat (rtc : RTC) (val : u16) :
    (rtcWrite rtc val).cmdStat = (advance (sample rtc val) val).cmdStat := rfl

theorem sample_clock (rtc : RTC) (val : u16) : (sample rtc val).SCK = clockAfter rtc val := rfl

theorem sample_select (rtc : RTC) (val : u16) : (sample rtc val).CS = selectAfter rtc val := rfl

theorem idle_stays {val : u16} (idle : rtc.cmdStat = .idle)
    (low : selectAfter rtc val = false) : (rtcWrite rtc val).cmdStat = .idle := by
  have stat : (sample rtc val).cmdStat = .idle := idle
  rw [rtcWrite_cmdStat]
  simp [advance,stat,sample_select,low]

theorem command_ends {val : u16} (cmd : rtc.cmdStat = .command)
    (low : selectAfter rtc val = false) : (rtcWrite rtc val).cmdStat = .idle := by
  have stat : (sample rtc val).cmdStat = .command := cmd
  rw [rtcWrite_cmdStat]
  simp [advance,stat,commandBit,sample_select,low]

theorem writeBit_cmdStat (rtc : RTC) :
    (writeBit rtc).cmdStat = if rtc.Full then .idle else rtc.cmdStat := by
  by_cases last : rtc.Full
  · exact (congrArg RTC.cmdStat (if_pos last)).trans (if_pos last).symm
  · exact (congrArg RTC.cmdStat (if_neg last)).trans (if_neg last).symm

theorem readBit_cmdStat (rtc : RTC) (val : u16) (released : val &&& 0x04 = 0) :
    (readBit rtc val).cmdStat = .idle := by
  unfold readBit
  simp only
  rw [if_pos (Or.inr released)]

theorem transfer_stays {val : u16} (held : ¬ (rtc.prevSCK = true ∧ clockAfter rtc val = false))
    (transfers : rtc.cmdStat = .write ∨ rtc.cmdStat = .read) :
    (rtcWrite rtc val).cmdStat = rtc.cmdStat := by
  have still : ((sample rtc val).prevSCK && !(sample rtc val).SCK) = false := by
    change (rtc.prevSCK && !clockAfter rtc val) = false
    cases before : rtc.prevSCK with
    | false => rfl
    | true =>
        cases after : clockAfter rtc val with
        | false => exact (held ⟨before,after⟩).elim
        | true => rfl
  have stat : (sample rtc val).cmdStat = rtc.cmdStat := rfl
  rw [rtcWrite_cmdStat]
  unfold advance
  rw [still]
  rcases transfers with write | read
  · rw [stat,write]
    exact stat.trans write
  · rw [stat,read]
    exact stat.trans read

theorem write_ends_iff {val : u16} (write : rtc.cmdStat = .write) :
    ((rtcWrite rtc val).cmdStat = .idle ↔
      rtc.prevSCK = true ∧ clockAfter rtc val = false ∧ rtc.Full) ∧
      ((rtcWrite rtc val).cmdStat = .idle ∨ (rtcWrite rtc val).cmdStat = .write) := by
  by_cases falls : rtc.prevSCK = true ∧ clockAfter rtc val = false
  · have taken : (rtcWrite rtc val).cmdStat = (writeBit (sample rtc val)).cmdStat := by
      have stat : (sample rtc val).cmdStat = .write := write
      have edge : ((sample rtc val).prevSCK && !(sample rtc val).SCK) = true := by
        change (rtc.prevSCK && !clockAfter rtc val) = true
        rw [falls.1,falls.2]
        rfl
      rw [rtcWrite_cmdStat,advance]
      simp only [stat]
      rw [if_pos edge]
    rw [taken,writeBit_cmdStat]
    change ((if rtc.Full then CmdStat.idle else rtc.cmdStat) = .idle ↔ _) ∧ _
    by_cases last : rtc.Full
    · rw [if_pos last]
      exact ⟨iff_of_true rfl ⟨falls.1,falls.2,last⟩,Or.inl (if_pos last)⟩
    · rw [if_neg last,write]
      exact ⟨iff_of_false CmdStat.noConfusion (fun all => last all.2.2),
        Or.inr ((if_neg last).trans write)⟩
  · rw [transfer_stays falls (Or.inl write),write]
    exact ⟨iff_of_false CmdStat.noConfusion (fun all => falls ⟨all.1,all.2.1⟩),Or.inr rfl⟩

theorem read_ends_iff {val : u16} (read : rtc.cmdStat = .read)
    (selected : rtc.prevCS = true) (low : selectAfter rtc val = false) :
    ((rtcWrite rtc val).cmdStat = .idle ↔
      rtc.prevSCK = true ∧ clockAfter rtc val = false) ∧
      ((rtcWrite rtc val).cmdStat = .idle ∨ (rtcWrite rtc val).cmdStat = .read) := by
  have stat : (sample rtc val).cmdStat = .read := read
  have released : val &&& 0x04 = 0 := by
    have bit : val.getLsbD 2 = false := by
      unfold selectAfter at low
      split at low
      · exact low
      · rw [selected] at low
        cases low
    have clear := not_congr (and_twoPow_ne_zero val 2 (by decide))
    rw [not_not,bit] at clear
    exact clear.mpr (by decide)
  by_cases falls : rtc.prevSCK = true ∧ clockAfter rtc val = false
  · have edge : ((sample rtc val).prevSCK && !(sample rtc val).SCK) = true := by
      change (rtc.prevSCK && !clockAfter rtc val) = true
      rw [falls.1,falls.2]
      rfl
    have ended : (rtcWrite rtc val).cmdStat = .idle := by
      rw [rtcWrite_cmdStat,advance]
      simp only [stat]
      rw [if_pos edge]
      exact readBit_cmdStat _ _ released
    exact ⟨iff_of_true ended falls,Or.inl ended⟩
  · rw [transfer_stays falls (Or.inr read),read]
    exact ⟨iff_of_false CmdStat.noConfusion falls,Or.inr rfl⟩

theorem selected_rtcWrite (rtc : RTC) (val : u16) (selected : Selected rtc)
    (ends : Ends rtc val) : Selected (rtcWrite rtc val) := by
  intro busy
  rw [rtcWrite_select]
  cases low : selectAfter rtc val with
  | true => rfl
  | false =>
      exfalso
      cases stat : rtc.cmdStat with
      | idle => exact busy (idle_stays stat low)
      | command => exact busy (command_ends stat low)
      | write => exact busy ((write_ends_iff stat).1.mpr (ends.write low stat))
      | read =>
          have up := selected (by rw [stat]; decide)
          exact busy ((read_ends_iff stat up low).1.mpr (ends.read low stat))

theorem resyncs_of_idle (idle : rtc.cmdStat = .idle) (val : u16) : Resyncs rtc val := by
  intro rises
  have stat : (sample rtc val).cmdStat = .idle := idle
  have ready : (!(sample rtc val).prevCS && (sample rtc val).prevSCK && (sample rtc val).CS &&
      (sample rtc val).SCK) = true := by
    have wasLow : (sample rtc val).prevCS = false := rises.wasLow
    have wasHigh : (sample rtc val).prevSCK = true := rises.wasHigh
    rw [wasLow,wasHigh,sample_select,sample_clock,rises.select,rises.clock]
    rfl
  unfold rtcWrite freshCommand advance
  simp only [stat]
  rw [if_pos ready]

theorem resyncs_of_selected (selected : Selected rtc) (val : u16) : Resyncs rtc val := by
  intro rises
  have idle : rtc.cmdStat = .idle := by
    by_contra busy
    have up := selected busy
    rw [rises.wasLow] at up
    cases up
  exact resyncs_of_idle idle val rises

theorem always_selected {ops : List u16} (ends : Guarded rtcWrite Ends rtcInit ops) :
    Always rtcWrite Selected rtcInit ops := by
  have initial : Selected rtcInit := fun busy => (busy rfl).elim
  exact always_of_guarded selected_rtcWrite initial ends

theorem guarded_of_always {ops : List u16}
    (selected : Always rtcWrite Selected rtc ops) : Guarded rtcWrite Resyncs rtc ops := by
  induction ops generalizing rtc with
  | nil => trivial
  | cons val rest ih => exact ⟨resyncs_of_selected selected.1 val,ih selected.2⟩

/-! ### A transfer that is not ended -/

theorem stuck_of_not_ends {val : u16} (selected : Selected rtc) (fails : ¬ Ends rtc val) :
    (rtcWrite rtc val).prevCS = false ∧
      ((rtcWrite rtc val).cmdStat = .write ∨ (rtcWrite rtc val).cmdStat = .read) := by
  rw [rtcWrite_select]
  have low : selectAfter rtc val = false := by
    by_contra high
    exact fails ⟨fun low => (high low).elim, fun low => (high low).elim⟩
  refine ⟨low,?_⟩
  cases stat : rtc.cmdStat with
  | idle =>
      exact (fails ⟨fun _ write => CmdStat.noConfusion (stat.symm.trans write),
        fun _ read => CmdStat.noConfusion (stat.symm.trans read)⟩).elim
  | command =>
      exact (fails ⟨fun _ write => CmdStat.noConfusion (stat.symm.trans write),
        fun _ read => CmdStat.noConfusion (stat.symm.trans read)⟩).elim
  | write =>
      obtain ⟨ends,kept⟩ := @write_ends_iff rtc val stat
      exact Or.inl (kept.resolve_left fun idle => fails ⟨fun _ _ => ends.mp idle,
        fun _ read => CmdStat.noConfusion (stat.symm.trans read)⟩)
  | read =>
      obtain ⟨ends,kept⟩ := read_ends_iff stat (selected (by rw [stat]; decide)) low
      exact Or.inr (kept.resolve_left fun idle => fails
        ⟨fun _ write => CmdStat.noConfusion (stat.symm.trans write), fun _ _ => ends.mp idle⟩)

theorem not_resyncs_of_stuck (transfers : rtc.cmdStat = .write ∨ rtc.cmdStat = .read) :
    ¬ Guarded rtcWrite Resyncs rtc [0x62,0x66] := by
  rintro ⟨-,resyncs,-⟩
  have held := @transfer_stays rtc 0x62 (fun falls => Bool.noConfusion falls.2) transfers
  have rises : Rises (rtcWrite rtc 0x62) 0x66 :=
    ⟨rtcWrite_select rtc 0x62,rtcWrite_clock rtc 0x62,rfl,rfl⟩
  have again := @transfer_stays (rtcWrite rtc 0x62) 0x66 (fun falls => Bool.noConfusion falls.2)
    (by rw [held]; exact transfers)
  have started : (rtcWrite (rtcWrite rtc 0x62) 0x66).cmdStat = .command :=
    congrArg RTC.cmdStat (resyncs rises)
  rw [again,held] at started
  rw [started] at transfers
  rcases transfers with same | same <;> cases same

/-- From the reset the counter stays inside the buffer in every run. In a run
whose writes meet the condition every rise of the select line with the clock high
starts a fresh command; and a first write that does not meet it can be continued
so that one does not. -/
theorem resyncs_of_ends (rtc : RTC) (reg : Nat) (ops : List u16) (val : u16) :
    (received rtc reg).length ≤ 8 ∧
      Always rtcWrite Inside rtcInit ops ∧
      (Guarded rtcWrite Ends rtcInit ops → Guarded rtcWrite Resyncs rtcInit ops) ∧
      (Guarded rtcWrite Ends rtcInit ops → ¬ Ends (final rtcWrite rtcInit ops) val →
        ¬ Guarded rtcWrite Resyncs rtcInit (ops ++ [val,0x62,0x66])) := by
  refine ⟨received_length rtc reg,always_inside ops,fun ends => ?_, fun ends fails => ?_⟩
  · exact guarded_of_always (always_selected ends)
  · rw [guarded_append]
    rintro ⟨-,-,later⟩
    have selected : Selected (final rtcWrite rtcInit ops) := (always_selected ends).last
    exact not_resyncs_of_stuck (stuck_of_not_ends selected fails).2 later

/-- The clock goes high, then the device is selected. -/
theorem resyncs_of_ends_select : Guarded rtcWrite Resyncs rtcInit [0x62,0x66] :=
  (resyncs_of_ends rtcInit 0 [0x62,0x66] 0).2.2.1
    ⟨⟨fun _ write => CmdStat.noConfusion write, fun _ read => CmdStat.noConfusion read⟩,
      ⟨fun _ write => CmdStat.noConfusion write, fun _ read => CmdStat.noConfusion read⟩,trivial⟩

/-- Select, the command 0x46 (write status register 2) and one bit of data. -/
def abortedWrite : List u16 :=
  [0x62,0x66,0x74,0x76,0x75,0x77,0x75,0x77,0x74,0x76,0x74,0x76,0x74,0x76,0x75,0x77,
    0x74,0x76,0x74,0x76]

/-- The device released and selected again in the middle of the data does not
take a command. -/
theorem aborted_write_not_resyncs :
    ¬ Guarded rtcWrite Resyncs rtcInit (abortedWrite ++ [0x62,0x66]) := by
  have stat : (final rtcWrite rtcInit abortedWrite).cmdStat = .write := by decide +kernel
  rw [guarded_append]
  exact fun guarded => not_resyncs_of_stuck (Or.inl stat) guarded.2

end Desmume.Rtc
