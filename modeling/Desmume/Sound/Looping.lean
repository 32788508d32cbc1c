/-
When a position gets back to its loop.

The loop takes off the length that was latched at the key, less the loop start
that the register says now.
-/

import Desmume.Sound.ChannelRuns
import Mathlib.Algebra.Order.Archimedean.Basic
import Mathlib.Tactic.Linarith

namespace Desmume.Sound

open PartialRun

section

variable {total step sampcnt left : ℚ} {rounds : Nat}

theorem loopBack_inside (inside : sampcnt ≤ total) :
    loopBack (rounds + 1) total step sampcnt = some sampcnt := by
  have leaves : loopRound total step sampcnt = .error sampcnt := if_neg (not_lt.mpr inside)
  unfold loopBack
  rw [While.after_succ_of_error leaves]
  rfl

theorem loopBack_outside (outside : total < sampcnt) :
    loopBack (rounds + 1) total step sampcnt = loopBack rounds total step (sampcnt - step) := by
  have goes : loopRound total step sampcnt = .ok (sampcnt - step) := if_pos outside
  unfold loopBack
  rw [While.after_succ_of_ok goes]

theorem loopBack_left (looped : loopBack rounds total step sampcnt = some left) : left ≤ total := by
  induction rounds generalizing sampcnt with
  | zero => cases looped
  | succ rounds ih =>
      by_cases outside : total < sampcnt
      · rw [loopBack_outside outside] at looped
        exact ih looped
      · rw [loopBack_inside (not_lt.mp outside)] at looped
        cases looped
        exact not_lt.mp outside

theorem loopBack_above (outside : total < sampcnt)
    (looped : loopBack rounds total step sampcnt = some left) : total - step < left := by
  induction rounds generalizing sampcnt with
  | zero => cases looped
  | succ rounds ih =>
      rw [loopBack_outside outside] at looped
      by_cases again : total < sampcnt - step
      · exact ih again looped
      · cases rounds with
        | zero => cases looped
        | succ rounds =>
            rw [loopBack_inside (not_lt.mp again)] at looped
            cases looped
            linarith

theorem loopBack_within (rounds : Nat) (near : sampcnt ≤ total + rounds * step) :
    ∃ left, loopBack (rounds + 1) total step sampcnt = some left := by
  induction rounds generalizing sampcnt with
  | zero => exact ⟨sampcnt,loopBack_inside (by simpa using near)⟩
  | succ rounds ih =>
      by_cases outside : total < sampcnt
      · rw [loopBack_outside outside]
        refine ih ?_
        rw [Nat.cast_succ] at near
        linarith
      · exact ⟨sampcnt,loopBack_inside (not_lt.mp outside)⟩

theorem loopBack_ends (forward : 0 < step) (total sampcnt : ℚ) :
    ∃ rounds left, loopBack rounds total step sampcnt = some left := by
  obtain ⟨rounds,enough⟩ := exists_nat_ge ((sampcnt - total) / step)
  have near : sampcnt - total ≤ rounds * step := (div_le_iff₀ forward).mp enough
  exact ⟨rounds + 1,loopBack_within rounds (by linarith)⟩

theorem loopBack_stuck (stays : step ≤ 0) (outside : total < sampcnt) :
    loopBack rounds total step sampcnt = none := by
  induction rounds generalizing sampcnt with
  | zero => rfl
  | succ rounds ih =>
      rw [loopBack_outside outside]
      exact ih (by linarith)

end

section

variable {mem : SampleMemory} {chan : Channel Runtime} {rounds shift : Nat}

def Advances (chan : Channel Runtime) : Prop := chan.format = 2 → ¬chan.runtime.totlength < 4

def GoesPast (chan : Channel Runtime) : Prop :=
  Advances chan ∧
    chan.runtime.double_totlength_shifted < chan.runtime.sampcnt + chan.runtime.sampinc

def Inside (chan : Channel Runtime) : Prop :=
  Advances chan → chan.runtime.sampcnt ≤ chan.runtime.double_totlength_shifted

def LoopsForward (chan : Channel Runtime) : Prop :=
  loopPoint chan (format_shift chan.format) < chan.runtime.double_totlength_shifted

theorem testForLoop_inside (inside : ¬chan.runtime.double_totlength_shifted <
    chan.runtime.sampcnt + chan.runtime.sampinc) :
    TestForLoop rounds shift chan =
      some (chan.moved (chan.runtime.sampcnt + chan.runtime.sampinc)) := by
  unfold TestForLoop
  exact if_neg inside

theorem testForLoop_past (past : chan.runtime.double_totlength_shifted <
    chan.runtime.sampcnt + chan.runtime.sampinc) (repeated : chan.repeats = 1) :
    TestForLoop rounds shift chan =
      (loopBack rounds chan.runtime.double_totlength_shifted
        (chan.runtime.double_totlength_shifted - loopPoint chan shift)
        (chan.runtime.sampcnt + chan.runtime.sampinc)).map chan.moved := by
  unfold TestForLoop
  exact (if_pos past).trans (if_pos repeated)

theorem testForLoop_over (past : chan.runtime.double_totlength_shifted <
    chan.runtime.sampcnt + chan.runtime.sampinc) (once : chan.repeats ≠ 1) :
    TestForLoop rounds shift chan =
      some (chan.moved (chan.runtime.sampcnt + chan.runtime.sampinc)).ended := by
  unfold TestForLoop
  exact (if_pos past).trans (if_neg once)

theorem testForLoop2_short (short : chan.runtime.totlength < 4) :
    TestForLoop2 mem rounds chan = some chan := if_pos short

theorem testForLoop2_inside (long : ¬chan.runtime.totlength < 4)
    (inside : ¬chan.runtime.double_totlength_shifted <
      chan.runtime.sampcnt + chan.runtime.sampinc) :
    TestForLoop2 mem rounds chan =
      some (chan.moved (chan.runtime.sampcnt + chan.runtime.sampinc)) := by
  unfold TestForLoop2
  exact (if_neg long).trans (if_neg inside)

theorem testForLoop2_past (long : ¬chan.runtime.totlength < 4)
    (past : chan.runtime.double_totlength_shifted <
      chan.runtime.sampcnt + chan.runtime.sampinc) (repeated : chan.repeats = 1) :
    TestForLoop2 mem rounds chan =
      (loopBack rounds chan.runtime.double_totlength_shifted
        (chan.runtime.double_totlength_shifted - loopPoint chan 3)
        (chan.runtime.sampcnt + chan.runtime.sampinc)).map
          fun sampcnt => restart mem (chan.moved sampcnt) := by
  unfold TestForLoop2
  exact (if_neg long).trans ((if_pos past).trans (if_pos repeated))

theorem testForLoop2_over (long : ¬chan.runtime.totlength < 4)
    (past : chan.runtime.double_totlength_shifted <
      chan.runtime.sampcnt + chan.runtime.sampinc) (once : chan.repeats ≠ 1) :
    TestForLoop2 mem rounds chan =
      some (chan.moved (chan.runtime.sampcnt + chan.runtime.sampinc)).ended := by
  unfold TestForLoop2
  exact (if_neg long).trans ((if_pos past).trans (if_neg once))

theorem restart_inside (inside : Inside chan) : Inside (restart mem chan) := by
  unfold restart
  dsimp only
  split <;> exact inside

theorem looped_ends_iff {total point sampcnt : ℚ} {finish : ℚ → Channel Runtime}
    (finished : ∀ left, left ≤ total → Inside (finish left)) (past : total < sampcnt) :
    (∃ rounds next, (loopBack rounds total (total - point) sampcnt).map finish = some next ∧
      Inside next) ↔ point < total := by
  constructor
  · rintro ⟨rounds,next,looped,-⟩
    by_contra backward
    rw [loopBack_stuck (by linarith) past] at looped
    cases looped
  · intro forward
    obtain ⟨rounds,left,ended⟩ := loopBack_ends (sub_pos.mpr forward) total sampcnt
    refine ⟨rounds,finish left,?_,finished left (loopBack_left ended)⟩
    rw [ended]
    rfl

theorem testForLoop_ends_iff (repeated : chan.repeats = 1) (shift : Nat) :
    (∃ rounds next, TestForLoop rounds shift chan = some next ∧ Inside next) ↔
      (chan.runtime.double_totlength_shifted < chan.runtime.sampcnt + chan.runtime.sampinc →
        loopPoint chan shift < chan.runtime.double_totlength_shifted) := by
  by_cases past : chan.runtime.double_totlength_shifted <
      chan.runtime.sampcnt + chan.runtime.sampinc
  · simp only [testForLoop_past past repeated,past,forall_const]
    exact looped_ends_iff (fun _ inside _ => inside) past
  · have ends : Inside (chan.moved (chan.runtime.sampcnt + chan.runtime.sampinc)) :=
      fun _ => not_lt.mp past
    refine iff_of_true ⟨0,_,testForLoop_inside past,ends⟩ ?_
    exact fun impossible => absurd impossible past

theorem testForLoop2_ends_iff (mem : SampleMemory) (repeated : chan.repeats = 1)
    (adpcm : chan.format = 2) :
    (∃ rounds next, TestForLoop2 mem rounds chan = some next ∧ Inside next) ↔
      (GoesPast chan → loopPoint chan 3 < chan.runtime.double_totlength_shifted) := by
  by_cases short : chan.runtime.totlength < 4
  · have stays : Inside chan := fun advances => absurd short (advances adpcm)
    refine iff_of_true ⟨0,chan,testForLoop2_short short,stays⟩ ?_
    exact fun past => absurd short (past.1 adpcm)
  by_cases past : chan.runtime.double_totlength_shifted <
      chan.runtime.sampcnt + chan.runtime.sampinc
  · have goes : GoesPast chan := ⟨fun _ => short, past⟩
    simp only [testForLoop2_past short past repeated,goes,forall_const]
    exact looped_ends_iff (fun _ inside => restart_inside fun _ => inside) past
  · have ends : Inside (chan.moved (chan.runtime.sampcnt + chan.runtime.sampinc)) :=
      fun _ => not_lt.mp past
    refine iff_of_true ⟨0,_,testForLoop2_inside short past,ends⟩ ?_
    exact fun impossible => absurd impossible.2 past

theorem advance_ends_iff (mem : SampleMemory) (sampled : chan.format ≠ 3)
    (repeated : chan.repeats = 1) :
    (∃ rounds next, advance mem rounds chan = some next ∧ Inside next) ↔
      (GoesPast chan → LoopsForward chan) := by
  unfold advance LoopsForward
  by_cases eight : chan.format = 0
  · have advances : Advances chan := fun adpcm => absurd (eight.symm.trans adpcm) (by decide)
    simp only [eight,if_true,GoesPast,advances,true_and]
    exact testForLoop_ends_iff repeated 2
  by_cases sixteen : chan.format = 1
  · have advances : Advances chan := fun adpcm => absurd (sixteen.symm.trans adpcm) (by decide)
    simp only [sixteen,GoesPast,advances,true_and]
    exact testForLoop_ends_iff repeated 1
  have adpcm : chan.format = 2 := by
    revert sampled eight sixteen
    generalize chan.format = fmt
    revert fmt
    decide
  simp only [if_neg eight,if_neg sixteen,if_pos adpcm]
  rw [adpcm]
  exact testForLoop2_ends_iff mem repeated adpcm

variable {after : Channel Runtime}

theorem goesPast_fetched (same : Fetched chan after) : GoesPast after ↔ GoesPast chan := by
  obtain ⟨regs,pos⟩ := same
  have fmt := congrArg Channel.format regs
  change after.format = chan.format at fmt
  unfold GoesPast Advances
  rw [fmt,pos.totlength,pos.total,pos.sampcnt,pos.sampinc]

theorem loopsForward_fetched (same : Fetched chan after) :
    LoopsForward after ↔ LoopsForward chan := by
  obtain ⟨regs,pos⟩ := same
  have fmt := congrArg Channel.format regs
  have loopstart := congrArg Channel.loopstart regs
  change after.format = chan.format at fmt
  change after.loopstart = chan.loopstart at loopstart
  unfold LoopsForward loopPoint
  rw [fmt,loopstart,pos.total]

end

section

variable (beyond : Beyond) (num : Fin 16)

structure Repeats (chan : Channel Runtime) (event : Event) (mem : SampleMemory)
    (mixed : Bool) : Prop where
  mix : event = .mix mem mixed
  playing : chan.status = CHANSTAT_PLAY
  sampled : chan.format ≠ 3
  repeated : chan.repeats = 1

variable (chan : Channel Runtime) (event : Event)

def LoopEnds : Prop :=
  ∀ mem mixed, Repeats chan event mem mixed →
    ∃ rounds data next, ChanUpdate mem beyond rounds num mixed chan = some (data, next) ∧
      Inside next

def StartsBefore : Prop :=
  ∀ mem mixed, Repeats chan event mem mixed → GoesPast chan → LoopsForward chan

variable {beyond num}

theorem chanUpdate_playing {chan : Channel Runtime} (playing : chan.status = CHANSTAT_PLAY)
    (mem : SampleMemory) (mixed : Bool) :
    ∃ data after, Fetched chan after ∧ ∀ rounds,
      ChanUpdate mem beyond rounds num mixed chan =
        (advance mem rounds after).map fun next => (data, next) := by
  unfold ChanUpdate
  cases mixed with
  | false => exact ⟨0,chan,.refl chan,fun _ => if_neg (not_not.mpr playing)⟩
  | true =>
      exact ⟨_,_,fetch_fetched mem beyond num chan,fun _ => if_neg (not_not.mpr playing)⟩

theorem loopEnds_iff : LoopEnds beyond num chan event ↔ StartsBefore chan event := by
  unfold LoopEnds StartsBefore
  refine forall_congr' fun mem => forall_congr' fun mixed => forall_congr' fun repeating => ?_
  obtain ⟨-,playing,sampled,repeated⟩ := repeating
  obtain ⟨data,after,same,updated⟩ := @chanUpdate_playing beyond num chan playing mem mixed
  rw [← goesPast_fetched same,← loopsForward_fetched same]
  have fmt := congrArg Channel.format same.registers
  have repeats := congrArg Channel.repeats same.registers
  change after.format = chan.format at fmt
  change after.repeats = chan.repeats at repeats
  rw [← advance_ends_iff mem (by rwa [fmt]) (by rwa [repeats])]
  constructor
  · rintro ⟨rounds,data',next,moved,inside⟩
    rw [updated rounds] at moved
    obtain ⟨next,advanced,same⟩ := Option.map_eq_some_iff.mp moved
    cases same
    exact ⟨rounds,next,advanced,inside⟩
  · rintro ⟨rounds,next,advanced,inside⟩
    refine ⟨rounds,data,next,?_,inside⟩
    rw [updated rounds,advanced]
    rfl

/-- In every run the loops end, with positions that are not above the end,
exactly when those that are entered find the loop start before the end. -/
theorem sample_loops_end_iff (beyond : Beyond) (num : Fin 16) (chan : Channel Runtime)
    (events : List Event) :
    Along (Event.step beyond num) (LoopEnds beyond num) chan events ↔
      Along (Event.step beyond num) StartsBefore chan events :=
  along_congr loopEnds_iff chan events

end

def emptyLoop : Channel Runtime := { adpcmChannel with format := 0, loopstart := 1, length := 0 }

/-- The first step after the key does not end. -/
theorem sample_loop_stuck :
    ¬Along (Event.step nothingBeyond 0) (LoopEnds nothingBeyond 0) emptyLoop
      [.keyOn (sameBytes 0),.mix (sameBytes 0) true] := by
  intro along
  have ends := (along.2 (emptyLoop.keyedOn (sameBytes 0)) rfl).1
  rw [loopEnds_iff] at ends
  have past : GoesPast (emptyLoop.keyedOn (sameBytes 0)) :=
    ⟨fun adpcm => absurd adpcm (by decide), by decide +kernel⟩
  have forward := ends (sameBytes 0) true ⟨rfl,rfl,by decide,rfl⟩ past
  unfold LoopsForward at forward
  exact absurd forward (by decide +kernel)

end Desmume.Sound
