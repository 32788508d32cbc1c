/-
What happens to a channel: its registers are written, it is keyed on and off,
and it is mixed.

A write to the sound registers is, for each channel, a run of such events
without mixing. The registers of a channel are taken to change in any way.
-/

import Desmume.Lib.PartialRun
import Desmume.Sound.Mixing

namespace Desmume
namespace Sound

def Channel.registers {R : Type} (chan : Channel R) : Channel Unit := { chan with runtime := () }

def Channel.withRegisters {R : Type} (chan : Channel R) (regs : Channel Unit) : Channel R :=
  { regs with status := chan.status, runtime := chan.runtime }

/-- `adjust_channel_timer`. -/
def Channel.retimed (chan : Channel Runtime) : Channel Runtime :=
  { chan with runtime := { chan.runtime with sampinc := increment chan.timer } }

/-- `KeyOn` on its channel. -/
def Channel.keyedOn (mem : SampleMemory) (chan : Channel Runtime) : Channel Runtime :=
  let totlength := chan.length + chan.loopstart.setWidth 32
  let silent := chan.format ≠ 3 ∧ totlength <<< format_shift chan.format = 0
  { chan with
    status := if silent then CHANSTAT_STOPPED else CHANSTAT_PLAY
    runtime := keyOnRuntime mem chan }

inductive Event
  | rewrite (regs : Channel Unit)
  | adjust
  | keyOn (mem : SampleMemory)
  | keyOff
  | mix (mem : SampleMemory) (mixed : Bool)

section

variable (beyond : Beyond) (num : Fin 16)

/-- The channel after an event, if the loop of its position ends. -/
def Event.step (chan : Channel Runtime) (event : Event) (next : Channel Runtime) : Prop :=
  match event with
  | .rewrite regs => next = chan.withRegisters regs
  | .adjust => next = chan.retimed
  | .keyOn mem => next = chan.keyedOn mem
  | .keyOff => next = chan.ended
  | .mix mem mixed =>
      ∃ rounds data, ChanUpdate mem beyond rounds num mixed chan = some (data, next)

end

structure SamePosition (run after : Runtime) : Prop where
  totlength : after.totlength = run.totlength
  total : after.double_totlength_shifted = run.double_totlength_shifted
  sampcnt : after.sampcnt = run.sampcnt
  sampinc : after.sampinc = run.sampinc

theorem SamePosition.refl (run : Runtime) : SamePosition run run := ⟨rfl,rfl,rfl,rfl⟩

theorem SamePosition.trans {first second third : Runtime} (here : SamePosition first second)
    (there : SamePosition second third) : SamePosition first third :=
  ⟨there.totlength.trans here.totlength,there.total.trans here.total,
    there.sampcnt.trans here.sampcnt,there.sampinc.trans here.sampinc⟩

theorem decodeNibble_position (mem : SampleMemory) (beyond : Beyond) (addr : u32)
    (loopstart : u16) (run : Runtime) (i : u32) :
    SamePosition run (decodeNibble mem beyond addr loopstart run i) := by
  unfold decodeNibble
  dsimp only
  split <;> exact ⟨rfl,rfl,rfl,rfl⟩

theorem noiseRound_position (run : Runtime) : SamePosition run (noiseRound run) := by
  unfold noiseRound
  split <;> exact ⟨rfl,rfl,rfl,rfl⟩

/-- The property survives each part of a fetch: a nibble, a round of noise, and
the note of the position. -/
structure FetchKeeps (mem : SampleMemory) (beyond : Beyond) (holds : Runtime → Prop) : Prop where
  nibble : ∀ addr loopstart run i, holds run →
    holds (decodeNibble mem beyond addr loopstart run i)
  noise : ∀ run, holds run → holds (noiseRound run)
  lastsampcnt : ∀ run lastsampcnt, holds run → holds { run with lastsampcnt := lastsampcnt }

theorem foldl_keeps {step : Runtime → u32 → Runtime} {holds : Runtime → Prop}
    (keeps : ∀ run i, holds run → holds (step run i)) (positions : List u32) {run : Runtime}
    (start : holds run) : holds (positions.foldl step run) := by
  induction positions generalizing run with
  | nil => exact start
  | cons i rest ih => exact ih (keeps run i start)

section

variable {mem : SampleMemory} {beyond : Beyond} {holds : Runtime → Prop}
  {chan : Channel Runtime}

theorem FetchKeeps.adpcm (keeps : FetchKeeps mem beyond holds) (start : holds chan.runtime) :
    holds (FetchADPCMData mem beyond chan).2.runtime := by
  unfold FetchADPCMData
  dsimp only
  split
  · exact start
  · exact keeps.lastsampcnt _ _
      (foldl_keeps (keeps.nibble chan.addr chan.loopstart) (toDecode chan.runtime) start)

theorem FetchKeeps.psg (keeps : FetchKeeps mem beyond holds) (num : Fin 16)
    (start : holds chan.runtime) : holds (FetchPSGData num chan).2.runtime := by
  unfold FetchPSGData
  dsimp only
  split
  · exact start
  split
  · exact start
  split
  · exact start
  split
  · exact start
  · exact keeps.lastsampcnt _ _ (foldl_keeps (fun run _ => keeps.noise run)
      (upTo chan.runtime.lastsampcnt (sputrunc chan.runtime.sampcnt)) start)

theorem FetchKeeps.fetch (keeps : FetchKeeps mem beyond holds) (num : Fin 16)
    (start : holds chan.runtime) : holds (fetch mem beyond num chan).2.runtime := by
  unfold Sound.fetch
  split
  · exact start
  split
  · exact start
  split
  · exact keeps.adpcm start
  · exact keeps.psg num start

end

theorem position_kept (mem : SampleMemory) (beyond : Beyond) (run : Runtime) :
    FetchKeeps mem beyond (SamePosition run) where
  nibble addr loopstart _ i same :=
    same.trans (decodeNibble_position mem beyond addr loopstart _ i)
  noise _ same := same.trans (noiseRound_position _)
  lastsampcnt _ _ same := ⟨same.totlength,same.total,same.sampcnt,same.sampinc⟩

structure Fetched (chan after : Channel Runtime) : Prop where
  registers : after.registers = chan.registers
  position : SamePosition chan.runtime after.runtime

theorem Fetched.refl (chan : Channel Runtime) : Fetched chan chan := ⟨rfl,.refl _⟩

theorem fetch_registers (mem : SampleMemory) (beyond : Beyond) (num : Fin 16)
    (chan : Channel Runtime) : (fetch mem beyond num chan).2.registers = chan.registers := by
  unfold fetch FetchADPCMData FetchPSGData
  dsimp only
  split_ifs <;> rfl

theorem fetch_fetched (mem : SampleMemory) (beyond : Beyond) (num : Fin 16)
    (chan : Channel Runtime) : Fetched chan (fetch mem beyond num chan).2 :=
  ⟨fetch_registers mem beyond num chan,
    (position_kept mem beyond chan.runtime).fetch num (.refl _)⟩

theorem fetch_adpcm (mem : SampleMemory) (beyond : Beyond) (num : Fin 16)
    {chan : Channel Runtime} (adpcm : chan.format = 2) :
    fetch mem beyond num chan = FetchADPCMData mem beyond chan := by
  unfold fetch
  rw [if_neg (by rw [adpcm]; decide),if_neg (by rw [adpcm]; decide),if_pos adpcm]

theorem stopped_ne_play : CHANSTAT_STOPPED ≠ CHANSTAT_PLAY := by decide

def Channel.standing (chan : Channel Runtime) : Channel Unit :=
  { chan with status := CHANSTAT_STOPPED, runtime := () }

section

variable {mem : SampleMemory} {rounds : Nat} {chan next : Channel Runtime}

theorem Fetched.standing {after : Channel Runtime} (same : Fetched chan after) :
    after.standing = chan.standing :=
  congrArg (fun regs => { regs with status := CHANSTAT_STOPPED }) same.registers

theorem advance_adpcm (adpcm : chan.format = 2) :
    advance mem rounds chan = TestForLoop2 mem rounds chan := by
  unfold advance
  rw [if_neg (by rw [adpcm]; decide),if_neg (by rw [adpcm]; decide),if_pos adpcm]

structure Loops (chan : Channel Runtime) : Prop where
  adpcm : chan.format = 2
  long : ¬chan.runtime.totlength < 4
  past : chan.runtime.double_totlength_shifted < chan.runtime.sampcnt + chan.runtime.sampinc
  repeated : chan.repeats = 1

theorem testForLoop_cases {shift : Nat} (looped : TestForLoop rounds shift chan = some next) :
    ∃ sampcnt, next = chan.moved sampcnt ∨ next = (chan.moved sampcnt).ended := by
  unfold TestForLoop at looped
  dsimp only at looped
  split at looped
  · split at looped
    · obtain ⟨sampcnt,-,rfl⟩ := Option.map_eq_some_iff.mp looped
      exact ⟨sampcnt,.inl rfl⟩
    · cases looped
      exact ⟨_,.inr rfl⟩
  · cases looped
    exact ⟨_,.inl rfl⟩

theorem advance_cases (moved : advance mem rounds chan = some next) :
    ∃ sampcnt, next = chan.moved sampcnt ∨ next = (chan.moved sampcnt).ended ∨
      next = restart mem (chan.moved sampcnt) ∧ Loops chan := by
  unfold advance at moved
  split at moved
  · obtain ⟨sampcnt,outcome⟩ := testForLoop_cases moved
    exact ⟨sampcnt,outcome.imp_right .inl⟩
  split at moved
  · obtain ⟨sampcnt,outcome⟩ := testForLoop_cases moved
    exact ⟨sampcnt,outcome.imp_right .inl⟩
  split at moved
  · next adpcm =>
    unfold TestForLoop2 at moved
    dsimp only at moved
    split at moved
    · cases moved
      exact ⟨chan.runtime.sampcnt,.inl rfl⟩
    · next long =>
      split at moved
      · next past =>
        split at moved
        · next repeated =>
          obtain ⟨sampcnt,-,rfl⟩ := Option.map_eq_some_iff.mp moved
          exact ⟨sampcnt,.inr (.inr ⟨rfl,adpcm,long,past,repeated⟩)⟩
        · cases moved
          exact ⟨_,.inr (.inl rfl)⟩
      · cases moved
        exact ⟨_,.inl rfl⟩
  · cases moved
    exact ⟨_,.inl rfl⟩

theorem restart_registers (chan : Channel Runtime) :
    (restart mem chan).registers = chan.registers := by
  unfold restart
  dsimp only
  split <;> rfl

theorem restart_position (chan : Channel Runtime) :
    SamePosition chan.runtime (restart mem chan).runtime := by
  unfold restart
  dsimp only
  split <;> exact ⟨rfl,rfl,rfl,rfl⟩

theorem advance_standing (moved : advance mem rounds chan = some next) :
    next.standing = chan.standing := by
  obtain ⟨sampcnt,rfl | rfl | ⟨rfl,-⟩⟩ := advance_cases moved
  · rfl
  · rfl
  · exact congrArg (fun regs => { regs with status := CHANSTAT_STOPPED })
      (@restart_registers mem (chan.moved sampcnt))

end

inductive Written (mem : SampleMemory) : Channel Runtime → Channel Runtime → Prop
  | refl (chan : Channel Runtime) : Written mem chan chan
  | rewrite {chan next : Channel Runtime} (before : Written mem chan next)
      (regs : Channel Unit) : Written mem chan (next.withRegisters regs)
  | adjust {chan next : Channel Runtime} (before : Written mem chan next) :
      Written mem chan next.retimed
  | keyOn {chan next : Channel Runtime} (before : Written mem chan next) :
      Written mem chan (next.keyedOn mem)
  | keyOff {chan next : Channel Runtime} (before : Written mem chan next) :
      Written mem chan next.ended

theorem Written.trans {mem : SampleMemory} {first second third : Channel Runtime}
    (before : Written mem first second) (behind : Written mem second third) :
    Written mem first third := by
  induction behind with
  | refl => exact before
  | rewrite _ regs ih => exact ih.rewrite regs
  | adjust _ ih => exact ih.adjust
  | keyOn _ ih => exact ih.keyOn
  | keyOff _ ih => exact ih.keyOff

section

variable {F : Type} {mem : SampleMemory} {resetCapture : F → F}

structure AllWritten (mem : SampleMemory) (before after : SPU Runtime F) : Prop where
  channel : ∀ num, Written mem (before.channels num) (after.channels num)

theorem AllWritten.refl (spu : SPU Runtime F) : AllWritten mem spu spu := ⟨fun _ => .refl _⟩

theorem AllWritten.same {spu after : SPU Runtime F} (same : after.channels = spu.channels) :
    AllWritten mem spu after := by
  constructor
  intro channel
  rw [same]
  exact .refl _

theorem AllWritten.trans {first second third : SPU Runtime F}
    (before : AllWritten mem first second) (behind : AllWritten mem second third) :
    AllWritten mem first third :=
  ⟨fun num => (before.channel num).trans (behind.channel num)⟩

theorem AllWritten.ite {spu first second : SPU Runtime F} {test : Prop} [Decidable test]
    (here : AllWritten mem spu first) (there : AllWritten mem spu second) :
    AllWritten mem spu (if test then first else second) := by
  split
  · exact here
  · exact there

theorem AllWritten.setChannel {spu : SPU Runtime F} {chan_num : Fin 16}
    {thischan : Channel Runtime} (written : Written mem (spu.channels chan_num) thischan) :
    AllWritten mem spu (spu.setChannel chan_num thischan) := by
  constructor
  intro channel
  unfold SPU.setChannel
  by_cases same : channel = chan_num
  · subst same
    dsimp only
    rw [Function.update_self]
    exact written
  · dsimp only
    rw [Function.update_of_ne same]
    exact .refl _

theorem Written.registers {chan after : Channel Runtime} (status : after.status = chan.status)
    (runtime : after.runtime = chan.runtime) : Written mem chan after := by
  have same : after = chan.withRegisters after.registers := by
    unfold Channel.withRegisters Channel.registers
    rw [← status,← runtime]
  rw [same]
  exact .rewrite (.refl chan) _

variable (m : Machine Runtime F) (addr : u32)

end

/-! ### A channel before its first key -/

def Runtime.initial : Runtime where
  totlength := 0
  double_totlength_shifted := 0
  sampcnt := 0
  sampinc := 0
  lastsampcnt := 0
  pcm16b := 0
  pcm16b_last := 0
  loop_pcm16b := 0
  index := 0
  loop_index := 0
  x := 0
  psgnoise_last := 0

def adpcmChannel : Channel Runtime where
  vol := 0
  volumeDiv := 0
  hold := 0
  pan := 0
  waveduty := 0
  repeats := 1
  format := 2
  keyon := 1
  status := CHANSTAT_STOPPED
  addr := 0x02000000
  timer := 0xFFFF
  loopstart := 0
  length := 256
  runtime := Runtime.initial

def sameBytes (val : u8) : SampleMemory := ⟨fun _ => val, fun _ => val.setWidth 16⟩

def nothingBeyond : Beyond := ⟨fun _ _ => 0, fun _ _ => 0⟩

end Sound
end Desmume

namespace Desmume
namespace Sound

def volume_shift : BitVec 2 → Nat
  | 0 => 0
  | 1 => 1
  | 2 => 2
  | _ => 4

def spumuldiv7 (val : Int) (multiplier : BitVec 7) : Int :=
  if multiplier = 127 then val else (val * multiplier.toNat) >>> 7

/-- `MixL`, `MixR` or `MixLR`. -/
def SPU_Mix {R : Type} (chan : Channel R) (data : Int) : Int × Int :=
  let data := spumuldiv7 data chan.vol >>> volume_shift chan.volumeDiv
  if chan.pan = 0 then (data, 0)
  else if chan.pan = 127 then (0, data)
  else (spumuldiv7 data (127 - chan.pan), spumuldiv7 data chan.pan)

structure MixHost where
  actuallyMix : Bool
  spu_muteChannels : Fin 16 → Bool
  /-- Bit 0 of the word at 0x304. -/
  speakers : Bool
  /-- How many rounds the loops back to a loop start may take. -/
  rounds : Nat

section

variable {F : Type} (mem : SampleMemory) (beyond : Beyond)

def SPU_ChanUpdate (rounds : Nat) (actuallyMix : Bool) (num : Fin 16) :
    Nat → Channel Runtime → Option (List Int × Channel Runtime)
  | 0, chan => some ([], chan)
  | length + 1, chan =>
      (ChanUpdate mem beyond rounds num actuallyMix chan).bind fun (data, chan) =>
        (SPU_ChanUpdate rounds actuallyMix num length chan).map fun (rest, chan) =>
          (data :: rest, chan)

variable (host : MixHost)

def mixChannel (length : Nat) (mixing : List (Int × Int) × SPU Runtime F)
    (i : Fin 16) : Option (List (Int × Int) × SPU Runtime F) :=
  let (sndbuf, spu) := mixing
  let chan := spu.channels i
  if chan.status ≠ CHANSTAT_PLAY then some (sndbuf, spu)
  else
    (SPU_ChanUpdate mem beyond host.rounds (!host.spu_muteChannels i && host.actuallyMix) i
      length chan).map fun (data, next) =>
        (List.zipWith (· + ·) sndbuf (data.map (SPU_Mix chan)), spu.setChannel i next)

def outsample (vol : BitVec 7) (sample : Int) : Int :=
  MinMax (spumuldiv7 sample vol) (-0x8000) 0x7FFF

/-- `SPU_MixAudio`, with the pairs of samples that it writes to `outbuf`. -/
def SPU_MixAudio (length : Nat) (spu : SPU Runtime F) : Option (List (Int × Int) × SPU Runtime F) :=
  let silence := List.replicate length ((0, 0) : Int × Int)
  let cleared := if host.actuallyMix then silence else []
  if spu.masteren = 0 then some (cleared, spu)
  else
    ((List.finRange 16).foldlM (mixChannel mem beyond host length) (silence, spu)).map
      fun (sndbuf, spu) =>
        (if host.actuallyMix && host.speakers then
            sndbuf.map (Prod.map (outsample spu.mastervol) (outsample spu.mastervol))
          else cleared, spu)

/-- The number of samples of a line, a `float` in the code. -/
def samples_per_hline : ℚ := 44100 / 59.8261 / 263

/-- The core SPU with the fraction of a sample that is left over. -/
structure Core (F : Type) where
  spu : SPU Runtime F
  samples : ℚ

def SPU_Emulate_core (core : Core F) : Option (List (Int × Int) × Core F) :=
  let samples := core.samples + samples_per_hline
  let spu_core_samples := samples.floor.toNat
  (SPU_MixAudio mem beyond host spu_core_samples core.spu).map fun (outbuf, spu) =>
    (outbuf, { spu := spu, samples := samples - spu_core_samples })

def emulateLines : List MixHost → Core F → Option (List (List (Int × Int)))
  | [], _ => some []
  | host :: rest, core =>
      (SPU_Emulate_core mem beyond host core).bind fun (outbuf, core) =>
        (emulateLines rest core).map fun outbufs => outbuf :: outbufs

end

end Sound
end Desmume
