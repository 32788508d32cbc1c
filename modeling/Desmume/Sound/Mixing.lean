/-
A channel in the mixer: `KeyOn`, the fetches, `TestForLoop` and `TestForLoop2`.

Positions and increments are exact rationals where the code has doubles, and
samples are fetched without interpolation, which is the only mode that is ever
set.
-/

import Desmume.Lib.While
import Desmume.Sound.Registers
import Mathlib.Algebra.Order.Ring.Rat

namespace Desmume.Sound

def K_ADPCM_LOOPING_RECOVERY_INDEX : u32 := 99999

/-- What the mixer keeps of a channel. -/
structure Runtime where
  totlength : u32
  double_totlength_shifted : ℚ
  sampcnt : ℚ
  sampinc : ℚ
  lastsampcnt : u32
  pcm16b : Int
  pcm16b_last : Int
  loop_pcm16b : Int
  index : u32
  loop_index : u32
  x : u16
  psgnoise_last : Int

/-- `_MMU_read08` and `_MMU_read16` of the ARM7. -/
structure SampleMemory where
  read08 : u32 → u8
  read16 : u32 → u16

/-- What lies behind the two ADPCM tables. -/
structure Beyond where
  diff : u32 → u32 → Int
  index : u32 → u32 → u8

/-- `(u32)d`. -/
def sputrunc (d : ℚ) : u32 := BitVec.ofInt 32 d.floor

def MinMax (val min max : Int) : Int := if val < min then min else if max < val then max else val

def adpcmtbl : List Nat :=
  [0x0007,0x0008,0x0009,0x000A,0x000B,0x000C,0x000D,0x000E,0x0010,
    0x0011,0x0013,0x0015,0x0017,0x0019,0x001C,0x001F,0x0022,0x0025,
    0x0029,0x002D,0x0032,0x0037,0x003C,0x0042,0x0049,0x0050,0x0058,
    0x0061,0x006B,0x0076,0x0082,0x008F,0x009D,0x00AD,0x00BE,0x00D1,
    0x00E6,0x00FD,0x0117,0x0133,0x0151,0x0173,0x0198,0x01C1,0x01EE,
    0x0220,0x0256,0x0292,0x02D4,0x031C,0x036C,0x03C3,0x0424,0x048E,
    0x0502,0x0583,0x0610,0x06AB,0x0756,0x0812,0x08E0,0x09C3,0x0ABD,
    0x0BD0,0x0CFF,0x0E4C,0x0FBA,0x114C,0x1307,0x14EE,0x1706,0x1954,
    0x1BDC,0x1EA5,0x21B6,0x2515,0x28CA,0x2CDF,0x315B,0x364B,0x3BB9,
    0x41B2,0x4844,0x4F7E,0x5771,0x602F,0x69CE,0x7462,0x7FFF]

def indextbl : List Int := [-1,-1,-1,-1,2,4,6,8]

def precalcdifftbl (beyond : Beyond) (j i : u32) : Int :=
  match adpcmtbl[j.toNat]? with
  | some step =>
      let diff : Int := ((((i &&& 0x7) * 2 + 1).toNat * step / 8 : Nat) : Int)
      if i &&& 0x8 ≠ 0 then -diff else diff
  | none => beyond.diff j i

def precalcindextbl (beyond : Beyond) (j i : u32) : u32 :=
  if j.toNat < 89 then BitVec.ofInt 32 (MinMax (j.toNat + indextbl.getD i.toNat 0) 0 88)
  else (beyond.index j i).setWidth 32

def wavedutytbl (waveduty : BitVec 3) (phase : u32) : Int :=
  if waveduty = 7 then -0x7FFF
  else if 7 ≤ waveduty.toNat + phase.toNat then 0x7FFF
  else -0x7FFF

/-- `adjust_channel_timer`, at 44100 samples a second. -/
def increment (timer : u16) : ℚ := 33513982 / (44100 * 2) / (0x10000 - timer.toNat : ℚ)

/-- What `KeyOn` computes for the mixer. -/
def keyOnRuntime (mem : SampleMemory) (thischan : Channel Runtime) : Runtime :=
  let totlength := thischan.length + thischan.loopstart.setWidth 32
  let started : Runtime :=
    { thischan.runtime with totlength := totlength, sampinc := increment thischan.timer }
  let started :=
    if thischan.format = 2 then
      let pcm16b := (mem.read16 thischan.addr).toInt
      { started with
        pcm16b := pcm16b
        pcm16b_last := pcm16b
        index := (mem.read08 (thischan.addr + 2) &&& 0x7F).setWidth 32
        lastsampcnt := 7
        sampcnt := -3
        loop_index := K_ADPCM_LOOPING_RECOVERY_INDEX }
    else if thischan.format = 3 then { started with sampcnt := -1, x := 0x7FFF }
    else { started with sampcnt := -3 }
  { started with
    double_totlength_shifted := ((totlength <<< format_shift thischan.format).toNat : ℚ) }

def mixerEnv {F : Type} (mem : SampleMemory) (resetCapture : F → F) : Env Runtime F where
  adjust_channel_timer timer run := { run with sampinc := increment timer }
  keyOn := keyOnRuntime mem
  resetCapture := resetCapture

/-- The `u32` values of a loop from `first` on. -/
def upTo (first endExclusive : u32) : List u32 :=
  (List.range (endExclusive.toNat - first.toNat)).map fun k => first + BitVec.ofNat 32 k

section

variable (mem : SampleMemory) (beyond : Beyond)

variable (chan : Channel Runtime)

def Fetch8BitData : Int :=
  if chan.runtime.sampcnt < 0 then 0
  else (mem.read08 (chan.addr + sputrunc chan.runtime.sampcnt)).toInt * 2 ^ 8

def Fetch16BitData : Int :=
  if chan.runtime.sampcnt < 0 then 0
  else (mem.read16 (chan.addr + sputrunc chan.runtime.sampcnt * 2)).toInt

def nibble (addr i : u32) : u32 :=
  (mem.read08 (addr + (i >>> 1))).setWidth 32 >>> ((i &&& 1) <<< 2)

/-- One round of the loop of `FetchADPCMData`. -/
def decodeNibble (addr : u32) (loopstart : u16) (run : Runtime) (i : u32) : Runtime :=
  let data4bit := nibble mem addr i
  let diff := precalcdifftbl beyond run.index (data4bit &&& 0xF)
  let run :=
    { run with
      index := precalcindextbl beyond run.index (data4bit &&& 0x7)
      pcm16b_last := run.pcm16b
      pcm16b := MinMax (run.pcm16b + diff) (-0x8000) 0x7FFF }
  if i = loopstart.setWidth 32 <<< 3 then
    { run with loop_pcm16b := run.pcm16b, loop_index := run.index }
  else run

/-- The positions that `FetchADPCMData` decodes. -/
def toDecode (run : Runtime) : List u32 :=
  if run.sampcnt < 8 ∨ run.lastsampcnt = sputrunc run.sampcnt then []
  else upTo (run.lastsampcnt + 1) (sputrunc (run.sampcnt + 1))

def FetchADPCMData : Int × Channel Runtime :=
  let run := chan.runtime
  if run.sampcnt < 8 then (0, chan)
  else
    let run := (toDecode run).foldl (decodeNibble mem beyond chan.addr chan.loopstart) run
    let run := { run with lastsampcnt := sputrunc run.sampcnt }
    (run.pcm16b, { chan with runtime := run })

def noiseRound (run : Runtime) : Runtime :=
  if run.x &&& 1 ≠ 0 then { run with x := (run.x >>> 1) ^^^ 0x6000, psgnoise_last := -0x7FFF }
  else { run with x := run.x >>> 1, psgnoise_last := 0x7FFF }

def FetchPSGData (num : Fin 16) (chan : Channel Runtime) : Int × Channel Runtime :=
  let run := chan.runtime
  if run.sampcnt < 0 then (0, chan)
  else if num.val < 8 then (0, chan)
  else if num.val < 14 then (wavedutytbl chan.waveduty (sputrunc run.sampcnt &&& 0x7), chan)
  else if run.lastsampcnt = sputrunc run.sampcnt then (run.psgnoise_last, chan)
  else
    let max := sputrunc run.sampcnt
    let run := (upTo run.lastsampcnt max).foldl (fun run _ => noiseRound run) run
    let run := { run with lastsampcnt := max }
    (run.psgnoise_last, { chan with runtime := run })

def fetch (num : Fin 16) (chan : Channel Runtime) : Int × Channel Runtime :=
  if chan.format = 0 then (Fetch8BitData mem chan, chan)
  else if chan.format = 1 then (Fetch16BitData mem chan, chan)
  else if chan.format = 2 then FetchADPCMData mem beyond chan
  else FetchPSGData num chan

end

/-- `while (sampcnt > total) sampcnt -= step`. -/
def loopRound (total step sampcnt : ℚ) : Except ℚ ℚ :=
  if total < sampcnt then .ok (sampcnt - step) else .error sampcnt

def loopBack (rounds : Nat) (total step sampcnt : ℚ) : Option ℚ :=
  While.leftWith (While.after (loopRound total step) rounds sampcnt)

variable (chan : Channel Runtime)

/-- `(double)(chan->loopstart << shift)`. -/
def loopPoint (shift : Nat) : ℚ := (chan.loopstart.toNat * 2 ^ shift : Nat)

def Channel.moved (sampcnt : ℚ) : Channel Runtime :=
  { chan with runtime := { chan.runtime with sampcnt := sampcnt } }

/-- `SPU->KeyOff`, and no more samples of this buffer. -/
def Channel.ended : Channel Runtime :=
  { chan with status := CHANSTAT_STOPPED }

section

variable (mem : SampleMemory) (rounds : Nat)

def TestForLoop (shift : Nat) (chan : Channel Runtime) : Option (Channel Runtime) :=
  let chan := chan.moved (chan.runtime.sampcnt + chan.runtime.sampinc)
  let total := chan.runtime.double_totlength_shifted
  if total < chan.runtime.sampcnt then
    if chan.repeats = 1 then
      (loopBack rounds total (total - loopPoint chan shift) chan.runtime.sampcnt).map chan.moved
    else some chan.ended
  else some chan

variable (chan : Channel Runtime)

def restart : Channel Runtime :=
  let run := chan.runtime
  if run.loop_index = K_ADPCM_LOOPING_RECOVERY_INDEX then
    { chan with
      runtime :=
        { run with
          pcm16b := (mem.read16 chan.addr).toInt
          index := (mem.read08 (chan.addr + 2) &&& 0x7F).setWidth 32
          lastsampcnt := 7 } }
  else
    { chan with
      runtime :=
        { run with
          pcm16b := run.loop_pcm16b
          index := run.loop_index
          lastsampcnt := chan.loopstart.setWidth 32 <<< 3 } }

def TestForLoop2 : Option (Channel Runtime) :=
  if chan.runtime.totlength < 4 then some chan
  else
    let chan := chan.moved (chan.runtime.sampcnt + chan.runtime.sampinc)
    let total := chan.runtime.double_totlength_shifted
    if total < chan.runtime.sampcnt then
      if chan.repeats = 1 then
        (loopBack rounds total (total - loopPoint chan 3) chan.runtime.sampcnt).map fun sampcnt =>
          restart mem (chan.moved sampcnt)
      else some chan.ended
    else some chan

def advance : Option (Channel Runtime) :=
  if chan.format = 0 then TestForLoop rounds 2 chan
  else if chan.format = 1 then TestForLoop rounds 1 chan
  else if chan.format = 2 then TestForLoop2 mem rounds chan
  else some (chan.moved (chan.runtime.sampcnt + chan.runtime.sampinc))

end

/-- One sample of a channel; `mixed` is false where the mixer only advances. -/
def ChanUpdate (mem : SampleMemory) (beyond : Beyond) (rounds : Nat) (num : Fin 16)
    (mixed : Bool) (chan : Channel Runtime) : Option (Int × Channel Runtime) :=
  if chan.status ≠ CHANSTAT_PLAY then some (0, chan)
  else
    let (data, chan) := if mixed then fetch mem beyond num chan else (0, chan)
    (advance mem rounds chan).map fun chan => (data, chan)

end Desmume.Sound
