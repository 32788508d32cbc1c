/-
The savestate of the sound unit: `spu_savestate` and `spu_loadstate`.

The number of a channel is its index, and is read and dropped. A byte that holds
a field is cut to the width of the field.
-/

import Desmume.Savestate.Reader
import Desmume.Sound.ChannelRuns

namespace Desmume.Sound

open Savestate Backup

structure SPUFifo where
  buffer : Fin 16 → u16
  head : u32
  tail : u32
  size : u32

def SPUFifo.reset (fifo : SPUFifo) : SPUFifo := { fifo with head := 0, tail := 0, size := 0 }

structure CapRuntime where
  sampcnt : ℚ
  fifo : SPUFifo

/-- The end of `ProbeCapture`. -/
def resetCapture (run : CapRuntime) : CapRuntime := { sampcnt := 0, fifo := run.fifo.reset }

/-- The bits of a double. -/
structure Doubles where
  double_to_u64 : ℚ → u64
  u64_to_double : u64 → ℚ

def Doubles.Exact (doubles : Doubles) (d : ℚ) : Prop :=
  doubles.u64_to_double (doubles.double_to_u64 d) = d

def fieldByte {width : Nat} (field : BitVec width) : u8 := field.setWidth 8

/-- The word of an `s16`. -/
def sampleWord (val : Int) : u16 := BitVec.ofInt 16 val

section

variable (doubles : Doubles)

def saveChannel (num : Fin 16) (chan : Channel Runtime) : List u8 :=
  OSWRITE (BitVec.ofNat 32 num.val) ++ OSWRITE (fieldByte chan.vol) ++
    OSWRITE (fieldByte chan.volumeDiv) ++ OSWRITE (fieldByte chan.hold) ++
    OSWRITE (fieldByte chan.pan) ++ OSWRITE (fieldByte chan.waveduty) ++
    OSWRITE (fieldByte chan.repeats) ++ OSWRITE (fieldByte chan.format) ++
    OSWRITE chan.status ++ OSWRITE chan.addr ++ OSWRITE chan.timer ++ OSWRITE chan.loopstart ++
    OSWRITE chan.length ++ OSWRITE (doubles.double_to_u64 chan.runtime.sampcnt) ++
    OSWRITE (doubles.double_to_u64 chan.runtime.sampinc) ++ OSWRITE chan.runtime.lastsampcnt ++
    OSWRITE (sampleWord chan.runtime.pcm16b) ++ OSWRITE (sampleWord chan.runtime.pcm16b_last) ++
    OSWRITE chan.runtime.index ++ OSWRITE chan.runtime.x ++
    OSWRITE (sampleWord chan.runtime.psgnoise_last) ++ OSWRITE (fieldByte chan.keyon)

def saveControl (spu : SPU Runtime CapRuntime) : List u8 :=
  OSWRITE (fieldByte spu.mastervol) ++ OSWRITE (fieldByte spu.ctl_left) ++
    OSWRITE (fieldByte spu.ctl_right) ++ OSWRITE (fieldByte spu.ctl_ch1bypass) ++
    OSWRITE (fieldByte spu.ctl_ch3bypass) ++ OSWRITE (fieldByte spu.masteren) ++
    OSWRITE spu.soundbias

def saveCap (cap : Cap CapRuntime) : List u8 :=
  OSWRITE (fieldByte cap.add) ++ OSWRITE (fieldByte cap.source) ++
    OSWRITE (fieldByte cap.oneshot) ++ OSWRITE (fieldByte cap.bits8) ++
    OSWRITE (fieldByte cap.active) ++ OSWRITE cap.dad ++ OSWRITE cap.len ++
    OSWRITE (fieldByte cap.running) ++ OSWRITE cap.curdad ++ OSWRITE cap.maxdad ++
    OSWRITE (doubles.double_to_u64 cap.runtime.sampcnt)

def SPUFifo.save (fifo : SPUFifo) : List u8 :=
  EMUFILE.le32 1 ++ OSWRITE fifo.head ++ OSWRITE fifo.tail ++ OSWRITE fifo.size ++
    (List.finRange 16).flatMap fun i => OSWRITE (fifo.buffer i)

def spu_savestate (core : Core CapRuntime) : List u8 :=
  EMUFILE.le32 6 ++
    (List.finRange 16).flatMap (fun j => saveChannel doubles j (core.spu.channels j)) ++
    OSWRITE (doubles.double_to_u64 core.samples) ++ saveControl core.spu ++
    saveCap doubles (core.spu.cap 0) ++ saveCap doubles (core.spu.cap 1) ++
    (core.spu.cap 0).runtime.fifo.save ++ (core.spu.cap 1).runtime.fifo.save

end

def readField {width : Nat} (field : BitVec width) : StateM Stream (BitVec width) := do
  let val ← readle (fieldByte field)
  pure (val.setWidth width)

def readVolumeDiv (volumeDiv : BitVec 2) : StateM Stream (BitVec 2) := do
  let val ← readle (fieldByte volumeDiv)
  pure (if val = 4 then 3 else val.setWidth 2)

def readSample (v : Int) : StateM Stream Int := do
  let val ← readle (sampleWord v)
  pure val.toInt

/-- `reconstruct(&regs)`. The constructor leaves the sample count of a capture
unit and the buffer of its FIFO as they are. -/
def reconstruct (spu : SPU Runtime CapRuntime) : SPU Runtime CapRuntime :=
  { spu with
    mastervol := 0
    ctl_left := 0
    ctl_right := 0
    ctl_ch1bypass := 0
    ctl_ch3bypass := 0
    masteren := 0
    soundbias := 0
    cap := fun which =>
      { add := 0
        source := 0
        oneshot := 0
        bits8 := 0
        active := 0
        dad := 0
        len := 0
        running := 0
        curdad := 0
        maxdad := 0
        runtime :=
          { (spu.cap which).runtime with fifo := (spu.cap which).runtime.fifo.reset } } }

section

variable (doubles : Doubles)

def readLow (d : ℚ) : StateM Stream ℚ := do
  let bits := doubles.double_to_u64 d
  let low ← readle (bits.extractLsb' 0 32 : u32)
  pure (doubles.u64_to_double ((bits.extractLsb' 32 32 : u32) ++ low))

variable (spu : SPU Runtime CapRuntime) (version : u32)

/-- The position and the increment; the first component is `temp64`. -/
def loadPosition (temp64 : u64) (run : Runtime) : StateM Stream (u64 × ℚ × ℚ) :=
  if 2 ≤ version.toNat then do
    let pos ← readle temp64
    let increment ← readle pos
    pure (increment, doubles.u64_to_double pos, doubles.u64_to_double increment)
  else do
    let sampcnt ← readLow doubles run.sampcnt
    let sampinc ← readLow doubles run.sampinc
    pure (temp64, sampcnt, sampinc)

def loadChannel (temp64 : u64) (chan : Channel Runtime) :
    StateM Stream (u64 × Channel Runtime) := do
  let _num ← readle (0 : u32)
  let vol ← readField chan.vol
  let volumeDiv ← readVolumeDiv chan.volumeDiv
  let hold ← readField chan.hold
  let pan ← readField chan.pan
  let waveduty ← readField chan.waveduty
  let repeats ← readField chan.repeats
  let format ← readField chan.format
  let status ← readle chan.status
  let addr ← readle chan.addr
  let timer ← readle chan.timer
  let loopstart ← readle chan.loopstart
  let length ← readle chan.length
  let totlength := length + loopstart.setWidth 32
  let (temp64, sampcnt, sampinc) ← loadPosition doubles version temp64 chan.runtime
  let lastsampcnt ← readle chan.runtime.lastsampcnt
  let pcm16b ← readSample chan.runtime.pcm16b
  let pcm16b_last ← readSample chan.runtime.pcm16b_last
  let index ← readle chan.runtime.index
  let x ← readle chan.runtime.x
  let psgnoise_last ← readSample chan.runtime.psgnoise_last
  let keyon ← if 4 ≤ version.toNat then readField chan.keyon else pure chan.keyon
  pure (temp64,
    { vol, volumeDiv, hold, pan, waveduty, repeats, format, keyon, status, addr, timer, loopstart
      length
      runtime :=
        { totlength, sampcnt, sampinc, lastsampcnt, pcm16b, pcm16b_last, index, x, psgnoise_last
          double_totlength_shifted := ((totlength <<< format_shift format).toNat : ℚ)
          loop_pcm16b := chan.runtime.loop_pcm16b
          loop_index := K_ADPCM_LOOPING_RECOVERY_INDEX } })

def loadRound (st : u64 × SPU Runtime CapRuntime) (j : Fin 16) :
    StateM Stream (u64 × SPU Runtime CapRuntime) := do
  let (temp64, chan) ← loadChannel doubles version st.1 (st.2.channels j)
  pure (temp64, st.2.setChannel j chan)

def loadControl : StateM Stream (SPU Runtime CapRuntime) := do
  let mastervol ← readField spu.mastervol
  let ctl_left ← readField spu.ctl_left
  let ctl_right ← readField spu.ctl_right
  let ctl_ch1bypass ← readField spu.ctl_ch1bypass
  let ctl_ch3bypass ← readField spu.ctl_ch3bypass
  let masteren ← readField spu.masteren
  let soundbias ← readle spu.soundbias
  pure { spu with
    mastervol, ctl_left, ctl_right, ctl_ch1bypass, ctl_ch3bypass, masteren, soundbias }

/-- `junk` is in the variable of `read_double_le`. -/
def loadCap (junk : u64) (cap : Cap CapRuntime) : StateM Stream (Cap CapRuntime) := do
  let add ← readField cap.add
  let source ← readField cap.source
  let oneshot ← readField cap.oneshot
  let bits8 ← readField cap.bits8
  let active ← readField cap.active
  let dad ← readle cap.dad
  let len ← readle cap.len
  let running ← readField cap.running
  let curdad ← readle cap.curdad
  let maxdad ← readle cap.maxdad
  let sampcnt ← readle junk
  pure
    { add, source, oneshot, bits8, active, dad, len, running, curdad, maxdad
      runtime := { cap.runtime with sampcnt := doubles.u64_to_double sampcnt } }

def loadSample (buffer : Fin 16 → u16) (i : Fin 16) : StateM Stream (Fin 16 → u16) := do
  let val ← readle (buffer i)
  pure (Function.update buffer i val)

def SPUFifo.load (fifo : SPUFifo) : StateM Stream SPUFifo := do
  let (ok, _) ← readWord 0
  if ok = false then pure fifo
  else do
    let head ← readle fifo.head
    let tail ← readle fifo.tail
    let size ← readle fifo.size
    let buffer ← (List.finRange 16).foldlM loadSample fifo.buffer
    pure { head, tail, size, buffer }

def SPU.setCaps (first second : Cap CapRuntime) :
    SPU Runtime CapRuntime := { spu with cap := fun which => if which = 0 then first else second }

def Cap.withFifo (cap : Cap CapRuntime) (fifo : SPUFifo) : Cap CapRuntime :=
  { cap with runtime := { cap.runtime with fifo := fifo } }

def loadCaps (junk : u64) (spu : SPU Runtime CapRuntime) :
    StateM Stream (SPU Runtime CapRuntime) := do
  let first ← loadCap doubles junk (spu.cap 0)
  let second ← loadCap doubles junk (spu.cap 1)
  pure (spu.setCaps first second)

def loadFifos : StateM Stream (SPU Runtime CapRuntime) := do
  let first ← (spu.cap 0).runtime.fifo.load
  let second ← (spu.cap 1).runtime.fifo.load
  pure (spu.setCaps ((spu.cap 0).withFifo first) ((spu.cap 1).withFifo second))

/-- `junk` is what the variables of the function hold before they are read. -/
def spu_loadstate (ARM7_REG : IoMem) (junk : u64) (core : Core CapRuntime) :
    StateM Stream (Bool × Core CapRuntime) := do
  let (ok, version) ← readWord 0
  if ok = false then pure (false, core)
  else do
    let (temp64, spu) ←
      (List.finRange 16).foldlM (loadRound doubles version) (junk, reconstruct core.spu)
    let samples ←
      if 2 ≤ version.toNat then do
        let temp64 ← readle temp64
        pure (doubles.u64_to_double temp64)
      else pure core.samples
    let spu ← if 4 ≤ version.toNat then loadControl spu else pure spu
    let spu ← if 5 ≤ version.toNat then loadCaps doubles junk spu else pure spu
    let spu ←
      if 6 ≤ version.toNat then loadFifos spu
      else
        pure (spu.setCaps ((spu.cap 0).withFifo (spu.cap 0).runtime.fifo.reset)
          ((spu.cap 1).withFifo (spu.cap 1).runtime.fifo.reset))
    let spu :=
      if version.toNat < 4 then
        { spu with
          mastervol := (ARM7_REG 0x500).extractLsb' 0 7
          masteren := (T1ReadWord ARM7_REG 0x500).extractLsb' 15 1 }
      else spu
    pure (true, { spu, samples })

end

end Desmume.Sound
