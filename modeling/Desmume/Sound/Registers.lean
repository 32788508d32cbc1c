/-
The sound registers: `SPU_struct::ReadByte`, `ReadWord`, `ReadLong` and
`WriteByte`, `WriteWord`, `WriteLong`.

A field has the width of its mask: `(val >> s) & mask` is a run of bits of the
value, and the byte that stores the field never holds more.
-/

import Desmume.Types

namespace Desmume
namespace Sound

def CHANSTAT_STOPPED : u8 := 0
def CHANSTAT_PLAY : u8 := 1

/-- `R` is what the mixer keeps of a channel. -/
structure Channel (R : Type) where
  vol : BitVec 7
  volumeDiv : BitVec 2
  hold : BitVec 1
  pan : BitVec 7
  waveduty : BitVec 3
  repeats : BitVec 2
  format : BitVec 2
  keyon : BitVec 1
  status : u8
  addr : u32
  timer : u16
  loopstart : u16
  length : u32
  runtime : R

/-- `F` is the sample count and the FIFO of a capture unit. -/
structure Cap (F : Type) where
  add : BitVec 1
  source : BitVec 1
  oneshot : BitVec 1
  bits8 : BitVec 1
  active : BitVec 1
  dad : u32
  len : u16
  running : BitVec 1
  curdad : u32
  maxdad : u32
  runtime : F

structure SPU (R F : Type) where
  channels : Fin 16 → Channel R
  mastervol : BitVec 7
  ctl_left : BitVec 2
  ctl_right : BitVec 2
  ctl_ch1bypass : BitVec 1
  ctl_ch3bypass : BitVec 1
  masteren : BitVec 1
  soundbias : u16
  cap : Fin 2 → Cap F

/-- The float code. -/
structure Env (R F : Type) where
  adjust_channel_timer : u16 → R → R
  keyOn : Channel R → R
  resetCapture : F → F

/-- The state and the stores through pointers, byte by byte. -/
structure Machine (R F : Type) where
  spu : SPU R F
  stores : List (u32 × u8)

section

variable {R F : Type}

variable (env : Env R F) (m : Machine R F) (spu : SPU R F) (chan_num : Fin 16)
  (thischan : Channel R) (addr : u32) (host : u32 → u8) (reg : u32) (which : Fin 2) (pointer : u32)
  (val : u8)

def SPU.setChannel : SPU R F :=
  { spu with channels := Function.update spu.channels chan_num thischan }

def format_shift : BitVec 2 → Nat
  | 0 => 2
  | 1 => 1
  | 2 => 3
  | _ => 0

/-- The channel plays unless it is no PSG channel and its length, shifted in 32
bits, is zero. -/
def KeyOn (channel : Fin 16) : SPU R F :=
  let thischan := spu.channels channel
  let totlength := thischan.length + thischan.loopstart.setWidth 32
  let silent := thischan.format ≠ 3 ∧ totlength <<< format_shift thischan.format = 0
  spu.setChannel channel
    { thischan with
      status := if silent then CHANSTAT_STOPPED else CHANSTAT_PLAY
      runtime := env.keyOn thischan }

def KeyOff (channel : Fin 16) : SPU R F :=
  spu.setChannel channel { spu.channels channel with status := CHANSTAT_STOPPED }

def KeyProbe : SPU R F :=
  let thischan := spu.channels chan_num
  if thischan.status = CHANSTAT_STOPPED then
    if thischan.keyon ≠ 0 ∧ spu.masteren ≠ 0 then KeyOn env spu chan_num else spu
  else if thischan.status = CHANSTAT_PLAY then
    if thischan.keyon = 0 ∨ spu.masteren = 0 then KeyOff spu chan_num else spu
  else spu

def KeyProbeAll : SPU R F :=
  (List.finRange 16).foldl (KeyProbe env) spu

def ProbeCapture : SPU R F :=
  let cap := spu.cap which
  let len : u32 := if cap.len = 0 then 1 else cap.len.setWidth 32
  let probed :=
    if cap.active = 0 then { cap with running := 0 }
    else
      { cap with
        running := 1
        curdad := cap.dad
        maxdad := cap.dad + len * 4
        runtime := env.resetCapture cap.runtime }
  { spu with cap := Function.update spu.cap which probed }

def adjust : Channel R :=
  { thischan with runtime := env.adjust_channel_timer thischan.timer thischan.runtime }

def isChannel : Prop := addr &&& 0x0F00 = 0x0400

instance (addr : u32) : Decidable (isChannel addr) := inferInstanceAs (Decidable (_ = _))

def chanNum : Fin 16 := ⟨((addr >>> 4) &&& 0xF).toNat,by
  rw [BitVec.toNat_and]
  exact Nat.lt_succ_of_le Nat.and_le_right⟩

def Machine.setChannel (m : Machine R F) (chan_num : Fin 16) (thischan : Channel R) : Machine R F :=
  { m with spu := m.spu.setChannel chan_num thischan }

/-- `*(u8*)(pointer) = val`. -/
def Machine.store8 : Machine R F :=
  { m with stores := m.stores ++ [(pointer, val)] }

/-- `*(u16*)(pointer) = val`. -/
def Machine.store16 (val : u16) : Machine R F :=
  { m with
    stores := m.stores ++
      [(pointer, val.extractLsb' 0 8),(pointer + 1, val.extractLsb' 8 8)] }

def Machine.setCap (cap : Cap F) : Machine R F :=
  { m with spu := { m.spu with cap := Function.update m.spu.cap which cap } }

def setCapture : SPU R F :=
  ProbeCapture env
    { spu with
      cap := Function.update spu.cap which
        { spu.cap which with
          add := val.extractLsb' 0 1
          source := val.extractLsb' 1 1
          oneshot := val.extractLsb' 2 1
          bits8 := val.extractLsb' 3 1
          active := val.extractLsb' 7 1 } } which

def channelByte : Machine R F :=
  let thischan := m.spu.channels chan_num
  if reg = 0x0 then m.setChannel chan_num { thischan with vol := val.extractLsb' 0 7 }
  else if reg = 0x1 then
    m.setChannel chan_num
      { thischan with volumeDiv := val.extractLsb' 0 2, hold := val.extractLsb' 7 1 }
  else if reg = 0x2 then m.setChannel chan_num { thischan with pan := val.extractLsb' 0 7 }
  else if reg = 0x3 then
    { m with
      spu := KeyProbe env
        (m.spu.setChannel chan_num
          { thischan with
            waveduty := val.extractLsb' 0 3
            repeats := val.extractLsb' 3 2
            format := val.extractLsb' 5 2
            keyon := val.extractLsb' 7 1 }) chan_num }
  else if reg = 0x4 then m.store8 (thischan.addr + 0) (val &&& 0xFC)
  else if reg = 0x5 then m.store8 (thischan.addr + 1) val
  else if reg = 0x6 then m.store8 (thischan.addr + 2) val
  else if reg = 0x7 then m.store8 (thischan.addr + 3) (val &&& 0x07)
  else if reg = 0x8 then
    (m.store8 (thischan.timer.setWidth 32 + 0) val).setChannel chan_num
      (adjust env thischan)
  else if reg = 0x9 then
    (m.store8 (thischan.timer.setWidth 32 + 1) val).setChannel chan_num
      (adjust env thischan)
  else if reg = 0xA then m.store8 (thischan.loopstart.setWidth 32 + 0) val
  else if reg = 0xB then m.store8 (thischan.loopstart.setWidth 32 + 1) val
  else if reg = 0xC then m.store8 (thischan.length + 0) val
  else if reg = 0xD then m.store8 (thischan.length + 1) val
  else if reg = 0xE then m.store8 (thischan.length + 2) (val &&& 0x3F)
  else if reg = 0xF then m.store8 (thischan.length + 3) 0
  else m

def WriteByte : Machine R F :=
  let spu := m.spu
  if isChannel addr then channelByte env m (chanNum addr) (addr &&& 0xF) val
  else if addr = 0x500 then
    { m with spu := { spu with mastervol := val.extractLsb' 0 7 } }
  else if addr = 0x501 then
    { m with
      spu := KeyProbeAll env
        { spu with
          ctl_left := val.extractLsb' 0 2
          ctl_right := val.extractLsb' 2 2
          ctl_ch1bypass := val.extractLsb' 4 1
          ctl_ch3bypass := val.extractLsb' 5 1
          masteren := val.extractLsb' 7 1 } }
  else if addr = 0x504 then m.store8 (spu.soundbias.setWidth 32 + 0) val
  else if addr = 0x505 then m.store8 (spu.soundbias.setWidth 32 + 1) (val &&& 0x03)
  else if addr = 0x508 then { m with spu := setCapture env spu 0 val }
  else if addr = 0x509 then { m with spu := setCapture env spu 1 val }
  else if addr = 0x510 then m.store8 ((spu.cap 0).dad + 0) (val &&& 0xFC)
  else if addr = 0x511 then m.store8 ((spu.cap 0).dad + 1) val
  else if addr = 0x512 then m.store8 ((spu.cap 0).dad + 2) val
  else if addr = 0x513 then m.store8 ((spu.cap 0).dad + 3) (val &&& 0x07)
  else if addr = 0x514 then m.store8 ((spu.cap 0).len.setWidth 32 + 0) val
  else if addr = 0x515 then m.store8 ((spu.cap 0).len.setWidth 32 + 1) val
  else if addr = 0x518 then m.store8 ((spu.cap 1).dad + 0) (val &&& 0xFC)
  else if addr = 0x519 then m.store8 ((spu.cap 1).dad + 1) val
  else if addr = 0x51A then m.store8 ((spu.cap 1).dad + 2) val
  else if addr = 0x51B then m.store8 ((spu.cap 1).dad + 3) (val &&& 0x07)
  else if addr = 0x51C then m.store8 ((spu.cap 1).len.setWidth 32 + 0) val
  else if addr = 0x51D then m.store8 ((spu.cap 1).len.setWidth 32 + 1) val
  else m

def channelWord (val : u16) : Machine R F :=
  let thischan := m.spu.channels chan_num
  if reg = 0x0 then
    m.setChannel chan_num
      { thischan with
        vol := val.extractLsb' 0 7
        volumeDiv := val.extractLsb' 8 2
        hold := val.extractLsb' 15 1 }
  else if reg = 0x2 then
    { m with
      spu := KeyProbe env
        (m.spu.setChannel chan_num
          { thischan with
            pan := val.extractLsb' 0 7
            waveduty := val.extractLsb' 8 3
            repeats := val.extractLsb' 11 2
            format := val.extractLsb' 13 2
            keyon := val.extractLsb' 15 1 }) chan_num }
  else if reg = 0x4 then m.store16 (thischan.addr + 0) (val &&& 0xFFFC)
  else if reg = 0x6 then m.store16 (thischan.addr + 1) (val &&& 0x07FF)
  else if reg = 0x8 then m.setChannel chan_num (adjust env { thischan with timer := val })
  else if reg = 0xA then m.setChannel chan_num { thischan with loopstart := val }
  else if reg = 0xC then m.store16 (thischan.length + 0) val
  else if reg = 0xE then m.store16 (thischan.length + 1) (val &&& 0x003F)
  else m

def WriteWord (val : u16) : Machine R F :=
  let spu := m.spu
  if isChannel addr then channelWord env m (chanNum addr) (addr &&& 0xF) val
  else if addr = 0x500 then
    { m with
      spu := KeyProbeAll env
        { spu with
          mastervol := val.extractLsb' 0 7
          ctl_left := val.extractLsb' 8 2
          ctl_right := val.extractLsb' 10 2
          ctl_ch1bypass := val.extractLsb' 12 1
          ctl_ch3bypass := val.extractLsb' 13 1
          masteren := val.extractLsb' 15 1 } }
  else if addr = 0x504 then { m with spu := { spu with soundbias := val &&& 0x3FF } }
  else if addr = 0x508 then
    { m with
      spu := setCapture env (setCapture env spu 0 (val.extractLsb' 0 8)) 1
        (val.extractLsb' 8 8) }
  else if addr = 0x510 then m.store16 ((spu.cap 0).dad + 0) (val &&& 0xFFFC)
  else if addr = 0x512 then m.store16 ((spu.cap 0).dad + 1) (val &&& 0x7FFF)
  else if addr = 0x514 then m.setCap 0 { spu.cap 0 with len := val }
  else if addr = 0x518 then m.store16 ((spu.cap 1).dad + 0) (val &&& 0xFFFC)
  else if addr = 0x51A then m.store16 ((spu.cap 1).dad + 1) (val &&& 0x7FFF)
  else if addr = 0x51C then m.setCap 1 { spu.cap 1 with len := val }
  else m

def channelLong (val : u32) : Machine R F :=
  let thischan := m.spu.channels chan_num
  if reg = 0x0 then
    { m with
      spu := KeyProbe env
        (m.spu.setChannel chan_num
          { thischan with
            vol := val.extractLsb' 0 7
            volumeDiv := val.extractLsb' 8 2
            hold := val.extractLsb' 15 1
            pan := val.extractLsb' 16 7
            waveduty := val.extractLsb' 24 3
            repeats := val.extractLsb' 27 2
            format := val.extractLsb' 29 2
            keyon := val.extractLsb' 31 1 }) chan_num }
  else if reg = 0x4 then
    m.setChannel chan_num { thischan with addr := val &&& 0x07FFFFFC }
  else if reg = 0x8 then
    m.setChannel chan_num
      (adjust env
        { thischan with timer := val.extractLsb' 0 16, loopstart := val.extractLsb' 16 16 })
  else if reg = 0xC then
    m.setChannel chan_num { thischan with length := val &&& 0x003FFFFF }
  else m

def WriteLong (val : u32) : Machine R F :=
  let spu := m.spu
  let capture (spu : SPU R F) : SPU R F :=
    setCapture env (setCapture env spu 0 (val.extractLsb' 0 8)) 1 (val.extractLsb' 8 8)
  if isChannel addr then channelLong env m (chanNum addr) (addr &&& 0xF) val
  else if addr = 0x500 then
    { m with
      spu := KeyProbeAll env
        { spu with
          mastervol := val.extractLsb' 0 7
          ctl_left := val.extractLsb' 8 2
          ctl_right := val.extractLsb' 10 2
          ctl_ch1bypass := val.extractLsb' 12 1
          ctl_ch3bypass := val.extractLsb' 13 1
          masteren := val.extractLsb' 15 1 } }
  else if addr = 0x504 then
    -- there is no break: the capture units are written too
    { m with spu := capture { spu with soundbias := (val &&& 0x3FF).setWidth 16 } }
  else if addr = 0x508 then { m with spu := capture spu }
  else if addr = 0x510 then m.setCap 0 { spu.cap 0 with dad := val &&& 0x07FFFFFC }
  else if addr = 0x514 then m.setCap 0 { spu.cap 0 with len := (val &&& 0xFFFF).setWidth 16 }
  else if addr = 0x518 then m.setCap 1 { spu.cap 1 with dad := val &&& 0x07FFFFFC }
  else if addr = 0x51C then m.setCap 1 { spu.cap 1 with len := (val &&& 0xFFFF).setWidth 16 }
  else m

/-! ### Reading -/

/-- `field << shift`, in a value of the given width. -/
def placed {field : Nat} (width : Nat) (bits : BitVec field) (shift : Nat) : BitVec width :=
  bits.setWidth width <<< shift

def Channel.playing : BitVec 1 :=
  if thischan.status = CHANSTAT_PLAY then 1 else 0

/-- The control bits of a capture unit, in a `u8`. -/
def Cap.control (cap : Cap F) : u8 :=
  placed 8 cap.add 0 ||| placed 8 cap.source 1 ||| placed 8 cap.oneshot 2 |||
    placed 8 cap.bits8 3 ||| placed 8 cap.running 7

def channelReadByte (thischan : Channel R) (reg : u32) : u8 :=
  if reg = 0x0 then placed 8 thischan.vol 0
  else if reg = 0x1 then placed 8 thischan.volumeDiv 0 ||| placed 8 thischan.hold 7
  else if reg = 0x2 then placed 8 thischan.pan 0
  else if reg = 0x3 then
    placed 8 thischan.waveduty 0 ||| placed 8 thischan.repeats 3 ||| placed 8 thischan.format 5 |||
      placed 8 thischan.playing 7
  else if reg = 0x8 then host (thischan.timer.setWidth 32 + 0)
  else if reg = 0x9 then host (thischan.timer.setWidth 32 + 1)
  else if reg = 0xA then host (thischan.loopstart.setWidth 32 + 0)
  else if reg = 0xB then host (thischan.loopstart.setWidth 32 + 1)
  else 0

def ReadByte (spu : SPU R F) (addr : u32) : u8 :=
  if isChannel addr then channelReadByte host (spu.channels (chanNum addr)) (addr &&& 0xF)
  else if addr = 0x500 then placed 8 spu.mastervol 0
  else if addr = 0x501 then
    placed 8 spu.ctl_left 0 ||| placed 8 spu.ctl_right 2 ||| placed 8 spu.ctl_ch1bypass 4 |||
      placed 8 spu.ctl_ch3bypass 5 ||| placed 8 spu.masteren 7
  else if addr = 0x504 then host (spu.soundbias.setWidth 32 + 0)
  else if addr = 0x505 then host (spu.soundbias.setWidth 32 + 1)
  else if addr = 0x508 then (spu.cap 0).control
  else if addr = 0x509 then (spu.cap 1).control
  else if addr = 0x510 then host ((spu.cap 0).dad + 0)
  else if addr = 0x511 then host ((spu.cap 0).dad + 1)
  else if addr = 0x512 then host ((spu.cap 0).dad + 2)
  else if addr = 0x513 then host ((spu.cap 0).dad + 3)
  else if addr = 0x514 then host ((spu.cap 0).len.setWidth 32 + 0)
  else if addr = 0x515 then host ((spu.cap 0).len.setWidth 32 + 1)
  else if addr = 0x518 then host ((spu.cap 1).dad + 0)
  else if addr = 0x519 then host ((spu.cap 1).dad + 1)
  else if addr = 0x51A then host ((spu.cap 1).dad + 2)
  else if addr = 0x51B then host ((spu.cap 1).dad + 3)
  else if addr = 0x51C then host ((spu.cap 1).len.setWidth 32 + 0)
  else if addr = 0x51D then host ((spu.cap 1).len.setWidth 32 + 1)
  else 0

def host16 : u16 := host (pointer + 1) ++ host pointer

def channelReadWord : u16 :=
  if reg = 0x0 then
    placed 16 thischan.vol 0 ||| placed 16 thischan.volumeDiv 8 ||| placed 16 thischan.hold 15
  else if reg = 0x2 then
    placed 16 thischan.pan 0 ||| placed 16 thischan.waveduty 8 ||| placed 16 thischan.repeats 11 |||
      placed 16 thischan.format 13 ||| placed 16 thischan.playing 15
  else if reg = 0x8 then thischan.timer
  else if reg = 0xA then thischan.loopstart
  else 0

def ReadWord (spu : SPU R F) (addr : u32) : u16 :=
  if isChannel addr then channelReadWord (spu.channels (chanNum addr)) (addr &&& 0xF)
  else if addr = 0x500 then
    placed 16 spu.mastervol 0 ||| placed 16 spu.ctl_left 8 ||| placed 16 spu.ctl_right 10 |||
      placed 16 spu.ctl_ch1bypass 12 ||| placed 16 spu.ctl_ch3bypass 13 |||
      placed 16 spu.masteren 15
  else if addr = 0x504 then spu.soundbias
  else if addr = 0x508 then placed 16 (spu.cap 0).control 0 ||| placed 16 (spu.cap 1).control 8
  else if addr = 0x510 then host16 host ((spu.cap 0).dad + 0)
  else if addr = 0x512 then host16 host ((spu.cap 0).dad + 1)
  else if addr = 0x514 then (spu.cap 0).len
  else if addr = 0x518 then host16 host ((spu.cap 1).dad + 0)
  else if addr = 0x51A then host16 host ((spu.cap 1).dad + 1)
  else if addr = 0x51C then (spu.cap 1).len
  else 0

def channelReadLong : u32 :=
  if reg = 0x0 then
    placed 32 thischan.vol 0 ||| placed 32 thischan.volumeDiv 8 ||| placed 32 thischan.hold 15 |||
      placed 32 thischan.pan 16 ||| placed 32 thischan.waveduty 24 |||
      placed 32 thischan.repeats 27 ||| placed 32 thischan.format 29 |||
      placed 32 thischan.playing 31
  else if reg = 0x8 then placed 32 thischan.timer 0 ||| placed 32 thischan.loopstart 16
  else 0

def ReadLong : u32 :=
  if isChannel addr then channelReadLong (spu.channels (chanNum addr)) (addr &&& 0xF)
  else if addr = 0x500 then
    placed 32 spu.mastervol 0 ||| placed 32 spu.ctl_left 8 ||| placed 32 spu.ctl_right 10 |||
      placed 32 spu.ctl_ch1bypass 12 ||| placed 32 spu.ctl_ch3bypass 13 |||
      placed 32 spu.masteren 15
  else if addr = 0x504 then spu.soundbias.setWidth 32
  else if addr = 0x508 then placed 32 (spu.cap 0).control 0 ||| placed 32 (spu.cap 1).control 8
  else if addr = 0x510 then (spu.cap 0).dad
  else if addr = 0x514 then (spu.cap 0).len.setWidth 32
  else if addr = 0x518 then (spu.cap 1).dad
  else if addr = 0x51C then (spu.cap 1).len.setWidth 32
  else 0

end

end Sound
end Desmume

namespace Desmume
namespace Sound

structure Survives {R F : Type} (env : Env R F) (before : SPU R F) (holds : SPU R F → Prop) :
    Prop where
  same : ∀ spu, spu.channels = before.channels → holds spu
  registers : ∀ chan_num thischan, thischan.status = (before.channels chan_num).status →
    thischan.runtime = (before.channels chan_num).runtime →
    holds (before.setChannel chan_num thischan)
  adjust : ∀ chan_num thischan, thischan.status = (before.channels chan_num).status →
    thischan.runtime = (before.channels chan_num).runtime →
    holds (before.setChannel chan_num (adjust env thischan))
  keyProbe : ∀ spu chan_num, holds spu → holds (KeyProbe env spu chan_num)

section

variable {R F : Type} {env : Env R F} {m : Machine R F} {holds : SPU R F → Prop}

def Machine.Satisfies (holds : SPU R F → Prop) (m : Machine R F) : Prop := holds m.spu

theorem Machine.Satisfies.ite {first second : Machine R F} {test : Prop} [Decidable test]
    (here : first.Satisfies holds) (there : second.Satisfies holds) :
    (if test then first else second).Satisfies holds := by
  split
  · exact here
  · exact there

theorem Survives.keyProbeAll {before spu : SPU R F} (survives : Survives env before holds)
    (start : holds spu) : holds (KeyProbeAll env spu) := by
  have folded : ∀ (channels : List (Fin 16)) (spu : SPU R F), holds spu →
      holds (channels.foldl (KeyProbe env) spu) := by
    intro channels
    induction channels with
    | nil => exact fun _ start => start
    | cons chan_num rest ih =>
        intro spu start
        exact ih _ (survives.keyProbe spu chan_num start)
  exact folded _ spu start

theorem channelByte_survives (survives : Survives env m.spu holds) (chan_num : Fin 16)
    (reg : u32) (val : u8) : (channelByte env m chan_num reg val).Satisfies holds := by
  unfold channelByte
  dsimp only
  repeat' with_reducible apply Machine.Satisfies.ite
  all_goals first
    | exact survives.same _ rfl
    | exact survives.registers chan_num _ rfl rfl
    | exact survives.adjust chan_num _ rfl rfl
    | exact survives.keyProbe _ _ (survives.registers chan_num _ rfl rfl)

theorem channelWord_survives (survives : Survives env m.spu holds) (chan_num : Fin 16)
    (reg : u32) (val : u16) : (channelWord env m chan_num reg val).Satisfies holds := by
  unfold channelWord
  dsimp only
  repeat' with_reducible apply Machine.Satisfies.ite
  all_goals first
    | exact survives.same _ rfl
    | exact survives.registers chan_num _ rfl rfl
    | exact survives.adjust chan_num { m.spu.channels chan_num with timer := val } rfl rfl
    | exact survives.keyProbe _ _ (survives.registers chan_num _ rfl rfl)

theorem channelLong_survives (survives : Survives env m.spu holds) (chan_num : Fin 16)
    (reg val : u32) : (channelLong env m chan_num reg val).Satisfies holds := by
  unfold channelLong
  dsimp only
  repeat' with_reducible apply Machine.Satisfies.ite
  all_goals first
    | exact survives.same _ rfl
    | exact survives.registers chan_num _ rfl rfl
    | exact survives.keyProbe _ _ (survives.registers chan_num _ rfl rfl)
    | exact survives.adjust chan_num
        { m.spu.channels chan_num with
          timer := val.extractLsb' 0 16, loopstart := val.extractLsb' 16 16 } rfl rfl

theorem WriteByte_survives (survives : Survives env m.spu holds) (addr : u32) (val : u8) :
    (WriteByte env m addr val).Satisfies holds := by
  unfold WriteByte
  dsimp only
  apply Machine.Satisfies.ite
  · exact channelByte_survives survives _ _ val
  apply Machine.Satisfies.ite
  · exact survives.same _ rfl
  apply Machine.Satisfies.ite
  · unfold Machine.Satisfies
    dsimp only
    refine survives.keyProbeAll (survives.same _ ?_)
    rfl
  repeat' with_reducible apply Machine.Satisfies.ite
  all_goals exact survives.same _ rfl

theorem WriteWord_survives (survives : Survives env m.spu holds) (addr : u32) (val : u16) :
    (WriteWord env m addr val).Satisfies holds := by
  unfold WriteWord
  dsimp only
  apply Machine.Satisfies.ite
  · exact channelWord_survives survives _ _ val
  apply Machine.Satisfies.ite
  · unfold Machine.Satisfies
    dsimp only
    refine survives.keyProbeAll (survives.same _ ?_)
    rfl
  repeat' with_reducible apply Machine.Satisfies.ite
  all_goals exact survives.same _ rfl

theorem WriteLong_survives (survives : Survives env m.spu holds) (addr val : u32) :
    (WriteLong env m addr val).Satisfies holds := by
  unfold WriteLong
  dsimp only
  apply Machine.Satisfies.ite
  · exact channelLong_survives survives _ _ val
  apply Machine.Satisfies.ite
  · unfold Machine.Satisfies
    dsimp only
    refine survives.keyProbeAll (survives.same _ ?_)
    rfl
  repeat' with_reducible apply Machine.Satisfies.ite
  all_goals exact survives.same _ rfl

end

end Sound
end Desmume
