/-
Sound registers written and read at three widths.

The control registers are taken apart the same way at every width.
-/

import Desmume.Sound.Registers

namespace Desmume.Sound

open Function (update_idem update_of_ne update_self)

/-- The 32-bit registers. -/
inductive Register
  | SOUNDCNT_X (chan_num : Fin 16)
  | SOUNDSAD (chan_num : Fin 16)
  | SOUNDTMR (chan_num : Fin 16)
  | SOUNDLEN (chan_num : Fin 16)
  | SOUNDCNT
  | SOUNDBIAS
  | SNDCAPCNT
  | SNDCAPDAD (which : Fin 2)
  | SNDCAPLEN (which : Fin 2)
  deriving DecidableEq, Repr

def channelAddr (chan_num : Fin 16) (reg : Nat) : u32 :=
  0x400 + BitVec.ofNat 32 (16 * chan_num + reg)

def Register.addr : Register → u32
  | SOUNDCNT_X chan_num => channelAddr chan_num 0x0
  | SOUNDSAD chan_num => channelAddr chan_num 0x4
  | SOUNDTMR chan_num => channelAddr chan_num 0x8
  | SOUNDLEN chan_num => channelAddr chan_num 0xC
  | SOUNDCNT => 0x500
  | SOUNDBIAS => 0x504
  | SNDCAPCNT => 0x508
  | SNDCAPDAD which => 0x510 + BitVec.ofNat 32 (8 * which)
  | SNDCAPLEN which => 0x514 + BitVec.ofNat 32 (8 * which)

section

variable {R F : Type}

def SPU.fields (spu : SPU R F) : Register → List Nat
  | .SOUNDCNT_X chan_num =>
      let thischan := spu.channels chan_num
      [thischan.vol.toNat,thischan.volumeDiv.toNat,thischan.hold.toNat,thischan.pan.toNat,
        thischan.waveduty.toNat,thischan.repeats.toNat,thischan.format.toNat,
        thischan.keyon.toNat]
  | .SOUNDSAD chan_num => [(spu.channels chan_num).addr.toNat]
  | .SOUNDTMR chan_num =>
      [(spu.channels chan_num).timer.toNat,(spu.channels chan_num).loopstart.toNat]
  | .SOUNDLEN chan_num => [(spu.channels chan_num).length.toNat]
  | .SOUNDCNT =>
      [spu.mastervol.toNat,spu.ctl_left.toNat,spu.ctl_right.toNat,spu.ctl_ch1bypass.toNat,
        spu.ctl_ch3bypass.toNat,spu.masteren.toNat]
  | .SOUNDBIAS => [spu.soundbias.toNat]
  | .SNDCAPCNT =>
      (List.finRange 2).flatMap fun which =>
        [(spu.cap which).add.toNat,(spu.cap which).source.toNat,(spu.cap which).oneshot.toNat,
          (spu.cap which).bits8.toNat,(spu.cap which).active.toNat]
  | .SNDCAPDAD which => [(spu.cap which).dad.toNat]
  | .SNDCAPLEN which => [(spu.cap which).len.toNat]

def writeWords (env : Env R F) (m : Machine R F) (addr val : u32) : Machine R F :=
  WriteWord env (WriteWord env m addr (val.extractLsb' 0 16)) (addr + 2)
    (val.extractLsb' 16 16)

def writeBytes (env : Env R F) (m : Machine R F) (addr val : u32) : Machine R F :=
  WriteByte env (WriteByte env (WriteByte env (WriteByte env m
    addr (val.extractLsb' 0 8)) (addr + 1) (val.extractLsb' 8 8))
    (addr + 2) (val.extractLsb' 16 8)) (addr + 3) (val.extractLsb' 24 8)

/-- The write leaves the fields of `expected`, stores nothing through a pointer,
and changes no other register. -/
structure Leaves (m expected written : Machine R F) (register : Register) : Prop where
  same : written.spu.fields register = expected.spu.fields register
  inside : written.stores = m.stores
  others : ∀ other, other ≠ register → written.spu.fields other = m.spu.fields other

/-- The narrow reads are the parts of the wide one. -/
structure ReadsAgree (host : u32 → u8) (spu : SPU R F) (addr : u32) : Prop where
  long : ReadLong spu addr = ReadWord host spu (addr + 2) ++ ReadWord host spu addr
  low : ReadWord host spu addr = ReadByte host spu (addr + 1) ++ ReadByte host spu addr
  high : ReadWord host spu (addr + 2) =
    ReadByte host spu (addr + 3) ++ ReadByte host spu (addr + 2)

structure WidthsAgree (env : Env R F) (host : u32 → u8) (m : Machine R F)
    (register : Register) (val : u32) : Prop where
  long : Leaves m (WriteLong env m register.addr val)
    (WriteLong env m register.addr val) register
  words : Leaves m (WriteLong env m register.addr val)
    (writeWords env m register.addr val) register
  bytes : Leaves m (WriteLong env m register.addr val)
    (writeBytes env m register.addr val) register
  reads : ReadsAgree host m.spu register.addr

def Register.IsControl : Register → Prop
  | .SOUNDCNT_X _ | .SOUNDCNT | .SNDCAPCNT => True
  | _ => False

end

theorem channelAddr_channel :
    ∀ chan_num reg : Fin 16, isChannel (channelAddr chan_num reg) ∧
      chanNum (channelAddr chan_num reg) = chan_num ∧
      channelAddr chan_num reg &&& 0xF = BitVec.ofNat 32 reg := by
  decide +kernel

theorem channelAddr_add (chan_num : Fin 16) (reg off : Nat) :
    channelAddr chan_num reg + BitVec.ofNat 32 off = channelAddr chan_num (reg + off) := by
  unfold channelAddr
  rw [BitVec.add_assoc,← BitVec.ofNat_add,Nat.add_assoc]

variable {width : Nat}

theorem extract_extract (val : BitVec width) (start length from_ n : Nat)
    (inside : from_ + n ≤ length) :
    (val.extractLsb' start length).extractLsb' from_ n =
      val.extractLsb' (start + from_) n := by
  apply BitVec.eq_of_getLsbD_eq
  intro i bound
  have within : from_ + i < length := by omega
  simp only [BitVec.getLsbD_extractLsb',bound,within,decide_true,Bool.true_and,
    Nat.add_assoc]

theorem getLsbD_placed {field : Nat} (width : Nat) (bits : BitVec field) (shift i : Nat) :
    (placed width bits shift).getLsbD i =
      (decide (i < width) && decide (shift ≤ i) && bits.getLsbD (i - shift)) := by
  unfold placed
  rw [BitVec.getLsbD_shiftLeft,BitVec.getLsbD_setWidth]
  by_cases inside : i < width
  · by_cases behind : shift ≤ i
    · have near : i - shift < width := by omega
      simp [inside,behind,near]
    · simp [inside,behind]
  · simp [inside]

theorem append_eq_placed {low high : Nat} (hi : BitVec high) (lo : BitVec low) :
    hi ++ lo = placed (high + low) lo 0 ||| placed (high + low) hi low := by
  apply BitVec.eq_of_getLsbD_eq
  intro i inside
  rw [BitVec.getLsbD_or,getLsbD_placed,getLsbD_placed,BitVec.getLsbD_append]
  by_cases below : i < low
  · simp [inside,below]
  · simp [inside,below,Nat.not_lt.mp below]

theorem placed_or (first second : BitVec width) (wide shift : Nat) :
    placed wide (first ||| second) shift =
      placed wide first shift ||| placed wide second shift := by
  unfold placed
  rw [BitVec.setWidth_or,BitVec.shiftLeft_or_distrib]

theorem placed_placed {field : Nat} (bits : BitVec field) {wide shift more : Nat}
    (fits : field + shift ≤ width) :
    placed wide (placed width bits shift) more = placed wide bits (shift + more) := by
  apply BitVec.eq_of_getLsbD_eq
  intro i inside
  rw [getLsbD_placed,getLsbD_placed,getLsbD_placed]
  by_cases behind : shift + more ≤ i
  · have first : more ≤ i := by omega
    have second : shift ≤ i - more := by omega
    rw [show i - more - shift = i - (shift + more) by omega]
    by_cases within : i - more < width
    · simp [inside,behind,first,second,within]
    · have none : bits.getLsbD (i - (shift + more)) = false :=
        BitVec.getLsbD_of_ge bits _ (by omega)
      simp [none]
  · by_cases first : more ≤ i
    · have second : ¬shift ≤ i - more := by omega
      simp [behind,second]
    · simp [behind,first]

theorem placed_zero (field wide shift : Nat) :
    placed wide (BitVec.ofNat field 0) shift = BitVec.ofNat wide 0 := by
  unfold placed
  simp

section

variable {R F : Type} (env : Env R F) (host : u32 → u8) (m : Machine R F)
  (chan_num reg : Fin 16)

theorem WriteByte_channel (val : u8) : WriteByte env m (channelAddr chan_num reg) val =
    channelByte env m chan_num (BitVec.ofNat 32 reg) val := by
  obtain ⟨channel,num,here⟩ := channelAddr_channel chan_num reg
  unfold WriteByte
  simp only [if_pos channel,num,here]

theorem WriteWord_channel (val : u16) : WriteWord env m (channelAddr chan_num reg) val =
    channelWord env m chan_num (BitVec.ofNat 32 reg) val := by
  obtain ⟨channel,num,here⟩ := channelAddr_channel chan_num reg
  unfold WriteWord
  simp only [if_pos channel,num,here]

theorem WriteLong_channel (val : u32) : WriteLong env m (channelAddr chan_num reg) val =
    channelLong env m chan_num (BitVec.ofNat 32 reg) val := by
  obtain ⟨channel,num,here⟩ := channelAddr_channel chan_num reg
  unfold WriteLong
  simp only [if_pos channel,num,here]

variable (spu : SPU R F)

theorem ReadByte_channel : ReadByte host spu (channelAddr chan_num reg) =
    channelReadByte host (spu.channels chan_num) (BitVec.ofNat 32 reg) := by
  obtain ⟨channel,num,here⟩ := channelAddr_channel chan_num reg
  unfold ReadByte
  simp only [if_pos channel,num,here]

theorem ReadWord_channel : ReadWord host spu (channelAddr chan_num reg) =
    channelReadWord (spu.channels chan_num) (BitVec.ofNat 32 reg) := by
  obtain ⟨channel,num,here⟩ := channelAddr_channel chan_num reg
  unfold ReadWord
  simp only [if_pos channel,num,here]

theorem ReadLong_channel : ReadLong spu (channelAddr chan_num reg) =
    channelReadLong (spu.channels chan_num) (BitVec.ofNat 32 reg) := by
  obtain ⟨channel,num,here⟩ := channelAddr_channel chan_num reg
  unfold ReadLong
  simp only [if_pos channel,num,here]

end

section

variable {R F : Type}

variable (env : Env R F) (m : Machine R F) (spu : SPU R F) (chan_num : Fin 16) (val : u32)
  (host : u32 → u8)

@[simp] theorem setChannel_channels (thischan : Channel R) :
    (spu.setChannel chan_num thischan).channels chan_num = thischan :=
  update_self _ _ _

@[simp] theorem setChannel_setChannel (first second : Channel R) :
    (spu.setChannel chan_num first).setChannel chan_num second =
      spu.setChannel chan_num second := by
  unfold SPU.setChannel
  simp only [update_idem]

theorem channel_words :
    writeWords env m (channelAddr chan_num 0) val =
      WriteLong env m (channelAddr chan_num 0) val := by
  unfold writeWords
  rw [show channelAddr chan_num 0 + 2 = channelAddr chan_num 2 from
    channelAddr_add chan_num 0 2]
  have low := WriteWord_channel env m chan_num 0 (val.extractLsb' 0 16)
  have high (m : Machine R F) := WriteWord_channel env m chan_num 2
    (val.extractLsb' 16 16)
  have long := WriteLong_channel env m chan_num 0 val
  refine (congrArg (fun m => WriteWord env m _ _) low).trans ?_
  refine (high _).trans (Eq.trans ?_ long.symm)
  simp [channelWord,channelLong,Machine.setChannel,extract_extract]

theorem channel_bytes :
    writeBytes env m (channelAddr chan_num 0) val =
      WriteLong env m (channelAddr chan_num 0) val := by
  unfold writeBytes
  rw [show channelAddr chan_num 0 + 1 = channelAddr chan_num 1 from
      channelAddr_add chan_num 0 1,
    show channelAddr chan_num 0 + 2 = channelAddr chan_num 2 from channelAddr_add chan_num 0 2,
    show channelAddr chan_num 0 + 3 = channelAddr chan_num 3 from channelAddr_add chan_num 0 3]
  have byte (m : Machine R F) (reg : Fin 16) (val : u8) :=
    WriteByte_channel env m chan_num reg val
  have long := WriteLong_channel env m chan_num 0 val
  refine Eq.trans ?_ long.symm
  refine (byte _ 3 _).trans ?_
  rw [show WriteByte env _ (channelAddr chan_num 2) _ = _ from byte _ 2 _,
    show WriteByte env _ (channelAddr chan_num 1) _ = _ from byte _ 1 _,
    show WriteByte env _ (channelAddr chan_num 0) _ = _ from byte _ 0 _]
  simp [channelByte,channelLong,Machine.setChannel,extract_extract]

theorem soundcnt_words : writeWords env m 0x500 val = WriteLong env m 0x500 val := by
  have low : ¬isChannel 0x500#32 := by decide
  have high : ¬isChannel 0x502#32 := by decide
  simp [writeWords,WriteWord,WriteLong,low,high,extract_extract]

theorem soundcnt_bytes : writeBytes env m 0x500 val = WriteLong env m 0x500 val := by
  have first : ¬isChannel 0x500#32 := by decide
  have second : ¬isChannel 0x501#32 := by decide
  have third : ¬isChannel 0x502#32 := by decide
  have fourth : ¬isChannel 0x503#32 := by decide
  simp [writeBytes,WriteByte,WriteLong,first,second,third,fourth,extract_extract]

theorem sndcapcnt_words : writeWords env m 0x508 val = WriteLong env m 0x508 val := by
  have low : ¬isChannel 0x508#32 := by decide
  have high : ¬isChannel 0x50A#32 := by decide
  simp [writeWords,WriteWord,WriteLong,low,high,extract_extract]

theorem sndcapcnt_bytes : writeBytes env m 0x508 val = WriteLong env m 0x508 val := by
  have first : ¬isChannel 0x508#32 := by decide
  have second : ¬isChannel 0x509#32 := by decide
  have third : ¬isChannel 0x50A#32 := by decide
  have fourth : ¬isChannel 0x50B#32 := by decide
  simp [writeBytes,WriteByte,WriteLong,first,second,third,fourth]

theorem setChannel_other {chan_num other : Fin 16} (ne : other ≠ chan_num) (thischan : Channel R) :
    (spu.setChannel chan_num thischan).channels other = spu.channels other :=
  update_of_ne ne _ _

variable {register : Register}

theorem setChannel_fields {chan_num : Fin 16} {thischan : Channel R}
    (addr : thischan.addr = (spu.channels chan_num).addr)
    (timer : thischan.timer = (spu.channels chan_num).timer)
    (loopstart : thischan.loopstart = (spu.channels chan_num).loopstart)
    (length : thischan.length = (spu.channels chan_num).length)
    (other : register ≠ .SOUNDCNT_X chan_num) :
    (spu.setChannel chan_num thischan).fields register = spu.fields register := by
  have kept : ∀ num, num ≠ chan_num →
      (spu.setChannel chan_num thischan).channels num = spu.channels num :=
    fun num ne => setChannel_other spu ne thischan
  cases register with
  | SOUNDCNT_X num =>
      have ne : num ≠ chan_num := fun same => other (congrArg _ same)
      simp only [SPU.fields,kept num ne]
  | SOUNDSAD num =>
      by_cases same : num = chan_num
      · rw [same]
        simp only [SPU.fields,setChannel_channels,addr]
      · simp only [SPU.fields,kept num same]
  | SOUNDTMR num =>
      by_cases same : num = chan_num
      · rw [same]
        simp only [SPU.fields,setChannel_channels,timer,loopstart]
      · simp only [SPU.fields,kept num same]
  | SOUNDLEN num =>
      by_cases same : num = chan_num
      · rw [same]
        simp only [SPU.fields,setChannel_channels,length]
      · simp only [SPU.fields,kept num same]
  | SOUNDCNT => rfl
  | SOUNDBIAS => rfl
  | SNDCAPCNT => rfl
  | SNDCAPDAD which => rfl
  | SNDCAPLEN which => rfl

theorem setChannel_status (status : u8) (runtime : R)
    (register : Register) :
    (spu.setChannel chan_num
      { spu.channels chan_num with status := status, runtime := runtime }).fields register =
        spu.fields register := by
  by_cases control : register = .SOUNDCNT_X chan_num
  · rw [control]
    simp only [SPU.fields,setChannel_channels]
  · refine setChannel_fields spu ?_ ?_ ?_ ?_ control <;> rfl

theorem KeyProbe_fields
    (register : Register) : (KeyProbe env spu chan_num).fields register = spu.fields register := by
  have on : (KeyOn env spu chan_num).fields register = spu.fields register :=
    setChannel_status spu chan_num _ _ register
  have off : (KeyOff spu chan_num).fields register = spu.fields register :=
    setChannel_status spu chan_num _ _ register
  unfold KeyProbe
  dsimp only
  split_ifs
  · exact on
  · rfl
  · exact off
  · rfl
  · rfl

theorem KeyProbeAll_fields (register : Register) :
    (KeyProbeAll env spu).fields register = spu.fields register := by
  unfold KeyProbeAll
  induction List.finRange 16 generalizing spu with
  | nil => rfl
  | cons chan_num rest ih =>
      rw [List.foldl_cons,ih,KeyProbe_fields]

theorem setCapture_fields (which : Fin 2) (val : u8) (other : register ≠ .SNDCAPCNT) :
    (setCapture env spu which val).fields register = spu.fields register := by
  have dad : ∀ num, ((setCapture env spu which val).cap num).dad =
      (spu.cap num).dad := by
    intro num
    by_cases same : num = which
    · rw [same]
      unfold setCapture ProbeCapture
      simp only [update_self]
      split_ifs <;> rfl
    · simp only [setCapture,ProbeCapture,update_of_ne same]
  have len : ∀ num, ((setCapture env spu which val).cap num).len =
      (spu.cap num).len := by
    intro num
    by_cases same : num = which
    · rw [same]
      unfold setCapture ProbeCapture
      simp only [update_self]
      split_ifs <;> rfl
    · simp only [setCapture,ProbeCapture,update_of_ne same]
  cases register with
  | SNDCAPCNT => exact absurd rfl other
  | SNDCAPDAD num => simp only [SPU.fields,dad]
  | SNDCAPLEN num => simp only [SPU.fields,len]
  | SOUNDCNT_X num => rfl
  | SOUNDSAD num => rfl
  | SOUNDTMR num => rfl
  | SOUNDLEN num => rfl
  | SOUNDCNT => rfl
  | SOUNDBIAS => rfl

/-! ### A control register is written from its value -/

theorem WriteLong_soundcnt :
    WriteLong env m 0x500 val =
      { m with
        spu := KeyProbeAll env
          { m.spu with
            mastervol := val.extractLsb' 0 7
            ctl_left := val.extractLsb' 8 2
            ctl_right := val.extractLsb' 10 2
            ctl_ch1bypass := val.extractLsb' 12 1
            ctl_ch3bypass := val.extractLsb' 13 1
            masteren := val.extractLsb' 15 1 } } := by
  have notChannel : ¬isChannel 0x500#32 := by decide
  simp [WriteLong,notChannel]

theorem WriteLong_sndcapcnt :
    WriteLong env m 0x508 val =
      { m with
        spu := setCapture env (setCapture env m.spu 0 (val.extractLsb' 0 8)) 1
          (val.extractLsb' 8 8) } := by
  have notChannel : ¬isChannel 0x508#32 := by decide
  simp [WriteLong,notChannel]

theorem Leaves.of_long {env : Env R F} {m : Machine R F} {val : u32}
    (inside : (WriteLong env m register.addr val).stores = m.stores)
    (others : ∀ other, other ≠ register →
      (WriteLong env m register.addr val).spu.fields other = m.spu.fields other)
    {written : Machine R F} (equal : written = WriteLong env m register.addr val) :
    Leaves m (WriteLong env m register.addr val) written register := by
  rw [equal]
  exact ⟨rfl,inside,others⟩

theorem control_inside (control : register.IsControl) (val : u32) :
    (WriteLong env m register.addr val).stores = m.stores := by
  cases register with
  | SOUNDCNT_X chan_num =>
      have long : WriteLong env m (Register.SOUNDCNT_X chan_num).addr val = _ :=
        WriteLong_channel env m chan_num 0 val
      rw [long]
      rfl
  | SOUNDCNT => rw [show Register.SOUNDCNT.addr = 0x500 from rfl,WriteLong_soundcnt]
  | SNDCAPCNT => rw [show Register.SNDCAPCNT.addr = 0x508 from rfl,WriteLong_sndcapcnt]
  | SOUNDSAD _ | SOUNDTMR _ | SOUNDLEN _ | SOUNDBIAS | SNDCAPDAD _ | SNDCAPLEN _ =>
      exact control.elim

theorem control_others
    (control : register.IsControl) (val : u32) {other : Register} (ne : other ≠ register) :
    (WriteLong env m register.addr val).spu.fields other = m.spu.fields other := by
  cases register with
  | SOUNDCNT_X chan_num =>
      have long : WriteLong env m (Register.SOUNDCNT_X chan_num).addr val = _ :=
        WriteLong_channel env m chan_num 0 val
      rw [long]
      refine (KeyProbe_fields env _ chan_num other).trans ?_
      refine setChannel_fields m.spu ?_ ?_ ?_ ?_ ne <;> rfl
  | SOUNDCNT =>
      rw [show Register.SOUNDCNT.addr = 0x500 from rfl,WriteLong_soundcnt]
      simp only [KeyProbeAll_fields]
      cases other with
      | SOUNDCNT => exact absurd rfl ne
      | _ => rfl
  | SNDCAPCNT =>
      rw [show Register.SNDCAPCNT.addr = 0x508 from rfl,WriteLong_sndcapcnt]
      exact (setCapture_fields env _ 1 _ ne).trans
        (setCapture_fields env m.spu 0 _ ne)
  | SOUNDSAD _ | SOUNDTMR _ | SOUNDLEN _ | SOUNDBIAS | SNDCAPDAD _ | SNDCAPLEN _ =>
      exact control.elim

theorem control_words (control : register.IsControl) (val : u32) :
    writeWords env m register.addr val = WriteLong env m register.addr val := by
  cases register with
  | SOUNDCNT_X chan_num => exact channel_words env m chan_num val
  | SOUNDCNT => exact soundcnt_words env m val
  | SNDCAPCNT => exact sndcapcnt_words env m val
  | SOUNDSAD _ | SOUNDTMR _ | SOUNDLEN _ | SOUNDBIAS | SNDCAPDAD _ | SNDCAPLEN _ =>
      exact control.elim

theorem control_bytes (control : register.IsControl) (val : u32) :
    writeBytes env m register.addr val = WriteLong env m register.addr val := by
  cases register with
  | SOUNDCNT_X chan_num => exact channel_bytes env m chan_num val
  | SOUNDCNT => exact soundcnt_bytes env m val
  | SNDCAPCNT => exact sndcapcnt_bytes env m val
  | SOUNDSAD _ | SOUNDTMR _ | SOUNDLEN _ | SOUNDBIAS | SNDCAPDAD _ | SNDCAPLEN _ =>
      exact control.elim

theorem words_eq_placed (high low : u16) :
    (high ++ low : u32) = placed 32 low 0 ||| placed 32 high 16 :=
  append_eq_placed high low

theorem bytes_eq_placed (high low : u8) :
    (high ++ low : u16) = placed 16 low 0 ||| placed 16 high 8 :=
  append_eq_placed high low

theorem channel_reads (spu : SPU R F) (chan_num : Fin 16) :
    ReadsAgree host spu (channelAddr chan_num 0) := by
  have long : ReadLong spu (channelAddr chan_num 0) = _ := ReadLong_channel chan_num 0 spu
  have word : ∀ reg : Fin 16, ReadWord host spu (channelAddr chan_num reg) = _ :=
    fun reg => ReadWord_channel host chan_num reg spu
  have byte : ∀ reg : Fin 16, ReadByte host spu (channelAddr chan_num reg) = _ :=
    fun reg => ReadByte_channel host chan_num reg spu
  have next : ∀ off : Nat,
      channelAddr chan_num 0 + BitVec.ofNat 32 off = channelAddr chan_num off := by
    intro off
    rw [channelAddr_add,Nat.zero_add]
  constructor
  · rw [show channelAddr chan_num 0 + 2 = channelAddr chan_num 2 from next 2,words_eq_placed,
      long,show ReadWord host spu (channelAddr chan_num 2) = _ from word 2,
      show ReadWord host spu (channelAddr chan_num 0) = _ from word 0]
    simp [channelReadLong,channelReadWord,placed_or,placed_placed,BitVec.or_assoc]
  · rw [show channelAddr chan_num 0 + 1 = channelAddr chan_num 1 from next 1,bytes_eq_placed,
      show ReadWord host spu (channelAddr chan_num 0) = _ from word 0,
      show ReadByte host spu (channelAddr chan_num 1) = _ from byte 1,
      show ReadByte host spu (channelAddr chan_num 0) = _ from byte 0]
    simp [channelReadByte,channelReadWord,placed_or,placed_placed,BitVec.or_assoc]
  · rw [show channelAddr chan_num 0 + 3 = channelAddr chan_num 3 from next 3,
      show channelAddr chan_num 0 + 2 = channelAddr chan_num 2 from next 2,bytes_eq_placed,
      show ReadWord host spu (channelAddr chan_num 2) = _ from word 2,
      show ReadByte host spu (channelAddr chan_num 3) = _ from byte 3,
      show ReadByte host spu (channelAddr chan_num 2) = _ from byte 2]
    simp [channelReadByte,channelReadWord,placed_or,placed_placed,BitVec.or_assoc]

theorem soundcnt_reads (spu : SPU R F) : ReadsAgree host spu 0x500 := by
  have first : ¬isChannel 0x500#32 := by decide
  have second : ¬isChannel 0x501#32 := by decide
  have third : ¬isChannel 0x502#32 := by decide
  have fourth : ¬isChannel 0x503#32 := by decide
  constructor
  · rw [words_eq_placed]
    simp [ReadLong,ReadWord,first,third,placed_or,placed_placed,placed_zero]
  · rw [bytes_eq_placed]
    simp [ReadWord,ReadByte,first,second,placed_or,placed_placed,BitVec.or_assoc]
  · rw [bytes_eq_placed]
    simp [ReadWord,ReadByte,third,fourth,placed_zero]

theorem sndcapcnt_reads (spu : SPU R F) : ReadsAgree host spu 0x508 := by
  have first : ¬isChannel 0x508#32 := by decide
  have second : ¬isChannel 0x509#32 := by decide
  have third : ¬isChannel 0x50A#32 := by decide
  have fourth : ¬isChannel 0x50B#32 := by decide
  constructor
  · rw [words_eq_placed]
    simp [ReadLong,ReadWord,first,third,placed_or,placed_placed,placed_zero]
  · rw [bytes_eq_placed]
    simp [ReadWord,ReadByte,first,second]
  · rw [bytes_eq_placed]
    simp [ReadWord,ReadByte,third,fourth,placed_zero]

def Grows (written : Machine R F) : Prop :=
  m.stores.length ≤ written.stores.length

theorem Grows.ite {m first second : Machine R F} {test : Prop} [Decidable test]
    (here : Grows m first) (there : Grows m second) : Grows m (if test then first else second) := by
  split
  · exact here
  · exact there

theorem Grows.inside {m written : Machine R F} (inside : written.stores = m.stores) :
    Grows m written :=
  Nat.le_of_eq (congrArg List.length inside).symm

theorem Grows.store8 (m : Machine R F) (pointer : u32) (val : u8) :
    Grows m (m.store8 pointer val) := by
  unfold Grows Machine.store8
  rw [List.length_append]
  exact Nat.le_add_right _ _

theorem channelByte_stores
    (reg : u32) (val : u8) : Grows m (channelByte env m chan_num reg val) := by
  unfold channelByte
  dsimp only
  repeat' with_reducible apply Grows.ite
  all_goals first
    | exact Grows.inside rfl
    | exact Grows.store8 m _ _

theorem WriteByte_stores (addr : u32) (val : u8) : Grows m (WriteByte env m addr val) := by
  unfold WriteByte
  dsimp only
  apply Grows.ite
  · exact channelByte_stores env m _ _ val
  repeat' with_reducible apply Grows.ite
  all_goals first
    | exact Grows.inside rfl
    | exact Grows.store8 m _ _

theorem writeBytes_outside (addr val : u32) (outside : m.stores.length <
      (WriteByte env m addr (val.extractLsb' 0 8)).stores.length) :
    (writeBytes env m addr val).stores ≠ m.stores := by
  intro inside
  have total := congrArg List.length inside
  unfold writeBytes at total
  generalize WriteByte env m addr (val.extractLsb' 0 8) = first at outside total
  have second := WriteByte_stores env first (addr + 1) (val.extractLsb' 8 8)
  generalize WriteByte env first (addr + 1) (val.extractLsb' 8 8) = next at second total
  have third := WriteByte_stores env next (addr + 2) (val.extractLsb' 16 8)
  generalize WriteByte env next (addr + 2) (val.extractLsb' 16 8) = last at third total
  have fourth := WriteByte_stores env last (addr + 3) (val.extractLsb' 24 8)
  unfold Grows at second third fourth
  omega

theorem WriteByte_outside (other : ¬register.IsControl) (val : u8) :
    m.stores.length < (WriteByte env m register.addr val).stores.length := by
  have channel := WriteByte_channel env m
  cases register with
  | SOUNDCNT_X _ | SOUNDCNT | SNDCAPCNT => exact absurd trivial other
  | SOUNDSAD chan_num =>
      have here : WriteByte env m (Register.SOUNDSAD chan_num).addr val = _ :=
        channel chan_num 4 val
      rw [here]
      simp [channelByte,Machine.store8]
  | SOUNDTMR chan_num =>
      have here : WriteByte env m (Register.SOUNDTMR chan_num).addr val = _ :=
        channel chan_num 8 val
      rw [here]
      simp [channelByte,Machine.store8,Machine.setChannel]
  | SOUNDLEN chan_num =>
      have here : WriteByte env m (Register.SOUNDLEN chan_num).addr val = _ :=
        channel chan_num 12 val
      rw [here]
      simp [channelByte,Machine.store8]
  | SOUNDBIAS =>
      have notChannel : ¬isChannel 0x504#32 := by decide
      simp [Register.addr,WriteByte,notChannel,Machine.store8]
  | SNDCAPDAD which =>
      have first : ¬isChannel 0x510#32 := by decide
      have second : ¬isChannel 0x518#32 := by decide
      match which with
      | 0 => simp [Register.addr,WriteByte,first,Machine.store8]
      | 1 => simp [Register.addr,WriteByte,second,Machine.store8]
  | SNDCAPLEN which =>
      have first : ¬isChannel 0x514#32 := by decide
      have second : ¬isChannel 0x51C#32 := by decide
      match which with
      | 0 => simp [Register.addr,WriteByte,first,Machine.store8]
      | 1 => simp [Register.addr,WriteByte,second,Machine.store8]

theorem widths_agree_iff_control (m : Machine R F) (register : Register) (val : u32) :
    WidthsAgree env host m register val ↔ register.IsControl := by
  constructor
  · intro agree
    by_contra other
    have outside := WriteByte_outside env m other (val.extractLsb' 0 8)
    exact writeBytes_outside env m register.addr val outside agree.bytes.inside
  · intro control
    have inside := control_inside env m control val
    have others : ∀ other, other ≠ register → _ :=
      fun other ne => control_others env m control val ne
    refine ⟨?_,?_,?_,?_⟩
    · exact Leaves.of_long inside others rfl
    · exact Leaves.of_long inside others (control_words env m control val)
    · exact Leaves.of_long inside others (control_bytes env m control val)
    · cases register with
      | SOUNDCNT_X chan_num => exact channel_reads host m.spu chan_num
      | SOUNDCNT => exact soundcnt_reads host m.spu
      | SNDCAPCNT => exact sndcapcnt_reads host m.spu
      | SOUNDSAD _ | SOUNDTMR _ | SOUNDLEN _ | SOUNDBIAS | SNDCAPDAD _ | SNDCAPLEN _ =>
          exact control.elim

end

def silentChannel : Channel Unit where
  vol := 0
  volumeDiv := 0
  hold := 0
  pan := 0
  waveduty := 0
  repeats := 0
  format := 0
  keyon := 0
  status := CHANSTAT_STOPPED
  addr := 0
  timer := 0
  loopstart := 0
  length := 0
  runtime := ()

def silentCap : Cap Unit where
  add := 0
  source := 0
  oneshot := 0
  bits8 := 0
  active := 0
  dad := 0
  len := 0
  running := 0
  curdad := 0
  maxdad := 0
  runtime := ()

def silent : Machine Unit Unit where
  spu :=
    { channels := fun _ => silentChannel
      mastervol := 0
      ctl_left := 0
      ctl_right := 0
      ctl_ch1bypass := 0
      ctl_ch3bypass := 0
      masteren := 0
      soundbias := 0
      cap := fun _ => silentCap }
  stores := []

def mute : Env Unit Unit where
  adjust_channel_timer := fun _ _ => ()
  keyOn := fun _ => ()
  resetCapture := fun _ => ()

/-- SOUNDBIAS written in bytes is not written at all; the bytes go to the
addresses 0 and 1 of the host. -/
theorem soundbias_bytes_lost :
    (WriteLong mute silent Register.SOUNDBIAS.addr 0x200).spu.soundbias = 0x200 ∧
      (writeBytes mute silent Register.SOUNDBIAS.addr 0x200).spu.soundbias = 0 ∧
      (writeBytes mute silent Register.SOUNDBIAS.addr 0x200).stores = [(0, 0),(1, 2)] ∧
      ¬WidthsAgree mute (fun _ => 0) silent .SOUNDBIAS 0x200 := by
  have stores : (writeBytes mute silent Register.SOUNDBIAS.addr 0x200).stores =
      [(0, 0),(1, 2)] := by decide +kernel
  refine ⟨by decide +kernel,by decide +kernel,stores,?_⟩
  intro agree
  exact List.cons_ne_nil _ _ (stores.symm.trans agree.bytes.inside)

end Desmume.Sound
