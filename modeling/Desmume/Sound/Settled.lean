/-
What a savestate relies on: the totals of a playing channel are those of its
registers, and its decoder follows the nibbles of the memory.

A key sets both up and mixing keeps them. A write keeps them unless it changes
the sample of a channel that goes on playing.
-/

import Desmume.Sound.Indistinct
import Desmume.Sound.SavestateRoundTrip

namespace Desmume.Sound

structure Latched (chan : Channel Runtime) : Prop where
  totlength : chan.runtime.totlength = chan.length + chan.loopstart.setWidth 32
  total : chan.runtime.double_totlength_shifted =
    ((chan.runtime.totlength <<< format_shift chan.format).toNat : ℚ)

structure Settled (mem : SampleMemory) (beyond : Beyond) (chan : Channel Runtime) : Prop where
  storable : Storable chan.runtime
  latched : chan.status = CHANSTAT_PLAY → Latched chan
  adpcm : chan.status = CHANSTAT_PLAY → chan.format = 2 → Follows mem beyond chan

section

variable {mem : SampleMemory} {beyond : Beyond} {chan : Channel Runtime}

theorem keyOn_storable (storable : Storable chan.runtime) : Storable (keyOnRuntime mem chan) := by
  obtain ⟨pcm16b,pcm16b_last,loop_pcm16b,psgnoise_last⟩ := storable
  unfold keyOnRuntime
  dsimp only
  split
  · exact ⟨s16_inside _,s16_inside _,loop_pcm16b,psgnoise_last⟩
  split
  · exact ⟨pcm16b,pcm16b_last,loop_pcm16b,psgnoise_last⟩
  · exact ⟨pcm16b,pcm16b_last,loop_pcm16b,psgnoise_last⟩

theorem keyOn_totlength (chan : Channel Runtime) :
    (keyOnRuntime mem chan).totlength = chan.length + chan.loopstart.setWidth 32 := by
  unfold keyOnRuntime
  dsimp only
  split
  · rfl
  split <;> rfl

theorem settled_keyedOn (storable : Storable chan.runtime) :
    Settled mem beyond (chan.keyedOn mem) := by
  have totlength := @keyOn_totlength mem chan
  refine ⟨keyOn_storable storable,fun _ => ⟨totlength,?_⟩, ?_⟩
  · change ((chan.length + chan.loopstart.setWidth 32) <<< format_shift chan.format).toNat =
      (((keyOnRuntime mem chan).totlength <<< format_shift chan.format).toNat : ℚ)
    rw [totlength]
  · intro _ adpcm
    exact follows_keyedOn adpcm

theorem settled_ended (storable : Storable chan.runtime) : Settled mem beyond chan.ended where
  storable := storable
  latched playing := absurd playing stopped_ne_play
  adpcm playing := absurd playing stopped_ne_play

end

section

variable {mem : SampleMemory} {beyond : Beyond} {chan next : Channel Runtime}

theorem decodeNibble_storable {addr : u32} {loopstart : u16} {run : Runtime}
    (storable : Storable run) (i : u32) :
    Storable (decodeNibble mem beyond addr loopstart run i) := by
  obtain ⟨pcm16b,-,loop_pcm16b,psgnoise_last⟩ := storable
  have sample := @minMax_inside
    (run.pcm16b + precalcdifftbl beyond run.index (nibble mem addr i &&& 0xF))
    (-0x8000) 0x7FFF (by decide)
  unfold decodeNibble
  dsimp only
  split
  · exact ⟨sample,pcm16b,sample,psgnoise_last⟩
  · exact ⟨sample,pcm16b,loop_pcm16b,psgnoise_last⟩

theorem noise_inside : InSample 0x7FFF ∧ InSample (-0x7FFF) := by
  unfold InSample
  omega

theorem noiseRound_storable {run : Runtime} (storable : Storable run) :
    Storable (noiseRound run) := by
  obtain ⟨pcm16b,pcm16b_last,loop_pcm16b,-⟩ := storable
  unfold noiseRound
  split
  · exact ⟨pcm16b,pcm16b_last,loop_pcm16b,noise_inside.2⟩
  · exact ⟨pcm16b,pcm16b_last,loop_pcm16b,noise_inside.1⟩

theorem storable_kept : FetchKeeps mem beyond Storable where
  nibble _ _ _ i storable := decodeNibble_storable storable i
  noise _ storable := noiseRound_storable storable
  lastsampcnt _ _ storable :=
    ⟨storable.pcm16b,storable.pcm16b_last,storable.loop_pcm16b,storable.psgnoise_last⟩

theorem restart_storable (storable : Storable chan.runtime) :
    Storable (restart mem chan).runtime := by
  obtain ⟨pcm16b,pcm16b_last,loop_pcm16b,psgnoise_last⟩ := storable
  unfold restart
  dsimp only
  split
  · exact ⟨s16_inside _,pcm16b_last,loop_pcm16b,psgnoise_last⟩
  · exact ⟨loop_pcm16b,pcm16b_last,loop_pcm16b,psgnoise_last⟩

theorem moved_storable (storable : Storable chan.runtime) (sampcnt : ℚ) :
    Storable (chan.moved sampcnt).runtime :=
  ⟨storable.pcm16b,storable.pcm16b_last,storable.loop_pcm16b,storable.psgnoise_last⟩

theorem latched_of_position (regs : next.registers = chan.registers)
    (pos : SamePosition chan.runtime next.runtime) (latched : Latched chan) : Latched next := by
  have length := congrArg Channel.length regs
  have loopstart := congrArg Channel.loopstart regs
  have fmt := congrArg Channel.format regs
  change next.length = chan.length at length
  change next.loopstart = chan.loopstart at loopstart
  change next.format = chan.format at fmt
  refine ⟨?_,?_⟩
  · rw [pos.totlength,latched.totlength,length,loopstart]
  · rw [pos.total,pos.totlength,latched.total,fmt]

theorem latched_moved (latched : Latched chan) (sampcnt : ℚ) : Latched (chan.moved sampcnt) :=
  ⟨latched.totlength,latched.total⟩

theorem settled_fetched (num : Fin 16) (settled : Settled mem beyond chan) :
    Settled mem beyond (fetch mem beyond num chan).2 := by
  have fetched := fetch_fetched mem beyond num chan
  have status := congrArg Channel.status fetched.registers
  have fmt := congrArg Channel.format fetched.registers
  change (fetch mem beyond num chan).2.status = chan.status at status
  change (fetch mem beyond num chan).2.format = chan.format at fmt
  refine ⟨storable_kept.fetch num settled.storable,?_,?_⟩
  · intro playing
    exact latched_of_position fetched.registers fetched.position
      (settled.latched (status.symm.trans playing))
  · intro playing adpcm
    have adpcm' := fmt.symm.trans adpcm
    rw [fetch_adpcm mem beyond num adpcm']
    exact follows_fetched (settled.adpcm (status.symm.trans playing) adpcm')

variable {rounds : Nat}

theorem settled_advanced (settled : Settled mem beyond chan)
    (started : chan.status = CHANSTAT_PLAY) (moved : advance mem rounds chan = some next) :
    Settled mem beyond next := by
  have follows : next.status = CHANSTAT_PLAY → next.format = 2 → Follows mem beyond next := by
    intro playing adpcm
    have fmt := congrArg Channel.format (advance_standing moved)
    have adpcm' : chan.format = 2 := fmt.symm.trans adpcm
    exact follows_advanced adpcm' (settled.adpcm started adpcm') moved playing
  obtain ⟨sampcnt,rfl | rfl | ⟨rfl,-⟩⟩ := advance_cases moved
  · exact ⟨moved_storable settled.storable sampcnt,
      fun _ => latched_moved (settled.latched started) sampcnt, follows⟩
  · exact settled_ended (moved_storable settled.storable sampcnt)
  · exact ⟨restart_storable (moved_storable settled.storable sampcnt),
      fun _ => latched_of_position (restart_registers _) (restart_position _)
        (latched_moved (settled.latched started) sampcnt), follows⟩

theorem settled_chanUpdate {num : Fin 16} {mixed : Bool} {data : Int}
    (settled : Settled mem beyond chan)
    (updated : ChanUpdate mem beyond rounds num mixed chan = some (data, next)) :
    Settled mem beyond next := by
  unfold ChanUpdate at updated
  by_cases playing : chan.status = CHANSTAT_PLAY
  · rw [if_neg (not_not.mpr playing)] at updated
    obtain ⟨after,advanced,same⟩ := Option.map_eq_some_iff.mp updated
    cases same
    cases mixed with
    | false => exact settled_advanced settled playing advanced
    | true =>
        have playing' : (fetch mem beyond num chan).2.status = CHANSTAT_PLAY :=
          (congrArg Channel.status (fetch_fetched mem beyond num chan).registers).trans playing
        exact settled_advanced (settled_fetched num settled) playing' advanced
  · rw [if_pos playing] at updated
    cases updated
    exact settled

theorem settled_spuChanUpdate {length : Nat} {num : Fin 16} {mixed : Bool}
    {data : List Int} (settled : Settled mem beyond chan)
    (updated : SPU_ChanUpdate mem beyond rounds mixed num length chan = some (data, next)) :
    Settled mem beyond next := by
  induction length generalizing chan data with
  | zero =>
      cases updated
      exact settled
  | succ length ih =>
      unfold SPU_ChanUpdate at updated
      obtain ⟨⟨first,middle⟩,here,later⟩ := Option.bind_eq_some_iff.mp updated
      obtain ⟨⟨rest,last⟩,further,same⟩ := Option.map_eq_some_iff.mp later
      cases same
      exact ih (settled_chanUpdate settled here) further

end

section

variable {F : Type} {mem : SampleMemory} {beyond : Beyond}

def AllSettled (mem : SampleMemory) (beyond : Beyond) (spu : SPU Runtime F) : Prop :=
  ∀ num, Settled mem beyond (spu.channels num)

theorem AllSettled.setChannel {spu : SPU Runtime F} {next : Channel Runtime}
    (settled : AllSettled mem beyond spu) (i : Fin 16) (here : Settled mem beyond next) :
    AllSettled mem beyond (spu.setChannel i next) := by
  intro num
  unfold SPU.setChannel
  dsimp only
  by_cases same : num = i
  · rw [same,Function.update_self]
    exact here
  · rw [Function.update_of_ne same]
    exact settled num

theorem mixChannel_settled {host : MixHost} {length : Nat}
    {mixing after : List (Int × Int) × SPU Runtime F} {i : Fin 16}
    (settled : AllSettled mem beyond mixing.2)
    (mixed : mixChannel mem beyond host length mixing i = some after) :
    AllSettled mem beyond after.2 := by
  obtain ⟨sndbuf,spu⟩ := mixing
  unfold mixChannel at mixed
  dsimp only at mixed
  split at mixed
  · cases mixed
    exact settled
  · obtain ⟨⟨data,next⟩,updated,rfl⟩ := Option.map_eq_some_iff.mp mixed
    exact settled.setChannel i (settled_spuChanUpdate (settled i) updated)

theorem emulate_settled {host : MixHost} {core after : Core F} {outbuf : List (Int × Int)}
    (settled : AllSettled mem beyond core.spu)
    (emulated : SPU_Emulate_core mem beyond host core = some (outbuf, after)) :
    AllSettled mem beyond after.spu := by
  unfold SPU_Emulate_core at emulated
  obtain ⟨⟨mixed,spu⟩,made,same⟩ := Option.map_eq_some_iff.mp emulated
  cases same
  unfold SPU_MixAudio at made
  dsimp only at made
  split at made
  · cases made
    exact settled
  · obtain ⟨⟨sndbuf,last⟩,folded,same⟩ := Option.map_eq_some_iff.mp made
    cases same
    exact @Lockstep.foldlM_keeps _ _ _
      (fun mixing : List (Int × Int) × SPU Runtime F => AllSettled mem beyond mixing.2)
      (fun _ _ _ settled mixed => mixChannel_settled settled mixed) _ _ _ settled folded

end

/-- A channel that goes on playing keeps the length of its sample, and an ADPCM
channel the sample. -/
def KeepsSample (chan next : Channel Runtime) : Prop :=
  chan.status = CHANSTAT_PLAY → next.status = CHANSTAT_PLAY →
    next.format = chan.format ∧
      next.length + next.loopstart.setWidth 32 = chan.length + chan.loopstart.setWidth 32 ∧
      (chan.format = 2 → next.addr = chan.addr ∧ next.loopstart = chan.loopstart)

structure Rewritten (chan next : Channel Runtime) : Prop where
  status : next.status = chan.status
  runtime : next.runtime = chan.runtime ∨
    ∃ timer, next.runtime = { chan.runtime with sampinc := increment timer }

section

variable {F : Type} {mem : SampleMemory} {beyond : Beyond} {resetCapture : F → F}
  {chan next : Channel Runtime}

theorem Rewritten.storable (rewritten : Rewritten chan next) (storable : Storable chan.runtime) :
    Storable next.runtime := by
  obtain same | ⟨timer,same⟩ := rewritten.runtime
  · rw [same]
    exact storable
  · rw [same]
    exact ⟨storable.pcm16b,storable.pcm16b_last,storable.loop_pcm16b,storable.psgnoise_last⟩

theorem Rewritten.totals (rewritten : Rewritten chan next) :
    next.runtime.totlength = chan.runtime.totlength ∧
      next.runtime.double_totlength_shifted = chan.runtime.double_totlength_shifted := by
  obtain same | ⟨timer,same⟩ := rewritten.runtime
  · rw [same]
    exact ⟨rfl,rfl⟩
  · rw [same]
    exact ⟨rfl,rfl⟩

theorem Rewritten.follows (rewritten : Rewritten chan next) (addr : next.addr = chan.addr)
    (loopstart : next.loopstart = chan.loopstart) (follows : Follows mem beyond chan) :
    Follows mem beyond next := by
  obtain ⟨trailed,started,behind,forward,inside,small⟩ := follows
  obtain same | ⟨timer,same⟩ := rewritten.runtime
  · refine ⟨?_,?_,?_,?_,?_,?_⟩
    · rwa [same,addr,loopstart]
    all_goals rwa [same]
  · refine ⟨?_,?_,?_,?_,?_,?_⟩
    · rw [same,addr,loopstart]
      exact ⟨trailed.sample,trailed.kept⟩
    · rwa [same]
    · rwa [same]
    · rw [same]
      exact increment_nonneg timer
    · rwa [same]
    · rwa [same]

theorem settled_rewritten (settled : Settled mem beyond chan) (rewritten : Rewritten chan next)
    (keeps : KeepsSample chan next) : Settled mem beyond next := by
  refine ⟨rewritten.storable settled.storable,?_,?_⟩
  · intro playing
    have playing' := rewritten.status.symm.trans playing
    obtain ⟨fmt,sum,-⟩ := keeps playing' playing
    obtain ⟨totlength,total⟩ := rewritten.totals
    have latched := settled.latched playing'
    refine ⟨?_,?_⟩
    · rw [totlength,latched.totlength,sum]
    · rw [total,totlength,latched.total,fmt]
  · intro playing adpcm
    have playing' := rewritten.status.symm.trans playing
    obtain ⟨fmt,-,sample⟩ := keeps playing' playing
    have adpcm' := fmt.symm.trans adpcm
    obtain ⟨addr,loopstart⟩ := sample adpcm'
    exact rewritten.follows addr loopstart (settled.adpcm playing' adpcm')

def AllTurned (mem : SampleMemory) (beyond : Beyond) (before spu : SPU Runtime F) : Prop :=
  ∀ num, Rewritten (before.channels num) (spu.channels num) ∨
    Settled mem beyond (spu.channels num)

theorem AllTurned.setChannel {before spu : SPU Runtime F} {chan_num : Fin 16}
    (turned : AllTurned mem beyond before spu)
    (here : Rewritten (before.channels chan_num) next ∨ Settled mem beyond next) :
    AllTurned mem beyond before (spu.setChannel chan_num next) := by
  intro num
  unfold SPU.setChannel
  dsimp only
  by_cases same : num = chan_num
  · rw [same,Function.update_self]
    exact here
  · rw [Function.update_of_ne same]
    exact turned num

theorem AllTurned.refl (spu : SPU Runtime F) : AllTurned mem beyond spu spu :=
  fun _ => .inl ⟨rfl,.inl rfl⟩

variable {spu before : SPU Runtime F}

theorem AllTurned.keyProbe (chan_num : Fin 16)
    (storable : ∀ num, Storable (before.channels num).runtime)
    (turned : AllTurned mem beyond before spu) :
    AllTurned mem beyond before (KeyProbe (mixerEnv mem resetCapture) spu chan_num) := by
  have here : Storable (spu.channels chan_num).runtime := by
    rcases turned chan_num with rewritten | settled
    · exact rewritten.storable (storable chan_num)
    · exact settled.storable
  have on : AllTurned mem beyond before (KeyOn (mixerEnv mem resetCapture) spu chan_num) :=
    turned.setChannel (.inr (settled_keyedOn here))
  have off : AllTurned mem beyond before (KeyOff spu chan_num) :=
    turned.setChannel (.inr (settled_ended here))
  unfold KeyProbe
  dsimp only
  split
  · split
    · exact on
    · exact turned
  split
  · split
    · exact off
    · exact turned
  · exact turned

theorem turned_survives (storable : ∀ num, Storable (spu.channels num).runtime) :
    Survives (mixerEnv mem resetCapture) spu (AllTurned mem beyond spu) where
  same after same := by
    intro num
    rw [same]
    exact AllTurned.refl spu num
  registers _ _ status runtime := (AllTurned.refl spu).setChannel (.inl ⟨status,.inl runtime⟩)
  adjust _ thischan status runtime := by
    refine (AllTurned.refl spu).setChannel (.inl ⟨status,.inr ⟨thischan.timer,?_⟩⟩)
    rw [← runtime]
    rfl
  keyProbe _ chan_num turned := turned.keyProbe chan_num storable

theorem settled_turned (settled : AllSettled mem beyond before)
    (turned : AllTurned mem beyond before spu)
    (keeps : ∀ num, KeepsSample (before.channels num) (spu.channels num)) :
    AllSettled mem beyond spu := by
  intro num
  rcases turned num with rewritten | here
  · exact settled_rewritten (settled num) rewritten (keeps num)
  · exact here

theorem settled_memory {other : SampleMemory} (settled : Settled mem beyond chan)
    (same : chan.status = CHANSTAT_PLAY → chan.format = 2 → SameSample mem other chan) :
    Settled other beyond chan where
  storable := settled.storable
  latched := settled.latched
  adpcm playing adpcm := follows_memory (settled.adpcm playing adpcm) (same playing adpcm)

end

section

variable {mem : SampleMemory} {beyond : Beyond} {saved : Channel Runtime}

theorem restored_totals_iff (old : Channel Runtime) :
    ((saved.restored old).runtime.totlength = saved.runtime.totlength ∧
      (saved.restored old).runtime.double_totlength_shifted =
        saved.runtime.double_totlength_shifted) ↔ Latched saved := by
  constructor
  · rintro ⟨totlength,total⟩
    refine ⟨totlength.symm,?_⟩
    rw [← total,← totlength]
    rfl
  · rintro ⟨totlength,total⟩
    refine ⟨totlength.symm,?_⟩
    rw [total,totlength]
    rfl

theorem follows_restored (latched : Latched saved) (follows : Follows mem beyond saved)
    (old : Channel Runtime) : Follows mem beyond (saved.restored old) := by
  obtain ⟨trailed,started,behind,forward,inside,small⟩ := follows
  have total := ((restored_totals_iff old).mpr latched).2
  refine ⟨⟨trailed.sample,.inl rfl⟩,started,behind,forward,?_,?_⟩
  · rwa [total]
  · rwa [total]

theorem restored_alike (settled : Settled mem beyond saved) (old : Channel Runtime) :
    Alike mem beyond saved (saved.restored old) where
  registers := rfl
  position playing := by
    have totals := (restored_totals_iff old).mpr (settled.latched playing)
    exact ⟨totals.1,totals.2,rfl,rfl⟩
  adpcm playing adpcm :=
    ⟨settled.adpcm playing adpcm,
      follows_restored (settled.latched playing) (settled.adpcm playing adpcm) old⟩
  noise _ _ := ⟨rfl,rfl,rfl⟩

theorem restored_settled (settled : Settled mem beyond saved) {old : Channel Runtime}
    (before : Storable old.runtime) : Settled mem beyond (saved.restored old) where
  storable := ⟨settled.storable.pcm16b,settled.storable.pcm16b_last,before.loop_pcm16b,
    settled.storable.psgnoise_last⟩
  latched _ := ⟨rfl,rfl⟩
  adpcm playing adpcm :=
    follows_restored (settled.latched playing) (settled.adpcm playing adpcm) old

end

end Desmume.Sound
