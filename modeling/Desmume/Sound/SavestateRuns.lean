/-
Runs of the sound unit with savestates.

A run starts at a reset. The registers are written, the memory of the samples
changes, lines are mixed, and savestates of the run are loaded.
-/

import Desmume.Sound.Settled

namespace Desmume.Sound

open Savestate Backup

structure System where
  core : Core CapRuntime
  memory : SampleMemory

/-- A write to the sound registers. -/
inductive Access
  | byte (addr : u32) (val : u8)
  | word (addr : u32) (val : u16)
  | long (addr val : u32)

def Access.write (mem : SampleMemory) (access : Access) (spu : SPU Runtime CapRuntime) :
    SPU Runtime CapRuntime :=
  let env := mixerEnv mem resetCapture
  match access with
  | .byte addr val => (WriteByte env ⟨spu,[]⟩ addr val).spu
  | .word addr val => (WriteWord env ⟨spu,[]⟩ addr val).spu
  | .long addr val => (WriteLong env ⟨spu,[]⟩ addr val).spu

inductive SoundEvent
  | write (access : Access)
  | memory (memory : SampleMemory)
  | line (host : MixHost)

def SoundEvent.step (beyond : Beyond) (system : System) (event : SoundEvent) (next : System) :
    Prop :=
  match event with
  | .write access =>
      next =
        { system with
          core := { system.core with spu := access.write system.memory system.core.spu } }
  | .memory other => next = { system with memory := other }
  | .line host =>
      ∃ outbuf core, SPU_Emulate_core system.memory beyond host system.core = some (outbuf, core) ∧
        next = { system with core := core }

/-- A channel of which `memset` has cleared all. -/
def Channel.cleared : Channel Runtime where
  vol := 0
  volumeDiv := 0
  hold := 0
  pan := 0
  waveduty := 0
  repeats := 0
  format := 0
  keyon := 0
  status := CHANSTAT_STOPPED
  addr := 0
  timer := 0
  loopstart := 0
  length := 0
  runtime := Runtime.initial

/-- `SPU_Reset`. -/
def SPU_Reset (spu : SPU Runtime CapRuntime) : Core CapRuntime where
  spu := { reconstruct spu with channels := fun _ => Channel.cleared }
  samples := 0

/-- The systems of a run whose steps all meet the condition. A savestate brings
its memory with it. -/
inductive Visited (beyond : Beyond) (doubles : Doubles)
    (cond : System → SoundEvent → Prop) : System → Prop
  | reset (spu : SPU Runtime CapRuntime) (mem : SampleMemory) :
      Visited beyond doubles cond ⟨SPU_Reset spu,mem⟩
  | step {system next : System} (before : Visited beyond doubles cond system)
      (event : SoundEvent) (meets : cond system event)
      (moved : event.step beyond system next) : Visited beyond doubles cond next
  | load {saved system : System} (here : Visited beyond doubles cond saved)
      (before : Visited beyond doubles cond system) (keeps : doubles.Keeps saved.core)
      {ARM7_REG : IoMem} {junk : u64} {is after : Stream} {rest : List u8}
      {core : Core CapRuntime} (at_ : is.At (spu_savestate doubles saved.core ++ rest))
      (loaded : spu_loadstate doubles ARM7_REG junk system.core is = ((true, core), after)) :
      Visited beyond doubles cond ⟨core,saved.memory⟩

/-- No sample is changed under a channel that goes on playing it. -/
def KeepsSamples (system : System) (event : SoundEvent) : Prop :=
  let channels := system.core.spu.channels
  match event with
  | .write access =>
      ∀ num, KeepsSample (channels num) ((access.write system.memory system.core.spu).channels num)
  | .memory other =>
      ∀ num, (channels num).status = CHANSTAT_PLAY → (channels num).format = 2 →
        SameSample system.memory other (channels num)
  | .line _ => True

structure Restored (saved loaded : Core CapRuntime) : Prop where
  registers : ∀ num, (loaded.spu.channels num).registers = (saved.spu.channels num).registers
  totals : ∀ num, (saved.spu.channels num).status = CHANSTAT_PLAY →
    (loaded.spu.channels num).runtime.totlength = (saved.spu.channels num).runtime.totlength ∧
      (loaded.spu.channels num).runtime.double_totlength_shifted =
        (saved.spu.channels num).runtime.double_totlength_shifted
  sampcnt : ∀ num,
    (loaded.spu.channels num).runtime.sampcnt = (saved.spu.channels num).runtime.sampcnt
  sampinc : ∀ num,
    (loaded.spu.channels num).runtime.sampinc = (saved.spu.channels num).runtime.sampinc
  decoder : ∀ num,
    (loaded.spu.channels num).runtime.trail = (saved.spu.channels num).runtime.trail
  pcm16b_last : ∀ num,
    (loaded.spu.channels num).runtime.pcm16b_last = (saved.spu.channels num).runtime.pcm16b_last
  noise : ∀ num, SameNoise (saved.spu.channels num).runtime (loaded.spu.channels num).runtime
  control : { loaded.spu with channels := saved.spu.channels } = saved.spu
  samples : loaded.samples = saved.samples

/-- A savestate of the system, loaded into any core, restores it, and what is
mixed from the same memory from then on is the same. -/
def RoundTrips (beyond : Beyond) (doubles : Doubles) (system : System) : Prop :=
  ∀ (ARM7_REG : IoMem) (junk : u64) (core : Core CapRuntime) (is : Stream) (rest : List u8),
    is.At (spu_savestate doubles system.core ++ rest) →
      ∃ loaded, spu_loadstate doubles ARM7_REG junk core is =
          ((true, loaded), is.skip (spu_savestate doubles system.core).length) ∧
        Restored system.core loaded ∧
        ∀ hosts, emulateLines system.memory beyond hosts loaded =
          emulateLines system.memory beyond hosts system.core

section

variable {beyond : Beyond} {doubles : Doubles} {system next : System}

theorem restored_restored (settled : AllSettled system.memory beyond system.core.spu)
    (core : Core CapRuntime) : Restored system.core (system.core.restored core) where
  registers _ := rfl
  totals num playing := (restored_totals_iff _).mpr ((settled num).latched playing)
  sampcnt _ := rfl
  sampinc _ := rfl
  decoder _ := rfl
  pcm16b_last _ := rfl
  noise _ := ⟨rfl,rfl,rfl⟩
  control := rfl
  samples := rfl

theorem restored_indistinct (settled : AllSettled system.memory beyond system.core.spu)
    (core : Core CapRuntime) :
    Indistinct system.memory beyond system.core.spu (system.core.restored core).spu where
  channel num := restored_alike (settled num) (core.spu.channels num)
  mastervol := rfl
  masteren := rfl

theorem roundTrips_of_settled (settled : AllSettled system.memory beyond system.core.spu)
    (keeps : doubles.Keeps system.core) : RoundTrips beyond doubles system := by
  intro ARM7_REG junk core is rest at_
  have reads := spu_loadstate_reads ARM7_REG junk core (fun num => (settled num).storable) keeps
  refine ⟨system.core.restored core,reads is rest at_,restored_restored settled core,?_⟩
  intro hosts
  exact emulateLines_same hosts (restored_indistinct settled core) rfl

theorem cleared_settled (mem : SampleMemory) (beyond : Beyond) :
    Settled mem beyond Channel.cleared where
  storable := ⟨initial_bounded.pcm16b,initial_bounded.pcm16b,initial_bounded.pcm16b,
    initial_bounded.pcm16b⟩
  latched playing := absurd playing stopped_ne_play
  adpcm playing := absurd playing stopped_ne_play

theorem write_turned (mem : SampleMemory) (beyond : Beyond) (access : Access)
    {spu : SPU Runtime CapRuntime} (storable : ∀ num, Storable (spu.channels num).runtime) :
    AllTurned mem beyond spu (access.write mem spu) := by
  cases access with
  | byte addr val => exact @WriteByte_survives _ _ _ ⟨spu,[]⟩ _ (turned_survives storable) addr val
  | word addr val => exact @WriteWord_survives _ _ _ ⟨spu,[]⟩ _ (turned_survives storable) addr val
  | long addr val => exact @WriteLong_survives _ _ _ ⟨spu,[]⟩ _ (turned_survives storable) addr val

theorem step_settled {event : SoundEvent}
    (settled : AllSettled system.memory beyond system.core.spu)
    (meets : KeepsSamples system event) (moved : event.step beyond system next) :
    AllSettled next.memory beyond next.core.spu := by
  cases event with
  | write access =>
      cases moved
      have turned := write_turned system.memory beyond access fun num => (settled num).storable
      exact settled_turned settled turned meets
  | memory other =>
      cases moved
      exact fun num => settled_memory (settled num) (meets num)
  | line host =>
      obtain ⟨outbuf,core,emulated,rfl⟩ := moved
      exact emulate_settled settled emulated

theorem visited_settled (visited : Visited beyond doubles KeepsSamples system) :
    AllSettled system.memory beyond system.core.spu := by
  induction visited with
  | reset spu mem => exact fun _ => cleared_settled mem beyond
  | step before event meets moved ih =>
      exact step_settled ih meets moved
  | @load saved system here before keeps ARM7_REG junk is after rest core at_ loaded settled
      settledToo =>
      have reads := spu_loadstate_reads ARM7_REG junk system.core
        (fun num => (settled num).storable) keeps is rest at_
      rw [loaded] at reads
      cases reads
      exact fun num => restored_settled (settled num) (settledToo num).storable

end

/-- In every run that changes no sample under a playing channel, each state is
restored by its savestate and sounds the same from then on. -/
theorem sound_state_restored (beyond : Beyond) (doubles : Doubles) (system : System)
    (visited : Visited beyond doubles KeepsSamples system) (keeps : doubles.Keeps system.core) :
    RoundTrips beyond doubles system :=
  roundTrips_of_settled (visited_settled visited) keeps

def silentUnit : SPU Runtime CapRuntime where
  channels _ := Channel.cleared
  mastervol := 0
  ctl_left := 0
  ctl_right := 0
  ctl_ch1bypass := 0
  ctl_ch3bypass := 0
  masteren := 0
  soundbias := 0
  cap _ :=
    { add := 0
      source := 0
      oneshot := 0
      bits8 := 0
      active := 0
      dad := 0
      len := 0
      running := 0
      curdad := 0
      maxdad := 0
      runtime := ⟨0,⟨fun _ => 0, 0, 0, 0⟩⟩ }

def System.written (system : System) (access : Access) : System :=
  { system with
    core := { system.core with spu := access.write system.memory system.core.spu } }

/-- All channels are enabled, the first one is given a length and a key, and then
another length. -/
def enabledSystem : System :=
  (System.mk (SPU_Reset silentUnit) (sameBytes 0)).written (.word 0x500 0x8000)

def lengthenedSystem : System := enabledSystem.written (.long 0x40C 256)

def keyedSystem : System := lengthenedSystem.written (.long 0x400 0x80000000)

def rewrittenSystem : System := keyedSystem.written (.long 0x40C 512)

def fewDoubles : Doubles where
  double_to_u64 d :=
    if d = -3 then 0xC008000000000000 else if d = increment 0 then 0x3F77BFA248C57666 else 0
  u64_to_double bits :=
    if bits = 0xC008000000000000 then -3
    else if bits = 0x3F77BFA248C57666 then increment 0
    else 0

instance (doubles : Doubles) (d : ℚ) : Decidable (doubles.Exact d) :=
  inferInstanceAs (Decidable (_ = _))

theorem written_visited {cond : System → SoundEvent → Prop} {system : System}
    (before : Visited nothingBeyond fewDoubles cond system) {access : Access}
    (meets : cond system (.write access)) :
    Visited nothingBeyond fewDoubles cond (system.written access) :=
  before.step (.write access) meets rfl

theorem keepsSamples_silent {system : System}
    (silent : ∀ num, (system.core.spu.channels num).status ≠ CHANSTAT_PLAY) (access : Access) :
    KeepsSamples system (.write access) :=
  fun num playing => absurd playing (silent num)

theorem keyedSystem_visited : Visited nothingBeyond fewDoubles KeepsSamples keyedSystem := by
  have start : Visited nothingBeyond fewDoubles KeepsSamples
      (System.mk (SPU_Reset silentUnit) (sameBytes 0)) := .reset silentUnit (sameBytes 0)
  have enabled : Visited nothingBeyond fewDoubles KeepsSamples enabledSystem :=
    written_visited start (keepsSamples_silent (fun _ => stopped_ne_play) _)
  have lengthened : Visited nothingBeyond fewDoubles KeepsSamples lengthenedSystem :=
    written_visited enabled (keepsSamples_silent (by decide +kernel) _)
  exact written_visited lengthened (keepsSamples_silent (by decide +kernel) _)

theorem keyedSystem_keeps : fewDoubles.Keeps keyedSystem.core where
  samples := by decide +kernel
  sampcnt := by decide +kernel
  sampinc := by decide +kernel
  capture := by decide +kernel

theorem sound_state_restored_keyed :
    Visited nothingBeyond fewDoubles KeepsSamples keyedSystem ∧
      fewDoubles.Keeps keyedSystem.core ∧ RoundTrips nothingBeyond fewDoubles keyedSystem :=
  ⟨keyedSystem_visited,keyedSystem_keeps,
    sound_state_restored nothingBeyond fewDoubles keyedSystem keyedSystem_visited keyedSystem_keeps⟩

theorem Visited.weaken {beyond : Beyond} {doubles : Doubles}
    {cond weaker : System → SoundEvent → Prop}
    (weakens : ∀ system event, cond system event → weaker system event) {system : System}
    (visited : Visited beyond doubles cond system) : Visited beyond doubles weaker system := by
  induction visited with
  | reset spu mem => exact .reset spu mem
  | step _ event meets moved ih =>
      exact ih.step event (weakens _ _ meets) moved
  | load _ _ keeps at_ loaded saved before => exact .load saved before keeps at_ loaded

/-- A length that is written behind the key is taken for the one that was latched. -/
theorem sound_state_lost :
    ¬∀ system, Visited nothingBeyond fewDoubles (fun _ _ => True) system →
      fewDoubles.Keeps system.core → RoundTrips nothingBeyond fewDoubles system := by
  intro all
  have storable : ∀ num, Storable (rewrittenSystem.core.spu.channels num).runtime := by
    have settled := visited_settled keyedSystem_visited
    intro num
    rcases write_turned keyedSystem.memory nothingBeyond (.long 0x40C 512)
        (fun num => (settled num).storable) num
      with rewritten | here
    · exact rewritten.storable (settled num).storable
    · exact here.storable
  have keeps : fewDoubles.Keeps rewrittenSystem.core :=
    ⟨by decide +kernel,by decide +kernel,by decide +kernel,by decide +kernel⟩
  have visited : Visited nothingBeyond fewDoubles (fun _ _ => True) rewrittenSystem :=
    written_visited (keyedSystem_visited.weaken fun _ _ _ => trivial) trivial
  let is : Stream := ⟨⟨.memory,spu_savestate fewDoubles rewrittenSystem.core ++ [],0⟩,false⟩
  have at_ : is.At (spu_savestate fewDoubles rewrittenSystem.core ++ []) := ⟨rfl,rfl⟩
  obtain ⟨loaded,read,restored,-⟩ := all rewrittenSystem visited keeps (fun _ => 0) 0
    rewrittenSystem.core is [] at_
  have same := spu_loadstate_reads (fun _ => 0) 0 rewrittenSystem.core storable keeps is [] at_
  rw [read] at same
  obtain rfl : loaded = rewrittenSystem.core.restored rewrittenSystem.core :=
    congrArg (fun res => res.1.2) same
  have playing : (rewrittenSystem.core.spu.channels 0).status = CHANSTAT_PLAY := by decide +kernel
  have latched := (restored_totals_iff _).mp (restored.totals 0 playing)
  have ne : (rewrittenSystem.core.spu.channels 0).runtime.totlength ≠
      (rewrittenSystem.core.spu.channels 0).length +
        (rewrittenSystem.core.spu.channels 0).loopstart.setWidth 32 := by decide +kernel
  exact ne latched.totlength

section

variable {memories : SampleMemory → Prop} {beyond : Beyond} {mem : SampleMemory}
  {before system next : System} {num : Fin 16}

end

end Desmume.Sound
