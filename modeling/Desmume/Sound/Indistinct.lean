/-
States that mixing cannot tell apart.

Two playing ADPCM channels need not carry the same: it is enough that they are
at the same position and that each follows the nibbles of the memory.
-/

import Desmume.Sound.AdpcmTrail

namespace Desmume.Sound

structure SameNoise (run other : Runtime) : Prop where
  lastsampcnt : other.lastsampcnt = run.lastsampcnt
  x : other.x = run.x
  psgnoise_last : other.psgnoise_last = run.psgnoise_last

structure Alike (mem : SampleMemory) (beyond : Beyond) (chan other : Channel Runtime) :
    Prop where
  registers : other.registers = chan.registers
  position : chan.status = CHANSTAT_PLAY → SamePosition chan.runtime other.runtime
  adpcm : chan.status = CHANSTAT_PLAY → chan.format = 2 →
    Follows mem beyond chan ∧ Follows mem beyond other
  noise : chan.status = CHANSTAT_PLAY → chan.format = 3 → SameNoise chan.runtime other.runtime

def AlikeResult {α : Type} (mem : SampleMemory) (beyond : Beyond)
    (res other : α × Channel Runtime) : Prop :=
  other.1 = res.1 ∧ Alike mem beyond res.2 other.2

section

variable {mem : SampleMemory} {beyond : Beyond} {chan other : Channel Runtime}

theorem SamePosition.symm {first second : Runtime} (same : SamePosition first second) :
    SamePosition second first :=
  ⟨same.totlength.symm,same.total.symm,same.sampcnt.symm,same.sampinc.symm⟩

theorem Alike.status (alike : Alike mem beyond chan other) : other.status = chan.status := by
  have same := congrArg Channel.status alike.registers
  exact same

theorem Alike.format (alike : Alike mem beyond chan other) : other.format = chan.format := by
  have same := congrArg Channel.format alike.registers
  exact same

theorem Alike.addr (alike : Alike mem beyond chan other) : other.addr = chan.addr := by
  have same := congrArg Channel.addr alike.registers
  exact same

theorem alike_plain (registers : other.registers = chan.registers)
    (position : SamePosition chan.runtime other.runtime) (notAdpcm : chan.format ≠ 2)
    (notNoise : chan.format ≠ 3) : Alike mem beyond chan other where
  registers := registers
  position _ := position
  adpcm _ adpcm := absurd adpcm notAdpcm
  noise _ noise := absurd noise notNoise

theorem noiseRound_same {run other : Runtime} (same : SameNoise run other) :
    SameNoise (noiseRound run) (noiseRound other) := by
  unfold noiseRound
  rw [same.x]
  by_cases low : run.x &&& 1 ≠ 0
  · rw [if_pos low,if_pos low]
    exact ⟨same.lastsampcnt,rfl,rfl⟩
  · rw [if_neg low,if_neg low]
    exact ⟨same.lastsampcnt,rfl,rfl⟩

theorem noise_same (rounds : List u32) {run other : Runtime} (same : SameNoise run other) :
    SameNoise (rounds.foldl (fun run _ => noiseRound run) run)
      (rounds.foldl (fun run _ => noiseRound run) other) := by
  induction rounds generalizing run other with
  | nil => exact same
  | cons _ rest ih => exact ih (noiseRound_same same)

theorem fetchPSG_alike (num : Fin 16) (regs : other.registers = chan.registers)
    (pos : SamePosition chan.runtime other.runtime) (noise : SameNoise chan.runtime other.runtime) :
    (FetchPSGData num other).1 = (FetchPSGData num chan).1 ∧
      SameNoise (FetchPSGData num chan).2.runtime (FetchPSGData num other).2.runtime := by
  have waveduty := congrArg Channel.waveduty regs
  change other.waveduty = chan.waveduty at waveduty
  unfold FetchPSGData
  dsimp only
  rw [pos.sampcnt,waveduty,noise.lastsampcnt,noise.psgnoise_last]
  split
  · exact ⟨rfl,noise⟩
  split
  · exact ⟨rfl,noise⟩
  split
  · exact ⟨rfl,noise⟩
  split
  · exact ⟨rfl,noise⟩
  · have shifted := noise_same (upTo chan.runtime.lastsampcnt (sputrunc chan.runtime.sampcnt)) noise
    exact ⟨shifted.psgnoise_last,rfl,shifted.x,shifted.psgnoise_last⟩

theorem fetchADPCM_alike (follows : Follows mem beyond chan)
    (followsToo : Follows mem beyond other) (regs : other.registers = chan.registers)
    (pos : SamePosition chan.runtime other.runtime) :
    (FetchADPCMData mem beyond other).1 = (FetchADPCMData mem beyond chan).1 := by
  have addr := congrArg Channel.addr regs
  change other.addr = chan.addr at addr
  by_cases early : chan.runtime.sampcnt < 8
  · have early' : other.runtime.sampcnt < 8 := by rwa [pos.sampcnt]
    rw [fetch_early early,fetch_early early']
  · have late : ¬other.runtime.sampcnt < 8 := by rwa [pos.sampcnt]
    rw [(fetch_follows follows early).1,(fetch_follows followsToo late).1,addr,
      pos.sampcnt]

theorem fetched_position {after afterOther : Channel Runtime}
    (regs : other.registers = chan.registers)
    (pos : SamePosition chan.runtime other.runtime) (fetched : Fetched chan after)
    (fetchedToo : Fetched other afterOther) :
    afterOther.registers = after.registers ∧ SamePosition after.runtime afterOther.runtime :=
  ⟨fetchedToo.registers.trans (regs.trans fetched.registers.symm),
    fetched.position.symm.trans (pos.trans fetchedToo.position)⟩

theorem fetch_alike (num : Fin 16) (alike : Alike mem beyond chan other)
    (playing : chan.status = CHANSTAT_PLAY) :
    AlikeResult mem beyond (fetch mem beyond num chan) (fetch mem beyond num other) := by
  have pos := alike.position playing
  have fetched := fetch_fetched mem beyond num chan
  obtain ⟨registers',position'⟩ := fetched_position alike.registers pos fetched
    (fetch_fetched mem beyond num other)
  have fmt := congrArg Channel.format fetched.registers
  change (fetch mem beyond num chan).2.format = chan.format at fmt
  by_cases adpcm : chan.format = 2
  · obtain ⟨follows,followsToo⟩ := alike.adpcm playing adpcm
    have adpcm' := alike.format.trans adpcm
    rw [fetch_adpcm mem beyond num adpcm] at registers' position' fmt ⊢
    rw [fetch_adpcm mem beyond num adpcm'] at registers' position' ⊢
    refine ⟨fetchADPCM_alike follows followsToo alike.registers pos,registers',
      fun _ => position', fun _ _ => ⟨follows_fetched follows,follows_fetched followsToo⟩, ?_⟩
    intro _ noise
    exact absurd (adpcm.symm.trans (fmt.symm.trans noise)) (by decide)
  by_cases psg : chan.format = 3
  · obtain ⟨data,noise⟩ := fetchPSG_alike num alike.registers pos (alike.noise playing psg)
    have eq : fetch mem beyond num chan = FetchPSGData num chan := by
      unfold fetch
      rw [if_neg (by rw [psg]; decide),if_neg (by rw [psg]; decide),if_neg adpcm]
    have eq' : fetch mem beyond num other = FetchPSGData num other := by
      unfold fetch
      rw [alike.format,if_neg (by rw [psg]; decide),if_neg (by rw [psg]; decide),if_neg adpcm]
    rw [eq] at registers' position' fmt ⊢
    rw [eq'] at registers' position' ⊢
    refine ⟨data,registers',fun _ => position', ?_, fun _ _ => noise⟩
    intro _ adpcm'
    exact absurd (fmt.symm.trans adpcm') adpcm
  · refine ⟨?_,alike_plain registers' position' (by rwa [fmt]) (by rwa [fmt])⟩
    unfold fetch
    rw [alike.format,if_neg adpcm]
    by_cases eight : chan.format = 0
    · rw [if_pos eight,if_pos eight]
      unfold Fetch8BitData
      dsimp only
      rw [pos.sampcnt,alike.addr]
    by_cases sixteen : chan.format = 1
    · rw [if_neg eight,if_neg eight,if_pos sixteen,if_pos sixteen]
      unfold Fetch16BitData
      dsimp only
      rw [pos.sampcnt,alike.addr]
    · have others : chan.format = 3 := by
        revert adpcm eight sixteen
        generalize chan.format = fmt
        revert fmt
        decide
      exact absurd others psg

end

section

variable {mem : SampleMemory} {beyond : Beyond} {chan other : Channel Runtime}

theorem Alike.repeats (alike : Alike mem beyond chan other) : other.repeats = chan.repeats := by
  have same := congrArg Channel.repeats alike.registers
  exact same

theorem Alike.loopPoint (alike : Alike mem beyond chan other) (shift : Nat) :
    loopPoint other shift = loopPoint chan shift := by
  have same := congrArg Channel.loopstart alike.registers
  change other.loopstart = chan.loopstart at same
  unfold Sound.loopPoint
  rw [same]

theorem moved_position (pos : SamePosition chan.runtime other.runtime) (sampcnt : ℚ) :
    SamePosition (chan.moved sampcnt).runtime (other.moved sampcnt).runtime :=
  ⟨pos.totlength,pos.total,rfl,pos.sampinc⟩

theorem moved_registers (regs : other.registers = chan.registers) (sampcnt : ℚ) :
    (other.moved sampcnt).registers = (chan.moved sampcnt).registers := regs

theorem ended_alike (registers : other.registers = chan.registers) :
    Alike mem beyond chan.ended other.ended where
  registers := congrArg (fun registers => { registers with status := CHANSTAT_STOPPED }) registers
  position playing := absurd playing stopped_ne_play
  adpcm playing := absurd playing stopped_ne_play
  noise playing := absurd playing stopped_ne_play

variable {rounds : Nat}

theorem testForLoop_alike {shift : Nat} (alike : Alike mem beyond chan other)
    (playing : chan.status = CHANSTAT_PLAY) (notAdpcm : chan.format ≠ 2)
    (notNoise : chan.format ≠ 3) :
    Option.Rel (Alike mem beyond) (TestForLoop rounds shift chan)
      (TestForLoop rounds shift other) := by
  have pos := alike.position playing
  have moved (sampcnt : ℚ) : Alike mem beyond (chan.moved sampcnt) (other.moved sampcnt) :=
    alike_plain (moved_registers alike.registers sampcnt) (moved_position pos sampcnt)
      notAdpcm notNoise
  by_cases past : chan.runtime.double_totlength_shifted <
      chan.runtime.sampcnt + chan.runtime.sampinc
  · have past' : other.runtime.double_totlength_shifted <
        other.runtime.sampcnt + other.runtime.sampinc := by
      rwa [pos.total,pos.sampcnt,pos.sampinc]
    by_cases repeated : chan.repeats = 1
    · rw [testForLoop_past past repeated,testForLoop_past past' (alike.repeats.trans repeated),
        alike.loopPoint,pos.total,pos.sampcnt,pos.sampinc]
      cases loopBack rounds chan.runtime.double_totlength_shifted
          (chan.runtime.double_totlength_shifted - loopPoint chan shift)
          (chan.runtime.sampcnt + chan.runtime.sampinc) with
      | none => exact .none
      | some left => exact .some (moved left)
    · rw [testForLoop_over past repeated,testForLoop_over past' (by
        rwa [← alike.repeats] at repeated)]
      exact .some (ended_alike alike.registers)
  · have inside : ¬other.runtime.double_totlength_shifted <
        other.runtime.sampcnt + other.runtime.sampinc := by
      rwa [pos.total,pos.sampcnt,pos.sampinc]
    rw [testForLoop_inside past,testForLoop_inside inside,pos.sampcnt,pos.sampinc]
    exact .some (moved _)

theorem testForLoop2_alike (alike : Alike mem beyond chan other)
    (playing : chan.status = CHANSTAT_PLAY) (adpcm : chan.format = 2) :
    Option.Rel (Alike mem beyond) (TestForLoop2 mem rounds chan)
      (TestForLoop2 mem rounds other) := by
  have pos := alike.position playing
  obtain ⟨follows,followsToo⟩ := alike.adpcm playing adpcm
  have forward := follows.forward
  have notNoise : chan.format ≠ 3 := by
    rw [adpcm]
    decide
  by_cases short : chan.runtime.totlength < 4
  · have short' : other.runtime.totlength < 4 := by rwa [pos.totlength]
    rw [testForLoop2_short short,testForLoop2_short short']
    exact .some alike
  have long : ¬other.runtime.totlength < 4 := by rwa [pos.totlength]
  by_cases past : chan.runtime.double_totlength_shifted <
      chan.runtime.sampcnt + chan.runtime.sampinc
  · have past' : other.runtime.double_totlength_shifted <
        other.runtime.sampcnt + other.runtime.sampinc := by
      rwa [pos.total,pos.sampcnt,pos.sampinc]
    by_cases repeated : chan.repeats = 1
    · rw [testForLoop2_past short past repeated,
        testForLoop2_past long past' (alike.repeats.trans repeated),alike.loopPoint,
        pos.total,pos.sampcnt,pos.sampinc]
      cases ended : loopBack rounds chan.runtime.double_totlength_shifted
          (chan.runtime.double_totlength_shifted - loopPoint chan 3)
          (chan.runtime.sampcnt + chan.runtime.sampinc) with
      | none => exact .none
      | some left =>
          -- both decoders go on from the header or from the loop point
          have above := loopBack_above past ended
          have inside := loopBack_left ended
          have above' : loopPoint other 3 < left := by
            rw [alike.loopPoint]
            linarith
          have inside' : left ≤ other.runtime.double_totlength_shifted := by
            rwa [pos.total]
          refine .some ⟨?_,fun _ => ?_, fun _ _ => ⟨?_,?_⟩, ?_⟩
          · rw [restart_registers,restart_registers]
            exact moved_registers alike.registers left
          · exact (restart_position _).symm.trans
              ((moved_position pos left).trans (restart_position _))
          · exact follows_restart follows (by linarith) inside
          · exact follows_restart followsToo above' inside'
          · intro _ noise
            have fmt := congrArg Channel.format
              (@restart_registers mem (chan.moved left))
            exact absurd (fmt.symm.trans noise) notNoise
    · rw [testForLoop2_over short past repeated,testForLoop2_over long past' (by
        rwa [← alike.repeats] at repeated)]
      exact .some (ended_alike alike.registers)
  · have inside : ¬other.runtime.double_totlength_shifted <
        other.runtime.sampcnt + other.runtime.sampinc := by
      rwa [pos.total,pos.sampcnt,pos.sampinc]
    rw [testForLoop2_inside short past,testForLoop2_inside long inside,pos.sampcnt,
      pos.sampinc]
    refine .some ⟨moved_registers alike.registers _,fun _ => moved_position pos _,
      fun _ _ => ⟨follows_moved follows (by linarith) (not_lt.mp past),
        follows_moved followsToo ?_ ?_⟩, fun _ noise => absurd noise notNoise⟩
    · rw [pos.sampcnt]
      linarith
    · rw [pos.total]
      exact not_lt.mp past

theorem advance_alike (alike : Alike mem beyond chan other)
    (playing : chan.status = CHANSTAT_PLAY) :
    Option.Rel (Alike mem beyond) (advance mem rounds chan)
      (advance mem rounds other) := by
  unfold advance
  rw [alike.format]
  by_cases eight : chan.format = 0
  · rw [if_pos eight,if_pos eight]
    exact testForLoop_alike alike playing (by rw [eight]; decide) (by rw [eight]; decide)
  by_cases sixteen : chan.format = 1
  · rw [if_neg eight,if_neg eight,if_pos sixteen,if_pos sixteen]
    exact testForLoop_alike alike playing (by rw [sixteen]; decide) (by rw [sixteen]; decide)
  by_cases adpcm : chan.format = 2
  · rw [if_neg eight,if_neg eight,if_neg sixteen,if_neg sixteen,if_pos adpcm,if_pos adpcm]
    exact testForLoop2_alike alike playing adpcm
  · have pos := alike.position playing
    rw [if_neg eight,if_neg eight,if_neg sixteen,if_neg sixteen,if_neg adpcm,if_neg adpcm,
      pos.sampcnt,pos.sampinc]
    exact .some ⟨moved_registers alike.registers _,fun _ => moved_position pos _,
      fun _ adpcm' => absurd adpcm' adpcm, fun _ noise =>
        ⟨(alike.noise playing noise).lastsampcnt,(alike.noise playing noise).x,
          (alike.noise playing noise).psgnoise_last⟩⟩

theorem chanUpdate_alike (num : Fin 16) (mixed : Bool) (alike : Alike mem beyond chan other) :
    Option.Rel (AlikeResult mem beyond) (ChanUpdate mem beyond rounds num mixed chan)
      (ChanUpdate mem beyond rounds num mixed other) := by
  unfold ChanUpdate
  rw [alike.status]
  by_cases playing : chan.status = CHANSTAT_PLAY
  · rw [if_neg (not_not.mpr playing),if_neg (not_not.mpr playing)]
    cases mixed with
    | false => exact Lockstep.map (advance_alike alike playing) fun _ _ moved => ⟨rfl,moved⟩
    | true =>
        obtain ⟨data,fetched⟩ := fetch_alike num alike playing
        have playing' : (fetch mem beyond num chan).2.status = CHANSTAT_PLAY :=
          (congrArg Channel.status (fetch_fetched mem beyond num chan).registers).trans playing
        exact Lockstep.map (advance_alike fetched playing') fun _ _ moved => ⟨data,moved⟩
  · rw [if_pos playing,if_pos playing]
    exact .some ⟨rfl,alike⟩

theorem spuChanUpdate_alike (num : Fin 16) (mixed : Bool) (length : Nat)
    (alike : Alike mem beyond chan other) :
    Option.Rel (AlikeResult mem beyond)
      (SPU_ChanUpdate mem beyond rounds mixed num length chan)
      (SPU_ChanUpdate mem beyond rounds mixed num length other) := by
  induction length generalizing chan other with
  | zero => exact .some ⟨rfl,alike⟩
  | succ length ih =>
      unfold SPU_ChanUpdate
      refine Lockstep.bind (chanUpdate_alike num mixed alike) ?_
      rintro ⟨data,next⟩ ⟨data',next'⟩ ⟨same,moved⟩
      refine Lockstep.map (ih moved) ?_
      rintro ⟨rest,last⟩ ⟨rest',last'⟩ ⟨same',moved'⟩
      exact ⟨congrArg₂ List.cons same same',moved'⟩

end

/-! ### The sound unit -/

section

variable {F : Type} {mem : SampleMemory} {beyond : Beyond}

structure Indistinct (mem : SampleMemory) (beyond : Beyond) (spu other : SPU Runtime F) :
    Prop where
  channel : ∀ num, Alike mem beyond (spu.channels num) (other.channels num)
  mastervol : other.mastervol = spu.mastervol
  masteren : other.masteren = spu.masteren

theorem Indistinct.setChannel {spu other : SPU Runtime F} {next next' : Channel Runtime}
    (same : Indistinct mem beyond spu other) (i : Fin 16) (alike : Alike mem beyond next next') :
    Indistinct mem beyond (spu.setChannel i next) (other.setChannel i next') := by
  refine ⟨?_,same.mastervol,same.masteren⟩
  intro num
  unfold SPU.setChannel
  dsimp only
  by_cases here : num = i
  · rw [here,Function.update_self,Function.update_self]
    exact alike
  · rw [Function.update_of_ne here,Function.update_of_ne here]
    exact same.channel num

def SameMix (mem : SampleMemory) (beyond : Beyond)
    (mixing other : List (Int × Int) × SPU Runtime F) : Prop :=
  other.1 = mixing.1 ∧ Indistinct mem beyond mixing.2 other.2

theorem SPU_Mix_alike {chan other : Channel Runtime} (alike : Alike mem beyond chan other) :
    SPU_Mix other = SPU_Mix chan := by
  have vol := congrArg Channel.vol alike.registers
  have volumeDiv := congrArg Channel.volumeDiv alike.registers
  have pan := congrArg Channel.pan alike.registers
  change other.vol = chan.vol at vol
  change other.volumeDiv = chan.volumeDiv at volumeDiv
  change other.pan = chan.pan at pan
  funext data
  unfold SPU_Mix
  rw [vol,volumeDiv,pan]

theorem mixChannel_same (host : MixHost) (length : Nat)
    (mixing other : List (Int × Int) × SPU Runtime F) (i : Fin 16)
    (same : SameMix mem beyond mixing other) :
    Option.Rel (SameMix mem beyond) (mixChannel mem beyond host length mixing i)
      (mixChannel mem beyond host length other i) := by
  obtain ⟨sndbuf,spu⟩ := mixing
  obtain ⟨sndbuf',spu'⟩ := other
  obtain ⟨buffer,indistinct⟩ := same
  have alike := indistinct.channel i
  change sndbuf' = sndbuf at buffer
  unfold mixChannel
  dsimp only at alike ⊢
  rw [alike.status,buffer]
  by_cases playing : (spu.channels i).status = CHANSTAT_PLAY
  · rw [if_neg (not_not.mpr playing),if_neg (not_not.mpr playing)]
    refine Lockstep.map (spuChanUpdate_alike i _ length alike) ?_
    rintro ⟨data,next⟩ ⟨data',next'⟩ ⟨here,moved⟩
    change data' = data at here
    refine ⟨?_,indistinct.setChannel i moved⟩
    dsimp only
    rw [here,SPU_Mix_alike alike]
  · rw [if_pos playing,if_pos playing]
    exact .some ⟨rfl,indistinct⟩

theorem mixAudio_same (host : MixHost) (length : Nat) {spu other : SPU Runtime F}
    (indistinct : Indistinct mem beyond spu other) :
    Option.Rel (SameMix mem beyond) (SPU_MixAudio mem beyond host length spu)
      (SPU_MixAudio mem beyond host length other) := by
  unfold SPU_MixAudio
  dsimp only
  rw [indistinct.masteren]
  by_cases off : spu.masteren = 0
  · rw [if_pos off,if_pos off]
    exact .some ⟨rfl,indistinct⟩
  · rw [if_neg off,if_neg off]
    refine Lockstep.map (Lockstep.foldlM (mixChannel_same host length) _ ⟨rfl,indistinct⟩) ?_
    rintro ⟨sndbuf,after⟩ ⟨sndbuf',after'⟩ ⟨buffer,moved⟩
    change sndbuf' = sndbuf at buffer
    refine ⟨?_,moved⟩
    dsimp only
    rw [buffer,moved.mastervol]

theorem emulateLines_same (hosts : List MixHost) {core other : Core F}
    (indistinct : Indistinct mem beyond core.spu other.spu)
    (samples : other.samples = core.samples) :
    emulateLines mem beyond hosts other = emulateLines mem beyond hosts core := by
  induction hosts generalizing core other with
  | nil => rfl
  | cons host rest ih =>
      unfold emulateLines SPU_Emulate_core
      dsimp only
      rw [samples,Option.bind_map,Option.bind_map]
      have mixed := mixAudio_same host (core.samples + samples_per_hline).floor.toNat indistinct
      refine (Lockstep.eq_of_rel (Lockstep.bind mixed ?_)).symm
      rintro ⟨outbuf,spu⟩ ⟨outbuf',spu'⟩ ⟨buffer,moved⟩
      change outbuf' = outbuf at buffer
      dsimp only [Function.comp_apply]
      rw [buffer,@ih ⟨spu,_⟩ ⟨spu',_⟩ moved rfl]
      cases emulateLines mem beyond rest _ with
      | none => exact .none
      | some outbufs => exact .some rfl

end

end Desmume.Sound
