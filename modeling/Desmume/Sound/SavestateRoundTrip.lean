/-
What a savestate of the sound unit restores.

All registers come back as they were.
-/

import Desmume.Lib.Table
import Desmume.Sound.AdpcmRange
import Desmume.Sound.Savestate

namespace Desmume.Sound

open Savestate Backup

/-- The values of `s16` that the mixer keeps. -/
structure Storable (run : Runtime) : Prop where
  pcm16b : InSample run.pcm16b
  pcm16b_last : InSample run.pcm16b_last
  loop_pcm16b : InSample run.loop_pcm16b
  psgnoise_last : InSample run.psgnoise_last

/-- The doubles of a core are stored as their bits. -/
structure Doubles.Keeps (doubles : Doubles) (core : Core CapRuntime) : Prop where
  samples : doubles.Exact core.samples
  sampcnt : ∀ num, doubles.Exact (core.spu.channels num).runtime.sampcnt
  sampinc : ∀ num, doubles.Exact (core.spu.channels num).runtime.sampinc
  capture : ∀ which, doubles.Exact (core.spu.cap which).runtime.sampcnt

theorem readField_reads {width : Nat} (narrow : width ≤ 8) (old saved : BitVec width) :
    Reads (readField old) (OSWRITE (fieldByte saved)) saved := by
  have cut : (fieldByte saved).setWidth width = saved := by
    unfold fieldByte
    rw [BitVec.setWidth_setWidth_of_le saved narrow,BitVec.setWidth_eq]
  have reads := (readle_reads (fieldByte old) (fieldByte saved)).bind_pure
    (fun val : u8 => val.setWidth width)
  rwa [cut] at reads

theorem readVolumeDiv_reads (old saved : BitVec 2) :
    Reads (readVolumeDiv old) (OSWRITE (fieldByte saved)) saved := by
  have cut : (if fieldByte saved = 4 then 3 else (fieldByte saved).setWidth 2) = saved := by
    unfold fieldByte
    revert saved
    decide
  have reads := (readle_reads (fieldByte old) (fieldByte saved)).bind_pure
    (fun val : u8 => if val = 4 then (3 : BitVec 2) else val.setWidth 2)
  rwa [cut] at reads

theorem sampleWord_toInt {val : Int} (inside : InSample val) : (sampleWord val).toInt = val := by
  obtain ⟨low,high⟩ := inside
  unfold sampleWord
  rw [BitVec.toInt_ofInt,Int.bmod_def]
  omega

theorem readSample_reads (old : Int) {saved : Int} (inside : InSample saved) :
    Reads (readSample old) (OSWRITE (sampleWord saved)) saved := by
  have reads := (readle_reads (sampleWord old) (sampleWord saved)).bind_pure BitVec.toInt
  rwa [sampleWord_toInt inside] at reads

section

variable {doubles : Doubles}

theorem loadPosition_reads (temp64 : u64) (run : Runtime) {saved : Runtime}
    (sampcnt : doubles.Exact saved.sampcnt) (sampinc : doubles.Exact saved.sampinc) :
    Reads (loadPosition doubles 6 temp64 run)
      (OSWRITE (doubles.double_to_u64 saved.sampcnt) ++
        OSWRITE (doubles.double_to_u64 saved.sampinc))
      (doubles.double_to_u64 saved.sampinc, saved.sampcnt, saved.sampinc) := by
  have recent : 2 ≤ (6 : u32).toNat := by decide
  have same : (doubles.double_to_u64 saved.sampinc, saved.sampcnt, saved.sampinc) =
      (doubles.double_to_u64 saved.sampinc,
        doubles.u64_to_double (doubles.double_to_u64 saved.sampcnt),
        doubles.u64_to_double (doubles.double_to_u64 saved.sampinc)) := by
    rw [sampcnt,sampinc]
  unfold loadPosition
  rw [if_pos recent,same]
  refine (readle_reads temp64 (doubles.double_to_u64 saved.sampcnt)).bind ?_
  exact (readle_reads _ (doubles.double_to_u64 saved.sampinc)).bind_pure _

def Channel.restored (saved old : Channel Runtime) : Channel Runtime :=
  let totlength := saved.length + saved.loopstart.setWidth 32
  { saved with
    runtime :=
      { saved.runtime with
        totlength := totlength
        double_totlength_shifted := ((totlength <<< format_shift saved.format).toNat : ℚ)
        loop_pcm16b := old.runtime.loop_pcm16b
        loop_index := K_ADPCM_LOOPING_RECOVERY_INDEX } }

theorem loadChannel_reads (temp64 : u64) (num : Fin 16) (old : Channel Runtime)
    {saved : Channel Runtime} (storable : Storable saved.runtime)
    (sampcnt : doubles.Exact saved.runtime.sampcnt)
    (sampinc : doubles.Exact saved.runtime.sampinc) :
    Reads (loadChannel doubles 6 temp64 old) (saveChannel doubles num saved)
      (doubles.double_to_u64 saved.runtime.sampinc, saved.restored old) := by
  have recent : 4 ≤ (6 : u32).toNat := by decide
  unfold loadChannel saveChannel
  simp only [List.append_assoc]
  refine (readle_reads 0 (BitVec.ofNat 32 num.val)).bind ?_
  refine (readField_reads (by omega) _ saved.vol).bind ?_
  refine (readVolumeDiv_reads _ saved.volumeDiv).bind ?_
  refine (readField_reads (by omega) _ saved.hold).bind ?_
  refine (readField_reads (by omega) _ saved.pan).bind ?_
  refine (readField_reads (by omega) _ saved.waveduty).bind ?_
  refine (readField_reads (by omega) _ saved.repeats).bind ?_
  refine (readField_reads (by omega) _ saved.format).bind ?_
  refine (readle_reads _ saved.status).bind ?_
  refine (readle_reads _ saved.addr).bind ?_
  refine (readle_reads _ saved.timer).bind ?_
  refine (readle_reads _ saved.loopstart).bind ?_
  refine (readle_reads _ saved.length).bind ?_
  rw [← List.append_assoc]
  refine (loadPosition_reads temp64 old.runtime sampcnt sampinc).bind ?_
  refine (readle_reads _ saved.runtime.lastsampcnt).bind ?_
  refine (readSample_reads _ storable.pcm16b).bind ?_
  refine (readSample_reads _ storable.pcm16b_last).bind ?_
  refine (readle_reads _ saved.runtime.index).bind ?_
  refine (readle_reads _ saved.runtime.x).bind ?_
  refine (readSample_reads _ storable.psgnoise_last).bind ?_
  simp only [if_pos recent]
  exact (readField_reads (by omega) _ saved.keyon).bind_pure _

variable (saved spu : SPU Runtime CapRuntime)

def SPU.withControl : SPU Runtime CapRuntime :=
  { saved with channels := spu.channels, cap := spu.cap }

theorem loadControl_reads :
    Reads (loadControl spu) (saveControl saved) (saved.withControl spu) := by
  unfold loadControl saveControl
  simp only [List.append_assoc]
  refine (readField_reads (by omega) _ saved.mastervol).bind ?_
  refine (readField_reads (by omega) _ saved.ctl_left).bind ?_
  refine (readField_reads (by omega) _ saved.ctl_right).bind ?_
  refine (readField_reads (by omega) _ saved.ctl_ch1bypass).bind ?_
  refine (readField_reads (by omega) _ saved.ctl_ch3bypass).bind ?_
  refine (readField_reads (by omega) _ saved.masteren).bind ?_
  exact (readle_reads _ saved.soundbias).bind_pure _

theorem loadCap_reads (junk : u64) (old : Cap CapRuntime) {saved : Cap CapRuntime}
    (sampcnt : doubles.Exact saved.runtime.sampcnt) :
    Reads (loadCap doubles junk old) (saveCap doubles saved)
      (saved.withFifo old.runtime.fifo) := by
  have same : saved.withFifo old.runtime.fifo =
      { saved with
        runtime :=
          { old.runtime with
            sampcnt := doubles.u64_to_double (doubles.double_to_u64 saved.runtime.sampcnt) } } := by
    rw [sampcnt]
    rfl
  rw [same]
  unfold loadCap saveCap
  simp only [List.append_assoc]
  refine (readField_reads (by omega) _ saved.add).bind ?_
  refine (readField_reads (by omega) _ saved.source).bind ?_
  refine (readField_reads (by omega) _ saved.oneshot).bind ?_
  refine (readField_reads (by omega) _ saved.bits8).bind ?_
  refine (readField_reads (by omega) _ saved.active).bind ?_
  refine (readle_reads _ saved.dad).bind ?_
  refine (readle_reads _ saved.len).bind ?_
  refine (readField_reads (by omega) _ saved.running).bind ?_
  refine (readle_reads _ saved.curdad).bind ?_
  refine (readle_reads _ saved.maxdad).bind ?_
  exact (readle_reads junk (doubles.double_to_u64 saved.runtime.sampcnt)).bind_pure _

theorem loadBuffer_reads (saved buffer : Fin 16 → u16) :
    Reads ((List.finRange 16).foldlM loadSample buffer)
      ((List.finRange 16).flatMap fun i => OSWRITE (saved i)) saved := by
  have reads := foldlM_reads (List.finRange 16)
    (fun buffer i _ => (readle_reads (buffer i) (saved i)).bind_pure
      (fun val => Function.update buffer i val)) buffer
  have all : (List.finRange 16).foldl (fun buffer i => Function.update buffer i (saved i)) buffer =
      saved := by
    funext i
    exact Table.storeAll_target (List.finRange 16) id saved Function.injective_id i
      (List.mem_finRange i) buffer
  rwa [all] at reads

theorem SPUFifo.load_reads (saved old : SPUFifo) : Reads old.load saved.save saved := by
  unfold SPUFifo.load SPUFifo.save
  simp only [List.append_assoc]
  refine (readWord_reads 0 1).bind ?_
  simp only [Bool.true_eq_false,if_false]
  refine (readle_reads _ saved.head).bind ?_
  refine (readle_reads _ saved.tail).bind ?_
  refine (readle_reads _ saved.size).bind ?_
  exact (loadBuffer_reads saved.buffer old.buffer).bind_pure _

def SPU.withCaps : SPU Runtime CapRuntime :=
  spu.setCaps ((saved.cap 0).withFifo (spu.cap 0).runtime.fifo)
    ((saved.cap 1).withFifo (spu.cap 1).runtime.fifo)

theorem loadCaps_reads (junk : u64) (saved spu : SPU Runtime CapRuntime)
    (capture : ∀ which, doubles.Exact (saved.cap which).runtime.sampcnt) :
    Reads (loadCaps doubles junk spu)
      (saveCap doubles (saved.cap 0) ++ saveCap doubles (saved.cap 1)) (saved.withCaps spu) := by
  unfold loadCaps
  refine (loadCap_reads junk (spu.cap 0) (capture 0)).bind ?_
  exact (loadCap_reads junk (spu.cap 1) (capture 1)).bind_pure _

def SPU.withFifos : SPU Runtime CapRuntime :=
  spu.setCaps ((spu.cap 0).withFifo (saved.cap 0).runtime.fifo)
    ((spu.cap 1).withFifo (saved.cap 1).runtime.fifo)

theorem loadFifos_reads :
    Reads (loadFifos spu)
      ((saved.cap 0).runtime.fifo.save ++ (saved.cap 1).runtime.fifo.save)
      (saved.withFifos spu) := by
  unfold loadFifos
  refine (SPUFifo.load_reads _ (spu.cap 0).runtime.fifo).bind ?_
  exact (SPUFifo.load_reads _ (spu.cap 1).runtime.fifo).bind_pure _

end

section

variable {doubles : Doubles}

def SPU.withChannels (saved spu : SPU Runtime CapRuntime) : SPU Runtime CapRuntime :=
  { spu with channels := fun num => (saved.channels num).restored (spu.channels num) }

def Core.restored (saved core : Core CapRuntime) : Core CapRuntime :=
  { saved with spu := { saved.spu with channels := (saved.spu.withChannels core.spu).channels } }

def afterRound (doubles : Doubles) (saved : SPU Runtime CapRuntime)
    (st : u64 × SPU Runtime CapRuntime) (j : Fin 16) : u64 × SPU Runtime CapRuntime :=
  (doubles.double_to_u64 (saved.channels j).runtime.sampinc,
    st.2.setChannel j ((saved.channels j).restored (st.2.channels j)))

variable {saved : SPU Runtime CapRuntime}

theorem loadRound_reads (st : u64 × SPU Runtime CapRuntime)
    (j : Fin 16) (storable : Storable (saved.channels j).runtime)
    (sampcnt : doubles.Exact (saved.channels j).runtime.sampcnt)
    (sampinc : doubles.Exact (saved.channels j).runtime.sampinc) :
    Reads (loadRound doubles 6 st j) (saveChannel doubles j (saved.channels j))
      (afterRound doubles saved st j) := by
  unfold loadRound afterRound
  rw [← List.append_nil (saveChannel doubles j (saved.channels j))]
  exact (loadChannel_reads st.1 j (st.2.channels j) storable sampcnt sampinc).bind
    (Reads.pure _)

theorem afterRounds_spu (saved : SPU Runtime CapRuntime) (indices : List (Fin 16))
    (st : u64 × SPU Runtime CapRuntime) :
    (indices.foldl (afterRound doubles saved) st).2 =
      { st.2 with
        channels := Table.changeAll st.2.channels indices fun j old =>
          (saved.channels j).restored old } := by
  induction indices generalizing st with
  | nil => rfl
  | cons j rest ih =>
      rw [List.foldl_cons,ih]
      rfl

theorem loadChannels_reads (junk : u64)
    (spu : SPU Runtime CapRuntime) (storable : ∀ num, Storable (saved.channels num).runtime)
    (sampcnt : ∀ num, doubles.Exact (saved.channels num).runtime.sampcnt)
    (sampinc : ∀ num, doubles.Exact (saved.channels num).runtime.sampinc) :
    ∃ temp64, Reads ((List.finRange 16).foldlM (loadRound doubles 6) (junk, spu))
      ((List.finRange 16).flatMap fun j => saveChannel doubles j (saved.channels j))
      (temp64, saved.withChannels spu) := by
  have reads := foldlM_reads (List.finRange 16)
    (fun st j _ => loadRound_reads st j (storable j) (sampcnt j) (sampinc j)) (junk, spu)
  have all : ((List.finRange 16).foldl (afterRound doubles saved) (junk, spu)).2 =
      saved.withChannels spu := by
    rw [afterRounds_spu]
    unfold SPU.withChannels
    dsimp only
    congr 1
    funext num
    exact Table.changeAll_of_mem (List.nodup_finRange 16) _ (List.mem_finRange num) _
  rw [← all]
  exact ⟨_,reads⟩

theorem restored_eq (saved core : Core CapRuntime) :
    { spu := saved.spu.withFifos (saved.spu.withCaps (saved.spu.withControl
        (saved.spu.withChannels (reconstruct core.spu)))), samples := saved.samples } =
      saved.restored core := by
  unfold Core.restored SPU.withFifos SPU.withCaps SPU.withControl SPU.withChannels SPU.setCaps
  dsimp only
  congr 2
  funext which
  match which with
  | 0 => rfl
  | 1 => rfl

theorem spu_loadstate_reads {saved : Core CapRuntime} (ARM7_REG : IoMem) (junk : u64)
    (core : Core CapRuntime) (storable : ∀ num, Storable (saved.spu.channels num).runtime)
    (keeps : doubles.Keeps saved) :
    Reads (spu_loadstate doubles ARM7_REG junk core) (spu_savestate doubles saved)
      (true, saved.restored core) := by
  obtain ⟨temp64,channels⟩ := loadChannels_reads junk (reconstruct core.spu) storable
    keeps.sampcnt keeps.sampinc
  have second : 2 ≤ (6 : u32).toNat := by decide
  have fourth : 4 ≤ (6 : u32).toNat := by decide
  have fifth : 5 ≤ (6 : u32).toNat := by decide
  have sixth : 6 ≤ (6 : u32).toNat := by decide
  rw [← restored_eq]
  unfold spu_loadstate spu_savestate
  simp only [List.append_assoc]
  refine (readWord_reads 0 6).bind ?_
  simp only [Bool.true_eq_false,if_false,if_pos second,if_pos fourth,if_pos fifth,
    if_pos sixth,if_neg (not_lt.mpr fourth)]
  refine channels.bind ?_
  refine (readle_reads temp64 (doubles.double_to_u64 saved.samples)).bind ?_
  rw [pure_bind,keeps.samples]
  refine (loadControl_reads saved.spu _).bind ?_
  rw [← List.append_assoc]
  refine (loadCaps_reads junk saved.spu _ keeps.capture).bind ?_
  exact (loadFifos_reads saved.spu _).bind_pure _

end

end Desmume.Sound
