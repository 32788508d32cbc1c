/-
The ADPCM decoder stays inside of its tables.

The index is bounded by the tables themselves, which end at 88; it comes from
outside only where a key or a restart takes it from the header of a sample,
whose seven bits reach further.
-/

import Desmume.Sound.ChannelRuns

namespace Desmume.Sound

open PartialRun

def InTable (i : u32) : Prop := i.toNat ≤ 88

/-- A value of `s16`. -/
def InSample (val : Int) : Prop := -0x8000 ≤ val ∧ val ≤ 0x7FFF

structure Bounded (run : Runtime) : Prop where
  index : InTable run.index
  loop_index : run.loop_index = K_ADPCM_LOOPING_RECOVERY_INDEX ∨ InTable run.loop_index
  pcm16b : InSample run.pcm16b
  loop_pcm16b : InSample run.loop_pcm16b

def LooksInside (mem : SampleMemory) (beyond : Beyond) (chan : Channel Runtime) : Prop :=
  ∀ k < (toDecode chan.runtime).length,
    InTable (((toDecode chan.runtime).take k).foldl
      (decodeNibble mem beyond chan.addr chan.loopstart) chan.runtime).index

def headerIndex (mem : SampleMemory) (addr : u32) : u32 :=
  (mem.read08 (addr + 2) &&& 0x7F).setWidth 32

/-- The event decodes a sample from its header. A loop does when the decoder has
not come to the point that it goes back to. -/
inductive TakesHeader (chan : Channel Runtime) : Event → SampleMemory → Prop
  | keyOn (mem : SampleMemory) (adpcm : chan.format = 2) :
      TakesHeader chan (.keyOn mem) mem
  | restart (mem : SampleMemory) (mixed : Bool) (playing : chan.status = CHANSTAT_PLAY)
      (adpcm : chan.format = 2) (long : ¬chan.runtime.totlength < 4)
      (past : chan.runtime.double_totlength_shifted < chan.runtime.sampcnt + chan.runtime.sampinc)
      (repeated : chan.repeats = 1)
      (recovers : chan.runtime.loop_index = K_ADPCM_LOOPING_RECOVERY_INDEX)
      (unpassed : mixed = true →
        chan.loopstart.setWidth 32 <<< 3 ∉ toDecode chan.runtime) :
      TakesHeader chan (.mix mem mixed) mem

def HeadersInside (chan : Channel Runtime) (event : Event) : Prop :=
  ∀ mem, TakesHeader chan event mem → InTable (headerIndex mem chan.addr)

def DecodesInside (beyond : Beyond) (chan : Channel Runtime) (event : Event) : Prop :=
  InSample chan.runtime.pcm16b ∧
    ∀ mem, event = .mix mem true → chan.status = CHANSTAT_PLAY → chan.format = 2 →
      LooksInside mem beyond chan

section

variable {mem : SampleMemory} {beyond : Beyond} {addr : u32} {loopstart : u16}

theorem minMax_inside (val : Int) {low high : Int} (order : low ≤ high) :
    low ≤ MinMax val low high ∧ MinMax val low high ≤ high := by
  unfold MinMax
  split
  · exact ⟨Int.le_refl low,order⟩
  · split <;> omega

theorem precalcindextbl_inside {j : u32} (inside : InTable j) (i : u32) :
    InTable (precalcindextbl beyond j i) := by
  unfold InTable at inside
  unfold precalcindextbl
  rw [if_pos (by omega)]
  obtain ⟨low,high⟩ := @minMax_inside (j.toNat + indextbl.getD i.toNat 0) 0 88 (by decide)
  unfold InTable
  rw [BitVec.toNat_ofInt]
  omega

theorem decodeNibble_bounded {run : Runtime} (bounded : Bounded run) (i : u32) :
    Bounded (decodeNibble mem beyond addr loopstart run i) := by
  have idx := @precalcindextbl_inside beyond run.index bounded.index
    (nibble mem addr i &&& 0x7)
  have sample := @minMax_inside
    (run.pcm16b + precalcdifftbl beyond run.index (nibble mem addr i &&& 0xF))
    (-0x8000) 0x7FFF (by decide)
  unfold decodeNibble
  dsimp only
  split
  · exact ⟨idx,.inr idx,sample,sample⟩
  · exact ⟨idx,bounded.loop_index,sample,bounded.loop_pcm16b⟩

theorem recovery_outside {i : u32} (inside : InTable i) : i ≠ K_ADPCM_LOOPING_RECOVERY_INDEX := by
  intro recovery
  rw [recovery] at inside
  unfold InTable at inside
  exact absurd inside (by decide)

theorem decode_recovers (positions : List u32) {run : Runtime} (bounded : Bounded run)
    (recovers : (positions.foldl (decodeNibble mem beyond addr loopstart) run).loop_index =
      K_ADPCM_LOOPING_RECOVERY_INDEX) :
    run.loop_index = K_ADPCM_LOOPING_RECOVERY_INDEX ∧
      loopstart.setWidth 32 <<< 3 ∉ positions := by
  induction positions generalizing run with
  | nil => exact ⟨recovers,List.not_mem_nil⟩
  | cons i rest ih =>
      have bounded' := @decodeNibble_bounded mem beyond addr loopstart run bounded i
      obtain ⟨here,later⟩ := ih bounded' recovers
      have idx := recovery_outside bounded'.index
      unfold decodeNibble at here idx
      dsimp only at here idx
      split at here
      · next point =>
        rw [if_pos point] at idx
        exact absurd here idx
      · next other =>
        refine ⟨here,?_⟩
        intro present
        cases present with
        | head => exact other rfl
        | tail _ behind => exact later behind

theorem fetch_recovers {chan : Channel Runtime} (bounded : Bounded chan.runtime)
    (recovers : (FetchADPCMData mem beyond chan).2.runtime.loop_index =
      K_ADPCM_LOOPING_RECOVERY_INDEX) :
    chan.runtime.loop_index = K_ADPCM_LOOPING_RECOVERY_INDEX ∧
      chan.loopstart.setWidth 32 <<< 3 ∉ toDecode chan.runtime := by
  unfold FetchADPCMData at recovers
  dsimp only at recovers
  split at recovers
  · next early =>
    refine ⟨recovers,?_⟩
    unfold toDecode
    rw [if_pos (.inl early)]
    exact List.not_mem_nil
  · exact decode_recovers _ bounded recovers

theorem s16_inside (word : u16) : InSample word.toInt := by
  have low := BitVec.le_toInt word
  have high := @BitVec.toInt_lt 16 word
  unfold InSample
  omega

end

section

variable {mem : SampleMemory} {beyond : Beyond} {chan next : Channel Runtime}

theorem noiseRound_bounded {run : Runtime} (bounded : Bounded run) : Bounded (noiseRound run) := by
  unfold noiseRound
  split
  · exact ⟨bounded.index,bounded.loop_index,bounded.pcm16b,bounded.loop_pcm16b⟩
  · exact ⟨bounded.index,bounded.loop_index,bounded.pcm16b,bounded.loop_pcm16b⟩

theorem bounded_kept : FetchKeeps mem beyond Bounded where
  nibble _ _ _ i bounded := decodeNibble_bounded bounded i
  noise _ bounded := noiseRound_bounded bounded
  lastsampcnt _ _ bounded :=
    ⟨bounded.index,bounded.loop_index,bounded.pcm16b,bounded.loop_pcm16b⟩

theorem moved_bounded (bounded : Bounded chan.runtime) (sampcnt : ℚ) :
    Bounded (chan.moved sampcnt).runtime :=
  ⟨bounded.index,bounded.loop_index,bounded.pcm16b,bounded.loop_pcm16b⟩

theorem restart_bounded (bounded : Bounded chan.runtime)
    (header : chan.runtime.loop_index = K_ADPCM_LOOPING_RECOVERY_INDEX →
      InTable (headerIndex mem chan.addr)) : Bounded (restart mem chan).runtime := by
  unfold restart
  dsimp only
  split
  · next recovers =>
    exact ⟨header recovers,bounded.loop_index,s16_inside _,bounded.loop_pcm16b⟩
  · next saved =>
    exact ⟨bounded.loop_index.resolve_left saved,bounded.loop_index,bounded.loop_pcm16b,
      bounded.loop_pcm16b⟩

theorem advance_bounded {rounds : Nat} (bounded : Bounded chan.runtime)
    (header : Loops chan → chan.runtime.loop_index = K_ADPCM_LOOPING_RECOVERY_INDEX →
      InTable (headerIndex mem chan.addr))
    (moved : advance mem rounds chan = some next) : Bounded next.runtime := by
  obtain ⟨sampcnt,rfl | rfl | ⟨rfl,loops⟩⟩ := advance_cases moved
  · exact moved_bounded bounded sampcnt
  · exact moved_bounded bounded sampcnt
  · exact restart_bounded (moved_bounded bounded sampcnt) (header loops)

theorem keyOn_bounded (bounded : Bounded chan.runtime)
    (header : chan.format = 2 → InTable (headerIndex mem chan.addr)) :
    Bounded (keyOnRuntime mem chan) := by
  unfold keyOnRuntime
  dsimp only
  split
  · next adpcm => exact ⟨header adpcm,.inl rfl,s16_inside _,bounded.loop_pcm16b⟩
  split
  · exact ⟨bounded.index,bounded.loop_index,bounded.pcm16b,bounded.loop_pcm16b⟩
  · exact ⟨bounded.index,bounded.loop_index,bounded.pcm16b,bounded.loop_pcm16b⟩

theorem event_bounded {num : Fin 16} {event : Event} (bounded : Bounded chan.runtime)
    (headers : HeadersInside chan event) (moved : event.step beyond num chan next) :
    Bounded next.runtime := by
  cases event with
  | rewrite regs =>
      cases moved
      exact bounded
  | adjust =>
      cases moved
      exact ⟨bounded.index,bounded.loop_index,bounded.pcm16b,bounded.loop_pcm16b⟩
  | keyOn mem =>
      cases moved
      exact keyOn_bounded bounded fun adpcm => headers mem (.keyOn mem adpcm)
  | keyOff =>
      cases moved
      exact bounded
  | mix mem mixed =>
      obtain ⟨rounds,data,updated⟩ := moved
      unfold ChanUpdate at updated
      split at updated
      · cases updated
        exact bounded
      · next notStopped =>
        have playing : chan.status = CHANSTAT_PLAY := not_not.mp notStopped
        obtain ⟨after,advanced,same⟩ := Option.map_eq_some_iff.mp updated
        cases same
        cases mixed with
        | false =>
            exact advance_bounded bounded
              (fun ⟨adpcm,long,past,repeated⟩ recovers =>
                headers mem (.restart mem false playing adpcm long past repeated recovers
                  (fun impossible => Bool.noConfusion impossible)))
              advanced
        | true =>
            change advance mem rounds (fetch mem beyond num chan).2 = some next at advanced
            obtain ⟨regs,pos⟩ := fetch_fetched mem beyond num chan
            have fmt := congrArg Channel.format regs
            have repeats := congrArg Channel.repeats regs
            have addr := congrArg Channel.addr regs
            change (fetch mem beyond num chan).2.addr = chan.addr at addr
            refine advance_bounded (bounded_kept.fetch num bounded) ?_ advanced
            rintro ⟨adpcm,long,past,repeated⟩ recovers
            have sameFormat : chan.format = 2 := fmt.symm.trans adpcm
            rw [pos.totlength] at long
            rw [pos.total,pos.sampcnt,pos.sampinc] at past
            rw [fetch_adpcm mem beyond num sameFormat] at recovers
            rw [addr]
            obtain ⟨marked,unpassed⟩ := fetch_recovers bounded recovers
            exact headers mem (.restart mem true playing sameFormat long past
              (repeats.symm.trans repeated) marked fun _ => unpassed)

theorem looks_inside (bounded : Bounded chan.runtime) (mem : SampleMemory) :
    LooksInside mem beyond chan :=
  fun _ _ => (foldl_keeps (bounded_kept.nibble chan.addr chan.loopstart) _ bounded).index

end

theorem initial_bounded : Bounded Runtime.initial where
  index := Nat.zero_le _
  loop_index := .inr (Nat.zero_le _)
  pcm16b := ⟨by decide,by decide⟩
  loop_pcm16b := ⟨by decide,by decide⟩

/-- In a run in which every header taken has an index of the tables, every
lookup is inside of them. -/
theorem adpcm_lookups_inside (beyond : Beyond) (num : Fin 16) (chan : Channel Runtime)
    (fresh : chan.runtime = Runtime.initial) (events : List Event)
    (headers : Along (Event.step beyond num) (HeadersInside) chan events) :
    Along (Event.step beyond num) (DecodesInside beyond) chan events := by
  have start : Bounded chan.runtime := by
    rw [fresh]
    exact initial_bounded
  have gives : ∀ (chan : Channel Runtime) (event : Event), Bounded chan.runtime →
      HeadersInside chan event → DecodesInside beyond chan event :=
    fun _ _ bounded _ => ⟨bounded.pcm16b,fun mem _ _ _ => looks_inside bounded mem⟩
  have keeps : ∀ (chan : Channel Runtime) (event : Event) (next : Channel Runtime),
      Bounded chan.runtime → HeadersInside chan event → event.step beyond num chan next →
      Bounded next.runtime :=
    fun _ _ _ bounded inside moved => event_bounded bounded inside moved
  exact along_of_along gives keeps start headers

def keyAndFetch (val : u8) : List Event :=
  [.keyOn (sameBytes val),.mix (sameBytes val) false,.mix (sameBytes val) true]

theorem adpcm_lookups_inside_plain :
    Along (Event.step nothingBeyond 0) HeadersInside adpcmChannel (keyAndFetch 88) ∧
      Along (Event.step nothingBeyond 0) (DecodesInside nothingBeyond) adpcmChannel
        (keyAndFetch 88) := by
  have inside : ∀ (chan : Channel Runtime) (event : Event),
      event ∈ keyAndFetch 88 → HeadersInside chan event := by
    intro chan event present mem taken
    have same : mem = sameBytes 88 := by
      simp only [keyAndFetch,List.mem_cons,List.not_mem_nil,or_false] at present
      rcases present with rfl | rfl | rfl <;> cases taken <;> rfl
    rw [same]
    change (((88 : u8) &&& 0x7F).setWidth 32 : u32).toNat ≤ 88
    decide
  have headers : Along (Event.step nothingBeyond 0) HeadersInside adpcmChannel
      (keyAndFetch 88) :=
    ⟨inside _ _ (by simp [keyAndFetch]),fun _ _ =>
      ⟨inside _ _ (by simp [keyAndFetch]),fun _ _ =>
        ⟨inside _ _ (by simp [keyAndFetch]),fun _ _ => trivial⟩⟩⟩
  exact ⟨headers,adpcm_lookups_inside nothingBeyond 0 adpcmChannel rfl _ headers⟩

def pastHeader : Channel Runtime :=
  (adpcmChannel.keyedOn (sameBytes 89)).moved (-3 + increment 0xFFFF)

theorem pastHeader_step : Event.step nothingBeyond 0 (adpcmChannel.keyedOn (sameBytes 89))
    (.mix (sameBytes 89) false) pastHeader := by
  have inside : ¬pastHeader.runtime.double_totlength_shifted < pastHeader.runtime.sampcnt := by
    decide +kernel
  refine ⟨0,0,?_⟩
  unfold ChanUpdate
  rw [if_neg (by decide)]
  change (advance (sameBytes 89) 0 (adpcmChannel.keyedOn (sameBytes 89))).map _ = _
  unfold advance
  rw [if_neg (by decide),if_neg (by decide),if_pos (by decide)]
  unfold TestForLoop2
  rw [if_neg (by decide)]
  change (if pastHeader.runtime.double_totlength_shifted < pastHeader.runtime.sampcnt then _
    else some pastHeader).map _ = _
  rw [if_neg inside]
  rfl

/-- A key on that sample looks behind the tables. -/
theorem adpcm_lookup_outside :
    ¬Along (Event.step nothingBeyond 0) (DecodesInside nothingBeyond) adpcmChannel
      (keyAndFetch 89) := by
  intro along
  have keyed := (along.2 (adpcmChannel.keyedOn (sameBytes 89)) rfl).2
  have last := (keyed pastHeader pastHeader_step).1.2 (sameBytes 89) rfl rfl rfl
  have first : 89 ≤ 88 := last 0 (by decide +kernel)
  exact absurd first (by decide)

end Desmume.Sound
