/-
The ADPCM sample at a position.

Where the header has an index of the tables, what the decoder carries is the
sample and the row of the tables that ADPCM defines from the header.
-/

import Desmume.Sound.AdpcmTrail

namespace Desmume.Sound

open PartialRun

structure Decoder where
  pcm16b : Int
  index : Nat

section

variable (mem : SampleMemory) (addr : u32)

def Decoder.header : Decoder where
  pcm16b := (mem.read16 addr).toInt
  index := (headerIndex mem addr).toNat

def Decoder.next (decoder : Decoder) (i : Nat) : Decoder :=
  let data4bit := nibble mem addr (BitVec.ofNat 32 i)
  let step := adpcmtbl.getD decoder.index 0
  let diff : Int := (((data4bit &&& 0x7) * 2 + 1).toNat * step / 8 : Nat)
  { pcm16b :=
      MinMax (decoder.pcm16b + if data4bit &&& 0x8 ≠ 0 then -diff else diff) (-0x8000) 0x7FFF
    index := (MinMax (decoder.index + indextbl.getD (data4bit &&& 0x7).toNat 0) 0 88).toNat }

/-- The nibbles from 8 up to the position, from the header. -/
def Decoder.upTo (pos : Nat) : Decoder :=
  (List.range' 8 (pos - 7)).foldl (Decoder.next mem addr) (Decoder.header mem addr)

end

section

variable {mem : SampleMemory} {beyond : Beyond} {addr : u32} {loopstart : u16}

theorem upTo_succ {pos : Nat} (past : 7 ≤ pos) :
    Decoder.upTo mem addr (pos + 1) =
      (Decoder.upTo mem addr pos).next mem addr (pos + 1) := by
  have n : pos + 1 - 7 = pos - 7 + 1 := by omega
  have last : 8 + 1 * (pos - 7) = pos + 1 := by omega
  unfold Decoder.upTo
  rw [n,List.range'_concat,List.foldl_append,last]
  rfl

structure Matches (decoder : Decoder) (pcm16b : Int) (i : u32) : Prop where
  sample : pcm16b = decoder.pcm16b
  row : i.toNat = decoder.index
  inside : InTable i

theorem precalcdifftbl_eq {j : u32} (inside : InTable j) (i : u32) :
    precalcdifftbl beyond j (i &&& 0xF) =
      let diff : Int := (((i &&& 0x7) * 2 + 1).toNat * adpcmtbl.getD j.toNat 0 / 8 : Nat)
      if i &&& 0x8 ≠ 0 then -diff else diff := by
  have size : j.toNat < adpcmtbl.length := Nat.lt_succ_of_le inside
  have low : i &&& 0xF &&& 0x7 = i &&& 0x7 := by rw [BitVec.and_assoc]; rfl
  have sign : i &&& 0xF &&& 0x8 = i &&& 0x8 := by rw [BitVec.and_assoc]; rfl
  unfold precalcdifftbl
  rw [List.getElem?_eq_getElem size,low,sign,List.getD_eq_getElem _ _ size]

theorem precalcindextbl_toNat {j : u32} (inside : InTable j) (i : u32) :
    (precalcindextbl beyond j i).toNat =
      (MinMax (j.toNat + indextbl.getD i.toNat 0) 0 88).toNat := by
  obtain ⟨low,high⟩ := @minMax_inside (j.toNat + indextbl.getD i.toNat 0) 0 88 (by decide)
  unfold InTable at inside
  unfold precalcindextbl
  rw [if_pos (by omega),BitVec.toNat_ofInt]
  omega

structure DecodedTo (mem : SampleMemory) (addr : u32) (loopstart : u16) (pos : Nat)
    (run : Runtime) : Prop where
  sample : Matches (Decoder.upTo mem addr pos) run.pcm16b run.index
  kept : run.loop_index = K_ADPCM_LOOPING_RECOVERY_INDEX ∨
    8 ≤ loopstart.toNat * 8 ∧
      Matches (Decoder.upTo mem addr (loopstart.toNat * 8)) run.loop_pcm16b run.loop_index

theorem trail_matches (header : InTable (headerIndex mem addr)) (pos : Nat) :
    Matches (Decoder.upTo mem addr pos) (Trail.upTo mem beyond addr pos).pcm16b
      (Trail.upTo mem beyond addr pos).index := by
  induction pos with
  | zero => exact ⟨rfl,rfl,header⟩
  | succ pos ih =>
      by_cases past : 7 ≤ pos
      · obtain ⟨sample,row,inside⟩ := ih
        rw [upTo_succ past,trail_succ past]
        refine ⟨?_,?_,precalcindextbl_inside inside _⟩
        · unfold Trail.next
          dsimp only
          rw [precalcdifftbl_eq inside,sample,row]
          rfl
        · unfold Trail.next
          dsimp only
          rw [precalcindextbl_toNat inside,row]
          rfl
      · have early : pos + 1 - 7 = 0 := by omega
        unfold Decoder.upTo Trail.upTo
        rw [early]
        exact ⟨rfl,rfl,header⟩

theorem matches_iff (header : InTable (headerIndex mem addr)) (pos : Nat) (trail : Trail) :
    Matches (Decoder.upTo mem addr pos) trail.pcm16b trail.index ↔
      trail = Trail.upTo mem beyond addr pos := by
  have here := @trail_matches mem beyond addr header pos
  constructor
  · intro found
    have sample := found.sample.trans here.sample.symm
    have i := BitVec.eq_of_toNat_eq (found.row.trans here.row.symm)
    cases trail
    exact Trail.mk.injEq .. ▸ ⟨sample,i⟩
  · rintro rfl
    exact here

theorem decodedTo_iff (header : InTable (headerIndex mem addr)) (pos : Nat) (run : Runtime) :
    DecodedTo mem addr loopstart pos run ↔
      TrailedTo mem beyond addr loopstart pos run := by
  have sample := @matches_iff mem beyond addr header pos run.trail
  have kept := @matches_iff mem beyond addr header (loopstart.toNat * 8) run.loopTrail
  constructor
  · rintro ⟨decoded,snapshot⟩
    exact ⟨sample.mp decoded,snapshot.imp_right fun ⟨late,point⟩ => ⟨late,kept.mp point⟩⟩
  · rintro ⟨trailed,snapshot⟩
    exact ⟨sample.mpr trailed,snapshot.imp_right fun ⟨late,point⟩ => ⟨late,kept.mpr point⟩⟩

end

/-- A playing ADPCM channel has decoded up to `lastsampcnt`, which the position
has not gone back behind. -/
structure Tracks (mem : SampleMemory) (chan : Channel Runtime) : Prop where
  header : InTable (headerIndex mem chan.addr)
  decoded : DecodedTo mem chan.addr chan.loopstart chan.runtime.lastsampcnt.toNat chan.runtime
  started : 7 ≤ chan.runtime.lastsampcnt.toNat
  behind : chan.runtime.lastsampcnt.toNat = 7 ∨
    (chan.runtime.lastsampcnt.toNat : ℚ) ≤ chan.runtime.sampcnt
  forward : 0 ≤ chan.runtime.sampinc
  inside : chan.runtime.sampcnt ≤ chan.runtime.double_totlength_shifted
  small : chan.runtime.double_totlength_shifted ≤ 2 ^ 32 - 8

section

variable {mem : SampleMemory} {beyond : Beyond} {chan next : Channel Runtime}

theorem tracks_iff : Tracks mem chan ↔
    InTable (headerIndex mem chan.addr) ∧ Follows mem beyond chan := by
  constructor
  · rintro ⟨header,decoded,started,behind,forward,inside,small⟩
    exact ⟨header,(decodedTo_iff header _ _).mp decoded,started,behind,forward,inside,small⟩
  · rintro ⟨header,trailed,started,behind,forward,inside,small⟩
    exact ⟨header,(decodedTo_iff header _ _).mpr trailed,started,behind,forward,inside,small⟩

theorem fetch_tracks (tracks : Tracks mem chan) (late : ¬chan.runtime.sampcnt < 8) :
    (FetchADPCMData mem beyond chan).1 =
      (Decoder.upTo mem chan.addr chan.runtime.sampcnt.floor.toNat).pcm16b := by
  obtain ⟨header,follows⟩ := tracks_iff.mp tracks
  rw [(fetch_follows follows late).1]
  exact (trail_matches header _).sample

theorem tracks_fetched (beyond : Beyond) (num : Fin 16) (tracks : Tracks mem chan)
    (adpcm : chan.format = 2) : Tracks mem (fetch mem beyond num chan).2 := by
  obtain ⟨header,follows⟩ := (@tracks_iff mem beyond chan).mp tracks
  have addr := congrArg Channel.addr (fetch_registers mem beyond num chan)
  change (fetch mem beyond num chan).2.addr = chan.addr at addr
  refine (@tracks_iff mem beyond _).mpr ⟨?_,?_⟩
  · rwa [addr]
  · rw [fetch_adpcm mem beyond num adpcm]
    exact follows_fetched follows

theorem tracks_advanced {rounds : Nat} (tracks : Tracks mem chan) (adpcm : chan.format = 2)
    (moved : advance mem rounds chan = some next) (playing : next.status = CHANSTAT_PLAY) :
    Tracks mem next := by
  obtain ⟨header,follows⟩ := (@tracks_iff mem nothingBeyond chan).mp tracks
  have addr := congrArg Channel.addr (advance_standing moved)
  change next.addr = chan.addr at addr
  refine tracks_iff.mpr ⟨?_,follows_advanced adpcm follows moved playing⟩
  rwa [addr]

theorem tracks_keyedOn (adpcm : chan.format = 2) (header : InTable (headerIndex mem chan.addr)) :
    Tracks mem (chan.keyedOn mem) :=
  (@tracks_iff mem nothingBeyond _).mpr ⟨header,follows_keyedOn adpcm⟩

/-- One sample memory, with indices of the tables in its headers; a channel that
plays keeps its address, its loop start and its format. -/
def Steady (mem : SampleMemory) (chan : Channel Runtime) (event : Event) : Prop :=
  match event with
  | .rewrite regs =>
      chan.status = CHANSTAT_PLAY →
        regs.addr = chan.addr ∧ regs.loopstart = chan.loopstart ∧
          regs.format = chan.format
  | .keyOn other => other = mem ∧ (chan.format = 2 → InTable (headerIndex mem chan.addr))
  | .mix other _ => other = mem
  | _ => True

def Tracked (mem : SampleMemory) (chan : Channel Runtime) : Prop :=
  chan.status = CHANSTAT_PLAY → chan.format = 2 → Tracks mem chan

theorem event_tracked {num : Fin 16} {event : Event} (tracked : Tracked mem chan)
    (steady : Steady mem chan event) (moved : event.step beyond num chan next) :
    Tracked mem next := by
  intro playing adpcm
  cases event with
  | rewrite regs =>
      cases moved
      obtain ⟨addr,loopstart,fmt⟩ := steady playing
      obtain ⟨header,decoded,started,behind,forward,inside,small⟩ :=
        tracked playing (fmt.symm.trans adpcm)
      refine ⟨?_,?_,started,behind,forward,inside,small⟩
      · change InTable (headerIndex mem regs.addr)
        rw [addr]
        exact header
      · change DecodedTo mem regs.addr regs.loopstart _ chan.runtime
        rw [addr,loopstart]
        exact decoded
  | adjust =>
      cases moved
      obtain ⟨header,decoded,started,behind,-,inside,small⟩ := tracked playing adpcm
      exact ⟨header,⟨decoded.sample,decoded.kept⟩,started,behind,
        increment_nonneg chan.timer,inside,small⟩
  | keyOn other =>
      obtain ⟨rfl,header⟩ := steady
      cases moved
      exact tracks_keyedOn adpcm (header adpcm)
  | keyOff =>
      cases moved
      exact absurd playing stopped_ne_play
  | mix other mixed =>
      cases steady
      obtain ⟨rounds,data,updated⟩ := moved
      unfold ChanUpdate at updated
      split at updated
      · next stopped =>
        cases updated
        exact absurd playing stopped
      · next notStopped =>
        have started : chan.status = CHANSTAT_PLAY := not_not.mp notStopped
        obtain ⟨after,advanced,same⟩ := Option.map_eq_some_iff.mp updated
        cases same
        cases mixed with
        | false =>
            change advance mem rounds chan = some next at advanced
            have fmt := congrArg Channel.format (advance_standing advanced)
            have adpcm' : chan.format = 2 := fmt.symm.trans adpcm
            exact tracks_advanced (tracked started adpcm') adpcm' advanced playing
        | true =>
            change advance mem rounds (fetch mem beyond num chan).2 = some next at advanced
            have fetched := fetch_fetched mem beyond num chan
            have fmt := congrArg Channel.format
              ((advance_standing advanced).trans fetched.standing)
            have adpcm' : chan.format = 2 := fmt.symm.trans adpcm
            have format' := congrArg Channel.format fetched.standing
            exact tracks_advanced (tracks_fetched beyond num (tracked started adpcm') adpcm')
              (format'.trans adpcm') advanced playing

def PlaysPosition (mem : SampleMemory) (beyond : Beyond) (chan : Channel Runtime)
    (event : Event) : Prop :=
  event = .mix mem true → chan.status = CHANSTAT_PLAY → chan.format = 2 →
    8 ≤ chan.runtime.sampcnt →
      (FetchADPCMData mem beyond chan).1 =
        (Decoder.upTo mem chan.addr chan.runtime.sampcnt.floor.toNat).pcm16b

end

/-- In every steady run of a channel that does not play yet, each fetch finds
the fold over the nibbles up to its position. -/
theorem adpcm_plays_position (mem : SampleMemory) (beyond : Beyond) (num : Fin 16)
    (chan : Channel Runtime) (silent : chan.status ≠ CHANSTAT_PLAY) (events : List Event)
    (steady : Along (Event.step beyond num) (Steady mem) chan events) :
    Along (Event.step beyond num) (PlaysPosition mem beyond) chan events := by
  have start : Tracked mem chan := fun playing => absurd playing silent
  have gives : ∀ (chan : Channel Runtime) (event : Event), Tracked mem chan →
      Steady mem chan event → PlaysPosition mem beyond chan event := by
    intro chan event tracked _ _ playing adpcm late
    exact fetch_tracks (tracked playing adpcm) (not_lt.mpr late)
  exact along_of_along gives (fun _ _ _ tracked here moved => event_tracked tracked here moved)
    start steady

theorem adpcm_plays_position_plain :
    adpcmChannel.status ≠ CHANSTAT_PLAY ∧
      Along (Event.step nothingBeyond 0) (Steady (sameBytes 88)) adpcmChannel (keyAndFetch 88) ∧
      Along (Event.step nothingBeyond 0) (PlaysPosition (sameBytes 88) nothingBeyond)
        adpcmChannel (keyAndFetch 88) := by
  have header : InTable (headerIndex (sameBytes 88) adpcmChannel.addr) := by
    unfold InTable
    decide
  have steady : Along (Event.step nothingBeyond 0) (Steady (sameBytes 88)) adpcmChannel
      (keyAndFetch 88) :=
    ⟨⟨rfl,fun _ => header⟩,fun _ _ => ⟨rfl,fun _ _ => ⟨rfl,fun _ _ => trivial⟩⟩⟩
  exact ⟨stopped_ne_play,steady,
    adpcm_plays_position (sameBytes 88) nothingBeyond 0 adpcmChannel stopped_ne_play _ steady⟩

end Desmume.Sound
