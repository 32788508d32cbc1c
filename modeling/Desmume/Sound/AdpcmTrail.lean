/-
What the ADPCM decoder carries at a position.

The decoder goes through the nibbles up to the position that is fetched, from
the header or from what it has kept of the loop point.
-/

import Desmume.Sound.AdpcmRange
import Desmume.Sound.Looping

namespace Desmume.Sound

structure Trail where
  pcm16b : Int
  index : u32

section

variable (mem : SampleMemory) (beyond : Beyond) (addr : u32)

def Trail.header : Trail where
  pcm16b := (mem.read16 addr).toInt
  index := headerIndex mem addr

def Trail.next (trail : Trail) (i : u32) : Trail :=
  let data4bit := nibble mem addr i
  { pcm16b :=
      MinMax (trail.pcm16b + precalcdifftbl beyond trail.index (data4bit &&& 0xF)) (-0x8000) 0x7FFF
    index := precalcindextbl beyond trail.index (data4bit &&& 0x7) }

/-- The nibbles from 8 up to the position, from the header. -/
def Trail.upTo (pos : Nat) : Trail :=
  ((List.range' 8 (pos - 7)).map (BitVec.ofNat 32)).foldl (Trail.next mem beyond addr)
    (Trail.header mem addr)

end

def Runtime.trail (run : Runtime) : Trail := ⟨run.pcm16b,run.index⟩

def Runtime.loopTrail (run : Runtime) : Trail := ⟨run.loop_pcm16b,run.loop_index⟩

section

variable {mem : SampleMemory} {beyond : Beyond} {addr : u32} {loopstart : u16}

theorem trail_succ {pos : Nat} (past : 7 ≤ pos) :
    Trail.upTo mem beyond addr (pos + 1) =
      (Trail.upTo mem beyond addr pos).next mem beyond addr
        (BitVec.ofNat 32 (pos + 1)) := by
  have n : pos + 1 - 7 = pos - 7 + 1 := by omega
  have last : 8 + 1 * (pos - 7) = pos + 1 := by omega
  unfold Trail.upTo
  rw [n,List.range'_concat,List.map_append,List.foldl_append,last]
  rfl

theorem loopPosition (loopstart : u16) :
    (loopstart.setWidth 32 <<< 3 : u32).toNat = loopstart.toNat * 8 := by
  have bound := loopstart.isLt
  rw [BitVec.toNat_shiftLeft,BitVec.toNat_setWidth,Nat.shiftLeft_eq]
  omega

structure TrailedTo (mem : SampleMemory) (beyond : Beyond) (addr : u32) (loopstart : u16)
    (pos : Nat) (run : Runtime) : Prop where
  sample : run.trail = Trail.upTo mem beyond addr pos
  kept : run.loop_index = K_ADPCM_LOOPING_RECOVERY_INDEX ∨
    8 ≤ loopstart.toNat * 8 ∧
      run.loopTrail = Trail.upTo mem beyond addr (loopstart.toNat * 8)

theorem decodeNibble_trail (run : Runtime) (i : u32) :
    (decodeNibble mem beyond addr loopstart run i).trail =
      run.trail.next mem beyond addr i := by
  unfold decodeNibble
  dsimp only
  split <;> rfl

theorem decodeNibble_trailed {run : Runtime} {pos : Nat} (past : 7 ≤ pos) (small : pos + 1 < 2 ^ 32)
    (trailed : TrailedTo mem beyond addr loopstart pos run) :
    TrailedTo mem beyond addr loopstart (pos + 1)
      (decodeNibble mem beyond addr loopstart run (BitVec.ofNat 32 (pos + 1))) := by
  have sample : (decodeNibble mem beyond addr loopstart run
      (BitVec.ofNat 32 (pos + 1))).trail =
        Trail.upTo mem beyond addr (pos + 1) := by
    rw [decodeNibble_trail,trailed.sample,← trail_succ past]
  refine ⟨sample,?_⟩
  by_cases point : BitVec.ofNat 32 (pos + 1) = loopstart.setWidth 32 <<< 3
  · have here : pos + 1 = loopstart.toNat * 8 := by
      rw [← loopPosition,← point,BitVec.toNat_ofNat,Nat.mod_eq_of_lt small]
    refine .inr ⟨by omega,?_⟩
    rw [← here,← sample]
    unfold decodeNibble
    simp only [if_pos point]
    rfl
  · have kept := trailed.kept
    unfold decodeNibble
    simp only [if_neg point]
    exact kept

theorem decode_trailed {run : Runtime} {pos : Nat} (past : 7 ≤ pos) (more : Nat)
    (small : pos + more < 2 ^ 32) (trailed : TrailedTo mem beyond addr loopstart pos run) :
    TrailedTo mem beyond addr loopstart (pos + more)
      (((List.range more).map fun k => BitVec.ofNat 32 (pos + 1) + BitVec.ofNat 32 k).foldl
        (decodeNibble mem beyond addr loopstart) run) := by
  induction more with
  | zero => exact trailed
  | succ more ih =>
      have before := ih (by omega)
      have here : BitVec.ofNat 32 (pos + 1) + BitVec.ofNat 32 more =
          BitVec.ofNat 32 (pos + more + 1) := by
        rw [← BitVec.ofNat_add]
        congr 1
        omega
      rw [List.range_succ,List.map_append,List.foldl_append]
      change TrailedTo mem beyond addr loopstart (pos + more + 1)
        (decodeNibble mem beyond addr loopstart _
          (BitVec.ofNat 32 (pos + 1) + BitVec.ofNat 32 more))
      rw [here]
      exact decodeNibble_trailed (by omega) (by omega) before

end

/-- A playing ADPCM channel has decoded up to `lastsampcnt`, which the position
has not gone back behind. -/
structure Follows (mem : SampleMemory) (beyond : Beyond) (chan : Channel Runtime) : Prop where
  trailed : TrailedTo mem beyond chan.addr chan.loopstart chan.runtime.lastsampcnt.toNat
    chan.runtime
  started : 7 ≤ chan.runtime.lastsampcnt.toNat
  behind : chan.runtime.lastsampcnt.toNat = 7 ∨
    (chan.runtime.lastsampcnt.toNat : ℚ) ≤ chan.runtime.sampcnt
  forward : 0 ≤ chan.runtime.sampinc
  inside : chan.runtime.sampcnt ≤ chan.runtime.double_totlength_shifted
  small : chan.runtime.double_totlength_shifted ≤ 2 ^ 32 - 8

section

variable {mem : SampleMemory} {beyond : Beyond} {chan : Channel Runtime}

theorem sputrunc_toNat {d : ℚ} (low : 0 ≤ d) (high : d < 2 ^ 32) :
    (sputrunc d).toNat = d.floor.toNat := by
  have bottom : 0 ≤ d.floor := Rat.le_floor_iff.mpr (by exact_mod_cast low)
  have top : d.floor < 2 ^ 32 := Rat.floor_lt_iff.mpr (by exact_mod_cast high)
  unfold sputrunc
  rw [BitVec.toNat_ofInt]
  omega

theorem floor_succ_toNat {d : ℚ} (low : 0 ≤ d) : (d + 1).floor.toNat = d.floor.toNat + 1 := by
  have bottom : 0 ≤ d.floor := Rat.le_floor_iff.mpr (by exact_mod_cast low)
  rw [Rat.floor_add_one]
  omega

theorem toNat_floor_le {d : ℚ} (low : 0 ≤ d) : (d.floor.toNat : ℚ) ≤ d := by
  have bottom : 0 ≤ d.floor := Rat.le_floor_iff.mpr (by exact_mod_cast low)
  have same : (d.floor.toNat : Int) = d.floor := Int.toNat_of_nonneg bottom
  have below := Rat.floor_le d
  rw [← same] at below
  exact_mod_cast below

theorem Follows.below (follows : Follows mem beyond chan) : chan.runtime.sampcnt + 1 < 2 ^ 32 := by
  have inside := follows.inside
  have small := follows.small
  norm_num at small ⊢
  linarith

theorem toDecode_trailed (follows : Follows mem beyond chan) (late : ¬chan.runtime.sampcnt < 8) :
    TrailedTo mem beyond chan.addr chan.loopstart chan.runtime.sampcnt.floor.toNat
      ((toDecode chan.runtime).foldl (decodeNibble mem beyond chan.addr chan.loopstart)
        chan.runtime) := by
  have low : 0 ≤ chan.runtime.sampcnt := by linarith
  have high := follows.below
  have here := sputrunc_toNat low (by linarith)
  have next := @sputrunc_toNat (chan.runtime.sampcnt + 1) (by linarith) high
  rw [floor_succ_toNat low] at next
  have bound := (sputrunc (chan.runtime.sampcnt + 1)).isLt
  rw [next] at bound
  have order : chan.runtime.lastsampcnt.toNat ≤ chan.runtime.sampcnt.floor.toNat := by
    have eight : (8 : Int) ≤ chan.runtime.sampcnt.floor :=
      Rat.le_floor_iff.mpr (by exact_mod_cast not_lt.mp late)
    rcases follows.behind with seven | reached
    · omega
    · have reached' : (chan.runtime.lastsampcnt.toNat : Int) ≤ chan.runtime.sampcnt.floor :=
        Rat.le_floor_iff.mpr (by exact_mod_cast reached)
      omega
  unfold toDecode
  by_cases same : chan.runtime.lastsampcnt = sputrunc chan.runtime.sampcnt
  · rw [if_pos (.inr same),← here,← same]
    exact follows.trailed
  · have positions : upTo (chan.runtime.lastsampcnt + 1) (sputrunc (chan.runtime.sampcnt + 1)) =
        (List.range (chan.runtime.sampcnt.floor.toNat - chan.runtime.lastsampcnt.toNat)).map
          fun k => BitVec.ofNat 32 (chan.runtime.lastsampcnt.toNat + 1) + BitVec.ofNat 32 k := by
      have first : chan.runtime.lastsampcnt + 1 =
          BitVec.ofNat 32 (chan.runtime.lastsampcnt.toNat + 1) := by
        rw [BitVec.ofNat_add,BitVec.ofNat_toNat,BitVec.setWidth_eq]
        rfl
      have size : (chan.runtime.lastsampcnt + 1).toNat = chan.runtime.lastsampcnt.toNat + 1 := by
        rw [first,BitVec.toNat_ofNat,Nat.mod_eq_of_lt (by omega)]
      unfold upTo
      rw [next,size,first]
      congr 2
      omega
    have trailed := @decode_trailed mem beyond chan.addr chan.loopstart chan.runtime _
      follows.started (chan.runtime.sampcnt.floor.toNat - chan.runtime.lastsampcnt.toNat)
      (by omega) follows.trailed
    rw [if_neg (not_or.mpr ⟨late,same⟩),positions]
    rwa [Nat.add_sub_cancel' order] at trailed

theorem fetch_follows (follows : Follows mem beyond chan) (late : ¬chan.runtime.sampcnt < 8) :
    (FetchADPCMData mem beyond chan).1 =
        (Trail.upTo mem beyond chan.addr chan.runtime.sampcnt.floor.toNat).pcm16b ∧
      Follows mem beyond (FetchADPCMData mem beyond chan).2 := by
  have trailed := @toDecode_trailed mem beyond chan follows late
  have pos := foldl_keeps ((position_kept mem beyond chan.runtime).nibble chan.addr
    chan.loopstart) (toDecode chan.runtime) (.refl chan.runtime)
  have low : 0 ≤ chan.runtime.sampcnt := by linarith
  have high := follows.below
  have here := sputrunc_toNat low (by linarith)
  have eight : (8 : Int) ≤ chan.runtime.sampcnt.floor :=
    Rat.le_floor_iff.mpr (by exact_mod_cast not_lt.mp late)
  unfold FetchADPCMData
  dsimp only
  rw [if_neg late]
  refine ⟨congrArg Trail.pcm16b trailed.sample,?_,?_,?_,?_,?_,?_⟩
  · dsimp only
    rw [pos.sampcnt,here]
    exact ⟨trailed.sample,trailed.kept⟩
  · dsimp only
    rw [pos.sampcnt,here]
    omega
  · dsimp only
    rw [pos.sampcnt,here]
    exact .inr (toNat_floor_le low)
  · dsimp only
    rw [pos.sampinc]
    exact follows.forward
  · dsimp only
    rw [pos.sampcnt,pos.total]
    exact follows.inside
  · dsimp only
    rw [pos.total]
    exact follows.small

theorem fetch_early (early : chan.runtime.sampcnt < 8) :
    FetchADPCMData mem beyond chan = (0, chan) := if_pos early

theorem follows_fetched (follows : Follows mem beyond chan) :
    Follows mem beyond (FetchADPCMData mem beyond chan).2 := by
  by_cases early : chan.runtime.sampcnt < 8
  · rw [fetch_early early]
    exact follows
  · exact (fetch_follows follows early).2

end

section

variable {mem : SampleMemory} {beyond : Beyond} {chan next : Channel Runtime}

theorem follows_moved (follows : Follows mem beyond chan) {sampcnt : ℚ}
    (later : chan.runtime.sampcnt ≤ sampcnt)
    (inside : sampcnt ≤ chan.runtime.double_totlength_shifted) :
    Follows mem beyond (chan.moved sampcnt) where
  trailed := ⟨follows.trailed.sample,follows.trailed.kept⟩
  started := follows.started
  behind := follows.behind.imp_right fun reached => reached.trans later
  forward := follows.forward
  inside := inside
  small := follows.small

theorem follows_restart (follows : Follows mem beyond chan) {sampcnt : ℚ}
    (above : loopPoint chan 3 < sampcnt)
    (inside : sampcnt ≤ chan.runtime.double_totlength_shifted) :
    Follows mem beyond (restart mem (chan.moved sampcnt)) := by
  obtain ⟨⟨sample,kept⟩,started,behind,forward,-,small⟩ := follows
  unfold restart
  dsimp only
  split
  · exact ⟨⟨rfl,kept⟩,Nat.le_refl 7,.inl rfl,forward,inside,small⟩
  · next saved =>
    obtain ⟨late,point⟩ := kept.resolve_left saved
    refine ⟨⟨?_,kept⟩,?_,?_,forward,inside,small⟩
    · dsimp only
      rw [loopPosition]
      exact point
    · dsimp only
      rw [loopPosition]
      exact (Nat.le_succ 7).trans late
    · refine .inr ?_
      change ((chan.loopstart.setWidth 32 <<< 3 : u32).toNat : ℚ) ≤ sampcnt
      rw [loopPosition]
      exact above.le

theorem follows_testForLoop2 {rounds : Nat} (follows : Follows mem beyond chan)
    (looped : TestForLoop2 mem rounds chan = some next) (playing : next.status = CHANSTAT_PLAY) :
    Follows mem beyond next := by
  by_cases short : chan.runtime.totlength < 4
  · rw [testForLoop2_short short] at looped
    cases looped
    exact follows
  have forward := follows.forward
  by_cases past : chan.runtime.double_totlength_shifted <
      chan.runtime.sampcnt + chan.runtime.sampinc
  · by_cases repeated : chan.repeats = 1
    · rw [testForLoop2_past short past repeated] at looped
      obtain ⟨left,ended,rfl⟩ := Option.map_eq_some_iff.mp looped
      have above := loopBack_above past ended
      exact follows_restart follows (by linarith) (loopBack_left ended)
    · rw [testForLoop2_over short past repeated] at looped
      cases looped
      exact absurd playing stopped_ne_play
  · rw [testForLoop2_inside short past] at looped
    cases looped
    exact follows_moved follows (by linarith) (not_lt.mp past)

theorem follows_advanced {rounds : Nat} (adpcm : chan.format = 2)
    (follows : Follows mem beyond chan) (moved : advance mem rounds chan = some next)
    (playing : next.status = CHANSTAT_PLAY) : Follows mem beyond next := by
  rw [advance_adpcm adpcm] at moved
  exact follows_testForLoop2 follows moved playing

theorem increment_nonneg (timer : u16) : 0 ≤ increment timer := by
  have bound : (timer.toNat : ℚ) ≤ 0x10000 := by exact_mod_cast timer.isLt.le
  unfold increment
  exact div_nonneg (by norm_num) (by linarith)

theorem follows_keyedOn (adpcm : chan.format = 2) : Follows mem beyond (chan.keyedOn mem) := by
  have small : (((chan.length + chan.loopstart.setWidth 32) <<< 3 : u32).toNat : ℚ) ≤
      2 ^ 32 - 8 := by
    have room : ((chan.length + chan.loopstart.setWidth 32) <<< 3 : u32).toNat + 8 ≤ 2 ^ 32 := by
      rw [BitVec.toNat_shiftLeft,Nat.shiftLeft_eq]
      omega
    have room' : (((chan.length + chan.loopstart.setWidth 32) <<< 3 : u32).toNat : ℚ) + 8 ≤
        2 ^ 32 := by exact_mod_cast room
    linarith
  have runtime : (chan.keyedOn mem).runtime = keyOnRuntime mem chan := rfl
  have started : keyOnRuntime mem chan =
      { chan.runtime with
        totlength := chan.length + chan.loopstart.setWidth 32
        double_totlength_shifted :=
          (((chan.length + chan.loopstart.setWidth 32) <<< 3 : u32).toNat : ℚ)
        sampinc := increment chan.timer
        pcm16b := (mem.read16 chan.addr).toInt
        pcm16b_last := (mem.read16 chan.addr).toInt
        index := headerIndex mem chan.addr
        lastsampcnt := 7
        sampcnt := -3
        loop_index := K_ADPCM_LOOPING_RECOVERY_INDEX } := by
    unfold keyOnRuntime
    simp only [adpcm,if_true]
    rfl
  rw [started] at runtime
  have total : (0 : ℚ) ≤ (chan.keyedOn mem).runtime.double_totlength_shifted := by
    rw [runtime]
    exact Nat.cast_nonneg _
  refine ⟨?_,?_,?_,?_,?_,?_⟩
  · rw [runtime]
    exact ⟨rfl,.inl rfl⟩
  · rw [runtime]
    exact Nat.le_refl 7
  · rw [runtime]
    exact .inl rfl
  · rw [runtime]
    exact increment_nonneg chan.timer
  · rw [runtime] at total ⊢
    dsimp only at total ⊢
    linarith
  · rw [runtime]
    exact small

end

/-- The header and the nibbles of the sample, up to its end and to its loop
point, are the same in the other memory. -/
structure SameSample (mem other : SampleMemory) (chan : Channel Runtime) : Prop where
  first : other.read16 chan.addr = mem.read16 chan.addr
  index : other.read08 (chan.addr + 2) = mem.read08 (chan.addr + 2)
  nibbles : ∀ i : u32, (i.toNat : ℚ) ≤ chan.runtime.double_totlength_shifted ∨
    i.toNat ≤ chan.loopstart.toNat * 8 →
      other.read08 (chan.addr + (i >>> 1)) = mem.read08 (chan.addr + (i >>> 1))

section

variable {mem other : SampleMemory} {beyond : Beyond} {chan : Channel Runtime}

theorem trail_congr (same : SameSample mem other chan) {pos : Nat}
    (reached : (pos : ℚ) ≤ chan.runtime.double_totlength_shifted ∨
      pos ≤ chan.loopstart.toNat * 8 ∨ pos ≤ 7) :
    Trail.upTo other beyond chan.addr pos = Trail.upTo mem beyond chan.addr pos := by
  have header : Trail.header other chan.addr = Trail.header mem chan.addr := by
    unfold Trail.header headerIndex
    rw [same.first,same.index]
  induction pos with
  | zero => exact header
  | succ pos ih =>
      by_cases past : 7 ≤ pos
      · have within : ((pos + 1 : Nat) : ℚ) ≤ chan.runtime.double_totlength_shifted ∨
            pos + 1 ≤ chan.loopstart.toNat * 8 :=
          reached.imp_right fun here => here.resolve_right (by omega)
        have before := ih (reached.imp
          (fun inside => by rw [Nat.cast_succ] at inside; linarith)
          (fun here => here.imp (fun near => by omega) (fun early => by omega)))
        have low : (BitVec.ofNat 32 (pos + 1)).toNat ≤ pos + 1 := by
          rw [BitVec.toNat_ofNat]
          exact Nat.mod_le _ _
        have nibble : nibble other chan.addr (BitVec.ofNat 32 (pos + 1)) =
            nibble mem chan.addr (BitVec.ofNat 32 (pos + 1)) := by
          have here := same.nibbles (BitVec.ofNat 32 (pos + 1)) (within.imp
            (fun inside => le_trans (by exact_mod_cast low) inside) (fun near => low.trans near))
          unfold Sound.nibble
          rw [here]
        rw [trail_succ past,trail_succ past,before]
        unfold Trail.next
        rw [nibble]
      · have early : pos + 1 - 7 = 0 := by omega
        unfold Trail.upTo
        rw [early]
        exact header

theorem follows_memory (follows : Follows mem beyond chan)
    (same : SameSample mem other chan) : Follows other beyond chan := by
  obtain ⟨⟨sample,kept⟩,started,behind,forward,inside,small⟩ := follows
  refine ⟨⟨?_,?_⟩,started,behind,forward,inside,small⟩
  · rw [trail_congr same]
    · exact sample
    · rcases behind with seven | reached
      · exact .inr (.inr seven.le)
      · exact .inl (reached.trans inside)
  · rw [trail_congr same (.inr (.inl le_rfl))]
    exact kept

end

end Desmume.Sound
