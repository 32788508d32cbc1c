/-
The fog table of the software rasterizer: `SoftRasterizerEngine::updateFogTable`.

The code keeps the loop that it replaces in a comment.
-/

import Desmume.Geometry.Scene

namespace Desmume.Gfx3d

open Rendering (GFX3D_State)

/-- The entry of depth `i`, with `fogDensity` as the memory around it. -/
def referenceFog (increment fogOffset : Nat) (fogDensity : Int → u8) (i : Nat) : u8 :=
  if i < fogOffset then fogDensity 0
  else
    match (List.range 32).find? (fun j => i ≤ fogOffset + increment * (j + 1)) with
    | none => fogDensity 31
    | some 0 => fogDensity 0
    | some (j + 1) =>
        let val := fogOffset + increment * (j + 2)
        BitVec.ofNat 8 (((val - i) * (fogDensity j).toNat +
          (increment - (val - i)) * (fogDensity (j + 1)).toNat) / increment)

structure FogFill where
  writes : List (Nat × u8)
  reads : List Int

/-- The stores of `memset(fogTable + start, fogDensity[j], count)`. -/
def fillFog (fogDensity : Int → u8) (j : Int) (start n : Nat) : FogFill where
  writes := (List.range' start n).map fun i => (i, fogDensity j)
  reads := [j]

def fogSegment (increment incrementDivShift fogOffset i : Nat) : Nat × Int :=
  let num := i - fogOffset + (increment - 1)
  -- `num & ~(increment-1)`
  (num / increment * increment + fogOffset, ((num >>> incrementDivShift : Nat) : Int) - 1)

def fogEntry (increment incrementDivShift fogOffset : Nat) (fogDensity : Int → u8) (i : Nat) : u8 :=
  let segment := fogSegment increment incrementDivShift fogOffset i
  let diff := segment.1 - i
  BitVec.ofNat 8 ((diff * (fogDensity (segment.2 - 1)).toNat +
    (increment - diff) * (fogDensity segment.2).toNat) >>> incrementDivShift)

/-- No value where `incrementDivShift` is negative, as a shift by it has no
meaning. -/
def updateFogTable (renderState : GFX3D_State) (fogDensity : Int → u8) : Option FogFill :=
  let increment := (1 <<< 10) >>> renderState.fogShift.toNat
  if 10 < renderState.fogShift.toNat then none
  else
    let incrementDivShift := 10 - renderState.fogShift.toNat
    let fogOffset := min renderState.fogOffset.toNat 32768
    let iMin := min 32768 (((1 + 1) <<< incrementDivShift) + fogOffset + 1 - increment)
    let iMax := min 32768 (((32 + 1) <<< incrementDivShift) + fogOffset + 1 - increment)
    let first := fillFog fogDensity 0 0 iMin
    let last := fillFog fogDensity 31 iMax (32768 - iMax)
    let middle := List.range' iMin (iMax - iMin)
    some
      { writes := first.writes ++ middle.map (fun i =>
          (i, fogEntry increment incrementDivShift fogOffset fogDensity i)) ++ last.writes
        reads := first.reads ++ middle.flatMap (fun i =>
          let segment := fogSegment increment incrementDivShift fogOffset i
          [segment.2 - 1,segment.2]) ++ last.reads }

/-- The table is that of the loop in the comment, each entry stored once and
none behind the table, from the 32 densities alone. -/
def FogTableRight (renderState : GFX3D_State) (fogDensity : Int → u8) : Prop :=
  ∃ fill, updateFogTable renderState fogDensity = some fill ∧
    fill.writes = (List.range 32768).map (fun i =>
      (i, referenceFog (0x400 >>> renderState.fogShift.toNat) renderState.fogOffset.toNat
        fogDensity i)) ∧
    ∀ j ∈ fill.reads, 0 ≤ j ∧ j < 32

section

variable {fogOffset i : Nat} (fogDensity : Int → u8) (s : Nat)

theorem referenceFog_before (before : i ≤ fogOffset + 2 ^ s) :
    referenceFog (2 ^ s) fogOffset fogDensity i = fogDensity 0 := by
  unfold referenceFog
  split
  · rfl
  · have first : (List.range 32).find? (fun j => i ≤ fogOffset + 2 ^ s * (j + 1)) = some 0 := by
      rw [List.range_succ_eq_map,List.find?_cons_of_pos]
      rw [Nat.zero_add,Nat.mul_one]
      exact decide_eq_true before
    rw [first]

theorem referenceFog_behind (behind : fogOffset + 2 ^ s * 32 < i) :
    referenceFog (2 ^ s) fogOffset fogDensity i = fogDensity 31 := by
  have none : (List.range 32).find? (fun j => i ≤ fogOffset + 2 ^ s * (j + 1)) = none := by
    rw [List.find?_eq_none]
    intro j member
    have last : 2 ^ s * (j + 1) ≤ 2 ^ s * 32 :=
      Nat.mul_le_mul_left _ (List.mem_range.mp member)
    rw [decide_eq_true_iff]
    omega
  unfold referenceFog
  rw [if_neg (by omega),none]

theorem fogSegment_eq {j : Nat} (starts : fogOffset + 2 ^ s * j < i)
    (ends : i ≤ fogOffset + 2 ^ s * (j + 1)) :
    fogSegment (2 ^ s) s fogOffset i = (fogOffset + 2 ^ s * (j + 1), (j : Int)) := by
  have positive : 0 < 2 ^ s := Nat.two_pow_pos s
  have quotient : (i - fogOffset + (2 ^ s - 1)) / 2 ^ s = j + 1 := by
    rw [Nat.mul_add_one] at ends
    apply Nat.div_eq_of_lt_le
    · rw [Nat.mul_comm,Nat.mul_add_one]
      omega
    · rw [Nat.mul_comm,Nat.mul_add_one,Nat.mul_add_one]
      omega
  unfold fogSegment
  dsimp only
  rw [Nat.shiftRight_eq_div_pow,quotient,Nat.mul_comm,Nat.add_comm]
  congr 1
  omega

theorem referenceFog_segment {j : Nat} (starts : fogOffset + 2 ^ s * (j + 1) < i)
    (ends : i ≤ fogOffset + 2 ^ s * (j + 2)) (inside : j < 31) :
    referenceFog (2 ^ s) fogOffset fogDensity i = fogEntry (2 ^ s) s fogOffset fogDensity i := by
  have found : (List.range 32).find? (fun j => i ≤ fogOffset + 2 ^ s * (j + 1)) =
      some (j + 1) := by
    rw [List.find?_range_eq_some]
    refine ⟨decide_eq_true ends,List.mem_range.mpr (by omega),?_⟩
    intro k before
    have earlier : 2 ^ s * (k + 1) ≤ 2 ^ s * (j + 1) := Nat.mul_le_mul_left _ before
    rw [Bool.not_eq_true',decide_eq_false_iff_not]
    omega
  unfold referenceFog fogEntry
  rw [if_neg (by omega),found,fogSegment_eq s starts ends]
  dsimp only
  rw [Nat.shiftRight_eq_div_pow,Nat.cast_add_one,Int.add_sub_cancel]

end

theorem exists_segment {fogOffset i s : Nat} (starts : fogOffset + 2 ^ s < i)
    (ends : i ≤ fogOffset + 2 ^ s * 32) :
    ∃ j < 31, fogOffset + 2 ^ s * (j + 1) < i ∧ i ≤ fogOffset + 2 ^ s * (j + 2) := by
  have positive : 0 < 2 ^ s := Nat.two_pow_pos s
  have exact_division := Nat.div_add_mod (i - fogOffset - 1) (2 ^ s)
  have rest := Nat.mod_lt (i - fogOffset - 1) positive
  have first : 1 ≤ (i - fogOffset - 1) / 2 ^ s := (Nat.one_le_div_iff positive).mpr (by omega)
  have last : (i - fogOffset - 1) / 2 ^ s < 32 := by
    rw [Nat.div_lt_iff_lt_mul positive,Nat.mul_comm]
    omega
  obtain ⟨j,quotient⟩ := Nat.exists_eq_add_of_le' first
  rw [quotient] at exact_division last
  refine ⟨j,by omega,by omega,?_⟩
  rw [Nat.mul_add_one] at exact_division ⊢
  rw [Nat.mul_add_one]
  omega

theorem range_split {first last stop : Nat} (order : first ≤ last) (inside : last ≤ stop) :
    List.range stop = List.range' 0 first ++ List.range' first (last - first) ++
      List.range' last (stop - last) := by
  rw [List.range_eq_range',List.append_assoc]
  have behind := @List.range'_append_1 first (last - first) (stop - last)
  have whole := @List.range'_append_1 0 first (stop - first)
  have n : last - first + (stop - last) = stop - first := by omega
  rw [Nat.add_sub_of_le order,n] at behind
  rw [Nat.zero_add,Nat.add_sub_of_le (order.trans inside)] at whole
  rw [behind,whole]

/-- The fast loop gives the table of the loop in the comment exactly when the
increment does not vanish. -/
theorem fog_table_right_iff (renderState : GFX3D_State) (fogDensity : Int → u8)
    (off : renderState.fogOffset.toNat ≤ 0x7FFF) :
    FogTableRight renderState fogDensity ↔ renderState.fogShift.toNat ≤ 10 := by
  unfold FogTableRight updateFogTable
  generalize renderState.fogOffset.toNat = fogOffset at off
  generalize renderState.fogShift.toNat = fogShift
  dsimp only
  constructor
  · rintro ⟨fill,filled,-⟩
    by_contra large
    rw [if_pos (by omega)] at filled
    cases filled
  intro small
  have increment : (1 <<< 10) >>> fogShift = 2 ^ (10 - fogShift) := by
    rw [Nat.shiftRight_eq_div_pow]
    exact Nat.pow_div small (Nat.succ_pos 1)
  have reference : 0x400 >>> fogShift = 2 ^ (10 - fogShift) := increment
  rw [if_neg (by omega),increment,reference,
    Nat.min_eq_left (show fogOffset ≤ 32768 by omega)]
  generalize 10 - fogShift = s
  rw [Nat.shiftLeft_eq,Nat.shiftLeft_eq]
  generalize low : min 32768 ((1 + 1) * 2 ^ s + fogOffset + 1 - 2 ^ s) = iMin
  generalize high : min 32768 ((32 + 1) * 2 ^ s + fogOffset + 1 - 2 ^ s) = iMax
  have order : iMin ≤ iMax := by omega
  have inside : iMax ≤ 32768 := by omega
  have within : ∀ i ∈ List.range' iMin (iMax - iMin),
      ∃ j < 31, fogOffset + 2 ^ s * (j + 1) < i ∧ i ≤ fogOffset + 2 ^ s * (j + 2) := by
    intro i member
    rw [List.mem_range'_1] at member
    exact exists_segment (by omega) (by omega)
  refine ⟨_,rfl,?_,?_⟩
  · unfold fillFog
    dsimp only
    rw [range_split order inside,List.map_append,List.map_append]
    congr 1
    · congr 1
      · apply List.map_congr_left
        intro i member
        rw [List.mem_range'_1] at member
        rw [referenceFog_before fogDensity s (by omega)]
      · apply List.map_congr_left
        intro i member
        obtain ⟨j,small,starts,ends⟩ := within i member
        rw [referenceFog_segment fogDensity s starts ends small]
    · apply List.map_congr_left
      intro i member
      rw [List.mem_range'_1] at member
      rw [referenceFog_behind fogDensity s (by omega)]
  · intro idx member
    rw [List.mem_append,List.mem_append,List.mem_flatMap] at member
    rcases member with (first | ⟨i,here,read⟩) | last
    · cases List.mem_singleton.mp first
      decide
    · obtain ⟨j,small,starts,ends⟩ := within i here
      rw [fogSegment_eq s starts ends,List.mem_pair] at read
      omega
    · cases List.mem_singleton.mp last
      decide

theorem fog_table_right_shift10 :
    FogTableRight { GFX3D_State.zero with fogShift := 10 } (fun _ => 0) :=
  (fog_table_right_iff { GFX3D_State.zero with fogShift := 10 } (fun _ => 0) (by decide)).mpr
    (by decide)

/-- From a shift of 11 on the increment is 0. -/
theorem fog_table_undefined :
    ¬FogTableRight { GFX3D_State.zero with fogShift := 11 } (fun _ => 0) := by
  rintro ⟨fill,filled,-⟩
  cases filled

end Desmume.Gfx3d
