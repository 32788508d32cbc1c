/-
The difference unfilters, `Diff8bitUnFilterWram` and `Diff16bitUnFilter`.

Both add up units of their width and differ in it only.
-/

import Desmume.Bios.Stores

namespace Desmume.Bios

structure CompressionHeader where
  value : u32

def CompressionHeader.DecompressedSize (header : CompressionHeader) : u32 := header.value >>> 8

structure FilterUnit (width : Nat) where
  bytes : Nat
  positive : 0 < bytes
  small : bytes < 2 ^ 32
  read : {Mem : Type} → WideBus Mem → Mem → u32 → BitVec width
  store : u32 → BitVec width → Store

def FilterUnit.Plain {width : Nat} (unit : FilterUnit width) : Prop :=
  ∀ {Mem : Type} (bus : WideBus Mem) (noted : Mem × List Store) (addr : u32),
    unit.read bus.recording noted addr = unit.read bus noted.1 addr

def byteUnit : FilterUnit 8 where
  bytes := 1
  positive := by decide
  small := by decide
  read bus := bus._MMU_read08
  store := .byte

def halfUnit : FilterUnit 16 where
  bytes := 2
  positive := by decide
  small := by decide
  read bus := bus._MMU_read16
  store := .half

section

variable {Mem : Type} {width : Nat} (unit : FilterUnit width) (bus : WideBus Mem)

/-- The `while` loop: `len > 0` is `len >= 1` for bytes. -/
def unFilterLoop (source dest len : u32) (data : BitVec width) (mem : Mem) : Mem :=
  if BitVec.ofNat 32 unit.bytes ≤ len then
    let diff := unit.read bus mem source
    let data := data + diff
    unFilterLoop (source + BitVec.ofNat 32 unit.bytes) (dest + BitVec.ofNat 32 unit.bytes)
      (len - BitVec.ofNat 32 unit.bytes) data (bus.perform mem (unit.store dest data))
  else mem
termination_by len.toNat
decreasing_by
  have size : (BitVec.ofNat 32 unit.bytes).toNat = unit.bytes := by
    rw [BitVec.toNat_ofNat,Nat.mod_eq_of_lt unit.small]
  have positive := unit.positive
  have enough : unit.bytes ≤ len.toNat := by
    rw [← size]
    assumption
  rw [BitVec.toNat_sub_of_le (by assumption),size]
  omega

variable (cpu : Cpu.armcpu_t) (mem : Mem) (source dest : u32) (units : List (BitVec width))

def unFilter : Mem × u32 :=
  let source := cpu.R 0
  let dest := cpu.R 1
  let header : CompressionHeader := { value := bus._MMU_read32 mem source }
  let source := source + 4
  let len := header.DecompressedSize
  let data := unit.read bus mem source
  let mem := bus.perform mem (unit.store dest data)
  let bytes := BitVec.ofNat 32 unit.bytes
  (unFilterLoop unit bus (source + bytes) (dest + bytes) (len - bytes) data mem, 1)

def Diff8bitUnFilterWram : Mem × u32 :=
  unFilter byteUnit bus cpu mem

def Diff16bitUnFilter : Mem × u32 :=
  unFilter halfUnit bus cpu mem

def unitAddr (start : u32) (i : Nat) : u32 := start + BitVec.ofNat 32 (unit.bytes * i)

def sumStores : List Store :=
  (List.range units.length).map fun i =>
    unit.store (unitAddr unit dest i) (units.take (i + 1)).sum

theorem sumStores_snoc (diff : BitVec width) :
    sumStores unit dest (units ++ [diff]) =
      sumStores unit dest units ++
        [unit.store (unitAddr unit dest units.length) (units.sum + diff)] := by
  unfold sumStores
  rw [List.length_append,List.length_singleton,List.range_succ,List.map_append]
  congr 1
  · apply List.map_congr_left
    intro i listed
    have inside := List.mem_range.mp listed
    rw [List.take_append_of_le_length (by omega)]
  · rw [List.map_singleton,List.take_of_length_le (by simp),List.sum_append,
      List.sum_singleton]

@[simp] theorem length_sumStores : (sumStores unit dest units).length = units.length := by
  rw [sumStores,List.length_map,List.length_range]

def nextUnit : BitVec width :=
  unit.read bus (replay bus mem (sumStores unit dest units)) (unitAddr unit source units.length)

def sourceUnits (n : Nat) : List (BitVec width) :=
  readings (nextUnit unit bus mem source dest) n

theorem sourceUnits_succ (n : Nat) :
    sourceUnits unit bus mem source dest (n + 1) =
      sourceUnits unit bus mem source dest n ++
        [nextUnit unit bus mem source dest (sourceUnits unit bus mem source dest n)] := rfl

theorem unitAddr_succ (start : u32) (i : Nat) :
    unitAddr unit start i + BitVec.ofNat 32 unit.bytes = unitAddr unit start (i + 1) := by
  unfold unitAddr
  rw [BitVec.add_assoc,← BitVec.ofNat_add,Nat.mul_succ]

theorem unFilterLoop_eq (left : Nat) :
    ∀ (n : Nat) (len : u32), len.toNat / unit.bytes = left →
      unFilterLoop unit bus (unitAddr unit source n) (unitAddr unit dest n) len
          (sourceUnits unit bus mem source dest n).sum
          (replay bus mem (sumStores unit dest (sourceUnits unit bus mem source dest n))) =
        replay bus mem (sumStores unit dest (sourceUnits unit bus mem source dest (n + left))) := by
  have size : (BitVec.ofNat 32 unit.bytes).toNat = unit.bytes := by
    rw [BitVec.toNat_ofNat,Nat.mod_eq_of_lt unit.small]
  have positive := unit.positive
  induction left with
  | zero =>
      intro n len none
      have short : ¬BitVec.ofNat 32 unit.bytes ≤ len := by
        rw [BitVec.le_def,size]
        have below := (Nat.div_eq_zero_iff_lt positive).mp none
        omega
      rw [unFilterLoop,if_neg short]
      rfl
  | succ left ih =>
      intro n len some
      have enough : BitVec.ofNat 32 unit.bytes ≤ len := by
        rw [BitVec.le_def,size]
        by_contra short
        rw [Nat.div_eq_of_lt (by omega)] at some
        cases some
      have fewer : (len - BitVec.ofNat 32 unit.bytes).toNat / unit.bytes = left := by
        have whole : unit.bytes ≤ len.toNat := by
          rw [BitVec.le_def,size] at enough
          exact enough
        have one_less := Nat.div_eq_sub_div positive whole
        rw [BitVec.toNat_sub_of_le enough,size]
        omega
      have size_units := length_readings (nextUnit unit bus mem source dest) n
      have later := ih (n + 1) _ fewer
      rw [sourceUnits_succ,sumStores_snoc,List.sum_append,List.sum_singleton,replay_append,
        sourceUnits,size_units,nextUnit,size_units,← unitAddr_succ,← unitAddr_succ] at later
      have total : n + 1 + left = n + (left + 1) := by omega
      rw [total] at later
      rw [unFilterLoop,if_pos enough]
      exact later

def unitCount (len : u32) : Nat := 1 + (len - BitVec.ofNat 32 unit.bytes).toNat / unit.bytes

theorem unFilter_eq :
    unFilter unit bus cpu mem =
      (replay bus mem (sumStores unit (cpu.R 1)
        (sourceUnits unit bus mem (cpu.R 0 + 4) (cpu.R 1)
          (unitCount unit (bus._MMU_read32 mem (cpu.R 0) >>> 8)))), 1) := by
  have looped := unFilterLoop_eq unit bus mem (cpu.R 0 + 4) (cpu.R 1) _ 1
    (bus._MMU_read32 mem (cpu.R 0) >>> 8 - BitVec.ofNat 32 unit.bytes) rfl
  have start (addr : u32) : unitAddr unit addr 0 = addr := BitVec.add_zero addr
  have second (addr : u32) : unitAddr unit addr 1 = addr + BitVec.ofNat 32 unit.bytes := by
    rw [unitAddr,Nat.mul_one]
  have first : sourceUnits unit bus mem (cpu.R 0 + 4) (cpu.R 1) 1 =
      [unit.read bus mem (cpu.R 0 + 4)] := by
    change [unit.read bus mem (unitAddr unit (cpu.R 0 + 4) 0)] = _
    rw [start]
  have stored : sumStores unit (cpu.R 1) [unit.read bus mem (cpu.R 0 + 4)] =
      [unit.store (cpu.R 1) (unit.read bus mem (cpu.R 0 + 4))] := by
    have single := sumStores_snoc unit (cpu.R 1) [] (unit.read bus mem (cpu.R 0 + 4))
    rw [List.sum_nil,zero_add,List.length_nil,start] at single
    exact single
  rw [first,second,second,stored,List.sum_singleton] at looped
  exact Prod.ext looped rfl

variable {unit}

theorem sourceUnits_recording (plain : unit.Plain) (mem : Mem) (source dest : u32) (n : Nat) :
    sourceUnits unit bus.recording (mem, []) source dest n =
      sourceUnits unit bus mem source dest n := by
  induction n with
  | zero => rfl
  | succ n ih =>
      rw [sourceUnits_succ,sourceUnits_succ,ih,nextUnit,plain,replay_recording]
      rfl

theorem storesOf_unFilter (plain : unit.Plain) (cpu : Cpu.armcpu_t) (mem : Mem) :
    storesOf mem (unFilter unit bus.recording cpu) =
      sumStores unit (cpu.R 1)
        (sourceUnits unit bus mem (cpu.R 0 + 4) (cpu.R 1)
          (unitCount unit (bus._MMU_read32 mem (cpu.R 0) >>> 8))) := by
  rw [storesOf,unFilter_eq,replay_recording,sourceUnits_recording bus plain]
  exact List.nil_append _

/-- The run stores the running sums of the first units of the source, as many
as the size asks for, and nothing else. -/
def FiltersExactly (unit : FilterUnit width)
    (filter : {Mem : Type} → WideBus Mem → Cpu.armcpu_t → Mem → Mem × u32) (cpu : Cpu.armcpu_t)
    (mem : Mem) : Prop :=
  let size := (CompressionHeader.mk (bus._MMU_read32 mem (cpu.R 0))).DecompressedSize.toNat
  let units := sourceUnits unit bus mem (cpu.R 0 + 4) (cpu.R 1) (size / unit.bytes)
  storesOf mem (filter bus.recording cpu) = sumStores unit (cpu.R 1) units ∧
    filter bus cpu mem = (replay bus mem (sumStores unit (cpu.R 1) units), 1)

theorem unitCount_eq_iff {len : u32} (low : len.toNat < 2 ^ 24) (few : unit.bytes ≤ 2) :
    unitCount unit len = len.toNat / unit.bytes ↔ unit.bytes ≤ len.toNat := by
  have positive := unit.positive
  have size : (BitVec.ofNat 32 unit.bytes).toNat = unit.bytes := by
    rw [BitVec.toNat_ofNat,Nat.mod_eq_of_lt unit.small]
  constructor
  · intro same
    by_contra short
    have wrapped : (len - BitVec.ofNat 32 unit.bytes).toNat =
        2 ^ 32 - unit.bytes + len.toNat := by
      rw [BitVec.toNat_sub,size]
      omega
    rw [unitCount,wrapped] at same
    have bytes : unit.bytes = 1 ∨ unit.bytes = 2 := by omega
    rcases bytes with one | two
    · rw [one] at same
      omega
    · rw [two] at same
      omega
  · intro enough
    have within : BitVec.ofNat 32 unit.bytes ≤ len := by
      rw [BitVec.le_def,size]
      exact enough
    have one_less := Nat.div_eq_sub_div positive enough
    rw [unitCount,BitVec.toNat_sub_of_le within,size,one_less,Nat.add_comm]

theorem filtersExactly_iff (plain : unit.Plain) (few : unit.bytes ≤ 2) (cpu : Cpu.armcpu_t)
    (mem : Mem) :
    FiltersExactly bus unit (unFilter unit) cpu mem ↔
      unit.bytes ≤ (bus._MMU_read32 mem (cpu.R 0) >>> 8).toNat := by
  have low : (bus._MMU_read32 mem (cpu.R 0) >>> 8).toNat < 2 ^ 24 := by
    have bound := (bus._MMU_read32 mem (cpu.R 0)).isLt
    rw [BitVec.toNat_ushiftRight,Nat.shiftRight_eq_div_pow]
    omega
  rw [← unitCount_eq_iff low few]
  constructor
  · intro right
    have sizes := congrArg List.length right.1
    rw [storesOf_unFilter bus plain,length_sumStores,length_sumStores,sourceUnits,sourceUnits,
      length_readings,length_readings] at sizes
    exact sizes
  · intro n
    refine ⟨?_,?_⟩
    · rw [storesOf_unFilter bus plain,n]
      rfl
    · change unFilter unit bus cpu mem = _
      rw [unFilter_eq,n]
      rfl

/-- For every header and every memory: the filters store exactly the units the
size asks for when it asks for one at least. -/
theorem diff_filters_exact_iff :
    (FiltersExactly bus byteUnit Diff8bitUnFilterWram cpu mem ↔
        1 ≤ (CompressionHeader.mk (bus._MMU_read32 mem (cpu.R 0))).DecompressedSize.toNat) ∧
      (FiltersExactly bus halfUnit Diff16bitUnFilter cpu mem ↔
        2 ≤ (CompressionHeader.mk (bus._MMU_read32 mem (cpu.R 0))).DecompressedSize.toNat) := by
  constructor
  · exact @filtersExactly_iff Mem 8 byteUnit bus (fun _ _ _ => rfl) (by decide) cpu mem
  · exact @filtersExactly_iff Mem 16 halfUnit bus (fun _ _ _ => rfl) (by decide) cpu mem

end

/-- A header of size 0: the first byte is written, and 2 ^ 32 - 1 after it. -/
theorem diff_filter_of_nothing :
    ¬∀ (cpu : Cpu.armcpu_t) (mem : IoMem),
      FiltersExactly mainWideBus byteUnit Diff8bitUnFilterWram cpu mem := by
  intro everywhere
  have right := everywhere Cpu.armcpu_t.initial (fun _ => 0)
  exact absurd ((diff_filters_exact_iff mainWideBus _ _).1.mp right) (by decide)

end Desmume.Bios
