/-
`BitUnPack`: units of a few bits become wider values in words.

The inner loop takes the units of a byte from the low end, the accumulator
`data` gathers their values and is written whenever it is full.
-/

import Desmume.Bios.Crc16
import Desmume.Lib.Packing

namespace Desmume.Bios

open Packing

/-- The header once both widths have passed their tests. -/
structure UnPackInfo where
  bits : Nat
  dataSize : Nat
  base : u32
  addBase : Bool
  bits_valid : bits = 1 ∨ bits = 2 ∨ bits = 4 ∨ bits = 8
  dataSize_valid : dataSize = 1 ∨ dataSize = 2 ∨ dataSize = 4 ∨ dataSize = 8 ∨ dataSize = 16 ∨
    dataSize = 32
  base_small : base.toNat < 2 ^ 31
  deriving DecidableEq

structure UnPackState (Mem : Type) where
  mem : Mem
  dest : u32
  data : u32
  bitwritecount : Nat

theorem base_masked (base : u32) : (base &&& 0x7FFFFFFF).toNat < 2 ^ 31 := by
  rw [BitVec.toNat_and]
  exact Nat.lt_of_le_of_lt Nat.and_le_right (by decide)

section

variable {Mem : Type} (bus : WideBus Mem)

/-- The header of a call; `none` is `return (0)`. -/
def readInfo (mem : Mem) (header : u32) : Option UnPackInfo :=
  let bits := (bus._MMU_read08 mem (header + 2)).toNat
  let dataSize := (bus._MMU_read08 mem (header + 3)).toNat
  let base := bus._MMU_read32 mem (header + 4)
  if bitsValid : bits = 1 ∨ bits = 2 ∨ bits = 4 ∨ bits = 8 then
    if sizeValid : dataSize = 1 ∨ dataSize = 2 ∨ dataSize = 4 ∨ dataSize = 8 ∨ dataSize = 16 ∨
        dataSize = 32 then
      some
        { bits := bits
          dataSize := dataSize
          base := base &&& 0x7FFFFFFF
          addBase := base &&& (0x80000000 : u32) != 0
          bits_valid := bitsValid
          dataSize_valid := sizeValid
          base_small := base_masked base }
    else none
  else none

def UnPackInfo.mask (info : UnPackInfo) : u8 := 0xFF >>> (8 - info.bits)

theorem UnPackInfo.bits_pos (info : UnPackInfo) : 0 < info.bits := by
  have valid := info.bits_valid
  omega

/-- The two additions of `base`. -/
def UnPackInfo.addTo (info : UnPackInfo) (temp : u32) : u32 :=
  if temp ≠ 0 then temp + info.base
  else if info.addBase then temp + info.base
  else temp

def putData (info : UnPackInfo) (out : UnPackState Mem) (temp : u32) : UnPackState Mem :=
  let data := out.data ||| temp <<< out.bitwritecount
  let bitwritecount := out.bitwritecount + info.dataSize
  if 32 ≤ bitwritecount then
    { mem := bus._MMU_write32 out.mem out.dest data
      dest := out.dest + 4
      data := 0
      bitwritecount := 0 }
  else { out with data := data, bitwritecount := bitwritecount }

def unitLoop (info : UnPackInfo) (b : u8) (bitcount : Nat) (out : UnPackState Mem) :
    UnPackState Mem :=
  if 8 ≤ bitcount then out
  else
    let temp : u32 := (b &&& info.mask).setWidth 32
    unitLoop info (b >>> info.bits) (bitcount + info.bits) (putData bus info out (info.addTo temp))
termination_by 8 - bitcount
decreasing_by
  have positive := info.bits_pos
  omega

/-- The outer loop, with `len` bytes to go. -/
def byteLoop (info : UnPackInfo) : Nat → u32 → UnPackState Mem → UnPackState Mem
  | 0, _, out => out
  | len + 1, source, out =>
      let b := bus._MMU_read08 out.mem source
      byteLoop info len (source + 1) (unitLoop bus info b 0 out)

def BitUnPack (cpu : Cpu.armcpu_t) (mem : Mem) : Mem × u32 :=
  let source := cpu.R 0
  let dest := cpu.R 1
  let header := cpu.R 2
  let len := (bus._MMU_read16 mem header).toNat
  match readInfo bus mem header with
  | none => (mem, 0)
  | some info =>
      ((byteLoop bus info len source
        { mem := mem, dest := dest, data := 0, bitwritecount := 0 }).mem,
        1)

def unitOf (bits : Nat) (byte : u8) (i : Nat) : Nat :=
  byte.toNat / 2 ^ (bits * i) % 2 ^ bits

def UnPackInfo.valueOf (info : UnPackInfo) (unit : Nat) : Nat :=
  if unit ≠ 0 ∨ info.addBase = true then unit + info.base.toNat else unit

def UnPackInfo.valuesOfByte (info : UnPackInfo) (byte : u8) (n : Nat) : List Nat :=
  (List.range n).map fun i => info.valueOf (unitOf info.bits byte i)

def UnPackInfo.valuesOf (info : UnPackInfo) (bytes : List u8) : List Nat :=
  bytes.flatMap fun byte => info.valuesOfByte byte (8 / info.bits)

def unpackStores (info : UnPackInfo) (dest : u32) (bytes : List u8) : List Store :=
  placeWords dest (words 32 info.dataSize (info.valuesOf bytes))

def nextByte (info : UnPackInfo) (mem : Mem) (source dest : u32) (earlier : List u8) : u8 :=
  bus._MMU_read08 (replay bus mem (unpackStores info dest earlier))
    (source + BitVec.ofNat 32 earlier.length)

def unpackBytes (info : UnPackInfo) (mem : Mem) (source dest : u32) (n : Nat) : List u8 :=
  readings (nextByte bus info mem source dest) n

theorem toNat_unit (info : UnPackInfo) (byte : u8) (i : Nat) :
    (((byte >>> (info.bits * i)) &&& info.mask).setWidth 32 : u32).toNat =
      unitOf info.bits byte i := by
  have mask : info.mask.toNat = 2 ^ info.bits - 1 := by
    unfold UnPackInfo.mask
    rcases info.bits_valid with one | two | four | eight
    · rw [one]; rfl
    · rw [two]; rfl
    · rw [four]; rfl
    · rw [eight]; rfl
  rw [BitVec.toNat_setWidth,BitVec.toNat_and,mask,Nat.and_two_pow_sub_one_eq_mod,
    BitVec.toNat_ushiftRight,Nat.shiftRight_eq_div_pow,unitOf]
  have below := byte.isLt
  have shifted := Nat.div_le_self byte.toNat (2 ^ (info.bits * i))
  have small := Nat.mod_le (byte.toNat / 2 ^ (info.bits * i)) (2 ^ info.bits)
  omega

theorem toNat_addTo (info : UnPackInfo) (temp : u32) (small : temp.toNat < 2 ^ 31) :
    (info.addTo temp).toNat = info.valueOf temp.toNat := by
  have base := info.base_small
  have sum : (temp + info.base).toNat = temp.toNat + info.base.toNat := by
    rw [BitVec.toNat_add,Nat.mod_eq_of_lt (by omega)]
  unfold UnPackInfo.addTo UnPackInfo.valueOf
  by_cases none : temp = 0
  · have zero : temp.toNat = 0 := by rw [none]; rfl
    rw [if_neg (not_not_intro none)]
    cases flag : info.addBase with
    | false => simp [zero]
    | true => simp [sum]
  · have positive : temp.toNat ≠ 0 := fun zero => none (BitVec.eq_of_toNat_eq zero)
    rw [if_pos none,if_pos (Or.inl positive),sum]

structure Packed (info : UnPackInfo) (mem : Mem) (dest : u32) (values : List Nat)
    (out : UnPackState Mem) : Prop where
  mem : out.mem = replay bus mem (placeWords dest (words 32 info.dataSize values))
  dest : out.dest = dest + BitVec.ofNat 32 (4 * filled 32 info.dataSize values)
  data : out.data.toNat = rest 32 info.dataSize values
  bitwritecount : out.bitwritecount = used 32 info.dataSize values

variable {bus} {info : UnPackInfo} {mem : Mem} {dest : u32}

theorem packed_start : Packed bus info mem dest []
    { mem := mem, dest := dest, data := 0, bitwritecount := 0 } := by
  have none : filled 32 info.dataSize [] = 0 := by
    rw [filled,List.length_nil,Nat.mul_zero]
  have nothing : words 32 info.dataSize [] = [] := by
    rw [words,none]
    rfl
  refine ⟨?_,?_,?_,?_⟩
  · rw [nothing]
    rfl
  · rw [none]
    exact (BitVec.add_zero dest).symm
  · rw [rest,none]
    exact (Nat.zero_div _).symm
  · rw [used,List.length_nil,Nat.mul_zero]

theorem UnPackInfo.dataSize_dvd (info : UnPackInfo) : info.dataSize ∣ 32 := by
  rcases info.dataSize_valid with one | two | four | eight | sixteen | thirtyTwo
  · rw [one]; decide
  · rw [two]; decide
  · rw [four]; decide
  · rw [eight]; decide
  · rw [sixteen]; decide
  · rw [thirtyTwo]

theorem Packed.putData {values : List Nat} {out : UnPackState Mem}
    (packed : Packed bus info mem dest values out) {temp : u32}
    (fits : Fits info.dataSize (values ++ [temp.toNat])) :
    Packed bus info mem dest (values ++ [temp.toNat]) (putData bus info out temp) := by
  have inside := used_add_le info.dataSize_dvd (by decide) values
  have low : out.data.toNat < 2 ^ used 32 info.dataSize values := by
    rw [packed.data]
    exact rest_lt fits.init
  have joined := toNat_or_shiftLeft low (value_shift_lt fits.last inside)
  unfold Bios.putData
  rw [packed.bitwritecount]
  by_cases full : used 32 info.dataSize values + info.dataSize = 32
  · obtain ⟨more,none,nothing⟩ := snoc_full (by decide) fits full
    have n : filled 32 info.dataSize (values ++ [temp.toNat]) =
        filled 32 info.dataSize values + 1 := by
      have lengths := congrArg List.length more
      rwa [length_words,List.length_append,length_words,List.length_singleton] at lengths
    have written : out.data ||| temp <<< used 32 info.dataSize values =
        BitVec.ofNat 32 (rest 32 info.dataSize values +
          temp.toNat * 2 ^ used 32 info.dataSize values) := by
      rw [← packed.data,← joined,BitVec.ofNat_toNat,BitVec.setWidth_eq]
    rw [if_pos (by omega)]
    refine ⟨?_,?_,nothing.symm,none.symm⟩
    · rw [more,placeWords_snoc,replay_append,length_words,← packed.mem,← packed.dest,
        ← written]
      rfl
    · change out.dest + 4 = _
      rw [packed.dest,n,Nat.mul_succ,BitVec.ofNat_add,← BitVec.add_assoc]
      rfl
  · have room : used 32 info.dataSize values + info.dataSize < 32 := by omega
    obtain ⟨same,wider,above⟩ := snoc_open temp.toNat room
    have n : filled 32 info.dataSize (values ++ [temp.toNat]) =
        filled 32 info.dataSize values := by
      have lengths := congrArg List.length same
      rwa [length_words,length_words] at lengths
    rw [if_neg (by omega)]
    refine ⟨?_,?_,?_,wider.symm⟩
    · rw [same]
      exact packed.mem
    · rw [n]
      exact packed.dest
    · rw [above,← packed.data]
      exact joined

theorem UnPackInfo.bits_mul (info : UnPackInfo) : info.bits * (8 / info.bits) = 8 := by
  rcases info.bits_valid with one | two | four | eight
  · rw [one]
  · rw [two]
  · rw [four]
  · rw [eight]

theorem valuesOfByte_succ (info : UnPackInfo) (byte : u8) (n : Nat) :
    info.valuesOfByte byte (n + 1) =
      info.valuesOfByte byte n ++ [info.valueOf (unitOf info.bits byte n)] := by
  unfold UnPackInfo.valuesOfByte
  rw [List.range_succ,List.map_append]
  rfl

theorem valuesOfByte_mono {info : UnPackInfo} {byte : u8} {few many val : Nat} (fewer : few ≤ many)
    (listed : val ∈ info.valuesOfByte byte few) : val ∈ info.valuesOfByte byte many := by
  obtain ⟨i,inside,rfl⟩ := List.mem_map.mp listed
  have below := List.mem_range.mp inside
  exact List.mem_map.mpr ⟨i,List.mem_range.mpr (by omega),rfl⟩

theorem Packed.unitLoop {values : List Nat} (byte : u8) (left : Nat) :
    ∀ (i : Nat) (out : UnPackState Mem), i + left = 8 / info.bits →
      Packed bus info mem dest (values ++ info.valuesOfByte byte i) out →
        Fits info.dataSize (values ++ info.valuesOfByte byte (8 / info.bits)) →
          Packed bus info mem dest (values ++ info.valuesOfByte byte (8 / info.bits))
            (unitLoop bus info (byte >>> (info.bits * i)) (info.bits * i) out) := by
  have positive := info.bits_pos
  have whole := info.bits_mul
  induction left with
  | zero =>
      intro i out done packed fits
      have all : i = 8 / info.bits := by omega
      rw [Bios.unitLoop,if_pos (by rw [all,whole])]
      rw [all] at packed
      exact packed
  | succ left ih =>
      intro i out open' packed fits
      have unfinished : ¬8 ≤ info.bits * i := by
        intro finished
        have beyond : info.bits * (i + 1) ≤ info.bits * (8 / info.bits) :=
          Nat.mul_le_mul_left _ (by omega)
        rw [Nat.mul_succ,whole] at beyond
        omega
      have temp := toNat_unit info byte i
      have val := toNat_addTo info
        (((byte >>> (info.bits * i)) &&& info.mask).setWidth 32) (by
          rw [BitVec.toNat_setWidth]
          have bound := ((byte >>> (info.bits * i)) &&& info.mask).isLt
          omega)
      rw [temp] at val
      have fitsHere : Fits info.dataSize ((values ++ info.valuesOfByte byte i) ++
          [(info.addTo (((byte >>> (info.bits * i)) &&& info.mask).setWidth 32)).toNat]) := by
        rw [val,List.append_assoc,← valuesOfByte_succ]
        intro other listed
        apply fits
        rcases List.mem_append.mp listed with before | here
        · exact List.mem_append_left _ before
        · exact List.mem_append_right _ (valuesOfByte_mono (by omega) here)
      have next := packed.putData fitsHere
      rw [val,List.append_assoc,← valuesOfByte_succ] at next
      have later := ih (i + 1) _ (by omega) next fits
      rw [Nat.mul_succ,BitVec.shiftRight_add] at later
      rw [Bios.unitLoop,if_neg unfinished]
      exact later

theorem valuesOf_snoc (info : UnPackInfo) (bytes : List u8) (byte : u8) :
    info.valuesOf (bytes ++ [byte]) =
      info.valuesOf bytes ++ info.valuesOfByte byte (8 / info.bits) := by
  unfold UnPackInfo.valuesOf
  rw [List.flatMap_append,List.flatMap_singleton]

theorem length_valuesOf (info : UnPackInfo) (bytes : List u8) :
    (info.valuesOf bytes).length = bytes.length * (8 / info.bits) := by
  induction bytes using List.reverseRecOn with
  | nil => rw [List.length_nil,Nat.zero_mul]; rfl
  | append_singleton bytes byte ih =>
      rw [valuesOf_snoc,List.length_append,ih,List.length_append,List.length_singleton,
        Nat.add_mul,Nat.one_mul,UnPackInfo.valuesOfByte,List.length_map,List.length_range]

theorem unpackBytes_succ (bus : WideBus Mem) (info : UnPackInfo) (mem : Mem) (source dest : u32)
    (n : Nat) :
    unpackBytes bus info mem source dest (n + 1) =
      unpackBytes bus info mem source dest n ++
        [nextByte bus info mem source dest (unpackBytes bus info mem source dest n)] := rfl

theorem valuesOf_unpackBytes_add (bus : WideBus Mem) (info : UnPackInfo) (mem : Mem)
    (source dest : u32) (few more : Nat) :
    ∃ later, info.valuesOf (unpackBytes bus info mem source dest (few + more)) =
      info.valuesOf (unpackBytes bus info mem source dest few) ++ later := by
  induction more with
  | zero => exact ⟨[],(List.append_nil _).symm⟩
  | succ more ih =>
      obtain ⟨later,same⟩ := ih
      rw [← Nat.add_assoc,unpackBytes_succ,valuesOf_snoc,same,List.append_assoc]
      exact ⟨_,rfl⟩

theorem byteLoop_packed {source : u32} (left : Nat) :
    ∀ (n : Nat) (out : UnPackState Mem),
      Packed bus info mem dest (info.valuesOf (unpackBytes bus info mem source dest n)) out →
        Fits info.dataSize (info.valuesOf (unpackBytes bus info mem source dest (n + left))) →
          Packed bus info mem dest
            (info.valuesOf (unpackBytes bus info mem source dest (n + left)))
            (byteLoop bus info left (source + BitVec.ofNat 32 n) out) := by
  induction left with
  | zero =>
      intro n out packed fits
      exact packed
  | succ left ih =>
      intro n out packed fits
      have read : bus._MMU_read08 out.mem (source + BitVec.ofNat 32 n) =
          nextByte bus info mem source dest (unpackBytes bus info mem source dest n) := by
        rw [nextByte,unpackStores,← packed.mem,unpackBytes,length_readings]
      have total : n + (left + 1) = n + 1 + left := by omega
      rw [total] at fits ⊢
      obtain ⟨later,same⟩ := valuesOf_unpackBytes_add bus info mem source dest (n + 1) left
      have fitsNow : Fits info.dataSize
          (info.valuesOf (unpackBytes bus info mem source dest (n + 1))) := by
        rw [same] at fits
        exact Fits.left fits
      have none : info.valuesOfByte (bus._MMU_read08 out.mem (source + BitVec.ofNat 32 n)) 0 =
          [] := rfl
      rw [unpackBytes_succ,valuesOf_snoc,← read] at fitsNow
      have start : Packed bus info mem dest
          (info.valuesOf (unpackBytes bus info mem source dest n) ++
            info.valuesOfByte (bus._MMU_read08 out.mem (source + BitVec.ofNat 32 n)) 0) out := by
        rw [none,List.append_nil]
        exact packed
      have one := Packed.unitLoop _ (8 / info.bits) 0 out (Nat.zero_add _) start fitsNow
      rw [Nat.mul_zero,BitVec.ushiftRight_zero,read,← valuesOf_snoc,← unpackBytes_succ] at one
      have rest := ih (n + 1) _ one fits
      rw [← next_cursor] at rest
      rw [byteLoop,read]
      exact rest

/-! ### The whole call -/

def unpackedValues (bus : WideBus Mem) (info : UnPackInfo) (cpu : Cpu.armcpu_t) (mem : Mem) :
    List Nat :=
  info.valuesOf (unpackBytes bus info mem (cpu.R 0) (cpu.R 1)
    (bus._MMU_read16 mem (cpu.R 2)).toNat)

theorem unpackBytes_recording (bus : WideBus Mem) (info : UnPackInfo) (mem : Mem)
    (source dest : u32) (n : Nat) :
    unpackBytes bus.recording info (mem, []) source dest n =
      unpackBytes bus info mem source dest n := by
  induction n with
  | zero => rfl
  | succ n ih =>
      rw [unpackBytes_succ,unpackBytes_succ,ih,nextByte,replay_recording]
      rfl

theorem BitUnPack_eq {bus : WideBus Mem} {info : UnPackInfo} {cpu : Cpu.armcpu_t} {mem : Mem}
    (header : readInfo bus mem (cpu.R 2) = some info)
    (fits : Fits info.dataSize (unpackedValues bus info cpu mem)) :
    BitUnPack bus cpu mem =
      (replay bus mem (placeWords (cpu.R 1)
        (words 32 info.dataSize (unpackedValues bus info cpu mem))), 1) := by
  unfold unpackedValues at fits ⊢
  rw [← Nat.zero_add (bus._MMU_read16 mem (cpu.R 2)).toNat] at fits ⊢
  have looped := byteLoop_packed _ 0 _ packed_start fits
  have start : cpu.R 0 + BitVec.ofNat 32 0 = cpu.R 0 := BitVec.add_zero _
  rw [start] at looped
  have stored := looped.mem
  rw [Nat.zero_add] at stored ⊢
  simp only [BitUnPack,header]
  exact Prod.ext stored rfl

/-- When every value fits its width, `BitUnPack` stores the words that the
values fill, as many as whole words there are, and nothing else. -/
theorem bit_unpack_packs (bus : WideBus Mem) (cpu : Cpu.armcpu_t) (mem : Mem) (info : UnPackInfo)
    (header : readInfo bus mem (cpu.R 2) = some info)
    (fits : Fits info.dataSize (unpackedValues bus info cpu mem)) :
    storesOf mem (BitUnPack bus.recording cpu) =
        placeWords (cpu.R 1) (words 32 info.dataSize (unpackedValues bus info cpu mem)) ∧
      BitUnPack bus cpu mem =
        (replay bus mem (placeWords (cpu.R 1)
          (words 32 info.dataSize (unpackedValues bus info cpu mem))), 1) ∧
      (words 32 info.dataSize (unpackedValues bus info cpu mem)).length =
        info.dataSize * ((bus._MMU_read16 mem (cpu.R 2)).toNat * (8 / info.bits)) / 32 := by
  refine ⟨?_,BitUnPack_eq header fits,?_⟩
  · have same : unpackedValues bus.recording info cpu (mem, []) =
        unpackedValues bus info cpu mem := by
      unfold unpackedValues
      rw [unpackBytes_recording]
      rfl
    have recorded := @BitUnPack_eq _ bus.recording info cpu (mem, []) header
      (by rw [same]; exact fits)
    rw [storesOf,recorded,same,replay_recording]
    exact List.nil_append _
  · rw [length_words,filled,unpackedValues,length_valuesOf,unpackBytes,length_readings]

end

def unpackMemory : IoMem := loaded 0 [0x30,0,0,0,1,0,4,16,0xF0,0,0,0]

def unpackCall : Cpu.armcpu_t :=
  withArguments Cpu.armcpu_t.initial 0x02000000 0x02100000 0x02000004

theorem bit_unpack_packs_nibbles :
    storesOf unpackMemory (BitUnPack mainWideBus.recording unpackCall) =
      [.word 0x02100000 0x00F30000] := by
  have header : readInfo mainWideBus unpackMemory (unpackCall.R 2) =
      some
        { bits := 4, dataSize := 16, base := 0xF0, addBase := false, bits_valid := by decide,
          dataSize_valid := by decide, base_small := by decide } := by
    decide
  have stored := (bit_unpack_packs mainWideBus unpackCall unpackMemory _ header (by decide)).1
  rw [stored]
  decide

end Desmume.Bios
