/-
The checksum of wireless frames: `WIFI_initCRC32Table` and `WIFI_calcCRC32`.

The table is built with the polynomial in its own bit order, between two bit
reversals, and is used with right shifts.
-/

import Desmume.Lib.Crc
import Desmume.Wifi.Mac

namespace Desmume.Wifi

open Function (update update_of_ne update_self)

open Crc

def initEntry (table : Nat → u32) (i : Nat) : Nat → u32 :=
  let table := update table i (reflect (BitVec.ofNat 32 i) 8 <<< 24)
  let table := (List.range 8).foldl
    (fun table _ => update table i
      ((table i <<< 1) ^^^ (if (table i).getLsbD 31 then (0x04C11DB7 : u32) else 0)))
    table
  update table i (reflect (table i) 32)

def WIFI_initCRC32Table (table : Nat → u32) : Nat → u32 :=
  (List.range 0x100).foldl initEntry table

variable (table : Nat → u32)

theorem initEntry_other {i idx : Nat} (other : idx ≠ i) : initEntry table i idx = table idx := by
  have kept (rounds : Nat) (start : Nat → u32) :
      (List.range rounds).foldl
        (fun table _ => update table i
          ((table i <<< 1) ^^^ (if (table i).getLsbD 31 then (0x04C11DB7 : u32) else 0)))
        start idx = start idx := by
    induction rounds with
    | zero => rfl
    | succ rounds ih =>
        rw [List.range_succ,List.foldl_append]
        exact (update_of_ne other _ _).trans ih
  unfold initEntry
  rw [update_of_ne other,kept,update_of_ne other]

variable (idx : u8)

theorem initEntry_own : initEntry table idx.toNat idx.toNat = WIFI_CRC32Table idx := by
  have shifted (rounds : Nat) (start : Nat → u32) :
      (List.range rounds).foldl
        (fun table _ => update table idx.toNat
          ((table idx.toNat <<< 1) ^^^
            (if (table idx.toNat).getLsbD 31 then (0x04C11DB7 : u32) else 0)))
        start idx.toNat =
      (List.range rounds).foldl
        (fun (entry : u32) _ =>
          (entry <<< 1) ^^^ (if entry.getLsbD 31 then (0x04C11DB7 : u32) else 0))
        (start idx.toNat) := by
    induction rounds with
    | zero => rfl
    | succ rounds ih =>
        rw [List.range_succ,List.foldl_append,List.foldl_append,← ih]
        exact update_self _ _ _
  have num : BitVec.ofNat 32 idx.toNat = idx.setWidth 32 := by
    apply BitVec.eq_of_toNat_eq
    rw [BitVec.toNat_ofNat,BitVec.toNat_setWidth]
  unfold initEntry WIFI_CRC32Table
  dsimp only
  rw [update_self,shifted,update_self,num]

theorem WIFI_initCRC32Table_apply : WIFI_initCRC32Table table idx.toNat = WIFI_CRC32Table idx := by
  have filled (rounds : Nat) (reached : idx.toNat < rounds) :
      (List.range rounds).foldl initEntry table idx.toNat = WIFI_CRC32Table idx := by
    induction rounds with
    | zero => exact absurd reached (Nat.not_lt_zero _)
    | succ rounds ih =>
        rw [List.range_succ,List.foldl_append]
        by_cases last : idx.toNat = rounds
        · subst last
          exact initEntry_own _ idx
        · exact (initEntry_other _ last).trans (ih (by omega))
  exact filled 0x100 idx.isLt

theorem getLsbD_reflect (ref : u32) {n : Nat} (inside : n ≤ 32) (bit : Nat) :
    (reflect ref n).getLsbD bit =
      (decide (bit < n) && ref.getLsbD (n - 1 - bit)) := by
  have upTo (rounds : Nat) (within : rounds ≤ n) :
      ((List.range rounds).foldl
        (fun val bit =>
          if ref.getLsbD bit then val ||| BitVec.twoPow 32 (n - 1 - bit) else val)
        (0 : u32)).getLsbD bit =
      (decide (n - rounds ≤ bit ∧ bit < n) && ref.getLsbD (n - 1 - bit)) := by
    induction rounds with
    | zero =>
        have never : ¬ (n - 0 ≤ bit ∧ bit < n) := by omega
        rw [decide_eq_false never,Bool.false_and]
        exact BitVec.getLsbD_zero
    | succ rounds ih =>
        have before := ih (by omega)
        rw [List.range_succ,List.foldl_append]
        by_cases here : bit = n - 1 - rounds
        · have own : n - 1 - bit = rounds := by omega
          have reached : n - (rounds + 1) ≤ bit ∧ bit < n := by omega
          have fresh : ¬ (n - rounds ≤ bit ∧ bit < n) := by omega
          rw [decide_eq_false fresh,Bool.false_and] at before
          rw [decide_eq_true reached,Bool.true_and,own]
          simp only [List.foldl_cons,List.foldl_nil]
          cases listed : ref.getLsbD rounds with
          | false => exact before
          | true =>
              have low : bit < 32 := by omega
              rw [if_pos rfl,BitVec.getLsbD_or,before,BitVec.getLsbD_twoPow,← here]
              simp [low]
        · have same : (n - (rounds + 1) ≤ bit ∧ bit < n) ↔
              (n - rounds ≤ bit ∧ bit < n) := by omega
          have away : ¬ n - 1 - rounds = bit := by omega
          rw [decide_eq_decide.mpr same,← before]
          simp only [List.foldl_cons,List.foldl_nil]
          split
          · rw [BitVec.getLsbD_or,BitVec.getLsbD_twoPow,
              decide_eq_false away,Bool.and_false,Bool.or_false]
          · rfl
  have whole := upTo n (Nat.le_refl n)
  have all : (n - n ≤ bit ∧ bit < n) ↔ bit < n := by omega
  rw [decide_eq_decide.mpr all] at whole
  exact whole

theorem reflect_all (ref : u32) : reflect ref 32 = ref.reverse := by
  apply BitVec.eq_of_getLsbD_eq
  intro idx inside
  rw [getLsbD_reflect ref (Nat.le_refl 32),BitVec.getLsbD_reverse,BitVec.getMsbD]

theorem reverse_reflect_byte : (reflect (idx.setWidth 32) 8 <<< 24).reverse = idx.setWidth 32 := by
  apply BitVec.eq_of_getLsbD_eq
  intro bit inside
  rw [BitVec.getLsbD_reverse,BitVec.getMsbD,BitVec.getLsbD_shiftLeft,
    getLsbD_reflect _ (by decide),BitVec.getLsbD_setWidth,BitVec.getLsbD_setWidth]
  by_cases low : bit < 8
  · have back : 8 - 1 - (32 - 1 - bit - 24) = bit := by omega
    have top : ¬ 32 - 1 - bit < 24 := by omega
    have within : 32 - 1 - bit - 24 < 8 := by omega
    have first : 32 - 1 - bit < 32 := by omega
    rw [back,decide_eq_true inside,decide_eq_true within,decide_eq_true first,
      decide_eq_false top]
    rfl
  · have bottom : 32 - 1 - bit < 24 := by omega
    have beyond := BitVec.getLsbD_of_ge idx bit (by omega)
    rw [beyond,decide_eq_true bottom]
    simp

def crc32 (bytes : List u8) : u32 :=
  crcBytes 0xEDB88320 0xFFFFFFFF bytes ^^^ 0xFFFFFFFF

theorem WIFI_CRC32Table_eq : WIFI_CRC32Table idx = shiftBits 0xEDB88320 8 (idx.setWidth 32) := by
  have polynomial : (0x04C11DB7 : u32).reverse = 0xEDB88320 := by decide +kernel
  have shifted (rounds : Nat) (start : u32) :
      ((List.range rounds).foldl
        (fun (entry : u32) _ =>
          (entry <<< 1) ^^^ (if entry.getLsbD 31 then (0x04C11DB7 : u32) else 0))
        start).reverse = shiftBits 0xEDB88320 rounds start.reverse := by
    induction rounds with
    | zero => rfl
    | succ rounds ih =>
        rw [List.range_succ,List.foldl_append,shiftBits_add,← ih,← polynomial]
        exact reverse_shiftBitLeft _ _
  unfold WIFI_CRC32Table
  dsimp only
  rw [reflect_all,shifted,reverse_reflect_byte]

theorem tableStep_eq (crc : u32) (byte : u8) :
    (crc >>> 8) ^^^ WIFI_CRC32Table (crc.setWidth 8 ^^^ byte) = crcByte 0xEDB88320 crc byte := by
  have low : lowBits 8 (crc ^^^ byte.setWidth 32) = (crc.setWidth 8 ^^^ byte).setWidth 32 := by
    unfold lowBits
    rw [BitVec.setWidth_xor,BitVec.setWidth_setWidth_of_le _ (by decide),BitVec.setWidth_eq]
  have high : byte.setWidth 32 >>> 8 = 0 := by
    apply BitVec.eq_of_getLsbD_eq
    intro idx inside
    rw [BitVec.getLsbD_ushiftRight,BitVec.getLsbD_setWidth,
      BitVec.getLsbD_of_ge byte (8 + idx) (by omega),Bool.and_false]
    exact BitVec.getLsbD_zero.symm
  rw [WIFI_CRC32Table_eq,crcByte,shiftBits_split _ 8 (crc ^^^ byte.setWidth 32),low,
    BitVec.ushiftRight_xor_distrib,high,BitVec.xor_comm]
  have unchanged : crc >>> 8 ^^^ (0 : u32) = crc >>> 8 := BitVec.xor_zero
  rw [unchanged]

theorem WIFI_calcCRC32_eq (data : Nat → u8) (len : Nat) :
    WIFI_calcCRC32 data len = some (crc32 ((List.range len).map data)) := by
  have folded : (List.range len).foldl
      (fun (crc : u32) idx => (crc >>> 8) ^^^ WIFI_CRC32Table (crc.setWidth 8 ^^^ data idx))
      0xFFFFFFFF = crcBytes 0xEDB88320 0xFFFFFFFF ((List.range len).map data) := by
    unfold crcBytes
    rw [List.foldl_map]
    congr 1
    funext crc idx
    exact tableStep_eq crc (data idx)
  unfold WIFI_calcCRC32
  rw [if_neg (by omega)]
  exact congrArg (fun crc => some (crc ^^^ 0xFFFFFFFF)) folded

theorem map_getD_range (bytes : List u8) :
    (List.range bytes.length).map (fun idx => bytes.getD idx 0) = bytes := by
  apply List.ext_getElem
  · rw [List.length_map,List.length_range]
  · intro idx first second
    rw [List.getElem_map,List.getElem_range,List.getD_eq_getElem _ _ second]

theorem crc32_extended (bytes : List u8) :
    crc32 (bytes ++ littleEndian 4 (crc32 bytes)) = 0x2144DF1C := by
  have fits : crc32 bytes >>> (8 * 4) = 0 := BitVec.ushiftRight_eq_zero (Nat.le_refl 32)
  have cancelled : crcBytes 0xEDB88320 0xFFFFFFFF bytes ^^^ crc32 bytes = 0xFFFFFFFF := by
    unfold crc32
    rw [← BitVec.xor_assoc,BitVec.xor_self,BitVec.zero_xor]
  have residue : shiftBits (0xEDB88320 : u32) (8 * 4) 0xFFFFFFFF ^^^ 0xFFFFFFFF = 0x2144DF1C := by
    decide +kernel
  rw [crc32,crcBytes_append,crcBytes_littleEndian 0xEDB88320 4 _ _ fits,cancelled]
  exact residue

/-- The table is filled as the checksum uses it, the checksum is the reflected
CRC-32, and a frame that ends with its checksum has the constant residue. -/
theorem frame_checksum (table : Nat → u32) (bytes : List u8) :
    (∀ idx : u8, WIFI_initCRC32Table table idx.toNat = WIFI_CRC32Table idx) ∧
      WIFI_calcCRC32 (fun idx => bytes.getD idx 0) bytes.length = some (crc32 bytes) ∧
      WIFI_calcCRC32
          (fun idx => (bytes ++ littleEndian 4 (crc32 bytes)).getD idx 0)
          (bytes.length + 4 : Nat) = some 0x2144DF1C := by
  have length : (bytes ++ littleEndian 4 (crc32 bytes)).length = bytes.length + 4 := by
    rw [List.length_append,length_littleEndian]
  refine ⟨WIFI_initCRC32Table_apply table,?_,?_⟩
  · rw [WIFI_calcCRC32_eq,map_getD_range]
  · rw [← length,WIFI_calcCRC32_eq,map_getD_range,crc32_extended]

end Desmume.Wifi
