/-
Reflected cyclic redundancy checks, one bit at a time.

One shift is linear in the register, so any number of shifts is.
-/

import Desmume.Types

namespace Desmume.Crc

variable {width : Nat} (polynomial : BitVec width)

variable (crc : BitVec width) (polynomials : List (BitVec width)) (n : Nat)
  (left right : BitVec width)

def shiftBit : BitVec width :=
  if crc.getLsbD 0 then (crc >>> 1) ^^^ polynomial else crc >>> 1

def shiftBits : Nat → BitVec width → BitVec width
  | 0, crc => crc
  | count + 1, crc => shiftBits count (shiftBit polynomial crc)

def crcByte (byte : u8) : BitVec width :=
  shiftBits polynomial 8 (crc ^^^ byte.setWidth width)

def crcBytes (bytes : List u8) : BitVec width :=
  bytes.foldl (crcByte polynomial) crc

theorem crcBytes_append (first second : List u8) :
    crcBytes polynomial crc (first ++ second) =
      crcBytes polynomial (crcBytes polynomial crc first) second :=
  List.foldl_append

theorem shiftBit_xor :
    shiftBit polynomial (left ^^^ right) =
      shiftBit polynomial left ^^^ shiftBit polynomial right := by
  unfold shiftBit
  rw [BitVec.getLsbD_xor,BitVec.ushiftRight_xor_distrib]
  cases left.getLsbD 0 with
  | false =>
      cases right.getLsbD 0 with
      | false => rfl
      | true => exact BitVec.xor_assoc _ _ _
  | true =>
      cases right.getLsbD 0 with
      | false =>
          change (left >>> 1 ^^^ right >>> 1) ^^^ polynomial =
            (left >>> 1 ^^^ polynomial) ^^^ right >>> 1
          rw [BitVec.xor_assoc,BitVec.xor_comm (right >>> 1),← BitVec.xor_assoc]
      | true =>
          change left >>> 1 ^^^ right >>> 1 =
            (left >>> 1 ^^^ polynomial) ^^^ (right >>> 1 ^^^ polynomial)
          rw [BitVec.xor_comm (right >>> 1) polynomial,BitVec.xor_assoc,
            ← BitVec.xor_assoc polynomial,BitVec.xor_self,BitVec.zero_xor]

theorem shiftBits_xor :
    shiftBits polynomial n (left ^^^ right) =
      shiftBits polynomial n left ^^^ shiftBits polynomial n right := by
  induction n generalizing left right with
  | zero => rfl
  | succ n ih =>
      rw [shiftBits,shiftBit_xor,ih]
      rfl

theorem shiftBits_add (first second : Nat) (crc : BitVec width) :
    shiftBits polynomial (first + second) crc =
      shiftBits polynomial second (shiftBits polynomial first crc) := by
  induction first generalizing crc with
  | zero => rw [Nat.zero_add,shiftBits]
  | succ first ih =>
      rw [Nat.succ_add_eq_add_succ,Nat.add_succ,shiftBits,ih]
      rfl

theorem shiftBits_of_clear (crc : BitVec width) (clear : ∀ i < n, crc.getLsbD i = false) :
    shiftBits polynomial n crc = crc >>> n := by
  induction n generalizing crc with
  | zero => rfl
  | succ n ih =>
      have lowest : shiftBit polynomial crc = crc >>> 1 := by
        unfold shiftBit
        rw [clear 0 (Nat.succ_pos n)]
        rfl
      have later (i : Nat) (bound : i < n) : (crc >>> 1).getLsbD i = false := by
        rw [BitVec.getLsbD_ushiftRight]
        exact clear (1 + i) (by omega)
      rw [shiftBits,lowest,ih _ later,← BitVec.shiftRight_add,Nat.add_comm]

def lowBits (crc : BitVec width) : BitVec width :=
  (crc.setWidth n).setWidth width

theorem lowBits_xor_high (crc : BitVec width) : lowBits n crc ^^^ (crc >>> n <<< n) = crc := by
  apply BitVec.eq_of_getLsbD_eq
  intro i bound
  unfold lowBits
  rw [BitVec.getLsbD_xor,BitVec.getLsbD_setWidth,BitVec.getLsbD_setWidth,
    BitVec.getLsbD_shiftLeft,BitVec.getLsbD_ushiftRight]
  by_cases low : i < n
  · simp [low,bound]
  · have restored : n + (i - n) = i := by omega
    simp [low,bound,restored]

theorem shiftRight_of_high (crc : BitVec width) : (crc >>> n <<< n) >>> n = crc >>> n := by
  apply BitVec.eq_of_getLsbD_eq
  intro i bound
  rw [BitVec.getLsbD_ushiftRight,BitVec.getLsbD_shiftLeft,BitVec.getLsbD_ushiftRight]
  have restored : n + (n + i - n) = n + i := by omega
  by_cases inside : n + i < width
  · simp [inside]
  · have beyond := BitVec.getLsbD_of_ge crc (n + i) (by omega)
    simp [beyond]

theorem shiftBits_split (crc : BitVec width) :
    shiftBits polynomial n crc =
      shiftBits polynomial n (lowBits n crc) ^^^ (crc >>> n) := by
  have clear (i : Nat) (bound : i < n) :
      (crc >>> n <<< n).getLsbD i = false := by
    rw [BitVec.getLsbD_shiftLeft]
    simp [bound]
  have moved := shiftBits_of_clear polynomial n _ clear
  have parts := shiftBits_xor polynomial n (lowBits n crc) (crc >>> n <<< n)
  rw [lowBits_xor_high,moved,shiftRight_of_high] at parts
  exact parts

theorem shiftBits_pieces (first second : Nat) (crc data : BitVec width) :
    shiftBits polynomial (first + second) (crc ^^^ data) =
      shiftBits polynomial second
        (shiftBits polynomial first (crc ^^^ lowBits first data) ^^^ (data >>> first)) := by
  have parted : crc ^^^ data = (crc ^^^ lowBits first data) ^^^ (data >>> first <<< first) := by
    rw [BitVec.xor_assoc,lowBits_xor_high]
  have clear (i : Nat) (bound : i < first) :
      (data >>> first <<< first).getLsbD i = false := by
    rw [BitVec.getLsbD_shiftLeft]
    simp [bound]
  rw [shiftBits_add,parted,shiftBits_xor polynomial first,
    shiftBits_of_clear polynomial first _ clear,shiftRight_of_high]

def shiftEach (crc : BitVec width) : BitVec width :=
  polynomials.foldl (fun crc polynomial => shiftBit polynomial crc) crc

theorem shiftEach_xor :
    shiftEach polynomials (left ^^^ right) =
      shiftEach polynomials left ^^^ shiftEach polynomials right := by
  induction polynomials generalizing left right with
  | nil => rfl
  | cons polynomial polynomials ih =>
      change shiftEach polynomials (shiftBit polynomial (left ^^^ right)) = _
      rw [shiftBit_xor,ih]
      rfl

theorem shiftEach_of_clear (crc : BitVec width)
    (clear : ∀ i < polynomials.length, crc.getLsbD i = false) :
    shiftEach polynomials crc = crc >>> polynomials.length := by
  induction polynomials generalizing crc with
  | nil => rfl
  | cons polynomial polynomials ih =>
      have lowest : shiftBit polynomial crc = crc >>> 1 := by
        unfold shiftBit
        rw [clear 0 (Nat.succ_pos _)]
        rfl
      have later (i : Nat) (bound : i < polynomials.length) :
          (crc >>> 1).getLsbD i = false := by
        rw [BitVec.getLsbD_ushiftRight]
        exact clear (1 + i) (by rw [List.length_cons]; omega)
      change shiftEach polynomials (shiftBit polynomial crc) = _
      rw [lowest,ih _ later,← BitVec.shiftRight_add,Nat.add_comm,List.length_cons]

theorem shiftEach_split (crc : BitVec width) :
    shiftEach polynomials crc =
      shiftEach polynomials (lowBits polynomials.length crc) ^^^ (crc >>> polynomials.length) := by
  have clear (i : Nat) (bound : i < polynomials.length) :
      (crc >>> polynomials.length <<< polynomials.length).getLsbD i = false := by
    rw [BitVec.getLsbD_shiftLeft]
    simp [bound]
  have moved := shiftEach_of_clear polynomials _ clear
  have parts := shiftEach_xor polynomials (lowBits polynomials.length crc)
    (crc >>> polynomials.length <<< polynomials.length)
  rw [lowBits_xor_high,moved,shiftRight_of_high] at parts
  exact parts

def littleEndian : Nat → BitVec width → List u8
  | 0, _ => []
  | count + 1, word => word.setWidth 8 :: littleEndian count (word >>> 8)

theorem length_littleEndian (word : BitVec width) : (littleEndian n word).length = n := by
  induction n generalizing word with
  | zero => rfl
  | succ n ih => rw [littleEndian,List.length_cons,ih]

theorem crcBytes_littleEndian (crc word : BitVec width) (fits : word >>> (8 * n) = 0) :
    crcBytes polynomial crc (littleEndian n word) =
      shiftBits polynomial (8 * n) (crc ^^^ word) := by
  induction n generalizing crc word with
  | zero =>
      have none : word = 0 := by
        rw [← BitVec.ushiftRight_zero (x := word)]
        exact fits
      rw [none]
      exact BitVec.xor_zero.symm
  | succ n ih =>
      have rest : word >>> 8 >>> (8 * n) = 0 := by
        rw [← BitVec.shiftRight_add,Nat.add_comm]
        exact fits
      change crcBytes polynomial (crcByte polynomial crc (word.setWidth 8))
        (littleEndian n (word >>> 8)) = _
      rw [ih _ _ rest,Nat.mul_succ,Nat.add_comm,shiftBits_pieces]
      rfl

def shiftBitLeft : BitVec width :=
  (crc <<< 1) ^^^ (if crc.msb then polynomial else 0)

theorem reverse_xor : (left ^^^ right).reverse = left.reverse ^^^ right.reverse := by
  apply BitVec.eq_of_getLsbD_eq
  intro i inside
  rw [BitVec.getLsbD_xor,BitVec.getLsbD_reverse,BitVec.getLsbD_reverse,
    BitVec.getLsbD_reverse,BitVec.getMsbD_xor]

theorem reverse_shiftLeft_one : (crc <<< 1).reverse = crc.reverse >>> 1 := by
  apply BitVec.eq_of_getLsbD_eq
  intro i inside
  rw [BitVec.getLsbD_reverse,BitVec.getLsbD_ushiftRight,BitVec.getLsbD_reverse,
    BitVec.getMsbD_shiftLeft,Nat.add_comm]

theorem reverse_shiftBitLeft :
    (shiftBitLeft polynomial crc).reverse = shiftBit polynomial.reverse crc.reverse := by
  have lowest : crc.reverse.getLsbD 0 = crc.msb := by
    rw [BitVec.getLsbD_reverse]
    rfl
  unfold shiftBitLeft shiftBit
  rw [reverse_xor,reverse_shiftLeft_one,lowest]
  cases crc.msb with
  | true => rfl
  | false =>
      have zero : (0 : BitVec width).reverse = 0 := by
        apply BitVec.eq_of_getLsbD_eq
        intro i inside
        simp [BitVec.getLsbD_reverse]
      change crc.reverse >>> 1 ^^^ (0 : BitVec width).reverse = crc.reverse >>> 1
      rw [zero]
      exact BitVec.xor_zero

end Desmume.Crc
