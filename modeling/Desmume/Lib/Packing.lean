/-
Values of a fixed width packed into words, the first value in the lowest bits.

All values together are one number. A word is a stretch of its bits, and what
lies behind the last whole word is the rest.
-/

import Mathlib.Data.List.Induction
import Mathlib.Data.Nat.Digits.Defs
import Mathlib.Tactic.Ring

namespace Desmume.Packing

def stream (width : Nat) (values : List Nat) : Nat := Nat.ofDigits (2 ^ width) values

variable (size width : Nat)

def filled (values : List Nat) : Nat := width * values.length / size

def used (values : List Nat) : Nat := width * values.length % size

def word (values : List Nat) (i : Nat) : BitVec size :=
  BitVec.ofNat size (stream width values / 2 ^ (size * i))

def words (values : List Nat) : List (BitVec size) :=
  (List.range (filled size width values)).map (word size width values)

def rest (values : List Nat) : Nat :=
  stream width values / 2 ^ (size * filled size width values)

def Fits (values : List Nat) : Prop := ∀ val ∈ values, val < 2 ^ width

@[simp] theorem length_words (values : List Nat) :
    (words size width values).length = filled size width values := by
  rw [words,List.length_map,List.length_range]

variable {size width}

instance (values : List Nat) : Decidable (Fits width values) :=
  inferInstanceAs (Decidable (∀ val ∈ values, val < 2 ^ width))

theorem Fits.left {first second : List Nat} (fits : Fits width (first ++ second)) :
    Fits width first :=
  fun val listed => fits val (List.mem_append_left _ listed)

variable {values : List Nat} {val : Nat}

theorem Fits.init (fits : Fits width (values ++ [val])) :
    Fits width values := fits.left

theorem Fits.last (fits : Fits width (values ++ [val])) : val < 2 ^ width :=
  fits val (List.mem_append_right _ List.mem_cons_self)

theorem Fits.snoc (fits : Fits width values)
    (small : val < 2 ^ width) : Fits width (values ++ [val]) := by
  intro other listed
  rcases List.mem_append.mp listed with earlier | last
  · exact fits other earlier
  · rw [List.mem_singleton.mp last]
    exact small

theorem stream_snoc (values : List Nat) (val : Nat) :
    stream width (values ++ [val]) =
      stream width values + 2 ^ (width * values.length) * val := by
  rw [stream,Nat.ofDigits_append,Nat.ofDigits_singleton,← Nat.pow_mul]
  rfl

theorem stream_lt (fits : Fits width values) :
    stream width values < 2 ^ (width * values.length) := by
  induction values using List.reverseRecOn with
  | nil => exact Nat.pow_pos (by decide)
  | append_singleton values val ih =>
      have below := ih fits.init
      have small : val + 1 ≤ 2 ^ width := fits.last
      have step : 2 ^ (width * values.length) * (val + 1) ≤
          2 ^ (width * values.length) * 2 ^ width := Nat.mul_le_mul_left _ small
      rw [Nat.mul_add,Nat.mul_one] at step
      rw [stream_snoc,List.length_append,List.length_singleton,Nat.mul_add,Nat.mul_one,
        Nat.pow_add]
      omega

theorem filled_add_used (values : List Nat) :
    size * filled size width values + used size width values = width * values.length :=
  Nat.div_add_mod _ _

theorem pow_length (values : List Nat) :
    2 ^ (width * values.length) =
      2 ^ (size * filled size width values) * 2 ^ used size width values := by
  rw [← Nat.pow_add,filled_add_used]

theorem rest_lt (fits : Fits width values) :
    rest size width values < 2 ^ used size width values := by
  have below := stream_lt fits
  rw [pow_length] at below
  exact Nat.div_lt_of_lt_mul below

theorem used_add_le (divides : width ∣ size) (positive : 0 < size) (values : List Nat) :
    used size width values + width ≤ size := by
  obtain ⟨n,rfl⟩ := divides
  have below : values.length % n < n := by
    apply Nat.mod_lt
    exact Nat.pos_of_mul_pos_left positive
  have step : width * (values.length % n + 1) ≤ width * n := Nat.mul_le_mul_left _ below
  rw [used,Nat.mul_mod_mul_left]
  rwa [Nat.mul_add,Nat.mul_one] at step

theorem word_snoc (values : List Nat) (val i : Nat) (complete : i < filled size width values) :
    word size width (values ++ [val]) i = word size width values i := by
  obtain ⟨later,behind⟩ := Nat.exists_eq_add_of_le complete
  have total := @filled_add_used size width values
  have bits : width * values.length =
      size * i + (size + (size * later + used size width values)) := by
    rw [← total,behind,Nat.succ_eq_add_one]
    ring
  have split : 2 ^ (width * values.length) * val =
      2 ^ (size * i) * (2 ^ size * (2 ^ (size * later + used size width values) * val)) := by
    rw [bits,Nat.pow_add,Nat.pow_add]
    ring
  unfold word
  rw [stream_snoc,split,Nat.add_mul_div_left _ _ (Nat.pow_pos (by decide))]
  apply BitVec.eq_of_toNat_eq
  rw [BitVec.toNat_ofNat,BitVec.toNat_ofNat,Nat.add_mul_mod_self_left]

theorem rest_snoc_of_filled
    (same : filled size width (values ++ [val]) = filled size width values) :
    rest size width (values ++ [val]) =
      rest size width values + val * 2 ^ used size width values := by
  have split : 2 ^ (width * values.length) * val =
      2 ^ (size * filled size width values) * (val * 2 ^ used size width values) := by
    rw [@pow_length size width values]
    ring
  rw [rest,same,stream_snoc,split,Nat.add_mul_div_left _ _ (Nat.pow_pos (by decide))]
  rfl

theorem toNat_or_shiftLeft {acc val : BitVec size} {n : Nat} (low : acc.toNat < 2 ^ n)
    (high : val.toNat * 2 ^ n < 2 ^ size) :
    (acc ||| val <<< n).toNat = acc.toNat + val.toNat * 2 ^ n := by
  have merged := Nat.shiftLeft_add_eq_or_of_lt low val.toNat
  rw [Nat.shiftLeft_eq] at merged
  rw [BitVec.toNat_or,BitVec.toNat_shiftLeft,Nat.shiftLeft_eq,Nat.mod_eq_of_lt high,
    Nat.or_comm,← merged,Nat.add_comm]

theorem value_shift_lt (small : val < 2 ^ width) (room : used size width values + width ≤ size) :
    val * 2 ^ used size width values < 2 ^ size := by
  have below : val * 2 ^ used size width values < 2 ^ width * 2 ^ used size width values :=
    Nat.mul_lt_mul_of_pos_right small (Nat.pow_pos (by decide))
  have enough : 2 ^ (width + used size width values) ≤ 2 ^ size :=
    Nat.pow_le_pow_right (by decide) (by omega)
  rw [Nat.pow_add] at enough
  omega

theorem snoc_open (val : Nat) (room : used size width values + width < size) :
    words size width (values ++ [val]) = words size width values ∧
      used size width (values ++ [val]) = used size width values + width ∧
        rest size width (values ++ [val]) =
          rest size width values + val * 2 ^ used size width values := by
  have total := @filled_add_used size width values
  have bits : width * (values ++ [val]).length =
      size * filled size width values + (used size width values + width) := by
    rw [List.length_append,List.length_singleton,Nat.mul_add,← total]
    ring
  have n : filled size width (values ++ [val]) = filled size width values := by
    rw [filled,bits,Nat.mul_add_div (by omega),Nat.div_eq_of_lt room,Nat.add_zero]
  refine ⟨?_,?_,rest_snoc_of_filled n⟩
  · unfold words
    rw [n]
    apply List.map_congr_left
    intro i listed
    exact word_snoc values val i (List.mem_range.mp listed)
  · rw [used,bits,Nat.mul_add_mod,Nat.mod_eq_of_lt room]

theorem snoc_full (positive : 0 < size)
    (fits : Fits width (values ++ [val])) (full : used size width values + width = size) :
    words size width (values ++ [val]) =
        words size width values ++
          [BitVec.ofNat size (rest size width values + val * 2 ^ used size width values)] ∧
      used size width (values ++ [val]) = 0 ∧ rest size width (values ++ [val]) = 0 := by
  have total := @filled_add_used size width values
  have bits : width * (values ++ [val]).length = size * (filled size width values + 1) := by
    rw [List.length_append,List.length_singleton,Nat.mul_add,← total,Nat.mul_add]
    omega
  have n : filled size width (values ++ [val]) = filled size width values + 1 := by
    rw [filled,bits,Nat.mul_div_cancel_left _ positive]
  have split : 2 ^ (width * values.length) * val =
      2 ^ (size * filled size width values) * (val * 2 ^ used size width values) := by
    rw [@pow_length size width values]
    ring
  have last : word size width (values ++ [val]) (filled size width values) =
      BitVec.ofNat size (rest size width values + val * 2 ^ used size width values) := by
    rw [word,stream_snoc,split,Nat.add_mul_div_left _ _ (Nat.pow_pos (by decide))]
    rfl
  refine ⟨?_,?_,?_⟩
  · unfold words
    rw [n,List.range_succ,List.map_append,List.map_singleton,last]
    congr 1
    apply List.map_congr_left
    intro i listed
    exact word_snoc values val i (List.mem_range.mp listed)
  · rw [used,bits,Nat.mul_mod_right]
  · have below := stream_lt fits
    rw [bits] at below
    rw [rest,n]
    exact Nat.div_eq_of_lt below

end Desmume.Packing
