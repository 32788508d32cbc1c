/-
Feistel networks whose round keys enter the half that is kept.

A round enters its key into one half, keeps that as the other half and mixes it
into the first. Two more keys whiten the result.
-/

import Mathlib

namespace Feistel

variable {w : Nat}

abbrev Block (w : Nat) := BitVec w × BitVec w

def round (mix : BitVec w → BitVec w) (block : Block w) (key : BitVec w) : Block w :=
  (key ^^^ block.2, block.1 ^^^ mix (key ^^^ block.2))

def whiten (first second : BitVec w) (block : Block w) : Block w :=
  (block.2 ^^^ first, block.1 ^^^ second)

variable (mix : BitVec w → BitVec w) (keys : Nat → BitVec w) (block : Block w)

variable (n : Nat) (other : Nat → BitVec w)

def rounds : Block w :=
  (List.range n).foldl (fun current i => round mix current (keys i)) block

def crypt : Block w :=
  whiten (keys n) (keys (n + 1)) (rounds mix keys block n)

def backwards : Nat → BitVec w :=
  fun i => keys (n + 1 - i)

@[simp] theorem rounds_zero : rounds mix keys block 0 = block := rfl

theorem rounds_succ :
    rounds mix keys block (n + 1) =
      round mix (rounds mix keys block n) (keys n) := by
  unfold rounds
  rw [List.range_succ,List.foldl_append,List.foldl_cons,List.foldl_nil]

theorem rounds_congr (n : Nat) (same : ∀ i < n, keys i = other i) :
    rounds mix keys block n = rounds mix other block n := by
  induction n with
  | zero => rfl
  | succ n ih =>
      rw [rounds_succ,rounds_succ,ih (fun i before => same i (by omega)),
        same n (Nat.lt_succ_self n)]

theorem xor_cancel (val key : BitVec w) : val ^^^ key ^^^ key = val := by
  rw [BitVec.xor_assoc,BitVec.xor_self,BitVec.xor_zero]

theorem round_whiten (first second key : BitVec w) :
    round mix (whiten first second (round mix block key)) second = whiten key first block := by
  obtain ⟨left,right⟩ := block
  have entered : second ^^^ (key ^^^ right ^^^ second) = right ^^^ key := by
    rw [BitVec.xor_comm second,xor_cancel,BitVec.xor_comm]
  have mixed : left ^^^ mix (key ^^^ right) ^^^ first ^^^ mix (right ^^^ key) = left ^^^ first := by
    rw [BitVec.xor_comm key,BitVec.xor_assoc left,BitVec.xor_comm (mix _),
      ← BitVec.xor_assoc,xor_cancel]
  simp only [round,whiten,entered,mixed]

theorem whiten_whiten (first second : BitVec w) :
    whiten second first (whiten first second block) = block := by
  simp only [whiten,xor_cancel]

theorem rounds_backwards (taken : Nat) (enough : taken ≤ n) :
    rounds mix (backwards keys n) (crypt mix keys block n) taken =
      whiten (keys (n - taken)) (keys (n - taken + 1))
        (rounds mix keys block (n - taken)) := by
  induction taken with
  | zero => rfl
  | succ taken ih =>
      have left : n - taken = n - (taken + 1) + 1 := by omega
      have key : backwards keys n taken = keys (n - (taken + 1) + 1 + 1) := by
        unfold backwards
        congr 1
        omega
      rw [rounds_succ,ih (by omega),key,left,rounds_succ,round_whiten]

theorem crypt_backwards : crypt mix (backwards keys n) (crypt mix keys block n) n = block := by
  have first : backwards keys n n = keys 1 := by
    unfold backwards
    congr 1
    omega
  have second : backwards keys n (n + 1) = keys 0 := by
    unfold backwards
    rw [Nat.sub_self]
  rw [crypt,rounds_backwards mix keys block n n (le_refl n),first,second,
    Nat.sub_self,rounds_zero,Nat.zero_add,whiten_whiten]

theorem crypt_congr (n : Nat) (same : ∀ i < n + 2, keys i = other i) :
    crypt mix keys block n = crypt mix other block n := by
  unfold crypt
  rw [rounds_congr mix keys block other n (fun i before => same i (by omega)),
    same n (by omega),same (n + 1) (by omega)]

theorem backwards_crypt : crypt mix keys (crypt mix (backwards keys n) block n) n = block := by
  have twice : ∀ i < n + 2, keys i = backwards (backwards keys n) n i := by
    intro i inside
    unfold backwards
    congr 1
    omega
  rw [crypt_congr mix keys _ _ n twice,crypt_backwards]

end Feistel
