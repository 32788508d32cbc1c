/-
The KEY1 cipher: its key buffer, how a block is enciphered and deciphered with
it, and how a key code is applied to the buffer.

Every access to `keyBuf` and `keyCode` is checked against the array's length; an
access outside has no value.
-/

import Desmume.Types
import Desmume.Lib.Feistel

namespace Desmume.Firmware

/-- The 0x412 words of `keyBuf`, the three of `keyCode`, and the bytes that
`keyBufPtr` points to. -/
structure KEY1 where
  keyBuf : Fin 0x412 → u32
  keyCode : Fin 3 → u32
  keyBufPtr : Fin 0x1048 → u8

/-- The two words that `ptr` points to. -/
abbrev Block := u32 × u32

/-- `DWNUM(i)`. -/
def DWNUM (i : u32) : u32 := i >>> 2

def bswap32 (val : u32) : u32 :=
  val.extractLsb' 0 8 ++ val.extractLsb' 8 8 ++ val.extractLsb' 16 8 ++
    val.extractLsb' 24 8

namespace KEY1

def load (key : KEY1) (i : u32) : Option u32 :=
  if inside : i.toNat < 0x412 then some (key.keyBuf ⟨i.toNat,inside⟩) else none

def store (key : KEY1) (i : u32) (val : u32) : Option KEY1 :=
  if inside : i.toNat < 0x412 then
    some { key with keyBuf := Function.update key.keyBuf ⟨i.toNat,inside⟩ val }
  else none

def code (key : KEY1) (i : u32) : Option u32 :=
  if inside : i.toNat < 3 then some (key.keyCode ⟨i.toNat,inside⟩) else none

/-- The loop body that `encrypt` and `decrypt` share, on `y` and `x`. -/
def turn (key : KEY1) (yx : Block) (i : u32) : Option Block := do
  let (y, x) := yx
  let z := (← key.load i) ^^^ x
  let x ← key.load (DWNUM ((0x048 : u32) + (((z >>> 24) &&& 0xFF) <<< 2)))
  let x := (← key.load (DWNUM ((0x448 : u32) + (((z >>> 16) &&& 0xFF) <<< 2)))) + x
  let x := (← key.load (DWNUM ((0x848 : u32) + (((z >>> 8) &&& 0xFF) <<< 2)))) ^^^ x
  let x := (← key.load (DWNUM ((0xC48 : u32) + (((z >>> 0) &&& 0xFF) <<< 2)))) + x
  return (z, y ^^^ x)

/-- The values of `i` from 0 to 0x0F. -/
def encryptIndices : List u32 := (List.range 0x10).map fun n => BitVec.ofNat 32 n

/-- The values of `i` from 0x11 down to 2. -/
def decryptIndices : List u32 := (List.range 0x10).map fun n => BitVec.ofNat 32 (0x11 - n)

def encrypt (key : KEY1) (ptr : Block) : Option Block := do
  let (y, x) ← encryptIndices.foldlM key.turn ptr
  return (x ^^^ (← key.load (DWNUM 0x40)), y ^^^ (← key.load (DWNUM 0x44)))

def decrypt (key : KEY1) (ptr : Block) : Option Block := do
  let (y, x) ← decryptIndices.foldlM key.turn ptr
  return (x ^^^ (← key.load (DWNUM 0x04)), y ^^^ (← key.load (DWNUM 0x00)))

/-- `encrypt(&keyCode[first])`, where `second` is the index behind `first`. -/
def encryptCode (key : KEY1) (first second : Fin 3) : Option KEY1 := do
  let (low, high) ← key.encrypt (key.keyCode first, key.keyCode second)
  return { key with
    keyCode := Function.update (Function.update key.keyCode first low) second high }

/-- The first loop of `applyKeycode`; a division by zero has no value. -/
def enterCode (modulo : u8) (key : KEY1) (i : u32) : Option KEY1 :=
  if modulo = 0 then none
  else do
    let word ← key.code (DWNUM (i % modulo.setWidth 32))
    key.store (DWNUM i) ((← key.load (DWNUM i)) ^^^ bswap32 word)

/-- The second loop of `applyKeycode`, with the two words of `scratch`. -/
def refill (st : KEY1 × Block) (i : u32) : Option (KEY1 × Block) := do
  let (key, scratch) := st
  let scratch ← key.encrypt scratch
  let key ← key.store (DWNUM i) scratch.2
  let key ← key.store (DWNUM (i + 4)) scratch.1
  return (key, scratch)

/-- The values of `i` from 0 to 0x44 by 4. -/
def enterIndices : List u32 := (List.range 18).map fun n => BitVec.ofNat 32 (4 * n)

/-- The values of `i` from 0 to 0x1040 by 8. -/
def refillIndices : List u32 := (List.range 521).map fun n => BitVec.ofNat 32 (8 * n)

def applyKeycode (modulo : u8) (key : KEY1) : Option KEY1 := do
  let key ← key.encryptCode 1 2
  let key ← key.encryptCode 0 1
  let key ← enterIndices.foldlM (enterCode modulo) key
  let (key, _) ← refillIndices.foldlM refill (key, (0, 0))
  return key

/-- The words that `memcpy` leaves in `keyBuf`, on a little-endian host. -/
def copied (key : KEY1) : Fin 0x412 → u32 := fun i =>
  key.keyBufPtr ⟨4 * i.val + 3,by omega⟩ ++ key.keyBufPtr ⟨4 * i.val + 2,by omega⟩ ++
    key.keyBufPtr ⟨4 * i.val + 1,by omega⟩ ++ key.keyBufPtr ⟨4 * i.val,by omega⟩

/-- `applyKeycode`, where `level` asks for it. -/
def applyAt (level least modulo : u8) (key : KEY1) : Option KEY1 :=
  if least ≤ level then key.applyKeycode modulo else some key

def init (key : KEY1) (idcode : u32) (level modulo : u8) : Option KEY1 := do
  let key : KEY1 :=
    { key with keyBuf := key.copied, keyCode := ![idcode,idcode >>> 1,idcode <<< 1] }
  let key ← key.applyAt level 1 modulo
  let key ← key.applyAt level 2 modulo
  let key : KEY1 := { key with
    keyCode := ![key.keyCode 0,key.keyCode 1 <<< 1,key.keyCode 2 >>> 1] }
  key.applyAt level 3 modulo

variable (key : KEY1)

def word (i : Nat) : u32 :=
  if inside : i < 0x412 then key.keyBuf ⟨i,inside⟩ else 0

theorem load_word (i : u32) (inside : i.toNat < 0x412) : key.load i = some (key.word i.toNat) := by
  unfold load word
  rw [dif_pos inside,dif_pos inside]

theorem table_index (table : u32) (byte : u32) (aligned : table &&& 3 = 0)
    (first : table.toNat ≤ 0xC48) :
    (DWNUM (table + ((byte &&& 0xFF) <<< 2))).toNat =
      table.toNat / 4 + byte.toNat % 256 := by
  have within : (byte &&& 0xFF).toNat = byte.toNat % 256 :=
    Nat.and_two_pow_sub_one_eq_mod byte.toNat 8
  have divides : table.toNat % 4 = 0 := by
    have low := congrArg BitVec.toNat aligned
    rw [BitVec.toNat_and] at low
    exact (Nat.and_two_pow_sub_one_eq_mod table.toNat 2).symm.trans low
  unfold DWNUM
  rw [BitVec.toNat_ushiftRight,BitVec.toNat_add,BitVec.toNat_shiftLeft,within,
    Nat.shiftLeft_eq,Nat.shiftRight_eq_div_pow]
  omega

/-- What the four tables give for the word `z`. -/
def mix (z : u32) : u32 :=
  key.word (0x312 + (z >>> 0).toNat % 256) +
    (key.word (0x212 + (z >>> 8).toNat % 256) ^^^
      (key.word (0x112 + (z >>> 16).toNat % 256) + key.word (0x012 + (z >>> 24).toNat % 256)))

theorem load_table (table byte : u32) (aligned : table &&& 3 = 0) (first : table.toNat ≤ 0xC48) :
    key.load (DWNUM (table + ((byte &&& 0xFF) <<< 2))) =
      some (key.word (table.toNat / 4 + byte.toNat % 256)) := by
  rw [load_word,table_index table byte aligned first]
  rw [table_index table byte aligned first]
  omega

theorem turn_round (yx : Block) (i : u32) (inside : i.toNat < 0x412) :
    key.turn yx i = some (Feistel.round key.mix yx (key.word i.toNat)) := by
  obtain ⟨y,x⟩ := yx
  unfold turn
  simp only [load_word key i inside,Option.bind_eq_bind,Option.bind_some]
  rw [load_table key 0x048 _ rfl (by decide),load_table key 0x448 _ rfl (by decide),
    load_table key 0x848 _ rfl (by decide),load_table key 0xC48 _ rfl (by decide)]
  rfl

theorem turns_rounds (indices : Nat → u32) (ptr : Block) (cnt : Nat)
    (inside : ∀ n < cnt, (indices n).toNat < 0x412) :
    ((List.range cnt).map indices).foldlM key.turn ptr =
      some (Feistel.rounds key.mix (fun n => key.word (indices n).toNat) ptr cnt) := by
  induction cnt with
  | zero => rfl
  | succ cnt ih =>
      rw [List.range_succ,List.map_append,List.foldlM_append,
        ih (fun n before => inside n (by omega)),Feistel.rounds_succ]
      simp only [List.map_cons,List.map_nil,List.foldlM_cons,List.foldlM_nil,
        Option.bind_eq_bind,Option.bind_some,
        turn_round key _ _ (inside cnt (Nat.lt_succ_self cnt))]
      rfl

variable (ptr : Block)

theorem encrypt_crypt : key.encrypt ptr = some (Feistel.crypt key.mix key.word ptr 16) := by
  have i (n : Nat) (before : n < 16) : (BitVec.ofNat 32 n).toNat = n :=
    (BitVec.toNat_ofNat _ _).trans (Nat.mod_eq_of_lt (by omega))
  have turns : encryptIndices.foldlM key.turn ptr =
      some (Feistel.rounds key.mix key.word ptr 16) := by
    unfold encryptIndices
    rw [turns_rounds key _ ptr 16 (fun n before => by rw [i n before]; omega)]
    exact congrArg some (Feistel.rounds_congr _ _ _ _ _ (fun n before => by rw [i n before]))
  unfold encrypt
  rw [turns,load_word key (DWNUM 0x40) (by decide),load_word key (DWNUM 0x44) (by decide)]
  rfl

theorem decrypt_crypt :
    key.decrypt ptr = some (Feistel.crypt key.mix (Feistel.backwards key.word 16) ptr 16) := by
  have i (n : Nat) (before : n < 16) : (BitVec.ofNat 32 (0x11 - n)).toNat = 16 + 1 - n :=
    (BitVec.toNat_ofNat _ _).trans (Nat.mod_eq_of_lt (by omega))
  have turns : decryptIndices.foldlM key.turn ptr =
      some (Feistel.rounds key.mix (Feistel.backwards key.word 16) ptr 16) := by
    unfold decryptIndices
    rw [turns_rounds key _ ptr 16 (fun n before => by rw [i n before]; omega)]
    exact congrArg some
      (Feistel.rounds_congr _ _ _ _ _ (fun n before => by rw [i n before]; rfl))
  unfold decrypt
  rw [turns,load_word key (DWNUM 0x04) (by decide),load_word key (DWNUM 0x00) (by decide)]
  rfl

theorem decrypt_encrypt : (key.encrypt ptr).bind key.decrypt = some ptr := by
  rw [encrypt_crypt,Option.bind_some,decrypt_crypt,Feistel.crypt_backwards]

theorem encrypt_decrypt : (key.decrypt ptr).bind key.encrypt = some ptr := by
  rw [decrypt_crypt,Option.bind_some,encrypt_crypt,Feistel.backwards_crypt]

theorem isSome_foldlM {State Index : Type} (step : State → Index → Option State)
    (indices : List Index) (st : State)
    (steps : ∀ current, ∀ i ∈ indices, (step current i).isSome) :
    (indices.foldlM step st).isSome := by
  induction indices generalizing st with
  | nil => rfl
  | cons i indices ih =>
      obtain ⟨next,taken⟩ := Option.isSome_iff_exists.mp
        (steps st i List.mem_cons_self)
      rw [List.foldlM_cons,taken]
      exact ih next (fun current i member => steps current i (List.mem_cons_of_mem _ member))

theorem isSome_encryptCode (first second : Fin 3) : (key.encryptCode first second).isSome := by
  unfold encryptCode
  rw [encrypt_crypt]
  rfl

theorem isSome_enterCode (modulo : u8) (divisor : modulo = 8 ∨ modulo = 12) (i : u32)
    (inside : i.toNat ≤ 0x44) : (enterCode modulo key i).isSome := by
  have quarter : (DWNUM i).toNat < 0x412 := by
    unfold DWNUM
    rw [BitVec.toNat_ushiftRight,Nat.shiftRight_eq_div_pow]
    omega
  have third : (DWNUM (i % modulo.setWidth 32)).toNat < 3 := by
    have small : 0 < (modulo.setWidth 32 : u32).toNat ∧ (modulo.setWidth 32 : u32).toNat ≤ 12 := by
      rcases divisor with rfl | rfl <;> decide
    unfold DWNUM
    rw [BitVec.toNat_ushiftRight,BitVec.toNat_umod,Nat.shiftRight_eq_div_pow]
    have below := Nat.mod_lt i.toNat small.1
    omega
  have nonzero : modulo ≠ 0 := by
    rcases divisor with rfl | rfl <;> decide
  unfold enterCode
  rw [if_neg nonzero]
  simp only [code,dif_pos third,load,dif_pos quarter,store,Option.bind_eq_bind,
    Option.bind_some,Option.isSome_some]

theorem isSome_refill (st : KEY1 × Block) (i : u32) (inside : i.toNat ≤ 0x1040) :
    (refill st i).isSome := by
  have lower : (DWNUM i).toNat < 0x412 := by
    unfold DWNUM
    rw [BitVec.toNat_ushiftRight,Nat.shiftRight_eq_div_pow]
    omega
  have upper : (DWNUM (i + 4)).toNat < 0x412 := by
    unfold DWNUM
    rw [BitVec.toNat_ushiftRight,BitVec.toNat_add,Nat.shiftRight_eq_div_pow]
    have four : (4 : u32).toNat = 4 := rfl
    omega
  unfold refill
  simp only [encrypt_crypt,store,dif_pos lower,dif_pos upper,Option.bind_eq_bind,Option.bind_some,
    Option.pure_def,Option.isSome_some]

theorem isSome_applyKeycode (modulo : u8) (divisor : modulo = 8 ∨ modulo = 12) :
    (key.applyKeycode modulo).isSome := by
  obtain ⟨once,coded⟩ := Option.isSome_iff_exists.mp (isSome_encryptCode key 1 2)
  obtain ⟨twice,codedAgain⟩ := Option.isSome_iff_exists.mp (isSome_encryptCode once 0 1)
  have entering : (enterIndices.foldlM (enterCode modulo) twice).isSome := by
    apply isSome_foldlM
    intro current i member
    obtain ⟨n,before,rfl⟩ := List.mem_map.mp member
    have below := List.mem_range.mp before
    apply isSome_enterCode current modulo divisor
    rw [BitVec.toNat_ofNat,Nat.mod_eq_of_lt (by omega)]
    omega
  obtain ⟨entered,doneEntering⟩ := Option.isSome_iff_exists.mp entering
  have refilling : (refillIndices.foldlM refill (entered, (0, 0))).isSome := by
    apply isSome_foldlM
    intro current i member
    obtain ⟨n,before,rfl⟩ := List.mem_map.mp member
    have below := List.mem_range.mp before
    apply isSome_refill current
    rw [BitVec.toNat_ofNat,Nat.mod_eq_of_lt (by omega)]
    omega
  obtain ⟨refilled,doneRefilling⟩ := Option.isSome_iff_exists.mp refilling
  unfold applyKeycode
  simp only [coded,codedAgain,doneEntering,doneRefilling,Option.bind_eq_bind,
    Option.bind_some,Option.pure_def,Option.isSome_some]

theorem isSome_applyAt (level least modulo : u8) (divisor : modulo = 8 ∨ modulo = 12) :
    (key.applyAt level least modulo).isSome := by
  unfold applyAt
  split
  · exact isSome_applyKeycode key modulo divisor
  · rfl

theorem isSome_init (idcode : u32) (level modulo : u8) (divisor : modulo = 8 ∨ modulo = 12) :
    (key.init idcode level modulo).isSome := by
  unfold init
  obtain ⟨once,first⟩ := Option.isSome_iff_exists.mp (isSome_applyAt
    { key with keyBuf := key.copied, keyCode := ![idcode,idcode >>> 1,idcode <<< 1] }
    level 1 modulo divisor)
  obtain ⟨twice,second⟩ := Option.isSome_iff_exists.mp
    (isSome_applyAt once level 2 modulo divisor)
  simp only [first,second,Option.bind_eq_bind,Option.bind_some]
  exact isSome_applyAt _ level 3 modulo divisor

end KEY1

open KEY1

/-- Each of `encrypt` and `decrypt` undoes the other with every key buffer, `init`
leaves one for the modulos 8 and 12, and none of them leaves the arrays. -/
theorem key1_inverse :
    (∀ (key : KEY1) (ptr : Block),
      (∃ enciphered, key.encrypt ptr = some enciphered ∧ key.decrypt enciphered = some ptr) ∧
      (∃ deciphered, key.decrypt ptr = some deciphered ∧ key.encrypt deciphered = some ptr)) ∧
    ∀ (key : KEY1) (idcode : u32) (level modulo : u8), modulo = 8 ∨ modulo = 12 →
      ∃ after, key.init idcode level modulo = some after := by
  refine ⟨fun key ptr => ⟨?_,?_⟩, fun key idcode level modulo divisor => ?_⟩
  · exact Option.bind_eq_some_iff.mp (decrypt_encrypt key ptr)
  · exact Option.bind_eq_some_iff.mp (encrypt_decrypt key ptr)
  · exact Option.isSome_iff_exists.mp (isSome_init key idcode level modulo divisor)

theorem key1_inverse_zero :
    (∃ after, (KEY1.mk (fun _ => 0) (fun _ => 0) (fun _ => 0)).init 0x4E435241 2 8 =
      some after) :=
  key1_inverse.2 _ 0x4E435241 2 8 (Or.inl rfl)

end Desmume.Firmware
