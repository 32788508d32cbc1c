/-
The boot code of the firmware, packed and unpacked.

The encoding of a token list unpacks to the start of its expansion, from plain
blocks and from blocks that were enciphered one by one.
-/

import Desmume.Firmware.Unpack

namespace Desmume.Firmware

open Bios

/-- The token at an offset, for flags `d`. -/
def tokenAt (image : Image) (d : u8) (first : Nat) : Token :=
  if d &&& (0x80 : u8) ≠ 0 then
    .copy ((image first).extractLsb' 4 4) ((image first).extractLsb' 0 4 ++ image (first + 1))
  else .literal (image first)

/-- So many tokens from an offset on, with `left` flags still to use in `d`. -/
def tokensFrom (image : Image) : Nat → Nat → u8 → Nat → List Token
  | 0, _, _, _ => []
  | count + 1, 0, _, first =>
      let d := image first
      let token := tokenAt image d (first + 1)
      token :: tokensFrom image count 7 (d <<< 1) (first + 1 + token.bytes.length)
  | count + 1, left + 1, d, first =>
      let token := tokenAt image d first
      token :: tokensFrom image count left (d <<< 1) (first + token.bytes.length)

variable (image : Image)

theorem tokensFrom_length (n left : Nat) (d : u8) (first : Nat) :
    (tokensFrom image n left d first).length = n := by
  induction n generalizing left d first with
  | zero => rfl
  | succ n ih =>
      cases left with
      | zero => exact congrArg Nat.succ (ih 7 _ _)
      | succ left => exact congrArg Nat.succ (ih left _ _)

theorem tokenAt_flag (d : u8) (first : Nat) :
    d &&& (0x80 : u8) ≠ 0 ↔ (tokenAt image d first).isCopy = true := by
  unfold tokenAt
  by_cases set : d &&& (0x80 : u8) ≠ 0
  · rw [if_pos set]
    exact iff_of_true set rfl
  · rw [if_neg set]
    exact iff_of_false set Bool.noConfusion

theorem tokenAt_bytes (d : u8) (first : Nat) : At image first (tokenAt image d first).bytes := by
  unfold tokenAt
  split
  · have high : (image first).extractLsb' 4 4 ++
        ((image first).extractLsb' 0 4 ++ image (first + 1) : BitVec 12).extractLsb' 8 4 =
          image first := by
      apply BitVec.eq_of_getLsbD_eq
      intro bit bound
      simp only [BitVec.getLsbD_append,BitVec.getLsbD_extractLsb']
      interval_cases bit <;> simp
    have low : ((image first).extractLsb' 0 4 ++ image (first + 1) : BitVec 12).extractLsb' 0 8 =
        image (first + 1) := by
      apply BitVec.eq_of_getLsbD_eq
      intro bit bound
      simp only [BitVec.getLsbD_append,BitVec.getLsbD_extractLsb']
      interval_cases bit <;> simp
    intro i inside
    have two : i < 2 := inside
    interval_cases i
    · exact high.symm
    · exact low.symm
  · intro i inside
    have one : i < 1 := inside
    interval_cases i
    rfl

theorem At.append {image : Image} {first : Nat} {front back : List u8}
    (before : At image first front) (behind : At image (first + front.length) back) :
    At image first (front ++ back) := by
  intro i inside
  by_cases early : i < front.length
  · rw [List.getElem_append_left early]
    exact before i early
  · have late : i - front.length < back.length := by
      rw [List.length_append] at inside
      omega
    have place : first + i = first + front.length + (i - front.length) := by omega
    rw [List.getElem_append_right (not_lt.mp early),place]
    exact behind _ late

theorem tokensFrom_stream (n left : Nat) (d : u8) (first : Nat) :
    ∃ bytes, Stream left d bytes (tokensFrom image n left d first) ∧ At image first bytes := by
  induction n generalizing left d first with
  | zero =>
      exact ⟨[],Stream.stop left d [],fun i inside => absurd inside (Nat.not_lt_zero _)⟩
  | succ n ih =>
      have group (left : Nat) (d : u8) (first : Nat) :
          ∃ bytes, Stream (left + 1) d bytes (tokensFrom image (n + 1) (left + 1) d first) ∧
            At image first bytes := by
        obtain ⟨rest,stream,placed⟩ :=
          ih left (d <<< 1) (first + (tokenAt image d first).bytes.length)
        exact ⟨(tokenAt image d first).bytes ++ rest,
          Stream.token left d _ rest _ (tokenAt_flag image d first) stream,
          (tokenAt_bytes image d first).append placed⟩
      cases left with
      | zero =>
          obtain ⟨rest,stream,placed⟩ := group 7 (image first) (first + 1)
          refine ⟨image first :: rest,Stream.flags (image first) d rest _ stream,?_⟩
          have flag : At image first [image first] := by
            intro i inside
            have one : i < 1 := inside
            interval_cases i
            rfl
          exact flag.append placed
      | succ left => exact group left d first

theorem expandOnto_length (done : List u8) (tokens : List Token) :
    done.length + tokens.length ≤ (expandOnto nothing done tokens).length := by
  induction tokens generalizing done with
  | nil => exact Nat.le_refl _
  | cons token rest ih =>
      have later := ih (token.onto nothing done)
      have grows := tokenSize_pos token
      rw [onto_length] at later
      rw [expandOnto,List.length_cons]
      omega

/-- No copy that is decoded before the announced size is out reaches before the
start of the output. -/
def NoneBefore (image : Image) (size : Nat) : Prop :=
  Within size 0 (tokensFrom image size 0 0 4)

instance (image : Image) (size : Nat) : Decidable (NoneBefore image size) :=
  decidableWithin _ _ _

variable {fetch : Block → Option Block} {tokens : List Token}

theorem isSome_unpack (opens : ∀ block, (fetch block).isSome) (input : Image) :
    (unpack fetch input).isSome ↔ NoneBefore (plain fetch input) (announced fetch input) := by
  obtain ⟨bytes,stream,placed⟩ :=
    tokensFrom_stream (plain fetch input) (announced fetch input) 0 0 4
  have enough := expandOnto_length [] (tokensFrom (plain fetch input) (announced fetch input) 0 0 4)
  rw [tokensFrom_length] at enough
  rw [unpack_stream opens input stream placed (by simpa using enough)]
  unfold NoneBefore
  split
  · rename_i within
    exact iff_of_true rfl within
  · rename_i outside
    exact iff_of_false Bool.noConfusion outside

theorem within_of_inside {size : Nat} (total : Nat)
    (inside : Inside size tokens) : Within total size tokens := by
  induction inside with
  | nil size => trivial
  | literal size byte rest later ih => exact ⟨fun _ => trivial, ih⟩
  | copy size extra off rest near later ih => exact ⟨fun _ => near, ih⟩

theorem announced_encode {input : Image}
    {len : Nat} (fits : len < 2 ^ 24) (placed : At (plain fetch input) 0 (encode tokens len)) :
    announced fetch input = len := by
  have size : (encode tokens len).length = (encodeGroups tokens).length + 4 := by
    rw [encode,List.length_append,Nat.add_comm]
    rfl
  have byte0 : plain fetch input 0 = 0x10 := placed 0 (by omega)
  have byte1 : plain fetch input 1 = (BitVec.ofNat 24 len).extractLsb' 0 8 :=
    placed 1 (by omega)
  have byte2 : plain fetch input 2 = (BitVec.ofNat 24 len).extractLsb' 8 8 :=
    placed 2 (by omega)
  have byte3 : plain fetch input 3 = (BitVec.ofNat 24 len).extractLsb' 16 8 :=
    placed 3 (by omega)
  rw [announced_plain,byte0,byte1,byte2,byte3]
  exact headerBytes_word fits

theorem unpack_encode (opens : ∀ block, (fetch block).isSome)
    (input : Image) {len : Nat} (inside : Inside 0 tokens)
    (fits : len < 2 ^ 24) (enough : len ≤ (expand tokens).length)
    (placed : At (plain fetch input) 0 (encode tokens len)) :
    unpack fetch input = some ((expand tokens).take len) := by
  have groups : At (plain fetch input) 4 (encodeGroups tokens) := by
    have behind := placed.drop
    exact behind
  have size := announced_encode fits placed
  rw [unpack_stream opens input (stream_encodeGroups tokens 0) groups (by rw [size]; exact enough),
    size,if_pos (within_of_inside len inside)]
  rfl

theorem at_plain_of_sealed {enc : KEY1} {image sealed : Image} {bytes : List u8}
    (placed : At image 0 bytes) (enciphered : ∀ block, 8 * block < bytes.length →
      enc.encrypt (blockAt image (8 * block)) = some (blockAt sealed (8 * block))) :
    At (plain enc.decrypt sealed) 0 bytes := by
  intro i inside
  have opened : enc.decrypt (blockAt sealed (8 * (i / 8))) =
      some (blockAt image (8 * (i / 8))) := by
    have back := KEY1.decrypt_encrypt enc (blockAt image (8 * (i / 8)))
    rw [enciphered (i / 8) (by omega),Option.bind_some] at back
    exact back
  rw [← placed i inside,Nat.zero_add]
  exact plain_of_opened opened

theorem isSome_decrypt (enc : KEY1) (block : Block) : (enc.decrypt block).isSome := by
  rw [KEY1.decrypt_crypt]
  rfl

/-- The encoding of tokens that stay inside unpacks to the first bytes of their
expansion, plain or enciphered block by block; and unpacking any input stays
inside its output if no copy that it needs reaches before the start of the
output, and otherwise does not. -/
theorem boot_code_unpacked_iff (enc : KEY1) (tokens : List Token) (len : Nat)
    (input image sealed : Image) :
    (Inside 0 tokens → 0 < len → len < 2 ^ 24 → len ≤ (expand tokens).length →
        At input 0 (encode tokens len) → decompress input = some ((expand tokens).take len)) ∧
      (Inside 0 tokens → 0 < len → len < 2 ^ 24 → len ≤ (expand tokens).length →
        At image 0 (encode tokens len) →
        (∀ block, 8 * block < (encode tokens len).length →
          enc.encrypt (blockAt image (8 * block)) = some (blockAt sealed (8 * block))) →
        decrypt enc sealed = some ((expand tokens).take len)) ∧
      ((decompress input).isSome ↔ NoneBefore input (T1ReadLong input 0 >>> 8).toNat) ∧
      ((decrypt enc input).isSome ↔
        NoneBefore (plain enc.decrypt input) (announced enc.decrypt input)) := by
  refine ⟨?_,?_,?_,isSome_unpack (isSome_decrypt enc) input⟩
  · intro inside _positive fits enough placed
    rw [← plain_some input] at placed
    exact unpack_encode (fun _ => rfl) input inside fits enough placed
  · intro inside _positive fits enough placed enciphered
    exact unpack_encode (isSome_decrypt enc) sealed inside fits enough
      (at_plain_of_sealed placed enciphered)
  · have opens : ∀ block, (some block : Option Block).isSome := fun _ => rfl
    have plain := isSome_unpack opens input
    rw [plain_some] at plain
    exact plain

/-- A literal and an overlapping copy that the size cuts short. -/
theorem boot_code_unpacked_literal :
    decompress (fun i => (encode [.literal 7,.copy 0 0] 3).getD i 0) =
      some ((expand [.literal 7,.copy 0 0]).take 3) := by
  have image : Image := fun _ => 0
  have enc : KEY1 := ⟨fun _ => 0, fun _ => 0, fun _ => 0⟩
  refine (boot_code_unpacked_iff enc [.literal 7,.copy 0 0] 3 _ image image).1 ?_ (by decide)
    (by decide) (by decide) ?_
  · exact .literal _ _ _ (.copy _ _ _ _ (by decide) (.nil _))
  · intro i inside
    rw [Nat.zero_add]
    exact List.getD_eq_getElem _ _ inside

/-- The first token of one byte of output is a copy. -/
theorem copy_before_start : decompress (fun i => [0x10,1,0,0,0x80,0,0].getD i 0) = none := by
  decide +kernel

end Desmume.Firmware
