/-
Unpacking of the firmware's boot code: `CFIRMWARE::decrypt` and
`CFIRMWARE::decompress`, one function of what is done with the bytes fetched.

Unpacking puts out the expansion of its stream, or leaves its buffer: one lemma
for a byte, one for a window, one for a token, and an induction on the stream.
-/

import Desmume.Firmware.Key1
import Desmume.Firmware.Settings

namespace Desmume.Firmware

section

open Bios

/-- `out`, `xOut` and `xLen`. -/
structure Output where
  out : Image
  xOut : u32
  xLen : Nat

/-- What a loop leaves: a value to go on with, or the output at `return`, or
nothing where an access is outside of its buffer. -/
abbrev Outcome (Value : Type) := Except (Option Output) Value

/-- The eight bytes that `memcpy(curBlock, in + xIn, 8)` copies. -/
def blockAt (input : Image) (xIn : Nat) : Block :=
  (T1ReadLong input xIn, T1ReadLong input (xIn + 4))

/-- `T1ReadByte((u8*)curBlock, index)`, on a little-endian host. -/
def blockByte (curBlock : Block) (i : Nat) : u8 :=
  if i < 4 then curBlock.1.extractLsb' (8 * i) 8
  else curBlock.2.extractLsb' (8 * (i - 4)) 8

structure Cursor where
  curBlock : Block
  xIn : Nat

section

variable (fetch : Block → Option Block) (input : Image) (blockSize : Nat)

def takeByte (cursor : Cursor) : Outcome (u8 × Cursor) :=
  let byte := blockByte cursor.curBlock (cursor.xIn % 8)
  let xIn := cursor.xIn + 1
  if xIn % 8 = 0 then
    match fetch (blockAt input xIn) with
    | none => .error none
    | some curBlock => .ok (byte, ⟨curBlock,xIn⟩)
  else .ok (byte, ⟨cursor.curBlock,xIn⟩)

/-- `T1WriteByte(out, xOut, byte)` and the counting that follows. -/
def putOut (output : Output) (byte : u8) : Outcome Output :=
  if output.xOut.toNat < blockSize then
    let output : Output :=
      { out := Function.update output.out output.xOut.toNat byte
        xOut := output.xOut + 1
        xLen := output.xLen - 1 }
    if output.xLen = 0 then .error (some output) else .ok output
  else .error none

/-- The loop over `j`, with `count` iterations to go. -/
def windowLoop : Nat → u32 → Output → Outcome Output
  | 0, _, output => .ok output
  | count + 1, windowOffset, output =>
      if windowOffset.toNat < blockSize then do
        let output ← putOut blockSize output (output.out windowOffset.toNat)
        windowLoop count (windowOffset + 1) output
      else .error none

/-- The loop over `i` for flags `d`, with `left` iterations to go. -/
def tokenLoop : Nat → u8 → Cursor → Output → Outcome (Cursor × Output)
  | 0, _, cursor, output => .ok (cursor, output)
  | left + 1, d, cursor, output =>
      if d &&& (0x80 : u8) ≠ 0 then do
        let (high, cursor) ← takeByte fetch input cursor
        let (low, cursor) ← takeByte fetch input cursor
        let data : u16 := (high.setWidth 16 <<< 8) ||| low.setWidth 16
        let len := (data >>> 12).toNat + 3
        let off : u32 := (data &&& 0x0FFF).setWidth 32
        let windowOffset := output.xOut - off - 1
        let output ← windowLoop blockSize len windowOffset output
        tokenLoop left (d <<< 1) cursor output
      else do
        let (byte, cursor) ← takeByte fetch input cursor
        let output ← putOut blockSize output byte
        tokenLoop left (d <<< 1) cursor output

def unpackLoop : Nat → Cursor → Output → Outcome Output
  | 0, _, output => .ok output
  | passes + 1, cursor, output =>
      if output.xLen > 0 then do
        let (d, cursor) ← takeByte fetch input cursor
        let (cursor, output) ← tokenLoop fetch input blockSize 8 d cursor output
        unpackLoop passes cursor output
      else .ok output

end

/-- The bytes of `out`, whose number is the returned `blockSize`. -/
def outBytes (blockSize : Nat) : Outcome Output → Option (List u8)
  | .ok output => some (slice output.out 0 blockSize)
  | .error (some output) => some (slice output.out 0 blockSize)
  | .error none => none

def unpack (fetch : Block → Option Block) (input : Image) : Option (List u8) :=
  match fetch (blockAt input 0) with
  | none => none
  | some curBlock =>
      let blockSize := (curBlock.1 >>> 8).toNat
      if blockSize = 0 then some []
      else
        outBytes blockSize (unpackLoop fetch input blockSize blockSize ⟨curBlock,4⟩
          ⟨fun _ => 0xFF, 0, blockSize⟩)

def decompress (input : Image) : Option (List u8) := unpack some input

def decrypt (enc : KEY1) (input : Image) : Option (List u8) := unpack enc.decrypt input

def plain (fetch : Block → Option Block) (input : Image) : Image := fun i =>
  blockByte ((fetch (blockAt input (8 * (i / 8)))).getD (0, 0)) (i % 8)

def cursorAt (fetch : Block → Option Block) (input : Image) (xIn : Nat) : Cursor :=
  ⟨(fetch (blockAt input (8 * (xIn / 8)))).getD (0, 0),xIn⟩

theorem blockByte_blockAt (input : Image) (first i : Nat) (inside : i < 8) :
    blockByte (blockAt input first) i = input (first + i) := by
  have long (start off : Nat) (small : off < 4) :
      (T1ReadLong input start).extractLsb' (8 * off) 8 = input (start + off) := by
    apply BitVec.eq_of_getLsbD_eq
    intro bit bound
    unfold T1ReadLong T1ReadWord
    simp only [BitVec.getLsbD_extractLsb',BitVec.getLsbD_append,bound,decide_true,
      Bool.true_and]
    interval_cases off
    · rw [if_pos (by omega),if_pos (by omega)]
      congr 1
      omega
    · rw [if_pos (by omega),if_neg (by omega)]
      congr 1
      omega
    · rw [if_neg (by omega),if_pos (by omega)]
      congr 1
      omega
    · rw [if_neg (by omega),if_neg (by omega)]
      congr 1
      omega
  unfold blockByte blockAt
  by_cases low : i < 4
  · rw [if_pos low]
    exact long first i low
  · have place : first + 4 + (i - 4) = first + i := by omega
    rw [if_neg low,← place]
    exact long (first + 4) (i - 4) (by omega)

theorem plain_some (input : Image) : plain some input = input := by
  funext i
  have place : 8 * (i / 8) + i % 8 = i := Nat.div_add_mod i 8
  unfold plain
  rw [Option.getD_some,blockByte_blockAt _ _ _ (Nat.mod_lt _ (by omega)),place]

theorem plain_of_opened {fetch : Block → Option Block} {input image : Image} {i : Nat}
    (opened : fetch (blockAt input (8 * (i / 8))) = some (blockAt image (8 * (i / 8)))) :
    plain fetch input i = image i := by
  have place : 8 * (i / 8) + i % 8 = i := Nat.div_add_mod i 8
  unfold plain
  rw [opened,Option.getD_some,blockByte_blockAt _ _ _ (Nat.mod_lt _ (by omega)),place]

section

variable {fetch : Block → Option Block} (opens : ∀ block, (fetch block).isSome) (input : Image)

include opens in
theorem fetch_getD (block : Block) : fetch block = some ((fetch block).getD (0, 0)) := by
  obtain ⟨opened,same⟩ := Option.isSome_iff_exists.mp (opens block)
  rw [same,Option.getD_some]

include opens in
theorem takeByte_cursorAt (xIn : Nat) :
    takeByte fetch input (cursorAt fetch input xIn) =
      .ok (plain fetch input xIn, cursorAt fetch input (xIn + 1)) := by
  unfold takeByte cursorAt
  simp only
  by_cases last : (xIn + 1) % 8 = 0
  · have place : 8 * ((xIn + 1) / 8) = xIn + 1 := by omega
    rw [if_pos last,fetch_getD opens (blockAt input (xIn + 1)),place]
    rfl
  · have place : (xIn + 1) / 8 = xIn / 8 := by omega
    rw [if_neg last,place]
    rfl

end

def announced (fetch : Block → Option Block) (input : Image) : Nat :=
  (((fetch (blockAt input 0)).getD (0, 0)).1 >>> 8).toNat

theorem announced_lt (fetch : Block → Option Block) (input : Image) :
    announced fetch input < 2 ^ 24 := by
  unfold announced
  rw [BitVec.toNat_ushiftRight,Nat.shiftRight_eq_div_pow]
  have bound := ((fetch (blockAt input 0)).getD (0, 0)).1.isLt
  omega

theorem word_blockByte (block : Block) :
    ((blockByte block 3 ++ blockByte block 2 : u16) ++
      (blockByte block 1 ++ blockByte block 0 : u16) : u32) = block.1 := by
  apply BitVec.eq_of_getLsbD_eq
  intro bit bound
  simp only [blockByte,BitVec.getLsbD_append]
  interval_cases bit <;> simp

theorem announced_plain (fetch : Block → Option Block) (input : Image) :
    announced fetch input =
      (((plain fetch input 3 ++ plain fetch input 2 : u16) ++
        (plain fetch input 1 ++ plain fetch input 0 : u16) : u32) >>> 8).toNat := by
  have word := word_blockByte ((fetch (blockAt input 0)).getD (0, 0))
  unfold announced
  rw [← word]
  rfl

end

open Bios

section

variable (total : Nat)

structure Holds (done : List u8) (output : Output) : Prop where
  bytes : ∀ i (inside : i < done.length), output.out i = done[i]
  cursor : output.xOut = BitVec.ofNat 32 done.length
  left : done.length + output.xLen = total

/-- A loop came to the `return`, or goes on with bytes to go. -/
def Ended (done : List u8) : Outcome Output → Prop
  | .error none => False
  | .error (some output) => total ≤ done.length ∧ Holds total (done.take total) output
  | .ok output => done.length < total ∧ Holds total done output

end

variable {total : Nat}

abbrev nothing : Nat → u8 := fun _ => 0

variable {output : Output} {done bytes : List u8} {distance size : Nat}

theorem ended_append {stopped : Option Output}
    (ended : Ended total done (.error stopped)) (more : List u8) :
    Ended total (done ++ more) (.error stopped) := by
  cases stopped with
  | none => exact ended
  | some output =>
      obtain ⟨enough,held⟩ := ended
      refine ⟨by rw [List.length_append]; omega,?_⟩
      rw [List.take_append_of_le_length enough]
      exact held

theorem Holds.xOut_toNat (short : total < 2 ^ 24)
    (held : Holds total done output) : output.xOut.toNat = done.length := by
  have fits := held.left
  rw [held.cursor,BitVec.toNat_ofNat]
  omega

theorem putOut_ended (short : total < 2 ^ 24)
    (held : Holds total done output) (unfinished : done.length < total) (byte : u8) :
    Ended total (done ++ [byte]) (putOut total output byte) := by
  have place := held.xOut_toNat short
  have left := held.left
  have size : (done ++ [byte]).length = done.length + 1 := by
    rw [List.length_append,List.length_singleton]
  have next : Holds total (done ++ [byte])
      { out := Function.update output.out output.xOut.toNat byte
        xOut := output.xOut + 1
        xLen := output.xLen - 1 } := by
    refine ⟨fun i inside => ?_, ?_, ?_⟩
    · rw [size] at inside
      simp only [place]
      by_cases last : i = done.length
      · subst last
        rw [Function.update_self,List.getElem_concat_length rfl]
      · rw [Function.update_of_ne last,List.getElem_append_left (by omega)]
        exact held.bytes i (by omega)
    · rw [size,held.cursor,BitVec.ofNat_add]
      rfl
    · rw [size]
      change done.length + 1 + (output.xLen - 1) = total
      omega
  unfold putOut
  rw [if_pos (by rw [place]; exact unfinished)]
  simp only
  by_cases last : output.xLen - 1 = 0
  · rw [if_pos last]
    refine ⟨by omega,?_⟩
    rw [List.take_of_length_le (by omega)]
    exact next
  · rw [if_neg last]
    exact ⟨by omega,next⟩

theorem window_toNat (small : size < 2 ^ 24) (near : distance ≤ size) :
    (BitVec.ofNat 32 size - BitVec.ofNat 32 distance : u32).toNat = size - distance := by
  simp only [BitVec.toNat_sub,BitVec.toNat_ofNat]
  omega

theorem window_wraps (small : size < 2 ^ 24) (far : size < distance) (most : distance ≤ 2 ^ 12) :
    2 ^ 24 ≤ (BitVec.ofNat 32 size - BitVec.ofNat 32 distance : u32).toNat := by
  simp only [BitVec.toNat_sub,BitVec.toNat_ofNat]
  omega

theorem window_next (size distance : Nat) :
    (BitVec.ofNat 32 size - BitVec.ofNat 32 distance + 1 : u32) =
      BitVec.ofNat 32 (size + 1) - BitVec.ofNat 32 distance := by
  rw [BitVec.ofNat_add]
  bv_omega

theorem windowLoop_ended (short : total < 2 ^ 24) (positive : 0 < distance)
    (n : Nat) (held : Holds total done output)
    (unfinished : done.length < total) (near : distance ≤ done.length) :
    Ended total (copyBytes nothing distance n done)
      (windowLoop total n (BitVec.ofNat 32 done.length - BitVec.ofNat 32 distance)
        output) := by
  induction n generalizing done output with
  | zero => exact ⟨unfinished,held⟩
  | succ n ih =>
      have win := window_toNat (by omega : done.length < 2 ^ 24) near
      have byte : output.out (done.length - distance) = lookBack nothing done distance := by
        rw [held.bytes _ (by omega),lookBack,if_pos near,List.getD_eq_getElem]
      have put := putOut_ended short held unfinished (lookBack nothing done distance)
      rw [windowLoop,win,if_pos (by omega),byte,copyBytes]
      cases res : putOut total output (lookBack nothing done distance) with
      | error stopped =>
          rw [res] at put
          obtain ⟨more,extended,_⟩ := copyBytes_extends nothing distance n
            (done ++ [lookBack nothing done distance])
          rw [extended]
          exact ended_append put more
      | ok next =>
          rw [res] at put
          obtain ⟨unfinished,held⟩ := put
          have size : (done ++ [lookBack nothing done distance]).length = done.length + 1 := by
            rw [List.length_append,List.length_singleton]
          change Ended total _ (windowLoop total n (_ + 1) next)
          rw [window_next,← size]
          exact ih held unfinished (by omega)

theorem windowLoop_outside (short : total < 2 ^ 24) (far : size < distance)
    (most : distance ≤ 2 ^ 12) (inside : size < total) (n : Nat) (output : Output) :
    windowLoop total (n + 1) (BitVec.ofNat 32 size - BitVec.ofNat 32 distance) output =
      .error none := by
  have wraps := window_wraps (by omega : size < 2 ^ 24) far most
  rw [windowLoop,if_neg (by omega)]

def putToken (total : Nat) (output : Output) : Token → Outcome Output
  | .literal byte => putOut total output byte
  | .copy extra off =>
      windowLoop total (extra.toNat + 3)
        (output.xOut - BitVec.ofNat 32 (off.toNat + 1)) output

def TokenNear (size : Nat) : Token → Prop
  | .literal _ => True
  | .copy _ off => off.toNat + 1 ≤ size

instance (size : Nat) (token : Token) : Decidable (TokenNear size token) := by
  cases token with
  | literal byte => exact isTrue trivial
  | copy extra off => exact inferInstanceAs (Decidable (_ ≤ _))

def tokenSize : Token → Nat
  | .literal _ => 1
  | .copy extra _ => extra.toNat + 3

theorem onto_length (done : List u8) (token : Token) :
    (token.onto nothing done).length = done.length + tokenSize token := by
  cases token with
  | literal byte =>
      rw [Token.onto,List.length_append]
      rfl
  | copy extra off =>
      obtain ⟨more,extended,size⟩ :=
        copyBytes_extends nothing (off.toNat + 1) (extra.toNat + 3) done
      rw [Token.onto,extended,List.length_append,size]
      rfl

theorem tokenSize_pos (token : Token) : 0 < tokenSize token := by
  cases token with
  | literal byte => exact Nat.one_pos
  | copy extra off => exact Nat.succ_pos _

theorem putToken_ended (short : total < 2 ^ 24) (token : Token) (held : Holds total done output)
    (unfinished : done.length < total)
    (near : TokenNear done.length token) :
    Ended total (token.onto nothing done) (putToken total output token) := by
  cases token with
  | literal byte => exact putOut_ended short held unfinished byte
  | copy extra off =>
      rw [putToken,held.cursor]
      exact windowLoop_ended short (Nat.succ_pos _) (extra.toNat + 3) held unfinished near

theorem putToken_outside (short : total < 2 ^ 24) (token : Token) (held : Holds total done output)
    (unfinished : done.length < total)
    (far : ¬ TokenNear done.length token) : putToken total output token = .error none := by
  cases token with
  | literal byte => exact (far trivial).elim
  | copy extra off =>
      have most := off.isLt
      have beyond : done.length < off.toNat + 1 := not_le.mp far
      rw [putToken,held.cursor]
      exact windowLoop_outside short beyond (by omega) unfinished (extra.toNat + 2) output

def At (image : Image) (first : Nat) (bytes : List u8) : Prop :=
  ∀ i (inside : i < bytes.length), image (first + i) = bytes[i]

theorem At.drop {image : Image} {first : Nat} {front back : List u8}
    (placed : At image first (front ++ back)) : At image (first + front.length) back := by
  intro i inside
  have here := placed (front.length + i) (by rw [List.length_append]; omega)
  rw [List.getElem_append_right (Nat.le_add_right _ _),← Nat.add_assoc] at here
  simpa using here

theorem At.head {image : Image} {first : Nat} {byte : u8}
    (placed : At image first (byte :: bytes)) : image first = byte :=
  placed 0 (Nat.succ_pos _)

theorem At.tail {image : Image} {first : Nat} {byte : u8}
    (placed : At image first (byte :: bytes)) : At image (first + 1) bytes :=
  @At.drop image first [byte] bytes placed

variable {fetch : Block → Option Block} (opens : ∀ block, (fetch block).isSome) (input : Image)

def resume (fetch : Block → Option Block) (input : Image) (total passes left : Nat) (d : u8)
    (cursor : Cursor) (output : Output) : Outcome Output := do
  let (cursor, output) ← tokenLoop fetch input total left d cursor output
  unpackLoop fetch input total passes cursor output

include opens in
theorem unpackLoop_resume (passes xIn : Nat) (output : Output) (unfinished : 0 < output.xLen) :
    unpackLoop fetch input total (passes + 1) (cursorAt fetch input xIn) output =
      resume fetch input total passes 8 (plain fetch input xIn)
        (cursorAt fetch input (xIn + 1)) output := by
  rw [unpackLoop,if_pos unfinished,takeByte_cursorAt opens]
  rfl

include opens in
theorem resume_token (passes left : Nat) {d : u8} (token : Token)
    (flag : d &&& (0x80 : u8) ≠ 0 ↔ token.isCopy = true) {xIn : Nat}
    (output : Output) (placed : At (plain fetch input) xIn (token.bytes ++ bytes)) :
    resume fetch input total passes (left + 1) d (cursorAt fetch input xIn) output =
      (putToken total output token).bind fun output =>
        resume fetch input total passes left (d <<< 1)
          (cursorAt fetch input (xIn + token.bytes.length)) output := by
  unfold resume
  cases token with
  | literal byte =>
      have unset : ¬ d &&& (0x80 : u8) ≠ 0 := fun set => Bool.noConfusion (flag.mp set)
      rw [tokenLoop,if_neg unset,takeByte_cursorAt opens,placed.head]
      change ((putOut total output byte >>= _) >>= _) = _
      rw [bind_assoc]
      rfl
  | copy extra off =>
      have set : d &&& (0x80 : u8) ≠ 0 := flag.mpr rfl
      have low : plain fetch input (xIn + 1) = off.extractLsb' 0 8 := placed.tail.head
      rw [tokenLoop,if_pos set,takeByte_cursorAt opens,placed.head]
      change ((takeByte fetch input (cursorAt fetch input (xIn + 1)) >>= _) >>= _) = _
      rw [takeByte_cursorAt opens,low]
      change ((windowLoop total _ _ output >>= _) >>= _) = _
      simp only [copy_data,copy_length,copy_offset,copy_window]
      rw [bind_assoc]
      rfl

def Within (total : Nat) : Nat → List Token → Prop
  | _, [] => True
  | size, token :: rest =>
      (size < total → TokenNear size token) ∧ Within total (size + tokenSize token) rest

instance decidableWithin (total : Nat) :
    ∀ size tokens, Decidable (Within total size tokens)
  | _, [] => isTrue trivial
  | size, token :: rest =>
      have := decidableWithin total (size + tokenSize token) rest
      inferInstanceAs (Decidable ((size < total → TokenNear size token) ∧ _))

theorem within_of_le (tokens : List Token) (enough : total ≤ size) : Within total size tokens := by
  induction tokens generalizing size with
  | nil => trivial
  | cons token rest ih => exact ⟨fun unfinished => by omega, ih (by omega)⟩

def Returned (total : Nat) (bytes : List u8) (within : Prop) (res : Outcome Output) : Prop :=
  (within → ∃ output, res = .error (some output) ∧ Holds total bytes output) ∧
    (¬ within → res = .error none)

include opens in
/-- From any point of the stream, by induction on it. Every token puts out a byte,
so the passes left are enough with the tokens left of the group. -/
theorem resume_stream (short : total < 2 ^ 24) {left : Nat} {d : u8} {bytes : List u8}
    {tokens : List Token} (stream : Stream left d bytes tokens) {passes xIn : Nat}
    {done : List u8} {output : Output} (held : Holds total done output)
    (unfinished : done.length < total) (fuel : total ≤ done.length + passes + left)
    (placed : At (plain fetch input) xIn bytes)
    (enough : total ≤ (expandOnto nothing done tokens).length) :
    Returned total ((expandOnto nothing done tokens).take total)
      (Within total done.length tokens)
      (resume fetch input total passes left d (cursorAt fetch input xIn) output) := by
  induction stream generalizing passes xIn done output with
  | stop left d bytes =>
      rw [expandOnto] at enough
      omega
  | flags d used bytes tokens rest ih =>
      obtain ⟨less,rfl⟩ : ∃ less, passes = less + 1 := ⟨passes - 1,by omega⟩
      have going : 0 < output.xLen := by
        have fits := held.left
        omega
      have group := @unpackLoop_resume total fetch opens input less xIn output going
      rw [placed.head] at group
      change Returned _ _ _ (unpackLoop fetch input total (less + 1) _ output)
      rw [group]
      exact ih held unfinished (by omega) placed.tail enough
  | token left d token bytes tokens flag rest ih =>
      rw [resume_token opens input passes left token flag output placed,expandOnto]
      by_cases near : TokenNear done.length token
      · have ended := putToken_ended short token held unfinished near
        have size := onto_length done token
        have grows := tokenSize_pos token
        have same : Within total done.length (token :: tokens) ↔
            Within total (token.onto nothing done).length tokens := by
          rw [size]
          exact and_iff_right fun _ => near
        rw [same]
        cases res : putToken total output token with
        | error stopped =>
            rw [res] at ended
            cases stopped with
            | none => exact ended.elim
            | some output =>
                obtain ⟨reached,last⟩ := ended
                refine ⟨fun _ => ⟨output,rfl,?_⟩, fun fails => ?_⟩
                · rw [take_expandOnto _ reached]
                  exact last
                · exact (fails (within_of_le tokens reached)).elim
        | ok next =>
            rw [res] at ended
            exact ih ended.2 ended.1 (by omega) placed.drop enough
      · rw [putToken_outside short token held unfinished near]
        exact ⟨fun within => (near (within.1 unfinished)).elim, fun _ => rfl⟩

theorem slice_of_holds (held : Holds total bytes output)
    (full : bytes.length = total) : slice output.out 0 total = bytes := by
  subst full
  apply List.ext_getElem
  · simp [slice]
  · intro i first second
    simp only [slice,List.getElem_map,List.getElem_range,Nat.zero_add]
    exact held.bytes i second

theorem Returned.outBytes {bytes : List u8} {within : Prop} [Decidable within]
    {res : Outcome Output} (returned : Returned total bytes within res)
    (full : bytes.length = total) : outBytes total res = if within then some bytes else none := by
  by_cases inside : within
  · obtain ⟨output,same,held⟩ := returned.1 inside
    rw [same,if_pos inside]
    exact congrArg some (slice_of_holds held full)
  · rw [returned.2 inside,if_neg inside]
    rfl

include opens in
theorem unpack_stream {tokens : List Token} (stream : Stream 0 0 bytes tokens)
    (placed : At (plain fetch input) 4 bytes)
    (enough : announced fetch input ≤ (expandOnto nothing [] tokens).length) :
    unpack fetch input =
      if Within (announced fetch input) 0 tokens then
        some ((expandOnto nothing [] tokens).take (announced fetch input))
      else none := by
  have short := announced_lt fetch input
  have first : fetch (blockAt input 0) = some ((fetch (blockAt input 0)).getD (0, 0)) :=
    fetch_getD opens _
  unfold unpack
  rw [first]
  change (if announced fetch input = 0 then _ else _) = _
  by_cases none : announced fetch input = 0
  · rw [if_pos none,if_pos (within_of_le tokens (by omega)),none,List.take_zero]
  · have held : Holds (announced fetch input) [] ⟨fun _ => 0xFF, 0, announced fetch input⟩ :=
      ⟨fun i inside => absurd inside (Nat.not_lt_zero i), rfl, Nat.zero_add _⟩
    have returned := @resume_stream _ _ opens input short _ _ _ _ stream
      (announced fetch input) 4 _ _ held (Nat.pos_of_ne_zero none) (by simp) placed enough
    rw [if_neg none]
    exact returned.outBytes (by rw [List.length_take]; omega)

end Desmume.Firmware
