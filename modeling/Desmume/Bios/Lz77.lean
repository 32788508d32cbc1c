/-
LZ77 decompression: `LZ77UnCompWram` and `LZ77UnCompVram`.

The two functions have the same loops and differ in where a byte goes, so both
are one function of a sink.
-/

import Desmume.Bios.Sink
import Desmume.Cpu.Banks

namespace Desmume.Bios

section

variable {Mem State : Type}

/-- `source & 0xe000000` and the end of the data, as all decompressors test
them. -/
def addressRefused (source header : u32) : Bool :=
  (source &&& (0x0E000000 : u32) == 0) ||
    ((source + ((header >>> 8) &&& (0x1FFFFF : u32))) &&& (0x0E000000 : u32) == 0)

/-- Put out one byte and count it. The error is the state at `return 0`. -/
def putByte (sink : Sink Mem State) (out : State) (byte : u8) (len : Nat) :
    Except State (State × Nat) :=
  if len - 1 = 0 then .error (sink.emit out byte) else .ok (sink.emit out byte, len - 1)

/-- The loop over `i2`, with `count` iterations to go. -/
def copyLoop (bus : Bus Mem) (sink : Sink Mem State) :
    Nat → u32 → State → Nat → Except State (State × Nat)
  | 0, _, out, len => .ok (out, len)
  | count + 1, windowOffset, out, len =>
      match putByte sink out (bus._MMU_read08 (sink.mem out) windowOffset) len with
      | .error out => .error out
      | .ok (out, len) => copyLoop bus sink count (windowOffset + 1) out len

/-- The loop over `i1` for flags `d`, with `left` iterations to go. -/
def flagLoop (bus : Bus Mem) (sink : Sink Mem State) :
    Nat → u8 → u32 → State → Nat → Except State (u32 × State × Nat)
  | 0, _, source, out, len => .ok (source, out, len)
  | left + 1, d, source, out, len =>
      if d &&& (0x80 : u8) ≠ 0 then
        let data : u16 := (bus._MMU_read08 (sink.mem out) source).setWidth 16 <<< 8
        let data : u16 := data ||| (bus._MMU_read08 (sink.mem out) (source + 1)).setWidth 16
        let length := (data >>> 12).toNat + 3
        let off : u32 := (data &&& 0x0FFF).setWidth 32
        let windowOffset := sink.cursor out - off - 1
        match copyLoop bus sink length windowOffset out len with
        | .error out => .error out
        | .ok (out, len) => flagLoop bus sink left (d <<< 1) (source + 2) out len
      else
        match putByte sink out (bus._MMU_read08 (sink.mem out) source) len with
        | .error out => .error out
        | .ok (out, len) => flagLoop bus sink left (d <<< 1) (source + 1) out len

/-- The loop over `i1` when no flag is set. -/
def literalLoop (bus : Bus Mem) (sink : Sink Mem State) :
    Nat → u32 → State → Nat → Except State (u32 × State × Nat)
  | 0, source, out, len => .ok (source, out, len)
  | left + 1, source, out, len =>
      match putByte sink out (bus._MMU_read08 (sink.mem out) source) len with
      | .error out => .error out
      | .ok (out, len) => literalLoop bus sink left (source + 1) out len

def lz77Group (bus : Bus Mem) (sink : Sink Mem State) (source : u32) (out : State) (len : Nat) :
    Except State (u32 × State × Nat) :=
  let d := bus._MMU_read08 (sink.mem out) source
  if d ≠ 0 then flagLoop bus sink 8 d (source + 1) out len
  else literalLoop bus sink 8 (source + 1) out len

variable {sink : Sink Mem State}

variable {next out : State} {less len : Nat} {source after : u32}

theorem putByte_shrinks {byte : u8}
    (put : putByte sink out byte len = .ok (next, less)) : less < len := by
  unfold putByte at put
  split at put
  · cases put
  · cases put
    omega

variable {bus : Bus Mem}

theorem copyLoop_shrinks {n : Nat} {windowOffset : u32}
    (copied : copyLoop bus sink n windowOffset out len = .ok (next, less)) : less + n ≤ len := by
  induction n generalizing windowOffset out len with
  | zero =>
      cases copied
      exact Nat.le_refl _
  | succ n ih =>
      rw [copyLoop] at copied
      split at copied
      · cases copied
      · next put =>
          have first := putByte_shrinks put
          have later := ih copied
          omega

theorem literalLoop_shrinks {left : Nat}
    (looped : literalLoop bus sink left source out len = .ok (after, next, less)) :
    less + left ≤ len := by
  induction left generalizing source out len with
  | zero =>
      cases looped
      exact Nat.le_refl _
  | succ left ih =>
      rw [literalLoop] at looped
      split at looped
      · cases looped
      · next put =>
          have first := putByte_shrinks put
          have later := ih looped
          omega

theorem flagLoop_shrinks {left : Nat} {d : u8}
    (looped : flagLoop bus sink left d source out len = .ok (after, next, less)) :
    less + left ≤ len := by
  induction left generalizing d source out len with
  | zero =>
      cases looped
      exact Nat.le_refl _
  | succ left ih =>
      rw [flagLoop] at looped
      split at looped
      · dsimp only at looped
        split at looped
        · cases looped
        · next copied =>
            have first := copyLoop_shrinks copied
            have later := ih looped
            omega
      · split at looped
        · cases looped
        · next put =>
            have first := putByte_shrinks put
            have later := ih looped
            omega

theorem lz77Group_shrinks
    (passed : lz77Group bus sink source out len = .ok (after, next, less)) : less < len := by
  unfold lz77Group at passed
  dsimp only at passed
  split at passed
  · have shrinks := flagLoop_shrinks passed
    omega
  · have shrinks := literalLoop_shrinks passed
    omega

def lz77Loop (bus : Bus Mem) (sink : Sink Mem State) (source : u32) (out : State) (len : Nat) :
    State × u32 :=
  if len > 0 then
    match _passed : lz77Group bus sink source out len with
    | .error out => (out, 0)
    | .ok (source, out, len) => lz77Loop bus sink source out len
  else (out, 1)
termination_by len
decreasing_by exact lz77Group_shrinks ‹_›

/-- Both LZ77 functions, from `R0` and `R1`. -/
def LZ77UnComp (bus : Bus Mem) (sink : Sink Mem State) (cpu : Cpu.armcpu_t) (mem : Mem) :
    Mem × u32 :=
  let source := cpu.R 0
  let dest := cpu.R 1
  let header := bus._MMU_read32 mem source
  let source := source + 4
  if addressRefused source header then (mem, 0)
  else
    let res := lz77Loop bus sink source (sink.start mem dest) (header >>> 8).toNat
    (sink.mem res.1, res.2)

def LZ77UnCompWram (bus : Bus Mem) (cpu : Cpu.armcpu_t) (mem : Mem) : Mem × u32 :=
  LZ77UnComp bus (wramSink bus) cpu mem

def LZ77UnCompVram (bus : Bus Mem) (cpu : Cpu.armcpu_t) (mem : Mem) : Mem × u32 :=
  LZ77UnComp bus (vramSink bus) cpu mem

/-- A literal, or `extra + 3` bytes from `offset + 1` bytes back. -/
inductive Token
  | literal (byte : u8)
  | copy (extra : BitVec 4) (off : BitVec 12)
  deriving DecidableEq

namespace Token

def isCopy : Token → Bool
  | literal _ => false
  | copy _ _ => true

def bytes : Token → List u8
  | literal byte => [byte]
  | copy extra off => [extra ++ off.extractLsb' 8 4,off.extractLsb' 0 8]

end Token

variable (before : Nat → u8) (done : List u8)

/-- The byte `distance` before the end of the output. `before` are the bytes in
front of the output, counted backwards. -/
def lookBack (distance : Nat) : u8 :=
  if distance ≤ done.length then done.getD (done.length - distance) 0
  else before (distance - done.length)

def copyBytes (before : Nat → u8) (distance : Nat) : Nat → List u8 → List u8
  | 0, done => done
  | count + 1, done =>
      copyBytes before distance count (done ++ [lookBack before done distance])

def Token.onto : Token → List u8
  | .literal byte => done ++ [byte]
  | .copy extra off => copyBytes before (off.toNat + 1) (extra.toNat + 3) done

def expandOnto (before : Nat → u8) (done : List u8) : List Token → List u8
  | [] => done
  | token :: rest => expandOnto before (token.onto before done) rest

/-- The bytes stand for the tokens, with `left` flags still to use in `d`. -/
inductive Stream : Nat → u8 → List u8 → List Token → Prop
  | stop (left : Nat) (d : u8) (bytes : List u8) : Stream left d bytes []
  | flags (d used : u8) (bytes : List u8) (tokens : List Token) (rest : Stream 8 d bytes tokens) :
      Stream 0 used (d :: bytes) tokens
  | token (left : Nat) (d : u8) (token : Token) (bytes : List u8) (tokens : List Token)
      (flag : d &&& (0x80 : u8) ≠ 0 ↔ token.isCopy = true)
      (rest : Stream left (d <<< 1) bytes tokens) :
      Stream (left + 1) d (token.bytes ++ bytes) (token :: tokens)

theorem copyBytes_extends (distance n : Nat) (done : List u8) :
    ∃ more, copyBytes before distance n done = done ++ more ∧ more.length = n := by
  induction n generalizing done with
  | zero => exact ⟨[],(List.append_nil done).symm,rfl⟩
  | succ n ih =>
      obtain ⟨more,extended,size⟩ := ih (done ++ [lookBack before done distance])
      refine ⟨lookBack before done distance :: more,?_,by rw [List.length_cons,size]⟩
      rw [copyBytes,extended,List.append_assoc]
      rfl

theorem Token.onto_extends (token : Token) : ∃ more, token.onto before done = done ++ more := by
  cases token with
  | literal byte => exact ⟨[byte],rfl⟩
  | copy extra off =>
      obtain ⟨more,extended,size⟩ :=
        copyBytes_extends before (off.toNat + 1) (extra.toNat + 3) done
      exact ⟨more,extended⟩

theorem expandOnto_extends (tokens : List Token) :
    ∃ more, expandOnto before done tokens = done ++ more := by
  induction tokens generalizing done with
  | nil => exact ⟨[],(List.append_nil done).symm⟩
  | cons token rest ih =>
      obtain ⟨first,extended⟩ := token.onto_extends before done
      obtain ⟨later,expanded⟩ := ih (token.onto before done)
      refine ⟨first ++ later,?_⟩
      rw [expandOnto,expanded,extended,List.append_assoc]

theorem take_expandOnto {done : List u8} {total : Nat}
    (enough : total ≤ done.length) (tokens : List Token) :
    (expandOnto before done tokens).take total = done.take total := by
  obtain ⟨more,extended⟩ := expandOnto_extends before done tokens
  rw [extended,List.take_append_of_le_length enough]

variable (memory : PlainMemory Mem)

/-- The bytes are in memory from `source` on, clear of the destination. -/
def Placed (mem : Mem) (dest : u32) (total : Nat) (source : u32) (bytes : List u8) : Prop :=
  ∀ i (inside : i < bytes.length),
    memory.cell (source + BitVec.ofNat 32 i) ∧
      Apart dest total (source + BitVec.ofNat 32 i) ∧
        memory._MMU_read08 mem (source + BitVec.ofNat 32 i) = bytes[i]

theorem Placed.drop {memory : PlainMemory Mem} {mem : Mem} {dest source : u32} {total : Nat}
    {first second : List u8} (placed : Placed memory mem dest total source (first ++ second)) :
    Placed memory mem dest total (source + BitVec.ofNat 32 first.length) second := by
  intro i inside
  have here := placed (first.length + i) (by rw [List.length_append]; omega)
  rw [List.getElem_append_right (Nat.le_add_right _ _),BitVec.ofNat_add,← BitVec.add_assoc]
    at here
  simpa using here

theorem Placed.tail {memory : PlainMemory Mem} {mem : Mem} {dest : u32} {total : Nat}
    {byte : u8} {bytes : List u8} (placed : Placed memory mem dest total source (byte :: bytes)) :
    Placed memory mem dest total (source + 1) bytes :=
  @Placed.drop _ memory mem dest source total [byte] bytes placed

/-- With `size` bytes of output, what a copy reads in front of the output is
memory. -/
inductive Readable (dest : u32) : Nat → List Token → Prop
  | nil (size : Nat) : Readable dest size []
  | literal (size : Nat) (byte : u8) (rest : List Token) (later : Readable dest (size + 1) rest) :
      Readable dest size (.literal byte :: rest)
  | copy (size : Nat) (extra : BitVec 4) (off : BitVec 12) (rest : List Token)
      (cells : ∀ back, 1 ≤ back → back + size ≤ off.toNat + 1 →
        memory.cell (dest - BitVec.ofNat 32 back))
      (later : Readable dest (size + (extra.toNat + 3)) rest) :
      Readable dest size (.copy extra off :: rest)

/-- Every copy comes from more than `lag` bytes back. -/
def Distant (lag : Nat) (tokens : List Token) : Prop :=
  ∀ extra off, Token.copy extra off ∈ tokens → lag < off.toNat + 1

def bytesBefore (mem : Mem) (dest : u32) (back : Nat) : u8 :=
  memory._MMU_read08 mem (dest - BitVec.ofNat 32 back)

end

end Desmume.Bios
