/-
The encoding that `LZ77UnCompWram` undoes.

Tokens are written in groups of eight behind a byte of flags, most significant
flag first, and the whole behind a header word with the decompressed size.
-/

import Desmume.Bios.Lz77Run

namespace Desmume.Bios

def flagByte : List Token → u8
  | [] => 0
  | token :: rest => (if token.isCopy then (0x80 : u8) else 0) ||| flagByte rest >>> 1

def encodeGroups (tokens : List Token) : List u8 :=
  match tokens with
  | [] => []
  | first :: rest =>
      flagByte ((first :: rest).take 8) :: ((first :: rest).take 8).flatMap Token.bytes ++
        encodeGroups (rest.drop 7)
termination_by tokens.length
decreasing_by
  rw [List.length_drop,List.length_cons]
  omega

/-- The header word in memory order: the type, then the size in 24 bits. -/
def headerBytes (len : Nat) : List u8 :=
  let size := BitVec.ofNat 24 len
  [0x10,size.extractLsb' 0 8,size.extractLsb' 8 8,size.extractLsb' 16 8]

def encode (tokens : List Token) (len : Nat) : List u8 :=
  headerBytes len ++ encodeGroups tokens

def expand (tokens : List Token) : List u8 := expandOnto (fun _ => 0) [] tokens

/-- With `size` bytes of output, no copy reaches before its start. -/
inductive Inside : Nat → List Token → Prop
  | nil (size : Nat) : Inside size []
  | literal (size : Nat) (byte : u8) (rest : List Token) (later : Inside (size + 1) rest) :
      Inside size (.literal byte :: rest)
  | copy (size : Nat) (extra : BitVec 4) (off : BitVec 12) (rest : List Token)
      (near : off.toNat + 1 ≤ size) (later : Inside (size + (extra.toNat + 3)) rest) :
      Inside size (.copy extra off :: rest)

theorem flagByte_cons (token : Token) (rest : List Token) (bit : Nat) :
    (flagByte (token :: rest)).getLsbD bit =
      (token.isCopy && decide (bit = 7) || (flagByte rest).getLsbD (1 + bit)) := by
  have top : (0x80 : u8).getLsbD bit = decide (bit = 7) := by
    change (BitVec.twoPow 8 7).getLsbD bit = _
    rw [BitVec.getLsbD_twoPow]
    simp [eq_comm]
  rw [flagByte,BitVec.getLsbD_or,BitVec.getLsbD_ushiftRight]
  cases token with
  | literal byte => simp [Token.isCopy]
  | copy extra off =>
      rw [← top]
      rfl

theorem flagByte_low {group : List Token} {bit : Nat} (unused : bit + group.length < 8) :
    (flagByte group).getLsbD bit = false := by
  induction group generalizing bit with
  | nil => simp [flagByte]
  | cons token rest ih =>
      rw [List.length_cons] at unused
      have notLast : bit ≠ 7 := by omega
      rw [flagByte_cons,@ih (1 + bit) (by omega)]
      simp [notLast]

theorem flagByte_head (token : Token) (rest : List Token) :
    flagByte (token :: rest) &&& (0x80 : u8) ≠ 0 ↔ token.isCopy = true := by
  change flagByte (token :: rest) &&& BitVec.twoPow 8 7 ≠ 0 ↔ _
  rw [and_twoPow_ne_zero _ 7 (by omega),flagByte_cons,BitVec.getLsbD_of_ge _ _ (by omega)]
  simp

theorem flagByte_tail (token : Token) {rest : List Token} (small : rest.length ≤ 7) :
    flagByte (token :: rest) <<< 1 = flagByte rest := by
  apply BitVec.eq_of_getLsbD_eq
  intro bit bound
  rw [BitVec.getLsbD_shiftLeft,flagByte_cons]
  cases bit with
  | zero =>
      rw [@flagByte_low rest 0 (by omega)]
      simp
  | succ bit =>
      have notLast : bit ≠ 7 := by omega
      simp [notLast,bound,Nat.add_comm 1 bit]

theorem stream_group {group : List Token} {left : Nat} {after : List u8} {rest : List Token}
    (fits : group.length ≤ left) (eight : left ≤ 8) (full : group.length = left ∨ rest = [])
    (later : ∀ used, Stream 0 used after rest) :
    Stream left (flagByte group) (group.flatMap Token.bytes ++ after) (group ++ rest) := by
  induction group generalizing left with
  | nil =>
      cases full with
      | inl used =>
          rw [← used]
          exact later 0
      | inr none =>
          rw [none]
          exact Stream.stop left _ _
  | cons token group ih =>
      cases left with
      | zero => cases fits
      | succ left =>
          rw [List.length_cons] at fits full
          have next := @ih left (by omega) (by omega) (full.imp (by omega) id)
          rw [List.flatMap_cons,List.append_assoc]
          refine Stream.token left _ token _ _ (flagByte_head token group) ?_
          rw [flagByte_tail token (by omega)]
          exact next

variable (tokens : List Token)

theorem stream_encodeGroups (used : u8) : Stream 0 used (encodeGroups tokens) tokens := by
  induction tokens using encodeGroups.induct generalizing used with
  | case1 =>
      exact Stream.stop 0 used _
  | case2 first rest ih =>
      rw [encodeGroups]
      have group := @stream_group ((first :: rest).take 8) 8 (encodeGroups (rest.drop 7))
        (rest.drop 7) (List.length_take_le _ _) (Nat.le_refl _) (by
          by_cases long : 7 ≤ rest.length
          · left
            rw [List.length_take,List.length_cons]
            omega
          · right
            exact List.drop_eq_nil_of_le (by omega)) ih
      rw [show rest.drop 7 = (first :: rest).drop 8 from rfl,List.take_append_drop] at group
      exact Stream.flags _ used _ _ group

/-- The bytes at `base` and zeros elsewhere. -/
def loaded (base : Nat) (bytes : List u8) : IoMem :=
  fun addr => if base ≤ addr then bytes.getD (addr - base) 0 else 0

def called (source dest : u32) : Cpu.armcpu_t :=
  { Cpu.armcpu_t.initial with R := fun i => if i = 0 then source else dest }

theorem loaded_placed {source dest : u32} {total : Nat} (bytes : List u8)
    (low : 0x02000000 ≤ source.toNat) (high : source.toNat + bytes.length ≤ 0x02400000)
    (before : dest.toNat + total ≤ source.toNat) :
    Placed mainMemory (loaded (mainIndex source) bytes) dest total source bytes := by
  intro i inside
  have addr : (source + BitVec.ofNat 32 i).toNat = source.toNat + i := by
    rw [BitVec.toNat_add,BitVec.toNat_ofNat]
    omega
  have start : mainRange source := by
    constructor
    · exact low
    · change source.toNat < 0x02400000
      omega
  have here : mainRange (source + BitVec.ofNat 32 i) := by
    constructor
    · change 0x02000000 ≤ (source + BitVec.ofNat 32 i).toNat
      omega
    · change (source + BitVec.ofNat 32 i).toNat < 0x02400000
      omega
  refine ⟨here,?_,?_⟩
  · intro other bound same
    have values := congrArg BitVec.toNat same
    rw [addr,BitVec.toNat_add,BitVec.toNat_ofNat] at values
    omega
  · have pos : mainIndex (source + BitVec.ofNat 32 i) = mainIndex source + i := by
      rw [here.index,start.index,addr]
      omega
    change mainBus._MMU_read08 _ _ = _
    simp only [mainBus,if_pos here.inMainMemory,loaded,pos,
      if_pos (Nat.le_add_right (mainIndex source) i),Nat.add_sub_cancel_left]
    rw [List.getD_eq_getElem]

theorem main_writable {dest : u32} {total : Nat} (low : 0x02000000 ≤ dest.toNat)
    (high : dest.toNat + total ≤ 0x02400000) : Writable mainMemory dest total := by
  intro i inside
  have addr : (dest + BitVec.ofNat 32 i).toNat = dest.toNat + i := by
    rw [BitVec.toNat_add,BitVec.toNat_ofNat]
    omega
  constructor
  · change 0x02000000 ≤ (dest + BitVec.ofNat 32 i).toNat
    omega
  · change (dest + BitVec.ofNat 32 i).toNat < 0x02400000
    omega

section

variable {Mem : Type} {memory : PlainMemory Mem}

theorem copyBytes_inside (before other : Nat → u8) (distance n : Nat) {done : List u8}
    (inside : distance ≤ done.length) :
    copyBytes before distance n done = copyBytes other distance n done := by
  induction n generalizing done with
  | zero => rfl
  | succ n ih =>
      have same : lookBack before done distance = lookBack other done distance := by
        rw [lookBack,lookBack,if_pos inside,if_pos inside]
      rw [copyBytes,copyBytes,same]
      exact ih (by rw [List.length_append]; omega)

theorem expandOnto_inside (before other : Nat → u8) (tokens : List Token) {done : List u8}
    (inside : Inside done.length tokens) :
    expandOnto before done tokens = expandOnto other done tokens := by
  induction tokens generalizing done with
  | nil => rfl
  | cons token rest ih =>
      cases inside with
      | literal size byte rest later =>
          exact ih (by rw [Token.onto,List.length_append]; exact later)
      | copy size extra off rest near later =>
          have same := copyBytes_inside before other (off.toNat + 1) (extra.toNat + 3) near
          obtain ⟨more,extended,size⟩ :=
            copyBytes_extends other (off.toNat + 1) (extra.toNat + 3) done
          rw [expandOnto,expandOnto,Token.onto,Token.onto,same]
          exact ih (by rw [extended,List.length_append,size]; exact later)

theorem readable_of_inside (dest : u32) {tokens : List Token} {size : Nat}
    (inside : Inside size tokens) : Readable memory dest size tokens := by
  induction inside with
  | nil size => exact .nil size
  | literal size byte rest later ih => exact .literal size byte rest ih
  | copy size extra off rest near later ih =>
      exact .copy size extra off rest (fun back one far => by omega) ih

theorem headerBytes_word {len : Nat} (fits : len < 2 ^ 24) :
    ((((BitVec.ofNat 24 len).extractLsb' 16 8 ++ (BitVec.ofNat 24 len).extractLsb' 8 8) ++
      ((BitVec.ofNat 24 len).extractLsb' 0 8 ++ (0x10 : u8)) : u32) >>> 8).toNat = len := by
  have val : (((BitVec.ofNat 24 len).extractLsb' 16 8 ++ (BitVec.ofNat 24 len).extractLsb' 8 8) ++
      ((BitVec.ofNat 24 len).extractLsb' 0 8 ++ (0x10 : u8)) : u32) >>> 8 =
      (BitVec.ofNat 24 len).setWidth 32 := by
    apply BitVec.eq_of_getLsbD_eq
    intro i bound
    simp only [BitVec.getLsbD_ushiftRight,BitVec.getLsbD_append,BitVec.getLsbD_extractLsb',
      BitVec.getLsbD_setWidth]
    interval_cases i <;> simp
  rw [val,BitVec.toNat_setWidth,BitVec.toNat_ofNat]
  omega

theorem header_size {mem : Mem} {dest source : u32} {total len : Nat} (fits : len < 2 ^ 24)
    (aligned : source.toNat % 4 = 0) {bytes : List u8}
    (placed : Placed memory mem dest total source (headerBytes len ++ bytes)) :
    (memory._MMU_read32 mem source >>> 8).toNat = len := by
  have base : source &&& ~~~3 = source := by
    apply BitVec.eq_of_toNat_eq
    rw [toNat_align4]
    omega
  have size : (headerBytes len ++ bytes).length = bytes.length + 4 := by
    rw [List.length_append,Nat.add_comm]
    rfl
  have word := memory.read32_bytes mem source
  rw [base] at word
  have first := (placed 0 (by omega)).2.2
  rw [BitVec.add_zero] at first
  have second : memory._MMU_read08 mem (source + 1) = (BitVec.ofNat 24 len).extractLsb' 0 8 :=
    (placed 1 (by omega)).2.2
  have third : memory._MMU_read08 mem (source + 2) = (BitVec.ofNat 24 len).extractLsb' 8 8 :=
    (placed 2 (by omega)).2.2
  have fourth : memory._MMU_read08 mem (source + 3) = (BitVec.ofNat 24 len).extractLsb' 16 8 :=
    (placed 3 (by omega)).2.2
  rw [word (fun i bound => (placed i (by omega)).1),first,second,third,fourth]
  exact headerBytes_word fits

/-- `LZ77UnCompWram` writes the first `len` bytes of the expansion and nothing
else. -/
theorem lz77_wram_expands {cpu : Cpu.armcpu_t} {mem : Mem} {tokens : List Token} {len : Nat}
    (positive : 0 < len) (fits : len < 2 ^ 24) (inside : Inside 0 tokens)
    (enough : len ≤ (expand tokens).length) (aligned : (cpu.R 0).toNat % 4 = 0)
    (placed : Placed memory mem (cpu.R 1) len (cpu.R 0) (encode tokens len))
    (writable : Writable memory (cpu.R 1) len)
    (accepted : addressRefused (cpu.R 0 + 4) (memory._MMU_read32 mem (cpu.R 0)) = false) :
    LZ77UnCompWram memory.toBus cpu mem =
      (writeBytes memory.toBus mem (cpu.R 1) ((expand tokens).take len), 0) := by
  have same : expandOnto (bytesBefore memory mem (cpu.R 1)) [] tokens = expand tokens :=
    expandOnto_inside _ _ tokens inside
  obtain ⟨last,run,held⟩ :=
    (wramTrace memory mem (cpu.R 1) len (by omega) writable).lz77_stream
      (header_size fits aligned placed).symm positive accepted
      (stream_encodeGroups tokens 0) placed.drop (readable_of_inside (cpu.R 1) inside)
      (fun extra off found => Nat.succ_pos _) (by rw [same]; exact enough)
  rw [same] at held
  rw [LZ77UnCompWram,run,← held.1]
  rfl

end

/-- A literal and an overlapping copy that the size cuts short. -/
theorem lz77_wram_expands_run :
    LZ77UnCompWram mainMemory.toBus (called 0x02100000 0x02000000)
        (loaded 0x100000 (encode [.literal 7,.copy 0 0] 3)) =
      (writeBytes mainMemory.toBus (loaded 0x100000 (encode [.literal 7,.copy 0 0] 3))
        0x02000000 ((expand [.literal 7,.copy 0 0]).take 3), 0) := by
  have bytes : encode [.literal 7,.copy 0 0] 3 = [0x10,3,0,0,0x40,7,0,0] := by
    simp [encode,encodeGroups,headerBytes,flagByte,Token.isCopy,Token.bytes]
  have inside : Inside 0 [.literal 7,.copy 0 0] :=
    .literal 0 7 _ (.copy 1 0 0 [] (by decide) (.nil _))
  have placed := @loaded_placed 0x02100000 0x02000000 3 (encode [.literal 7,.copy 0 0] 3)
    (by decide) (by rw [bytes]; decide) (by decide)
  have word : mainMemory._MMU_read32 (loaded 0x100000 (encode [.literal 7,.copy 0 0] 3))
      0x02100000 = 0x00000310 := by
    rw [bytes]
    decide
  exact @lz77_wram_expands _ mainMemory (called 0x02100000 0x02000000) _ _ 3 (by decide)
    (by decide) inside (by decide) (by decide) placed
    (main_writable (by decide) (by decide)) (by
      change addressRefused 0x02100004 (mainMemory._MMU_read32 _ 0x02100000) = false
      rw [word]
      decide)

theorem inside_literals (byte : u8) (n size : Nat) :
    Inside size (List.replicate n (.literal byte)) := by
  induction n generalizing size with
  | zero => exact .nil size
  | succ n ih => exact .literal size byte _ (ih (size + 1))

theorem expandOnto_literals (before : Nat → u8) (byte : u8) (n : Nat) (done : List u8) :
    expandOnto before done (List.replicate n (.literal byte)) =
      done ++ List.replicate n byte := by
  induction n generalizing done with
  | zero => exact (List.append_nil done).symm
  | succ n ih =>
      rw [List.replicate_succ,expandOnto,ih,Token.onto,List.append_assoc]
      rfl

theorem bytes_length_le : (tokens.flatMap Token.bytes).length ≤ 2 * tokens.length := by
  induction tokens with
  | nil => exact Nat.le_refl _
  | cons token rest ih =>
      rw [List.flatMap_cons,List.length_append,List.length_cons]
      cases token with
      | literal byte =>
          simp only [Token.bytes,List.length_singleton]
          omega
      | copy extra off =>
          simp only [Token.bytes,List.length_cons,List.length_nil]
          omega

theorem encodeGroups_length_le : (encodeGroups tokens).length ≤ 3 * tokens.length := by
  induction tokens using encodeGroups.induct with
  | case1 => simp [encodeGroups]
  | case2 first rest ih =>
      have group := bytes_length_le ((first :: rest).take 8)
      rw [encodeGroups,List.length_append,List.length_cons]
      rw [List.length_take,List.length_cons] at group
      rw [List.length_drop] at ih
      rw [List.length_cons]
      omega

def manyLiterals : List Token := List.replicate 65536 (.literal 1)

def misaligned : IoMem := loaded 0x100001 (encode manyLiterals 65536)

theorem expandOnto_manyLiterals (before : Nat → u8) :
    expandOnto before [] manyLiterals = List.replicate 65536 1 :=
  (expandOnto_literals before 1 65536 []).trans (List.nil_append _)

theorem inside_manyLiterals : Inside 0 manyLiterals := inside_literals 1 65536 0

theorem misaligned_placed (total : Nat) (room : total ≤ 65536) :
    Placed mainMemory misaligned 0x02000000 total 0x02100001 (encode manyLiterals 65536) := by
  have groups := encodeGroups_length_le manyLiterals
  rw [show manyLiterals.length = 65536 from List.length_replicate] at groups
  have long : (encode manyLiterals 65536).length ≤ 4 + 3 * 65536 := by
    rw [encode,List.length_append,show (headerBytes 65536).length = 4 from rfl]
    omega
  have start : (0x02100001 : u32).toNat = 0x02100001 := rfl
  have target : (0x02000000 : u32).toNat = 0x02000000 := rfl
  exact loaded_placed (encode manyLiterals 65536) (by decide) (by omega) (by omega)

theorem misread_header (groups : List u8) :
    T1ReadLong (loaded 0x100001 (0x10 :: 0 :: 0 :: 1 :: groups)) 0x100000 = 0x00001000 := by
  simp [T1ReadLong,T1ReadWord,loaded]

theorem misaligned_header : mainMemory._MMU_read32 misaligned 0x02100001 = 0x00001000 := by
  have head : encode manyLiterals 65536 = 0x10 :: 0 :: 0 :: 1 :: encodeGroups manyLiterals := by
    rw [encode,show headerBytes 65536 = [0x10,0,0,1] from rfl]
    simp only [List.cons_append,List.nil_append]
  have inside : inMainMemory 0x02100001 := by decide
  have i : mainIndex ((0x02100001 : u32) &&& ~~~3) = 0x100000 := by decide
  change mainBus._MMU_read32 misaligned 0x02100001 = _
  simp only [mainBus,if_pos inside,i]
  rw [misaligned,head]
  exact misread_header _

theorem misaligned_accepted :
    addressRefused (0x02100001 + 4) (mainMemory._MMU_read32 misaligned 0x02100001) = false := by
  rw [misaligned_header]
  decide

theorem misaligned_kept :
    mainMemory._MMU_read08
      (LZ77UnCompWram mainMemory.toBus (called 0x02100001 0x02000000) misaligned).1
      0x02000010 = 0 := by
  have writable := @main_writable 0x02000000 16 (by decide) (by decide)
  have size : 16 = (mainMemory._MMU_read32 misaligned 0x02100001 >>> 8).toNat := by
    rw [misaligned_header]
    rfl
  obtain ⟨last,run,held⟩ :=
    @Trace.lz77_stream _ _ _ _ _ misaligned 16 (called 0x02100001 0x02000000)
      (wramTrace mainMemory misaligned 0x02000000 16 (by decide) writable) size (by decide)
      misaligned_accepted _ _ (stream_encodeGroups manyLiterals 0)
      (misaligned_placed 16 (by decide)).drop (readable_of_inside _ inside_manyLiterals)
      (fun extra off found => Nat.succ_pos _)
      (by rw [expandOnto_manyLiterals,List.length_replicate]; decide)
  have apart : Apart 0x02000000 16 0x02000010 := by
    intro i bound
    interval_cases i <;> decide
  have here : mainRange 0x02000010 := by constructor <;> decide
  have kept := Trace.frame _ _ last held (List.length_take_le _ _) 0x02000010 here apart
  rw [LZ77UnCompWram,run]
  exact kept

theorem misaligned_differs {bytes : List u8} (size : bytes.length = 65536)
    (ones : ∀ i (inside : i < bytes.length), bytes[i] = 1) :
    LZ77UnCompWram mainMemory.toBus (called 0x02100001 0x02000000) misaligned ≠
      (writeBytes mainMemory.toBus misaligned 0x02000000 bytes, 0) := by
  intro same
  have writable := @main_writable 0x02000000 bytes.length (by decide) (by rw [size]; decide)
  have claimed := @PlainMemory.writeBytes_inside _ mainMemory bytes misaligned 0x02000000 writable
    (by rw [size]; decide) 16 (by rw [size]; decide)
  have kept := misaligned_kept
  rw [same] at kept
  rw [ones] at claimed
  exact absurd (claimed.symm.trans kept) (by decide)

/-- 65536 bytes were encoded and the last ones are not written. -/
theorem lz77_misaligned_source :
    Inside 0 manyLiterals ∧ 65536 ≤ (expand manyLiterals).length ∧
      Placed mainMemory misaligned 0x02000000 65536 0x02100001 (encode manyLiterals 65536) ∧
      Writable mainMemory 0x02000000 65536 ∧
      addressRefused (0x02100001 + 4) (mainMemory._MMU_read32 misaligned 0x02100001) = false ∧
      LZ77UnCompWram mainMemory.toBus (called 0x02100001 0x02000000) misaligned ≠
        (writeBytes mainMemory.toBus misaligned 0x02000000 ((expand manyLiterals).take 65536),
          0) := by
  have expanded : expand manyLiterals = List.replicate 65536 1 := expandOnto_manyLiterals _
  have size : (expand manyLiterals).length = 65536 := by
    rw [expanded,List.length_replicate]
  have whole : (expand manyLiterals).take 65536 = expand manyLiterals :=
    List.take_of_length_le (by omega)
  have ones (i : Nat) (inside : i < (expand manyLiterals).length) :
      (expand manyLiterals)[i] = 1 := by
    simp only [expanded,List.getElem_replicate]
  refine ⟨inside_manyLiterals,by omega,misaligned_placed 65536 (Nat.le_refl _),
    main_writable (by decide) (by decide),misaligned_accepted,?_⟩
  rw [whole]
  exact misaligned_differs size ones

end Desmume.Bios
