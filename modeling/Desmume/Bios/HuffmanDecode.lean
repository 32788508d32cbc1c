/-
What Huffman decompression puts out, and that it undoes the encoding.

Whole words go to memory; the symbols of the word that is not whole yet are in
`writeValue` and, when one half of a byte is known, in `value`.
-/

import Desmume.Bios.HuffmanRun

namespace Desmume.Bios

open CodeTree Packing While

section

variable {Mem : Type} {bus : WideBus Mem}

def symbolWidth (header : u32) : Nat := if header &&& (0x0F : u32) = 8 then 8 else 4

structure PutOut (bus : WideBus Mem) (mem : Mem) (dest : u32) (len width : Nat)
    (values : List Nat) (out : HuffmanOut Mem) : Prop where
  mem : out.mem = replay bus mem (placeWords dest (words 32 width values))
  dest : out.dest = dest + BitVec.ofNat 32 (4 * filled 32 width values)
  len : out.len = len - 4 * filled 32 width values
  shift : out.byteShift = 8 * out.byteCount
  used : used 32 width values = out.byteShift + out.halfLen
  rest : rest 32 width values = out.writeValue.toNat + out.value.toNat * 2 ^ out.byteShift
  low : out.writeValue.toNat < 2 ^ out.byteShift
  half : out.value.toNat < 2 ^ out.halfLen

variable {mem : Mem} {dest : u32} {len width : Nat} {values : List Nat} {out : HuffmanOut Mem}

theorem filled_snoc_of_words {val : Nat} {more : List u32}
    (same : words 32 width (values ++ [val]) = words 32 width values ++ more) :
    filled 32 width (values ++ [val]) = filled 32 width values + more.length := by
  have lengths := congrArg List.length same
  rwa [length_words,List.length_append,length_words] at lengths

theorem byteShift_le (held : PutOut bus mem dest len width values out) : out.byteShift ≤ 24 := by
  have below := out.byteCount_lt
  have shift := held.shift
  omega

/-- A value that completes a byte. -/
theorem putOut_whole (held : PutOut bus mem dest len width values out) {value : Nat}
    (fits : Fits width (values ++ [value])) {byte : u32} (small : byte.toNat < 2 ^ 8)
    (whole : used 32 width values + width = out.byteShift + 8)
    (sum : rest 32 width values + value * 2 ^ used 32 width values =
      out.writeValue.toNat + byte.toNat * 2 ^ out.byteShift) :
    PutOut bus mem dest len width (values ++ [value])
      { putWhole bus out byte with halfLen := 0, value := 0, halfLen_valid := Or.inl rfl } := by
  have shift := held.shift
  have below := out.byteCount_lt
  have high : byte.toNat * 2 ^ out.byteShift < 2 ^ 32 := by
    have product : byte.toNat * 2 ^ out.byteShift < 2 ^ 8 * 2 ^ out.byteShift :=
      Nat.mul_lt_mul_of_pos_right small (Nat.two_pow_pos _)
    have enough : 2 ^ (8 + out.byteShift) ≤ 2 ^ 32 :=
      Nat.pow_le_pow_right (by decide) (by have := byteShift_le held; omega)
    rw [Nat.pow_add] at enough
    omega
  have joined := toNat_or_shiftLeft held.low high
  by_cases full : out.byteCount + 1 = 4
  · obtain ⟨more,none,nothing⟩ := @snoc_full 32 width values value (by decide) fits (by omega)
    have n : filled 32 width (values ++ [value]) = filled 32 width values + 1 :=
      filled_snoc_of_words more
    have written : out.writeValue ||| byte <<< out.byteShift =
        BitVec.ofNat 32 (rest 32 width values + value * 2 ^ used 32 width values) := by
      rw [sum,← joined,BitVec.ofNat_toNat,BitVec.setWidth_eq]
    rw [putWhole_of_full bus full]
    refine ⟨?_,?_,?_,rfl,none,nothing,Nat.two_pow_pos _,Nat.two_pow_pos _⟩
    · rw [more,placeWords_snoc,replay_append,length_words,← held.mem,← held.dest,← written]
      rfl
    · change out.dest + 4 = _
      rw [held.dest,n,Nat.mul_succ,BitVec.ofNat_add,← BitVec.add_assoc]
      rfl
    · change out.len - 4 = _
      rw [held.len,n]
      omega
  · obtain ⟨same,wider,above⟩ := @snoc_open 32 width values value (by omega)
    have n : filled 32 width (values ++ [value]) = filled 32 width values :=
      filled_snoc_of_words (same.trans (List.append_nil _).symm)
    rw [putWhole_of_open bus (by omega)]
    refine ⟨?_,?_,?_,?_,?_,?_,?_,Nat.two_pow_pos _⟩
    · rw [same]
      exact held.mem
    · rw [n]
      exact held.dest
    · rw [n]
      exact held.len
    · change out.byteShift + 8 = 8 * (out.byteCount + 1)
      omega
    · change _ = out.byteShift + 8 + 0
      omega
    · rw [above,sum,← joined]
      change _ = _ + 0 * _
      rw [Nat.zero_mul]
      rfl
    · change (out.writeValue ||| byte <<< out.byteShift).toNat < 2 ^ (out.byteShift + 8)
      have low := held.low
      have step : (byte.toNat + 1) * 2 ^ out.byteShift ≤ 2 ^ 8 * 2 ^ out.byteShift :=
        Nat.mul_le_mul_right _ small
      rw [Nat.add_mul,Nat.one_mul] at step
      rw [joined,Nat.pow_add]
      omega

theorem putOut_firstHalf (held : PutOut bus mem dest len 4 values out) {half : u32}
    (fits : Fits 4 (values ++ [half.toNat])) (first : out.halfLen = 0) :
    PutOut bus mem dest len 4 (values ++ [half.toNat])
      { out with halfLen := 4, value := out.value ||| half, halfLen_valid := Or.inr rfl } := by
  have none : out.value = 0 := by
    have below := held.half
    rw [first] at below
    apply BitVec.eq_of_toNat_eq
    change out.value.toNat = 0
    omega
  have sum := held.rest
  have place := held.used
  have bound := byteShift_le held
  rw [first] at place
  obtain ⟨same,wider,above⟩ := @snoc_open 32 4 values half.toNat (by omega)
  have n : filled 32 4 (values ++ [half.toNat]) = filled 32 4 values :=
    filled_snoc_of_words (same.trans (List.append_nil _).symm)
  have alone : out.value ||| half = half := by
    rw [none]
    exact BitVec.zero_or
  refine ⟨?_,?_,?_,held.shift,?_,?_,held.low,?_⟩
  · rw [same]
    exact held.mem
  · rw [n]
    exact held.dest
  · rw [n]
    exact held.len
  · rw [wider,place]
    rfl
  · change _ = out.writeValue.toNat + (out.value ||| half).toNat * 2 ^ out.byteShift
    rw [above,sum,alone,none,place]
    change _ + 0 * _ + _ = _
    rw [Nat.zero_mul,Nat.add_zero,Nat.add_zero]
  · change (out.value ||| half).toNat < 2 ^ 4
    rw [alone]
    exact fits.last

theorem putOut_secondHalf (held : PutOut bus mem dest len 4 values out) {half : u32}
    (fits : Fits 4 (values ++ [half.toNat])) (second : out.halfLen = 4) :
    PutOut bus mem dest len 4 (values ++ [half.toNat])
      { putWhole bus out (out.value ||| half <<< 4) with
        halfLen := 0
        value := 0
        halfLen_valid := Or.inl rfl } := by
  have low := held.half
  have high : half.toNat < 2 ^ 4 := fits.last
  rw [second] at low
  have both : (out.value ||| half <<< 4).toNat = out.value.toNat + half.toNat * 2 ^ 4 :=
    toNat_or_shiftLeft low (by omega)
  have place := held.used
  have sum := held.rest
  rw [second] at place
  apply putOut_whole held fits
  · rw [both]
    omega
  · omega
  · rw [both,sum,place,Nat.pow_add]
    ring

theorem eq_cleared {next : HuffmanOut Mem} (first : next.halfLen = 0) (none : next.value = 0) :
    { next with halfLen := 0, value := 0, halfLen_valid := Or.inl rfl } = next := by
  cases next
  cases first
  cases none
  rfl

theorem putOut_symbol {header : u32} {symbol : u8}
    (held : PutOut bus mem dest len (symbolWidth header) values out)
    (fits : Fits (symbolWidth header) (values ++ [symbol.toNat])) :
    PutOut bus mem dest len (symbolWidth header) (values ++ [symbol.toNat])
      (putSymbol bus header out symbol) := by
  have wide : (symbol.setWidth 32 : u32).toNat = symbol.toNat := by
    have bound := symbol.isLt
    rw [BitVec.toNat_setWidth]
    omega
  have valid := out.halfLen_valid
  unfold putSymbol
  by_cases eight : header &&& (0x0F : u32) = 8
  · have width : symbolWidth header = 8 := if_pos eight
    rw [width] at held fits ⊢
    rw [if_pos eight]
    have place := held.used
    have shift := held.shift
    have first : out.halfLen = 0 := by
      rw [Packing.used] at place
      omega
    have none : out.value = 0 := by
      have below := held.half
      rw [first] at below
      apply BitVec.eq_of_toNat_eq
      change out.value.toNat = 0
      omega
    have sum := held.rest
    rw [← eq_cleared ((putWhole_halfLen bus out (symbol.setWidth 32)).trans first)
      ((putWhole_value bus out (symbol.setWidth 32)).trans none)]
    apply putOut_whole held fits
    · rw [wide]
      exact symbol.isLt
    · omega
    · rw [sum,place,wide,none,first]
      change _ + 0 * _ + _ = _
      rw [Nat.zero_mul,Nat.add_zero,Nat.add_zero]
  · have width : symbolWidth header = 4 := if_neg eight
    rw [width] at held fits ⊢
    rw [if_neg eight]
    rw [← wide] at fits ⊢
    rcases valid with first | second
    · rw [putHalf_first bus first]
      exact putOut_firstHalf held fits first
    · rw [putHalf_second bus second]
      exact putOut_secondHalf held fits second

theorem aligned_offset (dest : u32) (i : Nat) :
    (dest + BitVec.ofNat 32 (4 * i)) &&& ~~~3 =
      (dest &&& ~~~3) + BitVec.ofNat 32 (4 * i) := by
  have bound := dest.isLt
  apply BitVec.eq_of_toNat_eq
  rw [toNat_align4,BitVec.toNat_add,BitVec.toNat_add,toNat_align4,BitVec.toNat_ofNat]
  omega

variable {memory : WideMemory Mem} {total : Nat} {source : u32}

theorem placed_stored {bytes : List u8} {stored : List u32}
    (placed : Placed memory.toPlainMemory mem (dest &&& ~~~3) total source bytes)
    (writable : Writable memory.toPlainMemory (dest &&& ~~~3) total)
    (room : 4 * stored.length ≤ total) :
    Placed memory.toPlainMemory (replay memory.toWideBus mem (placeWords dest stored))
      (dest &&& ~~~3) total source bytes := by
  induction stored using List.reverseRecOn with
  | nil => exact placed
  | append_singleton stored word ih =>
      rw [List.length_append,List.length_singleton] at room
      have earlier := ih (by omega)
      have inside (i : Nat) (bound : i < 4) :
          (dest &&& ~~~3) + BitVec.ofNat 32 (4 * stored.length) + BitVec.ofNat 32 i =
            (dest &&& ~~~3) + BitVec.ofNat 32 (4 * stored.length + i) := by
        rw [BitVec.ofNat_add,BitVec.add_assoc]
      intro i below
      obtain ⟨readable,apart,val⟩ := earlier i below
      refine ⟨readable,apart,?_⟩
      rw [placeWords_snoc,replay_append]
      generalize replay memory.toWideBus mem (placeWords dest stored) = held at val ⊢
      change memory._MMU_read08 (memory._MMU_write32 held _ word) _ = _
      rw [memory.write32_bytes,aligned_offset]
      · rw [memory.toPlainMemory.writeBytes_outside (wordBytes word) _ readable]
        · exact val
        · intro place bound
          rw [inside place bound]
          exact apart _ (by change place < 4 at bound; omega)
        · intro place bound
          rw [inside place bound]
          exact writable _ (by change place < 4 at bound; omega)
      · intro place bound
        rw [aligned_offset,inside place bound]
        exact writable _ (by omega)

theorem wordBytes_join (word : u32) :
    ((word.extractLsb' 24 8 ++ word.extractLsb' 16 8) ++
      (word.extractLsb' 8 8 ++ word.extractLsb' 0 8) : u32) = word := by
  apply BitVec.eq_of_getLsbD_eq
  intro i bound
  simp only [BitVec.getLsbD_append,BitVec.getLsbD_extractLsb']
  interval_cases i <;> simp

theorem getElem?_flatMap_wordBytes {words : List u32} {i : Nat} {word : u32}
    (listed : words[i]? = some word) (place : Nat) (inside : place < 4) :
    (words.flatMap wordBytes)[4 * i + place]? = (wordBytes word)[place]? := by
  induction words generalizing i with
  | nil => cases listed
  | cons first rest ih =>
      rw [List.flatMap_cons]
      cases i with
      | zero =>
          cases listed
          rw [Nat.mul_zero,Nat.zero_add,List.getElem?_append_left inside]
      | succ i =>
          have size : (wordBytes first).length = 4 := rfl
          rw [List.getElem?_append_right (by omega),size,
            show 4 * (i + 1) + place - 4 = 4 * i + place by omega]
          exact ih listed

/-- The bytes behind the header are the table and the words. -/
theorem huffmanData_of_placed {treeSize : u8} {table : List u8} {words : List u32}
    (placed : Placed memory.toPlainMemory mem dest total source
      (huffmanBytes treeSize table words))
    (aligned : (source + 1 + BitVec.ofNat 32 table.length).toNat % 4 = 0) :
    HuffmanData memory.toWideBus mem (source + 1) (source + 1 + BitVec.ofNat 32 table.length)
      table words := by
  have tableAndWords := placed.tail
  constructor
  · intro i byte listed
    obtain ⟨inside,val⟩ := List.getElem?_eq_some_iff.mp listed
    have here := (tableAndWords i (by rw [List.length_append]; omega)).2.2
    rw [List.getElem_append_left inside,val] at here
    exact here
  · intro i word listed
    have stream := tableAndWords.drop
    generalize source + 1 + BitVec.ofNat 32 table.length = start at aligned stream ⊢
    have base : start &&& ~~~3 = start := by
      apply BitVec.eq_of_toNat_eq
      rw [toNat_align4]
      omega
    have addr : (start + BitVec.ofNat 32 (4 * i)) &&& ~~~3 =
        start + BitVec.ofNat 32 (4 * i) := by
      rw [aligned_offset,base]
    have byte (place : Nat) (small : place < 4) :
        memory.cell (start + BitVec.ofNat 32 (4 * i) + BitVec.ofNat 32 place) ∧
          some (memory._MMU_read08 mem
            (start + BitVec.ofNat 32 (4 * i) + BitVec.ofNat 32 place)) =
              (wordBytes word)[place]? := by
      have found := getElem?_flatMap_wordBytes listed place small
      have inside : 4 * i + place < (words.flatMap wordBytes).length := by
        by_contra beyond
        rw [List.getElem?_eq_none (by omega)] at found
        have size : (wordBytes word).length = 4 := rfl
        exact absurd (List.getElem?_eq_none_iff.mp found.symm) (by omega)
      obtain ⟨readable,_,val⟩ := stream (4 * i + place) inside
      rw [BitVec.add_assoc,← BitVec.ofNat_add]
      refine ⟨readable,?_⟩
      rw [val,← found,List.getElem?_eq_getElem inside]
    have whole := memory.read32_bytes mem (start + BitVec.ofNat 32 (4 * i))
    rw [addr] at whole
    have zero := (byte 0 (by decide)).2
    rw [BitVec.add_zero] at zero
    have one := Option.some.inj (byte 1 (by decide)).2
    have two := Option.some.inj (byte 2 (by decide)).2
    have three := Option.some.inj (byte 3 (by decide)).2
    refine (whole fun place small => (byte place small).1).trans ?_
    rw [← wordBytes_join word]
    exact congrArg₂ (· ++ ·) (congrArg₂ (· ++ ·) three two)
      (congrArg₂ (· ++ ·) one (Option.some.inj zero))

variable {tree : CodeTree u8} {table : List u8} {words : List u32} {symbols decoded : List u8}
  {bits : List Bool} {position : Nat} {header treeStart stream : u32} {rootNode : u8}
  {st : HuffmanState Mem}

structure Decoding (bus : WideBus Mem) (mem : Mem) (dest stream : u32) (len width : Nat)
    (words : List u32) (rootNode : u8) (decoded : List u8) (position : Nat)
    (st : HuffmanState Mem) : Prop where
  out : PutOut bus mem dest len width (decoded.map BitVec.toNat) st.out
  root : st.walk = { pos := 0, currentNode := rootNode }
  window : WindowAt stream words position st.window

def KeepsData (bus : WideBus Mem) (mem : Mem) (dest treeStart stream : u32) (table : List u8)
    (words : List u32) (total : Nat) : Prop :=
  ∀ stored : List u32, 4 * stored.length ≤ total →
    HuffmanData bus (replay bus mem (placeWords dest stored)) treeStart stream table words

theorem symbolWidth_eq (header : u32) : symbolWidth header = 8 ∨ symbolWidth header = 4 := by
  unfold symbolWidth
  split
  · exact Or.inl rfl
  · exact Or.inr rfl

theorem filled_of_len (held : PutOut bus mem dest len width values out) (some : 0 < out.len) :
    4 * (filled 32 width values + 1) ≤ 4 * ((len + 3) / 4) := by
  have left := held.len
  omega

theorem filled_snoc_le (header : u32) (values : List Nat) (val : Nat) :
    filled 32 (symbolWidth header) (values ++ [val]) ≤
      filled 32 (symbolWidth header) values + 1 := by
  unfold filled
  rw [List.length_append,List.length_singleton]
  rcases symbolWidth_eq header with eight | four
  · rw [eight]
    omega
  · rw [four]
    omega

theorem decoding_code (keeps : KeepsData bus mem dest treeStart stream table words
      (4 * ((len + 3) / 4))) (short : table.length < 2 ^ 32) (laid : Laid table 0 false tree)
    (root : table[0]? = some rootNode) (off : rootNode &&& (0x3F : u8) = 0)
    (held : Decoding bus mem dest stream len (symbolWidth header) words rootNode decoded position
      st)
    (some : 0 < st.out.len) {code : List Bool} {symbol : u8} (followed : Code tree code symbol)
    (fits : Fits (symbolWidth header) ((decoded ++ [symbol]).map BitVec.toNat)) (agrees : Agrees
      (fun rounds => ((BitWindow.next bus st.out.mem)^[rounds] st.window).bit) code) :
    ∃ next, after (huffmanStep bus header treeStart rootNode) code.length st = .ok next ∧
      Decoding bus mem dest stream len (symbolWidth header) words rootNode (decoded ++ [symbol])
        (position + code.length) next := by
  have room := filled_of_len held.out some
  have data : HuffmanData bus st.out.mem treeStart stream table words := by
    rw [held.out.mem]
    exact keeps _ (by rw [length_words]; omega)
  have start : WalkAt table 0 st.walk := by
    rw [held.root]
    exact walkAt_root rfl root off
  obtain ⟨depth,size,walks⟩ := walks_code data short followed laid start agrees
  have run := @after_walk _ bus header treeStart rootNode st some depth walks.nothing walks.meets
  rw [← size] at run
  rw [List.map_append,List.map_singleton] at fits
  have put := putOut_symbol held.out fits
  have later : HuffmanData bus (putSymbol bus header st.out symbol).mem treeStart stream table
      words := by
    have more := filled_snoc_le header (decoded.map BitVec.toNat) symbol.toNat
    rw [put.mem]
    exact keeps _ (by rw [length_words]; omega)
  refine ⟨_,run,?_,rfl,?_⟩
  · rw [List.map_append,List.map_singleton,huffmanPut,walks.read]
    exact put
  · rw [huffmanPut,walks.read,walks.window,size,← Nat.add_assoc]
    exact (held.window.later data depth).next later

/-- So far the symbols are those of the encoding, whose other symbols the bits
ahead encode, or there are more. -/
def Follows (tree : CodeTree u8) (symbols : List u8) (bits : List Bool) (decoded : List u8)
    (position : Nat) : Prop :=
  (∃ remaining first rest, symbols = decoded ++ remaining ∧ Encodes tree remaining rest ∧
    bits = first ++ rest ∧ first.length = position) ∨ symbols <+: decoded

theorem follows_next {win : BitWindow} (data : HuffmanData bus mem treeStart stream table words)
    (stored : InWords words bits) (here : WindowAt stream words position win)
    (follows : Follows tree symbols bits decoded position) :
    ∃ code symbol, Code tree code symbol ∧
      Agrees (fun rounds => ((BitWindow.next bus mem)^[rounds] win).bit) code ∧
        Follows tree symbols bits (decoded ++ [symbol]) (position + code.length) := by
  have anyway (all : symbols <+: decoded) : ∃ code symbol, Code tree code symbol ∧
      Agrees (fun rounds => ((BitWindow.next bus mem)^[rounds] win).bit) code ∧
        Follows tree symbols bits (decoded ++ [symbol]) (position + code.length) := by
    obtain ⟨code,symbol,followed,agrees⟩ := exists_code tree
      fun rounds => ((BitWindow.next bus mem)^[rounds] win).bit
    have longer := all.trans (List.prefix_append decoded [symbol])
    exact ⟨code,symbol,followed,agrees,Or.inr longer⟩
  rcases follows with ⟨remaining,first,rest,split,encoded,place,size⟩ | all
  · cases encoded with
    | nil =>
        rw [List.append_nil] at split
        exact anyway (by rw [split])
    | @cons code symbol remaining later followed encoded =>
        subst place
        have agrees := (here.agrees data stored size).left
        refine ⟨code,symbol,followed,agrees,Or.inl ⟨remaining,first ++ code,later,?_,encoded,
          ?_,?_⟩⟩
        · rw [split,List.append_assoc]
          rfl
        · rw [List.append_assoc]
        · rw [List.length_append,size]
  · exact anyway all

def symbolCount (header : u32) (len : Nat) : Nat := 32 / symbolWidth header * ((len + 3) / 4)

theorem filled_of_count {decoded : List u8} {left : Nat}
    (n : decoded.length + left = symbolCount header len) :
    (left = 0 → filled 32 (symbolWidth header) (decoded.map BitVec.toNat) = (len + 3) / 4) ∧
      (left ≠ 0 → filled 32 (symbolWidth header) (decoded.map BitVec.toNat) < (len + 3) / 4) := by
  unfold symbolCount at n
  unfold filled
  rw [List.length_map]
  rcases symbolWidth_eq header with eight | four
  · rw [eight] at n ⊢
    omega
  · rw [four] at n ⊢
    omega

/-- From the root on, by induction on the symbols that are missing. -/
theorem decoding_run (keeps : KeepsData bus mem dest treeStart stream table words
      (4 * ((len + 3) / 4))) (short : table.length < 2 ^ 32) (laid : Laid table 0 false tree)
    (root : table[0]? = some rootNode) (off : rootNode &&& (0x3F : u8) = 0)
    (small : ∀ code symbol, Code tree code symbol → symbol.toNat < 2 ^ symbolWidth header)
    (stored : InWords words bits) (left : Nat) :
    ∀ {decoded : List u8} {position : Nat} {st : HuffmanState Mem},
      Decoding bus mem dest stream len (symbolWidth header) words rootNode decoded position
        st →
      Follows tree symbols bits decoded position →
      Fits (symbolWidth header) (decoded.map BitVec.toNat) →
      decoded.length + left = symbolCount header len →
        ∃ rounds all position, all.length = symbolCount header len ∧
          Follows tree symbols bits all position ∧
            after (huffmanStep bus header treeStart rootNode) rounds st =
              .error (replay bus mem (placeWords dest
                (Packing.words 32 (symbolWidth header) (all.map BitVec.toNat))), 1) := by
  induction left with
  | zero =>
      intro decoded position st held follows fits n
      have full := (filled_of_count n).1 rfl
      have none := held.out.len
      refine ⟨1,decoded,position,n,follows,after_succ_of_error ?_ 0⟩
      rw [huffmanStep,if_neg (by omega),held.out.mem]
  | succ left ih =>
      intro decoded position st held follows fits n
      have less := (filled_of_count n).2 (Nat.succ_ne_zero left)
      have some : 0 < st.out.len := by
        have size := held.out.len
        omega
      have data : HuffmanData bus st.out.mem treeStart stream table words := by
        rw [held.out.mem]
        exact keeps _ (by rw [length_words]; omega)
      obtain ⟨code,symbol,followed,agrees,further⟩ :=
        follows_next data stored held.window follows
      have more : Fits (symbolWidth header) ((decoded ++ [symbol]).map BitVec.toNat) := by
        rw [List.map_append,List.map_singleton]
        exact fits.snoc (small code symbol followed)
      obtain ⟨next,run,after⟩ := decoding_code keeps short laid root off held some followed more
        agrees
      obtain ⟨rounds,all,last,size,whole,ended⟩ := ih after further more (by
        rw [List.length_append,List.length_singleton]
        omega)
      exact ⟨code.length + rounds,all,last,size,whole,(after_add run rounds).trans ended⟩

/-! ### The whole call -/

/-- The data of a call is an encoding of the symbols, with the root of the tree
at the start of the table, and where the words go is memory apart from it. -/
structure HuffmanCall (memory : WideMemory Mem) (mem : Mem) (cpu : Cpu.armcpu_t)
    (tree : CodeTree u8) (symbols : List u8) : Prop where
  encoded : ∃ (treeSize : u8) (table : List u8) (words : List u32) (bits : List Bool),
    Laid table 0 false tree ∧ table.length = 2 * treeSize.toNat + 1 ∧
      (∀ root, table[0]? = some root → root &&& (0x3F : u8) = 0) ∧
      Encodes tree symbols bits ∧ InWords words bits ∧
      Placed memory.toPlainMemory mem (cpu.R 1 &&& ~~~3)
        (4 * (((memory._MMU_read32 mem (cpu.R 0) >>> 8).toNat + 3) / 4)) (cpu.R 0 + 4)
        (huffmanBytes treeSize table words)
  writable : Writable memory.toPlainMemory (cpu.R 1 &&& ~~~3)
    (4 * (((memory._MMU_read32 mem (cpu.R 0) >>> 8).toNat + 3) / 4))
  small : ∀ code symbol, Code tree code symbol →
    symbol.toNat < 2 ^ symbolWidth (memory._MMU_read32 mem (cpu.R 0))
  accepted : addressRefused (cpu.R 0 + 4) (memory._MMU_read32 mem (cpu.R 0)) = false

/-- The call returns; it has stored as many words as the size is long when
rounded up, and up to there they hold the symbols. -/
def Decodes (memory : WideMemory Mem) (mem : Mem) (cpu : Cpu.armcpu_t) (symbols : List u8) : Prop :=
  let header := memory._MMU_read32 mem (cpu.R 0)
  ∃ rounds all, UnCompHuffman memory.toWideBus rounds cpu mem =
      some (replay memory.toWideBus mem (placeWords (cpu.R 1)
        (Packing.words 32 (symbolWidth header) (all.map BitVec.toNat))), 1) ∧
    all.length = symbolCount header (header >>> 8).toNat ∧
      (symbols <+: all ∨ all <+: symbols)

theorem putOut_start (bus : WideBus Mem) (cpu : Cpu.armcpu_t) (mem : Mem) :
    PutOut bus mem (cpu.R 1) (bus._MMU_read32 mem (cpu.R 0) >>> 8).toNat width []
      (huffmanStart bus cpu mem).out := by
  have none : filled 32 width [] = 0 := by
    rw [filled,List.length_nil,Nat.mul_zero]
  have nothing : Packing.words 32 width [] = [] := by
    rw [Packing.words,none]
    rfl
  refine ⟨?_,?_,?_,rfl,?_,?_,Nat.two_pow_pos _,Nat.two_pow_pos _⟩
  · rw [nothing]
    rfl
  · rw [none]
    exact (BitVec.add_zero _).symm
  · rw [none]
    rfl
  · rw [used,List.length_nil,Nat.mul_zero]
    rfl
  · rw [rest,none]
    exact Nat.zero_div _

theorem huffmanStream_eq {cpu : Cpu.armcpu_t} {treeSize : u8}
    (read : bus._MMU_read08 mem (cpu.R 0 + 4) = treeSize)
    (size : table.length = 2 * treeSize.toNat + 1) :
    huffmanStream bus cpu mem = cpu.R 0 + 4 + 1 + BitVec.ofNat 32 table.length := by
  have bound := treeSize.isLt
  rw [huffmanStream,huffmanTable,read,size]
  congr 1
  apply BitVec.eq_of_toNat_eq
  rw [BitVec.toNat_sub,BitVec.toNat_shiftLeft,Nat.shiftLeft_eq,BitVec.toNat_add,
    BitVec.toNat_setWidth,BitVec.toNat_ofNat]
  change (2 ^ 32 - 1 + (treeSize.toNat % 2 ^ 32 + 1) % 2 ^ 32 * 2 ^ 1 % 2 ^ 32) % 2 ^ 32 = _
  omega

/-- With the stream at a multiple of four, `UnCompHuffman` undoes the encoding. -/
theorem huffman_undoes_encoding (memory : WideMemory Mem) (mem : Mem) (cpu : Cpu.armcpu_t)
    (tree : CodeTree u8) (symbols : List u8) (call : HuffmanCall memory mem cpu tree symbols)
    (aligned : (huffmanStream memory.toWideBus cpu mem).toNat % 4 = 0) :
    Decodes memory mem cpu symbols := by
  obtain ⟨treeSize,table,words,bits,laid,size,off,encoded,stored,placed⟩ := call.encoded
  have first : memory._MMU_read08 mem (cpu.R 0 + 4) = treeSize := by
    have here := (placed 0 (Nat.succ_pos _)).2.2
    rw [BitVec.add_zero] at here
    exact here
  have place : huffmanStream memory.toWideBus cpu mem =
      cpu.R 0 + 4 + 1 + BitVec.ofNat 32 table.length := huffmanStream_eq first size
  rw [place] at aligned
  have keeps : KeepsData memory.toWideBus mem (cpu.R 1) (cpu.R 0 + 4 + 1)
      (cpu.R 0 + 4 + 1 + BitVec.ofNat 32 table.length) table words
        (4 * (((memory._MMU_read32 mem (cpu.R 0) >>> 8).toNat + 3) / 4)) :=
    fun words room => huffmanData_of_placed (placed_stored placed call.writable room) aligned
  have data := keeps [] (Nat.zero_le _)
  obtain ⟨root,listed⟩ := laid.listed
  have rootNode : huffmanRoot memory.toWideBus cpu mem = root := by
    have byte := data.node 0 root listed
    rw [BitVec.add_zero] at byte
    exact byte
  have zeroOffset := off root listed
  rw [← rootNode] at listed zeroOffset
  have win : WindowAt (cpu.R 0 + 4 + 1 + BitVec.ofNat 32 table.length) words 0
      (huffmanStart memory.toWideBus cpu mem).window := by
    rw [← place] at data ⊢
    refine ⟨rfl,rfl,?_⟩
    intro word found
    have val := data.word 0 word found
    rw [Nat.mul_zero,BitVec.add_zero] at val
    exact val
  have bound := treeSize.isLt
  have empty : Fits (symbolWidth (memory._MMU_read32 mem (cpu.R 0)))
      (([] : List u8).map BitVec.toNat) := by
    intro val none
    cases none
  obtain ⟨rounds,all,position,n,follows,ended⟩ := decoding_run keeps (by omega) laid
    listed zeroOffset call.small stored _
    ⟨putOut_start memory.toWideBus cpu mem,rfl,win⟩
    (Or.inl ⟨symbols,[],bits,rfl,encoded,rfl,rfl⟩) empty (Nat.zero_add _)
  refine ⟨rounds,all,?_,n,?_⟩
  · have accepted : ¬addressRefused (cpu.R 0 + 4) (memory._MMU_read32 mem (cpu.R 0)) = true :=
      Bool.eq_false_iff.mp call.accepted
    have loop : UnCompHuffman memory.toWideBus rounds cpu mem =
        leftWith (after (huffmanLoop memory.toWideBus cpu mem) rounds
          (huffmanStart memory.toWideBus cpu mem)) := if_neg accepted
    rw [loop]
    exact leftWith_eq_some.mpr ended
  · rcases follows with ⟨remaining,_,_,split,_⟩ | more
    · exact Or.inr ⟨remaining,split.symm⟩
    · exact Or.inl more

theorem UnCompHuffman_unique {cpu : Cpu.armcpu_t} {first second : Nat} {left right : Mem × u32}
    (leftIn : UnCompHuffman bus first cpu mem = some left)
    (rightIn : UnCompHuffman bus second cpu mem = some right) : left = right := by
  unfold UnCompHuffman at leftIn rightIn
  by_cases refused : addressRefused (cpu.R 0 + 4) (bus._MMU_read32 mem (cpu.R 0)) = true
  · rw [if_pos refused] at leftIn rightIn
    exact Option.some.inj (leftIn.symm.trans rightIn)
  · rw [if_neg refused] at leftIn rightIn
    exact result_unique (leftWith_eq_some.mp leftIn) (leftWith_eq_some.mp rightIn)

end

/-- Main memory with four bytes of 8-bit data behind their header. -/
def huffmanMemory (treeSize : u8) (table : List u8) (words : List u32) : IoMem :=
  loaded 0x100000 ([0x28,4,0,0] ++ huffmanBytes treeSize table words)

theorem huffmanMemory_header (treeSize : u8) (table : List u8) (words : List u32) :
    mainWide._MMU_read32 (huffmanMemory treeSize table words) 0x02100000 = 0x00000428 := by
  have place : mainIndex ((0x02100000 : u32) &&& ~~~3) = 0x100000 := by decide
  have inside : inMainMemory 0x02100000 := by decide
  change (if inMainMemory 0x02100000 then T1ReadLong _ (mainIndex ((0x02100000 : u32) &&& ~~~3))
    else 0) = _
  have byte (i : Nat) : huffmanMemory treeSize table words (0x100000 + i) =
      ([0x28,4,0,0] ++ huffmanBytes treeSize table words).getD i 0 := by
    rw [huffmanMemory,loaded,if_pos (Nat.le_add_right _ _),Nat.add_sub_cancel_left]
  rw [if_pos inside,place,T1ReadLong,T1ReadWord,T1ReadWord,byte 3,byte 2,byte 1,byte 0]
  simp only [List.cons_append,List.getD_cons_zero,List.getD_cons_succ]
  rfl

theorem huffmanMemory_call {treeSize : u8} {table : List u8} {words : List u32}
    {tree : CodeTree u8} {symbols : List u8} {bits : List Bool}
    (laid : Laid table 0 false tree) (size : table.length = 2 * treeSize.toNat + 1)
    (off : ∀ root, table[0]? = some root → root &&& (0x3F : u8) = 0)
    (encoded : Encodes tree symbols bits) (stored : InWords words bits)
    (short : (huffmanBytes treeSize table words).length ≤ 0x1000) :
    HuffmanCall mainWide (huffmanMemory treeSize table words) (called 0x02100000 0x02000000) tree
      symbols := by
  have header := huffmanMemory_header treeSize table words
  have total : 4 * (((mainWide._MMU_read32 (huffmanMemory treeSize table words)
      ((called 0x02100000 0x02000000).R 0) >>> 8).toNat + 3) / 4) = 4 := by
    change 4 * (((mainWide._MMU_read32 (huffmanMemory treeSize table words)
      0x02100000 >>> 8).toNat + 3) / 4) = 4
    rw [header]
    rfl
  constructor
  · refine ⟨treeSize,table,words,bits,laid,size,off,encoded,stored,?_⟩
    rw [total]
    have placed := @loaded_placed 0x02100000 0x02000000 4
      ([0x28,4,0,0] ++ huffmanBytes treeSize table words) (by decide)
      (by rw [List.length_append]; change 0x02100000 + (4 + _) ≤ _; omega) (by decide)
    exact placed.drop
  · rw [total]
    exact main_writable (by decide) (by decide)
  · intro code symbol followed
    change symbol.toNat < 2 ^ symbolWidth (mainWide._MMU_read32 _ 0x02100000)
    rw [header]
    exact symbol.isLt
  · change addressRefused 0x02100004 (mainWide._MMU_read32 _ 0x02100000) = false
    rw [header]
    rfl

/-- The stream of a tree with two leaves starts at a multiple of four. -/
theorem huffman_undoes_two_symbols :
    Decodes mainWide (huffmanMemory 1 [0xC0,0x41,0x42] [0x60000000])
      (called 0x02100000 0x02000000) [0x41,0x42,0x42,0x41] := by
  have laid : Laid [0xC0,0x41,0x42] 0 false (.node (.leaf 0x41) (.leaf 0x42)) :=
    .node rfl (.leaf rfl) (.leaf rfl)
  have encoded : Encodes (.node (.leaf 0x41) (.leaf 0x42)) [(0x41 : u8),0x42,0x42,0x41]
      ([false] ++ ([true] ++ ([true] ++ ([false] ++ [])))) :=
    .cons (.left (.leaf _)) (.cons (.right (.leaf _)) (.cons (.right (.leaf _))
      (.cons (.left (.leaf _)) .nil)))
  have stored : InWords [0x60000000] ([false] ++ ([true] ++ ([true] ++ ([false] ++ [])))) := by
    intro i inside
    change i < 4 at inside
    interval_cases i
    all_goals exact ⟨0x60000000,rfl,rfl⟩
  exact huffman_undoes_encoding mainWide _ _ _ _
    (huffmanMemory_call laid rfl (by rintro root ⟨⟩; rfl) encoded stored (by decide)) (by decide)

/-- That of a tree with three leaves does not: the bits are taken from two bytes
before. -/
theorem huffman_misaligned_stream :
    ∃ tree : CodeTree u8,
      HuffmanCall mainWide (huffmanMemory 2 [0x80,0x41,0xC0,0x42,0x43] [0xAA000000])
        (called 0x02100000 0x02000000) tree [0x42,0x42,0x42,0x42] ∧
      ¬Decodes mainWide (huffmanMemory 2 [0x80,0x41,0xC0,0x42,0x43] [0xAA000000])
        (called 0x02100000 0x02000000) [0x42,0x42,0x42,0x42] := by
  have laid : Laid [0x80,0x41,0xC0,0x42,0x43] 0 false
      (.node (.leaf 0x41) (.node (.leaf 0x42) (.leaf 0x43))) :=
    .node rfl (.leaf rfl) (.node rfl (.leaf rfl) (.leaf rfl))
  have second : Code (.node (.leaf (0x41 : u8)) (.node (.leaf 0x42) (.leaf 0x43)))
      [true,false] 0x42 :=
    .right (.left (.leaf _))
  have encoded : Encodes (.node (.leaf 0x41) (.node (.leaf 0x42) (.leaf 0x43)))
      [(0x42 : u8),0x42,0x42,0x42]
      ([true,false] ++ ([true,false] ++ ([true,false] ++ ([true,false] ++ [])))) :=
    .cons second (.cons second (.cons second (.cons second .nil)))
  have stored : InWords [0xAA000000]
      ([true,false] ++ ([true,false] ++ ([true,false] ++ ([true,false] ++ [])))) := by
    intro i inside
    change i < 8 at inside
    interval_cases i
    all_goals exact ⟨0xAA000000,rfl,rfl⟩
  refine ⟨_,huffmanMemory_call laid rfl (by rintro root ⟨⟩; rfl) encoded stored (by decide),?_⟩
  rintro ⟨rounds,all,run,n,symbols⟩
  have header := huffmanMemory_header 2 [0x80,0x41,0xC0,0x42,0x43] [0xAA000000]
  change mainWide._MMU_read32 _ ((called 0x02100000 0x02000000).R 0) = _ at header
  rw [header] at run n
  have size : all.length = 4 := n
  have same : all = [0x42,0x42,0x42,0x42] := by
    rcases symbols with begins | begins
    · exact (begins.eq_of_length size.symm).symm
    · exact begins.eq_of_length size
  rw [same] at run
  have first : (UnCompHuffman mainWide.toWideBus 5 (called 0x02100000 0x02000000)
      (huffmanMemory 2 [0x80,0x41,0xC0,0x42,0x43] [0xAA000000])).map (fun out => out.1 0) =
        some 0x41 := by
    decide +kernel
  obtain ⟨out,early,byte⟩ := Option.map_eq_some_iff.mp first
  rw [UnCompHuffman_unique early run] at byte
  exact absurd byte (by decide +kernel)

end Desmume.Bios
