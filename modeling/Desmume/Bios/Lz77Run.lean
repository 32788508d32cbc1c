/-
LZ77 decompression puts out the expansion of its stream.

One lemma for a byte, one for a copy, one for a token; the run is by induction
on the stream.
-/

import Desmume.Bios.Lz77

namespace Desmume.Bios

section

variable {Mem State : Type} {memory : PlainMemory Mem} {sink : Sink Mem State} {lag : Nat}
  {mem : Mem} {dest : u32} {total : Nat} (trace : Trace memory sink lag mem dest total)
  {done : List u8}

variable {out : State} {bytes : List u8} {len : Nat} {source : u32} {d : u8}

theorem Trace.read_placed (held : trace.Holds done out) (bound : done.length ≤ total)
    (placed : Placed memory mem dest total source bytes) (i : Nat) (inside : i < bytes.length) :
    memory._MMU_read08 (sink.mem out) (source + BitVec.ofNat 32 i) = bytes[i] := by
  obtain ⟨readable,apart,val⟩ := placed i inside
  exact (trace.frame done out held bound _ readable apart).trans val

theorem Trace.read_head (held : trace.Holds done out) (bound : done.length ≤ total) {byte : u8}
    (placed : Placed memory mem dest total source (byte :: bytes)) :
    memory._MMU_read08 (sink.mem out) source = byte := by
  have first := trace.read_placed held bound placed 0 (Nat.zero_lt_succ _)
  rw [BitVec.add_zero] at first
  exact first

/-- A loop over `len` ended by `return 0` or left with fewer bytes to go. -/
def Trace.Ended (done : List u8) {Rest : Type} (rest : Rest → State → Nat → Prop) :
    Except State Rest → Prop
  | .error out => trace.Holds (done.take total) out ∧ total ≤ done.length
  | .ok val => ∃ out len, rest val out len ∧ trace.Holds done out ∧ 0 < len ∧
      done.length + len = total

theorem Trace.ended_append {Rest Other : Type} {rest : Rest → State → Nat → Prop} {stopped : State}
    (ended : trace.Ended done rest (.error stopped)) (other : Other → State → Nat → Prop)
    (more : List u8) : trace.Ended (done ++ more) other (.error stopped) := by
  obtain ⟨held,enough⟩ := ended
  refine ⟨?_,by rw [List.length_append]; omega⟩
  rw [List.take_append_of_le_length enough]
  exact held

theorem Trace.putByte_ended
    (held : trace.Holds done out) (open' : 0 < len) (left : done.length + len = total) (byte : u8) :
    trace.Ended (done ++ [byte]) (fun val out len => val = (out, len))
      (putByte sink out byte len) := by
  have next := trace.emit done out byte held (by omega)
  have size : (done ++ [byte]).length = done.length + 1 := by
    rw [List.length_append,List.length_singleton]
  unfold putByte
  split
  · refine ⟨?_,by omega⟩
    rw [List.take_of_length_le (by omega)]
    exact next
  · exact ⟨_,_,rfl,next,by omega,by omega⟩

theorem Trace.read_window (short : total ≤ 2 ^ 24) {done : List u8}
    (held : trace.Holds done out) (bound : done.length ≤ total) {distance : Nat}
    (far : lag < distance) (near : distance ≤ 2 ^ 12)
    (readable : ∀ back, 1 ≤ back → back + done.length ≤ distance →
      memory.cell (dest - BitVec.ofNat 32 back)) :
    memory._MMU_read08 (sink.mem out)
        (dest + BitVec.ofNat 32 done.length - BitVec.ofNat 32 distance) =
      lookBack (bytesBefore memory mem dest) done distance := by
  unfold lookBack
  split
  · next inside =>
      have addr : dest + BitVec.ofNat 32 done.length - BitVec.ofNat 32 distance =
          dest + BitVec.ofNat 32 (done.length - distance) := by
        apply BitVec.eq_of_toNat_eq
        simp only [BitVec.toNat_sub,BitVec.toNat_add,BitVec.toNat_ofNat]
        omega
      have early : done.length - distance < done.length := by omega
      rw [addr,trace.readBack done out held bound _ early (by omega),List.getD_eq_getElem]
  · next outside =>
      have addr : dest + BitVec.ofNat 32 done.length - BitVec.ofNat 32 distance =
          dest - BitVec.ofNat 32 (distance - done.length) := by
        apply BitVec.eq_of_toNat_eq
        simp only [BitVec.toNat_sub,BitVec.toNat_add,BitVec.toNat_ofNat]
        omega
      rw [addr]
      refine trace.frame done out held bound _ (readable _ (by omega) (by omega)) ?_
      intro i inside same
      have values := congrArg BitVec.toNat same
      simp only [BitVec.toNat_sub,BitVec.toNat_add,BitVec.toNat_ofNat] at values
      omega

theorem Trace.copyLoop_ended (short : total ≤ 2 ^ 24) {distance : Nat} (far : lag < distance)
    (near : distance ≤ 2 ^ 12) (n : Nat) {done : List u8}
    (held : trace.Holds done out) (unfinished : 0 < len) (left : done.length + len = total)
    (readable : ∀ back, 1 ≤ back → back + done.length ≤ distance →
      memory.cell (dest - BitVec.ofNat 32 back)) :
    trace.Ended (copyBytes (bytesBefore memory mem dest) distance n done)
      (fun val out len => val = (out, len))
      (copyLoop memory.toBus sink n
        (dest + BitVec.ofNat 32 done.length - BitVec.ofNat 32 distance) out len) := by
  induction n generalizing done out len with
  | zero => exact ⟨out,len,rfl,held,unfinished,left⟩
  | succ n ih =>
      have win := trace.read_window short held (by omega) far near readable
      have put := trace.putByte_ended held unfinished left
        (lookBack (bytesBefore memory mem dest) done distance)
      rw [copyLoop,copyBytes,win]
      cases res : putByte sink out (lookBack (bytesBefore memory mem dest) done distance)
          len with
      | error stopped =>
          rw [res] at put
          obtain ⟨more,extended,size⟩ := copyBytes_extends (bytesBefore memory mem dest)
            distance n (done ++ [lookBack (bytesBefore memory mem dest) done distance])
          rw [extended]
          exact trace.ended_append put _ more
      | ok val =>
          rw [res] at put
          obtain ⟨next,less,rfl,held,unfinished,left⟩ := put
          have size : (done ++ [lookBack (bytesBefore memory mem dest) done distance]).length =
              done.length + 1 := by
            rw [List.length_append,List.length_singleton]
          have moved : dest + BitVec.ofNat 32 done.length - BitVec.ofNat 32 distance + 1 =
              dest + BitVec.ofNat 32
                (done ++ [lookBack (bytesBefore memory mem dest) done distance]).length -
                BitVec.ofNat 32 distance := by
            rw [size,← next_cursor]
            bv_omega
          change trace.Ended _ _ (copyLoop _ _ _ (_ + 1) _ _)
          rw [moved]
          exact ih held unfinished left (fun back one far => readable back one (by omega))

def resume (bus : Bus Mem) (sink : Sink Mem State) (left : Nat) (d : u8) (source : u32)
    (out : State) (len : Nat) : State × u32 :=
  match flagLoop bus sink left d source out len with
  | .error out => (out, 0)
  | .ok (source, out, len) => lz77Loop bus sink source out len

variable (bus : Bus Mem)

theorem literalLoop_eq (sink : Sink Mem State) (left : Nat) (source : u32)
    (out : State) (len : Nat) :
    literalLoop bus sink left source out len = flagLoop bus sink left 0 source out len := by
  induction left generalizing source out len with
  | zero => rfl
  | succ left ih =>
      rw [literalLoop,flagLoop,if_neg (by simp)]
      cases putByte sink out (bus._MMU_read08 (sink.mem out) source) len with
      | error stopped => rfl
      | ok val => exact ih (source + 1) val.1 val.2

theorem lz77Loop_eq (sink : Sink Mem State) (source : u32) (out : State) (unfinished : 0 < len) :
    lz77Loop bus sink source out len =
      resume bus sink 8 (bus._MMU_read08 (sink.mem out) source) (source + 1) out len := by
  rw [lz77Loop,if_pos unfinished]
  have group : lz77Group bus sink source out len =
      flagLoop bus sink 8 (bus._MMU_read08 (sink.mem out) source) (source + 1) out len := by
    simp only [lz77Group]
    split
    · rfl
    · next zero =>
        have zero : bus._MMU_read08 (sink.mem out) source = 0 := not_not.mp zero
        rw [literalLoop_eq,zero]
  unfold resume
  rw [← group]
  cases lz77Group bus sink source out len with
  | error stopped => rfl
  | ok val => rfl

theorem resume_literal (sink : Sink Mem State) (left : Nat)
    (unset : ¬ d &&& (0x80 : u8) ≠ 0) (source : u32) (out : State) (len : Nat) :
    resume bus sink (left + 1) d source out len =
      match putByte sink out (bus._MMU_read08 (sink.mem out) source) len with
      | .error out => (out, 0)
      | .ok (out, len) => resume bus sink left (d <<< 1) (source + 1) out len := by
  unfold resume
  rw [flagLoop,if_neg unset]
  cases putByte sink out (bus._MMU_read08 (sink.mem out) source) len with
  | error stopped => rfl
  | ok val => rfl

variable (extra : BitVec 4)

variable (off : BitVec 12)

theorem copy_data :
    ((extra ++ off.extractLsb' 8 4 : u8).setWidth 16 <<< 8 : u16) |||
      (off.extractLsb' 0 8).setWidth 16 = extra ++ off := by
  apply BitVec.eq_of_getLsbD_eq
  intro i bound
  simp only [BitVec.getLsbD_or,BitVec.getLsbD_shiftLeft,BitVec.getLsbD_setWidth,
    BitVec.getLsbD_append,BitVec.getLsbD_extractLsb']
  interval_cases i <;> simp

theorem copy_length : ((extra ++ off : u16) >>> 12).toNat = extra.toNat := by
  rw [BitVec.toNat_ushiftRight,BitVec.toNat_append,Nat.shiftRight_eq_div_pow,
    ← Nat.shiftLeft_add_eq_or_of_lt off.isLt,Nat.shiftLeft_eq]
  omega

theorem copy_offset :
    ((extra ++ off : u16) &&& 0x0FFF).setWidth 32 = BitVec.ofNat 32 off.toNat := by
  rw [BitVec.ofNat_toNat]
  apply BitVec.eq_of_getLsbD_eq
  intro i bound
  simp only [BitVec.getLsbD_and,BitVec.getLsbD_setWidth,BitVec.getLsbD_append]
  interval_cases i <;> simp

theorem copy_window (cursor : u32) (off : BitVec 12) :
    cursor - BitVec.ofNat 32 off.toNat - 1 = cursor - BitVec.ofNat 32 (off.toNat + 1) := by
  rw [BitVec.ofNat_add]
  bv_omega

theorem resume_copy (sink : Sink Mem State) (left : Nat)
    (set : d &&& (0x80 : u8) ≠ 0) (source : u32) (out : State) (len : Nat) (extra : BitVec 4)
    (off : BitVec 12)
    (high : bus._MMU_read08 (sink.mem out) source = extra ++ off.extractLsb' 8 4)
    (low : bus._MMU_read08 (sink.mem out) (source + 1) = off.extractLsb' 0 8) :
    resume bus sink (left + 1) d source out len =
      match copyLoop bus sink (extra.toNat + 3)
          (sink.cursor out - BitVec.ofNat 32 (off.toNat + 1)) out len with
      | .error out => (out, 0)
      | .ok (out, len) => resume bus sink left (d <<< 1) (source + 2) out len := by
  unfold resume
  rw [flagLoop,if_pos set]
  simp only [high,low,copy_data,copy_length,copy_offset,copy_window]
  cases copyLoop bus sink (extra.toNat + 3)
      (sink.cursor out - BitVec.ofNat 32 (off.toNat + 1)) out len with
  | error stopped => rfl
  | ok val => rfl

def putToken (bus : Bus Mem) (sink : Sink Mem State) (out : State) (len : Nat) :
    Token → Except State (State × Nat)
  | .literal byte => putByte sink out byte len
  | .copy extra off =>
      copyLoop bus sink (extra.toNat + 3) (sink.cursor out - BitVec.ofNat 32 (off.toNat + 1))
        out len

theorem Trace.putToken_ended (short : total ≤ 2 ^ 24) (token : Token) {done : List u8}
    (held : trace.Holds done out) (unfinished : 0 < len)
    (remaining : done.length + len = total)
    (readable : Readable memory dest done.length [token]) (distant : Distant lag [token]) :
    trace.Ended (token.onto (bytesBefore memory mem dest) done)
      (fun val out len => val = (out, len)) (putToken memory.toBus sink out len token) := by
  cases token with
  | literal byte => exact trace.putByte_ended held unfinished remaining byte
  | copy extra off =>
      have far : lag < off.toNat + 1 := distant extra off (List.mem_singleton.mpr rfl)
      have near := off.isLt
      cases readable with
      | copy size extra off rest cells later =>
          have copied := trace.copyLoop_ended short far (by omega) (extra.toNat + 3) held
            unfinished remaining cells
          rw [← trace.cursor done out held] at copied
          exact copied

theorem Trace.resume_token (left : Nat) (token : Token)
    (flag : d &&& (0x80 : u8) ≠ 0 ↔ token.isCopy = true)
    {done : List u8} (len : Nat) (held : trace.Holds done out)
    (bound : done.length ≤ total)
    (placed : Placed memory mem dest total source (token.bytes ++ bytes)) :
    resume memory.toBus sink (left + 1) d source out len =
      match putToken memory.toBus sink out len token with
      | .error out => (out, 0)
      | .ok (out, len) => resume memory.toBus sink left (d <<< 1)
          (source + BitVec.ofNat 32 token.bytes.length) out len := by
  cases token with
  | literal byte =>
      have unset : ¬ d &&& (0x80 : u8) ≠ 0 := fun set => Bool.noConfusion (flag.mp set)
      rw [resume_literal _ _ _ unset,trace.read_head held bound placed]
      rfl
  | copy extra off =>
      have high := trace.read_head held bound placed
      have low := trace.read_head held bound placed.tail
      exact resume_copy memory.toBus sink left (flag.mpr rfl) source out len extra off high low

theorem Readable.head {token : Token} {size : Nat} {rest : List Token}
    (readable : Readable memory dest size (token :: rest)) : Readable memory dest size [token] := by
  cases readable with
  | literal size byte rest later => exact .literal size byte [] (.nil _)
  | copy size extra off rest cells later => exact .copy size extra off [] cells (.nil _)

theorem Readable.tail {token : Token} {before : Nat → u8} {done : List u8} {rest : List Token}
    (readable : Readable memory dest done.length (token :: rest)) :
    Readable memory dest (token.onto before done).length rest := by
  cases readable with
  | literal size byte rest later =>
      rw [Token.onto,List.length_append]
      exact later
  | copy size extra off rest cells later =>
      obtain ⟨more,extended,size⟩ :=
        copyBytes_extends before (off.toNat + 1) (extra.toNat + 3) done
      rw [Token.onto,extended,List.length_append,size]
      exact later

theorem Trace.resume_stream (short : total ≤ 2 ^ 24) {left : Nat} {d : u8} {bytes : List u8}
    {tokens : List Token} (stream : Stream left d bytes tokens) {source : u32}
    {done : List u8} {out : State} {len : Nat} (held : trace.Holds done out)
    (unfinished : 0 < len) (remaining : done.length + len = total)
    (placed : Placed memory mem dest total source bytes)
    (readable : Readable memory dest done.length tokens) (distant : Distant lag tokens)
    (enough : total ≤ (expandOnto (bytesBefore memory mem dest) done tokens).length) :
    ∃ last, resume memory.toBus sink left d source out len = (last, 0) ∧
      trace.Holds ((expandOnto (bytesBefore memory mem dest) done tokens).take total) last := by
  induction stream generalizing source done out len with
  | stop left d bytes =>
      rw [expandOnto] at enough
      omega
  | flags d used bytes tokens rest ih =>
      have group : resume memory.toBus sink 0 used source out len =
          resume memory.toBus sink 8 d (source + 1) out len := by
        have head := trace.read_head held (by omega) placed
        rw [← head,← lz77Loop_eq _ _ _ _ unfinished]
        rfl
      rw [group]
      exact ih held unfinished remaining placed.tail readable distant enough
  | token left d token bytes tokens flag rest ih =>
      have ended := trace.putToken_ended short token held unfinished remaining readable.head
        (fun extra off found => distant extra off (List.mem_cons.mpr
          (Or.inl (List.mem_singleton.mp found))))
      rw [trace.resume_token left token flag len held (by omega) placed,expandOnto]
      cases res : putToken memory.toBus sink out len token with
      | error stopped =>
          rw [res] at ended
          obtain ⟨last,reached⟩ := ended
          refine ⟨stopped,rfl,?_⟩
          rw [take_expandOnto _ reached]
          exact last
      | ok val =>
          rw [res] at ended
          obtain ⟨next,less,rfl,held,unfinished,remaining⟩ := ended
          exact ih held unfinished remaining placed.drop readable.tail
            (fun extra off found => distant extra off (List.mem_cons_of_mem _ found))
            enough

theorem Trace.lz77_stream {cpu : Cpu.armcpu_t} (trace : Trace memory sink lag mem (cpu.R 1) total)
    (size : total = (memory._MMU_read32 mem (cpu.R 0) >>> 8).toNat) (positive : 0 < total)
    (accepted : addressRefused (cpu.R 0 + 4) (memory._MMU_read32 mem (cpu.R 0)) = false)
    {bytes : List u8} {tokens : List Token} (stream : Stream 0 0 bytes tokens)
    (placed : Placed memory mem (cpu.R 1) total (cpu.R 0 + 4) bytes)
    (readable : Readable memory (cpu.R 1) 0 tokens) (distant : Distant lag tokens)
    (enough : total ≤ (expandOnto (bytesBefore memory mem (cpu.R 1)) [] tokens).length) :
    ∃ last, LZ77UnComp memory.toBus sink cpu mem = (sink.mem last, 0) ∧
      trace.Holds ((expandOnto (bytesBefore memory mem (cpu.R 1)) [] tokens).take total) last := by
  have short : total ≤ 2 ^ 24 := by
    have bound := (memory._MMU_read32 mem (cpu.R 0)).isLt
    rw [size,BitVec.toNat_ushiftRight,Nat.shiftRight_eq_div_pow]
    omega
  obtain ⟨last,run,held⟩ := trace.resume_stream short stream trace.start positive
    (Nat.zero_add total) placed readable distant enough
  have loop : lz77Loop memory.toBus sink (cpu.R 0 + 4) (sink.start mem (cpu.R 1)) total =
      (last, 0) := run
  refine ⟨last,?_,held⟩
  simp only [LZ77UnComp,accepted,← size,loop]
  rfl

end

end Desmume.Bios
