/-
Run-length decompression, and that the VRAM functions agree with the WRAM ones.

`RLUnCompWram` and `RLUnCompVram` are again one function of a sink. A stream is
a list of chunks.
-/

import Desmume.Bios.Encoding

namespace Desmume.Bios

section

variable {Mem State : Type}

/-- The loop that writes `data`, with `count` iterations to go. -/
def repeatLoop (sink : Sink Mem State) (data : u8) : Nat → State → Nat → Except State (State × Nat)
  | 0, out, len => .ok (out, len)
  | count + 1, out, len =>
      match putByte sink out data len with
      | .error out => .error out
      | .ok (out, len) => repeatLoop sink data count out len

variable (bus : Bus Mem)

def rlChunk (sink : Sink Mem State) (source : u32) (out : State) (len : Nat) :
    Except State (u32 × State × Nat) :=
  let d := bus._MMU_read08 (sink.mem out) source
  let l := (d &&& (0x7F : u8)).toNat
  if d &&& (0x80 : u8) ≠ 0 then
    let data := bus._MMU_read08 (sink.mem out) (source + 1)
    match repeatLoop sink data (l + 3) out len with
    | .error out => .error out
    | .ok (out, len) => .ok (source + 2, out, len)
  else literalLoop bus sink (l + 1) (source + 1) out len

variable {out : State} {len : Nat} {done : List u8} {source : u32}

theorem repeatLoop_shrinks {sink : Sink Mem State} {data : u8} {n : Nat} {next : State}
    {less : Nat} (repeated : repeatLoop sink data n out len = .ok (next, less)) :
    less + n ≤ len := by
  induction n generalizing out len with
  | zero =>
      cases repeated
      exact Nat.le_refl _
  | succ n ih =>
      rw [repeatLoop] at repeated
      split at repeated
      · cases repeated
      · next put =>
          have first := putByte_shrinks put
          have later := ih repeated
          omega

theorem rlChunk_shrinks {bus : Bus Mem} {sink : Sink Mem State} {after : u32}
    {next : State} {less : Nat}
    (passed : rlChunk bus sink source out len = .ok (after, next, less)) : less < len := by
  simp only [rlChunk] at passed
  split at passed
  · split at passed
    · cases passed
    · next repeated =>
        have shrinks := repeatLoop_shrinks repeated
        cases passed
        omega
  · have shrinks := literalLoop_shrinks passed
    omega

def rlLoop (bus : Bus Mem) (sink : Sink Mem State) (source : u32) (out : State) (len : Nat) :
    State × u32 :=
  if len > 0 then
    match _passed : rlChunk bus sink source out len with
    | .error out => (out, 0)
    | .ok (source, out, len) => rlLoop bus sink source out len
  else (out, 1)
termination_by len
decreasing_by exact rlChunk_shrinks ‹_›

/-- Both run-length functions, from `R0` and `R1`. -/
def RLUnComp (sink : Sink Mem State) (cpu : Cpu.armcpu_t) (mem : Mem) : Mem × u32 :=
  let source := cpu.R 0
  let dest := cpu.R 1
  let header := bus._MMU_read32 mem source
  let source := source + 4
  if addressRefused source header then (mem, 0)
  else
    let res := rlLoop bus sink source (sink.start mem dest) (header >>> 8).toNat
    (sink.mem res.1, res.2)

def RLUnCompWram (cpu : Cpu.armcpu_t) (mem : Mem) : Mem × u32 :=
  RLUnComp bus (wramSink bus) cpu mem

def RLUnCompVram (cpu : Cpu.armcpu_t) (mem : Mem) : Mem × u32 :=
  RLUnComp bus (vramSink bus) cpu mem

/-- `extra + 3` times a byte, or `more + 1` bytes as they are. -/
inductive Chunk
  | repeated (extra : BitVec 7) (byte : u8)
  | plain (more : BitVec 7) (bytes : List u8) (size : bytes.length = more.toNat + 1)

namespace Chunk

def bytes : Chunk → List u8
  | repeated extra byte => [(1 : BitVec 1) ++ extra,byte]
  | plain more bytes _ => ((0 : BitVec 1) ++ more : u8) :: bytes

def output : Chunk → List u8
  | repeated extra byte => List.replicate (extra.toNat + 3) byte
  | plain _ bytes _ => bytes

end Chunk

theorem chunk_flag (flag : BitVec 1) (length : BitVec 7) :
    ((flag ++ length : u8) &&& (0x80 : u8) ≠ 0 ↔ flag = 1) ∧
      (flag ++ length : u8) &&& (0x7F : u8) = length.setWidth 8 := by
  constructor
  · change (flag ++ length : u8) &&& BitVec.twoPow 8 7 ≠ 0 ↔ _
    rw [and_twoPow_ne_zero _ 7 (by omega),BitVec.getLsbD_append]
    obtain rfl | rfl := BitVec.eq_zero_or_eq_one flag
    · simp
    · simp
  · apply BitVec.eq_of_getLsbD_eq
    intro i bound
    simp only [BitVec.getLsbD_and,BitVec.getLsbD_setWidth,BitVec.getLsbD_append]
    interval_cases i <;> simp

variable {memory : PlainMemory Mem} {sink : Sink Mem State} {lag : Nat} {mem : Mem} {dest : u32}
  {total : Nat} (trace : Trace memory sink lag mem dest total)

theorem Trace.repeatLoop_ended (data : u8) (n : Nat) (held : trace.Holds done out)
    (unfinished : 0 < len)
    (remaining : done.length + len = total) :
    trace.Ended (done ++ List.replicate n data) (fun val out len => val = (out, len))
      (repeatLoop sink data n out len) := by
  induction n generalizing done out len with
  | zero =>
      rw [List.replicate_zero,List.append_nil]
      exact ⟨out,len,rfl,held,unfinished,remaining⟩
  | succ n ih =>
      have put := trace.putByte_ended held unfinished remaining data
      rw [repeatLoop,List.replicate_succ,List.append_cons]
      cases res : putByte sink out data len with
      | error stopped =>
          rw [res] at put
          exact trace.ended_append put _ _
      | ok val =>
          rw [res] at put
          obtain ⟨next,less,rfl,held,unfinished,remaining⟩ := put
          exact ih held unfinished remaining

theorem Trace.literalLoop_ended (bytes : List u8) {rest : List u8} (held : trace.Holds done out)
    (unfinished : 0 < len) (remaining : done.length + len = total)
    (placed : Placed memory mem dest total source (bytes ++ rest)) :
    trace.Ended (done ++ bytes)
      (fun val out len => val = (source + BitVec.ofNat 32 bytes.length, out, len))
      (literalLoop memory.toBus sink bytes.length source out len) := by
  induction bytes generalizing source done out len with
  | nil =>
      rw [List.append_nil]
      exact ⟨out,len,by rw [List.length_nil,BitVec.add_zero],held,unfinished,remaining⟩
  | cons byte bytes ih =>
      have put := trace.putByte_ended held unfinished remaining byte
      rw [List.length_cons,literalLoop,trace.read_head held (by omega) placed,List.append_cons]
      cases res : putByte sink out byte len with
      | error stopped =>
          rw [res] at put
          exact trace.ended_append put _ _
      | ok val =>
          rw [res] at put
          obtain ⟨next,less,rfl,held,unfinished,remaining⟩ := put
          have later := ih held unfinished remaining placed.tail
          rw [next_base] at later
          exact later

theorem Trace.rlChunk_ended (chunk : Chunk) {rest : List u8} (held : trace.Holds done out)
    (unfinished : 0 < len)
    (remaining : done.length + len = total)
    (placed : Placed memory mem dest total source (chunk.bytes ++ rest)) :
    trace.Ended (done ++ chunk.output)
      (fun val out len => val = (source + BitVec.ofNat 32 chunk.bytes.length, out, len))
      (rlChunk memory.toBus sink source out len) := by
  cases chunk with
  | repeated extra byte =>
      have set := (chunk_flag 1 extra).1.mpr rfl
      have head := trace.read_head held (by omega) placed
      have data := trace.read_head held (by omega) placed.tail
      have n : (extra.setWidth 8).toNat = extra.toNat := by
        rw [BitVec.toNat_setWidth]
        omega
      have ended := trace.repeatLoop_ended byte (extra.toNat + 3) held unfinished remaining
      simp only [rlChunk,head,data,(chunk_flag 1 extra).2,n,if_pos set]
      cases res : repeatLoop sink byte (extra.toNat + 3) out len with
      | error stopped =>
          rw [res] at ended
          exact ended
      | ok val =>
          rw [res] at ended
          obtain ⟨next,less,rfl,held,unfinished,remaining⟩ := ended
          exact ⟨next,less,rfl,held,unfinished,remaining⟩
  | plain more bytes size =>
      have unset : ¬ ((0 : BitVec 1) ++ more : u8) &&& (0x80 : u8) ≠ 0 := by
        intro set
        exact absurd ((chunk_flag 0 more).1.mp set) (by decide)
      have head := trace.read_head held (by omega) placed
      have n : (more.setWidth 8).toNat = more.toNat := by
        rw [BitVec.toNat_setWidth]
        omega
      have ended := trace.literalLoop_ended bytes held unfinished remaining placed.tail
      simp only [rlChunk,head,(chunk_flag 0 more).2,n,if_neg unset]
      rw [next_base,size] at ended
      rw [Chunk.bytes,List.length_cons,size]
      exact ended

theorem Trace.rlLoop_chunks (chunks : List Chunk) (held : trace.Holds done out)
    (unfinished : 0 < len)
    (remaining : done.length + len = total)
    (placed : Placed memory mem dest total source (chunks.flatMap Chunk.bytes))
    (enough : total ≤ (done ++ chunks.flatMap Chunk.output).length) :
    ∃ last, rlLoop memory.toBus sink source out len = (last, 0) ∧
      trace.Holds ((done ++ chunks.flatMap Chunk.output).take total) last := by
  induction chunks generalizing source done out len with
  | nil =>
      rw [List.flatMap_nil,List.append_nil] at enough
      omega
  | cons chunk rest ih =>
      rw [List.flatMap_cons] at placed enough
      rw [List.flatMap_cons,← List.append_assoc]
      have ended := trace.rlChunk_ended chunk held unfinished remaining placed
      rw [rlLoop,if_pos unfinished]
      cases res : rlChunk memory.toBus sink source out len with
      | error stopped =>
          rw [res] at ended
          have last := trace.ended_append ended (fun (_ : Unit) _ _ => True)
            (rest.flatMap Chunk.output)
          exact ⟨stopped,rfl,last.1⟩
      | ok val =>
          rw [res] at ended
          obtain ⟨next,less,rfl,held,unfinished,remaining⟩ := ended
          exact ih held unfinished remaining placed.drop (by rw [List.append_assoc]; exact enough)

theorem Trace.rl_chunks {cpu : Cpu.armcpu_t} (trace : Trace memory sink lag mem (cpu.R 1) total)
    (size : total = (memory._MMU_read32 mem (cpu.R 0) >>> 8).toNat) (positive : 0 < total)
    (accepted : addressRefused (cpu.R 0 + 4) (memory._MMU_read32 mem (cpu.R 0)) = false)
    {chunks : List Chunk}
    (placed : Placed memory mem (cpu.R 1) total (cpu.R 0 + 4) (chunks.flatMap Chunk.bytes))
    (enough : total ≤ (chunks.flatMap Chunk.output).length) :
    ∃ last, RLUnComp memory.toBus sink cpu mem = (sink.mem last, 0) ∧
      trace.Holds ((chunks.flatMap Chunk.output).take total) last := by
  obtain ⟨last,loop,held⟩ := trace.rlLoop_chunks chunks trace.start positive
    (Nat.zero_add total) placed enough
  refine ⟨last,?_,held⟩
  simp only [RLUnComp,accepted,← size,loop]
  rfl

end

section

variable {Mem : Type}

def Agree (memory : PlainMemory Mem) (left right : Mem × u32) : Prop :=
  (∀ addr, memory.cell addr →
    memory._MMU_read08 left.1 addr = memory._MMU_read08 right.1 addr) ∧ left.2 = right.2

theorem agree_refl (memory : PlainMemory Mem) (res : Mem × u32) : Agree memory res res :=
  ⟨fun _ _ => rfl, rfl⟩

theorem agree_of_holds {memory : PlainMemory Mem} {mem : Mem} {dest : u32} {done : List u8}
    {wram : WramState Mem} {vram : VramState Mem} (even : done.length % 2 = 0)
    (writtenOnce : WramHolds memory mem dest done wram)
    (writtenInPairs : VramHolds memory mem dest done vram) :
    Agree memory (vram.mem, 0) (wram.mem, 0) := by
  refine ⟨?_,rfl⟩
  intro addr readable
  have pairs := writtenInPairs.complete memory even addr readable
  rw [← writtenOnce.1] at pairs
  exact pairs

theorem short_size {word : u32} {total : Nat} (size : (word >>> 8).toNat = total) :
    total ≤ 2 ^ 24 := by
  have bound := word.isLt
  rw [← size,BitVec.toNat_ushiftRight,Nat.shiftRight_eq_div_pow]
  omega

theorem lz77_nothing (bus : Bus Mem) {State : Type} {sink : Sink Mem State}
    (fresh : ∀ mem dest, sink.mem (sink.start mem dest) = mem) {cpu : Cpu.armcpu_t} {mem : Mem}
    (idle : addressRefused (cpu.R 0 + 4) (bus._MMU_read32 mem (cpu.R 0)) = true ∨
      (bus._MMU_read32 mem (cpu.R 0) >>> 8).toNat = 0) :
    LZ77UnComp bus sink cpu mem =
      (mem, if addressRefused (cpu.R 0 + 4) (bus._MMU_read32 mem (cpu.R 0)) then 0 else 1) := by
  simp only [LZ77UnComp]
  split
  · rfl
  · next accepted =>
      have zero := idle.resolve_left accepted
      rw [lz77Loop,if_neg (by omega),fresh]

theorem rl_nothing (bus : Bus Mem) {State : Type} {sink : Sink Mem State}
    (fresh : ∀ mem dest, sink.mem (sink.start mem dest) = mem) {cpu : Cpu.armcpu_t} {mem : Mem}
    (idle : addressRefused (cpu.R 0 + 4) (bus._MMU_read32 mem (cpu.R 0)) = true ∨
      (bus._MMU_read32 mem (cpu.R 0) >>> 8).toNat = 0) :
    RLUnComp bus sink cpu mem =
      (mem, if addressRefused (cpu.R 0 + 4) (bus._MMU_read32 mem (cpu.R 0)) then 0 else 1) := by
  simp only [RLUnComp]
  split
  · rfl
  · next accepted =>
      have zero := idle.resolve_left accepted
      rw [rlLoop,if_neg (by omega),fresh]

theorem even_take {bytes : List u8} {total : Nat} (even : total % 2 = 0)
    (enough : total ≤ bytes.length) : (bytes.take total).length % 2 = 0 := by
  rw [List.length_take,Nat.min_eq_left enough]
  exact even

variable {memory : PlainMemory Mem} {cpu : Cpu.armcpu_t} {mem : Mem} {total : Nat}

theorem lz77_vram_agrees (size : (memory._MMU_read32 mem (cpu.R 0) >>> 8).toNat = total)
    (evenSize : total % 2 = 0) (evenDest : (cpu.R 1).toNat % 2 = 0)
    (writable : Writable memory (cpu.R 1) total) {bytes : List u8} {tokens : List Token}
    (stream : Stream 0 0 bytes tokens)
    (placed : Placed memory mem (cpu.R 1) total (cpu.R 0 + 4) bytes)
    (readable : Readable memory (cpu.R 1) 0 tokens)
    (distant : ∀ extra off, Token.copy extra off ∈ tokens → 2 ≤ off.toNat + 1)
    (enough : total ≤ (expandOnto (bytesBefore memory mem (cpu.R 1)) [] tokens).length) :
    Agree memory (LZ77UnCompVram memory.toBus cpu mem) (LZ77UnCompWram memory.toBus cpu mem) := by
  have short := short_size size
  by_cases idle : addressRefused (cpu.R 0 + 4) (memory._MMU_read32 mem (cpu.R 0)) = true ∨
      (memory._MMU_read32 mem (cpu.R 0) >>> 8).toNat = 0
  · rw [LZ77UnCompVram,LZ77UnCompWram,lz77_nothing _ (fun _ _ => rfl) idle,
      lz77_nothing _ (fun _ _ => rfl) idle]
    exact agree_refl memory _
  · obtain ⟨accepted,positive⟩ := not_or.mp idle
    rw [size] at positive
    rw [Bool.not_eq_true] at accepted
    obtain ⟨wram,wramRun,once⟩ :=
      (wramTrace memory mem (cpu.R 1) total (by omega) writable).lz77_stream size.symm
        (Nat.pos_of_ne_zero positive) accepted stream placed readable
        (fun extra off found => Nat.succ_pos _) enough
    obtain ⟨vram,vramRun,inPairs⟩ :=
      (vramTrace memory mem (cpu.R 1) total (by omega) evenDest writable).lz77_stream size.symm
        (Nat.pos_of_ne_zero positive) accepted stream placed readable distant enough
    rw [LZ77UnCompVram,LZ77UnCompWram,wramRun,vramRun]
    exact agree_of_holds (even_take evenSize enough) once inPairs

theorem rl_vram_agrees (size : (memory._MMU_read32 mem (cpu.R 0) >>> 8).toNat = total)
    (evenSize : total % 2 = 0) (evenDest : (cpu.R 1).toNat % 2 = 0)
    (writable : Writable memory (cpu.R 1) total) {chunks : List Chunk}
    (placed : Placed memory mem (cpu.R 1) total (cpu.R 0 + 4) (chunks.flatMap Chunk.bytes))
    (enough : total ≤ (chunks.flatMap Chunk.output).length) :
    Agree memory (RLUnCompVram memory.toBus cpu mem) (RLUnCompWram memory.toBus cpu mem) := by
  have short := short_size size
  by_cases idle : addressRefused (cpu.R 0 + 4) (memory._MMU_read32 mem (cpu.R 0)) = true ∨
      (memory._MMU_read32 mem (cpu.R 0) >>> 8).toNat = 0
  · rw [RLUnCompVram,RLUnCompWram,rl_nothing _ (fun _ _ => rfl) idle,
      rl_nothing _ (fun _ _ => rfl) idle]
    exact agree_refl memory _
  · obtain ⟨accepted,positive⟩ := not_or.mp idle
    rw [size] at positive
    rw [Bool.not_eq_true] at accepted
    obtain ⟨wram,wramRun,once⟩ :=
      (wramTrace memory mem (cpu.R 1) total (by omega) writable).rl_chunks size.symm
        (Nat.pos_of_ne_zero positive) accepted placed enough
    obtain ⟨vram,vramRun,inPairs⟩ :=
      (vramTrace memory mem (cpu.R 1) total (by omega) evenDest writable).rl_chunks size.symm
        (Nat.pos_of_ne_zero positive) accepted placed enough
    rw [RLUnCompVram,RLUnCompWram,wramRun,vramRun]
    exact agree_of_holds (even_take evenSize enough) once inPairs

/-- The VRAM functions leave what the WRAM functions leave. -/
theorem unComp_vram_agrees
    (size : (memory._MMU_read32 mem (cpu.R 0) >>> 8).toNat = total) (evenSize : total % 2 = 0)
    (evenDest : (cpu.R 1).toNat % 2 = 0) (writable : Writable memory (cpu.R 1) total) :
    (∀ bytes tokens, Stream 0 0 bytes tokens →
      Placed memory mem (cpu.R 1) total (cpu.R 0 + 4) bytes →
      Readable memory (cpu.R 1) 0 tokens →
      (∀ extra off, Token.copy extra off ∈ tokens → 2 ≤ off.toNat + 1) →
      total ≤ (expandOnto (bytesBefore memory mem (cpu.R 1)) [] tokens).length →
      Agree memory (LZ77UnCompVram memory.toBus cpu mem) (LZ77UnCompWram memory.toBus cpu mem)) ∧
    (∀ chunks : List Chunk,
      Placed memory mem (cpu.R 1) total (cpu.R 0 + 4) (chunks.flatMap Chunk.bytes) →
      total ≤ (chunks.flatMap Chunk.output).length →
      Agree memory (RLUnCompVram memory.toBus cpu mem) (RLUnCompWram memory.toBus cpu mem)) := by
  constructor
  · intro bytes tokens stream placed readable distant enough
    exact lz77_vram_agrees size evenSize evenDest writable stream placed readable distant enough
  · intro chunks placed enough
    exact rl_vram_agrees size evenSize evenDest writable placed enough

/-- A copy that overlaps itself, and a repeated byte. -/
theorem unComp_vram_agrees_run :
    Agree mainMemory
      (LZ77UnCompVram mainMemory.toBus (called 0x02100000 0x02000000)
        (loaded 0x100000 [0x10,4,0,0,0x20,7,8,0x00,0x01]))
      (LZ77UnCompWram mainMemory.toBus (called 0x02100000 0x02000000)
        (loaded 0x100000 [0x10,4,0,0,0x20,7,8,0x00,0x01])) ∧
    Agree mainMemory
      (RLUnCompVram mainMemory.toBus (called 0x02100000 0x02000000)
        (loaded 0x100000 [0x30,4,0,0,0x81,9]))
      (RLUnCompWram mainMemory.toBus (called 0x02100000 0x02000000)
        (loaded 0x100000 [0x30,4,0,0,0x81,9])) := by
  have writable := @main_writable 0x02000000 4 (by decide) (by decide)
  constructor
  · have placed := @loaded_placed 0x02100000 0x02000000 4
      [0x10,4,0,0,0x20,7,8,0x00,0x01] (by decide) (by decide) (by decide)
    have stream : Stream 0 0 [0x20,7,8,0x00,0x01] [.literal 7,.literal 8,.copy 0 1] :=
      .flags 0x20 0 _ _ (.token 7 0x20 (.literal 7) _ _ (by decide)
        (.token 6 0x40 (.literal 8) _ _ (by decide)
          (.token 5 0x80 (.copy 0 1) [] [] (by decide) (.stop 5 0 []))))
    have readable : Readable mainMemory 0x02000000 0 [.literal 7,.literal 8,.copy 0 1] :=
      .literal 0 7 _ (.literal 1 8 _ (.copy 2 0 1 [] (fun back one far => by
        change back + 2 ≤ 2 at far
        omega) (.nil _)))
    have agrees := @unComp_vram_agrees _ mainMemory (called 0x02100000 0x02000000)
      (loaded 0x100000 [0x10,4,0,0,0x20,7,8,0x00,0x01]) 4 (by decide) (by decide)
      (by decide) writable
    exact agrees.1 _ _ stream (@Placed.drop _ _ _ _ _ _ [0x10,4,0,0] _ placed) readable
      (fun extra off found => by
        have same : Token.copy extra off = .copy 0 1 := by simpa using found
        cases same
        decide) (by decide)
  · have placed := @loaded_placed 0x02100000 0x02000000 4 [0x30,4,0,0,0x81,9] (by decide)
      (by decide) (by decide)
    have agrees := @unComp_vram_agrees _ mainMemory (called 0x02100000 0x02000000)
      (loaded 0x100000 [0x30,4,0,0,0x81,9]) 4 (by decide) (by decide) (by decide) writable
    exact agrees.2 [.repeated 1 9] (@Placed.drop _ _ _ _ _ _ [0x30,4,0,0] _ placed) (by decide)

end

end Desmume.Bios
