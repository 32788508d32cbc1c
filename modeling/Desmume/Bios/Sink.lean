/-
Where the decompressors put their bytes.

The WRAM functions write each byte at once. The VRAM functions keep it in
`writeValue` until `byteCount` reaches two and then write a half-word.
-/

import Desmume.Bios.Memory

namespace Desmume.Bios

structure Sink (Mem State : Type) where
  start : Mem → u32 → State
  mem : State → Mem
  /-- `dest` of the WRAM functions, `dest + byteCount` of the VRAM functions. -/
  cursor : State → u32
  emit : State → u8 → State

structure WramState (Mem : Type) where
  mem : Mem
  dest : u32

structure VramState (Mem : Type) where
  mem : Mem
  dest : u32
  byteCount : Nat
  byteShift : Nat
  writeValue : u32

section

variable {Mem : Type}

def wramSink (bus : Bus Mem) : Sink Mem (WramState Mem) where
  start mem dest := { mem, dest }
  mem out := out.mem
  cursor out := out.dest
  emit out byte :=
    { mem := bus._MMU_write08 out.mem out.dest byte, dest := out.dest + 1 }

def vramSink (bus : Bus Mem) : Sink Mem (VramState Mem) where
  start mem dest := { mem, dest, byteCount := 0, byteShift := 0, writeValue := 0 }
  mem out := out.mem
  cursor out := out.dest + BitVec.ofNat 32 out.byteCount
  emit out byte :=
    let writeValue := out.writeValue ||| byte.setWidth 32 <<< out.byteShift
    let byteShift := out.byteShift + 8
    let byteCount := out.byteCount + 1
    if byteCount = 2 then
      { mem := bus._MMU_write16 out.mem out.dest (writeValue.setWidth 16)
        dest := out.dest + 2, byteCount := 0, byteShift := 0, writeValue := 0 }
    else { out with byteCount, byteShift, writeValue }

/-- `total` bytes from `dest` are plain memory. -/
def Writable (memory : PlainMemory Mem) (dest : u32) (total : Nat) : Prop :=
  ∀ i < total, memory.ram (dest + BitVec.ofNat 32 i)

/-- The address is none of the `total` bytes from `dest`. -/
def Apart (dest : u32) (total : Nat) (other : u32) : Prop :=
  ∀ i < total, other ≠ dest + BitVec.ofNat 32 i

/-- The bytes `done` have been put out, of the `total` that `dest` has room
for. -/
structure Trace {State : Type} (memory : PlainMemory Mem) (sink : Sink Mem State) (lag : Nat)
    (mem : Mem) (dest : u32) (total : Nat) where
  Holds : List u8 → State → Prop
  start : Holds [] (sink.start mem dest)
  emit : ∀ done out byte, Holds done out → done.length < total →
    Holds (done ++ [byte]) (sink.emit out byte)
  cursor : ∀ done out, Holds done out → sink.cursor out = dest + BitVec.ofNat 32 done.length
  readBack : ∀ done out, Holds done out → done.length ≤ total →
    ∀ i (inside : i < done.length), i + lag < done.length →
      memory._MMU_read08 (sink.mem out) (dest + BitVec.ofNat 32 i) = done[i]
  frame : ∀ done out, Holds done out → done.length ≤ total →
    ∀ other, memory.cell other → Apart dest total other →
      memory._MMU_read08 (sink.mem out) other = memory._MMU_read08 mem other

variable (memory : PlainMemory Mem)

def WramHolds (mem : Mem) (dest : u32) (done : List u8) (out : WramState Mem) : Prop :=
  out.mem = writeBytes memory.toBus mem dest done ∧
    out.dest = dest + BitVec.ofNat 32 done.length

theorem next_cursor (dest : u32) (size : Nat) :
    dest + BitVec.ofNat 32 size + 1 = dest + BitVec.ofNat 32 (size + 1) := by
  rw [BitVec.ofNat_add,← BitVec.add_assoc]
  rfl

def wramTrace (mem : Mem) (dest : u32) (total : Nat) (short : total ≤ 2 ^ 32)
    (writable : Writable memory dest total) :
    Trace memory (wramSink memory.toBus) 0 mem dest total where
  Holds := WramHolds memory mem dest
  start := by
    constructor
    · rfl
    · exact (BitVec.add_zero dest).symm
  emit done out byte held room := by
    obtain ⟨written,pos⟩ := held
    constructor
    · rw [writeBytes_append,← written,← pos]
      rfl
    · rw [List.length_append,List.length_singleton,← next_cursor,← pos]
      rfl
  cursor done out held := held.2
  readBack done out held bound i inside settled := by
    change memory._MMU_read08 out.mem _ = _
    rw [held.1]
    exact memory.writeBytes_inside done (fun i small => writable i (by omega))
      (by omega) i inside
  frame done out held bound other readable apart := by
    change memory._MMU_read08 out.mem _ = _
    rw [held.1]
    exact memory.writeBytes_outside done (fun i small => writable i (by omega))
      readable (fun i small => apart i (by omega))

def Written (mem : Mem) (dest : u32) (done : List u8) (held : Mem) : Prop :=
  ∀ other, memory.cell other →
    memory._MMU_read08 held other =
      memory._MMU_read08 (writeBytes memory.toBus mem dest done) other

/-- After an even number of bytes all are in memory; after an odd number the
last one waits in `writeValue`. -/
inductive VramHolds (mem : Mem) (dest : u32) : List u8 → VramState Mem → Prop
  | whole (done : List u8) (held : Mem) (even : done.length % 2 = 0)
      (written : Written memory mem dest done held) :
      VramHolds mem dest done
        { mem := held, dest := dest + BitVec.ofNat 32 done.length
          byteCount := 0, byteShift := 0, writeValue := 0 }
  | pending (done : List u8) (byte : u8) (held : Mem) (even : done.length % 2 = 0)
      (written : Written memory mem dest done held) :
      VramHolds mem dest (done ++ [byte])
        { mem := held, dest := dest + BitVec.ofNat 32 done.length
          byteCount := 1, byteShift := 8, writeValue := byte.setWidth 32 }

/-- Both bytes of a half-word at an even address. -/
theorem Written.write16 {mem held : Mem} {dest : u32} {done : List u8}
    (written : Written memory mem dest done held) (first second : u8)
    (aligned : (dest + BitVec.ofNat 32 done.length) &&& ~~~1 =
      dest + BitVec.ofNat 32 done.length) (low : memory.ram (dest + BitVec.ofNat 32 done.length))
    (high : memory.ram (dest + BitVec.ofNat 32 (done.length + 1))) :
    Written memory mem dest (done ++ [first,second])
      (memory._MMU_write16 held (dest + BitVec.ofNat 32 done.length)
        ((first.setWidth 32 ||| second.setWidth 32 <<< 8).setWidth 16)) := by
  have upper : ((((first.setWidth 32 : u32) ||| second.setWidth 32 <<< 8).setWidth 16 : u16)
      >>> 8).setWidth 8 = second := by
    apply BitVec.eq_of_getLsbD_eq
    intro i bound
    interval_cases i <;> simp
  have lower : ((((first.setWidth 32 : u32) ||| second.setWidth 32 <<< 8).setWidth 16 : u16)
      &&& 0xFF).setWidth 8 = first := by
    apply BitVec.eq_of_getLsbD_eq
    intro i bound
    interval_cases i <;> simp
  have bytes := memory.write16_bytes held (dest + BitVec.ofNat 32 done.length)
    (((first.setWidth 32 : u32) ||| second.setWidth 32 <<< 8).setWidth 16)
  rw [aligned,next_cursor,upper,lower] at bytes
  have pair : writeBytes memory.toBus mem dest (done ++ [first,second]) =
      memory._MMU_write08
        (memory._MMU_write08 (writeBytes memory.toBus mem dest done)
          (dest + BitVec.ofNat 32 done.length) first)
        (dest + BitVec.ofNat 32 (done.length + 1)) second := by
    rw [writeBytes_append,← next_cursor]
    rfl
  intro other readable
  rw [bytes low high,pair]
  have apart : dest + BitVec.ofNat 32 done.length ≠
      dest + BitVec.ofNat 32 (done.length + 1) := by
    rw [← next_cursor]
    bv_omega
  by_cases atLow : other = dest + BitVec.ofNat 32 done.length
  · subst atLow
    rw [memory.read_same _ _ _ low,memory.read_other _ _ _ _ high readable apart,
      memory.read_same _ _ _ low]
  · rw [memory.read_other _ _ _ _ low readable atLow]
    by_cases atHigh : other = dest + BitVec.ofNat 32 (done.length + 1)
    · subst atHigh
      rw [memory.read_same _ _ _ high,memory.read_same _ _ _ high]
    · rw [memory.read_other _ _ _ _ high readable atHigh,
        memory.read_other _ _ _ _ high readable atHigh,
        memory.read_other _ _ _ _ low readable atLow]
      exact written other readable

variable {dest : u32}

theorem even_cursor {size : Nat} (evenDest : dest.toNat % 2 = 0) (even : size % 2 = 0) :
    (dest + BitVec.ofNat 32 size) &&& ~~~1 = dest + BitVec.ofNat 32 size := by
  apply BitVec.eq_of_toNat_eq
  rw [toNat_align2,BitVec.toNat_add,BitVec.toNat_ofNat]
  omega

variable {mem : Mem}

theorem VramHolds.emit {total : Nat}
    (writable : Writable memory dest total) (evenDest : dest.toNat % 2 = 0)
    {done : List u8} {out : VramState Mem} (held : VramHolds memory mem dest done out)
    (byte : u8) (room : done.length < total) :
    VramHolds memory mem dest (done ++ [byte]) ((vramSink memory.toBus).emit out byte) := by
  cases held with
  | whole done held even written =>
      have first : (0 : u32) ||| byte.setWidth 32 <<< 0 = byte.setWidth 32 := by simp
      have next := VramHolds.pending done byte held even written
      rw [← first] at next
      exact next
  | pending done waiting held even written =>
      rw [List.length_append,List.length_singleton] at room
      have aligned := even_cursor evenDest even
      have pair := written.write16 memory waiting byte aligned
        (writable done.length (by omega)) (writable (done.length + 1) room)
      have next := VramHolds.whole (done ++ [waiting,byte]) _ (by simpa using even) pair
      rw [List.length_append,BitVec.ofNat_add,← BitVec.add_assoc] at next
      rw [List.append_assoc]
      exact next

theorem VramHolds.cursor {done : List u8} {out : VramState Mem}
    (held : VramHolds memory mem dest done out) :
    (vramSink memory.toBus).cursor out = dest + BitVec.ofNat 32 done.length := by
  cases held with
  | whole done held even written => exact BitVec.add_zero _
  | pending done byte held even written =>
      rw [List.length_append,List.length_singleton,← next_cursor]
      rfl

theorem VramHolds.settled {done : List u8} {out : VramState Mem}
    (held : VramHolds memory mem dest done out) :
    ∃ whole rest, done = whole ++ rest ∧ rest.length = done.length % 2 ∧
      Written memory mem dest whole out.mem := by
  cases held with
  | whole done held even written => exact ⟨done,[],(List.append_nil done).symm,even.symm,written⟩
  | pending done byte held even written =>
      refine ⟨done,[byte],rfl,?_,written⟩
      rw [List.length_append,List.length_singleton]
      omega

def vramTrace (mem : Mem) (dest : u32) (total : Nat) (short : total ≤ 2 ^ 32)
    (evenDest : dest.toNat % 2 = 0) (writable : Writable memory dest total) :
    Trace memory (vramSink memory.toBus) 1 mem dest total where
  Holds := VramHolds memory mem dest
  start := by
    have whole := @VramHolds.whole _ memory mem dest [] mem rfl (fun _ _ => rfl)
    rw [List.length_nil,BitVec.add_zero] at whole
    exact whole
  emit done out byte held room := held.emit memory writable evenDest byte room
  cursor done out held := held.cursor memory
  readBack done out held bound i inside settled := by
    obtain ⟨whole,rest,split,size,written⟩ := held.settled
    have total := congrArg List.length split
    rw [List.length_append] at total
    have early : i < whole.length := by omega
    have here := writable i (by omega)
    refine (written _ (memory.cell_of_ram _ here)).trans ?_
    rw [memory.writeBytes_inside whole (fun i small => writable i (by omega))
      (by omega) i early]
    simp only [split,List.getElem_append_left early]
  frame done out held bound other readable apart := by
    obtain ⟨whole,rest,split,size,written⟩ := held.settled
    have total := congrArg List.length split
    rw [List.length_append] at total
    refine (written other readable).trans ?_
    exact memory.writeBytes_outside whole (fun i small => writable i (by omega))
      readable (fun i small => apart i (by omega))

theorem VramHolds.complete {done : List u8} {out : VramState Mem}
    (held : VramHolds memory mem dest done out) (even : done.length % 2 = 0) :
    Written memory mem dest done out.mem := by
  obtain ⟨whole,rest,split,size,written⟩ := held.settled
  have none : rest = [] := List.eq_nil_of_length_eq_zero (by omega)
  rw [none,List.append_nil] at split
  rw [split]
  exact written

end

end Desmume.Bios
