/-
The geometry command FIFO as a queue.

While no command is sent into a full ring, the commands come out in the order
they went in and the two counters agree with what is outstanding.
-/

import Desmume.Lib.Run
import Desmume.Fifo.Gx

namespace Desmume.Gx

inductive Transfer
  | send (cmd : u8) (param : u32)
  | recv

inductive Event
  | sent (cmd : u8 × u32)
  | received (cmd : u8 × u32)

def transfer (st : State) : Transfer → State × List Event
  | .send cmd param => (GFX_FIFOsend st cmd param, [.sent (cmd, param)])
  | .recv =>
      ((GFX_PIPErecv st).1, ((GFX_PIPErecv st).2.map Event.received).toList)

def Event.sent? : Event → Option (u8 × u32)
  | .sent cmd => some cmd
  | .received _ => none

def Event.received? : Event → Option (u8 × u32)
  | .sent _ => none
  | .received cmd => some cmd

def sent (log : List Event) : List (u8 × u32) :=
  log.filterMap Event.sent?

def received (log : List Event) : List (u8 × u32) :=
  log.filterMap Event.received?

variable (log : List Event)

variable (cmd : u8 × u32)

@[simp] theorem sent_snoc_sent : sent (log ++ [.sent cmd]) = sent log ++ [cmd] := by
  simp [sent,Event.sent?]

@[simp] theorem sent_snoc_received : sent (log ++ [.received cmd]) = sent log := by
  simp [sent,Event.sent?]

@[simp] theorem received_snoc_sent : received (log ++ [.sent cmd]) = received log := by
  simp [received,Event.received?]

@[simp] theorem received_snoc_received :
    received (log ++ [.received cmd]) = received log ++ [cmd] := by
  simp [received,Event.received?]

def outstanding (log : List Event) : List (u8 × u32) :=
  (sent log).drop (received log).length

def matrixStackCommands (queue : List (u8 × u32)) : Nat :=
  queue.countP fun cmd => IsMatrixStackCommand cmd.1

/-- Nothing is lost: what came out is what went in first, the ring holds the
rest, and both counters say how much that is. -/
structure Lossless (run : State × List Event) : Prop where
  inOrder : received run.2 <+: sent run.2
  kept : run.1.gxFIFO.ring.items HACK_GXIFO_SIZE = outstanding run.2
  size : run.1.gxFIFO.size.toNat = (outstanding run.2).length
  matrix_stack_op_size :
    run.1.gxFIFO.matrix_stack_op_size.toNat = matrixStackCommands (outstanding run.2)

def Room (run : State × List Event) : Transfer → Prop
  | .send _ _ => run.1.gxFIFO.size.toNat < HACK_GXIFO_SIZE
  | .recv => True

structure Queued (run : State × List Event) (queue : List (u8 × u32)) : Prop where
  holds : run.1.gxFIFO.Holds queue
  split : sent run.2 = received run.2 ++ queue
  matrix : run.1.gxFIFO.matrix_stack_op_size.toNat = matrixStackCommands queue

variable {run : State × List Event} {queue : List (u8 × u32)}

theorem Queued.outstanding_eq (queued : Queued run queue) : outstanding run.2 = queue := by
  unfold outstanding
  rw [queued.split,List.drop_left]

theorem Queued.lossless (queued : Queued run queue) : Lossless run where
  inOrder := by
    rw [queued.split]
    exact List.prefix_append _ _
  kept := by
    rw [queued.outstanding_eq]
    exact queued.holds.items_eq
  size := by
    rw [queued.outstanding_eq]
    exact queued.holds.size_eq
  matrix_stack_op_size := by
    rw [queued.outstanding_eq]
    exact queued.matrix

theorem matrixStackCommands_le (queue : List (u8 × u32)) :
    matrixStackCommands queue ≤ queue.length :=
  List.countP_le_length

theorem matrixStackCommands_append (queue : List (u8 × u32)) (cmd : u8 × u32) :
    matrixStackCommands (queue ++ [cmd]) =
      matrixStackCommands queue + if IsMatrixStackCommand cmd.1 then 1 else 0 := by
  simp [matrixStackCommands,List.countP_append,List.countP_cons]

theorem matrixStackCommands_cons (first : u8 × u32) (rest : List (u8 × u32)) :
    matrixStackCommands (first :: rest) =
      matrixStackCommands rest + if IsMatrixStackCommand first.1 then 1 else 0 :=
  List.countP_cons

theorem queued_clear (st : State) : Queued (GFX_FIFOclear st, []) [] where
  holds := st.gxFIFO.holds_clear
  split := rfl
  matrix := rfl

theorem Queued.send {run : State × List Event} {queue : List (u8 × u32)}
    (queued : Queued run queue) (cmd : u8) (param : u32)
    (room : run.1.gxFIFO.size.toNat < HACK_GXIFO_SIZE) :
    Queued (Run.traced transfer run (.send cmd param)) (queue ++ [(cmd, param)]) := by
  have sizeEq : run.1.gxFIFO.size.toNat = queue.length := queued.holds.size_eq
  have short : queue.length < 200000 := by
    rw [← sizeEq]
    exact room
  have fifo : (Run.traced transfer run (.send cmd param)).1.gxFIFO =
      run.1.gxFIFO.put cmd param := gxFIFO_send run.1 cmd param
  constructor
  · rw [fifo]
    unfold GFX_FIFO.Holds
    rw [GFX_FIFO.ring_put queued.holds]
    exact queued.holds.push short (cmd, param)
  · rw [Run.traced_snd,transfer,sent_snoc_sent,received_snoc_sent,queued.split,
      List.append_assoc]
  · have small := matrixStackCommands_le queue
    have matrix := queued.matrix
    rw [fifo,matrixStackCommands_append]
    unfold GFX_FIFO.put
    cases IsMatrixStackCommand cmd with
    | false => exact matrix
    | true =>
        change (run.1.gxFIFO.matrix_stack_op_size + 1).toNat = matrixStackCommands queue + 1
        bv_omega

theorem Queued.recv_empty (queued : Queued run []) : Queued (Run.traced transfer run .recv) [] := by
  have empty : run.1.gxFIFO.size = 0 := by
    by_contra nonempty
    exact queued.holds.size_ne_zero.mp nonempty rfl
  have returned := GFX_PIPErecv_empty run.1 empty
  have fifo : (Run.traced transfer run .recv).1.gxFIFO = run.1.gxFIFO := by
    rw [Run.traced_fst,transfer,returned]
    exact gxFIFO_handleEvents run.1
  have log : (Run.traced transfer run .recv).2 = run.2 := by
    rw [Run.traced_snd,transfer,returned]
    exact List.append_nil run.2
  constructor
  · rw [fifo]
    exact queued.holds
  · rw [log]
    exact queued.split
  · rw [fifo]
    exact queued.matrix

theorem Queued.recv {run : State × List Event} {first : u8 × u32} {rest : List (u8 × u32)}
    (queued : Queued run (first :: rest)) : Queued (Run.traced transfer run .recv) rest := by
  have nonempty := queued.holds.size_ne_zero.mpr (List.cons_ne_nil first rest)
  obtain ⟨fifo,returned⟩ := GFX_PIPErecv_nonempty run.1 nonempty
  have front := queued.holds.front
  have dropped : (Run.traced transfer run .recv).1.gxFIFO = run.1.gxFIFO.drop := fifo
  have log : (Run.traced transfer run .recv).2 = run.2 ++ [.received first] := by
    rw [Run.traced_snd,transfer,returned,front]
    rfl
  constructor
  · rw [dropped]
    unfold GFX_FIFO.Holds
    rw [GFX_FIFO.ring_drop queued.holds nonempty]
    exact queued.holds.pop
  · rw [log,sent_snoc_received,received_snoc_received,queued.split,List.append_assoc]
    rfl
  · have matrix := queued.matrix
    rw [matrixStackCommands_cons] at matrix
    rw [dropped]
    unfold GFX_FIFO.drop
    rw [front]
    cases stack : IsMatrixStackCommand first.1 with
    | false =>
        rw [stack] at matrix
        exact matrix
    | true =>
        rw [stack] at matrix
        change run.1.gxFIFO.matrix_stack_op_size.toNat = matrixStackCommands rest + 1 at matrix
        change (run.1.gxFIFO.matrix_stack_op_size - 1).toNat = matrixStackCommands rest
        bv_omega

theorem queued_step (run : State × List Event) (op : Transfer)
    (queued : ∃ queue, Queued run queue) (room : Room run op) :
    ∃ queue, Queued (Run.traced transfer run op) queue := by
  obtain ⟨queue,queued⟩ := queued
  cases op with
  | send cmd param => exact ⟨_,queued.send cmd param room⟩
  | recv =>
      cases queue with
      | nil => exact ⟨[],queued.recv_empty⟩
      | cons first rest => exact ⟨rest,queued.recv⟩

/-- From an empty FIFO, a run in which every send finds room loses nothing. -/
theorem gx_fifo_lossless (before : State) (ops : List Transfer)
    (room : Run.Guarded (Run.traced transfer) Room (GFX_FIFOclear before, []) ops) :
    Run.Always (Run.traced transfer) Lossless (GFX_FIFOclear before, []) ops := by
  have always := Run.always_of_guarded queued_step ⟨[],queued_clear before⟩ room
  apply always.mono
  rintro run ⟨queue,queued⟩
  exact queued.lossless

theorem gx_fifo_lossless_once :
    Run.Always (Run.traced transfer) Lossless (GFX_FIFOclear State.zero, [])
      [.send 0x11 7,.recv] :=
  gx_fifo_lossless State.zero [.send 0x11 7,.recv]
    ⟨by unfold Room HACK_GXIFO_SIZE; decide,trivial,trivial⟩

theorem queued_fill (before : State) (n : Nat) (bound : n ≤ HACK_GXIFO_SIZE) :
    Queued (Run.final (Run.traced transfer) (GFX_FIFOclear before, [])
      (List.replicate n (.send 0x20 0))) (List.replicate n (0x20, 0)) := by
  induction n with
  | zero => exact queued_clear before
  | succ n ih =>
      have filled := ih (Nat.le_of_succ_le bound)
      have size : _ = (List.replicate n ((0x20 : u8), (0 : u32))).length :=
        filled.holds.size_eq
      rw [List.length_replicate] at size
      have next := filled.send 0x20 0 (lt_of_eq_of_lt size bound)
      rw [List.replicate_succ',List.replicate_succ',Run.final_append]
      exact next

theorem Queued.overflow
    (queued : Queued run queue) (full : queue.length = HACK_GXIFO_SIZE) (cmd : u8) (param : u32) :
    (GFX_PIPErecv (GFX_FIFOsend run.1 cmd param)).2 = some (cmd, param) := by
  have sizeEq : run.1.gxFIFO.size.toNat = queue.length := queued.holds.size_eq
  have sent := gxFIFO_send run.1 cmd param
  have nonempty : (GFX_FIFOsend run.1 cmd param).gxFIFO.size ≠ 0 := by
    rw [sent]
    change run.1.gxFIFO.size + 1 ≠ 0
    unfold HACK_GXIFO_SIZE at full
    bv_omega
  rw [(GFX_PIPErecv_nonempty _ nonempty).2,sent]
  have overwritten := queued.holds.push_full full (cmd, param)
  rw [← GFX_FIFO.ring_put queued.holds] at overwritten
  exact congrArg some overwritten

theorem Queued.overflow_not_lossless {first : u8 × u32}
    {rest : List (u8 × u32)} (queued : Queued run (first :: rest))
    (full : (first :: rest).length = HACK_GXIFO_SIZE) (cmd : u8) (param : u32)
    (ne : (cmd, param) ≠ first) :
    ¬Lossless (Run.final (Run.traced transfer) run [.send cmd param,.recv]) := by
  intro lossless
  have overwritten := queued.overflow full cmd param
  have log : (Run.final (Run.traced transfer) run [.send cmd param,.recv]).2 =
      run.2 ++ [.sent (cmd, param)] ++ [.received (cmd, param)] := by
    simp only [Run.final_cons,Run.final_nil,Run.traced_fst,Run.traced_snd,transfer,
      overwritten,Option.map_some,Option.toList_some]
  have inOrder := lossless.inOrder
  rw [log,received_snoc_received,received_snoc_sent,sent_snoc_received,sent_snoc_sent,
    queued.split,List.append_assoc,List.prefix_append_right_inj,List.cons_append] at inOrder
  exact ne (List.cons_prefix_cons.mp inOrder).1

/-- After 200000 commands, one more replaces the oldest: the first command
received is the last one sent. -/
theorem send_into_full_ring_loses :
    ¬∀ (before : State) (ops : List Transfer),
      Run.Always (Run.traced transfer) Lossless (GFX_FIFOclear before, []) ops := by
  intro everywhere
  have filled := queued_fill State.zero HACK_GXIFO_SIZE le_rfl
  have fill : List.replicate HACK_GXIFO_SIZE ((0x20 : u8), (0 : u32)) =
      (0x20, 0) :: List.replicate 199999 (0x20, 0) := List.replicate_succ
  have always := everywhere State.zero
    (List.replicate HACK_GXIFO_SIZE (.send 0x20 0) ++ [.send 0x20 1,.recv])
  have last := always.last
  rw [Run.final_append] at last
  have full : (List.replicate HACK_GXIFO_SIZE ((0x20 : u8), (0 : u32))).length =
      HACK_GXIFO_SIZE := List.length_replicate
  rw [fill] at filled full
  exact filled.overflow_not_lossless full 0x20 1 (by decide) last

end Desmume.Gx
