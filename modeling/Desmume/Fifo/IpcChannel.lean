/-
The interprocessor FIFO as a channel between two parties.

A run interleaves the calls of both processors in any order.
-/

import Desmume.Lib.Run
import Desmume.Fifo.Ipc

namespace Desmume.Ipc

open Function (update_of_ne update_self)

inductive Op
  | send (proc : Proc) (val : u32)
  | recv (proc : Proc)
  | cnt (proc : Proc) (val : u16)

inductive Event
  | accepted (sender : Proc) (val : u32)
  | received (receiver : Proc) (val : u32)
  | cleared (sender : Proc)

def Accepts (st : State) (proc : Proc) (val : u32) : Prop :=
  ((IPC_FIFOsend st proc val).ipc_fifo proc).size ≠ (st.ipc_fifo proc).size

def Succeeds (st : State) (proc : Proc) : Prop :=
  ((IPC_FIFOrecv st proc).1.ipc_fifo proc.remote).size ≠
    (st.ipc_fifo proc.remote).size

instance (st : State) (proc : Proc) (val : u32) : Decidable (Accepts st proc val) :=
  inferInstanceAs (Decidable (_ ≠ _))

instance (st : State) (proc : Proc) : Decidable (Succeeds st proc) :=
  inferInstanceAs (Decidable (_ ≠ _))

def step (st : State) : Op → State × List Event
  | .send proc val =>
      (IPC_FIFOsend st proc val,
        if Accepts st proc val then [.accepted proc val] else [])
  | .recv proc =>
      ((IPC_FIFOrecv st proc).1,
        if Succeeds st proc then [.received proc (IPC_FIFOrecv st proc).2] else [])
  | .cnt proc val =>
      (IPC_FIFOcnt st proc val,
        if val &&& IPCFIFOCNT_SENDCLEAR ≠ 0 then [.cleared proc] else [])

variable (sender : Proc)

def sentAfter (words : List u32) : Event → List u32
  | .accepted proc val => if proc = sender then words ++ [val] else words
  | .received _ _ => words
  | .cleared proc => if proc = sender then [] else words

def deliveredAfter (words : List u32) : Event → List u32
  | .accepted _ _ => words
  | .received proc val => if proc = sender.remote then words ++ [val] else words
  | .cleared proc => if proc = sender then [] else words

def sent (log : List Event) : List u32 :=
  log.foldl (sentAfter sender) []

def delivered (log : List Event) : List u32 :=
  log.foldl (deliveredAfter sender) []

def outstanding (log : List Event) : Nat :=
  (sent sender log).length - (delivered sender log).length

@[simp] theorem sent_snoc (log : List Event) (event : Event) :
    sent sender (log ++ [event]) = sentAfter sender (sent sender log) event := by
  simp [sent,List.foldl_append]

@[simp] theorem delivered_snoc (log : List Event) (event : Event) :
    delivered sender (log ++ [event]) =
      deliveredAfter sender (delivered sender log) event := by
  simp [delivered,List.foldl_append]

def Carries (st : State) (log : List Event) (sender : Proc) : Prop :=
  ∃ queue, (st.ipc_fifo sender).Holds queue ∧
    sent sender log = delivered sender log ++ queue

def Channel (st : State) (log : List Event) : Prop :=
  ∀ sender, Carries st log sender

variable {log : List Event} {st : State}

theorem outstanding_eq {sender : Proc}
    {queue : List u32} (split : sent sender log = delivered sender log ++ queue) :
    outstanding sender log = queue.length := by
  unfold outstanding
  rw [split,List.length_append]
  omega

theorem accepts_iff (st : State) (proc : Proc) (val : u32) :
    Accepts st proc val ↔
      st.Enabled proc ∧ ¬(st.ipc_fifo proc).size > 15 := by
  unfold Accepts
  rcases st.send_cases proc with ⟨enabled,room⟩ | refused
  · rw [(IPC_FIFOsend_accepted st proc val enabled room).1,update_self]
    refine iff_of_true ?_ ⟨enabled,room⟩
    change (st.ipc_fifo proc).size + 1 ≠ (st.ipc_fifo proc).size
    bv_omega
  · rw [(IPC_FIFOsend_refused st proc val refused).1]
    refine iff_of_false (fun changed => changed rfl) ?_
    rintro ⟨enabled,room⟩
    exact refused.elim (fun disabled => disabled enabled) room

theorem succeeds_iff (st : State) (proc : Proc) :
    Succeeds st proc ↔
      st.Enabled proc ∧ (st.ipc_fifo proc.remote).size ≠ 0 := by
  unfold Succeeds
  rcases st.recv_cases proc with ⟨enabled,nonempty⟩ | refused
  · rw [(IPC_FIFOrecv_accepted st proc enabled nonempty).1,update_self]
    refine iff_of_true ?_ ⟨enabled,nonempty⟩
    change (st.ipc_fifo proc.remote).size - 1 ≠ (st.ipc_fifo proc.remote).size
    bv_omega
  · rw [(IPC_FIFOrecv_refused st proc refused).1]
    refine iff_of_false (fun changed => changed rfl) ?_
    rintro ⟨enabled,nonempty⟩
    exact refused.elim (fun disabled => disabled enabled) nonempty

theorem channel_reset (st : State) : Channel (reset st) [] := by
  intro sender
  refine ⟨[],?_,rfl⟩
  rw [ipc_fifo_reset]
  exact IPC_FIFO.holds_cleared IPC_FIFO.zero

private theorem Carries.frame {next : State} {event : Event}
    {sender : Proc} (carries : Carries st log sender)
    (fifo : next.ipc_fifo sender = st.ipc_fifo sender)
    (sentSame : sentAfter sender (sent sender log) event = sent sender log)
    (deliveredSame : deliveredAfter sender (delivered sender log) event =
      delivered sender log) : Carries next (log ++ [event]) sender := by
  obtain ⟨queue,holds,split⟩ := carries
  refine ⟨queue,?_,?_⟩
  · rw [fifo]
    exact holds
  · rw [sent_snoc,delivered_snoc,sentSame,deliveredSame]
    exact split

theorem channel_send (st : State) (log : List Event) (proc : Proc) (val : u32)
    (channel : Channel st log) :
    Channel (step st (.send proc val)).1 (log ++ (step st (.send proc val)).2) := by
  rcases st.send_cases proc with ⟨enabled,room⟩ | refused
  · have accepts : Accepts st proc val := (accepts_iff st proc val).mpr ⟨enabled,room⟩
    have fifo := (IPC_FIFOsend_accepted st proc val enabled room).1
    simp only [step,if_pos accepts]
    intro sender
    by_cases same : proc = sender
    · subst sender
      obtain ⟨queue,holds,split⟩ := channel proc
      refine ⟨queue ++ [val],?_,?_⟩
      · rw [fifo,update_self]
        exact holds.put (holds.room_iff.mp room) val
      · rw [sent_snoc,delivered_snoc]
        simp only [sentAfter,deliveredAfter,if_true,split,List.append_assoc]
    · apply (channel sender).frame
      · rw [fifo,update_of_ne (fun equal => same equal.symm)]
      · simp only [sentAfter,if_neg same]
      · rfl
  · have fifo := (IPC_FIFOsend_refused st proc val refused).1
    have accepts : ¬Accepts st proc val := by
      unfold Accepts
      rw [fifo]
      exact fun changed => changed rfl
    simp only [step,if_neg accepts,List.append_nil]
    intro sender
    unfold Carries
    rw [fifo]
    exact channel sender

theorem channel_recv (st : State) (log : List Event) (proc : Proc) (channel : Channel st log) :
    Channel (step st (.recv proc)).1 (log ++ (step st (.recv proc)).2) := by
  rcases st.recv_cases proc with ⟨enabled,nonempty⟩ | refused
  · have succeeds : Succeeds st proc := (succeeds_iff st proc).mpr ⟨enabled,nonempty⟩
    obtain ⟨fifo,val,-⟩ := IPC_FIFOrecv_accepted st proc enabled nonempty
    simp only [step,if_pos succeeds]
    intro sender
    by_cases same : sender = proc.remote
    · subst sender
      obtain ⟨queue,holds,split⟩ := channel proc.remote
      cases queue with
      | nil => exact absurd (holds.nonempty_iff.mp nonempty) (Nat.lt_irrefl 0)
      | cons word rest =>
          -- the word under the head is the oldest one still outstanding
          have oldest : (IPC_FIFOrecv st proc).2 = word := by
            rw [val]
            exact holds.head_slot
          refine ⟨rest,?_,?_⟩
          · rw [fifo,update_self]
            exact holds.drop
          · rw [sent_snoc,delivered_snoc,oldest]
            simp [sentAfter,deliveredAfter,split]
    · have other : proc ≠ sender.remote := by
        intro equal
        apply same
        rw [equal,Proc.remote_remote]
      apply (channel sender).frame
      · rw [fifo,update_of_ne same]
      · rfl
      · simp only [deliveredAfter,if_neg other]
  · have fifo := (IPC_FIFOrecv_refused st proc refused).1
    have succeeds : ¬Succeeds st proc := by
      unfold Succeeds
      rw [fifo]
      exact fun changed => changed rfl
    simp only [step,if_neg succeeds,List.append_nil]
    intro sender
    unfold Carries
    rw [fifo]
    exact channel sender

theorem channel_cnt (st : State) (log : List Event) (proc : Proc) (val : u16)
    (channel : Channel st log) :
    Channel (step st (.cnt proc val)).1 (log ++ (step st (.cnt proc val)).2) := by
  have fifo := (IPC_FIFOcnt_spec st proc val).1
  by_cases clear : val &&& IPCFIFOCNT_SENDCLEAR ≠ 0
  · rw [if_pos clear] at fifo
    simp only [step,if_pos clear]
    intro sender
    by_cases same : proc = sender
    · subst sender
      refine ⟨[],?_,?_⟩
      · rw [fifo,update_self]
        exact IPC_FIFO.holds_cleared (st.ipc_fifo proc)
      · rw [sent_snoc,delivered_snoc]
        simp [sentAfter,deliveredAfter]
    · apply (channel sender).frame
      · rw [fifo,update_of_ne (fun equal => same equal.symm)]
      · simp only [sentAfter,if_neg same]
      · simp only [deliveredAfter,if_neg same]
  · rw [if_neg clear] at fifo
    simp only [step,if_neg clear,List.append_nil]
    intro sender
    unfold Carries
    rw [fifo]
    exact channel sender

theorem channel_step (st : State) (log : List Event) (op : Op) (channel : Channel st log) :
    Channel (step st op).1 (log ++ (step st op).2) := by
  cases op with
  | send proc val => exact channel_send st log proc val channel
  | recv proc => exact channel_recv st log proc channel
  | cnt proc val => exact channel_cnt st log proc val channel

theorem channel_run (before : State) (ops : List Op) :
    Channel (Run.logged step (reset before) ops).1 (Run.logged step (reset before) ops).2 :=
  Run.logged_invariant channel_step (channel_reset before) ops

theorem Channel.delivers (channel : Channel st log) (sender : Proc) :
    sent sender log = delivered sender log ++ (st.ipc_fifo sender).ring.items 16 := by
  obtain ⟨queue,holds,split⟩ := channel sender
  rw [RingBuffer.Holds.items_eq holds]
  exact split

theorem Channel.accepts_iff {st : State} {log : List Event} (channel : Channel st log)
    (proc : Proc) (val : u32) :
    Accepts st proc val ↔ st.Enabled proc ∧ outstanding proc log < 16 := by
  obtain ⟨queue,holds,split⟩ := channel proc
  rw [Ipc.accepts_iff,holds.room_iff,outstanding_eq split]

theorem Channel.succeeds_iff {st : State} {log : List Event} (channel : Channel st log)
    (proc : Proc) : Succeeds st proc ↔ st.Enabled proc ∧ 0 < outstanding proc.remote log := by
  obtain ⟨queue,holds,split⟩ := channel proc.remote
  rw [Ipc.succeeds_iff,holds.nonempty_iff,outstanding_eq split]

theorem Channel.bounds (channel : Channel st log) (proc : Proc) :
    (st.ipc_fifo proc).size ≤ 16 ∧ (st.ipc_fifo proc).head < 16 ∧
      (st.ipc_fifo proc).tail < 16 ∧
      (st.ipc_fifo proc).tail.toNat =
        ((st.ipc_fifo proc).head.toNat + (st.ipc_fifo proc).size.toNat) % 16 := by
  obtain ⟨queue,holds,-⟩ := channel proc
  have sizeLe := holds.size_le
  have sizeEq : (st.ipc_fifo proc).size.toNat = queue.length := holds.size_eq
  have headLt : (st.ipc_fifo proc).head.toNat < 16 := holds.head_lt
  have tailLt : (st.ipc_fifo proc).tail.toNat < 16 := holds.tail_lt
  refine ⟨by bv_omega,by bv_omega,by bv_omega,?_⟩
  rw [sizeEq]
  exact holds.tail_eq

/-- Over every interleaving of both processors' calls: words are delivered in
the order they were accepted, with none lost, repeated or made up; sends and
receives succeed exactly when the channel has room or a word; the ring buffer
counters stay in range. -/
theorem ipc_fifo_channel (before : State) (ops : List Op) :
    let run := Run.logged step (reset before) ops
    (∀ sender, sent sender run.2 =
      delivered sender run.2 ++ (run.1.ipc_fifo sender).ring.items 16) ∧
    (∀ proc val, Accepts run.1 proc val ↔
      run.1.Enabled proc ∧ outstanding proc run.2 < 16) ∧
    (∀ proc, Succeeds run.1 proc ↔
      run.1.Enabled proc ∧ 0 < outstanding proc.remote run.2) ∧
    (∀ proc, (run.1.ipc_fifo proc).size ≤ 16 ∧ (run.1.ipc_fifo proc).head < 16 ∧
      (run.1.ipc_fifo proc).tail < 16 ∧
      (run.1.ipc_fifo proc).tail.toNat =
        ((run.1.ipc_fifo proc).head.toNat + (run.1.ipc_fifo proc).size.toNat) % 16) := by
  intro run
  have channel : Channel run.1 run.2 := channel_run before ops
  exact ⟨channel.delivers,channel.accepts_iff,channel.succeeds_iff,channel.bounds⟩

end Desmume.Ipc
