/-
How often a start is followed by a packet.

The events of one slot are read by a small automaton: a start makes it wait for
the packet of that start, the packet lets the slot end.
-/

import Desmume.Wifi.Schedule

namespace Desmume.Wifi

inductive Phase
  | idle
  | waiting (CurAddr : u16) (hwords : Nat)
  | sent

def Phase.afterPacket (phase : Phase) (CurAddr : u16) (packet : List u16) : Option Phase :=
  match phase with
  | .waiting expected hwords =>
      if CurAddr = expected ∧ packet.length = hwords then some .sent else none
  | _ => none

def Phase.afterEnd : Phase → Option Phase
  | .sent => some .idle
  | _ => none

def Phase.next (slot : SlotIndex) (phase : Phase) : Event → Option Phase
  | .started other CurAddr hwords =>
      if other = slot then some (.waiting CurAddr hwords) else some phase
  | .SendPacket other CurAddr packet =>
      if other = slot then phase.afterPacket CurAddr packet else some phase
  | .ended other => if other = slot then phase.afterEnd else some phase

def Phase.follow (slot : SlotIndex) (phase : Phase) (log : List Event) : Option Phase :=
  log.foldlM (Phase.next slot) phase

theorem follow_cons (slot : SlotIndex) (phase : Phase) (event : Event) (rest : List Event) :
    phase.follow slot (event :: rest) =
      (phase.next slot event).bind (fun next => next.follow slot rest) := rfl

theorem follow_append (slot : SlotIndex) (phase : Phase) (first second : List Event) :
    phase.follow slot (first ++ second) =
      (phase.follow slot first).bind (fun next => next.follow slot second) := by
  induction first generalizing phase with
  | nil => rfl
  | cons event rest ih =>
      rw [List.cons_append,follow_cons,follow_cons,Option.bind_assoc]
      congr 1
      funext next
      exact ih next

def sends (slot : SlotIndex) (log : List Event) : List (u16 × List u16) :=
  log.filterMap (fun event =>
    match event with
    | .SendPacket other CurAddr packet => if other = slot then some (CurAddr, packet) else none
    | _ => none)

def NoStart (slot : SlotIndex) (log : List Event) : Prop :=
  ∀ CurAddr hwords, Event.started slot CurAddr hwords ∉ log

variable {slot : SlotIndex} {last : Phase} {rest log : List Event} {event : Event}

theorem NoStart.head (none : NoStart slot (event :: rest)) (CurAddr : u16) (hwords : Nat) :
    event ≠ .started slot CurAddr hwords :=
  fun same => none CurAddr hwords (same ▸ List.mem_cons_self)

theorem NoStart.tail (none : NoStart slot (event :: rest)) : NoStart slot rest :=
  fun CurAddr hwords member => none CurAddr hwords (List.mem_cons_of_mem event member)

theorem next_cases {phase next : Phase}
    (noStart : ∀ CurAddr hwords, event ≠ .started slot CurAddr hwords)
    (taken : phase.next slot event = some next) :
    (next = phase ∧ ∀ rest, sends slot (event :: rest) = sends slot rest) ∨
      (phase = .sent ∧ next = .idle ∧ ∀ rest, sends slot (event :: rest) = sends slot rest) ∨
      (∃ CurAddr hwords packet, phase = .waiting CurAddr hwords ∧ next = .sent ∧
        packet.length = hwords ∧
        ∀ rest, sends slot (event :: rest) = (CurAddr, packet) :: sends slot rest) := by
  cases event with
  | started other CurAddr hwords =>
      have ne : other ≠ slot := fun same => noStart CurAddr hwords (by rw [same])
      rw [Phase.next,if_neg ne] at taken
      exact Or.inl ⟨(Option.some.inj taken).symm,fun _rest => rfl⟩
  | SendPacket other CurAddr packet =>
      by_cases own : other = slot
      · subst own
        rw [Phase.next,if_pos rfl] at taken
        cases phase with
        | idle => cases taken
        | sent => cases taken
        | waiting expected hwords =>
            by_cases fits : CurAddr = expected ∧ packet.length = hwords
            · rw [Phase.afterPacket,if_pos fits] at taken
              refine Or.inr (Or.inr ⟨expected,hwords,packet,rfl,
                (Option.some.inj taken).symm,fits.2,fun rest => ?_⟩)
              rw [← fits.1]
              simp [sends]
            · rw [Phase.afterPacket,if_neg fits] at taken
              cases taken
      · rw [Phase.next,if_neg own] at taken
        refine Or.inl ⟨(Option.some.inj taken).symm,fun rest => ?_⟩
        simp [sends,own]
  | ended other =>
      by_cases own : other = slot
      · subst own
        rw [Phase.next,if_pos rfl] at taken
        cases phase with
        | idle => cases taken
        | waiting expected hwords => cases taken
        | sent =>
            exact Or.inr (Or.inl ⟨rfl,(Option.some.inj taken).symm,fun _rest => rfl⟩)
      · rw [Phase.next,if_neg own] at taken
        exact Or.inl ⟨(Option.some.inj taken).symm,fun _rest => rfl⟩

theorem follow_quiet {phase : Phase}
    (quiet : ∀ CurAddr hwords, phase ≠ .waiting CurAddr hwords) (noStart : NoStart slot log)
    (taken : phase.follow slot log = some last) :
    sends slot log = [] ∧ ∀ CurAddr hwords, last ≠ .waiting CurAddr hwords := by
  induction log generalizing phase with
  | nil => exact ⟨rfl,Option.some.inj taken ▸ quiet⟩
  | cons event rest ih =>
      rw [follow_cons] at taken
      obtain ⟨next,here,later⟩ := Option.bind_eq_some_iff.mp taken
      rcases next_cases noStart.head here with
        ⟨rfl,same⟩ | ⟨_sent,rfl,same⟩ | ⟨CurAddr,hwords,packet,waiting,_,_,_⟩
      · rw [same]
        exact ih quiet noStart.tail later
      · rw [same]
        exact ih (fun _ _ impossible => by cases impossible) noStart.tail later
      · exact absurd waiting (quiet CurAddr hwords)

theorem follow_waiting {CurAddr : u16} {hwords : Nat} (noStart : NoStart slot log)
    (taken : (Phase.waiting CurAddr hwords).follow slot log = some last) :
    (last = .waiting CurAddr hwords ∧ sends slot log = []) ∨
      ((∀ CurAddr hwords, last ≠ .waiting CurAddr hwords) ∧
        ∃ packet, sends slot log = [(CurAddr, packet)] ∧ packet.length = hwords) := by
  induction log with
  | nil => exact Or.inl ⟨(Option.some.inj taken).symm,rfl⟩
  | cons event rest ih =>
      rw [follow_cons] at taken
      obtain ⟨next,here,later⟩ := Option.bind_eq_some_iff.mp taken
      rcases next_cases noStart.head here with
        ⟨rfl,same⟩ | ⟨sent,_,_⟩ | ⟨expected,n,packet,waiting,rfl,fits,same⟩
      · rw [same]
        exact ih noStart.tail later
      · cases sent
      · obtain ⟨rfl,rfl⟩ := Phase.waiting.inj waiting
        have quiet := follow_quiet (fun _ _ impossible => by cases impossible)
          noStart.tail later
        refine Or.inr ⟨quiet.2,packet,?_,fits⟩
        rw [same,quiet.1]

/-- Between a start and the next one of the same slot at most one packet goes
out, the one of that start, and exactly one when the slot ends. No packet goes
out without a start. -/
structure OncePerStart (slot : SlotIndex) (log : List Event) : Prop where
  atMostOnce : ∀ earlier CurAddr hwords between later,
    log = earlier ++ .started slot CurAddr hwords :: (between ++ later) →
      NoStart slot between →
        sends slot between = [] ∨
          ∃ packet, sends slot between = [(CurAddr, packet)] ∧ packet.length = hwords
  beforeEnd : ∀ earlier CurAddr hwords between later,
    log = earlier ++ .started slot CurAddr hwords :: (between ++ .ended slot :: later) →
      NoStart slot between →
        ∃ packet, sends slot between = [(CurAddr, packet)] ∧ packet.length = hwords
  neverUnasked : ∀ before, before <+: log → NoStart slot before → sends slot before = []

theorem follow_prefix {phase : Phase} {first second : List Event}
    (taken : phase.follow slot (first ++ second) = some last) :
    ∃ middle, phase.follow slot first = some middle ∧ middle.follow slot second = some last := by
  rw [follow_append] at taken
  exact Option.bind_eq_some_iff.mp taken

theorem follow_started {phase : Phase} {CurAddr : u16} {hwords : Nat} {earlier : List Event}
    (taken : phase.follow slot (earlier ++ .started slot CurAddr hwords :: rest) = some last) :
    (Phase.waiting CurAddr hwords).follow slot rest = some last := by
  obtain ⟨middle,_before,after⟩ := follow_prefix taken
  rw [follow_cons,Phase.next,if_pos rfl] at after
  exact after

theorem oncePerStart_of_follow
    (taken : Phase.idle.follow slot log = some last) : OncePerStart slot log where
  atMostOnce := by
    rintro earlier CurAddr hwords between later rfl noStart
    obtain ⟨middle,after,_rest⟩ := follow_prefix (follow_started taken)
    rcases follow_waiting noStart after with ⟨_waiting,silent⟩ | ⟨_done,once⟩
    · exact Or.inl silent
    · exact Or.inr once
  beforeEnd := by
    rintro earlier CurAddr hwords between later rfl noStart
    obtain ⟨middle,after,ending⟩ := follow_prefix (follow_started taken)
    rcases follow_waiting noStart after with ⟨rfl,_silent⟩ | ⟨_done,once⟩
    · rw [follow_cons,Phase.next,if_pos rfl] at ending
      cases ending
    · exact once
  neverUnasked := by
    rintro before ⟨later,rfl⟩ noStart
    obtain ⟨middle,after,_rest⟩ := follow_prefix taken
    exact (follow_quiet (fun _ _ impossible => by cases impossible) noStart after).1

namespace Schedule

def phase (sched : Schedule) (slot : SlotIndex) : Phase :=
  if sched.busy slot then
    if (sched.slots slot).NotStarted then
      .waiting (sched.slots slot).CurAddr (sched.slots slot).RemHWords.toNat
    else .sent
  else .idle

def Followed (sched : Schedule) : Prop :=
  ∀ slot, Phase.idle.follow slot sched.log = some (sched.phase slot)

variable {slot : SlotIndex}

theorem follow_emit {log : List Event} {phase next : Phase} {event : Event}
    (before : Phase.idle.follow slot log = some phase) (here : phase.next slot event = some next) :
    Phase.idle.follow slot (log ++ [event]) = some next := by
  rw [follow_append,before,Option.bind_some,follow_cons,here]
  rfl

theorem phase_congr {before after : Schedule} (TXBusy : after.TXBusy = before.TXBusy)
    (CurAddr : (after.slots slot).CurAddr = (before.slots slot).CurAddr)
    (RemHWords : (after.slots slot).RemHWords = (before.slots slot).RemHWords)
    (NotStarted : (after.slots slot).NotStarted = (before.slots slot).NotStarted) :
    after.phase slot = before.phase slot := by
  unfold phase busy
  rw [TXBusy,CurAddr,RemHWords,NotStarted]

theorem phase_sent {sched : Schedule} (busy : sched.busy slot = true)
    (begun : (sched.slots slot).NotStarted = false) : sched.phase slot = .sent := by
  unfold phase
  rw [if_pos busy,begun]
  rfl

theorem followed_step {before after : Schedule} (step : Step before after)
    (connected : before.connected = true) (sound : Sound before) (followed : Followed before) :
    Followed after := by
  intro slot
  cases step with
  | elapse => exact followed slot
  | start own fresh valid =>
      refine follow_emit (followed slot) ?_
      by_cases here : own = slot
      · subst here
        have busy : (before.start own fresh).busy own = true := by
          rw [busy_start,decide_eq_true rfl,Bool.or_true]
        have fresh_slot := slots_start before own own fresh
        rw [if_pos rfl] at fresh_slot
        rw [Phase.next,if_pos rfl,phase,if_pos busy,fresh_slot,if_pos valid.notStarted]
      · have ne : slot ≠ own := fun same => here same.symm
        have same : (before.start own fresh).phase slot = before.phase slot := by
          unfold phase
          rw [busy_start,decide_eq_false ne,Bool.or_false,slots_start,
            if_neg ne]
        rw [Phase.next,if_neg here,same]
  | countdown own now preamble =>
      have other := slots_countdown before own slot
      have same : (before.countdown own).phase slot = before.phase slot := by
        by_cases here : slot = own
        · subst here
          rw [if_pos rfl] at other
          refine phase_congr ?_ ?_ ?_ ?_
          · rfl
          all_goals rw [other]
        · rw [if_neg here] at other
          refine phase_congr ?_ ?_ ?_ ?_
          · rfl
          all_goals rw [other]
      rw [same]
      exact followed slot
  | send own packet now first whole =>
      obtain ⟨_connected,_timer,_current,TXBusy⟩ := send_frame before own packet
      have log : (before.send own packet).log =
          before.log ++ [.SendPacket own (before.slots own).CurAddr packet] := by
        unfold send
        rw [connected]
        rfl
      rw [log]
      refine follow_emit (followed slot) ?_
      by_cases here : own = slot
      · subst here
        have busy := sound.current_busy own now
        have busy_after : (before.send own packet).busy own = true := by
          unfold Schedule.busy
          rw [TXBusy]
          exact busy
        have begun : ((before.send own packet).slots own).NotStarted = false := by
          rw [slots_send,if_pos rfl]
        rw [Phase.next,if_pos rfl,phase_sent busy_after begun,phase,if_pos busy,
          if_pos first,Phase.afterPacket,if_pos ⟨rfl,whole⟩]
      · have other := slots_send before own slot packet
        rw [if_neg (fun same => here same.symm)] at other
        rw [Phase.next,if_neg here,phase_congr TXBusy]
        all_goals rw [other]
  | halfword own now begun more =>
      have other := slots_halfword before own slot
      by_cases here : slot = own
      · subst here
        have busy := sound.current_busy slot now
        have begun_after : ((before.halfword slot).slots slot).NotStarted = false := by
          rw [slots_halfword,if_pos rfl]
          exact begun
        have busy_after : (before.halfword slot).busy slot = true := busy
        rw [phase_sent busy_after begun_after,← phase_sent busy begun]
        exact followed slot
      · rw [if_neg here] at other
        have same : (before.halfword own).phase slot = before.phase slot := by
          refine phase_congr ?_ ?_ ?_ ?_
          · rfl
          all_goals rw [other]
        rw [same]
        exact followed slot
  | finish own now begun last =>
      refine follow_emit (followed slot) ?_
      by_cases here : own = slot
      · subst here
        have idle : (before.finish own).busy own = false := by
          rw [busy_finish,decide_eq_true rfl,Bool.not_true,Bool.and_false]
        have sent := phase_sent (sound.current_busy own now) begun
        rw [sent,Phase.next,if_pos rfl,phase,idle]
        rfl
      · have ne : slot ≠ own := fun same => here same.symm
        have other := slots_finish before own slot
        rw [if_neg ne] at other
        have same : (before.finish own).phase slot = before.phase slot := by
          unfold phase
          rw [busy_finish,decide_eq_false ne,Bool.not_false,Bool.and_true,other]
        rw [Phase.next,if_neg here,same]

end Schedule
end Desmume.Wifi
