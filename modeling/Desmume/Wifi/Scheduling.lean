/-
Transmissions over whole runs.

Every state a run reaches keeps the invariant of the schedule and the order of
its events.
-/

import Desmume.Wifi.Refinement

namespace Desmume.Wifi

variable {after : Schedule} {slot : SlotIndex} {before : Schedule} {ops : List Op}
  {replies : List Packet} {carries : List u16 → Prop} {arrivals : List Packet} {op : Op}

theorem Transmits.steps {sched : Schedule} (transmits : Transmits carries sched slot after)
    (whole : ∀ packet, carries packet →
      packet.length = (sched.slots slot).RemHWords.toNat) (now : sched.current = some slot) :
    Relation.ReflTransGen Schedule.Step sched after := by
  have advance {sched : Schedule} (now : sched.current = some slot)
      (begun : (sched.slots slot).NotStarted = false) :
      Schedule.Step sched
        (if (sched.slots slot).RemHWords = 1 then sched.finish slot
          else sched.halfword slot) := by
    split
    next last => exact .finish slot now begun last
    next more => exact .halfword slot now begun more
  cases transmits with
  | countdown preamble => exact .single (.countdown slot now preamble)
  | wait between => exact .refl
  | first packet NotStarted content sent =>
      rw [sent]
      have begun : ((sched.send slot packet).slots slot).NotStarted = false := by
        rw [Schedule.slots_send,if_pos rfl]
      have current := (Schedule.send_frame sched slot packet).2.2.1.trans now
      exact .tail (.single (.send slot packet now NotStarted (whole packet content)))
        (advance current begun)
  | later begun sent =>
      rw [sent]
      exact .single (advance now begun)

/-- What every reachable state satisfies. -/
structure Kept (sched : Schedule) : Prop where
  sound : sched.Sound
  followed : sched.connected = true → sched.Followed

theorem connected_step (step : Schedule.Step before after) :
    after.connected = before.connected := by
  cases step with
  | send slot packet now first whole => exact (Schedule.send_frame before slot packet).1
  | _ => rfl

theorem kept_step (step : Schedule.Step before after) (kept : Kept before) : Kept after where
  sound := Schedule.sound_step step kept.sound
  followed := by
    intro connected
    have before_connected := (connected_step step).symm.trans connected
    exact Schedule.followed_step step before_connected kept.sound
      (kept.followed before_connected)

theorem kept_steps (steps : Relation.ReflTransGen Schedule.Step before after) (kept : Kept before) :
    Kept after := by
  induction steps with
  | refl => exact kept
  | tail _ step ih => exact kept_step step ih

theorem sound_steps
    (steps : Relation.ReflTransGen Schedule.Step before after) (sound : before.Sound) :
    after.Sound := by
  induction steps with
  | refl => exact sound
  | tail _ step ih => exact Schedule.sound_step step ih

theorem Starts.steps (starts : Starts before after) :
    Relation.ReflTransGen Schedule.Step before after := by
  induction starts with
  | refl => exact .refl
  | start _ slot fresh valid ih => exact ih.tail (.start slot fresh valid)

theorem usTrigger_cases {mac after : Mac}
    (returned : WIFI_usTrigger mac replies arrivals = some after) :
    (∃ slot, (counters mac).schedule.current = some slot ∧
      Transmits (Carries (counters mac) slot) (counters mac).schedule slot after.schedule) ∨
    ((counters mac).schedule.current = none ∧
      Starts (counters mac).schedule after.schedule) := by
  unfold WIFI_usTrigger at returned
  obtain ⟨middle,done,rfl⟩ := Option.map_eq_some_iff.mp returned
  rw [schedule_msTrigger]
  cases current : (counters mac).TXCurSlot with
  | some slot =>
      rw [current] at done
      exact Or.inl ⟨slot,current,transmits done⟩
  | none =>
      rw [current] at done
      obtain rfl := Option.some.inj done
      exact Or.inr ⟨current,starts_receive (counters mac)⟩

theorem transmits_steps {mac after : Mac}
    (transmits : Transmits (Carries mac slot) mac.schedule slot after.schedule)
    (now : mac.schedule.current = some slot) :
    Relation.ReflTransGen Schedule.Step mac.schedule after.schedule :=
  transmits.steps (fun _packet content => content.length) now

theorem apply_steps {mac after : Mac} (returned : apply mac op = some after) :
    Relation.ReflTransGen Schedule.Step mac.schedule after.schedule := by
  cases op with
  | power2 wifi =>
      obtain rfl := Option.some.inj returned
      exact .refl
  | write16 addr val =>
      obtain rfl := Option.some.inj returned
      exact (starts_write16 mac addr val).steps
  | usTrigger replies arrivals =>
      have counted := (Relation.ReflTransGen.single .elapse).trans (starts_counters mac).steps
      rcases usTrigger_cases returned with ⟨slot,now,transmits⟩ | ⟨_idle,received⟩
      · exact counted.trans (transmits_steps transmits now)
      · exact counted.trans received.steps

theorem kept_Reset (before : Mac) (mode : Nat) : Kept (WIFI_Reset before mode).schedule where
  sound :=
    { current_iff := iff_of_true rfl rfl
      current_busy := fun _slot now => by cases now
      remaining := fun slot busy => by
        change (0#16).getLsbD slot = true at busy
        rw [BitVec.getLsbD_zero] at busy
        cases busy
      mask := fun slot busy => by
        change (0#16).getLsbD slot = true at busy
        rw [BitVec.getLsbD_zero] at busy
        cases busy
      preamble := fun _slot => le_refl 0
      six := by
        change (0 : u16).toNat < 2 ^ 6
        decide }
  followed := by
    intro _connected slot
    have idle : (WIFI_Reset before mode).schedule.busy slot = false := by
      change (0#16).getLsbD slot = false
      exact BitVec.getLsbD_zero
    unfold Schedule.phase
    rw [idle]
    rfl

theorem final_none (ops : List Op) : Run.final step none ops = none := by
  induction ops with
  | nil => rfl
  | cons op rest ih => exact ih

theorem final_induction (holds : Mac → Prop)
    (preserved : ∀ mac op after, holds mac → apply mac op = some after → holds after)
    {mac after : Mac} (initial : holds mac)
    (returned : Run.final step (some mac) ops = some after) : holds after := by
  induction ops generalizing mac with
  | nil => exact Option.some.inj returned ▸ initial
  | cons op rest ih =>
      rw [Run.final_cons] at returned
      cases next : apply mac op with
      | none =>
          have stuck : step (some mac) op = none := next
          rw [stuck,final_none] at returned
          cases returned
      | some middle =>
          have moved : step (some mac) op = some middle := next
          rw [moved] at returned
          exact ih (preserved mac op middle initial next) returned

theorem kept_final {mac after : Mac} (kept : Kept mac.schedule)
    (returned : Run.final step (some mac) ops = some after) : Kept after.schedule :=
  final_induction (fun mac => Kept mac.schedule)
    (fun _mac _op _after kept moved => kept_steps (apply_steps moved) kept) kept returned

def Quiet (first second : List Event) : Prop :=
  ∃ fresh, second = first ++ fresh ∧ ∀ slot, NoStart slot fresh

theorem NoStart.of_append {first second : List Event}
    (none : NoStart slot (first ++ second)) : NoStart slot first ∧ NoStart slot second :=
  ⟨fun CurAddr hwords member => none CurAddr hwords (List.mem_append_left second member),
    fun CurAddr hwords member => none CurAddr hwords (List.mem_append_right first member)⟩

theorem Quiet.split {first middle last : List Event} (quiet : Quiet first last)
    (front : first <+: middle) (back : middle <+: last) :
    Quiet first middle ∧ Quiet middle last := by
  obtain ⟨fresh,rfl,none⟩ := quiet
  obtain ⟨early,rfl⟩ := front
  obtain ⟨late,same⟩ := back
  rw [List.append_assoc,List.append_cancel_left_eq] at same
  subst same
  exact ⟨⟨early,rfl,fun slot => (none slot).of_append.1⟩,
    ⟨late,(List.append_assoc first early late).symm,fun slot => (none slot).of_append.2⟩⟩

theorem log_step (step : Schedule.Step before after) : before.log <+: after.log := by
  cases step with
  | elapse => exact List.prefix_refl _
  | start slot fresh valid => exact List.prefix_append _ _
  | countdown slot now preamble => exact List.prefix_refl _
  | send slot packet now first whole =>
      unfold Schedule.send
      dsimp only
      split
      · exact List.prefix_append _ _
      · exact List.prefix_refl _
  | halfword slot now begun more => exact List.prefix_refl _
  | finish slot now begun last => exact List.prefix_append _ _

theorem log_steps
    (steps : Relation.ReflTransGen Schedule.Step before after) : before.log <+: after.log := by
  induction steps with
  | refl => exact List.prefix_refl _
  | tail _ step ih => exact ih.trans (log_step step)

theorem Starts.eq_of_quiet (starts : Starts before after)
    (quiet : Quiet before.log after.log) : after = before := by
  cases starts with
  | refl => rfl
  | @start middle earlier slot fresh valid =>
      obtain ⟨added,same,none⟩ := quiet
      obtain ⟨early,more⟩ := log_steps earlier.steps
      change middle.log ++ [_] = _ at same
      rw [← more,List.append_assoc,List.append_cancel_left_eq] at same
      refine absurd ?_ (none slot fresh.CurAddr fresh.RemHWords.toNat)
      rw [← same]
      exact List.mem_append_right early (List.mem_singleton_self _)

theorem log_final {mac after : Mac}
    (returned : Run.final step (some mac) ops = some after) : mac.log <+: after.log :=
  final_induction (fun middle => mac.log <+: middle.log)
    (fun _middle _op _next grown moved => grown.trans (log_steps (apply_steps moved)))
    (List.prefix_refl mac.log) returned

def share (sched : Schedule) (slot : SlotIndex) : Nat :=
  if sched.busy slot then
    (sched.slots slot).RemPreamble.toNat + (sched.slots slot).RemHWords.toNat
  else 0

def weight (sched : Schedule) : Nat := ∑ slot, share sched slot

/-- An upper bound on the ticks that are left: a halfword waits for at most 16. -/
def work (sched : Schedule) : Nat := 16 * weight sched + (15 - sched.timer.toNat % 16)

theorem weight_lt (slot : SlotIndex)
    (others : ∀ other, other ≠ slot → share after other = share before other)
    (less : share after slot < share before slot) : weight after < weight before := by
  refine Finset.sum_lt_sum ?_ ⟨slot,Finset.mem_univ slot,less⟩
  intro other _member
  by_cases here : other = slot
  · rw [here]
    exact le_of_lt less
  · exact le_of_eq (others other here)

theorem share_congr
    (busy : after.busy slot = before.busy slot) (slots : after.slots slot = before.slots slot) :
    share after slot = share before slot := by
  unfold share
  rw [busy,slots]

variable {sched : Schedule}

theorem share_busy (busy : sched.busy slot = true) :
    share sched slot =
      (sched.slots slot).RemPreamble.toNat + (sched.slots slot).RemHWords.toNat :=
  if_pos busy

theorem weight_countdown
    (busy : sched.busy slot = true) (preamble : 0 < (sched.slots slot).RemPreamble) :
    weight (sched.countdown slot) < weight sched := by
  apply weight_lt slot
  · intro other ne
    refine share_congr rfl ?_
    rw [Schedule.slots_countdown,if_neg ne]
  · rw [share_busy (show (sched.countdown slot).busy slot = true from busy),share_busy busy,
      Schedule.slots_countdown,if_pos rfl]
    dsimp only
    omega

theorem weight_halfword
    (busy : sched.busy slot = true) (positive : 1 ≤ (sched.slots slot).RemHWords) :
    weight (sched.halfword slot) < weight sched := by
  apply weight_lt slot
  · intro other ne
    refine share_congr rfl ?_
    rw [Schedule.slots_halfword,if_neg ne]
  · rw [share_busy (show (sched.halfword slot).busy slot = true from busy),share_busy busy,
      Schedule.slots_halfword,if_pos rfl]
    dsimp only
    omega

theorem weight_finish
    (busy : sched.busy slot = true) (positive : 1 ≤ (sched.slots slot).RemHWords) :
    weight (sched.finish slot) < weight sched := by
  apply weight_lt slot
  · intro other ne
    refine share_congr ?_ ?_
    · rw [Schedule.busy_finish,decide_eq_false ne,Bool.not_false,Bool.and_true]
    · rw [Schedule.slots_finish,if_neg ne]
  · have idle : (sched.finish slot).busy slot = false := by
      rw [Schedule.busy_finish,decide_eq_true rfl,Bool.not_true,Bool.and_false]
    rw [share_busy busy,share,idle]
    change 0 < _
    omega

theorem weight_send (sched : Schedule) (slot : SlotIndex) (packet : List u16) :
    weight (sched.send slot packet) = weight sched := by
  have TXBusy := (Schedule.send_frame sched slot packet).2.2.2
  refine Finset.sum_congr rfl ?_
  intro other _member
  unfold share Schedule.busy
  rw [TXBusy,Schedule.slots_send]
  split
  next here =>
      split
      next same => rw [same]
      next => rfl
  next => rfl

theorem Transmits.progress {sched : Schedule} (transmits : Transmits carries sched slot after)
    (sound : sched.Sound) (now : sched.current = some slot) :
    (weight after < weight sched ∧ after.timer = sched.timer) ∨
      (after = sched ∧
        sched.timer &&& (sched.slots slot).TimeMask.setWidth 64 ≠ 0) := by
  have advance {sched : Schedule} (busy : sched.busy slot = true)
      (positive : 1 ≤ (sched.slots slot).RemHWords) :
      weight (if (sched.slots slot).RemHWords = 1 then sched.finish slot
          else sched.halfword slot) < weight sched ∧
        (if (sched.slots slot).RemHWords = 1 then sched.finish slot
          else sched.halfword slot).timer = sched.timer := by
    split
    · exact ⟨weight_finish busy positive,rfl⟩
    · exact ⟨weight_halfword busy positive,rfl⟩
  have busy := sound.current_busy slot now
  cases transmits with
  | countdown preamble => exact Or.inl ⟨weight_countdown busy preamble,rfl⟩
  | wait between => exact Or.inr ⟨rfl,between⟩
  | first packet NotStarted content sent =>
      obtain ⟨_connected,timer,_current,TXBusy⟩ :=
        Schedule.send_frame sched slot packet
      have sent_busy : (sched.send slot packet).busy slot = true := by
        unfold Schedule.busy
        rw [TXBusy]
        exact busy
      have positive : 1 ≤ ((sched.send slot packet).slots slot).RemHWords := by
        rw [Schedule.slots_send,if_pos rfl]
        exact sound.remaining slot busy
      obtain ⟨less,same⟩ := advance sent_busy positive
      rw [weight_send] at less
      rw [sent]
      exact Or.inl ⟨less,same.trans timer⟩
  | later begun sent =>
      rw [sent]
      exact Or.inl (advance busy (sound.remaining slot busy))

theorem and_mask_eq_zero {timer : u64} {mask : u32} (known : mask = 7 ∨ mask = 15)
    (round : timer.toNat % 16 = 0) : timer &&& mask.setWidth 64 = 0 := by
  apply BitVec.eq_of_toNat_eq
  rw [BitVec.toNat_and]
  rcases known with rfl | rfl
  · change timer.toNat &&& (2 ^ 3 - 1) = 0
    rw [Nat.and_two_pow_sub_one_eq_mod]
    omega
  · change timer.toNat &&& (2 ^ 4 - 1) = 0
    rw [Nat.and_two_pow_sub_one_eq_mod]
    omega

theorem weight_elapse (sched : Schedule) : weight sched.elapse = weight sched := rfl

theorem timer_elapse (sched : Schedule) :
    sched.elapse.timer.toNat % 16 = (sched.timer.toNat + 1) % 16 := by
  change (sched.timer + 1).toNat % 16 = _
  rw [BitVec.toNat_add]
  change (sched.timer.toNat + 1) % 2 ^ 64 % 16 = _
  rw [Nat.mod_mod_of_dvd]
  exact ⟨2 ^ 60,by decide⟩

theorem work_usTrigger {mac after : Mac}
    (returned : WIFI_usTrigger mac replies arrivals = some after)
    (sound : mac.schedule.Sound) (quiet : Quiet mac.log after.log) :
    after.TXBusy = 0 ∨ (mac.TXBusy ≠ 0 ∧ work after.schedule < work mac.schedule) := by
  have started := starts_counters mac
  have elapsed : mac.schedule.elapse.Sound := Schedule.sound_step .elapse sound
  have front : mac.log <+: (counters mac).log := log_steps started.steps
  rcases usTrigger_cases returned with ⟨slot,now,transmits⟩ | ⟨idle,received⟩
  · have back := log_steps (transmits_steps transmits now)
    have same := started.eq_of_quiet (quiet.split front back).1
    rw [same] at now transmits
    have later := timer_elapse mac.schedule
    have busy := elapsed.current_busy slot now
    have running : mac.TXBusy ≠ 0 := Schedule.ne_zero_of_busy busy
    rcases transmits.progress elapsed now with ⟨less,timer⟩ | ⟨waited,between⟩
    · rw [weight_elapse] at less
      refine Or.inr ⟨running,?_⟩
      unfold work
      omega
    · have known := elapsed.mask slot busy
      have round : mac.schedule.elapse.timer.toNat % 16 ≠ 0 :=
        fun zero => between (and_mask_eq_zero known zero)
      refine Or.inr ⟨running,?_⟩
      unfold work
      rw [waited,weight_elapse]
      omega
  · have back := log_steps received.steps
    obtain ⟨early,late⟩ := quiet.split front back
    have same := (received.eq_of_quiet late).trans (started.eq_of_quiet early)
    have free : (counters mac).schedule.TXBusy = 0 := by
      rw [started.eq_of_quiet early] at idle ⊢
      exact elapsed.current_iff.mp idle
    rw [started.eq_of_quiet early] at free
    exact Or.inl ((congrArg Schedule.TXBusy same).trans free)

def isTick : Op → Bool
  | .usTrigger _ _ => true
  | _ => false

def ticks (ops : List Op) : Nat := ops.countP isTick

theorem work_final {mac after : Mac} (kept : Kept mac.schedule)
    (returned : Run.final step (some mac) ops = some after) (quiet : Quiet mac.log after.log) :
    after.TXBusy = 0 ∨
      (mac.TXBusy ≠ 0 ∧ work after.schedule + ticks ops ≤ work mac.schedule) := by
  induction ops generalizing mac with
  | nil =>
      obtain rfl := Option.some.inj returned
      by_cases idle : mac.TXBusy = 0
      · exact Or.inl idle
      · exact Or.inr ⟨idle,le_refl _⟩
  | cons op rest ih =>
      rw [Run.final_cons] at returned
      cases next : apply mac op with
      | none =>
          have stuck : step (some mac) op = none := next
          rw [stuck,final_none] at returned
          cases returned
      | some middle =>
          have moved : step (some mac) op = some middle := next
          rw [moved] at returned
          have kept_middle := kept_steps (apply_steps next) kept
          have front : mac.log <+: middle.log := log_steps (apply_steps next)
          obtain ⟨here,later⟩ := quiet.split front (log_final returned)
          have rest_work := ih kept_middle returned later
          cases op with
          | power2 wifi =>
              obtain rfl := Option.some.inj next
              exact rest_work
          | write16 addr val =>
              obtain rfl := Option.some.inj next
              have same := (starts_write16 mac addr val).eq_of_quiet here
              have TXBusy : (WIFI_write16 mac addr val).TXBusy = mac.TXBusy :=
                congrArg Schedule.TXBusy same
              rw [same,TXBusy] at rest_work
              exact rest_work
          | usTrigger replies arrivals =>
              have counted : ticks (.usTrigger replies arrivals :: rest) = ticks rest + 1 :=
                List.countP_cons_of_pos rfl
              rcases rest_work with idle | ⟨running,bound⟩
              · exact Or.inl idle
              · rcases work_usTrigger next kept.sound here with idle | ⟨before,less⟩
                · exact absurd idle running
                · exact Or.inr ⟨before,by omega⟩

theorem idle_of_ticks {mac after : Mac} (kept : Kept mac.schedule)
    (returned : Run.final step (some mac) ops = some after) (quiet : Quiet mac.log after.log)
    (enough : work mac.schedule ≤ ticks ops) : after.TXBusy = 0 := by
  rcases work_final kept returned quiet with idle | ⟨_running,bound⟩
  · exact idle
  · have spent : weight after.schedule = 0 := by
      unfold work at bound enough
      omega
    have sound := (kept_final kept returned).sound
    have current : after.schedule.current = none := by
      cases now : after.schedule.current with
      | none => rfl
      | some slot =>
          have busy := sound.current_busy slot now
          have positive := sound.remaining slot busy
          have none := (Finset.sum_eq_zero_iff.mp spent) slot (Finset.mem_univ slot)
          rw [share_busy busy] at none
          omega
    exact sound.current_iff.mp current

/-! ### The events of one operation -/

/-- A packet carries the frame of its slot, and the end of a transmission clears
the slot's bit and makes the highest busy slot the current one. -/
def Explained (before after : Mac) : Event → Prop
  | .started _ _ _ => True
  | .SendPacket slot CurAddr packet =>
      CurAddr = ((counters before).TXSlots slot).CurAddr ∧
        Carries (counters before) slot packet
  | .ended slot =>
      after.busy slot = false ∧
        (∀ next, after.TXCurSlot = some next →
          after.busy next = true ∧ ∀ higher, next < higher → after.busy higher = false) ∧
        (after.TXCurSlot = none → ∀ other, after.busy other = false)

theorem starts_events (starts : Starts before after) :
    ∃ fresh, after.log = before.log ++ fresh ∧
      ∀ event ∈ fresh, ∃ slot CurAddr hwords, event = .started slot CurAddr hwords := by
  induction starts with
  | refl => exact ⟨[],(List.append_nil _).symm,fun _event member => nomatch member⟩
  | start _ slot fresh valid ih =>
      obtain ⟨early,same,started⟩ := ih
      refine ⟨early ++ [.started slot fresh.CurAddr fresh.RemHWords.toNat],?_,?_⟩
      · rw [← List.append_assoc,← same]
        rfl
      · intro event member
        rcases List.mem_append.mp member with old | new
        · exact started event old
        · exact ⟨slot,_,_,List.mem_singleton.mp new⟩

theorem explained_finish {before after : Mac} {sched : Schedule}
    (six : sched.TXBusy.toNat < 2 ^ 6) (finished : after.schedule = sched.finish slot) :
    Explained before after (.ended slot) := by
  have six_after := Schedule.six_finish sched slot six
  have current : after.TXCurSlot = nextslot after.TXBusy := by
    have now := congrArg Schedule.current finished
    have TXBusy : after.TXBusy = (sched.finish slot).TXBusy :=
      congrArg Schedule.TXBusy finished
    rw [TXBusy]
    exact now
  rw [← finished] at six_after
  refine ⟨?_,?_,?_⟩
  · change after.schedule.busy slot = false
    rw [finished,Schedule.busy_finish,decide_eq_true rfl,Bool.not_true,Bool.and_false]
  · intro next now
    rw [current] at now
    exact ⟨Schedule.nextslot_busy now,
      fun higher above => Schedule.nextslot_highest now higher above⟩
  · intro none other
    rw [current] at none
    have zero : after.TXBusy = 0#16 := (Schedule.nextslot_eq_none six_after).mp none
    rw [Mac.busy,zero,BitVec.getLsbD_zero]

theorem transmits_events {before after : Mac}
    (transmits : Transmits (Carries (counters before) slot) (counters before).schedule slot
      after.schedule) (sound : (counters before).schedule.Sound) :
    ∃ fresh, after.log = (counters before).log ++ fresh ∧
      ∀ event ∈ fresh, Explained before after event := by
  have advance {sched : Schedule} (six : sched.TXBusy.toNat < 2 ^ 6)
      (sent : after.schedule =
        if (sched.slots slot).RemHWords = 1 then sched.finish slot
        else sched.halfword slot) :
      ∃ fresh, after.log = sched.log ++ fresh ∧
        ∀ event ∈ fresh, Explained before after event := by
    by_cases last : (sched.slots slot).RemHWords = 1
    · rw [if_pos last] at sent
      refine ⟨[.ended slot],congrArg Schedule.log sent,fun event member => ?_⟩
      rw [List.mem_singleton.mp member]
      exact explained_finish six sent
    · rw [if_neg last] at sent
      exact ⟨[],(congrArg Schedule.log sent).trans (List.append_nil _).symm,
        fun _event member => nomatch member⟩
  generalize after_schedule : after.schedule = sched at transmits
  cases transmits with
  | countdown preamble =>
      exact ⟨[],(congrArg Schedule.log after_schedule).trans (List.append_nil _).symm,
        fun _event member => nomatch member⟩
  | wait between =>
      exact ⟨[],(congrArg Schedule.log after_schedule).trans (List.append_nil _).symm,
        fun _event member => nomatch member⟩
  | first packet NotStarted content sent =>
      have frame := Schedule.send_frame (counters before).schedule slot packet
      have six : ((counters before).schedule.send slot packet).TXBusy.toNat < 2 ^ 6 := by
        rw [frame.2.2.2]
        exact sound.six
      obtain ⟨late,grown,explained⟩ := advance six (after_schedule.trans sent)
      by_cases connected : (counters before).wifiCom = true
      · have log : ((counters before).schedule.send slot packet).log =
            (counters before).log ++
              [.SendPacket slot ((counters before).TXSlots slot).CurAddr packet] := by
          unfold Schedule.send
          rw [show (counters before).schedule.connected = true from connected]
          rfl
        rw [log,List.append_assoc] at grown
        refine ⟨_,grown,fun event member => ?_⟩
        rcases List.mem_cons.mp member with rfl | later
        · exact ⟨rfl,content⟩
        · exact explained event later
      · have log : ((counters before).schedule.send slot packet).log =
            (counters before).log := by
          unfold Schedule.send
          rw [show (counters before).schedule.connected = false from
            Bool.eq_false_iff.mpr connected]
          rfl
        rw [log] at grown
        exact ⟨late,grown,explained⟩
  | later begun sent => exact advance sound.six (after_schedule.trans sent)

theorem apply_events {before after : Mac} (sound : before.schedule.Sound)
    (returned : apply before op = some after) :
    ∃ fresh, after.log = before.log ++ fresh ∧
      ∀ event ∈ fresh, Explained before after event := by
  have onlyStarts {first second : Schedule} (starts : Starts first second) :
      ∃ fresh, second.log = first.log ++ fresh ∧
        ∀ event ∈ fresh, Explained before after event := by
    obtain ⟨fresh,grown,started⟩ := starts_events starts
    refine ⟨fresh,grown,fun event member => ?_⟩
    obtain ⟨slot,CurAddr,hwords,rfl⟩ := started event member
    trivial
  cases op with
  | power2 wifi =>
      obtain rfl := Option.some.inj returned
      exact ⟨[],(List.append_nil _).symm,fun _event member => nomatch member⟩
  | write16 addr val =>
      obtain rfl := Option.some.inj returned
      exact onlyStarts (starts_write16 before addr val)
  | usTrigger replies arrivals =>
      obtain ⟨early,counted,counted_explained⟩ := onlyStarts (starts_counters before)
      have sound_counted : (counters before).schedule.Sound :=
        sound_steps (starts_counters before).steps (Schedule.sound_step .elapse sound)
      have rest : ∃ late, after.log = (counters before).log ++ late ∧
          ∀ event ∈ late, Explained before after event := by
        rcases usTrigger_cases returned with ⟨slot,now,transmits⟩ | ⟨_idle,received⟩
        · exact transmits_events transmits sound_counted
        · exact onlyStarts received
      obtain ⟨late,grown,explained⟩ := rest
      have log : (counters before).log = before.log ++ early := counted
      rw [log,List.append_assoc] at grown
      refine ⟨early ++ late,grown,fun event member => ?_⟩
      rcases List.mem_append.mp member with old | new
      · exact counted_explained event old
      · exact explained event new

/-- The current slot is about to send a frame whose length field is below four:
the checksum of a frame of negative length. -/
def BeginsShortFrame (mac : Mac) (slot : SlotIndex) : Prop :=
  (counters mac).TXCurSlot = some slot ∧
    ((counters mac).TXSlots slot).NotStarted = true ∧
      ((counters mac).mem ((((counters mac).TXSlots slot).RegVal &&& 0x0FFF).toNat + 5) &&&
        0x3FFF).toNat < 4

variable {mac : Mac}

theorem PreTXAdjustments_none (stuck : WIFI_PreTXAdjustments mac slot = none) :
    (mac.mem (((mac.TXSlots slot).RegVal &&& 0x0FFF).toNat + 5) &&& 0x3FFF).toNat < 4 := by
  unfold WIFI_PreTXAdjustments at stuck
  have crc := Option.map_eq_none_iff.mp stuck
  unfold WIFI_calcCRC32 at crc
  by_cases negative :
      ((mac.mem (((mac.TXSlots slot).RegVal &&& 0x0FFF).toNat + 5) &&& 0x3FFF).toNat - 4 : Int) < 0
  · omega
  · rw [if_neg negative] at crc
    cases crc

theorem transmit_none (stuck : transmit mac slot replies = none) :
    (mac.TXSlots slot).NotStarted = true ∧ WIFI_PreTXAdjustments mac slot = none := by
  unfold transmit at stuck
  dsimp only at stuck
  split at stuck
  next => cases stuck
  next =>
      split at stuck
      next =>
          have begun := Option.map_eq_none_iff.mp stuck
          cases fresh : (mac.TXSlots slot).NotStarted with
          | true =>
              rw [fresh,if_pos rfl] at begun
              exact ⟨rfl,Option.map_eq_none_iff.mp begun⟩
          | false =>
              rw [fresh] at begun
              cases begun
      next => cases stuck

theorem apply_none (stuck : apply mac op = none) : ∃ slot, BeginsShortFrame mac slot := by
  cases op with
  | power2 wifi => cases stuck
  | write16 addr val => cases stuck
  | usTrigger replies arrivals =>
      change WIFI_usTrigger mac replies arrivals = none at stuck
      unfold WIFI_usTrigger at stuck
      have inner := Option.map_eq_none_iff.mp stuck
      cases current : (counters mac).TXCurSlot with
      | none =>
          rw [current] at inner
          cases inner
      | some slot =>
          rw [current] at inner
          obtain ⟨NotStarted,preTX⟩ := transmit_none inner
          exact ⟨slot,current,NotStarted,PreTXAdjustments_none preTX⟩

/-- A slot is current exactly while one is busy, and it has something to send. -/
structure CurrentSlot (mac : Mac) : Prop where
  none_iff : mac.TXCurSlot = none ↔ mac.TXBusy = 0
  busy : ∀ slot, mac.TXCurSlot = some slot →
    mac.busy slot = true ∧ 1 ≤ (mac.TXSlots slot).RemHWords

def AllSent (mac after : Mac) : Prop :=
  ∀ slot earlier CurAddr hwords between,
    mac.log = earlier ++ .started slot CurAddr hwords :: between → NoStart slot between →
      ∃ packet, sends slot (after.log.drop (earlier.length + 1)) = [(CurAddr, packet)] ∧
        packet.length = hwords

theorem oncePerStart_of_kept (kept : Kept mac.schedule)
    (connected : mac.wifiCom = true) (slot : SlotIndex) : OncePerStart slot mac.log :=
  oncePerStart_of_follow (kept.followed connected slot)

theorem connected_final {mac after : Mac}
    (returned : Run.final step (some mac) ops = some after) : after.wifiCom = mac.wifiCom := by
  have steps_connected {before after : Schedule}
      (steps : Relation.ReflTransGen Schedule.Step before after) :
      after.connected = before.connected := by
    induction steps with
    | refl => rfl
    | tail _ step ih => exact (connected_step step).trans ih
  exact final_induction (fun middle => middle.wifiCom = mac.wifiCom)
    (fun _middle _op _next same moved => (steps_connected (apply_steps moved)).trans same)
    rfl returned

theorem allSent_of_idle {mac after : Mac} (kept : Kept after.schedule)
    (connected : after.wifiCom = true) (quiet : Quiet mac.log after.log)
    (idle : after.TXBusy = 0) : AllSent mac after := by
  intro slot earlier CurAddr hwords between split noStart
  obtain ⟨fresh,grown,none⟩ := quiet
  have log : after.log = earlier ++ .started slot CurAddr hwords :: (between ++ fresh) := by
    rw [grown,split,List.append_assoc,List.cons_append]
  have rest : after.log.drop (earlier.length + 1) = between ++ fresh := by
    rw [log,List.drop_append]
    simp
  have free : after.schedule.busy slot = false := by
    have zero : after.TXBusy = 0#16 := idle
    change after.TXBusy.getLsbD slot = false
    rw [zero,BitVec.getLsbD_zero]
  have followed := kept.followed connected slot
  rw [show after.schedule.log = after.log from rfl,log] at followed
  have quietRest : NoStart slot (between ++ fresh) := by
    intro CurAddr hwords member
    rcases List.mem_append.mp member with old | new
    · exact noStart CurAddr hwords old
    · exact none slot CurAddr hwords new
  rw [rest]
  rcases follow_waiting quietRest (follow_started followed) with ⟨waiting,_silent⟩ | ⟨_done,once⟩
  · rw [Schedule.phase,free] at waiting
    cases waiting
  · exact once

/-- In every state a run from reset reaches: the current slot is busy and has
halfwords left; between two starts of a slot at most one packet goes out, and
exactly one when the slot ends; each packet is the frame of its slot; the end
clears the slot's bit and hands over to the highest busy slot; only a frame of
negative length does not return. Once no slot is started any more, enough ticks
end them all with one packet for each last start. -/
theorem transmissions_follow_starts (before : Mac) (mode : Nat) (ops : List Op) (mac : Mac)
    (returned : Run.final step (some (WIFI_Reset before mode)) ops = some mac) :
    CurrentSlot mac ∧
      (mode ≠ 2 → ∀ slot, OncePerStart slot mac.log) ∧
      (∀ op after, apply mac op = some after →
        ∃ fresh, after.log = mac.log ++ fresh ∧ ∀ event ∈ fresh, Explained mac after event) ∧
      (∀ op, apply mac op = none → ∃ slot, BeginsShortFrame mac slot) ∧
      (∀ later after, Run.final step (some mac) later = some after →
        Quiet mac.log after.log → work mac.schedule ≤ ticks later →
          after.TXBusy = 0 ∧ (mode ≠ 2 → AllSent mac after)) := by
  have kept := kept_final (kept_Reset before mode) returned
  have connected (present : mode ≠ 2) : mac.wifiCom = true := by
    rw [connected_final returned]
    exact decide_eq_true present
  refine ⟨⟨kept.sound.current_iff,fun slot now => ?_⟩,?_,?_,?_,?_⟩
  · have busy := kept.sound.current_busy slot now
    exact ⟨busy,kept.sound.remaining slot busy⟩
  · exact fun present => oncePerStart_of_kept kept (connected present)
  · exact fun op after moved => apply_events kept.sound moved
  · exact fun op stuck => apply_none stuck
  · intro later after finished quiet enough
    have idle := idle_of_ticks kept finished quiet enough
    refine ⟨idle,fun present => ?_⟩
    have connected_after := (connected_final finished).trans (connected present)
    exact allSent_of_idle (kept_final kept finished) connected_after quiet idle

def silent : Mac where
  power2_wifi := true
  wifiCom := true
  arm7Irq := false
  IE := 0
  IF := 0
  macMode := 0
  TXStatCnt := 0
  TXCnt := 0
  TXStat := 0
  TXSeqNo := 0
  TXSlots := fun _ => Wifi_TXSlot.zero
  TXCurSlot := none
  TXBusy := 0
  RXCnt := 0
  RXNum := 0
  RXPacketQueue := []
  RXStatIncIF := 0
  RXStatIncIE := 0
  RXStatOvfIF := 0
  RXStatOvfIE := 0
  RXStat := fun _ => 0
  RXTXAddr := 0
  pid := 0
  GlobalUsecTimer := 0
  crystalEnabled := false
  usec := 0
  usecEnable := false
  ucmp := 0
  ucmpEnable := false
  eCount := 0
  eCountEnable := false
  BeaconInterval := 0
  BeaconCount1 := 0
  BeaconCount2 := 0
  ListenInterval := 0
  ListenCount := 0
  mem := fun _ => 0
  log := []

def requestFrame : List Op :=
  [.write16 0x04804008 20,.write16 0x0480400A 4,.write16 0x048080BC 4,
    .write16 0x048080A0 0xA000,.write16 0x048080AE 1]

def requestTwice : List Op :=
  requestFrame ++ List.replicate 104 (.usTrigger [] []) ++ [.write16 0x048080AE 1] ++
    List.replicate 120 (.usTrigger [] [])

theorem requestTwice_log :
    (Run.final step (some (WIFI_Reset silent 0)) requestTwice).map Mac.log =
      some [.started 0 6 2,.SendPacket 0 6 [0,0],.started 0 6 2,.SendPacket 0 6 [0,0],
        .ended 0] := by
  decide +kernel

/-- From an accepted start of an idle slot to the end of the transmission exactly
one packet goes out. -/
def OncePerTransmission (slot : SlotIndex) (log : List Event) : Prop :=
  ∀ earlier CurAddr hwords between later,
    log = earlier ++ .started slot CurAddr hwords :: (between ++ .ended slot :: later) →
      Phase.idle.follow slot earlier = some .idle →
        Event.ended slot ∉ between → (sends slot between).length = 1

/-- A slot that is started again while its packet goes out sends it twice. -/
theorem restarted_slot_sends_twice :
    ¬ ∀ (before : Mac) (mode : Nat) (ops : List Op) (mac : Mac),
      Run.final step (some (WIFI_Reset before mode)) ops = some mac → mode ≠ 2 →
        ∀ slot, OncePerTransmission slot mac.log := by
  intro all
  obtain ⟨mac,returned,log⟩ := Option.map_eq_some_iff.mp requestTwice_log
  have once := all silent 0 requestTwice mac returned (by decide) 0 [] 6 2
    [.SendPacket 0 6 [0,0],.started 0 6 2,.SendPacket 0 6 [0,0]] [] log rfl (by decide)
  exact absurd once (by decide)

/-- The run that sends twice is one of those the theorem is about. -/
theorem transmissions_requestTwice :
    ∃ mac, Run.final step (some (WIFI_Reset silent 0)) requestTwice = some mac ∧
      CurrentSlot mac ∧ ∀ slot, OncePerStart slot mac.log := by
  obtain ⟨mac,returned,_log⟩ := Option.map_eq_some_iff.mp requestTwice_log
  obtain ⟨current,once,_rest⟩ :=
    transmissions_follow_starts silent 0 requestTwice mac returned
  exact ⟨mac,returned,current,once (by decide)⟩

end Desmume.Wifi
