/-
The microsecond counter, the two beacon counters and the compare interrupt.

The rest of a tick leaves the counters alone, so a run of ticks is a run of
`Timers`.
-/

import Desmume.Wifi.Interrupts

namespace Desmume.Wifi

namespace Timers

variable (timers : Timers)

def beacon : Timers :=
  { timers with
    BeaconCount1 := timers.BeaconInterval
    BeaconCount2 := if timers.ucmpEnable then 0xFFFF else timers.BeaconCount2
    raised := true }

def count : Timers :=
  if timers.usecEnable then { timers with usec := timers.usec + 1 } else timers

def post : Timers :=
  if timers.BeaconCount2 ≠ 0 then { timers with BeaconCount2 := timers.BeaconCount2 - 1 }
  else timers

def millisecond (preBeacon : u16) (timers : Timers) : Timers :=
  if timers.usec &&& 1023 = 0 then
    let timers := { timers with BeaconCount1 := timers.BeaconCount1 - 1 }
    post (if timers.BeaconCount1 = preBeacon then timers
      else if timers.BeaconCount1 = 0 then timers.beacon else timers)
  else timers

def compare : Timers :=
  if timers.ucmpEnable ∧ timers.ucmp = timers.usec then timers.beacon else timers

def crystal (preBeacon : u16) (timers : Timers) : Timers :=
  if timers.crystalEnabled then timers.count.millisecond preBeacon else timers

def tick (preBeacon : u16) (timers : Timers) : Timers := (timers.crystal preBeacon).compare

end Timers

variable (mac : Mac)

theorem timers_triggerIRQ :
    (WIFI_triggerIRQ mac WIFI_IRQ_TIMEBEACON).timers = mac.timers.beacon := by
  have raised (mac : Mac) :
      (WIFI_triggerIRQMask mac (BitVec.twoPow 16 WIFI_IRQ_TIMEBEACON)).timers =
        { mac.timers with raised := true } := by
    have set : (mac.IF ||| (BitVec.twoPow 16 WIFI_IRQ_TIMEBEACON &&& ~~~(0x0400 : u16))).getLsbD
        WIFI_IRQ_TIMEBEACON = true := by
      rw [BitVec.getLsbD_or]
      exact Bool.or_true _
    unfold WIFI_triggerIRQMask Mac.timers
    dsimp only
    rw [set]
  have listen (mac : Mac) : (listenTick mac).timers = mac.timers := rfl
  have reloaded : (timeBeacon mac).timers =
      { mac.timers.beacon with raised := mac.timers.raised } := by
    unfold timeBeacon Timers.beacon
    dsimp only
    split
    next compared =>
      rw [listen,(works_TXStart _ _).timers,
        if_pos (show mac.timers.ucmpEnable = true from compared)]
      rfl
    next uncompared =>
      rw [if_neg (show ¬ mac.timers.ucmpEnable = true from uncompared)]
      rfl
  unfold WIFI_triggerIRQ
  dsimp only
  rw [if_pos rfl,raised,reloaded]
  rfl

def Mac.preBeacon (mac : Mac) : u16 := mac.mem (WIFI_IOREG 0x110) >>> 10

theorem mem_TXStart (slot : SlotIndex) : (WIFI_TXStart mac slot).mem = mac.mem := by
  unfold WIFI_TXStart acceptStart
  dsimp only
  split_ifs <;> rfl

theorem timers_beaconTick : (beaconTick mac).timers = mac.timers.millisecond mac.preBeacon := by
  have posted (mac : Mac) : (postBeaconTick mac).timers = mac.timers.post := by
    unfold postBeaconTick Timers.post
    dsimp only
    by_cases running : mac.BeaconCount2 ≠ 0
    · rw [if_pos running,if_pos (show mac.timers.BeaconCount2 ≠ 0 from running)]
      split
      · exact (@works_triggerIRQ _ WIFI_IRQ_TIMEPOSTBEACON (by decide)).timers
      · rfl
    · rw [if_neg running,if_neg (show ¬ mac.timers.BeaconCount2 ≠ 0 from running)]
  unfold beaconTick Timers.millisecond Mac.preBeacon
  dsimp only
  by_cases elapsed : mac.usec &&& 1023 = 0
  · rw [if_pos elapsed,if_pos (show mac.timers.usec &&& 1023 = 0 from elapsed),posted]
    refine congrArg Timers.post ?_
    generalize mac.mem (WIFI_IOREG 0x110) >>> 10 = preBeacon
    by_cases before : mac.BeaconCount1 - 1 = preBeacon
    · rw [if_pos before,if_pos (show mac.timers.BeaconCount1 - 1 = _ from before)]
      exact (@works_triggerIRQ _ WIFI_IRQ_TIMEPREBEACON (by decide)).timers
    · rw [if_neg before,if_neg (show ¬ mac.timers.BeaconCount1 - 1 = _ from before)]
      by_cases zero : mac.BeaconCount1 - 1 = 0
      · rw [if_pos zero,if_pos (show mac.timers.BeaconCount1 - 1 = 0 from zero),
          timers_triggerIRQ]
        rfl
      · rw [if_neg zero,if_neg (show ¬ mac.timers.BeaconCount1 - 1 = 0 from zero)]
        rfl
  · rw [if_neg elapsed,if_neg (show ¬ mac.timers.usec &&& 1023 = 0 from elapsed)]

theorem eCountTick_keeps :
    (eCountTick mac).timers = mac.timers ∧ (eCountTick mac).mem = mac.mem := by
  unfold eCountTick
  dsimp only
  split
  · split
    · exact ⟨(works_TXStart _ _).timers,mem_TXStart _ _⟩
    · exact ⟨rfl,rfl⟩
  · exact ⟨rfl,rfl⟩

theorem timers_counters : (counters mac).timers = mac.timers.tick mac.preBeacon := by
  have counted (mac : Mac) :
      (usecTick mac).timers = mac.timers.count ∧ (usecTick mac).mem = mac.mem := by
    unfold usecTick Timers.count
    by_cases enabled : mac.usecEnable
    · rw [if_pos enabled,if_pos (show mac.timers.usecEnable = true from enabled)]
      exact ⟨rfl,rfl⟩
    · rw [if_neg enabled,if_neg (show ¬ mac.timers.usecEnable = true from enabled)]
      exact ⟨rfl,rfl⟩
  have crystal (mac : Mac) : (crystalTick mac).timers = mac.timers.crystal mac.preBeacon := by
    unfold crystalTick Timers.crystal
    by_cases enabled : mac.crystalEnabled
    · obtain ⟨timers,mem⟩ := eCountTick_keeps (usecTick mac)
      have same : (eCountTick (usecTick mac)).preBeacon = mac.preBeacon := by
        unfold Mac.preBeacon
        rw [mem,(counted mac).2]
      rw [if_pos enabled,if_pos (show mac.timers.crystalEnabled = true from enabled),
        timers_beaconTick,timers,(counted mac).1,same]
    · rw [if_neg enabled,if_neg (show ¬ mac.timers.crystalEnabled = true from enabled)]
  have compared (mac : Mac) : (compareTick mac).timers = mac.timers.compare := by
    unfold compareTick Timers.compare
    by_cases reached : mac.ucmpEnable ∧ mac.ucmp = mac.usec
    · rw [if_pos reached,timers_triggerIRQ,
        if_pos (show mac.timers.ucmpEnable ∧ mac.timers.ucmp = mac.timers.usec from reached)]
    · rw [if_neg reached,
        if_neg (show ¬ (mac.timers.ucmpEnable ∧ mac.timers.ucmp = mac.timers.usec) from reached)]
  unfold counters Timers.tick
  rw [compared,crystal]
  rfl

namespace Timers

variable (timers : Timers)

def Counts : Prop := timers.crystalEnabled = true ∧ timers.usecEnable = true

def Reaches : Prop := timers.Counts ∧ timers.usec + 1 &&& 1023 = 0

def BecomesEqual : Prop :=
  timers.Counts ∧ timers.ucmpEnable = true ∧ timers.ucmp = timers.usec + 1

def Fires (preBeacon : u16) : Prop :=
  (tick preBeacon { timers with raised := false }).raised = true

instance : Decidable timers.Counts := inferInstanceAs (Decidable (_ ∧ _))
instance : Decidable timers.Reaches := inferInstanceAs (Decidable (_ ∧ _))
instance (preBeacon : u16) : Decidable (timers.Fires preBeacon) :=
  inferInstanceAs (Decidable (_ = _))

structure Documented (preBeacon : u16) : Prop where
  counts : (tick preBeacon timers).usec =
    if timers.Counts then timers.usec + 1 else timers.usec
  beacon : (tick preBeacon timers).BeaconCount1 =
    if timers.Fires preBeacon then timers.BeaconInterval
    else if timers.Reaches then timers.BeaconCount1 - 1 else timers.BeaconCount1
  postBeacon : (tick preBeacon timers).BeaconCount2 ≤ timers.BeaconCount2 ∨
    timers.Fires preBeacon ∧ 0xFFFE ≤ (tick preBeacon timers).BeaconCount2
  compare : timers.BecomesEqual → timers.Fires preBeacon
  alone : timers.Fires preBeacon →
    timers.BecomesEqual ∨ timers.Reaches ∧ timers.BeaconCount1 = 1

def Steady : Prop :=
  ¬ (timers.crystalEnabled = true ∧ timers.usecEnable = false ∧ timers.usec &&& 1023 = 0) ∧
    ¬ (timers.ucmpEnable = true ∧ timers.ucmp = timers.usec ∧ ¬ timers.Counts)

def next : u64 := if timers.Counts then timers.usec + 1 else timers.usec

def Elapses : Prop := timers.crystalEnabled = true ∧ timers.next &&& 1023 = 0

def Matches : Prop := timers.ucmpEnable = true ∧ timers.ucmp = timers.next

instance : Decidable timers.Elapses := inferInstanceAs (Decidable (_ ∧ _))

def Expires (preBeacon : u16) : Prop :=
  timers.Elapses ∧ timers.BeaconCount1 - 1 ≠ preBeacon ∧ timers.BeaconCount1 - 1 = 0

variable (preBeacon : u16)

theorem crystal_cases :
    (¬ timers.Elapses ∧ timers.crystal preBeacon = { timers with usec := timers.next }) ∨
    (timers.Elapses ∧ ¬ timers.Expires preBeacon ∧ timers.crystal preBeacon =
      post { timers with usec := timers.next, BeaconCount1 := timers.BeaconCount1 - 1 }) ∨
    (timers.Expires preBeacon ∧ timers.crystal preBeacon =
      (beacon { timers with usec := timers.next }).post) := by
  by_cases enabled : timers.crystalEnabled = true
  · have counted : timers.count = { timers with usec := timers.next } := by
      unfold count
      by_cases counting : timers.usecEnable = true
      · have next : timers.next = timers.usec + 1 := if_pos ⟨enabled,counting⟩
        rw [if_pos counting,next]
      · have next : timers.next = timers.usec := if_neg fun both => counting both.2
        rw [if_neg counting,next]
    unfold crystal
    rw [if_pos enabled,counted]
    unfold millisecond
    dsimp only
    by_cases elapsed : timers.next &&& 1023 = 0
    · rw [if_pos elapsed]
      by_cases first : timers.BeaconCount1 - 1 = preBeacon
      · rw [if_pos first]
        exact .inr (.inl ⟨⟨enabled,elapsed⟩,fun expired => expired.2.1 first, rfl⟩)
      · rw [if_neg first]
        by_cases zero : timers.BeaconCount1 - 1 = 0
        · rw [if_pos zero]
          exact .inr (.inr ⟨⟨⟨enabled,elapsed⟩,first,zero⟩,rfl⟩)
        · rw [if_neg zero]
          exact .inr (.inl ⟨⟨enabled,elapsed⟩,fun expired => zero expired.2.2, rfl⟩)
    · rw [if_neg elapsed]
      exact .inl ⟨fun elapses => elapsed elapses.2, rfl⟩
  · have stopped : timers.next = timers.usec := if_neg fun both => enabled both.1
    refine .inl ⟨fun elapses => enabled elapses.1, ?_⟩
    rw [stopped]
    exact if_neg enabled

theorem post_cases : timers.post = timers ∨ timers.BeaconCount2 ≠ 0 ∧
    timers.post = { timers with BeaconCount2 := timers.BeaconCount2 - 1 } := by
  unfold post
  by_cases running : timers.BeaconCount2 ≠ 0
  · rw [if_pos running]
    exact .inr ⟨running,rfl⟩
  · rw [if_neg running]
    exact .inl rfl

theorem le_of_ne_zero {count : u16} (running : count ≠ 0) : count - 1 ≤ count := by
  bv_omega

structure Counted (after : Timers) : Prop where
  usec : after.usec = timers.next
  ucmp : after.ucmp = timers.ucmp
  ucmpEnable : after.ucmpEnable = timers.ucmpEnable
  interval : after.BeaconInterval = timers.BeaconInterval

structure Ticked (fires : Prop) (after : Timers) : Prop extends Counted timers after where
  raised : after.raised = true ↔ timers.raised = true ∨ fires
  reloaded : fires → after.BeaconCount1 = timers.BeaconInterval
  counted : ¬ fires → after.BeaconCount1 =
    if timers.Elapses then timers.BeaconCount1 - 1 else timers.BeaconCount1
  postBeacon : after.BeaconCount2 ≤ timers.BeaconCount2 ∨ fires ∧ 0xFFFE ≤ after.BeaconCount2

theorem beacon_BeaconCount2 :
    timers.beacon.BeaconCount2 = timers.BeaconCount2 ∨ timers.beacon.BeaconCount2 = 0xFFFF := by
  unfold beacon
  dsimp only
  split
  · exact .inr rfl
  · exact .inl rfl

variable {timers}

theorem Counted.beacon {fires : Prop} {after : Timers} (counted : timers.Counted after)
    (holds : fires)
    (high : after.BeaconCount2 ≤ timers.BeaconCount2 ∨ 0xFFFE ≤ after.BeaconCount2) :
    timers.Ticked fires after.beacon where
  usec := counted.usec
  ucmp := counted.ucmp
  ucmpEnable := counted.ucmpEnable
  interval := counted.interval
  raised := iff_of_true rfl (.inr holds)
  reloaded := fun _ => counted.interval
  counted := fun never => absurd holds never
  postBeacon := by
    obtain same | reset := after.beacon_BeaconCount2
    · rw [same]
      exact high.imp_right fun above => ⟨holds,above⟩
    · rw [reset]
      exact .inr ⟨holds,by decide⟩

theorem Ticked.post {fires : Prop} {after : Timers} (ticked : timers.Ticked fires after)
    (high : after.BeaconCount2 ≤ timers.BeaconCount2 ∨ fires ∧ after.BeaconCount2 = 0xFFFF) :
    timers.Ticked fires after.post := by
  obtain same | ⟨running,same⟩ := after.post_cases
  · rw [same]
    exact ticked
  · have down : after.BeaconCount2 - 1 ≤ timers.BeaconCount2 ∨
        fires ∧ 0xFFFE ≤ after.BeaconCount2 - 1 := by
      obtain low | ⟨fired,reset⟩ := high
      · exact .inl (BitVec.le_trans (le_of_ne_zero running) low)
      · rw [reset]
        exact .inr ⟨fired,by decide⟩
    rw [same]
    exact { ticked with postBeacon := down }

variable (timers)

theorem ticked_crystal : timers.Ticked (timers.Expires preBeacon) (timers.crystal preBeacon) := by
  have counted (passed : ¬ timers.Expires preBeacon) (count : u16)
      (same : count = if timers.Elapses then timers.BeaconCount1 - 1 else timers.BeaconCount1) :
      timers.Ticked (timers.Expires preBeacon)
        { timers with usec := timers.next, BeaconCount1 := count } :=
    { usec := rfl
      ucmp := rfl
      ucmpEnable := rfl
      interval := rfl
      raised := (or_iff_left passed).symm
      reloaded := fun expires => absurd expires passed
      counted := fun _ => same
      postBeacon := .inl (BitVec.le_refl _) }
  obtain ⟨quiet,same⟩ | ⟨elapses,passed,same⟩ | ⟨expires,same⟩ :=
    timers.crystal_cases preBeacon
  · rw [same]
    exact counted (fun expires => quiet expires.1) _ (if_neg quiet).symm
  · rw [same]
    exact (counted passed _ (if_pos elapses).symm).post (.inl (BitVec.le_refl _))
  · rw [same]
    have started : timers.Counted { timers with usec := timers.next } := ⟨rfl,rfl,rfl,rfl⟩
    refine (started.beacon expires (.inl (BitVec.le_refl _))).post ?_
    obtain kept | reset := beacon_BeaconCount2 { timers with usec := timers.next }
    · rw [kept]
      exact .inl (BitVec.le_refl _)
    · exact .inr ⟨expires,reset⟩

theorem ticked_tick :
    timers.Ticked (timers.Matches ∨ timers.Expires preBeacon) (tick preBeacon timers) := by
  have crystal := timers.ticked_crystal preBeacon
  have cond : ((timers.crystal preBeacon).ucmpEnable = true ∧
      (timers.crystal preBeacon).ucmp = (timers.crystal preBeacon).usec) ↔ timers.Matches := by
    rw [crystal.ucmpEnable,crystal.ucmp,crystal.usec]
    rfl
  unfold tick compare
  by_cases matched : timers.Matches
  · rw [if_pos (cond.mpr matched)]
    exact crystal.toCounted.beacon (.inl matched) (crystal.postBeacon.imp_right And.right)
  · rw [if_neg fun compared => matched (cond.mp compared), or_iff_right matched]
    exact crystal

theorem fires_iff : timers.Fires preBeacon ↔ timers.Matches ∨ timers.Expires preBeacon := by
  have ticked := ticked_tick { timers with raised := false } preBeacon
  exact ticked.raised.trans (or_iff_right Bool.false_ne_true)

/-! ### When the code does what is documented -/

theorem next_of_counts {timers : Timers} (counts : timers.Counts) :
    timers.next = timers.usec + 1 := if_pos counts

theorem next_of_stopped {timers : Timers} (stopped : ¬ timers.Counts) :
    timers.next = timers.usec := if_neg stopped

theorem Reaches.elapses {timers : Timers} (reaches : timers.Reaches) : timers.Elapses := by
  refine ⟨reaches.1.1,?_⟩
  rw [next_of_counts reaches.1]
  exact reaches.2

theorem Elapses.reaches {timers : Timers} (elapses : timers.Elapses) (counts : timers.Counts) :
    timers.Reaches := by
  refine ⟨counts,?_⟩
  rw [← next_of_counts counts]
  exact elapses.2

theorem BecomesEqual.matches {timers : Timers} (equal : timers.BecomesEqual) : timers.Matches := by
  refine ⟨equal.2.1,?_⟩
  rw [next_of_counts equal.1]
  exact equal.2.2

theorem Matches.becomesEqual {timers : Timers} (matched : timers.Matches)
    (counts : timers.Counts) : timers.BecomesEqual := by
  refine ⟨counts,matched.1,?_⟩
  rw [← next_of_counts counts]
  exact matched.2

theorem steady_iff : timers.Steady ↔
    (timers.Elapses ↔ timers.Reaches) ∧ (timers.Matches ↔ timers.BecomesEqual) := by
  by_cases counts : timers.Counts
  · have elapses : timers.Elapses ↔ timers.Reaches :=
      ⟨fun here => here.reaches counts, Reaches.elapses⟩
    have matched : timers.Matches ↔ timers.BecomesEqual :=
      ⟨fun here => here.becomesEqual counts, BecomesEqual.matches⟩
    refine iff_of_true ⟨fun stands => ?_, fun stands => stands.2.2 counts⟩ ⟨elapses,matched⟩
    rw [counts.2] at stands
    cases stands.2.1
  · have next := next_of_stopped counts
    have noReach : ¬ timers.Reaches := fun reaches => counts reaches.1
    have notEqual : ¬ timers.BecomesEqual := fun equal => counts equal.1
    have stands : timers.Elapses ↔ timers.crystalEnabled = true ∧ timers.usecEnable = false ∧
        timers.usec &&& 1023 = 0 := by
      unfold Elapses
      rw [next]
      constructor
      · intro elapses
        refine ⟨elapses.1,?_,elapses.2⟩
        cases enabled : timers.usecEnable with
        | false => rfl
        | true => exact absurd ⟨elapses.1,enabled⟩ counts
      · intro stands
        exact ⟨stands.1,stands.2.2⟩
    have meets : timers.Matches ↔ timers.ucmpEnable = true ∧ timers.ucmp = timers.usec ∧
        ¬ timers.Counts := by
      unfold Matches
      rw [next]
      exact and_congr_right fun _ => (and_iff_left counts).symm
    rw [iff_false_right noReach,iff_false_right notEqual,stands,meets]
    rfl

theorem documented_iff : timers.Documented preBeacon ↔ timers.Steady := by
  have ticked := timers.ticked_tick preBeacon
  have fires := timers.fires_iff preBeacon
  rw [steady_iff]
  constructor
  · intro documented
    have quiet (stopped : ¬ timers.Counts) : ¬ timers.Fires preBeacon := by
      intro fired
      obtain equal | ⟨reaches,_one⟩ := documented.alone fired
      · exact stopped equal.1
      · exact stopped reaches.1
    refine ⟨⟨fun elapses => ?_, Reaches.elapses⟩,⟨fun matched => ?_, BecomesEqual.matches⟩⟩
    · by_cases counts : timers.Counts
      · exact elapses.reaches counts
      · have silent := quiet counts
        have down := ticked.counted fun fired => silent (fires.mpr fired)
        have same := documented.beacon
        rw [if_neg silent,if_neg fun reaches : timers.Reaches => counts reaches.1, down,
          if_pos elapses] at same
        bv_omega
    · by_cases counts : timers.Counts
      · exact matched.becomesEqual counts
      · exact absurd (fires.mpr (.inl matched)) (quiet counts)
  · rintro ⟨elapses,matched⟩
    constructor
    · exact ticked.usec
    · by_cases fired : timers.Fires preBeacon
      · rw [if_pos fired]
        exact ticked.reloaded (fires.mp fired)
      · rw [if_neg fired,ticked.counted fun fired' => fired (fires.mpr fired')]
        exact if_congr elapses rfl rfl
    · rw [fires]
      exact ticked.postBeacon
    · intro equal
      exact fires.mpr (.inl (matched.mpr equal))
    · intro fired
      obtain compared | expired := fires.mp fired
      · exact .inl (matched.mp compared)
      · refine .inr ⟨elapses.mp expired.1,?_⟩
        have zero := expired.2.2
        bv_omega

end Timers

def Ticks (mac : Mac) (packets : List Packet × List Packet) (after : Mac) : Prop :=
  WIFI_usTrigger mac packets.1 packets.2 = some after

def Mac.TicksAsDocumented (mac : Mac) (packets : List Packet × List Packet) : Prop :=
  mac.timers.Documented mac.preBeacon ∧
    ∀ after, Ticks mac packets after → after.timers = mac.timers.tick mac.preBeacon

theorem ticksAsDocumented_iff (packets : List Packet × List Packet) :
    mac.TicksAsDocumented packets ↔ mac.timers.Steady := by
  rw [← mac.timers.documented_iff mac.preBeacon]
  refine and_iff_left ?_
  intro after ticked
  rw [(works_usTrigger ticked).timers,timers_counters]

/-- In every run of ticks the timers advance as documented when in none of them the
counter stands where it is on a multiple of 1024 or on the compare value. -/
theorem timers_documented_iff (mac : Mac) (run : List (List Packet × List Packet)) :
    PartialRun.Along Ticks Mac.TicksAsDocumented mac run ↔
      PartialRun.Along Ticks (fun mac _ => mac.timers.Steady) mac run :=
  PartialRun.along_congr ticksAsDocumented_iff mac run

def stoppedCounter : Mac := { silent with crystalEnabled := true, BeaconCount1 := 5 }

/-- The beacon counter goes down while the microsecond counter is stopped. -/
theorem beacon_counts_while_stopped :
    ¬ ∀ (mac : Mac) (run : List (List Packet × List Packet)),
      PartialRun.Along Ticks Mac.TicksAsDocumented mac run := by
  intro all
  have ticked := (all stoppedCounter [([], [])]).1.1.beacon
  revert ticked
  decide +kernel

end Desmume.Wifi
