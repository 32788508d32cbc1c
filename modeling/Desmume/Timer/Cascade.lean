/-
The hardware timers: `write_timer` and the sequencer event of a timer.

A free-running timer is advanced by its event; a count-up timer is incremented
when the timer below it overflows.
-/

import Desmume.Types
import Desmume.Lib.Run

namespace Desmume.Timer

open Function (update update_self)

/-- `timerMODE` of a count-up timer. -/
def COUNT_UP : Nat := 0xFFFF

def IRQ_BIT_TIMER_0 : Nat := 3

/-- The four timers of one processor, with its register page and the interrupt
bits its timers set. -/
structure Timers where
  timer : Fin 4 → u16
  timerReload : Fin 4 → u16
  timerMODE : Fin 4 → Nat
  timerON : Fin 4 → Bool
  timerCycle : Fin 4 → Nat
  regs : IoMem
  reg_IF_bits : u32
  reschedule : Bool

def NDS_makeIrq (timers : Timers) (num : Nat) : Timers :=
  { timers with
    reg_IF_bits := timers.reg_IF_bits ||| (1 <<< num)
    reschedule := true }

def remain (timers : Timers) (i : Fin 4) : Nat :=
  65536 - (timers.timerReload i).toNat

def period (timers : Timers) (i : Fin 4) : Nat :=
  remain timers i <<< timers.timerMODE i

def read_timer (timers : Timers) (nds_timer : Nat) (timerIndex : Fin 4) : u16 :=
  if timers.timerMODE timerIndex = COUNT_UP then timers.timer timerIndex
  else if ¬timers.timerON timerIndex then timers.timer timerIndex
  else
    let diff := BitVec.toInt (BitVec.ofInt 32 ((timers.timerCycle timerIndex : Int) - nds_timer))
    let units := diff.tdiv (1 <<< timers.timerMODE timerIndex : Nat)
    let ret : Int := if units = 65536 then 0 else if units > 65536 then 0 else 65535 - units
    BitVec.ofInt 16 ret

def prescaler (val : u16) : Nat :=
  match (val &&& 7).toNat with
  | 0 => 0 + 1
  | 1 => 6 + 1
  | 2 => 8 + 1
  | 3 => 10 + 1
  | _ => COUNT_UP

/-- The cycle set for a count-up timer is never read; here it stays as it is. -/
def write_timer (timers : Timers) (nds_timer : Nat) (timerIndex : Fin 4) (val : u16) : Timers :=
  let timer :=
    if val &&& 0x80 ≠ 0 then timers.timerReload timerIndex
    else if timers.timerON timerIndex then read_timer timers nds_timer timerIndex
    else timers.timer timerIndex
  let timers := { timers with
    timer := update timers.timer timerIndex timer
    timerON := update timers.timerON timerIndex (val &&& 0x80 ≠ 0)
    timerMODE := update timers.timerMODE timerIndex (prescaler val) }
  { timers with
    timerCycle :=
      if prescaler val = COUNT_UP then timers.timerCycle
      else update timers.timerCycle timerIndex
        (nds_timer + period timers timerIndex)
    regs := T1WriteWord timers.regs (0x102 + timerIndex * 4) val
    reschedule := true }

/-- The loop `while(timerCycle <= nds_timer)`, with the cycle it ends at and the
number of rounds. `nds_timer + 1` rounds always suffice. -/
def catchUp (period nds_timer : Nat) : Nat → Nat → Nat × Nat
  | 0, cycle => (cycle, 0)
  | fuel + 1, cycle =>
      if cycle ≤ nds_timer then
        let next := catchUp period nds_timer fuel (cycle + period)
        (next.1, next.2 + 1)
      else (cycle, 0)

def countUp (timers : Timers) (i : Fin 4) : Timers :=
  { timers with timer := update timers.timer i (timers.timer i + 1) }

def advance (nds_timer : Nat) (timers : Timers) (i : Fin 4) : Timers :=
  { timers with
    timerCycle := update timers.timerCycle i
      (catchUp (period timers i) nds_timer (nds_timer + 1) (timers.timerCycle i)).1 }

def overflow (timers : Timers) (i : Fin 4) : Timers :=
  let timers := { timers with
    timer := update timers.timer i (timers.timerReload i) }
  if T1ReadWord timers.regs (0x102 + i * 4) &&& 0x40 ≠ 0 then
    NDS_makeIrq timers (IRQ_BIT_TIMER_0 + i)
  else timers

/-- The loop of `exec` over the timers from its own upwards. The list returned
names each timer that was incremented by the one below it. -/
def chain (nds_timer : Nat) (timers : Timers) (first : Bool) :
    List (Fin 4) → Timers × List (Fin 4)
  | [] => (timers, [])
  | i :: rest =>
      if ¬timers.timerON i then (timers, [])
      else if timers.timerMODE i = COUNT_UP then
        if timers.timer i + 1 = 0 then
          let next := chain nds_timer (overflow (countUp timers i) i) first rest
          (next.1, i :: next.2)
        else (countUp timers i, [i])
      else if ¬first then (timers, [])
      else chain nds_timer (overflow (advance nds_timer timers i) i) false rest

/-- `TSequenceItem_Timer::isTriggered`; `schedule` keeps `enabled` in step with
the two fields it is computed from. -/
def isTriggered (timers : Timers) (num : Fin 4) (nds_timer : Nat) : Prop :=
  (timers.timerON num = true ∧ timers.timerMODE num ≠ COUNT_UP) ∧
    nds_timer ≥ timers.timerCycle num

instance (timers : Timers) (num : Fin 4) (nds_timer : Nat) :
    Decidable (isTriggered timers num nds_timer) :=
  inferInstanceAs (Decidable (_ ∧ _))

/-- `TSequenceItem_Timer::exec`. -/
def exec (timers : Timers) (num : Fin 4) (nds_timer : Nat) : Timers × List (Fin 4) :=
  chain nds_timer timers true ((List.finRange 4).drop num)

def event (proc : Proc) (num : Fin 4) (cpus : Proc → Timers) (nds_timer : Nat) :
    (Proc → Timers) × List (Fin 4) :=
  if isTriggered (cpus proc) num nds_timer then
    (update cpus proc (exec (cpus proc) num nds_timer).1,
      (exec (cpus proc) num nds_timer).2)
  else (cpus, [])

theorem catchUp_spec (period nds_timer fuel cycle : Nat) (positive : 0 < period)
    (enough : nds_timer + 1 ≤ cycle + fuel) :
    nds_timer < (catchUp period nds_timer fuel cycle).1 ∧
      (catchUp period nds_timer fuel cycle).1 =
        cycle + (catchUp period nds_timer fuel cycle).2 * period := by
  induction fuel generalizing cycle with
  | zero =>
      simp only [catchUp]
      omega
  | succ fuel ih =>
      unfold catchUp
      by_cases due : cycle ≤ nds_timer
      · obtain ⟨past,advance⟩ := ih (cycle + period) (by omega)
        rw [if_pos due]
        refine ⟨past,advance.trans ?_⟩
        change cycle + period + (catchUp period nds_timer fuel (cycle + period)).2 * period =
          cycle + ((catchUp period nds_timer fuel (cycle + period)).2 + 1) * period
        rw [Nat.add_mul]
        omega
      · rw [if_neg due]
        refine ⟨Nat.lt_of_not_le due,?_⟩
        rw [Nat.zero_mul,Nat.add_zero]

theorem catchUp_rounds_pos (period nds_timer fuel cycle : Nat)
    (enough : nds_timer + 1 ≤ cycle + fuel) :
    1 ≤ (catchUp period nds_timer fuel cycle).2 ↔ cycle ≤ nds_timer := by
  cases fuel with
  | zero =>
      simp only [catchUp]
      omega
  | succ fuel =>
      unfold catchUp
      by_cases due : cycle ≤ nds_timer
      · rw [if_pos due]
        exact iff_of_true (Nat.le_add_left _ _) due
      · rw [if_neg due]
        exact iff_of_false (Nat.not_succ_le_zero 0) due

theorem catchUp_once (period nds_timer cycle : Nat) (positive : 0 < period)
    (due : cycle ≤ nds_timer) :
    (catchUp period nds_timer (nds_timer + 1) cycle).2 = 1 ↔ nds_timer < cycle + period := by
  have again := catchUp_rounds_pos period nds_timer nds_timer (cycle + period) (by omega)
  have first : (catchUp period nds_timer (nds_timer + 1) cycle).2 =
      (catchUp period nds_timer nds_timer (cycle + period)).2 + 1 := by
    rw [catchUp,if_pos due]
  rw [first]
  omega

variable (timers : Timers) (i : Fin 4)

theorem overflow_kept :
    (overflow timers i).timerON = timers.timerON ∧
      (overflow timers i).timerMODE = timers.timerMODE ∧
      (overflow timers i).timerReload = timers.timerReload ∧
      (overflow timers i).timerCycle = timers.timerCycle := by
  simp only [overflow,NDS_makeIrq]
  split
  · exact ⟨rfl,rfl,rfl,rfl⟩
  · exact ⟨rfl,rfl,rfl,rfl⟩

structure SameSetup (timers next : Timers) : Prop where
  timerON : next.timerON = timers.timerON
  timerMODE : next.timerMODE = timers.timerMODE
  timerReload : next.timerReload = timers.timerReload

theorem SameSetup.trans {timers between next : Timers} (first : SameSetup timers between)
    (second : SameSetup between next) : SameSetup timers next :=
  ⟨second.timerON.trans first.timerON,second.timerMODE.trans first.timerMODE,
    second.timerReload.trans first.timerReload⟩

theorem sameSetup_overflow : SameSetup timers (overflow timers i) := by
  obtain ⟨on,mode,reload,-⟩ := overflow_kept timers i
  exact ⟨on,mode,reload⟩

variable (nds_timer : Nat)

theorem chain_setup (timers : Timers) (first : Bool) (rest : List (Fin 4)) :
    SameSetup timers (chain nds_timer timers first rest).1 := by
  induction rest generalizing timers first with
  | nil => exact ⟨rfl,rfl,rfl⟩
  | cons i rest ih =>
      have counted : SameSetup timers (countUp timers i) := ⟨rfl,rfl,rfl⟩
      have advanced : SameSetup timers (advance nds_timer timers i) := ⟨rfl,rfl,rfl⟩
      simp only [chain]
      split
      · exact ⟨rfl,rfl,rfl⟩
      · split
        · split
          · exact (counted.trans (sameSetup_overflow _ i)).trans (ih _ first)
          · exact counted
        · split
          · exact ⟨rfl,rfl,rfl⟩
          · exact (advanced.trans (sameSetup_overflow _ i)).trans (ih _ false)

theorem overflow_regs : (overflow timers i).regs = timers.regs := by
  simp only [overflow,NDS_makeIrq]
  split
  · rfl
  · rfl

theorem chain_regs (timers : Timers) (first : Bool) (rest : List (Fin 4)) :
    (chain nds_timer timers first rest).1.regs = timers.regs := by
  induction rest generalizing timers first with
  | nil => rfl
  | cons i rest ih =>
      simp only [chain]
      split
      · rfl
      · split
        · split
          · exact (ih _ first).trans (overflow_regs (countUp timers i) i)
          · rfl
        · split
          · rfl
          · exact (ih _ false).trans (overflow_regs (advance nds_timer timers i) i)

theorem chain_timerCycle (timers : Timers) (rest : List (Fin 4)) :
    (chain nds_timer timers false rest).1.timerCycle = timers.timerCycle := by
  induction rest generalizing timers with
  | nil => rfl
  | cons i rest ih =>
      simp only [chain]
      split
      · rfl
      · split
        · split
          · obtain ⟨-,-,-,cycle⟩ := overflow_kept (countUp timers i) i
            exact (ih _).trans cycle
          · rfl
        · rfl

theorem chain_members (timers : Timers) (first : Bool)
    (rest : List (Fin 4)) (i : Fin 4) (counted : i ∈ (chain nds_timer timers first rest).2) :
    i ∈ rest := by
  induction rest generalizing timers first with
  | nil => cases counted
  | cons head rest ih =>
      simp only [chain] at counted
      split at counted
      · cases counted
      · split at counted
        · split at counted
          · rcases List.mem_cons.mp counted with here | above
            · rw [here]
              exact List.mem_cons_self
            · exact List.mem_cons_of_mem head (ih _ first above)
          · rw [List.mem_singleton.mp counted]
            exact List.mem_cons_self
        · split at counted
          · cases counted
          · exact List.mem_cons_of_mem head (ih _ false counted)

/-- Timer `n` runs freely and timer `n + 1` counts its overflows. -/
structure Cascaded (timers : Timers) (n : Fin 3) : Prop where
  lowerON : timers.timerON n.castSucc = true
  lowerMODE : timers.timerMODE n.castSucc ≠ COUNT_UP
  upperON : timers.timerON n.succ = true
  upperMODE : timers.timerMODE n.succ = COUNT_UP

theorem Cascaded.congr {timers next : Timers} {n : Fin 3} (cascaded : Cascaded timers n)
    (same : SameSetup timers next) : Cascaded next n where
  lowerON := by
    rw [same.timerON]
    exact cascaded.lowerON
  lowerMODE := by
    rw [same.timerMODE]
    exact cascaded.lowerMODE
  upperON := by
    rw [same.timerON]
    exact cascaded.upperON
  upperMODE := by
    rw [same.timerMODE]
    exact cascaded.upperMODE

theorem period_pos : 0 < period timers i := by
  have ticks : 0 < remain timers i := Nat.sub_pos_of_lt (timers.timerReload i).isLt
  unfold period
  rw [Nat.shiftLeft_eq]
  exact Nat.mul_pos ticks (Nat.two_pow_pos _)

theorem period_congr {timers next : Timers} (same : SameSetup timers next) (i : Fin 4) :
    period next i = period timers i := by
  unfold period remain
  rw [same.timerReload,same.timerMODE]

variable (proc : Proc) (n : Fin 3) (cpus : Proc → Timers)

theorem walk_eq :
    ∃ above, (List.finRange 4).drop n = n.castSucc :: n.succ :: above ∧ n.succ ∉ above := by
  fin_cases n
  · exact ⟨[2,3],by decide,by decide⟩
  · exact ⟨[3],by decide,by decide⟩
  · exact ⟨[],by decide,by decide⟩

theorem exec_counts_once {timers : Timers} {n : Fin 3} (cascaded : Cascaded timers n)
    (nds_timer : Nat) :
    (exec timers n.castSucc nds_timer).2.count n.succ = 1 ∧
      (exec timers n.castSucc nds_timer).1.timerCycle n.castSucc =
        (catchUp (period timers n.castSucc) nds_timer (nds_timer + 1)
          (timers.timerCycle n.castSucc)).1 := by
  obtain ⟨above,walk,notAbove⟩ := walk_eq n
  let lower := overflow (advance nds_timer timers n.castSucc) n.castSucc
  have advanced : SameSetup timers (advance nds_timer timers n.castSucc) := ⟨rfl,rfl,rfl⟩
  have setup : SameSetup timers lower := advanced.trans (sameSetup_overflow _ n.castSucc)
  have next := cascaded.congr setup
  have start : exec timers n.castSucc nds_timer =
      chain nds_timer lower false (n.succ :: above) := by
    change chain nds_timer timers true ((List.finRange 4).drop n) = _
    rw [walk,chain,if_neg (not_not_intro cascaded.lowerON),if_neg cascaded.lowerMODE,
      if_neg (not_not_intro rfl)]
  constructor
  · rw [start,chain,if_neg (not_not_intro next.upperON),if_pos next.upperMODE]
    split
    · have elsewhere : n.succ ∉ (chain nds_timer
          (overflow (countUp lower n.succ) n.succ) false above).2 :=
        fun counted => notAbove (chain_members _ _ _ _ _ counted)
      rw [List.count_cons_self,List.count_eq_zero_of_not_mem elsewhere]
    · exact List.count_singleton_self
  · obtain ⟨-,-,-,cycle⟩ := overflow_kept (advance nds_timer timers n.castSucc) n.castSucc
    rw [start,chain_timerCycle,cycle]
    exact update_self _ _ _

/-! ### Runs -/

/-- The increments of timer `n + 1` in a run of events of timer `n`, in periods of
timer `n`, are as far as timer `n` was moved. -/
def CountsEveryOverflow (start : Proc → Timers) (run : (Proc → Timers) × List (Fin 4)) : Prop :=
  (start proc).timerCycle n.castSucc +
      run.2.count n.succ * period (start proc) n.castSucc =
    (run.1 proc).timerCycle n.castSucc

def Prompt (nds_timer : Nat) : Prop :=
  isTriggered (cpus proc) n.castSucc nds_timer →
    nds_timer < (cpus proc).timerCycle n.castSucc + period (cpus proc) n.castSucc

theorem event_advance (nds_timer : Nat) (cascaded : Cascaded (cpus proc) n) :
    SameSetup (cpus proc) ((event proc n.castSucc cpus nds_timer).1 proc) ∧
      ∃ missed,
        ((event proc n.castSucc cpus nds_timer).1 proc).timerCycle n.castSucc =
          (cpus proc).timerCycle n.castSucc +
            ((event proc n.castSucc cpus nds_timer).2.count n.succ + missed) *
              period (cpus proc) n.castSucc ∧
        (missed = 0 ↔ Prompt proc n cpus nds_timer) := by
  unfold event
  by_cases due : isTriggered (cpus proc) n.castSucc nds_timer
  · rw [if_pos due]
    simp only [update_self]
    obtain ⟨once,cycle⟩ := exec_counts_once cascaded nds_timer
    have positive := period_pos (cpus proc) n.castSucc
    have rounds := (catchUp_rounds_pos (period (cpus proc) n.castSucc) nds_timer
      (nds_timer + 1) ((cpus proc).timerCycle n.castSucc) (by omega)).mpr due.2
    have prompt := catchUp_once (period (cpus proc) n.castSucc) nds_timer
      ((cpus proc).timerCycle n.castSucc) positive due.2
    obtain ⟨-,moved⟩ := catchUp_spec (period (cpus proc) n.castSucc) nds_timer
      (nds_timer + 1) ((cpus proc).timerCycle n.castSucc) positive (by omega)
    obtain ⟨missed,extra⟩ := Nat.exists_eq_add_of_le rounds
    refine ⟨chain_setup _ _ _ _,missed,?_,?_⟩
    · rw [once,cycle,moved,extra]
    · rw [extra] at prompt
      constructor
      · intro none _
        exact prompt.mp (by omega)
      · intro holds
        have single := prompt.mpr (holds due)
        omega
  · rw [if_neg due]
    refine ⟨⟨rfl,rfl,rfl⟩,0,?_,iff_of_true rfl (fun runs => absurd runs due)⟩
    rw [List.count_nil,Nat.zero_mul,Nat.add_zero]

theorem run_advance (times : List Nat) (cascaded : Cascaded (cpus proc) n) :
    ∃ missed,
      ((Run.logged (event proc n.castSucc) cpus times).1 proc).timerCycle n.castSucc =
        (cpus proc).timerCycle n.castSucc +
          ((Run.logged (event proc n.castSucc) cpus times).2.count n.succ + missed) *
            period (cpus proc) n.castSucc ∧
      (missed = 0 ↔ Run.Guarded (fun cpus time => (event proc n.castSucc cpus time).1)
        (Prompt proc n) cpus times) := by
  induction times generalizing cpus with
  | nil =>
      refine ⟨0,?_,iff_of_true rfl trivial⟩
      change _ = _ + 0 * _
      rw [Nat.zero_mul,Nat.add_zero]
      rfl
  | cons time rest ih =>
      obtain ⟨setup,missedNow,moved,promptNow⟩ :=
        event_advance proc n cpus time cascaded
      obtain ⟨missedLater,movedLater,promptLater⟩ :=
        ih (event proc n.castSucc cpus time).1 (cascaded.congr setup)
      refine ⟨missedNow + missedLater,?_,?_⟩
      · rw [period_congr setup] at movedLater
        simp only [Run.logged,List.count_append]
        rw [movedLater,moved]
        ring
      · change _ ↔ Prompt proc n cpus time ∧ _
        rw [← promptNow,← promptLater]
        omega

/-- Timer `n + 1` counts every overflow of timer `n` exactly when each event of
timer `n` comes less than one period after it was due. -/
theorem cascade_counts_iff (times : List Nat) (cascaded : Cascaded (cpus proc) n) :
    CountsEveryOverflow proc n cpus (Run.logged (event proc n.castSucc) cpus times) ↔
      Run.Guarded (fun cpus time => (event proc n.castSucc cpus time).1)
        (Prompt proc n) cpus times := by
  obtain ⟨missed,moved,prompt⟩ := run_advance proc n cpus times cascaded
  have positive := period_pos (cpus proc) n.castSucc
  unfold CountsEveryOverflow
  rw [moved,← prompt,Nat.add_mul]
  constructor
  · intro same
    have nothing : missed * period (cpus proc) n.castSucc = 0 := by omega
    exact (Nat.mul_eq_zero.mp nothing).resolve_right positive.ne'
  · intro none
    rw [none,Nat.zero_mul]
    rfl

/-- Timer 0 runs freely with the shortest period, two cycles; timer 1 counts. -/
def shortestCascade : Proc → Timers := fun _ =>
  let stopped : Timers :=
    { timer := fun _ => 0
      timerReload := update (fun _ => 0) 0 0xFFFF
      timerMODE := fun _ => 0
      timerON := fun _ => false
      timerCycle := fun _ => 0
      regs := fun _ => 0
      reg_IF_bits := 0
      reschedule := false }
  write_timer (write_timer stopped 0 0 0x80) 0 1 0x84

theorem cascaded_shortestCascade : Cascaded (shortestCascade proc) 0 where
  lowerON := by cases proc <;> decide
  lowerMODE := by cases proc <;> decide
  upperON := by cases proc <;> decide
  upperMODE := by cases proc <;> decide

theorem cascade_counts_prompt :
    CountsEveryOverflow .ARMCPU_ARM9 0 shortestCascade
      (Run.logged (event .ARMCPU_ARM9 0) shortestCascade [2,5,6]) :=
  (cascade_counts_iff .ARMCPU_ARM9 0 shortestCascade [2,5,6]
    (cascaded_shortestCascade .ARMCPU_ARM9)).mpr (by
      refine ⟨?_,?_,?_,trivial⟩ <;> intro _ <;> decide)

/-- An event five cycles late moves timer 0 by three periods and counts one. -/
theorem late_event_drops_overflows :
    ¬∀ (proc : Proc) (n : Fin 3) (cpus : Proc → Timers) (times : List Nat),
      Cascaded (cpus proc) n →
        CountsEveryOverflow proc n cpus (Run.logged (event proc n.castSucc) cpus times) := by
  intro everywhere
  have counts := everywhere .ARMCPU_ARM9 0 shortestCascade [7]
    (cascaded_shortestCascade .ARMCPU_ARM9)
  exact absurd counts (by unfold CountsEveryOverflow; decide)

end Desmume.Timer
