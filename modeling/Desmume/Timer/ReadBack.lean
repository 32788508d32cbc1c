/-
Reading a free-running timer.

The counter is computed from the time of the next overflow: the cycles left are
divided by the cycles of a tick, and the quotient is subtracted from 65535.
-/

import Desmume.Timer.Cascade

namespace Desmume.Timer

open Function (update update_of_ne update_self)

/-- What can happen to the timers between a start and a read. -/
inductive Op
  | writeReload (i : Fin 4) (val : u16)
  | writeControl (i : Fin 4) (val : u16)
  | event (i : Fin 4)

def writeReload (timers : Timers) (i : Fin 4) (val : u16) : Timers :=
  { timers with timerReload := update timers.timerReload i val }

def runEvent (timers : Timers) (i : Fin 4) (nds_timer : Nat) : Timers :=
  if isTriggered timers i nds_timer then (exec timers i nds_timer).1 else timers

def step (timers : Timers) : Nat × Op → Timers
  | (_, .writeReload i val) => writeReload timers i val
  | (nds_timer, .writeControl i val) => write_timer timers nds_timer i val
  | (nds_timer, .event i) => runEvent timers i nds_timer

/-- A step no later than `t` that does not write the control register of `i`. -/
def Leaves (i : Fin 4) (t : Nat) : Nat × Op → Prop
  | (_, .writeReload _ _) => True
  | (_, .writeControl other _) => other ≠ i
  | (nds_timer, .event _) => nds_timer ≤ t

structure RunsUntil (timers : Timers) (i : Fin 4) (shift cycle : Nat) : Prop where
  on : timers.timerON i = true
  mode : timers.timerMODE i = shift
  free : shift ≠ COUNT_UP
  overflow : timers.timerCycle i = cycle

variable {timers : Timers} {i : Fin 4} {shift cycle t : Nat}

theorem runsUntil_write (timers : Timers) (nds_timer : Nat) (i : Fin 4) (val : u16)
    (enable : val &&& 0x80 ≠ 0) (free : prescaler val ≠ COUNT_UP) :
    RunsUntil (write_timer timers nds_timer i val) i (prescaler val)
      (nds_timer + (65536 - (timers.timerReload i).toNat) <<< prescaler val) where
  on := by
    simp only [write_timer,update_self]
    exact decide_eq_true enable
  mode := by simp only [write_timer,update_self]
  free := free
  overflow := by
    simp only [write_timer,if_neg free,period,remain,update_self]

theorem RunsUntil.writeControl (running : RunsUntil timers i shift cycle) {other : Fin 4}
    (ne : other ≠ i) (nds_timer : Nat) (val : u16) :
    RunsUntil (write_timer timers nds_timer other val) i shift cycle where
  on := (update_of_ne ne.symm _ _).trans running.on
  mode := (update_of_ne ne.symm _ _).trans running.mode
  free := running.free
  overflow := by
    unfold write_timer
    dsimp only
    split
    · exact running.overflow
    · exact (update_of_ne ne.symm _ _).trans running.overflow

theorem RunsUntil.of_setup (running : RunsUntil timers i shift cycle) {next : Timers}
    (same : SameSetup timers next) (kept : next.timerCycle i = timers.timerCycle i) :
    RunsUntil next i shift cycle where
  on := (congrFun same.timerON i).trans running.on
  mode := (congrFun same.timerMODE i).trans running.mode
  free := running.free
  overflow := kept.trans running.overflow

theorem exec_timerCycle {first : Fin 4} (nds_timer : Nat)
    (on : timers.timerON first = true) (free : timers.timerMODE first ≠ COUNT_UP)
    {other : Fin 4} (ne : other ≠ first) :
    (exec timers first nds_timer).1.timerCycle other = timers.timerCycle other := by
  have walk : ∃ above, (List.finRange 4).drop first = first :: above := by
    fin_cases first
    · exact ⟨[1,2,3],rfl⟩
    · exact ⟨[2,3],rfl⟩
    · exact ⟨[3],rfl⟩
    · exact ⟨[],rfl⟩
  obtain ⟨above,walk⟩ := walk
  obtain ⟨-,-,-,cycle⟩ := overflow_kept (advance nds_timer timers first) first
  rw [exec,walk,chain,if_neg (not_not_intro on),if_neg free,if_neg (not_not_intro rfl),
    chain_timerCycle,cycle]
  exact update_of_ne ne _ _

theorem RunsUntil.runEvent (running : RunsUntil timers i shift cycle) (first : Fin 4)
    {nds_timer : Nat} (before : nds_timer < cycle) :
    RunsUntil (runEvent timers first nds_timer) i shift cycle := by
  unfold Timer.runEvent
  by_cases due : isTriggered timers first nds_timer
  · rw [if_pos due]
    have ne : i ≠ first := by
      rintro rfl
      have late := due.2
      rw [running.overflow] at late
      omega
    exact running.of_setup (chain_setup _ _ _ _)
      (exec_timerCycle nds_timer due.1.1 due.1.2 ne)
  · rwa [if_neg due]

theorem RunsUntil.step (running : RunsUntil timers i shift cycle) (entry : Nat × Op)
    (before : t < cycle) (leaves : Leaves i t entry) :
    RunsUntil (Timer.step timers entry) i shift cycle := by
  obtain ⟨nds_timer,op⟩ := entry
  cases op with
  | writeReload other val => exact ⟨running.on,running.mode,running.free,running.overflow⟩
  | writeControl other val => exact running.writeControl leaves nds_timer val
  | event first => exact running.runEvent first (Nat.lt_of_le_of_lt leaves before)

theorem RunsUntil.run (running : RunsUntil timers i shift cycle) (before : t < cycle)
    (ents : List (Nat × Op)) (leaves : ∀ entry, entry ∈ ents → Leaves i t entry) :
    RunsUntil (Run.final Timer.step timers ents) i shift cycle := by
  induction ents generalizing timers with
  | nil => exact running
  | cons entry rest ih =>
      rw [Run.final_cons]
      exact ih (running.step entry before (leaves entry List.mem_cons_self))
        (fun later member => leaves later (List.mem_cons_of_mem entry member))

theorem prescaler_cases (val : u16) (free : prescaler val ≠ COUNT_UP) :
    prescaler val = 1 ∨ prescaler val = 7 ∨ prescaler val = 9 ∨ prescaler val = 11 := by
  unfold prescaler at free ⊢
  split <;> simp_all

theorem read_timer_left (running : RunsUntil timers i shift cycle) (left : Nat)
    (small : left < 2 ^ 31) (units : left / 2 ^ shift ≤ 65536) (now : t + left = cycle) :
    (read_timer timers t i).toNat =
      if left / 2 ^ shift = 65536 then 0 else 65535 - left / 2 ^ shift := by
  have free : timers.timerMODE i ≠ COUNT_UP := by
    rw [running.mode]
    exact running.free
  have diff : ((timers.timerCycle i : Int) - t) = (left : Int) := by
    rw [running.overflow,← now]
    omega
  have wrapped : (BitVec.ofInt 32 (left : Int)).toInt = left := by
    rw [BitVec.toInt_ofInt]
    exact Int.bmod_eq_of_le (by omega) (by omega)
  have quotient : ((left : Int)).tdiv ((1 <<< shift : Nat) : Int) = (left / 2 ^ shift : Nat) := by
    rw [Nat.shiftLeft_eq,Nat.one_mul]
    exact (Int.ofNat_tdiv _ _).symm
  rw [read_timer,if_neg free,if_neg (not_not_intro running.on),diff,wrapped,running.mode]
  dsimp only
  rw [quotient]
  by_cases whole : left / 2 ^ shift = 65536
  · rw [if_pos whole,whole]
    rfl
  · have notWhole : ¬ ((left / 2 ^ shift : Nat) : Int) = 65536 := by omega
    have notMore : ¬ ((left / 2 ^ shift : Nat) : Int) > 65536 := by omega
    rw [if_neg whole,if_neg notWhole,if_neg notMore]
    have ret : (65535 - ((left / 2 ^ shift : Nat) : Int)) =
        ((65535 - left / 2 ^ shift : Nat) : Int) := by omega
    rw [ret,BitVec.ofInt_natCast,BitVec.toNat_ofNat]
    exact Nat.mod_eq_of_lt (Nat.lt_of_le_of_lt (Nat.sub_le _ _) (by decide))

/-- The value read is the ticks since the start above the reload value, except
at the instants at which a tick starts; there only the first after a reload
value of zero is right. -/
theorem read_back_iff (timers : Timers) (t0 t : Nat) (i : Fin 4) (val : u16)
    (enable : val &&& 0x80 ≠ 0) (free : prescaler val ≠ COUNT_UP)
    (ents : List (Nat × Op)) (leaves : ∀ entry, entry ∈ ents → Leaves i t entry) (later : t0 ≤ t)
    (within : t < t0 + (65536 - (timers.timerReload i).toNat) * 2 ^ prescaler val) :
    (read_timer (Run.final step (write_timer timers t0 i val) ents) t i).toNat =
        (timers.timerReload i).toNat + (t - t0) / 2 ^ prescaler val ↔
      (t - t0) % 2 ^ prescaler val ≠ 0 ∨ ((timers.timerReload i).toNat = 0 ∧ t = t0) := by
  have running := runsUntil_write timers t0 i val enable free
  rw [Nat.shiftLeft_eq] at running
  have kept := running.run within ents leaves
  have reload := (timers.timerReload i).isLt
  obtain ⟨left,now⟩ := Nat.exists_eq_add_of_lt within
  have ticks : (left + 1) / 2 ^ prescaler val ≤ 65536 := by
    apply Nat.div_le_of_le_mul
    have bound : (65536 - (timers.timerReload i).toNat) * 2 ^ prescaler val ≤
        65536 * 2 ^ prescaler val := Nat.mul_le_mul_right _ (Nat.sub_le _ _)
    rw [Nat.mul_comm]
    omega
  have small : left + 1 < 2 ^ 31 := by
    rcases prescaler_cases val free with shift | shift | shift | shift <;>
      rw [shift] at now <;> omega
  rw [read_timer_left kept (left + 1) small ticks now.symm]
  rcases prescaler_cases val free with shift | shift | shift | shift <;>
    rw [shift] at now ticks ⊢ <;> split <;> omega

/-- Timer 0 stopped at time zero, with the given reload value. -/
def stopped (reload : u16) : Timers where
  timer := fun _ => 0
  timerReload := fun _ => reload
  timerMODE := fun _ => COUNT_UP
  timerON := fun _ => false
  timerCycle := fun _ => 0
  regs := fun _ => 0
  reg_IF_bits := 0
  reschedule := false

theorem read_back_mid_tick :
    (read_timer (Run.final step (write_timer (stopped 0x8000) 10 0 0x80) [(11, .event 1)])
      13 0).toNat = 0x8001 :=
  (read_back_iff (stopped 0x8000) 10 13 0 0x80 (by decide) (by decide) [(11, .event 1)]
    (by simp [Leaves]) (by decide) (by decide)).mpr (Or.inl (by decide))

/-- At the instant of the start the counter is one below the reload value. -/
theorem read_back_below_reload :
    ¬ (read_timer (Run.final step (write_timer (stopped 0x8000) 10 0 0x80) []) 10 0).toNat =
      ((stopped 0x8000).timerReload 0).toNat + (10 - 10) / 2 ^ prescaler 0x80 := by
  decide +kernel

end Desmume.Timer
