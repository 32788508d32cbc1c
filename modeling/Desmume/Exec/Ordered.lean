/-
The main loop, `NDS_exec` and `armInnerLoop`: emulated time does not run
backwards.

One step of the machine is the top of a pass, one iteration of the inner loop or
the end of a pass.
-/

import Desmume.Lib.Run
import Desmume.Types

namespace Desmume.Exec

/-- The cast to `u64`. -/
def u64 (val : Int) : Int := val % 2 ^ 64

/-- The cast to `s32`. -/
def s32 (val : Int) : Int := (val + 2 ^ 31) % 2 ^ 32 - 2 ^ 31

inductive Item
  | dispcnt
  | divider
  | sqrtunit
  | gxfifo
  | dma (procnum : Proc) (chan : Fin 4)
  | timer (procnum : Proc) (num : Fin 4)
  deriving DecidableEq, Repr

/-- The items `findNext` tests, in its order. -/
def Item.tested : List Item :=
  [.divider,.sqrtunit,.gxfifo] ++
    (List.finRange 4).map (.dma .ARMCPU_ARM9) ++ (List.finRange 4).map (.dma .ARMCPU_ARM7) ++
    (List.finRange 4).map (.timer .ARMCPU_ARM9) ++ (List.finRange 4).map (.timer .ARMCPU_ARM7)

/-- The system as the loop sees it. -/
structure Nds where
  waitIRQ : Proc → Bool
  freezeBus : u32
  gxFIFO_size : u32
  idleCycles : Proc → Int
  reschedule : Bool
  nds_vblankEnded : Bool
  isEnabled : Item → Bool
  next : Item → Nat

variable (nds : Nds) (proc : Proc)

def findNext : Int :=
  Item.tested.foldl
    (fun next item => if nds.isEnabled item then min next (nds.next item : Int) else next)
    (nds.next .dispcnt : Int)

/-- What runs between the steps of the loop. A processor returns the cycles it
took, at least one. -/
structure Environment where
  execHardware : Int → Nds → Nds
  execHardware_interrupts : Nds → Nds
  armcpu_exec : Proc → Nds → Nds × ℕ+
  ARM_ME : Bool

def kMaxWork : Int := 4000

def kIrqWait : Int := 4000

/-- The local variables of a pass. `next` is the end of the pass before the
cast to 32 bits. -/
structure Pass where
  nds_timer_base : Int
  next : Int
  s32next : Int
  arm9 : Int
  arm7 : Int
  doarm7 : Bool

/-- `minarmtime<true,doarm7>`. -/
def Pass.timer (pass : Pass) : Int := if pass.doarm7 then min pass.arm9 pass.arm7 else pass.arm9

inductive Control
  | top
  | inner (pass : Pass)

structure Machine where
  nds : Nds
  nds_timer : Int
  nds_arm9_timer : Int
  nds_arm7_timer : Int
  control : Control

def waits : Bool := nds.waitIRQ proc || nds.freezeBus != 0

def idled (cycles : Int) : Nds :=
  { nds with
    idleCycles := Function.update nds.idleCycles proc (s32 (nds.idleCycles proc + cycles)) }

def runArm9 (env : Environment) (nds : Nds) (s32next arm9 : Int) : Nds × Int :=
  if waits nds .ARMCPU_ARM9 then
    let moved := min s32next (s32 (arm9 + kIrqWait))
    let nds := idled nds .ARMCPU_ARM9 (moved - arm9)
    ({ nds with
        freezeBus := if nds.gxFIFO_size < 255 then nds.freezeBus &&& ~~~1 else nds.freezeBus },
      moved)
  else
    let ran := env.armcpu_exec .ARMCPU_ARM9 nds
    (ran.1, s32 (arm9 + ran.2))

/-- The ARM7's part. The flag is set when the loop goes on without it. -/
def runArm7 (env : Environment) (nds : Nds) (s32next arm7 : Int) : Nds × Int × Bool :=
  if waits nds .ARMCPU_ARM7 then
    let moved := min s32next (s32 (arm7 + kIrqWait))
    (idled nds .ARMCPU_ARM7 (moved - arm7), moved, decide (moved = s32next))
  else
    let ran := env.armcpu_exec .ARMCPU_ARM7 nds
    (ran.1, s32 (arm7 + if env.ARM_ME then (ran.2 : Int) else 2 * ran.2), false)

/-- `timer < s32next && !sequencer.reschedule`. -/
def Machine.goesOn (m : Machine) (pass : Pass) : Bool :=
  decide (pass.timer < pass.s32next) && !m.nds.reschedule

def arm9Turn (env : Environment) (m : Machine) (pass : Pass) : Nds × Int :=
  if pass.doarm7 = false ∨ pass.arm9 ≤ pass.timer then
    runArm9 env m.nds pass.s32next pass.arm9
  else (m.nds, pass.arm9)

def arm7Turn (env : Environment) (nds : Nds) (pass : Pass) : Nds × Int × Bool :=
  if pass.doarm7 = true ∧ pass.arm7 ≤ pass.timer then runArm7 env nds pass.s32next pass.arm7
  else (nds, pass.arm7, false)

def Pass.moved (pass : Pass) (env : Environment) (m : Machine) : Pass :=
  let first := arm9Turn env m pass
  let second := arm7Turn env first.1 pass
  { pass with
    arm9 := first.2
    arm7 := second.2.1
    doarm7 := pass.doarm7 && !second.2.2 }

def iteration (env : Environment) (m : Machine) (pass : Pass) : Machine :=
  let first := arm9Turn env m pass
  let second := arm7Turn env first.1 pass
  let after := pass.moved env m
  { m with
    nds := second.1
    nds_timer := u64 (pass.nds_timer_base + after.timer)
    control := .inner after }

def rollback (arm_timer nds_timer : Int) : Nds × Int :=
  if nds.waitIRQ proc then (idled nds proc (-s32 (u64 (arm_timer - nds_timer))), nds_timer)
  else (nds, arm_timer)

def endPass (m : Machine) (pass : Pass) : Machine :=
  let nds_arm7_timer := u64 (pass.nds_timer_base + pass.arm7)
  let nds_arm9_timer := u64 (pass.nds_timer_base + pass.arm9)
  let first := rollback m.nds .ARMCPU_ARM9 nds_arm9_timer m.nds_timer
  let second := rollback first.1 .ARMCPU_ARM7 nds_arm7_timer m.nds_timer
  { m with
    nds := second.1
    nds_arm9_timer := first.2
    nds_arm7_timer := second.2
    control := .top }

def beginPass (env : Environment) (m : Machine) : Machine :=
  let nds := env.execHardware m.nds_timer m.nds
  if nds.nds_vblankEnded then { m with nds := { nds with nds_vblankEnded := false } }
  else
    let nds := env.execHardware_interrupts nds
    let next := min (findNext nds) (u64 (m.nds_timer + kMaxWork))
    { m with
      nds := { nds with reschedule := false }
      control := .inner
        { nds_timer_base := m.nds_timer
          next := next
          s32next := s32 (u64 (next - m.nds_timer))
          arm9 := s32 (u64 (m.nds_arm9_timer - m.nds_timer))
          arm7 := s32 (u64 (m.nds_arm7_timer - m.nds_timer))
          doarm7 := true } }

def step (m : Machine) (env : Environment) : Machine :=
  match m.control with
  | .top => beginPass env m
  | .inner pass => if m.goesOn pass then iteration env m pass else endPass m pass

/-- The clocks after `Sequencer::init`. -/
def Machine.reset : Machine :=
  { nds := nds, nds_timer := 0, nds_arm9_timer := 0, nds_arm7_timer := 0, control := .top }

open Run

theorem u64_of_range {val : Int} (low : 0 ≤ val) (high : val < 2 ^ 64) : u64 val = val :=
  Int.emod_eq_of_lt low high

theorem s32_of_range {val : Int} (low : -2 ^ 31 ≤ val) (high : val < 2 ^ 31) : s32 val = val := by
  unfold s32
  omega

theorem s32_u64 {val : Int} (low : -2 ^ 31 ≤ val) (high : val < 2 ^ 31) : s32 (u64 val) = val := by
  unfold s32 u64
  omega

/-- `findNext` takes the item into account. -/
def Pending (item : Item) : Prop := item = .dispcnt ∨ nds.isEnabled item = true

theorem mem_tested {item : Item} (other : item ≠ .dispcnt) : item ∈ Item.tested := by
  cases item with
  | dispcnt => exact absurd rfl other
  | divider => simp [Item.tested]
  | sqrtunit => simp [Item.tested]
  | gxfifo => simp [Item.tested]
  | dma procnum chan => cases procnum <;> simp [Item.tested]
  | timer procnum num => cases procnum <;> simp [Item.tested]

theorem foldl_min_le (items : List Item) (start : Int) :
    items.foldl (fun next item =>
        if nds.isEnabled item then min next (nds.next item : Int) else next) start ≤ start ∧
      ∀ item ∈ items, nds.isEnabled item = true →
        items.foldl (fun next item =>
          if nds.isEnabled item then min next (nds.next item : Int) else next) start ≤
            nds.next item := by
  induction items generalizing start with
  | nil => exact ⟨le_rfl,fun item absent => by cases absent⟩
  | cons head rest ih =>
      obtain ⟨below,each⟩ := ih
        (if nds.isEnabled head then min start (nds.next head : Int) else start)
      have smaller : (if nds.isEnabled head then min start (nds.next head : Int) else start) ≤
          start := by
        split
        · exact min_le_left _ _
        · exact le_rfl
      refine ⟨below.trans smaller,?_⟩
      intro item member enabled
      rcases List.mem_cons.mp member with rfl | later
      · rw [if_pos enabled] at below
        rw [List.foldl_cons,if_pos enabled]
        exact below.trans (min_le_right _ _)
      · exact each item later enabled

theorem findNext_le {nds : Nds} {item : Item} (pending : Pending nds item) :
    findNext nds ≤ nds.next item := by
  obtain ⟨below,each⟩ := foldl_min_le nds Item.tested (nds.next .dispcnt)
  by_cases always : item = .dispcnt
  · rw [always]
    exact below
  · exact each item (mem_tested always) (pending.resolve_left always)

theorem findNext_attained : ∃ item, Pending nds item ∧ findNext nds = nds.next item := by
  have fold (items : List Item) (start : Item) (counted : Pending nds start) :
      ∃ item, Pending nds item ∧
        items.foldl (fun next item =>
          if nds.isEnabled item then min next (nds.next item : Int) else next)
            (nds.next start : Int) = nds.next item := by
    induction items generalizing start with
    | nil => exact ⟨start,counted,rfl⟩
    | cons head rest ih =>
        rw [List.foldl_cons]
        split
        · next enabled =>
            rcases min_choice (nds.next start : Int) (nds.next head : Int) with first | second
            · rw [first]
              exact ih start counted
            · rw [second]
              exact ih head (Or.inr enabled)
        · exact ih start counted
  exact fold Item.tested .dispcnt (Or.inl rfl)

def Ahead (m : Machine) : Prop :=
  match m.control with
  | .top => m.nds_timer ≤ m.nds_arm9_timer ∧ m.nds_timer ≤ m.nds_arm7_timer
  | .inner _ => True

/-- A pass ends no later than any item that counts when it begins, and a
processor moves only while the clock is before the end of the pass. -/
def Dispatched (m : Machine) (env : Environment) : Prop :=
  match m.control with
  | .top =>
      ∀ pass, (step m env).control = .inner pass →
        ∀ item, Pending (step m env).nds item → pass.next ≤ (step m env).nds.next item
  | .inner pass => m.goesOn pass = true → m.nds_timer < pass.next

def Timely (m : Machine) (env : Environment) : Prop :=
  m.nds_timer ≤ (step m env).nds_timer ∧ Dispatched m env

def arm7Cost (env : Environment) (nds : Nds) : Int :=
  let ran := env.armcpu_exec .ARMCPU_ARM7 nds
  if env.ARM_ME then (ran.2 : Int) else 2 * ran.2

/-- No number of the step leaves its type: the clock is 2^32 short of the end of
its range, no event is 2^31 cycles late, and no count overflows 32 bits. -/
def Fits (m : Machine) (env : Environment) : Prop :=
  match m.control with
  | .top =>
      m.nds_timer + 2 ^ 32 ≤ 2 ^ 64 ∧
        ∀ item, Pending (step m env).nds item →
          m.nds_timer ≤ (step m env).nds.next item + 2 ^ 31
  | .inner pass =>
      (pass.doarm7 = false ∨ pass.arm9 ≤ pass.timer → waits m.nds .ARMCPU_ARM9 = false →
        pass.arm9 + (env.armcpu_exec .ARMCPU_ARM9 m.nds).2 < 2 ^ 31) ∧
      (pass.doarm7 = true ∧ pass.arm7 ≤ pass.timer →
        waits (arm9Turn env m pass).1 .ARMCPU_ARM7 = false →
        pass.arm7 + arm7Cost env (arm9Turn env m pass).1 < 2 ^ 31)

/-- A pass that has gone on without the ARM7 ends with the ARM7 waiting for an
interrupt, or with the ARM9 not past it. -/
def PassEnds (m : Machine) (_env : Environment) : Prop :=
  match m.control with
  | .top => True
  | .inner pass =>
      m.goesOn pass = false → pass.doarm7 = false →
        m.nds.waitIRQ .ARMCPU_ARM7 = true ∨ pass.arm9 ≤ pass.arm7

structure TopSound (m : Machine) : Prop where
  nonneg : 0 ≤ m.nds_timer
  arm9 : m.nds_timer ≤ m.nds_arm9_timer
  arm7 : m.nds_timer ≤ m.nds_arm7_timer
  arm9Near : m.nds_arm9_timer < m.nds_timer + 2 ^ 31
  arm7Near : m.nds_arm7_timer < m.nds_timer + 2 ^ 31

structure InnerSound (m : Machine) (pass : Pass) : Prop where
  nonneg : 0 ≤ pass.nds_timer_base
  room : pass.nds_timer_base + 2 ^ 32 ≤ 2 ^ 64
  started : pass.nds_timer_base ≤ m.nds_timer
  behind : m.nds_timer ≤ pass.nds_timer_base + pass.timer
  next : pass.next = pass.nds_timer_base + pass.s32next
  short : pass.s32next ≤ 4000
  arm9 : 0 ≤ pass.arm9 ∧ pass.arm9 < 2 ^ 31
  arm7 : 0 ≤ pass.arm7 ∧ pass.arm7 < 2 ^ 31
  alone : pass.doarm7 = false → m.nds_timer = pass.nds_timer_base + pass.arm9

def Sound (m : Machine) : Prop :=
  match m.control with
  | .top => TopSound m
  | .inner pass => InnerSound m pass

theorem timer_le (pass : Pass) :
    pass.timer ≤ pass.arm9 ∧ (pass.doarm7 = true → pass.timer ≤ pass.arm7) := by
  unfold Pass.timer
  cases pass.doarm7 with
  | true => exact ⟨min_le_left _ _,fun _ => min_le_right _ _⟩
  | false => exact ⟨le_rfl,fun both => Bool.noConfusion both⟩

theorem runArm9_moves (env : Environment) (nds : Nds) {s32next arm9 : Int} (low : 0 ≤ arm9)
    (before : arm9 < s32next) (short : s32next ≤ 4000) (fits : waits nds .ARMCPU_ARM9 = false →
      arm9 + (env.armcpu_exec .ARMCPU_ARM9 nds).2 < 2 ^ 31) :
    arm9 ≤ (runArm9 env nds s32next arm9).2 ∧ (runArm9 env nds s32next arm9).2 < 2 ^ 31 := by
  unfold runArm9
  split
  · have exact_sum : s32 (arm9 + kIrqWait) = arm9 + 4000 :=
      s32_of_range (by unfold kIrqWait; omega) (by unfold kIrqWait; omega)
    simp only [exact_sum]
    omega
  · next running =>
      have bound := fits (by simpa using running)
      have positive := (env.armcpu_exec .ARMCPU_ARM9 nds).2.pos
      simp only
      rw [s32_of_range (by omega) bound]
      omega

theorem runArm7_moves (env : Environment) (nds : Nds) {s32next arm7 : Int} (low : 0 ≤ arm7)
    (before : arm7 < s32next) (short : s32next ≤ 4000)
    (fits : waits nds .ARMCPU_ARM7 = false → arm7 + arm7Cost env nds < 2 ^ 31) :
    arm7 ≤ (runArm7 env nds s32next arm7).2.1 ∧ (runArm7 env nds s32next arm7).2.1 < 2 ^ 31 := by
  unfold runArm7
  split
  · have exact_sum : s32 (arm7 + kIrqWait) = arm7 + 4000 :=
      s32_of_range (by unfold kIrqWait; omega) (by unfold kIrqWait; omega)
    simp only [exact_sum]
    omega
  · next running =>
      have bound := fits (by simpa using running)
      have positive := (env.armcpu_exec .ARMCPU_ARM7 nds).2.pos
      have cost : 0 ≤ arm7Cost env nds := by
        unfold arm7Cost
        simp only
        split <;> omega
      change arm7 ≤ s32 (arm7 + arm7Cost env nds) ∧ s32 (arm7 + arm7Cost env nds) < 2 ^ 31
      rw [s32_of_range (by omega) bound]
      omega

/-! ### Steps -/

variable {m : Machine} {env : Environment} {pass : Pass}

theorem goesOn_iff :
    m.goesOn pass = true ↔ pass.timer < pass.s32next ∧ m.nds.reschedule = false := by
  simp [Machine.goesOn]

theorem arm9Turn_moves (sound : InnerSound m pass) (before : pass.timer < pass.s32next)
    (fits : pass.doarm7 = false ∨ pass.arm9 ≤ pass.timer →
      waits m.nds .ARMCPU_ARM9 = false →
        pass.arm9 + (env.armcpu_exec .ARMCPU_ARM9 m.nds).2 < 2 ^ 31) :
    pass.arm9 ≤ (arm9Turn env m pass).2 ∧ (arm9Turn env m pass).2 < 2 ^ 31 := by
  obtain ⟨low,high⟩ := sound.arm9
  unfold arm9Turn
  split
  · next turn =>
      have early : pass.arm9 < pass.s32next := by
        rcases turn with alone | behind
        · have same : pass.timer = pass.arm9 := by
            unfold Pass.timer
            rw [alone]
            rfl
          omega
        · omega
      exact runArm9_moves env m.nds low early sound.short (fits turn)
  · exact ⟨le_rfl,high⟩

theorem arm7Turn_moves (sound : InnerSound m pass) (before : pass.timer < pass.s32next) (nds : Nds)
    (fits : pass.doarm7 = true ∧ pass.arm7 ≤ pass.timer → waits nds .ARMCPU_ARM7 = false →
      pass.arm7 + arm7Cost env nds < 2 ^ 31) :
    pass.arm7 ≤ (arm7Turn env nds pass).2.1 ∧ (arm7Turn env nds pass).2.1 < 2 ^ 31 := by
  obtain ⟨low,high⟩ := sound.arm7
  unfold arm7Turn
  split
  · next turn =>
      exact runArm7_moves env nds low (by omega) sound.short (fits turn)
  · exact ⟨le_rfl,high⟩

theorem timer_mono {after : Pass} (arm9 : pass.arm9 ≤ after.arm9) (arm7 : pass.arm7 ≤ after.arm7)
    (fewer : after.doarm7 = true → pass.doarm7 = true) : pass.timer ≤ after.timer := by
  obtain ⟨first,second⟩ := timer_le pass
  unfold Pass.timer at first second ⊢
  cases later : after.doarm7 with
  | true =>
      rw [if_pos rfl]
      exact le_min (first.trans arm9) ((second (fewer later)).trans arm7)
  | false => exact first.trans arm9

theorem timer_lt (sound : InnerSound m pass) : 0 ≤ pass.timer ∧ pass.timer < 2 ^ 31 := by
  obtain ⟨low9,high9⟩ := sound.arm9
  obtain ⟨low7,high7⟩ := sound.arm7
  unfold Pass.timer
  split
  · exact ⟨le_min low9 low7,lt_of_le_of_lt (min_le_left _ _) high9⟩
  · exact ⟨low9,high9⟩

theorem sound_iteration (sound : InnerSound m pass) (control : m.control = .inner pass)
    (on : m.goesOn pass = true) (fits : Fits m env) :
    m.nds_timer ≤ (iteration env m pass).nds_timer ∧
      Sound (iteration env m pass) := by
  obtain ⟨before,-⟩ := goesOn_iff.mp on
  unfold Fits at fits
  rw [control] at fits
  have first := arm9Turn_moves sound before fits.1
  have second := arm7Turn_moves sound before (arm9Turn env m pass).1 fits.2
  obtain ⟨low9,high9⟩ := sound.arm9
  obtain ⟨low7,high7⟩ := sound.arm7
  have room := sound.room
  have base := sound.nonneg
  have grows : pass.timer ≤ (pass.moved env m).timer :=
    timer_mono first.1 second.1 (fun both => (Bool.and_eq_true_iff.mp both).1)
  have bounds : (pass.moved env m).timer < 2 ^ 31 :=
    lt_of_le_of_lt (timer_le (pass.moved env m)).1 first.2
  have old := timer_lt sound
  have behind := sound.behind
  have started := sound.started
  have clock : (iteration env m pass).nds_timer =
      pass.nds_timer_base + (pass.moved env m).timer :=
    u64_of_range (by omega) (by omega)
  refine ⟨by omega,?_⟩
  change InnerSound (iteration env m pass) (pass.moved env m)
  exact
    { nonneg := base
      room := room
      started := by rw [clock]; change pass.nds_timer_base ≤ _; omega
      behind := le_of_eq clock
      next := sound.next
      short := sound.short
      arm9 := ⟨low9.trans first.1,first.2⟩
      arm7 := ⟨low7.trans second.1,second.2⟩
      alone := by
        intro alone
        have same : (pass.moved env m).timer = (pass.moved env m).arm9 := by
          unfold Pass.timer
          rw [alone]
          rfl
        rw [clock,same]
        rfl }

theorem rollback_clock (arm_timer nds_timer : Int) :
    (rollback nds proc arm_timer nds_timer).2 =
        (if nds.waitIRQ proc then nds_timer else arm_timer) ∧
      (rollback nds proc arm_timer nds_timer).1.waitIRQ = nds.waitIRQ := by
  unfold rollback
  split
  · exact ⟨rfl,rfl⟩
  · exact ⟨rfl,rfl⟩

theorem endPass_clocks (sound : InnerSound m pass) :
    (endPass m pass).nds_timer = m.nds_timer ∧
      (endPass m pass).nds_arm9_timer =
        (if m.nds.waitIRQ .ARMCPU_ARM9 then m.nds_timer
          else pass.nds_timer_base + pass.arm9) ∧
      (endPass m pass).nds_arm7_timer =
        (if m.nds.waitIRQ .ARMCPU_ARM7 then m.nds_timer
          else pass.nds_timer_base + pass.arm7) := by
  obtain ⟨low9,high9⟩ := sound.arm9
  obtain ⟨low7,high7⟩ := sound.arm7
  have room := sound.room
  have base := sound.nonneg
  have clock9 : u64 (pass.nds_timer_base + pass.arm9) = pass.nds_timer_base + pass.arm9 :=
    u64_of_range (by omega) (by omega)
  have clock7 : u64 (pass.nds_timer_base + pass.arm7) = pass.nds_timer_base + pass.arm7 :=
    u64_of_range (by omega) (by omega)
  refine ⟨rfl,?_,?_⟩
  · simp only [endPass,clock9,(rollback_clock _ _ _ _).1]
  · simp only [endPass,clock9,clock7,(rollback_clock _ _ _ _).1,(rollback_clock _ _ _ _).2]

theorem endPass_ahead_iff (sound : InnerSound m pass) :
    Ahead (endPass m pass) ↔
      (pass.doarm7 = false → m.nds.waitIRQ .ARMCPU_ARM7 = true ∨ pass.arm9 ≤ pass.arm7) := by
  obtain ⟨same,arm9,arm7⟩ := endPass_clocks sound
  have behind := sound.behind
  obtain ⟨first,second⟩ := timer_le pass
  change (endPass m pass).nds_timer ≤ _ ∧ (endPass m pass).nds_timer ≤ _ ↔ _
  rw [same,arm9,arm7]
  have ahead9 : m.nds_timer ≤
      if m.nds.waitIRQ .ARMCPU_ARM9 then m.nds_timer
      else pass.nds_timer_base + pass.arm9 := by
    split <;> omega
  rw [and_iff_right ahead9]
  by_cases waiting : m.nds.waitIRQ .ARMCPU_ARM7 = true
  · rw [if_pos waiting]
    exact iff_of_true le_rfl (fun _ => Or.inl waiting)
  · rw [if_neg waiting]
    cases alone : pass.doarm7 with
    | true =>
        have slower := second alone
        exact iff_of_true (by omega) (fun both => Bool.noConfusion both)
    | false =>
        have clock := sound.alone alone
        constructor
        · intro ahead _
          exact Or.inr (by omega)
        · intro cond
          have late := (cond rfl).resolve_left waiting
          omega

theorem sound_endPass (sound : InnerSound m pass) (ahead : Ahead (endPass m pass)) :
    Sound (endPass m pass) := by
  obtain ⟨same,arm9,arm7⟩ := endPass_clocks sound
  obtain ⟨low9,high9⟩ := sound.arm9
  obtain ⟨low7,high7⟩ := sound.arm7
  have base := sound.nonneg
  have started := sound.started
  change TopSound (endPass m pass)
  exact
    { nonneg := by rw [same]; omega
      arm9 := ahead.1
      arm7 := ahead.2
      arm9Near := by
        rw [same,arm9]
        split <;> omega
      arm7Near := by
        rw [same,arm7]
        split <;> omega }

/-- The top of a pass, unless a frame has ended: the pass ends at the next event
or after the most work allowed. -/
theorem beginPass_pass {m : Machine} (sound : TopSound m)
    (control : m.control = .top) (fits : Fits m env) :
    (beginPass env m).control = .top ∧
        TopSound (beginPass env m) ∧
        (beginPass env m).nds_timer = m.nds_timer ∨
      ∃ pass, (beginPass env m).control = .inner pass ∧
        (beginPass env m).nds_timer = m.nds_timer ∧
        pass.next ≤ findNext (beginPass env m).nds ∧
        InnerSound (beginPass env m) pass := by
  have same : step m env = beginPass env m := by
    unfold step
    rw [control]
  unfold Fits at fits
  rw [control] at fits
  obtain ⟨room,late⟩ := fits
  rw [same] at late
  unfold beginPass at late ⊢
  simp only at late ⊢
  by_cases ended : (env.execHardware m.nds_timer m.nds).nds_vblankEnded = true
  · rw [if_pos ended]
    exact Or.inl ⟨control,⟨sound.nonneg,sound.arm9,sound.arm7,sound.arm9Near,sound.arm7Near⟩,
      rfl⟩
  · rw [if_neg ended] at late ⊢
    right
    have nonneg := sound.nonneg
    have ahead9 := sound.arm9
    have ahead7 := sound.arm7
    have near9 := sound.arm9Near
    have near7 := sound.arm7Near
    have limit : u64 (m.nds_timer + kMaxWork) = m.nds_timer + 4000 := by
      unfold kMaxWork
      exact u64_of_range (by omega) (by omega)
    have arm9 := @s32_u64 (m.nds_arm9_timer - m.nds_timer) (by omega) (by omega)
    have arm7 := @s32_u64 (m.nds_arm7_timer - m.nds_timer) (by omega) (by omega)
    obtain ⟨item,pending,first⟩ := findNext_attained
      (env.execHardware_interrupts (env.execHardware m.nds_timer m.nds))
    have notLate := late item pending
    simp only at notLate
    have ends := @s32_u64
      (min (findNext (env.execHardware_interrupts (env.execHardware m.nds_timer m.nds)))
        (u64 (m.nds_timer + kMaxWork)) - m.nds_timer) (by omega) (by omega)
    refine ⟨_,rfl,rfl,min_le_left _ _,?_⟩
    exact
      { nonneg := nonneg
        room := room
        started := le_rfl
        behind := by
          simp only [Pass.timer,arm9,arm7,if_true]
          omega
        next := by
          simp only [ends]
          omega
        short := by
          simp only [ends]
          omega
        arm9 := by
          simp only [arm9]
          omega
        arm7 := by
          simp only [arm7]
          omega
        alone := fun both => Bool.noConfusion both }

theorem timely_of_sound {m : Machine} (sound : Sound m) (fits : Fits m env) : Timely m env := by
  unfold Timely Dispatched
  cases control : m.control with
  | top =>
      unfold Sound at sound
      rw [control] at sound
      have same : step m env = beginPass env m := by
        unfold step
        rw [control]
      rw [same]
      simp only
      rcases beginPass_pass sound control fits with ⟨top,-,clock⟩ | ⟨pass,inner,clock,next,-⟩
      · refine ⟨le_of_eq clock.symm,?_⟩
        intro pass inner
        rw [top] at inner
        cases inner
      · refine ⟨le_of_eq clock.symm,?_⟩
        intro other inner' item pending
        rw [inner] at inner'
        cases inner'
        exact next.trans (findNext_le pending)
  | inner pass =>
      unfold Sound at sound
      rw [control] at sound
      simp only
      by_cases on : m.goesOn pass = true
      · have same : step m env = iteration env m pass := by
          unfold step
          rw [control]
          exact if_pos on
        obtain ⟨before,-⟩ := goesOn_iff.mp on
        have behind := sound.behind
        have next := sound.next
        rw [same]
        exact ⟨(sound_iteration sound control on fits).1,fun _ => by omega⟩
      · have same : step m env = endPass m pass := by
          unfold step
          rw [control]
          exact if_neg on
        rw [same]
        exact ⟨le_rfl,fun other => absurd other on⟩

theorem sound_step_iff {m : Machine} (sound : Sound m) (fits : Fits m env) :
    (Ahead (step m env) ↔ PassEnds m env) ∧
      (PassEnds m env → Sound (step m env)) := by
  unfold PassEnds
  cases control : m.control with
  | top =>
      unfold Sound at sound
      rw [control] at sound
      have same : step m env = beginPass env m := by
        unfold step
        rw [control]
      rw [same]
      rcases beginPass_pass sound control fits with ⟨top,still,-⟩ | ⟨pass,inner,-,-,within⟩
      · have ahead : Ahead (beginPass env m) := by
          unfold Ahead
          rw [top]
          exact ⟨still.arm9,still.arm7⟩
        refine ⟨iff_of_true ahead trivial,fun _ => ?_⟩
        unfold Sound
        rw [top]
        exact still
      · have ahead : Ahead (beginPass env m) := by
          unfold Ahead
          rw [inner]
          trivial
        refine ⟨iff_of_true ahead trivial,fun _ => ?_⟩
        unfold Sound
        rw [inner]
        exact within
  | inner pass =>
      unfold Sound at sound
      rw [control] at sound
      simp only
      by_cases on : m.goesOn pass = true
      · have same : step m env = iteration env m pass := by
          unfold step
          rw [control]
          exact if_pos on
        rw [same]
        refine ⟨iff_of_true trivial (fun off => ?_),fun _ => (sound_iteration sound control on
          fits).2⟩
        rw [on] at off
        cases off
      · have same : step m env = endPass m pass := by
          unfold step
          rw [control]
          exact if_neg on
        have off : m.goesOn pass = false := by simpa using on
        have exact_end := endPass_ahead_iff sound
        rw [same]
        constructor
        · rw [exact_end]
          exact ⟨fun cond _ => cond, fun cond => cond off⟩
        · intro cond
          exact sound_endPass sound (exact_end.mpr (cond off))

theorem ordered_of_sound {m : Machine} (sound : Sound m) (envs : List Environment)
    (fits : Guarded step Fits m envs) :
    Always step Ahead m envs ∧ Guarded step Timely m envs ↔
      Guarded step PassEnds m envs := by
  have here : Ahead m := by
    unfold Sound at sound
    unfold Ahead
    cases control : m.control with
    | top =>
        rw [control] at sound
        exact ⟨sound.arm9,sound.arm7⟩
    | inner pass => trivial
  induction envs generalizing m with
  | nil => exact iff_of_true ⟨here,trivial⟩ trivial
  | cons env rest ih =>
      obtain ⟨fitsHere,fitsLater⟩ := fits
      obtain ⟨ends,sounds⟩ := sound_step_iff sound fitsHere
      constructor
      · rintro ⟨⟨-,always⟩,-,timely⟩
        have cond := ends.mp always.head
        have next := sounds cond
        exact ⟨cond,(ih next fitsLater always.head).mp ⟨always,timely⟩⟩
      · rintro ⟨cond,later⟩
        obtain ⟨always,timely⟩ :=
          (ih (sounds cond) fitsLater (ends.mpr cond)).mpr later
        exact ⟨⟨here,always⟩,timely_of_sound sound fitsHere,timely⟩

/-- Time is ordered in a run from reset, as long as its numbers fit their
types, exactly when every pass meets the condition at its end. -/
theorem time_ordered_iff (envs : List Environment) (fits : Guarded step Fits (.reset nds) envs) :
    Always step Ahead (.reset nds) envs ∧ Guarded step Timely (.reset nds) envs ↔
      Guarded step PassEnds (.reset nds) envs := by
  have sound : Sound (.reset nds) :=
    { nonneg := Int.le_refl 0
      arm9 := Int.le_refl 0
      arm7 := Int.le_refl 0
      arm9Near := show (0 : Int) < 0 + 2 ^ 31 by decide
      arm7Near := show (0 : Int) < 0 + 2 ^ 31 by decide }
  exact ordered_of_sound sound envs fits

def quietNds : Nds :=
  { waitIRQ := fun _ => false
    freezeBus := 0
    gxFIFO_size := 0
    idleCycles := fun _ => 0
    reschedule := false
    nds_vblankEnded := false
    isEnabled := fun _ => false
    next := fun _ => 0 }

def calm : Environment :=
  { execHardware := fun timer nds => { nds with next := fun _ => timer.toNat + 10 }
    execHardware_interrupts := id
    armcpu_exec := fun _ nds => (nds, 4)
    ARM_ME := false }

theorem time_ordered_calm :
    Always step Ahead (.reset quietNds) [calm,calm] ∧
      Guarded step Timely (.reset quietNds) [calm,calm] := by
  have top : Fits (.reset quietNds) calm := by
    refine ⟨by decide,?_⟩
    intro item pending
    have next : ((step (.reset quietNds) calm).nds.next item : Int) = 10 := rfl
    rw [next]
    decide
  have inner : Fits (step (.reset quietNds) calm) calm :=
    ⟨fun _ _ => by decide, fun _ _ => by decide⟩
  have goesOn : PassEnds (step (.reset quietNds) calm) calm := fun off => by cases off
  exact (time_ordered_iff quietNds [calm,calm] ⟨top,⟨inner,trivial⟩⟩).mpr
    ⟨trivial,⟨goesOn,trivial⟩⟩

/-- The ARM9 runs for 22 cycles past an event that is ten cycles away, and
leaves the bus frozen until the next event. -/
def overrun : Environment :=
  { execHardware := fun timer nds =>
      { nds with next := fun _ => timer.toNat + 10, freezeBus := 0 }
    execHardware_interrupts := id
    armcpu_exec := fun proc nds =>
      match proc with
      | .ARMCPU_ARM9 => ({ nds with freezeBus := 2 }, 22)
      | .ARMCPU_ARM7 => (nds, 1)
    ARM_ME := false }

/-- The ARM7, idle because the bus is frozen, is put at cycle 10 and the clock
at 22; in the next pass the clock is 12. -/
theorem frozen_bus_takes_time_back :
    ¬∀ (nds : Nds) (envs : List Environment),
      Always step Ahead (.reset nds) envs ∧ Guarded step Timely (.reset nds) envs := by
  intro everywhere
  obtain ⟨-,-,-,-,-,timely,-⟩ := everywhere quietNds (List.replicate 5 overrun)
  have before : (final step (.reset quietNds) (List.replicate 4 overrun)).nds_timer = 22 := rfl
  have after : (final step (.reset quietNds) (List.replicate 5 overrun)).nds_timer = 12 := rfl
  have back : (22 : Int) ≤ 12 := before ▸ after ▸ timely.1
  exact absurd back (by decide)

end Desmume.Exec
