/-
The display events of the sequencer, `execHardware_hstart`, `_hstart_irq` and
`_hblank`.

A line takes four events. An interrupt asked for at its first is raised at its
second, so none waits when the next line begins.
-/

import Desmume.Lib.Run
import Desmume.Types

namespace Desmume.Sequencer

open Function (update)

inductive ESI_DISPCNT
  | HStart
  | HStartIRQ
  | HDraw
  | HBlank
  deriving DecidableEq, Repr

/-- `IRQ_BIT_LCD_`. -/
inductive LcdIrq
  | VBLANK
  | HBLANK
  | VMATCH
  deriving DecidableEq, Repr

/-- `nds.VCount`, `sequencer.dispcnt`, and the registers as `execHardware` uses them;
`reg_IF_pending` by its bits. -/
structure Lcd where
  VCount : u32
  param : ESI_DISPCNT
  timestamp : u64
  DISPSTAT : Proc → u16
  reg_IF_pending : Proc → LcdIrq → Bool

/-- What one event sees of the settings and the other parts; `again` is the second answer of
`ME_JobDone` in one event. -/
structure Env where
  nds_timer : u64
  PerFectVTiming : Bool
  Render3D : Bool
  ShouldSkip3D : Bool
  ME_JobDone : Bool
  again : Bool

def Env.timely (env : Env) : Bool :=
  env.ME_JobDone && env.PerFectVTiming || !env.PerFectVTiming

/-- `line` is no effect: it notes what `execHardware_hstart` found. -/
inductive Event
  | line (VCount : u32) (DISPSTAT : Proc → u16) (timely : Bool)
  | NDS_makeIrq (proc : Proc) (irq : LcdIrq)
  | triggerDma (mode : EDMAMode)
  | gfx3d_VBlankSignal
  | gfx3d_VBlankEndSignal (skipFrame : Bool)
  | vblankEnded

variable (lcd : Lcd) (env : Env) (proc : Proc) (irq : LcdIrq)

def execHardware_gen_vmatch_goal (DISPSTAT : u16) : u16 :=
  (DISPSTAT >>> 8) ||| ((DISPSTAT <<< 1) &&& 0x100)

/-- `NDS_makeIrq` for both processors, ARM9 first. -/
def makeIrqs (asked : Proc → Bool) : List Event :=
  (if asked .ARMCPU_ARM9 then [.NDS_makeIrq .ARMCPU_ARM9 irq] else []) ++
    if asked .ARMCPU_ARM7 then [.NDS_makeIrq .ARMCPU_ARM7 irq] else []

def pend (asked : Proc → Bool) : Lcd :=
  { lcd with
    reg_IF_pending := fun proc kind =>
      kind = irq && asked proc || lcd.reg_IF_pending proc kind }

def raise : Lcd × List Event :=
  ({ lcd with reg_IF_pending := fun proc kind => kind ≠ irq && lcd.reg_IF_pending proc kind },
    makeIrqs irq fun proc => lcd.reg_IF_pending proc irq)

def setStatus (status : Proc → u16 → u16) : Lcd :=
  { lcd with DISPSTAT := fun proc => status proc (lcd.DISPSTAT proc) }

def matched (DISPSTAT : u16) : Bool :=
  lcd.VCount = (execHardware_gen_vmatch_goal DISPSTAT).setWidth 32

def execHardware_hstart_vcount : Lcd :=
  pend (setStatus lcd fun _ val => if matched lcd val then val ||| 4 else val &&& 0xFFFB) .VMATCH
    fun proc => matched lcd (lcd.DISPSTAT proc) && (lcd.DISPSTAT proc ||| 4).getLsbD 5

def Env.render : List Event :=
  if !env.ShouldSkip3D && env.Render3D && env.again then [.gfx3d_VBlankEndSignal false] else []

/-- The two lines at which `execHardware_hstart` starts and ends the vertical blank. -/
def hstart_blank : Lcd × List Event :=
  if lcd.VCount = 192 then
    (pend (setStatus lcd fun _ val => val ||| 1) .VBLANK fun proc =>
        env.timely && (lcd.DISPSTAT proc ||| 1).getLsbD 3,
      .gfx3d_VBlankSignal :: env.render)
  else if lcd.VCount = 262 then (setStatus lcd fun _ val => val &&& ~~~1, [.vblankEnded])
  else (lcd, [])

/-- `nds.VCount++`, from 262 to 0. -/
def Lcd.nextLine : Lcd :=
  { lcd with VCount := if lcd.VCount + 1 = 263 then 0 else lcd.VCount + 1 }

def hstart_signals : List Event :=
  (if lcd.VCount + 1 = 262 then [.gfx3d_VBlankEndSignal env.ShouldSkip3D] else []) ++
    (hstart_blank lcd.nextLine env).2 ++ [.triggerDma .HStart]

def execHardware_hstart : Lcd × List Event :=
  (execHardware_hstart_vcount
      (setStatus (hstart_blank lcd.nextLine env).1 fun _ val => val &&& 0xFFFD),
    .line lcd.nextLine.VCount lcd.DISPSTAT env.timely :: hstart_signals lcd env)

def execHardware_hstart_vblankStart : Lcd × List Event :=
  ((raise lcd .VBLANK).1,
    (raise lcd .VBLANK).2 ++ if env.timely then [.triggerDma .VBlank] else [])

def execHardware_hstart_irq : Lcd × List Event :=
  let blank := if lcd.VCount = 192 then execHardware_hstart_vblankStart lcd env else (lcd, [])
  ((raise blank.1 .VMATCH).1, blank.2 ++ (raise blank.1 .VMATCH).2)

def execHardware_hblank : Lcd × List Event :=
  let dma := if lcd.VCount < 192 ∧ env.ME_JobDone then [.triggerDma .HBlank] else []
  (setStatus lcd fun _ val => val ||| 2,
    dma ++ makeIrqs .HBLANK fun proc => (lcd.DISPSTAT proc ||| 2).getLsbD 4)

def advance (ran : Lcd × List Event) (cycles : u64) (param : ESI_DISPCNT) : Lcd × List Event :=
  ({ ran.1 with timestamp := ran.1.timestamp + cycles, param }, ran.2)

def execHardware : Lcd × List Event :=
  if env.nds_timer < lcd.timestamp then (lcd, [])
  else
    match lcd.param with
    | .HStart => advance (execHardware_hstart lcd env) 12 .HStartIRQ
    | .HStartIRQ => advance (execHardware_hstart_irq lcd env) 84 .HDraw
    | .HDraw => advance (lcd, []) 3108 .HBlank
    | .HBlank => advance (execHardware_hblank lcd env) 1056 .HStart

/-- The program stores its whole half-word to DISPSTAT; the ARM7 may set VCOUNT on some lines. -/
inductive Op
  | execHardware (env : Env)
  | writeDISPSTAT (proc : Proc) (val : u16)
  | writeVCOUNT (val : u16)

def step (lcd : Lcd) : Op → Lcd × List Event
  | .execHardware env => Sequencer.execHardware lcd env
  | .writeDISPSTAT proc val => ({ lcd with DISPSTAT := update lcd.DISPSTAT proc val }, [])
  | .writeVCOUNT val =>
      (if 202 ≤ lcd.VCount ∧ lcd.VCount ≤ 212 then { lcd with VCount := val.setWidth 32 } else lcd,
        [])

def initSchedule (DISPSTAT : Proc → u16) : Lcd :=
  { VCount := 262
    param := .HStart
    timestamp := 0
    DISPSTAT
    reg_IF_pending := fun _ _ => false }

/-- What a line asks of a processor, by the settings in its DISPSTAT. -/
def asks : Event → Bool
  | .line VCount DISPSTAT timely =>
      match irq with
      | .VBLANK => VCount = 192 && (timely && (DISPSTAT proc).getLsbD 3)
      | .VMATCH =>
          VCount = (execHardware_gen_vmatch_goal (DISPSTAT proc)).setWidth 32 &&
            (DISPSTAT proc).getLsbD 5
      | .HBLANK => false
  | _ => false

def raises : Event → Bool
  | .NDS_makeIrq other kind => decide (other = proc) && decide (kind = irq)
  | _ => false

/-- Each interrupt asked for is raised once or waits, at most until the line's second event. -/
structure Answered (lcd : Lcd) (log : List Event) : Prop where
  counted : ∀ proc irq, irq ≠ .HBLANK →
    log.countP (raises proc irq) + (lcd.reg_IF_pending proc irq).toNat =
      log.countP (asks proc irq)
  soon : ∀ proc irq, irq ≠ .HBLANK → lcd.reg_IF_pending proc irq = true → lcd.param = .HStartIRQ
  vblank : ∀ proc, lcd.reg_IF_pending proc .VBLANK = true → lcd.VCount = 192

variable {lcd : Lcd} {env : Env} {log : List Event} {proc : Proc} {irq kind : LcdIrq}

@[simp] theorem raises_makeIrqs (asked : Proc → Bool) :
    (makeIrqs kind asked).countP (raises proc irq) = (kind = irq && asked proc).toNat := by
  unfold makeIrqs
  cases proc <;> cases asked .ARMCPU_ARM9 <;> cases asked .ARMCPU_ARM7 <;>
    by_cases same : kind = irq <;> simp [raises,same]

@[simp] theorem asks_makeIrqs (asked : Proc → Bool) :
    (makeIrqs kind asked).countP (asks proc irq) = 0 := by
  unfold makeIrqs
  split_ifs <;> rfl

/-- Only the status bits differ. -/
def Kept (old new : u16) : Prop := ∀ i, 3 ≤ i → new.getLsbD i = old.getLsbD i

theorem kept_or (mask : u16) (low : ∀ i < 16, 3 ≤ i → mask.getLsbD i = false) (val : u16) :
    Kept val (val ||| mask) := by
  intro i high
  rw [BitVec.getLsbD_or]
  by_cases inside : i < 16
  · rw [low i inside high,Bool.or_false]
  · rw [mask.getLsbD_of_ge i (by omega),Bool.or_false]

theorem kept_and (mask : u16) (low : ∀ i < 16, 3 ≤ i → mask.getLsbD i = true) (val : u16) :
    Kept val (val &&& mask) := by
  intro i high
  rw [BitVec.getLsbD_and]
  by_cases inside : i < 16
  · rw [low i inside high,Bool.and_true]
  · rw [val.getLsbD_of_ge i (by omega),Bool.false_and]

theorem Kept.goal {old new : u16} (kept : Kept old new) :
    execHardware_gen_vmatch_goal new = execHardware_gen_vmatch_goal old := by
  unfold execHardware_gen_vmatch_goal
  congr 1
  · apply BitVec.eq_of_getLsbD_eq
    intro i inside
    rw [BitVec.getLsbD_ushiftRight,BitVec.getLsbD_ushiftRight,kept (8 + i) (by omega)]
  · apply BitVec.eq_of_getLsbD_eq
    intro i inside
    rw [BitVec.getLsbD_and,BitVec.getLsbD_and]
    by_cases eight : i = 8
    · rw [eight,BitVec.getLsbD_shiftLeft,BitVec.getLsbD_shiftLeft,kept 7 (by omega)]
    · have mask : (0x100 : u16).getLsbD i = false := by
        interval_cases i <;> first | rfl | exact absurd rfl eight
      rw [mask,Bool.and_false,Bool.and_false]

/-- Before the match is looked for the program's settings are as it left them. -/
theorem kept_hstart (proc : Proc) :
    Kept (lcd.DISPSTAT proc) ((hstart_blank lcd env).1.DISPSTAT proc &&& 0xFFFD) := by
  intro i high
  rw [kept_and 0xFFFD (by decide) _ i high]
  unfold hstart_blank
  split_ifs
  · exact kept_or 1 (by decide) (lcd.DISPSTAT proc) i high
  · exact kept_and (~~~1) (by decide) (lcd.DISPSTAT proc) i high
  · rfl

theorem VCount_hstart_blank : (hstart_blank lcd env).1.VCount = lcd.VCount := by
  unfold hstart_blank
  split_ifs <;> rfl

theorem timestamp_hstart_blank : (hstart_blank lcd env).1.timestamp = lcd.timestamp := by
  unfold hstart_blank
  split_ifs <;> rfl

theorem pending_hstart_blank :
    (hstart_blank lcd env).1.reg_IF_pending proc irq =
      (decide (irq = .VBLANK) &&
          (lcd.VCount = 192 && (env.timely && (lcd.DISPSTAT proc).getLsbD 3)) ||
        lcd.reg_IF_pending proc irq) := by
  unfold hstart_blank
  split_ifs with start
  · rw [← kept_or 1 (by decide) (lcd.DISPSTAT proc) 3 (Nat.le_refl 3)]
    simp [pend,setStatus,start]
  · rw [decide_eq_false start,Bool.false_and,Bool.and_false,Bool.false_or]
    rfl
  · rw [decide_eq_false start,Bool.false_and,Bool.and_false,Bool.false_or]

theorem pending_hstart (other : irq ≠ .HBLANK) :
    (execHardware_hstart lcd env).1.reg_IF_pending proc irq =
      (asks proc irq (.line lcd.nextLine.VCount lcd.DISPSTAT env.timely) ||
        lcd.reg_IF_pending proc irq) := by
  have kept := @kept_hstart lcd.nextLine env proc
  change (decide (irq = .VMATCH) &&
    (decide ((hstart_blank lcd.nextLine env).1.VCount = (execHardware_gen_vmatch_goal
      ((hstart_blank lcd.nextLine env).1.DISPSTAT proc &&& 0xFFFD)).setWidth 32) &&
    (((hstart_blank lcd.nextLine env).1.DISPSTAT proc &&& 0xFFFD) ||| 4).getLsbD 5) ||
    (hstart_blank lcd.nextLine env).1.reg_IF_pending proc irq) = _
  rw [kept_or 4 (by decide) _ 5 (by decide),kept 5 (by decide),kept.goal,
    VCount_hstart_blank,pending_hstart_blank]
  cases irq with
  | VBLANK => rfl
  | HBLANK => exact absurd rfl other
  | VMATCH => rfl

/-- No interrupt and no line. -/
def Event.quiet : Event → Bool
  | .line _ _ _ | .NDS_makeIrq _ _ => false
  | _ => true

theorem countP_quiet {events : List Event} (quiet : events.all Event.quiet = true) :
    events.countP (raises proc irq) = 0 ∧ events.countP (asks proc irq) = 0 := by
  rw [List.countP_eq_zero,List.countP_eq_zero]
  constructor
  · intro event member raised
    have silent := List.all_eq_true.mp quiet event member
    cases event <;> simp_all [raises,Event.quiet]
  · intro event member asked
    have silent := List.all_eq_true.mp quiet event member
    cases event <;> simp_all [asks,Event.quiet]

/-- Events that raise what no longer waits and ask for what now does. -/
theorem Answered.next {after : Lcd} {events : List Event} (answered : Answered lcd log)
    (counted : ∀ proc irq, irq ≠ .HBLANK →
      events.countP (raises proc irq) + (after.reg_IF_pending proc irq).toNat =
        events.countP (asks proc irq) + (lcd.reg_IF_pending proc irq).toNat)
    (soon : ∀ proc irq, irq ≠ .HBLANK → after.reg_IF_pending proc irq = true →
      after.param = .HStartIRQ)
    (vblank : ∀ proc, after.reg_IF_pending proc .VBLANK = true → after.VCount = 192) :
    Answered after (log ++ events) := by
  refine ⟨fun proc irq other => ?_,soon,vblank⟩
  have before := answered.counted proc irq other
  have here := counted proc irq other
  rw [List.countP_append,List.countP_append]
  omega

theorem Answered.idle (answered : Answered lcd log) (elsewhere : lcd.param ≠ .HStartIRQ)
    (other : irq ≠ .HBLANK) : lcd.reg_IF_pending proc irq = false := by
  have soon := answered.soon proc irq other
  by_contra some
  exact elsewhere (soon (Bool.eq_true_of_not_eq_false some))

theorem quiet_hstart_signals : (hstart_signals lcd env).all Event.quiet = true := by
  unfold hstart_signals hstart_blank Env.render
  split_ifs <;> rfl

theorem VCount_hstart : (execHardware_hstart lcd env).1.VCount = lcd.nextLine.VCount := by
  unfold execHardware_hstart execHardware_hstart_vcount pend setStatus
  exact VCount_hstart_blank

theorem timestamp_hstart : (execHardware_hstart lcd env).1.timestamp = lcd.timestamp := by
  unfold execHardware_hstart execHardware_hstart_vcount pend setStatus
  exact timestamp_hstart_blank

theorem Answered.hstart (answered : Answered lcd log) (first : lcd.param = .HStart) :
    Answered (advance (execHardware_hstart lcd env) 12 .HStartIRQ).1
      (log ++ (execHardware_hstart lcd env).2) := by
  have idle (proc : Proc) (irq : LcdIrq) (other : irq ≠ .HBLANK) :
      lcd.reg_IF_pending proc irq = false := answered.idle (by rw [first]; decide) other
  apply answered.next
  · intro proc irq other
    have quiet := @countP_quiet proc irq _ (@quiet_hstart_signals lcd env)
    have pending := @pending_hstart lcd env proc irq other
    have events : (execHardware_hstart lcd env).2 =
        .line lcd.nextLine.VCount lcd.DISPSTAT env.timely :: hstart_signals lcd env := rfl
    rw [idle proc irq other,Bool.or_false] at pending
    change _ + ((execHardware_hstart lcd env).1.reg_IF_pending proc irq).toNat = _
    rw [pending,events,List.countP_cons,List.countP_cons,quiet.1,quiet.2,idle proc irq other]
    generalize asked : asks proc irq (.line lcd.nextLine.VCount lcd.DISPSTAT env.timely) = some
    cases some <;> simp [raises]
  · exact fun _ _ _ _ => rfl
  · intro proc waiting
    change (execHardware_hstart lcd env).1.reg_IF_pending proc .VBLANK = true at waiting
    rw [pending_hstart (by decide),idle proc .VBLANK (by decide),Bool.or_false] at waiting
    simp only [asks,Bool.and_eq_true,decide_eq_true_eq] at waiting
    change (execHardware_hstart lcd env).1.VCount = 192
    rw [VCount_hstart]
    exact waiting.1

theorem hstart_irq_spec (line : lcd.VCount ≠ 192 → lcd.reg_IF_pending proc .VBLANK = false)
    (other : irq ≠ .HBLANK) :
    (execHardware_hstart_irq lcd env).1.reg_IF_pending proc irq = false ∧
      (execHardware_hstart_irq lcd env).2.countP (raises proc irq) =
          (lcd.reg_IF_pending proc irq).toNat ∧
        (execHardware_hstart_irq lcd env).2.countP (asks proc irq) = 0 := by
  have dma := @countP_quiet proc irq (if env.timely then [.triggerDma .VBlank] else [])
    (by split_ifs <;> rfl)
  unfold execHardware_hstart_irq execHardware_hstart_vblankStart
  by_cases here : lcd.VCount = 192
  · simp only [if_pos here,raise,List.countP_append,raises_makeIrqs,asks_makeIrqs,dma.1,dma.2]
    cases irq <;> simp_all
  · simp only [if_neg here,raise,List.countP_append,raises_makeIrqs,asks_makeIrqs]
    cases irq <;> simp_all

theorem Answered.hstart_irq (answered : Answered lcd log) :
    Answered (advance (execHardware_hstart_irq lcd env) 84 .HDraw).1
      (log ++ (execHardware_hstart_irq lcd env).2) := by
  have line (proc : Proc) : lcd.VCount ≠ 192 → lcd.reg_IF_pending proc .VBLANK = false :=
    fun elsewhere => Bool.eq_false_of_not_eq_true fun waiting =>
      elsewhere (answered.vblank proc waiting)
  apply answered.next
  · intro proc irq other
    obtain ⟨after,raised,asked⟩ := @hstart_irq_spec lcd env proc irq (line proc) other
    change _ + ((execHardware_hstart_irq lcd env).1.reg_IF_pending proc irq).toNat = _
    rw [raised,asked,after]
    simp
  · intro proc irq other waiting
    exact absurd waiting
      (Bool.eq_false_iff.mp (@hstart_irq_spec lcd env proc irq (line proc) other).1)
  · intro proc waiting
    exact absurd waiting (Bool.eq_false_iff.mp
      (@hstart_irq_spec lcd env proc .VBLANK (line proc) (by decide)).1)

theorem Answered.hblank (answered : Answered lcd log) (last : lcd.param = .HBlank) :
    Answered (advance (execHardware_hblank lcd env) 1056 .HStart).1
      (log ++ (execHardware_hblank lcd env).2) := by
  have idle (proc : Proc) (irq : LcdIrq) (other : irq ≠ .HBLANK) :
      lcd.reg_IF_pending proc irq = false := answered.idle (by rw [last]; decide) other
  apply answered.next
  · intro proc irq other
    have dma := @countP_quiet proc irq
      (if lcd.VCount < 192 ∧ env.ME_JobDone then [.triggerDma .HBlank] else [])
      (by split_ifs <;> rfl)
    change List.countP _ (_ ++ _) + (lcd.reg_IF_pending proc irq).toNat = List.countP _ (_ ++ _) + _
    rw [List.countP_append,List.countP_append,dma.1,dma.2,raises_makeIrqs,asks_makeIrqs,
      decide_eq_false (Ne.symm other)]
    rfl
  · exact fun proc irq other waiting => absurd waiting (Bool.eq_false_iff.mp (idle proc irq other))
  · exact fun proc waiting =>
      absurd waiting (Bool.eq_false_iff.mp (idle proc .VBLANK (by decide)))

theorem Answered.step (answered : Answered lcd log) (op : Op) :
    Answered (step lcd op).1 (log ++ (step lcd op).2) := by
  cases op with
  | execHardware env =>
      change Answered (execHardware lcd env).1 (log ++ (execHardware lcd env).2)
      unfold execHardware
      split_ifs
      · rw [List.append_nil]
        exact answered
      · match phase : lcd.param with
        | .HStart => exact answered.hstart phase
        | .HStartIRQ => exact answered.hstart_irq
        | .HDraw =>
            have idle (proc : Proc) (irq : LcdIrq) (other : irq ≠ .HBLANK) :
                lcd.reg_IF_pending proc irq = false :=
              answered.idle (by rw [phase]; decide) other
            exact answered.next (fun _ _ _ => rfl)
              (fun proc irq other waiting =>
                absurd waiting (Bool.eq_false_iff.mp (idle proc irq other)))
              answered.vblank
        | .HBlank => exact answered.hblank phase
  | writeDISPSTAT proc val =>
      exact answered.next (fun _ _ _ => rfl) answered.soon answered.vblank
  | writeVCOUNT val =>
      change Answered (if _ then { lcd with VCount := val.setWidth 32 } else lcd) (log ++ [])
      split_ifs with within
      · refine answered.next (fun _ _ _ => rfl) answered.soon fun proc waiting => ?_
        have line := answered.vblank proc waiting
        rw [line] at within
        exact absurd within.1 (by decide)
      · exact answered.next (fun _ _ _ => rfl) answered.soon answered.vblank

/-- The cycles from a phase to the next line. -/
def ESI_DISPCNT.left : ESI_DISPCNT → u64
  | HStart => 0
  | HStartIRQ => 4248
  | HDraw => 4164
  | HBlank => 1056

def lineOf : Event → Option u32
  | .line VCount _ _ => some VCount
  | _ => none

/-- `n` lines have begun: they are numbered in turn and each takes 4260 cycles. -/
structure OnTime (n : Nat) (lcd : Lcd) (log : List Event) : Prop where
  lines : log.filterMap lineOf = (List.range n).map fun k => BitVec.ofNat 32 (k % 263)
  VCount : lcd.VCount = BitVec.ofNat 32 ((n + 262) % 263)
  time : lcd.timestamp + lcd.param.left = BitVec.ofNat 64 (4260 * n)

theorem lineOf_makeIrqs (asked : Proc → Bool) :
    (makeIrqs irq asked).filterMap lineOf = [] := by
  unfold makeIrqs
  split_ifs <;> rfl

theorem lines_quiet {events : List Event} (quiet : events.all Event.quiet = true) :
    events.filterMap lineOf = [] := by
  rw [List.filterMap_eq_nil_iff]
  intro event member
  have silent := List.all_eq_true.mp quiet event member
  cases event <;> first | rfl | cases silent

theorem nextLine_VCount {n : Nat} (VCount : lcd.VCount = BitVec.ofNat 32 ((n + 262) % 263)) :
    lcd.nextLine.VCount = BitVec.ofNat 32 (n % 263) := by
  have small : (n + 262) % 263 + 1 < 2 ^ 32 := by omega
  have next : lcd.VCount + 1 = BitVec.ofNat 32 ((n + 262) % 263 + 1) := by
    rw [VCount,BitVec.ofNat_add]
    rfl
  change (if lcd.VCount + 1 = 263 then 0 else lcd.VCount + 1) = _
  rw [next]
  by_cases last : (n + 262) % 263 + 1 = 263
  · rw [last,show n % 263 = 0 by omega]
    rfl
  · rw [if_neg,show n % 263 = (n + 262) % 263 + 1 by omega]
    intro same
    have values := congrArg BitVec.toNat same
    rw [BitVec.toNat_ofNat,Nat.mod_eq_of_lt small] at values
    exact last values

theorem OnTime.hstart {n : Nat} (timed : OnTime n lcd log) (first : lcd.param = .HStart) :
    OnTime (n + 1) (advance (execHardware_hstart lcd env) 12 .HStartIRQ).1
      (log ++ (execHardware_hstart lcd env).2) := by
  have line := nextLine_VCount timed.VCount
  have time := timed.time
  rw [first] at time
  constructor
  · have here : (execHardware_hstart lcd env).2.filterMap lineOf = [lcd.nextLine.VCount] :=
      congrArg (lcd.nextLine.VCount :: ·) (lines_quiet quiet_hstart_signals)
    rw [List.filterMap_append,timed.lines,List.range_succ,List.map_append,here,line]
    rfl
  · change (execHardware_hstart lcd env).1.VCount = _
    rw [VCount_hstart,line]
    congr 1
    omega
  · change lcd.timestamp + 0 = _ at time
    have cycles : (12 : u64) + 4248 = BitVec.ofNat 64 4260 := by decide
    change (execHardware_hstart lcd env).1.timestamp + 12 + 4248 = _
    rw [timestamp_hstart,Nat.mul_succ,BitVec.ofNat_add,← time,BitVec.add_assoc,cycles]
    exact congrArg (· + _) (BitVec.add_zero lcd.timestamp).symm

theorem OnTime.later {n : Nat} {ran : Lcd × List Event} {cycles : u64} {param : ESI_DISPCNT}
    (timed : OnTime n lcd log) (line : ran.1.VCount = lcd.VCount)
    (clock : ran.1.timestamp = lcd.timestamp) (left : cycles + param.left = lcd.param.left)
    (quiet : ran.2.filterMap lineOf = []) :
    OnTime n (advance ran cycles param).1 (log ++ ran.2) := by
  refine ⟨?_,line.trans timed.VCount,?_⟩
  · rw [List.filterMap_append,quiet,List.append_nil]
    exact timed.lines
  · change ran.1.timestamp + cycles + param.left = _
    rw [clock,BitVec.add_assoc,left]
    exact timed.time

theorem OnTime.execHardware {n : Nat} (timed : OnTime n lcd log) :
    ∃ later, OnTime later (execHardware lcd env).1 (log ++ (execHardware lcd env).2) := by
  unfold Sequencer.execHardware
  split_ifs
  · exact ⟨n,by rwa [List.append_nil]⟩
  · match phase : lcd.param with
    | .HStart => exact ⟨n + 1,timed.hstart phase⟩
    | .HStartIRQ =>
        refine ⟨n,timed.later ?_ ?_ (by rw [phase]; rfl) ?_⟩
        · unfold execHardware_hstart_irq
          split_ifs <;> rfl
        · unfold execHardware_hstart_irq
          split_ifs <;> rfl
        · unfold execHardware_hstart_irq execHardware_hstart_vblankStart raise
          split_ifs <;> simp only [List.filterMap_append,lineOf_makeIrqs] <;> rfl
    | .HDraw => exact ⟨n,timed.later rfl rfl (by rw [phase]; rfl) rfl⟩
    | .HBlank =>
        refine ⟨n,timed.later rfl rfl (by rw [phase]; rfl) ?_⟩
        unfold execHardware_hblank
        split_ifs <;> simp only [List.filterMap_append,lineOf_makeIrqs] <;> rfl

/-- Where the ARM7 does not set VCOUNT, lines 0 to 262 begin in turn, each 4260 cycles after the
one before, whatever else the program stores. -/
theorem lcd_on_time (DISPSTAT : Proc → u16) (ops : List Op)
    (free : ∀ val, Op.writeVCOUNT val ∉ ops) :
    ∃ n, OnTime n (Run.logged step (initSchedule DISPSTAT) ops).1
      (Run.logged step (initSchedule DISPSTAT) ops).2 := by
  induction ops using List.reverseRecOn with
  | nil => exact ⟨0,rfl,rfl,rfl⟩
  | append_singleton ops op ih =>
      obtain ⟨n,timed⟩ := ih fun val member => free val (List.mem_append_left _ member)
      rw [Run.logged_snoc]
      cases op with
      | execHardware env => exact timed.execHardware
      | writeDISPSTAT proc val =>
          exact ⟨n,by simpa [step] using timed.lines,timed.VCount,timed.time⟩
      | writeVCOUNT val => exact absurd (List.mem_append_right _ List.mem_cons_self) (free val)

theorem lcd_on_time_started :
    ∃ n, OnTime n
      (Run.logged step (initSchedule fun _ => 0)
        [.execHardware ⟨0,false,false,false,true,true⟩,.writeDISPSTAT .ARMCPU_ARM9 8]).1
      (Run.logged step (initSchedule fun _ => 0)
        [.execHardware ⟨0,false,false,false,true,true⟩,.writeDISPSTAT .ARMCPU_ARM9 8]).2 :=
  lcd_on_time (fun _ => 0) _ (by intro val; simp)

end Desmume.Sequencer
