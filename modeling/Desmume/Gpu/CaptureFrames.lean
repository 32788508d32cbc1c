/-
The busy flag of the display capture over whole runs.

The capture is switched on by the call for line 0 and off by the call for line
191, both only when the call gets as far as the capture.
-/

import Desmume.Gpu.Capture
import Desmume.Vram.Control

namespace Desmume.Gpu

def Machine.captureRegs (m : Machine) : DISPCAPCNT × u32 := (m.dispCapCnt, m.REG_DISPCAPCNT)

def Machine.captureBusy (m : Machine) : Bool := m.REG_DISPCAPCNT.getLsbD 31

def startRegs (l : Nat) (regs : DISPCAPCNT × u32) : DISPCAPCNT × u32 :=
  if l = 0 ∧ regs.1.val.getLsbD 31 then ({ regs.1 with enabled := true }, regs.1.val) else regs

def endRegs (l : Nat) (regs : DISPCAPCNT × u32) : DISPCAPCNT × u32 :=
  if regs.1.enabled = true ∧ 191 ≤ l then
    let val := regs.1.val &&& (0x7FFFFFFF : u32)
    ({ regs.1 with enabled := false, val := val }, val)
  else regs

section

variable (cfg : Config) (m : Machine) (core : Core) (l : Nat)

theorem captureRegs_storeRow (row : Row) : (m.storeRow core row).captureRegs = m.captureRegs := by
  unfold Machine.storeRow
  cases (m.gpu core).currDst with
  | null => rfl
  | GPU_Screen off => rfl
  | tempScanlineBuffer => rfl

theorem captureRegs_brightness :
    (m.GPU_RenderLine_MasterBrightness core).captureRegs = m.captureRegs :=
  captureRegs_storeRow m core _

theorem captureRegs_clearFifo : (m.clearFifo core l).captureRegs = m.captureRegs := by
  unfold Machine.clearFifo
  split_ifs <;> rfl

theorem captureRegs_startCapture : (m.startCapture l).captureRegs = startRegs l m.captureRegs := by
  unfold Machine.startCapture startRegs
  change _ = if l = 0 ∧ m.dispCapCnt.val.getLsbD 31 = true then _ else _
  split_ifs <;> rfl

theorem captureRegs_endCapture : (m.endCapture l).captureRegs = endRegs l m.captureRegs := by
  unfold Machine.endCapture endRegs
  change _ = if m.dispCapCnt.enabled = true ∧ 191 ≤ l then _ else _
  split_ifs <;> rfl

variable (tempScanline : Row)

theorem captureRegs_DispCapture :
    (m.GPU_RenderLine_DispCapture cfg tempScanline l).captureRegs =
      endRegs l (startRegs l m.captureRegs) := by
  unfold Machine.GPU_RenderLine_DispCapture
  rw [captureRegs_endCapture,← captureRegs_startCapture]
  rfl

theorem captureRegs_afterDisplay_main :
    (m.afterDisplay cfg .GPU_MAIN tempScanline l).captureRegs =
      endRegs l (startRegs l m.captureRegs) :=
  (captureRegs_clearFifo _ _ l).trans (captureRegs_DispCapture cfg m l tempScanline)

theorem captureRegs_afterDisplay_sub :
    (m.afterDisplay cfg .GPU_SUB tempScanline l).captureRegs = m.captureRegs := by
  change (if cfg.cur = true ∧ l = 190 then m.drawMouse else m).captureRegs = _
  split_ifs <;> rfl

theorem captureRegs_renderFully_main :
    (m.renderFully cfg .GPU_MAIN l).captureRegs = endRegs l (startRegs l m.captureRegs) := by
  unfold Machine.renderFully
  dsimp only
  rw [captureRegs_brightness,captureRegs_afterDisplay_main,captureRegs_storeRow]
  rfl

theorem captureRegs_renderFully_sub :
    (m.renderFully cfg .GPU_SUB l).captureRegs = m.captureRegs := by
  unfold Machine.renderFully
  dsimp only
  rw [captureRegs_brightness,captureRegs_afterDisplay_sub,captureRegs_storeRow]
  rfl

theorem captureRegs_setupFirstLine : (m.setupFirstLine core l).captureRegs = m.captureRegs := by
  unfold Machine.setupFirstLine
  split_ifs <;> rfl

end

section

variable (cfg : Config) (m : Machine) (l : Nat)

theorem captureRegs_RenderLine_sub (skip : Bool) :
    (m.GPU_RenderLine cfg .GPU_SUB l skip).captureRegs = m.captureRegs := by
  unfold Machine.GPU_RenderLine
  dsimp only
  have setup := captureRegs_setupFirstLine m .GPU_SUB l
  split_ifs
  · rfl
  · exact (captureRegs_clearFifo _ _ l).trans setup
  · exact (captureRegs_brightness _ _).trans setup
  · exact (captureRegs_renderFully_sub cfg _ l).trans setup

theorem captureRegs_RenderLine_main (skip : Bool) :
    (m.GPU_RenderLine cfg .GPU_MAIN l skip).captureRegs = m.captureRegs ∨
      (m.GPU_RenderLine cfg .GPU_MAIN l skip).captureRegs =
        endRegs l (startRegs l m.captureRegs) := by
  unfold Machine.GPU_RenderLine
  dsimp only
  have setup := captureRegs_setupFirstLine m .GPU_MAIN l
  split_ifs
  · exact Or.inl rfl
  · exact Or.inl ((captureRegs_clearFifo _ _ l).trans setup)
  · exact Or.inl ((captureRegs_brightness _ _).trans setup)
  · right
    rw [captureRegs_renderFully_main,setup]

theorem captureRegs_RenderLine_ends (ends : l = 0 ∨ l = 191)
    (shown : isHidden cfg .GPU_MAIN = false) :
    (m.GPU_RenderLine cfg .GPU_MAIN l false).captureRegs =
      endRegs l (startRegs l m.captureRegs) := by
  unfold Machine.GPU_RenderLine
  dsimp only
  rw [if_neg (ne_true_of_eq_false shown),if_neg Bool.false_ne_true,
    if_neg (fun cut => cut.2 ⟨rfl,Or.inr ends⟩),captureRegs_renderFully_main,
    captureRegs_setupFirstLine]

end

variable (regs : DISPCAPCNT × u32)

/-- Bit 31 in memory is never set without the engine knowing it. -/
def BusyKnown : Prop :=
  regs.2.getLsbD 31 = true → regs.1.val.getLsbD 31 = true

theorem busyKnown_same (cap : DISPCAPCNT) : BusyKnown (cap, cap.val) := fun busy => busy

theorem busyKnown_startRegs (l : Nat) (regs : DISPCAPCNT × u32) (known : BusyKnown regs) :
    BusyKnown (startRegs l regs) := by
  unfold startRegs
  split_ifs with starts
  · exact fun busy => busy
  · exact known

theorem busyKnown_endRegs (l : Nat) (regs : DISPCAPCNT × u32) (known : BusyKnown regs) :
    BusyKnown (endRegs l regs) := by
  unfold endRegs
  split_ifs with ends
  · exact fun busy => busy
  · exact known

theorem enabled_startRegs_zero (known : BusyKnown regs)
    (busy : regs.2.getLsbD 31 = true) : (startRegs 0 regs).1.enabled = true := by
  unfold startRegs
  rw [if_pos ⟨rfl,known busy⟩]

theorem endRegs_early {l : Nat} (early : l < 191) (regs : DISPCAPCNT × u32) :
    endRegs l regs = regs := if_neg (fun ends => absurd ends.2 (by omega))

theorem startRegs_late {l : Nat} (late : l ≠ 0) (regs : DISPCAPCNT × u32) :
    startRegs l regs = regs := if_neg (fun starts => late starts.1)

theorem endRegs_last (enabled : regs.1.enabled = true) :
    (endRegs 191 regs).2.getLsbD 31 = false := by
  unfold endRegs
  rw [if_pos ⟨enabled,Nat.le_refl 191⟩]
  change (regs.1.val &&& (0x7FFFFFFF : u32)).getLsbD 31 = false
  rw [BitVec.getLsbD_and]
  exact Bool.and_false _

def Op.mainLine : Op → Option Nat
  | .GPU_RenderLine .GPU_MAIN l _ => some l.val
  | _ => none

/-- The operations after which the busy flag is still known and cleared in time:
no byte store raises it behind the engine's back, and while it is set neither
line 0 nor line 191 is dropped. -/
def FrameCondition (cfg : Config) (m : Machine) : Op → Prop
  | .GPU_RenderLine .GPU_MAIN l skip =>
      m.captureBusy = true → (l.val = 0 ∧ m.dispCapCnt.enabled = false) ∨ l.val = 191 →
        skip = false ∧ isHidden cfg .GPU_MAIN = false
  | .DISPCAPCNT_byte i val =>
      (setByte m.REG_DISPCAPCNT i.val val).getLsbD 31 = true →
        m.dispCapCnt.val.getLsbD 31 = true
  | _ => True

theorem busyKnown_step (cfg : Config) (m : Machine) (op : Op)
    (known : BusyKnown m.captureRegs) (good : FrameCondition cfg m op) :
    BusyKnown (m.step cfg op).captureRegs := by
  cases op with
  | write core val => exact known
  | DISPCAPCNT val => exact fun busy => busy
  | DISPCAPCNT_low val => exact fun busy => busy
  | DISPCAPCNT_high val => exact fun busy => busy
  | DISPCAPCNT_byte i val => exact good
  | memory vid => exact known
  | fifo disp_fifo => exact known
  | mouse pos => exact known
  | GPU_RenderLine core l skip =>
      cases core with
      | GPU_SUB =>
          change BusyKnown (m.GPU_RenderLine cfg .GPU_SUB l.val skip).captureRegs
          rw [captureRegs_RenderLine_sub]
          exact known
      | GPU_MAIN =>
          change BusyKnown (m.GPU_RenderLine cfg .GPU_MAIN l.val skip).captureRegs
          rcases captureRegs_RenderLine_main cfg m l.val skip with kept | captured
          · rw [kept]
            exact known
          · rw [captured]
            exact busyKnown_endRegs _ _ (busyKnown_startRegs _ _ known)

theorem enabled_step (cfg : Config) (m : Machine) (op : Op)
    (between : ∀ l, op.mainLine = some l → l ≠ 0 ∧ l < 191)
    (enabled : m.dispCapCnt.enabled = true) : (m.step cfg op).dispCapCnt.enabled = true := by
  cases op with
  | write core val => exact enabled
  | DISPCAPCNT val => exact enabled
  | DISPCAPCNT_low val => exact enabled
  | DISPCAPCNT_high val => exact enabled
  | DISPCAPCNT_byte i val => exact enabled
  | memory vid => exact enabled
  | fifo disp_fifo => exact enabled
  | mouse pos => exact enabled
  | GPU_RenderLine core l skip =>
      cases core with
      | GPU_SUB =>
          have kept := congrArg Prod.fst (captureRegs_RenderLine_sub cfg m l.val skip)
          exact (congrArg DISPCAPCNT.enabled kept).trans enabled
      | GPU_MAIN =>
          obtain ⟨notFirst,notLast⟩ := between l.val rfl
          have same : (m.GPU_RenderLine cfg .GPU_MAIN l.val skip).captureRegs =
              m.captureRegs := by
            rcases captureRegs_RenderLine_main cfg m l.val skip with kept | captured
            · exact kept
            · rw [captured,startRegs_late notFirst,endRegs_early notLast]
          exact (congrArg (fun regs => regs.1.enabled) same).trans enabled

theorem enabled_between (cfg : Config) (frame : List Op) (m : Machine)
    (between : ∀ op ∈ frame, ∀ l, op.mainLine = some l → l ≠ 0 ∧ l < 191)
    (enabled : m.dispCapCnt.enabled = true) :
    (Run.final (Machine.step cfg) m frame).dispCapCnt.enabled = true := by
  induction frame generalizing m with
  | nil => exact enabled
  | cons op rest ih =>
      exact ih (m.step cfg op)
        (fun later member => between later (List.mem_cons_of_mem _ member))
        (enabled_step cfg m op (between op List.mem_cons_self) enabled)

theorem enabled_after_first (cfg : Config) (m : Machine) (l : Fin 192) (skip : Bool)
    (first : l.val = 0) (known : BusyKnown m.captureRegs) (busy : m.captureBusy = true)
    (good : FrameCondition cfg m (.GPU_RenderLine .GPU_MAIN l skip)) :
    (m.step cfg (.GPU_RenderLine .GPU_MAIN l skip)).dispCapCnt.enabled = true := by
  have early : l.val < 191 := by omega
  have started := enabled_startRegs_zero m.captureRegs known busy
  change (m.GPU_RenderLine cfg .GPU_MAIN l.val skip).captureRegs.1.enabled = true
  by_cases already : m.dispCapCnt.enabled = true
  · rcases captureRegs_RenderLine_main cfg m l.val skip with kept | captured
    · rw [kept]
      exact already
    · rw [captured,endRegs_early early,first]
      exact started
  · obtain ⟨rendered,shown⟩ := good busy (Or.inl ⟨first,eq_false_of_ne_true already⟩)
    rw [rendered,captureRegs_RenderLine_ends cfg m l.val (Or.inl first) shown,
      endRegs_early early,first]
    exact started

theorem idle_after_last (cfg : Config) (m : Machine) (l : Fin 192) (skip : Bool)
    (last : l.val = 191) (enabled : m.dispCapCnt.enabled = true)
    (good : FrameCondition cfg m (.GPU_RenderLine .GPU_MAIN l skip)) :
    (m.step cfg (.GPU_RenderLine .GPU_MAIN l skip)).captureBusy = false := by
  have ended : (endRegs l.val (startRegs l.val m.captureRegs)).2.getLsbD 31 = false := by
    rw [last,startRegs_late (by omega)]
    exact endRegs_last m.captureRegs enabled
  change (m.GPU_RenderLine cfg .GPU_MAIN l.val skip).captureRegs.2.getLsbD 31 = false
  by_cases busy : m.captureBusy = true
  · obtain ⟨rendered,shown⟩ := good busy (Or.inr last)
    rw [rendered,captureRegs_RenderLine_ends cfg m l.val (Or.inr last) shown]
    exact ended
  · rcases captureRegs_RenderLine_main cfg m l.val skip with kept | captured
    · rw [kept]
      exact eq_false_of_ne_true busy
    · rw [captured]
      exact ended

/-! ### What a line does to the memory of the banks -/

section

variable (cfg : Config) (m : Machine) (core : Core) (l : Nat)

theorem video_storeRow (row : Row) : (m.storeRow core row).video = m.video := by
  unfold Machine.storeRow
  cases (m.gpu core).currDst with
  | null => rfl
  | GPU_Screen off => rfl
  | tempScanlineBuffer => rfl

theorem disp_fifo_storeRow (row : Row) : (m.storeRow core row).disp_fifo = m.disp_fifo := by
  unfold Machine.storeRow
  cases (m.gpu core).currDst with
  | null => rfl
  | GPU_Screen off => rfl
  | tempScanlineBuffer => rfl

theorem video_clearFifo : (m.clearFifo core l).video = m.video := by
  unfold Machine.clearFifo
  split_ifs <;> rfl

theorem video_startCapture : (m.startCapture l).video = m.video := by
  unfold Machine.startCapture
  split_ifs <;> rfl

theorem disp_fifo_startCapture : (m.startCapture l).disp_fifo = m.disp_fifo := by
  unfold Machine.startCapture
  split_ifs <;> rfl

theorem video_endCapture : (m.endCapture l).video = m.video := by
  unfold Machine.endCapture
  split_ifs <;> rfl

theorem video_setupFirstLine : (m.setupFirstLine core l).video = m.video := by
  unfold Machine.setupFirstLine
  split_ifs <;> rfl

theorem disp_fifo_setupFirstLine : (m.setupFirstLine core l).disp_fifo = m.disp_fifo := by
  unfold Machine.setupFirstLine
  split_ifs <;> rfl

def storeCapture (vid : VideoMemory) (capture : Capture) : VideoMemory :=
  { vid with ARM9_LCD := writeWords vid.ARM9_LCD capture.writes }

theorem video_DispCapture (tempScanline : Row) :
    (m.GPU_RenderLine_DispCapture cfg tempScanline l).video =
      storeCapture m.video
        (captureCall cfg m.video (startRegs l m.captureRegs).1 m.disp_fifo tempScanline
          l) := by
  have cap : (m.startCapture l).dispCapCnt = (startRegs l m.captureRegs).1 :=
    congrArg Prod.fst (captureRegs_startCapture m l)
  unfold Machine.GPU_RenderLine_DispCapture
  dsimp only
  rw [video_endCapture,cap,disp_fifo_startCapture,video_startCapture]
  unfold Machine.applyCapture storeCapture
  rw [video_startCapture]

theorem video_afterDisplay_main (tempScanline : Row) :
    (m.afterDisplay cfg .GPU_MAIN tempScanline l).video =
      storeCapture m.video
        (captureCall cfg m.video (startRegs l m.captureRegs).1 m.disp_fifo tempScanline l) :=
  (video_clearFifo _ _ l).trans (video_DispCapture cfg m l tempScanline)

theorem video_renderFully_main :
    (m.renderFully cfg .GPU_MAIN l).video =
      storeCapture m.video
        (captureOf cfg (prepareLine cfg (m.gpu .GPU_MAIN) l) m.video
          (startRegs l m.captureRegs).1 m.disp_fifo l
          (GPU_RenderLine_layer (prepareLine cfg (m.gpu .GPU_MAIN) l) m.video m.sprWin
            l).row) := by
  unfold Machine.renderFully
  dsimp only
  unfold Machine.GPU_RenderLine_MasterBrightness
  rw [video_storeRow,video_afterDisplay_main,video_storeRow,disp_fifo_storeRow,
    captureRegs_storeRow]
  rfl

theorem video_renderFully_sub : (m.renderFully cfg .GPU_SUB l).video = m.video := by
  unfold Machine.renderFully
  dsimp only
  unfold Machine.GPU_RenderLine_MasterBrightness
  rw [video_storeRow]
  change (if cfg.cur = true ∧ l = 190 then Machine.drawMouse _ else _).video = _
  split_ifs
  · exact video_storeRow _ _ _
  · exact video_storeRow _ _ _

end

def captureMade (cfg : Config) (m : Machine) (l : Nat) : Capture :=
  let gpu := prepareLine cfg ((m.setupFirstLine .GPU_MAIN l).gpu .GPU_MAIN) l
  captureOf cfg gpu m.video (startRegs l m.captureRegs).1 m.disp_fifo l
    (GPU_RenderLine_layer gpu m.video m.sprWin l).row

theorem sprWin_setupFirstLine (m : Machine) (core : Core) (l : Nat) :
    (m.setupFirstLine core l).sprWin = m.sprWin := by
  unfold Machine.setupFirstLine
  split_ifs <;> rfl

theorem video_RenderLine (cfg : Config) (m : Machine) (core : Core) (l : Nat) (skip : Bool) :
    (m.GPU_RenderLine cfg core l skip).video = m.video ∨
      (core = .GPU_MAIN ∧ (m.GPU_RenderLine cfg core l skip).video =
        storeCapture m.video (captureMade cfg m l)) := by
  unfold Machine.GPU_RenderLine
  dsimp only
  have setup := video_setupFirstLine m core l
  split_ifs
  · exact Or.inl rfl
  · exact Or.inl ((video_clearFifo _ _ l).trans setup)
  · exact Or.inl ((video_storeRow _ _ _).trans setup)
  · cases core with
    | GPU_SUB => exact Or.inl ((video_renderFully_sub cfg _ l).trans setup)
    | GPU_MAIN =>
        refine Or.inr ⟨rfl,?_⟩
        rw [video_renderFully_main,captureRegs_setupFirstLine,disp_fifo_setupFirstLine,
          sprWin_setupFirstLine,setup]
        rfl

def mainLine (l : Fin 192) (skip : Bool) : Op := .GPU_RenderLine .GPU_MAIN l skip

def frameOps (before frame : List Op) (skipFirst skipLast : Bool) : List Op :=
  before ++ mainLine 0 skipFirst :: (frame ++ [mainLine 191 skipLast])

theorem busyKnown_run (cfg : Config) (ops : List Op) (m : Machine)
    (known : BusyKnown m.captureRegs)
    (guarded : Run.Guarded (Machine.step cfg) (FrameCondition cfg) m ops) :
    BusyKnown (Run.final (Machine.step cfg) m ops).captureRegs :=
  Run.Always.last (Run.always_of_guarded (busyKnown_step cfg) known guarded)

theorem idle_after_frame (cfg : Config) (m : Machine) (before frame : List Op)
    (skipFirst skipLast : Bool) (known : BusyKnown m.captureRegs)
    (between : ∀ op ∈ frame, ∀ l, op.mainLine = some l → l ≠ 0 ∧ l < 191)
    (guarded : Run.Guarded (Machine.step cfg) (FrameCondition cfg) m
      (frameOps before frame skipFirst skipLast))
    (busy : (Run.final (Machine.step cfg) m before).captureBusy = true) :
    (Run.final (Machine.step cfg) m
      (frameOps before frame skipFirst skipLast)).captureBusy = false := by
  unfold frameOps at guarded ⊢
  rw [Run.guarded_append] at guarded
  obtain ⟨early,first,later⟩ := guarded
  rw [Run.guarded_append] at later
  obtain ⟨_middle,last,_done⟩ := later
  have begun := busyKnown_run cfg before m known early
  have started := enabled_after_first cfg _ 0 skipFirst rfl begun busy first
  have running := enabled_between cfg frame _ between started
  rw [Run.final_append,Run.final_cons,Run.final_append]
  exact idle_after_last cfg _ 191 skipLast rfl running last

/-- One call stores exactly its rectangle inside its bank, reads only its bank
and a line that exists, and takes the composed line as source A, precisely under
the condition on the capture and the display mode. The banks change by such
calls only. In a run without a byte store that raises the flag, and without
dropping line 0 or line 191 while it is set, a frame that begins with the flag
set ends with the flag clear. -/
theorem display_capture_exact_and_completes (cfg : Config) :
    (∀ gpu vid cap fifo l,
      (∀ composed, CaptureSound vid cap l composed
        (captureOf cfg gpu vid cap fifo l composed)) ↔
        (Captures vid cap l → CaptureCondition gpu cap)) ∧
    (∀ m core l skip,
      (Machine.GPU_RenderLine m cfg core l skip).video = m.video ∨
        (core = .GPU_MAIN ∧ (Machine.GPU_RenderLine m cfg core l skip).video =
          storeCapture m.video (captureMade cfg m l))) ∧
    (∀ vid disp_fifo GPU_Screen sprWin before frame skipFirst skipLast,
      (∀ op ∈ frame, ∀ l, op.mainLine = some l → l ≠ 0 ∧ l < 191) →
      Run.Guarded (Machine.step cfg) (FrameCondition cfg)
        (Machine.reset vid disp_fifo GPU_Screen sprWin)
        (frameOps before frame skipFirst skipLast) →
      (Run.final (Machine.step cfg) (Machine.reset vid disp_fifo GPU_Screen sprWin)
        before).captureBusy = true →
      (Run.final (Machine.step cfg) (Machine.reset vid disp_fifo GPU_Screen sprWin)
        (frameOps before frame skipFirst skipLast)).captureBusy = false) := by
  refine ⟨?_,?_,?_⟩
  · intro gpu vid cap fifo l
    exact captureSound_iff cfg gpu vid cap fifo l
  · exact video_RenderLine cfg
  · intro vid disp_fifo GPU_Screen sprWin before frame skipFirst skipLast between guarded busy
    exact idle_after_frame cfg _ before frame skipFirst skipLast
      (busyKnown_same .zero) between guarded busy

def sampleVideo : VideoMemory where
  ARM9_LCD := fun _ => 0
  mapping := Vram.unmapped.setPurpose .VRAM_BANK_A .LCDC
  ARM9_VMEM := fun _ => 0
  ARM9_OAM := fun _ => 0
  screen3D := fun _ => 0

def sampleConfig : Config where
  swap := false
  cur := false
  Render3D := true
  hide_screen := 0
  gpuLayerEnabled := fun _ _ => true

def sampleFifo : DispFifo := { buf := fun _ => 0, head := 0, tail := 0 }

def sampleMachine : Machine := .reset sampleVideo sampleFifo (fun _ => 0) (fun _ => false)

/-- The FIFO captured 128 pixels wide, at the end of the block. -/
def narrowFifoCapture : DISPCAPCNT :=
  { GPU_set_DISPCAPCNT .zero ⟨0⟩ 0xA20C0000 with enabled := true }

/-- Screen and VRAM blended, with the 3D line as source A. -/
def blended3DCapture : DISPCAPCNT :=
  { GPU_set_DISPCAPCNT .zero ⟨0⟩ 0xC1000000 with enabled := true }

theorem narrowFifoCapture_writes :
    (captureCall sampleConfig sampleVideo narrowFifoCapture sampleFifo (fun _ => 0) 127).writes =
      lineWrites 0x1FF00 256 (fifoLine (sampleFifo.recvWords 128).1) := by
  have active : Captures sampleVideo narrowFifoCapture 127 := by decide
  have called : captureCall sampleConfig sampleVideo narrowFifoCapture sampleFifo
      (fun _ => 0) 127 = captureLine sampleConfig sampleVideo narrowFifoCapture sampleFifo
      (fun _ => 0) 127 := if_pos active
  rw [called,captureLine_fifo rfl (by decide)]
  rfl

/-- The capture of line 127 runs into the next bank; a blend with the 3D line
reads through a null pointer; and a skipped frame leaves the flag set. -/
theorem capture_leaves_bank_or_never_ends :
    (∃ write ∈ (captureCall sampleConfig sampleVideo narrowFifoCapture sampleFifo
        (fun _ => 0) 127).writes, ¬InBlock narrowFifoCapture.writeBlock write.1) ∧
      (captureCall sampleConfig sampleVideo blended3DCapture sampleFifo (fun _ => 0) 0).sourceA =
        some .null ∧
      (Run.final (Machine.step sampleConfig) sampleMachine
        [.DISPCAPCNT 0x80000000]).captureBusy = true ∧
      (Run.final (Machine.step sampleConfig) sampleMachine
        (.DISPCAPCNT 0x80000000 ::
          (List.finRange 192).map (fun l => mainLine l true))).captureBusy = true := by
  refine ⟨?_,rfl,rfl,by decide +kernel⟩
  rw [narrowFifoCapture_writes]
  refine ⟨_,List.mem_map.mpr ⟨128,List.mem_range.mpr (by omega),rfl⟩,?_⟩
  decide

/-- A frame whose lines are all rendered. -/
theorem display_capture_exact_and_completes_frame :
    (Run.final (Machine.step sampleConfig) sampleMachine
      (frameOps [.DISPCAPCNT 0x80000000]
        ((List.range' 1 190).map (fun l => mainLine (Fin.ofNat 192 l) false)) false
        false)).captureBusy = false := by
  refine (display_capture_exact_and_completes sampleConfig).2.2 sampleVideo sampleFifo
    (fun _ => 0) (fun _ => false) [.DISPCAPCNT 0x80000000] _ false false ?_ ?_ rfl
  · intro op member l line
    obtain ⟨num,inside,rfl⟩ := List.mem_map.mp member
    have bounds := List.mem_range'_1.mp inside
    have small : num % 192 = num := Nat.mod_eq_of_lt (by omega)
    have same : l = num % 192 := (Option.some.inj line).symm
    omega
  · refine Run.guarded_of_forall ?_ _
    intro op member st
    rcases List.mem_cons.mp member with rfl | later
    · trivial
    · rcases List.mem_cons.mp later with rfl | rest
      · exact fun _busy _ends => ⟨rfl,rfl⟩
      · rcases List.mem_append.mp rest with inner | outer
        · obtain ⟨num,_inside,rfl⟩ := List.mem_map.mp inner
          exact fun _busy _ends => ⟨rfl,rfl⟩
        · obtain rfl := List.mem_singleton.mp outer
          exact fun _busy _ends => ⟨rfl,rfl⟩

end Desmume.Gpu
