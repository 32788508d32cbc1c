/-
Rendering and displaying one line of either engine: `GPU_RenderLine`,
`GPU_RenderLine_DispCapture` and `GPU_RenderLine_MasterBrightness`.

Both engines write into `GPU_Screen`, 1024 bytes a line. The display capture
belongs to the main engine.
-/

import Desmume.Gpu.Layers

namespace Desmume.Gpu

def writeWords (mem : IoMem) (writes : List (Nat × u16)) : IoMem :=
  writes.foldl (fun mem write => T1WriteWord mem write.1 write.2) mem

/-- The addresses and half-words of `count` pixels stored from `base` on. -/
def lineWrites (base n : Nat) (pixels : Row) : List (Nat × u16) :=
  (List.range n).map (fun i => (base + 2 * i, pixels i))

def readLine (mem : IoMem) (base : Nat) : Row := fun i => T1ReadWord mem (base + 2 * i)

structure DispFifo where
  buf : Nat → u32
  head : Nat
  tail : Nat

def DispFifo.recv (fifo : DispFifo) : u32 × DispFifo :=
  let head := fifo.head + 1
  (fifo.buf fifo.head, { fifo with head := if head > 0x5FFF then 0 else head })

/-- `count` times `DISP_FIFOrecv`. -/
def DispFifo.recvWords : Nat → DispFifo → List u32 × DispFifo
  | 0, fifo => ([], fifo)
  | count + 1, fifo =>
      let first := fifo.recv
      let rest := DispFifo.recvWords count first.2
      (first.1 :: rest.1, rest.2)

def fifoLine (words : List u32) : Row := fun i =>
  let word := words.getD (i / 2) 0
  if i % 2 = 0 then word.setWidth 16 else (word >>> 16).setWidth 16

def DispFifo.clear (fifo : DispFifo) : DispFifo := { fifo with head := 0, tail := 0 }

inductive CAPX
  | w128
  | w256
  deriving DecidableEq

def CAPX.width : CAPX → Nat
  | .w128 => 128
  | .w256 => 256

structure DISPCAPCNT where
  capx : CAPX
  val : u32
  enabled : Bool
  EVA : Factor
  EVB : Factor
  writeBlock : Fin 4
  writeOffset : Fin 4
  capy : Nat
  srcA : Fin 2
  srcB : Fin 2
  readBlock : Fin 4
  readOffset : Fin 4
  capSrc : Fin 4

def capxOf : Fin 4 → CAPX := ![.w128,.w256,.w256,.w256]

def capyOf : Fin 4 → Nat := ![128,64,128,192]

variable (cap : DISPCAPCNT) (vid : VideoMemory) (l : Nat)

def GPU_set_DISPCAPCNT (dispCnt : DISPCNT) (val : u32) : DISPCAPCNT :=
  { capx := capxOf (field val 20 4)
    val := val
    enabled := cap.enabled
    EVA := clamp16 (field val 0 32).val
    EVB := clamp16 (field val 8 32).val
    writeBlock := field val 16 4
    writeOffset := field val 18 4
    capy := capyOf (field val 20 4)
    srcA := field val 24 2
    srcB := field val 25 2
    readBlock := dispCnt.VRAM_Block
    readOffset := if dispCnt.DisplayMode = 2 then 0 else field val 26 4
    capSrc := field val 29 4 }

def DISPCAPCNT.zero : DISPCAPCNT where
  capx := .w128
  val := 0
  enabled := false
  EVA := 0
  EVB := 0
  writeBlock := 0
  writeOffset := 0
  capy := 0
  srcA := 0
  srcB := 0
  readBlock := 0
  readOffset := 0
  capSrc := 0

/-- A pointer to the line used as source A. `gfx3d_GetLineData15bpp` leaves the
pointer it is given as it is. -/
inductive SourceLine
  | pixels (row : Row)
  | null
  | uninitialised

def SourceLine.read : SourceLine → Row
  | .pixels row => row
  | .null | .uninitialised => fun _ => 0

/-- What one call does to memory: the line dereferenced as source A, the
half-words read as the VRAM source, and the half-words stored, in order. -/
structure Capture where
  sourceA : Option SourceLine
  vramRead : List Nat
  writes : List (Nat × u16)
  fifo : DispFifo

def Capture.none (fifo : DispFifo) : Capture :=
  { sourceA := Option.none, vramRead := [], writes := [], fifo := fifo }

def lcdcBank : Fin 4 → Vram.VRAMBankID :=
  ![.VRAM_BANK_A,.VRAM_BANK_B,.VRAM_BANK_C,.VRAM_BANK_D]

def isLCDC (block : Fin 4) : Prop :=
  (vid.mapping.banks (lcdcBank block)).purpose = .LCDC

instance (vid : VideoMemory) (block : Fin 4) : Decidable (isLCDC vid block) :=
  inferInstanceAs (Decidable (_ = _))

def DISPCAPCNT.cap_dst_adr : Nat :=
  (cap.writeOffset.val * 0x8000 + l * (2 * cap.capx.width)) % 0x20000 +
    cap.writeBlock.val * 0x20000

def DISPCAPCNT.cap_src_adr : Nat :=
  (cap.readOffset.val * 0x8000 + l * 512) % 0x20000 + cap.readBlock.val * 0x20000

def DISPCAPCNT.cap_src : Nat :=
  if isLCDC vid cap.readBlock then cap.cap_src_adr l else Vram.blank_memory

def setAlphaBit (pixels : Row) : Row := fun i => pixels i ||| (0x8000 : u16)

def captureBlend (EVA EVB : Factor) (srcA srcB : u16) : u16 :=
  let a_alpha := srcA.getLsbD 15
  let b_alpha := srcB.getLsbD 15
  let mix (a b : Nat) : Nat :=
    min 31 (((if a_alpha then a * EVA.val else 0) + if b_alpha then b * EVB.val else 0) / 16)
  rgb (mix (red srcA) (red srcB)) (mix (green srcA) (green srcB)) (mix (blue srcA) (blue srcB)) |||
    if a_alpha || b_alpha then (0x8000 : u16) else 0

def DISPCAPCNT.vramAddresses : List Nat :=
  (List.range cap.capx.width).map (fun i => cap.cap_src vid l + 2 * i)

/-- The part of `GPU_RenderLine_DispCapture` for an enabled capture, a mapped
destination and a line inside the capture. The VRAM source is the destination
itself or apart from it, so it is read as it was before. -/
def captureLine (cfg : Config) (vid : VideoMemory) (cap : DISPCAPCNT)
    (fifo : DispFifo) (tempScanline : Row) (l : Nat) : Capture :=
  let vram := readLine vid.ARM9_LCD (cap.cap_src vid l)
  let words := fifo.recvWords 128
  match cap.capSrc with
  | 0 =>
      if cap.srcA = 0 then
        { sourceA := some (.pixels tempScanline)
          vramRead := []
          writes := lineWrites (cap.cap_dst_adr l) cap.capx.width (setAlphaBit tempScanline)
          fifo := fifo }
      else if cfg.Render3D then
        { sourceA := some .uninitialised
          vramRead := []
          writes := lineWrites (cap.cap_dst_adr l) cap.capx.width SourceLine.uninitialised.read
          fifo := fifo }
      else .none fifo
  | 1 =>
      if cap.srcB = 0 then
        { sourceA := none
          vramRead := cap.vramAddresses vid l
          writes := lineWrites (cap.cap_dst_adr l) cap.capx.width (setAlphaBit vram)
          fifo := fifo }
      else
        -- 128 words, whatever the width
        { sourceA := none
          vramRead := []
          writes := lineWrites (cap.cap_dst_adr l) 256 (fifoLine words.1)
          fifo := words.2 }
  | _ =>
      let srcA : SourceLine := if cap.srcA = 0 then .pixels tempScanline else .null
      let srcB : Row := if cap.srcB = 0 then vram else fifoLine words.1
      { sourceA := some srcA
        vramRead := if cap.srcB = 0 then cap.vramAddresses vid l else []
        writes := lineWrites (cap.cap_dst_adr l) cap.capx.width
          (fun i => captureBlend cap.EVA cap.EVB (srcA.read i) (srcB i))
        fifo := if cap.srcB = 0 then fifo else words.2 }

def captureCall (cfg : Config) (vid : VideoMemory) (cap : DISPCAPCNT)
    (fifo : DispFifo) (tempScanline : Row) (l : Nat) : Capture :=
  if cap.enabled = true ∧ isLCDC vid cap.writeBlock ∧ l < cap.capy then
    captureLine cfg vid cap fifo tempScanline l
  else .none fifo

/-- The two engines and everything they share. -/
structure Machine where
  gpu : Core → GPU
  video : VideoMemory
  sprWin : Nat → Bool
  disp_fifo : DispFifo
  /-- `MainScreen.gpu->dispCapCnt` -/
  dispCapCnt : DISPCAPCNT
  /-- DISPCAPCNT as it stands in memory -/
  REG_DISPCAPCNT : u32
  GPU_Screen : IoMem
  mouse : u8 × u8

namespace Machine

variable (m : Machine)

variable (core : Core)

def setGpu (gpu : GPU) : Machine :=
  { m with gpu := Function.update m.gpu core gpu }

def startCapture (l : Nat) : Machine :=
  if l = 0 ∧ m.dispCapCnt.val.getLsbD 31 then
    { m with
      dispCapCnt := { m.dispCapCnt with enabled := true }
      REG_DISPCAPCNT := m.dispCapCnt.val }
  else m

def endCapture (l : Nat) : Machine :=
  if m.dispCapCnt.enabled = true ∧ 191 ≤ l then
    let val := m.dispCapCnt.val &&& (0x7FFFFFFF : u32)
    { m with
      dispCapCnt := { m.dispCapCnt with enabled := false, val := val }
      REG_DISPCAPCNT := val }
  else m

def applyCapture (capture : Capture) : Machine :=
  { m with
    video := { m.video with ARM9_LCD := writeWords m.video.ARM9_LCD capture.writes }
    disp_fifo := capture.fifo }

def GPU_RenderLine_DispCapture (cfg : Config) (tempScanline : Row) (l : Nat) : Machine :=
  let m := m.startCapture l
  (m.applyCapture
    (captureCall cfg m.video m.dispCapCnt m.disp_fifo tempScanline l)).endCapture l

/-- Stores the 256 pixels behind `currDst`. -/
def storeRow (row : Row) : Machine :=
  match (m.gpu core).currDst with
  | .null => m
  | .GPU_Screen off =>
      { m with GPU_Screen := writeWords m.GPU_Screen (lineWrites off 256 row) }
  | .tempScanlineBuffer => m.setGpu core { m.gpu core with tempScanlineBuffer := row }

/-- The pixels behind `currDst`. -/
def loadRow : Row :=
  match (m.gpu core).currDst with
  | .null => fun _ => 0
  | .GPU_Screen off => readLine m.GPU_Screen off
  | .tempScanlineBuffer => (m.gpu core).tempScanlineBuffer

end Machine

def masterBright (mode : Fin 4) (factor : Fin 32) (pixel : u16) : u16 :=
  if factor = 0 then pixel
  else
    match mode with
    | 1 => if 16 ≤ factor.val then 0x7FFF else fadeInColors (clamp16 factor.val) pixel
    | 2 => if 16 ≤ factor.val then 0 else fadeOutColors (clamp16 factor.val) pixel
    | _ => pixel

namespace Machine

variable (m : Machine)

def GPU_RenderLine_MasterBrightness (core : Core) : Machine :=
  m.storeRow core (fun x =>
    masterBright (m.gpu core).MasterBrightMode (m.gpu core).MasterBrightFactor (m.loadRow core x))

/-- The pixel rows of the cursor. Eight bytes of a row are set, each to the low
byte of 0x1C34. -/
def drawMouse : Machine :=
  let X := m.mouse.1.toNat * 2
  let rows := (List.range 5).filter (fun yy => yy + m.mouse.2.toNat < 190)
  let cells := rows.flatMap (fun yy =>
    (List.range 8).map (fun xx => (m.mouse.2.toNat + yy) * 1024 + X + xx))
  { m with
    GPU_Screen := cells.foldl (fun mem cell => T1WriteByte mem cell 0x34) m.GPU_Screen }

end Machine

variable (cfg : Config) (core : Core)

/-- Whether `hide_screen` hides the engine. -/
def isHidden : Bool :=
  match core with
  | .GPU_SUB => cfg.hide_screen = 1
  | .GPU_MAIN => cfg.hide_screen = 2

/-- `sub_index`. -/
def sub_index : Nat :=
  if cfg.hide_screen = 1 ∨ cfg.hide_screen = 2 then 220
  else if core = .GPU_SUB ↔ cfg.swap = false then 512
  else 0

/-- The offset of a line in `GPU_Screen`. -/
def lineOffset (l : Nat) : Nat :=
  l * 1024 + sub_index cfg core

def uniformBrightness (gpu : GPU) : Prop :=
  16 ≤ gpu.MasterBrightFactor.val ∧ (gpu.MasterBrightMode = 1 ∨ gpu.MasterBrightMode = 2)

instance (gpu : GPU) : Decidable (uniformBrightness gpu) :=
  inferInstanceAs (Decidable (_ ∧ (_ ∨ _)))

namespace Machine

variable (m : Machine)

def captureNeedsLine (core : Core) (l : Nat) : Prop :=
  core = .GPU_MAIN ∧ (m.dispCapCnt.enabled = true ∨ l = 0 ∨ l = 191)

instance (core : Core) (l : Nat) : Decidable (m.captureNeedsLine core l) :=
  inferInstanceAs (Decidable (_ ∧ (_ ∨ _ ∨ _)))

end Machine

/-- The engine as `GPU_RenderLine_layer` finds it. -/
def prepareLine (cfg : Config) (gpu : GPU) (l : Nat) : GPU :=
  let gpu : GPU := { gpu with currLine := l }
  let gpu := refresh_winh (refresh_winh gpu 0) 1
  let gpu := setup_windows (setup_windows gpu l 0) l 1
  { gpu with
    currDst := if gpu.dispMode = 1 then .GPU_Screen (lineOffset cfg gpu.core l)
      else .tempScanlineBuffer }

/-- The pixels behind `currDst` once the display mode is taken into account. -/
def displayedRow (gpu : GPU) (vid : VideoMemory) (l : Nat) (composed : Row) : Row :=
  match gpu.dispMode with
  | 0 => fun _ => 0x7FFF
  | 1 => composed
  | 2 => readLine vid.ARM9_LCD (gpu.VRAMaddr + l * 512)
  | 3 => composed

namespace Machine

variable (m : Machine)

variable (cfg : Config) (core : Core) (l : Nat)

def clearFifo : Machine :=
  if core = .GPU_MAIN ∧ l = 191 then { m with disp_fifo := m.disp_fifo.clear } else m

def afterDisplay (tempScanline : Row) (l : Nat) : Machine :=
  match core with
  | .GPU_MAIN => (m.GPU_RenderLine_DispCapture cfg tempScanline l).clearFifo core l
  | .GPU_SUB => if cfg.cur = true ∧ l = 190 then m.drawMouse else m

def renderFully : Machine :=
  let gpu := prepareLine cfg (m.gpu core) l
  let res := GPU_RenderLine_layer gpu m.video m.sprWin l
  let row := displayedRow gpu m.video l res.row
  let shown := ({ m with sprWin := res.sprWin }.setGpu core res.gpu).storeRow core row
  (shown.afterDisplay cfg core row l).GPU_RenderLine_MasterBrightness core

def setCurrLine : Machine :=
  m.setGpu core { m.gpu core with currLine := l }

def setupFirstLine : Machine :=
  if l = 0 then m.setGpu core (m.gpu core).refreshAffineStartRegs else m

def GPU_RenderLine (skip : Bool) : Machine :=
  if isHidden cfg core then m
  else
    let m := m.setupFirstLine core l
    if skip then (m.setCurrLine core l).clearFifo core l
    else if uniformBrightness (m.gpu core) ∧ ¬m.captureNeedsLine core l then
      (m.setCurrLine core l).GPU_RenderLine_MasterBrightness core
    else m.renderFully cfg core l

end Machine

/-! ### Operations -/

/-- What happens to the machine: the registers of an engine or DISPCAPCNT are
written, the video memory, the FIFO or the cursor change in any way, a line is
rendered. -/
inductive Op
  | write (core : Core) (val : Write)
  | DISPCAPCNT (val : u32)
  | DISPCAPCNT_low (val : u16)
  | DISPCAPCNT_high (val : u16)
  | DISPCAPCNT_byte (i : Fin 4) (val : u8)
  | memory (vid : VideoMemory)
  | fifo (disp_fifo : DispFifo)
  | mouse (pos : u8 × u8)
  | GPU_RenderLine (core : Core) (l : Fin 192) (skip : Bool)

namespace Machine

def writeDISPCAPCNT (m : Machine) (val : u32) : Machine :=
  { m with
    dispCapCnt := GPU_set_DISPCAPCNT m.dispCapCnt (m.gpu .GPU_MAIN).dispCnt val
    REG_DISPCAPCNT := val }

def step (cfg : Config) (m : Machine) : Op → Machine
  | .write core val => m.setGpu core ((m.gpu core).write cfg val)
  | .DISPCAPCNT val => m.writeDISPCAPCNT val
  | .DISPCAPCNT_low val =>
      m.writeDISPCAPCNT ((m.REG_DISPCAPCNT &&& (0xFFFF0000 : u32)) ||| val.setWidth 32)
  | .DISPCAPCNT_high val =>
      m.writeDISPCAPCNT ((m.REG_DISPCAPCNT &&& (0xFFFF : u32)) ||| (val.setWidth 32 <<< 16))
  | .DISPCAPCNT_byte i val =>
      { m with REG_DISPCAPCNT := setByte m.REG_DISPCAPCNT i.val val }
  | .memory video => { m with video := video }
  | .fifo disp_fifo => { m with disp_fifo := disp_fifo }
  | .mouse pos => { m with mouse := pos }
  | .GPU_RenderLine core l skip => m.GPU_RenderLine cfg core l.val skip

/-- Both engines after `Screen_Reset`, with any contents of the memories. -/
def reset (video : VideoMemory) (disp_fifo : DispFifo) (GPU_Screen : IoMem)
    (sprWin : Nat → Bool) : Machine where
  gpu := GPU_Reset
  video := video
  sprWin := sprWin
  disp_fifo := disp_fifo
  dispCapCnt := .zero
  REG_DISPCAPCNT := 0
  GPU_Screen := GPU_Screen
  mouse := (0, 0)

end Machine

end Desmume.Gpu
