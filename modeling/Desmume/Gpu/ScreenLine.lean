/-
When a rendered line reaches the screen.

A line is composed, replaced and brightened behind `currDst`.
-/

import Desmume.Gpu.CaptureFrames
import Desmume.Gpu.Current

namespace Desmume.Gpu

open Function (update update_of_ne update_self)

def pictureSelected (gpu : GPU) (vid : VideoMemory) (l : Nat) (composed : Row) : Row :=
  match GPU.displayMode gpu.core gpu.dispCnt with
  | 0 => fun _ => 0x7FFF
  | 2 => readLine vid.ARM9_LCD (gpu.dispCnt.VRAM_Block.val * 0x20000 + l * 512)
  | _ => composed

def brightComponent (mode : Fin 4) (factor : Fin 32) (component : Nat) : Nat :=
  match mode with
  | 1 => fadeInComponent (clamp16 factor.val) component
  | 2 => fadeOutComponent (clamp16 factor.val) component
  | _ => component

structure Brightened (mode : Fin 4) (factor : Fin 32) (picture pixel : u16) : Prop where
  red : red pixel = brightComponent mode factor (red picture)
  green : green pixel = brightComponent mode factor (green picture)
  blue : blue pixel = brightComponent mode factor (blue picture)

def composedLine (cfg : Config) (m : Machine) (core : Core) (l : Nat) : LineResult :=
  GPU_RenderLine_layer (enteringLine cfg m core l) m.video m.sprWin l

/-- The call for a line shows the selected picture in its place, and changes
nothing else of the screen. -/
structure LineShown (cfg : Config) (m : Machine) (core : Core) (l : Nat) : Prop where
  shown : ∀ x < 256, Brightened (GPU.brightMode (m.gpu core).dispx_st.MASTER_BRIGHT)
    (GPU.brightFactor (m.gpu core).dispx_st.MASTER_BRIGHT)
    (pictureSelected (m.gpu core) m.video l (composedLine cfg m core l).row x)
    (readLine (m.GPU_RenderLine cfg core l false).GPU_Screen
      (lineOffset cfg core l) x)
  others : ∀ addr, addr < lineOffset cfg core l ∨
      lineOffset cfg core l + 512 ≤ addr →
    (m.GPU_RenderLine cfg core l false).GPU_Screen addr = m.GPU_Screen addr

/-- Each line that is rendered in one of the display modes 0 to 2 is shown. -/
def OpShown (cfg : Config) (m : Machine) : Op → Prop
  | .GPU_RenderLine core l false =>
      GPU.displayMode core (m.gpu core).dispCnt ≠ 3 → LineShown cfg m core l.val
  | _ => True

def cursorDrawn (cfg : Config) (m : Machine) (core : Core) (l : Nat) : Prop :=
  core = .GPU_SUB ∧ cfg.cur = true ∧ l = 190 ∧ m.mouse.2.toNat < 190

def cutShort (m : Machine) (core : Core) (l : Nat) : Prop :=
  uniformBrightness (m.gpu core) ∧ ¬m.captureNeedsLine core l

/-- The engine knows the brightness in MASTER_BRIGHT. A line cut short has been
the last one to be rendered; any other is shown in display mode 1, of which the
engine knows, and without the cursor. -/
structure ShownCondition (cfg : Config) (m : Machine) (core : Core) (l : Nat) : Prop where
  mode : (m.gpu core).MasterBrightMode = GPU.brightMode (m.gpu core).dispx_st.MASTER_BRIGHT
  factor : (m.gpu core).MasterBrightFactor = GPU.brightFactor (m.gpu core).dispx_st.MASTER_BRIGHT
  again : cutShort m core l → (m.gpu core).currDst = .GPU_Screen (lineOffset cfg core l)
  composed : ¬cutShort m core l → (m.gpu core).dispMode = 1 ∧
    GPU.displayMode core (m.gpu core).dispCnt = 1 ∧ ¬cursorDrawn cfg m core l

def OpCondition (cfg : Config) (m : Machine) : Op → Prop
  | .GPU_RenderLine core l false =>
      GPU.displayMode core (m.gpu core).dispCnt ≠ 3 → ShownCondition cfg m core l.val
  | _ => True

variable (mem : IoMem)

theorem writeWords_append (first second : List (Nat × u16)) :
    writeWords mem (first ++ second) = writeWords (writeWords mem first) second :=
  List.foldl_append

theorem writeWords_outside {writes : List (Nat × u16)} {addr : Nat}
    (outside : ∀ write ∈ writes, addr < write.1 ∨ write.1 + 2 ≤ addr) :
    writeWords mem writes addr = mem addr := by
  induction writes generalizing mem with
  | nil => rfl
  | cons write rest ih =>
      have apart := outside write List.mem_cons_self
      have later := ih (T1WriteWord mem write.1 write.2)
        (fun other member => outside other (List.mem_cons_of_mem _ member))
      refine later.trans ?_
      unfold T1WriteWord
      rw [update_of_ne (by omega),update_of_ne (by omega)]

variable (base n : Nat) (pixels : Row)

theorem lineWrites_succ :
    lineWrites base (n + 1) pixels =
      lineWrites base n pixels ++ [(base + 2 * n, pixels n)] := by
  unfold lineWrites
  rw [List.range_succ,List.map_append]
  rfl

theorem mem_lineWrites {base n : Nat} {pixels : Row} {write : Nat × u16}
    (member : write ∈ lineWrites base n pixels) : base ≤ write.1 ∧ write.1 + 2 ≤ base + 2 * n := by
  obtain ⟨i,bound,rfl⟩ := List.mem_map.mp member
  have inside := List.mem_range.mp bound
  constructor
  · exact Nat.le_add_right _ _
  · change base + 2 * i + 2 ≤ _
    omega

theorem writeWords_row_outside {addr : Nat} (outside : addr < base ∨ base + 2 * n ≤ addr) :
    writeWords mem (lineWrites base n pixels) addr = mem addr := by
  apply writeWords_outside
  intro write member
  have bounds := mem_lineWrites member
  omega

theorem readLine_writeWords {x : Nat} (inside : x < n) :
    readLine (writeWords mem (lineWrites base n pixels)) base x = pixels x := by
  induction n with
  | zero => exact absurd inside (Nat.not_lt_zero x)
  | succ n ih =>
      rw [lineWrites_succ,writeWords_append]
      change T1ReadWord (T1WriteWord _ (base + 2 * n) (pixels n)) (base + 2 * x) = _
      rcases Nat.lt_succ_iff_lt_or_eq.mp inside with before | rfl
      · rw [T1ReadWord_T1WriteWord_of_disjoint _ _ _ _ (by omega)]
        exact ih before
      · rw [T1ReadWord_T1WriteWord]

theorem fadeComponents_zero (component : Nat) :
    fadeInComponent 0 component = component ∧ fadeOutComponent 0 component = component := by
  unfold fadeInComponent fadeOutComponent
  constructor
  · change component + (31 - component) * 0 / 16 = component
    omega
  · change component - component * 0 / 16 = component
    omega

theorem fadeComponents_full {component : Nat} (inside : component < 32) :
    fadeInComponent 16 component = 31 ∧ fadeOutComponent 16 component = 0 := by
  unfold fadeInComponent fadeOutComponent
  constructor
  · change component + (31 - component) * 16 / 16 = 31
    omega
  · change component - component * 16 / 16 = 0
    omega

theorem clamp16_full {factor : Nat} (full : 16 ≤ factor) : clamp16 factor = 16 := by
  apply Fin.ext
  exact Nat.min_eq_left full

theorem fadeInColors_full (pixel : u16) : fadeInColors 16 pixel = 0x7FFF := by
  unfold fadeInColors
  rw [(fadeComponents_full (red_lt pixel)).1,(fadeComponents_full (green_lt pixel)).1,
    (fadeComponents_full (blue_lt pixel)).1]
  rfl

theorem fadeOutColors_full (pixel : u16) : fadeOutColors 16 pixel = 0 := by
  unfold fadeOutColors
  rw [(fadeComponents_full (red_lt pixel)).2,(fadeComponents_full (green_lt pixel)).2,
    (fadeComponents_full (blue_lt pixel)).2]
  rfl

variable {factor : Fin 32}

theorem masterBright_up (some : factor ≠ 0) (pixel : u16) :
    masterBright 1 factor pixel = fadeInColors (clamp16 factor.val) pixel := by
  unfold masterBright
  rw [if_neg some]
  change (if 16 ≤ factor.val then _ else _) = _
  by_cases full : 16 ≤ factor.val
  · rw [if_pos full,clamp16_full full,fadeInColors_full]
  · rw [if_neg full]

theorem masterBright_down (some : factor ≠ 0) (pixel : u16) :
    masterBright 2 factor pixel = fadeOutColors (clamp16 factor.val) pixel := by
  unfold masterBright
  rw [if_neg some]
  change (if 16 ≤ factor.val then _ else _) = _
  by_cases full : 16 ≤ factor.val
  · rw [if_pos full,clamp16_full full,fadeOutColors_full]
  · rw [if_neg full]

theorem brightComponent_zero (mode : Fin 4) (component : Nat) :
    brightComponent mode 0 component = component := by
  unfold brightComponent
  split
  · exact (fadeComponents_zero component).1
  · exact (fadeComponents_zero component).2
  · rfl

theorem brightened_masterBright (mode : Fin 4) (factor : Fin 32) (pixel : u16) :
    Brightened mode factor pixel (masterBright mode factor pixel) := by
  have redInside := red_lt pixel
  have greenInside := green_lt pixel
  have blueInside := blue_lt pixel
  by_cases none : factor = 0
  · have kept : masterBright mode factor pixel = pixel := if_pos none
    rw [kept,none]
    constructor
    · exact (brightComponent_zero mode _).symm
    · exact (brightComponent_zero mode _).symm
    · exact (brightComponent_zero mode _).symm
  · have kinds : mode = 0 ∨ mode = 1 ∨ mode = 2 ∨ mode = 3 := by omega
    rcases kinds with rfl | rfl | rfl | rfl
    · have kept : masterBright 0 factor pixel = pixel := if_neg none
      rw [kept]
      exact ⟨rfl,rfl,rfl⟩
    · have bounds {component : Nat} (inside : component < 32) :=
        fadeInComponent_lt (clamp16 factor.val) inside
      rw [masterBright_up none,fadeInColors]
      constructor
      · exact red_rgb (bounds redInside) (bounds greenInside) (bounds blueInside)
      · exact green_rgb (bounds redInside) (bounds greenInside) (bounds blueInside)
      · exact blue_rgb (bounds redInside) (bounds greenInside) (bounds blueInside)
    · have bounds {component : Nat} (inside : component < 32) :=
        fadeOutComponent_lt (clamp16 factor.val) inside
      rw [masterBright_down none,fadeOutColors]
      constructor
      · exact red_rgb (bounds redInside) (bounds greenInside) (bounds blueInside)
      · exact green_rgb (bounds redInside) (bounds greenInside) (bounds blueInside)
      · exact blue_rgb (bounds redInside) (bounds greenInside) (bounds blueInside)
    · have kept : masterBright 3 factor pixel = pixel := if_neg none
      rw [kept]
      exact ⟨rfl,rfl,rfl⟩

theorem Brightened.of_uniform {mode : Fin 4} {first second pixel : u16}
    (full : 16 ≤ factor.val) (uniform : mode = 1 ∨ mode = 2)
    (bright : Brightened mode factor first pixel) : Brightened mode factor second pixel := by
  have same {component other : Nat} (inside : component < 32) (otherInside : other < 32) :
      brightComponent mode factor component = brightComponent mode factor other := by
    rcases uniform with rfl | rfl
    · change fadeInComponent _ _ = fadeInComponent _ _
      rw [clamp16_full full,(fadeComponents_full inside).1,(fadeComponents_full otherInside).1]
    · change fadeOutComponent _ _ = fadeOutComponent _ _
      rw [clamp16_full full,(fadeComponents_full inside).2,(fadeComponents_full otherInside).2]
  constructor
  · exact bright.red.trans (same (red_lt first) (red_lt second))
  · exact bright.green.trans (same (green_lt first) (green_lt second))
  · exact bright.blue.trans (same (blue_lt first) (blue_lt second))

section

variable (cfg : Config) (m : Machine) (core : Core) (l : Nat)

variable (row : Row)

theorem storeRow_screen {off : Nat} (placed : (m.gpu core).currDst = .GPU_Screen off) :
    m.storeRow core row =
      { m with GPU_Screen := writeWords m.GPU_Screen (lineWrites off 256 row) } := by
  unfold Machine.storeRow
  rw [placed]

theorem loadRow_screen {off : Nat} (placed : (m.gpu core).currDst = .GPU_Screen off) :
    m.loadRow core = readLine m.GPU_Screen off := by
  unfold Machine.loadRow
  rw [placed]

theorem GPU_Screen_storeRow_buffer (buffered : (m.gpu core).currDst = .tempScanlineBuffer) :
    (m.storeRow core row).GPU_Screen = m.GPU_Screen := by
  unfold Machine.storeRow
  rw [buffered]
  rfl

theorem GPU_Screen_clearFifo : (m.clearFifo core l).GPU_Screen = m.GPU_Screen := by
  unfold Machine.clearFifo
  split_ifs <;> rfl

theorem GPU_Screen_DispCapture :
    (m.GPU_RenderLine_DispCapture cfg row l).GPU_Screen = m.GPU_Screen := by
  have started : (m.startCapture l).GPU_Screen = m.GPU_Screen := by
    unfold Machine.startCapture
    split_ifs <;> rfl
  unfold Machine.GPU_RenderLine_DispCapture Machine.endCapture
  dsimp only
  split_ifs
  · exact started
  · exact started

theorem GPU_Screen_drawMouse (below : 190 ≤ m.mouse.2.toNat) :
    m.drawMouse.GPU_Screen = m.GPU_Screen := by
  have none : (List.range 5).filter (fun yy => yy + m.mouse.2.toNat < 190) = [] := by
    rw [List.filter_eq_nil_iff]
    intro yy _member drawn
    have inside := of_decide_eq_true drawn
    omega
  unfold Machine.drawMouse
  dsimp only
  rw [none]
  rfl

theorem GPU_Screen_afterDisplay (absent : ¬cursorDrawn cfg m core l) :
    (m.afterDisplay cfg core row l).GPU_Screen = m.GPU_Screen := by
  cases core with
  | GPU_MAIN =>
      exact (GPU_Screen_clearFifo _ _ l).trans (GPU_Screen_DispCapture cfg m l row)
  | GPU_SUB =>
      change (if cfg.cur = true ∧ l = 190 then m.drawMouse else m).GPU_Screen = _
      by_cases drawn : cfg.cur = true ∧ l = 190
      · rw [if_pos drawn]
        apply GPU_Screen_drawMouse
        by_contra inside
        exact absent ⟨rfl,drawn.1,drawn.2,Nat.lt_of_not_le inside⟩
      · rw [if_neg drawn]

theorem GPU_Screen_setupFirstLine : (m.setupFirstLine core l).GPU_Screen = m.GPU_Screen := by
  unfold Machine.setupFirstLine
  split_ifs <;> rfl

end

def displayOf (gpu : GPU) : Fin 4 × Fin 4 × Fin 32 :=
  (gpu.dispMode, gpu.MasterBrightMode, gpu.MasterBrightFactor)

theorem displayOf_of_settled {gpu other : GPU} (same : gpu.settled = other.settled) :
    displayOf gpu = displayOf other := by
  have fields := congrArg displayOf same
  exact fields

theorem displayOf_refresh_winh (gpu : GPU) (win : Fin 2) :
    displayOf (refresh_winh gpu win) = displayOf gpu := by
  rcases refresh_winh_cases gpu win with kept | filled
  · rw [kept]
  · rw [filled]
    rfl

theorem displayOf_prepareLine (cfg : Config) (gpu : GPU) (l : Nat) :
    displayOf (prepareLine cfg gpu l) = displayOf gpu := by
  have moved := congrArg displayOf (settled_prepareLine cfg gpu l)
  rw [refreshed,displayOf_refresh_winh,displayOf_refresh_winh] at moved
  exact moved

theorem currDst_advanceParms (nums : List (Fin 4)) (gpu : GPU) :
    (nums.foldl advanceParms gpu).currDst = gpu.currDst := by
  induction nums generalizing gpu with
  | nil => rfl
  | cons num rest ih =>
      refine (ih (advanceParms gpu num)).trans ?_
      unfold advanceParms
      split <;> rfl

theorem currDst_prepareLine (cfg : Config) (gpu : GPU) (l : Nat) :
    (prepareLine cfg gpu l).currDst =
      if gpu.dispMode = 1 then .GPU_Screen (lineOffset cfg gpu.core l)
      else .tempScanlineBuffer := by
  have mode := congrArg Prod.fst (displayOf_prepareLine cfg gpu l)
  have eng : (prepareLine cfg gpu l).core = gpu.core := by
    have moved := congrArg GPU.core (settled_prepareLine cfg gpu l)
    rw [refreshed,core_refresh_winh,core_refresh_winh] at moved
    exact moved
  change (if (prepareLine cfg gpu l).dispMode = 1 then
    Destination.GPU_Screen (lineOffset cfg (prepareLine cfg gpu l).core l)
    else .tempScanlineBuffer) = _
  rw [eng]
  change (prepareLine cfg gpu l).dispMode = gpu.dispMode at mode
  rw [mode]

section

variable {cfg : Config} {m : Machine} {core : Core} {l : Nat}

def composedMachine (cfg : Config) (m : Machine) (core : Core) (l : Nat) : Machine :=
  let res := GPU_RenderLine_layer (prepareLine cfg (m.gpu core) l) m.video m.sprWin l
  { m with sprWin := res.sprWin }.setGpu core res.gpu

theorem gpu_composedMachine :
    (composedMachine cfg m core l).gpu core =
      (GPU_RenderLine_layer (prepareLine cfg (m.gpu core) l) m.video m.sprWin l).gpu :=
  update_self _ _ _

theorem displayOf_composedMachine :
    displayOf ((composedMachine cfg m core l).gpu core) = displayOf (m.gpu core) := by
  rw [gpu_composedMachine,displayOf_of_settled (settled_RenderLine_layer _ _ _ _),
    displayOf_prepareLine]

theorem currDst_composedMachine :
    ((composedMachine cfg m core l).gpu core).currDst =
      if (m.gpu core).dispMode = 1 then
        .GPU_Screen (lineOffset cfg (m.gpu core).core l)
      else .tempScanlineBuffer := by
  rw [gpu_composedMachine]
  exact (currDst_advanceParms _ _).trans (currDst_prepareLine cfg (m.gpu core) l)

theorem renderFully_eq (row : Row)
    (displayed : row = displayedRow (prepareLine cfg (m.gpu core) l) m.video l
      (GPU_RenderLine_layer (prepareLine cfg (m.gpu core) l) m.video m.sprWin l).row) :
    m.renderFully cfg core l =
      (((composedMachine cfg m core l).storeRow core row).afterDisplay cfg core row
        l).GPU_RenderLine_MasterBrightness core := by
  rw [displayed]
  rfl

/-- In display mode 1 the composed line is brightened in its place on the screen. -/
theorem GPU_Screen_renderFully (shown : (m.gpu core).dispMode = 1)
    (absent : ¬cursorDrawn cfg m core l) :
    ∃ first second,
      (m.renderFully cfg core l).GPU_Screen =
        writeWords (writeWords m.GPU_Screen
          (lineWrites (lineOffset cfg (m.gpu core).core l) 256 first))
          (lineWrites (lineOffset cfg (m.gpu core).core l) 256 second) ∧
      ∀ x < 256, second x = masterBright (m.gpu core).MasterBrightMode
        (m.gpu core).MasterBrightFactor
        ((GPU_RenderLine_layer (prepareLine cfg (m.gpu core) l) m.video m.sprWin
          l).row x) := by
  have mode : (prepareLine cfg (m.gpu core) l).dispMode = 1 :=
    (congrArg Prod.fst (displayOf_prepareLine cfg (m.gpu core) l)).trans shown
  have placed := @currDst_composedMachine cfg m core l
  have display := @displayOf_composedMachine cfg m core l
  rw [if_pos shown] at placed
  rw [renderFully_eq _ (displayedRow_composed _ m.video l _ (Or.inl mode)).symm,
    storeRow_screen _ core _ placed]
  generalize (GPU_RenderLine_layer (prepareLine cfg (m.gpu core) l) m.video
    m.sprWin l).row = row
  generalize lineOffset cfg (m.gpu core).core l = off at placed ⊢
  have screen : (composedMachine cfg m core l).GPU_Screen = m.GPU_Screen := rfl
  have cursor : ¬cursorDrawn cfg
      { composedMachine cfg m core l with
        GPU_Screen := writeWords (composedMachine cfg m core l).GPU_Screen
          (lineWrites off 256 row) } core l := absent
  rw [screen] at cursor ⊢
  generalize composedMachine cfg m core l = composed at placed display cursor ⊢
  have after := GPU_Screen_afterDisplay cfg _ core l row cursor
  have kept := gpu_afterDisplay cfg
    { composed with GPU_Screen := writeWords m.GPU_Screen (lineWrites off 256 row) } core l row
  generalize Machine.afterDisplay _ cfg core row l = shownMachine at after kept ⊢
  have there : (shownMachine.gpu core).currDst = .GPU_Screen off := by
    rw [kept]
    exact placed
  unfold Machine.GPU_RenderLine_MasterBrightness
  rw [storeRow_screen _ core _ there,loadRow_screen _ core there,after,kept]
  dsimp only
  refine ⟨row,_,Eq.refl _,?_⟩
  intro x inside
  rw [readLine_writeWords _ _ _ _ inside]
  injection display with _ bright
  injection bright with brightMode brightFactor
  rw [brightMode,brightFactor]

theorem GPU_Screen_renderFully_buffer (buffered : (m.gpu core).dispMode ≠ 1)
    (absent : ¬cursorDrawn cfg m core l) :
    (m.renderFully cfg core l).GPU_Screen = m.GPU_Screen := by
  have placed := @currDst_composedMachine cfg m core l
  rw [if_neg buffered] at placed
  rw [renderFully_eq _ rfl]
  generalize displayedRow _ m.video l _ = row
  have screen : (composedMachine cfg m core l).GPU_Screen = m.GPU_Screen := rfl
  have cursor : ¬cursorDrawn cfg (composedMachine cfg m core l) core l := absent
  generalize composedMachine cfg m core l = composed at placed screen cursor ⊢
  have stored := GPU_Screen_storeRow_buffer composed core row placed
  have mouse : (composed.storeRow core row).mouse = composed.mouse := by
    unfold Machine.storeRow
    rw [placed]
    rfl
  have still : ¬cursorDrawn cfg (composed.storeRow core row) core l := by
    unfold cursorDrawn
    rw [mouse]
    exact cursor
  have buffer : ((composed.storeRow core row).gpu core).currDst = .tempScanlineBuffer := by
    unfold Machine.storeRow
    rw [placed]
    change (update composed.gpu core _ core).currDst = _
    rw [update_self]
    exact placed
  have after := GPU_Screen_afterDisplay cfg _ core l row still
  have kept := gpu_afterDisplay cfg (composed.storeRow core row) core l row
  generalize Machine.afterDisplay _ cfg core row l = shownMachine at after kept ⊢
  have there : (shownMachine.gpu core).currDst = .tempScanlineBuffer := by
    rw [kept]
    exact buffer
  unfold Machine.GPU_RenderLine_MasterBrightness
  rw [GPU_Screen_storeRow_buffer _ core _ there,after,stored,screen]

end

/-! ### A call -/

section

variable {cfg : Config} (m : Machine) (core : Core) (l : Nat)

theorem displayOf_setupFirstLine :
    displayOf ((m.setupFirstLine core l).gpu core) = displayOf (m.gpu core) :=
  displayOf_of_settled (settled_setupFirstLine m core core l)

theorem currDst_setParms (gpu : GPU) (layer : Fin 2) (parms : BGxPARMS) :
    (gpu.setParms layer parms).currDst = gpu.currDst := rfl

theorem currDst_setupFirstLine :
    ((m.setupFirstLine core l).gpu core).currDst = (m.gpu core).currDst := by
  unfold Machine.setupFirstLine
  split_ifs
  · change (update m.gpu core _ core).currDst = _
    rw [update_self]
    unfold GPU.refreshAffineStartRegs GPU.refreshX GPU.refreshY
    rw [currDst_setParms,currDst_setParms,currDst_setParms,currDst_setParms]
  · rfl

theorem mouse_setupFirstLine : (m.setupFirstLine core l).mouse = m.mouse := by
  unfold Machine.setupFirstLine
  split_ifs <;> rfl

theorem cutShort_setupFirstLine :
    (uniformBrightness ((m.setupFirstLine core l).gpu core) ∧
      ¬(m.setupFirstLine core l).captureNeedsLine core l) ↔ cutShort m core l := by
  have display := displayOf_setupFirstLine m core l
  have regs := captureRegs_setupFirstLine m core l
  injection display with _ bright
  injection bright with mode factor
  injection regs with capture
  unfold cutShort uniformBrightness Machine.captureNeedsLine
  rw [mode,factor,capture]

theorem isHidden_of_visible (visible : cfg.hide_screen = 0) :
    isHidden cfg core = false := by
  unfold isHidden
  rw [visible]
  cases core with
  | GPU_MAIN => rfl
  | GPU_SUB => rfl

theorem GPU_RenderLine_shown (hidden : isHidden cfg core = false) :
    (cutShort m core l → m.GPU_RenderLine cfg core l false =
      ((m.setupFirstLine core l).setCurrLine core l).GPU_RenderLine_MasterBrightness core) ∧
    (¬cutShort m core l → m.GPU_RenderLine cfg core l false =
      (m.setupFirstLine core l).renderFully cfg core l) := by
  have cut := cutShort_setupFirstLine m core l
  unfold Machine.GPU_RenderLine
  dsimp only
  rw [if_neg (ne_true_of_eq_false hidden),if_neg Bool.false_ne_true]
  constructor
  · exact fun short => if_pos (cut.mpr short)
  · exact fun full => if_neg (fun short => full (cut.mp short))

variable {m core l}

theorem lineShown_cutShort (visible : cfg.hide_screen = 0) (cut : cutShort m core l)
    (cond : ShownCondition cfg m core l) : LineShown cfg m core l := by
  have call := (GPU_RenderLine_shown m core l (isHidden_of_visible core visible)).1 cut
  have placed : (((m.setupFirstLine core l).setCurrLine core l).gpu core).currDst =
      .GPU_Screen (lineOffset cfg core l) := by
    have named : ((m.setupFirstLine core l).setCurrLine core l).gpu core =
        { (m.setupFirstLine core l).gpu core with currLine := l } := update_self _ _ _
    rw [named]
    exact (currDst_setupFirstLine m core l).trans (cond.again cut)
  have screen : ((m.setupFirstLine core l).setCurrLine core l).GPU_Screen = m.GPU_Screen :=
    GPU_Screen_setupFirstLine m core l
  have display : displayOf (((m.setupFirstLine core l).setCurrLine core l).gpu core) =
      displayOf (m.gpu core) :=
    (displayOf_of_settled (settled_setCurrLine _ core core l)).trans
      (displayOf_setupFirstLine m core l)
  injection display with _ bright
  injection bright with mode factor
  unfold Machine.GPU_RenderLine_MasterBrightness at call
  rw [storeRow_screen _ core _ placed,screen,mode,factor,cond.mode,
    cond.factor] at call
  have stored := congrArg Machine.GPU_Screen call
  dsimp only at stored
  constructor
  · intro x inside
    rw [stored,readLine_writeWords _ _ _ _ inside]
    obtain ⟨full,uniform⟩ := cut.1
    rw [cond.mode] at uniform
    rw [cond.factor] at full
    exact (brightened_masterBright _ _ _).of_uniform full uniform
  · intro addr outside
    rw [stored]
    exact writeWords_row_outside _ _ _ _ outside

theorem lineShown_composed (visible : cfg.hide_screen = 0) (full : ¬cutShort m core l)
    (eng : (m.gpu core).core = core) (cond : ShownCondition cfg m core l) :
    LineShown cfg m core l := by
  obtain ⟨known,selected,absent⟩ := cond.composed full
  have call := (GPU_RenderLine_shown m core l (isHidden_of_visible core visible)).2 full
  have display := displayOf_setupFirstLine m core l
  injection display with dispMode bright
  injection bright with mode factor
  have there : ((m.setupFirstLine core l).gpu core).core = core :=
    (congrArg GPU.core (settled_setupFirstLine m core core l)).trans eng
  have cursor : ¬cursorDrawn cfg (m.setupFirstLine core l) core l := by
    unfold cursorDrawn
    rw [mouse_setupFirstLine]
    exact absent
  obtain ⟨first,second,screen,pixels⟩ :=
    GPU_Screen_renderFully (dispMode.trans known) cursor
  rw [there,GPU_Screen_setupFirstLine] at screen
  rw [mode,factor,cond.mode,cond.factor] at pixels
  have picture : pictureSelected (m.gpu core) m.video l (composedLine cfg m core l).row =
      (composedLine cfg m core l).row := by
    unfold pictureSelected
    rw [eng,selected]
    rfl
  constructor
  · intro x inside
    rw [call,screen,readLine_writeWords _ _ _ _ inside,pixels x inside,picture]
    unfold composedLine enteringLine
    rw [video_setupFirstLine,sprWin_setupFirstLine]
    exact brightened_masterBright _ _ _
  · intro addr outside
    rw [call,screen,writeWords_row_outside _ _ _ _ outside,
      writeWords_row_outside _ _ _ _ outside]

end

theorem opShown_of_condition {cfg : Config} (visible : cfg.hide_screen = 0)
    {m : Machine} (engines : ∀ core, (m.gpu core).core = core) {op : Op}
    (cond : OpCondition cfg m op) : OpShown cfg m op := by
  cases op with
  | GPU_RenderLine core l skip =>
      cases skip with
      | true => trivial
      | false =>
          intro displayed
          have reached := cond displayed
          by_cases cut : cutShort m core l.val
          · exact lineShown_cutShort visible cut reached
          · exact lineShown_composed visible cut (engines core) reached
  | _ => trivial

/-- In every run from reset in which each line that is rendered is the last one
again and of uniform brightness, or is displayed in mode 1 as the engine knows,
without a cursor, under the brightness the engine knows, every such line shows
its picture. -/
theorem rendered_lines_shown {cfg : Config} (visible : cfg.hide_screen = 0)
    (vid : VideoMemory) (disp_fifo : DispFifo) (GPU_Screen : IoMem) (sprWin : Nat → Bool)
    {ops : List Op} (cond : Run.Guarded (Machine.step cfg) (OpCondition cfg)
      (.reset vid disp_fifo GPU_Screen sprWin) ops) :
    Run.Guarded (Machine.step cfg) (OpShown cfg)
      (.reset vid disp_fifo GPU_Screen sprWin) ops := by
  have engines (core : Core) :
      ((Machine.reset vid disp_fifo GPU_Screen sprWin).gpu core).core = core := rfl
  generalize Machine.reset vid disp_fifo GPU_Screen sprWin = m at cond engines ⊢
  induction ops generalizing m with
  | nil => trivial
  | cons op rest ih =>
      refine ⟨opShown_of_condition visible engines cond.1,ih _ cond.2 ?_⟩
      exact fun core => (core_step cfg m op core).trans (engines core)

/-- Display mode 1 is selected, and the first line rendered. -/
theorem rendered_lines_shown_mode1 :
    Run.Guarded (Machine.step sampleConfig) (OpShown sampleConfig)
      (.reset sampleVideo sampleFifo (fun _ => 0) (fun _ => false))
      [.write .GPU_MAIN (.DISPCNT 0x10000),mainLine 0 false] := by
  apply rendered_lines_shown rfl
  refine ⟨trivial,?_,trivial⟩
  intro _displayed
  have dim : ¬cutShort (Machine.step sampleConfig
      (.reset sampleVideo sampleFifo (fun _ => 0) (fun _ => false))
      (.write .GPU_MAIN (.DISPCNT 0x10000))) .GPU_MAIN 0 :=
    fun cut => absurd cut.1.1 (by decide)
  constructor
  · rfl
  · rfl
  · exact fun cut => absurd cut dim
  · exact fun _full => ⟨rfl,rfl,fun cursor => nomatch cursor.1⟩

/-- After a reset the display mode is 0, and the line stays as it was. -/
theorem white_line_not_shown :
    ¬∀ (cfg : Config) (vid : VideoMemory) (disp_fifo : DispFifo) (GPU_Screen : IoMem)
      (sprWin : Nat → Bool) (ops : List Op), cfg.hide_screen = 0 →
      Run.Guarded (Machine.step cfg) (OpShown cfg)
        (.reset vid disp_fifo GPU_Screen sprWin) ops := by
  intro everywhere
  obtain ⟨shown,-⟩ := everywhere sampleConfig sampleVideo sampleFifo (fun _ => 0)
    (fun _ => false) [mainLine 0 false] rfl
  have line : LineShown sampleConfig sampleMachine .GPU_MAIN 0 := shown (by decide)
  have white := (line.shown 0 (by omega)).red
  have dim : ¬cutShort sampleMachine .GPU_MAIN 0 := fun cut => absurd cut.1.1 (by decide)
  have call := (@GPU_RenderLine_shown sampleConfig sampleMachine .GPU_MAIN 0 rfl).2 dim
  have mode : ((sampleMachine.setupFirstLine .GPU_MAIN 0).gpu .GPU_MAIN).dispMode ≠ 1 := by
    have display := congrArg Prod.fst (displayOf_setupFirstLine sampleMachine .GPU_MAIN 0)
    change ((sampleMachine.setupFirstLine .GPU_MAIN 0).gpu .GPU_MAIN).dispMode = 0 at display
    rw [display]
    decide
  have kept := @GPU_Screen_renderFully_buffer sampleConfig
    (sampleMachine.setupFirstLine .GPU_MAIN 0) .GPU_MAIN 0 mode (fun cursor => nomatch cursor.1)
  rw [call,kept,GPU_Screen_setupFirstLine] at white
  exact absurd white (by decide)

end Desmume.Gpu
