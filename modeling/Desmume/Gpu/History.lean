/-
The pixels of a line depend on the registers and not on the lines before.

An engine whose derived state is current paints as one that has just been made
from its registers does.
-/

import Desmume.Gpu.Composition

namespace Desmume.Gpu

open Function (update update_of_ne update_self)

structure LineRegisters where
  DISPCNT : DISPCNT
  BGxCNT : Fin 4 → BGxCNT
  BGxHOFS : Fin 4 → u16
  BGxVOFS : Fin 4 → u16
  /-- with the current reference points -/
  BGPARMS : Fin 2 → BGxPARMS
  WINH0 : Fin 2 → u8
  WINH1 : Fin 2 → u8
  WINV0 : Fin 2 → u8
  WINV1 : Fin 2 → u8
  WININ : Fin 2 → WindowControl
  WINOUT : WindowControl
  WINOBJ : WindowControl
  BLDCNT : u16
  BLDALPHA_EVA : Factor
  BLDALPHA_EVB : Factor
  BLDY_EVY : Factor
  deriving DecidableEq

def GPU.registers (gpu : GPU) : LineRegisters where
  DISPCNT := gpu.dispCnt
  BGxCNT := gpu.bgcnt
  BGxHOFS := gpu.dispx_st.BGxHOFS
  BGxVOFS := gpu.dispx_st.BGxVOFS
  BGPARMS := gpu.dispx_st.dispx_BGPARMS
  WINH0 := gpu.WINH0
  WINH1 := gpu.WINH1
  WINV0 := gpu.WINV0
  WINV1 := gpu.WINV1
  WININ := gpu.WININ
  WINOUT := gpu.WINOUT
  WINOBJ := gpu.WINOBJ
  BLDCNT := gpu.dispx_st.BLDCNT
  BLDALPHA_EVA := gpu.BLDALPHA_EVA
  BLDALPHA_EVB := gpu.BLDALPHA_EVB
  BLDY_EVY := gpu.BLDY_EVY

/-- The memories are equal, and the 3D picture is on the line. -/
structure SameMemory (first second : VideoMemory) (l : Nat) : Prop where
  ARM9_LCD : first.ARM9_LCD = second.ARM9_LCD
  mapping : first.mapping = second.mapping
  ARM9_VMEM : first.ARM9_VMEM = second.ARM9_VMEM
  ARM9_OAM : first.ARM9_OAM = second.ARM9_OAM
  line3D : ∀ k < 256, ∀ i < 4, color3D first l k i = color3D second l k i

def GPU.seen (gpu : GPU) : GPU :=
  { gpu with
    dispx_st := { gpu.dispx_st with MASTER_BRIGHT := 0 }
    h_win := withinRect gpu
    curr_win := fun _ => true
    need_update_winh := fun _ => false
    dispMode := 0
    vramBlock := 0
    VRAMaddr := 0
    MasterBrightMode := 0
    MasterBrightFactor := 0
    affineInfo := fun _ => (0, 0)
    blend1 := false
    currDst := .null
    tempScanlineBuffer := fun _ => 0 }

section

variable (gpu : GPU) (vid : VideoMemory)

theorem paintOrder_seen : paintOrder gpu.seen = paintOrder gpu := rfl

theorem modeRender_seen : modeRender gpu.seen vid = modeRender gpu vid := rfl

theorem setFinalColorBG_seen : setFinalColorBG gpu.seen = setFinalColorBG gpu := rfl

theorem setFinalColorSpr_seen : setFinalColorSpr gpu.seen = setFinalColorSpr gpu := rfl

theorem spriteDots_seen : spriteDots gpu.seen vid = spriteDots gpu vid := rfl

theorem spriteLine_seen : spriteLine gpu.seen vid = spriteLine gpu vid := by
  unfold spriteLine spriteRender drawSprite
  rw [spriteDots_seen]
  rfl

theorem drawLayer_seen (line : SpriteLine) (l : Nat) (canvas : Canvas) (layer : Layer) :
    drawLayer gpu.seen vid line l canvas layer = drawLayer gpu vid line l canvas layer := by
  cases layer with
  | BG num =>
      unfold drawLayer drawBG
      rw [setFinalColorBG_seen,modeRender_seen]
      rfl
  | OBJ prio =>
      unfold drawLayer drawOBJ
      rw [setFinalColorSpr_seen]
      rfl

end

def composer (cfg : Config) (core : Core) (regs : LineRegisters) (l : Nat) : GPU :=
  { GPU_Reset core with
    dispx_st :=
      { dispx_DISPCNT := regs.DISPCNT
        dispx_BGxCNT := regs.BGxCNT
        BGxHOFS := regs.BGxHOFS
        BGxVOFS := regs.BGxVOFS
        dispx_BGPARMS := regs.BGPARMS
        BLDCNT := regs.BLDCNT
        MASTER_BRIGHT := 0 }
    LayersEnable := GPU.layerEnabled cfg core regs.DISPCNT
    BGs := GPU.sortedBGs (GPU.layerEnabled cfg core regs.DISPCNT) regs.BGxCNT
    background := fun num => GPU.backgroundOf core regs.DISPCNT (regs.BGxCNT num) num
    h_win := fun win x => decide (regs.DISPCNT.Win_Enable win = true ∧
      insideBounds (regs.WINH0 win) (regs.WINH1 win) x ∧
      insideBounds (regs.WINV0 win) (regs.WINV1 win) l)
    curr_win := fun _ => true
    sprBoundary := if regs.DISPCNT.OBJ_Tile_mapping then 5 + regs.DISPCNT.OBJ_Tile_1D_Bound.val
      else 5
    sprBMPBoundary := if regs.DISPCNT.OBJ_BMP_1D_Bound ∧ core = .GPU_MAIN then 8 else 7
    spriteRenderMode := if regs.DISPCNT.OBJ_Tile_mapping then .SPRITE_1D else .SPRITE_2D
    WINH0 := regs.WINH0
    WINH1 := regs.WINH1
    WINV0 := regs.WINV0
    WINV1 := regs.WINV1
    WININ := regs.WININ
    WINOUT := regs.WINOUT
    WINOBJ := regs.WINOBJ
    WIN_ENABLED := regs.DISPCNT.Win_Enable
    WINOBJ_ENABLED := regs.DISPCNT.WinOBJ_Enable
    BLDCNT := regs.BLDCNT
    BLDALPHA_EVA := regs.BLDALPHA_EVA
    BLDALPHA_EVB := regs.BLDALPHA_EVB
    BLDY_EVY := regs.BLDY_EVY
    setFinalColor_funcNum :=
      { FUNC := GPU.blendFunc regs.BLDCNT
        WINDOW := regs.DISPCNT.Win_Enable 0 || regs.DISPCNT.Win_Enable 1 ||
          regs.DISPCNT.WinOBJ_Enable }
    currLine := l }

structure Composes (cfg : Config) (gpu : GPU) (l : Nat) : Prop where
  line : gpu.currLine = l
  lists : ListsCurrent cfg gpu
  windows : WindowsCurrent gpu
  rectangles : ∀ win x, withinRect gpu win x = true ↔ WindowContains gpu win x l
  effects : EffectsCurrent gpu

/-- The engine with the places of its data derived from the registers. -/
def GPU.placed (gpu : GPU) : GPU :=
  { gpu with
    background := fun num => GPU.backgroundOf gpu.core gpu.dispCnt (gpu.bgcnt num) num
    sprBoundary := if gpu.dispCnt.OBJ_Tile_mapping then 5 + gpu.dispCnt.OBJ_Tile_1D_Bound.val
      else 5
    spriteRenderMode := if gpu.dispCnt.OBJ_Tile_mapping then .SPRITE_1D else .SPRITE_2D
    sprBMPBoundary := if gpu.dispCnt.OBJ_BMP_1D_Bound ∧ gpu.core = .GPU_MAIN then 8 else 7 }

theorem placed_eq_self {gpu : GPU} (places : PlacesCurrent gpu) : gpu.placed = gpu := by
  have backgrounds : gpu.background =
      fun num => GPU.backgroundOf gpu.core gpu.dispCnt (gpu.bgcnt num) num :=
    funext places.backgrounds
  unfold GPU.placed
  rw [← backgrounds,← places.tiles,← places.mapping,← places.bitmaps]

theorem seen_placed {cfg : Config} {gpu : GPU} {l : Nat}
    (composes : Composes cfg gpu l) :
    gpu.placed.seen = composer cfg gpu.core gpu.registers l := by
  have tables : withinRect gpu = fun win x => decide (WindowContains gpu win x l) := by
    funext win x
    rw [Bool.eq_iff_iff,composes.rectangles,decide_eq_true_iff]
  have lists : gpu.BGs =
      GPU.sortedBGs (GPU.layerEnabled cfg gpu.core gpu.dispCnt) gpu.bgcnt := by
    rw [← composes.lists.layers]
    exact composes.lists.lists
  have func : gpu.setFinalColor_funcNum =
      { FUNC := GPU.blendFunc gpu.dispx_st.BLDCNT
        WINDOW := gpu.dispCnt.Win_Enable 0 || gpu.dispCnt.Win_Enable 1 ||
          gpu.dispCnt.WinOBJ_Enable } := by
    rw [← composes.effects.control,← composes.effects.func,← composes.windows.windows,
      ← composes.windows.objects,← composes.windows.used]
  have same : withinRect gpu.placed = withinRect gpu := rfl
  unfold GPU.seen
  rw [same,tables]
  unfold GPU.placed
  dsimp only
  rw [composes.lists.layers,lists,composes.windows.windows,composes.windows.objects,
    composes.effects.control,func,composes.line]
  rfl

structure PixelAgree (x : Nat) (first second : Canvas) : Prop where
  dst : first.dst x = second.dst x
  bgPixels : first.bgPixels x = second.bgPixels x

structure CanvasAgree (x : Nat) (first second : Canvas) : Prop
    extends PixelAgree x first second where
  blend1 : first.blend1 = second.blend1

theorem CanvasAgree.put {x : Nat} {first second : Canvas} (agree : CanvasAgree x first second)
    (num : Fin 6) {y : Nat} {color other : u16} (same : y = x → color = other) :
    CanvasAgree x (first.put num y color) (second.put num y other) := by
  by_cases here : y = x
  · rw [same here,here]
    refine ⟨⟨?_,?_⟩,agree.blend1⟩
    · change update first.dst x other x = update second.dst x other x
      rw [update_self,update_self]
    · change update first.bgPixels x num x = update second.bgPixels x num x
      rw [update_self,update_self]
  · have apart : x ≠ y := Ne.symm here
    refine ⟨⟨?_,?_⟩,agree.blend1⟩
    · exact (update_of_ne apart color _).trans
        (agree.dst.trans (update_of_ne apart other _).symm)
    · exact (update_of_ne apart num _).trans
        (agree.bgPixels.trans (update_of_ne apart num _).symm)

theorem setFinalColorBG_eq (gpu : GPU) (sprWin : Nat → Bool) (num : Fin 6) (canvas : Canvas)
    (pixel : Nat × u16) :
    setFinalColorBG gpu sprWin num canvas pixel =
      if admits gpu sprWin num pixel.1 (false, true) = true then
        canvas.put num pixel.1
          ((setFinalBGColor gpu sprWin num canvas (pixel.2 &&& (0x7FFF : u16)) pixel.1).getD 0 |||
            (0x8000 : u16))
      else canvas := by
  have drawn : (setFinalBGColor gpu sprWin num canvas (pixel.2 &&& (0x7FFF : u16))
      pixel.1).isSome = admits gpu sprWin num pixel.1 (false, true) := by
    unfold setFinalBGColor admits
    dsimp only
    split_ifs <;> simp_all
  unfold setFinalColorBG
  rw [← drawn]
  cases setFinalBGColor gpu sprWin num canvas (pixel.2 &&& (0x7FFF : u16)) pixel.1 with
  | none => rfl
  | some color => rfl

theorem setFinalColorSpr_eq (gpu : GPU) (line : SpriteLine) (canvas : Canvas) (x : Nat) :
    setFinalColorSpr gpu line canvas x =
      if admits gpu line.sprWin 4 x (true, true) = true then
        canvas.put 4 x ((if gpu.setFinalColor_funcNum.WINDOW = false ∨
            (renderline_checkWindows gpu line.sprWin 4 x (true, true)).2 = true then
          objColor gpu canvas (line.spr x) (line.sprAlpha x) (line.sprType x) x
        else line.spr x) ||| (0x8000 : u16))
      else canvas := by
  unfold setFinalColorSpr admits
  cases gpu.setFinalColor_funcNum.WINDOW with
  | false => rfl
  | true => simp

section

variable {gpu : GPU} {x : Nat} {first second : Canvas} (agree : CanvasAgree x first second)

include agree

theorem setFinalBGColor_agree (sprWin : Nat → Bool) (num : Fin 6) (color : u16) :
    setFinalBGColor gpu sprWin num first color x =
      setFinalBGColor gpu sprWin num second color x := by
  have effect : effectColor gpu first color x = effectColor gpu second color x := by
    unfold effectColor
    rw [agree.dst,agree.bgPixels]
  unfold setFinalBGColor
  rw [effect,agree.blend1]

theorem objColor_agree (color : u16) (alpha : Nat) (type : Fin 4) :
    objColor gpu first color alpha type x = objColor gpu second color alpha type x := by
  unfold objColor
  rw [agree.dst,agree.bgPixels,agree.blend1]

theorem canvasAgree_setFinalColorBG (sprWin : Nat → Bool) (num : Fin 6) (pixel : Nat × u16) :
    CanvasAgree x (setFinalColorBG gpu sprWin num first pixel)
      (setFinalColorBG gpu sprWin num second pixel) := by
  rw [setFinalColorBG_eq,setFinalColorBG_eq]
  split_ifs
  · apply agree.put
    intro here
    rw [here,setFinalBGColor_agree agree]
  · exact agree

theorem canvasAgree_setFinalColorSpr (line : SpriteLine) (y : Nat) :
    CanvasAgree x (setFinalColorSpr gpu line first y) (setFinalColorSpr gpu line second y) := by
  rw [setFinalColorSpr_eq,setFinalColorSpr_eq]
  split_ifs
  · apply agree.put
    intro here
    rw [here,objColor_agree agree]
  · apply agree.put
    intro here
    rfl
  · exact agree

end

/-- An opaque black pixel 255 of the 3D line is drawn by a look at the pixel behind. -/
def EdgeLooked (cfg : Config) (gpu : GPU) (vid : VideoMemory) (l : Nat) : Prop :=
  is3D gpu 0 = true ∧ GPU.layerEnabled cfg gpu.core gpu.dispCnt 0 = true ∧
    color3D vid l 255 3 ≠ 0 ∧ black3D vid l 255 = true

section

variable {vid other : VideoMemory} {l : Nat} (mem : SameMemory vid other l)

include mem

variable {second first : Canvas} {k x : Nat}

theorem black3D_sameMemory (inside : k < 256) : black3D vid l k = black3D other l k := by
  unfold black3D
  rw [mem.line3D k inside 0 (by omega),mem.line3D k inside 1 (by omega),
    mem.line3D k inside 2 (by omega)]

theorem rgb15of3D_sameMemory (inside : k < 256) : rgb15of3D vid l k = rgb15of3D other l k := by
  unfold rgb15of3D
  rw [mem.line3D k inside 0 (by omega),mem.line3D k inside 1 (by omega),
    mem.line3D k inside 2 (by omega)]

variable (gpu : GPU)

theorem modeRender_sameMemory (num : Fin 4) :
    modeRender gpu vid num = modeRender gpu other num := by
  obtain ⟨lcd,map,vmem,oam,screen⟩ := vid
  obtain ⟨lcd',mapping',vmem',oam',screen'⟩ := other
  obtain ⟨rfl,rfl,rfl,rfl,-⟩ := mem
  rfl

theorem spriteLine_sameMemory : spriteLine gpu vid = spriteLine gpu other := by
  obtain ⟨lcd,map,vmem,oam,screen⟩ := vid
  obtain ⟨lcd',mapping',vmem',oam',screen'⟩ := other
  obtain ⟨rfl,rfl,rfl,rfl,-⟩ := mem
  rfl

theorem backdrop_color_sameMemory : backdrop_color gpu vid = backdrop_color gpu other := by
  unfold backdrop_color
  rw [mem.ARM9_VMEM]

theorem canvasAgree_setFinalColor3d (agree : CanvasAgree x first second) (inside : k < 256)
    (behind : color3D vid l k 3 ≠ 0 → black3D vid l k = true →
      black3D vid l (k + 1) = black3D other l (k + 1)) :
    CanvasAgree x (setFinalColor3d vid l first k) (setFinalColor3d other l second k) := by
  unfold setFinalColor3d
  rw [← mem.line3D k inside 3 (by omega),← black3D_sameMemory mem inside,
    ← rgb15of3D_sameMemory mem inside]
  by_cases clear : color3D vid l k 3 = 0
  · rw [if_pos clear,if_pos clear]
    exact agree
  · rw [if_neg clear,if_neg clear]
    have drawn : CanvasAgree x (first.put 0 k (rgb15of3D vid l k))
        (second.put 0 k (rgb15of3D vid l k)) := agree.put 0 (fun _ => rfl)
    cases black : black3D vid l k with
    | false => exact drawn
    | true =>
        rw [← behind clear black]
        split_ifs
        · exact agree
        · exact drawn

theorem canvasAgree_drawBG {cfg : Config} {gpu : GPU}
    (agree : PixelAgree x first second) (sprWin : Nat → Bool) (num : Fin 4)
    (enabled : GPU.layerEnabled cfg gpu.core gpu.dispCnt num.castSucc = true)
    (edge : EdgeLooked cfg gpu vid l → black3D vid l 256 = black3D other l 256) :
    CanvasAgree x (drawBG gpu vid sprWin l num first) (drawBG gpu other sprWin l num second) := by
  have start (flag : Bool) :
      CanvasAgree x { first with blend1 := flag } { second with blend1 := flag } :=
    ⟨⟨agree.dst,agree.bgPixels⟩,rfl⟩
  unfold drawBG
  dsimp only
  by_cases flat : is3D gpu num = true
  · rw [if_pos flat,if_pos flat]
    have zero : num = 0 := (of_decide_eq_true flat).2.1
    subst zero
    apply List.foldl_rel (start _)
    intro k member first second agree
    obtain ⟨-,bound⟩ := List.mem_range'_1.mp (List.mem_reverse.mp member)
    apply canvasAgree_setFinalColor3d mem agree bound
    intro clear black
    by_cases last : k = 255
    · rw [last] at clear black ⊢
      exact edge ⟨flat,enabled,clear,black⟩
    · exact black3D_sameMemory mem (by omega)
  · rw [if_neg flat,if_neg flat,modeRender_sameMemory mem]
    apply List.foldl_rel (start _)
    intro pixel _member first second agree
    exact canvasAgree_setFinalColorBG agree sprWin (bgLayer num) pixel

theorem pixelAgree_drawLayer {cfg : Config} {gpu : GPU}
    (agree : PixelAgree x first second) (line : SpriteLine) (lists : ListsCurrent cfg gpu)
    (edge : EdgeLooked cfg gpu vid l → black3D vid l 256 = black3D other l 256)
    (layer : Layer) :
    PixelAgree x (drawLayer gpu vid line l first layer)
      (drawLayer gpu other line l second layer) := by
  cases layer with
  | BG num =>
      unfold drawLayer
      dsimp only
      by_cases enabled : gpu.LayersEnable num.castSucc = true
      · rw [if_pos enabled,if_pos enabled]
        rw [lists.layers] at enabled
        exact (canvasAgree_drawBG mem agree line.sprWin num enabled edge).toPixelAgree
      · rw [if_neg enabled,if_neg enabled]
        exact agree
  | OBJ prio =>
      unfold drawLayer
      dsimp only
      split_ifs
      · have start : CanvasAgree x { first with blend1 := firstTarget gpu 4 }
            { second with blend1 := firstTarget gpu 4 } := ⟨⟨agree.dst,agree.bgPixels⟩,rfl⟩
        have drawn :
            CanvasAgree x (drawOBJ gpu line prio first) (drawOBJ gpu line prio second) := by
          unfold drawOBJ
          apply List.foldl_rel start
          intro y _member first second agree
          exact canvasAgree_setFinalColorSpr agree line y
        exact drawn.toPixelAgree
      · exact agree

end

/-! ### Two lines -/

def backdropFaded (gpu : GPU) (sprWin : Nat → Bool) (x : Nat) : Bool :=
  gpu.blend1 && (renderline_checkWindows gpu sprWin 5 x (false, true)).2

def BackdropFades (gpu : GPU) (vid : VideoMemory) : Prop :=
  windowsUsed gpu = true ∧ backdropEffect gpu (backdrop_color gpu vid) ≠ backdrop_color gpu vid

/-- What two machines have left agrees wherever the composition of the line looks
at it. -/
structure LeftoversAgree (cfg : Config) (core : Core) (l : Nat) (first second : Machine) :
    Prop where
  backdrop : BackdropFades (enteringLine cfg first core l) first.video → ∀ x < 256,
    backdropFaded (enteringLine cfg first core l) first.sprWin x =
      backdropFaded (enteringLine cfg second core l) second.sprWin x
  edge : EdgeLooked cfg (enteringLine cfg first core l) first.video l →
    black3D first.video l 256 = black3D second.video l 256

def fadedBackdrop (gpu : GPU) (color : u16) (faded : Bool) : u16 :=
  if gpu.setFinalColor_funcNum.WINDOW then
    (if faded then backdropEffect gpu color else color) ||| (0x8000 : u16)
  else if gpu.BLDCNT.getLsbD 5 then backdropEffect gpu color
  else color

theorem backdropPixel_eq (gpu : GPU) (vid : VideoMemory) (sprWin : Nat → Bool) (x : Nat) :
    backdropPixel gpu vid sprWin x =
      fadedBackdrop gpu.placed.seen (backdrop_color gpu.placed.seen vid)
        (backdropFaded gpu sprWin x) := rfl

theorem fadedBackdrop_agree {gpu : GPU} {color : u16} {faded other : Bool}
    (agree : gpu.setFinalColor_funcNum.WINDOW = true → backdropEffect gpu color ≠ color →
      faded = other) : fadedBackdrop gpu color faded = fadedBackdrop gpu color other := by
  unfold fadedBackdrop
  by_cases windows : gpu.setFinalColor_funcNum.WINDOW = true
  · rw [if_pos windows,if_pos windows]
    by_cases plain : backdropEffect gpu color = color
    · rw [plain,ite_self,ite_self]
    · rw [agree windows plain]
  · rw [if_neg windows,if_neg windows]

theorem row_of_disabled {gpu : GPU} (disabled : gpu.LayersEnable = fun _ => false)
    (vid : VideoMemory) (sprWin : Nat → Bool) (l : Nat) :
    (GPU_RenderLine_layer gpu vid sprWin l).row = backdropPixel gpu vid sprWin := by
  have kept (layer : Layer) : drawLayer gpu vid (spriteLine gpu vid) l
      (backdrop gpu vid sprWin) layer = backdrop gpu vid sprWin := by
    cases layer with
    | BG num =>
        unfold drawLayer
        rw [disabled]
        rfl
    | OBJ prio =>
        unfold drawLayer
        rw [disabled]
        rfl
  unfold GPU_RenderLine_layer
  dsimp only
  rw [List.foldl_fixed' kept]
  rfl

theorem row_placed {gpu : GPU}
    (known : PlacesCurrent gpu ∨ gpu.LayersEnable = fun _ => false) (vid : VideoMemory)
    (sprWin : Nat → Bool) (l : Nat) :
    (GPU_RenderLine_layer gpu vid sprWin l).row =
      (GPU_RenderLine_layer gpu.placed vid sprWin l).row := by
  rcases known with places | disabled
  · rw [placed_eq_self places]
  · have same : gpu.placed.LayersEnable = fun _ => false := disabled
    rw [row_of_disabled disabled,row_of_disabled same]
    rfl

theorem row_seen (gpu : GPU) (vid : VideoMemory) (sprWin : Nat → Bool) (l : Nat) :
    (GPU_RenderLine_layer gpu vid sprWin l).row =
      ((paintOrder gpu.seen).foldl (drawLayer gpu.seen vid (spriteLine gpu.seen vid) l)
        (backdrop gpu vid sprWin)).dst := by
  have layers : drawLayer gpu.seen vid (spriteLine gpu vid) l =
      drawLayer gpu vid (spriteLine gpu vid) l := by
    funext canvas layer
    exact drawLayer_seen gpu vid _ l canvas layer
  rw [spriteLine_seen,layers,paintOrder_seen]
  rfl

section

variable {cfg : Config} {core : Core} {l : Nat} {first second : Machine}

structure Derived (cfg : Config) (gpu : GPU) (l : Nat) : Prop where
  composes : Composes cfg gpu l
  known : PlacesCurrent gpu ∨ gpu.LayersEnable = fun _ => false

theorem rows_agree (core_eq : (enteringLine cfg first core l).core =
      (enteringLine cfg second core l).core)
    (derived : Derived cfg (enteringLine cfg first core l) l)
    (derived' : Derived cfg (enteringLine cfg second core l) l)
    (regs : (enteringLine cfg first core l).registers =
      (enteringLine cfg second core l).registers)
    (mem : SameMemory first.video second.video l)
    (leftovers : LeftoversAgree cfg core l first second) {x : Nat} (inside : x < 256) :
    (GPU_RenderLine_layer (enteringLine cfg first core l) first.video first.sprWin l).row x =
      (GPU_RenderLine_layer (enteringLine cfg second core l) second.video second.sprWin
        l).row x := by
  obtain ⟨backdropLeft,edge⟩ := leftovers
  generalize enteringLine cfg first core l = gpu at *
  generalize enteringLine cfg second core l = gpu' at *
  have same : gpu.placed.seen = gpu'.placed.seen := by
    rw [seen_placed derived.composes,seen_placed derived'.composes,core_eq,regs]
  have lists : ListsCurrent cfg gpu.placed.seen :=
    ⟨derived.composes.lists.layers,derived.composes.lists.lists⟩
  have start : PixelAgree x (backdrop gpu.placed first.video first.sprWin)
      (backdrop gpu'.placed second.video second.sprWin) := by
    refine ⟨?_,rfl⟩
    change backdropPixel gpu first.video first.sprWin x =
      backdropPixel gpu' second.video second.sprWin x
    rw [backdropPixel_eq,backdropPixel_eq,← same,← backdrop_color_sameMemory mem]
    apply fadedBackdrop_agree
    intro windows fades
    refine backdropLeft ⟨?_,fades⟩ x inside
    unfold windowsUsed
    rw [← derived.composes.windows.windows,← derived.composes.windows.objects,
      ← derived.composes.windows.used]
    exact windows
  rw [row_placed derived.known,row_placed derived'.known,row_seen,row_seen,← same,
    ← spriteLine_sameMemory mem]
  have painted := List.foldl_rel (l := paintOrder gpu.placed.seen) (r := PixelAgree x) start
    (fun layer _member _ _ agree =>
      pixelAgree_drawLayer mem agree (spriteLine gpu.placed.seen first.video) lists edge layer)
  exact painted.dst

end

def PlacesKnown (gpu : GPU) : Prop := PlacesCurrent gpu ∨ gpu.dispCnt.val = 0

theorem keptByEngine_placesKnown (cfg : Config) : KeptByEngine cfg PlacesKnown := by
  have kept := keptByEngine_places cfg
  refine ⟨fun gpu => or_congr (kept.settled gpu) Iff.rfl, ?_, ?_⟩
  · intro gpu win known
    refine known.imp (kept.refresh gpu win) ?_
    intro clear
    unfold GPU.dispCnt
    rw [dispx_st_refresh_winh]
    exact clear
  · intro gpu val cond known
    rcases known with places | clear
    · exact Or.inl (kept.write gpu val cond places)
    · cases val with
      | DISPCNT val => exact Or.inl (placesCurrent_setVideoProp cfg gpu _)
      | DISPCNT_low val => exact Or.inl (placesCurrent_setVideoProp cfg gpu _)
      | DISPCNT_high val => exact Or.inl (placesCurrent_setVideoProp cfg gpu _)
      | DISPCNT_byte i val =>
          right
          exact Eq.trans cond clear
      | BLDCNT_byte i val =>
          right
          change (gpu.writeBLDCNT_byte i val).dispCnt.val = 0
          unfold GPU.writeBLDCNT_byte
          dsimp only
          split
          · exact clear
          · exact clear
      | _ => exact Or.inr clear

/-- The engine has derived its state from DISPCNT once, unless the user has
switched no layer off. -/
def DerivedOnce (cfg : Config) (core : Core) (ops : List Op) : Prop :=
  (∀ layer, cfg.gpuLayerEnabled core layer = true) ∨
    ∃ val : Write, val.setsDISPCNT ∧ Op.write core val ∈ ops

/-- A run from a reset ends in the machine, with no byte store behind the back of
the engine. -/
def Arrives (cfg : Config) (core : Core) (m : Machine) : Prop :=
  ∃ vid disp_fifo GPU_Screen sprWin ops,
    Run.Guarded (Machine.step cfg) (EngineStores core)
      (.reset vid disp_fifo GPU_Screen sprWin) ops ∧
    DerivedOnce cfg core ops ∧
    m = Run.final (Machine.step cfg) (.reset vid disp_fifo GPU_Screen sprWin) ops

section

variable {cfg : Config} {core : Core}

theorem current_of_setsDISPCNT (gpu : GPU) {val : Write} (sets : val.setsDISPCNT) :
    ListsCurrent cfg (gpu.write cfg val) ∧
      PlacesCurrent (gpu.write cfg val) := by
  cases val with
  | DISPCNT val =>
      exact ⟨listsCurrent_setVideoProp cfg gpu _,placesCurrent_setVideoProp cfg gpu _⟩
  | DISPCNT_low val =>
      exact ⟨listsCurrent_setVideoProp cfg gpu _,placesCurrent_setVideoProp cfg gpu _⟩
  | DISPCNT_high val =>
      exact ⟨listsCurrent_setVideoProp cfg gpu _,placesCurrent_setVideoProp cfg gpu _⟩
  | _ => exact sets.elim

variable {m : Machine}

theorem holds_after_DISPCNT {holds : GPU → Prop} (kept : KeptByEngine cfg holds)
    (set : ∀ gpu val, val.setsDISPCNT → holds (GPU.write gpu cfg val))
    {ops : List Op} (stores : Run.Guarded (Machine.step cfg) (EngineStores core) m ops)
    {val : Write} (sets : val.setsDISPCNT) (written : Op.write core val ∈ ops) :
    holds ((Run.final (Machine.step cfg) m ops).gpu core) := by
  obtain ⟨before,after,rfl⟩ := List.append_of_mem written
  have later := ((Run.guarded_append _ _ _ _ _).mp stores).2.2
  rw [Run.final_append,Run.final_cons]
  have res (m : Machine) :
      (m.step cfg (.write core val)).gpu core = (m.gpu core).write cfg val :=
    update_self _ _ _
  refine kept.run ?_ later
  rw [res]
  exact set _ val sets

theorem currLine_refresh_winh (gpu : GPU) (win : Fin 2) :
    (refresh_winh gpu win).currLine = gpu.currLine := by
  rcases refresh_winh_cases gpu win with kept | filled
  · rw [kept]
  · rw [filled]

theorem currLine_enteringLine (m : Machine) (l : Nat) :
    (enteringLine cfg m core l).currLine = l := by
  unfold enteringLine
  generalize (m.setupFirstLine core l).gpu core = gpu
  change (refresh_winh (refresh_winh { gpu with currLine := l } 0) 1).currLine = l
  rw [currLine_refresh_winh,currLine_refresh_winh]

theorem core_enteringLine (m : Machine) (l : Nat) :
    (enteringLine cfg m core l).core = (m.gpu core).core := by
  have same := congrArg GPU.core (settled_enteringLine cfg m core l)
  rw [refreshed,core_refresh_winh,core_refresh_winh] at same
  exact same

theorem core_of_arrives (arrives : Arrives cfg core m) (l : Nat) :
    (enteringLine cfg m core l).core = core := by
  obtain ⟨vid,disp_fifo,GPU_Screen,sprWin,ops,-,-,reached⟩ := arrives
  rw [core_enteringLine,reached,core_run]
  rfl

theorem composes_enteringLine (l : Nat)
    (lists : ListsCurrent cfg (m.gpu core)) (windows : WindowsCurrent (m.gpu core))
    (effects : EffectsCurrent (m.gpu core)) :
    Composes cfg (enteringLine cfg m core l) l where
  line := currLine_enteringLine m l
  lists := (keptByEngine_lists cfg).entering lists l
  windows := (keptByEngine_windows cfg).entering windows l
  rectangles := withinRect_enteringLine windows
  effects := (keptByEngine_effects cfg).entering effects l

theorem derived_of_arrives (arrives : Arrives cfg core m) (l : Nat) :
    Derived cfg (enteringLine cfg m core l) l := by
  have itself := core_of_arrives arrives l
  obtain ⟨vid,disp_fifo,GPU_Screen,sprWin,ops,stores,once,reached⟩ := arrives
  have windows := (keptByEngine_windows cfg).run (windowsCurrent_reset core) stores
  have effects := (keptByEngine_effects cfg).run (effectsCurrent_reset core) stores
  rw [← reached] at windows effects
  rcases once with switches | ⟨val,sets,written⟩
  · have lists := (keptByEngine_lists cfg).run (listsCurrent_reset switches) stores
    have places := (keptByEngine_placesKnown cfg).run
      (show PlacesKnown (GPU_Reset core) from Or.inr rfl) stores
    rw [← reached] at lists places
    have composes := composes_enteringLine l lists windows effects
    refine ⟨composes,?_⟩
    refine ((keptByEngine_placesKnown cfg).entering places l).imp_right ?_
    intro clear
    rw [composes.lists.layers,itself,layerEnabled_switches switches]
    funext layer
    unfold DISPCNT.Layer_Enable
    rw [clear]
    exact BitVec.getLsbD_zero
  · have lists := holds_after_DISPCNT (keptByEngine_lists cfg)
      (fun gpu _ sets => (current_of_setsDISPCNT gpu sets).1) stores sets written
    have places := holds_after_DISPCNT (keptByEngine_places cfg)
      (fun gpu _ sets => (current_of_setsDISPCNT gpu sets).2) stores sets written
    rw [← reached] at lists places
    exact ⟨composes_enteringLine l lists windows effects,
      Or.inl ((keptByEngine_places cfg).entering places l)⟩

end

/-- Two runs that reach a line with the same registers and memories compose the
same 256 pixels, if what they have left agrees wherever the line looks at it. -/
theorem line_independent_of_history (cfg : Config) (core : Core) (l : Fin 192)
    (first second : Machine) (arrived : Arrives cfg core first)
    (alsoArrived : Arrives cfg core second)
    (regs : (enteringLine cfg first core l.val).registers =
      (enteringLine cfg second core l.val).registers)
    (mem : SameMemory first.video second.video l.val)
    (leftovers : LeftoversAgree cfg core l.val first second) :
    ∀ x < 256,
      (GPU_RenderLine_layer (enteringLine cfg first core l.val) first.video first.sprWin
        l.val).row x =
      (GPU_RenderLine_layer (enteringLine cfg second core l.val) second.video second.sprWin
        l.val).row x := by
  have itself := core_of_arrives arrived l.val
  have alsoItself := core_of_arrives alsoArrived l.val
  exact fun x inside => rows_agree (itself.trans alsoItself.symm)
    (derived_of_arrives arrived l.val) (derived_of_arrives alsoArrived l.val) regs mem
    leftovers inside

/-! ### The first line and a later one -/

variable (effect : u16)

/-- BG0 and a window, whose outside admits effects, and a colour effect. -/
def windowedWrites : List Op :=
  [.write .GPU_SUB (.DISPCNT 0x12100),.write .GPU_SUB (.BLDCNT effect),
    .write .GPU_SUB (.BLDY 16),.write .GPU_SUB (.WINOUT 0x3F)]

def firstLine : Machine :=
  Run.final (Machine.step sampleConfig) sampleMachine (windowedWrites effect)

def laterLine : Machine :=
  Run.final (Machine.step sampleConfig) sampleMachine
    (windowedWrites effect ++ [.GPU_RenderLine .GPU_SUB 1 false])

theorem engineStores_windowedWrites :
    ∀ op ∈ windowedWrites effect ++ [.GPU_RenderLine .GPU_SUB 1 false],
      ∀ m, EngineStores .GPU_SUB m op := by
  intro op member m val same
  subst same
  simp only [windowedWrites,List.cons_append,List.nil_append,List.mem_cons,Op.write.injEq,
    List.not_mem_nil,or_false,reduceCtorEq] at member
  rcases member with ⟨-,rfl⟩ | ⟨-,rfl⟩ | ⟨-,rfl⟩ | ⟨-,rfl⟩ <;> trivial

theorem arrives_firstLine : Arrives sampleConfig .GPU_SUB (firstLine effect) := by
  have stores : Run.Guarded (Machine.step sampleConfig) (EngineStores .GPU_SUB) sampleMachine
      (windowedWrites effect) :=
    Run.guarded_of_forall
      (fun op member => engineStores_windowedWrites effect op (List.mem_append_left _ member)) _
  exact ⟨_,_,_,_,windowedWrites effect,stores,Or.inl (fun _ => rfl),by
    unfold firstLine sampleMachine
    with_reducible rfl⟩

theorem arrives_laterLine : Arrives sampleConfig .GPU_SUB (laterLine effect) := by
  have stores : Run.Guarded (Machine.step sampleConfig) (EngineStores .GPU_SUB) sampleMachine
      (windowedWrites effect ++ [.GPU_RenderLine .GPU_SUB 1 false]) :=
    Run.guarded_of_forall (engineStores_windowedWrites effect) _
  exact ⟨_,_,_,_,_,stores,Or.inl (fun _ => rfl),by
    unfold laterLine sampleMachine
    with_reducible rfl⟩

theorem sameMemory_laterLine (l : Nat) :
    SameMemory (firstLine effect).video (laterLine effect).video l := by
  have res (m : Machine) : Run.final (Machine.step sampleConfig) m
      [.GPU_RenderLine .GPU_SUB 1 false] = m.GPU_RenderLine sampleConfig .GPU_SUB 1 false := rfl
  unfold laterLine
  rw [Run.final_append,res]
  change SameMemory (firstLine effect).video
    ((firstLine effect).GPU_RenderLine sampleConfig .GPU_SUB 1 false).video l
  generalize firstLine effect = m
  rcases video_RenderLine sampleConfig m .GPU_SUB 1 false with kept | main
  · rw [kept]
    exact ⟨rfl,rfl,rfl,rfl,fun _ _ _ _ => rfl⟩
  · exact absurd main.1 (by decide)

/-- Blending leaves the backdrop alone, so nothing of the other line is seen. -/
theorem line_independent_of_history_blend :
    (GPU_RenderLine_layer (enteringLine sampleConfig (firstLine 0x61) .GPU_SUB (0 : Fin 192).val)
      (firstLine 0x61).video (firstLine 0x61).sprWin (0 : Fin 192).val).row 0 =
    (GPU_RenderLine_layer (enteringLine sampleConfig (laterLine 0x61) .GPU_SUB (0 : Fin 192).val)
      (laterLine 0x61).video (laterLine 0x61).sprWin (0 : Fin 192).val).row 0 := by
  have plain : backdropEffect (enteringLine sampleConfig (firstLine 0x61) .GPU_SUB 0) =
      fun color => color := by
    have func : (enteringLine sampleConfig (firstLine 0x61) .GPU_SUB
        0).setFinalColor_funcNum.FUNC = .Blend := by
      decide +kernel
    unfold backdropEffect
    rw [func]
  have flat : is3D (enteringLine sampleConfig (firstLine 0x61) .GPU_SUB 0) 0 = false := by
    decide +kernel
  have regs : (enteringLine sampleConfig (firstLine 0x61) .GPU_SUB
      (0 : Fin 192).val).registers =
        (enteringLine sampleConfig (laterLine 0x61) .GPU_SUB (0 : Fin 192).val).registers := by
    decide +kernel
  have leftovers : LeftoversAgree sampleConfig .GPU_SUB (0 : Fin 192).val (firstLine 0x61)
      (laterLine 0x61) := by
    constructor
    · intro fades
      exact absurd (congrFun plain _) fades.2
    · intro looked
      exact absurd (flat.symm.trans looked.1) (by decide)
  exact line_independent_of_history sampleConfig .GPU_SUB 0 (firstLine 0x61) (laterLine 0x61)
    (arrives_firstLine 0x61) (arrives_laterLine 0x61) regs (sameMemory_laterLine 0x61 _)
    leftovers 0 (by omega)

/-- Brightened, the backdrop of the first line stays black behind the window,
and that of the same line after another one is white. -/
theorem windowed_backdrop_reads_history :
    ¬∀ (cfg : Config) (core : Core) (l : Fin 192) (first second : Machine),
      Arrives cfg core first → Arrives cfg core second →
      (enteringLine cfg first core l.val).registers =
        (enteringLine cfg second core l.val).registers →
      SameMemory first.video second.video l.val →
      ∀ x < 256,
        (GPU_RenderLine_layer (enteringLine cfg first core l.val) first.video first.sprWin
          l.val).row x =
        (GPU_RenderLine_layer (enteringLine cfg second core l.val) second.video
          second.sprWin l.val).row x := by
  intro everywhere
  have same := everywhere sampleConfig .GPU_SUB 0 (firstLine 0xA1) (laterLine 0xA1)
    (arrives_firstLine 0xA1) (arrives_laterLine 0xA1) (by decide +kernel)
    (sameMemory_laterLine 0xA1 _) 0 (by omega)
  have black : (GPU_RenderLine_layer (enteringLine sampleConfig (firstLine 0xA1) .GPU_SUB 0)
      (firstLine 0xA1).video (firstLine 0xA1).sprWin 0).row 0 = 0x8000 := by
    decide +kernel
  have white : (GPU_RenderLine_layer (enteringLine sampleConfig (laterLine 0xA1) .GPU_SUB 0)
      (laterLine 0xA1).video (laterLine 0xA1).sprWin 0).row 0 = 0xFFFF := by
    decide +kernel
  exact absurd (black.symm.trans (Eq.trans same white)) (by decide)

end Desmume.Gpu
