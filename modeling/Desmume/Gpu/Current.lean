/-
What the engines keep of their registers from one line to the next.

The call for a line moves the reference points, refreshes the tables of the
windows and leaves a few traces of the line itself.
-/

import Desmume.Gpu.Line

namespace Desmume.Gpu

open Function (update update_eq_self update_of_ne update_self)

def GPU.settled (gpu : GPU) : GPU :=
  { gpu with
    dispx_st := { gpu.dispx_st with dispx_BGPARMS := REG_DISPx.zero.dispx_BGPARMS }
    curr_win := fun _ => false
    blend1 := false
    currLine := 0
    currDst := .null
    tempScanlineBuffer := fun _ => 0 }

def refreshed (gpu : GPU) : GPU := refresh_winh (refresh_winh gpu 0) 1

theorem settled_refresh_winh (gpu : GPU) (win : Fin 2) :
    (refresh_winh gpu win).settled = refresh_winh gpu.settled win := by
  unfold refresh_winh update_winh
  change _ = if gpu.need_update_winh win then if gpu.WIN_ENABLED win then _ else _ else _
  split_ifs <;> rfl

theorem settled_prepareLine (cfg : Config) (gpu : GPU) (l : Nat) :
    (prepareLine cfg gpu l).settled = refreshed gpu.settled := by
  unfold refreshed
  rw [← settled_refresh_winh,← settled_refresh_winh]
  have moved (win : Fin 2) (gpu : GPU) :
      refresh_winh { gpu with currLine := l } win =
        { refresh_winh gpu win with currLine := l } := by
    unfold refresh_winh update_winh
    change (if gpu.need_update_winh win then if gpu.WIN_ENABLED win then _ else _ else _) = _
    split_ifs <;> rfl
  unfold prepareLine
  dsimp only
  rw [moved,moved]
  generalize refresh_winh (refresh_winh gpu 0) 1 = ready
  rfl

theorem settled_setParms (gpu : GPU) (layer : Fin 2) (parms : BGxPARMS) :
    (gpu.setParms layer parms).settled = gpu.settled := rfl

theorem settled_refreshAffineStartRegs (gpu : GPU) :
    gpu.refreshAffineStartRegs.settled = gpu.settled := by
  unfold GPU.refreshAffineStartRegs GPU.refreshX GPU.refreshY
  rw [settled_setParms,settled_setParms,settled_setParms,settled_setParms]

theorem settled_advanceParms (nums : List (Fin 4)) (gpu : GPU) :
    (nums.foldl advanceParms gpu).settled = gpu.settled := by
  induction nums generalizing gpu with
  | nil => rfl
  | cons num rest ih =>
      refine (ih (advanceParms gpu num)).trans ?_
      unfold advanceParms
      split <;> rfl

theorem settled_RenderLine_layer (gpu : GPU) (vid : VideoMemory) (sprWin : Nat → Bool)
    (l : Nat) : (GPU_RenderLine_layer gpu vid sprWin l).gpu.settled = gpu.settled := by
  have flag (gpu : GPU) (blend1 : Bool) :
      ({ gpu with blend1 := blend1 } : GPU).settled = gpu.settled := rfl
  exact (flag _ _).trans (settled_advanceParms (renderedBGs gpu) gpu)

section

variable (cfg : Config) (m : Machine) (core other : Core) (l : Nat)

theorem settled_setGpu {gpu : GPU} (same : gpu.settled = (m.gpu core).settled) :
    ((m.setGpu core gpu).gpu other).settled = (m.gpu other).settled := by
  unfold Machine.setGpu
  by_cases here : other = core
  · rw [here]
    dsimp only
    rw [update_self,same]
  · dsimp only
    rw [update_of_ne here]

theorem settled_setCurrLine : ((m.setCurrLine core l).gpu other).settled = (m.gpu other).settled :=
  settled_setGpu m core other rfl

variable (row : Row)

theorem settled_storeRow : ((m.storeRow core row).gpu other).settled = (m.gpu other).settled := by
  unfold Machine.storeRow
  cases (m.gpu core).currDst with
  | null => rfl
  | GPU_Screen off => rfl
  | tempScanlineBuffer => exact settled_setGpu m core other rfl

theorem gpu_clearFifo : (m.clearFifo core l).gpu = m.gpu := by
  unfold Machine.clearFifo
  split_ifs <;> rfl

theorem gpu_DispCapture : (m.GPU_RenderLine_DispCapture cfg row l).gpu = m.gpu := by
  have started : (m.startCapture l).gpu = m.gpu := by
    unfold Machine.startCapture
    split_ifs <;> rfl
  unfold Machine.GPU_RenderLine_DispCapture Machine.endCapture
  dsimp only
  split_ifs
  · exact started
  · exact started

theorem gpu_afterDisplay : (m.afterDisplay cfg core row l).gpu = m.gpu := by
  cases core with
  | GPU_MAIN => exact (gpu_clearFifo _ _ l).trans (gpu_DispCapture cfg m l row)
  | GPU_SUB =>
      change (if cfg.cur = true ∧ l = 190 then m.drawMouse else m).gpu = m.gpu
      split_ifs <;> rfl

theorem settled_setupFirstLine :
    ((m.setupFirstLine core l).gpu other).settled = (m.gpu other).settled := by
  unfold Machine.setupFirstLine
  split_ifs
  · exact settled_setGpu m core other (settled_refreshAffineStartRegs _)
  · rfl

theorem settled_renderFully :
    ((m.renderFully cfg core l).gpu other).settled =
      if other = core then refreshed (m.gpu core).settled else (m.gpu other).settled := by
  unfold Machine.renderFully Machine.GPU_RenderLine_MasterBrightness
  dsimp only
  rw [settled_storeRow,gpu_afterDisplay,settled_storeRow]
  unfold Machine.setGpu
  by_cases here : other = core
  · rw [if_pos here,here]
    dsimp only
    rw [update_self,settled_RenderLine_layer,settled_prepareLine]
  · rw [if_neg here]
    dsimp only
    rw [update_of_ne here]

theorem settled_RenderLine (skip : Bool) :
    ((m.GPU_RenderLine cfg core l skip).gpu other).settled = (m.gpu other).settled ∨
      ((m.GPU_RenderLine cfg core l skip).gpu other).settled =
        refreshed (m.gpu other).settled := by
  have setup (other : Core) := settled_setupFirstLine m core other l
  have named : (((m.setupFirstLine core l).setCurrLine core l).gpu other).settled =
      (m.gpu other).settled :=
    (settled_setCurrLine (m.setupFirstLine core l) core other l).trans (setup other)
  unfold Machine.GPU_RenderLine
  dsimp only
  split_ifs
  · exact Or.inl rfl
  · left
    rw [gpu_clearFifo]
    exact named
  · exact Or.inl ((settled_storeRow _ core other _).trans named)
  · rw [settled_renderFully]
    by_cases here : other = core
    · right
      rw [if_pos here,setup,here]
    · left
      rw [if_neg here,setup]

end

def enteringLine (cfg : Config) (m : Machine) (core : Core) (l : Nat) : GPU :=
  prepareLine cfg ((m.setupFirstLine core l).gpu core) l

theorem settled_enteringLine (cfg : Config) (m : Machine) (core : Core) (l : Nat) :
    (enteringLine cfg m core l).settled = refreshed (m.gpu core).settled := by
  unfold enteringLine
  rw [settled_prepareLine,settled_setupFirstLine]

theorem settled_step (cfg : Config) (m : Machine) (op : Op) (core : Core) :
    ((m.step cfg op).gpu core).settled = (m.gpu core).settled ∨
      ((m.step cfg op).gpu core).settled = refreshed (m.gpu core).settled ∨
      ∃ val, op = .write core val ∧
        (m.step cfg op).gpu core = (m.gpu core).write cfg val := by
  cases op with
  | write other val =>
      by_cases here : core = other
      · right
        right
        refine ⟨val,by rw [here],?_⟩
        rw [here]
        exact update_self _ _ _
      · left
        exact congrArg GPU.settled (update_of_ne here _ _)
  | DISPCAPCNT val => exact Or.inl rfl
  | DISPCAPCNT_low val => exact Or.inl rfl
  | DISPCAPCNT_high val => exact Or.inl rfl
  | DISPCAPCNT_byte i val => exact Or.inl rfl
  | memory vid => exact Or.inl rfl
  | fifo disp_fifo => exact Or.inl rfl
  | mouse pos => exact Or.inl rfl
  | GPU_RenderLine other l skip =>
      rcases settled_RenderLine cfg m other core l.val skip with kept | moved
      · exact Or.inl kept
      · exact Or.inr (Or.inl moved)

structure ListsCurrent (cfg : Config) (gpu : GPU) : Prop where
  layers : gpu.LayersEnable = GPU.layerEnabled cfg gpu.core gpu.dispCnt
  lists : gpu.BGs = GPU.sortedBGs gpu.LayersEnable gpu.dispx_st.dispx_BGxCNT

structure WindowsCurrent (gpu : GPU) : Prop where
  windows : gpu.WIN_ENABLED = gpu.dispCnt.Win_Enable
  objects : gpu.WINOBJ_ENABLED = gpu.dispCnt.WinOBJ_Enable
  used : gpu.setFinalColor_funcNum.WINDOW =
    (gpu.WIN_ENABLED 0 || gpu.WIN_ENABLED 1 || gpu.WINOBJ_ENABLED)
  tables : ∀ win, gpu.need_update_winh win = true ∨
    gpu.h_win win = windowTable (gpu.WINH0 win) (gpu.WINH1 win)

structure EffectsCurrent (gpu : GPU) : Prop where
  control : gpu.BLDCNT = gpu.dispx_st.BLDCNT
  func : gpu.setFinalColor_funcNum.FUNC = GPU.blendFunc gpu.BLDCNT

def BackgroundCurrent (gpu : GPU) (num : Fin 4) : Prop :=
  gpu.background num = GPU.backgroundOf gpu.core gpu.dispCnt (gpu.bgcnt num) num

structure PlacesCurrent (gpu : GPU) : Prop where
  backgrounds : ∀ num, BackgroundCurrent gpu num
  tiles : gpu.sprBoundary =
    if gpu.dispCnt.OBJ_Tile_mapping then 5 + gpu.dispCnt.OBJ_Tile_1D_Bound.val else 5
  mapping : gpu.spriteRenderMode =
    if gpu.dispCnt.OBJ_Tile_mapping then .SPRITE_1D else .SPRITE_2D
  bitmaps : gpu.sprBMPBoundary =
    if gpu.dispCnt.OBJ_BMP_1D_Bound ∧ gpu.core = .GPU_MAIN then 8 else 7

/-- A byte store to DISPCNT, BGxCNT or BLDCNT leaves the register and what the
engine knows of it the same. -/
def StoreCondition (gpu : GPU) : Write → Prop
  | .DISPCNT_byte i val => setByte gpu.dispCnt.val i.val val = gpu.dispCnt.val
  | .BGxCNT_byte num i val => setByte (gpu.bgcnt num).val i.val val = (gpu.bgcnt num).val
  | .BLDCNT_byte i val =>
      (gpu.writeBLDCNT_byte i val).BLDCNT = setByte gpu.dispx_st.BLDCNT i.val val
  | _ => True

def Write.setsDISPCNT : Write → Prop
  | .DISPCNT _ | .DISPCNT_low _ | .DISPCNT_high _ => True
  | _ => False

section

variable (cfg : Config) (gpu : GPU)

theorem storeDISPCNT_same {p : u32} (same : p = gpu.dispCnt.val) : gpu.storeDISPCNT p = gpu := by
  rw [same]
  rfl

theorem storeBGxCNT_same {num : Fin 4} {p : u16} (same : p = (gpu.bgcnt num).val) :
    gpu.storeBGxCNT num p = gpu := by
  rw [same]
  unfold GPU.storeBGxCNT GPU.bgcnt
  rw [update_eq_self]

variable (num : Fin 4)

variable (p : u16)

theorem listsCurrent_setBGProp :
    ListsCurrent cfg (gpu.GPU_setBGProp cfg num p) := ⟨rfl,rfl⟩

theorem windowsCurrent_setBGProp {gpu : GPU} (current : WindowsCurrent gpu) (num : Fin 4)
    (p : u16) : WindowsCurrent (gpu.GPU_setBGProp cfg num p) :=
  ⟨current.windows,current.objects,current.used,current.tables⟩

theorem effectsCurrent_setBGProp {gpu : GPU} (current : EffectsCurrent gpu) (num : Fin 4)
    (p : u16) : EffectsCurrent (gpu.GPU_setBGProp cfg num p) :=
  ⟨current.control,current.func⟩

theorem background_setBGProp :
    (gpu.GPU_setBGProp cfg num p).background =
      update gpu.background num (GPU.backgroundOf gpu.core gpu.dispCnt ⟨p⟩ num) := rfl

theorem bgcnt_setBGProp :
    (gpu.GPU_setBGProp cfg num p).bgcnt = update gpu.bgcnt num ⟨p⟩ := rfl

theorem backgroundCurrent_setBGProp :
    BackgroundCurrent (gpu.GPU_setBGProp cfg num p) num := by
  unfold BackgroundCurrent
  rw [background_setBGProp,bgcnt_setBGProp,update_self,update_self]
  rfl

theorem backgroundCurrent_setBGProp_of_ne {gpu : GPU} {num other : Fin 4}
    (apart : other ≠ num) (current : BackgroundCurrent gpu other) :
    BackgroundCurrent (gpu.GPU_setBGProp cfg num p) other := by
  unfold BackgroundCurrent
  rw [background_setBGProp,bgcnt_setBGProp,update_of_ne apart,
    update_of_ne apart]
  exact current

theorem placesCurrent_setBGProp {gpu : GPU} (current : PlacesCurrent gpu) (num : Fin 4)
    (p : u16) : PlacesCurrent (gpu.GPU_setBGProp cfg num p) := by
  refine ⟨?_,current.tiles,current.mapping,current.bitmaps⟩
  intro other
  by_cases here : other = num
  · rw [here]
    exact backgroundCurrent_setBGProp cfg gpu num p
  · exact backgroundCurrent_setBGProp_of_ne cfg p here (current.backgrounds other)

theorem listsCurrent_setVideoProp (p : u32) :
    ListsCurrent cfg (gpu.GPU_setVideoProp cfg p) :=
  listsCurrent_setBGProp cfg _ 0 _

theorem windowsCurrent_setVideoProp {gpu : GPU} (current : WindowsCurrent gpu) (p : u32) :
    WindowsCurrent (gpu.GPU_setVideoProp cfg p) := by
  have base : WindowsCurrent
      ((((gpu.storeDISPCNT p).setWindowsEnabled ⟨p⟩).SetupFinalPixelBlitter).setDisplay ⟨p⟩) :=
    ⟨rfl,rfl,rfl,current.tables⟩
  unfold GPU.GPU_setVideoProp
  apply windowsCurrent_setBGProp
  apply windowsCurrent_setBGProp
  apply windowsCurrent_setBGProp
  apply windowsCurrent_setBGProp
  exact base

theorem effectsCurrent_setVideoProp {gpu : GPU} (current : EffectsCurrent gpu) (p : u32) :
    EffectsCurrent (gpu.GPU_setVideoProp cfg p) := by
  have base : EffectsCurrent
      ((((gpu.storeDISPCNT p).setWindowsEnabled ⟨p⟩).SetupFinalPixelBlitter).setDisplay ⟨p⟩) :=
    ⟨current.control,rfl⟩
  unfold GPU.GPU_setVideoProp
  apply effectsCurrent_setBGProp
  apply effectsCurrent_setBGProp
  apply effectsCurrent_setBGProp
  apply effectsCurrent_setBGProp
  exact base

theorem placesCurrent_setVideoProp (p : u32) :
    PlacesCurrent (gpu.GPU_setVideoProp cfg p) := by
  have three (gpu : GPU) (p : u16) := backgroundCurrent_setBGProp cfg gpu 3 p
  have two (gpu : GPU) (p : u16) := backgroundCurrent_setBGProp cfg gpu 2 p
  have one (gpu : GPU) (p : u16) := backgroundCurrent_setBGProp cfg gpu 1 p
  have zero (gpu : GPU) (p : u16) := backgroundCurrent_setBGProp cfg gpu 0 p
  have past {gpu : GPU} {other : Fin 4} (num : Fin 4) (p : u16) (apart : other ≠ num)
      (current : BackgroundCurrent gpu other) :=
    backgroundCurrent_setBGProp_of_ne cfg p apart current
  refine ⟨?_,rfl,rfl,rfl⟩
  unfold GPU.GPU_setVideoProp
  intro num
  have numbers : num = 0 ∨ num = 1 ∨ num = 2 ∨ num = 3 := by omega
  rcases numbers with rfl | rfl | rfl | rfl
  · exact zero _ _
  · exact past 0 _ (by omega) (one _ _)
  · exact past 0 _ (by omega) (past 1 _ (by omega) (two _ _))
  · exact past 0 _ (by omega) (past 1 _ (by omega) (past 2 _ (by omega) (three _ _)))

end

/-! ### Writes keep it current -/

section

variable (cfg : Config) {gpu : GPU}

variable {val : Write}

theorem listsCurrent_write (current : ListsCurrent cfg gpu)
    (cond : StoreCondition gpu val) : ListsCurrent cfg (gpu.write cfg val) := by
  cases val with
  | DISPCNT val => exact listsCurrent_setVideoProp cfg gpu _
  | DISPCNT_low val => exact listsCurrent_setVideoProp cfg gpu _
  | DISPCNT_high val => exact listsCurrent_setVideoProp cfg gpu _
  | DISPCNT_byte i val =>
      change ListsCurrent cfg (gpu.storeDISPCNT _)
      rw [storeDISPCNT_same gpu cond]
      exact current
  | BGxCNT num val => exact listsCurrent_setBGProp cfg gpu num val
  | BGxCNT_byte num i val =>
      change ListsCurrent cfg (gpu.storeBGxCNT num _)
      rw [storeBGxCNT_same gpu cond]
      exact current
  | BLDCNT_byte i val =>
      change ListsCurrent cfg (gpu.writeBLDCNT_byte i val)
      unfold GPU.writeBLDCNT_byte
      dsimp only
      split
      · exact ⟨current.layers,current.lists⟩
      · exact ⟨current.layers,current.lists⟩
  | _ => exact ⟨current.layers,current.lists⟩

theorem windowsCurrent_setWINxH0 (current : WindowsCurrent gpu) (win : Fin 2) (val : u8) :
    WindowsCurrent (gpu.GPU_setWINxH0 win val) := by
  refine ⟨current.windows,current.objects,current.used,?_⟩
  intro other
  change update gpu.need_update_winh win true other = true ∨
    gpu.h_win other = windowTable (update gpu.WINH0 win val other) (gpu.WINH1 other)
  by_cases here : other = win
  · left
    rw [here,update_self]
  · rw [update_of_ne here,update_of_ne here]
    exact current.tables other

theorem windowsCurrent_setWINxH1 (current : WindowsCurrent gpu) (win : Fin 2) (val : u8) :
    WindowsCurrent (gpu.GPU_setWINxH1 win val) := by
  refine ⟨current.windows,current.objects,current.used,?_⟩
  intro other
  change update gpu.need_update_winh win true other = true ∨
    gpu.h_win other = windowTable (gpu.WINH0 other) (update gpu.WINH1 win val other)
  by_cases here : other = win
  · left
    rw [here,update_self]
  · rw [update_of_ne here,update_of_ne here]
    exact current.tables other

theorem windowsCurrent_write (current : WindowsCurrent gpu)
    (cond : StoreCondition gpu val) : WindowsCurrent (gpu.write cfg val) := by
  cases val with
  | DISPCNT val => exact windowsCurrent_setVideoProp cfg current _
  | DISPCNT_low val => exact windowsCurrent_setVideoProp cfg current _
  | DISPCNT_high val => exact windowsCurrent_setVideoProp cfg current _
  | DISPCNT_byte i val =>
      change WindowsCurrent (gpu.storeDISPCNT _)
      rw [storeDISPCNT_same gpu cond]
      exact current
  | BGxCNT num val => exact windowsCurrent_setBGProp cfg current num val
  | WINxH win val => exact windowsCurrent_setWINxH1 (windowsCurrent_setWINxH0 current win _) win _
  | WINxH0 win val => exact windowsCurrent_setWINxH0 current win val
  | WINxH1 win val => exact windowsCurrent_setWINxH1 current win val
  | BLDCNT val => exact ⟨current.windows,current.objects,rfl,current.tables⟩
  | BLDCNT_byte i val =>
      change WindowsCurrent (gpu.writeBLDCNT_byte i val)
      unfold GPU.writeBLDCNT_byte
      dsimp only
      split
      · exact ⟨current.windows,current.objects,rfl,current.tables⟩
      · exact ⟨current.windows,current.objects,rfl,current.tables⟩
  | _ => exact ⟨current.windows,current.objects,current.used,current.tables⟩

theorem effectsCurrent_write (current : EffectsCurrent gpu)
    (cond : StoreCondition gpu val) : EffectsCurrent (gpu.write cfg val) := by
  cases val with
  | DISPCNT val => exact effectsCurrent_setVideoProp cfg current _
  | DISPCNT_low val => exact effectsCurrent_setVideoProp cfg current _
  | DISPCNT_high val => exact effectsCurrent_setVideoProp cfg current _
  | BGxCNT num val => exact effectsCurrent_setBGProp cfg current num val
  | BLDCNT val => exact ⟨rfl,rfl⟩
  | BLDCNT_byte i val =>
      refine ⟨cond,?_⟩
      change (gpu.writeBLDCNT_byte i val).setFinalColor_funcNum.FUNC =
        GPU.blendFunc (gpu.writeBLDCNT_byte i val).BLDCNT
      unfold GPU.writeBLDCNT_byte
      dsimp only
      split
      · rfl
      · rfl
  | _ => exact ⟨current.control,current.func⟩

theorem placesCurrent_write (current : PlacesCurrent gpu)
    (cond : StoreCondition gpu val) : PlacesCurrent (gpu.write cfg val) := by
  cases val with
  | DISPCNT val => exact placesCurrent_setVideoProp cfg gpu _
  | DISPCNT_low val => exact placesCurrent_setVideoProp cfg gpu _
  | DISPCNT_high val => exact placesCurrent_setVideoProp cfg gpu _
  | DISPCNT_byte i val =>
      change PlacesCurrent (gpu.storeDISPCNT _)
      rw [storeDISPCNT_same gpu cond]
      exact current
  | BGxCNT num val => exact placesCurrent_setBGProp cfg current num val
  | BGxCNT_byte num i val =>
      change PlacesCurrent (gpu.storeBGxCNT num _)
      rw [storeBGxCNT_same gpu cond]
      exact current
  | BLDCNT_byte i val =>
      change PlacesCurrent (gpu.writeBLDCNT_byte i val)
      unfold GPU.writeBLDCNT_byte
      dsimp only
      split
      · exact ⟨current.backgrounds,current.tiles,current.mapping,current.bitmaps⟩
      · exact ⟨current.backgrounds,current.tiles,current.mapping,current.bitmaps⟩
  | _ => exact ⟨current.backgrounds,current.tiles,current.mapping,current.bitmaps⟩

end

theorem listsCurrent_settled (cfg : Config) (gpu : GPU) :
    ListsCurrent cfg gpu.settled ↔ ListsCurrent cfg gpu :=
  ⟨fun current => ⟨current.layers,current.lists⟩, fun current => ⟨current.layers,current.lists⟩⟩

theorem windowsCurrent_settled (gpu : GPU) : WindowsCurrent gpu.settled ↔ WindowsCurrent gpu :=
  ⟨fun current => ⟨current.windows,current.objects,current.used,current.tables⟩,
    fun current => ⟨current.windows,current.objects,current.used,current.tables⟩⟩

theorem effectsCurrent_settled (gpu : GPU) : EffectsCurrent gpu.settled ↔ EffectsCurrent gpu :=
  ⟨fun current => ⟨current.control,current.func⟩, fun current => ⟨current.control,current.func⟩⟩

theorem placesCurrent_settled (gpu : GPU) : PlacesCurrent gpu.settled ↔ PlacesCurrent gpu :=
  ⟨fun current => ⟨current.backgrounds,current.tiles,current.mapping,current.bitmaps⟩,
    fun current => ⟨current.backgrounds,current.tiles,current.mapping,current.bitmaps⟩⟩

theorem refresh_winh_cases (gpu : GPU) (win : Fin 2) :
    refresh_winh gpu win = gpu ∨
      refresh_winh gpu win = { gpu with
        need_update_winh := update gpu.need_update_winh win false
        h_win := update gpu.h_win win
          (windowTable (gpu.WINH0 win) (gpu.WINH1 win)) } := by
  unfold refresh_winh update_winh
  split_ifs
  · exact Or.inr rfl
  · exact Or.inl rfl
  · exact Or.inl rfl

theorem dispx_st_refresh_winh (gpu : GPU) (win : Fin 2) :
    (refresh_winh gpu win).dispx_st = gpu.dispx_st := by
  rcases refresh_winh_cases gpu win with kept | filled
  · rw [kept]
  · rw [filled]

theorem BLDCNT_enteringLine (cfg : Config) (m : Machine) (core : Core) (l : Nat) :
    (enteringLine cfg m core l).dispx_st.BLDCNT = (m.gpu core).dispx_st.BLDCNT := by
  have same := congrArg (fun gpu => gpu.dispx_st.BLDCNT) (settled_enteringLine cfg m core l)
  rw [refreshed,dispx_st_refresh_winh,dispx_st_refresh_winh] at same
  exact same

theorem windowsCurrent_refresh_winh {gpu : GPU} (current : WindowsCurrent gpu) (win : Fin 2) :
    WindowsCurrent (refresh_winh gpu win) := by
  rcases refresh_winh_cases gpu win with kept | filled
  · rw [kept]
    exact current
  · rw [filled]
    refine ⟨current.windows,current.objects,current.used,?_⟩
    intro other
    change update gpu.need_update_winh win false other = true ∨
      update gpu.h_win win _ other = windowTable (gpu.WINH0 other) (gpu.WINH1 other)
    by_cases here : other = win
    · right
      rw [here,update_self]
    · rw [update_of_ne here,update_of_ne here]
      exact current.tables other

structure KeptByEngine (cfg : Config) (holds : GPU → Prop) : Prop where
  settled : ∀ gpu, holds gpu.settled ↔ holds gpu
  refresh : ∀ gpu win, holds gpu → holds (refresh_winh gpu win)
  write : ∀ gpu val, StoreCondition gpu val → holds gpu → holds (gpu.write cfg val)

def EngineStores (core : Core) (m : Machine) (op : Op) : Prop :=
  ∀ val, op = .write core val → StoreCondition (m.gpu core) val

theorem core_setBGProp (cfg : Config) (gpu : GPU) (num : Fin 4) (p : u16) :
    (gpu.GPU_setBGProp cfg num p).core = gpu.core := rfl

theorem core_setVideoProp (cfg : Config) (gpu : GPU) (p : u32) :
    (gpu.GPU_setVideoProp cfg p).core = gpu.core := by
  unfold GPU.GPU_setVideoProp
  dsimp only
  rw [core_setBGProp,core_setBGProp,core_setBGProp,core_setBGProp]
  rfl

theorem core_write (cfg : Config) (gpu : GPU) (val : Write) :
    (gpu.write cfg val).core = gpu.core := by
  cases val with
  | DISPCNT val => exact core_setVideoProp cfg gpu _
  | DISPCNT_low val => exact core_setVideoProp cfg gpu _
  | DISPCNT_high val => exact core_setVideoProp cfg gpu _
  | BLDCNT_byte i val =>
      change (gpu.writeBLDCNT_byte i val).core = gpu.core
      unfold GPU.writeBLDCNT_byte
      dsimp only
      split
      · rfl
      · rfl
  | _ => rfl

theorem core_refresh_winh (gpu : GPU) (win : Fin 2) : (refresh_winh gpu win).core = gpu.core := by
  rcases refresh_winh_cases gpu win with kept | filled
  · rw [kept]
  · rw [filled]

theorem core_step (cfg : Config) (m : Machine) (op : Op) (core : Core) :
    ((m.step cfg op).gpu core).core = (m.gpu core).core := by
  have field (gpu : GPU) : gpu.settled.core = gpu.core := rfl
  rcases settled_step cfg m op core with same | moved | ⟨val,_written,res⟩
  · exact (field _).symm.trans ((congrArg GPU.core same).trans (field _))
  · rw [← field,moved,refreshed,core_refresh_winh,core_refresh_winh]
    rfl
  · rw [res,core_write]

theorem core_run (cfg : Config) (m : Machine) (ops : List Op) (core : Core) :
    ((Run.final (Machine.step cfg) m ops).gpu core).core = (m.gpu core).core :=
  Run.observe_final (fun m : Machine => (m.gpu core).core)
    (fun op _listed m => core_step cfg m op core) m

theorem keptByEngine_lists (cfg : Config) :
    KeptByEngine cfg (ListsCurrent cfg) := by
  refine ⟨listsCurrent_settled cfg,?_,?_⟩
  · intro gpu win current
    rcases refresh_winh_cases gpu win with kept | filled
    · rw [kept]
      exact current
    · rw [filled]
      exact ⟨current.layers,current.lists⟩
  · exact fun _ _ cond current => listsCurrent_write cfg current cond

theorem keptByEngine_windows (cfg : Config) : KeptByEngine cfg WindowsCurrent :=
  ⟨windowsCurrent_settled,fun _ win current => windowsCurrent_refresh_winh current win,
    fun _ _ cond current => windowsCurrent_write cfg current cond⟩

theorem keptByEngine_effects (cfg : Config) : KeptByEngine cfg EffectsCurrent := by
  refine ⟨effectsCurrent_settled,?_,?_⟩
  · intro gpu win current
    rcases refresh_winh_cases gpu win with kept | filled
    · rw [kept]
      exact current
    · rw [filled]
      exact ⟨current.control,current.func⟩
  · exact fun _ _ cond current => effectsCurrent_write cfg current cond

theorem keptByEngine_places (cfg : Config) : KeptByEngine cfg PlacesCurrent := by
  refine ⟨placesCurrent_settled,?_,?_⟩
  · intro gpu win current
    rcases refresh_winh_cases gpu win with kept | filled
    · rw [kept]
      exact current
    · rw [filled]
      exact ⟨current.backgrounds,current.tiles,current.mapping,current.bitmaps⟩
  · exact fun _ _ cond current => placesCurrent_write cfg current cond

namespace KeptByEngine

variable {cfg : Config} {holds : GPU → Prop} (kept : KeptByEngine cfg holds)

include kept

theorem of_settled {gpu other : GPU} (same : gpu.settled = other.settled) (current : holds other) :
    holds gpu := by
  rw [← kept.settled,same,kept.settled]
  exact current

theorem step {core : Core} {m : Machine} {op : Op} (current : holds (m.gpu core))
    (stores : EngineStores core m op) : holds ((m.step cfg op).gpu core) := by
  rcases settled_step cfg m op core with same | moved | ⟨val,written,res⟩
  · exact kept.of_settled same current
  · rw [← kept.settled,moved]
    exact kept.refresh _ 1 (kept.refresh _ 0 ((kept.settled _).mpr current))
  · rw [res]
    exact kept.write _ val (stores val written) current

theorem entering {core : Core} {m : Machine} (current : holds (m.gpu core)) (l : Nat) :
    holds (enteringLine cfg m core l) := by
  rw [← kept.settled,settled_enteringLine]
  exact kept.refresh _ 1 (kept.refresh _ 0 ((kept.settled _).mpr current))

theorem run {core : Core} {m : Machine} {ops : List Op} (current : holds (m.gpu core))
    (stores : Run.Guarded (Machine.step cfg) (EngineStores core) m ops) :
    holds ((Run.final (Machine.step cfg) m ops).gpu core) := by
  have preserved (m : Machine) (op : Op) (current : holds (m.gpu core))
      (stores : EngineStores core m op) : holds ((m.step cfg op).gpu core) :=
    kept.step current stores
  exact (Run.always_of_guarded preserved current stores).last

end KeptByEngine

end Desmume.Gpu
