/-
The colour of a pixel is that of the frontmost layer.

Without colour effects a line is painted layer by layer in the order of the
lists, each layer over the pixels that its windows admit.
-/

import Desmume.Gpu.CaptureFrames
import Desmume.Gpu.ObjectLine

namespace Desmume.Gpu

open Function (update update_of_ne update_self)

open Frontmost

/-- The test of a coordinate against two bounds, wrapping around when they are
in the other order. -/
def insideBounds (start stop : u8) (v : Nat) : Prop :=
  if stop.toNat < start.toNat then ¬(v < start.toNat ∧ stop.toNat < v)
  else ¬(v < start.toNat ∨ stop.toNat ≤ v)

instance (start stop : u8) (v : Nat) : Decidable (insideBounds start stop v) :=
  inferInstanceAs (Decidable (if stop.toNat < start.toNat then
    ¬(v < start.toNat ∧ stop.toNat < v) else ¬(v < start.toNat ∨ stop.toNat ≤ v)))

def WindowContains (gpu : GPU) (win : Fin 2) (x l : Nat) : Prop :=
  gpu.dispCnt.Win_Enable win = true ∧
    insideBounds (gpu.WINH0 win) (gpu.WINH1 win) x ∧
    insideBounds (gpu.WINV0 win) (gpu.WINV1 win) l

instance (gpu : GPU) (win : Fin 2) (x l : Nat) : Decidable (WindowContains gpu win x l) :=
  inferInstanceAs (Decidable (_ ∧ _ ∧ _))

def ObjectWindowContains (gpu : GPU) (vid : VideoMemory) (x : Nat) : Prop :=
  gpu.dispCnt.WinOBJ_Enable = true ∧ gpu.dispCnt.Layer_Enable 4 = true ∧
    ObjectWindowAt gpu vid x

def windowsUsed (gpu : GPU) : Bool :=
  gpu.dispCnt.Win_Enable 0 || gpu.dispCnt.Win_Enable 1 || gpu.dispCnt.WinOBJ_Enable

open scoped Classical in
noncomputable def controlAt (gpu : GPU) (video : VideoMemory) (x l : Nat) : Option WindowControl :=
  if WindowContains gpu 0 x l then some (gpu.WININ 0)
  else if WindowContains gpu 1 x l then some (gpu.WININ 1)
  else if ObjectWindowContains gpu video x then some gpu.WINOBJ
  else if windowsUsed gpu then some gpu.WINOUT
  else none

def Admitted (gpu : GPU) (vid : VideoMemory) (l : Nat) (layer : Fin 6) (x : Nat) : Prop :=
  ∀ control, controlAt gpu vid x l = some control → control.admits layer = true

/-- An opaque pixel of an enabled layer that is admitted, with its place: by
priority, the objects before the backgrounds, these by their number. -/
inductive Visible (gpu : GPU) (vid : VideoMemory) (l x : Nat) : Nat → u16 → Prop
  | BG (num : Fin 4) (color : u16) (enabled : gpu.dispCnt.Layer_Enable num.castSucc = true)
      (admitted : Admitted gpu vid l (bgLayer num) x)
      (drawn : (x, color) ∈ modeRender gpu vid num) :
      Visible gpu vid l x ((gpu.bgcnt num).Priority.val * 5 + 1 + num.val) color
  | OBJ (i : Nat) (color : u16) (enabled : gpu.dispCnt.Layer_Enable 4 = true)
      (admitted : Admitted gpu vid l 4 x) (seen : ObjectSeen gpu vid x i color) :
      Visible gpu vid l x (objectPriority gpu vid i * 5) color

/-- The pixel has the colour of the frontmost visible pixel, or the backdrop's. -/
def PixelRight (gpu : GPU) (vid : VideoMemory) (l x : Nat) (pixel : u16) : Prop :=
  (∃ depth color, Visible gpu vid l x depth color ∧
      (∀ other behind, Visible gpu vid l x other behind → depth ≤ other) ∧
      pixel &&& (0x7FFF : u16) = color &&& (0x7FFF : u16)) ∨
    ((∀ depth color, ¬Visible gpu vid l x depth color) ∧
      pixel &&& (0x7FFF : u16) = backdrop_color gpu vid)

theorem windowTable_iff (start stop : u8) (x : Nat) :
    windowTable start stop x = decide (insideBounds start stop x) := by
  unfold windowTable insideBounds
  by_cases wraps : stop < start
  · have order : stop.toNat < start.toNat := wraps
    rw [if_pos wraps]
    simp only [if_pos order]
    split_ifs with first second
    · exact (decide_eq_true (by omega)).symm
    · exact (decide_eq_false (by omega)).symm
    · exact (decide_eq_true (by omega)).symm
  · have order : ¬stop.toNat < start.toNat := wraps
    rw [if_neg wraps]
    simp only [if_neg order]
    split_ifs with first second
    · exact (decide_eq_false (by omega)).symm
    · exact (decide_eq_true (by omega)).symm
    · exact (decide_eq_false (by omega)).symm

theorem need_update_refreshed (gpu : GPU) {win : Fin 2} (enabled : gpu.WIN_ENABLED win = true) :
    (refreshed gpu).need_update_winh win = false := by
  have clear (gpu : GPU) {win : Fin 2} (enabled : gpu.WIN_ENABLED win = true) :
      (refresh_winh gpu win).need_update_winh win = false := by
    unfold refresh_winh update_winh
    rw [if_pos enabled]
    split_ifs with needed
    · exact update_self _ _ _
    · exact eq_false_of_ne_true needed
  have stays (gpu : GPU) (first second : Fin 2) (clear : gpu.need_update_winh first = false) :
      (refresh_winh gpu second).need_update_winh first = false := by
    rcases refresh_winh_cases gpu second with kept | filled
    · rw [kept]
      exact clear
    · rw [filled]
      change update gpu.need_update_winh second false first = false
      by_cases here : first = second
      · rw [here,update_self]
      · rw [update_of_ne here]
        exact clear
  have num : win = 0 ∨ win = 1 := by omega
  unfold refreshed
  rcases num with rfl | rfl
  · exact stays _ 0 1 (clear gpu enabled)
  · apply clear
    rcases refresh_winh_cases gpu 0 with kept | filled
    · rw [kept]
      exact enabled
    · rw [filled]
      exact enabled

theorem WIN_ENABLED_refresh_winh (gpu : GPU) (win : Fin 2) :
    (refresh_winh gpu win).WIN_ENABLED = gpu.WIN_ENABLED := by
  rcases refresh_winh_cases gpu win with kept | filled
  · rw [kept]
  · rw [filled]

theorem curr_win_setup_windows (gpu : GPU) (l : Nat) (win : Fin 2) :
    (setup_windows (setup_windows gpu l 0) l 1).curr_win win =
      (gpu.WIN_ENABLED win &&
        decide (insideBounds (gpu.WINV0 win) (gpu.WINV1 win) l)) := by
  have side (start stop : u8) :
      (!decide (if stop.toNat < start.toNat then l < start.toNat ∧ stop.toNat < l
        else l < start.toNat ∨ stop.toNat ≤ l)) = decide (insideBounds start stop l) := by
    rw [← decide_not]
    unfold insideBounds
    by_cases wraps : stop.toNat < start.toNat
    · simp only [if_pos wraps]
    · simp only [if_neg wraps]
  have num : win = 0 ∨ win = 1 := by omega
  rcases num with rfl | rfl
  · change (gpu.WIN_ENABLED 0 && !decide _) = _
    rw [side]
  · change (gpu.WIN_ENABLED 1 && !decide _) = _
    rw [side]
    rfl

section

variable {cfg : Config} {m : Machine} {core : Core} {l : Nat}

theorem h_win_enteringLine (current : WindowsCurrent (m.gpu core)) {win : Fin 2}
    (enabled : (enteringLine cfg m core l).WIN_ENABLED win = true) :
    (enteringLine cfg m core l).h_win win =
      windowTable ((enteringLine cfg m core l).WINH0 win)
        ((enteringLine cfg m core l).WINH1 win) := by
  have entered := (keptByEngine_windows cfg).entering current l
  have settled := settled_enteringLine cfg m core l
  have before : (m.gpu core).settled.WIN_ENABLED win = true := by
    have same := congrArg GPU.WIN_ENABLED settled
    rw [refreshed,WIN_ENABLED_refresh_winh,WIN_ENABLED_refresh_winh] at same
    exact (congrFun same win).symm.trans enabled
  have needs : (enteringLine cfg m core l).need_update_winh win = false := by
    have flags := congrArg GPU.need_update_winh settled
    exact (congrFun flags win).trans (need_update_refreshed _ before)
  exact (entered.tables win).resolve_left (by rw [needs]; exact Bool.false_ne_true)

theorem curr_win_enteringLine (win : Fin 2) :
    (enteringLine cfg m core l).curr_win win =
      ((enteringLine cfg m core l).WIN_ENABLED win &&
        decide (insideBounds ((enteringLine cfg m core l).WINV0 win)
          ((enteringLine cfg m core l).WINV1 win) l)) := by
  unfold enteringLine prepareLine
  dsimp only
  rw [curr_win_setup_windows]
  rfl

theorem withinRect_enteringLine (current : WindowsCurrent (m.gpu core)) (win : Fin 2) (x : Nat) :
    withinRect (enteringLine cfg m core l) win x = true ↔
      WindowContains (enteringLine cfg m core l) win x l := by
  have entered := (keptByEngine_windows cfg).entering current l
  have table := @h_win_enteringLine cfg m core l current win
  have vertical := @curr_win_enteringLine cfg m core l win
  have enabled := congrFun entered.windows win
  generalize enteringLine cfg m core l = gpu at table vertical enabled ⊢
  unfold withinRect WindowContains
  rw [vertical,enabled,Bool.and_eq_true,Bool.and_eq_true,decide_eq_true_iff,and_assoc]
  rw [enabled] at table
  refine and_congr_right fun used => ?_
  rw [table used,windowTable_iff,decide_eq_true_iff]
  exact and_comm

end

/-- The engine applies no colour effect to the layers, and BG0 is no 3D layer. -/
structure Plain (gpu : GPU) : Prop where
  control : gpu.BLDCNT = 0
  func : gpu.setFinalColor_funcNum.FUNC = .NoBlend
  flat : is3D gpu 0 = false

def admits (gpu : GPU) (sprWin : Nat → Bool) (layer : Fin 6) (x : Nat) (start : Bool × Bool) :
    Bool :=
  if gpu.setFinalColor_funcNum.WINDOW then (renderline_checkWindows gpu sprWin layer x start).1
  else true

def cover (gpu : GPU) (vid : VideoMemory) (line : SpriteLine) (x : Nat) : Layer → Option u16
  | .BG num =>
      if gpu.LayersEnable num.castSucc && admits gpu line.sprWin (bgLayer num) x (false, true) then
        ((modeRender gpu vid num).lookup x).map
          (fun color => (color &&& (0x7FFF : u16)) ||| (0x8000 : u16))
      else none
  | .OBJ prio =>
      if gpu.LayersEnable 4 && admits gpu line.sprWin 4 x (true, true) &&
          line.sprPrio x == prio.val then
        some (line.spr x ||| (0x8000 : u16))
      else none

section

variable {gpu : GPU} {vid : VideoMemory} {line : SpriteLine} {l x : Nat}

theorem setFinalBGColor_plain (plain : Plain gpu) (sprWin : Nat → Bool) (num : Fin 6)
    (canvas : Canvas) (color : u16) (x : Nat) :
    setFinalBGColor gpu sprWin num canvas color x =
      if admits gpu sprWin num x (false, true) then some color else none := by
  have kept : effectColor gpu canvas color x = color := by
    unfold effectColor
    rw [plain.func]
  unfold setFinalBGColor admits
  dsimp only
  rw [kept,ite_self]
  by_cases windows : gpu.setFinalColor_funcNum.WINDOW = true
  · simp only [if_pos windows]
  · simp only [if_neg windows]

theorem setFinalColorBG_dst (plain : Plain gpu) (sprWin : Nat → Bool) (num : Fin 6)
    (canvas : Canvas) (pixel : Nat × u16) :
    (setFinalColorBG gpu sprWin num canvas pixel).dst x =
      if pixel.1 = x ∧ admits gpu sprWin num x (false, true) = true then
        (pixel.2 &&& (0x7FFF : u16)) ||| (0x8000 : u16)
      else canvas.dst x := by
  obtain ⟨y,color⟩ := pixel
  unfold setFinalColorBG
  rw [setFinalBGColor_plain plain]
  dsimp only
  by_cases here : y = x
  · subst here
    by_cases admitted : admits gpu sprWin num y (false, true) = true
    · rw [if_pos admitted,if_pos (And.intro rfl admitted)]
      exact update_self _ _ _
    · have outside : ¬(y = y ∧ admits gpu sprWin num y (false, true) = true) :=
        fun both => admitted both.2
      rw [if_neg admitted,if_neg outside]
  · have outside : ¬(y = x ∧ admits gpu sprWin num x (false, true) = true) :=
      fun both => here both.1
    rw [if_neg outside]
    by_cases admitted : admits gpu sprWin num y (false, true) = true
    · rw [if_pos admitted]
      exact update_of_ne (Ne.symm here) _ _
    · rw [if_neg admitted]

theorem setFinalColorBG_fold (plain : Plain gpu) (sprWin : Nat → Bool) (num : Fin 6)
    {pixels : List (Nat × u16)} (distinct : (pixels.map Prod.fst).Nodup) (canvas : Canvas) :
    (pixels.foldl (setFinalColorBG gpu sprWin num) canvas).dst x =
      (if admits gpu sprWin num x (false, true) = true then
        (pixels.lookup x).map (fun color => (color &&& (0x7FFF : u16)) ||| (0x8000 : u16))
      else none).getD (canvas.dst x) := by
  induction pixels generalizing canvas with
  | nil =>
      split_ifs <;> rfl
  | cons pixel rest ih =>
      obtain ⟨y,color⟩ := pixel
      obtain ⟨absent,later⟩ := List.nodup_cons.mp distinct
      refine (ih later _).trans ?_
      rw [setFinalColorBG_dst plain]
      by_cases admitted : admits gpu sprWin num x (false, true) = true
      · by_cases here : y = x
        · subst here
          have none : rest.lookup y = none := by
            rw [List.lookup_eq_none_iff]
            intro other member
            exact bne_iff_ne.mpr fun same => absent (List.mem_map.mpr ⟨other,member,same.symm⟩)
          rw [if_pos admitted,if_pos ⟨rfl,admitted⟩,none,List.lookup_cons_self,
            if_pos admitted]
          rfl
        · have miss : (x == y) = false := beq_eq_false_iff_ne.mpr (Ne.symm here)
          rw [if_pos admitted,if_neg (fun both => here both.1),List.lookup_cons,miss]
          rw [if_pos admitted]
      · rw [if_neg admitted,if_neg (fun both => admitted both.2),if_neg admitted]

theorem setFinalColorSpr_dst (plain : Plain gpu) (canvas : Canvas) (y : Nat) :
    (setFinalColorSpr gpu line canvas y).dst x =
      if y = x ∧ admits gpu line.sprWin 4 x (true, true) = true then
        line.spr x ||| (0x8000 : u16)
      else canvas.dst x := by
  have clear (layer : Fin 6) : blend2 gpu layer = false := by
    unfold blend2
    rw [plain.control]
    exact BitVec.getLsbD_zero
  have kept (alpha : Nat) (type : Fin 4) :
      objColor gpu canvas (line.spr y) alpha type y = line.spr y := by
    unfold objColor
    rw [plain.func]
    dsimp only
    rw [clear,if_neg (fun both => Bool.false_ne_true both.2.2),ite_self]
  have pixel : setFinalColorSpr gpu line canvas y =
      if admits gpu line.sprWin 4 y (true, true) = true then
        canvas.put 4 y (line.spr y ||| (0x8000 : u16))
      else canvas := by
    unfold setFinalColorSpr admits
    dsimp only
    rw [kept,ite_self]
    by_cases windows : gpu.setFinalColor_funcNum.WINDOW = true
    · simp only [if_pos windows]
    · simp only [if_neg windows]
  rw [pixel]
  by_cases here : y = x
  · subst here
    by_cases admitted : admits gpu line.sprWin 4 y (true, true) = true
    · rw [if_pos admitted,if_pos (And.intro rfl admitted)]
      exact update_self _ _ _
    · have outside : ¬(y = y ∧ admits gpu line.sprWin 4 y (true, true) = true) :=
        fun both => admitted both.2
      rw [if_neg admitted,if_neg outside]
  · have outside : ¬(y = x ∧ admits gpu line.sprWin 4 x (true, true) = true) :=
      fun both => here both.1
    rw [if_neg outside]
    by_cases admitted : admits gpu line.sprWin 4 y (true, true) = true
    · rw [if_pos admitted]
      exact update_of_ne (Ne.symm here) _ _
    · rw [if_neg admitted]

theorem setFinalColorSpr_fold (plain : Plain gpu) (positions : List Nat) (canvas : Canvas) :
    (positions.foldl (setFinalColorSpr gpu line) canvas).dst x =
      if x ∈ positions ∧ admits gpu line.sprWin 4 x (true, true) = true then
        line.spr x ||| (0x8000 : u16)
      else canvas.dst x := by
  induction positions generalizing canvas with
  | nil => exact (if_neg (fun both => List.not_mem_nil both.1)).symm
  | cons y rest ih =>
      refine (ih _).trans ?_
      rw [setFinalColorSpr_dst plain]
      by_cases admitted : admits gpu line.sprWin 4 x (true, true) = true
      · by_cases here : y = x
        · subst here
          simp [admitted]
        · simp [admitted,here,Ne.symm here]
      · simp [admitted]

theorem nodup_opaquePixels (pixel : Nat → Option u16) :
    ((opaquePixels pixel).map Prod.fst).Nodup := by
  unfold opaquePixels
  rw [List.map_filterMap]
  apply List.Nodup.filterMap _ List.nodup_range
  intro first second pos inFirst inSecond
  rw [Option.mem_def,Option.map_map,Option.map_eq_some_iff] at inFirst inSecond
  obtain ⟨_,_,same⟩ := inFirst
  obtain ⟨_,_,other⟩ := inSecond
  exact Eq.trans same (Eq.symm other)

theorem nodup_modeRender (gpu : GPU) (vid : VideoMemory) (num : Fin 4) :
    ((modeRender gpu vid num).map Prod.fst).Nodup := by
  unfold modeRender lineText rotBG2 extRotBG2 apply_rot_fun
  split
  · exact nodup_opaquePixels _
  · exact nodup_opaquePixels _
  · dsimp only
    split
    · exact nodup_opaquePixels _
    · exact nodup_opaquePixels _
    · exact nodup_opaquePixels _
    · exact nodup_opaquePixels _
    · exact List.nodup_nil
  · dsimp only
    split
    · exact nodup_opaquePixels _
    · exact nodup_opaquePixels _
    · exact nodup_opaquePixels _
    · exact nodup_opaquePixels _
    · exact List.nodup_nil
  · exact List.nodup_nil

theorem is3D_plain (plain : Plain gpu) (num : Fin 4) : is3D gpu num = false := by
  by_cases zero : num = 0
  · rw [zero]
    exact plain.flat
  · exact decide_eq_false (fun both => zero both.2.1)

theorem drawLayer_dst (plain : Plain gpu) (inside : x < 256) (canvas : Canvas) (layer : Layer) :
    (drawLayer gpu vid line l canvas layer).dst x =
      (cover gpu vid line x layer).getD (canvas.dst x) := by
  cases layer with
  | BG num =>
      unfold drawLayer cover
      dsimp only
      by_cases enabled : gpu.LayersEnable num.castSucc = true
      · rw [if_pos enabled,enabled,Bool.true_and]
        unfold drawBG
        dsimp only
        rw [if_neg (by rw [is3D_plain plain]; exact Bool.false_ne_true)]
        exact setFinalColorBG_fold plain _ _ (nodup_modeRender gpu vid num) _
      · rw [if_neg enabled,eq_false_of_ne_true enabled]
        rfl
  | OBJ prio =>
      unfold drawLayer cover
      dsimp only
      by_cases enabled : gpu.LayersEnable 4 = true
      · have listed : x ∈ PixelsX line prio ↔ line.sprPrio x = prio.val := by
          unfold PixelsX
          rw [List.mem_filter,List.mem_range,decide_eq_true_iff]
          exact and_iff_right inside
        rw [if_pos enabled,enabled,Bool.true_and]
        unfold drawOBJ
        rw [setFinalColorSpr_fold plain]
        by_cases admitted : admits gpu line.sprWin 4 x (true, true) = true
        · by_cases here : line.sprPrio x = prio.val
          · rw [if_pos ⟨listed.mpr here,admitted⟩,if_pos (by rw [admitted,here]; simp)]
            rfl
          · rw [if_neg (fun both => here (listed.mp both.1)),if_neg (by simp [here])]
            rfl
        · rw [if_neg (fun both => admitted both.2),if_neg (by simp [admitted])]
          rfl
      · rw [if_neg enabled,eq_false_of_ne_true enabled]
        rfl

theorem paint_drawLayer (plain : Plain gpu) (inside : x < 256) (order : List Layer)
    (canvas : Canvas) :
    (order.foldl (drawLayer gpu vid line l) canvas).dst x =
      paint (cover gpu vid line x) (canvas.dst x) order := by
  induction order generalizing canvas with
  | nil => rfl
  | cons layer rest ih =>
      refine (ih _).trans ?_
      rw [drawLayer_dst plain inside]
      rfl

end

/-! ### The order of the lists -/

def depthOf (gpu : GPU) : Layer → Nat
  | .BG num => (gpu.bgcnt num).Priority.val * 5 + 1 + num.val
  | .OBJ prio => prio.val * 5

theorem depthOf_BG (gpu : GPU) (num : Fin 4) :
    depthOf gpu (.BG num) = (gpu.bgcnt num).Priority.val * 5 + 1 + num.val := rfl

theorem depthOf_OBJ (gpu : GPU) (prio : Fin 4) : depthOf gpu (.OBJ prio) = prio.val * 5 := rfl

theorem mem_numbers (num : Fin 4) : num ∈ ([3,2,1,0] : List (Fin 4)) := by
  have values : num = 3 ∨ num = 2 ∨ num = 1 ∨ num = 0 := by omega
  simpa using values

def piece (gpu : GPU) (prio : Fin 4) : List Layer := (gpu.BGs prio).map Layer.BG ++ [Layer.OBJ prio]

section

variable {cfg : Config} {gpu : GPU} (current : ListsCurrent cfg gpu)

include current

theorem mem_BGs {prio num : Fin 4} :
    num ∈ gpu.BGs prio ↔
      gpu.LayersEnable num.castSucc = true ∧ (gpu.bgcnt num).Priority = prio := by
  rw [current.lists]
  unfold GPU.sortedBGs GPU.bgcnt
  rw [List.mem_filter,Bool.and_eq_true,beq_iff_eq]
  exact and_iff_right (mem_numbers num)

theorem depthOf_piece {prio : Fin 4} {layer : Layer} (member : layer ∈ piece gpu prio) :
    prio.val * 5 ≤ depthOf gpu layer ∧ depthOf gpu layer < prio.val * 5 + 5 := by
  rcases List.mem_append.mp member with background | object
  · obtain ⟨num,listed,rfl⟩ := List.mem_map.mp background
    obtain ⟨-,same⟩ := (mem_BGs current).mp listed
    rw [depthOf_BG,same]
    omega
  · rw [List.mem_singleton.mp object,depthOf_OBJ]
    omega

theorem piece_sorted (prio : Fin 4) :
    (piece gpu prio).Pairwise (fun far near => depthOf gpu near < depthOf gpu far) := by
  unfold piece
  rw [List.pairwise_append]
  refine ⟨?_,List.pairwise_singleton _ _,?_⟩
  · rw [List.pairwise_map]
    have numbers : (gpu.BGs prio).Pairwise (fun far near => near < far) := by
      rw [current.lists]
      apply List.Pairwise.filter
      simp
    apply numbers.imp_of_mem
    intro far near inFar inNear before
    obtain ⟨-,same⟩ := (mem_BGs current).mp inFar
    obtain ⟨-,other⟩ := (mem_BGs current).mp inNear
    rw [depthOf_BG,depthOf_BG,same,other]
    omega
  · intro far background near object
    obtain ⟨num,listed,rfl⟩ := List.mem_map.mp background
    obtain ⟨-,same⟩ := (mem_BGs current).mp listed
    rw [List.mem_singleton.mp object,depthOf_BG,depthOf_OBJ,same]
    omega

theorem paintOrder_sorted :
    (paintOrder gpu).Pairwise (fun far near => depthOf gpu near < depthOf gpu far) := by
  change (([3,2,1,0] : List (Fin 4)).flatMap (piece gpu)).Pairwise _
  rw [List.pairwise_flatMap]
  refine ⟨fun prio _member => piece_sorted current prio, ?_⟩
  have numbers : ([3,2,1,0] : List (Fin 4)).Pairwise (fun far near => near < far) := by simp
  apply numbers.imp
  intro high low before far inFar near inNear
  have above := depthOf_piece current inFar
  have below := depthOf_piece current inNear
  omega

theorem mem_paintOrder_BG (num : Fin 4) :
    Layer.BG num ∈ paintOrder gpu ↔ gpu.LayersEnable num.castSucc = true := by
  change Layer.BG num ∈ ([3,2,1,0] : List (Fin 4)).flatMap (piece gpu) ↔ _
  rw [List.mem_flatMap]
  constructor
  · rintro ⟨prio,-,member⟩
    rcases List.mem_append.mp member with background | object
    · obtain ⟨other,listed,same⟩ := List.mem_map.mp background
      injection same with number
      rw [← number]
      exact ((mem_BGs current).mp listed).1
    · cases List.mem_singleton.mp object
  · intro enabled
    refine ⟨(gpu.bgcnt num).Priority,mem_numbers _,List.mem_append_left _ ?_⟩
    exact List.mem_map.mpr ⟨num,(mem_BGs current).mpr ⟨enabled,rfl⟩,rfl⟩

omit current in
theorem mem_paintOrder_OBJ (prio : Fin 4) : Layer.OBJ prio ∈ paintOrder gpu := by
  change Layer.OBJ prio ∈ ([3,2,1,0] : List (Fin 4)).flatMap (piece gpu)
  rw [List.mem_flatMap]
  exact ⟨prio,mem_numbers prio,List.mem_append_right _ (List.mem_singleton_self _)⟩

end

theorem controlAt_none_iff (gpu : GPU) (vid : VideoMemory) (x l : Nat) :
    controlAt gpu vid x l = none ↔ windowsUsed gpu = false := by
  unfold controlAt windowsUsed
  by_cases first : WindowContains gpu 0 x l
  · rw [if_pos first,first.1]
    simp only [Bool.true_or,reduceCtorEq]
  · by_cases second : WindowContains gpu 1 x l
    · rw [if_neg first,if_pos second,second.1,Bool.or_true]
      simp only [Bool.true_or,reduceCtorEq]
    · by_cases object : ObjectWindowContains gpu vid x
      · rw [if_neg first,if_neg second,if_pos object,object.1,Bool.or_true]
        simp only [reduceCtorEq]
      · rw [if_neg first,if_neg second,if_neg object]
        split
        next used => exact iff_of_false (Option.some_ne_none _) (fun unused => Bool.false_ne_true (unused ▸ used))
        next unused => exact iff_of_true rfl (eq_false_of_ne_true unused)

structure LineReady (cfg : Config) (gpu : GPU) (vid : VideoMemory) (l : Nat) : Prop where
  lists : ListsCurrent cfg gpu
  layers : gpu.LayersEnable = gpu.dispCnt.Layer_Enable
  windows : WindowsCurrent gpu
  rectangles : ∀ win x, withinRect gpu win x = true ↔ WindowContains gpu win x l
  plain : Plain gpu
  objects : gpu.dispCnt.Layer_Enable 4 = true → WindowObjectsPlain gpu vid

section

variable {cfg : Config} {gpu : GPU} {vid : VideoMemory} {l x : Nat}
variable (ready : LineReady cfg gpu vid l)

include ready

theorem objectWindow_spriteLine :
    (gpu.WINOBJ_ENABLED && (spriteLine gpu vid).sprWin x) = true ↔
      ObjectWindowContains gpu vid x := by
  unfold spriteLine ObjectWindowContains
  rw [Bool.and_eq_true,ready.windows.objects,ready.layers]
  refine and_congr_right fun _used => ?_
  by_cases shown : gpu.dispCnt.Layer_Enable 4 = true
  · rw [if_pos shown,spriteRender_window (ready.objects shown)]
    exact (and_iff_right shown).symm
  · rw [if_neg shown]
    exact iff_of_false Bool.false_ne_true (fun both => shown both.1)

theorem windowAt_eq : windowAt gpu (spriteLine gpu vid).sprWin x = controlAt gpu vid x l := by
  have object := @objectWindow_spriteLine cfg gpu vid l x ready
  have any : anyWindow gpu = windowsUsed gpu := by
    unfold anyWindow windowsUsed
    rw [ready.windows.objects,ready.windows.windows,Bool.or_assoc,Bool.or_comm,
      Bool.or_comm (gpu.dispCnt.Win_Enable 1)]
  unfold windowAt controlAt
  rw [any]
  by_cases first : WindowContains gpu 0 x l
  · rw [if_pos ((ready.rectangles 0 x).mpr first),if_pos first]
  · rw [if_neg (fun inside => first ((ready.rectangles 0 x).mp inside)),if_neg first]
    by_cases second : WindowContains gpu 1 x l
    · rw [if_pos ((ready.rectangles 1 x).mpr second),if_pos second]
    · rw [if_neg (fun inside => second ((ready.rectangles 1 x).mp inside)),if_neg second]
      by_cases inObject : ObjectWindowContains gpu vid x
      · rw [if_pos (object.mpr inObject),if_pos inObject]
      · rw [if_neg (fun inside => inObject (object.mp inside)),if_neg inObject]

theorem admits_iff (layer : Fin 6) (start : Bool × Bool) :
    admits gpu (spriteLine gpu vid).sprWin layer x start = true ↔
      Admitted gpu vid l layer x := by
  have used : gpu.setFinalColor_funcNum.WINDOW = windowsUsed gpu := by
    unfold windowsUsed
    rw [ready.windows.used,ready.windows.windows,ready.windows.objects]
  have none := controlAt_none_iff gpu vid x l
  unfold admits renderline_checkWindows Admitted
  rw [windowAt_eq ready,used]
  cases control : controlAt gpu vid x l with
  | none =>
      rw [none.mp control]
      exact iff_of_true rfl (fun _ impossible => nomatch impossible)
  | some found =>
      have inUse : windowsUsed gpu = true := by
        rw [control] at none
        exact eq_true_of_ne_false (fun unused => nomatch none.mpr unused)
      rw [if_pos inUse]
      constructor
      · rintro admitted other same
        rw [← Option.some.inj same]
        exact admitted
      · exact fun admitted => admitted found rfl

omit ready in
theorem or_alpha (color : u16) :
    (color ||| (0x8000 : u16)) &&& (0x7FFF : u16) = color &&& (0x7FFF : u16) := by
  have apart : (0x8000 : u16) &&& (0x7FFF : u16) = 0#16 := by decide
  rw [BitVec.and_or_distrib_right,apart,BitVec.or_zero]

theorem visible_of_cover {layer : Layer} {pixel : u16} (listed : layer ∈ paintOrder gpu)
    (covers : cover gpu vid (spriteLine gpu vid) x layer = some pixel) :
    ∃ color, Visible gpu vid l x (depthOf gpu layer) color ∧
      pixel &&& (0x7FFF : u16) = color &&& (0x7FFF : u16) := by
  unfold cover at covers
  cases layer with
  | BG num =>
      obtain ⟨conditions,found⟩ := Option.ite_none_right_eq_some.mp covers
      obtain ⟨enabled,admitted⟩ := Bool.and_eq_true_iff.mp conditions
      obtain ⟨color,here,rfl⟩ := Option.map_eq_some_iff.mp found
      rw [ready.layers] at enabled
      obtain ⟨before,behind,pixels,-⟩ := List.lookup_eq_some_iff.mp here
      refine ⟨color,.BG num color enabled ((admits_iff ready _ _).mp admitted) ?_,?_⟩
      · rw [pixels]
        exact List.mem_append_right _ List.mem_cons_self
      · rw [or_alpha,BitVec.and_assoc,BitVec.and_self]
  | OBJ prio =>
      obtain ⟨conditions,found⟩ := Option.ite_none_right_eq_some.mp covers
      obtain ⟨both,here⟩ := Bool.and_eq_true_iff.mp conditions
      obtain ⟨enabled,admitted⟩ := Bool.and_eq_true_iff.mp both
      have same : (spriteLine gpu vid).sprPrio x = prio.val := eq_of_beq here
      have drawn : spriteLine gpu vid = spriteRender gpu vid .clear := if_pos enabled
      rw [ready.layers] at enabled
      rcases @spriteRender_object gpu vid x (ready.objects enabled) with
        ⟨-,bare⟩ | ⟨i,color,seen⟩
      · rw [drawn,bare] at same
        omega
      · obtain ⟨seen,priority,shown⟩ := seen
        rw [drawn,priority] at same
        refine ⟨color,?_,?_⟩
        · rw [depthOf_OBJ,← same]
          exact .OBJ i color enabled ((admits_iff ready _ _).mp admitted) seen
        · rw [← Option.some.inj found,or_alpha,drawn,shown]

theorem cover_of_visible {depth : Nat} {color : u16} (visible : Visible gpu vid l x depth color) :
    ∃ layer ∈ paintOrder gpu, depthOf gpu layer = depth ∧
      cover gpu vid (spriteLine gpu vid) x layer ≠ none := by
  cases visible with
  | BG num color enabled admitted drawn =>
      rw [← ready.layers] at enabled
      refine ⟨.BG num,(mem_paintOrder_BG ready.lists num).mpr enabled,rfl,?_⟩
      have admits := (admits_iff ready (bgLayer num) (false, true)).mpr admitted
      unfold cover
      dsimp only
      rw [if_pos (Bool.and_eq_true_iff.mpr ⟨enabled,admits⟩)]
      intro none
      have absent := List.lookup_eq_none_iff.mp (Option.map_eq_none_iff.mp none) _ drawn
      exact bne_iff_ne.mp absent rfl
  | OBJ i color enabled admitted seen =>
      have objects := ready.objects enabled
      rw [← ready.layers] at enabled
      have drawn : spriteLine gpu vid = spriteRender gpu vid .clear := if_pos enabled
      have admits := (admits_iff ready 4 (true, true)).mpr admitted
      have same : (spriteLine gpu vid).sprPrio x = objectPriority gpu vid i := by
        rw [drawn]
        rcases @spriteRender_object gpu vid x objects with ⟨bare,-⟩ | ⟨j,other,found⟩
        · exact absurd seen.here (bare i color)
        · obtain ⟨there,priority,-⟩ := found
          have forward := seen.first j other there.here
          have backward := there.first i color seen.here
          rw [priority]
          omega
      refine ⟨.OBJ (oamEntry vid gpu.core i).Priority,mem_paintOrder_OBJ _,rfl,?_⟩
      unfold cover
      dsimp only
      rw [if_pos]
      · exact nofun
      · rw [Bool.and_eq_true,Bool.and_eq_true]
        exact ⟨⟨enabled,admits⟩,beq_iff_eq.mpr same⟩

theorem backdropPixel_plain (sprWin : Nat → Bool) :
    backdropPixel gpu vid sprWin x &&& (0x7FFF : u16) = backdrop_color gpu vid := by
  have unchanged : backdropEffect gpu (backdrop_color gpu vid) = backdrop_color gpu vid := by
    unfold backdropEffect
    rw [ready.plain.func]
  have clear : backdrop_color gpu vid &&& (0x7FFF : u16) = backdrop_color gpu vid := by
    unfold backdrop_color
    rw [BitVec.and_assoc,BitVec.and_self]
  unfold backdropPixel
  dsimp only
  rw [unchanged,ite_self,ite_self]
  split
  · rw [or_alpha,clear]
  · exact clear

theorem pixelRight_of_ready (sprWin : Nat → Bool) (inside : x < 256) :
    PixelRight gpu vid l x ((GPU_RenderLine_layer gpu vid sprWin l).row x) := by
  have painted : (GPU_RenderLine_layer gpu vid sprWin l).row x =
      paint (cover gpu vid (spriteLine gpu vid) x) (backdropPixel gpu vid sprWin x)
        (paintOrder gpu) :=
    paint_drawLayer ready.plain inside (paintOrder gpu) (backdrop gpu vid sprWin)
  rw [painted]
  rcases paint_nearest (backdropPixel gpu vid sprWin x) (paintOrder_sorted ready.lists) with
    ⟨bare,same⟩ | ⟨layer,nearest⟩
  · right
    refine ⟨?_,?_⟩
    · intro depth color visible
      obtain ⟨layer,listed,-,covers⟩ := cover_of_visible ready visible
      exact covers (bare layer listed)
    · rw [same]
      exact backdropPixel_plain ready sprWin
  · left
    obtain ⟨color,visible,same⟩ := visible_of_cover ready nearest.member nearest.covers
    refine ⟨_,color,visible,?_,same⟩
    intro other behind there
    obtain ⟨far,listed,place,covers⟩ := cover_of_visible ready there
    rw [← place]
    exact nearest.nearest far listed covers

end

/-! ### Runs -/

theorem windowsCurrent_reset (core : Core) : WindowsCurrent (GPU_Reset core) := by
  have none (bit : Nat) : (0 : u32).getLsbD bit = false := BitVec.getLsbD_zero
  refine ⟨?_,(none 15).symm,rfl,fun win => Or.inr ?_⟩
  · funext win
    exact (none (13 + win.val)).symm
  · funext x
    change false = windowTable 0 0 x
    rw [windowTable_iff]
    exact (decide_eq_false (by simp [insideBounds])).symm

theorem effectsCurrent_reset (core : Core) : EffectsCurrent (GPU_Reset core) :=
  ⟨rfl,(by decide : BlendFunc.NoBlend = GPU.blendFunc 0)⟩

section

variable {cfg : Config}

theorem layerEnabled_switches {core : Core}
    (switches : ∀ layer, cfg.gpuLayerEnabled core layer = true) (cnt : DISPCNT) :
    GPU.layerEnabled cfg core cnt = cnt.Layer_Enable := by
  funext layer
  unfold GPU.layerEnabled
  rw [switches,Bool.true_xor,Bool.not_not]

theorem listsCurrent_reset {core : Core}
    (switches : ∀ layer, cfg.gpuLayerEnabled core layer = true) :
    ListsCurrent cfg (GPU_Reset core) := by
  have none (bit : Nat) : (0 : u32).getLsbD bit = false := BitVec.getLsbD_zero
  constructor
  · change _ = GPU.layerEnabled cfg core _
    rw [layerEnabled_switches switches]
    funext layer
    exact (none (8 + layer.val)).symm
  · funext prio
    rfl

variable (switches : ∀ core layer, cfg.gpuLayerEnabled core layer = true)

include switches

/-- After every run from reset in which no byte store goes behind the back of
the engine, a line without colour effects, without BG0 as the 3D layer and
without rotated window objects that do harm has at every pixel the colour of
the frontmost layer. -/
theorem layers_composed (vid : VideoMemory) (disp_fifo : DispFifo) (GPU_Screen : IoMem)
    (sprWin : Nat → Bool) (ops : List Op) (core : Core) (l : Fin 192)
    (stores : Run.Guarded (Machine.step cfg) (EngineStores core)
      (.reset vid disp_fifo GPU_Screen sprWin) ops)
    (m : Machine) (reached : m = Run.final (Machine.step cfg)
      (.reset vid disp_fifo GPU_Screen sprWin) ops) (effects : (m.gpu core).dispx_st.BLDCNT = 0)
    (flat : is3D (enteringLine cfg m core l.val) 0 = false)
    (objects : (enteringLine cfg m core l.val).dispCnt.Layer_Enable 4 = true →
      WindowObjectsPlain (enteringLine cfg m core l.val) m.video) :
    ∀ x < 256, PixelRight (enteringLine cfg m core l.val) m.video l.val x
      ((GPU_RenderLine_layer (enteringLine cfg m core l.val) m.video m.sprWin
        l.val).row x) := by
  have lists := (keptByEngine_lists cfg).run (listsCurrent_reset (switches core)) stores
  have windows := (keptByEngine_windows cfg).run (windowsCurrent_reset core) stores
  have control := (keptByEngine_effects cfg).run (effectsCurrent_reset core) stores
  rw [← reached] at lists windows control
  have reg : (enteringLine cfg m core l.val).dispx_st.BLDCNT = 0 :=
    (BLDCNT_enteringLine cfg m core l.val).trans effects
  have entered := (keptByEngine_lists cfg).entering lists l.val
  have blending := (keptByEngine_effects cfg).entering control l.val
  have ready : LineReady cfg (enteringLine cfg m core l.val) m.video l.val :=
    { lists := entered
      layers := entered.layers.trans (layerEnabled_switches (switches _) _)
      windows := (keptByEngine_windows cfg).entering windows l.val
      rectangles := withinRect_enteringLine windows
      plain :=
        { control := blending.control.trans reg
          func := by
            rw [blending.func,blending.control,reg]
            decide
          flat := flat }
      objects := objects }
  exact fun x inside => pixelRight_of_ready ready m.sprWin inside

end

/-- Every tile is filled with colour 1 of palette 1, which is red. -/
def redVideo : VideoMemory :=
  { sampleVideo with
    ARM9_LCD := fun _ => 0x11
    ARM9_VMEM := fun addr => if addr = 34 then 0x1F else 0 }

theorem windowObjectsPlain_redVideo (gpu : GPU) : WindowObjectsPlain gpu redVideo := by
  have normal (i : Nat) : (oamEntry redVideo gpu.core i).Mode ≠ 2 := by
    change (field ((0 : u8) ++ (0 : u8) : u16) 10 4 : Fin 4) ≠ 2
    decide
  constructor
  · exact fun i _inside win => absurd win (normal i)
  · exact fun i _inside x member => absurd (mode_of_window member) (normal i)

def redMachine : Machine := .reset redVideo sampleFifo (fun _ => 0) (fun _ => false)

def enableBG0 : List Op := [.write .GPU_MAIN (.DISPCNT 0x10100)]

def wordMachine : Machine := Run.final (Machine.step sampleConfig) redMachine enableBG0

theorem layers_composed_enableBG0 :
    PixelRight (enteringLine sampleConfig wordMachine .GPU_MAIN (0 : Fin 192).val)
      wordMachine.video (0 : Fin 192).val 0
      ((GPU_RenderLine_layer (enteringLine sampleConfig wordMachine .GPU_MAIN (0 : Fin 192).val)
        wordMachine.video wordMachine.sprWin (0 : Fin 192).val).row 0) := by
  have stores : Run.Guarded (Machine.step sampleConfig) (EngineStores .GPU_MAIN) redMachine
      enableBG0 := by
    refine ⟨?_,trivial⟩
    intro val same
    cases same
    trivial
  have flat : is3D (enteringLine sampleConfig wordMachine .GPU_MAIN (0 : Fin 192).val) 0 =
      false := by
    decide +kernel
  exact layers_composed (fun _ _ => rfl) redVideo sampleFifo (fun _ => 0) (fun _ => false)
    enableBG0 .GPU_MAIN 0 stores wordMachine rfl rfl flat
    (fun _ => windowObjectsPlain_redVideo _) 0 (by omega)

def enableBG0_byte : List Op :=
  [.write .GPU_MAIN (.DISPCNT 0x10000),.write .GPU_MAIN (.DISPCNT_byte 1 1)]

def byteMachine : Machine := Run.final (Machine.step sampleConfig) redMachine enableBG0_byte

theorem red_drawn : (0, (0x1F : u16)) ∈
    modeRender (enteringLine sampleConfig byteMachine .GPU_MAIN 0) redVideo 0 := by
  have text : GPU_mode2type
      (enteringLine sampleConfig byteMachine .GPU_MAIN 0).dispCnt.BG_Mode 0 = .Text := by
    decide +kernel
  unfold modeRender
  rw [text]
  unfold lineText opaquePixels
  refine List.mem_filterMap.mpr ⟨0,List.mem_range.mpr (by omega),?_⟩
  decide +kernel

theorem backdrop_shown :
    (GPU_RenderLine_layer (enteringLine sampleConfig byteMachine .GPU_MAIN 0) redVideo
      (fun _ => false) 0).row 0 = 0 := by
  decide +kernel

/-- The engine does not know of the byte, and the backdrop is seen. -/
theorem byte_enable_not_seen :
    ¬∀ (cfg : Config) (vid : VideoMemory) (disp_fifo : DispFifo) (GPU_Screen : IoMem)
      (sprWin : Nat → Bool) (ops : List Op) (core : Core) (l : Fin 192) (m : Machine),
      (∀ core layer, cfg.gpuLayerEnabled core layer = true) →
      m = Run.final (Machine.step cfg) (.reset vid disp_fifo GPU_Screen sprWin) ops →
      (m.gpu core).dispx_st.BLDCNT = 0 → is3D (enteringLine cfg m core l.val) 0 = false →
      ∀ x < 256, PixelRight (enteringLine cfg m core l.val) m.video l.val x
        ((GPU_RenderLine_layer (enteringLine cfg m core l.val) m.video m.sprWin
          l.val).row x) := by
  intro everywhere
  have right := everywhere sampleConfig redVideo sampleFifo (fun _ => 0) (fun _ => false)
    enableBG0_byte .GPU_MAIN 0 byteMachine (fun _ _ => rfl) rfl rfl (by decide +kernel) 0
    (by omega)
  have pixel : (GPU_RenderLine_layer (enteringLine sampleConfig byteMachine .GPU_MAIN 0)
      byteMachine.video byteMachine.sprWin 0).row 0 = 0 := backdrop_shown
  have unused : windowsUsed (enteringLine sampleConfig byteMachine .GPU_MAIN 0) = false := by
    decide +kernel
  have red : Visible (enteringLine sampleConfig byteMachine .GPU_MAIN 0) redVideo 0 0 1 0x1F := by
    refine .BG 0 0x1F (by decide +kernel) ?_ red_drawn
    intro control found
    rw [(controlAt_none_iff _ _ _ _).mpr unused] at found
    cases found
  have disabled (layer : Fin 5) (other : layer ≠ 0) :
      (enteringLine sampleConfig byteMachine .GPU_MAIN 0).dispCnt.Layer_Enable layer = false := by
    have all : ∀ layer : Fin 5, layer ≠ 0 →
        (enteringLine sampleConfig byteMachine .GPU_MAIN 0).dispCnt.Layer_Enable layer =
          false := by
      decide +kernel
    exact all layer other
  rcases right with ⟨depth,color,visible,-,same⟩ | ⟨bare,-⟩
  · have dark := (congrArg (fun pixel => pixel &&& (0x7FFF : u16)) pixel).symm.trans same
    cases visible with
    | BG num color enabled admitted drawn =>
        by_cases first : num = 0
        · subst first
          have one := List.inj_on_of_nodup_map (nodup_modeRender _ _ _) drawn red_drawn rfl
          injection one with _ found
          rw [found] at dark
          exact absurd dark (by decide)
        · have off := disabled num.castSucc (fun zero => first (Fin.castSucc_eq_zero_iff.mp zero))
          exact Bool.false_ne_true (off.symm.trans enabled)
    | OBJ i color enabled admitted seen =>
        exact Bool.false_ne_true ((disabled 4 (by decide)).symm.trans enabled)
  · exact bare 1 0x1F red

end Desmume.Gpu
