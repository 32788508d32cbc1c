/-
The lines of rotated and scaled backgrounds: the loops of `rot_scale_op`, and
where on the layer a line starts.

The fast path of `rot_scale_op` tests the bounds once and counts the column up.
The loop steps the fixed-point word, whose integer has twenty bits.
-/

import Desmume.Gpu.ScreenLine

namespace Desmume.Gpu

open Function (update_of_ne update_self)

/-- A call of the pixel function, with `auxX`, `auxY` and `i`. -/
abbrev Call : Type := Int × Int × Nat

def fastLoop (WRAP : Bool) (wh auxY : Int) : Nat → Nat → Int → List Call
  | 0, _, _ => []
  | left + 1, i, auxX =>
      (auxX, auxY, i) ::
        fastLoop WRAP wh auxY left (i + 1) (if WRAP then (auxX + 1) % wh else auxX + 1)

def generalLoop (WRAP : Bool) (wh ht : Int) (dx dy : u32) : Nat → Nat → u32 → u32 → List Call
  | 0, _, _, _ => []
  | left + 1, i, x, y =>
      let auxX := if WRAP then rotoInteger x % wh else rotoInteger x
      let auxY := if WRAP then rotoInteger y % ht else rotoInteger y
      let later := generalLoop WRAP wh ht dx dy left (i + 1) (x + dx) (y + dy)
      if WRAP ∨ 0 ≤ auxX ∧ auxX < wh ∧ 0 ≤ auxY ∧ auxY < ht then (auxX, auxY, i) :: later
      else later

/-- The calls of `rot_scale_op`, in order. -/
def rotScaleCalls (WRAP : Bool) (X Y : u32) (PA PC : u16) (LG : Nat) (wh ht : Int) : List Call :=
  let dx := PA.signExtend 32
  let dy := PC.signExtend 32
  let auxX := rotoInteger X
  let auxY := rotoInteger Y
  if dx = 0x100 ∧ dy = 0 ∧ (WRAP ∨ auxX + LG < wh ∧ 0 ≤ auxX ∧ auxY < ht ∧ 0 ≤ auxY) then
    if WRAP then fastLoop WRAP wh (auxY % ht) LG 0 (auxX % wh)
    else fastLoop WRAP wh auxY LG 0 auxX
  else generalLoop WRAP wh ht dx dy LG 0 X Y

theorem rotoInteger_step (x : u32) :
    ∃ turns : Int, rotoInteger (x + 0x100) = rotoInteger x + 1 - turns * 2 ^ 20 ∧
      (rotoInteger x + 1 < 2 ^ 19 → turns = 0) := by
  have inside : x.toNat < 2 ^ 32 := x.isLt
  have step : (0x100 : u32).toNat = 256 := rfl
  have field (word : u32) : rotoInteger word =
      if 2 * (word.toNat / 2 ^ 8 % 2 ^ 20) < 2 ^ 20 then ((word.toNat / 2 ^ 8 % 2 ^ 20 : Nat) : Int)
      else ((word.toNat / 2 ^ 8 % 2 ^ 20 : Nat) : Int) - ((2 ^ 20 : Nat) : Int) := by
    unfold rotoInteger
    rw [BitVec.toInt_eq_toNat_cond,BitVec.toNat_setWidth,BitVec.toNat_ushiftRight,
      Nat.shiftRight_eq_div_pow]
  rw [field,field,BitVec.toNat_add,step]
  by_cases last : x.toNat / 2 ^ 8 % 2 ^ 20 = 2 ^ 19 - 1
  · exact ⟨1,by omega,by omega⟩
  · exact ⟨0,by omega,by omega⟩

variable {gpu : GPU} {wh ht : Int}

theorem generalLoop_wrap (turns : wh ∣ 2 ^ 20) (left i : Nat) (x y : u32) :
    generalLoop true wh ht 0x100 0 left i x y =
      fastLoop true wh (rotoInteger y % ht) left i (rotoInteger x % wh) := by
  induction left generalizing i x with
  | zero => rfl
  | succ left ih =>
      obtain ⟨n,next,-⟩ := rotoInteger_step x
      have same : rotoInteger (x + 0x100) % wh = (rotoInteger x % wh + 1) % wh := by
        obtain ⟨factor,whole⟩ := turns
        rw [next,Int.emod_add_emod,whole,Int.sub_eq_add_neg,Int.mul_left_comm,
          ← Int.mul_neg,Int.add_mul_emod_self_left]
      rw [generalLoop,fastLoop,if_pos rfl,if_pos rfl,if_pos rfl,if_pos (Or.inl rfl),add_zero,ih,
        same]

theorem generalLoop_inside (small : wh ≤ 2 ^ 19) (left i : Nat) (x y : u32)
    (start : 0 ≤ rotoInteger x) (stop : rotoInteger x + left < wh)
    (row : 0 ≤ rotoInteger y ∧ rotoInteger y < ht) :
    generalLoop false wh ht 0x100 0 left i x y =
      fastLoop false wh (rotoInteger y) left i (rotoInteger x) := by
  induction left generalizing i x with
  | zero => rfl
  | succ left ih =>
      rw [Nat.cast_add_one] at stop
      obtain ⟨n,next,none⟩ := rotoInteger_step x
      have plain : rotoInteger (x + 0x100) = rotoInteger x + 1 := by
        rw [next,none (by omega)]
        omega
      have later := ih (i + 1) (x + 0x100) (by omega) (by omega)
      rw [generalLoop,fastLoop,if_neg Bool.false_ne_true,if_neg Bool.false_ne_true,
        if_neg Bool.false_ne_true,if_pos (Or.inr ⟨start,by omega,row⟩),add_zero,later,plain]

theorem generalLoop_bounds {WRAP : Bool} (wide : 0 < wh) (high : 0 < ht)
    (dx dy : u32) (left i : Nat) (x y : u32) :
    ∀ call ∈ generalLoop WRAP wh ht dx dy left i x y,
      0 ≤ call.1 ∧ call.1 < wh ∧ 0 ≤ call.2.1 ∧ call.2.1 < ht := by
  induction left generalizing i x y with
  | zero => exact fun _ member => (List.not_mem_nil member).elim
  | succ left ih =>
      intro call member
      cases WRAP with
      | true =>
          rw [generalLoop,if_pos rfl,if_pos rfl,if_pos (Or.inl rfl)] at member
          rcases List.mem_cons.mp member with rfl | later
          · exact ⟨Int.emod_nonneg _ wide.ne',Int.emod_lt_of_pos _ wide,
              Int.emod_nonneg _ high.ne',Int.emod_lt_of_pos _ high⟩
          · exact ih _ _ _ call later
      | false =>
          rw [generalLoop,if_neg Bool.false_ne_true,if_neg Bool.false_ne_true] at member
          split at member
          next drawn =>
            rcases List.mem_cons.mp member with rfl | later
            · exact drawn.resolve_left Bool.false_ne_true
            · exact ih _ _ _ call later
          next => exact ih _ _ _ call member

theorem sizeTab_divides (type : BGType) (screenSize : Fin 4)
    (wide : 0 < (sizeTab type screenSize).1) :
    (sizeTab type screenSize).1 ≤ 2 ^ 19 ∧ (sizeTab type screenSize).1 ∣ 2 ^ 20 := by
  revert screenSize
  cases type <;> decide

/-- The fast path makes the calls that the loop alone would make, and all of
them lie on the layer. -/
theorem fast_path_transparent (WRAP : Bool) (X Y : u32) (PA PC : u16) (LG : u16) (type : BGType)
    (screenSize : Fin 4) (wide : 0 < (sizeTab type screenSize).1)
    (high : 0 < (sizeTab type screenSize).2) :
    rotScaleCalls WRAP X Y PA PC LG.toNat (sizeTab type screenSize).1
        (sizeTab type screenSize).2 =
      generalLoop WRAP (sizeTab type screenSize).1 (sizeTab type screenSize).2 (PA.signExtend 32)
        (PC.signExtend 32) LG.toNat 0 X Y ∧
    ∀ call ∈ rotScaleCalls WRAP X Y PA PC LG.toNat (sizeTab type screenSize).1
        (sizeTab type screenSize).2,
      0 ≤ call.1 ∧ call.1 < (sizeTab type screenSize).1 ∧
        0 ≤ call.2.1 ∧ call.2.1 < (sizeTab type screenSize).2 := by
  obtain ⟨small,divides⟩ := sizeTab_divides type screenSize wide
  generalize (sizeTab type screenSize).1 = wh at wide small divides
  generalize (sizeTab type screenSize).2 = ht at high
  have same : rotScaleCalls WRAP X Y PA PC LG.toNat wh ht =
      generalLoop WRAP wh ht (PA.signExtend 32) (PC.signExtend 32) LG.toNat 0 X Y := by
    unfold rotScaleCalls
    dsimp only
    split
    next fast =>
      obtain ⟨dx,dy,bounds⟩ := fast
      rw [dx,dy]
      cases WRAP with
      | true =>
          have turns : (wh : Int) ∣ 2 ^ 20 := by exact_mod_cast divides
          exact (generalLoop_wrap turns LG.toNat 0 X Y).symm
      | false =>
          obtain ⟨stop,start,below,above⟩ := bounds.resolve_left Bool.false_ne_true
          have narrow : (wh : Int) ≤ 2 ^ 19 := by exact_mod_cast small
          exact (generalLoop_inside narrow LG.toNat 0 X Y start stop ⟨above,below⟩).symm
    next => rfl
  rw [same]
  exact ⟨rfl,generalLoop_bounds (by omega) (by omega) _ _ _ _ _ _⟩

theorem fast_path_transparent_wrap :
    rotScaleCalls true 0xFFFFF000 0 0x100 0 256 128 128 =
      generalLoop true 128 128 ((0x100 : u16).signExtend 32) ((0 : u16).signExtend 32) 256 0
        0xFFFFF000 0 :=
  (fast_path_transparent true 0xFFFFF000 0 0x100 0 256 .Affine 0 (by decide) (by decide)).1

def rotates : BGType → Bool
  | .Affine | .AffineExt | .Large8bpp => true
  | _ => false

def rotatesAt (gpu : GPU) (num : Fin 4) : Bool :=
  rotates (GPU_mode2type gpu.dispCnt.BG_Mode num)

def parmsOf (gpu : GPU) (num : Fin 4) : BGxPARMS :=
  gpu.dispx_st.dispx_BGPARMS (parmsIndex num)

variable (parms : BGxPARMS)

/-- The end of `lineRot` and of `lineExtRot`. -/
def BGxPARMS.moved : BGxPARMS :=
  { parms with
    BGxX := parms.BGxX + parms.BGxPB.signExtend 32
    BGxY := parms.BGxY + parms.BGxPD.signExtend 32 }

/-- `count` lines behind `start`. -/
def BGxPARMS.behind (start : u32 × u32) (n : Nat) : BGxPARMS :=
  { parms with
    BGxX := start.1 + BitVec.ofNat 32 n * parms.BGxPB.signExtend 32
    BGxY := start.2 + BitVec.ofNat 32 n * parms.BGxPD.signExtend 32 }

theorem BGxPARMS.moved_behind (start : u32 × u32) (n : Nat) :
    (parms.behind start n).moved = parms.behind start (n + 1) := by
  have next (first step : u32) : first + BitVec.ofNat 32 n * step + step =
      first + BitVec.ofNat 32 (n + 1) * step := by
    rw [BitVec.ofNat_add,BitVec.add_mul,BitVec.add_assoc]
    congr 2
    exact (BitVec.one_mul step).symm
  unfold moved behind
  dsimp only
  rw [next,next]

theorem advanceParms_eq (gpu : GPU) (num : Fin 4) :
    advanceParms gpu num =
      if rotatesAt gpu num then gpu.setParms (parmsIndex num) (parmsOf gpu num).moved else gpu := by
  unfold advanceParms rotatesAt
  cases GPU_mode2type gpu.dispCnt.BG_Mode num <;> rfl

theorem parmsIndex_ne {num other : Fin 4} (affine : rotatesAt gpu num = true)
    (both : rotatesAt gpu other = true) (apart : other ≠ num) :
    parmsIndex num ≠ parmsIndex other := by
  unfold rotatesAt at affine both
  generalize gpu.dispCnt.BG_Mode = mode at affine both
  revert mode num other
  decide

theorem dispCnt_advanceParms (gpu : GPU) (num : Fin 4) :
    (advanceParms gpu num).dispCnt = gpu.dispCnt := by
  rw [advanceParms_eq]
  split <;> rfl

theorem parmsOf_advanceParms {nums : List (Fin 4)} (once : nums.Nodup) {num : Fin 4}
    (affine : rotatesAt gpu num = true) :
    parmsOf (nums.foldl advanceParms gpu) num =
      if num ∈ nums then (parmsOf gpu num).moved else parmsOf gpu num := by
  induction nums generalizing gpu with
  | nil => rfl
  | cons other rest ih =>
      obtain ⟨absent,once⟩ := List.nodup_cons.mp once
      have still : rotatesAt (advanceParms gpu other) num = true := by
        unfold rotatesAt
        rw [dispCnt_advanceParms]
        exact affine
      rw [List.foldl_cons,ih once still]
      by_cases same : other = num
      · subst same
        rw [if_neg absent,if_pos List.mem_cons_self,advanceParms_eq,if_pos affine]
        exact update_self _ _ _
      · have kept : parmsOf (advanceParms gpu other) num = parmsOf gpu num := by
          rw [advanceParms_eq]
          split
          next both => exact update_of_ne (parmsIndex_ne affine both same) _ _
          next => rfl
        rw [kept]
        simp only [List.mem_cons,Ne.symm same,false_or]

def Sorted (gpu : GPU) : Prop := ∃ enabled cnt, gpu.BGs = GPU.sortedBGs enabled cnt

theorem nodup_renderedBGs (sorted : Sorted gpu) : (renderedBGs gpu).Nodup := by
  obtain ⟨enabled,cnt,lists⟩ := sorted
  unfold renderedBGs
  rw [lists,List.nodup_flatMap]
  have numbers : ([3,2,1,0] : List (Fin 4)).Nodup := by decide
  constructor
  · exact fun prio _ => (numbers.filter _).filter _
  · apply numbers.imp
    intro first second apart
    rw [Function.onFun,List.disjoint_left]
    intro num inFirst inSecond
    have one := (Bool.and_eq_true_iff.mp (List.mem_filter.mp (List.mem_filter.mp inFirst).1).2).2
    have two := (Bool.and_eq_true_iff.mp (List.mem_filter.mp (List.mem_filter.mp inSecond).1).2).2
    exact apart ((beq_iff_eq.mp one).symm.trans (beq_iff_eq.mp two))

theorem sorted_setBGProp (cfg : Config) (gpu : GPU) (num : Fin 4) (p : u16) :
    Sorted (gpu.GPU_setBGProp cfg num p) := ⟨_,_,rfl⟩

theorem sorted_write (cfg : Config) (gpu : GPU) (val : Write) (sorted : Sorted gpu) :
    Sorted (gpu.write cfg val) := by
  cases val with
  | DISPCNT val => exact sorted_setBGProp cfg _ 0 _
  | DISPCNT_low val => exact sorted_setBGProp cfg _ 0 _
  | DISPCNT_high val => exact sorted_setBGProp cfg _ 0 _
  | BGxCNT num val => exact sorted_setBGProp cfg gpu num val
  | BLDCNT_byte i val =>
      change Sorted (gpu.writeBLDCNT_byte i val)
      unfold GPU.writeBLDCNT_byte
      dsimp only
      split
      · exact sorted
      · exact sorted
  | _ => exact sorted

theorem keptByEngine_sorted (cfg : Config) : KeptByEngine cfg Sorted := by
  refine ⟨fun gpu => Iff.rfl, ?_, fun gpu val _ => sorted_write cfg gpu val⟩
  intro gpu win sorted
  rcases refresh_winh_cases gpu win with kept | filled
  · rw [kept]
    exact sorted
  · rw [filled]
    exact sorted

theorem sorted_step (cfg : Config) (m : Machine) (op : Op) (core : Core)
    (sorted : Sorted (m.gpu core)) : Sorted ((m.step cfg op).gpu core) := by
  have kept := keptByEngine_sorted cfg
  rcases settled_step cfg m op core with same | moved | ⟨val,_,res⟩
  · exact kept.of_settled same sorted
  · rw [← kept.settled,moved]
    exact kept.refresh _ 1 (kept.refresh _ 0 ((kept.settled _).mpr sorted))
  · rw [res]
    exact sorted_write cfg _ val sorted

theorem sorted_final (cfg : Config) (m : Machine) (ops : List Op) (core : Core)
    (sorted : Sorted (m.gpu core)) :
    Sorted ((Run.final (Machine.step cfg) m ops).gpu core) := by
  induction ops generalizing m with
  | nil => exact sorted
  | cons op rest ih => exact ih _ (sorted_step cfg m op core sorted)

section

variable (cfg : Config) (m : Machine) (core : Core) (l : Nat) (num : Fin 4)

def DrawnOn : Prop :=
  isHidden cfg core = false ∧ ¬cutShort m core l ∧
    num ∈ renderedBGs (enteringLine cfg m core l)

instance : Decidable (DrawnOn cfg m core l num) :=
  inferInstanceAs (Decidable (_ ∧ ¬(_ ∧ ¬_) ∧ _))

theorem dispx_st_storeRow (row : Row) :
    ((m.storeRow core row).gpu core).dispx_st = (m.gpu core).dispx_st := by
  unfold Machine.storeRow
  cases (m.gpu core).currDst with
  | null => rfl
  | GPU_Screen off => rfl
  | tempScanlineBuffer =>
      unfold Machine.setGpu
      dsimp only
      rw [update_self]

theorem dispx_st_prepareLine (gpu : GPU) :
    (prepareLine cfg gpu l).dispx_st = gpu.dispx_st := by
  have refreshed := (dispx_st_refresh_winh (refresh_winh { gpu with currLine := l } 0) 1).trans
    (dispx_st_refresh_winh { gpu with currLine := l } 0)
  exact refreshed

theorem dispx_st_renderFully :
    ((m.renderFully cfg core l).gpu core).dispx_st =
      ((renderedBGs (prepareLine cfg (m.gpu core) l)).foldl advanceParms
        (prepareLine cfg (m.gpu core) l)).dispx_st := by
  unfold Machine.renderFully Machine.GPU_RenderLine_MasterBrightness
  dsimp only
  rw [dispx_st_storeRow,gpu_afterDisplay,dispx_st_storeRow]
  unfold Machine.setGpu
  dsimp only
  rw [update_self]
  rfl

theorem parmsOf_enteringLine :
    parmsOf (enteringLine cfg m core l) num =
      parmsOf ((m.setupFirstLine core l).gpu core) num :=
  congrArg (fun regs => regs.dispx_BGPARMS (parmsIndex num)) (dispx_st_prepareLine cfg l _)

theorem parmsOf_RenderLine (sorted : Sorted (m.gpu core))
    (affine : rotatesAt (enteringLine cfg m core l) num = true)
    (seen : isHidden cfg core = false) :
    parmsOf ((m.GPU_RenderLine cfg core l false).gpu core) num =
      if DrawnOn cfg m core l num then (parmsOf (enteringLine cfg m core l) num).moved
      else parmsOf (enteringLine cfg m core l) num := by
  have entered := parmsOf_enteringLine cfg m core l num
  obtain ⟨short,full⟩ := GPU_RenderLine_shown m core l seen
  by_cases cut : cutShort m core l
  · have kept : (((m.setupFirstLine core l).setCurrLine core l).gpu core).dispx_st =
        ((m.setupFirstLine core l).gpu core).dispx_st := by
      unfold Machine.setCurrLine Machine.setGpu
      dsimp only
      rw [update_self]
    rw [short cut,if_neg (fun drawn => drawn.2.1 cut),entered]
    unfold Machine.GPU_RenderLine_MasterBrightness parmsOf
    rw [dispx_st_storeRow,kept]
  · have stored := dispx_st_renderFully cfg (m.setupFirstLine core l) core l
    have once := nodup_renderedBGs ((keptByEngine_sorted cfg).entering sorted l)
    have moved := parmsOf_advanceParms once affine
    have here : DrawnOn cfg m core l num ↔
        num ∈ renderedBGs (enteringLine cfg m core l) := by
      unfold DrawnOn
      simp only [seen,cut,not_false_iff,true_and]
    rw [full cut]
    simp only [here]
    rw [← moved]
    exact congrArg (fun regs => regs.dispx_BGPARMS (parmsIndex num)) stored

theorem parmsOf_firstLine :
    parmsOf (enteringLine cfg m core 0) num =
      { parmsOf (m.gpu core) num with
        BGxX := ((m.gpu core).affineInfo (parmsIndex num)).1
        BGxY := ((m.gpu core).affineInfo (parmsIndex num)).2 } := by
  rw [parmsOf_enteringLine]
  unfold Machine.setupFirstLine Machine.setGpu parmsOf
  rw [if_pos rfl]
  dsimp only
  rw [update_self]
  generalize m.gpu core = gpu
  generalize parmsIndex num = layer
  match layer with
  | 0 => rfl
  | 1 => rfl

theorem parmsOf_laterLine (later : l ≠ 0) :
    parmsOf (enteringLine cfg m core l) num = parmsOf (m.gpu core) num := by
  rw [parmsOf_enteringLine]
  unfold Machine.setupFirstLine
  rw [if_neg later]

theorem dispCnt_of_refreshed {gpu other : GPU} (same : gpu.settled = refreshed other.settled) :
    gpu.dispCnt = other.dispCnt := by
  have kept := congrArg REG_DISPx.dispx_DISPCNT ((dispx_st_refresh_winh
    (refresh_winh other.settled 0) 1).trans (dispx_st_refresh_winh other.settled 0))
  unfold refreshed at same
  rw [← same] at kept
  exact kept

theorem dispCnt_enteringLine : (enteringLine cfg m core l).dispCnt = (m.gpu core).dispCnt :=
  dispCnt_of_refreshed (settled_enteringLine cfg m core l)

theorem dispCnt_RenderLine (skip : Bool) :
    ((m.GPU_RenderLine cfg core l skip).gpu core).dispCnt = (m.gpu core).dispCnt := by
  rcases settled_RenderLine cfg m core core l skip with same | moved
  · have cnt := congrArg GPU.dispCnt same
    exact cnt
  · exact dispCnt_of_refreshed moved

end

/-! ### A frame -/

section

variable (cfg : Config) (core : Core) (num : Fin 4)

/-- What is to stay constant in the frame: the type of the layer, and its
parameters with the reference points as they stand. -/
def layerState (gpu : GPU) : BGType × BGxPARMS × (u32 × u32) :=
  (GPU_mode2type gpu.dispCnt.BG_Mode num, parmsOf gpu num, gpu.affineInfo (parmsIndex num))

def Quiet (m : Machine) (op : Op) : Prop :=
  (∀ l skip, op ≠ .GPU_RenderLine core l skip) ∧
    layerState num ((m.step cfg op).gpu core) = layerState num (m.gpu core)

/-- The machine before line `l`, with what is done before each line. -/
def frameAt (between : Nat → List Op) (m : Machine) : Nat → Machine
  | 0 => Run.final (Machine.step cfg) m (between 0)
  | l + 1 =>
      Run.final (Machine.step cfg)
        ((frameAt between m l).GPU_RenderLine cfg core l false) (between (l + 1))

def startPoint (m : Machine) (l : Nat) : u32 × u32 :=
  let parms := parmsOf (enteringLine cfg m core l) num
  (parms.BGxX, parms.BGxY)

/-- Nothing but the lines themselves touches the layer in the frame. -/
def FrameQuiet (between : Nat → List Op) (m : Machine) : Prop :=
  Run.Guarded (Machine.step cfg) (Quiet cfg core num) m (between 0) ∧
    ∀ l, Run.Guarded (Machine.step cfg) (Quiet cfg core num)
      ((frameAt cfg core between m l).GPU_RenderLine cfg core l false)
      (between (l + 1))

variable {cfg core num} {between : Nat → List Op} {m : Machine}

theorem affine_setBGProp (gpu : GPU) (bg : Fin 4) (p : u16) :
    ((gpu.GPU_setBGProp cfg bg p).dispx_st.dispx_BGPARMS,
        (gpu.GPU_setBGProp cfg bg p).affineInfo) =
      (gpu.dispx_st.dispx_BGPARMS, gpu.affineInfo) := rfl

theorem quiet_write {val : Write} (pattern : (∃ p, val = .DISPCNT p) ∨
      (∃ bg p, val = .BGxCNT bg p) ∨ ∃ p, val = .MASTER_BRIGHT p) (m : Machine)
    (mode : ((m.gpu core).write cfg val).dispCnt.BG_Mode = (m.gpu core).dispCnt.BG_Mode) :
    Quiet cfg core num m (.write core val) := by
  have kept : (((m.gpu core).write cfg val).dispx_st.dispx_BGPARMS,
      ((m.gpu core).write cfg val).affineInfo) =
      ((m.gpu core).dispx_st.dispx_BGPARMS, (m.gpu core).affineInfo) := by
    rcases pattern with ⟨p,rfl⟩ | ⟨bg,p,rfl⟩ | ⟨p,rfl⟩
    · unfold GPU.write GPU.GPU_setVideoProp
      dsimp only
      rw [affine_setBGProp,affine_setBGProp,affine_setBGProp,affine_setBGProp]
      rfl
    · rfl
    · rfl
  injection kept with parms info
  refine ⟨fun _ _ other => (nomatch other), ?_⟩
  have stored : (m.step cfg (.write core val)).gpu core =
      (m.gpu core).write cfg val := update_self _ _ _
  unfold layerState parmsOf
  rw [stored,mode,parms,info]

theorem layerState_quiet {ops : List Op}
    (quiet : Run.Guarded (Machine.step cfg) (Quiet cfg core num) m ops) :
    layerState num ((Run.final (Machine.step cfg) m ops).gpu core) =
      layerState num (m.gpu core) := by
  induction ops generalizing m with
  | nil => rfl
  | cons op rest ih => exact (ih quiet.2).trans quiet.1.2

theorem sorted_frameAt (sorted : Sorted (m.gpu core)) (l : Nat) :
    Sorted ((frameAt cfg core between m l).gpu core) := by
  induction l with
  | zero => exact sorted_final cfg m (between 0) core sorted
  | succ l ih =>
      apply sorted_final
      have kept := keptByEngine_sorted cfg
      rcases settled_RenderLine cfg (frameAt cfg core between m l) core core l
        false with same | moved
      · exact kept.of_settled same ih
      · rw [← kept.settled,moved]
        exact kept.refresh _ 1 (kept.refresh _ 0 ((kept.settled _).mpr ih))

/-- The lines before `l` on which the layer is drawn. -/
def drawnBefore (cfg : Config) (core : Core) (num : Fin 4) (between : Nat → List Op)
    (m : Machine) (l : Nat) : Nat :=
  (List.range l).countP fun k =>
    DrawnOn cfg (frameAt cfg core between m k) core k num

variable (l : Nat)

theorem drawnBefore_succ :
    drawnBefore cfg core num between m (l + 1) =
      drawnBefore cfg core num between m l +
        if DrawnOn cfg (frameAt cfg core between m l) core l num then 1 else 0 := by
  unfold drawnBefore
  rw [List.range_succ,List.countP_append,List.countP_singleton]
  simp only [decide_eq_true_eq]

theorem parms_frameAt (sorted : Sorted (m.gpu core)) (seen : isHidden cfg core = false)
    (affine : rotatesAt (m.gpu core) num = true)
    (quiet : FrameQuiet cfg core num between m) (l : Nat) :
    rotatesAt ((frameAt cfg core between m l).gpu core) num = true ∧
      parmsOf (enteringLine cfg (frameAt cfg core between m l) core l) num =
        (parmsOf (m.gpu core) num).behind ((m.gpu core).affineInfo (parmsIndex num))
          (drawnBefore cfg core num between m l) := by
  induction l with
  | zero =>
      have kept := layerState_quiet quiet.1
      injection kept with type rest
      injection rest with parms info
      have start : frameAt cfg core between m 0 =
          Run.final (Machine.step cfg) m (between 0) := rfl
      have none : drawnBefore cfg core num between m 0 = 0 := rfl
      refine ⟨(congrArg rotates type).trans affine,?_⟩
      have zero (first step : u32) : first + BitVec.ofNat 32 0 * step = first := by
        rw [BitVec.zero_mul,BitVec.add_zero]
      rw [parmsOf_firstLine,start,parms,info,none]
      unfold BGxPARMS.behind
      rw [zero,zero]
  | succ l ih =>
      obtain ⟨rotated,parms⟩ := ih
      have kept := layerState_quiet (quiet.2 l)
      injection kept with type rest
      injection rest with same info
      have cnt := dispCnt_RenderLine cfg (frameAt cfg core between m l) core l false
      have next : frameAt cfg core between m (l + 1) =
          Run.final (Machine.step cfg)
            ((frameAt cfg core between m l).GPU_RenderLine cfg core l false)
            (between (l + 1)) := rfl
      constructor
      · rw [next]
        refine (congrArg rotates type).trans ?_
        rw [cnt]
        exact rotated
      · have entered : rotatesAt (enteringLine cfg (frameAt cfg core between m l) core
            l) num = true := by
          unfold rotatesAt
          rw [dispCnt_enteringLine]
          exact rotated
        rw [parmsOf_laterLine cfg _ core _ num (Nat.succ_ne_zero l),next,same,
          parmsOf_RenderLine cfg _ core l num (sorted_frameAt sorted l) entered seen,
          drawnBefore_succ,parms]
        split
        · exact BGxPARMS.moved_behind _ _ _
        · rfl

theorem behind_eq_iff (first : u32) (step : u16) {l n : Nat} (inside : l < 192) (fewer : n ≤ l) :
    first + BitVec.ofNat 32 n * step.signExtend 32 =
        first + BitVec.ofNat 32 l * step.signExtend 32 ↔ n = l ∨ step = 0 := by
  have low := BitVec.le_toInt step
  have high := BitVec.toInt_lt (x := step)
  have product {lines : Nat} (small : lines < 192) :
      (BitVec.ofNat 32 lines * step.signExtend 32).toInt = lines * step.toInt := by
    have most : (lines : Int) * step.toInt ≤ lines * 2 ^ 15 :=
      Int.mul_le_mul_of_nonneg_left (by omega) (by omega)
    have least : (lines : Int) * -2 ^ 15 ≤ lines * step.toInt :=
      Int.mul_le_mul_of_nonneg_left (by omega) (by omega)
    have word : (BitVec.ofNat 32 lines).toInt = lines := by
      rw [BitVec.toInt_ofNat']
      exact Int.bmod_eq_of_le (by omega) (by omega)
    rw [BitVec.toInt_mul,word,BitVec.toInt_signExtend_of_le (by decide)]
    exact Int.bmod_eq_of_le (by omega) (by omega)
  constructor
  · intro same
    have cancelled := congrArg BitVec.toInt (add_left_cancel same)
    rw [product inside,product (by omega)] at cancelled
    by_cases still : step = 0
    · exact Or.inr still
    · have nonzero : step.toInt ≠ 0 := fun zero =>
        still (BitVec.eq_of_toInt_eq (zero.trans BitVec.toInt_zero.symm))
      exact Or.inl (by exact_mod_cast Int.eq_of_mul_eq_mul_right nonzero cancelled)
  · rintro (rfl | rfl)
    · rfl
    · have zero (lines : Nat) : BitVec.ofNat 32 lines * (0 : u16).signExtend 32 = 0 :=
        BitVec.mul_zero
      rw [zero,zero]

theorem drawnBefore_le : drawnBefore cfg core num between m l ≤ l := by
  have bound := @List.countP_le_length _ (fun k : Nat => decide
    (DrawnOn cfg (frameAt cfg core between m k) core k num)) (List.range l)
  rw [List.length_range] at bound
  exact bound

theorem drawnBefore_eq_iff :
    drawnBefore cfg core num between m l = l ↔
      ∀ k < l, DrawnOn cfg (frameAt cfg core between m k) core k num := by
  have all := @List.countP_eq_length _ (List.range l) (fun k : Nat => decide
    (DrawnOn cfg (frameAt cfg core between m k) core k num))
  rw [List.length_range] at all
  unfold drawnBefore
  rw [all]
  simp only [List.mem_range,decide_eq_true_eq]

end

/-- After the reference points have been written, the lines of a frame that
show the layer start where they should exactly when it is shown on all lines
before them, or when no line moves the start. -/
theorem affine_lines_iff (cfg : Config) (vid : VideoMemory) (disp_fifo : DispFifo)
    (GPU_Screen : IoMem) (sprWin : Nat → Bool) (ops : List Op) (core : Core) (num : Fin 4)
    (X0 Y0 : u32) (m : Machine) (written : m = Run.final (Machine.step cfg)
      (.reset vid disp_fifo GPU_Screen sprWin)
      (ops ++ [.write core (.BGxX (parmsIndex num) X0),.write core (.BGxY (parmsIndex num) Y0)]))
    (affine : rotatesAt (m.gpu core) num = true) (between : Nat → List Op)
    (quiet : FrameQuiet cfg core num between m) :
    (∀ l < 192, DrawnOn cfg (frameAt cfg core between m l) core l num →
      startPoint cfg core num (frameAt cfg core between m l) l =
        (X0 + BitVec.ofNat 32 l * (parmsOf (m.gpu core) num).BGxPB.signExtend 32,
          Y0 + BitVec.ofNat 32 l * (parmsOf (m.gpu core) num).BGxPD.signExtend 32)) ↔
    ∀ l < 192, DrawnOn cfg (frameAt cfg core between m l) core l num →
      (∀ k < l, DrawnOn cfg (frameAt cfg core between m k) core k num) ∨
        (parmsOf (m.gpu core) num).BGxPB = 0 ∧ (parmsOf (m.gpu core) num).BGxPD = 0 := by
  have sorted : Sorted (m.gpu core) := by
    rw [written]
    exact sorted_final cfg _ _ core ⟨fun _ => false, fun _ => ⟨0⟩, rfl⟩
  have info : (m.gpu core).affineInfo (parmsIndex num) = (X0, Y0) := by
    rw [written,Run.final_append]
    generalize Run.final (Machine.step cfg) _ ops = earlier
    have stored (m : Machine) (val : Write) :
        (m.step cfg (.write core val)).gpu core = (m.gpu core).write cfg val :=
      update_self _ _ _
    rw [Run.final_cons,Run.final_cons,Run.final_nil,stored,stored]
    unfold GPU.write GPU.setAffineStartX GPU.setAffineStartY GPU.refreshX GPU.refreshY GPU.setParms
    dsimp only
    rw [update_self,update_self]
  apply forall_congr'
  intro l
  apply forall_congr'
  intro inside
  apply forall_congr'
  intro drawn
  obtain ⟨-,parms⟩ := parms_frameAt sorted drawn.1 affine quiet l
  unfold startPoint
  rw [parms,info,← drawnBefore_eq_iff]
  unfold BGxPARMS.behind
  dsimp only
  rw [Prod.mk.injEq,behind_eq_iff X0 _ inside (drawnBefore_le l),
    behind_eq_iff Y0 _ inside (drawnBefore_le l),or_and_left]

/-- Layer 2 of mode 2, sampled one column further on each line or not. -/
def affineWrites (PB : u16) : List Op :=
  [.write .GPU_MAIN (.DISPCNT 0x10002),
    .write .GPU_MAIN (.BGxPARMS 0 { REG_DISPx.zero.dispx_BGPARMS 0 with BGxPB := PB })]

def affineMachine (PB : u16) : Machine :=
  Run.final (Machine.step sampleConfig) sampleMachine
    (affineWrites PB ++ [.write .GPU_MAIN (.BGxX 0 0),.write .GPU_MAIN (.BGxY 0 0)])

def enabledLate (l : Nat) : List Op :=
  if l = 1 then [.write .GPU_MAIN (.DISPCNT 0x10402)] else []

theorem quiet_enabledLate {PB : u16} (small : PB = 0 ∨ PB = 1) :
    FrameQuiet sampleConfig .GPU_MAIN 2 enabledLate (affineMachine PB) := by
  constructor
  · trivial
  · intro l
    match l with
    | 0 =>
        refine ⟨quiet_write (Or.inl ⟨_,rfl⟩) _ ?_,trivial⟩
        rw [dispCnt_RenderLine]
        rcases small with rfl | rfl
        · decide +kernel
        · decide +kernel
    | l + 1 => trivial

theorem affine_lines_iff_still :
    startPoint sampleConfig .GPU_MAIN 2
        (frameAt sampleConfig .GPU_MAIN enabledLate (affineMachine 0) 1) 1 =
      (0 + BitVec.ofNat 32 1 *
          (parmsOf ((affineMachine 0).gpu .GPU_MAIN) 2).BGxPB.signExtend 32,
        0 + BitVec.ofNat 32 1 *
          (parmsOf ((affineMachine 0).gpu .GPU_MAIN) 2).BGxPD.signExtend 32) :=
  (affine_lines_iff sampleConfig sampleVideo sampleFifo (fun _ => 0) (fun _ => false)
    (affineWrites 0) .GPU_MAIN 2 0 0 (affineMachine 0) rfl (by decide +kernel) enabledLate
    (quiet_enabledLate (Or.inl rfl))).mpr
    (fun _ _ _ => Or.inr ⟨by decide +kernel,by decide +kernel⟩) 1 (by decide) (by decide +kernel)

/-- A line without the layer does not move the start. -/
theorem late_layer_starts_wrong :
    FrameQuiet sampleConfig .GPU_MAIN 2 enabledLate (affineMachine 1) ∧
      DrawnOn sampleConfig (frameAt sampleConfig .GPU_MAIN enabledLate (affineMachine 1) 1)
        .GPU_MAIN 1 2 ∧
      startPoint sampleConfig .GPU_MAIN 2
        (frameAt sampleConfig .GPU_MAIN enabledLate (affineMachine 1) 1) 1 ≠
      (0 + BitVec.ofNat 32 1 *
          (parmsOf ((affineMachine 1).gpu .GPU_MAIN) 2).BGxPB.signExtend 32,
        0 + BitVec.ofNat 32 1 *
          (parmsOf ((affineMachine 1).gpu .GPU_MAIN) 2).BGxPD.signExtend 32) :=
  ⟨quiet_enabledLate (Or.inr rfl),by decide +kernel,by decide +kernel⟩

end Desmume.Gpu
