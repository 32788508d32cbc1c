/-
The lines of text backgrounds: the loops of `renderline_textBG`.

A tile with 16 colours has two texels in a byte.
-/

import Desmume.Gpu.CaptureFrames
import Desmume.Gpu.Current

namespace Desmume.Gpu

/-- One call of `__setFinalColorBck<MOSAIC,false>(color,x,index)`, which draws
nothing for the index 0. -/
structure Submission where
  color : u16
  x : Nat
  index : Nat

/-- What `__setFinalColorBck` draws of it. -/
def Submission.drawn (submission : Submission) : Option (Nat × u16) :=
  if submission.index = 0 then none else some (submission.x, submission.color)

structure TextCursor where
  submitted : List Submission
  x : Nat
  xoff : u16

def TextCursor.submit (cursor : TextCursor) (color : u16) (i : Nat) : TextCursor where
  submitted := cursor.submitted ++ [⟨color,cursor.x,i⟩]
  x := cursor.x + 1
  xoff := cursor.xoff + 1

@[simp] theorem TextCursor.submit_x (cursor : TextCursor) (color : u16) (i : Nat) :
    (cursor.submit color i).x = cursor.x + 1 := rfl

section

variable (vid : VideoMemory) (color : Nat → u16) (HFlip : Bool) (xfin : Nat)

def nextByte (line : Int) : Int := if HFlip then line - 1 else line + 1

/-- The body of the loop over the bytes of a row with 16 colours. -/
def pair16 (line : Int) (cursor : TextCursor) : TextCursor :=
  let currLine := (vid.ARM9_LCD line.toNat).toNat
  let first := if HFlip then currLine / 16 else currLine % 16
  let second := if HFlip then currLine % 16 else currLine / 16
  let cursor :=
    if cursor.xoff.toNat % 2 = 0 then cursor.submit (color first) first else cursor
  if cursor.x < xfin then cursor.submit (color second) second else cursor

theorem pair16_advances (line : Int) (cursor : TextCursor) (inside : cursor.x < xfin) :
    cursor.x < (pair16 vid color HFlip xfin line cursor).x := by
  unfold pair16
  dsimp only
  by_cases even : cursor.xoff.toNat % 2 = 0
  · rw [if_pos even]
    split_ifs
    all_goals simp only [TextCursor.submit_x]
    all_goals omega
  · rw [if_neg even,if_pos inside]
    exact Nat.lt_succ_self _

def row16 (line : Int) (cursor : TextCursor) : TextCursor :=
  if _inside : cursor.x < xfin then
    row16 (nextByte HFlip line) (pair16 vid color HFlip xfin line cursor)
  else cursor
termination_by xfin - cursor.x
decreasing_by
  have advances := pair16_advances vid color HFlip xfin line cursor _inside
  omega

def row256 (line : Int) (cursor : TextCursor) : TextCursor :=
  if cursor.x < xfin then
    let i := (vid.ARM9_LCD line.toNat).toNat
    row256 (nextByte HFlip line) (cursor.submit (color i) i)
  else cursor
termination_by xfin - cursor.x
decreasing_by
  rw [TextCursor.submit_x]
  omega

end

section

variable (gpu : GPU) (vid : VideoMemory) (num : Fin 4) (YBG : u16)

def tileentryAt (xoff : u16) : TILEENTRY :=
  textEntry vid (gpu.background num).BG_map_ram (gpu.background num)
    (gpu.bgcnt num).ScreenSize xoff YBG

def tile16 (xfin : Nat) (cursor : TextCursor) : TextCursor :=
  let tileentry := tileentryAt gpu vid num YBG cursor.xoff
  let yoff := YBG.toNat % 8 * 4
  let line := vid.gpuMap ((gpu.background num).BG_tile_ram + tileentry.TileNum.val * 0x20 +
    if tileentry.VFlip then 7 * 4 - yoff else yoff)
  let pair := cursor.xoff.toNat % 8 / 2
  row16 vid (fun i => bgPalette vid gpu.core (i + tileentry.Palette.val * 16))
    tileentry.HFlip xfin (line + if tileentry.HFlip then 3 - pair else pair : Nat) cursor

/-- The palette of the tiles with 256 colours. The pointers to the extended
palettes are never null. -/
def pal256 : Palette :=
  if gpu.dispCnt.ExBGxPalette_Enable then
    extPalette vid gpu.core (gpu.background num).BGExtPalSlot
  else bgPalette vid gpu.core

def tile256 (xfin : Nat) (cursor : TextCursor) : TextCursor :=
  let tileentry := tileentryAt gpu vid num YBG cursor.xoff
  let yoff := YBG.toNat % 8 * 8
  let line := vid.gpuMap ((gpu.background num).BG_tile_ram + tileentry.TileNum.val * 0x40 +
    if tileentry.VFlip then 7 * 8 - yoff else yoff)
  let column := cursor.xoff.toNat % 8
  let set := if gpu.dispCnt.ExBGxPalette_Enable then tileentry.Palette.val * 256 else 0
  row256 vid (fun i => pal256 gpu vid num (i + set)) tileentry.HFlip xfin
    (line + if tileentry.HFlip then 7 - column else column : Nat) cursor

/-- The loop over the tiles, no more than `fuel` of them. -/
def textTiles (tile : Nat → TextCursor → TextCursor) (LG : Nat) :
    Nat → Nat → TextCursor → Option TextCursor
  | 0, _, _ => none
  | fuel + 1, xfin, cursor =>
      if cursor.x < LG then
        let next := tile xfin cursor
        textTiles tile LG fuel (min (next.x + 8) LG) next
      else some cursor

def renderline_textBG (fuel : Nat) (XBG : u16) (LG : Nat) : Option (List Submission) :=
  let tile := if (gpu.bgcnt num).Palette_256 then tile256 gpu vid num YBG
    else tile16 gpu vid num YBG
  (textTiles tile LG fuel (8 - XBG.toNat % 8) ⟨[],0,XBG⟩).map TextCursor.submitted

end

/-- The loops after the columns before `x`, where `law` is what they submit. -/
def drawnTo (law : Nat → Submission) (XBG : u16) (x : Nat) : TextCursor where
  submitted := (List.range x).map law
  x := x
  xoff := XBG + BitVec.ofNat 16 x

section

variable {law : Nat → Submission} {XBG : u16} {vid : VideoMemory} {color : Nat → u16}
  {HFlip : Bool} {xfin : Nat}

theorem drawnTo_xoff (x : Nat) {size : Nat} (divides : size ∣ 2 ^ 16) :
    (drawnTo law XBG x).xoff.toNat % size = (XBG.toNat + x) % size := by
  unfold drawnTo
  dsimp only
  rw [BitVec.toNat_add,BitVec.toNat_ofNat,Nat.add_mod_mod,Nat.mod_mod_of_dvd _ divides]

theorem submit_drawnTo {x i : Nat} (right : law x = ⟨color i,x,i⟩) :
    (drawnTo law XBG x).submit (color i) i = drawnTo law XBG (x + 1) := by
  unfold TextCursor.submit drawnTo
  dsimp only
  rw [List.range_succ,List.map_append,List.map_singleton,right,BitVec.ofNat_add,← add_assoc]
  rfl

def mirrored (HFlip : Bool) (column : Nat) : Nat := if HFlip then 7 - column else column

def half (pair texel : Nat) : Nat := if texel % 2 = 0 then pair % 16 else pair / 16

theorem mirrored_pair (HFlip : Bool) {column : Nat} (inside : column < 8) :
    mirrored HFlip column / 2 = if HFlip then 3 - column / 2 else column / 2 := by
  unfold mirrored
  cases HFlip with
  | false => rfl
  | true =>
      rw [if_pos rfl,if_pos rfl]
      omega

theorem half_mirrored (HFlip : Bool) (pair : Nat) {column : Nat} (inside : column < 8) :
    half pair (mirrored HFlip column) =
      if column % 2 = 0 then (if HFlip then pair / 16 else pair % 16)
      else (if HFlip then pair % 16 else pair / 16) := by
  unfold half mirrored
  cases HFlip with
  | false => rfl
  | true =>
      rw [if_pos rfl,if_pos rfl,if_pos rfl]
      by_cases even : column % 2 = 0
      · rw [if_pos even,if_neg (by omega)]
      · rw [if_neg even,if_pos (by omega)]

variable {base : Nat}

/-- The submissions from `x` to `xfin` are those of the row with 16 colours at `base`. -/
def Row16 (law : Nat → Submission) (XBG : u16) (vid : VideoMemory) (color : Nat → u16)
    (HFlip : Bool) (base x xfin : Nat) : Prop :=
  ∀ k, x ≤ k → k < xfin →
    let texel := mirrored HFlip ((XBG.toNat + k) % 8)
    let i := half (vid.ARM9_LCD (base + texel / 2)).toNat texel
    law k = ⟨color i,k,i⟩

theorem pair16_drawnTo {x : Nat} (inside : x < xfin)
    (row : Row16 law XBG vid color HFlip base x xfin) :
    pair16 vid color HFlip xfin (base + mirrored HFlip ((XBG.toNat + x) % 8) / 2 : Nat)
        (drawnTo law XBG x) =
      drawnTo law XBG (min (x + 2 - (XBG.toNat + x) % 2) xfin) := by
  have column := Nat.mod_lt (XBG.toNat + x) (Nat.succ_pos 7)
  have here := row x (Nat.le_refl x) inside
  dsimp only at here
  rw [half_mirrored HFlip _ column] at here
  unfold pair16
  dsimp only
  rw [Int.toNat_natCast,drawnTo_xoff x (by decide : 2 ∣ 2 ^ 16)]
  by_cases even : (XBG.toNat + x) % 2 = 0
  · rw [if_pos (show (XBG.toNat + x) % 8 % 2 = 0 by omega)] at here
    rw [if_pos even,submit_drawnTo here]
    by_cases second : x + 1 < xfin
    · have next := row (x + 1) (Nat.le_succ x) second
      dsimp only at next
      have same : (XBG.toNat + (x + 1)) % 8 = (XBG.toNat + x) % 8 + 1 := by omega
      rw [half_mirrored HFlip _ (by omega),same,mirrored_pair HFlip (by omega),
        if_neg (show ¬((XBG.toNat + x) % 8 + 1) % 2 = 0 by omega),
        show ((XBG.toNat + x) % 8 + 1) / 2 = (XBG.toNat + x) % 8 / 2 by omega,
        ← mirrored_pair HFlip column] at next
      rw [if_pos (show (drawnTo law XBG (x + 1)).x < xfin from second),submit_drawnTo next]
      congr 1
      omega
    · rw [if_neg (show ¬(drawnTo law XBG (x + 1)).x < xfin from second)]
      congr 1
      omega
  · rw [if_neg (show ¬(XBG.toNat + x) % 8 % 2 = 0 by omega)] at here
    rw [if_neg even,if_pos (show (drawnTo law XBG x).x < xfin from inside),submit_drawnTo here]
    congr 1
    omega

theorem row16_drawnTo (n : Nat) : ∀ {x : Nat} {line : Int}, x + n = xfin →
    (XBG.toNat + x) % 8 + n ≤ 8 →
    (0 < n → line = (base + mirrored HFlip ((XBG.toNat + x) % 8) / 2 : Nat)) →
    Row16 law XBG vid color HFlip base x xfin →
    row16 vid color HFlip xfin line (drawnTo law XBG x) = drawnTo law XBG xfin := by
  induction n using Nat.strong_induction_on with
  | _ n ih =>
      intro x line ends within start row
      rw [row16]
      by_cases inside : x < xfin
      · rw [dif_pos (show (drawnTo law XBG x).x < xfin from inside),start (by omega),
          pair16_drawnTo inside row]
        generalize reached : min (x + 2 - (XBG.toNat + x) % 2) xfin = next
        apply ih (xfin - next) (by omega) (by omega) (by omega)
        · intro more
          rw [mirrored_pair HFlip (by omega),mirrored_pair HFlip (by omega)]
          unfold nextByte
          cases HFlip with
          | false =>
              change ((_ : Nat) : Int) + 1 = _
              rw [if_neg Bool.false_ne_true,if_neg Bool.false_ne_true]
              omega
          | true =>
              change ((_ : Nat) : Int) - 1 = _
              rw [if_pos rfl,if_pos rfl]
              omega
        · exact fun k first => row k (by omega)
      · rw [dif_neg (show ¬(drawnTo law XBG x).x < xfin from inside)]
        congr 1
        omega

def Row256 (law : Nat → Submission) (XBG : u16) (vid : VideoMemory) (color : Nat → u16)
    (HFlip : Bool) (base x xfin : Nat) : Prop :=
  ∀ k, x ≤ k → k < xfin →
    let i := (vid.ARM9_LCD (base + mirrored HFlip ((XBG.toNat + k) % 8))).toNat
    law k = ⟨color i,k,i⟩

theorem row256_drawnTo (n : Nat) : ∀ {x : Nat} {line : Int}, x + n = xfin →
    (XBG.toNat + x) % 8 + n ≤ 8 →
    (0 < n → line = (base + mirrored HFlip ((XBG.toNat + x) % 8) : Nat)) →
    Row256 law XBG vid color HFlip base x xfin →
    row256 vid color HFlip xfin line (drawnTo law XBG x) = drawnTo law XBG xfin := by
  induction n with
  | zero =>
      intro x line ends within start row
      have done : ¬x < xfin := by omega
      rw [row256,if_neg (show ¬(drawnTo law XBG x).x < xfin from done),← ends,Nat.add_zero]
  | succ n ih =>
      intro x line ends within start row
      have inside : x < xfin := by omega
      rw [row256,if_pos (show (drawnTo law XBG x).x < xfin from inside),start (by omega)]
      dsimp only
      rw [Int.toNat_natCast,submit_drawnTo (row x (Nat.le_refl x) inside)]
      apply ih (by omega) (by omega)
      · intro more
        unfold nextByte mirrored
        cases HFlip with
        | false =>
            change ((_ : Nat) : Int) + 1 = _
            rw [if_neg Bool.false_ne_true,if_neg Bool.false_ne_true]
            omega
        | true =>
            change ((_ : Nat) : Int) - 1 = _
            rw [if_pos rfl,if_pos rfl]
            omega
      · exact fun k first => row k (by omega)

theorem textTiles_drawnTo {tile : Nat → TextCursor → TextCursor} {LG : Nat}
    (draws : ∀ x xfin, x < xfin → (XBG.toNat + x) % 8 + (xfin - x) ≤ 8 →
      tile xfin (drawnTo law XBG x) = drawnTo law XBG xfin) (fuel : Nat) :
    ∀ {x xfin : Nat}, LG - x < fuel → x ≤ LG → (x < LG → x < xfin) → xfin ≤ LG →
      (x < LG → (XBG.toNat + x) % 8 + (xfin - x) ≤ 8) →
      (x < LG → xfin < LG → (XBG.toNat + xfin) % 8 = 0) →
      textTiles tile LG fuel xfin (drawnTo law XBG x) = some (drawnTo law XBG LG) := by
  induction fuel with
  | zero => exact fun enough => absurd enough (Nat.not_lt_zero _)
  | succ fuel ih =>
      intro x xfin enough within ahead fits inTile aligned
      unfold textTiles
      by_cases inside : x < LG
      · rw [if_pos (show (drawnTo law XBG x).x < LG from inside)]
        dsimp only
        rw [draws x xfin (ahead inside) (inTile inside)]
        change textTiles tile LG fuel (min (xfin + 8) LG) _ = _
        have further := ahead inside
        apply ih (by omega) fits (by omega) (by omega)
        · intro more
          have start := aligned inside more
          omega
        · intro more partly
          have start := aligned inside more
          omega
      · rw [if_neg (show ¬(drawnTo law XBG x).x < LG from inside),
          Nat.le_antisymm within (Nat.le_of_not_lt inside)]

end

/-! ### The pixel law -/

/-- The map entry of a cell of the layer, whose 32x32 sub-maps are 0x800 bytes each. -/
def cellEntry (vid : VideoMemory) (map width column row : Nat) : TILEENTRY :=
  let subMap := column / 256 + row / 256 * (width / 256)
  ⟨vid.wordAt (map + subMap * 0x800 + row / 8 % 32 * 64 + column / 8 % 32 * 2 : Nat)⟩

def textLaw (gpu : GPU) (vid : VideoMemory) (num : Fin 4) (XBG YBG : u16) (x : Nat) : Submission :=
  let bg := gpu.background num
  let column := (XBG.toNat + x) % bg.BGSize.1
  let row := YBG.toNat % bg.BGSize.2
  let entry := cellEntry vid bg.BG_map_ram bg.BGSize.1 column row
  let u := mirrored entry.HFlip (column % 8)
  let v := mirrored entry.VFlip (row % 8)
  if (gpu.bgcnt num).Palette_256 then
    let i := (vid.byteAt (bg.BG_tile_ram + entry.TileNum.val * 64 + v * 8 + u : Nat)).toNat
    let set := if gpu.dispCnt.ExBGxPalette_Enable then entry.Palette.val * 256 else 0
    ⟨pal256 gpu vid num (i + set),x,i⟩
  else
    let pair := (vid.byteAt (bg.BG_tile_ram + entry.TileNum.val * 32 + v * 4 + u / 2 : Nat)).toNat
    let i := half pair u
    ⟨bgPalette vid gpu.core (i + entry.Palette.val * 16),x,i⟩

theorem gpuMap_nat (vid : VideoMemory) (addr : Nat) :
    vid.gpuMap addr =
      (vid.mapping.vram_arm9_map ⟨addr / 2 ^ 14 % 512,Nat.mod_lt _ (Nat.succ_pos 511)⟩).toNat *
        2 ^ 14 + addr % 2 ^ 14 := by
  have low (val : Nat) : val &&& 511 = val % 512 := Nat.and_two_pow_sub_one_eq_mod val 9
  have within (val : Nat) : val &&& 16383 = val % 2 ^ 14 :=
    Nat.and_two_pow_sub_one_eq_mod val 14
  have page : Vram.masked (BitVec.ofNat 32 addr >>> 14) (Vram.VRAM_ARM9_PAGES - 1) =
      (⟨addr / 2 ^ 14 % 512,Nat.mod_lt _ (Nat.succ_pos 511)⟩ : Fin 512) := by
    apply Fin.ext
    change ((BitVec.ofNat 32 addr >>> 14) &&& BitVec.ofNat 32 511).toNat = _
    rw [BitVec.toNat_and,BitVec.toNat_ushiftRight,BitVec.toNat_ofNat,BitVec.toNat_ofNat,
      Nat.shiftRight_eq_div_pow]
    change _ &&& 511 = addr / 2 ^ 14 % 512
    rw [low]
    omega
  have off : (BitVec.ofNat 32 addr &&& 0x3FFF).toNat = addr % 2 ^ 14 := by
    rw [BitVec.toNat_and,BitVec.toNat_ofNat]
    change _ &&& 16383 = _
    rw [within]
    omega
  unfold VideoMemory.gpuMap Vram.MMU_gpu_map
  dsimp only
  rw [BitVec.ofInt_natCast,off,Nat.shiftLeft_eq]
  exact congrArg (fun page => BitVec.toNat (vid.mapping.vram_arm9_map page) * 2 ^ 14 + _) page

theorem gpuMap_add (vid : VideoMemory) {base off : Nat} (together : base % 2 ^ 14 + off < 2 ^ 14) :
    vid.gpuMap (base + off : Nat) = vid.gpuMap base + off := by
  have page : (base + off) / 2 ^ 14 = base / 2 ^ 14 := by omega
  rw [gpuMap_nat,gpuMap_nat]
  simp only [page]
  omega

section

variable {gpu : GPU} {vid : VideoMemory} {num : Fin 4} {XBG YBG : u16}

structure TextBackground (gpu : GPU) (num : Fin 4) : Prop where
  size : (gpu.background num).BGSize = sizeTab .Text (gpu.bgcnt num).ScreenSize
  width : (gpu.background num).BGSize.1 = 256 ∨ (gpu.background num).BGSize.1 = 512
  height : (gpu.background num).BGSize.2 = 256 ∨ (gpu.background num).BGSize.2 = 512
  tiles : (gpu.background num).BG_tile_ram % 2 ^ 14 = 0

theorem sizes_text (screenSize : Fin 4) :
    ((sizeTab .Text screenSize).1 = 256 ∨ (sizeTab .Text screenSize).1 = 512) ∧
      ((sizeTab .Text screenSize).2 = 256 ∨ (sizeTab .Text screenSize).2 = 512) := by
  revert screenSize
  decide

theorem textBackground (current : BackgroundCurrent gpu num)
    (text : GPU_mode2type gpu.dispCnt.BG_Mode num = .Text) : TextBackground gpu num := by
  have type : GPU.bgType gpu.dispCnt (gpu.bgcnt num) num = .Text := by
    unfold GPU.bgType
    rw [text]
  have size : (gpu.background num).BGSize = sizeTab .Text (gpu.bgcnt num).ScreenSize := by
    rw [current,← type]
    rfl
  refine ⟨size,?_,?_,?_⟩
  · rw [size]
    exact (sizes_text _).1
  · rw [size]
    exact (sizes_text _).2
  · rw [current]
    unfold GPU.backgroundOf MMU_BBG MMU_ABG
    dsimp only
    cases gpu.core with
    | GPU_MAIN =>
        dsimp only
        omega
    | GPU_SUB =>
        dsimp only
        omega

theorem masked_cell (val : u16) {size : Nat} (text : size = 256 ∨ size = 512) :
    ((val &&& (BitVec.ofNat 16 size - 1)) >>> 3).toNat = val.toNat % size / 8 := by
  have mask : (BitVec.ofNat 16 size - 1).toNat = size - 1 := by
    rcases text with rfl | rfl <;> rfl
  have low : val.toNat &&& (size - 1) = val.toNat % size := by
    rcases text with rfl | rfl
    · exact Nat.and_two_pow_sub_one_eq_mod _ 8
    · exact Nat.and_two_pow_sub_one_eq_mod _ 9
  rw [BitVec.toNat_ushiftRight,BitVec.toNat_and,mask,low,Nat.shiftRight_eq_div_pow]

theorem subMap_offset (screenSize : Fin 4) (X Y : Nat) :
    let size := sizeTab .Text screenSize
    (if Y % size.2 / 8 > 31 then 0x200 * 2 ^ screenSize.val else 0) +
        (if X % size.1 / 8 > 31 then 32 * 32 * 2 else 0) =
      (X % size.1 / 256 + Y % size.2 / 256 * (size.1 / 256)) * 0x800 := by
  have table : (sizeTab .Text screenSize, 0x200 * 2 ^ screenSize.val) ∈
      [((256, 256), 0x200),((512, 256), 0x400),((256, 512), 0x800),((512, 512), 0x1000)] := by
    revert screenSize
    decide
  dsimp only
  generalize sizeTab .Text screenSize = size at table
  generalize 0x200 * 2 ^ screenSize.val = step at table
  simp only [List.mem_cons,Prod.mk.injEq,List.not_mem_nil,or_false] at table
  obtain ⟨rfl,rfl⟩ | ⟨rfl,rfl⟩ | ⟨rfl,rfl⟩ | ⟨rfl,rfl⟩ := table
  all_goals
    dsimp only
    split_ifs
    all_goals omega

theorem textEntry_eq (bg : TextBackground gpu num) (x : Nat) :
    tileentryAt gpu vid num YBG (XBG + BitVec.ofNat 16 x) =
      cellEntry vid (gpu.background num).BG_map_ram (gpu.background num).BGSize.1
        ((XBG.toNat + x) % (gpu.background num).BGSize.1)
        (YBG.toNat % (gpu.background num).BGSize.2) := by
  have divides : (gpu.background num).BGSize.1 ∣ 2 ^ 16 := by
    rcases bg.width with width | width <;> rw [width] <;> decide
  have column : (XBG + BitVec.ofNat 16 x).toNat % (gpu.background num).BGSize.1 =
      (XBG.toNat + x) % (gpu.background num).BGSize.1 := by
    rw [BitVec.toNat_add,BitVec.toNat_ofNat,Nat.add_mod_mod,Nat.mod_mod_of_dvd _ divides]
  unfold tileentryAt textEntry cellEntry
  dsimp only
  rw [masked_cell _ bg.width,masked_cell _ bg.height,column]
  congr 3
  rw [bg.size]
  have subMap := subMap_offset (gpu.bgcnt num).ScreenSize (XBG.toNat + x) YBG.toNat
  dsimp only at subMap
  omega

theorem cellEntry_congr {map width column other row : Nat} (cell : column / 8 = other / 8) :
    cellEntry vid map width column row = cellEntry vid map width other row := by
  have outer : column / 256 = other / 256 := by omega
  unfold cellEntry
  rw [cell,outer]

variable (vid XBG YBG) in
theorem entry_inTile (bg : TextBackground gpu num) {x k : Nat} (behind : x ≤ k)
    (within : (XBG.toNat + x) % 8 + (k - x) < 8) :
    cellEntry vid (gpu.background num).BG_map_ram (gpu.background num).BGSize.1
        ((XBG.toNat + k) % (gpu.background num).BGSize.1)
        (YBG.toNat % (gpu.background num).BGSize.2) =
      tileentryAt gpu vid num YBG (XBG + BitVec.ofNat 16 x) := by
  rw [textEntry_eq bg]
  apply cellEntry_congr
  rcases bg.width with width | width
  · rw [width]
    omega
  · rw [width]
    omega

theorem mirrored_row (VFlip : Bool) (val step : Nat) :
    mirrored VFlip (val % 8) * step =
      if VFlip then 7 * step - val % 8 * step else val % 8 * step := by
  unfold mirrored
  split
  · exact Nat.sub_mul _ _ _
  · rfl

theorem mod_sizes (val : Nat) {size : Nat} (text : size = 256 ∨ size = 512) :
    val % size % 8 = val % 8 := by
  rcases text with rfl | rfl
  · omega
  · omega

theorem mirrored_le (flip : Bool) (val : Nat) : mirrored flip (val % 8) ≤ 7 := by
  unfold mirrored
  split
  · exact Nat.sub_le _ _
  · omega

/-- The address of the row of a tile whose rows are `step` bytes. -/
def rowAt (gpu : GPU) (vid : VideoMemory) (num : Fin 4) (YBG : u16) (step : Nat)
    (tileentry : TILEENTRY) : Nat :=
  let yoff := YBG.toNat % 8 * step
  vid.gpuMap ((gpu.background num).BG_tile_ram + tileentry.TileNum.val * (8 * step) +
    if tileentry.VFlip then 7 * step - yoff else yoff)

theorem byteAt_row (bg : TextBackground gpu num) {step off : Nat}
    (page : step = 4 ∨ step = 8) (inside : off < step) (tileentry : TILEENTRY) :
    vid.byteAt ((gpu.background num).BG_tile_ram + tileentry.TileNum.val * (8 * step) +
        mirrored tileentry.VFlip (YBG.toNat % 8) * step + off : Nat) =
      vid.ARM9_LCD (rowAt gpu vid num YBG step tileentry + off) := by
  have tiles := bg.tiles
  have together : ((gpu.background num).BG_tile_ram + tileentry.TileNum.val * (8 * step) +
      mirrored tileentry.VFlip (YBG.toNat % 8) * step) % 2 ^ 14 + off < 2 ^ 14 := by
    rcases page with rfl | rfl
    · omega
    · omega
  unfold VideoMemory.byteAt rowAt
  rw [gpuMap_add vid together,mirrored_row]
  push_cast
  rfl

theorem textLaw_16 (bg : TextBackground gpu num) (sixteen : (gpu.bgcnt num).Palette_256 = false)
    {x k : Nat} (behind : x ≤ k) (within : (XBG.toNat + x) % 8 + (k - x) < 8) :
    let tileentry := tileentryAt gpu vid num YBG (XBG + BitVec.ofNat 16 x)
    let texel := mirrored tileentry.HFlip ((XBG.toNat + k) % 8)
    let i := half
      (vid.ARM9_LCD (rowAt gpu vid num YBG 4 tileentry + texel / 2)).toNat texel
    textLaw gpu vid num XBG YBG k =
      ⟨bgPalette vid gpu.core (i + tileentry.Palette.val * 16),k,i⟩ := by
  have columns := mod_sizes (XBG.toNat + k) bg.width
  have rows := mod_sizes YBG.toNat bg.height
  unfold textLaw
  dsimp only
  rw [sixteen,if_neg Bool.false_ne_true,entry_inTile vid XBG YBG bg behind within]
  simp only [columns,rows]
  have column := mirrored_le (tileentryAt gpu vid num YBG (XBG + BitVec.ofNat 16 x)).HFlip
    (XBG.toNat + k)
  rw [byteAt_row bg (Or.inl rfl) (by omega)]

theorem textLaw_256 (bg : TextBackground gpu num) (many : (gpu.bgcnt num).Palette_256 = true)
    {x k : Nat} (behind : x ≤ k) (within : (XBG.toNat + x) % 8 + (k - x) < 8) :
    let tileentry := tileentryAt gpu vid num YBG (XBG + BitVec.ofNat 16 x)
    let i := (vid.ARM9_LCD (rowAt gpu vid num YBG 8 tileentry +
      mirrored tileentry.HFlip ((XBG.toNat + k) % 8))).toNat
    let set := if gpu.dispCnt.ExBGxPalette_Enable then tileentry.Palette.val * 256 else 0
    textLaw gpu vid num XBG YBG k = ⟨pal256 gpu vid num (i + set),k,i⟩ := by
  have columns := mod_sizes (XBG.toNat + k) bg.width
  have rows := mod_sizes YBG.toNat bg.height
  unfold textLaw
  dsimp only
  rw [many,if_pos rfl,entry_inTile vid XBG YBG bg behind within]
  simp only [columns,rows]
  have column := mirrored_le (tileentryAt gpu vid num YBG (XBG + BitVec.ofNat 16 x)).HFlip
    (XBG.toNat + k)
  rw [byteAt_row bg (Or.inr rfl) (by omega)]

theorem tile_drawnTo (bg : TextBackground gpu num) {x xfin : Nat} (inside : x < xfin)
    (within : (XBG.toNat + x) % 8 + (xfin - x) ≤ 8) :
    (if (gpu.bgcnt num).Palette_256 then tile256 gpu vid num YBG else tile16 gpu vid num YBG)
        xfin (drawnTo (textLaw gpu vid num XBG YBG) XBG x) =
      drawnTo (textLaw gpu vid num XBG YBG) XBG xfin := by
  have xoff : (drawnTo (textLaw gpu vid num XBG YBG) XBG x).xoff.toNat % 8 = _ :=
    drawnTo_xoff x (by decide)
  cases colors : (gpu.bgcnt num).Palette_256 with
  | true =>
      rw [if_pos rfl]
      unfold tile256
      dsimp only
      rw [xoff]
      apply row256_drawnTo (xfin - x) (by omega) within
      · intro more
        rfl
      · exact fun k first last => textLaw_256 bg colors first (by omega)
  | false =>
      rw [if_neg Bool.false_ne_true]
      unfold tile16
      dsimp only
      rw [xoff]
      apply row16_drawnTo (xfin - x) (by omega) within
      · intro more
        rw [mirrored_pair _ (Nat.mod_lt _ (Nat.succ_pos 7))]
      · exact fun k first last => textLaw_16 bg colors first (by omega)

theorem drawn_eq (color : Nat → u16) (x i : Nat) :
    (if i = 0 then none else some (color i)).map (fun color => (x, color)) =
      Submission.drawn ⟨color i,x,i⟩ := by
  unfold Submission.drawn
  split
  · rfl
  · rfl

theorem half_upper (HFlip : Bool) (pair xoff : Nat) :
    (if (xoff % 2 == 1) != HFlip then pair / 16 else pair % 16) =
      half pair (mirrored HFlip (xoff % 8)) := by
  have parity : xoff % 8 % 2 = xoff % 2 := by omega
  rw [half_mirrored HFlip pair (Nat.mod_lt _ (Nat.succ_pos 7)),parity]
  rcases Nat.mod_two_eq_zero_or_one xoff with even | odd
  · rw [even]
    cases HFlip <;> rfl
  · rw [odd]
    cases HFlip <;> rfl

theorem textPixel_eq (bg : TextBackground gpu num) (x : Nat) :
    (textPixel gpu vid num (XBG + BitVec.ofNat 16 x) YBG).map (fun color => (x, color)) =
      (textLaw gpu vid num XBG YBG x).drawn := by
  have within : (XBG.toNat + x) % 8 + (x - x) < 8 := by omega
  have xoff : (XBG + BitVec.ofNat 16 x).toNat % 8 = (XBG.toNat + x) % 8 :=
    @drawnTo_xoff (fun x => ⟨0,x,0⟩) XBG x 8 (by decide)
  unfold textPixel
  dsimp only
  cases colors : (gpu.bgcnt num).Palette_256 with
  | true =>
      rw [textLaw_256 bg colors (Nat.le_refl x) within,if_pos rfl]
      unfold textPixel256
      simp only [xoff]
      exact drawn_eq (fun i => pal256 gpu vid num (i + _)) x _
  | false =>
      have law := @textLaw_16 gpu vid num XBG YBG bg colors x x (Nat.le_refl x) within
      dsimp only at law
      rw [mirrored_pair _ (Nat.mod_lt _ (Nat.succ_pos 7))] at law
      rw [law,if_neg Bool.false_ne_true]
      unfold textPixel16
      simp only [half_upper,xoff]
      exact drawn_eq (fun i => bgPalette vid gpu.core (i + _)) x _

end

/-- The loops end, and submit every column of the line once, in order, with the
texel of the map entry of its cell; the index 0 is transparent. -/
theorem text_line_law (gpu : GPU) (vid : VideoMemory) (num : Fin 4)
    (current : BackgroundCurrent gpu num) (text : GPU_mode2type gpu.dispCnt.BG_Mode num = .Text) :
    (∀ XBG YBG, ∀ fuel > 256, renderline_textBG gpu vid num YBG fuel XBG 256 =
      some ((List.range 256).map (textLaw gpu vid num XBG YBG))) ∧
    lineText gpu vid num =
      ((List.range 256).map (textLaw gpu vid num (gpu.dispx_st.BGxHOFS num &&& 0x1FF)
        (BitVec.ofNat 16 gpu.currLine + (gpu.dispx_st.BGxVOFS num &&& 0x1FF)))).filterMap
        Submission.drawn := by
  have bg := textBackground current text
  constructor
  · intro XBG YBG fuel enough
    have start : (⟨[],0,XBG⟩ : TextCursor) =
        drawnTo (textLaw gpu vid num XBG YBG) XBG 0 := by
      unfold drawnTo
      rw [List.range_zero,List.map_nil]
      congr 1
      exact (add_zero XBG).symm
    unfold renderline_textBG
    dsimp only
    rw [start,textTiles_drawnTo]
    · rfl
    · exact fun x xfin inside within => tile_drawnTo bg inside within
    all_goals omega
  · unfold lineText opaquePixels
    dsimp only
    rw [List.filterMap_map]
    congr 1
    funext x
    exact textPixel_eq bg x

theorem text_line_law_scrolled :
    renderline_textBG ((GPU_Reset .GPU_MAIN).GPU_setBGProp sampleConfig 1 0xC084) sampleVideo 1 7
        257 0x1FD 256 =
      some ((List.range 256).map
        (textLaw ((GPU_Reset .GPU_MAIN).GPU_setBGProp sampleConfig 1 0xC084) sampleVideo 1
          0x1FD 7)) :=
  (text_line_law ((GPU_Reset .GPU_MAIN).GPU_setBGProp sampleConfig 1 0xC084) sampleVideo 1
    (backgroundCurrent_setBGProp sampleConfig _ 1 0xC084) (by decide +kernel)).1 0x1FD 7 257
    (by decide)

end Desmume.Gpu
