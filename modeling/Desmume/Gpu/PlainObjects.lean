/-
Rotated objects with the unit matrix: the two halves of `_spriteRender`.

Both visit the same dots. They differ in how they address the data, in the
alpha of bitmaps, and in what they do with the object window.
-/

import Desmume.Gpu.TextLines

namespace Desmume.Gpu

/-- No flips, no double size, and the unit matrix. -/
structure Untransformed (gpu : GPU) (vid : VideoMemory) (info : OAMAttributes) : Prop where
  HFlip : info.HFlip = false
  VFlip : info.VFlip = false
  DoubleSize : info.DoubleSize = false
  dx : rotoParameter vid gpu.core info 0 = 0x100
  dmx : rotoParameter vid gpu.core info 1 = 0
  dy : rotoParameter vid gpu.core info 2 = 0
  dmy : rotoParameter vid gpu.core info 3 = 0x100

section

variable {α : Type} (gpu : GPU) (vid : VideoMemory) (info : OAMAttributes)

def spanOf (left length : Nat) (found : Nat → Option α) : List (Nat × α) :=
  (List.range length).filterMap (fun j => (found j).map (fun item => (left + j, item)))

def plainSpan (found : Nat → Int → Option α) : List (Nat × α) :=
  match compute_sprite_vars info gpu.currLine with
  | none => []
  | some vars => spanOf vars.sprX vars.lg (fun j => found vars.y (vars.x + j * vars.xdir))

def rotoSpan (found : Nat → Nat → Option α) : List (Nat × α) :=
  let size := info.sprSize
  let fieldX := if info.DoubleSize then size.1 * 2 else size.1
  let fieldY := if info.DoubleSize then size.2 * 2 else size.2
  let y := (((gpu.currLine : Int) - info.Y) % 256).toNat
  if fieldY ≤ y then []
  else if info.X = 256 ∨ info.X + fieldX ≤ 0 then []
  else
    let dx := rotoParameter vid gpu.core info 0
    let dmx := rotoParameter vid gpu.core info 1
    let dy := rotoParameter vid gpu.core info 2
    let dmy := rotoParameter vid gpu.core info 3
    let realX := size.1 * 128 - (fieldX / 2 : Nat) * dx - (fieldY / 2 : Nat) * dmx + y * dmx
    let realY := size.2 * 128 - (fieldX / 2 : Nat) * dy - (fieldY / 2 : Nat) * dmy + y * dmy
    let hidden := max (-info.X) 0
    let lg := if info.X < 0 then fieldX + info.X
      else if 256 < info.X + fieldX then 256 - info.X else fieldX
    spanOf info.X.toNat lg.toNat (fun j =>
      let auxX := (realX + (hidden + j) * dx) / 256
      let auxY := (realY + (hidden + j) * dy) / 256
      if 0 ≤ auxX ∧ 0 ≤ auxY ∧ auxX < size.1 ∧ auxY < size.2 then
        found auxX.toNat auxY.toNat
      else none)

theorem plainDots_eq : plainDots gpu vid info = plainSpan gpu info (plainDot gpu vid info) := rfl

theorem rotoDots_eq :
    rotoDots gpu vid info = rotoSpan gpu vid info (rotoDot gpu vid info) := rfl

end

/-- The visible dots: the first position, the first column, their number and
the row. -/
structure ShownRow where
  left : Nat
  column : Nat
  length : Nat
  row : Nat

def visible (info : OAMAttributes) (l : Nat) : Option ShownRow :=
  let size := info.sprSize
  let row := (((l : Int) - info.Y) % 256).toNat
  if row < size.2 ∧ 0 < info.X + size.1 then
    some
      { left := info.X.toNat
        column := (-info.X).toNat
        length := min (size.1 - (-info.X).toNat) (256 - info.X.toNat)
        row := row }
  else none

section

variable {α : Type} {gpu : GPU} {vid : VideoMemory} {info : OAMAttributes}

theorem sprSize_bounds (info : OAMAttributes) :
    8 ≤ info.sprSize.1 ∧ info.sprSize.1 ≤ 64 ∧ info.sprSize.1 % 2 = 0 ∧
      info.sprSize.2 ≤ 64 ∧ info.sprSize.2 % 2 = 0 := by
  unfold OAMAttributes.sprSize
  generalize info.Size = size
  generalize info.Shape = shape
  revert size shape
  decide

theorem X_bounds (info : OAMAttributes) : -256 ≤ info.X ∧ info.X < 256 := by
  unfold OAMAttributes.X
  have low := BitVec.le_toInt (info.attr1.setWidth 9)
  have high := BitVec.toInt_lt (x := info.attr1.setWidth 9)
  omega

theorem visible_bounds {l : Nat} {v : ShownRow} (shown : visible info l = some v) :
    v.left + v.length ≤ 256 ∧ v.column + v.length ≤ info.sprSize.1 ∧ v.row < info.sprSize.2 := by
  have pos := X_bounds info
  unfold visible at shown
  dsimp only at shown
  split at shown
  next meets =>
    cases shown
    dsimp only
    omega
  next => cases shown

theorem plainSpan_eq (plain : Untransformed gpu vid info) (found : Nat → Int → Option α) :
    plainSpan gpu info found =
      match visible info gpu.currLine with
      | none => []
      | some v => spanOf v.left v.length (fun j => found v.row (v.column + j : Nat)) := by
  have pos := X_bounds info
  have size := sprSize_bounds info
  unfold plainSpan compute_sprite_vars visible
  dsimp only
  rw [plain.HFlip,plain.VFlip]
  generalize (((gpu.currLine : Int) - info.Y) % 256).toNat = row
  by_cases outside : info.sprSize.2 ≤ row ∨ info.X + info.sprSize.1 ≤ 0
  · rw [if_neg (show ¬(row < info.sprSize.2 ∧ 0 < info.X + info.sprSize.1) by omega)]
    by_cases below : info.sprSize.2 ≤ row
    · rw [if_pos below]
    · rw [if_neg below,if_pos (by omega)]
  · have left : (max info.X 0).toNat = info.X.toNat := by omega
    have length : (if 256 ≤ max info.X 0 + info.sprSize.1 then 256 - max info.X 0
        else info.sprSize.1 - max (-info.X) 0).toNat =
          min (info.sprSize.1 - (-info.X).toNat) (256 - info.X.toNat) := by
      split_ifs
      · omega
      · omega
    rw [if_neg (show ¬info.sprSize.2 ≤ row by omega),
      if_neg (show ¬(info.X = 256 ∨ info.X + info.sprSize.1 ≤ 0) by omega),
      if_pos (show row < info.sprSize.2 ∧ 0 < info.X + info.sprSize.1 by omega)]
    simp only [Bool.false_eq_true,if_false]
    rw [left,length]
    congr 1
    funext j
    congr 1
    omega

theorem rotoSpan_eq (plain : Untransformed gpu vid info) (found : Nat → Nat → Option α) :
    rotoSpan gpu vid info found =
      match visible info gpu.currLine with
      | none => []
      | some v => spanOf v.left v.length (fun j => found (v.column + j) v.row) := by
  have pos := X_bounds info
  have size := sprSize_bounds info
  unfold rotoSpan visible
  dsimp only
  rw [plain.DoubleSize,plain.dx,plain.dmx,plain.dy,plain.dmy]
  simp only [Bool.false_eq_true,if_false]
  generalize (((gpu.currLine : Int) - info.Y) % 256).toNat = row
  by_cases outside : info.sprSize.2 ≤ row ∨ info.X + info.sprSize.1 ≤ 0
  · rw [if_neg (show ¬(row < info.sprSize.2 ∧ 0 < info.X + info.sprSize.1) by omega)]
    by_cases below : info.sprSize.2 ≤ row
    · rw [if_pos below]
    · rw [if_neg below,if_pos (by omega)]
  · have length : (if info.X < 0 then info.sprSize.1 + info.X
        else if 256 < info.X + info.sprSize.1 then 256 - info.X else info.sprSize.1).toNat =
          min (info.sprSize.1 - (-info.X).toNat) (256 - info.X.toNat) := by
      split_ifs
      · omega
      · omega
      · omega
    rw [if_neg (show ¬info.sprSize.2 ≤ row by omega),
      if_neg (show ¬(info.X = 256 ∨ info.X + info.sprSize.1 ≤ 0) by omega),
      if_pos (show row < info.sprSize.2 ∧ 0 < info.X + info.sprSize.1 by omega),length]
    unfold spanOf
    dsimp only
    apply List.filterMap_congr
    intro j member
    have within := List.mem_range.mp member
    have column : ((info.sprSize.1 : Int) * 128 - (info.sprSize.1 / 2 : Nat) * 0x100 -
        (info.sprSize.2 / 2 : Nat) * 0 + row * 0 + (max (-info.X) 0 + j) * 0x100) / 256 =
          ((-info.X).toNat + j : Nat) := by omega
    have line : ((info.sprSize.2 : Int) * 128 - (info.sprSize.1 / 2 : Nat) * 0 -
        (info.sprSize.2 / 2 : Nat) * 0x100 + row * 0x100 + (max (-info.X) 0 + j) * 0) / 256 =
          (row : Nat) := by omega
    rw [column,line,if_pos (by omega),Int.toNat_natCast,Int.toNat_natCast]

end

/-- A place of the host memory and the number of bytes read there. -/
structure Read where
  place : Nat
  bytes : Nat
  deriving DecidableEq

section

variable (gpu : GPU) (vid : VideoMemory) (info : OAMAttributes)

variable (y auxX auxY x : Nat)

def columnOf : Nat := if info.PaletteMode_1x256 then column256 x else column16 x

def rowOf : Nat :=
  tileRow gpu info info.sprSize.1 (if info.PaletteMode_1x256 then 8 else 4) y

def objAddress : Int :=
  if info.Mode = 3 then bmp_sprite_address gpu info info.sprSize.1 y + (x : Int) * 2
  else (rowOf gpu info y + columnOf info x : Nat)

def objRead : Option Read :=
  if info.Mode = 3 then
    if info.PaletteIndex = 0 then none else some ⟨vid.gpuMap (objAddress gpu info y x),2⟩
  else some ⟨vid.gpuMap (objAddress gpu info y x),1⟩

/-- What `plainDot` reads. -/
def plainRead (x : Int) : Option Read :=
  if info.Mode = 2 then some ⟨vid.gpuMap (rowOf gpu info y) + columnOf info x.toNat,1⟩
  else if info.Mode = 3 then
    if info.PaletteIndex = 0 then none
    else some ⟨vid.gpuMap (bmp_sprite_address gpu info info.sprSize.1 y + x * 2),2⟩
  else some ⟨vid.gpuMap (rowOf gpu info y + columnOf info x.toNat : Nat),1⟩

/-- The place of a dot of tiles in `roto256` and `roto16`. -/
def rotoPlace : Nat :=
  if info.PaletteMode_1x256 then
    vid.gpuMap (gpu.sprMem + info.TileIndex.val * 2 ^ gpu.sprBoundary : Nat) +
      rotoTileOffset gpu info.sprSize.1 8 (column256 auxX) auxY
  else vid.gpuMap (rotoTiles gpu info) +
    rotoTileOffset gpu info.sprSize.1 4 (column16 auxX) auxY

/-- The address of a dot in `rotoDirect`. -/
def rotoAddress : Int :=
  let width := info.sprSize.1
  let srcadr := bmp_sprite_address gpu info width 0
  srcadr + (if gpu.dispCnt.OBJ_BMP_2D_dim then
      (bmp_sprite_address gpu info width auxY - srcadr) / 2 + auxX
    else auxX + auxY * width) * 2

/-- What `rotoDot` reads. -/
def rotoRead : Option Read :=
  if info.PaletteMode_1x256 then some ⟨rotoPlace gpu vid info auxX auxY,1⟩
  else if info.Mode = 3 then
    if info.PaletteIndex = 0 then none
    else some ⟨vid.gpuMap (rotoAddress gpu info auxX auxY),2⟩
  else some ⟨rotoPlace gpu vid info auxX auxY,1⟩

/-- Both renderings of the object leave the same tables, read its dots at their
OBJ addresses, and stay on the line. -/
structure RendersAlike (line : SpriteLine) : Prop where
  tables : (rotoDots gpu vid info).foldl (drawDot info.Priority.val) line =
    (plainDots gpu vid info).foldl (drawDot info.Priority.val) line
  plainReads : plainSpan gpu info (plainRead gpu vid info) =
    plainSpan gpu info (fun y x => objRead gpu vid info y x.toNat)
  rotoReads : rotoSpan gpu vid info (rotoRead gpu vid info) =
    rotoSpan gpu vid info (fun x y => objRead gpu vid info y x)
  positions : (∀ found ∈ plainSpan gpu info (fun _ _ => some ()), found.1 < 256) ∧
    ∀ found ∈ rotoSpan gpu vid info (fun _ _ => some ()), found.1 < 256

end

structure Cell where
  color : u16
  alpha : Nat
  type : Fin 4
  prio : Nat
  win : Bool

def SpriteLine.cell (line : SpriteLine) (x : Nat) : Cell where
  color := line.spr x
  alpha := line.sprAlpha x
  type := line.sprType x
  prio := line.sprPrio x
  win := line.sprWin x

def Cell.draw (cell : Cell) (prio : Nat) : Option Dot → Cell
  | none => cell
  | some (.color color alpha type) =>
      if prio < cell.prio then { color, alpha, type, prio, win := cell.win } else cell
  | some (.window tested) =>
      if tested ∧ ¬prio < cell.prio then cell else { cell with win := true }

theorem eq_iff_cells {first second : SpriteLine} :
    first = second ↔ ∀ x, first.cell x = second.cell x := by
  constructor
  · intro same x
    rw [same]
  · intro same
    obtain ⟨spr,alpha,type,prio,win⟩ := first
    obtain ⟨spr',alpha',type',prio',win'⟩ := second
    simp only [SpriteLine.cell,Cell.mk.injEq] at same
    simp only [SpriteLine.mk.injEq]
    exact ⟨funext fun x => (same x).1, funext fun x => (same x).2.1,
      funext fun x => (same x).2.2.1, funext fun x => (same x).2.2.2.1,
      funext fun x => (same x).2.2.2.2⟩

theorem cell_drawDot (prio : Nat) (line : SpriteLine) (place : Nat) (dot : Dot) (x : Nat) :
    (drawDot prio line (place, dot)).cell x =
      if place = x then (line.cell x).draw prio (some dot) else line.cell x := by
  by_cases here : place = x
  · subst here
    rw [if_pos rfl]
    cases dot with
    | color color alpha type =>
        unfold drawDot Cell.draw SpriteLine.cell
        dsimp only
        split_ifs
        · simp only [Function.update_self]
        · rfl
    | window tested =>
        unfold drawDot Cell.draw SpriteLine.cell
        dsimp only
        split_ifs
        · rfl
        · simp only [Function.update_self]
  · rw [if_neg here]
    have apart : x ≠ place := Ne.symm here
    cases dot with
    | color color alpha type =>
        unfold drawDot SpriteLine.cell
        dsimp only
        split_ifs
        · simp only [Function.update_of_ne apart]
        · rfl
    | window tested =>
        unfold drawDot SpriteLine.cell
        dsimp only
        split_ifs
        · rfl
        · simp only [Function.update_of_ne apart]

theorem cell_spanOf (prio : Nat) (line : SpriteLine) (left length : Nat)
    (dot : Nat → Option Dot) (x : Nat) :
    ((spanOf left length dot).foldl (drawDot prio) line).cell x =
      if left ≤ x ∧ x < left + length then (line.cell x).draw prio (dot (x - left))
      else line.cell x := by
  induction length with
  | zero =>
      rw [if_neg (by omega)]
      rfl
  | succ length ih =>
      unfold spanOf at ih ⊢
      rw [List.range_succ,List.filterMap_append,List.foldl_append,List.filterMap_cons]
      cases found : dot length with
      | none =>
          change (List.foldl _ line _).cell x = _
          rw [ih]
          by_cases last : x = left + length
          · rw [last,Nat.add_sub_cancel_left,found]
            split_ifs <;> rfl
          · exact if_congr (by omega) rfl rfl
      | some item =>
          change (drawDot prio (List.foldl _ line _) (left + length, item)).cell x = _
          rw [cell_drawDot,ih]
          by_cases last : left + length = x
          · rw [if_pos last,if_neg (by omega),if_pos (by omega),← last,
              Nat.add_sub_cancel_left,found]
          · rw [if_neg last]
            exact if_congr (by omega) rfl rfl

theorem mem_spanOf {α : Type} {left length j : Nat} {found : Nat → Option α} {item : α} :
    (left + j, item) ∈ spanOf left length found ↔ j < length ∧ found j = some item := by
  unfold spanOf
  rw [List.mem_filterMap]
  constructor
  · rintro ⟨k,member,same⟩
    obtain ⟨val,there,pair⟩ := Option.map_eq_some_iff.mp same
    obtain ⟨place,rfl⟩ := Prod.mk.inj pair
    cases Nat.add_left_cancel place
    exact ⟨List.mem_range.mp member,there⟩
  · rintro ⟨inside,there⟩
    exact ⟨j,List.mem_range.mpr inside,by rw [there]; rfl⟩

theorem spanOf_eq_iff {α : Type} {left length : Nat} {first second : Nat → Option α} :
    spanOf left length first = spanOf left length second ↔
      ∀ j < length, first j = second j := by
  constructor
  · intro same j inside
    apply Option.ext
    intro item
    have there := @mem_spanOf α left length j first item
    rw [same,mem_spanOf] at there
    simpa [inside] using there.symm
  · intro same
    apply List.filterMap_congr
    intro j member
    rw [same j (List.mem_range.mp member)]

/-! ### One dot -/

section

variable (gpu : GPU) (vid : VideoMemory) (info : OAMAttributes)

def tileIndex (x : Nat) (byte : u8) : Nat :=
  if info.PaletteMode_1x256 then byte.toNat else nibble byte x

variable (i : Nat)

def tileColor : u16 :=
  if info.PaletteMode_1x256 then objPalette256 gpu vid info i
  else objPalette16 gpu vid info i

def plainTile : Option Dot :=
  if i = 0 then none
  else if info.Mode = 2 then some (.window false)
  else some (.color (tileColor gpu vid info i) 255 (if info.Mode = 1 then 1 else 0))

def rotoTile : Option Dot :=
  if i = 0 then none
  else if info.Mode = 2 ∧ info.PaletteMode_1x256 = false then some (.window true)
  else some (.color (tileColor gpu vid info i) 255 info.Mode)

variable {gpu vid info} {x y : Nat}

theorem plainDot_tile (tiles : info.Mode ≠ 3) :
    plainDot gpu vid info y x = plainTile gpu vid info (tileIndex info x (vid.ARM9_LCD
      (if info.Mode = 2 then vid.gpuMap (rowOf gpu info y) + columnOf info x
        else vid.gpuMap (rowOf gpu info y + columnOf info x : Nat)))) := by
  unfold plainDot plainTile tileIndex tileColor rowOf columnOf
  dsimp only
  by_cases win : info.Mode = 2
  · rw [if_pos win,if_pos win]
    unfold render_sprite_Win
    dsimp only
    rw [Int.toNat_natCast]
    cases colors : info.PaletteMode_1x256 with
    | true =>
        simp only [if_true,if_pos win]
        generalize vid.ARM9_LCD _ = byte
        have zero : byte.toNat = 0 ↔ byte = 0 := (@BitVec.toNat_eq 8 byte 0).symm
        simp only [zero,ite_not]
    | false => simp only [Bool.false_eq_true,if_false,if_pos win,ite_not]
  · rw [if_neg win,if_neg tiles,if_neg win]
    unfold render_sprite_256 render_sprite_16
    dsimp only
    rw [Int.toNat_natCast]
    cases colors : info.PaletteMode_1x256 with
    | true =>
        simp only [if_true,if_neg win]
        rfl
    | false =>
        simp only [Bool.false_eq_true,if_false,if_neg win]
        rfl

theorem rotoDot_tile (tiles : info.Mode ≠ 3) :
    rotoDot gpu vid info x y =
      rotoTile gpu vid info (tileIndex info x (vid.ARM9_LCD (rotoPlace gpu vid info x y))) := by
  unfold rotoDot rotoTile tileIndex tileColor rotoPlace
  cases colors : info.PaletteMode_1x256 with
  | true =>
      simp only [if_true,Bool.true_eq_false,and_false,if_false]
      rfl
  | false =>
      simp only [Bool.false_eq_true,if_false,if_neg tiles,and_true]
      rfl

variable (gpu vid info) in
/-- When the two halves agree on the dot at position `p`, from column `x` of row `y`. -/
def DotRight (line : SpriteLine) (y x p : Nat) : Prop :=
  let free := info.Priority.val < line.sprPrio p
  let place := vid.gpuMap (objAddress gpu info y x)
  if info.Mode = 3 then
    info.PaletteMode_1x256 = false ∧
      (info.PaletteIndex = 0 ∨ vid.gpuMap (rotoAddress gpu info x y) = place ∧
        ((vid.wordAt (objAddress gpu info y x)).getLsbD 15 = true → ¬free))
  else
    rotoPlace gpu vid info x y = place ∧
      (info.Mode = 2 → vid.gpuMap (rowOf gpu info y) + columnOf info x = place ∧
        (tileIndex info x (vid.ARM9_LCD place) ≠ 0 →
          if info.PaletteMode_1x256 then line.sprWin p = true ∧ ¬free
          else line.sprWin p = true ∨ free))

theorem draw_window (cell : Cell) (prio : Nat) :
    cell.draw prio (some (.window false)) = { cell with win := true } := by
  unfold Cell.draw
  exact if_neg (fun both => Bool.false_ne_true both.1)

theorem win_eq_iff (cell : Cell) : { cell with win := true } = cell ↔ cell.win = true := by
  obtain ⟨color,alpha,type,prio,win⟩ := cell
  simp only [Cell.mk.injEq,true_and]
  exact eq_comm

/-- A window dot of 16 colours: only the rotated one waits for the priority. -/
theorem draw_windows_iff (cell : Cell) (prio : Nat) :
    cell.draw prio (some (.window true)) = cell.draw prio (some (.window false)) ↔
      cell.win = true ∨ prio < cell.prio := by
  rw [draw_window]
  unfold Cell.draw
  dsimp only
  by_cases free : prio < cell.prio
  · simp [free]
  · rw [if_pos ⟨rfl,free⟩,eq_comm,win_eq_iff]
    simp [free]

/-- A window dot of 256 colours is a coloured dot when rotated. -/
theorem draw_color_window_iff (cell : Cell) (prio : Nat) (color : u16) (alpha : Nat)
    (type : Fin 4) :
    cell.draw prio (some (.color color alpha type)) = cell.draw prio (some (.window false)) ↔
      cell.win = true ∧ ¬prio < cell.prio := by
  rw [draw_window]
  unfold Cell.draw
  dsimp only
  by_cases free : prio < cell.prio
  · rw [if_pos free]
    constructor
    · intro same
      have lowered : prio = cell.prio := congrArg Cell.prio same
      omega
    · exact fun both => absurd free both.2
  · rw [if_neg free,eq_comm,win_eq_iff]
    exact (and_iff_left free).symm

/-- Two alphas are told apart where the dot is drawn. -/
theorem draw_colors_iff (cell : Cell) (prio : Nat) (color : u16) {alpha other : Nat}
    (apart : alpha ≠ other) (type : Fin 4) :
    cell.draw prio (some (.color color alpha type)) =
      cell.draw prio (some (.color color other type)) ↔ ¬prio < cell.prio := by
  unfold Cell.draw
  dsimp only
  by_cases free : prio < cell.prio
  · rw [if_pos free,if_pos free]
    constructor
    · exact fun same => absurd (congrArg Cell.alpha same) apart
    · exact fun blocked => absurd free blocked
  · rw [if_neg free,if_neg free]
    exact iff_of_true rfl free

theorem rotoRead_tile (tiles : info.Mode ≠ 3) :
    rotoRead gpu vid info x y = objRead gpu vid info y x ↔
      rotoPlace gpu vid info x y = vid.gpuMap (objAddress gpu info y x) := by
  unfold rotoRead objRead
  rw [if_neg tiles,if_neg tiles,ite_self,Option.some.injEq,Read.mk.injEq]
  exact and_iff_left rfl

theorem plainRead_tile (tiles : info.Mode ≠ 3) :
    plainRead gpu vid info y x = objRead gpu vid info y x ↔
      (info.Mode = 2 → vid.gpuMap (rowOf gpu info y) + columnOf info x =
        vid.gpuMap (objAddress gpu info y x)) := by
  unfold plainRead objRead objAddress
  rw [if_neg tiles,if_neg tiles,if_neg tiles,Int.toNat_natCast]
  by_cases win : info.Mode = 2
  · rw [if_pos win,Option.some.injEq,Read.mk.injEq]
    exact ⟨fun same _ => same.1, fun same => ⟨same win,rfl⟩⟩
  · rw [if_neg win]
    exact iff_of_true rfl (fun here => absurd here win)

theorem draw_tiles_iff (tiles : info.Mode ≠ 3) (cell : Cell) (prio i : Nat) :
    cell.draw prio (rotoTile gpu vid info i) =
        cell.draw prio (plainTile gpu vid info i) ↔
      (info.Mode = 2 → i ≠ 0 →
        if info.PaletteMode_1x256 then cell.win = true ∧ ¬prio < cell.prio
        else cell.win = true ∨ prio < cell.prio) := by
  unfold rotoTile plainTile
  by_cases zero : i = 0
  · rw [if_pos zero,if_pos zero]
    exact iff_of_true rfl (fun _ some => absurd zero some)
  rw [if_neg zero,if_neg zero]
  by_cases win : info.Mode = 2
  · rw [if_pos win]
    cases colors : info.PaletteMode_1x256 with
    | true =>
        rw [if_neg (fun both => Bool.false_ne_true both.2.symm),draw_color_window_iff]
        exact ⟨fun both _ _ => both, fun both => both win zero⟩
    | false =>
        rw [if_pos ⟨win,rfl⟩,draw_windows_iff]
        exact ⟨fun either _ _ => either, fun either => either win zero⟩
  · have type : info.Mode = if info.Mode = 1 then 1 else 0 := by
      revert tiles win
      generalize info.Mode = mode
      revert mode
      decide
    rw [if_neg win,if_neg (fun both => win both.1),← type]
    exact iff_of_true rfl (fun here => absurd here win)

theorem plainRead_bitmap (bitmap : info.Mode = 3) :
    plainRead gpu vid info y x = objRead gpu vid info y x := by
  have win : info.Mode ≠ 2 := by
    rw [bitmap]
    decide
  unfold plainRead objRead objAddress
  rw [if_neg win,if_pos bitmap,if_pos bitmap,if_pos bitmap]

theorem bitmap_iff (bitmap : info.Mode = 3) (line : SpriteLine) (p : Nat) :
    ((line.cell p).draw info.Priority.val (rotoDot gpu vid info x y) =
          (line.cell p).draw info.Priority.val (plainDot gpu vid info y x) ∧
        plainRead gpu vid info y x = objRead gpu vid info y x ∧
        rotoRead gpu vid info x y = objRead gpu vid info y x) ↔
      info.PaletteMode_1x256 = false ∧
        (info.PaletteIndex = 0 ∨
          vid.gpuMap (rotoAddress gpu info x y) = vid.gpuMap (objAddress gpu info y x) ∧
            ((vid.wordAt (objAddress gpu info y x)).getLsbD 15 = true →
              ¬info.Priority.val < line.sprPrio p)) := by
  have win : info.Mode ≠ 2 := by
    rw [bitmap]
    decide
  have addr : objAddress gpu info y x =
      bmp_sprite_address gpu info info.sprSize.1 y + (x : Int) * 2 := if_pos bitmap
  have drawnPlain : plainDot gpu vid info y x =
      if info.PaletteIndex = 0 then none
      else if (vid.wordAt (objAddress gpu info y x)).getLsbD 15 then
        some (.color (vid.wordAt (objAddress gpu info y x)) (info.PaletteIndex.val + 1) 3)
      else none := by
    rw [addr]
    unfold plainDot
    dsimp only
    rw [if_neg win,if_pos bitmap]
    rfl
  rw [plainRead_bitmap bitmap,drawnPlain]
  cases colors : info.PaletteMode_1x256 with
  | true =>
      have wide : rotoRead gpu vid info x y ≠ objRead gpu vid info y x := by
        unfold rotoRead objRead
        rw [colors,if_pos rfl,if_pos bitmap]
        split_ifs
        · exact nofun
        · intro same
          cases congrArg (Option.map Read.bytes) same
      exact iff_of_false (fun both => wide both.2.2) (fun both => nomatch both.1)
  | false =>
      have read : rotoRead gpu vid info x y =
          if info.PaletteIndex = 0 then none
          else some ⟨vid.gpuMap (rotoAddress gpu info x y),2⟩ := by
        unfold rotoRead
        rw [colors,if_neg Bool.false_ne_true,if_pos bitmap]
      have drawn : rotoDot gpu vid info x y =
          if info.PaletteIndex = 0 then none
          else if (vid.wordAt (rotoAddress gpu info x y)).getLsbD 15 then
            some (.color (vid.wordAt (rotoAddress gpu info x y)) info.PaletteIndex.val 3)
          else none := by
        unfold rotoDot
        rw [colors,if_neg Bool.false_ne_true,if_pos bitmap,← bitmap]
        rfl
      have obj : objRead gpu vid info y x = if info.PaletteIndex = 0 then none
          else some ⟨vid.gpuMap (objAddress gpu info y x),2⟩ := if_pos bitmap
      rw [read,drawn,obj]
      by_cases clear : info.PaletteIndex = 0
      · simp [clear]
      · simp only [clear,if_false,Option.some.injEq,Read.mk.injEq,and_true,true_and,false_or]
        rw [and_comm]
        apply and_congr_right
        intro place
        unfold VideoMemory.wordAt
        rw [place]
        by_cases shown : (T1ReadWord vid.ARM9_LCD
            (vid.gpuMap (objAddress gpu info y x))).getLsbD 15 = true
        · rw [if_pos shown,if_pos shown,draw_colors_iff _ _ _ (by omega)]
          exact ⟨fun blocked _ => blocked, fun blocked => blocked shown⟩
        · rw [if_neg shown,if_neg shown]
          exact iff_of_true rfl (fun here => absurd here shown)

theorem dotRight_iff (line : SpriteLine) (p : Nat) :
    ((line.cell p).draw info.Priority.val (rotoDot gpu vid info x y) =
          (line.cell p).draw info.Priority.val (plainDot gpu vid info y x) ∧
        plainRead gpu vid info y x = objRead gpu vid info y x ∧
        rotoRead gpu vid info x y = objRead gpu vid info y x) ↔
      DotRight gpu vid info line y x p := by
  unfold DotRight
  dsimp only
  by_cases bitmap : info.Mode = 3
  · rw [if_pos bitmap]
    exact bitmap_iff bitmap line p
  · rw [if_neg bitmap,rotoDot_tile bitmap,plainDot_tile bitmap,rotoRead_tile bitmap,
      plainRead_tile bitmap]
    constructor
    · rintro ⟨drawn,win,place⟩
      refine ⟨place,fun here => ⟨win here,?_⟩⟩
      rw [place,if_pos here,win here,draw_tiles_iff bitmap] at drawn
      exact drawn here
    · rintro ⟨place,win⟩
      refine ⟨?_,fun here => (win here).1, place⟩
      have plainPlace : (if info.Mode = 2 then
          vid.gpuMap (rowOf gpu info y) + columnOf info x
            else vid.gpuMap (rowOf gpu info y + columnOf info x : Nat)) =
          vid.gpuMap (objAddress gpu info y x) := by
        by_cases here : info.Mode = 2
        · rw [if_pos here,(win here).1]
        · unfold objAddress
          rw [if_neg here,if_neg bitmap]
      rw [place,plainPlace,draw_tiles_iff bitmap]
      exact fun here => (win here).2

end

theorem visible_inside {info : OAMAttributes} {l : Nat} :
    ∀ found ∈ (match visible info l with
      | none => []
      | some v => spanOf v.left v.length (fun _ => some ())), found.1 < 256 := by
  intro found member
  cases shown : visible info l with
  | none =>
      rw [shown] at member
      cases member
  | some v =>
      rw [shown] at member
      obtain ⟨bound,-,-⟩ := visible_bounds shown
      obtain ⟨j,inside,same⟩ := List.mem_filterMap.mp member
      have before := List.mem_range.mp inside
      cases same
      dsimp only
      omega

/-- The two halves agree on an untransformed object exactly when they agree on
each of its dots on the line. -/
theorem untransformed_object_iff (gpu : GPU) (vid : VideoMemory) (info : OAMAttributes)
    (line : SpriteLine) (plain : Untransformed gpu vid info) :
    RendersAlike gpu vid info line ↔
      ∀ v, visible info gpu.currLine = some v → ∀ j < v.length,
        DotRight gpu vid info line v.row (v.column + j) (v.left + j) := by
  have alike : RendersAlike gpu vid info line ↔
      (rotoDots gpu vid info).foldl (drawDot info.Priority.val) line =
          (plainDots gpu vid info).foldl (drawDot info.Priority.val) line ∧
        (plainSpan gpu info (plainRead gpu vid info) =
          plainSpan gpu info (fun y x => objRead gpu vid info y x.toNat)) ∧
        rotoSpan gpu vid info (rotoRead gpu vid info) =
          rotoSpan gpu vid info (fun x y => objRead gpu vid info y x) := by
    constructor
    · exact fun same => ⟨same.tables,same.plainReads,same.rotoReads⟩
    · rintro ⟨tables,plainReads,rotoReads⟩
      refine ⟨tables,plainReads,rotoReads,?_,?_⟩
      · rw [plainSpan_eq plain]
        exact visible_inside
      · rw [rotoSpan_eq plain]
        exact visible_inside
  rw [alike,plainDots_eq,rotoDots_eq]
  simp only [plainSpan_eq plain,rotoSpan_eq plain]
  cases shown : visible info gpu.currLine with
  | none => exact iff_of_true ⟨rfl,rfl,rfl⟩ (fun v found => nomatch found)
  | some v =>
      dsimp only
      rw [eq_iff_cells,spanOf_eq_iff,spanOf_eq_iff]
      simp only [cell_spanOf,Int.toNat_natCast]
      constructor
      · rintro ⟨cells,plainReads,rotoReads⟩ _ found j inside
        cases found
        apply (dotRight_iff line (v.left + j)).mp
        refine ⟨?_,plainReads j inside,rotoReads j inside⟩
        have cell := cells (v.left + j)
        rw [if_pos (by omega),if_pos (by omega),Nat.add_sub_cancel_left] at cell
        exact cell
      · intro right
        have dot (j : Nat) (inside : j < v.length) :=
          (dotRight_iff line (v.left + j)).mpr (right v rfl j inside)
        refine ⟨?_,fun j inside => (dot j inside).2.1, fun j inside => (dot j inside).2.2⟩
        intro x
        by_cases here : v.left ≤ x ∧ x < v.left + v.length
        · have drawn := (dot (x - v.left) (by omega)).1
          rw [Nat.add_sub_cancel' here.1] at drawn
          rw [if_pos here,if_pos here]
          exact drawn
        · rw [if_neg here,if_neg here]

/-! ### One object -/

/-- Object 0 has the unit matrix and the given mode, and VRAM is filled with one byte. -/
def objectVideo (mode : u8) (filled : u8) : VideoMemory :=
  { sampleVideo with
    ARM9_LCD := fun _ => filled
    ARM9_OAM := fun addr =>
      if addr = 1 then mode else if addr = 5 then 0xF0
      else if addr = 7 ∨ addr = 31 then 1 else 0 }

def objectInfo (mode : u8) : OAMAttributes := oamEntry (objectVideo mode 0) .GPU_MAIN 0

theorem untransformed_object_iff_tiles :
    RendersAlike (GPU_Reset .GPU_MAIN) (objectVideo 1 0) (objectInfo 1) .clear := by
  have untransformed : Untransformed (GPU_Reset .GPU_MAIN) (objectVideo 1 0) (objectInfo 1) := by
    constructor <;> decide +kernel
  apply (untransformed_object_iff (GPU_Reset .GPU_MAIN) (objectVideo 1 0) (objectInfo 1) .clear
    untransformed).mpr
  intro v shown
  have first : visible (objectInfo 1) (GPU_Reset .GPU_MAIN).currLine = some ⟨0,0,8,0⟩ := rfl
  cases Option.some.inj (first.symm.trans shown)
  have places : ∀ j < 8,
      rotoPlace (GPU_Reset .GPU_MAIN) (objectVideo 1 0) (objectInfo 1) (0 + j) 0 =
      (objectVideo 1 0).gpuMap (objAddress (GPU_Reset .GPU_MAIN) (objectInfo 1) 0 (0 + j)) := by
    decide +kernel
  intro j inside
  unfold DotRight
  dsimp only
  rw [if_neg (by decide +kernel)]
  exact ⟨places j inside,fun win => absurd win (by decide +kernel)⟩

/-- The alpha of the bitmap is 16 in one half and 15 in the other. -/
theorem bitmap_alpha_differs :
    Untransformed (GPU_Reset .GPU_MAIN) (objectVideo 0x0D 0xFF) (objectInfo 0x0D) ∧
      ¬RendersAlike (GPU_Reset .GPU_MAIN) (objectVideo 0x0D 0xFF) (objectInfo 0x0D) .clear := by
  constructor
  · constructor <;> decide +kernel
  · intro alike
    have alpha := congrArg (fun line => line.sprAlpha 0) alike.tables
    revert alpha
    decide +kernel

end Desmume.Gpu
