/-
The 3D layer of a line: the loop `for(int k = 256; --k;)` of
`GPU_RenderLine_layer` and `_master_setFinal3dColor`.

The loop ends before column 0, the windows are not looked at, and a black pixel
is left out where the pixel to its right is black too.
-/

import Desmume.Gpu.CaptureFrames

namespace Desmume.Gpu

section

variable (gpu : GPU) (vid : VideoMemory) (line : SpriteLine) (l : Nat)

def admits3D (x : Nat) : Bool := (renderline_checkWindows gpu line.sprWin 0 x (true, true)).1

def Shown3D (x : Nat) : Prop := x < 256 ∧ color3D vid l x 3 ≠ 0 ∧ admits3D gpu line x = true

instance (x : Nat) : Decidable (Shown3D gpu vid line l x) :=
  inferInstanceAs (Decidable (_ ∧ _ ∧ _))

/-- The bytes of the line read by `_master_setFinal3dColor(k, k)` and the test
before it. The conditions on the pixel behind are read one after the other. -/
def reads3D (k : Nat) : List Nat :=
  if color3D vid l k 3 = 0 then [k * 4 + 3]
  else
    let pixel := [k * 4,k * 4 + 1,k * 4 + 2,k * 4 + 3]
    if black3D vid l k = false then pixel
    else if color3D vid l (k + 1) 0 ≠ 0 then pixel ++ [(k + 1) * 4]
    else if color3D vid l (k + 1) 1 ≠ 0 then pixel ++ [(k + 1) * 4,(k + 1) * 4 + 1]
    else pixel ++ [(k + 1) * 4,(k + 1) * 4 + 1,(k + 1) * 4 + 2]

/-- What BG0 is to do to the picture painted by the layers below. -/
structure Transferred3D (below : Canvas) : Prop where
  pixels : ∀ x,
    let drawn := drawLayer gpu vid line l below (.BG 0)
    (drawn.dst x, drawn.bgPixels x) =
      if Shown3D gpu vid line l x then (rgb15of3D vid l x, 0)
      else (below.dst x, below.bgPixels x)
  inside : ∀ k ∈ List.range' 1 255, ∀ byte ∈ reads3D vid l k, byte < 256 * 4

end

variable {gpu : GPU} {vid : VideoMemory} {line : SpriteLine} {l : Nat}

def Drawn3D (vid : VideoMemory) (l x : Nat) : Prop :=
  x < 256 ∧ color3D vid l x 3 ≠ 0 ∧ x ≠ 0 ∧
    ¬(black3D vid l x = true ∧ black3D vid l (x + 1) = true)

instance (x : Nat) : Decidable (Drawn3D vid l x) :=
  inferInstanceAs (Decidable (_ ∧ _ ∧ _ ∧ ¬(_ ∧ _)))

theorem setFinalColor3d_at (canvas : Canvas) {k : Nat} (x : Nat) (first : k ≠ 0)
    (inside : k < 256) :
    ((setFinalColor3d vid l canvas k).dst x, (setFinalColor3d vid l canvas k).bgPixels x) =
      if k = x ∧ Drawn3D vid l x then (rgb15of3D vid l x, 0)
      else (canvas.dst x, canvas.bgPixels x) := by
  unfold setFinalColor3d
  by_cases here : k = x
  · subst here
    by_cases clear : color3D vid l k 3 = 0
    · rw [if_pos clear,if_neg (fun both => both.2.2.1 clear)]
    · rw [if_neg clear]
      by_cases black : (black3D vid l k && black3D vid l (k + 1)) = true
      · rw [if_pos black,if_neg]
        exact fun both => both.2.2.2.2 ((Bool.and_eq_true _ _).mp black)
      · have drawn : Drawn3D vid l k :=
          ⟨inside,clear,first,fun both => black ((Bool.and_eq_true _ _).mpr both)⟩
        rw [if_neg black,if_pos ⟨rfl,drawn⟩]
        unfold Canvas.put
        dsimp only
        rw [Function.update_self,Function.update_self]
  · have other : ¬(k = x ∧ Drawn3D vid l x) := fun both => here both.1
    rw [if_neg other]
    split_ifs
    · rfl
    · rfl
    · unfold Canvas.put
      dsimp only
      rw [Function.update_of_ne (Ne.symm here),Function.update_of_ne (Ne.symm here)]

theorem setFinalColor3d_fold (columns : List Nat) (within : ∀ k ∈ columns, k ≠ 0 ∧ k < 256)
    (canvas : Canvas) (x : Nat) :
    ((columns.foldl (setFinalColor3d vid l) canvas).dst x,
        (columns.foldl (setFinalColor3d vid l) canvas).bgPixels x) =
      if x ∈ columns ∧ Drawn3D vid l x then (rgb15of3D vid l x, 0)
      else (canvas.dst x, canvas.bgPixels x) := by
  induction columns generalizing canvas with
  | nil => exact (if_neg (fun both => List.not_mem_nil both.1)).symm
  | cons k rest ih =>
      have bounds := within k List.mem_cons_self
      refine (ih (fun column member => within column (List.mem_cons_of_mem k member)) _).trans ?_
      rw [setFinalColor3d_at canvas x bounds.1 bounds.2]
      by_cases drawn : Drawn3D vid l x
      · by_cases later : x ∈ rest
        · simp [later,drawn]
        · simp [later,drawn,eq_comm]
      · simp [drawn]

theorem drawLayer_3D (flat : is3D gpu 0 = true) (enabled : gpu.LayersEnable 0 = true)
    (below : Canvas) (x : Nat) :
    ((drawLayer gpu vid line l below (.BG 0)).dst x,
        (drawLayer gpu vid line l below (.BG 0)).bgPixels x) =
      if Drawn3D vid l x then (rgb15of3D vid l x, 0)
      else (below.dst x, below.bgPixels x) := by
  have listed : Drawn3D vid l x → x ∈ (List.range' 1 255).reverse := by
    intro drawn
    obtain ⟨inside,-,first,-⟩ := drawn
    rw [List.mem_reverse,List.mem_range'_1]
    omega
  unfold drawLayer drawBG
  dsimp only
  rw [if_pos (show gpu.LayersEnable (Fin.castSucc 0) = true from enabled),if_pos flat,
    setFinalColor3d_fold]
  · by_cases drawn : Drawn3D vid l x
    · rw [if_pos drawn,if_pos ⟨listed drawn,drawn⟩]
    · rw [if_neg drawn,if_neg (fun both => drawn both.2)]
  · intro k member
    have bounds := List.mem_range'_1.mp (List.mem_reverse.mp member)
    omega

theorem reads3D_inside_iff :
    (∀ k ∈ List.range' 1 255, ∀ byte ∈ reads3D vid l k, byte < 256 * 4) ↔
      ¬(color3D vid l 255 3 ≠ 0 ∧ black3D vid l 255 = true) := by
  constructor
  · intro inside looked
    have last : (255 + 1) * 4 ∈ reads3D vid l 255 := by
      unfold reads3D
      rw [if_neg looked.1,looked.2,if_neg (Bool.true_eq_false ▸ id)]
      split_ifs <;> simp
    have bound := inside 255 (by decide) _ last
    omega
  · intro plain k member byte read
    have bounds := List.mem_range'_1.mp member
    unfold reads3D at read
    by_cases last : k = 255
    · subst last
      split_ifs at read with clear white
      · simp at read
        omega
      · simp at read
        omega
      all_goals exact absurd ⟨clear,Bool.eq_true_of_not_eq_false white⟩ plain
    · split_ifs at read <;> simp at read <;> omega

theorem ite_eq_ite_iff {α : Type*} {first second : Prop} [Decidable first] [Decidable second]
    (drawn kept : α) :
    (if first then drawn else kept) = (if second then drawn else kept) ↔
      (first ↔ second) ∨ kept = drawn := by
  by_cases left : first
  · by_cases right : second
    · simp [left,right]
    · simp [left,right,eq_comm]
  · by_cases right : second
    · simp [left,right]
    · simp [left,right]

/-- The 3D layer is transferred exactly when, at every column with alpha, it is
drawn where the windows admit it, or the column shows it already, and column 255
is not an opaque black. -/
theorem layer3D_transferred_iff (gpu : GPU) (vid : VideoMemory) (line : SpriteLine) (l : Nat)
    (flat : is3D gpu 0 = true) (enabled : gpu.LayersEnable 0 = true) (below : Canvas) :
    Transferred3D gpu vid line l below ↔
      (∀ x < 256, color3D vid l x 3 ≠ 0 →
        ((x ≠ 0 ∧ ¬(black3D vid l x = true ∧ black3D vid l (x + 1) = true)) ↔
          admits3D gpu line x = true) ∨
        (below.dst x, below.bgPixels x) = (rgb15of3D vid l x, 0)) ∧
      ¬(color3D vid l 255 3 ≠ 0 ∧ black3D vid l 255 = true) := by
  have column (x : Nat) :
      ((if Drawn3D vid l x then (rgb15of3D vid l x, (0 : Fin 6))
          else (below.dst x, below.bgPixels x)) =
        if Shown3D gpu vid line l x then (rgb15of3D vid l x, 0)
        else (below.dst x, below.bgPixels x)) ↔
      (x < 256 → color3D vid l x 3 ≠ 0 →
        ((x ≠ 0 ∧ ¬(black3D vid l x = true ∧ black3D vid l (x + 1) = true)) ↔
          admits3D gpu line x = true) ∨
        (below.dst x, below.bgPixels x) = (rgb15of3D vid l x, 0)) := by
    rw [ite_eq_ite_iff]
    unfold Drawn3D Shown3D
    constructor
    · rintro (same | shown) inside visible
      · have alike := and_congr_right_iff.mp (and_congr_right_iff.mp same inside) visible
        exact Or.inl alike
      · exact Or.inr shown
    · intro cond
      by_cases visible : x < 256 ∧ color3D vid l x 3 ≠ 0
      · obtain alike | shown := cond visible.1 visible.2
        · exact Or.inl (and_congr_right fun _ => and_congr_right fun _ => alike)
        · exact Or.inr shown
      · left
        constructor
        · exact fun drawn => absurd ⟨drawn.1,drawn.2.1⟩ visible
        · exact fun shown => absurd ⟨shown.1,shown.2.1⟩ visible
  rw [← reads3D_inside_iff]
  constructor
  · intro transferred
    refine ⟨fun x => (column x).mp ?_, transferred.inside⟩
    rw [← drawLayer_3D flat enabled below x]
    exact transferred.pixels x
  · intro cond
    refine ⟨fun x => ?_, cond.2⟩
    dsimp only
    rw [drawLayer_3D flat enabled below x]
    exact (column x).mpr (cond.1 x)

/-- The 3D line is opaque and red behind column 0, and BG0 shows it. -/
def video3D (first : u8) : VideoMemory :=
  { sampleVideo with
    screen3D := fun addr =>
      if addr = 3 then first else if addr % 4 = 0 ∨ addr % 4 = 3 then 255 else 0 }

def gpu3D : GPU :=
  (Run.final (Machine.step sampleConfig)
    (.reset sampleVideo sampleFifo (fun _ => 0) (fun _ => false))
    [.write .GPU_MAIN (.DISPCNT 0x10108)]).gpu .GPU_MAIN

theorem black3D_video3D (first : u8) (k : Nat) : black3D (video3D first) 0 k = false := by
  have red : color3D (video3D first) 0 k 0 = 255 := by
    unfold color3D video3D
    dsimp only
    rw [if_neg (by omega),if_pos (by omega)]
  unfold black3D
  rw [red]
  rfl

theorem admits3D_gpu3D (x : Nat) : admits3D gpu3D .clear x = true := by
  have outside (win : Fin 2) : gpu3D.curr_win win = false := by
    revert win
    decide +kernel
  have unused : anyWindow gpu3D = false := by decide +kernel
  have objects : gpu3D.WINOBJ_ENABLED = false := by decide +kernel
  have free : windowAt gpu3D SpriteLine.clear.sprWin x = none := by
    unfold windowAt withinRect
    rw [outside,outside,objects,unused]
    rfl
  unfold admits3D renderline_checkWindows
  rw [free]

theorem layer3D_transferred_iff_shown :
    Transferred3D gpu3D (video3D 0) .clear 0
      { dst := fun _ => 0, bgPixels := fun _ => 5, blend1 := false } :=
  (layer3D_transferred_iff gpu3D (video3D 0) .clear 0 (by decide +kernel) (by decide +kernel) _).mpr
    ⟨fun x _inside visible => Or.inl
      (iff_of_true
        ⟨fun first => visible (by rw [first]; decide +kernel),
          fun both => Bool.false_ne_true ((black3D_video3D 0 x).symm.trans both.1)⟩
        (admits3D_gpu3D x)),
      fun both => Bool.false_ne_true ((black3D_video3D 0 255).symm.trans both.2)⟩

/-- Column 0 keeps the picture of the layers below. -/
theorem first_column_kept :
    ¬Transferred3D gpu3D (video3D 255) .clear 0
      { dst := fun _ => 0, bgPixels := fun _ => 5, blend1 := false } := by
  intro transferred
  have column := transferred.pixels 0
  have shown : Shown3D gpu3D (video3D 255) .clear 0 0 :=
    ⟨by decide,by decide +kernel,admits3D_gpu3D 0⟩
  dsimp only at column
  rw [drawLayer_3D (by decide +kernel) (by decide +kernel),if_pos shown,
    if_neg (fun drawn => drawn.2.2.1 rfl),Prod.mk.injEq] at column
  exact absurd column.2 (by decide)

end Desmume.Gpu
