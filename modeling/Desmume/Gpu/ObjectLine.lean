/-
Which object is seen at a position of a line, and where the object window is.

The dots of all objects are drawn one after the other, in the order of the OAM,
and a dot is stored where none of the same or a better priority is yet.
-/

import Desmume.Gpu.Current
import Desmume.Lib.Frontmost

namespace Desmume.Gpu

open Function (update update_of_ne update_self)

open Frontmost

def objectPriority (gpu : GPU) (vid : VideoMemory) (i : Nat) : Nat :=
  (oamEntry vid gpu.core i).Priority.val

/-- Object `i` is no window and has an opaque dot at `x`. -/
def ObjectAt (gpu : GPU) (vid : VideoMemory) (x i : Nat) (color : u16) : Prop :=
  i < 128 ∧ (oamEntry vid gpu.core i).Mode ≠ 2 ∧
    ∃ alpha type, (x, Dot.color color alpha type) ∈ spriteDots gpu vid i

/-- The object at `x` with the smallest priority and number. -/
structure ObjectSeen (gpu : GPU) (vid : VideoMemory) (x i : Nat) (color : u16) : Prop where
  here : ObjectAt gpu vid x i color
  first : ∀ j other, ObjectAt gpu vid x j other →
    objectPriority gpu vid i < objectPriority gpu vid j ∨
      (objectPriority gpu vid i = objectPriority gpu vid j ∧ i ≤ j)

/-- A window object has an opaque dot at `x`. -/
def ObjectWindowAt (gpu : GPU) (vid : VideoMemory) (x : Nat) : Prop :=
  ∃ i < 128, (oamEntry vid gpu.core i).Mode = 2 ∧ ∃ dot, (x, dot) ∈ spriteDots gpu vid i

/-- The rotated window objects do no harm: none of them is drawn in colours, and
no earlier object of the same or a better priority covers a dot of them. -/
structure WindowObjectsPlain (gpu : GPU) (vid : VideoMemory) : Prop where
  colourless : ∀ i < 128, (oamEntry vid gpu.core i).Mode = 2 →
    ∀ placed ∈ spriteDots gpu vid i, ∃ tested, placed.2 = .window tested
  uncovered : ∀ i < 128, ∀ x, (x, Dot.window true) ∈ spriteDots gpu vid i →
    ∀ j < i, ∀ color alpha type, (x, Dot.color color alpha type) ∈ spriteDots gpu vid j →
      objectPriority gpu vid i < objectPriority gpu vid j

theorem nodup_span (left length : Nat) (dot : Nat → Option Dot) :
    ((span left length dot).map Prod.fst).Nodup := by
  unfold span
  rw [List.map_filterMap]
  apply List.Nodup.filterMap _ List.nodup_range
  intro first second pos inFirst inSecond
  rw [Option.mem_def,Option.map_map,Option.map_eq_some_iff] at inFirst inSecond
  obtain ⟨_,_,same⟩ := inFirst
  obtain ⟨_,_,other⟩ := inSecond
  change left + first = pos at same
  change left + second = pos at other
  omega

/-- A span of dots that all come from `source`. -/
def SpanOf (dots : List (Nat × Dot)) (source : Dot → Prop) : Prop :=
  (dots.map Prod.fst).Nodup ∧ ∀ placed ∈ dots, source placed.2

theorem spanOf_nil (source : Dot → Prop) : SpanOf [] source :=
  ⟨List.nodup_nil,fun _ member => (List.not_mem_nil member).elim⟩

theorem spanOf_span (left length : Nat) {dot : Nat → Option Dot} {source : Dot → Prop}
    (from_source : ∀ j drawn, dot j = some drawn → source drawn) :
    SpanOf (span left length dot) source := by
  refine ⟨nodup_span left length dot,?_⟩
  intro placed member
  obtain ⟨j,_inside,found⟩ := List.mem_filterMap.mp member
  obtain ⟨drawn,here,rfl⟩ := Option.map_eq_some_iff.mp found
  exact from_source j drawn here

theorem spanOf_plainDots (gpu : GPU) (vid : VideoMemory) (info : OAMAttributes) :
    SpanOf (plainDots gpu vid info)
      (fun dot => ∃ y x, plainDot gpu vid info y x = some dot) := by
  unfold plainDots
  cases compute_sprite_vars info gpu.currLine with
  | none => exact spanOf_nil _
  | some vars => exact spanOf_span _ _ (fun j drawn found => ⟨vars.y,_,found⟩)

theorem spanOf_rotoDots (gpu : GPU) (vid : VideoMemory) (info : OAMAttributes) :
    SpanOf (rotoDots gpu vid info)
      (fun dot => ∃ auxX auxY, rotoDot gpu vid info auxX auxY = some dot) := by
  unfold rotoDots
  dsimp only
  generalize (if info.DoubleSize = true then info.sprSize.1 * 2 else info.sprSize.1) = fieldX
  generalize (if info.DoubleSize = true then info.sprSize.2 * 2 else info.sprSize.2) = fieldY
  by_cases above : fieldY ≤ (((gpu.currLine : Int) - info.Y) % 256).toNat
  · rw [if_pos above]
    exact spanOf_nil _
  · rw [if_neg above]
    by_cases beside : info.X = 256 ∨ info.X + fieldX ≤ 0
    · rw [if_pos beside]
      exact spanOf_nil _
    · rw [if_neg beside]
      apply spanOf_span
      intro j drawn found
      obtain ⟨_inside,found⟩ := Option.ite_none_right_eq_some.mp found
      exact ⟨_,_,found⟩

theorem spanOf_spriteDots (gpu : GPU) (vid : VideoMemory) (i : Nat) :
    SpanOf (spriteDots gpu vid i) (fun dot =>
      (∃ y x, plainDot gpu vid (oamEntry vid gpu.core i) y x = some dot) ∨
        ∃ auxX auxY, rotoDot gpu vid (oamEntry vid gpu.core i) auxX auxY = some dot) := by
  unfold spriteDots
  dsimp only
  split_ifs
  · have rotated := spanOf_rotoDots gpu vid (oamEntry vid gpu.core i)
    exact ⟨rotated.1,fun placed member => Or.inr (rotated.2 placed member)⟩
  · exact spanOf_nil _
  · have plain := spanOf_plainDots gpu vid (oamEntry vid gpu.core i)
    exact ⟨plain.1,fun placed member => Or.inl (plain.2 placed member)⟩

variable {tested : Bool} {info : OAMAttributes} {i : Nat}

theorem spriteDots_unique {gpu : GPU} {vid : VideoMemory} {x : Nat} {first second : Dot}
    (here : (x, first) ∈ spriteDots gpu vid i) (there : (x, second) ∈ spriteDots gpu vid i) :
    first = second := by
  have same := List.inj_on_of_nodup_map (spanOf_spriteDots gpu vid i).1 here there rfl
  exact congrArg Prod.snd same

theorem plainDot_window {gpu : GPU} {vid : VideoMemory} {y : Nat}
    {x : Int} (drawn : plainDot gpu vid info y x = some (.window tested)) : info.Mode = 2 := by
  unfold plainDot render_sprite_Win render_sprite_BMP render_sprite_256 render_sprite_16 at drawn
  dsimp only at drawn
  split_ifs at drawn
  all_goals cases drawn
  all_goals assumption

theorem rotoDot_window {gpu : GPU} {vid : VideoMemory} {auxX auxY : Nat}
    (drawn : rotoDot gpu vid info auxX auxY = some (.window tested)) : info.Mode = 2 := by
  unfold rotoDot roto256 rotoDirect roto16 at drawn
  dsimp only at drawn
  split_ifs at drawn
  all_goals cases drawn
  assumption

theorem mode_of_window {gpu : GPU} {vid : VideoMemory} {x : Nat}
    (member : (x, Dot.window tested) ∈ spriteDots gpu vid i) :
    (oamEntry vid gpu.core i).Mode = 2 := by
  rcases (spanOf_spriteDots gpu vid i).2 _ member with ⟨_,_,plain⟩ | ⟨_,_,rotated⟩
  · exact plainDot_window plain
  · exact rotoDot_window rotated

def drawnDots (gpu : GPU) (vid : VideoMemory) : List (Nat × Nat × Dot) :=
  (List.range 128).flatMap (fun i => (spriteDots gpu vid i).map (fun placed => (i, placed)))

def drawOf (gpu : GPU) (vid : VideoMemory) (line : SpriteLine) (drawn : Nat × Nat × Dot) :
    SpriteLine :=
  drawDot (objectPriority gpu vid drawn.1) line drawn.2

theorem spriteRender_eq (gpu : GPU) (vid : VideoMemory) (line : SpriteLine) :
    spriteRender gpu vid line = (drawnDots gpu vid).foldl (drawOf gpu vid) line := by
  unfold spriteRender drawnDots
  rw [List.foldl_flatMap]
  congr 1
  funext line i
  rw [List.foldl_map]
  rfl

theorem mem_drawnDots {gpu : GPU} {vid : VideoMemory} {placed : Nat × Dot} :
    (i, placed) ∈ drawnDots gpu vid ↔ i < 128 ∧ placed ∈ spriteDots gpu vid i := by
  unfold drawnDots
  rw [List.mem_flatMap]
  constructor
  · rintro ⟨j,inside,member⟩
    obtain ⟨found,there,same⟩ := List.mem_map.mp member
    injection same with num dot
    subst num dot
    exact ⟨List.mem_range.mp inside,there⟩
  · rintro ⟨inside,member⟩
    exact ⟨i,List.mem_range.mpr inside,List.mem_map.mpr ⟨placed,member,rfl⟩⟩

theorem pairwise_drawnDots {gpu : GPU} {vid : VideoMemory}
    {relation : Nat × Nat × Dot → Nat × Nat × Dot → Prop}
    (within : ∀ i, ∀ first ∈ spriteDots gpu vid i, ∀ second ∈ spriteDots gpu vid i,
      relation (i, first) (i, second))
    (across : ∀ i j, j < i → i < 128 → ∀ first ∈ spriteDots gpu vid j,
      ∀ second ∈ spriteDots gpu vid i, relation (j, first) (i, second)) :
    (drawnDots gpu vid).Pairwise relation := by
  unfold drawnDots
  rw [List.pairwise_flatMap]
  constructor
  · intro i _member
    rw [List.pairwise_map]
    apply List.pairwise_iff_forall_sublist.mpr
    intro first second listed
    have member (dot : Nat × Dot) (one : dot ∈ [first,second]) := listed.subset one
    exact within i first (member first (by simp)) second (member second (by simp))
  · apply List.Pairwise.imp_of_mem _ List.pairwise_lt_range
    intro j i _earlier later before first inFirst second inSecond
    obtain ⟨dot,there,rfl⟩ := List.mem_map.mp inFirst
    obtain ⟨other,here,rfl⟩ := List.mem_map.mp inSecond
    exact across i j before (List.mem_range.mp later) dot there other here

section

variable (gpu : GPU) (vid : VideoMemory) (x : Nat)

def drawnPriority (drawn : Nat × Nat × Dot) : Nat := objectPriority gpu vid drawn.1

def isColourAt : Nat × Nat × Dot → Bool
  | (_, y, .color _ _ _) => y = x
  | (_, _, .window _) => false

theorem isColourAt_self (i : Nat) (color : u16) (alpha : Nat) (type : Fin 4) :
    isColourAt x (i, x, .color color alpha type) = true := decide_eq_true rfl

/-- The tables at `x` are those of the dot that is held there. -/
def Shows (line : SpriteLine) : Option (Nat × Nat × Dot) → Prop
  | none => line.sprPrio x = 0xFF
  | some (i, _, .color color _ _) => line.sprPrio x = objectPriority gpu vid i ∧ line.spr x = color
  | some (_, _, .window _) => False

theorem objectPriority_lt (i : Nat) : objectPriority gpu vid i < 4 :=
  (oamEntry vid gpu.core i).Priority.isLt

variable {gpu vid x}

variable {line : SpriteLine} {held : Option (Nat × Nat × Dot)}

theorem Shows.congr {other : SpriteLine}
    (prio : other.sprPrio x = line.sprPrio x) (color : other.spr x = line.spr x)
    (shows : Shows gpu vid x line held) : Shows gpu vid x other held := by
  cases held with
  | none => exact prio.trans shows
  | some drawn =>
      obtain ⟨i,y,dot⟩ := drawn
      cases dot with
      | color val alpha type => exact ⟨prio.trans shows.1,color.trans shows.2⟩
      | window tested => exact shows

theorem drawDot_window (prio : Nat) (line : SpriteLine) (y : Nat) (tested : Bool) :
    (drawDot prio line (y, .window tested)).sprPrio = line.sprPrio ∧
      (drawDot prio line (y, .window tested)).spr = line.spr := by
  unfold drawDot
  dsimp only
  split
  · exact ⟨rfl,rfl⟩
  · exact ⟨rfl,rfl⟩

theorem drawDot_elsewhere {y : Nat} (prio : Nat) (line : SpriteLine) (color : u16) (alpha : Nat)
    (type : Fin 4) (apart : y ≠ x) :
    (drawDot prio line (y, .color color alpha type)).sprPrio x = line.sprPrio x ∧
      (drawDot prio line (y, .color color alpha type)).spr x = line.spr x := by
  unfold drawDot
  dsimp only
  split
  · exact ⟨update_of_ne apart.symm _ _,update_of_ne apart.symm _ _⟩
  · exact ⟨rfl,rfl⟩

theorem drawDot_kept {prio : Nat} (color : u16) (alpha : Nat) (type : Fin 4)
    (covered : ¬prio < line.sprPrio x) : drawDot prio line (x, .color color alpha type) = line := by
  unfold drawDot
  exact if_neg covered

theorem drawDot_stored {prio : Nat} (color : u16) (alpha : Nat)
    (type : Fin 4) (free : prio < line.sprPrio x) :
    (drawDot prio line (x, .color color alpha type)).sprPrio x = prio ∧
      (drawDot prio line (x, .color color alpha type)).spr x = color := by
  unfold drawDot
  dsimp only
  rw [if_pos free]
  exact ⟨update_self _ _ _,update_self _ _ _⟩

theorem shows_drawOf (shows : Shows gpu vid x line held) (drawn : Nat × Nat × Dot) :
    Shows gpu vid x (drawOf gpu vid line drawn)
      (if isColourAt x drawn then better (drawnPriority gpu vid) held drawn else held) := by
  obtain ⟨i,y,dot⟩ := drawn
  have small := objectPriority_lt gpu vid i
  cases dot with
  | window tested =>
      obtain ⟨prio,color⟩ := drawDot_window (objectPriority gpu vid i) line y tested
      exact shows.congr (congrFun prio x) (congrFun color x)
  | color color alpha type =>
      by_cases here : y = x
      · subst here
        rw [if_pos (isColourAt_self y i color alpha type)]
        cases held with
        | none =>
            change line.sprPrio y = 0xFF at shows
            have free : objectPriority gpu vid i < line.sprPrio y := by
              rw [shows]
              omega
            exact drawDot_stored color alpha type free
        | some best =>
            obtain ⟨j,z,kept⟩ := best
            cases kept with
            | window tested => exact shows.elim
            | color val alpha' type' =>
                change Shows gpu vid y (drawDot _ line _) (if objectPriority gpu vid i <
                  objectPriority gpu vid j then _ else _)
                by_cases smaller : objectPriority gpu vid i < objectPriority gpu vid j
                · rw [if_pos smaller]
                  exact drawDot_stored color alpha type (by rw [shows.1]; exact smaller)
                · rw [if_neg smaller,
                    drawDot_kept color alpha type (by rw [shows.1]; exact smaller)]
                  exact shows
      · have miss : ¬isColourAt x (i, y, Dot.color color alpha type) = true :=
          fun hit => here (of_decide_eq_true hit)
        rw [if_neg miss]
        obtain ⟨prio,spr⟩ := drawDot_elsewhere (objectPriority gpu vid i) line color alpha type
          here
        exact shows.congr prio spr

theorem shows_firstBest (log : List (Nat × Nat × Dot)) :
    Shows gpu vid x (log.foldl (drawOf gpu vid) .clear)
      (firstBest (drawnPriority gpu vid) (log.filter (isColourAt x))) := by
  induction log using List.reverseRecOn with
  | nil => rfl
  | append_singleton log drawn ih =>
      rw [List.foldl_append,List.filter_append]
      have next := shows_drawOf ih drawn
      by_cases hit : isColourAt x drawn = true
      · rw [if_pos hit] at next
        rw [List.filter_cons_of_pos hit,List.filter_nil,firstBest_snoc]
        exact next
      · rw [if_neg hit] at next
        rw [List.filter_cons_of_neg hit,List.filter_nil,List.append_nil]
        exact next

/-- The dots of the object window are stored wherever no earlier dot hides them. -/
theorem sprWin_drawn {log : List (Nat × Nat × Dot)}
    (uncovered : log.Pairwise (fun early late => late.2.2 = .window true →
      isColourAt late.2.1 early = true →
        objectPriority gpu vid late.1 < objectPriority gpu vid early.1)) :
    (log.foldl (drawOf gpu vid) .clear).sprWin x = true ↔
      ∃ i tested, (i, x, Dot.window tested) ∈ log := by
  induction log using List.reverseRecOn with
  | nil =>
      constructor
      · exact nofun
      · rintro ⟨i,tested,member⟩
        exact (List.not_mem_nil member).elim
  | append_singleton log drawn ih =>
      rw [List.pairwise_append] at uncovered
      obtain ⟨before,-,behind⟩ := uncovered
      have earlier := ih before
      obtain ⟨i,y,dot⟩ := drawn
      have shows := @shows_firstBest gpu vid y log
      rw [List.foldl_append]
      generalize log.foldl (drawOf gpu vid) .clear = line at earlier shows ⊢
      cases dot with
      | color color alpha type =>
          have same : (drawDot (objectPriority gpu vid i) line
              (y, .color color alpha type)).sprWin = line.sprWin := by
            unfold drawDot
            dsimp only
            split
            · rfl
            · rfl
          change (drawDot (objectPriority gpu vid i) line
            (y, .color color alpha type)).sprWin x = true ↔ _
          rw [same,earlier]
          simp
      | window tested =>
          have free : ¬(tested = true ∧ ¬objectPriority gpu vid i < line.sprPrio y) := by
            rintro ⟨rotated,covered⟩
            apply covered
            cases held : firstBest (drawnPriority gpu vid) (log.filter (isColourAt y)) with
            | none =>
                rw [held] at shows
                change line.sprPrio y = 0xFF at shows
                have small := objectPriority_lt gpu vid i
                omega
            | some best =>
                obtain ⟨member,hit⟩ := List.mem_filter.mp (mem_of_firstBest held)
                have nearer := behind best member _ List.mem_cons_self (by rw [rotated]) hit
                obtain ⟨j,z,kept⟩ := best
                cases kept with
                | window other => cases hit
                | color color alpha type =>
                    rw [held] at shows
                    rw [shows.1]
                    exact nearer
          change (drawDot (objectPriority gpu vid i) line (y, .window tested)).sprWin x =
            true ↔ _
          unfold drawDot
          dsimp only
          rw [if_neg free]
          change update line.sprWin y true x = true ↔ _
          by_cases here : x = y
          · subst here
            rw [update_self]
            exact iff_of_true rfl ⟨i,tested,by simp⟩
          · rw [update_of_ne here,earlier]
            simp [here]

end

/-! ### The tables of a line -/

section

variable {gpu : GPU} {vid : VideoMemory} {x : Nat}

theorem objectAt_iff (plain : WindowObjectsPlain gpu vid) {i : Nat} {color : u16} :
    ObjectAt gpu vid x i color ↔
      ∃ alpha type, (i, x, Dot.color color alpha type) ∈ drawnDots gpu vid := by
  constructor
  · rintro ⟨inside,_shown,alpha,type,member⟩
    exact ⟨alpha,type,mem_drawnDots.mpr ⟨inside,member⟩⟩
  · rintro ⟨alpha,type,drawn⟩
    obtain ⟨inside,member⟩ := mem_drawnDots.mp drawn
    refine ⟨inside,?_,alpha,type,member⟩
    intro win
    obtain ⟨tested,impossible⟩ := plain.colourless i inside win _ member
    cases impossible

theorem spriteRender_object (plain : WindowObjectsPlain gpu vid) :
    ((∀ i color, ¬ObjectAt gpu vid x i color) ∧
        (spriteRender gpu vid .clear).sprPrio x = 0xFF) ∨
      ∃ i color, ObjectSeen gpu vid x i color ∧
        (spriteRender gpu vid .clear).sprPrio x = objectPriority gpu vid i ∧
        (spriteRender gpu vid .clear).spr x = color := by
  have shows := @shows_firstBest gpu vid x (drawnDots gpu vid)
  rw [spriteRender_eq]
  have sorted : ((drawnDots gpu vid).filter (isColourAt x)).Pairwise
      (fun first second => first.1 ≤ second.1) := by
    apply List.Pairwise.filter
    apply pairwise_drawnDots
    · exact fun i _ _ _ _ => Nat.le_refl i
    · exact fun i j before _ _ _ _ _ => before.le
  cases held : firstBest (drawnPriority gpu vid)
      ((drawnDots gpu vid).filter (isColourAt x)) with
  | none =>
      left
      rw [held] at shows
      refine ⟨?_,shows⟩
      intro i color here
      obtain ⟨alpha,type,drawn⟩ := (objectAt_iff plain).mp here
      have listed := List.mem_filter.mpr ⟨drawn,isColourAt_self x i color alpha type⟩
      rw [firstBest_eq_none held] at listed
      exact (List.not_mem_nil listed).elim
  | some best =>
      right
      rw [held] at shows
      obtain ⟨drawn,hit⟩ := List.mem_filter.mp (mem_of_firstBest held)
      have smallest := firstBest_smallest sorted held
      obtain ⟨i,y,dot⟩ := best
      cases dot with
      | window tested => cases hit
      | color color alpha type =>
          obtain rfl : y = x := of_decide_eq_true hit
          refine ⟨i,color,⟨(objectAt_iff plain).mpr ⟨alpha,type,drawn⟩,?_⟩,shows.1,shows.2⟩
          intro j other there
          obtain ⟨alpha',type',also⟩ := (objectAt_iff plain).mp there
          have listed := List.mem_filter.mpr ⟨also,isColourAt_self y j other alpha' type'⟩
          exact smallest (j, y, .color other alpha' type') listed

theorem spriteRender_window (plain : WindowObjectsPlain gpu vid) :
    (spriteRender gpu vid .clear).sprWin x = true ↔ ObjectWindowAt gpu vid x := by
  rw [spriteRender_eq,sprWin_drawn]
  · constructor
    · rintro ⟨i,tested,drawn⟩
      obtain ⟨inside,member⟩ := mem_drawnDots.mp drawn
      exact ⟨i,inside,mode_of_window member,_,member⟩
    · rintro ⟨i,inside,window,dot,member⟩
      obtain ⟨tested,same⟩ := plain.colourless i inside window _ member
      change dot = .window tested at same
      rw [same] at member
      exact ⟨i,tested,mem_drawnDots.mpr ⟨inside,member⟩⟩
  · apply pairwise_drawnDots
    · rintro i ⟨y,first⟩ inFirst ⟨z,second⟩ inSecond rotated hit
      change second = .window true at rotated
      subst rotated
      cases first with
      | window tested => cases hit
      | color color alpha type =>
          obtain rfl : y = z := of_decide_eq_true hit
          cases spriteDots_unique inFirst inSecond
    · rintro i j before inside ⟨y,first⟩ inFirst ⟨z,second⟩ inSecond rotated hit
      change second = .window true at rotated
      subst rotated
      cases first with
      | window tested => cases hit
      | color color alpha type =>
          obtain rfl : y = z := of_decide_eq_true hit
          exact plain.uncovered i inside y inSecond j before color alpha type inFirst

end

end Desmume.Gpu
