/-
Lighting, `gfx3d_glNormal`, `gfx3d_glLightDirection_cache` and the table of
`gfx3d_glShininess`, and when the colour of a normal is the one of the DS.

Numbers are rational, and `MatrixMultVec3x3` is a parameter, since its code is
that of a vector unit.
-/

import Mathlib.Algebra.BigOperators.Fin
import Mathlib.Data.Rat.Floor
import Mathlib.Tactic.FinCases
import Mathlib.Tactic.Linarith
import Mathlib.Tactic.Positivity
import Desmume.Geometry.Execute

namespace Desmume.Gfx3d
namespace Lighting

open Execute (Gfx)
open Execute.Gfx (component gfx3d_glShininess)

abbrev Vec := Fin 4 → ℚ

/-- What is cached for each light. -/
structure Vectors where
  cacheLightDirection : Fin 4 → Vec
  cacheHalfVector : Fin 4 → Vec

/-- `normalTable`, whose index has ten bits. -/
def normalTable (idx : u32) : ℚ :=
  ((idx.setWidth 16 <<< 6 : u16).toInt : ℚ) / 2 ^ 15

def tableVector (v : u32) (last : ℚ) : Vec :=
  ![normalTable (v &&& 1023),normalTable (v >>> 10 &&& 1023),normalTable (v >>> 20 &&& 1023),
    last]

def MatrixMultVec3x3 (matrix : Fin 4 → Vec) (vec : Vec) : Vec :=
  fun idx => vec 0 * matrix 0 idx + vec 1 * matrix 1 idx + vec 2 * matrix 2 idx

def vec3dot (a b : Vec) : ℚ := a 0 * b 0 + a 1 * b 1 + a 2 * b 2

/-- `vec3dot(&a[start], b)`. -/
def vec3dotFrom (a : Vec) (start : Nat) (b : Vec) : Option ℚ :=
  if inside : start + 2 < 4 then
    some (a ⟨start,by omega⟩ * b 0 + a ⟨start + 1,by omega⟩ * b 1 + a ⟨start + 2,inside⟩ * b 2)
  else none

/-- A result of type `int`. -/
def checked (val : Int) : Option Int :=
  if -2 ^ 31 ≤ val ∧ val < 2 ^ 31 then some val else none

/-- The conversion to `int`, which cuts the fraction. -/
def truncated (val : ℚ) : Option Int := checked (if 0 ≤ val then ⌊val⌋ else ⌈val⌉)

section

variable (mult : (Fin 4 → Vec) → Vec → Vec)

def gfx3d_glLightDirection_cache (mtxDirection : Fin 4 → Vec) (lightDirection : Fin 4 → u32)
    (vectors : Vectors) (idx : Fin 4) : Vectors :=
  let direction := mult mtxDirection (tableVector (lightDirection idx) 0)
  let lineOfSight : Vec := ![0,0,-1,0]
  { cacheLightDirection := Function.update vectors.cacheLightDirection idx direction
    cacheHalfVector := Function.update vectors.cacheHalfVector idx
      fun i => (direction i + lineOfSight i) / 2 }

def material (reg : u16) (c : Fin 3) : u8 := component (reg.setWidth 32) c

variable (gfx : Gfx) (vectors : Vectors) (normal : Vec)

variable (i : Fin 4) (words : List u32)

def enabled : Bool := gfx.lightMask.getLsbD i

def tableEnabled : Bool := gfx.dsSpecular.getLsbD 15

def diffuseLevel : ℚ := max 0 (-vec3dot (vectors.cacheLightDirection i) normal)

def TempNegativeHalf : Vec := fun idx => -vectors.cacheHalfVector i idx

def shininessIndex (idx : Int) : Nat := if idx ≥ 128 then 0 else idx.toNat

def shininessLevel : Option ℚ := do
  let dot ← vec3dotFrom (TempNegativeHalf vectors i) i normal
  let level := (max 0 dot) ^ 2
  if tableEnabled gfx then
    let idx ← truncated (level * 128)
    return (gfx.shininessTable (shininessIndex idx)).toNat
  else return level

def lightTerm (shininess : ℚ) (c : Fin 3) : ℚ :=
  ((material gfx.dsSpecular c).toNat * (component (gfx.lightColor i) c).toNat * shininess +
    (material gfx.dsDiffuse c).toNat * (component (gfx.lightColor i) c).toNat *
      diffuseLevel vectors normal i +
    (material gfx.dsAmbient c).toNat * (component (gfx.lightColor i) c).toNat) / 31

def addTerm (shininess : ℚ) (vertexColor : Fin 3 → Int) (c : Fin 3) : Option Int := do
  let term ← truncated (lightTerm gfx vectors normal i shininess c)
  checked (vertexColor c + term)

def addLight (vertexColor : Fin 3 → Int) (i : Fin 4) : Option (Fin 3 → Int) :=
  if enabled gfx i then do
    let shininess ← shininessLevel gfx vectors normal i
    let red ← addTerm gfx vectors normal i shininess vertexColor 0
    let green ← addTerm gfx vectors normal i shininess vertexColor 1
    let blue ← addTerm gfx vectors normal i shininess vertexColor 2
    return ![red,green,blue]
  else some vertexColor

/-- `colorRGB` after `gfx3d_glNormal`. -/
def gfx3d_glNormal (mtxDirection : Fin 4 → Vec) (v : u32) : Option (Fin 3 → u8) := do
  let normal := mult mtxDirection (tableVector v 1)
  let emission := fun c => ((material gfx.dsEmission c).toNat : Int)
  let vertexColor ← [0,1,2,3].foldlM (addLight gfx vectors normal) emission
  return fun c => BitVec.ofInt 8 (min 31 (vertexColor c))

/-- The table as a SHININESS command of 32 words has loaded it. -/
def LoadedBy : Prop :=
  words.length = 32 ∧ ∃ before : Gfx, before.shininessInd = 0 ∧
    gfx.shininessTable = (words.foldl gfx3d_glShininess before).shininessTable

def byteAt (idx : Nat) : Nat :=
  (words.getD (idx / 4) 0 >>> (8 * (idx % 4)) &&& 0xFF).toNat

def shininess : ℚ := (max 0 (vec3dot (TempNegativeHalf vectors i) normal)) ^ 2

def dsLevel (i : Fin 4) : ℚ :=
  if tableEnabled gfx then
    byteAt words (shininessIndex ⌊128 * shininess vectors normal i⌋) / 256
  else shininess vectors normal i

def dsColor (c : Fin 3) : Int :=
  min 31 ((material gfx.dsEmission c).toNat +
    ∑ i : Fin 4, if enabled gfx i then
      ⌊lightTerm gfx vectors normal i (dsLevel gfx vectors normal words i) c⌋ else 0)

end

theorem shininess_zero (byte : u32) : Execute.Gfx.shininess byte = 0 := by
  have small : (byte &&& 0xFF).toNat / 256 = 0 := by
    have low : (byte &&& 0xFF).toNat ≤ 0xFF := by
      rw [BitVec.toNat_and]
      exact Nat.and_le_right
    omega
  unfold Execute.Gfx.shininess
  rw [small]
  rfl

section

variable {gfx : Gfx} {loaded : Nat} (start : gfx.shininessInd.toNat = 4 * loaded)

include start

theorem shininessTable_word (word : u32) (zero : ∀ idx < 4 * loaded, gfx.shininessTable idx = 0) :
    ∀ idx < 4 * (loaded + 1), (gfx3d_glShininess gfx word).shininessTable idx = 0 := by
  intro idx inside
  unfold gfx3d_glShininess
  simp only [shininess_zero,start,Function.update_apply]
  split
  next => rfl
  next other3 =>
    split
    next => rfl
    next other2 =>
      split
      next => rfl
      next other1 =>
        split
        next => rfl
        next other0 => exact zero idx (by omega)

theorem shininessInd_word (word : u32) (more : loaded + 1 < 32) :
    (gfx3d_glShininess gfx word).shininessInd.toNat = 4 * (loaded + 1) := by
  have next : (gfx.shininessInd + 4).toNat = 4 * (loaded + 1) := by
    rw [BitVec.toNat_add,start]
    change (4 * loaded + 4) % 2 ^ 32 = _
    omega
  have below : (gfx.shininessInd + 4).toInt < 128 := by
    rw [BitVec.toInt_eq_toNat_of_lt (by omega),next]
    omega
  unfold gfx3d_glShininess
  simp only [if_pos below]
  exact next

end

theorem shininessTable_foldl (words : List u32) {gfx : Gfx} {loaded : Nat}
    (start : gfx.shininessInd.toNat = 4 * loaded) (room : loaded + words.length ≤ 32)
    (zero : ∀ idx < 4 * loaded, gfx.shininessTable idx = 0) :
    ∀ idx < 4 * (loaded + words.length),
      (words.foldl gfx3d_glShininess gfx).shininessTable idx = 0 := by
  induction words generalizing gfx loaded with
  | nil =>
      intro idx inside
      exact zero idx inside
  | cons word rest ih =>
      intro idx inside
      rw [List.length_cons] at room inside
      have table := shininessTable_word start word zero
      rcases Nat.lt_or_ge (loaded + 1) 32 with more | last
      · exact ih (shininessInd_word start word more) (by omega) table idx (by omega)
      · have none : rest = [] := List.eq_nil_of_length_eq_zero (by omega)
        subst none
        exact table idx (by omega)

theorem LoadedBy.zero {gfx : Gfx} {words : List u32} (loaded : LoadedBy gfx words) {idx : Nat}
    (inside : idx < 128) : gfx.shininessTable idx = 0 := by
  obtain ⟨n,before,start,same⟩ := loaded
  rw [same]
  refine @shininessTable_foldl words before 0 ?_ (by omega) (fun idx none => ?_) idx (by omega)
  · rw [start]
    rfl
  · omega

theorem checked_eq_some {val res : Int} (nonneg : 0 ≤ val) :
    checked val = some res ↔ val < 2 ^ 31 ∧ res = val := by
  unfold checked
  constructor
  · intro same
    obtain ⟨inside,equal⟩ := Option.ite_none_right_eq_some.mp same
    exact ⟨inside.2,(Option.some.inj equal).symm⟩
  · rintro ⟨small,rfl⟩
    rw [if_pos ⟨by omega,small⟩]

theorem truncated_eq_some {val : ℚ} {res : Int} (nonneg : 0 ≤ val) :
    truncated val = some res ↔ ⌊val⌋ < 2 ^ 31 ∧ res = ⌊val⌋ := by
  unfold truncated
  rw [if_pos nonneg,checked_eq_some (Int.floor_nonneg.mpr nonneg)]

theorem shininessIndex_lt (idx : Int) : shininessIndex idx < 128 := by
  unfold shininessIndex
  split
  next => decide
  next below => omega

section

variable {gfx : Gfx} {vectors : Vectors} {normal : Vec} {i : Fin 4}

def dotRead (vectors : Vectors) (normal : Vec) (i : Fin 4) : ℚ :=
  (vec3dotFrom (TempNegativeHalf vectors i) i normal).getD 0

/-- Light `i` reads three elements from element `i` on, so four are enough for the
lights 0 and 1, and the index into the table is an `int`. -/
def ReadsInside (gfx : Gfx) (vectors : Vectors) (normal : Vec) (i : Fin 4) : Prop :=
  i.val < 2 ∧ (tableEnabled gfx = true →
    ⌊(max 0 (dotRead vectors normal i)) ^ 2 * 128⌋ < 2 ^ 31)

instance : Decidable (ReadsInside gfx vectors normal i) :=
  inferInstanceAs (Decidable (i.val < 2 ∧ (tableEnabled gfx = true →
    ⌊(max 0 (dotRead vectors normal i)) ^ 2 * 128⌋ < 2 ^ 31)))

def levelRead (gfx : Gfx) (vectors : Vectors) (normal : Vec) (i : Fin 4) : ℚ :=
  if tableEnabled gfx then 0 else (max 0 (dotRead vectors normal i)) ^ 2

theorem vec3dotFrom_eq (i : Fin 4) (inside : i.val < 2) :
    vec3dotFrom (TempNegativeHalf vectors i) i normal = some (dotRead vectors normal i) := by
  have room : i.val + 2 < 4 := by omega
  unfold dotRead vec3dotFrom
  rw [dif_pos room,Option.getD_some]

variable {words : List u32} {vertexColor : Fin 3 → Int}

theorem shininessLevel_eq_some (loaded : LoadedBy gfx words) {level : ℚ} :
    shininessLevel gfx vectors normal i = some level ↔
      ReadsInside gfx vectors normal i ∧ level = levelRead gfx vectors normal i := by
  unfold ReadsInside levelRead
  rcases Nat.lt_or_ge i.val 2 with inside | outside
  · unfold shininessLevel
    rw [vec3dotFrom_eq i inside]
    change (if tableEnabled gfx = true then
      (truncated ((max 0 (dotRead vectors normal i)) ^ 2 * 128)).bind _ else some _) =
        some level ↔ _
    by_cases table : tableEnabled gfx = true
    · simp only [if_pos table,Option.bind_eq_some_iff,
        truncated_eq_some (show 0 ≤ (max 0 (dotRead vectors normal i)) ^ 2 * 128 by positivity)]
      constructor
      · rintro ⟨idx,⟨small,rfl⟩,same⟩
        refine ⟨⟨inside,fun _ => small⟩,?_⟩
        rw [← Option.some.inj same,loaded.zero (shininessIndex_lt _)]
        rfl
      · rintro ⟨⟨-,small⟩,rfl⟩
        refine ⟨_,⟨small table,rfl⟩,?_⟩
        rw [loaded.zero (shininessIndex_lt _)]
        rfl
    · simp only [if_neg table,Option.some.injEq]
      constructor
      · rintro rfl
        exact ⟨⟨inside,fun on => absurd on table⟩,rfl⟩
      · rintro ⟨-,rfl⟩
        rfl
  · have none : vec3dotFrom (TempNegativeHalf vectors i) i normal = none := by
      unfold vec3dotFrom
      rw [dif_neg (by omega)]
    unfold shininessLevel
    rw [none]
    constructor
    · intro impossible
      cases impossible
    · rintro ⟨⟨inside,-⟩,-⟩
      omega

theorem lightTerm_nonneg {shininess : ℚ} (nonneg : 0 ≤ shininess) (c : Fin 3) :
    0 ≤ lightTerm gfx vectors normal i shininess c := by
  have diffuse : 0 ≤ diffuseLevel vectors normal i := le_max_left _ _
  unfold lightTerm
  positivity

theorem levelRead_nonneg : 0 ≤ levelRead gfx vectors normal i := by
  unfold levelRead
  split
  next => exact le_rfl
  next => positivity

def added (gfx : Gfx) (vectors : Vectors) (normal : Vec) (i : Fin 4) (c : Fin 3) : Int :=
  if enabled gfx i then
    ⌊lightTerm gfx vectors normal i (levelRead gfx vectors normal i) c⌋ else 0

variable (c : Fin 3)

theorem added_nonneg : 0 ≤ added gfx vectors normal i c := by
  unfold added
  split
  next => exact Int.floor_nonneg.mpr (lightTerm_nonneg levelRead_nonneg c)
  next => exact le_rfl

theorem addTerm_eq_some {c : Fin 3} {level : ℚ} {res : Int}
    (nonneg : 0 ≤ vertexColor c) (levelNonneg : 0 ≤ level) :
    addTerm gfx vectors normal i level vertexColor c = some res ↔
      vertexColor c + ⌊lightTerm gfx vectors normal i level c⌋ < 2 ^ 31 ∧
        res = vertexColor c + ⌊lightTerm gfx vectors normal i level c⌋ := by
  have term := @lightTerm_nonneg gfx vectors normal i level levelNonneg c
  have floor := Int.floor_nonneg.mpr term
  unfold addTerm
  change (truncated _).bind _ = some res ↔ _
  simp only [Option.bind_eq_some_iff,truncated_eq_some term]
  constructor
  · rintro ⟨val,⟨small,rfl⟩,sum⟩
    exact (checked_eq_some (by omega)).mp sum
  · rintro ⟨small,rfl⟩
    exact ⟨_,⟨by omega,rfl⟩,(checked_eq_some (by omega)).mpr ⟨small,rfl⟩⟩

theorem addLight_eq_some (loaded : LoadedBy gfx words)
    {res : Fin 3 → Int} (nonneg : ∀ c, 0 ≤ vertexColor c) (small : ∀ c, vertexColor c < 2 ^ 31) :
    addLight gfx vectors normal vertexColor i = some res ↔
      (enabled gfx i = true → ReadsInside gfx vectors normal i) ∧
        (∀ c, vertexColor c + added gfx vectors normal i c < 2 ^ 31) ∧
        res = fun c => vertexColor c + added gfx vectors normal i c := by
  unfold addLight added
  by_cases on : enabled gfx i = true
  · simp only [if_pos on]
    have levelNonneg := @levelRead_nonneg gfx vectors normal i
    change (shininessLevel gfx vectors normal i).bind (fun level =>
      (addTerm gfx vectors normal i level vertexColor 0).bind fun red =>
        (addTerm gfx vectors normal i level vertexColor 1).bind fun green =>
          (addTerm gfx vectors normal i level vertexColor 2).bind fun blue =>
            some ![red,green,blue]) = some res ↔ _
    simp only [Option.bind_eq_some_iff,shininessLevel_eq_some loaded,Option.some.injEq]
    constructor
    · rintro ⟨level,⟨inside,rfl⟩,red,isRed,green,isGreen,blue,isBlue,rfl⟩
      obtain ⟨smallRed,rfl⟩ := (addTerm_eq_some (nonneg 0) levelNonneg).mp isRed
      obtain ⟨smallGreen,rfl⟩ := (addTerm_eq_some (nonneg 1) levelNonneg).mp isGreen
      obtain ⟨smallBlue,rfl⟩ := (addTerm_eq_some (nonneg 2) levelNonneg).mp isBlue
      refine ⟨fun _ => inside, fun c => ?_, funext fun c => ?_⟩
      · fin_cases c
        · exact smallRed
        · exact smallGreen
        · exact smallBlue
      · fin_cases c
        · rfl
        · rfl
        · rfl
    · rintro ⟨inside,fits,rfl⟩
      refine ⟨_,⟨inside on,rfl⟩,_,(addTerm_eq_some (nonneg 0) levelNonneg).mpr ⟨fits 0,rfl⟩,
        _,(addTerm_eq_some (nonneg 1) levelNonneg).mpr ⟨fits 1,rfl⟩,
        _,(addTerm_eq_some (nonneg 2) levelNonneg).mpr ⟨fits 2,rfl⟩,funext fun c => ?_⟩
      fin_cases c
      · rfl
      · rfl
      · rfl
  · simp only [if_neg on,Int.add_zero,Option.some.injEq]
    constructor
    · rintro rfl
      exact ⟨fun yes => absurd yes on, small, rfl⟩
    · rintro ⟨-,-,rfl⟩
      rfl

def addedBy (gfx : Gfx) (vectors : Vectors) (normal : Vec) (lights : List (Fin 4)) (c : Fin 3) :
    Int :=
  (lights.map fun i => added gfx vectors normal i c).sum

theorem addedBy_nonneg (lights : List (Fin 4)) (c : Fin 3) :
    0 ≤ addedBy gfx vectors normal lights c := by
  induction lights with
  | nil => exact le_rfl
  | cons light rest ih =>
      have first := @added_nonneg gfx vectors normal light c
      unfold addedBy at ih ⊢
      rw [List.map_cons,List.sum_cons]
      omega

/-- The loop from any light on. -/
theorem addLights_eq_some {words : List u32} (loaded : LoadedBy gfx words) (lights : List (Fin 4))
    {vertexColor res : Fin 3 → Int} (nonneg : ∀ c, 0 ≤ vertexColor c)
    (small : ∀ c, vertexColor c < 2 ^ 31) :
    lights.foldlM (addLight gfx vectors normal) vertexColor = some res ↔
      (∀ i ∈ lights, enabled gfx i = true → ReadsInside gfx vectors normal i) ∧
        (∀ c, vertexColor c + addedBy gfx vectors normal lights c < 2 ^ 31) ∧
        res = fun c => vertexColor c + addedBy gfx vectors normal lights c := by
  induction lights generalizing vertexColor with
  | nil =>
      have empty : ∀ c, vertexColor c + addedBy gfx vectors normal [] c = vertexColor c :=
        fun c => Int.add_zero _
      simp only [empty,List.foldlM_nil,List.not_mem_nil,false_implies,implies_true,true_and]
      change some vertexColor = some res ↔ _
      rw [Option.some.injEq]
      exact ⟨fun same => ⟨small,same.symm⟩, fun both => both.2.symm⟩
  | cons light rest ih =>
      have split : ∀ c, vertexColor c + addedBy gfx vectors normal (light :: rest) c =
          vertexColor c + added gfx vectors normal light c + addedBy gfx vectors normal rest c := by
        intro c
        unfold addedBy
        rw [List.map_cons,List.sum_cons,Int.add_assoc]
      have later := fun c => @addedBy_nonneg gfx vectors normal rest c
      have here := fun c => @added_nonneg gfx vectors normal light c
      rw [List.foldlM_cons]
      change (addLight gfx vectors normal vertexColor light).bind _ = _ ↔ _
      simp only [Option.bind_eq_some_iff,split,List.forall_mem_cons]
      constructor
      · rintro ⟨middle,first,others⟩
        obtain ⟨inside,fits,rfl⟩ := (addLight_eq_some loaded nonneg small).mp first
        obtain ⟨insideLater,fitsLater,same⟩ :=
          (ih (fun c => by have := nonneg c; have := here c; omega) fits).mp others
        exact ⟨⟨inside,insideLater⟩,fitsLater,same⟩
      · rintro ⟨⟨inside,insideLater⟩,fits,rfl⟩
        have fitsHere : ∀ c, vertexColor c + added gfx vectors normal light c < 2 ^ 31 := by
          intro c
          have total := fits c
          have rest := later c
          omega
        refine ⟨_,(addLight_eq_some loaded nonneg small).mpr ⟨inside,fitsHere,rfl⟩,?_⟩
        exact (ih (fun c => by have := nonneg c; have := here c; omega) fitsHere).mpr
          ⟨insideLater,fits,rfl⟩

/-! ### The colour -/

def emission (gfx : Gfx) (c : Fin 3) : Int := (material gfx.dsEmission c).toNat

theorem emission_nonneg : 0 ≤ emission gfx c := Int.natCast_nonneg _

theorem emission_lt : emission gfx c < 2 ^ 31 := by
  have byte := (material gfx.dsEmission c).isLt
  unfold emission
  omega

/-- The enabled lights are read inside of their arrays, and the sums are `int`s. -/
structure Bounded (gfx : Gfx) (vectors : Vectors) (normal : Vec) : Prop where
  inside : ∀ i, enabled gfx i = true → ReadsInside gfx vectors normal i
  sums : ∀ c, emission gfx c + ∑ i : Fin 4, added gfx vectors normal i c < 2 ^ 31

/-- The entry of the table is zero; without the table, what is read for the half
vector gives the right dot product, as it does for light 0. -/
def LevelRight (gfx : Gfx) (vectors : Vectors) (normal : Vec) (words : List u32) (i : Fin 4) :
    Prop :=
  if tableEnabled gfx then
    byteAt words (shininessIndex ⌊128 * shininess vectors normal i⌋) = 0
  else max 0 (dotRead vectors normal i) = max 0 (vec3dot (TempNegativeHalf vectors i) normal)

def SpecularRight (gfx : Gfx) (vectors : Vectors) (normal : Vec) (words : List u32) (i : Fin 4) :
    Prop :=
  ∀ c, (material gfx.dsSpecular c).toNat * (component (gfx.lightColor i) c).toNat = 0 ∨
    LevelRight gfx vectors normal words i

def RightColor (mult : (Fin 4 → Vec) → Vec → Vec) (gfx : Gfx) (vectors : Vectors)
    (mtxDirection : Fin 4 → Vec) (words : List u32) (v : u32) : Prop :=
  ∃ color, gfx3d_glNormal mult gfx vectors mtxDirection v = some color ∧
    ∀ c, ((color c).toNat : Int) =
      dsColor gfx vectors (mult mtxDirection (tableVector v 1)) words c

theorem levelRight_zero (words : List u32) (off : tableEnabled gfx = false) :
    LevelRight gfx vectors normal words 0 := by
  unfold LevelRight
  rw [off]
  rfl

theorem levelRight_iff :
    LevelRight gfx vectors normal words i ↔
      levelRead gfx vectors normal i = dsLevel gfx vectors normal words i := by
  unfold LevelRight levelRead dsLevel shininess
  by_cases table : tableEnabled gfx = true
  · simp only [if_pos table]
    rw [@eq_comm ℚ 0,div_eq_zero_iff,or_iff_left (by norm_num),Nat.cast_eq_zero]
  · simp only [if_neg table]
    exact (sq_eq_sq₀ (le_max_left _ _) (le_max_left _ _)).symm

theorem specularRight_iff :
    SpecularRight gfx vectors normal words i ↔
      ∀ c, lightTerm gfx vectors normal i (levelRead gfx vectors normal i) c =
        lightTerm gfx vectors normal i (dsLevel gfx vectors normal words i) c := by
  unfold SpecularRight
  refine forall_congr' (fun c => ?_)
  rw [levelRight_iff]
  unfold lightTerm
  rw [div_left_inj' (by norm_num),add_left_inj,add_left_inj,← Nat.cast_mul,mul_eq_mul_left_iff,
    or_comm,Nat.cast_eq_zero]

theorem addedBy_all :
    addedBy gfx vectors normal [0,1,2,3] c = ∑ i : Fin 4, added gfx vectors normal i c := by
  rw [Fin.sum_univ_four]
  unfold addedBy
  simp only [List.map_cons,List.map_nil,List.sum_cons,List.sum_nil]
  omega

theorem gfx3d_glNormal_eq_some {mult : (Fin 4 → Vec) → Vec → Vec} {mtxDirection : Fin 4 → Vec}
    {v : u32} (loaded : LoadedBy gfx words) {color : Fin 3 → u8} :
    gfx3d_glNormal mult gfx vectors mtxDirection v = some color ↔
      Bounded gfx vectors (mult mtxDirection (tableVector v 1)) ∧
        color = fun c => BitVec.ofInt 8 (min 31 (emission gfx c +
          ∑ i : Fin 4, added gfx vectors (mult mtxDirection (tableVector v 1)) i c)) := by
  have loop := fun res => @addLights_eq_some gfx vectors (mult mtxDirection (tableVector v 1))
    words loaded [0,1,2,3] (emission gfx) res emission_nonneg emission_lt
  simp only [addedBy_all] at loop
  have all : ∀ property : Fin 4 → Prop, (∀ i ∈ [0,1,2,3], property i) ↔ ∀ i, property i := by
    intro property
    refine ⟨fun listed i => listed i ?_, fun every i _ => every i⟩
    fin_cases i <;> decide
  change Option.bind (([0,1,2,3] : List (Fin 4)).foldlM
    (addLight gfx vectors (mult mtxDirection (tableVector v 1))) (emission gfx)) _ = _ ↔ _
  simp only [Option.bind_eq_some_iff,loop,all]
  constructor
  · rintro ⟨res,⟨inside,sums,rfl⟩,same⟩
    exact ⟨⟨inside,sums⟩,(Option.some.inj same).symm⟩
  · rintro ⟨bounded,rfl⟩
    exact ⟨_,⟨bounded.inside,bounded.sums,rfl⟩,rfl⟩

/-- The colour of a normal, for any matrix product and any vectors: where it is
right the reads and sums are bounded; where they are, and the specular term of
each enabled light is the one of the DS, the colour is; and that the specular
term is right says the same as that the unrounded terms of the light agree. -/
theorem normal_color_right (mult : (Fin 4 → Vec) → Vec → Vec) (gfx : Gfx) (vectors : Vectors)
    (mtxDirection : Fin 4 → Vec) (words : List u32) (loaded : LoadedBy gfx words) (v : u32) :
    let normal := mult mtxDirection (tableVector v 1)
    (RightColor mult gfx vectors mtxDirection words v → Bounded gfx vectors normal) ∧
      (Bounded gfx vectors normal →
        (∀ i, enabled gfx i = true → SpecularRight gfx vectors normal words i) →
        RightColor mult gfx vectors mtxDirection words v) ∧
      ∀ i, SpecularRight gfx vectors normal words i ↔
        ∀ c, lightTerm gfx vectors normal i (levelRead gfx vectors normal i) c =
          lightTerm gfx vectors normal i (dsLevel gfx vectors normal words i) c := by
  intro normal
  refine ⟨?_,?_,fun i => specularRight_iff⟩
  · rintro ⟨color,stored,-⟩
    exact ((gfx3d_glNormal_eq_some loaded).mp stored).1
  · intro bounded specular
    refine ⟨_,(gfx3d_glNormal_eq_some loaded).mpr ⟨bounded,rfl⟩,fun c => ?_⟩
    have same : ∑ i : Fin 4, added gfx vectors normal i c =
        ∑ i : Fin 4, if enabled gfx i then
          ⌊lightTerm gfx vectors normal i (dsLevel gfx vectors normal words i) c⌋ else 0 := by
      refine Finset.sum_congr rfl (fun i _ => ?_)
      unfold added
      by_cases on : enabled gfx i = true
      · rw [if_pos on,if_pos on,specularRight_iff.mp (specular i on) c]
      · rw [if_neg on,if_neg on]
    have low : 0 ≤ emission gfx c + ∑ i : Fin 4, added gfx vectors normal i c := by
      have start := @emission_nonneg gfx c
      have rest := Finset.sum_nonneg fun i (_ : i ∈ Finset.univ) =>
        @added_nonneg gfx vectors normal i c
      omega
    have stored : ∀ val : Int, 0 ≤ val →
        ((BitVec.ofInt 8 (min 31 val)).toNat : Int) = min 31 val := by
      intro val nonneg
      rw [BitVec.toNat_ofInt]
      omega
    change ((BitVec.ofInt 8 (min 31 (emission gfx c +
      ∑ i : Fin 4, added gfx vectors normal i c))).toNat : Int) = _
    rw [stored _ low,same]
    rfl

end

def identity : Fin 4 → Vec := ![![1,0,0,0],![0,1,0,0],![0,0,1,0],![0,0,0,1]]

def zeroWords : List u32 := List.replicate 32 0

def oneLight (lightMask : u32) : Gfx :=
  { Execute.Gfx.initial with
    lightMask := lightMask
    dsSpecular := 0x1F
    lightColor := fun _ => 0x1F
    shininessTable := (zeroWords.foldl gfx3d_glShininess Execute.Gfx.initial).shininessTable }

def headOn : Vectors :=
  let vectors : Vectors := ⟨fun _ _ => 0, fun _ _ => 0⟩
  let direction : Fin 4 → u32 := fun _ => 512#32 <<< 20
  let vectors := gfx3d_glLightDirection_cache MatrixMultVec3x3 identity direction vectors 0
  gfx3d_glLightDirection_cache MatrixMultVec3x3 identity direction vectors 1

theorem oneLight_loaded (lightMask : u32) : LoadedBy (oneLight lightMask) zeroWords :=
  ⟨rfl,Execute.Gfx.initial,rfl,rfl⟩

theorem normal_color_light0 :
    RightColor MatrixMultVec3x3 (oneLight 1) headOn identity zeroWords (511#32 <<< 20) := by
  refine (normal_color_right MatrixMultVec3x3 (oneLight 1) headOn identity zeroWords
    (oneLight_loaded 1) (511#32 <<< 20)).2.1 ?_ ?_
  · constructor
    · decide +kernel
    · decide +kernel
  · intro i on c
    have first : i = 0 := by
      revert i
      decide
    subst first
    exact Or.inr (levelRight_zero zeroWords rfl)

/-- Light 1 alone gives the red 0 for 30, since the elements behind the first one
of its half vector are read. -/
theorem light1_not_right :
    ¬∀ (gfx : Gfx) (vectors : Vectors) (mtxDirection : Fin 4 → Vec) (words : List u32),
      LoadedBy gfx words → ∀ v,
        RightColor MatrixMultVec3x3 gfx vectors mtxDirection words v := by
  intro always
  obtain ⟨color,stored,right⟩ :=
    always (oneLight 2) headOn identity zeroWords (oneLight_loaded 2) (511#32 <<< 20)
  have red := right 0
  have black : (gfx3d_glNormal MatrixMultVec3x3 (oneLight 2) headOn identity (511#32 <<< 20)).map
      (fun color => (color 0).toNat) = some 0 := by decide +kernel
  have bright : dsColor (oneLight 2) headOn
      (MatrixMultVec3x3 identity (tableVector (511#32 <<< 20) 1)) zeroWords 0 = 30 := by
    decide +kernel
  rw [stored,Option.map_some,Option.some.injEq] at black
  rw [black,bright] at red
  exact absurd red (by decide)

end Lighting
end Desmume.Gfx3d
