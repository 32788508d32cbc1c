/-
What `gfx3d_reset` leaves of the variables before it, and the values that are
derived from others: `lightMask`, `envMode`, `cullingMask` and
`texCoordinateTransform`.

A run after a reset is the run after the first reset exactly when the variables
that the reset does not assign have their first values.
-/

import Desmume.Geometry.Execute

namespace Desmume.Gfx3d
namespace Execute

open Run

namespace Gfx

/-- `cullingMask` and `envMode` are set and never read, and `SetVertex` sets
`polygonListCompleted` before it reads it. No savestate holds the three. -/
def hide (gfx : Gfx) (cullingMask envMode : u32) (completed : Int) : Gfx :=
  { gfx with
    cullingMask := cullingMask
    envMode := envMode
    lists := { gfx.lists with polygonListCompleted := completed } }

def seen (gfx : Gfx) : Gfx := gfx.hide 0 0 0

end Gfx

section

variable (build : Build) (floats : Floats)

theorem hide_seen (gfx : Gfx) :
    gfx.seen.hide gfx.cullingMask gfx.envMode gfx.lists.polygonListCompleted = gfx := rfl

variable {first second : Gfx}

theorem eq_hide_of_seen (same : first.seen = second.seen) :
    first = second.hide first.cullingMask first.envMode first.lists.polygonListCompleted := by
  have shown := hide_seen first
  rw [same] at shown
  exact shown.symm

theorem seen_ite {choice : Prop} [Decidable choice] {first second third fourth : Gfx}
    (yes : first.seen = third.seen) (no : second.seen = fourth.seen) :
    (if choice then first else second).seen = (if choice then third else fourth).seen := by
  rw [apply_ite Gfx.seen,apply_ite Gfx.seen,yes,no]

theorem hide_follow (gfx : Gfx) (cullingMask envMode : u32) (completed : Int)
    (change : Matrix → Matrix) :
    (gfx.hide cullingMask envMode completed).follow change =
      (gfx.follow change).hide cullingMask envMode completed := by
  by_cases both : gfx.matrices.mode = 2
  · have here : gfx.follow change = gfx.setCurrent 1 (change (gfx.matrices.mtxCurrent 1)) :=
      if_pos both
    rw [here]
    exact if_pos both
  · have here : gfx.follow change = gfx := if_neg both
    rw [here]
    exact if_neg both

theorem seen_follow (same : first.seen = second.seen)
    (change : Matrix → Matrix) : (first.follow change).seen = (second.follow change).seen := by
  rw [eq_hide_of_seen same,hide_follow]
  rfl

theorem seen_multiply (same : first.seen = second.seen) (mtxTemporal : Matrix) :
    (Gfx.multiply floats first mtxTemporal).seen =
      (Gfx.multiply floats second mtxTemporal).seen := by
  have times : (first.setCurrent first.matrices.mode
        (floats.MatrixMultiply first.current mtxTemporal)).seen =
      (second.setCurrent second.matrices.mode
        (floats.MatrixMultiply second.current mtxTemporal)).seen := by
    rw [eq_hide_of_seen same]
    rfl
  exact congrArg (fun shown : Gfx => { shown with mtxTemporal := MatrixInit })
    (seen_follow times fun pos => floats.MatrixMultiply pos mtxTemporal)

variable (gfx : Gfx) (cullingMask envMode : u32) (completed : Int)

theorem seen_execute (cmd : Command) :
    (gfx3d_execute build floats (gfx.hide cullingMask envMode completed) cmd).seen =
      (gfx3d_execute build floats gfx cmd).seen := by
  cases cmd with
  | MTX_IDENTITY => exact seen_follow (by rfl) _
  | MTX_LOAD_4x4 v => exact seen_ite rfl (seen_follow (by rfl) _)
  | MTX_LOAD_4x3 v => exact seen_ite rfl (seen_follow (by rfl) _)
  | MTX_MULT_4x4 v => exact seen_ite rfl (seen_multiply floats (by rfl) _)
  | MTX_MULT_4x3 v => exact seen_ite rfl (seen_multiply floats (by rfl) _)
  | MTX_MULT_3x3 v => exact seen_ite rfl (seen_multiply floats (by rfl) _)
  | MTX_SCALE v => exact seen_ite rfl rfl
  | MTX_TRANS v => exact seen_ite rfl (seen_follow (by rfl) _)
  | VTX_16 v => exact seen_ite rfl rfl
  | BOX_TEST v => exact seen_ite rfl rfl
  | POS_TEST v => exact seen_ite rfl rfl
  | _ => rfl

theorem seen_sendCommandToFIFO (val : u32) :
    (gfx3d_sendCommandToFIFO (gfx.hide cullingMask envMode completed) val).seen =
      (gfx3d_sendCommandToFIFO gfx val).seen := by
  have hardware : (gfx.hide cullingMask envMode completed).hardware = gfx.hardware := rfl
  unfold gfx3d_sendCommandToFIFO
  rw [hardware]
  cases gfx.hardware.receive Gxf.iterations val with
  | none => rfl
  | some res => rfl

theorem seen_hide_step (op : Op) :
    (step build floats (gfx.hide cullingMask envMode completed) op).seen =
      (step build floats gfx op).seen := by
  cases op with
  | execute cmd =>
      exact seen_execute build floats gfx cullingMask envMode completed cmd
  | send val => exact seen_sendCommandToFIFO gfx cullingMask envMode completed val
  | VBlankSignal => exact seen_ite rfl rfl
  | loadstate version saved => rfl
  | reset => rfl

end

theorem seen_step (build : Build) (floats : Floats) {first second : Gfx}
    (same : first.seen = second.seen) (op : Op) :
    (step build floats first op).seen = (step build floats second op).seen := by
  rw [eq_hide_of_seen same]
  exact seen_hide_step build floats second _ _ _ op

theorem seen_final (build : Build) (floats : Floats) {first second : Gfx}
    (same : first.seen = second.seen) (ops : List Op) :
    (final (step build floats) first ops).seen = (final (step build floats) second ops).seen := by
  induction ops generalizing first second with
  | nil => exact same
  | cons op rest ih => exact ih (seen_step build floats same op)

/-- The variables that `gfx3d_reset` does not assign, and the stacks with what
it leaves in them. -/
structure Leftovers where
  inBegin : Bool
  triStripToggle : Bool
  lightColor : Fin 4 → u32
  lightDirection : Fin 4 → u32
  dsDiffuse : u16
  dsAmbient : u16
  dsSpecular : u16
  dsEmission : u16
  shininessInd : u32
  BTcoords : Nat → u16
  PTcoords : Nat → f32
  lightMask : u32
  texCoordinateTransform : u32
  cacheLightDirection : Fin 4 → Fin 4 → f32
  cacheHalfVector : Fin 4 → Fin 4 → f32
  mtxStack : Fin 4 → Mtx.MatrixStack Matrix

def Gfx.leftovers (gfx : Gfx) : Leftovers where
  inBegin := gfx.lists.inBegin
  triStripToggle := gfx.lists.triStripToggle
  lightColor := gfx.lightColor
  lightDirection := gfx.lightDirection
  dsDiffuse := gfx.dsDiffuse
  dsAmbient := gfx.dsAmbient
  dsSpecular := gfx.dsSpecular
  dsEmission := gfx.dsEmission
  shininessInd := gfx.shininessInd
  BTcoords := gfx.BTcoords
  PTcoords := gfx.PTcoords
  lightMask := gfx.lightMask
  texCoordinateTransform := gfx.texCoordinateTransform
  cacheLightDirection := gfx.cacheLightDirection
  cacheHalfVector := gfx.cacheHalfVector
  mtxStack := fun which => Mtx.MatrixStackInit MatrixInit (gfx.matrices.mtxStack which)

def Clean (gfx : Gfx) : Prop := gfx.leftovers = Gfx.initial.leftovers

def fresh (left : Leftovers) : Gfx :=
  let zero := Gfx.gfx3d_reset Gfx.initial
  { zero with
    lists := { zero.lists with inBegin := left.inBegin, triStripToggle := left.triStripToggle }
    matrices := { zero.matrices with mtxStack := left.mtxStack }
    lightColor := left.lightColor
    lightDirection := left.lightDirection
    dsDiffuse := left.dsDiffuse
    dsAmbient := left.dsAmbient
    dsSpecular := left.dsSpecular
    dsEmission := left.dsEmission
    shininessInd := left.shininessInd
    BTcoords := left.BTcoords
    PTcoords := left.PTcoords
    lightMask := left.lightMask
    texCoordinateTransform := left.texCoordinateTransform
    cacheLightDirection := left.cacheLightDirection
    cacheHalfVector := left.cacheHalfVector }

theorem seen_reset (gfx : Gfx) :
    (Gfx.gfx3d_reset gfx).seen = (fresh gfx.leftovers).seen := rfl

theorem leftovers_fresh (left : Leftovers)
    (settled : ∀ which,
      Mtx.MatrixStackInit MatrixInit (left.mtxStack which) = left.mtxStack which) :
    (fresh left).seen.leftovers = left := by
  have kept : (fun which => Mtx.MatrixStackInit MatrixInit (left.mtxStack which)) =
      left.mtxStack := funext settled
  exact congrArg (fun mtxStack => { left with mtxStack := mtxStack }) kept

theorem stackInit_idem (stack : Mtx.MatrixStack Matrix) :
    Mtx.MatrixStackInit MatrixInit (Mtx.MatrixStackInit MatrixInit stack) =
      Mtx.MatrixStackInit MatrixInit stack := by
  unfold Mtx.MatrixStackInit
  congr 1
  funext slot
  dsimp only
  split <;> rfl

theorem seen_reset_iff (gfx : Gfx) :
    (Gfx.gfx3d_reset gfx).seen = (Gfx.gfx3d_reset Gfx.initial).seen ↔ Clean gfx := by
  rw [seen_reset,seen_reset]
  constructor
  · intro same
    have left := congrArg Gfx.leftovers same
    rwa [leftovers_fresh _ (fun which => stackInit_idem _),
      leftovers_fresh _ (fun which => stackInit_idem _)] at left
  · intro clean
    exact congrArg (fun left => (fresh left).seen) clean

def Consistent (gfx : Gfx) : Prop := gfx.texCoordinateTransform = gfx.lists.textureFormat >>> 30

/-- The masks are those of `polyAttr`. -/
def Masked (gfx : Gfx) : Prop :=
  gfx.lightMask = gfx.lists.polyAttr &&& 0xF ∧
    gfx.envMode = (gfx.lists.polyAttr &&& 0x30) >>> 4 ∧
    gfx.cullingMask = (gfx.lists.polyAttr >>> 6) &&& 3

def Gfx.texture (gfx : Gfx) : u32 × u32 := (gfx.lists.textureFormat, gfx.texCoordinateTransform)

theorem consistent_of_texture {before after : Gfx} (same : after.texture = before.texture)
    (consistent : Consistent before) : Consistent after := by
  obtain ⟨fmt,transform⟩ := Prod.mk.inj same
  unfold Consistent
  rw [fmt,transform]
  exact consistent

section

variable {VERT : Type} (eng : Engine VERT) (continuation : Int)

theorem completeTriangleStrip_textureFormat :
    (completeTriangleStrip eng continuation).textureFormat = eng.textureFormat := by
  unfold completeTriangleStrip
  dsimp only
  rw [apply_ite Engine.textureFormat]
  split <;> split <;> rfl

theorem completeQuadStrip_textureFormat :
    (completeQuadStrip eng continuation).textureFormat = eng.textureFormat := by
  unfold completeQuadStrip
  dsimp only
  split <;> rfl

theorem complete_textureFormat : (complete eng continuation).textureFormat = eng.textureFormat := by
  unfold complete
  split_ifs
  · rfl
  · rfl
  · rfl
  · rfl
  · rfl
  · exact completeTriangleStrip_textureFormat eng continuation
  · rfl
  · exact completeQuadStrip_textureFormat eng continuation
  · rfl

theorem SetVertex_textureFormat (build : Build) (dup : VERT → VERT → VERT → Bool)
    (eng : Engine VERT) (vert : VERT) :
    (Gfx3d.SetVertex build dup eng vert).1.textureFormat = eng.textureFormat := by
  unfold Gfx3d.SetVertex
  dsimp only
  split
  · rfl
  · split
    · exact complete_textureFormat _ _
    · exact complete_textureFormat _ _

end

theorem texture_ite {choice : Prop} [Decidable choice] {first second : Gfx} {texture : u32 × u32}
    (yes : first.texture = texture) (no : second.texture = texture) :
    (if choice then first else second).texture = texture := by
  rw [apply_ite Gfx.texture,yes,no,ite_self]

theorem texture_follow (gfx : Gfx) (change : Matrix → Matrix) :
    (gfx.follow change).texture = gfx.texture := texture_ite rfl rfl

theorem texture_SetVertex (build : Build) (floats : Floats) (gfx : Gfx) :
    (Gfx.SetVertex build floats gfx).texture = gfx.texture :=
  congrArg (fun fmt => (fmt, gfx.texCoordinateTransform))
    (SetVertex_textureFormat build floats.duplicated gfx.lists _)

theorem consistent_execute (build : Build) (floats : Floats) {gfx : Gfx}
    (consistent : Consistent gfx) (cmd : Command) :
    Consistent (gfx3d_execute build floats gfx cmd) := by
  cases cmd with
  | TEXIMAGE_PARAM v => rfl
  | MTX_IDENTITY => exact consistent_of_texture (texture_follow _ _) consistent
  | MTX_LOAD_4x4 v =>
      exact consistent_of_texture (texture_ite rfl (texture_follow _ _)) consistent
  | MTX_LOAD_4x3 v =>
      exact consistent_of_texture (texture_ite rfl (texture_follow _ _)) consistent
  | MTX_MULT_4x4 v =>
      exact consistent_of_texture (texture_ite rfl (texture_follow _ _)) consistent
  | MTX_MULT_4x3 v =>
      exact consistent_of_texture (texture_ite rfl (texture_follow _ _)) consistent
  | MTX_MULT_3x3 v =>
      exact consistent_of_texture (texture_ite rfl (texture_follow _ _)) consistent
  | MTX_SCALE v => exact consistent_of_texture (texture_ite rfl rfl) consistent
  | MTX_TRANS v => exact consistent_of_texture (texture_ite rfl (texture_follow _ _)) consistent
  | VTX_16 v =>
      exact consistent_of_texture (texture_ite rfl (texture_SetVertex build floats _)) consistent
  | VTX_10 v => exact consistent_of_texture (texture_SetVertex build floats _) consistent
  | VTX_XY v => exact consistent_of_texture (texture_SetVertex build floats _) consistent
  | VTX_XZ v => exact consistent_of_texture (texture_SetVertex build floats _) consistent
  | VTX_YZ v => exact consistent_of_texture (texture_SetVertex build floats _) consistent
  | VTX_DIFF v => exact consistent_of_texture (texture_SetVertex build floats _) consistent
  | BOX_TEST v => exact consistent_of_texture (texture_ite rfl rfl) consistent
  | POS_TEST v => exact consistent_of_texture (texture_ite rfl rfl) consistent
  | _ => exact consistent

theorem consistent_step (build : Build) (floats : Floats) {gfx : Gfx}
    (consistent : Consistent gfx) (op : Op) (zero : op = .reset → gfx.texCoordinateTransform = 0) :
    Consistent (step build floats gfx op) := by
  cases op with
  | execute cmd => exact consistent_execute build floats consistent cmd
  | send val =>
      change Consistent (gfx3d_sendCommandToFIFO gfx val)
      unfold gfx3d_sendCommandToFIFO
      cases gfx.hardware.receive Gxf.iterations val with
      | none => exact consistent
      | some res => exact consistent
  | VBlankSignal => exact consistent_of_texture (texture_ite rfl rfl) consistent
  | loadstate version saved => rfl
  | reset =>
      have fmt : (0 : u32) = (0 : u32) >>> (30 : Nat) := rfl
      exact (zero rfl).trans fmt

theorem masked_begin (build : Build) (floats : Floats) (gfx : Gfx) (v : u32) :
    Masked (step build floats gfx (.execute (.BEGIN_VTXS v))) := ⟨rfl,rfl,rfl⟩

/-- The indices of the commands of several words, and the arguments still to
come of a packed one. -/
structure AtFirstParameter (gfx : Gfx) : Prop where
  ML4x4ind : gfx.ML4x4ind = 0
  ML4x3ind : gfx.ML4x3ind = 0
  MM4x4ind : gfx.MM4x4ind = 0
  MM4x3ind : gfx.MM4x3ind = 0
  MM3x3ind : gfx.MM3x3ind = 0
  coordind : gfx.coordind = 0
  transind : gfx.transind = 0
  scaleind : gfx.scaleind = 0
  BTind : gfx.BTind = 0
  PTind : gfx.PTind = 0
  shininessInd : gfx.shininessInd = 0
  paramCounter : gfx.hardware.paramCounter = 0

/-- `gfx3d_init` makes the first reset. -/
def start : Gfx := Gfx.gfx3d_reset Gfx.initial

/-- What a command or a reset is to do. -/
structure Right (build : Build) (floats : Floats) (gfx : Gfx) (op : Op) : Prop where
  masks : ∀ v, op = .execute (.BEGIN_VTXS v) → Masked (step build floats gfx op)
  indices : op = .reset → AtFirstParameter (step build floats gfx op)
  forgets : op = .reset → ∀ later : List Op,
    (final (step build floats) (step build floats gfx op) later).seen =
      (final (step build floats) start later).seen

theorem start_consistent : Consistent start := rfl

theorem atFirstParameter_of_clean {gfx : Gfx} (clean : Clean gfx) :
    AtFirstParameter (Gfx.gfx3d_reset gfx) where
  ML4x4ind := rfl
  ML4x3ind := rfl
  MM4x4ind := rfl
  MM4x3ind := rfl
  MM3x3ind := rfl
  coordind := rfl
  transind := rfl
  scaleind := rfl
  BTind := rfl
  PTind := rfl
  shininessInd := congrArg Leftovers.shininessInd clean
  paramCounter := rfl

theorem right_iff (build : Build) (floats : Floats) (gfx : Gfx) (op : Op) :
    Right build floats gfx op ↔ (op = .reset → Clean gfx) := by
  constructor
  · intro right reset
    have shown := right.forgets reset []
    rw [reset] at shown
    exact (seen_reset_iff gfx).mp shown
  · intro leaves
    constructor
    · intro v begins
      rw [begins]
      exact masked_begin build floats gfx v
    · intro reset
      rw [reset]
      exact atFirstParameter_of_clean (leaves reset)
    · intro reset later
      rw [reset]
      exact seen_final build floats ((seen_reset_iff gfx).mpr (leaves reset)) later

/-- A reset forgets what came before it, in every run, exactly when every reset
finds what it does not assign at its first value. -/
theorem reset_forgets_iff (build : Build) (floats : Floats) (ops : List Op) :
    (Guarded (step build floats) (Right build floats) start ops ∧
        Always (step build floats) Consistent start ops) ↔
      Guarded (step build floats) (fun gfx op => op = .reset → Clean gfx) start ops := by
  rw [guarded_and_always,and_iff_right start_consistent]
  have transform : ∀ {gfx : Gfx} {op : Op}, (op = .reset → Clean gfx) → op = .reset →
      gfx.texCoordinateTransform = 0 :=
    fun leaves reset => congrArg Leftovers.texCoordinateTransform (leaves reset)
  refine @guarded_iff_guarded Gfx Op _ Consistent _ _ ?_ ?_ _ start_consistent ops
  · intro gfx op consistent
    rw [right_iff]
    constructor
    · intro both
      exact both.1
    · intro leaves
      exact ⟨leaves,consistent_step build floats consistent op (transform leaves)⟩
  · intro gfx op consistent leaves
    exact consistent_step build floats consistent op (transform leaves)

def Floats.unused : Floats where
  fromInt := fun _ => 0
  fix2float := fun _ => 0
  float16table := fun _ => 0
  MatrixDivide4X4 := id
  MatrixDivide3X3 := id
  MatrixMultiply := fun first _ => first
  MatrixScale := fun matrix _ => matrix
  MatrixTranslate := fun matrix _ => matrix
  texcoord := fun _ => 0
  fromTexcoord := fun _ s t => (s, t)
  fromNormal := fun _ _ s t => (s, t)
  fromVertex := fun _ _ s t => (s, t)
  lightVectors := fun _ _ => (fun _ => 0, fun _ => 0)
  lighting := fun _ _ _ _ => 0
  transform := fun _ _ _ _ => 0
  duplicated := fun _ _ _ => false
  boxTest := fun _ _ _ => false
  posTest := fun _ _ coords => coords
  vecTest := fun _ _ _ => 0

/-- One word of SHININESS, and a reset. -/
theorem shininess_survives_reset :
    ¬Guarded (step .standard Floats.unused) (Right .standard Floats.unused) start
      [.execute (.SHININESS 0),.reset] := by
  intro guarded
  have first := (guarded.2.1.indices rfl).shininessInd
  exact absurd first (by decide)

end Execute
end Desmume.Gfx3d
