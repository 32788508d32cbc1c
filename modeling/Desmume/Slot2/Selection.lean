/-
The choice of the slot-2 device.

A device is named by its entry in `slot2_List`.
-/

import Desmume.Lib.Run

namespace Desmume.Slot2

open Function (update update_apply update_of_ne update_self)

inductive NDS_SLOT2_TYPE
  | NDS_SLOT2_NONE
  | NDS_SLOT2_AUTO
  | NDS_SLOT2_CFLASH
  | NDS_SLOT2_RUMBLEPAK
  | NDS_SLOT2_GBACART
  | NDS_SLOT2_GUITARGRIP
  | NDS_SLOT2_EXPMEMORY
  | NDS_SLOT2_EASYPIANO
  | NDS_SLOT2_PADDLE
  | NDS_SLOT2_PASSME
  deriving DecidableEq, Repr

open NDS_SLOT2_TYPE

/-- The entry was made by `construct_Slot2_Auto`. -/
def NDS_SLOT2_TYPE.isAuto : NDS_SLOT2_TYPE → Bool
  | NDS_SLOT2_AUTO | NDS_SLOT2_CFLASH => true
  | _ => false

structure GameInfo where
  romsize : Nat
  isHomebrew : Bool
  gameCode : List Char
  deriving DecidableEq, Repr

def gameCodeDeviceTypes : List (List Char × NDS_SLOT2_TYPE) :=
  [("UBR".toList, NDS_SLOT2_EXPMEMORY),("YGH".toList, NDS_SLOT2_GUITARGRIP),
    ("CGS".toList, NDS_SLOT2_GUITARGRIP),("C6Q".toList, NDS_SLOT2_GUITARGRIP),
    ("YGR".toList, NDS_SLOT2_GUITARGRIP),("Y56".toList, NDS_SLOT2_GUITARGRIP),
    ("Y6R".toList, NDS_SLOT2_GUITARGRIP),("BEP".toList, NDS_SLOT2_EASYPIANO),
    ("YAA".toList, NDS_SLOT2_PADDLE),("CB6".toList, NDS_SLOT2_PADDLE),
    ("YXX".toList, NDS_SLOT2_PADDLE),("CV8".toList, NDS_SLOT2_PADDLE),
    ("AP2".toList, NDS_SLOT2_RUMBLEPAK)]

def slot2_DetermineTypeByGameCode (theGameCode : List Char) : NDS_SLOT2_TYPE :=
  match gameCodeDeviceTypes.find? (fun entry => theGameCode.take 3 == entry.1) with
  | some entry => entry.2
  | none => NDS_SLOT2_NONE

def slot2_DetermineType (gameInfo : GameInfo) : NDS_SLOT2_TYPE :=
  if gameInfo.romsize = 0 then NDS_SLOT2_NONE
  else if gameInfo.isHomebrew then NDS_SLOT2_PASSME
  else slot2_DetermineTypeByGameCode gameInfo.gameCode

theorem slot2_DetermineType_concrete (gameInfo : GameInfo) :
    (slot2_DetermineType gameInfo).isAuto = false := by
  have concrete : ∀ entry ∈ gameCodeDeviceTypes, entry.2.isAuto = false := by decide
  unfold slot2_DetermineType
  split
  · rfl
  · split
    · rfl
    · unfold slot2_DetermineTypeByGameCode
      split
      · next entry found => exact concrete entry (List.mem_of_find?_eq_some found)
      · rfl

structure Slot where
  slot2_device : Option NDS_SLOT2_TYPE
  slot2_device_type : NDS_SLOT2_TYPE
  slot2_selected_type : NDS_SLOT2_TYPE
  /-- The member of the two `Slot2_Auto` objects. -/
  mSelectedImplementation : NDS_SLOT2_TYPE → Option NDS_SLOT2_TYPE
  /-- How often a concrete device was connected since its last disconnect. -/
  connects : NDS_SLOT2_TYPE → Nat

/-- The state `slot2_Init` leaves. -/
def Slot.initial : Slot where
  slot2_device := none
  slot2_device_type := NDS_SLOT2_AUTO
  slot2_selected_type := NDS_SLOT2_NONE
  mSelectedImplementation := fun _ => none
  connects := fun _ => 0

namespace Slot

variable (slot : Slot) (dev : NDS_SLOT2_TYPE) (gameInfo : GameInfo)

def connectConcrete : Slot :=
  { slot with connects := update slot.connects dev (slot.connects dev + 1) }

def disconnectConcrete : Slot :=
  { slot with connects := update slot.connects dev 0 }

def connect (dev : NDS_SLOT2_TYPE) : Slot :=
  if dev.isAuto then
    { slot with
      slot2_selected_type := slot2_DetermineType gameInfo
      mSelectedImplementation := update slot.mSelectedImplementation dev
        (some (slot2_DetermineType gameInfo)) }.connectConcrete (slot2_DetermineType gameInfo)
  else slot.connectConcrete dev

def disconnect : Slot :=
  if dev.isAuto then
    let passedOn := match slot.mSelectedImplementation dev with
      | none => slot
      | some selected => slot.disconnectConcrete selected
    { passedOn with
      mSelectedImplementation :=
        update passedOn.mSelectedImplementation dev none }
  else slot.disconnectConcrete dev

/-- `if (slot2_device != NULL) slot2_device->disconnect()`. -/
def disconnectCurrent : Slot :=
  match slot.slot2_device with
  | none => slot
  | some dev => slot.disconnect dev

def slot2_setDeviceByType (theType : NDS_SLOT2_TYPE) : Slot :=
  { slot with slot2_device_type := theType, slot2_device := some theType }

def slot2_Reset : Slot :=
  { slot.disconnectCurrent with
    slot2_device := some slot.slot2_device_type }.connect gameInfo slot.slot2_device_type

def slot2_Change (changeToType : NDS_SLOT2_TYPE) : Slot :=
  if slot.slot2_device_type = changeToType then slot
  else if slot.slot2_device_type ≠ NDS_SLOT2_AUTO ∧ changeToType = NDS_SLOT2_AUTO then
    let prevDeviceType := slot.slot2_device_type
    let autoDeviceType := slot2_DetermineType gameInfo
    let left := if prevDeviceType ≠ autoDeviceType then slot.disconnectCurrent else slot
    let moved := { left.slot2_setDeviceByType changeToType with
      slot2_selected_type := autoDeviceType }
    if prevDeviceType ≠ autoDeviceType then moved.connect gameInfo changeToType else moved
  else if slot.slot2_device_type = NDS_SLOT2_AUTO ∧ changeToType ≠ NDS_SLOT2_AUTO then
    let autoDeviceType := slot2_DetermineType gameInfo
    let left := if autoDeviceType ≠ changeToType then slot.disconnectCurrent else slot
    let moved := left.slot2_setDeviceByType changeToType
    if autoDeviceType ≠ changeToType then moved.connect gameInfo changeToType else moved
  else
    (slot.disconnectCurrent.slot2_setDeviceByType changeToType).connect gameInfo changeToType

/-- The device that reads and writes reach; `none` is a null dereference. -/
def serving : Option NDS_SLOT2_TYPE :=
  match slot.slot2_device with
  | none => none
  | some dev => if dev.isAuto then slot.mSelectedImplementation dev else some dev

end Slot

/-- A call, with the game that is loaded when it is made. -/
inductive Call
  | slot2_Reset (gameInfo : GameInfo)
  | slot2_Change (gameInfo : GameInfo) (changeToType : NDS_SLOT2_TYPE)
  deriving DecidableEq, Repr

def Slot.step (slot : Slot) : Call → Slot
  | .slot2_Reset gameInfo => slot.slot2_Reset gameInfo
  | .slot2_Change gameInfo changeToType => slot.slot2_Change gameInfo changeToType

structure Slot.ServedBy (slot : Slot) (dev : NDS_SLOT2_TYPE) : Prop where
  serves : slot.serving = some dev
  concrete : dev.isAuto = false
  once : slot.connects dev = 1
  others : ∀ other, other ≠ dev → slot.connects other = 0

def Slot.Connected (slot : Slot) : Prop := ∃ dev, slot.ServedBy dev

/-- Nothing was called yet, or the current device is the one of its type and
all is as it has to be. -/
def Slot.Settled (slot : Slot) : Prop :=
  slot = Slot.initial ∨ slot.slot2_device = some slot.slot2_device_type ∧ slot.Connected

/-- An automatic and an explicit choice meet on one device: the change neither
disconnects nor connects. -/
def Slot.Coincides (slot : Slot) (gameInfo : GameInfo) (changeToType : NDS_SLOT2_TYPE) : Prop :=
  slot.slot2_device_type = NDS_SLOT2_AUTO ∧ slot2_DetermineType gameInfo = changeToType ∨
    changeToType = NDS_SLOT2_AUTO ∧ slot2_DetermineType gameInfo = slot.slot2_device_type

/-- A change to the present type needs a device, and one on which the choices
meet needs the automatic device to be on that device already. -/
def Slot.Keeps (slot : Slot) : Call → Prop
  | .slot2_Reset _ => True
  | .slot2_Change gameInfo changeToType =>
      (slot.slot2_device_type = changeToType → slot.slot2_device ≠ none) ∧
        (slot.Coincides gameInfo changeToType →
          slot.mSelectedImplementation NDS_SLOT2_AUTO = some (slot2_DetermineType gameInfo))

variable {slot : Slot} {changeToType dev : NDS_SLOT2_TYPE} {gameInfo : GameInfo}

theorem serving_of_concrete
    (current : slot.slot2_device = some dev) (concrete : dev.isAuto = false) :
    slot.serving = some dev := by
  unfold Slot.serving
  rw [current]
  simp only [concrete,Bool.false_eq_true,if_false]

theorem serving_of_auto (current : slot.slot2_device = some dev) (auto : dev.isAuto = true) :
    slot.serving = slot.mSelectedImplementation dev := by
  unfold Slot.serving
  rw [current]
  simp only [auto,if_true]

theorem disconnectCurrent_connects (settled : slot.Settled)
    (dev : NDS_SLOT2_TYPE) : slot.disconnectCurrent.connects dev = 0 := by
  rcases settled with rfl | ⟨current,served,servedBy⟩
  · rfl
  · have cleared : (slot.disconnectConcrete served).connects dev = 0 := by
      change update slot.connects served 0 dev = 0
      by_cases same : dev = served
      · rw [same,update_self]
      · rw [update_of_ne same]
        exact servedBy.others dev same
    have here : slot.disconnectCurrent = slot.disconnect slot.slot2_device_type := by
      unfold Slot.disconnectCurrent
      rw [current]
    rw [here]
    unfold Slot.disconnect
    cases auto : slot.slot2_device_type.isAuto with
    | true =>
        have selected := servedBy.serves
        rw [serving_of_auto current auto] at selected
        rw [if_pos rfl]
        simp only [selected]
        exact cleared
    | false =>
        have same := servedBy.serves
        rw [serving_of_concrete current auto] at same
        rw [if_neg Bool.false_ne_true,Option.some.inj same]
        exact cleared

theorem connect_settled (gameInfo : GameInfo)
    (cleared : ∀ other, slot.connects other = 0) (current : slot.slot2_device = some dev)
    (kind : slot.slot2_device_type = dev) :
    (slot.connect gameInfo dev).slot2_device =
        some (slot.connect gameInfo dev).slot2_device_type ∧
      (slot.connect gameInfo dev).Connected := by
  have counted (target other : NDS_SLOT2_TYPE) :
      update slot.connects target (slot.connects target + 1) other =
        if other = target then 1 else 0 := by
    rw [update_apply,cleared target,cleared other]
  have once (target : NDS_SLOT2_TYPE) :
      update slot.connects target (slot.connects target + 1) target = 1 :=
    (counted target target).trans (if_pos rfl)
  have others (target other : NDS_SLOT2_TYPE) (ne : other ≠ target) :
      update slot.connects target (slot.connects target + 1) other = 0 :=
    (counted target other).trans (if_neg ne)
  unfold Slot.connect
  cases auto : dev.isAuto with
  | true =>
      have selects (next : Slot) (there : next.slot2_device = some dev)
          (selected : next.mSelectedImplementation dev = some (slot2_DetermineType gameInfo)) :
          next.serving = some (slot2_DetermineType gameInfo) :=
        (serving_of_auto there auto).trans selected
      rw [if_pos rfl]
      exact ⟨current.trans (congrArg some kind.symm),slot2_DetermineType gameInfo,
        selects _ current (update_self _ _ _),slot2_DetermineType_concrete gameInfo,
        once _,others _⟩
  | false =>
      have serves (next : Slot) (there : next.slot2_device = some dev) :
          next.serving = some dev := serving_of_concrete there auto
      rw [if_neg Bool.false_ne_true]
      exact ⟨current.trans (congrArg some kind.symm),dev,serves _ current,auto,once _,
        others _⟩

theorem slot2_Reset_settled (settled : slot.Settled) (gameInfo : GameInfo) :
    (slot.slot2_Reset gameInfo).slot2_device = some (slot.slot2_Reset gameInfo).slot2_device_type ∧
      (slot.slot2_Reset gameInfo).Connected := by
  have kind : slot.disconnectCurrent.slot2_device_type = slot.slot2_device_type := by
    unfold Slot.disconnectCurrent Slot.disconnect Slot.disconnectConcrete
    split
    · rfl
    · split
      · split <;> rfl
      · rfl
  exact connect_settled gameInfo (disconnectCurrent_connects settled) rfl kind

theorem slot2_Change_moved (settled : slot.Settled) (ne : slot.slot2_device_type ≠ changeToType)
    (apart : ¬slot.Coincides gameInfo changeToType) :
    (slot.slot2_Change gameInfo changeToType).slot2_device =
        some (slot.slot2_Change gameInfo changeToType).slot2_device_type ∧
      (slot.slot2_Change gameInfo changeToType).Connected := by
  have cleared := disconnectCurrent_connects settled
  unfold Slot.slot2_Change
  rw [if_neg ne]
  split
  · next toAuto =>
      have away : slot.slot2_device_type ≠ slot2_DetermineType gameInfo :=
        fun same => apart (Or.inr ⟨toAuto.2,same.symm⟩)
      simp only [if_pos away]
      exact connect_settled gameInfo cleared rfl rfl
  · split
    · next fromAuto =>
        have away : slot2_DetermineType gameInfo ≠ changeToType :=
          fun same => apart (Or.inl ⟨fromAuto.1,same⟩)
        simp only [if_pos away]
        exact connect_settled gameInfo cleared rfl rfl
    · exact connect_settled gameInfo cleared rfl rfl

theorem slot2_Change_coinciding (ne : slot.slot2_device_type ≠ changeToType)
    (meet : slot.Coincides gameInfo changeToType) :
    (slot.slot2_Change gameInfo changeToType).slot2_device = some changeToType ∧
      (slot.slot2_Change gameInfo changeToType).slot2_device_type = changeToType ∧
      (slot.slot2_Change gameInfo changeToType).mSelectedImplementation =
        slot.mSelectedImplementation ∧
      (slot.slot2_Change gameInfo changeToType).connects = slot.connects := by
  unfold Slot.slot2_Change
  rw [if_neg ne]
  rcases meet with ⟨fromAuto,same⟩ | ⟨toAuto,same⟩
  · have notAuto : changeToType ≠ NDS_SLOT2_AUTO := fun auto => ne (fromAuto.trans auto.symm)
    rw [if_neg (fun both => both.1 fromAuto),if_pos ⟨fromAuto,notAuto⟩]
    simp only [same,ne_eq,not_true_eq_false,if_false]
    exact ⟨rfl,rfl,rfl,rfl⟩
  · have notAuto : slot.slot2_device_type ≠ NDS_SLOT2_AUTO :=
      fun auto => ne (auto.trans toAuto.symm)
    rw [if_pos ⟨notAuto,toAuto⟩]
    simp only [same,ne_eq,not_true_eq_false,if_false]
    exact ⟨rfl,rfl,rfl,rfl⟩

theorem connected_iff_serving {next : Slot} {served : NDS_SLOT2_TYPE}
    (servedBy : slot.ServedBy served) (kept : next.connects = slot.connects) :
    next.Connected ↔ next.serving = some served := by
  constructor
  · rintro ⟨dev,serves,-,once,-⟩
    by_cases same : dev = served
    · rw [← same]
      exact serves
    · rw [kept,servedBy.others dev same] at once
      exact absurd once Nat.zero_ne_one
  · intro serves
    refine ⟨served,serves,servedBy.concrete,?_,?_⟩
    · rw [kept]
      exact servedBy.once
    · rw [kept]
      exact servedBy.others

theorem slot2_Change_coinciding_iff (settled : slot.Settled)
    (ne : slot.slot2_device_type ≠ changeToType)
    (meet : slot.Coincides gameInfo changeToType) :
    (slot.slot2_Change gameInfo changeToType).Connected ↔
      slot.mSelectedImplementation NDS_SLOT2_AUTO = some (slot2_DetermineType gameInfo) := by
  obtain ⟨dev,-,selected,connects⟩ := slot2_Change_coinciding ne meet
  have concrete := slot2_DetermineType_concrete gameInfo
  rcases settled with rfl | ⟨current,served,servedBy⟩
  · refine iff_of_false ?_ (fun impossible => nomatch impossible)
    rintro ⟨other,-,-,once,-⟩
    rw [connects] at once
    exact Nat.zero_ne_one once
  · rw [connected_iff_serving servedBy connects]
    have serves := servedBy.serves
    rcases meet with ⟨fromAuto,same⟩ | ⟨toAuto,same⟩
    · rw [serving_of_concrete dev (same ▸ concrete),same]
      rw [fromAuto] at current
      rw [serving_of_auto current rfl] at serves
      rw [serves]
      exact eq_comm
    · rw [serving_of_concrete current (same ▸ concrete)] at serves
      subst toAuto
      rw [serving_of_auto dev rfl,selected,same,Option.some.inj serves]

theorem step_connected_iff (settled : slot.Settled) (call : Call) :
    (slot.step call).Connected ↔ slot.Keeps call := by
  cases call with
  | slot2_Reset gameInfo => exact iff_of_true (slot2_Reset_settled settled gameInfo).2 trivial
  | slot2_Change gameInfo changeToType =>
      change (slot.slot2_Change gameInfo changeToType).Connected ↔ _ ∧ _
      by_cases same : slot.slot2_device_type = changeToType
      · have unchanged : slot.slot2_Change gameInfo changeToType = slot := if_pos same
        have apart : ¬slot.Coincides gameInfo changeToType := by
          have concrete := slot2_DetermineType_concrete gameInfo
          rintro (⟨auto,meets⟩ | ⟨auto,meets⟩)
          · rw [meets,← same,auto] at concrete
            exact Bool.noConfusion concrete
          · rw [meets,same,auto] at concrete
            exact Bool.noConfusion concrete
        rw [unchanged]
        constructor
        · rintro ⟨served,serves,-⟩
          refine ⟨fun _ noDevice => ?_, fun meets => absurd meets apart⟩
          unfold Slot.serving at serves
          rw [noDevice] at serves
          exact nomatch serves
        · rintro ⟨dev,-⟩
          rcases settled with rfl | ⟨-,connected⟩
          · exact absurd rfl (dev same)
          · exact connected
      · by_cases meets : slot.Coincides gameInfo changeToType
        · rw [slot2_Change_coinciding_iff settled same meets]
          exact ⟨fun selected => ⟨fun equal => absurd equal same, fun _ => selected⟩,
            fun keeps => keeps.2 meets⟩
        · refine iff_of_true (slot2_Change_moved settled same meets).2 ?_
          exact ⟨fun equal => absurd equal same, fun meet => absurd meet meets⟩

theorem step_settled (settled : slot.Settled) {call : Call}
    (keeps : slot.Keeps call) : (slot.step call).Settled := by
  have connected := (step_connected_iff settled call).mpr keeps
  cases call with
  | slot2_Reset gameInfo => exact Or.inr (slot2_Reset_settled settled gameInfo)
  | slot2_Change gameInfo changeToType =>
      refine Or.inr ⟨?_,connected⟩
      change (slot.slot2_Change gameInfo changeToType).slot2_device =
        some (slot.slot2_Change gameInfo changeToType).slot2_device_type
      by_cases same : slot.slot2_device_type = changeToType
      · rw [show slot.slot2_Change gameInfo changeToType = slot from if_pos same]
        rcases settled with rfl | ⟨current,-⟩
        · exact absurd rfl (keeps.1 same)
        · exact current
      · by_cases meets : slot.Coincides gameInfo changeToType
        · obtain ⟨dev,kind,-,-⟩ := slot2_Change_coinciding same meets
          exact dev.trans (congrArg some kind.symm)
        · exact (slot2_Change_moved settled same meets).1

/-- In a run of calls from `slot2_Init` on, the device that serves accesses is
connected once, alone, after every call, exactly when every call meets its
condition: a change to the present type finds a device, and a change on which
the automatic and the explicit choice meet finds the automatic device on that
choice. -/
theorem current_device_connected_iff (calls : List Call) :
    Run.Guarded Slot.step (fun slot call => (slot.step call).Connected) Slot.initial calls ↔
      Run.Guarded Slot.step Slot.Keeps Slot.initial calls :=
  Run.guarded_iff_guarded
    (fun (slot : Slot) call (settled : slot.Settled) => step_connected_iff settled call)
    (fun _ _ settled keeps => step_settled settled keeps)
    (show Slot.initial.Settled from Or.inl rfl) calls

/-- Arkanoids DS with its paddle: the automatic device is left, the paddle is
chosen by hand, and the change back to automatic finds it connected already. The
automatic device has no implementation then. -/
theorem auto_left_without_implementation :
    let arkanoid : GameInfo := ⟨1,false,"YAAE".toList⟩
    let calls : List Call := [.slot2_Reset arkanoid,.slot2_Change arkanoid NDS_SLOT2_NONE,
      .slot2_Change arkanoid NDS_SLOT2_PADDLE,.slot2_Change arkanoid NDS_SLOT2_AUTO]
    (Run.final Slot.step Slot.initial calls).slot2_device = some NDS_SLOT2_AUTO ∧
      (Run.final Slot.step Slot.initial calls).serving = none ∧
      ¬Run.Guarded Slot.step (fun slot call => (slot.step call).Connected) Slot.initial calls := by
  intro arkanoid calls
  have noDevice : (Run.final Slot.step Slot.initial calls).serving = none := by decide +kernel
  refine ⟨by decide +kernel,noDevice,?_⟩
  rintro ⟨-,-,-,⟨served,serves,-⟩,-⟩
  exact nomatch noDevice.symm.trans serves

end Desmume.Slot2
