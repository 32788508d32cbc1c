/-
When the polygon and vertex lists stay sound.

A vertex command is safe if a strip cut off by END_VTXS is not continued without
a BEGIN_VTXS, if the vertex list has room for the vertices registered so far,
and if the first polygon of a list does not use vertices registered before the
swap.
-/

import Desmume.Geometry.Completion

namespace Desmume.Gfx3d

open Function (update_of_ne update_self)

variable {VERT : Type}

/-- Every stored polygon is a triangle or a quad with all its slots below the
vertex count. -/
structure Sound (eng : Engine VERT) : Prop where
  indexes : ∀ slot, eng.references slot → slot < eng.vertlist.count
  typed : eng.polylist.typed

structure SafeWrite (build : Build) (eng : Engine VERT) (write : Write) : Prop where
  nonneg : 0 ≤ write.vertIndex
  inside : write.vertIndex < build.VERTLIST_SIZE
  unused : ¬eng.references write.vertIndex
  mapped : 0 ≤ write.mapIndex ∧ write.mapIndex < 4

def SafeStep (build : Build) (dup : VERT → VERT → VERT → Bool) (eng : Engine VERT)
    (op : Op VERT) : Prop :=
  ∀ write, written build dup eng op = some write → SafeWrite build eng write

structure VertexFits (build : Build) (eng : Engine VERT) : Prop where
  begun : eng.continuation ≤ eng.tempVertInfo.count
  room : eng.vertlist.count + eng.tempVertInfo.count <
    build.VERTLIST_SIZE + eng.continuation
  current : eng.tempVertInfo.count + 1 = corners eng.vtxFormat →
    eng.vertlist.count = 0 → eng.continuation = 0 ∧
      ∀ i, 0 ≤ i → i < eng.tempVertInfo.count →
        eng.tempVertInfo.map i < corners eng.vtxFormat

def Condition (build : Build) (eng : Engine VERT) : Op VERT → Prop
  | .vertex _ => eng.refuses build ∨ VertexFits build eng
  | .BEGIN_VTXS _ | .END_VTXS | .SWAP_BUFFERS | .POLYGON_ATTR _ | .TEXIMAGE_PARAM _
  | .PLTT_BASE _ | .VIEWPORT _ => True

structure Inv (eng : Engine VERT) : Prop where
  sound : Sound eng
  format : eng.vtxFormat < 4
  polys : 0 ≤ eng.polylist.count
  verts : eng.vertlist.count = 0 ∨ 3 ≤ eng.vertlist.count
  packed : eng.vertlist.count ≤ 4 * eng.polylist.count
  count_nonneg : 0 ≤ eng.tempVertInfo.count
  count_lt : eng.tempVertInfo.count < corners eng.vtxFormat
  slots : ∀ i, 0 ≤ i → i < eng.tempVertInfo.count →
    0 ≤ eng.tempVertInfo.map i ∧ eng.tempVertInfo.map i < 65536
  -- registered for a first polygon: in this list, or before a swap
  fresh : eng.continuation = 0 → ∀ i, 0 ≤ i → i < eng.tempVertInfo.count →
    eng.tempVertInfo.map i = eng.vertlist.count + i ∨
      (eng.vertlist.count = 0 ∧ 3 + i ≤ eng.tempVertInfo.map i)
  -- the two vertices a strip carries over
  carried : eng.continuation = 2 → 2 ≤ eng.tempVertInfo.count →
    1 ≤ eng.tempVertInfo.map 0 ∧ 1 ≤ eng.tempVertInfo.map 1 ∧
      eng.tempVertInfo.map 0 ≠ eng.tempVertInfo.map 1 ∧
      (eng.vertlist.count = 0 ∨
        (eng.tempVertInfo.map 0 < eng.vertlist.count ∧
          eng.tempVertInfo.map 1 < eng.vertlist.count ∧
          (3 ≤ eng.tempVertInfo.count →
            eng.tempVertInfo.map 2 = eng.vertlist.count)))
  toggle : eng.vtxFormat = GFX3D_TRIANGLE_STRIP → eng.tempVertInfo.first = true →
    eng.triStripToggle = false
  -- the last two vertices of a started strip belong to its last polygon
  ended : eng.continuation = 2 → eng.vertlist.count = 0 ∨
    (eng.references (eng.vertlist.count - 1) ∧
      eng.references (eng.vertlist.count - 2))

theorem continuation_cases (eng : Engine VERT) : eng.continuation = 0 ∨ eng.continuation = 2 := by
  unfold Engine.continuation
  split
  · exact Or.inr rfl
  · split
    · exact Or.inr rfl
    · exact Or.inl rfl

variable {before after : Engine VERT}

theorem Inv.of_same (inv : Inv before) (polylist : after.polylist = before.polylist)
    (verts : after.vertlist.count = before.vertlist.count)
    (registration : after.tempVertInfo = before.tempVertInfo)
    (fmt : after.vtxFormat = before.vtxFormat)
    (toggle : after.triStripToggle = before.triStripToggle) : Inv after := by
  have continuation : after.continuation = before.continuation := by
    unfold Engine.continuation
    rw [fmt,registration]
  have references (slot : Int) : after.references slot ↔ before.references slot := by
    unfold Engine.references
    rw [polylist]
  constructor
  · constructor
    · intro slot
      rw [references,verts]
      exact inv.sound.indexes slot
    · rw [polylist]
      exact inv.sound.typed
  · rw [fmt]
    exact inv.format
  · rw [polylist]
    exact inv.polys
  · rw [verts]
    exact inv.verts
  · rw [verts,polylist]
    exact inv.packed
  · rw [registration]
    exact inv.count_nonneg
  · rw [registration,fmt]
    exact inv.count_lt
  · rw [registration]
    exact inv.slots
  · rw [continuation,registration,verts]
    exact inv.fresh
  · rw [continuation,registration,verts]
    exact inv.carried
  · rw [fmt,registration,toggle]
    exact inv.toggle
  · rw [continuation,verts,references,references]
    exact inv.ended

variable {eng : Engine VERT}

theorem Inv.glBegin (inv : Inv eng) (v : u32) : Inv (gfx3d_glBegin eng v) := by
  have fresh : (gfx3d_glBegin eng v).continuation = 0 := by
    simp [Engine.continuation,gfx3d_glBegin]
  have some_corners := corners_cases (gfx3d_glBegin eng v).vtxFormat
  constructor
  · exact ⟨inv.sound.indexes,inv.sound.typed⟩
  · exact masked_format v
  · exact inv.polys
  · exact inv.verts
  · exact inv.packed
  · exact Int.le_refl 0
  · change 0 < _
    omega
  · intro i nonneg inside
    change i < 0 at inside
    omega
  · intro _ i nonneg inside
    change i < 0 at inside
    omega
  · intro started
    omega
  · exact fun _ _ => rfl
  · intro started
    omega

theorem Inv.glEnd (inv : Inv eng) : Inv (gfx3d_glEnd eng) := by
  have some_corners := corners_cases eng.vtxFormat
  constructor
  · exact ⟨inv.sound.indexes,inv.sound.typed⟩
  · exact inv.format
  · exact inv.polys
  · exact inv.verts
  · exact inv.packed
  · exact Int.le_refl 0
  · change 0 < corners eng.vtxFormat
    omega
  · intro i nonneg inside
    change i < 0 at inside
    omega
  · intro _ i nonneg inside
    change i < 0 at inside
    omega
  · intro _ two
    change 2 ≤ (0 : Int) at two
    omega
  · exact inv.toggle
  · exact inv.ended

theorem not_references_of_empty (polys : eng.polylist.count = 0)
    (slot : Int) : ¬eng.references slot := by
  rintro ⟨poly,nonneg,inside,-⟩
  omega

theorem sound_of_empty (polys : eng.polylist.count = 0) : Sound eng := by
  constructor
  · intro slot references
    exact absurd references (not_references_of_empty polys slot)
  · intro poly nonneg inside
    omega

theorem Inv.doFlush (inv : Inv eng) : Inv (gfx3d_doFlush eng) := by
  have polys : (gfx3d_doFlush eng).polylist.count = 0 := twiddleLists_polys eng
  have verts : (gfx3d_doFlush eng).vertlist.count = 0 := twiddleLists_verts eng
  constructor
  · exact sound_of_empty polys
  · exact inv.format
  · omega
  · exact Or.inl verts
  · omega
  · exact inv.count_nonneg
  · exact inv.count_lt
  · exact inv.slots
  · intro fresh i nonneg inside
    have before := inv.fresh fresh i nonneg inside
    have old := inv.verts
    change eng.tempVertInfo.map i = _ ∨ (_ ∧ 3 + i ≤ eng.tempVertInfo.map i)
    omega
  · intro started two
    obtain ⟨zero,one,ne,-⟩ := inv.carried started two
    exact ⟨zero,one,ne,Or.inl verts⟩
  · exact inv.toggle
  · exact fun _ => Or.inl verts

theorem size_le (build : Build) : build.VERTLIST_SIZE ≤ 36000 := by
  cases build with
  | standard => exact Int.le_refl _
  | LOWRAM =>
      change (3000 : Int) ≤ 36000
      omega

theorem slotAt_new (eng : Engine VERT) : eng.slotAt eng.tempVertInfo.count = eng.vertIndex :=
  update_self _ _ _

theorem slotAt_old (eng : Engine VERT) {i : Int} (registered : i < eng.tempVertInfo.count) :
    eng.slotAt i = eng.tempVertInfo.map i :=
  update_of_ne (by omega) _ _

theorem VertexFits.vertIndex {build : Build} {eng : Engine VERT} (fits : VertexFits build eng) :
    eng.vertlist.count ≤ eng.vertIndex ∧ eng.vertIndex < build.VERTLIST_SIZE := by
  have begun := fits.begun
  have room := fits.room
  unfold Engine.vertIndex
  omega

theorem VertexFits.slotAt {build : Build} {eng : Engine VERT}
    (fits : VertexFits build eng) (inv : Inv eng) (i : Int) (nonneg : 0 ≤ i)
    (inside : i < eng.tempVertInfo.count + 1) : 0 ≤ eng.slotAt i ∧ eng.slotAt i < 65536 := by
  by_cases new : i = eng.tempVertInfo.count
  · have bounds := fits.vertIndex
    have verts := inv.verts
    have size := size_le build
    rw [new,slotAt_new]
    omega
  · rw [slotAt_old eng (by omega)]
    exact inv.slots i nonneg (by omega)

theorem Inv.registered {build : Build} {before after : Engine VERT} (inv : Inv before)
    (fits : VertexFits build before)
    (part : before.tempVertInfo.count + 1 ≠ corners before.vtxFormat)
    (registered : Registered before after) : Inv after := by
  have continuation : after.continuation = before.continuation := by
    unfold Engine.continuation
    rw [registered.format,registered.tempVertInfo]
  have references (slot : Int) : after.references slot ↔ before.references slot := by
    unfold Engine.references
    rw [registered.polylist]
  have count_lt := inv.count_lt
  constructor
  · constructor
    · intro slot
      rw [references,registered.verts]
      exact inv.sound.indexes slot
    · rw [registered.polylist]
      exact inv.sound.typed
  · rw [registered.format]
    exact inv.format
  · rw [registered.polylist]
    exact inv.polys
  · rw [registered.verts]
    exact inv.verts
  · rw [registered.verts,registered.polylist]
    exact inv.packed
  · have nonneg := inv.count_nonneg
    rw [registered.tempVertInfo]
    change 0 ≤ before.tempVertInfo.count + 1
    omega
  · rw [registered.tempVertInfo,registered.format]
    change before.tempVertInfo.count + 1 < _
    omega
  · rw [registered.tempVertInfo]
    exact fits.slotAt inv
  · rw [continuation,registered.tempVertInfo,registered.verts]
    intro fresh i nonneg inside
    change before.slotAt i = _ ∨ (_ ∧ 3 + i ≤ before.slotAt i)
    change i < before.tempVertInfo.count + 1 at inside
    by_cases new : i = before.tempVertInfo.count
    · rw [new,slotAt_new,Engine.vertIndex,fresh]
      omega
    · rw [slotAt_old before (by omega)]
      exact inv.fresh fresh i nonneg (by omega)
  · rw [continuation,registered.tempVertInfo,registered.verts]
    intro started two
    have begun := fits.begun
    have total := corners_cases before.vtxFormat
    have two : before.tempVertInfo.count = 2 := by
      omega
    have newest : before.slotAt 2 = before.vertlist.count := by
      rw [← two,slotAt_new,Engine.vertIndex,started]
      omega
    have carried := inv.carried started (by omega)
    rw [← slotAt_old before (show 0 < before.tempVertInfo.count by omega),
      ← slotAt_old before (show 1 < before.tempVertInfo.count by omega)] at carried
    obtain ⟨zero,one,ne,bounds⟩ := carried
    refine ⟨zero,one,ne,bounds.imp_right ?_⟩
    rintro ⟨zeroLt,oneLt,-⟩
    exact ⟨zeroLt,oneLt,fun _ => newest⟩
  · rw [registered.format,registered.tempVertInfo,registered.toggle]
    exact inv.toggle
  · rw [continuation,registered.verts,references,references]
    exact inv.ended

theorem VertexFits.below {build : Build} {eng : Engine VERT} (fits : VertexFits build eng)
    (inv : Inv eng) (full : eng.tempVertInfo.count + 1 = corners eng.vtxFormat)
    (i : Int) (nonneg : 0 ≤ i) (inside : i < eng.tempVertInfo.count) :
    eng.tempVertInfo.map i <
      eng.vertlist.count + corners eng.vtxFormat - eng.continuation := by
  rcases inv.verts with empty | some
  · obtain ⟨separate,bound⟩ := fits.current full empty
    have here := bound i nonneg inside
    omega
  · rcases continuation_cases eng with fresh | started
    · have here := inv.fresh fresh i nonneg inside
      omega
    · have begun := fits.begun
      have total := corners_cases eng.vtxFormat
      obtain ⟨-,-,-,bounds⟩ := inv.carried started (by omega)
      obtain ⟨zero,one,two⟩ := bounds.resolve_left (by omega)
      have place : i = 0 ∨ i = 1 ∨ i = 2 := by
        omega
      rcases place with rfl | rfl | rfl
      · omega
      · omega
      · have exact_two := two (by omega)
        omega

theorem VertexFits.settled {build : Build} {eng : Engine VERT} (fits : VertexFits build eng)
    (inv : Inv eng) (full : eng.tempVertInfo.count + 1 = corners eng.vtxFormat)
    (fresh : eng.continuation = 0) (i : Int) (some : 1 ≤ i) (inside : i < eng.tempVertInfo.count) :
    eng.tempVertInfo.map i = eng.vertlist.count + i := by
  have below := fits.below inv full i (by omega) inside
  have here := inv.fresh fresh i (by omega) inside
  have total := corners_cases eng.vtxFormat
  omega

theorem Completed.sound {build : Build} {before after : Engine VERT} (inv : Inv before)
    (fits : VertexFits build before)
    (full : before.tempVertInfo.count + 1 = corners before.vtxFormat)
    (completed : Completed before after) : Sound after := by
  constructor
  · intro slot references
    rw [completed.verts]
    rcases (completed.references slot).mp references with old | ⟨i,nonneg,inside,rfl⟩
    · have bound := inv.sound.indexes slot old
      have total := corners_cases before.vtxFormat
      have continuation := continuation_cases before
      omega
    · obtain ⟨slotNonneg,slotSmall⟩ := fits.slotAt inv i nonneg (by omega)
      rw [stored_eq slotNonneg slotSmall]
      by_cases new : i = before.tempVertInfo.count
      · rw [new,slotAt_new,Engine.vertIndex]
        omega
      · rw [slotAt_old before (by omega)]
        exact fits.below inv full i nonneg (by omega)
  · exact completed.typed inv.sound.typed

theorem Completed.corner {build : Build} (inv : Inv before) (fits : VertexFits build before)
    (full : before.tempVertInfo.count + 1 = corners before.vtxFormat)
    (completed : Completed before after) (i : Int) (nonneg : 0 ≤ i)
    (inside : i < before.tempVertInfo.count + 1) : after.references (before.slotAt i) := by
  obtain ⟨slotNonneg,slotSmall⟩ := fits.slotAt inv i nonneg inside
  rw [completed.references]
  exact Or.inr ⟨i,nonneg,by omega,stored_eq slotNonneg slotSmall⟩

theorem Completed.grown {build : Build} (inv : Inv before) (fits : VertexFits build before)
    (full : before.tempVertInfo.count + 1 = corners before.vtxFormat)
    (completed : Completed before after) :
    3 ≤ after.vertlist.count ∧ after.vertlist.count ≤ 36000 ∧
      after.vertlist.count ≤ 4 * after.polylist.count := by
  have total := corners_cases before.vtxFormat
  have size := size_le build
  have bounds := fits.vertIndex
  have packed := inv.packed
  have verts := completed.verts
  have polys := completed.polys
  unfold Engine.vertIndex at bounds
  have large : 3 ≤ after.vertlist.count := by
    rcases inv.verts with empty | some
    · obtain ⟨separate,-⟩ := fits.current full empty
      omega
    · have continuation := continuation_cases before
      omega
  have continuation := continuation_cases before
  omega

theorem Inv.separate {build : Build} {before after : Engine VERT} (inv : Inv before)
    (fits : VertexFits build before)
    (full : before.tempVertInfo.count + 1 = corners before.vtxFormat)
    (separate : before.vtxFormat = GFX3D_TRIANGLES ∨ before.vtxFormat = GFX3D_QUADS)
    (completed : Completed before after) : Inv after := by
  obtain ⟨large,-,packed⟩ := completed.grown inv fits full
  have registration := completed.separate separate
  have n : after.tempVertInfo.count = 0 := by
    rw [registration]
  have total := corners_cases after.vtxFormat
  have stillSeparate : after.vtxFormat = GFX3D_TRIANGLES ∨ after.vtxFormat = GFX3D_QUADS := by
    rw [completed.format]
    exact separate
  have notStrip := continuation_separate stillSeparate
  have polys := inv.polys
  have morePolys := completed.polys
  constructor
  · exact completed.sound inv fits full
  · rw [completed.format]
    exact inv.format
  · omega
  · exact Or.inr large
  · exact packed
  · omega
  · omega
  · intro i nonneg inside
    omega
  · intro _ i nonneg inside
    omega
  · intro started
    omega
  · intro strip
    exact absurd strip (separate_not_strip stillSeparate).1
  · intro started
    omega

theorem Inv.strip {build : Build} (inv : Inv before)
    (fits : VertexFits build before)
    (full : before.tempVertInfo.count + 1 = corners before.vtxFormat)
    (fmt : before.vtxFormat = GFX3D_TRIANGLE_STRIP ∨ before.vtxFormat = GFX3D_QUAD_STRIP)
    (completed : Completed before after) {map : Int → Int}
    (registration : after.tempVertInfo = { count := 2, map := map, first := false })
    (zero : 1 ≤ map 0 ∧ map 0 < after.vertlist.count)
    (one : 1 ≤ map 1 ∧ map 1 < after.vertlist.count) (ne : map 0 ≠ map 1)
    (last : after.references (after.vertlist.count - 1))
    (beforeLast : after.references (after.vertlist.count - 2)) : Inv after := by
  obtain ⟨large,small,packed⟩ := completed.grown inv fits full
  have total := corners_cases after.vtxFormat
  have polys := inv.polys
  have morePolys := completed.polys
  have started : after.continuation = 2 := by
    rw [← completed.format] at fmt
    rw [strip_continuation fmt,registration]
    rfl
  constructor
  · exact completed.sound inv fits full
  · rw [completed.format]
    exact inv.format
  · omega
  · exact Or.inr large
  · exact packed
  · rw [registration]
    change 0 ≤ (2 : Int)
    omega
  · rw [registration]
    change 2 < corners after.vtxFormat
    omega
  · rw [registration]
    intro i nonneg inside
    change i < 2 at inside
    change 0 ≤ map i ∧ map i < 65536
    have place : i = 0 ∨ i = 1 := by
      omega
    rcases place with rfl | rfl
    · omega
    · omega
  · intro fresh
    omega
  · rw [registration]
    intro _ _
    refine ⟨zero.1,one.1,ne,Or.inr ⟨zero.2,one.2,?_⟩⟩
    intro three
    change 3 ≤ (2 : Int) at three
    omega
  · rw [registration]
    intro _ first
    contradiction
  · exact fun _ => Or.inr ⟨last,beforeLast⟩

theorem VertexFits.continued {build : Build} {eng : Engine VERT}
    (fits : VertexFits build eng) (inv : Inv eng)
    (full : eng.tempVertInfo.count + 1 = corners eng.vtxFormat)
    (started : eng.continuation = 2) : 3 ≤ eng.vertlist.count := by
  rcases inv.verts with empty | some
  · obtain ⟨fresh,-⟩ := fits.current full empty
    omega
  · exact some

theorem Completed.turned (completed : Completed before after)
    (fmt : before.vtxFormat = GFX3D_TRIANGLE_STRIP) :
    ∃ map, after.tempVertInfo = { count := 2, map := map, first := false } ∧
      ((before.triStripToggle = false ∧ map 1 = before.slotAt 1 ∧
          map 0 = before.vertlist.count + 2 - before.continuation) ∨
        (before.triStripToggle = true ∧ map 0 = before.slotAt 0 ∧
          map 1 = before.vertlist.count + 2 - before.continuation)) := by
  refine ⟨_,completed.triangleStrip fmt,?_⟩
  cases before.triStripToggle with
  | false => exact Or.inl ⟨rfl,update_of_ne (by decide) _ _,update_self _ _ _⟩
  | true => exact Or.inr ⟨rfl,update_of_ne (by decide) _ _,update_self _ _ _⟩

theorem Inv.triangleStrip {build : Build} (inv : Inv before) (fits : VertexFits build before)
    (full : before.tempVertInfo.count + 1 = corners before.vtxFormat)
    (fmt : before.vtxFormat = GFX3D_TRIANGLE_STRIP) (completed : Completed before after) :
    Inv after := by
  have total : corners before.vtxFormat = 3 := by
    rw [fmt]
    rfl
  have two : before.tempVertInfo.count = 2 := by
    omega
  have verts := completed.verts
  have old := inv.verts
  have newest : before.slotAt 2 = before.vertlist.count + 2 - before.continuation := by
    rw [← two,slotAt_new]
    rfl
  have zero : before.slotAt 0 = before.tempVertInfo.map 0 := slotAt_old before (by omega)
  have one : before.slotAt 1 = before.tempVertInfo.map 1 := slotAt_old before (by omega)
  have last : after.references (after.vertlist.count - 1) := by
    have lastSlot : after.vertlist.count - 1 = before.slotAt 2 := by
      omega
    rw [lastSlot]
    exact completed.corner inv fits full 2 (by omega) (by omega)
  obtain ⟨map,registration,turned⟩ := completed.turned fmt
  rcases continuation_cases before with fresh | started
  · have settled := fits.settled inv full fresh 1 (by omega) (by omega)
    have beforeLast : after.references (after.vertlist.count - 2) := by
      have slotBefore : after.vertlist.count - 2 = before.slotAt 1 := by
        omega
      rw [slotBefore]
      exact completed.corner inv fits full 1 (by omega) (by omega)
    have first : before.tempVertInfo.first = true := by
      rw [strip_continuation (Or.inl fmt)] at fresh
      by_contra notFirst
      rw [if_neg notFirst] at fresh
      omega
    rcases turned with ⟨-,mapOne,mapZero⟩ | ⟨toggled,-⟩
    · exact inv.strip fits full (Or.inl fmt) completed registration (by omega) (by omega)
        (by omega) last beforeLast
    · rw [inv.toggle fmt first] at toggled
      contradiction
  · have some := fits.continued inv full started
    obtain ⟨zeroPos,onePos,ne,bounds⟩ := inv.carried started (by omega)
    obtain ⟨zeroLt,oneLt,-⟩ := bounds.resolve_left (by omega)
    have beforeLast : after.references (after.vertlist.count - 2) := by
      have slotBefore : after.vertlist.count - 2 = before.vertlist.count - 1 := by
        omega
      rw [slotBefore,completed.references]
      exact Or.inl ((inv.ended started).resolve_left (by omega)).1
    rcases turned with ⟨-,mapOne,mapZero⟩ | ⟨-,mapZero,mapOne⟩
    · exact inv.strip fits full (Or.inl fmt) completed registration (by omega) (by omega)
        (by omega) last beforeLast
    · exact inv.strip fits full (Or.inl fmt) completed registration (by omega) (by omega)
        (by omega) last beforeLast

theorem Inv.quadStrip {build : Build} {before after : Engine VERT} (inv : Inv before)
    (fits : VertexFits build before)
    (full : before.tempVertInfo.count + 1 = corners before.vtxFormat)
    (fmt : before.vtxFormat = GFX3D_QUAD_STRIP) (completed : Completed before after) :
    Inv after := by
  have total : corners before.vtxFormat = 4 := by
    rw [fmt]
    rfl
  have three : before.tempVertInfo.count = 3 := by
    omega
  have verts := completed.verts
  have old := inv.verts
  have newest : before.slotAt 3 = before.vertlist.count + 3 - before.continuation := by
    rw [← three,slotAt_new]
    rfl
  have two : before.slotAt 2 = before.tempVertInfo.map 2 := slotAt_old before (by omega)
  have last : after.references (after.vertlist.count - 1) := by
    have lastSlot : after.vertlist.count - 1 = before.slotAt 3 := by
      omega
    rw [lastSlot]
    exact completed.corner inv fits full 3 (by omega) (by omega)
  have placed : before.tempVertInfo.map 2 = before.vertlist.count + 2 - before.continuation := by
    rcases continuation_cases before with fresh | started
    · have settled := fits.settled inv full fresh 2 (by omega) (by omega)
      omega
    · have some := fits.continued inv full started
      obtain ⟨-,-,-,bounds⟩ := inv.carried started (by omega)
      obtain ⟨-,-,newer⟩ := bounds.resolve_left (by omega)
      have atCount := newer (by omega)
      omega
  have beforeLast : after.references (after.vertlist.count - 2) := by
    have slotBefore : after.vertlist.count - 2 = before.slotAt 2 := by
      omega
    rw [slotBefore]
    exact completed.corner inv fits full 2 (by omega) (by omega)
  have grown : before.continuation = 0 ∨
      (before.continuation = 2 ∧ 3 ≤ before.vertlist.count) :=
    (continuation_cases before).imp_right
      (fun started => ⟨started,fits.continued inv full started⟩)
  refine inv.strip fits full (Or.inr fmt) completed (completed.quadStrip fmt) ?_ ?_ ?_
    last beforeLast
  · rw [update_of_ne (by decide),update_self]
    omega
  · rw [update_self]
    omega
  · rw [update_self,update_of_ne (by decide),update_self]
    omega

/-! ### Steps -/

section

variable (build : Build) (dup : VERT → VERT → VERT → Bool)

theorem Inv.vertex {eng : Engine VERT} (inv : Inv eng) (vert : VERT)
    (cond : eng.refuses build ∨ VertexFits build eng) : Inv (SetVertex build dup eng vert).1 := by
  by_cases refused : eng.refuses build
  · rw [SetVertex_refused build dup vert refused]
    exact inv.of_same rfl rfl rfl rfl rfl
  · have fits := cond.resolve_left refused
    by_cases full : eng.tempVertInfo.count + 1 = corners eng.vtxFormat
    · have completed :=
        SetVertex_completes build dup vert refused inv.format inv.polys full
      rcases format_cases inv.format with fmt | fmt | fmt | fmt
      · exact inv.separate fits full (Or.inl fmt) completed
      · exact inv.separate fits full (Or.inr fmt) completed
      · exact inv.triangleStrip fits full fmt completed
      · exact inv.quadStrip fits full fmt completed
    · exact inv.registered fits full
        (SetVertex_registers build dup vert refused inv.format full)

theorem inv_step (eng : Engine VERT) (op : Op VERT) (inv : Inv eng)
    (cond : Condition build eng op) : Inv (step build dup eng op) := by
  cases op with
  | BEGIN_VTXS v => exact inv.glBegin v
  | END_VTXS => exact inv.glEnd
  | vertex vert => exact inv.vertex build dup vert cond
  | SWAP_BUFFERS => exact inv.doFlush
  | POLYGON_ATTR val => exact inv.of_same rfl rfl rfl rfl rfl
  | TEXIMAGE_PARAM val => exact inv.of_same rfl rfl rfl rfl rfl
  | PLTT_BASE val => exact inv.of_same rfl rfl rfl rfl rfl
  | VIEWPORT v => exact inv.of_same rfl rfl rfl rfl rfl

theorem VertexFits.safeWrite {eng : Engine VERT} (fits : VertexFits build eng) (inv : Inv eng) :
    SafeWrite build eng ⟨eng.vertIndex,eng.tempVertInfo.count⟩ := by
  have verts := inv.verts
  have count_lt := inv.count_lt
  have total := corners_cases eng.vtxFormat
  obtain ⟨above,inside⟩ := fits.vertIndex
  constructor
  · change 0 ≤ eng.vertIndex
    omega
  · exact inside
  · intro used
    have below := inv.sound.indexes _ used
    change eng.vertIndex < _ at below
    omega
  · constructor
    · exact inv.count_nonneg
    · change eng.tempVertInfo.count < 4
      omega

/-- A vertex that goes to a safe slot and leaves the lists sound meets the
condition. -/
theorem fits_of_safe {eng : Engine VERT} (inv : Inv eng) (vert : VERT)
    (accepted : ¬eng.refuses build)
    (safe : SafeWrite build eng ⟨eng.vertIndex,eng.tempVertInfo.count⟩)
    (sound : Sound (SetVertex build dup eng vert).1) : VertexFits build eng := by
  have nonneg : 0 ≤ eng.vertIndex := safe.nonneg
  have inside : eng.vertIndex < build.VERTLIST_SIZE := safe.inside
  have count_nonneg := inv.count_nonneg
  have place : eng.vertIndex =
      eng.vertlist.count + eng.tempVertInfo.count - eng.continuation := rfl
  constructor
  · by_contra early
    have started : eng.continuation = 2 := by
      have continuation := continuation_cases eng
      omega
    rcases inv.ended started with empty | ⟨last,beforeLast⟩
    · omega
    · have reused : eng.vertIndex = eng.vertlist.count - 1 ∨
          eng.vertIndex = eng.vertlist.count - 2 := by
        omega
      apply safe.unused
      change eng.references eng.vertIndex
      rcases reused with same | same
      · rw [same]
        exact last
      · rw [same]
        exact beforeLast
  · omega
  · intro full empty
    have completed := SetVertex_completes build dup vert accepted inv.format inv.polys full
    have below (i : Int) (nonneg : 0 ≤ i) (inside : i < eng.tempVertInfo.count) :
        eng.tempVertInfo.map i < corners eng.vtxFormat - eng.continuation := by
      obtain ⟨slotNonneg,slotSmall⟩ := inv.slots i nonneg inside
      have corner : (SetVertex build dup eng vert).1.references
          (eng.tempVertInfo.map i) := by
        rw [completed.references]
        refine Or.inr ⟨i,nonneg,by omega,?_⟩
        rw [slotAt_old eng inside,stored_eq slotNonneg slotSmall]
      have bound := sound.indexes _ corner
      have verts := completed.verts
      omega
    rcases continuation_cases eng with fresh | started
    · refine ⟨fresh,?_⟩
      intro i nonneg inside
      have bound := below i nonneg inside
      omega
    · have total := corners_cases eng.vtxFormat
      obtain ⟨zero,one,ne,-⟩ := inv.carried started (by omega)
      have zeroBelow := below 0 (by omega) (by omega)
      have oneBelow := below 1 (by omega) (by omega)
      omega

theorem step_iff (eng : Engine VERT) (op : Op VERT) (inv : Inv eng) :
    SafeStep build dup eng op ∧ Sound (step build dup eng op) ↔
      Condition build eng op := by
  constructor
  · rintro ⟨safe,sound⟩
    cases op with
    | vertex vert =>
        by_cases refused : eng.refuses build
        · exact Or.inl refused
        · have write := safe _ (SetVertex_written build dup vert refused)
          exact Or.inr (fits_of_safe build dup inv vert refused write sound)
    | BEGIN_VTXS _ | END_VTXS | SWAP_BUFFERS | POLYGON_ATTR _ | TEXIMAGE_PARAM _ | PLTT_BASE _
    | VIEWPORT _ => trivial
  · intro cond
    refine ⟨?_,(inv_step build dup eng op inv cond).sound⟩
    intro write wrote
    cases op with
    | vertex vert =>
        by_cases refused : eng.refuses build
        · change (SetVertex build dup eng vert).2 = _ at wrote
          rw [SetVertex_refused build dup vert refused] at wrote
          contradiction
        · change (SetVertex build dup eng vert).2 = _ at wrote
          rw [SetVertex_written build dup vert refused] at wrote
          cases wrote
          exact (cond.resolve_left refused).safeWrite build inv
    | BEGIN_VTXS _ | END_VTXS | SWAP_BUFFERS | POLYGON_ATTR _ | TEXIMAGE_PARAM _ | PLTT_BASE _
    | VIEWPORT _ => contradiction

/-- Over a run: every write is safe, and the current list is sound in every
state. -/
structure Integrity (eng : Engine VERT) (ops : List (Op VERT)) : Prop where
  writes : Run.Guarded (step build dup) (SafeStep build dup) eng ops
  lists : Run.Always (step build dup) Sound eng ops

theorem inv_reset (zero : VERT) (eng : Engine VERT) : Inv (gfx3d_reset zero eng) := by
  have polys : (gfx3d_reset zero eng).polylist.count = 0 := twiddleLists_polys _
  have verts : (gfx3d_reset zero eng).vertlist.count = 0 := twiddleLists_verts _
  have fresh : (gfx3d_reset zero eng).continuation = 0 := rfl
  constructor
  · exact sound_of_empty polys
  · change GFX3D_TRIANGLES < 4
    decide
  · omega
  · exact Or.inl verts
  · omega
  · exact Int.le_refl 0
  · change 0 < corners GFX3D_TRIANGLES
    decide
  · intro i nonneg inside
    change i < 0 at inside
    omega
  · intro _ i nonneg inside
    change i < 0 at inside
    omega
  · intro started
    omega
  · intro strip
    change GFX3D_TRIANGLES = GFX3D_TRIANGLE_STRIP at strip
    contradiction
  · exact fun _ => Or.inl verts

/-- From reset and over every sequence of commands, the lists keep their
integrity if and only if every vertex command meets its condition. -/
theorem vertex_lists_intact_iff (zero : VERT) (eng : Engine VERT) (ops : List (Op VERT)) :
    Integrity build dup (gfx3d_reset zero eng) ops ↔
      Run.Guarded (step build dup) (Condition build) (gfx3d_reset zero eng) ops := by
  have inv := inv_reset zero eng
  have guarded := Run.guarded_iff_guarded (step_iff build dup)
    (inv_step build dup) inv ops
  rw [← guarded]
  constructor
  · rintro ⟨writes,lists⟩
    exact (Run.guarded_and_always _ ops).mp ⟨writes,lists⟩ |>.2
  · intro steps
    obtain ⟨writes,lists⟩ := (Run.guarded_and_always _ ops).mpr ⟨inv.sound,steps⟩
    exact ⟨writes,lists⟩

end

/-- A vertex after the END_VTXS of a strip goes to a slot of the strip's
triangle. -/
theorem strip_continued_after_end :
    ¬Integrity .standard (fun _ _ _ => false) (gfx3d_reset () (Engine.initial ()))
      [.BEGIN_VTXS 2,.vertex (),.vertex (),.vertex (),.END_VTXS,.vertex ()] := by
  intro integrity
  obtain ⟨-,-,-,-,-,continued,-⟩ := integrity.writes
  have safe := continued ⟨1,0⟩ (by decide +kernel)
  apply safe.unused
  exact ⟨0,by decide,by decide +kernel,1,by decide +kernel,by decide +kernel⟩

end Desmume.Gfx3d
