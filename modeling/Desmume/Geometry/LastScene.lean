/-
The renderer draws the last scene that was flushed.

Commands build in one pair of lists while the renderer is pointed at the other,
which keeps its contents, so the scene of a flush stays as it was captured until
the next flush, as long as every vertex is stored inside its own list.
-/

import Desmume.Geometry.SceneOrder

namespace Desmume.Gfx3d

section

variable {Vertex : Type}

structure Keeps (before after : Engine Vertex) : Prop where
  twiddle : after.listTwiddle = before.listTwiddle
  polylists : ∀ list, list ≠ before.listTwiddle → after.polylists list = before.polylists list
  vertlists : ∀ list, list ≠ before.listTwiddle → after.vertlists list = before.vertlists list

theorem Keeps.trans {first second third : Engine Vertex} (one : Keeps first second)
    (two : Keeps second third) : Keeps first third := by
  constructor
  · rw [two.twiddle,one.twiddle]
  · intro list other
    rw [two.polylists list (by rw [one.twiddle]; exact other),one.polylists list other]
  · intro list other
    rw [two.vertlists list (by rw [one.twiddle]; exact other),one.vertlists list other]

variable {after : Engine Vertex}

theorem Keeps.same {before : Engine Vertex} (twiddle : after.listTwiddle = before.listTwiddle)
    (polylists : after.polylists = before.polylists)
    (vertlists : after.vertlists = before.vertlists) : Keeps before after :=
  ⟨twiddle,fun _ _ => by rw [polylists], fun _ _ => by rw [vertlists]⟩

theorem keeps_setPolylist (engine : Engine Vertex) (list : POLYLIST) :
    Keeps engine (engine.setPolylist list) :=
  ⟨rfl,fun _ other => Function.update_of_ne other _ _, fun _ _ => rfl⟩

theorem keeps_setVertlist (engine : Engine Vertex) (list : VERTLIST Vertex) :
    Keeps engine (engine.setVertlist list) :=
  ⟨rfl,fun _ _ => rfl, fun _ other => Function.update_of_ne other _ _⟩

section

variable {before engine : Engine Vertex} (kept : Keeps before engine)

include kept

theorem Keeps.flagged : Keeps before { engine with polygonListCompleted := 1 } :=
  kept.trans (.same rfl rfl rfl)

theorem Keeps.submit (ii : Fin 4) (nn : Int) : Keeps before (SUBMITVERTEX engine ii nn) :=
  kept.trans (keeps_setPolylist _ _)

theorem Keeps.setType (type : Int) : Keeps before (engine.setType type) :=
  kept.trans (keeps_setPolylist _ _)

theorem Keeps.addVerts (verts : Int) : Keeps before (engine.addVerts verts) :=
  kept.trans (keeps_setVertlist _ _)

theorem Keeps.addEither (first : Bool) (all less : Int) :
    Keeps before (if first then engine.addVerts all else engine.addVerts less) := by
  cases first with
  | true => exact kept.addVerts all
  | false => exact kept.addVerts less

theorem Keeps.setMap (i slot : Int) : Keeps before (engine.setMap i slot) :=
  kept.trans (.same rfl rfl rfl)

theorem Keeps.setEither (toggle : Bool) (one other slot : Int) :
    Keeps before (if toggle then engine.setMap one slot else engine.setMap other slot) := by
  cases toggle with
  | true => exact kept.setMap one slot
  | false => exact kept.setMap other slot

end

theorem Keeps.refl (engine : Engine Vertex) : Keeps engine engine := .same rfl rfl rfl

theorem keeps_triangle (engine : Engine Vertex) : Keeps engine (completeTriangle engine) := by
  have submitted := (((Keeps.refl engine).flagged.submit 0 0).submit 1 1).submit 2 2
  exact ((submitted.addVerts 3).setType 3).trans (.same rfl rfl rfl)

theorem keeps_quad (engine : Engine Vertex) : Keeps engine (completeQuad engine) := by
  have submitted := ((((Keeps.refl engine).flagged.submit 0 0).submit 1 1).submit 2 2).submit 3 3
  exact ((submitted.addVerts 4).setType 4).trans (.same rfl rfl rfl)

theorem keeps_triangleStrip (engine : Engine Vertex) (continuation : Int) :
    Keeps engine (completeTriangleStrip engine continuation) := by
  have submitted := (((Keeps.refl engine).flagged.submit 0 0).submit 1 1).submit 2 2
  have mapped := (submitted.setType 3).setEither engine.triStripToggle 1 0
    (engine.vertlist.count + 2 - continuation)
  exact (mapped.addEither _ 3 1).trans (.same rfl rfl rfl)

theorem keeps_quadStrip (engine : Engine Vertex) (continuation : Int) :
    Keeps engine (completeQuadStrip engine continuation) := by
  have submitted := ((((Keeps.refl engine).flagged.submit 0 0).submit 1 1).submit 2 3).submit 3 2
  have mapped := ((submitted.setType 4).setMap 0 (engine.vertlist.count + 2 - continuation)).setMap
    1 (engine.vertlist.count + 3 - continuation)
  exact (mapped.addEither _ 4 2).trans (.same rfl rfl rfl)

theorem keeps_complete (engine : Engine Vertex) (continuation : Int) :
    Keeps engine (complete engine continuation) := by
  unfold complete
  split_ifs
  · exact .same rfl rfl rfl
  · exact keeps_triangle engine
  · exact .same rfl rfl rfl
  · exact keeps_quad engine
  · exact .same rfl rfl rfl
  · exact keeps_triangleStrip engine continuation
  · exact .same rfl rfl rfl
  · exact keeps_quadStrip engine continuation
  · exact .same rfl rfl rfl

theorem keeps_register (engine : Engine Vertex) (vert : Vertex) :
    Keeps engine (register engine vert) :=
  (keeps_setVertlist engine _).trans (.same rfl rfl rfl)

theorem keeps_SetVertex (build : Build) (dup : Vertex → Vertex → Vertex → Bool)
    (engine : Engine Vertex) (vert : Vertex) :
    Keeps engine (SetVertex build dup engine vert).1 := by
  have start : Keeps engine { engine with polygonListCompleted := 0 } := .same rfl rfl rfl
  by_cases refused : engine.refuses build
  · rw [SetVertex_refused build dup vert refused]
    exact start
  · have completed := start.trans <| (keeps_register _ vert).trans <|
      keeps_complete _ engine.continuation
    rw [SetVertex_accepted build dup vert refused rfl]
    split
    · exact completed.trans (keeps_setPolylist _ _)
    · exact completed

structure Built (build : Build) (engine : Engine Vertex) : Prop where
  format : engine.vtxFormat < 4
  nonneg : 0 ≤ engine.polylist.count
  room : engine.polylist.count ≤ build.POLYLIST_SIZE
  typed : engine.polylist.typed

variable {build : Build}

theorem Built.of_same {before : Engine Vertex} (built : Built build before)
    (fmt : after.vtxFormat = before.vtxFormat) (polylist : after.polylist = before.polylist) :
    Built build after := by
  constructor
  · rw [fmt]
    exact built.format
  · rw [polylist]
    exact built.nonneg
  · rw [polylist]
    exact built.room
  · rw [polylist]
    exact built.typed

theorem built_twiddleLists {engine : Engine Vertex}
    (fmt : engine.vtxFormat < 4) : Built build (twiddleLists engine) := by
  have empty := twiddleLists_polys engine
  constructor
  · exact fmt
  · omega
  · rw [empty]
    cases build with
    | standard => exact Int.natCast_nonneg 9000
    | LOWRAM => exact Int.natCast_nonneg 1500
  · intro poly nonneg inside
    omega

theorem built_glBegin {engine : Engine Vertex} (built : Built build engine)
    (v : u32) : Built build (gfx3d_glBegin engine v) := by
  constructor
  · exact masked_format v
  · exact built.nonneg
  · exact built.room
  · exact built.typed

theorem built_SetVertex (dup : Vertex → Vertex → Vertex → Bool)
    {engine : Engine Vertex} (built : Built build engine) (vert : Vertex) :
    Built build (SetVertex build dup engine vert).1 := by
  by_cases refused : engine.refuses build
  · rw [SetVertex_refused build dup vert refused]
    exact built.of_same rfl rfl
  · by_cases full : engine.tempVertInfo.count + 1 = corners engine.vtxFormat
    · have completed := SetVertex_completes build dup vert refused built.format
        built.nonneg full
      have nonneg := built.nonneg
      have accepted : engine.polylist.count < build.POLYLIST_SIZE := by
        unfold Engine.refuses at refused
        omega
      constructor
      · rw [completed.format]
        exact built.format
      · rw [completed.polys]
        omega
      · rw [completed.polys]
        omega
      · exact completed.typed built.typed
    · have registered := SetVertex_registers build dup vert refused built.format full
      exact built.of_same registered.format registered.polylist

end

namespace Rendering

def lastFlushed (log : List Entry) : Option Scene :=
  log.foldl (fun last entry =>
    match entry with
    | .flushed scene => some scene
    | .rendered _ => last) none

@[simp] theorem lastFlushed_flushed (log : List Entry) (scene : Scene) :
    lastFlushed (log ++ [.flushed scene]) = some scene := by
  rw [lastFlushed,List.foldl_append]
  rfl

@[simp] theorem lastFlushed_rendered (log : List Entry) (scene : Scene) :
    lastFlushed (log ++ [.rendered scene]) = lastFlushed log := by
  rw [lastFlushed,List.foldl_append]
  rfl

/-- What is to hold in every state: of the machine and of what was flushed and
rendered so far. -/
structure Faithful (build : Build) (run : Machine × List Entry) : Prop where
  -- what the renderer would see is what the last flush captured
  unchanged : ∀ scene, lastFlushed run.2 = some scene → run.1.scene = scene
  -- every scene drawn is that of the flush just before it, not drawn before
  drawnOnce : ∀ earlier scene later, run.2 = earlier ++ .rendered scene :: later →
    ∃ start, earlier = start ++ [.flushed scene]
  -- a scene not drawn yet is drawn at the next VBlank end that does not skip
  drawnNext : ∀ start scene, run.2 = start ++ [.flushed scene] →
    (Run.traced (step build) run (.VBlankEnd false)).2 = run.2 ++ [.rendered scene]
  -- and stays to be drawn when a VBlank end skips
  skipped : Run.traced (step build) run (.VBlankEnd true) = run
  -- the lists built so far are flushed at the VBlank after SWAP_BUFFERS
  swapped : run.1.isSwapBuffers = true → ∃ scene,
    (Run.traced (step build) run .VBlankStart).2 = run.2 ++ [.flushed scene] ∧
      scene.polylist = run.1.engine.polylist ∧ scene.vertlist = run.1.engine.vertlist ∧
      scene.renderState = (run.1.state.flush run.1.control).renderCopy
  ordered : ∀ scene, Entry.flushed scene ∈ run.2 → scene.Ordered build

/-- A vertex that full lists do not refuse is stored inside the list. -/
def Inside (build : Build) (run : Machine × List Entry) : Event → Prop
  | .vertex _ => run.1.engine.refuses build ∨
      (0 ≤ run.1.engine.vertIndex ∧ run.1.engine.vertIndex < build.VERTLIST_SIZE)
  | .BEGIN_VTXS _ | .END_VTXS | .POLYGON_ATTR _ | .TEXIMAGE_PARAM _ | .PLTT_BASE _ | .VIEWPORT _
  | .SHININESS _ | .SWAP_BUFFERS _ | .gfx3d_Control _ | .register _ | .VBlankStart
  | .VBlankEnd _ => True

structure Inv (build : Build) (run : Machine × List Entry) : Prop where
  built : Built build run.1.engine
  unchanged : ∀ scene, lastFlushed run.2 = some scene → run.1.scene = scene
  apart : ∀ scene, lastFlushed run.2 = some scene →
    run.1.polylist ≠ run.1.engine.listTwiddle ∧ run.1.vertlist ≠ run.1.engine.listTwiddle
  pending : run.1.drawPending = true ↔ ∃ start scene, run.2 = start ++ [.flushed scene]
  drawnOnce : ∀ earlier scene later, run.2 = earlier ++ .rendered scene :: later →
    ∃ start, earlier = start ++ [.flushed scene]
  ordered : ∀ scene, Entry.flushed scene ∈ run.2 → scene.Ordered build

variable {run : Machine × List Entry} {log : List Entry} {before m : Machine} {polys : Int}

theorem gfx3d_VBlankEndSignal_pending (pending : m.drawPending = true) :
    gfx3d_VBlankEndSignal m false =
      ({ m with drawPending := false }, [.rendered m.scene]) := by
  unfold gfx3d_VBlankEndSignal
  rw [pending]
  rfl

theorem gfx3d_VBlankEndSignal_skip (m : Machine) : gfx3d_VBlankEndSignal m true = (m, []) := by
  unfold gfx3d_VBlankEndSignal
  split <;> rfl

theorem gfx3d_VBlankSignal_swap (swap : m.isSwapBuffers = true) :
    gfx3d_VBlankSignal m =
      ({ gfx3d_doFlush m with isSwapBuffers := false },
        [.flushed (gfx3d_doFlush m).scene]) := by
  unfold gfx3d_VBlankSignal
  rw [if_pos swap]

theorem Inv.faithful {build : Build} (inv : Inv build run) : Faithful build run := by
  constructor
  · exact inv.unchanged
  · exact inv.drawnOnce
  · intro start scene ends
    have pending := inv.pending.mpr ⟨start,scene,ends⟩
    have same : run.1.scene = scene := inv.unchanged scene (by rw [ends,lastFlushed_flushed])
    rw [Run.traced_snd]
    change run.2 ++ (gfx3d_VBlankEndSignal run.1 false).2 = _
    rw [gfx3d_VBlankEndSignal_pending pending,same]
  · change ((gfx3d_VBlankEndSignal run.1 true).1, run.2 ++ (gfx3d_VBlankEndSignal run.1 true).2) =
      run
    rw [gfx3d_VBlankEndSignal_skip,List.append_nil]
  · intro swap
    refine ⟨(gfx3d_doFlush run.1).scene,?_,?_⟩
    · rw [Run.traced_snd]
      change run.2 ++ (gfx3d_VBlankSignal run.1).2 = _
      rw [gfx3d_VBlankSignal_swap swap]
    · rw [doFlush_scene]
      exact ⟨rfl,rfl,rfl⟩
  · exact inv.ordered

/-- A step that logs nothing and touches neither the captured lists nor what
was captured with them. -/
structure Quiet (before after : Machine) : Prop where
  keeps : Keeps before.engine after.engine
  extents : after.extents = before.extents
  polylist : after.polylist = before.polylist
  vertlist : after.vertlist = before.vertlist
  indexlist : after.indexlist = before.indexlist
  renderState : after.renderState = before.renderState
  drawPending : after.drawPending = before.drawPending

theorem Quiet.scene {before after : Machine} (quiet : Quiet before after)
    (polys : before.polylist ≠ before.engine.listTwiddle)
    (verts : before.vertlist ≠ before.engine.listTwiddle) : after.scene = before.scene := by
  unfold Machine.scene
  rw [quiet.extents,quiet.polylist,quiet.vertlist,quiet.indexlist,quiet.renderState,
    quiet.keeps.polylists _ polys,quiet.keeps.vertlists _ verts]

theorem Inv.quiet {build : Build} {before : Machine} {log : List Entry}
    (inv : Inv build (before, log)) {after : Machine} (quiet : Quiet before after)
    (built : Built build after.engine) : Inv build (after, log ++ []) := by
  rw [List.append_nil]
  constructor
  · exact built
  · intro scene flushed
    obtain ⟨polys,verts⟩ := inv.apart scene flushed
    rw [quiet.scene polys verts]
    exact inv.unchanged scene flushed
  · intro scene flushed
    obtain ⟨polys,verts⟩ := inv.apart scene flushed
    change after.polylist ≠ _ ∧ after.vertlist ≠ _
    rw [quiet.polylist,quiet.vertlist,quiet.keeps.twiddle]
    exact ⟨polys,verts⟩
  · change after.drawPending = true ↔ _
    rw [quiet.drawPending]
    exact inv.pending
  · exact inv.drawnOnce
  · exact inv.ordered

theorem strayStore_inside {build : Build} {engine : Engine VERT} {slot : Int}
    (inside : 0 ≤ slot ∧ slot < build.VERTLIST_SIZE) (vert : VERT) :
    strayStore build engine slot vert = engine := by
  have far : let unit := (engine.listTwiddle.val - (engine.listTwiddle + 1).val) * units build +
      1 + 3 * slot
      ¬(0 ≤ unit ∧ unit < units build) ∧ ¬(0 ≤ unit + 1 ∧ unit + 1 < units build) ∧
        ¬(0 ≤ unit + 2 ∧ unit + 2 < units build) := by
    unfold units
    have lists : (engine.listTwiddle = 0 ∧ engine.listTwiddle + 1 = 1) ∨
        (engine.listTwiddle = 1 ∧ engine.listTwiddle + 1 = 0) := by
      cases engine.listTwiddle using Fin.cases with
      | zero => exact Or.inl ⟨rfl,rfl⟩
      | succ last =>
          fin_cases last
          exact Or.inr ⟨rfl,rfl⟩
    rcases lists with ⟨current,other⟩ | ⟨current,other⟩
    · rw [other,current]
      simp only [Fin.val_zero,Fin.val_one]
      omega
    · rw [other,current]
      simp only [Fin.val_zero,Fin.val_one]
      omega
  obtain ⟨coord,texcoord,color⟩ := far
  unfold strayStore
  simp only [if_neg coord,if_neg texcoord,if_neg color,Function.update_eq_self]

theorem vertex_inside {build : Build} {vert : VERT} (inside : m.engine.refuses build ∨
      (0 ≤ m.engine.vertIndex ∧ m.engine.vertIndex < build.VERTLIST_SIZE)) :
    m.vertex build vert =
      { m with engine := (SetVertex build duplicated m.engine vert).1 } := by
  by_cases refused : m.engine.refuses build
  · exact if_pos refused
  · refine (if_neg refused).trans ?_
    rw [strayStore_inside (inside.resolve_left refused)]

theorem snoc_split {earlier later : List Entry} {entry last : Entry}
    (split : log ++ [last] = earlier ++ entry :: later) :
    (later = [] ∧ log = earlier ∧ last = entry) ∨
      ∃ rest, later = rest ++ [last] ∧ log = earlier ++ entry :: rest := by
  rcases List.eq_nil_or_concat later with rfl | ⟨rest,final,rfl⟩
  · obtain ⟨front,back⟩ := List.append_inj' split rfl
    exact Or.inl ⟨rfl,front,(List.cons.inj back).1⟩
  · rw [List.concat_eq_append,← List.cons_append,← List.append_assoc] at split
    obtain ⟨front,back⟩ := List.append_inj' split rfl
    rw [List.concat_eq_append,(List.cons.inj back).1]
    exact Or.inr ⟨rest,rfl,front⟩

theorem Inv.flush {build : Build}
    (inv : Inv build (before, log)) :
    Inv build ({ gfx3d_doFlush before with isSwapBuffers := false },
      log ++ [.flushed (gfx3d_doFlush before).scene]) := by
  have built := inv.built
  constructor
  · exact built_twiddleLists built.format
  · intro scene flushed
    rw [lastFlushed_flushed] at flushed
    exact Option.some.inj flushed
  · intro _ _
    have other := twiddle_ne before.engine.listTwiddle
    exact ⟨other,other⟩
  · exact iff_of_true rfl ⟨log,_,rfl⟩
  · intro earlier scene later split
    rcases snoc_split split with ⟨-,-,ne⟩ | ⟨rest,-,same⟩
    · cases ne
    · exact inv.drawnOnce earlier scene rest same
  · intro scene member
    rcases List.mem_append.mp member with old | new
    · exact inv.ordered scene old
    · cases List.mem_singleton.mp new
      exact doFlush_ordered build before built.nonneg built.room built.typed

theorem Inv.draw {build : Build}
    (inv : Inv build (before, log)) (pending : before.drawPending = true) :
    Inv build ({ before with drawPending := false }, log ++ [.rendered before.scene]) := by
  obtain ⟨start,last,ends⟩ := inv.pending.mp pending
  have captured : before.scene = last := by
    apply inv.unchanged last
    change lastFlushed log = _
    change log = _ at ends
    rw [ends,lastFlushed_flushed]
  constructor
  · exact inv.built
  · intro scene flushed
    rw [lastFlushed_rendered] at flushed
    exact inv.unchanged scene flushed
  · intro scene flushed
    rw [lastFlushed_rendered] at flushed
    exact inv.apart scene flushed
  · refine iff_of_false Bool.false_ne_true ?_
    rintro ⟨other,scene,same⟩
    cases (List.cons.inj (List.append_inj' same rfl).2).1
  · intro earlier scene later split
    rcases snoc_split split with ⟨-,here,same⟩ | ⟨rest,-,same⟩
    · cases same
      refine ⟨start,?_⟩
      rw [← here,captured]
      exact ends
    · exact inv.drawnOnce earlier scene rest same
  · intro scene member
    rcases List.mem_append.mp member with old | new
    · exact inv.ordered scene old
    · cases List.mem_singleton.mp new

theorem Inv.build {build : Build} {before : Machine} {log : List Entry}
    (inv : Inv build (before, log)) {engine : Engine VERT} (keeps : Keeps before.engine engine)
    (built : Built build engine) : Inv build ({ before with engine := engine }, log ++ []) :=
  inv.quiet ⟨keeps,rfl,rfl,rfl,rfl,rfl,rfl⟩ built

theorem Inv.other {build : Build}
    (inv : Inv build (before, log)) {after : Machine} (engine : after.engine = before.engine)
    (quiet : Keeps before.engine after.engine → Quiet before after) :
    Inv build (after, log ++ []) := by
  have keeps : Keeps before.engine after.engine := by
    rw [engine]
    exact Keeps.refl before.engine
  exact inv.quiet (quiet keeps) (by rw [engine]; exact inv.built)

theorem inv_step (build : Build) (run : Machine × List Entry) (event : Event)
    (inv : Inv build run) (inside : Inside build run event) :
    Inv build (Run.traced (step build) run event) := by
  obtain ⟨m,log⟩ := run
  have built := inv.built
  cases event with
  | BEGIN_VTXS v => exact inv.build (.same rfl rfl rfl) (built_glBegin built v)
  | END_VTXS => exact inv.build (.same rfl rfl rfl) (built.of_same rfl rfl)
  | vertex vert =>
      change Inv build (m.vertex build vert, log ++ [])
      rw [vertex_inside inside]
      exact inv.build (keeps_SetVertex build duplicated m.engine vert)
        (built_SetVertex duplicated built vert)
  | POLYGON_ATTR val => exact inv.build (.same rfl rfl rfl) (built.of_same rfl rfl)
  | TEXIMAGE_PARAM val => exact inv.build (.same rfl rfl rfl) (built.of_same rfl rfl)
  | PLTT_BASE val => exact inv.build (.same rfl rfl rfl) (built.of_same rfl rfl)
  | VIEWPORT v => exact inv.build (.same rfl rfl rfl) (built.of_same rfl rfl)
  | SHININESS val => exact inv.other rfl fun keeps => ⟨keeps,rfl,rfl,rfl,rfl,rfl,rfl⟩
  | SWAP_BUFFERS v => exact inv.other rfl fun keeps => ⟨keeps,rfl,rfl,rfl,rfl,rfl,rfl⟩
  | gfx3d_Control v => exact inv.other rfl fun keeps => ⟨keeps,rfl,rfl,rfl,rfl,rfl,rfl⟩
  | register write => exact inv.other rfl fun keeps => ⟨keeps,rfl,rfl,rfl,rfl,rfl,rfl⟩
  | VBlankStart =>
      cases swap : m.isSwapBuffers with
      | true =>
          change Inv build
            ((gfx3d_VBlankSignal m).1, log ++ (gfx3d_VBlankSignal m).2)
          rw [gfx3d_VBlankSignal_swap swap]
          exact inv.flush
      | false =>
          change Inv build
            ((gfx3d_VBlankSignal m).1, log ++ (gfx3d_VBlankSignal m).2)
          rw [gfx3d_VBlankSignal,swap]
          exact inv.other rfl fun keeps => ⟨keeps,rfl,rfl,rfl,rfl,rfl,rfl⟩
  | VBlankEnd skipFrame =>
      change Inv build ((gfx3d_VBlankEndSignal m skipFrame).1,
        log ++ (gfx3d_VBlankEndSignal m skipFrame).2)
      cases skipFrame with
      | true =>
          rw [gfx3d_VBlankEndSignal_skip]
          exact inv.other rfl fun keeps => ⟨keeps,rfl,rfl,rfl,rfl,rfl,rfl⟩
      | false =>
          cases pending : m.drawPending with
          | true =>
              rw [gfx3d_VBlankEndSignal_pending pending]
              exact inv.draw pending
          | false =>
              rw [gfx3d_VBlankEndSignal,pending]
              exact inv.other rfl fun keeps => ⟨keeps,rfl,rfl,rfl,rfl,rfl,rfl⟩

theorem inv_reset (build : Build) (m : Machine) : Inv build (gfx3d_reset m, []) := by
  have fmt : GFX3D_TRIANGLES < 4 := by decide
  constructor
  · have built : Built build (twiddleLists { m.engine with
        polylists := fun _ => { count := 0, list := fun _ => POLY.zero }
        vertlists := fun _ => { count := 0, list := fun _ => VERT.zero }
        listTwiddle := 1
        vtxFormat := GFX3D_TRIANGLES }) := built_twiddleLists fmt
    exact built.of_same rfl rfl
  · intro scene flushed
    cases flushed
  · intro scene flushed
    cases flushed
  · refine iff_of_false Bool.false_ne_true ?_
    rintro ⟨start,scene,same⟩
    exact absurd same.symm (List.append_ne_nil_of_right_ne_nil start (List.cons_ne_nil _ _))
  · intro earlier scene later same
    exact absurd same.symm (List.append_ne_nil_of_right_ne_nil earlier (List.cons_ne_nil _ _))
  · intro scene member
    exact absurd member List.not_mem_nil

/-- In every run from reset that stores each vertex inside its list, the
renderer draws the scene of the last flush, once, in the order of a flush. -/
theorem last_swapped_scene_drawn (build : Build) (m : Machine) (events : List Event)
    (inside : Run.Guarded (Run.traced (step build)) (Inside build) (gfx3d_reset m, [])
      events) :
    Run.Always (Run.traced (step build)) (Faithful build) (gfx3d_reset m, []) events := by
  have always := Run.always_of_guarded (fun run event => inv_step build run event)
    (inv_reset build m) inside
  exact always.mono fun run inv => inv.faithful

/-! ### A vertex past the end -/

structure Building (verts polys registered : Int) (run : Machine × List Entry) : Prop where
  format : run.1.engine.vtxFormat = GFX3D_TRIANGLES
  twiddle : run.1.engine.listTwiddle = 0
  verts : run.1.engine.vertlist.count = verts
  polys : run.1.engine.polylist.count = polys
  registered : run.1.engine.tempVertInfo.count = registered
  captured : run.1.polylist = 1 ∧ run.1.vertlist = 1
  triangle : (run.1.engine.vertlists 1).count = 3
  flushed : lastFlushed run.2 = some run.1.scene

theorem Building.accepts {verts registered : Int}
    (building : Building verts polys registered run) (vertsFree : verts < 3000)
    (polysFree : polys < 1500) : ¬run.1.engine.refuses .LOWRAM := by
  change ¬(run.1.engine.vertlist.count ≥ (3000 : Int) ∨
    run.1.engine.polylist.count ≥ (1500 : Int))
  rw [building.verts,building.polys]
  omega

theorem Building.vertIndex {verts polys registered : Int} {run : Machine × List Entry}
    (building : Building verts polys registered run) :
    run.1.engine.vertIndex = verts + registered := by
  unfold Engine.vertIndex
  rw [continuation_separate (Or.inl building.format),building.verts,building.registered,
    Int.sub_zero]

theorem Building.engine {verts polys registered : Int} {run : Machine × List Entry}
    (building : Building verts polys registered run) {engine : Engine VERT}
    (keeps : Keeps run.1.engine engine) (fmt : engine.vtxFormat = GFX3D_TRIANGLES) :
    Building engine.vertlist.count engine.polylist.count engine.tempVertInfo.count
      ({ run.1 with engine := engine }, run.2 ++ []) := by
  have other : (1 : Fin 2) ≠ run.1.engine.listTwiddle := by
    rw [building.twiddle]
    decide
  have quiet : Quiet run.1 { run.1 with engine := engine } :=
    ⟨keeps,rfl,rfl,rfl,rfl,rfl,rfl⟩
  obtain ⟨polylist,vertlist⟩ := building.captured
  have scene := quiet.scene (by rw [polylist]; exact other) (by rw [vertlist]; exact other)
  constructor
  · exact fmt
  · exact keeps.twiddle.trans building.twiddle
  · rfl
  · rfl
  · rfl
  · exact building.captured
  · change (engine.vertlists 1).count = 3
    rw [keeps.vertlists 1 other]
    exact building.triangle
  · rw [List.append_nil,scene]
    exact building.flushed

theorem Building.vertex {verts polys registered : Int} {run : Machine × List Entry}
    (building : Building verts polys registered run) (vert : VERT) (vertsFree : verts < 3000)
    (polysFree : polys < 1500) (nonneg : 0 ≤ verts + registered ∧ 0 ≤ polys)
    (inside : verts + registered < 3000) :
    let next := Run.traced (step .LOWRAM) run (.vertex vert)
    (registered + 1 ≠ 3 → Building verts polys (registered + 1) next) ∧
      (registered + 1 = 3 → Building (verts + 3) (polys + 1) 0 next) := by
  have accepts := building.accepts vertsFree polysFree
  have keeps := keeps_SetVertex .LOWRAM duplicated run.1.engine vert
  have valid : run.1.engine.vtxFormat < 4 := by
    rw [building.format]
    decide
  have three : corners run.1.engine.vtxFormat = 3 := by
    rw [building.format]
    rfl
  have stored : Run.traced (step .LOWRAM) run (.vertex vert) =
      ({ run.1 with engine := (SetVertex .LOWRAM duplicated run.1.engine vert).1 },
        run.2 ++ []) := by
    change (run.1.vertex .LOWRAM vert, run.2 ++ []) = _
    rw [vertex_inside]
    right
    rw [building.vertIndex]
    exact ⟨nonneg.1,inside⟩
  intro next
  unfold next
  rw [stored]
  constructor
  · intro part
    have regs := SetVertex_registers .LOWRAM duplicated vert accepts valid (by
      rw [building.registered,three]
      exact part)
    have built := building.engine keeps (regs.format.trans building.format)
    rw [regs.verts,regs.polylist,regs.tempVertInfo,building.verts,
      building.polys,building.registered] at built
    exact built
  · intro full
    have completed := SetVertex_completes .LOWRAM duplicated vert accepts valid
      (by rw [building.polys]; exact nonneg.2)
      (by rw [building.registered,three]; exact full)
    have built := building.engine keeps (completed.format.trans building.format)
    rw [completed.verts,completed.polys,completed.separate (Or.inl building.format),three,
      continuation_separate (Or.inl building.format),building.verts,building.polys,
      Int.sub_zero] at built
    exact built

theorem Building.triangles {verts : Int}
    (building : Building verts polys 0 run) (vert : VERT) (n : Nat) (vertsNonneg : 0 ≤ verts)
    (polysNonneg : 0 ≤ polys) (vertsFree : verts + 3 * n ≤ 3000) (polysFree : polys + n ≤ 1500) :
    Building (verts + 3 * n) (polys + n) 0
      (Run.final (Run.traced (step .LOWRAM)) run (List.replicate (3 * n) (.vertex vert))) := by
  induction n generalizing verts polys run with
  | zero =>
      simpa using building
  | succ n ih =>
      have one := (building.vertex vert (by omega) (by omega) ⟨by omega,by omega⟩
        (by omega)).1 (by omega)
      have two := (one.vertex vert (by omega) (by omega) ⟨by omega,by omega⟩ (by omega)).1
        (by omega)
      have three := (two.vertex vert (by omega) (by omega) ⟨by omega,by omega⟩ (by omega)).2
        (by omega)
      have later := ih three (by omega) (by omega) (by omega) (by omega)
      have length : 3 * (n + 1) = 3 * n + 1 + 1 + 1 := by omega
      rw [length,List.replicate_succ,List.replicate_succ,List.replicate_succ]
      have total : verts + 3 * ((n + 1 : Nat) : Int) = verts + 3 + 3 * (n : Int) := by
        omega
      have totalPolys : polys + ((n + 1 : Nat) : Int) = polys + 1 + (n : Int) := by omega
      rw [total,totalPolys]
      exact later

def corner : VERT := { VERT.zero with x := 0x3F800000 }

def opening : List Event :=
  [.SWAP_BUFFERS 0,.VBlankStart,.BEGIN_VTXS 0,.vertex corner,.vertex corner,.vertex corner,
    .SWAP_BUFFERS 0,.VBlankStart,.BEGIN_VTXS 1,.vertex corner,.vertex corner,.vertex corner,
    .vertex corner,.BEGIN_VTXS 0]

def start : Machine × List Entry := (gfx3d_reset Machine.initial, [])

instance (build : Build) (run : Machine × List Entry) (event : Event) :
    Decidable (Inside build run event) := by
  cases event with
  | vertex vert => exact inferInstanceAs (Decidable (_ ∨ _))
  | _ => exact inferInstanceAs (Decidable True)

theorem opening_inside :
    Run.Guarded (Run.traced (step .LOWRAM)) (Inside .LOWRAM) start opening := by
  decide +kernel

theorem opening_building :
    Building 4 1 0 (Run.final (Run.traced (step .LOWRAM)) start opening) := by
  have inv := (Run.always_of_guarded (fun run event => inv_step .LOWRAM run event)
    (inv_reset .LOWRAM Machine.initial) opening_inside).last
  have some : (lastFlushed (Run.final (Run.traced (step .LOWRAM)) start opening).2).isSome :=
    by decide +kernel
  obtain ⟨scene,flushed⟩ := Option.isSome_iff_exists.mp some
  constructor
  · decide +kernel
  · decide +kernel
  · decide +kernel
  · decide +kernel
  · decide +kernel
  · decide +kernel
  · decide +kernel
  · rw [flushed,← inv.unchanged scene flushed]
    rfl

theorem strayStore_count {engine : Engine VERT} (twiddle : engine.listTwiddle = 0) (vert : VERT) :
    ((strayStore .LOWRAM engine 3000 vert).vertlists 1).count = vert.x.toInt := by
  unfold strayStore
  rw [twiddle]
  rfl

theorem Building.stray
    (building : Building 2998 polys 2 run) (polysFree : polys < 1500) (vert : VERT)
    (changed : vert.x.toInt ≠ 3) :
    ¬Faithful .LOWRAM (Run.traced (step .LOWRAM) run (.vertex vert)) := by
  intro faithful
  have accepts := building.accepts (by omega) polysFree
  have keeps := keeps_SetVertex .LOWRAM duplicated run.1.engine vert
  let engine := (SetVertex .LOWRAM duplicated run.1.engine vert).1
  have stored : Run.traced (step .LOWRAM) run (.vertex vert) =
      ({ run.1 with engine := strayStore .LOWRAM engine 3000 vert }, run.2 ++ []) := by
    change (run.1.vertex .LOWRAM vert, run.2 ++ []) = _
    have i : run.1.engine.vertIndex = 3000 := building.vertIndex
    rw [Machine.vertex,if_neg accepts,i]
  rw [stored,List.append_nil] at faithful
  have same := faithful.unchanged run.1.scene building.flushed
  have counts := congrArg (fun scene => scene.vertlist.count) same
  change ((strayStore .LOWRAM engine 3000 vert).vertlists run.1.vertlist).count =
    (run.1.engine.vertlists run.1.vertlist).count at counts
  rw [building.captured.2,building.triangle,
    strayStore_count (keeps.twiddle.trans building.twiddle)] at counts
  exact changed counts

/-- In the smaller configuration, the vertex after 2998 stored ones and two
registered ones is stored over the scene waiting to be drawn. -/
theorem stray_vertex_changes_scene :
    ¬Run.Always (Run.traced (step .LOWRAM)) (Faithful .LOWRAM) (gfx3d_reset Machine.initial, [])
      (opening ++ List.replicate (3 * 998 + 3) (.vertex corner)) := by
  intro always
  have faithful := always.last
  have filled := opening_building.triangles corner 998 (by omega) (by omega) (by omega) (by omega)
  have one := (filled.vertex corner (by omega) (by omega) ⟨by omega,by omega⟩ (by omega)).1
    (by omega)
  have two := (one.vertex corner (by omega) (by omega) ⟨by omega,by omega⟩ (by omega)).1
    (by omega)
  rw [List.replicate_add,Run.final_append,Run.final_append] at faithful
  exact two.stray (by omega) corner (by decide) faithful

/-- A triangle flushed and drawn, with one more vertex for the next scene. -/
theorem last_swapped_scene_drawn_triangle :
    Run.Always (Run.traced (step .standard)) (Faithful .standard)
      (gfx3d_reset Machine.initial, [])
      [.BEGIN_VTXS 0,.vertex corner,.vertex corner,.vertex corner,.SWAP_BUFFERS 0,
        .VBlankStart,.VBlankEnd true,.vertex corner,.VBlankEnd false] :=
  last_swapped_scene_drawn .standard Machine.initial _ (by decide +kernel)

end Rendering
end Desmume.Gfx3d
