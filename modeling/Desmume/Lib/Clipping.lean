/-
Clipping a closed outline by planes, one after the other.

An outline is a tour of its corners. Where it crosses a plane a new corner is
put in, and the corners outside are left out.
-/

import Mathlib
import Desmume.Lib.Tour

namespace Desmume.Clipping

open Tour

universe u v

/-- Planes with the corners inside of them, and the corner to put in between one
that is inside and one that is not. -/
structure Cutter (Plane : Type u) (Corner : Type v) where
  inside : Plane → Corner → Bool
  cut : Plane → Corner → Corner → Corner
  cut_inside : ∀ plane here next, inside plane here = true → inside plane next = false →
    inside plane (cut plane here next) = true
  cut_between : ∀ plane here next, inside plane here = true → inside plane next = false →
    ∀ other, inside other (cut plane here next) = inside other here ∨
      inside other (cut plane here next) = inside other next

variable {Plane : Type u} {Corner : Type v} (cutter : Cutter Plane Corner)

namespace Cutter

def emit (plane : Plane) (here next : Corner) : List Corner :=
  match cutter.inside plane here, cutter.inside plane next with
  | true, true => [next]
  | true, false => [cutter.cut plane here next]
  | false, true => [cutter.cut plane next here,next]
  | false, false => []

def along (plane : Plane) : Corner → List Corner → List Corner
  | _, [] => []
  | here, next :: rest => cutter.emit plane here next ++ along plane next rest

def clip (plane : Plane) : List Corner → List Corner
  | [] => []
  | start :: rest => cutter.along plane start (rest ++ [start])

def outline (planes : List Plane) (corners : List Corner) : List Corner :=
  planes.foldl (fun corners plane => cutter.clip plane corners) corners

def stops (plane : Plane) (here next : Corner) : List Corner :=
  match cutter.inside plane here, cutter.inside plane next with
  | true, false => [cutter.cut plane here next]
  | false, true => [cutter.cut plane next here]
  | _, _ => []

variable (plane : Plane)

theorem emit_eq_filter (here next : Corner) :
    cutter.emit plane here next =
      (cutter.stops plane here next ++ [next]).filter (cutter.inside plane) := by
  unfold emit stops
  cases first : cutter.inside plane here with
  | true =>
      cases second : cutter.inside plane next with
      | true => simp [second]
      | false => simp [second,cutter.cut_inside plane here next first second]
  | false =>
      cases second : cutter.inside plane next with
      | true => simp [second,cutter.cut_inside plane next here second first]
      | false => simp [second]

theorem along_eq_filter (here : Corner) (corners : List Corner) :
    cutter.along plane here corners =
      (thread (cutter.stops plane) here corners).filter (cutter.inside plane) := by
  induction corners generalizing here with
  | nil => rfl
  | cons next rest ih =>
      have split : cutter.stops plane here next ++ next :: thread (cutter.stops plane) next rest =
          (cutter.stops plane here next ++ [next]) ++ thread (cutter.stops plane) next rest := by
        rw [List.append_assoc]
        rfl
      rw [along,thread,split,List.filter_append,emit_eq_filter,ih]

theorem clip_eq_filter (corners : List Corner) :
    cutter.clip plane corners =
      (withStops (cutter.stops plane) corners).filter (cutter.inside plane) := by
  cases corners with
  | nil => rfl
  | cons start rest => exact cutter.along_eq_filter plane start _

variable {corners : List Corner} {corner : Corner} {planes : List Plane} {here : Corner}

theorem inside_of_mem_clip {plane : Plane}
    (member : corner ∈ cutter.clip plane corners) : cutter.inside plane corner = true := by
  rw [clip_eq_filter] at member
  exact (List.mem_filter.mp member).2

theorem mem_stops {plane : Plane} {next : Corner}
    (member : corner ∈ cutter.stops plane here next) (other : Plane) :
    cutter.inside other corner = cutter.inside other here ∨
      cutter.inside other corner = cutter.inside other next := by
  unfold stops at member
  split at member
  next first second =>
      obtain rfl := List.mem_singleton.mp member
      exact cutter.cut_between plane here next first second other
  next first second =>
      obtain rfl := List.mem_singleton.mp member
      exact (cutter.cut_between plane next here second first other).symm
  next => cases member

theorem inside_of_mem_stops {plane : Plane} {next : Corner}
    (member : corner ∈ cutter.stops plane here next) : cutter.inside plane corner = true := by
  unfold stops at member
  split at member
  next first second =>
      obtain rfl := List.mem_singleton.mp member
      exact cutter.cut_inside plane here next first second
  next first second =>
      obtain rfl := List.mem_singleton.mp member
      exact cutter.cut_inside plane next here second first
  next => cases member

theorem side_of_mem_clip {plane other : Plane} {side : Bool}
    (all : ∀ corner ∈ corners, cutter.inside other corner = side)
    (member : corner ∈ cutter.clip plane corners) : cutter.inside other corner = side := by
  rw [clip_eq_filter] at member
  rcases mem_withStops (List.mem_filter.mp member).1 with listed | ⟨first,one,second,two,stop⟩
  · exact all corner listed
  · rcases cutter.mem_stops stop other with same | same
    · exact same.trans (all first one)
    · exact same.trans (all second two)

theorem inside_of_mem_outline_or {plane : Plane}
    (given : plane ∈ planes ∨ ∀ corner ∈ corners, cutter.inside plane corner = true)
    (member : corner ∈ cutter.outline planes corners) :
    cutter.inside plane corner = true := by
  induction planes generalizing corners with
  | nil =>
      rcases given with impossible | all
      · cases impossible
      · exact all corner member
  | cons first planes ih =>
      refine @ih (cutter.clip first corners) ?_ member
      rcases given with listed | all
      · rcases List.mem_cons.mp listed with rfl | later
        · exact Or.inr fun corner here => cutter.inside_of_mem_clip here
        · exact Or.inl later
      · exact Or.inr fun corner here => cutter.side_of_mem_clip all here

theorem inside_of_mem_outline
    (member : corner ∈ cutter.outline planes corners) {plane : Plane} (clipped : plane ∈ planes) :
    cutter.inside plane corner = true :=
  cutter.inside_of_mem_outline_or (Or.inl clipped) member

theorem along_of_inside {plane : Plane} (first : cutter.inside plane here = true)
    (others : ∀ corner ∈ corners, cutter.inside plane corner = true) :
    cutter.along plane here corners = corners := by
  induction corners generalizing here with
  | nil => rfl
  | cons next rest ih =>
      have second := others next List.mem_cons_self
      have later := ih second fun corner more => others corner (List.mem_cons_of_mem next more)
      rw [Cutter.along,later]
      unfold emit
      rw [first,second]
      rfl

theorem clip_of_inside {plane : Plane}
    (all : ∀ corner ∈ corners, cutter.inside plane corner = true) :
    cutter.clip plane corners = corners.rotate 1 := by
  cases corners with
  | nil => rfl
  | cons start rest =>
      rw [List.rotate_cons_succ,List.rotate_zero]
      refine cutter.along_of_inside (all start List.mem_cons_self) (fun corner member => ?_)
      exact all corner ((List.perm_append_singleton start rest).mem_iff.mp member)

theorem outline_of_inside
    (all : ∀ plane ∈ planes, ∀ corner ∈ corners, cutter.inside plane corner = true) :
    cutter.outline planes corners = corners.rotate planes.length := by
  induction planes generalizing corners with
  | nil => rw [List.length_nil,List.rotate_zero]; rfl
  | cons plane planes ih =>
      change cutter.outline planes (cutter.clip plane corners) = _
      rw [cutter.clip_of_inside (all plane List.mem_cons_self),ih,List.rotate_rotate,
        List.length_cons,Nat.add_comm]
      intro later listed corner member
      exact all later (List.mem_cons_of_mem plane listed) corner (List.mem_rotate.mp member)

theorem outline_nil (planes : List Plane) : cutter.outline planes [] = [] := by
  induction planes with
  | nil => rfl
  | cons plane planes ih => exact ih

theorem outline_of_outside {plane : Plane}
    (listed : plane ∈ planes) (all : ∀ corner ∈ corners, cutter.inside plane corner = false) :
    cutter.outline planes corners = [] := by
  induction planes generalizing corners with
  | nil => cases listed
  | cons first planes ih =>
      have outside : ∀ corner ∈ cutter.clip first corners, cutter.inside plane corner = false :=
        fun corner member => cutter.side_of_mem_clip all member
      rcases List.mem_cons.mp listed with rfl | later
      · have empty : cutter.clip plane corners = [] := by
          refine List.eq_nil_iff_forall_not_mem.mpr (fun corner member => ?_)
          have isIn := cutter.inside_of_mem_clip member
          rw [outside corner member] at isIn
          cases isIn
        change cutter.outline planes (cutter.clip plane corners) = []
        rw [empty,outline_nil]
      · exact ih later outside

def sided (charge : Bool → Bool → Nat) (plane : Plane) (here next : Corner) : Nat :=
  charge (cutter.inside plane here) (cutter.inside plane next)

def crosses (first second : Bool) : Nat := if first = second then 0 else 1

def leaves (first second : Bool) : Nat := if first && !second then 1 else 0

structure Charge (charge : Bool → Bool → Nat) : Prop where
  stays : ∀ side, charge side side = 0
  direct : ∀ first second third, charge first third ≤ charge first second + charge second third

theorem charge_crosses : Charge crosses := ⟨by decide,by decide⟩

theorem charge_leaves : Charge leaves := ⟨by decide,by decide⟩

variable {charge : Bool → Bool → Nat}

theorem walk_stops (charged : Charge charge) (plane other : Plane) (here next : Corner) :
    walk (cutter.sided charge other) here (cutter.stops plane here next ++ [next]) ≤
      cutter.sided charge other here next := by
  have single : ∀ corner, (cutter.inside other corner = cutter.inside other here ∨
      cutter.inside other corner = cutter.inside other next) →
      walk (cutter.sided charge other) here ([corner] ++ [next]) ≤
        cutter.sided charge other here next := by
    intro corner between
    simp only [List.cons_append,List.nil_append,walk,Nat.add_zero,sided]
    rcases between with same | same
    · rw [same,charged.stays,Nat.zero_add]
    · rw [same,charged.stays,Nat.add_zero]
  have between := fun corner (member : corner ∈ cutter.stops plane here next) =>
    cutter.mem_stops member other
  unfold stops at between ⊢
  split
  next first second =>
      rw [first,second] at between
      exact single _ (between _ (List.mem_singleton_self _))
  next first second =>
      rw [first,second] at between
      exact single _ (between _ (List.mem_singleton_self _))
  next => exact le_rfl

theorem tour_clip_le (charged : Charge charge) (plane other : Plane) (corners : List Corner) :
    tour (cutter.sided charge other) (cutter.clip plane corners) ≤
      tour (cutter.sided charge other) corners := by
  rw [clip_eq_filter]
  refine (tour_sublist ?_ List.filter_sublist).trans
    (tour_withStops (cutter.walk_stops charged plane other) corners)
  exact fun first second third => charged.direct _ _ _

def crossings (plane : Plane) (corners : List Corner) : Nat :=
  tour (cutter.sided crosses plane) corners

def exits (plane : Plane) (corners : List Corner) : Nat :=
  tour (cutter.sided leaves plane) corners

def outside (plane : Plane) (corners : List Corner) : Nat :=
  corners.countP fun corner => !cutter.inside plane corner

theorem length_stops (here next : Corner) :
    (cutter.stops plane here next).length = cutter.sided crosses plane here next := by
  unfold stops sided
  cases cutter.inside plane here with
  | true =>
      cases cutter.inside plane next with
      | true => rfl
      | false => rfl
  | false =>
      cases cutter.inside plane next with
      | true => rfl
      | false => rfl

theorem outside_stops (here next : Corner) :
    cutter.outside plane (cutter.stops plane here next) = 0 := by
  refine List.countP_eq_zero.mpr (fun corner member => ?_)
  rw [cutter.inside_of_mem_stops member]
  exact Bool.false_ne_true

theorem outside_thread (here : Corner) (corners : List Corner) :
    cutter.outside plane (thread (cutter.stops plane) here corners) =
      cutter.outside plane corners := by
  induction corners generalizing here with
  | nil => rfl
  | cons next rest ih =>
      have stops := cutter.outside_stops plane here next
      have later := ih next
      unfold outside at stops later ⊢
      rw [thread,List.countP_append,stops,Nat.zero_add,List.countP_cons,later,
        List.countP_cons]

theorem outside_withStops (corners : List Corner) :
    cutter.outside plane (withStops (cutter.stops plane) corners) =
      cutter.outside plane corners := by
  cases corners with
  | nil => rfl
  | cons start rest =>
      rw [withStops,outside_thread]
      exact (List.perm_append_singleton start rest).countP_eq _

theorem length_filter_inside (corners : List Corner) :
    (corners.filter (cutter.inside plane)).length + cutter.outside plane corners =
      corners.length := by
  unfold outside
  induction corners with
  | nil => rfl
  | cons corner rest ih =>
      rw [List.countP_cons,List.length_cons]
      cases side : cutter.inside plane corner with
      | true =>
          rw [List.filter_cons_of_pos side,List.length_cons]
          change _ + (_ + 0) = _
          omega
      | false =>
          rw [List.filter_cons_of_neg (by rw [side]; exact Bool.false_ne_true)]
          change _ + (_ + 1) = _
          omega

theorem length_clip (corners : List Corner) :
    (cutter.clip plane corners).length + cutter.outside plane corners =
      corners.length + cutter.crossings plane corners := by
  have lengths := @length_withStops _ (cutter.stops plane) corners
  have counted : (fun here next => (cutter.stops plane here next).length) =
      cutter.sided crosses plane := by
    funext here next
    exact cutter.length_stops plane here next
  rw [counted] at lengths
  have parts := cutter.length_filter_inside plane (withStops (cutter.stops plane) corners)
  rw [cutter.outside_withStops,← cutter.clip_eq_filter,lengths,Nat.add_comm] at parts
  rw [Nat.add_comm,parts,Nat.add_comm]
  rfl

theorem crossings_le (corners : List Corner) :
    cutter.crossings plane corners ≤
      cutter.exits plane corners + cutter.outside plane corners := by
  have parts : cutter.sided crosses plane = fun here next =>
      cutter.sided leaves plane here next +
        cutter.sided (fun first second => leaves second first) plane here next := by
    funext here next
    unfold sided crosses leaves
    cases cutter.inside plane here with
    | true =>
        cases cutter.inside plane next with
        | true => rfl
        | false => rfl
    | false =>
        cases cutter.inside plane next with
        | true => rfl
        | false => rfl
  unfold crossings exits outside
  rw [parts,tour_add]
  refine Nat.add_le_add_left (tour_le_countP _ ?_ corners) _
  intro here next
  unfold sided leaves
  cases cutter.inside plane here with
  | true =>
      cases cutter.inside plane next with
      | true => exact le_rfl
      | false => exact le_rfl
  | false =>
      cases cutter.inside plane next with
      | true => exact le_rfl
      | false => exact Nat.zero_le _

theorem length_clip_le (corners : List Corner) :
    (cutter.clip plane corners).length ≤ corners.length + cutter.exits plane corners := by
  have lengths := cutter.length_clip plane corners
  have few := cutter.crossings_le plane corners
  omega

theorem two_exits_le (corners : List Corner) : 2 * cutter.exits plane corners ≤ corners.length := by
  have from_inside : cutter.exits plane corners ≤ corners.countP (cutter.inside plane) := by
    refine tour_le_countP _ (fun here next => ?_) corners
    unfold sided leaves
    cases cutter.inside plane here with
    | true =>
        cases cutter.inside plane next with
        | true => exact Nat.zero_le _
        | false => exact le_rfl
    | false => exact le_rfl
  have to_outside : cutter.exits plane corners ≤ cutter.outside plane corners := by
    refine tour_le_countP_next _ (fun here next => ?_) corners
    unfold sided leaves
    cases cutter.inside plane here with
    | true =>
        cases cutter.inside plane next with
        | true => exact le_rfl
        | false => exact le_rfl
    | false => exact Nat.zero_le _
  have parts := cutter.length_filter_inside plane corners
  rw [← List.countP_eq_length_filter] at parts
  omega

/-! ### All planes -/

def cuts : List Plane → List Corner → Nat
  | [], _ => 0
  | plane :: planes, corners =>
      cutter.crossings plane corners + cuts planes (cutter.clip plane corners)

def dropped : List Plane → List Corner → Nat
  | [], _ => 0
  | plane :: planes, corners =>
      cutter.outside plane corners + dropped planes (cutter.clip plane corners)

theorem length_outline (planes : List Plane) (corners : List Corner) :
    (cutter.outline planes corners).length + cutter.dropped planes corners =
      corners.length + cutter.cuts planes corners := by
  induction planes generalizing corners with
  | nil => rfl
  | cons plane planes ih =>
      have first := cutter.length_clip plane corners
      have later := ih (cutter.clip plane corners)
      change (cutter.outline planes (cutter.clip plane corners)).length +
        (cutter.outside plane corners + cutter.dropped planes (cutter.clip plane corners)) =
        corners.length +
          (cutter.crossings plane corners + cutter.cuts planes (cutter.clip plane corners))
      omega

def total (n : Plane → List Corner → Nat) (planes : List Plane) (corners : List Corner) : Nat :=
  (planes.map fun plane => n plane corners).sum

theorem total_mono {n : Plane → List Corner → Nat} {first second : List Corner}
    (fewer : ∀ plane, n plane first ≤ n plane second) (planes : List Plane) :
    total n planes first ≤ total n planes second := by
  induction planes with
  | nil => exact le_rfl
  | cons plane planes ih =>
      unfold total at ih ⊢
      rw [List.map_cons,List.map_cons,List.sum_cons,List.sum_cons]
      exact Nat.add_le_add (fewer plane) ih

theorem cuts_le (planes : List Plane) (corners : List Corner) :
    cutter.cuts planes corners ≤ total cutter.crossings planes corners := by
  induction planes generalizing corners with
  | nil => exact le_rfl
  | cons plane planes ih =>
      have fewer : total cutter.crossings planes (cutter.clip plane corners) ≤
          total cutter.crossings planes corners :=
        total_mono (fun other => cutter.tour_clip_le charge_crosses plane other corners) planes
      have later := ih (cutter.clip plane corners)
      unfold total at fewer later ⊢
      unfold cuts
      rw [List.map_cons,List.sum_cons]
      exact Nat.add_le_add_left (later.trans fewer) _

theorem length_outline_le (planes : List Plane) (corners : List Corner) :
    (cutter.outline planes corners).length ≤
      corners.length + total cutter.exits planes corners := by
  induction planes generalizing corners with
  | nil => exact le_rfl
  | cons plane planes ih =>
      have fewer : total cutter.exits planes (cutter.clip plane corners) ≤
          total cutter.exits planes corners :=
        total_mono (fun other => cutter.tour_clip_le charge_leaves plane other corners) planes
      have first := cutter.length_clip_le plane corners
      have later := ih (cutter.clip plane corners)
      change (cutter.outline planes (cutter.clip plane corners)).length ≤ _
      unfold total at fewer later ⊢
      rw [List.map_cons,List.sum_cons]
      omega

theorem total_crossings_le (planes : List Plane) (corners : List Corner) :
    total cutter.crossings planes corners ≤ planes.length * corners.length := by
  have each : ∀ plane, cutter.crossings plane corners ≤ corners.length := by
    intro plane
    have few : cutter.crossings plane corners ≤ corners.countP fun _ => true := by
      refine tour_le_countP _ (fun here next => ?_) corners
      unfold sided crosses
      split
      next => exact Nat.zero_le _
      next => exact le_rfl
    rw [List.countP_true] at few
    exact few
  unfold total
  induction planes with
  | nil => exact Nat.zero_le _
  | cons plane planes ih =>
      rw [List.map_cons,List.sum_cons,List.length_cons,Nat.succ_mul,Nat.add_comm]
      exact Nat.add_le_add ih (each plane)

end Cutter

end Desmume.Clipping
