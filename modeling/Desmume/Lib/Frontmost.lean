/-
Which of several layers is seen.

A cell is painted over by layers, the farthest first; what is seen in the end is
the nearest layer that covers it.
-/

import Mathlib

namespace Frontmost

universe u v

section

variable {Layer : Type u} {Color : Type v}

variable (cover : Layer → Option Color) (start : Color)

/-- The colour of a cell after the layers of `order` have been painted. -/
def paint (order : List Layer) : Color :=
  order.foldl (fun below layer => (cover layer).getD below) start

theorem paint_snoc (order : List Layer) (layer : Layer) :
    paint cover start (order ++ [layer]) = (cover layer).getD (paint cover start order) := by
  unfold paint
  rw [List.foldl_append]
  rfl

structure Nearest (cover : Layer → Option Color) (depth : Layer → Nat) (layers : List Layer)
    (layer : Layer) (color : Color) : Prop where
  member : layer ∈ layers
  covers : cover layer = some color
  nearest : ∀ other ∈ layers, cover other ≠ none → depth layer ≤ depth other

theorem paint_nearest {cover : Layer → Option Color} {depth : Layer → Nat}
    {order : List Layer} (sorted : order.Pairwise (fun far near => depth near < depth far)) :
    ((∀ layer ∈ order, cover layer = none) ∧ paint cover start order = start) ∨
      ∃ layer, Nearest cover depth order layer (paint cover start order) := by
  induction order using List.reverseRecOn with
  | nil => exact Or.inl ⟨fun _ member => (List.not_mem_nil member).elim, rfl⟩
  | append_singleton order last ih =>
      rw [List.pairwise_append] at sorted
      obtain ⟨before,-,behind⟩ := sorted
      rw [paint_snoc]
      cases covered : cover last with
      | some color =>
          right
          refine ⟨last,List.mem_append_right _ List.mem_cons_self,covered,?_⟩
          intro other member _covers
          rcases List.mem_append.mp member with early | here
          · exact (behind other early last List.mem_cons_self).le
          · rw [List.mem_singleton.mp here]
      | none =>
          change (_ ∧ paint cover start order = start) ∨
            ∃ layer, Nearest cover depth _ layer (paint cover start order)
          rcases ih before with ⟨bare,same⟩ | ⟨layer,found⟩
          · left
            refine ⟨?_,same⟩
            intro layer member
            rcases List.mem_append.mp member with early | here
            · exact bare layer early
            · rw [List.mem_singleton.mp here]
              exact covered
          · right
            refine ⟨layer,List.mem_append_left _ found.member,found.covers,?_⟩
            intro other member covers
            rcases List.mem_append.mp member with early | here
            · exact found.nearest other early covers
            · rw [List.mem_singleton.mp here] at covers
              exact absurd covered covers

end

section

variable {Entry : Type u} (key : Entry → Nat)

def better (held : Option Entry) (entry : Entry) : Option Entry :=
  match held with
  | none => some entry
  | some best => if key entry < key best then some entry else some best

def firstBest (ents : List Entry) : Option Entry := ents.foldl (better key) none

theorem firstBest_snoc (ents : List Entry) (entry : Entry) :
    firstBest key (ents ++ [entry]) = better key (firstBest key ents) entry := by
  unfold firstBest
  rw [List.foldl_append]
  rfl

variable {key}

variable {ents : List Entry}

theorem firstBest_eq_none (none : firstBest key ents = none) : ents = [] := by
  induction ents using List.reverseRecOn with
  | nil => rfl
  | append_singleton ents entry ih =>
      rw [firstBest_snoc] at none
      cases held : firstBest key ents with
      | none =>
          rw [held] at none
          cases none
      | some best =>
          rw [held] at none
          unfold better at none
          dsimp only at none
          split at none
          · cases none
          · cases none

theorem mem_of_firstBest {best : Entry} (held : firstBest key ents = some best) : best ∈ ents := by
  induction ents using List.reverseRecOn generalizing best with
  | nil => cases held
  | append_singleton ents entry ih =>
      rw [firstBest_snoc] at held
      cases earlier : firstBest key ents with
      | none =>
          rw [earlier] at held
          obtain rfl := Option.some.inj held
          exact List.mem_append_right _ List.mem_cons_self
      | some kept =>
          rw [earlier] at held
          unfold better at held
          dsimp only at held
          split at held
          · obtain rfl := Option.some.inj held
            exact List.mem_append_right _ List.mem_cons_self
          · obtain rfl := Option.some.inj held
            exact List.mem_append_left _ (ih earlier)

theorem firstBest_smallest {rank : Entry → Nat}
    (sorted : ents.Pairwise (fun first second => rank first ≤ rank second)) {best : Entry}
    (held : firstBest key ents = some best) : ∀ other ∈ ents,
      key best < key other ∨ (key best = key other ∧ rank best ≤ rank other) := by
  induction ents using List.reverseRecOn generalizing best with
  | nil => cases held
  | append_singleton ents entry ih =>
      rw [List.pairwise_append] at sorted
      obtain ⟨before,-,behind⟩ := sorted
      rw [firstBest_snoc] at held
      cases earlier : firstBest key ents with
      | none =>
          rw [earlier] at held
          obtain rfl := Option.some.inj held
          rw [firstBest_eq_none earlier]
          intro other member
          rw [List.mem_singleton.mp member]
          exact Or.inr ⟨rfl,Nat.le_refl _⟩
      | some kept =>
          rw [earlier] at held
          have member := mem_of_firstBest earlier
          have smallest := ih before earlier
          unfold better at held
          dsimp only at held
          split at held
          next smaller =>
            obtain rfl := Option.some.inj held
            intro other listed
            rcases List.mem_append.mp listed with early | here
            · rcases smallest other early with less | ⟨equal,-⟩
              · exact Or.inl (smaller.trans less)
              · exact Or.inl (Nat.lt_of_lt_of_eq smaller equal)
            · rw [List.mem_singleton.mp here]
              exact Or.inr ⟨rfl,Nat.le_refl _⟩
          next notSmaller =>
            obtain rfl := Option.some.inj held
            intro other listed
            rcases List.mem_append.mp listed with early | here
            · exact smallest other early
            · rw [List.mem_singleton.mp here]
              rcases Nat.lt_or_ge (key kept) (key entry) with less | atMost
              · exact Or.inl less
              · exact Or.inr ⟨Nat.le_antisymm (Nat.le_of_not_lt notSmaller) atMost,
                  behind kept member entry List.mem_cons_self⟩

end

end Frontmost
