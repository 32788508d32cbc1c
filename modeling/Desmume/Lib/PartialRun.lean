/-
Runs of partial systems, and two systems side by side.

A condition holds along a run of steps that need not have a next state when it
holds of every step that the run comes to.
-/

import Desmume.Lib.Run
import Mathlib.Data.Option.Basic
import Mathlib.Init

namespace Desmume.PartialRun

universe u v

variable {State : Type u} {Op : Type v} (step : State → Op → State → Prop)

def Along (cond : State → Op → Prop) : State → List Op → Prop
  | _, [] => True
  | state, op :: rest =>
      cond state op ∧ ∀ next, step state op next → Along cond next rest

def Reaches : State → List Op → State → Prop
  | state, [], last => state = last
  | state, op :: rest, last => ∃ next, step state op next ∧ Reaches next rest last

variable {step} {first second : State → Op → Prop} {invariant : State → Prop}

theorem along_of_along (gives : ∀ st op, invariant st → first st op → second st op)
    (keeps : ∀ st op next, invariant st → first st op → step st op next →
      invariant next) {st : State} (start : invariant st) {ops : List Op}
    (along : Along step first st ops) : Along step second st ops := by
  induction ops generalizing st with
  | nil => trivial
  | cons op rest ih =>
      obtain ⟨here,later⟩ := along
      refine ⟨gives st op start here,?_⟩
      intro next moved
      exact ih (keeps st op next start here moved) (later next moved)

theorem along_congr (same : ∀ st op, first st op ↔ second st op) (st : State)
    (ops : List Op) : Along step first st ops ↔ Along step second st ops := by
  have kept : ∀ st op next, True → first st op → step st op next → True :=
    fun _ _ _ _ _ _ => trivial
  have kept' : ∀ st op next, True → second st op → step st op next → True :=
    fun _ _ _ _ _ _ => trivial
  constructor
  · exact along_of_along (fun st op _ => (same st op).mp) kept trivial
  · exact along_of_along (fun st op _ => (same st op).mpr) kept' trivial

theorem invariant_of_reaches (keeps : ∀ st op next, invariant st → first st op → step st op next →
      invariant next) {st last : State} (start : invariant st) {ops : List Op}
    (along : Along step first st ops) (reached : Reaches step st ops last) : invariant last := by
  induction ops generalizing st with
  | nil =>
      cases reached
      exact start
  | cons op rest ih =>
      obtain ⟨here,later⟩ := along
      obtain ⟨next,moved,further⟩ := reached
      exact ih (keeps st op next start here moved) (later next moved) further

end Desmume.PartialRun

namespace Desmume.Lockstep

universe u v

variable {α β : Type u} {α' β' : Type v} {related : α → α' → Prop} {after : β → β' → Prop}
variable {first : Option α} {second : Option α'}

theorem map {f : α → β} {g : α' → β'} (same : Option.Rel related first second)
    (maps : ∀ a b, related a b → after (f a) (g b)) :
    Option.Rel after (first.map f) (second.map g) := by
  cases same with
  | some here => exact .some (maps _ _ here)
  | none => exact .none

theorem bind {f : α → Option β} {g : α' → Option β'} (same : Option.Rel related first second)
    (steps : ∀ a b, related a b → Option.Rel after (f a) (g b)) :
    Option.Rel after (first.bind f) (second.bind g) := by
  cases same with
  | some here => exact steps _ _ here
  | none => exact .none

theorem foldlM {Item : Type} {f : α → Item → Option α} {g : α' → Item → Option α'}
    (steps : ∀ a b item, related a b → Option.Rel related (f a item) (g b item))
    (items : List Item) {start : α} {other : α'} (same : related start other) :
    Option.Rel related (items.foldlM f start) (items.foldlM g other) := by
  induction items generalizing start other with
  | nil => exact .some same
  | cons item rest ih =>
      rw [List.foldlM_cons,List.foldlM_cons]
      exact bind (steps _ _ item same) fun _ _ moved => ih moved

theorem foldlM_keeps {Item : Type} {f : α → Item → Option α} {holds : α → Prop}
    (steps : ∀ a item b, holds a → f a item = some b → holds b) {items : List Item}
    {start last : α} (first : holds start) (folded : items.foldlM f start = some last) :
    holds last := by
  induction items generalizing start with
  | nil =>
      cases folded
      exact first
  | cons item rest ih =>
      rw [List.foldlM_cons] at folded
      obtain ⟨middle,stepped,later⟩ := Option.bind_eq_some_iff.mp folded
      exact ih (steps start item middle first stepped) later

theorem eq_of_rel {first second : Option α} (same : Option.Rel Eq first second) :
    first = second := by
  cases same with
  | some here => rw [here]
  | none => rfl

end Desmume.Lockstep

namespace FastPath

universe u v w

variable {State : Type u} {Op : Type v} {Answer : Type w}
variable {fast slow : State → Op → State × List Answer} {sound : State → Op → Prop}

theorem logged_eq_of_sound (same : ∀ st op, sound st op → fast st op = slow st op)
    {st : State} {ops : List Op}
    (guarded : Run.Guarded (fun st op => (fast st op).1) sound st ops) :
    Run.logged fast st ops = Run.logged slow st ops := by
  induction ops generalizing st with
  | nil => rfl
  | cons op rest ih =>
      have later := ih guarded.2
      have here := same st op guarded.1
      simp only [Run.logged]
      simp only [here] at later ⊢
      rw [later]

theorem answers_eq_iff_sound (same : ∀ st op, sound st op → fast st op = slow st op)
    (differ : ∀ st op, ¬ sound st op → (fast st op).2 ≠ (slow st op).2)
    (asMany : ∀ st op, (fast st op).2.length = (slow st op).2.length) (st : State) (ops : List Op) :
    (Run.logged fast st ops).2 = (Run.logged slow st ops).2 ↔
      Run.Guarded (fun st op => (fast st op).1) sound st ops := by
  induction ops generalizing st with
  | nil => exact iff_of_true rfl trivial
  | cons op rest ih =>
      simp only [Run.logged,Run.Guarded]
      by_cases here : sound st op
      · rw [← ih,← same st op here,List.append_cancel_left_eq]
        exact (and_iff_right here).symm
      · refine iff_of_false ?_ (fun guarded => here guarded.1)
        intro equal
        exact differ st op here (List.append_inj_left equal (asMany st op))

end FastPath
