/-
Loops that may not end.

A round of the loop goes on with a new state or leaves the loop with a result.
-/

import Mathlib.Data.Nat.Find
import Mathlib.Logic.Function.Iterate

namespace Desmume.While

universe u v

variable {State : Type u} {Result : Type v} (step : State → Except Result State)

def after : Nat → State → Except Result State
  | 0, st => .ok st
  | rounds + 1, st =>
      match step st with
      | .error res => .error res
      | .ok next => after rounds next

def leftWith : Except Result State → Option Result
  | .error res => some res
  | .ok _ => none

variable {res : Result} {next : State} {first : Nat}

theorem leftWith_eq_some {outcome : Except Result State} :
    leftWith outcome = some res ↔ outcome = .error res := by
  cases outcome with
  | error other => rw [leftWith,Option.some.injEq,Except.error.injEq]
  | ok st => simp only [leftWith,reduceCtorEq]

variable {step}

theorem after_succ_of_ok {st : State} (goes : step st = .ok next) (rounds : Nat) :
    after step (rounds + 1) st = after step rounds next := by
  rw [after,goes]

theorem after_succ_of_error {st : State} (leaves : step st = .error res) (rounds : Nat) :
    after step (rounds + 1) st = .error res := by
  rw [after,leaves]

theorem after_add {st : State} (reached : after step first st = .ok next)
    (second : Nat) : after step (first + second) st = after step second next := by
  induction first generalizing st with
  | zero =>
      cases reached
      rw [Nat.zero_add]
  | succ first ih =>
      rw [Nat.succ_add]
      cases round : step st with
      | error res =>
          rw [after_succ_of_error round] at reached
          cases reached
      | ok middle =>
          rw [after_succ_of_ok round] at reached ⊢
          exact ih reached

theorem after_of_error {st : State} (left : after step first st = .error res) (second : Nat) :
    after step (first + second) st = .error res := by
  induction first generalizing st with
  | zero => cases left
  | succ first ih =>
      rw [Nat.succ_add]
      cases round : step st with
      | error other =>
          rw [after_succ_of_error round] at left ⊢
          exact left
      | ok middle =>
          rw [after_succ_of_ok round] at left ⊢
          exact ih left

theorem result_unique {st : State} {second : Nat} {left right : Result}
    (leftIn : after step first st = .error left)
    (rightIn : after step second st = .error right) : left = right := by
  have leftLater := after_of_error leftIn second
  have rightLater := after_of_error rightIn first
  rw [Nat.add_comm second first,leftLater] at rightLater
  cases rightLater
  rfl

section

variable {invariant good : State → Prop}

end

section

variable (step : State → Except (Option Result) State) (further : State → State → Prop)

def Advances (st : State) : Prop :=
  match step st with
  | .error res => res.isSome = true
  | .ok next => further st next

variable {step further} {invariant good : State → Prop}

section

variable {ended : State → Result → Prop} {kept : State → State → Prop} {st : State}

end

end

end Desmume.While
