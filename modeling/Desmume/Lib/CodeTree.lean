/-
Binary trees of symbols and the codes they give them.

The code of a symbol is a way from the root to a leaf that holds it.
-/

import Mathlib.Data.List.Basic

namespace Desmume

universe u

inductive CodeTree (Symbol : Type u)
  | leaf (symbol : Symbol)
  | node (left right : CodeTree Symbol)

namespace CodeTree

variable {Symbol : Type u}

/-- The ways to the leaves; `true` goes right. -/
inductive Code : CodeTree Symbol → List Bool → Symbol → Prop
  | leaf (symbol : Symbol) : Code (.leaf symbol) [] symbol
  | left {left right : CodeTree Symbol} {bits : List Bool} {symbol : Symbol}
      (below : Code left bits symbol) : Code (.node left right) (false :: bits) symbol
  | right {left right : CodeTree Symbol} {bits : List Bool} {symbol : Symbol}
      (below : Code right bits symbol) : Code (.node left right) (true :: bits) symbol

inductive Encodes (tree : CodeTree Symbol) : List Symbol → List Bool → Prop
  | nil : Encodes tree [] []
  | cons {code : List Bool} {symbol : Symbol} {symbols : List Symbol} {bits : List Bool}
      (first : Code tree code symbol) (rest : Encodes tree symbols bits) :
      Encodes tree (symbol :: symbols) (code ++ bits)

def Agrees (source : Nat → Bool) (bits : List Bool) : Prop :=
  ∀ (i : Nat) (inside : i < bits.length), source i = bits[i]

theorem agrees_nil (source : Nat → Bool) : Agrees source [] := by
  intro i inside
  cases inside

theorem agrees_cons {source : Nat → Bool} {bit : Bool} {bits : List Bool} :
    Agrees source (bit :: bits) ↔
      source 0 = bit ∧ Agrees (fun i => source (i + 1)) bits := by
  constructor
  · intro agrees
    refine ⟨agrees 0 (Nat.succ_pos _),fun i inside => ?_⟩
    exact agrees (i + 1) (Nat.succ_lt_succ inside)
  · rintro ⟨first,later⟩ i inside
    cases i with
    | zero => exact first
    | succ i => exact later i (Nat.lt_of_succ_lt_succ inside)

theorem Agrees.left {source : Nat → Bool} {first second : List Bool}
    (agrees : Agrees source (first ++ second)) : Agrees source first := by
  intro i inside
  have here := agrees i (by rw [List.length_append]; omega)
  rwa [List.getElem_append_left inside] at here

theorem exists_code (tree : CodeTree Symbol) (source : Nat → Bool) :
    ∃ code symbol, Code tree code symbol ∧ Agrees source code := by
  induction tree generalizing source with
  | leaf symbol => exact ⟨[],symbol,.leaf symbol,agrees_nil source⟩
  | node left right leftWay rightWay =>
      cases first : source 0 with
      | false =>
          obtain ⟨code,symbol,below,agrees⟩ := leftWay fun i => source (i + 1)
          exact ⟨false :: code,symbol,.left below,agrees_cons.mpr ⟨first,agrees⟩⟩
      | true =>
          obtain ⟨code,symbol,below,agrees⟩ := rightWay fun i => source (i + 1)
          exact ⟨true :: code,symbol,.right below,agrees_cons.mpr ⟨first,agrees⟩⟩

end CodeTree

end Desmume
