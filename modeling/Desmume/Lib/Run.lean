/-
Runs of a deterministic step function.

A run is a list of operations.
-/

import Mathlib

namespace Run

universe u v w

variable {State : Type u} {Op : Type v} {Event : Type w}

def final (step : State → Op → State) (st : State) (ops : List Op) : State :=
  ops.foldl step st

@[simp] theorem final_nil (step : State → Op → State) (st : State) :
    final step st [] = st := rfl

@[simp] theorem final_cons (step : State → Op → State) (st : State) (op : Op)
    (rest : List Op) :
    final step st (op :: rest) = final step (step st op) rest := rfl

theorem final_append (step : State → Op → State) (st : State) (first second : List Op) :
    final step st (first ++ second) = final step (final step st first) second :=
  List.foldl_append

variable {step : State → Op → State} {cond : State → Op → Prop} {holds : State → Prop}
  {ops : List Op} {st : State} {invariant : State → Prop}

theorem observe_final {Seen : Type w} (observe : State → Seen)
    (kept : ∀ op ∈ ops, ∀ st, observe (step st op) = observe st)
    (st : State) : observe (final step st ops) = observe st := by
  induction ops generalizing st with
  | nil => rfl
  | cons op rest ih =>
      have here := kept op List.mem_cons_self st
      have later := ih (fun other member => kept other (List.mem_cons_of_mem op member))
        (step st op)
      exact later.trans here

def Always (step : State → Op → State) (holds : State → Prop) : State → List Op → Prop
  | state, [] => holds state
  | state, op :: rest => holds state ∧ Always step holds (step state op) rest

def Guarded (step : State → Op → State) (cond : State → Op → Prop) :
    State → List Op → Prop
  | _, [] => True
  | state, op :: rest => cond state op ∧ Guarded step cond (step state op) rest

instance decidableGuarded (step : State → Op → State) (cond : State → Op → Prop)
    [∀ state op, Decidable (cond state op)] :
    ∀ state ops, Decidable (Guarded step cond state ops)
  | _, [] => isTrue trivial
  | state, op :: rest =>
      have := decidableGuarded step cond (step state op) rest
      inferInstanceAs (Decidable (cond state op ∧ _))

theorem Always.head (always : Always step holds st ops) : holds st := by
  cases ops with
  | nil => exact always
  | cons op rest => exact always.1

theorem Always.last (always : Always step holds st ops) : holds (final step st ops) := by
  induction ops generalizing st with
  | nil => exact always
  | cons op rest ih => exact ih always.2

theorem Always.mono {strong weak : State → Prop} (weaken : ∀ st, strong st → weak st)
    (always : Always step strong st ops) : Always step weak st ops := by
  induction ops generalizing st with
  | nil => exact weaken st always
  | cons op rest ih => exact ⟨weaken st always.1,ih always.2⟩

theorem guarded_append (step : State → Op → State) (cond : State → Op → Prop)
    (st : State) (first second : List Op) :
    Guarded step cond st (first ++ second) ↔
      Guarded step cond st first ∧
        Guarded step cond (final step st first) second := by
  induction first generalizing st with
  | nil => exact (and_iff_right trivial).symm
  | cons op rest ih =>
      simp only [List.cons_append,Guarded,final_cons,ih,and_assoc]

theorem guarded_and (step : State → Op → State) (first second : State → Op → Prop)
    (st : State) (ops : List Op) :
    Guarded step (fun st op => first st op ∧ second st op) st ops ↔
      Guarded step first st ops ∧ Guarded step second st ops := by
  induction ops generalizing st with
  | nil => exact (and_iff_right trivial).symm
  | cons op rest ih =>
      simp only [Guarded,ih]
      exact and_and_and_comm

theorem guarded_flatMap {Piece : Type w} (ops : Piece → List Op)
    (each : ∀ piece st, Guarded step cond st (ops piece)) (st : State)
    (pieces : List Piece) : Guarded step cond st (pieces.flatMap ops) := by
  induction pieces generalizing st with
  | nil => trivial
  | cons piece rest ih =>
      rw [List.flatMap_cons,guarded_append]
      exact ⟨each piece st,ih _⟩

theorem always_of_guarded {step : State → Op → State} {holds : State → Prop}
    {cond : State → Op → Prop} (preserved : ∀ st op, holds st → cond st op → holds (step st op))
    {st : State} {ops : List Op} (initial : holds st)
    (guarded : Guarded step cond st ops) : Always step holds st ops := by
  induction ops generalizing st with
  | nil => exact initial
  | cons op rest ih =>
      exact ⟨initial,ih (preserved st op initial guarded.1) guarded.2⟩

theorem guarded_iff_forall {cond : Op → Prop} (st : State) (ops : List Op) :
    Guarded step (fun _ op => cond op) st ops ↔ ∀ op ∈ ops, cond op := by
  induction ops generalizing st with
  | nil => exact iff_of_true trivial (fun _ member => nomatch member)
  | cons op rest ih =>
      unfold Guarded
      rw [ih,List.forall_mem_cons]

theorem guarded_of_forall (all : ∀ op ∈ ops, ∀ st, cond st op) (st : State) :
    Guarded step cond st ops := by
  induction ops generalizing st with
  | nil => trivial
  | cons op rest ih =>
      exact ⟨all op List.mem_cons_self st,
        ih (fun later member => all later (List.mem_cons_of_mem op member)) (step st op)⟩

theorem always_iff_guarded_within {allowed : State → Op → Prop}
    (kept : ∀ st op, invariant st → allowed st op → invariant (step st op))
    (exact_step : ∀ st op, invariant st → allowed st op → holds st →
      (holds (step st op) ↔ cond st op)) (sound : invariant st) (initial : holds st)
    (within : Guarded step allowed st ops) :
    Always step holds st ops ↔ Guarded step cond st ops := by
  induction ops generalizing st with
  | nil => exact iff_of_true initial trivial
  | cons op rest ih =>
      have sound_next := kept st op sound within.1
      have good := exact_step st op sound within.1 initial
      constructor
      · intro always
        have next : holds (step st op) := always.2.head
        exact ⟨good.mp next,(ih sound_next next within.2).mp always.2⟩
      · intro guarded
        have next := good.mpr guarded.1
        exact ⟨initial,(ih sound_next next within.2).mpr guarded.2⟩

theorem always_iff_guarded (kept : ∀ st op, invariant st → invariant (step st op))
    (exact_step : ∀ st op, invariant st → holds st →
      (holds (step st op) ↔ cond st op)) (sound : invariant st) (initial : holds st)
    (ops : List Op) :
    Always step holds st ops ↔ Guarded step cond st ops := by
  have within : Guarded step (fun _ _ => True) st ops :=
    (guarded_iff_forall st ops).mpr (fun _ _ => trivial)
  exact always_iff_guarded_within (fun st op sound _ => kept st op sound)
    (fun st op sound _ good => exact_step st op sound good) sound initial within

theorem guarded_iff_guarded {step : State → Op → State} {invariant : State → Prop}
    {first second : State → Op → Prop}
    (agree : ∀ st op, invariant st → (first st op ↔ second st op))
    (kept : ∀ st op, invariant st → second st op → invariant (step st op))
    {st : State} (initial : invariant st) (ops : List Op) :
    Guarded step first st ops ↔ Guarded step second st ops := by
  induction ops generalizing st with
  | nil => exact Iff.rfl
  | cons op rest ih =>
      unfold Guarded
      rw [agree st op initial]
      constructor
      · rintro ⟨here,later⟩
        exact ⟨here,(ih (kept st op initial here)).mp later⟩
      · rintro ⟨here,later⟩
        exact ⟨here,(ih (kept st op initial here)).mpr later⟩

theorem guarded_and_always (st : State) (ops : List Op) :
    (Guarded step cond st ops ∧ Always step holds st ops) ↔
      holds st ∧
        Guarded step (fun st op => cond st op ∧ holds (step st op)) st ops := by
  induction ops generalizing st with
  | nil => exact and_comm
  | cons op rest ih =>
      unfold Guarded Always
      constructor
      · rintro ⟨⟨here,later⟩,start,always⟩
        obtain ⟨next,laterHolds⟩ := (ih _).mp ⟨later,always⟩
        exact ⟨start,⟨here,next⟩,laterHolds⟩
      · rintro ⟨start,⟨here,next⟩,laterHolds⟩
        obtain ⟨later,always⟩ := (ih _).mpr ⟨next,laterHolds⟩
        exact ⟨⟨here,later⟩,start,always⟩

def logged (step : State → Op → State × List Event) (st : State) :
    List Op → State × List Event
  | [] => (st, [])
  | op :: rest =>
      let next := step st op
      let later := logged step next.1 rest
      (later.1, next.2 ++ later.2)

theorem logged_fst (step : State → Op → State × List Event) (st : State) (ops : List Op) :
    (logged step st ops).1 = final (fun st op => (step st op).1) st ops := by
  induction ops generalizing st with
  | nil => rfl
  | cons op rest ih => exact ih (step st op).1

theorem logged_append (step : State → Op → State × List Event) (st : State)
    (first second : List Op) :
    logged step st (first ++ second) =
      ((logged step (logged step st first).1 second).1,
        (logged step st first).2 ++ (logged step (logged step st first).1 second).2) := by
  induction first generalizing st with
  | nil => rfl
  | cons op rest ih =>
      simp only [List.cons_append,logged,ih,List.append_assoc]

theorem logged_snoc (step : State → Op → State × List Event) (st : State)
    (ops : List Op) (op : Op) :
    logged step st (ops ++ [op]) =
      ((step (logged step st ops).1 op).1,
        (logged step st ops).2 ++ (step (logged step st ops).1 op).2) := by
  rw [logged_append]
  simp only [logged,List.append_nil]

theorem logged_invariant {step : State → Op → State × List Event}
    {holds : State → List Event → Prop} (preserved : ∀ st log op, holds st log →
      holds (step st op).1 (log ++ (step st op).2))
    {st : State} (initial : holds st []) (ops : List Op) :
    holds (logged step st ops).1 (logged step st ops).2 := by
  induction ops using List.reverseRecOn with
  | nil => exact initial
  | append_singleton ops op ih =>
      rw [logged_snoc]
      exact preserved _ _ op ih

def traced (step : State → Op → State × List Event) (run : State × List Event) (op : Op) :
    State × List Event :=
  ((step run.1 op).1, run.2 ++ (step run.1 op).2)

@[simp] theorem traced_fst (step : State → Op → State × List Event)
    (run : State × List Event) (op : Op) : (traced step run op).1 = (step run.1 op).1 := rfl

@[simp] theorem traced_snd (step : State → Op → State × List Event)
    (run : State × List Event) (op : Op) :
    (traced step run op).2 = run.2 ++ (step run.1 op).2 := rfl

end Run
