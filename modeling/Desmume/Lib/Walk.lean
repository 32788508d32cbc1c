/-
A walk over a list with an address that moves at the listed items.

The address moves by one amount before an item is visited and by another after
it.
-/

import Mathlib.Algebra.Group.Basic
import Mathlib.Data.List.FinRange
import Mathlib.Init

namespace Desmume.Walk

universe u v w

variable {Item : Type u} {Address : Type v} {State : Type w} [AddCommMonoid Address]
variable (listed : Item → Bool) (before after : Address)

def step (visit : State → Item → Address → State) (st : State × Address) (item : Item) :
    State × Address :=
  if listed item then (visit st.1 item (st.2 + before), st.2 + before + after) else st

def visits : Address → List Item → List (Item × Address)
  | _, [] => []
  | start, item :: rest =>
      if listed item then (item, start + before) :: visits (start + before + after) rest
      else visits start rest

theorem foldl_step (visit : State → Item → Address → State) (items : List Item) (st : State)
    (start : Address) :
    items.foldl (step listed before after visit) (st, start) =
      ((visits listed before after start items).foldl
          (fun st turn => visit st turn.1 turn.2) st,
        start + items.countP listed • (before + after)) := by
  induction items generalizing st start with
  | nil => rw [List.countP_nil,zero_nsmul,add_zero]; rfl
  | cons item rest ih =>
      rw [List.foldl_cons,step,visits]
      by_cases present : listed item = true
      · rw [if_pos present,if_pos present,ih,
          List.countP_cons_of_pos present,succ_nsmul',← add_assoc,← add_assoc]
        rfl
      · rw [if_neg present,if_neg present,ih,
          List.countP_cons_of_neg present]

theorem visits_eq (addr : Item → Address) (items : List Item) (start : Address)
    (turn : ∀ first item last, items = first ++ item :: last → listed item = true →
      start + first.countP listed • (before + after) + before = addr item) :
    visits listed before after start items =
      (items.filter listed).map (fun item => (item, addr item)) := by
  induction items generalizing start with
  | nil => rfl
  | cons item rest ih =>
      have later (next : Address)
          (moved : next = start + [item].countP listed • (before + after)) :
          visits listed before after next rest =
            (rest.filter listed).map (fun item => (item, addr item)) := by
        apply ih
        intro first other last split present
        rw [← turn ([item] ++ first) other last (congrArg (List.cons item) split) present,moved,
          List.countP_append,add_nsmul,add_assoc start]
      rw [visits]
      by_cases present : listed item = true
      · have here := turn [] item rest rfl present
        rw [List.countP_nil,zero_nsmul,add_zero] at here
        rw [if_pos present,List.filter_cons_of_pos present,List.map_cons,here]
        congr 1
        apply later
        have once : [item].countP listed = 1 := List.countP_cons_of_pos present
        rw [once,one_nsmul,← here,add_assoc]
      · rw [if_neg present,List.filter_cons_of_neg present]
        apply later
        have never : [item].countP listed = 0 := List.countP_cons_of_neg present
        rw [never,zero_nsmul,add_zero]

section

variable {bound : Nat} {listed : Fin bound → Bool}

theorem below_eq {below above : List (Fin bound)} {item : Fin bound}
    (split : List.finRange bound = below ++ item :: above) :
    below.map Fin.val = List.range item := by
  have values : List.range bound = below.map Fin.val ++ item.val :: above.map Fin.val := by
    rw [← List.map_cons,← List.map_append,← split,List.map_coe_finRange_eq_range]
  have pos : item.val = below.length := by
    have inside : below.length < (List.range bound).length := by
      rw [values,List.length_append,List.length_map,List.length_cons]
      omega
    have found : (List.range bound)[below.length] = item.val := by
      simp only [values,List.getElem_append_right,List.length_map,le_refl,Nat.sub_self,
        List.getElem_cons_zero]
    rw [← found,List.getElem_range]
  have start := congrArg (List.take below.length) values
  rw [List.take_range,List.take_left' (List.length_map _)] at start
  rw [← start,pos,Nat.min_eq_left]
  omega

end

end Desmume.Walk
