/-
Closed tours.

A list is a tour through its members and back to the first one; each way from a
member to the next has a cost.
-/

import Mathlib.Data.List.Rotate

namespace Desmume.Tour

universe u

variable {Place : Type u} (cost : Place → Place → Nat)

def walk : Place → List Place → Nat
  | _, [] => 0
  | here, next :: rest => cost here next + walk next rest

def tour : List Place → Nat
  | [] => 0
  | start :: rest => walk cost start (rest ++ [start])

variable {cost}

theorem walk_concat (here : Place) (places : List Place) (first second : Place) :
    walk cost here (places ++ [first,second]) =
      walk cost here (places ++ [first]) + cost first second := by
  induction places generalizing here with
  | nil => rfl
  | cons next rest ih =>
      rw [List.cons_append,List.cons_append,walk,walk,ih,Nat.add_assoc]

theorem tour_concat (start : Place) (rest : List Place) :
    tour cost (rest ++ [start]) = tour cost (start :: rest) := by
  cases rest with
  | nil => rfl
  | cons next rest =>
      have round : tour cost ((next :: rest) ++ [start]) =
          walk cost next (rest ++ [start,next]) := by
        rw [List.cons_append,tour,List.append_assoc]
        rfl
      rw [round,walk_concat,tour,List.cons_append,walk,Nat.add_comm]

theorem tour_rotate (places : List Place) (steps : Nat) :
    tour cost (places.rotate steps) = tour cost places := by
  induction steps generalizing places with
  | zero => rw [List.rotate_zero]
  | succ steps ih =>
      cases places with
      | nil => rw [List.rotate_nil]
      | cons start rest => rw [List.rotate_cons_succ,ih,tour_concat]

theorem tour_append_comm (first second : List Place) :
    tour cost (first ++ second) = tour cost (second ++ first) := by
  obtain ⟨steps,same⟩ := @List.isRotated_append _ first second
  rw [← same,tour_rotate]

section

variable (direct : ∀ first second third, cost first third ≤ cost first second + cost second third)

include direct

theorem walk_sublist {few many : List Place} (shorter : few.Sublist many) (here last : Place) :
    walk cost here (few ++ [last]) ≤ walk cost here (many ++ [last]) := by
  induction shorter generalizing here with
  | slnil => exact le_rfl
  | @cons few many skipped shorter ih =>
      have onward := ih skipped
      have first : walk cost here (few ++ [last]) ≤
          cost here skipped + walk cost skipped (few ++ [last]) := by
        cases few with
        | nil =>
            have straight := direct here skipped last
            simp only [List.nil_append,walk]
            omega
        | cons next rest =>
            have straight := direct here skipped next
            simp only [List.cons_append,walk]
            omega
      rw [List.cons_append,walk]
      omega
  | @cons_cons few many next shorter ih =>
      have onward := ih next
      rw [List.cons_append,List.cons_append,walk,walk]
      omega

theorem tour_sublist {few many : List Place} (shorter : few.Sublist many) :
    tour cost few ≤ tour cost many := by
  cases few with
  | nil => exact Nat.zero_le _
  | cons start rest =>
      -- The longer tour may start where the shorter one does.
      obtain ⟨before,after,rfl,member,rest_sublist⟩ := List.cons_sublist_iff.mp shorter
      obtain ⟨first,second,rfl⟩ := List.append_of_mem member
      have turned : tour cost (first ++ start :: second ++ after) =
          tour cost (start :: (second ++ after ++ first)) := by
        rw [List.append_assoc,tour_append_comm]
        rw [List.cons_append,List.cons_append]
      rw [turned]
      refine walk_sublist direct (rest_sublist.trans ?_) start start
      exact ((List.sublist_append_right second after).trans (List.sublist_append_left _ first))

end

def thread (stops : Place → Place → List Place) : Place → List Place → List Place
  | _, [] => []
  | here, next :: rest => stops here next ++ next :: thread stops next rest

def withStops (stops : Place → Place → List Place) : List Place → List Place
  | [] => []
  | start :: rest => thread stops start (rest ++ [start])

variable {stops : Place → Place → List Place}

theorem mem_thread {here place : Place} {places : List Place}
    (member : place ∈ thread stops here places) :
    place ∈ places ∨
      ∃ first ∈ here :: places, ∃ second ∈ here :: places, place ∈ stops first second := by
  induction places generalizing here with
  | nil => cases member
  | cons next rest ih =>
      rcases List.mem_append.mp member with stop | later
      · exact Or.inr ⟨here,List.mem_cons_self,next,
          List.mem_cons_of_mem here List.mem_cons_self,stop⟩
      · rcases List.mem_cons.mp later with rfl | later
        · exact Or.inl List.mem_cons_self
        · rcases ih later with listed | ⟨first,one,second,two,stop⟩
          · exact Or.inl (List.mem_cons_of_mem next listed)
          · exact Or.inr ⟨first,List.mem_cons_of_mem here one,second,
              List.mem_cons_of_mem here two,stop⟩

theorem mem_withStops {place : Place} {places : List Place}
    (member : place ∈ withStops stops places) :
    place ∈ places ∨ ∃ first ∈ places, ∃ second ∈ places, place ∈ stops first second := by
  cases places with
  | nil => cases member
  | cons start rest =>
      have around : ∀ other, other ∈ start :: (rest ++ [start]) → other ∈ start :: rest := by
        intro other listed
        rcases List.mem_cons.mp listed with rfl | listed
        · exact List.mem_cons_self
        · exact (List.perm_append_singleton start rest).mem_iff.mp listed
      rcases mem_thread member with listed | ⟨first,one,second,two,stop⟩
      · exact Or.inl (around place (List.mem_cons_of_mem start listed))
      · exact Or.inr ⟨first,around first one,second,around second two,stop⟩

theorem walk_append (here next : Place) (first rest : List Place) :
    walk cost here (first ++ next :: rest) =
      walk cost here (first ++ [next]) + walk cost next rest := by
  induction first generalizing here with
  | nil => rfl
  | cons place first ih =>
      rw [List.cons_append,List.cons_append,walk,walk,ih,Nat.add_assoc]

theorem walk_thread
    (onTheWay : ∀ here next, walk cost here (stops here next ++ [next]) ≤ cost here next)
    (here : Place) (places : List Place) :
    walk cost here (thread stops here places) ≤ walk cost here places := by
  induction places generalizing here with
  | nil => exact le_rfl
  | cons next rest ih =>
      rw [thread,walk_append,walk]
      exact Nat.add_le_add (onTheWay here next) (ih next)

theorem thread_concat (here last : Place) (places : List Place) :
    ∃ before, thread stops here (places ++ [last]) = before ++ [last] := by
  induction places generalizing here with
  | nil => exact ⟨stops here last,rfl⟩
  | cons next rest ih =>
      obtain ⟨before,same⟩ := ih next
      refine ⟨stops here next ++ next :: before,?_⟩
      rw [List.cons_append,thread,same,List.append_assoc]
      rfl

theorem tour_withStops
    (onTheWay : ∀ here next, walk cost here (stops here next ++ [next]) ≤ cost here next)
    (places : List Place) : tour cost (withStops stops places) ≤ tour cost places := by
  cases places with
  | nil => exact le_rfl
  | cons start rest =>
      obtain ⟨before,same⟩ := @thread_concat _ stops start start rest
      have walked := walk_thread onTheWay start (rest ++ [start])
      rw [same] at walked
      rw [withStops,same,tour_concat]
      exact walked

variable (some : Place → Bool)

theorem walk_le_countP
    (charged : ∀ here next, cost here next ≤ if some here then 1 else 0) (here last : Place)
    (places : List Place) : walk cost here (places ++ [last]) ≤ (here :: places).countP some := by
  induction places generalizing here with
  | nil =>
      rw [List.nil_append,walk,walk,List.countP_cons,List.countP_nil]
      have one := charged here last
      omega
  | cons next rest ih =>
      have one := charged here next
      have onward := ih next
      rw [List.cons_append,walk,List.countP_cons]
      omega

theorem tour_le_countP
    (charged : ∀ here next, cost here next ≤ if some here then 1 else 0) (places : List Place) :
    tour cost places ≤ places.countP some := by
  cases places with
  | nil => exact le_rfl
  | cons start rest => exact walk_le_countP some charged start start rest

theorem walk_le_countP_next
    (charged : ∀ here next, cost here next ≤ if some next then 1 else 0) (here : Place)
    (places : List Place) : walk cost here places ≤ places.countP some := by
  induction places generalizing here with
  | nil => exact le_rfl
  | cons next rest ih =>
      have one := charged here next
      have onward := ih next
      rw [walk,List.countP_cons]
      omega

theorem tour_le_countP_next
    (charged : ∀ here next, cost here next ≤ if some next then 1 else 0) (places : List Place) :
    tour cost places ≤ places.countP some := by
  cases places with
  | nil => exact le_rfl
  | cons start rest =>
      rw [← (List.perm_append_singleton start rest).countP_eq]
      exact walk_le_countP_next some charged start (rest ++ [start])

theorem walk_add {other : Place → Place → Nat} (here : Place) (places : List Place) :
    walk (fun here next => cost here next + other here next) here places =
      walk cost here places + walk other here places := by
  induction places generalizing here with
  | nil => rfl
  | cons next rest ih =>
      rw [walk,walk,walk,ih]
      omega

theorem tour_add {other : Place → Place → Nat} (places : List Place) :
    tour (fun here next => cost here next + other here next) places =
      tour cost places + tour other places := by
  cases places with
  | nil => rfl
  | cons start rest => exact walk_add start _

theorem length_thread (here : Place) (places : List Place) :
    (thread stops here places).length =
      walk (fun here next => (stops here next).length) here places + places.length := by
  induction places generalizing here with
  | nil => rfl
  | cons next rest ih =>
      rw [thread,List.length_append,List.length_cons,ih,walk,List.length_cons]
      omega

theorem length_withStops (places : List Place) :
    (withStops stops places).length =
      tour (fun here next => (stops here next).length) places + places.length := by
  cases places with
  | nil => rfl
  | cons start rest =>
      rw [withStops,length_thread,tour,List.length_append,List.length_singleton,
        List.length_cons]

end Desmume.Tour
