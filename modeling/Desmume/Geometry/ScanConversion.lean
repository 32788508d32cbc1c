/-
The software rasterizer's scan conversion, `shape_engine` of
`src/source/rasterizeSOFT.cpp` with its edges, scanlines and vertex sort.
Coordinates are exact rationals, a cast to an integer cuts toward zero, and no
integer leaves its machine type on the clamped viewport.  The interpolants
reach no address and no loop bound, so the edges here carry the position only.
-/

import Mathlib.Algebra.Order.Ring.Rat
import Mathlib.Data.Fintype.EquivFin
import Mathlib.Data.Fintype.Lattice
import Mathlib.Data.List.Rotate
import Mathlib.Data.Prod.Lex

namespace Desmume.Geometry.ScanConversion

/-- The coordinates the shape engine reads of a vertex. -/
structure VERT where
  x : ℚ
  y : ℚ

def trunc (val : ℚ) : ℤ :=
  val.num.tdiv val.den

variable (Numerator : ℤ) (n : ℕ)

def FloorDivMod (Denominator : ℤ) : Option (ℤ × ℤ) :=
  if Denominator ≤ 0 then none
  else if 0 ≤ Numerator then some (Numerator.tdiv Denominator, Numerator.tmod Denominator)
  else
    let Floor := -(-Numerator).tdiv Denominator
    let Mod := (-Numerator).tmod Denominator
    if Mod ≠ 0 then some (Floor - 1, Denominator - Mod) else some (Floor, Mod)

def Ceil28_4 (Value : ℤ) : ℤ :=
  let Numerator := Value - 17
  if 0 ≤ Numerator then Numerator.tdiv 16
  else -(-Numerator).tdiv 16 - if (-Numerator).tmod 16 ≠ 0 then 1 else 0

structure edge_fx_fl where
  X : ℤ
  XStep : ℤ
  Numerator : ℤ
  Denominator : ℤ
  ErrorTerm : ℤ
  Y : ℤ
  Height : ℤ

def edge_fx_fl.make (Top Bottom : VERT) : Option edge_fx_fl := do
  let Y := Ceil28_4 (trunc Top.y)
  let Height := Ceil28_4 (trunc Bottom.y) - Y
  let X := Ceil28_4 (trunc Top.x)
  let Width := Ceil28_4 (trunc Bottom.x) - X
  if Height ≠ 0 ∨ Width ≠ 0 then
    let dN := trunc (Bottom.y - Top.y)
    let dM := trunc (Bottom.x - Top.x)
    if dN ≠ 0 then
      let dN_mul := dN * 16
      let dM_mul := dM * 16
      let InitialNumerator := trunc (dM_mul * Y - dM * Top.y + dN * Top.x - 1 + dN_mul)
      let (X, ErrorTerm) ← FloorDivMod InitialNumerator dN_mul
      let (XStep, Numerator) ← FloorDivMod dM_mul dN_mul
      return ⟨X,XStep,Numerator,dN_mul,ErrorTerm,Y,Height⟩
    else return ⟨X,Width,0,1,0,Y,Height⟩
  else return ⟨X,1,0,1,0,Y,Height⟩

def edge_fx_fl.Step (edge : edge_fx_fl) : edge_fx_fl :=
  let ErrorTerm := edge.ErrorTerm + edge.Numerator
  let wraps := edge.Denominator ≤ ErrorTerm
  { edge with
    X := edge.X + edge.XStep + if wraps then 1 else 0
    Y := edge.Y + 1
    Height := edge.Height - 1
    ErrorTerm := if wraps then ErrorTerm - edge.Denominator else ErrorTerm }

/-- The addresses one scanline sends to `pixel`. -/
def drawscanline (pLeft pRight : edge_fx_fl) : List ℤ :=
  let XStart := pLeft.X
  let width := pRight.X - XStart
  let adr := pLeft.Y * 256 + XStart
  if pLeft.Y < 0 ∨ 191 < pLeft.Y then []
  else if XStart < 0 then []
  else if 256 < XStart + width then []
  else (List.range width.toNat).map fun off : ℕ => adr + off

/-- The passes of the scanline loop; `draw` is the test of the thread's own rows. -/
def scanlines (draw : ℤ → Bool) :
    ℕ → edge_fx_fl → edge_fx_fl → List ℤ × edge_fx_fl × edge_fx_fl
  | 0, left, right => ([], left, right)
  | Height + 1, left, right =>
      let rest := scanlines draw Height left.Step right.Step
      ((if draw left.Y then drawscanline left right else []) ++ rest.1, rest.2)

/-- The loop `while(Height--)`: from a negative height it does not come down to zero. -/
def runscanlines (draw : ℤ → Bool) (left right : edge_fx_fl) :
    Option (List ℤ × edge_fx_fl × edge_fx_fl) :=
  let Height := min left.Height right.Height
  if Height < 0 then none else some (scanlines draw Height.toNat left right)

def rot_verts : List VERT → List VERT
  | [] => []
  | first :: rest => rest ++ [first]

def topmost : List VERT → Bool
  | [] => true
  | first :: rest => rest.all fun other => decide (first.y ≤ other.y)

def ties : List VERT → Bool
  | first :: second :: _ => decide (first.y = second.y ∧ second.x < first.x)
  | _ => false

def rotate_until (stop : List VERT → Bool) : ℕ → List VERT → Option (List VERT)
  | 0, _ => none
  | fuel + 1, verts => if stop verts then some verts else rotate_until stop fuel (rot_verts verts)

def sort_verts (verts : List VERT) (backwards : Bool) : Option (List VERT) := do
  let verts := if backwards then verts.reverse else verts
  let verts ← rotate_until topmost verts.length verts
  rotate_until (fun verts => !ties verts) verts.length verts

/-- The edge of a side: a new one between two vertices that exist, or the one it holds. -/
def new_edge (verts : List VERT) (step : Bool) (Top Bottom : ℕ) (edge : edge_fx_fl) :
    Option (Option edge_fx_fl) :=
  if step then do
    let top ← verts[Top]?
    let bottom ← verts[Bottom]?
    return edge_fx_fl.make top bottom
  else some (some edge)

/-- The walk down both sides, within so many rounds: the addresses drawn, or `none` where it
reads a vertex that does not exist, starts a negative height or does not stop. -/
def walk (draw : ℤ → Bool) (verts : List VERT) :
    ℕ → ℕ → ℕ → edge_fx_fl → edge_fx_fl → Bool → Bool → Option (List ℤ)
  | 0, _, _, _, _, _, _ => none
  | _ + 1, 0, _, _, _, _, _ => none
  | fuel + 1, below + 1, rv, left, right, step_left, step_right => do
      let top := if below + 1 = verts.length then 0 else below + 1
      let left ← new_edge verts step_left top below left
      let right ← new_edge verts step_right rv (rv + 1) right
      match left, right with
      | some left, some right => do
          let (drawn, left, right) ← runscanlines draw left right
          let step_right := decide (right.Height = 0)
          let step_left := decide (left.Height = 0)
          let rv := if step_right then rv + 1 else rv
          let lv := if step_left then below else below + 1
          if lv ≤ rv + 1 then return drawn
          let rest ← walk draw verts fuel lv rv left right step_left step_right
          return drawn ++ rest
      | _, _ => return []

def shape_engine (draw : ℤ → Bool) (verts : List VERT) (backwards : Bool) :
    Option (List ℤ) := do
  if verts.length < 3 ∨ 10 < verts.length then return []
  let verts ← sort_verts verts backwards
  let edge : edge_fx_fl := ⟨0,0,0,0,0,0,0⟩
  walk draw verts verts.length verts.length 0 edge edge true true

/-- The scanline and the column a vertex falls on. -/
def row (vertex : VERT) : ℤ := Ceil28_4 (trunc vertex.y)

def column (vertex : VERT) : ℤ := Ceil28_4 (trunc vertex.x)

def Fails (Top Bottom : VERT) : Prop :=
  (row Top ≠ row Bottom ∨ column Top ≠ column Bottom) ∧ trunc (Bottom.y - Top.y) < 0

/-- A leading order begins with a topmost vertex that no neighbour ties from the left. -/
def Leads (verts : List VERT) : Prop :=
  topmost verts = true ∧ ties verts = false

/-- The first rotation of a polygon that leads. -/
def LeadingOrder (verts order : List VERT) : Prop :=
  ∃ turns, order = verts.rotate turns ∧ Leads order ∧
    ∀ earlier < turns, ¬ Leads (verts.rotate earlier)

def corner (verts : List VERT) (i : ℕ) : VERT :=
  verts.getD (i % verts.length) ⟨0,0⟩

/-- Both chains run down the rows until they meet or an edge fails in its set-up.  The chain
whose edge ends on the higher row goes on to its next corner, both where the rows agree. -/
def Descends (verts : List VERT) : ℕ → ℕ → ℕ → Prop
  | 0, _, _ => True
  | gap + 1, lv, rv =>
      lv ≤ rv + 1 ∨
      Fails (corner verts lv) (corner verts (lv - 1)) ∨
      Fails (corner verts rv) (corner verts (rv + 1)) ∨
      row (corner verts lv) ≤ row (corner verts (lv - 1)) ∧
      row (corner verts rv) ≤ row (corner verts (rv + 1)) ∧
      Descends verts gap
        (if row (corner verts (lv - 1)) ≤ row (corner verts (rv + 1)) then lv - 1 else lv)
        (if row (corner verts (rv + 1)) ≤ row (corner verts (lv - 1)) then rv + 1 else rv)

variable {draw : ℤ → Bool} {verts : List VERT} {Top Bottom : VERT} {edge : edge_fx_fl}

theorem rot_verts_eq_rotate (verts : List VERT) : rot_verts verts = verts.rotate 1 := by
  cases verts with
  | nil => rfl
  | cons first rest => simp [rot_verts]

/-- The rotation loop stops at the first rotation that passes its test. -/
theorem rotate_until_first {stop : List VERT → Bool} {fuel turns : ℕ}
    (stops : stop (verts.rotate turns) = true)
    (first : ∀ earlier < turns, stop (verts.rotate earlier) = false) (within : turns < fuel) :
    rotate_until stop fuel verts = some (verts.rotate turns) := by
  induction turns generalizing verts fuel with
  | zero =>
      obtain ⟨rest,rfl⟩ : ∃ rest, fuel = rest + 1 := ⟨fuel - 1,by omega⟩
      rw [List.rotate_zero] at stops ⊢
      rw [rotate_until,if_pos stops]
  | succ turns ih =>
      obtain ⟨rest,rfl⟩ : ∃ rest, fuel = rest + 1 := ⟨fuel - 1,by omega⟩
      have now := first 0 (by omega)
      rw [List.rotate_zero] at now
      rw [rotate_until,now,if_neg Bool.false_ne_true,rot_verts_eq_rotate]
      have turned : ∀ n, (verts.rotate 1).rotate n = verts.rotate (n + 1) := by
        intro n
        rw [List.rotate_rotate,Nat.add_comm]
      rw [← turned turns] at stops ⊢
      apply ih stops _ (by omega)
      intro earlier below
      rw [turned earlier]
      exact first (earlier + 1) (by omega)

/-- Where the first two vertices tie, the next order is topmost with the first. -/
theorem topmost_rotate_of_ties (top : topmost verts = true) (tie : ties verts = true) :
    topmost (verts.rotate 1) = true := by
  match verts with
  | [] => exact top
  | [first] => rw [List.rotate_singleton]; exact top
  | first :: second :: rest =>
      simp only [ties,decide_eq_true_eq] at tie
      simp only [topmost,List.all_eq_true,decide_eq_true_eq,List.rotate_cons_succ,
        List.rotate_zero,List.cons_append] at top ⊢
      intro other member
      rw [← tie.1]
      simp only [List.mem_append,List.mem_cons,List.not_mem_nil,or_false] at member
      rcases member with later | rfl
      · exact top other (List.mem_cons_of_mem _ later)
      · exact le_refl _

/-- Some rotation of a polygon leads: the one that begins at its leftmost topmost vertex. -/
theorem exists_leads (nonempty : verts ≠ []) :
    ∃ turns < verts.length, Leads (verts.rotate turns) := by
  have positive := List.length_pos_iff.mpr nonempty
  have : Nonempty (Fin verts.length) := ⟨⟨0,positive⟩⟩
  obtain ⟨lead,least⟩ := Finite.exists_min fun i : Fin verts.length =>
    toLex (verts[i].y, verts[i].x)
  have leftmost : ∀ other ∈ verts, verts[lead].y < other.y ∨
      verts[lead].y = other.y ∧ verts[lead].x ≤ other.x := by
    intro other member
    obtain ⟨i,below,rfl⟩ := List.mem_iff_getElem.mp member
    exact (Prod.Lex.toLex_le_toLex).mp (least ⟨i,below⟩)
  obtain ⟨rest,order⟩ : ∃ rest, verts.rotate lead = verts[lead] :: rest := by
    apply List.head?_eq_some_iff.mp
    rw [List.head?_rotate lead.isLt]
    exact List.getElem?_eq_getElem lead.isLt
  have inside : ∀ other ∈ rest, other ∈ verts := by
    intro other member
    rw [← List.mem_rotate (n := lead),order]
    exact List.mem_cons_of_mem _ member
  refine ⟨lead,lead.isLt,?_,?_⟩
  · simp only [order,topmost,List.all_eq_true,decide_eq_true_eq]
    intro other member
    rcases leftmost other (inside other member) with above | beside
    · exact above.le
    · exact beside.1.le
  · rw [order]
    match rest with
    | [] => rfl
    | second :: rest =>
        simp only [ties,decide_eq_false_iff_not,not_and,not_lt]
        intro level
        rcases leftmost second (inside second List.mem_cons_self) with above | beside
        · exact absurd level above.ne
        · exact beside.2

theorem exists_first (holds : ℕ → Prop) {bound : ℕ} (found : ∃ n < bound, holds n) :
    ∃ n < bound, holds n ∧ ∀ earlier < n, ¬ holds earlier := by
  classical
  obtain ⟨n,below,here⟩ := found
  exact ⟨Nat.find ⟨n,here⟩,(Nat.find_min' ⟨n,here⟩ here).trans_lt below,
    Nat.find_spec ⟨n,here⟩,fun earlier => Nat.find_min ⟨n,here⟩⟩

/-- The sort returns, and what it returns is the leading order: the first loop stops at the
first topmost rotation, and up to the leading one the second loop only follows ties. -/
theorem sort_verts_leads (nonempty : verts ≠ []) (backwards : Bool) :
    ∃ order, sort_verts verts backwards = some order ∧
      LeadingOrder (if backwards then verts.reverse else verts) order := by
  obtain ⟨base,wound⟩ : ∃ base, base = if backwards then verts.reverse else verts := ⟨_,rfl⟩
  have filled : base ≠ [] := by cases backwards <;> simp [wound,nonempty]
  obtain ⟨lead,leadBelow,leads,firstLead⟩ := exists_first _ (exists_leads filled)
  obtain ⟨top,topBelow,topHolds,firstTop⟩ := exists_first
    (fun turns => topmost (base.rotate turns) = true) ⟨lead,leadBelow,leads.1⟩
  have topLead : top ≤ lead := not_lt.mp fun before => firstTop lead before leads.1
  have reached : (base.rotate top).rotate (lead - top) = base.rotate lead := by
    rw [List.rotate_rotate,Nat.add_sub_cancel' topLead]
  obtain ⟨free,freeBelow,freeHolds,firstFree⟩ := exists_first
    (fun turns => ties ((base.rotate top).rotate turns) = false)
    ⟨lead - top,Nat.lt_succ_self _,by rw [reached]; exact leads.2⟩
  have level : ∀ turns ≤ free, topmost ((base.rotate top).rotate turns) = true := by
    intro turns within
    induction turns with
    | zero => rw [List.rotate_zero]; exact topHolds
    | succ turns ih =>
        rw [← List.rotate_rotate]
        apply topmost_rotate_of_ties (ih (by omega))
        exact Bool.not_eq_false _ |>.mp (firstFree turns (by omega))
  have meets : top + free = lead := by
    have notBefore := firstLead (top + free)
    rw [← List.rotate_rotate] at notBefore
    have after : ¬ top + free < lead := fun before =>
      notBefore before ⟨level free (le_refl _),freeHolds⟩
    omega
  have risen : rotate_until topmost base.length base = some (base.rotate top) :=
    rotate_until_first topHolds
      (fun turns before => Bool.not_eq_true _ |>.mp (firstTop turns before)) topBelow
  have freed : rotate_until (fun verts => !ties verts) (base.rotate top).length
      (base.rotate top) = some (base.rotate lead) := by
    rw [← meets,← List.rotate_rotate]
    apply rotate_until_first
    · rw [freeHolds,Bool.not_false]
    · intro turns before
      rw [Bool.not_eq_false _ |>.mp (firstFree turns before),Bool.not_true]
    · rw [List.length_rotate]
      omega
  refine ⟨base.rotate lead,?_,by rw [← wound]; exact ⟨lead,rfl,leads,firstLead⟩⟩
  rw [sort_verts,← wound,Option.bind_eq_bind,risen,Option.bind_some,freed]

/-- A polygon has at most one leading order. -/
theorem LeadingOrder.unique {order other : List VERT} (leading : LeadingOrder verts order)
    (also : LeadingOrder verts other) : order = other := by
  obtain ⟨turns,rfl,leads,first⟩ := leading
  obtain ⟨turns',rfl,leads',first'⟩ := also
  rcases lt_trichotomy turns turns' with before | rfl | after
  · exact absurd leads (first' turns before)
  · rfl
  · exact absurd leads' (first turns' after)

/-! ### Every address lies in the frame -/

theorem drawscanline_inside (left right : edge_fx_fl) :
    ∀ adr ∈ drawscanline left right, 0 ≤ adr ∧ adr < 256 * 192 := by
  intro adr member
  simp only [drawscanline] at member
  split at member
  · cases member
  · split at member
    · cases member
    · split at member
      · cases member
      · obtain ⟨off,inside,rfl⟩ := List.mem_map.mp member
        rw [List.mem_range] at inside
        omega

theorem scanlines_inside (left right : edge_fx_fl) :
    ∀ adr ∈ (scanlines draw n left right).1, 0 ≤ adr ∧ adr < 256 * 192 := by
  induction n generalizing left right with
  | zero => simp [scanlines]
  | succ n ih =>
      intro adr member
      simp only [scanlines,List.mem_append] at member
      rcases member with here | later
      · split at here
        · exact drawscanline_inside left right adr here
        · cases here
      · exact ih _ _ adr later

variable {right left : edge_fx_fl} {y : ℤ}

theorem runscanlines_inside {drawn : List ℤ}
    {edges : edge_fx_fl × edge_fx_fl} (ran : runscanlines draw left right = some (drawn, edges)) :
    ∀ adr ∈ drawn, 0 ≤ adr ∧ adr < 256 * 192 := by
  simp only [runscanlines] at ran
  split_ifs at ran
  obtain rfl : _ = drawn := congrArg Prod.fst (Option.some.inj ran)
  exact scanlines_inside _ _ _

/-- The edge a side uses in a round: a new one, or the one it holds. -/
def current (Top Bottom : VERT) (edge : edge_fx_fl) (step : Bool) : Option edge_fx_fl :=
  if step then edge_fx_fl.make Top Bottom else some edge

/-- What a side brings to a round at a scanline: a corner to start from, or a part of an edge. -/
def Standing (y : ℤ) (Top Bottom : VERT) (edge : edge_fx_fl) (step : Bool) : Prop :=
  if step then row Top = y
  else edge.Y = y ∧ edge.Y + edge.Height = row Bottom ∧ 0 ≤ edge.Height ∧
    row Top ≤ row Bottom ∧ ¬ Fails Top Bottom

theorem FloorDivMod_fails {Denominator : ℤ} (low : Denominator ≤ 0) :
    FloorDivMod Numerator Denominator = none := by
  rw [FloorDivMod,if_pos low]

theorem FloorDivMod_divides {Denominator : ℤ} (positive : ¬ Denominator ≤ 0) :
    ∃ res, FloorDivMod Numerator Denominator = some res := by
  simp only [FloorDivMod,if_neg positive]
  split_ifs
  · exact ⟨_,rfl⟩
  · exact ⟨_,rfl⟩
  · exact ⟨_,rfl⟩

theorem make_eq_none (Top Bottom : VERT) :
    edge_fx_fl.make Top Bottom = none ↔ Fails Top Bottom := by
  have wide : (row Bottom - row Top ≠ 0 ∨ column Bottom - column Top ≠ 0) ↔
      (row Top ≠ row Bottom ∨ column Top ≠ column Bottom) := by
    omega
  rw [Fails,← wide,edge_fx_fl.make]
  simp only [row,column]
  by_cases sloped : Ceil28_4 (trunc Bottom.y) - Ceil28_4 (trunc Top.y) ≠ 0 ∨
      Ceil28_4 (trunc Bottom.x) - Ceil28_4 (trunc Top.x) ≠ 0
  · simp only [sloped,if_true,true_and]
    by_cases level : trunc (Bottom.y - Top.y) = 0
    · simp [level]
    · simp only [ne_eq,level,not_false_eq_true,if_true]
      by_cases up : trunc (Bottom.y - Top.y) * 16 ≤ 0
      · rw [FloorDivMod_fails _ up]
        exact iff_of_true rfl (by omega)
      · obtain ⟨pos,positioned⟩ := FloorDivMod_divides (trunc
          ((trunc (Bottom.x - Top.x) * 16 : ℤ) * Ceil28_4 (trunc Top.y) -
            trunc (Bottom.x - Top.x) * Top.y + trunc (Bottom.y - Top.y) * Top.x - 1 +
            (trunc (Bottom.y - Top.y) * 16 : ℤ))) up
        obtain ⟨slope,sloping⟩ := FloorDivMod_divides (trunc (Bottom.x - Top.x) * 16) up
        rw [positioned,sloping]
        exact iff_of_false (Option.some_ne_none _) (by omega)
  · simp only [sloped,if_false,false_and]
    exact iff_of_false (Option.some_ne_none _) not_false

theorem make_rows (made : edge_fx_fl.make Top Bottom = some edge) :
    edge.Y = row Top ∧ edge.Y + edge.Height = row Bottom := by
  simp only [edge_fx_fl.make] at made
  split_ifs at made
  · simp only [Option.bind_eq_bind,Option.bind_eq_some_iff] at made
    obtain ⟨pos,_,slope,_,made⟩ := made
    cases made
    exact ⟨rfl,by simp [row]⟩
  · cases made
    exact ⟨rfl,by simp [row]⟩
  · cases made
    exact ⟨rfl,by simp [row]⟩

theorem current_rows {step : Bool} {now : edge_fx_fl} (standing : Standing y Top Bottom edge step)
    (used : current Top Bottom edge step = some now) :
    now.Y = y ∧ now.Y + now.Height = row Bottom ∧ ¬ Fails Top Bottom ∧
      (0 ≤ now.Height ↔ row Top ≤ row Bottom) := by
  cases step with
  | true =>
      simp only [Standing,current,if_true] at standing used
      have rows := make_rows used
      refine ⟨rows.1.trans standing,rows.2,?_,by omega⟩
      rw [← make_eq_none,used]
      exact Option.some_ne_none now
  | false =>
      simp only [Standing,current,Bool.false_eq_true,if_false,Option.some.injEq]
        at standing used
      subst used
      obtain ⟨level,ends,height,downward,sound⟩ := standing
      exact ⟨level,ends,sound,iff_of_true height downward⟩

theorem current_eq_none {step : Bool} (standing : Standing y Top Bottom edge step) :
    current Top Bottom edge step = none ↔ Fails Top Bottom := by
  cases step with
  | true => exact make_eq_none Top Bottom
  | false =>
      simp only [Standing,current,Bool.false_eq_true,if_false,reduceCtorEq,false_iff]
        at standing ⊢
      exact standing.2.2.2.2

theorem scanlines_edges (left right : edge_fx_fl) :
    (scanlines draw n left right).2 =
      (edge_fx_fl.Step^[n] left, edge_fx_fl.Step^[n] right) := by
  induction n generalizing left right with
  | zero => rfl
  | succ n ih => exact ih _ _

theorem runscanlines_runs {n : ℕ} (counted : min left.Height right.Height = n) :
    runscanlines draw left right = some ((scanlines draw n left right).1,
      edge_fx_fl.Step^[n] left, edge_fx_fl.Step^[n] right) := by
  rw [runscanlines,counted,if_neg (by omega : ¬ (n : ℤ) < 0),Int.toNat_natCast,
    ← scanlines_edges]

theorem step_iterate (edge : edge_fx_fl) :
    (edge_fx_fl.Step^[n] edge).Y = edge.Y + n ∧
      (edge_fx_fl.Step^[n] edge).Height = edge.Height - n := by
  induction n generalizing edge with
  | zero => simp
  | succ n ih =>
      rw [Function.iterate_succ_apply]
      have rest := ih edge.Step
      have once : edge.Step.Y = edge.Y + 1 ∧ edge.Step.Height = edge.Height - 1 := ⟨rfl,rfl⟩
      push_cast
      omega

/-- After a round a side stands at its next corner, or still on its edge. -/
theorem standing_after {n : ℕ} (Next : VERT) (level : edge.Y = y)
    (ends : edge.Y + edge.Height = row Bottom) (downward : row Top ≤ row Bottom)
    (sound : ¬ Fails Top Bottom) (within : (n : ℤ) ≤ edge.Height) :
    let moved := decide ((edge_fx_fl.Step^[n] edge).Height = 0)
    (moved = true ↔ row Bottom = y + n) ∧
      Standing (y + n) (if moved then Bottom else Top) (if moved then Next else Bottom)
        (edge_fx_fl.Step^[n] edge) moved := by
  obtain ⟨newY,newHeight⟩ := step_iterate n edge
  intro moved
  by_cases finished : (edge_fx_fl.Step^[n] edge).Height = 0
  · have isMoved : moved = true := decide_eq_true finished
    rw [isMoved]
    refine ⟨iff_of_true rfl (by omega),?_⟩
    change row Bottom = _
    omega
  · have isHeld : moved = false := decide_eq_false finished
    rw [isHeld]
    refine ⟨iff_of_false Bool.false_ne_true (by omega),?_⟩
    change _ = _ ∧ _ + _ = row Bottom ∧ _
    exact ⟨by omega,by omega,by omega,downward,sound⟩

theorem corner_of_lt {i : ℕ} (inside : i < verts.length) : verts[i]? = some (corner verts i) := by
  simp [corner,Nat.mod_eq_of_lt inside,inside]

theorem corner_wraps {i : ℕ} (inside : i ≤ verts.length) (some : 0 < verts.length) :
    verts[if i = verts.length then 0 else i]? = .some (corner verts i) := by
  by_cases around : i = verts.length
  · rw [if_pos around,corner_of_lt some,corner,corner,around,Nat.mod_self,Nat.zero_mod]
  · rw [if_neg around,corner_of_lt (by omega)]

/-- A side's edge of the round lies between two vertices that exist. -/
theorem edge_current {Top Bottom : ℕ} (edge : edge_fx_fl) (step : Bool) {top bottom : VERT}
    (above : verts[Top]? = some top) (below : verts[Bottom]? = some bottom) :
    new_edge verts step Top Bottom edge = some (current top bottom edge step) := by
  cases step with
  | true => simp [new_edge,above,below,current]
  | false => rfl

theorem descends_met {lv rv : ℕ} (met : lv ≤ rv + 1) (gap : ℕ) : Descends verts gap lv rv := by
  cases gap with
  | zero => trivial
  | succ gap => exact Or.inl met

theorem isSome_bind_pure {α β : Type} (res : Option α) (change : α → β) :
    (res.bind fun val => pure (change val)).isSome = res.isSome := by
  cases res <;> rfl

theorem walk_iff {fuel lv rv : ℕ} {left right : edge_fx_fl} {step_left step_right : Bool} {y : ℤ}
    (inside : lv ≤ verts.length) (apart : rv + 1 < lv) (enough : lv ≤ rv + 1 + fuel)
    (onLeft : Standing y (corner verts lv) (corner verts (lv - 1)) left step_left)
    (onRight : Standing y (corner verts rv) (corner verts (rv + 1)) right step_right) :
    (walk draw verts fuel lv rv left right step_left step_right).isSome ↔
      Descends verts fuel lv rv := by
  induction fuel generalizing lv rv left right step_left step_right y with
  | zero => omega
  | succ fuel ih =>
      obtain ⟨below,rfl⟩ : ∃ below, lv = below + 1 := ⟨lv - 1,by omega⟩
      rw [Nat.add_sub_cancel] at onLeft
      simp only [walk,Descends,Nat.add_sub_cancel]
      rw [edge_current left step_left (corner_wraps inside (by omega)) (corner_of_lt (by omega)),
        edge_current right step_right (corner_of_lt (by omega)) (corner_of_lt (by omega))]
      simp only [Option.bind_eq_bind,Option.bind_some]
      have noLeft := current_eq_none onLeft
      have noRight := current_eq_none onRight
      rcases leftEdge : current (corner verts (below + 1)) (corner verts below) left step_left
        with _ | leftNow
      · exact iff_of_true rfl (Or.inr (Or.inl (noLeft.mp leftEdge)))
      rcases rightEdge : current (corner verts rv) (corner verts (rv + 1)) right step_right
        with _ | rightNow
      · exact iff_of_true rfl (Or.inr (Or.inr (Or.inl (noRight.mp rightEdge))))
      obtain ⟨leftY,leftEnds,leftSound,leftDown⟩ := current_rows onLeft leftEdge
      obtain ⟨rightY,rightEnds,rightSound,rightDown⟩ := current_rows onRight rightEdge
      by_cases negative : min leftNow.Height rightNow.Height < 0
      · simp only [runscanlines,negative,if_true,Option.bind_none]
        refine iff_of_false Bool.false_ne_true ?_
        rintro (met | fails | fails | ⟨leftward,rightward,_⟩)
        · omega
        · exact leftSound fails
        · exact rightSound fails
        · rw [← leftDown] at leftward
          rw [← rightDown] at rightward
          omega
      obtain ⟨n,counted⟩ : ∃ n : ℕ, min leftNow.Height rightNow.Height = n :=
        ⟨_,(Int.toNat_of_nonneg (not_lt.mp negative)).symm⟩
      have leftHeight : (0 : ℤ) ≤ leftNow.Height := by omega
      have rightHeight : (0 : ℤ) ≤ rightNow.Height := by omega
      have leftAfter := standing_after (corner verts (below - 1)) leftY leftEnds
        (leftDown.mp leftHeight) leftSound (by omega : (n : ℤ) ≤ _)
      have rightAfter := standing_after (corner verts (rv + 1 + 1)) rightY rightEnds
        (rightDown.mp rightHeight) rightSound (by omega : (n : ℤ) ≤ _)
      have leftMoves := leftAfter.1.trans
        (show _ ↔ row (corner verts below) ≤ row (corner verts (rv + 1)) by omega)
      have rightMoves := rightAfter.1.trans
        (show _ ↔ row (corner verts (rv + 1)) ≤ row (corner verts below) by omega)
      have leftNext := leftAfter.2
      have rightNext := rightAfter.2
      simp only [leftMoves] at leftNext
      simp only [rightMoves] at rightNext
      simp only [runscanlines_runs counted,Option.bind_some,leftMoves,rightMoves]
      obtain ⟨lv,lvNext⟩ : ∃ lv, lv = if row (corner verts below) ≤ row (corner verts (rv + 1))
        then below else below + 1 := ⟨_,rfl⟩
      obtain ⟨rv',rvNext⟩ : ∃ rv', rv' = if row (corner verts (rv + 1)) ≤ row (corner verts below)
        then rv + 1 else rv := ⟨_,rfl⟩
      have leftStanding : Standing (y + n) (corner verts lv) (corner verts (lv - 1))
          (edge_fx_fl.Step^[n] leftNow)
          (decide ((edge_fx_fl.Step^[n] leftNow).Height = 0)) := by
        rw [lvNext]
        split_ifs at leftNext ⊢ <;> exact leftNext
      have rightStanding : Standing (y + n) (corner verts rv') (corner verts (rv' + 1))
          (edge_fx_fl.Step^[n] rightNow)
          (decide ((edge_fx_fl.Step^[n] rightNow).Height = 0)) := by
        rw [rvNext]
        split_ifs at rightNext ⊢ <;> exact rightNext
      have advanced : lv ≤ below + 1 ∧ rv ≤ rv' ∧ lv + rv < below + 1 + rv' := by
        split_ifs at lvNext rvNext <;> omega
      rw [← lvNext,← rvNext]
      by_cases met : lv ≤ rv' + 1
      · rw [if_pos met]
        exact iff_of_true rfl (Or.inr (Or.inr (Or.inr
          ⟨leftDown.mp leftHeight,rightDown.mp rightHeight,descends_met met fuel⟩)))
      · have rest := ih (by omega) (by omega) (by omega) leftStanding
          rightStanding
        rw [if_neg met,isSome_bind_pure,rest]
        constructor
        · intro descends
          exact Or.inr (Or.inr (Or.inr
            ⟨leftDown.mp leftHeight,rightDown.mp rightHeight,descends⟩))
        · rintro (met | fails | fails | ⟨_,_,descends⟩)
          · omega
          · exact absurd fails leftSound
          · exact absurd fails rightSound
          · exact descends

theorem walk_inside {fuel lv rv : ℕ} {step_left step_right : Bool} {pixels : List ℤ}
    (drawn : walk draw verts fuel lv rv left right step_left step_right = some pixels) :
    ∀ adr ∈ pixels, 0 ≤ adr ∧ adr < 256 * 192 := by
  induction fuel generalizing lv rv left right step_left step_right pixels with
  | zero => cases drawn
  | succ fuel ih =>
      cases lv with
      | zero => cases drawn
      | succ below =>
          simp only [walk,Option.bind_eq_bind,Option.bind_eq_some_iff] at drawn
          obtain ⟨left,_,right,_,drawn⟩ := drawn
          split at drawn
          · obtain ⟨⟨here,edges⟩,ran,drawn⟩ := Option.bind_eq_some_iff.mp drawn
            have first := runscanlines_inside ran
            generalize (if decide (edges.1.Height = 0) = true then below else below + 1) = lv
              at drawn
            generalize (if decide (edges.2.Height = 0) = true then rv + 1 else rv) = rv at drawn
            split at drawn
            · cases drawn
              exact first
            · obtain ⟨later,walked,joined⟩ := Option.bind_eq_some_iff.mp drawn
              cases joined
              intro adr member
              rcases List.mem_append.mp member with early | late
              · exact first adr early
              · exact ih walked adr late
          · cases drawn
            intro adr member
            cases member

/-- For every polygon of 3 to 10 vertices, `shape_engine` returns, with edges between existing
vertices, no negative height and every address in the frame, exactly where both chains of the
polygon's leading order descend until they meet or an edge fails in its set-up. -/
theorem scan_conversion_iff (draw : ℤ → Bool) (verts : List VERT) (backwards : Bool)
    (three : 3 ≤ verts.length) (ten : verts.length ≤ 10) :
    (∃ pixels, shape_engine draw verts backwards = some pixels ∧
        ∀ adr ∈ pixels, 0 ≤ adr ∧ adr < 256 * 192) ↔
      ∃ order, LeadingOrder (if backwards then verts.reverse else verts) order ∧
        Descends order order.length order.length 0 := by
  have nonempty : verts ≠ [] := List.length_pos_iff.mp (by omega)
  obtain ⟨order,sorted,leading⟩ := sort_verts_leads nonempty backwards
  have size : order.length = verts.length := by
    obtain ⟨turns,rfl,_⟩ := leading
    cases backwards <;> simp
  simp only [shape_engine,sorted,Option.bind_eq_bind,Option.bind_some,
    if_neg (show ¬ (verts.length < 3 ∨ 10 < verts.length) by omega)]
  have onCorner : Standing (row (corner order 0)) (corner order order.length)
      (corner order (order.length - 1)) ⟨0,0,0,0,0,0,0⟩ true := by
    change row (corner order order.length) = _
    rw [corner,corner,Nat.mod_self,Nat.zero_mod]
  have atStart : Standing (row (corner order 0)) (corner order 0) (corner order (0 + 1))
      ⟨0,0,0,0,0,0,0⟩ true := rfl
  have walked := @walk_iff draw order order.length order.length 0 _ _ _ _ _ (le_refl _)
    (by omega) (by omega) onCorner atStart
  constructor
  · rintro ⟨pixels,drawn,_⟩
    exact ⟨order,leading,walked.mp (Option.isSome_iff_exists.mpr ⟨pixels,drawn⟩)⟩
  · rintro ⟨other,also,descends⟩
    obtain rfl := also.unique leading
    obtain ⟨pixels,drawn⟩ := Option.isSome_iff_exists.mp (walked.mpr descends)
    exact ⟨pixels,drawn,walk_inside drawn⟩

/-- A triangle with one level side. -/
theorem scan_conversion_iff_triangle :
    (∃ pixels, shape_engine (fun _ => true) [⟨0,0⟩,⟨64,0⟩,⟨0,64⟩] false = some pixels ∧
        ∀ adr ∈ pixels, 0 ≤ adr ∧ adr < 256 * 192) ↔
      ∃ order, LeadingOrder [⟨0,0⟩,⟨64,0⟩,⟨0,64⟩] order ∧
        Descends order order.length order.length 0 :=
  scan_conversion_iff (fun _ => true) [⟨0,0⟩,⟨64,0⟩,⟨0,64⟩] false (by decide) (by decide)

/-- A side that rises by an eighth of a coordinate across a row has height minus one and no
failure: the loop over its scanlines does not come down to zero. -/
theorem shallow_side_runs_on :
    shape_engine (fun _ => true) [⟨0,0⟩,⟨100,33⟩,⟨50,263 / 8⟩,⟨0,100⟩] false = none := by
  decide +kernel
end Desmume.Geometry.ScanConversion
