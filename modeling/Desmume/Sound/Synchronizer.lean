/-
The audio synchronizer: `NitsujaSynchronizer::enqueue_samples` and
`NitsujaSynchronizer::output_samples`.

The numbers are those of an `int`: what does not fit wraps around.
-/

import Desmume.Types
import Desmume.Lib.PartialRun

namespace Desmume.NitsujaSynchronizer

structure ssamp where
  l : BitVec 16
  r : BitVec 16
  deriving DecidableEq, Repr

variable (val : Int)

/-- An `int`: 32 bits with a sign. -/
def int32 : Int := val.bmod 4294967296

/-- `value & ~1`. -/
def even : Int := val - val % 2

/-- `x` goes up and down between 0 and `y - 1`. -/
def pingpong (x y : Int) : Option Int :=
  let period := int32 (2 * y)
  if period = 0 then none
  else
    let x := x.tmod period
    some (if y ≤ x then int32 (int32 (period - x) - 1) else x)

def crossfade (lhs rhs : ssamp) (cur start stop : Int) : ssamp :=
  if cur ≤ start then lhs
  else if stop ≤ cur then rhs
  else
    let inNum := int32 (cur - start)
    let outNum := int32 (stop - cur)
    let denom := int32 (stop - start)
    let mixed (left right : BitVec 16) : BitVec 16 :=
      BitVec.ofInt 16
        ((int32 (int32 (left.toInt * outNum) + int32 (right.toInt * inNum))).tdiv denom)
    ⟨mixed lhs.l rhs.l,mixed lhs.r rhs.r⟩

/-- `sampleQueue[i]`. -/
def sample (sampleQueue : List ssamp) (i : Int) : Option ssamp :=
  if 0 ≤ i then sampleQueue[i.toNat]? else none

/-- `sampleQueue.erase(sampleQueue.begin(), sampleQueue.begin() + count)`. -/
def erase (sampleQueue : List ssamp) (n : Int) : Option (List ssamp) :=
  if 0 ≤ n ∧ n ≤ sampleQueue.length then some (sampleQueue.drop n.toNat) else none

/-- A loop that emits a sample for `x`, `x + 1` and so on. -/
def emit (choose : Int → Option ssamp) : Int → Nat → Option (List ssamp)
  | _, 0 => some []
  | x, n + 1 => do
      let first ← choose x
      let rest ← emit choose (x + 1) n
      some (first :: rest)

/-- A loop whose index moves by `dy`; the index behind the loop as well. -/
def emitStepping (sampleQueue : List ssamp) (dy : Int) :
    Int → Nat → Option (List ssamp × Int)
  | y, 0 => some ([], y)
  | y, n + 1 => do
      let first ← sample sampleQueue y
      let (rest, last) ← emitStepping sampleQueue dy (int32 (y + dy)) n
      some (first :: rest, last)

def difference (sampleQueue : List ssamp) (i : Int) : Option Int := do
  let here ← sample sampleQueue i
  let next ← sample sampleQueue (int32 (i + 1))
  some (|here.l.toInt - next.l.toInt| + |here.r.toInt - next.r.toInt|)

def worstdiff : Int := 99999999

/-- One round of a search for the flattest place: the least difference so far, and
the place behind it. -/
def flattest (sampleQueue : List ssamp) (behind : Int) (best : Int × Int) (i : Int) :
    Option (Int × Int) := do
  let diff ← difference sampleQueue i
  some (if diff < best.1 then (diff, int32 (i + behind)) else best)

def beststart (sampleQueue : List ssamp) : Option Int := do
  let best ← ((List.range 64).map fun k : Nat => 2 * (k : Int)).foldlM (flattest sampleQueue 0)
    (worstdiff, 0)
  some best.2

/-- `for(int i = queued-3; i > queued-3-128; i-=2)` has 64 rounds. -/
def bestend (sampleQueue : List ssamp) (queued : Int) : Option Int := do
  let best ← ((List.range 64).map fun k : Nat => int32 (queued - 3 - 2 * (k : Int))).foldlM
    (flattest sampleQueue 1) (worstdiff, queued)
  some best.2

/-- `while(oksize + queued*2 + beststart + extraAtEnd <= samples_requested)`. -/
def okSize (samples_requested queued beststart extraAtEnd : Int) : Nat → Int → Option Int
  | 0, _ => none
  | rounds + 1, oksize =>
      if int32 (int32 (int32 (oksize + int32 (queued * 2)) + beststart) + extraAtEnd) ≤
          samples_requested then
        okSize samples_requested queued beststart extraAtEnd rounds
          (int32 (oksize + int32 (queued * 2)))
      else some oksize

/-- The `a` of the search at an offset. -/
def midpointDistance (midpointX midpointY queued midpointXOffset : Int) : Option Int := do
  let y ← pingpong (int32 (midpointX - midpointXOffset)) queued
  some (int32 (|int32 (y - midpointY)| - midpointXOffset))

/-- `((a > 0) != (prevA > 0) || (a < 0) != (prevA < 0)) && prevA != 999999`. -/
def crossed (a prevA : Int) : Bool :=
  (decide (a > 0) != decide (prevA > 0) || decide (a < 0) != decide (prevA < 0)) &&
    prevA != 999999

def foundOffset (a prevA midpointXOffset : Int) : Int :=
  if int32 (a + prevA) % 2 ≠ 0 then midpointXOffset + 1 else midpointXOffset

/-- The search for `midpointXOffset`, downwards from an offset. -/
def searchOffset (midpointX midpointY queued : Int) : Int → Nat → Option Int
  | prevA, 0 => do
      let a ← midpointDistance midpointX midpointY queued 0
      some (if crossed a prevA then foundOffset a prevA 0 else 0)
  | prevA, off + 1 => do
      let a ← midpointDistance midpointX midpointY queued (off + 1 : Nat)
      if crossed a prevA then some (foundOffset a prevA (off + 1 : Nat))
      else searchOffset midpointX midpointY queued a off

def fallingIndex (queued audiosize x : Int) : Option Int := do
  let i ← pingpong (int32 (int32 (int32 (audiosize - 1) - x) + int32 (queued * 2))) queued
  some (int32 (int32 (queued - 1) - i))

def sampleA (sampleQueue : List ssamp) (queued x : Int) : Option ssamp := do
  let i ← pingpong x queued
  sample sampleQueue i

def sampleC (sampleQueue : List ssamp) (queued audiosize x : Int) : Option ssamp := do
  let i ← fallingIndex queued audiosize x
  sample sampleQueue i

def sections (sampleQueue : List ssamp) (queued audiosize : Int) : Option (List ssamp) := do
  let midpointX := audiosize / 2
  let midpointY := queued / 2
  let midpointXOffset ←
    searchOffset midpointX midpointY queued 999999 (queued.tdiv 2).toNat
  let leftMidpointX := int32 (midpointX - midpointXOffset)
  let rightMidpointX := int32 (midpointX + midpointXOffset)
  let leftMidpointY ← pingpong leftMidpointX queued
  let rightMidpointY ← fallingIndex queued audiosize rightMidpointX
  let sectionA ← emit (sampleA sampleQueue queued) 0 leftMidpointX.toNat
  let dyMidLeft := if leftMidpointY < midpointY then 1 else -1
  let dyMidRight := if rightMidpointY > midpointY then 1 else -1
  let (rising, y) ← emitStepping sampleQueue dyMidLeft leftMidpointY
    (midpointX - leftMidpointX).toNat
  let (falling, _) ← emitStepping sampleQueue dyMidRight y (rightMidpointX - midpointX).toNat
  let sectionC ← emit (sampleC sampleQueue queued audiosize) rightMidpointX
    (audiosize - rightMidpointX).toNat
  some (sectionA ++ rising ++ falling ++ sectionC)

structure Output where
  buf : List ssamp
  returned : Int
  sampleQueue : List ssamp
  deriving DecidableEq, Repr

def slowMotion (rounds : Nat) (sampleQueue : List ssamp) (queued samples_requested : Int) :
    Option Output := do
  let start ← beststart sampleQueue
  let stop ← bestend sampleQueue queued
  let extraAtEnd := int32 (queued - stop)
  let queued := int32 (stop - start)
  let audiosize ← okSize samples_requested queued start extraAtEnd rounds queued
  let trimmed ← emit (sample sampleQueue) 0 start.toNat
  let sampleQueue ← erase sampleQueue start
  let middle ← sections sampleQueue queued audiosize
  let last ← emit (fun x => sample sampleQueue (int32 (queued + x))) 0 extraAtEnd.toNat
  let sampleQueue ← erase sampleQueue (int32 (queued + extraAtEnd))
  some {
    buf := trimmed ++ middle ++ last
    returned := int32 (audiosize + int32 (start + extraAtEnd))
    sampleQueue := sampleQueue }

def fastForward (sampleQueue : List ssamp) (queued audiosize : Int) : Option Output := do
  let buf ← emit (fun i => do
    let first ← sample sampleQueue i
    let second ← sample sampleQueue (int32 (int32 (i + queued) - audiosize))
    some (crossfade first second i 0 audiosize)) 0 audiosize.toNat
  let sampleQueue ← erase sampleQueue queued
  some { buf := buf, returned := audiosize, sampleQueue := sampleQueue }

/-- `count` samples as they are. -/
def straight (sampleQueue : List ssamp) (n : Int) : Option Output := do
  let buf ← emit (sample sampleQueue) 0 n.toNat
  let sampleQueue ← erase sampleQueue n
  some { buf := buf, returned := n, sampleQueue := sampleQueue }

def enqueue_samples (sampleQueue buf : List ssamp) : List ssamp := sampleQueue ++ buf

def output_samples (rounds : Nat) (sampleQueue : List ssamp) (samples_requested : Int) :
    Option Output :=
  let audiosize := even samples_requested
  let queued := even (int32 sampleQueue.length)
  if queued > 0x200 ∧ audiosize > 0 then
    if queued > 900 ∨ audiosize > int32 (queued * 2) then
      if audiosize ≤ queued then fastForward sampleQueue queued audiosize
      else slowMotion rounds sampleQueue queued samples_requested
    else if audiosize ≥ queued then straight sampleQueue queued
    else straight sampleQueue audiosize
  else some { buf := [], returned := 0, sampleQueue := sampleQueue }

theorem int32_eq (low : -2147483648 ≤ val) (high : val ≤ 2147483647) : int32 val = val := by
  unfold int32
  exact Int.bmod_eq_of_le (by omega) (by omega)

theorem int32_le : int32 val ≤ 2147483647 := by
  have below := Int.bmod_lt (x := val) (show 0 < 4294967296 by omega)
  norm_num at below
  unfold int32
  omega

variable {samples_requested : Int} {rounds : Nat} {x : Int}

theorem pingpong_eq {y : Int} (notNegative : 0 ≤ x) (positive : 0 < y) (fits : y < 1073741824) :
    pingpong x y =
      some (if y ≤ x % (2 * y) then 2 * y - x % (2 * y) - 1 else x % (2 * y)) := by
  have period : int32 (2 * y) = 2 * y := int32_eq _ (by omega) (by omega)
  have low : 0 ≤ x % (2 * y) := Int.emod_nonneg x (by omega)
  have high : x % (2 * y) < 2 * y := Int.emod_lt_of_pos x (by omega)
  unfold pingpong
  rw [period,if_neg (by omega),Int.tmod_eq_emod_of_nonneg notNegative]
  dsimp only
  by_cases falling : y ≤ x % (2 * y)
  · rw [if_pos falling,if_pos falling,int32_eq (2 * y - x % (2 * y)) (by omega)
      (by omega),int32_eq _ (by omega) (by omega)]
  · rw [if_neg falling,if_neg falling]

theorem exists_pingpong {y : Int} (notNegative : 0 ≤ x) (positive : 0 < y)
    (fits : y < 1073741824) : ∃ i, pingpong x y = some i ∧ 0 ≤ i ∧ i < y := by
  have low : 0 ≤ x % (2 * y) := Int.emod_nonneg x (by omega)
  have high : x % (2 * y) < 2 * y := Int.emod_lt_of_pos x (by omega)
  refine ⟨_,pingpong_eq notNegative positive fits,?_⟩
  by_cases falling : y ≤ x % (2 * y)
  · rw [if_pos falling]
    omega
  · rw [if_neg falling]
    omega

theorem exists_sample {sampleQueue : List ssamp} {i : Int} (low : 0 ≤ i)
    (high : i < sampleQueue.length) : ∃ found, sample sampleQueue i = some found := by
  unfold sample
  rw [if_pos low]
  exact ⟨_,List.getElem?_eq_getElem (by omega)⟩

variable (sampleQueue : List ssamp)

theorem erase_eq {n : Int} (low : 0 ≤ n) (high : n ≤ sampleQueue.length) :
    erase sampleQueue n = some (sampleQueue.drop n.toNat) :=
  if_pos ⟨low,high⟩

theorem exists_emit (choose : Int → Option ssamp) (x : Int) (n : Nat)
    (chosen : ∀ i, x ≤ i → i < x + n → ∃ found, choose i = some found) :
    ∃ emitted, emit choose x n = some emitted ∧ emitted.length = n := by
  induction n generalizing x with
  | zero => exact ⟨[],rfl,rfl⟩
  | succ n ih =>
      obtain ⟨first,here⟩ := chosen x (by omega) (by omega)
      obtain ⟨rest,later,length⟩ := ih (x + 1) fun i low high =>
        chosen i (by omega) (by omega)
      refine ⟨first :: rest,?_,by rw [List.length_cons,length]⟩
      rw [emit,here,later]
      rfl

theorem emit_sample (x n : Nat) (inside : x + n ≤ sampleQueue.length) :
    emit (sample sampleQueue) x n = some ((sampleQueue.drop x).take n) := by
  induction n generalizing x with
  | zero => rw [List.take_zero,emit]
  | succ n ih =>
      have bound : x < sampleQueue.length := by omega
      have here : sample sampleQueue x = some sampleQueue[x] := by
        unfold sample
        rw [if_pos (by omega),Int.toNat_natCast]
        exact List.getElem?_eq_getElem bound
      have later := ih (x + 1) (by omega)
      rw [Nat.cast_add,Nat.cast_one] at later
      rw [emit,here,later,List.drop_eq_getElem_cons bound,List.take_succ_cons]
      rfl

theorem exists_difference {sampleQueue : List ssamp} {i : Int} (low : 0 ≤ i)
    (high : i + 1 < sampleQueue.length) (fits : i < 2147483647) :
    ∃ diff, difference sampleQueue i = some diff := by
  obtain ⟨here,found⟩ := exists_sample low (show i < sampleQueue.length by omega)
  obtain ⟨next,foundNext⟩ := exists_sample (show 0 ≤ i + 1 by omega) high
  refine ⟨|here.l.toInt - next.l.toInt| + |here.r.toInt - next.r.toInt|,?_⟩
  unfold difference
  rw [found,int32_eq _ (by omega) (by omega),foundNext]
  rfl

theorem exists_flattest (behind : Int) (good : Int → Prop) (places : List Int)
    (inside : ∀ i ∈ places, 0 ≤ i ∧ i + 1 < sampleQueue.length ∧ i < 2147483647 ∧
      good (int32 (i + behind))) (best : Int × Int) (start : good best.2) :
    ∃ last, places.foldlM (flattest sampleQueue behind) best = some last ∧ good last.2 := by
  induction places generalizing best with
  | nil => exact ⟨best,rfl,start⟩
  | cons i rest ih =>
      obtain ⟨low,high,fits,here⟩ := inside i List.mem_cons_self
      obtain ⟨diff,found⟩ := exists_difference low high fits
      have round : flattest sampleQueue behind best i =
          some (if diff < best.1 then (diff, int32 (i + behind)) else best) := by
        unfold flattest
        rw [found]
        rfl
      have kept : good (if diff < best.1 then (diff, int32 (i + behind)) else best).2 := by
        by_cases flatter : diff < best.1
        · rw [if_pos flatter]
          exact here
        · rw [if_neg flatter]
          exact start
      rw [List.foldlM_cons,round]
      exact ih (fun i member => inside i (List.mem_cons_of_mem _ member)) _ kept

theorem exists_beststart (enough : 128 ≤ sampleQueue.length) :
    ∃ start, beststart sampleQueue = some start ∧ 0 ≤ start ∧ start ≤ 126 ∧ start % 2 = 0 := by
  obtain ⟨last,found,good⟩ := exists_flattest sampleQueue 0
    (fun i => 0 ≤ i ∧ i ≤ 126 ∧ i % 2 = 0) ((List.range 64).map fun k : Nat => 2 * (k : Int))
    (by
      intro i member
      obtain ⟨k,below,rfl⟩ := List.mem_map.mp member
      have bound := List.mem_range.mp below
      rw [int32_eq _ (by omega) (by omega)]
      omega) (worstdiff, 0) (by omega)
  refine ⟨last.2,?_,good⟩
  unfold beststart
  rw [found]
  rfl

theorem exists_bestend {queued : Int}
    (low : 512 < queued) (high : queued ≤ sampleQueue.length) (fits : queued ≤ 2147483647)
    (even : queued % 2 = 0) :
    ∃ stop, bestend sampleQueue queued = some stop ∧ queued - 128 ≤ stop ∧ stop ≤ queued ∧
      stop % 2 = 0 := by
  obtain ⟨last,found,good⟩ := exists_flattest sampleQueue 1
    (fun i => queued - 128 ≤ i ∧ i ≤ queued ∧ i % 2 = 0)
    ((List.range 64).map fun k : Nat => int32 (queued - 3 - 2 * (k : Int)))
    (by
      intro i member
      obtain ⟨k,below,rfl⟩ := List.mem_map.mp member
      have bound := List.mem_range.mp below
      rw [int32_eq (queued - 3 - 2 * (k : Int)) (by omega) (by omega),
        int32_eq _ (by omega) (by omega)]
      omega) (worstdiff, queued) (by omega)
  refine ⟨last.2,?_,good⟩
  unfold bestend
  rw [found]
  rfl

/-! ### The size that is emitted -/

theorem exists_okSize {queued start extraAtEnd : Int} (positive : 0 < queued)
    (startFits : 0 ≤ start) (extraFits : 0 ≤ extraAtEnd)
    (fits : samples_requested + 2 * queued ≤ 2147483647) (rounds : Nat) {oksize : Int}
    (windows : ∃ k : Nat, oksize = queued * (2 * k + 1))
    (room : oksize + start + extraAtEnd ≤ samples_requested)
    (enough : samples_requested < oksize + rounds) :
    ∃ size, okSize samples_requested queued start extraAtEnd rounds oksize = some size ∧
      (∃ k : Nat, size = queued * (2 * k + 1)) ∧ size + start + extraAtEnd ≤ samples_requested := by
  induction rounds generalizing oksize with
  | zero => omega
  | succ rounds ih =>
      obtain ⟨k,size⟩ := windows
      have windowsFit : 0 ≤ oksize := by
        rw [size]
        positivity
      rw [okSize,int32_eq (queued * 2) (by omega) (by omega),
        int32_eq (oksize + queued * 2) (by omega) (by omega),
        int32_eq (oksize + queued * 2 + start) (by omega) (by omega),
        int32_eq _ (by omega) (by omega)]
      by_cases larger : oksize + queued * 2 + start + extraAtEnd ≤ samples_requested
      · rw [if_pos larger]
        have next : oksize + queued * 2 = queued * (2 * (k + 1 : Nat) + 1) := by
          rw [size,Nat.cast_add,Nat.cast_one]
          ring
        exact ih ⟨k + 1,next⟩ larger (by omega)
      · rw [if_neg larger]
        exact ⟨oksize,rfl,⟨k,size⟩,room⟩

theorem okSize_largest (queued start extraAtEnd : Int) (rounds : Nat) (oksize : Int) :
    okSize 2147483647 queued start extraAtEnd rounds oksize = none := by
  induction rounds generalizing oksize with
  | zero => rfl
  | succ rounds ih =>
      rw [okSize,if_pos (int32_le _)]
      exact ih _

theorem midpointDistance_rising {half off : Int} (m : Nat) (positive : 0 < half)
    (low : 0 ≤ off) (high : off ≤ half)
    (fits : 2 * (2 * half) * m + half ≤ 2147483647) (small : half < 536870912) :
    midpointDistance (2 * (2 * half) * m + half) half (2 * half) off = some 0 := by
  have turns : 0 ≤ 2 * (2 * half) * (m : Int) := by positivity
  have within : (2 * (2 * half) * (m : Int) + half - off) % (2 * (2 * half)) =
      half - off := by
    rw [add_sub_assoc,Int.mul_add_emod_self_left]
    exact Int.emod_eq_of_lt (by omega) (by omega)
  unfold midpointDistance
  rw [int32_eq _ (by omega) (by omega),pingpong_eq (by omega) (by omega) (by omega),within,
    if_neg (by omega)]
  change some _ = some _
  rw [int32_eq (half - off - half) (by omega) (by omega),sub_sub_cancel_left,abs_neg,
    abs_of_nonneg low,sub_self]
  rfl

theorem midpointDistance_falling {half off : Int} (m : Nat) (positive : 0 < half)
    (low : 0 ≤ off) (high : off ≤ half)
    (fits : 2 * (2 * half) * m + 2 * half + half ≤ 2147483647) (small : half < 536870912) :
    midpointDistance (2 * (2 * half) * m + 2 * half + half) half (2 * half) off =
      some (if off = 0 then 1 else -1) := by
  have turns : 0 ≤ 2 * (2 * half) * (m : Int) := by positivity
  have within : (2 * (2 * half) * (m : Int) + 2 * half + half - off) % (2 * (2 * half)) =
      2 * half + half - off := by
    rw [add_assoc,add_sub_assoc,Int.mul_add_emod_self_left]
    exact Int.emod_eq_of_lt (by omega) (by omega)
  have i : 2 * (2 * half) - (2 * half + half - off) - 1 - half = off - 1 := by ring
  unfold midpointDistance
  rw [int32_eq _ (by omega) (by omega),pingpong_eq (by omega) (by omega) (by omega),within,
    if_pos (by omega)]
  change some _ = some _
  rw [i,int32_eq (off - 1) (by omega) (by omega)]
  by_cases middle : off = 0
  · rw [if_pos middle,middle]
    rfl
  · rw [if_neg middle,abs_of_nonneg (by omega),sub_sub_cancel_left]
    rfl

variable {midpointX midpointY queued : Int}

theorem searchOffset_rising {off : Nat} (distances : ∀ o : Nat, o ≤ off →
      midpointDistance midpointX midpointY queued (o : Int) = some 0)
    {prevA : Int} (before : prevA = 999999 ∨ prevA = 0) :
    searchOffset midpointX midpointY queued prevA off = some 0 := by
  have uncrossed : crossed 0 prevA = false := by
    rcases before with rfl | rfl <;> rfl
  induction off generalizing prevA with
  | zero =>
      have here := distances 0 (Nat.le_refl 0)
      rw [Nat.cast_zero] at here
      rw [searchOffset,here]
      change some (if crossed 0 prevA = true then _ else _) = _
      rw [uncrossed]
      rfl
  | succ off ih =>
      rw [searchOffset,distances (off + 1) (Nat.le_refl _)]
      change (if crossed 0 prevA = true then _ else _) = _
      rw [uncrossed]
      exact ih (fun o below => distances o (by omega)) (Or.inr rfl) rfl

theorem searchOffset_falling {off : Nat} (distances : ∀ o : Nat, o ≤ off →
      midpointDistance midpointX midpointY queued (o : Int) =
        some (if (o : Int) = 0 then 1 else -1))
    {prevA : Int} (before : prevA = -1 ∨ prevA = 999999 ∧ 0 < off) :
    searchOffset midpointX midpointY queued prevA off = some 0 := by
  induction off generalizing prevA with
  | zero =>
      have here := distances 0 (Nat.le_refl 0)
      rw [Nat.cast_zero,if_pos rfl] at here
      obtain rfl : prevA = -1 := by omega
      rw [searchOffset,here]
      rfl
  | succ off ih =>
      have uncrossed : crossed (-1) prevA = false := by
        rcases before with rfl | ⟨rfl,-⟩ <;> rfl
      rw [searchOffset,distances (off + 1) (Nat.le_refl _),if_neg (by omega)]
      change (if crossed (-1) prevA = true then _ else _) = _
      rw [uncrossed]
      exact ih (fun o below => distances o (by omega)) (Or.inl rfl)

theorem searchOffset_eq {queued : Int} (large : 2 ≤ queued) (even : queued % 2 = 0)
    (small : queued < 1073741824) (k : Nat) (fits : queued * (2 * k + 1) ≤ 2147483647) :
    searchOffset (queued * (2 * k + 1) / 2) (queued / 2) queued 999999 (queued.tdiv 2).toNat =
      some 0 := by
  obtain ⟨half,rfl⟩ : ∃ half, queued = 2 * half := ⟨queued / 2,by omega⟩
  have halfPositive : 0 < half := by omega
  have middle : 2 * half * (2 * (k : Int) + 1) / 2 = 2 * half * k + half := by
    rw [show 2 * half * (2 * (k : Int) + 1) = 2 * (2 * half * k + half) by ring]
    exact Int.mul_ediv_cancel_left _ (by omega)
  have bound : 2 * half * (k : Int) + half ≤ 2147483647 := by
    have positive : 0 ≤ 2 * half * (k : Int) + half := by positivity
    rw [show 2 * half * (2 * (k : Int) + 1) = 2 * (2 * half * k + half) by ring] at fits
    omega
  have halved : (2 * half) / 2 = half := Int.mul_ediv_cancel_left half (by omega)
  have start : ((2 * half).tdiv 2).toNat = half.toNat := by
    rw [Int.tdiv_eq_ediv_of_nonneg (by omega),halved]
  rw [middle,halved,start]
  rcases Nat.even_or_odd' k with ⟨m,rfl | rfl⟩
  · have windows : 2 * half * ((2 * m : Nat) : Int) = 2 * (2 * half) * m := by
      push_cast
      ring
    rw [windows] at bound ⊢
    apply searchOffset_rising
    · intro o below
      exact midpointDistance_rising m (by omega) (by omega) (by omega) bound (by omega)
    · exact Or.inl rfl
  · have windows : 2 * half * ((2 * m + 1 : Nat) : Int) = 2 * (2 * half) * m + 2 * half := by
      push_cast
      ring
    rw [windows] at bound ⊢
    apply searchOffset_falling
    · intro o below
      exact midpointDistance_falling m (by omega) (by omega) (by omega) bound (by omega)
    · exact Or.inr ⟨rfl,by omega⟩

theorem exists_fallingIndex {queued audiosize : Int} (positive : 0 < queued)
    (fits : audiosize + 2 * queued ≤ 2147483647) (low : 0 ≤ x) (high : x < audiosize) :
    ∃ i, fallingIndex queued audiosize x = some i ∧ 0 ≤ i ∧ i < queued := by
  obtain ⟨i,found,indexLow,indexHigh⟩ :=
    exists_pingpong (show 0 ≤ audiosize - 1 - x + queued * 2 by omega) positive (by omega)
  refine ⟨queued - 1 - i,?_,by omega,by omega⟩
  unfold fallingIndex
  rw [int32_eq (audiosize - 1) (by omega) (by omega),
    int32_eq (audiosize - 1 - x) (by omega) (by omega),int32_eq (queued * 2) (by omega) (by omega),
    int32_eq (audiosize - 1 - x + queued * 2) (by omega) (by omega),found]
  change some _ = some _
  rw [int32_eq (queued - 1) (by omega) (by omega),int32_eq _ (by omega) (by omega)]

theorem exists_sections {queued : Int} (large : 2 ≤ queued)
    (even : queued % 2 = 0) (inside : queued ≤ sampleQueue.length) {size : Int}
    (fits : size + 2 * queued ≤ 2147483647) (windows : ∃ k : Nat, size = queued * (2 * k + 1)) :
    ∃ middle, sections sampleQueue queued size = some middle ∧ (middle.length : Int) = size := by
  obtain ⟨k,windows⟩ := windows
  have queuedSmall : queued ≤ size := by
    have more : 0 ≤ queued * (2 * (k : Int)) := by positivity
    rw [windows,mul_add,mul_one]
    omega
  have center := searchOffset_eq large even (by omega) k (by rw [← windows]; omega)
  rw [← windows] at center
  have centerLow : 0 ≤ size / 2 := Int.ediv_nonneg (by omega) (by omega)
  have centerHigh : size / 2 < size := by omega
  have centerFits : int32 (size / 2) = size / 2 := int32_eq _ (by omega) (by omega)
  obtain ⟨leftMidpointY,left,-⟩ := exists_pingpong centerLow (by omega) (show queued < _ by omega)
  obtain ⟨rightMidpointY,right,-⟩ :=
    exists_fallingIndex (show 0 < queued by omega) fits centerLow centerHigh
  obtain ⟨sectionA,emittedA,lengthA⟩ :=
      exists_emit (sampleA sampleQueue queued) 0 (size / 2).toNat (by
    intro x low high
    obtain ⟨i,found,indexLow,indexHigh⟩ :=
      exists_pingpong low (show 0 < queued by omega) (by omega)
    rw [sampleA,found]
    exact exists_sample indexLow (by omega))
  obtain ⟨sectionC,emittedC,lengthC⟩ :=
      exists_emit (sampleC sampleQueue queued size) (size / 2) (size - size / 2).toNat (by
    intro x low high
    obtain ⟨i,found,indexLow,indexHigh⟩ :=
      exists_fallingIndex (show 0 < queued by omega) fits (show 0 ≤ x by omega)
        (show x < size by omega)
    rw [sampleC,found]
    exact exists_sample indexLow (by omega))
  refine ⟨sectionA ++ [] ++ [] ++ sectionC,?_,?_⟩
  · simp only [sections,center,Option.bind_eq_bind,Option.bind_some,sub_zero,add_zero,
      centerFits,left,right,emittedA,sub_self,Int.toNat_zero,emitStepping,emittedC]
  · rw [List.append_nil,List.append_nil,List.length_append,lengthA,lengthC]
    omega

/-- A call that emits what it returns, at most what is requested, and takes a
number of samples off the front of the queue. -/
structure Emits (output : Output) (sampleQueue : List ssamp) (samples_requested : Int)
    (removed : Nat) : Prop where
  length : (output.buf.length : Int) = output.returned
  atMost : output.returned ≤ samples_requested
  inside : removed ≤ sampleQueue.length
  rest : output.sampleQueue = sampleQueue.drop removed

theorem exists_slowMotion (enough : 2147483648 ≤ rounds)
    {sampleQueue : List ssamp} {queued : Nat} (large : 512 < queued) (even : queued % 2 = 0)
    (inside : queued ≤ sampleQueue.length) (slow : queued < samples_requested)
    (fits : samples_requested + 2 * sampleQueue.length ≤ 2147483647) :
    ∃ output, slowMotion rounds sampleQueue queued samples_requested = some output ∧
      Emits output sampleQueue samples_requested queued := by
  obtain ⟨start,foundStart,startLow,startHigh,startEven⟩ :=
    exists_beststart sampleQueue (show 128 ≤ sampleQueue.length by omega)
  obtain ⟨stop,foundStop,stopLow,stopHigh,stopEven⟩ :=
    exists_bestend sampleQueue (show 512 < (queued : Int) by omega) (by omega) (by omega) (by omega)
  have one : stop - start = (stop - start) * (2 * (0 : Nat) + 1) := by
    rw [Nat.cast_zero,mul_zero,zero_add,mul_one]
  obtain ⟨size,foundSize,windows,room⟩ :=
    exists_okSize (show 0 < stop - start by omega) startLow (show 0 ≤ queued - stop by omega)
      (show samples_requested + _ ≤ _ by omega) rounds ⟨0,one⟩ (by omega) (by omega)
  obtain ⟨trimmed,emittedStart,lengthStart⟩ :=
      exists_emit (sample sampleQueue) 0 start.toNat (by
    intro i low high
    exact exists_sample low (by omega))
  have shorter : (sampleQueue.drop start.toNat).length = sampleQueue.length - start.toNat :=
    List.length_drop
  obtain ⟨middle,emittedMiddle,lengthMiddle⟩ :=
    exists_sections (sampleQueue.drop start.toNat) (show 2 ≤ stop - start by omega)
      (by omega) (by omega) (by omega) windows
  obtain ⟨last,emittedLast,lengthLast⟩ :=
      exists_emit (fun x => sample (sampleQueue.drop start.toNat) (int32 (stop - start + x))) 0
        (queued - stop).toNat (by
    intro x low high
    rw [int32_eq _ (by omega) (by omega)]
    exact exists_sample (by omega) (by omega))
  have erasedStart : erase sampleQueue start = some (sampleQueue.drop start.toNat) :=
    erase_eq sampleQueue startLow (by omega)
  have erasedRest : erase (sampleQueue.drop start.toNat) (queued - start) =
      some (sampleQueue.drop queued) := by
    rw [erase_eq _ (by omega) (by omega),List.drop_drop]
    congr 2
    omega
  refine ⟨⟨trimmed ++ middle ++ last,size + (start + (queued - stop)),
    sampleQueue.drop queued⟩,?_,?_⟩
  · have endFits : int32 (queued - stop) = queued - stop := int32_eq _ (by omega) (by omega)
    have windowFits : int32 (stop - start) = stop - start := int32_eq _ (by omega) (by omega)
    have removedFits : int32 (stop - start + (queued - stop)) = queued - start := by
      rw [int32_eq _ (by omega) (by omega)]
      ring
    have sumFits : int32 (start + (queued - stop)) = start + (queued - stop) :=
      int32_eq _ (by omega) (by omega)
    have totalFits : int32 (size + (start + (queued - stop))) =
        size + (start + (queued - stop)) := int32_eq _ (by omega) (by omega)
    simp only [slowMotion,foundStart,foundStop,Option.bind_eq_bind,Option.bind_some,endFits,
      windowFits,foundSize,emittedStart,erasedStart,emittedMiddle,emittedLast,removedFits,
      erasedRest,sumFits,totalFits]
  · refine ⟨?_,?_,inside,rfl⟩
    · change ((trimmed ++ middle ++ last).length : Int) = size + (start + (queued - stop))
      rw [List.length_append,List.length_append,lengthStart,lengthLast,Nat.cast_add,
        Nat.cast_add,lengthMiddle]
      omega
    · change size + (start + (queued - stop)) ≤ samples_requested
      omega

theorem exists_fastForward {sampleQueue : List ssamp} {queued audiosize : Nat}
    (fast : audiosize ≤ queued) (inside : queued ≤ sampleQueue.length) (fits : queued ≤ 1073741823)
    (requested : audiosize ≤ samples_requested) :
    ∃ output, fastForward sampleQueue queued audiosize = some output ∧
      Emits output sampleQueue samples_requested queued := by
  obtain ⟨buf,emitted,length⟩ := exists_emit (fun i => do
      let first ← sample sampleQueue i
      let second ← sample sampleQueue (int32 (int32 (i + queued) - audiosize))
      some (crossfade first second i 0 audiosize)) 0 (audiosize : Int).toNat (by
    intro i low high
    obtain ⟨first,foundFirst⟩ := exists_sample low (show i < sampleQueue.length by omega)
    obtain ⟨second,foundSecond⟩ := exists_sample (show 0 ≤ i + queued - audiosize by omega)
      (show i + queued - audiosize < sampleQueue.length by omega)
    rw [foundFirst,int32_eq (i + queued) (by omega) (by omega),
      int32_eq _ (by omega) (by omega),foundSecond]
    exact ⟨_,rfl⟩)
  refine ⟨⟨buf,audiosize,sampleQueue.drop queued⟩,?_,?_⟩
  · unfold fastForward
    rw [emitted,erase_eq _ (by omega) (by omega)]
    rfl
  · refine ⟨?_,requested,inside,rfl⟩
    change (buf.length : Int) = audiosize
    omega

theorem straight_eq {sampleQueue : List ssamp} {n : Nat} (inside : n ≤ sampleQueue.length) :
    straight sampleQueue n =
      some ⟨sampleQueue.take n,n,sampleQueue.drop n⟩ := by
  have emitted := emit_sample sampleQueue 0 n (by omega)
  rw [List.drop_zero,Nat.cast_zero] at emitted
  unfold straight
  rw [erase_eq _ (by omega) (by omega),Int.toNat_natCast,emitted]
  rfl

def evenPart (n : Nat) : Nat := n - n % 2

def Resampled (sampleQueue : List ssamp) (samples_requested : Nat) : Prop :=
  let audiosize := evenPart samples_requested
  let queued := evenPart sampleQueue.length
  (queued > 0x200 ∧ audiosize > 0) ∧ (queued > 900 ∨ audiosize > queued * 2)

def consumed (sampleQueue : List ssamp) (samples_requested : Nat) : Nat :=
  let audiosize := evenPart samples_requested
  let queued := evenPart sampleQueue.length
  if queued > 0x200 ∧ audiosize > 0 then
    if queued > 900 ∨ audiosize > queued * 2 then queued else min audiosize queued
  else 0

/-- A call that stays inside of its buffers; at normal speed, what it emits are
the samples that it takes off the queue. -/
structure Served (output : Output) (sampleQueue : List ssamp) (samples_requested : Nat) : Prop
    extends Emits output sampleQueue samples_requested (consumed sampleQueue samples_requested)
    where
  inOrder : ¬Resampled sampleQueue samples_requested →
    output.buf = sampleQueue.take (consumed sampleQueue samples_requested)

theorem even_natCast (n : Nat) : even n = evenPart n := by
  have small : n % 2 ≤ n := Nat.mod_le n 2
  unfold even evenPart
  rw [Nat.cast_sub small,Int.natCast_mod]
  rfl

theorem served_straight {sampleQueue : List ssamp} {samples_requested n : Nat}
    (taken : consumed sampleQueue samples_requested = n)
    (inside : n ≤ sampleQueue.length) (requested : n ≤ samples_requested) :
    Served ⟨sampleQueue.take n,n,sampleQueue.drop n⟩ sampleQueue
      samples_requested where
  length := by
    rw [List.length_take,Nat.min_eq_left inside]
  atMost := Int.ofNat_le.mpr requested
  inside := taken.symm ▸ inside
  rest := by rw [taken]
  inOrder := by
    intro _
    rw [taken]

theorem exists_output_samples (enough : 2147483648 ≤ rounds)
    {sampleQueue : List ssamp} {samples_requested : Nat}
    (fits : samples_requested + 2 * sampleQueue.length ≤ 2147483647) :
    ∃ output, output_samples rounds sampleQueue samples_requested = some output ∧
      Served output sampleQueue samples_requested := by
  have size : int32 sampleQueue.length = sampleQueue.length := int32_eq _ (by omega) (by omega)
  have queuedSmall : evenPart sampleQueue.length ≤ sampleQueue.length := Nat.sub_le _ _
  have audioSmall : evenPart samples_requested ≤ samples_requested := Nat.sub_le _ _
  have queuedEven : evenPart sampleQueue.length % 2 = 0 := by
    unfold evenPart
    omega
  have double : int32 ((evenPart sampleQueue.length : Int) * 2) =
      evenPart sampleQueue.length * 2 := int32_eq _ (by omega) (by omega)
  unfold output_samples
  rw [size,even_natCast,even_natCast]
  dsimp only
  rw [double]
  by_cases work : evenPart sampleQueue.length > 0x200 ∧ evenPart samples_requested > 0
  · rw [if_pos (by omega)]
    by_cases resampled : evenPart sampleQueue.length > 900 ∨
        evenPart samples_requested > evenPart sampleQueue.length * 2
    · have taken : consumed sampleQueue samples_requested = evenPart sampleQueue.length := by
        unfold consumed
        rw [if_pos work,if_pos resampled]
      have served (output : Output) (emits : Emits output sampleQueue samples_requested
          (evenPart sampleQueue.length)) : Served output sampleQueue samples_requested :=
        { taken ▸ emits with inOrder := fun normal => absurd ⟨work,resampled⟩ normal }
      rw [if_pos (by omega)]
      by_cases fast : evenPart samples_requested ≤ evenPart sampleQueue.length
      · rw [if_pos (by omega)]
        obtain ⟨output,found,emits⟩ :=
          exists_fastForward fast queuedSmall (by omega)
            (show (evenPart samples_requested : Int) ≤ (samples_requested : Nat) by omega)
        exact ⟨output,found,served output emits⟩
      · rw [if_neg (by omega)]
        obtain ⟨output,found,emits⟩ :=
          exists_slowMotion enough work.1 queuedEven queuedSmall
            (show (evenPart sampleQueue.length : Int) < (samples_requested : Nat) by omega)
            (by omega)
        exact ⟨output,found,served output emits⟩
    · have taken : consumed sampleQueue samples_requested =
          min (evenPart samples_requested) (evenPart sampleQueue.length) := by
        unfold consumed
        rw [if_pos work,if_neg resampled]
      rw [if_neg (by omega)]
      by_cases short : evenPart samples_requested ≥ evenPart sampleQueue.length
      · rw [if_pos (by omega),straight_eq queuedSmall]
        rw [min_eq_right short] at taken
        exact ⟨_,rfl,served_straight taken queuedSmall (by omega)⟩
      · rw [if_neg (by omega),straight_eq (by omega)]
        rw [min_eq_left (by omega)] at taken
        exact ⟨_,rfl,served_straight taken (by omega) audioSmall⟩
  · have taken : consumed sampleQueue samples_requested = 0 := by
      unfold consumed
      rw [if_neg work]
    rw [if_neg (by omega)]
    exact ⟨_,rfl,served_straight taken (Nat.zero_le _) (Nat.zero_le _)⟩

/-! ### Runs -/

inductive Call
  | enqueue_samples (buf : List ssamp)
  | output_samples (samples_requested : Nat)

/-- One call of `output_samples`: the queue before it, the request and the answer. -/
structure Record where
  sampleQueue : List ssamp
  samples_requested : Nat
  output : Output

def Record.taken (record : Record) : List ssamp :=
  record.sampleQueue.take (consumed record.sampleQueue record.samples_requested)

/-- The calls of `output_samples` in a run, and the queue behind it. -/
def run (rounds : Nat) : List ssamp → List Call → Option (List Record × List ssamp)
  | sampleQueue, [] => some ([], sampleQueue)
  | sampleQueue, .enqueue_samples buf :: rest =>
      run rounds (enqueue_samples sampleQueue buf) rest
  | sampleQueue, .output_samples samples_requested :: rest => do
      let output ← output_samples rounds sampleQueue samples_requested
      let (records, last) ← run rounds output.sampleQueue rest
      some (⟨sampleQueue,samples_requested,output⟩ :: records, last)

def enqueued : List Call → List ssamp
  | [] => []
  | .enqueue_samples buf :: rest => buf ++ enqueued rest
  | .output_samples _ :: rest => enqueued rest

/-- The sums of a call fit into an `int`. -/
def Fits (sampleQueue : List ssamp) : Call → Prop
  | .enqueue_samples _ => True
  | .output_samples samples_requested =>
      samples_requested + 2 * sampleQueue.length ≤ 2147483647

def Moves (rounds : Nat) (sampleQueue : List ssamp) (call : Call) (next : List ssamp) : Prop :=
  ∃ records, run rounds sampleQueue [call] = some (records, next)

theorem exists_run (enough : 2147483648 ≤ rounds) {calls : List Call} {sampleQueue : List ssamp}
    (fits : PartialRun.Along (Moves rounds) Fits sampleQueue calls) :
    ∃ records last, run rounds sampleQueue calls = some (records, last) ∧
      (∀ record ∈ records, Served record.output record.sampleQueue record.samples_requested) ∧
      sampleQueue ++ enqueued calls = records.flatMap Record.taken ++ last := by
  induction calls generalizing sampleQueue with
  | nil =>
      refine ⟨[],sampleQueue,rfl,?_,List.append_nil sampleQueue⟩
      intro record member
      cases member
  | cons call rest ih =>
      obtain ⟨here,later⟩ := fits
      cases call with
      | enqueue_samples buf =>
          obtain ⟨records,last,ran,served,kept⟩ := ih (later _ ⟨[],rfl⟩)
          refine ⟨records,last,ran,served,?_⟩
          rw [← kept,enqueued,enqueue_samples,List.append_assoc]
      | output_samples samples_requested =>
          obtain ⟨output,found,answered⟩ := exists_output_samples enough here
          have moved : Moves rounds sampleQueue (.output_samples samples_requested)
              output.sampleQueue := by
            refine ⟨[⟨sampleQueue,samples_requested,output⟩],?_⟩
            rw [run,found]
            rfl
          obtain ⟨records,last,ran,served,kept⟩ := ih (later _ moved)
          refine ⟨⟨sampleQueue,samples_requested,output⟩ :: records,last,?_,?_,?_⟩
          · rw [run,found,Option.bind_eq_bind,Option.bind_some,ran]
            rfl
          · intro record member
            rcases List.mem_cons.mp member with rfl | earlier
            · exact answered
            · exact served record earlier
          · rw [List.flatMap_cons,List.append_assoc,← kept,answered.rest,← List.append_assoc,
              Record.taken,List.take_append_drop]
            rfl

theorem along_enqueue_output (rounds : Nat) (buf : List ssamp) (samples_requested : Nat)
    (fits : samples_requested + 2 * buf.length ≤ 2147483647) :
    PartialRun.Along (Moves rounds) Fits []
      [.enqueue_samples buf,.output_samples samples_requested] := by
  refine ⟨trivial,?_⟩
  rintro next ⟨records,moved⟩
  rw [run,enqueue_samples,List.nil_append,run] at moved
  cases moved
  exact ⟨fits,fun _ _ => trivial⟩

/-- No access of a run leaves the queue or the buffer, and every call returns, as
long as the sums of its sizes fit into an `int`. -/
theorem output_samples_stays_inside (enough : 2147483648 ≤ rounds)
    {calls : List Call} (fits : PartialRun.Along (Moves rounds) Fits [] calls) :
    ∃ records last, run rounds [] calls = some (records, last) ∧
      (∀ record ∈ records, Served record.output record.sampleQueue record.samples_requested) ∧
      enqueued calls = records.flatMap Record.taken ++ last :=
  exists_run enough fits

theorem slow_motion_stays_inside :
    ∃ records last, run 2147483648 [] [.enqueue_samples (List.replicate 1000 ⟨5,7⟩),
        .output_samples 5000] = some (records, last) ∧
      (∀ record ∈ records, Served record.output record.sampleQueue record.samples_requested) ∧
      List.replicate 1000 ⟨5,7⟩ = records.flatMap Record.taken ++ last := by
  have fits := along_enqueue_output 2147483648 (List.replicate 1000 ⟨5,7⟩) 5000
    (by rw [List.length_replicate]; omega)
  obtain ⟨records,last,ran,served,kept⟩ :=
    output_samples_stays_inside (Nat.le_refl 2147483648) fits
  refine ⟨records,last,ran,served,?_⟩
  rw [← kept,enqueued,enqueued,enqueued,List.append_nil]

theorem slowMotion_largest (rounds : Nat) (sampleQueue : List ssamp) (queued : Int) :
    slowMotion rounds sampleQueue queued 2147483647 = none := by
  cases found : beststart sampleQueue with
  | none => simp only [slowMotion,found,Option.bind_eq_bind,Option.bind_none]
  | some start =>
      cases foundStop : bestend sampleQueue queued with
      | none =>
          simp only [slowMotion,found,foundStop,Option.bind_eq_bind,Option.bind_some,
            Option.bind_none]
      | some stop =>
          simp only [slowMotion,found,foundStop,Option.bind_eq_bind,Option.bind_some,
            okSize_largest,Option.bind_none]

theorem largest_request_never_returns (rounds : Nat) (sampleQueue : List ssamp)
    (many : 900 < evenPart sampleQueue.length) (fits : sampleQueue.length < 1073741823) :
    output_samples rounds sampleQueue (2147483647 : Nat) = none := by
  have size : int32 sampleQueue.length = sampleQueue.length := int32_eq _ (by omega) (by omega)
  have small : evenPart sampleQueue.length ≤ sampleQueue.length := Nat.sub_le _ _
  have audiosize : evenPart 2147483647 = 2147483646 := rfl
  unfold output_samples
  rw [size,even_natCast,even_natCast,audiosize,if_pos (by omega),if_pos (by omega),
    if_neg (by omega)]
  exact slowMotion_largest rounds sampleQueue _

theorem largest_request_hangs :
    ¬∃ rounds, (run rounds []
      [.enqueue_samples (List.replicate 1000 ⟨5,7⟩),.output_samples 2147483647]).isSome := by
  rintro ⟨rounds,returned⟩
  have hangs := largest_request_never_returns rounds (List.replicate 1000 ⟨5,7⟩)
    (by rw [List.length_replicate]; decide) (by rw [List.length_replicate]; omega)
  rw [run,enqueue_samples,List.nil_append,run,hangs] at returned
  cases returned

end Desmume.NitsujaSynchronizer
