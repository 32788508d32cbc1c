/-
Whether each square root that is started is the integer square root.

The 64-bit mode takes it exactly, the 32-bit mode rounds in between.
-/

import Desmume.Math.Current
import Desmume.Lib.Rounding

namespace Desmume.MathUnits

open Rounding

noncomputable def singleSqrt (val : Nat) : ℝ := nearestEven 24 √(nearestEven 24 val)

/-- `(int)sceFpuSqrt((float)v)` with a correctly rounded root. -/
noncomputable def roundedSqrt (v : u32) : u32 := BitVec.ofNat 32 ⌊singleSqrt v.toNat⌋₊

/-- The operand in single precision is so far below the next square that its
root in single precision is. -/
def BelowNextSquare (val : Nat) : Prop :=
  let single := roundNat 24 val
  let spare := 23 - Nat.log 2 (Nat.sqrt single)
  Nat.sqrt val + 1 + 2 ^ spare * single ≤ 2 ^ spare * (Nat.sqrt val + 1) ^ 2

instance (val : Nat) : Decidable (BelowNextSquare val) :=
  inferInstanceAs (Decidable (_ ≤ _))

variable {val : Nat}

theorem log_sqrt_bounds (positive : 0 < val) :
    2 * Nat.log 2 (Nat.sqrt val) ≤ Nat.log 2 val ∧
      Nat.log 2 val ≤ 2 * Nat.log 2 (Nat.sqrt val) + 1 := by
  have root : 0 < Nat.sqrt val := Nat.sqrt_pos.mpr positive
  have low := Nat.pow_log_le_self 2 root.ne'
  have high := Nat.lt_pow_succ_log_self (show 1 < 2 by decide) (Nat.sqrt val)
  have square := Nat.sqrt_le' val
  have beyond := Nat.lt_succ_sqrt' val
  constructor
  · apply Nat.le_log_of_pow_le (by decide)
    rw [Nat.mul_comm,Nat.pow_mul]
    exact (Nat.pow_le_pow_left low 2).trans square
  · apply Nat.le_of_lt_succ
    apply Nat.log_lt_of_lt_pow positive.ne'
    have enough := Nat.pow_le_pow_left (show (Nat.sqrt val).succ ≤ _ from high) 2
    rw [← Nat.pow_mul,Nat.mul_comm] at enough
    exact Nat.lt_of_lt_of_le beyond enough

theorem sqrt_reached (positive : 0 < val) (short : val < 2 ^ 32) :
    2 ^ (23 - Nat.log 2 (Nat.sqrt (roundNat 24 val))) * Nat.sqrt val ^ 2 <
      Nat.sqrt val +
        2 ^ (23 - Nat.log 2 (Nat.sqrt (roundNat 24 val))) * roundNat 24 val := by
  have root : 0 < Nat.sqrt val := Nat.sqrt_pos.mpr positive
  have square := Nat.sqrt_le' val
  have first := pow_log_le_roundNat 24 positive
  have error := roundNat_error 24 val
  have kept := @roundNat_of_log_le 24 val
  obtain ⟨low,high⟩ := log_sqrt_bounds positive
  have small : Nat.log 2 val < 32 := Nat.log_lt_of_lt_pow positive.ne' short
  have power := Nat.pow_log_le_self 2 root.ne'
  generalize roundNat 24 val = single at first error kept ⊢
  have wide : Nat.log 2 (Nat.sqrt val) ≤ Nat.log 2 (Nat.sqrt single) := by
    apply Nat.le_log_of_pow_le (by decide)
    rw [Nat.le_sqrt',← Nat.pow_mul,Nat.mul_comm]
    exact (Nat.pow_le_pow_right (by decide) low).trans first
  have below (enough : Nat.sqrt val ^ 2 ≤ single) :
      2 ^ (23 - Nat.log 2 (Nat.sqrt single)) * Nat.sqrt val ^ 2 <
        Nat.sqrt val + 2 ^ (23 - Nat.log 2 (Nat.sqrt single)) * single := by
    have scaled := Nat.mul_le_mul_left (2 ^ (23 - Nat.log 2 (Nat.sqrt single))) enough
    omega
  by_cases digits : Nat.log 2 val ≤ 23
  · apply below
    rw [kept digits]
    exact square
  by_cases exact_power : Nat.sqrt val = 2 ^ Nat.log 2 (Nat.sqrt val)
  · apply below
    rw [exact_power,← Nat.pow_mul,Nat.mul_comm]
    exact (Nat.pow_le_pow_right (by decide) low).trans first
  · obtain ⟨shift,behind⟩ := Nat.exists_eq_add_of_le (show 24 ≤ Nat.log 2 val by omega)
    have half : val ≤ single + 2 ^ shift := by
      have scale : Nat.log 2 val - (24 - 1) = shift + 1 := by omega
      rw [scale,Nat.pow_succ] at error
      omega
    have scaled := Nat.mul_le_mul_left (2 ^ (23 - Nat.log 2 (Nat.sqrt single)))
      (square.trans half)
    have less : 2 ^ (23 - Nat.log 2 (Nat.sqrt single)) * 2 ^ shift ≤
        2 ^ Nat.log 2 (Nat.sqrt val) := by
      rw [← Nat.pow_add]
      exact Nat.pow_le_pow_right (by decide) (by omega)
    rw [Nat.mul_add] at scaled
    omega

theorem single_bounds (positive : 0 < val) (short : val < 2 ^ 32) :
    0 < roundNat 24 val ∧ roundNat 24 val ≤ 2 ^ 32 ∧
      Nat.log 2 (Nat.sqrt (roundNat 24 val)) ≤ 23 := by
  have small : Nat.log 2 val < 32 := Nat.log_lt_of_lt_pow positive.ne' short
  have single : 0 < roundNat 24 val :=
    Nat.lt_of_lt_of_le (Nat.two_pow_pos _) (pow_log_le_roundNat 24 positive)
  have bound := (roundNat_le_pow 24 val (by decide)).trans
    (Nat.pow_le_pow_right (show 0 < 2 by decide) small)
  have root : Nat.sqrt (roundNat 24 val) < 2 ^ 24 :=
    Nat.sqrt_lt'.mpr (Nat.lt_of_le_of_lt bound (by norm_num))
  have log := Nat.log_lt_of_lt_pow (Nat.sqrt_pos.mpr single).ne' root
  exact ⟨single,bound,Nat.le_of_lt_succ log⟩

theorem le_singleSqrt_iff {val whole : Nat} (positive : 0 < val) (short : val < 2 ^ 32)
    (some : 0 < whole) :
    whole ≤ ⌊singleSqrt val⌋₊ ↔
      2 ^ (23 - Nat.log 2 (Nat.sqrt (roundNat 24 val))) * whole ^ 2 <
        whole + 2 ^ (23 - Nat.log 2 (Nat.sqrt (roundNat 24 val))) * roundNat 24 val := by
  obtain ⟨single,_,log⟩ := single_bounds positive short
  rw [Nat.le_floor_iff' some.ne',singleSqrt,nearestEven_natCast 24 positive]
  exact natCast_le_nearestEven_sqrt_iff single some log

theorem roundedSqrt_iff {v : u32} (nonzero : v ≠ 0) :
    roundedSqrt v = BitVec.ofNat 32 (Nat.sqrt v.toNat) ↔ BelowNextSquare v.toNat := by
  have positive : 0 < v.toNat :=
    Nat.pos_of_ne_zero fun zero => nonzero (BitVec.eq_of_toNat_eq zero)
  have short := v.isLt
  have root : 0 < Nat.sqrt v.toNat := Nat.sqrt_pos.mpr positive
  have low : Nat.sqrt v.toNat ≤ ⌊singleSqrt v.toNat⌋₊ :=
    (le_singleSqrt_iff positive short root).mpr (sqrt_reached positive short)
  have next := le_singleSqrt_iff positive short (Nat.succ_pos (Nat.sqrt v.toNat))
  have high : ⌊singleSqrt v.toNat⌋₊ < 2 ^ 16 + 1 := by
    have top := le_singleSqrt_iff positive short (show 0 < 2 ^ 16 + 1 by decide)
    have scaled := Nat.mul_le_mul_left
      (2 ^ (23 - Nat.log 2 (Nat.sqrt (roundNat 24 v.toNat)))) (single_bounds positive short).2.1
    have power := Nat.two_pow_pos (23 - Nat.log 2 (Nat.sqrt (roundNat 24 v.toNat)))
    rw [← not_le,top,not_lt]
    omega
  have small : Nat.sqrt v.toNat < 2 ^ 16 := Nat.sqrt_lt.mpr short
  have same : roundedSqrt v = BitVec.ofNat 32 (Nat.sqrt v.toNat) ↔
      ⌊singleSqrt v.toNat⌋₊ = Nat.sqrt v.toNat := by
    constructor
    · intro equal
      have values := congrArg BitVec.toNat equal
      rw [roundedSqrt,BitVec.toNat_ofNat,BitVec.toNat_ofNat,Nat.mod_eq_of_lt (by omega),
        Nat.mod_eq_of_lt (by omega)] at values
      exact values
    · intro equal
      rw [roundedSqrt,equal]
  rw [same]
  unfold BelowNextSquare
  dsimp only
  rw [← not_lt,← Nat.succ_eq_add_one,← next]
  omega

theorem belowNextSquare_of_lt (few : val < 2 ^ 24) : BelowNextSquare val := by
  have digits : Nat.log 2 val ≤ 24 - 1 := by
    rcases Nat.eq_zero_or_pos val with rfl | positive
    · exact Nat.zero_le _
    · exact Nat.le_of_lt_succ (Nat.log_lt_of_lt_pow positive.ne' few)
  have root : Nat.sqrt val < 2 ^ 12 := Nat.sqrt_lt'.mpr few
  have beyond := Nat.lt_succ_sqrt' val
  unfold BelowNextSquare
  dsimp only
  rw [roundNat_of_log_le digits]
  have spare : 2 ^ 12 ≤ 2 ^ (23 - Nat.log 2 (Nat.sqrt val)) := by
    apply Nat.pow_le_pow_right (by decide)
    have log : Nat.log 2 (Nat.sqrt val) ≤ 11 := by
      rcases Nat.eq_zero_or_pos (Nat.sqrt val) with none | some
      · rw [none]
        exact Nat.zero_le _
      · exact Nat.le_of_lt_succ (Nat.log_lt_of_lt_pow some.ne' root)
    omega
  have scaled := Nat.mul_le_mul_left (2 ^ (23 - Nat.log 2 (Nat.sqrt val)))
    (Nat.succ_le_of_lt beyond)
  rw [Nat.mul_succ] at scaled
  exact Nat.le_trans (by omega) scaled

def exactRoot (st : MathState) : u32 :=
  BitVec.ofNat 32 (Nat.sqrt (sqrtKey st.sqrt.mode st.mem).toNat)

def CacheExact (st : MathState) : Prop :=
  ∀ key, st.cached_sqrt key = 0 ∨
    st.cached_sqrt key = BitVec.ofNat 32 (Nat.sqrt key.toNat)

/-- The 64-bit mode, an operand that the cache knows, or one that single
precision does not bring to the next square. -/
def SafeOperand (st : MathState) : Prop :=
  st.sqrt.mode ≠ 0 ∨ st.cached_sqrt (sqrtKey st.sqrt.mode st.mem) ≠ 0 ∨
    BelowNextSquare (T1ReadLong st.mem 0x2B8).toNat

theorem sqrtResult_execsqrt (st : MathState) :
    (execsqrt roundedSqrt st).sqrtResult =
      if st.cached_sqrt (sqrtKey st.sqrt.mode st.mem) = 0 ∧
          sqrtKey st.sqrt.mode st.mem ≠ 0 then
        computeSqrt roundedSqrt st.sqrt.mode st.mem
      else st.cached_sqrt (sqrtKey st.sqrt.mode st.mem) := rfl

theorem setWidth_eq_zero {v : u32} (zero : v.setWidth 64 = (0 : u64)) : v = 0 := by
  have low := congrArg (BitVec.setWidth 32) zero
  rw [BitVec.setWidth_setWidth_of_le _ (by decide),BitVec.setWidth_eq] at low
  exact low

variable {st : MathState}

theorem execsqrt_exact_iff (cache : CacheExact st) :
    (execsqrt roundedSqrt st).sqrtResult = exactRoot st ↔ SafeOperand st := by
  rw [sqrtResult_execsqrt]
  by_cases known : st.cached_sqrt (sqrtKey st.sqrt.mode st.mem) = 0
  · by_cases zero : sqrtKey st.sqrt.mode st.mem = 0
    · have root : exactRoot st = 0 := by
        rw [exactRoot,zero]
        rfl
      rw [if_neg (fun miss => miss.2 zero),known,root]
      refine iff_of_true rfl ?_
      by_cases long : st.sqrt.mode ≠ 0
      · exact Or.inl long
      · rw [sqrtKey,if_neg long] at zero
        have none : T1ReadLong st.mem 0x2B8 = 0 := setWidth_eq_zero zero
        rw [SafeOperand,none]
        exact Or.inr (Or.inr (belowNextSquare_of_lt (Nat.two_pow_pos 24)))
    · rw [if_pos ⟨known,zero⟩,computeSqrt]
      unfold SafeOperand exactRoot
      by_cases long : st.sqrt.mode ≠ 0
      · rw [if_pos long,sqrtKey,if_pos long]
        exact iff_of_true (isqrt_eq_sqrt _) (Or.inl long)
      · rw [if_neg long]
        rw [sqrtKey,if_neg long] at known zero ⊢
        have nonzero : T1ReadLong st.mem 0x2B8 ≠ 0 := by
          intro none
          apply zero
          rw [none]
          rfl
        rw [BitVec.toNat_setWidth_of_le (by decide),roundedSqrt_iff nonzero,known]
        constructor
        · exact fun below => Or.inr (Or.inr below)
        · intro safe
          exact (safe.resolve_left long).resolve_left (fun cached => cached rfl)
  · rw [if_neg (fun miss => known miss.1)]
    exact iff_of_true ((cache _).resolve_left known) (Or.inr (Or.inl known))

theorem cacheExact_execsqrt (cache : CacheExact st)
    (safe : SafeOperand st) : CacheExact (execsqrt roundedSqrt st) := by
  have res := (execsqrt_exact_iff cache).mpr safe
  rw [sqrtResult_execsqrt] at res
  have table : (execsqrt roundedSqrt st).cached_sqrt =
      if st.cached_sqrt (sqrtKey st.sqrt.mode st.mem) = 0 ∧
          sqrtKey st.sqrt.mode st.mem ≠ 0 then
        Function.update st.cached_sqrt (sqrtKey st.sqrt.mode st.mem)
          (if st.cached_sqrt (sqrtKey st.sqrt.mode st.mem) = 0 ∧
              sqrtKey st.sqrt.mode st.mem ≠ 0 then
            computeSqrt roundedSqrt st.sqrt.mode st.mem
          else st.cached_sqrt (sqrtKey st.sqrt.mode st.mem))
      else st.cached_sqrt := rfl
  intro key
  rw [table,res]
  by_cases miss : st.cached_sqrt (sqrtKey st.sqrt.mode st.mem) = 0 ∧
      sqrtKey st.sqrt.mode st.mem ≠ 0
  · rw [if_pos miss]
    by_cases here : key = sqrtKey st.sqrt.mode st.mem
    · rw [here,Function.update_self]
      exact Or.inr rfl
    · rw [Function.update_of_ne here]
      exact cache key
  · rw [if_neg miss]
    exact cache key

theorem cached_sqrt_written (st : MathState) (op : Op) :
    (written st op).cached_sqrt = st.cached_sqrt := by
  unfold written
  cases op.access with
  | none => rfl
  | some access =>
      obtain ⟨access,unit⟩ := access
      cases access with
      | ignored => rfl
      | divcnt val => rfl
      | sqrtcnt val => rfl
      | storeByte off val => rfl
      | storeWord off val => rfl
      | storeLong off val => rfl

theorem cached_sqrt_execHardware (st : MathState) :
    (execHardware st).cached_sqrt = st.cached_sqrt := by
  have first : (afterSqrtunit st).cached_sqrt = st.cached_sqrt := by
    unfold afterSqrtunit
    split
    · rfl
    · rfl
  rw [execHardware_eq]
  split
  · exact first
  · exact first

theorem cached_sqrt_step (st : MathState) (op : Op) (other : starts op ≠ .sqrtunit) :
    (step roundedSqrt st op).cached_sqrt = st.cached_sqrt := by
  cases found : op.access with
  | none =>
      cases op with
      | write08 adr val => cases found
      | write16 adr val => cases found
      | write32 adr val => cases found
      | advance cycles => rfl
      | execHardware => exact cached_sqrt_execHardware st
  | some access =>
      have stored := cached_sqrt_written st op
      obtain ⟨-,performed⟩ := step_of_access roundedSqrt found
      rw [starts,found] at other
      rw [written,found] at stored
      rw [performed]
      obtain ⟨access,unit⟩ := access
      cases unit with
      | none => exact stored
      | divider => exact stored
      | sqrtunit => exact absurd rfl other

/-- A start of the square root unit will deliver the integer root of the
operand that the mode selects. -/
def StartsExactly (st : MathState) (op : Op) : Prop :=
  starts op = .sqrtunit →
    (step roundedSqrt st op).sqrtResult = exactRoot (written st op)

def StartsSafely (st : MathState) (op : Op) : Prop :=
  starts op = .sqrtunit → SafeOperand (written st op)

theorem CacheExact.written (cache : CacheExact st) (op : Op) : CacheExact (written st op) := by
  unfold CacheExact
  rw [cached_sqrt_written]
  exact cache

theorem startsExactly_iff (cache : CacheExact st) (op : Op) :
    StartsExactly st op ↔ StartsSafely st op := by
  unfold StartsExactly StartsSafely
  refine forall_congr' fun here => ?_
  rw [step_of_starts roundedSqrt here nofun]
  exact execsqrt_exact_iff (cache.written op)

theorem cacheExact_step {op : Op} (cache : CacheExact st)
    (safe : StartsSafely st op) : CacheExact (step roundedSqrt st op) := by
  by_cases here : starts op = .sqrtunit
  · rw [step_of_starts roundedSqrt here nofun]
    exact cacheExact_execsqrt (cache.written op) (safe here)
  · unfold CacheExact
    rw [cached_sqrt_step st op here]
    exact cache

/-- Every root that a run starts is the integer root exactly when every start
is in the 64-bit mode, finds its operand in the cache, or has an operand that
single precision does not bring to the next square. -/
theorem square_roots_exact_iff (ops : List Op) :
    Run.Guarded (step roundedSqrt) StartsExactly .reset ops ↔
      Run.Guarded (step roundedSqrt) StartsSafely .reset ops := by
  have agree (st : MathState) (op : Op) (cache : CacheExact st) :
      StartsExactly st op ↔ StartsSafely st op := startsExactly_iff cache op
  have kept (st : MathState) (op : Op) (cache : CacheExact st)
      (safe : StartsSafely st op) : CacheExact (step roundedSqrt st op) :=
    cacheExact_step cache safe
  have empty : CacheExact .reset := fun _ => Or.inl rfl
  exact Run.guarded_iff_guarded agree kept empty ops

theorem not_belowNextSquare : ¬BelowNextSquare 16785408 := by
  decide +kernel

/-- The square of 4097 less one, in the 32-bit mode. -/
theorem root_of_4097_squared_less_one :
    ¬∀ ops, Run.Guarded (step roundedSqrt) StartsExactly .reset ops := by
  intro everywhere
  obtain ⟨wrong,-⟩ := everywhere [.write32 ⟨0x2B8,by decide⟩ 16785408]
  have safe := (startsExactly_iff (fun _ => Or.inl rfl) _).mp wrong rfl
  rcases safe with long | cached | below
  · exact long rfl
  · exact cached rfl
  · exact not_belowNextSquare below

end Desmume.MathUnits
