/-
Cutting a save at its blank end and rounding its size up.

`trim` looks at rows of 16 bytes, counted from the end, and stops at the first
that is not blank.
-/

import Desmume.Backup.Setup
import Mathlib.Order.Bounds.Basic

namespace Desmume.Backup

open BackupDevice

/-- The save is blank from `cut` on. -/
def BlankFrom (src : Nat → u8) (size cut : Nat) : Prop :=
  ∀ i, cut ≤ i → i < size → src i = 0xFF

/-- Trimming loses blank bytes only and leaves no blank row at the end. -/
structure TrimsExactly (src : Nat → u8) (size : u32) : Prop where
  within : (trim src size).toNat ≤ size.toNat
  blank : BlankFrom src size.toNat (trim src size).toNat
  least : ∀ rows, 16 * rows ≤ size.toNat → BlankFrom src size.toNat (size.toNat - 16 * rows) →
    (trim src size).toNat ≤ size.toNat - 16 * rows

def memorySizes : List u32 := (save_types.drop 1).map SAVE_TYPE.size

structure RoundsAlike (size : u32) : Prop where
  same : fillLeft size = pad_up_size size
  smallest : IsLeast { supported | supported ∈ memorySizes ∧ size ≤ supported } (fillLeft size)

/-- A byte of the row from `start` on is not blank. -/
def Marked (src : Nat → u8) (start : Nat) : Prop := ∃ t < 16, src (start + t) ≠ 0xFF

variable (src : Nat → u8)

theorem trimRows_succ (size : u32) (rows : Nat) (pos : u32) :
    (Marked src pos.toNat ∧ trimRows src size (rows + 1) pos = pos + 16) ∨
      (¬Marked src pos.toNat ∧
        trimRows src size (rows + 1) pos = trimRows src size rows (pos - 16)) := by
  have blank : (List.range 16).all (fun t => src (pos.toNat + t) = 0xFF) = true ↔
      ¬Marked src pos.toNat := by
    unfold Marked
    rw [List.all_eq_true]
    push Not
    constructor
    · intro all t inside
      exact of_decide_eq_true (all t (List.mem_range.mpr inside))
    · intro all t listed
      exact decide_eq_true (all t (List.mem_range.mp listed))
  rw [trimRows]
  by_cases row : (List.range 16).all (fun t => src (pos.toNat + t) = 0xFF) = true
  · exact Or.inr ⟨blank.mp row,if_pos row⟩
  · exact Or.inl ⟨not_not.mp (fun unmarked => row (blank.mpr unmarked)),if_neg row⟩

theorem trimRows_spec (size : u32) (base rows : Nat) :
    ∀ pos : u32, base + 16 * rows ≤ size.toNat → pos.toNat + 16 = base + 16 * rows ∨ rows = 0 →
      (∃ row < rows, Marked src (base + 16 * row) ∧
        (trimRows src size rows pos).toNat = base + 16 * (row + 1) ∧
          ∀ later < rows, row < later → ¬Marked src (base + 16 * later)) ∨
      ((∀ row < rows, ¬Marked src (base + 16 * row)) ∧ trimRows src size rows pos = size) := by
  have bound := size.isLt
  induction rows with
  | zero =>
      intro pos within here
      exact Or.inr ⟨fun row none => absurd none (Nat.not_lt_zero row), rfl⟩
  | succ rows ih =>
      intro pos within here
      have place : pos.toNat = base + 16 * rows := by omega
      rcases trimRows_succ src size rows pos with ⟨marked,stopped⟩ | ⟨unmarked,goes⟩
      · rw [place] at marked
        refine Or.inl ⟨rows,Nat.lt_succ_self rows,marked,?_,?_⟩
        · rw [stopped,BitVec.toNat_add]
          change (pos.toNat + 16) % 2 ^ 32 = _
          omega
        · intro later below above
          omega
      · rw [place] at unmarked
        have before : (pos - 16).toNat + 16 = base + 16 * rows ∨ rows = 0 := by
          rcases Nat.eq_zero_or_pos rows with none | some
          · exact Or.inr none
          · have sixteen : (16 : u32).toNat = 16 := rfl
            rw [BitVec.toNat_sub,sixteen]
            omega
        rw [goes]
        rcases ih (pos - 16) (by omega) before with ⟨row,below,marked,val,others⟩ | ⟨none,val⟩
        · refine Or.inl ⟨row,by omega,marked,val,?_⟩
          intro later inside above
          rcases Nat.lt_succ_iff_lt_or_eq.mp inside with earlier | rfl
          · exact others later earlier above
          · exact unmarked
        · refine Or.inr ⟨?_,val⟩
          intro row inside
          rcases Nat.lt_succ_iff_lt_or_eq.mp inside with earlier | rfl
          · exact none row earlier
          · exact unmarked

theorem trim_spec (size : u32) :
    (∃ row < size.toNat / 16, Marked src (size.toNat % 16 + 16 * row) ∧
        (trim src size).toNat = size.toNat % 16 + 16 * (row + 1) ∧
          ∀ later < size.toNat / 16, row < later → ¬Marked src (size.toNat % 16 + 16 * later)) ∨
      ((∀ row < size.toNat / 16, ¬Marked src (size.toNat % 16 + 16 * row)) ∧
        trim src size = size) := by
  have start : (size - 16).toNat + 16 = size.toNat % 16 + 16 * (size.toNat / 16) ∨
      size.toNat / 16 = 0 := by
    have bound := size.isLt
    have sixteen : (16 : u32).toNat = 16 := rfl
    rw [BitVec.toNat_sub,sixteen]
    omega
  have found := trimRows_spec src size (size.toNat % 16) (size.toNat / 16) (size - 16) (by omega)
    start
  exact found

theorem marked_iff (size : Nat) :
    (∃ row < size / 16, Marked src (size % 16 + 16 * row)) ↔
      ∃ i, size % 16 ≤ i ∧ i < size ∧ src i ≠ 0xFF := by
  constructor
  · rintro ⟨row,inside,t,small,byte⟩
    exact ⟨_,by omega,by omega,byte⟩
  · rintro ⟨i,low,high,byte⟩
    have place : size % 16 + 16 * ((i - size % 16) / 16) + (i - size % 16) % 16 = i := by
      omega
    refine ⟨(i - size % 16) / 16,by omega,(i - size % 16) % 16,by omega,?_⟩
    rw [place]
    exact byte

theorem trims_exactly_iff (size : u32) :
    TrimsExactly src size ↔ size.toNat < 16 ∨
      ∃ i, size.toNat % 16 ≤ i ∧ i < size.toNat ∧ src i ≠ 0xFF := by
  rw [← marked_iff]
  rcases trim_spec src size with ⟨row,inside,marked,val,later⟩ | ⟨none,val⟩
  · refine ⟨fun _ => Or.inr ⟨row,inside,marked⟩, fun _ => ⟨by omega,?_,?_⟩⟩
    · intro i above below
      by_contra byte
      have place : size.toNat % 16 + 16 * ((i - size.toNat % 16) / 16) +
          (i - size.toNat % 16) % 16 = i := by
        omega
      apply later ((i - size.toNat % 16) / 16) (by omega) (by omega)
      refine ⟨(i - size.toNat % 16) % 16,by omega,?_⟩
      rw [place]
      exact byte
    · intro rows fits blank
      obtain ⟨t,small,byte⟩ := marked
      by_contra beyond
      exact byte (blank (size.toNat % 16 + 16 * row + t) (by omega) (by omega))
  · constructor
    · intro exactly
      by_contra neither
      rw [not_or] at neither
      have blank : BlankFrom src size.toNat (size.toNat - 16 * 1) := by
        intro i above below
        by_contra byte
        exact neither.2 ((marked_iff src size.toNat).mpr ⟨i,by omega,below,byte⟩)
      have cut := exactly.least 1 (by omega) blank
      rw [val] at cut
      omega
    · rintro (short | ⟨row,inside,marked⟩)
      · refine ⟨by rw [val],?_,?_⟩
        · intro i above below
          rw [val] at above
          omega
        · intro rows fits blank
          rw [val]
          omega
      · exact absurd marked (none row inside)

theorem add_missing (size supported : u32) : size + (supported - size) = supported := by
  rw [BitVec.add_comm,BitVec.sub_add_cancel]

theorem last_not_lt (size : u32) : ¬size > 0xFFFFFFFF := by
  have bound := size.isLt
  rw [gt_iff_lt,BitVec.lt_def]
  change ¬0xFFFFFFFF < size.toNat
  omega

theorem find_eq_padFrom (size : u32) (types : List SAVE_TYPE)
    (bounded : ∀ type ∈ types, type.size ≠ 0xFFFFFFFF) :
    (match types.find? (fun entry => size ≤ entry.size) with
      | some entry => size + (entry.size - size)
      | none => size) =
      padFrom size (types.map SAVE_TYPE.size ++ [0xFFFFFFFF]) := by
  induction types with
  | nil =>
      rw [List.find?_nil,List.map_nil,List.nil_append,padFrom,if_neg (last_not_lt size),
        if_pos rfl]
  | cons type later ih =>
      have rest := ih fun other listed => bounded other (List.mem_cons_of_mem _ listed)
      rw [List.map_cons,List.cons_append,padFrom]
      by_cases enough : size ≤ type.size
      · have found : (type :: later).find? (fun entry => decide (size ≤ entry.size)) = some type :=
          List.find?_cons_of_pos (decide_eq_true enough)
        rw [found,if_neg (BitVec.not_lt.mpr enough),if_neg (bounded type List.mem_cons_self)]
        exact add_missing size type.size
      · have passed : (type :: later).find? (fun entry => decide (size ≤ entry.size)) =
            later.find? (fun entry => decide (size ≤ entry.size)) :=
          List.find?_cons_of_neg (by rwa [decide_eq_true_eq])
        rw [passed,if_pos (BitVec.not_le.mp enough)]
        exact rest

theorem padFrom_cons_of_lt {size first : u32} {sizes : List u32} (above : first < size) :
    padFrom size (first :: sizes) = padFrom size sizes := if_pos above

theorem padFrom_cons_of_le {size first : u32} {sizes : List u32} (enough : size ≤ first)
    (bounded : first ≠ 0xFFFFFFFF) : padFrom size (first :: sizes) = first := by
  rw [padFrom,if_neg (BitVec.not_lt.mpr enough),if_neg bounded]

theorem padFrom_isLeast (size : u32) (sizes : List u32) (ascending : sizes.Pairwise (· < ·))
    (bounded : ∀ supported ∈ sizes, supported ≠ 0xFFFFFFFF)
    (some : ∃ supported ∈ sizes, size ≤ supported) (beyond : List u32) :
    IsLeast { supported | supported ∈ sizes ∧ size ≤ supported }
      (padFrom size (sizes ++ beyond)) := by
  induction sizes with
  | nil =>
      obtain ⟨supported,listed,_⟩ := some
      cases listed
  | cons first later ih =>
      obtain ⟨smaller,rest⟩ := List.pairwise_cons.mp ascending
      rw [List.cons_append]
      by_cases enough : size ≤ first
      · rw [padFrom_cons_of_le enough (bounded first List.mem_cons_self)]
        refine ⟨⟨List.mem_cons_self,enough⟩,?_⟩
        rintro supported ⟨listed,_⟩
        rcases List.mem_cons.mp listed with rfl | after
        · exact BitVec.le_refl _
        · exact BitVec.le_of_lt (smaller supported after)
      · have above : first < size := BitVec.not_le.mp enough
        rw [padFrom_cons_of_lt above]
        obtain ⟨supported,listed,large⟩ := some
        have after : supported ∈ later := by
          rcases List.mem_cons.mp listed with rfl | after
          · exact absurd large enough
          · exact after
        have least := ih rest (fun other listed => bounded other (List.mem_cons_of_mem _ listed))
          ⟨supported,after,large⟩
        refine ⟨⟨List.mem_cons_of_mem _ least.1.1,least.1.2⟩,?_⟩
        rintro other ⟨place,enoughOther⟩
        rcases List.mem_cons.mp place with rfl | inLater
        · exact absurd enoughOther enough
        · exact least.2 ⟨inLater,enoughOther⟩

theorem fillLeft_eq (size : u32) :
    fillLeft size = padFrom size (0x200 :: 0x2000 :: 0x10000 :: 0x8000 :: saveSizes.drop 4) := by
  have bounded : ∀ type ∈ save_types.drop 1, type.size ≠ 0xFFFFFFFF := by decide
  exact find_eq_padFrom size (save_types.drop 1) bounded

theorem pad_up_size_eq (size : u32) :
    pad_up_size size =
      padFrom size (0x200 :: 0x2000 :: 0x8000 :: 0x10000 :: saveSizes.drop 4) := rfl

theorem fillLeft_between {size : u32} (above : 0x2000 < size) (below : size ≤ 0x8000) :
    fillLeft size = 0x10000 ∧ pad_up_size size = 0x8000 := by
  have first : 0x200 < size := BitVec.lt_trans (by decide : (0x200 : u32) < 0x2000) above
  have fits : size ≤ 0x10000 := BitVec.le_trans below (by decide : (0x8000 : u32) ≤ 0x10000)
  constructor
  · rw [fillLeft_eq,padFrom_cons_of_lt first,padFrom_cons_of_lt above,
      padFrom_cons_of_le fits (by decide)]
  · rw [pad_up_size_eq,padFrom_cons_of_lt first,padFrom_cons_of_lt above,
      padFrom_cons_of_le below (by decide)]

theorem fillLeft_eq_pad_up_size {size : u32} (outside : size ≤ 0x2000 ∨ 0x8000 < size) :
    fillLeft size = pad_up_size size := by
  rw [fillLeft_eq,pad_up_size_eq]
  by_cases tiny : size ≤ 0x200
  · rw [padFrom_cons_of_le tiny (by decide),padFrom_cons_of_le tiny (by decide)]
  · rw [padFrom_cons_of_lt (BitVec.not_le.mp tiny),padFrom_cons_of_lt (BitVec.not_le.mp tiny)]
    rcases outside with small | large
    · rw [padFrom_cons_of_le small (by decide),padFrom_cons_of_le small (by decide)]
    · have second : 0x2000 < size := BitVec.lt_trans (by decide : (0x2000 : u32) < 0x8000) large
      rw [padFrom_cons_of_lt second,padFrom_cons_of_lt second,padFrom_cons_of_lt large]
      by_cases medium : size ≤ 0x10000
      · rw [padFrom_cons_of_le medium (by decide),padFrom_cons_of_le medium (by decide)]
      · have third := BitVec.not_le.mp medium
        rw [padFrom_cons_of_lt third,padFrom_cons_of_lt third,padFrom_cons_of_lt large]

theorem rounds_alike_iff {size : u32} (supported : size ≤ 0x4000000) :
    RoundsAlike size ↔ size ≤ 0x2000 ∨ 0x8000 < size := by
  constructor
  · intro alike
    by_contra between
    rw [not_or,BitVec.not_le,BitVec.not_lt] at between
    obtain ⟨filled,padded⟩ := fillLeft_between between.1 between.2
    have same := alike.same
    rw [filled,padded] at same
    exact absurd same (by decide)
  · intro outside
    have same := fillLeft_eq_pad_up_size outside
    refine ⟨same,?_⟩
    have ascending : saveSizes.dropLast.Pairwise (· < ·) := by decide
    have bounded : ∀ entry ∈ saveSizes.dropLast, entry ≠ 0xFFFFFFFF := by simp [saveSizes]
    have tables : memorySizes.Perm saveSizes.dropLast :=
      ((List.Perm.swap (0x8000 : u32) 0x10000 _).cons 0x2000).cons 0x200
    have least := padFrom_isLeast size saveSizes.dropLast ascending bounded
      ⟨0x4000000,by decide,supported⟩ [0xFFFFFFFF]
    rw [same]
    simp only [tables.mem_iff]
    exact least

/-- For every buffer and size, and every size up to 64 MiB to be rounded:
trimming is exact when a full row of the buffer is marked or there is none, and
rounding is alike outside the sizes that fit the FRAM but not the EEPROM of
8 KiB. -/
theorem trim_and_rounding_iff (src : Nat → u8) (size rounded : u32)
    (supported : rounded ≤ 0x4000000) :
    TrimsExactly src size ∧ RoundsAlike rounded ↔
      (size.toNat < 16 ∨
        ∃ i, size.toNat % 16 ≤ i ∧ i < size.toNat ∧ src i ≠ 0xFF) ∧
      (rounded ≤ 0x2000 ∨ 0x8000 < rounded) := by
  rw [trims_exactly_iff,rounds_alike_iff supported]

/-- A marked save of 32 bytes is cut at its half. -/
theorem trim_and_rounding_of_marked :
    TrimsExactly (fun i => if i = 3 then 0 else 0xFF) 32 ∧ RoundsAlike 32 :=
  (trim_and_rounding_iff (fun i => if i = 3 then 0 else 0xFF) 32 32 (by decide)).mpr
    ⟨Or.inr ⟨3,by decide,by decide,by decide⟩,Or.inl (by decide)⟩

/-- A blank save is not cut, and 8 KiB and a byte become 64 KiB or 32 KiB. -/
theorem blank_save_and_fram :
    ¬TrimsExactly (fun _ => 0xFF) 0x200 ∧
      ¬∀ (src : Nat → u8) (size : u32), size ≤ 0x4000000 →
        fillLeft (trim src size) = pad_up_size (trim src size) := by
  constructor
  · intro exactly
    rcases (trims_exactly_iff _ _).mp exactly with short | ⟨i,_,_,byte⟩
    · exact absurd short (by decide)
    · exact byte rfl
  · intro everywhere
    exact absurd (everywhere (fun _ => 0) 0x2001 (by decide)) (by decide)

end Desmume.Backup
