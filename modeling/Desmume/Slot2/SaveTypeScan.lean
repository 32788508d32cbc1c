/-
`scanSaveTypeGBA` with its arithmetic, and what `connect` does with the code.

Each round of the scan computes how far it has come in percent, with an `int`
that can overflow and a divisor that is zero for a file of one byte.
-/

import Desmume.Lib.While
import Desmume.Slot2.GbaCart

namespace Desmume.Slot2
namespace SaveTypeScan

open Backup

inductive Fault
  | overflows
  | dividesByZero
  deriving DecidableEq

/-- `pos*100/(size-1)` on `int`. -/
def currPct (pos size : Int) : Except Fault Int :=
  if 2 ^ 31 ≤ pos * 100 then .error .overflows
  else if size - 1 = 0 then .error .dividesByZero
  else .ok ((pos * 100).tdiv (size - 1))

def firstWord : List u8 → Option u32
  | b0 :: b1 :: b2 :: b3 :: _ => some (b3 ++ b2 ++ b1 ++ b0)
  | _ => none

section

variable (stack : u32)

/-- The `switch` of the loop. -/
def savedBy (tmp : u32) (rom : EMUFILE) : Option u32 :=
  if tmp = EEPROM then some 1
  else if tmp = SRAM_ then some 2
  else if tmp = FLASH then some (if (rom.read32le stack).2 = FLASH1M_ then 3 else 5)
  else if tmp = SIIRTC_V then some 4
  else none

def scanRound (rom : EMUFILE) : Except (Except Fault u32) EMUFILE :=
  let (next, bytes) := rom.fread 4
  match currPct next.pos rom.bytes.length with
  | .error fault => .error (.error fault)
  | .ok _ =>
      match firstWord bytes with
      | none => .error (.ok 0xFF)
      | some tmp =>
          if rom.bytes.length ≤ next.pos then .error (.ok 0xFF)
          else
            match savedBy stack tmp next with
            | some saveType => .error (.ok saveType)
            | none => .ok next

def ScanEnds (rom : EMUFILE) (outcome : Except Fault u32) : Prop :=
  ∃ rounds, While.after (scanRound stack) rounds (rom.fseek 0 .SEEK_SET) = .error outcome

end

def saveTypes : List String := ["EEPROM","SRAM","FLASH","FLASH1M","SIIRTC_V"]

/-- The name that `connect` prints; `none` outside of the table. -/
def saveTypeName (saveType : u32) : Option String :=
  if saveType = 0xFF then some "Unknown" else saveTypes[saveType.toNat]?

def marks (tmp : u32) (behind : List u8) : Option u32 :=
  if tmp = EEPROM then some 1
  else if tmp = SRAM_ then some 2
  else if tmp = FLASH then some (if firstWord behind = some FLASH1M_ then 3 else 5)
  else if tmp = SIIRTC_V then some 4
  else none

def firstMarker (pos : Nat) : List u8 → Option (Nat × u32)
  | b0 :: b1 :: b2 :: b3 :: behind =>
      match marks (b3 ++ b2 ++ b1 ++ b0) behind with
      | some saveType => some (pos, saveType)
      | none => firstMarker (pos + 4) behind
  | _ => none

def typeOf (bytes : List u8) : u32 :=
  match firstMarker 0 bytes with
  | some (_, saveType) => saveType
  | none => 0xFF

structure ScanRight (stack : u32) (rom : EMUFILE) : Prop where
  ends : ScanEnds stack rom (.ok (typeOf rom.bytes))
  named : (saveTypeName (typeOf rom.bytes)).isSome

def limit : Nat := 21474836

def Scannable (bytes : List u8) : Prop :=
  bytes.length ≠ 1 ∧
    match firstMarker 0 bytes with
    | some (pos, saveType) => pos + 4 < bytes.length ∧ pos + 4 ≤ limit ∧ saveType ≠ 5
    | none => bytes.length ≤ limit

section

variable {stack : u32} {mode : FileMode} {bytes : List u8} {pos : Nat}

theorem firstMarker_pos {start pos : Nat} {rest : List u8} {saveType : u32}
    (found : firstMarker start rest = some (pos, saveType)) :
    start ≤ pos ∧ pos + 4 ≤ start + rest.length := by
  fun_induction firstMarker start rest with
  | case1 start b0 b1 b2 b3 behind other marked =>
      cases found
      simp only [List.length_cons]
      omega
  | case2 start b0 b1 b2 b3 behind unmarked ih =>
      have later := ih found
      simp only [List.length_cons]
      omega
  | case3 => cases found

theorem currPct_error {pos size : Nat} (beyond : limit < pos) :
    currPct pos size = .error .overflows := if_pos (by unfold limit at beyond; omega)

theorem currPct_ok {pos size : Nat} (inside : pos ≤ limit) (notOne : size ≠ 1) :
    ∃ percent, currPct pos size = .ok percent := by
  unfold limit at inside
  unfold currPct
  rw [if_neg (by omega),if_neg (by omega)]
  exact ⟨_,rfl⟩

theorem scanRound_short (short : (bytes.drop pos).length < 4) (inside : pos ≤ bytes.length)
    (notOne : bytes.length ≠ 1) :
    scanRound stack ⟨mode,bytes,pos⟩ =
      .error (if limit < bytes.length then .error .overflows else .ok 0xFF) := by
  have atEnd : pos + ((bytes.drop pos).take 4).length = bytes.length := by
    rw [List.take_of_length_le (by omega),List.length_drop]
    omega
  have noWord : firstWord ((bytes.drop pos).take 4) = none := by
    rw [List.take_of_length_le (by omega)]
    match bytes.drop pos, short with
    | [], _ => rfl
    | [_], _ => rfl
    | [_,_], _ => rfl
    | [_,_,_], _ => rfl
  unfold scanRound EMUFILE.fread
  dsimp only
  rw [atEnd]
  by_cases beyond : limit < bytes.length
  · rw [currPct_error beyond,if_pos beyond]
  · obtain ⟨percent,computed⟩ := currPct_ok (Nat.le_of_not_lt beyond) notOne
    rw [computed,if_neg beyond]
    dsimp only
    rw [noWord]

theorem scanRound_word {b0 b1 b2 b3 : u8} {behind : List u8}
    (word : bytes.drop pos = b0 :: b1 :: b2 :: b3 :: behind) (notOne : bytes.length ≠ 1) :
    scanRound stack ⟨mode,bytes,pos⟩ =
      if limit < pos + 4 then .error (.error .overflows)
      else if behind = [] then .error (.ok 0xFF)
      else
        match savedBy stack (b3 ++ b2 ++ b1 ++ b0) ⟨mode,bytes,pos + 4⟩ with
        | some saveType => .error (.ok saveType)
        | none => .ok ⟨mode,bytes,pos + 4⟩ := by
  have size : bytes.length = pos + 4 + behind.length := by
    have lengths := congrArg List.length word
    rw [List.length_drop] at lengths
    simp only [List.length_cons] at lengths
    omega
  unfold scanRound EMUFILE.fread
  dsimp only
  rw [word]
  change (match currPct ((pos + 4 : Nat) : Int) bytes.length with | .error _ => _ | .ok _ => _) = _
  by_cases beyond : limit < pos + 4
  · rw [currPct_error beyond,if_pos beyond]
  · obtain ⟨percent,computed⟩ := currPct_ok (Nat.le_of_not_lt beyond) notOne
    rw [computed,if_neg beyond]
    change (if bytes.length ≤ pos + 4 then _ else _) = _
    by_cases last : behind = []
    · rw [if_pos last,if_pos (by rw [size,last]; exact Nat.le_refl _)]
    · have more : 0 < behind.length := List.length_pos_of_ne_nil last
      rw [if_neg last,if_neg (by omega)]
      rfl

theorem read32le_of_firstWord {w : u32} (word : firstWord (bytes.drop pos) = some w) :
    (EMUFILE.read32le ⟨mode,bytes,pos⟩ stack).2 = w := by
  unfold EMUFILE.read32le EMUFILE.fread
  dsimp only
  match whole : bytes.drop pos with
  | b0 :: b1 :: b2 :: b3 :: behind =>
      rw [whole] at word
      exact Option.some.inj word
  | [] | [_] | [_,_] | [_,_,_] =>
      rw [whole] at word
      cases word

theorem savedBy_of_unmarked {tmp : u32} {behind : List u8} (unmarked : marks tmp behind = none)
    (rom : EMUFILE) : savedBy stack tmp rom = none := by
  unfold marks at unmarked
  unfold savedBy
  split at unmarked
  · cases unmarked
  · next notEeprom =>
    rw [if_neg notEeprom]
    split at unmarked
    · cases unmarked
    · next notSram =>
      rw [if_neg notSram]
      split at unmarked
      · cases unmarked
      · next notFlash =>
        rw [if_neg notFlash]
        split at unmarked
        · cases unmarked
        · next notSii => rw [if_neg notSii]

theorem savedBy_of_marked {tmp saveType : u32} (notFlash : saveType ≠ 5)
    (marked : marks tmp (bytes.drop pos) = some saveType) :
    savedBy stack tmp ⟨mode,bytes,pos⟩ = some saveType := by
  unfold marks at marked
  unfold savedBy
  by_cases flash : tmp = FLASH
  · subst flash
    rw [if_neg (by decide),if_neg (by decide),if_pos rfl] at marked ⊢
    by_cases wide : firstWord (bytes.drop pos) = some FLASH1M_
    · rw [if_pos wide] at marked
      rw [read32le_of_firstWord wide,if_pos rfl]
      exact marked
    · rw [if_neg wide] at marked
      exact absurd (Option.some.inj marked).symm notFlash
  · rw [if_neg flash] at marked ⊢
    exact marked

def scanOutcome (size : Nat) : Option (Nat × u32) → Except Fault u32
  | none => if limit < size then .error .overflows else .ok 0xFF
  | some (found, saveType) =>
      if limit < found + 4 then .error .overflows
      else if found + 4 = size then .ok 0xFF
      else .ok saveType

theorem scan_outcome (rest : List u8) (here : bytes.drop pos = rest) (inside : pos ≤ bytes.length)
    (notOne : bytes.length ≠ 1) (notFlash : ∀ found, firstMarker pos rest ≠ some (found, 5)) :
    ∃ rounds, While.after (scanRound stack) rounds ⟨mode,bytes,pos⟩ =
      .error (scanOutcome bytes.length (firstMarker pos rest)) := by
  have size : bytes.length = pos + rest.length := by
    rw [← here,List.length_drop]
    omega
  fun_induction firstMarker pos rest with
  | case1 pos b0 b1 b2 b3 behind saveType marked =>
      have named : saveType ≠ 5 := fun five => notFlash pos (by rw [five])
      have next : bytes.drop (pos + 4) = behind := by
        rw [← List.drop_drop,here]
        rfl
      rw [← next] at marked
      refine ⟨1,While.after_succ_of_error ?_ 0⟩
      rw [scanRound_word here notOne,savedBy_of_marked named marked]
      simp only [List.length_cons] at size
      unfold scanOutcome
      dsimp only
      by_cases beyond : limit < pos + 4
      · rw [if_pos beyond,if_pos beyond]
      · rw [if_neg beyond,if_neg beyond]
        by_cases last : behind = []
        · rw [if_pos last,if_pos (by rw [size,last]; rfl)]
        · have more : 0 < behind.length := List.length_pos_of_ne_nil last
          rw [if_neg last,if_neg (by omega)]
  | case2 pos b0 b1 b2 b3 behind unmarked ih =>
      have next : bytes.drop (pos + 4) = behind := by
        rw [← List.drop_drop,here]
        rfl
      simp only [List.length_cons] at size
      have round := @scanRound_word stack mode bytes pos b0 b1 b2 b3 behind here notOne
      rw [savedBy_of_unmarked unmarked] at round
      by_cases beyond : limit < pos + 4
      · rw [if_pos beyond] at round
        refine ⟨1,(While.after_succ_of_error round 0).trans ?_⟩
        unfold scanOutcome
        cases found : firstMarker (pos + 4) behind with
        | none =>
            dsimp only
            rw [if_pos (by omega)]
        | some marker =>
            have later := firstMarker_pos found
            dsimp only
            rw [if_pos (by omega)]
      · rw [if_neg beyond] at round
        by_cases last : behind = []
        · rw [if_pos last] at round
          refine ⟨1,(While.after_succ_of_error round 0).trans ?_⟩
          rw [last] at size ⊢
          change _ = Except.error (if limit < bytes.length then _ else _)
          rw [if_neg (by rw [size]; exact beyond)]
        · rw [if_neg last] at round
          obtain ⟨rounds,left⟩ :=
            ih next (by omega) notFlash (by omega)
          exact ⟨rounds + 1,(While.after_succ_of_ok round rounds).trans left⟩
  | case3 rest pos short =>
      have few : rest.length < 4 := by
        match rest, short with
        | [], _ => simp
        | [_], _ => simp
        | [_,_], _ => simp
        | [_,_,_], _ => simp
        | b0 :: b1 :: b2 :: b3 :: behind, short => exact absurd rfl (short b0 b1 b2 b3 behind)
      rw [← here] at few
      exact ⟨1,While.after_succ_of_error (scanRound_short few inside notOne) 0⟩

theorem scanRound_single (single : bytes.length = 1) :
    scanRound stack ⟨mode,bytes,0⟩ = .error (.error .dividesByZero) := by
  match bytes, single with
  | [_], _ => rfl

end

/-! ### Whole scans -/

section

variable {stack : u32} {mode : FileMode} {bytes : List u8}

variable {saveType : u32} {rom : EMUFILE}

theorem ends_unique {first second : Except Fault u32}
    (left : ScanEnds stack rom first) (right : ScanEnds stack rom second) : first = second := by
  obtain ⟨leftRounds,leftIn⟩ := left
  obtain ⟨rightRounds,rightIn⟩ := right
  exact While.result_unique leftIn rightIn

theorem scan_from_start (pos : Nat) (notOne : bytes.length ≠ 1)
    (notFlash : ∀ found, firstMarker 0 bytes ≠ some (found, 5)) :
    ScanEnds stack ⟨mode,bytes,pos⟩ (scanOutcome bytes.length (firstMarker 0 bytes)) :=
  scan_outcome bytes rfl (Nat.zero_le _) notOne notFlash

theorem scanFrom_round (fuel : Nat) (rom : EMUFILE) :
    match scanRound 0 rom with
    | .error (.error _) => True
    | .error (.ok saveType) => (scanFrom (fuel + 1) rom).2 = saveType
    | .ok next => scanFrom (fuel + 1) rom = scanFrom fuel next ∧ next = (rom.fread 4).1 ∧
        4 ≤ (rom.fread 4).2.length := by
  rw [scanFrom]
  unfold scanRound
  dsimp only
  cases currPct (rom.fread 4).1.pos rom.bytes.length with
  | error fault => trivial
  | ok percent =>
      dsimp only
      match whole : (rom.fread 4).2 with
      | [b0,b1,b2,b3] =>
          simp only [firstWord]
          by_cases last : rom.bytes.length ≤ (rom.fread 4).1.pos
          · rw [if_pos last,if_pos last]
          · rw [if_neg last,if_neg last]
            unfold savedBy
            by_cases eeprom : b3 ++ b2 ++ b1 ++ b0 = EEPROM
            · rw [if_pos eeprom,if_pos eeprom]
            · rw [if_neg eeprom,if_neg eeprom]
              by_cases sram : b3 ++ b2 ++ b1 ++ b0 = SRAM_
              · rw [if_pos sram,if_pos sram]
              · rw [if_neg sram,if_neg sram]
                by_cases flash : b3 ++ b2 ++ b1 ++ b0 = FLASH
                · rw [if_pos flash,if_pos flash]
                · rw [if_neg flash,if_neg flash]
                  by_cases sii : b3 ++ b2 ++ b1 ++ b0 = SIIRTC_V
                  · rw [if_pos sii,if_pos sii]
                  · rw [if_neg sii,if_neg sii]
                    exact ⟨rfl,rfl,Nat.le_refl 4⟩
      | [] | [_] | [_,_] | [_,_,_] => rfl
      | b0 :: b1 :: b2 :: b3 :: b4 :: behind =>
          have size : (rom.fread 4).2.length ≤ 4 := List.length_take_le 4 _
          rw [whole] at size
          simp only [List.length_cons] at size
          omega

theorem scanFrom_of_ends (fuel : Nat) {rounds : Nat}
    (enough : rom.bytes.length < rom.pos + 4 * fuel)
    (left : While.after (scanRound 0) rounds rom = .error (.ok saveType)) :
    (scanFrom fuel rom).2 = saveType := by
  induction fuel generalizing rounds rom with
  | zero =>
      have behind : rom.bytes.drop rom.pos = [] := List.drop_eq_nil_of_le (by omega)
      cases rounds with
      | zero => cases left
      | succ rounds =>
          have round := scanFrom_round 0 rom
          have stops : (scanFrom 1 rom).2 = 0xFF := by
            unfold scanFrom EMUFILE.fread
            rw [behind]
            rfl
          cases here : scanRound 0 rom with
          | error res =>
              rw [here] at round
              rw [While.after_succ_of_error here] at left
              cases left
              exact stops.symm.trans round
          | ok next =>
              rw [here] at round
              have read := round.2.2
              change 4 ≤ ((rom.bytes.drop rom.pos).take 4).length at read
              rw [behind] at read
              exact absurd read (by decide)
  | succ fuel ih =>
      cases rounds with
      | zero => cases left
      | succ rounds =>
          have round := scanFrom_round fuel rom
          cases here : scanRound 0 rom with
          | error res =>
              rw [here] at round
              rw [While.after_succ_of_error here] at left
              cases left
              exact round
          | ok next =>
              rw [here] at round
              obtain ⟨same,moved,read⟩ := round
              rw [While.after_succ_of_ok here] at left
              rw [same]
              refine ih ?_ left
              rw [moved]
              change rom.bytes.length < rom.pos + (rom.fread 4).2.length + 4 * fuel
              omega

theorem scanSaveTypeGBA_of_right (right : ScanRight 0 rom) :
    (scanSaveTypeGBA rom).2 = typeOf rom.bytes := by
  obtain ⟨rounds,left⟩ := right.ends
  refine scanFrom_of_ends _ ?_ left
  rw [EMUFILE.bytes_fseek]
  omega

theorem marks_small {tmp : u32} {behind : List u8}
    (marked : marks tmp behind = some saveType) : saveType.toNat ≤ 5 := by
  unfold marks at marked
  split at marked
  · cases marked
    decide
  · split at marked
    · cases marked
      decide
    · split at marked
      · cases marked
        split <;> decide
      · split at marked
        · cases marked
          decide
        · cases marked

theorem firstMarker_small {start pos : Nat} {rest : List u8}
    (found : firstMarker start rest = some (pos, saveType)) : saveType.toNat ≤ 5 := by
  fun_induction firstMarker start rest with
  | case1 start b0 b1 b2 b3 behind other marked =>
      cases found
      exact marks_small marked
  | case2 start b0 b1 b2 b3 behind unmarked ih => exact ih found
  | case3 => cases found

/-- The scan is safe and right exactly for these files, whatever the stack
held. -/
theorem gba_save_scan_right_iff (stack : u32) (mode : FileMode) (bytes : List u8) (pos : Nat) :
    ScanRight stack ⟨mode,bytes,pos⟩ ↔ Scannable bytes := by
  unfold Scannable
  by_cases single : bytes.length = 1
  · have faults : ScanEnds stack ⟨mode,bytes,pos⟩ (.error .dividesByZero) :=
      ⟨1,While.after_succ_of_error (scanRound_single single) 0⟩
    refine iff_of_false ?_ (fun scannable => scannable.1 single)
    intro right
    cases ends_unique right.ends faults
  · rw [and_iff_right single]
    have outcome := @scan_from_start stack mode bytes pos single
    cases found : firstMarker 0 bytes with
    | none =>
        have kind : typeOf bytes = 0xFF := by
          unfold typeOf
          rw [found]
        rw [found] at outcome
        have ends := outcome (fun _ => by intro same; cases same)
        unfold scanOutcome at ends
        by_cases long : limit < bytes.length
        · rw [if_pos long] at ends
          refine iff_of_false ?_ (Nat.not_le_of_lt long)
          intro right
          cases ends_unique right.ends ends
        · rw [if_neg long] at ends
          refine iff_of_true ⟨?_,?_⟩ (Nat.le_of_not_lt long)
          · change ScanEnds _ _ (.ok (typeOf bytes))
            rw [kind]
            exact ends
          · change (saveTypeName (typeOf bytes)).isSome
            rw [kind]
            rfl
    | some marker =>
        obtain ⟨place,saveType⟩ := marker
        have kind : typeOf bytes = saveType := by
          unfold typeOf
          rw [found]
        have small := firstMarker_small found
        have inside := (firstMarker_pos found).2
        by_cases flash : saveType = 5
        · refine iff_of_false ?_ (fun scannable => scannable.2.2 flash)
          intro right
          have named := right.named
          change (saveTypeName (typeOf bytes)).isSome = true at named
          rw [kind,flash] at named
          cases named
        · rw [found] at outcome
          have ends := outcome (fun other same => by
            rw [Option.some.injEq,Prod.mk.injEq] at same
            exact flash same.2)
          unfold scanOutcome at ends
          dsimp only at ends ⊢
          have notUnknown : (0xFF : u32) ≠ saveType := by
            intro same
            rw [← same] at small
            exact absurd small (by decide)
          by_cases beyond : limit < place + 4
          · rw [if_pos beyond] at ends
            refine iff_of_false ?_ (fun scannable => absurd scannable.2.1 (Nat.not_le_of_lt beyond))
            intro right
            cases ends_unique right.ends ends
          · rw [if_neg beyond] at ends
            by_cases last : place + 4 = bytes.length
            · rw [if_pos last] at ends
              refine iff_of_false ?_ (fun scannable => absurd scannable.1 (by omega))
              intro right
              have same := ends_unique right.ends ends
              change Except.ok (typeOf bytes) = _ at same
              rw [kind] at same
              exact notUnknown (Except.ok.inj same).symm
            · rw [if_neg last] at ends
              refine iff_of_true ⟨?_,?_⟩ ⟨by omega,Nat.le_of_not_lt beyond,flash⟩
              · change ScanEnds _ _ (.ok (typeOf bytes))
                rw [kind]
                exact ends
              · change (saveTypeName (typeOf bytes)).isSome
                rw [kind]
                unfold saveTypeName
                rw [if_neg (Ne.symm notUnknown)]
                have below : saveType.toNat ≠ 5 := fun five => flash (BitVec.eq_of_toNat_eq five)
                rw [List.getElem?_eq_getElem (by change saveType.toNat < 5; omega)]
                rfl

/-- A file of one byte, and a FLASH save without the marker of 1M, whose code
is behind the table. -/
theorem gba_save_scan_wrong :
    ¬ScanRight 0 ⟨.rb_plus,[0],0⟩ ∧
      ¬ScanRight 0 ⟨.rb_plus,[0x46,0x4C,0x41,0x53,0,0,0,0],0⟩ := by
  constructor
  · rintro ⟨⟨rounds,left⟩,-⟩
    have faults := While.after_succ_of_error
      (@scanRound_single 0 .rb_plus [0] rfl) 0
    cases While.result_unique faults left
  · intro right
    exact absurd right.named (by decide)

end

end SaveTypeScan
end Desmume.Slot2
