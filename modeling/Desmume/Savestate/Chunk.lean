/-
Savestate tables, `CheckS`, `ReadStateChunk`, `SubWrite` and
`savestate_WriteChunk`, and reading a stream of entries.

A table lists the variables of a part of the machine; the row behind its last
one has no variable. The guess of the reader is right or falls back to the scan,
with one exception: behind the last row of the table it stops at the row without
a variable, and the entry that comes next is skipped whatever its tag.
-/

import Desmume.Backup.Emufile

namespace Desmume.Savestate

open Backup

structure SFORMAT where
  desc : List u8
  size : u32
  count : u32
  v : Nat
  deriving DecidableEq, Repr

abbrev Vars := Nat → List u8

/-- A file and its failure flag. -/
structure Stream where
  file : EMUFILE
  failbit : Bool

def Stream.ftell (is : Stream) : Nat := is.file.pos

def Stream.fread (is : Stream) (n : Nat) : Stream × List u8 :=
  let res := is.file.fread n
  ({ file := res.1, failbit := is.failbit || decide (res.2.length < n) }, res.2)

/-- `read32le(&val, is)`, without a value when the file ends before it. -/
def Stream.read32le (is : Stream) : Stream × Option u32 :=
  let res := is.fread 4
  (res.1, if res.2.length < 4 then none else some (is.file.read32le 0).2)

def Stream.fseek (is : Stream) (off : Int) : Stream :=
  { is with file := is.file.fseek off .SEEK_CUR }

def scan (size n : u32) (desc : List u8) : List SFORMAT → Nat → Option Nat
  | [], _ => none
  | sf :: rest, i =>
      if desc = sf.desc then
        if sf.size ≠ size ∨ sf.count ≠ n then none else some i
      else scan size n desc rest (i + 1)

def CheckS (table : List SFORMAT) (guessSF : Option Nat) (size n : u32) (desc : List u8) :
    Option Nat :=
  match guessSF with
  | none => scan size n desc table 0
  | some i =>
      match table[i]? with
      | none => none
      | some sf =>
          if desc = sf.desc then
            if sf.size ≠ size ∨ sf.count ≠ n then none else some i
          else scan size n desc table 0

structure Outcome where
  ok : Bool
  is : Stream
  vars : Vars
  rows : List (Option Nat)

/-- `fread` into a variable. -/
def readInto (vars : Vars) (v : Nat) (data : List u8) : Vars :=
  Function.update vars v (data ++ (vars v).drop data.length)

/-- The loop of `ReadStateChunk`, with a bound on its rounds. -/
def readEntries (table : List SFORMAT) (stop : Nat) :
    Nat → Stream → Vars → Option Nat → List (Option Nat) → Option Outcome
  | 0, _, _, _, _ => none
  | fuel + 1, is, vars, guessSF, rows =>
      if is.ftell < stop then
        let (is, toa) := is.fread 4
        if is.failbit then some ⟨false,is,vars,rows⟩
        else
          match is.read32le with
          | (is, none) => some ⟨false,is,vars,rows⟩
          | (is, some sz) =>
              match is.read32le with
              | (is, none) => some ⟨false,is,vars,rows⟩
              | (is, some n) =>
                  match CheckS table guessSF sz n toa with
                  | some row =>
                      let (is, data) := is.fread (sz * n).toNat
                      let vars :=
                        match table[row]? with
                        | some tmp => readInto vars tmp.v data
                        | none => vars
                      readEntries table stop fuel is vars (some (row + 1)) (rows ++ [some row])
                  | none =>
                      let is := is.fseek (sz * n).toInt
                      readEntries table stop fuel is vars none (rows ++ [none])
      else some ⟨true,is,vars,rows⟩

def ReadStateChunk (fuel : Nat) (is : Stream) (table : List SFORMAT) (vars : Vars) (size : Nat) :
    Option Outcome :=
  readEntries table (is.ftell + size) fuel is vars none []

def rowBytes (vars : Vars) (sf : SFORMAT) : List u8 :=
  sf.desc.take 4 ++ EMUFILE.le32 sf.size ++ EMUFILE.le32 sf.count ++
    (vars sf.v).take (sf.count * sf.size).toNat

/-- What `SubWrite` writes, and the size it returns. -/
def SubWrite (vars : Vars) (table : List SFORMAT) : List u8 × u32 :=
  (table.flatMap (rowBytes vars),
    table.foldl (fun acc sf => acc + 12 + sf.count * sf.size) 0)

def savestate_WriteChunk (os : EMUFILE) (type : u32) (vars : Vars) (table : List SFORMAT) :
    EMUFILE :=
  let written := SubWrite vars table
  ((os.write32le type).write32le written.2).fwrite written.1

open LastWrite

/-- A well-formed entry of a stream. -/
structure Entry where
  desc : List u8
  size : u32
  count : u32
  data : List u8
  tagged : desc.length = 4
  sized : data.length = size.toNat * count.toNat

def Entry.bytes (entry : Entry) : List u8 :=
  entry.desc ++ EMUFILE.le32 entry.size ++ EMUFILE.le32 entry.count ++ entry.data

def encode (ents : List Entry) : List u8 := ents.flatMap Entry.bytes

def Entry.fits (entry : Entry) (sf : SFORMAT) : Prop :=
  sf.desc = entry.desc ∧ sf.size = entry.size ∧ sf.count = entry.count

instance (entry : Entry) (sf : SFORMAT) : Decidable (entry.fits sf) :=
  inferInstanceAs (Decidable (_ ∧ _ ∧ _))

def rowOf (table : List SFORMAT) (entry : Entry) : Option Nat :=
  table.findIdx? fun sf => decide (entry.fits sf)

def applied (table : List SFORMAT) (ents : List Entry) : List (Nat × List u8) :=
  ents.filterMap fun entry =>
    (table.find? fun sf => decide (entry.fits sf)).map fun sf => (sf.v, entry.data)

variable (entry : Entry)

theorem scan_eq {rows : List SFORMAT} (tags : (rows.map SFORMAT.desc).Nodup) (i : Nat) :
    scan entry.size entry.count entry.desc rows i =
      (rowOf rows entry).map (· + i) := by
  induction rows generalizing i with
  | nil => rfl
  | cons sf rest ih =>
      rw [List.map_cons,List.nodup_cons] at tags
      unfold scan rowOf
      rw [List.findIdx?_cons]
      by_cases tag : entry.desc = sf.desc
      · rw [if_pos tag]
        by_cases shape : sf.size = entry.size ∧ sf.count = entry.count
        · have fits : entry.fits sf := ⟨tag.symm,shape⟩
          simp [fits,shape]
        · have notFits : ¬entry.fits sf := fun fits => shape fits.2
          have noOther : rest.findIdx? (fun sf => decide (entry.fits sf)) = none := by
            rw [List.findIdx?_eq_none_iff]
            intro other member
            refine decide_eq_false ?_
            intro fits
            exact tags.1 (List.mem_map.mpr ⟨other,member,fits.1.trans tag⟩)
          rw [if_pos (not_and_or.mp shape),noOther]
          simp [notFits]
      · have notFits : ¬entry.fits sf := fun fits => tag fits.1.symm
        rw [if_neg tag,ih tags.2]
        simp only [notFits,decide_false,Bool.false_eq_true,if_false]
        unfold rowOf
        rw [Option.map_map]
        congr 1
        funext row
        simp only [Function.comp_apply]
        omega

theorem CheckS_none {table : List SFORMAT} (tags : (table.map SFORMAT.desc).Nodup) :
    CheckS table none entry.size entry.count entry.desc = rowOf table entry := by
  change scan _ _ _ table 0 = _
  rw [scan_eq entry tags]
  simp

theorem scan_at (size n : u32) {rows : List SFORMAT}
    (tags : (rows.map SFORMAT.desc).Nodup) {guess : Nat} (inside : guess < rows.length) (i : Nat) :
    scan size n rows[guess].desc rows i =
      if rows[guess].size ≠ size ∨ rows[guess].count ≠ n then none
      else some (guess + i) := by
  induction rows generalizing guess i with
  | nil => exact absurd inside (Nat.not_lt_zero guess)
  | cons sf rest ih =>
      rw [List.map_cons,List.nodup_cons] at tags
      cases guess with
      | zero =>
          change (if sf.desc = sf.desc then _ else _) = _
          rw [if_pos rfl,Nat.zero_add]
          rfl
      | succ guess =>
          have within : guess < rest.length := Nat.lt_of_succ_lt_succ inside
          have apart : rest[guess].desc ≠ sf.desc := by
            intro same
            exact tags.1 (List.mem_map.mpr ⟨rest[guess],List.getElem_mem within,same⟩)
          have later := ih tags.2 within (i + 1)
          rw [show guess + (i + 1) = guess + 1 + i by omega] at later
          exact (if_neg apart).trans later

theorem CheckS_inside {table : List SFORMAT}
    (tags : (table.map SFORMAT.desc).Nodup) {guess : Nat} (inside : guess < table.length) :
    CheckS table (some guess) entry.size entry.count entry.desc = rowOf table entry := by
  rw [← CheckS_none entry tags]
  unfold CheckS
  simp only [List.getElem?_eq_getElem inside]
  by_cases tag : entry.desc = table[guess].desc
  · rw [if_pos tag,tag]
    exact (scan_at entry.size entry.count tags inside 0).symm
  · rw [if_neg tag]

theorem CheckS_behind (table : List SFORMAT) :
    CheckS table (some table.length) entry.size entry.count entry.desc = none := by
  unfold CheckS
  simp only [List.getElem?_eq_none (Nat.le_refl table.length)]

def lookups (table : List SFORMAT) : Option Nat → List Entry → List (Option Nat)
  | _, [] => []
  | guessSF, entry :: rest =>
      let row := CheckS table guessSF entry.size entry.count entry.desc
      row :: lookups table (row.map (· + 1)) rest

def Undisturbed (table : List SFORMAT) (ents : List Entry) : Prop :=
  ents.IsChain fun entry next =>
    ∀ row, rowOf table entry = some row → row + 1 = table.length → rowOf table next = none

variable {table : List SFORMAT}

theorem rowOf_lt {entry : Entry} {row : Nat}
    (found : rowOf table entry = some row) : row < table.length := by
  unfold rowOf at found
  exact (List.findIdx?_eq_some_iff_getElem.mp found).1

theorem next_guess :
    ∀ guess, (rowOf table entry).map (· + 1) = some guess → guess ≤ table.length := by
  intro guess known
  obtain ⟨row,found,rfl⟩ := Option.map_eq_some_iff.mp known
  exact rowOf_lt found

variable {guessSF : Option Nat} {rest : List u8} {is : Stream} {vars : Vars} {ents : List Entry}
  {fuel : Nat}

theorem CheckS_eq_iff {table : List SFORMAT} (tags : (table.map SFORMAT.desc).Nodup)
    (valid : ∀ guess, guessSF = some guess → guess ≤ table.length) :
    CheckS table guessSF entry.size entry.count entry.desc = rowOf table entry ↔
      (guessSF = some table.length → rowOf table entry = none) := by
  cases guessSF with
  | none =>
      refine iff_of_true (CheckS_none entry tags) ?_
      intro impossible
      cases impossible
  | some guess =>
      by_cases inside : guess < table.length
      · refine iff_of_true (CheckS_inside entry tags inside) ?_
        intro behind
        have same := Option.some.inj behind
        omega
      · have behind : guess = table.length := by
          have bound := valid guess rfl
          omega
        rw [behind,CheckS_behind]
        constructor
        · intro none _
          exact none.symm
        · intro missing
          exact (missing rfl).symm

theorem undisturbed_cons (rest : List Entry) :
    Undisturbed table (entry :: rest) ↔
      ((rowOf table entry).map (· + 1) = some table.length →
        ∀ next ∈ rest.head?, rowOf table next = none) ∧ Undisturbed table rest := by
  unfold Undisturbed
  rw [List.isChain_cons,Option.map_eq_some_iff]
  refine and_congr ?_ Iff.rfl
  constructor
  · rintro apart ⟨row,found,last⟩ next member
    exact apart next member row found last
  · intro apart next member row found last
    exact apart ⟨row,found,last⟩ next member

theorem lookups_eq_iff (tags : (table.map SFORMAT.desc).Nodup) (ents : List Entry)
    (valid : ∀ guess, guessSF = some guess → guess ≤ table.length) :
    lookups table guessSF ents = ents.map (rowOf table) ↔
      (guessSF = some table.length →
        ∀ entry ∈ ents.head?, rowOf table entry = none) ∧
      Undisturbed table ents := by
  induction ents generalizing guessSF with
  | nil =>
      refine iff_of_true rfl ⟨?_,List.isChain_nil⟩
      intro _ entry member
      cases member
  | cons entry rest ih =>
      have later := ih (next_guess entry)
      have first := CheckS_eq_iff entry tags valid
      rw [undisturbed_cons,← later]
      change _ :: _ = _ :: _ ↔ _
      constructor
      · intro same
        obtain ⟨head,tail⟩ := List.cons_eq_cons.mp same
        rw [head] at tail
        refine ⟨?_,tail⟩
        intro behind next member
        cases member
        exact first.mp head behind
      · rintro ⟨apart,tail⟩
        have head := first.mpr (fun behind => apart behind entry rfl)
        rw [head,tail]

/-! ### The stream -/

/-- The stream is at the given bytes and has not failed. -/
structure Stream.At (is : Stream) (bytes : List u8) : Prop where
  here : is.file.bytes.drop is.file.pos = bytes
  sound : is.failbit = false

def Stream.skip (is : Stream) (n : Nat) : Stream :=
  { is with file := { is.file with pos := is.file.pos + n } }

theorem Stream.At.skip {is : Stream} {data rest : List u8} (at_ : is.At (data ++ rest)) :
    (is.skip data.length).At rest := by
  refine ⟨?_,at_.sound⟩
  change is.file.bytes.drop (is.file.pos + data.length) = rest
  rw [← List.drop_drop,at_.here,List.drop_left]

theorem Stream.At.fread {is : Stream} {data rest : List u8} (at_ : is.At (data ++ rest))
    {n : Nat} (length : data.length = n) : is.fread n = (is.skip data.length, data) := by
  have taken : (is.file.bytes.drop is.file.pos).take n = data := by
    rw [at_.here,List.take_left' length]
  unfold Stream.fread EMUFILE.fread
  simp only [taken,at_.sound,length,Nat.lt_irrefl,decide_false,Bool.or_self]
  unfold Stream.skip
  rw [← at_.sound]

theorem Stream.At.read32le {is : Stream} {word : u32} {rest : List u8}
    (at_ : is.At (EMUFILE.le32 word ++ rest)) : is.read32le = (is.skip 4, some word) := by
  unfold Stream.read32le
  rw [at_.fread (EMUFILE.length_le32 word)]
  simp only [EMUFILE.length_le32,Nat.lt_irrefl,if_false]
  rw [EMUFILE.read32le_of_written is.file 0 word rest at_.here]

theorem Stream.skip_skip (is : Stream) (first second : Nat) :
    (is.skip first).skip second = is.skip (first + second) := by
  unfold Stream.skip
  simp only [Nat.add_assoc]

theorem Entry.product (small : entry.data.length < 2 ^ 31) :
    (entry.size * entry.count).toNat = entry.data.length ∧
      (entry.size * entry.count).toInt = entry.data.length := by
  have length := entry.sized
  have product : (entry.size * entry.count).toNat = entry.data.length := by
    rw [BitVec.toNat_mul,← length]
    omega
  refine ⟨product,?_⟩
  rw [BitVec.toInt_eq_toNat_cond,product]
  omega

theorem Stream.fseek_forward (is : Stream) (n : Nat) : is.fseek n = is.skip n := by
  unfold Stream.fseek Stream.skip EMUFILE.fseek
  rw [if_neg (by simp only [EMUFILE.base]; omega)]
  congr 1

def readVars (table : List SFORMAT) : Vars → Option Nat → List Entry → Vars
  | vars, _, [] => vars
  | vars, guessSF, entry :: rest =>
      let row := CheckS table guessSF entry.size entry.count entry.desc
      let vars :=
        match row.bind fun row => table[row]? with
        | some tmp => readInto vars tmp.v entry.data
        | none => vars
      readVars table vars (row.map (· + 1)) rest

theorem Entry.length_bytes : entry.bytes.length = 4 + 4 + 4 + entry.data.length := by
  unfold Entry.bytes
  rw [List.length_append,List.length_append,List.length_append,entry.tagged,
    EMUFILE.length_le32,EMUFILE.length_le32]

theorem readEntries_cons {stop : Nat} (entry : Entry) (at_ : is.At (entry.bytes ++ rest))
    (inside : is.ftell + entry.bytes.length ≤ stop) (small : stop < 2 ^ 31) (fuel : Nat)
    (vars : Vars) (guessSF : Option Nat) (rows : List (Option Nat)) :
    readEntries table stop (fuel + 1) is vars guessSF rows =
      readEntries table stop fuel (is.skip entry.bytes.length)
        (readVars table vars guessSF [entry])
        ((CheckS table guessSF entry.size entry.count entry.desc).map (· + 1))
        (rows ++ [CheckS table guessSF entry.size entry.count entry.desc]) := by
  have length := entry.length_bytes
  obtain ⟨product,signed⟩ := entry.product (by omega)
  unfold Entry.bytes at at_
  rw [List.append_assoc,List.append_assoc,List.append_assoc] at at_
  have atSize := at_.skip
  rw [entry.tagged] at atSize
  have atCount := atSize.skip
  rw [EMUFILE.length_le32] at atCount
  have atData := atCount.skip
  rw [EMUFILE.length_le32] at atData
  have going : is.ftell < stop := by omega
  have sound : (is.skip 4).failbit = false := at_.sound
  have total : (((is.skip 4).skip 4).skip 4).skip entry.data.length =
      is.skip entry.bytes.length := by
    rw [Stream.skip_skip,Stream.skip_skip,Stream.skip_skip,length]
    congr 1
    omega
  refine (if_pos going).trans ?_
  simp only [at_.fread entry.tagged,entry.tagged,sound,atSize.read32le,atCount.read32le,
    Bool.false_eq_true,if_false]
  cases row : CheckS table guessSF entry.size entry.count entry.desc with
  | none =>
      simp only [signed,Stream.fseek_forward,total,readVars,row]
      rfl
  | some row =>
      simp only [product,atData.fread rfl,total,readVars,row]
      rfl

theorem readEntries_encode {stop : Nat} (small : stop < 2 ^ 31)
    (ents : List Entry) (enough : ents.length < fuel) {rows : List (Option Nat)}
    (at_ : is.At (encode ents ++ rest)) (stops : is.ftell + (encode ents).length = stop) :
    readEntries table stop fuel is vars guessSF rows =
      some
        { ok := true
          is := is.skip (encode ents).length
          vars := readVars table vars guessSF ents
          rows := rows ++ lookups table guessSF ents } := by
  induction ents generalizing fuel is vars guessSF rows with
  | nil =>
      obtain ⟨fuel,rfl⟩ : ∃ more, fuel = more + 1 := ⟨fuel - 1,by omega⟩
      have ended : ¬is.ftell < stop := by
        rw [← stops]
        exact Nat.lt_irrefl _
      refine (if_neg ended).trans ?_
      simp only [lookups,List.append_nil]
      rfl
  | cons entry ents ih =>
      obtain ⟨fuel,rfl⟩ : ∃ more, fuel = more + 1 := ⟨fuel - 1,by omega⟩
      have split : encode (entry :: ents) = entry.bytes ++ encode ents :=
        List.flatMap_cons
      rw [split,List.append_assoc] at at_
      rw [split,List.length_append] at stops
      have later : (is.skip entry.bytes.length).At (encode ents ++ rest) := at_.skip
      rw [readEntries_cons entry at_ (by omega) small]
      refine (ih (Nat.lt_of_succ_lt_succ enough) later ?_).trans ?_
      · change is.ftell + entry.bytes.length + _ = stop
        omega
      · rw [split,List.length_append,← Stream.skip_skip,List.append_assoc]
        rfl

def Sized (table : List SFORMAT) (vars : Vars) : Prop :=
  ∀ sf ∈ table, (vars sf.v).length = sf.size.toNat * sf.count.toNat

theorem rowOf_getElem (table : List SFORMAT) (entry : Entry) :
    ((rowOf table entry).bind fun row => table[row]?) =
      table.find? fun sf => decide (entry.fits sf) :=
  List.find?_eq_bind_findIdx?_getElem?.symm

theorem readInto_fits (sized : Sized table vars)
    {entry : Entry} {sf : SFORMAT} (member : sf ∈ table) (fits : entry.fits sf) :
    readInto vars sf.v entry.data = Function.update vars sf.v entry.data := by
  have length : (vars sf.v).length = entry.data.length := by
    rw [sized sf member,entry.sized,fits.2.1,fits.2.2]
  unfold readInto
  rw [List.drop_eq_nil_of_le (Nat.le_of_eq length),List.append_nil]

theorem Sized.update {vars : Vars} (sized : Sized table vars)
    {entry : Entry} {sf : SFORMAT} (member : sf ∈ table) (fits : entry.fits sf) :
    Sized table (Function.update vars sf.v entry.data) := by
  intro other present
  have length : (vars sf.v).length = entry.data.length := by
    rw [sized sf member,entry.sized,fits.2.1,fits.2.2]
  by_cases same : other.v = sf.v
  · rw [same,Function.update_self,← length,← same]
    exact sized other present
  · rw [Function.update_of_ne same]
    exact sized other present

theorem readVars_eq (sized : Sized table vars)
    (found : lookups table guessSF ents = ents.map (rowOf table)) :
    readVars table vars guessSF ents = lastWritten vars (applied table ents) := by
  induction ents generalizing vars guessSF with
  | nil => rfl
  | cons entry ents ih =>
      obtain ⟨head,later⟩ := List.cons_eq_cons.mp found
      unfold readVars
      simp only [head,rowOf_getElem]
      rw [head] at later
      cases row : table.find? fun sf => decide (entry.fits sf) with
      | none =>
          have skipped : applied table (entry :: ents) = applied table ents := by
            unfold applied
            rw [List.filterMap_cons,row]
            rfl
          rw [skipped]
          exact ih sized later
      | some sf =>
          have member := List.mem_of_find?_eq_some row
          have fits : entry.fits sf := by
            have holds := List.find?_some row
            exact of_decide_eq_true holds
          have written : applied table (entry :: ents) =
              [(sf.v, entry.data)] ++ applied table ents := by
            unfold applied
            rw [List.filterMap_cons,row]
            rfl
          rw [written,lastWritten_append,lastWritten_singleton]
          simp only [readInto_fits sized member fits]
          exact ih (sized.update member fits) later

theorem ReadStateChunk_encode (table : List SFORMAT) (vars : Vars)
    (at_ : is.At (encode ents ++ rest))
    (small : is.ftell + (encode ents).length < 2 ^ 31)
    (enough : ents.length < fuel) :
    ReadStateChunk fuel is table vars (encode ents).length =
      some
        { ok := true
          is := is.skip (encode ents).length
          vars := readVars table vars none ents
          rows := lookups table none ents } :=
  readEntries_encode small ents enough at_ rfl

theorem lookups_none_iff (tags : (table.map SFORMAT.desc).Nodup) (ents : List Entry) :
    lookups table none ents = ents.map (rowOf table) ↔ Undisturbed table ents := by
  refine (lookups_eq_iff tags ents ?_).trans (and_iff_right ?_)
  · intro guess impossible
    cases impossible
  · intro impossible
    cases impossible

/-- A chunk is read as its tags say, each entry into the row the scan finds, if
and only if no entry of a row comes directly after one of the last row. -/
theorem read_by_tags_iff {table : List SFORMAT} (tags : (table.map SFORMAT.desc).Nodup)
    {vars : Vars} (sized : Sized table vars) {is : Stream} {ents : List Entry} {rest : List u8}
    (at_ : is.At (encode ents ++ rest)) (small : is.ftell + (encode ents).length < 2 ^ 31)
    {fuel : Nat} (enough : ents.length < fuel) :
    (∃ outcome, ReadStateChunk fuel is table vars (encode ents).length = some outcome ∧
        outcome.ok = true ∧
        outcome.vars = lastWritten vars (applied table ents) ∧
        outcome.rows = ents.map (rowOf table)) ↔
      Undisturbed table ents := by
  rw [ReadStateChunk_encode table vars at_ small enough]
  constructor
  · rintro ⟨outcome,read,-,-,rows⟩
    rw [← Option.some.inj read] at rows
    exact (lookups_none_iff tags ents).mp rows
  · intro undisturbed
    have rows := (lookups_none_iff tags ents).mpr undisturbed
    exact ⟨_,rfl,rfl,readVars_eq sized rows,rows⟩

def flags : List SFORMAT :=
  [⟨[65,65,65,65],1,1,0⟩,⟨[66,66,66,66],1,1,1⟩]

def flagEntry (tag val : u8) : Entry :=
  { desc := [tag,tag,tag,tag]
    size := 1
    count := 1
    data := [val]
    tagged := rfl
    sized := rfl }

theorem read_by_tags_flags :
    let ents := [flagEntry 66 7,flagEntry 67 1,flagEntry 65 7]
    let is : Stream := ⟨⟨.memory,encode ents ++ [],0⟩,false⟩
    ∃ outcome, ReadStateChunk 4 is flags (fun _ => [0]) (encode ents).length =
        some outcome ∧
      outcome.ok = true ∧
      outcome.vars = lastWritten (fun _ => [0]) (applied flags ents) ∧
      outcome.rows = ents.map (rowOf flags) := by
  refine (read_by_tags_iff (by decide) ?_ ⟨rfl,rfl⟩ (by decide) (by decide)).mpr ?_
  · intro sf member
    fin_cases member <;> rfl
  · refine List.isChain_cons_cons.mpr ⟨?_,List.isChain_cons_cons.mpr ⟨?_,List.isChain_singleton _⟩⟩
    · intro row _ _
      decide
    · intro row found
      cases found

/-- Out of order: the entry behind that of the last row is lost. -/
theorem entry_lost_behind_last_row :
    let ents := [flagEntry 66 7,flagEntry 65 7]
    let is : Stream := ⟨⟨.memory,encode ents,0⟩,false⟩
    (ReadStateChunk 3 is flags (fun _ => [0]) (encode ents).length).map
        (fun outcome => (outcome.ok, outcome.vars 0, outcome.vars 1)) =
      some (true, [0], [7]) ∧
    lastWritten (fun _ => [0]) (applied flags ents) 0 = [7] := by
  decide +kernel

end Desmume.Savestate
