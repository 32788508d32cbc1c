/-
Unpacking a no$gba save that a file holds.

The input is untrusted: its header announces a size, which becomes the length of
the output buffer, and its runs are followed until a zero.
-/

import Desmume.Backup.Trim

namespace Desmume.Backup

open BackupDevice

namespace NoGba

/-- `dst[dst_pos++] = byte`. -/
def put (capacity : Nat) (out : List u8) (byte : u8) : Option (List u8) :=
  if out.length < capacity then some (out ++ [byte]) else none

/-- `dst[dst_pos++] = src[src_pos]`, with `count` times to go. -/
def repeatByte (src : List u8) (capacity src_pos : Nat) : Nat → List u8 → Option (List u8)
  | 0, out => some out
  | count + 1, out =>
      match src[src_pos]? with
      | none => none
      | some byte =>
          match put capacity out byte with
          | none => none
          | some out => repeatByte src capacity src_pos count out

/-- `dst[dst_pos++] = src[src_pos++]`, with `count` times to go. -/
def copyBytes (src : List u8) (capacity : Nat) : Nat → Nat → List u8 → Option (List u8)
  | 0, _, out => some out
  | count + 1, src_pos, out =>
      match src[src_pos]? with
      | none => none
      | some byte =>
          match put capacity out byte with
          | none => none
          | some out => copyBytes src capacity count (src_pos + 1) out

/-- The `while (true)` of method 1. -/
def runLoop (src : List u8) (capacity src_pos : Nat) (out : List u8) : Option (List u8) :=
  match _read : src[src_pos]? with
  | none => none
  | some cc =>
      if cc = 0 then some out
      else if cc = 0x80 then
        match src[src_pos + 2]?, src[src_pos + 3]? with
        | some low, some high =>
            let tsize : u16 := high ++ low
            match repeatByte src capacity (src_pos + 1) tsize.toNat out with
            | none => none
            | some out => runLoop src capacity (src_pos + 4) out
        | _, _ => none
      else if cc > 0x80 then
        match repeatByte src capacity (src_pos + 1) (cc - 0x80).toNat out with
        | none => none
        | some out => runLoop src capacity (src_pos + 2) out
      else
        match copyBytes src capacity cc.toNat (src_pos + 1) out with
        | none => none
        | some out => runLoop src capacity (src_pos + 1 + cc.toNat) out
termination_by src.length - src_pos
decreasing_by
  all_goals
    have inside : src_pos < src.length := (List.getElem?_eq_some_iff.mp ‹_›).1
    omega

def headerFits (src : List u8) : Prop :=
  src.take 0x1F = no_GBA_HEADER_ID ∧ src.getD 0x1F 0 = 0x1A ∧
    (src.drop 0x40).take 4 = no_GBA_HEADER_SRAM_ID

instance (src : List u8) : Decidable (headerFits src) :=
  inferInstanceAs (Decidable (_ ∧ _ ∧ _))

/-- The buffer is read without its size: what lies behind a short one decides
nothing, since the unpacking then fails. -/
def get_save_nogba_size (data : List u8) : u32 :=
  if headerFits data then
    let compressMethod := readLong data 0x44
    if compressMethod = 0 then readLong data 0x48
    else if compressMethod = 1 then readLong data 0x4C
    else 0xFFFFFFFF
  else 0xFFFFFFFF

inductive Outcome
  | outOfBounds
  | failed (code : Nat)
  | unpacked (out : List u8)
  deriving DecidableEq

def Outcome.ofAccesses : Option (List u8) → Outcome
  | none => .outOfBounds
  | some out => .unpacked out

/-- `no_gba_unpackSAV` with an output buffer of `capacity` bytes. -/
def no_gba_unpackSAV (src : List u8) (capacity : Nat) : Outcome :=
  if src.length < 0x50 then .failed 1
  else if src.take 0x1F ≠ no_GBA_HEADER_ID ∨ src.getD 0x1F 0 ≠ 0x1A then .failed 2
  else if (src.drop 0x40).take 4 ≠ no_GBA_HEADER_SRAM_ID then .failed 3
  else
    let compressMethod := readLong src 0x44
    if compressMethod = 0 then
      .ofAccesses (copyBytes src capacity (readLong src 0x48).toNat 0x4C [])
    else if compressMethod = 1 then .ofAccesses (runLoop src capacity 0x50 [])
    else .failed 200

/-- What `no_gba_unpack` gives back; `size` is reported for a buffer of
`allocated` bytes. -/
inductive Unpacked
  | outOfBounds
  | refused
  | accepted (out : List u8) (allocated size : u32)
  deriving DecidableEq

/-- The bytes of `out` behind the unpacked ones are not initialised, and `trim`
does not look at them. -/
def reportedSize (out : List u8) : u32 :=
  fillLeft (trim (fun i => out.getD i 0) (BitVec.ofNat 32 out.length))

def no_gba_unpack (buf : List u8) : Unpacked :=
  let out_size := get_save_nogba_size buf
  if out_size = 0xFFFFFFFF then .refused
  else
    match no_gba_unpackSAV buf out_size.toNat with
    | .outOfBounds => .outOfBounds
    | .failed _ => .refused
    | .unpacked out => .accepted out out_size (reportedSize out)

def Unpacked.Safe : Unpacked → Prop
  | .outOfBounds => False
  | .refused => True
  | .accepted out allocated size => out.length ≤ allocated.toNat ∧ size ≤ allocated

/-- The first bytes are complete runs and a zero; the second are what they
stand for. -/
inductive Runs : List u8 → List u8 → Prop
  | stop (rest : List u8) : Runs (0 :: rest) []
  | fill (byte low high : u8) {rest out : List u8} (later : Runs rest out) :
      Runs (0x80 :: byte :: low :: high :: rest)
        (List.replicate (high ++ low : u16).toNat byte ++ out)
  | repeated (cc byte : u8) (above : cc > 0x80) {rest out : List u8} (later : Runs rest out) :
      Runs (cc :: byte :: rest) (List.replicate (cc - 0x80).toNat byte ++ out)
  | copied (cc : u8) (bytes : List u8) (nonzero : cc ≠ 0) (below : cc < 0x80)
      (length : bytes.length = cc.toNat) {rest out : List u8} (later : Runs rest out) :
      Runs (cc :: (bytes ++ rest)) (bytes ++ out)

variable {src out : List u8} {capacity : Nat} {src_pos : Nat}

theorem repeatByte_eq {byte : u8} (read : src[src_pos]? = some byte) (n : Nat)
    (within : out.length ≤ capacity) :
    repeatByte src capacity src_pos n out =
      if out.length + n ≤ capacity then some (out ++ List.replicate n byte) else none := by
  induction n generalizing out with
  | zero => rw [repeatByte,Nat.add_zero,if_pos within,List.replicate_zero,List.append_nil]
  | succ n ih =>
      simp only [repeatByte,read,put]
      by_cases room : out.length < capacity
      · have next := @ih (out ++ [byte]) (by rw [List.length_append,List.length_singleton]; omega)
        rw [List.length_append,List.length_singleton,List.append_assoc,Nat.add_assoc,
          Nat.add_comm 1 n] at next
        rw [if_pos room]
        exact next
      · rw [if_neg room,if_neg (by omega)]

theorem copyBytes_eq (n : Nat) {src_pos : Nat} (inside : src_pos ≤ src.length)
    (within : out.length ≤ capacity) :
    copyBytes src capacity n src_pos out =
      if src_pos + n ≤ src.length ∧ out.length + n ≤ capacity then
        some (out ++ (src.drop src_pos).take n)
      else none := by
  induction n generalizing src_pos out with
  | zero =>
      rw [copyBytes,Nat.add_zero,Nat.add_zero,if_pos ⟨inside,within⟩,List.take_zero,
        List.append_nil]
  | succ n ih =>
      by_cases readable : src_pos < src.length
      · have read : src[src_pos]? = some src[src_pos] := List.getElem?_eq_getElem readable
        simp only [copyBytes,read,put]
        by_cases room : out.length < capacity
        · have next := @ih (out ++ [src[src_pos]]) (src_pos + 1) readable
            (by rw [List.length_append,List.length_singleton]; omega)
          rw [List.length_append,List.length_singleton,List.append_assoc,Nat.add_assoc,
            Nat.add_comm 1 n,Nat.add_assoc,Nat.add_comm 1 n] at next
          have split : [src[src_pos]] ++ (src.drop (src_pos + 1)).take n =
              (src.drop src_pos).take (n + 1) := by
            rw [List.drop_eq_getElem_cons readable,List.take_succ_cons]
            rfl
          rw [if_pos room,← split]
          exact next
        · rw [if_neg room,if_neg (by omega)]
      · have read : src[src_pos]? = none := List.getElem?_eq_none (by omega)
        simp only [copyBytes,read]
        rw [if_neg (by omega)]

theorem runLoop_read {cc : u8} (read : src[src_pos]? = some cc) :
    runLoop src capacity src_pos out =
      if cc = 0 then some out
      else if cc = 0x80 then
        match src[src_pos + 2]?, src[src_pos + 3]? with
        | some low, some high =>
            match repeatByte src capacity (src_pos + 1) (high ++ low : u16).toNat out with
            | none => none
            | some out => runLoop src capacity (src_pos + 4) out
        | _, _ => none
      else if cc > 0x80 then
        match repeatByte src capacity (src_pos + 1) (cc - 0x80).toNat out with
        | none => none
        | some out => runLoop src capacity (src_pos + 2) out
      else
        match copyBytes src capacity cc.toNat (src_pos + 1) out with
        | none => none
        | some out => runLoop src capacity (src_pos + 1 + cc.toNat) out := by
  rw [runLoop]
  split
  · rename_i none
    rw [none] at read
    cases read
  · rename_i found
    rw [found] at read
    cases read
    rfl

variable {buf stream : List u8} {allocated size : u32}

theorem reads (here : src.drop src_pos = stream) (n : Nat) : src[src_pos + n]? = stream[n]? := by
  rw [← here,List.getElem?_drop]

theorem rests (here : src.drop src_pos = stream) (n : Nat) :
    src.drop (src_pos + n) = stream.drop n := by
  rw [← here,List.drop_drop]

/-- A stream that ends in time is followed to its end, as long as the output
holds what it stands for. -/
theorem runLoop_of_runs {expansion : List u8} (runs : Runs stream expansion) :
    ∀ {src_pos : Nat} {out : List u8}, src.drop src_pos = stream → out.length ≤ capacity →
      runLoop src capacity src_pos out =
        if out.length + expansion.length ≤ capacity then some (out ++ expansion) else none := by
  induction runs with
  | stop rest =>
      intro src_pos out here within
      rw [@runLoop_read _ out capacity src_pos _ (reads here 0),if_pos rfl,List.length_nil,
        Nat.add_zero,if_pos within,List.append_nil]
  | @fill byte low high rest expansion later ih =>
      intro src_pos out here within
      have n := repeatByte_eq (reads here 1) (high ++ low : u16).toNat within
      rw [@runLoop_read _ out capacity src_pos _ (reads here 0),if_neg (by decide),if_pos rfl,
        reads here 2,reads here 3]
      simp only [List.getElem?_cons_succ,List.getElem?_cons_zero]
      rw [n,List.length_append,List.length_replicate]
      by_cases room : out.length + (high ++ low : u16).toNat ≤ capacity
      · have held : (out ++ List.replicate (high ++ low : u16).toNat byte).length ≤ capacity := by
          rwa [List.length_append,List.length_replicate]
        have next := ih (rests here 4) held
        rw [List.length_append,List.length_replicate,List.append_assoc,Nat.add_assoc] at next
        rw [if_pos room]
        exact next
      · rw [if_neg room,if_neg (by omega)]
  | @repeated cc byte above rest expansion later ih =>
      intro src_pos out here within
      have nonzero : cc ≠ 0 := fun zero => absurd (zero ▸ above) (by decide)
      have marked : cc ≠ 0x80 := fun least => absurd (least ▸ above) (by decide)
      have n := repeatByte_eq (reads here 1) (cc - 0x80).toNat within
      rw [@runLoop_read _ out capacity src_pos _ (reads here 0),if_neg nonzero,if_neg marked,
        if_pos above,n,List.length_append,List.length_replicate]
      by_cases room : out.length + (cc - 0x80).toNat ≤ capacity
      · have held : (out ++ List.replicate (cc - 0x80).toNat byte).length ≤ capacity := by
          rwa [List.length_append,List.length_replicate]
        have next := ih (rests here 2) held
        rw [List.length_append,List.length_replicate,List.append_assoc,Nat.add_assoc] at next
        rw [if_pos room]
        exact next
      · rw [if_neg room,if_neg (by omega)]
  | @copied cc bytes nonzero below length rest expansion later ih =>
      intro src_pos out here within
      have marked : cc ≠ 0x80 := fun least => absurd (least ▸ below) (by decide)
      have taken : src.drop (src_pos + 1) = bytes ++ rest := rests here 1
      have all : bytes.length + rest.length + (src_pos + 1) = src.length := by
        have size := congrArg List.length taken
        rw [List.length_drop,List.length_append] at size
        have whole := congrArg List.length here
        rw [List.length_drop,List.length_cons,List.length_append] at whole
        omega
      have n := @copyBytes_eq src out capacity cc.toNat (src_pos + 1) (by omega) within
      rw [taken,← length,List.take_left] at n
      rw [@runLoop_read _ out capacity src_pos _ (reads here 0),if_neg nonzero,if_neg marked,
        if_neg (BitVec.not_lt.mpr (BitVec.le_of_lt below)),← length,n,List.length_append]
      by_cases room : out.length + bytes.length ≤ capacity
      · have following : src.drop (src_pos + 1 + bytes.length) = rest := by
          rw [rests taken,List.drop_left]
        have next := ih following (by rwa [List.length_append])
        rw [List.length_append,List.append_assoc,Nat.add_assoc out.length] at next
        rw [if_pos ⟨by omega,room⟩]
        exact next
      · rw [if_neg (fun both => room both.2),if_neg (by omega)]

/-- Only a stream that ends in time is followed without leaving the buffers. -/
theorem runs_of_runLoop {res : List u8} (within : out.length ≤ capacity)
    (followed : runLoop src capacity src_pos out = some res) :
    ∃ expansion, Runs (src.drop src_pos) expansion := by
  induction left : src.length - src_pos using Nat.strong_induction_on generalizing src_pos out with
  | _ left ih =>
      by_cases readable : src_pos < src.length
      · have read : src[src_pos]? = some src[src_pos] := List.getElem?_eq_getElem readable
        have here := List.drop_eq_getElem_cons readable
        generalize src[src_pos] = cc, src.drop (src_pos + 1) = stream at read here
        rw [here]
        rw [runLoop_read read] at followed
        by_cases zero : cc = 0
        · subst zero
          exact ⟨[],.stop _⟩
        by_cases fill : cc = 0x80
        · subst fill
          rw [if_neg zero,if_pos rfl,reads here 2,reads here 3] at followed
          rcases stream with _ | ⟨byte,_ | ⟨low,_ | ⟨high,rest⟩⟩⟩
          · cases followed
          · cases followed
          · cases followed
          · simp only [List.getElem?_cons_succ,List.getElem?_cons_zero] at followed
            rw [@repeatByte_eq src out capacity _ byte (reads here 1) _ within] at followed
            by_cases room : out.length + (high ++ low : u16).toNat ≤ capacity
            · rw [if_pos room] at followed
              have held : (out ++ List.replicate (high ++ low : u16).toNat byte).length ≤
                  capacity := by
                rwa [List.length_append,List.length_replicate]
              obtain ⟨expansion,later⟩ := ih _ (by omega) held followed rfl
              rw [rests here 4] at later
              exact ⟨_,.fill byte low high later⟩
            · rw [if_neg room] at followed
              cases followed
        rw [if_neg zero,if_neg fill] at followed
        by_cases above : cc > 0x80
        · rw [if_pos above] at followed
          rcases stream with _ | ⟨byte,rest⟩
          · have some : (cc - 0x80).toNat ≠ 0 := fun none =>
              fill (sub_eq_zero.mp (BitVec.eq_of_toNat_eq none))
            obtain ⟨n,more⟩ := Nat.exists_eq_succ_of_ne_zero some
            rw [more,repeatByte,reads here 1] at followed
            cases followed
          · rw [@repeatByte_eq src out capacity _ byte (reads here 1) _ within] at followed
            by_cases room : out.length + (cc - 0x80).toNat ≤ capacity
            · rw [if_pos room] at followed
              have held : (out ++ List.replicate (cc - 0x80).toNat byte).length ≤ capacity := by
                rwa [List.length_append,List.length_replicate]
              obtain ⟨expansion,later⟩ := ih _ (by omega) held followed rfl
              rw [rests here 2] at later
              exact ⟨_,.repeated cc byte above later⟩
            · rw [if_neg room] at followed
              cases followed
        · rw [if_neg above,copyBytes_eq cc.toNat readable within] at followed
          by_cases room : src_pos + 1 + cc.toNat ≤ src.length ∧ out.length + cc.toNat ≤ capacity
          · rw [if_pos room] at followed
            have taken : src.drop (src_pos + 1) = stream := rests here 1
            rw [taken] at followed
            have n : (stream.take cc.toNat).length = cc.toNat := by
              rw [List.length_take,← taken,List.length_drop]
              omega
            have held : (out ++ stream.take cc.toNat).length ≤ capacity := by
              rw [List.length_append,n]
              exact room.2
            obtain ⟨expansion,later⟩ := ih _ (by omega) held followed rfl
            rw [rests taken] at later
            have below : cc < 0x80 := BitVec.lt_of_le_ne (BitVec.not_lt.mp above) fill
            have whole := Runs.copied cc (stream.take cc.toNat) zero below n later
            rw [List.take_append_drop] at whole
            exact ⟨_,whole⟩
          · rw [if_neg room] at followed
            cases followed
      · rw [runLoop,List.getElem?_eq_none (by omega)] at followed
        cases followed

/-! ### The reported size -/

/-- A row of `out`, counted from the first that is full. -/
def MarkedRow (out : List u8) (row : Nat) : Prop :=
  row < out.length / 16 ∧ Marked (fun i => out.getD i 0) (out.length % 16 + 16 * row)

/-- The last row that is not blank ends by `limit`; without one, all of `out`
does. -/
structure EndsBy (out : List u8) (limit : Nat) : Prop where
  rows : ∀ row, MarkedRow out row → out.length % 16 + 16 * (row + 1) ≤ limit
  blank : (∀ row, ¬MarkedRow out row) → out.length ≤ limit

/-- The rounding stays inside `allocated` bytes. The FRAM of 32 KiB stands
behind the EEPROM of 64 KiB and is never chosen, and a save of more than
64 MiB is not rounded. -/
def RoomFor (out : List u8) (allocated : u32) : Prop :=
  (∃ supported ∈ memorySizes, supported ≠ 0x8000 ∧ supported ≤ allocated ∧
    EndsBy out supported.toNat) ∨ ¬EndsBy out 0x4000000

theorem trim_le_iff (bounded : out.length < 2 ^ 32) (limit : Nat) :
    (trim (fun i => out.getD i 0) (BitVec.ofNat 32 out.length)).toNat ≤ limit ↔
      EndsBy out limit := by
  have size : (BitVec.ofNat 32 out.length).toNat = out.length := by
    rw [BitVec.toNat_ofNat,Nat.mod_eq_of_lt bounded]
  have found := trim_spec (fun i => out.getD i 0) (BitVec.ofNat 32 out.length)
  rw [size] at found
  rcases found with ⟨row,inside,marked,val,later⟩ | ⟨none,val⟩
  · rw [val]
    constructor
    · intro within
      refine ⟨?_,fun blank => absurd ⟨inside,marked⟩ (blank row)⟩
      rintro other ⟨below,mark⟩
      have before : other ≤ row := Nat.not_lt.mp fun above => later other below above mark
      omega
    · intro ends
      exact ends.rows row ⟨inside,marked⟩
  · have blank : ∀ row, ¬MarkedRow out row := fun row mark => none row mark.1 mark.2
    rw [val,size]
    exact ⟨fun within => ⟨fun row mark => absurd mark (blank row), fun _ => within⟩,
      fun ends => ends.blank blank⟩

def chosenSizes : List u32 := 0x200 :: 0x2000 :: 0x10000 :: (saveSizes.drop 4).dropLast

theorem fillLeft_eq_padFrom (size : u32) :
    fillLeft size = padFrom size (chosenSizes ++ [0xFFFFFFFF]) := by
  have table : chosenSizes ++ [0xFFFFFFFF] = 0x200 :: 0x2000 :: 0x10000 :: saveSizes.drop 4 := by
    rfl
  rw [fillLeft_eq,table]
  by_cases tiny : size ≤ 0x200
  · rw [padFrom_cons_of_le tiny (by decide),padFrom_cons_of_le tiny (by decide)]
  rw [padFrom_cons_of_lt (BitVec.not_le.mp tiny),padFrom_cons_of_lt (BitVec.not_le.mp tiny)]
  by_cases small : size ≤ 0x2000
  · rw [padFrom_cons_of_le small (by decide),padFrom_cons_of_le small (by decide)]
  rw [padFrom_cons_of_lt (BitVec.not_le.mp small),padFrom_cons_of_lt (BitVec.not_le.mp small)]
  by_cases medium : size ≤ 0x10000
  · rw [padFrom_cons_of_le medium (by decide),padFrom_cons_of_le medium (by decide)]
  have above := BitVec.not_le.mp medium
  have fram : 0x8000 < size := BitVec.lt_trans (by decide : (0x8000 : u32) < 0x10000) above
  rw [padFrom_cons_of_lt above,padFrom_cons_of_lt above,padFrom_cons_of_lt fram]

theorem padFrom_of_all_lt (sizes : List u32) (below : ∀ supported ∈ sizes, supported < size) :
    padFrom size (sizes ++ [0xFFFFFFFF]) = size := by
  induction sizes with
  | nil =>
      rw [List.nil_append,padFrom,if_neg (last_not_lt size),if_pos rfl]
  | cons first later ih =>
      rw [List.cons_append,padFrom_cons_of_lt (below first List.mem_cons_self)]
      exact ih fun other listed => below other (List.mem_cons_of_mem _ listed)

theorem fillLeft_le_iff (within : size ≤ allocated) :
    fillLeft size ≤ allocated ↔
      (∃ supported ∈ chosenSizes, supported ≤ allocated ∧ size ≤ supported) ∨
        0x4000000 < size := by
  have ascending : chosenSizes.Pairwise (· < ·) := by decide
  have bounded : ∀ entry ∈ chosenSizes, entry ≠ 0xFFFFFFFF := by simp [chosenSizes,saveSizes]
  have largest : ∀ entry ∈ chosenSizes, entry ≤ 0x4000000 := by simp [chosenSizes,saveSizes]
  rw [fillLeft_eq_padFrom]
  by_cases huge : 0x4000000 < size
  · rw [padFrom_of_all_lt chosenSizes fun entry listed => BitVec.not_le.mp fun enough =>
      BitVec.not_le.mpr huge (BitVec.le_trans enough (largest entry listed))]
    exact ⟨fun _ => Or.inr huge, fun _ => within⟩
  · have least := padFrom_isLeast size chosenSizes ascending bounded
      ⟨0x4000000,by decide,BitVec.not_lt.mp huge⟩ [0xFFFFFFFF]
    constructor
    · intro fits
      exact Or.inl ⟨_,least.1.1,fits,least.1.2⟩
    · rintro (⟨supported,listed,fits,enough⟩ | above)
      · exact BitVec.le_trans (least.2 ⟨listed,enough⟩) fits
      · exact absurd above huge

theorem reportedSize_le_iff (within : out.length ≤ allocated.toNat) :
    reportedSize out ≤ allocated ↔ RoomFor out allocated := by
  have bounded : out.length < 2 ^ 32 := by have := allocated.isLt; omega
  have ends := trim_le_iff bounded
  have trimmed : trim (fun i => out.getD i 0) (BitVec.ofNat 32 out.length) ≤ allocated := by
    refine (ends allocated.toNat).mpr ⟨?_,fun _ => within⟩
    rintro row ⟨inside,_⟩
    omega
  have chosen : ∀ supported, supported ∈ chosenSizes ↔
      supported ∈ memorySizes ∧ supported ≠ 0x8000 := by
    intro supported
    have table : chosenSizes = memorySizes.filter (fun entry => entry ≠ 0x8000) := rfl
    rw [table,List.mem_filter,decide_eq_true_eq]
  rw [reportedSize,fillLeft_le_iff trimmed]
  unfold RoomFor
  constructor
  · rintro (⟨supported,listed,fits,enough⟩ | huge)
    · obtain ⟨entry,other⟩ := (chosen supported).mp listed
      exact Or.inl ⟨supported,entry,other,fits,(ends _).mp enough⟩
    · exact Or.inr fun within => BitVec.not_le.mpr huge ((ends 0x4000000).mpr within)
  · rintro (⟨supported,entry,other,fits,enough⟩ | huge)
    · exact Or.inl ⟨supported,(chosen supported).mpr ⟨entry,other⟩,fits,(ends _).mpr enough⟩
    · exact Or.inr (BitVec.not_le.mp fun within => huge ((ends 0x4000000).mp within))

def StoredInside (buf : List u8) : Prop :=
  0x4C + (readLong buf 0x48).toNat ≤ buf.length ∧
    RoomFor ((buf.drop 0x4C).take (readLong buf 0x48).toNat) (readLong buf 0x48)

/-- The runs that follow end in time and stand for no more bytes than
announced, and the size these are rounded to is not more either. -/
def PackedInside (buf : List u8) : Prop :=
  ∃ out, Runs (buf.drop 0x50) out ∧ out.length ≤ (readLong buf 0x4C).toNat ∧
    RoomFor out (readLong buf 0x4C)

theorem copyBytes_all (src : List u8) (long : 0x50 ≤ src.length) (n : u32) :
    copyBytes src n.toNat n.toNat 0x4C [] =
      if 0x4C + n.toNat ≤ src.length then some ((src.drop 0x4C).take n.toNat)
      else none := by
  have all := @copyBytes_eq src [] n.toNat n.toNat 0x4C (by omega) (Nat.zero_le _)
  rw [List.length_nil,Nat.zero_add,List.nil_append] at all
  simp only [Nat.le_refl,and_true] at all
  exact all

theorem runLoop_iff (src res : List u8) (capacity : Nat) :
    runLoop src capacity 0x50 [] = some res ↔
      Runs (src.drop 0x50) res ∧ res.length ≤ capacity := by
  constructor
  · intro followed
    obtain ⟨expansion,runs⟩ := runs_of_runLoop (Nat.zero_le _) followed
    rw [runLoop_of_runs runs rfl (Nat.zero_le _),List.length_nil,Nat.zero_add,
      List.nil_append] at followed
    by_cases room : expansion.length ≤ capacity
    · rw [if_pos room] at followed
      cases followed
      exact ⟨runs,room⟩
    · rw [if_neg room] at followed
      cases followed
  · rintro ⟨runs,room⟩
    rw [runLoop_of_runs runs rfl (Nat.zero_le _),List.length_nil,Nat.zero_add,
      List.nil_append,if_pos room]

theorem accepted_safe_iff (within : out.length ≤ allocated.toNat) :
    (Unpacked.accepted out allocated (reportedSize out)).Safe ↔ RoomFor out allocated := by
  rw [← reportedSize_le_iff within]
  exact and_iff_right within

theorem no_gba_unpackSAV_of_fits {buf : List u8} (long : 0x50 ≤ buf.length)
    (fits : headerFits buf) :
    no_gba_unpackSAV buf capacity =
      if readLong buf 0x44 = 0 then
        .ofAccesses (copyBytes buf capacity (readLong buf 0x48).toNat 0x4C [])
      else if readLong buf 0x44 = 1 then .ofAccesses (runLoop buf capacity 0x50 [])
      else .failed 200 := by
  obtain ⟨name,mark,kind⟩ := fits
  have first : ¬(buf.take 0x1F ≠ no_GBA_HEADER_ID ∨ buf.getD 0x1F 0 ≠ 0x1A) := by
    rintro (other | other)
    · exact other name
    · exact other mark
  rw [no_gba_unpackSAV,if_neg (by omega),if_neg first,if_neg (not_not.mpr kind)]

theorem refused_of_not_fits (other : ¬headerFits buf) : no_gba_unpack buf = .refused := by
  have size : get_save_nogba_size buf = 0xFFFFFFFF := if_neg other
  rw [no_gba_unpack,size]
  rfl

theorem refused_of_short (short : buf.length < 0x50) : no_gba_unpack buf = .refused := by
  have failed : ∀ capacity, no_gba_unpackSAV buf capacity = .failed 1 := fun capacity =>
    if_pos short
  rw [no_gba_unpack]
  simp only [failed,ite_self]

theorem safe_of_size (announced : get_save_nogba_size buf = size) {unpacked : Option (List u8)}
    (unpacks : no_gba_unpackSAV buf size.toNat = .ofAccesses unpacked)
    (within : ∀ out, unpacked = some out → out.length ≤ size.toNat) :
    (no_gba_unpack buf).Safe ↔
      (size ≠ 0xFFFFFFFF → ∃ out, unpacked = some out ∧ RoomFor out size) := by
  rw [no_gba_unpack,announced]
  by_cases largest : size = 0xFFFFFFFF
  · subst largest
    exact ⟨fun _ other => absurd rfl other, fun _ => trivial⟩
  · simp only [if_neg largest,unpacks]
    cases unpacked with
    | none =>
        refine ⟨False.elim,fun inside => ?_⟩
        obtain ⟨out,none,_⟩ := inside largest
        cases none
    | some out =>
        refine (accepted_safe_iff (within out rfl)).trans ⟨fun room _ => ⟨out,rfl,room⟩, ?_⟩
        intro inside
        obtain ⟨_,same,room⟩ := inside largest
        cases same
        exact room

theorem stored_safe_iff (long : 0x50 ≤ buf.length) (fits : headerFits buf)
    (stored : readLong buf 0x44 = 0) :
    (no_gba_unpack buf).Safe ↔ (readLong buf 0x48 ≠ 0xFFFFFFFF → StoredInside buf) := by
  have size : get_save_nogba_size buf = readLong buf 0x48 := by
    rw [get_save_nogba_size,if_pos fits]
    exact if_pos stored
  have unpacks := @no_gba_unpackSAV_of_fits (readLong buf 0x48).toNat buf long fits
  rw [if_pos stored,copyBytes_all buf long] at unpacks
  rw [safe_of_size size unpacks]
  · unfold StoredInside
    by_cases held : 0x4C + (readLong buf 0x48).toNat ≤ buf.length
    · simp only [held,if_true,Option.some.injEq,exists_eq_left',true_and]
    · simp only [held,if_false,reduceCtorEq,false_and,exists_false]
  · intro out taken
    by_cases held : 0x4C + (readLong buf 0x48).toNat ≤ buf.length
    · rw [if_pos held] at taken
      cases taken
      exact List.length_take_le _ _
    · rw [if_neg held] at taken
      cases taken

theorem packed_safe_iff (long : 0x50 ≤ buf.length) (fits : headerFits buf)
    (packed : readLong buf 0x44 = 1) :
    (no_gba_unpack buf).Safe ↔ (readLong buf 0x4C ≠ 0xFFFFFFFF → PackedInside buf) := by
  have other : readLong buf 0x44 ≠ 0 := by
    rw [packed]
    decide
  have size : get_save_nogba_size buf = readLong buf 0x4C := by
    rw [get_save_nogba_size,if_pos fits]
    exact (if_neg other).trans (if_pos packed)
  have unpacks := @no_gba_unpackSAV_of_fits (readLong buf 0x4C).toNat buf long fits
  rw [if_neg other,if_pos packed] at unpacks
  rw [safe_of_size size unpacks fun out followed => ((runLoop_iff buf out _).mp followed).2]
  unfold PackedInside
  simp only [runLoop_iff,and_assoc]

/-- Nothing is accessed outside the buffers, and the reported size is inside
the allocation, exactly when a buffer that is long enough, with a header that
fits and a size below the largest, holds what the header announces. -/
theorem unpacking_in_bounds_iff (buf : List u8) :
    (no_gba_unpack buf).Safe ↔
      (0x50 ≤ buf.length → headerFits buf →
        (readLong buf 0x44 = 0 → readLong buf 0x48 ≠ 0xFFFFFFFF → StoredInside buf) ∧
          (readLong buf 0x44 = 1 → readLong buf 0x4C ≠ 0xFFFFFFFF → PackedInside buf)) := by
  by_cases long : 0x50 ≤ buf.length
  · by_cases fits : headerFits buf
    · by_cases stored : readLong buf 0x44 = 0
      · rw [stored_safe_iff long fits stored]
        have other : readLong buf 0x44 ≠ 1 := by
          rw [stored]
          decide
        exact ⟨fun inside _ _ => ⟨fun _ => inside, fun packed => absurd packed other⟩,
          fun inside => (inside long fits).1 stored⟩
      · by_cases packed : readLong buf 0x44 = 1
        · rw [packed_safe_iff long fits packed]
          exact ⟨fun inside _ _ => ⟨fun zero => absurd zero stored, fun _ => inside⟩,
            fun inside => (inside long fits).2 packed⟩
        · have size : get_save_nogba_size buf = 0xFFFFFFFF := by
            rw [get_save_nogba_size,if_pos fits]
            exact (if_neg stored).trans (if_neg packed)
          have refused : no_gba_unpack buf = .refused := by
            rw [no_gba_unpack,size]
            rfl
          rw [refused]
          exact ⟨fun _ _ _ => ⟨fun zero => absurd zero stored, fun one => absurd one packed⟩,
            fun _ => trivial⟩
    · rw [refused_of_not_fits fits]
      exact ⟨fun _ _ header => absurd header fits, fun _ => trivial⟩
  · rw [refused_of_short (Nat.not_le.mp long)]
    exact ⟨fun _ enough => absurd enough long, fun _ => trivial⟩

def headed (method : u8) (after : List u8) : List u8 :=
  no_GBA_HEADER_ID ++ [0x1A] ++ List.replicate 0x20 0 ++ no_GBA_HEADER_SRAM_ID ++
    [method,0,0,0] ++ after

/-- A stored save of four bytes is reported as 512, and a packed one without
a run is read beyond its end. -/
theorem four_bytes_and_no_run :
    no_gba_unpack (headed 0 [4,0,0,0,1,2,3,4]) = .accepted [1,2,3,4] 4 0x200 ∧
      no_gba_unpack (headed 1 [0,0,0,0,4,0,0,0]) = .outOfBounds ∧
      ¬∀ buf, (no_gba_unpack buf).Safe := by
  have stored : no_gba_unpack (headed 0 [4,0,0,0,1,2,3,4]) =
      .accepted [1,2,3,4] 4 0x200 := by
    decide +kernel
  have packed : no_gba_unpack (headed 1 [0,0,0,0,4,0,0,0]) = .outOfBounds := by
    decide +kernel
  refine ⟨stored,packed,fun everywhere => ?_⟩
  have safe := everywhere (headed 0 [4,0,0,0,1,2,3,4])
  rw [stored] at safe
  exact absurd safe.2 (by decide)

end NoGba

end Desmume.Backup
