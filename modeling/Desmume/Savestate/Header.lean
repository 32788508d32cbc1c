/-
`savestate_load` up to the point of no return.

The header is sixteen bytes of magic and four words.
-/

import Desmume.Savestate.Loading

namespace Desmume.Savestate
namespace Header

/-- The bytes of an `EMUFILE` from its position on. -/
structure Stream where
  rest : List u8
  failbit : Bool

namespace Stream

def fread (is : Stream) (bytes : Nat) : Stream × List u8 :=
  let data := is.rest.take bytes
  (⟨is.rest.drop bytes,is.failbit || decide (data.length < bytes)⟩, data)

/-- `read32le(&val, is)`: `none` when fewer than four bytes are left. -/
def read32le (is : Stream) : Stream × Option u32 :=
  let (is, data) := is.fread 4
  (is, word data)

end Stream

/-- `DeSmuME SState` and two zeros. -/
def magic : List u8 :=
  [0x44,0x65,0x53,0x6D,0x75,0x4D,0x45,0x20,0x53,0x53,0x74,0x61,0x74,0x65,0,0]

def SAVESTATE_VERSION : u32 := 12

/-- What `savestate_save` writes, and the flag of `savestate_load`. -/
structure Globals (Machine : Type) where
  machine : Machine
  _DESMUME_version : u32
  SAV_silent_fail_flag : Bool

inductive Outcome
  | returnsFalse
  | throws
  | writesOutside
  | NDS_Reset (buf : List u8)
  deriving DecidableEq

/-- What the loader uses and this repository does not hold. -/
structure Host where
  /-- `std::vector` of that many bytes can be built. -/
  allocates : u32 → Bool
  /-- The error, `destLen` and the bytes that `uncompress` leaves. -/
  uncompress : u32 → List u8 → Int × u32 × List u8

def Z_OK : Int := 0

section

variable {Machine : Type} (host : Host)

/-- From the version check to `NDS_Reset`. -/
def loadPayload (ssversion len comprlen : u32) (is : Stream) : Outcome :=
  if ssversion ≠ SAVESTATE_VERSION then .returnsFalse
  else if host.allocates len = false then .throws
  else if comprlen ≠ 0xFFFFFFFF then
    if host.allocates comprlen = false then .throws
    else
      let (is, cbuf) := is.fread comprlen.toNat
      if is.failbit then .returnsFalse
      else
        let (error, uncomprlen, buf) := host.uncompress len cbuf
        if error ≠ Z_OK ∨ uncomprlen ≠ len then .returnsFalse else .NDS_Reset buf
  else
    -- the result is not looked at, and `len-32` wraps
    let (_, data) := is.fread (len - 32).toNat
    if len.toNat < data.length then .writesOutside
    else .NDS_Reset (data ++ List.replicate (len.toNat - data.length) 0)

def savestate_load (globals : Globals Machine) (is : Stream) : Outcome × Globals Machine :=
  let globals := { globals with SAV_silent_fail_flag := false }
  let (is, header) := is.fread 16
  if is.failbit ∨ header ≠ magic then (.returnsFalse, globals)
  else
    match is.read32le with
    | (_, none) => (.returnsFalse, globals)
    | (is, some ssversion) =>
      match is.read32le with
      | (_, none) => (.returnsFalse, globals)
      | (is, some version) =>
        let globals := { globals with _DESMUME_version := version }
        match is.read32le with
        | (_, none) => (.returnsFalse, globals)
        | (is, some len) =>
          match is.read32le with
          | (_, none) => (.returnsFalse, globals)
          | (is, some comprlen) => (loadPayload host ssversion len comprlen is, globals)

end

def headerWord (is : Stream) (off : Nat) : u32 := (word ((is.rest.drop off).take 4)).getD 0

def ssversion (is : Stream) : u32 := headerWord is 16

def announcedVersion (is : Stream) : u32 := headerWord is 20

def len (is : Stream) : u32 := headerWord is 24

def comprlen (is : Stream) : u32 := headerWord is 28

def payload (is : Stream) : List u8 := is.rest.drop 32

def uncompressed (is : Stream) : Prop := comprlen is = 0xFFFFFFFF

instance (is : Stream) : Decidable (uncompressed is) := inferInstanceAs (Decidable (_ = _))

def Short (is : Stream) : Prop :=
  (payload is).length < if uncompressed is then (len is).toNat - 32 else (comprlen is).toNat

def BadData (host : Host) (is : Stream) : Prop :=
  let res := host.uncompress (len is) ((payload is).take (comprlen is).toNat)
  res.1 ≠ Z_OK ∨ res.2.1 ≠ len is

/-- No complete savestate. -/
inductive Incomplete (host : Host) (is : Stream) : Prop
  | wrongMagic (wrong : is.rest.take 16 ≠ magic)
  | truncated (short : is.rest.length < 32)
  | otherVersion (other : ssversion is ≠ SAVESTATE_VERSION)
  | shortPayload (short : Short is)
  | smallLength (small : (len is).toNat < 32)
  | badData (compressed : ¬uncompressed is) (bad : BadData host is)

structure ReadsVersion (is : Stream) : Prop where
  good : is.failbit = false
  started : is.rest.take 16 = magic
  long : 24 ≤ is.rest.length

structure ReadsHeader (is : Stream) : Prop extends ReadsVersion is where
  whole : 32 ≤ is.rest.length
  version : ssversion is = SAVESTATE_VERSION

/-- The function returns false before the reset, and what is saved stays. -/
structure Rejected {Machine : Type} (globals : Globals Machine)
    (res : Outcome × Globals Machine) : Prop where
  returned : res.1 = .returnsFalse
  machine : res.2.machine = globals.machine
  version : res.2._DESMUME_version = globals._DESMUME_version

structure Found (host : Host) (is : Stream) : Prop where
  buffer : host.allocates (len is) = true
  compressed : ¬uncompressed is
  input : host.allocates (comprlen is) = true
  fault : (payload is).length < (comprlen is).toNat ∨ BadData host is

section

variable {rest : List u8}

theorem read32le_short (failbit : Bool) (short : rest.length < 4) :
    Stream.read32le ⟨rest,failbit⟩ = (⟨rest.drop 4,true⟩, none) := by
  match rest, short with
  | [], _ => simp [Stream.read32le,Stream.fread,word]
  | [_], _ => simp [Stream.read32le,Stream.fread,word]
  | [_,_], _ => simp [Stream.read32le,Stream.fread,word]
  | [_,_,_], _ => simp [Stream.read32le,Stream.fread,word]

theorem read32le_long (failbit : Bool) (long : 4 ≤ rest.length) :
    Stream.read32le ⟨rest,failbit⟩ =
      (⟨rest.drop 4,failbit⟩, some ((word (rest.take 4)).getD 0)) := by
  match rest, long with
  | b0 :: b1 :: b2 :: b3 :: _, _ => simp [Stream.read32le,Stream.fread,word]

end

section

variable {Machine : Type} {host : Host} {globals : Globals Machine} {is : Stream}

theorem loadPayload_rejects_iff (version : ssversion is = SAVESTATE_VERSION)
    (good : is.failbit = false) :
    loadPayload host (ssversion is) (len is) (comprlen is) ⟨payload is,is.failbit⟩ =
      .returnsFalse ↔ Found host is := by
  unfold loadPayload
  rw [if_neg (not_not_intro version)]
  cases buffer : host.allocates (len is) with
  | false =>
      rw [if_pos rfl]
      refine iff_of_false (by intro same; cases same) ?_
      intro found
      rw [found.buffer] at buffer
      cases buffer
  | true =>
      rw [if_neg (by decide)]
      by_cases plain : comprlen is = 0xFFFFFFFF
      · rw [if_neg (not_not_intro plain)]
        refine iff_of_false ?_ (fun found => found.compressed plain)
        dsimp only
        split <;> (intro same; cases same)
      · rw [if_pos plain]
        cases input : host.allocates (comprlen is) with
        | false =>
            rw [if_pos rfl]
            refine iff_of_false (by intro same; cases same) ?_
            intro found
            rw [found.input] at input
            cases input
        | true =>
            rw [if_neg (by decide),good]
            dsimp only [Stream.fread]
            rw [Bool.false_or,List.length_take]
            by_cases short : (payload is).length < (comprlen is).toNat
            · rw [if_pos (by rw [decide_eq_true_eq]; omega)]
              exact iff_of_true rfl ⟨buffer,plain,input,.inl short⟩
            · rw [if_neg (by rw [decide_eq_true_eq]; omega)]
              split
              · next bad => exact iff_of_true rfl ⟨buffer,plain,input,.inr bad⟩
              · next accepted =>
                  refine iff_of_false (by intro same; cases same) ?_
                  intro found
                  exact accepted (found.fault.resolve_left short)

/-- The stages of the function by what the stream begins with. -/
theorem savestate_load_eq :
    savestate_load host globals is =
      if is.failbit = true ∨ is.rest.take 16 ≠ magic ∨ is.rest.length < 24 then
        (.returnsFalse, { globals with SAV_silent_fail_flag := false })
      else
        (if is.rest.length < 32 then .returnsFalse
          else loadPayload host (ssversion is) (len is) (comprlen is) ⟨payload is,is.failbit⟩,
          { globals with
            SAV_silent_fail_flag := false
            _DESMUME_version := announcedVersion is }) := by
  unfold savestate_load
  dsimp only [Stream.fread]
  by_cases started : is.failbit = false ∧ is.rest.take 16 = magic
  · obtain ⟨good,header⟩ := started
    have atLeast : 16 ≤ is.rest.length := by
      have size := congrArg List.length header
      rw [List.length_take] at size
      change _ = 16 at size
      omega
    have fits : ¬(is.rest.take 16).length < 16 := by
      rw [List.length_take]
      omega
    rw [good,Bool.false_or,decide_eq_false fits,if_neg (by simp [header])]
    by_cases first : is.rest.length < 20
    · rw [read32le_short _ (by rw [List.length_drop]; omega),if_pos (by omega)]
    rw [read32le_long _ (by rw [List.length_drop]; omega)]
    dsimp only
    rw [List.drop_drop]
    by_cases second : is.rest.length < 24
    · rw [read32le_short _ (by rw [List.length_drop]; omega),if_pos (by omega)]
    rw [read32le_long _ (by rw [List.length_drop]; omega),if_neg (by simp [header,second])]
    dsimp only
    rw [List.drop_drop]
    by_cases third : is.rest.length < 28
    · rw [read32le_short _ (by rw [List.length_drop]; omega),if_pos (by omega)]
      rfl
    rw [read32le_long _ (by rw [List.length_drop]; omega)]
    dsimp only
    rw [List.drop_drop]
    by_cases fourth : is.rest.length < 32
    · rw [read32le_short _ (by rw [List.length_drop]; omega),if_pos fourth]
      rfl
    rw [read32le_long _ (by rw [List.length_drop]; omega),if_neg fourth]
    dsimp only
    rw [List.drop_drop]
    rfl
  · have refused : is.failbit = true ∨ is.rest.take 16 ≠ magic := by
      by_contra accepted
      rw [not_or,Bool.not_eq_true,not_not] at accepted
      exact started accepted
    have before : (is.failbit || decide ((is.rest.take 16).length < 16)) = true ∨
        is.rest.take 16 ≠ magic := by
      rcases refused with failed | other
      · rw [failed]
        exact .inl rfl
      · exact .inr other
    have early : is.failbit = true ∨ is.rest.take 16 ≠ magic ∨ is.rest.length < 24 :=
      refused.imp_right .inl
    rw [if_pos before,if_pos early]

/-- What the code needs to reject an incomplete savestate and keep its globals:
it does not come as far as the version of the emulator or finds there the one it
has, and it finds the fault if the header is accepted. -/
structure Harmless (host : Host) (globals : Globals Machine) (is : Stream) : Prop where
  version : ReadsVersion is → announcedVersion is = globals._DESMUME_version
  found : ReadsHeader is → Found host is

theorem rejected_iff (host : Host) (globals : Globals Machine) (is : Stream) :
    Rejected globals (savestate_load host globals is) ↔ Harmless host globals is := by
  rw [savestate_load_eq]
  by_cases early : is.failbit = true ∨ is.rest.take 16 ≠ magic ∨ is.rest.length < 24
  · rw [if_pos early]
    have unread : ¬ReadsVersion is := by
      intro reads
      rcases early with failed | other | short
      · rw [reads.good] at failed
        cases failed
      · exact other reads.started
      · exact absurd reads.long (Nat.not_le_of_lt short)
    exact iff_of_true ⟨rfl,rfl,rfl⟩
      ⟨fun reads => absurd reads unread, fun reads => absurd reads.toReadsVersion unread⟩
  · rw [if_neg early]
    rw [not_or,not_or,Bool.not_eq_true,not_not,Nat.not_lt] at early
    obtain ⟨good,started,long⟩ := early
    have reads : ReadsVersion is := ⟨good,started,long⟩
    by_cases short : is.rest.length < 32
    · rw [if_pos short]
      have unread : ¬ReadsHeader is := fun reads => absurd reads.whole (Nat.not_le_of_lt short)
      constructor
      · intro rejected
        exact ⟨fun _ => rejected.version, fun reads => absurd reads unread⟩
      · intro harmless
        exact ⟨rfl,rfl,harmless.version reads⟩
    · rw [if_neg short]
      by_cases version : ssversion is = SAVESTATE_VERSION
      · have header : ReadsHeader is := ⟨reads,Nat.le_of_not_lt short,version⟩
        constructor
        · intro rejected
          exact ⟨fun _ => rejected.version,
            fun _ => (loadPayload_rejects_iff version good).mp rejected.returned⟩
        · intro harmless
          exact ⟨(loadPayload_rejects_iff version good).mpr (harmless.found header),rfl,
            harmless.version reads⟩
      · have rejects : loadPayload host (ssversion is) (len is) (comprlen is)
            ⟨payload is,is.failbit⟩ = .returnsFalse := if_pos version
        constructor
        · intro rejected
          exact ⟨fun _ => rejected.version, fun reads => absurd reads.version version⟩
        · intro harmless
          exact ⟨rejects,rfl,harmless.version reads⟩

/-- An incomplete savestate is rejected without an effect in these cases. -/
theorem savestate_rejected_iff (host : Host) (globals : Globals Machine) (is : Stream) :
    (Incomplete host is → Rejected globals (savestate_load host globals is)) ↔
      (Incomplete host is → Harmless host globals is) :=
  imp_congr_right fun _ => rejected_iff host globals is

end

def refusing : Host := ⟨fun _ => true, fun len _ => (-3, len, [])⟩

/-- A savestate of version 11 by an emulator of version 10. -/
def older : Stream := ⟨magic ++ [11,0,0,0,10,0,0,0,0,0,0,0,0,0,0,0],false⟩

def current : Globals Unit := ⟨(),9,false⟩

def cut : Stream :=
  ⟨magic ++ [12,0,0,0,9,0,0,0,40,0,0,0,255,255,255,255,1,2],false⟩

/-- The older savestate leaves its version behind, and the cut one is loaded. -/
theorem savestate_not_rejected :
    (Incomplete refusing older ∧
      ¬Rejected current (savestate_load refusing current older)) ∧
    Incomplete refusing cut ∧ ¬Rejected current (savestate_load refusing current cut) := by
  refine ⟨⟨.otherVersion (by decide),?_⟩,.shortPayload ?_,?_⟩
  · intro rejected
    exact absurd rejected.version (by decide)
  · change 2 < 8
    decide
  · intro rejected
    cases rejected.returned

end Header
end Desmume.Savestate
