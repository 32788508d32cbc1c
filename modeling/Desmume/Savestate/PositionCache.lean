/-
The position cache of a file on disk: `EMUFILE_FILE`.

With the cache the file keeps the position of its stream, and a seek to there is
not passed on.
-/

import Desmume.Types
import Desmume.Lib.PartialRun
import Desmume.Lib.Stdio

namespace Desmume.PositionCache

open Stdio PartialRun

inductive eCondition
  | Clean
  | Unknown
  | Read
  | Write
  deriving DecidableEq

structure EMUFILE_FILE where
  fp : FILE
  mFilePosition : Int
  mPositionCacheEnabled : Bool
  mCondition : eCondition
  failbit : Bool

structure Outcome where
  ret : Int
  data : List u8

/-- The conversion to `int`, also by way of `u32`. -/
def asInt (val : Int) : Int := (BitVec.ofInt 32 val).toInt

inductive FileOp
  | fread (bytes : Nat)
  | fwrite (data : List u8)
  | fseek (off : Int) (origin : Origin)
  | ftell
  | fgetc
  | fputc (c : u8)
  | size

namespace EMUFILE_FILE

/-- `open`, of a file that there is. -/
def opened (fp : FILE) : EMUFILE_FILE := ⟨fp,0,false,.Clean,false⟩

def EnablePositionCache (file : EMUFILE_FILE) : EMUFILE_FILE :=
  { file with mPositionCacheEnabled := true, mFilePosition := file.fp.pos }

def DemandCondition (cond : eCondition) (file : EMUFILE_FILE) : EMUFILE_FILE :=
  if file.mCondition = .Clean then { file with mCondition := cond }
  else if file.mCondition = .Unknown ∨ file.mCondition ≠ cond then
    { file with fp := (file.fp.fseek file.fp.pos .SEEK_SET).2, mCondition := cond }
  else file

def fread (file : EMUFILE_FILE) (bytes : Nat) : Option (Outcome × EMUFILE_FILE) :=
  let file := file.DemandCondition .Read
  (file.fp.fread bytes).map fun taken =>
    (⟨taken.1.length,taken.1⟩,
      { file with
        fp := taken.2
        mFilePosition := file.mFilePosition + taken.1.length
        failbit := file.failbit || decide (taken.1.length < bytes) })

def fwrite (file : EMUFILE_FILE) (data : List u8) : Option (Outcome × EMUFILE_FILE) :=
  let file := file.DemandCondition .Write
  (file.fp.fwrite data).map fun taken =>
    (⟨taken.1,[]⟩,
      { file with
        fp := taken.2
        mFilePosition := file.mFilePosition + taken.1
        failbit := file.failbit || decide (taken.1 < data.length) })

def fseek (file : EMUFILE_FILE) (off : Int) (origin : Origin) : Outcome × EMUFILE_FILE :=
  if file.mPositionCacheEnabled = true ∧ origin = .SEEK_SET ∧ file.mFilePosition = off then
    (⟨0,[]⟩, file)
  else
    let moved := file.fp.fseek off origin
    (⟨moved.1,[]⟩,
      { file with
        fp := moved.2
        mCondition := .Clean
        mFilePosition := if file.mPositionCacheEnabled then moved.2.pos else file.mFilePosition })

def ftell (file : EMUFILE_FILE) : Int :=
  if file.mPositionCacheEnabled then asInt file.mFilePosition else asInt file.fp.pos

/-- -1 is `EOF`. -/
def fgetc (file : EMUFILE_FILE) : Option (Outcome × EMUFILE_FILE) :=
  (file.fp.fread 1).map fun taken =>
    (⟨(taken.1.head?.map fun byte => (byte.toNat : Int)).getD (-1),taken.1⟩,
      { file with fp := taken.2 })

def fputc (file : EMUFILE_FILE) (c : u8) : Option (Outcome × EMUFILE_FILE) :=
  (file.fp.fwrite [c]).map fun taken =>
    (⟨if taken.1 = 1 then c.toNat else -1,[]⟩, { file with fp := taken.2 })

def size (file : EMUFILE_FILE) : Outcome × EMUFILE_FILE :=
  let oldpos := file.ftell
  let atEnd := (file.fseek 0 .SEEK_END).2
  (⟨atEnd.ftell,[]⟩, (atEnd.fseek oldpos .SEEK_SET).2)

def step (file : EMUFILE_FILE) : FileOp → Option (Outcome × EMUFILE_FILE)
  | .fread bytes => file.fread bytes
  | .fwrite data => file.fwrite data
  | .fseek off origin => some (file.fseek off origin)
  | .ftell => some (⟨file.ftell,[]⟩, file)
  | .fgetc => file.fgetc
  | .fputc c => file.fputc c
  | .size => some file.size

def ReadsOn (file : EMUFILE_FILE) : Prop := (file.DemandCondition .Read).fp.Readable

def WritesOn (file : EMUFILE_FILE) : Prop := (file.DemandCondition .Write).fp.Writable

structure Demanded (cond : eCondition) (file after : EMUFILE_FILE) : Prop where
  stream : after.fp = file.fp.after after.fp.last
  mFilePosition : after.mFilePosition = file.mFilePosition
  mPositionCacheEnabled : after.mPositionCacheEnabled = file.mPositionCacheEnabled
  mCondition : after.mCondition = cond
  failbit : after.failbit = file.failbit

theorem demanded (cond : eCondition) (file : EMUFILE_FILE) :
    Demanded cond file (file.DemandCondition cond) := by
  unfold DemandCondition
  split
  · exact ⟨rfl,rfl,rfl,rfl,rfl⟩
  split
  · rw [FILE.fseek_here]
    exact ⟨rfl,rfl,rfl,rfl,rfl⟩
  · next kept =>
    exact ⟨rfl,rfl,rfl,not_not.mp (not_or.mp kept).2,rfl⟩

variable {file : EMUFILE_FILE}

theorem readsOn_iff_reading (reading : file.mCondition = .Read) :
    file.ReadsOn ↔ file.fp.Readable := by
  unfold ReadsOn DemandCondition
  rw [if_neg (by rw [reading]; decide),if_neg (by rw [reading]; decide)]

theorem writesOn_iff_writing (writing : file.mCondition = .Write) :
    file.WritesOn ↔ file.fp.Writable := by
  unfold WritesOn DemandCondition
  rw [if_neg (by rw [writing]; decide),if_neg (by rw [writing]; decide)]

theorem readsOn_of_writing (writing : file.mCondition = .Write) : file.ReadsOn := by
  unfold ReadsOn DemandCondition FILE.Readable
  rw [if_neg (by rw [writing]; decide),if_pos (by rw [writing]; decide),FILE.fseek_here]
  exact nofun

theorem writesOn_of_reading (reading : file.mCondition = .Read) : file.WritesOn := by
  unfold WritesOn DemandCondition FILE.Writable
  rw [if_neg (by rw [reading]; decide),if_pos (by rw [reading]; decide),FILE.fseek_here]
  exact nofun

theorem readsOn_of_read {atEnd : Bool}
    (read : file.fp.last = some (.read atEnd)) : file.ReadsOn := by
  unfold ReadsOn DemandCondition FILE.Readable
  split
  · rw [read]
    exact nofun
  split
  · rw [FILE.fseek_here]
    exact nofun
  · rw [read]
    exact nofun

theorem writesOn_of_last (writable : file.fp.Writable) : file.WritesOn := by
  unfold WritesOn DemandCondition
  split
  · exact writable
  split
  · rw [FILE.fseek_here]
    exact nofun
  · exact writable

theorem on_of_fresh (fresh : file.fp.last = none) : file.ReadsOn ∧ file.WritesOn := by
  have forgotten (cond : eCondition) : (file.DemandCondition cond).fp.last = none := by
    unfold DemandCondition
    split
    · exact fresh
    split
    · exact FILE.fseek_last _ _ _
    · exact fresh
  unfold ReadsOn WritesOn FILE.Readable FILE.Writable
  rw [forgotten .Read,forgotten .Write]
  exact ⟨nofun,nofun⟩

end EMUFILE_FILE

open EMUFILE_FILE

/-- The same file with the cache and without it. A stream that has not been
turned around with the cache need not be where its position is up to date. -/
structure Follows (cached plain : EMUFILE_FILE) : Prop where
  enabled : cached.mPositionCacheEnabled = true
  disabled : plain.mPositionCacheEnabled = false
  stream : cached.fp = plain.fp.after cached.fp.last
  failbit : cached.failbit = plain.failbit
  mCondition : plain.mCondition = .Clean ∨ cached.mCondition = plain.mCondition
  reads : plain.ReadsOn → cached.ReadsOn
  writes : plain.WritesOn → cached.WritesOn
  settled : cached.mFilePosition = cached.fp.pos → cached.ReadsOn ∧ cached.WritesOn
  behind : cached.mFilePosition ≤ cached.fp.pos

section

variable {cached plain next : EMUFILE_FILE} {out : Outcome}

theorem demanded_stream (follows : Follows cached plain) (cond : eCondition) :
    (cached.DemandCondition cond).fp =
      (plain.DemandCondition cond).fp.after (cached.DemandCondition cond).fp.last := by
  have here := (demanded cond cached).stream
  have there := (demanded cond plain).stream
  have same := follows.stream
  generalize (cached.DemandCondition cond).fp = first at here ⊢
  generalize (plain.DemandCondition cond).fp = second at there ⊢
  rw [here,there,same]
  rfl

theorem pos_of_follows (follows : Follows cached plain) : cached.fp.pos = plain.fp.pos := by
  rw [follows.stream]
  rfl

theorem fread_follows (follows : Follows cached plain) {bytes : Nat}
    (taken : plain.fread bytes = some (out, next)) :
    ∃ after, cached.fread bytes = some (out, after) ∧ Follows after next := by
  have demandedCached := demanded .Read cached
  have demandedPlain := demanded .Read plain
  have stream := demanded_stream follows .Read
  have reads : (plain.DemandCondition .Read).fp.Readable →
      (cached.DemandCondition .Read).fp.Readable := follows.reads
  have settled := follows.settled
  have onward : cached.ReadsOn → (cached.DemandCondition .Read).fp.Readable := id
  unfold EMUFILE_FILE.fread at taken ⊢
  revert taken demandedCached demandedPlain stream reads onward
  generalize cached.DemandCondition .Read = readied
  generalize plain.DemandCondition .Read = bare
  intro taken demandedCached demandedPlain stream reads onward
  dsimp only at taken ⊢
  obtain ⟨⟨data,read⟩,got,same⟩ := Option.map_eq_some_iff.mp taken
  cases same
  have pos := FILE.fread_pos got
  have here : bare.fp.pos = cached.fp.pos := by
    rw [demandedPlain.stream,follows.stream]
    rfl
  have failbit : readied.failbit = bare.failbit := by
    rw [demandedCached.failbit,demandedPlain.failbit,follows.failbit]
  have behind := follows.behind
  rw [stream] at reads
  rcases FILE.fread_after (fun _ => reads) got with ⟨again,atEnd,last,-⟩ | ⟨again,rfl,rfl⟩
  · rw [stream,again]
    refine ⟨_,rfl,?_⟩
    refine ⟨demandedCached.mPositionCacheEnabled.trans follows.enabled,
      demandedPlain.mPositionCacheEnabled.trans follows.disabled,rfl,?_,
      .inr (demandedCached.mCondition.trans demandedPlain.mCondition.symm),
      fun _ => readsOn_of_read last, fun _ => writesOn_of_reading demandedCached.mCondition,
      fun _ => ⟨readsOn_of_read last,writesOn_of_reading demandedCached.mCondition⟩, ?_⟩
    · dsimp only
      rw [failbit]
    · dsimp only
      rw [demandedCached.mFilePosition,pos,here]
      omega
  · rw [stream,again]
    refine ⟨_,rfl,?_⟩
    refine ⟨demandedCached.mPositionCacheEnabled.trans follows.enabled,
      demandedPlain.mPositionCacheEnabled.trans follows.disabled,rfl,?_,
      .inr (demandedCached.mCondition.trans demandedPlain.mCondition.symm),?_,
      fun _ => writesOn_of_reading demandedCached.mCondition, ?_, ?_⟩
    · dsimp only
      rw [failbit]
    · intro on
      have readable := (readsOn_iff_reading (by exact demandedPlain.mCondition)).mp on
      exact (readsOn_iff_reading (by exact demandedCached.mCondition)).mpr (reads readable)
    · intro upToDate
      have same : cached.mFilePosition = cached.fp.pos := by
        rw [← here,← demandedCached.mFilePosition]
        exact (Int.add_zero _).symm.trans upToDate
      have readable := onward (settled same).1
      rw [stream] at readable
      exact ⟨(readsOn_iff_reading (by exact demandedCached.mCondition)).mpr readable,
        writesOn_of_reading demandedCached.mCondition⟩
    · dsimp only
      rw [demandedCached.mFilePosition,List.length_nil]
      change cached.mFilePosition + 0 ≤ bare.fp.pos
      rw [here]
      omega

theorem fwrite_follows (follows : Follows cached plain) {data : List u8}
    (atEnd : cached.fp.append = true → cached.fp.pos = cached.fp.bytes.length)
    (taken : plain.fwrite data = some (out, next)) :
    ∃ after, cached.fwrite data = some (out, after) ∧ Follows after next := by
  have demandedCached := demanded .Write cached
  have demandedPlain := demanded .Write plain
  have stream := demanded_stream follows .Write
  have writes : (plain.DemandCondition .Write).fp.Writable →
      (cached.DemandCondition .Write).fp.Writable := follows.writes
  have settled := follows.settled
  have onward : cached.WritesOn → (cached.DemandCondition .Write).fp.Writable := id
  unfold EMUFILE_FILE.fwrite at taken ⊢
  revert taken demandedCached demandedPlain stream writes onward
  generalize cached.DemandCondition .Write = readied
  generalize plain.DemandCondition .Write = bare
  intro taken demandedCached demandedPlain stream writes onward
  dsimp only at taken ⊢
  obtain ⟨⟨n,written⟩,got,same⟩ := Option.map_eq_some_iff.mp taken
  cases same
  have place : bare.fp.writesAt = cached.fp.pos := by
    rw [← cached.fp.writesAt_of_end atEnd,demandedPlain.stream,follows.stream]
    rfl
  have here : bare.fp.pos = cached.fp.pos := by
    rw [demandedPlain.stream,follows.stream]
    rfl
  have failbit : readied.failbit = bare.failbit := by
    rw [demandedCached.failbit,demandedPlain.failbit,follows.failbit]
  have behind := follows.behind
  rw [stream] at writes
  rcases FILE.fwrite_after (fun _ => writes) got with ⟨again,last,-,-,pos⟩ | ⟨again,rfl,rfl⟩
  · have writable : written.Writable := by
      unfold FILE.Writable
      rw [last]
      exact nofun
    rw [stream,again]
    refine ⟨_,rfl,?_⟩
    refine ⟨demandedCached.mPositionCacheEnabled.trans follows.enabled,
      demandedPlain.mPositionCacheEnabled.trans follows.disabled,rfl,?_,
      .inr (demandedCached.mCondition.trans demandedPlain.mCondition.symm),
      fun _ => readsOn_of_writing demandedCached.mCondition,
      fun _ => writesOn_of_last writable,
      fun _ => ⟨readsOn_of_writing demandedCached.mCondition,writesOn_of_last writable⟩, ?_⟩
    · dsimp only
      rw [failbit]
    · dsimp only
      rw [demandedCached.mFilePosition,pos,place]
      omega
  · rw [stream,again]
    refine ⟨_,rfl,?_⟩
    refine ⟨demandedCached.mPositionCacheEnabled.trans follows.enabled,
      demandedPlain.mPositionCacheEnabled.trans follows.disabled,rfl,?_,
      .inr (demandedCached.mCondition.trans demandedPlain.mCondition.symm),
      fun _ => readsOn_of_writing demandedCached.mCondition, ?_, ?_, ?_⟩
    · dsimp only
      rw [failbit]
    · intro on
      have writable := (writesOn_iff_writing (by exact demandedPlain.mCondition)).mp on
      exact (writesOn_iff_writing (by exact demandedCached.mCondition)).mpr (writes writable)
    · intro upToDate
      have same : cached.mFilePosition = cached.fp.pos := by
        rw [← here,← demandedCached.mFilePosition]
        exact (Int.add_zero _).symm.trans upToDate
      have writable := onward (settled same).2
      rw [stream] at writable
      exact ⟨readsOn_of_writing demandedCached.mCondition,
        (writesOn_iff_writing (by exact demandedCached.mCondition)).mpr writable⟩
    · dsimp only
      rw [demandedCached.mFilePosition]
      change cached.mFilePosition + 0 ≤ bare.fp.pos
      rw [here]
      omega

variable {fp : FILE}

theorem accessed_follows (follows : Follows cached plain)
    (reads : ({ plain with fp := fp } : EMUFILE_FILE).ReadsOn →
      ({ cached with fp := fp } : EMUFILE_FILE).ReadsOn)
    (writes : ({ plain with fp := fp } : EMUFILE_FILE).WritesOn →
      ({ cached with fp := fp } : EMUFILE_FILE).WritesOn)
    (settled : cached.mFilePosition = fp.pos →
      ({ cached with fp := fp } : EMUFILE_FILE).ReadsOn ∧
        ({ cached with fp := fp } : EMUFILE_FILE).WritesOn)
    (behind : cached.mFilePosition ≤ fp.pos) :
    Follows { cached with fp := fp } { plain with fp := fp } :=
  ⟨follows.enabled,follows.disabled,rfl,follows.failbit,follows.mCondition,reads,writes,
    settled,behind⟩

theorem same_demand {first second : EMUFILE_FILE} (stream : first.fp = second.fp)
    (mCondition : first.mCondition = second.mCondition) (cond : eCondition) :
    (first.DemandCondition cond).fp = (second.DemandCondition cond).fp := by
  unfold DemandCondition
  rw [mCondition]
  split
  · exact stream
  split
  · dsimp only
    rw [stream]
  · exact stream

theorem clean_demand {file : EMUFILE_FILE} (clean : file.mCondition = .Clean)
    (cond : eCondition) : (file.DemandCondition cond).fp = file.fp := by
  unfold DemandCondition
  rw [if_pos clean]

theorem writes_after_read (last : fp.last = some (.read false))
    (mCondition : plain.mCondition = .Clean ∨ cached.mCondition = plain.mCondition)
    (stream : plain.fp = fp ∧ cached.fp = fp) (on : plain.WritesOn) : cached.WritesOn := by
  unfold WritesOn at on ⊢
  rcases mCondition with clean | same
  · rw [clean_demand clean,stream.1] at on
    exact absurd last on
  · rwa [same_demand (stream.2.trans stream.1.symm) same]

theorem reads_after_write (last : fp.last = some .write)
    (mCondition : plain.mCondition = .Clean ∨ cached.mCondition = plain.mCondition)
    (stream : plain.fp = fp ∧ cached.fp = fp) (on : plain.ReadsOn) : cached.ReadsOn := by
  unfold ReadsOn at on ⊢
  rcases mCondition with clean | same
  · rw [clean_demand clean,stream.1] at on
    exact absurd last on
  · rwa [same_demand (stream.2.trans stream.1.symm) same]

theorem fgetc_follows (follows : Follows cached plain)
    (readable : cached.fp.canRead = true → cached.fp.Readable)
    (taken : plain.fgetc = some (out, next)) :
    ∃ after, cached.fgetc = some (out, after) ∧ Follows after next := by
  have stream := follows.stream
  unfold EMUFILE_FILE.fgetc at taken ⊢
  obtain ⟨⟨data,read⟩,got,same⟩ := Option.map_eq_some_iff.mp taken
  cases same
  rw [stream] at readable
  have pos := FILE.fread_pos got
  have here := pos_of_follows follows
  have behind := follows.behind
  rcases FILE.fread_after (fun canRead _ => readable canRead) got with
    ⟨again,atEnd,last,more⟩ | ⟨again,rfl,rfl⟩
  · rw [stream,again]
    refine ⟨_,rfl,accessed_follows follows (fun _ => readsOn_of_read last) ?_ ?_ ?_⟩
    · intro on
      cases atEnd with
      | true =>
          refine writesOn_of_last ?_
          unfold FILE.Writable
          dsimp only
          rw [last]
          exact nofun
      | false =>
          exact writes_after_read last (by exact follows.mCondition) (by exact ⟨rfl,rfl⟩) on
    · intro upToDate
      refine ⟨readsOn_of_read last,writesOn_of_last ?_⟩
      cases atEnd with
      | true =>
          unfold FILE.Writable
          dsimp only
          rw [last]
          exact nofun
      | false =>
          have some := List.length_pos_iff.mpr (more rfl)
          dsimp only at upToDate
          omega
    · dsimp only
      omega
  · rw [stream,again]
    refine ⟨cached,?_,follows⟩
    rw [← stream]
    rfl

theorem fputc_follows (follows : Follows cached plain) {c : u8}
    (writable : cached.fp.canWrite = true → cached.fp.Writable)
    (atEnd : cached.fp.append = true → cached.fp.pos = cached.fp.bytes.length)
    (taken : plain.fputc c = some (out, next)) :
    ∃ after, cached.fputc c = some (out, after) ∧ Follows after next := by
  have stream := follows.stream
  unfold EMUFILE_FILE.fputc at taken ⊢
  obtain ⟨⟨n,written⟩,got,same⟩ := Option.map_eq_some_iff.mp taken
  cases same
  have place : plain.fp.writesAt = cached.fp.pos := by
    rw [← cached.fp.writesAt_of_end atEnd,stream]
    rfl
  rw [stream] at writable
  have behind := follows.behind
  rcases FILE.fwrite_after (fun canWrite _ => writable canWrite) got with
    ⟨again,last,one,-,pos⟩ | ⟨again,rfl,rfl⟩
  · have on : ∀ file : EMUFILE_FILE, file.fp = written → file.WritesOn := by
      intro file same
      refine writesOn_of_last ?_
      unfold FILE.Writable
      rw [same,last]
      exact nofun
    rw [List.length_singleton] at one
    rw [stream,again]
    refine ⟨_,rfl,accessed_follows follows ?_ (fun _ => on _ rfl) ?_ ?_⟩
    · intro on
      exact reads_after_write last (by exact follows.mCondition) (by exact ⟨rfl,rfl⟩) on
    · intro upToDate
      dsimp only at upToDate
      omega
    · dsimp only
      omega
  · rw [stream,again]
    refine ⟨cached,?_,follows⟩
    rw [← stream]
    rfl

theorem fseek_follows (follows : Follows cached plain) (off : Int) (origin : Origin)
    (upToDate : origin = .SEEK_SET → cached.mFilePosition = off →
      cached.mFilePosition = cached.fp.pos) :
    (cached.fseek off origin).1 = (plain.fseek off origin).1 ∧
      Follows (cached.fseek off origin).2 (plain.fseek off origin).2 := by
  have here := pos_of_follows follows
  have moves : plain.fseek off origin =
      (⟨(plain.fp.fseek off origin).1,[]⟩,
        { plain with
          fp := (plain.fp.fseek off origin).2
          mCondition := .Clean
          mFilePosition := plain.mFilePosition }) := by
    unfold EMUFILE_FILE.fseek
    rw [if_neg (by rw [follows.disabled]; exact fun both => nomatch both.1)]
    dsimp only
    rw [follows.disabled]
    rfl
  rw [moves]
  by_cases skipped : origin = .SEEK_SET ∧ cached.mFilePosition = off
  · obtain ⟨set,same⟩ := skipped
    have current := upToDate set same
    have there : off = plain.fp.pos := by omega
    unfold EMUFILE_FILE.fseek
    rw [if_pos ⟨follows.enabled,set,same⟩,set,there,FILE.fseek_here]
    have fresh := @on_of_fresh
      { plain with fp := plain.fp.after none, mCondition := .Clean } rfl
    exact ⟨rfl,follows.enabled,follows.disabled,follows.stream,follows.failbit,.inl rfl,
      fun _ => (follows.settled current).1, fun _ => (follows.settled current).2,
      follows.settled, follows.behind⟩
  · have passed : (cached.fseek off origin) =
        (⟨(plain.fp.fseek off origin).1,[]⟩,
          { cached with
            fp := (plain.fp.fseek off origin).2
            mCondition := .Clean
            mFilePosition := (plain.fp.fseek off origin).2.pos }) := by
      unfold EMUFILE_FILE.fseek
      rw [if_neg (fun all => skipped all.2)]
      dsimp only
      rw [follows.enabled,follows.stream,FILE.fseek_after]
      rfl
    rw [passed]
    have fresh : ∀ file : EMUFILE_FILE, file.fp = (plain.fp.fseek off origin).2 →
        file.ReadsOn ∧ file.WritesOn := by
      intro file same
      refine on_of_fresh ?_
      rw [same]
      exact FILE.fseek_last _ _ _
    exact ⟨rfl,follows.enabled,follows.disabled,rfl,follows.failbit,.inl rfl,
      fun _ => (fresh _ rfl).1, fun _ => (fresh _ rfl).2, fun _ => fresh _ rfl, Int.le_refl _⟩

theorem ftell_follows (follows : Follows cached plain)
    (upToDate : cached.mFilePosition = cached.fp.pos) : cached.ftell = plain.ftell := by
  unfold EMUFILE_FILE.ftell
  rw [if_pos follows.enabled,if_neg (by rw [follows.disabled]; exact Bool.false_ne_true),
    upToDate,pos_of_follows follows]

theorem size_follows (follows : Follows cached plain)
    (upToDate : cached.mFilePosition = cached.fp.pos) :
    cached.size.1 = plain.size.1 ∧ Follows cached.size.2 plain.size.2 := by
  have oldpos := ftell_follows follows upToDate
  obtain ⟨-,ended⟩ := fseek_follows follows 0 .SEEK_END (fun other => nomatch other)
  have current : (cached.fseek 0 .SEEK_END).2.mFilePosition =
      (cached.fseek 0 .SEEK_END).2.fp.pos := by
    unfold EMUFILE_FILE.fseek
    rw [if_neg (fun all => nomatch all.2.1)]
    exact if_pos follows.enabled
  have len := ftell_follows ended current
  obtain ⟨-,back⟩ := fseek_follows ended cached.ftell .SEEK_SET (fun _ _ => current)
  unfold EMUFILE_FILE.size
  dsimp only
  rw [len]
  refine ⟨rfl,?_⟩
  rw [oldpos] at back ⊢
  exact back

end

/-! ### Runs -/

abbrev Both : Type := EMUFILE_FILE × EMUFILE_FILE

variable (both : Both) (op : FileOp)

def called (next : Both) : Prop :=
  ∃ out out', both.1.step op = some (out, next.1) ∧ both.2.step op = some (out', next.2)

def Meaningful : Prop := ∃ res, both.2.step op = some res

/-- The position is up to date where the call relies on it, `fgetc` and `fputc`
find a stream that need not be turned around, and in append mode a write finds
it at its end. -/
def Relies (file : EMUFILE_FILE) : FileOp → Prop
  | .fread _ => True
  | .fwrite _ => file.fp.append = true → file.fp.pos = file.fp.bytes.length
  | .fseek off origin =>
      origin = .SEEK_SET → file.mFilePosition = off → file.mFilePosition = file.fp.pos
  | .ftell => file.mFilePosition = file.fp.pos
  | .fgetc => file.fp.canRead = true → file.fp.Readable
  | .fputc _ =>
      (file.fp.canWrite = true → file.fp.Writable) ∧
        (file.fp.append = true → file.fp.pos = file.fp.bytes.length)
  | .size => file.mFilePosition = file.fp.pos

/-- The call returns the same, with the same bytes, and leaves the same file at
the same position. -/
def Unnoticed : Prop :=
  ∃ out cached plain, both.1.step op = some (out, cached) ∧ both.2.step op = some (out, plain) ∧
    cached.fp.bytes = plain.fp.bytes ∧ cached.fp.pos = plain.fp.pos ∧
    cached.failbit = plain.failbit

theorem step_follows {both : Both} (follows : Follows both.1 both.2) {op : FileOp}
    (relies : Relies both.1 op) {out : Outcome} {plain : EMUFILE_FILE}
    (taken : both.2.step op = some (out, plain)) :
    ∃ cached, both.1.step op = some (out, cached) ∧ Follows cached plain := by
  cases op with
  | fread bytes => exact fread_follows follows taken
  | fwrite data => exact fwrite_follows follows relies taken
  | fseek off origin =>
      obtain ⟨same,next⟩ := fseek_follows follows off origin relies
      have res : both.2.fseek off origin = (out, plain) := Option.some.inj taken
      rw [res] at same next
      refine ⟨(both.1.fseek off origin).2,?_,next⟩
      change (both.1.fseek off origin).1 = out at same
      rw [← same]
      rfl
  | ftell =>
      cases taken
      refine ⟨both.1,?_,follows⟩
      rw [← ftell_follows follows relies]
      rfl
  | fgetc => exact fgetc_follows follows relies taken
  | fputc c => exact fputc_follows follows relies.1 relies.2 taken
  | size =>
      obtain ⟨same,next⟩ := size_follows follows relies
      have res : both.2.size = (out, plain) := Option.some.inj taken
      rw [res] at same next
      refine ⟨both.1.size.2,?_,next⟩
      change both.1.size.1 = out at same
      rw [← same]
      rfl

/-- In a run that has a meaning without the cache, the cache is not noticed as
long as no call relies on a position that is not up to date. -/
theorem position_cache_unnoticed (fp : FILE) (fresh : fp.last = none) (ops : List FileOp)
    (along : Along called (fun both op => Meaningful both op ∧ Relies both.1 op)
      ((opened fp).EnablePositionCache, opened fp) ops) :
    Along called Unnoticed ((opened fp).EnablePositionCache, opened fp) ops := by
  have start : Follows (opened fp).EnablePositionCache (opened fp) :=
    ⟨rfl,rfl,rfl,rfl,.inl rfl,fun _ => (on_of_fresh fresh).1, fun _ => (on_of_fresh fresh).2,
      fun _ => on_of_fresh fresh, Int.le_refl _⟩
  have gives : ∀ (both : Both) (op : FileOp), Follows both.1 both.2 →
      Meaningful both op ∧ Relies both.1 op → Unnoticed both op := by
    rintro both op follows ⟨⟨⟨out,plain⟩,taken⟩,relies⟩
    obtain ⟨cached,same,next⟩ := step_follows follows relies taken
    refine ⟨out,cached,plain,same,taken,?_,pos_of_follows next,next.failbit⟩
    rw [next.stream]
    rfl
  have keeps : ∀ (both : Both) (op : FileOp) (next : Both), Follows both.1 both.2 →
      Meaningful both op ∧ Relies both.1 op → called both op next → Follows next.1 next.2 := by
    rintro both op next follows ⟨-,relies⟩ ⟨out,out',here,there⟩
    obtain ⟨cached,same,after⟩ := step_follows follows relies there
    rw [same] at here
    cases here
    exact after
  exact along_of_along gives keeps start along

def threeBytes : FILE where
  canRead := true
  canWrite := true
  append := false
  bytes := [1,2,3]
  pos := 0
  last := none

theorem position_cache_unnoticed_read :
    threeBytes.last = none ∧
      Along called (fun both op => Meaningful both op ∧ Relies both.1 op)
        ((opened threeBytes).EnablePositionCache, opened threeBytes) [.fread 2,.ftell] ∧
      Along called Unnoticed ((opened threeBytes).EnablePositionCache, opened threeBytes)
        [.fread 2,.ftell] := by
  have along : Along called (fun both op => Meaningful both op ∧ Relies both.1 op)
      ((opened threeBytes).EnablePositionCache, opened threeBytes) [.fread 2,.ftell] := by
    refine ⟨⟨⟨_,rfl⟩,trivial⟩,?_⟩
    rintro ⟨cached,plain⟩ ⟨out,out',here,there⟩
    have first := congrArg Prod.snd (Option.some.inj here)
    subst first
    exact ⟨⟨⟨_,rfl⟩,rfl⟩,fun _ _ => trivial⟩
  exact ⟨rfl,along,position_cache_unnoticed threeBytes rfl _ along⟩

/-- A byte that was taken by `fgetc` is missing in the position. -/
theorem position_cache_noticed :
    ¬Along called Unnoticed ((opened threeBytes).EnablePositionCache, opened threeBytes)
      [.fgetc,.ftell] := by
  intro along
  obtain ⟨⟨out,cached,plain,here,there,-⟩,-⟩ :=
    along.2 ({ (opened threeBytes).EnablePositionCache with
        fp := { threeBytes with pos := 1, last := some (.read false) } },
      { opened threeBytes with fp := { threeBytes with pos := 1, last := some (.read false) } })
      ⟨⟨1,[1]⟩,⟨1,[1]⟩,rfl,rfl⟩
  have zero : (0 : Int) = out.ret := congrArg (fun res => res.1.ret) (Option.some.inj here)
  have one : (1 : Int) = out.ret := congrArg (fun res => res.1.ret) (Option.some.inj there)
  omega

end Desmume.PositionCache
