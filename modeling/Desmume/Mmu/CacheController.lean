/-
The cache timing model: which tags each block of a cache holds.

No contents are emulated.
-/

import Desmume.Lib.PartialRun
import Desmume.Types

namespace Desmume.CacheTiming

inductive MMU_ACCESS_DIRECTION
  | MMU_AD_READ
  | MMU_AD_WRITE
  deriving DecidableEq, Repr

/-- The template arguments for which the class can be instantiated: a block has
at least one word, there is at least one block, and the size is an `int`. -/
structure CacheConfig where
  SIZESHIFT : Nat
  ASSOCIATIVESHIFT : Nat
  BLOCKSIZESHIFT : Nat
  wordInBlock : 2 ≤ BLOCKSIZESHIFT
  blockInSize : ASSOCIATIVESHIFT + BLOCKSIZESHIFT ≤ SIZESHIFT
  sizeIsInt : SIZESHIFT ≤ 30

namespace CacheConfig

variable (config : CacheConfig)

def SIZE : Nat := 2 ^ config.SIZESHIFT

def ASSOCIATIVITY : Nat := 2 ^ config.ASSOCIATIVESHIFT

def TAGSHIFT : Nat := config.SIZESHIFT - config.ASSOCIATIVESHIFT

def TAGMASK : u32 := ~~~(0 : u32) <<< config.TAGSHIFT

def BLOCKMASK : u32 :=
  (~~~(0 : u32) >>> (32 - config.TAGSHIFT)) &&& (~~~(0 : u32) <<< config.BLOCKSIZESHIFT)

def WORDSIZE : Nat := 4

def WORDSPERBLOCK : Nat := 2 ^ config.BLOCKSIZESHIFT / WORDSIZE

def DATAPERWORD : Nat := WORDSIZE * config.ASSOCIATIVITY

def DATAPERBLOCK : Nat := config.DATAPERWORD * config.WORDSPERBLOCK

def NUMBLOCKS : Nat := config.SIZE / config.DATAPERBLOCK

def blockIndex (blockMasked : u32) : Nat := (blockMasked >>> config.BLOCKSIZESHIFT).toNat

theorem ASSOCIATIVITY_pos : 0 < config.ASSOCIATIVITY := Nat.two_pow_pos _

theorem DATAPERBLOCK_eq :
    config.DATAPERBLOCK = 2 ^ (config.ASSOCIATIVESHIFT + config.BLOCKSIZESHIFT) := by
  obtain ⟨words,shift⟩ := Nat.exists_eq_add_of_le config.wordInBlock
  have perBlock : config.WORDSPERBLOCK = 2 ^ words := by
    unfold WORDSPERBLOCK WORDSIZE
    rw [shift,Nat.pow_add]
    exact Nat.mul_div_cancel_left _ (by norm_num)
  unfold DATAPERBLOCK DATAPERWORD ASSOCIATIVITY WORDSIZE
  rw [perBlock,shift,Nat.pow_add,Nat.pow_add]
  ring

theorem NUMBLOCKS_eq : config.NUMBLOCKS = 2 ^ (config.TAGSHIFT - config.BLOCKSIZESHIFT) := by
  unfold NUMBLOCKS SIZE TAGSHIFT
  rw [DATAPERBLOCK_eq,Nat.pow_div config.blockInSize (by norm_num),Nat.sub_sub]

theorem toNat_and_BLOCKMASK_lt (addr : u32) :
    (addr &&& config.BLOCKMASK).toNat < 2 ^ config.TAGSHIFT := by
  have blocks := config.blockInSize
  have words := config.wordInBlock
  have small : config.TAGSHIFT ≤ 30 := (Nat.sub_le _ _).trans config.sizeIsInt
  have low : (~~~(0 : u32) >>> (32 - config.TAGSHIFT)).toNat < 2 ^ config.TAGSHIFT := by
    rw [BitVec.toNat_ushiftRight,Nat.shiftRight_eq_div_pow]
    refine Nat.div_lt_of_lt_mul ?_
    rw [← Nat.pow_add,Nat.sub_add_cancel (by omega)]
    exact BitVec.isLt _
  calc (addr &&& config.BLOCKMASK).toNat
      ≤ config.BLOCKMASK.toNat := by
        rw [BitVec.toNat_and]
        exact Nat.and_le_right
    _ ≤ (~~~(0 : u32) >>> (32 - config.TAGSHIFT)).toNat := by
        unfold BLOCKMASK
        rw [BitVec.toNat_and]
        exact Nat.and_le_left
    _ < 2 ^ config.TAGSHIFT := low

theorem blockIndex_lt (addr : u32) :
    config.blockIndex (addr &&& config.BLOCKMASK) < config.NUMBLOCKS := by
  have blocks := config.blockInSize
  unfold blockIndex
  rw [NUMBLOCKS_eq,BitVec.toNat_ushiftRight,Nat.shiftRight_eq_div_pow]
  refine Nat.div_lt_of_lt_mul ?_
  rw [← Nat.pow_add,Nat.add_sub_cancel' (by unfold TAGSHIFT; omega)]
  exact config.toNat_and_BLOCKMASK_lt addr

end CacheConfig

variable {config : CacheConfig}

structure CacheBlock (config : CacheConfig) where
  tag : Fin config.ASSOCIATIVITY → u32
  nextWay : Fin config.ASSOCIATIVITY

def CacheBlock.Reset : CacheBlock config where
  tag := fun _ => 0
  nextWay := ⟨0,config.ASSOCIATIVITY_pos⟩

/-- `block.tag[block.nextWay++] = addr; block.nextWay %= ASSOCIATIVITY`. -/
def CacheBlock.allocate (block : CacheBlock config) (addr : u32) : CacheBlock config where
  tag := Function.update block.tag block.nextWay addr
  nextWay := ⟨(block.nextWay + 1) % config.ASSOCIATIVITY,Nat.mod_lt _ config.ASSOCIATIVITY_pos⟩

structure CacheController (config : CacheConfig) where
  m_cacheCache : u32
  m_blocks : Fin config.NUMBLOCKS → CacheBlock config

namespace CacheController

def Reset (config : CacheConfig) : CacheController config where
  m_cacheCache := ~~~(0 : u32)
  m_blocks := fun _ => CacheBlock.Reset

variable (DIR : MMU_ACCESS_DIRECTION)

/-- The search of the ways. The caller passes the masked address, and with it
that the block it selects is one of `m_blocks`. -/
def CachedInternal (cache : CacheController config)
    (addr blockMasked : u32) (inside : config.blockIndex blockMasked < config.NUMBLOCKS) :
    Bool × CacheController config :=
  let blockIndex : Fin config.NUMBLOCKS := ⟨config.blockIndex blockMasked,inside⟩
  let block := cache.m_blocks blockIndex
  let addr := addr &&& config.TAGMASK
  if ∃ way, addr = block.tag way then
    (true, { cache with m_cacheCache := blockMasked })
  else
    match DIR with
    | .MMU_AD_READ =>
        (false,
          { m_cacheCache := blockMasked
            m_blocks := Function.update cache.m_blocks blockIndex (block.allocate addr) })
    | .MMU_AD_WRITE => (false, cache)

def Cached (cache : CacheController config) (addr : u32) : Bool × CacheController config :=
  let blockMasked := addr &&& config.BLOCKMASK
  if blockMasked = cache.m_cacheCache then
    (true, cache)
  else
    cache.CachedInternal DIR addr blockMasked (config.blockIndex_lt addr)

def Searched (cache : CacheController config) (addr : u32) : Bool × CacheController config :=
  cache.CachedInternal DIR addr (addr &&& config.BLOCKMASK) (config.blockIndex_lt addr)

def Held (cache : CacheController config) (addr : u32) : Prop :=
  ∃ way, addr &&& config.TAGMASK =
    (cache.m_blocks ⟨_,config.blockIndex_lt addr⟩).tag way

instance (cache : CacheController config) (addr : u32) : Decidable (cache.Held addr) :=
  inferInstanceAs (Decidable (∃ _, _))

def ShortcutHeld (cache : CacheController config) (addr : u32) : Prop :=
  addr &&& config.BLOCKMASK = cache.m_cacheCache → cache.Held addr

instance (cache : CacheController config) (addr : u32) : Decidable (cache.ShortcutHeld addr) :=
  inferInstanceAs (Decidable (_ → _))

variable {addr : u32}

theorem searched_of_held {cache : CacheController config} (held : cache.Held addr) :
    cache.Searched DIR addr =
      (true, { cache with m_cacheCache := addr &&& config.BLOCKMASK }) :=
  if_pos held

theorem searched_of_absent {cache : CacheController config} (absent : ¬ cache.Held addr) :
    (cache.Searched DIR addr).1 = false := by
  cases DIR with
  | MMU_AD_READ => exact congrArg Prod.fst (if_neg absent)
  | MMU_AD_WRITE => exact congrArg Prod.fst (if_neg absent)

theorem searched_fst (cache : CacheController config) (addr : u32) :
    (cache.Searched DIR addr).1 = true ↔ cache.Held addr := by
  by_cases held : cache.Held addr
  · rw [searched_of_held DIR held]
    exact iff_of_true rfl held
  · refine iff_of_false ?_ held
    rw [searched_of_absent DIR held]
    exact Bool.false_ne_true

theorem cached_of_remembered {cache : CacheController config}
    (remembered : addr &&& config.BLOCKMASK = cache.m_cacheCache) :
    cache.Cached DIR addr = (true, cache) :=
  if_pos remembered

theorem cached_of_forgotten {cache : CacheController config}
    (forgotten : addr &&& config.BLOCKMASK ≠ cache.m_cacheCache) :
    cache.Cached DIR addr = cache.Searched DIR addr :=
  if_neg forgotten

theorem cached_eq_searched {cache : CacheController config} (sound : cache.ShortcutHeld addr) :
    cache.Cached DIR addr = cache.Searched DIR addr := by
  by_cases remembered : addr &&& config.BLOCKMASK = cache.m_cacheCache
  · rw [cached_of_remembered DIR remembered,searched_of_held DIR (sound remembered),remembered]
  · exact cached_of_forgotten DIR remembered

theorem cached_fst_iff_held (cache : CacheController config) (addr : u32) :
    ((cache.Cached DIR addr).1 = true ↔ cache.Held addr) ↔ cache.ShortcutHeld addr := by
  constructor
  · intro answer remembered
    rw [cached_of_remembered DIR remembered] at answer
    exact answer.mp rfl
  · intro sound
    rw [cached_eq_searched DIR sound]
    exact searched_fst DIR cache addr

theorem cached_ne_searched {cache : CacheController config} (unsound : ¬ cache.ShortcutHeld addr) :
    (cache.Cached DIR addr).1 ≠ (cache.Searched DIR addr).1 := by
  obtain ⟨remembered,absent⟩ := Classical.not_imp.mp unsound
  rw [cached_of_remembered DIR remembered]
  intro equal
  exact absent ((searched_fst DIR cache addr).mp equal.symm)

end CacheController

structure CacheAccess where
  DIR : MMU_ACCESS_DIRECTION
  addr : u32
  deriving DecidableEq, Repr

def cachedStep (cache : CacheController config) (access : CacheAccess) :
    CacheController config × List Bool :=
  let answer := cache.Cached access.DIR access.addr
  (answer.2, [answer.1])

def searchedStep (cache : CacheController config) (access : CacheAccess) :
    CacheController config × List Bool :=
  let answer := cache.Searched access.DIR access.addr
  (answer.2, [answer.1])

abbrev ShortcutsHeld (cache : CacheController config) (accesses : List CacheAccess) : Prop :=
  Run.Guarded (fun cache access => (cachedStep cache access).1)
    (fun cache access => cache.ShortcutHeld access.addr) cache accesses

abbrev AnswersHeld (cache : CacheController config) (accesses : List CacheAccess) : Prop :=
  Run.Guarded (fun cache access => (cachedStep cache access).1)
    (fun cache access =>
      (cache.Cached access.DIR access.addr).1 = true ↔ cache.Held access.addr) cache accesses

variable (cache : CacheController config)

variable (access : CacheAccess)

theorem cachedStep_of_sound (sound : cache.ShortcutHeld access.addr) :
    cachedStep cache access = searchedStep cache access := by
  unfold cachedStep searchedStep
  rw [CacheController.cached_eq_searched access.DIR sound]

theorem cachedStep_of_unsound (unsound : ¬ cache.ShortcutHeld access.addr) :
    (cachedStep cache access).2 ≠ (searchedStep cache access).2 := by
  intro equal
  exact CacheController.cached_ne_searched access.DIR unsound (List.singleton_inj.mp equal)

theorem answersHeld_iff (accesses : List CacheAccess) :
    AnswersHeld cache accesses ↔ ShortcutsHeld cache accesses := by
  refine @Run.guarded_iff_guarded _ _ _ (fun _ => True) _ _ (fun cache access _ => ?_)
    (fun _ _ _ _ => trivial) cache trivial accesses
  exact CacheController.cached_fst_iff_held access.DIR cache access.addr

/-- From `Reset`, the answers are those of the tag store, and the same as without
the shortcut, exactly when the shortcut is only taken for tags that are held. The
tag store is then the same too. No access ever selects a block outside. -/
theorem cached_run_iff (config : CacheConfig) (accesses : List CacheAccess) :
    (∀ addr, config.blockIndex (addr &&& config.BLOCKMASK) < config.NUMBLOCKS) ∧
    (AnswersHeld (CacheController.Reset config) accesses ↔
      ShortcutsHeld (CacheController.Reset config) accesses) ∧
    ((Run.logged cachedStep (CacheController.Reset config) accesses).2 =
        (Run.logged searchedStep (CacheController.Reset config) accesses).2 ↔
      ShortcutsHeld (CacheController.Reset config) accesses) ∧
    (ShortcutsHeld (CacheController.Reset config) accesses →
      Run.logged cachedStep (CacheController.Reset config) accesses =
        Run.logged searchedStep (CacheController.Reset config) accesses) := by
  refine ⟨config.blockIndex_lt,answersHeld_iff _ _,?_,?_⟩
  · exact FastPath.answers_eq_iff_sound cachedStep_of_sound cachedStep_of_unsound
      (fun _ _ => rfl) _ _
  · exact FastPath.logged_eq_of_sound cachedStep_of_sound

/-- `CacheController<12,2,5>`, the data cache of the first processor. -/
def arm9dataCache : CacheConfig := ⟨12,2,5,by norm_num,by norm_num,by norm_num⟩

/-- Two reads of one block under different tags: the second answers true though
only the first tag has been allocated. -/
theorem cached_answers_absent_tag :
    ¬ ∀ (config : CacheConfig) (accesses : List CacheAccess),
      AnswersHeld (CacheController.Reset config) accesses ∧
      (Run.logged cachedStep (CacheController.Reset config) accesses).2 =
        (Run.logged searchedStep (CacheController.Reset config) accesses).2 ∧
      ∀ addr, config.blockIndex (addr &&& config.BLOCKMASK) < config.NUMBLOCKS := by
  intro claim
  have answers := (claim arm9dataCache
    [⟨.MMU_AD_READ,0x02000400#32⟩,⟨.MMU_AD_READ,0x02000800#32⟩]).2.1
  revert answers
  decide +kernel

end Desmume.CacheTiming
