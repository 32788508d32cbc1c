/-
Cached textures are fresh textures.

A run sets textures, changes memory, invalidates and evicts.
-/

import Desmume.Texture.Cache
import Desmume.Texture.View
import Desmume.Lib.Run

namespace Desmume.Texture

open TexCache_TexFormat TextureMode

/-- The cache, the memory, and whether the cache was invalidated since the
memory last changed. -/
structure State where
  cache : TexCache
  memory : Memory
  settled : Bool

inductive Op
  | change (memory : Memory)
  | invalidate
  | evictFrame
  | reset
  | setTexture (TEXFORMAT : TexCache_TexFormat) (fmt texpal : u32) (heap : Nat → u8)

def step (st : State) : Op → State
  | .change memory => { st with memory := memory, settled := false }
  | .invalidate =>
      { st with cache := TexCache_Invalidate st.cache st.memory, settled := true }
  | .evictFrame => { st with cache := TexCache_EvictFrame st.cache }
  | .reset => { st with cache := TexCache_Reset st.cache }
  | .setTexture TEXFORMAT fmt texpal heap =>
      { st with
        cache := (TexCache_SetTexture st.cache st.memory TEXFORMAT fmt texpal heap).1 }

def State.initial (memory : Memory) : State where
  cache := TexCache.new
  memory := memory
  settled := true

def Invalidated (st : State) : Op → Prop
  | .setTexture _ _ _ _ => st.settled = true
  | _ => True

def ShowsFresh (st : State) : Op → Prop
  | .setTexture TEXFORMAT fmt texpal heap =>
      ∀ otherHeap : Nat → u8,
        let served := (TexCache_SetTexture st.cache st.memory TEXFORMAT fmt texpal heap).2
        let fresh :=
          (TexCache_SetTexture TexCache.new st.memory TEXFORMAT fmt texpal otherHeap).2
        served.sizeX = fresh.sizeX ∧ served.sizeY = fresh.sizeY ∧ served.decoded = fresh.decoded
  | _ => True

/-- A texture fits in the dump, and a 4x4 texture is decoded from dumped memory. -/
structure Covered (memory : Memory) (fmt texpal : u32) : Prop where
  dumped : texSize fmt ≤ maxTextureSize
  reads : textureMode fmt = TEXMODE_4X4 → ReadsSpans memory fmt texpal

def SetsCovered (st : State) : Op → Prop
  | .setTexture _ fmt texpal _ => Covered st.memory fmt texpal
  | _ => True

def PaletteDumped (paletteDump : Nat → u8) (memory : Memory) : Prop :=
  ∀ index, index < PALETTE_DUMP_SIZE →
    memory.host ((paletteSpan memory).address index) = paletteDump index

structure DecodedFrom (source : Memory) (item : TexCacheItem) : Prop where
  covered : Covered source item.texformat item.texpal
  width : item.sizeX = sizeX item.texformat
  height : item.sizeY = sizeY item.texformat
  texels : item.decoded = decode item.cacheFormat source item.texformat item.texpal
  palette : item.dump.palette = pal source item.texformat item.texpal
  imageDumped : item.dump.textureSize = texSize item.texformat
  indexDumped : item.dump.indexSize = indexSize item.texformat
  image : ∀ index, index < texSize item.texformat →
    source.host ((ms source item.texformat).address index) = item.dump.texture index
  index : textureMode item.texformat = TEXMODE_4X4 → ∀ index, index < indexSize item.texformat →
    source.host ((msIndex source item.texformat).address index) =
      item.dump.texture (texSize item.texformat + index)

/-- The item is a decode of some memory: of one with the current view unless it
is suspected, and of one with the palette of the palette dump unless it is a
4x4 texture that is assumed invalid. -/
def Justified (st : State) (item : TexCacheItem) : Prop :=
  ∃ source, DecodedFrom source item ∧
    (textureMode item.texformat = TEXMODE_4X4 → item.assumedInvalid = false →
      PaletteDumped st.cache.paletteDump source) ∧
    (st.settled = true → item.suspectedInvalid = false →
      SameView source st.memory item.texformat item.texpal)

structure Sound (st : State) : Prop where
  items : ∀ item, item ∈ st.cache.index → Justified st item
  palette : st.settled = true → PaletteDumped st.cache.paletteDump st.memory

theorem sound_initial (memory : Memory)
    (blank : PaletteDumped TexCache.new.paletteDump memory) : Sound (State.initial memory) where
  items := fun _ member => nomatch member
  palette := fun _ => blank

variable {st : State}

variable {item : TexCacheItem} {source : Memory}

/-- An item of the format and palette asked for is accepted only if it was
decoded from memory with the current view. -/
theorem sameView_of_accepts {TEXFORMAT : TexCache_TexFormat} (decoded : DecodedFrom source item)
    (palette : textureMode item.texformat = TEXMODE_4X4 → item.assumedInvalid = false →
      PaletteDumped st.cache.paletteDump source) (unsuspected : item.suspectedInvalid = false →
      SameView source st.memory item.texformat item.texpal)
    (current : PaletteDumped st.cache.paletteDump st.memory)
    (accepted : accepts st.memory TEXFORMAT item.texformat item.texpal item = true) :
    item.cacheFormat = TEXFORMAT ∧ SameView source st.memory item.texformat item.texpal := by
  unfold accepts at accepted
  split at accepted
  · cases accepted
  · rename_i sameFormat
    refine ⟨not_not.mp sameFormat,?_⟩
    split at accepted
    · cases accepted
    · rename_i notAssumed
      split at accepted
      · rename_i notSuspected
        exact unsuspected (by simpa using notSuspected)
      · split at accepted
        · cases accepted
        · rename_i samePalette
          split at accepted
          · cases accepted
          · rename_i sameImage
            split at accepted
            · cases accepted
            · rename_i sameIndex
              refine ⟨?_,?_,?_,?_⟩
              · intro index inside
                have compared : Gather.stretchDiffers (pal st.memory item.texformat item.texpal)
                    item.dump.palette 0 0 (palSize item.texformat * 2) = false := by
                  by_contra differs
                  have some : palSize item.texformat * 2 ≠ 0 := by omega
                  exact samePalette ⟨some,(Bool.not_eq_false _).mp differs⟩
                have here := (Gather.stretchDiffers_eq_false _ _ _ _ _).mp compared index inside
                rw [Nat.zero_add,decoded.palette] at here
                exact here.symm
              · intro index inside
                have compared := (MemSpan.memcmp_eq_false _ _ _ _ _).mp
                  (Bool.not_eq_true _ ▸ sameImage) index
                rw [decoded.imageDumped,Nat.zero_add] at compared
                exact (decoded.image index inside).trans
                  (compared (Nat.lt_min.mpr ⟨inside,inside⟩)).symm
              · intro is4x4 index inside
                have compared : (msIndex st.memory item.texformat).memcmp st.memory.host
                    item.dump.texture item.dump.textureSize item.dump.indexSize = false := by
                  by_contra differs
                  exact sameIndex ⟨is4x4,(Bool.not_eq_false _).mp differs⟩
                have here := (MemSpan.memcmp_eq_false _ _ _ _ _).mp compared index
                rw [decoded.imageDumped,decoded.indexDumped] at here
                exact (decoded.index is4x4 index inside).trans
                  (here (Nat.lt_min.mpr ⟨inside,inside⟩)).symm
              · intro is4x4 index inside
                have kept := palette is4x4 (by simpa using notAssumed)
                exact (kept index inside).trans (current index inside).symm

theorem lookup_cases (memory : Memory) (TEXFORMAT : TexCache_TexFormat) (fmt texpal : u32)
    (items : List TexCacheItem) :
    match lookup memory TEXFORMAT fmt texpal items with
    | .missing => True
    | .rejected _ index => ∀ item, item ∈ index → item ∈ items
    | .accepted curr index =>
        (∃ old, old ∈ items ∧ old.texformat = fmt ∧ old.texpal = texpal ∧
          accepts memory TEXFORMAT fmt texpal old = true ∧
          curr = { old with suspectedInvalid := false }) ∧
        ∀ item, item ∈ index → item = curr ∨ item ∈ items := by
  induction items with
  | nil => trivial
  | cons first rest ih =>
      rw [lookup]
      by_cases other : first.texformat ≠ fmt ∨ first.texpal ≠ texpal
      · rw [if_pos other]
        cases outcome : lookup memory TEXFORMAT fmt texpal rest with
        | missing => trivial
        | rejected curr index =>
            rw [outcome] at ih
            intro item member
            rcases List.mem_cons.mp member with rfl | later
            · exact List.mem_cons_self
            · exact List.mem_cons_of_mem first (ih item later)
        | accepted curr index =>
            rw [outcome] at ih
            obtain ⟨⟨old,present,found⟩,members⟩ := ih
            refine ⟨⟨old,List.mem_cons_of_mem first present,found⟩,?_⟩
            intro item member
            rcases List.mem_cons.mp member with rfl | later
            · exact Or.inr List.mem_cons_self
            · exact (members item later).imp_right (List.mem_cons_of_mem first)
      · rw [if_neg other]
        obtain ⟨sameFormat,samePalette⟩ := not_or.mp other
        by_cases accepted : accepts memory TEXFORMAT fmt texpal first = true
        · rw [if_pos accepted]
          refine ⟨⟨first,List.mem_cons_self,not_not.mp sameFormat,not_not.mp samePalette,
            accepted,rfl⟩,?_⟩
          intro item member
          exact (List.mem_cons.mp member).imp_right (List.mem_cons_of_mem first)
        · rw [if_neg accepted]
          exact fun item member => List.mem_cons_of_mem first member

section

variable {cache : TexCache} {memory : Memory} {TEXFORMAT : TexCache_TexFormat}
  {fmt texpal : u32} (heap : Nat → u8) {curr : TexCacheItem} {index : List TexCacheItem}

theorem scan_missing (outcome : lookup memory TEXFORMAT fmt texpal cache.index = .missing) :
    cache.scan memory TEXFORMAT fmt texpal heap =
      (cache.list_push_front (newitem memory TEXFORMAT fmt texpal heap),
        newitem memory TEXFORMAT fmt texpal heap) := by
  rw [TexCache.scan,outcome]

theorem scan_rejected
    (outcome : lookup memory TEXFORMAT fmt texpal cache.index = .rejected curr index) :
    cache.scan memory TEXFORMAT fmt texpal heap =
      (TexCache.list_push_front
        { cache with index := index, cache_size := cache.cache_size - curr.decode_len }
        (newitem memory TEXFORMAT fmt texpal heap),
        newitem memory TEXFORMAT fmt texpal heap) := by
  rw [TexCache.scan,outcome]

theorem scan_accepted
    (outcome : lookup memory TEXFORMAT fmt texpal cache.index = .accepted curr index) :
    cache.scan memory TEXFORMAT fmt texpal heap = ({ cache with index := index }, curr) := by
  rw [TexCache.scan,outcome]

end

theorem mem_insertItem (item : TexCacheItem) (items : List TexCacheItem) (other : TexCacheItem)
    (member : other ∈ insertItem item items) : other = item ∨ other ∈ items := by
  induction items with
  | nil => exact Or.inl (List.mem_singleton.mp member)
  | cons curr rest ih =>
      rw [insertItem] at member
      by_cases before : item.texformat < curr.texformat
      · rw [if_pos before] at member
        exact List.mem_cons.mp member
      · rw [if_neg before] at member
        rcases List.mem_cons.mp member with rfl | later
        · exact Or.inr List.mem_cons_self
        · exact (ih later).imp_right (List.mem_cons_of_mem curr)

theorem newitem_decodedFrom (memory : Memory) (TEXFORMAT : TexCache_TexFormat)
    (fmt texpal : u32) (heap : Nat → u8) (covered : Covered memory fmt texpal) :
    DecodedFrom memory (newitem memory TEXFORMAT fmt texpal heap) where
  covered := covered
  width := rfl
  height := rfl
  texels := rfl
  palette := rfl
  imageDumped := rfl
  indexDumped := rfl
  image := by
    intro index inside
    change index < texSize fmt at inside
    have fits : index < min (ms memory fmt).size maxTextureSize :=
      Nat.lt_min.mpr ⟨inside,inside.trans_le covered.dumped⟩
    have dumped := (ms memory fmt).dump_inside memory.host heap 0 maxTextureSize fits
    rw [Nat.zero_add] at dumped
    change _ = (if textureMode fmt = TEXMODE_4X4 then _ else _ : Nat → u8) index
    by_cases is4x4 : textureMode fmt = TEXMODE_4X4
    · rw [if_pos is4x4]
      have kept := (msIndex memory fmt).dump_outside memory.host
        ((ms memory fmt).dump memory.host heap 0 maxTextureSize) (ms memory fmt).size
        (msIndex memory fmt).size (Or.inl inside)
      exact (kept.trans dumped).symm
    · rw [if_neg is4x4]
      exact dumped.symm
  index := by
    intro is4x4 index inside
    change index < indexSize fmt at inside
    have dumped := (msIndex memory fmt).dump_inside memory.host
      ((ms memory fmt).dump memory.host heap 0 maxTextureSize) (ms memory fmt).size
      (msIndex memory fmt).size (Nat.lt_min.mpr ⟨inside,inside⟩)
    change _ = (if textureMode fmt = TEXMODE_4X4 then _ else _ : Nat → u8)
      ((ms memory fmt).size + index)
    change textureMode fmt = TEXMODE_4X4 at is4x4
    rw [if_pos is4x4]
    exact dumped.symm

theorem texels_of_sameView {memory : Memory}
    (decoded : DecodedFrom source item) (covered : Covered memory item.texformat item.texpal)
    (same : SameView source memory item.texformat item.texpal) :
    item.decoded = decode item.cacheFormat memory item.texformat item.texpal :=
  decoded.texels.trans
    (decode_congr item.cacheFormat same decoded.covered.reads covered.reads)

theorem showsFresh_of_sound (sound : Sound st) (op : Op)
    (invalidated : Invalidated st op) (covered : SetsCovered st op) : ShowsFresh st op := by
  cases op with
  | change memory => trivial
  | invalidate => trivial
  | evictFrame => trivial
  | reset => trivial
  | setTexture TEXFORMAT fmt texpal heap =>
      intro otherHeap
      have cases := lookup_cases st.memory TEXFORMAT fmt texpal st.cache.index
      have empty : lookup st.memory TEXFORMAT fmt texpal TexCache.new.index = .missing := rfl
      have fresh := scan_missing otherHeap empty
      unfold TexCache_SetTexture
      rw [fresh]
      cases outcome : lookup st.memory TEXFORMAT fmt texpal st.cache.index with
      | missing =>
          rw [scan_missing heap outcome]
          exact ⟨rfl,rfl,rfl⟩
      | rejected curr index =>
          rw [scan_rejected heap outcome]
          exact ⟨rfl,rfl,rfl⟩
      | accepted curr index =>
          rw [outcome] at cases
          rw [scan_accepted heap outcome]
          obtain ⟨⟨old,present,rfl,rfl,accepted,rfl⟩,_⟩ := cases
          obtain ⟨source,decoded,palette,unsuspected⟩ := sound.items old present
          obtain ⟨sameFormat,same⟩ := sameView_of_accepts decoded palette
            (unsuspected invalidated) (sound.palette invalidated) accepted
          have texels := texels_of_sameView decoded covered same
          rw [sameFormat] at texels
          exact ⟨decoded.width,decoded.height,texels⟩

theorem Justified.unsuspected (decoded : DecodedFrom source item)
    (palette : textureMode item.texformat = TEXMODE_4X4 → item.assumedInvalid = false →
      PaletteDumped st.cache.paletteDump source)
    (same : SameView source st.memory item.texformat item.texpal) :
    Justified st { item with suspectedInvalid := false } :=
  ⟨source,{ decoded with },palette,fun _ _ => same⟩

theorem sound_setTexture (sound : Sound st) (TEXFORMAT : TexCache_TexFormat)
    (fmt texpal : u32) (heap : Nat → u8) (settled : st.settled = true)
    (covered : Covered st.memory fmt texpal) :
    Sound (step st (.setTexture TEXFORMAT fmt texpal heap)) := by
  have cases := lookup_cases st.memory TEXFORMAT fmt texpal st.cache.index
  have current := sound.palette settled
  have new : Justified st (newitem st.memory TEXFORMAT fmt texpal heap) :=
    ⟨st.memory,newitem_decodedFrom st.memory TEXFORMAT fmt texpal heap covered,
      fun _ _ => current, fun _ _ => SameView.refl st.memory fmt texpal⟩
  rw [step,TexCache_SetTexture]
  cases outcome : lookup st.memory TEXFORMAT fmt texpal st.cache.index with
  | missing =>
      rw [scan_missing heap outcome]
      refine ⟨?_,fun _ => current⟩
      intro item member
      rcases mem_insertItem _ _ item member with rfl | old
      · exact new
      · exact sound.items item old
  | rejected curr index =>
      rw [outcome] at cases
      rw [scan_rejected heap outcome]
      refine ⟨?_,fun _ => current⟩
      intro item member
      rcases mem_insertItem _ _ item member with rfl | old
      · exact new
      · exact sound.items item (cases item old)
  | accepted curr index =>
      rw [outcome] at cases
      rw [scan_accepted heap outcome]
      obtain ⟨⟨old,present,rfl,rfl,accepted,rfl⟩,members⟩ := cases
      refine ⟨?_,fun _ => current⟩
      intro item member
      rcases members item member with rfl | kept
      · obtain ⟨source,decoded,palette,unsuspected⟩ := sound.items old present
        obtain ⟨_,same⟩ := sameView_of_accepts decoded palette (unsuspected settled) current
          accepted
        exact Justified.unsuspected decoded palette same
      · exact sound.items item kept

theorem paletteSpan_size (memory : Memory) : (paletteSpan memory).size = PALETTE_DUMP_SIZE := by
  rw [paletteSpan,MemSpan_TexPalette,MemSpan.ofSlots]

theorem invalidate_dirty {cache : TexCache} {memory : Memory}
    (dirty : paletteDirty cache memory = true) :
    (cache.invalidate memory).paletteDump =
      (paletteSpan memory).dump memory.host cache.paletteDump 0 PALETTE_DUMP_SIZE := by
  simp only [TexCache.invalidate,dirty,if_true]

theorem invalidate_clean {cache : TexCache} {memory : Memory}
    (clean : paletteDirty cache memory = false) :
    (cache.invalidate memory).paletteDump = cache.paletteDump := by
  simp only [TexCache.invalidate,clean,Bool.false_eq_true,if_false]

theorem paletteDumped_invalidate (cache : TexCache) (memory : Memory) :
    PaletteDumped (cache.invalidate memory).paletteDump memory := by
  intro index inside
  have within : index < min (paletteSpan memory).size PALETTE_DUMP_SIZE := by
    rwa [paletteSpan_size,min_self]
  cases dirty : paletteDirty cache memory with
  | true =>
      have dumped := (paletteSpan memory).dump_inside memory.host cache.paletteDump 0
        PALETTE_DUMP_SIZE within
      rw [Nat.zero_add] at dumped
      rw [invalidate_dirty dirty,dumped]
  | false =>
      have same := (MemSpan.memcmp_eq_false _ _ _ _ _).mp dirty index within
      rw [Nat.zero_add] at same
      rw [invalidate_clean dirty,same]

theorem sound_invalidate (sound : Sound st) : Sound (step st .invalidate) := by
  refine ⟨?_,fun _ => paletteDumped_invalidate st.cache st.memory⟩
  intro item member
  obtain ⟨old,present,rfl⟩ := List.mem_map.mp member
  obtain ⟨source,decoded,palette,_⟩ := sound.items old present
  refine ⟨source,{ decoded with },?_,?_⟩
  · intro is4x4 notAssumed
    change PaletteDumped (st.cache.invalidate st.memory).paletteDump source
    change textureMode old.texformat = TEXMODE_4X4 at is4x4
    change (if textureMode old.texformat = TEXMODE_4X4 ∧ paletteDirty st.cache st.memory
      then true else old.assumedInvalid) = false at notAssumed
    cases dirty : paletteDirty st.cache st.memory with
    | true =>
        rw [dirty,if_pos ⟨is4x4,rfl⟩] at notAssumed
        cases notAssumed
    | false =>
        rw [dirty,if_neg (fun both => Bool.false_ne_true both.2)] at notAssumed
        rw [invalidate_clean dirty]
        exact palette is4x4 notAssumed
  · intro _ notSuspected
    cases notSuspected

theorem mem_evictItems (target : u32) (items : List TexCacheItem) (cache_size : u32)
    (item : TexCacheItem) (member : item ∈ (evictItems target items cache_size).1) :
    item ∈ items := by
  induction items generalizing cache_size with
  | nil => exact member
  | cons first rest ih =>
      rw [evictItems] at member
      by_cases exceeded : target < cache_size
      · rw [if_pos exceeded] at member
        exact List.mem_cons_of_mem first (ih _ member)
      · rwa [if_neg exceeded] at member

theorem sound_evict (sound : Sound st) (target : u32) :
    Sound { st with cache := st.cache.evict target } := by
  unfold TexCache.evict
  by_cases under : st.cache.cache_size < target
  · rw [if_pos under]
    exact sound
  · rw [if_neg under]
    refine ⟨?_,sound.palette⟩
    intro item member
    exact sound.items item (mem_evictItems _ _ _ item member)

theorem sound_step (sound : Sound st) (op : Op)
    (invalidated : Invalidated st op) (covered : SetsCovered st op) : Sound (step st op) := by
  cases op with
  | change memory =>
      refine ⟨?_,fun settled => nomatch settled⟩
      intro item member
      obtain ⟨source,decoded,palette,_⟩ := sound.items item member
      exact ⟨source,decoded,palette,fun settled => nomatch settled⟩
  | invalidate => exact sound_invalidate sound
  | evictFrame => exact sound_evict sound kMaxCacheSize
  | reset => exact sound_evict sound 0
  | setTexture TEXFORMAT fmt texpal heap =>
      exact sound_setTexture sound TEXFORMAT fmt texpal heap invalidated covered

/-- Slots 0 to 3 hold banks A, C, B and D; bank E is the palette. -/
def banks (host : Nat → u8) : Memory where
  host := host
  texPalSlot := fun slot => 0x80000 + slot.val * 0x4000
  textureSlotAddr := ![0,0x40000,0x20000,0x60000]

def written : Nat → u8 := Function.update (fun _ => 0) 0x20000 3

theorem banks_blank : PaletteDumped TexCache.new.paletteDump (banks fun _ => 0) :=
  fun _ _ => rfl

theorem paletteDirty_written (cache : TexCache) (blank : cache.paletteDump = fun _ => 0) :
    paletteDirty cache (banks written) = false := by
  apply (MemSpan.memcmp_eq_false _ _ _ _ _).mpr
  intro index inside
  rw [paletteSpan_size,min_self] at inside
  have slot : index / 0x4000 % 8 < 6 := by
    rw [PALETTE_DUMP_SIZE] at inside
    omega
  rw [blank,paletteSpan,MemSpan_TexPalette,
    MemSpan.address_ofSlots _ _ 0 PALETTE_DUMP_SIZE inside,Nat.zero_add]
  dsimp only
  rw [Bool.not_true,Bool.and_false,if_neg Bool.false_ne_true,Memory.palSlot,dif_pos slot]
  have elsewhere : 0x80000 + index / 0x4000 % 8 * 0x4000 + index % 0x4000 ≠ 0x20000 := by omega
  change written (0x80000 + index / 0x4000 % 8 * 0x4000 + index % 0x4000) = 0
  rw [written,Function.update_of_ne elsewhere]

def bankRun (fmt : u32) : List Op :=
  [.setTexture .TexFormat_32bpp fmt 0 fun _ => 0, .change (banks written), .invalidate,
    .setTexture .TexFormat_32bpp fmt 0 fun _ => 0]

theorem bankRun_invalidated (memory : Memory) (fmt : u32) :
    Run.Guarded step Invalidated (State.initial memory) (bankRun fmt) :=
  ⟨rfl,trivial,trivial,rfl,trivial⟩

/-- A run over covered textures returns fresh textures, from a cache constructed
while the palette memory is blank. -/
theorem fresh_along_runs (memory : Memory)
    (blank : PaletteDumped TexCache.new.paletteDump memory) (ops : List Op)
    (invalidated : Run.Guarded step Invalidated (State.initial memory) ops)
    (covered : Run.Guarded step SetsCovered (State.initial memory) ops) :
    Run.Guarded step ShowsFresh (State.initial memory) ops := by
  have sound := sound_initial memory blank
  generalize State.initial memory = st at invalidated covered sound
  induction ops generalizing st with
  | nil => trivial
  | cons op rest ih =>
      have next := sound_step sound op invalidated.1 covered.1
      exact ⟨showsFresh_of_sound sound op invalidated.1 covered.1,
        ih (step st op) invalidated.2 covered.2 next⟩

/-- A 4x4 texture at the start of slot 2, which is bank B. -/
def insideFormat : u32 := 0x14008000

theorem insideFormat_covered (memory : Memory) : Covered memory insideFormat 0 where
  dumped := by decide
  reads := fun is4x4 =>
    readsSpans_of_inside is4x4 memory (by decide) (by decide) (by decide)

theorem fresh_along_bankRun :
    Run.Guarded step ShowsFresh (State.initial (banks fun _ => 0)) (bankRun insideFormat) :=
  fresh_along_runs (banks fun _ => 0) banks_blank (bankRun insideFormat)
    (bankRun_invalidated _ _)
    ⟨insideFormat_covered _,trivial,trivial,insideFormat_covered _,trivial⟩

/-- A 4x4 texture of 8 by 8 texels of which the second row of blocks lies
behind the end of slot 0. -/
def overrunFormat : u32 := 0x14003FFF

def overrunItem : TexCacheItem :=
  newitem (banks fun _ => 0) .TexFormat_32bpp overrunFormat 0 fun _ => 0

theorem overrunItem_accepted :
    accepts (banks written) .TexFormat_32bpp overrunFormat 0
      { overrunItem with suspectedInvalid := true } = true := by
  decide +kernel

theorem overrunItem_looked_up :
    lookup (banks written) .TexFormat_32bpp overrunFormat 0
      [{ overrunItem with suspectedInvalid := true }] =
      .accepted overrunItem [overrunItem] := by
  have found : ¬ (overrunFormat ≠ overrunFormat ∨ (0 : u32) ≠ 0) := by simp
  exact (if_neg found).trans (if_pos overrunItem_accepted)

def overrunState : State where
  cache := (TexCache.new.list_push_front overrunItem).invalidate (banks written)
  memory := banks written
  settled := true

theorem overrunState_reached :
    step (step (step (State.initial (banks fun _ => 0))
      (.setTexture .TexFormat_32bpp overrunFormat 0 fun _ => 0)) (.change (banks written)))
      .invalidate = overrunState := by
  have empty : lookup (banks fun _ => 0) .TexFormat_32bpp overrunFormat 0 TexCache.new.index =
      .missing := rfl
  have set := scan_missing (fun _ => 0) empty
  simp only [step,State.initial,TexCache_SetTexture,set,TexCache_Invalidate]
  rfl

theorem overrunState_index :
    overrunState.cache.index = [{ overrunItem with suspectedInvalid := true }] := by
  have clean := paletteDirty_written (TexCache.new.list_push_front overrunItem) rfl
  simp only [overrunState,TexCache.invalidate,clean,Bool.false_eq_true,and_false,if_false]
  rfl

theorem overrunState_serves :
    (TexCache_SetTexture overrunState.cache (banks written) .TexFormat_32bpp overrunFormat 0
      fun _ => 0).2 = overrunItem := by
  have found := overrunItem_looked_up
  rw [← overrunState_index] at found
  rw [TexCache_SetTexture,scan_accepted _ found]

theorem overrunItem_stale :
    overrunItem.decoded 32 ≠ decode .TexFormat_32bpp (banks written) overrunFormat 0 32 := by
  decide +kernel

theorem cache_not_transparent :
    PaletteDumped TexCache.new.paletteDump (banks fun _ => 0) ∧
    Run.Guarded step Invalidated (State.initial (banks fun _ => 0)) (bankRun overrunFormat) ∧
    ¬ Run.Guarded step ShowsFresh (State.initial (banks fun _ => 0)) (bankRun overrunFormat) := by
  refine ⟨banks_blank,bankRun_invalidated _ _,?_⟩
  intro shows
  obtain ⟨_,_,_,last,_⟩ := shows
  rw [overrunState_reached] at last
  have texels := (last fun _ => 0).2.2
  have memory : overrunState.memory = banks written := rfl
  have empty : lookup (banks written) .TexFormat_32bpp overrunFormat 0 TexCache.new.index =
      .missing := rfl
  have fresh := scan_missing (fun _ => 0) empty
  rw [memory,overrunState_serves,TexCache_SetTexture,fresh] at texels
  change overrunItem.decoded = decode .TexFormat_32bpp (banks written) overrunFormat 0 at texels
  exact overrunItem_stale (congrFun texels 32)

end Desmume.Texture
