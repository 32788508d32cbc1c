/-
The texture cache: lookup and revalidation, invalidation, eviction.

The multimap is its items in order of their formats.
-/

import Desmume.Texture.Decode

namespace Desmume.Texture

open TexCache_TexFormat TextureMode

/-- `TexCacheItem::Dump`. -/
structure Dump where
  textureSize : Nat
  indexSize : Nat
  texture : Nat → u8
  palette : Nat → u8

def maxTextureSize : Nat := 128 * 1024

structure TexCacheItem where
  suspectedInvalid : Bool
  assumedInvalid : Bool
  decoded : Nat → Option u32
  decode_len : u32
  mode : TextureMode
  texformat : u32
  texpal : u32
  sizeX : Nat
  sizeY : Nat
  bufferWidth : u16
  cacheFormat : TexCache_TexFormat
  dump : Dump

structure TexCache where
  index : List TexCacheItem
  cache_size : u32
  paletteDump : Nat → u8

def TexCache.new : TexCache where
  index := []
  cache_size := 0
  paletteDump := fun _ => 0

/-- `index.insert`: behind the items of the same format. -/
def insertItem (item : TexCacheItem) : List TexCacheItem → List TexCacheItem
  | [] => [item]
  | curr :: rest =>
      if item.texformat < curr.texformat then item :: curr :: rest
      else curr :: insertItem item rest

variable (cache : TexCache) (mem : Memory) (TEXFORMAT : TexCache_TexFormat) (fmt texpal : u32)
  (heap : Nat → u8)

def TexCache.list_push_front (item : TexCacheItem) : TexCache :=
  { cache with
    index := insertItem item cache.index
    cache_size := cache.cache_size + item.decode_len }

/-- Whether the loop of `scan` accepts an item of the format and palette asked
for; otherwise it goes to `REJECT`. -/
def accepts (curr : TexCacheItem) : Bool :=
  if curr.cacheFormat ≠ TEXFORMAT then false
  else if curr.assumedInvalid then false
  else if ¬ curr.suspectedInvalid then true
  else if (mspal mem fmt texpal).size ≠ 0 ∧
      Gather.stretchDiffers (pal mem fmt texpal) curr.dump.palette 0 0
        (mspal mem fmt texpal).size then false
  else if (ms mem fmt).memcmp mem.host curr.dump.texture 0 curr.dump.textureSize then
    false
  else if textureMode fmt = TEXMODE_4X4 ∧
      (msIndex mem fmt).memcmp mem.host curr.dump.texture curr.dump.textureSize
        curr.dump.indexSize then false
  else true

inductive Lookup
  | missing
  | rejected (curr : TexCacheItem) (i : List TexCacheItem)
  | accepted (curr : TexCacheItem) (i : List TexCacheItem)

def Lookup.behind (first : TexCacheItem) : Lookup → Lookup
  | .missing => .missing
  | .rejected curr i => .rejected curr (first :: i)
  | .accepted curr i => .accepted curr (first :: i)

/-- The loop over `index.equal_range(format)`: items of another palette are
passed over, and the first other one is accepted or removed. -/
def lookup (mem : Memory) (TEXFORMAT : TexCache_TexFormat) (fmt texpal : u32) :
    List TexCacheItem → Lookup
  | [] => .missing
  | curr :: rest =>
      if curr.texformat ≠ fmt ∨ curr.texpal ≠ texpal then
        (lookup mem TEXFORMAT fmt texpal rest).behind curr
      else if accepts mem TEXFORMAT fmt texpal curr then
        let curr := { curr with suspectedInvalid := false }
        .accepted curr (curr :: rest)
      else .rejected curr rest

/-- A new item, decoded from the memory. Only `maxTextureSize` bytes of the
texture are dumped; `heap` is what the allocated block held before. -/
def newitem : TexCacheItem :=
  let textureSize := (ms mem fmt).size
  let texture := (ms mem fmt).dump mem.host heap 0 maxTextureSize
  { suspectedInvalid := false
    assumedInvalid := false
    decoded := decode TEXFORMAT mem fmt texpal
    decode_len := BitVec.ofNat 32 (sizeX fmt * sizeY fmt * 4)
    mode := textureMode fmt
    texformat := fmt
    texpal := texpal
    sizeX := sizeX fmt
    sizeY := sizeY fmt
    bufferWidth := BitVec.ofNat 16 (sizeX fmt)
    cacheFormat := TEXFORMAT
    dump :=
      { textureSize := textureSize
        indexSize := (msIndex mem fmt).size
        texture :=
          if textureMode fmt = TEXMODE_4X4 then
            (msIndex mem fmt).dump mem.host texture textureSize
              (msIndex mem fmt).size
          else texture
        palette := pal mem fmt texpal } }

/-- `scan`: the cache afterwards and the item returned. -/
def TexCache.scan : TexCache × TexCacheItem :=
  let item := newitem mem TEXFORMAT fmt texpal heap
  match lookup mem TEXFORMAT fmt texpal cache.index with
  | .accepted curr index => ({ cache with index := index }, curr)
  | .rejected curr index =>
      ({ cache with index := index, cache_size := cache.cache_size - curr.decode_len }
        |>.list_push_front item, item)
  | .missing => (cache.list_push_front item, item)

def paletteDirty : Bool :=
  (paletteSpan mem).memcmp mem.host cache.paletteDump 0 PALETTE_DUMP_SIZE

def TexCache.invalidate : TexCache :=
  let dirty := paletteDirty cache mem
  { cache with
    paletteDump :=
      if dirty then
        (paletteSpan mem).dump mem.host cache.paletteDump 0 PALETTE_DUMP_SIZE
      else cache.paletteDump
    index := cache.index.map fun item =>
      { item with
        suspectedInvalid := true
        assumedInvalid :=
          if textureMode item.texformat = TEXMODE_4X4 ∧ dirty then true
          else item.assumedInvalid } }

/-- The loop of `evict`: removes the first item until the size is small enough. -/
def evictItems (target : u32) : List TexCacheItem → (cache_size : u32) →
    List TexCacheItem × u32
  | [], cache_size => ([], cache_size)
  | item :: rest, cache_size =>
      if target < cache_size then evictItems target rest (cache_size - item.decode_len)
      else (item :: rest, cache_size)

def kMaxCacheSize : u32 := 4 * 1024 * 1024

def TexCache.evict (target : u32) : TexCache :=
  if cache.cache_size < target then cache
  else
    let kept := evictItems (target / 2) cache.index cache.cache_size
    { cache with index := kept.1, cache_size := kept.2 }

def TexCache_Reset : TexCache := cache.evict 0

def TexCache_Invalidate : TexCache := cache.invalidate mem

def TexCache_EvictFrame : TexCache := cache.evict kMaxCacheSize

def TexCache_SetTexture : TexCache × TexCacheItem :=
  cache.scan mem TEXFORMAT fmt texpal heap

end Desmume.Texture
