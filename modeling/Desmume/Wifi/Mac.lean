/-
The wireless controller: its state, its memory and what it tells the outside.

The fields behind `RAM` in `wifimac_t` are all 16 bits wide and follow without a
gap, so an index past the end of `RAM` reaches them.
-/

import Desmume.Types
import Desmume.Lib.Run

namespace Desmume.Wifi

abbrev SlotIndex := Fin 6

def WIFI_TXSLOT_LOC1 : SlotIndex := 0
def WIFI_TXSLOT_MPCMD : SlotIndex := 1
def WIFI_TXSLOT_LOC2 : SlotIndex := 2
def WIFI_TXSLOT_LOC3 : SlotIndex := 3
def WIFI_TXSLOT_BEACON : SlotIndex := 4
def WIFI_TXSLOT_MPREPLY : SlotIndex := 5

structure Wifi_TXSlot where
  RegVal : u16
  CurAddr : u16
  RemPreamble : Int
  RemHWords : Int
  TimeMask : u32
  NotStarted : Bool

def Wifi_TXSlot.zero : Wifi_TXSlot where
  RegVal := 0
  CurAddr := 0
  RemPreamble := 0
  RemHWords := 0
  TimeMask := 0
  NotStarted := false

structure Wifi_RXPacket where
  Data : Nat → u8
  CurOffset : Nat
  RemHWords : Int
  NotStarted : Bool

/-- A packet as it comes from the network. -/
structure Packet where
  Data : Nat → u8
  len : u32

/-- A slot accepts a start, the interface gets a packet, a slot is done. -/
inductive Event
  | started (slot : SlotIndex) (CurAddr : u16) (hwords : Nat)
  | SendPacket (slot : SlotIndex) (CurAddr : u16) (packet : List u16)
  | ended (slot : SlotIndex)
  deriving DecidableEq

/-- `TXCurSlot` is `none` where the source has -1. `wifiCom` says whether a
communication interface is selected, `arm7Irq` is the interrupt the ARM7 sees. -/
structure Mac where
  power2_wifi : Bool
  wifiCom : Bool
  arm7Irq : Bool
  IE : u16
  IF : u16
  macMode : u16
  TXStatCnt : u16
  TXCnt : u16
  TXStat : u16
  TXSeqNo : u16
  TXSlots : SlotIndex → Wifi_TXSlot
  TXCurSlot : Option SlotIndex
  TXBusy : u16
  RXCnt : u16
  RXNum : u8
  RXPacketQueue : List Wifi_RXPacket
  RXStatIncIF : u16
  RXStatIncIE : u16
  RXStatOvfIF : u16
  RXStatOvfIE : u16
  RXStat : Fin 16 → u8
  RXTXAddr : u16
  pid : u16
  GlobalUsecTimer : u64
  crystalEnabled : Bool
  usec : u64
  usecEnable : Bool
  ucmp : u64
  ucmpEnable : Bool
  eCount : u32
  eCountEnable : Bool
  BeaconInterval : u16
  BeaconCount1 : u16
  BeaconCount2 : u16
  ListenInterval : u16
  ListenCount : u16
  mem : Nat → u16
  log : List Event

/-- Where the fields behind `RAM` lie. -/
def RXRangeBegin : Nat := 0x1000
def RXRangeEnd : Nat := 0x1001
def RXWriteCursor : Nat := 0x1002
def RXReadCursor : Nat := 0x1003
def RXBufCount : Nat := 0x1005
def CircBufReadAddress : Nat := 0x1006
def CircBufWriteAddress : Nat := 0x1007
def CircBufRdEnd : Nat := 0x1008
def CircBufRdSkip : Nat := 0x1009
def CircBufWrEnd : Nat := 0x100A
def CircBufWrSkip : Nat := 0x100B
def IOPorts : Nat := 0x100C

/-- `WIFI_IOREG(reg)`. -/
def WIFI_IOREG (reg : Nat) : Nat := IOPorts + reg / 2

namespace Mac

variable (mac : Mac) (i : Nat) (slot : SlotIndex)

def store (val : u16) : Mac :=
  { mac with mem := Function.update mac.mem i val }

def store32 (val : u32) : Mac :=
  (mac.store i (val.setWidth 16)).store (i + 1) ((val >>> 16).setWidth 16)

def store64 (val : u64) : Mac :=
  (mac.store32 i (val.setWidth 32)).store32 (i + 2) ((val >>> 32).setWidth 32)

/-- The byte at an offset from `RAM[index]`. -/
def byte (off : Nat) : u8 :=
  if off % 2 = 0 then (mac.mem (i + off / 2)).setWidth 8
  else (mac.mem (i + off / 2) >>> 8).setWidth 8

def halfwords (n : Nat) : List u16 :=
  (List.range n).map (fun off => mac.mem (i + off))

def setSlot (val : Wifi_TXSlot) : Mac :=
  { mac with TXSlots := Function.update mac.TXSlots slot val }

def setRegVal (val : u16) : Mac :=
  mac.setSlot slot { mac.TXSlots slot with RegVal := val }

def emit (event : Event) : Mac :=
  { mac with log := mac.log ++ [event] }

/-- The slot's bit in `TXBusy`. -/
def busy : Bool := mac.TXBusy.getLsbD slot

end Mac

/-- The low `count` bits of a word in reverse order. -/
def reflect (ref : u32) (n : Nat) : u32 :=
  (List.range n).foldl
    (fun val bit =>
      if ref.getLsbD bit then val ||| BitVec.twoPow 32 (n - 1 - bit) else val)
    0

def WIFI_CRC32Table (i : u8) : u32 :=
  let shifted := (List.range 8).foldl
    (fun (entry : u32) _ =>
      (entry <<< 1) ^^^ (if entry.getLsbD 31 then (0x04C11DB7 : u32) else 0))
    (reflect (i.setWidth 32) 8 <<< 24)
  reflect shifted 32

/-- A negative length is counted down through all integers: the pointer has
left every object long before the loop ends. -/
def WIFI_calcCRC32 (data : Nat → u8) (len : Int) : Option u32 :=
  if len < 0 then none
  else
    let crc := (List.range len.toNat).foldl
      (fun (crc : u32) i =>
        (crc >>> 8) ^^^ WIFI_CRC32Table (crc.setWidth 8 ^^^ data i))
      (0xFFFFFFFF : u32)
    some (crc ^^^ 0xFFFFFFFF)

/-- The rest of the state is not touched, the `memset` over it is commented out.
Of the three entries of `wifiComs` the last is `NULL`, and a mode behind them
counts as the first. -/
def WIFI_Reset (mac : Mac) (mode : Nat) : Mac :=
  { mac with
    wifiCom := decide (mode ≠ 2)
    mem := fun i => if IOPorts ≤ i ∧ i < IOPorts + 0x800 then 0 else mac.mem i
    crystalEnabled := false
    GlobalUsecTimer := 0
    usec := 0
    ucmp := 0
    TXSlots := fun _ => Wifi_TXSlot.zero
    TXCurSlot := none
    TXCnt := 0
    TXStat := 0
    TXSeqNo := 0
    TXBusy := 0
    RXPacketQueue := []
    log := [] }

end Desmume.Wifi
