/-
`WIFI_TXStart` and everything that calls it: the register writes, the beacon
and extra counters, the automatic replies and the tick of one microsecond.
-/

import Desmume.Wifi.Schedule

namespace Desmume.Wifi

variable (mac : Mac) (slot : SlotIndex) (replies : List Packet) (val : u16) (arrivals : List Packet)

def acceptStart (fresh : Wifi_TXSlot) : Mac :=
  { (mac.setSlot slot fresh).emit (.started slot fresh.CurAddr fresh.RemHWords.toNat) with
    TXCurSlot := some (mac.TXCurSlot.getD slot)
    TXBusy := mac.TXBusy ||| BitVec.twoPow 16 slot }

/-- Without the enable bit, with a frame too close to the end of the memory or
of length zero, the attempt is ignored. -/
def WIFI_TXStart : Mac :=
  let reg := (mac.TXSlots slot).RegVal
  if reg.getLsbD 15 then
    let addr := (reg &&& 0x0FFF).toNat
    if addr > 0x1000 - 6 then mac
    else
      let txLen := (mac.mem (addr + 5) &&& 0x3FFF).toNat
      if txLen = 0 then mac
      else
        let timemask : u32 := if mac.mem (addr + 4) &&& 0xFF = 20 then 7 else 15
        let preamble := mac.mem (WIFI_IOREG 0x0BC)
        acceptStart mac slot
          { RegVal := reg
            CurAddr := BitVec.ofNat 16 (addr + 6)
            RemPreamble := if preamble.getLsbD 2 ∧ timemask = 7 then 96 else 192
            RemHWords := ((txLen + 1) / 2 : Nat)
            TimeMask := timemask
            NotStarted := true }
  else mac

def WIFI_triggerIRQMask (mask : u16) : Mac :=
  let oResult := mac.IE &&& mac.IF
  let pending := mac.IF ||| (mask &&& ~~~(0x0400 : u16))
  let nResult := mac.IE &&& pending
  { mac with
    IF := pending
    arm7Irq := mac.arm7Irq || (oResult == 0 && nResult != 0) }

def WIFI_IRQ_RXEND : Nat := 0
def WIFI_IRQ_TXEND : Nat := 1
def WIFI_IRQ_RXINC : Nat := 2
def WIFI_IRQ_RXOVF : Nat := 4
def WIFI_IRQ_RXSTART : Nat := 6
def WIFI_IRQ_TXSTART : Nat := 7
def WIFI_IRQ_RFWAKEUP : Nat := 11
def WIFI_IRQ_UNK : Nat := 12
def WIFI_IRQ_TIMEPOSTBEACON : Nat := 13
def WIFI_IRQ_TIMEBEACON : Nat := 14
def WIFI_IRQ_TIMEPREBEACON : Nat := 15

def listenTick : Mac :=
  let n := if mac.ListenCount = 0 then mac.ListenInterval else mac.ListenCount
  { mac with ListenCount := n - 1 }

def timeBeacon : Mac :=
  let mac := { mac with BeaconCount1 := mac.BeaconInterval }
  if mac.ucmpEnable then
    let mac := { mac with BeaconCount2 := 0xFFFF, TXCnt := mac.TXCnt &&& 0xFFF2 }
    listenTick (WIFI_TXStart mac WIFI_TXSLOT_BEACON)
  else mac

def WIFI_triggerIRQ (irq : Nat) : Mac :=
  let mac := if irq = WIFI_IRQ_TIMEBEACON then timeBeacon mac else mac
  WIFI_triggerIRQMask mac (BitVec.twoPow 16 irq)

/-- `REG_WIFI_MODE`. -/
def writeMode : Mac :=
  let oldval := mac.macMode
  let mac :=
    if oldval.getLsbD 0 = false ∧ val.getLsbD 0 then
      (mac.store (WIFI_IOREG 0x034) 0x0002).store (WIFI_IOREG 0x27C) 0x0005
    else mac
  let mac :=
    if oldval.getLsbD 0 ∧ val.getLsbD 0 = false then mac.store (WIFI_IOREG 0x27C) 0x000A
    else mac
  let mac :=
    if val.getLsbD 13 then
      [(0x056, 0x0000),(0x0C0, 0x0000),(0x0C4, 0x0000),(0x1A4, 0x0000),
        (0x278, (0x000F : u16))].foldl
        (fun (mac : Mac) entry => mac.store (WIFI_IOREG entry.1) entry.2) mac
    else mac
  let mac :=
    if val.getLsbD 14 then
      let mac := [(0x00A, 0x0000),(0x02C, 0x0707),(0x02E, 0x0000),(0x050, 0x4000),
        (0x052, 0x4800),(0x084, 0x0000),(0x0BC, 0x0001),(0x0D0, 0x0401),(0x0D4, 0x0001),
        (0x0E0, 0x0008),(0x0EC, 0x3F03),(0x194, 0x0000),(0x198, 0x0000),(0x1A2, 0x0001),
        (0x224, 0x0003),(0x230, (0x0047 : u16))].foldl
        (fun (mac : Mac) entry => mac.store (WIFI_IOREG entry.1) entry.2) mac
      let mac := (mac.store RXRangeBegin 0x0000).store RXRangeEnd 0x0800
      { mac with TXStatCnt := 0, pid := 0 }
    else mac
  { mac with macMode := val &&& 0xAFFF }

def latchCursor : Mac :=
  let mac := mac.store RXWriteCursor (mac.mem (WIFI_IOREG 0x056))
  mac.store (WIFI_IOREG 0x054) (mac.mem RXWriteCursor)

def latchReply : Mac :=
  (mac.setRegVal WIFI_TXSLOT_MPREPLY (mac.mem (WIFI_IOREG 0x094))).store (WIFI_IOREG 0x094) 0x0000

/-- `REG_WIFI_RXCNT`. -/
def writeRXCnt : Mac :=
  let mac := { mac with RXCnt := val &&& 0xFF0E }
  let mac := if val.getLsbD 0 then latchCursor mac else mac
  let mac := if val.getLsbD 7 then latchReply mac else mac
  if val.getLsbD 15 then mac else { mac with RXPacketQueue := [] }

/-- `REG_WIFI_CIRCBUFWRITE`; only the first mirror moves the address. -/
def writeCircBuf (action : Bool) (val : u16) : Mac :=
  let mac := mac.store ((mac.mem CircBufWriteAddress >>> 1) &&& 0xFFF).toNat val
  if action then
    let mac := mac.store CircBufWriteAddress (mac.mem CircBufWriteAddress + 2)
    if mac.mem CircBufWriteAddress = mac.mem CircBufWrEnd then
      mac.store CircBufWrEnd (mac.mem CircBufWrEnd + mac.mem CircBufWrSkip * 2)
    else mac
  else mac

def startIf (bit : Bool) (mac : Mac) (slot : SlotIndex) : Mac :=
  if bit then WIFI_TXStart mac slot else mac

/-- `REG_WIFI_TXREQ_SET`. -/
def writeTXReqSet : Mac :=
  let mac := { mac with TXCnt := mac.TXCnt ||| val }
  let mac := startIf (val.getLsbD 0) mac WIFI_TXSLOT_LOC1
  let mac := startIf (val.getLsbD 1) mac WIFI_TXSLOT_MPCMD
  let mac := startIf (val.getLsbD 2) mac WIFI_TXSLOT_LOC2
  startIf (val.getLsbD 3) mac WIFI_TXSLOT_LOC3

/-- `REG_WIFI_USCOMPARE0`: bit 0 sets the counter to the compare value. -/
def writeUsCompare0 : Mac :=
  let mac := { mac with
    ucmp := (mac.ucmp &&& 0xFFFFFFFFFFFF0000) ||| (val &&& 0xFFFE).setWidth 64 }
  if val.getLsbD 0 then WIFI_triggerIRQ { mac with usec := mac.ucmp } WIFI_IRQ_TIMEBEACON
  else mac

def setPart (counter : u64) (bit : Nat) (val : u16) : u64 :=
  (counter &&& ~~~((0xFFFF : u64) <<< bit)) ||| (val.setWidth 64 <<< bit)

def writeRangeBegin : Mac :=
  let mac := mac.store RXRangeBegin (val &&& 0x1FFE)
  if mac.mem RXWriteCursor < mac.mem RXRangeBegin >>> 1 then
    mac.store RXWriteCursor (mac.mem RXRangeBegin >>> 1)
  else mac

def wrapCursor : Mac :=
  if mac.mem RXRangeEnd >>> 1 ≤ mac.mem RXWriteCursor then
    mac.store RXWriteCursor (mac.mem RXRangeBegin >>> 1)
  else mac

/-- The cases of `WIFI_write16` that change a field of the model. -/
def writeRegister (action : Bool) (addr : Nat) (val : u16) : Mac :=
  match addr with
  | 0x004 => writeMode mac val
  | 0x008 => { mac with TXStatCnt := val }
  | 0x010 => { mac with IF := mac.IF &&& ~~~val }
  | 0x012 => { mac with IE := val }
  | 0x028 => { mac with pid := val &&& 0x0F }
  | 0x030 => writeRXCnt mac val
  | 0x036 => { mac with crystalEnabled := !val.getLsbD 0 }
  | 0x03C => if val.getLsbD 1 then WIFI_triggerIRQ mac WIFI_IRQ_RFWAKEUP else mac
  | 0x050 => writeRangeBegin mac val
  | 0x052 => wrapCursor (mac.store RXRangeEnd (val &&& 0x1FFE))
  | 0x058 => mac.store CircBufReadAddress (val &&& 0x1FFE)
  | 0x05A => mac.store RXReadCursor val
  | 0x05C => mac.store RXBufCount (val &&& 0x0FFF)
  | 0x062 => mac.store CircBufRdEnd (val &&& 0x1FFE)
  | 0x064 => mac.store CircBufRdSkip (val &&& 0xFFF)
  | 0x068 => mac.store CircBufWriteAddress val
  | 0x070 => writeCircBuf mac action val
  | 0x076 => mac.store CircBufWrSkip val
  | 0x080 => mac.setRegVal WIFI_TXSLOT_BEACON val
  | 0x088 => { mac with ListenCount := val &&& 0x00FF }
  | 0x08C => { mac with BeaconInterval := val &&& 0x03FF }
  | 0x08E => { mac with ListenInterval := val &&& 0x00FF }
  | 0x090 => mac.setRegVal WIFI_TXSLOT_MPCMD val
  | 0x0A0 => mac.setRegVal WIFI_TXSLOT_LOC1 val
  | 0x0A4 => mac.setRegVal WIFI_TXSLOT_LOC2 val
  | 0x0A8 => mac.setRegVal WIFI_TXSLOT_LOC3 val
  | 0x0AC => { mac with TXCnt := mac.TXCnt &&& ~~~val }
  | 0x0AE => writeTXReqSet mac val
  | 0x0E8 => { mac with usecEnable := val.getLsbD 0 }
  | 0x0EA => { mac with ucmpEnable := val.getLsbD 0 }
  | 0x0EE => { mac with eCountEnable := val.getLsbD 0 }
  | 0x0F0 => writeUsCompare0 mac val
  | 0x0F2 => { mac with ucmp := setPart mac.ucmp 16 val }
  | 0x0F4 => { mac with ucmp := setPart mac.ucmp 32 val }
  | 0x0F6 => { mac with ucmp := setPart mac.ucmp 48 val }
  | 0x0F8 => { mac with usec := setPart mac.usec 0 val }
  | 0x0FA => { mac with usec := setPart mac.usec 16 val }
  | 0x0FC => { mac with usec := setPart mac.usec 32 val }
  | 0x0FE => { mac with usec := setPart mac.usec 48 val }
  | 0x118 => { mac with eCount := val.setWidth 32 * 100 }
  | 0x11C => { mac with BeaconCount1 := val }
  | 0x134 => { mac with BeaconCount2 := val }
  | 0x1AA => { mac with RXStatIncIE := val }
  | 0x1AE => { mac with RXStatOvfIE := val }
  | 0x21C => WIFI_triggerIRQMask mac val
  | _ => mac

/-- `WIFI_write16`: the wireless memory, or a register and its copy in `IOPorts`. -/
def WIFI_write16 (addr : u32) (val : u16) : Mac :=
  let page := addr &&& 0x7000
  if mac.power2_wifi = false then mac
  else if 0x2000 ≤ page ∧ page < 0x4000 then mac
  else if 0x4000 ≤ page ∧ page < 0x6000 then mac.store ((addr &&& 0x1FFF) >>> 1).toNat val
  else
    let reg := (addr &&& 0x0FFF).toNat
    (writeRegister mac (page == 0) reg val).store (WIFI_IOREG reg) val

def WIFI_RXPutWord : Mac :=
  if mac.RXCnt.getLsbD 15 then
    let mac := mac.store (mac.mem RXWriteCursor &&& 0xFFF).toNat val
    let mac := wrapCursor (mac.store RXWriteCursor (mac.mem RXWriteCursor + 1))
    { mac with RXTXAddr := mac.mem RXWriteCursor }
  else mac

def WIFI_RXQueuePacket (packet : Packet) : Mac :=
  if mac.RXCnt.getLsbD 15 then
    { mac with
      RXPacketQueue := mac.RXPacketQueue ++
        [{ Data := packet.Data
           CurOffset := 12
           RemHWords := ((packet.len - 11) >>> 1).toInt
           NotStarted := true }] }
  else mac

def bitmasks : List u16 :=
  [0x0001,0,0x0002,0x0004,0x0008,0x0010,0x0020,0x0040,
    0x0080,0,0x0100,0,0x0200,0x0400,0x0800,0x1000]

def WIFI_IncrementRXStat (stat : Fin 16) : Mac :=
  let bitmask := bitmasks.getD stat 0
  let mac := { mac with RXStat := Function.update mac.RXStat stat (mac.RXStat stat + 1) }
  let mac :=
    if mac.RXStatIncIE &&& bitmask ≠ 0 then
      WIFI_triggerIRQ { mac with RXStatIncIF := mac.RXStatIncIF ||| bitmask } WIFI_IRQ_RXINC
    else mac
  if mac.RXStat stat &&& 0x80 ≠ 0 ∧ mac.RXStatOvfIE &&& bitmask ≠ 0 then
    WIFI_triggerIRQ { mac with RXStatOvfIF := mac.RXStatOvfIF ||| bitmask } WIFI_IRQ_RXOVF
  else mac

/-- `*(u16*)&data[offset]`. -/
def dataWord (data : Nat → u8) (off : Nat) : u16 := data (off + 1) ++ data off

/-- `WIFI_DoAutoReply`: the frame starts behind a header of 12 bytes. -/
def WIFI_DoAutoReply (cmd : Nat → u8) : Mac :=
  let frameCtl := dataWord cmd 12 &&& 0xE7FF
  if frameCtl = 0x0228 then
    let slaveflags := dataWord cmd (12 + 26)
    if slaveflags.getLsbD mac.pid.toNat then
      let regval := mac.mem (WIFI_IOREG 0x094)
      let mac := mac.setRegVal WIFI_TXSLOT_MPREPLY regval
      let mac := mac.store ((regval &&& 0x0FFF).toNat + 6 + 1) (dataWord cmd (12 + 24))
      WIFI_TXStart mac WIFI_TXSLOT_MPREPLY
    else mac
  else mac

def finishPacket (pkt : Wifi_RXPacket) (rest : List Wifi_RXPacket) : Mac :=
  let mac := wrapCursor (mac.store RXWriteCursor
    ((mac.mem RXWriteCursor + 1) &&& ~~~(1 : u16)))
  let mac := mac.store (WIFI_IOREG 0x054) (mac.mem RXWriteCursor)
  let mac := WIFI_triggerIRQ { mac with RXNum := mac.RXNum + 1 } WIFI_IRQ_RXEND
  let mac := WIFI_DoAutoReply (WIFI_IncrementRXStat mac 7) pkt.Data
  { mac with RXPacketQueue := rest }

def receive : Mac :=
  match mac.RXPacketQueue with
  | [] => mac
  | pkt :: rest =>
      if mac.GlobalUsecTimer &&& 7 = 0 then
        let mac :=
          if pkt.NotStarted then
            WIFI_triggerIRQ
              ([0,2,4,6,8,10].foldl
                (fun mac off => WIFI_RXPutWord mac (dataWord pkt.Data off)) mac)
              WIFI_IRQ_RXSTART
          else mac
        let mac := WIFI_RXPutWord mac (dataWord pkt.Data pkt.CurOffset)
        let pkt := { pkt with
          CurOffset := pkt.CurOffset + 2
          RemHWords := pkt.RemHWords - 1
          NotStarted := false }
        if pkt.RemHWords = 0 then finishPacket mac pkt rest
        else { mac with RXPacketQueue := pkt :: rest }
      else mac

def setSequenceNumber (addr : Nat) : Mac :=
  { mac.store (addr + 6 + 11) (mac.TXSeqNo <<< 4) with TXSeqNo := mac.TXSeqNo + 1 }

/-- `WIFI_PreTXAdjustments`: sequence number, time stamp and checksum. -/
def WIFI_PreTXAdjustments : Option Mac :=
  let reg := (mac.TXSlots slot).RegVal
  let addr := (reg &&& 0x0FFF).toNat
  let txLen := (mac.mem (addr + 5) &&& 0x3FFF).toNat
  let mac :=
    if reg.getLsbD 13 = false ∨ slot = WIFI_TXSLOT_BEACON then setSequenceNumber mac addr
    else mac
  let mac := if slot = WIFI_TXSLOT_BEACON then mac.store64 (addr + 6 + 12) mac.usec else mac
  (WIFI_calcCRC32 (mac.byte (addr + 6)) (txLen - 4 : Int)).map
    (mac.store32 (addr + 6 + (txLen - 4) / 2))

def sendPacket : Mac :=
  if mac.wifiCom then
    let cur := mac.TXSlots slot
    replies.foldl WIFI_RXQueuePacket
      (mac.emit (.SendPacket slot cur.CurAddr
        (mac.halfwords cur.CurAddr.toNat cur.RemHWords.toNat)))
  else mac

def beginTransmission : Option Mac :=
  (WIFI_PreTXAdjustments mac slot).map (fun mac =>
    let mac := sendPacket (WIFI_triggerIRQ mac WIFI_IRQ_TXSTART) slot replies
    mac.setSlot slot { mac.TXSlots slot with NotStarted := false })

def reportEnd : Mac :=
  let reg := (mac.TXSlots slot).RegVal
  match slot with
  | 1 =>
      let mac := WIFI_triggerIRQ mac WIFI_IRQ_UNK
      let mac :=
        if mac.TXStatCnt.getLsbD 13 then
          { WIFI_triggerIRQ mac WIFI_IRQ_TXEND with TXStat := 0x0B01 }
        else if mac.TXStatCnt.getLsbD 14 then
          { WIFI_triggerIRQ mac WIFI_IRQ_TXEND with TXStat := 0x0801 }
        else mac
      mac.setRegVal 1 (reg &&& 0x7FFF)
  | 4 =>
      if mac.TXStatCnt.getLsbD 15 then
        { WIFI_triggerIRQ mac WIFI_IRQ_TXEND with TXStat := 0x0301 }
      else mac
  | 5 =>
      let mac := WIFI_triggerIRQ mac WIFI_IRQ_TXEND
      (mac.setRegVal 5 (reg &&& 0x7FFF)).store (WIFI_IOREG 0x094) 0
  | loc =>
      let mac := WIFI_triggerIRQ mac WIFI_IRQ_TXEND
      let num : u16 := if loc = 0 then 0 else BitVec.ofNat 16 (loc.val - 1) <<< 12
      let retries : u16 := if reg.getLsbD 12 then 0x0700 else 0
      let mac := { mac with TXStat := 0x0001 ||| num ||| retries }
      mac.setRegVal loc (reg &&& 0x7FFF)

def endTransmission : Mac :=
  let mac := reportEnd mac slot
  let addr := ((mac.TXSlots slot).RegVal &&& 0x0FFF).toNat
  let mac := mac.store addr 0x0001
  let mac := mac.store (addr + 4) (mac.mem (addr + 4) &&& 0x00FF)
  let mac := mac.emit (.ended slot)
  let TXBusy := mac.TXBusy &&& ~~~(BitVec.twoPow 16 slot)
  { mac with TXBusy := TXBusy, TXCurSlot := nextslot TXBusy }

def sendHalfword : Mac :=
  let cur := mac.TXSlots slot
  let mac := mac.setSlot slot
    { cur with RemHWords := cur.RemHWords - 1, CurAddr := cur.CurAddr + 1 }
  let mac := { mac with RXTXAddr := cur.CurAddr + 1 }
  if cur.RemHWords - 1 = 0 then endTransmission mac slot else mac

def transmit : Option Mac :=
  let cur := mac.TXSlots slot
  if cur.RemPreamble > 0 then
    some (mac.setSlot slot { cur with RemPreamble := cur.RemPreamble - 1 })
  else if mac.GlobalUsecTimer &&& cur.TimeMask.setWidth 64 = 0 then
    let begun := if cur.NotStarted then beginTransmission mac slot replies else some mac
    begun.map (fun mac => sendHalfword mac slot)
  else some mac

/-! ### One microsecond -/

def usecTick : Mac :=
  if mac.usecEnable then { mac with usec := mac.usec + 1 } else mac

def eCountTick : Mac :=
  if mac.eCountEnable ∧ mac.eCount ≠ 0 then
    let mac := { mac with eCount := mac.eCount - 1 }
    if mac.eCount = 0 then WIFI_TXStart mac WIFI_TXSLOT_MPCMD else mac
  else mac

def postBeaconTick : Mac :=
  if mac.BeaconCount2 ≠ 0 then
    let mac := { mac with BeaconCount2 := mac.BeaconCount2 - 1 }
    if mac.BeaconCount2 = 0 then WIFI_triggerIRQ mac WIFI_IRQ_TIMEPOSTBEACON else mac
  else mac

def beaconTick : Mac :=
  if mac.usec &&& 1023 = 0 then
    let mac : Mac := { mac with BeaconCount1 := mac.BeaconCount1 - 1 }
    let preBeacon : u16 := mac.mem (WIFI_IOREG 0x110) >>> 10
    let mac :=
      if mac.BeaconCount1 = preBeacon then
        WIFI_triggerIRQ mac WIFI_IRQ_TIMEPREBEACON
      else if mac.BeaconCount1 = 0 then WIFI_triggerIRQ mac WIFI_IRQ_TIMEBEACON
      else mac
    postBeaconTick mac
  else mac

def crystalTick : Mac :=
  if mac.crystalEnabled then beaconTick (eCountTick (usecTick mac)) else mac

def compareTick : Mac :=
  if mac.ucmpEnable ∧ mac.ucmp = mac.usec then WIFI_triggerIRQ mac WIFI_IRQ_TIMEBEACON
  else mac

def counters : Mac :=
  compareTick (crystalTick { mac with GlobalUsecTimer := mac.GlobalUsecTimer + 1 })

/-- Packets from the network are polled every 1024 ticks. -/
def msTrigger : Mac :=
  if mac.GlobalUsecTimer &&& 1023 = 0 ∧ mac.wifiCom then
    arrivals.foldl WIFI_RXQueuePacket mac
  else mac

/-- `WIFI_usTrigger`. The packets are what the communication interface queues
during the tick; `none` is a tick that does not return. -/
def WIFI_usTrigger : Option Mac :=
  let mac := counters mac
  let after :=
    match mac.TXCurSlot with
    | some slot => transmit mac slot replies
    | none => some (receive mac)
  after.map (fun mac => msTrigger mac arrivals)

inductive Op
  | power2 (wifi : Bool)
  | write16 (addr : u32) (val : u16)
  | usTrigger (replies arrivals : List Packet)

def apply : Op → Option Mac
  | .power2 wifi => some { mac with power2_wifi := wifi }
  | .write16 addr val => some (WIFI_write16 mac addr val)
  | .usTrigger replies arrivals => WIFI_usTrigger mac replies arrivals

def step (mac : Option Mac) (op : Op) : Option Mac := mac.bind (fun mac => apply mac op)

end Desmume.Wifi
