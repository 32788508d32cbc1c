/-
Backup memory over SPI is a byte array.

The file position follows the address through a transaction: the address bytes
set it, every byte read or written moves both, growth puts it back, and a write
that is not enabled leaves a position that nothing uses before the next seek.
-/

import Desmume.Backup.Transaction

namespace Desmume.Backup

open Run Overwrite BackupDevice

structure Refines (original : Nat → u8) (dev : BackupDevice) (mem : SpiMemory) : Prop
    extends dev.Serving where
  idle : dev.com = 0
  unannounced : dev.reset_command_state = false
  sameEnable : dev.write_enable = mem.write_enable
  sameContents : dev.contents = mem.byteAt original

variable (gameCode : List Char) {dev : BackupDevice}

theorem handleByte_idle (idle : dev.com = 0)
    (val : u8) : handleByte gameCode dev val = dev.newCommand val := by
  unfold handleByte
  rw [idle]
  rfl

variable {original : Nat → u8}

variable {mem : SpiMemory}

theorem refines_finish {dev : BackupDevice}
    (serving : dev.Serving) (sameEnable : dev.write_enable = mem.write_enable)
    (sameContents : dev.contents = mem.byteAt original) : Refines original dev.finish mem :=
  { inside := serving.inside
    small := serving.small
    running := serving.running
    recording := serving.recording
    width := serving.width
    idle := rfl
    unannounced := rfl
    sameEnable := sameEnable
    sameContents := (contents_congr rfl rfl rfl).trans sameContents }

def commanded (dev : BackupDevice) (com : u32) (high : Bool) : BackupDevice :=
  { dev with
    com := com
    addr_counter := 0
    addr := if high ∧ dev.addr_size = 1 then 1 else 0 }

theorem newCommand_write (dev : BackupDevice) (high : Bool) (addr data : List u8) :
    dev.newCommand (Transaction.WRITE high addr data).command =
      (commanded dev BM_CMD_WRITELOW high, 0xFF) := by
  cases high with
  | false => rfl
  | true =>
      unfold commanded
      simp only [true_and]
      rfl

theorem newCommand_read (dev : BackupDevice) (high : Bool) (addr clocks : List u8) :
    dev.newCommand (Transaction.READ high addr clocks).command =
      (commanded dev BM_CMD_READLOW high, 0xFF) := by
  cases high with
  | false => rfl
  | true =>
      unfold commanded
      simp only [true_and]
      rfl

theorem toNat_start (serving : dev.Serving) (com : u32) (high : Bool)
    (addr : List u8) (complete : addr.length = dev.addr_size.toNat) :
    (addr.foldl shiftIn (commanded dev com high).addr).toNat =
        Transaction.start dev.addr_size high addr ∧
      (addr.foldl shiftIn (commanded dev com high).addr).toNat < 2 ^ 31 := by
  have short := serving.width_bounds.2
  unfold commanded Transaction.start
  by_cases wide : high = true ∧ dev.addr_size = 1
  · have single : addr.length = 1 := by
      rw [complete,wide.2]
      rfl
    rw [if_pos wide,if_pos wide]
    obtain ⟨same,below⟩ := toNat_foldl_shiftIn addr 1 1 (by decide) (by omega)
    rw [single] at below
    exact ⟨same,lt_of_lt_of_le below (by decide)⟩
  · rw [if_neg wide,if_neg wide]
    obtain ⟨same,below⟩ := toNat_foldl_shiftIn addr 0 0 (by decide) (by omega)
    have small : 256 ^ (0 + addr.length) ≤ 256 ^ 3 :=
      Nat.pow_le_pow_right (by omega) (by omega)
    exact ⟨same,lt_of_lt_of_le (lt_of_lt_of_le below small) (by decide)⟩

theorem serve_to_data (gameCode : List Char) {dev : BackupDevice} (serving : dev.Serving)
    (com : u32) (moving : com = BM_CMD_WRITELOW ∨ com = BM_CMD_READLOW) (high : Bool)
    (adr : List u8) (complete : adr.length = dev.addr_size.toNat) :
    let res := serve gameCode (commanded dev com high) adr
    InData res.1 (Transaction.start dev.addr_size high adr) ∧
      res.1.setup = { dev.setup with com := com, addr_counter := dev.addr_size } ∧
      res.1.contents = dev.contents ∧ res.2.length = dev.addr_size.toNat := by
  obtain ⟨sameStart,small⟩ := toNat_start serving com high adr complete
  cases adr with
  | nil =>
      have positive := serving.width_bounds.1
      rw [List.length_nil] at complete
      omega
  | cons val rest =>
      have arrived := serve_address gameCode (commanded dev com high) val rest
        serving.running moving (by
          change 0 + (val :: rest).length = dev.addr_size.toNat
          rw [Nat.zero_add,complete])
      unfold addressed at arrived
      rw [EMUFILE.fseek_set _ _ small] at arrived
      rw [arrived]
      refine ⟨⟨⟨⟨serving.inside,serving.small⟩,serving.running,serving.recording,
        serving.width⟩,?_,?_⟩,rfl,contents_congr rfl rfl rfl,?_⟩
      · exact BitVec.lt_irrefl dev.addr_size
      · exact
          { single := fun _ => congrArg (fun addr => addr % 0x200) sameStart
            plain := fun _ => ⟨sameStart,fun _ => sameStart⟩ }
      · rw [List.length_replicate,complete]

theorem transfer_data (gameCode : List Char) {dev : BackupDevice}
    (running : dev.state = .RUNNING) (idle : dev.com = 0)
    (unannounced : dev.reset_command_state = false) (cmd : u8) (com : u32) (high : Bool)
    (addr vals : List u8)
    (commands : dev.newCommand cmd = (commanded dev com high, 0xFF)) :
    let arrived := serve gameCode (commanded dev com high) addr
    let served := serve gameCode arrived.1 vals
    transfer gameCode dev (cmd :: (addr ++ vals)) =
      (served.1.finish, 0xFF :: (arrived.2 ++ served.2)) := by
  rw [transfer_eq gameCode dev cmd (addr ++ vals) running unannounced,serve_cons,
    handleByte_idle gameCode idle cmd,commands,serve_append]

theorem transact_read (gameCode : List Char) {original : Nat → u8} {dev : BackupDevice}
    (refines : Refines original dev mem) (high : Bool)
    (addr clocks : List u8) (complete : addr.length = dev.addr_size.toNat)
    (below : Below ((Transaction.READ high addr clocks).addresses dev.addr_size)) :
    let res := transact gameCode dev (.READ high addr clocks)
    Refines original res.1 mem ∧ res.1.addr_size = dev.addr_size ∧
      res.2 = ((Transaction.READ high addr clocks).addresses dev.addr_size).map
        fun place => (place, mem.byteAt original place) := by
  obtain ⟨data,setup,sameContents,sent⟩ :=
    serve_to_data gameCode refines.toServing BM_CMD_READLOW (Or.inr rfl) high addr complete
  have moved := transfer_data gameCode refines.running refines.idle
    refines.unannounced _ BM_CMD_READLOW high addr clocks
    (newCommand_read dev high addr clocks)
  revert moved data setup sameContents sent
  generalize serve gameCode (commanded dev BM_CMD_READLOW high) addr = arrived
  intro data setup sameContents sent moved
  have reading : arrived.1.com = BM_CMD_READLOW := congrArg Setup.com setup
  have sameWidth : arrived.1.addr_size = dev.addr_size := congrArg Setup.addr_size setup
  obtain ⟨serving,kept,unchanged,values⟩ :=
    serve_read gameCode data reading clocks (by rw [sameWidth]; exact below)
  have sameEnable : (serve gameCode arrived.1 clocks).1.write_enable = dev.write_enable :=
    (congrArg Setup.write_enable kept).trans (congrArg Setup.write_enable setup)
  have endWidth : (serve gameCode arrived.1 clocks).1.addr_size = dev.addr_size :=
    (congrArg Setup.addr_size kept).trans sameWidth
  rw [sameWidth,sameContents,refines.sameContents] at values
  unfold transact
  rw [show Transaction.body (.READ high addr clocks) = addr ++ clocks from rfl,moved]
  refine ⟨refines_finish serving (sameEnable.trans refines.sameEnable)
    (unchanged.trans (sameContents.trans refines.sameContents)),endWidth,?_⟩
  have returned :
      (0xFF :: (arrived.2 ++ (serve gameCode arrived.1 clocks).2)).drop
          (1 + dev.addr_size.toNat) = (serve gameCode arrived.1 clocks).2 := by
    rw [Nat.add_comm,List.drop_succ_cons,← sent,List.drop_left]
  rw [List.map_prod_left_eq_zip]
  exact congrArg (List.zip _) (returned.trans values)

theorem transact_write (gameCode : List Char) {original : Nat → u8} {dev : BackupDevice}
    (refines : Refines original dev mem) (high : Bool)
    (addr vals : List u8) (complete : addr.length = dev.addr_size.toNat)
    (below : Below ((Transaction.WRITE high addr vals).addresses dev.addr_size)) :
    let res := transact gameCode dev (.WRITE high addr vals)
    Refines original res.1
        ((((Transaction.WRITE high addr vals).addresses dev.addr_size).zip vals).foldl
          SpiMemory.store mem) ∧
      res.1.addr_size = dev.addr_size ∧ res.2 = [] := by
  obtain ⟨data,setup,sameContents,_⟩ :=
    serve_to_data gameCode refines.toServing BM_CMD_WRITELOW (Or.inl rfl) high addr complete
  have moved := transfer_data gameCode refines.running refines.idle
    refines.unannounced _ BM_CMD_WRITELOW high addr vals
    (newCommand_write dev high addr vals)
  revert moved data setup sameContents
  generalize serve gameCode (commanded dev BM_CMD_WRITELOW high) addr = arrived
  intro data setup sameContents moved
  have writing : arrived.1.com = BM_CMD_WRITELOW := congrArg Setup.com setup
  have sameWidth : arrived.1.addr_size = dev.addr_size := congrArg Setup.addr_size setup
  have sameEnable : arrived.1.write_enable = dev.write_enable :=
    congrArg Setup.write_enable setup
  obtain ⟨serving,kept,stored⟩ :=
    serve_write gameCode data writing vals (by rw [sameWidth]; exact below) original mem
      (sameEnable.trans refines.sameEnable) (sameContents.trans refines.sameContents)
  have endEnable : (serve gameCode arrived.1 vals).1.write_enable = mem.write_enable :=
    (congrArg Setup.write_enable kept).trans (sameEnable.trans refines.sameEnable)
  have endWidth : (serve gameCode arrived.1 vals).1.addr_size = dev.addr_size :=
    (congrArg Setup.addr_size kept).trans sameWidth
  rw [sameWidth] at stored
  unfold transact
  rw [show Transaction.body (.WRITE high addr vals) = addr ++ vals from rfl,moved]
  refine ⟨refines_finish serving ?_ stored,endWidth,rfl⟩
  rw [endEnable,SpiMemory.write_enable_foldl_store]

theorem transact_enable {dev : BackupDevice} (refines : Refines original dev mem) (tx : Transaction)
    (com : u32) (enable : Bool) (single : tx.body = [])
    (commands : dev.newCommand tx.command =
      ({ dev with com := com, write_enable := enable }, 0xFF)) :
    Refines original (transact gameCode dev tx).1
        { mem with write_enable := enable } ∧
      (transact gameCode dev tx).1.addr_size = dev.addr_size := by
  unfold transact
  rw [single,transfer_eq gameCode dev tx.command [] refines.running
    refines.unannounced,serve_cons,handleByte_idle gameCode refines.idle tx.command,commands]
  exact ⟨refines_finish ⟨⟨refines.inside,refines.small⟩,refines.running,refines.recording,
    refines.width⟩ rfl ((contents_congr rfl rfl rfl).trans refines.sameContents),rfl⟩

theorem transact_status {dev : BackupDevice} (refines : Refines original dev mem) (tx : Transaction)
    (com : u32) (status : com = BM_CMD_WRITESTATUS ∨ com = BM_CMD_READSTATUS)
    (commands : dev.newCommand tx.command = ({ dev with com := com }, 0xFF)) :
    Refines original (transact gameCode dev tx).1 mem ∧
      (transact gameCode dev tx).1.addr_size = dev.addr_size := by
  have ready : ({ dev with com := com } : BackupDevice).Serving :=
    ⟨⟨refines.inside,refines.small⟩,refines.running,refines.recording,refines.width⟩
  obtain ⟨serving,kept,unchanged⟩ := serve_status gameCode ready status tx.body
  unfold transact
  rw [transfer_eq gameCode dev tx.command tx.body refines.running
    refines.unannounced,serve_cons,handleByte_idle gameCode refines.idle tx.command,commands]
  refine ⟨refines_finish serving ?_ ?_,congrArg Setup.addr_size kept⟩
  · exact (congrArg Setup.write_enable kept).trans refines.sameEnable
  · exact unchanged.trans ((contents_congr rfl rfl rfl).trans refines.sameContents)

theorem transact_refines (gameCode : List Char) {original : Nat → u8} {dev : BackupDevice}
    (refines : Refines original dev mem) (tx : Transaction)
    (complete : tx.Complete dev.addr_size)
    (below : Below (tx.addresses dev.addr_size)) :
    let res := transact gameCode dev tx
    let expected := mem.transact original dev.addr_size tx
    Refines original res.1 expected.1 ∧ res.1.addr_size = dev.addr_size ∧
      res.2 = expected.2 := by
  cases tx with
  | READ high addr clocks =>
      exact transact_read gameCode refines high addr clocks complete below
  | WRITE high addr data =>
      exact transact_write gameCode refines high addr data complete below
  | WRITEENABLE =>
      obtain ⟨refines,width⟩ :=
        transact_enable gameCode refines .WRITEENABLE BM_CMD_WRITEENABLE true rfl rfl
      exact ⟨refines,width,rfl⟩
  | WRITEDISABLE =>
      obtain ⟨refines,width⟩ :=
        transact_enable gameCode refines .WRITEDISABLE BM_CMD_WRITEDISABLE false rfl rfl
      exact ⟨refines,width,rfl⟩
  | WRITESTATUS vals =>
      obtain ⟨refines,width⟩ :=
        transact_status gameCode refines (.WRITESTATUS vals) BM_CMD_WRITESTATUS (Or.inl rfl) rfl
      exact ⟨refines,width,rfl⟩
  | READSTATUS clocks =>
      obtain ⟨refines,width⟩ :=
        transact_status gameCode refines (.READSTATUS clocks) BM_CMD_READSTATUS (Or.inr rfl) rfl
      exact ⟨refines,width,rfl⟩

/-! ### Sequences of transactions -/

/-- A device at rest between transactions, running on a real save file. -/
structure AtRest (dev : BackupDevice) : Prop extends dev.Serving where
  idle : dev.com = 0
  unannounced : dev.reset_command_state = false

def initialMemory (dev : BackupDevice) : SpiMemory where
  write_enable := dev.write_enable
  written := []

theorem transactions_refine {dev : BackupDevice} (refines : Refines original dev mem)
    (transactions : List Transaction) (complete : ∀ tx ∈ transactions, tx.Complete dev.addr_size)
    (below : ∀ tx ∈ transactions, Below (tx.addresses dev.addr_size)) :
    Refines original (logged (transact gameCode) dev transactions).1
        (logged (SpiMemory.transact original dev.addr_size) mem transactions).1 ∧
      (logged (transact gameCode) dev transactions).2 =
        (logged (SpiMemory.transact original dev.addr_size) mem transactions).2 := by
  induction transactions generalizing dev mem with
  | nil => exact ⟨refines,rfl⟩
  | cons tx rest ih =>
      obtain ⟨next,sameWidth,sameLog⟩ :=
        transact_refines gameCode refines tx
          (complete tx List.mem_cons_self) (below tx List.mem_cons_self)
      have later := ih next
        (by
          rw [sameWidth]
          exact fun other listed => complete other (List.mem_cons_of_mem _ listed))
        (by
          rw [sameWidth]
          exact fun other listed => below other (List.mem_cons_of_mem _ listed))
      rw [sameWidth] at later
      exact ⟨later.1,by simp only [logged,sameLog,later.2]⟩

theorem ensure_kept (covered : dev.Covered) (addr : u32) :
    (∀ i < dev.fsize.toNat,
      (dev.ensure addr false).fpMC.bytes[i]? = dev.fpMC.bytes[i]?) ∧
      (dev.ensure addr false).contents = dev.contents := by
  unfold ensure ensureReal
  by_cases present : addr < dev.fsize
  · rw [if_pos ⟨rfl,present⟩]
    exact ⟨fun _ _ => rfl, rfl⟩
  · rw [if_neg (by simpa using present)]
    have enough : dev.fsize.toNat ≤ addr.toNat := by bv_omega
    exact ⟨fun i below => grow_below covered enough _ i below,
      contents_grow covered enough⟩

/-- Over every sequence of complete transactions below 2 GiB, each byte a read
returns is the one most recently written at its address by an enabled write,
the original file byte if there was none, or the factory value. Growth never
alters a byte below the data size and brings no footer byte into the data. -/
theorem spi_byte_array (gameCode : List Char) (dev : BackupDevice)
    (rest : AtRest dev) (transactions : List Transaction)
    (complete : ∀ tx ∈ transactions, tx.Complete dev.addr_size)
    (below : ∀ tx ∈ transactions, Below (tx.addresses dev.addr_size)) :
    let reached := (logged (transact gameCode) dev transactions).1
    (logged (transact gameCode) dev transactions).2 =
        (logged (SpiMemory.transact dev.contents dev.addr_size) (initialMemory dev)
          transactions).2 ∧
      ∀ addr,
        (∀ i < reached.fsize.toNat,
          (reached.ensure addr false).fpMC.bytes[i]? = reached.fpMC.bytes[i]?) ∧
        (reached.ensure addr false).contents = reached.contents := by
  have start : Refines dev.contents dev (initialMemory dev) :=
    { toServing := rest.toServing
      idle := rest.idle
      unannounced := rest.unannounced
      sameEnable := rfl
      sameContents := rfl }
  obtain ⟨refines,sameLog⟩ :=
    transactions_refine gameCode start transactions complete below
  exact ⟨sameLog,ensure_kept refines.toCovered⟩

def blankEeprom : BackupDevice where
  fpMC := { mode := .wb_plus, bytes := [], pos := 0 }
  fsize := 0
  info := { size := 0, padSize := 0, type := 0, addr_size := 0, mem_size := 0 }
  isMovieMode := false
  uninitializedValue := 0xFF
  write_enable := false
  reset_command_state := false
  com := 0
  addr_size := 1
  addr_counter := 0
  addr := 0
  write_protect := 0
  data_autodetect := []
  state := .RUNNING

/-- A byte written across the wrap of a one-byte address is read back, its
neighbour has the factory value. -/
theorem spi_byte_array_wrap :
    (logged (transact []) blankEeprom
      [.WRITEENABLE,.WRITE true [0xFF] [0xAB,0xCD],.READ false [0x00] [0,0]]).2 =
      [(0, 0xCD),(1, 0xFF)] :=
  (spi_byte_array [] blankEeprom
    { inside := by decide
      small := by decide
      running := rfl
      recording := rfl
      width := Or.inl rfl
      idle := rfl
      unannounced := rfl }
    [.WRITEENABLE,.WRITE true [0xFF] [0xAB,0xCD],.READ false [0x00] [0,0]]
    (by simp [Transaction.Complete,blankEeprom])
    (by
      simp only [List.mem_cons,List.not_mem_nil,or_false,forall_eq_or_imp,forall_eq]
      refine ⟨?_,?_,?_⟩ <;> unfold Below <;> rw [footerLength_eq] <;> decide)).1.trans (by decide)

theorem length_serve (dev : BackupDevice) (vals : List u8) :
    (serve gameCode dev vals).2.length = vals.length := by
  induction vals generalizing dev with
  | nil => rfl
  | cons val rest ih =>
      rw [serve_cons,List.length_cons,ih,List.length_cons]

def advanced (dev : BackupDevice) (n : Nat) : BackupDevice :=
  { dev with
    addr := dev.addr + BitVec.ofNat 32 n
    fpMC := { dev.fpMC with pos := dev.fpMC.pos + n } }

theorem advanced_advanced (dev : BackupDevice) (first second : Nat) :
    advanced (advanced dev first) second = advanced dev (first + second) := by
  simp only [advanced,BitVec.add_assoc,BitVec.ofNat_add,Nat.add_assoc]

theorem serve_before_end (clocks : List u8)
    (running : dev.state = .RUNNING) (reading : dev.com = BM_CMD_READLOW)
    (counted : ¬ dev.addr_counter < dev.addr_size) (plain : dev.addr_size ≠ 1)
    (inside : dev.fsize.toNat ≤ dev.fpMC.bytes.length) (here : dev.fpMC.pos = dev.addr.toNat)
    (within : dev.addr.toNat + clocks.length < dev.fsize.toNat) :
    (serve gameCode dev clocks).1 = advanced dev clocks.length := by
  induction clocks generalizing dev with
  | nil =>
      change dev = advanced dev 0
      simp [advanced]
  | cons val rest ih =>
      rw [List.length_cons] at within
      have bound := dev.fsize.isLt
      have present : dev.addr + 1 < dev.fsize := by bv_omega
      have inFile : dev.fpMC.pos < dev.fpMC.bytes.length := by omega
      have prepared : dev.prepared = dev := by
        unfold BackupDevice.prepared wrapAddress
        rw [if_neg plain,ensure,ensureReal,if_pos ⟨rfl,present⟩]
      have step : (handleByte gameCode dev val).1 = advanced dev 1 := by
        rw [handleByte_data gameCode val running (Or.inr reading) counted,dataByte_eq,prepared,
          access,if_pos reading,BackupDevice.read,
          EMUFILE.read8le_of_inside dev.fpMC 0xFF _ (List.getElem?_eq_getElem inFile)]
        rfl
      have nextAddr : (advanced dev 1).addr.toNat = dev.addr.toNat + 1 := by
        change (dev.addr + 1).toNat = dev.addr.toNat + 1
        bv_omega
      have nextPos : (advanced dev 1).fpMC.pos = dev.fpMC.pos + 1 := rfl
      have later := @ih (advanced dev 1) running reading counted plain inside
        (by rw [nextAddr,nextPos,here])
        (by
          rw [nextAddr]
          change dev.addr.toNat + 1 + rest.length < dev.fsize.toNat
          omega)
      rw [serve_cons,step,later,advanced_advanced,List.length_cons,Nat.add_comm]

theorem dataByte_past_limit (reading : dev.com = BM_CMD_READLOW)
    (plain : dev.addr_size ≠ 1) (large : 2 ^ 31 ≤ dev.addr.toNat)
    (lastByte : dev.addr.toNat + 1 = dev.fsize.toNat) (unpadded : pad_up_size dev.fsize = dev.fsize)
    (here : dev.fpMC.pos = dev.addr.toNat)
    (inside : dev.fpMC.pos ≤ dev.fpMC.bytes.length) (val : u8) :
    (dev.dataByte val).2 =
      (dev.fpMC.bytes[dev.addr.toNat + footerLength]?).getD 0xFF := by
  have bound := dev.fsize.isLt
  have last : dev.addr + 1 = dev.fsize := by bv_omega
  have notPresent : ¬ dev.addr + 1 < dev.fsize := by
    rw [last]
    exact BitVec.lt_irrefl dev.fsize
  have largeSize : 2 ^ 31 ≤ dev.fsize.toNat := by omega
  have back : dev.fsize - 1 = dev.addr := by bv_omega
  have grown :
      dev.prepared.fpMC =
        { dev.fpMC with
          bytes := overwrite 0 dev.fpMC.bytes dev.fpMC.pos
            (footerBytes dev.fsize dev.fsize (dev.paddedInfo dev.fsize).type
              dev.addr_size dev.fsize)
          pos := dev.fpMC.pos + footerLength } := by
    unfold BackupDevice.prepared wrapAddress
    rw [if_neg plain,ensure,ensureReal,if_neg (by simpa using notPresent)]
    simp only [grow,back,last,unpadded,EMUFILE.fseek_set_large _ _ largeSize]
    rw [if_neg (by bv_omega),writeFooter_eq _ _ _ _ _ _ inside,
      EMUFILE.fwrite_of_inside _ _ inside,EMUFILE.fseek_set_large _ _ large,length_footerBytes]
    rfl
  have stillReading : dev.prepared.com = BM_CMD_READLOW :=
    (congrArg Setup.com (setup_prepared dev)).trans reading
  rw [dataByte_eq]
  simp only [access,stillReading,if_true,BackupDevice.read,EMUFILE.read8le_value,grown]
  rw [getElem?_overwrite_behind _ _ _ _ _ (by rw [length_footerBytes]),here]

variable (size : u32) (last : Nat)

def zeroSave : BackupDevice where
  fpMC :=
    { mode := .rb_plus
      bytes := List.replicate size.toNat 0 ++ footerBytes size size 0 3 size
      pos := 0 }
  fsize := size
  info := { size := size, padSize := size, type := 0, addr_size := 3, mem_size := size }
  isMovieMode := false
  uninitializedValue := 0xFF
  write_enable := false
  reset_command_state := false
  com := 0
  addr_size := 3
  addr_counter := 0
  addr := 0
  write_protect := 0
  data_autodetect := []
  state := .RUNNING

def readingSave : BackupDevice :=
  { zeroSave size with com := BM_CMD_READLOW, addr_counter := 3 }

theorem serve_to_zero :
    serve gameCode (commanded (zeroSave size) BM_CMD_READLOW false) [0,0,0] =
      (readingSave size, [0xFF,0xFF,0xFF]) := by
  have started :
      commanded (zeroSave size) BM_CMD_READLOW false =
        { zeroSave size with com := BM_CMD_READLOW } := by
    unfold commanded
    rw [if_neg (fun wide => Bool.false_ne_true wide.1)]
    rfl
  have adr : [(0 : u8),0,0].foldl shiftIn 0 = 0 := by decide
  have arrived := serve_address gameCode { zeroSave size with com := BM_CMD_READLOW } 0 [0,0]
    rfl (Or.inr rfl) rfl
  rw [started,arrived,addressed]
  change ({ zeroSave size with
      com := BM_CMD_READLOW
      addr := [(0 : u8),0,0].foldl shiftIn 0
      addr_counter := 3
      fpMC := (zeroSave size).fpMC.fseek
        ([(0 : u8),0,0].foldl shiftIn 0).toInt .SEEK_SET }, _) = _
  rw [adr,EMUFILE.fseek_set _ 0 (by decide)]
  rfl

theorem last_byte_past_limit (lastByte : size.toNat = last + 1)
    (large : 2 ^ 31 ≤ last) (unpadded : pad_up_size size = size) :
    ((advanced (readingSave size) last).dataByte 0).2 = 0x7C := by
  have bound := size.isLt
  have fileLength : (zeroSave size).fpMC.bytes.length = last + 1 + footerLength := by
    simp only [zeroSave,List.length_append,List.length_replicate,length_footerBytes,lastByte]
  have lastAddr : (advanced (readingSave size) last).addr.toNat = last := by
    change (0#32 + BitVec.ofNat 32 last).toNat = last
    rw [BitVec.zero_add,BitVec.toNat_ofNat,Nat.mod_eq_of_lt (by omega)]
  have lastPos : (advanced (readingSave size) last).fpMC.pos = last := Nat.zero_add last
  have plain : (advanced (readingSave size) last).addr_size ≠ 1 := by
    change (3 : u32) ≠ 1
    decide
  have cookie : (footerBytes size size 0 3 size)[121]? = some 0x7C := by
    have textLength := length_footerText
    simp only [footerBytes,List.getElem?_append,EMUFILE.length_le32,textLength]
    norm_num
    decide
  rw [dataByte_past_limit rfl plain (by rw [lastAddr]; exact large)
    (by rw [lastAddr]; exact lastByte.symm) unpadded (by rw [lastPos,lastAddr])
    (by
      rw [lastPos]
      change last ≤ (zeroSave size).fpMC.bytes.length
      omega) 0,lastAddr]
  change ((List.replicate size.toNat 0 ++ footerBytes size size 0 3 size)[last + footerLength]?
    ).getD
    0xFF = 0x7C
  rw [List.getElem?_append_right (by rw [List.length_replicate,footerLength_eq]; omega),
    List.length_replicate,lastByte,
    show last + footerLength - (last + 1) = 121 by rw [footerLength_eq]; omega,cookie]
  rfl

theorem read_last_byte (lastByte : size.toNat = last + 1) (large : 2 ^ 31 ≤ last)
    (unpadded : pad_up_size size = size) :
    (last, 0x7C) ∈
      (logged (transact gameCode) (zeroSave size)
        [.READ false [0,0,0] (List.replicate (last + 1) 0)]).2 := by
  have counted : ¬ (readingSave size).addr_counter < (readingSave size).addr_size :=
    BitVec.lt_irrefl 3
  have plain : (readingSave size).addr_size ≠ 1 := by
    change (3 : u32) ≠ 1
    decide
  have inside : (readingSave size).fsize.toNat ≤ (readingSave size).fpMC.bytes.length := by
    change size.toNat ≤ (List.replicate size.toNat 0 ++ footerBytes size size 0 3 size).length
    rw [List.length_append,List.length_replicate]
    omega
  have walked := serve_before_end gameCode (List.replicate last 0) rfl rfl counted plain inside
    rfl (by
      rw [List.length_replicate]
      change 0 + last < size.toNat
      omega)
  have lengths := length_serve gameCode (readingSave size) (List.replicate last 0)
  have shown := last_byte_past_limit size last lastByte large unpadded
  have final :
      handleByte gameCode (advanced (readingSave size) last) 0 =
        (advanced (readingSave size) last).dataByte 0 :=
    handleByte_data gameCode 0 rfl (Or.inr rfl) counted
  have moved := @transfer_data gameCode (zeroSave size) rfl rfl rfl
    (Transaction.READ false [0,0,0] (List.replicate (last + 1) 0)).command BM_CMD_READLOW false
    [0,0,0] (List.replicate (last + 1) 0) (newCommand_read _ _ _ _)
  rw [List.length_replicate] at walked lengths
  have values :
      (serve gameCode (readingSave size) (List.replicate (last + 1) 0)).2 =
        (serve gameCode (readingSave size) (List.replicate last 0)).2 ++ [0x7C] := by
    rw [List.replicate_succ',serve_append,walked,serve_cons,final,shown]
    rfl
  rw [serve_to_zero] at moved
  simp only [values] at moved
  have places :
      (Transaction.READ false [0,0,0] (List.replicate (last + 1) 0)).addresses 3 =
        (List.range last).map (dataAddress 3 0) ++ [last] := by
    have zero : Transaction.start 3 false [0,0,0] = 0 := by decide
    have same : dataAddress 3 0 last = last := by
      rw [dataAddress,if_neg (by decide),Nat.zero_add]
    rw [Transaction.addresses,Transaction.dataAddresses,List.length_replicate,zero,
      List.range_succ,List.map_append,List.map_singleton,same]
  have log :
      (logged (transact gameCode) (zeroSave size)
        [.READ false [0,0,0] (List.replicate (last + 1) 0)]).2 =
        ((List.range last).map (dataAddress 3 0) ++ [last]).zip
          ((serve gameCode (readingSave size) (List.replicate last 0)).2 ++ [0x7C]) := by
    rw [← places]
    simp only [logged,transact,List.append_nil]
    change ((Transaction.READ false [0,0,0] (List.replicate (last + 1) 0)).addresses 3).zip
      ((transfer gameCode (zeroSave size) _).2.drop 4) = _
    rw [show Transaction.body (.READ false [0,0,0] (List.replicate (last + 1) 0)) =
      [0,0,0] ++ List.replicate (last + 1) 0 from rfl,moved]
    rfl
  rw [log,List.zip_append (by rw [List.length_map,List.length_range,lengths])]
  exact List.mem_append_right _ List.mem_cons_self

theorem last_byte_differs (lastByte : size.toNat = last + 1) (large : 2 ^ 31 ≤ last)
    (unpadded : pad_up_size size = size) :
    (logged (transact gameCode) (zeroSave size)
      [.READ false [0,0,0] (List.replicate (last + 1) 0)]).2 ≠
      (logged (SpiMemory.transact (zeroSave size).contents (zeroSave size).addr_size)
        (initialMemory (zeroSave size))
        [.READ false [0,0,0] (List.replicate (last + 1) 0)]).2 := by
  intro same
  have read := read_last_byte gameCode size last lastByte large unpadded
  rw [same] at read
  simp only [logged,SpiMemory.transact,List.append_nil,List.mem_map] at read
  obtain ⟨addr,_,pair⟩ := read
  obtain ⟨rfl,val⟩ := Prod.mk.inj pair
  have zero : (zeroSave size).contents addr = 0 := by
    unfold contents
    have inData : addr < (zeroSave size).fsize.toNat := by
      change addr < size.toNat
      omega
    rw [if_pos inData]
    change ((List.replicate size.toNat 0 ++ footerBytes size size 0 3 size)[addr]?).getD
      0xFF = 0
    rw [List.getElem?_append_left (by rw [List.length_replicate]; omega),
      List.getElem?_replicate,if_pos (by omega)]
    rfl
  change (zeroSave size).contents addr = 0x7C at val
  rw [zero] at val
  exact absurd val (by decide)

/-- Without the limit the statement fails: the last byte of a save of 2 GiB and
one byte, whose data is zero, reads as a footer byte. -/
theorem footer_visible_past_limit :
    ¬ ∀ (gameCode : List Char) (dev : BackupDevice) (transactions : List Transaction),
      dev.state = .RUNNING → dev.isMovieMode = false →
      (dev.addr_size = 1 ∨ dev.addr_size = 2 ∨ dev.addr_size = 3) →
      dev.fsize.toNat ≤ dev.fpMC.bytes.length → dev.com = 0 →
      dev.reset_command_state = false →
      (∀ tx ∈ transactions, tx.Complete dev.addr_size) →
      (logged (transact gameCode) dev transactions).2 =
        (logged (SpiMemory.transact dev.contents dev.addr_size) (initialMemory dev)
          transactions).2 := by
  intro everywhere
  have inside (size : u32) :
      (zeroSave size).fsize.toNat ≤ (zeroSave size).fpMC.bytes.length := by
    change size.toNat ≤ (List.replicate size.toNat 0 ++ footerBytes size size 0 3 size).length
    rw [List.length_append,List.length_replicate]
    omega
  have complete (size : u32) (clocks : List u8) :
      ∀ tx ∈ [Transaction.READ false [0,0,0] clocks],
        tx.Complete (zeroSave size).addr_size := by
    intro tx listed
    rw [List.mem_singleton.mp listed]
    exact (rfl : 3 = (3 : u32).toNat)
  exact last_byte_differs [] 0x80000001 (2 ^ 31) (by decide) le_rfl (by decide)
    (everywhere [] (zeroSave 0x80000001) _ rfl rfl (Or.inr (Or.inr rfl)) (inside _) rfl rfl
      (complete _ _))

end Desmume.Backup
