/-
SPI transactions, and the abstract memory they are meant to act on.

A transaction sends its bytes through `data_command`; the chip select goes up
before the last one, which is the call of `reset_command`.
-/

import Desmume.Backup.Serving
import Desmume.Lib.Run

namespace Desmume.Backup

open Run Overwrite BackupDevice

/-- A complete transaction. `clocks` are the bytes sent while data comes back. -/
inductive Transaction
  | WRITEENABLE
  | WRITEDISABLE
  | WRITESTATUS (vals : List u8)
  | READSTATUS (clocks : List u8)
  | WRITE (high : Bool) (addr data : List u8)
  | READ (high : Bool) (addr clocks : List u8)

namespace Transaction

def command : Transaction → u8
  | WRITEENABLE => 0x06
  | WRITEDISABLE => 0x04
  | WRITESTATUS _ => 0x01
  | READSTATUS _ => 0x05
  | WRITE high _ _ => if high then 0x0A else 0x02
  | READ high _ _ => if high then 0x0B else 0x03

def body : Transaction → List u8
  | WRITEENABLE => []
  | WRITEDISABLE => []
  | WRITESTATUS vals => vals
  | READSTATUS clocks => clocks
  | WRITE _ addr data => addr ++ data
  | READ _ addr clocks => addr ++ clocks

variable (addr_size : u32)

def Complete : Transaction → Prop
  | WRITE _ addr _ => addr.length = addr_size.toNat
  | READ _ addr _ => addr.length = addr_size.toNat
  | _ => True

/-- The address, most significant byte first. The high commands set bit 8 of a
one-byte address. -/
def start (addr_size : u32) (high : Bool) (addr : List u8) : Nat :=
  addr.foldl (fun val byte => val * 256 + byte.toNat)
    (if high ∧ addr_size = 1 then 1 else 0)

def dataAddresses (first n : Nat) : List Nat :=
  (List.range n).map (dataAddress addr_size first)

def addresses : Transaction → List Nat
  | WRITE high addr data => dataAddresses addr_size (start addr_size high addr) data.length
  | READ high addr clocks =>
      dataAddresses addr_size (start addr_size high addr) clocks.length
  | _ => []

theorem dataAddresses_cons (first n : Nat) :
    dataAddresses addr_size first (n + 1) =
      dataAddress addr_size first 0 :: dataAddresses addr_size (first + 1) n := by
  have shifted (i : Nat) :
      dataAddress addr_size first (i + 1) = dataAddress addr_size (first + 1) i := by
    unfold dataAddress
    rw [Nat.add_assoc,Nat.add_comm 1 i]
  simp only [dataAddresses,List.range_succ_eq_map,List.map_cons,List.map_map]
  congr 1
  exact List.map_congr_left fun i _ => shifted i

end Transaction

/-- The bytes of one transaction and what comes back for each. -/
def transfer (gameCode : List Char) : BackupDevice → List u8 → BackupDevice × List u8
  | device, [] => (device, [])
  | device, [last] =>
      let res := device.reset_command.data_command gameCode last
      (res.1, [res.2])
  | device, val :: next :: rest =>
      let res := device.data_command gameCode val
      let later := transfer gameCode res.1 (next :: rest)
      (later.1, res.2 :: later.2)

/-- A transaction on the device. A read logs each data byte that comes back
with its address. -/
def transact (gameCode : List Char) (device : BackupDevice) (tx : Transaction) :
    BackupDevice × List (Nat × u8) :=
  let res := transfer gameCode device (tx.command :: tx.body)
  (res.1, match tx with
    | .READ _ _ _ =>
        (tx.addresses device.addr_size).zip
          (res.2.drop (1 + device.addr_size.toNat))
    | _ => [])

structure SpiMemory where
  write_enable : Bool
  written : List (Nat × u8)

namespace SpiMemory

variable (original : Nat → u8) (mem : SpiMemory)

def byteAt (addr : Nat) : u8 :=
  (mem.written.lookup addr).getD (original addr)

def store (cell : Nat × u8) : SpiMemory :=
  if mem.write_enable then { mem with written := cell :: mem.written } else mem

def transact (addr_size : u32) (mem : SpiMemory) (tx : Transaction) : SpiMemory × List (Nat × u8) :=
  match tx with
  | .WRITEENABLE => ({ mem with write_enable := true }, [])
  | .WRITEDISABLE => ({ mem with write_enable := false }, [])
  | .WRITESTATUS _ => (mem, [])
  | .READSTATUS _ => (mem, [])
  | .WRITE _ _ data => (((tx.addresses addr_size).zip data).foldl store mem, [])
  | .READ _ _ _ =>
      (mem, (tx.addresses addr_size).map fun addr =>
        (addr, mem.byteAt original addr))

theorem byteAt_store (addr : Nat) (val : u8) :
    (mem.store (addr, val)).byteAt original =
      if mem.write_enable then Function.update (mem.byteAt original) addr val
      else mem.byteAt original := by
  unfold store
  cases mem.write_enable with
  | false => rfl
  | true =>
      funext other
      simp only [if_true,byteAt,List.lookup_cons]
      by_cases same : other = addr
      · subst same
        simp
      · have differs : (other == addr) = false := by simpa using same
        simp only [differs,Function.update_of_ne same]
        rfl

@[simp] theorem write_enable_store (cell : Nat × u8) :
    (mem.store cell).write_enable = mem.write_enable := by
  unfold store
  split <;> rfl

theorem write_enable_foldl_store (cells : List (Nat × u8)) :
    (cells.foldl store mem).write_enable = mem.write_enable :=
  Run.observe_final write_enable (fun cell _listed mem => write_enable_store mem cell) mem

end SpiMemory

def serve (gameCode : List Char) (device : BackupDevice) (vals : List u8) :
    BackupDevice × List u8 :=
  logged (fun before val =>
    let res := handleByte gameCode before val
    (res.1, [res.2])) device vals

variable (gameCode : List Char) (device : BackupDevice)

variable (val : u8) (rest : List u8)

theorem serve_cons :
    serve gameCode device (val :: rest) =
      ((serve gameCode (handleByte gameCode device val).1 rest).1,
        (handleByte gameCode device val).2 ::
          (serve gameCode (handleByte gameCode device val).1 rest).2) := rfl

theorem serve_append (first second : List u8) :
    serve gameCode device (first ++ second) =
      ((serve gameCode (serve gameCode device first).1 second).1,
        (serve gameCode device first).2 ++
          (serve gameCode (serve gameCode device first).1 second).2) :=
  logged_append _ device first second

theorem transfer_eq (running : device.state = .RUNNING)
    (unannounced : device.reset_command_state = false) :
    transfer gameCode device (val :: rest) =
      ((serve gameCode device (val :: rest)).1.finish,
        (serve gameCode device (val :: rest)).2) := by
  obtain ⟨stillRunning,stillUnannounced⟩ := handleByte_kept gameCode device val running
  induction rest generalizing device val with
  | nil =>
      have last := handleByte_reset_command gameCode device val running
      simp only [transfer,data_command,last]
      rfl
  | cons next rest ih =>
      have midway :
          device.data_command gameCode val = handleByte gameCode device val := by
        rw [unannounced] at stillUnannounced
        unfold data_command checkReset
        simp only [stillUnannounced]
        rfl
      obtain ⟨laterRunning,laterUnannounced⟩ :=
        handleByte_kept gameCode (handleByte gameCode device val).1 next stillRunning
      have later := ih (handleByte gameCode device val).1 next stillRunning
        (stillUnannounced.trans unannounced) laterRunning laterUnannounced
      simp only [transfer,midway,later]
      rfl

def shiftIn (addr : u32) (val : u8) : u32 := addr <<< 8 ||| val.setWidth 32

theorem toNat_shiftIn (addr : u32) (val : u8) (small : addr.toNat < 2 ^ 24) :
    (shiftIn addr val).toNat = addr.toNat * 256 + val.toNat := by
  have bound := val.isLt
  have shifted : addr.toNat <<< 8 < 2 ^ 32 := by
    rw [Nat.shiftLeft_eq]
    omega
  rw [shiftIn,BitVec.toNat_or,BitVec.toNat_shiftLeft,Nat.mod_eq_of_lt shifted,
    BitVec.toNat_setWidth,Nat.mod_eq_of_lt (by omega),← Nat.shiftLeft_add_eq_or_of_lt bound,
    Nat.shiftLeft_eq]

theorem toNat_foldl_shiftIn (adr : List u8) (addr : u32) (n : Nat)
    (bound : addr.toNat < 256 ^ n) (room : n + adr.length ≤ 4) :
    (adr.foldl shiftIn addr).toNat =
        adr.foldl (fun v byte => v * 256 + byte.toNat) addr.toNat ∧
      (adr.foldl shiftIn addr).toNat < 256 ^ (n + adr.length) := by
  induction adr generalizing addr n with
  | nil => exact ⟨rfl,bound⟩
  | cons val rest ih =>
      rw [List.length_cons] at room
      have small : addr.toNat < 2 ^ 24 :=
        lt_of_lt_of_le bound (Nat.pow_le_pow_right (by omega) (by omega : n ≤ 3))
      have v := toNat_shiftIn addr val small
      have bounded : (shiftIn addr val).toNat < 256 ^ (n + 1) := by
        have top := val.isLt
        rw [v,Nat.pow_succ]
        omega
      obtain ⟨same,below⟩ := ih (shiftIn addr val) (n + 1) bounded (by omega)
      rw [v] at same
      refine ⟨same,?_⟩
      rw [List.length_cons,← Nat.add_assoc,Nat.add_right_comm]
      exact below

theorem not_status {device : BackupDevice}
    (moving : device.com = BM_CMD_WRITELOW ∨ device.com = BM_CMD_READLOW) :
    ¬ device.com = BM_CMD_WRITESTATUS := by
  rcases moving with same | same <;> rw [same] <;> decide

theorem handleByte_address {device : BackupDevice} (running : device.state = .RUNNING)
    (moving : device.com = BM_CMD_WRITELOW ∨ device.com = BM_CMD_READLOW)
    (counting : device.addr_counter < device.addr_size) :
    handleByte gameCode device val = (device.addressByte val, 0xFF) := by
  rw [handleByte,if_neg (not_status moving),if_pos moving,memoryByte,
    if_neg (not_detecting running),if_pos counting]

theorem handleByte_data {device : BackupDevice} (running : device.state = .RUNNING)
    (moving : device.com = BM_CMD_WRITELOW ∨ device.com = BM_CMD_READLOW)
    (counted : ¬ device.addr_counter < device.addr_size) :
    handleByte gameCode device val = device.dataByte val := by
  rw [handleByte,if_neg (not_status moving),if_pos moving,memoryByte,
    if_neg (not_detecting running),if_neg counted]

def addressed (device : BackupDevice) (adr : List u8) : BackupDevice :=
  { device with
    addr := adr.foldl shiftIn device.addr
    addr_counter := device.addr_size
    fpMC := device.fpMC.fseek (adr.foldl shiftIn device.addr).toInt .SEEK_SET }

theorem serve_address (running : device.state = .RUNNING)
    (moving : device.com = BM_CMD_WRITELOW ∨ device.com = BM_CMD_READLOW)
    (left : device.addr_counter.toNat + (val :: rest).length = device.addr_size.toNat) :
    serve gameCode device (val :: rest) =
      (addressed device (val :: rest), List.replicate (val :: rest).length 0xFF) := by
  have counting : device.addr_counter < device.addr_size := by
    rw [List.length_cons] at left
    bv_omega
  have first := handleByte_address gameCode val running moving counting
  induction rest generalizing device val with
  | nil =>
      have done : device.addr_counter + 1 = device.addr_size := by
        rw [List.length_singleton] at left
        bv_omega
      have seeked : device.addressByte val = addressed device [val] := by
        simp only [addressByte,done]
        rfl
      rw [serve_cons,first,seeked]
      rfl
  | cons next rest ih =>
      rw [List.length_cons,List.length_cons] at left
      have notDone : ¬ device.addr_counter + 1 = device.addr_size := by bv_omega
      have counted : device.addressByte val =
          { device with
            addr := shiftIn device.addr val
            addr_counter := device.addr_counter + 1 } := by
        simp only [addressByte,if_neg notDone]
        rfl
      have stillCounting : device.addr_counter + 1 < device.addr_size := by bv_omega
      have stillLeft :
          (device.addr_counter + 1).toNat + (next :: rest).length = device.addr_size.toNat := by
        rw [List.length_cons]
        bv_omega
      have later := ih (device.addressByte val) next
        (by rw [counted]; exact running) (by rw [counted]; exact moving)
        (by rw [counted]; exact stillLeft) (by rw [counted]; exact stillCounting)
        (by
          rw [counted]
          exact handleByte_address gameCode next running moving stillCounting)
      rw [serve_cons,first,later,counted]
      rfl

/-! ### The data bytes -/

/-- The data phase of a read or write whose next byte goes to `first`. -/
structure InData (device : BackupDevice) (first : Nat) : Prop extends device.Serving where
  counted : ¬ device.addr_counter < device.addr_size
  here : device.AtAddress first

/-- Every data address leaves room for the byte and the footer below 2 GiB. -/
def Below (addresses : List Nat) : Prop :=
  ∀ addr ∈ addresses, addr + 1 + footerLength < 2 ^ 31

variable {first : Nat}

theorem InData.next {device : BackupDevice} (data : InData device first)
    (below : dataAddress device.addr_size first 0 + 1 + footerLength < 2 ^ 31) (val : u8) :
    InData (device.dataByte val).1 (first + 1) := by
  have setup := setup_dataByte device val
  have sameWidth : (device.dataByte val).1.addr_size = device.addr_size :=
    addr_size_of_setup setup
  have sameCounter : (device.dataByte val).1.addr_counter = device.addr_counter :=
    addr_counter_of_setup setup
  obtain ⟨serving,here,_,_⟩ := dataByte_spec data.toServing data.here below val
  exact
    { toServing := serving
      counted := by
        rw [sameWidth,sameCounter]
        exact data.counted
      here := here }

theorem serve_read (gameCode : List Char) {device : BackupDevice}
    (data : InData device first) (reading : device.com = BM_CMD_READLOW) (clocks : List u8)
    (below : Below (Transaction.dataAddresses device.addr_size first clocks.length)) :
    let res := serve gameCode device clocks
    res.1.Serving ∧ res.1.setup = device.setup ∧
      res.1.contents = device.contents ∧
      res.2 =
        (Transaction.dataAddresses device.addr_size first clocks.length).map device.contents := by
  induction clocks generalizing device first with
  | nil => exact ⟨data.toServing,rfl,rfl,rfl⟩
  | cons val rest ih =>
      rw [List.length_cons,Transaction.dataAddresses_cons] at below ⊢
      have belowFirst := below _ List.mem_cons_self
      have setup := setup_dataByte device val
      have sameWidth : (device.dataByte val).1.addr_size = device.addr_size :=
        addr_size_of_setup setup
      have sameCom : (device.dataByte val).1.com = device.com := com_of_setup setup
      obtain ⟨_,_,reads,_⟩ := dataByte_spec data.toServing data.here belowFirst val
      obtain ⟨sameContents,v⟩ := reads reading
      have later := ih (data.next belowFirst val) (sameCom.trans reading) (by
        rw [sameWidth]
        exact fun addr listed => below addr (List.mem_cons_of_mem _ listed))
      rw [sameWidth,sameContents,setup] at later
      obtain ⟨serving,kept,unchanged,values⟩ := later
      rw [serve_cons,handleByte_data gameCode val data.running (Or.inr reading) data.counted]
      exact ⟨serving,kept,unchanged,by rw [List.map_cons,values,v]⟩

theorem serve_write (gameCode : List Char) {device : BackupDevice}
    (data : InData device first) (writing : device.com = BM_CMD_WRITELOW) (vals : List u8)
    (below : Below (Transaction.dataAddresses device.addr_size first vals.length))
    (original : Nat → u8) (mem : SpiMemory)
    (sameEnable : device.write_enable = mem.write_enable)
    (sameContents : device.contents = mem.byteAt original) :
    let res := serve gameCode device vals
    res.1.Serving ∧ res.1.setup = device.setup ∧
      res.1.contents =
        (((Transaction.dataAddresses device.addr_size first vals.length).zip vals).foldl
          SpiMemory.store mem).byteAt original := by
  induction vals generalizing device first mem with
  | nil => exact ⟨data.toServing,rfl,sameContents⟩
  | cons val rest ih =>
      rw [List.length_cons,Transaction.dataAddresses_cons] at below ⊢
      have belowFirst := below _ List.mem_cons_self
      have setup := setup_dataByte device val
      have sameWidth : (device.dataByte val).1.addr_size = device.addr_size :=
        addr_size_of_setup setup
      have sameCom : (device.dataByte val).1.com = device.com := com_of_setup setup
      have stillEnabled : (device.dataByte val).1.write_enable = device.write_enable :=
        write_enable_of_setup setup
      have notReading : device.com ≠ BM_CMD_READLOW := by
        rw [writing]
        decide
      obtain ⟨_,_,_,writes⟩ := dataByte_spec data.toServing data.here belowFirst val
      have stored :
          (device.dataByte val).1.contents =
            (mem.store (dataAddress device.addr_size first 0, val)).byteAt original := by
        rw [writes notReading,SpiMemory.byteAt_store,sameEnable,sameContents]
      have later := ih (data.next belowFirst val) (sameCom.trans writing) (by
          rw [sameWidth]
          exact fun addr listed => below addr (List.mem_cons_of_mem _ listed))
        (mem.store (dataAddress device.addr_size first 0, val))
        (by rw [stillEnabled,sameEnable,SpiMemory.write_enable_store]) stored
      rw [sameWidth,setup] at later
      rw [serve_cons,handleByte_data gameCode val data.running (Or.inl writing) data.counted]
      exact later

theorem serve_status (gameCode : List Char) {device : BackupDevice} (serving : device.Serving)
    (status : device.com = BM_CMD_WRITESTATUS ∨ device.com = BM_CMD_READSTATUS)
    (vals : List u8) :
    let res := serve gameCode device vals
    res.1.Serving ∧ res.1.setup = device.setup ∧ res.1.contents = device.contents := by
  induction vals generalizing device with
  | nil => exact ⟨serving,rfl,rfl⟩
  | cons val rest ih =>
      have step :
          ∃ write_protect,
            (handleByte gameCode device val).1 =
              { device with write_protect := write_protect } := by
        unfold handleByte
        rcases status with same | same
        · rw [if_pos same]
          exact ⟨_,rfl⟩
        · rw [if_neg (by rw [same]; decide),if_neg (by rw [same]; decide),if_pos same]
          exact ⟨device.write_protect,rfl⟩
      obtain ⟨write_protect,changed⟩ := step
      have stillServing : (handleByte gameCode device val).1.Serving := by
        rw [changed]
        exact ⟨⟨serving.inside,serving.small⟩,serving.running,serving.recording,
          serving.width⟩
      have sameCom : (handleByte gameCode device val).1.com = device.com := by rw [changed]
      have later := ih stillServing (by rw [sameCom]; exact status)
      have sameSetup : (handleByte gameCode device val).1.setup = device.setup := by
        rw [changed]
        rfl
      have sameContents : (handleByte gameCode device val).1.contents = device.contents := by
        rw [changed]
        exact contents_congr rfl rfl rfl
      rw [sameSetup,sameContents] at later
      rw [serve_cons]
      exact later

end Desmume.Backup
