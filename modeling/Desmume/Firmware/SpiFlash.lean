/-
The firmware flash behind SPI: `fw_transfer` and `fw_reset_com`.

A transaction is a run of bytes and the reset that ends it.
-/

import Desmume.Firmware.Settings
import Desmume.Lib.Overwrite

namespace Desmume.Firmware

open Run LastWrite

def FW_CMD_READ : u8 := 0x03
def FW_CMD_WRITEDISABLE : u8 := 0x04
def FW_CMD_READSTATUS : u8 := 0x05
def FW_CMD_WRITEENABLE : u8 := 0x06
def FW_CMD_PAGEWRITE : u8 := 0x0A
def FW_CMD_READ_ID : u8 := 0x9F

/-- `fp` and `userfile` are the contents of the two files, where there is one. -/
structure fw_memory_chip where
  com : u8
  addr : u32
  addr_shift : u8
  write_enable : Bool
  data : Image
  size : u32
  writeable_buffer : Bool
  isFirmware : Bool
  fp : Option Image
  userfile : Option (List u8)

/-- The settings, and `userDataAddr` of the loaded firmware. -/
structure Environment where
  UseExtFirmware : Bool
  UseExtFirmwareSettings : Bool
  firmware : Option Nat

variable (environment : Environment) (mc : fw_memory_chip) (data : u8) (start : fw_memory_chip)

def fw_saveSettings : fw_memory_chip :=
  if mc.isFirmware && environment.UseExtFirmware && environment.UseExtFirmwareSettings then
    match environment.firmware with
    | none => mc
    | some userDataAddr =>
        let saved := saveSettings environment.UseExtFirmware environment.UseExtFirmwareSettings
          userDataAddr mc.data
        { mc with data := saved.fw_data, userfile := saved.userfile }
  else mc

def fw_reset_com : fw_memory_chip :=
  if mc.com = FW_CMD_PAGEWRITE then
    let mc := { mc with fp := mc.fp.map fun _ => mc.data }
    let mc := fw_saveSettings environment mc
    { mc with write_enable := false, com := 0 }
  else { mc with com := 0 }

def fw_addressed : fw_memory_chip × u8 :=
  if 0 < mc.addr_shift then
    let addr_shift := mc.addr_shift - 1
    ({ mc with
        addr_shift := addr_shift
        addr := mc.addr ||| (data.setWidth 32 <<< (addr_shift.toNat * 8)) }, data)
  else if mc.com = FW_CMD_READ then
    if mc.addr < mc.size then ({ mc with addr := mc.addr + 1 }, mc.data mc.addr.toNat)
    else (mc, data)
  else
    if mc.addr < mc.size then
      ({ mc with data := Function.update mc.data mc.addr.toNat data, addr := mc.addr + 1 }, data)
    else (mc, data)

def fw_identify : fw_memory_chip × u8 :=
  if mc.addr = 0 then ({ mc with addr := 1 }, 0x20)
  else if mc.addr = 1 then ({ mc with addr := 2 }, 0x40)
  else if mc.addr = 2 then ({ mc with addr := 0 }, 0x12)
  else (mc, data)

def fw_command : fw_memory_chip × u8 :=
  if data = FW_CMD_READ_ID then ({ mc with addr := 0, com := FW_CMD_READ_ID }, data)
  else if data = FW_CMD_READ then
    ({ mc with addr := 0, addr_shift := 3, com := FW_CMD_READ }, data)
  else if data = FW_CMD_WRITEENABLE then
    (if mc.writeable_buffer then { mc with write_enable := true } else mc, data)
  else if data = FW_CMD_WRITEDISABLE then ({ mc with write_enable := false }, data)
  else if data = FW_CMD_PAGEWRITE then
    if mc.write_enable then
      ({ mc with addr := 0, addr_shift := 3, com := FW_CMD_PAGEWRITE }, data)
    else (mc, 0)
  else if data = FW_CMD_READSTATUS then ({ mc with com := FW_CMD_READSTATUS }, data)
  else (mc, data)

def fw_transfer : fw_memory_chip × u8 :=
  if mc.com = FW_CMD_READ ∨ mc.com = FW_CMD_PAGEWRITE then fw_addressed mc data
  else if mc.com = FW_CMD_READ_ID then fw_identify mc data
  else if mc.com = FW_CMD_READSTATUS then (mc, if mc.write_enable then 0x02 else 0x00)
  else fw_command mc data

inductive Op
  | transfer (data : u8)
  | reset
  deriving DecidableEq

def step : Op → fw_memory_chip
  | .transfer data => (fw_transfer mc data).1
  | .reset => fw_reset_com environment mc

structure Storing (mc : fw_memory_chip) : Prop where
  com : mc.com = FW_CMD_PAGEWRITE
  addressed : mc.addr_shift = 0
  inside : mc.addr < mc.size

instance (mc : fw_memory_chip) : Decidable (Storing mc) :=
  decidable_of_iff (mc.com = FW_CMD_PAGEWRITE ∧ mc.addr_shift = 0 ∧ mc.addr < mc.size)
    ⟨fun all => ⟨all.1,all.2.1,all.2.2⟩, fun all => ⟨all.com,all.addressed,all.inside⟩⟩

structure Reading (mc : fw_memory_chip) : Prop where
  com : mc.com = FW_CMD_READ
  addressed : mc.addr_shift = 0
  inside : mc.addr < mc.size

def copiedSettings : List (Nat × u8) :=
  if mc.com = FW_CMD_PAGEWRITE ∧ (mc.isFirmware && environment.UseExtFirmware &&
      environment.UseExtFirmwareSettings) = true then
    match environment.firmware with
    | none => []
    | some userDataAddr =>
        (List.range 0x100).map fun i =>
          ((saved_from mc.data userDataAddr).2 + i,
            mc.data ((saved_from mc.data userDataAddr).1 + i))
  else []

def storedByte : List (Nat × u8) :=
  if Storing mc then [(mc.addr.toNat, data)] else []

def pageStores : Op → List (Nat × u8)
  | .transfer data => storedByte mc data
  | .reset => []

def stores : Op → List (Nat × u8)
  | .transfer data => storedByte mc data
  | .reset => copiedSettings environment mc

def traceStep (op : Op) : fw_memory_chip × List (Nat × u8) :=
  (step environment mc op, stores environment mc op)

theorem fw_identify_data :
    (fw_identify mc data).1.data = mc.data ∧ (fw_identify mc data).1.com = mc.com ∧
      (fw_identify mc data).1.write_enable = mc.write_enable := by
  unfold fw_identify
  split
  · exact ⟨rfl,rfl,rfl⟩
  · split
    · exact ⟨rfl,rfl,rfl⟩
    · split
      · exact ⟨rfl,rfl,rfl⟩
      · exact ⟨rfl,rfl,rfl⟩

theorem fw_command_data : (fw_command mc data).1.data = mc.data := by
  unfold fw_command
  split
  · rfl
  · split
    · rfl
    · split
      · split
        · rfl
        · rfl
      · split
        · rfl
        · split
          · split
            · rfl
            · rfl
          · split
            · rfl
            · rfl

theorem read_ne_page : FW_CMD_READ ≠ FW_CMD_PAGEWRITE := by decide

theorem identify_ne_page : FW_CMD_READ_ID ≠ FW_CMD_PAGEWRITE := by decide

theorem status_ne_page : FW_CMD_READSTATUS ≠ FW_CMD_PAGEWRITE := by decide

theorem fw_command_latch (cmd : mc.com ≠ FW_CMD_PAGEWRITE)
    (started : (fw_command mc data).1.com = FW_CMD_PAGEWRITE) :
    (fw_command mc data).1.write_enable = true ∧ mc.write_enable = true := by
  unfold fw_command at started ⊢
  split at started
  · exact absurd started identify_ne_page
  · split at started
    · exact absurd started read_ne_page
    · split at started
      · split at started
        · exact absurd started cmd
        · exact absurd started cmd
      · split at started
        · exact absurd started cmd
        · rename_i notId notRead notEnable notDisable
          split at started
          · rename_i page
            split at started
            · rename_i latched
              rw [if_neg notId,if_neg notRead,if_neg notEnable,if_neg notDisable,if_pos page,
                if_pos latched]
              exact ⟨latched,latched⟩
            · exact absurd started cmd
          · split at started
            · exact absurd started status_ne_page
            · exact absurd started cmd

theorem fw_addressed_com :
    (fw_addressed mc data).1.com = mc.com ∧
      (fw_addressed mc data).1.write_enable = mc.write_enable := by
  unfold fw_addressed
  split
  · exact ⟨rfl,rfl⟩
  · split
    · split
      · exact ⟨rfl,rfl⟩
      · exact ⟨rfl,rfl⟩
    · split
      · exact ⟨rfl,rfl⟩
      · exact ⟨rfl,rfl⟩

theorem shift_zero_iff : ¬ 0 < mc.addr_shift ↔ mc.addr_shift = 0 := by
  constructor
  · intro none
    apply BitVec.eq_of_toNat_eq
    have bound : ¬ (0 : u8).toNat < mc.addr_shift.toNat := none
    exact Nat.eq_zero_of_not_pos bound
  · intro zero
    rw [zero]
    decide

theorem fw_transfer_data :
    (fw_transfer mc data).1.data =
      lastWritten mc.data (stores environment mc (.transfer data)) := by
  have unchanged (quiet : ¬ Storing mc) :
      lastWritten mc.data (stores environment mc (.transfer data)) = mc.data := by
    rw [stores,storedByte,if_neg quiet,lastWritten_nil]
  unfold fw_transfer
  by_cases addressed : mc.com = FW_CMD_READ ∨ mc.com = FW_CMD_PAGEWRITE
  · rw [if_pos addressed]
    unfold fw_addressed
    by_cases shift : 0 < mc.addr_shift
    · rw [if_pos shift,unchanged (fun storing => (shift_zero_iff mc).mpr storing.addressed shift)]
    · rw [if_neg shift]
      by_cases read : mc.com = FW_CMD_READ
      · rw [if_pos read,unchanged (fun storing => read_ne_page (read.symm.trans storing.com))]
        split
        · rfl
        · rfl
      · rw [if_neg read]
        by_cases inside : mc.addr < mc.size
        · have storing : Storing mc :=
            ⟨addressed.resolve_left read,(shift_zero_iff mc).mp shift,inside⟩
          rw [if_pos inside,stores,storedByte,if_pos storing,lastWritten_singleton]
        · rw [if_neg inside,unchanged (fun storing => inside storing.inside)]
  · have quiet : ¬ Storing mc := fun storing => addressed (Or.inr storing.com)
    rw [if_neg addressed,unchanged quiet]
    split
    · exact (fw_identify_data mc data).1
    · split
      · rfl
      · exact fw_command_data mc data

theorem lastWritten_range (data : Image) (dest src n : Nat) :
    lastWritten data ((List.range n).map fun i => (dest + i, data (src + i))) =
      memcpy data dest src n := by
  induction n with
  | zero =>
      funext i
      unfold memcpy
      rw [if_neg (by omega)]
      rfl
  | succ n ih =>
      rw [List.range_succ,List.map_append,List.map_cons,List.map_nil,lastWritten_snoc,ih]
      funext i
      unfold memcpy
      by_cases last : i = dest + n
      · have off : dest + n - dest = n := by omega
        rw [last,Function.update_self,if_pos (by omega),off]
      · rw [Function.update_of_ne last]
        exact if_congr (by omega) rfl rfl

theorem fw_reset_com_data :
    (fw_reset_com environment mc).data =
      lastWritten mc.data (stores environment mc .reset) := by
  unfold fw_reset_com stores copiedSettings
  by_cases page : mc.com = FW_CMD_PAGEWRITE
  · rw [if_pos page]
    simp only [fw_saveSettings]
    by_cases used : (mc.isFirmware && environment.UseExtFirmware &&
        environment.UseExtFirmwareSettings) = true
    · rw [if_pos used,if_pos ⟨page,used⟩]
      simp only [Bool.and_eq_true] at used
      cases environment.firmware with
      | none => rfl
      | some userDataAddr =>
          simp only
          rw [lastWritten_range]
          simp only [saveSettings,used.1.2,used.2,Bool.not_true,Bool.false_eq_true,if_false]
    · rw [if_neg used,if_neg (fun both => used both.2),lastWritten_nil]
  · rw [if_neg page,if_neg (fun both => page both.1),lastWritten_nil]

theorem fw_reset_com_com : (fw_reset_com environment mc).com = 0 := by
  unfold fw_reset_com
  split
  · rfl
  · rfl

theorem fw_reset_com_latch :
    (fw_reset_com environment mc).write_enable =
      if mc.com = FW_CMD_PAGEWRITE then false else mc.write_enable := by
  unfold fw_reset_com
  by_cases page : mc.com = FW_CMD_PAGEWRITE
  · rw [if_pos page,if_pos page]
  · rw [if_neg page,if_neg page]

/-! ### Runs of bytes and resets -/

def Latched : Prop :=
  mc.com = FW_CMD_PAGEWRITE → mc.write_enable = true

theorem latched_transfer (latched : Latched mc) : Latched (fw_transfer mc data).1 := by
  unfold fw_transfer
  split
  · intro page
    obtain ⟨com,enable⟩ := fw_addressed_com mc data
    rw [com] at page
    rw [enable]
    exact latched page
  · rename_i cmd
    split
    · intro page
      rw [(fw_identify_data mc data).2.1] at page
      rw [(fw_identify_data mc data).2.2]
      exact latched page
    · split
      · exact latched
      · intro page
        exact (fw_command_latch mc data (fun com => cmd (Or.inr com)) page).1

theorem latched_step (op : Op) (latched : Latched mc) : Latched (step environment mc op) := by
  cases op with
  | transfer data => exact latched_transfer mc data latched
  | reset =>
      intro page
      change (fw_reset_com environment mc).com = _ at page
      rw [fw_reset_com_com] at page
      exact absurd page (by decide)

theorem step_data (op : Op) :
    (step environment mc op).data = lastWritten mc.data (stores environment mc op) := by
  cases op with
  | transfer data => exact fw_transfer_data environment mc data
  | reset => exact fw_reset_com_data environment mc

theorem run_stored (latched : Latched start) (ops : List Op) :
    (logged (traceStep environment) start ops).1.data =
        lastWritten start.data (logged (traceStep environment) start ops).2 ∧
      Latched (logged (traceStep environment) start ops).1 := by
  refine @logged_invariant _ _ _ (traceStep environment)
    (fun mc log => mc.data = lastWritten start.data log ∧ Latched mc) ?_ start
    ⟨rfl,latched⟩ ops
  rintro mc log op ⟨data,latch⟩
  refine ⟨?_,latched_step environment mc op latch⟩
  rw [lastWritten_append,← data]
  exact step_data environment mc op

theorem unlatched_transfer (other : data ≠ FW_CMD_WRITEENABLE)
    (cmd : mc.com ≠ FW_CMD_PAGEWRITE) (clear : mc.write_enable = false) :
    (fw_transfer mc data).1.com ≠ FW_CMD_PAGEWRITE ∧
      (fw_transfer mc data).1.write_enable = false := by
  have enable : (fw_command mc data).1.write_enable = false := by
    unfold fw_command
    split
    · exact clear
    · split
      · exact clear
      · split
        · rfl
        · split
          · split
            · exact clear
            · exact clear
          · split
            · exact clear
            · exact clear
  unfold fw_transfer
  split
  · rw [(fw_addressed_com mc data).1,(fw_addressed_com mc data).2]
    exact ⟨cmd,clear⟩
  · split
    · rw [(fw_identify_data mc data).2.1,(fw_identify_data mc data).2.2]
      exact ⟨cmd,clear⟩
    · split
      · exact ⟨cmd,clear⟩
      · refine ⟨fun page => ?_, enable⟩
        have set := (fw_command_latch mc data cmd page).2
        rw [clear] at set
        cases set

theorem unlatched_step (op : Op)
    (other : op ≠ .transfer FW_CMD_WRITEENABLE) (cmd : mc.com ≠ FW_CMD_PAGEWRITE)
    (clear : mc.write_enable = false) :
    ((step environment mc op).com ≠ FW_CMD_PAGEWRITE ∧
      (step environment mc op).write_enable = false) ∧
      (step environment mc op).data = mc.data := by
  have stored : stores environment mc op = [] := by
    cases op with
    | transfer data => exact if_neg fun storing => cmd storing.com
    | reset => exact if_neg fun both => cmd both.1
  refine ⟨?_,by rw [step_data,stored,lastWritten_nil]⟩
  cases op with
  | transfer data =>
      exact unlatched_transfer mc data (fun same => other (by rw [same])) cmd clear
  | reset =>
      change (fw_reset_com environment mc).com ≠ _ ∧ (fw_reset_com environment mc).write_enable = _
      rw [fw_reset_com_com,fw_reset_com_latch,if_neg cmd]
      exact ⟨by decide,clear⟩

theorem unlatched_run (ops : List Op)
    (other : ∀ op ∈ ops, op ≠ .transfer FW_CMD_WRITEENABLE) (mc : fw_memory_chip)
    (cmd : mc.com ≠ FW_CMD_PAGEWRITE) (clear : mc.write_enable = false) :
    (final (step environment) mc ops).data = mc.data := by
  induction ops generalizing mc with
  | nil => rfl
  | cons op rest ih =>
      obtain ⟨⟨com,enable⟩,data⟩ := unlatched_step environment mc op
        (other op List.mem_cons_self) cmd clear
      rw [final_cons,ih (fun later member => other later (List.mem_cons_of_mem op member)) _
        com enable,data]

def exchange (mc : fw_memory_chip) : List u8 → fw_memory_chip × List u8
  | [] => (mc, [])
  | data :: rest =>
      let next := fw_transfer mc data
      let later := exchange next.1 rest
      (later.1, next.2 :: later.2)

def address (high middle low : u8) : u32 :=
  ((0 ||| (high.setWidth 32 <<< 16)) ||| (middle.setWidth 32 <<< 8)) ||| (low.setWidth 32 <<< 0)

theorem transfer_address (data : u8) (shift : u8) (addr : u32)
    (addressed : mc.com = FW_CMD_READ ∨ mc.com = FW_CMD_PAGEWRITE) (more : 0 < shift) :
    fw_transfer { mc with addr := addr, addr_shift := shift } data =
      ({ mc with
          addr := addr ||| (data.setWidth 32 <<< ((shift - 1).toNat * 8))
          addr_shift := shift - 1 }, data) := by
  unfold fw_transfer fw_addressed
  rw [if_pos addressed,if_pos more]

theorem exchange_address (high middle low : u8) (rest : List u8)
    (addressed : mc.com = FW_CMD_READ ∨ mc.com = FW_CMD_PAGEWRITE) :
    exchange { mc with addr := 0, addr_shift := 3 } (high :: middle :: low :: rest) =
      ((exchange { mc with addr := address high middle low, addr_shift := 0 } rest).1,
        high :: middle :: low ::
          (exchange { mc with addr := address high middle low, addr_shift := 0 } rest).2) := by
  simp only [exchange]
  rw [transfer_address mc high 3 0 addressed (by decide)]
  simp only
  rw [transfer_address mc middle (3 - 1) _ addressed (by decide)]
  simp only
  rw [transfer_address mc low (3 - 1 - 1) _ addressed (by decide)]
  rfl

theorem transfer_read (reading : Reading mc) :
    fw_transfer mc data = ({ mc with addr := mc.addr + 1 }, mc.data mc.addr.toNat) := by
  unfold fw_transfer fw_addressed
  rw [if_pos (Or.inl reading.com),if_neg ((shift_zero_iff mc).mpr reading.addressed),
    if_pos reading.com,if_pos reading.inside]

theorem exchange_read (com : mc.com = FW_CMD_READ)
    (addressed : mc.addr_shift = 0) (dummies : List u8)
    (inside : mc.addr.toNat + dummies.length ≤ mc.size.toNat) :
    (exchange mc dummies).2 = slice mc.data mc.addr.toNat dummies.length := by
  induction dummies generalizing mc with
  | nil => rfl
  | cons dummy dummies ih =>
      have below : mc.addr < mc.size := by
        rw [BitVec.lt_def]
        rw [List.length_cons] at inside
        omega
      have next : (mc.addr + 1).toNat = mc.addr.toNat + 1 := by
        rw [BitVec.toNat_add]
        have bound := mc.size.isLt
        rw [List.length_cons] at inside
        exact Nat.mod_eq_of_lt (by change mc.addr.toNat + 1 < 2 ^ 32; omega)
      have later := ih { mc with addr := mc.addr + 1 } com addressed (by
        rw [List.length_cons] at inside
        change (mc.addr + 1).toNat + _ ≤ mc.size.toNat
        rw [next]
        omega)
      simp only [exchange,transfer_read mc dummy ⟨com,addressed,below⟩]
      rw [later]
      unfold slice
      rw [List.length_cons,List.range_succ_eq_map,List.map_cons,List.map_map]
      refine congrArg (List.cons _) (List.map_congr_left fun i _ => ?_)
      change mc.data ((mc.addr + 1).toNat + i) = mc.data (mc.addr.toNat + (i + 1))
      rw [next,Nat.add_assoc,Nat.add_comm 1 i]

/-- Command bytes: none of the commands that take the bytes behind them is on. -/
structure Commanding (mc : fw_memory_chip) : Prop where
  read : mc.com ≠ FW_CMD_READ
  page : mc.com ≠ FW_CMD_PAGEWRITE
  identify : mc.com ≠ FW_CMD_READ_ID
  status : mc.com ≠ FW_CMD_READSTATUS

theorem Commanding.transfer {mc : fw_memory_chip} (commanding : Commanding mc) (data : u8) :
    fw_transfer mc data = fw_command mc data := by
  unfold fw_transfer
  rw [if_neg (fun either => either.elim commanding.read commanding.page),
    if_neg commanding.identify,if_neg commanding.status]

theorem exchange_read_command (commanding : Commanding mc)
    (high middle low : u8) (dummies : List u8)
    (inside : (address high middle low).toNat + dummies.length ≤ mc.size.toNat) :
    (exchange mc (FW_CMD_READ :: high :: middle :: low :: dummies)).2 =
      FW_CMD_READ :: high :: middle :: low ::
        slice mc.data (address high middle low).toNat dummies.length := by
  have started : fw_transfer mc FW_CMD_READ =
      ({ mc with addr := 0, addr_shift := 3, com := FW_CMD_READ }, FW_CMD_READ) :=
    commanding.transfer FW_CMD_READ
  have addressing := exchange_address { mc with com := FW_CMD_READ } high middle low dummies
    (Or.inl rfl)
  have bytes := exchange_read
    { mc with com := FW_CMD_READ, addr := address high middle low, addr_shift := 0 }
    rfl rfl dummies inside
  rw [exchange]
  simp only [started]
  rw [addressing]
  simp only
  rw [bytes]

/-- What holds of the flash in a state that a run reached, with everything that
was stored before it: a byte of a read is the last one stored at its address, and
a byte is stored inside the chip and with the latch set only. -/
structure ByteArray (start mc : fw_memory_chip) (log : List (Nat × u8)) : Prop where
  contents : mc.data = lastWritten start.data log
  reads : Reading mc → ∀ dummy,
    (fw_transfer mc dummy).2 = lastWritten start.data log mc.addr.toNat ∧
      (fw_transfer mc dummy).1 = { mc with addr := mc.addr + 1 }
  writes : ∀ environment data, ∀ write ∈ stores environment mc (.transfer data),
    write.1 < mc.size.toNat ∧ mc.write_enable = true

theorem byteArray_of_run (latched : Latched start) (ops : List Op) :
    ByteArray start (logged (traceStep environment) start ops).1
      (logged (traceStep environment) start ops).2 := by
  obtain ⟨contents,latch⟩ := run_stored environment start latched ops
  refine ⟨contents,fun reading dummy => ?_, fun environment data write member => ?_⟩
  · rw [transfer_read _ dummy reading,← contents]
    exact ⟨rfl,rfl⟩
  · change write ∈ storedByte _ data at member
    unfold storedByte at member
    split at member
    · rename_i storing
      rw [List.mem_singleton.mp member]
      exact ⟨storing.inside,latch storing.com⟩
    · exact absurd member List.not_mem_nil

/-- From a chip outside a page write, in every run of bytes and resets: the
contents are what was last stored, reads give them, and bytes are stored inside
the chip and with the latch set only. A read command gives the bytes from its
address on. A page write that is refused changes nothing, the end of one clears
the latch, and with the latch clear nothing is stored until its command comes. -/
theorem flash_is_byte_array :
    (∀ (environment : Environment) (start : fw_memory_chip), start.com ≠ FW_CMD_PAGEWRITE →
      ∀ ops : List Op, ByteArray start (logged (traceStep environment) start ops).1
        (logged (traceStep environment) start ops).2) ∧
    (∀ mc : fw_memory_chip, Commanding mc → ∀ (high middle low : u8) (dummies : List u8),
      (address high middle low).toNat + dummies.length ≤ mc.size.toNat →
      (exchange mc (FW_CMD_READ :: high :: middle :: low :: dummies)).2 =
        FW_CMD_READ :: high :: middle :: low ::
          slice mc.data (address high middle low).toNat dummies.length) ∧
    (∀ mc : fw_memory_chip, Commanding mc → mc.write_enable = false →
      fw_transfer mc FW_CMD_PAGEWRITE = (mc, 0)) ∧
    (∀ (environment : Environment) (mc : fw_memory_chip), mc.com = FW_CMD_PAGEWRITE →
      (fw_reset_com environment mc).write_enable = false) ∧
    ∀ (environment : Environment) (mc : fw_memory_chip), mc.com ≠ FW_CMD_PAGEWRITE →
      mc.write_enable = false → ∀ ops : List Op,
      (∀ op ∈ ops, op ≠ .transfer FW_CMD_WRITEENABLE) →
      (final (step environment) mc ops).data = mc.data := by
  refine ⟨fun environment start outside ops => ?_, exchange_read_command,
    fun mc commanding clear => ?_, fun environment mc page => ?_, ?_⟩
  · exact byteArray_of_run environment start (fun page => absurd page outside) ops
  · rw [commanding.transfer]
    unfold fw_command
    rw [clear]
    rfl
  · rw [fw_reset_com_latch,if_pos page]
  · exact fun environment mc cmd clear ops other =>
      unlatched_run environment ops other mc cmd clear

/-- A chip of 256 KiB that holds zeros, after `mc_init` and `mc_alloc`. -/
def zeroChip : fw_memory_chip :=
  { com := 0
    addr := 0
    addr_shift := 0
    write_enable := false
    data := fun _ => 0
    size := 0x40000
    writeable_buffer := true
    isFirmware := true
    fp := none
    userfile := none }

/-- A byte is written to 0x102 and read back. -/
theorem flash_is_byte_array_read :
    (exchange (final (step ⟨false,false,none⟩) zeroChip
        [.transfer 0x06,.reset,.transfer 0x0A,.transfer 0,.transfer 1,.transfer 2,
          .transfer 0xAA,.reset])
      (FW_CMD_READ :: 0 :: 1 :: 2 :: [0])).2 =
      FW_CMD_READ :: 0 :: 1 :: 2 ::
        slice (final (step ⟨false,false,none⟩) zeroChip
          [.transfer 0x06,.reset,.transfer 0x0A,.transfer 0,.transfer 1,.transfer 2,
            .transfer 0xAA,.reset]).data (address 0 1 2).toNat 1 :=
  flash_is_byte_array.2.1 _ ⟨by decide,by decide,by decide,by decide⟩ 0 1 2 [0] (by decide)

def savingEnvironment : Environment := ⟨true,true,some 0x3FE00⟩

def settingsWrite : List Op :=
  [.transfer 0x06,.reset,.transfer 0x0A,.transfer 0x03,.transfer 0xFE,.transfer 0,
    .transfer 0xAA,.reset]

/-- It is read at the same place of the second area too, where the last byte that a
page write stored is none. -/
theorem settings_copy_read :
    (exchange (final (step savingEnvironment) zeroChip settingsWrite)
        [FW_CMD_READ,0x03,0xFF,0,0]).2 = [FW_CMD_READ,0x03,0xFF,0,0xAA] ∧
      lastWritten zeroChip.data (logged (fun mc op => (step savingEnvironment mc op,
        pageStores mc op)) zeroChip settingsWrite).2 0x3FF00 = 0 := by
  decide +kernel

end Desmume.Firmware
