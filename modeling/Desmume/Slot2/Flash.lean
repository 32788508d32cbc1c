/-
The cartridge flash as flash memory.

The abstract flash is a selected bank, whether it answers with its ids, and the
log of what was programmed and erased: a place reads as the value last written
to it.
-/

import Desmume.Lib.Run
import Desmume.Slot2.GbaCart

namespace Desmume.Slot2

open Backup LastWrite Overwrite

abbrev Place := u8 × u16

structure Flash where
  bank : u8
  identifying : Bool
  deriving DecidableEq, Repr

/-- The command sequences of the chip, and reads. -/
inductive Sequence
  | programByte (addr : u16) (val : u8)
  | eraseSector (addr : u16)
  | selectBank (bank : u8)
  | enterId
  | leaveId
  | reset
  | read (addr : u16)
  deriving DecidableEq, Repr

variable (addr : u16)

def sectorOf (off : Nat) : u16 := (addr &&& 0xF000) + BitVec.ofNat 16 off

def erasure (bank : u8) (addr : u16) : List (Place × u8) :=
  (List.range 0x1000).map fun off => ((bank, sectorOf addr off), 0xFF)

def Flash.command (flash : Flash) : Sequence → Flash × List (Place × u8)
  | .programByte addr val => (flash, [((flash.bank, addr), val)])
  | .eraseSector addr => (flash, erasure flash.bank addr)
  | .selectBank bank => ({ flash with bank := bank }, [])
  | .enterId => ({ flash with identifying := true }, [])
  | .leaveId => ({ flash with identifying := false }, [])
  | .reset => ({ flash with identifying := false }, [])
  | .read _ => (flash, [])

def Sequence.WellFormed (banks : Nat) : Sequence → Prop
  | .selectBank bank => bank.toNat < banks
  | _ => True

def window : u32 := (0x0A00 : u16) ++ addr

def unlock (cmd : u8) : List (u16 × u8) :=
  [(0x5555, 0xAA),(0x2AAA, 0x55),(0x5555, cmd)]

def busWrites : Sequence → List (u16 × u8)
  | .programByte addr val => unlock 0xA0 ++ [(addr, val)]
  | .eraseSector addr => unlock 0x80 ++ [(0x5555, 0xAA),(0x2AAA, 0x55),(addr, 0x30)]
  | .selectBank bank => unlock 0xB0 ++ [(0x0000, bank)]
  | .enterId => unlock 0x90
  | .leaveId => unlock 0xF0
  | .reset => [(0x5555, 0xF0)]
  | .read _ => []

namespace Slot2_GbaCart

variable (cart : Slot2_GbaCart)

def send (writes : List (u16 × u8)) : Slot2_GbaCart :=
  writes.foldl (fun cart write => cart.writeByte (window write.1) write.2) cart

def perform : Sequence → Slot2_GbaCart
  | .read addr => (cart.readByte (window addr)).1
  | sequence => cart.send (busWrites sequence)

end Slot2_GbaCart

theorem window_toNat : (window addr).toNat = 0x0A000000 + addr.toNat := by
  unfold window
  rw [BitVec.toNat_append,← Nat.shiftLeft_add_eq_or_of_lt addr.isLt]
  rfl

theorem window_inj (first second : u16) : window first = window second ↔ first = second := by
  constructor
  · intro same
    have values := congrArg BitVec.toNat same
    rw [window_toNat,window_toNat] at values
    exact BitVec.eq_of_toNat_eq (by omega)
  · rintro rfl
    rfl

theorem window_inside : 0x0A000000 ≤ window addr ∧ window addr < 0x0A010000 := by
  have bound := addr.isLt
  constructor
  · rw [BitVec.le_def,window_toNat]
    exact Nat.le_add_right _ _
  · rw [BitVec.lt_def,window_toNat]
    change 0x0A000000 + addr.toNat < 0x0A010000
    omega

theorem window_eq_command :
    window addr = 0x0A005555#32 ↔ addr = 0x5555#16 := window_inj addr 0x5555

theorem window_eq_unlock :
    window addr = 0x0A002AAA#32 ↔ addr = 0x2AAA#16 := window_inj addr 0x2AAA

theorem window_masked : window addr &&& 0x1FFFF = addr.setWidth 32 := by
  apply BitVec.eq_of_toNat_eq
  have bound := addr.isLt
  rw [BitVec.toNat_and,window_toNat,BitVec.toNat_setWidth]
  change (0x0A000000 + addr.toNat) &&& (2 ^ 17 - 1) = _
  rw [Nat.and_two_pow_sub_one_eq_mod]
  omega

theorem window_sector : window addr &&& 0x0000F000 = (addr &&& 0xF000).setWidth 32 := by
  apply BitVec.eq_of_getLsbD_eq
  intro i inside
  unfold window
  simp only [BitVec.getLsbD_and,BitVec.getLsbD_append,BitVec.getLsbD_setWidth]
  interval_cases i <;> simp

namespace Slot2_GbaCart

def IsFlash (cart : Slot2_GbaCart) : Prop :=
  cart.fSRAM.isNone = false ∧ (cart.saveType = 3 ∨ cart.saveType = 5)

variable {cart : Slot2_GbaCart}

theorem writeByte_window (flash : cart.IsFlash) (addr : u16) (val : u8) :
    cart.writeByte (window addr) val = cart.gbaWriteFlash (window addr) val := by
  unfold writeByte
  rw [if_pos (window_inside addr),if_pos flash.2]

theorem readByte_window (flash : cart.IsFlash) (addr : u16) :
    cart.readByte (window addr) = cart.gbaReadFlash (window addr) := by
  have inside := window_inside addr
  unfold readByte
  rw [if_neg (BitVec.not_lt.mpr inside.1),if_pos inside.2,if_pos flash.2]

@[simp] theorem setMode_setMode (cart : Slot2_GbaCart) (st cmd state' cmd' : u8) :
    (cart.setMode st cmd).setMode state' cmd' = cart.setMode state' cmd' := rfl

@[simp] theorem setMode_state (cart : Slot2_GbaCart) (st cmd : u8) :
    (cart.setMode st cmd).gbaFlash.state = st := rfl

@[simp] theorem setMode_cmd (cart : Slot2_GbaCart) (st cmd : u8) :
    (cart.setMode st cmd).gbaFlash.cmd = cmd := rfl

@[simp] theorem setMode_bank (cart : Slot2_GbaCart) (st cmd : u8) :
    (cart.setMode st cmd).gbaFlash.bank = cart.gbaFlash.bank := rfl

@[simp] theorem setMode_fSRAM (cart : Slot2_GbaCart) (st cmd : u8) :
    (cart.setMode st cmd).fSRAM = cart.fSRAM := rfl

theorem IsFlash.setMode (flash : cart.IsFlash) (st cmd : u8) :
    (cart.setMode st cmd).IsFlash := flash

theorem setMode_self {st cmd : u8}
    (sameState : cart.gbaFlash.state = st) (sameCmd : cart.gbaFlash.cmd = cmd) :
    cart.setMode st cmd = cart := by
  subst sameState sameCmd
  rfl

theorem send_mode (flash : cart.IsFlash) {st cmd next cmd' : u8}
    {addr : u16} {val : u8} (rest : List (u16 × u8)) (moves : ∀ cart : Slot2_GbaCart, cart.IsFlash →
      (cart.setMode st cmd).gbaWriteFlash (window addr) val = cart.setMode next cmd') :
    (cart.setMode st cmd).send ((addr, val) :: rest) =
      (cart.setMode next cmd').send rest := by
  unfold send
  rw [List.foldl_cons,writeByte_window (flash.setMode st cmd),moves cart flash]

def commandState (cmd : u8) : u8 :=
  if cmd = 0x80 then 0x80 else if cmd = 0x90 then 0x90 else 0

theorem send_unlock (flash : cart.IsFlash) (cmd command : u8) (rest : List (u16 × u8)) :
    (cart.setMode 0 cmd).send (unlock command ++ rest) =
      (cart.setMode (commandState command) command).send rest := by
  have first (cart : Slot2_GbaCart) (flash : cart.IsFlash) :
      (cart.setMode 0 cmd).gbaWriteFlash (window 0x5555) 0xAA = cart.setMode 1 cmd := by
    simp [gbaWriteFlash,setState,flash.1,window_eq_command]
  have second (cart : Slot2_GbaCart) (flash : cart.IsFlash) :
      (cart.setMode 1 cmd).gbaWriteFlash (window 0x2AAA) 0x55 = cart.setMode 2 cmd := by
    simp [gbaWriteFlash,setState,flash.1,window_eq_unlock]
  have third (cart : Slot2_GbaCart) (flash : cart.IsFlash) :
      (cart.setMode 2 cmd).gbaWriteFlash (window 0x5555) command =
        cart.setMode (commandState command) command := by
    simp [gbaWriteFlash,commandState,flash.1,window_eq_command]
  unfold unlock
  simp only [List.cons_append,List.nil_append]
  rw [send_mode flash _ first,send_mode flash _ second,send_mode flash _ third]

theorem send_erase_unlock (flash : cart.IsFlash) (cmd : u8) (rest : List (u16 × u8)) :
    (cart.setMode 0x80 cmd).send ((0x5555, 0xAA) :: (0x2AAA, 0x55) :: rest) =
      (cart.setMode 0x82 cmd).send rest := by
  have first (cart : Slot2_GbaCart) (flash : cart.IsFlash) :
      (cart.setMode 0x80 cmd).gbaWriteFlash (window 0x5555) 0xAA = cart.setMode 0x81 cmd := by
    simp [gbaWriteFlash,setState,flash.1,window_eq_command]
  have second (cart : Slot2_GbaCart) (flash : cart.IsFlash) :
      (cart.setMode 0x81 cmd).gbaWriteFlash (window 0x2AAA) 0x55 = cart.setMode 0x82 cmd := by
    simp [gbaWriteFlash,setState,flash.1,window_eq_unlock]
  rw [send_mode flash _ first,send_mode flash _ second]

theorem send_id_leave (flash : cart.IsFlash) (cmd : u8) :
    (cart.setMode 0x90 cmd).send (unlock 0xF0) = cart.setMode 0 0 := by
  have first (cart : Slot2_GbaCart) (flash : cart.IsFlash) :
      (cart.setMode 0x90 cmd).gbaWriteFlash (window 0x5555) 0xAA = cart.setMode 0x91 cmd := by
    simp [gbaWriteFlash,setState,flash.1,window_eq_command]
  have second (cart : Slot2_GbaCart) (flash : cart.IsFlash) :
      (cart.setMode 0x91 cmd).gbaWriteFlash (window 0x2AAA) 0x55 = cart.setMode 0x92 cmd := by
    simp [gbaWriteFlash,setState,flash.1,window_eq_unlock]
  have third (cart : Slot2_GbaCart) (flash : cart.IsFlash) :
      (cart.setMode 0x92 cmd).gbaWriteFlash (window 0x5555) 0xF0 = cart.setMode 0 0 := by
    simp [gbaWriteFlash,flash.1]
  unfold unlock
  rw [send_mode flash _ first,send_mode flash _ second,send_mode flash _ third]
  rfl

theorem send_single (cart : Slot2_GbaCart) (addr : u16) (val : u8) :
    cart.send [(addr, val)] = cart.writeByte (window addr) val := rfl

theorem perform_programByte (flash : cart.IsFlash) (addr : u16)
    (val : u8) (plain : addr = 0x5555 → val ≠ 0xAA ∧ val ≠ 0xF0) :
    (cart.setMode 0 0).perform (.programByte addr val) =
      (cart.writeSRAM (addr.setWidth 32 + cart.bankBase) [val]).setMode 0 0 := by
  have notReset : ¬(window addr = 0x0A005555 ∧ val = 0xF0) := fun ⟨here,reset⟩ =>
    (plain ((window_eq_command addr).mp here)).2 reset
  have notUnlock : ¬(window addr = 0x0A005555 ∧ val = 0xAA) := fun ⟨here,unlocks⟩ =>
    (plain ((window_eq_command addr).mp here)).1 unlocks
  change (cart.setMode 0 0).send (unlock 0xA0 ++ [(addr, val)]) = _
  rw [send_unlock flash,show commandState 0xA0 = 0 from rfl,send_single,
    writeByte_window (flash.setMode 0 0xA0)]
  unfold gbaWriteFlash
  rw [setMode_fSRAM,flash.1,setMode_state,setMode_cmd,if_neg Bool.false_ne_true,
    if_pos rfl,if_neg notReset,if_neg notUnlock,if_neg (fun both => absurd both.2 (by decide))]
  unfold writePending
  rw [setMode_cmd,if_pos rfl,window_masked]
  rfl

theorem perform_eraseSector (flash : cart.IsFlash) (addr : u16) :
    (cart.setMode 0 0).perform (.eraseSector addr) =
      (cart.writeSRAM ((addr &&& 0xF000).setWidth 32 + cart.bankBase) erasedSector).setMode
        0 0 := by
  change (cart.setMode 0 0).send
    (unlock 0x80 ++ [(0x5555, 0xAA),(0x2AAA, 0x55),(addr, 0x30)]) = _
  rw [send_unlock flash,show commandState 0x80 = 0x80 from rfl,send_erase_unlock flash,
    send_single,writeByte_window (flash.setMode 0x82 0x80)]
  have erases : (cart.setMode 0x82 0x80).gbaWriteFlash (window addr) 0x30 =
      ((cart.setMode 0x82 0x80).writeSRAM ((window addr &&& 0x0000F000) + cart.bankBase)
        erasedSector).setMode 0 0 := by
    simp [gbaWriteFlash,flash.1]
    rfl
  rw [erases,window_sector]
  rfl

theorem perform_selectBank (flash : cart.IsFlash) (bank : u8) :
    (cart.setMode 0 0).perform (.selectBank bank) =
      { cart with gbaFlash := { cart.gbaFlash with state := 0, cmd := 0, bank := bank } } := by
  change (cart.setMode 0 0).send (unlock 0xB0 ++ [(0x0000, bank)]) = _
  rw [send_unlock flash,show commandState 0xB0 = 0 from rfl,send_single,
    writeByte_window (flash.setMode 0 0xB0)]
  unfold gbaWriteFlash
  rw [setMode_fSRAM,flash.1,setMode_state,setMode_cmd,if_neg Bool.false_ne_true,
    if_pos rfl,if_neg (fun both => absurd both.1 (by decide)),
    if_neg (fun both => absurd both.1 (by decide)),if_pos ⟨rfl,rfl⟩]
  rfl

theorem perform_enterId (flash : cart.IsFlash) :
    (cart.setMode 0 0).perform .enterId = cart.setMode 0x90 0x90 := by
  change (cart.setMode 0 0).send (unlock 0x90) = _
  rw [← List.append_nil (unlock 0x90),send_unlock flash]
  rfl

theorem perform_reset (flash : cart.IsFlash) :
    (cart.setMode 0 0).perform .reset = cart.setMode 0 0 := by
  change (cart.setMode 0 0).send [(0x5555, 0xF0)] = _
  rw [send_single,writeByte_window (flash.setMode 0 0)]
  simp [gbaWriteFlash,flash.1,window_eq_command]

end Slot2_GbaCart

structure Stores (banks : Nat) (cells : Place → u8) (file : EMUFILE) : Prop where
  length : file.bytes.length = 0x10000 * banks
  cell : ∀ place : Place, place.1.toNat < banks →
    file.bytes[0x10000 * place.1.toNat + place.2.toNat]? = some (cells place)

theorem filePos_toNat (bank : u8) (addr : u16) :
    (addr.setWidth 32 + 0x10000 * bank.setWidth 32 : u32).toNat =
      0x10000 * bank.toNat + addr.toNat := by
  have low := addr.isLt
  have high := bank.isLt
  rw [BitVec.toNat_add,BitVec.toNat_mul,BitVec.toNat_setWidth,BitVec.toNat_setWidth,
    show (0x10000 : u32).toNat = 0x10000 from rfl]
  omega

theorem seek_place (file : EMUFILE) (bank : u8) (addr : u16) :
    file.fseek (addr.setWidth 32 + 0x10000 * bank.setWidth 32 : u32).toInt .SEEK_SET =
      { file with pos := 0x10000 * bank.toNat + addr.toNat } := by
  have low := addr.isLt
  have high := bank.isLt
  rw [EMUFILE.fseek_set file _ (by rw [filePos_toNat]; omega),filePos_toNat]

variable {cells : Place → u8} {bank : u8} {file save : EMUFILE} {prior : Slot2_GbaCart}

theorem Stores.seek {banks : Nat}
    (stores : Stores banks cells file) (pos : Nat) :
    Stores banks cells { file with pos := pos } := ⟨stores.length,stores.cell⟩

theorem Stores.program {banks : Nat}
    (stores : Stores banks cells file) (present : bank.toNat < banks) (addr : u16) (val : u8) :
    Stores banks (Function.update cells (bank, addr) val)
      ({ file with pos := 0x10000 * bank.toNat + addr.toNat }.fwrite [val]) := by
  have size := stores.length
  have low := addr.isLt
  have inside : 0x10000 * bank.toNat + addr.toNat < file.bytes.length := by omega
  rw [EMUFILE.fwrite_of_inside _ [val] (by exact inside.le)]
  constructor
  · simp only [length_overwrite,List.length_singleton]
    omega
  · intro place existing
    have below := place.2.isLt
    simp only [getElem?_overwrite_singleton 0 _ _ _ _ inside]
    by_cases same : place = (bank, addr)
    · subst same
      rw [if_pos rfl,Function.update_self]
    · rw [Function.update_of_ne same,if_neg,stores.cell place existing]
      intro here
      have sameBank : place.1 = bank := BitVec.eq_of_toNat_eq (by omega)
      have sameAddress : place.2 = addr := BitVec.eq_of_toNat_eq (by omega)
      exact same (Prod.ext sameBank sameAddress)

theorem sector_toNat : (addr &&& 0xF000).toNat = addr.toNat / 0x1000 * 0x1000 := by
  have shifted : addr &&& (0xF000 : u16) = addr >>> 12 <<< 12 := by
    apply BitVec.eq_of_getLsbD_eq
    intro i inside
    simp only [BitVec.getLsbD_and,BitVec.getLsbD_shiftLeft,BitVec.getLsbD_ushiftRight]
    interval_cases i <;> simp
  have bound := addr.isLt
  rw [shifted,BitVec.toNat_shiftLeft,BitVec.toNat_ushiftRight,Nat.shiftRight_eq_div_pow,
    Nat.shiftLeft_eq]
  omega

theorem sectorOf_toNat {off : Nat} (inside : off < 0x1000) :
    (sectorOf addr off).toNat = (addr &&& 0xF000).toNat + off := by
  have bound := addr.isLt
  unfold sectorOf
  rw [BitVec.toNat_add,BitVec.toNat_ofNat,sector_toNat]
  omega

theorem sector_mem_iff (bank : u8) (addr : u16) (place : Place) :
    (∃ off < 0x1000, (bank, sectorOf addr off) = place) ↔
      place.1 = bank ∧ (addr &&& 0xF000).toNat ≤ place.2.toNat ∧
        place.2.toNat < (addr &&& 0xF000).toNat + 0x1000 := by
  constructor
  · rintro ⟨off,inside,rfl⟩
    rw [sectorOf_toNat addr inside]
    exact ⟨rfl,by omega,by omega⟩
  · rintro ⟨sameBank,after,before⟩
    refine ⟨place.2.toNat - (addr &&& 0xF000).toNat,by omega,?_⟩
    have sameAddress :
        sectorOf addr (place.2.toNat - (addr &&& 0xF000).toNat) = place.2 := by
      apply BitVec.eq_of_toNat_eq
      rw [sectorOf_toNat addr (by omega)]
      omega
    rw [sameAddress,← sameBank]

theorem mem_erasure_iff (bank : u8) (addr : u16) (write : Place × u8) :
    write ∈ erasure bank addr ↔
      (∃ off < 0x1000, (bank, sectorOf addr off) = write.1) ∧ write.2 = 0xFF := by
  unfold erasure
  rw [List.mem_map]
  constructor
  · rintro ⟨off,member,rfl⟩
    exact ⟨⟨off,List.mem_range.mp member,rfl⟩,rfl⟩
  · rintro ⟨⟨off,inside,here⟩,erased⟩
    exact ⟨off,List.mem_range.mpr inside,Prod.ext here erased.symm⟩

theorem erased_inside (cells : Place → u8) {addr : u16} {place : Place}
    (inside : ∃ off < 0x1000, (bank, sectorOf addr off) = place) :
    lastWritten cells (erasure bank addr) place = 0xFF := by
  apply lastWritten_of_all
  · intro write member _
    exact ((mem_erasure_iff bank addr write).mp member).2
  · exact ⟨(place, 0xFF),(mem_erasure_iff bank addr _).mpr ⟨inside,rfl⟩,rfl⟩

theorem erased_outside (cells : Place → u8) {addr : u16} {place : Place}
    (outside : ¬∃ off < 0x1000, (bank, sectorOf addr off) = place) :
    lastWritten cells (erasure bank addr) place = cells place := by
  apply lastWritten_untouched
  intro write member here
  apply outside
  rw [← here]
  exact ((mem_erasure_iff bank addr write).mp member).1

theorem Stores.erase {banks : Nat}
    (stores : Stores banks cells file) (present : bank.toNat < banks)
    (addr : u16) :
    Stores banks (lastWritten cells (erasure bank addr))
      ({ file with pos := 0x10000 * bank.toNat + (addr &&& 0xF000).toNat }.fwrite
        erasedSector) := by
  have size := stores.length
  have low := addr.isLt
  have base := sector_toNat addr
  have block : erasedSector.length = 0x1000 := by
    unfold erasedSector
    exact List.length_replicate
  have inside : 0x10000 * bank.toNat + (addr &&& 0xF000).toNat + 0x1000 ≤
      file.bytes.length := by omega
  rw [EMUFILE.fwrite_of_inside _ erasedSector
    (show 0x10000 * bank.toNat + _ ≤ file.bytes.length by omega)]
  constructor
  · simp only [length_overwrite,block]
    omega
  · intro place existing
    have below := place.2.isLt
    simp only
    by_cases within : ∃ off < 0x1000, (bank, sectorOf addr off) = place
    · rw [erased_inside cells within]
      obtain ⟨sameBank,after,before⟩ := (sector_mem_iff bank addr place).mp within
      obtain ⟨off,here⟩ := Nat.exists_eq_add_of_le after
      rw [sameBank,here,← Nat.add_assoc,getElem?_overwrite_inside _ _ _ _ _ (by omega)]
      unfold erasedSector
      exact List.getElem?_replicate_of_lt (by omega)
    · rw [erased_outside cells within,← stores.cell place existing]
      by_cases front :
          0x10000 * place.1.toNat + place.2.toNat <
            0x10000 * bank.toNat + (addr &&& 0xF000).toNat
      · exact getElem?_overwrite_before _ _ _ _ _ (by omega) front
      · apply getElem?_overwrite_behind
        rw [block]
        by_contra near
        apply within
        rw [sector_mem_iff]
        have sameBank : place.1 = bank := BitVec.eq_of_toNat_eq (by omega)
        rw [sameBank] at front near
        exact ⟨sameBank,by omega,by omega⟩

/-! ### A run of command sequences -/

/-- The cartridge, the flash it stands for and the log of that flash. -/
structure Play where
  cart : Slot2_GbaCart
  flash : Flash
  log : List (Place × u8)

def Play.step (play : Play) (sequence : Sequence) : Play :=
  ⟨play.cart.perform sequence,(play.flash.command sequence).1,
    play.log ++ (play.flash.command sequence).2⟩

/-- The sequence stays off the paths that mix the modes: what is programmed at
0x5555 is no unlock and no reset, the ids are left by the unlocked F0 and by
nothing else, and the unlocked F0 is for leaving the ids. -/
def Flash.Serves (flash : Flash) : Sequence → Prop
  | .programByte addr val =>
      flash.identifying = false ∧ (addr = 0x5555 → val ≠ 0xAA ∧ val ≠ 0xF0)
  | .eraseSector _ | .selectBank _ | .enterId | .reset => flash.identifying = false
  | .leaveId => flash.identifying = true
  | .read _ => True

/-- The two mode variables and the bank are those of the flash, and the file
holds its cells. -/
structure Play.InStep (banks : Nat) (start : Place → u8) (play : Play) : Prop where
  saveType : play.cart.saveType = 3 ∨ play.cart.saveType = 5
  bank : play.cart.gbaFlash.bank = play.flash.bank
  existing : play.flash.bank.toNat < banks
  mode : play.cart.gbaFlash.state = (if play.flash.identifying then 0x90 else 0) ∧
    play.cart.gbaFlash.cmd = (if play.flash.identifying then 0x90 else 0)
  file : ∃ file, play.cart.fSRAM = some file ∧
    Stores banks (lastWritten start play.log) file

section
open Slot2_GbaCart

variable {banks : Nat} {start : Place → u8} {play : Play}

theorem Play.InStep.isFlash (inStep : play.InStep banks start) : play.cart.IsFlash := by
  obtain ⟨file,present,-⟩ := inStep.file
  refine ⟨?_,inStep.saveType⟩
  rw [present]
  rfl

theorem Play.InStep.idle (inStep : play.InStep banks start)
    (array : play.flash.identifying = false) : play.cart = play.cart.setMode 0 0 := by
  have mode := inStep.mode
  rw [array] at mode
  exact (setMode_self mode.1 mode.2).symm

variable {cart : Slot2_GbaCart}

theorem writeSRAM_stores {file : EMUFILE} (present : cart.fSRAM = some file)
    (addr : u16) (data : List u8) :
    (cart.writeSRAM (addr.setWidth 32 + cart.bankBase) data).fSRAM =
      some ({ file with pos := 0x10000 * cart.gbaFlash.bank.toNat + addr.toNat }.fwrite
        data) := by
  unfold writeSRAM bankBase
  rw [present,Option.map_some,seek_place]

theorem Play.InStep.programByte (inStep : play.InStep banks start) {addr : u16} {val : u8}
    (serves : play.flash.Serves (.programByte addr val)) :
    (play.step (.programByte addr val)).InStep banks start := by
  obtain ⟨array,plain⟩ := serves
  have idle := inStep.idle array
  obtain ⟨file,present,stores⟩ := inStep.file
  unfold Play.step
  rw [idle,perform_programByte inStep.isFlash addr val plain]
  refine ⟨inStep.saveType,inStep.bank,inStep.existing,?_,?_⟩
  · change _ = (if play.flash.identifying then _ else _) ∧
      _ = (if play.flash.identifying then _ else _)
    rw [array]
    exact ⟨rfl,rfl⟩
  · refine ⟨_,writeSRAM_stores present addr [val],?_⟩
    change Stores banks (lastWritten start (play.log ++ [((play.flash.bank, addr), val)])) _
    rw [lastWritten_snoc,inStep.bank]
    exact stores.program inStep.existing addr val

theorem Play.InStep.eraseSector (inStep : play.InStep banks start) {addr : u16}
    (array : play.flash.identifying = false) :
    (play.step (.eraseSector addr)).InStep banks start := by
  have idle := inStep.idle array
  obtain ⟨file,present,stores⟩ := inStep.file
  unfold Play.step
  rw [idle,perform_eraseSector inStep.isFlash addr]
  refine ⟨inStep.saveType,inStep.bank,inStep.existing,?_,?_⟩
  · change _ = (if play.flash.identifying then _ else _) ∧
      _ = (if play.flash.identifying then _ else _)
    rw [array]
    exact ⟨rfl,rfl⟩
  · refine ⟨_,writeSRAM_stores present (addr &&& 0xF000) erasedSector,?_⟩
    simp only [Flash.command,lastWritten_append]
    rw [inStep.bank]
    exact stores.erase inStep.existing addr

theorem Play.InStep.selectBank (inStep : play.InStep banks start) {bank : u8}
    (array : play.flash.identifying = false) (existing : bank.toNat < banks) :
    (play.step (.selectBank bank)).InStep banks start := by
  have idle := inStep.idle array
  obtain ⟨file,present,stores⟩ := inStep.file
  unfold Play.step
  rw [idle,perform_selectBank inStep.isFlash bank]
  refine ⟨inStep.saveType,rfl,existing,?_,file,present,?_⟩
  · change _ = (if play.flash.identifying then _ else _) ∧
      _ = (if play.flash.identifying then _ else _)
    rw [array]
    exact ⟨rfl,rfl⟩
  · rw [show (play.flash.command (.selectBank bank)).2 = [] from rfl,List.append_nil]
    exact stores

theorem Play.InStep.moved (inStep : play.InStep banks start) {sequence : Sequence}
    {identifying : Bool} (mode : u8) (known : mode = if identifying then 0x90 else 0)
    (cmd : play.flash.command sequence =
      ({ play.flash with identifying := identifying }, []))
    (performed : play.cart.perform sequence = play.cart.setMode mode mode) :
    (play.step sequence).InStep banks start := by
  obtain ⟨file,present,stores⟩ := inStep.file
  unfold Play.step
  rw [cmd,performed,List.append_nil]
  exact ⟨inStep.saveType,inStep.bank,inStep.existing,⟨known,known⟩,file,present,stores⟩

theorem Play.InStep.enterId (inStep : play.InStep banks start)
    (array : play.flash.identifying = false) : (play.step .enterId).InStep banks start := by
  refine inStep.moved 0x90 rfl rfl ?_
  rw [inStep.idle array,perform_enterId inStep.isFlash]
  rfl

theorem Play.InStep.reset (inStep : play.InStep banks start)
    (array : play.flash.identifying = false) : (play.step .reset).InStep banks start := by
  refine inStep.moved 0 rfl rfl ?_
  rw [inStep.idle array,perform_reset inStep.isFlash]
  rfl

theorem Play.InStep.leaveId (inStep : play.InStep banks start)
    (identifying : play.flash.identifying = true) : (play.step .leaveId).InStep banks start := by
  refine inStep.moved 0 rfl rfl ?_
  have mode := inStep.mode
  rw [identifying] at mode
  have here : play.cart = play.cart.setMode 0x90 0x90 := (setMode_self mode.1 mode.2).symm
  rw [here]
  exact send_id_leave inStep.isFlash 0x90

theorem storedOver_low (bytes : List u8) : (storedOver bytes).setWidth 8 = bytes.getD 0 0xFF := by
  apply BitVec.eq_of_getLsbD_eq
  intro i inside
  unfold storedOver
  simp only [BitVec.getLsbD_setWidth,BitVec.getLsbD_append,inside,decide_true,Bool.true_and,
    if_true]

theorem readFile_place (file : EMUFILE) (bank : u8) (addr : u16) (size : Nat) :
    readFile (some file) (addr.setWidth 32 + 0x10000 * bank.setWidth 32) size =
      (some ({ file with pos := 0x10000 * bank.toNat + addr.toNat }.fread size).1,
        storedOver ({ file with pos := 0x10000 * bank.toNat + addr.toNat }.fread size).2) := by
  unfold readFile
  simp only [seek_place]

theorem readByte_array {file : EMUFILE} (flash : cart.IsFlash)
    (present : cart.fSRAM = some file) (clear : cart.gbaFlash.cmd = 0) (addr : u16) :
    (cart.readByte (window addr)).2 =
        (file.bytes[0x10000 * cart.gbaFlash.bank.toNat + addr.toNat]?).getD 0xFF ∧
      ∃ pos, (cart.readByte (window addr)).1 =
        { cart with fSRAM := some { file with pos := pos } } := by
  rw [readByte_window flash]
  unfold gbaReadFlash readSRAM bankBase
  rw [flash.1,if_neg Bool.false_ne_true,if_pos clear,present,window_masked,readFile_place]
  constructor
  · simp only [storedOver_low]
    simp only [EMUFILE.fread,List.getD_eq_getElem?_getD,List.getElem?_take,List.getElem?_drop,
      Nat.add_zero,Nat.zero_lt_one,if_true]
  · exact ⟨_,rfl⟩

theorem readByte_id (flash : cart.IsFlash) (identifying : cart.gbaFlash.cmd = 0x90) (addr : u16) :
    (cart.readByte (window addr)).1 = cart := by
  rw [readByte_window flash]
  unfold gbaReadFlash
  rw [flash.1,if_neg Bool.false_ne_true,identifying,
    if_neg (show (0x90 : u8) ≠ 0 by decide),if_pos rfl]
  split
  · rfl
  · split <;> rfl

theorem Play.InStep.read (inStep : play.InStep banks start) (addr : u16) :
    (play.step (.read addr)).InStep banks start := by
  obtain ⟨file,present,stores⟩ := inStep.file
  unfold Play.step
  rw [show play.flash.command (.read addr) = (play.flash, []) from rfl,List.append_nil]
  have mode := inStep.mode
  change Play.InStep banks start ⟨(play.cart.readByte (window addr)).1,play.flash,play.log⟩
  cases identifying : play.flash.identifying with
  | true =>
      rw [identifying] at mode
      rw [readByte_id inStep.isFlash mode.2]
      exact inStep
  | false =>
      rw [identifying] at mode
      obtain ⟨-,pos,moved⟩ := readByte_array inStep.isFlash present mode.2 addr
      rw [moved]
      exact ⟨inStep.saveType,inStep.bank,inStep.existing,inStep.mode,_,rfl,
        stores.seek pos⟩

theorem Play.InStep.step (inStep : play.InStep banks start) {sequence : Sequence}
    (wellFormed : sequence.WellFormed banks) (serves : play.flash.Serves sequence) :
    (play.step sequence).InStep banks start := by
  cases sequence with
  | programByte addr val => exact inStep.programByte serves
  | eraseSector addr => exact inStep.eraseSector serves
  | selectBank bank => exact inStep.selectBank serves wellFormed
  | enterId => exact inStep.enterId serves
  | leaveId => exact inStep.leaveId serves
  | reset => exact inStep.reset serves
  | read addr => exact inStep.read addr

/-- The save file has its size, and outside the id mode every read gives the
byte last written to its place. -/
def Play.Faithful (banks : Nat) (start : Place → u8) (play : Play) : Prop :=
  (∀ file, play.cart.fSRAM = some file → file.bytes.length = 0x10000 * banks) ∧
    (play.flash.identifying = false → ∀ addr,
      (play.cart.readByte (window addr)).2 =
        lastWritten start play.log (play.flash.bank, addr))

theorem Play.InStep.faithful (inStep : play.InStep banks start) : play.Faithful banks start := by
  obtain ⟨file,present,stores⟩ := inStep.file
  constructor
  · intro other same
    rw [present] at same
    obtain rfl := Option.some.inj same
    exact stores.length
  · intro array addr
    have clear := inStep.mode.2
    rw [array] at clear
    rw [(readByte_array inStep.isFlash present clear addr).1,inStep.bank,
      stores.cell (play.flash.bank, addr) inStep.existing]
    rfl

end

theorem connect_flash (prior : Slot2_GbaCart) (host : Host) :
    (prior.connect host).gbaFlash.cmd = prior.gbaFlash.cmd ∧
      (prior.connect host).gbaFlash.bank = prior.gbaFlash.bank ∧
      ((prior.connect host).fSRAM.isSome → (prior.connect host).gbaFlash.state = 0) := by
  unfold Slot2_GbaCart.connect
  split
  · exact ⟨rfl,rfl,fun opened => Bool.noConfusion opened⟩
  · split
    · exact ⟨rfl,rfl,fun opened => Bool.noConfusion opened⟩
    · split
      · exact ⟨rfl,rfl,fun opened => Bool.noConfusion opened⟩
      · split
        · exact ⟨rfl,rfl,fun opened => Bool.noConfusion opened⟩
        · exact ⟨rfl,rfl,fun _ => rfl⟩

def cellsOf (save : EMUFILE) (place : Place) : u8 :=
  save.bytes.getD (0x10000 * place.1.toNat + place.2.toNat) 0

theorem stores_cellsOf {banks : Nat}
    (size : save.bytes.length = 0x10000 * banks) : Stores banks (cellsOf save) save := by
  refine ⟨size,?_⟩
  intro place existing
  have below := place.2.isLt
  unfold cellsOf
  rw [List.getD_eq_getElem?_getD,List.getElem?_eq_getElem (by omega),Option.getD_some]

/-- The cartridge as it is connected, beside a flash on the bank that the
cartridge was left on. -/
def connected (prior : Slot2_GbaCart) (host : Host) : Play :=
  ⟨prior.connect host,⟨prior.gbaFlash.bank,false⟩,[]⟩

theorem connected_inStep {host : Host} {banks : Nat}
    (opened : (prior.connect host).fSRAM = some save)
    (kind : (prior.connect host).saveType = 3 ∨ (prior.connect host).saveType = 5)
    (size : save.bytes.length = 0x10000 * banks)
    (clear : prior.gbaFlash.cmd = 0) (existing : prior.gbaFlash.bank.toNat < banks) :
    (connected prior host).InStep banks (cellsOf save) := by
  obtain ⟨cmd,bank,st⟩ := connect_flash prior host
  rw [opened] at st
  exact ⟨kind,bank,existing,⟨st rfl,cmd.trans clear⟩,save,opened,stores_cellsOf size⟩

/-- A flash cartridge that is connected with `cmd` clear and an existing bank
serves every run of well-formed sequences that keeps off the mixed-up paths:
the save keeps its size, and outside the id mode each read gives the byte last
programmed or erased at its bank and address, or else the byte of the save. -/
theorem flash_reads_last_written {prior : Slot2_GbaCart} {host : Host} {save : EMUFILE}
    {banks : Nat} (opened : (prior.connect host).fSRAM = some save)
    (kind : (prior.connect host).saveType = 3 ∨ (prior.connect host).saveType = 5)
    (size : save.bytes.length = 0x10000 * banks)
    (clear : prior.gbaFlash.cmd = 0) (existing : prior.gbaFlash.bank.toNat < banks)
    {sequences : List Sequence} (served : Run.Guarded Play.step
      (fun play sequence => sequence.WellFormed banks ∧ play.flash.Serves sequence)
      (connected prior host) sequences) :
    Run.Always Play.step (Play.Faithful banks (cellsOf save)) (connected prior host)
      sequences := by
  have inStep := connected_inStep opened kind size clear existing
  have always : Run.Always Play.step (Play.InStep banks (cellsOf save)) (connected prior host)
      sequences := by
    apply Run.always_of_guarded _ inStep served
    intro play sequence inStep both
    exact inStep.step both.1 both.2
  exact always.mono (fun _ inStep => inStep.faithful)

def erasedBytes : List u8 := List.replicate 0x10000 0xFF

def erasedSave : EMUFILE := ⟨.rb_plus,erasedBytes,0⟩

/-- A ROM that names its save type `FLASH`, and the save. -/
def flashHost : Host where
  romsize := 1
  path := "game.nds"
  GBACartridge_RomPath := "cart.gba"
  GBACartridge_SRAMPath := "cart.sav"
  GetFileNameWithoutExt := id
  disk := fun name =>
    if name = "cart.gba" then some (EMUFILE.le32 FLASH ++ List.replicate 8 0)
    else some erasedBytes

def freshCart : Slot2_GbaCart := ⟨none,none,0,0,0,⟨0,0,0,0,0,0⟩⟩

theorem flashHost_opened : (freshCart.connect flashHost).fSRAM = some erasedSave := by
  simp [Slot2_GbaCart.connect,flashHost,Host.resolve,erasedSave]

theorem flashHost_kind : (freshCart.connect flashHost).saveType = 5 := by
  simp [Slot2_GbaCart.connect,flashHost,Host.resolve]
  decide

theorem erasedSave_size : erasedSave.bytes.length = 0x10000 * 1 := by
  change erasedBytes.length = _
  unfold erasedBytes
  exact List.length_replicate

theorem flash_reads_last_written_erased :
    Run.Always Play.step (Play.Faithful 1 (cellsOf erasedSave)) (connected freshCart flashHost)
      [.programByte 0x1234 0x56,.enterId,.leaveId,.eraseSector 0x1000,.selectBank 0,
        .programByte 0x5555 0xAB,.read 0x1234] := by
  refine flash_reads_last_written flashHost_opened (Or.inr flashHost_kind) erasedSave_size rfl
    Nat.zero_lt_one ⟨⟨trivial,rfl,fun here => absurd here (by decide)⟩,⟨trivial,rfl⟩,
      ⟨trivial,rfl⟩,⟨trivial,rfl⟩,⟨Nat.zero_lt_one,rfl⟩,⟨trivial,rfl,fun _ => ?_⟩,
      ⟨trivial,trivial⟩,trivial⟩
  decide

/-- Programming 0xAA at 0x5555 is taken for the start of the next command: the
byte is not written, and the place reads 0xFF. -/
theorem programmed_unlock_byte_lost :
    (freshCart.connect flashHost).fSRAM = some erasedSave ∧
      (freshCart.connect flashHost).saveType = 5 ∧
      erasedSave.bytes.length = 0x10000 ∧
      freshCart.gbaFlash.cmd = 0 ∧ freshCart.gbaFlash.bank = 0 ∧
      (Sequence.programByte 0x5555 0xAA).WellFormed 1 ∧
      ¬Run.Always Play.step (Play.Faithful 1 (cellsOf erasedSave))
        (connected freshCart flashHost) [.programByte 0x5555 0xAA] := by
  refine ⟨flashHost_opened,flashHost_kind,erasedSave_size,rfl,rfl,trivial,?_⟩
  rintro ⟨-,-,faithful⟩
  have inStep := connected_inStep flashHost_opened (Or.inr flashHost_kind) erasedSave_size rfl
    Nat.zero_lt_one
  have flash : (freshCart.connect flashHost).IsFlash := inStep.isFlash
  have idle : freshCart.connect flashHost = (freshCart.connect flashHost).setMode 0 0 :=
    inStep.idle rfl
  have after : (freshCart.connect flashHost).perform (.programByte 0x5555 0xAA) =
      (freshCart.connect flashHost).setMode 1 0xA0 := by
    rw [idle]
    change ((freshCart.connect flashHost).setMode 0 0).send (unlock 0xA0 ++ [(0x5555, 0xAA)]) = _
    rw [Slot2_GbaCart.send_unlock flash,show Slot2_GbaCart.commandState 0xA0 = 0 from rfl,
      Slot2_GbaCart.send_single,Slot2_GbaCart.writeByte_window (flash.setMode 0 0xA0)]
    simp [Slot2_GbaCart.gbaWriteFlash,Slot2_GbaCart.setState,flash.1,window_eq_command]
  have read := faithful rfl 0x5555
  have cart : ((connected freshCart flashHost).step (.programByte 0x5555 0xAA)).cart =
      (freshCart.connect flashHost).setMode 1 0xA0 := after
  rw [cart,Slot2_GbaCart.readByte_window (flash.setMode 1 0xA0)] at read
  have expected : lastWritten (cellsOf erasedSave)
      ((connected freshCart flashHost).step (.programByte 0x5555 0xAA)).log (0, 0x5555) = 0xAA :=
    (congrFun (lastWritten_singleton _ _ _) _).trans (Function.update_self _ _ _)
  have unknown : ((freshCart.connect flashHost).setMode 1 0xA0).gbaReadFlash (window 0x5555) =
      ((freshCart.connect flashHost).setMode 1 0xA0, 0xFF) := by
    simp [Slot2_GbaCart.gbaReadFlash,flash.1]
  rw [unknown] at read
  exact absurd (read.trans expected) (by decide)

end Desmume.Slot2
