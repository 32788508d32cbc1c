/-
What the check of the firmware settings is, and which area counts as current.

The check is CRC-16/ARC, as the one of the BIOS, so an area that was filled is
accepted at boot.
-/

import Desmume.Firmware.Settings

namespace Desmume.Firmware

open Crc Bios

variable (user_settings : NDS_fw_config_data)

variable (fw_data : Image) (dest_buffer : List u8)

theorem copy_of_first (data : Image) (area : Nat) (n : u32)
    (located : user_settings_offset (fill_user_data_area user_settings data area n) = area)
    (present : 0 < area) (inside : area ≤ 0x3FE00) :
    (copy_firmware_user_data dest_buffer
      (fill_user_data_area user_settings data area n)).1 = 1 := by
  have valid := user_valid_fill user_settings data area n
  generalize fill_user_data_area user_settings data area n = image at located valid
  have positive : 0 < copy_settings_offset image := by
    simp only [copy_settings_offset,located,if_pos inside,valid,if_true]
    split
    · split
      · omega
      · exact Int.natCast_pos.mpr present
    · exact Int.natCast_pos.mpr present
  simp only [copy_firmware_user_data,if_pos positive]

theorem copy_of_second (data : Image) (area : Nat) (n : u32) (located : user_settings_offset
      (fill_user_data_area user_settings data (area + 0x100) n) = area)
    (present : 0 < area) (inside : area ≤ 0x3FE00) :
    (copy_firmware_user_data dest_buffer
      (fill_user_data_area user_settings data (area + 0x100) n)).1 = 1 := by
  have valid := user_valid_fill user_settings data (area + 0x100) n
  generalize fill_user_data_area user_settings data (area + 0x100) n = image at located valid
  have positive : 0 < copy_settings_offset image := by
    simp only [copy_settings_offset,located,if_pos inside,valid,if_true]
    split
    · split
      · omega
      · exact Int.natCast_pos.mpr present
    · omega
  simp only [copy_firmware_user_data,if_pos positive]

/-- The two checks of the firmware are CRC-16/ARC, hence that of the BIOS call on
an even number of bytes, and a filled area passes the check at boot. -/
theorem firmware_crc_is_arc :
    (∀ (start : u32) (data : List u8),
      calc_CRC16 start data = (crcArc (start.setWidth 16) data).setWidth 32) ∧
    (∀ tmp_data9 tmp_data7 : List u8,
      getBootCodeCRC16 tmp_data9 tmp_data7 = crcArc 0xFFFF (tmp_data9 ++ tmp_data7)) ∧
    (∀ {Mem : Type} (memory : WideMemory Mem) (cpu : Cpu.armcpu_t) (mem : Mem)
      (crc datap size : u32), datap.toNat % 2 = 0 → size.toNat % 2 = 0 →
      (∀ i < size.toNat, memory.cell (datap + BitVec.ofNat 32 i)) →
      Bios.crc16 memory.toWideBus cpu mem crc datap size =
        calc_CRC16 crc (bytesFrom memory.toBus mem datap size.toNat)) ∧
    (∀ (user_settings : NDS_fw_config_data) (data : Image) (area : Nat) (n : u32),
      user_valid (fill_user_data_area user_settings data area n) area = true) ∧
    ∀ (user_settings : NDS_fw_config_data) (dest_buffer : List u8) (data : Image)
      (area filled : Nat) (n : u32), filled = area ∨ filled = area + 0x100 →
      user_settings_offset (fill_user_data_area user_settings data filled n) = area →
      0 < area → area ≤ 0x3FE00 →
      (copy_firmware_user_data dest_buffer
        (fill_user_data_area user_settings data filled n)).1 = 1 := by
  refine ⟨calc_CRC16_arc,getBootCodeCRC16_arc,?_,user_valid_fill,?_⟩
  · intro Mem memory cpu mem crc datap size evenStart evenSize plain
    have whole : 2 * (size.toNat / 2) = size.toNat := by omega
    have halves := @crcArc_halfwords Mem memory mem datap evenStart (size.toNat / 2)
      (by rw [whole]; exact plain) (crc.setWidth 16)
    rw [calc_CRC16_arc,← whole,← halves]
    simp only [Bios.crc16,getCRC16_R0,withArguments_R]
  · intro user_settings dest_buffer data area filled n pos located present inside
    rcases pos with rfl | rfl
    · exact copy_of_first user_settings dest_buffer data filled n located present inside
    · exact copy_of_second user_settings dest_buffer data area n located present inside

def plainSettings : NDS_fw_config_data :=
  ⟨7,6,23,fun _ => 0x41, 7, fun _ => 0x42, 20, 1, fun _ => ⟨0x200,0x200,0x21,0x21⟩⟩

/-- The first area of a new image, and its offset in the header. -/
theorem firmware_crc_is_arc_new :
    (copy_firmware_user_data [] (fill_user_data_area plainSettings
      (fun i => if i = 0x20 then 0xC0 else if i = 0x21 then 0x7F else 0)
      0x3FE00 0)).1 = 1 :=
  firmware_crc_is_arc.2.2.2.2 plainSettings [] _ 0x3FE00 0x3FE00 0 (Or.inl rfl)
    (by decide +kernel) (by omega) (by omega)

def SameCurrent : Prop :=
  copy_settings_offset fw_data = (saved_from fw_data (user_settings_offset fw_data)).1

theorem user_count_low (area : Nat) (small : (user_count fw_data area).toNat ≤ 0x7F) :
    (fw_data (area + 0x70)).toNat = (user_count fw_data area).toNat := by
  have low : ((user_count fw_data area).setWidth 8 : u8) = fw_data (area + 0x70) := by
    apply BitVec.eq_of_getLsbD_eq
    intro i bound
    simp only [user_count,half,BitVec.getLsbD_setWidth,BitVec.getLsbD_or,
      BitVec.getLsbD_shiftLeft]
    simp [bound,(by omega : i < 32)]
  rw [← low,BitVec.toNat_setWidth]
  omega

theorem follows_iff {counter0 counter1 : Nat} (small : counter0 ≤ 0x7F) :
    counter1 = (counter0 + 1) &&& 0x7F ↔
      (counter0 < 0x7F ∧ counter1 = counter0 + 1) ∨ (counter0 = 0x7F ∧ counter1 = 0) := by
  have masked : (counter0 + 1) &&& 0x7F = (counter0 + 1) % 2 ^ 7 :=
    Nat.and_two_pow_sub_one_eq_mod _ 7
  rw [masked]
  omega

/-- With both areas valid and counters of seven bits, the two rules agree if the
second counter is one above the first, or not above it and the pair is not the
wrap from 0x7F to 0; and otherwise they do not. -/
theorem sameCurrent_iff (first : user_valid fw_data (user_settings_offset fw_data) = true)
    (second : user_valid fw_data (user_settings_offset fw_data + 0x100) = true)
    (small1 : (user_count fw_data (user_settings_offset fw_data)).toNat ≤ 0x7F)
    (small2 : (user_count fw_data (user_settings_offset fw_data + 0x100)).toNat ≤ 0x7F) :
    SameCurrent fw_data ↔
      user_settings_offset fw_data ≤ 0x3FE00 ∧
        ((user_count fw_data (user_settings_offset fw_data + 0x100)).toNat =
            (user_count fw_data (user_settings_offset fw_data)).toNat + 1 ∨
          ((user_count fw_data (user_settings_offset fw_data + 0x100)).toNat ≤
              (user_count fw_data (user_settings_offset fw_data)).toNat ∧
            ¬ ((user_count fw_data (user_settings_offset fw_data)).toNat = 0x7F ∧
              (user_count fw_data (user_settings_offset fw_data + 0x100)).toNat = 0))) := by
  have counter0 := user_count_low fw_data _ small1
  have counter1 := user_count_low fw_data _ small2
  rw [Nat.add_assoc] at counter1
  simp only [SameCurrent,copy_settings_offset,saved_from,first,second,if_true,counter0,
    counter1,follows_iff small1,BitVec.lt_def]
  by_cases inside : user_settings_offset fw_data ≤ 0x3FE00
  · rw [if_pos inside]
    split <;> split <;> omega
  · rw [if_neg inside]
    split <;> omega

/-- An image whose two areas begin with the bytes that turn the check to 0, hold
zeros otherwise, and differ in their counters. -/
def plainImage (counter0 counter1 : u8) : Image := fun i =>
  if i = 0x20 then 0xC0
  else if i = 0x21 then 0x7F
  else if i = 0x3FE70 then counter0
  else if i = 0x3FF70 then counter1
  else if i = 0x3FE00 ∨ i = 0x3FE01 ∨ i = 0x3FF00 ∨ i = 0x3FF01 then 0xFF
  else 0

theorem calc_CRC16_zeros (n : Nat) :
    calc_CRC16 0xFFFF (0xFF :: 0xFF :: List.replicate n 0) = 0 := by
  have zeros : (List.replicate n (0 : u8)).foldl crcDatum 0 = 0 := by
    induction n with
    | zero => rfl
    | succ n ih => exact ih
  exact zeros

theorem plainImage_valid (counter0 counter1 : u8) :
    user_valid (plainImage counter0 counter1) 0x3FE00 = true ∧
      user_valid (plainImage counter0 counter1) 0x3FF00 = true := by
  have slices : slice (plainImage counter0 counter1) 0x3FE00 0x70 =
        0xFF :: 0xFF :: List.replicate 110 0 ∧
      slice (plainImage counter0 counter1) 0x3FF00 0x70 =
        0xFF :: 0xFF :: List.replicate 110 0 := ⟨rfl,rfl⟩
  have checks : half (plainImage counter0 counter1) (0x3FE00 + 0x72) = 0 ∧
      half (plainImage counter0 counter1) (0x3FF00 + 0x72) = 0 := by
    simp [half,plainImage]
  unfold user_valid NDS_FW_USER_SETTINGS_MEM_BYTE_COUNT
  rw [slices.1,slices.2,calc_CRC16_zeros,checks.1,checks.2]
  exact ⟨decide_eq_true rfl,decide_eq_true rfl⟩

/-- Counters 4 and 5. -/
theorem sameCurrent_iff_next : SameCurrent (plainImage 4 5) :=
  (sameCurrent_iff (plainImage 4 5) (plainImage_valid 4 5).1 (plainImage_valid 4 5).2
    (by decide) (by decide)).mpr (by decide)

/-- After the wrap the boot copy takes the first area and the save the second. -/
theorem wrapped_not_sameCurrent :
    user_valid (plainImage 0x7F 0) (user_settings_offset (plainImage 0x7F 0)) = true ∧
      user_valid (plainImage 0x7F 0) (user_settings_offset (plainImage 0x7F 0) + 0x100) = true ∧
        (user_count (plainImage 0x7F 0) (user_settings_offset (plainImage 0x7F 0))).toNat = 0x7F ∧
          (user_count (plainImage 0x7F 0)
            (user_settings_offset (plainImage 0x7F 0) + 0x100)).toNat = 0 ∧
            ¬ SameCurrent (plainImage 0x7F 0) := by
  have located : user_settings_offset (plainImage 0x7F 0) = 0x3FE00 := by decide
  obtain ⟨valid1,valid2⟩ := plainImage_valid 0x7F 0
  have copied : copy_settings_offset (plainImage 0x7F 0) = 0x3FE00 := by
    simp only [copy_settings_offset,located,valid1,valid2]
    decide
  have saved : saved_from (plainImage 0x7F 0) 0x3FE00 = (0x3FF00, 0x3FE00) := by decide
  refine ⟨by rw [located]; exact valid1,by rw [located]; exact valid2,by rw [located]; decide,
    by rw [located]; decide,?_⟩
  unfold SameCurrent
  rw [copied,located,saved]
  decide

end Desmume.Firmware
