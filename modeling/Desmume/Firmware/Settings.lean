/-
The two user settings areas of the firmware: their check, how an area is filled,
which of the two is copied at boot, and which one is kept when they are saved.

A firmware image is a total map from offsets to bytes.
-/

import Desmume.Bios.Crc16

namespace Desmume.Firmware

open Function (update update_of_ne update_self)

open Crc Bios

/-- `val`. -/
def crcConstants : List u32 :=
  [0xC0C1,0xC181,0xC301,0xC601,0xCC01,0xD801,0xF001,0xA001]

/-- One pass of the loop over `j`. -/
def crcBit (crc : u32) (j : Nat) : u32 :=
  if crc &&& 0x1 ≠ 0 then (crc >>> 1) ^^^ (crcConstants.getD j 0 <<< (7 - j)) else crc >>> 1

/-- One pass of the loop over `i`. -/
def crcDatum (crc : u32) (datum : u8) : u32 :=
  (List.range 8).foldl crcBit (crc ^^^ datum.setWidth 32)

def calc_CRC16 (start : u32) (data : List u8) : u32 :=
  data.foldl crcDatum (start &&& 0xFFFF)

def getBootCodeCRC16 (tmp_data9 tmp_data7 : List u8) : u16 :=
  let crc := tmp_data9.foldl crcDatum 0xFFFF
  let crc := tmp_data7.foldl crcDatum crc
  (crc &&& 0xFFFF).setWidth 16

def shiftedConstants : List u32 :=
  (List.range 8).map fun j => crcConstants.getD j 0 <<< (7 - j)

theorem crcBit_shiftBit (crc : u32) (j : Nat) :
    crcBit crc j = shiftBit (crcConstants.getD j 0 <<< (7 - j)) crc := by
  have lowest : crc &&& 0x1 ≠ 0 ↔ crc.getLsbD 0 = true := and_twoPow_ne_zero crc 0 (by decide)
  unfold crcBit shiftBit
  exact if_congr lowest rfl rfl

theorem crcDatum_shiftEach (crc : u32) (datum : u8) :
    crcDatum crc datum = shiftEach shiftedConstants (crc ^^^ datum.setWidth 32) := by
  unfold crcDatum shiftEach shiftedConstants
  rw [List.foldl_map]
  congr 1
  funext crc j
  exact crcBit_shiftBit crc j

theorem shiftEach_byte : ∀ byte : u8,
    shiftEach shiftedConstants (byte.setWidth 32) =
      (shiftBits 0xA001 8 (byte.setWidth 16 : u16)).setWidth 32 := by
  decide +kernel

theorem shiftEach_wide (crc : u16) :
    shiftEach shiftedConstants (crc.setWidth 32) = (shiftBits 0xA001 8 crc).setWidth 32 := by
  have eight : shiftedConstants.length = 8 := rfl
  have low : lowBits 8 (crc.setWidth 32 : u32) = (crc.setWidth 8).setWidth 32 :=
    congrArg (fun byte : u8 => (byte.setWidth 32 : u32))
      (BitVec.setWidth_setWidth_of_le crc (by decide))
  have high : (crc.setWidth 32 : u32) >>> 8 = (crc >>> 8).setWidth 32 := by
    apply BitVec.eq_of_toNat_eq
    have bound := crc.isLt
    simp only [BitVec.toNat_ushiftRight,BitVec.toNat_setWidth,Nat.shiftRight_eq_div_pow]
    omega
  rw [shiftEach_split,eight,low,high,shiftEach_byte,shiftBits_split 0xA001 8 crc,
    BitVec.setWidth_xor]
  rfl

theorem crcDatum_arc (crc : u16) (datum : u8) :
    crcDatum (crc.setWidth 32) datum = (crcByte 0xA001 crc datum).setWidth 32 := by
  have entered : (crc.setWidth 32 ^^^ datum.setWidth 32 : u32) =
      (crc ^^^ datum.setWidth 16).setWidth 32 := by
    apply BitVec.eq_of_toNat_eq
    have bound := datum.isLt
    simp only [BitVec.setWidth_xor,BitVec.toNat_xor,BitVec.toNat_setWidth]
    congr 1
    omega
  rw [crcDatum_shiftEach,entered,shiftEach_wide]
  rfl

theorem foldl_crcDatum (crc : u16) (data : List u8) :
    data.foldl crcDatum (crc.setWidth 32) = (crcArc crc data).setWidth 32 := by
  induction data generalizing crc with
  | nil => rfl
  | cons datum data ih =>
      rw [List.foldl_cons,crcDatum_arc,ih]
      rfl

theorem calc_CRC16_arc (start : u32) (data : List u8) :
    calc_CRC16 start data = (crcArc (start.setWidth 16) data).setWidth 32 := by
  have masked : start &&& 0xFFFF = (start.setWidth 16).setWidth 32 := by
    apply BitVec.eq_of_toNat_eq
    have low : (start &&& 0xFFFF).toNat = start.toNat % 2 ^ 16 :=
      Nat.and_two_pow_sub_one_eq_mod start.toNat 16
    rw [low,BitVec.toNat_setWidth,BitVec.toNat_setWidth]
    omega
  rw [calc_CRC16,masked,foldl_crcDatum]

theorem getBootCodeCRC16_arc (tmp_data9 tmp_data7 : List u8) :
    getBootCodeCRC16 tmp_data9 tmp_data7 = crcArc 0xFFFF (tmp_data9 ++ tmp_data7) := by
  have wide : (0xFFFF : u32) = (0xFFFF : u16).setWidth 32 := rfl
  have low (crc : u16) : ((crc.setWidth 32 : u32) &&& 0xFFFF).setWidth 16 = crc := by
    apply BitVec.eq_of_toNat_eq
    have bound := crc.isLt
    have masked : ((crc.setWidth 32 : u32) &&& 0xFFFF).toNat =
        (crc.setWidth 32 : u32).toNat % 2 ^ 16 :=
      Nat.and_two_pow_sub_one_eq_mod _ 16
    rw [BitVec.toNat_setWidth,masked,BitVec.toNat_setWidth]
    omega
  simp only [getBootCodeCRC16]
  rw [wide,foldl_crcDatum,foldl_crcDatum,← wide,low]
  exact (crcBytes_append 0xA001 0xFFFF tmp_data9 tmp_data7).symm

abbrev Image := Nat → u8

variable (data fw_data : Image) (first area off : Nat)

def memset (val : u8) (n : Nat) : Image :=
  fun i => if first ≤ i ∧ i < first + n then val else data i

def memcpy (dest src n : Nat) : Image :=
  fun i => if dest ≤ i ∧ i < dest + n then data (src + (i - dest))
    else data i

def slice (n : Nat) : List u8 :=
  (List.range n).map fun i => data (first + i)

def half : u32 :=
  (data first).setWidth 32 ||| ((data (first + 1)).setWidth 32 <<< 8)

def NDS_FW_USER_SETTINGS_MEM_BYTE_COUNT : Nat := 0x70

def user_valid : Bool :=
  calc_CRC16 0xFFFF (slice fw_data area NDS_FW_USER_SETTINGS_MEM_BYTE_COUNT) =
    half fw_data (area + 0x72)

def user_count : u32 :=
  half fw_data (area + 0x70)

def user_settings_offset : Nat :=
  (half fw_data 0x20 <<< 3).toNat

/-- `copy_settings_offset`, which stays -1 where neither area is taken. -/
def copy_settings_offset : Int :=
  let off := user_settings_offset fw_data
  if off ≤ 0x3FE00 then
    if user_valid fw_data off then
      if user_valid fw_data (off + 0x100) then
        if user_count fw_data off < user_count fw_data (off + 0x100) then
          (off : Int) + 0x100
        else off
      else off
    else if user_valid fw_data (off + 0x100) then (off : Int) + 0x100
    else -1
  else -1

/-- The result, and the bytes of `dest_buffer`. -/
def copy_firmware_user_data (dest_buffer : List u8) (fw_data : Image) : Int × List u8 :=
  let off := copy_settings_offset fw_data
  if 0 < off then
    (1, slice fw_data off.toNat NDS_FW_USER_SETTINGS_MEM_BYTE_COUNT ++
      dest_buffer.drop NDS_FW_USER_SETTINGS_MEM_BYTE_COUNT)
  else (0, dest_buffer)

def DFC_ID_CODE : List u8 :=
  ("DeSmuME Firmware User Settings".toList.map fun letter => BitVec.ofNat 8 letter.toNat) ++ [0]

def USER_SETTINGS_SIZE : Nat := 0x100
def WIFI_SETTINGS_SIZE : Nat := 0x1D5
def WIFI_AP_SETTINGS_SIZE : Nat := 0x300
def WIFI_SETTINGS_OFF : Nat := 0x0000002A
def WIFI_AP_SETTINGS_OFF : Nat := 0x0003FA00

/-- Where `saveSettings` copies from, and where to. -/
def saved_from (userDataAddr : Nat) : Nat × Nat :=
  let counter0 := (fw_data (userDataAddr + 0x070)).toNat
  let counter1 := (fw_data (userDataAddr + 0x170)).toNat
  if counter1 = (counter0 + 1) &&& 0x7F then (userDataAddr + 0x100, userDataAddr)
  else (userDataAddr, userDataAddr + 0x100)

/-- The bytes of `usr`. -/
def dfc_file (userDataAddr : Nat) : List u8 :=
  DFC_ID_CODE ++ slice fw_data userDataAddr USER_SETTINGS_SIZE ++
    slice fw_data WIFI_SETTINGS_OFF WIFI_SETTINGS_SIZE ++
      slice fw_data WIFI_AP_SETTINGS_OFF WIFI_AP_SETTINGS_SIZE

structure SavedSettings where
  result : Bool
  fw_data : Image
  userfile : Option (List u8)

def saveSettings (UseExtFirmware UseExtFirmwareSettings : Bool) (userDataAddr : Nat)
    (fw_data : Image) : SavedSettings :=
  if !UseExtFirmware then ⟨false,fw_data,none⟩
  else if !UseExtFirmwareSettings then ⟨false,fw_data,none⟩
  else
    let (src, dest) := saved_from fw_data userDataAddr
    let fw_data := memcpy fw_data dest src 0x100
    ⟨true,fw_data,some (dfc_file fw_data userDataAddr)⟩

structure NDS_fw_touchscreen_cal where
  adc_x : u16
  adc_y : u16
  screen_x : u8
  screen_y : u8

/-- The fields that `fill_user_data_area` reads. -/
structure NDS_fw_config_data where
  fav_colour : u8
  birth_month : u8
  birth_day : u8
  nickname : Fin 10 → u16
  nickname_len : u8
  message : Fin 26 → u16
  message_len : u8
  language : u8
  touch_cal : Fin 2 → NDS_fw_touchscreen_cal

/-- `data[offset] = value & 0xff` and `data[offset + 1] = (value >> 8) & 0xff`. -/
def putHalf {width : Nat} (val : BitVec width) : Image :=
  update (update data off (val.setWidth 8)) (off + 1)
    ((val >>> 8).setWidth 8)

def putCalibration (user_settings : NDS_fw_config_data) (data : Image) (i : Fin 2) : Image :=
  let cal := user_settings.touch_cal i
  let ts_cal_data_area := area + 0x58 + 6 * i.val
  let data := putHalf data ts_cal_data_area cal.adc_x
  let data := putHalf data (ts_cal_data_area + 2) cal.adc_y
  let data := update data (ts_cal_data_area + 4) cal.screen_x
  update data (ts_cal_data_area + 5) cal.screen_y

def fillSettings (user_settings : NDS_fw_config_data) (data : Image) (area : Nat) (n : u32) :
    Image :=
  let data := memset data area 0 0x100
  let data := update data (area + 0x00) 5
  let data := update data (area + 0x01) 0
  let data := update data (area + 0x02) user_settings.fav_colour
  let data := update data (area + 0x03) user_settings.birth_month
  let data := update data (area + 0x04) user_settings.birth_day
  let data := (List.finRange 10).foldl
    (fun data i => putHalf data (area + 0x06 + i.val * 2) (user_settings.nickname i)) data
  let data := update data (area + 0x1A) user_settings.nickname_len
  let data := (List.finRange 26).foldl
    (fun data i => putHalf data (area + 0x1C + i.val * 2) (user_settings.message i)) data
  let data := update data (area + 0x50) user_settings.message_len
  let data := (List.finRange 2).foldl (putCalibration area user_settings) data
  let data := update data (area + 0x64) user_settings.language
  let data := update data (area + 0x65) 0xFC
  putHalf data (area + 0x70) n

def fill_user_data_area (user_settings : NDS_fw_config_data) (data : Image) (area : Nat)
    (n : u32) : Image :=
  let data := fillSettings user_settings data area n
  let crc := calc_CRC16 0xFFFF (slice data area 0x70)
  memset (putHalf data (area + 0x72) crc) (area + 0x74) 0xFF (0x100 - 0x74)

theorem putHalf_elsewhere {width : Nat} (val : BitVec width)
    (i : Nat) (elsewhere : i < off ∨ off + 1 < i) : putHalf data off val i = data i := by
  unfold putHalf
  rw [update_of_ne (by omega),update_of_ne (by omega)]

theorem memset_elsewhere (val : u8) (n i : Nat) (elsewhere : i < first ∨ first + n ≤ i) :
    memset data first val n i = data i := by
  unfold memset
  rw [if_neg (by omega)]

theorem slice_congr (other : Image) (first n : Nat)
    (same : ∀ i < n, data (first + i) = other (first + i)) :
    slice data first n = slice other first n :=
  List.map_congr_left fun i member => same i (List.mem_range.mp member)

theorem half_putHalf (val : u16) :
    half (putHalf data off (val.setWidth 32 : u32)) off = val.setWidth 32 := by
  have low : putHalf data off (val.setWidth 32 : u32) off = val.setWidth 8 := by
    unfold putHalf
    rw [update_of_ne (by omega),update_self,
      BitVec.setWidth_setWidth_of_le _ (by decide)]
  have high : putHalf data off (val.setWidth 32 : u32) (off + 1) =
      ((val.setWidth 32 : u32) >>> 8).setWidth 8 := update_self _ _ _
  unfold half
  rw [low,high]
  apply BitVec.eq_of_getLsbD_eq
  intro i bound
  simp only [BitVec.getLsbD_or,BitVec.getLsbD_setWidth,BitVec.getLsbD_shiftLeft,
    BitVec.getLsbD_ushiftRight]
  by_cases first : i < 8
  · simp [first,bound]
  · have restored : 8 + (i - 8) = i := by omega
    by_cases second : i - 8 < 8
    · simp [first,bound,second,restored,(by omega : i - 8 < 32)]
    · have beyond := BitVec.getLsbD_of_ge val i (by omega)
      simp [first,second,beyond]

theorem user_valid_fill (user_settings : NDS_fw_config_data) (data : Image) (area : Nat)
    (n : u32) : user_valid (fill_user_data_area user_settings data area n) area = true := by
  simp only [fill_user_data_area]
  generalize fillSettings user_settings data area n = filled
  rw [calc_CRC16_arc 0xFFFF (slice filled area 0x70)]
  generalize stored : crcArc ((0xFFFF : u32).setWidth 16) (slice filled area 0x70) = crc
  have bytes : slice (memset (putHalf filled (area + 0x72) (crc.setWidth 32 : u32)) (area + 0x74)
      0xFF (0x100 - 0x74)) area 0x70 = slice filled area 0x70 := by
    apply slice_congr
    intro i inside
    rw [memset_elsewhere _ _ _ _ _ (by omega),putHalf_elsewhere _ _ _ _ (by omega)]
  have check : half (memset (putHalf filled (area + 0x72) (crc.setWidth 32 : u32)) (area + 0x74)
      0xFF (0x100 - 0x74)) (area + 0x72) = crc.setWidth 32 := by
    rw [half,memset_elsewhere _ _ _ _ _ (by omega),memset_elsewhere _ _ _ _ _ (by omega)]
    exact half_putHalf filled (area + 0x72) crc
  unfold user_valid NDS_FW_USER_SETTINGS_MEM_BYTE_COUNT
  rw [bytes,check,calc_CRC16_arc,stored]
  exact decide_eq_true rfl

end Desmume.Firmware
