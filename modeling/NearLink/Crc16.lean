import NearLink.Sdf.Buff
import Mathlib.Data.List.GetD

/-!
# CRC-16

The table-driven CRC of `crc16.c`.  A frame carries its own CRC as the last two
bytes, low byte first; running the CRC over such a frame leaves the residue
zero, whatever the seed was.
-/

namespace NearLink

open Sdf (Bytes)

def crc16Table : List UInt16 :=
  [ 0x0000, 0xC0C1, 0xC181, 0x0140, 0xC301, 0x03C0, 0x0280, 0xC241,
    0xC601, 0x06C0, 0x0780, 0xC741, 0x0500, 0xC5C1, 0xC481, 0x0440,
    0xCC01, 0x0CC0, 0x0D80, 0xCD41, 0x0F00, 0xCFC1, 0xCE81, 0x0E40,
    0x0A00, 0xCAC1, 0xCB81, 0x0B40, 0xC901, 0x09C0, 0x0880, 0xC841,
    0xD801, 0x18C0, 0x1980, 0xD941, 0x1B00, 0xDBC1, 0xDA81, 0x1A40,
    0x1E00, 0xDEC1, 0xDF81, 0x1F40, 0xDD01, 0x1DC0, 0x1C80, 0xDC41,
    0x1400, 0xD4C1, 0xD581, 0x1540, 0xD701, 0x17C0, 0x1680, 0xD641,
    0xD201, 0x12C0, 0x1380, 0xD341, 0x1100, 0xD1C1, 0xD081, 0x1040,
    0xF001, 0x30C0, 0x3180, 0xF141, 0x3300, 0xF3C1, 0xF281, 0x3240,
    0x3600, 0xF6C1, 0xF781, 0x3740, 0xF501, 0x35C0, 0x3480, 0xF441,
    0x3C00, 0xFCC1, 0xFD81, 0x3D40, 0xFF01, 0x3FC0, 0x3E80, 0xFE41,
    0xFA01, 0x3AC0, 0x3B80, 0xFB41, 0x3900, 0xF9C1, 0xF881, 0x3840,
    0x2800, 0xE8C1, 0xE981, 0x2940, 0xEB01, 0x2BC0, 0x2A80, 0xEA41,
    0xEE01, 0x2EC0, 0x2F80, 0xEF41, 0x2D00, 0xEDC1, 0xEC81, 0x2C40,
    0xE401, 0x24C0, 0x2580, 0xE541, 0x2700, 0xE7C1, 0xE681, 0x2640,
    0x2200, 0xE2C1, 0xE381, 0x2340, 0xE101, 0x21C0, 0x2080, 0xE041,
    0xA001, 0x60C0, 0x6180, 0xA141, 0x6300, 0xA3C1, 0xA281, 0x6240,
    0x6600, 0xA6C1, 0xA781, 0x6740, 0xA501, 0x65C0, 0x6480, 0xA441,
    0x6C00, 0xACC1, 0xAD81, 0x6D40, 0xAF01, 0x6FC0, 0x6E80, 0xAE41,
    0xAA01, 0x6AC0, 0x6B80, 0xAB41, 0x6900, 0xA9C1, 0xA881, 0x6840,
    0x7800, 0xB8C1, 0xB981, 0x7940, 0xBB01, 0x7BC0, 0x7A80, 0xBA41,
    0xBE01, 0x7EC0, 0x7F80, 0xBF41, 0x7D00, 0xBDC1, 0xBC81, 0x7C40,
    0xB401, 0x74C0, 0x7580, 0xB541, 0x7700, 0xB7C1, 0xB681, 0x7640,
    0x7200, 0xB2C1, 0xB381, 0x7340, 0xB101, 0x71C0, 0x7080, 0xB041,
    0x5000, 0x90C1, 0x9181, 0x5140, 0x9301, 0x53C0, 0x5280, 0x9241,
    0x9601, 0x56C0, 0x5780, 0x9741, 0x5500, 0x95C1, 0x9481, 0x5440,
    0x9C01, 0x5CC0, 0x5D80, 0x9D41, 0x5F00, 0x9FC1, 0x9E81, 0x5E40,
    0x5A00, 0x9AC1, 0x9B81, 0x5B40, 0x9901, 0x59C0, 0x5880, 0x9841,
    0x8801, 0x48C0, 0x4980, 0x8941, 0x4B00, 0x8BC1, 0x8A81, 0x4A40,
    0x4E00, 0x8EC1, 0x8F81, 0x4F40, 0x8D01, 0x4DC0, 0x4C80, 0x8C41,
    0x4400, 0x84C1, 0x8581, 0x4540, 0x8701, 0x47C0, 0x4680, 0x8641,
    0x8201, 0x42C0, 0x4380, 0x8341, 0x4100, 0x81C1, 0x8081, 0x4040 ]

def crc16Byte (crc : UInt16) (data : UInt8) : UInt16 :=
  (crc >>> 8) ^^^ crc16Table.getD ((crc ^^^ data.toUInt16) &&& 0xff).toNat 0

def crc16 (crc : UInt16) (buffer : Bytes) : UInt16 :=
  buffer.foldl crc16Byte crc

def encode2ByteLittle (value : UInt16) : Bytes :=
  [value.toUInt8, (value >>> 8).toUInt8]

def decode2ByteLittle (bytes : Bytes) : Nat :=
  (bytes.getD 0 0).toNat + 256 * (bytes.getD 1 0).toNat

variable (value : UInt16) (crc : UInt16)

@[simp] theorem encode2ByteLittle_length :
    (encode2ByteLittle value).length = 2 := rfl

theorem decode2ByteLittle_encode :
    decode2ByteLittle (encode2ByteLittle value) = value.toNat := by
  have bound : value.toNat < 65536 := value.toNat_lt
  simp [decode2ByteLittle, encode2ByteLittle, Nat.shiftRight_eq_div_pow]
  omega

theorem encode_of_decode {value : UInt16} {bytes : Bytes}
    (length : bytes.length = 2)
    (same : decode2ByteLittle bytes = value.toNat) :
    bytes = encode2ByteLittle value := by
  obtain ⟨lower, upper, rfl⟩ := List.length_eq_two.mp length
  have lowerBound := lower.toNat_lt
  have upperBound := upper.toNat_lt
  simp [decode2ByteLittle] at same
  simp [encode2ByteLittle, ← UInt8.toNat_inj, Nat.shiftRight_eq_div_pow]
  omega

theorem crc16_append (first second : Bytes) :
    crc16 crc (first ++ second) = crc16 (crc16 crc first) second := by
  simp [crc16, List.foldl_append]

theorem crc16Byte_eq (crc : UInt16) (data : UInt8) :
    crc16Byte crc data =
      (crc >>> 8) ^^^ crc16Table.getD (crc.toUInt8 ^^^ data).toNat 0 := by
  have index : ((crc ^^^ data.toUInt16) &&& 0xff).toNat =
      (crc.toUInt8 ^^^ data).toNat := by
    have mask : (crc.toNat ^^^ data.toNat) &&& (2 ^ 8 - 1) =
        crc.toNat % 2 ^ 8 ^^^ data.toNat := by
      rw [Nat.and_two_pow_sub_one_eq_mod, Nat.xor_mod_two_pow,
        Nat.mod_eq_of_lt data.toNat_lt]
    simpa using mask
  unfold crc16Byte
  rw [index]

/-- A byte equal to the low byte of the running CRC selects table entry
zero, so the step only shifts. -/
theorem crc16Byte_lowByte : crc16Byte crc crc.toUInt8 = crc >>> 8 := by
  rw [crc16Byte_eq, UInt8.xor_self]
  exact UInt16.xor_zero

theorem crc16_residue (message : Bytes) :
    crc16 crc (message ++ encode2ByteLittle (crc16 crc message)) = 0 := by
  rw [crc16_append]
  generalize crc16 crc message = value
  have shifted : (value >>> 8) >>> 8 = 0 := by
    apply UInt16.toNat_inj.mp
    have bound : value.toNat < 65536 := value.toNat_lt
    simp [Nat.shiftRight_eq_div_pow]
    omega
  calc
    crc16 value (encode2ByteLittle value) =
        crc16Byte (crc16Byte value value.toUInt8) (value >>> 8).toUInt8 := rfl
    _ = crc16Byte (value >>> 8) (value >>> 8).toUInt8 := by
      rw [crc16Byte_lowByte]
    _ = (value >>> 8) >>> 8 := crc16Byte_lowByte _
    _ = 0 := shifted

theorem crc16Table_upper {first second : UInt8}
    (same : crc16Table.getD first.toNat 0 >>> 8 =
      crc16Table.getD second.toNat 0 >>> 8) : first = second := by
  have checked : ∀ index < 256, (crc16Table.map fun entry : UInt16 =>
      entry.toNat / 256).idxOf ((crc16Table.getD index 0).toNat / 256) =
        index := by
    decide +kernel
  have upper := congrArg UInt16.toNat same
  rw [UInt16.toNat_shiftRight, UInt16.toNat_shiftRight] at upper
  simp only [UInt16.reduceToNat, Nat.reduceMod, Nat.shiftRight_eq_div_pow,
    Nat.reducePow] at upper
  apply UInt8.toNat_inj.mp
  rw [← checked _ first.toNat_lt, upper, checked _ second.toNat_lt]

variable {crc other : UInt16} {data byte : UInt8}

theorem crc16Byte_upper (same : crc16Byte crc data >>> 8 =
      crc16Byte other byte >>> 8) :
    crc.toUInt8 ^^^ data = other.toUInt8 ^^^ byte := by
  have cleared : ∀ crc : UInt16, crc >>> 8 >>> 8 = 0 := by
    intro crc
    apply UInt16.toNat_inj.mp
    have bound := crc.toNat_lt
    simp [Nat.shiftRight_eq_div_pow]
    omega
  rw [crc16Byte_eq, crc16Byte_eq, UInt16.shiftRight_xor,
    UInt16.shiftRight_xor, cleared, cleared, UInt16.zero_xor,
    UInt16.zero_xor] at same
  exact crc16Table_upper same

theorem crc16Byte_data (same : crc16Byte crc data >>> 8 =
      crc16Byte crc byte >>> 8) : data = byte :=
  (UInt8.xor_right_inj _).mp (crc16Byte_upper same)

theorem crc16Byte_inj (same : crc16Byte crc data = crc16Byte other byte) :
    crc >>> 8 = other >>> 8 ∧ crc.toUInt8 ^^^ data = other.toUInt8 ^^^ byte := by
  have lower := crc16Byte_upper (congrArg (fun crc : UInt16 => crc >>> 8) same)
  rw [crc16Byte_eq, crc16Byte_eq, lower] at same
  exact ⟨(UInt16.xor_left_inj _).mp same, lower⟩

theorem crc16Byte_crc (same : crc16Byte crc data = crc16Byte other data) :
    crc = other := by
  obtain ⟨upper, lower⟩ := crc16Byte_inj same
  have upper := congrArg UInt16.toNat upper
  have lower := congrArg UInt8.toNat ((UInt8.xor_left_inj _).mp lower)
  apply UInt16.toNat_inj.mp
  simp [Nat.shiftRight_eq_div_pow] at upper lower
  omega

theorem crc16_crc {rest : Bytes} (same : crc16 crc rest = crc16 other rest) :
    crc = other := by
  induction rest generalizing crc other with
  | nil => exact same
  | cons data rest induction => exact crc16Byte_crc (induction same)

/-- Two bytes next to each other change the CRC when they are changed. -/
theorem crc16_burst {before after : Bytes} {first second : UInt8}
    (same : crc16 crc (before ++ [first, second] ++ after) =
      crc16 crc (before ++ [data, byte] ++ after)) :
    first = data ∧ second = byte := by
  rw [crc16_append, crc16_append, crc16_append, crc16_append] at same
  generalize crc16 crc before = crc at same
  have same : crc16Byte (crc16Byte crc first) second =
      crc16Byte (crc16Byte crc data) byte := crc16_crc same
  obtain rfl := crc16Byte_data (crc16Byte_inj same).1
  exact ⟨rfl, crc16Byte_data (congrArg (fun crc : UInt16 => crc >>> 8) same)⟩

theorem crc16_eq_zero_iff (crc : UInt16) (message tail : Bytes)
    (length : tail.length = 2) :
    crc16 crc (message ++ tail) = 0 ↔
      tail = encode2ByteLittle (crc16 crc message) := by
  constructor
  · intro residue
    obtain ⟨first, second, rfl⟩ := List.length_eq_two.mp length
    have same := residue.trans (crc16_residue crc message).symm
    rw [← List.append_nil (message ++ [first, second]),
      ← List.append_nil (message ++ encode2ByteLittle _)] at same
    obtain ⟨rfl, rfl⟩ := crc16_burst same
    rfl
  · rintro rfl
    exact crc16_residue crc message

end NearLink
