import TTLockConnect.Ble.Corruption
import TTLockConnect.Checksum.Division

/-! # CRC-8/MAXIM

`crc8_maxim` as the division that the name stands for: the generator is `x⁸ + x⁵ + x⁴ + 1`, the bytes
of a message come least significant bit first, and so does the checksum. -/

namespace TTLockConnect.Ble.Maxim

open Polynomial
open TTLockConnect.Ble.Cipher TTLockConnect.Ble.Protocol TTLockConnect.Ble.Corruption
open TTLockConnect.Checksum.Register TTLockConnect.Checksum.Division

/-- The generator behind `0x8C`, which lists its lower coefficients from `1` up to `x⁷`. -/
theorem generator_maxim : generator (0x8C : Byte) = X ^ 8 + X ^ 5 + X ^ 4 + 1 := by
  have hreverse : (0x8C : Byte).reverse = 0x31 := by decide
  rw [generator, residue, hreverse, ofWord]
  simp [Finset.sum_range_succ, bit]
  ring

/-- **`crc8_maxim` is CRC-8/MAXIM**, and seals: of all bytes it is the one whose bits in reverse order
are the remainder. -/
theorem crc8Maxim_maxim (data : Bytes) :
    (∀ crc : Byte, crc8Maxim data = crc ↔
      ofWord crc.reverse = (message data * X ^ 8) %ₘ (X ^ 8 + X ^ 5 + X ^ 4 + 1)) ∧
    crc8Maxim (data ++ [crc8Maxim data]) = 0 := by
  constructor
  · intro crc
    rw [← generator_maxim, ← residue_crc, ← crc8Maxim_eq]
    constructor
    · rintro rfl
      rfl
    · intro h
      have hreverse : (crc8Maxim data).reverse = crc.reverse := (ofWord_inj h).symm
      rw [← BitVec.reverse_reverse_eq (x := crc8Maxim data), hreverse, BitVec.reverse_reverse_eq]
  · rw [crc8Maxim_eq, crc8Maxim_eq]
    exact crc_seal 0x8C 8 data []

/-- The published check value. -/
example : crc8Maxim [0x31, 0x32, 0x33, 0x34, 0x35, 0x36, 0x37, 0x38, 0x39] = 0xA1 := by
  decide +kernel

end TTLockConnect.Ble.Maxim
