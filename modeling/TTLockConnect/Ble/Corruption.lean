import TTLockConnect.Ble.RoundTrip
import TTLockConnect.Checksum.Register

/-! # Corruption on the air

`crc8_maxim` is the checksum of a shift register with the polynomial `0x8C`, which has an odd number
of ones, the highest of them among these. So `decode` rejects what `encode` has written once an odd
number of its bits or one of its bytes has changed: by the shape of the frame if it is the magic, the
length or the terminator that has changed, and else by the checksum. -/

namespace TTLockConnect.Ble.Corruption

open TTLockConnect.Text TTLockConnect.Ble.Cipher TTLockConnect.Ble.Protocol
open TTLockConnect.Ble.Codec TTLockConnect.Ble.Session TTLockConnect.Checksum.Register

/-- The number of bits in which two byte strings differ. -/
def bitDistance (raw raw' : Bytes) : ℕ := (List.zipWith (fun a b => ones (a ^^^ b)) raw raw').sum

/-- Two byte strings that differ in one byte only. -/
def DifferInOneByte (raw raw' : Bytes) : Prop :=
  ∃ front a b back, raw = front ++ a :: back ∧ raw' = front ++ b :: back ∧ a ≠ b

/-- **What corruption is about**: as many bytes, with an odd number of bits or one byte changed. -/
structure Corrupted (raw raw' : Bytes) : Prop where
  length : raw'.length = raw.length
  changed : Odd (bitDistance raw raw') ∨ DifferInOneByte raw raw'

/-! ### The checksum -/

theorem crc8Bit_eq (crc : Byte) : crc8Bit crc = shift 0x8C crc := by
  have hlow : crc &&& 1#8 = 1#8 ↔ crc.getLsbD 0 = true := by
    rw [BitVec.and_one_eq_setWidth_ofBool_getLsbD]
    cases crc.getLsbD 0 <;> decide
  unfold crc8Bit shift
  exact if_congr hlow rfl rfl

theorem crc8Maxim_eq (data : Bytes) : crc8Maxim data = crc 0x8C 8 data := by
  unfold crc8Maxim crc
  rw [funext crc8Bit_eq]

theorem crc8Maxim_parity (data : Bytes) :
    ones (crc8Maxim data) % 2 = (data.map ones).sum % 2 := by
  rw [crc8Maxim_eq]
  exact crc_parity (by decide) 8 data

theorem crc8Maxim_changed {a b : Byte} (front back : Bytes) (hne : a ≠ b) :
    crc8Maxim (front ++ a :: back) ≠ crc8Maxim (front ++ b :: back) := by
  rw [crc8Maxim_eq, crc8Maxim_eq]
  exact crc_changed rfl 8 front back hne

/-! ### Distances -/

theorem bitDistance_parity : ∀ {raw raw' : Bytes}, raw'.length = raw.length →
    bitDistance raw raw' % 2 = ((raw.map ones).sum + (raw'.map ones).sum) % 2
  | [], [], _ => rfl
  | a :: raw, b :: raw', h => by
    have ih := bitDistance_parity (Nat.succ.inj h)
    have hxor := ones_xor a b
    unfold bitDistance at ih ⊢
    simp only [List.zipWith_cons_cons, List.map_cons, List.sum_cons]
    omega

/-! ### Frames -/

/-- The checksum of a frame with the right checksum is that of the terminator. -/
theorem crc8Maxim_wire (h : Header) (payload : Bytes) :
    crc8Maxim (h.wire payload (crc8Maxim (h.body payload))) = crc8Maxim TERMINATOR := by
  unfold Header.wire
  rw [crc8Maxim_eq, crc8Maxim_eq, crc8Maxim_eq]
  exact crc_seal 0x8C 8 (h.body payload) TERMINATOR

/-- **Corruption changes the checksum.** -/
theorem Corrupted.crc8Maxim_ne {raw raw' : Bytes} (hc : Corrupted raw raw') :
    crc8Maxim raw ≠ crc8Maxim raw' := by
  rcases hc.changed with hodd | ⟨front, a, b, back, rfl, rfl, hne⟩
  · intro heq
    have hraw := crc8Maxim_parity raw
    have hraw' := crc8Maxim_parity raw'
    have hdist := bitDistance_parity hc.length
    rw [Nat.odd_iff] at hodd
    rw [heq] at hraw
    omega
  · exact crc8Maxim_changed front back hne

/-- **Corruption on the air is always noticed**: what is left of a frame is malformed or has a wrong
checksum, whatever the cipher and the key. -/
theorem decode_corrupted (aes : BlockCipher) (aesKey : Option Bytes) (f : Frame) (raw raw' : Bytes)
    (he : f.encode aes aesKey = .ok raw) (hc : Corrupted raw raw') :
    ∃ err, (err = .frameError ∨ err = .checksumError) ∧
      ∀ aes' aesKey', Frame.decode aes' raw' aesKey' = .error err := by
  obtain ⟨h, payload, -, -, -, rfl⟩ := encode_eq_ok_iff.mp he
  by_cases hw : ∃ (h' : Header) (payload' : Bytes) (crc : Byte),
    payload'.length ≤ MAX_DATA_LENGTH ∧ raw' = h'.wire payload' crc
  · -- still a frame: its checksum is not the one of what it has in front
    obtain ⟨h', payload', crc, hlen, rfl⟩ := hw
    have hcrc : crc ≠ crc8Maxim (h'.body payload') := by
      rintro rfl
      refine hc.crc8Maxim_ne ?_
      rw [crc8Maxim_wire, crc8Maxim_wire]
    refine ⟨.checksumError, .inr rfl, fun aes' aesKey' => ?_⟩
    rw [decode_wire h' crc hlen, if_pos hcrc]
  · refine ⟨.frameError, .inl rfl, fun aes' aesKey' => ?_⟩
    by_contra hd
    exact hw (wire_of_decode hd)

/-- One byte of a status answer has changed. -/
theorem decode_corrupted_answer : ∃ err, (err = .frameError ∨ err = .checksumError) ∧
    ∀ aes' aesKey', Frame.decode aes' ((responseFrame []).set 9 0x55) aesKey' = .error err :=
  decode_corrupted sampleAes (some sampleKey) ⟨sampleVersion, Command.response.toInt, [], 0⟩
    (responseFrame []) ((responseFrame []).set 9 0x55) (by decide +kernel)
    ⟨List.length_set, .inr ⟨(responseFrame []).take 9, 0x54, 0x55, (responseFrame []).drop 10,
      by decide +kernel, by decide +kernel, by decide⟩⟩

end TTLockConnect.Ble.Corruption
