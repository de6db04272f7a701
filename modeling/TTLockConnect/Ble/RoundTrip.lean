import TTLockConnect.Ble.Codec
import TTLockConnect.Ble.Session

/-! # Round trips of frames

`encode` and then `decode` gives back the frame, on the exact domain of `encode`; `decode` and then
`encode` gives back the bytes, where `decode` has not passed over the cipher. -/

namespace TTLockConnect.Ble.RoundTrip

open TTLockConnect.Text TTLockConnect.Ble.Cipher TTLockConnect.Ble.Protocol
open TTLockConnect.Ble.Codec TTLockConnect.Ble.Session

section RoundTrip
variable {aes : BlockCipher} {aesKey : Option Bytes} {f : Frame} {raw : Bytes}

/-- What is encoded is decoded to the frame, unless it is scrambled. -/
theorem decode_encoded (hk : KeyFits aesKey) (he : f.encode aes aesKey = .ok raw) :
    Frame.decode aes raw aesKey =
      if f.scrambleKey = 0 then .ok f else .error .unsupportedProtocol := by
  obtain ⟨h, payload, hf, hp, hlen, rfl⟩ := encode_eq_ok_iff.mp he
  have hscramble : f.scrambleKey = (h.scrambleKey.toNat : ℤ) := by rw [← hf, Header.frame]
  rw [decode_wire h _ hlen, if_neg (not_not_intro rfl)]
  by_cases hzero : h.scrambleKey = 0
  · rw [if_neg (not_not_intro hzero), dataOf_payloadOf hk hp, if_pos (by rw [hscramble, hzero]; rfl)]
    exact congrArg Except.ok hf
  · have hne : ¬ f.scrambleKey = 0 := fun hs =>
      hzero (BitVec.eq_of_toNat_eq (Int.ofNat_inj.mp (hscramble.symm.trans hs)))
    rw [if_pos hzero, if_neg hne]

theorem decode_of_encode (hk : KeyFits aesKey) (hs : f.scrambleKey = 0)
    (he : f.encode aes aesKey = .ok raw) : Frame.decode aes raw aesKey = .ok f :=
  (decode_encoded hk he).trans (if_pos hs)

theorem exists_encode_iff (hk : KeyFits aesKey) (hs : f.scrambleKey = 0) :
    (∃ raw, f.encode aes aesKey = .ok raw) ↔ InRange f ∧ f.data.length ≤ maxData aesKey := by
  have hpayload := @exists_payload_iff aes aesKey f.data hk
  rw [← exists_header_iff hs, ← hpayload]
  constructor
  · rintro ⟨raw, he⟩
    obtain ⟨h, payload, hf, hp, hlen, -⟩ := encode_eq_ok_iff.mp he
    exact ⟨⟨h, hf⟩, payload, hp, hlen⟩
  · rintro ⟨⟨h, hf⟩, payload, hp, hlen⟩
    exact ⟨_, encode_eq_ok_iff.mpr ⟨h, payload, hf, hp, hlen, rfl⟩⟩

/-- **Frames make the round trip**, on the exact domain of `encode`. -/
theorem encode_decode (aes : BlockCipher) (aesKey : Option Bytes) (hk : KeyFits aesKey) (f : Frame)
    (hs : f.scrambleKey = 0) :
    ((∃ raw, f.encode aes aesKey = .ok raw) ↔ InRange f ∧ f.data.length ≤ maxData aesKey) ∧
      ∀ raw, f.encode aes aesKey = .ok raw → Frame.decode aes raw aesKey = .ok f :=
  ⟨exists_encode_iff hk hs, fun _ he => decode_of_encode hk hs he⟩

/-- A status query and back. -/
theorem encode_decode_query :
    Frame.decode sampleAes (responseFrame []) (some sampleKey) =
      .ok ⟨sampleVersion, Command.response.toInt, [], 0⟩ :=
  (encode_decode sampleAes (some sampleKey) (by rintro _ ⟨⟩; rfl)
    ⟨sampleVersion, Command.response.toInt, [], 0⟩ rfl).2 _ (by decide +kernel)

theorem decode_eq_ok_iff : Frame.decode aes raw aesKey = .ok f ↔
    ∃ (h : Header) (payload : Bytes), payload.length ≤ MAX_DATA_LENGTH ∧
      raw = h.wire payload (crc8Maxim (h.body payload)) ∧ h.scrambleKey = 0 ∧
      dataOf aes aesKey payload = .ok f.data ∧ h.frame f.data = f := by
  constructor
  · intro hd
    obtain ⟨h, payload, crc, hlen, rfl⟩ := wire_of_decode fun herr => nomatch herr.symm.trans hd
    rw [decode_wire h crc hlen] at hd
    split_ifs at hd with hcrc hzero
    cases hdata : dataOf aes aesKey payload with
    | error err =>
      rw [hdata] at hd
      cases hd
    | ok data =>
      rw [hdata] at hd
      obtain rfl := Except.ok.inj hd
      exact ⟨h, payload, hlen, by rw [not_not.mp hcrc], not_not.mp hzero, hdata, rfl⟩
  · rintro ⟨h, payload, hlen, rfl, hzero, hdata, hf⟩
    rw [decode_wire h _ hlen, if_neg (not_not_intro rfl), if_neg (not_not_intro hzero), hdata]
    exact congrArg Except.ok hf

theorem encode_of_decode (hk : KeyFits aesKey)
    (hne : aesKey = none ∨ HEADER_LENGTH + TRAILER_LENGTH < raw.length)
    (hd : Frame.decode aes raw aesKey = .ok f) : f.encode aes aesKey = .ok raw := by
  obtain ⟨h, payload, hlen, rfl, -, hdata, hf⟩ := decode_eq_ok_iff.mp hd
  refine encode_eq_ok_iff.mpr ⟨h, payload, hf, payloadOf_dataOf hk ?_ hdata, hlen, rfl⟩
  refine hne.imp_right fun hlong => ?_
  rintro rfl
  rw [length_wire] at hlong
  exact absurd hlong (Nat.lt_irrefl _)

theorem decode_error (hk : KeyFits aesKey) {err : PyError}
    (hd : Frame.decode aes raw aesKey = .error err) : err = .frameError ∨ err = .checksumError ∨
      err = .unsupportedProtocol ∨ err = .decryptError := by
  by_cases hframe : err = .frameError
  · exact .inl hframe
  have hne : Frame.decode aes raw aesKey ≠ .error .frameError := fun herr =>
    hframe (Except.error.inj (hd.symm.trans herr))
  obtain ⟨h, payload, crc, hlen, rfl⟩ := wire_of_decode hne
  rw [decode_wire h crc hlen] at hd
  split_ifs at hd with hcrc hzero
  · exact .inr (.inl (Except.error.inj hd).symm)
  · exact .inr (.inr (.inl (Except.error.inj hd).symm))
  · cases hdata : dataOf aes aesKey payload with
    | ok data =>
      rw [hdata] at hd
      cases hd
    | error err' =>
      rw [hdata] at hd
      obtain rfl := Except.error.inj hd
      exact .inr (.inr (.inr (dataOf_error hk hdata)))

/-- **`decode` accepts exactly the image of `encode`**, a scrambled frame apart, and fails with its
own errors only. -/
theorem decode_encode (aes : BlockCipher) (aesKey : Option Bytes) (hk : KeyFits aesKey)
    (raw : Bytes) :
    (∀ err, Frame.decode aes raw aesKey = .error err → err = .frameError ∨ err = .checksumError ∨
      err = .unsupportedProtocol ∨ err = .decryptError) ∧
    (aesKey = none ∨ HEADER_LENGTH + TRAILER_LENGTH < raw.length →
      ∀ f, Frame.decode aes raw aesKey = .ok f → f.encode aes aesKey = .ok raw ∧
        ∀ raw', aesKey = none ∨ HEADER_LENGTH + TRAILER_LENGTH < raw'.length →
          Frame.decode aes raw' aesKey = .ok f → raw' = raw) ∧
    ∀ f, f.encode aes aesKey = .ok raw → Frame.decode aes raw aesKey =
      if f.scrambleKey = 0 then .ok f else .error .unsupportedProtocol := by
  refine ⟨fun err hd => decode_error hk hd, fun hne f hd => ?_, fun f he => decode_encoded hk he⟩
  have he := encode_of_decode hk hne hd
  refine ⟨he, fun raw' hne' hd' => ?_⟩
  exact Except.ok.inj ((encode_of_decode hk hne' hd').symm.trans he)

/-- The refusal of a query and back. -/
theorem decode_encode_refusal :
    Frame.encode sampleAes ⟨sampleVersion, 0x54, [0x14, 0x00, 0x64, 0x00, 0x01], 0⟩
      (some sampleKey) = .ok (responseFrame [0x14, 0x00, 0x64, 0x00, 0x01]) :=
  ((decode_encode sampleAes (some sampleKey) (by rintro _ ⟨⟩; rfl)
    (responseFrame [0x14, 0x00, 0x64, 0x00, 0x01])).2.1 (by decide +kernel) _
      (by decide +kernel)).1

end RoundTrip

end TTLockConnect.Ble.RoundTrip
