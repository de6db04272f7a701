import TTLockConnect.Ble.Protocol
import Mathlib.Order.Basic

/-! # Frames on the wire

What `Frame.encode` writes and `Frame.decode` reads, by the bytes of a header. The two agree on the
layout: a byte string decodes, up to its checksum and its payload, exactly if it is `Header.wire` of
some header and payload; a frame has a header exactly if its fields are in range. -/

namespace TTLockConnect.Ble.Codec

open TTLockConnect.Text TTLockConnect.Ble.Cipher TTLockConnect.Ble.Protocol

theorem bind_eq_ok {ε α β : Type} {x : Except ε α} {f : α → Except ε β} {b : β} :
    x >>= f = .ok b ↔ ∃ a, x = .ok a ∧ f a = .ok b := by
  cases x with
  | error err => exact ⟨nofun, fun ⟨_, h, _⟩ => nomatch h⟩
  | ok a => exact ⟨fun h => ⟨a, rfl, h⟩, fun ⟨_, ha, h⟩ => by cases ha; exact h⟩

/-! ### Payloads -/

section Payloads
variable (aes : BlockCipher)

/-- The payload that `encode` writes for some data. -/
def payloadOf (aesKey : Option Bytes) (data : Bytes) : Except PyError Bytes :=
  match aesKey with
  | some key => encrypt aes key data
  | none => .ok data

/-- The data that `decode` reads from a payload. -/
def dataOf (aesKey : Option Bytes) (payload : Bytes) : Except PyError Bytes :=
  match aesKey with
  | some key => if payload = [] then .ok payload else decrypt aes key payload
  | none => .ok payload

/-- A key is one of AES-128. -/
def KeyFits (aesKey : Option Bytes) : Prop := ∀ key ∈ aesKey, key.length = AES_KEY_LENGTH

variable {aes} {aesKey : Option Bytes} {key data payload : Bytes}

theorem blocks_pad (data : Bytes) :
    blocks ((pad data).length / blockLength) (pad data) =
      blocks (data.length / blockLength + 1) (pad data) := by
  rw [length_pad, Nat.mul_div_cancel _ (by decide)]

theorem encrypt_eq (hk : key.length = AES_KEY_LENGTH) : encrypt aes key data =
    .ok (cbcEncrypt aes key key (blocks (data.length / blockLength + 1) (pad data))) := by
  unfold encrypt
  dsimp only
  rw [if_neg (not_not_intro hk), blocks_pad]

theorem whole_blocks_pad (data : Bytes) :
    Whole (blocks (data.length / blockLength + 1) (pad data)) := whole_blocks (length_pad data)

/-- An encrypted payload has its padding's length. -/
theorem length_encrypt (hk : key.length = AES_KEY_LENGTH) (h : encrypt aes key data = .ok payload) :
    payload.length = (data.length / blockLength + 1) * blockLength := by
  rw [encrypt_eq hk] at h
  obtain rfl := Except.ok.inj h
  rw [length_cbcEncrypt aes key hk (whole_blocks_pad data), length_blocks]

theorem decrypt_encrypt (hk : key.length = AES_KEY_LENGTH) (h : encrypt aes key data = .ok payload) :
    decrypt aes key payload = .ok data := by
  have hlen := length_encrypt hk h
  have hne : payload ≠ [] := by
    rintro rfl
    rw [List.length_nil, Nat.add_mul] at hlen
    simp [blockLength] at hlen
  have hmod : payload.length % AES_KEY_LENGTH = 0 := by
    rw [hlen, AES_KEY_LENGTH, Nat.mul_mod_left]
  have hdiv : payload.length / blockLength = data.length / blockLength + 1 := by
    rw [hlen, Nat.mul_div_cancel _ (by decide)]
  have hround := cbcDecrypt_cbcEncrypt aes key hk (whole_blocks_pad data)
  rw [length_blocks, flatten_blocks (length_pad data)] at hround
  rw [encrypt_eq hk] at h
  obtain rfl := Except.ok.inj h
  unfold decrypt
  dsimp only
  rw [if_neg (not_or_intro hne (not_not_intro hmod)), if_neg (not_not_intro hk), hdiv, hround,
    unpad_pad]

theorem encrypt_decrypt (hk : key.length = AES_KEY_LENGTH) (h : decrypt aes key payload = .ok data) :
    encrypt aes key data = .ok payload := by
  unfold decrypt at h
  dsimp only at h
  split_ifs at h with hc
  have hmod : payload.length % blockLength = 0 := not_not.mp (not_or.mp hc).2
  have hlen : payload.length = payload.length / blockLength * blockLength :=
    (Nat.div_mul_cancel (Nat.dvd_of_mod_eq_zero hmod)).symm
  generalize hn : payload.length / blockLength = n at h hlen
  have hwhole := whole_blocks hlen
  cases hu : unpad (cbcDecrypt aes key key (blocks n payload)) with
  | none =>
    rw [hu] at h
    cases h
  | some plaintext =>
    rw [hu] at h
    obtain rfl := Except.ok.inj h
    have hdec : (cbcDecrypt aes key key (blocks n payload)).length = n * blockLength := by
      rw [length_cbcDecrypt aes key hk hwhole, length_blocks]
    have hpad := pad_of_unpad (by rw [hdec, Nat.mul_mod_left]) hu
    have hround := cbcEncrypt_cbcDecrypt aes key hk hwhole
    rw [length_blocks, flatten_blocks hlen] at hround
    unfold encrypt
    dsimp only
    rw [if_neg (not_not_intro hk), hpad, hdec, Nat.mul_div_cancel _ (by decide), hround]

theorem dataOf_payloadOf (hk : KeyFits aesKey) (h : payloadOf aes aesKey data = .ok payload) :
    dataOf aes aesKey payload = .ok data := by
  cases aesKey with
  | none => exact congrArg Except.ok (Except.ok.inj h).symm
  | some key =>
    have hlen : payload.length = _ := length_encrypt (hk key rfl) h
    have hne : payload ≠ [] := by
      rintro rfl
      rw [List.length_nil, Nat.add_mul] at hlen
      simp [blockLength] at hlen
    unfold dataOf
    dsimp only
    rw [if_neg hne, decrypt_encrypt (hk key rfl) h]

theorem payloadOf_dataOf (hk : KeyFits aesKey) (hne : aesKey = none ∨ payload ≠ [])
    (h : dataOf aes aesKey payload = .ok data) : payloadOf aes aesKey data = .ok payload := by
  cases aesKey with
  | none => exact congrArg Except.ok (Except.ok.inj h).symm
  | some key =>
    have hne : payload ≠ [] := hne.resolve_left nofun
    unfold dataOf at h
    dsimp only at h
    rw [if_neg hne] at h
    exact encrypt_decrypt (hk key rfl) h

theorem dataOf_error (hk : KeyFits aesKey) {err : PyError}
    (h : dataOf aes aesKey payload = .error err) : err = .decryptError := by
  cases aesKey with
  | none => cases h
  | some key =>
    unfold dataOf decrypt at h
    dsimp only at h
    rw [if_neg (not_not_intro (hk key rfl))] at h
    split_ifs at h
    · exact (Except.error.inj h).symm
    · split at h
      · cases h
      · exact (Except.error.inj h).symm

/-- How long the data of a frame may be: padding takes at least a byte, and whole blocks. -/
def maxData (aesKey : Option Bytes) : ℕ := if aesKey.isSome then 239 else 255

theorem exists_payload_iff (hk : KeyFits aesKey) :
    (∃ payload, payloadOf aes aesKey data = .ok payload ∧ payload.length ≤ MAX_DATA_LENGTH) ↔
      data.length ≤ maxData aesKey := by
  cases aesKey with
  | none =>
    constructor
    · rintro ⟨payload, h, hlen⟩
      obtain rfl := Except.ok.inj h
      exact hlen
    · exact fun hlen => ⟨data, rfl, hlen⟩
  | some key =>
    have hmax : maxData (some key) = 239 := rfl
    have henc : payloadOf aes (some key) data = _ := encrypt_eq (hk key rfl)
    have hdiv : 16 * (data.length / 16) + data.length % 16 = data.length := Nat.div_add_mod _ _
    rw [hmax]
    constructor
    · rintro ⟨payload, h, hlen⟩
      rw [length_encrypt (hk key rfl) h, blockLength, MAX_DATA_LENGTH] at hlen
      omega
    · intro hlen
      refine ⟨_, henc, ?_⟩
      rw [length_encrypt (hk key rfl) henc, blockLength, MAX_DATA_LENGTH]
      omega

end Payloads

/-! ### Headers -/

/-- The bytes of a header that a frame's fields go to. -/
structure Header where
  protocolType : Byte
  protocolVersion : Byte
  scene : Byte
  groupHigh : Byte
  groupLow : Byte
  orgHigh : Byte
  orgLow : Byte
  command : Byte
  scrambleKey : Byte
  deriving DecidableEq, Repr

/-- What the checksum covers. -/
def Header.body (h : Header) (payload : Bytes) : Bytes :=
  0x7f :: 0x5a :: h.protocolType :: h.protocolVersion :: h.scene :: h.groupHigh :: h.groupLow ::
    h.orgHigh :: h.orgLow :: h.command :: h.scrambleKey :: BitVec.ofNat 8 payload.length :: payload

/-- A whole frame with any checksum. -/
def Header.wire (h : Header) (payload : Bytes) (crc : Byte) : Bytes :=
  h.body payload ++ [crc, 0x0d, 0x0a]

/-- The frame that a header and some data make. -/
def Header.frame (h : Header) (data : Bytes) : Frame :=
  ⟨⟨h.protocolType.toNat, h.protocolVersion.toNat, h.scene.toNat,
    fromBytes [h.groupHigh, h.groupLow], fromBytes [h.orgHigh, h.orgLow]⟩, h.command.toNat, data,
    h.scrambleKey.toNat⟩

/-- The fields of a frame that fit into a header. -/
structure InRange (f : Frame) : Prop where
  protocolType : 0 ≤ f.version.protocolType ∧ f.version.protocolType ≤ 255
  protocolVersion : 0 ≤ f.version.protocolVersion ∧ f.version.protocolVersion ≤ 255
  scene : 0 ≤ f.version.scene ∧ f.version.scene ≤ 255
  groupId : 0 ≤ f.version.groupId ∧ f.version.groupId ≤ 65535
  orgId : 0 ≤ f.version.orgId ∧ f.version.orgId ≤ 65535
  command : 0 ≤ f.command ∧ f.command ≤ 255

theorem fromBytes_pair (hi lo : Byte) : fromBytes [hi, lo] = 256 * hi.toNat + lo.toNat := by
  simp [fromBytes]

theorem toNat_ofInt {n : ℤ} (h : 0 ≤ n ∧ n ≤ 255) : ((BitVec.ofInt 8 n).toNat : ℤ) = n := by
  rw [BitVec.toNat_ofInt]
  omega

theorem byteOf_toNat (b : Byte) : byteOf b.toNat = .ok b := by
  have hlt : b.toNat < 256 := b.isLt
  unfold byteOf
  rw [if_pos (by omega), BitVec.ofInt_natCast, BitVec.ofNat_toNat, BitVec.setWidth_eq]

theorem toBytes2_fromBytes (hi lo : Byte) : toBytes2 (fromBytes [hi, lo]) = .ok [hi, lo] := by
  have hhi : hi.toNat < 256 := hi.isLt
  have hlo : lo.toNat < 256 := lo.isLt
  rw [fromBytes_pair, toBytes2, if_pos (by omega)]
  have h1 : BitVec.ofInt 8 ((256 * hi.toNat + lo.toNat : ℤ) / 256) = hi := by
    apply BitVec.eq_of_toNat_eq
    rw [BitVec.toNat_ofInt]
    omega
  have h2 : BitVec.ofInt 8 (256 * hi.toNat + lo.toNat : ℤ) = lo := by
    apply BitVec.eq_of_toNat_eq
    rw [BitVec.toNat_ofInt]
    omega
  rw [h1, h2]

theorem byteOf_ok {n : ℤ} {b : Byte} (h : byteOf n = .ok b) : n = b.toNat := by
  unfold byteOf at h
  split_ifs at h with hr
  obtain rfl := Except.ok.inj h
  exact (toNat_ofInt (by omega)).symm

theorem toBytes2_ok {n : ℤ} {bs : Bytes} (h : toBytes2 n = .ok bs) :
    ∃ hi lo, bs = [hi, lo] ∧ n = fromBytes [hi, lo] := by
  unfold toBytes2 at h
  split_ifs at h with hr
  refine ⟨_, _, (Except.ok.inj h).symm, ?_⟩
  rw [fromBytes_pair, toNat_ofInt (by omega), BitVec.toNat_ofInt]
  omega

/-- A frame has a header exactly if its fields are in range. -/
theorem exists_header_iff {f : Frame} (hs : f.scrambleKey = 0) :
    (∃ h : Header, h.frame f.data = f) ↔ InRange f := by
  constructor
  · rintro ⟨h, hf⟩
    have hbyte : ∀ b : Byte, 0 ≤ (b.toNat : ℤ) ∧ (b.toNat : ℤ) ≤ 255 := fun b => by
      have hlt : b.toNat < 256 := b.isLt
      omega
    have hpair : ∀ hi lo : Byte, 0 ≤ fromBytes [hi, lo] ∧ fromBytes [hi, lo] ≤ 65535 :=
      fun hi lo => by
        have hhi := hbyte hi
        have hlo := hbyte lo
        rw [fromBytes_pair]
        omega
    rw [← hf]
    exact ⟨hbyte _, hbyte _, hbyte _, hpair _ _, hpair _ _, hbyte _⟩
  · intro hr
    have hpair : ∀ n : ℤ, 0 ≤ n ∧ n ≤ 65535 →
        fromBytes [BitVec.ofInt 8 (n / 256), BitVec.ofInt 8 n] = n := fun n hn => by
      rw [fromBytes_pair, toNat_ofInt (by omega), BitVec.toNat_ofInt]
      omega
    refine ⟨⟨BitVec.ofInt 8 f.version.protocolType, BitVec.ofInt 8 f.version.protocolVersion,
      BitVec.ofInt 8 f.version.scene, BitVec.ofInt 8 (f.version.groupId / 256),
      BitVec.ofInt 8 f.version.groupId, BitVec.ofInt 8 (f.version.orgId / 256),
      BitVec.ofInt 8 f.version.orgId, BitVec.ofInt 8 f.command, 0⟩, ?_⟩
    unfold Header.frame
    dsimp only
    rw [toNat_ofInt hr.protocolType, toNat_ofInt hr.protocolVersion, toNat_ofInt hr.scene,
      toNat_ofInt hr.command, hpair _ hr.groupId, hpair _ hr.orgId]
    have hz : ((0 : Byte).toNat : ℤ) = f.scrambleKey := hs.symm
    rw [hz]

/-! ### Encoding -/

section Encoding
variable {aes : BlockCipher} {aesKey : Option Bytes}

/-- `encode` after the length check. -/
def envelope (f : Frame) (payload : Bytes) : Except PyError Bytes := do
  let protocolType ← byteOf f.version.protocolType
  let protocolVersion ← byteOf f.version.protocolVersion
  let scene ← byteOf f.version.scene
  let groupId ← toBytes2 f.version.groupId
  let orgId ← toBytes2 f.version.orgId
  let command ← byteOf f.command
  let scrambleKey ← byteOf f.scrambleKey
  let body := MAGIC ++ [protocolType, protocolVersion, scene] ++ groupId ++ orgId ++
    [command, scrambleKey, BitVec.ofNat 8 payload.length] ++ payload
  pure (body ++ [crc8Maxim body] ++ TERMINATOR)

theorem encode_eq (f : Frame) : f.encode aes aesKey =
    payloadOf aes aesKey f.data >>= fun payload =>
      if MAX_DATA_LENGTH < payload.length then .error .valueError else envelope f payload := by
  have henv : ∀ payload : Bytes, (do
      if MAX_DATA_LENGTH < payload.length then .error .valueError
      envelope f payload) =
        if MAX_DATA_LENGTH < payload.length then .error .valueError else envelope f payload := by
    intro payload
    split_ifs <;> rfl
  cases aesKey with
  | none => exact henv f.data
  | some key => exact congrArg (encrypt aes key f.data >>= ·) (funext henv)

/-- What `encode` makes of a frame with a header. -/
theorem envelope_frame (h : Header) (data payload : Bytes) : envelope (h.frame data) payload =
    .ok (h.wire payload (crc8Maxim (h.body payload))) := by
  unfold envelope Header.frame
  dsimp only
  rw [byteOf_toNat, byteOf_toNat, byteOf_toNat, toBytes2_fromBytes, toBytes2_fromBytes,
    byteOf_toNat, byteOf_toNat]
  change Except.ok (h.body payload ++ [_] ++ TERMINATOR) = _
  rw [List.append_assoc]
  rfl

/-- Only frames with a header are encoded. -/
theorem header_of_envelope {f : Frame} {payload raw : Bytes} (hs : envelope f payload = .ok raw) :
    ∃ h : Header, h.frame f.data = f := by
  unfold envelope at hs
  obtain ⟨protocolType, h1, hs⟩ := bind_eq_ok.mp hs
  obtain ⟨protocolVersion, h2, hs⟩ := bind_eq_ok.mp hs
  obtain ⟨scene, h3, hs⟩ := bind_eq_ok.mp hs
  obtain ⟨groupId, h4, hs⟩ := bind_eq_ok.mp hs
  obtain ⟨orgId, h5, hs⟩ := bind_eq_ok.mp hs
  obtain ⟨command, h6, hs⟩ := bind_eq_ok.mp hs
  obtain ⟨scrambleKey, h7, -⟩ := bind_eq_ok.mp hs
  obtain ⟨groupHigh, groupLow, -, h4⟩ := toBytes2_ok h4
  obtain ⟨orgHigh, orgLow, -, h5⟩ := toBytes2_ok h5
  refine ⟨⟨protocolType, protocolVersion, scene, groupHigh, groupLow, orgHigh, orgLow, command,
    scrambleKey⟩, ?_⟩
  unfold Header.frame
  rw [← byteOf_ok h1, ← byteOf_ok h2, ← byteOf_ok h3, ← h4, ← h5, ← byteOf_ok h6, ← byteOf_ok h7]

/-- **What `encode` writes**: a header, the payload and its checksum. -/
theorem encode_eq_ok_iff {f : Frame} {raw : Bytes} : f.encode aes aesKey = .ok raw ↔
    ∃ (h : Header) (payload : Bytes), h.frame f.data = f ∧
      payloadOf aes aesKey f.data = .ok payload ∧ payload.length ≤ MAX_DATA_LENGTH ∧
      raw = h.wire payload (crc8Maxim (h.body payload)) := by
  rw [encode_eq, bind_eq_ok]
  constructor
  · rintro ⟨payload, hp, he⟩
    split_ifs at he with hlen
    obtain ⟨h, hf⟩ := header_of_envelope he
    rw [← hf, envelope_frame] at he
    exact ⟨h, payload, hf, hp, by omega, (Except.ok.inj he).symm⟩
  · rintro ⟨h, payload, hf, hp, hlen, rfl⟩
    refine ⟨payload, hp, ?_⟩
    rw [if_neg (by omega), ← hf, envelope_frame]

end Encoding

/-! ### Decoding -/

section Decoding
variable {aes : BlockCipher} {aesKey : Option Bytes}

/-- `decode` after the checks. -/
def opened (aes : BlockCipher) (raw payload : Bytes) (aesKey : Option Bytes) (scrambleKey : Byte) :
    Except PyError Frame := do
  let protocolType ← byteAt raw 2
  let protocolVersion ← byteAt raw 3
  let scene ← byteAt raw 4
  let groupId := fromBytes ((raw.drop 5).take 2)
  let orgId := fromBytes ((raw.drop 7).take 2)
  let command ← byteAt raw 9
  let data ← match aesKey with
    | some key => if payload = [] then .ok payload else decrypt aes key payload
    | none => .ok payload
  pure ⟨⟨protocolType.toNat, protocolVersion.toNat, scene.toNat, groupId, orgId⟩, command.toNat,
    data, scrambleKey.toNat⟩

/-- The checks of `decode` that look at the checksum and behind it. -/
def checked (aes : BlockCipher) (raw : Bytes) (aesKey : Option Bytes) (length : ℕ) :
    Except PyError Frame := do
  let body := raw.take (HEADER_LENGTH + length)
  let actual ← byteAt raw (HEADER_LENGTH + length)
  if actual ≠ crc8Maxim body then .error .checksumError
  else
    let scrambleKey ← byteAt raw 10
    if scrambleKey ≠ 0 then .error .unsupportedProtocol
    else opened aes raw (body.drop HEADER_LENGTH) aesKey scrambleKey

theorem decode_eq (raw : Bytes) : Frame.decode aes raw aesKey =
    if raw.length < HEADER_LENGTH + TRAILER_LENGTH then .error .frameError
    else if ¬ MAGIC <+: raw then .error .frameError
    else if ¬ TERMINATOR <:+ raw then .error .frameError
    else byteAt raw 11 >>= fun length =>
      if raw.length ≠ HEADER_LENGTH + length.toNat + TRAILER_LENGTH then .error .frameError
      else checked aes raw aesKey length.toNat := by
  cases aesKey with
  | none => rfl
  | some key => rfl

theorem length_body (h : Header) (payload : Bytes) :
    (h.body payload).length = HEADER_LENGTH + payload.length := by
  rw [HEADER_LENGTH, Header.body]
  simp only [List.length_cons]
  omega

theorem length_wire (h : Header) (payload : Bytes) (crc : Byte) :
    (h.wire payload crc).length = HEADER_LENGTH + payload.length + TRAILER_LENGTH := by
  rw [Header.wire, List.length_append, length_body]
  rfl

theorem byteAt_crc (h : Header) (payload : Bytes) (crc : Byte) :
    byteAt (h.wire payload crc) (HEADER_LENGTH + payload.length) = .ok crc := by
  rw [byteAt, Header.wire, ← length_body h, List.getElem?_append_right (Nat.le_refl _), Nat.sub_self]
  rfl

theorem take_wire (h : Header) (payload : Bytes) (crc : Byte) :
    (h.wire payload crc).take (HEADER_LENGTH + payload.length) = h.body payload := by
  rw [Header.wire, ← length_body h, List.take_left]

theorem opened_wire (h : Header) (payload : Bytes) (crc : Byte) :
    opened aes (h.wire payload crc) payload aesKey h.scrambleKey =
      (dataOf aes aesKey payload).map h.frame := by
  cases aesKey with
  | none => rfl
  | some key =>
    change (if payload = [] then _ else _) = Except.map _ (if payload = [] then _ else _)
    split_ifs with hp
    · rfl
    · rfl

/-- What `decode` makes of a whole frame. -/
theorem decode_wire (h : Header) {payload : Bytes} (crc : Byte)
    (hlen : payload.length ≤ MAX_DATA_LENGTH) : Frame.decode aes (h.wire payload crc) aesKey =
      if crc ≠ crc8Maxim (h.body payload) then .error .checksumError
      else if h.scrambleKey ≠ 0 then .error .unsupportedProtocol
      else (dataOf aes aesKey payload).map h.frame := by
  have hshort : ¬ (h.wire payload crc).length < HEADER_LENGTH + TRAILER_LENGTH := by
    rw [length_wire]
    omega
  have hmagic : MAGIC <+: h.wire payload crc := ⟨_, rfl⟩
  have hterm : TERMINATOR <:+ h.wire payload crc :=
    (List.suffix_cons crc TERMINATOR).trans (List.suffix_append _ _)
  have h11 : byteAt (h.wire payload crc) 11 = .ok (BitVec.ofNat 8 payload.length) := rfl
  have hnat : (BitVec.ofNat 8 payload.length).toNat = payload.length := by
    rw [MAX_DATA_LENGTH] at hlen
    rw [BitVec.toNat_ofNat, Nat.mod_eq_of_lt (by omega)]
  rw [decode_eq, if_neg hshort, if_neg (not_not_intro hmagic), if_neg (not_not_intro hterm), h11]
  change (if _ then _ else checked _ _ _ (BitVec.ofNat 8 payload.length).toNat) = _
  rw [hnat, if_neg (not_not_intro (length_wire h payload crc)), checked, byteAt_crc, take_wire,
    ← opened_wire h payload crc]
  rfl

/-- A header in front of a byte string that is long enough. -/
theorem exists_header {raw : Bytes} (hmagic : MAGIC <+: raw) (hlen : HEADER_LENGTH ≤ raw.length) :
    ∃ (h : Header) (length : Byte) (rest : Bytes), raw = 0x7f :: 0x5a :: h.protocolType ::
      h.protocolVersion :: h.scene :: h.groupHigh :: h.groupLow :: h.orgHigh :: h.orgLow ::
      h.command :: h.scrambleKey :: length :: rest := by
  obtain ⟨rest, rfl⟩ := hmagic
  have hten : (rest.take 10).length = 10 := by
    rw [List.length_append, HEADER_LENGTH, MAGIC, List.length_cons, List.length_singleton] at hlen
    rw [List.length_take]
    omega
  generalize hfront : rest.take 10 = front at hten
  match front, hten with
  | [b2, b3, b4, b5, b6, b7, b8, b9, b10, b11], _ =>
    refine ⟨⟨b2, b3, b4, b5, b6, b7, b8, b9, b10⟩, b11, rest.drop 10, ?_⟩
    rw [← List.take_append_drop 10 rest, hfront]
    simp [MAGIC]

/-- Behind the data stand the checksum and two further bytes. -/
theorem exists_trailer {rest : Bytes} {n : ℕ} (hlen : rest.length = n + TRAILER_LENGTH) :
    ∃ (payload : Bytes) (crc t0 t1 : Byte), rest = payload ++ [crc, t0, t1] ∧ payload.length = n := by
  have hthree : (rest.drop n).length = 3 := by
    rw [TRAILER_LENGTH] at hlen
    rw [List.length_drop]
    omega
  generalize htail : rest.drop n = tail at hthree
  match tail, hthree with
  | [crc, t0, t1], _ =>
    refine ⟨rest.take n, crc, t0, t1, ?_, ?_⟩
    · rw [← htail, List.take_append_drop]
    · rw [List.length_take]
      omega

theorem terminator_of_suffix {front : Bytes} {crc t0 t1 : Byte}
    (h : TERMINATOR <:+ front ++ [crc, t0, t1]) : t0 = 0x0d ∧ t1 = 0x0a := by
  have hlast : [t0, t1] <:+ front ++ [crc, t0, t1] :=
    (List.suffix_cons crc [t0, t1]).trans (List.suffix_append _ _)
  have heq : TERMINATOR = [t0, t1] :=
    (List.suffix_of_suffix_length_le h hlast (Nat.le_refl 2)).eq_of_length rfl
  injection heq with h0 hrest
  injection hrest with h1 _
  exact ⟨h0.symm, h1.symm⟩

/-- **What `decode` accepts as a frame**: anything else is malformed. -/
theorem wire_of_decode {raw : Bytes} (hd : Frame.decode aes raw aesKey ≠ .error .frameError) :
    ∃ (h : Header) (payload : Bytes) (crc : Byte), payload.length ≤ MAX_DATA_LENGTH ∧
      raw = h.wire payload crc := by
  rw [decode_eq] at hd
  by_cases hshort : raw.length < HEADER_LENGTH + TRAILER_LENGTH
  · exact absurd (if_pos hshort) hd
  rw [if_neg hshort] at hd
  by_cases hmagic : MAGIC <+: raw
  case neg => exact absurd (if_pos hmagic) hd
  rw [if_neg (not_not_intro hmagic)] at hd
  by_cases hterm : TERMINATOR <:+ raw
  case neg => exact absurd (if_pos hterm) hd
  rw [if_neg (not_not_intro hterm)] at hd
  obtain ⟨h, length, rest, rfl⟩ := exists_header hmagic (by omega)
  have hnat : length.toNat < 256 := length.isLt
  by_cases hlen : rest.length = length.toNat + TRAILER_LENGTH
  case neg =>
    refine absurd (if_pos ?_) hd
    rw [HEADER_LENGTH]
    simp only [List.length_cons]
    omega
  obtain ⟨payload, crc, t0, t1, rfl, hpayload⟩ := exists_trailer hlen
  have hbyte : length = BitVec.ofNat 8 payload.length := by
    rw [hpayload, BitVec.ofNat_toNat, BitVec.setWidth_eq]
  have hend : TERMINATOR <:+ h.body payload ++ [crc, t0, t1] := by
    rw [hbyte] at hterm
    exact hterm
  obtain ⟨rfl, rfl⟩ := terminator_of_suffix hend
  refine ⟨h, payload, crc, ?_, ?_⟩
  · rw [MAX_DATA_LENGTH]
    omega
  · rw [hbyte]
    rfl

end Decoding

end TTLockConnect.Ble.Codec
