import TTLockConnect.Ble.Cipher
import TTLockConnect.Models
import Mathlib.Logic.Function.Iterate

/-! # The Bluetooth wire protocol

`ble_protocol.py`: frames with their checksum and encryption, the reassembly of frames from
notifications, and what a lock answers. The block cipher (AES in `cryptography`) is a parameter. -/

namespace TTLockConnect.Ble.Protocol

open TTLockConnect.Text TTLockConnect.Models TTLockConnect.Ble.Cipher

def MAGIC : Bytes := [0x7f, 0x5a]

def TERMINATOR : Bytes := [0x0d, 0x0a]

def HEADER_LENGTH : ℕ := 12

def TRAILER_LENGTH : ℕ := 3

def MAX_DATA_LENGTH : ℕ := 0xFF

def MAX_FRAME_LENGTH : ℕ := HEADER_LENGTH + MAX_DATA_LENGTH + TRAILER_LENGTH

def AES_KEY_LENGTH : ℕ := blockLength

/-- `Command`: the opcodes the integration needs. -/
inductive Command where
  | searchDeviceFeature
  | queryLockStatus
  | response
  deriving DecidableEq, Repr

def Command.toInt : Command → ℤ
  | .searchDeviceFeature => 1
  | .queryLockStatus => 20
  | .response => 84

/-! ### Checksum -/

/-- One bit of the checksum. -/
def crc8Bit (crc : Byte) : Byte :=
  if crc &&& 1 = 1 then (crc >>> 1) ^^^ 0x8C else crc >>> 1

/-- `crc8_maxim`. -/
def crc8Maxim (data : Bytes) : Byte :=
  data.foldl (fun crc byte => crc8Bit^[8] (crc ^^^ byte)) 0

/-! ### Encryption -/

section Encryption
variable (aes : BlockCipher)

/-- `encrypt`: CBC with the key as the initialisation vector. -/
def encrypt (aesKey plaintext : Bytes) : Except PyError Bytes :=
  let padded := pad plaintext
  if aesKey.length ≠ AES_KEY_LENGTH then .error .valueError
  else .ok (cbcEncrypt aes aesKey aesKey (blocks (padded.length / blockLength) padded))

/-- `decrypt`. -/
def decrypt (aesKey ciphertext : Bytes) : Except PyError Bytes :=
  if ciphertext = [] ∨ ciphertext.length % AES_KEY_LENGTH ≠ 0 then .error .decryptError
  else if aesKey.length ≠ AES_KEY_LENGTH then .error .valueError
  else
    let padded :=
      cbcDecrypt aes aesKey aesKey (blocks (ciphertext.length / blockLength) ciphertext)
    match unpad padded with
    | some plaintext => .ok plaintext
    | none => .error .decryptError

end Encryption

/-! ### Frames -/

/-- `LockVersion`: the envelope values of a lock's protocol dialect. -/
structure LockVersion where
  protocolType : ℤ
  protocolVersion : ℤ
  scene : ℤ
  groupId : ℤ
  orgId : ℤ
  deriving DecidableEq, Repr

/-- `payload[key]`, whose `KeyError` is reraised as a `ValueError`. -/
def payloadGet (payload : LockVersionPayload) (key : String) : Except PyError ℤ :=
  match payload.lookup key with
  | some n => .ok n
  | none => .error .valueError

/-- `LockVersion.from_cloud`. -/
def LockVersion.fromCloud (payload : LockVersionPayload) : Except PyError LockVersion := do
  let protocolType ← payloadGet payload "protocolType"
  let protocolVersion ← payloadGet payload "protocolVersion"
  let scene ← payloadGet payload "scene"
  let groupId ← payloadGet payload "groupId"
  let orgId ← payloadGet payload "orgId"
  pure ⟨protocolType, protocolVersion, scene, groupId, orgId⟩

/-- An item of `bytes((…,))`. -/
def byteOf (n : ℤ) : Except PyError Byte :=
  if 0 ≤ n ∧ n < 256 then .ok (BitVec.ofInt 8 n) else .error .valueError

/-- `n.to_bytes(2, "big")`. -/
def toBytes2 (n : ℤ) : Except PyError Bytes :=
  if 0 ≤ n ∧ n < 65536 then .ok [BitVec.ofInt 8 (n / 256), BitVec.ofInt 8 n]
  else .error .overflowError

/-- `int.from_bytes(bs, "big")`. -/
def fromBytes (bs : Bytes) : ℤ := bs.foldl (fun n b => 256 * n + b.toNat) 0

/-- `raw[i]`. -/
def byteAt (raw : Bytes) (i : ℕ) : Except PyError Byte :=
  match raw[i]? with
  | some b => .ok b
  | none => .error .indexError

/-- `Frame`: the payload in the clear. -/
structure Frame where
  version : LockVersion
  command : ℤ
  data : Bytes
  scrambleKey : ℤ
  deriving DecidableEq, Repr

/-- `Frame.encode`. -/
def Frame.encode (aes : BlockCipher) (f : Frame) (aesKey : Option Bytes) :
    Except PyError Bytes := do
  let payload ← match aesKey with
    | some key => encrypt aes key f.data
    | none => .ok f.data
  if MAX_DATA_LENGTH < payload.length then .error .valueError
  let protocolType ← byteOf f.version.protocolType
  let protocolVersion ← byteOf f.version.protocolVersion
  let scene ← byteOf f.version.scene
  let groupId ← toBytes2 f.version.groupId
  let orgId ← toBytes2 f.version.orgId
  let command ← byteOf f.command
  let scrambleKey ← byteOf f.scrambleKey
  let body := MAGIC ++ [protocolType, protocolVersion, scene] ++ groupId ++ orgId ++
    [command, scrambleKey, BitVec.ofNat 8 payload.length] ++ payload
  pure (body ++ [crc8Maxim body] ++ TERMINATOR)

/-- `Frame.decode`. -/
def Frame.decode (aes : BlockCipher) (raw : Bytes) (aesKey : Option Bytes) :
    Except PyError Frame := do
  if raw.length < HEADER_LENGTH + TRAILER_LENGTH then .error .frameError
  if ¬ MAGIC <+: raw then .error .frameError
  if ¬ TERMINATOR <:+ raw then .error .frameError
  let length := (← byteAt raw 11).toNat
  if raw.length ≠ HEADER_LENGTH + length + TRAILER_LENGTH then .error .frameError
  let body := raw.take (HEADER_LENGTH + length)
  let actual ← byteAt raw (HEADER_LENGTH + length)
  if actual ≠ crc8Maxim body then .error .checksumError
  let scrambleKey ← byteAt raw 10
  if scrambleKey ≠ 0 then .error .unsupportedProtocol
  let payload := body.drop HEADER_LENGTH
  let protocolType ← byteAt raw 2
  let protocolVersion ← byteAt raw 3
  let scene ← byteAt raw 4
  let groupId := fromBytes ((raw.drop 5).take 2)
  let orgId := fromBytes ((raw.drop 7).take 2)
  let command ← byteAt raw 9
  let data ← match aesKey with
    | some key => if payload = [] then .ok payload else decrypt aes key payload
    | none => .ok payload
  pure ⟨⟨protocolType.toNat, protocolVersion.toNat, scene.toNat, groupId, orgId⟩, command.toNat,
    data, scrambleKey.toNat⟩

/-! ### Reassembly -/

/-- The buffer from the first `MAGIC` on: `find`, and `del` of what lies before. -/
def fromMagic : Bytes → Option Bytes
  | [] => none
  | b :: bs => if MAGIC <+: b :: bs then some (b :: bs) else fromMagic bs

/-- `buffer[max(0, len - 1):]`, what is kept of a buffer with no frame start. -/
def lastByte (buffer : Bytes) : Bytes := buffer.drop (buffer.length - 1)

/-- One round of the loop of `feed`: a frame and the buffer behind it, or the buffer left. -/
def cutFrame (buffer : Bytes) : (Bytes × Bytes) ⊕ Bytes :=
  match fromMagic buffer with
  | none => .inr (lastByte buffer)
  | some buffer =>
    if buffer.length < HEADER_LENGTH then .inr buffer
    else
      let total := HEADER_LENGTH + (buffer.getD 11 0).toNat + TRAILER_LENGTH
      if buffer.length < total then .inr buffer
      else .inl (buffer.take total, buffer.drop total)

/-- The loop of `feed`, for at most `fuel` rounds. -/
def cutFrames : ℕ → Bytes → List Bytes × Bytes
  | 0, buffer => ([], buffer)
  | fuel + 1, buffer =>
    match cutFrame buffer with
    | .inr rest => ([], rest)
    | .inl (frame, rest) =>
      let (frames, rest) := cutFrames fuel rest
      (frame :: frames, rest)

/-- `FrameAssembler`: the bytes not yet made into a frame. -/
structure FrameAssembler where
  buffer : Bytes
  deriving DecidableEq, Repr

/-- A fresh assembler, and one just `reset`. -/
def FrameAssembler.reset : FrameAssembler := ⟨[]⟩

/-- `FrameAssembler.feed`. A round takes at least a frame off the buffer, so the length of the
buffer bounds the rounds. -/
def FrameAssembler.feed (a : FrameAssembler) (chunk : Bytes) : List Bytes × FrameAssembler :=
  let buffer := a.buffer ++ chunk
  let (frames, rest) := cutFrames (buffer.length + 1) buffer
  (frames, ⟨rest⟩)

/-! ### Replies -/

def RESPONSE_COMMAND : ℕ := 0

def RESPONSE_STATUS : ℕ := 1

def RESPONSE_HEADER_LENGTH : ℕ := 2

def RESPONSE_SUCCESS : Byte := 0x01

/-- `Response`: the envelope of a reply. -/
structure Response where
  command : Option Byte
  succeeded : Option Bool
  data : Bytes
  deriving DecidableEq, Repr

/-- `Response.parse`. -/
def Response.parse (payload : Bytes) : Response where
  command := payload[RESPONSE_COMMAND]?
  succeeded := payload[RESPONSE_STATUS]?.map (· == RESPONSE_SUCCESS)
  data := payload.drop RESPONSE_HEADER_LENGTH

/-- `_LOCKED_STATES.get`. -/
def lockedStates (b : Byte) : Option Bool :=
  if b = 0 then some true else if b = 1 then some false else none

/-- `_DOOR_STATES.get`. -/
def doorStates (b : Byte) : Option Bool :=
  if b = 0 then some true else if b = 1 then some false else none

/-- `LockStatus`: what a lock reports about itself. -/
structure LockStatus where
  battery : Option ℤ
  locked : Option Bool
  doorOpen : Option Bool
  deriving DecidableEq, Repr

/-- `LockStatus.parse`. -/
def LockStatus.parse (payload : Bytes) : LockStatus :=
  let data := (Response.parse payload).data
  { battery := data[0]?.map fun b => (b.toNat : ℤ)
    locked := data[1]?.bind lockedStates
    doorOpen := data[2]?.bind doorStates }

end TTLockConnect.Ble.Protocol
