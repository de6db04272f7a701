import TTLockConnect.Ble.Protocol

/-! # The AES key of a lock

`parse_aes_key`: the cloud does not document the encoding of `aesKeyStr`, so each known one is tried
in turn. -/

namespace TTLockConnect.Ble.Key

open TTLockConnect.Text TTLockConnect.Ble.Cipher TTLockConnect.Ble.Protocol

/-- `_HEX_SEPARATORS`. -/
def HEX_SEPARATORS : List Char := [':', '-', ',', '.']

/-- `_key_from_delimited_hex`: sixteen tokens of two characters. -/
def keyFromDelimitedHex (value : List Char) : Option Bytes :=
  HEX_SEPARATORS.findSome? fun separator =>
    if separator ∉ value then none
    else
      let tokens := value.splitOn separator
      if tokens.length ≠ AES_KEY_LENGTH then none
      else if ¬ tokens.all (·.length == 2) then none
      else fromHex tokens.flatten

/-- `_key_from_hex`. -/
def keyFromHex (value : List Char) : Option Bytes := do
  let key ← fromHex (value.filter (· ∉ HEX_SEPARATORS))
  if key.length = AES_KEY_LENGTH then some key else none

/-- `_key_from_signed_bytes`: Java's signed bytes. -/
def keyFromSignedBytes (value : List Char) : Option Bytes :=
  if ',' ∉ value then none
  else
    match (value.splitOn ',').mapM intDec with
    | .error _ => none
    | .ok numbers =>
      if numbers.length ≠ AES_KEY_LENGTH ∨ numbers.any (fun n => ¬ (-128 ≤ n ∧ n ≤ 255)) then none
      else some (numbers.map (BitVec.ofInt 8))

/-- `_key_from_base64`. -/
def keyFromBase64 (value : List Char) : Option Bytes := do
  let key ← b64decode value
  if key.length = AES_KEY_LENGTH then some key else none

/-- `parse_aes_key`. -/
def parseAesKey (value : String) : Except PyError Bytes :=
  let value := strip value.toList
  if value = [] then .error .valueError
  else
    match [keyFromDelimitedHex, keyFromSignedBytes, keyFromHex, keyFromBase64].findSome?
      (· value) with
    | some key => .ok key
    | none => .error .valueError

end TTLockConnect.Ble.Key
