import Mathlib.Data.Int.Notation
import Mathlib.Data.List.Basic
import Mathlib.Data.Nat.Notation

/-! # Exceptions, and text read as numbers and bytes

The exceptions the code tells apart, and the readings of text that Python's standard library gives
it: `str.strip`, `int`, `bytes.fromhex` and `base64.b64decode`. The decimal digits of every script
are digits for `int`; for the other two only the ASCII ones are. -/

namespace TTLockConnect.Text

/-! ### Exceptions -/

/-- The exceptions raised or told apart by the modelled code. -/
inductive PyError where
  | requestFailed
  | validationError
  | valueError
  | typeError
  | overflowError
  | bleError
  | bleNotInRange
  | bleConnectionError
  | bleNoResponse
  | bleakError
  | timeoutError
  | invalidStateError
  | frameError
  | checksumError
  | decryptError
  | unsupportedProtocol
  | updateFailed
  | runtimeError
  | keyError
  | indexError
  | attributeError
  | clientResponseError
  | cancelled
  deriving DecidableEq, Repr

/-- Caught by `except Exception`: everything but a cancellation. -/
def PyError.isException : PyError → Bool
  | .cancelled => false
  | _ => true

/-- Caught by `except ValueError`; pydantic's `ValidationError` is a `ValueError`. -/
def PyError.isValueError : PyError → Bool
  | .valueError | .validationError => true
  | _ => false

/-- Caught by `except BleError`. -/
def PyError.isBleError : PyError → Bool
  | .bleError | .bleNotInRange | .bleConnectionError | .bleNoResponse => true
  | _ => false

/-- Caught by `except ProtocolError`. -/
def PyError.isProtocolError : PyError → Bool
  | .frameError | .checksumError | .decryptError | .unsupportedProtocol => true
  | _ => false

/-! ### Whitespace -/

/-- Whitespace that `str.strip` skips. -/
def isSpace (c : Char) : Bool :=
  let n := c.toNat
  (9 ≤ n && n ≤ 13) || (28 ≤ n && n ≤ 32) || n = 0x85 || n = 0xA0 || n = 0x1680 ||
    (0x2000 ≤ n && n ≤ 0x200A) || n = 0x2028 || n = 0x2029 || n = 0x202F || n = 0x205F || n = 0x3000

/-- Whitespace of C's `isspace`, which `bytes.fromhex` skips. -/
def isAsciiSpace (c : Char) : Bool := (9 ≤ c.toNat && c.toNat ≤ 13) || c.toNat = 32

/-- The text between the characters at its two ends that `p` holds of. -/
def stripBy (p : Char → Bool) (cs : List Char) : List Char :=
  ((cs.dropWhile p).reverse.dropWhile p).reverse

/-- `str.strip`. -/
def strip (cs : List Char) : List Char := stripBy isSpace cs

/-! ### Decimal digits of every script -/

/-- The zeros of the scripts that have decimal digits, each with its other nine digits behind it, in
Unicode 15.1, the version of Python 3.13. -/
def decimalZeros : List ℕ :=
  [0x30, 0x660, 0x6F0, 0x7C0, 0x966, 0x9E6, 0xA66, 0xAE6, 0xB66, 0xBE6, 0xC66, 0xCE6, 0xD66, 0xDE6,
    0xE50, 0xED0, 0xF20, 0x1040, 0x1090, 0x17E0, 0x1810, 0x1946, 0x19D0, 0x1A80, 0x1A90, 0x1B50,
    0x1BB0, 0x1C40, 0x1C50, 0xA620, 0xA8D0, 0xA900, 0xA9D0, 0xA9F0, 0xAA50, 0xABF0, 0xFF10, 0x104A0,
    0x10D30, 0x11066, 0x110F0, 0x11136, 0x111D0, 0x112F0, 0x11450, 0x114D0, 0x11650, 0x116C0,
    0x11730, 0x118E0, 0x11950, 0x11C50, 0x11D50, 0x11DA0, 0x11F50, 0x16A60, 0x16AC0, 0x16B50,
    0x1D7CE, 0x1D7D8, 0x1D7E2, 0x1D7EC, 0x1D7F6, 0x1E140, 0x1E2F0, 0x1E4F0, 0x1E950, 0x1FBF0]

/-- The value of a decimal digit. -/
def decimal (c : Char) : Option ℕ :=
  (decimalZeros.find? fun z => z ≤ c.toNat && c.toNat < z + 10).map (c.toNat - ·)

/-- The character as `int` reads it: every decimal digit is the ASCII one of its value, whitespace
beyond ASCII a blank, and nothing else beyond ASCII can stand in a number. -/
def asciiDigit (c : Char) : Char :=
  if c.toNat < 127 then c
  else if isSpace c then ' '
  else ((decimal c).map Nat.digitChar).getD '?'

/-- The text that `int` reads. -/
def intText (value : List Char) : List Char := stripBy isAsciiSpace (value.map asciiDigit)

/-! ### Numbers -/

/-- The value of a hexadecimal digit. -/
def hexDigit (c : Char) : Option ℕ :=
  if '0' ≤ c ∧ c ≤ '9' then some (c.toNat - '0'.toNat)
  else if 'a' ≤ c ∧ c ≤ 'f' then some (c.toNat - 'a'.toNat + 10)
  else if 'A' ≤ c ∧ c ≤ 'F' then some (c.toNat - 'A'.toNat + 10)
  else none

/-- The value of a digit to this base, at most 16. -/
def digit (base : ℕ) (c : Char) : Option ℕ := (hexDigit c).filter (· < base)

/-- Digits with single underscores between them, the value `n` of those already read in front;
`sep` says that the text may end here, or an underscore come next. -/
def digits (base : ℕ) : List Char → ℕ → Bool → Option ℕ
  | [], n, sep => if sep then some n else none
  | '_' :: cs, n, sep => if sep then digits base cs n false else none
  | c :: cs, n, _ => (digit base c).bind fun d => digits base cs (base * n + d) true

/-- The digits of `int(value, 16)` behind the sign, with their optional prefix `0x`. -/
def hexBody : List Char → Option ℕ
  | '0' :: 'x' :: '_' :: cs | '0' :: 'X' :: '_' :: cs => digits 16 cs 0 false
  | '0' :: 'x' :: cs | '0' :: 'X' :: cs => digits 16 cs 0 false
  | cs => digits 16 cs 0 false

/-- The most digits `int(value)` reads. -/
def maxStrDigits : ℕ := 4300

/-- The digits of `int(value)` behind the sign. -/
def decBody (cs : List Char) : Option ℕ :=
  if maxStrDigits < (cs.filter (· != '_')).length then none else digits 10 cs 0 false

/-- An optional sign, and what follows it read by `body`. -/
def signed (body : List Char → Option ℕ) : List Char → Option ℤ
  | '-' :: cs => (body cs).map fun n => -(n : ℤ)
  | '+' :: cs => (body cs).map Int.ofNat
  | cs => (body cs).map Int.ofNat

/-- `int(value, 16)`. -/
def intHex (value : String) : Except PyError ℤ :=
  match signed hexBody (intText value.toList) with
  | some n => .ok n
  | none => .error .valueError

/-- `int(value)`. -/
def intDec (value : List Char) : Except PyError ℤ :=
  match signed decBody (intText value) with
  | some n => .ok n
  | none => .error .valueError

example : intDec ['-', Char.ofNat 0x664, '2', ' '] = .ok (-42) := by decide

/-! ### Bytes -/

/-- `bytes.fromhex`. -/
def fromHex : List Char → Option (List (BitVec 8))
  | [] => some []
  | [c] => if isAsciiSpace c then some [] else none
  | c :: d :: cs =>
    if isAsciiSpace c then fromHex (d :: cs)
    else do
      let hi ← hexDigit c
      let lo ← hexDigit d
      let bytes ← fromHex cs
      pure (BitVec.ofNat 8 (16 * hi + lo) :: bytes)

/-- The value of a base64 digit. -/
def b64Digit (c : Char) : Option ℕ :=
  if 'A' ≤ c ∧ c ≤ 'Z' then some (c.toNat - 'A'.toNat)
  else if 'a' ≤ c ∧ c ≤ 'z' then some (c.toNat - 'a'.toNat + 26)
  else if '0' ≤ c ∧ c ≤ '9' then some (c.toNat - '0'.toNat + 52)
  else if c = '+' then some 62
  else if c = '/' then some 63
  else none

/-- The bytes of a sequence of base64 digits. -/
def b64Bytes : List ℕ → List (BitVec 8)
  | a :: b :: c :: d :: rest =>
    BitVec.ofNat 8 (4 * a + b / 16) :: BitVec.ofNat 8 (16 * b + c / 4) ::
      BitVec.ofNat 8 (64 * c + d) :: b64Bytes rest
  | [a, b, c] => [BitVec.ofNat 8 (4 * a + b / 16), BitVec.ofNat 8 (16 * b + c / 4)]
  | [a, b] => [BitVec.ofNat 8 (4 * a + b / 16)]
  | _ => []

/-- The padding behind `n` base64 digits, if so many can stand. -/
def b64Padding (n : ℕ) : Option (List Char) :=
  if n % 4 = 0 then some []
  else if n % 4 = 2 then some ['=', '=']
  else if n % 4 = 3 then some ['=']
  else none

/-- `base64.b64decode(value, validate=True)`: digits, then exactly the padding they need. -/
def b64decode (cs : List Char) : Option (List (BitVec 8)) :=
  let ds := cs.takeWhile fun c => (b64Digit c).isSome
  if b64Padding ds.length = some (cs.drop ds.length) then
    some (b64Bytes (ds.filterMap b64Digit))
  else none

end TTLockConnect.Text
