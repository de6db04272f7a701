import TTLockConnect.Api
import TTLockConnect.Diagnostics.Redaction

/-! # The replies of the cloud API

What `TTLockApi` makes of a reply: the record that `model_validate` reads from its body. Two bodies
that differ only in secrets are read as records that differ only in secrets, or fail alike. -/

namespace TTLockConnect.Diagnostics.Replies

open TTLockConnect.Text TTLockConnect.Models TTLockConnect.Api TTLockConnect.Webhook.Records
open TTLockConnect.Diagnostics.Redaction

/-! ### Values of the basic types -/

/-- What the code relies on of pydantic: a text is read from a text only, and a list or a dict is
neither a number nor a truth value. -/
structure Lawful (lib : Library) : Prop where
  asStr_str : ∀ s, lib.asStr (.str s) = some s
  asStr_other : ∀ v, (∀ s, v ≠ .str s) → lib.asStr v = none
  asInt_list : ∀ items, lib.asInt (.list items) = none
  asInt_dict : ∀ fields, lib.asInt (.dict fields) = none
  asBool_list : ∀ items, lib.asBool (.list items) = none
  asBool_dict : ∀ fields, lib.asBool (.dict fields) = none

/-- The integer that a value is equal to, if any; a truth value is an integer too. -/
def equalInt (lib : Library) : JsonValue → Option ℤ
  | .int n => some n
  | .bool b => some (if b then 1 else 0)
  | .float literal => lib.asInt (.float literal)
  | _ => none

/-- The truth value of a value. -/
def truthy (lib : Library) : JsonValue → Bool
  | .null => false
  | .str s => s ≠ ""
  | .list items => !items.isEmpty
  | .dict fields => !fields.isEmpty
  | v => equalInt lib v ≠ some 0

/-- The member of `OnOff` with this value; `OpenDirection` has the same values. -/
def OnOff.of (lib : Library) (v : JsonValue) : Option OnOff :=
  match equalInt lib v with
  | some 0 => some .unknown
  | some 1 => some .on
  | some 2 => some .off
  | _ => none

/-- The member of `PasscodeType`, an `IntEnum`, by its number. -/
def PasscodeType.of (lib : Library) (v : JsonValue) : Option ℤ :=
  (lib.asInt v).filter fun n => 0 ≤ n ∧ n ≤ 14

/-- `EkeyStatus`, by its name; any other value is `unknown`. -/
def EkeyStatus.of : JsonValue → String
  | .str "110401" => "normal"
  | .str "110402" => "pending"
  | .str "110405" => "frozen"
  | .str "110408" => "deleted"
  | .str "110410" => "reset"
  | _ => "unknown"

/-! ### Fields -/

section Fields
variable (fields : List (String × JsonValue)) {α β : Type}

/-- A field that must be there, of a type without exceptions of its own. -/
def present (key : String) (validate : JsonValue → Option α) : Option α :=
  (fields.lookup key).bind validate

/-- A field with a default. -/
def defaulted (key : String) (default : α) (validate : JsonValue → Option α) : Option α :=
  match fields.lookup key with
  | some v => validate v
  | none => some default

/-- A value as `EpochMs | None`, behind a validator that may replace it. -/
def epochOf (lib : Library) (before : JsonValue → JsonValue) (v : JsonValue) :
    Except PyError (Option (Option LocalTime)) :=
  match before v with
  | .null => .ok (some none)
  | v => (collected (EpochMs.validate lib v)).map (Option.map some)

/-- A field `EpochMs | None`. -/
def optionalEpoch (lib : Library) (before : JsonValue → JsonValue) (key : String) :
    Except PyError (Option (Option LocalTime)) :=
  match fields.lookup key with
  | none => .ok (some none)
  | some v => epochOf lib before v

/-- The record, or a `ValidationError` if a field was refused. -/
def orInvalid : Option α → Except PyError α
  | some a => .ok a
  | none => .error .validationError

end Fields

/-- `_zero_is_permanent`: `value or None`. -/
def zeroIsPermanent (lib : Library) (v : JsonValue) : JsonValue := if truthy lib v then v else .null

/-- `_set_start_minute` and `_set_end_minute`: `value or 0`. -/
def orZero (lib : Library) (v : JsonValue) : JsonValue := if truthy lib v then v else .int 0

/-- `list[int]`. -/
def asIntList (lib : Library) : JsonValue → Option (List ℤ)
  | .list items => items.mapM lib.asInt
  | _ => none

/-- `dict[str, int]`. -/
def asVersion (lib : Library) : JsonValue → Option LockVersionPayload
  | .dict fields => fields.mapM fun e => (lib.asInt e.2).map fun n => (e.1, n)
  | _ => none

/-! ### `model_validate` -/

/-- `Passcode.model_validate`. -/
def Passcode.modelValidate (lib : Library) : JsonValue → Except PyError Passcode
  | .dict fields => do
    let startDate ← optionalEpoch fields lib id "startDate"
    let endDate ← optionalEpoch fields lib id "endDate"
    orInvalid ((optional fields "keyboardPwd" lib.asStr).bind fun passcode => do
      let id ← optional fields "keyboardPwdId" lib.asInt
      let name ← optional fields "keyboardPwdName" lib.asStr
      let type ← optional fields "keyboardPwdType" (PasscodeType.of lib)
      let startDate ← startDate
      let endDate ← endDate
      some { id, passcode, name, type, startDate, endDate })
  | _ => .error .validationError

/-- `Ekey.model_validate`. -/
def Ekey.modelValidate (lib : Library) : JsonValue → Except PyError Ekey
  | .dict fields => do
    let startDate ← optionalEpoch fields lib (zeroIsPermanent lib) "startDate"
    let endDate ← optionalEpoch fields lib (zeroIsPermanent lib) "endDate"
    orInvalid ((optional fields "username" lib.asStr).bind fun username => do
      let id ← optional fields "keyId" lib.asInt
      let _lockId ← optional fields "lockId" lib.asInt
      let name ← optional fields "keyName" lib.asStr
      let _sender ← optional fields "senderUsername" lib.asStr
      let status ← defaulted fields "keyStatus" "unknown" fun v => some (EkeyStatus.of v)
      let _keyRight ← optional fields "keyRight" lib.asInt
      let remoteEnable ← defaulted fields "remoteEnable" .unknown (OnOff.of lib)
      let _remarks ← optional fields "remarks" lib.asStr
      let startDate ← startDate
      let endDate ← endDate
      some { id, name, username, status, startDate, endDate, remoteEnable })
  | _ => .error .validationError

/-- `Lock.model_validate`. -/
def Lock.modelValidate (lib : Library) : JsonValue → Except PyError Lock
  | .dict fields =>
    orInvalid ((present fields "adminPwd" lib.asStr).bind fun _noKeyPwd =>
      (optional fields "aesKeyStr" lib.asStr).bind fun aesKeyStr => do
      let mac ← present fields "lockMac" lib.asStr
      let _id ← present fields "lockId" lib.asInt
      let _type ← present fields "lockName" lib.asStr
      let name ← defaulted fields "lockAlias" "Lock" lib.asStr
      let batteryLevel ← optional fields "electricQuantity" lib.asInt
      let featureValue ← optional fields "featureValue" lib.asStr
      let _timezoneRawOffset ← defaulted fields "timezoneRawOffset" 0 lib.asInt
      let model ← optional fields "modelNum" lib.asStr
      let hardwareRevision ← optional fields "hardwareRevision" lib.asStr
      let firmwareRevision ← optional fields "firmwareRevision" lib.asStr
      let autoLockTime ← optional fields "autoLockTime" lib.asInt
      let lockSound ← defaulted fields "lockSound" .unknown (OnOff.of lib)
      let _privacyLock ← defaulted fields "privacyLock" .unknown (OnOff.of lib)
      let _tamperAlert ← defaulted fields "tamperAlert" .unknown (OnOff.of lib)
      let _resetButton ← defaulted fields "resetButton" .unknown (OnOff.of lib)
      let _openDirection ← defaulted fields "openDirection" .unknown (OnOff.of lib)
      let _passageMode ← defaulted fields "passageMode" .unknown (OnOff.of lib)
      let _autoUnlock ← defaulted fields "passageModeAutoUnlock" .unknown (OnOff.of lib)
      let _date ← present fields "date" lib.asInt
      let lockVersion ← optional fields "lockVersion" (asVersion lib)
      some {
        name, model, featureValue, batteryLevel, hardwareRevision, firmwareRevision, autoLockTime,
        lockSound, lockVersion, aesKeyStr
        mac := mac.toUpper })
  | _ => .error .validationError

/-- `Sensor.model_validate`. -/
def Sensor.modelValidate (lib : Library) : JsonValue → Except PyError Sensor
  | .dict fields => orInvalid do
    let _id ← present fields "doorSensorId" lib.asInt
    let _name ← defaulted fields "name" "Sensor" lib.asStr
    let batteryLevel ← optional fields "electricQuantity" lib.asInt
    let _mac ← present fields "mac" lib.asStr
    some { batteryLevel }
  | _ => .error .validationError

/-- `GatewayLink.model_validate`. -/
def GatewayLink.modelValidate (lib : Library) : JsonValue → Except PyError GatewayLink
  | .dict fields => orInvalid do
    let id ← present fields "gatewayId" lib.asInt
    let name ← present fields "gatewayName" lib.asStr
    let mac ← present fields "gatewayMac" lib.asStr
    let rssi ← present fields "rssi" lib.asInt
    some { id, name, mac, rssi }
  | _ => .error .validationError

/-- `Gateway`. -/
structure Gateway where
  id : ℤ
  name : String
  mac : String
  isOnline : Bool
  networkName : Option String
  deriving DecidableEq, Repr

/-- `Gateway.model_validate`. -/
def Gateway.modelValidate (lib : Library) : JsonValue → Except PyError Gateway
  | .dict fields => orInvalid do
    let id ← present fields "gatewayId" lib.asInt
    let name ← present fields "gatewayName" lib.asStr
    let mac ← present fields "gatewayMac" lib.asStr
    let isOnline ← present fields "isOnline" lib.asBool
    let networkName ← optional fields "networkName" lib.asStr
    some { id, name, mac, isOnline, networkName }
  | _ => .error .validationError

/-- `LockSummary`. -/
structure LockSummary where
  mac : String
  id : ℤ
  name : String
  featureValue : Option String
  hasGateway : ℤ
  deriving DecidableEq, Repr

/-- `LockSummary.model_validate`. -/
def LockSummary.modelValidate (lib : Library) : JsonValue → Except PyError LockSummary
  | .dict fields =>
    orInvalid ((optional fields "lockData" lib.asStr).bind fun _lockData => do
      let mac ← present fields "lockMac" lib.asStr
      let id ← present fields "lockId" lib.asInt
      let name ← defaulted fields "lockAlias" "Lock" lib.asStr
      let featureValue ← optional fields "featureValue" lib.asStr
      let hasGateway ← defaulted fields "hasGateway" 0 lib.asInt
      some { mac := mac.toUpper, id, name, featureValue, hasGateway })
  | _ => .error .validationError

/-- `PassageModeConfig.model_validate`. -/
def PassageModeConfig.modelValidate (lib : Library) : JsonValue → Except PyError PassageModeConfig
  | .dict fields => orInvalid do
    let enabled ← defaulted fields "passageMode" .unknown (OnOff.of lib)
    let startMinute ← defaulted fields "startDate" 0 fun v => lib.asInt (orZero lib v)
    let endMinute ← defaulted fields "endDate" 0 fun v => lib.asInt (orZero lib v)
    let allDay ← defaulted fields "isAllDay" .unknown (OnOff.of lib)
    let weekDays ← defaulted fields "weekDays" [] (asIntList lib)
    let autoUnlock ← defaulted fields "autoUnlock" .unknown (OnOff.of lib)
    some { enabled, startMinute, endMinute, allDay, weekDays, autoUnlock }
  | _ => .error .validationError

/-- A field of the reply of `lock/queryOpenState`. -/
def jsonField (lib : Library) : Option JsonValue → JsonField
  | none => .absent
  | some .null => .null
  | some v =>
    match equalInt lib v with
    | some n => .int n
    | none => .other

/-- The fields that `LockState.model_validate` reads. -/
def openStateBody (lib : Library) : JsonValue → Except PyError OpenStateBody
  | .dict fields =>
    .ok ⟨jsonField lib (fields.lookup "state"), jsonField lib (fields.lookup "sensorState")⟩
  | _ => .error .validationError

/-- The reply to a command. -/
def commandBody (lib : Library) : JsonValue → Except PyError CommandBody
  | .dict fields => .ok ⟨(fields.lookup "errcode").map fun v => (equalInt lib v).getD 1⟩
  | _ => .error .typeError

/-- `[T.model_validate(x) for x in res["list"]]`. -/
def listOf {α : Type} (validate : JsonValue → Except PyError α) : JsonValue → Except PyError (List α)
  | .dict fields =>
    match fields.lookup "list" with
    | some v => iterate v >>= List.mapM validate
    | none => .error .keyError
  | _ => .error .typeError

/-- What a method of `TTLockApi` makes of the body of the reply to its request. -/
def validate (lib : Library) : (q : Request) → JsonValue → Except PyError (Reply q)
  | .detail _ => Lock.modelValidate lib
  | .doorSensor _ => Sensor.modelValidate lib
  | .queryOpenState _ => openStateBody lib
  | .passageModeConfig _ => PassageModeConfig.modelValidate lib
  | .listByLock _ => listOf (GatewayLink.modelValidate lib)
  | .listKeyboardPwd _ => listOf (Passcode.modelValidate lib)
  | .listKey _ => listOf (Ekey.modelValidate lib)
  | .lock _ | .unlock _ | .setAutoLockTime _ _ | .updateSetting _ _ => commandBody lib
  | .queryLockStatus _ _ _ _ | .storeLoad | .storeSave | .sleep _ => fun _ => .error .typeError

end TTLockConnect.Diagnostics.Replies
