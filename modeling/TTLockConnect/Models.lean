import TTLockConnect.Text
import Mathlib.Algebra.Group.Int.Defs

/-! # The data read from the cloud API and from its webhooks

The records of `models.py`, with the fields the modelled code reads, and the points in time the code
compares. -/

namespace TTLockConnect.Models

open TTLockConnect.Text

/-! ### Time -/

/-- A point in time, in microseconds since the epoch. -/
abbrev Instant := ℤ

/-- A length of time, in microseconds. -/
abbrev Duration := ℤ

def Duration.ofSeconds (n : ℤ) : Duration := n * 1000000

def Duration.ofHours (n : ℤ) : Duration := Duration.ofSeconds (n * 3600)

def Duration.ofDays (n : ℤ) : Duration := Duration.ofHours (n * 24)

/-- A local datetime: the point in time and the offset of local time from UTC, in seconds. -/
structure LocalTime where
  instant : Instant
  offset : ℤ
  deriving DecidableEq, Repr

namespace LocalTime

/-- What the wall clock shows, in microseconds. Python compares two datetimes of one time zone by it,
and reckons with it when a `timedelta` is added or subtracted. -/
def wall (t : LocalTime) : ℤ := t.instant + Duration.ofSeconds t.offset

/-- Local wall-clock time, in whole minutes since the epoch. -/
def wallMinutes (t : LocalTime) : ℤ := t.wall / 60000000

/-- Monday is 1 and Sunday 7; the epoch was a Thursday. -/
def isoweekday (t : LocalTime) : ℤ := (t.wallMinutes / 1440 + 3) % 7 + 1

/-- `hour * 60 + minute`. -/
def minuteOfDay (t : LocalTime) : ℤ := t.wallMinutes % 1440

end LocalTime

/-! ### Enumerations -/

/-- `OnOff`, whose truth value is `on`. -/
inductive OnOff where
  | unknown
  | on
  | off
  deriving DecidableEq, Repr

def OnOff.toBool : OnOff → Bool
  | .on => true
  | _ => false

/-- `State`: the open state of a lock. -/
inductive State where
  | locked
  | unlocked
  | unknown
  deriving DecidableEq, Repr

/-- `SensorState`: the state of a door sensor. -/
inductive SensorState where
  | opened
  | closed
  | unknown
  deriving DecidableEq, Repr

/-- `Action`: what an event did to the lock. -/
inductive Action where
  | unknown
  | lock
  | unlock
  | open
  | close
  deriving DecidableEq, Repr

/-! ### Feature bits -/

/-- `Features`: a mask of feature bits. -/
abbrev Features := ℕ

/-- The position of `Features.door_sensor`. -/
def doorSensorBit : ℕ := 13

/-- The position of `Features.wifi`. -/
def wifiBit : ℕ := 56

/-- `flag in features`, for the flag with this bit. -/
def Features.has (f : Features) (bit : ℕ) : Bool := f.testBit bit

/-- The mask `Features(n)`: of a negative number, its two's complement over the 57 bits up to the
highest flag, or over its own bits if these are more. -/
def Features.ofInt (n : ℤ) : Features :=
  if 0 ≤ n then n.toNat
  else if -2 ^ 57 ≤ n then (2 ^ 57 + n).toNat
  else (2 ^ (n.natAbs.log2 + 1) + n).toNat

/-- `Features.from_feature_value`. -/
def Features.fromFeatureValue : Option String → Except PyError Features
  | none => .ok 0
  | some v => if v = "" then .ok 0 else (intHex v).map Features.ofInt

/-! ### Locks, sensors, gateways -/

/-- The `lockVersion` object as the cloud returns it. -/
abbrev LockVersionPayload := List (String × ℤ)

/-- `Lock`: the fields of `lock/detail` a poll reads. -/
structure Lock where
  name : String
  mac : String
  model : Option String
  featureValue : Option String
  batteryLevel : Option ℤ
  hardwareRevision : Option String
  firmwareRevision : Option String
  autoLockTime : Option ℤ
  lockSound : OnOff
  lockVersion : Option LockVersionPayload
  aesKeyStr : Option String
  deriving DecidableEq, Repr

/-- `Sensor`: the field of `doorSensor/query` a poll reads. -/
structure Sensor where
  batteryLevel : Option ℤ
  deriving DecidableEq, Repr

/-- `GatewayLink`: a gateway in range of a lock. -/
structure GatewayLink where
  id : ℤ
  name : String
  mac : String
  rssi : ℤ
  deriving DecidableEq, Repr

/-- `PassageModeConfig`. -/
structure PassageModeConfig where
  enabled : OnOff
  startMinute : ℤ
  endMinute : ℤ
  allDay : OnOff
  weekDays : List ℤ
  autoUnlock : OnOff
  deriving DecidableEq, Repr

/-- `Passcode`; `type` is the number of the `PasscodeType`. -/
structure Passcode where
  id : Option ℤ
  passcode : Option String
  name : Option String
  type : Option ℤ
  startDate : Option LocalTime
  endDate : Option LocalTime
  deriving DecidableEq, Repr

/-- The types of `Passcode.expired` that have an end: `period`, `one_time`, `delete`, `weekends`,
`daily`, `weekdays` and the single days from `mondays` to `sundays`. -/
def Passcode.timeBoundedTypes : List ℤ := [3, 1, 4, 5, 6, 7, 8, 9, 10, 11, 12, 13, 14]

/-- `Passcode.expired`, at `now`. -/
def Passcode.expired (p : Passcode) (now : LocalTime) : Bool :=
  match p.type, p.endDate with
  | some type, some endDate => timeBoundedTypes.contains type && decide (endDate.wall < now.wall)
  | _, _ => false

/-- `Ekey`: the fields the credential sensors read. -/
structure Ekey where
  id : Option ℤ
  name : Option String
  username : Option String
  status : String
  startDate : Option LocalTime
  endDate : Option LocalTime
  remoteEnable : OnOff
  deriving DecidableEq, Repr

/-! ### The lock state of the cloud -/

/-- A field of a JSON reply that holds a number or nothing. -/
inductive JsonField where
  | absent
  | null
  | int (n : ℤ)
  | other
  deriving DecidableEq, Repr

/-- The reply body of `lock/queryOpenState`. -/
structure OpenStateBody where
  state : JsonField
  sensorState : JsonField
  deriving DecidableEq, Repr

/-- `models.LockState`: the open state of a lock, and of its door, in one reading. -/
structure WireLockState where
  locked : Option State
  opened : Option SensorState
  deriving DecidableEq, Repr

namespace WireLockState

/-- The field `state`: `State | None`, by default `State.unknown`. -/
def lockedOf : JsonField → Except PyError (Option State)
  | .absent => .ok (some .unknown)
  | .null => .ok none
  | .int 0 => .ok (some .locked)
  | .int 1 => .ok (some .unlocked)
  | .int 2 => .ok (some .unknown)
  | _ => .error .validationError

/-- The field `sensorState`: `SensorState | None`, by default `SensorState.unknown`. -/
def openedOf : JsonField → Except PyError (Option SensorState)
  | .absent => .ok (some .unknown)
  | .null => .ok none
  | .int 0 => .ok (some .opened)
  | .int 1 => .ok (some .closed)
  | _ => .error .validationError

/-- `LockState.model_validate`. -/
def modelValidate (body : OpenStateBody) : Except PyError WireLockState := do
  let locked ← lockedOf body.state
  let opened ← openedOf body.sensorState
  pure ⟨locked, opened⟩

end WireLockState

/-! ### Webhook events -/

/-- `EventDescription`. -/
structure EventDescription where
  action : Action
  description : String
  deriving DecidableEq, Repr

/-- `Event.EVENTS`. -/
def EVENTS : List (ℤ × EventDescription) :=
  [(1, ⟨.unlock, "unlock by app"⟩),
   (4, ⟨.unlock, "unlock by passcode"⟩),
   (7, ⟨.unlock, "unlock by IC card"⟩),
   (8, ⟨.unlock, "unlock by fingerprint"⟩),
   (9, ⟨.unlock, "unlock by wrist strap"⟩),
   (10, ⟨.unlock, "unlock by Mechanical key"⟩),
   (11, ⟨.lock, "lock by app"⟩),
   (12, ⟨.unlock, "unlock by gateway"⟩),
   (29, ⟨.unknown, "apply some force on the Lock"⟩),
   (30, ⟨.close, "Door sensor closed"⟩),
   (31, ⟨.open, "Door sensor open"⟩),
   (32, ⟨.open, "open from inside"⟩),
   (33, ⟨.lock, "lock by fingerprint"⟩),
   (34, ⟨.lock, "lock by passcode"⟩),
   (35, ⟨.lock, "lock by IC card"⟩),
   (36, ⟨.lock, "lock by Mechanical key"⟩),
   (37, ⟨.unknown, "Remote Control"⟩),
   (42, ⟨.unknown, "received new local mail"⟩),
   (43, ⟨.unknown, "received new other cities' mail"⟩),
   (44, ⟨.unknown, "Tamper alert"⟩),
   (45, ⟨.lock, "Auto Lock"⟩),
   (46, ⟨.unlock, "unlock by unlock key"⟩),
   (47, ⟨.lock, "lock by lock key"⟩),
   (48, ⟨.unknown, "System locked ( Caused by, for example: Using INVALID Passcode/Fingerprint/Card several times)"⟩),
   (49, ⟨.unlock, "unlock by hotel card"⟩),
   (50, ⟨.unlock, "unlocked due to the high temperature"⟩),
   (51, ⟨.unknown, "Try to unlock with a deleted card"⟩),
   (52, ⟨.unknown, "Dead lock with APP"⟩),
   (53, ⟨.unknown, "Dead lock with passcode"⟩),
   (54, ⟨.unknown, "The car left (for parking lock)"⟩),
   (55, ⟨.unlock, "unlock with key fob"⟩),
   (57, ⟨.unlock, "unlock with QR code success"⟩),
   (58, ⟨.unknown, "Unlock with QR code failed, it's expired"⟩),
   (59, ⟨.unknown, "Double locked"⟩),
   (60, ⟨.unknown, "Cancel double lock"⟩),
   (61, ⟨.lock, "Lock with QR code success"⟩),
   (62, ⟨.unknown, "Lock with QR code failed, the lock is double locked"⟩),
   (63, ⟨.unlock, "auto unlock at passage mode"⟩),
   (67, ⟨.unlock, "3D Face Unlock Success"⟩),
   (68, ⟨.unknown, "3D Face Unlock Failed (Locked)"⟩),
   (69, ⟨.lock, "Locked via 3D Face"⟩),
   (71, ⟨.unknown, "3D Face Recognition Failed (Expired)"⟩)]

/-- `Event`: a record type that `Event.validate` has found in `EVENTS`. -/
structure Event where
  value : ℤ
  known : (EVENTS.lookup value).isSome
  deriving DecidableEq, Repr

namespace Event

/-- `Event._info`. -/
def info (e : Event) : EventDescription := (EVENTS.lookup e.value).get e.known

/-- `Event.action`. -/
def action (e : Event) : Action := e.info.action

/-- `Event.description`. -/
def description (e : Event) : String := e.info.description

end Event

/-- `WebhookEvent`. -/
structure WebhookEvent where
  id : ℤ
  mac : String
  batteryLevel : Option ℤ
  serverTs : LocalTime
  lockTs : LocalTime
  event : Event
  user : Option String
  success : Bool
  deriving DecidableEq, Repr

namespace WebhookEvent

/-- `WebhookEvent.state`: the end state of the lock after the event. -/
def state (e : WebhookEvent) : WireLockState :=
  if e.success ∧ e.event.action = .lock then ⟨some .locked, some .unknown⟩
  else if e.success ∧ e.event.action = .unlock then ⟨some .unlocked, some .unknown⟩
  else ⟨none, some .unknown⟩

/-- `WebhookEvent.sensorState`: the end state of the sensor after the event. -/
def sensorState (e : WebhookEvent) : WireLockState :=
  if e.success ∧ e.event.action = .close then ⟨some .locked, some .closed⟩
  else if e.success ∧ e.event.action = .open then ⟨some .unknown, some .opened⟩
  else ⟨some .unknown, none⟩

end WebhookEvent

end TTLockConnect.Models
