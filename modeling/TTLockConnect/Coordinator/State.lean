import TTLockConnect.Ble.Key

/-! # The state of a lock's coordinator

`SensorData`, `LockState` and the attributes of `LockUpdateCoordinator`, with the predicates on them
that decide what a poll fetches. -/

namespace TTLockConnect.Coordinator.State

open TTLockConnect.Text TTLockConnect.Models TTLockConnect.Ble.Cipher TTLockConnect.Ble.Protocol
open TTLockConnect.Ble.Key

def SENSOR_ABSENT_AFTER_FAILURES : ℕ := 3

/-- `SensorData`: the state of the optional door sensor. -/
structure SensorData where
  opened : Option Bool := none
  battery : Option ℤ := none
  lastFetched : Option LocalTime := none
  deriving DecidableEq, Repr

/-- `SensorData.present`. -/
def SensorData.present (s : SensorData) : Bool := s.battery.isSome

/-- `sensor_present`. -/
def sensorPresent : Option SensorData → Bool
  | some s => s.present
  | none => false

/-- `LockState`: the state of the lock as the coordinator manages it. -/
structure LockState where
  name : String
  mac : String
  model : Option String := none
  batteryLevel : Option ℤ := none
  hardwareVersion : Option String := none
  firmwareVersion : Option String := none
  features : Features := 0
  locked : Option Bool := none
  actionPending : Bool := false
  lastUser : Option String := none
  lastReason : Option String := none
  lockSound : Option Bool := none
  sensor : Option SensorData := none
  autoLockSeconds : Option ℤ := none
  passageModeConfig : Option PassageModeConfig := none
  gateways : List GatewayLink := []
  passcodes : Option (List Passcode) := none
  ekeys : Option (List Ekey) := none
  deriving DecidableEq, Repr

namespace LockState

/-- `LockState.passage_mode_active`. -/
def passageModeActive (d : LockState) (currentDate : LocalTime) : Bool :=
  match d.passageModeConfig with
  | none => false
  | some config =>
    if config.enabled.toBool ∧ currentDate.isoweekday ∈ config.weekDays then
      config.allDay.toBool ||
        (config.startMinute ≤ currentDate.minuteOfDay && currentDate.minuteOfDay < config.endMinute)
    else false

/-- `LockState.auto_lock_delay`: the delay in seconds, if auto-lock is enabled. -/
def autoLockDelay (d : LockState) (currentDate : LocalTime) : Option ℤ :=
  match d.autoLockSeconds with
  | none => none
  | some seconds =>
    if seconds ≤ 0 then none
    else if d.passageModeActive currentDate then none
    else some seconds

/-- What a door sensor reports as open, a lock without one as unknown. -/
def opened (d : LockState) : Option Bool := d.sensor.bind SensorData.opened

end LockState

/-- The attributes `LockStateStore` persists for a lock. -/
structure StoreRecord where
  doorSensorConfirmedAbsent : Bool := false
  doorSensorLastFailedReq : Option LocalTime := none
  doorSensorCountFailedReq : ℕ := 0
  deriving DecidableEq, Repr

/-- `LockUpdateCoordinator`, with what it reads of Home Assistant: whether Bluetooth is available,
the webhook status of its config entry, the clock, and the lock's record in the shared
`LockStateStore`. -/
structure LockUpdateCoordinator where
  lockId : ℤ
  connectable : Bool
  hasGateway : Bool
  slowInterval : Duration
  /-- The options form takes at least an hour. -/
  slowInterval_pos : 0 < slowInterval
  webhookOnly : Bool
  bluetoothAvailable : Bool
  /-- `ble.in_range`. -/
  inRange : Bool := false
  /-- `entry.data[CONF_WEBHOOK_STATUS]`. -/
  webhookStatus : Bool := false
  bleVersion : Option LockVersionPayload := none
  bleKey : Option String := none
  sensorRecheckDone : Bool := false
  detailsLastFetched : Option LocalTime := none
  passageLastFetched : Option LocalTime := none
  gatewaysLastFetched : Option LocalTime := none
  codesLastFetched : Option LocalTime := none
  lastUpdateSuccess : Bool := true
  data : LockState
  store : StoreRecord := {}
  now : LocalTime
  /-- The offset of local time from UTC when the wall clock shows a day less than now. -/
  offsetDayAgo : ℤ := now.offset
  deriving DecidableEq, Repr

namespace LockUpdateCoordinator

/-- The point in time of `dt_util.now() - timedelta(days=1)`. -/
def dayAgo (c : LockUpdateCoordinator) : Instant :=
  c.now.wall - Duration.ofDays 1 - Duration.ofSeconds c.offsetDayAgo

/-- `_webhook_only_active`. -/
def webhookOnlyActive (c : LockUpdateCoordinator) : Bool := c.webhookOnly && c.webhookStatus

/-- `_slow_tier_due`. -/
def slowTierDue (c : LockUpdateCoordinator) (lastFetched : Option LocalTime) (now : LocalTime) :
    Bool :=
  match lastFetched with
  | none => true
  | some t => t.wall ≤ now.wall - c.slowInterval

/-- `_ble_credentials`. -/
def bleCredentials (c : LockUpdateCoordinator) : Option (LockVersion × Bytes) :=
  match c.bleVersion, c.bleKey with
  | some payload, some value =>
    match LockVersion.fromCloud payload, parseAesKey value with
    | .ok version, .ok key => some (version, key)
    | _, _ => none
  | _, _ => none

/-- What a coordinator is created as, for a lock of the summary's connectivity and features. -/
structure IsNew (c : LockUpdateCoordinator) : Prop where
  data : ∃ name mac features, c.data = { name := name, mac := mac, features := features }
  stamps : c.detailsLastFetched = none ∧ c.passageLastFetched = none ∧
    c.gatewaysLastFetched = none ∧ c.codesLastFetched = none

end LockUpdateCoordinator

end TTLockConnect.Coordinator.State
