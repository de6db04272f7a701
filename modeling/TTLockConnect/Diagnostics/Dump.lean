import TTLockConnect.Coordinator.Writers
import TTLockConnect.Diagnostics.Capture

/-! # The diagnostics of a config entry

The entities of a lock and the states they write, `LockUpdateCoordinator.as_dict`, and the two
functions of `diagnostics.py`. What Home Assistant adds (how it shows a state, the config entry) and
what Python's library makes of a value as text are parameters. -/

namespace TTLockConnect.Diagnostics.Dump

open TTLockConnect.Text TTLockConnect.Models TTLockConnect.Coordinator.State
open TTLockConnect.Coordinator.Writers TTLockConnect.Webhook.Records
open TTLockConnect.Diagnostics.Redaction TTLockConnect.Diagnostics.Replies
open TTLockConnect.Diagnostics.Capture

/-! ### Values -/

/-- A value or `None`. -/
def orNull {α : Type} (f : α → JsonValue) : Option α → JsonValue
  | some a => f a
  | none => .null

mutual

/-- `==`, for values that the same code has built. -/
def equal : JsonValue → JsonValue → Bool
  | .null, .null => true
  | .bool a, .bool b => a == b
  | .int a, .int b => a == b
  | .float a, .float b => a == b
  | .str a, .str b => a == b
  | .list a, .list b => equalItems a b
  | .dict a, .dict b => equalFields a b
  | _, _ => false

def equalItems : List JsonValue → List JsonValue → Bool
  | [], [] => true
  | a :: as, b :: bs => equal a b && equalItems as bs
  | _, _ => false

def equalFields : List (String × JsonValue) → List (String × JsonValue) → Bool
  | [], [] => true
  | (k, a) :: as, (l, b) :: bs => k == l && (equal a b && equalFields as bs)
  | _, _ => false

end

mutual

theorem equal_self : ∀ v : JsonValue, equal v v = true
  | .null => rfl
  | .bool a => beq_self_eq_true a
  | .int a => beq_self_eq_true a
  | .float a => beq_self_eq_true a
  | .str a => beq_self_eq_true a
  | .list a => equalItems_self a
  | .dict a => equalFields_self a

theorem equalItems_self : ∀ as : List JsonValue, equalItems as as = true
  | [] => rfl
  | a :: as => by rw [equalItems, equal_self a, equalItems_self as]; rfl

theorem equalFields_self : ∀ as : List (String × JsonValue), equalFields as as = true
  | [] => rfl
  | (k, a) :: as => by rw [equalFields, equal_self a, equalFields_self as, beq_self_eq_true]; rfl

end

/-! ### A lock and its entities -/

/-- `BleData`. -/
structure BleData where
  rssi : Option ℤ := none
  lastSeen : Option LocalTime := none
  source : Option String := none
  connectable : Bool := false
  deriving DecidableEq, Repr

/-- The entities on a lock's device. -/
inductive Entity where
  | lockBattery
  | lockOperator
  | lockTrigger
  | sensorBattery
  | lockPinCodes
  | lockEkeys
  | lockGateway
  | lockBleSignal
  | lock
  | sensor
  | passageMode
  | autoLock
  | lockSound
  | lockSyncButton
  deriving DecidableEq, Repr

/-- The state of an entity in Home Assistant. -/
structure HassState where
  entityId : String
  state : String
  attributes : List (String × JsonValue)
  lastChanged : Instant
  lastReported : Instant
  lastUpdated : Instant
  context : String

/-- A lock of the entry: its coordinator with the tasks in flight, and its entities. -/
structure LockRun where
  lockId : ℤ
  loop : Loop
  hasGateway : ℤ
  featureValue : Option String
  ble : BleData
  /-- What `LockOperator` and `LockTrigger` show, also while the lock tells nothing. -/
  operator : Option String
  trigger : Option String
  states : List (Entity × HassState)

/-- What an entity holds for Home Assistant to show, besides its extra attributes. -/
structure Shown where
  name : String
  available : Bool
  values : List JsonValue

/-- What Home Assistant makes of it: the state, whether it adds the extra attributes, and the
attributes of its own. -/
structure Rendered where
  state : String
  extra : Bool
  attributes : List (String × JsonValue)

/-- What is not the integration's. -/
structure Runtime where
  lib : Library
  /-- `str` -/
  str : Arg → String
  /-- `datetime.isoformat` -/
  isoformat : LocalTime → String
  /-- `Features.name` -/
  featuresName : Features → String
  /-- `REGIONS[region]["api_base"]` -/
  apiBase : String
  entityId : ℤ → Entity → String
  render : Entity → Shown → Rendered
  /-- `config_entry.as_dict()`, once the webhook is confirmed or before. -/
  entryDict : Bool → JsonValue
  /-- The figures of `ApiCallCounter`, from the calls it has recorded. -/
  apiUsage : List (LocalTime × String) → LocalTime → JsonValue

section Entities
variable (rt : Runtime)

/-- `Ekey.expired`. -/
def Ekey.expired (now : LocalTime) (ekey : Ekey) : Bool :=
  ekey.endDate.any fun endDate => endDate.wall < now.wall

/-- `PasscodeType.name`. -/
def PasscodeType.name (n : ℤ) : String :=
  (["unknown", "one_time", "permanent", "period", "delete", "weekends", "daily", "weekdays",
    "mondays", "tuesdays", "wednesdays", "thursdays", "fridays", "saturdays",
    "sundays"][n.toNat]?).getD "unknown"

/-- A code in the attribute `pin_codes`. -/
def pinCode (now : LocalTime) (code : Passcode) : JsonValue :=
  .dict
    [("id", orNull .int code.id), ("name", orNull .str code.name),
      ("passcode", orNull .str code.passcode),
      ("type", orNull (fun type => .str (PasscodeType.name type)) code.type),
      ("start_date", orNull (fun t => .str (rt.isoformat t)) code.startDate),
      ("end_date", orNull (fun t => .str (rt.isoformat t)) code.endDate),
      ("expired", .bool (code.expired now))]

/-- An eKey in the attribute `ekeys`. -/
def ekeyDict (now : LocalTime) (ekey : Ekey) : JsonValue :=
  .dict
    [("id", orNull .int ekey.id), ("name", orNull .str ekey.name),
      ("username", orNull .str ekey.username), ("status", .str ekey.status),
      ("start_date", orNull (fun t => .str (rt.isoformat t)) ekey.startDate),
      ("end_date", orNull (fun t => .str (rt.isoformat t)) ekey.endDate),
      ("expired", .bool (Ekey.expired now ekey)),
      ("remote_enable", .bool ekey.remoteEnable.toBool)]

/-- What `LockOperator` and `LockTrigger` hold: what the lock tells, else what they held. -/
def held (last memory : Option String) : String :=
  match last.filter (· ≠ "") with
  | some s => s
  | none => (memory.filter (· ≠ "")).getD "Unknown"

/-- The name of an entity, behind the lock's. -/
def Entity.suffix : Entity → String
  | .lockBattery => " Battery"
  | .lockOperator => " Last Operator"
  | .lockTrigger => " Last Trigger"
  | .sensorBattery => " Sensor Battery"
  | .lockPinCodes => " PIN Codes"
  | .lockEkeys => " eKeys"
  | .lockGateway => " Gateway Signal"
  | .lockBleSignal => " Bluetooth Signal"
  | .lock => ""
  | .sensor => " Sensor"
  | .passageMode => " Passage Mode"
  | .autoLock => " Auto Lock"
  | .lockSound => " Lock Sound"
  | .lockSyncButton => " Sync"

/-- `_update_from_coordinator`: the values that an entity takes over. -/
def Entity.values (now : LocalTime) (c : LockUpdateCoordinator) (ble : BleData)
    (operator trigger : Option String) : Entity → List JsonValue
  | .lockBattery => [orNull .int c.data.batteryLevel]
  | .lockOperator => [.str (held c.data.lastUser operator)]
  | .lockTrigger => [.str (held c.data.lastReason trigger)]
  | .sensorBattery => [orNull .int (c.data.sensor.bind SensorData.battery)]
  | .lockPinCodes =>
    [orNull (fun codes : List Passcode =>
      .int (codes.countP fun code => !code.expired now)) c.data.passcodes]
  | .lockEkeys =>
    [orNull (fun ekeys : List Ekey => .int (ekeys.countP fun ekey =>
      !Ekey.expired now ekey && ekey.status ≠ "frozen")) c.data.ekeys]
  | .lockGateway => [orNull (fun best : GatewayLink => .int best.rssi) c.data.gateways.head?]
  | .lockBleSignal => [orNull .int ble.rssi]
  | .lock =>
    [orNull .bool c.data.locked, .bool (c.data.actionPending && c.data.locked ≠ some true),
      if c.data.actionPending then orNull .bool c.data.locked else .bool false]
  | .sensor => [.bool (c.data.opened.getD false)]
  | .passageMode => [.bool (c.data.passageModeActive now)]
  | .autoLock => [.bool (0 < c.data.autoLockSeconds.getD 0)]
  | .lockSound => [orNull .bool c.data.lockSound]
  | .lockSyncButton => []

def NOT_CONNECTABLE_REASON : String :=
  "No gateway paired and no WiFi — TTLock's cloud can't reach this lock. " ++
    "Live data isn't available until connectivity is restored."

/-- `BaseLockEntity.extra_state_attributes`, of an entity with these attributes. -/
def baseAttributes (c : LockUpdateCoordinator) (attributes : List (String × JsonValue)) :
    List (String × JsonValue) :=
  if ¬ c.connectable then [("unavailable_reason", .str NOT_CONNECTABLE_REASON)] else attributes

/-- The attributes of `LockPinCodes`. -/
def pinAttributes (now : LocalTime) : Option (List Passcode) → List (String × JsonValue)
  | none => []
  | some codes => [("total", .int codes.length), ("pin_codes", .list (codes.map (pinCode rt now)))]

/-- The attributes of `LockEkeys`. -/
def ekeyAttributes (now : LocalTime) : Option (List Ekey) → List (String × JsonValue)
  | none => []
  | some ekeys => [("total", .int ekeys.length), ("ekeys", .list (ekeys.map (ekeyDict rt now)))]

/-- `extra_state_attributes`. -/
def Entity.attributes (now : LocalTime) (c : LockUpdateCoordinator) (ble : BleData) :
    Entity → List (String × JsonValue)
  | .lockPinCodes => baseAttributes c (pinAttributes rt now c.data.passcodes)
  | .lockEkeys => baseAttributes c (ekeyAttributes rt now c.data.ekeys)
  | .lockGateway =>
    match c.data.gateways with
    | [] => []
    | best :: others =>
      [("gateway", .str best.name), ("mac", .str best.mac),
        ("other_gateways", .list (others.map fun gateway => .dict
          [("name", .str gateway.name), ("mac", .str gateway.mac), ("rssi", .int gateway.rssi)]))]
  | .lockBleSignal =>
    if ble.rssi.isNone then []
    else
      [("source", orNull .str ble.source), ("connectable", .bool ble.connectable),
        ("last_seen", orNull (fun t => .str (rt.isoformat t)) ble.lastSeen)]
  | .autoLock => baseAttributes c [] ++ [("seconds", orNull .int c.data.autoLockSeconds)]
  | _ => baseAttributes c []

/-- What an entity holds. -/
def Entity.shown (now : LocalTime) (self : LockRun) (entity : Entity) : Shown where
  name := self.loop.shared.data.name ++ entity.suffix
  available := self.loop.shared.connectable && self.loop.shared.lastUpdateSuccess
  values := entity.values now self.loop.shared self.ble self.operator self.trigger

/-- The attributes of the state that an entity writes. -/
def Entity.written (now : LocalTime) (self : LockRun) (entity : Entity) :
    List (String × JsonValue) :=
  let rendered := rt.render entity (entity.shown now self)
  (if rendered.extra then entity.attributes rt now self.loop.shared self.ble else []) ++
    rendered.attributes

/-- The entity has written these attributes last. -/
def Entity.unchanged (now : LocalTime) (self : LockRun) (entity : Entity) : Bool :=
  match self.states.lookup entity with
  | some old => equalFields old.attributes (entity.written rt now self)
  | none => false

/-- `StateMachine.async_set`: what is there already is only reported. -/
def HassState.set (old : Option HassState) (unchanged : Bool) (now : Instant) (new : HassState) :
    HassState :=
  match old with
  | none => new
  | some old =>
    if old.state = new.state then
      if unchanged then { old with lastReported := now }
      else { new with lastChanged := old.lastChanged }
    else new

/-- A dict entry set. -/
def insert {κ α : Type} [DecidableEq κ] (key : κ) (a : α) : List (κ × α) → List (κ × α)
  | [] => [(key, a)]
  | (k, b) :: entries => if k = key then (key, a) :: entries else (k, b) :: insert key a entries

/-- `_handle_coordinator_update`: the entity takes over the data and writes its state. -/
def LockRun.write (self : LockRun) (entity : Entity) (now : LocalTime) (context : String) :
    LockRun :=
  let new : HassState :=
    { entityId := rt.entityId self.lockId entity
      state := (rt.render entity (entity.shown now self)).state
      attributes := entity.written rt now self
      lastChanged := now.instant
      lastReported := now.instant
      lastUpdated := now.instant
      context }
  { self with
    operator := if entity = .lockOperator then
      some (held self.loop.shared.data.lastUser self.operator) else self.operator
    trigger := if entity = .lockTrigger then
      some (held self.loop.shared.data.lastReason self.trigger) else self.trigger
    states := insert entity (HassState.set (self.states.lookup entity)
      (entity.unchanged rt now self) now.instant new) self.states }

end Entities

/-! ### `as_dict` -/

section AsDict
variable (rt : Runtime)

/-- `State.as_dict`; a datetime is kept as its number. -/
def HassState.asDict (s : HassState) : JsonValue :=
  .dict
    [("entity_id", .str s.entityId), ("state", .str s.state), ("attributes", .dict s.attributes),
      ("last_changed", .int s.lastChanged), ("last_reported", .int s.lastReported),
      ("last_updated", .int s.lastUpdated),
      ("context", .dict [("id", .str s.context), ("parent_id", .null), ("user_id", .null)])]

/-- An enumeration's member as `build_diagnostics_dict` shows it. -/
def OnOff.shown : OnOff → JsonValue
  | .unknown => .str "unknown (0)"
  | .on => .str "on (1)"
  | .off => .str "off (2)"

/-- `build_diagnostics_dict` of a `PassageModeConfig`. -/
def passageModeDict (config : PassageModeConfig) : JsonValue :=
  .dict
    [("enabled", OnOff.shown config.enabled), ("start_minute", .int config.startMinute),
      ("end_minute", .int config.endMinute), ("all_day", OnOff.shown config.allDay),
      ("week_days", .list (config.weekDays.map .int)), ("auto_unlock", OnOff.shown config.autoUnlock)]

/-- `build_diagnostics_dict` of a `LockState`. -/
def deviceDict (d : LockState) : JsonValue :=
  .dict
    [("name", .str d.name), ("mac", .str d.mac), ("model", orNull .str d.model),
      ("battery_level", orNull .int d.batteryLevel),
      ("hardware_version", orNull .str d.hardwareVersion),
      ("firmware_version", orNull .str d.firmwareVersion),
      ("features", .str (rt.featuresName d.features ++ " (" ++ toString d.features ++ ")")),
      ("locked", orNull .bool d.locked), ("action_pending", .bool d.actionPending),
      ("last_user", orNull .str d.lastUser), ("last_reason", orNull .str d.lastReason),
      ("lock_sound", orNull .bool d.lockSound),
      ("sensor", orNull (fun s : SensorData => .dict
        [("opened", orNull .bool s.opened), ("battery", orNull .int s.battery),
          ("last_fetched", orNull (fun t => .str (rt.isoformat t)) s.lastFetched)]) d.sensor),
      ("auto_lock_seconds", orNull .int d.autoLockSeconds),
      ("passage_mode_config", orNull passageModeDict d.passageModeConfig),
      ("gateways", .list (d.gateways.map fun gateway => .dict
        [("id", .int gateway.id), ("name", .str gateway.name), ("mac", .str gateway.mac),
          ("rssi", .int gateway.rssi)])),
      ("passcodes", orNull (fun codes => .list (codes.map (pinCode rt ⟨0, 0⟩))) d.passcodes),
      ("ekeys", orNull (fun ekeys => .list (ekeys.map (ekeyDict rt ⟨0, 0⟩))) d.ekeys)]

/-- `LockUpdateCoordinator.as_dict`. -/
def LockRun.asDict (capture : LockTrafficCapture) (self : LockRun) : JsonValue :=
  let c := self.loop.shared
  -- PIN values and eKey receivers must not land in the dump: counts only
  let device : LockState := { c.data with passcodes := none, ekeys := none }
  .dict
    [("unique_id", .str ("ttlock_connect-" ++ toString self.lockId)),
      ("connectable", .bool c.connectable),
      ("has_gateway", .int self.hasGateway), ("feature_value", orNull .str self.featureValue),
      ("last_update_success", .bool c.lastUpdateSuccess),
      ("credential_counts", .dict
        [("passcodes", .int (c.data.passcodes.getD []).length),
          ("ekeys", .int (c.data.ekeys.getD []).length)]),
      ("device", deviceDict rt device),
      ("entities", .list (self.states.map fun s => s.2.asDict)),
      ("debug_capture", capture.diagnosticsFor self.lockId)]

end AsDict

/-! ### `diagnostics.py` -/

/-- What a config entry holds. -/
structure Integration where
  locks : List LockRun
  capture : LockTrafficCapture
  /-- The calls recorded by `ApiCallCounter`. -/
  calls : List (LocalTime × String)
  gateways : List (ℤ × Gateway)
  /-- `entry.data[CONF_WEBHOOK_STATUS]`. -/
  webhookStatus : Bool

variable (rt : Runtime)

/-- `GatewaysUpdateCoordinator.as_dict`. -/
def gatewaysDict (gateways : List (ℤ × Gateway)) : JsonValue :=
  .list (gateways.map fun g => .dict
    [("id", .int g.2.id), ("name", .str g.2.name), ("is_online", .bool g.2.isOnline)])

/-- `async_get_config_entry_diagnostics`. -/
def asyncGetConfigEntryDiagnostics (now : LocalTime) (x : Integration) : JsonValue :=
  asyncRedactData (.dict
    [("config_entry", rt.entryDict x.webhookStatus),
      ("locks", .list (x.locks.map (LockRun.asDict rt x.capture))),
      ("gateways", gatewaysDict x.gateways),
      ("api_usage", rt.apiUsage x.calls now)])

/-- `_find_lock_coordinator`, for a device with these identifiers of the integration. -/
def findLockCoordinator (macs : List String) (x : Integration) : Option LockRun :=
  x.locks.find? fun lock => lock.loop.shared.data.mac ∈ macs

/-- `async_get_device_diagnostics`. -/
def asyncGetDeviceDiagnostics (macs : List String) (x : Integration) : JsonValue :=
  match findLockCoordinator macs x with
  | none => .dict []
  | some lock => asyncRedactData (LockRun.asDict rt x.capture lock)

end TTLockConnect.Diagnostics.Dump
