import TTLockConnect.Api
import TTLockConnect.Async.EventLoop
import TTLockConnect.Coordinator.State
import Mathlib.Tactic.SplitIfs

/-! # Polls, code refreshes, commands and webhook events of one coordinator

The methods of `LockUpdateCoordinator` that write `data`, as coroutines on the coordinator. A poll
works on a private copy, which is threaded through its tiers. -/

namespace TTLockConnect.Coordinator.Poll

open TTLockConnect.Text TTLockConnect.Models TTLockConnect.Ble.Protocol TTLockConnect.Api
open TTLockConnect.Coordinator.State TTLockConnect.Async.Coroutine TTLockConnect.Async.Coroutine.Coro

/-- A coroutine of the coordinator. -/
abbrev Method (α : Type) := Routine LockUpdateCoordinator α

/-- `dt_util.now()`. -/
def now : Method LocalTime := do
  let c ← get
  pure c.now

/-! ### The store -/

/-- `LockStateStore.async_get`. -/
def storeGet : Method StoreRecord := do
  request .storeLoad
  let c ← get
  pure c.store

/-- `LockStateStore.async_update`. -/
def storeUpdate (update : StoreRecord → StoreRecord) : Method Unit := do
  request .storeLoad
  modify fun c => { c with store := update c.store }
  request .storeSave

/-! ### The door sensor -/

/-- `_refresh_sensor`: the reply, and the sensor with its stamp. -/
def refreshSensor (sensor : SensorData) : Method (Option Sensor × SensorData) := do
  let c ← get
  let result ← getSensor c.lockId
  let t ← now
  pure (result, { sensor with lastFetched := some t })

/-- `_update_present_sensor`. -/
def updatePresentSensor (sensor : SensorData) : Method SensorData := do
  let t ← now
  if sensor.lastFetched.any fun last => t.wall - Duration.ofDays 1 ≤ last.wall then
    pure sensor
  else
    let (result, sensor) ← refreshSensor sensor
    match result with
    | some result => pure { sensor with battery := result.batteryLevel }
    | none => pure sensor

/-- The probe of `_check_for_sensor`, behind its throttles. -/
def probeSensor (stored : StoreRecord) (sensor : SensorData) : Method SensorData := do
  let (result, sensor) ← refreshSensor sensor
  match result with
  | some result =>
    let sensor := { sensor with battery := result.batteryLevel }
    storeUpdate fun r =>
      { r with doorSensorConfirmedAbsent := false, doorSensorCountFailedReq := 0 }
    pure sensor
  | none =>
    if stored.doorSensorConfirmedAbsent then pure sensor
    else
      let failures := stored.doorSensorCountFailedReq + 1
      let newlyConfirmedAbsent := decide (SENSOR_ABSENT_AFTER_FAILURES ≤ failures)
      if newlyConfirmedAbsent then
        modify fun c => { c with sensorRecheckDone := true }
      let t ← now
      storeUpdate fun r =>
        { r with
          doorSensorLastFailedReq := some t
          doorSensorCountFailedReq := failures
          doorSensorConfirmedAbsent := newlyConfirmedAbsent }
      pure sensor

/-- `_check_for_sensor`. -/
def checkForSensor (sensor : SensorData) : Method SensorData := do
  let stored ← storeGet
  if stored.doorSensorConfirmedAbsent then
    let c ← get
    if c.sensorRecheckDone then pure sensor
    else
      modify fun c => { c with sensorRecheckDone := true }
      probeSensor stored sensor
  else
    let c ← get
    if stored.doorSensorLastFailedReq.any fun last => c.dayAgo ≤ last.instant then
      pure sensor
    else probeSensor stored sensor

/-! ### The tiers of a poll -/

/-- Full lock detail, at most once per slow interval. -/
def updateDetails (now : LocalTime) (newData : LockState) : Method LockState := do
  let c ← get
  if c.slowTierDue c.detailsLastFetched now then
    let details ← getLock c.lockId
    let features ← fromExcept (Features.fromFeatureValue details.featureValue)
    modify fun c =>
      { c with
        bleVersion := details.lockVersion
        bleKey := details.aesKeyStr
        detailsLastFetched := some now }
    pure { newData with
      name := details.name
      mac := details.mac
      model := details.model
      features := features
      batteryLevel := details.batteryLevel
      hardwareVersion := details.hardwareRevision
      firmwareVersion := details.firmwareRevision
      autoLockSeconds := details.autoLockTime
      lockSound := some details.lockSound.toBool }
  else pure newData

/-- The door sensor, if the lock supports one. -/
def updateSensor (newData : LockState) : Method LockState := do
  if newData.features.has doorSensorBit then
    let sensor := newData.sensor.getD {}
    if sensor.present then
      let sensor ← updatePresentSensor sensor
      pure { newData with sensor := some sensor }
    else
      let sensor ← checkForSensor sensor
      pure { newData with sensor := some sensor }
  else pure { newData with sensor := none }

/-- `async_read_state_ble`. -/
def asyncReadStateBle : Method (Option LockStatus) := do
  let c ← get
  if ¬ c.bluetoothAvailable ∨ ¬ c.inRange then pure none
  else
    match c.bleCredentials with
    | none => pure none
    | some (version, aesKey) =>
      tryCatch (do
          let status ← asyncReadStatus c.data.mac c.data.name version aesKey
          pure (some status))
        fun err => if err.isBleError ∨ err.isProtocolError then pure none else throw err

/-- `sensor.opened = opened`, where a sensor is present. -/
def setOpened (sensor : Option SensorData) (opened : Bool) : Option SensorData :=
  if sensorPresent sensor then sensor.map fun s => { s with opened := some opened } else sensor

/-- The local reading taken over. -/
def applyStatus (status : LockStatus) (locked : Bool) (newData : LockState) : LockState :=
  { newData with
    locked := some locked
    batteryLevel := match status.battery with
      | some battery => some battery
      | none => newData.batteryLevel
    sensor := match status.doorOpen with
      | some opened => setOpened newData.sensor opened
      | none => newData.sensor }

/-- The reading of the cloud taken over. -/
def applyState (state : WireLockState) (newData : LockState) : LockState :=
  { newData with
    locked := some (state.locked == some .locked)
    sensor := setOpened newData.sensor (state.opened == some .opened) }

/-- The cloud's reading: a failure is tolerated while nothing is known yet. -/
def updateCloudState (newData : LockState) : Method LockState := do
  let c ← get
  tryCatch (do
      let state ← getLockState c.lockId
      pure (applyState state newData))
    fun err =>
      if ¬ err.isException then throw err
      else if newData.locked.isNone then pure newData
      else throw .updateFailed

/-- Fast tier: the state of the lock, by Bluetooth or from the cloud. -/
def updateState (newData : LockState) : Method LockState := do
  let status ← asyncReadStateBle
  match status.bind fun status => status.locked.map fun locked => (status, locked) with
  | some (status, locked) => pure (applyStatus status locked newData)
  | none =>
    let c ← get
    if c.webhookOnlyActive ∧ newData.locked.isSome then pure newData
    else updateCloudState newData

/-- The passage-mode schedule, at most once per slow interval. -/
def updatePassage (now : LocalTime) (newData : LockState) : Method LockState := do
  let c ← get
  if c.slowTierDue c.passageLastFetched now then
    let config ← getLockPassageModeConfig c.lockId
    modify fun c => { c with passageLastFetched := some now }
    pure { newData with passageModeConfig := some config }
  else pure newData

/-- The gateways in range, at most once per slow interval. -/
def updateGateways (now : LocalTime) (newData : LockState) : Method LockState := do
  let c ← get
  if c.hasGateway then
    if c.slowTierDue c.gatewaysLastFetched now then
      let gateways ← getGatewaysForLock c.lockId
      modify fun c => { c with gatewaysLastFetched := some now }
      pure { newData with gateways := gateways }
    else pure newData
  else pure { newData with gateways := [] }

/-- PIN codes and eKeys, at most once per slow interval. -/
def updateCodes (now : LocalTime) (newData : LockState) : Method LockState := do
  let c ← get
  if c.slowTierDue c.codesLastFetched now then
    let passcodes ← listPasscodes c.lockId
    let ekeys ← listEkeys c.lockId
    modify fun c => { c with codesLastFetched := some now }
    pure { newData with passcodes := some passcodes, ekeys := some ekeys }
  else pure newData

/-- The tiers in their order, on a copy of the data. -/
def fetchAll : Method LockState := do
  let c ← get
  let now := c.now
  let newData ← updateDetails now c.data
  let newData ← updateSensor newData
  let newData ← updateState newData
  let newData ← updatePassage now newData
  let newData ← updateGateways now newData
  updateCodes now newData

/-- `_async_update_data`. -/
def asyncUpdateData : Method LockState := do
  let c ← get
  if ¬ c.connectable then throw .updateFailed
  else
    tryCatch fetchAll fun err => if err.isException then throw .updateFailed else throw err

/-- Home Assistant's `DataUpdateCoordinator._async_refresh`, after its documentation: the poll's result
replaces the data, and an exception is a poll that failed. -/
def asyncRefresh : Method Unit :=
  tryCatch (do
      let newData ← asyncUpdateData
      modify fun c => { c with data := newData, lastUpdateSuccess := true })
    fun err =>
      if err.isException then modify fun c => { c with lastUpdateSuccess := false } else throw err

/-- Home Assistant's `DataUpdateCoordinator.async_set_updated_data`, after its documentation. -/
def setUpdatedData (newData : LockState) (c : LockUpdateCoordinator) : LockUpdateCoordinator :=
  { c with data := newData, lastUpdateSuccess := true }

/-- `async_refresh_codes`. -/
def asyncRefreshCodes : Method Unit := do
  let c ← get
  let passcodes ← listPasscodes c.lockId
  let ekeys ← listEkeys c.lockId
  let t ← now
  modify fun c' => setUpdatedData { c.data with passcodes := some passcodes, ekeys := some ekeys }
    { c' with codesLastFetched := some t }

/-! ### Webhook events and the auto-lock -/

/-- `_handle_auto_lock`: the delay in seconds and the age of the message that the scheduled task is
given, if auto-lock is enabled. -/
def handleAutoLock (c : LockUpdateCoordinator) (lockTs serverTs : LocalTime) :
    Option (ℤ × Duration) :=
  (c.data.autoLockDelay lockTs).map fun delay =>
    (delay, max 0 (serverTs.wall - lockTs.wall))

/-- `_auto_locked`, once it has slept. -/
def autoLockedData (d : LockState) : LockState :=
  { d with locked := some true, lastReason := some "Auto Lock" }

/-- `_auto_locked`. -/
def autoLocked (seconds : ℤ) (offset : Duration) : Method Unit := do
  if 0 < seconds ∧ 0 < Duration.ofSeconds seconds - offset then
    request (.sleep (Duration.ofSeconds seconds - offset))
  modify fun c => setUpdatedData (autoLockedData c.data) c

/-- What an event says about the lock. -/
def applyEventState (event : WebhookEvent) (d : LockState) : LockState :=
  let d := match event.state.locked with
    | some .locked => { d with locked := some true }
    | some .unlocked => { d with locked := some false }
    | _ => d
  if event.state.locked.isSome then
    { d with lastUser := event.user, lastReason := some event.event.description }
  else d

/-- What an event says about the door. -/
def applyEventSensor (event : WebhookEvent) (d : LockState) : LockState :=
  if sensorPresent d.sensor then
    match event.sensorState.opened with
    | some .opened => { d with sensor := setOpened d.sensor true }
    | some .closed =>
      { d with
        sensor := setOpened d.sensor false
        locked := some true
        lastReason := some "Door Closed" }
    | _ => d
  else d

/-- `_process_webhook_data`: the coordinator after the event, and the auto-lock task it schedules. -/
def processWebhookData (event : WebhookEvent) (c : LockUpdateCoordinator) :
    LockUpdateCoordinator × Option (ℤ × Duration) :=
  if event.id ≠ c.lockId ∨ ¬ event.success then (c, none)
  else
    let newData := { c.data with batteryLevel := event.batteryLevel }
    let timer := if event.state.locked = some .unlocked then
      handleAutoLock c event.lockTs event.serverTs else none
    (setUpdatedData (applyEventSensor event (applyEventState event newData)) c, timer)

/-- What an event for this lock leaves in `data`. -/
def webhookData (event : WebhookEvent) (d : LockState) : LockState :=
  applyEventSensor event (applyEventState event { d with batteryLevel := event.batteryLevel })

theorem processWebhookData_fst (event : WebhookEvent) (c : LockUpdateCoordinator) :
    (processWebhookData event c).1 =
      if event.id ≠ c.lockId ∨ ¬ event.success then c
      else setUpdatedData (webhookData event c.data) c := by
  unfold processWebhookData
  by_cases h : event.id ≠ c.lockId ∨ ¬ event.success
  · rw [if_pos h, if_pos h]
  · rw [if_neg h, if_neg h]
    rfl

/-! ### Commands -/

/-- `lock_action`: the flag around a command, taken down however the command ends. -/
def lockAction (body : Method Unit) : Method Unit := do
  modify fun c => { c with data := { c.data with actionPending := true } }
  let lower : Method Unit := modify fun c =>
    { c with data := { c.data with actionPending := false } }
  tryCatch body fun err => do lower; throw err
  lower

/-- `LockUpdateCoordinator.lock`. -/
def lock : Method Unit := lockAction do
  let c ← get
  let res ← Api.lock c.lockId
  if res then modify fun c => { c with data := { c.data with locked := some true } }

/-- `LockUpdateCoordinator.unlock`. -/
def unlock : Method Unit := lockAction do
  let c ← get
  let res ← Api.unlock c.lockId
  if res then modify fun c => { c with data := { c.data with locked := some false } }

/-- `LockUpdateCoordinator.set_auto_lock`. -/
def setAutoLock (on : Bool) : Method Unit := do
  let c ← get
  let seconds := if on then 10 else 0
  let res ← Api.setAutoLock c.lockId seconds
  if res then modify fun c => { c with data := { c.data with autoLockSeconds := some seconds } }

/-- `LockUpdateCoordinator.set_lock_sound`. -/
def setLockSound (on : Bool) : Method Unit := do
  let c ← get
  let value := if on then 1 else 2
  let res ← Api.setLockSound c.lockId value
  if res then modify fun c => { c with data := { c.data with lockSound := some on } }

/-! ### The writers of one coordinator, on the event loop -/

/-- What may run on the event loop: the writers of `data`, and the changes of what a poll reads. -/
inductive Job where
  | refresh
  | refreshCodes
  | webhook (event : WebhookEvent)
  | autoLocked (seconds : ℤ) (offset : Duration)
  | lock
  | unlock
  | setAutoLock (on : Bool)
  | setLockSound (on : Bool)
  | clock (now : LocalTime) (offsetDayAgo : ℤ)
  | presence (inRange : Bool)
  | webhookStatus (status : Bool)
  deriving DecidableEq, Repr

/-- The coroutine of a job. -/
def prog : Job → Method Unit
  | .refresh => asyncRefresh
  | .refreshCodes => asyncRefreshCodes
  | .webhook event => modify fun c => (processWebhookData event c).1
  | .autoLocked seconds offset => autoLocked seconds offset
  | .lock => lock
  | .unlock => unlock
  | .setAutoLock on => setAutoLock on
  | .setLockSound on => setLockSound on
  | .clock now offsetDayAgo => modify fun c => { c with now := now, offsetDayAgo := offsetDayAgo }
  | .presence inRange => modify fun c => { c with inRange := inRange }
  | .webhookStatus status => modify fun c => { c with webhookStatus := status }

end TTLockConnect.Coordinator.Poll
