import TTLockConnect.Async.Coroutine
import TTLockConnect.Ble.Protocol

/-! # The calls a coordinator awaits

The requests of `TTLockApi`, of a Bluetooth state read, of the `LockStateStore` and of
`asyncio.sleep`, with the replies they get, and the methods over them. A reply of the cloud is the
validated record, except where the validation itself matters; an error status, a non-zero `errcode`
or a failed validation is an error reply. The reply of a lock is the payload of its frame.

A request stands for the whole of a method's awaits, from its call to its reply: the wait for
`GW_LOCK`, that for a fresh token, the HTTP request. When within that time the request goes out is not
said here; `Cloud.Client` has the awaits one by one. -/

namespace TTLockConnect.Api

open TTLockConnect.Text TTLockConnect.Models TTLockConnect.Ble.Cipher TTLockConnect.Ble.Protocol
open TTLockConnect.Async.Coroutine TTLockConnect.Async.Coroutine.Coro

/-- What is called and awaited. -/
inductive Request where
  /-- `lock/detail` -/
  | detail (lockId : ℤ)
  /-- `doorSensor/query` -/
  | doorSensor (lockId : ℤ)
  /-- `lock/queryOpenState` -/
  | queryOpenState (lockId : ℤ)
  /-- `lock/getPassageModeConfig` -/
  | passageModeConfig (lockId : ℤ)
  /-- `gateway/listByLock` -/
  | listByLock (lockId : ℤ)
  /-- `lock/listKeyboardPwd` -/
  | listKeyboardPwd (lockId : ℤ)
  /-- `lock/listKey` -/
  | listKey (lockId : ℤ)
  /-- `lock/lock` -/
  | lock (lockId : ℤ)
  /-- `lock/unlock` -/
  | unlock (lockId : ℤ)
  /-- `lock/setAutoLockTime` -/
  | setAutoLockTime (lockId : ℤ) (seconds : ℤ)
  /-- `lock/updateSetting` -/
  | updateSetting (lockId : ℤ) (value : ℤ)
  /-- a session with the command `QUERY_LOCK_STATUS` -/
  | queryLockStatus (address name : String) (version : LockVersion) (aesKey : Bytes)
  /-- `LockStateStore._async_data` -/
  | storeLoad
  /-- `Store.async_save` -/
  | storeSave
  /-- `asyncio.sleep` -/
  | sleep (delay : Duration)
  deriving DecidableEq, Repr

/-- The body of the reply to a command. -/
structure CommandBody where
  errcode : Option ℤ
  deriving DecidableEq, Repr

/-- `not ("errcode" in res and res["errcode"] != 0)`. -/
def CommandBody.accepted (res : CommandBody) : Bool :=
  match res.errcode with
  | some e => e = 0
  | none => true

/-- The reply to a request. -/
abbrev Reply : Request → Type
  | .detail _ => Lock
  | .doorSensor _ => Sensor
  | .queryOpenState _ => OpenStateBody
  | .passageModeConfig _ => PassageModeConfig
  | .listByLock _ => List GatewayLink
  | .listKeyboardPwd _ => List Passcode
  | .listKey _ => List Ekey
  | .lock _ | .unlock _ | .setAutoLockTime _ _ | .updateSetting _ _ => CommandBody
  | .queryLockStatus _ _ _ _ => Bytes
  | .storeLoad | .storeSave | .sleep _ => Unit

/-- A coroutine of the integration on the shared state `σ`. -/
abbrev Routine (σ α : Type) := Coro σ Request Reply PyError α

/-- The replies a task has had. -/
abbrev Log := List (Exchange Reply PyError)

section Methods
variable {σ : Type}

/-- Call for a request, and wait for its reply. -/
abbrev request (q : Request) : Routine σ (Reply q) := call q

/-- `TTLockApi.get_lock`. -/
def getLock (lockId : ℤ) : Routine σ Lock := request (.detail lockId)

/-- `TTLockApi.get_sensor`. -/
def getSensor (lockId : ℤ) : Routine σ (Option Sensor) :=
  tryCatch (do let res ← request (.doorSensor lockId); pure (some res)) fun err =>
    if err = .requestFailed then pure none else throw err

/-- `TTLockApi.get_lock_state`. -/
def getLockState (lockId : ℤ) : Routine σ WireLockState := do
  let res ← request (.queryOpenState lockId)
  fromExcept (WireLockState.modelValidate res)

/-- `TTLockApi.get_lock_passage_mode_config`. -/
def getLockPassageModeConfig (lockId : ℤ) : Routine σ PassageModeConfig :=
  request (.passageModeConfig lockId)

/-- `sorted(gateways, key=rssi, reverse=True)`, which keeps the order of equal ones. -/
def byRssi (gateways : List GatewayLink) : List GatewayLink :=
  gateways.mergeSort fun a b => b.rssi ≤ a.rssi

/-- `TTLockApi.get_gateways_for_lock`. -/
def getGatewaysForLock (lockId : ℤ) : Routine σ (List GatewayLink) := do
  let res ← request (.listByLock lockId)
  pure (byRssi res)

/-- `TTLockApi.list_passcodes`. -/
def listPasscodes (lockId : ℤ) : Routine σ (List Passcode) := request (.listKeyboardPwd lockId)

/-- `TTLockApi.list_ekeys`. -/
def listEkeys (lockId : ℤ) : Routine σ (List Ekey) := request (.listKey lockId)

/-- `TTLockApi.lock`. -/
def lock (lockId : ℤ) : Routine σ Bool := do
  let res ← request (.lock lockId)
  pure res.accepted

/-- `TTLockApi.unlock`. -/
def unlock (lockId : ℤ) : Routine σ Bool := do
  let res ← request (.unlock lockId)
  pure res.accepted

/-- `TTLockApi.set_auto_lock`. -/
def setAutoLock (lockId seconds : ℤ) : Routine σ Bool := do
  let res ← request (.setAutoLockTime lockId seconds)
  pure res.accepted

/-- `TTLockApi.set_lock_sound`. -/
def setLockSound (lockId value : ℤ) : Routine σ Bool := do
  let res ← request (.updateSetting lockId value)
  pure res.accepted

/-- `ble.async_read_status`. -/
def asyncReadStatus (address name : String) (version : LockVersion) (aesKey : Bytes) :
    Routine σ LockStatus := do
  let data ← request (.queryLockStatus address name version aesKey)
  pure (LockStatus.parse data)

end Methods

end TTLockConnect.Api
