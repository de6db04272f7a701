import TTLockConnect.Async.TwoRuns
import TTLockConnect.Coordinator.Poll
import TTLockConnect.Diagnostics.Secrets

/-! # A coordinator does not look at secrets

A coordinator stores PINs, eKey receivers and the lock's key, and passes them on, but what it does
never depends on them, up to whether the key can be read. So two coordinators that differ only in
secrets, with replies that differ only in secrets, go through the same steps (`prog_like`). -/

namespace TTLockConnect.Diagnostics.Unseen

open TTLockConnect.Text TTLockConnect.Models TTLockConnect.Api TTLockConnect.Ble.Protocol
open TTLockConnect.Ble.Cipher TTLockConnect.Ble.Key TTLockConnect.Coordinator.State
open TTLockConnect.Coordinator.Poll TTLockConnect.Async.Coroutine TTLockConnect.Async.TwoRuns
open TTLockConnect.Async.Coroutine.Coro TTLockConnect.Diagnostics.Secrets

/-! ### What counts as the same -/

/-- The data of a lock without secrets. -/
def LockState.masked (d : LockState) : LockState :=
  { d with
    passcodes := d.passcodes.map (List.map Passcode.masked)
    ekeys := d.ekeys.map (List.map Ekey.masked) }

/-- A coordinator without secrets. -/
def LockUpdateCoordinator.masked (c : LockUpdateCoordinator) : LockUpdateCoordinator :=
  { c with
    data := LockState.masked c.data
    bleKey := c.bleKey.map hiddenKey }

/-- A request without the key of a Bluetooth session. -/
def Request.masked : Request → Request
  | .queryLockStatus address name version _ => .queryLockStatus address name version []
  | q => q

/-- Two data that differ only in secrets. -/
def SameData (d d' : LockState) : Prop := LockState.masked d = LockState.masked d'

/-- Two coordinators that differ only in secrets. -/
def SameCoordinator (c c' : LockUpdateCoordinator) : Prop :=
  LockUpdateCoordinator.masked c = LockUpdateCoordinator.masked c'

/-- The same but for secrets. -/
def butSecrets : Likeness LockUpdateCoordinator Request Reply where
  state := SameCoordinator
  req q q' := Request.masked q = Request.masked q'
  reply q q' a a' := HEq (maskedReply q a) (maskedReply q' a')

variable {c c' : LockUpdateCoordinator} {d d' : LockState} {α β : Type}

theorem SameCoordinator.data (h : SameCoordinator c c') : SameData c.data c'.data :=
  congrArg LockUpdateCoordinator.data h

/-- Whatever of a coordinator does not depend on secrets. -/
theorem SameCoordinator.eq (h : SameCoordinator c c') {f : LockUpdateCoordinator → α}
    (hf : ∀ c, f (LockUpdateCoordinator.masked c) = f c) : f c = f c' := by
  rw [← hf c, ← hf c', h]

theorem SameData.eq (h : SameData d d') {f : LockState → α}
    (hf : ∀ d, f (LockState.masked d) = f d) : f d = f d' := by
  rw [← hf d, ← hf d', h]

/-- An update that leaves the secrets alone. -/
theorem SameCoordinator.map (h : SameCoordinator c c')
    {f : LockUpdateCoordinator → LockUpdateCoordinator}
    (hf : ∀ c, LockUpdateCoordinator.masked (f c) = f (LockUpdateCoordinator.masked c)) :
    SameCoordinator (f c) (f c') := by
  unfold SameCoordinator
  rw [hf, hf, h]

theorem SameData.map (h : SameData d d') {f : LockState → LockState}
    (hf : ∀ d, LockState.masked (f d) = f (LockState.masked d)) : SameData (f d) (f d') := by
  unfold SameData
  rw [hf, hf, h]

/-! ### The rules, for methods -/

/-- Two methods that differ only in secrets. -/
abbrev Like (R : α → β → Prop) (p : Method α) (p' : Method β) : Prop := Alike butSecrets R p p'

theorem like_modify {f : LockUpdateCoordinator → LockUpdateCoordinator}
    (hf : ∀ c, LockUpdateCoordinator.masked (f c) = f (LockUpdateCoordinator.masked c)) :
    Like (fun _ _ => True) (modify f : Method PUnit) (modify f) :=
  alike_modify fun _ _ h => h.map hf

theorem like_request (q : Request) :
    Like (fun a a' => maskedReply q a = maskedReply q a') (request q) (request q) :=
  (alike_call rfl).mono fun _ _ h => eq_of_heq h

theorem like_now : Like Eq now now :=
  alike_bind alike_get fun _ _ h => alike_pure (h.eq (f := fun c => c.now) fun _ => rfl)

/-! ### The store and the door sensor -/

theorem storeGet_like : Like Eq storeGet storeGet :=
  alike_bind (like_request .storeLoad) fun _ _ _ =>
    alike_bind alike_get fun _ _ h => alike_pure (h.eq (f := fun c => c.store) fun _ => rfl)

theorem storeUpdate_like (update : StoreRecord → StoreRecord) :
    Like (fun _ _ => True) (storeUpdate update) (storeUpdate update) :=
  alike_bind (like_request .storeLoad) fun _ _ _ =>
    alike_bind (like_modify fun _ => rfl) fun _ _ _ =>
      (like_request .storeSave).mono fun _ _ _ => trivial

theorem getSensor_like (lockId : ℤ) :
    Like Eq (getSensor lockId : Method (Option Sensor)) (getSensor lockId) := by
  refine alike_tryCatch ?_ fun err => ?_
  · refine alike_bind (like_request (.doorSensor lockId)) fun a a' h => ?_
    exact alike_pure (congrArg some h)
  · exact alike_ite Iff.rfl (fun _ => alike_pure rfl) fun _ => alike_throw err

theorem refreshSensor_like (sensor : SensorData) :
    Like Eq (refreshSensor sensor) (refreshSensor sensor) := by
  refine alike_bind alike_get fun c c' hc => ?_
  rw [show c.lockId = c'.lockId from hc.eq fun _ => rfl]
  refine alike_bind (getSensor_like c'.lockId) fun a a' ha => ?_
  refine alike_bind like_now fun t t' ht => ?_
  rw [ha, ht]
  exact alike_pure rfl

theorem updatePresentSensor_like (sensor : SensorData) :
    Like Eq (updatePresentSensor sensor) (updatePresentSensor sensor) := by
  refine alike_bind like_now fun t t' ht => ?_
  rw [ht]
  refine alike_ite Iff.rfl (fun _ => alike_pure rfl) fun _ => ?_
  refine alike_bind (refreshSensor_like sensor) fun a a' ha => ?_
  rw [ha]
  obtain ⟨result, sensor⟩ := a'
  cases result with
  | some result => exact alike_pure rfl
  | none => exact alike_pure rfl

theorem probeSensor_like (stored : StoreRecord) (sensor : SensorData) :
    Like Eq (probeSensor stored sensor) (probeSensor stored sensor) := by
  refine alike_bind (refreshSensor_like sensor) fun a a' ha => ?_
  rw [ha]
  obtain ⟨result, sensor⟩ := a'
  cases result with
  | some result =>
    exact alike_bind (storeUpdate_like _) fun _ _ _ => alike_pure rfl
  | none =>
    refine alike_ite Iff.rfl (fun _ => alike_pure rfl) fun _ => ?_
    have hrest (update : LocalTime → StoreRecord → StoreRecord) : Like Eq
        (do let t ← now; storeUpdate (update t); pure sensor)
        (do let t ← now; storeUpdate (update t); pure sensor) := by
      refine alike_bind like_now fun t t' ht => ?_
      rw [ht]
      exact alike_bind (storeUpdate_like _) fun _ _ _ => alike_pure rfl
    exact alike_ite Iff.rfl
      (fun _ => alike_bind (like_modify fun _ => rfl) fun _ _ _ => hrest _) fun _ => hrest _

theorem checkForSensor_like (sensor : SensorData) :
    Like Eq (checkForSensor sensor) (checkForSensor sensor) := by
  refine alike_bind storeGet_like fun stored stored' hstored => ?_
  rw [hstored]
  refine alike_ite Iff.rfl (fun _ => ?_) fun _ => ?_
  · refine alike_bind alike_get fun c c' hc => ?_
    rw [show c.sensorRecheckDone = c'.sensorRecheckDone from hc.eq fun _ => rfl]
    refine alike_ite Iff.rfl (fun _ => alike_pure rfl) fun _ => ?_
    exact alike_bind (like_modify fun _ => rfl) fun _ _ _ => probeSensor_like stored' sensor
  · refine alike_bind alike_get fun c c' hc => ?_
    rw [show c.dayAgo = c'.dayAgo from hc.eq (f := fun c => c.dayAgo) fun _ => rfl]
    exact alike_ite Iff.rfl (fun _ => alike_pure rfl) fun _ => probeSensor_like stored' sensor

/-! ### The tiers of a poll -/

/-- What a poll takes over of a lock's details, in its copy of the data. -/
def withDetails (details : Lock) (features : Features) (d : LockState) : LockState :=
  { d with
    name := details.name
    mac := details.mac
    model := details.model
    features := features
    batteryLevel := details.batteryLevel
    hardwareVersion := details.hardwareRevision
    firmwareVersion := details.firmwareRevision
    autoLockSeconds := details.autoLockTime
    lockSound := some details.lockSound.toBool }

/-- And in the coordinator. -/
def withCredentials (details : Lock) (now : LocalTime) (c : LockUpdateCoordinator) :
    LockUpdateCoordinator :=
  { c with
    bleVersion := details.lockVersion
    bleKey := details.aesKeyStr
    detailsLastFetched := some now }

theorem slowTierDue_eq (h : SameCoordinator c c') (last : LockUpdateCoordinator → Option LocalTime)
    (hlast : ∀ c, last (LockUpdateCoordinator.masked c) = last c) (t : LocalTime) :
    c.slowTierDue (last c) t = c'.slowTierDue (last c') t :=
  h.eq (f := fun c => c.slowTierDue (last c) t) fun c => by rw [hlast]; rfl

theorem lockId_eq (h : SameCoordinator c c') : c.lockId = c'.lockId := h.eq fun _ => rfl

theorem updateDetails_like (t : LocalTime) (h : SameData d d') :
    Like SameData (updateDetails t d) (updateDetails t d') := by
  refine alike_bind alike_get fun c c' hc => ?_
  have hdue := slowTierDue_eq hc (fun c => c.detailsLastFetched) (fun _ => rfl) t
  refine alike_ite (by rw [hdue]) (fun _ => ?_) fun _ => alike_pure h
  rw [lockId_eq hc]
  refine alike_bind (like_request (.detail c'.lockId)) fun l l' hl => ?_
  have hl : Lock.masked l = Lock.masked l' := hl
  have hfeatures := congrArg Lock.featureValue hl
  rw [show l.featureValue = l'.featureValue from hfeatures]
  refine alike_bind (alike_fromExcept (agree_eq _)) fun features features' hf => ?_
  rw [hf]
  refine alike_bind (R := fun _ _ => True) (alike_modify fun c c' hc => ?_) fun _ _ _ => ?_
  · change withCredentials (Lock.masked l) t (LockUpdateCoordinator.masked c) =
      withCredentials (Lock.masked l') t (LockUpdateCoordinator.masked c')
    rw [hl, hc]
  · refine alike_pure ?_
    change withDetails (Lock.masked l) features' (LockState.masked d) =
      withDetails (Lock.masked l') features' (LockState.masked d')
    rw [hl, h]

theorem updateSensor_like (h : SameData d d') :
    Like SameData (updateSensor d) (updateSensor d') := by
  have hfeatures : d.features = d'.features := h.eq fun _ => rfl
  have hsensor : d.sensor = d'.sensor := h.eq fun _ => rfl
  have hset (sensor : Option SensorData) : SameData { d with sensor := sensor }
      { d' with sensor := sensor } := h.map (f := fun d => { d with sensor := sensor }) fun _ => rfl
  refine alike_ite (by rw [hfeatures]) (fun _ => ?_) fun _ => alike_pure (hset none)
  rw [hsensor]
  refine alike_ite Iff.rfl (fun _ => ?_) fun _ => ?_
  · refine alike_bind (updatePresentSensor_like _) fun s s' hs => ?_
    rw [hs]
    exact alike_pure (hset _)
  · refine alike_bind (checkForSensor_like _) fun s s' hs => ?_
    rw [hs]
    exact alike_pure (hset _)

theorem toBool_hiddenKey (value : String) :
    (parseAesKey (hiddenKey value)).toBool = (parseAesKey value).toBool := by
  have hread : (parseAesKey "00000000000000000000000000000000").toBool = true := by decide +kernel
  have hunread : (parseAesKey "").toBool = false := by decide +kernel
  unfold hiddenKey
  split_ifs with h
  · rw [hread, h]
  · rw [hunread]
    exact (Bool.eq_false_iff.mpr h).symm

/-- Hidden or not, a key can be read or not. -/
theorem bleCredentials_masked (c : LockUpdateCoordinator) :
    (LockUpdateCoordinator.masked c).bleCredentials.map Prod.fst =
      c.bleCredentials.map Prod.fst := by
  unfold LockUpdateCoordinator.bleCredentials LockUpdateCoordinator.masked
  dsimp only
  cases c.bleVersion with
  | none => rfl
  | some payload =>
    cases c.bleKey with
    | none => rfl
    | some value =>
      dsimp only [Option.map_some]
      have hread := toBool_hiddenKey value
      generalize parseAesKey (hiddenKey value) = x at hread ⊢
      generalize parseAesKey value = y at hread ⊢
      cases LockVersion.fromCloud payload with
      | error err => rfl
      | ok version =>
        cases x with
        | ok key =>
          cases y with
          | ok key' => rfl
          | error err => cases hread
        | error err =>
          cases y with
          | ok key => cases hread
          | error err' => rfl

theorem asyncReadStatus_like (address name : String) (version : LockVersion) (key key' : Bytes) :
    Like Eq (asyncReadStatus address name version key : Method LockStatus)
      (asyncReadStatus address name version key') := by
  have hcall : Like (fun a a' => HEq a a') (request (.queryLockStatus address name version key))
      (request (.queryLockStatus address name version key')) := alike_call rfl
  refine alike_bind hcall fun a a' ha => alike_pure ?_
  rw [show a = a' from eq_of_heq ha]

theorem asyncReadStateBle_like : Like Eq asyncReadStateBle asyncReadStateBle := by
  refine alike_bind alike_get fun c c' hc => ?_
  have havailable : c.bluetoothAvailable = c'.bluetoothAvailable := hc.eq fun _ => rfl
  have hrange : c.inRange = c'.inRange := hc.eq fun _ => rfl
  have hmac : c.data.mac = c'.data.mac := hc.data.eq fun _ => rfl
  have hname : c.data.name = c'.data.name := hc.data.eq fun _ => rfl
  have hcred : c.bleCredentials.map Prod.fst = c'.bleCredentials.map Prod.fst := by
    rw [← bleCredentials_masked c, ← bleCredentials_masked c']
    exact congrArg (fun c => c.bleCredentials.map Prod.fst) hc
  rw [havailable, hrange]
  refine alike_ite Iff.rfl (fun _ => alike_pure rfl) fun _ => ?_
  rw [hmac, hname]
  cases h : c.bleCredentials with
  | none =>
    cases h' : c'.bleCredentials with
    | none => exact alike_pure rfl
    | some cred' =>
      rw [h, h'] at hcred
      cases hcred
  | some cred =>
    cases h' : c'.bleCredentials with
    | none =>
      rw [h, h'] at hcred
      cases hcred
    | some cred' =>
      rw [h, h'] at hcred
      obtain ⟨version, key⟩ := cred
      obtain ⟨version', key'⟩ := cred'
      obtain rfl : version = version' := Option.some.inj hcred
      refine alike_tryCatch ?_ fun err => ?_
      · refine alike_bind (asyncReadStatus_like _ _ version key key') fun s s' hs => ?_
        rw [hs]
        exact alike_pure rfl
      · exact alike_ite Iff.rfl (fun _ => alike_pure rfl) fun _ => alike_throw err

theorem updateCloudState_like (h : SameData d d') :
    Like SameData (updateCloudState d) (updateCloudState d') := by
  have hlocked : d.locked = d'.locked := h.eq fun _ => rfl
  refine alike_bind alike_get fun c c' hc => ?_
  rw [lockId_eq hc]
  refine alike_tryCatch ?_ fun err => ?_
  · refine alike_bind (R := Eq) ?_ fun state state' hs => ?_
    · refine alike_bind (like_request (.queryOpenState c'.lockId)) fun a a' ha => ?_
      rw [show a = a' from ha]
      exact alike_fromExcept (agree_eq _)
    · rw [hs]
      exact alike_pure (h.map fun _ => rfl)
  · rw [hlocked]
    refine alike_ite Iff.rfl (fun _ => alike_throw err) fun _ => ?_
    exact alike_ite Iff.rfl (fun _ => alike_pure h) fun _ => alike_throw _

theorem updateState_like (h : SameData d d') :
    Like SameData (updateState d) (updateState d') := by
  refine alike_bind asyncReadStateBle_like fun status status' hs => ?_
  rw [hs]
  cases status'.bind fun status => status.locked.map fun locked => (status, locked) with
  | some known => exact alike_pure (h.map fun _ => rfl)
  | none =>
    refine alike_bind alike_get fun c c' hc => ?_
    rw [show c.webhookOnlyActive = c'.webhookOnlyActive from hc.eq fun _ => rfl,
      show d.locked = d'.locked from h.eq fun _ => rfl]
    exact alike_ite Iff.rfl (fun _ => alike_pure h) fun _ => updateCloudState_like h

theorem updatePassage_like (t : LocalTime) (h : SameData d d') :
    Like SameData (updatePassage t d) (updatePassage t d') := by
  refine alike_bind alike_get fun c c' hc => ?_
  have hdue := slowTierDue_eq hc (fun c => c.passageLastFetched) (fun _ => rfl) t
  refine alike_ite (by rw [hdue]) (fun _ => ?_) fun _ => alike_pure h
  rw [lockId_eq hc]
  refine alike_bind (like_request (.passageModeConfig c'.lockId)) fun a a' ha => ?_
  rw [show a = a' from ha]
  refine alike_bind (like_modify fun _ => rfl) fun _ _ _ => alike_pure ?_
  exact h.map (f := fun d => { d with passageModeConfig := some a' }) fun _ => rfl

theorem updateGateways_like (t : LocalTime) (h : SameData d d') :
    Like SameData (updateGateways t d) (updateGateways t d') := by
  have hset (gateways : List GatewayLink) : SameData { d with gateways := gateways }
      { d' with gateways := gateways } :=
    h.map (f := fun d => { d with gateways := gateways }) fun _ => rfl
  refine alike_bind alike_get fun c c' hc => ?_
  have hdue := slowTierDue_eq hc (fun c => c.gatewaysLastFetched) (fun _ => rfl) t
  rw [show c.hasGateway = c'.hasGateway from hc.eq fun _ => rfl]
  refine alike_ite Iff.rfl (fun _ => ?_) fun _ => alike_pure (hset [])
  refine alike_ite (by rw [hdue]) (fun _ => ?_) fun _ => alike_pure h
  rw [lockId_eq hc]
  refine alike_bind (R := Eq) ?_ fun gateways gateways' hg => ?_
  · refine alike_bind (like_request (.listByLock c'.lockId)) fun a a' ha => ?_
    rw [show a = a' from ha]
    exact alike_pure rfl
  · rw [hg]
    exact alike_bind (like_modify fun _ => rfl) fun _ _ _ => alike_pure (hset _)

/-- Codes that differ only in secrets, put into data that do. -/
theorem SameData.codes (h : SameData d d') {p p' : List Passcode} {e e' : List Ekey}
    (hp : p.map Passcode.masked = p'.map Passcode.masked)
    (he : e.map Ekey.masked = e'.map Ekey.masked) :
    SameData { d with passcodes := some p, ekeys := some e }
      { d' with passcodes := some p', ekeys := some e' } := by
  change ({ LockState.masked d with
      passcodes := some (p.map Passcode.masked)
      ekeys := some (e.map Ekey.masked) } : LockState) =
    { LockState.masked d' with
      passcodes := some (p'.map Passcode.masked)
      ekeys := some (e'.map Ekey.masked) }
  rw [hp, he, h]

theorem updateCodes_like (t : LocalTime) (h : SameData d d') :
    Like SameData (updateCodes t d) (updateCodes t d') := by
  refine alike_bind alike_get fun c c' hc => ?_
  have hdue := slowTierDue_eq hc (fun c => c.codesLastFetched) (fun _ => rfl) t
  refine alike_ite (by rw [hdue]) (fun _ => ?_) fun _ => alike_pure h
  rw [lockId_eq hc]
  refine alike_bind (like_request (.listKeyboardPwd c'.lockId)) fun p p' hp => ?_
  refine alike_bind (like_request (.listKey c'.lockId)) fun e e' he => ?_
  exact alike_bind (like_modify fun _ => rfl) fun _ _ _ => alike_pure (h.codes hp he)

theorem fetchAll_like : Like SameData fetchAll fetchAll := by
  refine alike_bind alike_get fun c c' hc => ?_
  dsimp only
  rw [show c.now = c'.now from hc.eq fun _ => rfl]
  refine alike_bind (updateDetails_like _ hc.data) fun d d' h => ?_
  refine alike_bind (updateSensor_like h) fun d d' h => ?_
  refine alike_bind (updateState_like h) fun d d' h => ?_
  refine alike_bind (updatePassage_like _ h) fun d d' h => ?_
  refine alike_bind (updateGateways_like _ h) fun d d' h => ?_
  exact updateCodes_like _ h

theorem asyncUpdateData_like : Like SameData asyncUpdateData asyncUpdateData := by
  refine alike_bind alike_get fun c c' hc => ?_
  rw [show c.connectable = c'.connectable from hc.eq fun _ => rfl]
  refine alike_ite Iff.rfl (fun _ => alike_throw _) fun _ => ?_
  refine alike_tryCatch fetchAll_like fun err => ?_
  exact alike_ite Iff.rfl (fun _ => alike_throw _) fun _ => alike_throw err

/-! ### The writers of the data -/

/-- Data that differ only in secrets, put into coordinators that do. -/
theorem SameCoordinator.set (hc : SameCoordinator c c') (h : SameData d d') :
    SameCoordinator (setUpdatedData d c) (setUpdatedData d' c') := by
  change setUpdatedData (LockState.masked d) (LockUpdateCoordinator.masked c) =
    setUpdatedData (LockState.masked d') (LockUpdateCoordinator.masked c')
  rw [h, hc]

theorem asyncRefresh_like : Like (fun _ _ => True) asyncRefresh asyncRefresh := by
  refine alike_tryCatch ?_ fun err => ?_
  · refine alike_bind asyncUpdateData_like fun d d' h => ?_
    exact alike_modify fun c c' hc => hc.set h
  · exact alike_ite Iff.rfl (fun _ => like_modify fun _ => rfl) fun _ => alike_throw err

theorem asyncRefreshCodes_like : Like (fun _ _ => True) asyncRefreshCodes asyncRefreshCodes := by
  refine alike_bind alike_get fun c c' hc => ?_
  rw [lockId_eq hc]
  refine alike_bind (like_request (.listKeyboardPwd c'.lockId)) fun p p' hp => ?_
  refine alike_bind (like_request (.listKey c'.lockId)) fun e e' he => ?_
  refine alike_bind like_now fun t t' ht => ?_
  rw [ht]
  refine alike_modify fun s s' hs => ?_
  have hstamp : SameCoordinator { s with codesLastFetched := some t' }
      { s' with codesLastFetched := some t' } :=
    hs.map (f := fun c => { c with codesLastFetched := some t' }) fun _ => rfl
  exact hstamp.set (hc.data.codes hp he)

theorem applyEventState_masked (event : WebhookEvent) (d : LockState) :
    LockState.masked (applyEventState event d) = applyEventState event (LockState.masked d) := by
  unfold applyEventState
  generalize event.state.locked = locked
  cases locked with
  | none => rfl
  | some state =>
    cases state with
    | locked => rfl
    | unlocked => rfl
    | unknown => rfl

theorem applyEventSensor_masked (event : WebhookEvent) (d : LockState) :
    LockState.masked (applyEventSensor event d) = applyEventSensor event (LockState.masked d) := by
  unfold applyEventSensor
  by_cases h : sensorPresent d.sensor
  · rw [if_pos h, if_pos (show sensorPresent (LockState.masked d).sensor from h)]
    cases event.sensorState.opened with
    | none => rfl
    | some state =>
      cases state with
      | opened => rfl
      | closed => rfl
      | unknown => rfl
  · rw [if_neg h, if_neg (show ¬ sensorPresent (LockState.masked d).sensor from h)]

/-- A webhook event moves the data by what it says. -/
theorem processWebhookData_same (hc : SameCoordinator c c') (event : WebhookEvent) :
    SameCoordinator (processWebhookData event c).1 (processWebhookData event c').1 := by
  rw [processWebhookData_fst, processWebhookData_fst, lockId_eq hc]
  by_cases h : event.id ≠ c'.lockId ∨ ¬ event.success
  · rw [if_pos h, if_pos h]
    exact hc
  · rw [if_neg h, if_neg h]
    refine hc.set (hc.data.map fun d => ?_)
    rw [webhookData, applyEventSensor_masked, applyEventState_masked]
    rfl

theorem autoLocked_like (seconds : ℤ) (offset : Duration) :
    Like (fun _ _ => True) (autoLocked seconds offset) (autoLocked seconds offset) := by
  have hlock : Like (fun _ _ => True)
      (modify fun c => setUpdatedData (autoLockedData c.data) c : Method PUnit)
      (modify fun c => setUpdatedData (autoLockedData c.data) c) := like_modify fun _ => rfl
  refine alike_ite Iff.rfl (fun _ => ?_) fun _ => hlock
  exact alike_bind (like_request (.sleep _)) fun _ _ _ => hlock

/-! ### Commands -/

theorem lockAction_like {body : Method Unit} (h : Like (fun _ _ => True) body body) :
    Like (fun _ _ => True) (lockAction body) (lockAction body) := by
  refine alike_bind (like_modify fun _ => rfl) fun _ _ _ => ?_
  refine alike_bind (R := fun _ _ => True) ?_ fun _ _ _ => like_modify fun _ => rfl
  refine alike_tryCatch h fun err => ?_
  exact alike_bind (like_modify fun _ => rfl) fun _ _ _ => alike_throw err

/-- A request whose reply is a truth value, and what follows if it is true. -/
theorem command_like {q : Request} {accepted : Reply q → Bool}
    (hq : ∀ a a', maskedReply q a = maskedReply q a' → accepted a = accepted a')
    {f : LockUpdateCoordinator → LockUpdateCoordinator}
    (hf : ∀ c, LockUpdateCoordinator.masked (f c) = f (LockUpdateCoordinator.masked c)) :
    Like (fun _ _ => True)
      (do let res ← (do let a ← request q; pure (accepted a)); if res then modify f : Method Unit)
      (do let res ← (do let a ← request q; pure (accepted a)); if res then modify f) := by
  refine alike_bind (R := Eq) ?_ fun res res' hres => ?_
  · exact alike_bind (like_request q) fun a a' ha => alike_pure (hq a a' ha)
  · rw [hres]
    exact alike_ite Iff.rfl (fun _ => like_modify hf) fun _ => alike_pure trivial

theorem lock_like : Like (fun _ _ => True) lock lock := by
  refine lockAction_like (alike_bind alike_get fun c c' hc => ?_)
  rw [lockId_eq hc]
  exact command_like (q := .lock c'.lockId) (fun a a' h => congrArg CommandBody.accepted h)
    fun _ => rfl

theorem unlock_like : Like (fun _ _ => True) unlock unlock := by
  refine lockAction_like (alike_bind alike_get fun c c' hc => ?_)
  rw [lockId_eq hc]
  exact command_like (q := .unlock c'.lockId) (fun a a' h => congrArg CommandBody.accepted h)
    fun _ => rfl

theorem setAutoLock_like (on : Bool) : Like (fun _ _ => True) (setAutoLock on) (setAutoLock on) := by
  refine alike_bind alike_get fun c c' hc => ?_
  dsimp only
  rw [lockId_eq hc]
  exact command_like (q := .setAutoLockTime c'.lockId (if on then 10 else 0))
    (fun a a' h => congrArg CommandBody.accepted h) fun _ => rfl

theorem setLockSound_like (on : Bool) :
    Like (fun _ _ => True) (setLockSound on) (setLockSound on) := by
  refine alike_bind alike_get fun c c' hc => ?_
  dsimp only
  rw [lockId_eq hc]
  exact command_like (q := .updateSetting c'.lockId (if on then 1 else 2))
    (fun a a' h => congrArg CommandBody.accepted h) fun _ => rfl

/-- **No job looks at secrets.** -/
theorem prog_like (w : Job) : Like (fun _ _ => True) (prog w) (prog w) := by
  cases w with
  | refresh => exact asyncRefresh_like
  | refreshCodes => exact asyncRefreshCodes_like
  | webhook event => exact alike_modify fun c c' hc => processWebhookData_same hc event
  | autoLocked seconds offset => exact autoLocked_like seconds offset
  | lock => exact lock_like
  | unlock => exact unlock_like
  | setAutoLock on => exact setAutoLock_like on
  | setLockSound on => exact setLockSound_like on
  | clock now offsetDayAgo => exact like_modify fun _ => rfl
  | presence inRange => exact like_modify fun _ => rfl
  | webhookStatus status => exact like_modify fun _ => rfl

end TTLockConnect.Diagnostics.Unseen
