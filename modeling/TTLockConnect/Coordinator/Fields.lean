import TTLockConnect.Coordinator.Poll

/-! # The fields of the lock state, and what a run fetches of them

`Fetched l f`: the replies `l` of a poll or a code refresh carry the field `f`. `Carries` relates the
copy such a run started from to the data it has built so far: what it did not fetch is as in the
copy. -/

namespace TTLockConnect.Coordinator.Fields

open TTLockConnect.Text TTLockConnect.Models TTLockConnect.Ble.Protocol TTLockConnect.Api
open TTLockConnect.Coordinator.State TTLockConnect.Coordinator.Poll TTLockConnect.Async.Coroutine

/-- The fields of `LockState`; those of its door sensor stand for themselves. -/
inductive Field where
  | name
  | mac
  | model
  | batteryLevel
  | hardwareVersion
  | firmwareVersion
  | features
  | locked
  | actionPending
  | lastUser
  | lastReason
  | lockSound
  | sensorOpened
  | sensorBattery
  | sensorLastFetched
  | autoLockSeconds
  | passageModeConfig
  | gateways
  | passcodes
  | ekeys
  deriving DecidableEq, Repr

def Field.all : List Field :=
  [.name, .mac, .model, .batteryLevel, .hardwareVersion, .firmwareVersion, .features, .locked,
    .actionPending, .lastUser, .lastReason, .lockSound, .sensorOpened, .sensorBattery,
    .sensorLastFetched, .autoLockSeconds, .passageModeConfig, .gateways, .passcodes, .ekeys]

theorem Field.mem_all (f : Field) : f ∈ Field.all := by
  cases f <;> decide

instance (p : Field → Prop) [DecidablePred p] : Decidable (∀ f, p f) :=
  decidable_of_iff (∀ f ∈ Field.all, p f) ⟨fun h f => h f f.mem_all, fun h f _ => h f⟩

/-- The fields of the door sensor. -/
def Field.ofSensor : Field → Bool
  | .sensorOpened | .sensorBattery | .sensorLastFetched => true
  | _ => false

/-- The fields `lock/detail` gives. -/
def Field.ofDetails : Field → Bool
  | .name | .mac | .model | .batteryLevel | .hardwareVersion | .firmwareVersion | .features
  | .lockSound | .autoLockSeconds => true
  | _ => false

/-- Two states have the same value in a field; no sensor is a sensor that knows nothing. -/
def Same (d d' : LockState) : Field → Prop
  | .name => d.name = d'.name
  | .mac => d.mac = d'.mac
  | .model => d.model = d'.model
  | .batteryLevel => d.batteryLevel = d'.batteryLevel
  | .hardwareVersion => d.hardwareVersion = d'.hardwareVersion
  | .firmwareVersion => d.firmwareVersion = d'.firmwareVersion
  | .features => d.features = d'.features
  | .locked => d.locked = d'.locked
  | .actionPending => d.actionPending = d'.actionPending
  | .lastUser => d.lastUser = d'.lastUser
  | .lastReason => d.lastReason = d'.lastReason
  | .lockSound => d.lockSound = d'.lockSound
  | .sensorOpened => d.sensor.bind SensorData.opened = d'.sensor.bind SensorData.opened
  | .sensorBattery => d.sensor.bind SensorData.battery = d'.sensor.bind SensorData.battery
  | .sensorLastFetched =>
    d.sensor.bind SensorData.lastFetched = d'.sensor.bind SensorData.lastFetched
  | .autoLockSeconds => d.autoLockSeconds = d'.autoLockSeconds
  | .passageModeConfig => d.passageModeConfig = d'.passageModeConfig
  | .gateways => d.gateways = d'.gateways
  | .passcodes => d.passcodes = d'.passcodes
  | .ekeys => d.ekeys = d'.ekeys

instance (d d' : LockState) (f : Field) : Decidable (Same d d' f) := by
  cases f <;> exact inferInstanceAs (Decidable (_ = _))

namespace Same
variable {d d' d'' : LockState} {f : Field}

theorem refl (d : LockState) (f : Field) : Same d d f := by
  cases f <;> rfl

theorem symm (h : Same d d' f) : Same d' d f := by
  cases f <;> exact Eq.symm h

theorem trans (h : Same d d' f) (h' : Same d' d'' f) : Same d d'' f := by
  cases f <;> exact Eq.trans h h'

end Same

/-! ### What a reply carries -/

/-- The fields that one exchange carries. A refused door-sensor query still dates the sensor; a
lock that turns out to have no door sensor has none of its fields. -/
def fetchedBy : Exchange Reply PyError → Field → Bool
  | ⟨.detail _, .ok details⟩, f =>
    f.ofDetails || match Features.fromFeatureValue details.featureValue with
      | .ok features => !features.has doorSensorBit && f.ofSensor
      | .error _ => false
  | ⟨.doorSensor _, .ok _⟩, f => f = .sensorBattery || f = .sensorLastFetched
  | ⟨.doorSensor _, .error err⟩, f => err = .requestFailed && f = .sensorLastFetched
  | ⟨.queryLockStatus _ _ _ _, .ok data⟩, f =>
    let status := LockStatus.parse data
    status.locked.isSome &&
      (f = .locked || (f = .batteryLevel && status.battery.isSome) ||
        (f = .sensorOpened && status.doorOpen.isSome))
  | ⟨.queryOpenState _, .ok body⟩, f =>
    (WireLockState.modelValidate body).toBool && (f = .locked || f = .sensorOpened)
  | ⟨.passageModeConfig _, .ok _⟩, f => f = .passageModeConfig
  | ⟨.listByLock _, .ok _⟩, f => f = .gateways
  | ⟨.listKeyboardPwd _, .ok _⟩, f => f = .passcodes
  | ⟨.listKey _, .ok _⟩, f => f = .ekeys
  | _, _ => false

/-- **A field that the replies of a run carry.** -/
def Fetched (l : Log) (f : Field) : Prop := ∃ x ∈ l, fetchedBy x f = true

instance (l : Log) (f : Field) : Decidable (Fetched l f) :=
  inferInstanceAs (Decidable (∃ x ∈ l, fetchedBy x f = true))

variable {l : Log} {x : Exchange Reply PyError} {f : Field}

theorem Fetched.append (h : Fetched l f) (x : Exchange Reply PyError) : Fetched (l ++ [x]) f := by
  obtain ⟨y, hy, hf⟩ := h
  exact ⟨y, List.mem_append_left _ hy, hf⟩

theorem fetched_last (h : fetchedBy x f = true) : Fetched (l ++ [x]) f :=
  ⟨x, by simp, h⟩

theorem not_fetched_of_append (h : ¬ Fetched (l ++ [x]) f) : ¬ Fetched l f ∧ fetchedBy x f = false :=
  ⟨fun hf => h (hf.append x), Bool.eq_false_iff.mpr fun hf => h (fetched_last hf)⟩

/-- No reply carries the flag of a command, or who moved the lock last and why. -/
theorem not_fetched (l : Log) (hf : f = .actionPending ∨ f = .lastUser ∨ f = .lastReason) :
    ¬ Fetched l f := by
  rintro ⟨⟨q, a⟩, _, h⟩
  rcases hf with rfl | rfl | rfl <;> cases q <;> cases a <;>
    simp [fetchedBy, Field.ofDetails, Field.ofSensor] at h <;> split at h <;> simp at h

/-! ### The copy and the data built from it -/

/-- A lock without a door sensor has no sensor data, one without a gateway no gateways. -/
structure Consistent (gateway : Bool) (d : LockState) : Prop where
  sensor : d.features.has doorSensorBit = false → d.sensor = none
  gateways : gateway = false → d.gateways = []

/-- **What a run has made of its copy** after the replies `l`. -/
structure Carries (gateway : Bool) (copy : LockState) (l : Log) (d : LockState) : Prop where
  same : ∀ f, ¬ Fetched l f → Same copy d f
  consistent : Consistent gateway d

/-- What a poll has made of its copy before it has looked at the door sensor. -/
structure Detailed (gateway : Bool) (copy : LockState) (l : Log) (d : LockState) : Prop where
  same : ∀ f, ¬ Fetched l f → Same copy d f
  sensor : d.features.has doorSensorBit = false →
    d.sensor = none ∨ ∀ f, f.ofSensor → Fetched l f
  gateways : gateway = false → d.gateways = []

variable {gateway : Bool} {copy d d' : LockState}

theorem Consistent.carries (h : Consistent gateway d) : Carries gateway d [] d :=
  ⟨fun f _ => Same.refl d f, h⟩

theorem Carries.detailed (h : Carries gateway copy l d) : Detailed gateway copy l d :=
  ⟨h.same, fun hf => .inl (h.consistent.sensor hf), h.consistent.gateways⟩

/-- A reply that changes nothing. -/
theorem Carries.append (h : Carries gateway copy l d) (x : Exchange Reply PyError) :
    Carries gateway copy (l ++ [x]) d :=
  ⟨fun f hf => h.same f (not_fetched_of_append hf).1, h.consistent⟩

/-- Data that differ at most in the fields that a reply carries. -/
theorem same_update (h : ∀ f, ¬ Fetched l f → Same copy d f)
    (hsame : ∀ f, fetchedBy x f = false → Same d d' f) :
    ∀ f, ¬ Fetched (l ++ [x]) f → Same copy d' f := by
  intro f hf
  obtain ⟨h1, h2⟩ := not_fetched_of_append hf
  exact (h f h1).trans (hsame f h2)

theorem Carries.update (h : Carries gateway copy l d)
    (hsame : ∀ f, fetchedBy x f = false → Same d d' f) (hd : Consistent gateway d') :
    Carries gateway copy (l ++ [x]) d' :=
  ⟨same_update h.same hsame, hd⟩

end TTLockConnect.Coordinator.Fields
