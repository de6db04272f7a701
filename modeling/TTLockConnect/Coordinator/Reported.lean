import TTLockConnect.Coordinator.Overwrite

/-! # What an event changes

An event that the handler takes up may move the fields it reports on, and no others: `Frame` bounds
each field by the records that may move it. The handler keeps to it for every field but the battery,
which it sets to what the event carries also when the event carries nothing. -/

namespace TTLockConnect.Coordinator.Reported

open TTLockConnect.Models TTLockConnect.Ble.Protocol TTLockConnect.Coordinator.State
open TTLockConnect.Coordinator.Poll TTLockConnect.Coordinator.Overwrite

/-! ### What an event reports -/

/-- A lock or an unlock record. -/
def LockRecord (event : WebhookEvent) : Prop :=
  event.event.action = .lock ∨ event.event.action = .unlock

/-- A record of the door. -/
def DoorRecord (event : WebhookEvent) : Prop :=
  event.event.action = .close ∨ event.event.action = .open

/-- The door has closed, on a lock that has a door sensor. -/
def ClosedAt (event : WebhookEvent) (d : LockState) : Prop :=
  event.event.action = .close ∧ sensorPresent d.sensor = true

/-- The event says what the lock has done. -/
def SaysLocked (event : WebhookEvent) (d : LockState) : Prop := LockRecord event ∨ ClosedAt event d

/-- The event is one the handler takes up: for this lock, and successful. -/
def Addressed (lockId : ℤ) (event : WebhookEvent) : Prop :=
  event.id = lockId ∧ event.success = true

/-- The battery, if it has moved, is the level the event carries. -/
def BatteryReported (event : WebhookEvent) (d d' : LockState) : Prop :=
  d'.batteryLevel ≠ d.batteryLevel →
    event.batteryLevel.isSome = true ∧ d'.batteryLevel = event.batteryLevel

/-- What an event may change besides the battery. -/
structure StateFrame (event : WebhookEvent) (d d' : LockState) : Prop where
  locked : d'.locked ≠ d.locked → SaysLocked event d
  lastUser : d'.lastUser ≠ d.lastUser → SaysLocked event d
  lastReason : d'.lastReason ≠ d.lastReason → SaysLocked event d
  opened : d'.opened ≠ d.opened → DoorRecord event ∧ sensorPresent d.sensor = true
  sensor : d'.sensor = d.sensor.map fun s => { s with opened := d'.opened }
  others : d' = { d with
    batteryLevel := d'.batteryLevel, locked := d'.locked, lastUser := d'.lastUser
    lastReason := d'.lastReason, sensor := d'.sensor }

/-- **An event changes only what it reports**: nothing if it is not taken up, else the battery to a
level it carries, and the rest within its frame. -/
def ChangesOnlyReported (lockId : ℤ) (event : WebhookEvent) (d d' : LockState) : Prop :=
  (¬ Addressed lockId event → d' = d) ∧
    (Addressed lockId event → BatteryReported event d d' ∧ StateFrame event d d')

variable {c : LockUpdateCoordinator} {event : WebhookEvent} {d d' d'' : LockState}

/-! ### The views of an event -/

/-- What a successful event says of the lock. -/
theorem state_locked_cases (hs : event.success = true) :
    (event.event.action = .lock ∧ event.state.locked = some .locked) ∨
    (event.event.action = .unlock ∧ event.state.locked = some .unlocked) ∨
    (¬ LockRecord event ∧ event.state.locked = none) := by
  unfold WebhookEvent.state LockRecord
  rcases h : event.event.action <;> simp [hs]

/-- What a successful event says of the door. -/
theorem sensorState_opened_cases (hs : event.success = true) :
    (event.event.action = .close ∧ event.sensorState.opened = some .closed) ∨
    (event.event.action = .open ∧ event.sensorState.opened = some .opened) ∨
    event.sensorState.opened = none := by
  unfold WebhookEvent.sensorState
  rcases h : event.event.action <;> simp [hs]

theorem opened_setOpened {s : Option SensorData} {b : Bool} (h : sensorPresent s = true) :
    (setOpened s b).bind SensorData.opened = some b := by
  cases s with
  | none => simp [sensorPresent] at h
  | some s => simp [setOpened, h]

/-! ### The two blocks of the handler -/

theorem StateFrame.refl (event : WebhookEvent) (d : LockState) : StateFrame event d d where
  locked := fun h => absurd rfl h
  lastUser := fun h => absurd rfl h
  lastReason := fun h => absurd rfl h
  opened := fun h => absurd rfl h
  sensor := by
    cases h : d.sensor with
    | none => rfl
    | some s => simp [LockState.opened, h]
  others := rfl

theorem StateFrame.present (h : StateFrame event d d') :
    sensorPresent d'.sensor = sensorPresent d.sensor := by
  rw [h.sensor]
  cases d.sensor <;> rfl

theorem StateFrame.saysLocked (h : StateFrame event d d') (hl : SaysLocked event d') :
    SaysLocked event d := by
  unfold SaysLocked ClosedAt at *
  rwa [h.present] at hl

/-- Two blocks within the frame of one event stay within it together. -/
theorem StateFrame.trans (h : StateFrame event d d') (h' : StateFrame event d' d'') :
    StateFrame event d d'' where
  locked := by
    intro hne
    by_cases he : d'.locked = d.locked
    · exact h.saysLocked (h'.locked (by rwa [he]))
    · exact h.locked he
  lastUser := by
    intro hne
    by_cases he : d'.lastUser = d.lastUser
    · exact h.saysLocked (h'.lastUser (by rwa [he]))
    · exact h.lastUser he
  lastReason := by
    intro hne
    by_cases he : d'.lastReason = d.lastReason
    · exact h.saysLocked (h'.lastReason (by rwa [he]))
    · exact h.lastReason he
  opened := by
    intro hne
    by_cases he : d'.opened = d.opened
    · have := h'.opened (by rwa [he])
      rwa [h.present] at this
    · exact h.opened he
  sensor := by
    rw [h'.sensor, h.sensor, Option.map_map]
    rfl
  others := by rw [h'.others, h.others]

theorem batteryLevel_frame (level : Option ℤ) :
    StateFrame event d { d with batteryLevel := level } :=
  { StateFrame.refl event d with others := rfl }

theorem applyEventState_stateFrame (hs : event.success = true) :
    StateFrame event d (applyEventState event d) := by
  have hk : StateFrame event d d := StateFrame.refl event d
  rcases state_locked_cases hs with ⟨ha, h⟩ | ⟨ha, h⟩ | ⟨-, h⟩
  · have hl : SaysLocked event d := Or.inl (Or.inl ha)
    simp only [applyEventState, h, Option.isSome_some, if_true]
    exact ⟨fun _ => hl, fun _ => hl, fun _ => hl, fun h => absurd rfl h, hk.sensor, rfl⟩
  · have hl : SaysLocked event d := Or.inl (Or.inr ha)
    simp only [applyEventState, h, Option.isSome_some, if_true]
    exact ⟨fun _ => hl, fun _ => hl, fun _ => hl, fun h => absurd rfl h, hk.sensor, rfl⟩
  · simpa [applyEventState, h] using hk

theorem applyEventSensor_stateFrame (hs : event.success = true) :
    StateFrame event d (applyEventSensor event d) := by
  unfold applyEventSensor
  by_cases hp : sensorPresent d.sensor = true
  · rw [if_pos hp]
    have hset : ∀ b, setOpened d.sensor b = d.sensor.map fun s => { s with opened := some b } := by
      intro b
      rw [setOpened, if_pos hp]
    have hopened : ∀ b, (setOpened d.sensor b).bind SensorData.opened = some b :=
      fun b => opened_setOpened hp
    rcases sensorState_opened_cases hs with ⟨ha, h⟩ | ⟨ha, h⟩ | h
    · have hl : SaysLocked event d := Or.inr ⟨ha, hp⟩
      simp only [h]
      refine ⟨fun _ => hl, fun h => absurd rfl h, fun _ => hl, fun _ => ⟨Or.inl ha, hp⟩, ?_, rfl⟩
      simp only [LockState.opened, hopened]
      exact hset false
    · simp only [h]
      refine ⟨fun h => absurd rfl h, fun h => absurd rfl h, fun h => absurd rfl h,
        fun _ => ⟨Or.inr ha, hp⟩, ?_, rfl⟩
      simp only [LockState.opened, hopened]
      exact hset true
    · simp only [h]
      exact StateFrame.refl event d
  · rw [if_neg hp]
    exact StateFrame.refl event d

theorem webhookData_stateFrame (hs : event.success = true) :
    StateFrame event d (webhookData event d) :=
  (batteryLevel_frame event.batteryLevel).trans
    ((applyEventState_stateFrame hs).trans (applyEventSensor_stateFrame hs))

/-! ### The battery -/

@[simp] theorem applyEventState_batteryLevel :
    (applyEventState event d).batteryLevel = d.batteryLevel := by
  unfold applyEventState
  split <;> split_ifs <;> rfl

@[simp] theorem applyEventSensor_batteryLevel :
    (applyEventSensor event d).batteryLevel = d.batteryLevel := by
  unfold applyEventSensor
  split_ifs
  · split <;> rfl
  · rfl

/-- The battery is what the event carries, if it carries anything or not. -/
theorem webhookData_batteryLevel : (webhookData event d).batteryLevel = event.batteryLevel := by
  simp [webhookData]

theorem webhookData_batteryReported_iff (event : WebhookEvent) (d : LockState) :
    BatteryReported event d (webhookData event d) ↔
      event.batteryLevel.isSome = true ∨ d.batteryLevel = none := by
  unfold BatteryReported
  rw [webhookData_batteryLevel]
  cases event.batteryLevel with
  | some level => simp
  | none => simp [eq_comm]

/-! ### The handler -/

/-- The event does not wipe the battery: it is not taken up, or it carries a level, or there is no
known level to lose. -/
def KeepsBattery (event : WebhookEvent) (c : LockUpdateCoordinator) : Prop :=
  ¬ Addressed c.lockId event ∨ event.batteryLevel.isSome = true ∨ c.data.batteryLevel = none

/-- **The handler changes only what the event reports, exactly when the event does not wipe the
battery.** -/
theorem processWebhookData_changesOnlyReported_iff (event : WebhookEvent)
    (c : LockUpdateCoordinator) :
    ChangesOnlyReported c.lockId event c.data (processWebhookData event c).1.data ↔
      KeepsBattery event c := by
  unfold ChangesOnlyReported KeepsBattery
  rw [processWebhookData_fst]
  by_cases ha : Addressed c.lockId event
  · have hn : ¬ (event.id ≠ c.lockId ∨ ¬ event.success = true) := by
      rintro (h | h)
      · exact h ha.1
      · exact h ha.2
    rw [if_neg hn]
    have hf : StateFrame event c.data (webhookData event c.data) := webhookData_stateFrame ha.2
    have hb := webhookData_batteryReported_iff event c.data
    simp only [setUpdatedData, ha, not_true_eq_false, false_imp_iff, true_imp_iff, true_and,
      false_or, hf, and_true]
    exact hb
  · have hp : event.id ≠ c.lockId ∨ ¬ event.success = true := by
      by_contra hn
      push Not at hn
      exact ha ⟨hn.1, hn.2⟩
    rw [if_pos hp]
    simp [ha]

/-- An unlock record without a battery level. -/
def withoutLevel : WebhookEvent := { sampleUnlock with batteryLevel := none }

/-- A lock whose battery is known to stand at 90. -/
def charged : LockUpdateCoordinator :=
  { sampleCoordinator with data := { sampleCoordinator.data with batteryLevel := some 90 } }

/-- The level is gone after the event. -/
theorem processWebhookData_wipes_battery :
    ¬ ∀ (event : WebhookEvent) (c : LockUpdateCoordinator),
      ChangesOnlyReported c.lockId event c.data (processWebhookData event c).1.data := by
  intro h
  have hb := ((h withoutLevel charged).2 ⟨rfl, rfl⟩).1
  have hc := (hb (by decide)).1
  exact absurd hc (by decide)

end TTLockConnect.Coordinator.Reported
