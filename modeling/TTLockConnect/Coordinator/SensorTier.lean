import TTLockConnect.Coordinator.Retry

/-! # The door sensor in a poll

The tier of the sensor calls `doorSensor/query` at most once. Whether it does is decided by the record
of the store and the flag of the instance, or by the stamp of a sensor that is present; `Sensed` says
what it makes of these. The other tiers are `Quiet`: they do not ask, and leave all of it alone. -/

namespace TTLockConnect.Coordinator.SensorTier

open TTLockConnect.Text TTLockConnect.Models TTLockConnect.Ble.Cipher TTLockConnect.Ble.Protocol
open TTLockConnect.Api TTLockConnect.Coordinator.State
open TTLockConnect.Coordinator.Poll TTLockConnect.Coordinator.Retry
open TTLockConnect.Async.Coroutine TTLockConnect.Async.Coroutine.Coro

/-! ### What decides about a query -/

/-- What `_update_present_sensor` goes by: the stamp of a sensor that is present. -/
def gate (sensor : Option SensorData) : Option (Option LocalTime) :=
  sensor.bind fun s => if s.present then some s.lastFetched else none

/-- All that decides stays as it is, and time does not go back. -/
structure Steady (c c' : LockUpdateCoordinator) : Prop where
  store : c'.store = c.store
  recheck : c'.sensorRecheckDone = c.sensorRecheckDone
  sensor : gate c'.data.sensor = gate c.data.sensor
  lockId : c'.lockId = c.lockId
  later : c.now.instant ≤ c'.now.instant

/-- The record and the flag stay as they are. -/
structure Kept (c c' : LockUpdateCoordinator) : Prop where
  store : c'.store = c.store
  recheck : c'.sensorRecheckDone = c.sensorRecheckDone
  lockId : c'.lockId = c.lockId
  later : c.now.instant ≤ c'.now.instant

/-- A poll alone, around which time passes. -/
structure CalmWorld extends World where
  steady : ∀ q c, Steady c (toWorld.move q c)

/-- What a call of `doorSensor/query` comes to. -/
inductive Outcome where
  | sensor (battery : Option ℤ)
  | requestFailed
  /-- Any other exception. -/
  | other
  deriving DecidableEq, Repr

def outcome (w : World) (lockId : ℤ) : Outcome :=
  match w.reply (.doorSensor lockId) with
  | .ok result => .sensor result.batteryLevel
  | .error e => if e = .requestFailed then .requestFailed else .other

/-- The sensor once it has been asked for. -/
def answered (sensor : SensorData) (o : Outcome) (t : LocalTime) : SensorData :=
  match o with
  | .sensor battery => { sensor with battery := battery, lastFetched := some t }
  | _ => { sensor with lastFetched := some t }

/-- The record after a probe. -/
def recorded (r : StoreRecord) (o : Outcome) (t : LocalTime) : StoreRecord :=
  match o with
  | .sensor _ => { r with doorSensorConfirmedAbsent := false, doorSensorCountFailedReq := 0 }
  | .requestFailed =>
    if r.doorSensorConfirmedAbsent then r
    else
      { doorSensorLastFailedReq := some t
        doorSensorCountFailedReq := r.doorSensorCountFailedReq + 1
        doorSensorConfirmedAbsent :=
          decide (SENSOR_ABSENT_AFTER_FAILURES ≤ r.doorSensorCountFailedReq + 1) }
  | .other => r

/-- `_sensor_recheck_done` after a probe. -/
def recheckAfter (c : LockUpdateCoordinator) (o : Outcome) : Bool :=
  c.sensorRecheckDone || c.store.doorSensorConfirmedAbsent ||
    decide (o = .requestFailed ∧ SENSOR_ABSENT_AFTER_FAILURES ≤ c.store.doorSensorCountFailedReq + 1)

/-- The times at which `doorSensor/query` is called. -/
def queryTimes (calls : List (Request × LockUpdateCoordinator)) : List Instant :=
  calls.filterMap fun call => match call.1 with
    | .doorSensor _ => some call.2.now.instant
    | _ => none

variable {w : CalmWorld} {c c' c'' s s' : LockUpdateCoordinator} {d : LockState} {α β : Type}

theorem queryTimes_append (l l' : List (Request × LockUpdateCoordinator)) :
    queryTimes (l ++ l') = queryTimes l ++ queryTimes l' := List.filterMap_append

theorem gate_some (sensor : SensorData) :
    gate (some sensor) = if sensor.present then some sensor.lastFetched else none := rfl

theorem isSome_gate (sensor : Option SensorData) : (gate sensor).isSome = sensorPresent sensor := by
  cases sensor with
  | none => rfl
  | some s =>
    rw [gate_some, sensorPresent]
    cases s.present <;> rfl

theorem Steady.refl (c : LockUpdateCoordinator) : Steady c c := ⟨rfl, rfl, rfl, rfl, Int.le_refl _⟩

theorem Steady.trans (h : Steady c c') (h' : Steady c' c'') : Steady c c'' where
  store := h'.store.trans h.store
  recheck := h'.recheck.trans h.recheck
  sensor := h'.sensor.trans h.sensor
  lockId := h'.lockId.trans h.lockId
  later := Int.le_trans h.later h'.later

theorem Steady.kept (h : Steady c c') : Kept c c' := ⟨h.store, h.recheck, h.lockId, h.later⟩

theorem Kept.trans (h : Kept c c') (h' : Kept c' c'') : Kept c c'' :=
  ⟨h'.store.trans h.store, h'.recheck.trans h.recheck, h'.lockId.trans h.lockId,
    Int.le_trans h.later h'.later⟩

/-! ### The parts of a poll that do not ask -/

/-- The coroutine does not ask for the door sensor and leaves what decides; of what it returns
something is known. -/
def Quiet (w : CalmWorld) (Q : α → Prop) (p : Method α) : Prop := ∀ c,
  queryTimes (p.calls w.answer c) = [] ∧ Steady c (p.run w.answer c).2 ∧
    ∀ a, (p.run w.answer c).1 = .ok a → Q a

variable {Q : α → Prop} {R : β → Prop}

theorem quiet_pure {a : α} (h : Q a) : Quiet w Q (pure a) :=
  fun c => ⟨rfl, .refl c, fun _ ha => Except.ok.inj ha ▸ h⟩

theorem quiet_throw (e : PyError) : Quiet w Q (throw e : Method α) := fun c => ⟨rfl, .refl c, nofun⟩

theorem quiet_get : Quiet w (fun _ => True) (get : Method LockUpdateCoordinator) :=
  fun c => ⟨rfl, .refl c, fun _ _ => trivial⟩

theorem quiet_modify {f : LockUpdateCoordinator → LockUpdateCoordinator}
    (h : ∀ c, Steady c (f c)) : Quiet w (fun _ => True) (modify f : Method Unit) :=
  fun c => ⟨rfl, h c, fun _ _ => trivial⟩

theorem quiet_fromExcept (r : Except PyError α) :
    Quiet w (fun _ => True) (fromExcept r : Method α) := by
  intro c
  rw [calls_fromExcept, run_fromExcept]
  exact ⟨rfl, .refl c, fun _ _ => trivial⟩

theorem quiet_request (q : Request) (hq : ∀ lockId, q ≠ .doorSensor lockId) :
    Quiet w (fun _ => True) (request q) := by
  intro c
  rw [request, calls_call, run_call]
  refine ⟨?_, w.steady q c, fun _ _ => trivial⟩
  cases q <;> first | rfl | exact absurd rfl (hq _)

theorem quiet_bind {p : Method α} {f : α → Method β} (hp : Quiet w Q p)
    (hf : ∀ a, Q a → Quiet w R (f a)) : Quiet w R (p >>= f) := by
  intro c
  obtain ⟨hq, hs, ha⟩ := hp c
  rw [calls_bind, run_bind, queryTimes_append, hq]
  cases hrun : p.run w.answer c with
  | mk r c' =>
    rw [hrun] at hs ha
    cases r with
    | ok a =>
      obtain ⟨hq', hs', ha'⟩ := hf a (ha a rfl) c'
      exact ⟨hq', hs.trans hs', ha'⟩
    | error e => exact ⟨rfl, hs, nofun⟩

theorem quiet_tryCatch {p : Method α} {f : PyError → Method α} (hp : Quiet w Q p)
    (hf : ∀ e, Quiet w Q (f e)) : Quiet w Q (tryCatch p f) := by
  intro c
  obtain ⟨hq, hs, ha⟩ := hp c
  rw [calls_tryCatch, run_tryCatch, queryTimes_append, hq]
  cases hrun : p.run w.answer c with
  | mk r c' =>
    rw [hrun] at hs ha
    cases r with
    | ok a => exact ⟨rfl, hs, fun a' h => ha a' h⟩
    | error e =>
      obtain ⟨hq', hs', ha'⟩ := hf e c'
      exact ⟨hq', hs.trans hs', ha'⟩

theorem quiet_ite {b : Prop} [Decidable b] {p p' : Method α} (hp : b → Quiet w Q p)
    (hp' : ¬ b → Quiet w Q p') : Quiet w Q (if b then p else p') := by
  by_cases h : b
  · rw [if_pos h]
    exact hp h
  · rw [if_neg h]
    exact hp' h

/-- The sensor is carried along. -/
abbrev Carrying (d : LockState) : LockState → Prop := fun d' => gate d'.sensor = gate d.sensor

theorem quiet_updateDetails (t : LocalTime) (d : LockState) :
    Quiet w (Carrying d) (updateDetails t d) := by
  refine quiet_bind quiet_get fun c _ => quiet_ite (fun _ => ?_) fun _ => quiet_pure rfl
  refine quiet_bind (quiet_request _ nofun) fun details _ => ?_
  refine quiet_bind (quiet_fromExcept _) fun features _ => ?_
  refine quiet_bind (quiet_modify fun c => ?_) fun _ _ => quiet_pure rfl
  exact ⟨rfl, rfl, rfl, rfl, Int.le_refl _⟩

theorem gate_setOpened (sensor : Option SensorData) (opened : Bool) :
    gate (setOpened sensor opened) = gate sensor := by
  unfold setOpened
  split_ifs
  · cases sensor with
    | none => rfl
    | some s => rfl
  · rfl

theorem quiet_asyncReadStateBle : Quiet w (fun _ => True) asyncReadStateBle := by
  refine quiet_bind quiet_get fun c _ => quiet_ite (fun _ => quiet_pure trivial) fun _ => ?_
  split
  · exact quiet_pure trivial
  · refine quiet_tryCatch ?_ fun e => quiet_ite (fun _ => quiet_pure trivial) fun _ => quiet_throw e
    refine quiet_bind (Q := fun _ => True) ?_ fun status _ => quiet_pure trivial
    exact quiet_bind (quiet_request _ nofun) fun data _ => quiet_pure trivial

theorem gate_applyStatus (status : LockStatus) (locked : Bool) (d : LockState) :
    gate (applyStatus status locked d).sensor = gate d.sensor := by
  unfold applyStatus
  cases status.doorOpen with
  | none => rfl
  | some opened => exact gate_setOpened d.sensor opened

theorem quiet_updateState (d : LockState) : Quiet w (Carrying d) (updateState d) := by
  refine quiet_bind quiet_asyncReadStateBle fun status _ => ?_
  split
  · exact quiet_pure (gate_applyStatus _ _ d)
  · refine quiet_bind quiet_get fun c _ => quiet_ite (fun _ => quiet_pure rfl) fun _ => ?_
    refine quiet_bind quiet_get fun c _ => quiet_tryCatch ?_ fun e => ?_
    · refine quiet_bind (Q := fun _ => True) ?_ fun state _ => quiet_pure (gate_setOpened _ _)
      exact quiet_bind (quiet_request _ nofun) fun body _ => quiet_fromExcept _
    · exact quiet_ite (fun _ => quiet_throw e) fun _ =>
        quiet_ite (fun _ => quiet_pure rfl) fun _ => quiet_throw _

theorem quiet_updatePassage (t : LocalTime) (d : LockState) :
    Quiet w (Carrying d) (updatePassage t d) := by
  refine quiet_bind quiet_get fun c _ => quiet_ite (fun _ => ?_) fun _ => quiet_pure rfl
  refine quiet_bind (quiet_request _ nofun) fun config _ => ?_
  refine quiet_bind (quiet_modify fun c => ?_) fun _ _ => quiet_pure rfl
  exact ⟨rfl, rfl, rfl, rfl, Int.le_refl _⟩

theorem quiet_updateGateways (t : LocalTime) (d : LockState) :
    Quiet w (Carrying d) (updateGateways t d) := by
  refine quiet_bind quiet_get fun c _ => quiet_ite (fun _ => ?_) fun _ => quiet_pure rfl
  refine quiet_ite (fun _ => ?_) fun _ => quiet_pure rfl
  refine quiet_bind (Q := fun _ => True) ?_ fun gateways _ => ?_
  · exact quiet_bind (quiet_request _ nofun) fun res _ => quiet_pure trivial
  · refine quiet_bind (quiet_modify fun c => ?_) fun _ _ => quiet_pure rfl
    exact ⟨rfl, rfl, rfl, rfl, Int.le_refl _⟩

theorem quiet_updateCodes (t : LocalTime) (d : LockState) :
    Quiet w (Carrying d) (updateCodes t d) := by
  refine quiet_bind quiet_get fun c _ => quiet_ite (fun _ => ?_) fun _ => quiet_pure rfl
  refine quiet_bind (quiet_request _ nofun) fun passcodes _ => ?_
  refine quiet_bind (quiet_request _ nofun) fun ekeys _ => ?_
  refine quiet_bind (quiet_modify fun c => ?_) fun _ _ => quiet_pure rfl
  exact ⟨rfl, rfl, rfl, rfl, Int.le_refl _⟩

/-- The tiers behind the sensor. -/
def behindSensor (t : LocalTime) (d : LockState) : Method LockState :=
  updateState d >>= fun d => updatePassage t d >>= fun d => updateGateways t d >>= updateCodes t

theorem quiet_behindSensor (t : LocalTime) (d : LockState) :
    Quiet w (Carrying d) (behindSensor t d) := by
  refine quiet_bind (quiet_updateState d) fun d₁ h₁ => ?_
  refine quiet_bind (quiet_updatePassage t d₁) fun d₂ h₂ => ?_
  refine quiet_bind (quiet_updateGateways t d₂) fun d₃ h₃ c => ?_
  obtain ⟨hq, hs, hd⟩ := quiet_updateCodes (w := w) t d₃ c
  exact ⟨hq, hs, fun d₄ h => (hd d₄ h).trans (h₃.trans (h₂.trans h₁))⟩

/-! ### The tier of the sensor -/

/-- What a query returns. -/
inductive Refreshed (w : CalmWorld) (sensor : SensorData) (s : LockUpdateCoordinator) :
    Except PyError (Option Sensor × SensorData) × LockUpdateCoordinator → Prop where
  | found {result : Sensor} : outcome w.toWorld s.lockId = .sensor result.batteryLevel →
      Refreshed w sensor s (.ok (some result, { sensor with
        lastFetched := some (w.move (.doorSensor s.lockId) s).now }),
          w.move (.doorSensor s.lockId) s)
  | none : outcome w.toWorld s.lockId = .requestFailed →
      Refreshed w sensor s (.ok (none, { sensor with
        lastFetched := some (w.move (.doorSensor s.lockId) s).now }),
          w.move (.doorSensor s.lockId) s)
  | failed {e : PyError} : outcome w.toWorld s.lockId = .other →
      Refreshed w sensor s (.error e, w.move (.doorSensor s.lockId) s)

theorem refreshSensor_refreshed (w : CalmWorld) (sensor : SensorData) (s : LockUpdateCoordinator) :
    Refreshed w sensor s ((refreshSensor sensor).run w.answer s) := by
  rw [refreshSensor_run]
  cases hr : w.reply (.doorSensor s.lockId) with
  | ok result =>
    exact .found (by rw [outcome, hr])
  | error e =>
    dsimp only
    split_ifs with he
    · exact .none (by rw [outcome, hr]; exact if_pos he)
    · exact .failed (by rw [outcome, hr]; exact if_neg he)

theorem getSensor_calls (w : CalmWorld) (lockId : ℤ) (s : LockUpdateCoordinator) :
    (getSensor lockId).calls w.answer s = [(.doorSensor lockId, s)] := by
  unfold getSensor
  rw [calls_tryCatch, calls_bind, calls_call, run_bind, run_call]
  dsimp only [World.answer]
  cases w.reply (.doorSensor lockId) with
  | ok result => rfl
  | error e =>
    dsimp only
    split_ifs
    · rfl
    · rfl

theorem refreshSensor_calls (w : CalmWorld) (sensor : SensorData) (s : LockUpdateCoordinator) :
    (refreshSensor sensor).calls w.answer s = [(.doorSensor s.lockId, s)] := by
  unfold refreshSensor
  rw [calls_bind, run_get]
  dsimp only
  rw [calls_bind, getSensor_calls]
  cases (getSensor s.lockId).run w.answer s with
  | mk r s' =>
    cases r with
    | ok result => rfl
    | error e => rfl

/-- What the tier makes of the sensor. -/
structure Read (w : CalmWorld) (lockId : ℤ) (sensor : SensorData) (t : LocalTime) (saved : Prop)
    (r : Except PyError SensorData) : Prop where
  value : ∀ s, r = .ok s → s = answered sensor (outcome w.toWorld lockId) t
  returns : outcome w.toWorld lockId ≠ .other → saved → ∃ s, r = .ok s

/-- What a probe makes of the record and of the flag. -/
structure Recorded (w : CalmWorld) (s s' : LockUpdateCoordinator) (t : LocalTime) : Prop where
  store : s'.store = recorded s.store (outcome w.toWorld s.lockId) t
  recheck : s'.sensorRecheckDone = recheckAfter s (outcome w.toWorld s.lockId)
  lockId : s'.lockId = s.lockId

/-- A probe leaves the data alone. -/
structure Probed (w : CalmWorld) (s s' : LockUpdateCoordinator) (t : LocalTime) : Prop
    extends Recorded w s s' t where
  sensor : gate s'.data.sensor = gate s.data.sensor

/-- **What the tier does**: nothing, or one query. -/
inductive Sensed (w : CalmWorld) (sensor : SensorData) (s s' : LockUpdateCoordinator)
    (r : Except PyError SensorData) : List Instant → Prop where
  | quiet : (∀ a, r = .ok a → a = sensor) → Steady s s' → Sensed w sensor s s' r []
  | refreshed {t : LocalTime} : sensor.present = true →
      queriedRecently sensor s.now = false → s.now.instant ≤ t.instant →
      t.instant ≤ s'.now.instant →
      Steady s s' → Read w s.lockId sensor t True r → Sensed w sensor s s' r [s.now.instant]
  | probed {t : LocalTime} : sensor.present = false → (∃ u, w.reply .storeLoad = .ok u) →
      probeDue (w.move .storeLoad s) = true → (w.move .storeLoad s).now.instant ≤ t.instant →
      t.instant ≤ s'.now.instant → Probed w s s' t →
      Read w s.lockId sensor t (∃ u, w.reply .storeSave = .ok u) r →
      Sensed w sensor s s' r [(w.move .storeLoad s).now.instant]

/-- What a call of `async_update` does, once the store has been loaded. -/
structure Updated (w : CalmWorld) (update : StoreRecord → StoreRecord)
    (s s' : LockUpdateCoordinator) : Prop where
  calls : queryTimes ((storeUpdate update).calls w.answer s) = []
  run : (storeUpdate update).run w.answer s = (w.reply .storeSave, s')
  store : s'.store = update s.store
  recheck : s'.sensorRecheckDone = s.sensorRecheckDone
  sensor : gate s'.data.sensor = gate s.data.sensor
  lockId : s'.lockId = s.lockId
  later : s.now.instant ≤ s'.now.instant

theorem storeUpdate_updated {u : Unit} (hload : w.reply .storeLoad = .ok u)
    (update : StoreRecord → StoreRecord) (s : LockUpdateCoordinator) :
    ∃ s', Updated w update s s' := by
  have h₁ := w.steady .storeLoad s
  have h₂ := w.steady .storeSave { w.move .storeLoad s with
    store := update (w.move .storeLoad s).store }
  refine ⟨_, ?_, ?_, h₂.store.trans (congrArg update h₁.store), h₂.recheck.trans h₁.recheck,
    h₂.sensor.trans h₁.sensor, h₂.lockId.trans h₁.lockId, Int.le_trans h₁.later h₂.later⟩
  · unfold storeUpdate
    rw [calls_bind, calls_call, run_call, World.answer, hload]
    dsimp only
    rw [calls_bind, run_modify]
    dsimp only
    rw [calls_call]
    rfl
  · unfold storeUpdate
    rw [run_bind, run_call, World.answer, hload]
    dsimp only
    rw [run_bind, run_modify]
    dsimp only
    rw [run_call]
    rfl

theorem run_now (s : LockUpdateCoordinator) : now.run w.answer s = (.ok s.now, s) := rfl

theorem calls_now (s : LockUpdateCoordinator) : now.calls w.answer s = [] := rfl

theorem updatePresentSensor_sensed (w : CalmWorld) {sensor : SensorData}
    (hp : sensor.present = true) (s : LockUpdateCoordinator) :
    Sensed w sensor s ((updatePresentSensor sensor).run w.answer s).2
      ((updatePresentSensor sensor).run w.answer s).1
      (queryTimes ((updatePresentSensor sensor).calls w.answer s)) := by
  unfold updatePresentSensor
  rw [calls_bind, run_bind, run_now, calls_now, List.nil_append]
  dsimp only
  by_cases hq : (sensor.lastFetched.any fun last =>
      s.now.wall - Duration.ofDays 1 ≤ last.wall) = true
  · rw [if_pos hq]
    exact .quiet (fun _ h => (Except.ok.inj h).symm) (.refl s)
  · rw [if_neg hq, calls_bind, run_bind, refreshSensor_calls, queryTimes_append]
    have hquery : queryTimes [(Request.doorSensor s.lockId, s)] = [s.now.instant] := rfl
    have hdue : queriedRecently sensor s.now = false := Bool.eq_false_iff.mpr hq
    have hs := w.steady (.doorSensor s.lockId) s
    have hrefr := refreshSensor_refreshed w sensor s
    generalize (refreshSensor sensor).run w.answer s = out at hrefr
    rw [hquery]
    cases hrefr with
    | found ho =>
      refine .refreshed hp hdue hs.later (Int.le_refl _) hs ⟨fun a h => ?_, fun _ _ => ⟨_, rfl⟩⟩
      rw [← Except.ok.inj h, ho]
      rfl
    | none ho =>
      refine .refreshed hp hdue hs.later (Int.le_refl _) hs ⟨fun a h => ?_, fun _ _ => ⟨_, rfl⟩⟩
      rw [← Except.ok.inj h, ho]
      rfl
    | failed ho =>
      exact .refreshed hp hdue hs.later (Int.le_refl _) hs ⟨nofun, fun hn => absurd ho hn⟩

/-- A result is written to the store. -/
theorem run_storing {u : Unit} (hload : w.reply .storeLoad = .ok u)
    (update : StoreRecord → StoreRecord) (sensor : SensorData) (s : LockUpdateCoordinator) :
    ∃ s', Updated w update s s' ∧
      (storeUpdate update >>= fun _ => pure sensor).run w.answer s =
        (Except.map (fun _ => sensor) (w.reply .storeSave), s') ∧
      queryTimes ((storeUpdate update >>= fun _ => pure sensor).calls w.answer s) = [] := by
  obtain ⟨s', hu⟩ := storeUpdate_updated hload update s
  refine ⟨s', hu, ?_, ?_⟩
  · rw [run_bind, hu.run]
    cases w.reply .storeSave with
    | ok u => rfl
    | error e => rfl
  · rw [calls_bind, hu.run, queryTimes_append, hu.calls]
    cases w.reply .storeSave with
    | ok u => rfl
    | error e => rfl

/-- What has been read is returned if it can be saved. -/
theorem read_of_saved {lockId : ℤ} {sensor sensor' : SensorData} {t : LocalTime}
    (h : sensor' = answered sensor (outcome w.toWorld lockId) t) :
    Read w lockId sensor t (∃ u, w.reply .storeSave = .ok u)
      (Except.map (fun _ => sensor') (w.reply .storeSave)) := by
  constructor
  · intro a ha
    cases hr : w.reply .storeSave with
    | ok u =>
      rw [hr] at ha
      exact (Except.ok.inj ha).symm.trans h
    | error e =>
      rw [hr] at ha
      cases ha
  · rintro - ⟨u, hr⟩
    rw [hr]
    exact ⟨_, rfl⟩

/-- The update of the record after a failure. -/
abbrev failed (r : StoreRecord) (t : LocalTime) (stored : StoreRecord) : StoreRecord :=
  { stored with
    doorSensorLastFailedReq := some t
    doorSensorCountFailedReq := r.doorSensorCountFailedReq + 1
    doorSensorConfirmedAbsent :=
      decide (SENSOR_ABSENT_AFTER_FAILURES ≤ r.doorSensorCountFailedReq + 1) }

/-- A failure that counts is written to the store. -/
theorem failure_recorded {u : Unit} (hload : w.reply .storeLoad = .ok u)
    (ho : outcome w.toWorld c.lockId = .requestFailed)
    (habs : ¬ c.store.doorSensorConfirmedAbsent = true) {sensor sensor' : SensorData}
    (hsensor : sensor' = answered sensor .requestFailed s.now) (hstore : s.store = c.store)
    (hflag : s.sensorRecheckDone = recheckAfter c .requestFailed)
    (hgate : gate s.data.sensor = gate c.data.sensor) (hid : s.lockId = c.lockId) :
    let p : Method SensorData :=
      now >>= fun t => storeUpdate (failed c.store t) >>= fun _ => pure sensor'
    s.now.instant ≤ (p.run w.answer s).2.now.instant ∧
      Probed w c (p.run w.answer s).2 s.now ∧
      Read w c.lockId sensor s.now (∃ u, w.reply .storeSave = .ok u)
        (p.run w.answer s).1 ∧
      queryTimes (p.calls w.answer s) = [] := by
  intro p
  obtain ⟨s', hu, hrun, hcalls⟩ :=
    run_storing hload (failed c.store s.now) sensor' s
  have hrun' : p.run w.answer s = (Except.map (fun _ => sensor') (w.reply .storeSave), s') := hrun
  rw [hrun']
  refine ⟨hu.later, ⟨⟨?_, ?_, hu.lockId.trans hid⟩, hu.sensor.trans hgate⟩, read_of_saved ?_, hcalls⟩
  · rw [hu.store, hstore, ho]
    exact (if_neg habs).symm
  · rw [hu.recheck, hflag, ho]
  · rw [hsensor, ho]

/-- A probe, from the state in which it is sent. -/
theorem probeSensor_probed {u : Unit} (hload : w.reply .storeLoad = .ok u) (sensor : SensorData)
    (hflag : s.sensorRecheckDone = (c.sensorRecheckDone || c.store.doorSensorConfirmedAbsent))
    (hstore : s.store = c.store) (hgate : gate s.data.sensor = gate c.data.sensor)
    (hid : s.lockId = c.lockId) :
    ∃ t, s.now.instant ≤ t.instant ∧
      t.instant ≤ ((probeSensor c.store sensor).run w.answer s).2.now.instant ∧
      Probed w c ((probeSensor c.store sensor).run w.answer s).2 t ∧
      Read w c.lockId sensor t (∃ u, w.reply .storeSave = .ok u)
        ((probeSensor c.store sensor).run w.answer s).1 ∧
      queryTimes ((probeSensor c.store sensor).calls w.answer s) = [s.now.instant] := by
  have hs := w.steady (.doorSensor s.lockId) s
  have hquery : queryTimes [(Request.doorSensor s.lockId, s)] = [s.now.instant] := rfl
  have hrefr := refreshSensor_refreshed w sensor s
  unfold probeSensor
  rw [calls_bind, run_bind, refreshSensor_calls, queryTimes_append, hquery]
  generalize (refreshSensor sensor).run w.answer s = out at hrefr
  cases hrefr with
  | @found result ho =>
    rw [hid] at ho
    generalize w.move (.doorSensor s.lockId) s = s₁ at hs ⊢
    obtain ⟨s', hu, hrun, hcalls⟩ := run_storing hload (fun r => { r with
      doorSensorConfirmedAbsent := false, doorSensorCountFailedReq := 0 }) { sensor with
        battery := result.batteryLevel, lastFetched := some s₁.now } s₁
    dsimp only
    rw [hrun, hcalls]
    refine ⟨s₁.now, hs.later, hu.later, ⟨⟨?_, ?_, ?_⟩, ?_⟩, read_of_saved ?_, rfl⟩
    · rw [hu.store, hs.store, hstore, ho]
      rfl
    · rw [hu.recheck, hs.recheck, hflag, ho]
      exact (Bool.or_false _).symm
    · exact hu.lockId.trans (hs.lockId.trans hid)
    · exact hu.sensor.trans (hs.sensor.trans hgate)
    · rw [ho]
      rfl
  | failed ho =>
    rw [hid] at ho
    generalize w.move (.doorSensor s.lockId) s = s₁ at hs ⊢
    refine ⟨s₁.now, hs.later, Int.le_refl _, ⟨⟨?_, ?_, hs.lockId.trans hid⟩,
      hs.sensor.trans hgate⟩, ⟨nofun, fun hn => absurd ho hn⟩, rfl⟩
    · rw [hs.store, hstore, ho]
      rfl
    · rw [hs.recheck, hflag, ho]
      exact (Bool.or_false _).symm
  | none ho =>
    rw [hid] at ho
    generalize w.move (.doorSensor s.lockId) s = s₁ at hs ⊢
    by_cases habs : c.store.doorSensorConfirmedAbsent = true
    · -- the one recheck of this instance, which changes nothing
      simp only [habs, if_true]
      refine ⟨s₁.now, hs.later, Int.le_refl _, ⟨⟨?_, ?_, hs.lockId.trans hid⟩,
        hs.sensor.trans hgate⟩, ⟨fun a h => ?_, fun _ _ => ⟨_, rfl⟩⟩, rfl⟩
      · change s₁.store = _
        rw [hs.store, hstore, ho]
        exact (if_pos habs).symm
      · change s₁.sensorRecheckDone = _
        rw [hs.recheck, hflag, recheckAfter, habs, Bool.or_true, Bool.true_or]
      · rw [← Except.ok.inj h, ho]
        rfl
    · dsimp only
      rw [if_neg habs]
      have hsensor : { sensor with lastFetched := some s₁.now } =
          answered sensor .requestFailed s₁.now := rfl
      by_cases hn : SENSOR_ABSENT_AFTER_FAILURES ≤ c.store.doorSensorCountFailedReq + 1
      · -- the last failure that counts: the flag is set in front of the update
        have hflag₂ : true = recheckAfter c .requestFailed := by
          rw [recheckAfter, decide_eq_true ⟨rfl, hn⟩, Bool.or_true]
        obtain ⟨hlater, hp, hread, hq⟩ := failure_recorded hload ho habs
          (s := { s₁ with sensorRecheckDone := true }) hsensor (hs.store.trans hstore) hflag₂
          (hs.sensor.trans hgate) (hs.lockId.trans hid)
        rw [if_pos (decide_eq_true hn)]
        exact ⟨s₁.now, hs.later, hlater, hp, hread, congrArg ([_] ++ ·) hq⟩
      · have hflag₂ : s₁.sensorRecheckDone = recheckAfter c .requestFailed := by
          rw [hs.recheck, hflag, recheckAfter, decide_eq_false fun h => hn h.2, Bool.or_false]
        obtain ⟨hlater, hp, hread, hq⟩ := failure_recorded hload ho habs hsensor
          (hs.store.trans hstore) hflag₂ (hs.sensor.trans hgate) (hs.lockId.trans hid)
        rw [if_neg fun h => hn (of_decide_eq_true h)]
        exact ⟨s₁.now, hs.later, hlater, hp, hread, congrArg ([_] ++ ·) hq⟩

/-- A probe that is due, once the store has been loaded. -/
theorem probeSensor_sensed {u : Unit} {sensor : SensorData} (hp : sensor.present = false)
    (hload : w.reply .storeLoad = .ok u) (hdue : probeDue (w.move .storeLoad c) = true)
    (hnow : (w.move .storeLoad c).now = s.now)
    (hflag : s.sensorRecheckDone = (c.sensorRecheckDone || c.store.doorSensorConfirmedAbsent))
    (hstore : s.store = c.store) (hgate : gate s.data.sensor = gate c.data.sensor)
    (hid : s.lockId = c.lockId) :
    Sensed w sensor c ((probeSensor c.store sensor).run w.answer s).2
      ((probeSensor c.store sensor).run w.answer s).1
      (queryTimes ((probeSensor c.store sensor).calls w.answer s)) := by
  obtain ⟨t, hle, hlater, hprobed, hread, hq⟩ :=
    probeSensor_probed hload sensor hflag hstore hgate hid
  rw [hq, ← hnow]
  rw [← hnow] at hle
  exact .probed hp ⟨u, hload⟩ hdue hle hlater hprobed hread

theorem checkForSensor_sensed (w : CalmWorld) {sensor : SensorData}
    (hp : sensor.present = false) (s : LockUpdateCoordinator) :
    Sensed w sensor s ((checkForSensor sensor).run w.answer s).2
      ((checkForSensor sensor).run w.answer s).1
      (queryTimes ((checkForSensor sensor).calls w.answer s)) := by
  have hs := w.steady .storeLoad s
  have hget := storeGet_run (w := w.toWorld) s
  have hcalls : queryTimes ((storeGet).calls w.answer s) = [] := by
    rw [storeGet, calls_bind, request, calls_call, run_call, World.answer]
    cases w.reply .storeLoad <;> rfl
  unfold checkForSensor
  rw [calls_bind, run_bind, queryTimes_append, hcalls, hget]
  cases hload : w.reply .storeLoad with
  | error e => exact .quiet (fun _ h => by cases h) hs
  | ok u =>
    dsimp only
    generalize hs₁ : w.move .storeLoad s = s₁ at hs ⊢
    by_cases habs : s.store.doorSensorConfirmedAbsent = true
    · rw [hs.store, if_pos habs, calls_bind, run_bind, run_get]
      dsimp only
      by_cases hd : s₁.sensorRecheckDone = true
      · rw [if_pos hd]
        exact .quiet (fun _ h => (Except.ok.inj h).symm) hs
      · have hdue : probeDue s₁ = true := by
          rw [probeDue, hs.store, if_pos habs, Bool.eq_false_iff.mpr hd]
          rfl
        have hflag : true = (s.sensorRecheckDone || s.store.doorSensorConfirmedAbsent) := by
          rw [habs, Bool.or_true]
        rw [if_neg hd]
        subst hs₁
        exact probeSensor_sensed hp hload hdue rfl hflag hs.store hs.sensor hs.lockId
    · rw [hs.store, if_neg habs, calls_bind, run_bind, run_get]
      dsimp only
      by_cases ht : (s.store.doorSensorLastFailedReq.any fun last =>
          s₁.dayAgo ≤ last.instant) = true
      · rw [if_pos ht]
        exact .quiet (fun _ h => (Except.ok.inj h).symm) hs
      · have hdue : probeDue s₁ = true := by
          rw [probeDue, hs.store, if_neg habs, Bool.eq_false_iff.mpr ht]
          rfl
        have hflag : s₁.sensorRecheckDone =
            (s.sensorRecheckDone || s.store.doorSensorConfirmedAbsent) := by
          rw [hs.recheck, Bool.eq_false_iff.mpr habs, Bool.or_false]
        rw [if_neg ht]
        subst hs₁
        exact probeSensor_sensed hp hload hdue rfl hflag hs.store hs.sensor hs.lockId

end TTLockConnect.Coordinator.SensorTier
