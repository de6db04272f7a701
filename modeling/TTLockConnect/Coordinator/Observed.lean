import TTLockConnect.Coordinator.Overwrite

/-! # What a poll makes of the codes it reads

A poll takes the state of the lock and of its door from one observation: the lock's own status, or
the reply of the cloud. The replies of a poll determine the observation, and `Observes` says what the
poll makes of it. A status leaves a code it does not know alone; the cloud's reply turns it into
unlocked, or closed. -/

namespace TTLockConnect.Coordinator.Observed

open TTLockConnect.Text TTLockConnect.Models TTLockConnect.Ble.Cipher TTLockConnect.Ble.Protocol
open TTLockConnect.Api TTLockConnect.Coordinator.State TTLockConnect.Coordinator.Poll
open TTLockConnect.Coordinator.Readings TTLockConnect.Coordinator.Tiers
open TTLockConnect.Coordinator.Writers TTLockConnect.Coordinator.Overwrite
open TTLockConnect.Async.Coroutine TTLockConnect.Async.Coroutine.Coro
open TTLockConnect.Async.EventLoop TTLockConnect.Async.Runs

/-! ### The replies of a poll -/

/-- The reply to `lock/detail`. -/
def detailOf : Exchange Reply PyError → Option Lock
  | ⟨.detail _, .ok details⟩ => some details
  | _ => none

/-- The reply to `doorSensor/query`. -/
def doorOf : Exchange Reply PyError → Option Sensor
  | ⟨.doorSensor _, .ok res⟩ => some res
  | _ => none

/-- The payload a lock has answered with. -/
def statusOf : Exchange Reply PyError → Option Bytes
  | ⟨.queryLockStatus _ _ _ _, .ok data⟩ => some data
  | _ => none

/-- The reply to `lock/queryOpenState`. -/
def openStateOf : Exchange Reply PyError → Option OpenStateBody
  | ⟨.queryOpenState _, .ok body⟩ => some body
  | _ => none

/-- **What a poll takes the state from.** -/
inductive Observation where
  | lock (data : Bytes)
  | cloud (body : OpenStateBody)
  deriving DecidableEq, Repr

/-- The number in a field of the cloud's reply. -/
def codeOf : JsonField → Option ℤ
  | .int n => some n
  | _ => none

/-- The code reported for the lock. -/
def Observation.lockCode : Observation → Option ℤ
  | .lock data => data[3]?.map fun b => (b.toNat : ℤ)
  | .cloud body => codeOf body.state

/-- The code reported for the door. -/
def Observation.doorCode : Observation → Option ℤ
  | .lock data => data[4]?.map fun b => (b.toNat : ℤ)
  | .cloud body => codeOf body.sensorState

/-- A code with a meaning. -/
def Known (code : Option ℤ) : Prop := code = some 0 ∨ code = some 1

instance (code : Option ℤ) : Decidable (Known code) := inferInstanceAs (Decidable (_ ∨ _))

/-- The cloud's reply, if it is a valid one. -/
def cloudObservation (l : Log) : Option Observation :=
  (l.findSome? openStateOf).bind fun body =>
    if (WireLockState.modelValidate body).toBool then some (.cloud body) else none

/-- The observation in the replies of a poll: the lock's answer, if it tells whether it is locked,
else the cloud's reply. -/
def observation (l : Log) : Option Observation :=
  match l.findSome? statusOf with
  | some data =>
    if (LockStatus.parse data).locked.isSome then some (.lock data) else cloudObservation l
  | none => cloudObservation l

/-- The lock supports a door sensor, by its details if the poll has fetched them. -/
def doorSupported (prev : LockState) (l : Log) : Bool :=
  match l.findSome? detailOf with
  | some details => (Features.fromFeatureValue details.featureValue).toOption.any
      fun features => features.has doorSensorBit
  | none => prev.features.has doorSensorBit

/-- The battery of the door sensor, by its query if the poll has made one. -/
def doorBattery (prev : LockState) (l : Log) : Option ℤ :=
  match l.findSome? doorOf with
  | some res => res.batteryLevel
  | none => prev.sensor.bind SensorData.battery

/-- The lock has a door sensor when the poll takes over what it observes. -/
def doorPresent (prev : LockState) (l : Log) : Bool :=
  doorSupported prev l && (doorBattery prev l).isSome

/-- What the poll takes for the state of the lock. -/
def Observation.locked : Observation → Bool
  | .lock data => (LockStatus.parse data).locked == some true
  | .cloud body => (WireLockState.lockedOf body.state).toOption == some (some .locked)

/-- What the poll takes for the state of the door, if anything. -/
def Observation.opened : Observation → Option Bool
  | .lock data => (LockStatus.parse data).doorOpen
  | .cloud body => some ((WireLockState.openedOf body.sensorState).toOption == some (some .opened))

/-- The door is left as it was, or unknown. -/
def KeptOrNone (prev d : LockState) : Prop := d.opened = prev.opened ∨ d.opened = none

/-- **What a poll makes of its observation**, from data that were `prev`. -/
def Observes (prev : LockState) (l : Log) (d : LockState) : Prop :=
  match observation l with
  | none => d.locked = prev.locked ∧ KeptOrNone prev d
  | some o => d.locked = some o.locked ∧
    if doorPresent prev l ∧ o.opened.isSome then d.opened = o.opened else KeptOrNone prev d

/-! ### The tiers in front of the observation -/

/-- Nothing has been said of the state yet. -/
structure Silent (l : Log) : Prop where
  status : l.findSome? statusOf = none
  openState : l.findSome? openStateOf = none

/-- Behind the details. -/
structure Told (prev : LockState) (l : Log) (d : LockState) : Prop where
  supported : d.features.has doorSensorBit = doorSupported prev l
  sensor : d.sensor = prev.sensor
  locked : d.locked = prev.locked
  door : l.findSome? doorOf = none
  silent : Silent l

/-- A door sensor whose query may still come. -/
structure Unasked (prev : LockState) (l : Log) (s : SensorData) : Prop where
  supported : doorSupported prev l = true
  battery : s.battery = prev.sensor.bind SensorData.battery
  opened : s.opened = prev.opened
  door : l.findSome? doorOf = none
  silent : Silent l

/-- A door sensor behind its query. -/
structure Asked (prev : LockState) (l : Log) (s : SensorData) : Prop where
  supported : doorSupported prev l = true
  battery : s.battery = doorBattery prev l
  opened : s.opened = prev.opened
  silent : Silent l

/-- Behind the door sensor. -/
structure Ready (prev : LockState) (l : Log) (d : LockState) : Prop where
  present : sensorPresent d.sensor = doorPresent prev l
  opened : KeptOrNone prev d
  locked : d.locked = prev.locked
  openState : l.findSome? openStateOf = none

variable {gateway : Bool} {prev d : LockState} {l : Log} {x : Exchange Reply PyError}
  {s : SensorData}

theorem findSome?_snoc {α : Type} (f : Exchange Reply PyError → Option α) :
    (l ++ [x]).findSome? f = (l.findSome? f).or (f x) := by
  simp [List.findSome?_append]

theorem Silent.append (h : Silent l) (h1 : statusOf x = none) (h2 : openStateOf x = none) :
    Silent (l ++ [x]) := by
  constructor
  · rw [findSome?_snoc, h.status, h1]; rfl
  · rw [findSome?_snoc, h.openState, h2]; rfl

theorem Unasked.asked (h : Unasked prev l s) : Asked prev l s := by
  refine ⟨h.supported, ?_, h.opened, h.silent⟩
  rw [h.battery, doorBattery, h.door]

theorem doorSupported_snoc (h : detailOf x = none) :
    doorSupported prev (l ++ [x]) = doorSupported prev l := by
  rw [doorSupported, doorSupported, findSome?_snoc, h, Option.or_none]

theorem doorBattery_snoc (h : doorOf x = none) :
    doorBattery prev (l ++ [x]) = doorBattery prev l := by
  rw [doorBattery, doorBattery, findSome?_snoc, h, Option.or_none]

theorem updateDetails_told (t : LocalTime) :
    Reading gateway (OnOk (Told prev)) (updateDetails t prev) [] := by
  unfold updateDetails
  refine reading_get_seq fun c _ => ?_
  split_ifs
  · refine reading_request_seq fun details => ?_
    refine reading_seq (P := fun l' features =>
      l' = [⟨.detail c.lockId, .ok details⟩] ∧
        Features.fromFeatureValue details.featureValue = .ok features)
      (reading_fromExcept fun features h => ⟨rfl, h⟩) ?_
    rintro l' features ⟨rfl, hf⟩
    refine reading_modify_seq (fun _ => rfl) (fun _ => rfl) (reading_pure (onOk_ok ?_))
    refine ⟨?_, rfl, rfl, rfl, rfl, rfl⟩
    simp [doorSupported, detailOf, hf, Except.toOption]
  · exact reading_pure (onOk_ok ⟨rfl, rfl, rfl, rfl, rfl, rfl⟩)

/-- The store answers beside the point. -/
theorem Asked.append_store (h : Asked prev l s) (q : Request) (a : Except PyError (Reply q))
    (hq : q = .storeLoad ∨ q = .storeSave) : Asked prev (l ++ [⟨q, a⟩]) s := by
  rcases hq with rfl | rfl
  all_goals
    refine ⟨?_, ?_, h.opened, h.silent.append rfl rfl⟩
    · rw [doorSupported_snoc rfl]; exact h.supported
    · rw [doorBattery_snoc rfl]; exact h.battery

theorem Unasked.append_store (h : Unasked prev l s) (a : Except PyError Unit) :
    Unasked prev (l ++ [⟨.storeLoad, a⟩]) s := by
  refine ⟨?_, h.battery, h.opened, ?_, h.silent.append rfl rfl⟩
  · rw [doorSupported_snoc rfl]; exact h.supported
  · rw [findSome?_snoc, h.door]; rfl

/-- The sensor tier asks once at most. -/
theorem asked_walk (prev : LockState) : SensorWalk (Unasked prev) (Asked prev) where
  unasked h := h.asked
  answered lockId t res h := by
    refine ⟨?_, ?_, h.opened, h.silent.append rfl rfl⟩
    · rw [doorSupported_snoc rfl]; exact h.supported
    · rw [doorBattery, findSome?_snoc, h.door]; rfl
  refused lockId t h := by
    refine ⟨?_, ?_, h.opened, h.silent.append rfl rfl⟩
    · rw [doorSupported_snoc rfl]; exact h.supported
    · rw [doorBattery_snoc rfl]; exact h.asked.battery
  loaded a h := h.append_store a
  stored q a hq h := h.append_store q a hq

theorem Asked.ready (h : Asked prev l s) (hl : d.locked = prev.locked) :
    Ready prev l { d with sensor := some s } ∧ Silent l := by
  refine ⟨⟨?_, .inl h.opened, hl, h.silent.openState⟩, h.silent⟩
  rw [doorPresent, h.supported, ← h.battery]
  rfl

theorem updateSensor_ready (h : Told prev l d) :
    Reading gateway (OnOk fun l d => Ready prev l d ∧ Silent l) (updateSensor d) l := by
  unfold updateSensor
  split_ifs with hdoor
  · have hs : Unasked prev l (d.sensor.getD {}) := by
      refine ⟨h.supported.symm.trans hdoor, ?_, ?_, h.door, h.silent⟩
      · rw [h.sensor]
        cases prev.sensor <;> rfl
      · rw [h.sensor, LockState.opened]
        cases prev.sensor <;> rfl
    dsimp only
    split_ifs
    · refine reading_seq ((asked_walk prev).updatePresentSensor hs) fun l' s hs => ?_
      exact reading_pure (onOk_ok (hs.ready h.locked))
    · refine reading_seq ((asked_walk prev).checkForSensor hs) fun l' s hs => ?_
      exact reading_pure (onOk_ok (hs.ready h.locked))
  · refine reading_pure (onOk_ok ⟨⟨?_, .inr rfl, h.locked, h.silent.openState⟩, h.silent⟩)
    rw [doorPresent, ← h.supported, Bool.eq_false_iff.mpr hdoor]
    rfl

/-! ### The observation taken over -/

theorem setOpened_opened (o : Option SensorData) (b : Bool) :
    (setOpened o b).bind SensorData.opened =
      if sensorPresent o then some b else o.bind SensorData.opened := by
  unfold setOpened
  split_ifs with h
  · cases o with
    | none => exact absurd h (by simp [sensorPresent])
    | some s => rfl
  · rfl

theorem Ready.append (h : Ready prev l d) (h1 : detailOf x = none) (h2 : doorOf x = none)
    (h3 : openStateOf x = none) : Ready prev (l ++ [x]) d := by
  refine ⟨?_, h.opened, h.locked, ?_⟩
  · rw [h.present, doorPresent, doorPresent, doorSupported_snoc h1, doorBattery_snoc h2]
  · rw [findSome?_snoc, h.openState, h3]; rfl

/-- Nothing is observed: nothing is changed. -/
theorem Ready.unobserved {l' : Log} (h : Ready prev l d) (ho : observation l' = none) :
    Observes prev l' d := by
  rw [Observes, ho]
  exact ⟨h.locked, h.opened⟩

/-- The lock's own status. -/
theorem Ready.applyStatus {data : Bytes} {locked : Bool} (h : Ready prev l d)
    (hs : l.findSome? statusOf = some data) (hl : (LockStatus.parse data).locked = some locked) :
    Observes prev l (Poll.applyStatus (LockStatus.parse data) locked d) := by
  have ho : observation l = some (.lock data) := by rw [observation, hs]; simp [hl]
  rw [Observes, ho]
  refine ⟨by simp [Poll.applyStatus, Observation.locked, hl], ?_⟩
  cases hd : (LockStatus.parse data).doorOpen with
  | none =>
    rw [if_neg (by simp [Observation.opened, hd])]
    simpa [KeptOrNone, LockState.opened, Poll.applyStatus, hd] using h.opened
  | some b =>
    have hopened : (Poll.applyStatus (LockStatus.parse data) locked d).opened =
        if sensorPresent d.sensor then some b else d.opened := by
      simp only [LockState.opened, Poll.applyStatus, hd]
      exact setOpened_opened _ _
    rw [← h.present, KeptOrNone, hopened]
    by_cases hp : sensorPresent d.sensor = true
    · simp [hp, Observation.opened, hd]
    · simpa [hp, KeptOrNone] using h.opened

theorem modelValidate_eq_ok {body : OpenStateBody} {state : WireLockState}
    (h : WireLockState.modelValidate body = .ok state) :
    WireLockState.lockedOf body.state = .ok state.locked ∧
      WireLockState.openedOf body.sensorState = .ok state.opened := by
  unfold WireLockState.modelValidate at h
  cases h1 : WireLockState.lockedOf body.state with
  | error e => rw [h1] at h; cases h
  | ok locked =>
    cases h2 : WireLockState.openedOf body.sensorState with
    | error e => rw [h1, h2] at h; cases h
    | ok opened =>
      rw [h1, h2] at h
      cases h
      exact ⟨rfl, rfl⟩

theorem observation_eq_none (h : observation l = none) :
    (∀ data, l.findSome? statusOf = some data → (LockStatus.parse data).locked = none) ∧
      cloudObservation l = none := by
  unfold observation at h
  cases hs : l.findSome? statusOf with
  | none => rw [hs] at h; exact ⟨nofun, h⟩
  | some data =>
    rw [hs] at h
    cases hl : (LockStatus.parse data).locked with
    | some b => simp [hl] at h
    | none =>
      refine ⟨?_, by simpa [hl] using h⟩
      rintro _ ⟨⟩
      exact hl

/-- A reply that comes behind no observation is the observation, if it is one. -/
theorem observation_snoc (h : observation l = none) (hx : statusOf x = none) :
    observation (l ++ [x]) = cloudObservation (l ++ [x]) := by
  obtain ⟨h1, _⟩ := observation_eq_none h
  rw [observation, findSome?_snoc, hx, Option.or_none]
  split
  · rw [h1 _ ‹_›]; rfl
  · rfl

/-- The reply of the cloud. -/
theorem Ready.applyState {lockId : ℤ} {body : OpenStateBody} {state : WireLockState}
    (h : Ready prev l d) (hn : observation l = none)
    (hb : WireLockState.modelValidate body = .ok state) :
    Observes prev (l ++ [⟨.queryOpenState lockId, .ok body⟩]) (Poll.applyState state d) := by
  have hv : (WireLockState.modelValidate body).toBool = true := by rw [hb]; rfl
  have ho : observation (l ++ [⟨.queryOpenState lockId, .ok body⟩]) = some (.cloud body) := by
    rw [observation_snoc hn rfl, cloudObservation, findSome?_snoc, h.openState]
    simp [openStateOf, hv]
  obtain ⟨h1, h2⟩ := modelValidate_eq_ok hb
  have hopened : (Poll.applyState state d).opened =
      if sensorPresent d.sensor then some (state.opened == some .opened) else d.opened :=
    setOpened_opened _ _
  rw [Observes, ho]
  refine ⟨?_, ?_⟩
  · simp [Poll.applyState, Observation.locked, h1, Except.toOption]
  · rw [doorPresent, doorSupported_snoc rfl, doorBattery_snoc rfl, ← doorPresent, ← h.present,
      KeptOrNone, hopened]
    by_cases hp : sensorPresent d.sensor = true
    · simp [hp, Observation.opened, h2, Except.toOption]
    · simpa [hp, KeptOrNone] using h.opened

/-- A reply that has nothing to do with the state of the lock. -/
theorem Observes.append (h : Observes prev l d) (h1 : detailOf x = none) (h2 : doorOf x = none)
    (h3 : statusOf x = none) (h4 : openStateOf x = none) : Observes prev (l ++ [x]) d := by
  have hc : cloudObservation (l ++ [x]) = cloudObservation l := by
    rw [cloudObservation, cloudObservation, findSome?_snoc, h4, Option.or_none]
  have ho : observation (l ++ [x]) = observation l := by
    rw [observation, observation, findSome?_snoc, h3, Option.or_none, hc]
  rw [Observes, ho, doorPresent, doorSupported_snoc h1, doorBattery_snoc h2]
  exact h

theorem Observes.congr {d' : LockState} (h : Observes prev l d) (hl : d'.locked = d.locked)
    (hs : d'.sensor = d.sensor) : Observes prev l d' := by
  have ho : d'.opened = d.opened := by rw [LockState.opened, LockState.opened, hs]
  unfold Observes KeptOrNone at h ⊢
  rw [hl, ho]
  exact h

theorem ready_of_statusReply {l' : Log} {status : Option LockStatus} (h : Ready prev l d)
    (hs : Silent l) (hr : StatusReply l l' status) :
    Ready prev l' d ∧ status = (l'.findSome? statusOf).map LockStatus.parse := by
  rcases hr with ⟨rfl, rfl⟩ | ⟨address, name, version, aesKey, r, rfl, rfl⟩
  · refine ⟨h, ?_⟩
    rw [hs.status]
    rfl
  · refine ⟨h.append rfl rfl rfl, ?_⟩
    rw [findSome?_snoc, hs.status]
    cases r with
    | ok data => rfl
    | error e => rfl

theorem updateCloudState_observes (h : Ready prev l d) (hn : observation l = none) :
    Reading gateway (OnOk (Observes prev)) (updateCloudState d) l := by
  unfold updateCloudState
  refine reading_get_seq fun c _ => ?_
  refine reading_tryCatch (P := fun l' r => match r with
    | .ok d' => Observes prev l' d'
    | .error _ => Observes prev l' d) ?_ (fun l' d' h => onOk_ok h) ?_
  · refine reading_bind (getLockState_reading c.lockId) ?_ ?_
    · rintro l' state ⟨res, rfl, hres⟩
      cases res with
      | error e => cases hres
      | ok body => exact reading_pure (h.applyState hn hres.symm)
    · rintro l' e ⟨res, rfl, hres⟩
      refine h.unobserved ?_
      rw [observation_snoc hn rfl, cloudObservation, findSome?_snoc, h.openState]
      cases res with
      | error e => rfl
      | ok body =>
        have hbad : WireLockState.modelValidate body = .error e := hres.symm
        simp [openStateOf, hbad, Except.toBool]
  · intro l' e h
    split_ifs
    · exact reading_pure (onOk_ok h)
    · exact reading_throw onOk_error
    · exact reading_throw onOk_error

theorem updateState_observes (h : Ready prev l d) (hs : Silent l) :
    Reading gateway (OnOk (Observes prev)) (updateState d) l := by
  unfold updateState
  refine reading_seq asyncReadStateBle_reading fun l' status hstatus => ?_
  obtain ⟨h, rfl⟩ := ready_of_statusReply h hs hstatus
  split
  · rename_i s locked heq
    simp only [Option.bind_eq_some_iff, Option.map_eq_some_iff, Prod.mk.injEq] at heq
    obtain ⟨_, ⟨data, hdata, rfl⟩, _, hl, rfl, rfl⟩ := heq
    exact reading_pure (onOk_ok (h.applyStatus hdata hl))
  · rename_i heq
    have hn : observation l' = none := by
      have hc : cloudObservation l' = none := by rw [cloudObservation, h.openState]; rfl
      unfold observation
      split
      · rename_i data hdata
        rw [hdata] at heq
        cases hl : (LockStatus.parse data).locked with
        | none => simpa [hl] using hc
        | some b => simp [hl] at heq
      · exact hc
    refine reading_get_seq fun c _ => ?_
    split_ifs
    · exact reading_pure (onOk_ok (h.unobserved hn))
    · exact updateCloudState_observes h hn

/-! ### The tiers behind the observation -/

theorem updatePassage_observes (t : LocalTime) (h : Observes prev l d) :
    Reading gateway (OnOk (Observes prev)) (updatePassage t d) l := by
  unfold updatePassage
  refine reading_get_seq fun c _ => ?_
  split_ifs
  · refine reading_request_seq fun config => ?_
    refine reading_modify_seq (fun _ => rfl) (fun _ => rfl) (reading_pure (onOk_ok ?_))
    exact (h.append rfl rfl rfl rfl).congr rfl rfl
  · exact reading_pure (onOk_ok h)

theorem updateGateways_observes (t : LocalTime) (h : Observes prev l d) :
    Reading gateway (OnOk (Observes prev)) (updateGateways t d) l := by
  unfold updateGateways
  refine reading_get_seq fun c _ => ?_
  split_ifs
  · unfold getGatewaysForLock
    refine reading_seq (P := fun l' _ => Observes prev l' d) ?_ fun l' gateways h => ?_
    · exact reading_request_seq fun res => reading_pure (onOk_ok (h.append rfl rfl rfl rfl))
    · exact reading_modify_seq (fun _ => rfl) (fun _ => rfl)
        (reading_pure (onOk_ok (h.congr rfl rfl)))
  · exact reading_pure (onOk_ok h)
  · exact reading_pure (onOk_ok (h.congr rfl rfl))

theorem updateCodes_observes (t : LocalTime) (h : Observes prev l d) :
    Reading gateway (OnOk (Observes prev)) (updateCodes t d) l := by
  unfold updateCodes
  refine reading_get_seq fun c _ => ?_
  split_ifs
  · refine reading_request_seq fun passcodes => reading_request_seq fun ekeys => ?_
    refine reading_modify_seq (fun _ => rfl) (fun _ => rfl) (reading_pure (onOk_ok ?_))
    exact ((h.append rfl rfl rfl rfl).append rfl rfl rfl rfl).congr rfl rfl
  · exact reading_pure (onOk_ok h)

theorem fetchAll_observes {s : LockUpdateCoordinator} (hi : Inv gateway s) :
    fetchAll.Sat (Inv gateway) Keep (Reads gateway (OnOk (Observes s.data))) [] s s := by
  unfold fetchAll
  refine (sat_bind _).mpr (sat_get.mpr ?_)
  show (_ : Method LockState).Sat _ _ _ _ _ _
  refine reading_seq (updateDetails_told _) ?_ s s hi rfl
  refine fun l d h => reading_seq (updateSensor_ready h) ?_
  refine fun l d h => reading_seq (updateState_observes h.1 h.2) ?_
  refine fun l d h => reading_seq (updatePassage_observes _ h) ?_
  refine fun l d h => reading_seq (updateGateways_observes _ h) ?_
  exact fun l d h => updateCodes_observes _ h

/-! ### Codes and values -/

/-- What a code stands for. -/
def codeValue (code : Option ℤ) : Option Bool :=
  if code = some 0 then some true else if code = some 1 then some false else none

/-- **A field is true to a code**: it changes only to what the code stands for, and a code without a
meaning leaves it, or makes it unknown. -/
structure TrueTo (prev cur : Option Bool) (code : Option ℤ) : Prop where
  toTrue : cur ≠ prev → cur = some true → code = some 0
  toFalse : cur ≠ prev → cur = some false → code = some 1
  unknown : ¬ Known code → cur = prev ∨ cur = none

theorem trueTo_kept {prev cur : Option Bool} {code : Option ℤ} (h : cur = prev ∨ cur = none) :
    TrueTo prev cur code := by
  refine ⟨fun hne ht => ?_, fun hne hf => ?_, fun _ => h⟩
  · rcases h with h | h
    · exact absurd h hne
    · rw [h] at ht; cases ht
  · rcases h with h | h
    · exact absurd h hne
    · rw [h] at hf; cases hf

theorem trueTo_known {prev : Option Bool} {code : Option ℤ} (h : Known code) :
    TrueTo prev (codeValue code) code := by
  rcases h with rfl | rfl
  · exact ⟨fun _ _ => rfl, fun _ h => absurd h (by decide), fun h => absurd (.inl rfl) h⟩
  · exact ⟨fun _ h => absurd h (by decide), fun _ _ => rfl, fun h => absurd (.inr rfl) h⟩

/-- A code compared with 0, as the cloud's is: without a meaning it counts as false. -/
theorem trueTo_forced_iff {prev : Option Bool} {code : Option ℤ} :
    TrueTo prev (some (decide (code = some 0))) code ↔ Known code ∨ prev = some false := by
  by_cases hk : Known code
  · refine iff_of_true ?_ (.inl hk)
    have : some (decide (code = some 0)) = codeValue code := by
      rcases hk with rfl | rfl <;> rfl
    rw [this]
    exact trueTo_known hk
  · have h0 : code ≠ some 0 := fun h => hk (.inl h)
    rw [decide_eq_false h0]
    constructor
    · intro h
      rcases h.unknown hk with h | h
      · exact .inr h.symm
      · cases h
    · rintro (h | rfl)
      · exact absurd h hk
      · exact trueTo_kept (.inl rfl)

theorem lockedStates_eq (b : Byte) : lockedStates b = codeValue (some (b.toNat : ℤ)) := by
  unfold lockedStates codeValue
  have h0 : b = 0 ↔ (some (b.toNat : ℤ) : Option ℤ) = some 0 := by
    rw [Option.some.injEq, ← BitVec.toNat_inj]
    show b.toNat = 0 ↔ (b.toNat : ℤ) = 0
    omega
  have h1 : b = 1 ↔ (some (b.toNat : ℤ) : Option ℤ) = some 1 := by
    rw [Option.some.injEq, ← BitVec.toNat_inj]
    show b.toNat = 1 ↔ (b.toNat : ℤ) = 1
    omega
  simp only [h0, h1]

/-- A byte of a status and what its code stands for. -/
theorem status_codeValue (data : Bytes) (i : ℕ) :
    (data.drop RESPONSE_HEADER_LENGTH)[i]?.bind lockedStates =
      codeValue (data[2 + i]?.map fun b => (b.toNat : ℤ)) := by
  show (data.drop 2)[i]?.bind lockedStates = _
  rw [List.getElem?_drop]
  cases data[2 + i]? with
  | none => rfl
  | some b => exact lockedStates_eq b

theorem status_locked (data : Bytes) :
    (LockStatus.parse data).locked = codeValue (Observation.lock data).lockCode :=
  status_codeValue data 1

theorem status_doorOpen (data : Bytes) :
    (LockStatus.parse data).doorOpen = codeValue (Observation.lock data).doorCode :=
  status_codeValue data 2

theorem known_of_codeValue {code : Option ℤ} (h : (codeValue code).isSome) : Known code := by
  unfold codeValue at h
  split_ifs at h with h0 h1
  · exact .inl h0
  · exact .inr h1
  · cases h

theorem lockedOf_eq (f : JsonField) :
    ((WireLockState.lockedOf f).toOption == some (some .locked)) = decide (codeOf f = some 0) := by
  unfold WireLockState.lockedOf codeOf
  split <;> split <;> simp_all [Except.toOption]
  all_goals subst_vars; rfl

theorem openedOf_eq (f : JsonField) :
    ((WireLockState.openedOf f).toOption == some (some .opened)) = decide (codeOf f = some 0) := by
  unfold WireLockState.openedOf codeOf
  split <;> split <;> simp_all [Except.toOption]
  subst_vars; rfl

/-- The observation is the lock's own only if its code is known. -/
theorem observation_lock {l : Log} {data : Bytes} (h : observation l = some (.lock data)) :
    Known (Observation.lock data).lockCode := by
  have hcloud : cloudObservation l ≠ some (.lock data) := by
    unfold cloudObservation
    cases l.findSome? openStateOf with
    | none => simp
    | some body => rw [Option.bind_some]; split_ifs <;> simp
  unfold observation at h
  split at h
  · split_ifs at h with hl
    · cases h
      rw [status_locked] at hl
      exact known_of_codeValue hl
    · exact absurd h hcloud
  · exact absurd h hcloud

/-! ### Polls -/

/-- **The data are true to the reading** a poll has used. -/
structure TrueReading (prev : LockState) (o : Option Observation) (d : LockState) : Prop where
  locked : TrueTo prev.locked d.locked (o.bind Observation.lockCode)
  opened : TrueTo prev.opened d.opened (o.bind Observation.doorCode)

/-- The cloud's reading tells everything that is taken from it, or it is what was known before. -/
def CloudTells (prev : LockState) (l : Log) : Prop :=
  ∀ body, observation l = some (.cloud body) →
    (Known (codeOf body.state) ∨ prev.locked = some false) ∧
    (doorPresent prev l = true → Known (codeOf body.sensorState) ∨ prev.opened = some false)

theorem lock_trueReading {data : Bytes} (hk : Known (Observation.lock data).lockCode)
    (hl : d.locked = some (Observation.lock data).locked)
    (hd : if doorPresent prev l ∧ (Observation.lock data).opened.isSome then
      d.opened = (Observation.lock data).opened else KeptOrNone prev d) :
    TrueReading prev (some (.lock data)) d := by
  constructor
  · have hv : some (Observation.lock data).locked = codeValue (Observation.lock data).lockCode := by
      rw [Observation.locked, status_locked]
      rcases hk with hk | hk <;> rw [hk] <;> rfl
    rw [hl, hv]
    exact trueTo_known hk
  · have hv : (Observation.lock data).opened = codeValue (Observation.lock data).doorCode :=
      status_doorOpen data
    rw [hv] at hd
    split_ifs at hd with h
    · rw [hd]
      exact trueTo_known (known_of_codeValue h.2)
    · exact trueTo_kept hd

theorem cloud_trueReading_iff {body : OpenStateBody}
    (hl : d.locked = some (Observation.cloud body).locked)
    (hd : if doorPresent prev l ∧ (Observation.cloud body).opened.isSome then
      d.opened = (Observation.cloud body).opened else KeptOrNone prev d) :
    TrueReading prev (some (.cloud body)) d ↔
      (Known (codeOf body.state) ∨ prev.locked = some false) ∧
      (doorPresent prev l = true → Known (codeOf body.sensorState) ∨ prev.opened = some false) := by
  have h1 : TrueTo prev.locked d.locked (codeOf body.state) ↔
      Known (codeOf body.state) ∨ prev.locked = some false := by
    rw [hl, Observation.locked, lockedOf_eq]
    exact trueTo_forced_iff
  have h2 : TrueTo prev.opened d.opened (codeOf body.sensorState) ↔
      (doorPresent prev l = true → Known (codeOf body.sensorState) ∨ prev.opened = some false) := by
    by_cases hp : doorPresent prev l = true
    · rw [if_pos ⟨hp, rfl⟩] at hd
      rw [hd, Observation.opened, openedOf_eq, trueTo_forced_iff]
      simp [hp]
    · rw [if_neg fun h => hp h.1] at hd
      exact iff_of_true (trueTo_kept hd) fun h => absurd h hp
  exact ⟨fun h => ⟨h1.mp h.locked, h2.mp h.opened⟩, fun h => ⟨h1.mpr h.1, h2.mpr h.2⟩⟩

theorem Observes.trueReading_iff (h : Observes prev l d) :
    TrueReading prev (observation l) d ↔ CloudTells prev l := by
  unfold Observes at h
  unfold CloudTells
  cases ho : observation l with
  | none =>
    rw [ho] at h
    exact iff_of_true ⟨trueTo_kept (.inl h.1), trueTo_kept h.2⟩ nofun
  | some o =>
    rw [ho] at h
    cases o with
    | lock data =>
      exact iff_of_true (lock_trueReading (observation_lock ho) h.1 h.2) nofun
    | cloud body =>
      rw [cloud_trueReading_iff h.1 h.2]
      exact ⟨fun hb _ h => by cases h; exact hb, fun hb => hb body rfl⟩

/-! ### Runs -/

variable {c : LockUpdateCoordinator} {τ : List (Move Loop LoopLabel)} {P : Loop}
  {m : Move Loop LoopLabel} {e : EndedTask}

/-- What is known of every task that ends, with what a poll makes of its observation. -/
structure PollPost (gateway : Bool) (w : Job) (born : LockUpdateCoordinator) (l : Log)
    (s s' : LockUpdateCoordinator) (r : Except PyError Unit) : Prop where
  post : Post gateway w born l s s' r
  observes : w = .refresh → Replaced r s' → Observes born.data l s'.data

theorem prog_pollPost (w : Job) (s : LockUpdateCoordinator) (hi : Inv gateway s) :
    (prog w).Sat (Inv gateway) (Guarantee w) (PollPost gateway w s) [] s s := by
  by_cases hw : w = .refresh
  · subst hw
    refine (sat_and _ (prog_sat .refresh s hi) (asyncRefresh_sat hi (fetchAll_observes hi))).mono ?_
    exact fun l s₀ s' r h => ⟨h.1, fun _ hr => h.2.2.1 hr⟩
  · exact (prog_sat w s hi).mono fun l s₀ s' r h => ⟨h, fun h' => absurd h' hw⟩

/-- **When a poll is true to its reading.** In every run, a poll that succeeds leaves `locked` and
the door's `opened` true to the codes of the reading it has used, if and only if that reading was
not the cloud's, or the cloud told what is taken from it, or the field was false already. -/
theorem poll_trueReading_iff (h : c.IsNew) (hr : Run loopStep (alone c) τ P) (hm : m ∈ τ)
    (he : m.src.ended prog m.label = some e) (hj : e.job = .refresh)
    (hrep : Replaced e.result m.dst.shared) :
    TrueReading e.born.data (observation e.log) m.dst.shared.data ↔
      CloudTells e.born.data e.log := by
  have hrun := (Pool.run_spec (fun w s => prog_pollPost w s) (fun _ _ _ _ _ _ hp => hp.post.inv)
    (new_inv h) hr m hm).2
  rw [he] at hrun
  exact (hrun.observes hj hrep).trueReading_iff

/-! ### Polls that read a known and an unknown state -/

instance (prev cur : Option Bool) (code : Option ℤ) : Decidable (TrueTo prev cur code) :=
  decidable_of_iff
    ((cur ≠ prev → cur = some true → code = some 0) ∧
      (cur ≠ prev → cur = some false → code = some 1) ∧ (¬ Known code → cur = prev ∨ cur = none))
    ⟨fun h => ⟨h.1, h.2.1, h.2.2⟩, fun h => ⟨h.toTrue, h.toFalse, h.unknown⟩⟩

instance (prev : LockState) (o : Option Observation) (d : LockState) :
    Decidable (TrueReading prev o d) :=
  decidable_of_iff
    (TrueTo prev.locked d.locked (o.bind Observation.lockCode) ∧
      TrueTo prev.opened d.opened (o.bind Observation.doorCode))
    ⟨fun h => ⟨h.1, h.2⟩, fun h => ⟨h.locked, h.opened⟩⟩

/-- `sampleReply`, with this reply to `lock/queryOpenState`. -/
def replyWith (body : OpenStateBody) : (q : Request) → Except PyError (Reply q)
  | .queryOpenState _ => .ok body
  | q => sampleReply q

/-- A first poll, with this reply to `lock/queryOpenState`. -/
def firstPoll (body : OpenStateBody) : List LoopLabel :=
  .start .refresh :: List.replicate 5 (.reply 0 (replyWith body))

/-- **An unknown state is taken for unlocked.** -/
theorem unknown_state_unlocks :
    ¬ ∀ (c : LockUpdateCoordinator) (τ : List (Move Loop LoopLabel)) (P : Loop), c.IsNew →
      Run loopStep (alone c) τ P → ∀ m ∈ τ, ∀ e ∈ m.src.ended prog m.label, e.job = .refresh →
        Replaced e.result m.dst.shared →
          TrueReading e.born.data (observation e.log) m.dst.shared.data := by
  intro h
  have htrue := h _ _ _ sampleCoordinator_isNew
    (run_play (alone sampleCoordinator) (firstPoll ⟨.int 2, .absent⟩))
  revert htrue
  decide

/-- A known state is taken over. -/
theorem known_state_taken :
    (play loopStep (alone sampleCoordinator) (firstPoll ⟨.int 0, .absent⟩)).2.shared.data.locked =
        some true ∧
      ∀ m ∈ (play loopStep (alone sampleCoordinator) (firstPoll ⟨.int 0, .absent⟩)).1,
        ∀ e ∈ m.src.ended prog m.label, e.job = .refresh → Replaced e.result m.dst.shared →
          TrueReading e.born.data (observation e.log) m.dst.shared.data := by
  refine ⟨by decide, fun m hm e he hj hrep => ?_⟩
  refine (poll_trueReading_iff sampleCoordinator_isNew (run_play _ _) hm he hj hrep).mpr ?_
  intro body hb
  have hall : ∀ m ∈ (play loopStep (alone sampleCoordinator) (firstPoll ⟨.int 0, .absent⟩)).1,
      ∀ e ∈ m.src.ended prog m.label, (∀ o ∈ observation e.log, o = .cloud ⟨.int 0, .absent⟩) ∧
        doorPresent e.born.data e.log = false := by
    decide
  obtain ⟨h1, h2⟩ := hall m hm e he
  cases h1 _ hb
  exact ⟨.inl (.inl rfl), fun h => absurd (h2.symm.trans h) (by decide)⟩

end TTLockConnect.Coordinator.Observed
