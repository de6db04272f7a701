import TTLockConnect.Coordinator.Readings

/-! # The tiers of a poll carry the copy on

One lemma per tier, and `fetchAll_reading` for the whole poll: what it returns differs from the copy
it started from only in fields its replies carry. -/

namespace TTLockConnect.Coordinator.Tiers

open TTLockConnect.Text TTLockConnect.Models TTLockConnect.Ble.Cipher TTLockConnect.Ble.Protocol
open TTLockConnect.Api TTLockConnect.Coordinator.State TTLockConnect.Coordinator.Poll
open TTLockConnect.Coordinator.Fields
open TTLockConnect.Coordinator.Readings
open TTLockConnect.Async.Coroutine TTLockConnect.Async.Coroutine.Coro

variable {gateway : Bool} {copy d : LockState} {l : Log} {sensor : SensorData}

/-! ### The slow tiers -/

theorem updateDetails_reading (t : LocalTime) (hc : Carries gateway copy l d) :
    Reading gateway (OnOk (Detailed gateway copy)) (updateDetails t d) l := by
  unfold updateDetails
  refine reading_get_seq fun c _ => ?_
  split_ifs
  · refine reading_request_seq fun details => ?_
    refine reading_seq (P := fun l' features =>
      l' = l ++ [⟨.detail c.lockId, .ok details⟩] ∧
        Features.fromFeatureValue details.featureValue = .ok features)
      (reading_fromExcept fun features h => ⟨rfl, h⟩) ?_
    rintro l' features ⟨rfl, hf⟩
    refine reading_modify_seq (fun _ => rfl) (fun _ => rfl) (reading_pure (onOk_ok ⟨?_, ?_, ?_⟩))
    · refine same_update hc.same fun f h => ?_
      cases f <;> first | rfl | simp [fetchedBy, Field.ofDetails] at h
    · -- the sensor goes with the feature, which the same reply carries
      intro hdoor
      refine .inr fun f hs => fetched_last ?_
      simp [fetchedBy, hf, hdoor, hs]
    · exact hc.consistent.gateways
  · exact reading_pure (onOk_ok hc.detailed)

theorem updatePassage_reading (t : LocalTime) (hc : Carries gateway copy l d) :
    Reading gateway (OnOk (Carries gateway copy)) (updatePassage t d) l := by
  unfold updatePassage
  refine reading_get_seq fun c _ => ?_
  split_ifs
  · refine reading_request_seq fun config => ?_
    refine reading_modify_seq (fun _ => rfl) (fun _ => rfl) (reading_pure (onOk_ok ?_))
    refine hc.update (fun f h => ?_) ⟨hc.consistent.sensor, hc.consistent.gateways⟩
    cases f <;> first | rfl | simp [fetchedBy] at h
  · exact reading_pure (onOk_ok hc)

theorem updateGateways_reading (t : LocalTime) (hc : Carries gateway copy l d) :
    Reading gateway (OnOk (Carries gateway copy)) (updateGateways t d) l := by
  unfold updateGateways
  refine reading_get_seq fun c hi => ?_
  split_ifs with hg
  · unfold getGatewaysForLock
    refine reading_seq (P := fun l' gateways => ∃ res,
      l' = l ++ [⟨.listByLock c.lockId, .ok res⟩] ∧ gateways = byRssi res) ?_ ?_
    · exact reading_request_seq fun res => reading_pure (onOk_ok ⟨res, rfl, rfl⟩)
    · rintro l' gateways ⟨res, rfl, rfl⟩
      refine reading_modify_seq (fun _ => rfl) (fun _ => rfl) (reading_pure (onOk_ok ?_))
      refine hc.update (fun f h => ?_) ⟨hc.consistent.sensor, ?_⟩
      · cases f <;> first | rfl | simp [fetchedBy] at h
      · intro hg'
        rw [hi.hasGateway, hg'] at hg
        exact absurd hg (by simp)
  · exact reading_pure (onOk_ok hc)
  · -- a lock without a gateway has no gateways in the copy either
    have hg' : gateway = false := by rw [← hi.hasGateway]; simpa using hg
    have : { d with gateways := [] } = d := by rw [← hc.consistent.gateways hg']
    rw [this]
    exact reading_pure (onOk_ok hc)

theorem updateCodes_reading (t : LocalTime) (hc : Carries gateway copy l d) :
    Reading gateway (OnOk (Carries gateway copy)) (updateCodes t d) l := by
  unfold updateCodes
  refine reading_get_seq fun c _ => ?_
  split_ifs
  · refine reading_request_seq fun passcodes => reading_request_seq fun ekeys => ?_
    refine reading_modify_seq (fun _ => rfl) (fun _ => rfl) (reading_pure (onOk_ok ?_))
    have h1 : Carries gateway copy (l ++ [⟨.listKeyboardPwd c.lockId, .ok passcodes⟩])
        { d with passcodes := some passcodes } := by
      refine hc.update (fun f h => ?_) ⟨hc.consistent.sensor, hc.consistent.gateways⟩
      cases f <;> first | rfl | simp [fetchedBy] at h
    refine h1.update (fun f h => ?_) ⟨hc.consistent.sensor, hc.consistent.gateways⟩
    cases f <;> first | rfl | simp [fetchedBy] at h
  · exact reading_pure (onOk_ok hc)

/-! ### The door sensor -/

/-- The data with this sensor carry the copy on. -/
def SensorCarries (gateway : Bool) (copy d : LockState) (l : Log) (sensor : SensorData) : Prop :=
  Carries gateway copy l { d with sensor := some sensor }

theorem SensorCarries.append (h : SensorCarries gateway copy d l sensor)
    (x : Exchange Reply PyError) : SensorCarries gateway copy d (l ++ [x]) sensor :=
  Carries.append h x

/-- What a door-sensor query returns: a reply, or nothing where it was refused. -/
def SensorReply (lockId : ℤ) (l : Log) (l' : Log) (result : Option Sensor) : Prop :=
  (∃ res, l' = l ++ [⟨.doorSensor lockId, .ok res⟩] ∧ result = some res) ∨
    (l' = l ++ [⟨.doorSensor lockId, .error .requestFailed⟩] ∧ result = none)

theorem getSensor_reading (lockId : ℤ) :
    Reading gateway (OnOk (SensorReply lockId l)) (getSensor lockId) l := by
  unfold getSensor
  refine reading_tryCatch (P := fun l' r => match r with
    | .ok result => SensorReply lockId l l' result
    | .error e => l' = l ++ [⟨.doorSensor lockId, .error e⟩]) ?_ ?_ ?_
  · refine reading_bind (P := fun l' r => l' = l ++ [⟨.doorSensor lockId, r⟩])
      (reading_request fun _ => rfl) ?_ ?_
    · rintro l' res rfl
      exact reading_pure (.inl ⟨res, rfl, rfl⟩)
    · rintro l' e rfl
      rfl
  · intro l' result h
    exact onOk_ok h
  · rintro l' e rfl
    split_ifs with he
    · subst he
      exact reading_pure (onOk_ok (.inr ⟨rfl, rfl⟩))
    · exact reading_throw onOk_error

/-- **What carries over from the sensor before its query to the sensor behind it.** A query makes of
`U` what `A` asks for, and the store answers beside the point. -/
structure SensorWalk (U A : Log → SensorData → Prop) : Prop where
  unasked : ∀ {l s}, U l s → A l s
  answered : ∀ {l s} (lockId : ℤ) (t : LocalTime) (res : Sensor), U l s →
    A (l ++ [⟨.doorSensor lockId, .ok res⟩])
      { s with lastFetched := some t, battery := res.batteryLevel }
  refused : ∀ {l s} (lockId : ℤ) (t : LocalTime), U l s →
    A (l ++ [⟨.doorSensor lockId, .error .requestFailed⟩]) { s with lastFetched := some t }
  loaded : ∀ {l s} (a : Except PyError Unit), U l s → U (l ++ [⟨.storeLoad, a⟩]) s
  stored : ∀ {l s} (q : Request) (a : Except PyError (Reply q)), q = .storeLoad ∨ q = .storeSave →
    A l s → A (l ++ [⟨q, a⟩]) s

section Walk
variable {U A : Log → SensorData → Prop}

theorem SensorWalk.refreshSensor (hw : SensorWalk U A) (h : U l sensor) :
    Reading gateway (OnOk fun l' r => match r.1 with
      | some result => A l' { r.2 with battery := result.batteryLevel }
      | none => A l' r.2) (refreshSensor sensor) l := by
  unfold Poll.refreshSensor
  refine reading_get_seq fun c _ => ?_
  refine reading_seq (getSensor_reading c.lockId) fun l' result hr => ?_
  refine reading_get_seq fun c' _ => ?_
  rcases hr with ⟨res, rfl, rfl⟩ | ⟨rfl, rfl⟩
  · have hasked := hw.answered c.lockId c'.now res h
    exact reading_pure (onOk_ok hasked)
  · exact reading_pure (onOk_ok (hw.refused c.lockId c'.now h))

theorem SensorWalk.updatePresentSensor (hw : SensorWalk U A) (h : U l sensor) :
    Reading gateway (OnOk A) (updatePresentSensor sensor) l := by
  unfold Poll.updatePresentSensor
  refine reading_get_seq fun c _ => ?_
  dsimp only
  split_ifs
  · exact reading_pure (onOk_ok (hw.unasked h))
  · refine reading_seq (hw.refreshSensor h) ?_
    rintro l' ⟨result, s⟩ hr
    cases result with
    | some res => exact reading_pure (onOk_ok hr)
    | none => exact reading_pure (onOk_ok hr)

theorem SensorWalk.storeUpdate (hw : SensorWalk U A) (update : StoreRecord → StoreRecord)
    (h : A l sensor) : Reading gateway (OnOk fun l' _ => A l' sensor) (storeUpdate update) l := by
  unfold Poll.storeUpdate
  refine reading_request_seq fun _ => ?_
  refine reading_modify_seq (fun _ => rfl) (fun _ => rfl) ?_
  refine reading_request fun _ _ _ => ?_
  exact hw.stored _ _ (.inr rfl) (hw.stored _ _ (.inl rfl) h)

theorem SensorWalk.probeSensor (hw : SensorWalk U A) (stored : StoreRecord)
    (h : U l sensor) : Reading gateway (OnOk A) (probeSensor stored sensor) l := by
  unfold Poll.probeSensor
  refine reading_seq (hw.refreshSensor h) ?_
  rintro l' ⟨result, s⟩ hr
  cases result with
  | some res =>
    refine reading_seq (hw.storeUpdate _ hr) fun l' _ hr => ?_
    exact reading_pure (onOk_ok hr)
  | none =>
    have hrest (update : LocalTime → StoreRecord → StoreRecord) : Reading gateway (OnOk A)
        (do let t ← now; Poll.storeUpdate (update t); pure s) l' := by
      refine reading_get_seq fun c _ => ?_
      refine reading_seq (hw.storeUpdate _ hr) fun l' _ hr => ?_
      exact reading_pure (onOk_ok hr)
    dsimp only
    split_ifs
    · exact reading_pure (onOk_ok hr)
    · exact reading_modify_seq (fun _ => rfl) (fun _ => rfl) (hrest _)
    · exact hrest _

theorem SensorWalk.checkForSensor (hw : SensorWalk U A) (h : U l sensor) :
    Reading gateway (OnOk A) (checkForSensor sensor) l := by
  unfold Poll.checkForSensor
  refine reading_seq (P := fun l' _ => U l' sensor) ?_ fun l' stored h => ?_
  · refine reading_request_seq fun _ => reading_get_seq fun c _ => ?_
    exact reading_pure (onOk_ok (hw.loaded _ h))
  · split_ifs
    · refine reading_get_seq fun c _ => ?_
      split_ifs
      · exact reading_pure (onOk_ok (hw.unasked h))
      · exact reading_modify_seq (fun _ => rfl) (fun _ => rfl) (hw.probeSensor _ h)
    · refine reading_get_seq fun c _ => ?_
      split_ifs
      · exact reading_pure (onOk_ok (hw.unasked h))
      · exact hw.probeSensor _ h

end Walk

/-- The sensor tier carries the copy on. -/
theorem carries_walk (gateway : Bool) (copy : LockState)
    (hdoor : d.features.has doorSensorBit = true) :
    SensorWalk (SensorCarries gateway copy d) (SensorCarries gateway copy d) := by
  have hcons {l : Log} {s : SensorData} (h : SensorCarries gateway copy d l s) (s' : SensorData) :
      Consistent gateway { d with sensor := some s' } :=
    ⟨fun hn => absurd (hdoor.symm.trans hn) (by simp), h.consistent.gateways⟩
  refine ⟨id, fun lockId t res h => ?_, fun lockId t h => ?_, fun _ h => h.append _,
    fun _ _ _ h => h.append _⟩
  · refine Carries.update h (fun f hf => ?_) (hcons h _)
    cases f <;> first | rfl | simp [fetchedBy] at hf
  · refine Carries.update h (fun f hf => ?_) (hcons h _)
    cases f <;> first | rfl | simp [fetchedBy] at hf

theorem updateSensor_reading (hc : Detailed gateway copy l d) :
    Reading gateway (OnOk (Carries gateway copy)) (updateSensor d) l := by
  unfold updateSensor
  split_ifs with hdoor
  · have hwalk := carries_walk gateway copy hdoor
    -- the placeholder knows as much as no sensor
    have hs : SensorCarries gateway copy d l (d.sensor.getD {}) := by
      refine ⟨fun f hf => (hc.same f hf).trans ?_, fun h => ?_, hc.gateways⟩
      · cases hsensor : d.sensor <;> cases f <;> simp [Same, hsensor]
      · exact absurd (hdoor.symm.trans h) (by simp)
    dsimp only
    split_ifs
    · refine reading_seq (hwalk.updatePresentSensor hs) fun l' s hs => ?_
      exact reading_pure (onOk_ok hs)
    · refine reading_seq (hwalk.checkForSensor hs) fun l' s hs => ?_
      exact reading_pure (onOk_ok hs)
  · refine reading_pure (onOk_ok ⟨fun f hf => (hc.same f hf).trans ?_, fun _ => rfl, hc.gateways⟩)
    rcases hc.sensor (by simpa using hdoor) with hnone | hfetched
    · cases f <;> simp [Same, hnone]
    · cases f <;> first | rfl | exact absurd (hfetched _ rfl) hf

/-! ### The state of the lock -/

/-- Taking over what the door says changes no other field of the sensor. -/
theorem setOpened_bind {α : Type} (s : Option SensorData) (opened : Bool)
    (g : SensorData → Option α) (hg : ∀ s o, g { s with opened := o } = g s) :
    (setOpened s opened).bind g = s.bind g := by
  cases s with
  | none => rfl
  | some s =>
    unfold setOpened
    split_ifs
    · exact hg s _
    · rfl

theorem consistent_setOpened {s : Option SensorData} (hd : Consistent gateway d)
    (hs : d.sensor = none → s = none) (locked : Option Bool) (battery : Option ℤ) :
    Consistent gateway { d with locked := locked, batteryLevel := battery, sensor := s } :=
  ⟨fun h => hs (hd.sensor h), hd.gateways⟩

theorem applyStatus_carries {address name : String} {version : LockVersion} {aesKey data : Bytes}
    {locked : Bool} (hc : Carries gateway copy l d)
    (hl : (LockStatus.parse data).locked = some locked) :
    Carries gateway copy (l ++ [⟨.queryLockStatus address name version aesKey, .ok data⟩])
      (applyStatus (LockStatus.parse data) locked d) := by
  refine hc.update (fun f hf => ?_) (consistent_setOpened hc.consistent (fun h => ?_) _ _)
  · cases f <;> first | rfl | simp [fetchedBy, hl] at hf
    · -- the battery level, where the status has none
      simp [Same, applyStatus, hf]
    · simp [Same, applyStatus, hf]
    all_goals
      cases hdoor : (LockStatus.parse data).doorOpen with
      | none => simp [Same, applyStatus, hdoor]
      | some opened =>
        simp only [Same, applyStatus, hdoor]
        exact (setOpened_bind _ _ _ fun _ _ => rfl).symm
  · cases (LockStatus.parse data).doorOpen with
    | none => exact h
    | some opened => rw [h]; rfl

theorem applyState_carries {lockId : ℤ} {body : OpenStateBody} {state : WireLockState}
    (hc : Carries gateway copy l d) (hb : WireLockState.modelValidate body = .ok state) :
    Carries gateway copy (l ++ [⟨.queryOpenState lockId, .ok body⟩]) (applyState state d) := by
  refine hc.update (fun f hf => ?_) ⟨fun h => ?_, hc.consistent.gateways⟩
  · have : (WireLockState.modelValidate body).toBool = true := by rw [hb]; rfl
    cases f <;> first | rfl | simp [fetchedBy, this] at hf
    all_goals exact (setOpened_bind _ _ _ fun _ _ => rfl).symm
  · simp only [applyState, hc.consistent.sensor h]
    rfl

/-- What a read over Bluetooth comes to: no query, or one whose reply is the status, if it has one. -/
def StatusReply (l l' : Log) (status : Option LockStatus) : Prop :=
  (l' = l ∧ status = none) ∨ ∃ address name version aesKey r,
    l' = l ++ [⟨.queryLockStatus address name version aesKey, r⟩] ∧
      status = r.toOption.map LockStatus.parse

theorem asyncReadStateBle_reading :
    Reading gateway (OnOk (StatusReply l)) asyncReadStateBle l := by
  unfold asyncReadStateBle
  refine reading_get_seq fun c _ => ?_
  split_ifs
  · exact reading_pure (onOk_ok (.inl ⟨rfl, rfl⟩))
  · cases c.bleCredentials with
    | none => exact reading_pure (onOk_ok (.inl ⟨rfl, rfl⟩))
    | some credentials =>
      obtain ⟨version, aesKey⟩ := credentials
      refine reading_tryCatch (P := fun l' status => ∃ r,
        l' = l ++ [⟨.queryLockStatus c.data.mac c.data.name version aesKey, r⟩] ∧
          status.toOption.join = r.toOption.map LockStatus.parse) ?_ ?_ ?_
      · unfold asyncReadStatus
        refine reading_bind (P := fun l' status => ∃ r,
          l' = l ++ [⟨.queryLockStatus c.data.mac c.data.name version aesKey, r⟩] ∧
            status.toOption = r.toOption.map LockStatus.parse) ?_ ?_ ?_
        · refine reading_bind (P := fun l' r =>
            l' = l ++ [⟨.queryLockStatus c.data.mac c.data.name version aesKey, r⟩])
            (reading_request fun _ => rfl) ?_ ?_
          · rintro l' data rfl
            exact reading_pure ⟨_, rfl, rfl⟩
          · rintro l' e rfl
            exact ⟨_, rfl, rfl⟩
        · rintro l' status ⟨r, rfl, hr⟩
          exact reading_pure ⟨r, rfl, hr⟩
        · rintro l' e ⟨r, rfl, hr⟩
          exact ⟨r, rfl, hr⟩
      · rintro l' status ⟨r, rfl, hr⟩
        exact onOk_ok (.inr ⟨_, _, _, _, r, rfl, hr⟩)
      · rintro l' e ⟨r, rfl, hr⟩
        split_ifs
        · exact reading_pure (onOk_ok (.inr ⟨_, _, _, _, r, rfl, hr⟩))
        · exact reading_throw onOk_error

theorem StatusReply.carries {l' : Log} {status : Option LockStatus} (h : StatusReply l l' status)
    (hc : Carries gateway copy l d) : Carries gateway copy l' d ∧
      ∀ s locked, status = some s → s.locked = some locked →
        Carries gateway copy l' (applyStatus s locked d) := by
  rcases h with ⟨rfl, rfl⟩ | ⟨address, name, version, aesKey, r, rfl, rfl⟩
  · exact ⟨hc, nofun⟩
  · refine ⟨hc.append _, ?_⟩
    cases r with
    | error e => nofun
    | ok data =>
      rintro s locked ⟨⟩ hl
      exact applyStatus_carries hc hl

/-- The reply of the cloud about the state of the lock. -/
theorem getLockState_reading (lockId : ℤ) : Reading gateway (fun l' r => ∃ res,
    l' = l ++ [⟨.queryOpenState lockId, res⟩] ∧ r = res >>= WireLockState.modelValidate)
      (getLockState lockId) l := by
  unfold getLockState
  refine reading_bind (P := fun l' r => l' = l ++ [⟨.queryOpenState lockId, r⟩])
    (reading_request fun _ => rfl) ?_ ?_
  · rintro l' body rfl
    exact reading_fromExcept ⟨_, rfl, rfl⟩
  · rintro l' e rfl
    exact ⟨_, rfl, rfl⟩

theorem updateCloudState_reading (hc : Carries gateway copy l d) :
    Reading gateway (OnOk (Carries gateway copy)) (updateCloudState d) l := by
  unfold updateCloudState
  refine reading_get_seq fun c _ => ?_
  refine reading_tryCatch (P := fun l' r => Carries gateway copy l' d ∧
    OnOk (Carries gateway copy) l' r) ?_ ?_ ?_
  · refine reading_bind (getLockState_reading c.lockId) ?_ ?_
    · rintro l' state ⟨res, rfl, hres⟩
      cases res with
      | error e => cases hres
      | ok body => exact reading_pure ⟨hc.append _, onOk_ok (applyState_carries hc hres.symm)⟩
    · rintro l' e ⟨res, rfl, -⟩
      exact ⟨hc.append _, onOk_error⟩
  · rintro l' d' ⟨_, h2⟩
    exact h2
  · rintro l' e ⟨h1, _⟩
    split_ifs
    · exact reading_pure (onOk_ok h1)
    · exact reading_throw onOk_error
    · exact reading_throw onOk_error

theorem updateState_reading (hc : Carries gateway copy l d) :
    Reading gateway (OnOk (Carries gateway copy)) (updateState d) l := by
  unfold updateState
  refine reading_seq asyncReadStateBle_reading fun l' status hstatus => ?_
  obtain ⟨h1, h2⟩ := hstatus.carries hc
  split
  · rename_i s locked hs
    simp only [Option.bind_eq_some_iff, Option.map_eq_some_iff, Prod.mk.injEq] at hs
    obtain ⟨s', hs', locked', hl, rfl, rfl⟩ := hs
    exact reading_pure (onOk_ok (h2 _ _ hs' hl))
  · refine reading_get_seq fun c _ => ?_
    split_ifs
    · exact reading_pure (onOk_ok h1)
    · exact updateCloudState_reading h1

/-! ### The whole poll -/

/-- **A poll carries its copy on**: what it returns differs from the data it started from only in
fields its replies carry. -/
theorem fetchAll_reading {s : LockUpdateCoordinator} (hi : Inv gateway s) :
    fetchAll.Sat (Inv gateway) Keep (Reads gateway (OnOk (Carries gateway s.data))) [] s s := by
  unfold fetchAll
  refine (sat_bind _).mpr (sat_get.mpr ?_)
  show (_ : Method LockState).Sat _ _ _ _ _ _
  refine reading_seq (updateDetails_reading _ hi.data.carries) ?_ s s hi rfl
  refine fun l d h => reading_seq (updateSensor_reading h) ?_
  refine fun l d h => reading_seq (updateState_reading h) ?_
  refine fun l d h => reading_seq (updatePassage_reading _ h) ?_
  refine fun l d h => reading_seq (updateGateways_reading _ h) ?_
  exact fun l d h => updateCodes_reading _ h

end TTLockConnect.Coordinator.Tiers
