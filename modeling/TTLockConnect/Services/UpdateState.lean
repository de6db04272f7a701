import TTLockConnect.Async.Alone
import TTLockConnect.Coordinator.Observed
import TTLockConnect.Services.Cleanup

/-! # The service that forces a refresh

`Services.handle_update_state` sets `data.locked` to `None` in the coordinator's own data and polls
the lock. What was known is gone before the first call: a refresh that does not come to an end with a
reading leaves the lock unknown, whether it is reported as failed or as done. -/

namespace TTLockConnect.Services.UpdateState

open TTLockConnect.Text TTLockConnect.Models TTLockConnect.Ble.Cipher TTLockConnect.Ble.Protocol
open TTLockConnect.Coordinator.State TTLockConnect.Coordinator.Poll
open TTLockConnect.Coordinator.Overwrite TTLockConnect.Coordinator.Observed
open TTLockConnect.Services.Cleanup
open TTLockConnect.Async.Coroutine TTLockConnect.Async.Coroutine.Coro TTLockConnect.Async.Alone

variable {n : ℕ}

/-! ### The handler -/

/-- One lock: the known state is cleared, so that the poll calls the cloud. -/
def forceRefresh : Method Unit := do
  modify fun c => { c with data := { c.data with locked := none } }
  asyncRefresh

/-- `Services.handle_update_state`. -/
def handleUpdateState (entityIds : List EntityId) : Handler n Unit := do
  let s ← get
  forM (s.getCoordinators entityIds) fun e => onCoordinator e.2 forceRefresh

/-- What may change while a call is awaited: the clock, Bluetooth, the store and all else, but not
the data, the outcome of the last poll, or whether a lock can be reached at all. -/
def Meanwhile (s s' : Hass n) : Prop :=
  ∀ i, (s'.coordinators i).data = (s.coordinators i).data ∧
    (s'.coordinators i).lastUpdateSuccess = (s.coordinators i).lastUpdateSuccess ∧
      (s'.coordinators i).connectable = (s.coordinators i).connectable

/-- The exchanges of the service. -/
abbrev Calls := List (Exchange Reply PyError)

/-- An exchange with the API. -/
def apiOf : Exchange Reply PyError → Option (Exchange Api.Reply PyError)
  | ⟨.api q, a⟩ => some ⟨q, a⟩
  | ⟨.keyboardPwdDelete _ _, _⟩ => none

/-- What a refresh has been replied. -/
def apiLog (l : Calls) : Api.Log := l.filterMap apiOf

/-- **A run of the service**: the refreshes it has begun, one for each entity, with their
exchanges. -/
def Serves (entityIds : List EntityId) (s : Hass n) (h : List ((EntityId × Fin n) × Calls))
    (r : Except PyError Unit) (s' : Hass n) : Prop :=
  EndsEach Meanwhile (fun e => onCoordinator e.2 forceRefresh) (s.getCoordinators entityIds) s h r s'

/-- The runs of the handler, refresh by refresh. -/
theorem ends_handleUpdateState {entityIds : List EntityId} {s s' : Hass n} {l : Calls}
    {r : Except PyError Unit} :
    Ends Meanwhile (handleUpdateState entityIds) s l r s' ↔
      ∃ h, Serves entityIds s h r s' ∧ l = h.flatMap Prod.snd :=
  ends_forM

/-- The last of the refreshes of a lock. -/
def LastRefresh (i : Fin n) (l : Calls) (h : List ((EntityId × Fin n) × Calls)) : Prop :=
  ∃ h₁ e h₂, h = h₁ ++ (e, l) :: h₂ ∧ e.2 = i ∧ ∀ x ∈ h₂, x.1.2 ≠ i

/-- **What a forced refresh may leave** of a lock whose state was known: a value it has obtained, or a
failure and what was known. -/
def KeepsKnowledge (l : Api.Log) (c c' : LockUpdateCoordinator) : Prop :=
  (∃ o, observation l = some o ∧ c'.data.locked = some o.locked) ∨
    (c'.lastUpdateSuccess = false ∧ c'.data.locked = c.data.locked)

/-- A reply that makes a poll fail. A refused door-sensor query does not, nor do a failed read over
Bluetooth and a failed query of the state, which leave the poll without an observation. -/
def fatal : Exchange Api.Reply PyError → Bool
  | ⟨.detail _, .ok details⟩ => !(Features.fromFeatureValue details.featureValue).toBool
  | ⟨.doorSensor _, .error e⟩ => e ≠ .requestFailed
  | ⟨.queryLockStatus _ _ _ _, .error e⟩ => !(e.isBleError || e.isProtocolError)
  | ⟨.queryOpenState _, .error e⟩ => !e.isException
  | ⟨_, .error _⟩ => true
  | ⟨_, .ok _⟩ => false

/-- No reply makes the poll fail. -/
def Clean (l : Api.Log) : Prop := ∀ x ∈ l, fatal x = false

/-- **The refresh comes to its end with a reading.** -/
def Obtains (c : LockUpdateCoordinator) (l : Api.Log) : Prop :=
  c.connectable = true ∧ Clean l ∧ (observation l).isSome = true

instance (l : Api.Log) : Decidable (Clean l) :=
  inferInstanceAs (Decidable (∀ x ∈ l, fatal x = false))

instance (c : LockUpdateCoordinator) (l : Api.Log) : Decidable (Obtains c l) :=
  inferInstanceAs (Decidable (_ ∧ _))

/-! ### A poll that starts from an unknown state -/

/-- What is known of the coordinator during the poll. -/
def Cleared (copy : LockState) (connectable : Bool) (c : LockUpdateCoordinator) : Prop :=
  c.data = copy ∧ c.connectable = connectable

variable {copy d : LockState} {connectable : Bool} {l : Api.Log} {α β : Type}
  {P : Api.Log → α → Prop} {Q : Api.Log → β → Prop}

/-- A tier returns as long as no reply makes it fail. -/
def Cleanly (P : Api.Log → α → Prop) (l : Api.Log) : Except PyError α → Prop
  | .ok a => Clean l ∧ P l a
  | .error _ => ¬ Clean l

/-- The same for a body whose errors are still to be handled. -/
def CleanlyOr (E : Api.Log → PyError → Prop) (P : Api.Log → α → Prop) (l : Api.Log) :
    Except PyError α → Prop
  | .ok a => Clean l ∧ P l a
  | .error e => E l e

/-- A tier of the poll that starts from `copy`. -/
abbrev Tier (copy : LockState) (connectable : Bool) (P : Api.Log → α → Prop) (p : Method α)
    (l : Api.Log) : Prop := Spec (Cleared copy connectable) (Cleanly P) p l

theorem clean_nil : Clean [] := by
  intro x hx
  cases hx

theorem Clean.snoc {x : Exchange Api.Reply PyError} (h : Clean l) (hx : fatal x = false) :
    Clean (l ++ [x]) := by
  intro y hy
  rcases List.mem_append.mp hy with hy | hy
  · exact h y hy
  · rw [List.mem_singleton.mp hy]
    exact hx

theorem not_clean_snoc {x : Exchange Api.Reply PyError} (hx : fatal x = true) :
    ¬ Clean (l ++ [x]) := by
  intro h
  have := h x (by simp)
  rw [hx] at this
  cases this

theorem tier_pure {a : α} (hl : Clean l) (h : P l a) : Tier copy connectable P (pure a) l :=
  spec_pure ⟨hl, h⟩

theorem tier_bind {p : Method α} {f : α → Method β} (hp : Tier copy connectable P p l)
    (hf : ∀ l a, Clean l → P l a → Tier copy connectable Q (f a) l) :
    Tier copy connectable Q (p >>= f) l :=
  spec_bind hp (fun l a h => hf l a h.1 h.2) fun _ _ h => h

theorem tier_get_bind {f : LockUpdateCoordinator → Method β}
    (hf : ∀ c, Tier copy connectable Q (f c) l) : Tier copy connectable Q (get >>= f) l :=
  spec_get_bind fun c _ => hf c

/-- A call whose failure makes the poll fail. -/
theorem tier_request_bind {q : Api.Request} {f : Api.Reply q → Method β}
    (hq : ∀ e, fatal ⟨q, .error e⟩ = true)
    (hf : ∀ a, Tier copy connectable Q (f a) (l ++ [⟨q, .ok a⟩])) :
    Tier copy connectable Q (Api.request q >>= f) l := by
  refine spec_bind (P := fun l' r => l' = l ++ [⟨q, r⟩]) (spec_call fun _ => rfl) ?_ ?_
  · rintro _ a rfl
    exact hf a
  · rintro _ e rfl
    exact not_clean_snoc (hq e)

theorem tier_modify_bind {g : LockUpdateCoordinator → LockUpdateCoordinator}
    {f : PUnit → Method β} (hd : ∀ c, (g c).data = c.data)
    (hc : ∀ c, (g c).connectable = c.connectable) (h : Tier copy connectable Q (f ()) l) :
    Tier copy connectable Q (modify g >>= f) l :=
  spec_modify_bind (fun c hcl => ⟨(hd c).trans hcl.1, (hc c).trans hcl.2⟩) h

/-- Before the state of the lock: it is unknown, and nothing has been said of it. -/
def Unknown (l : Api.Log) (d : LockState) : Prop := Silent l ∧ d.locked = none

/-- Behind it: the data hold what has been observed. -/
def Seen (l : Api.Log) (d : LockState) : Prop :=
  d.locked = (observation l).map Observation.locked

/-! ### The tiers in front of the state -/

theorem updateDetails_tier (t : LocalTime) (hl : Clean l) (h : Unknown l d) :
    Tier copy connectable Unknown (updateDetails t d) l := by
  unfold updateDetails
  refine tier_get_bind fun c => ?_
  split_ifs
  · refine tier_request_bind (fun _ => rfl) fun details => ?_
    refine spec_bind (P := fun l' r => l' = l ++ [⟨.detail c.lockId, .ok details⟩] ∧
      r = Features.fromFeatureValue details.featureValue) (spec_fromExcept ⟨rfl, rfl⟩) ?_ ?_
    · rintro _ features ⟨rfl, hf⟩
      have hx : fatal ⟨.detail c.lockId, .ok details⟩ = false := by
        simp [fatal, ← hf, Except.toBool]
      refine tier_modify_bind (fun _ => rfl) (fun _ => rfl) (tier_pure (hl.snoc hx) ⟨?_, h.2⟩)
      exact h.1.append rfl rfl
    · rintro _ e ⟨rfl, hf⟩
      refine not_clean_snoc ?_
      simp [fatal, ← hf, Except.toBool]
  · exact tier_pure hl h

/-- Nothing has been said of the state yet, whatever the result. -/
def Mute {α : Type} (l : Api.Log) (_ : α) : Prop := Silent l

theorem getSensor_tier (lockId : ℤ) (hl : Clean l) (hs : Silent l) :
    Tier copy connectable Mute (Api.getSensor lockId) l := by
  unfold Api.getSensor
  refine spec_tryCatch (P := CleanlyOr (fun l' e => l' = l ++ [⟨.doorSensor lockId, .error e⟩]) Mute)
    ?_ (fun _ _ h => h) ?_
  · refine spec_bind (P := fun l' r => l' = l ++ [⟨.doorSensor lockId, r⟩])
      (spec_call fun _ => rfl) ?_ ?_
    · rintro _ a rfl
      exact ⟨hl.snoc rfl, hs.append rfl rfl⟩
    · rintro _ e rfl
      rfl
  · rintro _ e rfl
    split_ifs with he
    · exact tier_pure (hl.snoc (by simp [fatal, he])) (hs.append rfl rfl)
    · exact spec_throw (not_clean_snoc (by simp [fatal, he]))

theorem refreshSensor_tier (s : SensorData) (hl : Clean l) (hs : Silent l) :
    Tier copy connectable Mute (refreshSensor s) l := by
  unfold refreshSensor
  refine tier_get_bind fun c => tier_bind (getSensor_tier c.lockId hl hs) fun l' _ hl hs => ?_
  exact tier_get_bind fun c' => tier_pure hl hs

theorem storeUpdate_tier (update : StoreRecord → StoreRecord) (hl : Clean l) (hs : Silent l) :
    Tier copy connectable Mute (storeUpdate update) l := by
  unfold storeUpdate
  refine tier_request_bind (fun _ => rfl) fun _ => ?_
  refine tier_modify_bind (fun _ => rfl) (fun _ => rfl) (spec_call ?_)
  have hl' := hl.snoc (x := ⟨.storeLoad, .ok ()⟩) rfl
  have hs' : Silent (l ++ [⟨.storeLoad, .ok ()⟩]) := hs.append rfl rfl
  rintro (e | a)
  · exact not_clean_snoc rfl
  · exact ⟨hl'.snoc rfl, hs'.append rfl rfl⟩

theorem updatePresentSensor_tier (s : SensorData) (hl : Clean l) (hs : Silent l) :
    Tier copy connectable Mute (updatePresentSensor s) l := by
  unfold updatePresentSensor
  refine tier_get_bind fun c => ?_
  dsimp only
  split_ifs
  · exact tier_pure hl hs
  · refine tier_bind (refreshSensor_tier s hl hs) ?_
    rintro l' ⟨_ | result, s⟩ hl hs
    · exact tier_pure hl hs
    · exact tier_pure hl hs

theorem probeSensor_tier (stored : StoreRecord) (s : SensorData) (hl : Clean l) (hs : Silent l) :
    Tier copy connectable Mute (probeSensor stored s) l := by
  have hrest (update : LocalTime → StoreRecord → StoreRecord) (s : SensorData) {l : Api.Log}
      (hl : Clean l) (hs : Silent l) : Tier copy connectable Mute
        (do let t ← now; storeUpdate (update t); pure s) l := by
    refine tier_get_bind fun c => tier_bind (storeUpdate_tier _ hl hs) fun l' _ hl hs => ?_
    exact tier_pure hl hs
  unfold probeSensor
  refine tier_bind (refreshSensor_tier s hl hs) ?_
  rintro l' ⟨_ | result, s⟩ hl hs
  · dsimp only
    split_ifs
    · exact tier_pure hl hs
    · exact tier_modify_bind (fun _ => rfl) (fun _ => rfl) (hrest _ _ hl hs)
    · exact hrest _ _ hl hs
  · exact tier_bind (storeUpdate_tier _ hl hs) fun l' _ hl hs => tier_pure hl hs

theorem checkForSensor_tier (s : SensorData) (hl : Clean l) (hs : Silent l) :
    Tier copy connectable Mute (checkForSensor s) l := by
  unfold checkForSensor storeGet
  refine tier_bind (P := Mute) ?_ fun l' stored hl hs => ?_
  · refine tier_request_bind (fun _ => rfl) fun _ => tier_get_bind fun c => ?_
    exact tier_pure (hl.snoc rfl) (hs.append rfl rfl)
  · split_ifs
    · refine tier_get_bind fun c => ?_
      split_ifs
      · exact tier_pure hl hs
      · exact tier_modify_bind (fun _ => rfl) (fun _ => rfl) (probeSensor_tier _ _ hl hs)
    · refine tier_get_bind fun c => ?_
      split_ifs
      · exact tier_pure hl hs
      · exact probeSensor_tier _ _ hl hs

theorem updateSensor_tier (hl : Clean l) (h : Unknown l d) :
    Tier copy connectable Unknown (updateSensor d) l := by
  unfold updateSensor
  dsimp only
  split_ifs
  · refine tier_bind (updatePresentSensor_tier _ hl h.1) fun l' s hl hs => ?_
    exact tier_pure hl ⟨hs, h.2⟩
  · refine tier_bind (checkForSensor_tier _ hl h.1) fun l' s hl hs => ?_
    exact tier_pure hl ⟨hs, h.2⟩
  · exact tier_pure hl h

/-! ### The state of the lock -/

/-- What a read over Bluetooth comes to: the status of the reply, if there was one. -/
def ReadBle (l : Api.Log) (status : Option LockStatus) : Prop :=
  l.findSome? openStateOf = none ∧ status = (l.findSome? statusOf).map LockStatus.parse

theorem ReadBle.of_silent (h : Silent l) : ReadBle l none :=
  ⟨h.openState, by rw [h.status]; rfl⟩

theorem asyncReadStateBle_tier (hl : Clean l) (hs : Silent l) :
    Tier copy connectable ReadBle asyncReadStateBle l := by
  unfold asyncReadStateBle
  refine tier_get_bind fun c => ?_
  split_ifs
  · exact tier_pure hl (.of_silent hs)
  · cases c.bleCredentials with
    | none => exact tier_pure hl (.of_silent hs)
    | some credentials =>
      obtain ⟨version, aesKey⟩ := credentials
      unfold Api.asyncReadStatus
      refine spec_tryCatch (P := CleanlyOr (fun l' e => l' = l ++
        [⟨.queryLockStatus c.data.mac c.data.name version aesKey, .error e⟩]) ReadBle) ?_
        (fun _ _ h => h) ?_
      · rw [bind_assoc]
        refine spec_bind (P := fun l' r => l' = l ++
          [⟨.queryLockStatus c.data.mac c.data.name version aesKey, r⟩]) (spec_call fun _ => rfl)
          ?_ ?_
        · rintro _ data rfl
          refine spec_pure ⟨hl.snoc rfl, ?_, ?_⟩
          · rw [findSome?_snoc, hs.openState]
            rfl
          · rw [findSome?_snoc, hs.status]
            rfl
        · rintro _ e rfl
          rfl
      · rintro _ e rfl
        split_ifs with he
        · refine tier_pure (hl.snoc ?_) ?_
          · rcases he with he | he <;> simp [fatal, he]
          · exact .of_silent (hs.append rfl rfl)
        · exact spec_throw (not_clean_snoc (by simpa [fatal] using he))

/-- The reply of the cloud, behind no other observation. -/
theorem observation_openState (lockId : ℤ) (hn : observation l = none)
    (ho : l.findSome? openStateOf = none) (r : Except PyError OpenStateBody) :
    observation (l ++ [⟨.queryOpenState lockId, r⟩]) =
      (openStateOf ⟨.queryOpenState lockId, r⟩).bind fun body =>
        if (WireLockState.modelValidate body).toBool then some (.cloud body) else none := by
  rw [observation_snoc hn rfl, cloudObservation, findSome?_snoc, ho]
  rfl

theorem isException_of_modelValidate {body : OpenStateBody} {e : PyError}
    (h : WireLockState.modelValidate body = .error e) : e.isException = true := by
  have h1 : ∀ {f : JsonField}, WireLockState.lockedOf f = .error e → e.isException = true := by
    intro f hf
    unfold WireLockState.lockedOf at hf
    split at hf <;> cases hf
    rfl
  have h2 : ∀ {f : JsonField}, WireLockState.openedOf f = .error e → e.isException = true := by
    intro f hf
    unfold WireLockState.openedOf at hf
    split at hf <;> cases hf
    rfl
  unfold WireLockState.modelValidate at h
  cases hlocked : WireLockState.lockedOf body.state with
  | error e' =>
    rw [hlocked] at h
    cases h
    exact h1 hlocked
  | ok locked =>
    cases hopened : WireLockState.openedOf body.sensorState with
    | error e' =>
      rw [hlocked, hopened] at h
      cases h
      exact h2 hopened
    | ok opened =>
      rw [hlocked, hopened] at h
      cases h

theorem updateCloudState_tier (hl : Clean l) (hd : d.locked = none) (hn : observation l = none)
    (ho : l.findSome? openStateOf = none) :
    Tier copy connectable Seen (updateCloudState d) l := by
  have hunseen : ∀ {x : Exchange Api.Reply PyError}, observation (l ++ [x]) = none →
      Seen (l ++ [x]) d := by
    intro x hx
    rw [Seen, hd, hx]
    rfl
  unfold updateCloudState Api.getLockState
  refine tier_get_bind fun c => ?_
  have hobs := observation_openState c.lockId hn ho
  refine spec_tryCatch (P := CleanlyOr (fun l' e => ∃ r,
    l' = l ++ [⟨.queryOpenState c.lockId, r⟩] ∧ observation l' = none ∧
      fatal ⟨.queryOpenState c.lockId, r⟩ = !e.isException) Seen) ?_ (fun _ _ h => h) ?_
  · rw [bind_assoc]
    refine spec_bind (P := fun l' r => l' = l ++ [⟨.queryOpenState c.lockId, r⟩])
      (spec_call fun _ => rfl) ?_ ?_
    · rintro _ body rfl
      have hb := hobs (.ok body)
      cases hv : WireLockState.modelValidate body with
      | error e =>
        refine ⟨.ok body, rfl, ?_, ?_⟩
        · rw [hb]
          simp [openStateOf, hv, Except.toBool]
        · rw [isException_of_modelValidate hv]
          rfl
      | ok state =>
        refine ⟨hl.snoc rfl, ?_⟩
        obtain ⟨h1, -⟩ := modelValidate_eq_ok hv
        rw [Seen, hb]
        simp [openStateOf, hv, Except.toBool, applyState, Observation.locked, h1, Except.toOption]
    · rintro _ e rfl
      refine ⟨.error e, rfl, ?_, rfl⟩
      rw [hobs (.error e)]
      rfl
  · rintro _ e ⟨r, rfl, hnone, hf⟩
    split_ifs with he hd'
    · exact tier_pure (hl.snoc (by simpa [hf] using he)) (hunseen hnone)
    · exact absurd (by rw [hd]; rfl) hd'
    · exact spec_throw (not_clean_snoc (by simpa [hf] using he))

theorem updateState_tier (hl : Clean l) (h : Unknown l d) :
    Tier copy connectable Seen (updateState d) l := by
  unfold updateState
  refine tier_bind (asyncReadStateBle_tier hl h.1) ?_
  rintro l' status hl ⟨ho, rfl⟩
  have hc : cloudObservation l' = none := by
    rw [cloudObservation, ho]
    rfl
  split
  · rename_i s locked heq
    simp only [Option.bind_eq_some_iff, Option.map_eq_some_iff, Prod.mk.injEq] at heq
    obtain ⟨_, ⟨data, hdata, rfl⟩, _, hlocked, rfl, rfl⟩ := heq
    refine tier_pure hl ?_
    rw [Seen, observation, hdata]
    simp [hlocked, applyStatus, Observation.locked]
  · rename_i heq
    have hn : observation l' = none := by
      unfold observation
      split
      · rename_i data hdata
        rw [hdata] at heq
        cases hlocked : (LockStatus.parse data).locked with
        | none => simpa [hlocked] using hc
        | some b => simp [hlocked] at heq
      · exact hc
    refine tier_get_bind fun c => ?_
    split_ifs with hw
    · rw [h.2] at hw
      exact absurd hw.2 (by simp)
    · exact updateCloudState_tier hl h.2 hn ho

/-! ### The tiers behind it, and the poll -/

/-- A reply that has nothing to do with the state of the lock. -/
theorem Seen.append {x : Exchange Api.Reply PyError} (h : Seen l d) (h1 : statusOf x = none)
    (h2 : openStateOf x = none) : Seen (l ++ [x]) d := by
  have hc : cloudObservation (l ++ [x]) = cloudObservation l := by
    rw [cloudObservation, cloudObservation, findSome?_snoc, h2, Option.or_none]
  have ho : observation (l ++ [x]) = observation l := by
    rw [observation, observation, findSome?_snoc, h1, Option.or_none, hc]
  rwa [Seen, ho]

theorem updatePassage_tier (t : LocalTime) (hl : Clean l) (h : Seen l d) :
    Tier copy connectable Seen (updatePassage t d) l := by
  unfold updatePassage Api.getLockPassageModeConfig
  refine tier_get_bind fun c => ?_
  split_ifs
  · refine tier_request_bind (fun _ => rfl) fun config => ?_
    refine tier_modify_bind (fun _ => rfl) (fun _ => rfl) (tier_pure (hl.snoc rfl) ?_)
    exact h.append rfl rfl
  · exact tier_pure hl h

theorem updateGateways_tier (t : LocalTime) (hl : Clean l) (h : Seen l d) :
    Tier copy connectable Seen (updateGateways t d) l := by
  unfold updateGateways Api.getGatewaysForLock
  refine tier_get_bind fun c => ?_
  split_ifs
  · rw [bind_assoc]
    refine tier_request_bind (fun _ => rfl) fun res => ?_
    refine tier_modify_bind (fun _ => rfl) (fun _ => rfl) (tier_pure (hl.snoc rfl) ?_)
    exact h.append rfl rfl
  · exact tier_pure hl h
  · exact tier_pure hl h

theorem updateCodes_tier (t : LocalTime) (hl : Clean l) (h : Seen l d) :
    Tier copy connectable Seen (updateCodes t d) l := by
  unfold updateCodes Api.listPasscodes Api.listEkeys
  refine tier_get_bind fun c => ?_
  split_ifs
  · refine tier_request_bind (fun _ => rfl) fun passcodes => ?_
    refine tier_request_bind (fun _ => rfl) fun ekeys => ?_
    refine tier_modify_bind (fun _ => rfl) (fun _ => rfl) (tier_pure ((hl.snoc rfl).snoc rfl) ?_)
    have h1 : Seen _ d := h.append (x := ⟨.listKeyboardPwd c.lockId, .ok passcodes⟩) rfl rfl
    have h2 : Seen _ d := h1.append (x := ⟨.listKey c.lockId, .ok ekeys⟩) rfl rfl
    exact h2
  · exact tier_pure hl h

/-- **A poll that starts from an unknown state** ends with what it has observed, if no reply makes it
fail. -/
theorem fetchAll_tier (hd : copy.locked = none) :
    Tier copy connectable Seen fetchAll [] := by
  have htiers (t : LocalTime) {d : LockState} (h : Unknown [] d) : Tier copy connectable Seen
      (updateDetails t d >>= fun d => updateSensor d >>= fun d => updateState d >>= fun d =>
        updatePassage t d >>= fun d => updateGateways t d >>= updateCodes t) [] := by
    refine tier_bind (updateDetails_tier t clean_nil h) fun l d hl h => ?_
    refine tier_bind (updateSensor_tier hl h) fun l d hl h => ?_
    refine tier_bind (updateState_tier hl h) fun l d hl h => ?_
    refine tier_bind (updatePassage_tier t hl h) fun l d hl h => ?_
    refine tier_bind (updateGateways_tier t hl h) fun l d hl h => ?_
    exact updateCodes_tier t hl h
  intro c hc
  refine htiers c.now ?_
  rw [hc.1]
  exact ⟨⟨rfl, rfl⟩, hd⟩

/-- How the poll ends. -/
def PollEnd (connectable : Bool) (l : Api.Log) : Except PyError LockState → Prop
  | .ok d => connectable = true ∧ Clean l ∧ Seen l d
  | .error _ => ¬ (connectable = true ∧ Clean l)

theorem asyncUpdateData_spec (connectable : Bool) (hd : copy.locked = none) :
    Spec (Cleared copy connectable) (PollEnd connectable) asyncUpdateData [] := by
  unfold asyncUpdateData
  refine spec_get_bind fun c hc => ?_
  split_ifs with h
  · rw [← hc.2]
    refine spec_tryCatch (fetchAll_tier hd) (fun l d h' => ⟨h, h'⟩) fun l e h' => ?_
    split_ifs
    · exact spec_throw fun hn => h' hn.2
    · exact spec_throw fun hn => h' hn.2
  · exact spec_throw fun hn => h (hc.2.trans hn.1)

/-! ### One refresh of the service -/

theorem onCoordinator_bind (i : Fin n) (f : α → Method β) : ∀ p : Method α,
    onCoordinator i (p >>= f) = onCoordinator i p >>= fun a => onCoordinator i (f a)
  | .ret _ => rfl
  | .raise _ => rfl
  | .get k => congrArg Coro.get (funext fun s => onCoordinator_bind i f (k (s.coordinator i)))
  | .set c k => congrArg Coro.get (funext fun s =>
      congrArg (Coro.set (s.setCoordinator i c)) (onCoordinator_bind i f k))
  | .await q k => congrArg (Coro.await (Request.api q)) (funext fun r => onCoordinator_bind i f (k r))

theorem onCoordinator_tryCatch (i : Fin n) (f : PyError → Method α) : ∀ p : Method α,
    onCoordinator i (tryCatch p f) = tryCatch (onCoordinator i p) fun e => onCoordinator i (f e)
  | .ret _ => rfl
  | .raise _ => rfl
  | .get k => congrArg Coro.get (funext fun s => onCoordinator_tryCatch i f (k (s.coordinator i)))
  | .set c k => congrArg Coro.get (funext fun s =>
      congrArg (Coro.set (s.setCoordinator i c)) (onCoordinator_tryCatch i f k))
  | .await q k =>
    congrArg (Coro.await (Request.api q)) (funext fun r => onCoordinator_tryCatch i f (k r))

/-- The data of the lock, the outcome of its last poll and its connectivity are as they were. -/
def Alike (c c' : LockUpdateCoordinator) : Prop :=
  c'.data = c.data ∧ c'.lastUpdateSuccess = c.lastUpdateSuccess ∧ c'.connectable = c.connectable

theorem Alike.refl (c : LockUpdateCoordinator) : Alike c c := ⟨rfl, rfl, rfl⟩

theorem Alike.trans {c c' c'' : LockUpdateCoordinator} (h : Alike c c') (h' : Alike c' c'') :
    Alike c c'' :=
  ⟨h'.1.trans h.1, h'.2.1.trans h.2.1, h'.2.2.trans h.2.2⟩

/-- While lock `i` is polled, the other locks are as they were in `s₀`. -/
def During (i : Fin n) (copy : LockState) (s₀ s : Hass n) : Prop :=
  Cleared copy (s₀.coordinators i).connectable (s.coordinators i) ∧
    ∀ j ≠ i, Alike (s₀.coordinators j) (s.coordinators j)

theorem During.meanwhile {i : Fin n} {s₀ s s' : Hass n} (hm : Meanwhile s s')
    (h : During i copy s₀ s) : During i copy s₀ s' :=
  ⟨⟨(hm i).1.trans h.1.1, (hm i).2.2.trans h.1.2⟩, fun j hj => (h.2 j hj).trans (hm j)⟩

theorem setCoordinator_self (s : Hass n) (i : Fin n) (c : LockUpdateCoordinator) :
    (s.setCoordinator i c).coordinators i = c := Function.update_self ..

theorem setCoordinator_of_ne (s : Hass n) {i j : Fin n} (c : LockUpdateCoordinator) (h : j ≠ i) :
    (s.setCoordinator i c).coordinators j = s.coordinators j := Function.update_of_ne h ..

/-- A specification of a method holds of it as a part of the service. -/
theorem spec_onCoordinator {i : Fin n} {s₀ : Hass n} {P : Api.Log → Except PyError α → Prop} :
    ∀ {p : Method α} {l : Calls}, Spec (Cleared copy (s₀.coordinators i).connectable) P p (apiLog l) →
      Spec (During i copy s₀) (fun l r => P (apiLog l) r) (onCoordinator i p) l
  | .ret _, _, h => h
  | .raise _, _, h => h
  | .get k, _, h => fun s hs => spec_onCoordinator (h (s.coordinator i) hs.1)
  | .set c k, _, h => by
    intro s hs
    refine ⟨⟨?_, fun j hj => ?_⟩, spec_onCoordinator h.2⟩
    · rw [setCoordinator_self]
      exact h.1
    · rw [setCoordinator_of_ne s c hj]
      exact hs.2 j hj
  | .await q k, l, h => by
    intro a
    refine spec_onCoordinator ?_
    rw [apiLog, List.filterMap_append]
    exact h a

/-- What a refresh of lock `i` makes of it, and of the others. -/
structure Refreshed (i : Fin n) (l : Api.Log) (s s' : Hass n) : Prop where
  obtained : Obtains (s.coordinators i) l →
    ∃ o, observation l = some o ∧ (s'.coordinators i).data.locked = some o.locked
  lost : ¬ Obtains (s.coordinators i) l → (s'.coordinators i).data.locked = none
  connectable : (s'.coordinators i).connectable = (s.coordinators i).connectable
  others : ∀ j ≠ i, Alike (s.coordinators j) (s'.coordinators j)

/-- **How a refresh ends** that has begun with `copy`: the lock holds what the poll has returned, or
`copy` if it has failed. -/
theorem asyncRefresh_ends {i : Fin n} {s s₁ s' : Hass n} {l : Calls} {r : Except PyError Unit}
    (hd : copy.locked = none) (hbegin : During i copy s s₁)
    (h : Ends Meanwhile (onCoordinator i asyncRefresh) s₁ l r s') :
    ∃ result, PollEnd (s.coordinators i).connectable (apiLog l) result ∧
      (s'.coordinators i).data = result.toOption.getD copy ∧
        (s'.coordinators i).connectable = (s.coordinators i).connectable ∧
          ∀ j ≠ i, Alike (s.coordinators j) (s'.coordinators j) := by
  have hspec := spec_onCoordinator (l := [])
    (asyncUpdateData_spec (s.coordinators i).connectable hd)
  have hsound {l : Calls} {result : Except PyError LockState} {s₂ : Hass n}
      (hp : Ends Meanwhile (onCoordinator i asyncUpdateData) s₁ l result s₂) :
      During i copy s s₂ ∧ PollEnd (s.coordinators i).connectable (apiLog l) result :=
    Spec.sound (fun _ _ hm hd => hd.meanwhile hm) hspec hbegin hp
  unfold asyncRefresh at h
  rw [onCoordinator_tryCatch, onCoordinator_bind] at h
  rcases ends_tryCatch.mp h with ⟨⟨⟩, rfl, hbody⟩ | ⟨e, s₂, l₁, l₂, rfl, hbody, hhandler⟩
  · rcases ends_bind.mp hbody with ⟨e, he, -⟩ | ⟨d, s₂, l₁, l₂, rfl, hpoll, rfl, -, rfl⟩
    · cases he
    · rw [List.append_nil]
      obtain ⟨hduring, hend⟩ := hsound hpoll
      refine ⟨.ok d, hend, ?_, ?_, fun j hj => ?_⟩
      · rw [setCoordinator_self]
        rfl
      · rw [setCoordinator_self]
        exact hduring.1.2
      · rw [setCoordinator_of_ne _ _ hj]
        exact hduring.2 j hj
  · rcases ends_bind.mp hbody with ⟨e', he, hpoll⟩ | ⟨d, s₃, l₃, l₄, -, -, -, he, -⟩
    · cases he
      obtain ⟨hduring, hend⟩ := hsound hpoll
      -- neither way to end makes a call, or touches the data
      split_ifs at hhandler
      · obtain ⟨rfl, -, rfl⟩ := hhandler
        rw [List.append_nil]
        refine ⟨.error e, hend, ?_, ?_, fun j hj => ?_⟩
        · rw [setCoordinator_self]
          exact hduring.1.1
        · rw [setCoordinator_self]
          exact hduring.1.2
        · rw [setCoordinator_of_ne _ _ hj]
          exact hduring.2 j hj
      · obtain ⟨rfl, -, rfl⟩ := hhandler
        rw [List.append_nil]
        exact ⟨.error e, hend, hduring.1.1, hduring.1.2, hduring.2⟩
    · cases he

/-- **One refresh**: the lock ends with what has been observed, or with nothing. -/
theorem forceRefresh_refreshed {i : Fin n} {s s' : Hass n} {l : Calls} {r : Except PyError Unit}
    (h : Ends Meanwhile (onCoordinator i forceRefresh) s l r s') :
    Refreshed i (apiLog l) s s' := by
  set copy : LockState := { (s.coordinators i).data with locked := none } with hcopy
  set s₁ := s.setCoordinator i { s.coordinator i with data := copy } with hs₁
  have h : Ends Meanwhile (onCoordinator i asyncRefresh) s₁ l r s' := h
  have hbegin : During i copy s s₁ := by
    refine ⟨?_, fun j hj => ?_⟩
    · rw [hs₁, setCoordinator_self]
      exact ⟨rfl, rfl⟩
    · rw [hs₁, setCoordinator_of_ne s _ hj]
      exact .refl _
  obtain ⟨result, hend, hdata, hconn, hothers⟩ := asyncRefresh_ends rfl hbegin h
  cases result with
  | ok d =>
    obtain ⟨hc, hl, hseen⟩ := hend
    refine ⟨fun ho => ?_, fun ho => ?_, hconn, hothers⟩
    · obtain ⟨o, hobs⟩ := Option.isSome_iff_exists.mp ho.2.2
      refine ⟨o, hobs, ?_⟩
      rw [hdata]
      exact hseen.trans (by rw [hobs]; rfl)
    · have hnone : observation (apiLog l) = none := by
        by_contra hne
        exact ho ⟨hc, hl, Option.isSome_iff_ne_none.mpr hne⟩
      rw [hdata]
      exact hseen.trans (by rw [hnone]; rfl)
  | error e =>
    refine ⟨fun ho => absurd ⟨ho.1, ho.2.1⟩ hend, fun _ => ?_, hconn, hothers⟩
    rw [hdata]
    rfl

/-! ### The whole call -/

variable {entityIds : List EntityId} {s s' : Hass n} {i : Fin n} {l : Calls}
  {h : List ((EntityId × Fin n) × Calls)} {r : Except PyError Unit}

/-- The refreshes of a list of entities. -/
abbrev Refreshes (es : List (EntityId × Fin n)) (s : Hass n)
    (h : List ((EntityId × Fin n) × Calls)) (r : Except PyError Unit) (s' : Hass n) : Prop :=
  EndsEach Meanwhile (fun e => onCoordinator e.2 forceRefresh) es s h r s'

/-- A lock that is not refreshed is as it was. -/
theorem refreshes_others {es : List (EntityId × Fin n)} (hr : Refreshes es s h r s')
    (hi : ∀ x ∈ h, x.1.2 ≠ i) : Alike (s.coordinators i) (s'.coordinators i) := by
  induction hr with
  | nil => exact .refl _
  | next hone _ ih =>
    have hne := hi _ (List.mem_cons_self ..)
    have hrest := ih fun x hx => hi x (List.mem_cons_of_mem _ hx)
    exact ((forceRefresh_refreshed hone).others i hne.symm).trans hrest
  | raised hone =>
    have hne := hi _ (List.mem_cons_self ..)
    exact (forceRefresh_refreshed hone).others i hne.symm

/-- The last refresh of a lock decides. -/
theorem refreshes_last {es : List (EntityId × Fin n)} (hr : Refreshes es s h r s')
    (hl : LastRefresh i l h) :
    (Obtains (s.coordinators i) (apiLog l) →
      ∃ o, observation (apiLog l) = some o ∧ (s'.coordinators i).data.locked = some o.locked) ∧
    (¬ Obtains (s.coordinators i) (apiLog l) → (s'.coordinators i).data.locked = none) := by
  induction hr with
  | nil =>
    obtain ⟨h₁, e, h₂, heq, -⟩ := hl
    exact absurd heq (by simp)
  | @next e es s s₁ s' l' h r hone hrest ih =>
    obtain ⟨h₁, e', h₂, heq, he, hne⟩ := hl
    have hfirst := forceRefresh_refreshed hone
    cases h₁ with
    | nil =>
      obtain ⟨⟨rfl, rfl⟩, rfl⟩ : (e = e' ∧ l' = l) ∧ h = h₂ := by simpa using heq
      subst he
      obtain ⟨hdata, -, -⟩ := refreshes_others hrest hne
      rw [hdata]
      exact ⟨hfirst.obtained, hfirst.lost⟩
    | cons x h₁ =>
      obtain ⟨-, rfl⟩ : (e, l') = x ∧ h = h₁ ++ (e', l) :: h₂ := by simpa using heq
      have hconn : (s₁.coordinators i).connectable = (s.coordinators i).connectable := by
        by_cases hei : e.2 = i
        · subst hei
          exact hfirst.connectable
        · exact (hfirst.others i (Ne.symm hei)).2.2
      have := ih ⟨h₁, e', h₂, rfl, he, hne⟩
      unfold Obtains at this ⊢
      rwa [hconn] at this
  | @raised e es s s' l' err hone =>
    obtain ⟨h₁, e', h₂, heq, he, -⟩ := hl
    have hfirst := forceRefresh_refreshed hone
    cases h₁ with
    | nil =>
      obtain ⟨⟨rfl, rfl⟩, -⟩ : (e = e' ∧ l' = l) ∧ [] = h₂ := by simpa using heq
      subst he
      exact ⟨hfirst.obtained, hfirst.lost⟩
    | cons x h₁ => simp at heq

/-- The last refresh of a lock keeps what was known of it exactly if it comes to its end with a
reading. -/
theorem keepsKnowledge_of_serves (hs : Serves entityIds s h r s')
    (hl : LastRefresh i l h) (hk : (s.coordinators i).data.locked.isSome = true) :
    KeepsKnowledge (apiLog l) (s.coordinators i) (s'.coordinators i) ↔
      Obtains (s.coordinators i) (apiLog l) := by
  obtain ⟨hgood, hbad⟩ := refreshes_last hs hl
  constructor
  · intro hkeep
    by_contra hn
    have hnone := hbad hn
    rcases hkeep with ⟨o, -, ho⟩ | ⟨-, ho⟩
    · rw [hnone] at ho
      cases ho
    · rw [← ho, hnone] at hk
      cases hk
  · intro ho
    exact .inl (hgood ho)

/-- **When a forced refresh keeps what was known of a lock**: a run of the handler is a row of
refreshes, and of a lock whose state was known it keeps what was known exactly if the last of the
lock's refreshes comes to its end with a reading. -/
theorem handleUpdateState_keepsKnowledge_iff
    (hr : Ends Meanwhile (handleUpdateState entityIds) s l r s') :
    (∃ h, Serves entityIds s h r s' ∧ l = h.flatMap Prod.snd) ∧
      ∀ h, Serves entityIds s h r s' → l = h.flatMap Prod.snd → ∀ i l, LastRefresh i l h →
        (s.coordinators i).data.locked.isSome = true →
          (KeepsKnowledge (apiLog l) (s.coordinators i) (s'.coordinators i) ↔
            Obtains (s.coordinators i) (apiLog l)) := by
  refine ⟨ends_handleUpdateState.mp hr, fun h hs _ i l hl hk => ?_⟩
  exact keepsKnowledge_of_serves hs hl hk

/-! ### A call for one lock -/

/-- A lock that is known to be locked. -/
def sampleHass : Hass 1 where
  now := sampleCoordinator.now
  coordinators _ :=
    { sampleCoordinator with data := { sampleCoordinator.data with locked := some true } }
  entities _ := ["lock.front_door"]

/-- Every call succeeds but the query of the state, which is replied with `state`. -/
def stateReply (state : Except PyError OpenStateBody) : (q : Request) → Except PyError (Reply q)
  | .api (.queryOpenState _) => state
  | .api q => sampleReply q
  | .keyboardPwdDelete _ _ => .error .requestFailed

def stateAnswer (state : Except PyError OpenStateBody) (q : Request) (s : Hass n) :
    Except PyError (Reply q) × Hass n := (stateReply state q, s)

/-- The exchanges of the refresh. -/
def sampleCalls (state : Except PyError OpenStateBody) : Calls :=
  exchanges (stateAnswer state) (onCoordinator 0 forceRefresh) sampleHass

/-- What the call leaves. -/
def sampleResult (state : Except PyError OpenStateBody) : Except PyError Unit × Hass 1 :=
  (onCoordinator 0 forceRefresh).run (stateAnswer state) sampleHass

theorem sample_serves (state : Except PyError OpenStateBody)
    (hr : (sampleResult state).1 = .ok ()) :
    Serves ["lock.front_door"] sampleHass [(("lock.front_door", 0), sampleCalls state)] (.ok ())
      (sampleResult state).2 := by
  have hends : Ends Meanwhile (onCoordinator 0 forceRefresh) sampleHass (sampleCalls state)
      (sampleResult state).1 (sampleResult state).2 :=
    ends_run (fun _ _ _ => ⟨rfl, rfl, rfl⟩) _ _
  rw [hr] at hends
  exact .next hends .nil

theorem sample_last (state : Except PyError OpenStateBody) :
    LastRefresh 0 (sampleCalls state) [(("lock.front_door", (0 : Fin 1)), sampleCalls state)] :=
  ⟨[], _, [], rfl, rfl, nofun⟩

/-- The call as a run of the handler. -/
theorem sample_ends (state : Except PyError OpenStateBody)
    (hr : (sampleResult state).1 = .ok ()) :
    Ends Meanwhile (handleUpdateState ["lock.front_door"]) sampleHass (sampleCalls state ++ [])
      (.ok ()) (sampleResult state).2 :=
  ends_handleUpdateState.mpr ⟨_, sample_serves state hr, rfl⟩

/-- **The lock was known to be locked and is now unknown**, and the refresh counts as done. -/
theorem handleUpdateState_erases : ¬ ∀ (n : ℕ) (s s' : Hass n) (entityIds : List EntityId)
    (calls : Calls) (h : List ((EntityId × Fin n) × Calls)) (r : Except PyError Unit) (i : Fin n)
    (l : Calls),
      Ends Meanwhile (handleUpdateState entityIds) s calls r s' →
        Serves entityIds s h r s' → calls = h.flatMap Prod.snd → LastRefresh i l h →
          (s.coordinators i).data.locked.isSome = true →
            KeepsKnowledge (apiLog l) (s.coordinators i) (s'.coordinators i) := by
  intro hall
  have hkeep := hall _ _ _ _ _ _ _ _ _ (sample_ends (.error .requestFailed) rfl)
    (sample_serves _ rfl) rfl (sample_last _) rfl
  have hnone : ((sampleResult (.error .requestFailed)).2.coordinators 0).data.locked = none := rfl
  rcases hkeep with ⟨o, -, ho⟩ | ⟨-, ho⟩
  · rw [hnone] at ho
    cases ho
  · rw [hnone] at ho
    cases ho

/-- With a reading, the state is known afterwards. -/
theorem handleUpdateState_reading :
    KeepsKnowledge (apiLog (sampleCalls (.ok ⟨.int 1, .absent⟩))) (sampleHass.coordinators 0)
      ((sampleResult (.ok ⟨.int 1, .absent⟩)).2.coordinators 0) :=
  ((handleUpdateState_keepsKnowledge_iff (sample_ends _ rfl)).2 _ (sample_serves _ rfl) rfl _ _
    (sample_last _) rfl).mpr (by decide)

end TTLockConnect.Services.UpdateState
