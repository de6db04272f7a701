import TTLockConnect.Coordinator.Overwrite

/-! # What a failed poll leaves behind

A poll stamps a slow group as soon as it has fetched it, while the values stay in its private copy
until the whole poll has succeeded. So a poll that fails leaves the coordinator as it found it exactly
if none of the groups that were due had been fetched by then. -/

namespace TTLockConnect.Coordinator.Retry

open TTLockConnect.Text TTLockConnect.Models TTLockConnect.Ble.Cipher TTLockConnect.Ble.Protocol
open TTLockConnect.Api TTLockConnect.Coordinator.State
open TTLockConnect.Coordinator.Poll TTLockConnect.Coordinator.Overwrite
open TTLockConnect.Async.Coroutine TTLockConnect.Async.Coroutine.Coro

/-! ### The slow groups -/

/-- The groups of fields a poll fetches once per slow interval. -/
inductive Group where
  | details
  | passage
  | gateways
  | codes
  deriving DecidableEq, Repr

/-- When the group was last fetched. -/
def stamp : Group → LockUpdateCoordinator → Option LocalTime
  | .details, c => c.detailsLastFetched
  | .passage, c => c.passageLastFetched
  | .gateways, c => c.gatewaysLastFetched
  | .codes, c => c.codesLastFetched

/-- A poll that has started at `t` fetches the group when it comes to it. -/
def DueAt (t : LocalTime) (c : LockUpdateCoordinator) (g : Group) : Prop :=
  c.slowTierDue (stamp g c) t = true ∧ (g = .gateways → c.hasGateway = true)

theorem dueAt_of_ne {t : LocalTime} {c : LockUpdateCoordinator} {g : Group}
    (h : c.slowTierDue (stamp g c) t = true) (hg : g ≠ .gateways) : DueAt t c g :=
  ⟨h, fun heq => absurd heq hg⟩

/-- A poll that starts now fetches the group, if it gets so far. -/
def Due (c : LockUpdateCoordinator) (g : Group) : Prop := DueAt c.now c g

/-- The data stay as they are, and so do the stamps of the groups not in `may`, and what a poll
goes by when it chooses its calls. -/
structure Leaves (may : Group → Prop) (c c' : LockUpdateCoordinator) : Prop where
  data : c'.data = c.data
  lockId : c'.lockId = c.lockId
  hasGateway : c'.hasGateway = c.hasGateway
  slowInterval : c'.slowInterval = c.slowInterval
  webhookOnlyActive : c'.webhookOnlyActive = c.webhookOnlyActive
  reachable : c'.bluetoothAvailable = c.bluetoothAvailable ∧ c'.inRange = c.inRange
  credentials : ¬ may .details → c'.bleCredentials = c.bleCredentials
  stamps : ∀ g, ¬ may g → stamp g c' = stamp g c

/-- The group is stamped. -/
def stamped (t : LocalTime) (c : LockUpdateCoordinator) : Group → LockUpdateCoordinator
  | .details => { c with detailsLastFetched := some t }
  | .passage => { c with passageLastFetched := some t }
  | .gateways => { c with gatewaysLastFetched := some t }
  | .codes => { c with codesLastFetched := some t }

/-- A poll alone: the replies it gets, and what changes around it while it waits for them. -/
structure World where
  reply : (q : Request) → Except PyError (Reply q)
  move : Request → LockUpdateCoordinator → LockUpdateCoordinator
  leaves : ∀ q c, Leaves (fun _ => False) c (move q c)

/-- How the world answers. -/
def World.answer (w : World) (q : Request) (c : LockUpdateCoordinator) :
    Except PyError (Reply q) × LockUpdateCoordinator := (w.reply q, w.move q c)

variable {w : World} {may may' : Group → Prop} {c c' c'' : LockUpdateCoordinator} {d : LockState}
  {α : Type}

theorem Leaves.refl (c : LockUpdateCoordinator) : Leaves may c c :=
  ⟨rfl, rfl, rfl, rfl, rfl, ⟨rfl, rfl⟩, fun _ => rfl, fun _ _ => rfl⟩

theorem Leaves.trans (h : Leaves may c c') (h' : Leaves may c' c'') : Leaves may c c'' where
  data := h'.data.trans h.data
  lockId := h'.lockId.trans h.lockId
  hasGateway := h'.hasGateway.trans h.hasGateway
  slowInterval := h'.slowInterval.trans h.slowInterval
  webhookOnlyActive := h'.webhookOnlyActive.trans h.webhookOnlyActive
  reachable := ⟨h'.reachable.1.trans h.reachable.1, h'.reachable.2.trans h.reachable.2⟩
  credentials := fun hd => (h'.credentials hd).trans (h.credentials hd)
  stamps := fun g hg => (h'.stamps g hg).trans (h.stamps g hg)

theorem Leaves.mono (h : Leaves may c c') (hm : ∀ g, may g → may' g) : Leaves may' c c' where
  data := h.data
  lockId := h.lockId
  hasGateway := h.hasGateway
  slowInterval := h.slowInterval
  webhookOnlyActive := h.webhookOnlyActive
  reachable := h.reachable
  credentials := fun hd => h.credentials fun hm' => hd (hm _ hm')
  stamps := fun g hg => h.stamps g fun hm' => hg (hm g hm')

theorem leaves_stamped (g : Group) (t : LocalTime) (c : LockUpdateCoordinator) :
    Leaves (· = g) c (stamped t c g) := by
  cases g <;>
    exact ⟨rfl, rfl, rfl, rfl, rfl, ⟨rfl, rfl⟩, fun _ => rfl, fun g hg => by
      cases g <;> first | rfl | exact absurd rfl hg⟩

theorem leaves_fetched (version : Option LockVersionPayload) (key : Option String) (t : LocalTime)
    (c : LockUpdateCoordinator) : Leaves (· = .details) c
      { c with bleVersion := version, bleKey := key, detailsLastFetched := some t } where
  data := rfl
  lockId := rfl
  hasGateway := rfl
  slowInterval := rfl
  webhookOnlyActive := rfl
  reachable := ⟨rfl, rfl⟩
  credentials := fun h => absurd rfl h
  stamps := fun g hg => by cases g <;> first | rfl | exact absurd rfl hg

/-! ### What the tiers leave -/

/-- Whatever becomes of the coroutine, it leaves everything but the stamps in `may`. -/
abbrev Spares (w : World) (may : Group → Prop) (p : Method α) : Prop :=
  Frames w.answer (Leaves may) p

theorem spares_request (q : Request) : Spares w may (request q) :=
  frames_call fun c => (w.leaves q c).mono fun _ h => h.elim

theorem spares_bind {β : Type} {p : Method α} {f : α → Method β} (hp : Spares w may p)
    (hf : ∀ a, Spares w may (f a)) : Spares w may (p >>= f) :=
  frames_bind (fun _ _ _ h h' => h.trans h') hp hf

theorem spares_tryCatch {p : Method α} {f : PyError → Method α} (hp : Spares w may p)
    (hf : ∀ e, Spares w may (f e)) : Spares w may (tryCatch p f) :=
  frames_tryCatch (fun _ _ _ h h' => h.trans h') hp hf

theorem spares_pure (a : α) : Spares w may (pure a) := frames_pure Leaves.refl a

theorem spares_throw (e : PyError) : Spares w may (throw e : Method α) := frames_throw Leaves.refl e

theorem spares_get : Spares w may (get : Method LockUpdateCoordinator) := frames_get Leaves.refl

theorem spares_modify {f : LockUpdateCoordinator → LockUpdateCoordinator}
    (h : ∀ c, Leaves may c (f c)) : Spares w may (modify f) := frames_modify h

theorem getSensor_spares (lockId : ℤ) : Spares w may (getSensor lockId) := by
  refine spares_tryCatch (spares_bind (spares_request _) fun _ => spares_pure _) fun e => ?_
  exact frames_ite (spares_pure _) (spares_throw _)

theorem refreshSensor_spares (s : SensorData) : Spares w may (refreshSensor s) := by
  refine spares_bind spares_get fun c => spares_bind (getSensor_spares _) fun result => ?_
  exact spares_bind (spares_bind spares_get fun c => spares_pure _) fun t => spares_pure _

theorem storeUpdate_spares (update : StoreRecord → StoreRecord) :
    Spares w may (storeUpdate update) := by
  refine spares_bind (spares_request _) fun _ => spares_bind (spares_modify fun c => ?_) fun _ => ?_
  · exact ⟨rfl, rfl, rfl, rfl, rfl, ⟨rfl, rfl⟩, fun _ => rfl, fun g _ => by cases g <;> rfl⟩
  · exact spares_request _

theorem updatePresentSensor_spares (s : SensorData) : Spares w may (updatePresentSensor s) := by
  refine spares_bind (spares_bind spares_get fun c => spares_pure _) fun t => ?_
  refine frames_ite (spares_pure _) (spares_bind (refreshSensor_spares _) ?_)
  rintro ⟨_ | result, s⟩ <;> exact spares_pure _

theorem probeSensor_spares (stored : StoreRecord) (s : SensorData) :
    Spares w may (probeSensor stored s) := by
  have hrest (update : LocalTime → StoreRecord → StoreRecord) (s : SensorData) :
      Spares w may (do let t ← now; storeUpdate (update t); pure s) := by
    refine spares_bind (spares_bind spares_get fun c => spares_pure _) fun t => ?_
    exact spares_bind (storeUpdate_spares _) fun _ => spares_pure _
  refine spares_bind (refreshSensor_spares _) ?_
  rintro ⟨_ | result, s⟩
  · refine frames_ite (spares_pure _) (frames_ite ?_ (hrest _ _))
    refine spares_bind (spares_modify fun c => ?_) fun _ => hrest _ _
    exact ⟨rfl, rfl, rfl, rfl, rfl, ⟨rfl, rfl⟩, fun _ => rfl, fun g _ => by cases g <;> rfl⟩
  · exact spares_bind (storeUpdate_spares _) fun _ => spares_pure _

theorem checkForSensor_spares (s : SensorData) : Spares w may (checkForSensor s) := by
  refine spares_bind ?_ fun stored => frames_ite ?_ ?_
  · exact spares_bind (spares_request _) fun _ => spares_bind spares_get fun c => spares_pure _
  · refine spares_bind spares_get fun c => frames_ite (spares_pure _) ?_
    refine spares_bind (spares_modify fun c => ?_) fun _ => probeSensor_spares _ _
    exact ⟨rfl, rfl, rfl, rfl, rfl, ⟨rfl, rfl⟩, fun _ => rfl, fun g _ => by cases g <;> rfl⟩
  · refine spares_bind (spares_bind spares_get fun c => spares_pure _) fun t => ?_
    exact frames_ite (spares_pure _) (probeSensor_spares _ _)

theorem updateSensor_spares (d : LockState) : Spares w may (updateSensor d) := by
  refine frames_ite (frames_ite ?_ ?_) (spares_pure _)
  · exact spares_bind (updatePresentSensor_spares _) fun s => spares_pure _
  · exact spares_bind (checkForSensor_spares _) fun s => spares_pure _

theorem asyncReadStateBle_spares : Spares w may asyncReadStateBle := by
  refine spares_bind spares_get fun c => frames_ite (spares_pure _) ?_
  split
  · exact spares_pure _
  · refine spares_tryCatch ?_ fun e => frames_ite (spares_pure _) (spares_throw _)
    refine spares_bind ?_ fun status => spares_pure _
    exact spares_bind (spares_request _) fun data => spares_pure _

theorem updateCloudState_spares (d : LockState) : Spares w may (updateCloudState d) := by
  refine spares_bind spares_get fun c => spares_tryCatch ?_ fun e => ?_
  · refine spares_bind (spares_bind (spares_request _) fun body => ?_) fun state => spares_pure _
    exact frames_fromExcept Leaves.refl _
  · exact frames_ite (spares_throw _) (frames_ite (spares_pure _) (spares_throw _))

theorem updateState_spares (d : LockState) : Spares w may (updateState d) := by
  refine spares_bind asyncReadStateBle_spares fun status => ?_
  split
  · exact spares_pure _
  · refine spares_bind spares_get fun c => ?_
    exact frames_ite (spares_pure _) (updateCloudState_spares _)

theorem updatePassage_spares (t : LocalTime) (d : LockState) :
    Spares w (· = .passage) (updatePassage t d) := by
  refine spares_bind spares_get fun c => frames_ite ?_ (spares_pure _)
  refine spares_bind (spares_request _) fun config => ?_
  refine spares_bind (spares_modify fun c => ?_) fun _ => spares_pure _
  exact leaves_stamped .passage _ _

theorem updateGateways_spares (t : LocalTime) (d : LockState) :
    Spares w (· = .gateways) (updateGateways t d) := by
  refine spares_bind spares_get fun c => frames_ite (frames_ite ?_ ?_) (spares_pure _)
  · refine spares_bind (spares_bind (spares_request _) fun res => spares_pure _) fun gateways => ?_
    refine spares_bind (spares_modify fun c => ?_) fun _ => spares_pure _
    exact leaves_stamped .gateways _ _
  · exact spares_pure _

theorem updateCodes_spares (t : LocalTime) (d : LockState) :
    Spares w (· = .codes) (updateCodes t d) := by
  refine spares_bind spares_get fun c => frames_ite ?_ (spares_pure _)
  refine spares_bind (spares_request _) fun passcodes => ?_
  refine spares_bind (spares_request _) fun ekeys => ?_
  refine spares_bind (spares_modify fun c => ?_) fun _ => spares_pure _
  exact leaves_stamped .codes _ _

/-! ### What a slow group does to its stamp -/

/-- The door sensor and the state of the lock: the steps between the details and the other groups. -/
def observe (d : LockState) : Method LockState := do
  let d ← updateSensor d
  updateState d

/-- The calls of the group succeed. -/
def Arrives (w : World) (lockId : ℤ) : Group → Prop
  | .details => ∃ details features, w.reply (.detail lockId) = .ok details ∧
      Features.fromFeatureValue details.featureValue = .ok features
  | .passage => ∃ config, w.reply (.passageModeConfig lockId) = .ok config
  | .gateways => ∃ gateways, w.reply (.listByLock lockId) = .ok gateways
  | .codes => (∃ passcodes, w.reply (.listKeyboardPwd lockId) = .ok passcodes) ∧
      ∃ ekeys, w.reply (.listKey lockId) = .ok ekeys

/-- A group that is due is not stamped with the present time. -/
theorem Due.stamp_ne {g : Group} (h : Due c g) : stamp g c ≠ some c.now := by
  intro hs
  have h1 := h.1
  rw [hs, LockUpdateCoordinator.slowTierDue, decide_eq_true_eq] at h1
  exact absurd h1 (Int.not_le.mpr (Int.sub_lt_self _ c.slowInterval_pos))

theorem Leaves.due_iff (h : Leaves (fun _ => False) c c') (g : Group) :
    DueAt c.now c' g ↔ Due c g := by
  rw [Due, DueAt, DueAt, h.stamps g id, h.hasGateway]
  unfold LockUpdateCoordinator.slowTierDue
  rw [h.slowInterval]

/-- The world moves. -/
theorem leaves_move (w : World) (q : Request) (c : LockUpdateCoordinator) :
    Leaves may c (w.move q c) := (w.leaves q c).mono fun _ h => h.elim

/-- What fetching a slow group comes to. -/
inductive Fetch (w : World) (t : LocalTime) (g : Group) (s : LockUpdateCoordinator) :
    Except PyError LockState × LockUpdateCoordinator → Prop
  | idle {d : LockState} : ¬ DueAt t s g → Fetch w t g s (.ok d, s)
  | failed {e : PyError} {s' : LockUpdateCoordinator} : DueAt t s g → ¬ Arrives w s.lockId g →
      Leaves (fun _ => False) s s' → Fetch w t g s (.error e, s')
  | fetched {d : LockState} {s' : LockUpdateCoordinator} : DueAt t s g → Arrives w s.lockId g →
      Leaves (· = g) s s' → stamp g s' = some t → Fetch w t g s (.ok d, s')

theorem updateDetails_fetch (t : LocalTime) (d : LockState) (s : LockUpdateCoordinator) :
    Fetch w t .details s ((updateDetails t d).run w.answer s) := by
  unfold updateDetails
  rw [run_bind, run_get]
  by_cases hdue : s.slowTierDue s.detailsLastFetched t = true
  · simp only [hdue, if_true]
    rw [getLock, run_bind, run_call]
    cases hr : w.reply (.detail s.lockId) with
    | error e =>
      simp only [World.answer, hr]
      refine .failed (dueAt_of_ne hdue (by decide)) ?_ (leaves_move w _ s)
      rintro ⟨details, _, h, _⟩
      rw [hr] at h
      cases h
    | ok details =>
      simp only [World.answer, hr]
      rw [run_bind, run_fromExcept]
      cases hf : Features.fromFeatureValue details.featureValue with
      | error e =>
        refine .failed (dueAt_of_ne hdue (by decide)) ?_ (leaves_move w _ s)
        rintro ⟨details', features, h, hf'⟩
        rw [hr] at h
        cases h
        rw [hf] at hf'
        cases hf'
      | ok features =>
        refine .fetched (dueAt_of_ne hdue (by decide)) ⟨details, features, hr, hf⟩ ?_ rfl
        exact (leaves_move w _ s).trans (leaves_fetched _ _ _ _)
  · simp only [hdue]
    exact .idle fun h => hdue h.1

theorem updatePassage_fetch (t : LocalTime) (d : LockState) (s : LockUpdateCoordinator) :
    Fetch w t .passage s ((updatePassage t d).run w.answer s) := by
  unfold updatePassage
  rw [run_bind, run_get]
  by_cases hdue : s.slowTierDue s.passageLastFetched t = true
  · simp only [hdue, if_true]
    rw [getLockPassageModeConfig, run_bind, run_call]
    cases hr : w.reply (.passageModeConfig s.lockId) with
    | error e =>
      simp only [World.answer, hr]
      refine .failed (dueAt_of_ne hdue (by decide)) ?_ (leaves_move w _ s)
      rintro ⟨config, h⟩
      rw [hr] at h
      cases h
    | ok config =>
      simp only [World.answer, hr]
      refine .fetched (dueAt_of_ne hdue (by decide)) ⟨config, hr⟩ ?_ rfl
      exact (leaves_move w _ s).trans (leaves_stamped .passage _ _)
  · simp only [hdue]
    exact .idle fun h => hdue h.1

theorem updateGateways_fetch (t : LocalTime) (d : LockState) (s : LockUpdateCoordinator) :
    Fetch w t .gateways s ((updateGateways t d).run w.answer s) := by
  unfold updateGateways
  rw [run_bind, run_get]
  by_cases hg : s.hasGateway = true
  · by_cases hdue : s.slowTierDue s.gatewaysLastFetched t = true
    · simp only [hg, hdue, if_true]
      rw [getGatewaysForLock, run_bind, run_bind, run_call]
      cases hr : w.reply (.listByLock s.lockId) with
      | error e =>
        simp only [World.answer, hr]
        refine .failed ⟨hdue, fun _ => hg⟩ ?_ (leaves_move w _ s)
        rintro ⟨gateways, h⟩
        rw [hr] at h
        cases h
      | ok gateways =>
        simp only [World.answer, hr]
        refine .fetched ⟨hdue, fun _ => hg⟩ ⟨gateways, hr⟩ ?_ rfl
        exact (leaves_move w _ s).trans (leaves_stamped .gateways _ _)
    · simp only [hg, hdue]
      exact .idle fun h => hdue h.1
  · simp only [hg]
    exact .idle fun h => hg (h.2 rfl)

/-- The last group is stamped only when nothing can fail any more. -/
theorem updateCodes_failed {t : LocalTime} {s s' : LockUpdateCoordinator} {e : PyError}
    (h : (updateCodes t d).run w.answer s = (.error e, s')) : Leaves (fun _ => False) s s' := by
  unfold updateCodes at h
  rw [run_bind, run_get] at h
  by_cases hdue : s.slowTierDue s.codesLastFetched t = true
  · simp only [hdue, if_true] at h
    rw [listPasscodes, run_bind, run_call] at h
    cases hr : w.reply (.listKeyboardPwd s.lockId) with
    | error e' =>
      simp only [World.answer, hr, Prod.mk.injEq] at h
      rw [← h.2]
      exact leaves_move w _ s
    | ok passcodes =>
      simp only [World.answer, hr] at h
      rw [listEkeys, run_bind, run_call] at h
      cases hr' : w.reply (.listKey s.lockId) with
      | error e' =>
        simp only [World.answer, hr', Prod.mk.injEq] at h
        rw [← h.2]
        exact (leaves_move w _ s).trans (leaves_move w _ _)
      | ok ekeys =>
        simp only [World.answer, hr'] at h
        cases h
  · simp only [hdue] at h
    cases h

/-! ### When the steps in front of the slow groups succeed -/

/-- The coroutine returns. -/
def Returns (w : World) (p : Method α) (s : LockUpdateCoordinator) : Prop :=
  (p.run w.answer s).1.toBool = true

theorem returns_pure (a : α) (s : LockUpdateCoordinator) : Returns w (pure a) s := rfl

theorem not_returns_throw (e : PyError) (s : LockUpdateCoordinator) :
    ¬ Returns w (throw e : Method α) s := Bool.false_ne_true

/-- Behind a part that returns, the rest counts. -/
theorem returns_bind {β : Type} {p : Method α} {f : α → Method β} {a : α}
    {s s' : LockUpdateCoordinator} (h : p.run w.answer s = (.ok a, s')) :
    Returns w (p >>= f) s ↔ Returns w (f a) s' := by
  rw [Returns, run_bind, h]
  rfl

theorem not_returns_bind {β : Type} {p : Method α} {f : α → Method β} {e : PyError}
    {s s' : LockUpdateCoordinator} (h : p.run w.answer s = (.error e, s')) :
    ¬ Returns w (p >>= f) s := by
  rw [Returns, run_bind, h]
  exact Bool.false_ne_true

/-- In front of a rest that returns, the first part counts. -/
theorem returns_bind_of_all {β : Type} {p : Method α} {f : α → Method β}
    {s : LockUpdateCoordinator} (h : ∀ a s, Returns w (f a) s) :
    Returns w (p >>= f) s ↔ Returns w p s := by
  cases hp : p.run w.answer s with
  | mk r s' =>
    cases r with
    | ok a =>
      rw [returns_bind hp]
      exact iff_of_true (h a s') (by rw [Returns, hp]; rfl)
    | error e =>
      exact iff_of_false (not_returns_bind hp) (by rw [Returns, hp]; exact Bool.false_ne_true)

theorem returns_now {f : LocalTime → Method α} {s : LockUpdateCoordinator} :
    Returns w (now >>= f) s ↔ Returns w (f s.now) s := returns_bind rfl

theorem returns_request (q : Request) (s : LockUpdateCoordinator) :
    Returns w (request q) s ↔ ∃ a, w.reply q = .ok a := by
  rw [Returns, request, run_call, World.answer]
  cases w.reply q with
  | ok a => exact iff_of_true rfl ⟨a, rfl⟩
  | error e => exact iff_of_false Bool.false_ne_true nofun

/-- The query of the door sensor is answered, be it that there is none. -/
def SensorReplies (w : World) (lockId : ℤ) : Prop :=
  (∃ sensor, w.reply (.doorSensor lockId) = .ok sensor) ∨
    w.reply (.doorSensor lockId) = .error .requestFailed

/-- A sensor that is present was queried less than a day ago. -/
def queriedRecently (sensor : SensorData) (t : LocalTime) : Bool :=
  sensor.lastFetched.any fun last => t.wall - Duration.ofDays 1 ≤ last.wall

/-- A sensor that is not present is looked for again. -/
def probeDue (s : LockUpdateCoordinator) : Bool :=
  if s.store.doorSensorConfirmedAbsent then !s.sensorRecheckDone
  else !s.store.doorSensorLastFailedReq.any fun last => s.dayAgo ≤ last.instant

/-- The probe is written to the store. -/
def probeStored (w : World) (s : LockUpdateCoordinator) : Prop :=
  w.reply (.doorSensor s.lockId) = .error .requestFailed ∧
    s.store.doorSensorConfirmedAbsent = true ∨ ∃ u, w.reply .storeSave = .ok u

/-- The calls for the door sensor succeed. -/
def SensorAnswers (w : World) (c : LockUpdateCoordinator) : Prop :=
  c.data.features.has doorSensorBit = true →
    if sensorPresent c.data.sensor then
      queriedRecently (c.data.sensor.getD {}) c.now = false → SensorReplies w c.lockId
    else
      (∃ u, w.reply .storeLoad = .ok u) ∧
        (probeDue (w.move .storeLoad c) = true →
          SensorReplies w c.lockId ∧ probeStored w (w.move .storeLoad c))

/-- The reply of the lock over Bluetooth, where it is asked. -/
def bleReply (w : World) (c : LockUpdateCoordinator) : Option (Except PyError Bytes) :=
  if c.bluetoothAvailable ∧ c.inRange then
    c.bleCredentials.map fun k => w.reply (.queryLockStatus c.data.mac c.data.name k.1 k.2)
  else none

/-- The reply of the cloud about the state of the lock. -/
def cloudReply (w : World) (lockId : ℤ) : Except PyError WireLockState :=
  w.reply (.queryOpenState lockId) >>= WireLockState.modelValidate

/-- A Bluetooth read fails as no lock does. -/
def BleBreaks (w : World) (c : LockUpdateCoordinator) : Prop :=
  ∃ e, bleReply w c = some (.error e) ∧ ¬ (e.isBleError ∨ e.isProtocolError)

/-- The lock tells its state over Bluetooth. -/
def BleTells (w : World) (c : LockUpdateCoordinator) : Prop :=
  ∃ data, bleReply w c = some (.ok data) ∧ (LockStatus.parse data).locked.isSome = true

/-- The calls for the state of the lock succeed, or fail while nothing is known of it. -/
def StateAnswers (w : World) (c : LockUpdateCoordinator) : Prop :=
  ¬ BleBreaks w c ∧ (BleTells w c ∨ (c.webhookOnlyActive = true ∧ c.data.locked.isSome = true) ∨
    (∃ state, cloudReply w c.lockId = .ok state) ∨
    c.data.locked = none ∧ ∃ e, cloudReply w c.lockId = .error e ∧ e.isException = true)

theorem refreshSensor_run (sensor : SensorData) (s : LockUpdateCoordinator) :
    (refreshSensor sensor).run w.answer s =
      match w.reply (.doorSensor s.lockId) with
      | .ok a => (.ok (some a, { sensor with
          lastFetched := some (w.move (.doorSensor s.lockId) s).now }),
        w.move (.doorSensor s.lockId) s)
      | .error e =>
        if e = .requestFailed then
          (.ok (none, { sensor with
            lastFetched := some (w.move (.doorSensor s.lockId) s).now }),
          w.move (.doorSensor s.lockId) s)
        else (.error e, w.move (.doorSensor s.lockId) s) := by
  unfold refreshSensor getSensor
  rw [run_bind, run_get]
  dsimp only
  rw [run_bind, run_tryCatch, run_bind, run_call, World.answer]
  cases w.reply (.doorSensor s.lockId) with
  | ok a => rfl
  | error e =>
    by_cases he : e = .requestFailed
    · simp only [he, if_true]
      rfl
    · simp only [he, if_false]
      rfl

/-- What a query of the sensor comes to: a sensor, none, or an error. -/
theorem returns_refreshSensor {sensor : SensorData} {s : LockUpdateCoordinator}
    {f : Option Sensor × SensorData → Method α} {R : Prop}
    (hok : ∀ a sensor, w.reply (.doorSensor s.lockId) = .ok a →
      (Returns w (f (some a, sensor)) (w.move (.doorSensor s.lockId) s) ↔ R))
    (hnone : ∀ sensor, w.reply (.doorSensor s.lockId) = .error .requestFailed →
      (Returns w (f (none, sensor)) (w.move (.doorSensor s.lockId) s) ↔ R)) :
    Returns w (refreshSensor sensor >>= f) s ↔ SensorReplies w s.lockId ∧ R := by
  have hrun := refreshSensor_run (w := w) sensor s
  unfold SensorReplies
  cases hr : w.reply (.doorSensor s.lockId) with
  | ok a =>
    rw [hr] at hrun
    rw [returns_bind hrun, hok a _ hr]
    exact ⟨fun h => ⟨.inl ⟨a, rfl⟩, h⟩, fun h => h.2⟩
  | error e =>
    rw [hr] at hrun
    by_cases he : e = .requestFailed
    · subst he
      dsimp only at hrun
      rw [if_pos rfl] at hrun
      rw [returns_bind hrun, hnone _ hr]
      exact ⟨fun h => ⟨.inr rfl, h⟩, fun h => h.2⟩
    · dsimp only at hrun
      rw [if_neg he] at hrun
      refine iff_of_false (not_returns_bind hrun) ?_
      rintro ⟨⟨a, h⟩ | h, _⟩
      · cases h
      · exact he (Except.error.inj h)

theorem returns_storeUpdate (update : StoreRecord → StoreRecord) (s : LockUpdateCoordinator) :
    Returns w (storeUpdate update) s ↔
      (∃ u, w.reply .storeLoad = .ok u) ∧ ∃ u, w.reply .storeSave = .ok u := by
  have hload : (request .storeLoad).run w.answer s = (w.reply .storeLoad, w.move .storeLoad s) := by
    rw [request, run_call, World.answer]
  unfold storeUpdate
  cases hr : w.reply .storeLoad with
  | ok u =>
    rw [hr] at hload
    rw [returns_bind hload, returns_bind (run_modify _ _ _), returns_request]
    exact ⟨fun h => ⟨⟨u, rfl⟩, h⟩, fun h => h.2⟩
  | error e =>
    rw [hr] at hload
    refine iff_of_false (not_returns_bind hload) ?_
    rintro ⟨⟨u, h⟩, _⟩
    cases h

theorem returns_updatePresentSensor (sensor : SensorData) (s : LockUpdateCoordinator) :
    Returns w (updatePresentSensor sensor) s ↔
      (queriedRecently sensor s.now = false → SensorReplies w s.lockId) := by
  unfold updatePresentSensor queriedRecently
  rw [returns_now]
  by_cases hq : (sensor.lastFetched.any fun last =>
      s.now.wall - Duration.ofDays 1 ≤ last.wall) = true
  · rw [if_pos hq]
    exact iff_of_true (returns_pure _ _) fun h => absurd (hq.symm.trans h) (by decide)
  · rw [if_neg hq]
    refine (returns_refreshSensor (R := True) (fun a sensor _ => ?_) fun sensor _ => ?_).trans ?_
    · exact iff_of_true (returns_pure _ _) trivial
    · exact iff_of_true (returns_pure _ _) trivial
    · exact ⟨fun h _ => h.1, fun h => ⟨h (Bool.eq_false_iff.mpr hq), trivial⟩⟩

theorem returns_probeSensor (hload : ∃ u, w.reply .storeLoad = .ok u) (stored : StoreRecord)
    (sensor : SensorData) (s : LockUpdateCoordinator) :
    Returns w (probeSensor stored sensor) s ↔ SensorReplies w s.lockId ∧
      (w.reply (.doorSensor s.lockId) = .error .requestFailed ∧
        stored.doorSensorConfirmedAbsent = true ∨ ∃ u, w.reply .storeSave = .ok u) := by
  have hstore (update : StoreRecord → StoreRecord) (sensor : SensorData)
      (s : LockUpdateCoordinator) : Returns w (do storeUpdate update; pure sensor) s ↔
        ∃ u, w.reply .storeSave = .ok u := by
    rw [returns_bind_of_all fun _ _ => returns_pure _ _, returns_storeUpdate]
    exact and_iff_right hload
  unfold probeSensor
  refine returns_refreshSensor (fun a sensor hr => ?_) fun sensor hr => ?_
  · -- a sensor has answered
    refine (hstore _ _ _).trans (or_iff_right ?_).symm
    rintro ⟨h, _⟩
    rw [hr] at h
    cases h
  · by_cases ha : stored.doorSensorConfirmedAbsent = true
    · simp only [ha, if_true]
      exact iff_of_true (returns_pure _ _) (.inl ⟨hr, trivial⟩)
    · simp only [ha, if_false, Bool.false_eq_true, and_false, false_or]
      by_cases hn : SENSOR_ABSENT_AFTER_FAILURES ≤ stored.doorSensorCountFailedReq + 1
      · simp only [hn, decide_true, if_true]
        rw [returns_bind (run_modify _ _ _), returns_now]
        exact hstore _ _ _
      · simp only [hn, decide_false, if_false, Bool.false_eq_true]
        rw [returns_now]
        exact hstore _ _ _

theorem storeGet_run (s : LockUpdateCoordinator) : storeGet.run w.answer s =
    match w.reply .storeLoad with
    | .ok _ => (.ok (w.move .storeLoad s).store, w.move .storeLoad s)
    | .error e => (.error e, w.move .storeLoad s) := by
  rw [storeGet, run_bind, request, run_call, World.answer]
  cases w.reply .storeLoad <;> rfl

theorem returns_checkForSensor (sensor : SensorData) (s : LockUpdateCoordinator) :
    Returns w (checkForSensor sensor) s ↔ (∃ u, w.reply .storeLoad = .ok u) ∧
      (probeDue (w.move .storeLoad s) = true →
        SensorReplies w s.lockId ∧ probeStored w (w.move .storeLoad s)) := by
  have hid : (w.move .storeLoad s).lockId = s.lockId := (w.leaves .storeLoad s).lockId
  have hget := storeGet_run (w := w) s
  unfold checkForSensor
  cases hr : w.reply .storeLoad with
  | error e =>
    rw [hr] at hget
    refine iff_of_false (not_returns_bind hget) ?_
    rintro ⟨⟨u, h⟩, _⟩
    cases h
  | ok u =>
    rw [hr] at hget
    rw [returns_bind hget, and_iff_right ⟨u, rfl⟩, ← hid]
    generalize w.move .storeLoad s = s₁
    have hload : ∃ u, w.reply .storeLoad = .ok u := ⟨u, hr⟩
    unfold probeStored probeDue
    by_cases ha : s₁.store.doorSensorConfirmedAbsent = true
    · simp only [ha, if_true]
      rw [returns_bind (run_get _ _)]
      by_cases hd : s₁.sensorRecheckDone = true
      · simp only [hd, if_true]
        exact iff_of_true (returns_pure _ _) fun h => by cases h
      · rw [if_neg hd]
        rw [returns_bind (run_modify _ _ _), returns_probeSensor hload]
        simp [ha, hd]
    · rw [if_neg ha, if_neg ha]
      rw [returns_bind (run_get _ _)]
      by_cases ht : (s₁.store.doorSensorLastFailedReq.any fun last =>
          s₁.dayAgo ≤ last.instant) = true
      · simp only [ht, if_true]
        exact iff_of_true (returns_pure _ _) fun h => by cases h
      · rw [if_neg ht, returns_probeSensor hload, Bool.eq_false_iff.mpr ht]
        simp [ha]

theorem returns_updateSensor (c : LockUpdateCoordinator) :
    Returns w (updateSensor c.data) c ↔ SensorAnswers w c := by
  have hp : (c.data.sensor.getD {}).present = sensorPresent c.data.sensor := by
    cases c.data.sensor <;> rfl
  unfold updateSensor SensorAnswers
  by_cases hf : c.data.features.has doorSensorBit = true
  · simp only [hf, if_true, forall_const, hp]
    by_cases hs : sensorPresent c.data.sensor = true
    · simp only [hs, if_true]
      rw [returns_bind_of_all fun _ _ => returns_pure _ _, returns_updatePresentSensor]
    · rw [if_neg hs, if_neg hs]
      rw [returns_bind_of_all fun _ _ => returns_pure _ _, returns_checkForSensor]
  · rw [if_neg hf]
    exact iff_of_true (returns_pure _ _) fun h => absurd h hf

/-- What a Bluetooth read comes to: a failure of the lock counts as no answer. -/
theorem asyncReadStateBle_run (s : LockUpdateCoordinator) : ∃ s',
    Leaves (fun _ => False) s s' ∧ asyncReadStateBle.run w.answer s =
      match bleReply w s with
      | none => (.ok none, s')
      | some (.ok data) => (.ok (some (LockStatus.parse data)), s')
      | some (.error e) =>
        if e.isBleError ∨ e.isProtocolError then (.ok none, s') else (.error e, s') := by
  unfold asyncReadStateBle bleReply
  rw [run_bind, run_get]
  by_cases hr : s.bluetoothAvailable ∧ s.inRange
  · have hn : ¬ (¬ s.bluetoothAvailable = true ∨ ¬ s.inRange = true) := by
      rw [not_or, not_not, not_not]
      exact hr
    dsimp only
    rw [if_neg hn, if_pos hr]
    cases hc : s.bleCredentials with
    | none => exact ⟨s, .refl s, rfl⟩
    | some k =>
      refine ⟨_, leaves_move w (.queryLockStatus s.data.mac s.data.name k.1 k.2) s, ?_⟩
      simp only [Option.map_some]
      rw [run_tryCatch, run_bind, asyncReadStatus, run_bind, run_call, World.answer]
      cases w.reply (.queryLockStatus s.data.mac s.data.name k.1 k.2) with
      | ok data => rfl
      | error e =>
        by_cases he : e.isBleError ∨ e.isProtocolError
        · simp only [he, if_true]
          rfl
        · simp only [he, if_false]
          rfl
  · have hn : ¬ s.bluetoothAvailable = true ∨ ¬ s.inRange = true := not_and_or.mp hr
    dsimp only
    rw [if_pos hn, if_neg hr]
    exact ⟨s, .refl s, rfl⟩

/-- The cloud's reply, put into the state of the lock. -/
theorem getLockState_run (d : LockState) (s : LockUpdateCoordinator) :
    ((do let state ← getLockState s.lockId; pure (applyState state d)) :
      Method LockState).run w.answer s =
      match cloudReply w s.lockId with
      | .ok state => (.ok (applyState state d), w.move (.queryOpenState s.lockId) s)
      | .error e => (.error e, w.move (.queryOpenState s.lockId) s) := by
  unfold cloudReply getLockState
  rw [run_bind, run_bind, run_call, World.answer]
  cases w.reply (.queryOpenState s.lockId) with
  | error e => rfl
  | ok body =>
    dsimp only
    rw [run_fromExcept]
    change _ = match WireLockState.modelValidate body with
      | .ok state => _
      | .error e => _
    cases WireLockState.modelValidate body <;> rfl

theorem returns_updateCloudState (d : LockState) (s : LockUpdateCoordinator) :
    Returns w (updateCloudState d) s ↔ (∃ state, cloudReply w s.lockId = .ok state) ∨
      d.locked = none ∧ ∃ e, cloudReply w s.lockId = .error e ∧ e.isException = true := by
  unfold updateCloudState
  rw [returns_bind (run_get _ _), Returns, run_tryCatch, getLockState_run]
  cases cloudReply w s.lockId with
  | ok state => exact iff_of_true rfl (.inl ⟨state, rfl⟩)
  | error e =>
    have hcaught : Returns w (if ¬ e.isException then throw e
        else if d.locked.isNone then pure d else throw .updateFailed)
          (w.move (.queryOpenState s.lockId) s) ↔ d.locked = none ∧ e.isException = true := by
      by_cases he : e.isException = true
      · rw [if_neg fun h => h he]
        by_cases hd : d.locked = none
        · rw [if_pos (Option.isNone_iff_eq_none.mpr hd)]
          exact iff_of_true (returns_pure _ _) ⟨hd, he⟩
        · rw [if_neg fun h => hd (Option.isNone_iff_eq_none.mp h)]
          exact iff_of_false (not_returns_throw _ _) fun h => hd h.1
      · rw [if_pos he]
        exact iff_of_false (not_returns_throw _ _) fun h => he h.2
    refine hcaught.trans ⟨fun h => .inr ⟨h.1, e, rfl, h.2⟩, ?_⟩
    rintro (⟨state, h⟩ | ⟨hd, e', h, he⟩)
    · cases h
    · cases h
      exact ⟨hd, he⟩

/-- The lock is asked with the data that the poll has begun with. -/
theorem bleReply_of_leaves {s : LockUpdateCoordinator} (hs : Leaves (fun _ => False) c s) :
    bleReply w s = bleReply w c := by
  unfold bleReply
  rw [hs.reachable.1, hs.reachable.2, hs.credentials id, hs.data]

/-- Without an answer of the lock the cloud is asked, unless the webhook is relied on. -/
theorem returns_unanswered {s : LockUpdateCoordinator} (hs : Leaves (fun _ => False) c s)
    (hd : d.locked = c.data.locked) :
    Returns w (do
        let c ← get
        if c.webhookOnlyActive ∧ d.locked.isSome then pure d else updateCloudState d) s ↔
      (c.webhookOnlyActive = true ∧ c.data.locked.isSome = true) ∨
        (∃ state, cloudReply w c.lockId = .ok state) ∨
        c.data.locked = none ∧ ∃ e, cloudReply w c.lockId = .error e ∧ e.isException = true := by
  rw [returns_bind (run_get _ _), ← hd, ← hs.webhookOnlyActive, ← hs.lockId]
  by_cases hw : s.webhookOnlyActive ∧ d.locked.isSome
  · rw [if_pos hw]
    exact iff_of_true (returns_pure _ _) (.inl hw)
  · rw [if_neg hw, returns_updateCloudState]
    exact (or_iff_right hw).symm

theorem returns_updateState {s : LockUpdateCoordinator} (hs : Leaves (fun _ => False) c s)
    (hd : d.locked = c.data.locked) : Returns w (updateState d) s ↔ StateAnswers w c := by
  obtain ⟨s', hl, hrun⟩ := asyncReadStateBle_run (w := w) s
  have hcloud := returns_unanswered (w := w) (hs.trans hl) hd
  unfold updateState StateAnswers BleBreaks BleTells
  rw [bleReply_of_leaves hs] at hrun
  cases hr : bleReply w c with
  | none =>
    rw [hr] at hrun
    rw [returns_bind hrun]
    refine hcloud.trans ⟨fun h => ⟨nofun, .inr h⟩, fun h => h.2.resolve_left nofun⟩
  | some r =>
    rw [hr] at hrun
    cases r with
    | error e =>
      by_cases he : e.isBleError ∨ e.isProtocolError
      · dsimp only at hrun
        rw [if_pos he] at hrun
        rw [returns_bind hrun]
        refine hcloud.trans ⟨fun h => ⟨?_, .inr h⟩, fun h => h.2.resolve_left nofun⟩
        rintro ⟨e', h, hn⟩
        cases h
        exact hn he
      · dsimp only at hrun
        rw [if_neg he] at hrun
        exact iff_of_false (not_returns_bind hrun) fun h => h.1 ⟨e, rfl, he⟩
    | ok data =>
      rw [returns_bind hrun]
      cases hk : (LockStatus.parse data).locked with
      | some locked =>
        simp only [Option.bind_some, hk, Option.map_some]
        refine iff_of_true (returns_pure _ _) ⟨?_, .inl ⟨data, rfl, by rw [hk]; rfl⟩⟩
        rintro ⟨e, h, _⟩
        cases h
      | none =>
        simp only [Option.bind_some, hk, Option.map_none]
        refine hcloud.trans ⟨fun h => ⟨?_, .inr h⟩, fun h => h.2.resolve_left ?_⟩
        · rintro ⟨e, h, _⟩
          cases h
        · rintro ⟨data', h, hn⟩
          cases h
          rw [hk] at hn
          cases hn

/-- The sensor's tier leaves the state of the lock alone. -/
theorem updateSensor_locked {s s' : LockUpdateCoordinator} {d' : LockState}
    (h : (updateSensor d).run w.answer s = (.ok d', s')) : d'.locked = d.locked := by
  -- both ways to the sensor end by putting it into the data
  have hput (p : Method SensorData)
      (h : (p >>= fun sensor => pure { d with sensor := some sensor }).run w.answer s =
        (.ok d', s')) : d'.locked = d.locked := by
    rw [run_bind] at h
    split at h
    · cases h
      rfl
    · cases h
  unfold updateSensor at h
  by_cases hf : d.features.has doorSensorBit = true
  · rw [if_pos hf] at h
    dsimp only at h
    by_cases hp : (d.sensor.getD {}).present = true
    · rw [if_pos hp] at h
      exact hput _ h
    · rw [if_neg hp] at h
      exact hput _ h
  · rw [if_neg hf] at h
    cases h
    rfl

/-- The calls between the details and the other groups succeed. -/
def Observed (w : World) (c : LockUpdateCoordinator) : Prop :=
  SensorAnswers w c ∧ StateAnswers w c

theorem returns_observe (c : LockUpdateCoordinator) :
    Returns w (observe c.data) c ↔ Observed w c := by
  have hl : Leaves (fun _ => False) c ((updateSensor c.data).run w.answer c).2 :=
    updateSensor_spares _ c
  unfold observe Observed
  rw [← returns_updateSensor]
  cases hr : (updateSensor c.data).run w.answer c with
  | mk r s =>
    rw [hr] at hl
    have hret : Returns w (updateSensor c.data) c ↔ r.toBool = true := by rw [Returns, hr]
    cases r with
    | ok d =>
      rw [returns_bind hr, returns_updateState hl (updateSensor_locked hr)]
      exact (and_iff_right (hret.mpr rfl)).symm
    | error e =>
      exact iff_of_false (not_returns_bind hr) fun h => Bool.false_ne_true (hret.mp h.1)

/-! ### A failed poll -/

/-- **Nothing that was due has been fetched when the poll fails**: the first of the groups that is
due fails itself, or one of the steps in front of it does. -/
structure NothingFetched (w : World) (c : LockUpdateCoordinator) : Prop where
  details : Due c .details → ¬ Arrives w c.lockId .details
  passage : ¬ Due c .details → Observed w c → Due c .passage → ¬ Arrives w c.lockId .passage
  gateways : ¬ Due c .details → Observed w c → ¬ Due c .passage → Due c .gateways →
    ¬ Arrives w c.lockId .gateways

/-- The coordinator is left as it was: the data, and when each group was last fetched. -/
def LeftAsItWas (c c' : LockUpdateCoordinator) : Prop :=
  c'.data = c.data ∧ ∀ g, stamp g c' = stamp g c

theorem Leaves.leftAsItWas (h : Leaves (fun _ => False) c c') : LeftAsItWas c c' :=
  ⟨h.data, fun g => h.stamps g id⟩

/-- A group that has been fetched keeps its new stamp. -/
theorem not_leftAsItWas {g : Group} {s : LockUpdateCoordinator} (hdue : Due c g)
    (hs : stamp g s = some c.now) (h : Leaves (· ≠ g) s c') : ¬ LeftAsItWas c c' := by
  intro hleft
  refine hdue.stamp_ne ?_
  rw [← hleft.2 g, h.stamps g fun hg => hg rfl, hs]

/-- The gateways and the codes, in a state that is as the poll found it. -/
theorem gatewaysFailed_iff {s : LockUpdateCoordinator} {e : PyError}
    (hs : Leaves (fun _ => False) c s)
    (h : (updateGateways c.now d >>= updateCodes c.now).run w.answer s =
      (.error e, c')) :
    LeftAsItWas c c' ↔ (Due c .gateways → ¬ Arrives w c.lockId .gateways) := by
  rw [run_bind] at h
  have hf := updateGateways_fetch (w := w) c.now d s
  generalize (updateGateways c.now d).run w.answer s = out at h hf
  cases hf with
  | idle hn =>
    have hc := updateCodes_failed h
    refine iff_of_true (hs.trans hc).leftAsItWas fun hdue => ?_
    exact absurd ((hs.due_iff _).mpr hdue) hn
  | failed hdue ha hl =>
    cases h
    exact iff_of_true (hs.trans hl).leftAsItWas fun _ => hs.lockId ▸ ha
  | @fetched d s' hdue ha hl hst =>
    have hc := updateCodes_spares (w := w) c.now d s'
    dsimp only at h
    rw [h] at hc
    refine iff_of_false (not_leftAsItWas ((hs.due_iff _).mp hdue) hst ?_) fun hn => ?_
    · exact hc.mono fun g hg => by rw [hg]; simp
    · exact hn ((hs.due_iff _).mp hdue) (hs.lockId ▸ ha)

/-- The groups behind the state of the lock. -/
theorem restFailed_iff {s : LockUpdateCoordinator} {e : PyError} (hs : Leaves (fun _ => False) c s)
    (h : (updatePassage c.now d >>= fun d =>
      updateGateways c.now d >>= updateCodes c.now).run w.answer s =
        (.error e, c')) :
    LeftAsItWas c c' ↔ (Due c .passage → ¬ Arrives w c.lockId .passage) ∧
      (¬ Due c .passage → Due c .gateways → ¬ Arrives w c.lockId .gateways) := by
  rw [run_bind] at h
  have hf := updatePassage_fetch (w := w) c.now d s
  generalize (updatePassage c.now d).run w.answer s = out at h hf
  cases hf with
  | idle hn =>
    have hnd : ¬ Due c .passage := fun hdue => hn ((hs.due_iff _).mpr hdue)
    rw [gatewaysFailed_iff hs h]
    exact ⟨fun hg => ⟨fun hd => absurd hd hnd, fun _ => hg⟩, fun hg => hg.2 hnd⟩
  | failed hdue ha hl =>
    cases h
    have hd := (hs.due_iff _).mp hdue
    refine iff_of_true (hs.trans hl).leftAsItWas ⟨fun _ => ?_, fun hn => absurd hd hn⟩
    exact hs.lockId ▸ ha
  | @fetched d s' hdue ha hl hst =>
    have hd := (hs.due_iff _).mp hdue
    have hrest (d : LockState) : Spares w (· ≠ .passage) (updateGateways c.now d >>=
        updateCodes c.now) := by
      refine spares_bind (fun s => ?_) fun d s => ?_
      · exact (updateGateways_spares _ _ s).mono fun g hg => by rw [hg]; simp
      · exact (updateCodes_spares _ _ s).mono fun g hg => by rw [hg]; simp
    have hc := hrest d s'
    dsimp only at h
    rw [h] at hc
    refine iff_of_false (not_leftAsItWas hd hst hc) fun hn => ?_
    exact hn.1 hd (hs.lockId ▸ ha)

/-- The steps between the details and the other groups are run as one. -/
theorem run_observe (f : LockState → Method LockState) (d : LockState) (s : LockUpdateCoordinator) :
    (updateSensor d >>= fun d => updateState d >>= f).run w.answer s =
      (observe d >>= f).run w.answer s := by
  unfold observe
  rw [run_bind, run_bind, run_bind]
  split
  · rw [run_bind]
  · rfl

/-- The steps behind the details spare their stamp. -/
theorem behindDetails_spares (t : LocalTime) (d : LockState) : Spares w (· ≠ .details)
    (updateSensor d >>= fun d => updateState d >>= fun d => updatePassage t d >>= fun d =>
      updateGateways t d >>= updateCodes t) := by
  refine spares_bind (updateSensor_spares _) fun d => spares_bind (updateState_spares _) fun d => ?_
  refine spares_bind (fun s => ?_) fun d => spares_bind (fun s => ?_) fun d s => ?_
  · exact (updatePassage_spares _ _ s).mono fun g hg => by rw [hg]; simp
  · exact (updateGateways_spares _ _ s).mono fun g hg => by rw [hg]; simp
  · exact (updateCodes_spares _ _ s).mono fun g hg => by rw [hg]; simp

theorem updateDetails_of_not_due (hdue : ¬ Due c .details) :
    (updateDetails c.now c.data).run w.answer c = (.ok c.data, c) := by
  have hn : ¬ c.slowTierDue c.detailsLastFetched c.now = true := fun h =>
    hdue ⟨h, nofun⟩
  unfold updateDetails
  rw [run_bind, run_get]
  simp only [hn]
  rfl

theorem fetchAllFailed_iff {e : PyError} (h : fetchAll.run w.answer c = (.error e, c')) :
    LeftAsItWas c c' ↔ NothingFetched w c := by
  have hrun : (updateDetails c.now c.data >>= fun d => updateSensor d >>= fun d =>
      updateState d >>= fun d => updatePassage c.now d >>= fun d =>
        updateGateways c.now d >>= updateCodes c.now).run w.answer c =
          (.error e, c') := h
  rw [run_bind] at hrun
  by_cases hdue : Due c .details
  · have hf := updateDetails_fetch (w := w) c.now c.data c
    generalize (updateDetails c.now c.data).run w.answer c = out at hrun hf
    cases hf with
    | idle hn => exact absurd hdue hn
    | failed _ ha hl =>
      cases hrun
      exact iff_of_true hl.leftAsItWas
        ⟨fun _ => ha, fun hn => absurd hdue hn, fun hn => absurd hdue hn⟩
    | @fetched d s' _ ha hl hst =>
      have hc := behindDetails_spares (w := w) c.now d s'
      dsimp only at hrun
      rw [hrun] at hc
      exact iff_of_false (not_leftAsItWas hdue hst hc) fun hn => hn.details hdue ha
  · rw [updateDetails_of_not_due hdue] at hrun
    dsimp only at hrun
    rw [run_observe, run_bind] at hrun
    have ho : Leaves (fun _ => False) c ((observe c.data).run w.answer c).2 :=
      spares_bind (updateSensor_spares _) (fun d => updateState_spares _) c
    cases hr : (observe c.data).run w.answer c with
    | mk r s =>
      rw [hr] at hrun ho
      cases r with
      | error e' =>
        cases hrun
        have hn : ¬ Observed w c := by
          rw [← returns_observe, Returns, hr]
          exact Bool.false_ne_true
        exact iff_of_true ho.leftAsItWas
          ⟨fun hd => absurd hd hdue, fun _ h => absurd h hn, fun _ h => absurd h hn⟩
      | ok d =>
        have hobs : Observed w c := by
          rw [← returns_observe, Returns, hr]
          rfl
        rw [restFailed_iff ho hrun]
        constructor
        · rintro ⟨h1, h2⟩
          exact ⟨fun hd => absurd hd hdue, fun _ _ => h1, fun _ _ => h2⟩
        · intro hn
          exact ⟨hn.passage hdue hobs, hn.gateways hdue hobs⟩

/-- **When a failed poll leaves the coordinator able to retry.** A poll that raises `UpdateFailed`
leaves the data and the stamps as they were if and only if the lock is not connectable or nothing
that was due had been fetched. -/
theorem failedPoll_leftAsItWas_iff
    (h : asyncUpdateData.run w.answer c = (.error .updateFailed, c')) :
    LeftAsItWas c c' ↔ (c.connectable = true → NothingFetched w c) := by
  unfold asyncUpdateData at h
  rw [run_bind, run_get] at h
  by_cases hc : c.connectable = true
  · simp only [hc, not_true_eq_false, if_false] at h
    rw [run_tryCatch] at h
    cases hf : fetchAll.run w.answer c with
    | mk r s =>
      rw [hf] at h
      cases r with
      | ok d => cases h
      | error e =>
        have hs : s = c' := by
          dsimp only at h
          split_ifs at h <;> exact congrArg Prod.snd h
        rw [fetchAllFailed_iff (hs ▸ hf)]
        exact ⟨fun h _ => h, fun h => h hc⟩
  · simp only [hc] at h
    cases h
    exact iff_of_true ⟨rfl, fun _ => rfl⟩ fun h => absurd h hc

/-! ### First polls that fail -/

/-- All calls succeed but this one. -/
def worldWithout (q₀ : Request) : World where
  reply q := if q = q₀ then .error .requestFailed else sampleReply q
  move _ c := c
  leaves _ c := .refl c

/-- A first poll, where this call fails. -/
def pollWithout (q₀ : Request) : Except PyError LockState × LockUpdateCoordinator :=
  asyncUpdateData.run (worldWithout q₀).answer sampleCoordinator

/-- **Details that were thrown away count as fetched**: here the call for the passage mode fails. -/
theorem passage_fails_details_stamped :
    ¬ ∀ (w : World) (c c' : LockUpdateCoordinator),
      asyncUpdateData.run w.answer c = (.error .updateFailed, c') → LeftAsItWas c c' := by
  intro h
  have hstamp := (h (worldWithout (.passageModeConfig 1)) sampleCoordinator
    (pollWithout (.passageModeConfig 1)).2 rfl).2 .details
  revert hstamp
  decide

/-- A poll whose first call fails can be retried. -/
theorem details_fail_leftAsItWas :
    LeftAsItWas sampleCoordinator (pollWithout (.detail 1)).2 := by
  refine (failedPoll_leftAsItWas_iff (w := worldWithout (.detail 1)) rfl).mpr fun _ => ?_
  have hdue : Due sampleCoordinator .details := ⟨by decide, nofun⟩
  refine ⟨fun _ => ?_, fun hn => absurd hdue hn, fun hn => absurd hdue hn⟩
  rintro ⟨details, features, h, _⟩
  cases h

end TTLockConnect.Coordinator.Retry
