import TTLockConnect.Async.Requests
import TTLockConnect.Coordinator.Overwrite

/-! # What a coordinator asks for

Every call that a task of a coordinator makes, in the state in which it makes it: which tasks ask for
what, that they name their own lock, that the slow tiers ask only when they are due, that a lock is
approached over Bluetooth only in range and with the credentials known by then, and that the state of
the lock is asked of the cloud only where webhook-only mode does not forbid it.

The moment is that of the call. A method of the client may wait for `GW_LOCK`, and for a fresh token,
before its HTTP request goes out, and what held at the call may have ceased to hold by then. -/

namespace TTLockConnect.Coordinator.Asked

open TTLockConnect.Text TTLockConnect.Models TTLockConnect.Ble.Protocol TTLockConnect.Api
open TTLockConnect.Coordinator.State TTLockConnect.Coordinator.Poll TTLockConnect.Coordinator.Writers
open TTLockConnect.Coordinator.Overwrite
open TTLockConnect.Async.Coroutine TTLockConnect.Async.Coroutine.Coro TTLockConnect.Async.Runs
open TTLockConnect.Async.EventLoop TTLockConnect.Async.Requests

/-- Which job asks for what. -/
def Job.asks : Job → Request → Bool
  | .refresh, .detail _ | .refresh, .doorSensor _ | .refresh, .queryOpenState _
  | .refresh, .passageModeConfig _ | .refresh, .listByLock _ | .refresh, .listKeyboardPwd _
  | .refresh, .listKey _ | .refresh, .queryLockStatus _ _ _ _ | .refresh, .storeLoad
  | .refresh, .storeSave => true
  | .refreshCodes, .listKeyboardPwd _ | .refreshCodes, .listKey _ => true
  | .autoLocked _ _, .sleep _ => true
  | .lock, .lock _ => true
  | .unlock, .unlock _ => true
  | .setAutoLock on, .setAutoLockTime _ seconds => seconds = if on then 10 else 0
  | .setLockSound on, .updateSetting _ value => value = if on then 1 else 2
  | _, _ => false

/-- What a request of a coordinator `c` satisfies: `born` is the coordinator as it was when the task
was started, `s` as it is when the method that makes the request is called. -/
def Proper (c born s : LockUpdateCoordinator) : Request → Prop
  | .detail id =>
    id = c.lockId ∧ c.connectable = true ∧ s.slowTierDue s.detailsLastFetched born.now = true
  | .doorSensor id => id = c.lockId ∧ c.connectable = true
  | .queryOpenState id =>
    id = c.lockId ∧ c.connectable = true ∧ (born.data.locked.isSome → s.webhookOnlyActive = false)
  | .passageModeConfig id =>
    id = c.lockId ∧ c.connectable = true ∧ s.slowTierDue s.passageLastFetched born.now = true
  | .listByLock id =>
    id = c.lockId ∧ c.connectable = true ∧ s.hasGateway = true ∧
      s.slowTierDue s.gatewaysLastFetched born.now = true
  | .listKeyboardPwd id | .listKey id | .lock id | .unlock id | .setAutoLockTime id _
  | .updateSetting id _ => id = c.lockId
  | .queryLockStatus address name version aesKey =>
    c.connectable = true ∧ s.bluetoothAvailable = true ∧ s.inRange = true ∧
      address = s.data.mac ∧ name = s.data.name ∧ s.bleCredentials = some (version, aesKey)
  | .storeLoad | .storeSave => True
  | .sleep delay => 0 < delay

/-- What no task changes of a coordinator, and what none forgets: that it knows whether the lock is
locked. -/
structure Lasting (c s : LockUpdateCoordinator) : Prop where
  lockId : s.lockId = c.lockId
  connectable : s.connectable = c.connectable
  known : c.data.locked.isSome → s.data.locked.isSome

/-- A request of job `w`. -/
def Justified (c : LockUpdateCoordinator) (w : Job) (born s : LockUpdateCoordinator)
    (q : Request) : Prop := Lasting c born ∧ Job.asks w q = true ∧ Proper c born s q

variable {c born s : LockUpdateCoordinator} {d : LockState} {now : LocalTime}

/-- A tier of a poll: what it returns knows the state that was known. -/
def Keeps (c : LockUpdateCoordinator) (d : LockState) (s : LockUpdateCoordinator)
    (r : Except PyError LockState) : Prop :=
  Lasting c s ∧ ∀ d', r = .ok d' → d'.locked = d.locked

/-- A coroutine of a poll. -/
abbrev Polls {α : Type} (c born : LockUpdateCoordinator)
    (Q : LockUpdateCoordinator → Except PyError α → Prop) (p : Method α)
    (s : LockUpdateCoordinator) : Prop := Sends (Lasting c) (Justified c .refresh born) Q p s

theorem keeps_ok {d' : LockState} (hs : Lasting c s) (h : d'.locked = d.locked) :
    Keeps c d s (.ok d') := by
  refine ⟨hs, fun d'' heq => ?_⟩
  injection heq with heq
  rw [← heq, h]

theorem keeps_error {e : PyError} (hs : Lasting c s) : Keeps c d s (.error e) :=
  ⟨hs, fun _ h => nomatch h⟩

/-- A coordinator whose lock, connectivity and knowledge are those of `s`. -/
theorem Lasting.congr {s' : LockUpdateCoordinator} (h : Lasting c s) (hid : s'.lockId = s.lockId)
    (hconn : s'.connectable = s.connectable)
    (hknown : s.data.locked.isSome → s'.data.locked.isSome) : Lasting c s' :=
  ⟨hid.trans h.lockId, hconn.trans h.connectable, fun hc => hknown (h.known hc)⟩

/-- A request of a poll. -/
theorem polls_call {q : Request} {Q : LockUpdateCoordinator → Except PyError (Reply q) → Prop}
    (hb : Lasting c born) (hs : Lasting c s) (hask : Job.asks .refresh q = true)
    (hq : Proper c born s q) (h : ∀ r s', Lasting c s' → Q s' r) :
    Polls c born Q (request q) s := sends_call ⟨hb, hask, hq⟩ hs h

theorem polls_call_bind {α : Type} {q : Request}
    {Q : LockUpdateCoordinator → Except PyError α → Prop} {f : Reply q → Method α}
    (hb : Lasting c born) (hs : Lasting c s) (hask : Job.asks .refresh q = true)
    (hq : Proper c born s q) (herr : ∀ e s', Lasting c s' → Q s' (.error e))
    (hok : ∀ a s', Lasting c s' → Polls c born Q (f a) s') :
    Polls c born Q (request q >>= f) s := sends_call_bind ⟨hb, hask, hq⟩ hs herr hok

/-- A part of a poll that only lasts. -/
theorem Polls.then {α β : Type} {Q : LockUpdateCoordinator → Except PyError β → Prop} {p : Method α}
    {f : α → Method β} (hp : Polls c born (fun s _ => Lasting c s) p s)
    (hok : ∀ a s', Lasting c s' → Polls c born Q (f a) s')
    (herr : ∀ e s', Lasting c s' → Q s' (.error e)) : Polls c born Q (p >>= f) s :=
  Sends.bind hp (fun s a h => hok a s h) fun s e h => herr e s h

/-! ### The slow tiers -/

theorem updateDetails_polls (hb : Lasting c born) (hconn : c.connectable = true)
    (hs : Lasting c s) : Polls c born (Keeps c d) (updateDetails born.now d) s := by
  unfold updateDetails
  refine sends_get_bind (sends_ite (fun hdue => ?_) fun _ => keeps_ok hs rfl)
  refine polls_call_bind hb hs rfl ⟨hs.lockId, hconn, hdue⟩ (fun _ _ => keeps_error) ?_
  intro details s' hs'
  refine Polls.then (sends_fromExcept hs') (fun features s h => ?_) fun _ _ => keeps_error
  exact sends_modify_bind (keeps_ok (h.congr rfl rfl id) rfl)

theorem updatePassage_polls (hb : Lasting c born) (hconn : c.connectable = true)
    (hs : Lasting c s) : Polls c born (Keeps c d) (updatePassage born.now d) s := by
  unfold updatePassage
  refine sends_get_bind (sends_ite (fun hdue => ?_) fun _ => keeps_ok hs rfl)
  refine polls_call_bind hb hs rfl ⟨hs.lockId, hconn, hdue⟩ (fun _ _ => keeps_error) ?_
  intro config s' hs'
  exact sends_modify_bind (keeps_ok (hs'.congr rfl rfl id) rfl)

theorem updateGateways_polls (hb : Lasting c born) (hconn : c.connectable = true)
    (hs : Lasting c s) : Polls c born (Keeps c d) (updateGateways born.now d) s := by
  unfold updateGateways
  refine sends_get_bind (sends_ite (fun hg => sends_ite (fun hdue => ?_) fun _ => keeps_ok hs rfl)
    fun _ => keeps_ok hs rfl)
  refine Polls.then (p := getGatewaysForLock s.lockId) ?_ (fun gateways s' hs' => ?_)
    fun _ _ => keeps_error
  · exact polls_call_bind hb hs rfl ⟨hs.lockId, hconn, hg, hdue⟩ (fun _ _ => id) fun _ _ => id
  · exact sends_modify_bind (keeps_ok (hs'.congr rfl rfl id) rfl)

theorem updateCodes_polls (hb : Lasting c born) (hs : Lasting c s) :
    Polls c born (Keeps c d) (updateCodes now d) s := by
  unfold updateCodes
  refine sends_get_bind (sends_ite (fun _ => ?_) fun _ => keeps_ok hs rfl)
  refine polls_call_bind hb hs rfl hs.lockId (fun _ _ => keeps_error) fun passcodes s₁ h₁ => ?_
  refine polls_call_bind hb h₁ rfl hs.lockId (fun _ _ => keeps_error) fun ekeys s₂ h₂ => ?_
  exact sends_modify_bind (keeps_ok (h₂.congr rfl rfl id) rfl)

/-! ### The door sensor -/

theorem storeGet_polls (hb : Lasting c born) (hs : Lasting c s) :
    Polls c born (fun s _ => Lasting c s) storeGet s :=
  polls_call_bind hb hs rfl trivial (fun _ _ => id) fun _ _ h => sends_get_bind h

theorem storeUpdate_polls (update : StoreRecord → StoreRecord) (hb : Lasting c born)
    (hs : Lasting c s) : Polls c born (fun s _ => Lasting c s) (storeUpdate update) s := by
  refine polls_call_bind hb hs rfl trivial (fun _ _ => id) fun _ s' h => ?_
  exact sends_modify_bind (polls_call hb (h.congr rfl rfl id) rfl trivial fun _ _ => id)

theorem refreshSensor_polls (sensor : SensorData) (hb : Lasting c born)
    (hconn : c.connectable = true) (hs : Lasting c s) :
    Polls c born (fun s _ => Lasting c s) (refreshSensor sensor) s := by
  unfold refreshSensor getSensor
  refine sends_get_bind (Polls.then ?_ (fun _ _ h => h) fun _ _ => id)
  refine sends_tryCatch (Q := fun s _ => Lasting c s) (fun _ _ => id) (fun s e h => ?_) _ ?_
  · exact sends_ite (fun _ => h) fun _ => h
  · exact polls_call_bind hb hs rfl ⟨hs.lockId, hconn⟩ (fun _ _ => id) fun _ _ => id

theorem probeSensor_polls (stored : StoreRecord) (sensor : SensorData) (hb : Lasting c born)
    (hconn : c.connectable = true) (hs : Lasting c s) :
    Polls c born (fun s _ => Lasting c s) (probeSensor stored sensor) s := by
  unfold probeSensor
  refine Polls.then (refreshSensor_polls sensor hb hconn hs) ?_ fun _ _ => id
  rintro ⟨_ | result, sensor⟩ s₁ h₁
  · refine sends_ite (fun _ => h₁) fun _ => ?_
    dsimp only
    split_ifs
    · refine sends_modify_bind (sends_get_bind ?_)
      exact Polls.then (storeUpdate_polls _ hb (h₁.congr rfl rfl id)) (fun _ _ => id) fun _ _ => id
    · refine sends_get_bind ?_
      exact Polls.then (storeUpdate_polls _ hb h₁) (fun _ _ => id) fun _ _ => id
  · exact Polls.then (storeUpdate_polls _ hb h₁) (fun _ _ => id) fun _ _ => id

theorem checkForSensor_polls (sensor : SensorData) (hb : Lasting c born)
    (hconn : c.connectable = true) (hs : Lasting c s) :
    Polls c born (fun s _ => Lasting c s) (checkForSensor sensor) s := by
  unfold checkForSensor
  refine Polls.then (storeGet_polls hb hs) (fun stored s₁ h₁ => ?_) fun _ _ => id
  refine sends_ite (fun _ => sends_get_bind (sends_ite (fun _ => h₁) fun _ => ?_)) fun _ => ?_
  · exact sends_modify_bind (probeSensor_polls stored sensor hb hconn (h₁.congr rfl rfl id))
  · refine sends_get_bind (sends_ite (fun _ => h₁) fun _ => ?_)
    exact probeSensor_polls stored sensor hb hconn h₁

theorem updatePresentSensor_polls (sensor : SensorData) (hb : Lasting c born)
    (hconn : c.connectable = true) (hs : Lasting c s) :
    Polls c born (fun s _ => Lasting c s) (updatePresentSensor sensor) s := by
  unfold updatePresentSensor
  refine sends_get_bind (sends_ite (fun _ => hs) fun _ => ?_)
  refine Polls.then (refreshSensor_polls sensor hb hconn hs) ?_ fun _ _ => id
  rintro ⟨_ | result, sensor⟩ s₁ h₁ <;> exact h₁

theorem updateSensor_polls (hb : Lasting c born) (hconn : c.connectable = true)
    (hs : Lasting c s) : Polls c born (Keeps c d) (updateSensor d) s := by
  unfold updateSensor
  refine sends_ite (fun _ => sends_ite (fun _ => ?_) fun _ => ?_) fun _ => keeps_ok hs rfl
  · exact Polls.then (updatePresentSensor_polls _ hb hconn hs) (fun _ _ h => keeps_ok h rfl)
      fun _ _ => keeps_error
  · exact Polls.then (checkForSensor_polls _ hb hconn hs) (fun _ _ h => keeps_ok h rfl)
      fun _ _ => keeps_error

/-! ### The state of the lock -/

/-- What the tiers after the state return: if it was known it still is. -/
def Knows (c : LockUpdateCoordinator) (d : LockState) (s : LockUpdateCoordinator)
    (r : Except PyError LockState) : Prop :=
  Lasting c s ∧ ∀ d', r = .ok d' → d.locked.isSome → d'.locked.isSome

theorem knows_ok {d' : LockState} (hs : Lasting c s)
    (h : d.locked.isSome → d'.locked.isSome) : Knows c d s (.ok d') := by
  refine ⟨hs, fun d'' heq => ?_⟩
  injection heq with heq
  rw [← heq]
  exact h

theorem knows_error {e : PyError} (hs : Lasting c s) : Knows c d s (.error e) :=
  ⟨hs, fun _ h => nomatch h⟩

theorem asyncReadStateBle_polls (hb : Lasting c born) (hconn : c.connectable = true)
    (hs : Lasting c s) : Polls c born (fun s _ => Lasting c s) asyncReadStateBle s := by
  unfold asyncReadStateBle
  refine sends_get_bind (sends_ite (fun _ => hs) fun hnear => ?_)
  obtain ⟨havail, hrange⟩ := not_or.mp hnear
  cases hcred : s.bleCredentials with
  | none => exact hs
  | some credentials =>
    obtain ⟨version, aesKey⟩ := credentials
    refine sends_tryCatch (Q := fun s _ => Lasting c s) (fun _ _ => id) (fun s e h => ?_) _ ?_
    · exact sends_ite (fun _ => h) fun _ => h
    · refine Polls.then ?_ (fun _ _ => id) fun _ _ => id
      refine polls_call_bind hb hs rfl ?_ (fun _ _ => id) fun _ _ => id
      exact ⟨hconn, not_not.mp havail, not_not.mp hrange, rfl, rfl, hcred⟩

theorem updateCloudState_polls (hb : Lasting c born) (hconn : c.connectable = true)
    (hs : Lasting c s) (hactive : born.data.locked.isSome → s.webhookOnlyActive = false) :
    Polls c born (Knows c d) (updateCloudState d) s := by
  unfold updateCloudState
  refine sends_get_bind (sends_tryCatch (Q := Knows c d) (fun _ _ => id) (fun s e h => ?_) _ ?_)
  · refine sends_ite (fun _ => knows_error h.1) fun _ => ?_
    exact sends_ite (fun _ => knows_ok h.1 id) fun _ => knows_error h.1
  · refine Polls.then (p := getLockState s.lockId) ?_ (fun state s' h => ?_)
      fun _ _ => knows_error
    · refine polls_call_bind hb hs rfl ⟨hs.lockId, hconn, hactive⟩ (fun _ _ => id) fun _ _ h => ?_
      exact sends_fromExcept h
    · exact knows_ok h fun _ => rfl

theorem updateState_polls (hb : Lasting c born) (hconn : c.connectable = true)
    (hs : Lasting c s) (hd : d.locked = born.data.locked) :
    Polls c born (Knows c d) (updateState d) s := by
  unfold updateState
  refine Polls.then (asyncReadStateBle_polls hb hconn hs) (fun status s₁ h₁ => ?_)
    fun _ _ => knows_error
  split
  · exact knows_ok h₁ fun _ => rfl
  · refine sends_get_bind (sends_ite (fun _ => knows_ok h₁ id) fun hoff => ?_)
    refine updateCloudState_polls hb hconn h₁ fun hborn => ?_
    rw [← hd] at hborn
    exact Bool.not_eq_true _ ▸ fun hactive => hoff ⟨hactive, hborn⟩

/-! ### A poll -/

theorem fetchAll_polls (hconn : c.connectable = true) (hs : Lasting c s) :
    Polls c s (Knows c s.data) fetchAll s := by
  unfold fetchAll
  refine sends_get_bind ?_
  refine (updateDetails_polls hs hconn hs).bind (fun s₁ d₁ h₁ => ?_) fun _ _ h => knows_error h.1
  refine (updateSensor_polls hs hconn h₁.1).bind (fun s₂ d₂ h₂ => ?_) fun _ _ h => knows_error h.1
  have hd₂ : d₂.locked = s.data.locked := (h₂.2 d₂ rfl).trans (h₁.2 d₁ rfl)
  refine (updateState_polls hs hconn h₂.1 hd₂).bind (fun s₃ d₃ h₃ => ?_)
    fun _ _ h => knows_error h.1
  refine (updatePassage_polls hs hconn h₃.1).bind (fun s₄ d₄ h₄ => ?_) fun _ _ h => knows_error h.1
  refine (updateGateways_polls hs hconn h₄.1).bind (fun s₅ d₅ h₅ => ?_)
    fun _ _ h => knows_error h.1
  have hd₅ : d₅.locked = d₃.locked := (h₅.2 d₅ rfl).trans (h₄.2 d₄ rfl)
  refine sends_mono (fun s₆ r h₆ => ⟨h₆.1, fun d₆ hr hknown => ?_⟩) _ (updateCodes_polls hs h₅.1)
  have hd₆ : d₆.locked = d₃.locked := (h₆.2 d₆ hr).trans hd₅
  rw [hd₆]
  refine h₃.2 d₃ rfl ?_
  rw [hd₂]
  exact hknown

/-- What every job leaves. -/
abbrev Lasts {α : Type} (c : LockUpdateCoordinator) (s : LockUpdateCoordinator)
    (_ : Except PyError α) : Prop := Lasting c s

theorem asyncRefresh_polls (hs : Lasting c s) : Polls c s (Lasts c) asyncRefresh s := by
  unfold asyncRefresh asyncUpdateData
  refine sends_tryCatch (Q := Lasts c) (fun _ _ => id) (fun s₁ e h => ?_) _ ?_
  · exact sends_ite (fun _ => h.congr rfl rfl id) fun _ => h
  · refine Sends.bind (Q := Knows c s.data) ?_ (fun s₁ d₁ h₁ => ?_) fun _ _ h => h.1
    · refine sends_get_bind (sends_ite (fun _ => knows_error hs) fun hconn => ?_)
      rw [not_not, hs.connectable] at hconn
      refine sends_tryCatch (Q := Knows c s.data) (fun _ _ => id) (fun s₁ e h => ?_) _
        (fetchAll_polls hconn hs)
      exact sends_ite (fun _ => knows_error h.1) fun _ => h
    · exact ⟨h₁.1.lockId, h₁.1.connectable, fun hc => h₁.2 d₁ rfl (hs.known hc)⟩

/-! ### The other jobs -/

theorem asyncRefreshCodes_sends (hs : Lasting c s) :
    Sends (Lasting c) (Justified c .refreshCodes s) (Lasts c) asyncRefreshCodes s := by
  unfold asyncRefreshCodes
  refine sends_get_bind ?_
  refine sends_call_bind ⟨hs, rfl, hs.lockId⟩ hs (fun _ _ => id) fun passcodes s₁ h₁ => ?_
  refine sends_call_bind ⟨hs, rfl, hs.lockId⟩ h₁ (fun _ _ => id) fun ekeys s₂ h₂ => ?_
  exact sends_get_bind ⟨h₂.lockId, h₂.connectable, hs.known⟩

theorem autoLocked_sends (seconds : ℤ) (offset : Duration) (hs : Lasting c s) :
    Sends (Lasting c) (Justified c (.autoLocked seconds offset) s) (Lasts c)
      (autoLocked seconds offset) s := by
  unfold autoLocked
  split_ifs with h
  · refine sends_call_bind ⟨hs, rfl, h.2⟩ hs (fun _ _ => id) fun _ s₁ h₁ => ?_
    exact h₁.congr rfl rfl fun _ => rfl
  · exact hs.congr rfl rfl fun _ => rfl

/-- The flag around a command changes nothing of this. -/
theorem lockAction_sends {w : Job} {body : Method Unit} (hs : Lasting c s)
    (hbody : ∀ s', Lasting c s' → Sends (Lasting c) (Justified c w s) (Lasts c) body s') :
    Sends (Lasting c) (Justified c w s) (Lasts c) (lockAction body) s := by
  unfold lockAction
  refine sends_modify_bind (Sends.bind (Q := Lasts c) ?_ (fun s₁ _ h => ?_) fun _ _ => id)
  · refine sends_tryCatch (Q := Lasts c) (fun _ _ => id) (fun s₁ e h => ?_) _
      (hbody _ (hs.congr rfl rfl id))
    exact sends_modify_bind (h.congr rfl rfl id)
  · exact h.congr rfl rfl id

theorem webhookData_known {event : WebhookEvent} (h : d.locked.isSome) :
    (webhookData event d).locked.isSome := by
  have hstate : (applyEventState event { d with batteryLevel := event.batteryLevel }).locked.isSome := by
    unfold applyEventState
    split <;> split_ifs <;> first | exact h | rfl
  unfold webhookData applyEventSensor
  split_ifs
  · split
    · exact hstate
    · rfl
    · exact hstate
  · exact hstate

theorem webhook_lasting (event : WebhookEvent) (hs : Lasting c s) :
    Lasting c (processWebhookData event s).1 := by
  rw [processWebhookData_fst]
  split_ifs
  · exact hs
  · exact hs.congr rfl rfl webhookData_known

/-- A command sends one request; the reply is taken over or not. -/
theorem command_sends {w : Job} {q : Request} {accepted : Reply q → Bool}
    {g : LockUpdateCoordinator → LockUpdateCoordinator} {s' : LockUpdateCoordinator}
    (hs : Lasting c s) (hs' : Lasting c s') (hask : Job.asks w q = true) (hq : Proper c s s' q)
    (hg : ∀ s₁, Lasting c s₁ → Lasting c (g s₁)) :
    Sends (Lasting c) (Justified c w s) (Lasts c)
      ((request q >>= fun res => pure (accepted res)) >>= fun res =>
        if res then modify g else pure () : Method Unit) s' := by
  refine Sends.bind (Q := Lasts c) ?_ (fun s₁ res h₁ => ?_) fun _ _ => id
  · exact sends_call_bind ⟨hs, hask, hq⟩ hs' (fun _ _ => id) fun _ _ => id
  · exact sends_ite (fun _ => hg s₁ h₁) fun _ => h₁

/-- **What a job sends.** -/
theorem prog_sends (w : Job) (s : LockUpdateCoordinator) (hs : Lasting c s) :
    Sends (Lasting c) (Justified c w s) (fun s _ => Lasting c s) (prog w) s := by
  cases w with
  | refresh => exact asyncRefresh_polls hs
  | refreshCodes => exact asyncRefreshCodes_sends hs
  | autoLocked seconds offset => exact autoLocked_sends seconds offset hs
  | webhook event => exact webhook_lasting event hs
  | lock =>
    refine lockAction_sends hs fun s' hs' => sends_get_bind ?_
    exact command_sends hs hs' rfl hs'.lockId fun s₁ h₁ => h₁.congr rfl rfl fun _ => rfl
  | unlock =>
    refine lockAction_sends hs fun s' hs' => sends_get_bind ?_
    exact command_sends hs hs' rfl hs'.lockId fun s₁ h₁ => h₁.congr rfl rfl fun _ => rfl
  | setAutoLock on =>
    refine sends_get_bind ?_
    exact command_sends hs hs (decide_eq_true rfl) hs.lockId fun s₁ h₁ => h₁.congr rfl rfl id
  | setLockSound on =>
    refine sends_get_bind ?_
    exact command_sends hs hs (decide_eq_true rfl) hs.lockId fun s₁ h₁ => h₁.congr rfl rfl id
  | clock now offsetDayAgo => exact hs.congr rfl rfl id
  | presence inRange => exact hs.congr rfl rfl id
  | webhookStatus status => exact hs.congr rfl rfl id

/-! ### Every run -/

variable {P : Loop} {τ : List (Move Loop LoopLabel)}

/-- **Every call is justified**: in every interleaving of the jobs of a coordinator, each request is
one that its job may make, and satisfies its condition at the moment its method is called. -/
theorem called_proper (hr : Run loopStep (alone c) τ P) :
    ∀ m ∈ τ, ∀ t, sent prog m.src m.label = some t →
      Job.asks t.job t.req = true ∧ Proper c t.born m.dst.shared t.req := by
  have h0 : Lasting c (alone c).shared := ⟨rfl, rfl, id⟩
  obtain ⟨-, hall⟩ := run_sends prog_sends h0 hr
  intro m hm t ht
  exact ((hall m hm).2 t ht).2

/-- A first poll, and a command to open the lock that comes in between. -/
def pollAndUnlock : List LoopLabel :=
  .start .refresh :: .reply 0 sampleReply :: .start .unlock :: List.replicate 6 (.reply 0 sampleReply)

theorem called_proper_pollAndUnlock :
    ((play loopStep (alone sampleCoordinator) pollAndUnlock).1.filterMap fun m =>
        (sent prog m.src m.label).map fun t => t.req) =
      [.detail 1, .queryOpenState 1, .unlock 1, .passageModeConfig 1, .listKeyboardPwd 1,
        .listKey 1] ∧
      ∀ m ∈ (play loopStep (alone sampleCoordinator) pollAndUnlock).1, ∀ t,
        sent prog m.src m.label = some t →
          Job.asks t.job t.req = true ∧ Proper sampleCoordinator t.born m.dst.shared t.req :=
  ⟨by decide, called_proper (run_play _ _)⟩

/-- **Webhook-only mode asks nobody for the state**: once the state of the lock is known it stays
known, and `get_lock_state` is called only at moments at which webhook-only mode is not in force,
however polls, events, commands and changes of the webhook's status interleave. A call that was made
before the webhook was confirmed is not taken back. -/
theorem webhookOnly_quiet (hr : Run loopStep (alone c) τ P) (hknown : c.data.locked.isSome) :
    ∀ m ∈ τ, m.dst.shared.data.locked.isSome ∧
      ∀ t id, sent prog m.src m.label = some t → t.req = .queryOpenState id →
        m.dst.shared.webhookOnlyActive = false := by
  have h0 : Lasting c (alone c).shared := ⟨rfl, rfl, id⟩
  obtain ⟨-, hall⟩ := run_sends prog_sends h0 hr
  intro m hm
  refine ⟨(hall m hm).1.known hknown, fun t id ht hreq => ?_⟩
  obtain ⟨hborn, -, hproper⟩ := (hall m hm).2 t ht
  rw [hreq] at hproper
  exact hproper.2.2 (hborn.known hknown)

/-- A lock known to be open, in webhook-only mode with a webhook that works. -/
def quietLock : LockUpdateCoordinator :=
  { sampleCoordinator with
    webhookOnly := true
    webhookStatus := true
    data := { sampleCoordinator.data with locked := some false } }

/-- A poll that asks for all the rest. -/
def quietPoll : List LoopLabel := .start .refresh :: List.replicate 4 (.reply 0 sampleReply)

theorem webhookOnly_quiet_poll :
    (play loopStep (alone quietLock) quietPoll).1.length = 5 ∧
      (play loopStep (alone quietLock) quietPoll).2.tasks.length = 0 ∧
      ∀ m ∈ (play loopStep (alone quietLock) quietPoll).1, m.dst.shared.data.locked.isSome ∧
        ∀ t id, sent prog m.src m.label = some t → t.req = .queryOpenState id →
          m.dst.shared.webhookOnlyActive = false :=
  ⟨by decide, by decide, webhookOnly_quiet (run_play _ _) rfl⟩

end TTLockConnect.Coordinator.Asked
