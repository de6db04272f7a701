import TTLockConnect.Async.Script
import TTLockConnect.Cloud.Client
import TTLockConnect.Services.Cleanup

/-! # The services that change locks

The handlers of `Services` that change something on the selected locks or in the account: the passage
mode and the auto-lock, passcodes, cards, fingerprints and ekeys. Each goes through the coordinators
of the selected entities one after the other; for each it calls one method of the API client, and then
it notes what was accepted, or has the codes of the lock listed again. The start and end of a period
are given as milliseconds. -/

namespace TTLockConnect.Services.Commands

open TTLockConnect.Text TTLockConnect.Models
open TTLockConnect.Coordinator.State TTLockConnect.Coordinator.Poll
open TTLockConnect.Cloud.Client (MethodCall AddPasscodeConfig)
open TTLockConnect.Services.Cleanup (EntityId Hass oneLock)
open TTLockConnect.Async.Coroutine TTLockConnect.Async.Coroutine.Coro TTLockConnect.Async.Component
open TTLockConnect.Async.Runs TTLockConnect.Async.EventLoop TTLockConnect.Async.Script

variable {n : ℕ}

/-! ### Requests -/

/-- What a method of the API client that changes something returns. -/
abbrev Returned : MethodCall → Type
  | .sendEkey .. => Option ℤ
  | .deleteEkey _ | .freezeEkey _ | .unfreezeEkey _ | .setEkeyPeriod .. | .modifyEkey .. => Unit
  | _ => Bool

/-- What is awaited. -/
inductive Request (n : ℕ) where
  /-- a call of a coordinator -/
  | coordinator (i : Fin n) (q : Api.Request)
  /-- a call of a method of `coordinator.api` -/
  | client (i : Fin n) (m : MethodCall)
  deriving DecidableEq, Repr

/-- The reply to a request. -/
abbrev Reply : Request n → Type
  | .coordinator _ q => Api.Reply q
  | .client _ m => Returned m

/-- A coroutine of a service. -/
abbrev Handler (n : ℕ) (α : Type) := Coro (Hass n) (Request n) Reply PyError α

/-- Where the coordinators are. -/
def place (i : Fin n) : Place (Hass n) LockUpdateCoordinator where
  get s := s.coordinators i
  put c s := s.setCoordinator i c
  get_put _ _ := Function.update_self ..
  put_put _ _ s := congrArg (fun cs => { s with coordinators := cs }) (Function.update_idem ..)
  put_get s := congrArg (fun cs => { s with coordinators := cs }) (Function.update_eq_self i _)

/-- A method of coordinator `i`, awaited by a service. -/
def onCoordinator {α : Type} (i : Fin n) (p : Method α) : Handler n α :=
  within (place i) (.coordinator i) (fun _ => id) p

/-- `coordinator.data` after an assignment to attributes of it. -/
def updateData (i : Fin n) (update : LockState → LockState) (s : Hass n) : Hass n :=
  s.setCoordinator i { s.coordinators i with data := update (s.coordinators i).data }

/-! ### The selected locks -/

/-- For every selected entity, one after the other. -/
def forEach (entityIds : List EntityId) (body : EntityId × Fin n → ℤ → Handler n Unit) :
    Handler n Unit := do
  let s ← get
  forM (s.getCoordinators entityIds) fun e => do
    let s ← get
    body e (s.lockId e.2)

/-- `_first_coordinator`: for the first of them. -/
def forFirst (entityIds : List EntityId) (body : Fin n → Handler n Unit) : Handler n Unit := do
  let s ← get
  forM ((s.getCoordinators entityIds).take 1) fun e => body e.2

/-- A method of the client; what is noted if it is accepted. -/
def changeAccepted (i : Fin n) (m : MethodCall) (accepted : Returned m → Bool)
    (update : LockState → LockState) : Handler n Unit := do
  let res : Returned m ← call (Request.client i m)
  if accepted res then modify (updateData i update)
  else pure ()

/-- A method of the client whose result is not looked at. -/
def change (i : Fin n) (m : MethodCall) : Handler n Unit := do
  let _ ← call (Request.client i m)

/-- The same, and the codes are listed again. -/
def changeCodes (i : Fin n) (m : MethodCall) : Handler n Unit := do
  change i m
  onCoordinator i asyncRefreshCodes

/-! ### Passage mode and auto-lock -/

/-- `WEEKDAYS` -/
inductive Weekday where
  | mon
  | tue
  | wed
  | thu
  | fri
  | sat
  | sun
  deriving DecidableEq, Repr

def WEEKDAYS : List Weekday := [.mon, .tue, .wed, .thu, .fri, .sat, .sun]

/-- `datetime.time`, up to the second. -/
structure Time where
  hour : ℕ
  minute : ℕ
  second : ℕ
  hour_lt : hour < 24
  minute_lt : minute < 60
  second_lt : second < 60
  deriving DecidableEq, Repr

/-- `time()` -/
def Time.midnight : Time where
  hour := 0
  minute := 0
  second := 0
  hour_lt := by decide
  minute_lt := by decide
  second_lt := by decide

/-- `hour * 60 + minute` -/
def Time.minuteOfDay (t : Time) : ℤ := t.hour * 60 + t.minute

/-- `call.data` of `configure_passage_mode`, without the entities. -/
structure PassageModeCall where
  enabled : Option Bool
  autoUnlock : Option Bool
  allDay : Option Bool
  startTime : Option Time
  endTime : Option Time
  weekDays : Option (List Weekday)
  deriving DecidableEq, Repr

/-- `OnOff.on if flag else OnOff.off` -/
def onOff (flag : Option Bool) : OnOff := if flag.getD false then .on else .off

namespace PassageModeCall

/-- `[WEEKDAYS.index(day) + 1 for day in …]` -/
def days (data : PassageModeCall) : List ℤ :=
  (data.weekDays.getD WEEKDAYS).map fun day => WEEKDAYS.idxOf day + 1

/-- The `PassageModeConfig` that is asked for. -/
def config (data : PassageModeCall) : PassageModeConfig where
  enabled := onOff data.enabled
  autoUnlock := onOff data.autoUnlock
  allDay := onOff data.allDay
  startMinute := (data.startTime.getD .midnight).minuteOfDay
  endMinute := (data.endTime.getD .midnight).minuteOfDay
  weekDays := data.days

end PassageModeCall

/-- `Services.handle_configure_passage_mode`. -/
def handleConfigurePassageMode (entityIds : List EntityId) (data : PassageModeCall) :
    Handler n Unit :=
  forEach entityIds fun e lockId =>
    changeAccepted e.2 (.setPassageMode lockId data.config) id
      fun d => { d with passageModeConfig := some data.config }

/-- `seconds or 10` if it is enabled, else 0. -/
def autolockSeconds (enabled : Option Bool) (seconds : Option ℤ) : ℤ :=
  if enabled.getD false then
    if seconds.getD 0 = 0 then 10 else seconds.getD 0
  else 0

/-- `Services.handle_configure_autolock`. -/
def handleConfigureAutolock (entityIds : List EntityId) (enabled : Option Bool)
    (seconds : Option ℤ) : Handler n Unit :=
  forEach entityIds fun e lockId =>
    changeAccepted e.2 (.setAutoLock lockId (autolockSeconds enabled seconds)) id
      fun d => { d with autoLockSeconds := some (autolockSeconds enabled seconds) }

/-! ### Passcodes -/

/-- `Services.handle_create_passcode`. -/
def handleCreatePasscode (entityIds : List EntityId) (config : AddPasscodeConfig) :
    Handler n Unit :=
  forEach entityIds fun e lockId => changeCodes e.2 (.addPasscode lockId config)

/-- `Services.handle_modify_passcode`. -/
def handleModifyPasscode (entityIds : List EntityId) (passcodeId : ℤ) (config : AddPasscodeConfig) :
    Handler n Unit :=
  forEach entityIds fun e lockId => changeCodes e.2 (.modifyPasscode lockId passcodeId config)

/-- `Services.handle_delete_passcode`. -/
def handleDeletePasscode (entityIds : List EntityId) (passcodeId : ℤ) : Handler n Unit :=
  forEach entityIds fun e lockId => changeCodes e.2 (.deletePasscode lockId passcodeId)

/-! ### Cards and fingerprints -/

/-- `Services.handle_rename_card`. -/
def handleRenameCard (entityIds : List EntityId) (cardId : ℤ) (name : String) : Handler n Unit :=
  forEach entityIds fun e lockId => change e.2 (.renameCard lockId cardId name)

/-- `Services.handle_delete_card`. -/
def handleDeleteCard (entityIds : List EntityId) (cardId : ℤ) : Handler n Unit :=
  forEach entityIds fun e lockId => change e.2 (.deleteCard lockId cardId)

/-- `Services.handle_rename_fingerprint`. -/
def handleRenameFingerprint (entityIds : List EntityId) (fingerprintId : ℤ) (name : String) :
    Handler n Unit :=
  forEach entityIds fun e lockId => change e.2 (.renameFingerprint lockId fingerprintId name)

/-- `Services.handle_delete_fingerprint`. -/
def handleDeleteFingerprint (entityIds : List EntityId) (fingerprintId : ℤ) : Handler n Unit :=
  forEach entityIds fun e lockId => change e.2 (.deleteFingerprint lockId fingerprintId)

/-! ### Ekeys -/

/-- `call.data` of `send_ekey`, without the entities and with `_period_ms`. -/
structure SendEkeyCall where
  receiverUsername : String
  name : String
  startMs : Option ℤ
  endMs : Option ℤ
  remarks : Option String
  remoteEnable : Option Bool
  createUser : Option Bool
  deriving DecidableEq, Repr

/-- The call of the client. -/
def SendEkeyCall.method (data : SendEkeyCall) (lockId : ℤ) : MethodCall :=
  .sendEkey lockId data.receiverUsername data.name (data.startMs.getD 0) (data.endMs.getD 0)
    data.remarks data.remoteEnable (data.createUser.getD false)

/-- `sent`: the ids of the keys by entity. -/
abbrev Sent := List (EntityId × Option ℤ)

/-- One entity: `sent` after it. -/
def sendOne (data : SendEkeyCall) (sent : Sent) (e : EntityId × Fin n) : Handler n Sent := do
  let s ← get
  let keyId : Option ℤ ← call (Request.client e.2 (data.method (s.lockId e.2)))
  onCoordinator e.2 asyncRefreshCodes
  pure (sent ++ [(e.1, keyId)])

/-- `Services.handle_send_ekey`. -/
def handleSendEkey (entityIds : List EntityId) (data : SendEkeyCall) (returnResponse : Bool) :
    Handler n (Option Sent) := do
  let s ← get
  let sent ← (s.getCoordinators entityIds).foldlM (sendOne data) []
  pure (if returnResponse then some sent else none)

/-- `Services.handle_delete_ekey`. -/
def handleDeleteEkey (entityIds : List EntityId) (keyId : ℤ) : Handler n Unit :=
  forFirst entityIds fun i => changeCodes i (.deleteEkey keyId)

/-- `Services.handle_freeze_ekey`. -/
def handleFreezeEkey (entityIds : List EntityId) (keyId : ℤ) : Handler n Unit :=
  forFirst entityIds fun i => changeCodes i (.freezeEkey keyId)

/-- `Services.handle_unfreeze_ekey`. -/
def handleUnfreezeEkey (entityIds : List EntityId) (keyId : ℤ) : Handler n Unit :=
  forFirst entityIds fun i => changeCodes i (.unfreezeEkey keyId)

/-- `Services.handle_set_ekey_period`. -/
def handleSetEkeyPeriod (entityIds : List EntityId) (keyId : ℤ) (startMs endMs : Option ℤ) :
    Handler n Unit :=
  forFirst entityIds fun i =>
    changeCodes i (.setEkeyPeriod keyId (startMs.getD 0) (endMs.getD 0))

/-- `Services.handle_modify_ekey`. -/
def handleModifyEkey (entityIds : List EntityId) (keyId : ℤ) (name : Option String)
    (remoteEnable : Option Bool) : Handler n Unit :=
  forFirst entityIds fun i => changeCodes i (.modifyEkey keyId name remoteEnable)

/-! ### The calls -/

/-- A service with its data. -/
inductive Command where
  | configurePassageMode (data : PassageModeCall)
  | configureAutolock (enabled : Option Bool) (seconds : Option ℤ)
  | createPasscode (config : AddPasscodeConfig)
  | modifyPasscode (passcodeId : ℤ) (config : AddPasscodeConfig)
  | deletePasscode (passcodeId : ℤ)
  | renameCard (cardId : ℤ) (name : String)
  | deleteCard (cardId : ℤ)
  | renameFingerprint (fingerprintId : ℤ) (name : String)
  | deleteFingerprint (fingerprintId : ℤ)
  | sendEkey (data : SendEkeyCall) (returnResponse : Bool)
  | deleteEkey (keyId : ℤ)
  | freezeEkey (keyId : ℤ)
  | unfreezeEkey (keyId : ℤ)
  | setEkeyPeriod (keyId : ℤ) (startMs endMs : Option ℤ)
  | modifyEkey (keyId : ℤ) (name : Option String) (remoteEnable : Option Bool)
  deriving DecidableEq, Repr

namespace Command

/-- The handler of the service. -/
def handle (entityIds : List EntityId) : Command → Handler n Unit
  | configurePassageMode data => handleConfigurePassageMode entityIds data
  | configureAutolock enabled seconds => handleConfigureAutolock entityIds enabled seconds
  | createPasscode config => handleCreatePasscode entityIds config
  | modifyPasscode passcodeId config => handleModifyPasscode entityIds passcodeId config
  | deletePasscode passcodeId => handleDeletePasscode entityIds passcodeId
  | renameCard cardId name => handleRenameCard entityIds cardId name
  | deleteCard cardId => handleDeleteCard entityIds cardId
  | renameFingerprint fingerprintId name => handleRenameFingerprint entityIds fingerprintId name
  | deleteFingerprint fingerprintId => handleDeleteFingerprint entityIds fingerprintId
  | sendEkey data returnResponse => do
    let _ ← handleSendEkey entityIds data returnResponse
  | deleteEkey keyId => handleDeleteEkey entityIds keyId
  | freezeEkey keyId => handleFreezeEkey entityIds keyId
  | unfreezeEkey keyId => handleUnfreezeEkey entityIds keyId
  | setEkeyPeriod keyId startMs endMs => handleSetEkeyPeriod entityIds keyId startMs endMs
  | modifyEkey keyId name remoteEnable => handleModifyEkey entityIds keyId name remoteEnable

/-- The method of the client that is called for a lock. -/
def method (lockId : ℤ) : Command → MethodCall
  | configurePassageMode data => .setPassageMode lockId data.config
  | configureAutolock enabled seconds => .setAutoLock lockId (autolockSeconds enabled seconds)
  | createPasscode config => .addPasscode lockId config
  | modifyPasscode passcodeId config => .modifyPasscode lockId passcodeId config
  | deletePasscode passcodeId => .deletePasscode lockId passcodeId
  | renameCard cardId name => .renameCard lockId cardId name
  | deleteCard cardId => .deleteCard lockId cardId
  | renameFingerprint fingerprintId name => .renameFingerprint lockId fingerprintId name
  | deleteFingerprint fingerprintId => .deleteFingerprint lockId fingerprintId
  | sendEkey data _ => data.method lockId
  | deleteEkey keyId => .deleteEkey keyId
  | freezeEkey keyId => .freezeEkey keyId
  | unfreezeEkey keyId => .unfreezeEkey keyId
  | setEkeyPeriod keyId startMs endMs => .setEkeyPeriod keyId (startMs.getD 0) (endMs.getD 0)
  | modifyEkey keyId name remoteEnable => .modifyEkey keyId name remoteEnable

/-- It changes a key of the account, whichever lock it opens. -/
def ofAccount : Command → Bool
  | deleteEkey _ | freezeEkey _ | unfreezeEkey _ | setEkeyPeriod .. | modifyEkey .. => true
  | _ => false

/-- It changes passcodes or ekeys, which are listed again. -/
def changesCodes : Command → Bool
  | createPasscode _ | modifyPasscode .. | deletePasscode _ | sendEkey .. => true
  | c => c.ofAccount

/-- What is asked for one lock. -/
def requests (c : Command) (i : Fin n) (lockId : ℤ) : List (Request n) :=
  .client i (c.method lockId) ::
    if c.changesCodes then
      [.coordinator i (.listKeyboardPwd lockId), .coordinator i (.listKey lockId)]
    else []

/-- The entities a call is about, with their coordinators. -/
def selected (c : Command) (s : Hass n) (entityIds : List EntityId) : List (EntityId × Fin n) :=
  if c.ofAccount then (s.getCoordinators entityIds).take 1 else s.getCoordinators entityIds

end Command

/-- What some other task makes of a coordinator, which stays that of its lock. -/
structure Elsewhere where
  apply : LockUpdateCoordinator → LockUpdateCoordinator
  lockId : ∀ c, (apply c).lockId = c.lockId

/-- The jobs. -/
inductive Job (n : ℕ) where
  | command (c : Command) (entityIds : List EntityId)
  | others (i : Fin n) (u : Elsewhere)

/-- The coroutine of a job. -/
def prog : Job n → Handler n Unit
  | .command c entityIds => c.handle entityIds
  | .others i u => modify fun s => s.setCoordinator i (u.apply (s.coordinators i))

/-- The event loop with its tasks. -/
abbrev Serving (n : ℕ) := Pool (Hass n) (Request n) Reply PyError (Job n)

abbrev ServingLabel (n : ℕ) := Label (fun q : Request n => Reply q) PyError (Job n)

def servingStep (P : Serving n) (l : ServingLabel n) : Option (Serving n) := P.step prog l

/-- What a job asks, in order, with the locks and entities of `s`. -/
def script (s : Hass n) : Job n → List (Request n)
  | .command c entityIds => (c.selected s entityIds).flatMap fun e => c.requests e.2 (s.lockId e.2)
  | .others _ _ => []

/-! ### Each handler asks what it has to -/

/-- The locks and the entities are those of `s₀`. -/
structure Same (s₀ s : Hass n) : Prop where
  entities : s.entities = s₀.entities
  lockIds : ∀ i, s.lockId i = s₀.lockId i

section Handlers
variable {s₀ s : Hass n} {i : Fin n} {entityIds : List EntityId}

theorem Same.getCoordinators (h : Same s₀ s) (entityIds : List EntityId) :
    s.getCoordinators entityIds = s₀.getCoordinators entityIds := by
  simp only [Hass.getCoordinators, Hass.coordinatorFor, h.entities]

theorem lockId_setCoordinator_self (c : LockUpdateCoordinator) :
    (s.setCoordinator i c).lockId i = c.lockId :=
  congrArg LockUpdateCoordinator.lockId (Function.update_self ..)

theorem lockId_setCoordinator_of_ne {j : Fin n} (h : j ≠ i) (c : LockUpdateCoordinator) :
    (s.setCoordinator i c).lockId j = s.lockId j :=
  congrArg LockUpdateCoordinator.lockId (Function.update_of_ne h ..)

theorem Same.set {c : LockUpdateCoordinator} (h : Same s₀ s) (hc : c.lockId = s₀.lockId i) :
    Same s₀ (s.setCoordinator i c) := by
  refine ⟨h.entities, fun j => ?_⟩
  by_cases hj : j = i
  · subst hj
    rw [lockId_setCoordinator_self]
    exact hc
  · rw [lockId_setCoordinator_of_ne hj]
    exact h.lockIds j

/-- `async_refresh_codes`. -/
theorem asyncRefreshCodes_asks {lockId : ℤ} {c : LockUpdateCoordinator} (hc : c.lockId = lockId) :
    Asks (fun c => c.lockId = lockId) asyncRefreshCodes [.listKeyboardPwd lockId, .listKey lockId]
      c := by
  subst hc
  refine asks_get_bind (asks_call_bind rfl fun passcodes c₁ h₁ => ?_)
  refine asks_call_bind h₁ fun ekeys c₂ h₂ => ?_
  exact asks_get_bind (asks_modify h₂)

theorem refresh_asks (h : Same s₀ s) (i : Fin n) :
    Asks (Same s₀) (onCoordinator i asyncRefreshCodes)
      [.coordinator i (.listKeyboardPwd (s₀.lockId i)), .coordinator i (.listKey (s₀.lockId i))]
      s := by
  have hsplit : ∀ t : Hass n, Same s₀ t ↔ ((place i).get t).lockId = s₀.lockId i ∧
      (t.entities = s₀.entities ∧ ∀ j ≠ i, t.lockId j = s₀.lockId j) := by
    intro t
    refine ⟨fun ht => ⟨ht.lockIds i, ht.entities, fun j _ => ht.lockIds j⟩, ?_⟩
    rintro ⟨hi, he, hj⟩
    refine ⟨he, fun j => ?_⟩
    by_cases hij : j = i
    · exact hij ▸ hi
    · exact hj j hij
  have hput : ∀ (c : LockUpdateCoordinator) (t : Hass n),
      (t.entities = s₀.entities ∧ ∀ j ≠ i, t.lockId j = s₀.lockId j) →
        ((place i).put c t).entities = s₀.entities ∧
          ∀ j ≠ i, ((place i).put c t).lockId j = s₀.lockId j := by
    rintro c t ⟨he, hj⟩
    exact ⟨he, fun j hij => (lockId_setCoordinator_of_ne hij c).trans (hj j hij)⟩
  obtain ⟨hi, hrest⟩ := (hsplit s).mp h
  exact asks_within hsplit hput asyncRefreshCodes hrest (asyncRefreshCodes_asks hi)

theorem changeAccepted_asks {m : MethodCall} {accepted : Returned m → Bool}
    {update : LockState → LockState} (h : Same s₀ s) (i : Fin n) :
    Asks (Same s₀) (changeAccepted i m accepted update) [.client i m] s := by
  refine asks_call_bind h fun res s₁ h₁ => asks_ite (fun _ => ?_) fun _ => asks_pure h₁
  exact asks_modify (h₁.set (h₁.lockIds i))

theorem change_asks (h : Same s₀ s) (i : Fin n) (m : MethodCall) :
    Asks (Same s₀) (change i m) [.client i m] s :=
  asks_call_bind h fun _ _ h₁ => asks_pure h₁

theorem changeCodes_asks (h : Same s₀ s) (i : Fin n) (m : MethodCall) :
    Asks (Same s₀) (changeCodes i m) [.client i m, .coordinator i (.listKeyboardPwd (s₀.lockId i)),
      .coordinator i (.listKey (s₀.lockId i))] s :=
  (change_asks h i m).bind fun _ _ h₁ => refresh_asks h₁ i

theorem forEach_asks {body : EntityId × Fin n → ℤ → Handler n Unit}
    {asked : EntityId × Fin n → List (Request n)} (h : Same s₀ s)
    (hbody : ∀ e s, Same s₀ s → Asks (Same s₀) (body e (s₀.lockId e.2)) (asked e) s) :
    Asks (Same s₀) (forEach entityIds body) ((s₀.getCoordinators entityIds).flatMap asked) s := by
  refine asks_get_bind ?_
  rw [h.getCoordinators]
  refine asks_forM (fun e s₁ h₁ => asks_get_bind ?_) _ h
  rw [h₁.lockIds]
  exact hbody e s₁ h₁

theorem forFirst_asks {body : Fin n → Handler n Unit} {asked : Fin n → List (Request n)}
    (h : Same s₀ s) (hbody : ∀ i s, Same s₀ s → Asks (Same s₀) (body i) (asked i) s) :
    Asks (Same s₀) (forFirst entityIds body)
      (((s₀.getCoordinators entityIds).take 1).flatMap fun e => asked e.2) s := by
  refine asks_get_bind ?_
  rw [h.getCoordinators]
  exact asks_forM (fun e s₁ h₁ => hbody e.2 s₁ h₁) _ h

/-- What is asked for one lock when codes change. -/
def codeRequests (s₀ : Hass n) (m : ℤ → MethodCall) (e : EntityId × Fin n) : List (Request n) :=
  [.client e.2 (m (s₀.lockId e.2)), .coordinator e.2 (.listKeyboardPwd (s₀.lockId e.2)),
    .coordinator e.2 (.listKey (s₀.lockId e.2))]

theorem each_changeAccepted_asks (h : Same s₀ s) (m : ℤ → MethodCall)
    (accepted : ∀ lockId, Returned (m lockId) → Bool) (update : LockState → LockState) :
    Asks (Same s₀)
      (forEach entityIds fun e lockId => changeAccepted e.2 (m lockId) (accepted lockId) update)
      ((s₀.getCoordinators entityIds).flatMap fun e => [.client e.2 (m (s₀.lockId e.2))]) s :=
  forEach_asks h fun e _ h₁ => changeAccepted_asks h₁ e.2

theorem each_change_asks (h : Same s₀ s) (m : ℤ → MethodCall) :
    Asks (Same s₀) (forEach entityIds fun e lockId => change e.2 (m lockId))
      ((s₀.getCoordinators entityIds).flatMap fun e => [.client e.2 (m (s₀.lockId e.2))]) s :=
  forEach_asks h fun e _ h₁ => change_asks h₁ e.2 _

theorem each_changeCodes_asks (h : Same s₀ s) (m : ℤ → MethodCall) :
    Asks (Same s₀) (forEach entityIds fun e lockId => changeCodes e.2 (m lockId))
      ((s₀.getCoordinators entityIds).flatMap (codeRequests s₀ m)) s :=
  forEach_asks h fun e _ h₁ => changeCodes_asks h₁ e.2 _

theorem first_changeCodes_asks (h : Same s₀ s) (m : MethodCall) :
    Asks (Same s₀) (forFirst entityIds fun i => changeCodes i m)
      (((s₀.getCoordinators entityIds).take 1).flatMap (codeRequests s₀ fun _ => m)) s :=
  forFirst_asks h fun i _ h₁ => changeCodes_asks h₁ i m

theorem sendOne_asks {data : SendEkeyCall} (e : EntityId × Fin n) (sent : Sent) (h : Same s₀ s) :
    Asks (Same s₀) (sendOne data sent e) (codeRequests s₀ data.method e) s := by
  refine asks_get_bind ?_
  rw [h.lockIds]
  refine asks_call_bind h fun keyId s₁ h₁ => ?_
  exact (refresh_asks h₁ e.2).bind fun _ s₂ h₂ => asks_pure h₂

theorem handleSendEkey_asks {data : SendEkeyCall} {returnResponse : Bool} (h : Same s₀ s) :
    Asks (Same s₀) (handleSendEkey entityIds data returnResponse)
      ((s₀.getCoordinators entityIds).flatMap (codeRequests s₀ data.method)) s := by
  refine asks_get_bind ?_
  rw [h.getCoordinators]
  have hloop := asks_foldlM (f := sendOne data) (fun e sent _ h₁ => sendOne_asks e sent h₁)
    (s₀.getCoordinators entityIds) [] h
  have hall := hloop.bind fun sent s₁ h₁ =>
    asks_pure (a := if returnResponse then some sent else none) h₁
  rw [List.append_nil] at hall
  exact hall

/-- **Each handler asks what it has to.** -/
theorem handle_asks (c : Command) (h : Same s₀ s) :
    Asks (Same s₀) (c.handle entityIds) (script s₀ (.command c entityIds)) s := by
  cases c with
  | configurePassageMode data =>
    exact each_changeAccepted_asks h (fun lockId => .setPassageMode lockId data.config)
      (fun _ => id) _
  | configureAutolock enabled seconds =>
    exact each_changeAccepted_asks h
      (fun lockId => .setAutoLock lockId (autolockSeconds enabled seconds)) (fun _ => id) _
  | createPasscode config => exact each_changeCodes_asks h fun lockId => .addPasscode lockId config
  | modifyPasscode passcodeId config =>
    exact each_changeCodes_asks h fun lockId => .modifyPasscode lockId passcodeId config
  | deletePasscode passcodeId =>
    exact each_changeCodes_asks h fun lockId => .deletePasscode lockId passcodeId
  | renameCard cardId name => exact each_change_asks h fun lockId => .renameCard lockId cardId name
  | deleteCard cardId => exact each_change_asks h fun lockId => .deleteCard lockId cardId
  | renameFingerprint fingerprintId name =>
    exact each_change_asks h fun lockId => .renameFingerprint lockId fingerprintId name
  | deleteFingerprint fingerprintId =>
    exact each_change_asks h fun lockId => .deleteFingerprint lockId fingerprintId
  | sendEkey data returnResponse =>
    have hsend : Asks (Same s₀) (handleSendEkey entityIds data returnResponse) _ s :=
      handleSendEkey_asks h
    have hall := hsend.bind fun _ _ h₁ => asks_pure (a := ()) h₁
    rw [List.append_nil] at hall
    exact hall
  | deleteEkey keyId => exact first_changeCodes_asks h (.deleteEkey keyId)
  | freezeEkey keyId => exact first_changeCodes_asks h (.freezeEkey keyId)
  | unfreezeEkey keyId => exact first_changeCodes_asks h (.unfreezeEkey keyId)
  | setEkeyPeriod keyId startMs endMs =>
    exact first_changeCodes_asks h (.setEkeyPeriod keyId (startMs.getD 0) (endMs.getD 0))
  | modifyEkey keyId name remoteEnable =>
    exact first_changeCodes_asks h (.modifyEkey keyId name remoteEnable)

theorem prog_asks (w : Job n) (h : Same s₀ s) : Asks (Same s₀) (prog w) (script s₀ w) s := by
  cases w with
  | command c entityIds => exact handle_asks c h
  | others i u => exact asks_modify (h.set ((u.lockId _).trans (h.lockIds i)))

end Handlers

/-- **Each service asks what it has to, once and in order**: in every interleaving of calls of the
services with anything else that happens to the coordinators, a call that is under way has gone
through the first of the requests of its list, each answered, and waits for the next one; a call that
ends has gone through all of them, or ends with the error of the first one that failed. -/
theorem services_ask {s₀ : Hass n} {P : Serving n} {τ : List (Move (Serving n) (ServingLabel n))}
    (hr : Run servingStep ⟨s₀, []⟩ τ P) :
    ∀ m ∈ τ, (∀ t ∈ m.dst.tasks, Underway (script s₀) t) ∧
      ∀ e, m.src.ended prog m.label = some e → Followed (script s₀ e.job) e.log e.result := by
  intro m hm
  obtain ⟨-, hall⟩ := run_asks (fun w s => prog_asks w) ⟨rfl, fun _ => rfl⟩ hr m hm
  exact hall

/-- Two locks with one entity each. -/
def twoLocks : Hass 2 where
  now := ⟨0, 0⟩
  coordinators i := { (oneLock ⟨0, 0⟩).coordinators ⟨0, Nat.one_pos⟩ with lockId := i.val + 7 }
  entities i := if i.val = 0 then ["lock.front"] else ["lock.back"]

/-- The second lock does not take the passcode. -/
def refusing : (q : Request 2) → Except PyError (Reply q)
  | .coordinator _ (.listKeyboardPwd _) => .ok []
  | .coordinator _ (.listKey _) => .ok []
  | .client i (.addPasscode _ _) => if i.val = 0 then .ok true else .error .requestFailed
  | .client _ (.deleteEkey _) => .ok ()
  | _ => .error .requestFailed

/-- A passcode for both locks, and the deletion of an ekey meanwhile. -/
def passcodeAndEkey : List (ServingLabel 2) :=
  [.start (.command (.createPasscode ⟨some "1234", some "guest", none, none⟩)
      ["lock.front", "lock.back"]),
    .start (.command (.deleteEkey 5) ["lock.back", "lock.front"])] ++
  [0, 1, 0, 1, 0, 1, 0].map fun i => .reply i refusing

theorem services_ask_passcodeAndEkey :
    ((play servingStep ⟨twoLocks, []⟩ passcodeAndEkey).1.filterMap fun m =>
        (m.src.ended prog m.label).map fun e => (e.log.map Sigma.fst, e.result.isOk)) =
      [([.client 1 (.deleteEkey 5), .coordinator 1 (.listKeyboardPwd 8),
          .coordinator 1 (.listKey 8)], true),
        ([.client 0 (.addPasscode 7 ⟨some "1234", some "guest", none, none⟩),
          .coordinator 0 (.listKeyboardPwd 7), .coordinator 0 (.listKey 7),
          .client 1 (.addPasscode 8 ⟨some "1234", some "guest", none, none⟩)], false)] ∧
      ∀ m ∈ (play servingStep ⟨twoLocks, []⟩ passcodeAndEkey).1,
        (∀ t ∈ m.dst.tasks, Underway (script twoLocks) t) ∧ ∀ e, m.src.ended prog m.label = some e →
          Followed (script twoLocks e.job) e.log e.result :=
  ⟨by decide, services_ask (run_play _ _)⟩

end TTLockConnect.Services.Commands
