import TTLockConnect.Async.Replay
import TTLockConnect.Services.Commands

/-! # Settings that several tasks change

The passage mode, the auto-lock delay and the sound of a lock are changed by services and by switches,
several of which may be waiting for the cloud at the same time. Each notes what was accepted in the
data as it is when the reply arrives, so none undoes what another has noted: whatever the order of the
replies, the settings are those that were accepted last. Polls and refreshes of the codes put a copy
of the data back and do not belong here. -/

namespace TTLockConnect.Services.Settings

open TTLockConnect.Text TTLockConnect.Models
open TTLockConnect.Coordinator.State TTLockConnect.Coordinator.Poll
open TTLockConnect.Services.Cleanup (EntityId Hass)
open TTLockConnect.Services.Commands
open TTLockConnect.Cloud.Client (MethodCall)
open TTLockConnect.Async.Coroutine TTLockConnect.Async.Coroutine.Coro TTLockConnect.Async.Component
open TTLockConnect.Async.Runs TTLockConnect.Async.EventLoop TTLockConnect.Async.Replay

variable {n : ℕ}

/-! ### The tasks -/

/-- A call of a service, or a job of a coordinator. -/
inductive Job (n : ℕ) where
  | command (c : Command) (entityIds : List EntityId)
  | coordinator (i : Fin n) (w : Coordinator.Poll.Job)

/-- The coroutine of a job. -/
def prog : Job n → Handler n Unit
  | .command c entityIds => c.handle entityIds
  | .coordinator i w => onCoordinator i (Coordinator.Poll.prog w)

/-- The event loop with its tasks. -/
abbrev Office (n : ℕ) := Pool (Hass n) (Request n) Reply PyError (Job n)

abbrev OfficeLabel (n : ℕ) := Label (fun q : Request n => Reply q) PyError (Job n)

def officeStep (P : Office n) (l : OfficeLabel n) : Option (Office n) := P.step prog l

/-- The job changes the data where it is: it does not put back a copy made before it has waited. -/
def Job.InPlace : Job n → Prop
  | .command c _ => c.changesCodes = false
  | .coordinator _ w => w ≠ .refresh ∧ w ≠ .refreshCodes

instance : DecidablePred (Job.InPlace (n := n))
  | .command c _ => inferInstanceAs (Decidable (c.changesCodes = false))
  | .coordinator _ w => inferInstanceAs (Decidable (w ≠ .refresh ∧ w ≠ .refreshCodes))

/-! ### The settings -/

/-- What the user sets on a lock. -/
@[ext] structure LockSettings where
  passageModeConfig : Option PassageModeConfig
  autoLockSeconds : Option ℤ
  lockSound : Option Bool
  deriving DecidableEq, Repr

def settingsOf (c : LockUpdateCoordinator) : LockSettings :=
  ⟨c.data.passageModeConfig, c.data.autoLockSeconds, c.data.lockSound⟩

/-- The settings of each lock. -/
def settings (s : Hass n) (i : Fin n) : LockSettings := settingsOf (s.coordinators i)

/-- What a reply that a coordinator gets changes. -/
def notedBy : (q : Api.Request) → Except PyError (Api.Reply q) → LockSettings → LockSettings
  | .setAutoLockTime _ seconds, .ok res, v =>
    if res.accepted then { v with autoLockSeconds := some seconds } else v
  | .updateSetting _ value, .ok res, v =>
    if res.accepted then { v with lockSound := some (value = 1) } else v
  | _, _, v => v

/-- What a reply changes. -/
def noted : (q : Request n) → Except PyError (Reply q) → (Fin n → LockSettings) → Fin n → LockSettings
  | .client i (.setPassageMode _ config), .ok true, v =>
    Function.update v i { v i with passageModeConfig := some config }
  | .client i (.setAutoLock _ seconds), .ok true, v =>
    Function.update v i { v i with autoLockSeconds := some seconds }
  | .coordinator i q, r, v => Function.update v i (notedBy q r (v i))
  | _, _, v => v

/-! ### The jobs of a coordinator -/

section Coordinator
variable {v : LockSettings} {c : LockUpdateCoordinator}

/-- A part of a job that does to the settings what the replies say. -/
abbrev Notes {α : Type} (p : Method α) (v : LockSettings) (c : LockUpdateCoordinator) : Prop :=
  Replays settingsOf notedBy (Left settingsOf) p v c

theorem notes_ret {α : Type} {a : α} (h : settingsOf c = v) : Notes (pure a : Method α) v c := h

theorem notes_modify {f : LockUpdateCoordinator → LockUpdateCoordinator}
    (h : settingsOf (f c) = v) : Notes (modify f) v c := h

/-- What an event leaves as it is. -/
theorem settingsOf_webhook (event : WebhookEvent) (c : LockUpdateCoordinator) :
    settingsOf (processWebhookData event c).1 = settingsOf c := by
  have hstate : ∀ d : LockState, (applyEventState event d).passageModeConfig = d.passageModeConfig ∧
      (applyEventState event d).autoLockSeconds = d.autoLockSeconds ∧
        (applyEventState event d).lockSound = d.lockSound := by
    intro d
    unfold applyEventState
    refine ⟨?_, ?_, ?_⟩ <;> (split <;> split_ifs <;> rfl)
  have hsensor : ∀ d : LockState, (applyEventSensor event d).passageModeConfig = d.passageModeConfig ∧
      (applyEventSensor event d).autoLockSeconds = d.autoLockSeconds ∧
        (applyEventSensor event d).lockSound = d.lockSound := by
    intro d
    unfold applyEventSensor
    refine ⟨?_, ?_, ?_⟩ <;> (split_ifs <;> (try split) <;> rfl)
  rw [processWebhookData_fst]
  split_ifs
  · rfl
  · obtain ⟨h₁, h₂, h₃⟩ := hstate { c.data with batteryLevel := event.batteryLevel }
    obtain ⟨h₁', h₂', h₃'⟩ :=
      hsensor (applyEventState event { c.data with batteryLevel := event.batteryLevel })
    simp only [settingsOf, setUpdatedData, webhookData, h₁, h₂, h₃, h₁', h₂', h₃']

/-- The flag around a command is no setting. -/
theorem lockAction_notes {body : Method Unit} (hv : settingsOf c = v)
    (h : ∀ v c, settingsOf c = v → Notes body v c) : Notes (lockAction body) v c := by
  refine replays_modify_bind (Replays.bind (Q := Left settingsOf) ?_ ?_ fun _ _ _ => id)
  · refine replays_tryCatch (fun _ _ _ => id) (fun v c e h => ?_) _ (h v _ hv)
    exact replays_modify_bind h
  · exact fun v c _ h => notes_modify h

theorem notedBy_error (q : Api.Request) (e : PyError) (v : LockSettings) :
    notedBy q (.error e) v = v := by
  cases q <;> rfl

theorem request_notes {q : Api.Request} {f : Api.Reply q → Method Unit} (hv : settingsOf c = v)
    (hok : ∀ a c, Notes (f a) (notedBy q (.ok a) (settingsOf c)) c) : Notes (call q >>= f) v c :=
  replays_call_bind hv hok fun e c => (notedBy_error q e (settingsOf c)).symm

/-- A command, and what is done if it is accepted. -/
theorem command_notes {q : Api.Request} {accepted : Api.Reply q → Bool} {f : Bool → Method Unit}
    (hv : settingsOf c = v)
    (hok : ∀ a c, Notes (f (accepted a)) (notedBy q (.ok a) (settingsOf c)) c) :
    Notes ((call q >>= fun res => pure (accepted res)) >>= f) v c := by
  rw [bind_assoc]
  exact request_notes hv hok

/-- **Every job of a coordinator that changes the data where it is** notes what was accepted. -/
theorem job_notes (w : Coordinator.Poll.Job) (hw : w ≠ .refresh ∧ w ≠ .refreshCodes) :
    Notes (Coordinator.Poll.prog w) (settingsOf c) c := by
  cases w with
  | refresh => exact absurd rfl hw.1
  | refreshCodes => exact absurd rfl hw.2
  | webhook event => exact settingsOf_webhook event c
  | autoLocked seconds offset =>
    refine replays_ite (fun _ => ?_) fun _ => notes_modify rfl
    exact request_notes rfl fun _ c => notes_modify rfl
  | lock =>
    refine lockAction_notes rfl fun v c hv => replays_get_bind ?_
    refine command_notes hv fun res c => ?_
    exact replays_ite (fun _ => notes_modify rfl) fun _ => notes_ret rfl
  | unlock =>
    refine lockAction_notes rfl fun v c hv => replays_get_bind ?_
    refine command_notes hv fun res c => ?_
    exact replays_ite (fun _ => notes_modify rfl) fun _ => notes_ret rfl
  | setAutoLock on =>
    refine replays_get_bind ?_
    dsimp only
    refine command_notes rfl fun res c => ?_
    refine replays_ite (fun h => notes_modify ?_) fun h => notes_ret ?_
    · exact (if_pos h).symm
    · exact (if_neg h).symm
  | setLockSound on =>
    refine replays_get_bind ?_
    dsimp only
    refine command_notes rfl fun res c => ?_
    refine replays_ite (fun h => notes_modify ?_) fun h => notes_ret ?_
    · rw [notedBy, if_pos h]
      cases on <;> rfl
    · exact (if_neg h).symm
  | clock now offsetDayAgo => exact rfl
  | presence inRange => exact rfl
  | webhookStatus status => exact rfl

end Coordinator

/-! ### The services -/

section Services
variable {v : Fin n → LockSettings} {s : Hass n} {i : Fin n}

/-- A part of a task that does to the settings what the replies say. -/
abbrev NotesAll {α : Type} (p : Handler n α) (v : Fin n → LockSettings) (s : Hass n) : Prop :=
  Replays settings noted (Left settings) p v s

theorem settings_setCoordinator (c : LockUpdateCoordinator) (s : Hass n) :
    settings (s.setCoordinator i c) = Function.update (settings s) i (settingsOf c) := by
  funext j
  by_cases hj : j = i
  · subst hj
    rw [Function.update_self]
    exact congrArg settingsOf (Function.update_self ..)
  · rw [Function.update_of_ne hj]
    exact congrArg settingsOf (Function.update_of_ne hj ..)

theorem onCoordinator_notes {p : Method Unit}
    (h : Notes p (settingsOf (s.coordinators i)) (s.coordinators i)) :
    NotesAll (onCoordinator i p) (settings s) s := by
  have hreply : ∀ (q : Api.Request) (a : Except PyError (Api.Reply q)) (t : Hass n),
      noted (.coordinator i q) a (settings t) = Function.update (settings t) i
        (notedBy q (a.map id) (settingsOf ((place i).get t))) := by
    intro q a t
    cases a <;> rfl
  have hself : Function.update (settings s) i (settingsOf ((place i).get s)) = settings s :=
    Function.update_eq_self i (settings s)
  have hall : NotesAll (onCoordinator i p)
      (Function.update (settings s) i (settingsOf (s.coordinators i))) s :=
    replays_within (place i) (Request.coordinator i)
      (fun _ => id : ∀ q, Reply (Request.coordinator i q) → Api.Reply q)
      (fun x w => Function.update w i x) (fun c t => settings_setCoordinator c t)
      (fun _ _ _ => Function.update_idem ..) hreply p h hself.symm
  rw [← hself]
  exact hall

theorem changeAccepted_notes {m : MethodCall} {accepted : Returned m → Bool}
    {update : LockState → LockState} (hv : settings s = v)
    (hok : ∀ res s, accepted res = true →
      settings (updateData i update s) = noted (.client i m) (.ok res) (settings s))
    (hno : ∀ res v, ¬ accepted res = true → noted (.client i m) (.ok res) v = v)
    (herr : ∀ e v, noted (.client i m) (.error e) v = v) :
    NotesAll (changeAccepted i m accepted update) v s := by
  refine replays_call_bind hv (fun res s' => ?_) fun e s' => (herr e (settings s')).symm
  refine replays_ite (fun h => ?_) fun h => ?_
  · exact hok res s' h
  · exact (hno res (settings s') h).symm

theorem change_notes {m : MethodCall} (hv : settings s = v)
    (h : ∀ r v, noted (.client i m) r v = v) : NotesAll (change i m) v s :=
  replays_call_bind hv (fun res s' => (h (.ok res) (settings s')).symm)
    fun e s' => (h (.error e) (settings s')).symm

theorem forEach_notes {entityIds : List EntityId} {body : EntityId × Fin n → ℤ → Handler n Unit}
    (h : ∀ e lockId v s, settings s = v → NotesAll (body e lockId) v s) :
    NotesAll (forEach entityIds body) (settings s) s := by
  refine replays_get_bind (replays_forM (fun e v s hv => ?_) _ rfl)
  exact replays_get_bind (h e _ v s hv)

/-- For each lock, a setting that is noted if it is accepted. -/
theorem each_changeAccepted_notes (m : ℤ → MethodCall)
    (accepted : ∀ lockId, Returned (m lockId) → Bool) (update : LockState → LockState)
    {entityIds : List EntityId}
    (hok : ∀ i lockId res (s : Hass n), accepted lockId res = true →
      settings (updateData i update s) = noted (.client i (m lockId)) (.ok res) (settings s))
    (hno : ∀ (i : Fin n) lockId res v, accepted lockId res = false →
      noted (.client i (m lockId)) (.ok res) v = v)
    (herr : ∀ (i : Fin n) lockId e v, noted (.client i (m lockId)) (.error e) v = v) :
    NotesAll (forEach entityIds fun e lockId =>
      changeAccepted e.2 (m lockId) (accepted lockId) update) (settings s) s := by
  refine forEach_notes fun e lockId v s hv => changeAccepted_notes hv (hok e.2 lockId) ?_ ?_
  · exact fun res v h => hno e.2 lockId res v (Bool.not_eq_true _ ▸ h)
  · exact herr e.2 lockId

/-- For each lock, a change that is no setting. -/
theorem each_change_notes (m : ℤ → MethodCall) {entityIds : List EntityId}
    (h : ∀ (i : Fin n) lockId r v, noted (.client i (m lockId)) r v = v) :
    NotesAll (forEach entityIds fun e lockId => change e.2 (m lockId)) (settings s) s :=
  forEach_notes fun e lockId _ _ hv => change_notes hv (h e.2 lockId)

/-- **Every service that changes the data where it is** notes what was accepted. -/
theorem handle_notes {c : Command} {entityIds : List EntityId} (hc : c.changesCodes = false) :
    NotesAll (c.handle entityIds) (settings s) s := by
  cases c with
  | configurePassageMode data =>
    refine each_changeAccepted_notes (fun lockId => .setPassageMode lockId data.config)
      (fun _ => id) _ ?_ ?_ fun _ _ _ _ => rfl
    · rintro i lockId res s rfl
      exact settings_setCoordinator _ s
    · rintro i lockId res v rfl
      rfl
  | configureAutolock enabled seconds =>
    refine each_changeAccepted_notes
      (fun lockId => .setAutoLock lockId (autolockSeconds enabled seconds)) (fun _ => id) _ ?_ ?_
      fun _ _ _ _ => rfl
    · rintro i lockId res s rfl
      exact settings_setCoordinator _ s
    · rintro i lockId res v rfl
      rfl
  | renameCard cardId name =>
    exact each_change_notes (fun lockId => .renameCard lockId cardId name) fun _ _ _ _ => rfl
  | deleteCard cardId =>
    exact each_change_notes (fun lockId => .deleteCard lockId cardId) fun _ _ _ _ => rfl
  | renameFingerprint fingerprintId name =>
    exact each_change_notes (fun lockId => .renameFingerprint lockId fingerprintId name)
      fun _ _ _ _ => rfl
  | deleteFingerprint fingerprintId =>
    exact each_change_notes (fun lockId => .deleteFingerprint lockId fingerprintId)
      fun _ _ _ _ => rfl
  | createPasscode | modifyPasscode | deletePasscode | sendEkey | deleteEkey | freezeEkey
  | unfreezeEkey | setEkeyPeriod | modifyEkey => cases hc

theorem prog_notes {w : Job n} (hw : w.InPlace) : NotesAll (prog w) (settings s) s := by
  cases w with
  | command c entityIds => exact handle_notes hw
  | coordinator i w => exact onCoordinator_notes (job_notes w hw)

end Services

/-! ### Every run -/

/-- An exchange with the cloud. -/
abbrev Asked (n : ℕ) := Exchange (fun q : Request n => Reply q) PyError

/-- The passage mode that an exchange sets on lock `i`. -/
def setsPassageMode (i : Fin n) : Asked n → Option PassageModeConfig
  | ⟨.client j (.setPassageMode _ config), .ok true⟩ => if j = i then some config else none
  | _ => none

/-- The delay of the auto-lock that it sets. -/
def setsAutoLock (i : Fin n) : Asked n → Option ℤ
  | ⟨.client j (.setAutoLock _ seconds), .ok true⟩ => if j = i then some seconds else none
  | ⟨.coordinator j (.setAutoLockTime _ seconds), .ok res⟩ =>
    if j = i ∧ res.accepted then some seconds else none
  | _ => none

/-- The sound that it sets. -/
def setsLockSound (i : Fin n) : Asked n → Option Bool
  | ⟨.coordinator j (.updateSetting _ value), .ok res⟩ =>
    if j = i ∧ res.accepted then some (value = 1) else none
  | _ => none

/-- The settings of one lock with those that an exchange sets. -/
def LockSettings.after (i : Fin n) (x : Asked n) (v : LockSettings) : LockSettings :=
  ⟨(setsPassageMode i x).or v.passageModeConfig, (setsAutoLock i x).or v.autoLockSeconds,
    (setsLockSound i x).or v.lockSound⟩

theorem noted_client (i j : Fin n) (m : MethodCall) (r : Except PyError (Returned m))
    (v : Fin n → LockSettings) :
    noted (.client j m) r v i = (v i).after i ⟨.client j m, r⟩ := by
  by_cases hij : j = i
  · subst hij
    cases m with
    | setPassageMode lockId config => rcases r with e | _ | _ <;> simp [noted, LockSettings.after,
        setsPassageMode, setsAutoLock, setsLockSound]
    | setAutoLock lockId seconds => rcases r with e | _ | _ <;> simp [noted, LockSettings.after,
        setsPassageMode, setsAutoLock, setsLockSound]
    | _ => rfl
  · cases m with
    | setPassageMode lockId config => rcases r with e | _ | _ <;> simp [noted, LockSettings.after,
        setsPassageMode, setsAutoLock, setsLockSound, hij, Ne.symm hij]
    | setAutoLock lockId seconds => rcases r with e | _ | _ <;> simp [noted, LockSettings.after,
        setsPassageMode, setsAutoLock, setsLockSound, hij, Ne.symm hij]
    | _ => rfl

theorem noted_coordinator (i j : Fin n) (q : Api.Request) (r : Except PyError (Api.Reply q))
    (v : Fin n → LockSettings) :
    noted (.coordinator j q) r v i = (v i).after i ⟨.coordinator j q, r⟩ := by
  by_cases hij : j = i
  · subst hij
    have hself : noted (.coordinator j q) r v j = notedBy q r (v j) := Function.update_self ..
    rw [hself]
    cases q with
    | setAutoLockTime lockId seconds =>
      cases r with
      | error e => rfl
      | ok res => cases h : res.accepted <;> simp [notedBy, LockSettings.after, setsPassageMode,
          setsAutoLock, setsLockSound, h]
    | updateSetting lockId value =>
      cases r with
      | error e => rfl
      | ok res => cases h : res.accepted <;> simp [notedBy, LockSettings.after, setsPassageMode,
          setsAutoLock, setsLockSound, h]
    | _ => rfl
  · have hother : noted (.coordinator j q) r v i = v i := Function.update_of_ne (Ne.symm hij) ..
    rw [hother]
    cases q with
    | setAutoLockTime lockId seconds =>
      cases r <;> simp [LockSettings.after, setsPassageMode, setsAutoLock, setsLockSound, hij]
    | updateSetting lockId value =>
      cases r <;> simp [LockSettings.after, setsPassageMode, setsAutoLock, setsLockSound, hij]
    | _ => rfl

/-- What an exchange leaves of the settings of a lock: what it sets, and what there was. -/
theorem noted_eq (i : Fin n) (x : Asked n) (v : Fin n → LockSettings) :
    noted x.1 x.2 v i = (v i).after i x := by
  obtain ⟨q, r⟩ := x
  cases q with
  | client j m => exact noted_client i j m r v
  | coordinator j q => exact noted_coordinator i j q r v

/-- The last that was set in a run, or what there was. -/
def latest {γ : Type} (sets : Asked n → Option γ) (τ : List (Move (Office n) (OfficeLabel n)))
    (initial : Option γ) : Option γ := ((exchanges τ).filterMap sets).getLast?.or initial

/-- **No change of a setting is lost**: in every interleaving of calls of services, switches, events
and commands, as long as none of them puts back an earlier copy of the data, the settings of each lock
are those that the cloud was the last to accept. -/
theorem settings_latest {s₀ : Hass n} {P : Office n} {τ : List (Move (Office n) (OfficeLabel n))}
    (hr : Run officeStep ⟨s₀, []⟩ τ P) (hplace : ∀ w ∈ starts τ, w.InPlace) (i : Fin n) :
    settings P.shared i = ⟨latest (setsPassageMode i) τ (settings s₀ i).passageModeConfig,
      latest (setsAutoLock i) τ (settings s₀ i).autoLockSeconds,
      latest (setsLockSound i) τ (settings s₀ i).lockSound⟩ := by
  have hreplay := run_replays hr fun w hw s => prog_notes (hplace w hw)
  have hmode := replay_last (g := fun v : Fin n → LockSettings => (v i).passageModeConfig)
    (fun x v => congrArg LockSettings.passageModeConfig (noted_eq i x v)) (settings s₀) (exchanges τ)
  have hdelay := replay_last (g := fun v : Fin n → LockSettings => (v i).autoLockSeconds)
    (fun x v => congrArg LockSettings.autoLockSeconds (noted_eq i x v)) (settings s₀) (exchanges τ)
  have hsound := replay_last (g := fun v : Fin n → LockSettings => (v i).lockSound)
    (fun x v => congrArg LockSettings.lockSound (noted_eq i x v)) (settings s₀) (exchanges τ)
  rw [← hreplay] at hmode hdelay hsound
  exact LockSettings.ext hmode hdelay hsound

/-- All day, on these days. -/
def allDayOn (weekDays : List Weekday) : PassageModeCall :=
  ⟨some true, none, some true, none, none, some weekDays⟩

/-- The second lock refuses what the first accepts. -/
def choosy : (q : Request 2) → Except PyError (Reply q)
  | .client i (.setPassageMode _ _) => .ok (i.val = 0)
  | .coordinator _ (.setAutoLockTime _ _) => .ok ⟨some 0⟩
  | _ => .error .requestFailed

/-- Two calls for the passage mode of the first lock, and its switch for the auto-lock. The call that
was made first is accepted last. -/
def twoCalls : List (OfficeLabel 2) :=
  [.start (.command (.configurePassageMode (allDayOn [.mon])) ["lock.front", "lock.back"]),
    .start (.command (.configurePassageMode (allDayOn [.sun])) ["lock.front"]),
    .start (.coordinator ⟨0, Nat.two_pos⟩ (.setAutoLock true)),
    .reply 1 choosy, .reply 1 choosy, .reply 0 choosy, .reply 0 choosy]

theorem settings_latest_twoCalls :
    settings (play officeStep ⟨twoLocks, []⟩ twoCalls).2.shared 0 =
        ⟨some (allDayOn [.mon]).config, some 10, none⟩ ∧
      settings (play officeStep ⟨twoLocks, []⟩ twoCalls).2.shared 1 = ⟨none, none, none⟩ ∧
      settings (play officeStep ⟨twoLocks, []⟩ twoCalls).2.shared 0 =
        ⟨latest (setsPassageMode 0) (play officeStep ⟨twoLocks, []⟩ twoCalls).1
            (settings twoLocks 0).passageModeConfig,
          latest (setsAutoLock 0) (play officeStep ⟨twoLocks, []⟩ twoCalls).1
            (settings twoLocks 0).autoLockSeconds,
          latest (setsLockSound 0) (play officeStep ⟨twoLocks, []⟩ twoCalls).1
            (settings twoLocks 0).lockSound⟩ :=
  ⟨by decide, by decide, settings_latest (run_play _ _) (by decide) 0⟩

end TTLockConnect.Services.Settings
