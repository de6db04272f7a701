import TTLockConnect.Coordinator.Tiers

/-! # The writers of a coordinator's data

What every writer guarantees while others run (`prog_sat`), and from it, for every run of the event
loop, what a poll or a code refresh does to the fields it has not fetched: it puts back the values
they had when it copied the data. -/

namespace TTLockConnect.Coordinator.Writers

open TTLockConnect.Text TTLockConnect.Models TTLockConnect.Ble.Protocol TTLockConnect.Api
open TTLockConnect.Coordinator.State TTLockConnect.Coordinator.Poll TTLockConnect.Coordinator.Fields
open TTLockConnect.Coordinator.Readings TTLockConnect.Coordinator.Tiers
open TTLockConnect.Async.Coroutine TTLockConnect.Async.Coroutine.Coro TTLockConnect.Async.EventLoop
open TTLockConnect.Async.Runs

/-- The event loop with the tasks of one coordinator. -/
abbrev Loop := Pool LockUpdateCoordinator Request Reply PyError Job

/-- The moves of the event loop. -/
abbrev LoopLabel := Label Reply PyError Job

/-- The tasks that end by replacing the data with what they made of a copy. -/
def Job.copies : Job → Bool
  | .refresh | .refreshCodes => true
  | _ => false

/-- The tasks that raise the flag of a command. -/
def Job.commands : Job → Bool
  | .lock | .unlock => true
  | _ => false

/-- A poll or a code refresh has ended by replacing the data. -/
def Replaced (r : Except PyError Unit) (c : LockUpdateCoordinator) : Prop :=
  r = .ok () ∧ c.lastUpdateSuccess = true

/-- What a segment that ends in an `await` does to the data. -/
def Guarantee (w : Job) (s s' : LockUpdateCoordinator) : Prop :=
  s'.data = if Job.commands w then { s.data with actionPending := true } else s.data

/-- What the last segment of a task does to the data, which were `born.data` when it started. -/
structure Post (gateway : Bool) (w : Job) (born : LockUpdateCoordinator) (l : Log)
    (s s' : LockUpdateCoordinator) (r : Except PyError Unit) : Prop where
  inv : Inv gateway s'
  replaced : Job.copies w → Replaced r s' → Carries gateway born.data l s'.data
  kept : Job.copies w → ¬ Replaced r s' → s'.data = s.data
  command : Job.commands w → s'.data.actionPending = false
  other : ¬ Job.copies w → ¬ Job.commands w → s'.data.actionPending = s.data.actionPending

variable {gateway : Bool} {c s : LockUpdateCoordinator} {d d' : LockState} {event : WebhookEvent}

/-! ### Writers without a copy -/

theorem consistent_congr (h : Consistent gateway d) (hf : d'.features = d.features)
    (hs : d.sensor = none → d'.sensor = none) (hg : d'.gateways = d.gateways) :
    Consistent gateway d' :=
  ⟨fun hd => hs (h.sensor (by rwa [← hf])), fun hd => by rw [hg]; exact h.gateways hd⟩

/-- What an event leaves as it is. -/
structure EventFrame (d d' : LockState) : Prop where
  features : d'.features = d.features
  sensor : d.sensor = none → d'.sensor = none
  gateways : d'.gateways = d.gateways
  actionPending : d'.actionPending = d.actionPending

theorem applyEventState_frame : EventFrame d (applyEventState event d) := by
  unfold applyEventState
  constructor <;> (split <;> split_ifs <;> simp)

theorem applyEventSensor_frame : EventFrame d (applyEventSensor event d) := by
  unfold applyEventSensor
  split_ifs with h
  · have hs : d.sensor ≠ none := by
      rintro hs
      rw [hs] at h
      exact absurd h (by simp [sensorPresent])
    split <;> exact ⟨rfl, fun h => absurd h hs, rfl, rfl⟩
  · exact ⟨rfl, id, rfl, rfl⟩

theorem EventFrame.trans {d'' : LockState} (h : EventFrame d d') (h' : EventFrame d' d'') :
    EventFrame d d'' :=
  ⟨h'.features.trans h.features, fun hs => h'.sensor (h.sensor hs), h'.gateways.trans h.gateways,
    h'.actionPending.trans h.actionPending⟩

theorem webhookData_frame : EventFrame d (webhookData event d) :=
  have h : EventFrame d { d with batteryLevel := event.batteryLevel } := ⟨rfl, id, rfl, rfl⟩
  h.trans (applyEventState_frame.trans applyEventSensor_frame)

theorem processWebhookData_frame : EventFrame c.data (processWebhookData event c).1.data := by
  rw [processWebhookData_fst]
  split_ifs
  · exact ⟨rfl, id, rfl, rfl⟩
  · exact webhookData_frame

theorem processWebhookData_hasGateway :
    (processWebhookData event c).1.hasGateway = c.hasGateway := by
  rw [processWebhookData_fst]
  split_ifs <;> rfl

/-! ### The specification of every task -/

theorem post_other {w : Job} {born : LockUpdateCoordinator} {l : Log}
    {s' : LockUpdateCoordinator} {r : Except PyError Unit} (hw : Job.copies w = false)
    (hc : Job.commands w = false) (hi : Inv gateway s')
    (hp : s'.data.actionPending = s.data.actionPending) : Post gateway w born l s s' r :=
  ⟨hi, fun h => absurd (hw.symm.trans h) (by simp), fun h => absurd (hw.symm.trans h) (by simp),
    fun h => absurd (hc.symm.trans h) (by simp), fun _ _ => hp⟩

/-- What the tiers guarantee of the data they build, the poll guarantees. -/
theorem asyncUpdateData_sat {P : Log → LockState → Prop} (hi : Inv gateway s)
    (h : fetchAll.Sat (Inv gateway) Keep (Reads gateway (OnOk P)) [] s s) :
    asyncUpdateData.Sat (Inv gateway) Keep (Reads gateway (OnOk P)) [] s s := by
  unfold asyncUpdateData
  refine (sat_bind _).mpr (sat_get.mpr ?_)
  refine sat_ite (fun _ => ⟨hi, rfl, onOk_error⟩) fun _ => ?_
  refine (sat_tryCatch _).mpr (h.mono fun l s₀ s' r h => ?_)
  cases r with
  | ok d => exact h
  | error e =>
    refine sat_ite (fun _ => ?_) fun _ => ?_ <;> exact ⟨h.inv, h.keep, onOk_error⟩

/-- … and it is what the data are replaced by, unless the poll fails. -/
theorem asyncRefresh_sat {P : Log → LockState → Prop} (hi : Inv gateway s)
    (h : fetchAll.Sat (Inv gateway) Keep (Reads gateway (OnOk P)) [] s s) :
    asyncRefresh.Sat (Inv gateway) (Guarantee .refresh)
      (fun l s₀ s' r => s'.hasGateway = gateway ∧ (Replaced r s' → P l s'.data) ∧
        (¬ Replaced r s' → s'.data = s₀.data ∧ Consistent gateway s'.data)) [] s s := by
  unfold asyncRefresh
  refine (sat_tryCatch _).mpr ((sat_bind _).mpr ((asyncUpdateData_sat hi h).mono ?_))
  intro l s₀ s' r h
  cases r with
  | ok d => exact ⟨h.inv.hasGateway, fun _ => h.post d rfl, fun hr => absurd ⟨rfl, rfl⟩ hr⟩
  | error e =>
    refine sat_ite (fun _ => ?_) fun _ => ?_
    · exact ⟨h.inv.hasGateway, fun hr => absurd hr.2 (by simp), fun _ => ⟨h.keep, h.inv.data⟩⟩
    · exact ⟨h.inv.hasGateway, fun hr => absurd hr.1 (by simp), fun _ => ⟨h.keep, h.inv.data⟩⟩

theorem refresh_sat (hi : Inv gateway s) :
    asyncRefresh.Sat (Inv gateway) (Guarantee .refresh) (Post gateway .refresh s) [] s s := by
  refine (asyncRefresh_sat hi (fetchAll_reading hi)).mono fun l s₀ s' r h => ?_
  obtain ⟨hg, hrep, hkept⟩ := h
  refine ⟨⟨hg, ?_⟩, fun _ => hrep, fun _ hr => (hkept hr).1, nofun, nofun⟩
  by_cases hr : Replaced r s'
  · exact (hrep hr).consistent
  · exact (hkept hr).2

theorem asyncRefreshCodes_sat (hi : Inv gateway s) :
    asyncRefreshCodes.Sat (Inv gateway) (Guarantee .refreshCodes)
      (Post gateway .refreshCodes s) [] s s := by
  unfold asyncRefreshCodes
  refine (sat_bind _).mpr (sat_get.mpr ?_)
  have herr {l : Log} {s' : LockUpdateCoordinator} {e : PyError} (h : Inv gateway s') :
      Post gateway .refreshCodes s l s' s' (.error e) :=
    ⟨h, fun _ hr => absurd hr.1 (by simp), fun _ _ => rfl, nofun, nofun⟩
  refine (sat_bind _).mpr (sat_call.mpr ⟨hi, rfl, fun passcodes s₁ h₁ => ?_⟩)
  cases passcodes with
  | error e => exact herr h₁
  | ok passcodes =>
    refine (sat_bind _).mpr (sat_call.mpr ⟨h₁, rfl, fun ekeys s₂ h₂ => ?_⟩)
    cases ekeys with
    | error e => exact herr h₂
    | ok ekeys =>
      have hc : Carries gateway s.data [⟨.listKeyboardPwd s.lockId, .ok passcodes⟩]
          { s.data with passcodes := some passcodes } := by
        refine hi.data.carries.update (fun f h => ?_) ⟨hi.data.sensor, hi.data.gateways⟩
        cases f <;> first | rfl | simp [fetchedBy] at h
      have hc' : Carries gateway s.data
          [⟨.listKeyboardPwd s.lockId, .ok passcodes⟩, ⟨.listKey s.lockId, .ok ekeys⟩]
          { s.data with passcodes := some passcodes, ekeys := some ekeys } := by
        refine hc.update (fun f h => ?_) ⟨hi.data.sensor, hi.data.gateways⟩
        cases f <;> first | rfl | simp [fetchedBy] at h
      refine ⟨⟨h₂.hasGateway, hc'.consistent⟩, fun _ _ => hc', fun _ hr => ?_, nofun, nofun⟩
      exact absurd ⟨rfl, rfl⟩ hr

theorem inv_congr {s' : LockUpdateCoordinator} (h : Inv gateway s)
    (hg : s'.hasGateway = s.hasGateway) (hf : s'.data.features = s.data.features)
    (hs : s.data.sensor = none → s'.data.sensor = none)
    (hgs : s'.data.gateways = s.data.gateways) : Inv gateway s' :=
  ⟨hg.trans h.hasGateway, consistent_congr h.data hf hs hgs⟩

/-- **A command leaves with the flag down**, whatever becomes of it. -/
theorem lockAction_sat {w : Job} (hc : Job.copies w = false) (hw : Job.commands w = true)
    {body : Method Unit} (hb : body.Sat (Inv gateway) (Guarantee w)
      (fun _ _ s' _ => Inv gateway s') [] s { s with data := { s.data with actionPending := true } }) :
    (lockAction body).Sat (Inv gateway) (Guarantee w) (Post gateway w s) [] s s := by
  have hpost {l : Log} {s₀ s' : LockUpdateCoordinator} {r : Except PyError Unit}
      (h : Inv gateway s') : Post gateway w s l s₀
        { s' with data := { s'.data with actionPending := false } } r :=
    ⟨⟨h.hasGateway, ⟨h.data.sensor, h.data.gateways⟩⟩, fun h => absurd (hc.symm.trans h) (by simp),
      fun h => absurd (hc.symm.trans h) (by simp), fun _ => rfl, fun _ h => absurd hw h⟩
  unfold lockAction
  refine (sat_bind _).mpr (sat_modify.mpr ?_)
  refine (sat_bind _).mpr ((sat_tryCatch _).mpr (hb.mono fun l s₀ s' r h => ?_))
  cases r with
  | ok _ => exact hpost h
  | error e => exact hpost h

/-- A request of the cloud, and a change of the coordinator if it is accepted. -/
theorem accepted_sat {G : LockUpdateCoordinator → LockUpdateCoordinator → Prop} {q : Request}
    {accepted : Reply q → Bool} {change : LockUpdateCoordinator → LockUpdateCoordinator}
    {Q : Log → LockUpdateCoordinator → LockUpdateCoordinator → Except PyError Unit → Prop}
    {l : Log} {s₀ s : LockUpdateCoordinator} (hi : Inv gateway s) (hg : G s₀ s)
    (hkept : ∀ l s₁ r, Inv gateway s₁ → Q l s₁ s₁ r)
    (hchange : ∀ l s₁, Inv gateway s₁ → Q l s₁ (change s₁) (.ok ())) :
    (do
      let res ← (do let res ← request q; pure (accepted res) : Method Bool)
      if res then modify change : Method Unit).Sat (Inv gateway) G Q l s₀ s := by
  refine (sat_bind _).mpr ((sat_bind _).mpr (sat_call.mpr ⟨hi, hg, fun res s₁ h₁ => ?_⟩))
  cases res with
  | error e => exact hkept _ s₁ _ h₁
  | ok res => exact sat_ite (fun _ => hchange _ s₁ h₁) fun _ => hkept _ s₁ _ h₁

theorem lock_sat (hi : Inv gateway s) :
    lock.Sat (Inv gateway) (Guarantee .lock) (Post gateway .lock s) [] s s := by
  refine lockAction_sat rfl rfl ((sat_bind _).mpr (sat_get.mpr ?_))
  refine accepted_sat (inv_congr hi rfl rfl id rfl) rfl (fun _ _ _ h₁ => h₁) fun _ _ h₁ => ?_
  exact inv_congr h₁ rfl rfl id rfl

theorem unlock_sat (hi : Inv gateway s) :
    unlock.Sat (Inv gateway) (Guarantee .unlock) (Post gateway .unlock s) [] s s := by
  refine lockAction_sat rfl rfl ((sat_bind _).mpr (sat_get.mpr ?_))
  refine accepted_sat (inv_congr hi rfl rfl id rfl) rfl (fun _ _ _ h₁ => h₁) fun _ _ h₁ => ?_
  exact inv_congr h₁ rfl rfl id rfl

theorem setAutoLock_sat (on : Bool) (hi : Inv gateway s) :
    (setAutoLock on).Sat (Inv gateway) (Guarantee (.setAutoLock on))
      (Post gateway (.setAutoLock on) s) [] s s := by
  refine (sat_bind _).mpr (sat_get.mpr ?_)
  refine accepted_sat hi rfl (fun _ _ _ h₁ => post_other rfl rfl h₁ rfl) fun _ _ h₁ => ?_
  exact post_other rfl rfl (inv_congr h₁ rfl rfl id rfl) rfl

theorem setLockSound_sat (on : Bool) (hi : Inv gateway s) :
    (setLockSound on).Sat (Inv gateway) (Guarantee (.setLockSound on))
      (Post gateway (.setLockSound on) s) [] s s := by
  refine (sat_bind _).mpr (sat_get.mpr ?_)
  refine accepted_sat hi rfl (fun _ _ _ h₁ => post_other rfl rfl h₁ rfl) fun _ _ h₁ => ?_
  exact post_other rfl rfl (inv_congr h₁ rfl rfl id rfl) rfl

theorem autoLocked_sat (seconds : ℤ) (offset : Duration) (hi : Inv gateway s) :
    (autoLocked seconds offset).Sat (Inv gateway) (Guarantee (.autoLocked seconds offset))
      (Post gateway (.autoLocked seconds offset) s) [] s s := by
  have hlast {l : Log} {s₁ : LockUpdateCoordinator} {r : Except PyError Unit}
      (h₁ : Inv gateway s₁) : Post gateway (.autoLocked seconds offset) s l s₁
        (setUpdatedData (autoLockedData s₁.data) s₁) r :=
    post_other rfl rfl (inv_congr h₁ rfl rfl id rfl) rfl
  unfold autoLocked
  split_ifs
  · refine (sat_bind _).mpr (sat_call.mpr ⟨hi, rfl, fun r s₁ h₁ => ?_⟩)
    cases r with
    | error e => exact post_other rfl rfl h₁ rfl
    | ok _ => exact hlast h₁
  · exact hlast hi

/-- **Every task meets its specification.** -/
theorem prog_sat (w : Job) (s : LockUpdateCoordinator) (hi : Inv gateway s) :
    (prog w).Sat (Inv gateway) (Guarantee w) (Post gateway w s) [] s s := by
  cases w with
  | refresh => exact refresh_sat hi
  | refreshCodes => exact asyncRefreshCodes_sat hi
  | lock => exact lock_sat hi
  | unlock => exact unlock_sat hi
  | setAutoLock on => exact setAutoLock_sat on hi
  | setLockSound on => exact setLockSound_sat on hi
  | autoLocked seconds offset => exact autoLocked_sat seconds offset hi
  | webhook event =>
    have h : EventFrame s.data (processWebhookData event s).1.data := processWebhookData_frame
    exact post_other rfl rfl
      (inv_congr hi processWebhookData_hasGateway h.features h.sensor h.gateways) h.actionPending
  | clock now offsetDayAgo => exact post_other rfl rfl ⟨hi.hasGateway, hi.data⟩ rfl
  | presence inRange => exact post_other rfl rfl ⟨hi.hasGateway, hi.data⟩ rfl
  | webhookStatus status => exact post_other rfl rfl ⟨hi.hasGateway, hi.data⟩ rfl

end TTLockConnect.Coordinator.Writers
