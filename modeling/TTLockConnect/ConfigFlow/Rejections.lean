import TTLockConnect.ConfigFlow.Panel

/-! # Rejected requests in the management panel

The steps of the panel look at what the client's methods return, and have a form with the error
`api_error` for a request that was refused. But `_parse_resp` has already raised for it, so that form
is never shown for a refusal. -/

namespace TTLockConnect.ConfigFlow.Panel

open TTLockConnect.Text TTLockConnect.Models TTLockConnect.Coordinator.State
open TTLockConnect.Async.Coroutine TTLockConnect.Async.Coroutine.Coro TTLockConnect.Async.Mutex
open TTLockConnect.Async.Component
open TTLockConnect.Cloud.Client (HttpRequest HttpReply Body)
open TTLockConnect.Cloud.Replies

variable (w : Cloud) (f : Flow)

/-! ### The answers -/

theorem answers_http : Answers atGwLock Request.http (fun _ => id) w.http w.answer :=
  fun q f => ⟨congrFun Except.map_id (w.http q f.gwLock).1, rfl⟩

theorem answers_lists : Answers atCoordinator Request.api (fun _ => id) w.lists w.answer :=
  fun q f => ⟨congrFun Except.map_id (w.lists q f.coordinator).1, rfl⟩

/-! ### The requests for the lists -/

def Request.list? : Request → Option Api.Request
  | .http _ => none
  | .api q => some q

/-- The requests of the coordinator among those of a step. -/
def relisted {α : Type} (p : Step α) : List Api.Request :=
  ((p.calls w.answer f).map Prod.fst).filterMap Request.list?

theorem relisted_onApi {α : Type} (m : Cloud.Client.Method α) : relisted w f (onApi m) = [] := by
  unfold relisted onApi
  rw [calls_within (answers_http w), List.filterMap_map]
  exact List.filterMap_eq_nil_iff.mpr fun _ _ => rfl

theorem relisted_bind {α β : Type} (p : Step α) (k : α → Step β) :
    relisted w f (p >>= k) = relisted w f p ++
      match p.run w.answer f with
      | (.ok a, f') => relisted w f' (k a)
      | (.error _, _) => [] := by
  unfold relisted
  rw [calls_bind, List.map_append, List.filterMap_append]
  rcases p.run w.answer f with ⟨_ | _, f'⟩ <;> rfl

/-! ### The lists again -/

theorem run_onApi {β : Type} (m : Cloud.Client.Method β) :
    (onApi m).run w.answer f =
      ((m.run w.http f.gwLock).1, { f with gwLock := (m.run w.http f.gwLock).2 }) :=
  run_within (answers_http w) m f

/-- The flow once the credentials have been listed. -/
def Flow.listed (passcodes : List Passcode) (ekeys : List Ekey) : Flow :=
  { f with
    coordinator := Coordinator.Poll.setUpdatedData
      { f.coordinator.data with passcodes := some passcodes, ekeys := some ekeys }
      { f.coordinator with codesLastFetched := some f.coordinator.now } }

section Refresh
variable {w}

theorem run_asyncRefreshCodes {passcodes : List Passcode} {ekeys : List Ekey}
    (hpasscodes : w.passcodes = .ok passcodes) (hekeys : w.ekeys = .ok ekeys) :
    (onCoordinator Coordinator.Poll.asyncRefreshCodes).run w.answer f =
      (.ok (), f.listed passcodes ekeys) := by
  have hrun : (Coordinator.Poll.asyncRefreshCodes).run w.lists f.coordinator =
      (.ok (), (f.listed passcodes ekeys).coordinator) := by
    simp [Coordinator.Poll.asyncRefreshCodes, Api.listPasscodes, Api.listEkeys, Coordinator.Poll.now,
      run_bind, Cloud.lists, hpasscodes, hekeys, Flow.listed]
  rw [onCoordinator, run_within (answers_lists w), show atCoordinator.get f = f.coordinator from rfl,
    hrun]
  rfl

theorem relisted_asyncRefreshCodes {passcodes : List Passcode}
    (hpasscodes : w.passcodes = .ok passcodes) :
    relisted w f (onCoordinator Coordinator.Poll.asyncRefreshCodes) =
      [.listKeyboardPwd f.coordinator.lockId, .listKey f.coordinator.lockId] := by
  have hcalls : ((Coordinator.Poll.asyncRefreshCodes).calls w.lists f.coordinator).map Prod.fst =
      [.listKeyboardPwd f.coordinator.lockId, .listKey f.coordinator.lockId] := by
    cases hekeys : w.ekeys <;>
      simp [Coordinator.Poll.asyncRefreshCodes, Api.listPasscodes, Api.listEkeys,
        Coordinator.Poll.now, calls_bind, run_bind, calls_call, Cloud.lists, hpasscodes, hekeys]
  unfold relisted onCoordinator
  rw [calls_within (answers_lists w), show atCoordinator.get f = f.coordinator from rfl, hcalls]
  rfl

/-- A list that cannot be fetched. -/
theorem run_asyncRefreshCodes_of_not_lists (h : ¬ w.Lists) :
    ∃ e, ((onCoordinator Coordinator.Poll.asyncRefreshCodes).run w.answer f).1 = .error e := by
  rw [onCoordinator, run_within (answers_lists w)]
  cases hpasscodes : w.passcodes with
  | error e =>
    exact ⟨e, by simp [Coordinator.Poll.asyncRefreshCodes, Api.listPasscodes, run_bind, Cloud.lists,
      hpasscodes]⟩
  | ok passcodes =>
    cases hekeys : w.ekeys with
    | error e =>
      exact ⟨e, by simp [Coordinator.Poll.asyncRefreshCodes, Api.listPasscodes, Api.listEkeys,
        run_bind, Cloud.lists, hpasscodes, hekeys]⟩
    | ok ekeys => exact absurd ⟨⟨passcodes, hpasscodes⟩, ekeys, hekeys⟩ h

/-- Behind the lists the menu fetches nothing. -/
theorem asyncStepLockMenu_listed (passcodes : List Passcode) (ekeys : List Ekey) :
    asyncStepLockMenu.run w.answer (f.listed passcodes ekeys) =
      (.ok (.menu (showMenu (f.listed passcodes ekeys).coordinator.data)),
        f.listed passcodes ekeys) ∧
    relisted w (f.listed passcodes ekeys) asyncStepLockMenu = [] := by
  refine ⟨rfl, ?_⟩
  rw [relisted, show asyncStepLockMenu.calls w.answer (f.listed passcodes ekeys) = [] from rfl]
  rfl

end Refresh

/-! ### The end of a step -/

section Settle
variable {w} {β : Type} {m : Cloud.Client.Method β} {b : β} {taken : β → Bool}
  {refused : Step FlowResult}

theorem run_settle_of_refuses (hm : ∀ s, (m.run w.http s).1 = w.outcome b) (h : w.Refuses) :
    ((settle m taken refused).run w.answer f).1 = .error .requestFailed := by
  rw [settle, run_bind, run_onApi, hm, Response.outcome, if_pos h]

theorem run_settle_of_not_lists (hm : ∀ s, (m.run w.http s).1 = w.outcome b) (h : ¬ w.Refuses)
    (htaken : taken b = true) (hlists : ¬ w.Lists) :
    ∃ e, ((settle m taken refused).run w.answer f).1 = .error e := by
  obtain ⟨e, he⟩ := run_asyncRefreshCodes_of_not_lists
    { f with gwLock := (m.run w.http f.gwLock).2 } hlists
  refine ⟨e, ?_⟩
  rw [settle, run_bind, run_onApi, hm, Response.outcome, if_neg h]
  dsimp only
  rw [if_pos htaken, run_bind]
  generalize (onCoordinator Coordinator.Poll.asyncRefreshCodes).run w.answer _ = x at he ⊢
  obtain ⟨r, f'⟩ := x
  rw [show r = .error e from he]

/-- A request that took effect: the lists once, and the menu. -/
theorem run_settle (hm : ∀ s, (m.run w.http s).1 = w.outcome b) (h : ¬ w.Refuses)
    (htaken : taken b = true) (hlists : w.Lists) :
    ((settle m taken refused).run w.answer f).1 =
        .ok (.menu (showMenu ((settle m taken refused).run w.answer f).2.coordinator.data)) ∧
      relisted w f (settle m taken refused) =
        [.listKeyboardPwd f.coordinator.lockId, .listKey f.coordinator.lockId] := by
  obtain ⟨⟨passcodes, hpasscodes⟩, ekeys, hekeys⟩ := hlists
  obtain ⟨hmenu, hsilent⟩ := asyncStepLockMenu_listed (w := w)
    { f with gwLock := (m.run w.http f.gwLock).2 } passcodes ekeys
  have hlisted := run_asyncRefreshCodes { f with gwLock := (m.run w.http f.gwLock).2 }
    hpasscodes hekeys
  constructor
  · rw [settle, run_bind, run_onApi, hm, Response.outcome, if_neg h]
    dsimp only
    rw [if_pos htaken, run_bind, hlisted]
    dsimp only
    rw [hmenu]
  · rw [settle, relisted_bind, relisted_onApi, run_onApi, hm, Response.outcome, if_neg h]
    dsimp only
    rw [if_pos htaken, relisted_bind, relisted_asyncRefreshCodes _ hpasscodes, hlisted]
    dsimp only
    rw [hsilent]
    rfl

end Settle

/-! ### Refusals on the form -/

variable (isdigit : Char → Bool) (epochMs : Instant → ℤ)

/-- **The panel reports a refused request on its form**, and shows its menu after an accepted one. -/
structure ReportsRefusal (u : Submission) : Prop where
  refused : w.Refuses → ∃ form, ((u.step isdigit epochMs).run w.answer f).1 = .ok (.form form) ∧
    form.stepId = u.stepId ∧ form.errors = [("base", "api_error")] ∧
    ((u.step isdigit epochMs).run w.answer f).2.coordinator.data = f.coordinator.data
  accepted : ¬ w.Refuses → u.Confirmed w.body →
    ((u.step isdigit epochMs).run w.answer f).1 =
      .ok (.menu (showMenu ((u.step isdigit epochMs).run w.answer f).2.coordinator.data)) ∧
    relisted w f (u.step isdigit epochMs) =
      [.listKeyboardPwd f.coordinator.lockId, .listKey f.coordinator.lockId]

section Submissions
variable {w f isdigit epochMs}

/-- A step that comes down to its request. -/
theorem reportsRefusal_iff_of_settle {u : Submission} {β : Type} {m : Flow → Cloud.Client.Method β}
    {b : β} {taken : β → Bool} {refused : Step FlowResult}
    (hstep : u.step isdigit epochMs = (do
      let f ← get
      settle (m f) taken refused))
    (hm : ∀ s, ((m f).run w.http s).1 = w.outcome b) (htaken : taken b = true ↔ u.Confirmed w.body) :
    ReportsRefusal w f isdigit epochMs u ↔ ¬ w.Refuses ∧ (u.Confirmed w.body → w.Lists) := by
  have hrun : (u.step isdigit epochMs).run w.answer f =
      (settle (m f) taken refused).run w.answer f := by
    rw [hstep]
    rfl
  have hlist : relisted w f (u.step isdigit epochMs) =
      relisted w f (settle (m f) taken refused) := by
    rw [hstep]
    rfl
  constructor
  · intro h
    have haccepted : ¬ w.Refuses := by
      intro hrefuses
      obtain ⟨form, hform, -⟩ := h.refused hrefuses
      rw [hrun, run_settle_of_refuses f hm hrefuses] at hform
      cases hform
    refine ⟨haccepted, fun hconfirmed => ?_⟩
    by_contra hlists
    obtain ⟨e, he⟩ : ∃ e, ((settle (m f) taken refused).run w.answer f).1 = .error e :=
      run_settle_of_not_lists f hm haccepted (htaken.mpr hconfirmed) hlists
    have hmenu := (h.accepted haccepted hconfirmed).1
    rw [hrun, he] at hmenu
    cases hmenu
  · rintro ⟨haccepted, hlists⟩
    refine ⟨fun hrefuses => absurd hrefuses haccepted, fun _ hconfirmed => ?_⟩
    rw [hrun, hlist]
    exact run_settle f hm haccepted (htaken.mpr hconfirmed) (hlists hconfirmed)

variable (epochMs) in
theorem periodMs_of_wholePeriod {start end_ : Option Instant}
    (h : Submission.wholePeriod start end_) : ∃ p, periodMs epochMs start end_ = some p := by
  cases start <;> cases end_
  · exact ⟨(0, 0), rfl⟩
  · cases h
  · cases h
  · exact ⟨_, rfl⟩

theorem asyncStepAddPin_of_valid {input : AddPinInput} {p : ℤ × ℤ}
    (hpasscode : validPasscode isdigit input.passcode = true)
    (hp : periodMs epochMs input.startTime input.endTime = some p) :
    asyncStepAddPin isdigit epochMs (some input) = (do
      let f ← get
      settle (Cloud.Client.addPasscode f.api f.coordinator.lockId
          { passcode := some input.passcode
            passcodeName := some input.passcodeName
            startMinute := orNone p.1
            endMinute := orNone p.2 })
        id (addPinForm [("base", "api_error")])) := by
  rw [asyncStepAddPin, if_neg (not_not.mpr hpasscode), hp]

theorem asyncStepDeletePin_of_valid {input : DeletePinInput} {passcodeId : ℤ}
    (hid : intDec input.passcode.toList = .ok passcodeId) :
    asyncStepDeletePin (some input) = (do
      let f ← get
      settle (Cloud.Client.deletePasscode f.api f.coordinator.lockId passcodeId)
        id (deletePinForm [("base", "api_error")])) := by
  rw [asyncStepDeletePin, hid]
  rfl

theorem asyncStepSendEkey_of_valid {input : SendEkeyInput} {p : ℤ × ℤ}
    (hp : periodMs epochMs input.startTime input.endTime = some p) :
    asyncStepSendEkey epochMs (some input) = (do
      let f ← get
      settle (Cloud.Client.sendEkey f.api f.coordinator.lockId input.receiverUsername input.name
          p.1 p.2 none input.remoteEnable (input.createUser.getD false))
        Option.isSome (sendEkeyForm [("base", "api_error")])) := by
  rw [asyncStepSendEkey, hp]

theorem taken_id : id true = true ↔ True := iff_of_true rfl trivial

variable (w f epochMs) in
/-- **A valid input is dealt with as it should be exactly if** the request is not refused, and both
lists can be fetched after one that took effect. -/
theorem reportsRefusal_iff {u : Submission} (hu : u.Valid isdigit) :
    ReportsRefusal w f isdigit epochMs u ↔ ¬ w.Refuses ∧ (u.Confirmed w.body → w.Lists) := by
  cases u with
  | addPin input =>
    obtain ⟨hpasscode, hperiod⟩ := hu
    obtain ⟨p, hp⟩ := periodMs_of_wholePeriod epochMs hperiod
    refine reportsRefusal_iff_of_settle (asyncStepAddPin_of_valid hpasscode hp) (fun s => ?_) taken_id
    exact run_relay w.toResponse f.api .post "keyboardPwd/add" _ s
  | deletePin input =>
    obtain ⟨passcodeId, hlength, htext⟩ := hu
    have hid : intDec input.passcode.toList = .ok passcodeId := by
      rw [htext, String.toList_ofList, Readings.intDec_str, if_neg (not_lt.mpr hlength)]
    refine reportsRefusal_iff_of_settle (asyncStepDeletePin_of_valid hid) (fun s => ?_) taken_id
    exact run_relay w.toResponse f.api .post "keyboardPwd/delete" _ s
  | sendEkey input =>
    obtain ⟨p, hp⟩ := periodMs_of_wholePeriod epochMs hu
    refine reportsRefusal_iff_of_settle (asyncStepSendEkey_of_valid hp) (fun s => ?_) Iff.rfl
    exact run_sendEkey w.toResponse ..

end Submissions

/-! ### A PIN for the front door -/

/-- A lock whose credentials are known. -/
def frontDoor : Flow where
  coordinator :=
    { lockId := 7, connectable := true, hasGateway := true, slowInterval := 1
      slowInterval_pos := Int.one_pos, webhookOnly := false, bluetoothAvailable := false
      data := { name := "door", mac := "00:00", passcodes := some [], ekeys := some [] }
      now := ⟨0, 0⟩ }
  api := 0
  gwLock := ⟨false, ()⟩

/-- A PIN for good. -/
def guestPin : Submission := .addPin ⟨"guest", "1234", none, none⟩

theorem guestPin_valid : guestPin.Valid Char.isDigit := ⟨by decide, rfl⟩

/-- A cloud with this reply to the request, and a lock without credentials. -/
def replying (errcode : Option ℤ) : Cloud :=
  ⟨⟨true, ⟨errcode, some "gateway offline", none, .ok ()⟩⟩, .ok [], .ok []⟩

/-- A PIN that is created. -/
theorem guestPin_reported : ReportsRefusal (replying (some 0)) frontDoor Char.isDigit (· / 1000)
    guestPin :=
  (reportsRefusal_iff (replying (some 0)) frontDoor (· / 1000) guestPin_valid).mpr
    ⟨by decide, fun _ => ⟨⟨[], rfl⟩, [], rfl⟩⟩

/-- **The refusal of an offline gateway is raised** instead of shown on the form. -/
theorem guestPin_raises : ¬ ∀ (w : Cloud) (f : Flow) (isdigit : Char → Bool)
    (epochMs : Instant → ℤ) (u : Submission), u.Valid isdigit →
      ReportsRefusal w f isdigit epochMs u := by
  intro hall
  have hreports := hall (replying (some (-2012))) frontDoor Char.isDigit (· / 1000) guestPin
    guestPin_valid
  obtain ⟨form, hform, -⟩ := hreports.refused (by decide)
  have hraised : ((guestPin.step Char.isDigit (· / 1000)).run (replying (some (-2012))).answer
      frontDoor).1 = .error .requestFailed := by rfl
  rw [hraised] at hform
  cases hform

end TTLockConnect.ConfigFlow.Panel
