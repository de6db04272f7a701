import TTLockConnect.Async.Relies
import TTLockConnect.ConfigFlow.Panel
import TTLockConnect.Coordinator.Asked

/-! # Conversations with the options flow

`TTLockOptionsFlow` as a whole: the menus and forms it shows one after the other, what a user answers,
and what it remembers in between, which is the coordinator of the lock that was picked. Any number of
flows of an entry are open at once, beside everything else that its coordinators do; so when an answer
arrives, the credentials of the lock may be others than those the form was made from. A flow can also be
answered once more while it works on an answer, from what it still shows.

A flow changes only what it has shown: the lock that was picked, and of it a credential that was there
to choose, with the status it was offered for. That it is still the lock that was picked rests on the
menu of a lock, which does not lead back to the form of the locks. -/

namespace TTLockConnect.ConfigFlow.Conversation

open TTLockConnect.Text TTLockConnect.Models TTLockConnect.Coordinator.State
open TTLockConnect.Async.Coroutine TTLockConnect.Async.Coroutine.Coro TTLockConnect.Async.Runs
open TTLockConnect.Async.Component TTLockConnect.Async.EventLoop TTLockConnect.Async.Mutex
open TTLockConnect.Async.Requests TTLockConnect.Async.Relies TTLockConnect.Coordinator.Asked
open TTLockConnect.ConfigFlow.Panel
open TTLockConnect.Coordinator.Overwrite (sampleCoordinator)
open TTLockConnect.Cloud.Client (HttpRequest HttpReply Verb Kwargs)

/-! ### The actions on an ekey -/

/-- The steps of `_ekey_action_step`. -/
inductive EkeyAction where
  | delete
  | freeze
  | unfreeze
  deriving DecidableEq, Repr

namespace EkeyAction

def stepId : EkeyAction → String
  | delete => "delete_ekey"
  | freeze => "freeze_ekey"
  | unfreeze => "unfreeze_ekey"

/-- The status of the ekeys it is offered for, if only for some. -/
def status : EkeyAction → Option String
  | delete => none
  | freeze => some "normal"
  | unfreeze => some "frozen"

/-- The method of the client. -/
def method : EkeyAction → (client : ℕ) → (keyId : ℤ) → Cloud.Client.Method Unit
  | delete => Cloud.Client.deleteEkey
  | freeze => Cloud.Client.freezeEkey
  | unfreeze => Cloud.Client.unfreezeEkey

/-- The path of its request. -/
def path : EkeyAction → String
  | delete => "key/delete"
  | freeze => "key/freeze"
  | unfreeze => "key/unfreeze"

/-- The action of a step. -/
def ofStepId (id : String) : Option EkeyAction :=
  [delete, freeze, unfreeze].find? fun a => a.stepId = id

end EkeyAction

/-- `_ekey_choices`. -/
def ekeyChoices (status : Option String) (data : LockState) : List SelectOption :=
  ((data.ekeys.getD []).filter fun ekey => status.all fun st => ekey.status = st).filterMap
    fun ekey => ekey.id.map fun id =>
      { value := String.ofList (Readings.str id)
        label := ekey.name.getD "None" ++ " — " ++ ekey.username.getD "None" }

/-- `_ekey_action_step`. -/
def ekeyActionStep (a : EkeyAction) : Option String → Step FlowResult
  | some ekey => do
    let f ← get
    let keyId ← fromExcept (intDec ekey.toList)
    onApi (a.method f.api keyId)
    onCoordinator Coordinator.Poll.asyncRefreshCodes
    asyncStepLockMenu
  | none => do
    let f ← get
    if ekeyChoices a.status f.coordinator.data = [] then asyncStepLockMenu
    else
      pure (.form
        { stepId := a.stepId
          errors := []
          lock := f.coordinator.data.name
          dataSchema :=
            [⟨"ekey", true, none, .select (ekeyChoices a.status f.coordinator.data)⟩] })

/-! ### What is shown and answered -/

/-- The steps of the flow. -/
inductive StepId where
  | init
  | cadence
  | codes
  | lockMenu
  | finish
  | addPin
  | deletePin
  | sendEkey
  | ekey (a : EkeyAction)
  deriving DecidableEq, Repr

/-- The name of a step. -/
def StepId.name : StepId → String
  | .init => "init"
  | .cadence => "cadence"
  | .codes => "codes"
  | .lockMenu => "lock_menu"
  | .finish => "finish"
  | .addPin => "add_pin"
  | .deletePin => "delete_pin"
  | .sendEkey => "send_ekey"
  | .ekey a => a.stepId

/-- `menu_options` of `async_step_init`. -/
def initOptions : List String := ["cadence", "codes"]

/-- What a user answers: a choice from a menu, or the input of a form. -/
inductive UserInput (O : Type) where
  | next (step : StepId)
  | cadence (options : O)
  | lock (lock : String)
  | addPin (input : AddPinInput)
  | deletePin (input : DeletePinInput)
  | sendEkey (input : SendEkeyInput)
  | ekey (ekey : String)
  deriving DecidableEq, Repr

/-- What the flow shows. -/
inductive Shown (n : ℕ) where
  | init
  | cadence
  /-- the form of `codes`, with the locks to pick from -/
  | codes (options : List SelectOption)
  /-- what a step has shown for lock `i`, whose data were `data` then -/
  | lock (i : Fin n) (data : LockState) (r : FlowResult)
  deriving DecidableEq, Repr

/-- What there is to choose. -/
def values : Selector → List String
  | .select options => options.map SelectOption.value
  | _ => []

/-- The value is there to choose, under that key. -/
def offers (form : Form) (key value : String) : Prop :=
  ∃ field ∈ form.dataSchema, field.key = key ∧ value ∈ values field.selector

instance (form : Form) (key value : String) : Decidable (offers form key value) :=
  List.decidableBEx _ _

/-- The input fits what is shown: a menu is answered by one of its steps, a form by its own input, in
which what is chosen was there to choose. -/
def Accepts {n : ℕ} {O : Type} : Shown n → UserInput O → Prop
  | .init, .next step => step.name ∈ initOptions
  | .cadence, .cadence _ => True
  | .codes options, .lock lock => lock ∈ options.map SelectOption.value
  | .lock _ _ (.menu menu), .next step => step.name ∈ menu.menuOptions
  | .lock _ _ (.form form), .addPin _ => form.stepId = "add_pin"
  | .lock _ _ (.form form), .deletePin input =>
    form.stepId = "delete_pin" ∧ offers form "passcode" input.passcode
  | .lock _ _ (.form form), .sendEkey _ => form.stepId = "send_ekey"
  | .lock _ _ (.form form), .ekey ekey => offers form "ekey" ekey
  | _, _ => False

instance {n : ℕ} {O : Type} (shown : Shown n) (input : UserInput O) :
    Decidable (Accepts shown input) := by
  unfold Accepts
  split <;> infer_instance

/-! ### The flows of an entry -/

/-- A flow that waits for an answer. -/
structure Dialog (n : ℕ) where
  /-- `_coordinator` -/
  coordinator : Option (Fin n)
  shown : Shown n
  deriving DecidableEq, Repr

/-- The entry with its coordinators, and its flows that are not over. -/
structure Flows (n k : ℕ) (O : Type) where
  /-- The entry has its record with the locks. -/
  loaded : Bool
  coordinators : Fin n → LockUpdateCoordinator
  api : ℕ
  gwLock : Guarded Unit
  options : O
  dialogs : Fin k → Option (Dialog n)

variable {n k : ℕ} {O : Type}

/-- The lock of a step. -/
def flowAt (i : Fin n) : Place (Flows n k O) Flow where
  get s := ⟨s.coordinators i, s.api, s.gwLock⟩
  put f s := { s with
    coordinators := Function.update s.coordinators i f.coordinator
    api := f.api
    gwLock := f.gwLock }
  get_put f s := by simp
  put_put f f' s := by simp
  put_get s := by simp

/-- A coroutine of a flow; a request is about a lock. -/
abbrev Flowing (n k : ℕ) (O α : Type) :=
  Coro (Flows n k O) (Fin n × Panel.Request) (fun q => Panel.Reply q.2) PyError α

/-- What a step ends with. -/
inductive Outcome (n : ℕ) (O : Type) where
  | shown (shown : Shown n)
  | createEntry (data : O)
  | abort (reason : String)

/-- A step for the lock that was picked. -/
def onLock (coordinator : Option (Fin n)) (p : Step FlowResult) : Flowing n k O (Outcome n O) :=
  match coordinator with
  -- `assert coordinator is not None`
  | none => throw .runtimeError
  | some i => do
    let r ← within (flowAt i) (Prod.mk i) (fun _ => id) p
    let s ← get
    return .shown (.lock i (s.coordinators i).data r)

/-- `_connectable_coordinators`, of an entry that is loaded. -/
def connectableCoordinators (s : Flows n k O) : List (Fin n) :=
  (List.finRange n).filter fun i => (s.coordinators i).connectable

/-- `str(coordinator.lock_id)` -/
def lockValue (s : Flows n k O) (i : Fin n) : String :=
  String.ofList (Readings.str (s.coordinators i).lockId)

/-- What `async_step_codes` comes to: an end, a form, or a lock. -/
inductive Pick (n : ℕ) where
  | abort (reason : String)
  | form (options : List SelectOption)
  | lock (i : Fin n)

/-- `async_step_codes`, up to the menu of the lock. -/
def asyncStepCodes (s : Flows n k O) (input : Option String) : Except PyError (Pick n) :=
  if ¬ s.loaded then .ok (.abort "not_loaded")
  else
    match connectableCoordinators s, input with
    | [], _ => .ok (.abort "no_locks")
    | coordinators, some lock =>
      match coordinators.find? fun i => lockValue s i = lock with
      | some i => .ok (.lock i)
      -- what `StopIteration` becomes in a coroutine
      | none => .error .runtimeError
    | [i], none => .ok (.lock i)
    | coordinators, none => .ok (.form (coordinators.map fun i =>
        { value := lockValue s i, label := (s.coordinators i).data.name }))

/-- The lock of the flow, and how it goes on. -/
def goOn (d : Dialog n) : Except PyError (Pick n) → Option (Fin n) × Flowing n k O (Outcome n O)
  | .error err => (d.coordinator, throw err)
  | .ok (.abort reason) => (d.coordinator, return .abort reason)
  | .ok (.form options) => (d.coordinator, return .shown (.codes options))
  | .ok (.lock i) => (some i, onLock (some i) asyncStepLockMenu)

section Steps
variable (isdigit : Char → Bool) (epochMs : Instant → ℤ)

/-- The action of the form that is shown. -/
def Shown.action : Shown n → Option EkeyAction
  | .lock _ _ (.form form) => EkeyAction.ofStepId form.stepId
  | _ => none

/-- The step that an answer leads to: the lock of the flow from now on, and what is done. -/
def answer (s : Flows n k O) (d : Dialog n) :
    UserInput O → Option (Fin n) × Flowing n k O (Outcome n O)
  | .next .init => (d.coordinator, return .shown .init)
  | .next .cadence => (d.coordinator, return .shown .cadence)
  | .cadence options => (d.coordinator, return .createEntry options)
  | .next .finish => (d.coordinator, return .createEntry s.options)
  | .next .codes => goOn d (asyncStepCodes s none)
  | .lock lock => goOn d (asyncStepCodes s (some lock))
  | .next .lockMenu => (d.coordinator, onLock d.coordinator asyncStepLockMenu)
  | .next .addPin => (d.coordinator, onLock d.coordinator (asyncStepAddPin isdigit epochMs none))
  | .addPin input =>
    (d.coordinator, onLock d.coordinator (asyncStepAddPin isdigit epochMs (some input)))
  | .next .deletePin => (d.coordinator, onLock d.coordinator (asyncStepDeletePin none))
  | .deletePin input => (d.coordinator, onLock d.coordinator (asyncStepDeletePin (some input)))
  | .next .sendEkey => (d.coordinator, onLock d.coordinator (asyncStepSendEkey epochMs none))
  | .sendEkey input =>
    (d.coordinator, onLock d.coordinator (asyncStepSendEkey epochMs (some input)))
  | .next (.ekey a) => (d.coordinator, onLock d.coordinator (ekeyActionStep a none))
  | .ekey ekey =>
    match d.shown.action with
    | some a => (d.coordinator, onLock d.coordinator (ekeyActionStep a (some ekey)))
    | none => (d.coordinator, throw .runtimeError)

/-- Flow `f` is this from now on, or over. -/
def setDialog (f : Fin k) (d : Option (Dialog n)) (s : Flows n k O) : Flows n k O :=
  { s with dialogs := Function.update s.dialogs f d }

/-- What flow `f` shows from now on, unless it is over. -/
def setShown (f : Fin k) (shown : Shown n) (s : Flows n k O) : Flows n k O :=
  setDialog f ((s.dialogs f).map fun d => { d with shown := shown }) s

/-- What a flow is told: Home Assistant's `FlowManager.async_configure`, after its documentation. It
goes on showing what it has shown until the step is over, and if the step raises. -/
def configure (f : Fin k) (input : UserInput O) : Flowing n k O Unit := do
  let s ← get
  match s.dialogs f with
  | none => return ()
  | some d =>
    if Accepts d.shown input then do
      let (coordinator, p) := answer isdigit epochMs s d input
      modify (setDialog f (some ⟨coordinator, d.shown⟩))
      let outcome ← p
      match outcome with
      | .shown shown => modify (setShown f shown)
      | .createEntry data => modify fun s => { setDialog f none s with options := data }
      | .abort _ => modify (setDialog f none)
    else throw .validationError

/-- What happens to the entry. -/
inductive Job (n k : ℕ) (O : Type) where
  | configure (f : Fin k) (input : UserInput O)
  | coordinator (i : Fin n) (job : Coordinator.Poll.Job)
  | loaded (loaded : Bool)
  | options (options : O)

/-- A job. -/
def prog : Job n k O → Flowing n k O Unit
  | .configure f input => configure isdigit epochMs f input
  | .coordinator i job =>
    within (flowAt i) (Prod.mk i) (fun _ => id) (onCoordinator (Coordinator.Poll.prog job))
  | .loaded loaded => modify fun s => { s with loaded := loaded }
  | .options options => modify fun s => { s with options := options }

end Steps

/-- The event loop of an entry and its flows. -/
abbrev Loop (n k : ℕ) (O : Type) := Pool (Flows n k O) (Fin n × Panel.Request)
  (fun q => Panel.Reply q.2) PyError (Job n k O)

abbrev FlowLabel (n k : ℕ) (O : Type) :=
  @Label (Fin n × Panel.Request) (fun q => Panel.Reply q.2) PyError (Job n k O)

/-- Flows that have just been opened. -/
def opened (k : ℕ) (coordinators : Fin n → LockUpdateCoordinator) (api : ℕ) (options : O) :
    Loop n k O :=
  ⟨⟨true, coordinators, api, ⟨false, ()⟩, options, fun _ => some ⟨none, .init⟩⟩, []⟩

/-! ### What the methods of the client send -/

/-- The only request proper is this one. -/
def SendsOnly (verb : Verb) (path : String) (kwargs : Kwargs) : Demand HttpRequest → Prop
  | .ask (.send verb' path' kwargs') => verb' = verb ∧ path' = path ∧ kwargs' = kwargs
  | _ => True

/-- A part of a method of the client. -/
def Sending {α : Type} (permits : Demand HttpRequest → Prop) (m : Cloud.Client.Method α) : Prop :=
  ∀ s, Sends (fun _ => True) (fun _ => permits) (fun _ _ => True) m s

section Sending
variable {α β : Type} {permits : Demand HttpRequest → Prop}

theorem sending_pure (a : α) : Sending permits (pure a) := fun _ => trivial

theorem sending_throw (e : PyError) : Sending permits (throw e : Cloud.Client.Method α) := fun _ => trivial

theorem sending_bind {m : Cloud.Client.Method α} {f : α → Cloud.Client.Method β}
    (hm : Sending permits m) (hf : ∀ a, Sending permits (f a)) : Sending permits (m >>= f) :=
  fun s => (hm s).bind (fun s a _ => hf a s) fun _ _ _ => trivial

theorem sending_ask {q : HttpRequest} (hq : permits (.ask q)) :
    Sending permits (ask q : Cloud.Client.Method (HttpReply q)) :=
  fun _ => ⟨hq, trivial, fun a _ _ => by cases a <;> trivial⟩

theorem sending_withLock {m : Cloud.Client.Method α} (hacquire : permits .acquire)
    (hm : Sending permits m) : Sending permits (withLock m) := by
  have hlock : Sending permits (call Demand.acquire : Cloud.Client.Method Unit) :=
    fun _ => ⟨hacquire, trivial, fun a _ _ => by cases a <;> trivial⟩
  refine sending_bind hlock fun _ => sending_bind (fun s => ?_) fun a => ?_
  · refine sends_tryCatch (fun _ _ _ => trivial) (fun _ _ _ => ?_) m (hm s)
    exact trivial
  · exact fun _ => trivial

variable (client : ℕ) (verb : Verb) (path : String) (kwargs : Kwargs)

theorem sending_send : Sending (SendsOnly verb path kwargs) (Cloud.Client.send client verb path kwargs) := by
  refine sending_bind ?_ fun _ => sending_bind (sending_ask ⟨rfl, rfl, rfl⟩) fun status => ?_
  · refine sending_bind (sending_ask trivial) fun validToken => ?_
    cases validToken with
    | true => exact sending_pure ()
    | false => exact sending_ask trivial
  · unfold Cloud.Client.parseResp
    split_ifs
    · exact sending_bind (sending_ask trivial) fun _ => sending_throw _
    · refine sending_bind (sending_ask trivial) fun _ => sending_bind (sending_ask trivial) fun res => ?_
      split_ifs
      · exact sending_throw _
      · exact sending_ask trivial

theorem sending_accepted (res : Cloud.Client.Body) :
    Sending permits (Cloud.Client.accepted res) := by
  unfold Cloud.Client.accepted
  split_ifs
  · cases res.errmsg with
    | some _ => exact sending_pure false
    | none => exact sending_throw _
  · exact sending_pure true

theorem sending_relay :
    Sending (SendsOnly verb path kwargs) (Cloud.Client.relay client verb path kwargs) :=
  sending_bind (sending_withLock trivial (sending_send _ _ _ _)) sending_accepted

theorem sending_ekeyAction (a : EkeyAction) (keyId : ℤ) :
    Sending (SendsOnly .post a.path [("keyId", .int keyId)]) (a.method client keyId) := by
  cases a <;> exact sending_bind (sending_send _ _ _ _) fun _ => sending_pure ()

end Sending

/-! ### What a step shows and sends -/

/-- A menu leads to what the credentials of the lock admitted, and what is there to choose in a form are
credentials that it had. -/
def Renders (data : LockState) : FlowResult → Prop
  | .menu menu => menu.menuOptions = menuOptions (data.passcodes.getD []) (data.ekeys.getD [])
  | .form form =>
    (form.stepId = "delete_pin" → ∀ v, offers form "passcode" v →
      v ∈ (pinOptions data).map SelectOption.value) ∧
    ∀ a : EkeyAction, form.stepId = a.stepId → ∀ v, offers form "ekey" v →
      v ∈ (ekeyChoices a.status data).map SelectOption.value

/-- The lists of the lock `id` are asked for, or something is sent that is permitted. -/
def Requests (id : ℤ) (permits : Demand HttpRequest → Prop) : Panel.Request → Prop
  | .http q => permits q
  | .api q => q = .listKeyboardPwd id ∨ q = .listKey id

/-- A part of a step for a lock whose coordinator was `c`; it ends in `Q`. -/
def Stepping (c : LockUpdateCoordinator) (permits : Demand HttpRequest → Prop) {α : Type}
    (Q : Flow → Except PyError α → Prop) (p : Step α) (f : Flow) : Prop :=
  Sends (fun f => Lasting c f.coordinator) (fun _ => Requests c.lockId permits) Q p f

/-- What a step shows is there. -/
def Shows (c : LockUpdateCoordinator) (f : Flow) (r : Except PyError FlowResult) : Prop :=
  Lasting c f.coordinator ∧ ∀ res, r = .ok res → Renders f.coordinator.data res

section Stepping
variable {α : Type} {c : LockUpdateCoordinator} {permits : Demand HttpRequest → Prop} {f : Flow}

theorem stepping_onApi {m : Cloud.Client.Method α} (hm : Sending permits m)
    (hf : Lasting c f.coordinator) :
    Stepping c permits (fun f _ => Lasting c f.coordinator) (onApi m) f := by
  refine sends_mono (fun _ _ h => h.2) _ (sends_within (J := fun f => Lasting c f.coordinator)
    (I := fun _ => True) (Q := fun _ _ => True) ?_ (fun _ _ h => h) ?_ m hf (hm f.gwLock))
  · exact fun _ => (iff_of_eq (true_and _)).symm
  · exact fun _ _ _ h => h

/-- A request of a job that refreshes the codes. -/
theorem lists_of_justified {born s : LockUpdateCoordinator} {q : Api.Request}
    (h : Justified c .refreshCodes born s q) : q = .listKeyboardPwd c.lockId ∨ q = .listKey c.lockId := by
  obtain ⟨-, hasks, hproper⟩ := h
  cases q with
  | listKeyboardPwd id => exact .inl (congrArg Api.Request.listKeyboardPwd hproper)
  | listKey id => exact .inr (congrArg Api.Request.listKey hproper)
  | _ => cases hasks

theorem stepping_refreshCodes (hf : Lasting c f.coordinator) :
    Stepping c permits (fun f _ => Lasting c f.coordinator)
      (onCoordinator Coordinator.Poll.asyncRefreshCodes) f := by
  refine sends_mono (fun _ _ h => h.1) _ (sends_within (J := fun _ => True) (I := Lasting c)
    (Q := Lasts c) ?_ (fun _ _ h => h) ?_ _ trivial (asyncRefreshCodes_sends hf))
  · exact fun _ => (iff_of_eq (and_true _)).symm
  · exact fun _ _ _ h => lists_of_justified h

theorem shows_error {e : PyError} (hf : Lasting c f.coordinator) : Shows c f (.error e) :=
  ⟨hf, nofun⟩

theorem shows_ok {res : FlowResult} (hf : Lasting c f.coordinator)
    (hres : Renders f.coordinator.data res) : Shows c f (.ok res) :=
  ⟨hf, fun _ h => by cases h; exact hres⟩

/-- The menu of a lock is shown. -/
def ShowsMenu (c : LockUpdateCoordinator) (f : Flow) (r : Except PyError FlowResult) : Prop :=
  Shows c f r ∧ ∀ res, r = .ok res → ∃ menu, res = .menu menu

theorem stepping_menu (hf : Lasting c f.coordinator) :
    Stepping c permits (ShowsMenu c) asyncStepLockMenu f := by
  have hmenu : ∀ f : Flow, Lasting c f.coordinator → ShowsMenu c f
      (.ok (.menu (showMenu f.coordinator.data))) := fun f hf =>
    ⟨shows_ok hf rfl, fun res h => ⟨_, (Except.ok.inj h).symm⟩⟩
  refine sends_get_bind (sends_ite (fun _ => ?_) fun _ => sends_get_bind (hmenu f hf))
  refine Sends.bind (stepping_refreshCodes hf) (fun f _ hf => ?_) fun _ _ hf =>
    ⟨shows_error hf, fun _ h => by injection h⟩
  exact sends_get_bind (hmenu f hf)

theorem stepping_lockMenu (hf : Lasting c f.coordinator) :
    Stepping c permits (Shows c) asyncStepLockMenu f :=
  sends_mono (fun _ _ h => h.1) _ (stepping_menu hf)

/-- A request, and the lists and the menu, or the form again. -/
theorem stepping_settle {m : Cloud.Client.Method α} {taken : α → Bool} {refused : Step FlowResult}
    (hm : Sending permits m) (hf : Lasting c f.coordinator)
    (hrefused : ∀ f : Flow, Lasting c f.coordinator → Stepping c permits (Shows c) refused f) :
    Stepping c permits (Shows c) (settle m taken refused) f := by
  refine Sends.bind (stepping_onApi hm hf) (fun f result hf => ?_) fun _ _ => shows_error
  refine sends_ite (fun _ => ?_) fun _ => hrefused f hf
  refine Sends.bind (stepping_refreshCodes hf) (fun f _ hf => ?_) fun _ _ => shows_error
  exact stepping_lockMenu hf

theorem EkeyAction.stepId_of_ofStepId {id : String} {a : EkeyAction}
    (h : EkeyAction.ofStepId id = some a) : id = a.stepId := by
  unfold EkeyAction.ofStepId at h
  have ha := List.find?_some (p := fun b : EkeyAction => b.stepId = id) h
  exact (of_decide_eq_true ha).symm

theorem EkeyAction.stepId_ne (a : EkeyAction) :
    a.stepId ≠ "add_pin" ∧ a.stepId ≠ "delete_pin" ∧ a.stepId ≠ "send_ekey" := by
  cases a <;> decide

theorem EkeyAction.stepId_injective : Function.Injective EkeyAction.stepId := by
  intro a b h
  cases a <;> cases b <;> first | rfl | exact absurd h (by decide)

theorem stepping_addPinForm (errors : Errors) (hf : Lasting c f.coordinator) :
    Stepping c permits (Shows c) (addPinForm errors) f := by
  have hne : "add_pin" ≠ "delete_pin" := by decide
  exact sends_get_bind (shows_ok hf ⟨fun h => absurd h hne, fun a h => absurd h.symm a.stepId_ne.1⟩)

theorem stepping_sendEkeyForm (errors : Errors) (hf : Lasting c f.coordinator) :
    Stepping c permits (Shows c) (sendEkeyForm errors) f := by
  have hne : "send_ekey" ≠ "delete_pin" := by decide
  exact sends_get_bind (shows_ok hf ⟨fun h => absurd h hne, fun a h => absurd h.symm a.stepId_ne.2.2⟩)

/-- There is one field with options. -/
theorem values_of_offers {form : Form} {key key' v : String} {options : List SelectOption}
    (hform : form.dataSchema = [⟨key', true, none, .select options⟩]) (h : offers form key v) :
    v ∈ options.map SelectOption.value := by
  obtain ⟨field, hfield, -, hv⟩ := h
  rw [hform] at hfield
  rw [List.mem_singleton.mp hfield] at hv
  exact hv

theorem stepping_deletePinForm (errors : Errors) (hf : Lasting c f.coordinator) :
    Stepping c permits (Shows c) (deletePinForm errors) f := by
  refine sends_get_bind (sends_ite (fun _ => stepping_lockMenu hf) fun _ => shows_ok hf ⟨?_, ?_⟩)
  · exact fun _ v hv => values_of_offers rfl hv
  · exact fun a h => absurd h.symm a.stepId_ne.2.1

end Stepping

/-! ### What an answer changes -/

section Changes
variable (isdigit : Char → Bool) (epochMs : Instant → ℤ)

/-- The parameters of the passcode that is entered: valid for good where both times are 0, else from and
up to those that are not. -/
def addPinParams (id : ℤ) (input : AddPinInput) (startMs endMs : ℤ) : Kwargs :=
  [("lockId", .int id), ("addType", .int 2), ("keyboardPwd", .str input.passcode),
    ("keyboardPwdName", .str input.passcodeName)] ++
  if startMs = 0 ∧ endMs = 0 then [("keyboardPwdType", .int 2)]
  else ("keyboardPwdType", .int 3) ::
    ((if startMs = 0 then [] else [("startDate", .int startMs)]) ++
      if endMs = 0 then [] else [("endDate", .int endMs)])

/-- The parameters of the key that is entered. -/
def sendEkeyParams (id : ℤ) (input : SendEkeyInput) (startMs endMs : ℤ) : Kwargs :=
  [("lockId", .int id), ("receiverUsername", .str input.receiverUsername),
    ("keyName", .str input.name), ("startDate", .int startMs), ("endDate", .int endMs)] ++
  (if input.remoteEnable = some true then [("remoteEnable", .int 1)] else []) ++
  (if input.remoteEnable = some false then [("remoteEnable", .int 2)] else []) ++
  if input.createUser = some true then [("createUser", .int 1)] else []

/-- **What may be changed by the answer** `input` to what is shown for the lock `id`: a passcode that is
sound is added, a key is sent, both as they were entered, or something is done to the passcode or the
ekey that was chosen, which the lock had when it was shown, and then the ekey had the status the action
is for. -/
def Changes (id : ℤ) : Shown n → UserInput O → String → Kwargs → Prop
  | .lock _ _ (.form _), .addPin input, path, kwargs =>
    validPasscode isdigit input.passcode = true ∧ path = "keyboardPwd/add" ∧
      ∃ startMs endMs, periodMs epochMs input.startTime input.endTime = some (startMs, endMs) ∧
        kwargs = addPinParams id input startMs endMs
  | .lock _ data (.form _), .deletePin input, path, kwargs =>
    path = "keyboardPwd/delete" ∧ ∃ code ∈ data.passcodes.getD [], ∃ codeId, code.id = some codeId ∧
      input.passcode = String.ofList (Readings.str codeId) ∧
      kwargs = [("lockId", .int id), ("deleteType", .int 2), ("keyboardPwdId", .int codeId)]
  | .lock _ _ (.form _), .sendEkey input, path, kwargs =>
    path = "key/send" ∧
      ∃ startMs endMs, periodMs epochMs input.startTime input.endTime = some (startMs, endMs) ∧
        kwargs = sendEkeyParams id input startMs endMs
  | .lock _ data (.form form), .ekey chosen, path, kwargs =>
    ∃ a : EkeyAction, form.stepId = a.stepId ∧ path = a.path ∧
      ∃ ekey ∈ data.ekeys.getD [], (∀ st, a.status = some st → ekey.status = st) ∧
        ∃ keyId, ekey.id = some keyId ∧ chosen = String.ofList (Readings.str keyId) ∧
          kwargs = [("keyId", .int keyId)]
  | _, _, _, _ => False

/-- What may be sent. -/
def Permitted (id : ℤ) (shown : Shown n) (input : UserInput O) : Demand HttpRequest → Prop
  | .ask (.send verb path kwargs) =>
    verb = .post ∧ Changes isdigit epochMs id shown input path kwargs
  | _ => True

variable {isdigit epochMs} {α : Type} {c : LockUpdateCoordinator} {f : Flow} {i : Fin n}
  {data : LockState} {form : Form}

theorem Sending.permitted {m : Cloud.Client.Method α} {path : String} {kwargs : Kwargs} {id : ℤ}
    {shown : Shown n} {input : UserInput O} (hm : Sending (SendsOnly .post path kwargs) m)
    (h : Changes isdigit epochMs id shown input path kwargs) :
    Sending (Permitted isdigit epochMs id shown input) m := by
  refine fun s => sends_weaken (fun _ q hq => ?_) m (hm s)
  match q with
  | .acquire => exact trivial
  | .ask (.send verb path' kwargs') =>
    obtain ⟨rfl, rfl, rfl⟩ := hq
    exact ⟨rfl, h⟩
  | .ask (.validToken _) | .ask (.ensureTokenValid _) | .ask (.text _) | .ask (.json _) => exact trivial

theorem addPasscode_kwargs (client : ℕ) (id : ℤ) (input : AddPinInput) (startMs endMs : ℤ) :
    Cloud.Client.addPasscode client id
        { passcode := some input.passcode
          passcodeName := some input.passcodeName
          startMinute := orNone startMs
          endMinute := orNone endMs } =
      Cloud.Client.relay client .post "keyboardPwd/add" (addPinParams id input startMs endMs) := by
  unfold Cloud.Client.addPasscode addPinParams orNone
  by_cases hstart : startMs = 0 <;> by_cases hend : endMs = 0 <;>
    simp [hstart, hend, Cloud.Client.strOrNone, Cloud.Client.optionalInt]

theorem stepping_addPin (input : AddPinInput) (hf : Lasting c f.coordinator) :
    Stepping c (Permitted isdigit epochMs c.lockId (.lock i data (.form form)) (.addPin input : UserInput O))
      (Shows c) (asyncStepAddPin isdigit epochMs (some input)) f := by
  unfold asyncStepAddPin
  refine sends_ite (fun _ => stepping_addPinForm _ hf) fun hvalid => ?_
  cases hperiod : periodMs epochMs input.startTime input.endTime with
  | none => exact stepping_addPinForm _ hf
  | some period =>
    refine sends_get_bind (stepping_settle ?_ hf fun f hf => stepping_addPinForm _ hf)
    rw [addPasscode_kwargs, hf.lockId]
    exact (sending_relay _ _ _ _).permitted ⟨not_not.mp hvalid, rfl, period.1, period.2, hperiod, rfl⟩

theorem sendEkey_kwargs (id : ℤ) (input : SendEkeyInput) (startMs endMs : ℤ) :
    [("lockId", .int id), ("receiverUsername", .str input.receiverUsername),
        ("keyName", .str input.name), ("startDate", .int startMs), ("endDate", .int endMs)] ++
      Cloud.Client.optionalStr "remarks" ((none : Option String).filter (· ≠ "")) ++
      Cloud.Client.remoteEnableParam input.remoteEnable ++
      (if input.createUser.getD false then [("createUser", .int 1)] else []) =
    sendEkeyParams id input startMs endMs := by
  unfold sendEkeyParams
  rcases input.remoteEnable with _ | _ | _ <;> rcases input.createUser with _ | _ | _ <;>
    simp [Cloud.Client.optionalStr, Cloud.Client.remoteEnableParam]

theorem stepping_sendEkey (input : SendEkeyInput) (hf : Lasting c f.coordinator) :
    Stepping c (Permitted isdigit epochMs c.lockId (.lock i data (.form form)) (.sendEkey input : UserInput O))
      (Shows c) (asyncStepSendEkey epochMs (some input)) f := by
  cases hperiod : periodMs epochMs input.startTime input.endTime with
  | none =>
    rw [asyncStepSendEkey, hperiod]
    exact stepping_sendEkeyForm _ hf
  | some period =>
    rw [asyncStepSendEkey, hperiod]
    have hsend : Sending (Permitted isdigit epochMs c.lockId (.lock i data (.form form))
        (.sendEkey input : UserInput O)) (Cloud.Client.sendEkey f.api f.coordinator.lockId
          input.receiverUsername input.name period.1 period.2 none input.remoteEnable
          (input.createUser.getD false)) := by
      refine Sending.permitted (sending_bind (sending_send _ _ _ _) fun _ => sending_pure _) ?_
      rw [hf.lockId, sendEkey_kwargs]
      exact ⟨rfl, period.1, period.2, hperiod, rfl⟩
    refine sends_get_bind ?_
    exact stepping_settle hsend hf fun f hf => stepping_sendEkeyForm _ hf

/-- A number is read back from its text, if at all. -/
theorem eq_of_intDec_str {id keyId : ℤ} (h : intDec (Readings.str id) = .ok keyId) : keyId = id := by
  rw [Readings.intDec_str] at h
  split_ifs at h
  exact (Except.ok.inj h).symm

theorem mem_pinOptions {v : String} (h : v ∈ (pinOptions data).map SelectOption.value) :
    ∃ code ∈ data.passcodes.getD [], ∃ id, code.id = some id ∧ v = String.ofList (Readings.str id) := by
  obtain ⟨option, hoption, rfl⟩ := List.mem_map.mp h
  obtain ⟨code, hcode, hmap⟩ := List.mem_filterMap.mp hoption
  obtain ⟨id, hid, rfl⟩ := Option.map_eq_some_iff.mp hmap
  exact ⟨code, hcode, id, hid, rfl⟩

theorem mem_ekeyChoices {status : Option String} {v : String}
    (h : v ∈ (ekeyChoices status data).map SelectOption.value) :
    ∃ ekey ∈ data.ekeys.getD [], (∀ st, status = some st → ekey.status = st) ∧
      ∃ id, ekey.id = some id ∧ v = String.ofList (Readings.str id) := by
  obtain ⟨option, hoption, rfl⟩ := List.mem_map.mp h
  obtain ⟨ekey, hekey, hmap⟩ := List.mem_filterMap.mp hoption
  obtain ⟨hmem, hstatus⟩ := List.mem_filter.mp hekey
  obtain ⟨id, hid, rfl⟩ := Option.map_eq_some_iff.mp hmap
  refine ⟨ekey, hmem, fun st hst => ?_, id, hid, rfl⟩
  subst hst
  exact of_decide_eq_true hstatus

theorem stepping_deletePin (input : DeletePinInput) (hf : Lasting c f.coordinator)
    (hv : input.passcode ∈ (pinOptions data).map SelectOption.value) :
    Stepping c (Permitted isdigit epochMs c.lockId (.lock i data (.form form)) (.deletePin input : UserInput O))
      (Shows c) (asyncStepDeletePin (some input)) f := by
  obtain ⟨code, hcode, id, hid, htext⟩ := mem_pinOptions hv
  refine sends_get_bind ?_
  cases hread : intDec input.passcode.toList with
  | error e => exact shows_error hf
  | ok passcodeId =>
    rw [htext, String.toList_ofList] at hread
    obtain rfl := eq_of_intDec_str hread
    refine stepping_settle (Sending.permitted (sending_relay _ _ _ _) ?_) hf
      fun f hf => stepping_deletePinForm _ hf
    refine ⟨rfl, code, hcode, passcodeId, hid, htext, ?_⟩
    rw [hf.lockId]

theorem stepping_ekey (a : EkeyAction) (ekey : String) (hf : Lasting c f.coordinator)
    (ha : form.stepId = a.stepId)
    (hv : ekey ∈ (ekeyChoices a.status data).map SelectOption.value) :
    Stepping c (Permitted isdigit epochMs c.lockId (.lock i data (.form form)) (.ekey ekey : UserInput O))
      (Shows c) (ekeyActionStep a (some ekey)) f := by
  obtain ⟨key, hkey, hstatus, id, hid, htext⟩ := mem_ekeyChoices hv
  refine sends_get_bind ?_
  cases hread : intDec ekey.toList with
  | error e => exact shows_error hf
  | ok keyId =>
    rw [htext, String.toList_ofList] at hread
    obtain rfl := eq_of_intDec_str hread
    have hsend : Sending (Permitted isdigit epochMs c.lockId (.lock i data (.form form))
        (.ekey ekey : UserInput O)) (a.method f.api keyId) :=
      (sending_ekeyAction f.api a keyId).permitted
        ⟨a, ha, rfl, key, hkey, hstatus, keyId, hid, htext, rfl⟩
    refine Sends.bind (p := onApi (a.method f.api keyId)) (stepping_onApi hsend hf)
      (fun f _ hf => ?_) fun _ _ => shows_error
    refine Sends.bind (stepping_refreshCodes hf) (fun f _ hf => ?_) fun _ _ => shows_error
    exact stepping_lockMenu hf

end Changes

/-! ### Answers -/

/-- A form for a lock is for the lock that is managed, and what is there to choose was there. -/
def WellFormed (d : Dialog n) : Prop :=
  ∀ i data r, d.shown = .lock i data r →
    Renders data r ∧ ∀ form, r = .form form → d.coordinator = some i

/-- What no job changes: the locks, and that what the flows show is well formed. -/
structure Kept (c : Fin n → LockUpdateCoordinator) (s : Flows n k O) : Prop where
  locks : ∀ i, Lasting (c i) (s.coordinators i)
  dialogs : ∀ f d, s.dialogs f = some d → WellFormed d

/-- The flow has come to a lock. -/
def Shown.atLock : Shown n → Bool
  | .lock _ _ _ => true
  | _ => false

/-- **What becomes of the flows**: one that is over stays so, and one that has come to a lock manages
this lock until it is over. -/
def Stays (s s' : Flows n k O) : Prop :=
  ∀ f d', s'.dialogs f = some d' → ∃ d, s.dialogs f = some d ∧
    (d.shown.atLock = true → d'.shown.atLock = true ∧ d'.coordinator = d.coordinator)

instance : IsPreorder (Flows n k O) Stays where
  refl s := fun f d hd => ⟨d, hd, fun h => ⟨h, rfl⟩⟩
  trans s s' s'' h h' := by
    intro f d'' hd''
    obtain ⟨d', hd', hlock'⟩ := h' f d'' hd''
    obtain ⟨d, hd, hlock⟩ := h f d' hd'
    refine ⟨d, hd, fun hat => ?_⟩
    obtain ⟨hat', hcoordinator⟩ := hlock hat
    obtain ⟨hat'', hcoordinator'⟩ := hlock' hat'
    exact ⟨hat'', hcoordinator'.trans hcoordinator⟩

/-- Where the menu of a lock leads to. -/
def lockOptions : List String :=
  ["add_pin", "delete_pin", "send_ekey", "delete_ekey", "freeze_ekey", "unfreeze_ekey", "finish"]

/-- The answer is one for the lock that is managed. -/
def UserInput.manages : UserInput O → Bool
  | .next step => step.name ∈ lockOptions
  | .cadence _ | .lock _ => false
  | .addPin _ | .deletePin _ | .sendEkey _ | .ekey _ => true

/-- The answer picks the lock `i`: there is no other that is connectable, or it is the one chosen. -/
def Picks (c : Fin n → LockUpdateCoordinator) (i : Fin n) : UserInput O → Prop
  | .next step => step = .codes ∧ ∀ j, (c j).connectable = true ↔ j = i
  | .lock lock => (c i).connectable = true ∧ lock = String.ofList (Readings.str (c i).lockId)
  | _ => False

/-- **What may be sent for an answer**: the lists of the lock that is managed or picked, and for the
lock that is managed what its form permits. -/
def Warranted (isdigit : Char → Bool) (epochMs : Instant → ℤ) (c : Fin n → LockUpdateCoordinator)
    (d : Dialog n) (input : UserInput O) : Fin n × Panel.Request → Prop
  | (i, .api q) => (q = .listKeyboardPwd (c i).lockId ∨ q = .listKey (c i).lockId) ∧
      (d.coordinator = some i ∨ Picks c i input)
  | (i, .http q) =>
    d.coordinator = some i ∧ Permitted isdigit epochMs (c i).lockId d.shown input q

/-- What is shown next fits the flow as it has become. -/
def Fits (f : Fin k) (s : Flows n k O) (shown : Shown n) : Prop :=
  ∀ d, s.dialogs f = some d →
    WellFormed ⟨d.coordinator, shown⟩ ∧ (d.shown.atLock = true → shown.atLock = true)

/-- What a step of flow `f` ends in. -/
def Answered (c : Fin n → LockUpdateCoordinator) (f : Fin k) (e s : Flows n k O)
    (r : Except PyError (Outcome n O)) : Prop :=
  (Kept c s ∧ Stays e s) ∧ ∀ shown, r = .ok (.shown shown) → Fits f s shown

/-- What a step of flow `f` does for an answer. -/
def Answers (isdigit : Char → Bool) (epochMs : Instant → ℤ) (c : Fin n → LockUpdateCoordinator)
    (f : Fin k) (d : Dialog n) (input : UserInput O) (p : Flowing n k O (Outcome n O))
    (e s : Flows n k O) : Prop :=
  Among (Kept c) Stays (fun _ => Warranted isdigit epochMs c d input) (Answered c f) p e s

section Answers
variable {isdigit : Char → Bool} {epochMs : Instant → ℤ} {c : Fin n → LockUpdateCoordinator}
  {f : Fin k} {d : Dialog n} {input : UserInput O} {e s : Flows n k O} {i : Fin n}
  {p : Step FlowResult}

theorem menuOptions_subset {passcodes : List Passcode} {ekeys : List Ekey} {step : String}
    (h : step ∈ menuOptions passcodes ekeys) : step ∈ lockOptions := by
  have hite : ∀ {c : Prop} [Decidable c] {a : String}, step ∈ (if c then [a] else []) → step = a := by
    intro c _ a hmem
    split_ifs at hmem
    · exact List.mem_singleton.mp hmem
    · exact absurd hmem List.not_mem_nil
  simp only [menuOptions, List.mem_append, List.mem_singleton] at h
  simp only [lockOptions, List.mem_cons, List.not_mem_nil, or_false]
  rcases h with (((((h | h) | h) | h) | h) | h) | h
  · exact .inl h
  · exact .inr (.inl (hite h))
  · exact .inr (.inr (.inl h))
  · exact .inr (.inr (.inr (.inl (hite h))))
  · exact .inr (.inr (.inr (.inr (.inl (hite h)))))
  · exact .inr (.inr (.inr (.inr (.inr (.inl (hite h))))))
  · exact .inr (.inr (.inr (.inr (.inr (.inr h)))))

/-- **The menu of a lock does not lead elsewhere**: a flow has come to a lock just when what it is
answered is for this lock. -/
theorem manages_of_accepts (hd : WellFormed d) (h : Accepts d.shown input) :
    input.manages = d.shown.atLock := by
  cases hshown : d.shown with
  | init =>
    rw [hshown] at h
    cases input with
    | next step =>
      have hinit : ∀ step : StepId, step.name ∈ initOptions → (UserInput.next step : UserInput O).manages = false := by
        intro step hmem
        rcases step with _ | _ | _ | _ | _ | _ | _ | _ | a
        all_goals first | rfl | exact absurd hmem (by decide) | (cases a <;> exact absurd hmem (by decide))
      exact hinit step h
    | _ => exact h.elim
  | cadence =>
    rw [hshown] at h
    cases input with
    | cadence options => rfl
    | _ => exact h.elim
  | codes options =>
    rw [hshown] at h
    cases input with
    | lock lock => rfl
    | _ => exact h.elim
  | lock i data r =>
    have hrenders := (hd i data r hshown).1
    rw [hshown] at h
    cases r with
    | form form =>
      cases input with
      | addPin | deletePin | sendEkey | ekey => rfl
      | _ => exact h.elim
    | menu menu =>
      cases input with
      | next step =>
        have hmem : step.name ∈ menu.menuOptions := h
        rw [hrenders] at hmem
        exact decide_eq_true (menuOptions_subset hmem)
      | _ => exact h.elim

/-- The flows, and the locks apart from one. -/
def KeptOthers (c : Fin n → LockUpdateCoordinator) (i : Fin n) (s : Flows n k O) : Prop :=
  (∀ j, j ≠ i → Lasting (c j) (s.coordinators j)) ∧ ∀ f d, s.dialogs f = some d → WellFormed d

theorem kept_iff (i : Fin n) (s : Flows n k O) :
    Kept c s ↔ Lasting (c i) (s.coordinators i) ∧ KeptOthers c i s := by
  constructor
  · exact fun h => ⟨h.locks i, fun j _ => h.locks j, h.dialogs⟩
  · rintro ⟨hi, hothers, hdialogs⟩
    refine ⟨fun j => ?_, hdialogs⟩
    by_cases hj : j = i
    · subst hj
      exact hi
    · exact hothers j hj

theorem keptOthers_put {f : Flow} (h : KeptOthers c i s) : KeptOthers c i ((flowAt i).put f s) := by
  refine ⟨fun j hj => ?_, h.2⟩
  have hother : ((flowAt i).put f s).coordinators j = s.coordinators j :=
    Function.update_of_ne hj _ _
  rw [hother]
  exact h.1 j hj

/-- A coroutine of lock `i`. -/
theorem within_among {α : Type} {ok : Panel.Request → Prop} {Q : Flow → Except PyError α → Prop}
    {p : Step α} (hs : Kept c s) (he : Stays e s)
    (hp : Sends (fun f : Flow => Lasting (c i) f.coordinator) (fun _ => ok) Q p ((flowAt i).get s)) :
    Among (Kept c) Stays (fun _ q => q.1 = i ∧ ok q.2)
      (fun e s r => Q ((flowAt i).get s) r ∧ KeptOthers c i s ∧ Stays e s)
      (within (flowAt i) (Prod.mk i) (fun _ => id) p : Flowing n k O α) e s :=
  among_within (J := KeptOthers c i) (I := fun f : Flow => Lasting (c i) f.coordinator)
    (kept_iff i) (fun _ s h => ⟨keptOthers_put h, refl_of Stays s⟩) (fun _ _ _ h => ⟨rfl, h⟩) p
    ((kept_iff i s).mp hs).2 he hp

/-- A step for lock `i`, of whose results so much is known. -/
theorem onLock_among {permits : Demand HttpRequest → Prop} {Q : FlowResult → Prop} (hs : Kept c s)
    (he : Stays e s)
    (hp : ∀ f : Flow, Lasting (c i) f.coordinator → Stepping (c i) permits
      (fun f r => Shows (c i) f r ∧ ∀ res, r = .ok res → Q res) p f) :
    Among (Kept c) Stays (fun _ q => q.1 = i ∧ Requests (c i).lockId permits q.2)
      (fun e s r => (Kept c s ∧ Stays e s) ∧ ∀ shown : Shown n, r = .ok (.shown shown) →
        ∃ data res, shown = .lock i data res ∧ Renders data res ∧ Q res)
      (onLock (some i) p : Flowing n k O (Outcome n O)) e s := by
  refine Among.bind (within_among hs he (hp _ (hs.locks i))) ?_ ?_
  · rintro e s r ⟨⟨⟨hlasting, hrenders⟩, hQ⟩, hothers, hstays⟩
    refine ⟨⟨(kept_iff i s).mpr ⟨hlasting, hothers⟩, hstays⟩, fun shown hshown => ?_⟩
    injection hshown with hshown
    injection hshown with hshown
    subst hshown
    exact ⟨_, r, rfl, hrenders r rfl, hQ r rfl⟩
  · rintro e s err ⟨⟨⟨hlasting, -⟩, -⟩, hothers, hstays⟩
    exact ⟨⟨(kept_iff i s).mpr ⟨hlasting, hothers⟩, hstays⟩, fun _ h => by injection h⟩

/-- **A step for the lock that is managed**: whatever has become of the flow meanwhile, it still manages
this lock. -/
theorem answers_onLock (hs : Kept c s) (hstays : Stays e s) (hf : e.dialogs f = some d)
    (hat : d.shown.atLock = true)
    (hp : ∀ i f, d.coordinator = some i → Lasting (c i) f.coordinator →
      Stepping (c i) (Permitted isdigit epochMs (c i).lockId d.shown input) (Shows (c i)) p f) :
    Answers isdigit epochMs c f d input (onLock d.coordinator p) e s := by
  unfold Answers
  cases hd : d.coordinator with
  | none => exact ⟨⟨hs, hstays⟩, fun _ h => by injection h⟩
  | some i =>
    have hsends : ∀ f : Flow, Lasting (c i) f.coordinator →
        Stepping (c i) (Permitted isdigit epochMs (c i).lockId d.shown input)
          (fun f r => Shows (c i) f r ∧ ∀ res, r = .ok res → True) p f := fun f hlasting =>
      sends_mono (fun _ _ h => ⟨h, fun _ _ => trivial⟩) _ (hp i f hd hlasting)
    have hlock := among_since (fun _ _ _ h => h.1.2) _ (refl_of Stays e)
      (onLock_among hs hstays hsends)
    refine among_mono ?_ _ (among_weaken ?_ _ hlock)
    · rintro e' s r ⟨⟨hkept, hshown⟩, hsince⟩
      refine ⟨hkept, fun shown hr d' hd' => ?_⟩
      obtain ⟨data, res, rfl, hrenders, -⟩ := hshown shown hr
      obtain ⟨d₀, hd₀, hlocked⟩ := hsince f d' hd'
      obtain rfl : d = d₀ := Option.some.inj (hf.symm.trans hd₀)
      obtain ⟨-, hcoordinator⟩ := hlocked hat
      refine ⟨?_, fun _ => rfl⟩
      intro j data' r' heq
      injection heq with hj hdata hres
      subst hj hdata hres
      exact ⟨hrenders, fun _ _ => hcoordinator.trans hd⟩
    · rintro s ⟨j, q⟩ ⟨hj, hq⟩
      dsimp only at hj hq
      subst hj
      cases q with
      | http q => exact ⟨hd, hq⟩
      | api q => exact ⟨hq, .inl hd⟩

/-- The menu of a lock that is picked. -/
theorem answers_pick (hs : Kept c s) (hstays : Stays e s) (i : Fin n) (hinput : Picks c i input) :
    Answers isdigit epochMs c f d input (onLock (some i) asyncStepLockMenu) e s := by
  have hmenu : ∀ f : Flow, Lasting (c i) f.coordinator → Stepping (c i) (fun _ => False)
      (fun f r => Shows (c i) f r ∧ ∀ res, r = .ok res → ∃ menu, res = .menu menu)
      asyncStepLockMenu f := fun f => stepping_menu
  refine among_mono ?_ _ (among_weaken ?_ _ (onLock_among hs hstays hmenu))
  · rintro e s r ⟨hkept, hshown⟩
    refine ⟨hkept, fun shown hr d' _ => ?_⟩
    obtain ⟨data, res, rfl, hrenders, menu, rfl⟩ := hshown shown hr
    refine ⟨?_, fun _ => rfl⟩
    intro j data' r' heq
    injection heq with hj hdata hres
    subst hj hdata hres
    exact ⟨hrenders, fun _ h => by injection h⟩
  · rintro s ⟨j, q⟩ ⟨hj, hq⟩
    dsimp only at hj hq
    subst hj
    cases q with
    | http q => exact hq.elim
    | api q => exact ⟨hq, .inr hinput⟩

/-- Something that is not of a lock is shown where a flow has not come to a lock. -/
theorem fits_elsewhere {shown : Shown n} (hnow : ∀ d', s.dialogs f = some d' → d'.shown = d.shown)
    (hd : d.shown.atLock = false) (hshown : shown.atLock = false) : Fits f s shown := by
  refine fun d' hd' => ⟨fun i data r heq => ?_, fun hat => ?_⟩
  · have heq' : shown = .lock i data r := heq
    rw [heq'] at hshown
    exact absurd hshown Bool.noConfusion
  · rw [hnow d' hd', hd] at hat
    exact absurd hat Bool.noConfusion

/-- A step that ends at once. -/
theorem answers_return {o : Outcome n O} (hs : Kept c s) (hstays : Stays e s)
    (ho : ∀ shown, o = .shown shown → Fits f s shown) :
    Answers isdigit epochMs c f d input (return o) e s :=
  ⟨⟨hs, hstays⟩, fun shown hshown => ho shown (Except.ok.inj hshown)⟩

theorem answers_throw {err : PyError} (hs : Kept c s) (hstays : Stays e s) :
    Answers isdigit epochMs c f d input (throw err) e s := ⟨⟨hs, hstays⟩, fun _ h => by injection h⟩

/-- The locks to pick from. -/
theorem mem_connectableCoordinators (hs : Kept c s) :
    i ∈ connectableCoordinators s ↔ (c i).connectable = true := by
  rw [connectableCoordinators, List.mem_filter, (hs.locks i).connectable]
  exact and_iff_right (List.mem_finRange i)

/-- Without a choice, only one can be picked. -/
theorem picks_of_none (hs : Kept c s) (h : asyncStepCodes s none = .ok (.lock i)) :
    Picks c i (.next .codes : UserInput O) := by
  unfold asyncStepCodes at h
  split_ifs at h
  case neg => injection h with h; injection h
  refine ⟨rfl, fun j => ?_⟩
  rw [← mem_connectableCoordinators hs]
  revert h
  generalize connectableCoordinators s = coordinators
  intro h
  rcases coordinators with _ | ⟨a, _ | ⟨b, rest⟩⟩
  · injection h with h
    injection h
  · injection h with h
    injection h with h
    rw [h, List.mem_singleton]
  · injection h with h
    injection h

/-- The one that is chosen is picked. -/
theorem picks_of_some {lock : String} (hs : Kept c s)
    (h : asyncStepCodes s (some lock) = .ok (.lock i)) : Picks c i (.lock lock : UserInput O) := by
  unfold asyncStepCodes at h
  split_ifs at h
  case neg => injection h with h; injection h
  have hmem := mem_connectableCoordinators (i := i) hs
  revert h hmem
  generalize connectableCoordinators s = coordinators
  intro h hmem
  rcases coordinators with _ | ⟨a, rest⟩
  · injection h with h
    injection h
  · dsimp only at h
    split at h
    next j hj =>
      injection h with h
      injection h with h
      subst h
      refine ⟨hmem.mp (List.mem_of_find?_eq_some hj), ?_⟩
      have hvalue : lockValue s j = lock :=
        of_decide_eq_true (List.find?_some (p := fun i => lockValue s i = lock) hj)
      rw [← hvalue, lockValue, (hs.locks j).lockId]
    next => injection h

theorem answers_goOn (hs : Kept c s) (hstays : Stays e s)
    (hnow : ∀ d', s.dialogs f = some d' → d'.shown = d.shown) (hd : d.shown.atLock = false)
    {r : Except PyError (Pick n)} (hpick : ∀ i, r = .ok (.lock i) → Picks c i input) :
    Answers isdigit epochMs c f d input (goOn d r).2 e s := by
  cases r with
  | error err => exact answers_throw hs hstays
  | ok pick =>
    cases pick with
    | abort reason => exact answers_return hs hstays fun _ h => by injection h
    | form options =>
      refine answers_return hs hstays fun shown h => ?_
      injection h with h
      subst h
      exact fits_elsewhere hnow hd rfl
    | lock i => exact answers_pick hs hstays i (hpick i rfl)

/-- The input of a form answers a form of a lock. -/
theorem form_of_accepts {shown : Shown n} (h : Accepts shown input) (hnext : ∀ step, input ≠ .next step)
    (hcadence : ∀ options, input ≠ .cadence options) (hlock : ∀ lock, input ≠ .lock lock) :
    ∃ i data form, shown = .lock i data (.form form) := by
  cases shown with
  | init | cadence | codes =>
    cases input with
    | next step => exact absurd rfl (hnext step)
    | cadence options => exact absurd rfl (hcadence options)
    | lock lock => exact absurd rfl (hlock lock)
    | _ => exact h.elim
  | lock i data r =>
    cases r with
    | form form => exact ⟨i, data, form, rfl⟩
    | menu menu =>
      cases input with
      | next step => exact absurd rfl (hnext step)
      | _ => exact h.elim

/-- A step of the lock that is managed without an input. -/
theorem stepping_next {c : LockUpdateCoordinator} {permits : Demand HttpRequest → Prop} {f : Flow}
    (a : EkeyAction) (hf : Lasting c f.coordinator) :
    Stepping c permits (Shows c) (ekeyActionStep a none) f := by
  refine sends_get_bind (sends_ite (fun _ => stepping_lockMenu hf) fun _ => shows_ok hf ⟨?_, ?_⟩)
  · exact fun h => absurd h a.stepId_ne.2.1
  · intro b hb v hv
    obtain rfl := EkeyAction.stepId_injective hb
    exact values_of_offers rfl hv

/-- **Every step does only what its answer warrants**, and shows what is there. -/
theorem answer_answers (hd : WellFormed d) (hacc : Accepts d.shown input) (hs : Kept c s)
    (hstays : Stays e s) (hf : e.dialogs f = some d)
    (hnow : ∀ d', s.dialogs f = some d' → d'.shown = d.shown) {s' : Flows n k O} (hs' : Kept c s') :
    Answers isdigit epochMs c f d input (answer isdigit epochMs s' d input).2 e s := by
  have hat := manages_of_accepts hd hacc
  cases input with
  | next step =>
    cases step with
    | init | cadence =>
      refine answers_return hs hstays fun shown h => ?_
      injection h with h
      subst h
      exact fits_elsewhere hnow hat.symm rfl
    | finish => exact answers_return hs hstays fun _ h => by injection h
    | codes => exact answers_goOn hs hstays hnow hat.symm fun i => picks_of_none hs'
    | lockMenu =>
      have hmenu : d.shown.atLock = false := hat.symm
      rcases hshown : d.shown with _ | _ | _ | _
      all_goals rw [hshown] at hacc hmenu
      · have hmem : "lock_menu" ∈ initOptions := hacc
        exact absurd hmem (by decide)
      · exact hacc.elim
      · exact hacc.elim
      · exact absurd hmenu Bool.noConfusion
    | addPin => exact answers_onLock hs hstays hf hat.symm fun _ _ _ => stepping_addPinForm []
    | deletePin => exact answers_onLock hs hstays hf hat.symm fun _ _ _ => stepping_deletePinForm []
    | sendEkey => exact answers_onLock hs hstays hf hat.symm fun _ _ _ => stepping_sendEkeyForm []
    | ekey a =>
      have hmanages : (UserInput.next (.ekey a) : UserInput O).manages = true := by
        cases a <;> rfl
      exact answers_onLock hs hstays hf (hat.symm.trans hmanages) fun _ _ _ => stepping_next a
  | cadence options => exact answers_return hs hstays fun _ h => by injection h
  | lock lock => exact answers_goOn hs hstays hnow hat.symm fun i => picks_of_some hs'
  | addPin input =>
    obtain ⟨j, data, form, hshown⟩ := form_of_accepts hacc nofun nofun nofun
    refine answers_onLock hs hstays hf hat.symm fun i f _ hf => ?_
    rw [hshown]
    exact stepping_addPin input hf
  | sendEkey input =>
    obtain ⟨j, data, form, hshown⟩ := form_of_accepts hacc nofun nofun nofun
    refine answers_onLock hs hstays hf hat.symm fun i f _ hf => ?_
    rw [hshown]
    exact stepping_sendEkey input hf
  | deletePin input =>
    obtain ⟨j, data, form, hshown⟩ := form_of_accepts hacc nofun nofun nofun
    rw [hshown] at hacc
    have hv := (hd j data _ hshown).1.1 hacc.1 _ hacc.2
    refine answers_onLock hs hstays hf hat.symm fun i f _ hf => ?_
    rw [hshown]
    exact stepping_deletePin input hf hv
  | ekey ekey =>
    obtain ⟨j, data, form, hshown⟩ := form_of_accepts hacc nofun nofun nofun
    cases ha : d.shown.action with
    | none =>
      rw [answer, ha]
      exact answers_throw hs hstays
    | some a =>
      rw [answer, ha]
      rw [hshown] at hacc ha
      have hid : form.stepId = a.stepId := EkeyAction.stepId_of_ofStepId ha
      have hv := (hd j data _ hshown).1.2 a hid _ hacc
      refine answers_onLock hs hstays hf hat.symm fun i f _ hf => ?_
      rw [hshown]
      exact stepping_ekey a ekey hf hid hv

/-- Only what is not for the lock that is managed leads to another lock. -/
theorem answer_fst (h : input.manages = true) :
    (answer isdigit epochMs s d input).1 = d.coordinator := by
  cases input with
  | next step =>
    cases step with
    | codes =>
      have hmem : "codes" ∈ lockOptions := of_decide_eq_true h
      exact absurd hmem (by decide)
    | _ => rfl
  | addPin | deletePin | sendEkey => rfl
  | ekey ekey =>
    rw [answer]
    cases d.shown.action <;> rfl
  | cadence | lock => exact absurd h Bool.noConfusion

end Answers

section Runs
variable {isdigit : Char → Bool} {epochMs : Instant → ℤ} {c : Fin n → LockUpdateCoordinator}
  {d : Dialog n} {input : UserInput O} {e s s' : Flows n k O} {f : Fin k}

theorem dialogs_setDialog {o : Option (Dialog n)} {f' : Fin k} {d' : Dialog n}
    (h : (setDialog f o s).dialogs f' = some d') : f' = f ∧ o = some d' ∨ f' ≠ f ∧ s.dialogs f' = some d' := by
  have hupdate : Function.update s.dialogs f o f' = some d' := h
  by_cases hf : f' = f
  · rw [hf, Function.update_self] at hupdate
    exact .inl ⟨hf, hupdate⟩
  · rw [Function.update_of_ne hf] at hupdate
    exact .inr ⟨hf, hupdate⟩

theorem Kept.setDialog (hs : Kept c s) {o : Option (Dialog n)} (ho : ∀ d, o = some d → WellFormed d) :
    Kept c (setDialog f o s) := by
  refine ⟨hs.locks, fun f' d' hd' => ?_⟩
  rcases dialogs_setDialog hd' with ⟨-, hd'⟩ | ⟨-, hd'⟩
  · exact ho d' hd'
  · exact hs.dialogs f' d' hd'

/-- Flow `f` goes on as what it may become. -/
theorem Stays.setDialog (hstays : Stays e s) {o : Option (Dialog n)}
    (ho : ∀ d', o = some d' → ∃ d, s.dialogs f = some d ∧
      (d.shown.atLock = true → d'.shown.atLock = true ∧ d'.coordinator = d.coordinator)) :
    Stays e (setDialog f o s) := by
  refine trans_of Stays hstays fun f' d' hd' => ?_
  rcases dialogs_setDialog hd' with ⟨rfl, heq⟩ | ⟨-, hother⟩
  · exact ho d' heq
  · exact ⟨d', hother, fun h => ⟨h, rfl⟩⟩

/-- A request of an answer to flow `f`, which showed `d` when it came. -/
def AnswersTo (isdigit : Char → Bool) (epochMs : Instant → ℤ) (c : Fin n → LockUpdateCoordinator)
    (f : Fin k) (input : UserInput O) (born : Flows n k O) (q : Fin n × Panel.Request) : Prop :=
  ∃ d, born.dialogs f = some d ∧ Accepts d.shown input ∧ WellFormed d ∧
    Warranted isdigit epochMs c d input q

theorem configure_among (hs : Kept c s) :
    Among (Kept c) Stays (fun _ => AnswersTo isdigit epochMs c f input s) (Keeps (Kept c) Stays)
      (configure isdigit epochMs f input) s s := by
  refine among_get_bind ?_
  cases hdialog : s.dialogs f with
  | none => exact ⟨hs, refl_of Stays s⟩
  | some d =>
    refine among_ite (fun hacc => ?_) fun _ => ⟨hs, refl_of Stays s⟩
    have hd := hs.dialogs f d hdialog
    have hfst : d.shown.atLock = true → (answer isdigit epochMs s d input).1 = d.coordinator := fun hat =>
      answer_fst ((manages_of_accepts hd hacc).trans hat)
    have hans : ∀ s₁, Kept c s₁ → Stays s s₁ → (∀ d', s₁.dialogs f = some d' → d'.shown = d.shown) →
        Answers isdigit epochMs c f d input (answer isdigit epochMs s d input).2 s s₁ :=
      fun s₁ hkept hstays hnow => answer_answers hd hacc hkept hstays hdialog hnow hs
    revert hans hfst
    generalize answer isdigit epochMs s d input = x
    obtain ⟨coordinator, p⟩ := x
    intro hfst hans
    refine among_modify_bind ?_
    have hmanaged : Kept c (setDialog f (some ⟨coordinator, d.shown⟩) s) := by
      refine hs.setDialog fun d' heq => ?_
      injection heq with heq
      subst heq
      intro i data r hshown
      have hat : d.shown.atLock = true := congrArg Shown.atLock hshown
      have hcoordinator : coordinator = d.coordinator := hfst hat
      rw [hcoordinator]
      exact hd i data r hshown
    have hstays : Stays s (setDialog f (some ⟨coordinator, d.shown⟩) s) := by
      refine Stays.setDialog (refl_of Stays s) fun d' heq => ?_
      injection heq with heq
      subst heq
      exact ⟨d, hdialog, fun hat => ⟨hat, hfst hat⟩⟩
    have hnow : ∀ d', (setDialog f (some ⟨coordinator, d.shown⟩) s).dialogs f = some d' →
        d'.shown = d.shown := by
      intro d' hd'
      rcases dialogs_setDialog hd' with ⟨-, heq⟩ | ⟨hne, -⟩
      · injection heq with heq
        rw [← heq]
      · exact absurd rfl hne
    refine Among.bind (among_weaken (fun _ q hq => ⟨d, hdialog, hacc, hd, hq⟩) p
      (hans _ hmanaged hstays hnow)) ?_ fun e s err h => h.1
    rintro e s outcome ⟨⟨hkept, hstays⟩, hfits⟩
    cases outcome with
    | shown shown =>
      have hnext := hfits shown rfl
      refine ⟨hkept.setDialog fun d' heq => ?_, hstays.setDialog fun d' heq => ?_⟩
      all_goals
        obtain ⟨d₁, hd₁, rfl⟩ := Option.map_eq_some_iff.mp heq
      · exact (hnext d₁ hd₁).1
      · exact ⟨d₁, hd₁, fun hat => ⟨(hnext d₁ hd₁).2 hat, rfl⟩⟩
    | createEntry data =>
      have hover : Kept c (setDialog f none s) := hkept.setDialog fun _ h => by injection h
      exact ⟨⟨hover.locks, hover.dialogs⟩, hstays.setDialog fun _ h => by injection h⟩
    | abort reason =>
      exact ⟨hkept.setDialog fun _ h => by injection h, hstays.setDialog fun _ h => by injection h⟩

/-- A job of the coordinators, or of the entry. -/
theorem other_among {w : Job n k O} (hw : ∀ f input, w ≠ .configure f input) (hs : Kept c s) :
    Among (Kept c) Stays (fun _ _ => True) (Keeps (Kept c) Stays) (prog isdigit epochMs w) s s := by
  have hrefl := refl_of Stays s
  cases w with
  | configure f input => exact absurd rfl (hw f input)
  | loaded loaded => exact ⟨⟨hs.locks, hs.dialogs⟩, hrefl⟩
  | options options => exact ⟨⟨hs.locks, hs.dialogs⟩, hrefl⟩
  | coordinator i job =>
    have hjob : Sends (fun f : Flow => Lasting (c i) f.coordinator) (fun _ _ => True)
        (fun f r => Lasting (c i) f.coordinator ∧ True)
        (onCoordinator (Coordinator.Poll.prog job)) ((flowAt i).get s) := by
      have hlasting : Lasting (c i) (atCoordinator.get ((flowAt i).get s)) := hs.locks i
      refine sends_within (J := fun _ => True) (I := Lasting (c i)) (Q := fun s _ => Lasting (c i) s)
        (fun _ => (iff_of_eq (and_true _)).symm) (fun _ _ h => h) ?_ _ trivial
        (prog_sends job _ hlasting)
      exact fun _ _ _ _ => trivial
    refine among_mono ?_ _ (among_weaken (fun _ _ _ => trivial) _ (within_among hs hrefl hjob))
    rintro e s r ⟨⟨hlasting, -⟩, hothers, hstays⟩
    exact ⟨(kept_iff i s).mpr ⟨hlasting, hothers⟩, hstays⟩

/-- A request of a job, if that is an answer. -/
def OfAnswer (isdigit : Char → Bool) (epochMs : Instant → ℤ) (c : Fin n → LockUpdateCoordinator)
    (w : Job n k O) (born : Flows n k O) (q : Fin n × Panel.Request) : Prop :=
  ∀ f input, w = .configure f input → AnswersTo isdigit epochMs c f input born q

theorem job_among (w : Job n k O) (s : Flows n k O) (hs : Kept c s) :
    Among (Kept c) Stays (fun _ => OfAnswer isdigit epochMs c w s) (Keeps (Kept c) Stays)
      (prog isdigit epochMs w) s s := by
  by_cases hw : ∃ f input, w = .configure f input
  · obtain ⟨f, input, rfl⟩ := hw
    refine among_weaken (fun _ q hq f' input' heq => ?_) _ (configure_among hs)
    injection heq with hf hinput
    subst hf hinput
    exact hq
  · have hother : ∀ f input, w ≠ .configure f input := fun f input h => hw ⟨f, input, h⟩
    refine among_weaken (fun _ q _ f input heq => ?_) _ (other_among hother hs)
    exact absurd heq (hother f input)

variable {api : ℕ} {options : O} {P : Loop n k O} {τ : List (Move (Loop n k O) (FlowLabel n k O))}

/-- **A flow changes only what it has shown.** In every interleaving of any number of flows with one
another and with all that happens to the coordinators, however often a flow is answered while it works
on an answer: a flow that has come to a lock manages this lock until it is over, and what an answer
sends is a listing of the lock that is managed or picked, or the change that its form asks for: of the
lock that is managed, and of the passcode or the ekey that was chosen, which this lock had when the form
was shown, with the status that the action is offered for. -/
theorem changes_shown
    (hr : Run (fun P l => P.step (prog isdigit epochMs) l) (opened k c api options) τ P) :
    ∀ m ∈ τ, Stays m.src.shared m.dst.shared ∧
      ∀ t, sent (prog isdigit epochMs) m.src m.label = some t →
        ∀ f input, t.job = .configure f input →
          ∃ d, t.born.dialogs f = some d ∧ Accepts d.shown input ∧ WellFormed d ∧
            Warranted isdigit epochMs c d input t.req := by
  have h0 : Kept c (opened k c api options).shared := by
    refine ⟨fun i => ⟨rfl, rfl, id⟩, fun f d hd i data r hshown => ?_⟩
    injection hd with hd
    subst hd
    injection hshown
  intro m hm
  obtain ⟨⟨-, hstays⟩, hsent⟩ := run_among job_among h0 hr m hm
  exact ⟨hstays, fun t ht f input hjob => hsent t ht f input hjob⟩

/-- A lock with one ekey. -/
def oneEkey : Fin 1 → LockUpdateCoordinator := fun _ => { sampleCoordinator with data :=
  { sampleCoordinator.data with
    passcodes := some []
    ekeys := some [⟨some 5, some "guest", some "ann", "normal", none, none, .off⟩] } }

/-- A token that is valid, and a cloud that is down. -/
def sampleAnswers : (q : Fin 1 × Panel.Request) → Except PyError (Panel.Reply q.2)
  | (_, .http .acquire) => .ok ()
  | (_, .http (.ask (.validToken _))) => .ok true
  | _ => .error .clientResponseError

/-- The ekey is frozen. -/
def freezing : List (FlowLabel 1 1 Unit) :=
  [.start (.configure ⟨0, Nat.one_pos⟩ (.next .codes)),
    .start (.configure ⟨0, Nat.one_pos⟩ (.next (.ekey .freeze))),
    .start (.configure ⟨0, Nat.one_pos⟩ (.ekey "5")), .reply 0 sampleAnswers]

/-- What happens. -/
def sampleMoves : List (Move (Loop 1 1 Unit) (FlowLabel 1 1 Unit)) :=
  (play (fun P l => P.step (prog Char.isDigit (· / 1000)) l) (opened 1 oneEkey 0 ()) freezing).1

theorem changes_shown_freezing :
    (sampleMoves.filterMap fun m => (sent (prog Char.isDigit (· / 1000)) m.src m.label).map Task.req) =
      [(0, .http (.ask (.validToken 0))),
        (0, .http (.ask (.send .post "key/freeze" [("keyId", .int 5)])))] ∧
    ∀ m ∈ sampleMoves, Stays m.src.shared m.dst.shared ∧
      ∀ t, sent (prog Char.isDigit (· / 1000)) m.src m.label = some t →
        ∀ f input, t.job = .configure f input →
          ∃ d, t.born.dialogs f = some d ∧ Accepts d.shown input ∧ WellFormed d ∧
            Warranted Char.isDigit (· / 1000) oneEkey d input t.req := by
  refine ⟨by rfl, ?_⟩
  exact changes_shown (run_play (opened 1 oneEkey 0 ()) freezing)

end Runs

end TTLockConnect.ConfigFlow.Conversation
