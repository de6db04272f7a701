import TTLockConnect.Async.Component
import TTLockConnect.Cloud.Replies
import TTLockConnect.Coordinator.Poll
import TTLockConnect.Text.Readings

/-! # The management panel

The steps of `TTLockOptionsFlow` that change the credentials of a lock, over the methods of its API
client and of its coordinator. A step takes an input that the schema of its form has accepted. The
texts of the menu are not rendered: it lists the credentials themselves.

What Python makes of text and of time stands for itself: `isdigit` of a character, and `epochMs`, a
point in time as milliseconds since the epoch, which is computed in floating point. -/

namespace TTLockConnect.ConfigFlow.Panel

open TTLockConnect.Text TTLockConnect.Models TTLockConnect.Coordinator.State
open TTLockConnect.Async.Coroutine TTLockConnect.Async.Coroutine.Coro TTLockConnect.Async.Mutex
open TTLockConnect.Async.Component
open TTLockConnect.Cloud.Client (HttpRequest HttpReply Body)

/-! ### The flow and what it awaits -/

/-- The flow of a lock: its coordinator, with the client that is `coordinator.api`, and `GW_LOCK`. -/
structure Flow where
  coordinator : LockUpdateCoordinator
  api : ℕ
  gwLock : Guarded Unit

/-- What is awaited: by a method of the client, or by one of the coordinator. -/
inductive Request where
  | http (q : Demand HttpRequest)
  | api (q : Api.Request)

abbrev Reply : Request → Type
  | .http q => Grant HttpReply q
  | .api q => Api.Reply q

/-- A coroutine of the flow. -/
abbrev Step (α : Type) := Coro Flow Request Reply PyError α

/-- Where the flow has the coordinator. -/
def atCoordinator : Place Flow LockUpdateCoordinator where
  get f := f.coordinator
  put c f := { f with coordinator := c }
  get_put _ _ := rfl
  put_put _ _ _ := rfl
  put_get _ := rfl

/-- Where it has the lock. -/
def atGwLock : Place Flow (Guarded Unit) where
  get f := f.gwLock
  put s f := { f with gwLock := s }
  get_put _ _ := rfl
  put_put _ _ _ := rfl
  put_get _ := rfl

/-- A method of the coordinator. -/
def onCoordinator {α : Type} (m : Coordinator.Poll.Method α) : Step α :=
  within atCoordinator Request.api (fun _ => id) m

/-- A method of its client. -/
def onApi {α : Type} (m : Cloud.Client.Method α) : Step α :=
  within atGwLock Request.http (fun _ => id) m

/-! ### Forms and menus -/

/-- `SelectOptionDict`. -/
structure SelectOption where
  value : String
  label : String
  deriving DecidableEq, Repr

inductive Selector where
  | str
  | dateTime
  | boolean
  | select (options : List SelectOption)
  deriving DecidableEq, Repr

/-- A key of a schema. -/
structure Field where
  key : String
  required : Bool
  default : Option Bool := none
  selector : Selector
  deriving DecidableEq, Repr

/-- `errors` -/
abbrev Errors := List (String × String)

/-- `async_show_form`. -/
structure Form where
  stepId : String
  errors : Errors
  lock : String
  dataSchema : List Field
  deriving DecidableEq, Repr

/-- `async_show_menu`. -/
structure Menu where
  stepId : String
  menuOptions : List String
  lock : String
  pins : List Passcode
  ekeys : List Ekey
  deriving DecidableEq, Repr

/-- `ConfigFlowResult`. -/
inductive FlowResult where
  | form (f : Form)
  | menu (m : Menu)
  deriving DecidableEq, Repr

/-! ### The menu of a lock -/

/-- The actions that the credentials of a lock admit. -/
def menuOptions (passcodes : List Passcode) (ekeys : List Ekey) : List String :=
  ["add_pin"] ++ (if passcodes ≠ [] then ["delete_pin"] else []) ++
    ["send_ekey"] ++ (if ekeys ≠ [] then ["delete_ekey"] else []) ++
    (if ekeys.any fun ekey => ekey.status = "normal" then ["freeze_ekey"] else []) ++
    (if ekeys.any fun ekey => ekey.status = "frozen" then ["unfreeze_ekey"] else []) ++ ["finish"]

/-- The menu as it is shown. -/
def showMenu (data : LockState) : Menu where
  stepId := "lock_menu"
  menuOptions := menuOptions (data.passcodes.getD []) (data.ekeys.getD [])
  lock := data.name
  pins := data.passcodes.getD []
  ekeys := data.ekeys.getD []

/-- `async_step_lock_menu`. -/
def asyncStepLockMenu : Step FlowResult := do
  let f ← get
  if f.coordinator.data.passcodes.isNone ∨ f.coordinator.data.ekeys.isNone then
    onCoordinator Coordinator.Poll.asyncRefreshCodes
  let f ← get
  pure (.menu (showMenu f.coordinator.data))

/-! ### The steps -/

section Steps
variable (isdigit : Char → Bool) (epochMs : Instant → ℤ)

/-- `_period_ms`. -/
def periodMs (start end_ : Option Instant) : Option (ℤ × ℤ) :=
  match start, end_ with
  | none, none => some (0, 0)
  | some start, some end_ => some (epochMs start, epochMs end_)
  | _, _ => none

/-- `ms or None`. -/
def orNone (ms : ℤ) : Option ℤ := if ms = 0 then none else some ms

/-- `passcode.isdigit() and 4 <= len(passcode) <= 9`. -/
def validPasscode (passcode : String) : Bool :=
  passcode.toList.all isdigit && (4 ≤ passcode.length && passcode.length ≤ 9)

/-- The end of a step: where the request has `taken` effect the credentials are listed again and the
menu is shown, else the step's own form. -/
def settle {β : Type} (request : Cloud.Client.Method β) (taken : β → Bool)
    (refused : Step FlowResult) : Step FlowResult := do
  let result ← onApi request
  if taken result then
    onCoordinator Coordinator.Poll.asyncRefreshCodes
    asyncStepLockMenu
  else refused

/-- The input of `add_pin`. -/
structure AddPinInput where
  passcodeName : String
  passcode : String
  startTime : Option Instant
  endTime : Option Instant
  deriving DecidableEq, Repr

def addPinForm (errors : Errors) : Step FlowResult := do
  let f ← get
  pure (.form
    { stepId := "add_pin"
      errors := errors
      lock := f.coordinator.data.name
      dataSchema := [⟨"passcode_name", true, none, .str⟩, ⟨"passcode", true, none, .str⟩,
        ⟨"start_time", false, none, .dateTime⟩, ⟨"end_time", false, none, .dateTime⟩] })

/-- `async_step_add_pin`. -/
def asyncStepAddPin : Option AddPinInput → Step FlowResult
  | none => addPinForm []
  | some input =>
    if ¬ validPasscode isdigit input.passcode then addPinForm [("passcode", "invalid_passcode")]
    else
      match periodMs epochMs input.startTime input.endTime with
      | none => addPinForm [("base", "period_incomplete")]
      | some (startMs, endMs) => do
        let f ← get
        settle (Cloud.Client.addPasscode f.api f.coordinator.lockId
            { passcode := some input.passcode
              passcodeName := some input.passcodeName
              startMinute := orNone startMs
              endMinute := orNone endMs })
          id (addPinForm [("base", "api_error")])

/-- The input of `delete_pin`. -/
structure DeletePinInput where
  passcode : String
  deriving DecidableEq, Repr

/-- The passcodes to choose from. -/
def pinOptions (data : LockState) : List SelectOption :=
  (data.passcodes.getD []).filterMap fun code => code.id.map fun id =>
    { value := String.ofList (Readings.str id)
      label := code.name.getD "None" ++ " (" ++ code.passcode.getD "None" ++ ")" }

def deletePinForm (errors : Errors) : Step FlowResult := do
  let f ← get
  if pinOptions f.coordinator.data = [] then asyncStepLockMenu
  else
    pure (.form
      { stepId := "delete_pin"
        errors := errors
        lock := f.coordinator.data.name
        dataSchema := [⟨"passcode", true, none, .select (pinOptions f.coordinator.data)⟩] })

/-- `async_step_delete_pin`. -/
def asyncStepDeletePin : Option DeletePinInput → Step FlowResult
  | none => deletePinForm []
  | some input => do
    let f ← get
    let passcodeId ← fromExcept (intDec input.passcode.toList)
    settle (Cloud.Client.deletePasscode f.api f.coordinator.lockId passcodeId)
      id (deletePinForm [("base", "api_error")])

/-- The input of `send_ekey`. -/
structure SendEkeyInput where
  receiverUsername : String
  name : String
  startTime : Option Instant
  endTime : Option Instant
  remoteEnable : Option Bool
  createUser : Option Bool
  deriving DecidableEq, Repr

def sendEkeyForm (errors : Errors) : Step FlowResult := do
  let f ← get
  pure (.form
    { stepId := "send_ekey"
      errors := errors
      lock := f.coordinator.data.name
      dataSchema := [⟨"receiver_username", true, none, .str⟩, ⟨"name", true, none, .str⟩,
        ⟨"start_time", false, none, .dateTime⟩, ⟨"end_time", false, none, .dateTime⟩,
        ⟨"remote_enable", false, some false, .boolean⟩,
        ⟨"create_user", false, some false, .boolean⟩] })

/-- `async_step_send_ekey`. -/
def asyncStepSendEkey : Option SendEkeyInput → Step FlowResult
  | none => sendEkeyForm []
  | some input =>
    match periodMs epochMs input.startTime input.endTime with
    | none => sendEkeyForm [("base", "period_incomplete")]
    | some (startMs, endMs) => do
      let f ← get
      settle (Cloud.Client.sendEkey f.api f.coordinator.lockId input.receiverUsername input.name
          startMs endMs none input.remoteEnable (input.createUser.getD false))
        Option.isSome (sendEkeyForm [("base", "api_error")])

end Steps

/-! ### Inputs -/

/-- What is submitted to a step. -/
inductive Submission where
  | addPin (input : AddPinInput)
  | deletePin (input : DeletePinInput)
  | sendEkey (input : SendEkeyInput)
  deriving DecidableEq, Repr

namespace Submission
variable (isdigit : Char → Bool) (epochMs : Instant → ℤ)

/-- Both ends of a period, or neither. -/
def wholePeriod (start end_ : Option Instant) : Prop := start.isSome = end_.isSome

/-- The step finds nothing wrong with its input. A passcode to delete is chosen from the options that
the form showed; `str` has no text for longer numbers. -/
def Valid : Submission → Prop
  | .addPin input =>
    validPasscode isdigit input.passcode = true ∧ wholePeriod input.startTime input.endTime
  | .deletePin input => ∃ id : ℤ, (Nat.toDigits 10 id.natAbs).length ≤ maxStrDigits ∧
      input.passcode = String.ofList (Readings.str id)
  | .sendEkey input => wholePeriod input.startTime input.endTime

/-- The step of an input. -/
def step : Submission → Step FlowResult
  | .addPin input => asyncStepAddPin isdigit epochMs (some input)
  | .deletePin input => asyncStepDeletePin (some input)
  | .sendEkey input => asyncStepSendEkey epochMs (some input)

def stepId : Submission → String
  | .addPin _ => "add_pin"
  | .deletePin _ => "delete_pin"
  | .sendEkey _ => "send_ekey"

/-- What the reply to the request has to hold, beside an `errcode` that is zero or absent. -/
def Confirmed (body : Body) : Submission → Prop
  | .sendEkey _ => body.keyId.isSome
  | _ => True

end Submission

/-! ### The cloud -/

/-- What the cloud replies: to the request of a step, and to the requests for the lists. -/
structure Cloud extends Cloud.Replies.Response where
  passcodes : Except PyError (List Passcode)
  ekeys : Except PyError (List Ekey)

namespace Cloud
variable (w : Cloud)

/-- What the coordinator is answered; it sends no other requests here. -/
def lists : (q : Api.Request) → LockUpdateCoordinator →
    Except PyError (Api.Reply q) × LockUpdateCoordinator
  | .listKeyboardPwd _, c => (w.passcodes, c)
  | .listKey _, c => (w.ekeys, c)
  | _, c => (.error .requestFailed, c)

def answer : (q : Request) → Flow → Except PyError (Reply q) × Flow
  | .http q, f => ((w.http q f.gwLock).1, { f with gwLock := (w.http q f.gwLock).2 })
  | .api q, f => ((w.lists q f.coordinator).1, { f with coordinator := (w.lists q f.coordinator).2 })

/-- The lists can be fetched. -/
def Lists : Prop := (∃ passcodes, w.passcodes = .ok passcodes) ∧ ∃ ekeys, w.ekeys = .ok ekeys

end Cloud

end TTLockConnect.ConfigFlow.Panel
