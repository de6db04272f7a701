import TTLockConnect.Async.Coroutine
import TTLockConnect.Models
import Mathlib.Data.List.AList
import Mathlib.Logic.Function.Basic

/-! # Config entries

`async_setup_entry` and `async_unload_entry` as coroutines over what Home Assistant keeps for the
integration: `hass.data[DOMAIN]`, the subscribers of `SIGNAL_NEW_DATA` and the locks whose presence
Bluetooth tracks; and the steps of Home Assistant that run them.

`asyncSetup`, `asyncUnload`, `asyncReload`, `asyncUpdateEntry` and `processOnUnload` are Home
Assistant's own, as far as the integration can tell: they follow its documentation, not code of this
repository. -/

namespace TTLockConnect.Setup.Entries

open TTLockConnect.Text TTLockConnect.Models
open TTLockConnect.Async.Coroutine TTLockConnect.Async.Coroutine.Coro

abbrev EntryId := String

/-- `LockSummary`. -/
structure LockSummary where
  id : ℤ
  mac : String
  featureValue : Option String
  hasGateway : ℤ

namespace LockSummary

/-- `LockSummary.features`. -/
def features (s : LockSummary) : Except PyError Features := Features.fromFeatureValue s.featureValue

/-- `LockSummary.connectable`. -/
def connectable (s : LockSummary) : Except PyError Bool :=
  if s.hasGateway ≠ 0 then .ok true else s.features.map (·.has wifiBit)

end LockSummary

/-- A `LockUpdateCoordinator`; `ref` tells it from all others. -/
structure LockCoordinator where
  ref : ℕ
  entryId : EntryId
  lockId : ℤ
  mac : String
  connectable : Bool
  deriving DecidableEq, Repr

/-! ### Home Assistant -/

/-- What an entry has Home Assistant do when it is unloaded. -/
inductive OnUnload where
  | removeUpdateListener
  | stopTracking (c : LockCoordinator)
  | nothing
  deriving DecidableEq, Repr

/-- `ConfigEntryState`; a setup that failed may be tried again, an unload that failed may not. -/
inductive EntryState where
  | notLoaded
  | setupFailed
  | loaded
  | failedUnload
  deriving DecidableEq, Repr

/-- `ConfigEntry`. -/
structure ConfigEntry (O : Type) where
  state : EntryState
  options : O
  onUnload : List OnUnload
  updateListeners : ℕ

/-- `hass.data[DOMAIN][entry_id]`: the snapshot of the options, and `TT_LOCKS` and `TT_GATEWAYS` once
they are there. -/
structure EntryData (O : Type) where
  options : O
  locks : Option (List LockCoordinator)
  gateways : Bool

/-- `hass.data[DOMAIN]`: which of the objects that the entries share are there, and the records of
the entries. -/
structure DomainData (O : Type) where
  capture : Bool
  store : Bool
  counter : Bool
  entries : AList fun _ : EntryId => EntryData O

/-- Home Assistant. -/
structure Hass (O : Type) where
  data : DomainData O
  entries : EntryId → ConfigEntry O
  /-- The subscribers of `SIGNAL_NEW_DATA`. -/
  subscribers : List LockCoordinator
  /-- The coordinators whose locks Bluetooth tracks. -/
  tracked : List LockCoordinator
  bluetoothAvailable : Bool
  nextRef : ℕ

namespace Hass
variable {O : Type}

def updateEntry (h : Hass O) (id : EntryId) (f : ConfigEntry O → ConfigEntry O) : Hass O :=
  { h with entries := Function.update h.entries id (f (h.entries id)) }

def setState (h : Hass O) (id : EntryId) (state : EntryState) : Hass O :=
  h.updateEntry id fun e => { e with state := state }

/-- `entry.async_on_unload`. -/
def asyncOnUnload (h : Hass O) (id : EntryId) (u : OnUnload) : Hass O :=
  h.updateEntry id fun e => { e with onUnload := e.onUnload ++ [u] }

/-- `entry.add_update_listener`, undone when the entry is unloaded. -/
def addUpdateListener (h : Hass O) (id : EntryId) : Hass O :=
  (h.updateEntry id fun e => { e with updateListeners := e.updateListeners + 1 }).asyncOnUnload id
    .removeUpdateListener

/-- `hass.data[DOMAIN][entry_id] = record`. -/
def putRecord (h : Hass O) (id : EntryId) (record : EntryData O) : Hass O :=
  { h with data := { h.data with entries := h.data.entries.insert id record } }

/-- `hass.data[DOMAIN][entry_id][…] = …`. -/
def changeRecord (h : Hass O) (id : EntryId) (f : EntryData O → EntryData O) : Hass O :=
  match h.data.entries.lookup id with
  | some record => h.putRecord id (f record)
  | none => h

/-- One of the callbacks of an entry. -/
def undo (id : EntryId) (u : OnUnload) (h : Hass O) : Hass O :=
  match u with
  | .removeUpdateListener =>
    h.updateEntry id fun e => { e with updateListeners := e.updateListeners - 1 }
  | .stopTracking c => { h with tracked := h.tracked.erase c }
  | .nothing => h

/-- Home Assistant's `ConfigEntry._async_process_on_unload`: the last that was registered runs first. -/
def processOnUnload (h : Hass O) (id : EntryId) : Hass O :=
  ((h.entries id).onUnload.foldr (undo id) h).updateEntry id fun e => { e with onUnload := [] }

/-- Set up, and not unloaded since: an unload that fails leaves an entry as it is. -/
def IsLoaded (h : Hass O) (id : EntryId) : Prop :=
  (h.entries id).state = .loaded ∨ (h.entries id).state = .failedUnload

/-- The lock coordinators of an entry. -/
def locksOf (h : Hass O) (id : EntryId) : List LockCoordinator :=
  ((h.data.entries.lookup id).bind EntryData.locks).getD []

/-- The coordinators that process an event: the dispatcher calls every subscriber, and
`_process_webhook_data` returns at once if the event is not for its lock. -/
def processing (h : Hass O) (event : WebhookEvent) : List LockCoordinator :=
  h.subscribers.filter fun c => event.id = c.lockId

end Hass

/-! ### The coroutines -/

/-- What the coroutines await. -/
inductive Request where
  | implementation
  | counterLoad
  | getLocks
  | gatewaysFirstRefresh
  | webhookSetup
  | forwardEntrySetups
  | unloadPlatforms

abbrev Reply : Request → Type
  | .getLocks => List LockSummary
  | .unloadPlatforms => Bool
  | _ => Unit

/-- How the calls of a step come out. -/
abbrev Answers := (q : Request) → Except PyError (Reply q)

abbrev Method (O α : Type) := Coro (Hass O) Request Reply PyError α

section Coroutines
variable {O : Type}

def request (q : Request) : Method O (Reply q) := call q

/-- `LockUpdateCoordinator.__init__`. -/
def newCoordinator (id : EntryId) (summary : LockSummary) : Method O LockCoordinator := do
  let connectable ← fromExcept summary.connectable
  let _ ← fromExcept summary.features
  let h ← get
  let c := ⟨h.nextRef, id, summary.id, summary.mac, connectable⟩
  set { h with
    nextRef := h.nextRef + 1
    subscribers := h.subscribers ++ [c] }
  return c

/-- A coordinator for each lock. -/
def newCoordinators (id : EntryId) : List LockSummary → Method O (List LockCoordinator)
  | [] => return []
  | summary :: summaries => do
    let c ← newCoordinator id summary
    let locks ← newCoordinators id summaries
    return c :: locks

/-- `LockUpdateCoordinator.async_start_ble_tracking`, whose callback the entry registers. -/
def startBleTracking (id : EntryId) (c : LockCoordinator) (h : Hass O) : Hass O :=
  if h.bluetoothAvailable then
    { h with tracked := h.tracked ++ [c] }.asyncOnUnload id (.stopTracking c)
  else h.asyncOnUnload id .nothing

/-- The `ApiCallCounter` of all entries, loaded by the first. -/
def loadCounter : Method O Unit := do
  let h ← get
  if h.data.counter then return ()
  else do
    request .counterLoad
    modify fun h => { h with data := { h.data with counter := true } }

/-- The part of `async_setup_entry` before the record of the entry. -/
def prepare (id : EntryId) : Method O Unit := do
  request .implementation
  modify fun h => h.addUpdateListener id
  modify fun h => { h with data := { h.data with capture := true, store := true } }
  loadCounter

/-- The part of `async_setup_entry` that sets up the locks. -/
def setUpLocks (id : EntryId) : Method O (List LockCoordinator) := do
  let summaries ← request .getLocks
  let locks ← newCoordinators id summaries
  modify fun h => h.changeRecord id fun record => { record with locks := some locks }
  return locks

/-- The part of `async_setup_entry` after the locks. -/
def setUpRest (id : EntryId) (locks : List LockCoordinator) : Method O Unit := do
  modify fun h => locks.foldl (fun h c => startBleTracking id c h) h
  request .gatewaysFirstRefresh
  modify fun h => h.changeRecord id fun record => { record with gateways := true }
  request .webhookSetup
  request .forwardEntrySetups

/-- `async_setup_entry`. -/
def asyncSetupEntry (id : EntryId) : Method O Bool := do
  prepare id
  modify fun h => h.putRecord id ⟨(h.entries id).options, none, false⟩
  let locks ← setUpLocks id
  setUpRest id locks
  return true

/-- The record of an entry is taken out, and with the last one the objects the entries share. -/
def dropRecord (h : Hass O) (id : EntryId) : Hass O :=
  let entries := h.data.entries.erase id
  let shared := !entries.keys.isEmpty
  { h with data := {
      capture := h.data.capture && shared
      store := h.data.store && shared
      counter := h.data.counter && shared
      entries := entries } }

/-- `async_unload_entry`. -/
def asyncUnloadEntry (id : EntryId) : Method O Bool := do
  let unloadOk ← request .unloadPlatforms
  let h ← get
  if unloadOk then
    if id ∈ h.data.entries then do
      set (dropRecord h id)
      return true
    else throw .keyError
  else return false

end Coroutines

/-! ### The steps -/

/-- What happens next, and how the calls come out. -/
inductive EntryEvent (O : Type) where
  | setup (id : EntryId) (w : Answers)
  | unload (id : EntryId) (w : Answers)
  | reload (id : EntryId) (w : Answers)
  | updated (id : EntryId) (options : O) (w : Answers)

section Steps
variable {O : Type}

/-- The calls do not touch this state. -/
def answer (w : Answers) (q : Request) (h : Hass O) : Except PyError (Reply q) × Hass O := (w q, h)

/-- Home Assistant's `ConfigEntry.async_setup`. The callbacks of an entry whose setup fails run only
after the errors in `cleans`. -/
def asyncSetup (cleans : PyError → Bool) (w : Answers) (id : EntryId) (h : Hass O) : Hass O :=
  match (asyncSetupEntry id).run (answer w) h with
  | (.ok true, h) => h.setState id .loaded
  | (.ok false, h) => h.setState id .setupFailed
  | (.error e, h) => (if cleans e then h.processOnUnload id else h).setState id .setupFailed

/-- Home Assistant's `ConfigEntry.async_unload`: whether the entry may be set up again. -/
def asyncUnload (w : Answers) (id : EntryId) (h : Hass O) : Bool × Hass O :=
  match (h.entries id).state with
  | .loaded =>
    match (asyncUnloadEntry id).run (answer w) h with
    | (.ok true, h) => (true, (h.processOnUnload id).setState id .notLoaded)
    | (_, h) => (false, h.setState id .failedUnload)
  | .failedUnload => (false, h)
  | _ => (true, h.setState id .notLoaded)

/-- Home Assistant's `ConfigEntries.async_reload`. -/
def asyncReload (cleans : PyError → Bool) (w : Answers) (id : EntryId) (h : Hass O) : Hass O :=
  match asyncUnload w id h with
  | (true, h) => asyncSetup cleans w id h
  | (false, h) => h

/-- The options changed, and not only other data of the entry, while someone listens:
`_reload_on_options_update` reloads. -/
def optionsChanged [DecidableEq O] (h : Hass O) (id : EntryId) : Bool :=
  0 < (h.entries id).updateListeners &&
    (h.data.entries.lookup id).any fun record => record.options ≠ (h.entries id).options

/-- Home Assistant's `ConfigEntries.async_update_entry`, with what its listeners do. -/
def asyncUpdateEntry [DecidableEq O] (cleans : PyError → Bool) (w : Answers) (id : EntryId)
    (options : O) (h : Hass O) : Hass O :=
  let h := h.updateEntry id fun e => { e with options := options }
  if optionsChanged h id then asyncReload cleans w id h else h

/-- One step. -/
def step [DecidableEq O] (cleans : PyError → Bool) (h : Hass O) : EntryEvent O → Option (Hass O)
  | .setup id w =>
    if (h.entries id).state = .notLoaded ∨ (h.entries id).state = .setupFailed then
      some (asyncSetup cleans w id h)
    else none
  | .unload id w => some (asyncUnload w id h).2
  | .reload id w => some (asyncReload cleans w id h)
  | .updated id options w => some (asyncUpdateEntry cleans w id options h)

/-- Home Assistant before any entry is set up. -/
def booted (options : EntryId → O) (bluetoothAvailable : Bool) : Hass O where
  data := ⟨false, false, false, ∅⟩
  entries := fun id => ⟨.notLoaded, options id, [], 0⟩
  subscribers := []
  tracked := []
  bluetoothAvailable := bluetoothAvailable
  nextRef := 0

end Steps

end TTLockConnect.Setup.Entries
