import TTLockConnect.Async.Mutex
import TTLockConnect.Webhook.Group

/-! # Siblings that register their webhook

`WebhookHandler.register_webhook` for the handlers of one `client_id`, as coroutines that share
`_GROUPS_LOCK`: a handler joins the group under the lock, resolving it first if it is not there yet,
asks for its URL without the lock, and registers the webhook under the lock if no other has. Groups
are objects, so that two handlers may hold the same one or not. -/

namespace TTLockConnect.Webhook.Register

open TTLockConnect.Async.Coroutine TTLockConnect.Async.Coroutine.Coro TTLockConnect.Async.Runs
open TTLockConnect.Async.EventLoop TTLockConnect.Async.Mutex TTLockConnect.Webhook.Group

/-! ### Home Assistant -/

/-- What is raised. -/
inductive WebhookError where
  | valueError
  | keyError
  | cloudNotAvailable
  | noURLAvailable
  deriving DecidableEq, Repr

/-- What is awaited besides the lock: the `client_id` of the implementation an entry authenticates
with, and the cloudhook of an id. -/
inductive Request where
  | implementation (entryId : ℕ)
  | cloudhook (webhookId : String)

abbrev Reply : Request → Type
  | .implementation _ => String
  | .cloudhook _ => String

/-- What Home Assistant and `secrets` answer at once: whether there is an active subscription, the
URL of an id if there is any, and a token. -/
structure Environment where
  activeSubscription : Bool
  generateUrl : String → Option String
  tokenHex : String

/-- A call of the issue registry. -/
inductive IssueCall where
  | create (issueId : String) (webhookUrl : Option String)
  | delete (issueId : String)
  deriving DecidableEq, Repr

/-- A group as an object. -/
abbrev Ref := ℕ

/-- Home Assistant, as the handlers see it. -/
structure Hass where
  environment : Environment
  entries : List Entry
  /-- `groups.get(client_id)` -/
  group : Option Ref := none
  groups : List WebhookGroup := []
  /-- The ids that are registered. -/
  hooks : List String := []
  issues : List IssueCall := []
  /-- The handlers that listen for the stop, by their entries. -/
  onStop : List ℕ := []
  /-- The handlers that were called to register. -/
  called : List ℕ := []
  /-- What each call of `get_url` has returned, or that it found no URL. -/
  urls : List (ℕ × Option String) := []
  /-- The ids with which `webhook_register` was called. -/
  registrations : List String := []

namespace Hass

/-- The config entry of a handler. -/
def entry (h : Hass) (entryId : ℕ) : Entry :=
  (h.entries.find? fun e => e.entryId == entryId).getD { entryId := entryId }

/-- `async_update_entry` -/
def updateEntry (entryId : ℕ) (f : Entry → Entry) (h : Hass) : Hass :=
  { h with entries := h.entries.map fun e => if e.entryId = entryId then f e else e }

/-- What a group is. -/
def theGroup (h : Hass) (r : Ref) : WebhookGroup := h.groups.getD r { webhookId := "" }

/-- A group changed in place. -/
def updateGroup (r : Ref) (f : WebhookGroup → WebhookGroup) (h : Hass) : Hass :=
  { h with groups := h.groups.set r (f (h.theGroup r)) }

/-- `async_create_issue` and `async_delete_issue`. -/
def issue (call : IssueCall) (h : Hass) : Hass := { h with issues := h.issues ++ [call] }

end Hass

/-- A coroutine of a handler. -/
abbrev Method (α : Type) := Locking Hass Request Reply WebhookError α

/-- What Home Assistant is like now. -/
def hass : Method Hass := do
  let s ← get
  pure s.data

/-! ### The URL -/

/-- `self.entry.data[CONF_WEBHOOK_ID]` -/
def webhookIdOf (self : ℕ) : Method String := do
  let h ← hass
  match (h.entry self).webhookId with
  | some webhookId => pure webhookId
  | none => throw .keyError

/-- `webhook.async_generate_url` -/
def asyncGenerateUrl (webhookId : String) : Method String := do
  let h ← hass
  match h.environment.generateUrl webhookId with
  | some url => pure url
  | none => throw .noURLAvailable

/-- `try_generate_cloudhook` -/
def tryGenerateCloudhook (self : ℕ) : Method (Option String) := do
  let h ← hass
  if h.environment.activeSubscription then
    tryCatch (do
        let webhookId ← webhookIdOf self
        let url ← ask (.cloudhook webhookId)
        pure (some url))
      fun err => if err = .cloudNotAvailable then pure none else throw err
  else pure none

/-- `get_url` -/
def getUrl (self : ℕ) : Method String := do
  let h ← hass
  match (h.entry self).webhookUrl with
  | some url => pure url
  | none =>
    let cloudhook ← tryGenerateCloudhook self
    match cloudhook.filter (· ≠ "") with
    | some url => pure url
    | none =>
      let webhookId ← webhookIdOf self
      asyncGenerateUrl webhookId

/-! ### The group -/

variable (clientId : String)

/-- The `client_id` of an entry's implementation, if it has one. -/
def implementationOf (candidate : ℕ) : Method (Option String) :=
  tryCatch (do
      let implementation ← ask (.implementation candidate)
      pure (some implementation))
    fun err => if err = .valueError ∨ err = .keyError then pure none else throw err

/-- `_group_members`, as far as it has come. -/
def groupMembers (self : ℕ) : List ℕ → List ℕ → Method (List ℕ)
  | [], members => pure members
  | candidate :: candidates, members =>
    if candidate = self then groupMembers self candidates (members ++ [candidate])
    else do
      let implementation ← implementationOf candidate
      groupMembers self candidates
        (if implementation = some clientId then members ++ [candidate] else members)

/-- Every member takes over the id, and is confirmed if the group is. -/
def adoptAll (members : List ℕ) (r : Resolution) (h : Hass) : Hass :=
  { h with entries := h.entries.map fun e =>
      if e.entryId ∈ members then e.adopt r.canonical r.confirmed else e }

/-- The issue of a guess, with its URL if there is any. -/
def ambiguousIssue (canonical : String) (h : Hass) : IssueCall :=
  .create ("webhook_consolidation_ambiguous_" ++ clientId)
    (some ((h.environment.generateUrl canonical).getD canonical))

/-- `_resolve_group_webhook_id` -/
def resolveGroup (self : ℕ) : Method (String × Bool) := do
  let h ← hass
  let members ← groupMembers clientId self (h.entries.map Entry.entryId) []
  let h ← hass
  let r := resolveGroupWebhookId (members.map h.entry) h.environment.tokenHex
  modifyData (adoptAll members r)
  if r.ambiguous then modifyData fun h => h.issue (ambiguousIssue clientId r.canonical h)
  pure (r.canonical, r.confirmed)

/-- A new group. -/
def newGroup (webhookId : String) (confirmed : Bool) (h : Hass) : Hass :=
  { h with
    group := some h.groups.length
    groups := h.groups ++ [{ webhookId := webhookId, confirmed := confirmed }] }

/-- The group, resolved if it is not there. -/
def ensureGroup (self : ℕ) : Method Ref := do
  let h ← hass
  match h.group with
  | some r => pure r
  | none =>
    let (webhookId, confirmed) ← resolveGroup clientId self
    let h ← hass
    modifyData (newGroup webhookId confirmed)
    pure h.groups.length

/-- One member more. -/
def withMember (g : WebhookGroup) : WebhookGroup := { g with refcount := g.refcount + 1 }

/-- The first critical section of `register_webhook`. -/
def joinGroup (self : ℕ) : Method Ref := withLock do
  let r ← ensureGroup clientId self
  modifyData fun h => h.updateGroup r withMember
  pure r

/-! ### The registration -/

/-- `_setup_issue_id` -/
def setupIssueId : String := "webhook_setup_" ++ clientId

/-- The entry of a handler that has a URL. -/
def urlFound (self : ℕ) (url : String) (h : Hass) : Hass :=
  { h with urls := h.urls ++ [(self, some url)] }.updateEntry self fun e =>
    { e with webhookUrl := some url }

/-- There is no URL. -/
def urlMissing (self : ℕ) (h : Hass) : Hass :=
  { h with urls := h.urls ++ [(self, none)] }.issue (.create "no_webhook_url" none)

/-- The URL, stored, or an issue that there is none. -/
def storeUrl (self : ℕ) : Method (Option String) :=
  tryCatch (do
      let url ← getUrl self
      modifyData (urlFound self url)
      pure (some url))
    fun err =>
      if err = .noURLAvailable then do
        modifyData (urlMissing self)
        pure none
      else throw err

/-- The issue that asks for this URL to be registered, unless it has been raised or the webhook is in
use already. -/
def raiseSetupIssue (self : ℕ) (r : Ref) (url : String) (h : Hass) : Hass :=
  if (h.entry self).status = false ∧ (h.theGroup r).issueRaised = false then
    (h.issue (.create (setupIssueId clientId) (some url))).updateGroup r fun g =>
      { g with issueRaised := true }
  else h

/-- `webhook_unregister` -/
def webhookUnregister (webhookId : String) (h : Hass) : Hass :=
  { h with hooks := h.hooks.filter (· ≠ webhookId) }

/-- `webhook_register` -/
def webhookRegister (webhookId : String) : Method Unit := do
  modifyData fun h => { h with registrations := h.registrations ++ [webhookId] }
  let h ← hass
  if webhookId ∈ h.hooks then throw .valueError
  else modifyData fun h => { h with hooks := h.hooks ++ [webhookId] }

/-- The second critical section of `register_webhook`. -/
def registerGroup (r : Ref) : Method Unit := withLock do
  let h ← hass
  let group := h.theGroup r
  if group.registered then pure ()
  else
    modifyData (webhookUnregister group.webhookId)
    webhookRegister group.webhookId
    modifyData fun h => h.updateGroup r fun g => { g with registered := true }

/-- The entry is brought in line with the group, and the handler listens for the stop. -/
def syncAndListen (self : ℕ) (r : Ref) (h : Hass) : Hass :=
  { h.updateEntry self (syncEntryToGroup (h.theGroup r)) with onStop := h.onStop ++ [self] }

/-- `register_webhook` -/
def registerWebhook (self : ℕ) : Method Unit := do
  let r ← joinGroup clientId self
  modifyData (syncAndListen self r)
  let url ← storeUrl self
  match url with
  | none => pure ()
  | some url =>
    modifyData fun h => h.issue (.delete "no_webhook_url")
    modifyData (raiseSetupIssue clientId self r url)
    registerGroup r

/-! ### Concurrent calls -/

/-- A handler's call. -/
def prog (self : ℕ) : Method Unit := do
  modifyData fun h => { h with called := h.called ++ [self] }
  registerWebhook clientId self

/-- The replies to what is awaited. An entry's implementation is found, or it is not available; nothing
is cancelled. -/
structure Answers where
  implementation : ℕ → Except WebhookError String
  cloudhook : String → Except WebhookError String
  notAvailable : ∀ entryId err, implementation entryId = .error err →
    err = .valueError ∨ err = .keyError

/-- The reply to a request. -/
def Answers.reply (answers : Answers) : (q : Demand Request) → Except WebhookError (Grant Reply q)
  | .acquire => .ok ()
  | .ask (.implementation entryId) => answers.implementation entryId
  | .ask (.cloudhook webhookId) => answers.cloudhook webhookId

/-- Home Assistant, and the calls in flight. -/
abbrev System := Pool (Guarded Hass) (Demand Request) (Grant Reply) WebhookError ℕ

/-- What comes next: the call of a handler, a reply to one, a change of what Home Assistant answers, or
an entry more. -/
inductive Label where
  | call (self : ℕ)
  | reply (i : ℕ) (answers : Answers)
  | environment (environment : Environment)
  | added (e : Entry)

/-- One step. -/
def step (sys : System) : Label → Option System
  | .call self =>
    if self ∈ sys.shared.data.entries.map Entry.entryId then
      Async.Mutex.step (prog clientId) sys (.start self)
    else none
  | .reply i answers => Async.Mutex.step (prog clientId) sys (.reply i answers.reply)
  | .environment environment =>
    some ⟨⟨sys.shared.locked, { sys.shared.data with environment := environment }⟩, sys.tasks⟩
  | .added e =>
    if e.entryId ∈ sys.shared.data.entries.map Entry.entryId then none
    else
      some ⟨⟨sys.shared.locked, { sys.shared.data with entries := sys.shared.data.entries ++ [e] }⟩,
        sys.tasks⟩

/-- Before any of the handlers registers. -/
def start (environment : Environment) (entries : List Entry) (hooks : List String) : System :=
  ⟨⟨false, { environment := environment, entries := entries, hooks := hooks }⟩, []⟩

/-! ### What siblings come to -/

/-- The call raises the issue. -/
def IssueCall.raises (issueId : String) : IssueCall → Bool
  | .create issueId' _ => issueId' == issueId
  | .delete _ => false

/-- How often the setup issue has been raised. -/
def setupIssues (h : Hass) : ℕ := h.issues.countP (IssueCall.raises (setupIssueId clientId))

/-- The members the group counts, none without a group. -/
def refcount (h : Hass) : ℤ := (h.group.map fun r => (h.theGroup r).refcount).getD 0

/-- **The webhook is registered once**: never twice, and as soon as a call that got a URL is over; and
the setup issue is raised once at most. -/
structure RegisteredOnce (sys : System) : Prop where
  atMostOnce : sys.shared.data.registrations.length ≤ 1
  once : ∀ self url, (self, some url) ∈ sys.shared.data.urls → (∀ t ∈ sys.tasks, t.job ≠ self) →
    sys.shared.data.registrations.length = 1
  forUrl : sys.shared.data.registrations ≠ [] →
    ∃ self url, (self, some url) ∈ sys.shared.data.urls
  issue : setupIssues clientId sys.shared.data ≤ 1

/-- **All have joined**: the group counts the handlers, and their entries have its id. -/
structure AllJoined (h : Hass) : Prop where
  refcount : refcount h = h.called.length
  ids : ∀ self ∈ h.called, ∃ r g, h.group = some r ∧ h.groups[r]? = some g ∧
    (∃ e ∈ h.entries, e.entryId = self) ∧
      ∀ e ∈ h.entries, e.entryId = self → e.webhookId = some g.webhookId

end TTLockConnect.Webhook.Register
