import TTLockConnect.Async.TwoRuns
import TTLockConnect.Diagnostics.Dump

/-! # A config entry at work

The steps that move what the diagnostics of an entry show: the jobs of its locks' coordinators, with
the requests they send and the replies they get, the calls of services and of the options flow, the
posts to the webhook, and the states that entities write. Which step comes next is arbitrary. -/

namespace TTLockConnect.Diagnostics.Entry

open TTLockConnect.Text TTLockConnect.Models TTLockConnect.Api TTLockConnect.Coordinator.State
open TTLockConnect.Coordinator.Poll TTLockConnect.Coordinator.Writers
open TTLockConnect.Async.EventLoop TTLockConnect.Async.TwoRuns TTLockConnect.Webhook.Records
open TTLockConnect.Diagnostics.Replies TTLockConnect.Diagnostics.Capture
open TTLockConnect.Diagnostics.Dump

/-- When a message is captured, and the id under which it is. -/
structure Stamp where
  logId : String
  now : LocalTime
  deriving DecidableEq, Repr

/-- The steps. A `Stamp` goes with each request sent, and with each reply received. -/
inductive EntryLabel where
  /-- A job of the coordinator at index `i` starts. -/
  | start (i : ℕ) (w : Job) (sending : Stamp)
  /-- Its task at index `t` gets a reply of the API. -/
  | reply (i t : ℕ) (resp : HttpReply) (received sending : Stamp)
  /-- Its task at index `t` gets anything else it waits for; a request may also raise. -/
  | answer (i t : ℕ) (ans : (q : Request) → Except PyError (Reply q)) (sending : Stamp)
  /-- A call that is no coordinator's. -/
  | call (req : HttpRequest) (resp : HttpReply) (sending received : Stamp)
  | gateways (resp : HttpReply) (sending received : Stamp)
  | post (post : Post) (received : Stamp)
  | passageMode (i : ℕ) (config : PassageModeConfig)
  | ble (i : ℕ) (ble : BleData)
  | write (i : ℕ) (entity : Entity) (now : LocalTime) (context : String)

namespace Integration

variable (rt : Runtime)

/-- A request is sent: it is counted, and captured. -/
def send (x : Integration) (sending : Stamp) (req : HttpRequest) : Integration :=
  { x with
    calls := x.calls ++ [(sending.now, req.path)]
    capture := logAndCapture rt.str x.capture sending.now.instant (lockIdOf req.kwargs)
      (sendingMessage rt.apiBase sending.logId req) }

/-- The reply to it is captured. -/
def receive (x : Integration) (received : Stamp) (req : HttpRequest) (resp : HttpReply) :
    Integration :=
  { x with
    capture := captureAll rt.str x.capture received.now.instant (lockIdOf req.kwargs)
      (parseResp rt.lib received.logId resp).1 }

/-- What the task at index `t` of the coordinator at index `i` waits for. -/
def awaited (x : Integration) (i t : ℕ) : Option Request :=
  x.locks[i]?.bind fun lock => lock.loop.tasks[t]?.map Task.req

/-- The request of a move, if it is one to the API. -/
def sendSome (x : Integration) (sending : Stamp) (q : Option Request) : Integration :=
  match q.bind httpRequest with
  | some req => send rt x sending req
  | none => x

/-- A move of the coordinator at index `i`. -/
def move (x : Integration) (i : ℕ) (l : LoopLabel) (sending : Stamp) : Option Integration :=
  x.locks[i]?.bind fun lock =>
    (lock.loop.step prog l).map fun loop =>
      sendSome rt { x with locks := x.locks.set i { lock with loop := loop } } sending
        (sent prog lock.loop l)

/-- A change of the coordinator at index `i`, or of what it is shown with. -/
def update (x : Integration) (i : ℕ) (f : LockRun → LockRun) : Option Integration :=
  x.locks[i]?.map fun lock => { x with locks := x.locks.set i (f lock) }

end Integration

/-- A change of a coordinator's own attributes. -/
def onCoordinator (f : LockUpdateCoordinator → LockUpdateCoordinator) (lock : LockRun) : LockRun :=
  { lock with loop := { lock.loop with shared := f lock.loop.shared } }

/-- `SIGNAL_NEW_DATA`: every coordinator processes the event. -/
def dispatch (locks : List LockRun) (event : WebhookEvent) : List LockRun :=
  locks.map (onCoordinator fun c => (processWebhookData event c).1)

/-- The request of `TTLockApi.get_gateways`. -/
def gatewayList : HttpRequest := ⟨"gateway/list", [("pageNo", .int 1), ("pageSize", .int 1000)]⟩

/-- `{gateway.id: gateway for gateway in gateways}`. -/
def byId (gateways : List Gateway) : List (ℤ × Gateway) :=
  gateways.foldl (fun entries gateway => insert gateway.id gateway entries) []

namespace Integration

variable (rt : Runtime)

/-- `handle_webhook`: the post is captured, its events are dispatched, and the webhook may be
confirmed. -/
def handlePost (x : Integration) (post : Post) (received : Stamp) : Integration :=
  match post.fields, post.lockId with
  | [], _ | _, .error _ => x
  | _, .ok lockId =>
    let handled := handleWebhook rt.lib x.webhookStatus post
    let locks := handled.dispatched.foldl dispatch x.locks
    { x with
      capture := logAndCapture rt.str x.capture received.now.instant lockId
        ("Got webhook data: %s", [.form post])
      locks := if handled.resolved then
        locks.map (onCoordinator fun c => { c with webhookStatus := true }) else locks
      webhookStatus := x.webhookStatus || handled.resolved }

/-- A poll of the gateways. -/
def pollGateways (x : Integration) (resp : HttpReply) (sending received : Stamp) : Integration :=
  let x := receive rt (send rt x sending gatewayList) received gatewayList resp
  match (parseResp rt.lib received.logId resp).2 >>= listOf (Gateway.modelValidate rt.lib) with
  | .ok gateways => { x with gateways := byId gateways }
  | .error _ => x

/-- One step. -/
def step (x : Integration) : EntryLabel → Option Integration
  | .start i w sending => move rt x i (.start w) sending
  | .reply i t resp received sending =>
    match (awaited x i t).bind httpRequest with
    | some req =>
      move rt (receive rt x received req resp) i
        (.reply t fun q => (parseResp rt.lib received.logId resp).2 >>= validate rt.lib q) sending
    | none => none
  | .answer i t ans sending =>
    match awaited x i t with
    | some q =>
      if (httpRequest q).isSome ∧ (ans q).toBool then none else move rt x i (.reply t ans) sending
    | none => none
  | .call req resp sending received => some (receive rt (send rt x sending req) received req resp)
  | .gateways resp sending received => some (pollGateways rt x resp sending received)
  | .post post received => some (handlePost rt x post received)
  | .passageMode i config =>
    update x i (onCoordinator fun c =>
      { c with data := { c.data with passageModeConfig := some config } })
  | .ble i ble =>
    update x i fun lock =>
      { onCoordinator (fun c => { c with inRange := ble.rssi.isSome }) lock with ble := ble }
  | .write i entity now context => update x i fun lock => lock.write rt entity now context

section Inversion
variable {rt} {x y : Integration} {i t : ℕ} {sending : Stamp}

/-- A reply of the server is one to a request that a task waits for. -/
theorem step_reply {resp : HttpReply} {received : Stamp}
    (h : step rt x (.reply i t resp received sending) = some y) :
    ∃ q req, awaited x i t = some q ∧ httpRequest q = some req ∧
      move rt (receive rt x received req resp) i
        (.reply t fun q => (parseResp rt.lib received.logId resp).2 >>= validate rt.lib q) sending =
          some y := by
  simp only [step] at h
  cases hreq : (awaited x i t).bind httpRequest with
  | none =>
    rw [hreq] at h
    cases h
  | some req =>
    obtain ⟨q, hq, hqreq⟩ := Option.bind_eq_some_iff.mp hreq
    rw [hreq] at h
    exact ⟨q, req, hq, hqreq, h⟩

/-- An answer that is none of the server's either answers another request, or is an error. -/
theorem step_answer {ans : (q : Request) → Except PyError (Reply q)}
    (h : step rt x (.answer i t ans sending) = some y) :
    ∃ q, awaited x i t = some q ∧ ¬((httpRequest q).isSome ∧ (ans q).toBool) ∧
      move rt x i (.reply t ans) sending = some y := by
  simp only [step] at h
  cases hq : awaited x i t with
  | none =>
    rw [hq] at h
    cases h
  | some q =>
    rw [hq] at h
    dsimp only at h
    split_ifs at h with hsome
    exact ⟨q, rfl, hsome, h⟩

end Inversion

end Integration

/-! ### Setup -/

/-- What the setup of an entry finds: its options, what Home Assistant has kept, and the traffic
captured and counted so far, which the entries share. -/
structure Setup where
  slowInterval : Duration
  slowInterval_pos : 0 < slowInterval
  webhookOnly : Bool
  bluetoothAvailable : Bool
  webhookStatus : Bool
  now : LocalTime
  store : ℤ → StoreRecord
  /-- What `LockOperator` and `LockTrigger` restore. -/
  restored : ℤ → Option String × Option String
  capture : LockTrafficCapture
  calls : List (LocalTime × String)

/-- `LockUpdateCoordinator.__init__`, and the lock's entities. -/
def LockRun.new (found : Setup) (summary : LockSummary) : Except PyError LockRun := do
  let features ← Features.fromFeatureValue summary.featureValue
  let coordinator : LockUpdateCoordinator :=
    { lockId := summary.id
      connectable := summary.hasGateway ≠ 0 ∨ features.has wifiBit
      hasGateway := summary.hasGateway ≠ 0
      slowInterval := found.slowInterval
      slowInterval_pos := found.slowInterval_pos
      webhookOnly := found.webhookOnly
      bluetoothAvailable := found.bluetoothAvailable
      webhookStatus := found.webhookStatus
      data := { name := summary.name, mac := summary.mac, features := features }
      store := found.store summary.id
      now := found.now }
  pure
    { lockId := summary.id
      loop := ⟨coordinator, []⟩
      hasGateway := summary.hasGateway
      featureValue := summary.featureValue
      ble := {}
      operator := (found.restored summary.id).1
      trigger := (found.restored summary.id).2
      states := [] }

/-- The request of `TTLockApi.get_locks`. -/
def lockList : HttpRequest := ⟨"lock/list", [("pageNo", .int 1), ("pageSize", .int 1000)]⟩

/-- `async_setup_entry`, up to the first poll of the gateways. -/
def asyncSetupEntry (rt : Runtime) (found : Setup) (resp : HttpReply) (sending received : Stamp) :
    Except PyError Integration := do
  let x : Integration := ⟨[], found.capture, found.calls, [], found.webhookStatus⟩
  let x := Integration.receive rt (Integration.send rt x sending lockList) received lockList resp
  let summaries ← (parseResp rt.lib received.logId resp).2 >>= listOf (LockSummary.modelValidate rt.lib)
  let locks ← summaries.mapM (LockRun.new found)
  pure { x with locks := locks }

end TTLockConnect.Diagnostics.Entry
