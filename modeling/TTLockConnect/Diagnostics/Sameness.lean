import TTLockConnect.Diagnostics.Entry
import TTLockConnect.Diagnostics.Unseen

/-! # Entries that differ only in secrets

Two entries whose coordinators differ only in secrets, none of them captured of their locks. What
their entities show is the same, and so are the states they write, up to attributes that the
redaction hides. -/

namespace TTLockConnect.Diagnostics.Sameness

open TTLockConnect.Text TTLockConnect.Models TTLockConnect.Api TTLockConnect.Coordinator.State
open TTLockConnect.Coordinator.Poll TTLockConnect.Coordinator.Writers
open TTLockConnect.Async.EventLoop TTLockConnect.Async.TwoRuns TTLockConnect.Webhook.Records
open TTLockConnect.Diagnostics.Redaction TTLockConnect.Diagnostics.Secrets
open TTLockConnect.Diagnostics.Capture TTLockConnect.Diagnostics.Unseen
open TTLockConnect.Diagnostics.Dump TTLockConnect.Diagnostics.Entry

/-! ### States that differ only in secrets -/

/-- Two states of an entity that the redaction makes the same. -/
structure SameState (s s' : HassState) : Prop where
  entityId : s.entityId = s'.entityId
  state : s.state = s'.state
  attributes : asyncRedactData (.dict s.attributes) = asyncRedactData (.dict s'.attributes)
  lastChanged : s.lastChanged = s'.lastChanged
  lastReported : s.lastReported = s'.lastReported
  lastUpdated : s.lastUpdated = s'.lastUpdated
  context : s.context = s'.context

/-- Two locks that differ only in secrets. -/
structure SameLock (lock lock' : LockRun) : Prop where
  lockId : lock.lockId = lock'.lockId
  loop : PoolAlike butSecrets lock.loop lock'.loop
  hasGateway : lock.hasGateway = lock'.hasGateway
  featureValue : lock.featureValue = lock'.featureValue
  ble : lock.ble = lock'.ble
  operator : lock.operator = lock'.operator
  trigger : lock.trigger = lock'.trigger
  states : List.Forall₂ (fun s s' : Entity × HassState => s.1 = s'.1 ∧ SameState s.2 s'.2)
    lock.states lock'.states

/-- The ids of the entry's locks. -/
def lockIds (x : Integration) : List ℤ := x.locks.map LockRun.lockId

/-- Two entries that differ only in secrets, none of them captured. -/
structure SameEntry (x x' : Integration) : Prop where
  locks : List.Forall₂ SameLock x.locks x'.locks
  capture : SameFor (lockIds x) x.capture x'.capture
  calls : x.calls = x'.calls
  gateways : x.gateways = x'.gateways
  webhookStatus : x.webhookStatus = x'.webhookStatus

variable {rt : Runtime} {x x' y y' : Integration} {lock lock' : LockRun}
  {c c' : LockUpdateCoordinator}

/-! ### What an entity shows -/

theorem countP_masked {α : Type} (f : α → α) (p : α → Bool) (hp : ∀ a, p (f a) = p a)
    (as : List α) : (as.map f).countP p = as.countP p := by
  rw [List.countP_map]
  congr 1
  funext a
  exact hp a

theorem values_masked (now : LocalTime) (c : LockUpdateCoordinator) (ble : BleData)
    (operator trigger : Option String) (entity : Entity) :
    entity.values now (LockUpdateCoordinator.masked c) ble operator trigger =
      entity.values now c ble operator trigger := by
  cases entity with
  | lockPinCodes =>
    simp only [Entity.values, LockUpdateCoordinator.masked, LockState.masked]
    cases c.data.passcodes with
    | none => rfl
    | some codes =>
      simp only [Option.map_some, orNull]
      rw [countP_masked Passcode.masked _ fun _ => rfl]
  | lockEkeys =>
    simp only [Entity.values, LockUpdateCoordinator.masked, LockState.masked]
    cases c.data.ekeys with
    | none => rfl
    | some ekeys =>
      simp only [Option.map_some, orNull]
      rw [countP_masked Ekey.masked _ fun _ => rfl]
  | _ => rfl

theorem SameLock.shown (h : SameLock lock lock') (now : LocalTime) (entity : Entity) :
    entity.shown now lock = entity.shown now lock' := by
  have hc : SameCoordinator lock.loop.shared lock'.loop.shared := h.loop.shared
  unfold Entity.shown
  rw [show lock.loop.shared.data.name = lock'.loop.shared.data.name from hc.data.eq fun _ => rfl,
    show lock.loop.shared.connectable = lock'.loop.shared.connectable from hc.eq fun _ => rfl,
    show lock.loop.shared.lastUpdateSuccess = lock'.loop.shared.lastUpdateSuccess from
      hc.eq fun _ => rfl, h.ble, h.operator, h.trigger,
    hc.eq (f := fun c => entity.values now c lock'.ble lock'.operator lock'.trigger)
      fun c => values_masked now c _ _ _ entity]

/-- Two dicts of attributes that the redaction makes the same. -/
def SameAttributes (a a' : List (String × JsonValue)) : Prop :=
  asyncRedactData (.dict a) = asyncRedactData (.dict a')

theorem SameAttributes.append {a a' b b' : List (String × JsonValue)} (ha : SameAttributes a a')
    (hb : SameAttributes b b') : SameAttributes (a ++ b) (a' ++ b') := by
  unfold SameAttributes at *
  rw [asyncRedactData_dict, asyncRedactData_dict] at *
  rw [List.map_append, List.map_append, JsonValue.dict.inj ha, JsonValue.dict.inj hb]

/-- The attributes of the credential sensors are under keys of `TO_REDACT`. -/
theorem attributes_masked (now : LocalTime) (c : LockUpdateCoordinator) (ble : BleData)
    (entity : Entity) :
    SameAttributes (entity.attributes rt now (LockUpdateCoordinator.masked c) ble)
      (entity.attributes rt now c ble) := by
  have hkey (total : ℕ) (key : String) (hk : key ∈ TO_REDACT) (v w : JsonValue) :
      SameAttributes [("total", .int total), (key, v)] [("total", .int total), (key, w)] := by
    unfold SameAttributes
    rw [asyncRedactData_dict, asyncRedactData_dict]
    simp only [List.map_cons, List.map_nil, if_pos hk]
  have hbase {a a' : List (String × JsonValue)} (h : SameAttributes a a') :
      SameAttributes (baseAttributes (LockUpdateCoordinator.masked c) a) (baseAttributes c a') := by
    unfold baseAttributes
    by_cases hc : ¬ c.connectable
    · rw [if_pos hc, if_pos (show ¬ (LockUpdateCoordinator.masked c).connectable from hc)]
      exact rfl
    · rw [if_neg hc, if_neg (show ¬ ¬ (LockUpdateCoordinator.masked c).connectable from hc)]
      exact h
  cases entity with
  | lockPinCodes =>
    refine hbase ?_
    change SameAttributes (pinAttributes rt now (c.data.passcodes.map _)) _
    cases c.data.passcodes with
    | none => exact rfl
    | some codes =>
      simp only [Option.map_some, pinAttributes, List.length_map]
      exact hkey _ _ (by decide) _ _
  | lockEkeys =>
    refine hbase ?_
    change SameAttributes (ekeyAttributes rt now (c.data.ekeys.map _)) _
    cases c.data.ekeys with
    | none => exact rfl
    | some ekeys =>
      simp only [Option.map_some, ekeyAttributes, List.length_map]
      exact hkey _ _ (by decide) _ _
  | _ => exact rfl

theorem SameLock.written (h : SameLock lock lock') (now : LocalTime) (entity : Entity) :
    SameAttributes (entity.written rt now lock) (entity.written rt now lock') := by
  have hc : SameCoordinator lock.loop.shared lock'.loop.shared := h.loop.shared
  have hattr : SameAttributes (entity.attributes rt now lock.loop.shared lock.ble)
      (entity.attributes rt now lock'.loop.shared lock'.ble) := by
    rw [h.ble]
    exact hc.eq (f := fun c => asyncRedactData (.dict (entity.attributes rt now c lock'.ble)))
      fun c => attributes_masked now c lock'.ble entity
  unfold Entity.written
  rw [h.shown now entity]
  dsimp only
  split_ifs
  · exact hattr.append rfl
  · exact rfl

/-! ### Entities writing their states -/

theorem lookup_same {ss ss' : List (Entity × HassState)}
    (h : List.Forall₂ (fun s s' : Entity × HassState => s.1 = s'.1 ∧ SameState s.2 s'.2) ss ss')
    (entity : Entity) : Option.Rel SameState (ss.lookup entity) (ss'.lookup entity) := by
  induction h with
  | nil => exact .none
  | @cons s s' ss ss' hs h ih =>
    obtain ⟨e, s⟩ := s
    obtain ⟨e', s'⟩ := s'
    obtain ⟨rfl, hs⟩ := hs
    rw [List.lookup_cons, List.lookup_cons]
    cases entity == e with
    | true => exact .some hs
    | false => exact ih

theorem insert_same {ss ss' : List (Entity × HassState)} {s s' : HassState}
    (h : List.Forall₂ (fun s s' : Entity × HassState => s.1 = s'.1 ∧ SameState s.2 s'.2) ss ss')
    (hs : SameState s s') (entity : Entity) :
    List.Forall₂ (fun s s' : Entity × HassState => s.1 = s'.1 ∧ SameState s.2 s'.2)
      (Dump.insert entity s ss) (Dump.insert entity s' ss') := by
  induction h with
  | nil => exact .cons ⟨rfl, hs⟩ .nil
  | @cons t t' ss ss' ht h ih =>
    obtain ⟨e, t⟩ := t
    obtain ⟨e', t'⟩ := t'
    obtain ⟨rfl, ht⟩ := ht
    unfold TTLockConnect.Diagnostics.Dump.insert
    split_ifs
    · exact .cons ⟨rfl, hs⟩ h
    · exact .cons ⟨rfl, ht⟩ ih

theorem set_same {old old' : Option HassState} {new new' : HassState}
    (ho : Option.Rel SameState old old') (hn : SameState new new') (unchanged : Bool)
    (now : Instant) :
    SameState (HassState.set old unchanged now new) (HassState.set old' unchanged now new') := by
  cases ho with
  | none => exact hn
  | @some s s' hs =>
    unfold HassState.set
    dsimp only
    rw [hs.state, hn.state]
    split_ifs
    · exact ⟨hs.entityId, rfl, hs.attributes, hs.lastChanged, rfl, hs.lastUpdated, hs.context⟩
    · exact ⟨hn.entityId, rfl, hn.attributes, hs.lastChanged, hn.lastReported, hn.lastUpdated,
        hn.context⟩
    · exact hn

theorem SameLock.write (h : SameLock lock lock') (entity : Entity) (now : LocalTime)
    (context : String) (hu : entity.unchanged rt now lock = entity.unchanged rt now lock') :
    SameLock (lock.write rt entity now context) (lock'.write rt entity now context) := by
  have hc : SameCoordinator lock.loop.shared lock'.loop.shared := h.loop.shared
  have huser : lock.loop.shared.data.lastUser = lock'.loop.shared.data.lastUser :=
    hc.data.eq fun _ => rfl
  have hreason : lock.loop.shared.data.lastReason = lock'.loop.shared.data.lastReason :=
    hc.data.eq fun _ => rfl
  constructor
  · exact h.lockId
  · exact h.loop
  · exact h.hasGateway
  · exact h.featureValue
  · exact h.ble
  · unfold LockRun.write
    dsimp only
    rw [huser, h.operator]
  · unfold LockRun.write
    dsimp only
    rw [hreason, h.trigger]
  · unfold LockRun.write
    dsimp only
    rw [hu]
    refine insert_same h.states (set_same (lookup_same h.states entity) ?_ _ _) entity
    refine ⟨?_, ?_, h.written now entity, rfl, rfl, rfl, rfl⟩
    · dsimp only
      rw [h.lockId]
    · dsimp only
      rw [h.shown now entity]

/-! ### Coordinators moving on -/

/-- A coordinator's own change, which leaves secrets alone. -/
theorem SameLock.onCoordinator (h : SameLock lock lock')
    {f : LockUpdateCoordinator → LockUpdateCoordinator}
    (hf : ∀ c c', SameCoordinator c c' → SameCoordinator (f c) (f c')) :
    SameLock (onCoordinator f lock) (onCoordinator f lock') :=
  ⟨h.lockId, ⟨hf _ _ h.loop.shared, h.loop.tasks⟩, h.hasGateway, h.featureValue, h.ble,
    h.operator, h.trigger, h.states⟩

theorem dispatch_same {locks locks' : List LockRun} (h : List.Forall₂ SameLock locks locks')
    (event : WebhookEvent) :
    List.Forall₂ SameLock (dispatch locks event) (dispatch locks' event) :=
  forall₂_map h fun _ _ h => h.onCoordinator fun _ _ hc => processWebhookData_same hc event

theorem dispatched_same (events : List WebhookEvent) :
    ∀ {locks locks' : List LockRun}, List.Forall₂ SameLock locks locks' →
      List.Forall₂ SameLock (events.foldl dispatch locks) (events.foldl dispatch locks') := by
  induction events with
  | nil => exact id
  | cons event events ih => exact fun h => ih (dispatch_same h event)

theorem lockId_onCoordinator (f : LockUpdateCoordinator → LockUpdateCoordinator)
    (locks : List LockRun) :
    (locks.map (onCoordinator f)).map LockRun.lockId = locks.map LockRun.lockId := by
  rw [List.map_map]
  exact List.map_congr_left fun _ _ => rfl

theorem lockId_dispatched (events : List WebhookEvent) :
    ∀ locks : List LockRun,
      (events.foldl dispatch locks).map LockRun.lockId = locks.map LockRun.lockId := by
  induction events with
  | nil => exact fun _ => rfl
  | cons event events ih => exact fun locks => (ih _).trans (lockId_onCoordinator _ locks)

theorem lockId_set {locks : List LockRun} {i : ℕ} (hl : locks[i]? = some lock)
    (hid : lock'.lockId = lock.lockId) :
    (locks.set i lock').map LockRun.lockId = locks.map LockRun.lockId := by
  obtain ⟨hi, rfl⟩ := List.getElem?_eq_some_iff.mp hl
  have hi' : i < (locks.map LockRun.lockId).length := by
    rw [List.length_map]
    exact hi
  have hself := List.set_getElem_self hi'
  rw [List.getElem_map] at hself
  rw [List.map_set, hid]
  exact hself

/-! ### Entries moving on -/

namespace SameEntry

variable {i : ℕ} {f f' : LockRun → LockRun}

theorem get (h : SameEntry x x') (hl : x.locks[i]? = some lock)
    (hl' : x'.locks[i]? = some lock') : SameLock lock lock' := by
  obtain ⟨hi, rfl⟩ := List.getElem?_eq_some_iff.mp hl
  obtain ⟨hi', rfl⟩ := List.getElem?_eq_some_iff.mp hl'
  exact List.Forall₂.get h.locks hi hi'

/-- Other locks, with the same ids. -/
theorem withLocks (h : SameEntry x x') {locks locks' : List LockRun}
    (hlocks : List.Forall₂ SameLock locks locks')
    (hids : locks.map LockRun.lockId = x.locks.map LockRun.lockId) :
    SameEntry { x with locks := locks } { x' with locks := locks' } := by
  refine ⟨hlocks, ?_, h.calls, h.gateways, h.webhookStatus⟩
  unfold lockIds
  dsimp only
  rw [hids]
  exact h.capture

theorem update (h : SameEntry x x')
    (hf : ∀ lock lock', x.locks[i]? = some lock → x'.locks[i]? = some lock' →
      SameLock lock lock' → SameLock (f lock) (f lock'))
    (hid : ∀ lock, (f lock).lockId = lock.lockId) (hs : Integration.update x i f = some y)
    (hs' : Integration.update x' i f = some y') : SameEntry y y' := by
  obtain ⟨lock, hl, rfl⟩ := Option.map_eq_some_iff.mp hs
  obtain ⟨lock', hl', rfl⟩ := Option.map_eq_some_iff.mp hs'
  exact h.withLocks (forall₂_set h.locks (hf lock lock' hl hl' (h.get hl hl')) i)
    (lockId_set hl (hid lock))

/-- A request is sent, of which the capture holds nothing secret. -/
theorem send (h : SameEntry x x') (sending : Stamp) {req req' : HttpRequest}
    (hpath : req.path = req'.path) (hid : lockIdOf req.kwargs = lockIdOf req'.kwargs)
    (hc : ∀ i ∈ lockIds x, lockIdOf req.kwargs = some i →
      asyncRedactData (.dict req.kwargs) = asyncRedactData (.dict req'.kwargs)) :
    SameEntry (Integration.send rt x sending req) (Integration.send rt x' sending req') := by
  constructor
  · exact h.locks
  · unfold Integration.send
    dsimp only
    rw [← hid]
    exact h.capture.logAndCapture _ _ fun i hi hl => sendingMessage_same hpath (hc i hi hl) _ _
  · unfold Integration.send
    dsimp only
    rw [h.calls, hpath]
  · exact h.gateways
  · exact h.webhookStatus

/-- A reply is received, of which the capture holds nothing secret. -/
theorem receive (h : SameEntry x x') (received : Stamp) {req req' : HttpRequest}
    {resp resp' : HttpReply} (hid : lockIdOf req.kwargs = lockIdOf req'.kwargs)
    (hr : SameReply rt.lib resp resp')
    (hc : ∀ i ∈ lockIds x, lockIdOf req.kwargs = some i → ReplyCovered rt.lib resp resp') :
    SameEntry (Integration.receive rt x received req resp)
      (Integration.receive rt x' received req' resp') := by
  refine ⟨h.locks, ?_, h.calls, h.gateways, h.webhookStatus⟩
  unfold Integration.receive
  dsimp only
  rw [← hid]
  exact SameFor.captureAll _ _ (fun i hi hl => parseResp_messages hr (hc i hi hl) _) h.capture

end SameEntry

theorem httpRequest_masked (q : Request) : httpRequest (Request.masked q) = httpRequest q := by
  cases q with
  | _ => rfl

/-- Requests that differ only in the key of a Bluetooth session are the same to the API. -/
theorem httpRequest_eq {q q' : Option Request} (h : Option.Rel butSecrets.req q q') :
    q.bind httpRequest = q'.bind httpRequest := by
  cases h with
  | none => rfl
  | @some q q' hq =>
    rw [Option.bind_some, Option.bind_some, ← httpRequest_masked q, ← httpRequest_masked q']
    exact congrArg httpRequest hq

theorem SameEntry.sendSome (h : SameEntry x x') (sending : Stamp) {q q' : Option Request}
    (hq : Option.Rel butSecrets.req q q') :
    SameEntry (Integration.sendSome rt x sending q) (Integration.sendSome rt x' sending q') := by
  unfold Integration.sendSome
  rw [httpRequest_eq hq]
  cases q'.bind httpRequest with
  | none => exact h
  | some req => exact h.send sending rfl rfl fun _ _ _ => rfl

/-- **A move of a coordinator**, which does not look at secrets. -/
theorem SameEntry.move (h : SameEntry x x') {i : ℕ} {l l' : LoopLabel} {sending : Stamp}
    (hl : ∀ lock lock' loop loop', x.locks[i]? = some lock → x'.locks[i]? = some lock' →
      lock.loop.step prog l = some loop → lock'.loop.step prog l' = some loop' →
      PoolAlike butSecrets loop loop' ∧
        Option.Rel butSecrets.req (sent prog lock.loop l) (sent prog lock'.loop l'))
    (hs : Integration.move rt x i l sending = some y)
    (hs' : Integration.move rt x' i l' sending = some y') : SameEntry y y' := by
  obtain ⟨lock, hlock, hs⟩ := Option.bind_eq_some_iff.mp hs
  obtain ⟨lock', hlock', hs'⟩ := Option.bind_eq_some_iff.mp hs'
  obtain ⟨loop, hloop, rfl⟩ := Option.map_eq_some_iff.mp hs
  obtain ⟨loop', hloop', rfl⟩ := Option.map_eq_some_iff.mp hs'
  obtain ⟨halike, hsent⟩ := hl lock lock' loop loop' hlock hlock' hloop hloop'
  have hsame := h.get hlock hlock'
  have hnew : SameLock { lock with loop := loop } { lock' with loop := loop' } :=
    ⟨hsame.lockId, halike, hsame.hasGateway, hsame.featureValue, hsame.ble, hsame.operator,
      hsame.trigger, hsame.states⟩
  have hids : (x.locks.set i { lock with loop := loop }).map LockRun.lockId =
    x.locks.map LockRun.lockId := lockId_set hlock rfl
  exact (h.withLocks (forall₂_set h.locks hnew i) hids).sendSome sending hsent

/-! ### The dumps -/

theorem SameState.asDict {s s' : HassState} (h : SameState s s') :
    asyncRedactData s.asDict = asyncRedactData s'.asDict := by
  unfold HassState.asDict
  rw [h.entityId, h.state, h.lastChanged, h.lastReported, h.lastUpdated, h.context,
    asyncRedactData_dict, asyncRedactData_dict]
  simp only [List.map_cons, h.attributes]

/-- Of the credentials, `as_dict` takes over their numbers. -/
theorem credentialCounts_eq {c c' : LockUpdateCoordinator} (h : SameCoordinator c c') :
    (c.data.passcodes.getD []).length = (c'.data.passcodes.getD []).length ∧
      (c.data.ekeys.getD []).length = (c'.data.ekeys.getD []).length := by
  constructor
  · refine h.eq (f := fun c => (c.data.passcodes.getD []).length) fun c => ?_
    change ((c.data.passcodes.map (List.map Passcode.masked)).getD []).length = _
    cases c.data.passcodes with
    | none => rfl
    | some codes => exact List.length_map _
  · refine h.eq (f := fun c => (c.data.ekeys.getD []).length) fun c => ?_
    change ((c.data.ekeys.map (List.map Ekey.masked)).getD []).length = _
    cases c.data.ekeys with
    | none => rfl
    | some ekeys => exact List.length_map _

theorem SameLock.asDict (h : SameLock lock lock') {capture capture' : LockTrafficCapture}
    (hcap : capture.diagnosticsFor lock.lockId = capture'.diagnosticsFor lock.lockId) :
    asyncRedactData (lock.asDict rt capture) = asyncRedactData (lock'.asDict rt capture') := by
  have hc : SameCoordinator lock.loop.shared lock'.loop.shared := h.loop.shared
  have hdevice := hc.eq (f := fun c => deviceDict rt { c.data with passcodes := none, ekeys := none })
    fun _ => rfl
  have hentities : asyncRedactData (.list (lock.states.map fun s => s.2.asDict)) =
      asyncRedactData (.list (lock'.states.map fun s => s.2.asDict)) := by
    rw [asyncRedactData_list, asyncRedactData_list, List.map_map, List.map_map]
    exact congrArg JsonValue.list
      (List.forall₂_eq_eq_eq ▸ forall₂_map h.states fun _ _ hs => hs.2.asDict)
  obtain ⟨hcodes, hekeys⟩ := credentialCounts_eq hc
  unfold LockRun.asDict
  dsimp only at hdevice ⊢
  rw [hdevice, hcodes, hekeys, hcap, h.lockId, h.hasGateway, h.featureValue,
    show lock.loop.shared.connectable = lock'.loop.shared.connectable from hc.eq fun _ => rfl,
    show lock.loop.shared.lastUpdateSuccess = lock'.loop.shared.lastUpdateSuccess from
      hc.eq fun _ => rfl, asyncRedactData_dict, asyncRedactData_dict]
  simp only [List.map_cons, hentities]

/-- What is dumped of the entry's locks is the same, whichever of them is looked at. -/
theorem SameEntry.asDict (h : SameEntry x x') (hlock : SameLock lock lock') (hm : lock ∈ x.locks) :
    asyncRedactData (lock.asDict rt x.capture) = asyncRedactData (lock'.asDict rt x'.capture) :=
  hlock.asDict (h.capture.diagnosticsFor (List.mem_map_of_mem hm))

theorem asDicts_same {capture capture' : LockTrafficCapture} {locks locks' : List LockRun}
    (h : List.Forall₂ SameLock locks locks')
    (hd : ∀ lock lock', lock ∈ locks → SameLock lock lock' →
      asyncRedactData (lock.asDict rt capture) = asyncRedactData (lock'.asDict rt capture')) :
    (locks.map (LockRun.asDict rt capture)).map asyncRedactData =
      (locks'.map (LockRun.asDict rt capture')).map asyncRedactData := by
  induction h with
  | nil => rfl
  | cons hlock h ih =>
    simp only [List.map_cons]
    rw [hd _ _ List.mem_cons_self hlock,
      ih fun lock lock' hm => hd lock lock' (List.mem_cons_of_mem _ hm)]

/-- **The diagnostics of two entries that differ only in secrets.** -/
theorem SameEntry.configEntryDiagnostics (h : SameEntry x x') (now : LocalTime) :
    asyncGetConfigEntryDiagnostics rt now x = asyncGetConfigEntryDiagnostics rt now x' := by
  have hlocks : (x.locks.map (LockRun.asDict rt x.capture)).map asyncRedactData =
      (x'.locks.map (LockRun.asDict rt x'.capture)).map asyncRedactData :=
    asDicts_same h.locks fun _ _ hm hlock => h.asDict hlock hm
  unfold asyncGetConfigEntryDiagnostics
  rw [h.webhookStatus, h.gateways, h.calls, asyncRedactData_dict, asyncRedactData_dict]
  simp only [List.map_cons, asyncRedactData_list, hlocks]

theorem find_same {locks locks' : List LockRun} (h : List.Forall₂ SameLock locks locks')
    (macs : List String) :
    Option.Rel SameLock (locks.find? fun lock => lock.loop.shared.data.mac ∈ macs)
      (locks'.find? fun lock => lock.loop.shared.data.mac ∈ macs) := by
  induction h with
  | nil => exact .none
  | @cons lock lock' locks locks' hlock h ih =>
    have hmac : lock.loop.shared.data.mac = lock'.loop.shared.data.mac :=
      SameCoordinator.eq (f := fun c => c.data.mac) hlock.loop.shared fun _ => rfl
    rw [List.find?_cons, List.find?_cons, hmac]
    cases decide (lock'.loop.shared.data.mac ∈ macs) with
    | true => exact .some hlock
    | false => exact ih

theorem SameEntry.deviceDiagnostics (h : SameEntry x x') (macs : List String) :
    asyncGetDeviceDiagnostics rt macs x = asyncGetDeviceDiagnostics rt macs x' := by
  have hfind := find_same h.locks macs
  unfold asyncGetDeviceDiagnostics findLockCoordinator
  cases hl : x.locks.find? fun lock => lock.loop.shared.data.mac ∈ macs with
  | none =>
    rw [hl] at hfind
    cases hl' : x'.locks.find? fun lock => lock.loop.shared.data.mac ∈ macs with
    | none => rfl
    | some lock' =>
      rw [hl'] at hfind
      cases hfind
  | some lock =>
    rw [hl] at hfind
    cases hl' : x'.locks.find? fun lock => lock.loop.shared.data.mac ∈ macs with
    | none =>
      rw [hl'] at hfind
      cases hfind
    | some lock' =>
      rw [hl'] at hfind
      cases hfind with
      | some hlock => exact h.asDict hlock (List.mem_of_find?_eq_some hl)

end TTLockConnect.Diagnostics.Sameness
