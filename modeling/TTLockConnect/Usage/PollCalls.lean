import TTLockConnect.Coordinator.Retry
import Mathlib.Tactic.SplitIfs

/-! # The calls of a poll that goes well

Every call succeeds, Bluetooth is of no use, and nothing but the clock moves meanwhile. Then a poll
calls each slow endpoint if its group is due, and asks the cloud for the state of the lock unless a
webhook that is confirmed tells it. -/

namespace TTLockConnect.Usage.PollCalls

open TTLockConnect.Text TTLockConnect.Models TTLockConnect.Api TTLockConnect.Coordinator.State
open TTLockConnect.Coordinator.Poll TTLockConnect.Coordinator.Retry
open TTLockConnect.Async.Coroutine TTLockConnect.Async.Coroutine.Coro

/-! ### Endpoints -/

/-- The endpoints of the sources `lock_state`, `lock_detail` and `credentials`. -/
inductive Endpoint where
  | queryOpenState
  | detail
  | passageModeConfig
  | listByLock
  | listKeyboardPwd
  | listKey
  deriving DecidableEq, Repr

/-- The endpoint a request goes to, if it is one of these. -/
def endpoint : Request → Option Endpoint
  | .queryOpenState _ => some .queryOpenState
  | .detail _ => some .detail
  | .passageModeConfig _ => some .passageModeConfig
  | .listByLock _ => some .listByLock
  | .listKeyboardPwd _ => some .listKeyboardPwd
  | .listKey _ => some .listKey
  | _ => none

/-- The group an endpoint is called for; the state of the lock is in none. -/
def Endpoint.group : Endpoint → Option Group
  | .queryOpenState => none
  | .detail => some .details
  | .passageModeConfig => some .passage
  | .listByLock => some .gateways
  | .listKeyboardPwd | .listKey => some .codes

/-- How many of the calls go to the endpoint. -/
def callsTo (e : Endpoint) (calls : List (Request × LockUpdateCoordinator)) : ℕ :=
  calls.countP fun call => endpoint call.1 = some e

/-- No calls. -/
def noCalls : Endpoint → ℕ := fun _ => 0

/-- The calls of one part and of the next. -/
def together (n n' : Endpoint → ℕ) : Endpoint → ℕ := fun e => n e + n' e

theorem together_noCalls (n : Endpoint → ℕ) : together n noCalls = n := rfl

theorem noCalls_together (n : Endpoint → ℕ) : together noCalls n = n :=
  funext fun e => Nat.zero_add (n e)

/-! ### A world in which all goes well -/

/-- Every call succeeds, with a reply that can be read, and only the clock moves. -/
structure Service extends World where
  answers : ∀ q, ∃ a, reply q = .ok a
  features : ∀ lockId details, reply (.detail lockId) = .ok details →
    ∃ features, Features.fromFeatureValue details.featureValue = .ok features
  state : ∀ lockId body, reply (.queryOpenState lockId) = .ok body →
    ∃ state, WireLockState.modelValidate body = .ok state
  clock : ∀ q c, ∃ now, move q c = { c with now := now }

/-- Bluetooth is of no use. -/
def Unheard (c : LockUpdateCoordinator) : Prop := c.bluetoothAvailable = false ∨ c.inRange = false

/-- What a poll goes by stays as it is, but for the stamps of the groups in `may`. -/
structure Stays (may : Group → Prop) (c c' : LockUpdateCoordinator) : Prop where
  connectable : c'.connectable = c.connectable
  lockId : c'.lockId = c.lockId
  hasGateway : c'.hasGateway = c.hasGateway
  slowInterval : c'.slowInterval = c.slowInterval
  webhookOnlyActive : c'.webhookOnlyActive = c.webhookOnlyActive
  unheard : Unheard c → Unheard c'
  stamps : ∀ g, ¬ may g → stamp g c' = stamp g c

variable {w : Service} {c c' c'' s s' : LockUpdateCoordinator} {d : LockState} {α β : Type}
  {may : Group → Prop} {n n' : Endpoint → ℕ}

theorem Stays.refl (c : LockUpdateCoordinator) : Stays may c c :=
  ⟨rfl, rfl, rfl, rfl, rfl, id, fun _ _ => rfl⟩

theorem Stays.trans (h : Stays may c c') (h' : Stays may c' c'') : Stays may c c'' where
  connectable := h'.connectable.trans h.connectable
  lockId := h'.lockId.trans h.lockId
  hasGateway := h'.hasGateway.trans h.hasGateway
  slowInterval := h'.slowInterval.trans h.slowInterval
  webhookOnlyActive := h'.webhookOnlyActive.trans h.webhookOnlyActive
  unheard := h'.unheard ∘ h.unheard
  stamps := fun g hg => (h'.stamps g hg).trans (h.stamps g hg)

theorem Stays.mono {may' : Group → Prop} (h : Stays may c c') (hm : ∀ g, may g → may' g) :
    Stays may' c c' :=
  ⟨h.connectable, h.lockId, h.hasGateway, h.slowInterval, h.webhookOnlyActive, h.unheard,
    fun g hg => h.stamps g fun hmay => hg (hm g hmay)⟩

theorem stays_move (w : Service) (q : Request) (c : LockUpdateCoordinator) :
    Stays may c (w.move q c) := by
  obtain ⟨now, hmove⟩ := w.clock q c
  rw [hmove]
  exact ⟨rfl, rfl, rfl, rfl, rfl, id, fun g _ => by cases g <;> rfl⟩

theorem stays_stamped (g : Group) (t : LocalTime) (c : LockUpdateCoordinator) :
    Stays (· = g) c (stamped t c g) := by
  have hkept : ∀ g', ¬ g' = g → stamp g' (stamped t c g) = stamp g' c := by
    intro g' hne
    cases g <;> cases g' <;> first | rfl | exact absurd rfl hne
  cases g <;> exact ⟨rfl, rfl, rfl, rfl, rfl, id, hkept⟩

/-! ### What a part of a poll calls -/

/-- The part returns, having called each endpoint `n` times. -/
def Makes (w : Service) (n : Endpoint → ℕ) (p : Method α) (s : LockUpdateCoordinator)
    (Q : α → LockUpdateCoordinator → Prop) : Prop :=
  ∃ a s', p.run w.answer s = (.ok a, s') ∧ (∀ e, callsTo e (p.calls w.answer s) = n e) ∧ Q a s'

theorem makes_pure {a : α} {Q : α → LockUpdateCoordinator → Prop} (h : Q a s) :
    Makes w noCalls (pure a) s Q := ⟨a, s, rfl, fun _ => rfl, h⟩

theorem makes_get {Q : LockUpdateCoordinator → LockUpdateCoordinator → Prop} (h : Q s s) :
    Makes w noCalls (get : Method LockUpdateCoordinator) s Q := ⟨s, s, rfl, fun _ => rfl, h⟩

theorem makes_modify {f : LockUpdateCoordinator → LockUpdateCoordinator}
    {Q : Unit → LockUpdateCoordinator → Prop} (h : Q () (f s)) :
    Makes w noCalls (modify f : Method Unit) s Q := ⟨(), f s, rfl, fun _ => rfl, h⟩

/-- A request that goes to no endpoint, or to one. -/
def toEndpoint (o : Option Endpoint) (e : Endpoint) : ℕ := if o = some e then 1 else 0

theorem makes_request (q : Request) {Q : Reply q → LockUpdateCoordinator → Prop}
    (h : ∀ a, w.reply q = .ok a → Q a (w.move q s)) :
    Makes w (toEndpoint (endpoint q)) (request q) s Q := by
  obtain ⟨a, ha⟩ := w.answers q
  refine ⟨a, w.move q s, ?_, fun e => ?_, h a ha⟩
  · rw [request, run_call, World.answer, ha]
  · rw [request, calls_call, callsTo, List.countP_singleton, toEndpoint]
    simp only [decide_eq_true_eq]

theorem makes_fromExcept {r : Except PyError α} {a : α} {Q : α → LockUpdateCoordinator → Prop}
    (hr : r = .ok a) (h : Q a s) : Makes w noCalls (fromExcept r) s Q := by
  refine ⟨a, s, ?_, fun e => ?_, h⟩
  · rw [run_fromExcept, hr]
  · rw [calls_fromExcept]
    rfl

theorem Makes.bind {p : Method α} {f : α → Method β} {Q : α → LockUpdateCoordinator → Prop}
    {R : β → LockUpdateCoordinator → Prop} (hp : Makes w n p s Q)
    (hf : ∀ a s', Q a s' → Makes w n' (f a) s' R) : Makes w (together n n') (p >>= f) s R := by
  obtain ⟨a, s', hrun, hcalls, hq⟩ := hp
  obtain ⟨b, s'', hrun', hcalls', hr⟩ := hf a s' hq
  refine ⟨b, s'', ?_, fun e => ?_, hr⟩
  · rw [run_bind, hrun]
    exact hrun'
  · rw [calls_bind, hrun]
    dsimp only
    rw [callsTo, List.countP_append, together, ← hcalls, ← hcalls']
    rfl

theorem makes_get_bind {f : LockUpdateCoordinator → Method β}
    {R : β → LockUpdateCoordinator → Prop} (h : Makes w n (f s) s R) :
    Makes w n (get >>= f) s R := h

theorem makes_modify_bind {m : LockUpdateCoordinator → LockUpdateCoordinator}
    {f : Unit → Method β} {R : β → LockUpdateCoordinator → Prop} (h : Makes w n (f ()) (m s) R) :
    Makes w n ((modify m : Method Unit) >>= f) s R := h

theorem makes_request_bind (q : Request) {f : Reply q → Method β}
    {R : β → LockUpdateCoordinator → Prop}
    (h : ∀ a, w.reply q = .ok a → Makes w n (f a) (w.move q s) R) :
    Makes w (together (toEndpoint (endpoint q)) n) (request q >>= f) s R := by
  have hq := makes_request (s := s) q
    (Q := fun a s' => w.reply q = .ok a ∧ s' = w.move q s) fun a ha => ⟨ha, rfl⟩
  refine hq.bind ?_
  rintro a s' ⟨ha, rfl⟩
  exact h a ha

theorem makes_fromExcept_bind {r : Except PyError α} {a : α} {f : α → Method β}
    {R : β → LockUpdateCoordinator → Prop} (hr : r = .ok a) (h : Makes w n (f a) s R) :
    Makes w n (fromExcept r >>= f) s R := by
  rw [hr]
  exact h

/-- Nothing is left to handle. -/
theorem Makes.tryCatch {p : Method α} {f : PyError → Method α}
    {Q : α → LockUpdateCoordinator → Prop} (hp : Makes w n p s Q) :
    Makes w n (tryCatch p f) s Q := by
  obtain ⟨a, s', hrun, hcalls, hq⟩ := hp
  refine ⟨a, s', ?_, fun e => ?_, hq⟩
  · rw [run_tryCatch, hrun]
  · rw [calls_tryCatch, hrun, ← hcalls]
    exact congrArg _ (List.append_nil _)

theorem Makes.mono {p : Method α} {Q R : α → LockUpdateCoordinator → Prop} (hp : Makes w n p s Q)
    (h : ∀ a s', p.run w.answer s = (.ok a, s') → Q a s' → R a s') : Makes w n p s R := by
  obtain ⟨a, s', hrun, hcalls, hq⟩ := hp
  exact ⟨a, s', hrun, hcalls, h a s' hrun hq⟩

theorem Makes.congr {p : Method α} {Q : α → LockUpdateCoordinator → Prop} (hp : Makes w n p s Q)
    (h : n = n') : Makes w n' p s Q := h ▸ hp

/-! ### The door sensor: no calls of these endpoints -/

/-- The part returns, whatever the state, has called none of the endpoints, and leaves what a poll
goes by. -/
def Silent (w : Service) (p : Method α) : Prop :=
  ∀ s, Makes w noCalls p s fun _ s' => Stays (fun _ => False) s s'

theorem silent_pure (a : α) : Silent w (pure a) := fun s => makes_pure (.refl s)

theorem silent_get : Silent w (get : Method LockUpdateCoordinator) := fun s => makes_get (.refl s)

theorem silent_modify {f : LockUpdateCoordinator → LockUpdateCoordinator}
    (h : ∀ s, Stays (fun _ => False) s (f s)) : Silent w (modify f : Method Unit) :=
  fun s => makes_modify (h s)

theorem silent_request {q : Request} (h : endpoint q = none) : Silent w (request q) := by
  intro s
  refine (makes_request q fun a _ => stays_move w q s).congr ?_
  rw [h]
  rfl

theorem Silent.bind {p : Method α} {f : α → Method β} (hp : Silent w p)
    (hf : ∀ a, Silent w (f a)) : Silent w (p >>= f) := by
  intro s
  refine ((hp s).bind fun a s' h => ?_).congr (together_noCalls noCalls)
  exact (hf a s').mono fun b s'' _ h' => h.trans h'

theorem silent_ite {P : Prop} [Decidable P] {p p' : Method α} (hp : Silent w p)
    (hp' : Silent w p') : Silent w (if P then p else p') := by
  split
  · exact hp
  · exact hp'

theorem silent_now : Silent w now := silent_get.bind fun _ => silent_pure _

theorem silent_refreshSensor (sensor : SensorData) : Silent w (refreshSensor sensor) := by
  refine silent_get.bind fun c => Silent.bind (fun s => ?_) fun result => ?_
  · have hquery : Silent w (do
        let res ← request (.doorSensor c.lockId)
        pure (some res) : Method (Option Sensor)) :=
      (silent_request rfl).bind fun res => silent_pure _
    exact (hquery s).tryCatch
  · exact silent_now.bind fun t => silent_pure _

theorem silent_storeUpdate (update : StoreRecord → StoreRecord) :
    Silent w (storeUpdate update) := by
  refine (silent_request rfl).bind fun _ => (silent_modify fun s => ?_).bind fun _ => ?_
  · exact ⟨rfl, rfl, rfl, rfl, rfl, id, fun g _ => by cases g <;> rfl⟩
  · exact silent_request rfl

theorem silent_updatePresentSensor (sensor : SensorData) :
    Silent w (updatePresentSensor sensor) := by
  refine silent_now.bind fun t => silent_ite (silent_pure _) ?_
  refine (silent_refreshSensor _).bind ?_
  rintro ⟨_ | result, sensor⟩
  · exact silent_pure _
  · exact silent_pure _

theorem silent_rechecked :
    Silent w (modify fun c => { c with sensorRecheckDone := true } : Method Unit) :=
  silent_modify fun s => ⟨rfl, rfl, rfl, rfl, rfl, id, fun g _ => by cases g <;> rfl⟩

theorem silent_probeSensor (stored : StoreRecord) (sensor : SensorData) :
    Silent w (probeSensor stored sensor) := by
  have hstore (update : LocalTime → StoreRecord → StoreRecord) (sensor : SensorData) :
      Silent w (do let t ← now; storeUpdate (update t); pure sensor) :=
    silent_now.bind fun t => (silent_storeUpdate _).bind fun _ => silent_pure _
  refine (silent_refreshSensor _).bind ?_
  rintro ⟨_ | result, sensor⟩
  · refine silent_ite (silent_pure _) (silent_ite ?_ (hstore _ _))
    exact silent_rechecked.bind fun _ => hstore _ _
  · exact (silent_storeUpdate _).bind fun _ => silent_pure _

theorem silent_checkForSensor (sensor : SensorData) : Silent w (checkForSensor sensor) := by
  have hget : Silent w storeGet :=
    (silent_request rfl).bind fun _ => silent_get.bind fun c => silent_pure _
  refine hget.bind fun stored => silent_ite ?_ ?_
  · refine silent_get.bind fun c => silent_ite (silent_pure _) ?_
    exact silent_rechecked.bind fun _ => silent_probeSensor _ _
  · exact silent_get.bind fun c => silent_ite (silent_pure _) (silent_probeSensor _ _)

theorem silent_updateSensor (d : LockState) : Silent w (updateSensor d) := by
  refine silent_ite (silent_ite ?_ ?_) (silent_pure _)
  · exact (silent_updatePresentSensor _).bind fun sensor => silent_pure _
  · exact (silent_checkForSensor _).bind fun sensor => silent_pure _

/-! ### The tiers that call -/

instance (t : LocalTime) (c : LockUpdateCoordinator) (g : Group) : Decidable (DueAt t c g) :=
  inferInstanceAs (Decidable (_ ∧ _))

instance (c : LockUpdateCoordinator) (g : Group) : Decidable (Due c g) :=
  inferInstanceAs (Decidable (DueAt _ _ _))

/-- A slow tier calls its endpoints `n` times if the group is due, and stamps it. -/
def Fetches (w : Service) (t : LocalTime) (g : Group) (n : Endpoint → ℕ)
    (p : LockState → Method LockState) : Prop :=
  ∀ d s, Makes w (if DueAt t s g then n else noCalls) (p d) s fun d' s' =>
    Stays (· = g) s s' ∧ stamp g s' = (if DueAt t s g then some t else stamp g s) ∧
      d'.locked = d.locked

theorem fetches_updateDetails (t : LocalTime) :
    Fetches w t .details (toEndpoint (some .detail)) (updateDetails t) := by
  intro d s
  refine makes_get_bind ?_
  by_cases hdue : DueAt t s .details
  · have hd : s.slowTierDue s.detailsLastFetched t = true := hdue.1
    rw [if_pos hdue, if_pos hdue, if_pos hd]
    refine (makes_request_bind _ fun details hdetails => ?_).congr (together_noCalls _)
    obtain ⟨features, hf⟩ := w.features _ details hdetails
    refine makes_fromExcept_bind hf (makes_modify_bind (makes_pure ⟨?_, rfl, rfl⟩))
    have hstays : Stays (· = .details) s (w.move (.detail s.lockId) s) := stays_move w _ s
    refine hstays.trans ⟨rfl, rfl, rfl, rfl, rfl, id, fun g hg => ?_⟩
    cases g <;> first | rfl | exact absurd rfl hg
  · have hd : ¬ s.slowTierDue s.detailsLastFetched t = true := fun h => hdue ⟨h, nofun⟩
    rw [if_neg hdue, if_neg hdue, if_neg hd]
    exact makes_pure ⟨.refl s, rfl, rfl⟩

theorem fetches_updatePassage (t : LocalTime) :
    Fetches w t .passage (toEndpoint (some .passageModeConfig)) (updatePassage t) := by
  intro d s
  refine makes_get_bind ?_
  by_cases hdue : DueAt t s .passage
  · have hd : s.slowTierDue s.passageLastFetched t = true := hdue.1
    rw [if_pos hdue, if_pos hdue, if_pos hd]
    refine (makes_request_bind _ fun config _ => ?_).congr (together_noCalls _)
    refine makes_modify_bind (makes_pure ⟨?_, rfl, rfl⟩)
    exact (stays_move w _ s).trans (stays_stamped .passage t _)
  · have hd : ¬ s.slowTierDue s.passageLastFetched t = true := fun h => hdue ⟨h, nofun⟩
    rw [if_neg hdue, if_neg hdue, if_neg hd]
    exact makes_pure ⟨.refl s, rfl, rfl⟩

theorem fetches_updateGateways (t : LocalTime) :
    Fetches w t .gateways (toEndpoint (some .listByLock)) (updateGateways t) := by
  intro d s
  refine makes_get_bind ?_
  by_cases hg : s.hasGateway = true
  · rw [if_pos hg]
    by_cases hdue : DueAt t s .gateways
    · have hd : s.slowTierDue s.gatewaysLastFetched t = true := hdue.1
      rw [if_pos hdue, if_pos hdue, if_pos hd]
      have hget : Makes w (toEndpoint (some .listByLock)) (getGatewaysForLock s.lockId) s
          fun _ s' => Stays (· = .gateways) s s' := by
        refine (makes_request_bind (.listByLock s.lockId) fun res _ => ?_).congr (together_noCalls _)
        exact makes_pure (stays_move w _ s)
      refine (hget.bind fun gateways s' hs => ?_).congr (together_noCalls _)
      exact makes_modify_bind (makes_pure ⟨hs.trans (stays_stamped .gateways t _), rfl, rfl⟩)
    · have hd : ¬ s.slowTierDue s.gatewaysLastFetched t = true := fun h => hdue ⟨h, fun _ => hg⟩
      rw [if_neg hdue, if_neg hdue, if_neg hd]
      exact makes_pure ⟨.refl s, rfl, rfl⟩
  · have hdue : ¬ DueAt t s .gateways := fun h => hg (h.2 rfl)
    rw [if_neg hdue, if_neg hdue, if_neg hg]
    exact makes_pure ⟨.refl s, rfl, rfl⟩

theorem fetches_updateCodes (t : LocalTime) : Fetches w t .codes
    (together (toEndpoint (some .listKeyboardPwd)) (toEndpoint (some .listKey))) (updateCodes t) := by
  intro d s
  refine makes_get_bind ?_
  by_cases hdue : DueAt t s .codes
  · have hd : s.slowTierDue s.codesLastFetched t = true := hdue.1
    rw [if_pos hdue, if_pos hdue, if_pos hd]
    refine makes_request_bind _ fun passcodes _ => ?_
    refine (makes_request_bind _ fun ekeys _ => ?_).congr (together_noCalls _)
    refine makes_modify_bind (makes_pure ⟨?_, rfl, rfl⟩)
    have hcodes : Stays (· = .codes) s (w.move (.listKeyboardPwd s.lockId) s) := stays_move w _ s
    have hboth := hcodes.trans (stays_move w (.listKey s.lockId) _)
    exact hboth.trans (stays_stamped .codes t _)
  · have hd : ¬ s.slowTierDue s.codesLastFetched t = true := fun h => hdue ⟨h, nofun⟩
    rw [if_neg hdue, if_neg hdue, if_neg hd]
    exact makes_pure ⟨.refl s, rfl, rfl⟩

/-- Whether the state of the lock is asked for. -/
def stateCalls (relied : Bool) (locked : Option Bool) : Endpoint → ℕ :=
  if relied ∧ locked.isSome then noCalls else toEndpoint (some .queryOpenState)

/-- **Fast tier**: afterwards the state of the lock is known. -/
theorem makes_updateState (d : LockState) (hs : Unheard s) :
    Makes w (stateCalls s.webhookOnlyActive d.locked) (updateState d) s fun d' s' =>
      Stays (fun _ => False) s s' ∧ d'.locked.isSome = true := by
  have hble : Makes w noCalls asyncReadStateBle s fun status s' => status = none ∧ s' = s := by
    refine makes_get_bind ?_
    have hunheard : ¬ s.bluetoothAvailable = true ∨ ¬ s.inRange = true := by
      rcases hs with h | h
      · exact .inl (by rw [h]; decide)
      · exact .inr (by rw [h]; decide)
    rw [if_pos hunheard]
    exact makes_pure ⟨rfl, rfl⟩
  refine (hble.bind ?_).congr (noCalls_together _)
  rintro status s' ⟨rfl, rfl⟩
  refine makes_get_bind ?_
  unfold stateCalls
  by_cases hrelied : s'.webhookOnlyActive ∧ d.locked.isSome
  · rw [if_pos hrelied, if_pos hrelied]
    exact makes_pure ⟨.refl s', hrelied.2⟩
  · rw [if_neg hrelied, if_neg hrelied]
    refine makes_get_bind (Makes.tryCatch ?_)
    have hget : Makes w (toEndpoint (some .queryOpenState)) (getLockState s'.lockId) s'
        fun _ s'' => Stays (fun _ => False) s' s'' := by
      refine (makes_request_bind _ fun body hbody => ?_).congr (together_noCalls _)
      obtain ⟨state, hstate⟩ := w.state _ body hbody
      exact makes_fromExcept hstate (stays_move w _ s')
    refine (hget.bind fun state s'' hs'' => ?_).congr (together_noCalls _)
    exact makes_pure ⟨hs'', rfl⟩

/-! ### The whole poll -/

/-- As far as the poll that began in `c` has come: the groups in `done` are stamped if they were
due, and the rest is as it was. -/
structure Through (done : Group → Prop) (c s : LockUpdateCoordinator) : Prop where
  stays : Stays done c s
  stamps : ∀ g, done g → stamp g s = if Due c g then some c.now else stamp g c

theorem Through.dueAt_iff {done : Group → Prop} (h : Through done c s) {g : Group} (hg : ¬ done g) :
    DueAt c.now s g ↔ Due c g := by
  rw [Due, DueAt, DueAt, h.stays.stamps g hg, h.stays.hasGateway]
  unfold LockUpdateCoordinator.slowTierDue
  rw [h.stays.slowInterval]

theorem Through.silent {done : Group → Prop} (h : Through done c s)
    (hs : Stays (fun _ => False) s s') : Through done c s' where
  stays := h.stays.trans (hs.mono fun _ hf => hf.elim)
  stamps g hg := (hs.stamps g id).trans (h.stamps g hg)

/-- A slow tier in a poll. -/
theorem Through.fetch {done : Group → Prop} {g : Group} {p : LockState → Method LockState}
    (h : Through done c s) (hp : Fetches w c.now g n p) (hg : ¬ done g) (d : LockState) :
    Makes w (if Due c g then n else noCalls) (p d) s fun d' s' =>
      Through (fun g' => done g' ∨ g' = g) c s' ∧ d'.locked = d.locked := by
  have hdue := h.dueAt_iff hg
  refine ((hp d s).congr (if_congr hdue rfl rfl)).mono fun d' s' _ ⟨hstays, hstamp, hlocked⟩ => ?_
  refine ⟨⟨(h.stays.mono fun _ => .inl).trans (hstays.mono fun _ => .inr), ?_⟩, hlocked⟩
  rintro g' (hdone | rfl)
  · have hne : ¬ g' = g := fun heq => hg (heq ▸ hdone)
    rw [hstays.stamps g' hne, h.stamps g' hdone]
  · rw [hstamp, h.stays.stamps g' hg]
    exact if_congr hdue rfl rfl

/-- The calls of a poll that starts now. -/
def pollCalls (c : LockUpdateCoordinator) (e : Endpoint) : ℕ :=
  match e.group with
  | some g => if Due c g then 1 else 0
  | none => stateCalls c.webhookOnlyActive c.data.locked e

/-- What a poll that goes well leaves: the groups that were due are stamped, and the state of the
lock is known. -/
structure Polled (c c' : LockUpdateCoordinator) : Prop extends Through (fun _ => True) c c' where
  locked : c'.data.locked.isSome = true

/-- The calls of a slow tier. -/
theorem tier_apply (P : Prop) [Decidable P] (n : Endpoint → ℕ) (e : Endpoint) :
    (if P then n else noCalls) e = if P then n e else 0 := by
  split_ifs <;> rfl

/-- The calls of the tiers, in their order. -/
theorem tiers_eq_pollCalls (c : LockUpdateCoordinator) :
    together (if Due c .details then toEndpoint (some .detail) else noCalls)
      (together noCalls (together (stateCalls c.webhookOnlyActive c.data.locked)
        (together (if Due c .passage then toEndpoint (some .passageModeConfig) else noCalls)
          (together (if Due c .gateways then toEndpoint (some .listByLock) else noCalls)
            (if Due c .codes then
                together (toEndpoint (some .listKeyboardPwd)) (toEndpoint (some .listKey))
              else noCalls))))) = pollCalls c := by
  funext e
  have hstate : e ≠ .queryOpenState → stateCalls c.webhookOnlyActive c.data.locked e = 0 := by
    intro he
    unfold stateCalls
    split_ifs
    · rfl
    · exact if_neg fun h => he (Option.some.inj h).symm
  rw [noCalls_together]
  cases e <;>
    simp [together, pollCalls, Endpoint.group, tier_apply, toEndpoint, hstate]

theorem makes_fetchAll (hc : Unheard c) : Makes w (pollCalls c) fetchAll c fun d' s' =>
    Through (fun _ => True) c s' ∧ d'.locked.isSome = true := by
  rw [← tiers_eq_pollCalls]
  have h₀ : Through (fun _ => False) c c := ⟨.refl c, fun _ h => h.elim⟩
  refine makes_get_bind ((h₀.fetch (fetches_updateDetails _) id c.data).bind ?_)
  rintro d₁ s₁ ⟨h₁, hd₁⟩
  have hsensor := (silent_updateSensor d₁ s₁).mono (w := w) fun d₂ s₂ hrun hs =>
    (show Through _ c s₂ ∧ d₂.locked = c.data.locked from
      ⟨h₁.silent hs, (updateSensor_locked hrun).trans hd₁⟩)
  refine hsensor.bind ?_
  rintro d₂ s₂ ⟨h₂, hd₂⟩
  have hstate := makes_updateState (w := w) d₂ (h₂.stays.unheard hc)
  rw [h₂.stays.webhookOnlyActive, hd₂] at hstate
  refine hstate.bind ?_
  rintro d₃ s₃ ⟨hs₃, hd₃⟩
  refine ((h₂.silent hs₃).fetch (fetches_updatePassage _) (by simp) d₃).bind ?_
  rintro d₄ s₄ ⟨h₄, hd₄⟩
  refine (h₄.fetch (fetches_updateGateways _) (by simp) d₄).bind ?_
  rintro d₅ s₅ ⟨h₅, hd₅⟩
  refine (h₅.fetch (fetches_updateCodes _) (by simp) d₅).mono ?_
  rintro d₆ s₆ - ⟨h₆, hd₆⟩
  have hall : ∀ g, (((False ∨ g = Group.details) ∨ g = .passage) ∨ g = .gateways) ∨ g = .codes := by
    intro g
    cases g <;> simp
  refine ⟨⟨h₆.stays.mono fun _ _ => trivial, fun g _ => h₆.stamps g (hall g)⟩, ?_⟩
  rw [hd₆, hd₅, hd₄, hd₃]

/-- **What a poll that goes well calls.** -/
theorem makes_asyncRefresh (hconn : c.connectable = true) (hc : Unheard c) :
    Makes w (pollCalls c) asyncRefresh c fun _ c' => Polled c c' := by
  have hupdate : Makes w (pollCalls c) asyncUpdateData c fun d' s' =>
      Through (fun _ => True) c s' ∧ d'.locked.isSome = true := by
    refine makes_get_bind ?_
    rw [if_neg fun h => h hconn]
    exact (makes_fetchAll hc).tryCatch
  refine Makes.tryCatch ((hupdate.bind ?_).congr (together_noCalls _))
  rintro d' s' ⟨h, hd'⟩
  refine makes_modify (s := s') ⟨⟨h.stays.trans ?_, fun g hg => ?_⟩, hd'⟩
  · exact ⟨rfl, rfl, rfl, rfl, rfl, id, fun g _ => by cases g <;> rfl⟩
  · rw [← h.stamps g hg]
    cases g <;> rfl

end TTLockConnect.Usage.PollCalls
