import TTLockConnect.Usage.Estimate
import TTLockConnect.Usage.PollCalls
import TTLockConnect.Usage.Sampling
import TTLockConnect.Coordinator.Overwrite

/-! # The calls of the schedule

The coordinators of an account, each polled exactly at its update interval. A poll comes upon the slow
tier only when it is due, so that the slow endpoints are called at the stride of the slow interval in
polls, where the estimate takes the slow interval itself. -/

namespace TTLockConnect.Usage.Schedule

open TTLockConnect.Text TTLockConnect.Models TTLockConnect.Api TTLockConnect.Coordinator.State
open TTLockConnect.Coordinator.Poll TTLockConnect.Coordinator.Retry
open TTLockConnect.Coordinator.Overwrite
open TTLockConnect.Async.Coroutine TTLockConnect.Async.Coroutine.Coro
open TTLockConnect.Usage.Estimate TTLockConnect.Usage.PollCalls TTLockConnect.Usage.Sampling

/-! ### The polls of a lock -/

/-- `timedelta(minutes=n)`. -/
def ofMinutes (n : ℤ) : Duration := Duration.ofSeconds (n * 60)

/-- `update_interval` of a lock's coordinator. -/
def lockUpdateInterval (options : Options) (connectable : Bool) : Option Duration :=
  if connectable ∧ ¬ options.manualSync then some (ofMinutes options.pollInterval) else none

/-- What the constructor makes of the options and the status of the webhook. -/
structure CreatedWith (options : Options) (webhookConfirmed : Bool) (c : LockUpdateCoordinator) :
    Prop extends c.IsNew where
  slowInterval : c.slowInterval = Duration.ofHours options.slowPollInterval
  webhookOnly : c.webhookOnly = options.webhookOnly
  webhookStatus : c.webhookStatus = webhookConfirmed

/-- The coordinator of a lock that Bluetooth does not reach, at its first poll, and what its polls
meet with: the replies to their calls, and the offset of local time. -/
structure PolledLock (options : Options) (webhookConfirmed : Bool) where
  coordinator : LockUpdateCoordinator
  created : CreatedWith options webhookConfirmed coordinator
  unheard : Unheard coordinator
  service : ℕ → Service
  offset : ℕ → ℤ

namespace PolledLock

variable {options : Options} {webhookConfirmed : Bool} (lock : PolledLock options webhookConfirmed)

/-- The coordinator at the start of its poll `k`. -/
def atPoll (interval : Duration) : ℕ → LockUpdateCoordinator
  | 0 => lock.coordinator
  | k + 1 =>
    let c := (asyncRefresh.run (lock.service k).answer (atPoll interval k)).2
    let t := lock.coordinator.now.instant + (k + 1 : ℕ) * interval
    { c with now := ⟨t, lock.offset (k + 1)⟩ }

/-- Local time is neither put forward nor back while the lock is polled. -/
def Unshifted : Prop :=
  lock.coordinator.connectable = true → ∀ k, lock.offset k = lock.coordinator.now.offset

/-- The calls of poll `k`. -/
def callsAt (interval : Duration) (k : ℕ) : List (Request × LockUpdateCoordinator) :=
  asyncRefresh.calls (lock.service k).answer (lock.atPoll interval k)

/-- The calls over the horizon. -/
def calls (horizon : Duration) : List (Request × LockUpdateCoordinator) :=
  match lockUpdateInterval options lock.coordinator.connectable with
  | none => []
  | some interval => (List.range (looks (interval : ℚ) horizon)).flatMap (lock.callsAt interval)

end PolledLock

/-! ### The polls of the gateways -/

/-- A gateway of the account. -/
structure Gateway where
  id : ℤ
  name : String
  isOnline : Bool

/-- `gateway/list` is all that is awaited. -/
inductive GatewayRequest where
  | list

abbrev GatewayReply : GatewayRequest → Type
  | .list => List Gateway

/-- `GatewaysUpdateCoordinator`. -/
structure GatewaysUpdateCoordinator where
  data : ℤ → Option Gateway
  lastUpdateSuccess : Bool

/-- `update_interval` of the gateways' coordinator. -/
def gatewaysUpdateInterval (options : Options) : Option Duration :=
  if options.manualSync then none else some (ofMinutes options.gatewayPollInterval)

/-- `{gateway.id: gateway for gateway in gateways}`: of two with one id the later. -/
def byId (gateways : List Gateway) (id : ℤ) : Option Gateway :=
  gateways.reverse.find? fun gateway => gateway.id = id

/-- A refresh of the gateways. -/
def refreshGateways : Coro GatewaysUpdateCoordinator GatewayRequest GatewayReply PyError Unit :=
  tryCatch (do
      let gateways ← call .list
      set (⟨byId gateways, true⟩ : GatewaysUpdateCoordinator))
    fun err =>
      if err.isException then modify fun c => { c with lastUpdateSuccess := false } else throw err

/-- The account-wide coordinator at its first poll, and the replies to each poll. -/
structure PolledGateways where
  coordinator : GatewaysUpdateCoordinator
  reply : ℕ → List Gateway

namespace PolledGateways

variable (gateways : PolledGateways)

/-- How poll `k` is answered. -/
def answer (k : ℕ) : (q : GatewayRequest) → GatewaysUpdateCoordinator →
    Except PyError (GatewayReply q) × GatewaysUpdateCoordinator
  | .list, c => (.ok (gateways.reply k), c)

/-- The coordinator at the start of its poll `k`. -/
def atPoll : ℕ → GatewaysUpdateCoordinator
  | 0 => gateways.coordinator
  | k + 1 => (refreshGateways.run (gateways.answer k) (atPoll k)).2

/-- The calls over the horizon. -/
def calls (options : Options) (horizon : Duration) :
    List (GatewayRequest × GatewaysUpdateCoordinator) :=
  match gatewaysUpdateInterval options with
  | none => []
  | some interval => (List.range (looks (interval : ℚ) horizon)).flatMap fun k =>
      refreshGateways.calls (gateways.answer k) (gateways.atPoll k)

end PolledGateways

/-! ### The calls of an account, and their estimate -/

/-- The sources of scheduled polling, the door sensors apart. -/
inductive Source where
  | lockState
  | lockDetail
  | credentials
  | gatewayStatus
  deriving DecidableEq, Repr

/-- The endpoints of a lock that a source counts. -/
def Source.endpoints : Source → List Endpoint
  | .lockState => [.queryOpenState]
  | .lockDetail => [.detail, .passageModeConfig, .listByLock]
  | .credentials => [.listKeyboardPwd, .listKey]
  | .gatewayStatus => []

/-- A source in a breakdown. -/
def Source.of {α : Type} (b : Breakdown α) : Source → α
  | .lockState => b.lockState
  | .lockDetail => b.lockDetail
  | .credentials => b.credentials
  | .gatewayStatus => b.gatewayStatus

/-- The coordinators of an account. -/
structure Account (options : Options) (webhookConfirmed : Bool) where
  locks : List (PolledLock options webhookConfirmed)
  gateways : PolledGateways

namespace Account

variable {options : Options} {webhookConfirmed : Bool} (account : Account options webhookConfirmed)

/-- Local time is neither put forward nor back. -/
def Unshifted : Prop := ∀ lock ∈ account.locks, lock.Unshifted

def connectableLocks : ℕ := account.locks.countP fun lock => lock.coordinator.connectable

def locksWithGateway : ℕ := account.locks.countP fun lock =>
  lock.coordinator.connectable && lock.coordinator.hasGateway

def locksWithDoorSensor : ℕ := account.locks.countP fun lock =>
  lock.coordinator.connectable && lock.coordinator.data.features.has doorSensorBit

/-- The calls of a source over the horizon. -/
def callsMade (horizon : Duration) (source : Source) : ℕ :=
  (account.locks.map fun lock =>
      (source.endpoints.map fun e => callsTo e (lock.calls horizon)).sum).sum +
    if source = .gatewayStatus then (account.gateways.calls options horizon).length else 0

/-- What the estimate, before it is rounded, says of a source for the horizon. -/
def callsEstimated (horizon : Duration) (source : Source) : ℚ :=
  source.of (monthlyCalls options account.connectableLocks account.locksWithGateway
      account.locksWithDoorSensor webhookConfirmed) *
    (horizon / (DAYS_PER_MONTH * Duration.ofDays 1))

/-- The locks and endpoints a source counts; `gateway/list` is called once for all. -/
def endpointsOf : Source → ℕ
  | .lockState => account.connectableLocks
  | .lockDetail => account.connectableLocks * 2 + account.locksWithGateway
  | .credentials => account.connectableLocks * 2
  | .gatewayStatus => 1

/-- **The estimate agrees with the calls**, up to one for each lock and endpoint. -/
def Agrees (horizon : Duration) : Prop := ∀ source,
  |(account.callsMade horizon source : ℚ) - account.callsEstimated horizon source| ≤
    account.endpointsOf source

end Account

/-! ### The polls of a lock, one by one -/

section Polls
variable {options : Options} {webhookConfirmed : Bool} {lock : PolledLock options webhookConfirmed}
  {interval : Duration} {k : ℕ}

/-- The poll interval in microseconds. -/
abbrev period (options : Options) : ℚ := (ofMinutes options.pollInterval : ℤ)

/-- The slow interval in microseconds. -/
abbrev gap (options : Options) : ℚ := (Duration.ofHours options.slowPollInterval : ℤ)

/-- The time of poll `k`, at the offset of the first. -/
def timeOf (lock : PolledLock options webhookConfirmed) (interval : Duration) (k : ℕ) : LocalTime :=
  ⟨lock.coordinator.now.instant + k * interval, lock.coordinator.now.offset⟩

/-- What is known of the coordinator at the start of its poll `k`, the polls being `interval` apart:
each slow group was stamped when it was last due. -/
structure AtPoll (lock : PolledLock options webhookConfirmed) (interval : Duration) (k : ℕ)
    (c : LockUpdateCoordinator) : Prop where
  stays : Stays (fun _ => True) lock.coordinator c
  now : c.now = timeOf lock interval k
  stamps : ∀ g, (g = .gateways → lock.coordinator.hasGateway = true) →
    stamp g c = (lastOpened (stride (interval : ℚ) (gap options)) k).map (timeOf lock interval)
  locked : c.data.locked.isSome = decide (0 < k)

theorem shift_le_iff (t a b s o : ℤ) : t + a + o ≤ t + b + o - s ↔ a + s ≤ b := by omega

/-- **A poll comes upon a slow group when it lies at a multiple of the stride.** -/
theorem AtPoll.due_iff {c : LockUpdateCoordinator} (h : AtPoll lock interval k c)
    (hi : 0 < interval) (g : Group) : Due c g ↔
      stride (interval : ℚ) (gap options) ∣ k ∧
        (g = .gateways → lock.coordinator.hasGateway = true) := by
  have hi' : (0 : ℚ) < interval := by exact_mod_cast hi
  have hslow : c.slowInterval = Duration.ofHours options.slowPollInterval :=
    h.stays.slowInterval.trans lock.created.slowInterval
  have hgap : 0 < gap options := by
    have hpos := c.slowInterval_pos
    rw [hslow] at hpos
    exact Int.cast_pos.mpr hpos
  rw [Due, DueAt, h.stays.hasGateway]
  refine and_congr_left fun hg => ?_
  rw [h.stamps g hg, ← opens_iff hi' hgap]
  cases lastOpened (stride (interval : ℚ) (gap options)) k with
  | none => exact iff_of_true rfl fun q hq => by cases hq
  | some q =>
    have hcast : (q : ℚ) * interval + gap options ≤ k * interval ↔
        (q : ℤ) * interval + c.slowInterval ≤ k * interval := by
      rw [hslow]
      exact_mod_cast Iff.rfl
    have hdue : c.slowTierDue (some (timeOf lock interval q)) c.now = true ↔
        (q : ℤ) * interval + c.slowInterval ≤ k * interval := by
      rw [LockUpdateCoordinator.slowTierDue, decide_eq_true_eq, h.now]
      exact shift_le_iff _ _ _ _ _
    rw [Option.map_some, hdue, ← hcast]
    simp only [Option.mem_some_iff, forall_eq']

/-- The first poll finds the coordinator as it was created. -/
theorem atPoll_zero (lock : PolledLock options webhookConfirmed) (interval : Duration) :
    AtPoll lock interval 0 lock.coordinator where
  stays := .refl _
  now := by simp [timeOf]
  stamps g _ := by
    obtain ⟨hdetails, hpassage, hgateways, hcodes⟩ := lock.created.stamps
    cases g <;> assumption
  locked := by
    obtain ⟨name, mac, features, hdata⟩ := lock.created.data
    rw [hdata]
    rfl

/-- **From one poll to the next.** -/
theorem AtPoll.succ {c : LockUpdateCoordinator} (h : AtPoll lock interval k c) (hi : 0 < interval)
    {c' : LockUpdateCoordinator} (hp : Polled c c') (now : LocalTime)
    (hnow : now = timeOf lock interval (k + 1)) :
    AtPoll lock interval (k + 1) { c' with now := now } where
  stays := (h.stays.trans hp.stays).trans
    ⟨rfl, rfl, rfl, rfl, rfl, id, fun g hg => absurd trivial hg⟩
  now := hnow
  stamps g hg := by
    have hkept : stamp g { c' with now := now } = stamp g c' := by cases g <;> rfl
    rw [hkept, hp.stamps g trivial, lastOpened, h.stamps g hg, h.now]
    by_cases hdvd : stride (interval : ℚ) (gap options) ∣ k
    · rw [if_pos ((h.due_iff hi g).mpr ⟨hdvd, hg⟩), if_pos hdvd]
      rfl
    · rw [if_neg fun hdue => hdvd ((h.due_iff hi g).mp hdue).1, if_neg hdvd]
  locked := by
    show c'.data.locked.isSome = _
    rw [hp.locked, decide_eq_true (Nat.succ_pos k)]

/-- A lock that is polled. -/
theorem atPoll_atPoll (hclock : lock.Unshifted) (hconn : lock.coordinator.connectable = true)
    (hi : 0 < interval) (k : ℕ) : AtPoll lock interval k (lock.atPoll interval k) := by
  induction k with
  | zero => exact atPoll_zero lock interval
  | succ k ih =>
    have hconn' : (lock.atPoll interval k).connectable = true := ih.stays.connectable.trans hconn
    obtain ⟨_, c', hrun, -, hp⟩ :=
      makes_asyncRefresh (w := lock.service k) hconn' (ih.stays.unheard lock.unheard)
    rw [PolledLock.atPoll, hrun, hclock hconn]
    exact ih.succ hi hp _ rfl

/-- The calls of poll `k`. -/
theorem callsTo_callsAt (hclock : lock.Unshifted) (hconn : lock.coordinator.connectable = true)
    (hi : 0 < interval) (k : ℕ) (e : Endpoint) :
    callsTo e (lock.callsAt interval k) = pollCalls (lock.atPoll interval k) e := by
  have h := atPoll_atPoll hclock hconn hi k
  obtain ⟨_, c', -, hcalls, -⟩ := makes_asyncRefresh (w := lock.service k)
    (h.stays.connectable.trans hconn) (h.stays.unheard lock.unheard)
  exact hcalls e

/-- Calls that are made by some of the polls, one by each. -/
theorem callsTo_flatMap {f : ℕ → List (Request × LockUpdateCoordinator)} {e : Endpoint}
    {p : ℕ → Prop} [DecidablePred p] (h : ∀ k, callsTo e (f k) = if p k then 1 else 0) (n : ℕ) :
    callsTo e ((List.range n).flatMap f) = n.count p := by
  induction n with
  | zero => rfl
  | succ n ih =>
    have hlast : callsTo e ((List.range (n + 1)).flatMap f) =
        callsTo e ((List.range n).flatMap f) + callsTo e (f n) := by
      rw [List.range_succ, List.flatMap_append, List.flatMap_singleton]
      exact List.countP_append
    rw [hlast, ih, h n, Nat.count_succ]

end Polls

/-! ### The calls over a horizon -/

section Horizon
variable {options : Options} {webhookConfirmed : Bool} {horizon : Duration}

/-- The polls over the horizon. -/
def pollsIn (options : Options) (horizon : Duration) : ℕ := looks (period options) horizon

/-- The polls of the horizon that come upon the slow tier. -/
def slowPollsIn (options : Options) (horizon : Duration) : ℕ :=
  openings (stride (period options) (gap options)) (pollsIn options horizon)

/-- The polls of the horizon that ask for the state of the lock: the first of them only, where the
webhook is relied on. -/
def statePollsIn (options : Options) (webhookConfirmed : Bool) (horizon : Duration) : ℕ :=
  if options.webhookOnly ∧ webhookConfirmed then min 1 (pollsIn options horizon)
  else pollsIn options horizon

theorem ofMinutes_pos {n : ℕ} (h : 5 ≤ n) : 0 < ofMinutes n := by
  show (0 : ℤ) < (n : ℤ) * 60 * 1000000
  omega

theorem period_pos (options : Options) : 0 < period options :=
  Int.cast_pos.mpr (ofMinutes_pos options.pollInterval_mem.1)

theorem ofHours_pos {n : ℕ} (h : 1 ≤ n) : 0 < Duration.ofHours n := by
  show (0 : ℤ) < (n : ℤ) * 3600 * 1000000
  omega

theorem gap_pos (options : Options) : 0 < gap options :=
  Int.cast_pos.mpr (ofHours_pos options.slowPollInterval_mem.1)

variable {lock : PolledLock options webhookConfirmed}

/-- A lock that is not connectable is not polled. -/
theorem calls_of_not_connectable (hconn : ¬ lock.coordinator.connectable = true) :
    lock.calls horizon = [] := by
  unfold PolledLock.calls lockUpdateInterval
  rw [if_neg fun h => hconn h.1]

theorem calls_eq (hauto : options.manualSync = false) (hconn : lock.coordinator.connectable = true) :
    lock.calls horizon = (List.range (pollsIn options horizon)).flatMap
      (lock.callsAt (ofMinutes options.pollInterval)) := by
  have hmanual : ¬ options.manualSync = true := by
    rw [hauto]
    decide
  unfold PolledLock.calls lockUpdateInterval
  rw [if_pos ⟨hconn, hmanual⟩]
  rfl

theorem count_and (p : ℕ → Prop) [DecidablePred p] (P : Prop) [Decidable P] (n : ℕ) :
    n.count (fun k => p k ∧ P) = if P then n.count p else 0 := by
  split_ifs with hP
  · simp only [hP, and_true]
  · simp only [hP, and_false]
    exact Nat.count_false _

/-- **The calls of a slow endpoint.** -/
theorem callsTo_slow (hauto : options.manualSync = false) (hclock : lock.Unshifted)
    (hconn : lock.coordinator.connectable = true) {e : Endpoint} {g : Group}
    (he : e.group = some g) : callsTo e (lock.calls horizon) =
      if g = .gateways → lock.coordinator.hasGateway = true then slowPollsIn options horizon
      else 0 := by
  have hi : 0 < ofMinutes options.pollInterval := ofMinutes_pos options.pollInterval_mem.1
  have hcalls (k : ℕ) : callsTo e (lock.callsAt (ofMinutes options.pollInterval) k) =
      if stride (period options) (gap options) ∣ k ∧
        (g = .gateways → lock.coordinator.hasGateway = true) then 1 else 0 := by
    rw [callsTo_callsAt hclock hconn hi, pollCalls, he]
    exact if_congr ((atPoll_atPoll hclock hconn hi k).due_iff hi g) rfl rfl
  rw [calls_eq hauto hconn, callsTo_flatMap hcalls, count_and]
  rfl

/-- **The calls for the state of the lock.** -/
theorem callsTo_state (hauto : options.manualSync = false) (hclock : lock.Unshifted)
    (hconn : lock.coordinator.connectable = true) :
    callsTo .queryOpenState (lock.calls horizon) =
      statePollsIn options webhookConfirmed horizon := by
  have hi : 0 < ofMinutes options.pollInterval := ofMinutes_pos options.pollInterval_mem.1
  have hactive : lock.coordinator.webhookOnlyActive = (options.webhookOnly && webhookConfirmed) := by
    rw [LockUpdateCoordinator.webhookOnlyActive, lock.created.webhookOnly,
      lock.created.webhookStatus]
  have hcalls (k : ℕ) : callsTo .queryOpenState
      (lock.callsAt (ofMinutes options.pollInterval) k) =
        if (options.webhookOnly ∧ webhookConfirmed) ∧ 0 < k then 0 else 1 := by
    have h := atPoll_atPoll hclock hconn hi k
    rw [callsTo_callsAt hclock hconn hi]
    show stateCalls _ _ _ = _
    rw [h.stays.webhookOnlyActive, hactive, stateCalls, h.locked]
    simp only [Bool.and_eq_true, decide_eq_true_eq]
    split_ifs <;> rfl
  have hcalls' (k : ℕ) : callsTo .queryOpenState
      (lock.callsAt (ofMinutes options.pollInterval) k) =
        if ¬ ((options.webhookOnly ∧ webhookConfirmed) ∧ 0 < k) then 1 else 0 := by
    rw [hcalls k, ite_not]
  rw [calls_eq hauto hconn, callsTo_flatMap hcalls', statePollsIn]
  split_ifs with hrelied
  · simp only [hrelied, true_and, Nat.not_lt, Nat.le_zero]
    generalize pollsIn options horizon = n
    induction n with
    | zero => rfl
    | succ n ih =>
      rw [Nat.count_succ, ih]
      split_ifs <;> omega
  · simp only [hrelied, false_and, not_false_eq_true]
    exact Nat.count_true _

end Horizon

end TTLockConnect.Usage.Schedule
