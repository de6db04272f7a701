import TTLockConnect.Usage.Schedule
import Mathlib.Tactic.Ring

/-! # When the estimate agrees with the schedule

The sources whose rate is that of the polls always agree. The slow ones agree over every horizon if
the poll interval divides the slow interval, and in the end not if it does not. -/

namespace TTLockConnect.Usage.Agreement

open TTLockConnect.Text TTLockConnect.Models TTLockConnect.Api TTLockConnect.Coordinator.State
open TTLockConnect.Coordinator.Poll TTLockConnect.Coordinator.Retry
open TTLockConnect.Coordinator.Overwrite
open TTLockConnect.Async.Coroutine TTLockConnect.Async.Coroutine.Coro
open TTLockConnect.Usage.Estimate TTLockConnect.Usage.PollCalls TTLockConnect.Usage.Sampling
open TTLockConnect.Usage.Schedule

variable {options : Options} {webhookConfirmed : Bool} {account : Account options webhookConfirmed}
  {horizon : Duration}

/-! ### The calls made -/

/-- A sum over a list of which some members count `a` and some `b`. -/
theorem sum_map_eq {α : Type} (l : List α) {f : α → ℕ} {p q : α → Bool} {a b : ℕ}
    (h : ∀ x ∈ l, f x = (if p x then a else 0) + if q x then b else 0) :
    (l.map f).sum = l.countP p * a + l.countP q * b := by
  induction l with
  | nil => simp
  | cons x l ih =>
    have hrest := ih fun y hy => h y (List.mem_cons_of_mem x hy)
    rw [List.map_cons, List.sum_cons, hrest, h x List.mem_cons_self, List.countP_cons,
      List.countP_cons]
    split_ifs <;> ring

/-- What a source counts, endpoint by endpoint. -/
theorem sum_lockState (f : Endpoint → ℕ) :
    (Source.lockState.endpoints.map f).sum = f .queryOpenState := by
  simp [Source.endpoints]

theorem sum_lockDetail (f : Endpoint → ℕ) : (Source.lockDetail.endpoints.map f).sum =
    f .detail + (f .passageModeConfig + f .listByLock) := by
  simp [Source.endpoints]

theorem sum_credentials (f : Endpoint → ℕ) :
    (Source.credentials.endpoints.map f).sum = f .listKeyboardPwd + f .listKey := by
  simp [Source.endpoints]

theorem sum_gatewayStatus (f : Endpoint → ℕ) : (Source.gatewayStatus.endpoints.map f).sum = 0 := rfl

/-- The calls of a source to one lock. -/
def lockCalls (lock : PolledLock options webhookConfirmed) (horizon : Duration) (source : Source) :
    ℕ := (source.endpoints.map fun e => callsTo e (lock.calls horizon)).sum

theorem lockCalls_of_not_connectable {lock : PolledLock options webhookConfirmed}
    (hconn : ¬ lock.coordinator.connectable = true) (source : Source) :
    lockCalls lock horizon source = 0 := by
  unfold lockCalls
  rw [calls_of_not_connectable hconn]
  cases source <;> rfl

theorem lockCalls_lockState {lock : PolledLock options webhookConfirmed}
    (hauto : options.manualSync = false) (hclock : lock.Unshifted)
    (hconn : lock.coordinator.connectable = true) :
    lockCalls lock horizon .lockState = statePollsIn options webhookConfirmed horizon := by
  rw [lockCalls, sum_lockState, callsTo_state hauto hclock hconn]

theorem lockCalls_lockDetail {lock : PolledLock options webhookConfirmed}
    (hauto : options.manualSync = false) (hclock : lock.Unshifted)
    (hconn : lock.coordinator.connectable = true) :
    lockCalls lock horizon .lockDetail = 2 * slowPollsIn options horizon +
      if lock.coordinator.hasGateway then slowPollsIn options horizon else 0 := by
  have hdetail : callsTo .detail (lock.calls horizon) = _ := callsTo_slow hauto hclock hconn rfl
  have hpassage : callsTo .passageModeConfig (lock.calls horizon) = _ :=
    callsTo_slow hauto hclock hconn rfl
  have hgateways : callsTo .listByLock (lock.calls horizon) = _ := callsTo_slow hauto hclock hconn rfl
  rw [lockCalls, sum_lockDetail, hdetail, hpassage, hgateways]
  generalize slowPollsIn options horizon = n
  simp only [reduceCtorEq, false_implies, true_implies, if_true]
  omega

theorem lockCalls_credentials {lock : PolledLock options webhookConfirmed}
    (hauto : options.manualSync = false) (hclock : lock.Unshifted)
    (hconn : lock.coordinator.connectable = true) :
    lockCalls lock horizon .credentials = 2 * slowPollsIn options horizon := by
  have hcodes : callsTo .listKeyboardPwd (lock.calls horizon) = _ := callsTo_slow hauto hclock hconn rfl
  have hkeys : callsTo .listKey (lock.calls horizon) = _ := callsTo_slow hauto hclock hconn rfl
  rw [lockCalls, sum_credentials, hcodes, hkeys]
  generalize slowPollsIn options horizon = n
  simp only [reduceCtorEq, false_implies, if_true]
  omega

/-- The calls to the locks, so many to each that is connectable, and more to those with a gateway. -/
theorem callsMade_eq {source : Source} (hsource : source ≠ .gatewayStatus) {a b : ℕ}
    (h : ∀ lock ∈ account.locks, lock.coordinator.connectable = true →
      lockCalls lock horizon source = a + if lock.coordinator.hasGateway then b else 0) :
    account.callsMade horizon source =
      account.connectableLocks * a + account.locksWithGateway * b := by
  have hlock : ∀ lock ∈ account.locks, lockCalls lock horizon source =
      (if lock.coordinator.connectable then a else 0) +
        if lock.coordinator.connectable && lock.coordinator.hasGateway then b else 0 := by
    intro lock hlock
    by_cases hconn : lock.coordinator.connectable = true
    · rw [h lock hlock hconn, hconn, if_pos rfl, Bool.true_and]
    · rw [lockCalls_of_not_connectable hconn, Bool.eq_false_iff.mpr hconn]
      rfl
  have hsum : account.callsMade horizon source =
      (account.locks.map fun lock => lockCalls lock horizon source).sum := by
    unfold Account.callsMade
    rw [if_neg hsource, add_zero]
    rfl
  rw [hsum, sum_map_eq account.locks hlock]
  rfl

theorem callsMade_lockState (hauto : options.manualSync = false) (hclock : account.Unshifted) :
    account.callsMade horizon .lockState =
      account.connectableLocks * statePollsIn options webhookConfirmed horizon := by
  have hmade : account.callsMade horizon .lockState = _ :=
    callsMade_eq (b := 0) (by decide) fun lock hlock hconn => by
      rw [lockCalls_lockState hauto (hclock lock hlock) hconn, ite_self, add_zero]
  rw [hmade, mul_zero, add_zero]

theorem callsMade_lockDetail (hauto : options.manualSync = false) (hclock : account.Unshifted) :
    account.callsMade horizon .lockDetail =
      (account.connectableLocks * 2 + account.locksWithGateway) * slowPollsIn options horizon := by
  have hmade : account.callsMade horizon .lockDetail = _ :=
    callsMade_eq (by decide) fun lock hlock hconn =>
      lockCalls_lockDetail hauto (hclock lock hlock) hconn
  rw [hmade, add_mul, mul_assoc]

theorem callsMade_credentials (hauto : options.manualSync = false) (hclock : account.Unshifted) :
    account.callsMade horizon .credentials =
      account.connectableLocks * 2 * slowPollsIn options horizon := by
  have hmade : account.callsMade horizon .credentials = _ :=
    callsMade_eq (b := 0) (by decide) fun lock hlock hconn => by
      rw [lockCalls_credentials hauto (hclock lock hlock) hconn, ite_self, add_zero]
  rw [hmade, mul_zero, add_zero, mul_assoc]

/-- A refresh of the gateways calls once. -/
theorem refreshGateways_calls (gateways : PolledGateways) (k : ℕ) (c : GatewaysUpdateCoordinator) :
    refreshGateways.calls (gateways.answer k) c = [(.list, c)] := rfl

theorem length_flatMap_range {α : Type} {f : ℕ → List α} (h : ∀ k, (f k).length = 1) (n : ℕ) :
    ((List.range n).flatMap f).length = n := by
  simp [List.length_flatMap, h]

/-- The polls of the gateways over the horizon. -/
def gatewayPollsIn (options : Options) (horizon : Duration) : ℕ :=
  looks (ofMinutes options.gatewayPollInterval : ℚ) horizon

theorem callsMade_gatewayStatus (hauto : options.manualSync = false) :
    account.callsMade horizon .gatewayStatus = gatewayPollsIn options horizon := by
  have hmanual : ¬ options.manualSync = true := by
    rw [hauto]
    decide
  have hlocks : (account.locks.map fun lock =>
      (Source.gatewayStatus.endpoints.map fun e => callsTo e (lock.calls horizon)).sum).sum = 0 := by
    refine List.sum_eq_zero fun n hn => ?_
    obtain ⟨lock, -, rfl⟩ := List.mem_map.mp hn
    exact sum_gatewayStatus _
  have hgateways : account.callsMade horizon .gatewayStatus =
      (account.gateways.calls options horizon).length := by
    unfold Account.callsMade
    rw [if_pos rfl, hlocks, zero_add]
  rw [hgateways, PolledGateways.calls, gatewaysUpdateInterval, if_neg hmanual]
  exact length_flatMap_range (fun k => congrArg List.length (refreshGateways_calls _ k _)) _

/-! ### The calls estimated -/

/-- The estimate for a stretch of time is that stretch in periods. -/
theorem rate_mul (n : ℕ) (h : 0 < n) (x : ℚ) :
    24 * 60 / (n : ℚ) * DAYS_PER_MONTH * (x / (DAYS_PER_MONTH * (Duration.ofDays 1 : ℤ))) =
      x / (ofMinutes n : ℤ) := by
  have hn : (n : ℚ) ≠ 0 := by exact_mod_cast h.ne'
  unfold ofMinutes Duration.ofDays Duration.ofHours Duration.ofSeconds DAYS_PER_MONTH
  push_cast
  field_simp
  ring

theorem slowRate_mul (n : ℕ) (h : 0 < n) (x : ℚ) :
    24 / (n : ℚ) * DAYS_PER_MONTH * (x / (DAYS_PER_MONTH * (Duration.ofDays 1 : ℤ))) =
      x / (Duration.ofHours n : ℤ) := by
  have hn : (n : ℚ) ≠ 0 := by exact_mod_cast h.ne'
  unfold Duration.ofDays Duration.ofHours Duration.ofSeconds DAYS_PER_MONTH
  push_cast
  field_simp
  ring

theorem callsEstimated_lockState (hauto : options.manualSync = false) :
    account.callsEstimated horizon .lockState =
      if options.webhookOnly ∧ webhookConfirmed then 0
      else account.connectableLocks * (horizon / period options) := by
  have hrate := rate_mul options.pollInterval (by have := options.pollInterval_mem.1; omega) horizon
  unfold Account.callsEstimated monthlyCalls
  rw [hauto, if_neg (by decide)]
  show (if _ then _ else _) * _ = _
  split_ifs
  · exact zero_mul _
  · rw [mul_assoc, hrate]

theorem callsEstimated_lockDetail (hauto : options.manualSync = false) :
    account.callsEstimated horizon .lockDetail =
      (account.connectableLocks * 2 + account.locksWithGateway : ℕ) *
        (horizon / gap options) := by
  have hrate := slowRate_mul options.slowPollInterval options.slowPollInterval_mem.1 horizon
  unfold Account.callsEstimated monthlyCalls
  rw [hauto, if_neg (by decide)]
  show _ * _ * _ = _
  rw [mul_assoc, hrate]

theorem callsEstimated_credentials (hauto : options.manualSync = false) :
    account.callsEstimated horizon .credentials =
      (account.connectableLocks * 2 : ℕ) * (horizon / gap options) := by
  have hrate := slowRate_mul options.slowPollInterval options.slowPollInterval_mem.1 horizon
  unfold Account.callsEstimated monthlyCalls
  rw [hauto, if_neg (by decide)]
  show _ * _ * _ = _
  rw [mul_assoc, hrate]

theorem callsEstimated_gatewayStatus (hauto : options.manualSync = false) :
    account.callsEstimated horizon .gatewayStatus =
      horizon / (ofMinutes options.gatewayPollInterval : ℤ) := by
  have hrate := rate_mul options.gatewayPollInterval
    (by have := options.gatewayPollInterval_mem.1; omega) horizon
  unfold Account.callsEstimated monthlyCalls
  rw [hauto, if_neg (by decide)]
  exact hrate

/-! ### When they agree -/

/-- So many calls for each of `n` endpoints are off by one for each, or there are no endpoints. -/
theorem abs_mul_sub_le_iff (n : ℕ) (a x : ℚ) :
    |(n : ℚ) * a - n * x| ≤ n ↔ n = 0 ∨ |a - x| ≤ 1 := by
  rcases Nat.eq_zero_or_pos n with rfl | hn
  · simp
  · have hn' : (0 : ℚ) < n := by exact_mod_cast hn
    rw [← mul_sub, abs_mul, abs_of_pos hn', mul_le_iff_le_one_right hn']
    exact (or_iff_right hn.ne').symm

/-- The slow polls of the horizon keep the rate of the slow interval. -/
def SlowAgrees (options : Options) (horizon : Duration) : Prop :=
  |(slowPollsIn options horizon : ℚ) - horizon / gap options| ≤ 1

theorem lockState_agrees (hauto : options.manualSync = false) (hclock : account.Unshifted)
    (hh : 0 ≤ horizon) :
    |(account.callsMade horizon .lockState : ℚ) - account.callsEstimated horizon .lockState| ≤
      account.endpointsOf .lockState := by
  have hh' : (0 : ℚ) ≤ horizon := Int.cast_nonneg hh
  show _ ≤ (account.connectableLocks : ℚ)
  rw [callsMade_lockState hauto hclock, callsEstimated_lockState hauto, statePollsIn, Nat.cast_mul]
  by_cases hrelied : options.webhookOnly ∧ webhookConfirmed
  · -- the first poll alone asks
    have hone : ((min 1 (pollsIn options horizon) : ℕ) : ℚ) ≤ 1 := by
      exact_mod_cast min_le_left 1 _
    rw [if_pos hrelied, if_pos hrelied, sub_zero, abs_of_nonneg (by positivity)]
    exact mul_le_of_le_one_right (Nat.cast_nonneg _) hone
  · rw [if_neg hrelied, if_neg hrelied, abs_mul_sub_le_iff]
    exact .inr (abs_looks_sub_le (period_pos options) hh')

theorem lockDetail_agrees_iff (hauto : options.manualSync = false) (hclock : account.Unshifted) :
    |(account.callsMade horizon .lockDetail : ℚ) - account.callsEstimated horizon .lockDetail| ≤
        account.endpointsOf .lockDetail ↔
      account.connectableLocks * 2 + account.locksWithGateway = 0 ∨ SlowAgrees options horizon := by
  rw [callsMade_lockDetail hauto hclock, callsEstimated_lockDetail hauto, Nat.cast_mul]
  exact abs_mul_sub_le_iff _ _ _

theorem credentials_agrees_iff (hauto : options.manualSync = false) (hclock : account.Unshifted) :
    |(account.callsMade horizon .credentials : ℚ) - account.callsEstimated horizon .credentials| ≤
        account.endpointsOf .credentials ↔
      account.connectableLocks * 2 = 0 ∨ SlowAgrees options horizon := by
  rw [callsMade_credentials hauto hclock, callsEstimated_credentials hauto, Nat.cast_mul]
  exact abs_mul_sub_le_iff _ _ _

theorem gatewayStatus_agrees (hauto : options.manualSync = false) (hh : 0 ≤ horizon) :
    |(account.callsMade horizon .gatewayStatus : ℚ) -
        account.callsEstimated horizon .gatewayStatus| ≤ account.endpointsOf .gatewayStatus := by
  have hpos : (0 : ℚ) < (ofMinutes options.gatewayPollInterval : ℤ) :=
    Int.cast_pos.mpr (ofMinutes_pos options.gatewayPollInterval_mem.1)
  have hh' : (0 : ℚ) ≤ horizon := Int.cast_nonneg hh
  rw [callsMade_gatewayStatus hauto, callsEstimated_gatewayStatus hauto]
  show _ ≤ ((1 : ℕ) : ℚ)
  rw [Nat.cast_one]
  exact abs_looks_sub_le hpos hh'

/-- A lock with a gateway that counts is connectable. -/
theorem locksWithGateway_le (account : Account options webhookConfirmed) :
    account.locksWithGateway ≤ account.connectableLocks := by
  refine List.countP_mono_left fun lock _ h => ?_
  exact ((Bool.and_eq_true _ _).mp h).1

/-- **The slow tier decides.** -/
theorem agrees_iff_slowAgrees (hauto : options.manualSync = false) (hclock : account.Unshifted)
    (hh : 0 ≤ horizon) :
    account.Agrees horizon ↔ account.connectableLocks = 0 ∨ SlowAgrees options horizon := by
  have hle := locksWithGateway_le account
  constructor
  · intro h
    refine ((credentials_agrees_iff hauto hclock).mp (h .credentials)).imp_left fun hzero => ?_
    omega
  · rintro h (_ | _)
    · exact lockState_agrees hauto hclock hh
    · exact (lockDetail_agrees_iff hauto hclock).mpr (h.imp_left fun hzero => by omega)
    · exact (credentials_agrees_iff hauto hclock).mpr (h.imp_left fun hzero => by omega)
    · exact gatewayStatus_agrees hauto hh

/-- The poll interval divides the slow interval. -/
theorem stride_mul_eq_iff (options : Options) :
    (stride (period options) (gap options) : ℚ) * period options = gap options ↔
      options.pollInterval ∣ 60 * options.slowPollInterval := by
  have hperiod : period options = options.pollInterval * 60000000 := by
    unfold period ofMinutes Duration.ofSeconds
    push_cast
    ring
  have hgap : gap options = (60 * options.slowPollInterval : ℕ) * 60000000 := by
    unfold gap Duration.ofHours Duration.ofSeconds
    push_cast
    ring
  have hpoll : (options.pollInterval : ℚ) ≠ 0 := by
    have hmem := options.pollInterval_mem.1
    exact_mod_cast (by omega : options.pollInterval ≠ 0)
  constructor
  · intro h
    rw [hgap, hperiod, ← mul_assoc] at h
    have heq := mul_right_cancel₀ (by norm_num) h
    have heq' : stride (options.pollInterval * 60000000 : ℚ)
        ((60 * options.slowPollInterval : ℕ) * 60000000) * options.pollInterval =
          60 * options.slowPollInterval := by
      exact_mod_cast heq
    exact ⟨_, by rw [← heq', Nat.mul_comm]⟩
  · rintro ⟨n, hn⟩
    have hratio : gap options / period options = n := by
      rw [hgap, hperiod, hn]
      push_cast
      field_simp
    have hstride : stride (period options) (gap options) = n := by
      rw [stride, hratio, Nat.ceil_natCast]
    rw [hstride, ← hratio, div_mul_cancel₀ _ (period_pos options).ne']

/-- **The estimate agrees with the schedule over every horizon if and only if the poll interval
divides the slow interval**, or no lock is polled, as long as local time is not shifted; otherwise it
disagrees over every horizon from some one on. -/
theorem agrees_iff_dvd (account : Account options webhookConfirmed)
    (hauto : options.manualSync = false) (hclock : account.Unshifted) :
    ((∀ horizon : Duration, 0 ≤ horizon → account.Agrees horizon) ↔
      options.pollInterval ∣ 60 * options.slowPollInterval ∨ account.connectableLocks = 0) ∧
    (¬ (options.pollInterval ∣ 60 * options.slowPollInterval ∨ account.connectableLocks = 0) →
      ∃ h₀ : Duration, 0 ≤ h₀ ∧ ∀ horizon, h₀ ≤ horizon → ¬ account.Agrees horizon) := by
  have hperiod := period_pos options
  have hgap := gap_pos options
  have hbehind : ¬ (options.pollInterval ∣ 60 * options.slowPollInterval ∨
      account.connectableLocks = 0) →
        ∃ h₀ : Duration, 0 ≤ h₀ ∧ ∀ horizon, h₀ ≤ horizon → ¬ account.Agrees horizon := by
    intro hnot
    obtain ⟨hdvd, hlocks⟩ := not_or.mp hnot
    obtain ⟨h₀, hpos, hlate⟩ := exists_openings_behind hperiod hgap
      fun heq => hdvd ((stride_mul_eq_iff options).mp heq)
    have hceil : (0 : ℤ) ≤ ⌈h₀⌉ := Int.ceil_nonneg hpos
    refine ⟨⌈h₀⌉, hceil, fun horizon hh hagrees => ?_⟩
    have hslow := ((agrees_iff_slowAgrees hauto hclock (Int.le_trans hceil hh)).mp hagrees).resolve_left
      hlocks
    have hlt := hlate horizon ((Int.le_ceil h₀).trans (Int.cast_le.mpr hh))
    have hlow := (abs_le.mp hslow).1
    unfold slowPollsIn pollsIn at hlow
    linarith
  refine ⟨⟨fun h => ?_, fun h horizon hh => ?_⟩, hbehind⟩
  · by_contra hnot
    obtain ⟨h₀, hpos, hall⟩ := hbehind hnot
    exact hall h₀ le_rfl (h h₀ hpos)
  · refine (agrees_iff_slowAgrees hauto hclock hh).mpr ?_
    rcases h with hdvd | hlocks
    · have hstride := (stride_mul_eq_iff options).mpr hdvd
      have hh' : (0 : ℚ) ≤ horizon := Int.cast_nonneg hh
      exact .inr (abs_openings_sub_le hperiod hgap hstride hh')
    · exact .inl hlocks

/-! ### Sample accounts -/

/-- Every call succeeds. -/
def servedReply : (q : Request) → Except PyError (Reply q)
  | .queryLockStatus _ _ _ _ => .ok []
  | q => sampleReply q

theorem standing_leaves (_ : Request) (c : LockUpdateCoordinator) :
    Leaves (fun _ => False) c c := .refl c

/-- A world in which all goes well, and no time passes during a poll. -/
def sampleWorld : World where
  reply := servedReply
  move _ c := c
  leaves := standing_leaves

theorem sampleWorld_answers (q : Request) : ∃ a, sampleWorld.reply q = .ok a := by
  cases q <;> exact ⟨_, rfl⟩

theorem sampleWorld_features (lockId : ℤ) (details : Lock)
    (h : sampleWorld.reply (.detail lockId) = .ok details) :
    ∃ features, Features.fromFeatureValue details.featureValue = .ok features := by
  cases h
  exact ⟨_, rfl⟩

theorem sampleWorld_state (lockId : ℤ) (body : OpenStateBody)
    (h : sampleWorld.reply (.queryOpenState lockId) = .ok body) :
    ∃ state, WireLockState.modelValidate body = .ok state := by
  cases h
  exact ⟨_, rfl⟩

theorem sampleWorld_clock (q : Request) (c : LockUpdateCoordinator) :
    ∃ now, sampleWorld.move q c = { c with now := now } := ⟨c.now, rfl⟩

def sampleService : Service :=
  ⟨sampleWorld, sampleWorld_answers, sampleWorld_features, sampleWorld_state, sampleWorld_clock⟩

/-- The coordinator of a lock on WiFi. -/
def sampleWith (options : Options) : LockUpdateCoordinator :=
  { sampleCoordinator with
    slowInterval := Duration.ofHours options.slowPollInterval
    slowInterval_pos := ofHours_pos options.slowPollInterval_mem.1 }

theorem sampleWith_created (options : Options) (h : options.webhookOnly = false) :
    CreatedWith options false (sampleWith options) :=
  ⟨⟨⟨_, _, _, rfl⟩, rfl, rfl, rfl, rfl⟩, rfl, h.symm, rfl⟩

/-- A lock on WiFi. -/
def sampleLock (options : Options) (h : options.webhookOnly = false) :
    PolledLock options false where
  coordinator := sampleWith options
  created := sampleWith_created options h
  unheard := .inl rfl
  service _ := sampleService
  offset _ := 0

/-- An account with one lock and no gateway. -/
def sampleAccount (options : Options) (h : options.webhookOnly = false) : Account options false where
  locks := [sampleLock options h]
  gateways := ⟨⟨fun _ => none, true⟩, fun _ => []⟩

theorem sampleAccount_unshifted (options : Options) (h : options.webhookOnly = false) :
    (sampleAccount options h).Unshifted := by
  intro lock hlock _ k
  rw [List.mem_singleton.mp hlock]
  rfl

/-- The default options keep the estimate. -/
theorem agrees_iff_dvd_default : ({} : Options).manualSync = false ∧
    ∀ horizon : Duration, 0 ≤ horizon → (sampleAccount {} rfl).Agrees horizon :=
  ⟨rfl, (agrees_iff_dvd (sampleAccount {} rfl) rfl (sampleAccount_unshifted {} rfl)).1.mpr
    (.inl (by decide))⟩

/-- A poll every 40 minutes, and the slow tier every hour. -/
def hourly : Options where
  pollInterval := 40
  slowPollInterval := 1

/-- **A slow interval between two polls**: in eight hours the slow endpoints are called six times,
where the estimate has eight. -/
theorem hourly_disagrees : ¬ ∀ (options : Options) (webhookConfirmed : Bool)
    (account : Account options webhookConfirmed) (horizon : Duration),
      options.manualSync = false → 0 ≤ horizon → account.Agrees horizon := by
  intro h
  have hhours : (0 : ℤ) ≤ Duration.ofHours 8 := by decide
  have hagrees := h hourly false (sampleAccount hourly rfl) (Duration.ofHours 8) rfl hhours
  have hclock := sampleAccount_unshifted hourly rfl
  have hslow := ((agrees_iff_slowAgrees rfl hclock hhours).mp hagrees).resolve_left (by decide)
  revert hslow
  unfold SlowAgrees
  decide +kernel

end TTLockConnect.Usage.Agreement
