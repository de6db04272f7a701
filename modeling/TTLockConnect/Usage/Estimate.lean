import Mathlib.Data.Rat.Floor
import Mathlib.Algebra.Order.Floor.Ring

/-! # The estimate of the monthly calls

`estimate_monthly_calls`: what the options cost in a month, by source. The products are exact here,
where the code has floats. -/

namespace TTLockConnect.Usage.Estimate

/-- The options as the form admits them, with the values the code takes where nothing is stored. -/
structure Options where
  /-- `poll_interval`, in minutes. -/
  pollInterval : ℕ := 30
  /-- `slow_poll_interval`, in hours. -/
  slowPollInterval : ℕ := 6
  /-- `gateway_poll_interval`, in minutes. -/
  gatewayPollInterval : ℕ := 15
  webhookOnly : Bool := false
  manualSync : Bool := false
  pollInterval_mem : 5 ≤ pollInterval ∧ pollInterval ≤ 1440 := by decide
  slowPollInterval_mem : 1 ≤ slowPollInterval ∧ slowPollInterval ≤ 168 := by decide
  gatewayPollInterval_mem : 5 ≤ gatewayPollInterval ∧ gatewayPollInterval ≤ 1440 := by decide

/-- A number for each source of calls. -/
structure Breakdown (α : Type) where
  lockState : α
  lockDetail : α
  credentials : α
  gatewayStatus : α
  doorSensor : α
  deriving DecidableEq, Repr

/-- What is done to each source. -/
def Breakdown.map {α β : Type} (f : α → β) (b : Breakdown α) : Breakdown β :=
  ⟨f b.lockState, f b.lockDetail, f b.credentials, f b.gatewayStatus, f b.doorSensor⟩

/-- `sum(breakdown.values())`. -/
def Breakdown.total (b : Breakdown ℤ) : ℤ :=
  b.lockState + b.lockDetail + b.credentials + b.gatewayStatus + b.doorSensor

def DAYS_PER_MONTH : ℚ := 3044 / 100

/-- `round`: to the nearest integer, and from halfway to the even one. -/
def round (q : ℚ) : ℤ :=
  if q - ⌊q⌋ < 1 / 2 then ⌊q⌋
  else if 1 / 2 < q - ⌊q⌋ then ⌊q⌋ + 1
  else if ⌊q⌋ % 2 = 0 then ⌊q⌋
  else ⌊q⌋ + 1

section Estimate
variable (options : Options) (connectableLocks locksWithGateway locksWithDoorSensor : ℕ)
  (webhookConfirmed : Bool)

/-- The calls of each source in a month, before they are rounded. -/
def monthlyCalls : Breakdown ℚ :=
  if options.manualSync then ⟨0, 0, 0, 0, 0⟩
  else
    let pollsPerMonth := 24 * 60 / (options.pollInterval : ℚ) * DAYS_PER_MONTH
    let slowFetchesPerMonth := 24 / (options.slowPollInterval : ℚ) * DAYS_PER_MONTH
    { -- skipped in webhook-only mode once the webhook is confirmed live
      lockState := if options.webhookOnly ∧ webhookConfirmed then 0
        else connectableLocks * pollsPerMonth
      -- detail and passage mode, and the gateways of a lock that is reached through one
      lockDetail := (connectableLocks * 2 + locksWithGateway : ℕ) * slowFetchesPerMonth
      -- PIN codes and eKeys
      credentials := (connectableLocks * 2 : ℕ) * slowFetchesPerMonth
      gatewayStatus := 24 * 60 / (options.gatewayPollInterval : ℚ) * DAYS_PER_MONTH
      doorSensor := locksWithDoorSensor * DAYS_PER_MONTH }

/-- `estimate_monthly_calls`: the breakdown and its total. Exact numbers are rounded here; the code
rounds floats, which close to a half may fall to the other side. -/
def estimateMonthlyCalls : Breakdown ℤ × ℤ :=
  let breakdown := (monthlyCalls options connectableLocks locksWithGateway locksWithDoorSensor
    webhookConfirmed).map round
  (breakdown, breakdown.total)

end Estimate

/-- The default options cost one lock behind a gateway so much. -/
example : estimateMonthlyCalls {} 1 1 0 false =
    (⟨1461, 365, 244, 2922, 0⟩, 4992) := by decide +kernel

end TTLockConnect.Usage.Estimate
