import Mathlib.Data.Int.Notation
import Mathlib.Data.List.AList

/-! # The tally of API calls

`ApiCallCounter`: how many calls were made on each day, with the delayed save of its store. A date is
the number of its day; ISO dates are ordered like these. -/

namespace TTLockConnect.Usage.Counter

abbrev Date := ℤ

/-- `RETENTION_DAYS`. -/
def RETENTION_DAYS : ℤ := 62

/-- The calls of one day, in all and by endpoint. -/
structure Day where
  total : ℕ
  endpoints : AList fun _ : String => ℕ
  deriving DecidableEq

/-- `_days`. -/
abbrev Days := AList fun _ : Date => Day

/-- One call more. -/
def Day.count (day : Day) (endpoint : String) : Day where
  total := day.total + 1
  endpoints := day.endpoints.insert endpoint ((day.endpoints.lookup endpoint).getD 0 + 1)

theorem nodupKeys_filter (days : Days) (p : (_ : Date) × Day → Bool) :
    (days.entries.filter p).NodupKeys :=
  days.nodupKeys.sublist List.filter_sublist

/-- `_prune`. -/
def prune (today : Date) (days : Days) : Days :=
  ⟨days.entries.filter fun e => today - RETENTION_DAYS ≤ e.1, nodupKeys_filter days _⟩

/-- The days after one call more. -/
def recordDay (today : Date) (endpoint : String) (days : Days) : Days :=
  prune today (days.insert today (((days.lookup today).getD ⟨0, ∅⟩).count endpoint))

/-- `today_count`. -/
def todayCount (today : Date) (days : Days) : ℕ := ((days.lookup today).map Day.total).getD 0

/-- `ApiCallCounter`; `pending` is whether its store is about to write, after `SAVE_DELAY_SECONDS`. -/
structure ApiCallCounter where
  days : Days
  pending : Bool

/-- A new counter after `async_load`, `stored` being what the store was last written with. -/
def ApiCallCounter.load (stored : Option Days) : ApiCallCounter := ⟨stored.getD ∅, false⟩

/-- `record`. -/
def ApiCallCounter.record (today : Date) (endpoint : String) (c : ApiCallCounter) : ApiCallCounter :=
  ⟨recordDay today endpoint c.days, true⟩

theorem lookup_prune (today : Date) (days : Days) : (prune today days).lookup today =
    days.lookup today := by
  have hmem : ∀ day, day ∈ (prune today days).lookup today ↔ day ∈ days.lookup today := by
    intro day
    have hkept : today - RETENTION_DAYS ≤ today := Int.sub_le_self today (by decide)
    rw [AList.mem_lookup_iff, AList.mem_lookup_iff]
    unfold prune
    rw [List.mem_filter]
    simp [hkept]
  exact Option.ext hmem

/-- A call counts once. -/
theorem todayCount_recordDay (today : Date) (endpoint : String) (days : Days) :
    todayCount today (recordDay today endpoint days) = todayCount today days + 1 := by
  unfold todayCount recordDay
  rw [lookup_prune, AList.lookup_insert]
  cases days.lookup today with
  | none => rfl
  | some day => rfl

end TTLockConnect.Usage.Counter
