import TTLockConnect.Text
import TTLockConnect.Usage.Calendar
import TTLockConnect.Usage.Counter
import TTLockConnect.Usage.Counts
import Mathlib.Data.List.Induction

/-! # The tallies of the day and of the month

`ApiCallCounter` as it keeps its days, under ISO texts: old days are deleted by comparing texts, and
the days of a month are those with a prefix. The log of all calls is what the tallies are compared
with. -/

namespace TTLockConnect.Usage.Monthly

open TTLockConnect.Text TTLockConnect.Usage.Calendar TTLockConnect.Usage.Counts
open TTLockConnect.Usage.Counter (Day)

/-! ### The counter -/

/-- `_days`. -/
abbrev Days := AList fun _ : List Char => Day

/-- `_prune`, of the days from a cutoff on. -/
def pruneBefore (cutoff : List Char) (days : Days) : Days :=
  ⟨days.entries.filter fun e => ¬ e.1 < cutoff, days.nodupKeys.sublist List.filter_sublist⟩

/-- `_days` with one call more. -/
def counted (today : Date) (endpoint : String) (days : Days) : Days :=
  days.insert today.isoformat (((days.lookup today.isoformat).getD ⟨0, ∅⟩).count endpoint)

/-- `record`. In front of year 1 there is no cutoff, which raises behind the count. -/
def record (today : Date) (endpoint : String) (days : Days) : Except PyError Unit × Days :=
  match today.minusDays Counter.RETENTION_DAYS.toNat with
  | some cutoff => (.ok (), pruneBefore cutoff.isoformat (counted today endpoint days))
  | none => (.error .overflowError, counted today endpoint days)

section Properties
variable (today : Date) (days : Days)

/-- `today_count`. -/
def todayCount : ℕ := ((days.lookup today.isoformat).map Day.total).getD 0

/-- `today_by_endpoint`. -/
def todayByEndpoint : CountDict String :=
  busiestFirst (((days.lookup today.isoformat).map Day.endpoints).getD ∅)

/-- The days of this month. -/
def monthEntries : List (Sigma fun _ : List Char => Day) :=
  days.entries.filter fun e => today.monthPrefix.isPrefixOf e.1

/-- `month_count`. -/
def monthCount : ℕ := ((monthEntries today days).map fun e => e.2.total).sum

/-- `month_by_endpoint`. -/
def monthByEndpoint : CountDict String :=
  busiestFirst ((monthEntries today days).foldl (fun totals e => addAll totals e.2.endpoints) ∅)

end Properties

/-! ### The log -/

/-- The calls, with their local dates. -/
abbrev Log := List (Date × String)

/-- The days after these calls, from none. -/
def replay (log : Log) : Days := log.foldl (fun days c => (record c.1 c.2 days).2) ∅

section Log
variable (log : Log) (d : Date) (endpoint : String)

def callsOn : ℕ := log.countP fun c => c.1 = d

def callsOnAt : ℕ := log.countP fun c => c = (d, endpoint)

def callsIn : ℕ := log.countP fun c => c.1.SameMonth d

def callsInAt : ℕ := log.countP fun c => c.1.SameMonth d ∧ c.2 = endpoint

end Log

/-- A day as the log has it. -/
structure DayExact (log : Log) (d : Date) (day : Day) : Prop where
  all : day.total = callsOn log d
  byEndpoint : ∀ endpoint, countOf day.endpoints endpoint = callsOnAt log d endpoint
  sum : day.total = total day.endpoints

/-- **The tallies at a date are exact.** -/
structure Exact (log : Log) (today : Date) (days : Days) : Prop where
  onDay : todayCount today days = callsOn log today
  onDayAt : ∀ endpoint, countOf (todayByEndpoint today days) endpoint = callsOnAt log today endpoint
  onDaySum : todayCount today days = total (todayByEndpoint today days)
  inMonth : monthCount today days = callsIn log today
  inMonthAt : ∀ endpoint,
    countOf (monthByEndpoint today days) endpoint = callsInAt log today endpoint
  inMonthSum : monthCount today days = total (monthByEndpoint today days)
  /-- No call of this month has been removed. -/
  kept : ∀ c ∈ log, c.1.SameMonth today →
    ∃ day, days.lookup c.1.isoformat = some day ∧ DayExact log c.1 day

/-! ### One call more -/

/-- What the days have after a log. -/
structure Inv (log : Log) (days : Days) : Prop where
  entries : ∀ key day, days.lookup key = some day → ∃ d : Date, key = d.isoformat ∧ DayExact log d day
  /-- At no later date, a day of the month is missing. -/
  kept : ∀ today, (∀ c ∈ log, c.1 ≤ today) → ∀ c ∈ log, c.1.SameMonth today →
    (days.lookup c.1.isoformat).isSome

section Concat
variable {log : Log} {d today : Date} {endpoint : String} {day : Day}

theorem callsOn_concat : callsOn (log ++ [(today, endpoint)]) d =
    callsOn log d + if today = d then 1 else 0 := by
  rw [callsOn, List.countP_append, List.countP_singleton]
  simp only [decide_eq_true_eq]
  rfl

theorem callsOnAt_concat (e : String) : callsOnAt (log ++ [(today, endpoint)]) d e =
    callsOnAt log d e + if today = d ∧ endpoint = e then 1 else 0 := by
  rw [callsOnAt, List.countP_append, List.countP_singleton]
  simp only [decide_eq_true_eq, Prod.mk.injEq]
  rfl

/-- A call on another day. -/
theorem DayExact.other (h : DayExact log d day) (hd : today ≠ d) :
    DayExact (log ++ [(today, endpoint)]) d day where
  all := by rw [callsOn_concat, if_neg hd, h.all, Nat.add_zero]
  byEndpoint e := by rw [callsOnAt_concat, if_neg fun hc => hd hc.1, h.byEndpoint, Nat.add_zero]
  sum := h.sum

/-- A call on this day. -/
theorem DayExact.count (h : DayExact log today day) :
    DayExact (log ++ [(today, endpoint)]) today (day.count endpoint) where
  all := by rw [callsOn_concat, if_pos rfl, ← h.all]; rfl
  byEndpoint e := by
    have hadd : countOf (day.count endpoint).endpoints e =
        countOf day.endpoints e + if endpoint = e then 1 else 0 := countOf_add day.endpoints endpoint 1 e
    rw [hadd, callsOnAt_concat, h.byEndpoint]
    simp only [true_and]
  sum := by
    have hadd : total (day.count endpoint).endpoints = total day.endpoints + 1 :=
      total_add day.endpoints endpoint 1
    rw [hadd, ← h.sum]
    rfl

/-- A day without calls. -/
theorem dayExact_empty (h : ∀ c ∈ log, c.1 ≠ d) : DayExact log d ⟨0, ∅⟩ where
  all := (List.countP_eq_zero.mpr fun c hc => by simpa using h c hc).symm
  byEndpoint e := (List.countP_eq_zero.mpr fun c hc => by
    rw [decide_eq_true_eq]
    rintro rfl
    exact h _ hc rfl).symm
  sum := rfl

end Concat

section Record
variable {log : Log} {days : Days} {today : Date} {endpoint : String}

theorem lookup_counted_self : (counted today endpoint days).lookup today.isoformat =
    some (((days.lookup today.isoformat).getD ⟨0, ∅⟩).count endpoint) := AList.lookup_insert _

theorem lookup_counted_of_ne {key : List Char} (h : key ≠ today.isoformat) :
    (counted today endpoint days).lookup key = days.lookup key := AList.lookup_insert_ne h

theorem mem_lookup_pruneBefore {cutoff key : List Char} {day : Day} :
    (pruneBefore cutoff days).lookup key = some day ↔
      days.lookup key = some day ∧ ¬ key < cutoff := by
  rw [← Option.mem_def, ← Option.mem_def, AList.mem_lookup_iff, AList.mem_lookup_iff, pruneBefore]
  dsimp only
  rw [List.mem_filter, decide_eq_true_eq]

/-- **The tallies of the day**: a call of it would not have been removed. -/
theorem Inv.dayExact (h : Inv log days) (hlater : ∀ c ∈ log, c.1 ≤ today) :
    DayExact log today ((days.lookup today.isoformat).getD ⟨0, ∅⟩) := by
  cases hday : days.lookup today.isoformat with
  | some day =>
    obtain ⟨d, hd, hexact⟩ := h.entries _ _ hday
    rwa [← Date.isoformat_inj hd] at hexact
  | none =>
    refine dayExact_empty fun c hc hd => ?_
    have hkept := h.kept today hlater c hc (hd ▸ ⟨rfl, rfl⟩)
    rw [hd, hday] at hkept
    cases hkept

/-- A count keeps the invariant, if it is not in the past. -/
theorem Inv.counted (h : Inv log days) (hlast : ∀ c ∈ log, c.1 ≤ today) :
    Inv (log ++ [(today, endpoint)]) (counted today endpoint days) where
  entries := by
    intro key day hday
    by_cases hkey : key = today.isoformat
    · subst hkey
      rw [lookup_counted_self] at hday
      obtain rfl := Option.some.inj hday
      exact ⟨today, rfl, (h.dayExact hlast).count⟩
    · rw [lookup_counted_of_ne hkey] at hday
      obtain ⟨d, rfl, hexact⟩ := h.entries _ _ hday
      exact ⟨d, rfl, hexact.other fun hd => hkey (hd ▸ rfl)⟩
  kept := by
    intro later hlater c hc hsame
    by_cases hd : c.1 = today
    · rw [hd, lookup_counted_self]
      rfl
    · rw [lookup_counted_of_ne fun heq => hd (Date.isoformat_inj heq)]
      rcases List.mem_append.mp hc with hc | hc
      · exact h.kept later (fun c' hc' => hlater c' (List.mem_append_left _ hc')) c hc hsame
      · exact absurd (congrArg Prod.fst (List.mem_singleton.mp hc)) hd

/-- **Pruning removes nothing of the month.** -/
theorem Inv.pruned (h : Inv log days) (hlast : ∀ c ∈ log, c.1 ≤ today) (hmem : ∃ c ∈ log, c.1 = today)
    {cutoff : Date} (hcutoff : today.minusDays Counter.RETENTION_DAYS.toNat = some cutoff) :
    Inv log (pruneBefore cutoff.isoformat days) where
  entries key day hday := h.entries key day (mem_lookup_pruneBefore.mp hday).1
  kept := by
    intro later hlater c hc hsame
    obtain ⟨day, hday⟩ := Option.isSome_iff_exists.mp (h.kept later hlater c hc hsame)
    obtain ⟨c₀, hc₀, rfl⟩ := hmem
    -- from the date of the call to the later one everything is in one month
    have hmonth : c.1.SameMonth c₀.1 := by
      have hmid := Date.sameMonth_of_between hsame (hlast c hc) (hlater c₀ hc₀)
      exact ⟨hsame.1.trans hmid.1.symm, hsame.2.trans hmid.2.symm⟩
    have hle : cutoff ≤ c.1 :=
      Date.minusDays_le_of_sameMonth hcutoff (c₀.1.day_le.trans (by decide)) hmonth
    rw [mem_lookup_pruneBefore.mpr ⟨hday, fun hlt => ?_⟩]
    · rfl
    · exact absurd (Date.isoformat_lt_iff.mp hlt) (not_lt.mpr hle)

/-- **A call keeps the invariant.** -/
theorem Inv.record (h : Inv log days) (hlast : ∀ c ∈ log, c.1 ≤ today) :
    Inv (log ++ [(today, endpoint)]) (record today endpoint days).2 := by
  have hcounted : Inv (log ++ [(today, endpoint)]) (Monthly.counted today endpoint days) :=
    h.counted hlast
  unfold Monthly.record
  cases hcutoff : today.minusDays Counter.RETENTION_DAYS.toNat with
  | none => exact hcounted
  | some cutoff =>
    refine hcounted.pruned ?_ ⟨_, List.mem_append_right _ (List.mem_singleton_self _), rfl⟩ hcutoff
    intro c hc
    rcases List.mem_append.mp hc with hc | hc
    · exact hlast c hc
    · rw [List.mem_singleton.mp hc]
      exact Nat.le_refl _

end Record

/-- **The invariant of every run.** -/
theorem inv_replay {log : Log} (hdates : log.Pairwise fun c c' => c.1 ≤ c'.1) :
    Inv log (replay log) := by
  induction log using List.reverseRecOn with
  | nil => exact ⟨nofun, fun _ _ => nofun⟩
  | append_singleton log c ih =>
    obtain ⟨hlog, -, hlast⟩ := List.pairwise_append.mp hdates
    rw [replay, List.foldl_append]
    exact (ih hlog).record fun c' hc' => hlast c' hc' c (List.mem_singleton_self c)

/-! ### The tallies -/

section Tallies
variable {log : Log} {days : Days} {today : Date}

theorem todayCount_eq : todayCount today days =
    ((days.lookup today.isoformat).getD ⟨0, ∅⟩).total := by
  unfold todayCount
  cases days.lookup today.isoformat with
  | none => rfl
  | some day => rfl

theorem todayByEndpoint_eq : todayByEndpoint today days =
    busiestFirst ((days.lookup today.isoformat).getD ⟨0, ∅⟩).endpoints := by
  unfold todayByEndpoint
  cases days.lookup today.isoformat with
  | none => rfl
  | some day => rfl

theorem mem_monthEntries {key : List Char} {day : Day} : ⟨key, day⟩ ∈ monthEntries today days ↔
    days.lookup key = some day ∧ today.monthPrefix.isPrefixOf key := by
  rw [monthEntries, List.mem_filter, ← AList.mem_lookup_iff, Option.mem_def]

theorem nodup_monthEntries (today : Date) (days : Days) :
    ((monthEntries today days).map Sigma.fst).Nodup :=
  days.nodupKeys.sublist List.filter_sublist

theorem Inv.monthEntry (h : Inv log days) {e : Sigma fun _ : List Char => Day}
    (he : e ∈ monthEntries today days) : ∃ d : Date, e.1 = d.isoformat ∧ DayExact log d e.2 :=
  h.entries _ _ (mem_monthEntries.mp he).1

/-- **The entries of the month are those of the days with its calls.** -/
theorem Inv.mem_months (h : Inv log days) (hlater : ∀ c ∈ log, c.1 ≤ today) {c : Date × String}
    (hc : c ∈ log) :
    c.1.isoformat ∈ (monthEntries today days).map Sigma.fst ↔ c.1.SameMonth today := by
  constructor
  · intro hmem
    obtain ⟨e, he, hkey⟩ := List.mem_map.mp hmem
    rw [← Date.monthPrefix_isPrefixOf_iff, ← hkey]
    exact (mem_monthEntries.mp he).2
  · intro hsame
    obtain ⟨day, hday⟩ := Option.isSome_iff_exists.mp (h.kept today hlater c hc hsame)
    refine List.mem_map.mpr ⟨⟨_, day⟩, mem_monthEntries.mpr ⟨hday, ?_⟩, rfl⟩
    exact Date.monthPrefix_isPrefixOf_iff.mpr hsame

/-- Counted day by day, it is counted in the month. -/
theorem Inv.sum_month (h : Inv log days) (hlater : ∀ c ∈ log, c.1 ≤ today)
    (p : Date × String → Prop) [DecidablePred p] :
    ((monthEntries today days).map fun e =>
        log.countP fun c => c.1.isoformat = e.1 ∧ p c).sum =
      log.countP fun c => c.1.SameMonth today ∧ p c := by
  have hsum := sum_countP (l := log) (fun c => c.1.isoformat) p (nodup_monthEntries today days)
  rw [List.map_map] at hsum
  refine hsum.trans (List.countP_congr fun c hc => ?_)
  simp only [decide_eq_true_eq, h.mem_months hlater hc]

theorem Inv.total_of_mem (h : Inv log days) {e : Sigma fun _ : List Char => Day}
    (he : e ∈ monthEntries today days) :
    e.2.total = log.countP fun c => c.1.isoformat = e.1 ∧ True := by
  obtain ⟨d, hd, hexact⟩ := h.monthEntry he
  rw [hexact.all, hd]
  refine List.countP_congr fun c _ => ?_
  rw [decide_eq_true_eq, decide_eq_true_eq, and_true]
  exact ⟨congrArg _, Date.isoformat_inj⟩

theorem Inv.countOf_of_mem (h : Inv log days) {e : Sigma fun _ : List Char => Day}
    (he : e ∈ monthEntries today days) (endpoint : String) :
    countOf e.2.endpoints endpoint =
      log.countP fun c => c.1.isoformat = e.1 ∧ c.2 = endpoint := by
  obtain ⟨d, hd, hexact⟩ := h.monthEntry he
  rw [hexact.byEndpoint, hd]
  refine List.countP_congr fun c _ => ?_
  rw [decide_eq_true_eq, decide_eq_true_eq, Prod.ext_iff]
  exact and_congr_left' ⟨congrArg _, Date.isoformat_inj⟩

theorem Inv.month (h : Inv log days) (hlater : ∀ c ∈ log, c.1 ≤ today) :
    monthCount today days = callsIn log today := by
  have htotal : (monthEntries today days).map (fun e => e.2.total) =
      (monthEntries today days).map fun e => log.countP fun c => c.1.isoformat = e.1 ∧ True :=
    List.map_congr_left fun e he => h.total_of_mem he
  rw [monthCount, htotal, h.sum_month hlater fun _ => True]
  simp only [and_true]
  rfl

theorem Inv.monthAt (h : Inv log days) (hlater : ∀ c ∈ log, c.1 ≤ today)
    (endpoint : String) :
    countOf (monthByEndpoint today days) endpoint = callsInAt log today endpoint := by
  have hcount : (monthEntries today days).map (fun e => countOf e.2.endpoints endpoint) =
      (monthEntries today days).map fun e =>
        log.countP fun c => c.1.isoformat = e.1 ∧ c.2 = endpoint :=
    List.map_congr_left fun e he => h.countOf_of_mem he endpoint
  rw [monthByEndpoint, countOf_busiestFirst, countOf_foldl_addAll, countOf_empty,
    Nat.zero_add, hcount, h.sum_month hlater fun c => c.2 = endpoint]
  rfl

theorem Inv.monthSum (h : Inv log days) :
    monthCount today days = total (monthByEndpoint today days) := by
  have hsum : (monthEntries today days).map (fun e => e.2.total) =
      (monthEntries today days).map fun e => total e.2.endpoints := by
    refine List.map_congr_left fun e he => ?_
    obtain ⟨d, -, hexact⟩ := h.monthEntry he
    exact hexact.sum
  rw [monthCount, hsum, monthByEndpoint, total_busiestFirst, total_foldl_addAll,
    total_empty, Nat.zero_add]

/-- **The invariant makes the tallies exact.** -/
theorem Inv.exact (h : Inv log days) (hlater : ∀ c ∈ log, c.1 ≤ today) : Exact log today days where
  onDay := by rw [todayCount_eq, (h.dayExact hlater).all]
  onDayAt endpoint := by
    rw [todayByEndpoint_eq, countOf_busiestFirst, (h.dayExact hlater).byEndpoint]
  onDaySum := by rw [todayCount_eq, todayByEndpoint_eq, total_busiestFirst, (h.dayExact hlater).sum]
  inMonth := h.month hlater
  inMonthAt := h.monthAt hlater
  inMonthSum := h.monthSum
  kept := by
    intro c hc hsame
    obtain ⟨day, hday⟩ := Option.isSome_iff_exists.mp (h.kept today hlater c hc hsame)
    obtain ⟨d, hd, hexact⟩ := h.entries _ _ hday
    rw [← Date.isoformat_inj hd] at hexact
    exact ⟨day, hday, hexact⟩

end Tallies

/-- **Usage tallies are exact despite pruning**, at every date that is not before a call. -/
theorem replay_exact {log : Log} (hdates : log.Pairwise fun c c' => c.1 ≤ c'.1) {today : Date}
    (hlater : ∀ c ∈ log, c.1 ≤ today) : Exact log today (replay log) :=
  (inv_replay hdates).exact hlater

theorem sampleToday_valid : (1 ≤ 2026 ∧ 2026 ≤ 9999) ∧ (1 ≤ 1 ∧ 1 ≤ 12) ∧ 1 ≤ 31 ∧
    31 ≤ daysInMonth 2026 1 := by decide

/-- The end of January 2026. -/
def sampleToday : Date :=
  ⟨2026, 1, 31, sampleToday_valid.1, sampleToday_valid.2.1, sampleToday_valid.2.2⟩

def daysBefore (n : ℕ) : Date := (sampleToday.minusDays n).getD sampleToday

/-- Calls at both sides of the year's end; the last ones prune the first. -/
def sampleLog : Log :=
  [(daysBefore 93, "lock/list"), (daysBefore 31, "lock/list"), (daysBefore 30, "lock/list"),
    (daysBefore 30, "lock/unlock")]

theorem replay_exact_sampleLog :
    Exact sampleLog sampleToday (replay sampleLog) ∧ monthCount sampleToday (replay sampleLog) = 2 ∧
      (replay sampleLog).lookup (daysBefore 93).isoformat = none :=
  ⟨replay_exact (by decide +kernel) (by decide +kernel), by decide +kernel, by decide +kernel⟩

end TTLockConnect.Usage.Monthly
