import TTLockConnect.Usage.Monthly

/-! # Days by their numbers

`Usage.Counter` takes a date for the number of its day, `Usage.Monthly` for its ISO text. Texts and
numbers of dates have one order, and the days before a date have the numbers below, so that both are
one counter under different keys. -/

namespace TTLockConnect.Usage.Ordinals

open TTLockConnect.Text TTLockConnect.Usage.Calendar
open TTLockConnect.Usage.Counter (Day)

/-! ### Dicts with other keys -/

section Rekey
variable {κ α v : Type} {f : κ → α}

/-- The entries of a dict under the images of its keys. -/
def rekeyed (f : κ → α) (l : List (Sigma fun _ : κ => v)) : List (Sigma fun _ : α => v) :=
  l.map fun e => ⟨f e.1, e.2⟩

theorem nodupKeys_rekeyed (hf : Function.Injective f) {l : List (Sigma fun _ : κ => v)}
    (h : l.NodupKeys) : (rekeyed f l).NodupKeys := by
  unfold List.NodupKeys List.keys rekeyed at *
  rw [List.map_map]
  have hkeys : (Sigma.fst ∘ fun e : Sigma fun _ : κ => v => (⟨f e.1, e.2⟩ : Sigma fun _ : α => v)) =
      f ∘ Sigma.fst := rfl
  rw [hkeys, ← List.map_map]
  exact h.map hf

/-- A dict under the images of its keys. -/
def rekey (hf : Function.Injective f) (m : AList fun _ : κ => v) : AList fun _ : α => v :=
  ⟨rekeyed f m.entries, nodupKeys_rekeyed hf m.nodupKeys⟩

theorem filter_rekeyed {p : (Sigma fun _ : α => v) → Bool} {q : (Sigma fun _ : κ => v) → Bool}
    (h : ∀ e, p ⟨f e.1, e.2⟩ = q e) (l : List (Sigma fun _ : κ => v)) :
    (rekeyed f l).filter p = rekeyed f (l.filter q) := by
  unfold rekeyed
  rw [List.filter_map]
  congr 1
  exact List.filter_congr fun e _ => h e

variable [DecidableEq κ] [DecidableEq α] (hf : Function.Injective f) (m : AList fun _ : κ => v)

theorem lookup_rekey (k : κ) : (rekey hf m).lookup (f k) = m.lookup k :=
  List.dlookup_map₁ m.entries hf k

theorem insert_rekey (k : κ) (x : v) :
    (rekey hf m).insert (f k) x = rekey hf (m.insert k x) := by
  have herase : (rekeyed f m.entries).kerase (f k) = rekeyed f (m.entries.kerase k) := by
    unfold List.kerase rekeyed
    rw [List.eraseP_map]
    congr 2
    funext e
    exact decide_eq_decide.mpr hf.eq_iff
  refine AList.ext ?_
  rw [AList.entries_insert]
  change ⟨f k, x⟩ :: (rekeyed f m.entries).kerase (f k) = rekeyed f (m.insert k x).entries
  rw [herase, AList.entries_insert]
  rfl

end Rekey

/-! ### The counter under both keys -/

/-- Days by their dates. -/
abbrev DatedDays := AList fun _ : Date => Day

theorem isoformat_injective : Function.Injective Date.isoformat := fun _ _ => Date.isoformat_inj

/-- The number that `Usage.Counter` takes for a date. -/
def dayNumber (d : Date) : ℤ := d.toordinal

theorem dayNumber_injective : Function.Injective dayNumber :=
  fun _ _ h => Date.toordinal_inj (Int.ofNat.inj h)

/-- **The same days**, under ISO texts and under the numbers of their dates. -/
def Same (days : Monthly.Days) (numbered : Counter.Days) : Prop :=
  ∃ m : DatedDays, days = rekey isoformat_injective m ∧ numbered = rekey dayNumber_injective m

variable {today : Date} {endpoint : String} {days : Monthly.Days} {numbered : Counter.Days}

/-- What pruning keeps, by dates. -/
def kept (today : Date) (d : Date) : Bool := today.toordinal ≤ d.toordinal + 62

/-- The dated days that pruning keeps. -/
def prunedDates (today : Date) (m : DatedDays) : DatedDays :=
  ⟨m.entries.filter fun e => kept today e.1, m.nodupKeys.sublist List.filter_sublist⟩

theorem pruneBefore_rekey {cutoff : Date}
    (hcutoff : today.minusDays Counter.RETENTION_DAYS.toNat = some cutoff) (m : DatedDays) :
    Monthly.pruneBefore cutoff.isoformat (rekey isoformat_injective m) =
      rekey isoformat_injective (prunedDates today m) := by
  have hsub : cutoff.toordinal + 62 = today.toordinal := Date.toordinal_minusDays hcutoff
  refine AList.ext (filter_rekeyed (fun e => decide_eq_decide.mpr ?_) m.entries)
  rw [Date.isoformat_lt_iff, ← Date.toordinal_lt_iff]
  omega

theorem prune_rekey (m : DatedDays) :
    Counter.prune (dayNumber today) (rekey dayNumber_injective m) =
      rekey dayNumber_injective (prunedDates today m) := by
  refine AList.ext (filter_rekeyed (fun e => decide_eq_decide.mpr ?_) m.entries)
  change (today.toordinal : ℤ) - 62 ≤ e.1.toordinal ↔ today.toordinal ≤ e.1.toordinal + 62
  omega

/-- In the first days of year 1 there is nothing to prune. -/
theorem prunedDates_of_none (h : today.minusDays Counter.RETENTION_DAYS.toNat = none)
    (m : DatedDays) : prunedDates today m = m := by
  have hle : today.toordinal ≤ 62 := Date.toordinal_of_minusDays_eq_none h
  refine AList.ext ?_
  refine List.filter_eq_self.mpr fun e _ => ?_
  rw [kept, decide_eq_true_eq]
  exact hle.trans (Nat.le_add_left ..)

/-- **A call is counted and pruned alike.** -/
theorem Same.record (h : Same days numbered) :
    Same (Monthly.record today endpoint days).2
      (Counter.recordDay (dayNumber today) endpoint numbered) := by
  obtain ⟨m, rfl, rfl⟩ := h
  refine ⟨prunedDates today
    (m.insert today (((m.lookup today).getD ⟨0, ∅⟩).count endpoint)), ?_, ?_⟩
  · unfold Monthly.record Monthly.counted
    rw [lookup_rekey, insert_rekey]
    cases hcutoff : today.minusDays Counter.RETENTION_DAYS.toNat with
    | none => rw [prunedDates_of_none hcutoff]
    | some cutoff => exact pruneBefore_rekey hcutoff _
  · rw [Counter.recordDay, lookup_rekey, insert_rekey, prune_rekey]

/-- **The counter under ISO texts is the counter under numbers.** -/
theorem same_replay (log : Monthly.Log) : Same (Monthly.replay log)
    (log.foldl (fun days c => Counter.recordDay (dayNumber c.1) c.2 days) ∅) := by
  have hstep : ∀ (log : Monthly.Log) {days : Monthly.Days} {numbered : Counter.Days},
      Same days numbered → Same (log.foldl (fun days c => (Monthly.record c.1 c.2 days).2) days)
        (log.foldl (fun days c => Counter.recordDay (dayNumber c.1) c.2 days) numbered) := by
    intro log
    induction log with
    | nil => exact id
    | cons c log ih => exact fun h => ih h.record
  exact hstep log ⟨∅, rfl, rfl⟩

theorem Same.todayCount (h : Same days numbered) :
    Monthly.todayCount today days = Counter.todayCount (dayNumber today) numbered := by
  obtain ⟨m, rfl, rfl⟩ := h
  rw [Monthly.todayCount, Counter.todayCount, lookup_rekey, lookup_rekey]

end TTLockConnect.Usage.Ordinals
