import TTLockConnect.Services.Cleanup
import Mathlib.Data.Int.Order.Basic
import Mathlib.Order.Lattice

/-! # When a passcode opens its lock

The vendor's meaning of the types of passcodes, against `Passcode.expired`: the end date of a type that
recurs is that of its first day only, so such a passcode opens the lock again after it. And where local
time is put back, the wall clock passes the end date before the point in time has come. -/

namespace TTLockConnect.Services.Validity

open TTLockConnect.Text TTLockConnect.Models TTLockConnect.Services.Cleanup
open TTLockConnect.Async.Coroutine.Coro

/-! ### The vendor's meaning -/

/-- What a type of passcode means. -/
inductive Kind where
  /-- valid up to the end date -/
  | bounded
  | permanent
  /-- valid on these days of the week, Monday being 1, in a daily time window -/
  | recurring (valid : ℤ → Bool)
  | unknown

/-- The types of the vendor. -/
def kind : Option ℤ → Kind
  | some 1 => .bounded
  | some 2 => .permanent
  | some 3 => .bounded
  | some 4 => .bounded
  | some 5 => .recurring fun day => decide (6 ≤ day)
  | some 6 => .recurring fun _ => true
  | some 7 => .recurring fun day => decide (day ≤ 5)
  | some 8 => .recurring fun day => decide (day = 1)
  | some 9 => .recurring fun day => decide (day = 2)
  | some 10 => .recurring fun day => decide (day = 3)
  | some 11 => .recurring fun day => decide (day = 4)
  | some 12 => .recurring fun day => decide (day = 5)
  | some 13 => .recurring fun day => decide (day = 6)
  | some 14 => .recurring fun day => decide (day = 7)
  | _ => .unknown

/-- The points in time of the dates. -/
def starts (p : Passcode) : Option Instant := p.startDate.map LocalTime.instant

def ends (p : Passcode) : Option Instant := p.endDate.map LocalTime.instant

/-- The passcode opens the lock at `t`, in a time zone with this offset. The dates of a recurring one
name the window of the first day; a date that is missing does not restrict it. -/
def opensAt (offset : ℤ) (p : Passcode) (t : Instant) : Prop :=
  match kind p.type with
  | .bounded => (∀ s ∈ starts p, s ≤ t) ∧ ∀ e ∈ ends p, t ≤ e
  | .permanent => ∀ s ∈ starts p, s ≤ t
  | .recurring valid => valid (LocalTime.isoweekday ⟨t, offset⟩) = true ∧
      ∃ k : ℕ, (∀ s ∈ starts p, s + Duration.ofDays k ≤ t) ∧
        ∀ e ∈ ends p, t ≤ e + Duration.ofDays k
  | .unknown => True

/-- By its type and its dates, the passcode is over for good: its end has passed and it does not
recur, or its end comes before its start. -/
def OverForGood (now : Instant) (p : Passcode) : Prop :=
  match kind p.type with
  | .bounded => ∃ e ∈ ends p, e < now ∨ ∃ s ∈ starts p, e < s
  | .recurring _ => ∃ e ∈ ends p, ∃ s ∈ starts p, e < s
  | .permanent => False
  | .unknown => False

/-! ### Days of the week -/

/-- Days later it is as many days of the week later. -/
theorem isoweekday_add_days (t offset : ℤ) (k : ℕ) :
    LocalTime.isoweekday ⟨t + Duration.ofDays k, offset⟩ =
      (LocalTime.isoweekday ⟨t, offset⟩ - 1 + k) % 7 + 1 := by
  simp only [LocalTime.isoweekday, LocalTime.wallMinutes, LocalTime.wall, Duration.ofDays, Duration.ofHours,
    Duration.ofSeconds]
  omega

/-- Every day of the week comes again. -/
theorem exists_weekday (t now offset : ℤ) {day : ℤ} (hday : 1 ≤ day ∧ day ≤ 7) :
    ∃ k : ℕ, now ≤ t + Duration.ofDays k ∧
      LocalTime.isoweekday ⟨t + Duration.ofDays k, offset⟩ = day := by
  -- whole weeks until `now`, and the days left to the next such day
  refine ⟨7 * (now - t).natAbs + ((day - LocalTime.isoweekday ⟨t, offset⟩) % 7).toNat, ?_, ?_⟩
  · simp only [Duration.ofDays, Duration.ofHours, Duration.ofSeconds]
    omega
  · rw [isoweekday_add_days]
    have hrange : 1 ≤ LocalTime.isoweekday ⟨t, offset⟩ ∧ LocalTime.isoweekday ⟨t, offset⟩ ≤ 7 := by
      simp only [LocalTime.isoweekday]
      omega
    omega

/-- A type that recurs does so on some day. -/
theorem kind_recurring {type : Option ℤ} {valid : ℤ → Bool} (h : kind type = .recurring valid) :
    ∃ day : ℤ, (1 ≤ day ∧ day ≤ 7) ∧ valid day = true := by
  unfold kind at h
  split at h <;> cases h
  · exact ⟨6, by decide, by decide⟩
  · exact ⟨1, by decide, rfl⟩
  · exact ⟨1, by decide, by decide⟩
  · exact ⟨1, by decide, by decide⟩
  · exact ⟨2, by decide, by decide⟩
  · exact ⟨3, by decide, by decide⟩
  · exact ⟨4, by decide, by decide⟩
  · exact ⟨5, by decide, by decide⟩
  · exact ⟨6, by decide, by decide⟩
  · exact ⟨7, by decide, by decide⟩

/-! ### Over for good -/

/-- A passcode with one window opens its lock from `now` on unless the window is empty or over. -/
theorem exists_between_iff {now : ℤ} {startDate endDate : Option Instant} :
    (∃ t, now ≤ t ∧ (∀ s ∈ startDate, s ≤ t) ∧ ∀ e ∈ endDate, t ≤ e) ↔
      ¬ ∃ e ∈ endDate, e < now ∨ ∃ s ∈ startDate, e < s := by
  constructor
  · rintro ⟨t, hnow, hstart, hend⟩ ⟨e, he, hlt | ⟨s, hs, hlt⟩⟩
    · exact absurd (hnow.trans (hend e he)) (not_le.mpr hlt)
    · exact absurd ((hstart s hs).trans (hend e he)) (not_le.mpr hlt)
  · intro hopen
    refine ⟨max now (startDate.getD now), le_max_left _ _, ?_, ?_⟩
    · intro s hs
      rw [Option.mem_def.mp hs]
      exact le_max_right _ _
    · intro e he
      have hnow : now ≤ e := not_lt.mp fun hlt => hopen ⟨e, he, Or.inl hlt⟩
      refine max_le hnow ?_
      cases hs : startDate with
      | none => exact hnow
      | some s => exact not_lt.mp fun hlt => hopen ⟨e, he, Or.inr ⟨s, hs, hlt⟩⟩

/-- A passcode that recurs opens its lock again and again, unless its window is empty. -/
theorem exists_again_iff {offset now : ℤ} {startDate endDate : Option Instant} {valid : ℤ → Bool}
    {day : ℤ} (hday : 1 ≤ day ∧ day ≤ 7) (hvalid : valid day = true) :
    (∃ t, now ≤ t ∧ valid (LocalTime.isoweekday ⟨t, offset⟩) = true ∧ ∃ k : ℕ,
      (∀ s ∈ startDate, s + Duration.ofDays k ≤ t) ∧ ∀ e ∈ endDate, t ≤ e + Duration.ofDays k) ↔
      ¬ ∃ e ∈ endDate, ∃ s ∈ startDate, e < s := by
  constructor
  · rintro ⟨t, -, -, k, hstart, hend⟩ ⟨e, he, s, hs, hlt⟩
    have hle : s + Duration.ofDays k ≤ e + Duration.ofDays k := (hstart s hs).trans (hend e he)
    exact absurd (Int.le_of_add_le_add_right hle) (not_le.mpr hlt)
  · intro hwindow
    -- the window's start, on a day that comes late enough
    obtain ⟨k, hnow, hweekday⟩ :=
      exists_weekday (startDate.getD (endDate.getD now)) now offset hday
    refine ⟨_, hnow, by rw [hweekday]; exact hvalid, k, ?_, ?_⟩
    · intro s hs
      rw [Option.mem_def.mp hs]
      exact le_rfl
    · intro e he
      refine Int.add_le_add_right ?_ _
      cases hs : startDate with
      | none =>
        rw [Option.mem_def.mp he]
        exact le_rfl
      | some s => exact not_lt.mp fun hlt => hwindow ⟨e, he, s, hs, hlt⟩

/-- **A passcode is over for good exactly if it opens its lock at no time from `now` on.** -/
theorem overForGood_iff {offset now : ℤ} {p : Passcode} :
    OverForGood now p ↔ ¬ ∃ t, now ≤ t ∧ opensAt offset p t := by
  unfold OverForGood opensAt
  cases hkind : kind p.type with
  | bounded => exact (not_iff_comm.mp exists_between_iff.symm).symm
  | permanent =>
    have hopens : ∃ t, now ≤ t ∧ ∀ s ∈ starts p, s ≤ t := by
      refine ⟨max now ((starts p).getD now), le_max_left _ _, fun s hs => ?_⟩
      rw [Option.mem_def.mp hs]
      exact le_max_right _ _
    exact iff_of_false id (not_not.mpr hopens)
  | recurring valid =>
    obtain ⟨day, hday, hvalid⟩ := kind_recurring hkind
    exact (not_iff_comm.mp (exists_again_iff hday hvalid).symm).symm
  | unknown => exact iff_of_false id (not_not.mpr ⟨now, le_rfl, trivial⟩)

/-! ### Clean-ups -/

section Cleanup
variable {n : ℕ} (s : Hass n) (entityIds : List EntityId) (passcodes : ℤ → List Passcode)
  (ekeys : ℤ → List Ekey)

/-- **A clean-up deletes no working passcode**: whatever the cloud replies to deletions, one that is
requested is of passcodes that open the lock at no time from now on. -/
def Safe : Prop :=
  ∀ verdict, ∀ m ∈ (handleCleanupPasscodes entityIds).calls
      (Cloud.answer ⟨passcodes, ekeys, verdict⟩) s,
    ∀ lockId id, m.1 = .keyboardPwdDelete lockId id →
      ∀ p ∈ passcodes lockId, p.id = some id →
        ¬ ∃ t, s.now.instant ≤ t ∧ opensAt s.now.offset p t

/-- A deletion that is due is requested, if the cloud accepts everything. -/
theorem exists_call {e : EntityId × Fin n} (he : e ∈ s.getCoordinators entityIds) {q : Passcode}
    (hq : q ∈ passcodes (s.lockId e.2)) {id : ℤ} (hid : id ∈ due s.now q) :
    ∃ verdict, ∃ m ∈ (handleCleanupPasscodes entityIds).calls
      (Cloud.answer ⟨passcodes, ekeys, verdict⟩) s,
      m.1 = .keyboardPwdDelete (s.lockId e.2) id := by
  let w : Cloud := ⟨passcodes, ekeys, fun _ _ => ⟨some 0, none⟩⟩
  have hall : w.settlesAll s (s.getCoordinators entityIds) = true :=
    (settlesAll_iff w s _).mpr fun _ _ _ _ _ _ => rfl
  have hcalls : ((handleCleanupPasscodes entityIds).calls w.answer s).map Prod.fst =
    w.allRequests s (s.getCoordinators entityIds) := calls_cleanupLocks w s _ [] hall
  have hmem : Request.keyboardPwdDelete (s.lockId e.2) id ∈
      w.allRequests s (s.getCoordinators entityIds) := by
    refine List.mem_flatMap.mpr ⟨e, he, ?_⟩
    refine List.mem_append_left _ (List.mem_cons_of_mem _ ?_)
    exact List.mem_map.mpr ⟨id, List.mem_filterMap.mpr ⟨q, hq, hid⟩, rfl⟩
  rw [← hcalls] at hmem
  obtain ⟨m, hm, hrequest⟩ := List.mem_map.mp hmem
  exact ⟨_, m, hm, hrequest⟩

/-- **A clean-up is safe exactly if every passcode with the id of an expired one is over for good.** -/
theorem safe_iff : Safe s entityIds passcodes ekeys ↔
    ∀ e ∈ s.getCoordinators entityIds, ∀ q ∈ passcodes (s.lockId e.2),
      ∀ id ∈ due s.now q, ∀ p ∈ passcodes (s.lockId e.2), p.id = some id →
        OverForGood s.now.instant p := by
  constructor
  · intro hsafe e he q hq id hid p hp hpid
    obtain ⟨verdict, m, hm, hrequest⟩ := exists_call s entityIds passcodes ekeys he hq hid
    exact overForGood_iff.mpr (hsafe verdict m hm _ id hrequest p hp hpid)
  · intro hover verdict m hm lockId id hrequest p hp hpid
    obtain ⟨e, he, rfl, q, hq, hid⟩ := mem_calls_cleanupLocks _ hm hrequest
    exact overForGood_iff.mp (hover e he q hq id hid p hp hpid)

end Cleanup

/-! ### A passcode that recurs -/

/-- A Thursday, 9:00. -/
def thursday : LocalTime := ⟨Duration.ofHours (14 * 24 + 9), 0⟩

/-- The cleaner's passcode: daily from 8:00 to 17:00, since the Thursday before. -/
def cleaner : Passcode :=
  ⟨some 1, some "4711", some "cleaner", some 6, some ⟨Duration.ofHours (7 * 24 + 8), 0⟩,
    some ⟨Duration.ofHours (7 * 24 + 17), 0⟩⟩

/-- **A clean-up deletes a passcode that opens the lock at this very moment.** -/
theorem cleaner_not_safe :
    ¬ ∀ (n : ℕ) (s : Hass n) (entityIds : List EntityId) (passcodes : ℤ → List Passcode)
      (ekeys : ℤ → List Ekey), Safe s entityIds passcodes ekeys := by
  intro hall
  have hcalls : ((handleCleanupPasscodes ["lock.door"]).calls
      (Cloud.answer ⟨fun _ => [cleaner], fun _ => [], fun _ _ => ⟨some 0, none⟩⟩)
      (oneLock thursday)).map Prod.fst = [.api (.listKeyboardPwd 7), .keyboardPwdDelete 7 1,
        .api (.listKeyboardPwd 7), .api (.listKey 7)] := by rfl
  have hmem : Request.keyboardPwdDelete 7 1 ∈ ((handleCleanupPasscodes ["lock.door"]).calls
      (Cloud.answer ⟨fun _ => [cleaner], fun _ => [], fun _ _ => ⟨some 0, none⟩⟩)
      (oneLock thursday)).map Prod.fst := by
    rw [hcalls]
    decide
  obtain ⟨m, hm, hrequest⟩ := List.mem_map.mp hmem
  refine hall 1 (oneLock thursday) ["lock.door"] (fun _ => [cleaner]) (fun _ => []) _ m hm 7 1 hrequest cleaner
    List.mem_cons_self rfl ⟨Duration.ofHours (14 * 24 + 9), le_rfl, rfl, 7, ?_, ?_⟩
  · intro s hs
    obtain rfl := Option.some.inj hs
    decide
  · intro e he
    obtain rfl := Option.some.inj he
    decide

end TTLockConnect.Services.Validity
