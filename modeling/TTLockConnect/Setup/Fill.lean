import TTLockConnect.Async.Family
import TTLockConnect.Async.Semaphore
import TTLockConnect.Coordinator.Overwrite

/-! # The initial fill of the locks

`_fill_lock_details`, the background task of a setup: every lock that can be reached is refreshed,
so many at a time as the semaphore has permits. It runs beside whatever else the coordinators of the
entry do: their polls, webhook events, commands. Each lock sees of all this a run of its own event
loop, so what is known of every such run holds of every lock of an entry. -/

namespace TTLockConnect.Setup.Fill

open TTLockConnect.Text TTLockConnect.Models TTLockConnect.Api TTLockConnect.Coordinator.State
open TTLockConnect.Coordinator.Poll TTLockConnect.Coordinator.Writers
open TTLockConnect.Coordinator.Overwrite
open TTLockConnect.Async.Coroutine TTLockConnect.Async.Coroutine.Coro TTLockConnect.Async.Runs
open TTLockConnect.Async.EventLoop TTLockConnect.Async.Mutex TTLockConnect.Async.Semaphore
open TTLockConnect.Async.Family

def DETAIL_FILL_CONCURRENCY : ℕ := 3

variable {n : ℕ}

/-- What runs on the coordinators of an entry. -/
inductive Work (n : ℕ) where
  /-- `_refresh_one` -/
  | refreshOne (i : Fin n)
  | other (i : Fin n) (job : Job)
  deriving DecidableEq, Repr

namespace Work

/-- The coordinator. -/
def home : Work n → Fin n
  | .refreshOne i | .other i _ => i

/-- What it does there: `coordinator.async_refresh()` is the refresh of any poll. -/
def role : Work n → Job
  | .refreshOne _ => .refresh
  | .other _ job => job

/-- `_refresh_one` takes the semaphore. -/
def isFill : Work n → Bool
  | .refreshOne _ => true
  | .other _ _ => false

/-- A job of coordinator `i` that the fill has no part in. -/
def otherOf (i : Fin n) : Work n → Option Job
  | .refreshOne _ => none
  | .other j job => if j = i then some job else none

end Work

/-- The coordinators of an entry. -/
abbrev Locks (n : ℕ) := Fin n → LockUpdateCoordinator

/-- `connectable_locks`. -/
def connectableLocks (locks : Locks n) : List (Fin n) :=
  (List.finRange n).filter fun i => (locks i).connectable

/-- `_fill_lock_details`: the tasks that `asyncio.gather` creates, in order. -/
def fillLockDetails (locks : List (Fin n)) : List (Work n) := locks.map .refreshOne

/-- A job of the coordinators. -/
def work (w : Work n) : Coro (Locks n) (Fin n × Request) (Async.Family.Reply Reply) PyError Unit :=
  Async.Family.prog Work.home Work.role Coordinator.Poll.prog w

/-- The event loop with the semaphore of the fill. -/
abbrev Loops (n : ℕ) := Pool (Limited (Locks n)) (Demand (Fin n × Request))
  (Grant (Async.Family.Reply Reply)) PyError (Work n)

abbrev LoopsLabel (n : ℕ) :=
  @Label (Demand (Fin n × Request)) (Grant (Async.Family.Reply Reply)) PyError (Work n)

/-- A move of it. -/
def step (P : Loops n) (l : LoopsLabel n) : Option (Loops n) :=
  Async.Semaphore.step (Async.Semaphore.prog Work.isFill work) P l

/-- The event loop as a setup leaves it. -/
def setUp (locks : Locks n) : Loops n := ⟨⟨DETAIL_FILL_CONCURRENCY, locks⟩, []⟩

/-- The part of the fill that has been started. -/
def filled (τ : List (Move (Loops n) (LoopsLabel n))) : List (Work n) :=
  (starts τ).filter Work.isFill

variable {locks : Locks n} {P : Loops n} {τ : List (Move (Loops n) (LoopsLabel n))}

/-- **Three at a time, and never stuck**: in every interleaving no more than three refreshes of the
fill have begun and not ended; and as long as anything is in flight some task can go on, whatever it
is told. -/
theorem fill_bounded (hr : Run step (setUp locks) τ P) :
    (begun P.tasks).countP Work.isFill ≤ 3 ∧
      (P.tasks ≠ [] → ∀ ans, ∃ i P₁, step P (.reply i ans) = some P₁) := by
  obtain ⟨-, P', -, hP, -⟩ := run_shadows hr
  have hsum := hP.free_add_begun
  refine ⟨?_, fun ht ans => hP.exists_step (Nat.succ_pos 2) ht ans⟩
  unfold DETAIL_FILL_CONCURRENCY at hsum
  omega

/-- Four locks. -/
def fourLocks : Locks 4 := fun i => { sampleCoordinator with lockId := i }

/-- A semaphore that grants, and a cloud on which every call succeeds. -/
def sampleGrant : (q : Demand (Fin 4 × Request)) →
    Except PyError (Grant (Async.Family.Reply Reply) q)
  | .acquire => .ok ()
  | .ask q => sampleReply q.2

/-- The refreshes of four locks, three of which begin. -/
def threeBegin : List (LoopsLabel 4) :=
  (fillLockDetails (connectableLocks fourLocks)).map .start ++
    [.reply 0 sampleGrant, .reply 1 sampleGrant, .reply 2 sampleGrant]

theorem fill_bounded_four :
    (begun (play step (setUp fourLocks) threeBegin).2.tasks).countP Work.isFill ≤ 3 ∧
      (begun (play step (setUp fourLocks) threeBegin).2.tasks).length = 3 ∧
      waiting (play step (setUp fourLocks) threeBegin).2.tasks = [.refreshOne 3] :=
  ⟨(fill_bounded (run_play (setUp fourLocks) threeBegin)).1, by decide, by decide⟩

/-! ### One lock -/

theorem jobsOf_perm (i : Fin n) : ∀ ws : List (Work n),
    (jobsOf Work.home Work.role i ws).Perm
      (ws.filterMap (Work.otherOf i) ++ List.replicate (ws.count (.refreshOne i)) .refresh)
  | [] => .refl _
  | .refreshOne j :: ws => by
    have ih := jobsOf_perm i ws
    by_cases hj : j = i
    · subst hj
      have hone : jobsOf Work.home Work.role j (.refreshOne j :: ws) =
          .refresh :: jobsOf Work.home Work.role j ws := by simp [jobsOf, Work.home, Work.role]
      rw [hone, List.count_cons_self, List.replicate_succ, List.filterMap_cons_none rfl]
      exact (ih.cons _).trans List.perm_middle.symm
    · have hskip : jobsOf Work.home Work.role i (.refreshOne j :: ws) =
          jobsOf Work.home Work.role i ws := by simp [jobsOf, Work.home, hj]
      rw [hskip, List.count_cons_of_ne (by simpa using hj), List.filterMap_cons_none rfl]
      exact ih
  | .other j job :: ws => by
    have ih := jobsOf_perm i ws
    rw [List.count_cons_of_ne (by simp)]
    by_cases hj : j = i
    · subst hj
      have hone : jobsOf Work.home Work.role j (.other j job :: ws) =
          job :: jobsOf Work.home Work.role j ws := by simp [jobsOf, Work.home, Work.role]
      have hother : Work.otherOf j (.other j job) = some job := if_pos rfl
      rw [hone, List.filterMap_cons_some hother]
      exact ih.cons _
    · have hskip : jobsOf Work.home Work.role i (.other j job :: ws) =
          jobsOf Work.home Work.role i ws := by simp [jobsOf, Work.home, hj]
      have hother : Work.otherOf i (.other j job) = none := if_neg hj
      rw [hskip, List.filterMap_cons_none hother]
      exact ih

/-- The fill starts the refresh of a lock once if the lock can be reached, and else never. -/
theorem count_filled (hfill : filled τ = fillLockDetails (connectableLocks locks)) (i : Fin n) :
    (starts τ).count (.refreshOne i) = if (locks i).connectable then 1 else 0 := by
  have hcount : (starts τ).count (.refreshOne i) = (filled τ).count (.refreshOne i) :=
    (List.count_filter rfl).symm
  have hinj : Function.Injective (Work.refreshOne : Fin n → Work n) := fun _ _ h => by
    injection h
  have hnodup : (connectableLocks locks).Nodup := (List.nodup_finRange n).filter _
  rw [hcount, hfill, fillLockDetails, List.count_map_of_injective _ _ hinj, hnodup.count]
  simp [connectableLocks]

/-- **Each lock once**: what a lock sees of the interleaving is a run of its own event loop, of the
jobs started on it and of one refresh for the fill, if the lock can be reached and the fill neither
has it waiting for the semaphore nor was told to give up there. -/
theorem fill_once (hr : Run step (setUp locks) τ P)
    (hfill : filled τ = fillLockDetails (connectableLocks locks)) (i : Fin n) :
    ∃ τ' P', Run loopStep (alone (locks i)) τ' P' ∧
      P.shared.data i = P'.shared ∧
      (starts τ').Perm ((starts τ).filterMap (Work.otherOf i) ++
        if (locks i).connectable ∧ .refreshOne i ∉ waiting P.tasks ∧ .refreshOne i ∉ refused τ
        then [.refresh] else []) := by
  obtain ⟨τ₁, P₁, hr₁, hP₁, hacc⟩ := run_shadows hr
  obtain ⟨τ', P', hr', hP', hjobs⟩ := run_member hr₁ i
  refine ⟨τ', P', hr', (congrFun hP₁.data i).trans hP'.shared, ?_⟩
  have hnone : ∀ ws : List (Work n), (∀ w ∈ ws, w.isFill = true) →
      ws.filterMap (Work.otherOf i) = [] := by
    intro ws hws
    refine List.filterMap_eq_nil_iff.mpr fun w hw => ?_
    cases w with
    | refreshOne j => rfl
    | other j job => exact absurd (hws _ hw) Bool.false_ne_true
  have hother := hacc.perm.filterMap (Work.otherOf i)
  rw [List.filterMap_append, List.filterMap_append, hnone _ hacc.waiting, hnone _ hacc.refused,
    List.append_nil, List.append_nil] at hother
  have hcount := hacc.perm.count_eq (.refreshOne i)
  rw [count_filled hfill, List.count_append, List.count_append] at hcount
  rw [hjobs]
  refine (jobsOf_perm i _).trans (hother.symm.append ?_)
  suffices h : (starts τ₁).count (.refreshOne i) =
      if (locks i).connectable ∧ .refreshOne i ∉ waiting P.tasks ∧ .refreshOne i ∉ refused τ
      then 1 else 0 by
    rw [h]
    split_ifs <;> exact .refl _
  by_cases hconn : (locks i).connectable = true
  · rw [if_pos hconn] at hcount
    by_cases hw : .refreshOne i ∈ waiting P.tasks
    · have hpos := List.count_pos_iff.mpr hw
      rw [if_neg fun h => h.2.1 hw]
      omega
    · by_cases hgone : .refreshOne i ∈ refused τ
      · have hpos := List.count_pos_iff.mpr hgone
        rw [if_neg fun h => h.2.2 hgone]
        omega
      · rw [List.count_eq_zero_of_not_mem hw, List.count_eq_zero_of_not_mem hgone] at hcount
        rw [if_pos ⟨hconn, hw, hgone⟩]
        omega
  · rw [if_neg hconn] at hcount
    rw [if_neg fun h => hconn h.1]
    omega

/-- The first of four locks, to the end of its refresh. -/
def oneRefreshed : List (LoopsLabel 4) := threeBegin ++ List.replicate 5 (.reply 0 sampleGrant)

theorem fill_once_four :
    (∃ τ' P', Run loopStep (alone (fourLocks 0)) τ' P' ∧
      (play step (setUp fourLocks) oneRefreshed).2.shared.data 0 = P'.shared ∧
      (starts τ').Perm [.refresh]) ∧
    ∃ τ' P', Run loopStep (alone (fourLocks 3)) τ' P' ∧
      (play step (setUp fourLocks) oneRefreshed).2.shared.data 3 = P'.shared ∧
      (starts τ').Perm [] :=
  have hfill : filled (play step (setUp fourLocks) oneRefreshed).1 =
      fillLockDetails (connectableLocks fourLocks) := by decide
  ⟨fill_once (run_play (setUp fourLocks) oneRefreshed) hfill 0,
    fill_once (run_play (setUp fourLocks) oneRefreshed) hfill 3⟩

end TTLockConnect.Setup.Fill
