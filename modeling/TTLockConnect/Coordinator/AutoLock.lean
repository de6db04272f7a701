import TTLockConnect.Async.Timers
import TTLockConnect.Coordinator.Overwrite

/-! # The auto-lock tasks

Every unlock event that finds auto-lock switched on schedules a task of its own, which sleeps for the
delay less the age of the message and then reports the lock as locked. Later unlocks and a switch-off
leave the tasks alone, so what such a task reports is out of date if one of these has come since. -/

namespace TTLockConnect.Coordinator.AutoLock

open TTLockConnect.Text TTLockConnect.Models TTLockConnect.Api TTLockConnect.Coordinator.State
open TTLockConnect.Coordinator.Poll TTLockConnect.Coordinator.Overwrite
open TTLockConnect.Async.Coroutine TTLockConnect.Async.Coroutine.Coro
open TTLockConnect.Async.Runs TTLockConnect.Async.Timers

/-! ### The coordinator and its tasks -/

/-- What is done to the coordinator: a webhook event, a successful `lock()` or `unlock()`, and a
`set_auto_lock` with the reply it gets. -/
inductive Act where
  | webhook (event : WebhookEvent)
  | lock
  | unlock
  | setAutoLock (on : Bool) (res : Except PyError CommandBody)

/-- The cloud gives this reply to a command. -/
def answering (res : Except PyError CommandBody) :
    (q : Request) → LockUpdateCoordinator → Except PyError (Reply q) × LockUpdateCoordinator
  | .lock _, c => (res, c)
  | .unlock _, c => (res, c)
  | .setAutoLockTime _ _, c => (res, c)
  | _, c => (.error .cancelled, c)

/-- The command, alone, with this reply. -/
def commanded (p : Method Unit) (res : Except PyError CommandBody) (c : LockUpdateCoordinator) :
    LockUpdateCoordinator := (p.run (answering res) c).2

/-- How long the task of `_handle_auto_lock` sleeps. -/
def autoLockSleep (seconds : ℤ) (offset : Duration) : Duration :=
  if 0 < seconds ∧ 0 < Duration.ofSeconds seconds - offset then Duration.ofSeconds seconds - offset
  else 0

/-- The actions on the coordinator and the auto-lock tasks. -/
def autoLock : Component LockUpdateCoordinator Act (ℤ × Duration) where
  act c
    | .webhook event =>
      ((processWebhookData event c).1,
        (processWebhookData event c).2.map fun t => (autoLockSleep t.1 t.2, t))
    | .lock => (commanded Poll.lock (.ok ⟨some 0⟩) c, none)
    | .unlock => (commanded Poll.unlock (.ok ⟨some 0⟩) c, none)
    | .setAutoLock on res => (commanded (Poll.setAutoLock on) res c, none)
  fire _ c := setUpdatedData (autoLockedData c.data) c

/-- The task sleeps first, if at all, and then does what `autoLock.fire` says. -/
theorem autoLocked_eq (seconds : ℤ) (offset : Duration) :
    autoLocked seconds offset =
      if autoLockSleep seconds offset = 0 then modify (autoLock.fire (seconds, offset))
      else (do
        request (.sleep (autoLockSleep seconds offset))
        modify (autoLock.fire (seconds, offset))) := by
  unfold autoLocked autoLockSleep
  by_cases h : 0 < seconds ∧ 0 < Duration.ofSeconds seconds - offset
  · rw [if_pos h, if_pos h, if_neg (Int.ne_of_gt h.2)]
    rfl
  · rw [if_neg h, if_neg h, if_pos rfl]
    rfl

/-- The cloud has accepted the command. -/
def isAccepted : Except PyError CommandBody → Bool
  | .ok body => body.accepted
  | .error _ => false

/-- An unlock of this lock is processed, or auto-lock is switched off. -/
def Disturbs (c : LockUpdateCoordinator) : Act → Prop
  | .webhook event =>
    event.id = c.lockId ∧ event.success = true ∧ event.state.locked = some .unlocked
  | .lock => False
  | .unlock => True
  | .setAutoLock on res => on = false ∧ isAccepted res = true

instance : ∀ (c : LockUpdateCoordinator) (a : Act), Decidable (Disturbs c a)
  | _, .webhook _ => inferInstanceAs (Decidable (_ ∧ _))
  | _, .lock => inferInstanceAs (Decidable False)
  | _, .unlock => inferInstanceAs (Decidable True)
  | _, .setAutoLock _ _ => inferInstanceAs (Decidable (_ ∧ _))

/-- A state of the coordinator and its tasks. -/
abbrev Watch := Timed LockUpdateCoordinator Act (ℤ × Duration)

instance (s : Watch) (t : Timer (ℤ × Duration)) : Decidable (s.Fresh Disturbs t) :=
  inferInstanceAs (Decidable (∀ a ∈ s.since t, ¬ Disturbs a.1 a.2))

instance (s : Watch) : ∀ l, Decidable (Quiet Disturbs s l)
  | .act a => inferInstanceAs (Decidable (Disturbs s.shared a → s.pending = []))
  | .tick _ => .isTrue trivial
  | .fire _ => .isTrue trivial

/-! ### Runs -/

variable {c : LockUpdateCoordinator} {clock : ℤ} {s : Watch} {τ : List (Move Watch (Label Act))}

/-- **When no auto-lock task is stale.** If every unlock and every switch-off of auto-lock is
processed while no auto-lock task is pending, then whenever a task fires and reports the lock as
locked, no unlock and no switch-off has come since the unlock event that scheduled it. In a run at
the end of which all tasks have fired there is no other way. -/
theorem run_noStale (hr : Run autoLock.step (Timed.start c clock) τ s) :
    ((∀ m ∈ τ, Quiet Disturbs m.src m.label) → NoStale Disturbs τ) ∧
      (s.pending = [] → NoStale Disturbs τ → ∀ m ∈ τ, Quiet Disturbs m.src m.label) :=
  ⟨noStale_of_quiet hr, fun hp => (noStale_iff_quiet hr hp).mp⟩

/-! ### Two unlocks -/

/-- `sampleCoordinator`, for a lock that locks itself after ten seconds. -/
def autoLocking : LockUpdateCoordinator :=
  { sampleCoordinator with data := { sampleCoordinator.data with autoLockSeconds := some 10 } }

/-- The lock is unlocked again while the first unlock's task sleeps. -/
def unlockedAgain : List (Label Act) :=
  [.act (.webhook sampleUnlock), .tick (Duration.ofSeconds 5), .act .unlock,
    .tick (Duration.ofSeconds 10), .fire 0]

/-- The lock is unlocked again when the task has fired. -/
def unlockedLater : List (Label Act) :=
  [.act (.webhook sampleUnlock), .tick (Duration.ofSeconds 10), .fire 0, .act .unlock]

/-- **A lock that is unlocked is reported as locked**, five seconds too early. -/
theorem second_unlock_stale :
    ¬ ∀ (c : LockUpdateCoordinator) (clock : ℤ) (τ : List (Move Watch (Label Act))) (s : Watch),
      Run autoLock.step (Timed.start c clock) τ s → NoStale Disturbs τ := by
  intro h
  have hstale := h autoLocking 0 _ _ (run_play _ unlockedAgain)
  revert hstale
  unfold NoStale
  decide

/-- One unlock after the other. -/
theorem later_unlock_noStale :
    NoStale Disturbs (play autoLock.step (Timed.start autoLocking 0) unlockedLater).1 := by
  refine (run_noStale (run_play _ _)).1 ?_
  decide

end TTLockConnect.Coordinator.AutoLock
