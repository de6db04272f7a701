import TTLockConnect.Coordinator.Writers

/-! # What a poll or a code refresh does to the fields it has not fetched

A task that copies the data when it starts and replaces them when it ends puts the fields it has not
fetched back to their values at the copy. So it keeps what the other writers have given them exactly
if none of these fields differs from the copy when the task ends. -/

namespace TTLockConnect.Coordinator.Overwrite

open TTLockConnect.Text TTLockConnect.Models TTLockConnect.Api TTLockConnect.Coordinator.State
open TTLockConnect.Coordinator.Poll TTLockConnect.Coordinator.Fields
open TTLockConnect.Coordinator.Readings TTLockConnect.Coordinator.Writers
open TTLockConnect.Async.EventLoop TTLockConnect.Async.Runs

/-- One step of the event loop of a coordinator. -/
abbrev loopStep : Loop → LoopLabel → Option Loop := fun P l => P.step prog l

/-- A coordinator on its own. -/
abbrev alone (c : LockUpdateCoordinator) : Loop := ⟨c, []⟩

/-- A task that has ended. -/
abbrev EndedTask := Ended LockUpdateCoordinator Reply PyError Job

/-- The poll or code refresh that the move ends. -/
def finished (m : Move Loop LoopLabel) : Option EndedTask :=
  (m.src.ended prog m.label).filter fun e => Job.copies e.job

/-- What the task has not fetched is, behind the move, what it was in front of it. -/
def KeepsUnfetched (m : Move Loop LoopLabel) (e : EndedTask) : Prop :=
  ∀ f, ¬ Fetched e.log f → Same m.src.shared.data m.dst.shared.data f

/-- If the task replaces the data: what it has not fetched is, in front of the move, what it was in
the task's copy. -/
def CopyUpToDate (m : Move Loop LoopLabel) (e : EndedTask) : Prop :=
  Replaced e.result m.dst.shared →
    ∀ f, ¬ Fetched e.log f → Same e.born.data m.src.shared.data f

instance (m : Move Loop LoopLabel) (e : EndedTask) : Decidable (KeepsUnfetched m e) :=
  inferInstanceAs (Decidable (∀ _, _ → _))

instance (r : Except PyError Unit) (c : LockUpdateCoordinator) : Decidable (Replaced r c) :=
  inferInstanceAs (Decidable (_ ∧ _))

instance (m : Move Loop LoopLabel) (e : EndedTask) : Decidable (CopyUpToDate m e) :=
  inferInstanceAs (Decidable (_ → ∀ _, _ → _))

variable {c : LockUpdateCoordinator} {τ : List (Move Loop LoopLabel)} {P : Loop}
  {m : Move Loop LoopLabel} {e : EndedTask} {gateway : Bool}

theorem new_inv (h : c.IsNew) : Inv c.hasGateway c := by
  obtain ⟨name, mac, features, hd⟩ := h.data
  refine ⟨rfl, ?_⟩
  rw [hd]
  exact ⟨fun _ => rfl, fun _ => rfl⟩

/-- What is known of every task that ends in a run. -/
theorem ended_post (h : c.IsNew) (hr : Run loopStep (alone c) τ P) (hm : m ∈ τ)
    (he : m.src.ended prog m.label = some e) :
    Post c.hasGateway e.job e.born e.log m.src.shared m.dst.shared e.result := by
  have hrun := (Pool.run_spec (fun w s => prog_sat w s) (fun _ _ _ _ _ _ hp => hp.inv) (new_inv h)
    hr m hm).2
  rw [he] at hrun
  exact hrun

theorem keepsUnfetched_iff (hw : Job.copies e.job = true)
    (hp : Post gateway e.job e.born e.log m.src.shared m.dst.shared e.result) :
    KeepsUnfetched m e ↔ CopyUpToDate m e := by
  by_cases hrep : Replaced e.result m.dst.shared
  · have hc := (hp.replaced hw hrep).same
    constructor
    · intro hk _ f hf
      exact (hc f hf).trans (hk f hf).symm
    · intro hu f hf
      exact (hu hrep f hf).symm.trans (hc f hf)
  · -- a run that fails leaves the data alone
    refine ⟨fun _ h => absurd h hrep, fun _ f _ => ?_⟩
    rw [hp.kept hw hrep]
    exact Same.refl _ f

/-- **When no update is lost.** In a run of the event loop every poll and every code refresh keeps
what the other writers have made of the fields it has not fetched, if and only if whenever one of
them replaces the data, none of these fields has come to differ from its copy. -/
theorem finished_keepsUnfetched_iff (h : c.IsNew) (hr : Run loopStep (alone c) τ P) :
    (∀ m ∈ τ, ∀ e ∈ finished m, KeepsUnfetched m e) ↔
      ∀ m ∈ τ, ∀ e ∈ finished m, CopyUpToDate m e := by
  refine forall_congr' fun m => forall_congr' fun hm => forall_congr' fun e => ?_
  refine forall_congr' fun he => ?_
  obtain ⟨he, hw⟩ := Option.filter_eq_some_iff.mp he
  exact keepsUnfetched_iff hw (ended_post h hr hm he)

/-! ### A poll and an unlock -/

def sampleDetails : Lock where
  name := "Front door"
  mac := "C0:FF:EE:00:00:01"
  model := some "KT170"
  featureValue := none
  batteryLevel := some 90
  hardwareRevision := none
  firmwareRevision := none
  autoLockTime := some 10
  lockSound := .on
  lockVersion := none
  aesKeyStr := none

/-- A cloud on which every call succeeds. -/
def sampleReply : (q : Request) → Except PyError (Reply q)
  | .detail _ => .ok sampleDetails
  | .doorSensor _ => .ok ⟨some 80⟩
  | .queryOpenState _ => .ok ⟨.int 0, .absent⟩
  | .passageModeConfig _ => .ok ⟨.off, 0, 0, .off, [], .off⟩
  | .listByLock _ => .ok []
  | .listKeyboardPwd _ => .ok []
  | .listKey _ => .ok []
  | .lock _ | .unlock _ | .setAutoLockTime _ _ | .updateSetting _ _ => .ok ⟨some 0⟩
  | .queryLockStatus _ _ _ _ => .error .bleNotInRange
  | .storeLoad | .storeSave | .sleep _ => .ok ()

/-- A coordinator without Bluetooth, for a lock on WiFi, as it is created. -/
def sampleCoordinator : LockUpdateCoordinator where
  lockId := 1
  connectable := true
  hasGateway := false
  slowInterval := Duration.ofHours 12
  slowInterval_pos := by decide
  webhookOnly := false
  bluetoothAvailable := false
  data := { name := "Front door", mac := "C0:FF:EE:00:00:01" }
  now := ⟨0, 0⟩

theorem sampleCoordinator_isNew : sampleCoordinator.IsNew :=
  ⟨⟨_, _, _, rfl⟩, rfl, rfl, rfl, rfl⟩

/-- `unlock by app`. -/
def sampleUnlock : WebhookEvent where
  id := 1
  mac := "C0:FF:EE:00:00:01"
  batteryLevel := some 80
  serverTs := ⟨0, 0⟩
  lockTs := ⟨0, 0⟩
  event := ⟨1, by decide⟩
  user := some "anna"
  success := true

/-- A poll during which `anna` unlocks the lock. -/
def unlockDuringPoll : List LoopLabel :=
  [.start .refresh, .reply 0 sampleReply, .start (.webhook sampleUnlock), .reply 0 sampleReply,
    .reply 0 sampleReply, .reply 0 sampleReply, .reply 0 sampleReply]

/-- `anna` unlocks the lock, and then comes a poll. -/
def unlockBeforePoll : List LoopLabel :=
  [.start (.webhook sampleUnlock), .start .refresh, .reply 0 sampleReply, .reply 0 sampleReply,
    .reply 0 sampleReply, .reply 0 sampleReply, .reply 0 sampleReply]

/-- **A lost update**: the poll's copy is from before the unlock, and the user is gone. -/
theorem unlock_during_poll_lost :
    ¬ ∀ (c : LockUpdateCoordinator) (τ : List (Move Loop LoopLabel)) (P : Loop), c.IsNew →
      Run loopStep (alone c) τ P → ∀ m ∈ τ, ∀ e ∈ finished m, KeepsUnfetched m e := by
  intro h
  have hkeeps := h _ _ _ sampleCoordinator_isNew
    (run_play (alone sampleCoordinator) unlockDuringPoll)
  revert hkeeps
  decide

/-- An unlock in front of the poll is kept. -/
theorem unlock_before_poll_kept :
    (play loopStep (alone sampleCoordinator) unlockBeforePoll).1.length = unlockBeforePoll.length ∧
      ∀ m ∈ (play loopStep (alone sampleCoordinator) unlockBeforePoll).1, ∀ e ∈ finished m,
        KeepsUnfetched m e :=
  ⟨by decide, (finished_keepsUnfetched_iff sampleCoordinator_isNew (run_play _ _)).mpr (by decide)⟩

end TTLockConnect.Coordinator.Overwrite
