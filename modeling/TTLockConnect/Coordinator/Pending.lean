import TTLockConnect.Coordinator.Overwrite

/-! # The flag of a command in flight

`lock_action` raises `data.action_pending` while a command runs. The flag is exact at first, and a
move keeps it exact except in two cases: a command leaves while another one is in flight, or a poll
or a code refresh replaces the data although a command has entered or left since its copy. -/

namespace TTLockConnect.Coordinator.Pending

open TTLockConnect.Text TTLockConnect.Models TTLockConnect.Api TTLockConnect.Coordinator.State
open TTLockConnect.Coordinator.Poll TTLockConnect.Coordinator.Fields
open TTLockConnect.Coordinator.Readings TTLockConnect.Coordinator.Writers
open TTLockConnect.Coordinator.Overwrite
open TTLockConnect.Async.EventLoop TTLockConnect.Async.Runs

/-- A task in flight. -/
abbrev LoopTask := Task LockUpdateCoordinator Request Reply PyError Job

/-- Among these tasks is a `lock()` or an `unlock()`. -/
def CommandIn (ts : List LoopTask) : Prop := ∃ t ∈ ts, Job.commands t.job = true

/-- **The flag is exact**: it is up if and only if a command is in flight. -/
def FlagExact (P : Loop) : Prop := P.shared.data.actionPending = true ↔ CommandIn P.tasks

/-- The tasks that a move does not concern. -/
def otherTasks (P : Loop) : LoopLabel → List LoopTask
  | .start _ => P.tasks
  | .reply i _ => P.tasks.eraseIdx i

/-- The moves that keep the flag exact: a command leaves last, and a poll or a code refresh that
replaces the data has copied the flag of a command that is still, or of none that is now, in
flight. -/
def KeepsFlag (P : Loop) (l : LoopLabel) : Prop :=
  ∀ e ∈ P.ended prog l,
    (Job.commands e.job = true → ¬ CommandIn (otherTasks P l)) ∧
    (Job.copies e.job = true → ∀ P', P.step prog l = some P' → Replaced e.result P'.shared →
      (e.born.data.actionPending = true ↔ CommandIn (otherTasks P l)))

variable {ts : List LoopTask} {t : LoopTask} {i : ℕ} {gateway : Bool} {P P' : Loop}
  {l : LoopLabel} {c : LockUpdateCoordinator}

/-! ### Commands among the tasks -/

theorem commandIn_append : CommandIn (ts ++ [t]) ↔ CommandIn ts ∨ Job.commands t.job = true := by
  simp [CommandIn, or_and_right, exists_or]

/-- A task that waits again is still the same command, or still none. -/
theorem commandIn_set {u : LoopTask} (hi : ts[i]? = some t) (hu : u.job = t.job) :
    CommandIn (ts.set i u) ↔ CommandIn ts := by
  obtain ⟨hlt, ht⟩ := List.getElem?_eq_some_iff.mp hi
  constructor
  · rintro ⟨v, hv, hc⟩
    rcases List.mem_or_eq_of_mem_set hv with hv | rfl
    · exact ⟨v, hv, hc⟩
    · exact ⟨t, List.mem_of_getElem? hi, hu ▸ hc⟩
  · rintro ⟨v, hv, hc⟩
    obtain ⟨j, hj, rfl⟩ := List.mem_iff_getElem.mp hv
    by_cases hij : i = j
    · subst hij
      refine ⟨u, List.mem_set hlt u, ?_⟩
      rw [hu, ← ht]
      exact hc
    · refine ⟨ts[j], List.mem_iff_getElem.mpr ⟨j, by simpa using hj, ?_⟩, hc⟩
      exact List.getElem_set_ne hij _

/-- A task that is no command ends. -/
theorem commandIn_eraseIdx (hi : ts[i]? = some t) (ht : Job.commands t.job = false) :
    CommandIn (ts.eraseIdx i) ↔ CommandIn ts := by
  constructor
  · rintro ⟨v, hv, hc⟩
    exact ⟨v, List.mem_of_mem_eraseIdx hv, hc⟩
  · rintro ⟨v, hv, hc⟩
    obtain ⟨j, hj, rfl⟩ := List.mem_iff_getElem.mp hv
    refine ⟨ts[j], List.mem_eraseIdx_iff_getElem.mpr ⟨j, hj, ?_, rfl⟩, hc⟩
    rintro rfl
    obtain ⟨_, ht'⟩ := List.getElem?_eq_some_iff.mp hi
    rw [ht', ht] at hc
    cases hc

/-! ### One move -/

/-- A task ends, with the other tasks `ts` in flight: where the flag stands then. -/
theorem ended_flagExact_iff {e : EndedTask} {s s' : LockUpdateCoordinator}
    (hp : Post gateway e.job e.born e.log s s' e.result)
    (hg : Job.commands e.job = false → (s.data.actionPending = true ↔ CommandIn ts)) :
    (s'.data.actionPending = true ↔ CommandIn ts) ↔
      (Job.commands e.job = true → ¬ CommandIn ts) ∧
      (Job.copies e.job = true → Replaced e.result s' →
        (e.born.data.actionPending = true ↔ CommandIn ts)) := by
  by_cases hc : Job.commands e.job = true
  · have hcop : Job.copies e.job = false := by
      revert hc
      cases e.job <;> simp [Job.commands, Job.copies]
    rw [hp.command hc]
    simp [hc, hcop]
  · rw [Bool.not_eq_true] at hc
    by_cases hcop : Job.copies e.job = true
    · by_cases hrep : Replaced e.result s'
      · have hsame : e.born.data.actionPending = s'.data.actionPending :=
          (hp.replaced hcop hrep).same .actionPending (not_fetched _ (.inl rfl))
        simp [hc, hcop, hrep, hsame]
      · rw [hp.kept hcop hrep]
        simp [hc, hrep, hg hc]
    · rw [hp.other hcop (by simp [hc])]
      simp [hc, hcop, hg hc]

/-- Where the flag stands behind a segment that ends in an `await`. -/
theorem guarantee_pending {w : Job} {s s' : LockUpdateCoordinator} (h : Guarantee w s s') :
    s'.data.actionPending = (Job.commands w || s.data.actionPending) := by
  unfold Guarantee at h
  rw [h]
  split_ifs with hw
  · rw [hw, Bool.true_or]
  · rw [Bool.eq_false_iff.mpr hw, Bool.false_or]

/-- **One move** of the event loop, from a state with an exact flag. -/
theorem step_flagExact_iff (hP : Pool.Inv (Inv gateway) Guarantee (Post gateway) P)
    (hg : FlagExact P) (h : P.step prog l = some P') : FlagExact P' ↔ KeepsFlag P l := by
  have hk := (Pool.step_spec (fun w s => prog_sat w s) (fun _ _ _ _ _ _ hp => hp.inv) hP h).2
  have hm := Pool.moved_of_step h
  unfold KeepsFlag
  simp only [h, Option.some.injEq, forall_eq']
  generalize P.ended prog l = e at hm hk
  cases hm with
  | through hadv =>
    simp only [Option.mem_def, Option.some.injEq, forall_eq']
    exact ended_flagExact_iff hk fun _ => hg
  | @ended i ans t r s hi hadv =>
    simp only [Option.mem_def, Option.some.injEq, forall_eq']
    exact ended_flagExact_iff hk fun ht => hg.trans (commandIn_eraseIdx hi ht).symm
  | @started w s q k hadv =>
    have hs := Pool.start_spec (fun w s => prog_sat w s) hP w
    rw [hadv] at hs
    have hd := guarantee_pending hs.2.1
    refine iff_of_true ?_ fun e he => absurd he (Option.not_mem_none e)
    refine Iff.trans ?_ commandIn_append.symm
    rw [← hg.eq, hd, Bool.or_eq_true, or_comm]
  | @moved i ans t s q k hi hadv =>
    have hs := Pool.reply_spec hP hi (ans t.req)
    rw [hadv] at hs
    have hd := guarantee_pending hs.2.1
    refine iff_of_true ?_ fun e he => absurd he (Option.not_mem_none e)
    refine Iff.trans ?_ (commandIn_set hi ?_).symm
    · rw [← hg.eq, hd, Bool.or_eq_true]
      exact or_iff_right_of_imp fun hw => hg.mpr ⟨t, List.mem_of_getElem? hi, hw⟩
    · rfl

/-! ### Runs -/

theorem new_flagExact (h : c.IsNew) : FlagExact (alone c) := by
  obtain ⟨name, mac, features, hd⟩ := h.data
  unfold FlagExact
  rw [hd]
  simp [CommandIn]

/-- **When the flag is exact.** In a run of the event loop the flag is exact in every state reached,
if and only if every command leaves as the last one in flight, and every poll or code refresh that
replaces the data has copied a flag that is right when it does. -/
theorem run_flagExact_iff {τ : List (Move Loop LoopLabel)} (h : c.IsNew)
    (hr : Run loopStep (alone c) τ P) :
    (∀ m ∈ τ, FlagExact m.dst) ↔ ∀ m ∈ τ, KeepsFlag m.src m.label := by
  refine hr.good_iff (Pool.Inv (Inv c.hasGateway) Guarantee (Post c.hasGateway)) FlagExact KeepsFlag
    ⟨new_inv h, by simp⟩ (new_flagExact h) ?_ ?_
  · intro P l P' hP _ hs
    exact (Pool.step_spec (fun w s => prog_sat w s) (fun _ _ _ _ _ _ hp => hp.inv) hP hs).1
  · intro P l P' hP hg hs
    exact step_flagExact_iff hP hg hs

/-! ### An unlock and a poll -/

instance (ts : List LoopTask) : Decidable (CommandIn ts) :=
  inferInstanceAs (Decidable (∃ t ∈ ts, _ = _))

instance (P : Loop) : Decidable (FlagExact P) := inferInstanceAs (Decidable (_ ↔ _))

instance (P : Loop) (l : LoopLabel) : Decidable (KeepsFlag P l) :=
  decidable_of_iff (∀ e ∈ P.ended prog l,
    (Job.commands e.job = true → ¬ CommandIn (otherTasks P l)) ∧
    (Job.copies e.job = true → ∀ P' ∈ P.step prog l, Replaced e.result P'.shared →
      (e.born.data.actionPending = true ↔ CommandIn (otherTasks P l)))) Iff.rfl

/-- An unlock that is over before the poll that began during it. -/
def unlockUnderPoll : List LoopLabel :=
  [.start .unlock, .start .refresh, .reply 0 sampleReply, .reply 0 sampleReply,
    .reply 0 sampleReply, .reply 0 sampleReply, .reply 0 sampleReply, .reply 0 sampleReply]

/-- **A stuck flag**: the poll puts back the flag it has copied. -/
theorem unlock_under_poll_stuck :
    ¬ ∀ (c : LockUpdateCoordinator) (τ : List (Move Loop LoopLabel)) (P : Loop), c.IsNew →
      Run loopStep (alone c) τ P → ∀ m ∈ τ, FlagExact m.dst := by
  intro h
  have hexact := h _ _ _ sampleCoordinator_isNew
    (run_play (alone sampleCoordinator) unlockUnderPoll)
  revert hexact
  decide

/-- A poll, and an unlock behind it. -/
def unlockAfterPoll : List LoopLabel :=
  [.start .refresh, .reply 0 sampleReply, .reply 0 sampleReply, .reply 0 sampleReply,
    .reply 0 sampleReply, .reply 0 sampleReply, .start .unlock, .reply 0 sampleReply]

theorem unlock_after_poll_exact :
    (play loopStep (alone sampleCoordinator) unlockAfterPoll).1.length = unlockAfterPoll.length ∧
      ∀ m ∈ (play loopStep (alone sampleCoordinator) unlockAfterPoll).1, FlagExact m.dst :=
  ⟨by decide, (run_flagExact_iff sampleCoordinator_isNew (run_play _ _)).mpr (by decide)⟩

end TTLockConnect.Coordinator.Pending
