import TTLockConnect.Async.Runs
import Mathlib.Data.Int.Notation
import Mathlib.Tactic.ByContra
import Mathlib.Tactic.SplitIfs

/-! # Tasks that sleep and are never cancelled

A component acts on a shared state, and an action may schedule a task that sleeps for some time and
then acts too. Nothing cancels a task. What has been done since a task was scheduled is what the
history has got behind it; a task is stale when something in there disturbs it.

No task fires stale if every action that disturbs tasks is done while none is pending, and where all
tasks have fired in the end there is no other way. -/

namespace TTLockConnect.Async.Timers

open TTLockConnect.Async.Runs

/-- A task that sleeps. -/
structure Timer (T : Type) where
  task : T
  wakes : ℤ
  /-- How much had been done when it was scheduled. -/
  born : ℕ
  deriving DecidableEq, Repr

/-- The shared state, with the clock, what has been done so far and the tasks that sleep. -/
structure Timed (S L T : Type) where
  shared : S
  clock : ℤ
  history : List (S × L)
  pending : List (Timer T)

/-- What may happen next. -/
inductive Label (L : Type) where
  | act (l : L)
  | tick (clock : ℤ)
  | fire (i : ℕ)
  deriving DecidableEq, Repr

/-- What the actions and the tasks do: an action gives the state behind it, and the task it schedules
with the time that one sleeps. -/
structure Component (S L T : Type) where
  act : S → L → S × Option (ℤ × T)
  fire : T → S → S

variable {S L T : Type}

/-- Behind an action. -/
def Component.acted (C : Component S L T) (s : Timed S L T) (l : L) : Timed S L T where
  shared := (C.act s.shared l).1
  clock := s.clock
  history := s.history ++ [(s.shared, l)]
  pending := s.pending ++ ((C.act s.shared l).2.map fun t =>
    ⟨t.2, s.clock + t.1, s.history.length + 1⟩).toList

/-- A task may fire at any time from when it wakes. -/
def Component.step (C : Component S L T) (s : Timed S L T) : Label L → Option (Timed S L T)
  | .act l => some (C.acted s l)
  | .tick clock => if s.clock ≤ clock then some { s with clock := clock } else none
  | .fire i =>
    match s.pending[i]? with
    | some t =>
      if t.wakes ≤ s.clock then
        some { s with shared := C.fire t.task s.shared, pending := s.pending.eraseIdx i }
      else none
    | none => none

/-- The task that the move wakes. -/
def fired (m : Move (Timed S L T) (Label L)) : Option (Timer T) :=
  match m.label with
  | .fire i => m.src.pending[i]?
  | _ => none

/-- What has been done since the task was scheduled. -/
def Timed.since (s : Timed S L T) (t : Timer T) : List (S × L) := s.history.drop t.born

section Stale
variable (D : S → L → Prop)

/-- Nothing that disturbs the task has been done since it was scheduled. -/
def Timed.Fresh (s : Timed S L T) (t : Timer T) : Prop := ∀ a ∈ s.since t, ¬ D a.1 a.2

/-- What disturbs tasks is done only while none is pending. -/
def Quiet (s : Timed S L T) : Label L → Prop
  | .act l => D s.shared l → s.pending = []
  | _ => True

/-- Every task that fires is fresh. -/
def NoStale (τ : List (Move (Timed S L T) (Label L))) : Prop :=
  ∀ m ∈ τ, ∀ t ∈ fired m, m.src.Fresh D t

/-- Every task was scheduled in the past. -/
def Timed.Born (s : Timed S L T) : Prop := ∀ t ∈ s.pending, t.born ≤ s.history.length

end Stale

/-- Nothing done, nothing pending. -/
def Timed.start (shared : S) (clock : ℤ) : Timed S L T := ⟨shared, clock, [], []⟩

variable {C : Component S L T} {D : S → L → Prop} {s s' : Timed S L T} {l : Label L}
  {τ : List (Move (Timed S L T) (Label L))} {t : Timer T}

/-! ### One step -/

/-- What a step can do. -/
theorem step_cases (h : C.step s l = some s') :
    (∃ a, l = .act a ∧ s' = C.acted s a) ∨
    (∃ clock, l = .tick clock ∧ s.clock ≤ clock ∧ s' = { s with clock := clock }) ∨
    ∃ i t, l = .fire i ∧ s.pending[i]? = some t ∧ t.wakes ≤ s.clock ∧
      s' = { s with shared := C.fire t.task s.shared, pending := s.pending.eraseIdx i } := by
  cases l with
  | act a =>
    simp only [Component.step, Option.some.injEq] at h
    exact .inl ⟨a, rfl, h.symm⟩
  | tick clock =>
    simp only [Component.step] at h
    split_ifs at h with hc
    simp only [Option.some.injEq] at h
    exact .inr (.inl ⟨clock, rfl, hc, h.symm⟩)
  | fire i =>
    simp only [Component.step] at h
    split at h
    · rename_i t ht
      split_ifs at h with hc
      simp only [Option.some.injEq] at h
      exact .inr (.inr ⟨i, t, rfl, ht, hc, h.symm⟩)
    · cases h

theorem mem_acted_pending {a : L} (ht : t ∈ (C.acted s a).pending) :
    t ∈ s.pending ∨ t.born = s.history.length + 1 := by
  rcases List.mem_append.mp ht with ht | ht
  · exact .inl ht
  · rw [Option.mem_toList, Option.map_eq_some_iff] at ht
    obtain ⟨d, -, rfl⟩ := ht
    exact .inr rfl

theorem since_acted {a : L} (h : t.born ≤ s.history.length) :
    (C.acted s a).since t = s.since t ++ [(s.shared, a)] := by
  unfold Timed.since Component.acted
  rw [List.drop_append_of_le_length h]

theorem fresh_acted_iff {a : L} (h : t.born ≤ s.history.length) :
    (C.acted s a).Fresh D t ↔ s.Fresh D t ∧ ¬ D s.shared a := by
  unfold Timed.Fresh
  rw [since_acted h, List.forall_mem_append, List.forall_mem_singleton]

/-- A task just scheduled is fresh. -/
theorem fresh_new {a : L} (h : t.born = s.history.length + 1) : (C.acted s a).Fresh D t := by
  intro x hx
  have hlen : (C.acted s a).history.length = t.born := by simp [Component.acted, h]
  rw [Timed.since, ← hlen, List.drop_length] at hx
  cases hx

theorem step_born (hb : s.Born) (h : C.step s l = some s') : s'.Born := by
  obtain ⟨a, -, rfl⟩ | ⟨clock, -, -, rfl⟩ | ⟨i, t, -, -, -, rfl⟩ := step_cases h
  · intro t ht
    have hlen : (C.acted s a).history.length = s.history.length + 1 := by simp [Component.acted]
    rw [hlen]
    rcases mem_acted_pending ht with ht | ht
    · have := hb t ht
      omega
    · omega
  · exact hb
  · intro u hu
    exact hb u (List.mem_of_mem_eraseIdx hu)

/-- **A quiet step keeps all tasks fresh.** -/
theorem step_fresh (hb : s.Born) (hf : ∀ t ∈ s.pending, s.Fresh D t) (hq : Quiet D s l)
    (h : C.step s l = some s') : ∀ t ∈ s'.pending, s'.Fresh D t := by
  obtain ⟨a, rfl, rfl⟩ | ⟨clock, -, -, rfl⟩ | ⟨i, t, -, -, -, rfl⟩ := step_cases h
  · intro t ht
    rcases mem_acted_pending ht with hold | hnew
    · rw [fresh_acted_iff (hb t hold)]
      refine ⟨hf t hold, fun hd => ?_⟩
      rw [hq hd] at hold
      cases hold
    · exact fresh_new hnew
  · exact hf
  · intro u hu
    exact hf u (List.mem_of_mem_eraseIdx hu)

/-- **A stale task stays** as long as only fresh ones fire. -/
theorem step_stale (hb : s.Born) (ht : ∃ t ∈ s.pending, ¬ s.Fresh D t)
    (hf : ∀ t ∈ fired ⟨s, l, s'⟩, s.Fresh D t) (h : C.step s l = some s') :
    ∃ t ∈ s'.pending, ¬ s'.Fresh D t := by
  obtain ⟨t, ht, hstale⟩ := ht
  obtain ⟨a, -, rfl⟩ | ⟨clock, -, -, rfl⟩ | ⟨i, u, rfl, hu, -, rfl⟩ := step_cases h
  · refine ⟨t, List.mem_append_left _ ht, fun hfresh => hstale ?_⟩
    exact ((fresh_acted_iff (hb t ht)).mp hfresh).1
  · exact ⟨t, ht, hstale⟩
  · -- the one that fires is fresh, so it is another one
    have hne : t ≠ u := fun he => hstale (he ▸ hf u hu)
    obtain ⟨j, hj⟩ := List.mem_iff_getElem?.mp ht
    have hji : j ≠ i := by
      intro he
      rw [he, hu] at hj
      exact hne (Option.some.inj hj).symm
    exact ⟨t, List.mem_eraseIdx_iff_getElem?.mpr ⟨j, hji, hj⟩, hstale⟩

/-- **A step that is not quiet makes a task stale.** -/
theorem step_disturbs (hb : s.Born) (hq : ¬ Quiet D s l) (h : C.step s l = some s') :
    ∃ t ∈ s'.pending, ¬ s'.Fresh D t := by
  obtain ⟨a, rfl, rfl⟩ | ⟨clock, rfl, -, rfl⟩ | ⟨i, t, rfl, -, -, rfl⟩ := step_cases h
  · obtain ⟨hd, hne⟩ := Classical.not_imp.mp hq
    obtain ⟨t, ht⟩ := List.exists_mem_of_ne_nil _ hne
    refine ⟨t, List.mem_append_left _ ht, fun hfresh => ?_⟩
    exact ((fresh_acted_iff (hb t ht)).mp hfresh).2 hd
  · exact absurd trivial hq
  · exact absurd trivial hq

/-! ### Runs -/

variable {shared : S} {clock : ℤ}

theorem fired_mem {m : Move (Timed S L T) (Label L)} (h : t ∈ fired m) : t ∈ m.src.pending := by
  unfold fired at h
  split at h
  · exact List.mem_of_getElem? h
  · cases h

theorem start_born : (Timed.start shared clock : Timed S L T).Born := nofun

/-- **In a quiet run no task fires stale.** -/
theorem noStale_of_quiet (hr : Run C.step (Timed.start shared clock) τ s)
    (hq : ∀ m ∈ τ, Quiet D m.src m.label) : NoStale D τ := by
  have hinv := (hr.invariant_of (fun s => s.Born ∧ ∀ t ∈ s.pending, s.Fresh D t) (Quiet D)
    ⟨start_born, nofun⟩ (fun s l s' hi hq h => ⟨step_born hi.1 h, step_fresh hi.1 hi.2 hq h⟩) hq).2
  intro m hm t ht
  exact (hinv m hm).1.2 t (fired_mem ht)

/-- A run with a step that is not quiet and no stale task fired has one pending. -/
theorem stale_of_not_quiet (hr : Run C.step (Timed.start shared clock) τ s) (hf : NoStale D τ)
    (hq : ∃ m ∈ τ, ¬ Quiet D m.src m.label) : ∃ t ∈ s.pending, ¬ s.Fresh D t := by
  induction hr with
  | nil =>
    obtain ⟨m, hm, -⟩ := hq
    cases hm
  | @snoc τ s s' l hr hs ih =>
    have hb : s.Born := (hr.invariant Timed.Born start_born fun s l s' hb h => step_born hb h).1
    have hlast : ∀ t ∈ fired ⟨s, l, s'⟩, s.Fresh D t := hf ⟨s, l, s'⟩ (by simp)
    obtain ⟨m, hm, hmq⟩ := hq
    rcases List.mem_append.mp hm with hm | hm
    · have hstale := ih (fun m hm => hf m (List.mem_append_left _ hm)) ⟨m, hm, hmq⟩
      exact step_stale hb hstale hlast hs
    · rw [List.mem_singleton] at hm
      subst hm
      exact step_disturbs hb hmq hs

/-- **Where all tasks have fired**, none was stale if and only if the run was quiet. -/
theorem noStale_iff_quiet (hr : Run C.step (Timed.start shared clock) τ s) (hp : s.pending = []) :
    NoStale D τ ↔ ∀ m ∈ τ, Quiet D m.src m.label := by
  refine ⟨fun hf => ?_, noStale_of_quiet hr⟩
  by_contra hn
  simp only [not_forall] at hn
  obtain ⟨m, hm, hq⟩ := hn
  obtain ⟨t, ht, -⟩ := stale_of_not_quiet hr hf ⟨m, hm, hq⟩
  rw [hp] at ht
  cases ht

end TTLockConnect.Async.Timers
