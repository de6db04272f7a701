import TTLockConnect.Async.Coroutine
import TTLockConnect.Async.Runs

/-! # A pool of coroutines on one event loop

The state of an event loop: the shared state, and the tasks in flight, each suspended at an `await`.
A move either starts a job, which runs its first segment at once, or hands a task the reply to its
request, which runs the segment behind that `await`. Between two moves nothing happens, and which
move comes next is arbitrary: the runs of `step` are all interleavings of the jobs started.

`step_spec` is the soundness of the specifications of `Coroutine`: if every job meets its own, then
in every run the shared invariant holds, every segment keeps its guarantee, and every task ends in
its postcondition. -/

namespace TTLockConnect.Async.EventLoop

open TTLockConnect.Async.Coroutine TTLockConnect.Async.Coroutine.Coro TTLockConnect.Async.Runs

/-- A task in flight: its job, the shared state it was started on, the replies it has had, and what
it waits for. -/
structure Task (σ ρ : Type) (A : ρ → Type) (ε W : Type) where
  job : W
  born : σ
  log : List (Exchange A ε)
  req : ρ
  cont : Except ε (A req) → Coro σ ρ A ε Unit

/-- What is known of a task that has ended. -/
structure Ended (σ : Type) {ρ : Type} (A : ρ → Type) (ε W : Type) where
  job : W
  born : σ
  log : List (Exchange A ε)
  result : Except ε Unit

/-- The event loop. -/
structure Pool (σ ρ : Type) (A : ρ → Type) (ε W : Type) where
  shared : σ
  tasks : List (Task σ ρ A ε W)

/-- The moves: start a job, or answer the request of the task at index `i`. -/
inductive Label {ρ : Type} (A : ρ → Type) (ε W : Type) where
  | start (w : W)
  | reply (i : ℕ) (ans : (q : ρ) → Except ε (A q))

variable {σ ρ : Type} {A : ρ → Type} {ε W : Type}

/-- The job a move starts. -/
def started : Label A ε W → Option W
  | .start w => some w
  | .reply _ _ => none

/-- The jobs that a run starts, in order. -/
def starts {S : Type} (τ : List (Move S (Label A ε W))) : List W :=
  τ.filterMap fun m => started m.label

theorem starts_append {S : Type} (τ τ' : List (Move S (Label A ε W))) :
    starts (τ ++ τ') = starts τ ++ starts τ' := List.filterMap_append

theorem starts_single {S : Type} (m : Move S (Label A ε W)) :
    starts [m] = (started m.label).toList := by
  cases h : started m.label <;> simp [starts, h]

namespace Pool

/-- One move, and the task it ends, if any. -/
def stepOut (prog : W → Coro σ ρ A ε Unit) (P : Pool σ ρ A ε W) :
    Label A ε W → Option (Pool σ ρ A ε W × Option (Ended σ A ε W))
  | .start w =>
    match (prog w).advance P.shared with
    | .done r s => some (⟨s, P.tasks⟩, some ⟨w, P.shared, [], r⟩)
    | .wait s q k => some (⟨s, P.tasks ++ [⟨w, P.shared, [], q, k⟩]⟩, none)
  | .reply i ans =>
    match P.tasks[i]? with
    | none => none
    | some t =>
      match (t.cont (ans t.req)).advance P.shared with
      | .done r s =>
        some (⟨s, P.tasks.eraseIdx i⟩, some ⟨t.job, t.born, t.log ++ [⟨t.req, ans t.req⟩], r⟩)
      | .wait s q k =>
        some (⟨s, P.tasks.set i ⟨t.job, t.born, t.log ++ [⟨t.req, ans t.req⟩], q, k⟩⟩, none)

/-- The step function of the event loop. -/
def step (prog : W → Coro σ ρ A ε Unit) (P : Pool σ ρ A ε W) (l : Label A ε W) :
    Option (Pool σ ρ A ε W) := (P.stepOut prog l).map Prod.fst

/-- The task a move ends. -/
def ended (prog : W → Coro σ ρ A ε Unit) (P : Pool σ ρ A ε W) (l : Label A ε W) :
    Option (Ended σ A ε W) := (P.stepOut prog l).bind Prod.snd

variable {prog : W → Coro σ ρ A ε Unit} {P P' : Pool σ ρ A ε W} {l : Label A ε W}

/-- What a move can be. -/
inductive Moved (prog : W → Coro σ ρ A ε Unit) (P : Pool σ ρ A ε W) :
    Label A ε W → Pool σ ρ A ε W → Option (Ended σ A ε W) → Prop
  | through {w : W} {r : Except ε Unit} {s : σ} :
      (prog w).advance P.shared = .done r s →
      Moved prog P (.start w) ⟨s, P.tasks⟩ (some ⟨w, P.shared, [], r⟩)
  | started {w : W} {s : σ} {q : ρ} {k : Except ε (A q) → Coro σ ρ A ε Unit} :
      (prog w).advance P.shared = .wait s q k →
      Moved prog P (.start w) ⟨s, P.tasks ++ [⟨w, P.shared, [], q, k⟩]⟩ none
  | ended {i : ℕ} {ans : (q : ρ) → Except ε (A q)} {t : Task σ ρ A ε W} {r : Except ε Unit}
      {s : σ} : P.tasks[i]? = some t → (t.cont (ans t.req)).advance P.shared = .done r s →
      Moved prog P (.reply i ans) ⟨s, P.tasks.eraseIdx i⟩
        (some ⟨t.job, t.born, t.log ++ [⟨t.req, ans t.req⟩], r⟩)
  | moved {i : ℕ} {ans : (q : ρ) → Except ε (A q)} {t : Task σ ρ A ε W} {s : σ} {q : ρ}
      {k : Except ε (A q) → Coro σ ρ A ε Unit} : P.tasks[i]? = some t →
      (t.cont (ans t.req)).advance P.shared = .wait s q k →
      Moved prog P (.reply i ans)
        ⟨s, P.tasks.set i ⟨t.job, t.born, t.log ++ [⟨t.req, ans t.req⟩], q, k⟩⟩ none

theorem moved_of_stepOut {e : Option (Ended σ A ε W)} (h : P.stepOut prog l = some (P', e)) :
    Moved prog P l P' e := by
  unfold stepOut at h
  split at h
  · split at h <;> cases h
    · exact .through ‹_›
    · exact .started ‹_›
  · split at h
    · cases h
    · split at h <;> cases h
      · exact .ended ‹_› ‹_›
      · exact .moved ‹_› ‹_›

theorem moved_of_step (h : P.step prog l = some P') : Moved prog P l P' (P.ended prog l) := by
  obtain ⟨⟨_, e⟩, he, rfl⟩ := Option.map_eq_some_iff.mp h
  have : P.ended prog l = e := by simp [ended, he]
  rw [this]
  exact moved_of_stepOut he

/-! ### The moves that are possible -/

theorem step_through {w : W} {r : Except ε Unit} {s : σ}
    (h : (prog w).advance P.shared = .done r s) :
    P.step prog (.start w) = some ⟨s, P.tasks⟩ := by
  simp only [step, stepOut, h, Option.map_some]

theorem step_started {w : W} {s : σ} {q : ρ} {k : Except ε (A q) → Coro σ ρ A ε Unit}
    (h : (prog w).advance P.shared = .wait s q k) :
    P.step prog (.start w) = some ⟨s, P.tasks ++ [⟨w, P.shared, [], q, k⟩]⟩ := by
  simp only [step, stepOut, h, Option.map_some]

theorem step_ended {i : ℕ} {ans : (q : ρ) → Except ε (A q)} {t : Task σ ρ A ε W}
    {r : Except ε Unit} {s : σ} (hi : P.tasks[i]? = some t)
    (h : (t.cont (ans t.req)).advance P.shared = .done r s) :
    P.step prog (.reply i ans) = some ⟨s, P.tasks.eraseIdx i⟩ := by
  simp only [step, stepOut, hi, h, Option.map_some]

theorem step_moved {i : ℕ} {ans : (q : ρ) → Except ε (A q)} {t : Task σ ρ A ε W} {s : σ} {q : ρ}
    {k : Except ε (A q) → Coro σ ρ A ε Unit} (hi : P.tasks[i]? = some t)
    (h : (t.cont (ans t.req)).advance P.shared = .wait s q k) :
    P.step prog (.reply i ans) =
      some ⟨s, P.tasks.set i ⟨t.job, t.born, t.log ++ [⟨t.req, ans t.req⟩], q, k⟩⟩ := by
  simp only [step, stepOut, hi, h, Option.map_some]

/-- A task in flight can be answered. -/
theorem exists_step_reply {i : ℕ} {t : Task σ ρ A ε W} (hi : P.tasks[i]? = some t)
    (ans : (q : ρ) → Except ε (A q)) : ∃ P', P.step prog (.reply i ans) = some P' := by
  cases h : (t.cont (ans t.req)).advance P.shared with
  | done r s => exact ⟨_, step_ended hi h⟩
  | wait s q k => exact ⟨_, step_moved hi h⟩

/-! ### Soundness of the specifications -/

section Spec
variable {I : σ → Prop} {G : W → σ → σ → Prop}
  {Q : W → σ → List (Exchange A ε) → σ → σ → Except ε Unit → Prop}

/-- A suspended task meets the specification of its job, whatever it is answered. -/
def TaskSat (I : σ → Prop) (G : W → σ → σ → Prop)
    (Q : W → σ → List (Exchange A ε) → σ → σ → Except ε Unit → Prop)
    (t : Task σ ρ A ε W) : Prop :=
  ∀ a s, I s → (t.cont a).Sat I (G t.job) (Q t.job t.born) (t.log ++ [⟨t.req, a⟩]) s s

/-- The invariant of the pool. -/
structure Inv (I : σ → Prop) (G : W → σ → σ → Prop)
    (Q : W → σ → List (Exchange A ε) → σ → σ → Except ε Unit → Prop)
    (P : Pool σ ρ A ε W) : Prop where
  shared : I P.shared
  tasks : ∀ t ∈ P.tasks, TaskSat I G Q t

/-- What a move guarantees of the shared state before and after it. -/
def Kept (G : W → σ → σ → Prop)
    (Q : W → σ → List (Exchange A ε) → σ → σ → Except ε Unit → Prop) (s s' : σ) :
    Option (Ended σ A ε W) → Prop
  | none => ∃ w, G w s s'
  | some e => Q e.job e.born e.log s s' e.result

/-- The first segment of a job. -/
theorem start_spec (hspec : ∀ w s, I s → (prog w).Sat I (G w) (Q w s) [] s s)
    (hP : Inv I G Q P) (w : W) : ((prog w).advance P.shared).Good I (G w) (Q w P.shared) [] P.shared :=
  sat_advance _ (hspec w _ hP.shared)

/-- The segment behind a reply. -/
theorem reply_spec (hP : Inv I G Q P) {i : ℕ} {t : Task σ ρ A ε W} (hi : P.tasks[i]? = some t)
    (a : Except ε (A t.req)) : ((t.cont a).advance P.shared).Good I (G t.job) (Q t.job t.born)
      (t.log ++ [⟨t.req, a⟩]) P.shared :=
  sat_advance _ (hP.tasks t (List.mem_of_getElem? hi) a _ hP.shared)

/-- **Soundness**: a move keeps the invariant of the pool, and the guarantee or the postcondition
of the task it moves. -/
theorem step_spec (hspec : ∀ w s, I s → (prog w).Sat I (G w) (Q w s) [] s s)
    (hQ : ∀ w b l s s' r, Q w b l s s' r → I s') (hP : Inv I G Q P)
    (h : P.step prog l = some P') :
    Inv I G Q P' ∧ Kept G Q P.shared P'.shared (P.ended prog l) := by
  have hm := moved_of_step h
  generalize P.ended prog l = e at hm ⊢
  cases hm with
  | @through w r s hadv =>
    have hs := start_spec hspec hP w
    rw [hadv] at hs
    exact ⟨⟨hQ _ _ _ _ _ _ hs, hP.tasks⟩, hs⟩
  | @started w s q k hadv =>
    have hs := start_spec hspec hP w
    rw [hadv] at hs
    obtain ⟨hi, hg, hk⟩ := hs
    refine ⟨⟨hi, fun t ht => ?_⟩, w, hg⟩
    rcases List.mem_append.mp ht with ht | ht
    · exact hP.tasks t ht
    · rw [List.mem_singleton.mp ht]; exact hk
  | @ended i ans t r s hi hadv =>
    have hs := reply_spec hP hi (ans t.req)
    rw [hadv] at hs
    exact ⟨⟨hQ _ _ _ _ _ _ hs, fun u hu => hP.tasks u (List.mem_of_mem_eraseIdx hu)⟩, hs⟩
  | @moved i ans t s q k hi hadv =>
    have hs := reply_spec hP hi (ans t.req)
    rw [hadv] at hs
    obtain ⟨hi', hg, hk⟩ := hs
    refine ⟨⟨hi', fun u hu => ?_⟩, t.job, hg⟩
    rcases List.mem_or_eq_of_mem_set hu with hu | rfl
    · exact hP.tasks u hu
    · exact hk

/-- The specifications along a run. -/
theorem run_spec (hspec : ∀ w s, I s → (prog w).Sat I (G w) (Q w s) [] s s)
    (hQ : ∀ w b l s s' r, Q w b l s s' r → I s') {s₀ : σ} (h0 : I s₀)
    {τ : List (Move (Pool σ ρ A ε W) (Label A ε W))}
    (hr : Run (fun P l => P.step prog l) ⟨s₀, []⟩ τ P) :
    ∀ m ∈ τ, Inv I G Q m.src ∧
      Kept G Q m.src.shared m.dst.shared (m.src.ended prog m.label) := by
  have hinv := (hr.invariant (Inv I G Q) ⟨h0, by simp⟩
    fun P l P' hP h => (step_spec hspec hQ hP h).1).2
  intro m hm
  exact ⟨(hinv m hm).1, (step_spec hspec hQ (hinv m hm).1 (hr.step_of_mem m hm)).2⟩

end Spec

end Pool

end TTLockConnect.Async.EventLoop
