import TTLockConnect.Async.EventLoop
import Mathlib.Data.List.Forall2
import Mathlib.Data.Option.Basic

/-! # Two runs side by side

Two runs of one system whose inputs differ only in what some data are. `Likeness` says which shared
states, requests and replies count as the same. `Alike` lifts it to coroutines, constructor by
constructor, so a program that treats the differing data as opaque is alike to itself, and the rules
below prove that along its text. A pool of alike coroutines then makes alike moves, and `run_agree`
carries an agreement of two runs, step by step, to whatever is read off their states. -/

namespace TTLockConnect.Async.TwoRuns

open TTLockConnect.Async.Coroutine TTLockConnect.Async.Coroutine.Coro TTLockConnect.Async.EventLoop
open TTLockConnect.Async.Runs

/-! ### Outcomes -/

section Outcomes
variable {ε α β γ : Type}

/-- Two outcomes: related values, or the same error. -/
def Agree (R : α → β → Prop) : Except ε α → Except ε β → Prop
  | .ok a, .ok b => R a b
  | .error e, .error e' => e = e'
  | _, _ => False

theorem agree_eq (r : Except ε α) : Agree Eq r r := by
  cases r with
  | ok a => exact rfl
  | error e => exact rfl

theorem Agree.mono {R R' : α → β → Prop} {r : Except ε α} {r' : Except ε β} (h : Agree R r r')
    (hR : ∀ a b, R a b → R' a b) : Agree R' r r' := by
  cases r with
  | ok a =>
    cases r' with
    | ok b => exact hR a b h
    | error e => exact h
  | error e =>
    cases r' with
    | ok b => exact h
    | error e' => exact h

/-- Outcomes that a function of their values cannot tell apart. -/
theorem agree_of_map_eq {f : α → γ} {g : β → γ} {r : Except ε α} {r' : Except ε β}
    (h : r.map f = r'.map g) : Agree (fun a b => f a = g b) r r' := by
  cases r with
  | ok a =>
    cases r' with
    | ok b => exact Except.ok.inj h
    | error e => cases h
  | error e =>
    cases r' with
    | ok b => cases h
    | error e' => exact Except.error.inj h

end Outcomes

/-! ### Coroutines -/

/-- Which shared states, requests and replies of two runs count as the same. -/
structure Likeness (σ ρ : Type) (A : ρ → Type) where
  state : σ → σ → Prop
  req : ρ → ρ → Prop
  reply : (q q' : ρ) → A q → A q' → Prop

section Coroutines
variable {σ ρ : Type} {A : ρ → Type} {ε α α' β β' : Type} (L : Likeness σ ρ A)

/-- **Two coroutines that go through the same steps**, on like states and with like replies. -/
inductive Alike (R : α → α' → Prop) : Coro σ ρ A ε α → Coro σ ρ A ε α' → Prop
  | ret {a : α} {a' : α'} : R a a' → Alike R (.ret a) (.ret a')
  | raise (e : ε) : Alike R (.raise e) (.raise e)
  | get {k : σ → Coro σ ρ A ε α} {k' : σ → Coro σ ρ A ε α'} :
      (∀ s s', L.state s s' → Alike R (k s) (k' s')) → Alike R (.get k) (.get k')
  | set {s s' : σ} {k : Coro σ ρ A ε α} {k' : Coro σ ρ A ε α'} :
      L.state s s' → Alike R k k' → Alike R (.set s k) (.set s' k')
  | await {q q' : ρ} {k : Except ε (A q) → Coro σ ρ A ε α}
      {k' : Except ε (A q') → Coro σ ρ A ε α'} : L.req q q' →
      (∀ a a', Agree (L.reply q q') a a' → Alike R (k a) (k' a')) →
      Alike R (.await q k) (.await q' k')

variable {L} {R : α → α' → Prop} {R' : β → β' → Prop}

theorem alike_pure {a : α} {a' : α'} (h : R a a') :
    Alike L R (pure a : Coro σ ρ A ε α) (pure a') := .ret h

theorem alike_throw (e : ε) :
    Alike L R (throw e : Coro σ ρ A ε α) (throw e : Coro σ ρ A ε α') := .raise e

theorem alike_get : Alike L L.state (MonadState.get : Coro σ ρ A ε σ) MonadState.get :=
  .get fun _ _ h => .ret h

theorem alike_modify {f f' : σ → σ} (h : ∀ s s', L.state s s' → L.state (f s) (f' s')) :
    Alike L (fun _ _ => True) (modify f : Coro σ ρ A ε PUnit) (modify f') :=
  .get fun s s' hs => .set (h s s' hs) (.ret trivial)

theorem alike_fromExcept {r : Except ε α} {r' : Except ε α'} (h : Agree R r r') :
    Alike L R (fromExcept r : Coro σ ρ A ε α) (fromExcept r') := by
  cases r with
  | ok a =>
    cases r' with
    | ok a' => exact .ret h
    | error e => exact h.elim
  | error e =>
    cases r' with
    | ok a' => exact h.elim
    | error e' =>
      cases h
      exact .raise e

theorem alike_call {q q' : ρ} (h : L.req q q') :
    Alike L (L.reply q q') (call q : Coro σ ρ A ε (A q)) (call q') := by
  refine .await h fun a a' ha => ?_
  cases a with
  | ok a =>
    cases a' with
    | ok a' => exact .ret ha
    | error e => exact ha.elim
  | error e =>
    cases a' with
    | ok a' => exact ha.elim
    | error e' =>
      cases ha
      exact .raise e

/-- **The rule for a sequence.** -/
theorem alike_bind {p : Coro σ ρ A ε α} {p' : Coro σ ρ A ε α'} {f : α → Coro σ ρ A ε β}
    {f' : α' → Coro σ ρ A ε β'} (hp : Alike L R p p')
    (hf : ∀ a a', R a a' → Alike L R' (f a) (f' a')) : Alike L R' (p >>= f) (p' >>= f') := by
  induction hp with
  | ret h => exact hf _ _ h
  | raise e => exact .raise e
  | get _ ih => exact .get fun s s' hs => ih s s' hs
  | set hs _ ih => exact .set hs ih
  | await hq _ ih => exact .await hq fun a a' ha => ih a a' ha

/-- **The rule for `try`.** -/
theorem alike_tryCatch {p : Coro σ ρ A ε α} {p' : Coro σ ρ A ε α'} {f : ε → Coro σ ρ A ε α}
    {f' : ε → Coro σ ρ A ε α'} (hp : Alike L R p p') (hf : ∀ e, Alike L R (f e) (f' e)) :
    Alike L R (tryCatch p f) (tryCatch p' f') := by
  induction hp with
  | ret h => exact .ret h
  | raise e => exact hf e
  | get _ ih => exact .get fun s s' hs => ih s s' hs
  | set hs _ ih => exact .set hs ih
  | await hq _ ih => exact .await hq fun a a' ha => ih a a' ha

theorem Alike.mono {R₁ : α → α' → Prop} {p : Coro σ ρ A ε α} {p' : Coro σ ρ A ε α'}
    (h : Alike L R p p') (hR : ∀ a a', R a a' → R₁ a a') : Alike L R₁ p p' := by
  induction h with
  | ret h => exact .ret (hR _ _ h)
  | raise e => exact .raise e
  | get _ ih => exact .get fun s s' hs => ih s s' hs
  | set hs _ ih => exact .set hs ih
  | await hq _ ih => exact .await hq fun a a' ha => ih a a' ha

/-- A choice that both make the same way. -/
theorem alike_ite {c c' : Prop} [Decidable c] [Decidable c'] (hc : c ↔ c')
    {p r : Coro σ ρ A ε α} {p' r' : Coro σ ρ A ε α'} (ht : c → Alike L R p p')
    (he : ¬ c → Alike L R r r') : Alike L R (if c then p else r) (if c' then p' else r') := by
  by_cases h : c
  · rw [if_pos h, if_pos (hc.mp h)]
    exact ht h
  · rw [if_neg h, if_neg fun h' => h (hc.mpr h')]
    exact he h

/-! ### Segments -/

variable (L) in
/-- Where two segments stop. -/
inductive StopAlike (R : α → α' → Prop) : Stop σ ρ A ε α → Stop σ ρ A ε α' → Prop
  | done {r : Except ε α} {r' : Except ε α'} {s s' : σ} :
      Agree R r r' → L.state s s' → StopAlike R (.done r s) (.done r' s')
  | wait {s s' : σ} {q q' : ρ} {k : Except ε (A q) → Coro σ ρ A ε α}
      {k' : Except ε (A q') → Coro σ ρ A ε α'} : L.state s s' → L.req q q' →
      (∀ a a', Agree (L.reply q q') a a' → Alike L R (k a) (k' a')) →
      StopAlike R (.wait s q k) (.wait s' q' k')

theorem alike_advance {p : Coro σ ρ A ε α} {p' : Coro σ ρ A ε α'} (h : Alike L R p p') :
    ∀ {s s' : σ}, L.state s s' → StopAlike L R (p.advance s) (p'.advance s') := by
  induction h with
  | ret h => exact fun hs => .done h hs
  | raise e => exact fun hs => .done rfl hs
  | get _ ih => exact fun hs => ih _ _ hs hs
  | set hs _ ih => exact fun _ => ih hs
  | await hq hk _ => exact fun hs => .wait hs hq hk

end Coroutines

/-! ### Pools -/

section Pools
variable {σ ρ : Type} {A : ρ → Type} {ε W : Type}

/-- The request a move makes: what the task it moves waits for behind it. -/
def sent (prog : W → Coro σ ρ A ε Unit) (P : Pool σ ρ A ε W) : Label A ε W → Option ρ
  | .start w =>
    match (prog w).advance P.shared with
    | .done _ _ => none
    | .wait _ q _ => some q
  | .reply i ans =>
    P.tasks[i]?.bind fun t =>
      match (t.cont (ans t.req)).advance P.shared with
      | .done _ _ => none
      | .wait _ q _ => some q

variable (L : Likeness σ ρ A)

/-- Two suspended tasks. -/
structure TaskAlike (t t' : Task σ ρ A ε W) : Prop where
  req : L.req t.req t'.req
  cont : ∀ a a', Agree (L.reply t.req t'.req) a a' →
    Alike L (fun _ _ => True) (t.cont a) (t'.cont a')

/-- Two pools with like states and the same tasks. -/
structure PoolAlike (P P' : Pool σ ρ A ε W) : Prop where
  shared : L.state P.shared P'.shared
  tasks : List.Forall₂ (TaskAlike L) P.tasks P'.tasks

variable {L} {prog : W → Coro σ ρ A ε Unit} {P P' Q Q' : Pool σ ρ A ε W}

/-- The tasks at one index. -/
theorem PoolAlike.get (h : PoolAlike L P P') {i : ℕ} {t t' : Task σ ρ A ε W}
    (ht : P.tasks[i]? = some t) (ht' : P'.tasks[i]? = some t') : TaskAlike L t t' := by
  obtain ⟨hi, rfl⟩ := List.getElem?_eq_some_iff.mp ht
  obtain ⟨hi', rfl⟩ := List.getElem?_eq_some_iff.mp ht'
  exact List.Forall₂.get h.tasks hi hi'

theorem forall₂_set {α β : Type} {R : α → β → Prop} {as : List α} {bs : List β}
    (h : List.Forall₂ R as bs) {a : α} {b : β} (hab : R a b) (i : ℕ) :
    List.Forall₂ R (as.set i a) (bs.set i b) := by
  induction h generalizing i with
  | nil => exact .nil
  | cons hx h ih =>
    cases i with
    | zero => exact .cons hab h
    | succ i => exact .cons hx (ih i)

theorem forall₂_map {α β γ δ : Type} {R : α → β → Prop} {f : α → γ} {g : β → δ}
    {S : γ → δ → Prop} {as : List α} {bs : List β} (h : List.Forall₂ R as bs)
    (hfg : ∀ a b, R a b → S (f a) (g b)) : List.Forall₂ S (as.map f) (bs.map g) := by
  rw [List.forall₂_map_left_iff, List.forall₂_map_right_iff]
  exact h.imp hfg

theorem forall₂_eraseIdx {α β : Type} {R : α → β → Prop} {as : List α} {bs : List β}
    (h : List.Forall₂ R as bs) (i : ℕ) : List.Forall₂ R (as.eraseIdx i) (bs.eraseIdx i) := by
  induction h generalizing i with
  | nil => exact .nil
  | cons hx h ih =>
    cases i with
    | zero => exact h
    | succ i => exact .cons hx (ih i)

/-- **Two pools that start a job** reach like states, and make like requests. -/
theorem start_alike (h : PoolAlike L P P') {w : W}
    (hw : Alike L (fun _ _ => True) (prog w) (prog w)) (hs : P.step prog (.start w) = some Q)
    (hs' : P'.step prog (.start w) = some Q') :
    PoolAlike L Q Q' ∧ Option.Rel L.req (sent prog P (.start w)) (sent prog P' (.start w)) := by
  have hadv := alike_advance hw h.shared
  simp only [Pool.step, Pool.stepOut] at hs hs'
  simp only [sent]
  generalize (prog w).advance P.shared = x at hadv hs ⊢
  generalize (prog w).advance P'.shared = x' at hadv hs' ⊢
  cases hadv with
  | done hr hst =>
    cases hs
    cases hs'
    exact ⟨⟨hst, h.tasks⟩, .none⟩
  | wait hst hq hk =>
    cases hs
    cases hs'
    exact ⟨⟨hst, List.rel_append h.tasks (.cons ⟨hq, hk⟩ .nil)⟩, .some hq⟩

/-- **Two pools that hand a task its reply** reach like states, and make like requests. -/
theorem reply_alike (h : PoolAlike L P P') {i : ℕ} {ans ans' : (q : ρ) → Except ε (A q)}
    (hans : ∀ t t', P.tasks[i]? = some t → P'.tasks[i]? = some t' →
      Agree (L.reply t.req t'.req) (ans t.req) (ans' t'.req))
    (hs : P.step prog (.reply i ans) = some Q) (hs' : P'.step prog (.reply i ans') = some Q') :
    PoolAlike L Q Q' ∧
      Option.Rel L.req (sent prog P (.reply i ans)) (sent prog P' (.reply i ans')) := by
  simp only [Pool.step, Pool.stepOut] at hs hs'
  simp only [sent]
  cases ht : P.tasks[i]? with
  | none =>
    rw [ht] at hs
    cases hs
  | some t =>
    cases ht' : P'.tasks[i]? with
    | none =>
      rw [ht'] at hs'
      cases hs'
    | some t' =>
      have hadv := alike_advance ((h.get ht ht').cont _ _ (hans t t' ht ht')) h.shared
      rw [ht] at hs
      rw [ht'] at hs'
      simp only [Option.bind_some] at hs hs' ⊢
      generalize (t.cont (ans t.req)).advance P.shared = x at hadv hs ⊢
      generalize (t'.cont (ans' t'.req)).advance P'.shared = x' at hadv hs' ⊢
      cases hadv with
      | done hr hst =>
        cases hs
        cases hs'
        exact ⟨⟨hst, forall₂_eraseIdx h.tasks i⟩, .none⟩
      | wait hst hq hk =>
        cases hs
        cases hs'
        exact ⟨⟨hst, forall₂_set h.tasks ⟨hq, hk⟩ i⟩, .some hq⟩

end Pools

/-! ### Runs -/

section Runs
variable {S L O : Type}

/-- Two copies of a system, each with its own input. -/
def both (step : S → L → Option S) (s : S × S) (l : L × L) : Option (S × S) :=
  (step s.1 l.1).bind fun t => (step s.2 l.2).map fun t' => (t, t')

theorem both_eq_some {step : S → L → Option S} {s t : S × S} {l : L × L}
    (h : both step s l = some t) : step s.1 l.1 = some t.1 ∧ step s.2 l.2 = some t.2 := by
  obtain ⟨t₁, h₁, h⟩ := Option.bind_eq_some_iff.mp h
  obtain ⟨t₂, h₂, rfl⟩ := Option.map_eq_some_iff.mp h
  exact ⟨h₁, h₂⟩

/-- **The rule for two runs**: what two states have in common stays so as long as every step keeps
it, which it may do under a condition on the states and labels. -/
theorem run_agree {step : S → L → Option S} (Same : S → S → Prop)
    (Ok : S × S → L × L → Prop) {s₀ s : S × S} {τ : List (Move (S × S) (L × L))}
    (hr : Run (both step) s₀ τ s) (h0 : Same s₀.1 s₀.2)
    (hstep : ∀ s s' l l' t t', Same s s' → Ok (s, s') (l, l') → step s l = some t →
      step s' l' = some t' → Same t t')
    (hok : ∀ m ∈ τ, Ok m.src m.label) : Same s.1 s.2 := by
  refine (hr.invariant_of (fun s => Same s.1 s.2) Ok h0 (fun s l t hs ho h => ?_) hok).1
  obtain ⟨h1, h2⟩ := both_eq_some h
  exact hstep s.1 s.2 l.1 l.2 t.1 t.2 hs ho h1 h2

end Runs

end TTLockConnect.Async.TwoRuns
