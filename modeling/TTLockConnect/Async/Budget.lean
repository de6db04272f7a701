import TTLockConnect.Async.Component
import TTLockConnect.Async.EventLoop

/-! # How often a coroutine asks

`Spends charged n p` says of a coroutine that it sends no more than `n` requests that are `charged`,
whatever it reads and whatever it is replied. If every job has such a budget then in every interleaving
no task exceeds it. -/

namespace TTLockConnect.Async.Budget

open TTLockConnect.Async.Coroutine TTLockConnect.Async.Coroutine.Coro TTLockConnect.Async.Component
open TTLockConnect.Async.Runs TTLockConnect.Async.EventLoop

variable {σ τ ρ ρ' : Type} {A : ρ → Type} {A' : ρ' → Type} {ε α β W : Type}

/-- **A coroutine within a budget.** -/
def Spends (charged : ρ → Bool) : ℕ → Coro σ ρ A ε α → Prop
  | _, .ret _ | _, .raise _ => True
  | n, .get k => ∀ s, Spends charged n (k s)
  | n, .set _ k => Spends charged n k
  | n, .await q k => (charged q).toNat ≤ n ∧ ∀ a, Spends charged (n - (charged q).toNat) (k a)

/-! ### Rules -/

section Rules
variable {charged : ρ → Bool} {n m : ℕ}

theorem spends_mono : ∀ (p : Coro σ ρ A ε α) {n m : ℕ}, n ≤ m → Spends charged n p →
    Spends charged m p
  | .ret _, _, _, _, _ | .raise _, _, _, _, _ => trivial
  | .get k, _, _, hnm, h => fun s => spends_mono (k s) hnm (h s)
  | .set _ k, _, _, hnm, h => spends_mono k hnm h
  | .await _ k, _, _, hnm, ⟨hq, h⟩ =>
    ⟨Nat.le_trans hq hnm, fun a => spends_mono (k a) (Nat.sub_le_sub_right hnm _) (h a)⟩

theorem spends_bind {f : α → Coro σ ρ A ε β} (hf : ∀ a, Spends charged m (f a)) :
    ∀ (p : Coro σ ρ A ε α) {n : ℕ}, Spends charged n p → Spends charged (n + m) (p >>= f)
  | .ret a, _, _ => spends_mono (f a) (Nat.le_add_left _ _) (hf a)
  | .raise _, _, _ => trivial
  | .get k, _, h => fun s => spends_bind hf (k s) (h s)
  | .set _ k, _, h => spends_bind hf k h
  | .await q k, n, ⟨hq, h⟩ => by
    refine ⟨Nat.le_trans hq (Nat.le_add_right _ _), fun a => ?_⟩
    rw [Nat.sub_add_comm hq]
    exact spends_bind hf (k a) (h a)

/-- **The rule for a sequence.** -/
theorem Spends.bind {p : Coro σ ρ A ε α} {f : α → Coro σ ρ A ε β} (hp : Spends charged n p)
    (hf : ∀ a, Spends charged m (f a)) : Spends charged (n + m) (p >>= f) := spends_bind hf p hp

/-- What is free in front of the rest. -/
theorem Spends.free_bind {p : Coro σ ρ A ε α} {f : α → Coro σ ρ A ε β} (hp : Spends charged 0 p)
    (hf : ∀ a, Spends charged n (f a)) : Spends charged n (p >>= f) := by
  have h := hp.bind hf
  rwa [Nat.zero_add] at h

theorem spends_get_bind {f : σ → Coro σ ρ A ε β} (h : ∀ s, Spends charged n (f s)) :
    Spends charged n (MonadState.get >>= f) := h

theorem spends_modify_bind {g : σ → σ} {f : PUnit → Coro σ ρ A ε β}
    (h : Spends charged n (f ())) : Spends charged n (modify g >>= f) := fun _ => h

/-- **The rule for `try`.** -/
theorem spends_tryCatch {f : ε → Coro σ ρ A ε α} (hf : ∀ e, Spends charged m (f e)) :
    ∀ (p : Coro σ ρ A ε α) {n : ℕ}, Spends charged n p → Spends charged (n + m) (tryCatch p f)
  | .ret _, _, _ => trivial
  | .raise e, _, _ => spends_mono (f e) (Nat.le_add_left _ _) (hf e)
  | .get k, _, h => fun s => spends_tryCatch hf (k s) (h s)
  | .set _ k, _, h => spends_tryCatch hf k h
  | .await q k, n, ⟨hq, h⟩ => by
    refine ⟨Nat.le_trans hq (Nat.le_add_right _ _), fun a => ?_⟩
    rw [Nat.sub_add_comm hq]
    exact spends_tryCatch hf (k a) (h a)

theorem spends_call {q : ρ} (h : (charged q).toNat ≤ n) :
    Spends charged n (call q : Coro σ ρ A ε (A q)) := ⟨h, fun a => by cases a <;> exact trivial⟩

theorem spends_fromExcept (r : Except ε α) :
    Spends charged n (fromExcept r : Coro σ ρ A ε α) := by
  cases r <;> exact trivial

theorem spends_ite {c : Prop} [Decidable c] {p p' : Coro σ ρ A ε α} (hp : Spends charged n p)
    (hp' : Spends charged n p') : Spends charged n (if c then p else p') := by
  split_ifs
  · exact hp
  · exact hp'

/-- **The rule for a component.** -/
theorem spends_within {place : Place τ σ} {name : ρ → ρ'} {reply : ∀ q, A' (name q) → A q}
    {charged' : ρ' → Bool} (hname : ∀ q, charged' (name q) = charged q) :
    ∀ (p : Coro σ ρ A ε α) {n : ℕ}, Spends charged n p →
      Spends charged' n (within place name reply p)
  | .ret _, _, _ | .raise _, _, _ => trivial
  | .get k, _, h => fun t => spends_within hname (k (place.get t)) (h _)
  | .set _ k, _, h => fun _ => spends_within hname k h
  | .await q k, n, ⟨hq, h⟩ => by
    rw [within, Spends, hname]
    exact ⟨hq, fun a => spends_within hname (k (a.map (reply q))) (h _)⟩

end Rules

/-! ### The pool -/

/-- How many of the exchanges are charged. -/
def spent (charged : ρ → Bool) (l : List (Exchange A ε)) : ℕ := l.countP fun x => charged x.1

section Pool
variable {charged : ρ → Bool} {budget : W → ℕ} {prog : W → Coro σ ρ A ε Unit}
  {P P' : Pool σ ρ A ε W} {l : Label A ε W}

theorem spent_snoc (l : List (Exchange A ε)) (x : Exchange A ε) :
    spent charged (l ++ [x]) = spent charged l + (charged x.1).toNat := by
  unfold spent
  rw [List.countP_append, List.countP_singleton]
  cases charged x.1 <;> rfl

/-- Where a segment stops. -/
def Stopped (charged : ρ → Bool) (n : ℕ) : Stop σ ρ A ε α → Prop
  | .done _ _ => True
  | .wait _ q k => (charged q).toNat ≤ n ∧ ∀ a, Spends charged (n - (charged q).toNat) (k a)

theorem stopped_advance : ∀ (p : Coro σ ρ A ε α) {n : ℕ} {s : σ}, Spends charged n p →
    Stopped charged n (p.advance s)
  | .ret _, _, _, _ | .raise _, _, _, _ => trivial
  | .get k, _, s, h => stopped_advance (k s) (h s)
  | .set _ k, _, _, h => stopped_advance k h
  | .await _ _, _, _, h => h

/-- A task that has spent so much, and may spend no more than what is left. -/
def Within (charged : ρ → Bool) (budget : W → ℕ) (t : Task σ ρ A ε W) : Prop :=
  ∃ n, (∀ a, Spends charged n (t.cont a)) ∧
    spent charged t.log + (charged t.req).toNat + n ≤ budget t.job

/-- The segment of a task that is answered. -/
theorem stopped_of_within {t : Task σ ρ A ε W} (h : Within charged budget t)
    (a : Except ε (A t.req)) {s : σ} :
    spent charged (t.log ++ [⟨t.req, a⟩]) ≤ budget t.job ∧ ∃ n,
      Stopped charged n ((t.cont a).advance s) ∧
        spent charged (t.log ++ [⟨t.req, a⟩]) + n ≤ budget t.job := by
  obtain ⟨n, hspends, hle⟩ := h
  rw [spent_snoc]
  dsimp only
  exact ⟨by omega, n, stopped_advance _ (hspends a), hle⟩

theorem step_within (hspec : ∀ w, Spends charged (budget w) (prog w))
    (hP : ∀ t ∈ P.tasks, Within charged budget t) (h : P.step prog l = some P') :
    (∀ t ∈ P'.tasks, Within charged budget t) ∧
      ∀ e, P.ended prog l = some e → spent charged e.log ≤ budget e.job := by
  have hm := Pool.moved_of_step h
  generalize P.ended prog l = e at hm
  cases hm with
  | @through w r s hadv =>
    refine ⟨hP, fun e he => ?_⟩
    cases he
    exact Nat.zero_le _
  | @started w s q k hadv =>
    have hs := stopped_advance (prog w) (s := P.shared) (hspec w)
    rw [hadv] at hs
    obtain ⟨hq, hk⟩ := hs
    refine ⟨fun t ht => ?_, nofun⟩
    rcases List.mem_append.mp ht with ht | ht
    · exact hP t ht
    · rw [List.mem_singleton.mp ht]
      refine ⟨_, hk, ?_⟩
      dsimp only [spent, List.countP_nil]
      omega
  | @ended i ans t r s hi hadv =>
    obtain ⟨hle, -⟩ := stopped_of_within (hP t (List.mem_of_getElem? hi)) (ans t.req) (s := P.shared)
    refine ⟨fun u hu => hP u (List.mem_of_mem_eraseIdx hu), fun e he => ?_⟩
    cases he
    exact hle
  | @moved i ans t s q k hi hadv =>
    obtain ⟨-, n, hs, hle⟩ :=
      stopped_of_within (hP t (List.mem_of_getElem? hi)) (ans t.req) (s := P.shared)
    rw [hadv] at hs
    obtain ⟨hq, hk⟩ := hs
    refine ⟨fun u hu => ?_, nofun⟩
    rcases List.mem_or_eq_of_mem_set hu with hu | rfl
    · exact hP u hu
    · refine ⟨_, hk, ?_⟩
      dsimp only
      omega

/-- **No task exceeds its budget**, in every interleaving. -/
theorem run_within (hspec : ∀ w, Spends charged (budget w) (prog w)) {s₀ : σ}
    {τ : List (Move (Pool σ ρ A ε W) (Label A ε W))}
    (hr : Run (fun P l => P.step prog l) ⟨s₀, []⟩ τ P) :
    ∀ m ∈ τ, (∀ t ∈ m.dst.tasks,
        spent charged t.log + (charged t.req).toNat ≤ budget t.job) ∧
      ∀ e, m.src.ended prog m.label = some e → spent charged e.log ≤ budget e.job := by
  have hall := (hr.invariant (fun P => ∀ t ∈ P.tasks, Within charged budget t)
    (List.forall_mem_nil _) fun P l P' hP h => (step_within hspec hP h).1).2
  intro m hm
  obtain ⟨hsrc, hdst⟩ := hall m hm
  refine ⟨fun t ht => ?_, (step_within hspec hsrc (hr.step_of_mem m hm)).2⟩
  obtain ⟨n, -, hle⟩ := hdst t ht
  omega

end Pool

end TTLockConnect.Async.Budget
