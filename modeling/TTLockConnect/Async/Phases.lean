import TTLockConnect.Async.Mutex
import Mathlib.Data.Multiset.ZeroCons

/-! # The phases of tasks that share a lock

Every task in flight is in a phase of its job, and an invariant relates the shared state to the phases
of all tasks. `Sat` is the specification of a coroutine among tasks in the phases `f`: where it
suspends it enters a phase with which the invariant holds, and when it resumes it may rely on the
invariant with that phase, whatever the others have become meanwhile.

`step_inv` is the soundness of these specifications: if every job meets its own, every move of the
event loop keeps the invariant. -/

namespace TTLockConnect.Async.Phases

open TTLockConnect.Async.Coroutine TTLockConnect.Async.Coroutine.Coro
open TTLockConnect.Async.EventLoop TTLockConnect.Async.Mutex

variable {δ ρ : Type} {A : ρ → Type} {ε α β W X : Type}

/-- The shared state before and after a task is handed a reply: the lock is granted while it is free,
and taken then. -/
def Resumed : (q : Demand ρ) → Except ε (Grant A q) → Guarded δ → Guarded δ → Prop
  | .acquire, .ok _, s, s' => s.locked = false ∧ s' = ⟨true, s.data⟩
  | .acquire, .error _, s, s' => s' = s
  | .ask _, _, s, s' => s' = s

/-! ### Specifications -/

section Sat
variable (may : (q : Demand ρ) → Except ε (Grant A q) → Prop) (I : Multiset X → Guarded δ → Prop)
  (own : X → Prop)

/-- **The specification of a coroutine among others**: `may` are the replies there can be, `I` is the
invariant and `own` are the phases of the job. It ends in `Q`. -/
def Sat (Q : Multiset X → Guarded δ → Except ε α → Prop) :
    Locking δ ρ A ε α → Multiset X → Guarded δ → Prop
  | .ret a, f, s => Q f s (.ok a)
  | .raise e, f, s => Q f s (.error e)
  | .get k, f, s => Sat Q (k s) f s
  | .set s' k, f, _ => Sat Q k f s'
  | .await q k, f, s => ∃ x, own x ∧ I (x ::ₘ f) s ∧
      ∀ a f₁ s₁ s₂, may q a → I (x ::ₘ f₁) s₁ → Resumed q a s₁ s₂ → Sat Q (k a) f₁ s₂

/-- How a task goes on that awaits `q` in the phase `x`. -/
def Awaits (Q : Multiset X → Guarded δ → Except ε α → Prop) (x : X) (q : Demand ρ)
    (k : Except ε (Grant A q) → Locking δ ρ A ε α) : Prop :=
  ∀ a f₁ s₁ s₂, may q a → I (x ::ₘ f₁) s₁ → Resumed q a s₁ s₂ → Sat may I own Q (k a) f₁ s₂

/-- What is left to show of a sequence once its first part is over. -/
def andThen (Q : Multiset X → Guarded δ → Except ε β → Prop) (p : α → Locking δ ρ A ε β)
    (f : Multiset X) (s : Guarded δ) : Except ε α → Prop
  | .ok a => Sat may I own Q (p a) f s
  | .error e => Q f s (.error e)

/-- What is left to show of a `try` once its body is over. -/
def orElse (Q : Multiset X → Guarded δ → Except ε α → Prop) (p : ε → Locking δ ρ A ε α)
    (f : Multiset X) (s : Guarded δ) : Except ε α → Prop
  | .ok a => Q f s (.ok a)
  | .error e => Sat may I own Q (p e) f s

variable {may I own} {Q Q' : Multiset X → Guarded δ → Except ε α → Prop} {f : Multiset X}
  {s : Guarded δ} {x : X}

/-- **The rule of consequence.** -/
theorem sat_mono (hQ : ∀ f s r, Q f s r → Q' f s r) :
    ∀ (p : Locking δ ρ A ε α) {f : Multiset X} {s : Guarded δ},
    Sat may I own Q p f s → Sat may I own Q' p f s
  | .ret _, _, _, h => hQ _ _ _ h
  | .raise _, _, _, h => hQ _ _ _ h
  | .get k, _, s, h => sat_mono hQ (k s) h
  | .set _ k, _, _, h => sat_mono hQ k h
  | .await _ k, _, _, ⟨x, hx, hi, h⟩ =>
    ⟨x, hx, hi, fun a f₁ s₁ s₂ ha h₁ h₂ => sat_mono hQ (k a) (h a f₁ s₁ s₂ ha h₁ h₂)⟩

/-- **The rule for a sequence.** -/
theorem sat_bind {Q : Multiset X → Guarded δ → Except ε β → Prop} {g : α → Locking δ ρ A ε β} :
    ∀ (p : Locking δ ρ A ε α) {f : Multiset X} {s : Guarded δ},
    Sat may I own (andThen may I own Q g) p f s → Sat may I own Q (p >>= g) f s
  | .ret _, _, _, h => h
  | .raise _, _, _, h => h
  | .get k, _, s, h => sat_bind (k s) h
  | .set _ k, _, _, h => sat_bind k h
  | .await _ k, _, _, ⟨x, hx, hi, h⟩ =>
    ⟨x, hx, hi, fun a f₁ s₁ s₂ ha h₁ h₂ => sat_bind (k a) (h a f₁ s₁ s₂ ha h₁ h₂)⟩

/-- **The rule for `try`.** -/
theorem sat_tryCatch {g : ε → Locking δ ρ A ε α} :
    ∀ (p : Locking δ ρ A ε α) {f : Multiset X} {s : Guarded δ},
    Sat may I own (orElse may I own Q g) p f s → Sat may I own Q (tryCatch p g) f s
  | .ret _, _, _, h => h
  | .raise _, _, _, h => h
  | .get k, _, s, h => sat_tryCatch (k s) h
  | .set _ k, _, _, h => sat_tryCatch k h
  | .await _ k, _, _, ⟨x, hx, hi, h⟩ =>
    ⟨x, hx, hi, fun a f₁ s₁ s₂ ha h₁ h₂ => sat_tryCatch (k a) (h a f₁ s₁ s₂ ha h₁ h₂)⟩

/-- A part, and what follows it. -/
theorem Sat.bind {Q : Multiset X → Guarded δ → Except ε α → Prop}
    {Q' : Multiset X → Guarded δ → Except ε β → Prop} {p : Locking δ ρ A ε α}
    {g : α → Locking δ ρ A ε β} (hp : Sat may I own Q p f s)
    (hok : ∀ f s a, Q f s (.ok a) → Sat may I own Q' (g a) f s)
    (herr : ∀ f s e, Q f s (.error e) → Q' f s (.error e)) : Sat may I own Q' (p >>= g) f s := by
  refine sat_bind p (sat_mono (fun f s r h => ?_) p hp)
  cases r with
  | ok a => exact hok f s a h
  | error e => exact herr f s e h

/-- The body of a `try`, and its handler. -/
theorem Sat.tryCatch {Q Q' : Multiset X → Guarded δ → Except ε α → Prop} {p : Locking δ ρ A ε α}
    {g : ε → Locking δ ρ A ε α} (hp : Sat may I own Q p f s)
    (hok : ∀ f s a, Q f s (.ok a) → Q' f s (.ok a))
    (herr : ∀ f s e, Q f s (.error e) → Sat may I own Q' (g e) f s) :
    Sat may I own Q' (tryCatch p g) f s := by
  refine sat_tryCatch p (sat_mono (fun f s r h => ?_) p hp)
  cases r with
  | ok a => exact hok f s a h
  | error e => exact herr f s e h

/-- What is done without suspending. -/
theorem sat_modifyData_bind {g : δ → δ} {p : Unit → Locking δ ρ A ε α}
    (h : Sat may I own Q (p ()) f ⟨s.locked, g s.data⟩) :
    Sat may I own Q (modifyData g >>= p) f s := h

/-- A request other than the lock. -/
theorem sat_ask {q : ρ} {Q : Multiset X → Guarded δ → Except ε (A q) → Prop} (hx : own x)
    (hi : I (x ::ₘ f) s)
    (h : ∀ a f₁ s₁, may (.ask q) a → I (x ::ₘ f₁) s₁ → Q f₁ s₁ a) :
    Sat may I own Q (ask q : Locking δ ρ A ε (A q)) f s := by
  refine ⟨x, hx, hi, fun a f₁ s₁ s₂ ha h₁ h₂ => ?_⟩
  obtain rfl : s₂ = s₁ := h₂
  cases a with
  | ok a => exact h (.ok a) f₁ s₂ ha h₁
  | error e => exact h (.error e) f₁ s₂ ha h₁

/-- **The rule for `async with`**: the body starts with the lock, and gives it back at its end. -/
theorem sat_withLock {body : Locking δ ρ A ε α} (hx : own x) (hi : I (x ::ₘ f) s)
    (hbody : ∀ f₁ s₁, I (x ::ₘ f₁) s₁ → s₁.locked = false →
      Sat may I own (fun f s r => Q f ⟨false, s.data⟩ r) body f₁ ⟨true, s₁.data⟩)
    (herr : ∀ e f₁ s₁, may .acquire (.error e) → I (x ::ₘ f₁) s₁ → Q f₁ s₁ (.error e)) :
    Sat may I own Q (withLock body) f s := by
  refine sat_bind (call Demand.acquire) ⟨x, hx, hi, fun a f₁ s₁ s₂ ha h₁ h₂ => ?_⟩
  cases a with
  | error e =>
    obtain rfl : s₂ = s₁ := h₂
    exact herr e f₁ s₂ ha h₁
  | ok _ =>
    obtain ⟨hfree, rfl⟩ := h₂
    refine sat_bind (tryCatch body _) (sat_tryCatch body (sat_mono (fun f s r h => ?_) body (hbody f₁ s₁ h₁ hfree)))
    cases r with
    | ok a => exact h
    | error e => exact h

variable (may I own) in
/-- Where a segment stops. -/
def Stopped (Q : Multiset X → Guarded δ → Except ε α → Prop) (f : Multiset X) :
    Stop (Guarded δ) (Demand ρ) (Grant A) ε α → Prop
  | .done r s => Q f s r
  | .wait s q k => ∃ x, own x ∧ I (x ::ₘ f) s ∧ Awaits may I own Q x q k

theorem stopped_advance : ∀ (p : Locking δ ρ A ε α) {f : Multiset X} {s : Guarded δ},
    Sat may I own Q p f s → Stopped may I own Q f (p.advance s)
  | .ret _, _, _, h => h
  | .raise _, _, _, h => h
  | .get k, _, s, h => stopped_advance (k s) h
  | .set _ k, _, _, h => stopped_advance k h
  | .await _ _, _, _, h => h

end Sat

/-! ### The tasks in flight -/

section Tasks
variable (may : (q : Demand ρ) → Except ε (Grant A q) → Prop) (I : Multiset X → Guarded δ → Prop)
  (own : W → X → Prop)

/-- Whatever a job ends with, the invariant holds. -/
def Keeps : Multiset X → Guarded δ → Except ε α → Prop := fun f s _ => I f s

/-- A task in flight is in the phase `x` of its job, and goes on from there. -/
structure InPhase (t : Task (Guarded δ) (Demand ρ) (Grant A) ε W) (x : X) : Prop where
  phase : own t.job x
  awaits : Awaits may I (own t.job) (Keeps I) x t.req t.cont

/-- Tasks, and the phases they are in. -/
inductive Phased : List (Task (Guarded δ) (Demand ρ) (Grant A) ε W) → Multiset X → Prop where
  | nil : Phased [] 0
  | cons {t : Task (Guarded δ) (Demand ρ) (Grant A) ε W}
      {ts : List (Task (Guarded δ) (Demand ρ) (Grant A) ε W)} {x : X} {xs : Multiset X} :
      InPhase may I own t x → Phased ts xs → Phased (t :: ts) (x ::ₘ xs)

/-- The invariant of the event loop. -/
def Inv (P : Pool (Guarded δ) (Demand ρ) (Grant A) ε W) : Prop :=
  ∃ xs, Phased may I own P.tasks xs ∧ I xs P.shared

/-- A move that hands out a reply there can be. -/
def Possible : Label (Grant A) ε W → Prop
  | .start _ => True
  | .reply _ ans => ∀ q, may q (ans q)

variable {may I own} {ts us : List (Task (Guarded δ) (Demand ρ) (Grant A) ε W)}
  {t : Task (Guarded δ) (Demand ρ) (Grant A) ε W} {f xs : Multiset X} {x : X}

/-- One task more. -/
theorem Phased.insert (h : Phased may I own (ts ++ us) f) (ht : InPhase may I own t x) :
    Phased may I own (ts ++ t :: us) (x ::ₘ f) := by
  induction ts generalizing f with
  | nil => exact .cons ht h
  | cons u ts ih =>
    cases h with
    | @cons _ _ y f hu hrest =>
      rw [Multiset.cons_swap]
      exact .cons hu (ih hrest)

/-- One task among the others. -/
theorem Phased.split (h : Phased may I own (ts ++ t :: us) xs) :
    ∃ x f, xs = x ::ₘ f ∧ InPhase may I own t x ∧ Phased may I own (ts ++ us) f := by
  induction ts generalizing xs with
  | nil =>
    cases h with
    | @cons _ _ x f ht hrest => exact ⟨x, f, rfl, ht, hrest⟩
  | cons u ts ih =>
    cases h with
    | @cons _ _ y f hu hrest =>
      obtain ⟨x, f, rfl, ht, h⟩ := ih hrest
      exact ⟨x, y ::ₘ f, Multiset.cons_swap y x f, ht, .cons hu h⟩

/-- The tasks have the phases, and the phases have tasks. -/
theorem Phased.exists_task (h : Phased may I own ts xs) (hx : x ∈ xs) : ∃ t ∈ ts, own t.job x := by
  induction h with
  | nil => exact absurd hx (Multiset.notMem_zero x)
  | @cons t ts y xs ht _ ih =>
    rcases Multiset.mem_cons.mp hx with rfl | hx
    · exact ⟨t, List.mem_cons_self, ht.phase⟩
    · obtain ⟨u, hu, hown⟩ := ih hx
      exact ⟨u, List.mem_cons_of_mem t hu, hown⟩

theorem Phased.eq_zero (h : Phased may I own [] xs) : xs = 0 := by
  cases h
  rfl

variable {prog : W → Locking δ ρ A ε Unit} {P P' P₁ : Pool (Guarded δ) (Demand ρ) (Grant A) ε W}
  {l : Label (Grant A) ε W}

/-- What is granted to a task is what it resumes with. -/
theorem resumed_of_granted {i : ℕ} {ans : (q : Demand ρ) → Except ε (Grant A q)}
    (hi : P.tasks[i]? = some t) (hg : granted P (.reply i ans) = some P₁) :
    Resumed t.req (ans t.req) P.shared P₁.shared := by
  obtain ⟨job, born, log, req, cont⟩ := t
  rcases granted_cases hi hg with ⟨hreq, hans, hfree, rfl⟩ | ⟨hfail, rfl⟩
  · dsimp only at hreq
    subst hreq
    rw [hans]
    exact ⟨hfree, rfl⟩
  · cases req with
    | ask q => exact rfl
    | acquire =>
      obtain ⟨e, he⟩ := hfail rfl
      rw [he]
      exact rfl

/-- How a task among others goes on to where it stops. -/
theorem stopped_of_reply {i : ℕ} {ans : (q : Demand ρ) → Except ε (Grant A q)}
    (hxs : Phased may I own (ts ++ t :: us) xs) (hi : I xs P.shared) (hmay : ∀ q, may q (ans q))
    (ht : P.tasks[i]? = some t) (hg : granted P (.reply i ans) = some P₁) :
    ∃ f, Phased may I own (ts ++ us) f ∧
      Stopped may I (own t.job) (Keeps I) f ((t.cont (ans t.req)).advance P₁.shared) := by
  obtain ⟨x, f, rfl, hphase, hrest⟩ := hxs.split
  have hsat := hphase.awaits _ f P.shared P₁.shared (hmay t.req) hi (resumed_of_granted ht hg)
  exact ⟨f, hrest, stopped_advance _ hsat⟩

/-- **Soundness**: a move keeps the invariant, if the job it starts meets its specification. -/
theorem step_inv (hP : Inv may I own P) (hl : Possible may l)
    (hspec : ∀ w, l = .start w → ∀ f, I f P.shared →
      Sat may I (own w) (Keeps I) (prog w) f P.shared)
    (h : step prog P l = some P') : Inv may I own P' := by
  obtain ⟨P₁, hg, hs⟩ := Option.bind_eq_some_iff.mp h
  obtain ⟨xs, hxs, hi⟩ := hP
  have htasks := granted_tasks hg
  have hm := Pool.moved_of_step hs
  generalize P₁.ended prog l = e at hm
  cases hm with
  | @through w r s hadv =>
    obtain rfl := Option.some.inj hg
    have hstop := stopped_advance _ (hspec w rfl xs hi)
    rw [hadv] at hstop
    exact ⟨xs, hxs, hstop⟩
  | @started w s q k hadv =>
    obtain rfl := Option.some.inj hg
    have hstop := stopped_advance _ (hspec w rfl xs hi)
    rw [hadv] at hstop
    obtain ⟨x, hown, hi', haw⟩ := hstop
    have hnew : InPhase may I own ⟨w, P.shared, [], q, k⟩ x := ⟨hown, haw⟩
    have hxs' : Phased may I own (P.tasks ++ []) xs := by rwa [List.append_nil]
    exact ⟨x ::ₘ xs, hxs'.insert hnew, hi'⟩
  | @ended i ans t r s ht hadv =>
    rw [htasks] at ht
    obtain ⟨l₁, l₂, hsplit, herase, -⟩ := getElem?_split ht
    rw [hsplit] at hxs
    obtain ⟨f, hrest, hstop⟩ := stopped_of_reply hxs hi hl ht hg
    rw [hadv] at hstop
    refine ⟨f, ?_, hstop⟩
    dsimp only
    rw [htasks, herase]
    exact hrest
  | @moved i ans t s q k ht hadv =>
    rw [htasks] at ht
    obtain ⟨l₁, l₂, hsplit, -, hset⟩ := getElem?_split ht
    rw [hsplit] at hxs
    obtain ⟨f, hrest, hstop⟩ := stopped_of_reply hxs hi hl ht hg
    rw [hadv] at hstop
    obtain ⟨x, hown, hi', haw⟩ := hstop
    have hnew : InPhase may I own ⟨t.job, t.born, t.log ++ [⟨t.req, ans t.req⟩], q, k⟩ x :=
      ⟨hown, haw⟩
    refine ⟨x ::ₘ f, ?_, hi'⟩
    dsimp only
    rw [htasks, hset]
    exact hrest.insert hnew

end Tasks

end TTLockConnect.Async.Phases
