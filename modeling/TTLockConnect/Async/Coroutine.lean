import Mathlib.Tactic.Common

/-! # Coroutines over a shared state

A coroutine of a single-threaded event loop: it reads and writes the state it shares with the other
tasks, raises errors, and suspends only at an `await`, which sends a request and goes on with the
reply or with the error the call raised. Between two awaits nothing else runs, so what lies between
them is one *segment*.

* `advance` runs one segment; `run` runs a coroutine alone, against a function that answers its
  requests (and may itself move the shared state).
* `Sat I G Q p` is the specification of a coroutine among others: whenever it wakes up the shared
  state satisfies `I` and is otherwise arbitrary; a segment that ends in an `await` leaves `I` and
  stands in the relation `G` to the state the segment started from; the last segment, and the list of
  replies received (the *log*), satisfy `Q`. -/

namespace TTLockConnect.Async.Coroutine

/-- A coroutine on the shared state `σ` with requests `ρ` (a request `q` is answered in `A q`),
errors `ε` and result `α`. -/
inductive Coro (σ ρ : Type) (A : ρ → Type) (ε α : Type) where
  | ret (a : α)
  | raise (e : ε)
  | get (k : σ → Coro σ ρ A ε α)
  | set (s : σ) (k : Coro σ ρ A ε α)
  | await (q : ρ) (k : Except ε (A q) → Coro σ ρ A ε α)

variable {σ ρ : Type} {A : ρ → Type} {ε α β : Type}

/-- One exchange: a request with the reply, or the error, it got. -/
abbrev Exchange (A : ρ → Type) (ε : Type) := (q : ρ) × Except ε (A q)

namespace Coro

/-- Sequencing. -/
def bind : Coro σ ρ A ε α → (α → Coro σ ρ A ε β) → Coro σ ρ A ε β
  | .ret a, f => f a
  | .raise e, _ => .raise e
  | .get k, f => .get fun s => (k s).bind f
  | .set s k, f => .set s (k.bind f)
  | .await q k, f => .await q fun a => (k a).bind f

/-- `try p except e: h e`. -/
def handle : Coro σ ρ A ε α → (ε → Coro σ ρ A ε α) → Coro σ ρ A ε α
  | .ret a, _ => .ret a
  | .raise e, h => h e
  | .get k, h => .get fun s => (k s).handle h
  | .set s k, h => .set s (k.handle h)
  | .await q k, h => .await q fun a => (k a).handle h

instance : Monad (Coro σ ρ A ε) where
  pure := .ret
  bind := bind

instance : MonadStateOf σ (Coro σ ρ A ε) where
  get := .get .ret
  set s := .set s (.ret ())
  modifyGet f := .get fun s => .set (f s).2 (.ret (f s).1)

instance : MonadExceptOf ε (Coro σ ρ A ε) where
  throw := .raise
  tryCatch := handle

/-- Sequences can be regrouped. -/
theorem bind_assoc {γ : Type} (f : α → Coro σ ρ A ε β) (g : β → Coro σ ρ A ε γ) :
    ∀ p : Coro σ ρ A ε α, (p >>= f) >>= g = p >>= fun a => f a >>= g
  | .ret _ => rfl
  | .raise _ => rfl
  | .get k => congrArg Coro.get (funext fun s => bind_assoc f g (k s))
  | .set s k => congrArg (Coro.set s) (bind_assoc f g k)
  | .await q k => congrArg (Coro.await q) (funext fun a => bind_assoc f g (k a))

/-- Send a request; an error reply is raised here. -/
def call (q : ρ) : Coro σ ρ A ε (A q) :=
  .await q fun
    | .ok a => .ret a
    | .error e => .raise e

/-- A value or the error it stands for. -/
def fromExcept : Except ε α → Coro σ ρ A ε α
  | .ok a => .ret a
  | .error e => .raise e

/-- Where a segment stops. -/
inductive Stop (σ ρ : Type) (A : ρ → Type) (ε α : Type) where
  | done (r : Except ε α) (s : σ)
  | wait (s : σ) (q : ρ) (k : Except ε (A q) → Coro σ ρ A ε α)

/-- Run one segment. -/
def advance : Coro σ ρ A ε α → σ → Stop σ ρ A ε α
  | .ret a, s => .done (.ok a) s
  | .raise e, s => .done (.error e) s
  | .get k, s => (k s).advance s
  | .set s k, _ => k.advance s
  | .await q k, s => .wait s q k

/-- Run a coroutine alone, its requests answered by `ans`. -/
def run (ans : (q : ρ) → σ → Except ε (A q) × σ) : Coro σ ρ A ε α → σ → Except ε α × σ
  | .ret a, s => (.ok a, s)
  | .raise e, s => (.error e, s)
  | .get k, s => (k s).run ans s
  | .set s k, _ => k.run ans s
  | .await q k, s => (k (ans q s).1).run ans (ans q s).2

/-- **The specification of a coroutine among others**, see the head of this file. -/
def Sat (I : σ → Prop) (G : σ → σ → Prop)
    (Q : List (Exchange A ε) → σ → σ → Except ε α → Prop) :
    Coro σ ρ A ε α → List (Exchange A ε) → σ → σ → Prop
  | .ret a, l, s₀, s => Q l s₀ s (.ok a)
  | .raise e, l, s₀, s => Q l s₀ s (.error e)
  | .get k, l, s₀, s => (k s).Sat I G Q l s₀ s
  | .set s k, l, s₀, _ => k.Sat I G Q l s₀ s
  | .await q k, l, s₀, s =>
    I s ∧ G s₀ s ∧ ∀ a s₁, I s₁ → (k a).Sat I G Q (l ++ [⟨q, a⟩]) s₁ s₁

/-! ### Running alone -/

section Run
variable (ans : (q : ρ) → σ → Except ε (A q) × σ)

@[simp] theorem run_pure (a : α) (s : σ) :
    (pure a : Coro σ ρ A ε α).run ans s = (.ok a, s) := rfl

@[simp] theorem run_throw (e : ε) (s : σ) :
    (throw e : Coro σ ρ A ε α).run ans s = (.error e, s) := rfl

@[simp] theorem run_get (s : σ) :
    (MonadState.get : Coro σ ρ A ε σ).run ans s = (.ok s, s) := rfl

@[simp] theorem run_modify (f : σ → σ) (s : σ) :
    (modify f : Coro σ ρ A ε PUnit).run ans s = (.ok (), f s) := rfl

@[simp] theorem run_call (q : ρ) (s : σ) : (call q : Coro σ ρ A ε (A q)).run ans s = ans q s := by
  rcases h : ans q s with ⟨_ | _, s'⟩ <;> simp [call, run, h]

@[simp] theorem run_fromExcept (r : Except ε α) (s : σ) :
    (fromExcept r : Coro σ ρ A ε α).run ans s = (r, s) := by
  cases r <;> rfl

theorem run_bind (f : α → Coro σ ρ A ε β) : ∀ (p : Coro σ ρ A ε α) (s : σ),
    (p >>= f).run ans s =
      match p.run ans s with
      | (.ok a, s') => (f a).run ans s'
      | (.error e, s') => (.error e, s')
  | .ret _, _ => rfl
  | .raise _, _ => rfl
  | .get k, s => run_bind f (k s) s
  | .set s k, _ => run_bind f k s
  | .await q k, s => run_bind f (k (ans q s).1) (ans q s).2

theorem run_tryCatch (h : ε → Coro σ ρ A ε α) : ∀ (p : Coro σ ρ A ε α) (s : σ),
    (tryCatch p h).run ans s =
      match p.run ans s with
      | (.ok a, s') => (.ok a, s')
      | (.error e, s') => (h e).run ans s'
  | .ret _, _ => rfl
  | .raise _, _ => rfl
  | .get k, s => run_tryCatch h (k s) s
  | .set s k, _ => run_tryCatch h k s
  | .await q k, s => run_tryCatch h (k (ans q s).1) (ans q s).2

/-- The requests of a coroutine that runs alone, each with the state in which it is sent. -/
def calls : Coro σ ρ A ε α → σ → List (ρ × σ)
  | .ret _, _ => []
  | .raise _, _ => []
  | .get k, s => (k s).calls s
  | .set s k, _ => k.calls s
  | .await q k, s => (q, s) :: (k (ans q s).1).calls (ans q s).2

@[simp] theorem calls_pure (a : α) (s : σ) : (pure a : Coro σ ρ A ε α).calls ans s = [] := rfl

@[simp] theorem calls_get (s : σ) : (MonadState.get : Coro σ ρ A ε σ).calls ans s = [] := rfl

@[simp] theorem calls_modify (f : σ → σ) (s : σ) :
    (modify f : Coro σ ρ A ε PUnit).calls ans s = [] := rfl

theorem calls_call (q : ρ) (s : σ) : (call q : Coro σ ρ A ε (A q)).calls ans s = [(q, s)] := by
  cases h : (ans q s).1 <;> simp [call, calls, h]

theorem calls_fromExcept (r : Except ε α) (s : σ) :
    (fromExcept r : Coro σ ρ A ε α).calls ans s = [] := by
  cases r <;> rfl

/-- The requests of a sequence: the second part sends its own if the first returns. -/
theorem calls_bind (f : α → Coro σ ρ A ε β) : ∀ (p : Coro σ ρ A ε α) (s : σ),
    (p >>= f).calls ans s = p.calls ans s ++
      match p.run ans s with
      | (.ok a, s') => (f a).calls ans s'
      | (.error _, _) => []
  | .ret _, _ => rfl
  | .raise _, _ => rfl
  | .get k, s => calls_bind f (k s) s
  | .set s k, _ => calls_bind f k s
  | .await q k, s => congrArg ((q, s) :: ·) (calls_bind f (k (ans q s).1) (ans q s).2)

theorem calls_tryCatch (h : ε → Coro σ ρ A ε α) : ∀ (p : Coro σ ρ A ε α) (s : σ),
    (tryCatch p h).calls ans s = p.calls ans s ++
      match p.run ans s with
      | (.ok _, _) => []
      | (.error e, s') => (h e).calls ans s'
  | .ret _, _ => rfl
  | .raise _, _ => (List.nil_append _).symm
  | .get k, s => calls_tryCatch h (k s) s
  | .set s k, _ => calls_tryCatch h k s
  | .await q k, s => congrArg ((q, s) :: ·) (calls_tryCatch h (k (ans q s).1) (ans q s).2)

/-- A coroutine that runs alone, segment by segment. -/
theorem run_advance : ∀ (p : Coro σ ρ A ε α) (s : σ), p.run ans s =
    match p.advance s with
    | .done r s' => (r, s')
    | .wait s' q k => (k (ans q s').1).run ans (ans q s').2
  | .ret _, _ => rfl
  | .raise _, _ => rfl
  | .get k, s => run_advance (k s) s
  | .set s k, _ => run_advance k s
  | .await _ _, _ => rfl

/-- Each segment but the last sends one request. -/
theorem calls_advance : ∀ (p : Coro σ ρ A ε α) (s : σ), p.calls ans s =
    match p.advance s with
    | .done _ _ => []
    | .wait s' q k => (q, s') :: (k (ans q s').1).calls ans (ans q s').2
  | .ret _, _ => rfl
  | .raise _, _ => rfl
  | .get k, s => calls_advance (k s) s
  | .set s k, _ => calls_advance k s
  | .await _ _, _ => rfl

/-- A second part that sends nothing. -/
theorem calls_bind_of_silent {f : α → Coro σ ρ A ε β} (hf : ∀ a s, (f a).calls ans s = [])
    (p : Coro σ ρ A ε α) (s : σ) : (p >>= f).calls ans s = p.calls ans s := by
  rw [calls_bind]
  split
  · rw [hf, List.append_nil]
  · exact List.append_nil _

/-- A handler that sends nothing. -/
theorem calls_tryCatch_of_silent {h : ε → Coro σ ρ A ε α} (hh : ∀ e s, (h e).calls ans s = [])
    (p : Coro σ ρ A ε α) (s : σ) : (tryCatch p h).calls ans s = p.calls ans s := by
  rw [calls_tryCatch]
  split
  · exact List.append_nil _
  · rw [hh, List.append_nil]

/-! ### Frames -/

/-- Whatever becomes of a coroutine, it moves the state within the relation `R`. -/
def Frames (R : σ → σ → Prop) (p : Coro σ ρ A ε α) : Prop := ∀ s, R s (p.run ans s).2

variable {ans} {R : σ → σ → Prop}

theorem frames_pure (hr : ∀ s, R s s) (a : α) : Frames ans R (pure a : Coro σ ρ A ε α) := hr

theorem frames_throw (hr : ∀ s, R s s) (e : ε) : Frames ans R (throw e : Coro σ ρ A ε α) := hr

theorem frames_get (hr : ∀ s, R s s) : Frames ans R (MonadState.get : Coro σ ρ A ε σ) := hr

theorem frames_modify {f : σ → σ} (h : ∀ s, R s (f s)) :
    Frames ans R (modify f : Coro σ ρ A ε PUnit) := h

theorem frames_call {q : ρ} (h : ∀ s, R s (ans q s).2) :
    Frames ans R (call q : Coro σ ρ A ε (A q)) := by
  intro s
  rw [run_call]
  exact h s

theorem frames_fromExcept (hr : ∀ s, R s s) (r : Except ε α) :
    Frames ans R (fromExcept r : Coro σ ρ A ε α) := by
  intro s
  rw [run_fromExcept]
  exact hr s

theorem frames_bind (ht : ∀ s₁ s₂ s₃, R s₁ s₂ → R s₂ s₃ → R s₁ s₃) {p : Coro σ ρ A ε α}
    {f : α → Coro σ ρ A ε β} (hp : Frames ans R p) (hf : ∀ a, Frames ans R (f a)) :
    Frames ans R (p >>= f) := by
  intro s
  have h := hp s
  rw [run_bind]
  split
  · rename_i a s' hrun
    rw [hrun] at h
    exact ht _ _ _ h (hf a s')
  · rename_i e s' hrun
    rw [hrun] at h
    exact h

theorem frames_tryCatch (ht : ∀ s₁ s₂ s₃, R s₁ s₂ → R s₂ s₃ → R s₁ s₃) {p : Coro σ ρ A ε α}
    {f : ε → Coro σ ρ A ε α} (hp : Frames ans R p) (hf : ∀ e, Frames ans R (f e)) :
    Frames ans R (tryCatch p f) := by
  intro s
  have h := hp s
  rw [run_tryCatch]
  split
  · rename_i a s' hrun
    rw [hrun] at h
    exact h
  · rename_i e s' hrun
    rw [hrun] at h
    exact ht _ _ _ h (hf e s')

theorem frames_ite {c : Prop} [Decidable c] {p p' : Coro σ ρ A ε α} (hp : Frames ans R p)
    (hp' : Frames ans R p') : Frames ans R (if c then p else p') := by
  split
  · exact hp
  · exact hp'

end Run

/-! ### Specifications -/

section Sat
variable {I : σ → Prop} {G : σ → σ → Prop}
  {Q Q' : List (Exchange A ε) → σ → σ → Except ε α → Prop}
  {l : List (Exchange A ε)} {s₀ s : σ}

@[simp] theorem sat_pure {a : α} :
    (pure a : Coro σ ρ A ε α).Sat I G Q l s₀ s ↔ Q l s₀ s (.ok a) := Iff.rfl

@[simp] theorem sat_throw {e : ε} :
    (throw e : Coro σ ρ A ε α).Sat I G Q l s₀ s ↔ Q l s₀ s (.error e) := Iff.rfl

@[simp] theorem sat_get {Q : List (Exchange A ε) → σ → σ → Except ε σ → Prop} :
    (MonadState.get : Coro σ ρ A ε σ).Sat I G Q l s₀ s ↔ Q l s₀ s (.ok s) := Iff.rfl

@[simp] theorem sat_modify {f : σ → σ}
    {Q : List (Exchange A ε) → σ → σ → Except ε PUnit → Prop} :
    (modify f : Coro σ ρ A ε PUnit).Sat I G Q l s₀ s ↔ Q l s₀ (f s) (.ok ()) := Iff.rfl

@[simp] theorem sat_call {q : ρ} {Q : List (Exchange A ε) → σ → σ → Except ε (A q) → Prop} :
    (call q : Coro σ ρ A ε (A q)).Sat I G Q l s₀ s ↔
      I s ∧ G s₀ s ∧ ∀ a s₁, I s₁ → Q (l ++ [⟨q, a⟩]) s₁ s₁ a := by
  refine and_congr_right fun _ => and_congr_right fun _ => ?_
  refine forall_congr' fun a => ?_
  cases a <;> exact Iff.rfl

@[simp] theorem sat_fromExcept {r : Except ε α} :
    (fromExcept r : Coro σ ρ A ε α).Sat I G Q l s₀ s ↔ Q l s₀ s r := by
  cases r <;> exact Iff.rfl

/-- What is left to show of a sequence once its first part is over. -/
def andThen (I : σ → Prop) (G : σ → σ → Prop)
    (Q : List (Exchange A ε) → σ → σ → Except ε β → Prop) (f : α → Coro σ ρ A ε β)
    (l : List (Exchange A ε)) (s₀ s : σ) : Except ε α → Prop
  | .ok a => (f a).Sat I G Q l s₀ s
  | .error e => Q l s₀ s (.error e)

/-- What is left to show of a `try` once its body is over. -/
def orElse (I : σ → Prop) (G : σ → σ → Prop)
    (Q : List (Exchange A ε) → σ → σ → Except ε α → Prop) (h : ε → Coro σ ρ A ε α)
    (l : List (Exchange A ε)) (s₀ s : σ) : Except ε α → Prop
  | .ok a => Q l s₀ s (.ok a)
  | .error e => (h e).Sat I G Q l s₀ s

/-- **The rule for a sequence.** -/
theorem sat_bind {Q : List (Exchange A ε) → σ → σ → Except ε β → Prop}
    {f : α → Coro σ ρ A ε β} : ∀ (p : Coro σ ρ A ε α) {l : List (Exchange A ε)} {s₀ s : σ},
    (p >>= f).Sat I G Q l s₀ s ↔ p.Sat I G (andThen I G Q f) l s₀ s
  | .ret _, _, _, _ => Iff.rfl
  | .raise _, _, _, _ => Iff.rfl
  | .get k, _, _, s => sat_bind (k s)
  | .set _ k, _, _, _ => sat_bind k
  | .await _ k, _, _, _ =>
    and_congr_right fun _ => and_congr_right fun _ =>
      forall_congr' fun a => forall_congr' fun _ => forall_congr' fun _ => sat_bind (k a)

/-- **The rule for `try`.** -/
theorem sat_tryCatch {h : ε → Coro σ ρ A ε α} :
    ∀ (p : Coro σ ρ A ε α) {l : List (Exchange A ε)} {s₀ s : σ},
    (tryCatch p h).Sat I G Q l s₀ s ↔ p.Sat I G (orElse I G Q h) l s₀ s
  | .ret _, _, _, _ => Iff.rfl
  | .raise _, _, _, _ => Iff.rfl
  | .get k, _, _, s => sat_tryCatch (k s)
  | .set _ k, _, _, _ => sat_tryCatch k
  | .await _ k, _, _, _ =>
    and_congr_right fun _ => and_congr_right fun _ =>
      forall_congr' fun a => forall_congr' fun _ => forall_congr' fun _ => sat_tryCatch (k a)

/-- **The rule of consequence.** -/
theorem sat_mono (hQ : ∀ l s₀ s r, Q l s₀ s r → Q' l s₀ s r) :
    ∀ (p : Coro σ ρ A ε α) {l : List (Exchange A ε)} {s₀ s : σ},
    p.Sat I G Q l s₀ s → p.Sat I G Q' l s₀ s
  | .ret _, _, _, _, h => hQ _ _ _ _ h
  | .raise _, _, _, _, h => hQ _ _ _ _ h
  | .get k, _, _, s, h => sat_mono hQ (k s) h
  | .set _ k, _, _, _, h => sat_mono hQ k h
  | .await _ k, _, _, _, ⟨hi, hg, h⟩ =>
    ⟨hi, hg, fun a s₁ h₁ => sat_mono hQ (k a) (h a s₁ h₁)⟩

theorem Sat.mono {p : Coro σ ρ A ε α} (h : p.Sat I G Q l s₀ s)
    (hQ : ∀ l s₀ s r, Q l s₀ s r → Q' l s₀ s r) : p.Sat I G Q' l s₀ s := sat_mono hQ p h

/-- Two specifications of one coroutine. -/
theorem sat_and : ∀ (p : Coro σ ρ A ε α) {l : List (Exchange A ε)} {s₀ s : σ},
    p.Sat I G Q l s₀ s → p.Sat I G Q' l s₀ s →
      p.Sat I G (fun l s₀ s r => Q l s₀ s r ∧ Q' l s₀ s r) l s₀ s
  | .ret _, _, _, _, h, h' => ⟨h, h'⟩
  | .raise _, _, _, _, h, h' => ⟨h, h'⟩
  | .get k, _, _, s, h, h' => sat_and (k s) h h'
  | .set _ k, _, _, _, h, h' => sat_and k h h'
  | .await _ k, _, _, _, ⟨hi, hg, h⟩, ⟨_, _, h'⟩ =>
    ⟨hi, hg, fun a s₁ h₁ => sat_and (k a) (h a s₁ h₁) (h' a s₁ h₁)⟩

/-- A callee's specification, used inside a caller. -/
theorem Sat.bind {Q' : List (Exchange A ε) → σ → σ → Except ε β → Prop}
    {p : Coro σ ρ A ε α} {f : α → Coro σ ρ A ε β} (hp : p.Sat I G Q l s₀ s)
    (hok : ∀ l s₀ s a, Q l s₀ s (.ok a) → (f a).Sat I G Q' l s₀ s)
    (herr : ∀ l s₀ s e, Q l s₀ s (.error e) → Q' l s₀ s (.error e)) :
    (p >>= f).Sat I G Q' l s₀ s := by
  refine (sat_bind p).mpr (hp.mono fun l s₀ s r h => ?_)
  cases r with
  | ok a => exact hok l s₀ s a h
  | error e => exact herr l s₀ s e h

/-- A choice between two coroutines. -/
theorem sat_ite {c : Prop} [Decidable c] {p p' : Coro σ ρ A ε α}
    (ht : c → p.Sat I G Q l s₀ s) (he : ¬ c → p'.Sat I G Q l s₀ s) :
    (if c then p else p').Sat I G Q l s₀ s := by
  by_cases h : c
  · rw [if_pos h]; exact ht h
  · rw [if_neg h]; exact he h

/-- What a segment guarantees: at an `await`, or at the end. -/
def Stop.Good (I : σ → Prop) (G : σ → σ → Prop)
    (Q : List (Exchange A ε) → σ → σ → Except ε α → Prop) (l : List (Exchange A ε)) (s₀ : σ) :
    Stop σ ρ A ε α → Prop
  | .done r s => Q l s₀ s r
  | .wait s q k => I s ∧ G s₀ s ∧ ∀ a s₁, I s₁ → (k a).Sat I G Q (l ++ [⟨q, a⟩]) s₁ s₁

theorem sat_advance : ∀ (p : Coro σ ρ A ε α) {s : σ},
    p.Sat I G Q l s₀ s → (p.advance s).Good I G Q l s₀
  | .ret _, _, h => h
  | .raise _, _, h => h
  | .get k, s, h => sat_advance (k s) h
  | .set _ k, _, h => sat_advance k h
  | .await _ _, _, h => h

end Sat

end Coro

end TTLockConnect.Async.Coroutine
