import TTLockConnect.Async.Mutex

/-! # What a coroutine leaves alone

A part `f` of the shared state that most of a coroutine does not touch, such as a record of what the
tasks have done: `Quiet f p` says that every segment of `p` leaves it as it is, whatever the others
make of it while `p` waits. The rules follow the text of `p`, and `Quiet.done` and `Quiet.wait` are what a
segment then keeps. -/

namespace TTLockConnect.Async.Segments

open TTLockConnect.Async.Coroutine TTLockConnect.Async.Coroutine.Coro TTLockConnect.Async.Mutex

section Coro
variable {σ ρ γ : Type} {A : ρ → Type} {ε α β : Type} (f : σ → γ)

/-! ### Where a segment stops -/

/-- The first segment of a sequence. -/
theorem advance_bind (g : α → Coro σ ρ A ε β) : ∀ (p : Coro σ ρ A ε α) (s : σ),
    (p >>= g).advance s = match p.advance s with
      | .done (.ok a) s' => (g a).advance s'
      | .done (.error e) s' => .done (.error e) s'
      | .wait s' q k => .wait s' q fun a => k a >>= g
  | .ret _, _ => rfl
  | .raise _, _ => rfl
  | .get k, s => advance_bind g (k s) s
  | .set s k, _ => advance_bind g k s
  | .await _ _, _ => rfl

/-- The first segment of a `try`. -/
theorem advance_tryCatch (h : ε → Coro σ ρ A ε α) : ∀ (p : Coro σ ρ A ε α) (s : σ),
    (tryCatch p h).advance s = match p.advance s with
      | .done (.ok a) s' => .done (.ok a) s'
      | .done (.error e) s' => (h e).advance s'
      | .wait s' q k => .wait s' q fun a => tryCatch (k a) h
  | .ret _, _ => rfl
  | .raise _, _ => rfl
  | .get k, s => advance_tryCatch h (k s) s
  | .set s k, _ => advance_tryCatch h k s
  | .await _ _, _ => rfl

/-! ### Quiet coroutines -/

/-- In the segment it is in, `f` was `c` and stays so, and so on in every segment that follows. -/
def Keeping (c : γ) : Coro σ ρ A ε α → σ → Prop
  | .ret _, s => f s = c
  | .raise _, s => f s = c
  | .get k, s => Keeping c (k s) s
  | .set s k, _ => Keeping c k s
  | .await _ k, s => f s = c ∧ ∀ a s', Keeping (f s') (k a) s'

/-- **The coroutine leaves `f` alone.** -/
def Quiet (p : Coro σ ρ A ε α) : Prop := ∀ s, Keeping f (f s) p s

variable {f} {p : Coro σ ρ A ε α}

/-- What a segment keeps, and that the rest is quiet. -/
def Stays (f : σ → γ) (c : γ) : Stop σ ρ A ε α → Prop
  | .done _ s => f s = c
  | .wait s _ k => f s = c ∧ ∀ a, Quiet f (k a)

theorem stays_advance {c : γ} : ∀ (p : Coro σ ρ A ε α) {s : σ}, Keeping f c p s →
    Stays f c (p.advance s)
  | .ret _, _, h => h
  | .raise _, _, h => h
  | .get k, _, h => stays_advance (k _) h
  | .set _ k, _, h => stays_advance k h
  | .await _ _, _, h => ⟨h.1, fun a s' => h.2 a s'⟩

/-- **A segment of a quiet coroutine.** -/
theorem Quiet.stop (hp : Quiet f p) (s : σ) : Stays f (f s) (p.advance s) := stays_advance p (hp s)

/-- A quiet coroutine that ends. -/
theorem Quiet.done (hp : Quiet f p) {s s' : σ} {r : Except ε α} (h : p.advance s = .done r s') :
    f s' = f s := by
  have hstop := hp.stop s
  rwa [h] at hstop

/-- A quiet coroutine that waits. -/
theorem Quiet.wait (hp : Quiet f p) {s s' : σ} {q : ρ} {k : Except ε (A q) → Coro σ ρ A ε α}
    (h : p.advance s = .wait s' q k) : f s' = f s ∧ ∀ a, Quiet f (k a) := by
  have hstop := hp.stop s
  rwa [h] at hstop

theorem quiet_pure (a : α) : Quiet f (pure a : Coro σ ρ A ε α) := fun _ => rfl

theorem quiet_throw (e : ε) : Quiet f (throw e : Coro σ ρ A ε α) := fun _ => rfl

theorem quiet_modify {g : σ → σ} (h : ∀ s, f (g s) = f s) :
    Quiet f (modify g : Coro σ ρ A ε PUnit) := h

theorem quiet_call (q : ρ) : Quiet f (call q : Coro σ ρ A ε (A q)) := by
  refine fun s => ⟨rfl, fun a s' => ?_⟩
  cases a <;> exact rfl

theorem keeping_bind {c : γ} {g : α → Coro σ ρ A ε β} (hg : ∀ a, Quiet f (g a)) :
    ∀ (p : Coro σ ρ A ε α) {s : σ}, Keeping f c p s → Keeping f c (p >>= g) s
  | .ret a, s, h => by
    have h : f s = c := h
    rw [← h]
    exact hg a s
  | .raise _, _, h => h
  | .get k, s, h => keeping_bind hg (k s) h
  | .set _ k, _, h => keeping_bind hg k h
  | .await _ k, _, h => ⟨h.1, fun a s' => keeping_bind hg (k a) (h.2 a s')⟩

/-- **The rule for a sequence.** -/
theorem Quiet.bind {g : α → Coro σ ρ A ε β} (hp : Quiet f p) (hg : ∀ a, Quiet f (g a)) :
    Quiet f (p >>= g) := fun s => keeping_bind hg p (hp s)

theorem keeping_tryCatch {c : γ} {g : ε → Coro σ ρ A ε α} (hg : ∀ e, Quiet f (g e)) :
    ∀ (p : Coro σ ρ A ε α) {s : σ}, Keeping f c p s → Keeping f c (tryCatch p g) s
  | .ret _, _, h => h
  | .raise e, s, h => by
    have h : f s = c := h
    rw [← h]
    exact hg e s
  | .get k, s, h => keeping_tryCatch hg (k s) h
  | .set _ k, _, h => keeping_tryCatch hg k h
  | .await _ k, _, h => ⟨h.1, fun a s' => keeping_tryCatch hg (k a) (h.2 a s')⟩

/-- **The rule for `try`.** -/
theorem Quiet.tryCatch {g : ε → Coro σ ρ A ε α} (hp : Quiet f p) (hg : ∀ e, Quiet f (g e)) :
    Quiet f (tryCatch p g) := fun s => keeping_tryCatch hg p (hp s)

theorem quiet_get_bind {g : σ → Coro σ ρ A ε β} (hg : ∀ s, Quiet f (g s)) :
    Quiet f (get >>= g) := fun s => hg s s

theorem quiet_ite {c : Prop} [Decidable c] {p' : Coro σ ρ A ε α} (hp : Quiet f p)
    (hp' : Quiet f p') : Quiet f (if c then p else p') := by
  split
  · exact hp
  · exact hp'

end Coro

/-! ### With a lock -/

section Locking
variable {δ ρ γ : Type} {A : ρ → Type} {ε α : Type} {f : δ → γ}

/-- What the lock guards, without the lock. -/
abbrev ofData (f : δ → γ) (s : Guarded δ) : γ := f s.data

theorem quiet_modifyData {g : δ → δ} (h : ∀ d, f (g d) = f d) :
    Quiet (ofData f) (modifyData g : Locking δ ρ A ε Unit) := quiet_modify fun s => h s.data

theorem quiet_modifyData_bind {g : δ → δ} {p : Unit → Locking δ ρ A ε α} (h : ∀ d, f (g d) = f d)
    (hp : Quiet (ofData f) (p ())) : Quiet (ofData f) (modifyData g >>= p) :=
  (quiet_modifyData h).bind fun _ => hp

/-- **The rule for `async with`.** -/
theorem quiet_withLock {body : Locking δ ρ A ε α} (h : Quiet (ofData f) body) :
    Quiet (ofData f) (withLock body) := by
  have hrelease : Quiet (ofData f) (release : Locking δ ρ A ε Unit) := quiet_modify fun _ => rfl
  refine (quiet_call _).bind fun _ => Quiet.bind (h.tryCatch fun e => ?_) fun a => ?_
  · exact hrelease.bind fun _ => quiet_throw e
  · exact hrelease.bind fun _ => quiet_pure a

end Locking

end TTLockConnect.Async.Segments
