import TTLockConnect.Async.Mutex
import TTLockConnect.Async.TwoRuns

/-! # Two models of one coroutine

A coroutine over one state, and another over a state that a lock guards, which model the same program
in more and in less detail. `Matches R` says that they await the same in states that `R` relates, go on
alike from whatever such states they resume in, and end alike; between two awaits each moves its own
state as it likes. So alone, and with the same replies, they come to the same. -/

namespace TTLockConnect.Async.Matching

open TTLockConnect.Async.Coroutine TTLockConnect.Async.Coroutine.Coro TTLockConnect.Async.Mutex
open TTLockConnect.Async.TwoRuns (Agree)

variable {σ δ ρ : Type} {A : ρ → Type} {ε α β α' β' : Type}

/-- **Two coroutines that do the same**: `R` relates their states at every await and at the end, where
`V` relates their values. -/
inductive Matches (R : σ → δ → Prop) (V : α → β → Prop) :
    Coro σ ρ A ε α → Locking δ ρ A ε β → σ → Guarded δ → Prop
  | ret {a : α} {b : β} {s : σ} {t : Guarded δ} :
      V a b → R s t.data → Matches R V (.ret a) (.ret b) s t
  | raise {e : ε} {s : σ} {t : Guarded δ} : R s t.data → Matches R V (.raise e) (.raise e) s t
  | getLeft {k : σ → Coro σ ρ A ε α} {p' : Locking δ ρ A ε β} {s : σ} {t : Guarded δ} :
      Matches R V (k s) p' s t → Matches R V (.get k) p' s t
  | setLeft {s' : σ} {p : Coro σ ρ A ε α} {p' : Locking δ ρ A ε β} {s : σ} {t : Guarded δ} :
      Matches R V p p' s' t → Matches R V (.set s' p) p' s t
  | getRight {p : Coro σ ρ A ε α} {k : Guarded δ → Locking δ ρ A ε β} {s : σ} {t : Guarded δ} :
      Matches R V p (k t) s t → Matches R V p (.get k) s t
  | setRight {t' : Guarded δ} {p : Coro σ ρ A ε α} {p' : Locking δ ρ A ε β} {s : σ}
      {t : Guarded δ} : Matches R V p p' s t' → Matches R V p (.set t' p') s t
  | await {q : ρ} {k : Except ε (A q) → Coro σ ρ A ε α}
      {k' : Except ε (A q) → Locking δ ρ A ε β} {s : σ} {t : Guarded δ} : R s t.data →
      (∀ a s' t', R s' t'.data → Matches R V (k a) (k' a) s' t') →
      Matches R V (.await q k) (.await (.ask q) k') s t

variable {R : σ → δ → Prop} {V : α → β → Prop} {V' : α' → β' → Prop} {s : σ} {t : Guarded δ}

/-! ### Rules -/

/-- **The rule for a sequence.** -/
theorem Matches.bind {p : Coro σ ρ A ε α} {p' : Locking δ ρ A ε β} {f : α → Coro σ ρ A ε α'}
    {f' : β → Locking δ ρ A ε β'} (hp : Matches R V p p' s t)
    (hf : ∀ a b s t, V a b → R s t.data → Matches R V' (f a) (f' b) s t) :
    Matches R V' (p >>= f) (p' >>= f') s t := by
  induction hp with
  | ret hv hr => exact hf _ _ _ _ hv hr
  | raise hr => exact .raise hr
  | getLeft _ ih => exact .getLeft ih
  | setLeft _ ih => exact .setLeft ih
  | getRight _ ih => exact .getRight ih
  | setRight _ ih => exact .setRight ih
  | await hr _ ih => exact .await hr fun a s' t' h => ih a s' t' h

/-- A value that only the left one goes on to make something of. -/
theorem Matches.map_left {p : Coro σ ρ A ε α} {p' : Locking δ ρ A ε β} (hp : Matches R V p p' s t)
    {f : α → α'} {V' : α' → β → Prop} (hf : ∀ a b, V a b → V' (f a) b) :
    Matches R V' (p >>= fun a => pure (f a)) p' s t := by
  induction hp with
  | ret hv hr => exact .ret (hf _ _ hv) hr
  | raise hr => exact .raise hr
  | getLeft _ ih => exact .getLeft ih
  | setLeft _ ih => exact .setLeft ih
  | getRight _ ih => exact .getRight ih
  | setRight _ ih => exact .setRight ih
  | await hr _ ih => exact .await hr fun a s' t' h => ih a s' t' h

theorem matches_pure {a : α} {b : β} (hv : V a b) (hr : R s t.data) :
    Matches R V (pure a : Coro σ ρ A ε α) (pure b) s t := .ret hv hr

theorem matches_throw (e : ε) (hr : R s t.data) :
    Matches R V (throw e : Coro σ ρ A ε α) (throw e) s t := .raise hr

theorem matches_call (q : ρ) (hr : R s t.data) :
    Matches R Eq (call q : Coro σ ρ A ε (A q)) (ask q) s t := by
  refine .await hr fun a s' t' h => ?_
  cases a with
  | ok a => exact .ret rfl h
  | error e => exact .raise h

theorem matches_get_bind_left {f : σ → Coro σ ρ A ε α} {p' : Locking δ ρ A ε β}
    (h : Matches R V (f s) p' s t) : Matches R V (get >>= f) p' s t := .getLeft h

theorem matches_set_bind_left {s' : σ} {f : PUnit → Coro σ ρ A ε α} {p' : Locking δ ρ A ε β}
    (h : Matches R V (f ()) p' s' t) : Matches R V (set s' >>= f) p' s t := .setLeft h

theorem matches_get_bind_right {p : Coro σ ρ A ε α} {f : Guarded δ → Locking δ ρ A ε β}
    (h : Matches R V p (f t) s t) : Matches R V p (get >>= f) s t := .getRight h

/-- What only the left one does. -/
theorem matches_modify_bind_left {g : σ → σ} {f : PUnit → Coro σ ρ A ε α} {p' : Locking δ ρ A ε β}
    (h : Matches R V (f ()) p' (g s) t) : Matches R V (modify g >>= f) p' s t :=
  .getLeft (.setLeft h)

/-- What only the right one does. -/
theorem matches_modifyData_bind_right {p : Coro σ ρ A ε α} {g : δ → δ}
    {f : Unit → Locking δ ρ A ε β} (h : Matches R V p (f ()) s ⟨t.locked, g t.data⟩) :
    Matches R V p (modifyData g >>= f) s t := .getRight (.setRight h)

/-- What both do. -/
theorem matches_modify_bind {g : σ → σ} {g' : δ → δ} {f : PUnit → Coro σ ρ A ε α}
    {f' : Unit → Locking δ ρ A ε β} (h : Matches R V (f ()) (f' ()) (g s) ⟨t.locked, g' t.data⟩) :
    Matches R V (modify g >>= f) (modifyData g' >>= f') s t :=
  matches_modify_bind_left (matches_modifyData_bind_right h)

theorem matches_modify {g : σ → σ} {g' : δ → δ} {V : PUnit → Unit → Prop} (hv : V () ())
    (hr : R (g s) (g' t.data)) :
    Matches R V (modify g : Coro σ ρ A ε PUnit) (modifyData g') s t :=
  .getLeft (.setLeft (.getRight (.setRight (.ret hv hr))))

/-- A choice that both make the same way. -/
theorem matches_ite {c c' : Prop} [Decidable c] [Decidable c'] (hc : c ↔ c') {p r : Coro σ ρ A ε α}
    {p' r' : Locking δ ρ A ε β} (ht : c → Matches R V p p' s t) (he : ¬ c → Matches R V r r' s t) :
    Matches R V (if c then p else r) (if c' then p' else r') s t := by
  by_cases h : c
  · rw [if_pos h, if_pos (hc.mp h)]
    exact ht h
  · rw [if_neg h, if_neg fun h' => h (hc.mpr h')]
    exact he h

/-! ### Alone -/

/-- **Alone, they come to the same**, if like states reply alike and stay alike. -/
theorem Matches.run {ans : (q : ρ) → σ → Except ε (A q) × σ}
    {ans' : (q : Demand ρ) → Guarded δ → Except ε (Grant A q) × Guarded δ}
    (hans : ∀ q s t, R s t.data → (ans q s).1 = (ans' (.ask q) t).1 ∧
      R (ans q s).2 (ans' (.ask q) t).2.data)
    {p : Coro σ ρ A ε α} {p' : Locking δ ρ A ε β} (h : Matches R V p p' s t) :
    Agree V (p.run ans s).1 (p'.run ans' t).1 ∧
      R (p.run ans s).2 (p'.run ans' t).2.data := by
  induction h with
  | ret hv hr => exact ⟨hv, hr⟩
  | raise hr => exact ⟨rfl, hr⟩
  | getLeft _ ih => exact ih
  | setLeft _ ih => exact ih
  | getRight _ ih => exact ih
  | setRight _ ih => exact ih
  | @await q k k' s t hr _ ih =>
    obtain ⟨ha, hr'⟩ := hans q s t hr
    have h := ih (ans q s).1 _ _ hr'
    rw [ha] at h
    simp only [Coro.run, ha]
    exact h

end TTLockConnect.Async.Matching
