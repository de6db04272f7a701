import TTLockConnect.Async.Coroutine

/-! # A coroutine of a component

A coroutine that was written for the state and the requests of one component runs as well where the
component is a part of something larger: it reads and writes its part, and sends its requests under
the names they have there. Run alone, it does there what it does on the component alone. -/

namespace TTLockConnect.Async.Component

open TTLockConnect.Async.Coroutine TTLockConnect.Async.Coroutine.Coro

variable {σ τ ρ ρ' : Type} {A : ρ → Type} {A' : ρ' → Type} {ε α : Type}

/-- Where a state `τ` has a part `σ`. -/
structure Place (τ σ : Type) where
  get : τ → σ
  put : σ → τ → τ
  get_put : ∀ s t, get (put s t) = s
  put_put : ∀ s s' t, put s' (put s t) = put s' t
  put_get : ∀ t, put (get t) t = t

variable (place : Place τ σ) (name : ρ → ρ') (reply : ∀ q, A' (name q) → A q)

/-- **A coroutine of the component, as one of the whole.** -/
def within : Coro σ ρ A ε α → Coro τ ρ' A' ε α
  | .ret a => .ret a
  | .raise e => .raise e
  | .get k => .get fun t => within (k (place.get t))
  | .set s k => .get fun t => .set (place.put s t) (within k)
  | .await q k => .await (name q) fun r => within (k (r.map (reply q)))

section Rules
variable {place name reply} {ans : (q : ρ) → σ → Except ε (A q) × σ}
  {ans' : (q : ρ') → τ → Except ε (A' q) × τ}

/-- The whole answers the requests of the component as the component's own answers do. -/
def Answers (place : Place τ σ) (name : ρ → ρ') (reply : ∀ q, A' (name q) → A q)
    (ans : (q : ρ) → σ → Except ε (A q) × σ) (ans' : (q : ρ') → τ → Except ε (A' q) × τ) : Prop :=
  ∀ q t, (ans' (name q) t).1.map (reply q) = (ans q (place.get t)).1 ∧
    (ans' (name q) t).2 = place.put (ans q (place.get t)).2 t

/-- **Run alone**, it ends as on the component, with the rest unchanged. -/
theorem run_within (h : Answers place name reply ans ans') : ∀ (p : Coro σ ρ A ε α) (t : τ),
    (within place name reply p).run ans' t =
      ((p.run ans (place.get t)).1, place.put (p.run ans (place.get t)).2 t)
  | .ret a, t => by
    rw [run, place.put_get]
    rfl
  | .raise e, t => by
    rw [run, place.put_get]
    rfl
  | .get k, t => run_within h (k (place.get t)) t
  | .set s k, t => by
    have hk := run_within h k (place.put s t)
    rw [place.get_put, place.put_put] at hk
    exact hk
  | .await q k, t => by
    have hk := run_within h (k (ans q (place.get t)).1) (place.put (ans q (place.get t)).2 t)
    rw [place.get_put, place.put_put] at hk
    rw [within, run, (h q t).1, (h q t).2]
    exact hk

/-- **What it sends** is what it sends on the component. -/
theorem calls_within (h : Answers place name reply ans ans') : ∀ (p : Coro σ ρ A ε α) (t : τ),
    ((within place name reply p).calls ans' t).map Prod.fst =
      ((p.calls ans (place.get t)).map Prod.fst).map name
  | .ret _, _ => rfl
  | .raise _, _ => rfl
  | .get k, t => calls_within h (k (place.get t)) t
  | .set s k, t => by
    have hk := calls_within h k (place.put s t)
    rw [place.get_put] at hk
    exact hk
  | .await q k, t => by
    have hk := calls_within h (k (ans q (place.get t)).1) (place.put (ans q (place.get t)).2 t)
    rw [place.get_put] at hk
    rw [within, calls, (h q t).1, (h q t).2, List.map_cons, hk]
    rfl

end Rules

end TTLockConnect.Async.Component
