import TTLockConnect.Async.Requests

/-! # What a task may rely on

`Sends` knows of the state after a wait only that it keeps the invariant. Where the others also never
undo something, as a flag that is not taken down again, that is a relation `R` between earlier and later
states; `Among` is the specification of a coroutine that may rely on `R` while it waits, and keeps it
from each wait to the next. -/

namespace TTLockConnect.Async.Relies

open TTLockConnect.Async.Coroutine TTLockConnect.Async.Coroutine.Coro TTLockConnect.Async.Runs
open TTLockConnect.Async.Component TTLockConnect.Async.EventLoop TTLockConnect.Async.Requests

variable {σ τ ρ ρ' : Type} {A : ρ → Type} {A' : ρ' → Type} {ε α β W : Type}

/-- **What a coroutine sends among others that keep `R`**; `e` is the state in which it was resumed. It
ends in `Q`, of that state and the last one. -/
def Among (I : σ → Prop) (R : σ → σ → Prop) (ok : σ → ρ → Prop) (Q : σ → σ → Except ε α → Prop) :
    Coro σ ρ A ε α → σ → σ → Prop
  | .ret a, e, s => Q e s (.ok a)
  | .raise err, e, s => Q e s (.error err)
  | .get k, e, s => Among I R ok Q (k s) e s
  | .set s k, e, _ => Among I R ok Q k e s
  | .await q k, e, s => ok s q ∧ I s ∧ R e s ∧ ∀ a s', I s' → R s s' → Among I R ok Q (k a) s' s'

section Rules
variable {I : σ → Prop} {R : σ → σ → Prop} {ok : σ → ρ → Prop}
  {Q Q' : σ → σ → Except ε α → Prop} {e s : σ}

theorem among_mono (hQ : ∀ e s r, Q e s r → Q' e s r) :
    ∀ (p : Coro σ ρ A ε α) {e s : σ}, Among I R ok Q p e s → Among I R ok Q' p e s
  | .ret _, _, _, h => hQ _ _ _ h
  | .raise _, _, _, h => hQ _ _ _ h
  | .get k, _, s, h => among_mono hQ (k s) h
  | .set _ k, _, _, h => among_mono hQ k h
  | .await _ k, _, _, ⟨hok, hi, hr, h⟩ =>
    ⟨hok, hi, hr, fun a s' hs hss => among_mono hQ (k a) (h a s' hs hss)⟩

/-- Less is asked of each request. -/
theorem among_weaken {ok' : σ → ρ → Prop} (hok : ∀ s q, ok s q → ok' s q) :
    ∀ (p : Coro σ ρ A ε α) {e s : σ}, Among I R ok Q p e s → Among I R ok' Q p e s
  | .ret _, _, _, h => h
  | .raise _, _, _, h => h
  | .get k, _, s, h => among_weaken hok (k s) h
  | .set _ k, _, _, h => among_weaken hok k h
  | .await _ k, _, _, ⟨hq, hi, hr, h⟩ =>
    ⟨hok _ _ hq, hi, hr, fun a s' hs hss => among_weaken hok (k a) (h a s' hs hss)⟩

/-- What is left to show of a sequence once its first part is over. -/
def andThen (I : σ → Prop) (R : σ → σ → Prop) (ok : σ → ρ → Prop) (Q : σ → σ → Except ε β → Prop)
    (f : α → Coro σ ρ A ε β) (e s : σ) : Except ε α → Prop
  | .ok a => Among I R ok Q (f a) e s
  | .error err => Q e s (.error err)

theorem among_bind {Q : σ → σ → Except ε β → Prop} {f : α → Coro σ ρ A ε β} :
    ∀ (p : Coro σ ρ A ε α) {e s : σ}, Among I R ok (andThen I R ok Q f) p e s →
      Among I R ok Q (p >>= f) e s
  | .ret _, _, _, h => h
  | .raise _, _, _, h => h
  | .get k, _, s, h => among_bind (k s) h
  | .set _ k, _, _, h => among_bind k h
  | .await _ k, _, _, ⟨hok, hi, hr, h⟩ =>
    ⟨hok, hi, hr, fun a s' hs hss => among_bind (k a) (h a s' hs hss)⟩

/-- **The rule for a sequence.** -/
theorem Among.bind {Q' : σ → σ → Except ε β → Prop} {p : Coro σ ρ A ε α} {f : α → Coro σ ρ A ε β}
    (hp : Among I R ok Q p e s) (hok : ∀ e s a, Q e s (.ok a) → Among I R ok Q' (f a) e s)
    (herr : ∀ e s err, Q e s (.error err) → Q' e s (.error err)) :
    Among I R ok Q' (p >>= f) e s := by
  refine among_bind p (among_mono (fun e s r h => ?_) p hp)
  cases r with
  | ok a => exact hok e s a h
  | error err => exact herr e s err h

theorem among_get_bind {Q : σ → σ → Except ε β → Prop} {f : σ → Coro σ ρ A ε β}
    (h : Among I R ok Q (f s) e s) : Among I R ok Q (MonadState.get >>= f) e s := h

theorem among_modify_bind {Q : σ → σ → Except ε β → Prop} {g : σ → σ}
    {f : PUnit → Coro σ ρ A ε β} (h : Among I R ok Q (f ()) e (g s)) :
    Among I R ok Q (modify g >>= f) e s := h

theorem among_ite {c : Prop} [Decidable c] {p p' : Coro σ ρ A ε α}
    (ht : c → Among I R ok Q p e s) (he : ¬ c → Among I R ok Q p' e s) :
    Among I R ok Q (if c then p else p') e s := by
  by_cases h : c
  · rw [if_pos h]
    exact ht h
  · rw [if_neg h]
    exact he h

/-- **What has been so since an earlier state**: at the end `R` still relates that state. -/
theorem among_since [IsTrans σ R] {s₀ : σ} (hQ : ∀ e s r, Q e s r → R e s) :
    ∀ (p : Coro σ ρ A ε α) {e s : σ}, R s₀ e → Among I R ok Q p e s →
      Among I R ok (fun e s r => Q e s r ∧ R s₀ s) p e s
  | .ret _, _, _, h₀, h => ⟨h, trans_of R h₀ (hQ _ _ _ h)⟩
  | .raise _, _, _, h₀, h => ⟨h, trans_of R h₀ (hQ _ _ _ h)⟩
  | .get k, _, s, h₀, h => among_since hQ (k s) h₀ h
  | .set _ k, _, _, h₀, h => among_since hQ k h₀ h
  | .await _ k, _, _, h₀, ⟨hok, hi, hr, h⟩ =>
    ⟨hok, hi, hr, fun a s' hs hss =>
      among_since hQ (k a) (trans_of R (trans_of R h₀ hr) hss) (h a s' hs hss)⟩

/-- **The rule for a component**, whose own states are not in `R`. -/
theorem among_within {place : Place τ σ} {name : ρ → ρ'} {reply : ∀ q, A' (name q) → A q}
    {Q : σ → Except ε α → Prop} {I' J : τ → Prop} {R' : τ → τ → Prop} {ok' : τ → ρ' → Prop}
    [IsPreorder τ R'] (hget : ∀ t, I' t ↔ I (place.get t) ∧ J t)
    (hput : ∀ s t, J t → J (place.put s t) ∧ R' t (place.put s t))
    (hname : ∀ t q, J t → ok (place.get t) q → ok' t (name q)) :
    ∀ (p : Coro σ ρ A ε α) {e t : τ}, J t → R' e t → Sends I ok Q p (place.get t) →
      Among I' R' ok' (fun e t r => Q (place.get t) r ∧ J t ∧ R' e t) (within place name reply p) e t
  | .ret _, _, _, hj, hr, h => ⟨h, hj, hr⟩
  | .raise _, _, _, hj, hr, h => ⟨h, hj, hr⟩
  | .get k, _, t, hj, hr, h => among_within hget hput hname (k (place.get t)) hj hr h
  | .set s k, _, t, hj, hr, h => by
    obtain ⟨hj', hr'⟩ := hput s t hj
    refine among_within hget hput hname k hj' (trans_of R' hr hr') ?_
    rw [place.get_put]
    exact h
  | .await q k, _, t, hj, hr, ⟨hok, hi, h⟩ => by
    refine ⟨hname t q hj hok, (hget t).mpr ⟨hi, hj⟩, hr, fun a t' ht _ => ?_⟩
    obtain ⟨hi', hj'⟩ := (hget t').mp ht
    exact among_within hget hput hname (k (a.map (reply q))) hj' (refl_of R' t') (h _ _ hi')

end Rules

/-! ### The pool -/

section Pool
variable {prog : W → Coro σ ρ A ε Unit} {P P' : Pool σ ρ A ε W} {l : Label A ε W}
  {I : σ → Prop} {R : σ → σ → Prop} {ok : W → σ → σ → ρ → Prop}

/-- Where a segment stops that was resumed in `e`. -/
def Stopped (I : σ → Prop) (R : σ → σ → Prop) (ok : σ → ρ → Prop)
    (Q : σ → σ → Except ε α → Prop) (e : σ) : Stop σ ρ A ε α → Prop
  | .done r s => Q e s r
  | .wait s q k => ok s q ∧ I s ∧ R e s ∧ ∀ a s', I s' → R s s' → Among I R ok Q (k a) s' s'

theorem stopped_advance {ok : σ → ρ → Prop} {Q : σ → σ → Except ε α → Prop} :
    ∀ (p : Coro σ ρ A ε α) {e s : σ}, Among I R ok Q p e s → Stopped I R ok Q e (p.advance s)
  | .ret _, _, _, h => h
  | .raise _, _, _, h => h
  | .get k, _, s, h => stopped_advance (k s) h
  | .set _ k, _, _, h => stopped_advance k h
  | .await _ _, _, _, h => h

/-- What every job ends in. -/
def Keeps (I : σ → Prop) (R : σ → σ → Prop) (e s : σ) (_ : Except ε α) : Prop := I s ∧ R e s

/-- The invariant of the pool: what its tasks will send, whatever the others do that is in `R`. -/
structure Inv (I : σ → Prop) (R : σ → σ → Prop) (ok : W → σ → σ → ρ → Prop)
    (P : Pool σ ρ A ε W) : Prop where
  shared : I P.shared
  tasks : ∀ t ∈ P.tasks, ∀ a s, I s → R P.shared s →
    Among I R (ok t.job t.born) (Keeps I R) (t.cont a) s s

theorem inv_put {t : Task σ ρ A ε W} {s : σ} {ts : List (Task σ ρ A ε W)} [IsTrans σ R]
    (hP : Inv I R ok P) (hi : I s) (hr : R P.shared s)
    (ht : ∀ a s', I s' → R s s' → Among I R (ok t.job t.born) (Keeps I R) (t.cont a) s' s')
    (hts : ∀ u ∈ ts, u ∈ P.tasks ∨ u = t) : Inv I R ok ⟨s, ts⟩ := by
  refine ⟨hi, fun u hu a s' hs hss => ?_⟩
  rcases hts u hu with h | rfl
  · exact hP.tasks u h a s' hs (trans_of R hr hss)
  · exact ht a s' hs hss

theorem step_among [IsPreorder σ R]
    (hspec : ∀ w s, I s → Among I R (ok w s) (Keeps I R) (prog w) s s)
    (hP : Inv I R ok P) (h : P.step prog l = some P') :
    (Inv I R ok P' ∧ R P.shared P'.shared) ∧
      ∀ t, sent prog P l = some t → ok t.job t.born P'.shared t.req := by
  have hm := Pool.moved_of_step h
  generalize P.ended prog l = e at hm
  cases hm with
  | @through w r s hadv =>
    have hs := stopped_advance _ (hspec w _ hP.shared)
    rw [hadv] at hs
    obtain ⟨hi, hr⟩ := hs
    refine ⟨⟨⟨hi, fun t ht a s' hs' hss => ?_⟩, hr⟩, fun t ht => ?_⟩
    · exact hP.tasks t ht a s' hs' (trans_of R hr hss)
    · simp [sent, hadv] at ht
  | @started w s q k hadv =>
    have hs := stopped_advance _ (hspec w _ hP.shared)
    rw [hadv] at hs
    obtain ⟨hok, hi, hr, hk⟩ := hs
    refine ⟨⟨inv_put (t := ⟨w, P.shared, [], q, k⟩) hP hi hr hk fun u hu => ?_, hr⟩,
      fun t ht => ?_⟩
    · exact (List.mem_append.mp hu).imp_right List.mem_singleton.mp
    · simp only [sent, hadv, Option.some.injEq] at ht
      subst ht
      exact hok
  | @ended i ans t r s hi hadv =>
    have hmem := List.mem_of_getElem? hi
    have hs := stopped_advance _ (hP.tasks t hmem (ans t.req) _ hP.shared (refl_of R _))
    rw [hadv] at hs
    obtain ⟨his, hr⟩ := hs
    refine ⟨⟨⟨his, fun u hu a s' hs' hss => ?_⟩, hr⟩, fun t' ht => ?_⟩
    · exact hP.tasks u (List.mem_of_mem_eraseIdx hu) a s' hs' (trans_of R hr hss)
    · simp [sent, hi, hadv] at ht
  | @moved i ans t s q k hi hadv =>
    have hmem := List.mem_of_getElem? hi
    have hs := stopped_advance _ (hP.tasks t hmem (ans t.req) _ hP.shared (refl_of R _))
    rw [hadv] at hs
    obtain ⟨hok, his, hr, hk⟩ := hs
    refine ⟨⟨inv_put (t := ⟨t.job, t.born, t.log ++ [⟨t.req, ans t.req⟩], q, k⟩) hP his hr hk
      fun u hu => List.mem_or_eq_of_mem_set hu, hr⟩, fun t' ht => ?_⟩
    simp only [sent, hi, hadv, Option.some.injEq] at ht
    subst ht
    exact hok

/-- **What is sent in a run, and what is kept**: each request is `ok` at the moment it is sent, and
every move keeps `R`. -/
theorem run_among [IsPreorder σ R]
    (hspec : ∀ w s, I s → Among I R (ok w s) (Keeps I R) (prog w) s s) {s₀ : σ} (h0 : I s₀)
    {τ : List (Move (Pool σ ρ A ε W) (Label A ε W))}
    (hr : Run (fun P l => P.step prog l) ⟨s₀, []⟩ τ P) :
    ∀ m ∈ τ, (I m.dst.shared ∧ R m.src.shared m.dst.shared) ∧
      ∀ t, sent prog m.src m.label = some t → ok t.job t.born m.dst.shared t.req := by
  have hall := (hr.invariant (Inv I R ok) ⟨h0, List.forall_mem_nil _⟩
    fun P l P' hP h => (step_among hspec hP h).1.1).2
  intro m hm
  obtain ⟨⟨hdst, hstays⟩, hsent⟩ :=
    step_among hspec (hall m hm).1 (hr.step_of_mem m hm)
  exact ⟨⟨hdst.shared, hstays⟩, hsent⟩

end Pool

end TTLockConnect.Async.Relies
