import TTLockConnect.Async.Component
import TTLockConnect.Async.EventLoop

/-! # What the tasks of an event loop send

`Sends I ok Q p` says of a coroutine among others that each request it sends is `ok` in the state in
which it is sent, whatever it has been replied and whatever has become of the shared state while it
waited, as long as the state keeps `I`. If every job does so then in every interleaving each request
is `ok` at the moment it is sent. -/

namespace TTLockConnect.Async.Requests

open TTLockConnect.Async.Coroutine TTLockConnect.Async.Coroutine.Coro TTLockConnect.Async.Runs
open TTLockConnect.Async.Component TTLockConnect.Async.EventLoop

variable {σ τ ρ ρ' : Type} {A : ρ → Type} {A' : ρ' → Type} {ε α β W : Type}

/-- **What a coroutine sends**, see the head of this file. It ends in `Q`. -/
def Sends (I : σ → Prop) (ok : σ → ρ → Prop) (Q : σ → Except ε α → Prop) :
    Coro σ ρ A ε α → σ → Prop
  | .ret a, s => Q s (.ok a)
  | .raise e, s => Q s (.error e)
  | .get k, s => Sends I ok Q (k s) s
  | .set s k, _ => Sends I ok Q k s
  | .await q k, s => ok s q ∧ I s ∧ ∀ a s', I s' → Sends I ok Q (k a) s'

section Rules
variable {I : σ → Prop} {ok : σ → ρ → Prop} {Q Q' : σ → Except ε α → Prop} {s : σ}

theorem sends_mono (hQ : ∀ s r, Q s r → Q' s r) :
    ∀ (p : Coro σ ρ A ε α) {s : σ}, Sends I ok Q p s → Sends I ok Q' p s
  | .ret _, _, h => hQ _ _ h
  | .raise _, _, h => hQ _ _ h
  | .get k, s, h => sends_mono hQ (k s) h
  | .set _ k, _, h => sends_mono hQ k h
  | .await _ k, _, ⟨hok, hi, h⟩ => ⟨hok, hi, fun a s' hs => sends_mono hQ (k a) (h a s' hs)⟩

/-- Less is asked of each request. -/
theorem sends_weaken {ok' : σ → ρ → Prop} (hok : ∀ s q, ok s q → ok' s q) :
    ∀ (p : Coro σ ρ A ε α) {s : σ}, Sends I ok Q p s → Sends I ok' Q p s
  | .ret _, _, h => h
  | .raise _, _, h => h
  | .get k, s, h => sends_weaken hok (k s) h
  | .set _ k, _, h => sends_weaken hok k h
  | .await _ k, _, ⟨hq, hi, h⟩ =>
    ⟨hok _ _ hq, hi, fun a s' hs => sends_weaken hok (k a) (h a s' hs)⟩

/-- What is left to show of a sequence once its first part is over. -/
def andThen (I : σ → Prop) (ok : σ → ρ → Prop) (Q : σ → Except ε β → Prop)
    (f : α → Coro σ ρ A ε β) (s : σ) : Except ε α → Prop
  | .ok a => Sends I ok Q (f a) s
  | .error e => Q s (.error e)

theorem sends_bind {Q : σ → Except ε β → Prop} {f : α → Coro σ ρ A ε β} :
    ∀ (p : Coro σ ρ A ε α) {s : σ}, Sends I ok (andThen I ok Q f) p s → Sends I ok Q (p >>= f) s
  | .ret _, _, h => h
  | .raise _, _, h => h
  | .get k, s, h => sends_bind (k s) h
  | .set _ k, _, h => sends_bind k h
  | .await _ k, _, ⟨hok, hi, h⟩ => ⟨hok, hi, fun a s' hs => sends_bind (k a) (h a s' hs)⟩

/-- **The rule for a sequence.** -/
theorem Sends.bind {Q' : σ → Except ε β → Prop} {p : Coro σ ρ A ε α} {f : α → Coro σ ρ A ε β}
    (hp : Sends I ok Q p s) (hok : ∀ s a, Q s (.ok a) → Sends I ok Q' (f a) s)
    (herr : ∀ s e, Q s (.error e) → Q' s (.error e)) : Sends I ok Q' (p >>= f) s := by
  refine sends_bind p (sends_mono (fun s r h => ?_) p hp)
  cases r with
  | ok a => exact hok s a h
  | error e => exact herr s e h

theorem sends_get_bind {Q : σ → Except ε β → Prop} {f : σ → Coro σ ρ A ε β}
    (h : Sends I ok Q (f s) s) : Sends I ok Q (MonadState.get >>= f) s := h

theorem sends_modify_bind {Q : σ → Except ε β → Prop} {g : σ → σ}
    {f : PUnit → Coro σ ρ A ε β} (h : Sends I ok Q (f ()) (g s)) :
    Sends I ok Q (modify g >>= f) s := h

/-- **The rule for `try`.** -/
theorem sends_tryCatch {f : ε → Coro σ ρ A ε α} (hok : ∀ s a, Q s (.ok a) → Q' s (.ok a))
    (herr : ∀ s e, Q s (.error e) → Sends I ok Q' (f e) s) :
    ∀ (p : Coro σ ρ A ε α) {s : σ}, Sends I ok Q p s → Sends I ok Q' (tryCatch p f) s
  | .ret _, _, h => hok _ _ h
  | .raise _, _, h => herr _ _ h
  | .get k, s, h => sends_tryCatch hok herr (k s) h
  | .set _ k, _, h => sends_tryCatch hok herr k h
  | .await _ k, _, ⟨hgood, hi, h⟩ =>
    ⟨hgood, hi, fun a s' hs => sends_tryCatch hok herr (k a) (h a s' hs)⟩

/-- **The rule for a request.** -/
theorem sends_call {q : ρ} {Q : σ → Except ε (A q) → Prop} (hgood : ok s q) (hi : I s)
    (h : ∀ r s', I s' → Q s' r) : Sends I ok Q (call q : Coro σ ρ A ε (A q)) s := by
  refine ⟨hgood, hi, fun r s' hs => ?_⟩
  cases r with
  | ok a => exact h (.ok a) s' hs
  | error e => exact h (.error e) s' hs

theorem sends_call_bind {q : ρ} {Q : σ → Except ε β → Prop} {f : A q → Coro σ ρ A ε β}
    (hgood : ok s q) (hi : I s) (herr : ∀ e s', I s' → Q s' (.error e))
    (hok : ∀ a s', I s' → Sends I ok Q (f a) s') : Sends I ok Q (call q >>= f) s :=
  (sends_call (Q := fun s' r => I s' ∧ ∀ a, r = .ok a → Sends I ok Q (f a) s') hgood hi
    fun _ s' hs => ⟨hs, fun a _ => hok a s' hs⟩).bind (fun _ a h => h.2 a rfl)
      fun s' e h => herr e s' h.1

theorem sends_fromExcept {r : Except ε α} (h : Q s r) :
    Sends I ok Q (fromExcept r : Coro σ ρ A ε α) s := by
  cases r <;> exact h

theorem sends_ite {c : Prop} [Decidable c] {p p' : Coro σ ρ A ε α} (ht : c → Sends I ok Q p s)
    (he : ¬ c → Sends I ok Q p' s) : Sends I ok Q (if c then p else p') s := by
  by_cases h : c
  · rw [if_pos h]
    exact ht h
  · rw [if_neg h]
    exact he h

/-- **The rule for a component**: in the whole it sends the same, under the names it has there. -/
theorem sends_within {place : Place τ σ} {name : ρ → ρ'} {reply : ∀ q, A' (name q) → A q}
    {I' J : τ → Prop} {ok' : τ → ρ' → Prop} (hget : ∀ t, I' t ↔ I (place.get t) ∧ J t)
    (hput : ∀ s t, J t → J (place.put s t))
    (hname : ∀ t q, J t → ok (place.get t) q → ok' t (name q)) :
    ∀ (p : Coro σ ρ A ε α) {t : τ}, J t → Sends I ok Q p (place.get t) →
      Sends I' ok' (fun t r => Q (place.get t) r ∧ J t) (within place name reply p) t
  | .ret _, _, hj, h => ⟨h, hj⟩
  | .raise _, _, hj, h => ⟨h, hj⟩
  | .get k, t, hj, h => sends_within hget hput hname (k (place.get t)) hj h
  | .set s k, t, hj, h => by
    refine sends_within hget hput hname k (hput s t hj) ?_
    rw [place.get_put]
    exact h
  | .await q k, t, hj, ⟨hok, hi, h⟩ => by
    refine ⟨hname t q hj hok, (hget t).mpr ⟨hi, hj⟩, fun a t' ht => ?_⟩
    obtain ⟨hi', hj'⟩ := (hget t').mp ht
    exact sends_within hget hput hname (k (a.map (reply q))) hj' (h _ _ hi')

/-- What a coroutine sends that runs alone. -/
theorem sends_calls {ok : ρ → Prop} {ans : (q : ρ) → σ → Except ε (A q) × σ} :
    ∀ (p : Coro σ ρ A ε α) {s : σ}, Sends (fun _ => True) (fun _ => ok) Q p s →
      ∀ x ∈ p.calls ans s, ok x.1
  | .ret _, _, _ => List.forall_mem_nil _
  | .raise _, _, _ => List.forall_mem_nil _
  | .get k, s, h => sends_calls (k s) h
  | .set _ k, _, h => sends_calls k h
  | .await q k, s, ⟨hok, _, h⟩ =>
    List.forall_mem_cons.mpr ⟨hok, sends_calls (k (ans q s).1) (h _ _ trivial)⟩

end Rules

/-! ### The pool -/

/-- The task that a move leaves suspended, at the request it has just sent. -/
def sent (prog : W → Coro σ ρ A ε Unit) (P : Pool σ ρ A ε W) :
    Label A ε W → Option (Task σ ρ A ε W)
  | .start w =>
    match (prog w).advance P.shared with
    | .done _ _ => none
    | .wait _ q k => some ⟨w, P.shared, [], q, k⟩
  | .reply i ans =>
    match P.tasks[i]? with
    | none => none
    | some t =>
      match (t.cont (ans t.req)).advance P.shared with
      | .done _ _ => none
      | .wait _ q k => some ⟨t.job, t.born, t.log ++ [⟨t.req, ans t.req⟩], q, k⟩

section Pool
variable {prog : W → Coro σ ρ A ε Unit} {P P' : Pool σ ρ A ε W} {l : Label A ε W}
  {I : σ → Prop} {ok : W → σ → σ → ρ → Prop}

/-- Where a segment stops, of which so much is known. -/
def Stopped (I : σ → Prop) (ok : σ → ρ → Prop) (Q : σ → Except ε α → Prop) :
    Stop σ ρ A ε α → Prop
  | .done r s => Q s r
  | .wait s q k => ok s q ∧ I s ∧ ∀ a s', I s' → Sends I ok Q (k a) s'

theorem stopped_advance {I : σ → Prop} {ok : σ → ρ → Prop} {Q : σ → Except ε α → Prop} :
    ∀ (p : Coro σ ρ A ε α) {s : σ}, Sends I ok Q p s → Stopped I ok Q (p.advance s)
  | .ret _, _, h => h
  | .raise _, _, h => h
  | .get k, s, h => stopped_advance (k s) h
  | .set _ k, _, h => stopped_advance k h
  | .await _ _, _, h => h

/-- The invariant of the pool: what its tasks will send. -/
structure Inv (I : σ → Prop) (ok : W → σ → σ → ρ → Prop) (P : Pool σ ρ A ε W) : Prop where
  shared : I P.shared
  tasks : ∀ t ∈ P.tasks, ∀ a s, I s → Sends I (ok t.job t.born) (fun s _ => I s) (t.cont a) s

theorem inv_put {I : σ → Prop} {ok : W → σ → σ → ρ → Prop} {t : Task σ ρ A ε W} {s : σ}
    {ts : List (Task σ ρ A ε W)} (hP : Inv I ok P) (hi : I s)
    (ht : ∀ a s, I s → Sends I (ok t.job t.born) (fun s _ => I s) (t.cont a) s)
    (hts : ∀ u ∈ ts, u ∈ P.tasks ∨ u = t) : Inv I ok ⟨s, ts⟩ := by
  refine ⟨hi, fun u hu => ?_⟩
  rcases hts u hu with h | rfl
  · exact hP.tasks u h
  · exact ht

theorem step_sends (hspec : ∀ w s, I s → Sends I (ok w s) (fun s _ => I s) (prog w) s)
    (hP : Inv I ok P) (h : P.step prog l = some P') :
    Inv I ok P' ∧ ∀ t, sent prog P l = some t → ok t.job t.born P'.shared t.req := by
  have hm := Pool.moved_of_step h
  generalize P.ended prog l = e at hm
  cases hm with
  | @through w r s hadv =>
    have hs := stopped_advance _ (hspec w _ hP.shared)
    rw [hadv] at hs
    refine ⟨⟨hs, hP.tasks⟩, fun t ht => ?_⟩
    simp [sent, hadv] at ht
  | @started w s q k hadv =>
    have hs := stopped_advance _ (hspec w _ hP.shared)
    rw [hadv] at hs
    obtain ⟨hok, hi, hk⟩ := hs
    refine ⟨inv_put (t := ⟨w, P.shared, [], q, k⟩) hP hi hk fun u hu => ?_, fun t ht => ?_⟩
    · exact (List.mem_append.mp hu).imp_right List.mem_singleton.mp
    · simp only [sent, hadv, Option.some.injEq] at ht
      subst ht
      exact hok
  | @ended i ans t r s hi hadv =>
    have hs := stopped_advance _ (hP.tasks t (List.mem_of_getElem? hi) (ans t.req) _ hP.shared)
    rw [hadv] at hs
    refine ⟨⟨hs, fun u hu => hP.tasks u (List.mem_of_mem_eraseIdx hu)⟩, fun t' ht => ?_⟩
    simp [sent, hi, hadv] at ht
  | @moved i ans t s q k hi hadv =>
    have hs := stopped_advance _ (hP.tasks t (List.mem_of_getElem? hi) (ans t.req) _ hP.shared)
    rw [hadv] at hs
    obtain ⟨hok, his, hk⟩ := hs
    refine ⟨inv_put (t := ⟨t.job, t.born, t.log ++ [⟨t.req, ans t.req⟩], q, k⟩) hP his hk
      fun u hu => List.mem_or_eq_of_mem_set hu, fun t' ht => ?_⟩
    simp only [sent, hi, hadv, Option.some.injEq] at ht
    subst ht
    exact hok

/-- **What is sent in a run** is `ok` at the moment it is sent. -/
theorem run_sends (hspec : ∀ w s, I s → Sends I (ok w s) (fun s _ => I s) (prog w) s) {s₀ : σ}
    (h0 : I s₀) {τ : List (Move (Pool σ ρ A ε W) (Label A ε W))}
    (hr : Run (fun P l => P.step prog l) ⟨s₀, []⟩ τ P) :
    I P.shared ∧ ∀ m ∈ τ, I m.dst.shared ∧
      ∀ t, sent prog m.src m.label = some t → ok t.job t.born m.dst.shared t.req := by
  obtain ⟨hend, hall⟩ := hr.invariant (Inv I ok) ⟨h0, List.forall_mem_nil _⟩
    fun P l P' hP h => (step_sends hspec hP h).1
  refine ⟨hend.shared, fun m hm => ⟨(hall m hm).2.shared, ?_⟩⟩
  exact (step_sends hspec (hall m hm).1 (hr.step_of_mem m hm)).2

end Pool

end TTLockConnect.Async.Requests
