import TTLockConnect.Async.Component
import TTLockConnect.Async.EventLoop

/-! # States that are replays of what was exchanged

`Replays view E p` says of a coroutine among others that a part of the shared state, its `view`, moves
only where a reply arrives, and then as `E` says of the request and the reply, in the very segment the
reply wakes up. If every job does so then in every interleaving the view is what `E` makes of all
exchanges, in the order in which the replies arrived: no update is lost. -/

namespace TTLockConnect.Async.Replay

open TTLockConnect.Async.Coroutine TTLockConnect.Async.Coroutine.Coro TTLockConnect.Async.Runs
open TTLockConnect.Async.EventLoop TTLockConnect.Async.Component

variable {σ τ ρ : Type} {A : ρ → Type} {ε α β W : Type}

/-- **What a coroutine does to the view**, see the head of this file. The segment is to leave `v`; the
last one, and the result, satisfy `Q`. -/
def Replays (view : σ → τ) (E : (q : ρ) → Except ε (A q) → τ → τ)
    (Q : τ → σ → Except ε α → Prop) : Coro σ ρ A ε α → τ → σ → Prop
  | .ret a, v, s => Q v s (.ok a)
  | .raise e, v, s => Q v s (.error e)
  | .get k, v, s => Replays view E Q (k s) v s
  | .set s k, v, _ => Replays view E Q k v s
  | .await q k, v, s => view s = v ∧ ∀ a s', Replays view E Q (k a) (E q a (view s')) s'

/-- The segment has left what it was to leave. -/
def Left (view : σ → τ) (v : τ) (s : σ) (_ : Except ε α) : Prop := view s = v

/-! ### Rules -/

section Rules
variable {view : σ → τ} {E : (q : ρ) → Except ε (A q) → τ → τ} {Q Q' : τ → σ → Except ε α → Prop}
  {v : τ} {s : σ}

theorem replays_mono (hQ : ∀ v s r, Q v s r → Q' v s r) :
    ∀ (p : Coro σ ρ A ε α) {v : τ} {s : σ}, Replays view E Q p v s → Replays view E Q' p v s
  | .ret _, _, _, h => hQ _ _ _ h
  | .raise _, _, _, h => hQ _ _ _ h
  | .get k, _, s, h => replays_mono hQ (k s) h
  | .set _ k, _, _, h => replays_mono hQ k h
  | .await _ k, _, _, ⟨hv, h⟩ => ⟨hv, fun a s' => replays_mono hQ (k a) (h a s')⟩

/-- What is left to show of a sequence once its first part is over. -/
def andThen (view : σ → τ) (E : (q : ρ) → Except ε (A q) → τ → τ) (Q : τ → σ → Except ε β → Prop)
    (f : α → Coro σ ρ A ε β) (v : τ) (s : σ) : Except ε α → Prop
  | .ok a => Replays view E Q (f a) v s
  | .error e => Q v s (.error e)

theorem replays_bind {Q : τ → σ → Except ε β → Prop} {f : α → Coro σ ρ A ε β} :
    ∀ (p : Coro σ ρ A ε α) {v : τ} {s : σ}, Replays view E (andThen view E Q f) p v s →
      Replays view E Q (p >>= f) v s
  | .ret _, _, _, h => h
  | .raise _, _, _, h => h
  | .get k, _, s, h => replays_bind (k s) h
  | .set _ k, _, _, h => replays_bind k h
  | .await _ k, _, _, ⟨hv, h⟩ => ⟨hv, fun a s' => replays_bind (k a) (h a s')⟩

/-- **The rule for a sequence.** -/
theorem Replays.bind {Q' : τ → σ → Except ε β → Prop} {p : Coro σ ρ A ε α}
    {f : α → Coro σ ρ A ε β} (hp : Replays view E Q p v s)
    (hok : ∀ v s a, Q v s (.ok a) → Replays view E Q' (f a) v s)
    (herr : ∀ v s e, Q v s (.error e) → Q' v s (.error e)) :
    Replays view E Q' (p >>= f) v s := by
  refine replays_bind p (replays_mono (fun v s r h => ?_) p hp)
  cases r with
  | ok a => exact hok v s a h
  | error e => exact herr v s e h

theorem replays_get_bind {Q : τ → σ → Except ε β → Prop} {f : σ → Coro σ ρ A ε β}
    (h : Replays view E Q (f s) v s) : Replays view E Q (MonadState.get >>= f) v s := h

theorem replays_modify_bind {Q : τ → σ → Except ε β → Prop} {g : σ → σ}
    {f : PUnit → Coro σ ρ A ε β} (h : Replays view E Q (f ()) v (g s)) :
    Replays view E Q (modify g >>= f) v s := h

/-- **The rule for `try`.** -/
theorem replays_tryCatch {f : ε → Coro σ ρ A ε α} (hok : ∀ v s a, Q v s (.ok a) → Q' v s (.ok a))
    (herr : ∀ v s e, Q v s (.error e) → Replays view E Q' (f e) v s) :
    ∀ (p : Coro σ ρ A ε α) {v : τ} {s : σ}, Replays view E Q p v s →
      Replays view E Q' (tryCatch p f) v s
  | .ret _, _, _, h => hok _ _ _ h
  | .raise _, _, _, h => herr _ _ _ h
  | .get k, _, s, h => replays_tryCatch hok herr (k s) h
  | .set _ k, _, _, h => replays_tryCatch hok herr k h
  | .await _ k, _, _, ⟨hv, h⟩ => ⟨hv, fun a s' => replays_tryCatch hok herr (k a) (h a s')⟩

/-- **The rule for a request.** -/
theorem replays_call_bind {q : ρ} {Q : τ → σ → Except ε β → Prop} {f : A q → Coro σ ρ A ε β}
    (hv : view s = v) (hok : ∀ a s', Replays view E Q (f a) (E q (.ok a) (view s')) s')
    (herr : ∀ e s', Q (E q (.error e) (view s')) s' (.error e)) :
    Replays view E Q (call q >>= f) v s := by
  refine ⟨hv, fun r s' => ?_⟩
  cases r with
  | ok a => exact hok a s'
  | error e => exact herr e s'

theorem replays_ite {c : Prop} [Decidable c] {p p' : Coro σ ρ A ε α}
    (ht : c → Replays view E Q p v s) (he : ¬ c → Replays view E Q p' v s) :
    Replays view E Q (if c then p else p') v s := by
  by_cases h : c
  · rw [if_pos h]
    exact ht h
  · rw [if_neg h]
    exact he h

/-- **The rule for a loop.** -/
theorem replays_forM {γ : Type} {f : γ → Coro σ ρ A ε PUnit}
    (hf : ∀ x v s, view s = v → Replays view E (Left view) (f x) v s) :
    ∀ (xs : List γ) {v : τ} {s : σ}, view s = v → Replays view E (Left view) (forM xs f) v s
  | [], _, _, hv => hv
  | x :: xs, v, s, hv =>
    (hf x v s hv).bind (fun _ _ _ h => replays_forM hf xs h) fun _ _ _ => id

end Rules

/-! ### A component -/

section Component
variable {σ' τ' ρ' : Type} {A' : ρ' → Type} {view : σ → τ} {E : (q : ρ) → Except ε (A q) → τ → τ}
  {view' : σ' → τ'} {E' : (q : ρ') → Except ε (A' q) → τ' → τ'}

/-- A coroutine of a component does to the view of the whole what it does to the part of it that is
the component's. -/
theorem replays_within (place : Place σ' σ) (name : ρ → ρ') (reply : ∀ q, A' (name q) → A q)
    (put : τ → τ' → τ') (hview : ∀ s t, view' (place.put s t) = put (view s) (view' t))
    (hput : ∀ v v' w, put v (put v' w) = put v w)
    (hE : ∀ q a t, E' (name q) a (view' t) =
      put (E q (a.map (reply q)) (view (place.get t))) (view' t)) :
    ∀ (p : Coro σ ρ A ε α) {v : τ} {w : τ'} {t : σ'}, Replays view E (Left view) p v (place.get t) →
      view' t = put (view (place.get t)) w →
        Replays view' E' (Left view') (within place name reply p) (put v w) t
  | .ret _, v, w, t, h, ht => ht.trans (congrArg (put · w) h)
  | .raise _, v, w, t, h, ht => ht.trans (congrArg (put · w) h)
  | .get k, v, w, t, h, ht =>
    replays_within place name reply put hview hput hE (k (place.get t)) h ht
  | .set s k, v, w, t, h, ht => by
    refine replays_within place name reply put hview hput hE k ?_ ?_
    · rw [place.get_put]
      exact h
    · rw [hview, ht, hput, place.get_put]
  | .await q k, v, w, t, ⟨hv, h⟩, ht => by
    refine ⟨ht.trans (congrArg (put · w) hv), fun a t' => ?_⟩
    rw [hE]
    refine replays_within place name reply put hview hput hE (k (a.map (reply q))) (h _ _) ?_
    have hsame := hview (place.get t') t'
    rw [place.put_get] at hsame
    exact hsame

end Component

/-! ### The pool -/

/-- The exchange that a move completes. -/
def completed (P : Pool σ ρ A ε W) : Label A ε W → Option (Exchange A ε)
  | .start _ => none
  | .reply i ans => P.tasks[i]?.map fun t => ⟨t.req, ans t.req⟩

/-- The exchanges that a run completes, in the order in which the replies arrive. -/
def exchanges (τ : List (Move (Pool σ ρ A ε W) (Label A ε W))) : List (Exchange A ε) :=
  τ.filterMap fun m => completed m.src m.label

theorem exchanges_snoc (τ : List (Move (Pool σ ρ A ε W) (Label A ε W)))
    (m : Move (Pool σ ρ A ε W) (Label A ε W)) :
    exchanges (τ ++ [m]) = exchanges τ ++ (completed m.src m.label).toList := by
  rw [exchanges, List.filterMap_append]
  cases hc : completed m.src m.label <;> simp [exchanges, hc]

section Pool
variable {prog : W → Coro σ ρ A ε Unit} {P P' : Pool σ ρ A ε W} {l : Label A ε W}
  {view : σ → τ} {E : (q : ρ) → Except ε (A q) → τ → τ}

/-- What `E` makes of exchanges. -/
def replay (E : (q : ρ) → Except ε (A q) → τ → τ) (v : τ) (xs : List (Exchange A ε)) : τ :=
  xs.foldl (fun v x => E x.1 x.2 v) v

/-- Where a segment stops, of which so much is known. -/
def Stopped (view : σ → τ) (E : (q : ρ) → Except ε (A q) → τ → τ) (v : τ) :
    Stop σ ρ A ε Unit → Prop
  | .done _ s => view s = v
  | .wait s q k => view s = v ∧ ∀ a s', Replays view E (Left view) (k a) (E q a (view s')) s'

theorem stopped_advance : ∀ (p : Coro σ ρ A ε Unit) {v : τ} {s : σ},
    Replays view E (Left view) p v s → Stopped view E v (p.advance s)
  | .ret _, _, _, h => h
  | .raise _, _, _, h => h
  | .get k, _, s, h => stopped_advance (k s) h
  | .set _ k, _, _, h => stopped_advance k h
  | .await _ _, _, _, h => h

/-- The tasks of the pool do to the view what `E` says. -/
def Inv (view : σ → τ) (E : (q : ρ) → Except ε (A q) → τ → τ) (P : Pool σ ρ A ε W) : Prop :=
  ∀ t ∈ P.tasks, ∀ a s, Replays view E (Left view) (t.cont a) (E t.req a (view s)) s

/-- A move moves the view as the exchange says that it completes. -/
theorem step_replays (hspec : ∀ w, started l = some w →
      ∀ s, Replays view E (Left view) (prog w) (view s) s)
    (hP : Inv view E P) (h : P.step prog l = some P') :
    Inv view E P' ∧ view P'.shared = replay E (view P.shared) (completed P l).toList := by
  have hm := Pool.moved_of_step h
  generalize P.ended prog l = e at hm
  cases hm with
  | @through w r s hadv =>
    have hs := stopped_advance _ (hspec w rfl P.shared)
    rw [hadv] at hs
    exact ⟨hP, hs⟩
  | @started w s q k hadv =>
    have hs := stopped_advance _ (hspec w rfl P.shared)
    rw [hadv] at hs
    refine ⟨fun t ht => ?_, hs.1⟩
    rcases List.mem_append.mp ht with ht | ht
    · exact hP t ht
    · rw [List.mem_singleton.mp ht]
      exact hs.2
  | @ended i ans t r s hi hadv =>
    have hs := stopped_advance _ (hP t (List.mem_of_getElem? hi) (ans t.req) P.shared)
    rw [hadv] at hs
    refine ⟨fun u hu => hP u (List.mem_of_mem_eraseIdx hu), ?_⟩
    simp only [completed, hi, Option.map_some, Option.toList_some]
    exact hs
  | @moved i ans t s q k hi hadv =>
    have hs := stopped_advance _ (hP t (List.mem_of_getElem? hi) (ans t.req) P.shared)
    rw [hadv] at hs
    refine ⟨fun u hu => ?_, ?_⟩
    · rcases List.mem_or_eq_of_mem_set hu with hu | rfl
      · exact hP u hu
      · exact hs.2
    · simp only [completed, hi, Option.map_some, Option.toList_some]
      exact hs.1

/-- **The view is the replay of the exchanges**, in every interleaving. -/
theorem run_replays {s₀ : σ} {τ' : List (Move (Pool σ ρ A ε W) (Label A ε W))}
    (hr : Run (fun P l => P.step prog l) ⟨s₀, []⟩ τ' P)
    (hspec : ∀ w ∈ starts τ', ∀ s, Replays view E (Left view) (prog w) (view s) s) :
    view P.shared = replay E (view s₀) (exchanges τ') := by
  suffices h : Inv view E P ∧ view P.shared = replay E (view s₀) (exchanges τ') from h.2
  induction hr with
  | nil => exact ⟨List.forall_mem_nil _, rfl⟩
  | @snoc τ' P P' l _ hs ih =>
    have hold : ∀ w ∈ starts τ', w ∈ starts (τ' ++ [⟨P, l, P'⟩]) := by
      intro w hw
      rw [starts_append]
      exact List.mem_append_left _ hw
    have hnew : ∀ w, started l = some w → w ∈ starts (τ' ++ [⟨P, l, P'⟩]) := by
      intro w hw
      rw [starts_append, starts_single, hw]
      exact List.mem_append_right _ (List.mem_singleton_self w)
    obtain ⟨hP, hview⟩ := ih fun w hw => hspec w (hold w hw)
    obtain ⟨hP', hview'⟩ := step_replays (fun w hw => hspec w (hnew w hw)) hP hs
    refine ⟨hP', ?_⟩
    rw [hview', hview, exchanges_snoc, replay, replay, replay, List.foldl_append]

end Pool

/-- What a replay leaves where each exchange either sets it or leaves it: the last that was set. -/
theorem replay_last {γ : Type} {E : (q : ρ) → Except ε (A q) → τ → τ} {g : τ → Option γ}
    {sets : Exchange A ε → Option γ} (h : ∀ x v, g (E x.1 x.2 v) = (sets x).or (g v)) (v : τ)
    (xs : List (Exchange A ε)) :
    g (replay E v xs) = (xs.filterMap sets).getLast?.or (g v) := by
  induction xs generalizing v with
  | nil => rfl
  | cons x xs ih =>
    have hx : replay E v (x :: xs) = replay E (E x.1 x.2 v) xs := rfl
    rw [hx, ih, h, List.filterMap_cons]
    cases hs : sets x with
    | none => rfl
    | some y =>
      rw [List.getLast?_cons]
      cases (xs.filterMap sets).getLast? <;> rfl

end TTLockConnect.Async.Replay
