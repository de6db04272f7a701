import TTLockConnect.Async.Component
import TTLockConnect.Async.EventLoop

/-! # Coroutines that ask one thing after another

`Asks I qs p` says of a coroutine among others that it sends the requests `qs` in this order, whatever
it is replied and whatever becomes of the shared state while it waits, as long as the state keeps
`I`; an error ends it at once and is raised. If every job has such a list then in every interleaving
each task has gone through the first of its requests, each answered, and stops at the end of the list
or at the first failure. -/

namespace TTLockConnect.Async.Script

open TTLockConnect.Async.Coroutine TTLockConnect.Async.Coroutine.Coro TTLockConnect.Async.Component
open TTLockConnect.Async.Runs TTLockConnect.Async.EventLoop

variable {σ τ ρ ρ' : Type} {A : ρ → Type} {A' : ρ' → Type} {ε α β W : Type}

/-- The coroutine raises `e` before it waits again. -/
def Raises (I : σ → Prop) (e : ε) : Coro σ ρ A ε α → σ → Prop
  | .ret _, _ => False
  | .raise e', s => e' = e ∧ I s
  | .get k, s => Raises I e (k s) s
  | .set s k, _ => Raises I e k s
  | .await _ _, _ => False

/-- **What a coroutine asks**, see the head of this file. -/
def Asks (I : σ → Prop) : Coro σ ρ A ε α → List ρ → σ → Prop
  | .ret _, qs, s => qs = [] ∧ I s
  | .raise _, _, _ => False
  | .get k, qs, s => Asks I (k s) qs s
  | .set s k, qs, _ => Asks I k qs s
  | .await q k, qs, s => ∃ rest, qs = q :: rest ∧ I s ∧
      ∀ s', I s' → (∀ a, Asks I (k (.ok a)) rest s') ∧ ∀ e, Raises I e (k (.error e)) s'

/-! ### Rules -/

section Rules
variable {I : σ → Prop} {qs qs' : List ρ} {s : σ} {e : ε}

theorem raises_bind {f : α → Coro σ ρ A ε β} :
    ∀ (p : Coro σ ρ A ε α) {s : σ}, Raises I e p s → Raises I e (p >>= f) s
  | .ret _, _, h => h.elim
  | .raise _, _, h => h
  | .get k, s, h => raises_bind (k s) h
  | .set _ k, _, h => raises_bind k h
  | .await _ _, _, h => h.elim

theorem asks_bind {f : α → Coro σ ρ A ε β} (hf : ∀ a s, I s → Asks I (f a) qs' s) :
    ∀ (p : Coro σ ρ A ε α) {qs : List ρ} {s : σ}, Asks I p qs s → Asks I (p >>= f) (qs ++ qs') s
  | .ret a, _, s, ⟨hqs, hs⟩ => by
    subst hqs
    exact hf a s hs
  | .raise _, _, _, h => h.elim
  | .get k, _, s, h => asks_bind hf (k s) h
  | .set _ k, _, _, h => asks_bind hf k h
  | .await q k, _, s, ⟨rest, hqs, hs, h⟩ => by
    subst hqs
    refine ⟨rest ++ qs', List.cons_append, hs, fun s' hs' => ⟨fun a => ?_, fun e => ?_⟩⟩
    · exact asks_bind hf (k (.ok a)) ((h s' hs').1 a)
    · exact raises_bind (k (.error e)) ((h s' hs').2 e)

/-- **The rule for a sequence.** -/
theorem Asks.bind {p : Coro σ ρ A ε α} {f : α → Coro σ ρ A ε β} (hp : Asks I p qs s)
    (hf : ∀ a s, I s → Asks I (f a) qs' s) : Asks I (p >>= f) (qs ++ qs') s := asks_bind hf p hp

theorem asks_pure {a : α} (hs : I s) : Asks I (pure a : Coro σ ρ A ε α) [] s := ⟨rfl, hs⟩

theorem asks_modify {f : σ → σ} (hs : I (f s)) :
    Asks I (modify f : Coro σ ρ A ε PUnit) [] s := ⟨rfl, hs⟩

theorem asks_get_bind {f : σ → Coro σ ρ A ε β} (h : Asks I (f s) qs s) :
    Asks I (MonadState.get >>= f) qs s := h

/-- **The rule for a request.** -/
theorem asks_call {q : ρ} (hs : I s) : Asks I (call q : Coro σ ρ A ε (A q)) [q] s :=
  ⟨[], rfl, hs, fun _ hs' => ⟨fun _ => ⟨rfl, hs'⟩, fun _ => ⟨rfl, hs'⟩⟩⟩

theorem asks_call_bind {q : ρ} {f : A q → Coro σ ρ A ε β} (hs : I s)
    (hf : ∀ a s, I s → Asks I (f a) qs s) : Asks I (call q >>= f) (q :: qs) s :=
  (asks_call hs).bind hf

theorem asks_ite {c : Prop} [Decidable c] {p p' : Coro σ ρ A ε α} (ht : c → Asks I p qs s)
    (he : ¬ c → Asks I p' qs s) : Asks I (if c then p else p') qs s := by
  by_cases h : c
  · rw [if_pos h]
    exact ht h
  · rw [if_neg h]
    exact he h

/-- **The rule for a loop.** -/
theorem asks_foldlM {γ : Type} {f : β → γ → Coro σ ρ A ε β} {script : γ → List ρ}
    (hf : ∀ x b s, I s → Asks I (f b x) (script x) s) :
    ∀ (xs : List γ) (b : β) {s : σ}, I s → Asks I (xs.foldlM f b) (xs.flatMap script) s
  | [], _, _, hs => asks_pure hs
  | x :: xs, b, s, hs => by
    rw [List.foldlM_cons, List.flatMap_cons]
    exact (hf x b s hs).bind fun b' s' hs' => asks_foldlM hf xs b' hs'

theorem asks_forM {γ : Type} {f : γ → Coro σ ρ A ε PUnit} {script : γ → List ρ}
    (hf : ∀ x s, I s → Asks I (f x) (script x) s) :
    ∀ (xs : List γ) {s : σ}, I s → Asks I (forM xs f) (xs.flatMap script) s
  | [], _, hs => asks_pure hs
  | x :: xs, s, hs => by
    rw [List.flatMap_cons]
    exact (hf x s hs).bind fun _ s' hs' => asks_forM hf xs hs'

section Component
variable {place : Place τ σ} {name : ρ → ρ'} {reply : ∀ q, A' (name q) → A q} {I' J : τ → Prop}

theorem raises_within (hget : ∀ t, I' t ↔ I (place.get t) ∧ J t)
    (hput : ∀ s t, J t → J (place.put s t)) :
    ∀ (p : Coro σ ρ A ε α) {t : τ}, J t → Raises I e p (place.get t) →
      Raises I' e (within place name reply p) t
  | .ret _, _, _, h => h.elim
  | .raise _, t, hj, ⟨he, hs⟩ => ⟨he, (hget t).mpr ⟨hs, hj⟩⟩
  | .get k, t, hj, h => raises_within hget hput (k (place.get t)) hj h
  | .set s k, t, hj, h => by
    refine raises_within hget hput k (hput s t hj) ?_
    rw [place.get_put]
    exact h
  | .await _ _, _, _, h => h.elim

/-- A coroutine of a component asks the same in the whole, under the names it has there. -/
theorem asks_within (hget : ∀ t, I' t ↔ I (place.get t) ∧ J t)
    (hput : ∀ s t, J t → J (place.put s t)) :
    ∀ (p : Coro σ ρ A ε α) {qs : List ρ} {t : τ}, J t → Asks I p qs (place.get t) →
      Asks I' (within place name reply p) (qs.map name) t
  | .ret _, _, t, hj, ⟨hqs, hs⟩ => ⟨by rw [hqs, List.map_nil], (hget t).mpr ⟨hs, hj⟩⟩
  | .raise _, _, _, _, h => h.elim
  | .get k, _, t, hj, h => asks_within hget hput (k (place.get t)) hj h
  | .set s k, _, t, hj, h => by
    refine asks_within hget hput k (hput s t hj) ?_
    rw [place.get_put]
    exact h
  | .await q k, _, t, hj, ⟨rest, hqs, hs, h⟩ => by
    subst hqs
    refine ⟨rest.map name, List.map_cons, (hget t).mpr ⟨hs, hj⟩, fun t' ht' => ?_⟩
    obtain ⟨hs', hj'⟩ := (hget t').mp ht'
    refine ⟨fun a => ?_, fun e => ?_⟩
    · exact asks_within hget hput (k (.ok (reply q a))) hj' ((h _ hs').1 (reply q a))
    · exact raises_within hget hput (k (.error e)) hj' ((h _ hs').2 e)

end Component

end Rules

/-! ### The pool -/

/-- The exchanges in which every request was answered. -/
def Answered (l : List (Exchange A ε)) : Prop := ∀ x ∈ l, x.2.isOk = true

/-- **How far a list of requests was asked**: to its end, or to the first that failed. -/
def Followed (qs : List ρ) (l : List (Exchange A ε)) : Except ε Unit → Prop
  | .ok _ => l.map Sigma.fst = qs ∧ Answered l
  | .error e => ∃ done q, l = done ++ [⟨q, .error e⟩] ∧ done.map Sigma.fst ++ [q] <+: qs ∧
      Answered done

/-- **A task that is under way**: it has gone through the first of its requests, each answered, and
waits for the next. -/
def Underway (script : W → List ρ) (t : Task σ ρ A ε W) : Prop :=
  t.log.map Sigma.fst ++ [t.req] <+: script t.job ∧ Answered t.log

section Pool
variable {prog : W → Coro σ ρ A ε Unit} {P P' : Pool σ ρ A ε W} {l : Label A ε W}
  {I : σ → Prop} {script : W → List ρ}

/-- A coroutine that waits for the reply to one request has these left to ask. -/
def Resumes (I : σ → Prop) (rest : List ρ) {q : ρ} (k : Except ε (A q) → Coro σ ρ A ε α) : Prop :=
  ∀ s, I s → (∀ a, Asks I (k (.ok a)) rest s) ∧ ∀ e, Raises I e (k (.error e)) s

/-- Where a segment stops, of which so much is known. -/
def Stopped (I : σ → Prop) (qs : List ρ) : Stop σ ρ A ε α → Prop
  | .done r s => qs = [] ∧ r.isOk = true ∧ I s
  | .wait s q k => ∃ rest, qs = q :: rest ∧ I s ∧ Resumes I rest k

theorem stopped_advance : ∀ (p : Coro σ ρ A ε α) {qs : List ρ} {s : σ}, Asks I p qs s →
    Stopped I qs (p.advance s)
  | .ret _, _, _, ⟨hqs, hs⟩ => ⟨hqs, rfl, hs⟩
  | .raise _, _, _, h => h.elim
  | .get k, _, s, h => stopped_advance (k s) h
  | .set _ k, _, _, h => stopped_advance k h
  | .await _ _, _, _, h => h

theorem raises_advance {e : ε} : ∀ (p : Coro σ ρ A ε α) {s : σ}, Raises I e p s →
    ∃ s', p.advance s = .done (.error e) s' ∧ I s'
  | .ret _, _, h => h.elim
  | .raise e', s, ⟨he, hs⟩ => ⟨s, by rw [advance, he], hs⟩
  | .get k, s, h => raises_advance (k s) h
  | .set _ k, _, h => raises_advance k h
  | .await _ _, _, h => h.elim

/-- The invariant of the pool: what its tasks have asked and will ask. -/
structure Inv (I : σ → Prop) (script : W → List ρ) (P : Pool σ ρ A ε W) : Prop where
  shared : I P.shared
  tasks : ∀ t ∈ P.tasks, Answered t.log ∧
    ∃ rest, script t.job = t.log.map Sigma.fst ++ t.req :: rest ∧ Resumes I rest t.cont

theorem Inv.underway (hP : Inv I script P) : ∀ t ∈ P.tasks, Underway script t := by
  intro t ht
  obtain ⟨hall, rest, hscript, -⟩ := hP.tasks t ht
  have hasked : t.log.map Sigma.fst ++ [t.req] <+: script t.job := by
    rw [hscript]
    exact ⟨rest, by simp⟩
  exact ⟨hasked, hall⟩

theorem Answered.snoc {l : List (Exchange A ε)} (h : Answered l) (q : ρ) (a : A q) :
    Answered (l ++ [⟨q, .ok a⟩]) := by
  intro x hx
  rcases List.mem_append.mp hx with hx | hx
  · exact h x hx
  · rw [List.mem_singleton.mp hx]
    rfl

/-- A task that is answered goes on with the rest of its list; one that is not ends there. -/
theorem reply_asks (hP : Inv I script P) {t : Task σ ρ A ε W} (ht : t ∈ P.tasks)
    (r : Except ε (A t.req)) :
    (∃ e s, r = .error e ∧ (t.cont r).advance P.shared = .done (.error e) s ∧ I s) ∨
      Answered (t.log ++ [⟨t.req, r⟩]) ∧ ∃ rest,
        script t.job = t.log.map Sigma.fst ++ t.req :: rest ∧
          Stopped I rest ((t.cont r).advance P.shared) := by
  obtain ⟨hall, rest, hscript, hk⟩ := hP.tasks t ht
  cases r with
  | error e =>
    obtain ⟨s, hadv, hs⟩ := raises_advance _ ((hk _ hP.shared).2 e)
    exact .inl ⟨e, s, rfl, hadv, hs⟩
  | ok a =>
    exact .inr ⟨hall.snoc t.req a, rest, hscript, stopped_advance _ ((hk _ hP.shared).1 a)⟩

theorem step_asks (hspec : ∀ w s, I s → Asks I (prog w) (script w) s) (hP : Inv I script P)
    (h : P.step prog l = some P') :
    Inv I script P' ∧
      ∀ e, P.ended prog l = some e → Followed (script e.job) e.log e.result := by
  have hm := Pool.moved_of_step h
  generalize P.ended prog l = e at hm
  cases hm with
  | @through w r s hadv =>
    have hs := stopped_advance _ (hspec w _ hP.shared)
    rw [hadv] at hs
    obtain ⟨hqs, hr, hi⟩ := hs
    refine ⟨⟨hi, hP.tasks⟩, fun e he => ?_⟩
    cases he
    cases r with
    | ok a => exact ⟨hqs.symm, List.forall_mem_nil _⟩
    | error e => cases hr
  | @started w s q k hadv =>
    have hs := stopped_advance _ (hspec w _ hP.shared)
    rw [hadv] at hs
    obtain ⟨rest, hqs, hi, hk⟩ := hs
    refine ⟨⟨hi, fun u hu => ?_⟩, nofun⟩
    rcases List.mem_append.mp hu with hu | hu
    · exact hP.tasks u hu
    · rw [List.mem_singleton.mp hu]
      exact ⟨List.forall_mem_nil _, rest, hqs, hk⟩
  | @ended i ans t r s hi hadv =>
    have ht := List.mem_of_getElem? hi
    have hleft : ∀ u ∈ P.tasks.eraseIdx i, u ∈ P.tasks := fun u hu => List.mem_of_mem_eraseIdx hu
    rcases reply_asks hP ht (ans t.req) with ⟨e, s', hr, hadv', hs⟩ | ⟨hall, rest, hscript, hs⟩
    · rw [hadv] at hadv'
      cases hadv'
      refine ⟨⟨hs, fun u hu => hP.tasks u (hleft u hu)⟩, fun x hx => ?_⟩
      cases hx
      obtain ⟨hasked, hall⟩ := hP.underway t ht
      rw [hr]
      exact ⟨t.log, t.req, rfl, hasked, hall⟩
    · rw [hadv] at hs
      obtain ⟨hqs, hr, hi⟩ := hs
      refine ⟨⟨hi, fun u hu => hP.tasks u (hleft u hu)⟩, fun x hx => ?_⟩
      cases hx
      subst hqs
      cases r with
      | ok a => exact ⟨by rw [hscript, List.map_append]; rfl, hall⟩
      | error e => cases hr
  | @moved i ans t s q k hi hadv =>
    have ht := List.mem_of_getElem? hi
    rcases reply_asks hP ht (ans t.req) with ⟨e, s', hr, hadv', hs⟩ | ⟨hall, rest, hscript, hs⟩
    · rw [hadv] at hadv'
      cases hadv'
    · rw [hadv] at hs
      obtain ⟨rest', hqs, hi, hk⟩ := hs
      refine ⟨⟨hi, fun u hu => ?_⟩, nofun⟩
      rcases List.mem_or_eq_of_mem_set hu with hu | rfl
      · exact hP.tasks u hu
      · subst hqs
        exact ⟨hall, rest', by rw [hscript, List.map_append, List.append_assoc]; rfl, hk⟩

/-- **Every task follows its list**, in every interleaving: at each moment a task under way has gone
through the first of its requests, and one that ends has come to the end of the list or to the first
that failed. -/
theorem run_asks (hspec : ∀ w s, I s → Asks I (prog w) (script w) s) {s₀ : σ} (h0 : I s₀)
    {τ : List (Move (Pool σ ρ A ε W) (Label A ε W))}
    (hr : Run (fun P l => P.step prog l) ⟨s₀, []⟩ τ P) :
    ∀ m ∈ τ, I m.dst.shared ∧ (∀ t ∈ m.dst.tasks, Underway script t) ∧
      ∀ e, m.src.ended prog m.label = some e → Followed (script e.job) e.log e.result := by
  have hall := (hr.invariant (Inv I script) ⟨h0, List.forall_mem_nil _⟩
    fun P l P' hP h => (step_asks hspec hP h).1).2
  intro m hm
  obtain ⟨hsrc, hdst⟩ := hall m hm
  exact ⟨hdst.shared, hdst.underway, (step_asks hspec hsrc (hr.step_of_mem m hm)).2⟩

end Pool

end TTLockConnect.Async.Script
