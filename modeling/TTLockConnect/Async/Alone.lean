import TTLockConnect.Async.Coroutine

/-! # A coroutine alone, whatever it is replied

`Ends R p s l r s'`: the coroutine `p`, run alone from `s`, has had the exchanges `l` and ended with
`r` in `s'`; while it waits the state moves within `R`. The replies are not those of one answering
function: a request that is sent twice may be answered differently.

`Spec I P p l` is the specification of a coroutine of which nothing but the invariant `I` is known
about the state it reads: it keeps `I`, and `P` holds of the exchanges it ends with, those of `l` in
front, and of its result. `Spec.sound` carries it over to every run. -/

namespace TTLockConnect.Async.Alone

open TTLockConnect.Async.Coroutine TTLockConnect.Async.Coroutine.Coro

variable {σ ρ : Type} {A : ρ → Type} {ε α β : Type}

/-! ### Runs -/

/-- **A run of a coroutine alone**, see the head of this file. -/
def Ends (R : σ → σ → Prop) :
    Coro σ ρ A ε α → σ → List (Exchange A ε) → Except ε α → σ → Prop
  | .ret a, s, l, r, s' => l = [] ∧ r = .ok a ∧ s' = s
  | .raise e, s, l, r, s' => l = [] ∧ r = .error e ∧ s' = s
  | .get k, s, l, r, s' => Ends R (k s) s l r s'
  | .set s k, _, l, r, s' => Ends R k s l r s'
  | .await q k, s, l, r, s' =>
    ∃ a s₁ l', R s s₁ ∧ l = ⟨q, a⟩ :: l' ∧ Ends R (k a) s₁ l' r s'

section Ends
variable {R : σ → σ → Prop} {s s' : σ} {l : List (Exchange A ε)}

@[simp] theorem ends_pure {a : α} {r : Except ε α} :
    Ends R (pure a : Coro σ ρ A ε α) s l r s' ↔ l = [] ∧ r = .ok a ∧ s' = s := Iff.rfl

@[simp] theorem ends_throw {e : ε} {r : Except ε α} :
    Ends R (throw e : Coro σ ρ A ε α) s l r s' ↔ l = [] ∧ r = .error e ∧ s' = s := Iff.rfl

@[simp] theorem ends_modify {f : σ → σ} {r : Except ε PUnit} :
    Ends R (modify f : Coro σ ρ A ε PUnit) s l r s' ↔ l = [] ∧ r = .ok () ∧ s' = f s := Iff.rfl

/-- A sequence: the first part ends with an error, or it returns and the second part ends. -/
theorem ends_bind {f : α → Coro σ ρ A ε β} {r : Except ε β} :
    ∀ {p : Coro σ ρ A ε α} {s : σ} {l : List (Exchange A ε)}, Ends R (p >>= f) s l r s' ↔
      (∃ e, r = .error e ∧ Ends R p s l (.error e) s') ∨
      ∃ a s₁ l₁ l₂, l = l₁ ++ l₂ ∧ Ends R p s l₁ (.ok a) s₁ ∧ Ends R (f a) s₁ l₂ r s'
  | .ret a, s, l => by
    constructor
    · intro h
      exact .inr ⟨a, s, [], l, rfl, ⟨rfl, rfl, rfl⟩, h⟩
    · rintro (⟨e, -, -, h, -⟩ | ⟨a', s₁, l₁, l₂, rfl, ⟨rfl, h, rfl⟩, h'⟩)
      · cases h
      · cases h
        exact h'
  | .raise e, s, l => by
    constructor
    · rintro ⟨rfl, rfl, rfl⟩
      exact .inl ⟨e, rfl, rfl, rfl, rfl⟩
    · rintro (⟨e', rfl, rfl, h, rfl⟩ | ⟨a, s₁, l₁, l₂, -, ⟨-, h, -⟩, -⟩)
      · cases h
        exact ⟨rfl, rfl, rfl⟩
      · cases h
  | .get k, s, l => ends_bind (p := k s)
  | .set s k, _, l => ends_bind (p := k)
  | .await q k, s, l => by
    constructor
    · rintro ⟨a, s₁, l', hR, rfl, h⟩
      rcases (ends_bind (p := k a)).mp h with ⟨e, rfl, hp⟩ | ⟨b, s₂, l₁, l₂, rfl, hp, hf⟩
      · exact .inl ⟨e, rfl, a, s₁, l', hR, rfl, hp⟩
      · exact .inr ⟨b, s₂, ⟨q, a⟩ :: l₁, l₂, rfl, ⟨a, s₁, l₁, hR, rfl, hp⟩, hf⟩
    · rintro (⟨e, rfl, a, s₁, l', hR, rfl, h⟩ | ⟨b, s₂, _, l₂, rfl, ⟨a, s₁, l', hR, rfl, h⟩, h'⟩)
      · exact ⟨a, s₁, l', hR, rfl, ends_bind.mpr (.inl ⟨e, rfl, h⟩)⟩
      · exact ⟨a, s₁, l' ++ l₂, hR, rfl, ends_bind.mpr (.inr ⟨b, s₂, l', l₂, rfl, h, h'⟩)⟩

/-- A `try`: its body returns, or its handler runs. -/
theorem ends_tryCatch {f : ε → Coro σ ρ A ε α} {r : Except ε α} :
    ∀ {p : Coro σ ρ A ε α} {s : σ} {l : List (Exchange A ε)}, Ends R (tryCatch p f) s l r s' ↔
      (∃ a, r = .ok a ∧ Ends R p s l (.ok a) s') ∨
      ∃ e s₁ l₁ l₂, l = l₁ ++ l₂ ∧ Ends R p s l₁ (.error e) s₁ ∧ Ends R (f e) s₁ l₂ r s'
  | .ret a, s, l => by
    constructor
    · rintro ⟨rfl, rfl, rfl⟩
      exact .inl ⟨a, rfl, rfl, rfl, rfl⟩
    · rintro (⟨a', rfl, rfl, h, rfl⟩ | ⟨e, s₁, l₁, l₂, -, ⟨-, h, -⟩, -⟩)
      · cases h
        exact ⟨rfl, rfl, rfl⟩
      · cases h
  | .raise e, s, l => by
    constructor
    · intro h
      exact .inr ⟨e, s, [], l, rfl, ⟨rfl, rfl, rfl⟩, h⟩
    · rintro (⟨a, -, -, h, -⟩ | ⟨e', s₁, l₁, l₂, rfl, ⟨rfl, h, rfl⟩, h'⟩)
      · cases h
      · cases h
        exact h'
  | .get k, s, l => ends_tryCatch (p := k s)
  | .set s k, _, l => ends_tryCatch (p := k)
  | .await q k, s, l => by
    constructor
    · rintro ⟨a, s₁, l', hR, rfl, h⟩
      rcases (ends_tryCatch (p := k a)).mp h with ⟨b, rfl, hp⟩ | ⟨e, s₂, l₁, l₂, rfl, hp, hf⟩
      · exact .inl ⟨b, rfl, a, s₁, l', hR, rfl, hp⟩
      · exact .inr ⟨e, s₂, ⟨q, a⟩ :: l₁, l₂, rfl, ⟨a, s₁, l₁, hR, rfl, hp⟩, hf⟩
    · rintro (⟨b, rfl, a, s₁, l', hR, rfl, h⟩ | ⟨e, s₂, _, l₂, rfl, ⟨a, s₁, l', hR, rfl, h⟩, h'⟩)
      · exact ⟨a, s₁, l', hR, rfl, ends_tryCatch.mpr (.inl ⟨b, rfl, h⟩)⟩
      · exact ⟨a, s₁, l' ++ l₂, hR, rfl, ends_tryCatch.mpr (.inr ⟨e, s₂, l', l₂, rfl, h, h'⟩)⟩

/-- The exchanges of a coroutine that is answered by a function. -/
def exchanges (ans : (q : ρ) → σ → Except ε (A q) × σ) : Coro σ ρ A ε α → σ → List (Exchange A ε)
  | .ret _, _ => []
  | .raise _, _ => []
  | .get k, s => exchanges ans (k s) s
  | .set s k, _ => exchanges ans k s
  | .await q k, s => ⟨q, (ans q s).1⟩ :: exchanges ans (k (ans q s).1) (ans q s).2

/-- **Every answering function gives a run.** -/
theorem ends_run {ans : (q : ρ) → σ → Except ε (A q) × σ} (hR : ∀ q s, R s (ans q s).2) :
    ∀ (p : Coro σ ρ A ε α) (s : σ),
      Ends R p s (exchanges ans p s) (p.run ans s).1 (p.run ans s).2
  | .ret _, _ => ⟨rfl, rfl, rfl⟩
  | .raise _, _ => ⟨rfl, rfl, rfl⟩
  | .get k, s => ends_run hR (k s) s
  | .set s k, _ => ends_run hR k s
  | .await q k, s => ⟨_, _, _, hR q s, rfl, ends_run hR (k (ans q s).1) (ans q s).2⟩

end Ends

/-! ### Loops -/

/-- **A run of a loop**: the bodies that have begun, in their order, each with its exchanges. -/
inductive EndsEach {ι : Type} (R : σ → σ → Prop) (f : ι → Coro σ ρ A ε PUnit) :
    List ι → σ → List (ι × List (Exchange A ε)) → Except ε PUnit → σ → Prop
  | nil {s : σ} : EndsEach R f [] s [] (.ok ()) s
  | next {i : ι} {is : List ι} {s s₁ s' : σ} {l : List (Exchange A ε)}
      {h : List (ι × List (Exchange A ε))} {r : Except ε PUnit} :
      Ends R (f i) s l (.ok ()) s₁ → EndsEach R f is s₁ h r s' →
        EndsEach R f (i :: is) s ((i, l) :: h) r s'
  | raised {i : ι} {is : List ι} {s s' : σ} {l : List (Exchange A ε)} {e : ε} :
      Ends R (f i) s l (.error e) s' → EndsEach R f (i :: is) s [(i, l)] (.error e) s'

/-- The runs of a loop, body by body. -/
theorem ends_forM {ι : Type} {R : σ → σ → Prop} {f : ι → Coro σ ρ A ε PUnit} {s' : σ}
    {r : Except ε PUnit} : ∀ {is : List ι} {s : σ} {l : List (Exchange A ε)},
    Ends R (forM is f) s l r s' ↔ ∃ h, EndsEach R f is s h r s' ∧ l = h.flatMap Prod.snd
  | [], s, l => by
    constructor
    · rintro ⟨rfl, rfl, rfl⟩
      exact ⟨[], .nil, rfl⟩
    · rintro ⟨h, he, rfl⟩
      cases he
      exact ⟨rfl, rfl, rfl⟩
  | i :: is, s, l => by
    rw [List.forM_cons, ends_bind]
    constructor
    · rintro (⟨e, rfl, h⟩ | ⟨⟨⟩, s₁, l₁, l₂, rfl, h, h'⟩)
      · exact ⟨[(i, l)], .raised h, by simp⟩
      · obtain ⟨hs, he, rfl⟩ := ends_forM.mp h'
        exact ⟨(i, l₁) :: hs, .next h he, rfl⟩
    · rintro ⟨_, he, rfl⟩
      cases he with
      | next h he => exact .inr ⟨(), _, _, _, rfl, h, ends_forM.mpr ⟨_, he, rfl⟩⟩
      | raised h =>
        refine .inl ⟨_, rfl, ?_⟩
        simpa using h

/-! ### Specifications -/

/-- **The specification of a coroutine that knows an invariant only**, see the head of this file. -/
def Spec (I : σ → Prop) (P : List (Exchange A ε) → Except ε α → Prop) :
    Coro σ ρ A ε α → List (Exchange A ε) → Prop
  | .ret a, l => P l (.ok a)
  | .raise e, l => P l (.error e)
  | .get k, l => ∀ s, I s → Spec I P (k s) l
  | .set s k, l => I s ∧ Spec I P k l
  | .await q k, l => ∀ a, Spec I P (k a) (l ++ [⟨q, a⟩])

section Spec
variable {I : σ → Prop} {P P' : List (Exchange A ε) → Except ε α → Prop}
  {Q : List (Exchange A ε) → Except ε β → Prop} {l : List (Exchange A ε)}

theorem spec_pure {a : α} (h : P l (.ok a)) : Spec I P (pure a : Coro σ ρ A ε α) l := h

theorem spec_throw {e : ε} (h : P l (.error e)) : Spec I P (throw e : Coro σ ρ A ε α) l := h

theorem spec_fromExcept {r : Except ε α} (h : P l r) :
    Spec I P (fromExcept r : Coro σ ρ A ε α) l := by
  cases r <;> exact h

theorem spec_call {q : ρ} {P : List (Exchange A ε) → Except ε (A q) → Prop}
    (h : ∀ a, P (l ++ [⟨q, a⟩]) a) : Spec I P (call q : Coro σ ρ A ε (A q)) l := by
  rintro (e | a)
  · exact h (.error e)
  · exact h (.ok a)

theorem spec_get_bind {f : σ → Coro σ ρ A ε β} (h : ∀ s, I s → Spec I Q (f s) l) :
    Spec I Q (MonadState.get >>= f) l := h

theorem spec_modify_bind {g : σ → σ} {f : PUnit → Coro σ ρ A ε β} (hg : ∀ s, I s → I (g s))
    (h : Spec I Q (f ()) l) : Spec I Q (modify g >>= f) l :=
  fun s hs => ⟨hg s hs, h⟩

/-- **The rule for a sequence.** -/
theorem spec_bind {f : α → Coro σ ρ A ε β} : ∀ {p : Coro σ ρ A ε α} {l : List (Exchange A ε)},
    Spec I P p l → (∀ l a, P l (.ok a) → Spec I Q (f a) l) →
      (∀ l e, P l (.error e) → Q l (.error e)) → Spec I Q (p >>= f) l
  | .ret a, l, hp, hok, _ => hok l a hp
  | .raise e, l, hp, _, herr => herr l e hp
  | .get _, _, hp, hok, herr => fun s hs => spec_bind (hp s hs) hok herr
  | .set _ _, _, hp, hok, herr => ⟨hp.1, spec_bind hp.2 hok herr⟩
  | .await _ _, _, hp, hok, herr => fun a => spec_bind (hp a) hok herr

/-- **The rule for `try`.** -/
theorem spec_tryCatch {f : ε → Coro σ ρ A ε α} :
    ∀ {p : Coro σ ρ A ε α} {l : List (Exchange A ε)}, Spec I P p l →
      (∀ l a, P l (.ok a) → P' l (.ok a)) → (∀ l e, P l (.error e) → Spec I P' (f e) l) →
        Spec I P' (tryCatch p f) l
  | .ret a, l, hp, hok, _ => hok l a hp
  | .raise e, l, hp, _, herr => herr l e hp
  | .get _, _, hp, hok, herr => fun s hs => spec_tryCatch (hp s hs) hok herr
  | .set _ _, _, hp, hok, herr => ⟨hp.1, spec_tryCatch hp.2 hok herr⟩
  | .await _ _, _, hp, hok, herr => fun a => spec_tryCatch (hp a) hok herr

/-- **What is specified holds of every run** whose waits keep the invariant. -/
theorem Spec.sound {R : σ → σ → Prop} (hR : ∀ s s', R s s' → I s → I s') {r : Except ε α} {s' : σ} :
    ∀ {p : Coro σ ρ A ε α} {l l' : List (Exchange A ε)} {s : σ}, Spec I P p l → I s →
      Ends R p s l' r s' → I s' ∧ P (l ++ l') r
  | .ret _, l, _, _, hp, hs, h => by
    obtain ⟨rfl, rfl, rfl⟩ := h
    exact ⟨hs, by rwa [List.append_nil]⟩
  | .raise _, l, _, _, hp, hs, h => by
    obtain ⟨rfl, rfl, rfl⟩ := h
    exact ⟨hs, by rwa [List.append_nil]⟩
  | .get _, _, _, s, hp, hs, h => Spec.sound hR (hp s hs) hs h
  | .set _ _, _, _, _, hp, _, h => Spec.sound hR hp.2 hp.1 h
  | .await q k, l, _, s, hp, hs, h => by
    obtain ⟨a, s₁, l', hr, rfl, h⟩ := h
    have h' := Spec.sound hR (hp a) (hR s s₁ hr hs) h
    rwa [List.append_assoc, List.singleton_append] at h'

end Spec

end TTLockConnect.Async.Alone
