import TTLockConnect.Async.EventLoop

/-! # One lock among coroutines

An `asyncio.Lock` on the shared state of an event loop. A task that wants the lock suspends until it
is granted it, which can happen only while it is free, or until it is told of an error instead; a
task gives the lock back without suspending. Which of the tasks that wait comes next is arbitrary.

`Orderly` is the discipline of a coroutine that goes on with or without the lock: what it asks for
without the lock is not critical, only the holder gives the lock back, and no one ends with it.
If every job is orderly then in every run the lock is taken exactly if one task in flight holds it. -/

namespace TTLockConnect.Async.Mutex

open TTLockConnect.Async.Coroutine TTLockConnect.Async.Coroutine.Coro TTLockConnect.Async.Runs
open TTLockConnect.Async.EventLoop

/-- A shared state with a lock. -/
structure Guarded (δ : Type) where
  locked : Bool
  data : δ
  deriving DecidableEq, Repr

/-- What is awaited: the lock, or something else. -/
inductive Demand (ρ : Type) where
  | acquire
  | ask (q : ρ)
  deriving DecidableEq, Repr

/-- Something else, and critical. -/
def Demand.isCritical {ρ : Type} (crit : ρ → Bool) : Demand ρ → Bool
  | .acquire => false
  | .ask q => crit q

/-- The reply to it. -/
abbrev Grant {ρ : Type} (A : ρ → Type) : Demand ρ → Type
  | .acquire => Unit
  | .ask q => A q

/-- A coroutine that may use the lock. -/
abbrev Locking (δ ρ : Type) (A : ρ → Type) (ε α : Type) :=
  Coro (Guarded δ) (Demand ρ) (Grant A) ε α

variable {δ ρ : Type} {A : ρ → Type} {ε α β W : Type}

/-- Await anything but the lock. -/
def ask (q : ρ) : Locking δ ρ A ε (A q) := call (Demand.ask q)

/-- Move the state that the lock guards. -/
def modifyData (f : δ → δ) : Locking δ ρ A ε Unit := modify fun s => { s with data := f s.data }

/-- `lock.release()` -/
def release : Locking δ ρ A ε Unit := modify fun s => { s with locked := false }

/-- `async with lock` -/
def withLock (body : Locking δ ρ A ε α) : Locking δ ρ A ε α := do
  let _ ← call Demand.acquire
  let a ← tryCatch body fun err => do
    release
    throw err
  release
  pure a

/-! ### The event loop with a lock -/

/-- The pool when the lock has been granted, if that is what the move does. -/
def granted (P : Pool (Guarded δ) (Demand ρ) (Grant A) ε W) :
    Label (Grant A) ε W → Option (Pool (Guarded δ) (Demand ρ) (Grant A) ε W)
  | .start _ => some P
  | .reply i ans =>
    match P.tasks[i]? with
    | none => none
    | some t =>
      match t.req, ans .acquire with
      | .acquire, .ok () =>
        if P.shared.locked then none else some { P with shared := { P.shared with locked := true } }
      | _, _ => some P

/-- A move of the event loop. -/
def step (prog : W → Locking δ ρ A ε Unit) (P : Pool (Guarded δ) (Demand ρ) (Grant A) ε W)
    (l : Label (Grant A) ε W) : Option (Pool (Guarded δ) (Demand ρ) (Grant A) ε W) :=
  (granted P l).bind fun P => P.step prog l

/-! ### Orderly coroutines -/

section Orderly
variable (crit : ρ → Bool) (may : Prop)

/-- What makes it orderly to await something, `next` being what follows. -/
def AtAwait (held : Bool) : (q : Demand ρ) → (Except ε (Grant A q) → Bool → Guarded δ → Prop) → Prop
  | .acquire, next => held = false ∧ may ∧ (∀ e s, next (.error e) false s) ∧
      ∀ s, s.locked = true → next (.ok ()) true s
  | .ask q, next => (held = true ∨ crit q = false) ∧
      ∀ a s, (held = true → s.locked = true) → next a held s

/-- **An orderly coroutine**, run with or without the lock. It ends in `Q`. -/
def Orderly (Q : Bool → Guarded δ → Except ε α → Prop) :
    Locking δ ρ A ε α → Bool → Guarded δ → Prop
  | .ret a, held, s => Q held s (.ok a)
  | .raise e, held, s => Q held s (.error e)
  | .get k, held, s => Orderly Q (k s) held s
  | .set s' k, held, s =>
    (held = true ∨ s'.locked = s.locked) ∧ Orderly Q k (held && s'.locked) s'
  | .await q k, held, _ => AtAwait crit may held q fun a held s => Orderly Q (k a) held s

variable {crit may} {Q Q' : Bool → Guarded δ → Except ε α → Prop} {held : Bool} {s : Guarded δ}

theorem AtAwait.mono {q : Demand ρ} {next next' : Except ε (Grant A q) → Bool → Guarded δ → Prop}
    (h : AtAwait crit may held q next) (hn : ∀ a held s, next a held s → next' a held s) :
    AtAwait crit may held q next' := by
  cases q with
  | acquire =>
    obtain ⟨hheld, hmay, herr, hok⟩ := h
    exact ⟨hheld, hmay, fun e s => hn _ _ _ (herr e s), fun s hs => hn _ _ _ (hok s hs)⟩
  | ask q => exact ⟨h.1, fun a s hs => hn _ _ _ (h.2 a s hs)⟩

theorem orderly_mono (hQ : ∀ held s r, Q held s r → Q' held s r) :
    ∀ (p : Locking δ ρ A ε α) {held : Bool} {s : Guarded δ},
    Orderly crit may Q p held s → Orderly crit may Q' p held s
  | .ret _, _, _, h => hQ _ _ _ h
  | .raise _, _, _, h => hQ _ _ _ h
  | .get k, _, s, h => orderly_mono hQ (k s) h
  | .set _ k, _, _, h => ⟨h.1, orderly_mono hQ k h.2⟩
  | .await _ k, _, _, h => AtAwait.mono h fun a _ _ hn => orderly_mono hQ (k a) hn

theorem orderly_bind {Q : Bool → Guarded δ → Except ε β → Prop} {f : α → Locking δ ρ A ε β} :
    ∀ (p : Locking δ ρ A ε α) {held : Bool} {s : Guarded δ},
    Orderly crit may (fun held s r => match r with
      | .ok a => Orderly crit may Q (f a) held s
      | .error e => Q held s (.error e)) p held s → Orderly crit may Q (p >>= f) held s
  | .ret _, _, _, h => h
  | .raise _, _, _, h => h
  | .get k, _, s, h => orderly_bind (k s) h
  | .set _ k, _, _, h => ⟨h.1, orderly_bind k h.2⟩
  | .await _ k, _, _, h => AtAwait.mono h fun a _ _ hn => orderly_bind (k a) hn

theorem orderly_tryCatch {f : ε → Locking δ ρ A ε α} :
    ∀ (p : Locking δ ρ A ε α) {held : Bool} {s : Guarded δ},
    Orderly crit may (fun held s r => match r with
      | .ok a => Q held s (.ok a)
      | .error e => Orderly crit may Q (f e) held s) p held s →
    Orderly crit may Q (tryCatch p f) held s
  | .ret _, _, _, h => h
  | .raise _, _, _, h => h
  | .get k, _, s, h => orderly_tryCatch (k s) h
  | .set _ k, _, _, h => ⟨h.1, orderly_tryCatch k h.2⟩
  | .await _ k, _, _, h => AtAwait.mono h fun a _ _ hn => orderly_tryCatch (k a) hn

theorem orderly_pure {a : α} (h : Q held s (.ok a)) :
    Orderly crit may Q (pure a : Locking δ ρ A ε α) held s := h

theorem orderly_throw {e : ε} (h : Q held s (.error e)) :
    Orderly crit may Q (throw e : Locking δ ρ A ε α) held s := h

theorem orderly_ask {q : ρ} {Q : Bool → Guarded δ → Except ε (A q) → Prop}
    (hq : held = true ∨ crit q = false)
    (h : ∀ a s, (held = true → s.locked = true) → Q held s a) :
    Orderly crit may Q (ask q : Locking δ ρ A ε (A q)) held s := by
  refine ⟨hq, fun a s hs => ?_⟩
  cases a with
  | ok a => exact h (.ok a) s hs
  | error e => exact h (.error e) s hs

/-- A reply and what follows it. -/
theorem orderly_ask_bind {q : ρ} {f : A q → Locking δ ρ A ε α} (hq : held = true ∨ crit q = false)
    (herr : ∀ e s, (held = true → s.locked = true) → Q held s (.error e))
    (hok : ∀ a s, (held = true → s.locked = true) → Orderly crit may Q (f a) held s) :
    Orderly crit may Q (ask q >>= f) held s := by
  refine orderly_bind _ (orderly_ask hq fun r s hs => ?_)
  cases r with
  | ok a => exact hok a s hs
  | error e => exact herr e s hs

theorem orderly_modifyData {f : δ → δ} {Q : Bool → Guarded δ → Except ε Unit → Prop}
    (hs : held = true → s.locked = true) (h : Q held { s with data := f s.data } (.ok ())) :
    Orderly crit may Q (modifyData f : Locking δ ρ A ε Unit) held s := by
  refine ⟨.inr rfl, ?_⟩
  cases held with
  | true =>
    change Q (true && s.locked) _ _
    rw [hs rfl]
    exact h
  | false => exact h

theorem orderly_release {Q : Bool → Guarded δ → Except ε Unit → Prop}
    (h : Q false { s with locked := false } (.ok ())) :
    Orderly crit may Q (release : Locking δ ρ A ε Unit) true s := ⟨.inl rfl, h⟩

/-- **The rule for `async with`**: the body has the lock, and keeps it to its end. -/
theorem orderly_withLock {body : Locking δ ρ A ε α} (hmay : may)
    (hbody : ∀ s, s.locked = true → Orderly crit may (fun held _ _ => held = true) body true s)
    (hQ : ∀ s r, Q false s r) : Orderly crit may Q (withLock body) false s := by
  refine orderly_bind _ ⟨rfl, hmay, fun e s => hQ s _, fun s hs => ?_⟩
  refine orderly_bind _ (orderly_tryCatch _ (orderly_mono ?_ body (hbody s hs)))
  intro held s r hheld
  subst hheld
  cases r with
  | ok a => exact orderly_bind _ (orderly_release (orderly_pure (hQ _ _)))
  | error e => exact orderly_bind _ (orderly_release (orderly_throw (hQ _ _)))

/-! ### What a segment does to the lock -/

/-- The number of tasks that hold the lock. -/
def Guarded.holders (s : Guarded δ) : ℕ := s.locked.toNat

variable (crit may) in
/-- Where an orderly segment stops, and what it has done to the lock. -/
def Stopped (Q : Bool → Guarded δ → Except ε α → Prop) (held : Bool) (s : Guarded δ) :
    Stop (Guarded δ) (Demand ρ) (Grant A) ε α → Prop
  | .done r s' => ∃ held', Q held' s' r ∧ s'.holders + held.toNat = s.holders + held'.toNat
  | .wait s' q k => ∃ held',
      AtAwait crit may held' q (fun a held s => Orderly crit may Q (k a) held s) ∧
      (held' = true → held = true) ∧ s'.holders + held.toNat = s.holders + held'.toNat

theorem Stopped.trans {held' : Bool} {s' : Guarded δ}
    {stop : Stop (Guarded δ) (Demand ρ) (Grant A) ε α} (h : Stopped crit may Q held' s' stop)
    (hheld : held' = true → held = true) (hs : s'.holders + held.toNat = s.holders + held'.toNat) :
    Stopped crit may Q held s stop := by
  cases stop with
  | done r s'' =>
    obtain ⟨held'', hQ, heq⟩ := h
    exact ⟨held'', hQ, by omega⟩
  | wait s'' q k =>
    obtain ⟨held'', haw, hheld', heq⟩ := h
    exact ⟨held'', haw, fun h => hheld (hheld' h), by omega⟩

theorem stopped_advance : ∀ (p : Locking δ ρ A ε α) {held : Bool} {s : Guarded δ},
    Orderly crit may Q p held s → (held = true → s.locked = true) →
      Stopped crit may Q held s (p.advance s)
  | .ret _, held, _, h, _ => ⟨held, h, rfl⟩
  | .raise _, held, _, h, _ => ⟨held, h, rfl⟩
  | .get k, _, s, h, hs => stopped_advance (k s) h hs
  | .await _ _, held, _, h, _ => ⟨held, h, id, rfl⟩
  | .set s' k, held, s, h, hs => by
    have hle : (held && s'.locked) = true → s'.locked = true :=
      fun h => (Bool.and_eq_true_iff.mp h).2
    refine (stopped_advance k h.2 hle).trans (fun h => (Bool.and_eq_true_iff.mp h).1) ?_
    unfold Guarded.holders
    cases held with
    | true => rw [hs rfl, Bool.true_and, Nat.add_comm]
    | false =>
      have heq : s'.locked = s.locked := h.1.resolve_left nofun
      rw [heq, Bool.false_and]

end Orderly

/-! ### The pool -/

section Pool
variable (crit : ρ → Bool) (may : W → Prop)

/-- A task in flight that holds the lock or not, and is orderly from here on. -/
structure TaskOrderly (held : Bool) (t : Task (Guarded δ) (Demand ρ) (Grant A) ε W) : Prop where
  allowed : held = true → may t.job
  awaits : AtAwait crit (may t.job) held t.req fun a held s =>
    Orderly crit (may t.job) (fun held _ _ => held = false) (t.cont a) held s

/-- Orderly tasks, of which so many hold the lock. -/
inductive Holding : List (Task (Guarded δ) (Demand ρ) (Grant A) ε W) → ℕ → Prop where
  | nil : Holding [] 0
  | cons {t : Task (Guarded δ) (Demand ρ) (Grant A) ε W}
      {ts : List (Task (Guarded δ) (Demand ρ) (Grant A) ε W)} {held : Bool} {n : ℕ} :
      TaskOrderly crit may held t → Holding ts n → Holding (t :: ts) (held.toNat + n)

variable {crit may} {ts us : List (Task (Guarded δ) (Demand ρ) (Grant A) ε W)} {n m : ℕ}

theorem Holding.append (ht : Holding crit may ts n) (hu : Holding crit may us m) :
    Holding crit may (ts ++ us) (n + m) := by
  induction ht with
  | nil =>
    rw [Nat.zero_add]
    exact hu
  | cons h _ ih =>
    rw [Nat.add_assoc]
    exact .cons h ih

theorem Holding.of_append (h : Holding crit may (ts ++ us) n) :
    ∃ n₁ n₂, n = n₁ + n₂ ∧ Holding crit may ts n₁ ∧ Holding crit may us n₂ := by
  induction ts generalizing n with
  | nil => exact ⟨0, n, (Nat.zero_add n).symm, .nil, h⟩
  | cons t ts ih =>
    cases h with
    | cons ht hrest =>
      obtain ⟨n₁, n₂, rfl, h₁, h₂⟩ := ih hrest
      exact ⟨_, n₂, (Nat.add_assoc ..).symm, .cons ht h₁, h₂⟩

/-- One task among the others, to be taken away or replaced. -/
theorem Holding.split {t : Task (Guarded δ) (Demand ρ) (Grant A) ε W}
    (h : Holding crit may (ts ++ t :: us) n) : ∃ held m, TaskOrderly crit may held t ∧
      n = held.toNat + m ∧ Holding crit may (ts ++ us) m ∧ ∀ t' held',
        TaskOrderly crit may held' t' → Holding crit may (ts ++ t' :: us) (held'.toNat + m) := by
  obtain ⟨n₁, _, rfl, h₁, h₂⟩ := h.of_append
  cases h₂ with
  | @cons _ _ held n₂ ht h₂ =>
    refine ⟨held, n₁ + n₂, ht, by omega, h₁.append h₂, fun t' held' ht' => ?_⟩
    have hnew := h₁.append (.cons ht' h₂)
    rwa [Nat.add_left_comm] at hnew

/-- Without the lock, the tasks await nothing critical. -/
theorem Holding.countP_le (h : Holding crit may ts n) :
    ts.countP (fun t => t.req.isCritical crit) ≤ n := by
  induction h with
  | nil => exact Nat.le_refl 0
  | @cons t ts held n ht _ ih =>
    rw [List.countP_cons]
    split_ifs with hc
    · have hheld : held = true := by
        have haw := ht.awaits
        cases hreq : t.req with
        | acquire =>
          rw [hreq] at hc
          cases hc
        | ask q =>
          obtain ⟨job, born, log, req, cont⟩ := t
          subst hreq
          exact haw.1.resolve_right fun hq => by
            rw [Demand.isCritical, hq] at hc
            cases hc
      rw [hheld, Bool.toNat_true]
      omega
    · omega

/-- Where no job may hold the lock, none does. -/
theorem Holding.eq_zero (h : Holding crit may ts n) (hmay : ∀ t ∈ ts, ¬ may t.job) : n = 0 := by
  induction h with
  | nil => rfl
  | @cons t ts held n ht _ ih =>
    have hn := ih fun u hu => hmay u (List.mem_cons_of_mem t hu)
    cases held with
    | true => exact absurd (ht.allowed rfl) (hmay t (List.mem_cons_self ..))
    | false => rw [hn]; rfl

theorem getElem?_split {T : Type} {l : List T} {i : ℕ} {t : T} (h : l[i]? = some t) :
    ∃ l₁ l₂, l = l₁ ++ t :: l₂ ∧ l.eraseIdx i = l₁ ++ l₂ ∧ ∀ x, l.set i x = l₁ ++ x :: l₂ := by
  obtain ⟨hi, rfl⟩ := List.getElem?_eq_some_iff.mp h
  refine ⟨l.take i, l.drop (i + 1), ?_, List.eraseIdx_eq_take_drop_succ l i, fun x => ?_⟩
  · rw [← List.drop_eq_getElem_cons hi, List.take_append_drop]
  · exact List.set_eq_take_append_cons_drop.trans (if_pos hi)

variable {prog : W → Locking δ ρ A ε Unit} {P P' P₁ : Pool (Guarded δ) (Demand ρ) (Grant A) ε W}
  {l : Label (Grant A) ε W}

theorem granted_tasks (hg : granted P l = some P₁) : P₁.tasks = P.tasks := by
  cases l with
  | start w => rw [← Option.some.inj hg]
  | reply i ans =>
    simp only [granted] at hg
    split at hg
    · cases hg
    · split at hg
      · split_ifs at hg
        rw [← Option.some.inj hg]
      · rw [← Option.some.inj hg]

/-- What is granted to a task. -/
theorem granted_cases {i : ℕ} {ans : (q : Demand ρ) → Except ε (Grant A q)}
    {t : Task (Guarded δ) (Demand ρ) (Grant A) ε W} (hi : P.tasks[i]? = some t)
    (hg : granted P (.reply i ans) = some P₁) :
    (t.req = .acquire ∧ ans .acquire = .ok () ∧ P.shared.locked = false ∧
      P₁ = ⟨⟨true, P.shared.data⟩, P.tasks⟩) ∨
    ((t.req = .acquire → ∃ e, ans .acquire = .error e) ∧ P₁ = P) := by
  simp only [granted, hi] at hg
  cases hreq : t.req with
  | ask q =>
    rw [hreq] at hg
    exact .inr ⟨nofun, (Option.some.inj hg).symm⟩
  | acquire =>
    cases hans : ans .acquire with
    | error e =>
      rw [hreq, hans] at hg
      exact .inr ⟨fun _ => ⟨e, rfl⟩, (Option.some.inj hg).symm⟩
    | ok u =>
      rw [hreq, hans] at hg
      dsimp only at hg
      split_ifs at hg with hlocked
      exact .inl ⟨rfl, rfl, Bool.not_eq_true _ ▸ hlocked, (Option.some.inj hg).symm⟩

/-- How an orderly task resumes. -/
theorem resume_orderly {i : ℕ} {ans : (q : Demand ρ) → Except ε (Grant A q)}
    {t : Task (Guarded δ) (Demand ρ) (Grant A) ε W} {held : Bool} (hi : P.tasks[i]? = some t)
    (ht : TaskOrderly crit may held t) (hl : held = true → P.shared.locked = true)
    (hg : granted P (.reply i ans) = some P₁) : ∃ held₁,
      Orderly crit (may t.job) (fun held _ _ => held = false) (t.cont (ans t.req)) held₁ P₁.shared ∧
      (held₁ = true → P₁.shared.locked = true ∧ may t.job) ∧
      P₁.shared.holders + held.toNat = P.shared.holders + held₁.toNat := by
  have haw := ht.awaits
  obtain ⟨job, born, log, req, cont⟩ := t
  rcases granted_cases hi hg with ⟨hreq, hans, hfree, rfl⟩ | ⟨hfail, rfl⟩
  · -- the lock is granted, and was free
    dsimp only at hreq
    subst hreq
    obtain ⟨rfl, hmay, -, hok⟩ := haw
    refine ⟨true, ?_, fun _ => ⟨rfl, hmay⟩, ?_⟩
    · dsimp only
      rw [hans]
      exact hok _ rfl
    · unfold Guarded.holders
      rw [hfree]
      rfl
  · cases req with
    | ask q => exact ⟨held, haw.2 _ _ hl, fun h => ⟨hl h, ht.allowed h⟩, rfl⟩
    | acquire =>
      obtain ⟨e, he⟩ := hfail rfl
      obtain ⟨rfl, -, herr, -⟩ := haw
      dsimp only
      rw [he]
      exact ⟨false, herr e _, nofun, rfl⟩

/-- A task that holds the lock holds one that is taken. -/
theorem locked_of_held {s : Guarded δ} {held : Bool} (h : s.holders = held.toNat + n) :
    held = true → s.locked = true := by
  rintro rfl
  unfold Guarded.holders at h
  cases hs : s.locked with
  | true => rfl
  | false =>
    rw [hs, Bool.toNat_true, Bool.toNat_false] at h
    omega

/-- **Every move keeps the lock and its holder together.** -/
theorem step_holding
    (hspec : ∀ w s, Orderly crit (may w) (fun held _ _ => held = false) (prog w) false s)
    (hP : Holding crit may P.tasks P.shared.holders) (h : step prog P l = some P') :
    Holding crit may P'.tasks P'.shared.holders := by
  obtain ⟨P₁, hg, hs⟩ := Option.bind_eq_some_iff.mp h
  have htasks := granted_tasks hg
  have hm := Pool.moved_of_step hs
  generalize P₁.ended prog l = e at hm
  cases hm with
  | @through w r s hadv =>
    obtain rfl := Option.some.inj hg
    have hstop := stopped_advance (prog w) (hspec w P.shared) nofun
    rw [hadv] at hstop
    obtain ⟨_, rfl, heq⟩ := hstop
    rw [show s.holders = P.shared.holders from heq]
    exact hP
  | @started w s q k hadv =>
    obtain rfl := Option.some.inj hg
    have hstop := stopped_advance (prog w) (hspec w P.shared) nofun
    rw [hadv] at hstop
    obtain ⟨held, haw, hheld, heq⟩ := hstop
    have hnew : TaskOrderly crit may held ⟨w, P.shared, [], q, k⟩ :=
      ⟨fun h => absurd (hheld h) nofun, haw⟩
    have hall := hP.append (.cons hnew .nil)
    rwa [show P.shared.holders + (held.toNat + 0) = s.holders from heq.symm] at hall
  | @ended i ans t r s hi hadv =>
    rw [htasks] at hi
    obtain ⟨l₁, l₂, hsplit, herase, -⟩ := getElem?_split hi
    rw [hsplit] at hP
    obtain ⟨held, m, ht, hn, hrest, -⟩ := hP.split
    obtain ⟨held₁, ho, hl₁, heq₁⟩ := resume_orderly hi ht (locked_of_held hn) hg
    have hstop := stopped_advance _ ho fun h => (hl₁ h).1
    rw [hadv] at hstop
    obtain ⟨_, rfl, heq⟩ := hstop
    rw [Bool.toNat_false] at heq
    dsimp only
    rw [htasks, herase, show s.holders = m by omega]
    exact hrest
  | @moved i ans t s q k hi hadv =>
    rw [htasks] at hi
    obtain ⟨l₁, l₂, hsplit, -, hset⟩ := getElem?_split hi
    rw [hsplit] at hP
    obtain ⟨held, m, ht, hn, -, hput⟩ := hP.split
    obtain ⟨held₁, ho, hl₁, heq₁⟩ := resume_orderly hi ht (locked_of_held hn) hg
    have hstop := stopped_advance _ ho fun h => (hl₁ h).1
    rw [hadv] at hstop
    obtain ⟨held', haw, hheld, heq⟩ := hstop
    have hnew := hput ⟨t.job, t.born, t.log ++ [⟨t.req, ans t.req⟩], q, k⟩ held'
      ⟨fun h => (hl₁ (hheld h)).2, haw⟩
    dsimp only
    rw [htasks, hset, show s.holders = held'.toNat + m by omega]
    exact hnew

/-- The lock and its holder along a run. -/
theorem run_holding
    (hspec : ∀ w s, Orderly crit (may w) (fun held _ _ => held = false) (prog w) false s) {d : δ}
    {τ : List (Move (Pool (Guarded δ) (Demand ρ) (Grant A) ε W) (Label (Grant A) ε W))}
    (hr : Run (step prog) ⟨⟨false, d⟩, []⟩ τ P) : Holding crit may P.tasks P.shared.holders :=
  (hr.invariant (fun P => Holding crit may P.tasks P.shared.holders) .nil
    fun _ _ _ hP h => step_holding hspec hP h).1

/-- **Mutual exclusion**: what is critical is awaited by one task at most. -/
theorem run_exclusive
    (hspec : ∀ w s, Orderly crit (may w) (fun held _ _ => held = false) (prog w) false s) {d : δ}
    {τ : List (Move (Pool (Guarded δ) (Demand ρ) (Grant A) ε W) (Label (Grant A) ε W))}
    (hr : Run (step prog) ⟨⟨false, d⟩, []⟩ τ P) :
    P.tasks.countP (fun t => t.req.isCritical crit) ≤ 1 := by
  have hle := (run_holding hspec hr).countP_le
  have hone : P.shared.holders ≤ 1 := Bool.toNat_le P.shared.locked
  omega

/-- **The lock is given back.** -/
theorem run_free
    (hspec : ∀ w s, Orderly crit (may w) (fun held _ _ => held = false) (prog w) false s) {d : δ}
    {τ : List (Move (Pool (Guarded δ) (Demand ρ) (Grant A) ε W) (Label (Grant A) ε W))}
    (hr : Run (step prog) ⟨⟨false, d⟩, []⟩ τ P) (hmay : ∀ t ∈ P.tasks, ¬ may t.job) :
    P.shared.locked = false := by
  have hzero := (run_holding hspec hr).eq_zero hmay
  exact Bool.toNat_eq_zero.mp hzero

end Pool

end TTLockConnect.Async.Mutex
