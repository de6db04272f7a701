import TTLockConnect.Async.Component
import TTLockConnect.Async.Mutex

/-! # Components side by side on one event loop

Components of one kind that share an event loop and nothing else: each job is a job of one of them
and touches only its state. `run_member` takes the others away: what any interleaving of the jobs
does to one component is what an interleaving of its own jobs does to it alone. So whatever is known
of every run of one component is known of each of them, however many there are. -/

namespace TTLockConnect.Async.Family

open TTLockConnect.Async.Coroutine TTLockConnect.Async.Coroutine.Coro TTLockConnect.Async.Runs
open TTLockConnect.Async.EventLoop TTLockConnect.Async.Component
open TTLockConnect.Async.Mutex (getElem?_split)

variable {ι σ ρ : Type} {A : ρ → Type} {ε α V W : Type} [DecidableEq ι]

/-- The reply to a request of a component. -/
abbrev Reply (A : ρ → Type) (q : ι × ρ) : Type := A q.2

/-- The state of one component. -/
def memberPlace (i : ι) : Place (ι → σ) σ where
  get s := s i
  put x s := Function.update s i x
  get_put _ _ := Function.update_self ..
  put_put _ _ _ := Function.update_idem ..
  put_get _ := Function.update_eq_self ..

/-- A coroutine of one component. -/
def member (i : ι) (p : Coro σ ρ A ε α) : Coro (ι → σ) (ι × ρ) (Reply A) ε α :=
  within (memberPlace i) (i, ·) (fun _ => id) p

/-- The jobs: whose they are, and what they are there. -/
def prog (home : W → ι) (role : W → V) (body : V → Coro σ ρ A ε Unit) (w : W) :
    Coro (ι → σ) (ι × ρ) (Reply A) ε Unit := member (home w) (body (role w))

/-- Where a segment of a component stops, seen among the others. -/
def among (i : ι) (s : ι → σ) : Stop σ ρ A ε α → Stop (ι → σ) (ι × ρ) (Reply A) ε α
  | .done r x => .done r (Function.update s i x)
  | .wait x q k => .wait (Function.update s i x) (i, q) fun r => member i (k (r.map id))

theorem among_update (i : ι) (s : ι → σ) (x : σ) (stop : Stop σ ρ A ε α) :
    among i (Function.update s i x) stop = among i s stop := by
  cases stop <;> simp [among]

theorem advance_member (i : ι) : ∀ (p : Coro σ ρ A ε α) (s : ι → σ),
    (member i p).advance s = among i s (p.advance (s i))
  | .ret _, s => congrArg (Stop.done _) (Function.update_eq_self i s).symm
  | .raise _, s => congrArg (Stop.done _) (Function.update_eq_self i s).symm
  | .get k, s => advance_member i (k (s i)) s
  | .set x k, s => by
    have hk := advance_member i k (Function.update s i x)
    rw [Function.update_self] at hk
    exact hk.trans (among_update i s x _)
  | .await _ _, s =>
    congrArg (fun s => Stop.wait s _ _) (Function.update_eq_self i s).symm

/-! ### One component -/

section Member
variable (home : W → ι) (role : W → V)

/-- A task, and what it is on its component. -/
inductive Acts : Task (ι → σ) (ι × ρ) (Reply A) ε W → Task σ ρ A ε V → Prop
  | mk (b : ι → σ) (log : List (Exchange (Reply A) ε)) {w : W} {u : Task σ ρ A ε V} :
      u.job = role w →
      Acts ⟨w, b, log, (home w, u.req), fun r => member (home w) (u.cont (r.map id))⟩ u

/-- The task of a component, seen on the component `i`. -/
def seen (i : ι) (w : W) (u : Task σ ρ A ε V) : List (Task σ ρ A ε V) :=
  if home w = i then [u] else []

/-- Tasks, and those of them that the component `i` has. -/
inductive Shows (i : ι) : List (Task (ι → σ) (ι × ρ) (Reply A) ε W) → List (Task σ ρ A ε V) → Prop
  | nil : Shows i [] []
  | cons {t : Task (ι → σ) (ι × ρ) (Reply A) ε W} {u : Task σ ρ A ε V}
      {ts : List (Task (ι → σ) (ι × ρ) (Reply A) ε W)} {us : List (Task σ ρ A ε V)} :
      Acts home role t u → Shows i ts us → Shows i (t :: ts) (seen home i t.job u ++ us)

variable {home role} {body : V → Coro σ ρ A ε Unit} {i : ι}
  {ts ts' : List (Task (ι → σ) (ι × ρ) (Reply A) ε W)} {us us' : List (Task σ ρ A ε V)}
  {P P₁ : Pool (ι → σ) (ι × ρ) (Reply A) ε W} {P' : Pool σ ρ A ε V} {l : Label (Reply A) ε W}

theorem Shows.append (h : Shows home role i ts us) (h' : Shows home role i ts' us') :
    Shows home role i (ts ++ ts') (us ++ us') := by
  induction h with
  | nil => exact h'
  | cons ha _ ih =>
    rw [List.append_assoc]
    exact .cons ha ih

theorem Shows.of_append (h : Shows home role i (ts ++ ts') us) : ∃ us₁ us₂,
    us = us₁ ++ us₂ ∧ Shows home role i ts us₁ ∧ Shows home role i ts' us₂ := by
  induction ts generalizing us with
  | nil => exact ⟨[], us, rfl, .nil, h⟩
  | cons t ts ih =>
    cases h with
    | cons ha hrest =>
      obtain ⟨us₁, us₂, rfl, h₁, h₂⟩ := ih hrest
      exact ⟨_, us₂, (List.append_assoc ..).symm, .cons ha h₁, h₂⟩

/-- One task among the others, to be taken away or replaced. -/
theorem Shows.split {t : Task (ι → σ) (ι × ρ) (Reply A) ε W}
    (h : Shows home role i (ts ++ t :: ts') us) : ∃ u us₁ us₂, Acts home role t u ∧
      us = us₁ ++ (seen home i t.job u ++ us₂) ∧ Shows home role i (ts ++ ts') (us₁ ++ us₂) ∧
      ∀ t' u', Acts home role t' u' → t'.job = t.job →
        Shows home role i (ts ++ t' :: ts') (us₁ ++ (seen home i t.job u' ++ us₂)) := by
  obtain ⟨us₁, _, rfl, h₁, h₂⟩ := h.of_append
  cases h₂ with
  | @cons _ u _ us₂ ha h₂ =>
    refine ⟨u, us₁, us₂, ha, rfl, h₁.append h₂, fun t' u' ha' hjob => ?_⟩
    have hnew := h₁.append (.cons ha' h₂)
    rwa [hjob] at hnew

/-- What the component `i` is, in the state of all of them. -/
structure Beside (home : W → ι) (role : W → V) (i : ι) (P : Pool (ι → σ) (ι × ρ) (Reply A) ε W)
    (P' : Pool σ ρ A ε V) : Prop where
  shared : P.shared i = P'.shared
  tasks : Shows home role i P.tasks P'.tasks

/-- The jobs of a component among some jobs. -/
def jobsOf (home : W → ι) (role : W → V) (i : ι) (ws : List W) : List V :=
  (ws.filter fun w => home w = i).map role

theorem jobsOf_append (ws ws' : List W) :
    jobsOf home role i (ws ++ ws') = jobsOf home role i ws ++ jobsOf home role i ws' := by
  rw [jobsOf, List.filter_append, List.map_append]
  rfl

/-- What a move is on the component `i`. -/
def Matched (home : W → ι) (role : W → V) (body : V → Coro σ ρ A ε Unit) (i : ι)
    (P' : Pool σ ρ A ε V) (l : @Label (ι × ρ) (Reply A) ε W) (P₁ : Pool (ι → σ) (ι × ρ) (Reply A) ε W) :
    Prop :=
  ∃ τ P'₁, Run (fun P l => P.step body l) P' τ P'₁ ∧ Beside home role i P₁ P'₁ ∧
    starts τ = jobsOf home role i (started l).toList

theorem start_matched (hP : Beside home role i P P') {w : W}
    (h : P.step (prog home role body) (.start w) = some P₁) :
    Matched home role body i P' (.start w) P₁ := by
  have hadv := advance_member (home w) (body (role w)) P.shared
  rcases hstop : (body (role w)).advance (P.shared (home w)) with ⟨r, x⟩ | ⟨x, q, k⟩
  · rw [hstop] at hadv
    rw [Pool.step_through hadv, Option.some.injEq] at h
    subst h
    by_cases hw : home w = i
    · subst hw
      rw [hP.shared] at hstop
      exact ⟨_, _, .single (Pool.step_through hstop), ⟨Function.update_self .., hP.tasks⟩,
        by simp [starts, started, jobsOf]⟩
    · exact ⟨[], P', .nil, ⟨(Function.update_of_ne (Ne.symm hw) ..).trans hP.shared, hP.tasks⟩,
        by simp [starts, started, jobsOf, hw]⟩
  · rw [hstop] at hadv
    rw [Pool.step_started hadv, Option.some.injEq] at h
    subst h
    have hnew : ∀ b, Acts home role _ (⟨role w, b, [], q, k⟩ : Task σ ρ A ε V) :=
      fun _ => .mk P.shared [] (w := w) rfl
    by_cases hw : home w = i
    · have hall := hP.tasks.append (.cons (hnew P'.shared) .nil)
      rw [seen, if_pos hw] at hall
      subst hw
      rw [hP.shared] at hstop
      exact ⟨_, _, .single (Pool.step_started hstop), ⟨Function.update_self .., hall⟩,
        by simp [starts, started, jobsOf]⟩
    · have hall := hP.tasks.append (.cons (hnew P'.shared) .nil)
      rw [seen, if_neg hw, List.append_nil, List.append_nil] at hall
      exact ⟨[], P', .nil, ⟨(Function.update_of_ne (Ne.symm hw) ..).trans hP.shared, hall⟩,
        by simp [starts, started, jobsOf, hw]⟩

theorem reply_matched (hP : Beside home role i P P') {n : ℕ}
    {ans : (q : ι × ρ) → Except ε (Reply A q)}
    (h : P.step (prog home role body) (.reply n ans) = some P₁) :
    Matched home role body i P' (.reply n ans) P₁ := by
  cases ht : P.tasks[n]? with
  | none =>
    simp only [Pool.step, Pool.stepOut, ht, Option.map_none] at h
    cases h
  | some t =>
    obtain ⟨ts, ts', hsplit, herase, hset⟩ := getElem?_split ht
    have htasks := hP.tasks
    rw [hsplit] at htasks
    obtain ⟨u, us₁, us₂, ha, hus, hrest, hput⟩ := htasks.split
    cases ha with
    | @mk b log w u hjob =>
      have hadv : (member (home w) (u.cont ((ans (home w, u.req)).map id))).advance P.shared =
          among (home w) P.shared ((u.cont (ans (home w, u.req))).advance (P.shared (home w))) := by
        rw [advance_member]
        cases ans (home w, u.req) <;> rfl
      unfold seen at hus hput
      dsimp only at hus hput
      rcases hstop : (u.cont (ans (home w, u.req))).advance (P.shared (home w)) with
        ⟨r, x⟩ | ⟨x, q, k⟩
      · rw [hstop] at hadv
        rw [Pool.step_ended ht hadv, Option.some.injEq] at h
        subst h
        by_cases hw : home w = i
        · rw [if_pos hw] at hus
          subst hw
          rw [hP.shared] at hstop
          have hj : P'.tasks[us₁.length]? = some u := by simp [hus]
          refine ⟨_, _, .single (l := .reply us₁.length fun q => ans (home w, q))
            (Pool.step_ended hj hstop), ⟨Function.update_self .., ?_⟩, ?_⟩
          · dsimp only
            rw [herase, hus, List.singleton_append, List.eraseIdx_append_of_length_le (Nat.le_refl _),
              Nat.sub_self, List.eraseIdx_cons_zero]
            exact hrest
          · simp [starts, started, jobsOf]
        · rw [if_neg hw, List.nil_append] at hus
          refine ⟨[], P', .nil, ⟨(Function.update_of_ne (Ne.symm hw) ..).trans hP.shared, ?_⟩, ?_⟩
          · dsimp only
            rw [herase, hus]
            exact hrest
          · simp [starts, started, jobsOf]
      · rw [hstop] at hadv
        rw [Pool.step_moved ht hadv, Option.some.injEq] at h
        subst h
        have hall := hput _ ⟨u.job, u.born, u.log ++ [⟨u.req, ans (home w, u.req)⟩], q, k⟩
          (.mk b (log ++ [⟨(home w, u.req), ans (home w, u.req)⟩]) (w := w) hjob) rfl
        by_cases hw : home w = i
        · rw [if_pos hw] at hus hall
          subst hw
          rw [hP.shared] at hstop
          have hj : P'.tasks[us₁.length]? = some u := by simp [hus]
          refine ⟨_, _, .single (l := .reply us₁.length fun q => ans (home w, q))
            (Pool.step_moved hj hstop), ⟨Function.update_self .., ?_⟩, ?_⟩
          · dsimp only
            rw [hset, hus, List.singleton_append, List.set_append_right _ _ (Nat.le_refl _), Nat.sub_self,
              List.set_cons_zero]
            exact hall
          · simp [starts, started, jobsOf]
        · rw [if_neg hw, List.nil_append] at hus hall
          refine ⟨[], P', .nil, ⟨(Function.update_of_ne (Ne.symm hw) ..).trans hP.shared, ?_⟩, ?_⟩
          · dsimp only
            rw [hset, hus]
            exact hall
          · simp [starts, started, jobsOf]

/-- **One component in a run of all of them**: what the run does to it is a run of its own, of the
jobs that the run starts for it. -/
theorem run_member {s₀ : ι → σ}
    {τ : List (Move (Pool (ι → σ) (ι × ρ) (Reply A) ε W) (@Label (ι × ρ) (Reply A) ε W))}
    (hr : Run (fun P l => P.step (prog home role body) l) ⟨s₀, []⟩ τ P) (i : ι) :
    ∃ τ' P', Run (fun P l => P.step body l) ⟨s₀ i, []⟩ τ' P' ∧ Beside home role i P P' ∧
      starts τ' = jobsOf home role i (starts τ) := by
  refine hr.simulated (fun τ P τ' P' => Beside home role i P P' ∧
    starts τ' = jobsOf home role i (starts τ)) ⟨⟨rfl, .nil⟩, rfl⟩ ?_
  rintro τ P l P₁ τ' P' ⟨hP, hjobs⟩ h
  have hm : Matched home role body i P' l P₁ := by
    cases l with
    | start w => exact start_matched hP h
    | reply n ans => exact reply_matched hP h
  obtain ⟨τ'', P'₁, hr', hP₁, hnew⟩ := hm
  refine ⟨τ'', P'₁, hr', hP₁, ?_⟩
  rw [starts_append, starts_append, starts_single, jobsOf_append, hjobs, hnew]

end Member

end TTLockConnect.Async.Family
