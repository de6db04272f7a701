import TTLockConnect.Async.Component
import TTLockConnect.Async.Mutex
import Mathlib.Algebra.Order.Group.Multiset
import Mathlib.Tactic.Abel

/-! # A semaphore among coroutines

An `asyncio.Semaphore` beside the shared state of an event loop. Some of the jobs run inside
`async with semaphore`: such a task suspends until it is granted a permit, which can happen only
while one is free, or until it is told of an error instead, and gives the permit back when its body
ends, however it ends. The other jobs do not know of the semaphore.

A permit is free here until a task goes on with it. The counter of `asyncio.Semaphore` is lower by the
waiters that it has woken and that have not gone on yet, whose permits it takes at once.

`run_shadows` compares this event loop with the one that has no semaphore, in which a job is started
when it would be granted its permit: the semaphore changes when a job begins and nothing else. In
every state the limited jobs that have begun hold the permits that are not free, and every job that
was started has begun, waits, or was refused its permit. -/

namespace TTLockConnect.Async.Semaphore

open TTLockConnect.Async.Coroutine TTLockConnect.Async.Coroutine.Coro TTLockConnect.Async.Runs
open TTLockConnect.Async.EventLoop TTLockConnect.Async.Component
open TTLockConnect.Async.Mutex (Demand Grant getElem?_split)

/-- A shared state with a semaphore: the permits with which no task has gone on. -/
structure Limited (δ : Type) where
  free : ℕ
  data : δ
  deriving DecidableEq, Repr

/-- A coroutine that may use the semaphore. -/
abbrev Limiting (δ ρ : Type) (A : ρ → Type) (ε α : Type) :=
  Coro (Limited δ) (Demand ρ) (Grant A) ε α

variable {δ ρ : Type} {A : ρ → Type} {ε α W : Type}

/-- The state that the semaphore stands beside. -/
def dataPlace : Place (Limited δ) δ where
  get s := s.data
  put d s := { s with data := d }
  get_put _ _ := rfl
  put_put _ _ _ := rfl
  put_get _ := rfl

/-- A coroutine that does not know of the semaphore. -/
def unaware (p : Coro δ ρ A ε α) : Limiting δ ρ A ε α := within dataPlace Demand.ask (fun _ => id) p

/-- `semaphore.release()` -/
def release : Limiting δ ρ A ε Unit := modify fun s => { s with free := s.free + 1 }

/-- The body of `async with semaphore`, and the end of the block. -/
def holding (body : Limiting δ ρ A ε α) : Limiting δ ρ A ε α := do
  let a ← tryCatch body fun err => do
    release
    throw err
  release
  pure a

/-- `async with semaphore` -/
def withPermit (body : Limiting δ ρ A ε α) : Limiting δ ρ A ε α := do
  let _ ← call Demand.acquire
  holding body

/-! ### The event loop with a semaphore -/

/-- The pool when a permit has been granted, if that is what the move does. -/
def granted (P : Pool (Limited δ) (Demand ρ) (Grant A) ε W) :
    Label (Grant A) ε W → Option (Pool (Limited δ) (Demand ρ) (Grant A) ε W)
  | .start _ => some P
  | .reply i ans =>
    match P.tasks[i]? with
    | none => none
    | some t =>
      match t.req, ans .acquire with
      | .acquire, .ok () =>
        if P.shared.free = 0 then none
        else some { P with shared := { P.shared with free := P.shared.free - 1 } }
      | _, _ => some P

/-- A move of the event loop. -/
def step (prog : W → Limiting δ ρ A ε Unit) (P : Pool (Limited δ) (Demand ρ) (Grant A) ε W)
    (l : Label (Grant A) ε W) : Option (Pool (Limited δ) (Demand ρ) (Grant A) ε W) :=
  (granted P l).bind fun P => P.step prog l

/-- The job that a move refuses its permit. -/
def refusal (m : Move (Pool (Limited δ) (Demand ρ) (Grant A) ε W) (Label (Grant A) ε W)) :
    Option W :=
  match m.label with
  | .start _ => none
  | .reply i ans =>
    match m.src.tasks[i]? with
    | none => none
    | some t =>
      match t.req, ans .acquire with
      | .acquire, .error _ => some t.job
      | _, _ => none

/-- The jobs that a run refuses their permits. -/
def refused (τ : List (Move (Pool (Limited δ) (Demand ρ) (Grant A) ε W) (Label (Grant A) ε W))) :
    List W := τ.filterMap refusal

theorem refused_snoc
    (τ : List (Move (Pool (Limited δ) (Demand ρ) (Grant A) ε W) (Label (Grant A) ε W)))
    (m : Move (Pool (Limited δ) (Demand ρ) (Grant A) ε W) (Label (Grant A) ε W)) :
    refused (τ ++ [m]) = refused τ ++ (refusal m).toList := by
  cases h : refusal m <;> simp [refused, h]

/-- The job of a task that waits for a permit. -/
def waits (t : Task (Limited δ) (Demand ρ) (Grant A) ε W) : Option W :=
  match t.req with
  | .acquire => some t.job
  | .ask _ => none

/-- The jobs that wait for a permit. -/
def waiting (ts : List (Task (Limited δ) (Demand ρ) (Grant A) ε W)) : List W := ts.filterMap waits

/-- The job of a task that waits for something else. -/
def goes (t : Task (Limited δ) (Demand ρ) (Grant A) ε W) : Option W :=
  match t.req with
  | .acquire => none
  | .ask _ => some t.job

/-- The jobs that have begun and have not ended. -/
def begun (ts : List (Task (Limited δ) (Demand ρ) (Grant A) ε W)) : List W := ts.filterMap goes

@[simp] theorem waiting_append (ts ts' : List (Task (Limited δ) (Demand ρ) (Grant A) ε W)) :
    waiting (ts ++ ts') = waiting ts ++ waiting ts' := List.filterMap_append

@[simp] theorem waiting_nil :
    waiting ([] : List (Task (Limited δ) (Demand ρ) (Grant A) ε W)) = [] := rfl

@[simp] theorem waiting_acquire {w : W} {b : Limited δ} {log : List (Exchange (Grant A) ε)}
    {k : Except ε Unit → Limiting δ ρ A ε Unit}
    (ts : List (Task (Limited δ) (Demand ρ) (Grant A) ε W)) :
    waiting (⟨w, b, log, .acquire, k⟩ :: ts) = w :: waiting ts := rfl

@[simp] theorem waiting_ask {w : W} {b : Limited δ} {log : List (Exchange (Grant A) ε)} {q : ρ}
    {k : Except ε (A q) → Limiting δ ρ A ε Unit}
    (ts : List (Task (Limited δ) (Demand ρ) (Grant A) ε W)) :
    waiting (⟨w, b, log, .ask q, k⟩ :: ts) = waiting ts := rfl

/-! ### What a job has left to do -/

section Jobs
variable (limited : W → Bool) (body : W → Coro δ ρ A ε Unit)

/-- What is left of a job of which `p` is left. -/
def rest (lim : Bool) (p : Coro δ ρ A ε Unit) : Limiting δ ρ A ε Unit :=
  if lim then holding (unaware p) else unaware p

/-- The jobs, the limited ones inside the semaphore. -/
def prog (w : W) : Limiting δ ρ A ε Unit :=
  if limited w then withPermit (unaware (body w)) else unaware (body w)

/-- Where a segment stops, seen beside the semaphore: a limited job that ends gives its permit
back. -/
def beside (lim : Bool) (free : ℕ) : Stop δ ρ A ε Unit → Stop (Limited δ) (Demand ρ) (Grant A) ε Unit
  | .done r d => .done r ⟨free + lim.toNat, d⟩
  | .wait d q k => .wait ⟨free, d⟩ (.ask q) fun r => rest lim (k (r.map id))

theorem advance_unaware : ∀ (p : Coro δ ρ A ε Unit) (s : Limited δ),
    (unaware p).advance s = beside false s.free (p.advance s.data)
  | .ret _, _ => rfl
  | .raise _, _ => rfl
  | .get k, s => advance_unaware (k s.data) s
  | .set d k, s => advance_unaware k { s with data := d }
  | .await _ _, _ => rfl

theorem advance_holding : ∀ (p : Coro δ ρ A ε Unit) (s : Limited δ),
    (holding (unaware p)).advance s = beside true s.free (p.advance s.data)
  | .ret _, _ => rfl
  | .raise _, _ => rfl
  | .get k, s => advance_holding (k s.data) s
  | .set d k, s => advance_holding k { s with data := d }
  | .await _ _, _ => rfl

theorem advance_rest (lim : Bool) (p : Coro δ ρ A ε Unit) (s : Limited δ) :
    (rest lim p).advance s = beside lim s.free (p.advance s.data) := by
  cases lim with
  | true => exact advance_holding p s
  | false => exact advance_unaware p s

/-! ### Beside the event loop without a semaphore -/

/-- A task, and the task it is on the event loop without a semaphore if it has begun there. -/
inductive Stage : Task (Limited δ) (Demand ρ) (Grant A) ε W → Option (Task δ ρ A ε W) → Prop
  | waits (b : Limited δ) (log : List (Exchange (Grant A) ε)) {w : W}
      {k : Except ε Unit → Limiting δ ρ A ε Unit} : limited w = true →
      k (.ok ()) = rest true (body w) → (∀ e, k (.error e) = .raise e) →
      Stage ⟨w, b, log, .acquire, k⟩ none
  | inside (b : Limited δ) (log : List (Exchange (Grant A) ε)) {u : Task δ ρ A ε W} :
      Stage ⟨u.job, b, log, .ask u.req, fun r => rest (limited u.job) (u.cont (r.map id))⟩ (some u)

/-- Tasks, and those of them that have begun. -/
inductive Paired :
    List (Task (Limited δ) (Demand ρ) (Grant A) ε W) → List (Task δ ρ A ε W) → Prop
  | nil : Paired [] []
  | cons {t : Task (Limited δ) (Demand ρ) (Grant A) ε W} {o : Option (Task δ ρ A ε W)}
      {ts : List (Task (Limited δ) (Demand ρ) (Grant A) ε W)} {us : List (Task δ ρ A ε W)} :
      Stage limited body t o → Paired ts us → Paired (t :: ts) (o.toList ++ us)

/-- The limited jobs among some tasks. -/
def permits (us : List (Task δ ρ A ε W)) : ℕ := us.countP fun u => limited u.job

/-- **One event loop beside the other.** -/
structure Shadows (capacity : ℕ) (P : Pool (Limited δ) (Demand ρ) (Grant A) ε W)
    (P' : Pool δ ρ A ε W) : Prop where
  data : P.shared.data = P'.shared
  permits : P.shared.free + permits limited P'.tasks = capacity
  tasks : ∃ us, Paired limited body P.tasks us ∧ us.Perm P'.tasks

variable {limited body} {capacity : ℕ} {P P₁ : Pool (Limited δ) (Demand ρ) (Grant A) ε W}
  {P' : Pool δ ρ A ε W} {ts ts' : List (Task (Limited δ) (Demand ρ) (Grant A) ε W)}
  {us us' : List (Task δ ρ A ε W)} {l : Label (Grant A) ε W}

theorem Paired.append (h : Paired limited body ts us) (h' : Paired limited body ts' us') :
    Paired limited body (ts ++ ts') (us ++ us') := by
  induction h with
  | nil => exact h'
  | cons hs _ ih =>
    rw [List.append_assoc]
    exact .cons hs ih

theorem Paired.of_append (h : Paired limited body (ts ++ ts') us) : ∃ us₁ us₂,
    us = us₁ ++ us₂ ∧ Paired limited body ts us₁ ∧ Paired limited body ts' us₂ := by
  induction ts generalizing us with
  | nil => exact ⟨[], us, rfl, .nil, h⟩
  | cons t ts ih =>
    cases h with
    | cons hs hrest =>
      obtain ⟨us₁, us₂, rfl, h₁, h₂⟩ := ih hrest
      exact ⟨_, us₂, (List.append_assoc ..).symm, .cons hs h₁, h₂⟩

/-- One task among the others, to be taken away or replaced. -/
theorem Paired.split {t : Task (Limited δ) (Demand ρ) (Grant A) ε W}
    (h : Paired limited body (ts ++ t :: ts') us) : ∃ o us', Stage limited body t o ∧
      us.Perm (o.toList ++ us') ∧ (∃ vs, Paired limited body (ts ++ ts') vs ∧ vs.Perm us') ∧
      ∀ t' o', Stage limited body t' o' →
        ∃ vs, Paired limited body (ts ++ t' :: ts') vs ∧ vs.Perm (o'.toList ++ us') := by
  obtain ⟨us₁, _, rfl, h₁, h₂⟩ := h.of_append
  cases h₂ with
  | @cons _ o _ us₂ hs h₂ =>
    refine ⟨o, us₁ ++ us₂, hs, ?_, ⟨_, h₁.append h₂, .refl _⟩, fun t' o' hs' => ?_⟩
    · exact List.perm_append_comm_assoc ..
    · exact ⟨_, h₁.append (.cons hs' h₂), List.perm_append_comm_assoc ..⟩

/-- What a move of the one event loop is on the other: some moves there, which account for the job
started. -/
def Matched (limited : W → Bool) (body : W → Coro δ ρ A ε Unit) (capacity : ℕ)
    (P : Pool (Limited δ) (Demand ρ) (Grant A) ε W) (P' : Pool δ ρ A ε W) (l : Label (Grant A) ε W)
    (P₁ : Pool (Limited δ) (Demand ρ) (Grant A) ε W) : Prop :=
  ∃ τ P'₁, Run (fun P l => P.step body l) P' τ P'₁ ∧ Shadows limited body capacity P₁ P'₁ ∧
    (waiting P.tasks ++ (started l).toList).Perm
      (starts τ ++ waiting P₁.tasks ++ (refusal ⟨P, l, P₁⟩).toList)

/-- A limited job starts by waiting. -/
theorem start_limited (hP : Shadows limited body capacity P P') {w : W} (hw : limited w = true)
    (h : P.step (prog limited body) (.start w) = some P₁) :
    Matched limited body capacity P P' (.start w) P₁ := by
  obtain ⟨k, hadv, hok, herr⟩ : ∃ k, (prog limited body w).advance P.shared =
      .wait P.shared .acquire k ∧ k (.ok ()) = rest true (body w) ∧ ∀ e, k (.error e) = .raise e := by
    unfold prog
    rw [if_pos hw]
    exact ⟨_, rfl, rfl, fun _ => rfl⟩
  rw [Pool.step_started hadv, Option.some.injEq] at h
  subst h
  obtain ⟨us, hus, hperm⟩ := hP.tasks
  refine ⟨[], P', .nil, ⟨hP.data, hP.permits, us, ?_, hperm⟩, ?_⟩
  · have hall := hus.append (.cons (.waits P.shared [] hw hok herr) .nil)
    rwa [Option.toList_none, List.append_nil, List.append_nil] at hall
  · simp [started, starts, refusal]

/-- Any other job starts as it does without the semaphore. -/
theorem start_unlimited (hP : Shadows limited body capacity P P') {w : W} (hw : limited w = false)
    (h : P.step (prog limited body) (.start w) = some P₁) :
    Matched limited body capacity P P' (.start w) P₁ := by
  have hadv : (prog limited body w).advance P.shared =
      beside false P.shared.free ((body w).advance P'.shared) := by
    unfold prog
    rw [hw, if_neg Bool.false_ne_true, advance_unaware, hP.data]
  obtain ⟨us, hus, hperm⟩ := hP.tasks
  rcases hstop : (body w).advance P'.shared with ⟨r, d⟩ | ⟨d, q, k⟩
  · rw [hstop] at hadv
    rw [Pool.step_through hadv, Option.some.injEq] at h
    subst h
    refine ⟨_, _, .single (Pool.step_through hstop), ⟨rfl, hP.permits, us, hus, hperm⟩, ?_⟩
    simp [starts, started, refusal]
  · rw [hstop] at hadv
    rw [Pool.step_started hadv, Option.some.injEq] at h
    subst h
    have hnew : Stage limited body _ (some ⟨w, P'.shared, [], q, k⟩) :=
      .inside P.shared []
    rw [hw] at hnew
    refine ⟨_, _, .single (Pool.step_started hstop),
      ⟨rfl, ?_, us ++ [⟨w, P'.shared, [], q, k⟩], ?_, hperm.append_right _⟩, ?_⟩
    · have hp := hP.permits
      simpa [permits, hw] using hp
    · exact hus.append (.cons hnew .nil)
    · rw [waiting_append, waiting_ask]
      simp [starts, started, refusal]

/-- A task that is refused its permit is over. -/
theorem reply_refused (hP : Shadows limited body capacity P P') {i : ℕ}
    {ans : (q : Demand ρ) → Except ε (Grant A q)} {t : Task (Limited δ) (Demand ρ) (Grant A) ε W}
    {e : ε} (hi : P.tasks[i]? = some t) (hreq : t.req = .acquire) (hans : ans .acquire = .error e)
    (h : P.step (prog limited body) (.reply i ans) = some P₁) :
    Matched limited body capacity P P' (.reply i ans) P₁ := by
  obtain ⟨ts, ts', hsplit, herase, -⟩ := getElem?_split hi
  obtain ⟨us, hus, hperm⟩ := hP.tasks
  rw [hsplit] at hus
  obtain ⟨o, us', hs, hus', ⟨vs, hvs, hvs'⟩, -⟩ := hus.split
  cases hs with
  | inside => cases hreq
  | @waits b log w k hw hok herr =>
    have hadv : (k (ans .acquire)).advance P.shared = .done (.error e) P.shared := by
      rw [hans, herr]
      rfl
    rw [Pool.step_ended hi hadv, Option.some.injEq] at h
    subst h
    refine ⟨[], P', .nil, ⟨hP.data, hP.permits, vs, ?_, ?_⟩, ?_⟩
    · rw [herase]
      exact hvs
    · exact hvs'.trans (hus'.symm.trans hperm)
    · have hlast := (List.perm_append_singleton w (waiting ts')).symm.append_left (waiting ts)
      rw [herase, hsplit, waiting_append, waiting_append, waiting_acquire]
      simpa [starts, started, refusal, hi, hans] using hlast

/-- A task that is granted its permit begins, as the job started on the other side. -/
theorem reply_granted (hP : Shadows limited body capacity P P') {i : ℕ}
    {ans : (q : Demand ρ) → Except ε (Grant A q)} {t : Task (Limited δ) (Demand ρ) (Grant A) ε W}
    {free : ℕ} (hi : P.tasks[i]? = some t) (hreq : t.req = .acquire) (hans : ans .acquire = .ok ())
    (hfree : P.shared.free = free + 1)
    (h : Pool.step (prog limited body) ⟨⟨free, P.shared.data⟩, P.tasks⟩ (.reply i ans) = some P₁) :
    Matched limited body capacity P P' (.reply i ans) P₁ := by
  obtain ⟨ts, ts', hsplit, herase, hset⟩ := getElem?_split hi
  obtain ⟨us, hus, hperm⟩ := hP.tasks
  rw [hsplit] at hus
  obtain ⟨o, us', hs, hus', ⟨vs, hvs, hvs'⟩, hput⟩ := hus.split
  cases hs with
  | inside => cases hreq
  | @waits b log w k hw hok herr =>
    have hadv : (k (ans .acquire)).advance (⟨free, P.shared.data⟩ : Limited δ) =
        beside true free ((body w).advance P'.shared) := by
      rw [hans, hok, advance_rest, hP.data]
    have hp := hP.permits
    rw [hfree] at hp
    rcases hstop : (body w).advance P'.shared with ⟨r, d⟩ | ⟨d, q, k'⟩
    · rw [hstop] at hadv
      rw [Pool.step_ended (P := ⟨⟨free, P.shared.data⟩, P.tasks⟩) hi hadv, Option.some.injEq] at h
      subst h
      refine ⟨_, _, .single (Pool.step_through hstop), ⟨rfl, hp, vs, ?_, ?_⟩, ?_⟩
      · dsimp only
        rw [herase]
        exact hvs
      · exact hvs'.trans (hus'.symm.trans hperm)
      · rw [herase, hsplit, waiting_append, waiting_append, waiting_acquire]
        simp [starts, started, refusal, hi, hans]
    · rw [hstop] at hadv
      rw [Pool.step_moved (P := ⟨⟨free, P.shared.data⟩, P.tasks⟩) hi hadv, Option.some.injEq] at h
      subst h
      have hnew : Stage limited body _ (some ⟨w, P'.shared, [], q, k'⟩) :=
        .inside b (log ++ [⟨.acquire, ans .acquire⟩])
      rw [hw] at hnew
      obtain ⟨vs, hvs, hvs'⟩ := hput _ _ hnew
      refine ⟨_, _, .single (Pool.step_started hstop), ⟨rfl, ?_, vs, ?_, ?_⟩, ?_⟩
      · simp only [permits, List.countP_append, List.countP_singleton, hw, if_true]
        unfold permits at hp
        omega
      · dsimp only
        rw [hset]
        exact hvs
      · refine hvs'.trans (List.perm_append_comm.trans ?_)
        exact (hus'.symm.trans hperm).append_right _
      · rw [hset, hsplit, waiting_append, waiting_append, waiting_acquire, waiting_ask]
        simp [starts, started, refusal, hi, hans]

/-- A task that has begun goes on as it does without the semaphore. -/
theorem reply_asked (hP : Shadows limited body capacity P P') {i : ℕ}
    {ans : (q : Demand ρ) → Except ε (Grant A q)} {t : Task (Limited δ) (Demand ρ) (Grant A) ε W}
    {q : ρ} (hi : P.tasks[i]? = some t) (hreq : t.req = .ask q)
    (h : P.step (prog limited body) (.reply i ans) = some P₁) :
    Matched limited body capacity P P' (.reply i ans) P₁ := by
  obtain ⟨ts, ts', hsplit, herase, hset⟩ := getElem?_split hi
  obtain ⟨us, hus, hperm⟩ := hP.tasks
  rw [hsplit] at hus
  obtain ⟨o, us', hs, hus', ⟨vs, hvs, hvs'⟩, hput⟩ := hus.split
  cases hs with
  | waits => cases hreq
  | @inside b log u =>
    have hall : (u :: us').Perm P'.tasks := hus'.symm.trans hperm
    obtain ⟨j, hj⟩ := List.mem_iff_getElem?.mp (hall.subset (List.mem_cons_self ..))
    obtain ⟨vs₁, vs₂, hsplit', herase', hset'⟩ := getElem?_split hj
    have hrest : us'.Perm (vs₁ ++ vs₂) := by
      rw [hsplit'] at hall
      exact (List.perm_cons u).mp (hall.trans List.perm_middle)
    have hp := hP.permits
    rw [hsplit'] at hp
    simp only [permits, List.countP_append, List.countP_cons] at hp
    have hadv : (rest (limited u.job) (u.cont ((ans (.ask u.req)).map id))).advance P.shared =
        beside (limited u.job) P.shared.free ((u.cont (ans (.ask u.req))).advance P'.shared) := by
      rw [advance_rest, hP.data]
      cases ans (.ask u.req) <;> rfl
    have hsame : waiting P.tasks = waiting ts ++ waiting ts' := by
      rw [hsplit, waiting_append, waiting_ask]
    rcases hstop : (u.cont (ans (.ask u.req))).advance P'.shared with ⟨r, d⟩ | ⟨d, q', k'⟩
    · rw [hstop] at hadv
      rw [Pool.step_ended hi hadv, Option.some.injEq] at h
      subst h
      refine ⟨_, _, .single (l := .reply j fun q => ans (.ask q)) (Pool.step_ended hj hstop),
        ⟨rfl, ?_, vs, ?_, ?_⟩, ?_⟩
      · have hlim : (limited u.job).toNat = if limited u.job = true then 1 else 0 := by
          cases limited u.job <;> rfl
        simp only [permits, herase', List.countP_append]
        omega
      · dsimp only
        rw [herase]
        exact hvs
      · dsimp only
        rw [herase']
        exact hvs'.trans hrest
      · rw [hsame, herase, waiting_append]
        simp [starts, started, refusal, hi]
    · rw [hstop] at hadv
      rw [Pool.step_moved hi hadv, Option.some.injEq] at h
      subst h
      have hnew : Stage limited body _
          (some ⟨u.job, u.born, u.log ++ [⟨u.req, ans (.ask u.req)⟩], q', k'⟩) :=
        .inside b (log ++ [⟨.ask u.req, ans (.ask u.req)⟩])
      obtain ⟨vs, hvs, hvs'⟩ := hput _ _ hnew
      refine ⟨_, _, .single (l := .reply j fun q => ans (.ask q)) (Pool.step_moved hj hstop),
        ⟨rfl, ?_, vs, ?_, ?_⟩, ?_⟩
      · simp only [permits, hset', List.countP_append, List.countP_cons]
        exact hp
      · dsimp only
        rw [hset]
        exact hvs
      · dsimp only
        rw [hset']
        exact hvs'.trans ((hrest.cons _).trans List.perm_middle.symm)
      · rw [hsame, hset, waiting_append, waiting_ask]
        simp [starts, started, refusal, hi]

/-- **One move.** -/
theorem step_matched (hP : Shadows limited body capacity P P')
    (h : step (prog limited body) P l = some P₁) : Matched limited body capacity P P' l P₁ := by
  obtain ⟨P₀, hg, hs⟩ := Option.bind_eq_some_iff.mp h
  cases l with
  | start w =>
    obtain rfl := Option.some.inj hg
    cases hw : limited w with
    | true => exact start_limited hP hw hs
    | false => exact start_unlimited hP hw hs
  | reply i ans =>
    simp only [granted] at hg
    cases hi : P.tasks[i]? with
    | none =>
      rw [hi] at hg
      cases hg
    | some t =>
      cases hreq : t.req with
      | ask q =>
        simp only [hi, hreq, Option.some.injEq] at hg
        subst hg
        exact reply_asked hP hi hreq hs
      | acquire =>
        cases hans : ans .acquire with
        | error e =>
          simp only [hi, hreq, hans, Option.some.injEq] at hg
          subst hg
          exact reply_refused hP hi hreq hans hs
        | ok u =>
          simp only [hi, hreq, hans] at hg
          split_ifs at hg with hzero
          rw [Option.some.injEq] at hg
          subst hg
          obtain ⟨free, hfree⟩ := Nat.exists_eq_succ_of_ne_zero hzero
          refine reply_granted hP hi hreq hans hfree ?_
          rwa [hfree] at hs

/-- What is started is accounted for, along a move. -/
theorem account {S S' wait ref st S'' wait₁ ref₁ : List W} (h : S.Perm (S' ++ wait ++ ref))
    (h₁ : (wait ++ st).Perm (S'' ++ wait₁ ++ ref₁)) :
    (S ++ st).Perm (S' ++ S'' ++ wait₁ ++ (ref ++ ref₁)) := by
  simp only [← Multiset.coe_eq_coe, ← Multiset.coe_add] at h h₁ ⊢
  calc (S : Multiset W) + st = S' + (wait + st) + ref := by rw [h]; abel
    _ = S' + (S'' + wait₁ + ref₁) + ref := by rw [h₁]
    _ = S' + S'' + wait₁ + (ref + ref₁) := by abel

theorem mem_waiting_of_refusal {w : W}
    {m : Move (Pool (Limited δ) (Demand ρ) (Grant A) ε W) (Label (Grant A) ε W)}
    (h : refusal m = some w) : w ∈ waiting m.src.tasks := by
  unfold refusal at h
  split at h
  · cases h
  · split at h
    · cases h
    · rename_i t ht
      refine List.mem_filterMap.mpr ⟨t, List.mem_of_getElem? ht, ?_⟩
      unfold waits
      split at h
      · rename_i hreq _
        rw [hreq]
        exact h
      · cases h

/-- Only limited jobs wait for a permit. -/
theorem Paired.limited_of_waiting (h : Paired limited body ts us) :
    ∀ w ∈ waiting ts, limited w = true := by
  induction h with
  | nil => exact List.forall_mem_nil _
  | cons hs _ ih =>
    cases hs with
    | waits b log hlim =>
      rw [waiting_acquire]
      exact List.forall_mem_cons.mpr ⟨hlim, ih⟩
    | inside =>
      rw [waiting_ask]
      exact ih

/-- What becomes of the jobs that a run starts: they have begun, or wait, or were refused. -/
structure Accounts (limited : W → Bool) (started begun waiting refused : List W) : Prop where
  perm : started.Perm (begun ++ waiting ++ refused)
  waiting : ∀ w ∈ waiting, limited w = true
  refused : ∀ w ∈ refused, limited w = true

/-- **The event loop with a semaphore refines the one without**: every run is one of the other, on
the same data, and every job that was started has begun there, waits, or was refused its permit. -/
theorem run_shadows {d : δ}
    {τ : List (Move (Pool (Limited δ) (Demand ρ) (Grant A) ε W) (Label (Grant A) ε W))}
    (hr : Run (step (prog limited body)) ⟨⟨capacity, d⟩, []⟩ τ P) :
    ∃ τ' P', Run (fun P l => P.step body l) ⟨d, []⟩ τ' P' ∧ Shadows limited body capacity P P' ∧
      Accounts limited (starts τ) (starts τ') (waiting P.tasks) (refused τ) := by
  refine hr.simulated (fun τ P τ' P' => Shadows limited body capacity P P' ∧
    Accounts limited (starts τ) (starts τ') (waiting P.tasks) (refused τ)) ?_ ?_
  · exact ⟨⟨rfl, Nat.add_zero _, [], .nil, .nil⟩, .refl _, List.forall_mem_nil _,
      List.forall_mem_nil _⟩
  rintro τ P l P₁ τ' P' ⟨hP, hacc⟩ h
  obtain ⟨τ'', P'₁, hr', hP₁, hmove⟩ := step_matched hP h
  obtain ⟨us, hus, -⟩ := hP₁.tasks
  refine ⟨τ'', P'₁, hr', hP₁, ?_, hus.limited_of_waiting, ?_⟩
  · rw [starts_append, starts_append, starts_single, refused_snoc]
    exact account hacc.perm hmove
  · rw [refused_snoc]
    refine List.forall_mem_append.mpr ⟨hacc.refused, fun w hw => hacc.waiting w ?_⟩
    exact mem_waiting_of_refusal (m := ⟨P, l, P₁⟩) (Option.mem_toList.mp hw)

/-! ### Permits -/

theorem Paired.inside_of_mem {u : Task δ ρ A ε W} (h : Paired limited body ts us) (hu : u ∈ us) :
    ∃ t ∈ ts, Stage limited body t (some u) := by
  induction h with
  | nil => cases hu
  | @cons t o ts us hs _ ih =>
    rcases List.mem_append.mp hu with hu | hu
    · cases o with
      | none => cases hu
      | some v =>
        obtain rfl := List.mem_singleton.mp hu
        exact ⟨t, List.mem_cons_self .., hs⟩
    · obtain ⟨t', ht', hs'⟩ := ih hu
      exact ⟨t', List.mem_cons_of_mem _ ht', hs'⟩

/-- The tasks that have begun are those that do not wait. -/
theorem Paired.begun (h : Paired limited body ts us) : us.map Task.job = begun ts := by
  induction h with
  | nil => rfl
  | cons hs _ ih =>
    cases hs with
    | waits => exact ih
    | inside => exact congrArg (List.cons _) ih

/-- **Bounded concurrency**: the permits that are free and the limited jobs that have begun and not
ended make up the capacity. -/
theorem Shadows.free_add_begun (hP : Shadows limited body capacity P P') :
    P.shared.free + (begun P.tasks).countP limited = capacity := by
  obtain ⟨us, hus, hperm⟩ := hP.tasks
  have hcount : (begun P.tasks).countP limited = Semaphore.permits limited P'.tasks := by
    rw [← hus.begun, List.countP_map]
    exact hperm.countP_eq _
  rw [hcount]
  exact hP.permits

/-- A task in flight can be answered, unless it waits for a permit and none is free. -/
theorem exists_step_reply {i : ℕ} {t : Task (Limited δ) (Demand ρ) (Grant A) ε W}
    (hi : P.tasks[i]? = some t) (hfree : t.req = .acquire → P.shared.free ≠ 0)
    {ans : (q : Demand ρ) → Except ε (Grant A q)} :
    ∃ P₁, step (prog limited body) P (.reply i ans) = some P₁ := by
  have hg : ∃ P₀, granted P (.reply i ans) = some P₀ ∧ P₀.tasks = P.tasks := by
    simp only [granted, hi]
    cases hreq : t.req with
    | ask q => exact ⟨P, rfl, rfl⟩
    | acquire =>
      cases ans .acquire with
      | error e => exact ⟨P, rfl, rfl⟩
      | ok u =>
        dsimp only
        rw [if_neg (hfree hreq)]
        exact ⟨_, rfl, rfl⟩
  obtain ⟨P₀, hP₀, htasks⟩ := hg
  rw [← htasks] at hi
  have hstep : ∃ P₁, P₀.step (prog limited body) (.reply i ans) = some P₁ :=
    Pool.exists_step_reply hi ans
  obtain ⟨P₁, hP₁⟩ := hstep
  refine ⟨P₁, ?_⟩
  unfold step
  rw [hP₀]
  exact hP₁

/-- **No deadlock**: while a task is in flight one of them can go on, whatever is replied to it. -/
theorem Shadows.exists_step (hP : Shadows limited body capacity P P') (hc : 0 < capacity)
    (ht : P.tasks ≠ []) (ans : (q : Demand ρ) → Except ε (Grant A q)) :
    ∃ i P₁, step (prog limited body) P (.reply i ans) = some P₁ := by
  by_cases hfree : P.shared.free = 0
  · -- all permits are given, so a task has begun
    have hp := hP.permits
    rw [hfree, Nat.zero_add, Semaphore.permits] at hp
    obtain ⟨u, hu, -⟩ := List.countP_pos_iff.mp (by rw [hp]; exact hc)
    obtain ⟨us, hus, hperm⟩ := hP.tasks
    obtain ⟨t, hmem, hs⟩ := hus.inside_of_mem (hperm.symm.subset hu)
    obtain ⟨i, hi⟩ := List.mem_iff_getElem?.mp hmem
    refine ⟨i, exists_step_reply hi fun hreq => ?_⟩
    cases hs
    cases hreq
  · obtain ⟨t, ts, htasks⟩ := List.exists_cons_of_ne_nil ht
    exact ⟨0, exists_step_reply (t := t) (by rw [htasks]; rfl) fun _ => hfree⟩

end Jobs

end TTLockConnect.Async.Semaphore
