import TTLockConnect.Ble.Execute

/-! # Where a call of a session can be suspended

A call of `execute` waits for its turn, or is within it at a write or at the answer. What it does
from each of these points is computed once; `start_cases` and `reply_cases` say what this makes of
the moves of the tasks of a session. -/

namespace TTLockConnect.Ble.Points

open TTLockConnect.Text TTLockConnect.Ble.Cipher TTLockConnect.Ble.Protocol
open TTLockConnect.Ble.Session TTLockConnect.Ble.Execute
open TTLockConnect.Async.Coroutine TTLockConnect.Async.Coroutine.Coro TTLockConnect.Async.Runs
open TTLockConnect.Async.EventLoop TTLockConnect.Async.Mutex

/-! ### Points -/

/-- At the turn, at a write, or at the answer. -/
inductive Point where
  | turn
  | write (future : ℕ) (chunk : Bytes) (chunks : List Bytes)
  | answer (future : ℕ)

/-- The future of a call within its turn. -/
def Point.future : Point → Option ℕ
  | .turn => none
  | .write i _ _ => some i
  | .answer i => some i

section Points
variable (aes : BlockCipher) (link : Link) (n : Numbered)

/-- The end of a call whose turn goes on with `body`. -/
def closing (body : Routine Bytes) : Routine Unit := do
  let _ ← (do
    let raw ← (do
      let raw ← tryCatch body fun err => do
        release
        throw err
      release
      pure raw)
    fromExcept (Frame.decode aes raw (link.keyOf n.call)))

/-- The rest of a call. -/
def rest : Point → Routine Unit
  | .turn => do
    let _ ← (do
      let raw ← withLock (turn aes link n)
      fromExcept (Frame.decode aes raw (link.keyOf n.call)))
  | .write i chunk chunks => closing aes link n (settling (writeAndWait i (chunk :: chunks)))
  | .answer i => closing aes link n (settling (ask (Wait.answer i)))

theorem rest_turn : rest aes link n .turn = .await Demand.acquire fun
    | .ok () => closing aes link n (turn aes link n)
    | .error e => .raise e := by
  refine congrArg (Coro.await Demand.acquire) (funext fun a => ?_)
  cases a with
  | ok u => rfl
  | error e => rfl

theorem rest_write (i : ℕ) (chunk : Bytes) (chunks : List Bytes) :
    rest aes link n (.write i chunk chunks) = .await (Demand.ask (.write chunk)) fun a =>
      closing aes link n (settling (do
        orConnectionError (do
          let _ ← fromExcept a
          writeChunks chunks)
        ask (Wait.answer i))) := by
  refine congrArg (Coro.await _) (funext fun a => ?_)
  cases a with
  | ok u => rfl
  | error e => rfl

theorem rest_answer (i : ℕ) : rest aes link n (.answer i) = .await (Demand.ask (.answer i)) fun a =>
    closing aes link n (settling (fromExcept a)) := by
  refine congrArg (Coro.await _) (funext fun a => ?_)
  cases a with
  | ok raw => rfl
  | error e => rfl

/-- A turn that goes on with these chunks. -/
def goOn (i : ℕ) : List Bytes → Point
  | [] => .answer i
  | chunk :: chunks => .write i chunk chunks

theorem future_goOn (i : ℕ) (chunks : List Bytes) : (goOn i chunks).future = some i := by
  cases chunks with
  | nil => rfl
  | cons chunk chunks => rfl

theorem rest_goOn (i : ℕ) (chunks : List Bytes) :
    rest aes link n (goOn i chunks) = closing aes link n (settling (writeAndWait i chunks)) := by
  cases chunks with
  | nil => rfl
  | cons chunk chunks => rfl

/-! ### What a call does from there -/

/-- A segment within a turn: the turn is over, or it goes on with its future. -/
inductive InTurn (i : ℕ) (s : Guarded Shared) : Stop (Guarded Shared) (Demand Wait) (Grant Waited)
    PyError Unit → Prop where
  | over (r : Except PyError Unit) : InTurn i s (.done r ⟨false, s.data.clear⟩)
  | goesOn {q : Demand Wait} {k : Except PyError (Grant Waited q) → Routine Unit} (p : Point) :
      Coro.await q k = rest aes link n p → p.future = some i → InTurn i s (.wait s q k)

theorem advance_fromExcept (r : Except PyError Frame) (s : Guarded Shared) :
    ((do let _ ← (fromExcept r : Routine Frame)) : Routine Unit).advance s =
      .done (r.map fun _ => ()) s := by
  cases r with
  | ok a => rfl
  | error e => rfl

/-- A turn that has its answer. -/
theorem inTurn_pure (i : ℕ) (raw : Bytes) (s : Guarded Shared) :
    InTurn aes link n i s ((closing aes link n (settling (pure raw))).advance s) := by
  have hdone : (closing aes link n (settling (pure raw))).advance s = .done _ ⟨false, s.data.clear⟩ :=
    advance_fromExcept (Frame.decode aes raw (link.keyOf n.call)) ⟨false, s.data.clear⟩
  rw [hdone]
  exact .over _

/-- A turn that fails. -/
theorem inTurn_throw (i : ℕ) (e : PyError) (s : Guarded Shared) :
    InTurn aes link n i s ((closing aes link n (settling (throw e))).advance s) := by
  have hdone : ∃ e', (closing aes link n (settling (throw e))).advance s =
      .done (.error e') ⟨false, s.data.clear⟩ := by
    have hcatch : tryCatch (throw e : Routine Bytes)
        (fun err => if err = .timeoutError then throw .bleNoResponse else throw err) =
          throw (if e = .timeoutError then PyError.bleNoResponse else e) := by
      change (if e = .timeoutError then (throw PyError.bleNoResponse : Routine Bytes)
        else throw e) = _
      split_ifs <;> rfl
    refine ⟨if e = .timeoutError then .bleNoResponse else e, ?_⟩
    unfold settling
    rw [hcatch]
    rfl
  obtain ⟨e', hdone⟩ := hdone
  rw [hdone]
  exact .over _

theorem orConnectionError_throw (e : PyError) : ∃ e', orConnectionError (throw e) = throw e' := by
  refine ⟨if e = .bleakError then PyError.bleConnectionError else e, ?_⟩
  change (if e = .bleakError then (throw PyError.bleConnectionError : Routine Unit)
    else throw e) = _
  split_ifs <;> rfl

/-- A point is where a segment stops. -/
theorem advance_rest (p : Point) (s : Guarded Shared) : ∃ (q : Demand Wait)
    (k : Except PyError (Grant Waited q) → Routine Unit),
      (rest aes link n p).advance s = .wait s q k ∧ Coro.await q k = rest aes link n p := by
  cases p with
  | turn => exact ⟨_, _, rfl, rfl⟩
  | write i chunk chunks => exact ⟨_, _, rfl, rfl⟩
  | answer i => exact ⟨_, _, rfl, rfl⟩

/-- A turn that goes on writing. -/
theorem inTurn_writeAndWait (i : ℕ) (chunks : List Bytes) (s : Guarded Shared) :
    InTurn aes link n i s ((closing aes link n (settling (writeAndWait i chunks))).advance s) := by
  obtain ⟨q, k, hstop, hrest⟩ := advance_rest aes link n (goOn i chunks) s
  rw [rest_goOn] at hstop
  rw [hstop]
  exact .goesOn (goOn i chunks) hrest (future_goOn i chunks)

variable {aes link n}

/-- **A call within its turn resumes.** -/
theorem inTurn_resume {p : Point} {i : ℕ} (hi : p.future = some i) {q : Demand Wait}
    {k : Except PyError (Grant Waited q) → Routine Unit} (hp : Coro.await q k = rest aes link n p)
    (a : Except PyError (Grant Waited q)) (s : Guarded Shared) :
    InTurn aes link n i s ((k a).advance s) := by
  cases p with
  | turn => cases hi
  | answer j =>
    obtain rfl := Option.some.inj hi
    rw [rest_answer] at hp
    cases hp
    cases a with
    | ok raw => exact inTurn_pure aes link n j raw s
    | error e => exact inTurn_throw aes link n j e s
  | write j chunk chunks =>
    obtain rfl := Option.some.inj hi
    rw [rest_write] at hp
    cases hp
    cases a with
    | ok u => exact inTurn_writeAndWait aes link n j chunks s
    | error e =>
      obtain ⟨e', he⟩ := orConnectionError_throw e
      have hthrow := inTurn_throw aes link n j e' s
      change InTurn aes link n j s ((closing aes link n (settling (do
        orConnectionError (throw e)
        ask (Wait.answer j)))).advance s)
      rw [he]
      exact hthrow

/-- **A call waits for its turn.** -/
theorem turn_resume {q : Demand Wait} {k : Except PyError (Grant Waited q) → Routine Unit}
    (hp : Coro.await q k = rest aes link n .turn) (s : Guarded Shared)
    (ans : (q : Demand Wait) → Except PyError (Grant Waited q)) : q = .acquire ∧
      ((∃ e, ans .acquire = .error e ∧ (k (ans q)).advance s = .done (.error e) s) ∨
        ans .acquire = .ok () ∧ InTurn aes link n s.data.futures.length
          ⟨s.locked, s.data.begin n.number⟩ ((k (ans q)).advance s)) := by
  rw [rest_turn] at hp
  cases hp
  refine ⟨rfl, ?_⟩
  cases ans .acquire with
  | error e => exact .inl ⟨e, rfl, rfl⟩
  | ok u =>
    refine .inr ⟨rfl, ?_⟩
    change InTurn aes link n s.data.futures.length _ ((closing aes link n (settling (do
      let payload ← fromExcept (link.wire aes n.call)
      writeAndWait s.data.futures.length (payload.toChunks link.chunkSize)))).advance
        ⟨s.locked, s.data.begin n.number⟩)
    cases link.wire aes n.call with
    | error e => exact inTurn_throw aes link n _ e _
    | ok payload => exact inTurn_writeAndWait aes link n _ _ _

end Points

/-! ### The moves of a session -/

section Moves
variable (aes : BlockCipher) (link : Link)

abbrev SessionTask := Task (Guarded Shared) (Demand Wait) (Grant Waited) PyError Numbered

/-- A task suspended at a point. -/
def At (t : SessionTask) (p : Point) : Prop := Coro.await t.req t.cont = rest aes link t.job p

variable {aes link} in
theorem req_turn {t : SessionTask} (h : At aes link t .turn) : t.req = .acquire := by
  obtain ⟨n, born, log, req, cont⟩ := t
  change Coro.await req cont = rest aes link n .turn at h
  rw [rest_turn] at h
  cases h
  rfl

variable {aes link} in
/-- A task in its turn awaits a write, or its own future. -/
theorem req_inTurn {t : SessionTask} {p : Point} {i : ℕ} (h : At aes link t p)
    (hi : p.future = some i) : ∃ w, t.req = .ask w ∧ ∀ j, w = .answer j → j = i := by
  obtain ⟨n, born, log, req, cont⟩ := t
  change Coro.await req cont = rest aes link n p at h
  cases p with
  | turn => cases hi
  | write j chunk chunks =>
    rw [rest_write] at h
    cases h
    exact ⟨_, rfl, nofun⟩
  | answer j =>
    rw [rest_answer] at h
    cases h
    obtain rfl := Option.some.inj hi
    exact ⟨_, rfl, fun _ hj => (Wait.answer.inj hj).symm⟩

/-- A task in its turn has moved: its turn is over, or it goes on with the same future. -/
def Went (t : SessionTask) (l₁ l₂ : List SessionTask) (i : ℕ) (s : Guarded Shared)
    (P' : Conversation) : Prop :=
  P' = ⟨⟨false, s.data.clear⟩, l₁ ++ l₂⟩ ∨ ∃ t' p, P' = ⟨s, l₁ ++ t' :: l₂⟩ ∧ t'.job = t.job ∧
    At aes link t' p ∧ p.future = some i

variable {aes link} {P P' : Conversation}

/-- A call begins: without a key it is over, else it waits for its turn. -/
theorem start_cases {n : Numbered} (h : Async.Mutex.step (job aes link) P (.start n) = some P') :
    P'.shared = P.shared ∧ (P'.tasks = P.tasks ∨
      ∃ t, t.job = n ∧ At aes link t .turn ∧ P'.tasks = P.tasks ++ [t]) := by
  have hadv : (job aes link n).advance P.shared = .done (.error .bleError) P.shared ∨
      (job aes link n).advance P.shared = (rest aes link n .turn).advance P.shared := by
    unfold job execute
    split_ifs
    · exact .inl rfl
    · exact .inr rfl
  have hm : Pool.Moved (job aes link) P (.start n) P' (P.ended (job aes link) (.start n)) :=
    Pool.moved_of_step h
  generalize P.ended (job aes link) (.start n) = e at hm
  cases hm with
  | @through _ r s hdone =>
    rw [hdone] at hadv
    rcases hadv with heq | heq
    · injection heq with _ hs
      exact ⟨hs, .inl rfl⟩
    · cases heq
  | @started _ s q k hwait =>
    rw [hwait] at hadv
    rcases hadv with heq | heq
    · cases heq
    · obtain ⟨q', k', hstop, hrest⟩ := advance_rest aes link n .turn P.shared
      rw [hstop] at heq
      cases heq
      exact ⟨rfl, .inr ⟨⟨n, P.shared, [], q, k⟩, rfl, hrest, rfl⟩⟩

/-- How a task has gone on in its turn, from where its segment stops. -/
theorem went_of_inTurn {t : SessionTask} {l₁ l₂ : List SessionTask} {i j : ℕ}
    {ans : (q : Demand Wait) → Except PyError (Grant Waited q)} {s : Guarded Shared}
    {P₁ : Conversation} (hj : P₁.tasks[j]? = some t)
    (herase : P₁.tasks.eraseIdx j = l₁ ++ l₂) (hset : ∀ x, P₁.tasks.set j x = l₁ ++ x :: l₂)
    (hin : InTurn aes link t.job i s ((t.cont (ans t.req)).advance P₁.shared))
    (h : P₁.step (job aes link) (.reply j ans) = some P') : Went aes link t l₁ l₂ i s P' := by
  have hm := Pool.moved_of_step h
  generalize P₁.ended (job aes link) (.reply j ans) = e at hm
  cases hm with
  | @ended _ _ t' r s' hj' hdone =>
    obtain rfl := Option.some.inj (hj.symm.trans hj')
    rw [hdone] at hin
    cases hin
    exact .inl (by rw [herase])
  | @moved _ _ t' s' q k hj' hwait =>
    obtain rfl := Option.some.inj (hj.symm.trans hj')
    rw [hwait] at hin
    cases hin with
    | goesOn p hp hi =>
      exact .inr ⟨⟨t.job, t.born, t.log ++ [⟨t.req, ans t.req⟩], q, k⟩, p, by rw [hset], rfl, hp, hi⟩

/-- A task resumes from its point, of which something may be known. -/
theorem reply_cases {C : SessionTask → Point → Prop}
    (hpts : ∀ t ∈ P.tasks, ∃ p, At aes link t p ∧ C t p) {j : ℕ}
    {ans : (q : Demand Wait) → Except PyError (Grant Waited q)}
    (h : Async.Mutex.step (job aes link) P (.reply j ans) = some P') :
    ∃ t l₁ l₂ p, P.tasks[j]? = some t ∧ P.tasks = l₁ ++ t :: l₂ ∧ At aes link t p ∧ C t p ∧
      ((p = .turn ∧ P' = ⟨P.shared, l₁ ++ l₂⟩) ∨
      (p = .turn ∧ t.req = .acquire ∧ ans .acquire = .ok () ∧ P.shared.locked = false ∧
        Went aes link t l₁ l₂ P.shared.data.futures.length
          ⟨true, P.shared.data.begin t.job.number⟩ P') ∨
      ∃ i, p.future = some i ∧ Went aes link t l₁ l₂ i P.shared P') := by
  obtain ⟨P₁, hg, hs⟩ := Option.bind_eq_some_iff.mp h
  have htasks := granted_tasks hg
  have hm := Pool.moved_of_step hs
  obtain ⟨t, hj⟩ : ∃ t, P.tasks[j]? = some t := by
    rw [← htasks]
    generalize P₁.ended (job aes link) (.reply j ans) = e at hm
    cases hm with
    | ended hj _ => exact ⟨_, hj⟩
    | moved hj _ => exact ⟨_, hj⟩
  obtain ⟨l₁, l₂, hsplit, herase, hset⟩ := getElem?_split hj
  obtain ⟨p, hp, hC⟩ := hpts t (List.mem_of_getElem? hj)
  refine ⟨t, l₁, l₂, p, hj, hsplit, hp, hC, ?_⟩
  rw [← htasks] at hj herase
  have hset : ∀ x, P₁.tasks.set j x = l₁ ++ x :: l₂ := by rwa [htasks]
  cases hfut : p.future with
  | some i =>
    refine .inr (.inr ⟨i, rfl, ?_⟩)
    obtain ⟨w, hw, -⟩ := req_inTurn hp hfut
    rcases granted_cases (by rwa [htasks] at hj) hg with ⟨hreq, -⟩ | ⟨-, rfl⟩
    · rw [hw] at hreq
      cases hreq
    · exact went_of_inTurn hj herase hset (inTurn_resume hfut hp (ans t.req) P₁.shared) hs
  | none =>
    obtain rfl : p = .turn := by
      cases p with
      | turn => rfl
      | write i chunk chunks => cases hfut
      | answer i => cases hfut
    rcases turn_resume hp P₁.shared ans with ⟨hreq, ⟨e, he, hadv⟩ | ⟨hok, hin⟩⟩
    · rcases granted_cases (by rwa [htasks] at hj) hg with ⟨-, hok, -⟩ | ⟨-, rfl⟩
      · cases he.symm.trans hok
      · refine .inl ⟨rfl, ?_⟩
        generalize P₁.ended (job aes link) (.reply j ans) = out at hm
        cases hm with
        | @ended _ _ t' r s hj' hdone =>
          obtain rfl := Option.some.inj (hj.symm.trans hj')
          rw [hadv] at hdone
          cases hdone
          rw [herase]
        | @moved _ _ t' s q k hj' hwait =>
          obtain rfl := Option.some.inj (hj.symm.trans hj')
          rw [hadv] at hwait
          cases hwait
    · rcases granted_cases (by rwa [htasks] at hj) hg with ⟨-, -, hlocked, rfl⟩ | ⟨herr, -⟩
      · exact .inr (.inl ⟨rfl, hreq, hok, hlocked, went_of_inTurn hj herase hset hin hs⟩)
      · obtain ⟨e, he⟩ := herr hreq
        cases hok.symm.trans he

end Moves

end TTLockConnect.Ble.Points
