import TTLockConnect.Ble.Points
import TTLockConnect.Ble.Reassembly
import Mathlib.Data.List.Nodup

/-! # One call of a session within its turn

That at most one call is within its turn comes from the lock; its future is the one that is pending.
`inv_reply` carries this along the moves of the tasks, `inv_callback` along what happens between
them. -/

namespace TTLockConnect.Ble.Pairing

open TTLockConnect.Text TTLockConnect.Ble.Cipher TTLockConnect.Ble.Protocol
open TTLockConnect.Ble.Session TTLockConnect.Ble.Execute TTLockConnect.Ble.Points
open TTLockConnect.Async.Coroutine TTLockConnect.Async.Coroutine.Coro TTLockConnect.Async.Runs
open TTLockConnect.Async.EventLoop TTLockConnect.Async.Mutex

/-! ### One turn at a time -/

/-- Everything that a turn awaits needs the turn. -/
abbrev inTurn : Wait → Bool := fun _ => true

section Orderly
variable {may : Prop} {s : Guarded Shared}

/-- The turn is kept. -/
abbrev Keeps {α : Type} : Bool → Guarded Shared → Except PyError α → Prop :=
  fun held s _ => held = true ∧ s.locked = true

theorem orderly_writeChunks (chunks : List Bytes) (hs : s.locked = true) :
    Orderly inTurn may Keeps (writeChunks chunks) true s := by
  induction chunks generalizing s with
  | nil => exact ⟨rfl, hs⟩
  | cons chunk chunks ih =>
    exact orderly_ask_bind (.inl rfl) (fun e s hs => ⟨rfl, hs rfl⟩) fun _ s hs => ih (hs rfl)

theorem orderly_orConnectionError {body : Routine Unit}
    (hbody : Orderly inTurn may Keeps body true s) :
    Orderly inTurn may Keeps (orConnectionError body) true s := by
  refine orderly_tryCatch _ (orderly_mono (fun held s r hkeeps => ?_) _ hbody)
  cases r with
  | ok a => exact hkeeps
  | error e =>
    dsimp only
    split_ifs
    · exact hkeeps
    · exact hkeeps

theorem orderly_writeAndWait (i : ℕ) (chunks : List Bytes) (hs : s.locked = true) :
    Orderly inTurn may Keeps (writeAndWait i chunks) true s := by
  refine orderly_bind _ (orderly_mono (fun held s r hkeeps => ?_) _
    (orderly_orConnectionError (orderly_writeChunks chunks hs)))
  obtain ⟨rfl, hs⟩ := hkeeps
  cases r with
  | error e => exact ⟨rfl, hs⟩
  | ok a => exact orderly_ask (.inl rfl) fun r s hs => ⟨rfl, hs rfl⟩

theorem orderly_settling {body : Routine Bytes} (hbody : Orderly inTurn may Keeps body true s) :
    Orderly inTurn may Keeps (settling body) true s := by
  refine orderly_bind _ (orderly_tryCatch _ (orderly_tryCatch _
    (orderly_mono (fun held s r hkeeps => ?_) _ hbody)))
  obtain ⟨rfl, hs⟩ := hkeeps
  cases r with
  | ok raw => exact orderly_bind _ (orderly_modifyData (fun _ => hs) ⟨rfl, hs⟩)
  | error e =>
    dsimp only
    split_ifs
    · exact orderly_bind _ (orderly_modifyData (fun _ => hs) ⟨rfl, hs⟩)
    · exact orderly_bind _ (orderly_modifyData (fun _ => hs) ⟨rfl, hs⟩)

theorem orderly_turn (aes : BlockCipher) (link : Link) (n : Numbered) (hs : s.locked = true) :
    Orderly inTurn may Keeps (turn aes link n) true s := by
  refine orderly_bind _ ⟨.inl rfl, ?_⟩
  change Orderly inTurn may Keeps (settling _) (true && s.locked) ⟨s.locked, _⟩
  rw [hs]
  refine orderly_settling ?_
  cases link.wire aes n.call with
  | error e => exact ⟨rfl, rfl⟩
  | ok payload => exact orderly_writeAndWait _ _ rfl

/-- **A call keeps to its turn.** -/
theorem orderly_job (aes : BlockCipher) (link : Link) (n : Numbered) (s : Guarded Shared) :
    Orderly inTurn True (fun held _ _ => held = false) (job aes link n) false s := by
  refine orderly_bind _ ?_
  unfold execute
  split_ifs
  · rfl
  · refine orderly_bind _ (orderly_withLock trivial (fun s hs => orderly_mono (fun _ _ _ h => h.1) _
      (orderly_turn aes link n hs)) fun s r => ?_)
    cases r with
    | error e => rfl
    | ok raw =>
      dsimp only
      cases Frame.decode aes raw (link.keyOf n.call) with
      | ok frame => rfl
      | error e => rfl

end Orderly

/-! ### The invariant of a session -/

/-- The calls that created the futures. -/
def creators (c : Shared) : List ℕ := c.futures.map Future.owner

section Invariant
variable (aes : BlockCipher) (link : Link)

/-- A task waits for its turn and has no future yet, or its future is pending. -/
def Placed (c : Shared) (t : SessionTask) : Prop :=
  ∃ p, At aes link t p ∧ (p.future = none → t.job.number ∉ creators c) ∧
    ∀ i, p.future = some i → c.pending = some i ∧ (creators c)[i]? = some t.job.number

/-- The calls are numbered: no number is used twice. -/
structure Counted (c : Shared) (ts : List SessionTask) : Prop where
  creators_nodup : (creators c).Nodup
  tasks_nodup : (ts.map fun t => t.job.number).Nodup
  creators_lt : ∀ k ∈ creators c, k < c.calls
  tasks_lt : ∀ t ∈ ts, t.job.number < c.calls

/-- **The invariant of a session.** -/
structure Inv (P : Conversation) : Prop where
  holding : Holding inTurn (fun _ => True) P.tasks P.shared.holders
  placed : ∀ t ∈ P.tasks, Placed aes link P.shared.data t
  idle : P.shared.locked = false → P.shared.data.pending = none
  counted : Counted P.shared.data P.tasks

variable {aes link} {P P' : Conversation} {c c' : Shared} {t t' : SessionTask}
  {l₁ l₂ ts : List SessionTask}

/-- Where no task is within its turn, all wait for theirs. -/
theorem waits_of_countP (h : ts.countP (fun t => t.req.isCritical inTurn) = 0) :
    ∀ u ∈ ts, ∀ p, At aes link u p → p.future = none := by
  intro u hu p hp
  cases hi : p.future with
  | none => rfl
  | some i =>
    obtain ⟨w, hw, -⟩ := req_inTurn hp hi
    have hnot := List.countP_eq_zero.mp h u hu
    rw [hw] at hnot
    exact absurd rfl hnot

/-- While a task is within its turn, the others wait for theirs. -/
theorem waits_of_inTurn (h : (l₁ ++ t :: l₂).countP (fun t => t.req.isCritical inTurn) ≤ 1)
    {p : Point} {i : ℕ} (hp : At aes link t p) (hi : p.future = some i) :
    ∀ u ∈ l₁ ++ l₂, ∀ p, At aes link u p → p.future = none := by
  obtain ⟨w, hw, -⟩ := req_inTurn hp hi
  have hcrit : t.req.isCritical inTurn = true := by
    rw [hw]
    rfl
  refine waits_of_countP ?_
  rw [List.countP_append, List.countP_cons, if_pos hcrit] at h
  rw [List.countP_append]
  omega

/-- Within a turn the lock is taken. -/
theorem locked_of_inTurn {s : Guarded Shared}
    (h : (l₁ ++ t :: l₂).countP (fun t => t.req.isCritical inTurn) ≤ s.holders) {p : Point} {i : ℕ}
    (hp : At aes link t p) (hi : p.future = some i) : s.locked = true := by
  obtain ⟨w, hw, -⟩ := req_inTurn hp hi
  have hcrit : t.req.isCritical inTurn = true := by
    rw [hw]
    rfl
  rw [List.countP_append, List.countP_cons, if_pos hcrit] at h
  unfold Guarded.holders at h
  cases hs : s.locked with
  | true => rfl
  | false =>
    rw [hs, Bool.toNat_false] at h
    omega

theorem Placed.waits (h : Placed aes link c t)
    (hw : ∀ p, At aes link t p → p.future = none) :
    ∃ p, At aes link t p ∧ p.future = none ∧ t.job.number ∉ creators c := by
  obtain ⟨p, hp, hnone, -⟩ := h
  exact ⟨p, hp, hw p hp, hnone (hw p hp)⟩

/-- A task that waits is not disturbed by what happens to the futures of others. -/
theorem placed_of_waits (h : Placed aes link c t) (hw : ∀ p, At aes link t p → p.future = none)
    (hc : ∀ k ∈ creators c', k ∈ creators c ∨ k ≠ t.job.number) : Placed aes link c' t := by
  obtain ⟨p, hp, hnone, hnot⟩ := h.waits hw
  refine ⟨p, hp, fun _ hmem => ?_, fun i hi => ?_⟩
  · rcases hc _ hmem with hmem | hne
    · exact hnot hmem
    · exact hne rfl
  · rw [hnone] at hi
    cases hi

theorem placed_congr (h : Placed aes link c t) (hp : c'.pending = c.pending)
    (hc : creators c' = creators c) : Placed aes link c' t := by
  unfold Placed
  rw [hp, hc]
  exact h

theorem Counted.congr (h : Counted c ts) (hn : c'.calls = c.calls)
    (hc : creators c' = creators c) : Counted c' ts := by
  constructor
  · rw [hc]
    exact h.creators_nodup
  · exact h.tasks_nodup
  · rw [hc, hn]
    exact h.creators_lt
  · rw [hn]
    exact h.tasks_lt

theorem Counted.erase (h : Counted c (l₁ ++ t :: l₂)) : Counted c (l₁ ++ l₂) := by
  have hsub : (l₁ ++ l₂).Sublist (l₁ ++ t :: l₂) :=
    List.Sublist.append_left (List.sublist_cons_self t l₂) l₁
  exact ⟨h.creators_nodup, h.tasks_nodup.sublist (hsub.map _), h.creators_lt,
    fun u hu => h.tasks_lt u (hsub.subset hu)⟩

theorem Counted.replace (h : Counted c (l₁ ++ t :: l₂)) (hj : t'.job = t.job) :
    Counted c (l₁ ++ t' :: l₂) := by
  have hmap : (l₁ ++ t' :: l₂).map (fun t => t.job.number) =
      (l₁ ++ t :: l₂).map fun t => t.job.number := by
    rw [List.map_append, List.map_append, List.map_cons, List.map_cons, hj]
  refine ⟨h.creators_nodup, hmap ▸ h.tasks_nodup, h.creators_lt, fun u hu => ?_⟩
  have hmem : u.job.number ∈ (l₁ ++ t :: l₂).map fun t => t.job.number := by
    rw [← hmap]
    exact List.mem_map_of_mem hu
  obtain ⟨v, hv, heq⟩ := List.mem_map.mp hmem
  rw [← heq]
  exact h.tasks_lt v hv

/-- The number of a task is not that of another. -/
theorem Counted.ne (h : Counted c (l₁ ++ t :: l₂)) :
    ∀ u ∈ l₁ ++ l₂, t.job.number ≠ u.job.number := by
  have hnodup := h.tasks_nodup
  rw [List.map_append, List.map_cons, List.nodup_middle, ← List.map_append] at hnodup
  intro u hu heq
  exact (List.nodup_cons.mp hnodup).1 (heq ▸ List.mem_map_of_mem hu)

/-! ### A step keeps the invariant -/

theorem creators_begin (c : Shared) (k : ℕ) : creators (c.begin k) = creators c ++ [k] := by
  unfold creators Shared.begin
  rw [List.map_append]
  rfl

theorem Counted.begin (h : Counted c (l₁ ++ t :: l₂)) (hnot : t.job.number ∉ creators c) :
    Counted (c.begin t.job.number) (l₁ ++ t :: l₂) := by
  refine ⟨?_, h.tasks_nodup, fun k hk => ?_, h.tasks_lt⟩
  · rw [creators_begin, List.nodup_append]
    refine ⟨h.creators_nodup, List.nodup_singleton _, fun a ha b hb => ?_⟩
    rw [List.mem_singleton.mp hb]
    exact fun heq => hnot (heq ▸ ha)
  · rw [creators_begin] at hk
    rcases List.mem_append.mp hk with hk | hk
    · exact h.creators_lt k hk
    · rw [List.mem_singleton.mp hk]
      exact h.tasks_lt t (by simp)

/-- What a task leaves behind in its turn, over or going on. -/
theorem inv_went {s : Guarded Shared} {i : ℕ} (hw : Went aes link t l₁ l₂ i s P')
    (hholding : Holding inTurn (fun _ => True) P'.tasks P'.shared.holders)
    (hlocked : s.locked = true) (hcounted : Counted s.data (l₁ ++ t :: l₂))
    (hi : s.data.pending = some i ∧ (creators s.data)[i]? = some t.job.number)
    (hrest : ∀ u ∈ l₁ ++ l₂, Placed aes link s.data u ∧ ∀ p, At aes link u p → p.future = none) :
    Inv aes link P' := by
  rcases hw with rfl | ⟨t', p, rfl, hjob, hp, hfut⟩
  · refine ⟨hholding, fun u hu => ?_, fun _ => rfl, hcounted.erase.congr rfl rfl⟩
    exact placed_of_waits (hrest u hu).1 (hrest u hu).2 fun k hk => .inl hk
  · refine ⟨hholding, fun u hu => ?_, fun hfree => ?_, hcounted.replace hjob⟩
    · rcases List.mem_append.mp hu with hu | hu
      · exact (hrest u (List.mem_append_left _ hu)).1
      · rcases List.mem_cons.mp hu with rfl | hu
        · refine ⟨p, hp, fun hnone => ?_, fun j hj => ?_⟩
          · rw [hfut] at hnone
            cases hnone
          · rw [hfut] at hj
            obtain rfl := Option.some.inj hj
            rw [hjob]
            exact hi
        · exact (hrest u (List.mem_append_right _ hu)).1
    · rw [hlocked] at hfree
      cases hfree

theorem holders_le_one (s : Guarded Shared) : s.holders ≤ 1 := Bool.toNat_le s.locked

/-- A task resumes. -/
theorem inv_reply (hI : Inv aes link P) {j : ℕ}
    {ans : (q : Demand Wait) → Except PyError (Grant Waited q)}
    (h : Async.Mutex.step (job aes link) P (.reply j ans) = some P') : Inv aes link P' := by
  have hholding := step_holding (orderly_job aes link) hI.holding h
  have hcount := hI.holding.countP_le
  have hone := holders_le_one P.shared
  obtain ⟨t, l₁, l₂, p, -, hsplit, hp, ⟨-, hown⟩, hcase⟩ := reply_cases hI.placed h
  have hcounted := hI.counted
  have hplaced := hI.placed
  rw [hsplit] at hcount hcounted hplaced
  have hsub : ∀ u ∈ l₁ ++ l₂, u ∈ l₁ ++ t :: l₂ := by
    intro u hu
    rw [List.mem_append, List.mem_cons]
    exact (List.mem_append.mp hu).imp_right .inr
  have ht : t ∈ l₁ ++ t :: l₂ := by simp
  rcases hcase with ⟨-, rfl⟩ | ⟨rfl, -, -, hlocked, hwent⟩ | ⟨i, hi, hwent⟩
  · exact ⟨hholding, fun u hu => hplaced u (hsub u hu), hI.idle, hcounted.erase⟩
  · have hzero : P.shared.holders = 0 := by
      unfold Guarded.holders
      rw [hlocked]
      rfl
    have hwaits := @waits_of_countP aes link _ (Nat.le_zero.mp (hzero ▸ hcount))
    obtain ⟨-, -, -, hnot⟩ := (hplaced t ht).waits (hwaits t ht)
    have hlen : P.shared.data.futures.length = (creators P.shared.data).length :=
      (List.length_map _).symm
    refine inv_went hwent hholding rfl (hcounted.begin hnot) ⟨rfl, ?_⟩ fun u hu => ?_
    · rw [creators_begin, hlen, List.getElem?_concat_length]
    · refine ⟨placed_of_waits (hplaced u (hsub u hu)) (hwaits u (hsub u hu)) fun k hk => ?_,
        hwaits u (hsub u hu)⟩
      rw [creators_begin] at hk
      refine (List.mem_append.mp hk).imp_right fun hk => ?_
      rw [List.mem_singleton.mp hk]
      exact hcounted.ne u hu
  · have hlocked := locked_of_inTurn hcount hp hi
    have hwaits := waits_of_inTurn (Nat.le_trans hcount hone) hp hi
    exact inv_went hwent hholding hlocked hcounted (hown i hi) fun u hu =>
      ⟨hplaced u (hsub u hu), hwaits u hu⟩

/-- A callback leaves the tasks alone, and who created which future. -/
theorem inv_callback (hI : Inv aes link P) (hp : c.pending = P.shared.data.pending)
    (hn : c.calls = P.shared.data.calls) (hc : creators c = creators P.shared.data) :
    Inv aes link { P with shared := { P.shared with data := c } } :=
  ⟨hI.holding, fun t ht => placed_congr (hI.placed t ht) hp hc, fun hf => hp.trans (hI.idle hf),
    hI.counted.congr hn hc⟩

end Invariant

end TTLockConnect.Ble.Pairing
