import TTLockConnect.Ble.Pairing
import TTLockConnect.Ble.Reassembly
import Mathlib.Data.List.Induction

/-! # The answers of a session

What each move does to what the tasks share, and what follows along a run: the assembler holds what
has been heard since the pending future was created, so the frame that a future is given is the
first in the bytes notified since its call's turn began, and is given it as it is completed. -/

namespace TTLockConnect.Ble.Answers

open TTLockConnect.Text TTLockConnect.Ble.Cipher TTLockConnect.Ble.Protocol
open TTLockConnect.Ble.Session TTLockConnect.Ble.Execute TTLockConnect.Ble.Points
open TTLockConnect.Ble.Pairing TTLockConnect.Ble.Reassembly TTLockConnect.Stream.Splitter
open TTLockConnect.Async.Coroutine TTLockConnect.Async.Coroutine.Coro TTLockConnect.Async.Runs
open TTLockConnect.Async.EventLoop TTLockConnect.Async.Mutex

/-! ### The callbacks -/

section Callbacks
variable {c c' : Shared} {i : ℕ} {raw : Bytes}

/-- The future with this number afterwards. -/
theorem getElem?_setFuture (c : Shared) (i j : ℕ) (state : FutureState) :
    (c.setFuture i state).futures[j]? =
      (c.futures[j]?).map fun f => if i = j then { f with state := state } else f :=
  List.getElem?_modify ..

theorem creators_setFuture (c : Shared) (i : ℕ) (state : FutureState) :
    creators (c.setFuture i state) = creators c := by
  apply List.ext_getElem?
  intro j
  unfold creators
  rw [List.getElem?_map, List.getElem?_map, getElem?_setFuture, Option.map_map]
  refine congrArg (Option.map · c.futures[j]?) (funext fun f => ?_)
  dsimp only [Function.comp_apply]
  split_ifs <;> rfl

theorem deliver_of_unexpected (h : c.unexpected = true) (raw : Bytes) : c.deliver raw = .ok c := by
  unfold Shared.deliver
  rw [h]

theorem foldlM_deliver_of_unexpected (h : c.unexpected = true) (frames : List Bytes) :
    frames.foldlM Shared.deliver c = .ok c := by
  induction frames with
  | nil => rfl
  | cons raw frames ih =>
    rw [List.foldlM_cons, deliver_of_unexpected h]
    exact ih

/-- A future that is waited for. -/
structure Awaited (c : Shared) (i : ℕ) (f : Future) : Prop where
  pending : c.pending = some i
  future : c.futures[i]? = some f
  waiting : f.state = .waiting

theorem unexpected_or_awaited (c : Shared) : c.unexpected = true ∨ ∃ i f, Awaited c i f := by
  unfold Shared.unexpected
  cases hp : c.pending with
  | none => exact .inl rfl
  | some i =>
    cases hf : c.futures[i]? with
    | none =>
      left
      dsimp only
      rw [hf]
      rfl
    | some f =>
      cases hs : f.state with
      | waiting => exact .inr ⟨i, f, hp, hf, hs⟩
      | result raw =>
        left
        dsimp only
        rw [hf, Option.map_some, hs]
        rfl
      | cancelled =>
        left
        dsimp only
        rw [hf, Option.map_some, hs]
        rfl

theorem unexpected_of_awaited {f : Future} (h : Awaited c i f) : c.unexpected = false := by
  unfold Shared.unexpected
  rw [h.pending]
  dsimp only
  rw [h.future, Option.map_some, h.waiting]
  rfl

/-- A future that is waited for takes the frame, and then no other. -/
theorem deliver_of_awaited {f : Future} (h : Awaited c i f) (raw : Bytes) :
    c.deliver raw = .ok (c.setFuture i (.result raw)) ∧
      (c.setFuture i (.result raw)).unexpected = true := by
  constructor
  · unfold Shared.deliver Shared.setResult
    rw [unexpected_of_awaited h, h.pending]
    dsimp only
    rw [h.future]
    dsimp only
    rw [h.waiting]
    rfl
  · have hpending : (c.setFuture i (.result raw)).pending = some i := h.pending
    unfold Shared.unexpected
    rw [hpending]
    dsimp only
    rw [getElem?_setFuture, h.future, Option.map_some, if_pos rfl]
    rfl

/-- **What a notification does**: nothing is waited for or complete, or the first frame that is
completed goes to the future that is waited for. -/
theorem notification_cases (c : Shared) (data : Bytes) :
    ((c.unexpected = true ∨ (c.assembler.feed data).1 = []) ∧
      c.notification data = .ok { c with assembler := (c.assembler.feed data).2 }) ∨
    ∃ i f raw, Awaited c i f ∧ (c.assembler.feed data).1.head? = some raw ∧
      c.notification data =
        .ok ({ c with assembler := (c.assembler.feed data).2 }.setFuture i (.result raw)) := by
  unfold Shared.notification
  generalize (c.assembler.feed data).2 = a
  rcases unexpected_or_awaited c with hu | ⟨i, f, h⟩
  · have hu' : Shared.unexpected { c with assembler := a } = true := hu
    exact .inl ⟨.inl hu, foldlM_deliver_of_unexpected hu' _⟩
  · cases (c.assembler.feed data).1 with
    | nil => exact .inl ⟨.inr rfl, rfl⟩
    | cons raw frames =>
      have ha : Awaited { c with assembler := a } i f := ⟨h.pending, h.future, h.waiting⟩
      obtain ⟨hd, hu⟩ := deliver_of_awaited ha raw
      refine .inr ⟨i, f, raw, h, rfl, ?_⟩
      rw [List.foldlM_cons, hd]
      exact foldlM_deliver_of_unexpected hu frames

/-- `set_result` does not fail, and a notification is no business of the tasks. -/
theorem notification_ok (c : Shared) (data : Bytes) : ∃ c', c.notification data = .ok c' ∧
    c'.pending = c.pending ∧ c'.calls = c.calls ∧ creators c' = creators c := by
  rcases notification_cases c data with ⟨-, hn⟩ | ⟨i, f, raw, -, -, hn⟩
  · exact ⟨_, hn, rfl, rfl, rfl⟩
  · exact ⟨_, hn, rfl, rfl, creators_setFuture _ i _⟩

theorem cancelFuture_cases (c : Shared) (i : ℕ) : c.cancelFuture i = c ∨
    ∃ f, c.futures[i]? = some f ∧ f.state = .waiting ∧
      c.cancelFuture i = c.setFuture i .cancelled := by
  unfold Shared.cancelFuture
  cases hf : c.futures[i]? with
  | none => exact .inl rfl
  | some f =>
    dsimp only
    cases hs : f.state with
    | waiting => exact .inr ⟨f, rfl, hs, rfl⟩
    | result raw => exact .inl rfl
    | cancelled => exact .inl rfl

end Callbacks

/-! ### The moves -/

abbrev SessionMove := Move Conversation Event

/-- The move in which a call gets its turn and creates its future. -/
structure BeganTurn (m : SessionMove) (number i : ℕ) : Prop where
  granted : ∃ j ans t, m.label = .task (.reply j ans) ∧ m.src.tasks[j]? = some t ∧
    t.job.number = number ∧ t.req = .acquire ∧ ans .acquire = .ok ()
  fresh : m.src.shared.data.futures.length = i

/-- **What a move does to what the tasks share.** -/
inductive DataMoved (m : SessionMove) : Prop where
  /-- A call begins or is refused, a write is done, or a call that waits for its turn gives up. -/
  | kept (calls : ℕ) : (∀ data, m.label ≠ .notify data) →
      m.dst.shared.data = { m.src.shared.data with calls := calls } → DataMoved m
  | began {number : ℕ} : BeganTurn m number m.src.shared.data.futures.length →
      m.dst.shared.data = m.src.shared.data.begin number ∨
        m.dst.shared.data = (m.src.shared.data.begin number).clear → DataMoved m
  | cleared : (∀ data, m.label ≠ .notify data) →
      m.dst.shared.data = m.src.shared.data.clear → DataMoved m
  | notified {data : Bytes} : m.label = .notify data →
      m.src.shared.data.notification data = .ok m.dst.shared.data → DataMoved m
  | interrupted {i : ℕ} : m.label = .interrupt i →
      m.dst.shared.data = m.src.shared.data.cancelFuture i → DataMoved m

section Step
variable {aes : BlockCipher} {link : Link} {P P' : Conversation} {e : Event}

theorem inv_start (hI : Inv aes link P) {n : Numbered} (hn : n.number = P.shared.data.calls)
    (h : Async.Mutex.step (job aes link) (counted P (.start n)) (.start n) = some P') :
    Inv aes link P' ∧
      P'.shared.data = { P.shared.data with calls := P.shared.data.calls + 1 } := by
  have hholding := step_holding (P := counted P (.start n)) (orderly_job aes link) hI.holding h
  obtain ⟨hshared, htasks⟩ := start_cases h
  obtain ⟨shared, tasks⟩ := P'
  dsimp only at hshared htasks
  subst hshared
  have hcreators : ∀ k ∈ creators P.shared.data, k < P.shared.data.calls + 1 :=
    fun k hk => Nat.lt_succ_of_lt (hI.counted.creators_lt k hk)
  have htasks_lt : ∀ t ∈ P.tasks, t.job.number < P.shared.data.calls + 1 :=
    fun t ht => Nat.lt_succ_of_lt (hI.counted.tasks_lt t ht)
  refine ⟨?_, rfl⟩
  rcases htasks with rfl | ⟨t, rfl, hat, rfl⟩
  · exact ⟨hholding, fun t ht => placed_congr (hI.placed t ht) rfl rfl, hI.idle,
      hI.counted.creators_nodup, hI.counted.tasks_nodup, hcreators, htasks_lt⟩
  · refine ⟨hholding, fun u hu => ?_, hI.idle, hI.counted.creators_nodup, ?_, hcreators, ?_⟩
    · rcases List.mem_append.mp hu with hu | hu
      · exact placed_congr (hI.placed u hu) rfl rfl
      · obtain rfl := List.mem_singleton.mp hu
        refine ⟨.turn, hat, fun _ hmem => ?_, nofun⟩
        have hlt := hI.counted.creators_lt _ hmem
        omega
    · rw [List.map_append, List.nodup_append]
      refine ⟨hI.counted.tasks_nodup, List.nodup_singleton _, fun a ha b hb => ?_⟩
      obtain ⟨u, hu, rfl⟩ := List.mem_map.mp ha
      obtain rfl := List.mem_singleton.mp hb
      have hlt := hI.counted.tasks_lt u hu
      dsimp only
      omega
    · intro u hu
      rcases List.mem_append.mp hu with hu | hu
      · exact htasks_lt u hu
      · obtain rfl := List.mem_singleton.mp hu
        change _ < P.shared.data.calls + 1
        omega

/-- A task that goes on in its turn, or whose turn is over. -/
theorem data_of_went {t : SessionTask} {l₁ l₂ : List SessionTask} {i : ℕ} {s : Guarded Shared}
    (h : Went aes link t l₁ l₂ i s P') :
    P'.shared.data = s.data ∨ P'.shared.data = s.data.clear := by
  rcases h with rfl | ⟨t', p, rfl, -⟩
  · exact .inr rfl
  · exact .inl rfl

/-- **A step keeps the invariant**, and moves what the tasks share in one of these ways. -/
theorem step_cases (hI : Inv aes link P) (h : Execute.step aes link P e = some P') :
    Inv aes link P' ∧ DataMoved ⟨P, e, P'⟩ := by
  cases e with
  | notify data =>
    obtain ⟨c, hn, hp, hcalls, hc⟩ := notification_ok P.shared.data data
    simp only [Execute.step, hn] at h
    obtain rfl := Option.some.inj h
    exact ⟨inv_callback hI hp hcalls hc, .notified rfl hn⟩
  | interrupt i =>
    obtain rfl := Option.some.inj h
    refine ⟨?_, .interrupted rfl rfl⟩
    rcases cancelFuture_cases P.shared.data i with heq | ⟨f, -, -, heq⟩
    · exact inv_callback hI (congrArg Shared.pending heq) (congrArg Shared.calls heq)
        (congrArg creators heq)
    · refine inv_callback hI ?_ ?_ ?_
      · rw [heq]
        rfl
      · rw [heq]
        rfl
      · rw [heq, creators_setFuture]
  | task l =>
    simp only [Execute.step] at h
    split_ifs at h with hmay
    cases l with
    | start n =>
      obtain ⟨hI', hdata⟩ := inv_start hI (of_decide_eq_true hmay) h
      exact ⟨hI', .kept _ nofun hdata⟩
    | reply j ans =>
      refine ⟨inv_reply hI h, ?_⟩
      obtain ⟨t, l₁, l₂, p, hj, -, -, -, hcase⟩ := reply_cases hI.placed h
      rcases hcase with ⟨-, rfl⟩ | ⟨-, hreq, hok, -, hwent⟩ | ⟨i, -, hwent⟩
      · exact .kept P.shared.data.calls nofun rfl
      · exact .began ⟨⟨j, ans, t, rfl, hj, rfl, hreq, hok⟩, rfl⟩ (data_of_went hwent)
      · rcases data_of_went hwent with hdata | hdata
        · exact .kept P.shared.data.calls nofun hdata
        · exact .cleared nofun hdata

end Step

/-! ### What has been heard -/

/-- The notifications in some moves. -/
def heard (τ : List SessionMove) : List Bytes :=
  τ.filterMap fun m => match m.label with
    | .notify data => some data
    | _ => none

theorem heard_append (τ τ' : List SessionMove) : heard (τ ++ τ') = heard τ ++ heard τ' :=
  List.filterMap_append

theorem heard_of_notify {m : SessionMove} {data : Bytes} (h : m.label = .notify data) :
    heard [m] = [data] := by
  simp [heard, h]

theorem heard_of_not {m : SessionMove} (h : ∀ data, m.label ≠ .notify data) : heard [m] = [] := by
  unfold heard
  cases hl : m.label with
  | notify data => exact absurd hl (h data)
  | task l => simp [hl]
  | interrupt i => simp [hl]

/-- What has been heard is what has been fed. -/
theorem emitted_eq (heard : List Bytes) : emitted heard =
    ((drained cutFrame heard.flatten).1, ⟨(drained cutFrame heard.flatten).2⟩) := by
  induction heard using List.reverseRecOn with
  | nil => rfl
  | append_singleton heard data ih =>
    rw [emitted_snoc, ih, feed_eq, List.flatten_append, List.flatten_singleton,
      drained_append lawful_cutFrame heard.flatten data]

/-- The first frame consists of what has been heard. -/
theorem infix_of_firstFrame {heard : List Bytes} {raw : Bytes} (h : firstFrame heard = some raw) :
    raw <:+: heard.flatten := by
  unfold firstFrame at h
  rw [emitted_eq] at h
  exact infix_of_mem_drained (List.mem_of_head? h)

/-- The first frame that a fresh assembler makes of the notifications since the turn in which this
future was created began. -/
structure AnsweredBy (τ : List SessionMove) (number i : ℕ) (raw : Bytes) : Prop where
  run : ∃ τ₁ b τ₂ τ₃, τ = τ₁ ++ b :: (τ₂ ++ τ₃) ∧ BeganTurn b number i ∧
    firstFrame (heard τ₂) = some raw ∧ raw <:+: (heard τ₂).flatten

/-- The turn of the pending future, with what the assembler has made of what has been heard. -/
structure Listening (τ : List SessionMove) (c : Shared) (i : ℕ) : Prop where
  run : ∃ τ₁ b τ₂ f, τ = τ₁ ++ b :: τ₂ ∧ c.futures[i]? = some f ∧ BeganTurn b f.owner i ∧
    c.assembler = (emitted (heard τ₂)).2 ∧ (f.state = .waiting → firstFrame (heard τ₂) = none)

/-- **What the moves so far say of the futures.** -/
structure History (τ : List SessionMove) (c : Shared) : Prop where
  answered : ∀ i f raw, c.futures[i]? = some f → f.state = .result raw →
    AnsweredBy τ f.owner i raw
  listening : ∀ i, c.pending = some i → Listening τ c i

section History
variable {τ : List SessionMove} {m : SessionMove} {c c' : Shared} {number i : ℕ} {raw : Bytes}

theorem AnsweredBy.snoc (h : AnsweredBy τ number i raw) (m : SessionMove) :
    AnsweredBy (τ ++ [m]) number i raw := by
  obtain ⟨τ₁, b, τ₂, τ₃, rfl, hb, hraw⟩ := h.run
  refine ⟨τ₁, b, τ₂, τ₃ ++ [m], ?_, hb, hraw⟩
  rw [List.append_assoc, List.cons_append, List.append_assoc]

/-- A move that is not heard of. -/
theorem Listening.snoc (h : Listening τ c i) (hm : heard [m] = []) (ha : c'.assembler = c.assembler)
    (hf : ∀ f, c.futures[i]? = some f → ∃ f', c'.futures[i]? = some f' ∧ f'.owner = f.owner ∧
      (f'.state = .waiting → f.state = .waiting)) : Listening (τ ++ [m]) c' i := by
  obtain ⟨τ₁, b, τ₂, f, rfl, hfut, hb, hasm, hwait⟩ := h.run
  obtain ⟨f', hfut', howner, hstate⟩ := hf f hfut
  have hheard : heard (τ₂ ++ [m]) = heard τ₂ := by rw [heard_append, hm, List.append_nil]
  refine ⟨τ₁, b, τ₂ ++ [m], f', ?_, hfut', howner ▸ hb, ?_, fun h => ?_⟩
  · rw [List.append_assoc, List.cons_append]
  · rw [hheard, ha, hasm]
  · rw [hheard]
    exact hwait (hstate h)

/-- The first frame once more has been heard. -/
theorem firstFrame_snoc {heard : List Bytes} (h : firstFrame heard = none) (data : Bytes) :
    firstFrame (heard ++ [data]) = (((emitted heard).2.feed data).1).head? := by
  have hnil : (emitted heard).1 = [] := List.head?_eq_none_iff.mp h
  rw [firstFrame, emitted_snoc, hnil, List.nil_append]

theorem answered_began (h : History τ c) (k : ℕ) :
    ∀ i f raw, (c.begin k).futures[i]? = some f → f.state = .result raw →
      AnsweredBy (τ ++ [m]) f.owner i raw := by
  intro i f raw hf hraw
  unfold Shared.begin at hf
  dsimp only at hf
  rcases Nat.lt_or_ge i c.futures.length with hlt | hge
  · rw [List.getElem?_append_left hlt] at hf
    exact (h.answered i f raw hf hraw).snoc m
  · rw [List.getElem?_append_right hge] at hf
    obtain rfl := List.mem_singleton.mp (List.mem_of_getElem? hf)
    cases hraw

theorem listening_began (hb : BeganTurn m number c.futures.length) :
    Listening (τ ++ [m]) (c.begin number) c.futures.length :=
  ⟨τ, m, [], ⟨number, .waiting⟩, rfl, List.getElem?_concat_length, hb, rfl, fun _ => rfl⟩

/-- A future that is given a frame, or none of them. -/
theorem history_notified (h : History τ m.src.shared.data) {data : Bytes}
    (hl : m.label = .notify data)
    (hn : m.src.shared.data.notification data = .ok m.dst.shared.data) :
    History (τ ++ [m]) m.dst.shared.data := by
  have hheard : ∀ τ₂, heard (τ₂ ++ [m]) = heard τ₂ ++ [data] := fun τ₂ => by
    rw [heard_append, heard_of_notify hl]
  rcases notification_cases m.src.shared.data data with ⟨hnone, hc⟩ | ⟨i, f, raw, ha, hraw, hc⟩
  · rw [← Except.ok.inj (hc.symm.trans hn)]
    refine ⟨fun i f raw hf hs => (h.answered i f raw hf hs).snoc m, fun i hi => ?_⟩
    obtain ⟨τ₁, b, τ₂, f, rfl, hf, hb, hasm, hwait⟩ := (h.listening i hi).run
    refine ⟨τ₁, b, τ₂ ++ [m], f, by rw [List.append_assoc, List.cons_append], hf, hb, ?_, ?_⟩
    · rw [hheard, emitted_snoc, ← hasm]
    · intro hs
      have hnil : (m.src.shared.data.assembler.feed data).1 = [] := by
        rcases hnone with hu | hnil
        · have haw : Awaited m.src.shared.data i f := ⟨hi, hf, hs⟩
          rw [unexpected_of_awaited haw] at hu
          cases hu
        · exact hnil
      rw [hheard, firstFrame_snoc (hwait hs), ← hasm, hnil]
      rfl
  · rw [← Except.ok.inj (hc.symm.trans hn)]
    obtain ⟨τ₁, b, τ₂, f', rfl, hf, hb, hasm, hwait⟩ := (h.listening i ha.pending).run
    obtain rfl := Option.some.inj (ha.future.symm.trans hf)
    have hfirst : firstFrame (heard (τ₂ ++ [m])) = some raw := by
      rw [hheard, firstFrame_snoc (hwait ha.waiting), ← hasm, hraw]
    refine ⟨fun j g raw' hg hs => ?_, fun j hj => ?_⟩
    · rw [getElem?_setFuture] at hg
      obtain ⟨g', hg', rfl⟩ := Option.map_eq_some_iff.mp hg
      split_ifs at hs ⊢ with hij
      · subst hij
        obtain rfl := Option.some.inj (ha.future.symm.trans hg')
        obtain rfl := FutureState.result.inj hs
        refine ⟨τ₁, b, τ₂ ++ [m], [], ?_, hb, hfirst, infix_of_firstFrame hfirst⟩
        rw [List.append_nil, List.append_assoc, List.cons_append]
      · exact (h.answered j g' raw' hg' hs).snoc m
    · obtain rfl := Option.some.inj (ha.pending.symm.trans hj)
      refine ⟨τ₁, b, τ₂ ++ [m], { f with state := .result raw }, ?_, ?_, hb, ?_, nofun⟩
      · rw [List.append_assoc, List.cons_append]
      · rw [getElem?_setFuture, ha.future, Option.map_some, if_pos rfl]
      · rw [hheard, emitted_snoc, ← hasm]
        rfl

/-- **A move writes the history on.** -/
theorem history_snoc (h : History τ m.src.shared.data) (hm : DataMoved m) :
    History (τ ++ [m]) m.dst.shared.data := by
  cases hm with
  | kept calls hl hdata =>
    rw [hdata]
    refine ⟨fun i f raw hf hs => (h.answered i f raw hf hs).snoc m, fun i hi => ?_⟩
    exact (h.listening i hi).snoc (heard_of_not hl) rfl fun f hf => ⟨f, hf, rfl, id⟩
  | cleared hl hdata =>
    rw [hdata]
    exact ⟨fun i f raw hf hs => (h.answered i f raw hf hs).snoc m, nofun⟩
  | notified hl hn => exact history_notified h hl hn
  | @began number hb hdata =>
    rcases hdata with hdata | hdata
    · rw [hdata]
      refine ⟨answered_began h number, fun i hi => ?_⟩
      obtain rfl := Option.some.inj hi
      exact listening_began hb
    · rw [hdata]
      exact ⟨answered_began h number, nofun⟩
  | @interrupted j hl hdata =>
    have hnot : ∀ data, m.label ≠ .notify data := fun data => by
      rw [hl]
      exact nofun
    rw [hdata]
    rcases cancelFuture_cases m.src.shared.data j with heq | ⟨g, hg, -, heq⟩
    · rw [heq]
      refine ⟨fun i f raw hf hs => (h.answered i f raw hf hs).snoc m, fun i hi => ?_⟩
      exact (h.listening i hi).snoc (heard_of_not hnot) rfl fun f hf => ⟨f, hf, rfl, id⟩
    · rw [heq]
      refine ⟨fun i f raw hf hs => ?_, fun i hi => ?_⟩
      · rw [getElem?_setFuture] at hf
        obtain ⟨f', hf', rfl⟩ := Option.map_eq_some_iff.mp hf
        split_ifs at hs ⊢
        exact (h.answered i f' raw hf' hs).snoc m
      · refine (h.listening i hi).snoc (heard_of_not hnot) rfl fun f hf => ?_
        refine ⟨if j = i then { f with state := .cancelled } else f, ?_, ?_, fun hs => ?_⟩
        · rw [getElem?_setFuture, hf, Option.map_some]
        · split_ifs <;> rfl
        · split_ifs at hs
          exact hs

end History

/-! ### Deliveries -/

/-- The future of a call is given a frame. -/
def Delivered (m : SessionMove) (number : ℕ) (raw : Bytes) : Prop :=
  ∃ i : ℕ, m.src.shared.data.futures[i]? = some ⟨number, .waiting⟩ ∧
    m.dst.shared.data.futures[i]? = some ⟨number, .result raw⟩

/-- A call goes on with a frame. -/
def Received (m : SessionMove) (number : ℕ) (raw : Bytes) : Prop :=
  ∃ j ans t i, m.label = .task (.reply j ans) ∧ m.src.tasks[j]? = some t ∧ t.job.number = number ∧
    t.req = .ask (.answer i) ∧ ans (.ask (.answer i)) = .ok raw

section Deliveries
variable {m : SessionMove} {τ : List SessionMove} {number i : ℕ} {raw : Bytes} {f : Future}

theorem future_began {c : Shared} (k : ℕ) (h : c.futures[i]? = some f) :
    (c.begin k).futures[i]? = some f := by
  obtain ⟨hlt, -⟩ := List.getElem?_eq_some_iff.mp h
  unfold Shared.begin
  dsimp only
  rw [List.getElem?_append_left hlt, h]

/-- **What a move does to a future**: it is cancelled, or given a frame, or left alone. -/
theorem future_moved (hm : DataMoved m) (hf : m.src.shared.data.futures[i]? = some f) :
    m.dst.shared.data.futures[i]? = some f ∨
    (f.state = .waiting ∧ m.dst.shared.data.futures[i]? = some { f with state := .cancelled }) ∨
    ∃ data raw, m.label = .notify data ∧ f.state = .waiting ∧
      m.src.shared.data.pending = some i ∧
      (m.src.shared.data.assembler.feed data).1.head? = some raw ∧
      m.dst.shared.data.futures[i]? = some { f with state := .result raw } := by
  cases hm with
  | kept calls _ hdata =>
    rw [hdata]
    exact .inl hf
  | cleared _ hdata =>
    rw [hdata]
    exact .inl hf
  | @began k _ hdata =>
    rcases hdata with hdata | hdata
    · rw [hdata]
      exact .inl (future_began k hf)
    · rw [hdata]
      exact .inl (future_began k hf)
  | @interrupted j _ hdata =>
    rw [hdata]
    rcases cancelFuture_cases m.src.shared.data j with heq | ⟨g, hg, hs, heq⟩
    · rw [heq]
      exact .inl hf
    · rw [heq, getElem?_setFuture, hf, Option.map_some]
      split_ifs with hij
      · subst hij
        obtain rfl := Option.some.inj (hg.symm.trans hf)
        exact .inr (.inl ⟨hs, rfl⟩)
      · exact .inl rfl
  | @notified data hl hn =>
    rcases notification_cases m.src.shared.data data with ⟨-, hc⟩ | ⟨j, g, raw, ha, hraw, hc⟩
    · rw [← Except.ok.inj (hc.symm.trans hn)]
      exact .inl hf
    · rw [← Except.ok.inj (hc.symm.trans hn), getElem?_setFuture]
      dsimp only
      rw [hf, Option.map_some]
      split_ifs with hij
      · subst hij
        obtain rfl := Option.some.inj (ha.future.symm.trans hf)
        exact .inr (.inr ⟨data, raw, hl, ha.waiting, ha.pending, hraw, rfl⟩)
      · exact .inl rfl

/-- A future that is done stays as it is. -/
theorem future_final (hm : DataMoved m) (hf : m.src.shared.data.futures[i]? = some f)
    (hdone : f.state.done = true) : m.dst.shared.data.futures[i]? = some f := by
  rcases future_moved hm hf with h | ⟨hs, -⟩ | ⟨_, _, -, hs, -⟩
  · exact h
  · rw [hs] at hdone
    cases hdone
  · rw [hs] at hdone
    cases hdone

/-- **How a frame is delivered.** -/
theorem delivered_spec (hm : DataMoved m) (h : Delivered m number raw) : ∃ data i,
    m.label = .notify data ∧ m.src.shared.data.pending = some i ∧
      m.src.shared.data.futures[i]? = some ⟨number, .waiting⟩ ∧
      m.dst.shared.data.futures[i]? = some ⟨number, .result raw⟩ ∧
      (m.src.shared.data.assembler.feed data).1.head? = some raw := by
  obtain ⟨i, hsrc, hdst⟩ := h
  rcases future_moved hm hsrc with h | ⟨-, h⟩ | ⟨data, raw', hl, -, hp, hraw, h⟩
  · cases h.symm.trans hdst
  · cases h.symm.trans hdst
  · cases h.symm.trans hdst
    exact ⟨data, i, hl, hp, hsrc, hdst, hraw⟩

/-- A future that a move creates is not done. -/
theorem future_new (hm : DataMoved m) (hsrc : m.src.shared.data.futures[i]? = none)
    (hdst : m.dst.shared.data.futures[i]? = some f) : f.state = .waiting := by
  have hbegan : ∀ k, (m.src.shared.data.begin k).futures[i]? = some f → f.state = .waiting := by
    intro k hk
    unfold Shared.begin at hk
    dsimp only at hk
    rw [List.getElem?_append_right (List.getElem?_eq_none_iff.mp hsrc)] at hk
    obtain rfl := List.mem_singleton.mp (List.mem_of_getElem? hk)
    rfl
  have hset : ∀ (c : Shared) (j : ℕ) (state : FutureState),
      c.futures = m.src.shared.data.futures → (c.setFuture j state).futures[i]? ≠ some f := by
    intro c j state hc h
    rw [getElem?_setFuture, hc, hsrc] at h
    cases h
  cases hm with
  | kept calls _ hdata =>
    rw [hdata] at hdst
    cases hsrc.symm.trans hdst
  | cleared _ hdata =>
    rw [hdata] at hdst
    cases hsrc.symm.trans hdst
  | @began k _ hdata =>
    rcases hdata with hdata | hdata
    · rw [hdata] at hdst
      exact hbegan k hdst
    · rw [hdata] at hdst
      exact hbegan k hdst
  | @interrupted j _ hdata =>
    rw [hdata] at hdst
    rcases cancelFuture_cases m.src.shared.data j with heq | ⟨_, -, -, heq⟩
    · rw [heq] at hdst
      cases hsrc.symm.trans hdst
    · rw [heq] at hdst
      exact absurd hdst (hset _ j _ rfl)
  | @notified data _ hn =>
    rcases notification_cases m.src.shared.data data with ⟨-, hc⟩ | ⟨j, _, raw, -, -, hc⟩
    · rw [← Except.ok.inj (hc.symm.trans hn)] at hdst
      cases hsrc.symm.trans hdst
    · rw [← Except.ok.inj (hc.symm.trans hn)] at hdst
      exact absurd hdst (hset _ j _ rfl)

/-- The futures with a result are those to which a frame has been delivered. -/
def Accounted (τ : List SessionMove) (c : Shared) : Prop := ∀ number raw,
  (∃ i : ℕ, c.futures[i]? = some ⟨number, .result raw⟩) ↔ ∃ m ∈ τ, Delivered m number raw

theorem accounted_snoc (h : Accounted τ m.src.shared.data) (hm : DataMoved m) :
    Accounted (τ ++ [m]) m.dst.shared.data := by
  intro number raw
  constructor
  · rintro ⟨i, hi⟩
    cases hsrc : m.src.shared.data.futures[i]? with
    | none => cases future_new hm hsrc hi
    | some f =>
      rcases future_moved hm hsrc with hf | ⟨-, hf⟩ | ⟨_, raw', -, hs, -, -, hf⟩
      · obtain rfl := Option.some.inj (hf.symm.trans hi)
        obtain ⟨m', hm', hd⟩ := (h number raw).mp ⟨i, hsrc⟩
        exact ⟨m', List.mem_append_left _ hm', hd⟩
      · cases hf.symm.trans hi
      · cases hf.symm.trans hi
        obtain ⟨owner, state⟩ := f
        obtain rfl : state = .waiting := hs
        exact ⟨m, by simp, i, hsrc, hi⟩
  · rintro ⟨m', hm', hd⟩
    rcases List.mem_append.mp hm' with hm' | hm'
    · obtain ⟨i, hi⟩ := (h number raw).mpr ⟨m', hm', hd⟩
      exact ⟨i, future_final hm hi rfl⟩
    · obtain rfl := List.mem_singleton.mp hm'
      obtain ⟨i, -, hi⟩ := hd
      exact ⟨i, hi⟩

/-- What a notification has done. -/
theorem notified_of_label {data : Bytes} (hm : DataMoved m) (hl : m.label = .notify data) :
    m.src.shared.data.notification data = .ok m.dst.shared.data := by
  cases hm with
  | kept _ hnot _ => exact absurd hl (hnot data)
  | cleared hnot _ => exact absurd hl (hnot data)
  | began hb _ =>
    obtain ⟨j, ans, t, htask, -⟩ := hb.granted
    cases htask.symm.trans hl
  | interrupted hint _ => cases hint.symm.trans hl
  | notified hl' hn =>
    cases hl'.symm.trans hl
    exact hn

/-- A frame that is not expected is dropped. -/
theorem futures_of_unexpected {data : Bytes} (hm : DataMoved m) (hl : m.label = .notify data)
    (hu : m.src.shared.data.unexpected = true) :
    m.dst.shared.data.futures = m.src.shared.data.futures := by
  have hn := notified_of_label hm hl
  rcases notification_cases m.src.shared.data data with ⟨-, hc⟩ | ⟨i, f, raw, ha, -, -⟩
  · rw [← Except.ok.inj (hc.symm.trans hn)]
  · rw [unexpected_of_awaited ha] at hu
    cases hu

end Deliveries

/-! ### Runs -/

section Runs
variable {aes : BlockCipher} {link : Link} {P P' : Conversation} {τ : List SessionMove}
  {m : SessionMove} {e : Event} {number : ℕ} {raw : Bytes}

/-- The frame that a call goes on with is the result of its future. -/
theorem received_spec (hI : Inv aes link m.src) (h : Execute.step aes link m.src m.label = some m.dst)
    (hr : Received m number raw) :
    ∃ i : ℕ, m.src.shared.data.futures[i]? = some ⟨number, .result raw⟩ := by
  obtain ⟨j, ans, t, i, hl, hj, rfl, hreq, hans⟩ := hr
  rw [hl] at h
  have hmay : mayMove m.src (.reply j ans) = true := by
    simp only [Execute.step] at h
    split_ifs at h with hmay
    exact hmay
  have hstate : (m.src.shared.data.futures[i]?.map Future.state) = some (.result raw) := by
    simp only [mayMove, hj, hreq, hans] at hmay
    exact of_decide_eq_true hmay
  obtain ⟨f, hf, hs⟩ := Option.map_eq_some_iff.mp hstate
  obtain ⟨p, hp, -, hown⟩ := hI.placed t (List.mem_of_getElem? hj)
  cases hfut : p.future with
  | none =>
    obtain rfl : p = .turn := by
      cases p with
      | turn => rfl
      | write k chunk chunks => cases hfut
      | answer k => cases hfut
    cases (req_turn hp).symm.trans hreq
  | some k =>
    obtain ⟨w, hw, hanswer⟩ := req_inTurn hp hfut
    have hik : i = k := hanswer i (Demand.ask.inj (hw.symm.trans hreq))
    subst hik
    obtain ⟨-, howner⟩ := hown i hfut
    unfold creators at howner
    rw [List.getElem?_map, hf, Option.map_some] at howner
    refine ⟨i, ?_⟩
    rw [hf, ← Option.some.inj howner, ← hs]

/-- At most one frame is delivered to a call. -/
abbrev DeliveredOnce (m m' : SessionMove) : Prop :=
  ∀ number raw raw', Delivered m number raw → ¬ Delivered m' number raw'

variable (aes link) in
/-- What is carried along a run. -/
structure Tracked (τ : List SessionMove) (P : Conversation) : Prop where
  inv : Inv aes link P
  history : History τ P.shared.data
  accounted : Accounted τ P.shared.data
  moves : ∀ m ∈ τ, Inv aes link m.dst ∧ DataMoved m
  once : τ.Pairwise DeliveredOnce

theorem tracked_opened : Tracked aes link [] opened := by
  refine ⟨⟨.nil, nofun, fun _ => rfl, ⟨.nil, .nil, nofun, nofun⟩⟩, ⟨nofun, nofun⟩, ?_, nofun, .nil⟩
  intro number raw
  constructor
  · rintro ⟨i, hi⟩
    cases hi
  · rintro ⟨m, hm, -⟩
    cases hm

/-- A call that has been given a frame waits for none. -/
theorem not_delivered (hI : Inv aes link m.src) {i : ℕ} {raw' : Bytes}
    (hi : m.src.shared.data.futures[i]? = some ⟨number, .result raw⟩) :
    ¬ Delivered m number raw' := by
  rintro ⟨j, hj, -⟩
  have hc : ∀ {k : ℕ} {state : FutureState},
      m.src.shared.data.futures[k]? = some ⟨number, state⟩ →
        (creators m.src.shared.data)[k]? = some number := by
    intro k state hk
    unfold creators
    rw [List.getElem?_map, hk]
    rfl
  obtain ⟨hlt, -⟩ := List.getElem?_eq_some_iff.mp (hc hi)
  have hij : i = j :=
    (List.getElem?_inj hlt hI.counted.creators_nodup).mp ((hc hi).trans (hc hj).symm)
  subst hij
  cases hi.symm.trans hj

/-- **A step carries it on.** -/
theorem tracked_snoc (ht : Tracked aes link τ P) (h : Execute.step aes link P e = some P') :
    Tracked aes link (τ ++ [⟨P, e, P'⟩]) P' := by
  obtain ⟨hI, hm⟩ := step_cases ht.inv h
  refine ⟨hI, history_snoc (m := ⟨P, e, P'⟩) ht.history hm,
    accounted_snoc (m := ⟨P, e, P'⟩) ht.accounted hm, ?_, ?_⟩
  · intro m hmem
    rcases List.mem_append.mp hmem with hmem | hmem
    · exact ht.moves m hmem
    · obtain rfl := List.mem_singleton.mp hmem
      exact ⟨hI, hm⟩
  · refine List.pairwise_append.mpr ⟨ht.once, List.pairwise_singleton _ _, ?_⟩
    intro m₀ hm₀ m hmem number raw raw' hd
    obtain rfl := List.mem_singleton.mp hmem
    obtain ⟨i, hi⟩ := (ht.accounted number raw).mpr ⟨m₀, hm₀, hd⟩
    exact not_delivered (m := ⟨P, e, P'⟩) ht.inv hi

theorem run_tracked (hr : Run (Execute.step aes link) opened τ P) : Tracked aes link τ P := by
  induction hr with
  | nil => exact tracked_opened
  | snoc _ hs ih => exact tracked_snoc ih hs

/-- **Frames and commands are paired safely.** -/
structure PairedSafely (τ : List SessionMove) : Prop where
  /-- At most one command is pending. -/
  single : ∀ m ∈ τ, m.dst.tasks.countP (fun t => t.req.isCritical inTurn) ≤ 1
  /-- `set_result` is not called on a future that is done, whatever is notified next. -/
  accepts : ∀ m ∈ τ, ∀ data, ∃ c, m.dst.shared.data.notification data = .ok c
  /-- A frame is delivered to one command. -/
  one_command : ∀ m ∈ τ, ∀ number number' raw raw', Delivered m number raw →
    Delivered m number' raw' → number = number' ∧ raw = raw'
  /-- A command is given one frame. -/
  one_frame : τ.Pairwise DeliveredOnce
  /-- The frame is the first of those that are completed just then, and it consists of what has been
  notified since the turn of the command began. -/
  delivered : ∀ τ₀ m τ₁ number raw, τ = τ₀ ++ m :: τ₁ → Delivered m number raw →
    ∃ data i, m.label = .notify data ∧ m.src.shared.data.pending = some i ∧
      (m.src.shared.data.assembler.feed data).1.head? = some raw ∧
      AnsweredBy (τ₀ ++ [m]) number i raw
  /-- What is completed while nothing is pending, or after the answer, is dropped. -/
  dropped : ∀ m ∈ τ, ∀ data, m.label = .notify data → m.src.shared.data.unexpected = true →
    m.dst.shared.data.futures = m.src.shared.data.futures
  /-- A command goes on only with the frame that has been delivered to it. -/
  received : ∀ τ₀ m τ₁ number raw, τ = τ₀ ++ m :: τ₁ → Received m number raw →
    ∃ m₀ ∈ τ₀, Delivered m₀ number raw

/-- **In every run of a session.** -/
theorem run_pairedSafely (hr : Run (Execute.step aes link) opened τ P) : PairedSafely τ := by
  have ht := run_tracked hr
  constructor
  · intro m hm
    have hle := (ht.moves m hm).1.holding.countP_le
    have hone := holders_le_one m.dst.shared
    omega
  · intro m hm data
    obtain ⟨c, hc, -⟩ := notification_ok m.dst.shared.data data
    exact ⟨c, hc⟩
  · intro m hm number number' raw raw' hd hd'
    obtain ⟨data, i, hl, hp, hi, -, hraw⟩ := delivered_spec (ht.moves m hm).2 hd
    obtain ⟨data', i', hl', hp', hi', -, hraw'⟩ := delivered_spec (ht.moves m hm).2 hd'
    obtain rfl := Event.notify.inj (hl.symm.trans hl')
    obtain rfl := Option.some.inj (hp.symm.trans hp')
    have hfut := Option.some.inj (hi.symm.trans hi')
    exact ⟨congrArg Future.owner hfut, Option.some.inj (hraw.symm.trans hraw')⟩
  · exact ht.once
  · rintro τ₀ m τ₁ number raw rfl hd
    obtain ⟨hr₀, hs⟩ := hr.up_to
    have ht₁ := tracked_snoc (run_tracked hr₀) hs
    obtain ⟨data, i, hl, hp, -, hi, hraw⟩ := delivered_spec (ht.moves m (by simp)).2 hd
    exact ⟨data, i, hl, hp, hraw, ht₁.history.answered i _ raw hi rfl⟩
  · intro m hm data hl hu
    exact futures_of_unexpected (ht.moves m hm).2 hl hu
  · rintro τ₀ m τ₁ number raw rfl hrec
    obtain ⟨hr₀, hs⟩ := hr.up_to
    have ht₀ := run_tracked hr₀
    exact (ht₀.accounted number raw).mp (received_spec ht₀.inv hs hrec)

/-- The lock takes every write, and answers with this frame. -/
def answering (raw : Bytes) : (q : Demand Wait) → Except PyError (Grant Waited q)
  | .acquire => .ok ()
  | .ask (.write _) => .ok ()
  | .ask (.answer _) => .ok raw

/-- Two queries at once: the second waits while the first is answered by a frame that a notification
completes together with another, and then is interrupted. -/
def twoQueries : List Event :=
  let raw := responseFrame [0x14, 0x01, 0x64, 0x00, 0x01]
  [.task (.start ⟨0, statusQuery⟩), .task (.start ⟨1, statusQuery⟩),
    .task (.reply 0 (answering raw)), .task (.reply 0 (answering raw)),
    .task (.reply 0 (answering raw)), .notify (raw ++ raw), .task (.reply 0 (answering raw)),
    .task (.reply 0 (answering raw)), .interrupt 1, .notify raw]

/-- The moves of a session over a new connection. -/
abbrev conversation : List SessionMove :=
  (play (Execute.step sampleAes ⟨sampleVersion, some sampleKey, none⟩) opened twoQueries).1

/-- Every event of `twoQueries` is possible. -/
theorem run_pairedSafely_twoQueries : conversation.length = 10 ∧ PairedSafely conversation :=
  ⟨by decide +kernel, run_pairedSafely (run_play _ _)⟩

end Runs

end TTLockConnect.Ble.Answers
