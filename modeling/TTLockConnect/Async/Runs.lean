import Mathlib.Data.List.Basic

/-! # Runs of a partial step function

A run from `s₀` is a list of moves `(state, label, next state)` of a step function
`S → L → Option S`. Two rules carry an invariant along a run: `Run.invariant` when every step keeps
it, and `Run.good_iff` when a step keeps it exactly if the step meets a condition on the state it
starts from and its label. -/

namespace TTLockConnect.Async.Runs

/-- One move of a run. -/
structure Move (S L : Type) where
  src : S
  label : L
  dst : S

variable {S L : Type}

/-- **The runs** of `step` from `s₀`, with the moves taken and the state reached. -/
inductive Run (step : S → L → Option S) (s₀ : S) : List (Move S L) → S → Prop
  | nil : Run step s₀ [] s₀
  | snoc {τ : List (Move S L)} {s s' : S} {l : L} :
      Run step s₀ τ s → step s l = some s' → Run step s₀ (τ ++ [⟨s, l, s'⟩]) s'

variable {step : S → L → Option S} {s₀ s : S} {τ : List (Move S L)}

/-- Every move of a run is a step. -/
theorem Run.step_of_mem (hr : Run step s₀ τ s) : ∀ m ∈ τ, step m.src m.label = some m.dst := by
  induction hr with
  | nil => simp
  | snoc _ hs ih =>
    intro m hm
    rcases List.mem_append.mp hm with hm | hm
    · exact ih m hm
    · rw [List.mem_singleton.mp hm]; exact hs

/-- A run up to one of its moves. -/
theorem Run.up_to {m : Move S L} {τ' : List (Move S L)} (hr : Run step s₀ (τ ++ m :: τ') s) :
    Run step s₀ τ m.src ∧ step m.src m.label = some m.dst := by
  generalize h : τ ++ m :: τ' = ρ at hr
  induction hr generalizing τ' with
  | nil => simp at h
  | @snoc ρ s s' l hr hs ih =>
    rcases List.eq_nil_or_concat τ' with rfl | ⟨τ', last, rfl⟩
    · obtain ⟨rfl, rfl⟩ := List.append_inj' h rfl |>.imp id List.singleton_inj.mp
      exact ⟨hr, hs⟩
    · rw [List.concat_eq_append, ← List.cons_append, ← List.append_assoc] at h
      exact ih (List.append_inj' h rfl).1

/-- A run ends where its last move does. -/
theorem Run.eq_dst {m : Move S L} (hr : Run step s₀ (τ ++ [m]) s) : s = m.dst := by
  generalize h : τ ++ [m] = ρ at hr
  cases hr with
  | nil => simp at h
  | snoc _ _ =>
    obtain rfl := List.singleton_inj.mp (List.append_inj' h rfl).2
    rfl

/-- A run in two parts. -/
theorem Run.split {τ' : List (Move S L)} (hr : Run step s₀ (τ ++ τ') s) :
    ∃ s₁, Run step s₀ τ s₁ ∧ Run step s₁ τ' s := by
  generalize h : τ ++ τ' = ρ at hr
  induction hr generalizing τ' with
  | nil =>
    obtain ⟨rfl, rfl⟩ := List.append_eq_nil_iff.mp h
    exact ⟨s₀, .nil, .nil⟩
  | @snoc ρ s s' l hr hs ih =>
    rcases List.eq_nil_or_concat τ' with rfl | ⟨τ', last, rfl⟩
    · rw [List.append_nil] at h
      subst h
      exact ⟨s', hr.snoc hs, .nil⟩
    · rw [List.concat_eq_append, ← List.append_assoc] at h
      obtain ⟨hρ, hlast⟩ := List.append_inj' h rfl
      obtain rfl := List.singleton_inj.mp hlast
      obtain ⟨s₁, h₁, h₂⟩ := ih hρ
      rw [List.concat_eq_append]
      exact ⟨s₁, h₁, h₂.snoc hs⟩

/-- Two runs, one after the other. -/
theorem Run.trans {s₁ : S} {τ' : List (Move S L)} (hr : Run step s₀ τ s₁) (hr' : Run step s₁ τ' s) :
    Run step s₀ (τ ++ τ') s := by
  induction hr' with
  | nil =>
    rw [List.append_nil]
    exact hr
  | snoc _ hs ih =>
    rw [← List.append_assoc]
    exact ih.snoc hs

/-- A run of one move. -/
theorem Run.single {l : L} (hs : step s₀ l = some s) : Run step s₀ [⟨s₀, l, s⟩] s :=
  Run.nil.snoc hs

/-- **The simulation rule.** If whatever one system does in a step another does in a run, with the
relation `R` between the histories and the states of the two, then it does so for every run. -/
theorem Run.simulated {T M : Type} {step' : T → M → Option T} {t₀ : T}
    (R : List (Move S L) → S → List (Move T M) → T → Prop) (h0 : R [] s₀ [] t₀)
    (hstep : ∀ τ s l s' τ' t, R τ s τ' t → step s l = some s' →
      ∃ τ'' t', Run step' t τ'' t' ∧ R (τ ++ [⟨s, l, s'⟩]) s' (τ' ++ τ'') t')
    (hr : Run step s₀ τ s) : ∃ τ' t, Run step' t₀ τ' t ∧ R τ s τ' t := by
  induction hr with
  | nil => exact ⟨[], t₀, .nil, h0⟩
  | snoc _ hs ih =>
    obtain ⟨τ', t, hr', hR⟩ := ih
    obtain ⟨τ'', t', hr'', hR'⟩ := hstep _ _ _ _ _ _ hR hs
    exact ⟨_, t', hr'.trans hr'', hR'⟩

/-- **The invariant rule, under a condition on the moves.** -/
theorem Run.invariant_of (I : S → Prop) (Ok : S → L → Prop) (hr : Run step s₀ τ s) (h0 : I s₀)
    (hstep : ∀ s l s', I s → Ok s l → step s l = some s' → I s')
    (hok : ∀ m ∈ τ, Ok m.src m.label) : I s ∧ ∀ m ∈ τ, I m.src ∧ I m.dst := by
  induction hr with
  | nil => exact ⟨h0, by simp⟩
  | @snoc τ s s' l _ hs ih =>
    obtain ⟨ihs, ihτ⟩ := ih fun m hm => hok m (List.mem_append_left _ hm)
    have hs' : I s' := hstep _ _ _ ihs (hok ⟨s, l, s'⟩ (by simp)) hs
    refine ⟨hs', fun m hm => ?_⟩
    rcases List.mem_append.mp hm with hm | hm
    · exact ihτ m hm
    · rw [List.mem_singleton.mp hm]; exact ⟨ihs, hs'⟩

/-- **The invariant rule.** -/
theorem Run.invariant (I : S → Prop) (hr : Run step s₀ τ s) (h0 : I s₀)
    (hstep : ∀ s l s', I s → step s l = some s' → I s') : I s ∧ ∀ m ∈ τ, I m.src ∧ I m.dst :=
  hr.invariant_of I (fun _ _ => True) h0 (fun s l s' hi _ hs => hstep s l s' hi hs) fun _ _ => trivial

/-- **States against moves.** If, with the help of an invariant `J` that good states carry on, a
step out of a good state ends in a good state exactly when it is allowed, then the states of a run
are all good exactly when its moves are all allowed. -/
theorem Run.good_iff (J Good : S → Prop) (Ok : S → L → Prop) (hr : Run step s₀ τ s)
    (hJ0 : J s₀) (hG0 : Good s₀) (hJ : ∀ s l s', J s → Good s → step s l = some s' → J s')
    (hiff : ∀ s l s', J s → Good s → step s l = some s' → (Good s' ↔ Ok s l)) :
    (∀ m ∈ τ, Good m.dst) ↔ ∀ m ∈ τ, Ok m.src m.label := by
  -- the states reached so far are good on either side of the equivalence
  suffices h : ((∀ m ∈ τ, Good m.dst) ↔ ∀ m ∈ τ, Ok m.src m.label) ∧
      ((∀ m ∈ τ, Good m.dst) → J s ∧ Good s) from h.1
  induction hr with
  | nil => exact ⟨by simp, fun _ => ⟨hJ0, hG0⟩⟩
  | snoc _ hs ih =>
    obtain ⟨ih1, ih2⟩ := ih
    simp only [List.forall_mem_append, List.forall_mem_singleton]
    refine ⟨⟨?_, ?_⟩, ?_⟩
    · rintro ⟨hτ, hd⟩
      obtain ⟨hj, hg⟩ := ih2 hτ
      exact ⟨ih1.mp hτ, (hiff _ _ _ hj hg hs).mp hd⟩
    · rintro ⟨hτ, ho⟩
      obtain ⟨hj, hg⟩ := ih2 (ih1.mpr hτ)
      exact ⟨ih1.mpr hτ, (hiff _ _ _ hj hg hs).mpr ho⟩
    · rintro ⟨hτ, hd⟩
      obtain ⟨hj, hg⟩ := ih2 hτ
      exact ⟨hJ _ _ _ hj hg hs, hd⟩

/-! ### Runs from their labels -/

/-- The moves with these labels, up to the first that is not possible, and the state reached. -/
def play (step : S → L → Option S) : S → List L → List (Move S L) × S
  | s, [] => ([], s)
  | s, l :: ls =>
    match step s l with
    | none => ([], s)
    | some s' => (⟨s, l, s'⟩ :: (play step s' ls).1, (play step s' ls).2)

theorem label_of_mem_play {m : Move S L} : ∀ {ls : List L} {s : S},
    m ∈ (play step s ls).1 → m.label ∈ ls
  | [], _, h => by cases h
  | l :: ls, s, h => by
    unfold Runs.play at h
    split at h
    · cases h
    · rcases List.mem_cons.mp h with rfl | h
      · exact List.mem_cons_self
      · exact List.mem_cons_of_mem _ (label_of_mem_play h)

theorem Run.append_play (hr : Run step s₀ τ s) : ∀ ls : List L,
    Run step s₀ (τ ++ (Runs.play step s ls).1) (Runs.play step s ls).2 := by
  intro ls
  induction ls generalizing τ s with
  | nil => rw [Runs.play, List.append_nil]; exact hr
  | cons l ls ih =>
    unfold Runs.play
    split
    · rw [List.append_nil]; exact hr
    · have := ih (hr.snoc ‹_›)
      rwa [List.append_assoc] at this

theorem run_play (s₀ : S) (ls : List L) :
    Run step s₀ (play step s₀ ls).1 (play step s₀ ls).2 := Run.nil.append_play ls

end TTLockConnect.Async.Runs
