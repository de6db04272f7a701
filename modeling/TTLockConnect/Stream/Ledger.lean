import TTLockConnect.Stream.Splitter

/-! # Where every byte of a stream goes

The rounds as a loop without a bound on their number: a derivation of `Loop` is a finite run up to the
round that gives up. What each round does with its bytes adds up, along such a run, to a ledger of all
of them: the frames in order, the rest, and junk before, between and behind the frames. -/

namespace TTLockConnect.Stream.Ledger

open TTLockConnect.Stream.Splitter

variable {α : Type}

/-- A run of rounds to its end. -/
inductive Loop (round : Round α) : List α → List (List α) → List α → Prop where
  | stop {buffer rest} : round buffer = .inr rest → Loop round buffer [] rest
  | cut {buffer frame rest frames left} : round buffer = .inl (frame, rest) →
      Loop round rest frames left → Loop round buffer (frame :: frames) left

/-- **The ledger**: the bytes are the frames in order and the rest, and else junk. -/
inductive Accounted (Junk : List α → Prop) : List α → List (List α) → List α → Prop where
  | rest {run rest} : Junk run → Accounted Junk (run ++ rest) [] rest
  | frame {run frame bytes frames rest} : Junk run → Accounted Junk bytes frames rest →
      Accounted Junk (run ++ (frame ++ bytes)) (frame :: frames) rest

/-- A round as an entry: what it drops is junk. -/
structure Booked (Junk : List α → Prop) (round : Round α) : Prop where
  cut : ∀ {buffer frame rest}, round buffer = .inl (frame, rest) →
    ∃ run, Junk run ∧ buffer = run ++ (frame ++ rest)
  stop : ∀ {buffer rest}, round buffer = .inr rest → ∃ run, Junk run ∧ buffer = run ++ rest

section Loops
variable {round : Round α} {buffer rest : List α} {frames : List (List α)}

/-- **The loop ends**, and with what has been drained. -/
theorem loop_drained (h : Lawful round) (buffer : List α) :
    Loop round buffer (drained round buffer).1 (drained round buffer).2 := by
  induction hn : buffer.length using Nat.strongRecOn generalizing buffer with
  | _ n ih =>
    subst hn
    cases hr : round buffer with
    | inr rest =>
      rw [drained_of_inr h hr]
      exact .stop hr
    | inl cut =>
      rw [drained_of_inl h hr]
      exact .cut hr (ih _ (h.shrinks hr) cut.2 rfl)

/-- A round that gives up is the last one. -/
theorem Loop.stopped (hl : Loop round buffer frames rest) : ∃ last, round last = .inr rest := by
  induction hl with
  | stop hr => exact ⟨_, hr⟩
  | cut _ _ ih => exact ih

theorem Loop.forall_frames {P : List α → Prop}
    (hP : ∀ {buffer frame rest}, round buffer = .inl (frame, rest) → P frame)
    (hl : Loop round buffer frames rest) : ∀ frame ∈ frames, P frame := by
  induction hl with
  | stop _ => exact nofun
  | cut hr _ ih =>
    intro frame hmem
    rcases List.mem_cons.mp hmem with rfl | hmem
    · exact hP hr
    · exact ih frame hmem

/-- **The rounds of a loop add up.** -/
theorem Loop.accounted {Junk : List α → Prop} (hb : Booked Junk round)
    (hl : Loop round buffer frames rest) : Accounted Junk buffer frames rest := by
  induction hl with
  | stop hr =>
    obtain ⟨run, hjunk, rfl⟩ := hb.stop hr
    exact .rest hjunk
  | cut hr _ ih =>
    obtain ⟨run, hjunk, rfl⟩ := hb.cut hr
    exact .frame hjunk ih

end Loops

end TTLockConnect.Stream.Ledger
