import Mathlib.Data.List.Basic
import Mathlib.Data.Nat.Notation
import Mathlib.Tactic.Cases

/-! # Cutting a stream into frames

A stream arrives in chunks. A *round* looks at the bytes not yet used up and either cuts off a frame,
or gives up and says which bytes to keep. If a round cannot change its mind once it has cut a frame,
and keeps enough to decide later as if it had kept everything, then what is emitted, and what is left
over, is the same however the stream is chunked. -/

namespace TTLockConnect.Stream.Splitter

variable {α : Type}

/-- A round: a frame and what lies behind it, or what is kept. -/
abbrev Round (α : Type) := List α → (List α × List α) ⊕ List α

/-- The frames cut off a buffer in at most `fuel` rounds, and what is left of it. -/
def drain (round : Round α) : ℕ → List α → List (List α) × List α
  | 0, buffer => ([], buffer)
  | fuel + 1, buffer =>
    match round buffer with
    | .inr rest => ([], rest)
    | .inl (frame, rest) => (frame :: (drain round fuel rest).1, (drain round fuel rest).2)

/-- **The laws of a round.** -/
structure Lawful (round : Round α) : Prop where
  shrinks : ∀ {buffer frame rest}, round buffer = .inl (frame, rest) → rest.length < buffer.length
  /-- What has come later does not change a frame. -/
  extends_ : ∀ {buffer frame rest} more, round buffer = .inl (frame, rest) →
    round (buffer ++ more) = .inl (frame, rest ++ more)
  /-- What has been dropped does not matter later. -/
  keeps : ∀ {buffer rest} more, round buffer = .inr rest →
    round (rest ++ more) = round (buffer ++ more)

/-- All frames in a buffer, and what is left of it. -/
def drained (round : Round α) (buffer : List α) : List (List α) × List α :=
  drain round (buffer.length + 1) buffer

/-- Chunks fed one after another to a buffer: the frames emitted, and the buffer left. -/
def feedAll (round : Round α) : List α → List (List α) → List (List α) × List α
  | buffer, [] => ([], buffer)
  | buffer, chunk :: chunks =>
    let out := drained round (buffer ++ chunk)
    let more := feedAll round out.2 chunks
    (out.1 ++ more.1, more.2)

/-- A buffer that holds no frame and nothing to drop. -/
def Settled (round : Round α) (buffer : List α) : Prop := drained round buffer = ([], buffer)

section Laws
variable {round : Round α} (h : Lawful round)
include h

/-- Fuel above the length of the buffer is enough. -/
theorem drain_eq_of_lt {n m : ℕ} : ∀ {buffer : List α}, buffer.length < n → buffer.length < m →
    drain round n buffer = drain round m buffer := by
  induction n generalizing m with
  | zero => intro buffer hn _; omega
  | succ n ih =>
    intro buffer hn hm
    obtain ⟨m, rfl⟩ : ∃ k, m = k + 1 := ⟨m - 1, by omega⟩
    unfold drain
    cases hr : round buffer with
    | inr rest => rfl
    | inl cut =>
      have hlt : cut.2.length < buffer.length := h.shrinks hr
      have heq : drain round n cut.2 = drain round m cut.2 := ih (by omega) (by omega)
      dsimp only
      rw [heq]

/-- One round, and what follows. -/
theorem drained_eq (buffer : List α) : drained round buffer =
    match round buffer with
    | .inr rest => ([], rest)
    | .inl (frame, rest) => (frame :: (drained round rest).1, (drained round rest).2) := by
  unfold drained
  rw [drain]
  cases hr : round buffer with
  | inr rest => rfl
  | inl cut =>
    have hlt : cut.2.length < buffer.length := h.shrinks hr
    have heq : drain round buffer.length cut.2 = drain round (cut.2.length + 1) cut.2 :=
      drain_eq_of_lt h hlt (by omega)
    dsimp only
    rw [heq]

theorem drained_of_inl {buffer frame rest : List α} (hr : round buffer = .inl (frame, rest)) :
    drained round buffer = (frame :: (drained round rest).1, (drained round rest).2) := by
  rw [drained_eq h, hr]

theorem drained_of_inr {buffer rest : List α} (hr : round buffer = .inr rest) :
    drained round buffer = ([], rest) := by
  rw [drained_eq h, hr]

/-- **A buffer may be drained before more comes.** -/
theorem drained_append (buffer more : List α) : drained round (buffer ++ more) =
    ((drained round buffer).1 ++ (drained round ((drained round buffer).2 ++ more)).1,
      (drained round ((drained round buffer).2 ++ more)).2) := by
  induction hn : buffer.length using Nat.strongRecOn generalizing buffer with
  | _ n ih =>
    subst hn
    cases hr : round buffer with
    | inr rest =>
      rw [drained_of_inr h hr, drained_eq h (rest ++ more), h.keeps more hr, ← drained_eq h]
      rfl
    | inl cut =>
      obtain ⟨frame, rest⟩ := cut
      have hlt := h.shrinks hr
      rw [drained_of_inl h hr, drained_of_inl h (h.extends_ more hr), ih rest.length hlt rest rfl]
      rfl

/-- What has been drained holds no more frames. -/
theorem drained_settled (buffer : List α) : Settled round (drained round buffer).2 := by
  have happ := drained_append h buffer []
  rw [List.append_nil, List.append_nil] at happ
  have h1 := congrArg Prod.fst happ
  have h2 := congrArg Prod.snd happ
  refine Prod.ext ?_ h2.symm
  exact List.append_right_eq_self.mp h1.symm

/-- **Chunks do not matter**: fed to a settled buffer they emit what their bytes do. -/
theorem feedAll_of_settled {buffer : List α} (hs : Settled round buffer)
    (chunks : List (List α)) :
    feedAll round buffer chunks = drained round (buffer ++ chunks.flatten) := by
  induction chunks generalizing buffer with
  | nil =>
    rw [List.flatten_nil, List.append_nil]
    exact hs.symm
  | cons chunk chunks ih =>
    have hmore := ih (drained_settled h (buffer ++ chunk))
    rw [List.flatten_cons, ← List.append_assoc, drained_append h (buffer ++ chunk), ← hmore]
    rfl

/-- The same from any buffer, once there is a chunk. -/
theorem feedAll_of_ne_nil (buffer : List α) {chunks : List (List α)} (hc : chunks ≠ []) :
    feedAll round buffer chunks = drained round (buffer ++ chunks.flatten) := by
  obtain ⟨chunk, chunks, rfl⟩ := List.exists_cons_of_ne_nil hc
  have hmore := feedAll_of_settled h (drained_settled h (buffer ++ chunk)) chunks
  rw [List.flatten_cons, ← List.append_assoc, drained_append h (buffer ++ chunk), ← hmore]
  rfl

end Laws

end TTLockConnect.Stream.Splitter
