import TTLockConnect.Ble.Protocol
import TTLockConnect.Stream.Splitter
import Mathlib.Data.List.GetD
import Mathlib.Tactic.SplitIfs

/-! # Reassembly

`FrameAssembler.feed` is the drain of `Stream.Splitter` with `cutFrame` as its round. The round drops
what lies before a magic, keeps one byte where there is none, waits for the header and then for the
length it declares; that it is lawful says that none of this depends on where a chunk ends. -/

namespace TTLockConnect.Ble.Reassembly

open TTLockConnect.Ble.Cipher TTLockConnect.Ble.Protocol TTLockConnect.Stream.Splitter

/-! ### The search for a magic -/

theorem magic_prefix_cons (b c : Byte) (bs : Bytes) :
    MAGIC <+: b :: c :: bs ↔ b = 0x7f ∧ c = 0x5a := by
  simp only [MAGIC, List.cons_prefix_cons, List.nil_prefix, and_true]
  exact and_congr eq_comm eq_comm

theorem fromMagic_of_magic {bs : Bytes} (h : MAGIC <+: bs) : fromMagic bs = some bs := by
  cases bs with
  | nil => exact absurd h.length_le (by simp [MAGIC])
  | cons b bs =>
    unfold fromMagic
    rw [if_pos h]

theorem fromMagic_cons_of_not {b : Byte} {bs : Bytes} (h : ¬ MAGIC <+: b :: bs) :
    fromMagic (b :: bs) = fromMagic bs := by
  rw [fromMagic, if_neg h]

/-- What is found begins with a magic and is a suffix. -/
theorem fromMagic_some {bs found : Bytes} (h : fromMagic bs = some found) :
    MAGIC <+: found ∧ found <:+ bs := by
  induction bs with
  | nil => cases h
  | cons b bs ih =>
    by_cases hp : MAGIC <+: b :: bs
    · rw [fromMagic_of_magic hp] at h
      obtain rfl := Option.some.inj h
      exact ⟨hp, List.suffix_refl _⟩
    · rw [fromMagic_cons_of_not hp] at h
      obtain ⟨hm, hs⟩ := ih h
      exact ⟨hm, hs.trans (List.suffix_cons b bs)⟩

/-- What has come later does not move the first magic. -/
theorem fromMagic_append {bs found : Bytes} (more : Bytes) (h : fromMagic bs = some found) :
    fromMagic (bs ++ more) = some (found ++ more) := by
  induction bs with
  | nil => cases h
  | cons b bs ih =>
    by_cases hp : MAGIC <+: b :: bs
    · rw [fromMagic_of_magic hp] at h
      obtain rfl := Option.some.inj h
      exact fromMagic_of_magic (hp.trans (List.prefix_append _ more))
    · rw [fromMagic_cons_of_not hp] at h
      have hne : bs ≠ [] := by
        rintro rfl
        cases h
      obtain ⟨c, bs, rfl⟩ := List.exists_cons_of_ne_nil hne
      have hp' : ¬ MAGIC <+: b :: ((c :: bs) ++ more) := by
        rw [List.cons_append, magic_prefix_cons]
        rwa [magic_prefix_cons] at hp
      rw [List.cons_append, fromMagic_cons_of_not hp', ih h]

theorem lastByte_cons_cons (b c : Byte) (bs : Bytes) :
    lastByte (b :: c :: bs) = lastByte (c :: bs) := by
  simp [lastByte]

/-- Of bytes without a magic only the last can begin one. -/
theorem fromMagic_lastByte_append {bs : Bytes} (more : Bytes) (h : fromMagic bs = none) :
    fromMagic (lastByte bs ++ more) = fromMagic (bs ++ more) := by
  induction bs with
  | nil => rfl
  | cons b bs ih =>
    cases bs with
    | nil => rfl
    | cons c bs =>
      have hp : ¬ MAGIC <+: b :: c :: bs := by
        intro hp
        rw [fromMagic_of_magic hp] at h
        cases h
      have hp' : ¬ MAGIC <+: b :: ((c :: bs) ++ more) := by
        rw [List.cons_append, magic_prefix_cons]
        rwa [magic_prefix_cons] at hp
      rw [fromMagic_cons_of_not hp] at h
      rw [lastByte_cons_cons, ih h, List.cons_append (a := b), fromMagic_cons_of_not hp']

theorem lastByte_lastByte_append (bs more : Bytes) :
    lastByte (lastByte bs ++ more) = lastByte (bs ++ more) := by
  induction bs with
  | nil => rfl
  | cons b bs ih =>
    cases bs with
    | nil => rfl
    | cons c bs =>
      have htail : lastByte (b :: c :: bs ++ more) = lastByte (c :: bs ++ more) :=
        lastByte_cons_cons b c (bs ++ more)
      rw [lastByte_cons_cons, ih, htail]

/-! ### One round -/

/-- The length that a frame declares in its header. -/
def totalLength (bs : Bytes) : ℕ := HEADER_LENGTH + (bs.getD 11 0).toNat + TRAILER_LENGTH

theorem totalLength_append {bs : Bytes} (more : Bytes) (h : HEADER_LENGTH ≤ bs.length) :
    totalLength (bs ++ more) = totalLength bs := by
  have h11 : 11 < bs.length := by
    rw [HEADER_LENGTH] at h
    omega
  unfold totalLength
  rw [List.getD_append _ _ _ _ h11]

theorem cutFrame_none {bs : Bytes} (h : fromMagic bs = none) : cutFrame bs = .inr (lastByte bs) := by
  rw [cutFrame, h]

/-- A round after the magic has been found. -/
theorem cutFrame_some {bs found : Bytes} (h : fromMagic bs = some found) : cutFrame bs =
    if HEADER_LENGTH ≤ found.length ∧ totalLength found ≤ found.length then
      .inl (found.take (totalLength found), found.drop (totalLength found))
    else .inr found := by
  rw [cutFrame, h]
  dsimp only
  change (if found.length < HEADER_LENGTH then _ else
    if found.length < totalLength found then _ else _) = _
  by_cases h1 : found.length < HEADER_LENGTH
  · rw [if_pos h1, if_neg (by omega)]
  · rw [if_neg h1]
    by_cases h2 : found.length < totalLength found
    · rw [if_pos h2, if_neg (by omega)]
    · rw [if_neg h2, if_pos (by omega)]
      rfl

theorem totalLength_pos (bs : Bytes) : 0 < totalLength bs := by
  unfold totalLength HEADER_LENGTH
  omega

/-- **The round of `feed` is lawful.** -/
theorem lawful_cutFrame : Lawful cutFrame where
  shrinks := by
    intro buffer frame rest h
    cases hf : fromMagic buffer with
    | none =>
      rw [cutFrame_none hf] at h
      cases h
    | some found =>
      rw [cutFrame_some hf] at h
      split_ifs at h with hl
      obtain ⟨-, rfl⟩ := Prod.mk.inj (Sum.inl.inj h)
      have hle : found.length ≤ buffer.length := (fromMagic_some hf).2.length_le
      have hpos : 0 < totalLength found := totalLength_pos found
      rw [List.length_drop]
      omega
  extends_ := by
    intro buffer frame rest more h
    cases hf : fromMagic buffer with
    | none =>
      rw [cutFrame_none hf] at h
      cases h
    | some found =>
      rw [cutFrame_some hf] at h
      split_ifs at h with hl
      obtain ⟨rfl, rfl⟩ := Prod.mk.inj (Sum.inl.inj h)
      rw [cutFrame_some (fromMagic_append more hf), totalLength_append more hl.1,
        if_pos (by rw [List.length_append]; omega), List.take_append_of_le_length hl.2,
        List.drop_append_of_le_length hl.2]
  keeps := by
    intro buffer rest more h
    cases hf : fromMagic buffer with
    | none =>
      rw [cutFrame_none hf] at h
      obtain rfl := Sum.inr.inj h
      unfold cutFrame
      rw [fromMagic_lastByte_append more hf]
      cases hm : fromMagic (buffer ++ more) with
      | some found => rfl
      | none => exact congrArg Sum.inr (lastByte_lastByte_append buffer more)
    | some found =>
      rw [cutFrame_some hf] at h
      split_ifs at h with hl
      obtain rfl := Sum.inr.inj h
      have hp := (fromMagic_some hf).1
      unfold cutFrame
      rw [fromMagic_append more hf, fromMagic_of_magic (hp.trans (List.prefix_append found more))]

/-! ### Feeding -/

theorem cutFrames_eq_drain (fuel : ℕ) (buffer : Bytes) :
    cutFrames fuel buffer = drain cutFrame fuel buffer := by
  induction fuel generalizing buffer with
  | zero => rfl
  | succ fuel ih =>
    unfold cutFrames drain
    cases cutFrame buffer with
    | inr rest => rfl
    | inl cut =>
      dsimp only
      rw [ih cut.2]

theorem feed_eq (a : FrameAssembler) (chunk : Bytes) : a.feed chunk =
    ((drained cutFrame (a.buffer ++ chunk)).1, ⟨(drained cutFrame (a.buffer ++ chunk)).2⟩) := by
  unfold FrameAssembler.feed
  dsimp only
  rw [cutFrames_eq_drain]
  rfl

/-- A frame consists of bytes that have come. -/
theorem infix_of_mem_drained {bs frame : Bytes} (h : frame ∈ (drained cutFrame bs).1) :
    frame <:+: bs := by
  induction hn : bs.length using Nat.strongRecOn generalizing bs with
  | _ n ih =>
    subst hn
    cases hf : fromMagic bs with
    | none =>
      rw [drained_of_inr lawful_cutFrame (cutFrame_none hf)] at h
      cases h
    | some found =>
      have hfound : found <:+ bs := (fromMagic_some hf).2
      have hpos : 0 < totalLength found := totalLength_pos found
      have hle := hfound.length_le
      have hcut := cutFrame_some hf
      split_ifs at hcut with hl
      · rw [drained_of_inl lawful_cutFrame hcut] at h
        rcases List.mem_cons.mp h with rfl | h
        · exact (List.take_prefix _ found).isInfix.trans hfound.isInfix
        · have hlt : (found.drop (totalLength found)).length < bs.length := by
            rw [List.length_drop]
            omega
          have hdrop : found.drop (totalLength found) <:+ bs := (List.drop_suffix _ found).trans hfound
          exact (ih _ hlt h rfl).trans hdrop.isInfix
      · rw [drained_of_inr lawful_cutFrame hcut] at h
        cases h

/-- Calls of `feed` one after another: the frames they emit, and the assembler left. -/
def feedChunks : FrameAssembler → List Bytes → List Bytes × FrameAssembler
  | a, [] => ([], a)
  | a, chunk :: chunks =>
    let (frames, a) := a.feed chunk
    let (more, a) := feedChunks a chunks
    (frames ++ more, a)

/-- The assemblers there are: fresh ones, and those that have been fed. -/
inductive Reached : FrameAssembler → Prop where
  | reset : Reached .reset
  | feed {a : FrameAssembler} (chunk : Bytes) : Reached a → Reached (a.feed chunk).2

theorem settled_of_reached {a : FrameAssembler} (h : Reached a) : Settled cutFrame a.buffer := by
  cases h with
  | reset => rfl
  | feed chunk _ =>
    rw [feed_eq]
    exact drained_settled lawful_cutFrame _

theorem feedChunks_eq_feedAll (a : FrameAssembler) (chunks : List Bytes) : feedChunks a chunks =
    ((feedAll cutFrame a.buffer chunks).1, ⟨(feedAll cutFrame a.buffer chunks).2⟩) := by
  induction chunks generalizing a with
  | nil => rfl
  | cons chunk chunks ih =>
    unfold feedChunks feedAll
    dsimp only
    rw [ih, feed_eq]

/-- The frames and the rest of a stream, in whatever chunks it comes. -/
theorem feedChunks_eq {a : FrameAssembler} {chunks : List Bytes} (h : Reached a ∨ chunks ≠ []) :
    feedChunks a chunks = ((drained cutFrame (a.buffer ++ chunks.flatten)).1,
      ⟨(drained cutFrame (a.buffer ++ chunks.flatten)).2⟩) := by
  rw [feedChunks_eq_feedAll]
  rcases h with h | h
  · rw [feedAll_of_settled lawful_cutFrame (settled_of_reached h)]
  · rw [feedAll_of_ne_nil lawful_cutFrame _ h]

theorem feed_append (a : FrameAssembler) (x y : Bytes) : a.feed (x ++ y) =
    ((a.feed x).1 ++ ((a.feed x).2.feed y).1, ((a.feed x).2.feed y).2) := by
  rw [feed_eq, feed_eq, feed_eq, ← List.append_assoc, drained_append lawful_cutFrame]

/-- **Reassembly does not depend on how the bytes were cut.** -/
theorem feed_chunks_irrelevant :
    (∀ (a : FrameAssembler) (x y : Bytes), a.feed (x ++ y) =
      ((a.feed x).1 ++ ((a.feed x).2.feed y).1, ((a.feed x).2.feed y).2)) ∧
    ∀ (a : FrameAssembler) (cs ds : List Bytes), cs.flatten = ds.flatten →
      Reached a ∨ cs ≠ [] ∧ ds ≠ [] → feedChunks a cs = feedChunks a ds := by
  refine ⟨feed_append, fun a cs ds hflat h => ?_⟩
  have hc : Reached a ∨ cs ≠ [] := h.imp_right And.left
  have hd : Reached a ∨ ds ≠ [] := h.imp_right And.right
  rw [feedChunks_eq hc, feedChunks_eq hd, hflat]

/-- A magic cut in two, and the same bytes at once. -/
theorem feed_chunks_irrelevant_magic :
    feedChunks .reset [[0x01, 0x7f], [], [0x5a]] = feedChunks .reset [[0x01, 0x7f, 0x5a]] :=
  feed_chunks_irrelevant.2 .reset _ _ rfl (.inl .reset)

end TTLockConnect.Ble.Reassembly
