import TTLockConnect.Ble.Radio

/-! # Joining in the middle of a frame

An assembler that is fed the end of a frame trusts every magic in it, and takes the length that the
byte eleven places on declares. What is lost then depends on whether each such false start ends
within the frame that was cut off: the first that does not takes its missing bytes from the frames
behind. -/

namespace TTLockConnect.Ble.Resync

open TTLockConnect.Text TTLockConnect.Ble.Cipher TTLockConnect.Ble.Protocol
open TTLockConnect.Ble.Codec TTLockConnect.Ble.Session TTLockConnect.Ble.Reassembly
open TTLockConnect.Ble.RoundTrip TTLockConnect.Ble.Radio TTLockConnect.Stream.Splitter

/-- A byte string that `encode` returns. -/
def Encoded (aes : BlockCipher) (raw : Bytes) : Prop :=
  ∃ (f : Frame) (aesKey : Option Bytes), f.encode aes aesKey = .ok raw

/-- **The false starts end inside**: taken in order, and skipping the bytes that each declares, they
leave bytes without a magic. -/
inductive EndsInside : Bytes → Prop where
  | clear {bs : Bytes} : ¬ MAGIC <:+: bs → EndsInside bs
  | skip {before frame rest : Bytes} : ¬ MAGIC <:+: before → WholeFrame frame → EndsInside rest →
      EndsInside (before ++ (frame ++ rest))

/-- A frame that has begun, and wants more bytes than there are. -/
structure Unfinished (bs : Bytes) : Prop where
  magic : MAGIC <+: bs
  short : ¬ (HEADER_LENGTH ≤ bs.length ∧ totalLength bs ≤ bs.length)

/-! ### What is cut off the end of a frame -/

theorem drained_whole {before frame : Bytes} (hb : ¬ MAGIC <:+: before) (hw : WholeFrame frame)
    (rest : Bytes) : (drained cutFrame (before ++ (frame ++ rest))).1 =
      frame :: (drained cutFrame rest).1 := by
  rw [drained_of_inl lawful_cutFrame
    (cutFrame_whole hw (fromMagic_eq_none_iff.mpr hb) rest)]

theorem whole_of_encoded {aes : BlockCipher} {raw : Bytes} (h : Encoded aes raw) :
    WholeFrame raw := by
  obtain ⟨f, aesKey, he⟩ := h
  exact whole_of_encode he

/-- Whole frames in a row come out as they are, also behind bytes without a magic. -/
theorem drained_flatten {before : Bytes} (hb : ¬ MAGIC <:+: before) {raws : List Bytes}
    (hw : ∀ raw ∈ raws, WholeFrame raw) :
    (drained cutFrame (before ++ raws.flatten)).1 = raws := by
  induction raws generalizing before with
  | nil =>
    rw [List.flatten_nil, List.append_nil,
      drained_of_inr lawful_cutFrame (cutFrame_none (fromMagic_eq_none_iff.mpr hb))]
  | cons raw raws ih =>
    have hnil : ¬ MAGIC <:+: ([] : Bytes) := by decide
    have htail := ih hnil fun x hx => hw x (List.mem_cons_of_mem raw hx)
    rw [List.flatten_cons, drained_whole hb (hw raw (List.mem_cons_self ..)),
      ← List.nil_append raws.flatten, htail]

theorem suffix_drained {t : Bytes} (ht : EndsInside t) {raws : List Bytes}
    (hw : ∀ raw ∈ raws, WholeFrame raw) : raws <:+ (drained cutFrame (t ++ raws.flatten)).1 := by
  induction ht with
  | clear hb =>
    exact ⟨[], (drained_flatten hb hw).symm⟩
  | skip hb hf _ ih =>
    rw [List.append_assoc, List.append_assoc, drained_whole hb hf]
    exact ih.trans (List.suffix_cons _ _)

/-- Where the first magic is, and what lies before it. -/
theorem exists_before {bs found : Bytes} (h : fromMagic bs = some found) :
    ∃ before, bs = before ++ found ∧ ¬ MAGIC <:+: before := by
  induction bs with
  | nil => cases h
  | cons b bs ih =>
    by_cases hp : MAGIC <+: b :: bs
    · rw [fromMagic_of_magic hp] at h
      obtain rfl := Option.some.inj h
      exact ⟨[], rfl, by decide⟩
    · rw [fromMagic_cons_of_not hp] at h
      obtain ⟨before, rfl, hb⟩ := ih h
      refine ⟨b :: before, rfl, fun hin => ?_⟩
      rcases List.infix_cons_iff.mp hin with hpre | hin
      · exact hp (hpre.trans (List.prefix_append (b :: before) found))
      · exact hb hin

/-- A false start that ends inside is cut off like a frame. -/
theorem whole_take {found : Bytes} (hm : MAGIC <+: found)
    (ht : totalLength found ≤ found.length) : WholeFrame (found.take (totalLength found)) := by
  have hlen : (found.take (totalLength found)).length = totalLength found := by
    rw [List.length_take]
    omega
  have hheader : HEADER_LENGTH ≤ totalLength found := by
    unfold totalLength
    omega
  have hmagic : MAGIC.length ≤ HEADER_LENGTH := by decide
  refine ⟨List.prefix_take_iff.mpr ⟨hm, Nat.le_trans hmagic hheader⟩, by omega, ?_⟩
  rw [hlen, ← totalLength_append (found.drop (totalLength found)) (by omega),
    List.take_append_drop]

/-- A false start that does not end inside is what is left. -/
theorem drained_before {before found : Bytes} (hb : ¬ MAGIC <:+: before) (hm : MAGIC <+: found)
    (more : Bytes) : drained cutFrame (before ++ (found ++ more)) =
      drained cutFrame (found ++ more) := by
  have hm' : MAGIC <+: found ++ more := hm.trans (List.prefix_append found more)
  have hcut : cutFrame (before ++ (found ++ more)) = cutFrame (found ++ more) := by
    unfold cutFrame
    rw [fromMagic_append_of_none (fromMagic_eq_none_iff.mpr hb) hm', fromMagic_of_magic hm']
  rw [drained_eq lawful_cutFrame, hcut, ← drained_eq lawful_cutFrame]

/-- The false starts end inside, or one that does not is what the frames behind are fed to. -/
theorem endsInside_or_unfinished (t : Bytes) : EndsInside t ∨
    ∃ (frames : List Bytes) (p : Bytes), Unfinished p ∧ p.length ≤ t.length ∧
      (∀ frame ∈ frames, frame.length + p.length ≤ t.length) ∧
      ∀ more, (drained cutFrame (t ++ more)).1 = frames ++ (drained cutFrame (p ++ more)).1 := by
  induction hn : t.length using Nat.strongRecOn generalizing t with
  | _ n ih =>
    subst hn
    cases hf : fromMagic t with
    | none => exact .inl (.clear (fromMagic_eq_none_iff.mp hf))
    | some found =>
      have hm := (fromMagic_some hf).1
      obtain ⟨before, rfl, hb⟩ := exists_before hf
      by_cases hl : HEADER_LENGTH ≤ found.length ∧ totalLength found ≤ found.length
      · have hw := whole_take hm hl.2
        have hpos : 0 < totalLength found := totalLength_pos found
        have hsplit := List.take_append_drop (totalLength found) found
        generalize hframe : found.take (totalLength found) = frame at hw hsplit
        have hflen : frame.length = totalLength found := by
          rw [← hframe, List.length_take]
          omega
        generalize found.drop (totalLength found) = rest at hsplit
        subst hsplit
        have hlt : rest.length < (before ++ (frame ++ rest)).length := by
          rw [List.length_append, List.length_append]
          omega
        rcases ih rest.length hlt rest rfl with hin | ⟨frames, p, hp, hple, hfle, hdrain⟩
        · exact .inl (.skip hb hw hin)
        · refine .inr ⟨frame :: frames, p, hp, by omega, ?_, ?_⟩
          · intro x hx
            rcases List.mem_cons.mp hx with rfl | hx
            · rw [List.length_append, List.length_append]
              omega
            · have hxle := hfle x hx
              omega
          · intro more
            rw [List.append_assoc, List.append_assoc, drained_whole hb hw, hdrain more]
            rfl
      · refine .inr ⟨[], found, ⟨hm, hl⟩, ?_, nofun, ?_⟩
        · rw [List.length_append]
          omega
        · intro more
          rw [List.append_assoc, drained_before hb hm]
          rfl

/-! ### Frames that are swallowed -/

/-- A frame in the clear with zeros for all that it may hold. -/
def zeros (n : ℕ) : Frame := ⟨⟨0, 0, 0, 0, 0⟩, 0, List.replicate n 0, 0⟩

/-- The bytes of such a frame. -/
def zerosRaw (n : ℕ) : Bytes :=
  let h : Header := ⟨0, 0, 0, 0, 0, 0, 0, 0, 0⟩
  h.wire (List.replicate n 0) (crc8Maxim (h.body (List.replicate n 0)))

theorem encode_zeros (aes : BlockCipher) {n : ℕ} (hn : n ≤ MAX_DATA_LENGTH) :
    (zeros n).encode aes none = .ok (zerosRaw n) :=
  encode_eq_ok_iff.mpr ⟨⟨0, 0, 0, 0, 0, 0, 0, 0, 0⟩, List.replicate n 0, rfl, rfl,
    by rwa [List.length_replicate], rfl⟩

theorem length_zerosRaw (n : ℕ) : (zerosRaw n).length = n + 15 := by
  rw [zerosRaw, length_wire, List.length_replicate, HEADER_LENGTH, TRAILER_LENGTH]
  omega

/-- The length byte behind a magic is read before the data of these frames. -/
theorem totalLength_zerosRaw {p : Bytes} (hp : 2 ≤ p.length) (n m : ℕ) :
    totalLength (p ++ zerosRaw n) = totalLength (p ++ zerosRaw m) := by
  have hfront : ∀ k, zerosRaw k =
      [0x7f, 0x5a, 0, 0, 0, 0, 0, 0, 0, 0, 0] ++ (zerosRaw k).drop 11 := fun k => rfl
  have hlong : HEADER_LENGTH ≤ (p ++ [0x7f, 0x5a, 0, 0, 0, 0, 0, 0, 0, 0, 0]).length := by
    rw [List.length_append, HEADER_LENGTH]
    simp only [List.length_cons, List.length_nil]
    omega
  rw [hfront n, hfront m, ← List.append_assoc, ← List.append_assoc, totalLength_append _ hlong,
    totalLength_append _ hlong]

/-- What an unfinished frame declares reaches beyond it. -/
theorem length_lt_totalLength {p : Bytes} (hp : Unfinished p) (more : Bytes) :
    p.length < totalLength (p ++ more) := by
  by_cases hl : HEADER_LENGTH ≤ p.length
  · rw [totalLength_append more hl]
    exact Nat.lt_of_not_le fun h => hp.short ⟨hl, h⟩
  · unfold totalLength
    omega

/-- An unfinished frame swallows the frame behind it, unless it takes just as many bytes. -/
theorem swallowed {p raw : Bytes} (hp : Unfinished p)
    (hne : totalLength (p ++ raw) ≠ raw.length) : raw ∉ (drained cutFrame (p ++ raw)).1 := by
  intro hmem
  have hm : MAGIC <+: p ++ raw := hp.magic.trans (List.prefix_append p raw)
  have hlt := length_lt_totalLength hp raw
  have hcut := cutFrame_some (fromMagic_of_magic hm)
  rw [List.length_append] at hcut
  split_ifs at hcut with hl
  · rw [drained_of_inl lawful_cutFrame hcut] at hmem
    rcases List.mem_cons.mp hmem with heq | hmem
    · have hlen := congrArg List.length heq
      rw [List.length_take, List.length_append] at hlen
      omega
    · have hle := (infix_of_mem_drained hmem).length_le
      rw [List.length_drop, List.length_append] at hle
      omega
  · rw [drained_of_inr lawful_cutFrame hcut] at hmem
    cases hmem

/-- Some frame of the two longest lengths is swallowed. -/
theorem exists_swallowed {p : Bytes} (hp : Unfinished p) : ∃ n, 254 ≤ n ∧ n ≤ MAX_DATA_LENGTH ∧
    zerosRaw n ∉ (drained cutFrame (p ++ zerosRaw n)).1 := by
  have htwo : 2 ≤ p.length := hp.magic.length_le
  have hsame := totalLength_zerosRaw htwo 254 255
  by_cases hne : totalLength (p ++ zerosRaw 255) = 270
  · refine ⟨254, by omega, by decide, swallowed hp ?_⟩
    rw [length_zerosRaw]
    omega
  · refine ⟨255, by omega, by decide, swallowed hp ?_⟩
    rw [length_zerosRaw]
    omega

/-! ### The cost of joining -/

/-- The longest frame has 270 bytes. -/
theorem length_le_of_encoded {aes : BlockCipher} {raw : Bytes} (h : Encoded aes raw) :
    raw.length ≤ 270 := by
  obtain ⟨f, aesKey, he⟩ := h
  obtain ⟨h, payload, -, -, hlen, rfl⟩ := encode_eq_ok_iff.mp he
  rw [MAX_DATA_LENGTH] at hlen
  rw [length_wire, HEADER_LENGTH, TRAILER_LENGTH]
  omega

/-- **Joining mid-frame costs one frame exactly if the false starts in it end inside.** -/
theorem resync_iff (aes : BlockCipher) (raw t : Bytes) (hraw : Encoded aes raw) (ht : t <:+ raw)
    (hne : t ≠ raw) :
    (∀ raws : List Bytes, (∀ r ∈ raws, Encoded aes r) → ∀ pieces : List Bytes,
      pieces.flatten = t ++ raws.flatten → raws <:+ (feedChunks .reset pieces).1) ↔
    EndsInside t := by
  constructor
  · intro h
    rcases endsInside_or_unfinished t with hin | ⟨frames, p, hp, -, hfle, hdrain⟩
    · exact hin
    obtain ⟨n, hn, hmax, hnot⟩ := exists_swallowed hp
    have hall : ∀ r ∈ [zerosRaw n], Encoded aes r := by
      intro r hr
      obtain rfl := List.mem_singleton.mp hr
      exact ⟨zeros n, none, encode_zeros aes hmax⟩
    have hsuf := h [zerosRaw n] hall [t ++ [zerosRaw n].flatten] List.flatten_singleton
    have hmem := hsuf.subset (List.mem_singleton.mpr rfl)
    rw [feedChunks_reset, List.flatten_singleton, List.flatten_singleton, hdrain] at hmem
    rcases List.mem_append.mp hmem with hmem | hmem
    · have hflen := hfle _ hmem
      have hplen : 2 ≤ p.length := hp.magic.length_le
      have htlen : t.length ≤ raw.length := ht.length_le
      have hrlen := length_le_of_encoded hraw
      have htne : t.length ≠ raw.length := fun heq => hne (ht.eq_of_length heq)
      rw [length_zerosRaw] at hflen
      omega
    · exact absurd hmem hnot
  · intro hin raws hall pieces hpieces
    rw [feedChunks_reset, hpieces]
    exact suffix_drained hin fun r hr => whole_of_encoded (hall r hr)

/-- A `RESPONSE` frame in the clear. -/
def clearFrame (data : Bytes) : Bytes :=
  match Frame.encode sampleAes ⟨sampleVersion, Command.response.toInt, data, 0⟩ none with
  | .ok raw => raw
  | .error _ => []

/-- Sixteen bytes that pass for a frame. -/
def falseFrame : Bytes := [0x7f, 0x5a, 0, 0, 0, 0, 0, 0, 0, 0, 0, 0x01, 0xaa, 0xbb, 0xcc, 0xdd]

/-- A false start that ends inside costs nothing more. -/
theorem resync_falseFrame : [clearFrame []] <:+
    (feedChunks .reset [(clearFrame falseFrame).drop 1 ++ clearFrame []]).1 := by
  have hall : ∀ r ∈ [clearFrame []], Encoded sampleAes r := by
    intro r hr
    obtain rfl := List.mem_singleton.mp hr
    exact ⟨⟨sampleVersion, Command.response.toInt, [], 0⟩, none, by decide +kernel⟩
  refine (resync_iff sampleAes (clearFrame falseFrame) ((clearFrame falseFrame).drop 1)
    ⟨⟨sampleVersion, Command.response.toInt, falseFrame, 0⟩, none, by decide +kernel⟩
    (List.drop_suffix 1 _) (by decide +kernel)).mpr ?_ [clearFrame []] hall _ rfl
  have hsplit : (clearFrame falseFrame).drop 1 =
      ((clearFrame falseFrame).take 12).drop 1 ++ (falseFrame ++ (clearFrame falseFrame).drop 28) := by
    decide +kernel
  rw [hsplit]
  exact .skip (by decide +kernel) ⟨by decide, by decide, by decide⟩ (.clear (by decide +kernel))

/-- **A false start swallows the next frame**: it declares 255 bytes more. -/
theorem false_start_swallows :
    ¬ ∀ (aes : BlockCipher) (raw t : Bytes), Encoded aes raw → t <:+ raw → t ≠ raw →
      ∀ raws : List Bytes, (∀ r ∈ raws, Encoded aes r) → ∀ pieces : List Bytes,
        pieces.flatten = t ++ raws.flatten → raws <:+ (feedChunks .reset pieces).1 := by
  intro h
  have hall : ∀ r ∈ [clearFrame []], Encoded sampleAes r := by
    intro r hr
    obtain rfl := List.mem_singleton.mp hr
    exact ⟨⟨sampleVersion, Command.response.toInt, [], 0⟩, none, by decide +kernel⟩
  have hsuf := h sampleAes (clearFrame [0x7f, 0x5a, 0, 0, 0, 0, 0, 0, 0, 0, 0, 0xff])
    ((clearFrame [0x7f, 0x5a, 0, 0, 0, 0, 0, 0, 0, 0, 0, 0xff]).drop 1)
    ⟨⟨sampleVersion, Command.response.toInt, [0x7f, 0x5a, 0, 0, 0, 0, 0, 0, 0, 0, 0, 0xff], 0⟩,
      none, by decide +kernel⟩ (List.drop_suffix 1 _) (by decide +kernel) [clearFrame []] hall
    [(clearFrame [0x7f, 0x5a, 0, 0, 0, 0, 0, 0, 0, 0, 0, 0xff]).drop 1, clearFrame []] rfl
  revert hsuf
  decide +kernel

end TTLockConnect.Ble.Resync
