import TTLockConnect.Ble.Reassembly
import TTLockConnect.Ble.RoundTrip

/-! # Frames over the radio

Encoded frames come out of a stream of notifications as they went in: an encoded frame is cut off
from what lies before it, unless that contains a magic, and from what lies behind it in any case. -/

namespace TTLockConnect.Ble.Radio

open TTLockConnect.Text TTLockConnect.Ble.Cipher TTLockConnect.Ble.Protocol
open TTLockConnect.Ble.Codec TTLockConnect.Ble.Session TTLockConnect.Ble.Reassembly
open TTLockConnect.Ble.RoundTrip TTLockConnect.Stream.Splitter

/-! ### Bytes without a magic -/

theorem fromMagic_eq_none_iff {bs : Bytes} : fromMagic bs = none ↔ ¬ MAGIC <:+: bs := by
  induction bs with
  | nil => exact iff_of_true rfl fun h => absurd h.length_le (by simp [MAGIC])
  | cons b bs ih =>
    rw [List.infix_cons_iff]
    by_cases hp : MAGIC <+: b :: bs
    · rw [fromMagic_of_magic hp]
      exact iff_of_false (Option.some_ne_none _) fun h => h (.inl hp)
    · rw [fromMagic_cons_of_not hp, ih]
      exact not_congr (by simp [hp])

/-- The first magic behind bytes without one: their last byte cannot begin it. -/
theorem fromMagic_append_of_none {junk bs : Bytes} (hj : fromMagic junk = none)
    (hb : MAGIC <+: bs) : fromMagic (junk ++ bs) = some bs := by
  induction junk with
  | nil => exact fromMagic_of_magic hb
  | cons b junk ih =>
    have hp : ¬ MAGIC <+: b :: junk := by
      intro hp
      rw [fromMagic_of_magic hp] at hj
      cases hj
    have hp' : ¬ MAGIC <+: b :: (junk ++ bs) := by
      cases junk with
      | nil =>
        obtain ⟨rest, rfl⟩ := hb
        intro h
        rw [List.nil_append] at h
        exact absurd ((magic_prefix_cons b 0x7f (0x5a :: rest)).mp h).2 (by decide)
      | cons c junk =>
        rw [List.cons_append, magic_prefix_cons]
        rwa [magic_prefix_cons] at hp
    rw [fromMagic_cons_of_not hp] at hj
    rw [List.cons_append, fromMagic_cons_of_not hp', ih hj]

/-! ### An encoded frame in a stream -/

section Encoded
variable {aes : BlockCipher} {aesKey : Option Bytes} {f : Frame} {raw : Bytes}

/-- What the assembler needs to know of an encoded frame. -/
structure WholeFrame (raw : Bytes) : Prop where
  magic : MAGIC <+: raw
  header : HEADER_LENGTH ≤ raw.length
  total : totalLength raw = raw.length

theorem whole_wire (h : Header) {payload : Bytes} (crc : Byte)
    (hlen : payload.length ≤ MAX_DATA_LENGTH) : WholeFrame (h.wire payload crc) := by
  rw [MAX_DATA_LENGTH] at hlen
  refine ⟨⟨_, rfl⟩, ?_, ?_⟩
  · rw [length_wire]
    omega
  · rw [length_wire, totalLength]
    change HEADER_LENGTH + (BitVec.ofNat 8 payload.length).toNat + TRAILER_LENGTH = _
    rw [BitVec.toNat_ofNat, Nat.mod_eq_of_lt (by omega)]

theorem whole_of_encode (he : f.encode aes aesKey = .ok raw) : WholeFrame raw := by
  obtain ⟨h, payload, -, -, hlen, rfl⟩ := encode_eq_ok_iff.mp he
  exact whole_wire h _ hlen

/-- **A whole frame is cut off the stream.** -/
theorem cutFrame_whole (hw : WholeFrame raw) {junk : Bytes} (hj : fromMagic junk = none)
    (rest : Bytes) : cutFrame (junk ++ (raw ++ rest)) = .inl (raw, rest) := by
  have hm : MAGIC <+: raw ++ rest := hw.magic.trans (List.prefix_append raw rest)
  have htotal : totalLength (raw ++ rest) = raw.length := by
    rw [totalLength_append rest hw.header, hw.total]
  have hheader := hw.header
  rw [cutFrame_some (fromMagic_append_of_none hj hm), htotal, List.take_left, List.drop_left,
    if_pos (by rw [List.length_append]; omega)]

end Encoded

/-! ### A stream of encoded frames -/

/-- A frame, its bytes, and what comes over the air behind them. -/
structure Sent where
  frame : Frame
  raw : Bytes
  junk : Bytes
  deriving DecidableEq, Repr

/-- What comes over the air: something, and then frames with something behind each. -/
def onAir (junk : Bytes) : List Sent → Bytes
  | [] => junk
  | s :: sent => junk ++ (s.raw ++ onAir s.junk sent)

/-- An encoded AES frame, with no magic behind it. -/
structure Sent.Fits (aes : BlockCipher) (aesKey : Option Bytes) (s : Sent) : Prop where
  scrambleKey : s.frame.scrambleKey = 0
  encode : s.frame.encode aes aesKey = .ok s.raw
  junk : ¬ MAGIC <:+: s.junk

section Stream
variable {aes : BlockCipher} {aesKey : Option Bytes}

theorem drained_onAir {sent : List Sent} (hs : ∀ s ∈ sent, s.Fits aes aesKey) {junk : Bytes}
    (hj : ¬ MAGIC <:+: junk) :
    (drained cutFrame (onAir junk sent)).1 = sent.map Sent.raw := by
  induction sent generalizing junk with
  | nil =>
    rw [onAir, drained_of_inr lawful_cutFrame (cutFrame_none (fromMagic_eq_none_iff.mpr hj))]
    rfl
  | cons s sent ih =>
    have hfits := hs s (List.mem_cons_self ..)
    have hcut := cutFrame_whole (whole_of_encode hfits.encode) (fromMagic_eq_none_iff.mpr hj)
      (onAir s.junk sent)
    rw [onAir, drained_of_inl lawful_cutFrame hcut, List.map_cons,
      ih (fun x hx => hs x (List.mem_cons_of_mem s hx)) hfits.junk]

/-- The frames that a fresh assembler makes of a stream, in whatever pieces it comes. -/
theorem feedChunks_reset (pieces : List Bytes) :
    (feedChunks .reset pieces).1 = (drained cutFrame pieces.flatten).1 := by
  rw [feedChunks_eq (.inl .reset)]
  rfl

theorem flatten_toChunks_go (n : ℕ) (bs : Bytes) (chunk : Array Byte) (chunks : Array Bytes) :
    (List.toChunks.go n bs chunk chunks).flatten =
      chunks.toList.flatten ++ (chunk.toList ++ bs) := by
  induction bs generalizing chunk chunks with
  | nil => simp [List.toChunks.go]
  | cons b bs ih =>
    rw [List.toChunks.go]
    split
    · rw [ih]
      simp
    · rw [ih]
      simp

/-- `_write` loses nothing. -/
theorem flatten_toChunks (n : ℕ) (bs : Bytes) : (bs.toChunks n).flatten = bs := by
  cases bs with
  | nil => cases n <;> rfl
  | cons b bs =>
    cases n with
    | zero => simp [List.toChunks]
    | succ n =>
      rw [List.toChunks, flatten_toChunks_go]
      · rfl
      · exact nofun

/-- **Frames survive the radio.** -/
theorem feed_onAir (aes : BlockCipher) (aesKey : Option Bytes) (hk : KeyFits aesKey) (junk : Bytes)
    (hj : ¬ MAGIC <:+: junk) (sent : List Sent) (hs : ∀ s ∈ sent, s.Fits aes aesKey) :
    (∀ pieces : List Bytes, pieces.flatten = onAir junk sent →
      (feedChunks .reset pieces).1 = sent.map Sent.raw) ∧
    (∀ session : LockSession,
      (feedChunks .reset ((onAir junk sent).toChunks session.chunkSize)).1 = sent.map Sent.raw) ∧
    ∀ s ∈ sent, Frame.decode aes s.raw aesKey = .ok s.frame := by
  refine ⟨fun pieces hp => ?_, fun session => ?_, fun s hmem => ?_⟩
  · rw [feedChunks_reset, hp, drained_onAir hs hj]
  · rw [feedChunks_reset, flatten_toChunks, drained_onAir hs hj]
  · exact decode_of_encode hk (hs s hmem).scrambleKey (hs s hmem).encode

/-- A refusal between junk that ends within a magic and junk that begins within one. -/
theorem feed_onAir_refusal :
    (feedChunks .reset [[0x33, 0x7f], [], responseFrame [0x14, 0x00, 0x64, 0x00, 0x01],
      [0x5a, 0x7f]]).1 = [responseFrame [0x14, 0x00, 0x64, 0x00, 0x01]] :=
  (feed_onAir sampleAes (some sampleKey) (by rintro _ ⟨⟩; rfl) [0x33, 0x7f] (by decide)
    [⟨⟨sampleVersion, 0x54, [0x14, 0x00, 0x64, 0x00, 0x01], 0⟩,
      responseFrame [0x14, 0x00, 0x64, 0x00, 0x01], [0x5a, 0x7f]⟩]
    (by
      intro s hs
      obtain rfl := List.mem_singleton.mp hs
      exact ⟨rfl, by decide +kernel, by decide⟩)).1 _ (by decide +kernel)

end Stream

end TTLockConnect.Ble.Radio
