import TTLockConnect.Ble.Resync
import TTLockConnect.Stream.Ledger
import Mathlib.Data.List.Induction

/-! # What an assembler holds and what it drops

`FrameAssembler` over any sequence of calls. What has been fed since the last reset is what a single
drain has been given, whatever the chunks; the loop of that drain says which bytes are in frames,
which are still held, and that no magic is in what was dropped. -/

namespace TTLockConnect.Ble.Conservation

open TTLockConnect.Ble.Cipher TTLockConnect.Ble.Protocol TTLockConnect.Ble.Reassembly
open TTLockConnect.Ble.Radio TTLockConnect.Ble.Resync
open TTLockConnect.Stream.Splitter TTLockConnect.Stream.Ledger

/-! ### Calls -/

inductive Call where
  | feed (chunk : Bytes)
  | reset

/-- An assembler, and what it has been fed and has emitted since its last reset. -/
structure History where
  assembler : FrameAssembler
  fed : Bytes
  emitted : List Bytes

def History.fresh : History := ⟨.reset, [], []⟩

def History.call (h : History) : Call → History
  | .feed chunk =>
    let (frames, a) := h.assembler.feed chunk
    ⟨a, h.fed ++ chunk, h.emitted ++ frames⟩
  | .reset => .fresh

/-- The history of a new assembler after these calls. -/
def after (calls : List Call) : History := calls.foldl History.call .fresh

/-! ### What holds after every call -/

/-- Bytes without a magic. -/
def Junk (bs : Bytes) : Prop := ¬ MAGIC <:+: bs

/-- **A buffer between two calls.** It is the possible first byte of a magic, or a frame that has
begun, and that will be longer whatever comes behind. -/
def Held (buffer : Bytes) : Prop :=
  buffer.length ≤ 1 ∨ MAGIC <+: buffer ∧ ∀ more, buffer.length < totalLength (buffer ++ more)

/-- A magic in front, and as long as the header says. -/
def Delimited (frame : Bytes) : Prop :=
  MAGIC <+: frame ∧ frame.length = 15 + (frame.getD 11 0).toNat

/-- **Nothing is lost, doubled or held back for long.** -/
structure Conserved (h : History) : Prop where
  held : Held h.assembler.buffer
  bounded : h.assembler.buffer.length < MAX_FRAME_LENGTH
  delimited : ∀ frame ∈ h.emitted, Delimited frame
  accounted : Accounted Junk h.fed h.emitted h.assembler.buffer

/-! ### One round -/

theorem junk_of_fromMagic {bs : Bytes} (h : fromMagic bs = none) : Junk bs :=
  fromMagic_eq_none_iff.mp h

theorem junk_of_prefix {run bs : Bytes} (h : run <+: bs) (hb : Junk bs) : Junk run :=
  fun hin => hb (hin.trans h.isInfix)

theorem lastByte_split (bs : Bytes) : bs.take (bs.length - 1) ++ lastByte bs = bs :=
  List.take_append_drop _ bs

theorem booked_cutFrame : Booked Junk cutFrame where
  cut := by
    intro buffer frame rest h
    cases hf : fromMagic buffer with
    | none =>
      rw [cutFrame_none hf] at h
      cases h
    | some found =>
      obtain ⟨before, rfl, hbefore⟩ := exists_before hf
      rw [cutFrame_some hf] at h
      split_ifs at h with hl
      obtain ⟨rfl, rfl⟩ := Prod.mk.inj (Sum.inl.inj h)
      exact ⟨before, hbefore, by rw [List.take_append_drop]⟩
  stop := by
    intro buffer rest h
    cases hf : fromMagic buffer with
    | none =>
      -- all but one byte is dropped
      rw [cutFrame_none hf] at h
      obtain rfl := Sum.inr.inj h
      exact ⟨buffer.take (buffer.length - 1),
        junk_of_prefix (List.take_prefix _ _) (junk_of_fromMagic hf), (lastByte_split buffer).symm⟩
    | some found =>
      obtain ⟨before, rfl, hbefore⟩ := exists_before hf
      rw [cutFrame_some hf] at h
      split_ifs at h with hl
      obtain rfl := Sum.inr.inj h
      exact ⟨before, hbefore, rfl⟩

theorem delimited_of_cut {buffer frame rest : Bytes} (h : cutFrame buffer = .inl (frame, rest)) :
    Delimited frame := by
  cases hf : fromMagic buffer with
  | none =>
    rw [cutFrame_none hf] at h
    cases h
  | some found =>
    rw [cutFrame_some hf] at h
    split_ifs at h with hl
    obtain ⟨rfl, -⟩ := Prod.mk.inj (Sum.inl.inj h)
    have hwhole := whole_take (fromMagic_some hf).1 hl.2
    refine ⟨hwhole.magic, ?_⟩
    have htotal := hwhole.total
    rw [totalLength, HEADER_LENGTH, TRAILER_LENGTH] at htotal
    omega

theorem held_of_stop {buffer rest : Bytes} (h : cutFrame buffer = .inr rest) : Held rest := by
  cases hf : fromMagic buffer with
  | none =>
    rw [cutFrame_none hf] at h
    obtain rfl := Sum.inr.inj h
    refine .inl ?_
    rw [lastByte, List.length_drop]
    omega
  | some found =>
    rw [cutFrame_some hf] at h
    split_ifs at h with hl
    obtain rfl := Sum.inr.inj h
    have hmagic := (fromMagic_some hf).1
    exact .inr ⟨hmagic, length_lt_totalLength ⟨hmagic, hl⟩⟩

theorem totalLength_le (bs : Bytes) : totalLength bs ≤ MAX_FRAME_LENGTH := by
  have hbyte := (bs.getD 11 0).isLt
  rw [totalLength, MAX_FRAME_LENGTH, MAX_DATA_LENGTH]
  omega

theorem Held.length_lt {buffer : Bytes} (h : Held buffer) : buffer.length < MAX_FRAME_LENGTH := by
  rcases h with hle | ⟨-, hlt⟩
  · exact Nat.lt_of_le_of_lt hle (by decide)
  · exact Nat.lt_of_lt_of_le (hlt []) (totalLength_le _)

/-! ### All calls -/

/-- What is fed in chunks is drained as a whole. -/
theorem drained_after (calls : List Call) :
    drained cutFrame (after calls).fed = ((after calls).emitted, (after calls).assembler.buffer) := by
  induction calls using List.reverseRecOn with
  | nil => rfl
  | append_singleton calls c ih =>
    have hafter : after (calls ++ [c]) = (after calls).call c := List.foldl_append
    rw [hafter]
    cases c with
    | reset => rfl
    | feed chunk =>
      dsimp only [History.call]
      rw [drained_append lawful_cutFrame, ih, feed_eq]

/-- **An assembler loses nothing but bytes without a magic**, and holds less than a frame; and every
call of `feed` ends. -/
theorem calls_conserved (calls : List Call) : Conserved (after calls) ∧
    ∀ chunk, Loop cutFrame ((after calls).assembler.buffer ++ chunk)
      ((after calls).assembler.feed chunk).1 ((after calls).assembler.feed chunk).2.buffer := by
  have hloop := loop_drained lawful_cutFrame (after calls).fed
  rw [drained_after] at hloop
  obtain ⟨last, hstop⟩ := hloop.stopped
  have hheld := held_of_stop hstop
  refine ⟨⟨hheld, hheld.length_lt, hloop.forall_frames delimited_of_cut,
    hloop.accounted booked_cutFrame⟩, fun chunk => ?_⟩
  rw [feed_eq]
  exact loop_drained lawful_cutFrame _

end TTLockConnect.Ble.Conservation
