import TTLockConnect.Ble.Protocol
import TTLockConnect.Text.Readings
import Mathlib.Data.Int.Bitwise

/-! # What a lock says of its features

The reply to `SEARCH_DEVICE_FEATURE` has two words of 32 bits, the second of which comes first in the
`featureValue` of the cloud. `DeviceFeatures.parse` reads them at their places, as far as the payload
goes, and `feature_value_bytes` writes the value of the cloud as the lock sends it; between the two,
the bits of the cloud's value are those of the words. -/

namespace TTLockConnect.Ble.Features

open TTLockConnect.Text TTLockConnect.Text.Readings TTLockConnect.Models
open TTLockConnect.Ble.Cipher TTLockConnect.Ble.Protocol TTLockConnect.Numbers.Places

/-! ### Replies -/

/-- `x if condition else None`, where only a true condition evaluates `x`. -/
def readIf {α : Type} (condition : Prop) [Decidable condition] (x : Except PyError α) :
    Except PyError (Option α) :=
  if condition then x.map some else .ok none

/-- `bs[i:j]`. -/
def slice (bs : Bytes) (i j : ℕ) : Bytes := (bs.take j).drop i

/-- `Response.parse` with its indexing, which would raise without the conditions in front. -/
def parseResponse (payload : Bytes) : Except PyError Response := do
  let command ← readIf (RESPONSE_COMMAND < payload.length) (byteAt payload RESPONSE_COMMAND)
  let succeeded ← readIf (RESPONSE_STATUS < payload.length)
    ((byteAt payload RESPONSE_STATUS).map (· == RESPONSE_SUCCESS))
  pure ⟨command, succeeded, payload.drop RESPONSE_HEADER_LENGTH⟩

/-- `DeviceFeatures`. -/
structure DeviceFeatures where
  battery : Option ℤ
  featureValue : Option ℤ
  specialValue : Option ℤ
  /-- The trailing bytes, which nothing has identified. -/
  extra : Bytes
  deriving DecidableEq, Repr

/-- `DeviceFeatures.parse`. -/
def DeviceFeatures.parse (payload : Bytes) : Except PyError DeviceFeatures := do
  let data := (← parseResponse payload).data
  let battery ← readIf (0 < data.length) ((byteAt data 0).map fun b => (b.toNat : ℤ))
  let specialValue ← readIf (5 ≤ data.length) (.ok (fromBytes (slice data 1 5)))
  let featureValue ← readIf (9 ≤ data.length) (.ok (fromBytes (slice data 5 9)))
  pure ⟨battery, featureValue, specialValue, data.drop 9⟩

/-- `feature_value_bytes`. -/
def featureValueBytes (featureValue : String) : Bytes :=
  match fromHex featureValue.toList with
  | some raw => if raw.length ≠ 8 then [] else raw.drop 4 ++ raw.take 4
  | none => []

/-! ### What is to be reported -/

/-- A `featureValue` as the cloud sends it: 16 hexadecimal digits. -/
structure FeatureWord (v : String) : Prop where
  length : v.toList.length = 16
  digits : ∀ c ∈ v.toList, (hexDigit c).isSome = true

/-- **The words of the radio are the value of the cloud**, and its flags their bits. -/
structure Agrees (v : String) (featureValue specialValue : ℤ) : Prop where
  number : intHex v = .ok (featureValue * 2 ^ 32 + specialValue)
  flags : ∃ features, Features.fromFeatureValue (some v) = .ok features ∧
    ∀ bit, features.has bit = (featureValue * 2 ^ 32 + specialValue).testBit bit
  /-- In which of the words a bit is, and where. -/
  words : ∀ bit, (featureValue * 2 ^ 32 + specialValue).testBit bit =
    if bit < 32 then specialValue.testBit bit else featureValue.testBit (bit - 32)

/-- **Missing is `None`**, and nothing else is: each field against the end of its bytes. -/
structure Reports (payload : Bytes) (reported : DeviceFeatures) : Prop where
  battery : reported.battery = none ↔ payload.length < RESPONSE_HEADER_LENGTH + 1
  specialValue : reported.specialValue = none ↔ payload.length < RESPONSE_HEADER_LENGTH + 5
  featureValue : reported.featureValue = none ↔ payload.length < RESPONSE_HEADER_LENGTH + 9

/-! ### Parsing -/

section Parse
variable {α : Type}

theorem readIf_ok {condition : Prop} [Decidable condition] (x : α) :
    readIf condition (.ok x : Except PyError α) = .ok (if condition then some x else none) := by
  unfold readIf
  split_ifs <;> rfl

/-- A guarded index does not raise. -/
theorem readIf_byteAt (bs : Bytes) (i : ℕ) (f : Byte → α) :
    readIf (i < bs.length) ((byteAt bs i).map f) = .ok (bs[i]?.map f) := by
  unfold readIf byteAt
  by_cases h : i < bs.length
  · rw [if_pos h, List.getElem?_eq_getElem h]
    rfl
  · rw [if_neg h, List.getElem?_eq_none (Nat.le_of_not_lt h)]
    rfl

theorem map_id_byteAt (bs : Bytes) (i : ℕ) : (byteAt bs i).map id = byteAt bs i := by
  cases byteAt bs i <;> rfl

/-- **`Response.parse` raises nothing.** -/
theorem parseResponse_eq (payload : Bytes) : parseResponse payload = .ok (Response.parse payload) := by
  have hcommand := readIf_byteAt payload RESPONSE_COMMAND id
  rw [map_id_byteAt, Option.map_id] at hcommand
  unfold parseResponse
  rw [hcommand, readIf_byteAt]
  rfl

/-- **`DeviceFeatures.parse` raises nothing.** -/
theorem parse_eq (payload : Bytes) : DeviceFeatures.parse payload =
    let data := payload.drop RESPONSE_HEADER_LENGTH
    .ok {
      battery := data[0]?.map fun b => (b.toNat : ℤ)
      featureValue := if 9 ≤ data.length then some (fromBytes (slice data 5 9)) else none
      specialValue := if 5 ≤ data.length then some (fromBytes (slice data 1 5)) else none
      extra := data.drop 9 } := by
  have hresponse : (Response.parse payload).data = payload.drop RESPONSE_HEADER_LENGTH := rfl
  unfold DeviceFeatures.parse
  rw [parseResponse_eq]
  simp only [bind_pure_comp, readIf_ok]
  change (readIf _ _ >>= _) = _
  rw [hresponse, readIf_byteAt]
  rfl

theorem parse_reports (payload : Bytes) :
    ∃ reported, DeviceFeatures.parse payload = .ok reported ∧ Reports payload reported := by
  refine ⟨_, parse_eq payload, ?_, ?_, ?_⟩
  · dsimp only
    rw [Option.map_eq_none_iff, List.getElem?_eq_none_iff, List.length_drop]
    omega
  · simp only [ite_eq_right_iff, reduceCtorEq, imp_false, not_le, List.length_drop]
    omega
  · simp only [ite_eq_right_iff, reduceCtorEq, imp_false, not_le, List.length_drop]
    omega

end Parse

/-! ### Words -/

section Words
variable {hi lo : Bytes} {v : String}

theorem fromBytes_eq_places (bs : Bytes) :
    fromBytes bs = (places 256 (bs.map BitVec.toNat) 0 : ℕ) := by
  have hread : ∀ n : ℕ, bs.foldl (fun (n : ℤ) b => 256 * n + b.toNat) (n : ℤ) =
      (places 256 (bs.map BitVec.toNat) n : ℕ) := by
    induction bs with
    | nil => exact fun n => rfl
    | cons b bs ih =>
      intro n
      rw [List.foldl_cons, List.map_cons, places_cons, ← ih]
      push_cast
      rfl
  exact hread 0

theorem places_lt_word (hlo : lo.length = 4) : places 256 (lo.map BitVec.toNat) 0 < 2 ^ 32 := by
  have hbyte : ∀ d ∈ lo.map BitVec.toNat, d < 256 := by
    intro d hd
    obtain ⟨b, -, rfl⟩ := List.mem_map.mp hd
    exact b.isLt
  have hlt := places_lt (by decide : 1 < 256) hbyte
  rwa [List.length_map, hlo] at hlt

/-- What stands between two places is read there. -/
theorem slice_append (before bs after : Bytes) :
    slice (before ++ (bs ++ after)) before.length (before.length + bs.length) = bs := by
  rw [slice, List.take_length_add_append, List.drop_left, List.take_left]

/-- **The fields of a reply stand where `parse` looks for them.** -/
theorem parse_words (hlo : lo.length = 4) (hhi : hi.length = 4) (command status battery : Byte)
    (trailing : Bytes) :
    DeviceFeatures.parse (command :: status :: battery :: (lo ++ hi ++ trailing)) =
      .ok ⟨some battery.toNat, some (fromBytes hi), some (fromBytes lo), trailing⟩ := by
  have hdata : (command :: status :: battery :: (lo ++ hi ++ trailing)).drop
      RESPONSE_HEADER_LENGTH = battery :: (lo ++ hi ++ trailing) := rfl
  have hlength : 9 ≤ (battery :: (lo ++ hi ++ trailing)).length := by
    rw [List.length_cons, List.length_append, List.length_append]
    omega
  have hspecial : slice (battery :: (lo ++ hi ++ trailing)) 1 5 = lo := by
    have hslice := slice_append [battery] lo (hi ++ trailing)
    rw [hlo] at hslice
    rw [List.append_assoc]
    exact hslice
  have hfeature : slice (battery :: (lo ++ hi ++ trailing)) 5 9 = hi := by
    have hslice := slice_append (battery :: lo) hi trailing
    rwa [List.length_cons, hlo, hhi, List.cons_append, ← List.append_assoc] at hslice
  have hextra : (battery :: (lo ++ hi ++ trailing)).drop 9 = trailing := by
    rw [List.drop_succ_cons, List.drop_left' (by rw [List.length_append, hlo, hhi])]
  rw [parse_eq, hdata]
  dsimp only
  rw [if_pos hlength, if_pos (le_trans (by decide) hlength), hspecial, hfeature, hextra]
  rfl

/-- The reply of a KT170. -/
example : DeviceFeatures.parse [0x01, 0x01, 0x64, 0x35, 0xCC, 0xF5, 0xF7, 0x80, 0x0C, 0x2D, 0x44] =
    .ok ⟨some 100, some 0x800C2D44, some 0x35CCF5F7, []⟩ := rfl

/-- A value of 16 digits writes two words, and `feature_value_bytes` swaps them. -/
theorem FeatureWord.words (h : FeatureWord v) : ∃ hi lo : Bytes, hi.length = 4 ∧ lo.length = 4 ∧
    IsHex (hi ++ lo) v.toList ∧ featureValueBytes v = lo ++ hi := by
  obtain ⟨raw, hraw, hlength⟩ := exists_isHex h.digits (by rw [h.length])
  rw [h.length] at hlength
  refine ⟨raw.take 4, raw.drop 4, ?_, ?_, ?_, ?_⟩
  · rw [List.length_take]
    omega
  · rw [List.length_drop]
    omega
  · rwa [List.take_append_drop]
  · unfold featureValueBytes
    rw [fromHex_of_isHex hraw]
    exact if_neg (not_not.mpr (by omega))

/-- **Two words, the high one first, are the number that their digits write.** -/
theorem agrees_of_isHex (h : IsHex (hi ++ lo) v.toList) (hlo : lo.length = 4) :
    Agrees v (fromBytes hi) (fromBytes lo) := by
  have hne : hi ++ lo ≠ [] := by
    intro hnil
    rw [(List.append_eq_nil_iff.mp hnil).2] at hlo
    cases hlo
  have hjoin : places 256 ((hi ++ lo).map BitVec.toNat) 0 =
      places 256 (hi.map BitVec.toNat) 0 * 2 ^ 32 + places 256 (lo.map BitVec.toNat) 0 := by
    have hword : 256 ^ 4 = 2 ^ 32 := rfl
    rw [List.map_append, places_join, List.length_map, hlo, Nat.mul_comm, hword]
  have hnumber := intHex_of_isHex h hne
  rw [hjoin] at hnumber
  have hnonempty : v ≠ "" := by
    rintro rfl
    cases hnumber
  rw [fromBytes_eq_places, fromBytes_eq_places]
  refine ⟨hnumber, ⟨_, ?_, fun bit => rfl⟩, fun bit => ?_⟩
  · rw [Features.fromFeatureValue, if_neg hnonempty, hnumber]
    rfl
  · exact testBit_join (places_lt_word hlo) _ bit

end Words

/-! ### The cloud and the radio -/

/-- **The feature words of the radio are those of the cloud.** What `feature_value_bytes` makes of
the value of the cloud, `parse` reads behind any envelope and battery, and before any further bytes,
as the two words of that value; and of any payload at all it reports what the payload holds. -/
theorem parse_agrees :
    (∀ v, FeatureWord v → ∀ (command status battery : Byte) (trailing : Bytes),
      ∃ featureValue specialValue,
        DeviceFeatures.parse (command :: status :: battery :: (featureValueBytes v ++ trailing)) =
          .ok ⟨some battery.toNat, some featureValue, some specialValue, trailing⟩ ∧
        Agrees v featureValue specialValue) ∧
    ∀ payload, ∃ reported, DeviceFeatures.parse payload = .ok reported ∧
      Reports payload reported := by
  refine ⟨fun v hv command status battery trailing => ?_, parse_reports⟩
  obtain ⟨hi, lo, hhi, hlo, hhex, hbytes⟩ := hv.words
  rw [hbytes]
  exact ⟨_, _, parse_words hlo hhi command status battery trailing, agrees_of_isHex hhex hlo⟩

theorem parse_agrees_reply : ∃ featureValue specialValue,
    DeviceFeatures.parse (0x01 :: 0x01 :: 0x64 ::
      (featureValueBytes "800C2D4435CCF5F7" ++ List.replicate 8 0)) =
      .ok ⟨some 100, some featureValue, some specialValue, List.replicate 8 0⟩ ∧
    Agrees "800C2D4435CCF5F7" featureValue specialValue :=
  parse_agrees.1 "800C2D4435CCF5F7" ⟨by decide, List.all_eq_true.mp (by decide)⟩ 0x01 0x01 0x64
    (List.replicate 8 0)

end TTLockConnect.Ble.Features
