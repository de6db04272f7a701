import TTLockConnect.Ble.ByteList
import Mathlib.Data.List.Forall2

/-! # Every known encoding of a key is read back

The encodings that `parse_aes_key` knows. Its readers are tried in order, so each of them has to refuse
what is written for a later one: by a character it does not read, or by the length of the parts. -/

namespace TTLockConnect.Ble.Renderings

open TTLockConnect.Text TTLockConnect.Text.Readings TTLockConnect.Ble.Cipher
open TTLockConnect.Ble.Protocol TTLockConnect.Ble.Key TTLockConnect.Ble.ByteList

/-- What joins the digits of the bytes. -/
def DELIMITERS : List Char := [':', '-', ',', '.', ' ']

/-- A token of two hexadecimal digits, in either letter case. -/
def IsToken (b : Byte) (token : List Char) : Prop := IsHex [b] token

/-- A byte as a number, unsigned or as Java prints it. -/
def IsNumber (b : Byte) (n : ℤ) : Prop := n = b.toNat ∨ n = b.toInt

/-- **The known encodings** of some bytes. -/
inductive Renders (key : Bytes) : List Char → Prop
  /-- hexadecimal digits, in either letter case -/
  | hex {text : List Char} (h : IsHex key text) : Renders key text
  /-- tokens of two hexadecimal digits, joined by a delimiter -/
  | delimited {delimiter : Char} {tokens : List (List Char)} (hdelimiter : delimiter ∈ DELIMITERS)
      (h : List.Forall₂ IsToken key tokens) : Renders key ([delimiter].intercalate tokens)
  | base64 : Renders key (b64encode key)
  /-- decimal numbers, each unsigned or signed, that have not all two digits and no sign -/
  | decimal {ns : List ℤ} (h : List.Forall₂ IsNumber key ns)
      (hother : ∃ n ∈ ns, ¬ (10 ≤ n ∧ n ≤ 99)) : Renders key (byteList ns)

variable {key : Bytes}

/-! ### What the readers refuse -/

theorem keyFromDelimitedHex_none {value : List Char} (h : ∀ c ∈ value, c ∉ HEX_SEPARATORS) :
    keyFromDelimitedHex value = none := by
  have hnone : ∀ separator ∈ HEX_SEPARATORS, delimitedBy value separator = none := by
    intro separator hseparator
    exact delimitedBy_of_notMem fun hmem => h separator hmem hseparator
  rw [keyFromDelimitedHex_eq]
  exact List.findSome?_eq_none_iff.mpr hnone

theorem keyFromSignedBytes_none {value : List Char} (h : ∀ c ∈ value, c ∉ HEX_SEPARATORS) :
    keyFromSignedBytes value = none := by
  have hcomma : ',' ∉ value := fun hmem => h ',' hmem (by decide)
  exact if_pos hcomma

theorem filter_separators {value : List Char} (h : ∀ c ∈ value, c ∉ HEX_SEPARATORS) :
    value.filter (fun c => decide (c ∉ HEX_SEPARATORS)) = value :=
  List.filter_eq_self.mpr fun c hc => decide_eq_true (h c hc)

/-- A text without separators is left to the forgiving readers. -/
theorem readKey_plain {value : List Char} (h : ∀ c ∈ value, c ∉ HEX_SEPARATORS) :
    readKey value = (keyFromHex value).or (keyFromBase64 value) := by
  unfold readKey
  rw [keyFromDelimitedHex_none h, keyFromSignedBytes_none h, Option.none_or, Option.none_or]

theorem keyFromHex_of_fromHex {value : List Char} (h : ∀ c ∈ value, c ∉ HEX_SEPARATORS)
    (hkey : key.length = AES_KEY_LENGTH) (hread : fromHex value = some key) :
    keyFromHex value = some key := by
  unfold keyFromHex
  rw [filter_separators h, hread]
  exact if_pos hkey

theorem hexDigit_notMem_separators {c : Char} (h : (hexDigit c).isSome = true) :
    c ∉ HEX_SEPARATORS := by
  obtain ⟨-, -, hminus, hcomma, hcolon, hdot⟩ := hexDigit_plain h
  simp [HEX_SEPARATORS, hminus, hcomma, hcolon, hdot]

/-! ### Each encoding -/

theorem readKey_hex {text : List Char} (hkey : key.length = AES_KEY_LENGTH) (h : IsHex key text) :
    readKey text = some key := by
  have hplain : ∀ c ∈ text, c ∉ HEX_SEPARATORS := fun c hc =>
    hexDigit_notMem_separators (isHex_plain h c hc)
  rw [readKey_plain hplain, keyFromHex_of_fromHex hplain hkey (fromHex_of_isHex h)]
  rfl

/-- Base64 has neither separators nor whitespace. -/
theorem b64encode_plain {c : Char} (h : c ∈ b64encode key) :
    c ∉ HEX_SEPARATORS ∧ isSpace c = false := by
  rcases mem_b64encode h with ⟨n, hn, rfl⟩ | rfl
  · obtain ⟨hspace, hminus, hcomma, hcolon, hdot⟩ := b64Char_plain n hn
    exact ⟨by simp [HEX_SEPARATORS, hminus, hcomma, hcolon, hdot], hspace⟩
  · decide

theorem readKey_base64 (hkey : key.length = AES_KEY_LENGTH) :
    readKey (b64encode key) = some key := by
  have hplain : ∀ c ∈ b64encode key, c ∉ HEX_SEPARATORS := fun c hc => (b64encode_plain hc).1
  have hequals : '=' ∈ b64encode key := by
    refine List.mem_append_right _ ?_
    rw [hkey]
    decide
  have hhex : keyFromHex (b64encode key) = none := by
    unfold keyFromHex
    rw [filter_separators hplain, fromHex_none hequals (by decide) (by decide)]
    rfl
  have hbase64 : keyFromBase64 (b64encode key) = some key := by
    unfold keyFromBase64
    rw [b64decode_b64encode]
    exact if_pos hkey
  rw [readKey_plain hplain, hhex, hbase64]
  rfl

theorem byte_of_number {b : Byte} {n : ℤ} (h : IsNumber b n) :
    (-128 ≤ n ∧ n ≤ 255) ∧ BitVec.ofInt 8 n = b := by
  have hlt : b.toNat < 256 := b.isLt
  rcases h with rfl | rfl
  · refine ⟨by omega, ?_⟩
    rw [BitVec.ofInt_natCast, BitVec.ofNat_toNat, BitVec.setWidth_eq]
  · have hlow : -128 ≤ b.toInt := BitVec.le_toInt b
    have hhigh : b.toInt < 128 := BitVec.toInt_lt
    exact ⟨by omega, BitVec.ofInt_toInt⟩

theorem bytes_of_numbers {ns : List ℤ} (h : List.Forall₂ IsNumber key ns) :
    (∀ n ∈ ns, -128 ≤ n ∧ n ≤ 255) ∧ ns.map (BitVec.ofInt 8) = key := by
  induction h with
  | nil => exact ⟨by simp, rfl⟩
  | cons hb _ ih =>
    obtain ⟨hrange, hbyte⟩ := byte_of_number hb
    exact ⟨List.forall_mem_cons.mpr ⟨hrange, ih.1⟩, by rw [List.map_cons, hbyte, ih.2]⟩

theorem readKey_decimal {ns : List ℤ} (hkey : key.length = AES_KEY_LENGTH)
    (h : List.Forall₂ IsNumber key ns) (hother : ∃ n ∈ ns, ¬ (10 ≤ n ∧ n ≤ 99)) :
    readKey (byteList ns) = some key := by
  obtain ⟨hrange, hbytes⟩ := bytes_of_numbers h
  have hnot : ¬ TwoDigits ns := by
    rintro ⟨-, htwo⟩
    obtain ⟨n, hn, hout⟩ := hother
    exact hout (htwo n hn)
  have hyes : Bytes16 ns := ⟨h.length_eq.symm.trans hkey, hrange⟩
  unfold readKey
  rw [keyFromDelimitedHex_byteList, if_neg hnot, keyFromSignedBytes_byteList, if_pos hyes, hbytes]
  rfl

section Tokens
variable {tokens : List (List Char)} (h : List.Forall₂ IsToken key tokens)
include h

/-- The tokens together are the digits of the key. -/
theorem isHex_tokens : IsHex key tokens.flatten := by
  induction h with
  | nil => rfl
  | cons htoken _ ih => exact isHex_append htoken ih

theorem token_plain : ∀ token ∈ tokens, token.length = 2 ∧ ∀ c ∈ token, (hexDigit c).isSome = true := by
  induction h with
  | nil => simp
  | cons htoken _ ih =>
    refine List.forall_mem_cons.mpr ⟨⟨?_, isHex_plain htoken⟩, ih⟩
    have hlength := congrArg List.length htoken
    simpa [nibbles] using hlength

/-- The characters of joined tokens. -/
theorem mem_tokens {delimiter c : Char} (hc : c ∈ [delimiter].intercalate tokens) :
    c = delimiter ∨ (hexDigit c).isSome = true := by
  refine (mem_intercalate hc).imp_right fun hmem => ?_
  obtain ⟨token, htoken, hc⟩ := List.mem_flatten.mp hmem
  exact (token_plain h token htoken).2 c hc

/-- **Tokens are read at their own separator**, and at no other. -/
theorem delimitedBy_tokens {delimiter separator : Char} (hkey : key.length = AES_KEY_LENGTH)
    (hdelimiter : delimiter ∈ HEX_SEPARATORS) (hseparator : separator ∈ HEX_SEPARATORS) :
    delimitedBy ([delimiter].intercalate tokens) separator =
      if separator = delimiter then some key else none := by
  have hnot : ∀ {x}, x ∈ HEX_SEPARATORS → ∀ token ∈ tokens, x ∉ token := by
    intro x hx token htoken hmem
    exact hexDigit_notMem_separators ((token_plain h token htoken).2 x hmem) hx
  split_ifs with heq
  · subst heq
    have hlength : tokens.length = AES_KEY_LENGTH := h.length_eq.symm.trans hkey
    have hne : tokens ≠ [] := by
      rintro rfl
      cases hlength
    have hmem : separator ∈ [separator].intercalate tokens := by
      rcases tokens with _ | ⟨token, _ | ⟨token', rest⟩⟩
      · cases hlength
      · cases hlength
      · simp [List.intercalate_cons_cons]
    have hshort : tokens.all (·.length == 2) = true := by
      simpa using fun token htoken => (token_plain h token htoken).1
    unfold delimitedBy
    rw [if_neg (not_not.mpr hmem), List.splitOn_intercalate separator (hnot hdelimiter) hne]
    dsimp only
    rw [if_neg (not_not.mpr hlength), if_neg (not_not.mpr hshort)]
    exact fromHex_of_isHex (isHex_tokens h)
  · refine delimitedBy_of_notMem fun hmem => ?_
    rcases mem_tokens h hmem with hsame | hdigit
    · exact heq hsame
    · exact hexDigit_notMem_separators hdigit hseparator

/-- `bytes.fromhex` skips the spaces between tokens. -/
theorem fromHex_spaced : fromHex ([' '].intercalate tokens) = some key := by
  induction h with
  | nil => rfl
  | cons htoken hrest ih =>
    cases hrest with
    | nil => simpa using fromHex_of_isHex htoken
    | cons htoken' hrest =>
      rw [List.intercalate_cons_cons, List.append_assoc, fromHex_append htoken,
        List.singleton_append, fromHex_space_cons (by decide), ih]
      rfl

end Tokens

theorem readKey_delimited {delimiter : Char} {tokens : List (List Char)}
    (hkey : key.length = AES_KEY_LENGTH) (hdelimiter : delimiter ∈ DELIMITERS)
    (h : List.Forall₂ IsToken key tokens) : readKey ([delimiter].intercalate tokens) = some key := by
  by_cases hspace : delimiter = ' '
  · subst hspace
    have hplain : ∀ c ∈ [' '].intercalate tokens, c ∉ HEX_SEPARATORS := by
      intro c hc
      rcases mem_tokens h hc with rfl | hdigit
      · decide
      · exact hexDigit_notMem_separators hdigit
    rw [readKey_plain hplain, keyFromHex_of_fromHex hplain hkey (fromHex_spaced h)]
    rfl
  · have hseparator : delimiter ∈ HEX_SEPARATORS := by
      simp only [DELIMITERS, List.mem_cons, List.not_mem_nil, or_false] at hdelimiter
      rcases hdelimiter with rfl | rfl | rfl | rfl | rfl
      · decide
      · decide
      · decide
      · decide
      · exact absurd rfl hspace
    have hread : keyFromDelimitedHex ([delimiter].intercalate tokens) = some key := by
      have hcolon := delimitedBy_tokens h hkey hseparator (by decide : ':' ∈ HEX_SEPARATORS)
      have hminus := delimitedBy_tokens h hkey hseparator (by decide : '-' ∈ HEX_SEPARATORS)
      have hcomma := delimitedBy_tokens h hkey hseparator (by decide : ',' ∈ HEX_SEPARATORS)
      have hdot := delimitedBy_tokens h hkey hseparator (by decide : '.' ∈ HEX_SEPARATORS)
      rw [keyFromDelimitedHex_eq]
      unfold HEX_SEPARATORS
      simp only [List.findSome?_cons, hcolon, hminus, hcomma, hdot]
      simp only [HEX_SEPARATORS, List.mem_cons, List.not_mem_nil, or_false] at hseparator
      rcases hseparator with rfl | rfl | rfl | rfl <;> rfl
    unfold readKey
    rw [hread]
    rfl

/-! ### `parse_aes_key` -/

theorem readKey_of_renders {text : List Char} (hkey : key.length = AES_KEY_LENGTH)
    (h : Renders key text) : readKey text = some key := by
  cases h with
  | hex h => exact readKey_hex hkey h
  | delimited hdelimiter h => exact readKey_delimited hkey hdelimiter h
  | base64 => exact readKey_base64 hkey
  | decimal h hother => exact readKey_decimal hkey h hother

/-- What is written neither begins nor ends with whitespace. -/
theorem trimmed_of_renders {text : List Char} (h : Renders key text) : Trimmed text := by
  cases h with
  | hex h => exact trimmed_of_forall fun c hc => (hexDigit_plain (isHex_plain h c hc)).1
  | @delimited delimiter tokens hdelimiter h =>
    have hne : ∀ token ∈ tokens, token ≠ [] := by
      intro token htoken hnil
      have hlength := (token_plain h token htoken).1
      rw [hnil] at hlength
      cases hlength
    have hplain : ∀ c ∈ tokens.flatten, isSpace c = false := fun c hc =>
      (hexDigit_plain (isHex_plain (isHex_tokens h) c hc)).1
    exact ⟨fun c hc => hplain c (head_intercalate hne hc),
      fun c hc => hplain c (last_intercalate hne hc)⟩
  | base64 => exact trimmed_of_forall fun c hc => (b64encode_plain hc).2
  | decimal h hother => exact trimmed_of_forall fun c hc => (byteList_plain hc).1

/-- **Every known encoding of a key is read back**, whatever ASCII whitespace is around it. -/
theorem parseAesKey_renders {before text behind : List Char} (hkey : key.length = AES_KEY_LENGTH)
    (h : Renders key text) (hbefore : ∀ c ∈ before, isAsciiSpace c = true)
    (hbehind : ∀ c ∈ behind, isAsciiSpace c = true) :
    parseAesKey (String.ofList (before ++ text ++ behind)) = .ok key := by
  have hread := readKey_of_renders hkey h
  have hne : text ≠ [] := by
    rintro rfl
    rw [show readKey [] = none by decide] at hread
    cases hread
  have hstrip : strip (before ++ text ++ behind) = text :=
    strip_pad (fun c hc => isSpace_of_isAsciiSpace (hbefore c hc)) (trimmed_of_renders h)
      fun c hc => isSpace_of_isAsciiSpace (hbehind c hc)
  rw [parseAesKey_eq hstrip hne, hread]

/-- Sixteen bytes, some of them as Java prints them. -/
def javaKey : Bytes := [0x80, 0xff, 0, 0x7f, 12, 0xf7, 0xff, 34, 5, 6, 7, 8, 9, 10, 11, 0xf4]

def javaNumbers : List ℤ := [-128, -1, 0, 127, 12, -9, 255, 34, 5, 6, 7, 8, 9, 10, 11, -12]

/-- The key is read back, with a newline behind it. -/
theorem parseAesKey_renders_java :
    parseAesKey (String.ofList ([] ++ byteList javaNumbers ++ ['\n'])) = .ok javaKey := by
  have hnumbers : List.Forall₂ IsNumber javaKey javaNumbers := by
    simp [javaKey, javaNumbers, IsNumber]
  have hother : ∃ n ∈ javaNumbers, ¬ (10 ≤ n ∧ n ≤ 99) := by decide
  have hbefore : ∀ c ∈ ([] : List Char), isAsciiSpace c = true := fun c hc => by cases hc
  have hbehind : ∀ c ∈ ['\n'], isAsciiSpace c = true := List.forall_mem_singleton.mpr rfl
  exact parseAesKey_renders rfl (.decimal hnumbers hother) hbefore hbehind

end TTLockConnect.Ble.Renderings
