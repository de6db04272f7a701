import TTLockConnect.Ble.Key
import TTLockConnect.Text.Readings

/-! # Keys from lists of numbers

What the readers of `parse_aes_key` make of numbers joined by commas: the strict hexadecimal reader
takes sixteen two-digit numbers, the one of signed bytes sixteen bytes, and the forgiving hexadecimal
reader everything with 32 digits. -/

namespace TTLockConnect.Ble.ByteList

open TTLockConnect.Text TTLockConnect.Text.Readings TTLockConnect.Ble.Cipher
open TTLockConnect.Ble.Protocol TTLockConnect.Ble.Key

/-- `",".join(str(n) for n in ns)`. -/
def byteList (ns : List ℤ) : List Char := [','].intercalate (ns.map str)

/-- Sixteen numbers of two digits. -/
def TwoDigits (ns : List ℤ) : Prop := ns.length = AES_KEY_LENGTH ∧ ∀ n ∈ ns, 10 ≤ n ∧ n ≤ 99

/-- Sixteen bytes, unsigned or signed. -/
def Bytes16 (ns : List ℤ) : Prop := ns.length = AES_KEY_LENGTH ∧ ∀ n ∈ ns, -128 ≤ n ∧ n ≤ 255

instance (ns : List ℤ) : Decidable (TwoDigits ns) := by unfold TwoDigits; infer_instance

instance (ns : List ℤ) : Decidable (Bytes16 ns) := by unfold Bytes16; infer_instance

/-- The digits of all numbers. -/
def allDigits (ns : List ℤ) : List Char := ns.flatMap fun n => Nat.toDigits 10 n.natAbs

/-- The byte whose hexadecimal digits are the decimal digits of `n`. -/
def hexByte (n : ℤ) : Byte := BitVec.ofInt 8 (16 * (n / 10) + n % 10)

/-! ### The characters -/

theorem mem_byteList {ns : List ℤ} {c : Char} (h : c ∈ byteList ns) :
    c = ',' ∨ ∃ n ∈ ns, c ∈ str n := by
  refine (mem_intercalate h).imp_right fun hmem => ?_
  obtain ⟨part, hpart, hc⟩ := List.mem_flatten.mp hmem
  obtain ⟨n, hn, rfl⟩ := List.mem_map.mp hpart
  exact ⟨n, hn, hc⟩

/-- There are commas, minus signs and digits. -/
theorem byteList_plain {ns : List ℤ} {c : Char} (h : c ∈ byteList ns) :
    isSpace c = false ∧ c ≠ ':' ∧ c ≠ '.' ∧ c ≠ '=' := by
  rcases mem_byteList h with rfl | ⟨n, -, hc⟩
  · decide
  rcases mem_str hc with hdigit | ⟨rfl, -⟩
  · obtain ⟨hspace, -, -, -, -, hcolon, hdot, hequals⟩ := isDigit_plain hdigit
    exact ⟨hspace, hcolon, hdot, hequals⟩
  · decide

theorem comma_notMem_str {n : ℤ} : ',' ∉ str n := by
  intro h
  rcases mem_str h with hdigit | ⟨heq, -⟩
  · exact absurd hdigit (by decide)
  · exact absurd heq (by decide)

theorem splitOn_byteList {ns : List ℤ} (hne : ns ≠ []) :
    (byteList ns).splitOn ',' = ns.map str := by
  apply List.splitOn_intercalate
  · intro part hpart
    obtain ⟨n, -, rfl⟩ := List.mem_map.mp hpart
    exact comma_notMem_str
  · simpa using hne

theorem byteList_ne_nil {ns : List ℤ} (hne : ns ≠ []) : byteList ns ≠ [] := by
  rcases ns with _ | ⟨n, _ | ⟨m, ns⟩⟩
  · exact absurd rfl hne
  · simp [byteList, str_ne_nil]
  · simp [byteList, List.intercalate_cons_cons]

/-- There is a comma between two numbers. -/
theorem comma_mem_iff {ns : List ℤ} : ',' ∈ byteList ns ↔ 2 ≤ ns.length := by
  rcases ns with _ | ⟨n, _ | ⟨m, ns⟩⟩
  · simp [byteList]
  · simp [byteList, comma_notMem_str]
  · simp [byteList, List.intercalate_cons_cons]

/-! ### The strict hexadecimal reader -/

/-- `_key_from_delimited_hex` at one separator. -/
def delimitedBy (value : List Char) (separator : Char) : Option Bytes :=
  if separator ∉ value then none
  else
    let tokens := value.splitOn separator
    if tokens.length ≠ AES_KEY_LENGTH then none
    else if ¬ tokens.all (·.length == 2) then none
    else fromHex tokens.flatten

theorem keyFromDelimitedHex_eq (value : List Char) :
    keyFromDelimitedHex value = HEX_SEPARATORS.findSome? (delimitedBy value) := rfl

theorem delimitedBy_of_notMem {value : List Char} {separator : Char} (h : separator ∉ value) :
    delimitedBy value separator = none := if_pos h

/-- A reading that another character of the text spoils. -/
theorem delimitedBy_spoilt {value : List Char} {separator c : Char} (hc : c ∈ value)
    (hne : c ≠ separator) (hdigit : hexDigit c = none) (hspace : isAsciiSpace c = false) :
    delimitedBy value separator = none := by
  unfold delimitedBy
  dsimp only
  simp only [fromHex_none (mem_flatten_splitOn hc hne) hdigit hspace, ite_self]

/-- A minus sign is no separator of byte lists: what it separates has commas. -/
theorem delimitedBy_minus (ns : List ℤ) : delimitedBy (byteList ns) '-' = none := by
  by_cases hcomma : ',' ∈ byteList ns
  · exact delimitedBy_spoilt hcomma (by decide) (by decide) (by decide)
  by_cases hminus : '-' ∈ byteList ns
  · -- a single negative number, which the sign splits in two
    rcases ns with _ | ⟨n, _ | ⟨m, ns⟩⟩
    · cases hminus
    · have hlist : byteList [n] = str n := by simp [byteList]
      rw [hlist] at hminus ⊢
      have hsplit : (str n).splitOn '-' = [[], Nat.toDigits 10 n.natAbs] := by
        have hdigits : ∀ part ∈ [[], Nat.toDigits 10 n.natAbs], '-' ∉ part := by
          intro part hpart hmem
          rcases List.mem_cons.mp hpart with rfl | hpart
          · cases hmem
          · rw [List.mem_singleton.mp hpart] at hmem
            exact absurd (isDigit_of_mem_toDigits hmem) (by decide)
        have hstr : str n = ['-'].intercalate [[], Nat.toDigits 10 n.natAbs] := by
          unfold str
          simp [if_pos (minus_mem_str.mp hminus), List.intercalate_cons_cons]
        rw [hstr, List.splitOn_intercalate '-' hdigits (by simp)]
      unfold delimitedBy
      rw [if_neg (not_not.mpr hminus)]
      dsimp only
      rw [hsplit]
      exact if_pos (by simp [AES_KEY_LENGTH, blockLength])
    · exact absurd (comma_mem_iff.mpr (by simp)) hcomma
  · exact delimitedBy_of_notMem hminus

/-- Two-digit numbers as hexadecimal ones. -/
theorem isHex_str {n : ℤ} (h : 10 ≤ n ∧ n ≤ 99) : IsHex [hexByte n] (str n) := by
  obtain ⟨hlow, hhigh⟩ := h
  unfold IsHex
  interval_cases n <;> decide

theorem isHex_flatten {ns : List ℤ} (h : ∀ n ∈ ns, 10 ≤ n ∧ n ≤ 99) :
    IsHex (ns.map hexByte) (ns.map str).flatten := by
  induction ns with
  | nil => rfl
  | cons n ns ih =>
    have hn := isHex_str (h n List.mem_cons_self)
    exact isHex_append hn (ih fun m hm => h m (List.mem_cons_of_mem _ hm))

/-- Of two characters each, and not all of two digits: some of them are negative. -/
theorem fromHex_short {ns : List ℤ} (hshort : ∀ n ∈ ns, (str n).length = 2)
    (hdigits : ¬ ∀ n ∈ ns, 10 ≤ n ∧ n ≤ 99) : fromHex (ns.map str).flatten = none := by
  push Not at hdigits
  obtain ⟨n, hn, hout⟩ := hdigits
  have hnegative : n < 0 := by
    rcases length_str_eq_two.mp (hshort n hn) with h | h
    · omega
    · omega
  have hminus : '-' ∈ (ns.map str).flatten :=
    List.mem_flatten.mpr ⟨str n, List.mem_map_of_mem hn, minus_mem_str.mpr hnegative⟩
  exact fromHex_none hminus (by decide) (by decide)

theorem delimitedBy_comma (ns : List ℤ) : delimitedBy (byteList ns) ',' =
    if TwoDigits ns then some (ns.map hexByte) else none := by
  by_cases hcomma : ',' ∈ byteList ns
  · have htwo : 2 ≤ ns.length := comma_mem_iff.mp hcomma
    have hne : ns ≠ [] := by
      rintro rfl
      simp at htwo
    unfold delimitedBy
    rw [if_neg (not_not.mpr hcomma), splitOn_byteList hne]
    dsimp only
    by_cases hlength : ns.length = AES_KEY_LENGTH
    swap
    · have hnot : ¬ TwoDigits ns := fun h => hlength h.1
      rw [List.length_map, if_pos hlength, if_neg hnot]
    rw [List.length_map, if_neg (not_not.mpr hlength)]
    by_cases hdigits : ∀ n ∈ ns, 10 ≤ n ∧ n ≤ 99
    · have hshort : (ns.map str).all (·.length == 2) = true := by
        simp only [List.all_map, List.all_eq_true, Function.comp_apply, beq_iff_eq]
        intro n hn
        exact length_str_eq_two.mpr (Or.inl (hdigits n hn))
      have htwoDigits : TwoDigits ns := ⟨hlength, hdigits⟩
      rw [if_neg (not_not.mpr hshort), if_pos htwoDigits]
      exact fromHex_of_isHex (isHex_flatten hdigits)
    · have hnot : ¬ TwoDigits ns := fun h => hdigits h.2
      rw [if_neg hnot]
      split_ifs with hshort
      · simp only [List.all_map, List.all_eq_true, Function.comp_apply, beq_iff_eq] at hshort
        exact fromHex_short hshort hdigits
      · rfl
  · rw [delimitedBy_of_notMem hcomma, if_neg]
    rintro ⟨hlength, -⟩
    refine hcomma (comma_mem_iff.mpr ?_)
    rw [hlength]
    decide

theorem keyFromDelimitedHex_byteList (ns : List ℤ) : keyFromDelimitedHex (byteList ns) =
    if TwoDigits ns then some (ns.map hexByte) else none := by
  have hcolon : ':' ∉ byteList ns := fun h => (byteList_plain h).2.1 rfl
  have hdot : '.' ∉ byteList ns := fun h => (byteList_plain h).2.2.1 rfl
  rw [keyFromDelimitedHex_eq, HEX_SEPARATORS]
  simp only [List.findSome?_cons, delimitedBy_of_notMem hcolon, delimitedBy_minus,
    delimitedBy_of_notMem hdot, delimitedBy_comma]
  split_ifs <;> rfl

/-! ### The reader of signed bytes -/

theorem mapM_intDec_of_bytes {ns : List ℤ} (h : ∀ n ∈ ns, -128 ≤ n ∧ n ≤ 255) :
    (ns.map str).mapM intDec = .ok ns := by
  induction ns with
  | nil => rfl
  | cons n ns ih =>
    rw [List.map_cons, List.mapM_cons, intDec_str_of_byte (h n List.mem_cons_self),
      ih fun m hm => h m (List.mem_cons_of_mem _ hm)]
    rfl

/-- `int` reads back what `str` has written, or nothing. -/
theorem mapM_intDec_ok {ns numbers : List ℤ} (h : (ns.map str).mapM intDec = .ok numbers) :
    numbers = ns := by
  induction ns generalizing numbers with
  | nil => exact (Except.ok.inj h).symm
  | cons n ns ih =>
    rw [List.map_cons, List.mapM_cons, intDec_str] at h
    split_ifs at h
    · cases h
    · cases hrest : (ns.map str).mapM intDec with
      | error e =>
        rw [hrest] at h
        cases h
      | ok rest =>
        rw [hrest] at h
        rw [← Except.ok.inj h, ih hrest]

theorem keyFromSignedBytes_byteList (ns : List ℤ) : keyFromSignedBytes (byteList ns) =
    if Bytes16 ns then some (ns.map (BitVec.ofInt 8)) else none := by
  by_cases hcomma : ',' ∈ byteList ns
  swap
  · have hnot : ¬ Bytes16 ns := by
      rintro ⟨hlength, -⟩
      refine hcomma (comma_mem_iff.mpr ?_)
      rw [hlength]
      decide
    rw [if_neg hnot]
    exact if_pos hcomma
  have hne : ns ≠ [] := by
    rintro rfl
    simp [byteList] at hcomma
  unfold keyFromSignedBytes
  rw [if_neg (not_not.mpr hcomma), splitOn_byteList hne]
  by_cases hbytes : ∀ n ∈ ns, -128 ≤ n ∧ n ≤ 255
  · rw [mapM_intDec_of_bytes hbytes]
    have hany : ns.any (fun n => ¬ (-128 ≤ n ∧ n ≤ 255)) = false := by
      simpa using hbytes
    dsimp only
    by_cases hlength : ns.length = AES_KEY_LENGTH
    · have hyes : Bytes16 ns := ⟨hlength, hbytes⟩
      have hgood : ¬ (ns.length ≠ AES_KEY_LENGTH ∨
          (ns.any fun n => ¬ (-128 ≤ n ∧ n ≤ 255)) = true) := by
        rw [hany]
        simp [hlength]
      rw [if_pos hyes]
      exact if_neg hgood
    · have hnot : ¬ Bytes16 ns := fun h => hlength h.1
      rw [if_neg hnot]
      exact if_pos (Or.inl hlength)
  · have hnot : ¬ Bytes16 ns := fun h => hbytes h.2
    rw [if_neg hnot]
    cases hread : (ns.map str).mapM intDec with
    | error e => rfl
    | ok numbers =>
      obtain rfl := mapM_intDec_ok hread
      have hany : (numbers.any fun n => ¬ (-128 ≤ n ∧ n ≤ 255)) = true := by
        push Not at hbytes
        obtain ⟨n, hn, hout⟩ := hbytes
        refine List.any_eq_true.mpr ⟨n, hn, decide_eq_true fun h => ?_⟩
        exact absurd (hout h.1) (not_lt.mpr h.2)
      exact if_pos (Or.inr hany)

/-! ### The forgiving hexadecimal reader -/

theorem filter_intercalate {p : Char → Bool} {separator : Char} (h : p separator = false)
    (parts : List (List Char)) :
    ([separator].intercalate parts).filter p = (parts.map (·.filter p)).flatten := by
  induction parts with
  | nil => rfl
  | cons part parts ih =>
    cases parts with
    | nil => simp
    | cons part' parts =>
      rw [List.intercalate_cons_cons, List.filter_append, List.filter_append, ih]
      simp [h]

theorem filter_str (n : ℤ) :
    (str n).filter (fun c => decide (c ∉ HEX_SEPARATORS)) = Nat.toDigits 10 n.natAbs := by
  have hdigits : (Nat.toDigits 10 n.natAbs).filter (fun c => decide (c ∉ HEX_SEPARATORS)) =
      Nat.toDigits 10 n.natAbs := by
    refine List.filter_eq_self.mpr fun c hc => ?_
    obtain ⟨-, hminus, -, -, hcomma, hcolon, hdot, -⟩ := isDigit_plain (isDigit_of_mem_toDigits hc)
    simp [HEX_SEPARATORS, hminus, hcomma, hcolon, hdot]
  unfold str
  split_ifs
  · rw [List.filter_cons_of_neg (by decide), hdigits]
  · exact hdigits

theorem filter_byteList (ns : List ℤ) :
    (byteList ns).filter (fun c => decide (c ∉ HEX_SEPARATORS)) = allDigits ns := by
  have hcomma : decide (',' ∉ HEX_SEPARATORS) = false := by decide
  unfold byteList allDigits
  rw [filter_intercalate hcomma, List.map_map, List.flatMap_def]
  congr 1
  exact List.map_congr_left fun n _ => filter_str n

/-- **Sixteen bytes are read from 32 digits**, wherever the commas stand. -/
theorem keyFromHex_byteList (ns : List ℤ) :
    (keyFromHex (byteList ns)).isSome = true ↔ (allDigits ns).length = 32 := by
  have hdigits : ∀ c ∈ allDigits ns, (hexDigit c).isSome = true := by
    intro c hc
    obtain ⟨n, -, hc⟩ := List.mem_flatMap.mp hc
    obtain ⟨d, hd, rfl⟩ := exists_digitChar (isDigit_of_mem_toDigits hc)
    rw [hexDigit_digitChar hd]
    rfl
  have hlength := fromHex_length hdigits
  unfold keyFromHex
  rw [filter_byteList]
  cases hread : fromHex (allDigits ns) with
  | none =>
    rw [hread] at hlength
    split_ifs at hlength with heven
    · cases hlength
    · have hodd : (allDigits ns).length ≠ 32 := by omega
      simp [hodd]
  | some key =>
    rw [hread] at hlength
    split_ifs at hlength with heven
    · have hhalf : key.length = (allDigits ns).length / 2 := Option.some.inj hlength
      have hsixteen : AES_KEY_LENGTH = 16 := rfl
      simp only [Option.bind_eq_bind, Option.bind_some]
      by_cases hkey : key.length = AES_KEY_LENGTH
      · rw [if_pos hkey]
        exact iff_of_true rfl (by omega)
      · rw [if_neg hkey]
        exact iff_of_false (by simp) (by omega)
    · cases hlength

/-! ### Base64 -/

/-- Base64 of sixteen bytes has padding, which a list of numbers has not. -/
theorem keyFromBase64_byteList (ns : List ℤ) : keyFromBase64 (byteList ns) = none := by
  have hequals : '=' ∉ byteList ns := fun h => (byteList_plain h).2.2.2 rfl
  unfold keyFromBase64
  cases hread : b64decode (byteList ns) with
  | none => rfl
  | some key => exact if_neg (b64decode_ne hequals hread)

/-! ### `parse_aes_key` -/

/-- The first reader that takes the text. -/
def readKey (value : List Char) : Option Bytes :=
  (keyFromDelimitedHex value).or ((keyFromSignedBytes value).or
    ((keyFromHex value).or (keyFromBase64 value)))

theorem parseAesKey_eq {text value : List Char} (hstrip : strip text = value) (hne : value ≠ []) :
    parseAesKey (String.ofList text) = match readKey value with
      | some key => .ok key
      | none => .error .valueError := by
  have hfirst : [keyFromDelimitedHex, keyFromSignedBytes, keyFromHex, keyFromBase64].findSome?
      (· value) = readKey value := by
    simp only [List.findSome?_cons, List.findSome?_nil, readKey]
    cases keyFromDelimitedHex value <;> cases keyFromSignedBytes value <;>
      cases keyFromHex value <;> cases keyFromBase64 value <;> rfl
  unfold parseAesKey
  rw [String.toList_ofList]
  dsimp only
  rw [hstrip, if_neg hne]
  cases hkey : readKey value with
  | none => simp [hfirst, hkey]
  | some key => simp [hfirst, hkey]

/-- What is wanted of a byte list: its hexadecimal reading if all its numbers have two digits, else
its bytes, else nothing. -/
def expectedKey (ns : List ℤ) : Except PyError Bytes :=
  if TwoDigits ns then .ok (ns.map hexByte)
  else if Bytes16 ns then .ok (ns.map (BitVec.ofInt 8))
  else .error .valueError

/-- **A byte list is read as wanted or rejected** exactly if it is well-formed or its numbers do not
happen to have 32 digits. -/
theorem parseAesKey_byteList_iff (ns : List ℤ) :
    parseAesKey (String.ofList (byteList ns)) = expectedKey ns ↔
      TwoDigits ns ∨ Bytes16 ns ∨ (allDigits ns).length ≠ 32 := by
  by_cases hempty : ns = []
  · subst hempty
    exact iff_of_true (by decide) (Or.inr (Or.inr (by decide)))
  have hne : byteList ns ≠ [] := byteList_ne_nil hempty
  have hstrip : strip (byteList ns) = byteList ns :=
    strip_of_forall fun c hc => (byteList_plain hc).1
  rw [parseAesKey_eq hstrip hne, readKey, keyFromDelimitedHex_byteList, keyFromSignedBytes_byteList,
    keyFromBase64_byteList, Option.or_none]
  unfold expectedKey
  by_cases htwo : TwoDigits ns
  · rw [if_pos htwo, if_pos htwo]
    exact iff_of_true rfl (Or.inl htwo)
  rw [if_neg htwo, if_neg htwo]
  by_cases hbytes : Bytes16 ns
  · rw [if_pos hbytes, if_pos hbytes]
    exact iff_of_true rfl (Or.inr (Or.inl hbytes))
  rw [if_neg hbytes, if_neg hbytes, Option.none_or, Option.none_or]
  have hread := keyFromHex_byteList ns
  cases hkey : keyFromHex (byteList ns) with
  | none =>
    rw [hkey] at hread
    refine iff_of_true rfl (Or.inr (Or.inr fun h => ?_))
    exact absurd (hread.mpr h) (by simp)
  | some key =>
    rw [hkey] at hread
    refine iff_of_false (by simp) ?_
    rintro (h | h | h)
    · exact htwo h
    · exact hbytes h
    · exact h (hread.mp rfl)

/-- 32 numbers of one digit. -/
def ones : List ℤ := List.replicate 32 1

/-- **A list of the wrong length is read as a key of 16 bytes 0x11.** -/
theorem ones_misread : ¬ ∀ ns : List ℤ,
    parseAesKey (String.ofList (byteList ns)) = expectedKey ns := by
  intro hall
  have hkey : parseAesKey (String.ofList (byteList ones)) = .ok (List.replicate 16 0x11) := by
    decide +kernel
  have hexpected : expectedKey ones = .error .valueError := by decide +kernel
  have h := hall ones
  rw [hkey, hexpected] at h
  cases h

end TTLockConnect.Ble.ByteList
