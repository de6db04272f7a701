import TTLockConnect.Numbers.Places
import TTLockConnect.Text
import Mathlib.Data.List.TakeWhile
import Mathlib.Tactic.IntervalCases
import Mathlib.Tactic.SplitIfs

/-! # Texts that are written and read again

What `strip`, `int`, `bytes.fromhex` and `base64.b64decode` make of the texts that `str`, `hex` and
`base64.b64encode` write, and which texts they refuse. -/

namespace TTLockConnect.Text.Readings

open TTLockConnect.Text TTLockConnect.Numbers.Places

/-! ### Whitespace -/

/-- A text that neither begins nor ends with whitespace. -/
structure Trimmed (cs : List Char) : Prop where
  head : ∀ c ∈ cs.head?, isSpace c = false
  last : ∀ c ∈ cs.getLast?, isSpace c = false

theorem dropWhile_of_head {cs : List Char} (h : ∀ c ∈ cs.head?, isSpace c = false) :
    cs.dropWhile isSpace = cs := by
  cases cs with
  | nil => rfl
  | cons c cs => exact List.dropWhile_cons_of_neg (by simp [h c rfl])

theorem dropWhile_spaces {spaces : List Char} (cs : List Char) (h : ∀ c ∈ spaces, isSpace c = true) :
    (spaces ++ cs).dropWhile isSpace = cs.dropWhile isSpace := List.dropWhile_append_of_pos h

/-- **The whitespace around a text is stripped.** -/
theorem strip_pad {before cs behind : List Char} (hbefore : ∀ c ∈ before, isSpace c = true)
    (hcs : Trimmed cs) (hbehind : ∀ c ∈ behind, isSpace c = true) :
    strip (before ++ cs ++ behind) = cs := by
  unfold strip stripBy
  rw [List.append_assoc, dropWhile_spaces _ hbefore]
  cases cs with
  | nil =>
    have hnil : behind.dropWhile isSpace = [] := List.dropWhile_eq_nil_iff.mpr hbehind
    rw [List.nil_append, hnil]
    rfl
  | cons c cs =>
    have hfront : (c :: cs ++ behind).dropWhile isSpace = c :: cs ++ behind :=
      dropWhile_of_head hcs.head
    have hback : ∀ c ∈ behind.reverse, isSpace c = true := by
      intro c hc
      exact hbehind c (List.mem_reverse.mp hc)
    have hrest : ((c :: cs).reverse).dropWhile isSpace = (c :: cs).reverse := by
      apply dropWhile_of_head
      rw [List.head?_reverse]
      exact hcs.last
    rw [hfront, List.reverse_append, dropWhile_spaces _ hback, hrest, List.reverse_reverse]

/-- A text without whitespace. -/
theorem trimmed_of_forall {cs : List Char} (h : ∀ c ∈ cs, isSpace c = false) : Trimmed cs :=
  ⟨fun c hc => h c (List.mem_of_head? hc), fun c hc => h c (List.mem_of_getLast? hc)⟩

theorem stripBy_of_forall {p : Char → Bool} {cs : List Char} (h : ∀ c ∈ cs, p c = false) :
    stripBy p cs = cs := by
  have hkept : ∀ cs : List Char, (∀ c ∈ cs, p c = false) → cs.dropWhile p = cs := by
    intro cs h
    cases cs with
    | nil => rfl
    | cons c cs => exact List.dropWhile_cons_of_neg (by simp [h c List.mem_cons_self])
  unfold stripBy
  rw [hkept cs h, hkept cs.reverse fun c hc => h c (List.mem_reverse.mp hc), List.reverse_reverse]

theorem strip_of_forall {cs : List Char} (h : ∀ c ∈ cs, isSpace c = false) : strip cs = cs :=
  stripBy_of_forall h

theorem isSpace_of_isAsciiSpace {c : Char} (h : isAsciiSpace c = true) : isSpace c = true := by
  simp [isAsciiSpace] at h
  simp [isSpace]
  omega

/-- An ASCII text without whitespace is what `int` reads. -/
theorem intText_of_forall {cs : List Char} (h : ∀ c ∈ cs, c.toNat < 127 ∧ isSpace c = false) :
    intText cs = cs := by
  have hascii : cs.map asciiDigit = cs := by
    have hkept : ∀ c ∈ cs, asciiDigit c = id c := fun c hc => if_pos (h c hc).1
    rw [List.map_congr_left hkept, List.map_id]
  unfold intText
  rw [hascii]
  refine stripBy_of_forall fun c hc => ?_
  have hplain : isSpace c = false := (h c hc).2
  cases hspace : isAsciiSpace c
  · rfl
  · rw [isSpace_of_isAsciiSpace hspace] at hplain
    cases hplain

/-! ### Characters -/

/-- The decimal digits. -/
theorem exists_digitChar {c : Char} (h : c.isDigit = true) : ∃ d < 10, c = Nat.digitChar d := by
  obtain ⟨hlow, hhigh⟩ := Char.isDigit_iff_toNat.mp h
  have hlow' : 48 ≤ c.toNat := hlow
  have hhigh' : c.toNat ≤ 57 := hhigh
  refine ⟨c.toNat - 48, by omega, ?_⟩
  have htoNat : (Nat.digitChar (c.toNat - 48)).toNat = c.toNat := by
    rw [Nat.toNat_digitChar_of_lt_ten (by omega)]
    omega
  exact (Char.toNat_inj.mp htoNat).symm

theorem hexDigit_digitChar {d : ℕ} (hd : d < 10) : hexDigit (Nat.digitChar d) = some d := by
  interval_cases d <;> rfl

theorem digit_digitChar {d : ℕ} (hd : d < 10) : digit 10 (Nat.digitChar d) = some d := by
  rw [digit, hexDigit_digitChar hd]
  exact if_pos (decide_eq_true hd)

/-- A decimal digit is no whitespace, sign, separator or underscore. -/
theorem isDigit_plain {c : Char} (h : c.isDigit = true) : isSpace c = false ∧ c ≠ '-' ∧ c ≠ '+' ∧
    c ≠ '_' ∧ c ≠ ',' ∧ c ≠ ':' ∧ c ≠ '.' ∧ c ≠ '=' := by
  obtain ⟨d, hd, rfl⟩ := exists_digitChar h
  interval_cases d <;> decide

/-! ### Decimal numbers -/

/-- `str(n)`. -/
def str (n : ℤ) : List Char :=
  if n < 0 then '-' :: Nat.toDigits 10 n.natAbs else Nat.toDigits 10 n.natAbs

theorem isDigit_of_mem_toDigits {n : ℕ} {c : Char} (h : c ∈ Nat.toDigits 10 n) : c.isDigit = true :=
  Nat.isDigit_of_mem_toDigits (by decide) (by decide) h

theorem digits_of_forall {cs : List Char} (h : ∀ c ∈ cs, c.isDigit = true) (n : ℕ) (sep : Bool)
    (hsep : sep = true ∨ cs ≠ []) : digits 10 cs n sep = some (Nat.ofDigitChars 10 cs n) := by
  induction cs generalizing n sep with
  | nil =>
    obtain rfl : sep = true := hsep.resolve_right (by simp)
    rw [digits, if_pos rfl, Nat.ofDigitChars_nil]
  | cons c cs ih =>
    have hc : c.isDigit = true := h c List.mem_cons_self
    obtain ⟨-, -, -, hunderscore, -⟩ := isDigit_plain hc
    obtain ⟨d, hd, rfl⟩ := exists_digitChar hc
    have hstep : digits 10 (Nat.digitChar d :: cs) n sep =
        (digit 10 (Nat.digitChar d)).bind fun d => digits 10 cs (10 * n + d) true := by
      rw [digits]
      exact hunderscore
    rw [hstep, digit_digitChar hd, Option.bind_some, Nat.ofDigitChars_cons_digitChar_of_lt_ten hd]
    exact ih (fun c hc => h c (List.mem_cons_of_mem _ hc)) _ true (Or.inl rfl)

/-- The digits of a number, as far as `int` reads so many. -/
theorem decBody_toDigits (n : ℕ) : decBody (Nat.toDigits 10 n) =
    if maxStrDigits < (Nat.toDigits 10 n).length then none else some n := by
  have hfilter : (Nat.toDigits 10 n).filter (· != '_') = Nat.toDigits 10 n := by
    refine List.filter_eq_self.mpr fun c hc => ?_
    have hne : c ≠ '_' := (isDigit_plain (isDigit_of_mem_toDigits hc)).2.2.2.1
    simpa using hne
  unfold decBody
  rw [hfilter, digits_of_forall (fun c hc => isDigit_of_mem_toDigits hc) 0 false
    (Or.inr Nat.toDigits_ne_nil), Nat.ofDigitChars_toDigits (by decide) (by decide)]

/-- What `str` writes: digits, behind a minus sign if the number is negative. -/
theorem mem_str {n : ℤ} {c : Char} (h : c ∈ str n) : c.isDigit = true ∨ (c = '-' ∧ n < 0) := by
  unfold str at h
  split_ifs at h with hn
  · rcases List.mem_cons.mp h with rfl | h
    · exact Or.inr ⟨rfl, hn⟩
    · exact Or.inl (isDigit_of_mem_toDigits h)
  · exact Or.inl (isDigit_of_mem_toDigits h)

theorem str_ascii {n : ℤ} : ∀ c ∈ str n, c.toNat < 127 ∧ isSpace c = false := by
  intro c hc
  rcases mem_str hc with h | ⟨rfl, -⟩
  · have hhigh : c.toNat ≤ 57 := (Char.isDigit_iff_toNat.mp h).2
    exact ⟨by omega, (isDigit_plain h).1⟩
  · decide

/-- A text without a sign. -/
theorem signed_of_head {body : List Char → Option ℕ} {cs : List Char} (hminus : cs.head? ≠ some '-')
    (hplus : cs.head? ≠ some '+') : signed body cs = (body cs).map Int.ofNat := by
  unfold signed
  split
  · exact absurd rfl hminus
  · exact absurd rfl hplus
  · rfl

theorem signed_of_digit {body : List Char → Option ℕ} {c : Char} {cs : List Char}
    (hc : c.isDigit = true) : signed body (c :: cs) = (body (c :: cs)).map Int.ofNat := by
  obtain ⟨-, hminus, hplus, -⟩ := isDigit_plain hc
  exact signed_of_head (fun h => hminus (Option.some.inj h)) fun h => hplus (Option.some.inj h)

theorem signed_toDigits {body : List Char → Option ℕ} (n : ℕ) :
    signed body (Nat.toDigits 10 n) = (body (Nat.toDigits 10 n)).map Int.ofNat := by
  obtain ⟨c, cs, hcs⟩ := List.exists_cons_of_ne_nil (Nat.toDigits_ne_nil (n := n) (b := 10))
  have hc : c.isDigit = true := by
    apply isDigit_of_mem_toDigits
    rw [hcs]
    exact List.mem_cons_self
  rw [hcs]
  exact signed_of_digit hc

/-- `int(str(n))`, as far as `int` reads so many digits. -/
theorem intDec_str (n : ℤ) : intDec (str n) =
    if maxStrDigits < (Nat.toDigits 10 n.natAbs).length then .error .valueError else .ok n := by
  have hbody : signed decBody (str n) =
      if maxStrDigits < (Nat.toDigits 10 n.natAbs).length then none else some n := by
    unfold str
    split_ifs with hn hlong hlong
    · simp [signed, decBody_toDigits, hlong]
    · have hneg : -(n.natAbs : ℤ) = n := by omega
      simp only [signed, decBody_toDigits, if_neg hlong]
      exact congrArg some hneg
    · simp [signed_toDigits, decBody_toDigits, hlong]
    · have habs : (n.natAbs : ℤ) = n := by omega
      simp only [signed_toDigits, decBody_toDigits, if_neg hlong]
      exact congrArg some habs
  unfold intDec
  rw [intText_of_forall str_ascii, hbody]
  split_ifs <;> rfl

/-- A number that `int` does not read back is far from a byte. -/
theorem intDec_str_of_byte {n : ℤ} (h : -128 ≤ n ∧ n ≤ 255) : intDec (str n) = .ok n := by
  have hshort : (Nat.toDigits 10 n.natAbs).length ≤ 3 := by
    rw [Nat.length_toDigits_le_iff (by decide) (by decide)]
    omega
  have hmax : ¬ maxStrDigits < (Nat.toDigits 10 n.natAbs).length := by
    unfold maxStrDigits
    omega
  rw [intDec_str, if_neg hmax]

theorem str_ne_nil {n : ℤ} : str n ≠ [] := by
  unfold str
  split_ifs
  · exact List.cons_ne_nil _ _
  · exact Nat.toDigits_ne_nil

/-- Two digits. -/
theorem length_str_eq_two {n : ℤ} : (str n).length = 2 ↔ (10 ≤ n ∧ n ≤ 99) ∨ (-9 ≤ n ∧ n ≤ -1) := by
  have hone : (Nat.toDigits 10 n.natAbs).length ≤ 1 ↔ n.natAbs < 10 ^ 1 :=
    Nat.length_toDigits_le_iff (by decide) (by decide)
  have htwo : (Nat.toDigits 10 n.natAbs).length ≤ 2 ↔ n.natAbs < 10 ^ 2 :=
    Nat.length_toDigits_le_iff (by decide) (by decide)
  have hpos : 0 < (Nat.toDigits 10 n.natAbs).length := Nat.length_toDigits_pos
  unfold str
  split_ifs with hn
  · rw [List.length_cons]
    omega
  · omega

/-- Between -9 and -1 it is written with a minus sign. -/
theorem minus_mem_str {n : ℤ} : '-' ∈ str n ↔ n < 0 := by
  constructor
  · intro h
    rcases mem_str h with h | ⟨-, h⟩
    · exact absurd h (by decide)
    · exact h
  · intro h
    unfold str
    rw [if_pos h]
    exact List.mem_cons_self

/-- Two numbers are written alike only if they are equal. -/
theorem str_inj {m n : ℤ} : str m = str n ↔ m = n := by
  refine ⟨fun h => ?_, fun h => h ▸ rfl⟩
  have hsign : m < 0 ↔ n < 0 := by rw [← minus_mem_str, ← minus_mem_str, h]
  have hdigits : Nat.toDigits 10 m.natAbs = Nat.toDigits 10 n.natAbs := by
    unfold str at h
    split_ifs at h with hm hn hn
    · exact (List.cons.inj h).2
    · exact absurd (hsign.mp hm) hn
    · exact absurd (hsign.mpr hn) hm
    · exact h
  have habs : m.natAbs = n.natAbs := by
    have hvalue := congrArg (fun cs => Nat.ofDigitChars 10 cs 0) hdigits
    simpa only [Nat.ofDigitChars_toDigits (by decide : 1 < 10) (by decide : 10 ≤ 10)] using hvalue
  omega

/-! ### Hexadecimal digits -/

/-- The two digits of a byte. -/
def nibbles (b : BitVec 8) : List ℕ := [b.toNat / 16, b.toNat % 16]

/-- A text of hexadecimal digits, in either letter case, that writes these bytes. -/
def IsHex (bs : List (BitVec 8)) (cs : List Char) : Prop :=
  cs.map hexDigit = (bs.flatMap nibbles).map some

theorem isHex_cons {b : BitVec 8} {bs : List (BitVec 8)} {cs : List Char} : IsHex (b :: bs) cs ↔
    ∃ c d rest, cs = c :: d :: rest ∧ hexDigit c = some (b.toNat / 16) ∧
      hexDigit d = some (b.toNat % 16) ∧ IsHex bs rest := by
  constructor
  · intro h
    rcases cs with _ | ⟨c, _ | ⟨d, rest⟩⟩
    · simp [IsHex, nibbles] at h
    · simp [IsHex, nibbles] at h
    · simp only [IsHex, nibbles, List.flatMap_cons, List.map_cons, List.cons_append,
        List.nil_append, List.cons.injEq] at h
      exact ⟨c, d, rest, rfl, h.1, h.2.1, h.2.2⟩
  · rintro ⟨c, d, rest, rfl, hc, hd, hrest⟩
    simp only [IsHex, nibbles, List.flatMap_cons, List.map_cons, List.cons_append,
      List.nil_append, hc, hd]
    exact congrArg _ (congrArg _ hrest)

theorem isHex_append {bs bs' : List (BitVec 8)} {cs cs' : List Char} (h : IsHex bs cs)
    (h' : IsHex bs' cs') : IsHex (bs ++ bs') (cs ++ cs') := by
  unfold IsHex at *
  rw [List.map_append, h, h', List.flatMap_append, List.map_append]

theorem toNat_mono {a b : Char} (h : a ≤ b) : a.toNat ≤ b.toNat := UInt32.le_iff_toNat_le.mp h

theorem hexDigit_range {c : Char} (h : (hexDigit c).isSome = true) :
    48 ≤ c.toNat ∧ c.toNat ≤ 102 := by
  unfold hexDigit at h
  split_ifs at h with hdigit hlower hupper
  · exact ⟨toNat_mono hdigit.1, (toNat_mono hdigit.2).trans (by decide)⟩
  · exact ⟨le_trans (by decide) (toNat_mono hlower.1), toNat_mono hlower.2⟩
  · exact ⟨le_trans (by decide) (toNat_mono hupper.1), (toNat_mono hupper.2).trans (by decide)⟩
  · cases h

/-- What is no hexadecimal digit is not one of some. -/
theorem ne_of_hexDigit {c x : Char} (hc : (hexDigit c).isSome = true) (hx : hexDigit x = none) :
    c ≠ x := by
  rintro rfl
  rw [hx] at hc
  cases hc

/-- A hexadecimal digit is no whitespace, sign or separator. -/
theorem hexDigit_plain {c : Char} (h : (hexDigit c).isSome = true) :
    isSpace c = false ∧ isAsciiSpace c = false ∧ c ≠ '-' ∧ c ≠ ',' ∧ c ≠ ':' ∧ c ≠ '.' := by
  obtain ⟨hlow, hhigh⟩ := hexDigit_range h
  refine ⟨?_, ?_, ?_, ?_, ?_, ?_⟩
  · simp [isSpace]
    omega
  · simp [isAsciiSpace]
    omega
  · exact ne_of_hexDigit h (by decide)
  · exact ne_of_hexDigit h (by decide)
  · exact ne_of_hexDigit h (by decide)
  · exact ne_of_hexDigit h (by decide)

theorem isHex_plain {bs : List (BitVec 8)} {cs : List Char} (h : IsHex bs cs) :
    ∀ c ∈ cs, (hexDigit c).isSome = true := by
  intro c hc
  have hmem : hexDigit c ∈ (bs.flatMap nibbles).map some := by
    rw [← h]
    exact List.mem_map_of_mem hc
  obtain ⟨d, -, hd⟩ := List.mem_map.mp hmem
  rw [← hd]
  rfl

theorem byte_of_nibbles (b : BitVec 8) :
    BitVec.ofNat 8 (16 * (b.toNat / 16) + b.toNat % 16) = b := by
  rw [Nat.div_add_mod, BitVec.ofNat_toNat, BitVec.setWidth_eq]

/-- **Hexadecimal digits are read back**, with what stands behind them. -/
theorem fromHex_append {bs : List (BitVec 8)} {cs : List Char} (h : IsHex bs cs)
    (rest : List Char) : fromHex (cs ++ rest) = (fromHex rest).map (bs ++ ·) := by
  induction bs generalizing cs with
  | nil =>
    obtain rfl : cs = [] := List.map_eq_nil_iff.mp h
    simp
  | cons b bs ih =>
    obtain ⟨c, d, digits, rfl, hc, hd, hdigits⟩ := isHex_cons.mp h
    have hspace : isAsciiSpace c = false := (hexDigit_plain (by rw [hc]; rfl)).2.1
    rw [List.cons_append, List.cons_append, fromHex, hspace]
    cases hrest : fromHex rest <;> simp [hc, hd, ih hdigits, hrest, byte_of_nibbles]

theorem fromHex_of_isHex {bs : List (BitVec 8)} {cs : List Char} (h : IsHex bs cs) :
    fromHex cs = some bs := by
  have happend := fromHex_append h []
  rw [List.append_nil] at happend
  rw [happend, fromHex, Option.map_some, List.append_nil]

theorem fromHex_space_cons {c : Char} (hc : isAsciiSpace c = true) (cs : List Char) :
    fromHex (c :: cs) = fromHex cs := by
  cases cs with
  | nil => simp [fromHex, hc]
  | cons d cs => rw [fromHex, if_pos hc]

/-- A text with anything else is refused. -/
theorem fromHex_none {cs : List Char} {c : Char} (hc : c ∈ cs) (hdigit : hexDigit c = none)
    (hspace : isAsciiSpace c = false) : fromHex cs = none := by
  induction cs using fromHex.induct with
  | case1 => cases hc
  | case2 c' h =>
    rw [List.mem_singleton.mp hc, h] at hspace
    cases hspace
  | case3 c' h => simp [fromHex, h]
  | case4 c' d cs h ih =>
    rw [fromHex, if_pos h]
    refine ih ((List.mem_cons.mp hc).resolve_left ?_)
    rintro rfl
    rw [h] at hspace
    cases hspace
  | case5 c' d cs h ih =>
    rw [fromHex, if_neg h]
    rcases List.mem_cons.mp hc with rfl | hc
    · simp [hdigit]
    rcases List.mem_cons.mp hc with rfl | hc
    · simp [hdigit]
    · simp [ih hc]

/-- An even number of digits is read, two for a byte; an odd number is not. -/
theorem fromHex_length {cs : List Char} (h : ∀ c ∈ cs, (hexDigit c).isSome = true) :
    (fromHex cs).map List.length = if cs.length % 2 = 0 then some (cs.length / 2) else none := by
  induction cs using fromHex.induct with
  | case1 => rfl
  | case2 c hspace =>
    have hplain := (hexDigit_plain (h c List.mem_cons_self)).2.1
    rw [hspace] at hplain
    cases hplain
  | case3 c hspace => simp [fromHex, hspace]
  | case4 c d cs hspace ih =>
    have hplain := (hexDigit_plain (h c List.mem_cons_self)).2.1
    rw [hspace] at hplain
    cases hplain
  | case5 c d cs hspace ih =>
    obtain ⟨hi, hhi⟩ := Option.isSome_iff_exists.mp (h c List.mem_cons_self)
    obtain ⟨lo, hlo⟩ := Option.isSome_iff_exists.mp (h d (List.mem_cons_of_mem _ List.mem_cons_self))
    have hrest := ih fun x hx => h x (List.mem_cons_of_mem _ (List.mem_cons_of_mem _ hx))
    have hlength : (fromHex (c :: d :: cs)).map List.length =
        ((fromHex cs).map List.length).map (· + 1) := by
      rw [fromHex, if_neg hspace]
      cases hcs : fromHex cs <;> simp [hhi, hlo]
    rw [hlength, hrest]
    simp only [List.length_cons]
    split_ifs with heven heven' heven'
    · rw [Option.map_some]
      congr 1
      omega
    · omega
    · omega
    · rfl

/-! ### Hexadecimal numbers -/

theorem hexDigit_lt {c : Char} {d : ℕ} (h : hexDigit c = some d) : d < 16 := by
  have hnine : '9'.toNat = '0'.toNat + 9 := rfl
  have hf : 'f'.toNat = 'a'.toNat + 5 := rfl
  have hF : 'F'.toNat = 'A'.toNat + 5 := rfl
  unfold hexDigit at h
  split_ifs at h with hdigit hlower hupper
  · have htop := toNat_mono hdigit.2
    cases h
    omega
  · have htop := toNat_mono hlower.2
    cases h
    omega
  · have htop := toNat_mono hupper.2
    cases h
    omega

/-- **An even number of digits writes bytes.** -/
theorem exists_isHex : ∀ {cs : List Char}, (∀ c ∈ cs, (hexDigit c).isSome = true) →
    cs.length % 2 = 0 → ∃ bs, IsHex bs cs ∧ 2 * bs.length = cs.length
  | [], _, _ => ⟨[], rfl, rfl⟩
  | [_], _, heven => by cases heven
  | c :: d :: cs, h, heven => by
    obtain ⟨hi, hhi⟩ := Option.isSome_iff_exists.mp (h c List.mem_cons_self)
    obtain ⟨lo, hlo⟩ := Option.isSome_iff_exists.mp (h d (List.mem_cons_of_mem _ List.mem_cons_self))
    obtain ⟨bs, hbs, hlen⟩ := exists_isHex
      (fun x hx => h x (List.mem_cons_of_mem _ (List.mem_cons_of_mem _ hx)))
      (by rw [List.length_cons, List.length_cons] at heven; omega)
    have hhi' := hexDigit_lt hhi
    have hlo' := hexDigit_lt hlo
    have hbyte : (BitVec.ofNat 8 (16 * hi + lo)).toNat = 16 * hi + lo := by
      rw [BitVec.toNat_ofNat]
      omega
    refine ⟨BitVec.ofNat 8 (16 * hi + lo) :: bs,
      isHex_cons.mpr ⟨c, d, cs, rfl, ?_, ?_, hbs⟩, ?_⟩
    · rw [hhi, hbyte]
      congr 1
      omega
    · rw [hlo, hbyte]
      congr 1
      omega
    · rw [List.length_cons, List.length_cons, List.length_cons]
      omega

/-- Digits are read to the number they stand for. -/
theorem digits_hex {cs : List Char} {ds : List ℕ} (h : cs.map hexDigit = ds.map some) (n : ℕ)
    (sep : Bool) (hsep : sep = true ∨ cs ≠ []) : digits 16 cs n sep = some (places 16 ds n) := by
  induction cs generalizing ds n sep with
  | nil =>
    obtain rfl : ds = [] := List.map_eq_nil_iff.mp h.symm
    obtain rfl : sep = true := hsep.resolve_right (by simp)
    rw [digits, if_pos rfl]
    rfl
  | cons c cs ih =>
    obtain ⟨d, ds, rfl⟩ := List.exists_cons_of_ne_nil (l := ds) (by rintro rfl; cases h)
    obtain ⟨hd, hds⟩ := List.cons.inj h
    have hunderscore : c ≠ '_' := ne_of_hexDigit (by rw [hd]; rfl) (by decide)
    have hdigit : digit 16 c = some d := by
      rw [digit, hd, Option.filter_some, if_pos (decide_eq_true (hexDigit_lt hd))]
    have hstep : digits 16 (c :: cs) n sep =
        (digit 16 c).bind fun d => digits 16 cs (16 * n + d) true := by
      rw [digits]
      exact hunderscore
    rw [hstep, hdigit, Option.bind_some]
    exact ih hds _ true (Or.inl rfl)

theorem hexDigit_ascii {c : Char} (h : (hexDigit c).isSome = true) :
    c.toNat < 127 ∧ isSpace c = false :=
  ⟨lt_of_le_of_lt (hexDigit_range h).2 (by decide), (hexDigit_plain h).1⟩

/-- Digits alone have no prefix. -/
theorem hexBody_of_forall {cs : List Char} (h : ∀ c ∈ cs, (hexDigit c).isSome = true) :
    hexBody cs = digits 16 cs 0 false := by
  have hx : 'x' ∉ cs := fun hmem => ne_of_hexDigit (h _ hmem) (by decide) rfl
  have hX : 'X' ∉ cs := fun hmem => ne_of_hexDigit (h _ hmem) (by decide) rfl
  unfold hexBody
  split
  · simp at hx
  · simp at hX
  · simp at hx
  · simp at hX
  · rfl

theorem signed_of_forall {body : List Char → Option ℕ} {cs : List Char}
    (h : ∀ c ∈ cs, (hexDigit c).isSome = true) : signed body cs = (body cs).map Int.ofNat := by
  refine signed_of_head ?_ ?_
  · exact fun hhead => ne_of_hexDigit (h _ (List.mem_of_head? hhead)) (by decide) rfl
  · exact fun hhead => ne_of_hexDigit (h _ (List.mem_of_head? hhead)) (by decide) rfl

theorem places_nibbles (bs : List (BitVec 8)) :
    places 16 (bs.flatMap nibbles) 0 = places 256 (bs.map BitVec.toNat) 0 := by
  have hvalue : (fun b : BitVec 8 => places 16 (nibbles b) 0) = BitVec.toNat := by
    funext b
    change 16 * (16 * 0 + b.toNat / 16) + b.toNat % 16 = b.toNat
    omega
  have hbase : 16 ^ 2 = 256 := rfl
  rw [places_flatMap (k := 2) (fun _ => rfl), hvalue, hbase]

/-- **`int(value, 16)` of the text that writes some bytes.** -/
theorem intHex_of_isHex {value : String} {bs : List (BitVec 8)} (h : IsHex bs value.toList)
    (hne : bs ≠ []) : intHex value = .ok (places 256 (bs.map BitVec.toNat) 0 : ℕ) := by
  have hplain := isHex_plain h
  have hnil : value.toList ≠ [] := by
    intro hnil
    obtain ⟨b, bs, rfl⟩ := List.exists_cons_of_ne_nil hne
    rw [hnil] at h
    cases h
  unfold intHex
  rw [intText_of_forall fun c hc => hexDigit_ascii (hplain c hc), signed_of_forall hplain,
    hexBody_of_forall hplain, digits_hex h 0 false (Or.inr hnil), places_nibbles]
  rfl

/-! ### Base64 -/

/-- The alphabet. -/
def b64Char (n : ℕ) : Char :=
  if n < 26 then Char.ofNat ('A'.toNat + n)
  else if n < 52 then Char.ofNat ('a'.toNat + (n - 26))
  else if n < 62 then Char.ofNat ('0'.toNat + (n - 52))
  else if n = 62 then '+'
  else '/'

/-- The bits of some bytes, six at a time. -/
def sextets : List (BitVec 8) → List ℕ
  | a :: b :: c :: rest =>
    a.toNat / 4 :: (16 * (a.toNat % 4) + b.toNat / 16) :: (4 * (b.toNat % 16) + c.toNat / 64) ::
      (c.toNat % 64) :: sextets rest
  | [a, b] => [a.toNat / 4, 16 * (a.toNat % 4) + b.toNat / 16, 4 * (b.toNat % 16)]
  | [a] => [a.toNat / 4, 16 * (a.toNat % 4)]
  | [] => []

/-- `base64.b64encode`. -/
def b64encode (bs : List (BitVec 8)) : List Char :=
  (sextets bs).map b64Char ++ List.replicate ((3 - bs.length % 3) % 3) '='

theorem b64Digit_b64Char : ∀ n < 64, b64Digit (b64Char n) = some n := by decide

theorem sextets_lt (bs : List (BitVec 8)) : ∀ n ∈ sextets bs, n < 64 := by
  induction bs using sextets.induct with
  | case1 a b c rest ih =>
    have ha : a.toNat < 256 := a.isLt
    have hb : b.toNat < 256 := b.isLt
    have hc : c.toNat < 256 := c.isLt
    simp only [sextets, List.forall_mem_cons]
    exact ⟨by omega, by omega, by omega, by omega, ih⟩
  | case2 a b =>
    have ha : a.toNat < 256 := a.isLt
    have hb : b.toNat < 256 := b.isLt
    simp only [sextets, List.forall_mem_cons]
    exact ⟨by omega, by omega, by omega, by simp⟩
  | case3 a =>
    have ha : a.toNat < 256 := a.isLt
    simp only [sextets, List.forall_mem_cons]
    exact ⟨by omega, by omega, by simp⟩
  | case4 => simp [sextets]

theorem byte_eq {n : ℕ} {b : BitVec 8} (h : n % 256 = b.toNat) : BitVec.ofNat 8 n = b := by
  apply BitVec.eq_of_toNat_eq
  rw [BitVec.toNat_ofNat]
  exact h

theorem b64Bytes_sextets (bs : List (BitVec 8)) : b64Bytes (sextets bs) = bs := by
  induction bs using sextets.induct with
  | case1 a b c rest ih =>
    have ha : a.toNat < 256 := a.isLt
    have hb : b.toNat < 256 := b.isLt
    have hc : c.toNat < 256 := c.isLt
    rw [sextets, b64Bytes, ih, byte_eq (b := a) (by omega), byte_eq (b := b) (by omega),
      byte_eq (b := c) (by omega)]
  | case2 a b =>
    have ha : a.toNat < 256 := a.isLt
    have hb : b.toNat < 256 := b.isLt
    rw [sextets, b64Bytes, byte_eq (b := a) (by omega), byte_eq (b := b) (by omega)]
  | case3 a =>
    have ha : a.toNat < 256 := a.isLt
    rw [sextets, b64Bytes, byte_eq (b := a) (by omega)]
  | case4 => rfl

theorem b64Padding_sextets (bs : List (BitVec 8)) : b64Padding (sextets bs).length =
    some (List.replicate ((3 - bs.length % 3) % 3) '=') := by
  induction bs using sextets.induct with
  | case1 a b c rest ih =>
    have hlength : (sextets (a :: b :: c :: rest)).length = (sextets rest).length + 4 := rfl
    have hmod : (a :: b :: c :: rest).length % 3 = rest.length % 3 := by
      simp only [List.length_cons]
      omega
    rw [hlength, hmod, ← ih]
    unfold b64Padding
    rw [Nat.add_mod_right]
  | case2 a b => rfl
  | case3 a => rfl
  | case4 => rfl

theorem takeWhile_b64encode (bs : List (BitVec 8)) :
    (b64encode bs).takeWhile (fun c => (b64Digit c).isSome) = (sextets bs).map b64Char := by
  have hdigits : ∀ c ∈ (sextets bs).map b64Char, (b64Digit c).isSome = true := by
    intro c hc
    obtain ⟨n, hn, rfl⟩ := List.mem_map.mp hc
    rw [b64Digit_b64Char n (sextets_lt bs n hn)]
    rfl
  unfold b64encode
  rw [List.takeWhile_append_of_pos hdigits]
  have hpadding : ∀ k, (List.replicate k '=').takeWhile (fun c => (b64Digit c).isSome) = [] := by
    intro k
    cases k with
    | zero => rfl
    | succ k => rfl
  rw [hpadding, List.append_nil]

/-- **Base64 is read back.** -/
theorem b64decode_b64encode (bs : List (BitVec 8)) : b64decode (b64encode bs) = some bs := by
  have hdrop : (b64encode bs).drop ((sextets bs).map b64Char).length =
    List.replicate ((3 - bs.length % 3) % 3) '=' := List.drop_left
  have hvalues : ((sextets bs).map b64Char).filterMap b64Digit = sextets bs := by
    rw [List.filterMap_map]
    have hall : ∀ n ∈ sextets bs, (b64Digit ∘ b64Char) n = some n := by
      intro n hn
      exact b64Digit_b64Char n (sextets_lt bs n hn)
    rw [List.filterMap_congr hall, List.filterMap_some]
  unfold b64decode
  rw [takeWhile_b64encode]
  dsimp only
  rw [hdrop, hvalues, List.length_map, b64Padding_sextets, b64Bytes_sextets]
  exact if_pos rfl

theorem mem_b64encode {bs : List (BitVec 8)} {c : Char} (h : c ∈ b64encode bs) :
    (∃ n < 64, c = b64Char n) ∨ c = '=' := by
  rcases List.mem_append.mp h with h | h
  · obtain ⟨n, hn, rfl⟩ := List.mem_map.mp h
    exact Or.inl ⟨n, sextets_lt bs n hn, rfl⟩
  · exact Or.inr (List.eq_of_mem_replicate h)

theorem b64Char_plain : ∀ n < 64, isSpace (b64Char n) = false ∧ b64Char n ≠ '-' ∧
    b64Char n ≠ ',' ∧ b64Char n ≠ ':' ∧ b64Char n ≠ '.' := by decide

/-- Digits that need no padding stand for three bytes each four. -/
theorem length_b64Bytes {ds : List ℕ} (h : ds.length % 4 = 0) :
    (b64Bytes ds).length = 3 * (ds.length / 4) := by
  induction ds using b64Bytes.induct with
  | case1 a b c d rest ih =>
    have hlength : (a :: b :: c :: d :: rest).length = rest.length + 4 := rfl
    rw [hlength, Nat.add_mod_right] at h
    rw [b64Bytes, hlength]
    simp only [List.length_cons, ih h]
    omega
  | case2 a b c => simp at h
  | case3 a b => simp at h
  | case4 ds h4 h3 h2 =>
    rcases ds with _ | ⟨a, _ | ⟨b, _ | ⟨c, _ | ⟨d, rest⟩⟩⟩⟩
    · rfl
    · simp at h
    · exact absurd rfl (h2 a b)
    · exact absurd rfl (h3 a b c)
    · exact absurd rfl (h4 a b c d rest)

/-- Base64 of sixteen bytes has padding. -/
theorem b64decode_ne {cs : List Char} {key : List (BitVec 8)} (h : '=' ∉ cs)
    (hkey : b64decode cs = some key) : key.length ≠ 16 := by
  unfold b64decode at hkey
  dsimp only at hkey
  split_ifs at hkey with hpadding
  have hnone : ∀ c ∈ cs.drop (cs.takeWhile fun c => (b64Digit c).isSome).length, c ≠ '=' := by
    rintro c hc rfl
    exact h (List.mem_of_mem_drop hc)
  have hwhole : (cs.takeWhile fun c => (b64Digit c).isSome).length % 4 = 0 := by
    by_contra hpart
    unfold b64Padding at hpadding
    rw [if_neg hpart] at hpadding
    split_ifs at hpadding
    · rw [← Option.some.inj hpadding] at hnone
      exact hnone '=' List.mem_cons_self rfl
    · rw [← Option.some.inj hpadding] at hnone
      exact hnone '=' List.mem_cons_self rfl
  have hlength : ((cs.takeWhile fun c => (b64Digit c).isSome).filterMap b64Digit).length =
      (cs.takeWhile fun c => (b64Digit c).isSome).length := by
    rw [List.filterMap_length_eq_length]
    intro c hc
    have hdigit := List.mem_takeWhile_imp hc
    exact hdigit
  rw [← Option.some.inj hkey, length_b64Bytes (by rw [hlength]; exact hwhole)]
  omega

/-! ### Lists -/

theorem mem_intercalate {separator c : Char} {parts : List (List Char)}
    (h : c ∈ [separator].intercalate parts) : c = separator ∨ c ∈ parts.flatten := by
  induction parts with
  | nil => simp at h
  | cons part parts ih =>
    cases parts with
    | nil => exact Or.inr (by simpa using h)
    | cons part' parts =>
      rw [List.intercalate_cons_cons, List.append_assoc] at h
      rcases List.mem_append.mp h with h | h
      · exact Or.inr (List.mem_append_left _ h)
      rcases List.mem_append.mp h with h | h
      · exact Or.inl (List.mem_singleton.mp h)
      · exact (ih h).imp_right fun hmem => List.mem_append_right part hmem

/-- Joined texts begin and end like the first and the last of them. -/
theorem head_intercalate {separator c : Char} {parts : List (List Char)}
    (hne : ∀ part ∈ parts, part ≠ []) (h : c ∈ ([separator].intercalate parts).head?) :
    c ∈ parts.flatten := by
  rcases parts with _ | ⟨part, _ | ⟨part', parts⟩⟩
  · simp at h
  · rw [List.intercalate_singleton] at h
    simpa using List.mem_of_head? h
  · obtain ⟨d, part, rfl⟩ := List.exists_cons_of_ne_nil (hne part List.mem_cons_self)
    rw [List.intercalate_cons_cons] at h
    obtain rfl : d = c := by simpa using h
    simp

theorem last_intercalate {separator c : Char} {parts : List (List Char)}
    (hne : ∀ part ∈ parts, part ≠ []) (h : c ∈ ([separator].intercalate parts).getLast?) :
    c ∈ parts.flatten := by
  induction parts with
  | nil => simp at h
  | cons part parts ih =>
    cases parts with
    | nil =>
      rw [List.intercalate_singleton] at h
      simpa using List.mem_of_getLast? h
    | cons part' parts =>
      have hrest : [separator].intercalate (part' :: parts) ≠ [] := by
        have hpart' : part' ≠ [] := hne part' (by simp)
        cases parts with
        | nil => simpa using hpart'
        | cons part'' parts => simp [List.intercalate_cons_cons]
      rw [List.intercalate_cons_cons, List.getLast?_append_of_ne_nil _ hrest] at h
      have hmem := ih (fun x hx => hne x (List.mem_cons_of_mem _ hx)) h
      exact List.mem_append_right part hmem

/-- A character other than the separator stays in the parts. -/
theorem mem_flatten_splitOn {cs : List Char} {c separator : Char} (hc : c ∈ cs)
    (hne : c ≠ separator) : c ∈ (cs.splitOn separator).flatten := by
  have hsplit : [separator].intercalate (cs.splitOn separator) = cs :=
    List.intercalate_splitOn separator
  rw [← hsplit] at hc
  exact (mem_intercalate hc).resolve_left hne

end TTLockConnect.Text.Readings
