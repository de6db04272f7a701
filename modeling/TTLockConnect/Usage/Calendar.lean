import Mathlib.Algebra.Order.Ring.Nat
import Mathlib.Order.Monotone.Basic
import Mathlib.Order.Lattice

/-! # Dates and their ISO texts

The dates of the proleptic Gregorian calendar from year 1 to year 9999, the days before a date, the
numbers of days, and their texts `YYYY-MM-DD`. All numbers in a text have a fixed width, so that texts
are ordered like the dates they stand for, and start with the same eight characters exactly in the same
month. -/

namespace TTLockConnect.Usage.Calendar

/-! ### Numbers of a fixed width -/

/-- The last `width` decimal digits of a number. -/
def pad : (width : ℕ) → ℕ → List Char
  | 0, _ => []
  | width + 1, n => Nat.digitChar (n / 10 ^ width) :: pad width (n % 10 ^ width)

theorem length_pad : ∀ width n, (pad width n).length = width
  | 0, _ => rfl
  | width + 1, n => by rw [pad, List.length_cons, length_pad width]

theorem digitChar_lt_iff : ∀ x < 10, ∀ y < 10, Nat.digitChar x < Nat.digitChar y ↔ x < y := by
  decide

theorem digitChar_inj : ∀ x < 10, ∀ y < 10, Nat.digitChar x = Nat.digitChar y → x = y := by
  decide

theorem div_lt_ten {width n : ℕ} (h : n < 10 ^ (width + 1)) : n / 10 ^ width < 10 := by
  rw [Nat.div_lt_iff_lt_mul (Nat.pow_pos (by decide))]
  rwa [Nat.pow_succ'] at h

theorem lt_iff_div_mod (a b p : ℕ) : a < b ↔ a / p < b / p ∨ a / p = b / p ∧ a % p < b % p := by
  have ha := Nat.div_add_mod a p
  have hb := Nat.div_add_mod b p
  constructor
  · intro h
    rcases (Nat.div_le_div_right h.le : a / p ≤ b / p).lt_or_eq with hlt | heq
    · exact .inl hlt
    · rw [heq] at ha
      exact .inr ⟨heq, by omega⟩
  · rintro (hlt | ⟨heq, hlt⟩)
    · exact Nat.lt_of_div_lt_div hlt
    · rw [heq] at ha
      omega

/-- **Texts of one width are ordered like their numbers.** -/
theorem pad_lt_iff : ∀ {width a b : ℕ}, a < 10 ^ width → b < 10 ^ width →
    (pad width a < pad width b ↔ a < b)
  | 0, a, b, ha, hb => by
    rw [pow_zero, Nat.lt_one_iff] at ha hb
    subst ha hb
    exact iff_of_false (List.lt_irrefl _) (Nat.lt_irrefl _)
  | width + 1, a, b, ha, hb => by
    have hpos : 0 < 10 ^ width := Nat.pow_pos (by decide)
    have ih : pad width (a % 10 ^ width) < pad width (b % 10 ^ width) ↔
        a % 10 ^ width < b % 10 ^ width := pad_lt_iff (Nat.mod_lt a hpos) (Nat.mod_lt b hpos)
    have heq : Nat.digitChar (a / 10 ^ width) = Nat.digitChar (b / 10 ^ width) ↔
        a / 10 ^ width = b / 10 ^ width :=
      ⟨digitChar_inj _ (div_lt_ten ha) _ (div_lt_ten hb), congrArg _⟩
    rw [pad, pad, List.cons_lt_cons_iff, ih, heq,
      digitChar_lt_iff _ (div_lt_ten ha) _ (div_lt_ten hb), ← lt_iff_div_mod]

theorem pad_inj {width a b : ℕ} (ha : a < 10 ^ width) (hb : b < 10 ^ width)
    (h : pad width a = pad width b) : a = b := by
  rcases Nat.lt_trichotomy a b with hlt | heq | hlt
  · exact absurd ((pad_lt_iff ha hb).mpr hlt) (h ▸ List.lt_irrefl _)
  · exact heq
  · exact absurd ((pad_lt_iff hb ha).mpr hlt) (h ▸ List.lt_irrefl _)

/-- Behind parts of one length, the rest decides. -/
theorem append_lt_append_iff : ∀ {x y u v : List Char}, x.length = y.length →
    (x ++ u < y ++ v ↔ x < y ∨ x = y ∧ u < v)
  | [], [], u, v, _ => by
    rw [List.nil_append, List.nil_append]
    exact ⟨fun h => .inr ⟨rfl, h⟩, fun h => (h.resolve_left (List.lt_irrefl _)).2⟩
  | a :: x, b :: y, u, v, h => by
    have ih : x ++ u < y ++ v ↔ x < y ∨ x = y ∧ u < v :=
      append_lt_append_iff (Nat.succ.inj h)
    rw [List.cons_append, List.cons_append, List.cons_lt_cons_iff, List.cons_lt_cons_iff, ih,
      List.cons_eq_cons]
    tauto

/-! ### Dates -/

/-- `calendar.isleap`. -/
def isLeap (year : ℕ) : Bool := year % 4 = 0 ∧ (year % 100 ≠ 0 ∨ year % 400 = 0)

/-- The number of days of a month. -/
def daysInMonth (year month : ℕ) : ℕ :=
  if month = 2 then if isLeap year then 29 else 28
  else if month = 4 ∨ month = 6 ∨ month = 9 ∨ month = 11 then 30
  else 31

theorem daysInMonth_le (year month : ℕ) : 1 ≤ daysInMonth year month ∧ daysInMonth year month ≤ 31 := by
  unfold daysInMonth
  split_ifs <;> decide

/-- `datetime.date`. -/
structure Date where
  year : ℕ
  month : ℕ
  day : ℕ
  year_valid : 1 ≤ year ∧ year ≤ 9999
  month_valid : 1 ≤ month ∧ month ≤ 12
  day_valid : 1 ≤ day ∧ day ≤ daysInMonth year month
  deriving DecidableEq

namespace Date

/-- The number `YYYYMMDD`, by which dates are ordered. -/
def number (d : Date) : ℕ := d.year * 10000 + d.month * 100 + d.day

instance : LE Date := ⟨fun d e => d.number ≤ e.number⟩

theorem le_iff {d e : Date} : d ≤ e ↔ d.number ≤ e.number := Iff.rfl

theorem day_le (d : Date) : d.day ≤ 31 := d.day_valid.2.trans (daysInMonth_le _ _).2

/-- Both dates are in one month. -/
def SameMonth (d e : Date) : Prop := d.year = e.year ∧ d.month = e.month

instance (d e : Date) : Decidable (d.SameMonth e) := inferInstanceAs (Decidable (_ ∧ _))

theorem number_inj {d e : Date} (h : d.number = e.number) : d = e := by
  have hd := d.month_valid
  have he := e.month_valid
  have hd' := d.day_le
  have he' := e.day_le
  unfold number at h
  obtain ⟨y, m, n, _, _, _⟩ := d
  obtain ⟨y', m', n', _, _, _⟩ := e
  dsimp only at *
  obtain ⟨rfl, rfl, rfl⟩ : y = y' ∧ m = m' ∧ n = n' := by omega
  rfl

/-! ### Days before a date -/

/-- The day before, if there is one. -/
def prev (d : Date) : Option Date :=
  if hday : 1 < d.day then
    some { d with
      day := d.day - 1
      day_valid := ⟨Nat.le_sub_one_of_lt hday, (Nat.sub_le _ _).trans d.day_valid.2⟩ }
  else if hmonth : 1 < d.month then
    some
      { year := d.year
        month := d.month - 1
        day := daysInMonth d.year (d.month - 1)
        year_valid := d.year_valid
        month_valid := ⟨Nat.le_sub_one_of_lt hmonth, (Nat.sub_le _ _).trans d.month_valid.2⟩
        day_valid := ⟨(daysInMonth_le _ _).1, le_rfl⟩ }
  else if hyear : 1 < d.year then
    some
      { year := d.year - 1
        month := 12
        day := 31
        year_valid := ⟨Nat.le_sub_one_of_lt hyear, (Nat.sub_le _ _).trans d.year_valid.2⟩
        month_valid := by decide
        day_valid := ⟨by decide, le_rfl⟩ }
  else none

/-- `d - timedelta(days=n)`; there is nothing in front of year 1. -/
def minusDays : ℕ → Date → Option Date
  | 0, d => some d
  | n + 1, d => d.prev.bind (minusDays n)

/-- Within a month it is the day before, else it is in an earlier month. -/
theorem prev_cases {d e : Date} (h : d.prev = some e) :
    (1 < d.day ∧ e.SameMonth d ∧ e.day + 1 = d.day) ∨
      (d.day = 1 ∧ e.year * 12 + e.month < d.year * 12 + d.month) := by
  unfold prev at h
  have hday := d.day_valid
  have hmonth := d.month_valid
  split_ifs at h with h₁ h₂ h₃ <;> cases h
  · exact .inl ⟨h₁, ⟨rfl, rfl⟩, Nat.sub_add_cancel hday.1⟩
  · refine .inr ⟨by omega, ?_⟩
    dsimp only
    omega
  · refine .inr ⟨by omega, ?_⟩
    dsimp only
    omega

theorem prev_le {d e : Date} (h : d.prev = some e) : e ≤ d := by
  have hd := d.month_valid
  have he := e.month_valid
  have he' := e.day_le
  have hday := d.day_valid
  rw [le_iff, number, number]
  rcases prev_cases h with ⟨-, ⟨hyear, hmonth⟩, hday⟩ | ⟨-, hlt⟩ <;> omega

theorem minusDays_le : ∀ {n : ℕ} {d e : Date}, d.minusDays n = some e → e ≤ d
  | 0, d, e, h => by
    cases h
    exact Nat.le_refl _
  | n + 1, d, e, h => by
    obtain ⟨d', hd', h⟩ := Option.bind_eq_some_iff.mp h
    exact Nat.le_trans (minusDays_le h) (prev_le hd')

/-- **So many days before a date**, not one of its month is left. -/
theorem minusDays_le_of_sameMonth : ∀ {n : ℕ} {d c : Date}, d.minusDays n = some c → d.day ≤ n + 1 →
    ∀ {e : Date}, e.SameMonth d → c ≤ e
  | 0, d, c, h, hday, e, he => by
    cases h
    have hpos := e.day_valid.1
    rw [le_iff, number, number, he.1, he.2]
    omega
  | n + 1, d, c, h, hday, e, he => by
    obtain ⟨d', hd', h⟩ := Option.bind_eq_some_iff.mp h
    rcases prev_cases hd' with ⟨-, hsame, hday'⟩ | ⟨-, hlt⟩
    · exact minusDays_le_of_sameMonth h (by omega) ⟨he.1.trans hsame.1.symm, he.2.trans hsame.2.symm⟩
    · have hle := minusDays_le h
      have hmonth := d'.month_valid
      have hmonth' := e.month_valid
      have hday' := d'.day_le
      obtain ⟨hyear, hmonth''⟩ := he
      have hlt' : d'.number ≤ e.number := by
        rw [number, number]
        omega
      exact Nat.le_trans hle hlt'

/-- What lies between two dates of a month is in this month. -/
theorem sameMonth_of_between {c d e : Date} (hce : c.SameMonth e) (hcd : c ≤ d) (hde : d ≤ e) :
    d.SameMonth e := by
  have hc := c.day_valid.1
  have hd := d.day_valid.1
  have hd' := d.day_le
  have he := e.day_le
  have hcm := c.month_valid
  have hdm := d.month_valid
  have hem := e.month_valid
  obtain ⟨hyear, hmonth⟩ := hce
  rw [le_iff, number, number] at hcd hde
  refine ⟨?_, ?_⟩ <;> omega

/-! ### Days by their numbers -/

/-- The number of days in the months before a month. -/
def daysBeforeMonth (year : ℕ) : ℕ → ℕ
  | 0 => 0
  | month + 1 => daysBeforeMonth year month + if month = 0 then 0 else daysInMonth year month

/-- The number of days in the years before a year. -/
def daysBeforeYear : ℕ → ℕ
  | 0 => 0
  | year + 1 => daysBeforeYear year + if year = 0 then 0 else daysBeforeMonth year 13

/-- `date.toordinal`. -/
def toordinal (d : Date) : ℕ := daysBeforeYear d.year + daysBeforeMonth d.year d.month + d.day

section Numbers
variable {d e : Date}

theorem daysBeforeMonth_succ (year : ℕ) {month : ℕ} (h : 1 ≤ month) :
    daysBeforeMonth year (month + 1) = daysBeforeMonth year month + daysInMonth year month := by
  rw [daysBeforeMonth, if_neg (Nat.ne_of_gt h)]

theorem daysBeforeYear_succ {year : ℕ} (h : 1 ≤ year) :
    daysBeforeYear (year + 1) = daysBeforeYear year + daysBeforeMonth year 13 := by
  rw [daysBeforeYear, if_neg (Nat.ne_of_gt h)]

theorem daysBeforeMonth_mono (year : ℕ) : Monotone (daysBeforeMonth year) :=
  monotone_nat_of_le_succ fun _ => Nat.le_add_right ..

theorem daysBeforeYear_mono : Monotone daysBeforeYear :=
  monotone_nat_of_le_succ fun _ => Nat.le_add_right ..

/-- **The day before has the number before.** -/
theorem toordinal_prev (h : d.prev = some e) : e.toordinal + 1 = d.toordinal := by
  have hmonth := d.month_valid
  have hday := d.day_valid.1
  unfold prev at h
  split_ifs at h with h₁ h₂ h₃ <;> cases h
  · unfold toordinal
    dsimp only
    omega
  · have hsucc := daysBeforeMonth_succ d.year (Nat.le_sub_one_of_lt h₂)
    rw [Nat.sub_add_cancel hmonth.1] at hsucc
    unfold toordinal
    dsimp only
    omega
  · have hsucc := daysBeforeYear_succ (Nat.le_sub_one_of_lt h₃)
    have hdec : daysBeforeMonth (d.year - 1) 13 = daysBeforeMonth (d.year - 1) 12 + 31 := rfl
    have hjan : daysBeforeMonth d.year d.month = 0 := by
      have hone : d.month = 1 := by omega
      rw [hone]
      rfl
    rw [Nat.sub_add_cancel (Nat.le_of_lt h₃)] at hsucc
    unfold toordinal
    dsimp only
    omega

theorem toordinal_of_prev_eq_none (h : d.prev = none) : d.toordinal = 1 := by
  have hyear := d.year_valid
  have hmonth := d.month_valid
  have hday := d.day_valid.1
  unfold prev at h
  split_ifs at h with h₁ h₂ h₃
  have h₁' : d.day = 1 := by omega
  have h₂' : d.month = 1 := by omega
  have h₃' : d.year = 1 := by omega
  rw [toordinal, h₁', h₂', h₃']
  rfl

theorem toordinal_minusDays : ∀ {n : ℕ} {d c : Date}, d.minusDays n = some c →
    c.toordinal + n = d.toordinal
  | 0, d, c, h => by
    cases h
    rfl
  | n + 1, d, c, h => by
    obtain ⟨d', hd', h⟩ := Option.bind_eq_some_iff.mp h
    have hprev := toordinal_prev hd'
    have ih := toordinal_minusDays h
    omega

theorem toordinal_of_minusDays_eq_none : ∀ {n : ℕ} {d : Date}, d.minusDays n = none →
    d.toordinal ≤ n
  | n + 1, d, h => by
    cases hd' : d.prev with
    | none =>
      rw [toordinal_of_prev_eq_none hd']
      exact Nat.succ_le_succ (Nat.zero_le n)
    | some d' =>
      rw [minusDays, hd', Option.bind_some] at h
      have hprev := toordinal_prev hd'
      have ih := toordinal_of_minusDays_eq_none h
      omega

/-- A day of a year is at most the last one. -/
theorem toordinal_le (d : Date) : d.toordinal ≤ daysBeforeYear (d.year + 1) := by
  have hsucc := daysBeforeMonth_succ d.year d.month_valid.1
  have hmono : daysBeforeMonth d.year (d.month + 1) ≤ daysBeforeMonth d.year 13 :=
    daysBeforeMonth_mono _ (Nat.succ_le_succ d.month_valid.2)
  have hday := d.day_valid.2
  rw [daysBeforeYear_succ d.year_valid.1, toordinal]
  omega

theorem toordinal_lt (h : d.number < e.number) : d.toordinal < e.toordinal := by
  have hday := d.day_valid
  have hday' := e.day_valid
  rcases Nat.lt_trichotomy d.year e.year with hyear | hyear | hyear
  · have hle := toordinal_le d
    have hmono : daysBeforeYear (d.year + 1) ≤ daysBeforeYear e.year := daysBeforeYear_mono hyear
    have hpos : e.toordinal = daysBeforeYear e.year + daysBeforeMonth e.year e.month + e.day := rfl
    omega
  · rcases Nat.lt_trichotomy d.month e.month with hmonth | hmonth | hmonth
    · have hsucc := daysBeforeMonth_succ d.year d.month_valid.1
      have hmono : daysBeforeMonth d.year (d.month + 1) ≤ daysBeforeMonth d.year e.month :=
        daysBeforeMonth_mono _ hmonth
      rw [toordinal, toordinal, ← hyear]
      omega
    · rw [number, number, hyear, hmonth] at h
      rw [toordinal, toordinal, hyear, hmonth]
      omega
    · have he := e.day_le
      rw [number, number] at h
      omega
  · have he := e.day_le
    have hm := e.month_valid
    rw [number, number] at h
    omega

/-- **Dates are ordered like their numbers.** -/
theorem toordinal_lt_iff : d.toordinal < e.toordinal ↔ d.number < e.number := by
  refine ⟨fun h => ?_, toordinal_lt⟩
  rcases Nat.lt_trichotomy d.number e.number with hlt | heq | hlt
  · exact hlt
  · rw [number_inj heq] at h
    exact absurd h (Nat.lt_irrefl _)
  · exact absurd h (Nat.lt_asymm (toordinal_lt hlt))

theorem toordinal_inj (h : d.toordinal = e.toordinal) : d = e := by
  rcases Nat.lt_trichotomy d.number e.number with hlt | heq | hlt
  · exact absurd h (Nat.ne_of_lt (toordinal_lt hlt))
  · exact number_inj heq
  · exact absurd h.symm (Nat.ne_of_lt (toordinal_lt hlt))

end Numbers

/-! ### ISO texts -/

/-- `date.isoformat`. -/
def isoformat (d : Date) : List Char :=
  pad 4 d.year ++ '-' :: (pad 2 d.month ++ '-' :: pad 2 d.day)

/-- `d.isoformat()[:8]`, which is `YYYY-MM-`. -/
def monthPrefix (d : Date) : List Char := d.isoformat.take 8

section Iso
variable {d e : Date}

theorem digits_lt (d : Date) : d.year < 10 ^ 4 ∧ d.month < 10 ^ 2 ∧ d.day < 10 ^ 2 := by
  have hyear := d.year_valid
  have hmonth := d.month_valid
  have hday := d.day_le
  exact ⟨by omega, by omega, by omega⟩

/-- **ISO texts are ordered like their dates.** -/
theorem isoformat_lt_iff : d.isoformat < e.isoformat ↔ d.number < e.number := by
  obtain ⟨hyd, hmd, hdd⟩ := d.digits_lt
  obtain ⟨hye, hme, hde⟩ := e.digits_lt
  have hyear : pad 4 d.year = pad 4 e.year ↔ d.year = e.year := ⟨pad_inj hyd hye, congrArg _⟩
  have hmonth : pad 2 d.month = pad 2 e.month ↔ d.month = e.month := ⟨pad_inj hmd hme, congrArg _⟩
  have hdash : ¬ '-' < '-' := by decide
  have hlen : ∀ width a b, (pad width a).length = (pad width b).length := fun width a b => by
    rw [length_pad, length_pad]
  unfold isoformat
  rw [append_lt_append_iff (hlen ..), List.cons_lt_cons_iff, append_lt_append_iff (hlen ..),
    List.cons_lt_cons_iff, pad_lt_iff hyd hye, pad_lt_iff hmd hme, pad_lt_iff hdd hde, hyear, hmonth]
  simp only [hdash, false_or, true_and]
  unfold number
  omega

theorem isoformat_inj (h : d.isoformat = e.isoformat) : d = e := by
  refine number_inj (Nat.le_antisymm ?_ ?_)
  · exact not_lt.mp fun hlt => List.lt_irrefl _ (h ▸ isoformat_lt_iff.mpr hlt)
  · exact not_lt.mp fun hlt => List.lt_irrefl _ (h ▸ isoformat_lt_iff.mpr hlt)

theorem monthPrefix_eq (d : Date) :
    d.monthPrefix = pad 4 d.year ++ '-' :: (pad 2 d.month ++ ['-']) := rfl

/-- **A text starts with the prefix of a date exactly if it is of its month.** -/
theorem monthPrefix_isPrefixOf_iff :
    e.monthPrefix.isPrefixOf d.isoformat = true ↔ d.SameMonth e := by
  obtain ⟨hyd, hmd, hdd⟩ := d.digits_lt
  obtain ⟨hye, hme, hde⟩ := e.digits_lt
  rw [List.isPrefixOf_iff_prefix]
  constructor
  · intro h
    have htake : e.monthPrefix = d.monthPrefix := List.prefix_iff_eq_take.mp h
    rw [monthPrefix_eq, monthPrefix_eq] at htake
    obtain ⟨hyear, hrest⟩ := List.append_inj htake (by rw [length_pad, length_pad])
    obtain ⟨hmonth, -⟩ := List.append_inj (List.cons.inj hrest).2 (by rw [length_pad, length_pad])
    exact ⟨(pad_inj hye hyd hyear).symm, (pad_inj hme hmd hmonth).symm⟩
  · rintro ⟨hyear, hmonth⟩
    rw [monthPrefix_eq, ← hyear, ← hmonth, ← monthPrefix_eq]
    exact List.take_prefix _ _

end Iso

end Date

end TTLockConnect.Usage.Calendar
